import ShadowNet.Go.Run
import ShadowNet.Mesh.Crypto

/-! # Offers in a network

Any parties encrypt, forward and decrypt in any order, and whoever carries the messages may lose,
repeat, reorder and change them. As long as what opens has been sealed by one of the parties, an
offer that is decrypted descends by forwards from one that was encrypted: its time and its
configuration are those of the origin, and its hop count tells how often it was forwarded.
-/

namespace ShadowNet.Mesh

open Go Go.Json

/-- What a call of `EncryptOffer` seals. -/
structure Sealing (box : Box) where
  sender : Crypto box
  recipientPub : BoxKey
  nonce : BoxNonce
  offer : ProxyOffer

def Sealing.sharedKey {box : Box} (sealing : Sealing box) : BoxKey :=
  box.precompute sealing.recipientPub sealing.sender.privKey

/-- A call that has succeeded. -/
inductive MeshEvent (box : Box)
  | encrypted (sealing : Sealing box)
  | forwarded (received : ProxyOffer) (sealing : Sealing box)
  | decrypted (c : Crypto box) (offer : ProxyOffer)

inductive MeshCall (box : Box)
  | encryptOffer (c : Crypto box) (offer : ProxyOffer) (recipientPub : BoxKey)
      (nonce : Except Message BoxNonce)
  | forwardMessage (c : Crypto box) (msg : MeshMessage) (nextHopPub : BoxKey)
      (nonce : Except Message BoxNonce)
  | decryptOffer (c : Crypto box) (msg : MeshMessage)

variable {box : Box}

def MeshEvent.sealing? : MeshEvent box → Option (Sealing box)
  | .encrypted sealing => some sealing
  | .forwarded _ sealing => some sealing
  | .decrypted _ _ => none

/-- The events after a call; the message that it is given is any. -/
def meshStep (history : List (MeshEvent box)) : MeshCall box → List (MeshEvent box)
  | .encryptOffer c offer recipientPub nonce =>
      match c.encryptOffer offer recipientPub nonce with
      | .ok msg => .encrypted ⟨c, recipientPub, msg.nonce, offer⟩ :: history
      | .error _ => history
  | .forwardMessage c msg nextHopPub nonce =>
      match c.decryptOffer msg, c.forwardMessage msg nextHopPub nonce with
      | .ok offer, .ok next =>
          .forwarded offer ⟨c, nextHopPub, next.nonce,
            { offer with hopCount := offer.hopCount + 1 }⟩ :: history
      | _, _ => history
  | .decryptOffer c msg =>
      match c.decryptOffer msg with
      | .ok offer => .decrypted c offer :: history
      | .error _ => history

def MeshStep (history : List (MeshEvent box)) (call : MeshCall box)
    (next : List (MeshEvent box)) : Prop :=
  next = meshStep history call

/-- The boxes that a call opens. -/
def MeshCall.opens : MeshCall box → BoxKey → BoxNonce → Bytes → Prop
  | .encryptOffer _ _ _ _, _, _, _ => False
  | .forwardMessage c msg _ _, key, nonce, plaintext | .decryptOffer c msg, key, nonce, plaintext =>
      key = box.precompute msg.senderPub c.privKey ∧ nonce = msg.nonce ∧
        box.openAfter key nonce msg.ciphertext = some plaintext

/-- What a call opens, a party has sealed under the same key and nonce. -/
def Authentic (history : List (MeshEvent box)) (call : MeshCall box)
    (_next : List (MeshEvent box)) : Prop :=
  ∀ key nonce plaintext, call.opens key nonce plaintext →
    ∃ event ∈ history, ∃ sealing, event.sealing? = some sealing ∧ sealing.sharedKey = key ∧
      sealing.nonce = nonce ∧ marshal ProxyOffer.codec sealing.offer = plaintext

/-- The offer comes from one that was encrypted, by these forwards. -/
inductive Descends (history : List (MeshEvent box)) (origin : ProxyOffer) :
    List (Crypto box) → ProxyOffer → Prop
  | encrypted {sealing : Sealing box} (sent : .encrypted sealing ∈ history)
      (own : sealing.offer = origin) : Descends history origin [] origin
  | forwarded {path : List (Crypto box)} {offer : ProxyOffer} {sealing : Sealing box}
      (before : Descends history origin path offer)
      (sent : .forwarded offer.reloaded sealing ∈ history)
      (counted : sealing.offer =
        { offer.reloaded with hopCount := offer.reloaded.hopCount + 1 }) :
      Descends history origin (path ++ [sealing.sender]) sealing.offer

variable {history next : List (MeshEvent box)} {origin offer : ProxyOffer}
  {path : List (Crypto box)}

theorem Descends.mono {later : List (MeshEvent box)} (descends : Descends history origin path offer)
    (kept : history ⊆ later) : Descends later origin path offer := by
  induction descends with
  | encrypted sent own => exact .encrypted (kept sent) own
  | forwarded _ sent counted ih => exact .forwarded ih (kept sent) counted

/-- What descends from an offer is read as that offer after as many forwards. -/
theorem Descends.reloaded_eq (descends : Descends history origin path offer) :
    offer.reloaded = origin.relayed path.length := by
  induction descends with
  | encrypted => rw [List.length_nil, relayed_zero]
  | forwarded _ _ counted ih =>
    rw [counted, ih, relayed_succ, List.length_append, List.length_singleton]

/-- The offer is read from one that descends from an encrypted one. -/
def ReadFrom (history : List (MeshEvent box)) (offer : ProxyOffer) : Prop :=
  ∃ origin path sent, Descends history origin path sent ∧ offer = sent.reloaded

/-- Everything sealed and everything read has an origin. -/
structure Traced (history : List (MeshEvent box)) : Prop where
  sealings : ∀ event ∈ history, ∀ sealing, event.sealing? = some sealing →
    ∃ origin path, Descends history origin path sealing.offer
  offers : ∀ c offer, .decrypted c offer ∈ history → ReadFrom history offer

theorem ReadFrom.mono {later : List (MeshEvent box)} (read : ReadFrom history offer)
    (kept : history ⊆ later) : ReadFrom later offer := by
  obtain ⟨origin, path, sent, descends, same⟩ := read
  exact ⟨origin, path, sent, descends.mono kept, same⟩

theorem Traced.cons {event : MeshEvent box} (traced : Traced history)
    (sealing : ∀ sealing, event.sealing? = some sealing →
      ∃ origin path, Descends (event :: history) origin path sealing.offer)
    (offer : ∀ c offer, event = .decrypted c offer → ReadFrom (event :: history) offer) :
    Traced (event :: history) := by
  have kept := List.subset_cons_self event history
  constructor
  · refine List.forall_mem_cons.mpr ⟨sealing, ?_⟩
    intro earlier member own same
    obtain ⟨origin, path, descends⟩ := traced.sealings earlier member own same
    exact ⟨origin, path, descends.mono kept⟩
  · intro c read member
    obtain same | inside := List.mem_cons.mp member
    · exact offer c read same.symm
    · exact (traced.offers c read inside).mono kept

/-- What a call reads from an authentic message has an origin. -/
theorem Traced.reads {call : MeshCall box} {c : Crypto box} {msg : MeshMessage}
    (traced : Traced history) (authentic : Authentic history call next)
    (opens : ∀ plaintext, box.boxOpen msg.ciphertext msg.nonce msg.senderPub c.privKey =
      some plaintext → call.opens (box.precompute msg.senderPub c.privKey) msg.nonce plaintext)
    (received : c.decryptOffer msg = .ok offer) : ReadFrom history offer := by
  obtain ⟨plaintext, opened, read⟩ := decryptOffer_eq_ok.mp received
  obtain ⟨event, member, sealing, own, -, -, same⟩ := authentic _ _ _ (opens plaintext opened)
  obtain ⟨origin, path, descends⟩ := traced.sealings event member sealing own
  rw [← same, unmarshal_marshal_offer] at read
  exact ⟨origin, path, sealing.offer, descends, (Option.some.inj read).symm⟩

/-- A call extends the trace of every offer that it puts into the network. -/
theorem traced_step {call : MeshCall box} (traced : Traced history)
    (authentic : Authentic history call next) : Traced (meshStep history call) := by
  cases call with
  | encryptOffer c offer recipientPub nonce =>
    dsimp only [meshStep]
    split
    · apply traced.cons
      · rintro sealing ⟨⟩
        exact ⟨offer, [], .encrypted (List.mem_cons_self ..) rfl⟩
      · rintro _ _ ⟨⟩
    · exact traced
  | forwardMessage c msg nextHopPub nonce =>
    dsimp only [meshStep]
    split
    · rename_i offer sent received ok
      obtain ⟨origin, path, before, descends, rfl⟩ :=
        traced.reads authentic (fun _ opened => ⟨rfl, rfl, opened⟩) received
      let sealing : Sealing box := ⟨c, nextHopPub, sent.nonce,
        { before.reloaded with hopCount := before.reloaded.hopCount + 1 }⟩
      have later : Descends (.forwarded before.reloaded sealing :: history) origin
          (path ++ [sealing.sender]) sealing.offer :=
        .forwarded (descends.mono (List.subset_cons_self ..)) (List.mem_cons_self ..) rfl
      apply traced.cons
      · rintro _ ⟨⟩
        exact ⟨origin, path ++ [c], later⟩
      · rintro _ _ ⟨⟩
    · exact traced
  | decryptOffer c msg =>
    dsimp only [meshStep]
    split
    · rename_i offer ok
      have read := traced.reads authentic (fun _ opened => ⟨rfl, rfl, opened⟩) ok
      apply traced.cons
      · rintro _ ⟨⟩
      · rintro _ _ ⟨⟩
        exact read.mono (List.subset_cons_self ..)
    · exact traced

/-- In a run in which every box that opens was sealed by a party, an offer that is decrypted was
encrypted by one, with the same time and configuration, and its hop count tells how many parties have
forwarded it since. -/
theorem decrypted_offers_descend (box : Box) {calls : List (MeshCall box)}
    {last : List (MeshEvent box)} (run : Run MeshStep [] calls last)
    (authentic : Always MeshStep Authentic [] calls) :
    ∀ c offer, MeshEvent.decrypted c offer ∈ last → ∃ origin path sent,
      Descends last origin path sent ∧ offer = sent.reloaded ∧
        offer = origin.relayed path.length := by
  have traced : Traced last := by
    refine authentic.invariant run ⟨List.forall_mem_nil _, fun _ _ member => ?_⟩ ?_
    · cases member
    · rintro history next call - traced rfl own
      exact traced_step traced own
  intro c offer member
  obtain ⟨origin, path, sent, descends, same⟩ := traced.offers c offer member
  exact ⟨origin, path, sent, descends, same, same.trans descends.reloaded_eq⟩

/-! ## A relayed offer -/

/-- What a party gets in a box that was sealed for it has been sealed. -/
theorem opened_authentic {sealing : Sealing box} {event : MeshEvent box} {recipient : Crypto box}
    (member : event ∈ history) (own : event.sealing? = some sealing)
    (addressed : sealing.recipientPub = recipient.pubKey) {plaintext : Bytes}
    (opened : box.boxOpen (box.boxSeal (marshal ProxyOffer.codec sealing.offer) sealing.nonce
      sealing.recipientPub sealing.sender.privKey) sealing.nonce sealing.sender.pubKey
      recipient.privKey = some plaintext) :
    ∃ event ∈ history, ∃ sent, event.sealing? = some sent ∧
      sent.sharedKey = box.precompute sealing.sender.pubKey recipient.privKey ∧
      sent.nonce = sealing.nonce ∧ marshal ProxyOffer.codec sent.offer = plaintext := by
  refine ⟨event, member, sealing, own, ?_, rfl, ?_⟩
  · rw [Sealing.sharedKey, addressed, recipient.paired, sealing.sender.paired, box.shares]
  · rw [addressed, recipient.paired, sealing.sender.paired, box.boxOpen_boxSeal] at opened
    exact Option.some.inj opened

/-- Boxes that hide nothing. -/
def clearBox : Box where
  publicKey := id
  precompute one other :=
    ⟨List.zipWith (· + ·) one.val other.val, by simp [one.property, other.property]⟩
  sealAfter _ _ plaintext := plaintext
  openAfter _ _ ciphertext := some ciphertext
  shares one other := Subtype.ext (List.zipWith_comm_of_comm UInt8.add_comm)
  opens _ _ _ := rfl

def clearParty (digit : UInt8) : Crypto clearBox :=
  ⟨⟨List.replicate 32 digit, by simp⟩, ⟨List.replicate 32 digit, by simp⟩, rfl⟩

def clearNonce : BoxNonce := ⟨List.replicate 24 0, by simp⟩

def relayedOffer : ProxyOffer := ⟨1500, lit "cfg", 1⟩

def firstSealing : Sealing clearBox :=
  ⟨clearParty 1, (clearParty 2).pubKey, clearNonce, relayedOffer⟩

def firstMessage : MeshMessage :=
  ⟨clearNonce, marshal ProxyOffer.codec relayedOffer, (clearParty 1).pubKey⟩

def secondSealing : Sealing clearBox :=
  ⟨clearParty 2, (clearParty 3).pubKey, clearNonce, ⟨1500, lit "cfg", 2⟩⟩

def secondMessage : MeshMessage :=
  ⟨clearNonce, marshal ProxyOffer.codec ⟨1500, lit "cfg", 2⟩, (clearParty 2).pubKey⟩

/-- One party encrypts an offer, a second one forwards it, and a third one decrypts it. -/
def relayedCalls : List (MeshCall clearBox) :=
  [.encryptOffer (clearParty 1) relayedOffer (clearParty 2).pubKey (.ok clearNonce),
    .forwardMessage (clearParty 2) firstMessage (clearParty 3).pubKey (.ok clearNonce),
    .decryptOffer (clearParty 3) secondMessage]

def relayedHistory : List (MeshEvent clearBox) :=
  [.decrypted (clearParty 3) ⟨1500, lit "cfg", 2⟩, .forwarded relayedOffer secondSealing,
    .encrypted firstSealing]

theorem firstMessage_encrypted : (clearParty 1).encryptOffer relayedOffer (clearParty 2).pubKey
    (.ok clearNonce) = .ok firstMessage := rfl

theorem firstMessage_received : (clearParty 2).decryptOffer firstMessage = .ok relayedOffer :=
  decryptOffer_encryptOffer firstMessage_encrypted

theorem secondMessage_encrypted : (clearParty 2).encryptOffer ⟨1500, lit "cfg", 2⟩
    (clearParty 3).pubKey (.ok clearNonce) = .ok secondMessage := rfl

theorem secondMessage_forwarded : (clearParty 2).forwardMessage firstMessage (clearParty 3).pubKey
    (.ok clearNonce) = .ok secondMessage :=
  forwardMessage_eq_ok.mpr ⟨relayedOffer, firstMessage_received, secondMessage_encrypted⟩

theorem secondMessage_received : (clearParty 3).decryptOffer secondMessage =
    .ok ⟨1500, lit "cfg", 2⟩ :=
  decryptOffer_encryptOffer secondMessage_encrypted

/-- An offer that is relayed twice. -/
theorem relayedOffers_descend : ∃ origin path sent, Descends relayedHistory origin path sent ∧
    (⟨1500, lit "cfg", 2⟩ : ProxyOffer) = sent.reloaded ∧
      (⟨1500, lit "cfg", 2⟩ : ProxyOffer) = origin.relayed path.length := by
  have second : meshStep [.encrypted firstSealing]
      (.forwardMessage (clearParty 2) firstMessage (clearParty 3).pubKey (.ok clearNonce)) =
        [.forwarded relayedOffer secondSealing, .encrypted firstSealing] := by
    simp only [meshStep, firstMessage_received, secondMessage_forwarded]
    rfl
  have third : meshStep [.forwarded relayedOffer secondSealing, .encrypted firstSealing]
      (.decryptOffer (clearParty 3) secondMessage) = relayedHistory := by
    simp only [meshStep, secondMessage_received]
    rfl
  have run : Run MeshStep [] relayedCalls relayedHistory :=
    .cons rfl <| .cons second.symm <| .cons third.symm (.nil _)
  apply decrypted_offers_descend clearBox run _ (clearParty 3) _ (List.mem_cons_self ..)
  rintro _ rfl
  refine ⟨fun _ _ _ opened => opened.elim, ?_⟩
  rintro _ rfl
  constructor
  · rintro _ _ plaintext ⟨rfl, rfl, opened⟩
    exact @opened_authentic clearBox _ firstSealing _ (clearParty 2) (List.mem_singleton_self _) rfl
      rfl plaintext opened
  change Always _ _ (meshStep [.encrypted firstSealing] _) _
  rw [second]
  rintro _ rfl
  refine ⟨?_, trivial⟩
  rintro _ _ plaintext ⟨rfl, rfl, opened⟩
  exact @opened_authentic clearBox _ secondSealing _ (clearParty 3) (List.mem_cons_self ..) rfl rfl
    plaintext opened

end ShadowNet.Mesh
