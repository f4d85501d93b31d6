import ShadowNet.Bundle.Verify
import ShadowNet.Go.Box
import ShadowNet.Go.Json.Reads

/-! # Offers in the mesh

`pkg/mesh` hands proxy offers from hop to hop. Each hop opens the box that it gets, counts itself in
the offer and seals the offer in a box for the next hop. What a box brings back is the offer as JSON
writes it.
-/

namespace ShadowNet.Mesh

open Go Go.Json

structure ProxyOffer where
  timestamp : Int64 := 0
  config : GoString := []
  hopCount : Int64 := 0
deriving DecidableEq

structure MeshMessage where
  nonce : BoxNonce
  ciphertext : Bytes
  senderPub : BoxKey

def ProxyOffer.fields : List (StructField ProxyOffer) :=
  [.of (lit "timestamp") (·.timestamp) (fun value offer => { offer with timestamp := value }) .int,
    .of (lit "config_base64") (·.config) (fun value offer => { offer with config := value }) .string,
    .of (lit "hop_count") (·.hopCount) (fun value offer => { offer with hopCount := value }) .int]

def ProxyOffer.codec : Codec ProxyOffer := .struct ProxyOffer.fields

def errDecrypt : Message := ⟨"mesh decrypt failed", []⟩

def errDecode : Message := ⟨"mesh payload decode failed", []⟩

/-- A key pair. -/
structure Crypto (box : Box) where
  privKey : BoxKey
  pubKey : BoxKey
  paired : pubKey = box.publicKey privKey

variable {box : Box}

/-- `EncryptOffer`, with the nonce that `rand.Read` draws. -/
def Crypto.encryptOffer (c : Crypto box) (offer : ProxyOffer) (recipientPub : BoxKey)
    (nonce : Except Message BoxNonce) : Except Message MeshMessage := do
  let plaintext := marshal ProxyOffer.codec offer
  let nonce ← nonce
  let ciphertext := box.boxSeal plaintext nonce recipientPub c.privKey
  return { nonce, ciphertext, senderPub := c.pubKey }

/-- `DecryptOffer`. -/
def Crypto.decryptOffer (c : Crypto box) (msg : MeshMessage) : Except Message ProxyOffer :=
  match box.boxOpen msg.ciphertext msg.nonce msg.senderPub c.privKey with
  | none => .error errDecrypt
  | some plaintext =>
      match unmarshal ProxyOffer.codec {} plaintext with
      | none => .error errDecode
      | some offer => .ok offer

/-- `ForwardMessage`. -/
def Crypto.forwardMessage (c : Crypto box) (msg : MeshMessage) (nextHopPub : BoxKey)
    (nonce : Except Message BoxNonce) : Except Message MeshMessage := do
  let offer ← c.decryptOffer msg
  let offer := { offer with hopCount := offer.hopCount + 1 }
  c.encryptOffer offer nextHopPub nonce

/-! ## What comes back -/

/-- The offer as it is read back. -/
def ProxyOffer.reloaded (offer : ProxyOffer) : ProxyOffer :=
  { offer with config := toValid offer.config }

/-- The offer after some forwards. -/
def ProxyOffer.relayed (offer : ProxyOffer) (hops : ℕ) : ProxyOffer :=
  { offer.reloaded with hopCount := offer.hopCount + Int64.ofNat hops }

theorem ProxyOffer.codec_reads (offer : ProxyOffer) :
    ProxyOffer.codec.Reads {} offer offer.reloaded :=
  reads_struct (by decide)
    (readsFields_of (by decide) (reads_int _ _) <|
      readsFields_of (by decide) (reads_string _ _) <|
      readsFields_of (by decide) (reads_int _ _) rfl)

theorem ProxyOffer.codec_numeric (offer : ProxyOffer) : (ProxyOffer.codec.encode offer).Numeric := by
  apply numeric_struct
  exact ⟨isNumber_itoa _, trivial, isNumber_itoa _⟩

theorem ProxyOffer.codec_depth (offer : ProxyOffer) : (ProxyOffer.codec.encode offer).depth ≤ 1 :=
  depth_struct ⟨Nat.zero_le _, Nat.zero_le _, Nat.zero_le _⟩

theorem unmarshal_marshal_offer (offer : ProxyOffer) :
    unmarshal ProxyOffer.codec {} (marshal ProxyOffer.codec offer) = some offer.reloaded :=
  unmarshal_reads offer.codec_reads offer.codec_numeric (offer.codec_depth.trans (by decide))

@[simp] theorem reloaded_reloaded (offer : ProxyOffer) :
    offer.reloaded.reloaded = offer.reloaded := by
  simp only [ProxyOffer.reloaded, toValid_toValid]

@[simp] theorem relayed_zero (offer : ProxyOffer) : offer.relayed 0 = offer.reloaded := by
  simp [ProxyOffer.relayed, ProxyOffer.reloaded]

/-- One more forward of what has been read back. -/
theorem relayed_succ (offer : ProxyOffer) (hops : ℕ) :
    ({ offer.relayed hops with hopCount := (offer.relayed hops).hopCount + 1 } :
      ProxyOffer).reloaded = offer.relayed (hops + 1) := by
  simp only [ProxyOffer.relayed, ProxyOffer.reloaded, toValid_toValid, Int64.ofNat_add,
    Int64.add_assoc]
  rfl

variable {c sender recipient : Crypto box} {offer : ProxyOffer} {msg : MeshMessage}

theorem encryptOffer_eq_ok {recipientPub : BoxKey} {nonce : Except Message BoxNonce} :
    c.encryptOffer offer recipientPub nonce = .ok msg ↔ ∃ drawn, nonce = .ok drawn ∧
      msg = ⟨drawn, box.boxSeal (marshal ProxyOffer.codec offer) drawn recipientPub c.privKey,
        c.pubKey⟩ := by
  unfold Crypto.encryptOffer
  rw [bind_eq_ok]
  refine exists_congr fun drawn => and_congr_right fun _ => ?_
  rw [pure_eq_ok, eq_comm]

/-- What opens is read from a plaintext. -/
theorem decryptOffer_eq_ok : c.decryptOffer msg = .ok offer ↔
    ∃ plaintext, box.boxOpen msg.ciphertext msg.nonce msg.senderPub c.privKey = some plaintext ∧
      unmarshal ProxyOffer.codec {} plaintext = some offer := by
  unfold Crypto.decryptOffer
  cases box.boxOpen msg.ciphertext msg.nonce msg.senderPub c.privKey with
  | none => simp
  | some plaintext => cases read : unmarshal ProxyOffer.codec {} plaintext <;> simp [read]

/-- The party that an offer is encrypted for gets it as JSON writes it. -/
theorem decryptOffer_encryptOffer {nonce : Except Message BoxNonce}
    (encrypted : sender.encryptOffer offer recipient.pubKey nonce = .ok msg) :
    recipient.decryptOffer msg = .ok offer.reloaded := by
  obtain ⟨drawn, -, rfl⟩ := encryptOffer_eq_ok.mp encrypted
  refine decryptOffer_eq_ok.mpr ⟨_, ?_, unmarshal_marshal_offer offer⟩
  rw [sender.paired, recipient.paired, box.boxOpen_boxSeal]

/-- Nothing in a box tells which of its two ends has sealed it. -/
theorem decryptOffer_reflected (one other : Crypto box) (msg : MeshMessage) :
    one.decryptOffer { msg with senderPub := other.pubKey } =
      other.decryptOffer { msg with senderPub := one.pubKey } := by
  simp only [Crypto.decryptOffer, one.paired, other.paired, box.boxOpen_reflected]

theorem forwardMessage_eq_ok {next : MeshMessage} {nextHopPub : BoxKey}
    {nonce : Except Message BoxNonce} :
    c.forwardMessage msg nextHopPub nonce = .ok next ↔ ∃ offer, c.decryptOffer msg = .ok offer ∧
      c.encryptOffer { offer with hopCount := offer.hopCount + 1 } nextHopPub nonce = .ok next := by
  unfold Crypto.forwardMessage
  exact bind_eq_ok

/-! ## Paths -/

/-- A message and the party that holds it. -/
structure Held (box : Box) where
  holder : Crypto box
  msg : MeshMessage

/-- The holder forwards its message to a next party. -/
def Held.forward (held : Held box) (hop : Crypto box × BoxNonce) : Except Message (Held box) := do
  let msg ← held.holder.forwardMessage held.msg hop.1.pubKey (.ok hop.2)
  return ⟨hop.1, msg⟩

theorem forward_reaches {held : Held box} {hops : ℕ} (hop : Crypto box × BoxNonce)
    (holds : held.holder.decryptOffer held.msg = .ok (offer.relayed hops)) :
    ∃ next, held.forward hop = .ok next ∧ next.holder = hop.1 ∧
      next.msg.senderPub = held.holder.pubKey ∧
      next.holder.decryptOffer next.msg = .ok (offer.relayed (hops + 1)) := by
  obtain ⟨nextHop, nonce⟩ := hop
  obtain ⟨sent, encrypted⟩ : ∃ sent, held.holder.encryptOffer
      { offer.relayed hops with hopCount := (offer.relayed hops).hopCount + 1 } nextHop.pubKey
        (.ok nonce) = .ok sent := ⟨_, encryptOffer_eq_ok.mpr ⟨nonce, rfl, rfl⟩⟩
  refine ⟨⟨nextHop, sent⟩, ?_, rfl, ?_, ?_⟩
  · exact bind_eq_ok.mpr ⟨sent, forwardMessage_eq_ok.mpr ⟨_, holds, encrypted⟩, rfl⟩
  · obtain ⟨drawn, -, rfl⟩ := encryptOffer_eq_ok.mp encrypted
    rfl
  · rw [decryptOffer_encryptOffer encrypted, relayed_succ]

theorem path_reaches {held : Held box} {hops : ℕ} (path : List (Crypto box × BoxNonce))
    (holds : held.holder.decryptOffer held.msg = .ok (offer.relayed hops)) :
    ∃ last, path.foldlM Held.forward held = .ok last ∧
      last.holder = (path.map (·.1)).getLastD held.holder ∧
      last.holder.decryptOffer last.msg = .ok (offer.relayed (hops + path.length)) := by
  induction path generalizing held hops with
  | nil => exact ⟨held, rfl, rfl, holds⟩
  | cons hop rest ih =>
    obtain ⟨next, forwarded, own, -, reads⟩ := forward_reaches hop holds
    obtain ⟨last, followed, holder, arrives⟩ := ih reads
    refine ⟨last, ?_, ?_, ?_⟩
    · rw [List.foldlM_cons, forwarded]
      exact followed
    · rw [holder, own, List.map_cons, List.getLastD_cons]
    · rw [arrives, List.length_cons, Nat.add_assoc, Nat.add_comm 1]

/-- Along any path an offer arrives as it was but for its hop count, which counts the forwards. -/
theorem offer_arrives (sender first : Crypto box) (offer : ProxyOffer) (nonce : BoxNonce)
    (path : List (Crypto box × BoxNonce)) :
    ∃ msg last, sender.encryptOffer offer first.pubKey (.ok nonce) = .ok msg ∧
      path.foldlM Held.forward ⟨first, msg⟩ = .ok last ∧
      last.holder = (path.map (·.1)).getLastD first ∧
      last.holder.decryptOffer last.msg = .ok (offer.relayed path.length) := by
  obtain ⟨msg, encrypted⟩ : ∃ msg, sender.encryptOffer offer first.pubKey (.ok nonce) = .ok msg :=
    ⟨_, encryptOffer_eq_ok.mpr ⟨nonce, rfl, rfl⟩⟩
  have start : first.decryptOffer msg = .ok (offer.relayed 0) := by
    rw [decryptOffer_encryptOffer encrypted, relayed_zero]
  have reached := @path_reaches box offer ⟨first, msg⟩ 0 path start
  rw [Nat.zero_add] at reached
  obtain ⟨last, followed, holder, arrives⟩ := reached
  exact ⟨msg, last, encrypted, followed, holder, arrives⟩

end ShadowNet.Mesh
