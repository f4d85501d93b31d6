import ShadowNet.Bundle.VerifySound
import ShadowNet.Go.Loop

/-! # Importing bundles under several trusted keys

`Importer.ParseBytes` tries the trusted keys in turn and goes on only after an invalid signature. A
key whose id is not the publisher's makes the verifier fail before it looks at the signature, so
such a key ends the search.
-/

namespace ShadowNet

open Go Go.Json

/-- The errors of the importer; `invalid` wraps an error of `VerifyBundle`. -/
inductive ImportFailure where
  | message (message : Message)
  | invalid (failure : VerifyFailure)
deriving DecidableEq, Repr

/-- The state of an `Importer`, without its stores. -/
structure Importer (suite : Suite) where
  trustedPubKeys : List PublicKey
  trustedKeyIDs : List GoString
  seenBundleIDs : List GoString
  ageIdentity : Option suite.Identity

variable (suite : Suite)

def newImporter (trustedKeys : List PublicKey) (ageIdentity : Option suite.Identity) :
    Importer suite where
  trustedPubKeys := trustedKeys
  trustedKeyIDs := trustedKeys.map (ed25519KeyID suite)
  seenBundleIDs := []
  ageIdentity

/-- What `ParseBytes` returns, with the importer after the call. -/
abbrev Parsed := Importer suite × Except ImportFailure BundlePayload

def invalidBundle (text : String) : Except ImportFailure BundlePayload := .error (.message ⟨text, []⟩)

variable {suite}

/-- The options of every `VerifyBundle` call of an importer. -/
def Importer.options (importer : Importer suite) : VerifyOptions suite :=
  { nowUnix := 0, ageIdentity := importer.ageIdentity, requireDecrypt := true }

/-- The part of the loop body after `VerifyBundle` has returned without an error. -/
def Importer.accept (importer : Importer suite) (res : Option VerifyResult) : Parsed suite :=
  match res with
  | some ⟨header, _, _, some payload⟩ =>
      if header.bundleID ∈ importer.seenBundleIDs then
        (importer, invalidBundle "bundle invalid: replay detected")
      else
        let importer := { importer with seenBundleIDs := header.bundleID :: importer.seenBundleIDs }
        if header.publisherKeyID ∈ importer.trustedKeyIDs then (importer, .ok payload)
        else (importer, invalidBundle "bundle invalid: unknown signer")
  | _ => (importer, invalidBundle "bundle invalid: missing payload")

/-- One round of the loop over the keys, with `verifyErr` and `sawSignatureMismatch` as its state. -/
def Importer.tryKey (importer : Importer suite) (engine : TextTemplate.Engine Profile)
    (bundleBytes : Bytes) (clock : Int64) (_state : Option VerifyFailure × Bool)
    (pubKey : PublicKey) : Except (Parsed suite) (Option VerifyFailure × Bool) :=
  match verifyBundle suite engine bundleBytes pubKey importer.options clock with
  | (res, none) => .error (importer.accept res)
  | (_, some .invalidSignature) => .ok (some .invalidSignature, true)
  | (_, some failure) => .error (importer, .error (.invalid failure))

/-- `ParseBytes`, with the time that each verification reads. -/
def Importer.parseBytes (importer : Importer suite) (engine : TextTemplate.Engine Profile)
    (bundleBytes : Bytes) (clock : Int64) : Parsed suite :=
  if importer.trustedPubKeys = [] then
    (importer, invalidBundle "bundle invalid: no trusted signer keys configured")
  else
    match importer.trustedPubKeys.foldlM (importer.tryKey engine bundleBytes clock) (none, false) with
    | .error parsed => parsed
    | .ok (_, true) => (importer, invalidBundle "bundle invalid: signature mismatch")
    | .ok (some failure, false) => (importer, .error (.invalid failure))
    | .ok (none, false) => (importer, invalidBundle "bundle invalid: signature mismatch")

/-- `ParseURI`. -/
def Importer.parseURI (importer : Importer suite) (engine : TextTemplate.Engine Profile)
    (uri : GoString) (clock : Int64) : Parsed suite :=
  if hasPrefix uri (lit "snb://v2:") then
    match Base64.decode (uri.drop 9) with
    | some bundleBytes => importer.parseBytes engine bundleBytes clock
    | none => (importer, .error (.message ⟨"failed to decode bundle base64: %w", [.foreign]⟩))
  else (importer, invalidBundle "invalid scheme or version (expected snb://v2:)")

/-- `ImportFile`, with what reading the file returns. -/
def Importer.importFile (importer : Importer suite) (engine : TextTemplate.Engine Profile)
    (file : Option Bytes) (clock : Int64) : Parsed suite :=
  match file with
  | none => (importer, .error (.message ⟨"%w", [.foreign]⟩))
  | some raw =>
      let text := trimSpace raw
      if hasPrefix text (lit "snb://v2:") then importer.parseURI engine text clock
      else importer.parseBytes engine raw clock

/-! ## How other keys fail -/

-- Comparing two calls of the verifier must not unfold it.
attribute [local irreducible] verifyBundle verifiedPayload ed25519KeyID

section

variable {engine : TextTemplate.Engine Profile} {bundleBytes : Bytes} {trustedSigner : PublicKey}
  {opts : VerifyOptions suite} {clock : Int64} {wrapper : Wrapper}
  {ciphertext signature text : Bytes} {decoded : BundlePayload}

/-- A key with another id than the publisher's fails in the checks of the header. -/
theorem verifyBundle_other_id {key : PublicKey}
    (accepted : Accepted suite engine bundleBytes trustedSigner opts.ageIdentity (opts.now clock)
      wrapper ciphertext signature text decoded)
    (other : ed25519KeyID suite key ≠ ed25519KeyID suite trustedSigner) :
    ∃ issues, (verifyBundle suite engine bundleBytes key opts clock).2 = some (.issues issues) := by
  cases found : headerIssues wrapper.header (ed25519KeyID suite key) (opts.now clock)
    (Base64.decode wrapper.ciphertext) (Base64.decode wrapper.header.signature) with
  | nil =>
    refine absurd ?_ other
    rw [← accepted.header.publisher.2, (headerIssues_eq_nil.mp found).1.publisher.2]
  | cons first rest =>
    exact ⟨first :: rest, by simp only [verifyBundle, verifyWrapper, accepted.parses, found]⟩

/-- A key with the publisher's id accepts the bundle too, or finds the signature invalid. -/
theorem verifyBundle_same_id {key : PublicKey}
    (accepted : Accepted suite engine bundleBytes trustedSigner opts.ageIdentity (opts.now clock)
      wrapper ciphertext signature text decoded)
    (same : ed25519KeyID suite key = ed25519KeyID suite trustedSigner) :
    verifiedPayload suite engine bundleBytes key opts clock = some decoded.sortTags ∨
      (verifyBundle suite engine bundleBytes key opts clock).2 = some .invalidSignature := by
  have header : HeaderOk wrapper.header (ed25519KeyID suite key) (opts.now clock) :=
    same ▸ accepted.header
  by_cases verifies : suite.verify key (signedBytes wrapper.header ciphertext) signature = true
  · exact .inl ((verifiedPayload_eq_some suite).mpr ⟨wrapper, ciphertext, signature, text, decoded,
      { accepted with header, signed := { accepted.signed with verifies } }, rfl⟩)
  · right
    have clean : headerIssues wrapper.header (ed25519KeyID suite key) (opts.now clock)
        (some ciphertext) (some signature) = [] := headerIssues_eq_nil.mpr ⟨header, rfl, rfl⟩
    simp only [verifyBundle, verifyWrapper, accepted.parses, accepted.signed.decodes,
      accepted.signed.carries, clean, Option.getD_some, if_neg verifies]

private theorem verified_cases {payload : BundlePayload}
    (verified : verifiedPayload suite engine bundleBytes trustedSigner opts clock = some payload)
    (key : PublicKey) :
    ed25519KeyID suite key ≠ ed25519KeyID suite trustedSigner ∧
        (∃ issues, (verifyBundle suite engine bundleBytes key opts clock).2 = some (.issues issues)) ∨
      ed25519KeyID suite key = ed25519KeyID suite trustedSigner ∧
        (verifiedPayload suite engine bundleBytes key opts clock = some payload ∨
          (verifyBundle suite engine bundleBytes key opts clock).2 = some .invalidSignature) := by
  obtain ⟨wrapper, ciphertext, signature, text, decoded, accepted, rfl⟩ :=
    (verifiedPayload_eq_some suite).mp verified
  by_cases same : ed25519KeyID suite key = ed25519KeyID suite trustedSigner
  · exact .inr ⟨same, verifyBundle_same_id accepted same⟩
  · exact .inl ⟨same, verifyBundle_other_id accepted same⟩

private theorem verifiedPayload_of_failure {failure : VerifyFailure}
    (failed : (verifyBundle suite engine bundleBytes trustedSigner opts clock).2 = some failure) :
    verifiedPayload suite engine bundleBytes trustedSigner opts clock = none := by
  unfold verifiedPayload
  split
  · rename_i res accepted
    rw [accepted] at failed
    cases failed
  · rfl

/-- All keys that accept a bundle have its publisher's id and read the same payload. -/
theorem verifiedPayload_agree {key : PublicKey} {payload other : BundlePayload}
    (verified : verifiedPayload suite engine bundleBytes trustedSigner opts clock = some payload)
    (again : verifiedPayload suite engine bundleBytes key opts clock = some other) :
    ed25519KeyID suite key = ed25519KeyID suite trustedSigner ∧ other = payload := by
  obtain ⟨-, issues, failed⟩ | ⟨same, accepted | failed⟩ := verified_cases verified key
  · rw [verifiedPayload_of_failure failed] at again
    cases again
  · exact ⟨same, Option.some.inj (again.symm.trans accepted)⟩
  · rw [verifiedPayload_of_failure failed] at again
    cases again

end

/-! ## The search -/

section

variable {importer : Importer suite} {engine : TextTemplate.Engine Profile} {bundleBytes : Bytes}
  {clock : Int64}

theorem tryKey_invalidSignature {key : PublicKey}
    (failed : (verifyBundle suite engine bundleBytes key importer.options clock).2 =
      some .invalidSignature) (state : Option VerifyFailure × Bool) :
    importer.tryKey engine bundleBytes clock state key = .ok (some .invalidSignature, true) := by
  unfold Importer.tryKey
  split <;> rename_i verified <;> rw [verified] at failed <;> simp_all

theorem tryKey_goes_on {key : PublicKey} {state next : Option VerifyFailure × Bool}
    (passed : importer.tryKey engine bundleBytes clock state key = .ok next) :
    (verifyBundle suite engine bundleBytes key importer.options clock).2 =
      some .invalidSignature := by
  unfold Importer.tryKey at passed
  split at passed <;> rename_i verified
  · cases passed
  · rw [verified]
  · cases passed

theorem tryKey_returns {key : PublicKey} {state : Option VerifyFailure × Bool}
    {after : Importer suite} {payload : BundlePayload}
    (returned : importer.tryKey engine bundleBytes clock state key = .error (after, .ok payload)) :
    verifiedPayload suite engine bundleBytes key importer.options clock = some payload := by
  unfold Importer.tryKey at returned
  split at returned <;> rename_i verified
  · unfold Importer.accept at returned
    split at returned
    · simp only [invalidBundle] at returned
      split_ifs at returned <;> cases returned
      rw [verifiedPayload, verified]
    · cases returned
  · cases returned
  · cases returned

/-- A fresh importer takes the payload from a trusted key that accepts the bundle. -/
theorem tryKey_accepts {keys : List PublicKey} {ageIdentity : Option suite.Identity}
    {key : PublicKey} {payload : BundlePayload} (trusted : key ∈ keys)
    (verified : verifiedPayload suite engine bundleBytes key
      (newImporter suite keys ageIdentity).options clock = some payload)
    (state : Option VerifyFailure × Bool) :
    ∃ after, (newImporter suite keys ageIdentity).tryKey engine bundleBytes clock state key =
      .error (after, .ok payload) := by
  obtain ⟨wrapper, ciphertext, signature, text, decoded, accepted, rfl⟩ :=
    (verifiedPayload_eq_some suite).mp verified
  obtain ⟨whole, -⟩ := (verifyBundle_eq_payload suite).mpr
    ⟨wrapper, ciphertext, signature, text, decoded, accepted, rfl, rfl⟩
  have known : wrapper.header.publisherKeyID ∈
      (newImporter suite keys ageIdentity).trustedKeyIDs := by
    rw [accepted.header.publisher.2]
    exact List.mem_map_of_mem trusted
  have fresh : wrapper.header.bundleID ∉ (newImporter suite keys ageIdentity).seenBundleIDs :=
    List.not_mem_nil
  rw [Importer.tryKey, whole]
  simp only [Importer.accept, if_neg fresh, if_pos known]
  exact ⟨_, rfl⟩

theorem parseBytes_eq_ok {after : Importer suite} {payload : BundlePayload} :
    importer.parseBytes engine bundleBytes clock = (after, .ok payload) ↔
      importer.trustedPubKeys.foldlM (importer.tryKey engine bundleBytes clock) (none, false) =
        .error (after, .ok payload) := by
  unfold Importer.parseBytes
  split_ifs with empty
  · rw [empty]
    exact iff_of_false (by simp [invalidBundle]) nofun
  · split <;> rename_i searched <;> simp [searched, invalidBundle]

theorem parseBytes_sound {payload : BundlePayload}
    (parsed : (importer.parseBytes engine bundleBytes clock).2 = .ok payload) :
    ∃ key ∈ importer.trustedPubKeys,
      verifiedPayload suite engine bundleBytes key importer.options clock = some payload := by
  obtain ⟨passed, key, rest, middle, split, -, left⟩ :=
    foldlM_eq_error.mp (parseBytes_eq_ok.mp (Prod.ext rfl parsed))
  exact ⟨key, split ▸ List.mem_append_right _ (List.mem_cons_self ..), tryKey_returns left⟩

end

section

variable {engine : TextTemplate.Engine Profile} {keys : List PublicKey}
  {ageIdentity : Option suite.Identity} {bundleBytes : Bytes} {clock : Int64} {key : PublicKey}
  {payload : BundlePayload}

/-- The keys tried before the first that accepts. -/
def triedKeys (suite : Suite) (engine : TextTemplate.Engine Profile) (keys : List PublicKey)
    (ageIdentity : Option suite.Identity) (bundleBytes : Bytes) (clock : Int64) : List PublicKey :=
  keys.takeWhile fun k =>
    (verifiedPayload suite engine bundleBytes k ⟨0, ageIdentity, true⟩ clock).isNone

theorem parseBytes_finds (member : key ∈ keys)
    (verified : verifiedPayload suite engine bundleBytes key ⟨0, ageIdentity, true⟩ clock =
      some payload)
    (ids : ∀ earlier ∈ triedKeys suite engine keys ageIdentity bundleBytes clock,
      ed25519KeyID suite earlier = ed25519KeyID suite key) :
    ((newImporter suite keys ageIdentity).parseBytes engine bundleBytes clock).2 = .ok payload := by
  obtain ⟨first, rest, split, accepts⟩ := takeWhile_first (fun k =>
    (verifiedPayload suite engine bundleBytes k ⟨0, ageIdentity, true⟩ clock).isNone) member
    (by rw [verified]; rfl)
  obtain ⟨other, again⟩ := Option.isSome_iff_exists.mp (Option.isNone_eq_false_iff.mp accepts)
  rw [(verifiedPayload_agree verified again).2] at again
  have passes (earlier : PublicKey) (before : earlier ∈ triedKeys suite engine keys ageIdentity bundleBytes clock)
      (state : Option VerifyFailure × Bool) :
      ∃ next, (newImporter suite keys ageIdentity).tryKey engine bundleBytes clock state earlier =
        .ok next := by
    have unaccepted := List.mem_takeWhile_imp before
    have unverified := Option.isNone_iff_eq_none.mp unaccepted
    obtain ⟨differ, -⟩ | ⟨-, accepted | failed⟩ := verified_cases verified earlier
    · exact absurd (ids earlier before) differ
    · rw [unverified] at accepted
      cases accepted
    · exact ⟨_, tryKey_invalidSignature failed state⟩
  obtain ⟨middle, through⟩ := foldlM_goes_on passes (none, false)
  obtain ⟨after, left⟩ := tryKey_accepts
    (split ▸ List.mem_append_right _ (List.mem_cons_self ..)) again middle
  have parsed : (newImporter suite keys ageIdentity).parseBytes engine bundleBytes clock =
      (after, .ok payload) := by
    have search : (newImporter suite keys ageIdentity).trustedPubKeys = _ := split
    rw [parseBytes_eq_ok, search]
    exact foldlM_leaves through left
  rw [parsed]

theorem triedKeys_ids
    (verified : verifiedPayload suite engine bundleBytes key ⟨0, ageIdentity, true⟩ clock =
      some payload)
    (parsed : ((newImporter suite keys ageIdentity).parseBytes engine bundleBytes clock).2 =
      .ok payload) :
    ∀ earlier ∈ triedKeys suite engine keys ageIdentity bundleBytes clock,
      ed25519KeyID suite earlier = ed25519KeyID suite key := by
  obtain ⟨passed, item, rest, middle, split, through, left⟩ :=
    foldlM_eq_error.mp (parseBytes_eq_ok.mp (Prod.ext rfl parsed))
  change keys = _ at split
  have invalid (earlier : PublicKey) (before : earlier ∈ passed) :
      (verifyBundle suite engine bundleBytes earlier ⟨0, ageIdentity, true⟩ clock).2 =
        some .invalidSignature := by
    obtain ⟨state, next, went⟩ := foldlM_passed through earlier before
    exact tryKey_goes_on went
  have accepts : verifiedPayload suite engine bundleBytes item ⟨0, ageIdentity, true⟩ clock = _ :=
    tryKey_returns left
  have first : triedKeys suite engine keys ageIdentity bundleBytes clock = passed := by
    rw [triedKeys, split, List.takeWhile_append_of_pos, List.takeWhile_cons_of_neg, List.append_nil]
    · simp [accepts]
    · exact fun earlier before =>
        Option.isNone_iff_eq_none.mpr (verifiedPayload_of_failure (invalid earlier before))
  intro earlier before
  rw [first] at before
  obtain ⟨-, issues, failed⟩ | ⟨same, -⟩ := verified_cases verified earlier
  · cases failed.symm.trans (invalid earlier before)
  · exact same

end

/-- `ParseBytes` finds what the trusted keys accept exactly when every key it tries before the first
that accepts has the publisher's id. -/
theorem parseBytes_complete_iff (suite : Suite) (engine : TextTemplate.Engine Profile)
    (keys : List PublicKey) (ageIdentity : Option suite.Identity) (bundleBytes : Bytes)
    (clock : Int64) :
    (∀ payload,
      ((newImporter suite keys ageIdentity).parseBytes engine bundleBytes clock).2 = .ok payload ↔
        ∃ key ∈ keys, verifiedPayload suite engine bundleBytes key ⟨0, ageIdentity, true⟩ clock =
          some payload) ↔
      ∀ key ∈ keys,
        (verifiedPayload suite engine bundleBytes key ⟨0, ageIdentity, true⟩ clock).isSome = true →
        ∀ earlier ∈ keys.takeWhile fun k =>
            (verifiedPayload suite engine bundleBytes k ⟨0, ageIdentity, true⟩ clock).isNone,
          ed25519KeyID suite earlier = ed25519KeyID suite key := by
  constructor
  · intro complete key member accepts
    obtain ⟨payload, verified⟩ := Option.isSome_iff_exists.mp accepts
    exact triedKeys_ids verified ((complete payload).mpr ⟨key, member, verified⟩)
  · intro ids payload
    constructor
    · exact parseBytes_sound
    · rintro ⟨key, member, verified⟩
      have accepts := Option.isSome_iff_exists.mpr ⟨payload, verified⟩
      exact parseBytes_finds member verified (ids key member accepts)

theorem recordedBundle_verified :
    verifiedPayload recordedCalls plainEngine recordedBundle recordedKey ⟨0, none, true⟩ 1500 =
      some recordedPayload.sortTags :=
  (verifiedPayload_eq_some recordedCalls).mpr ⟨_, _, _, _, _, recordedBundle_accepted, rfl⟩

/-- A trusted key of somebody else in front of the publisher's hides an acceptable bundle. -/
theorem parseBytes_key_order :
    ¬ ∀ payload,
      ((newImporter recordedCalls [otherKey, recordedKey] none).parseBytes plainEngine recordedBundle
          1500).2 = .ok payload ↔
        ∃ key ∈ [otherKey, recordedKey],
          verifiedPayload recordedCalls plainEngine recordedBundle key ⟨0, none, true⟩ 1500 =
            some payload := by
  intro complete
  let opts : VerifyOptions recordedCalls := ⟨0, none, true⟩
  have accepted : Accepted recordedCalls plainEngine recordedBundle recordedKey opts.ageIdentity
      (opts.now 1500) _ _ _ _ _ := recordedBundle_accepted
  have differ : ed25519KeyID recordedCalls otherKey ≠ ed25519KeyID recordedCalls recordedKey := by
    decide +kernel
  obtain ⟨issues, failed⟩ := verifyBundle_other_id accepted differ
  have rejected : verifiedPayload recordedCalls plainEngine recordedBundle otherKey ⟨0, none, true⟩
      1500 = none := verifiedPayload_of_failure failed
  have first : otherKey ∈ triedKeys recordedCalls plainEngine [otherKey, recordedKey] none recordedBundle 1500 := by
    simp [triedKeys, List.takeWhile_cons, rejected]
  have parsed := (complete recordedPayload.sortTags).mpr
    ⟨recordedKey, List.mem_cons_of_mem _ (List.mem_cons_self ..), recordedBundle_verified⟩
  exact differ (triedKeys_ids recordedBundle_verified parsed otherKey first)

end ShadowNet
