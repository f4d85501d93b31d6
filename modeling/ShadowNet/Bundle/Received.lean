import ShadowNet.Bundle.VerifySound

/-! # Payloads as they were received

The verifier compares a profile with its normalization after the call has sorted the tags of both,
and it reads the clock in several places. What it accepts as normalized and when it accepts a
bundle are conditions on the payload as it was decoded.
-/

namespace ShadowNet

open Go Go.Json

/-! ## Received profiles -/

/-- The profile is what normalizing it returns. -/
def NormalizedAsReceived (now : Int64) (p : Profile) : Prop :=
  ∃ np, (normalizeForWire p now).2 = .ok np ∧ np.deepEqual p

/-- The tags of the profile come sorted. -/
def SortedAsReceived (p : Profile) : Prop :=
  (p.capabilities.dpiResistanceTags.getD []).Pairwise (· ≤ ·)

/-- A profile that the verifier let through is as it should be if its tags came sorted. -/
theorem WireProfile.received_iff {header : BundleHeader} {now : Int64} {p : Profile}
    (wire : WireProfile header now p) : NormalizedAsReceived now p ↔ SortedAsReceived p := by
  obtain ⟨np, normalized, same⟩ := wire.normalized
  rw [SortedAsReceived, ← sortTags_eq_self]
  constructor
  · rintro ⟨other, again, received⟩
    cases normalized.symm.trans again
    have alike : p.sortTags.dropZeroSigns = p.dropZeroSigns := same.symm.trans received
    have capabilities : p.sortTags.capabilities = p.capabilities := congrArg (·.capabilities) alike
    change ({ p with capabilities := p.sortTags.capabilities } : Profile) = p
    rw [capabilities]
  · intro sorted
    rw [sorted] at same
    exact ⟨np, normalized, same⟩

/-- Where a payload raises no issue, its profiles are the normalizations of what was received
exactly if all tags came sorted. -/
theorem normalizedAsReceived_iff {engine : TextTemplate.Engine Profile} {payload : BundlePayload}
    {header : BundleHeader} {now : Int64}
    (accepted : (validatePayloadStrict engine payload header now).2 = []) :
    (∀ p ∈ payload.profiles.getD [], NormalizedAsReceived now p) ↔
      ∀ p ∈ payload.profiles.getD [], SortedAsReceived p := by
  have ok := validatePayloadStrict_issues.mp accepted
  exact forall₂_congr fun p member => (ok.profiles p member).received_iff

/-- The payload on record, with tags. -/
def taggedPayload (tags : List GoString) : BundlePayload :=
  { recordedPayload with
    profiles := recordedPayload.profiles.map (List.map fun p =>
      { p with capabilities := { p.capabilities with dpiResistanceTags := some tags } }) }

/-- A payload with two tags in order. -/
theorem taggedPayload_normalizedAsReceived :
    (∀ p ∈ (taggedPayload [lit "a", lit "b"]).profiles.getD [], NormalizedAsReceived 1500 p) ↔
      ∀ p ∈ (taggedPayload [lit "a", lit "b"]).profiles.getD [], SortedAsReceived p :=
  @normalizedAsReceived_iff plainEngine _ recordedHeader 1500 (by decide)

/-- Tags out of order raise no issue: the comparison finds them sorted. -/
theorem unsortedTags_accepted :
    (validatePayloadStrict plainEngine (taggedPayload [lit "b", lit "a"]) recordedHeader 1500).2 =
        [] ∧
      ¬ ∀ p ∈ (taggedPayload [lit "b", lit "a"]).profiles.getD [], NormalizedAsReceived 1500 p := by
  have accepted : (validatePayloadStrict plainEngine (taggedPayload [lit "b", lit "a"])
      recordedHeader 1500).2 = [] := by decide
  refine ⟨accepted, fun normalized => ?_⟩
  have wire := (validatePayloadStrict_issues.mp accepted).profiles _ (List.mem_cons_self ..)
  have sorted := wire.received_iff.mp (normalized _ (List.mem_cons_self ..))
  have fall : ¬ [lit "b", lit "a"].Pairwise (· ≤ ·) := by decide
  exact fall sorted

/-! ## The acceptance window -/

theorem orNow_of_ne {time now : Int64} (set : time ≠ 0) : orNow time now = time := if_neg set

theorem ne_zero_of_orNow {time now : Int64} (timed : now ≠ 0) (same : orNow time now = time) :
    time ≠ 0 := by
  rintro rfl
  exact timed (by rwa [orNow, if_pos rfl] at same)

/-- The times at which a header raises no issue form an interval. -/
theorem HeaderOk.between {header : BundleHeader} {expected : GoString} {first now last : Int64}
    (atFirst : HeaderOk header expected first) (after : first ≤ now) (before : now ≤ last)
    (atLast : HeaderOk header expected last) : HeaderOk header expected now :=
  { atFirst with
    notFuture := le_add_of_between atFirst.createdAt (by decide) atFirst.notFuture after before
      atLast.notFuture
    unexpired := Int64.le_trans before atLast.unexpired }

/-- A profile that the verifier lets through has its times set, so none of them is read off the
clock, and it is let through at any time until it expires. -/
theorem WireProfile.until {header : BundleHeader} {first now : Int64} {p : Profile}
    (timed : first ≠ 0) (atFirst : WireProfile header first p)
    (unexpired : p.expiresAt ≠ 0 → now < p.expiresAt) : WireProfile header now p := by
  obtain ⟨np, normalized, same⟩ := atFirst.normalized
  obtain ⟨family, known, shape, complete, rfl⟩ := normalizeForWire_eq_ok.mp normalized
  have created : p.createdAt ≠ 0 := ne_zero_of_orNow timed (congrArg (·.createdAt) same)
  have imported : p.source.importedAt ≠ 0 :=
    ne_zero_of_orNow timed (congrArg (·.source.importedAt) same)
  have timeless : (p.shaped family).sortTags.completed first =
      (p.shaped family).sortTags.completed now := by
    have keeps (time : Int64) : (p.shaped family).sortTags.completed time =
        { (p.shaped family).sortTags.completed first with
          createdAt := orNow p.createdAt time
          source := { (p.shaped family).source with
            source := trimSpace p.source.source
            importedAt := orNow p.source.importedAt time } } := rfl
    rw [keeps first, keeps now]
    simp only [orNow_of_ne created, orNow_of_ne imported]
  refine ⟨⟨_, normalizeForWire_eq_ok.mpr ⟨family, known, shape, ?_, timeless⟩, same⟩,
    atFirst.publisher, unexpired, atFirst.ordered⟩
  rw [← timeless]
  exact { complete with unexpired := unexpired }

theorem WireProfile.between {header : BundleHeader} {first now last : Int64} {p : Profile}
    (timed : first ≠ 0) (atFirst : WireProfile header first p) (before : now ≤ last)
    (atLast : WireProfile header last p) : WireProfile header now p :=
  atFirst.until timed fun expires => Int64.lt_of_le_of_lt before (atLast.unexpired expires)

theorem PayloadOk.between {engine : TextTemplate.Engine Profile} {header : BundleHeader}
    {payload : BundlePayload} {first now last : Int64} (timed : first ≠ 0)
    (atFirst : PayloadOk engine header first payload) (before : now ≤ last)
    (atLast : PayloadOk engine header last payload) : PayloadOk engine header now payload :=
  { atFirst with
    profiles := fun p member =>
      (atFirst.profiles p member).between timed before (atLast.profiles p member) }

section

variable (suite : Suite)

/-- What decodes from the bytes of a bundle does not depend on the time. -/
theorem Accepted.same {engine : TextTemplate.Engine Profile} {bundleBytes : Bytes}
    {trustedSigner : PublicKey} {ageIdentity : Option suite.Identity} {now later : Int64}
    {wrapper other : Wrapper} {ciphertext signature text ciphertext' signature' text' : Bytes}
    {decoded decoded' : BundlePayload}
    (accepted : Accepted suite engine bundleBytes trustedSigner ageIdentity now wrapper ciphertext
      signature text decoded)
    (again : Accepted suite engine bundleBytes trustedSigner ageIdentity later other ciphertext'
      signature' text' decoded') : wrapper = other ∧ decoded = decoded' := by
  obtain rfl : wrapper = other := Option.some.inj (accepted.parses.symm.trans again.parses)
  obtain rfl : ciphertext = ciphertext' :=
    Option.some.inj (accepted.signed.decodes.symm.trans again.signed.decodes)
  have opened := (decryptPayloadBytes_eq_ok suite).mpr accepted.opens
  obtain rfl : text = text' :=
    Except.ok.inj (opened.symm.trans ((decryptPayloadBytes_eq_ok suite).mpr again.opens))
  exact ⟨rfl, Option.some.inj (accepted.reads.symm.trans again.reads)⟩

/-- A bundle that is accepted at two times is accepted, with the same result, at every time between
them. -/
theorem verifyBundle_between {engine : TextTemplate.Engine Profile} {bundleBytes : Bytes}
    {trustedSigner : PublicKey} {ageIdentity : Option suite.Identity} {requireDecrypt : Bool}
    {first now last clockFirst clockNow clockLast : Int64} {res later : VerifyResult}
    {payload payload' : BundlePayload}
    (timed : first ≠ 0 ∧ now ≠ 0 ∧ last ≠ 0) (after : first ≤ now) (before : now ≤ last)
    (atFirst : verifyBundle suite engine bundleBytes trustedSigner
      ⟨first, ageIdentity, requireDecrypt⟩ clockFirst = (some res, none) ∧ res.payload = some payload)
    (atLast : verifyBundle suite engine bundleBytes trustedSigner
      ⟨last, ageIdentity, requireDecrypt⟩ clockLast = (some later, none) ∧
        later.payload = some payload') :
    verifyBundle suite engine bundleBytes trustedSigner ⟨now, ageIdentity, requireDecrypt⟩ clockNow =
        (some res, none) ∧ later = res := by
  obtain ⟨wrapper, ciphertext, signature, text, decoded, accepted, rfl, rfl⟩ :=
    (verifyBundle_eq_payload suite).mp atFirst
  obtain ⟨_, _, _, _, _, again, rfl, rfl⟩ := (verifyBundle_eq_payload suite).mp atLast
  have atNow (time clock : Int64) (set : time ≠ 0) :
      (⟨time, ageIdentity, requireDecrypt⟩ : VerifyOptions suite).now clock = time := if_neg set
  rw [atNow _ _ timed.1] at accepted
  rw [atNow _ _ timed.2.2] at again
  obtain ⟨rfl, rfl⟩ := accepted.same suite again
  refine ⟨((verifyBundle_eq_payload suite).mpr ⟨wrapper, ciphertext, signature, text, decoded, ?_,
    rfl, rfl⟩).1, rfl⟩
  rw [atNow _ _ timed.2.1]
  exact { accepted with
    header := accepted.header.between after before again.header
    payload := accepted.payload.between timed.1 before again.payload }

end

theorem recordedBundle_at {now : Int64}
    (header : headerIssues recordedHeader (ed25519KeyID recordedCalls recordedKey) now (some [])
      (some []) = [])
    (payload : (validatePayloadStrict plainEngine recordedPayload recordedHeader now).2 = [])
    (timed : now ≠ 0) :
    verifyBundle recordedCalls plainEngine recordedBundle recordedKey ⟨now, none, true⟩ 0 =
      (some ⟨recordedHeader, ed25519KeyID recordedCalls recordedKey,
        Base64.encode (recordedCalls.sha256 recordedBundle), some recordedPayload.sortTags⟩, none) := by
  refine ((verifyBundle_eq_payload recordedCalls).mpr ⟨_, _, _, _, recordedPayload,
    { recordedBundle_accepted with header := ?_, payload := ?_ }, rfl, rfl⟩).1 <;>
    rw [VerifyOptions.now, if_neg timed]
  · exact (headerIssues_eq_nil.mp header).1
  · exact validatePayloadStrict_issues.mp payload

/-- The bundle on record between two times at which it is accepted. -/
theorem recordedBundle_between :
    verifyBundle recordedCalls plainEngine recordedBundle recordedKey ⟨1500, none, true⟩ 0 =
      (some ⟨recordedHeader, ed25519KeyID recordedCalls recordedKey,
        Base64.encode (recordedCalls.sha256 recordedBundle), some recordedPayload.sortTags⟩, none) :=
  (@verifyBundle_between recordedCalls plainEngine recordedBundle recordedKey none true 1000 1500 2000
    0 0 0 _ _ _ _ (by decide) (by decide) (by decide)
    ⟨recordedBundle_at (by decide) (by decide) (by decide), rfl⟩
    ⟨recordedBundle_at (by decide) (by decide) (by decide), rfl⟩).1

end ShadowNet
