import ShadowNet.Bundle.VerifySound
import ShadowNet.Sing.Render

/-! # Rendering the profiles of a verified bundle

The verifier tries each template on one profile and asks only for JSON; `renderOutbound` checks the
family and the host of every profile, and the outbound that comes out. Both agree on the profiles
whose family it can render, whose host is safe, and whose template suits them as it suits the sample.
-/

namespace ShadowNet

open Go Go.Json

variable (engine : TextTemplate.Engine Profile)

/-- A template yields an outbound for a profile that passes the checks of the renderer. -/
def YieldsOutbound (templateText : Bytes) (p : Profile) : Prop :=
  ∃ out outbound, engine.render templateText p = .ok out ∧
    validateRenderedOutbound (trimSpace out) = .ok outbound

/-- The profile that the verifier tries the template of a key on. -/
def BundlePayload.sample? (payload : BundlePayload) (key : GoString) : Option Profile :=
  (payload.profiles.getD []).find? fun p => templateKey p = key

/-- A profile renders with its template, provided the template suits the sample. -/
def Usable (payload : BundlePayload) (p : Profile) : Prop :=
  ∃ template, payload.templates.find? (templateKey p) = some template ∧
    ((∀ sample, payload.sample? (templateKey p) = some sample →
        YieldsOutbound engine template.templateText sample) →
      ∃ outbound, renderOutbound engine p template.templateText = .ok outbound)

/-- Where the template of a profile suits the sample, the renderer knows the family of the profile and
takes its host, and the template suits the profile too if another one is the sample. -/
def Suited (payload : BundlePayload) (p : Profile) : Prop :=
  ∀ template sample, payload.templates.find? (templateKey p) = some template →
    payload.sample? (templateKey p) = some sample →
    YieldsOutbound engine template.templateText sample →
      p.family ∈ [familyReality, familyHysteria2, familyTUIC] ∧
      isSafeHost p.endpoint.host = true ∧
      (p ≠ sample → YieldsOutbound engine template.templateText p)

/-- What the verifier has checked of the endpoint of a profile. -/
theorem WireProfile.endpoint {header : BundleHeader} {now : Int64} {p : Profile}
    (wire : WireProfile header now p) : toLower (trimSpace p.endpoint.host) = p.endpoint.host ∧
      0 < p.endpoint.port ∧ p.endpoint.port ≤ 65535 := by
  obtain ⟨np, normalized, same⟩ := wire.normalized
  obtain ⟨family, -, shape, -, rfl⟩ := normalizeForWire_eq_ok.mp normalized
  exact ⟨congrArg (·.endpoint.host) same, shape.port⟩

/-- On a profile that the verifier let through the renderer checks the family and the host. -/
theorem WireProfile.renders_iff {header : BundleHeader} {now : Int64} {p : Profile}
    (wire : WireProfile header now p) : validateProfileForRender p.sortTags = .ok () ↔
      p.family ∈ [familyReality, familyHysteria2, familyTUIC] ∧
        isSafeHost p.endpoint.host = true := by
  obtain ⟨folded, low, high⟩ := wire.endpoint
  have clean : cleanHost p.endpoint.host = p.endpoint.host := by
    rw [cleanHost, trimSpace_toLower]
    exact folded
  have least : 1 ≤ p.endpoint.port := by
    rw [Int64.lt_iff_toInt_lt] at low
    rw [Int64.le_iff_toInt_le]
    exact low
  rw [validateProfileForRender_eq_ok]
  change p.family ∈ _ ∧ isSafeHost (cleanHost p.endpoint.host) = true ∧ _ ∧ _ ↔ _
  rw [clean]
  exact ⟨fun checked => ⟨checked.1, checked.2.1⟩, fun both => ⟨both.1, both.2, least, high⟩⟩

/-- Rendering a profile that the verifier let through, once more in terms of its parts. -/
theorem WireProfile.renderOutbound_iff {header : BundleHeader} {now : Int64} {p : Profile}
    (wire : WireProfile header now p) (templateText : Bytes) :
    (∃ outbound, renderOutbound engine p.sortTags templateText = .ok outbound) ↔
      (p.family ∈ [familyReality, familyHysteria2, familyTUIC] ∧
        isSafeHost p.endpoint.host = true) ∧ YieldsOutbound engine templateText p.sortTags := by
  rw [← wire.renders_iff]
  simp only [renderOutbound_eq_ok]
  constructor
  · rintro ⟨outbound, checked, text, rendered, passed⟩
    exact ⟨checked, text, outbound, rendered, passed⟩
  · rintro ⟨checked, text, outbound, rendered, passed⟩
    exact ⟨outbound, checked, text, rendered, passed⟩

/-- The profiles of a verified bundle are usable exactly where they are suited to their templates. -/
theorem usable_iff_suited {suite : Suite} {engine : TextTemplate.Engine Profile} {bundleBytes : Bytes}
    {trustedSigner : PublicKey} {opts : VerifyOptions suite} {clock : Int64} {res : VerifyResult}
    {payload : BundlePayload}
    (accepted : verifyBundle suite engine bundleBytes trustedSigner opts clock = (some res, none))
    (returned : res.payload = some payload) :
    (∀ p ∈ payload.profiles.getD [], Usable engine payload p) ↔
      ∀ p ∈ payload.profiles.getD [], Suited engine payload p := by
  obtain ⟨wrapper, ciphertext, signature, text, decoded, passed, rfl, rfl⟩ :=
    (verifyBundle_eq_payload suite).mp ⟨accepted, returned⟩
  refine forall_congr' fun p => forall_congr' fun member => ?_
  have sampled : (decoded.sortTags.sample? (templateKey p)).isSome = true :=
    List.find?_isSome.mpr ⟨p, member, decide_eq_true rfl⟩
  obtain ⟨sample, first⟩ := Option.isSome_iff_exists.mp sampled
  rw [BundlePayload.sortTags_profiles] at member
  obtain ⟨raw, inside, rfl⟩ := List.mem_map.mp member
  obtain ⟨template, found⟩ := Option.isSome_iff_exists.mp (passed.payload.complete raw inside)
  have renders := (passed.payload.profiles raw inside).renderOutbound_iff engine template.templateText
  constructor
  · rintro ⟨given, same, usable⟩ other one held tried yields
    obtain rfl : given = other := Option.some.inj (same.symm.trans held)
    obtain rfl : given = template := Option.some.inj (same.symm.trans found)
    obtain rfl : sample = one := Option.some.inj (first.symm.trans tried)
    obtain ⟨known, own⟩ := renders.mp (usable fun each tried => by
      obtain rfl : sample = each := Option.some.inj (first.symm.trans tried)
      exact yields)
    exact ⟨known.1, known.2, fun _ => own⟩
  · intro suited
    refine ⟨template, found, fun all => ?_⟩
    have yields := all sample first
    obtain ⟨family, host, other⟩ := suited template sample found first yields
    refine renders.mpr ⟨⟨family, host⟩, ?_⟩
    by_cases same : raw.sortTags = sample
    · rw [same]
      exact yields
    · exact other same

/-! ## Bundles with a template that connects directly -/

def directPayload (family : Family) : BundlePayload :=
  { recordedPayload with
    profiles := (recordedPayload.profiles.getD []).map fun p => { p with family }
    templates := (∅ : Map GoString Template).insert family ⟨lit "\x7b\"type\":\"direct\"\x7d"⟩ }

def directHeader (signature : Bytes) : BundleHeader :=
  { recordedHeader with bundleID := lit "b5", signature := Base64.encode signature }

def realitySignature : Bytes :=
  (Base64.decode (lit
    "oFrYZH8_EdWtd0LuKofM9ncHuH2iH7KSFzT1m9KTjtt9tc6A2vqJOpTQBj_LEBDu5bv6PRsYVLdRwcGScUr8Cg")).getD []

def shadowTLSSignature : Bytes :=
  (Base64.decode (lit
    "vxXV_TmPKJHRQoyfhymHlGbqajU3uUN7aP9Q1yvdNhzKIyCI68W9S3QiKyCz1F90jGRVY6EVv5H9fzcEOkl8Dg")).getD []

def directBundle (family : Family) (signature : Bytes) : Bytes :=
  marshal Wrapper.codec
    ⟨directHeader signature, Base64.encode (marshalCanonicalPayload (directPayload family))⟩

def directCalls (family : Family) (signature : Bytes) : Suite :=
  recordedSuite recordedKey
    [(recordedKey.val,
      (Base64.decode (lit "E545QOZLVJFyIIjZoNdBYo_IJuCUddNBp4Cs3jxLgHA")).getD [])]
    [(signedBytes (directHeader signature) (marshalCanonicalPayload (directPayload family)), signature)]

/-- Such a bundle passes wherever its signature is verified. -/
theorem directBundle_passes {family : Family} {signature : Bytes} {suite : Suite}
    (digest : suite.sha256 recordedKey.val =
      (directCalls family signature).sha256 recordedKey.val)
    (verifies : suite.verify recordedKey
      (signedBytes (directHeader signature) (marshalCanonicalPayload (directPayload family)))
      signature = true)
    (headerUtf8 : (directHeader signature).Utf8)
    (header : headerIssues (directHeader signature)
      (ed25519KeyID (directCalls family signature) recordedKey) 1500 (some []) (some []) = [])
    (utf8 : (directPayload family).Utf8)
    (payload : (validatePayloadStrict plainEngine (directPayload family) (directHeader signature)
      1500).2 = []) :
    Accepted suite plainEngine (directBundle family signature) recordedKey none 1500
      ⟨directHeader signature, Base64.encode (marshalCanonicalPayload (directPayload family))⟩
      (marshalCanonicalPayload (directPayload family)) signature
      (marshalCanonicalPayload (directPayload family)) (directPayload family) := by
  have id : ed25519KeyID suite recordedKey =
      ed25519KeyID (directCalls family signature) recordedKey := by
    rw [ed25519KeyID, ed25519KeyID, fingerprint16, fingerprint16, digest]
  exact accepted_of_signed _ rfl headerUtf8 (id ▸ (headerIssues_eq_nil.mp header).1) verifies
    (.inl ⟨rfl, rfl⟩) utf8 (validatePayloadStrict_issues.mp payload)

theorem directBundle_accepted {family : Family} {signature : Bytes}
    (headerUtf8 : (directHeader signature).Utf8)
    (header : headerIssues (directHeader signature)
      (ed25519KeyID (directCalls family signature) recordedKey) 1500 (some []) (some []) = [])
    (utf8 : (directPayload family).Utf8)
    (payload : (validatePayloadStrict plainEngine (directPayload family) (directHeader signature)
      1500).2 = []) : ∃ res,
      verifyBundle (directCalls family signature) plainEngine (directBundle family signature)
        recordedKey ⟨1500, none, true⟩ 0 = (some res, none) ∧
      res.payload = some (directPayload family).sortTags := by
  have verifies : (directCalls family signature).verify recordedKey
      (signedBytes (directHeader signature) (marshalCanonicalPayload (directPayload family)))
      signature = true := by
    simp [directCalls, recordedSuite, List.lookup]
  exact ⟨_, (verifyBundle_eq_payload _).mpr ⟨_, _, _, _, _,
    directBundle_passes rfl verifies headerUtf8 header utf8 payload, rfl, rfl⟩⟩

theorem directTemplate_yields (p : Profile) :
    YieldsOutbound plainEngine (lit "\x7b\"type\":\"direct\"\x7d") p := by
  have lexed : TextTemplate.pieces (lit "\x7b\"type\":\"direct\"\x7d") =
      some [.text (lit "\x7b\"type\":\"direct\"\x7d")] := by decide
  have rendered : plainEngine.render (lit "\x7b\"type\":\"direct\"\x7d") p =
      .ok (lit "\x7b\"type\":\"direct\"\x7d") := by
    rw [TextTemplate.Engine.render, lexed]
    rfl
  have passes : (validateRenderedOutbound (trimSpace (lit "\x7b\"type\":\"direct\"\x7d"))).isOk =
      true := by decide
  cases passed : validateRenderedOutbound (trimSpace (lit "\x7b\"type\":\"direct\"\x7d")) with
  | error text =>
    rw [passed] at passes
    cases passes
  | ok outbound => exact ⟨_, outbound, rendered, passed⟩

/-- Each profile of such a bundle finds the template. -/
theorem directPayload_template {family : Family} {p : Profile}
    (member : p ∈ (directPayload family).sortTags.profiles.getD []) : p.family = family ∧
      isSafeHost p.endpoint.host = true ∧
      (directPayload family).sortTags.templates.find? (templateKey p) =
        some ⟨lit "\x7b\"type\":\"direct\"\x7d"⟩ := by
  obtain rfl := List.mem_singleton.mp member
  refine ⟨rfl, show isSafeHost (lit "h") = true by decide, ?_⟩
  exact (Map.find?_insert ..).trans (if_pos rfl)

/-- The verifier accepts a ShadowTLS profile that does not render. -/
theorem shadowTLSBundle_unusable : ∃ res payload,
    verifyBundle (directCalls familyShadowTLS shadowTLSSignature) plainEngine
      (directBundle familyShadowTLS shadowTLSSignature) recordedKey ⟨1500, none, true⟩ 0 =
        (some res, none) ∧
    res.payload = some payload ∧ ∃ p ∈ payload.profiles.getD [], ¬ Usable plainEngine payload p := by
  have headerUtf8 : (directHeader shadowTLSSignature).Utf8 := by decide
  have utf8 : (directPayload familyShadowTLS).Utf8 := by decide
  obtain ⟨res, accepted, returned⟩ :=
    directBundle_accepted headerUtf8 (by decide) utf8 (by decide)
  refine ⟨res, _, accepted, returned, _, List.mem_cons_self .., ?_⟩
  rintro ⟨template, found, usable⟩
  obtain ⟨family, -, same⟩ := directPayload_template (List.mem_cons_self ..)
  obtain rfl := Option.some.inj (same.symm.trans found)
  obtain ⟨outbound, rendered⟩ := usable fun sample _ => directTemplate_yields sample
  have checked := validateProfileForRender_eq_ok.mp (renderOutbound_eq_ok.mp rendered).1
  rw [family] at checked
  exact absurd checked.1 (by decide)

/-- A bundle of which all profiles render. -/
theorem realityBundle_usable : ∃ res payload,
    verifyBundle (directCalls familyReality realitySignature) plainEngine
      (directBundle familyReality realitySignature) recordedKey ⟨1500, none, true⟩ 0 =
        (some res, none) ∧
    res.payload = some payload ∧ ∀ p ∈ payload.profiles.getD [], Usable plainEngine payload p := by
  have headerUtf8 : (directHeader realitySignature).Utf8 := by decide
  have utf8 : (directPayload familyReality).Utf8 := by decide
  obtain ⟨res, accepted, returned⟩ :=
    directBundle_accepted headerUtf8 (by decide) utf8 (by decide)
  refine ⟨res, _, accepted, returned, (usable_iff_suited accepted returned).mpr ?_⟩
  intro p member template sample found _ _
  obtain ⟨family, host, same⟩ := directPayload_template member
  obtain rfl := Option.some.inj (same.symm.trans found)
  refine ⟨?_, host, fun _ => directTemplate_yields p⟩
  rw [family]
  decide

end ShadowNet
