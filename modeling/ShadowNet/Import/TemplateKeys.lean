import ShadowNet.Import.Concurrent
import ShadowNet.Inside.Run
import ShadowNet.Mobile.Tick

/-! # One key for the template of a profile

The generator and the verifier take the template reference of a profile, or its family if that is
blank; the agent and the mobile bridge look both up in the template store, and then for a file. The
verifier lets only trimmed references through, so that after an import all of them mean one template.
-/

namespace ShadowNet

open Go Go.Json

/-- The reference of a profile that the verifier let through is not blank, or it is empty. -/
theorem WireProfile.templateRef {header : BundleHeader} {now : Int64} {p : Profile}
    (wire : WireProfile header now p) : trimSpace p.templateRef = p.templateRef := by
  obtain ⟨np, normalized, same⟩ := wire.normalized
  obtain ⟨family, -, -, -, rfl⟩ := normalizeForWire_eq_ok.mp normalized
  exact congrArg (·.templateRef) same

/-- What the agent and the bridge look up in a store finds the template under the profile's key. -/
theorem storedTemplate_templateKey {q : Profile} {templates : Map GoString GoString} {text : GoString}
    (trimmed : trimSpace q.templateRef = q.templateRef) (filled : isBlank text = false)
    (found : templates.find? (templateKey q) = some text) :
    (if q.templateRef = [] then none else Inside.storedTemplate templates q.templateRef).or
      (Inside.storedTemplate templates q.family) = some text := by
  have usable {key : GoString} (held : templates.find? key = some text) :
      Inside.storedTemplate templates key = some text := by
    rw [Inside.storedTemplate, held, Option.filter_some, filled]
    rfl
  rw [templateKey] at found
  by_cases named : q.templateRef = []
  · have blank : isBlank q.templateRef = true := by
      rw [isBlank, trimmed]
      exact decide_eq_true named
    rw [if_pos blank] at found
    rw [if_pos named, Option.none_or, usable found]
  · have filled : isBlank q.templateRef = false := by
      rw [isBlank, trimmed]
      exact decide_eq_false named
    rw [filled, if_neg Bool.false_ne_true] at found
    rw [if_neg named, usable found, Option.some_or]

/-- A profile for which the agent and the bridge find the given text, whatever files there are. -/
structure Resolves (aead : Aead) (file : StoreFile) (q : Profile) (text : GoString) : Prop where
  inside : ∀ templatesDir readFile,
    Inside.resolveTemplateText q (loadTemplates aead file).toOption templatesDir readFile = .ok text
  mobile : ∀ cfg disk, disk (templatesPath cfg) = file →
    resolveTemplateText cfg aead q disk = .ok text

theorem resolves_of_stored {aead : Aead} {file : StoreFile} {q : Profile} {text : GoString}
    {templates : Map GoString GoString} (loaded : loadTemplates aead file = .ok templates)
    (trimmed : trimSpace q.templateRef = q.templateRef) (filled : isBlank text = false)
    (found : templates.find? (templateKey q) = some text) : Resolves aead file q text := by
  have stored := storedTemplate_templateKey trimmed filled found
  constructor
  · intro templatesDir readFile
    rw [loaded, Inside.resolveTemplateText]
    simp only [Except.toOption, Option.bind_some, stored]
  · intro cfg disk held
    have read : templatesOrNone aead (disk (templatesPath cfg)) = templates := by
      rw [templatesOrNone, held, loaded]
    simp only [Inside.storedTemplate] at stored
    simp only [resolveTemplateText, read, stored]

/-- A call that succeeds leaves the payload's templates in the store. -/
theorem hasTemplates_of_run {aead : Aead} {files : StoreFiles} {call : StoreCall}
    {payload : BundlePayload} (given : call.payload = some payload) (utf8 : payload.Utf8)
    (stores : files.templates.isSome = true) (filled : payload.templates.entries ≠ [])
    (succeeded : (call.run aead files).2 = .ok ()) :
    HasTemplates aead (call.run aead files).1 payload := by
  obtain ⟨other, updated, templates, same, merged, saved, -, ends⟩ :=
    StoreCall.stored_of_ok succeeded
  obtain rfl := Option.some.inj (given.symm.trans same)
  rw [ends]
  cases saved with
  | alone none => exact absurd ⟨stores, payload, given, filled⟩ none
  | written file held brings works => exact hasTemplates_of_written call.templateNonce utf8 _

/-- After an import the agent and the bridge find, for each profile of the bundle, the template that
the bundle has under the profile's key. -/
theorem templates_agree {suite : Suite} {engine : TextTemplate.Engine Profile} {bundleBytes : Bytes}
    {trustedSigner : PublicKey} {opts : VerifyOptions suite} {clock : Int64} {res : VerifyResult}
    {payload : BundlePayload}
    (accepted : verifyBundle suite engine bundleBytes trustedSigner opts clock = (some res, none))
    (returned : res.payload = some payload) {aead : Aead} {files : StoreFiles} {call : StoreCall}
    (given : call.payload = some payload) (stores : files.templates.isSome = true)
    (succeeded : (call.run aead files).2 = .ok ()) :
    ∀ p ∈ payload.profiles.getD [], ∃ template file,
      payload.templates.find? (templateKey p) = some template ∧
      (call.run aead files).1.templates = some file ∧
      ∀ q : Profile, q.templateRef = p.templateRef → q.family = p.family →
        Resolves aead file q template.templateText := by
  obtain ⟨wrapper, ciphertext, signature, text, decoded, passed, rfl, rfl⟩ :=
    (verifyBundle_eq_payload suite).mp ⟨accepted, returned⟩
  have utf8 : decoded.sortTags.Utf8 := verifiedPayload_utf8
    ((verifiedPayload_eq_some suite).mpr ⟨_, _, _, _, decoded, passed, rfl⟩)
  intro p member
  rw [BundlePayload.sortTags_profiles] at member
  obtain ⟨raw, inside, rfl⟩ := List.mem_map.mp member
  obtain ⟨template, found⟩ := Option.isSome_iff_exists.mp (passed.payload.complete raw inside)
  have filled : decoded.sortTags.templates.entries ≠ [] := by
    intro empty
    have known := (Map.find?_eq_some _).mp found
    rw [show decoded.templates.entries = [] from empty] at known
    cases known
  obtain ⟨file, stored, held, loaded, present⟩ :=
    hasTemplates_of_run given utf8 stores filled succeeded (templateKey raw) template found
  refine ⟨template, file, found, held, fun q ref family => ?_⟩
  have key : templateKey q = templateKey raw := by
    rw [templateKey, templateKey, ref, family]
    rfl
  apply resolves_of_stored loaded
  · rw [ref]
    exact (passed.payload.profiles raw inside).templateRef
  · exact (passed.payload.templates (templateKey raw) template found).text
  · rw [key]
    exact present

/-- The profiles of the two bundles on record in one: the second names its template. -/
def keyedPayload : BundlePayload :=
  { recordedPayload with
    profiles := some (recordedPayload.profiles.getD [] ++ secondPayload.profiles.getD [])
    templates := recordedPayload.templates.insert (lit "second") ⟨lit "\x7b\x7d"⟩ }

def keyedSignature : Bytes :=
  (Base64.decode (lit
    "DK0cL6JjZeDdNsLhcBMVoityH_pcQba-NMm1vSIMlCrwLoeF6WN_CNNbRO1bbIYwXLdYGxqDzqIXh1J84ZO0DA")).getD []

def keyedHeader : BundleHeader :=
  { recordedHeader with bundleID := lit "b3", signature := Base64.encode keyedSignature }

def keyedBundle : Bytes :=
  marshal Wrapper.codec ⟨keyedHeader, Base64.encode (marshalCanonicalPayload keyedPayload)⟩

def keyedCalls : Suite :=
  recordedSuite recordedKey
    [(recordedKey.val,
        (Base64.decode (lit "E545QOZLVJFyIIjZoNdBYo_IJuCUddNBp4Cs3jxLgHA")).getD []),
      (keyedBundle, (Base64.decode (lit "4oTgBGtvs3hgUn6ExCanbpq08q3WAQ4tVQxi6csjZcM")).getD [])]
    [(signedBytes keyedHeader (marshalCanonicalPayload keyedPayload), keyedSignature)]

theorem keyedBundle_accepted :
    Accepted keyedCalls plainEngine keyedBundle recordedKey none 1500
      ⟨keyedHeader, Base64.encode (marshalCanonicalPayload keyedPayload)⟩
      (marshalCanonicalPayload keyedPayload) keyedSignature
      (marshalCanonicalPayload keyedPayload) keyedPayload := by
  refine accepted_of_signed keyedCalls rfl (by decide) ?_ ?_ (.inl ⟨rfl, rfl⟩)
    (by decide) (validatePayloadStrict_issues.mp (by decide))
  · have clean : headerIssues keyedHeader (ed25519KeyID keyedCalls recordedKey) 1500 (some [])
        (some []) = [] := by decide
    exact (headerIssues_eq_nil.mp clean).1
  · simp [keyedCalls, recordedSuite, List.lookup]

def keyedCall : StoreCall :=
  { recordedCall .done .done with payload := some keyedPayload.sortTags }

/-- An import of both profiles into empty stores. -/
theorem keyedTemplates_agree : ∃ res,
    verifyBundle keyedCalls plainEngine keyedBundle recordedKey ⟨1500, none, true⟩ 0 =
      (some res, none) ∧ res.payload = some keyedPayload.sortTags ∧
    (keyedCall.run clearAead ⟨.absent, some .absent⟩).2 = .ok () ∧
    (keyedPayload.sortTags.profiles.getD []).map (·.templateRef) = [[], lit "second"] ∧
    ∀ p ∈ keyedPayload.sortTags.profiles.getD [], ∃ template file,
      keyedPayload.sortTags.templates.find? (templateKey p) = some template ∧
      (keyedCall.run clearAead ⟨.absent, some .absent⟩).1.templates = some file ∧
      ∀ q : Profile, q.templateRef = p.templateRef → q.family = p.family →
        Resolves clearAead file q template.templateText := by
  obtain ⟨accepted, returned⟩ := (@verifyBundle_eq_payload keyedCalls plainEngine keyedBundle
    recordedKey ⟨1500, none, true⟩ 0 _ _).mpr ⟨_, _, _, _, _, keyedBundle_accepted, rfl, rfl⟩
  have succeeded : (keyedCall.run clearAead ⟨.absent, some .absent⟩).2 = .ok () := by
    decide +kernel
  exact ⟨_, accepted, returned, succeeded, by decide,
    templates_agree accepted returned rfl rfl succeeded⟩

end ShadowNet
