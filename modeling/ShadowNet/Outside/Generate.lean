import ShadowNet.Bundle.Generate
import ShadowNet.Bundle.VerifySound
import ShadowNet.Go.Loop
import ShadowNet.Outside.Candidates

/-! # The outside generator

`runGenerate` from the candidate files to the signed bundle. What it makes is accepted by the
verifier at the same time unless a clock, a flag or a selected profile falls outside what both sides
agree on.
-/

namespace ShadowNet

open Go Go.Json

/-- The flags of `runGenerate`, with the files that they name already read. -/
structure GenerateArgs (suite : Suite) where
  profilesFile : Option Bytes
  profilesDir : Option (List Bytes)
  /-- The files of `--templates-dir` by their names. -/
  templatesDir : GoString → Option Bytes
  signingKey : suite.PrivateKey
  recipientFile : Option Bytes
  allowPlaintext : Bool
  minAgentVersion : GoString
  bundleTTLSec : Int64
  maxProfiles : ℤ
  maxPerFamily : ℤ
  /-- What age draws. -/
  random : Bytes
  /-- The largest slice of candidates that fits into memory. -/
  capacity : ℕ

variable (suite : Suite)

/-- `LoadAgeRecipientFile`. -/
def loadAgeRecipientFile (raw : Bytes) : Except String GoString :=
  let s := trimSpace raw
  if s = [] then .error "empty recipient public key"
  else
    match suite.parseRecipient s with
    | none => .error "invalid recipient public key: %w"
    | some _ => .ok s

def templateFileName (p : Profile) : GoString :=
  if isBlank p.templateRef = false then
    if hasSuffix (toLower p.templateRef) (lit ".json") then p.templateRef
    else p.templateRef ++ lit ".json"
  else p.family ++ lit ".json"

/-- One round of the loop that reads the templates of the included profiles. -/
def readTemplate (templatesDir : GoString → Option Bytes) (templates : Map GoString Template)
    (p : Profile) : Except String (Map GoString Template) :=
  match templatesDir (pathClean (templateFileName p)) with
  | none => .error "missing outbound template for profile %q (looked for %s): %w"
  | some text =>
      .ok (if (templates.find? (templateKey p)).isSome then templates
        else templates.insert (templateKey p) ⟨text⟩)

/-- The profile with the signer as its publisher. -/
def Profile.publishedBy (p : Profile) (signerKeyID : GoString) : Profile :=
  { p with source := { p.source with publisherKey := signerKeyID } }

/-- The profiles that a bundle of these candidates includes, unless their selection panics. -/
def includedProfiles (capacity : ℕ) (rawCandidates : List Profile) (params : SelectionParams)
    (now : Int64) (signerKeyID : GoString) : Option (List Profile) :=
  let scored := (validateNormalizeAndScore rawCandidates now).1
  (selectForBundle capacity scored params).map fun result =>
    result.1.map fun c => c.profile.publishedBy signerKeyID

def generatedPayload (profiles : List Profile) (templates : Map GoString Template)
    (minAgentVersion signerKeyID : GoString) (now : Int64) : BundlePayload :=
  { schemaVersion := 1
    minAgentVersion
    profiles := some profiles
    revocations := none
    policyOverrides := {}
    templates
    notes := ((∅ : Map GoString GoString).insert (lit "issuer_key_id") signerKeyID).insert
      (lit "created_at") (itoa now.toInt) }

variable {suite}

def GenerateArgs.signerKeyID (args : GenerateArgs suite) : GoString :=
  ed25519KeyID suite (suite.publicKey args.signingKey)

def GenerateArgs.params (args : GenerateArgs suite) : SelectionParams :=
  ⟨args.maxProfiles, args.maxPerFamily⟩

/-- The options `runGenerate` passes on; the bundle ID is `bndl_%d_%s`. -/
def GenerateArgs.options (args : GenerateArgs suite) (recipientPub : GoString) (now : Int64) :
    GenerateOptions :=
  { recipientPublicKey := recipientPub
    allowPlaintext := args.allowPlaintext
    signerKeyID := args.signerKeyID
    bundleID := lit "bndl_" ++ itoa now.toInt ++ 0x5F ::
      fingerprint16 suite (suite.publicKey args.signingKey).val
    seq := 1
    createdAt := now
    expiresAt := now + args.bundleTTLSec }

/-- `runGenerate` up to the bundle it writes, at the time `now`. A panic is one of its errors. -/
def runGenerate (args : GenerateArgs suite) (now : Int64) : Except String Bytes := do
  let recipientPub ← args.recipientFile.elim (.ok []) (loadAgeRecipientFile suite)
  let rawCandidates ← loadCandidates args.profilesFile args.profilesDir
  let profiles ← (includedProfiles args.capacity rawCandidates args.params now args.signerKeyID).elim
    (.error "makeslice: cap out of range") .ok
  let templates ← profiles.foldlM (readTemplate args.templatesDir) ∅
  let payload := generatedPayload profiles templates args.minAgentVersion args.signerKeyID now
  generateBundleWithOptions suite payload args.signingKey (args.options recipientPub now) args.random
    now

/-! ## The profiles -/

/-- The profiles selected for the bundle. -/
def GenerateArgs.selected (args : GenerateArgs suite) (now : Int64) : List Profile :=
  match loadCandidates args.profilesFile args.profilesDir with
  | .ok rawCandidates =>
      (includedProfiles args.capacity rawCandidates args.params now args.signerKeyID).getD []
  | .error _ => []

theorem Normal.publishedBy {p : Profile} {now : Int64} (normal : Normal p now)
    (signerKeyID : GoString) : Normal (p.publishedBy signerKeyID) now :=
  { known := normal.known
    shape := { normal.shape with }
    folded := congrArg (·.publishedBy signerKeyID) normal.folded
    complete := { normal.complete with }
    settled := congrArg (·.publishedBy signerKeyID) normal.settled
    tags := normal.tags }

/-- What the verifier needs of the profiles of a payload, apart from their tags and templates. -/
structure IncludedOk (signerKeyID : GoString) (now : Int64) (profiles : List Profile) : Prop where
  normal : ∀ p ∈ profiles, Normal p now
  utf8 : ∀ p ∈ profiles, p.Utf8
  publisher : ∀ p ∈ profiles, p.source.publisherKey = signerKeyID
  distinctIDs : (profiles.map (·.id)).Nodup
  distinctEndpoints : (profiles.map endpointKey).Nodup

/-- What is included is normal, signed by the publisher and distinct. -/
theorem includedProfiles_ok {capacity : ℕ} {rawCandidates profiles : List Profile}
    {params : SelectionParams} {now : Int64} {signerKeyID : GoString}
    (utf8 : ∀ p ∈ rawCandidates, p.Utf8) (key : Valid signerKeyID)
    (included : includedProfiles capacity rawCandidates params now signerKeyID = some profiles) :
    IncludedOk signerKeyID now profiles := by
  obtain ⟨result, selected, rfl⟩ := Option.map_eq_some_iff.mp included
  obtain ⟨-, rfl⟩ := selectForBundle_eq_some.mp selected
  obtain ⟨normalized, ids⟩ := validateNormalizeAndScore_spec rawCandidates now
  obtain ⟨chosen, endpoints⟩ :=
    selectCandidates_spec (validateNormalizeAndScore rawCandidates now).1 params.defaults
  have origin (p : Profile) (member : p ∈ (selectCandidates (validateNormalizeAndScore rawCandidates
      now).1 params.defaults).1.map fun c => c.profile.publishedBy signerKeyID) :
      ∃ raw ∈ rawCandidates, ∃ q, (normalizeForWire raw now).2 = .ok q ∧
        q.publishedBy signerKeyID = p := by
    obtain ⟨c, inside, rfl⟩ := List.mem_map.mp member
    obtain ⟨raw, candidate, same⟩ := normalized c (chosen c inside)
    exact ⟨raw, candidate, c.profile, same, rfl⟩
  refine ⟨fun p member => ?_, fun p member => ?_, fun p member => ?_, ?_, ?_⟩
  · obtain ⟨raw, -, q, same, rfl⟩ := origin p member
    exact (normal_of_normalize same).publishedBy signerKeyID
  · obtain ⟨raw, candidate, q, same, rfl⟩ := origin p member
    have own := (utf8 raw candidate).normalized same
    exact { own with source := ⟨own.source.source, key⟩ }
  · obtain ⟨raw, -, q, -, rfl⟩ := origin p member
    rfl
  · rw [List.map_map]
    exact (List.Nodup.of_map _ endpoints).map_on fun c first d second same =>
      List.inj_on_of_nodup_map ids (chosen c first) (chosen d second) same
  · rw [List.map_map]
    exact endpoints

theorem GenerateArgs.signerKeyID_utf8 (args : GenerateArgs suite) : Valid args.signerKeyID :=
  (ascii_of_visible (visible_ed25519KeyID suite _)).valid

theorem GenerateArgs.signerKeyID_named (args : GenerateArgs suite) :
    isBlank args.signerKeyID = false := by
  have letter : (0x65 : UInt8) ∈ lit "ed25519:" := by decide
  exact isBlank_of_visible (List.mem_append_left _ letter) (by decide)

theorem GenerateArgs.selected_ok (args : GenerateArgs suite) (now : Int64) :
    IncludedOk args.signerKeyID now (args.selected now) := by
  have none : IncludedOk args.signerKeyID now [] := ⟨by simp, by simp, by simp, .nil, .nil⟩
  unfold GenerateArgs.selected
  split
  · rename_i rawCandidates loaded
    cases included : includedProfiles args.capacity rawCandidates args.params now args.signerKeyID with
    | none => exact none
    | some profiles =>
      exact includedProfiles_ok (loadCandidates_utf8 loaded)
        (ascii_of_visible (visible_ed25519KeyID suite _)).valid included
  · exact none

/-! ## The templates -/

/-- The file of the template with a key. -/
def templateFile (key : GoString) : GoString :=
  if hasSuffix (toLower key) (lit ".json") then key else key ++ lit ".json"

theorem Normal.templateFileName_eq {p : Profile} {now : Int64} (normal : Normal p now) :
    templateFileName p = templateFile (templateKey p) := by
  unfold templateFileName templateKey
  cases blank : isBlank p.templateRef with
  | false => rfl
  | true =>
    have plain : ∀ family ∈ [familyReality, familyHysteria2, familyTUIC, familyShadowTLS, familyDNS],
        templateFile family = family ++ lit ".json" := by decide
    exact (plain p.family (normalizeFamily_mem normal.known)).symm

/-- Template keys are names without slashes. -/
theorem Normal.templateKey_name {p : Profile} {now : Int64} (normal : Normal p now) :
    isBlank (templateKey p) = false ∧ 0x2F ∉ templateKey p ∧ 0x5C ∉ templateKey p ∧
      templateKey p ≠ lit ".." ∧ (templateKey p = lit "." ↔ p.templateRef = lit ".") := by
  unfold templateKey
  cases blank : isBlank p.templateRef with
  | false =>
    refine ⟨blank, normal.shape.templateSlashes.1, normal.shape.templateSlashes.2, fun dots => ?_,
      Iff.rfl⟩
    have free := normal.shape.templateDots
    rw [show p.templateRef = lit ".." from dots] at free
    exact absurd free (by decide)
  | true =>
    have plain : ∀ family ∈ [familyReality, familyHysteria2, familyTUIC, familyShadowTLS, familyDNS],
        isBlank family = false ∧ 0x2F ∉ family ∧ 0x5C ∉ family ∧ family ≠ lit ".." ∧
          family ≠ lit "." := by decide
    obtain ⟨filled, slash, backslash, dots, dot⟩ :=
      plain p.family (normalizeFamily_mem normal.known)
    refine ⟨filled, slash, backslash, dots, iff_of_false dot fun ref => ?_⟩
    rw [ref] at blank
    exact absurd blank (by decide)

/-- The templates read for some profiles. -/
structure TemplatesRead (templatesDir : GoString → Option Bytes) (profiles : List Profile)
    (templates : Map GoString Template) : Prop where
  files : ∀ k v, templates.find? k = some v → ∃ p ∈ profiles, templateKey p = k ∧
    templatesDir (pathClean (templateFileName p)) = some v.templateText
  complete : ∀ p ∈ profiles, (templates.find? (templateKey p)).isSome = true

theorem foldlM_readTemplate {templatesDir : GoString → Option Bytes} {profiles : List Profile}
    {templates : Map GoString Template}
    (read : profiles.foldlM (readTemplate templatesDir) ∅ = .ok templates) :
    TemplatesRead templatesDir profiles templates := by
  refine foldlM_invariant (motive := TemplatesRead templatesDir) ⟨by simp, by simp⟩ ?_ read
  intro before p templates next holds step
  unfold readTemplate at step
  split at step
  · cases step
  rename_i text found
  cases step
  have earlier : ∀ k v, templates.find? k = some v → ∃ q ∈ before ++ [p], templateKey q = k ∧
      templatesDir (pathClean (templateFileName q)) = some v.templateText := by
    intro k v held
    obtain ⟨q, member, rest⟩ := holds.files k v held
    exact ⟨q, List.mem_append_left _ member, rest⟩
  split_ifs with known
  · refine ⟨earlier, fun q member => ?_⟩
    obtain inside | here := List.mem_append.mp member
    · exact holds.complete q inside
    · rwa [List.mem_singleton.mp here]
  · refine ⟨fun k v held => ?_, fun q member => ?_⟩
    · rw [Map.find?_insert] at held
      split_ifs at held with same
      · cases held
        exact ⟨p, by simp, same, found⟩
      · exact earlier k v held
    · rw [Map.find?_insert]
      split_ifs with same
      · rfl
      · obtain inside | here := List.mem_append.mp member
        · exact holds.complete q inside
        · exact absurd (by rw [List.mem_singleton.mp here]) same

/-- The templates of these profiles are UTF-8 and render to JSON. -/
def TemplatesFit (engine : TextTemplate.Engine Profile) (templatesDir : GoString → Option Bytes)
    (profiles : List Profile) : Prop :=
  ∀ p ∈ profiles, ∀ text, templatesDir (pathClean (templateFileName p)) = some text →
    Valid text ∧ ∃ out, engine.render text p = .ok out ∧ Json.valid (trimSpace out) = true

theorem isBlank_of_renders {engine : TextTemplate.Engine Profile} {text out : Bytes} {p : Profile}
    (rendered : engine.render text p = .ok out) (json : Json.valid (trimSpace out) = true) :
    isBlank text = false := by
  by_cases brace : 0x7B ∈ text
  · exact isBlank_of_visible brace (by decide)
  · rw [engine.render_plain brace] at rendered
    cases rendered
    apply decide_eq_false
    intro blank
    rw [blank] at json
    exact absurd json (by decide)

/-- The verifier raises no issue on the templates read, apart from a key that is a dot. -/
theorem TemplatesRead.templateOk {engine : TextTemplate.Engine Profile}
    {templatesDir : GoString → Option Bytes} {profiles : List Profile} {now : Int64}
    {templates : Map GoString Template} (read : TemplatesRead templatesDir profiles templates)
    (fit : TemplatesFit engine templatesDir profiles) (normal : ∀ p ∈ profiles, Normal p now)
    (keys : ∀ p ∈ profiles, p.templateRef ≠ lit ".") {k : GoString} {v : Template}
    (found : templates.find? k = some v) : TemplateOk engine profiles k v := by
  obtain ⟨p, member, rfl, file⟩ := read.files k v found
  obtain ⟨filled, slash, backslash, dots, dot⟩ := (normal p member).templateKey_name
  have clean : pathClean (templateKey p) = templateKey p :=
    pathClean_name slash (fun empty => by rw [empty] at filled; cases filled)
      (mt dot.mp (keys p member))
  have flat (start : GoString) (inside : 0x2F ∈ start) :
      hasPrefix (pathClean (templateKey p)) start = false := by
    rw [clean]
    exact decide_eq_false fun shared => slash (shared.subset inside)
  obtain ⟨-, out, rendered, json⟩ := fit p member v.templateText file
  refine ⟨⟨filled, backslash⟩, ⟨?_, ?_, flat _ (by decide), flat _ (by decide)⟩,
    isBlank_of_renders rendered json, fun sample first => ?_⟩
  · rw [clean]
    exact mt dot.mp (keys p member)
  · rwa [clean]
  · have same : templateKey sample = templateKey p := by simpa using List.find?_some first
    have inside := List.mem_of_find?_eq_some first
    have shared : templateFileName sample = templateFileName p := by
      rw [(normal sample inside).templateFileName_eq, same, (normal p member).templateFileName_eq]
    exact (fit sample inside v.templateText (by rw [shared, file])).2

/-! ## The ciphertext -/

/-- The identity, if one is needed, is that of the recipient. -/
def Matching (suite : Suite) (recipientFile : Option Bytes) (identity : Option suite.Identity) :
    Prop :=
  ∀ raw, recipientFile = some raw →
    ∃ own, identity = some own ∧ suite.parseRecipient (trimSpace raw) = some (suite.recipient own)

/-- What a sealed payload opens to. -/
structure SealedOk (suite : Suite) (identity : Option suite.Identity) (payloadBytes : Bytes)
    (contents : Sealed) : Prop where
  cipher : contents.cipher = cipherAge ∧
      hasPrefix contents.recipientKeyID (lit "age-x25519:") = true ∨
    contents.cipher = cipherNone ∧ contents.recipientKeyID = lit "none"
  utf8 : Valid contents.cipher ∧ Valid contents.recipientKeyID
  opens : ∀ header : BundleHeader, header.cipher = contents.cipher →
    header.recipientKeyID = contents.recipientKeyID → ∀ text,
      Opens suite header contents.ciphertext identity text ↔ text = payloadBytes

/-- What is sealed opens with the identity that matches. -/
theorem sealPayload_ok (sound : suite.Sound) {recipientFile : Option Bytes}
    {identity : Option suite.Identity} (matching : Matching suite recipientFile identity)
    {recipientPub : GoString}
    (recipient : recipientFile.elim (.ok []) (loadAgeRecipientFile suite) = .ok recipientPub)
    {payloadBytes random : Bytes} {opts : GenerateOptions} {contents : Sealed}
    (passed : opts.recipientPublicKey = recipientPub)
    (made : sealPayload suite payloadBytes opts random = .ok contents) :
    SealedOk suite identity payloadBytes contents := by
  unfold sealPayload at made
  rw [passed] at made
  cases recipientFile with
  | none =>
    cases recipient
    rw [if_neg (by decide)] at made
    split_ifs at made
    cases made
    have none : Valid (lit "none") := by decide
    refine ⟨.inr ⟨rfl, rfl⟩, ⟨none, none⟩, fun header cipher _ text => ?_⟩
    have plain : header.cipher = cipherNone := cipher
    have apart : cipherNone ≠ cipherAge := by decide
    simp [Opens, plain, apart]
  | some raw =>
    obtain ⟨own, rfl, parsed⟩ := matching raw rfl
    have trimmed : recipientPub = trimSpace raw ∧ trimSpace raw ≠ [] := by
      change loadAgeRecipientFile suite raw = .ok recipientPub at recipient
      simp only [loadAgeRecipientFile, parsed] at recipient
      split_ifs at recipient with empty
      cases recipient
      exact ⟨rfl, empty⟩
    obtain ⟨rfl, nonempty⟩ := trimmed
    have filled : isBlank (trimSpace raw) = false := by
      rw [isBlank_trimSpace]
      exact decide_eq_false nonempty
    rw [if_pos filled, parsed] at made
    simp only at made
    split at made
    · cases made
    rename_i ciphertext encrypted
    cases made
    have visible := visible_ageKeyID suite (trimSpace raw)
    have name : Valid cipherAge := by decide
    refine ⟨.inl ⟨rfl, decide_eq_true (List.prefix_append ..)⟩,
      ⟨name, (ascii_of_visible visible).valid⟩, fun header cipher keyID text => ?_⟩
    have aged : header.cipher = cipherAge := cipher
    have apart : cipherAge ≠ cipherNone := by decide
    have known : trimSpace header.recipientKeyID =
        ageKeyID suite (suite.recipientString (suite.recipient own)) := by
      rw [keyID, trimSpace_visible visible, sound.prints _ _ parsed]
    simp [Opens, aged, apart, known, sound.decrypts own random payloadBytes ciphertext encrypted,
      eq_comm]

/-! ## The bundle -/

def GenerateArgs.payload (args : GenerateArgs suite) (templates : Map GoString Template)
    (now : Int64) : BundlePayload :=
  generatedPayload (args.selected now) templates args.minAgentVersion args.signerKeyID now

/-- The clock, the flags and the selected profiles on which both sides agree. -/
structure GenerateArgs.Agreed (args : GenerateArgs suite) (now : Int64) : Prop where
  clock : 0 < now
  skew : now.toInt + 600 < 2 ^ 63
  expiry : now.toInt + args.bundleTTLSec.toInt < 2 ^ 63
  version : Valid args.minAgentVersion
  keys : ∀ p ∈ args.selected now, p.templateRef ≠ lit "."
  tags : ∀ p ∈ args.selected now, (p.capabilities.dpiResistanceTags.getD []).Pairwise (· < ·)

/-- A run that succeeds, with all that it has read and made. -/
theorem runGenerate_eq_ok {args : GenerateArgs suite} {now : Int64} {bundle : Bytes}
    (produced : runGenerate args now = .ok bundle) :
    ∃ recipientPub templates contents,
      args.recipientFile.elim (.ok []) (loadAgeRecipientFile suite) = .ok recipientPub ∧
      TemplatesRead args.templatesDir (args.selected now) templates ∧
      sealPayload suite (marshalCanonicalPayload (args.payload templates now))
        ((args.options recipientPub now).defaults now) args.random = .ok contents ∧
      bundle = marshal Wrapper.codec
        ⟨signedHeader args.signingKey ((args.options recipientPub now).defaults now) contents,
          Base64.encode contents.ciphertext⟩ := by
  simp only [runGenerate, bind_eq_ok] at produced
  obtain ⟨recipientPub, recipient, rawCandidates, loaded, profiles, included, templates, read,
    generated⟩ := produced
  obtain ⟨contents, made, rfl⟩ := generateBundleWithOptions_eq_ok.mp generated
  have selected : args.selected now = profiles := by
    rw [GenerateArgs.selected, loaded]
    dsimp only
    cases chosen : includedProfiles args.capacity rawCandidates args.params now args.signerKeyID with
    | none =>
      rw [chosen] at included
      cases included
    | some here =>
      rw [chosen] at included
      cases included
      rfl
  rw [← selected] at read made
  rw [← GenerateArgs.payload] at made
  exact ⟨recipientPub, templates, contents, recipient, foldlM_readTemplate read, made, rfl⟩

/-- The signature is over what the verifier checks it against. -/
theorem signedHeader_carries (signingKey : suite.PrivateKey) (opts : GenerateOptions)
    (contents : Sealed) :
    (signedHeader signingKey opts contents).signature =
      Base64.encode (suite.sign signingKey
        (signedBytes (signedHeader signingKey opts contents) contents.ciphertext)) := rfl

theorem GenerateArgs.visible_bundleID (args : GenerateArgs suite) (recipientPub : GoString)
    (now : Int64) : ∀ byte ∈ (args.options recipientPub now).bundleID, isVisible byte = true := by
  have start : (lit "bndl_").all isVisible = true := by decide
  intro byte member
  obtain first | rest := List.mem_append.mp member
  · obtain letters | digits := List.mem_append.mp first
    · exact List.all_eq_true.mp start byte letters
    · exact visible_itoa _ byte digits
  · obtain rfl | inside := List.mem_cons.mp rest
    · decide
    · exact visible_fingerprint16 suite _ byte inside

theorem GenerateArgs.bundleID_named (args : GenerateArgs suite) (recipientPub : GoString)
    (now : Int64) : isBlank (args.options recipientPub now).bundleID = false := by
  have letter : (0x62 : UInt8) ∈ lit "bndl_" := by decide
  exact isBlank_of_visible (List.mem_append_left _ (List.mem_append_left _ letter)) (by decide)

theorem signedHeader_utf8 {args : GenerateArgs suite} {now : Int64} {recipientPub : GoString}
    {contents : Sealed} (utf8 : Valid contents.cipher ∧ Valid contents.recipientKeyID) :
    (signedHeader args.signingKey ((args.options recipientPub now).defaults now) contents).Utf8 := by
  have magic : Valid (lit "SNB1") := by decide
  refine ⟨magic, ?_, args.signerKeyID_utf8, utf8.2, utf8.1, (Base64.ascii_encode _).valid⟩
  rw [signedHeader_bundleID, GenerateOptions.defaults_bundleID (args.bundleID_named ..)]
  exact (ascii_of_visible (args.visible_bundleID _ _)).valid

/-- The header that is signed passes exactly where neither sum of the clock overflows. -/
theorem headerOk_iff {args : GenerateArgs suite} {now : Int64} {recipientPub : GoString}
    {contents : Sealed} (forward : 0 ≤ args.bundleTTLSec)
    (cipher : contents.cipher = cipherAge ∧
        hasPrefix contents.recipientKeyID (lit "age-x25519:") = true ∨
      contents.cipher = cipherNone ∧ contents.recipientKeyID = lit "none") :
    HeaderOk (signedHeader args.signingKey ((args.options recipientPub now).defaults now) contents)
        args.signerKeyID now ↔
      0 < now ∧ now.toInt + 600 < 2 ^ 63 ∧ now.toInt + args.bundleTTLSec.toInt < 2 ^ 63 := by
  set opts := (args.options recipientPub now).defaults now with named
  have created : opts.createdAt = now := ite_self now
  have expires (positive : 0 < now) : opts.expiresAt = now + args.bundleTTLSec :=
    if_neg (add_ne_zero positive forward)
  have publisher : opts.signerKeyID = args.signerKeyID := rfl
  have seq : opts.seq = 1 := rfl
  have bundleID : isBlank opts.bundleID = false := by
    rw [named, GenerateOptions.defaults_bundleID (args.bundleID_named ..)]
    exact args.bundleID_named ..
  have minutes : (600 : Int64).toInt = 600 := by decide
  clear_value opts
  constructor
  · rintro ⟨-, -, -, -, past, -, -, future, unexpired, -⟩
    rw [signedHeader_createdAt, created] at past future
    rw [signedHeader_expiresAt, expires past] at unexpired
    have skew := (le_self_add_iff past (by decide)).mp future
    rw [minutes] at skew
    exact ⟨past, skew, (le_self_add_iff past forward).mp unexpired⟩
  · rintro ⟨positive, skew, expiry⟩
    have ahead := (le_self_add_iff positive forward).mpr expiry
    refine ⟨signedHeader_magic .., ?_, ?_, ?_, ?_, ?_, ?_, ?_, ?_, ?_⟩
    · rw [signedHeader_bundleID, bundleID]
    · rw [signedHeader_publisherKeyID, publisher]
      exact ⟨args.signerKeyID_named, rfl⟩
    · rw [signedHeader_seq, seq]
      decide
    · rw [signedHeader_createdAt, created]
      exact positive
    · rw [signedHeader_expiresAt, expires positive]
      exact Int64.lt_of_lt_of_le positive ahead
    · rw [signedHeader_createdAt, signedHeader_expiresAt, created, expires positive]
      exact ahead
    · rw [signedHeader_createdAt, created]
      rw [← minutes] at skew
      exact (le_self_add_iff positive (by decide)).mpr skew
    · rw [signedHeader_expiresAt, expires positive]
      exact ahead
    · rw [signedHeader_cipher, signedHeader_recipientKeyID]
      exact cipher

/-! ## Agreement -/

theorem templateKey_utf8 {p : Profile} (utf8 : p.Utf8) : Valid (templateKey p) := by
  unfold templateKey
  split_ifs
  · exact utf8.family
  · exact utf8.templateRef

/-- Only the minimum version may fall outside UTF-8. -/
theorem GenerateArgs.payload_utf8 {args : GenerateArgs suite} {now : Int64}
    {engine : TextTemplate.Engine Profile} {templates : Map GoString Template}
    (read : TemplatesRead args.templatesDir (args.selected now) templates)
    (fit : TemplatesFit engine args.templatesDir (args.selected now)) {version : GoString}
    (utf8 : Valid version) :
    { args.payload templates now with minAgentVersion := version }.Utf8 := by
  have included := args.selected_ok now
  have time : Valid (itoa now.toInt) := (ascii_of_visible (visible_itoa _)).valid
  have names : Valid (lit "issuer_key_id") ∧ Valid (lit "created_at") := by decide
  refine ⟨utf8, included.utf8, fun id member => (nomatch member), fun entry member => ?_,
    fun entry member => ?_⟩
  · obtain ⟨p, inside, key, file⟩ := read.files _ _ ((Map.find?_eq_some _).mpr member)
    exact ⟨key ▸ templateKey_utf8 (included.utf8 p inside), (fit p inside _ file).1⟩
  · have found := (Map.find?_eq_some _).mpr member
    simp only [GenerateArgs.payload, generatedPayload, Map.find?_insert, Map.find?_empty] at found
    split_ifs at found with created issuer
    · exact ⟨created ▸ names.2, Option.some.inj found ▸ time⟩
    · exact ⟨issuer ▸ names.1, Option.some.inj found ▸ args.signerKeyID_utf8⟩

/-- The generated payload, checked at the time it was made. -/
theorem GenerateArgs.payload_ok {args : GenerateArgs suite} {now : Int64}
    {engine : TextTemplate.Engine Profile} {templates : Map GoString Template}
    (read : TemplatesRead args.templatesDir (args.selected now) templates)
    (fit : TemplatesFit engine args.templatesDir (args.selected now))
    (version : isBlank args.minAgentVersion = false) (agreed : args.Agreed now)
    {header : BundleHeader} (publisher : header.publisherKeyID = args.signerKeyID) :
    PayloadOk engine header now (args.payload templates now) ∧
      (args.selected now).map Profile.sortTags = args.selected now := by
  have included := args.selected_ok now
  have settled (p : Profile) (member : p ∈ args.selected now) :
      p.retagged.deepEqual p.sortTags ∧ p.sortTags = p :=
    (included.normal p member).deepEqual_iff.mpr (agreed.tags p member)
  have sorted : (args.selected now).map Profile.sortTags = args.selected now := by
    conv_rhs => rw [← List.map_id (args.selected now)]
    exact List.map_congr_left fun p member => (settled p member).2
  refine ⟨⟨rfl, version, ?_, fun p member => ?_, included.distinctIDs, included.distinctEndpoints,
    fun k v found => ?_, read.complete⟩, sorted⟩
  · rw [publisher]
    refine ⟨args.signerKeyID_named, ?_⟩
    have apart : lit "created_at" ≠ lit "issuer_key_id" := by decide
    simp [GenerateArgs.payload, generatedPayload, apart]
  · have normal := included.normal p member
    refine ⟨⟨p.retagged, by rw [normalizeForWire_normal normal], (settled p member).1⟩, ?_,
      normal.complete.unexpired, normal.complete.ordered⟩
    rw [publisher, included.publisher p member]
    exact ⟨args.signerKeyID_named, rfl⟩
  · change TemplateOk engine ((args.selected now).map Profile.sortTags) k v
    rw [sorted]
    exact read.templateOk fit included.normal agreed.keys found

/-- Profiles that the verifier lets through unchanged have their tags in order, and no template key
that is a dot. -/
theorem GenerateArgs.agreed_of_ok {args : GenerateArgs suite} {now : Int64}
    {engine : TextTemplate.Engine Profile} {templates : Map GoString Template}
    {header : BundleHeader} (ok : PayloadOk engine header now (args.payload templates now))
    (sorted : (args.selected now).map Profile.sortTags = args.selected now) :
    ∀ p ∈ args.selected now, p.templateRef ≠ lit "." ∧
      (p.capabilities.dpiResistanceTags.getD []).Pairwise (· < ·) := by
  intro p member
  have normal := (args.selected_ok now).normal p member
  refine ⟨fun dot => ?_, ?_⟩
  · obtain ⟨template, found⟩ := Option.isSome_iff_exists.mp (ok.complete p member)
    obtain ⟨-, -, -, -, key⟩ := normal.templateKey_name
    apply (ok.templates _ _ found).inside.1
    rw [key.mpr dot]
    decide
  · obtain ⟨np, normalized, same⟩ := (ok.profiles p member).normalized
    rw [normalizeForWire_normal normal] at normalized
    cases normalized
    have kept : ∀ q ∈ args.selected now, q.sortTags = id q :=
      List.map_inj_left.mp (by rw [sorted, List.map_id])
    exact normal.deepEqual_iff.mp ⟨same, kept p member⟩

section

variable {engine : TextTemplate.Engine Profile} {args : GenerateArgs suite} {now : Int64}
  {bundle : Bytes} {identity : Option suite.Identity} {requireDecrypt : Bool}

/-- What the verifier reads from a generated bundle is what was put into it. -/
theorem agreed_of_verified (sound : suite.Sound) (produced : runGenerate args now = .ok bundle)
    (fit : TemplatesFit engine args.templatesDir (args.selected now))
    (forward : 0 ≤ args.bundleTTLSec) (matching : Matching suite args.recipientFile identity)
    (verified : ∃ payload, verifiedPayload suite engine bundle (suite.publicKey args.signingKey)
        ⟨now, identity, requireDecrypt⟩ now = some payload ∧
      payload.profiles = some (args.selected now)) : args.Agreed now := by
  have clock : VerifyOptions.now ⟨now, identity, requireDecrypt⟩ now = now := ite_self now
  obtain ⟨recipientPub, templates, contents, recipient, read, made, rfl⟩ :=
    runGenerate_eq_ok produced
  obtain ⟨cipher, contentsUtf8, opens⟩ := sealPayload_ok sound matching recipient rfl made
  simp only [verifiedPayload_eq_some, clock] at verified
  obtain ⟨payload, ⟨wrapper, ciphertext, signature, text, decoded, accepted, rfl⟩, returned⟩ :=
    verified
  set header := signedHeader args.signingKey ((args.options recipientPub now).defaults now) contents
    with signed
  have headerUtf8 : header.Utf8 := signedHeader_utf8 contentsUtf8
  have textUtf8 : Valid (Base64.encode contents.ciphertext) := (Base64.ascii_encode _).valid
  have parsed : decodeStrict Wrapper.codec {} (marshal Wrapper.codec
      ⟨header, Base64.encode contents.ciphertext⟩) = some ⟨header, Base64.encode contents.ciphertext⟩ :=
    decodeStrict_wrapper headerUtf8 textUtf8
  obtain rfl := Option.some.inj (accepted.parses.symm.trans parsed)
  obtain rfl : ciphertext = contents.ciphertext :=
    Option.some.inj (accepted.signed.decodes.symm.trans (Base64.decode_encode _))
  obtain rfl := (opens _ rfl rfl text).mp accepted.opens
  have valid : Valid args.minAgentVersion :=
    BundlePayload.version_utf8 (args.payload_utf8 read fit (by decide))
      (decodeStrict_payload_utf8 accepted.reads) accepted.canonical.symm
  have read' := decodeStrict_canonical (args.payload_utf8 read fit valid)
  obtain rfl := Option.some.inj (accepted.reads.symm.trans read')
  have each := args.agreed_of_ok accepted.payload (Option.some.inj returned)
  obtain ⟨positive, skew, expiry⟩ := (headerOk_iff forward cipher).mp accepted.header
  exact ⟨positive, skew, expiry, valid, fun p member => (each p member).1,
    fun p member => (each p member).2⟩

/-- Where both sides agree, the verifier accepts what the generator makes. -/
theorem verified_of_agreed (sound : suite.Sound) (produced : runGenerate args now = .ok bundle)
    (fit : TemplatesFit engine args.templatesDir (args.selected now))
    (version : isBlank args.minAgentVersion = false) (forward : 0 ≤ args.bundleTTLSec)
    (matching : Matching suite args.recipientFile identity) (agreed : args.Agreed now) :
    ∃ payload, verifiedPayload suite engine bundle (suite.publicKey args.signingKey)
        ⟨now, identity, requireDecrypt⟩ now = some payload ∧
      payload.profiles = some (args.selected now) := by
  have clock : VerifyOptions.now ⟨now, identity, requireDecrypt⟩ now = now := ite_self now
  obtain ⟨recipientPub, templates, contents, recipient, read, made, rfl⟩ :=
    runGenerate_eq_ok produced
  obtain ⟨cipher, contentsUtf8, opens⟩ := sealPayload_ok sound matching recipient rfl made
  set header := signedHeader args.signingKey ((args.options recipientPub now).defaults now) contents
    with signed
  have publisher : header.publisherKeyID = args.signerKeyID := rfl
  obtain ⟨ok, sorted⟩ := args.payload_ok read fit version agreed publisher
  have accepted := accepted_of_signed suite (signedHeader_carries ..)
    (signedHeader_utf8 contentsUtf8)
    ((headerOk_iff forward cipher).mpr ⟨agreed.clock, agreed.skew, agreed.expiry⟩)
    (sound.verifies _ _) ((opens header rfl rfl _).mpr rfl)
    (args.payload_utf8 read fit agreed.version) ok
  simp only [verifiedPayload_eq_some, clock]
  exact ⟨_, ⟨_, _, _, _, _, accepted, rfl⟩, congrArg some sorted⟩

/-- What `runGenerate` makes is accepted with the selected profiles exactly when both sides agree. -/
theorem runGenerate_verifies_iff (sound : suite.Sound) (produced : runGenerate args now = .ok bundle)
    (fit : TemplatesFit engine args.templatesDir (args.selected now))
    (version : isBlank args.minAgentVersion = false) (forward : 0 ≤ args.bundleTTLSec)
    (matching : Matching suite args.recipientFile identity) :
    (∃ payload, verifiedPayload suite engine bundle (suite.publicKey args.signingKey)
        ⟨now, identity, requireDecrypt⟩ now = some payload ∧
      payload.profiles = some (args.selected now)) ↔ args.Agreed now :=
  ⟨agreed_of_verified sound produced fit forward matching,
    verified_of_agreed sound produced fit version forward matching⟩

end

/-! ## Runs on record -/

/-- A file with one candidate, with these tags. -/
def recordedCandidates (tags : String) : Bytes :=
  lit ("[\x7b\"id\":\"p1\",\"family\":\"reality\",\"endpoint\":\x7b\"host\":\"h\",\"port\":443\x7d," ++
    "\"capabilities\":\x7b\"transport\":\"tcp\",\"dpi_resistance_tags\":" ++ tags ++ "\x7d," ++
    "\"credentials\":\x7b\"uuid\":\"u\",\"public_key\":\"k\",\"short_id\":\"s\",\"sni\":\"n\"," ++
    "\"utls_fingerprint\":\"c\"\x7d,\"source\":\x7b\"source\":\"list\",\"trust_level\":80\x7d\x7d]")

def recordedArgs {calls : Suite} (signingKey : calls.PrivateKey) (tags : String) :
    GenerateArgs calls where
  profilesFile := some (recordedCandidates tags)
  profilesDir := none
  templatesDir name := if name = lit "reality.json" then some (lit "\x7b\x7d") else none
  signingKey
  recipientFile := none
  allowPlaintext := true
  minAgentVersion := lit "1.0.0"
  bundleTTLSec := 604800
  maxProfiles := 20
  maxPerFamily := 0
  random := []
  capacity := 1000

def increasingTags : String := "[\"a\",\"b\"]"

/-- Sorted as bytes, but not once in lower case. -/
def mixedTags : String := "[\"A\",\"B\",\"a\"]"

def recordedContents (tags : String) : Sealed :=
  let args : GenerateArgs recordedCalls := recordedArgs () tags
  let templates := (∅ : Map GoString Template).insert familyReality ⟨lit "\x7b\x7d"⟩
  ⟨marshalCanonicalPayload (args.payload templates 1500), cipherNone, lit "none"⟩

def recordedUnsigned (tags : String) : BundleHeader :=
  let args : GenerateArgs recordedCalls := recordedArgs () tags
  unsignedHeader ((args.options [] 1500).defaults 1500) (recordedContents tags)

def recordedRun (tags : String) (signature : Bytes) : Bytes :=
  marshal Wrapper.codec ⟨{ recordedUnsigned tags with signature := Base64.encode signature },
    Base64.encode (recordedContents tags).ciphertext⟩

def increasingSignature : Bytes :=
  (Base64.decode (lit
    "qBNJ3ZD9xmJspDF-GRd4h8-d92NIaJHc9vFUz_yLK97tPtH5VwltWUT6WxWv_dykMWHOaMHlzBrxCnOYJ7pwAg")).getD []

def mixedSignature : Bytes :=
  (Base64.decode (lit
    "Iqode2CEN-YrB8XS3FibTyTizwO0As6YQwXVpYhrQ_lrkg9bFgghU2r-KwHPSQG_foMS3bf89UsZxAPam22hBg")).getD []

def generatorCalls : Suite :=
  recordedSuite recordedKey
    [(recordedKey.val,
        (Base64.decode (lit "E545QOZLVJFyIIjZoNdBYo_IJuCUddNBp4Cs3jxLgHA")).getD []),
      (recordedRun increasingTags increasingSignature,
        (Base64.decode (lit "WNfdaYJeh4QSus22be93ZgbC5soGDXJDIlK22FVs5H8")).getD []),
      (recordedRun mixedTags mixedSignature,
        (Base64.decode (lit "yCvKCzJflsGZ-OXPYEa7pbrdv6xv901htwsZ2SnD8ZY")).getD [])]
    [(signedBytes (recordedUnsigned increasingTags) (recordedContents increasingTags).ciphertext,
        increasingSignature),
      (signedBytes (recordedUnsigned mixedTags) (recordedContents mixedTags).ciphertext,
        mixedSignature)]

theorem generatorCalls_sound : generatorCalls.Sound := recordedSuite_sound _ _ _

def recordedGenerator (tags : String) : GenerateArgs generatorCalls := recordedArgs () tags

theorem recordedGenerator_fit (tags : String) (profiles : List Profile) :
    TemplatesFit plainEngine (recordedGenerator tags).templatesDir profiles := by
  intro p _ text file
  have only : text = lit "\x7b\x7d" := by
    simp only [recordedGenerator, recordedArgs] at file
    split_ifs at file
    exact (Option.some.inj file).symm
  have plain : TextTemplate.pieces (lit "\x7b\x7d") = some [.text (lit "\x7b\x7d")] := by
    decide
  subst only
  refine ⟨by decide, lit "\x7b\x7d", ?_, by decide⟩
  rw [TextTemplate.Engine.render, plain]
  rfl

theorem recordedGenerator_produces {tags : String}
    (succeeds : (runGenerate (recordedGenerator tags) 1500).isOk = true) :
    ∃ bundle, runGenerate (recordedGenerator tags) 1500 = .ok bundle := by
  cases made : runGenerate (recordedGenerator tags) 1500 with
  | error text =>
    rw [made] at succeeds
    cases succeeds
  | ok bundle => exact ⟨bundle, rfl⟩

/-- The generator on record, with tags in order. -/
theorem recordedGenerator_verifies_iff :
    ∃ bundle, runGenerate (recordedGenerator increasingTags) 1500 = .ok bundle ∧
      ((∃ payload, verifiedPayload generatorCalls plainEngine bundle recordedKey
            ⟨1500, none, false⟩ 1500 = some payload ∧
          payload.profiles = some ((recordedGenerator increasingTags).selected 1500)) ↔
        (recordedGenerator increasingTags).Agreed 1500) := by
  obtain ⟨bundle, produced⟩ := @recordedGenerator_produces increasingTags (by decide +kernel)
  exact ⟨bundle, produced, runGenerate_verifies_iff generatorCalls_sound produced
    (recordedGenerator_fit _ _) (by decide) (by decide) (fun _ given => nomatch given)⟩

/-- Tags that are equal only in lower case stay apart in the bundle, and its profile is not normal. -/
theorem mixedTags_rejected :
    ∃ bundle, runGenerate (recordedGenerator mixedTags) 1500 = .ok bundle ∧
      TemplatesFit plainEngine (recordedGenerator mixedTags).templatesDir
        ((recordedGenerator mixedTags).selected 1500) ∧
      isBlank (recordedGenerator mixedTags).minAgentVersion = false ∧
      0 ≤ (recordedGenerator mixedTags).bundleTTLSec ∧
      Matching generatorCalls (recordedGenerator mixedTags).recipientFile none ∧
      ¬ ∃ payload, verifiedPayload generatorCalls plainEngine bundle recordedKey
          ⟨1500, none, false⟩ 1500 = some payload ∧
        payload.profiles = some ((recordedGenerator mixedTags).selected 1500) := by
  obtain ⟨bundle, produced⟩ := @recordedGenerator_produces mixedTags (by decide +kernel)
  have fit := recordedGenerator_fit mixedTags ((recordedGenerator mixedTags).selected 1500)
  have forward : 0 ≤ (recordedGenerator mixedTags).bundleTTLSec := by decide
  have matching : Matching generatorCalls (recordedGenerator mixedTags).recipientFile none :=
    fun _ given => nomatch given
  refine ⟨bundle, produced, fit, by decide, forward, matching, fun verified => ?_⟩
  have agreed := agreed_of_verified generatorCalls_sound produced fit forward matching verified
  have tags : ((recordedGenerator mixedTags).selected 1500).map
      (·.capabilities.dpiResistanceTags) = [some [lit "a", lit "b", lit "a"]] := by decide +kernel
  obtain ⟨p, selected, own⟩ := List.map_eq_singleton_iff.mp tags
  have increasing := agreed.tags p (by rw [selected]; exact List.mem_singleton_self p)
  rw [own] at increasing
  revert increasing
  decide

end ShadowNet
