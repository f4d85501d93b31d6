import ShadowNet.Outside.Delivery

/-! # The `verify` command

`outside verify` reads a bundle from a file, a URI or a file with a URI, and checks it against one
signer key. What it accepts with `--require-decrypt` is what a device that trusts the key imports at
that time.
-/

namespace ShadowNet

open Go Go.Json

/-- The flags of `verify`. -/
structure VerifyArgs where
  bundlePath : GoString := []
  uri : GoString := []
  uriFile : GoString := []
  signerPubPath : GoString := []
  ageIdentityPath : GoString := []
  requireDecrypt : Bool := false

variable {suite : Suite} (texts : KeyTexts suite)

/-- The bytes that `runVerify` checks. -/
def verifySource (files : Files GoString) (args : VerifyArgs) : Except Message Bytes :=
  if isBlank args.bundlePath = false then orError (files args.bundlePath) ⟨"%w", [.foreign]⟩
  else if isBlank args.uriFile = false then do
    let b ← orError (files args.uriFile) ⟨"%w", [.foreign]⟩
    let u := trimSpace b
    require (u ≠ []) ⟨"empty uri file", []⟩
    (decodeBundleURI u).mapError fun text => ⟨"%w", [.str text]⟩
  else (decodeBundleURI (trimSpace args.uri)).mapError fun text => ⟨"%w", [.str text]⟩

/-- The identity that `runVerify` decrypts with. -/
def verifyIdentity (files : Files GoString) (args : VerifyArgs) :
    Except Message (Option suite.Identity) :=
  if isBlank args.ageIdentityPath = false then do
    let (id, _) ← (loadAgeIdentityFile texts (files args.ageIdentityPath)).mapError
      fun _ => ⟨"load age identity: %w", [.foreign]⟩
    return some id
  else return none

/-- The two returns of `VerifyBundle` as one. -/
def verifyOutcome : Option VerifyResult × Option VerifyFailure → Except ImportFailure (Option VerifyResult)
  | (res, none) => .ok res
  | (_, some failure) => .error (.invalid failure)

/-- `runVerify` up to what it prints. -/
def runVerify (engine : TextTemplate.Engine Profile) (files : Files GoString) (args : VerifyArgs)
    (clock : Int64) : Except ImportFailure (Option VerifyResult) := do
  require (¬ (isBlank args.bundlePath = true ∧ isBlank args.uri = true ∧ isBlank args.uriFile = true))
    (.message ⟨"missing --bundle or --uri or --uri-file", []⟩)
  require (isBlank args.signerPubPath = false) (.message ⟨"missing --signer-pub", []⟩)
  let (pub, _) ← (loadEd25519PublicKeyFile suite (files args.signerPubPath)).mapError
    fun _ => .message ⟨"load signer pub: %w", [.foreign]⟩
  let raw ← (verifySource files args).mapError .message
  let ageIdentity ← (verifyIdentity texts files args).mapError .message
  verifyOutcome (verifyBundle suite engine raw pub ⟨0, ageIdentity, args.requireDecrypt⟩ clock)

-- Comparing two calls of the verifier must not unfold it.
attribute [local irreducible] verifyBundle

variable {texts} {engine : TextTemplate.Engine Profile} {files : Files GoString} {args : VerifyArgs}
  {clock : Int64}

/-- The command succeeds exactly where the verifier does. -/
theorem verifyOutcome_eq_ok {raw : Bytes} {pub : PublicKey} {opts : VerifyOptions suite}
    {payload : BundlePayload} :
    (∃ res, verifyOutcome (verifyBundle suite engine raw pub opts clock) = .ok (some res) ∧
      res.payload = some payload) ↔
      verifiedPayload suite engine raw pub opts clock = some payload := by
  unfold verifiedPayload
  obtain ⟨res, failure⟩ := verifyBundle suite engine raw pub opts clock
  cases res <;> cases failure <;> simp [verifyOutcome]

/-- With its files in place the command goes as far as the verifier. -/
theorem runVerify_eq_ok {pub : PublicKey} {keyID : GoString} {identity : Option suite.Identity}
    (given : ¬ (isBlank args.bundlePath = true ∧ isBlank args.uri = true ∧
      isBlank args.uriFile = true))
    (signer : isBlank args.signerPubPath = false)
    (loaded : loadEd25519PublicKeyFile suite (files args.signerPubPath) = .ok (pub, keyID))
    (opened : verifyIdentity texts files args = .ok identity) {payload : BundlePayload} :
    (∃ res, runVerify texts engine files args clock = .ok (some res) ∧ res.payload = some payload) ↔
      ∃ raw, verifySource files args = .ok raw ∧
        verifiedPayload suite engine raw pub ⟨0, identity, args.requireDecrypt⟩ clock =
          some payload := by
  simp only [← verifyOutcome_eq_ok, runVerify, bind_eq_ok, require_eq_ok, mapError_eq_ok, loaded,
    opened, Except.ok.injEq]
  constructor
  · rintro ⟨res, ⟨-, -, -, -, _, rfl, raw, source, _, rfl, outcome⟩, own⟩
    exact ⟨raw, source, res, outcome, own⟩
  · rintro ⟨raw, source, res, outcome, own⟩
    exact ⟨res, ⟨(), given, (), signer, _, rfl, raw, source, identity, rfl, outcome⟩, own⟩

/-- An importer that trusts one key imports what the verifier lets through under that key. -/
theorem parseBytes_singleton {pub : PublicKey} {identity : Option suite.Identity} {raw : Bytes}
    {payload : BundlePayload} :
    ((newImporter suite [pub] identity).parseBytes engine raw clock).2 = .ok payload ↔
      verifiedPayload suite engine raw pub ⟨0, identity, true⟩ clock = some payload := by
  constructor
  · intro parsed
    obtain ⟨key, trusted, verified⟩ := parseBytes_sound parsed
    obtain rfl := List.mem_singleton.mp trusted
    exact verified
  · intro verified
    apply parseBytes_finds (List.mem_singleton_self pub) verified
    intro earlier tried
    rw [List.mem_singleton.mp ((List.takeWhile_sublist _).subset tried)]

/-- The flags that hand a received file to `verify`: as a URI if it has one. -/
def VerifyArgs.ofReceived (path raw signerPubPath ageIdentityPath : GoString) : VerifyArgs :=
  { bundlePath := if hasPrefix (trimSpace raw) (lit "snb://v2:") then [] else path
    uriFile := if hasPrefix (trimSpace raw) (lit "snb://v2:") then path else []
    signerPubPath
    ageIdentityPath
    requireDecrypt := true }

/-- `verify --require-decrypt` predicts what a device that trusts the key imports from a file. -/
theorem runVerify_predicts {path raw signerPubPath ageIdentityPath keyID : GoString}
    {pub : PublicKey} {identity : Option suite.Identity} (named : isBlank path = false)
    (received : files path = some raw) (signer : isBlank signerPubPath = false)
    (loaded : loadEd25519PublicKeyFile suite (files signerPubPath) = .ok (pub, keyID))
    (opened : verifyIdentity texts files (.ofReceived path raw signerPubPath ageIdentityPath) =
      .ok identity) (payload : BundlePayload) :
    (∃ res, runVerify texts engine files (.ofReceived path raw signerPubPath ageIdentityPath) clock =
        .ok (some res) ∧ res.payload = some payload) ↔
      ((newImporter suite [pub] identity).importFile engine (some raw) clock).2 = .ok payload := by
  have blank : isBlank [] = true := rfl
  rw [runVerify_eq_ok _ signer loaded opened]
  · unfold Importer.importFile Importer.parseURI
    dsimp only
    cases uri : hasPrefix (trimSpace raw) (lit "snb://v2:") with
    | false =>
      simp only [verifySource, VerifyArgs.ofReceived, uri, Bool.false_eq_true, if_false, named,
        if_true, received, orError, Option.elim_some, Except.ok.injEq, exists_eq_left',
        parseBytes_singleton]
    | true =>
      have filled : trimSpace raw ≠ [] := by
        intro empty
        rw [empty] at uri
        revert uri
        decide
      simp only [verifySource, VerifyArgs.ofReceived, uri, if_true, blank, Bool.true_eq_false,
        if_false, named, received, orError, Option.elim_some, bind_eq_ok, require_eq_ok,
        mapError_eq_ok, Except.ok.injEq, exists_eq_left', filled, ne_eq, not_false_eq_true,
        exists_const, decodeBundleURI, trimSpace_trimSpace]
      cases Base64.decode ((trimSpace raw).drop 9) with
      | none => simp
      | some bundle => simp [parseBytes_singleton]
  · cases uri : hasPrefix (trimSpace raw) (lit "snb://v2:") <;>
      simp [VerifyArgs.ofReceived, uri, named]

def recordedFiles : Files GoString := fun path =>
  if path = lit "bundle" then some recordedBundle
  else if path = lit "key.pub" then some (textLine (Base64.encode recordedKey.val))
  else none

/-- The bundle on record passes the command. -/
theorem recordedBundle_predicted : ∃ res,
    runVerify recordedTexts plainEngine recordedFiles
        (.ofReceived (lit "bundle") recordedBundle (lit "key.pub") []) 1500 = .ok (some res) ∧
      res.payload = some recordedPayload.sortTags := by
  have loaded : loadEd25519PublicKeyFile recordedCalls (recordedFiles (lit "key.pub")) =
      .ok (recordedKey, ed25519KeyID recordedCalls recordedKey) :=
    loadEd25519PublicKeyFile_textLine recordedKey
  have received : recordedFiles (lit "bundle") = some recordedBundle := if_pos rfl
  have brace : recordedBundle.head? = some 0x7B := by
    rw [recordedBundle, marshal, Wrapper.codec, Codec.struct, encode_obj]
    exact List.head?_cons
  apply (runVerify_predicts (by decide) received (by decide) loaded rfl _).mpr
  rw [importFile_form brace (.inl rfl)]
  exact parseBytes_singleton.mpr recordedBundle_verified

end ShadowNet
