import ShadowNet.Bundle.Crypto
import ShadowNet.Bundle.Types
import ShadowNet.Go.Path
import ShadowNet.Profile.Normalize
import ShadowNet.Profile.Template

/-! # Verifying bundles

`VerifyBundle` in the order of its checks. Header checks collect their issues before anything is
decided; the signature is checked over the header without its signature, followed by the ciphertext;
the payload must be decoded strictly, canonical, and pass `validatePayloadStrict`, which sorts the
tags of the profiles it looks at in place. Messages keep their format and arguments.
-/

namespace ShadowNet

open Go Go.Json

/-- An argument of a formatted message; texts of other packages' errors are not kept. -/
inductive Arg where
  | str (text : GoString)
  | int (value : ℤ)
  | err (text : String)
  | foreign
deriving DecidableEq, Repr

structure Message where
  format : String
  args : List Arg := []
deriving DecidableEq, Repr

structure VerifyIssue where
  code : String
  message : Message
deriving DecidableEq, Repr

def issue (code : String) (format : String) (args : List Arg) : VerifyIssue := ⟨code, ⟨format, args⟩⟩

/-- The issue that a failed check adds. -/
def check (ok : Prop) [Decidable ok] (code : String) (format : String) (args : List Arg) :
    List VerifyIssue :=
  if ok then [] else [issue code format args]

/-- The errors `VerifyBundle` returns: a `VerifyError` with its issues, or one of the sentinel
errors. -/
inductive VerifyFailure where
  | issues (issues : List VerifyIssue)
  | invalidSignature
  | decryptionFailed (detail : Message)
deriving DecidableEq, Repr

structure VerifyOptions (suite : Suite) where
  nowUnix : Int64
  ageIdentity : Option suite.Identity
  requireDecrypt : Bool

/-- The time a bundle is verified at; `clock` is read where the options name no time. -/
def VerifyOptions.now {suite : Suite} (opts : VerifyOptions suite) (clock : Int64) : Int64 :=
  if opts.nowUnix = 0 then clock else opts.nowUnix

structure VerifyResult where
  header : BundleHeader
  signerKeyIDExpected : GoString
  bundleSHA256B64URL : GoString
  payload : Option BundlePayload
deriving DecidableEq

variable (suite : Suite)

def cipherAge : GoString := lit "age-x25519"

def cipherNone : GoString := lit "none"

/-- The issues of a header, and of the base64 texts of the bundle. -/
def headerIssues (header : BundleHeader) (expected : GoString) (now : Int64)
    (ciphertext signature : Option Bytes) : List VerifyIssue :=
  check (header.magic = lit "SNB1") "header_magic" "invalid magic (expected SNB1)" [] ++
  check (isBlank header.bundleID = false) "header_bundle_id" "missing bundle_id" [] ++
  (if isBlank header.publisherKeyID then
    [issue "header_publisher_key_id" "missing publisher_key_id" []]
  else
    check (header.publisherKeyID = expected) "issuer_mismatch"
      "publisher_key_id=%q does not match trusted signer key id=%q"
      [.str header.publisherKeyID, .str expected]) ++
  check (header.seq ≠ 0) "header_seq" "seq must be > 0" [] ++
  check (0 < header.createdAt) "header_created_at" "created_at must be > 0" [] ++
  check (0 < header.expiresAt) "header_expires_at" "expires_at must be > 0" [] ++
  check (0 < header.createdAt → 0 < header.expiresAt → header.createdAt ≤ header.expiresAt)
    "header_time_order" "expires_at must be >= created_at" [] ++
  check (header.createdAt ≤ now + 600) "header_future"
    "created_at is too far in the future (clock skew)" [] ++
  check (now ≤ header.expiresAt) "expired" "bundle expired" [] ++
  (if header.cipher = cipherAge then
    check (hasPrefix header.recipientKeyID (lit "age-x25519:") = true) "recipient_key_id"
      "age-x25519 bundles must have recipient_key_id starting with age-x25519:" []
  else if header.cipher = cipherNone then
    check (header.recipientKeyID = lit "none") "recipient_key_id"
      "cipher=\"none\" requires recipient_key_id=\"none\"" []
  else [issue "cipher" "unknown cipher" []]) ++
  check (ciphertext.isSome = true) "ciphertext_b64" "invalid ciphertext base64url" [] ++
  check (signature.isSome = true) "signature_b64" "invalid signature base64url" []

/-- The bytes a bundle's signature is over. -/
def signedBytes (header : BundleHeader) (ciphertext : Bytes) : Bytes :=
  marshal BundleHeader.codec { header with signature := [] } ++ ciphertext

def decryptPayloadBytes (header : BundleHeader) (ciphertext : Bytes)
    (identity : Option suite.Identity) : Except VerifyFailure Bytes :=
  if header.cipher = cipherNone then .ok ciphertext
  else if header.cipher = cipherAge then
    match identity with
    | none => .error (.decryptionFailed ⟨"%w: missing age identity", []⟩)
    | some identity =>
        let expected := ageKeyID suite (suite.recipientString (suite.recipient identity))
        if trimSpace header.recipientKeyID = expected then
          match suite.decrypt identity ciphertext with
          | .ok text => .ok text
          | .error .header => .error (.decryptionFailed ⟨"%w: %v", [.foreign]⟩)
          | .error .read =>
              .error (.issues [issue "decrypt" "read decrypted payload: %w" [.foreign]])
        else
          .error (.decryptionFailed
            ⟨"%w: recipient_key_id mismatch (expected %s)", [.str expected]⟩)
  else .error (.issues [issue "decrypt" "unknown cipher" []])

/-! ## Payloads -/

/-- `fmt.Sprintf("%s|%s|%d", family, host, port)`. -/
def endpointKey (p : Profile) : GoString :=
  p.family ++ 0x7C :: (p.endpoint.host ++ 0x7C :: itoa p.endpoint.port.toInt)

/-- The loop over profiles in `validatePayloadStrict`. -/
structure ProfileScan where
  /-- The profiles looked at, as the calls to `normalizeForWire` left them. -/
  seen : List Profile := []
  seenIDs : List GoString := []
  seenEndpoints : List GoString := []
  issues : List VerifyIssue := []

/-- The issues of one profile `p` that normalizes to `np`. -/
def profileIssues (header : BundleHeader) (now : Int64) (scan : ProfileScan) (p np : Profile) :
    List VerifyIssue :=
  let place : List Arg := [.int scan.seen.length, .str p.id]
  check (np.deepEqual p) "profile_not_normalized" "profiles[%d] id=%q is not normalized" place ++
  (if isBlank p.source.publisherKey then
    [issue "profile_issuer_missing" "profiles[%d] id=%q missing source.publisher_key" place]
  else
    check (p.source.publisherKey = header.publisherKeyID) "profile_issuer_mismatch"
      "profiles[%d] id=%q source.publisher_key mismatch" place) ++
  check (p.id ∉ scan.seenIDs) "profile_duplicate_id" "duplicate profile id=%q" [.str p.id] ++
  check (endpointKey p ∉ scan.seenEndpoints) "profile_duplicate_endpoint" "duplicate endpoint=%s"
    [.str (endpointKey p)] ++
  check (p.expiresAt ≠ 0 → now < p.expiresAt) "profile_expired" "profiles[%d] id=%q expired" place ++
  check (p.expiresAt ≠ 0 → p.createdAt ≤ p.expiresAt) "profile_time_order"
    "profiles[%d] id=%q expires_at < created_at" place

def scanProfile (header : BundleHeader) (now : Int64) (scan : ProfileScan) (profile : Profile) :
    ProfileScan :=
  match normalizeForWire profile now with
  | (p, .error text) =>
      { scan with
        seen := scan.seen ++ [p]
        issues := scan.issues ++ [issue "profile_invalid" "profiles[%d] id=%q: %v"
          [.int scan.seen.length, .str p.id, .err text]] }
  | (p, .ok np) =>
      { seen := scan.seen ++ [p]
        seenIDs := p.id :: scan.seenIDs
        seenEndpoints := endpointKey p :: scan.seenEndpoints
        issues := scan.issues ++ profileIssues header now scan p np }

def scanProfiles (header : BundleHeader) (now : Int64) (profiles : List Profile) : ProfileScan :=
  profiles.foldl (scanProfile header now) {}

/-- What is wrong with one template; its sample is the first profile that uses its key. -/
def templateIssues (engine : TextTemplate.Engine Profile) (profiles : List Profile)
    (entry : GoString × Template) : List VerifyIssue :=
  let (k, v) := entry
  let clean := pathClean k
  if isBlank k then [issue "template_key" "empty template key" []]
  else if 0x5C ∈ k then [issue "template_key" "invalid template key=%q" [.str k]]
  else if clean = lit "." ∨ clean = lit ".." ∨ hasPrefix clean (lit "../") ∨ hasPrefix clean (lit "/")
  then [issue "template_key" "invalid template key=%q" [.str k]]
  else if isBlank v.templateText then
    [issue "template_text" "empty template_text for key=%q" [.str k]]
  else
    match profiles.find? fun p => templateKey p = k with
    | none => []
    | some sample =>
        match engine.render v.templateText sample with
        | .error .parse =>
            [issue "template_render" "failed to parse template for key=%q: %v" [.str k, .foreign]]
        | .error .execute =>
            [issue "template_render" "failed to execute template for key=%q: %v" [.str k, .foreign]]
        | .ok text =>
            check (Json.valid (trimSpace text) = true) "template_render"
              "rendered template is not valid JSON for key=%q" [.str k]

/-- The payload with its tags sorted in place, and the issues found. -/
def validatePayloadStrict (engine : TextTemplate.Engine Profile) (payload : BundlePayload)
    (header : BundleHeader) (now : Int64) : BundlePayload × List VerifyIssue :=
  let issuer := (payload.notes.find? (lit "issuer_key_id")).getD []
  let scan := scanProfiles header now (payload.profiles.getD [])
  let issues :=
    check (payload.schemaVersion = 1) "schema_version" "unsupported schema_version=%d"
      [.int payload.schemaVersion.toInt] ++
    check (isBlank payload.minAgentVersion = false) "min_agent_version" "missing min_agent_version"
      [] ++
    (if isBlank issuer then [issue "issuer_note" "missing notes.issuer_key_id" []]
    else
      check (issuer = header.publisherKeyID) "issuer_note_mismatch"
        "notes.issuer_key_id must match header.publisher_key_id" []) ++
    scan.issues ++
    payload.templates.entries.flatMap (templateIssues engine scan.seen) ++
    scan.seen.flatMap fun p =>
      check ((payload.templates.find? (templateKey p)).isSome = true) "template_missing"
        "missing template for profile id=%q key=%q" [.str p.id, .str (templateKey p)]
  ({ payload with profiles := payload.profiles.map fun _ => scan.seen }, issues)

/-! ## The verifier -/

/-- The checks on a payload's plaintext. -/
def verifyPayload (engine : TextTemplate.Engine Profile) (payloadBytes : Bytes)
    (header : BundleHeader) (now : Int64) : Except VerifyFailure BundlePayload :=
  match decodeStrict BundlePayload.codec {} payloadBytes with
  | none => .error (.issues [issue "payload_parse" "%v" [.foreign]])
  | some payload =>
      if marshalCanonicalPayload payload = payloadBytes then
        match validatePayloadStrict engine payload header now with
        | (payload, []) => .ok payload
        | (_, issues) => .error (.issues issues)
      else .error (.issues [issue "payload_not_canonical" "payload JSON is not canonical" []])

/-- The checks that come after a bundle has been parsed; none is a bundle left encrypted. -/
def verifyWrapper (engine : TextTemplate.Engine Profile) (wrapper : Wrapper)
    (trustedSigner : PublicKey) (opts : VerifyOptions suite) (now : Int64) :
    Except VerifyFailure (Option BundlePayload) :=
  let header := wrapper.header
  let ciphertext := Base64.decode wrapper.ciphertext
  let signature := Base64.decode header.signature
  match headerIssues header (ed25519KeyID suite trustedSigner) now ciphertext signature with
  | [] =>
      let ciphertext := ciphertext.getD []
      if suite.verify trustedSigner (signedBytes header ciphertext) (signature.getD []) then
        if header.cipher = cipherAge ∧ opts.ageIdentity.isNone then
          if opts.requireDecrypt then
            .error (.issues [issue "decrypt_required" "encrypted bundle requires age identity" []])
          else .ok none
        else
          match decryptPayloadBytes suite header ciphertext opts.ageIdentity with
          | .error failure => .error failure
          | .ok payloadBytes => (verifyPayload engine payloadBytes header now).map some
      else .error .invalidSignature
  | issues => .error (.issues issues)

def verifyBundle (engine : TextTemplate.Engine Profile) (bundleBytes : Bytes)
    (trustedSigner : PublicKey) (opts : VerifyOptions suite) (clock : Int64) :
    Option VerifyResult × Option VerifyFailure :=
  match decodeStrict Wrapper.codec {} bundleBytes with
  | none => (none, some (.issues [issue "wrapper_parse" "%v" [.foreign]]))
  | some wrapper =>
      let res : VerifyResult :=
        { header := wrapper.header
          signerKeyIDExpected := ed25519KeyID suite trustedSigner
          bundleSHA256B64URL := Base64.encode (suite.sha256 bundleBytes)
          payload := none }
      match verifyWrapper suite engine wrapper trustedSigner opts (opts.now clock) with
      | .error failure => (some res, some failure)
      | .ok payload => (some { res with payload }, none)

end ShadowNet
