import ShadowNet.Bundle.VerifySound
import ShadowNet.Go.Result

/-! # The older verifiers

`VerifyHeader` and `VerifyAndDecrypt` read a bundle leniently and make fewer checks than
`VerifyBundle`: the cipher, the expiry, the two base64 texts and the signature. Neither looks at the
recipient or at what the payload holds. Whatever `VerifyBundle` accepts with a payload they accept
too, with the same header and the same plaintext.
-/

namespace ShadowNet

open Go Go.Json

/-- The errors of `VerifyHeader` and `VerifyAndDecrypt`: a formatted one, or one of the sentinel
errors. -/
inductive OpenFailure where
  | message (detail : Message)
  | unknownCipher
  | expired
  | invalidSignature
  | decryptionFailed (detail : Message)
deriving DecidableEq, Repr

variable (suite : Suite)

/-- The checks that both functions make, with the header and the ciphertext they end up with. -/
def verifySigned (bundleBytes : Bytes) (trustedSigner : PublicKey) (now : Int64) :
    Except OpenFailure (BundleHeader × Bytes) := do
  let wrapper ← orError (unmarshal Wrapper.codec {} bundleBytes)
    (.message ⟨"failed to parse wrapper: %w", [.foreign]⟩)
  require (wrapper.header.cipher = cipherAge ∨ wrapper.header.cipher = cipherNone) .unknownCipher
  require (now ≤ wrapper.header.expiresAt) .expired
  let ciphertext ← orError (Base64.decode wrapper.ciphertext)
    (.message ⟨"invalid ciphertext base64: %w", [.foreign]⟩)
  let sigBytes ← orError (Base64.decode wrapper.header.signature)
    (.message ⟨"invalid signature base64: %w", [.foreign]⟩)
  require (suite.verify trustedSigner (signedBytes wrapper.header ciphertext) sigBytes = true)
    .invalidSignature
  return (wrapper.header, ciphertext)

def verifyHeader (bundleBytes : Bytes) (trustedSigner : PublicKey) (now : Int64) :
    Except OpenFailure BundleHeader := do
  let (header, _) ← verifySigned suite bundleBytes trustedSigner now
  return header

/-- The part of `VerifyAndDecrypt` that decrypts; the recipient is not compared. -/
def openCiphertext (header : BundleHeader) (ciphertext : Bytes)
    (ageIdentity : Option suite.Identity) : Except OpenFailure Bytes :=
  if header.cipher = cipherAge then
    match ageIdentity with
    | none => .error (.decryptionFailed ⟨"%w: missing age identity", []⟩)
    | some identity =>
        match suite.decrypt identity ciphertext with
        | .ok text => .ok text
        | .error .header => .error (.decryptionFailed ⟨"%w: %v", [.foreign]⟩)
        | .error .read =>
            .error (.message ⟨"failed to read decrypted payload: %w", [.foreign]⟩)
  else .ok ciphertext

def verifyAndDecrypt (bundleBytes : Bytes) (trustedSigner : PublicKey)
    (ageIdentity : Option suite.Identity) (now : Int64) : Except OpenFailure BundlePayload := do
  let (header, ciphertext) ← verifySigned suite bundleBytes trustedSigner now
  let payloadBytes ← openCiphertext suite header ciphertext ageIdentity
  orError (unmarshal BundlePayload.codec {} payloadBytes)
    (.message ⟨"failed to parse decrypted payload: %w", [.foreign]⟩)

/-- The plaintext that `VerifyBundle` decodes and compares with its canonical text. -/
def acceptedBytes (bundleBytes : Bytes) (ageIdentity : Option suite.Identity) : Option Bytes := do
  let wrapper ← decodeStrict Wrapper.codec {} bundleBytes
  let ciphertext ← Base64.decode wrapper.ciphertext
  (decryptPayloadBytes suite wrapper.header ciphertext ageIdentity).toOption

/-! ## Check by check -/

theorem verifySigned_eq_ok {bundleBytes : Bytes} {trustedSigner : PublicKey} {now : Int64}
    {header : BundleHeader} {ciphertext : Bytes} :
    verifySigned suite bundleBytes trustedSigner now = .ok (header, ciphertext) ↔
      ∃ wrapper signature, unmarshal Wrapper.codec {} bundleBytes = some wrapper ∧
        (header.cipher = cipherAge ∨ header.cipher = cipherNone) ∧ now ≤ header.expiresAt ∧
        Signed suite wrapper trustedSigner ciphertext signature ∧ wrapper.header = header := by
  simp only [verifySigned, bind_eq_ok, require_eq_ok, exists_const, orError_eq_ok, pure_eq_ok,
    Prod.mk.injEq]
  constructor
  · rintro ⟨wrapper, parsed, cipher, live, _, decodes, signature, carries, verifies, rfl, rfl⟩
    exact ⟨wrapper, signature, parsed, cipher, live, ⟨decodes, carries, verifies⟩, rfl⟩
  · rintro ⟨wrapper, signature, parsed, cipher, live, signed, rfl⟩
    exact ⟨wrapper, parsed, cipher, live, ciphertext, signed.decodes, signature, signed.carries,
      signed.verifies, rfl, rfl⟩

/-- Where the strict verifier finds a plaintext, the older one finds the same. -/
theorem Opens.openCiphertext {header : BundleHeader} {ciphertext text : Bytes}
    {ageIdentity : Option suite.Identity} (opens : Opens suite header ciphertext ageIdentity text) :
    openCiphertext suite header ciphertext ageIdentity = .ok text := by
  rcases opens with ⟨plain, rfl⟩ | ⟨aged, identity, rfl, -, decrypted⟩
  · apply if_neg
    rw [plain]
    decide
  · rw [ShadowNet.openCiphertext, if_pos aged]
    simp only [decrypted]

variable {suite} {engine : TextTemplate.Engine Profile} {bundleBytes : Bytes}
  {trustedSigner : PublicKey} {ageIdentity : Option suite.Identity} {now : Int64}
  {wrapper : Wrapper} {ciphertext signature text : Bytes} {decoded : BundlePayload}

/-- An accepted bundle passes the checks that the older verifiers share. -/
theorem Accepted.verifySigned (accepted : Accepted suite engine bundleBytes trustedSigner
    ageIdentity now wrapper ciphertext signature text decoded) :
    verifySigned suite bundleBytes trustedSigner now = .ok (wrapper.header, ciphertext) := by
  apply (verifySigned_eq_ok suite).mpr
  refine ⟨wrapper, signature, unmarshal_of_decodeStrict Wrapper.codec_lenient accepted.parses, ?_,
    accepted.header.unexpired, accepted.signed, rfl⟩
  exact accepted.header.cipher.imp And.left And.left

theorem Accepted.verifyHeader (accepted : Accepted suite engine bundleBytes trustedSigner
    ageIdentity now wrapper ciphertext signature text decoded) :
    verifyHeader suite bundleBytes trustedSigner now = .ok wrapper.header := by
  rw [ShadowNet.verifyHeader, accepted.verifySigned]
  rfl

theorem Accepted.verifyAndDecrypt (accepted : Accepted suite engine bundleBytes trustedSigner
    ageIdentity now wrapper ciphertext signature text decoded) :
    verifyAndDecrypt suite bundleBytes trustedSigner ageIdentity now = .ok decoded := by
  have opened := accepted.opens.openCiphertext
  have read := unmarshal_of_decodeStrict BundlePayload.codec_lenient accepted.reads
  simp only [ShadowNet.verifyAndDecrypt, bind_eq_ok, orError_eq_ok]
  exact ⟨_, accepted.verifySigned, text, opened, read⟩

theorem Accepted.acceptedBytes (accepted : Accepted suite engine bundleBytes trustedSigner
    ageIdentity now wrapper ciphertext signature text decoded) :
    acceptedBytes suite bundleBytes ageIdentity = some text := by
  have opened := (decryptPayloadBytes_eq_ok suite).mpr accepted.opens
  simp only [ShadowNet.acceptedBytes, accepted.parses, accepted.signed.decodes, opened,
    Option.bind_eq_bind, Option.bind_some, Except.toOption]

/-- The strict verifier refines the older ones: they accept what it accepts, with its header and
with a payload whose canonical text is the plaintext it checked. -/
theorem verifyBundle_refines {opts : VerifyOptions suite} {clock : Int64} {res : VerifyResult}
    {payload : BundlePayload}
    (accepted : verifyBundle suite engine bundleBytes trustedSigner opts clock = (some res, none))
    (returned : res.payload = some payload) :
    verifyHeader suite bundleBytes trustedSigner (opts.now clock) = .ok res.header ∧
    ∃ older, verifyAndDecrypt suite bundleBytes trustedSigner opts.ageIdentity (opts.now clock) =
        .ok older ∧
      acceptedBytes suite bundleBytes opts.ageIdentity = some (marshalCanonicalPayload older) ∧
      payload = older.sortTags := by
  obtain ⟨wrapper, ciphertext, signature, text, decoded, passed, rfl, rfl⟩ :=
    (verifyBundle_eq_payload suite).mp ⟨accepted, returned⟩
  refine ⟨passed.verifyHeader, decoded, passed.verifyAndDecrypt, ?_, rfl⟩
  rw [passed.canonical]
  exact passed.acceptedBytes

/-- The bundle on record passes the weaker checks as well. -/
theorem recordedBundle_refines :
    verifyHeader recordedCalls recordedBundle recordedKey 1500 = .ok recordedHeader ∧
    ∃ older, verifyAndDecrypt recordedCalls recordedBundle recordedKey none 1500 = .ok older ∧
      acceptedBytes recordedCalls recordedBundle none = some (marshalCanonicalPayload older) ∧
      recordedPayload.sortTags = older.sortTags := by
  have now : (⟨1500, none, true⟩ : VerifyOptions recordedCalls).now 0 = 1500 := by decide
  obtain ⟨accepted, returned⟩ := (@verifyBundle_eq_payload recordedCalls plainEngine recordedBundle
    recordedKey ⟨1500, none, true⟩ 0 _ _).mpr ⟨_, _, _, _, _, recordedBundle_accepted, rfl, rfl⟩
  have refined := verifyBundle_refines accepted returned
  rw [now] at refined
  exact refined

end ShadowNet
