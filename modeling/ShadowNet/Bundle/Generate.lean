import ShadowNet.Bundle.Crypto
import ShadowNet.Bundle.Types
import ShadowNet.Go.Result
import ShadowNet.Go.Unicode

/-! # Generating bundles

`GenerateBundleWithOptions` encrypts the canonical payload for a recipient, or leaves it plain where
that is allowed, and signs the header together with the ciphertext.
-/

namespace ShadowNet

open Go Go.Json

structure GenerateOptions where
  recipientPublicKey : GoString
  allowPlaintext : Bool
  signerKeyID : GoString
  bundleID : GoString
  seq : UInt64
  createdAt : Int64
  expiresAt : Int64

/-- The options after the defaults for a blank ID and for zeros; `clock` is read for them. -/
def GenerateOptions.defaults (opts : GenerateOptions) (clock : Int64) : GenerateOptions :=
  let createdAt := if opts.createdAt = 0 then clock else opts.createdAt
  { opts with
    bundleID := if isBlank opts.bundleID then lit "bndl_" ++ itoa clock.toInt else opts.bundleID
    seq := if opts.seq = 0 then 1 else opts.seq
    createdAt
    expiresAt := if opts.expiresAt = 0 then createdAt + 7 * 24 * 3600 else opts.expiresAt }

theorem GenerateOptions.defaults_bundleID {opts : GenerateOptions}
    (named : isBlank opts.bundleID = false) (clock : Int64) :
    (opts.defaults clock).bundleID = opts.bundleID := by
  simp only [GenerateOptions.defaults, named, Bool.false_eq_true, if_false]

variable (suite : Suite)

/-- The ciphertext with its cipher and recipient. -/
structure Sealed where
  ciphertext : Bytes
  cipher : GoString
  recipientKeyID : GoString

/-- The part of `GenerateBundleWithOptions` that encrypts; `random` is what age draws. -/
def sealPayload (payloadBytes : Bytes) (opts : GenerateOptions) (random : Bytes) :
    Except String Sealed :=
  if isBlank opts.recipientPublicKey = false then
    match suite.parseRecipient opts.recipientPublicKey with
    | none => .error "failed to parse recipient public key: %w"
    | some recipient =>
        match suite.encrypt random recipient payloadBytes with
        | none => .error "failed to encrypt payload: %w"
        | some ciphertext =>
            .ok ⟨ciphertext, lit "age-x25519", ageKeyID suite opts.recipientPublicKey⟩
  else if opts.allowPlaintext then .ok ⟨payloadBytes, lit "none", lit "none"⟩
  else .error "refusing to generate unencrypted bundle without explicit allow flag"

/-- The header of a bundle before it is signed. -/
def unsignedHeader (opts : GenerateOptions) (contents : Sealed) : BundleHeader :=
  { magic := lit "SNB1"
    bundleID := opts.bundleID
    publisherKeyID := opts.signerKeyID
    recipientKeyID := contents.recipientKeyID
    seq := opts.seq
    createdAt := opts.createdAt
    expiresAt := opts.expiresAt
    cipher := contents.cipher }

def generateBundleWithOptions (payload : BundlePayload) (signerPrivateKey : suite.PrivateKey)
    (opts : GenerateOptions) (random : Bytes) (clock : Int64) : Except String Bytes := do
  let payloadBytes := marshalCanonicalPayload payload
  let opts := opts.defaults clock
  let contents ← sealPayload suite payloadBytes opts random
  let header := unsignedHeader opts contents
  let signature :=
    suite.sign signerPrivateKey (marshal BundleHeader.codec header ++ contents.ciphertext)
  let header := { header with signature := Base64.encode signature }
  return marshal Wrapper.codec ⟨header, Base64.encode contents.ciphertext⟩

variable {suite}

/-- The header of the bundle that `generateBundleWithOptions` returns. -/
def signedHeader (signingKey : suite.PrivateKey) (opts : GenerateOptions) (contents : Sealed) :
    BundleHeader :=
  { unsignedHeader opts contents with
    signature := Base64.encode (suite.sign signingKey
      (marshal BundleHeader.codec (unsignedHeader opts contents) ++ contents.ciphertext)) }

section

variable (signingKey : suite.PrivateKey) (opts : GenerateOptions) (contents : Sealed)

@[simp] theorem signedHeader_magic :
    (signedHeader signingKey opts contents).magic = lit "SNB1" := rfl

@[simp] theorem signedHeader_bundleID :
    (signedHeader signingKey opts contents).bundleID = opts.bundleID := rfl

@[simp] theorem signedHeader_publisherKeyID :
    (signedHeader signingKey opts contents).publisherKeyID = opts.signerKeyID := rfl

@[simp] theorem signedHeader_seq : (signedHeader signingKey opts contents).seq = opts.seq := rfl

@[simp] theorem signedHeader_createdAt :
    (signedHeader signingKey opts contents).createdAt = opts.createdAt := rfl

@[simp] theorem signedHeader_expiresAt :
    (signedHeader signingKey opts contents).expiresAt = opts.expiresAt := rfl

@[simp] theorem signedHeader_cipher :
    (signedHeader signingKey opts contents).cipher = contents.cipher := rfl

@[simp] theorem signedHeader_recipientKeyID :
    (signedHeader signingKey opts contents).recipientKeyID = contents.recipientKeyID := rfl

end

/-- A bundle is the sealed payload under its signed header. -/
theorem generateBundleWithOptions_eq_ok {payload : BundlePayload} {signingKey : suite.PrivateKey}
    {opts : GenerateOptions} {random bundle : Bytes} {clock : Int64} :
    generateBundleWithOptions suite payload signingKey opts random clock = .ok bundle ↔
      ∃ contents,
        sealPayload suite (marshalCanonicalPayload payload) (opts.defaults clock) random =
          .ok contents ∧
        marshal Wrapper.codec ⟨signedHeader signingKey (opts.defaults clock) contents,
          Base64.encode contents.ciphertext⟩ = bundle := by
  simp only [generateBundleWithOptions, bind_eq_ok, pure_eq_ok]
  rfl

end ShadowNet
