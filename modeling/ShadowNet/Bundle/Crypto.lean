import ShadowNet.Go.Base64

/-! # The cryptographic packages

SHA-256, Ed25519 and age as the bundle code calls them. `Suite.Sound` is what their documentation
promises of matching keys; nothing is assumed about inputs that no key produced.
-/

namespace ShadowNet

open Go

/-- `ed25519.PublicKey`; the package panics on any other length. -/
abbrev PublicKey := { key : Bytes // key.length = 32 }

/-- How `age.Decrypt` or the reader it returns may fail. -/
inductive DecryptFailure where
  | header
  | read
deriving DecidableEq, Repr

structure Suite where
  sha256 : Bytes → Bytes
  PrivateKey : Type
  publicKey : PrivateKey → PublicKey
  sign : PrivateKey → Bytes → Bytes
  verify : PublicKey → Bytes → Bytes → Bool
  Identity : Type
  Recipient : Type
  recipient : Identity → Recipient
  recipientString : Recipient → GoString
  /-- `age.ParseX25519Recipient`. -/
  parseRecipient : GoString → Option Recipient
  /-- `age.Encrypt`, with the randomness it draws. -/
  encrypt : Bytes → Recipient → Bytes → Option Bytes
  decrypt : Identity → Bytes → Except DecryptFailure Bytes

/-- Matching keys work together. -/
structure Suite.Sound (suite : Suite) : Prop where
  verifies : ∀ key message,
    suite.verify (suite.publicKey key) message (suite.sign key message) = true
  decrypts : ∀ identity random text ciphertext,
    suite.encrypt random (suite.recipient identity) text = some ciphertext →
      suite.decrypt identity ciphertext = .ok text
  /-- A recipient has one text. -/
  prints : ∀ text recipient,
    suite.parseRecipient text = some recipient → suite.recipientString recipient = text

/-- Calls of the packages on record, for one key pair and without age keys. -/
def recordedSuite (key : PublicKey) (digests signatures : List (Bytes × Bytes)) : Suite where
  sha256 bytes := (digests.lookup bytes).getD []
  PrivateKey := Unit
  publicKey _ := key
  sign _ message := (signatures.lookup message).getD []
  verify signer message signature :=
    signer = key && signature = (signatures.lookup message).getD []
  Identity := Empty
  Recipient := Empty
  recipient identity := identity
  recipientString recipient := recipient.elim
  parseRecipient _ := none
  encrypt _ recipient := recipient.elim
  decrypt identity := identity.elim

/-- A suite of recorded answers is sound. -/
theorem recordedSuite_sound (key : PublicKey) (digests signatures : List (Bytes × Bytes)) :
    (recordedSuite key digests signatures).Sound :=
  ⟨by simp [recordedSuite], fun identity => identity.elim, fun _ _ parsed => by cases parsed⟩

variable (suite : Suite)

/-- `base64.RawURLEncoding` of the digest, cut to sixteen characters. -/
def fingerprint16 (bytes : Bytes) : GoString := (Base64.encode (suite.sha256 bytes)).take 16

def ed25519KeyID (key : PublicKey) : GoString := lit "ed25519:" ++ fingerprint16 suite key.val

/-- The key id of an age recipient. -/
def ageKeyID (recipient : GoString) : GoString := lit "age-x25519:" ++ fingerprint16 suite recipient

theorem visible_fingerprint16 (bytes : Bytes) :
    ∀ byte ∈ fingerprint16 suite bytes, isVisible byte = true :=
  fun byte member => Base64.visible_encode _ byte (List.mem_of_mem_take member)

theorem visible_ed25519KeyID (key : PublicKey) :
    ∀ byte ∈ ed25519KeyID suite key, isVisible byte = true := fun byte member =>
  (List.mem_append.mp member).elim
    (List.all_eq_true.mp (by decide : (lit "ed25519:").all isVisible = true) byte)
    (visible_fingerprint16 suite key.val byte)

theorem visible_ageKeyID (recipient : GoString) :
    ∀ byte ∈ ageKeyID suite recipient, isVisible byte = true := fun byte member =>
  (List.mem_append.mp member).elim
    (List.all_eq_true.mp (by decide : (lit "age-x25519:").all isVisible = true) byte)
    (visible_fingerprint16 suite recipient byte)

end ShadowNet
