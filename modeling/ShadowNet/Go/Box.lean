import ShadowNet.Go.Bytes

/-! # Public-key boxes

`golang.org/x/crypto/nacl/box`: a box is sealed under the key that two parties share, which either
of them computes from its own private key and the public key of the other.
-/

namespace ShadowNet.Go

abbrev BoxKey := { key : Bytes // key.length = 32 }

abbrev BoxNonce := { nonce : Bytes // nonce.length = 24 }

structure Box where
  /-- The public key of a private one. -/
  publicKey : BoxKey → BoxKey
  /-- `box.Precompute`: the shared key of a peer's public key and an own private key. -/
  precompute : BoxKey → BoxKey → BoxKey
  sealAfter : BoxKey → BoxNonce → Bytes → Bytes
  openAfter : BoxKey → BoxNonce → Bytes → Option Bytes
  /-- Both parties compute the same shared key. -/
  shares : ∀ one other, precompute (publicKey one) other = precompute (publicKey other) one
  /-- What was sealed under a shared key and a nonce opens under them. -/
  opens : ∀ key nonce plaintext, openAfter key nonce (sealAfter key nonce plaintext) = some plaintext

namespace Box

variable (box : Box)

/-- `box.Seal`. -/
def boxSeal (plaintext : Bytes) (nonce : BoxNonce) (peerPublicKey privateKey : BoxKey) : Bytes :=
  box.sealAfter (box.precompute peerPublicKey privateKey) nonce plaintext

/-- `box.Open`. -/
def boxOpen (ciphertext : Bytes) (nonce : BoxNonce) (peerPublicKey privateKey : BoxKey) :
    Option Bytes :=
  box.openAfter (box.precompute peerPublicKey privateKey) nonce ciphertext

/-- A box for the holder of a private key opens there. -/
theorem boxOpen_boxSeal (plaintext : Bytes) (nonce : BoxNonce) (sender recipient : BoxKey) :
    box.boxOpen (box.boxSeal plaintext nonce (box.publicKey recipient) sender) nonce
      (box.publicKey sender) recipient = some plaintext := by
  rw [boxOpen, boxSeal, box.shares recipient sender, box.opens]

/-- The two ends of a box open the same boxes. -/
theorem boxOpen_reflected (ciphertext : Bytes) (nonce : BoxNonce) (one other : BoxKey) :
    box.boxOpen ciphertext nonce (box.publicKey one) other =
      box.boxOpen ciphertext nonce (box.publicKey other) one := by
  rw [boxOpen, boxOpen, box.shares]

end Box

end ShadowNet.Go
