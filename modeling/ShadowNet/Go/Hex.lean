import ShadowNet.Go.Json.Scanner
import ShadowNet.Go.Unicode

/-! # Hexadecimal

Two digits a byte, the high half first. A digit above nine is a letter of either case; the encoder
writes small ones.
-/

namespace ShadowNet.Go

open Json

/-- `hex.DecodeString`. -/
def hexDecode : GoString → Option Bytes
  | [] => some []
  | [_] => none
  | high :: low :: rest => do
      let h ← hexValue high
      let l ← hexValue low
      return UInt8.ofNat (16 * h + l) :: (← hexDecode rest)

def hexDigit (capital : Bool) (value : ℕ) : UInt8 :=
  if value < 10 then UInt8.ofNat (48 + value)
  else if capital then UInt8.ofNat (55 + value)
  else UInt8.ofNat (87 + value)

/-- The digits of the bytes; `capital` has the case of the digit at each place. -/
def hexDigits (capital : ℕ → Bool) : ℕ → Bytes → GoString
  | _, [] => []
  | place, byte :: rest =>
      hexDigit (capital place) (byte.toNat / 16) ::
        hexDigit (capital (place + 1)) (byte.toNat % 16) :: hexDigits capital (place + 2) rest

/-- `hex.EncodeToString`. -/
def hexEncodeToString (bytes : Bytes) : GoString := hexDigits (fun _ => false) 0 bytes

private theorem hexDigit_facts : ∀ value < 16, ∀ capital,
    hexValue (hexDigit capital value) = some value ∧ isVisible (hexDigit capital value) = true := by
  decide

private theorem halves (byte : UInt8) : byte.toNat / 16 < 16 ∧ byte.toNat % 16 < 16 ∧
    UInt8.ofNat (16 * (byte.toNat / 16) + byte.toNat % 16) = byte := by
  have bound := byte.toNat_lt
  refine ⟨by omega, by omega, ?_⟩
  rw [Nat.div_add_mod, UInt8.ofNat_toNat]

/-- Decoding takes digits of either case, one by one. -/
theorem hexDecode_hexDigits (capital : ℕ → Bool) (place : ℕ) (bytes : Bytes) :
    hexDecode (hexDigits capital place bytes) = some bytes := by
  induction bytes generalizing place with
  | nil => rfl
  | cons byte rest ih =>
    obtain ⟨high, low, whole⟩ := halves byte
    rw [hexDigits, hexDecode, (hexDigit_facts _ high _).1, (hexDigit_facts _ low _).1, ih]
    exact congrArg (fun first => some (first :: rest)) whole

/-- Two digits for each byte. -/
@[simp] theorem length_hexDigits (capital : ℕ → Bool) (place : ℕ) (bytes : Bytes) :
    (hexDigits capital place bytes).length = 2 * bytes.length := by
  induction bytes generalizing place with
  | nil => rfl
  | cons byte rest ih =>
    rw [hexDigits, List.length_cons, List.length_cons, ih, List.length_cons]
    omega

/-- All of them are hexadecimal. -/
theorem hex_hexDigits (capital : ℕ → Bool) (place : ℕ) (bytes : Bytes) :
    ∀ digit ∈ hexDigits capital place bytes, (hexValue digit).isSome = true := by
  induction bytes generalizing place with
  | nil => simp [hexDigits]
  | cons byte rest ih =>
    obtain ⟨high, low, -⟩ := halves byte
    rw [hexDigits, List.forall_mem_cons, List.forall_mem_cons, (hexDigit_facts _ high _).1,
      (hexDigit_facts _ low _).1]
    exact ⟨rfl, rfl, ih _⟩

theorem visible_of_hexValue {byte : UInt8} (hex : (hexValue byte).isSome = true) :
    isVisible byte = true := by
  simp only [hexValue, isVisible, Bool.and_eq_true, decide_eq_true_eq] at hex ⊢
  split_ifs at hex with number small capital
  · omega
  · omega
  · omega
  · cases hex

/-- What decodes has nothing but digits. -/
theorem hex_of_hexDecode {s : GoString} {bytes : Bytes} (decoded : hexDecode s = some bytes) :
    ∀ digit ∈ s, (hexValue digit).isSome = true := by
  induction s using hexDecode.induct generalizing bytes with
  | case1 => simp
  | case2 byte => cases decoded
  | case3 high low rest ih =>
    rw [hexDecode] at decoded
    obtain ⟨h, first, decoded⟩ := Option.bind_eq_some_iff.mp decoded
    obtain ⟨l, second, decoded⟩ := Option.bind_eq_some_iff.mp decoded
    obtain ⟨tail, later, -⟩ := Option.bind_eq_some_iff.mp decoded
    rw [List.forall_mem_cons, List.forall_mem_cons, first, second]
    exact ⟨rfl, rfl, ih later⟩

private theorem hexDigit_small : ∀ value < 16, isFolded (hexDigit false value) = true := by decide

theorem toLower_hexEncodeToString (bytes : Bytes) :
    toLower (hexEncodeToString bytes) = hexEncodeToString bytes := by
  apply toLower_folded
  have small (place : ℕ) : ∀ digit ∈ hexDigits (fun _ => false) place bytes,
      isFolded digit = true := by
    induction bytes generalizing place with
    | nil => simp [hexDigits]
    | cons byte rest ih =>
      obtain ⟨high, low, -⟩ := halves byte
      rw [hexDigits, List.forall_mem_cons, List.forall_mem_cons]
      exact ⟨hexDigit_small _ high, hexDigit_small _ low, ih _⟩
  exact small 0

end ShadowNet.Go
