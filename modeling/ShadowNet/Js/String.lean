import Mathlib
import ShadowNet.Go.Bytes

/-! # JavaScript strings

A string is a sequence of UTF-16 code units, paired or not. The tables of Unicode that its methods
consult are taken as they are.
-/

namespace ShadowNet.Js

abbrev JsString := List UInt16

/-- A literal of ASCII characters. -/
def js (text : String) : JsString := (Go.lit text).map fun byte => UInt16.ofNat byte.toNat

/-- What `\s` takes and `trim` removes: white space and line terminators. -/
def isSpace (unit : UInt16) : Bool :=
  (0x9 ≤ unit && unit ≤ 0xD) || unit == 0x20 || unit == 0xA0 || unit == 0x1680 ||
    (0x2000 ≤ unit && unit ≤ 0x200A) || unit == 0x2028 || unit == 0x2029 || unit == 0x202F ||
    unit == 0x205F || unit == 0x3000 || unit == 0xFEFF

/-- What the dot of an expression does not take. -/
def isTerminator (unit : UInt16) : Bool :=
  unit == 0xA || unit == 0xD || unit == 0x2028 || unit == 0x2029

def trimEnd (s : JsString) : JsString := s.rdropWhile isSpace

def trim (s : JsString) : JsString := trimEnd (s.dropWhile isSpace)

/-- Trimming stops at a unit in front that is no white space. -/
theorem trim_cons {head : UInt16} (solid : isSpace head = false) (rest : JsString) :
    ∃ kept, trim (head :: rest) = head :: kept := by
  have front : (head :: rest).dropWhile isSpace = head :: rest :=
    List.dropWhile_cons_of_neg (by simp [solid])
  have filled : (head :: rest).rdropWhile isSpace ≠ [] := by
    rw [Ne, List.rdropWhile_eq_nil_iff, List.forall_mem_cons, solid]
    simp
  rw [trim, front, trimEnd]
  obtain empty | ⟨kept, shape, -⟩ := List.prefix_cons_iff.mp
    (List.rdropWhile_prefix isSpace (head :: rest))
  · exact absurd empty filled
  · exact ⟨kept, shape⟩

/-- `join`. -/
def join (separator : JsString) (parts : List JsString) : JsString := separator.intercalate parts

/-- A number in a template. -/
def decimal (n : ℕ) : JsString := (Go.natDigits n).map fun byte => UInt16.ofNat byte.toNat

theorem decimal_injective : Function.Injective decimal := by
  have widens : Function.Injective fun byte : UInt8 => UInt16.ofNat byte.toNat := by
    intro byte other same
    have values := congrArg UInt16.toNat same
    simp only [UInt16.toNat_ofNat'] at values
    have small := byte.toNat_lt
    have small' := other.toNat_lt
    exact UInt8.toNat.inj (by omega)
  intro n m same
  have digits : Go.natDigits n = Go.natDigits m := List.map_injective_iff.mpr widens same
  have reads := congrArg Go.parseNat digits
  rw [Go.parseNat_natDigits, Go.parseNat_natDigits] at reads
  exact Option.some.inj reads

theorem dash_notMem_decimal (n : ℕ) : 0x2D ∉ decimal n := by
  intro member
  obtain ⟨byte, written, same⟩ := List.mem_map.mp member
  have digit := List.all_eq_true.mp (Go.natDigits_spec n).2.1 byte written
  simp only [Go.isDigit, Bool.and_eq_true, decide_eq_true_eq] at digit
  have value := congrArg UInt16.toNat same
  simp only [UInt16.toNat_ofNat'] at value
  change byte.toNat % 2 ^ 16 = 45 at value
  omega

/-- A whole number in a template. -/
def number (value : ℤ) : JsString :=
  if value < 0 then 0x2D :: decimal value.natAbs else decimal value.natAbs

theorem append_sep_inj {α : Type} {sep : α} {front front' rest rest' : List α} (clean : sep ∉ front)
    (clean' : sep ∉ front') (same : front ++ sep :: rest = front' ++ sep :: rest') :
    front = front' ∧ rest = rest' := by
  induction front generalizing front' with
  | nil =>
    cases front' with
    | nil => exact ⟨rfl, (List.cons.inj same).2⟩
    | cons head tail => exact absurd ((List.cons.inj same).1 ▸ List.mem_cons_self ..) clean'
  | cons head tail ih =>
    cases front' with
    | nil => exact absurd ((List.cons.inj same).1 ▸ List.mem_cons_self ..) clean
    | cons head' tail' =>
      obtain ⟨rfl, tails⟩ := List.cons.inj same
      obtain ⟨rfl, behind⟩ := ih (fun inside => clean (List.mem_cons_of_mem _ inside))
        (fun inside => clean' (List.mem_cons_of_mem _ inside)) tails
      exact ⟨rfl, behind⟩

/-- A number ends at the dash behind it, a dash in front of its digits or not. -/
theorem number_dash_inj {value value' : ℤ} {rest rest' : JsString}
    (same : number value ++ 0x2D :: rest = number value' ++ 0x2D :: rest') :
    value = value' ∧ rest = rest' := by
  have digits {n m : ℕ} {rest rest' : JsString}
      (same : decimal n ++ 0x2D :: rest = decimal m ++ 0x2D :: rest') : n = m ∧ rest = rest' := by
    obtain ⟨own, after⟩ := append_sep_inj (dash_notMem_decimal n) (dash_notMem_decimal m) same
    exact ⟨decimal_injective own, after⟩
  have unsigned {n m : ℕ} {rest rest' : JsString}
      (same : decimal n ++ 0x2D :: rest = 0x2D :: (decimal m ++ 0x2D :: rest')) : False := by
    have empty := (append_sep_inj (dash_notMem_decimal n) List.not_mem_nil same).1
    exact (Go.natDigits_spec n).1 (List.map_eq_nil_iff.mp empty)
  unfold number at same
  split_ifs at same with below below' below'
  · obtain ⟨size, after⟩ := digits (List.cons.inj same).2
    exact ⟨by omega, after⟩
  · exact (unsigned same.symm).elim
  · exact (unsigned same).elim
  · obtain ⟨size, after⟩ := digits same
    exact ⟨by omega, after⟩

/-! ## Code points -/

def isHigh (unit : UInt16) : Bool := 0xD800 ≤ unit && unit < 0xDC00

def isLow (unit : UInt16) : Bool := 0xDC00 ≤ unit && unit < 0xE000

/-- The code points, as an expression with the flag `u` reads them. -/
def codePoints : JsString → List ℕ
  | [] => []
  | [unit] => [unit.toNat]
  | high :: low :: rest =>
      if isHigh high && isLow low then
        (0x10000 + (high.toNat - 0xD800) * 0x400 + (low.toNat - 0xDC00)) :: codePoints rest
      else high.toNat :: codePoints (low :: rest)

def encodePoint (point : ℕ) : JsString :=
  if point < 0x10000 then [UInt16.ofNat point]
  else [UInt16.ofNat (0xD800 + (point - 0x10000) / 0x400),
    UInt16.ofNat (0xDC00 + (point - 0x10000) % 0x400)]

/-- The tables of Unicode, behind the methods and classes that use them. -/
structure Unicode where
  /-- `normalize("NFKD")`. -/
  normalizeNFKD : JsString → JsString
  toLowerCase : JsString → JsString
  /-- `[\p{L}\p{N}]`. -/
  letterOrNumber : ℕ → Bool

/-- What the tables say of ASCII characters; they leave all others alone. -/
def Unicode.ascii : Unicode where
  normalizeNFKD := id
  toLowerCase := List.map fun unit => if 0x41 ≤ unit && unit ≤ 0x5A then unit + 0x20 else unit
  letterOrNumber point :=
    (0x30 ≤ point && point ≤ 0x39) || (0x41 ≤ point && point ≤ 0x5A) ||
      (0x61 ≤ point && point ≤ 0x7A)

end ShadowNet.Js
