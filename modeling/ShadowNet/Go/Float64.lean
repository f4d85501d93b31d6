import Mathlib
import ShadowNet.Go.Json.Encode

/-! # Finite float64 values as texts

A float64 that JSON can carry is a sign, a 53-bit mantissa and a shift, in units of the smallest
subnormal. Reading a decimal text rounds its exact value to nearest, ties to even. Writing picks
the shortest decimal that reads back, as `strconv` does with precision -1, in the layout of
`encoding/json`.
-/

namespace ShadowNet.Go

/-- `(-1) ^ neg * mant * 2 ^ shift`, in units of `2 ^ -1074`. -/
structure Float64 where
  neg : Bool
  mant : ℕ
  shift : ℕ
  bound : mant < 2 ^ 53
  normal : shift = 0 ∨ 2 ^ 52 ≤ mant
  finite : shift ≤ 2045
deriving DecidableEq

namespace Float64

def units (x : Float64) : ℕ := x.mant * 2 ^ x.shift

instance : Zero Float64 := ⟨⟨false, 0, 0, by decide, .inl rfl, by decide⟩⟩

instance : Inhabited Float64 := ⟨0⟩

/-- 0.5 -/
def half : Float64 := ⟨false, 2 ^ 52, 1021, by decide, .inr le_rfl, by decide⟩

/-- One zero for the two that `==` does not tell apart. -/
def dropZeroSign (x : Float64) : Float64 := if x.mant = 0 then 0 else x

/-- The natural number nearest to `num / den`, ties to even. -/
def roundHalfEven (num den : ℕ) : ℕ :=
  if 2 * (num % den) < den then num / den
  else if den < 2 * (num % den) then num / den + 1
  else num / den + num / den % 2

theorem roundHalfEven_mul (value : ℕ) {den : ℕ} (positive : 0 < den) :
    roundHalfEven (value * den) den = value := by
  rw [roundHalfEven, Nat.mul_mod_left, Nat.mul_zero, if_pos positive,
    Nat.mul_div_cancel _ positive]

private theorem roundHalfEven_bounds (num den : ℕ) :
    num / den ≤ roundHalfEven num den ∧ roundHalfEven num den ≤ num / den + 1 := by
  unfold roundHalfEven
  split_ifs <;> omega

/-- How many of the smallest unit make one. -/
def perOne : ℕ := 2 ^ 1074

/-- How far the mantissa of `num / den` stands above the smallest unit. -/
def shiftOf (num den : ℕ) : ℕ := Nat.log2 (num * perOne / den) - 52

def mantOf (num den : ℕ) : ℕ := roundHalfEven (num * perOne) (den * 2 ^ shiftOf num den)

private theorem floor_shift (num den : ℕ) :
    num * perOne / (den * 2 ^ shiftOf num den) < 2 ^ 53 ∧
      (shiftOf num den = 0 ∨ 2 ^ 52 ≤ num * perOne / (den * 2 ^ shiftOf num den)) := by
  rw [← Nat.div_div_eq_div_mul, shiftOf]
  generalize num * perOne / den = floor
  constructor
  · rw [Nat.div_lt_iff_lt_mul (by positivity), ← pow_add]
    exact Nat.lt_log2_self.trans_le (Nat.pow_le_pow_right (by decide) (by omega))
  · by_cases small : Nat.log2 floor ≤ 52
    · exact .inl (by omega)
    · right
      have positive : floor ≠ 0 := by rintro rfl; exact small (by decide)
      rw [Nat.le_div_iff_mul_le (by positivity), ← pow_add]
      refine le_trans (le_of_eq ?_) (Nat.log2_self_le positive)
      congr 1
      omega

/-- The float64 nearest to `num / den`; none when it is out of range. -/
def ofRatio (neg : Bool) (num den : ℕ) : Option Float64 :=
  if carry : mantOf num den = 2 ^ 53 then
    if finite : shiftOf num den + 1 ≤ 2045 then
      some ⟨neg, 2 ^ 52, shiftOf num den + 1, by decide, .inr le_rfl, finite⟩
    else none
  else
    if finite : shiftOf num den ≤ 2045 then
      some ⟨neg, mantOf num den, shiftOf num den,
        lt_of_le_of_ne ((roundHalfEven_bounds _ _).2.trans (floor_shift num den).1) carry,
        (floor_shift num den).2.imp id fun large => large.trans (roundHalfEven_bounds _ _).1, finite⟩
    else none

/-- A value that is a float64 is not rounded. -/
theorem ofRatio_exact {num den : ℕ} (x : Float64) (positive : 0 < den)
    (exact : num * perOne = x.units * den) : ofRatio x.neg num den = some x := by
  have floor : num * perOne / den = x.mant * 2 ^ x.shift := by
    rw [exact, Nat.mul_div_cancel _ positive, units]
  have shift : shiftOf num den = x.shift := by
    rw [shiftOf, floor]
    obtain zero | large := x.normal
    · rw [zero, pow_zero, Nat.mul_one]
      have : Nat.log2 x.mant < 53 := by
        by_cases none : x.mant = 0
        · rw [none]; decide
        · exact (Nat.log2_lt none).mpr x.bound
      omega
    · have log : Nat.log2 (x.mant * 2 ^ x.shift) = 52 + x.shift := by
        have positive : x.mant * 2 ^ x.shift ≠ 0 := Nat.mul_ne_zero (by omega) (by positivity)
        rw [Nat.log2_eq_iff positive, pow_add]
        refine ⟨Nat.mul_le_mul_right _ large, ?_⟩
        rw [show 52 + x.shift + 1 = 53 + x.shift by omega, pow_add]
        exact Nat.mul_lt_mul_of_pos_right x.bound (by positivity)
      omega
  have mant : mantOf num den = x.mant := by
    rw [mantOf, shift, exact, units, Nat.mul_assoc, Nat.mul_comm (2 ^ x.shift) den]
    exact roundHalfEven_mul _ (by positivity)
  have small := x.bound
  rw [ofRatio, dif_neg (by omega), dif_pos (by rw [shift]; exact x.finite)]
  simp only [mant, shift]

/-! ## Reading -/

/-- A decimal text: digits with their power of ten. -/
structure Decimal where
  neg : Bool
  digits : ℕ
  exp : ℤ

def readPower : Bytes → Option ℤ
  | 0x2B :: digits => (parseNat digits).map fun value : ℕ => (value : ℤ)
  | text => parseInt text

/-- The exponent part of a number text. -/
def readExp : Bytes → Option ℤ
  | [] => some 0
  | mark :: rest => if mark = 0x65 || mark = 0x45 then readPower rest else none

/-- The fraction part, with what follows it. -/
def readFrac : Bytes → Bytes × Bytes
  | 0x2E :: rest => rest.span isDigit
  | rest => ([], rest)

def readUnsigned (neg : Bool) (text : Bytes) : Option Decimal :=
  let (whole, rest) := text.span isDigit
  let (frac, rest) := readFrac rest
  if whole = [] ∧ frac = [] then none
  else (readExp rest).map fun exp : ℤ => ⟨neg, readDigits 0 (whole ++ frac), exp - frac.length⟩

def readDecimal : Bytes → Option Decimal
  | 0x2D :: text => readUnsigned true text
  | text => readUnsigned false text

def ofDecimal (decimal : Decimal) : Option Float64 :=
  ofRatio decimal.neg (decimal.digits * 10 ^ decimal.exp.toNat) (10 ^ (-decimal.exp).toNat)

/-- `strconv.ParseFloat(text, 64)` on the texts JSON allows; none out of range. -/
def parse (text : Bytes) : Option Float64 := (readDecimal text).bind ofDecimal

/-! ## Writing -/

/-- `digits * 10 ^ exp` without an exponent mark. -/
def plainText (digits : Bytes) (exp : ℤ) : Bytes :=
  if 0 ≤ exp then digits ++ List.replicate exp.toNat 0x30
  else
    let point := digits.length - exp.natAbs
    if exp.natAbs < digits.length then digits.take point ++ 0x2E :: digits.drop point
    else 0x30 :: 0x2E :: (List.replicate (exp.natAbs - digits.length) 0x30 ++ digits)

/-- `digits * 10 ^ exp` with one digit before the point and an exponent mark. -/
def scientificText (digits : Bytes) (exp : ℤ) : Bytes :=
  let power := exp + digits.length - 1
  let fraction := digits.tail
  digits.take 1 ++ (if fraction = [] then [] else 0x2E :: fraction) ++
    0x65 :: (if power < 0 then 0x2D :: natDigits power.natAbs else 0x2B :: natDigits power.natAbs)

/-- The layout `encoding/json` chooses: an exponent below `1e-6` and from `1e21` on. -/
def layout (digits : Bytes) (exp : ℤ) : Bytes :=
  if digits = [0x30] then digits
  else if exp + digits.length < -5 ∨ 21 < exp + digits.length then scientificText digits exp
  else plainText digits exp

def signed (x : Float64) (text : Bytes) : Bytes := if x.neg then 0x2D :: text else text

/-- A text that JSON allows and that reads as `x`. -/
def reads (x : Float64) (text : Bytes) : Bool := Json.isNumber text && parse text = some x

/-- The multiples of `10 ^ exp` on both sides of `x`, the nearer first. -/
def candidates (x : Float64) (exp : ℤ) : List ℕ :=
  let num := x.units * 10 ^ (-exp).toNat
  let den := perOne * 10 ^ exp.toNat
  if 2 * (num % den) < den then [num / den, num / den + 1] else [num / den + 1, num / den]

/-- The shortest decimal that reads as `x`: the first power of ten, from above, that has a multiple
that does. -/
def shortest (x : Float64) : ℕ → ℤ → Option Bytes
  | 0, _ => none
  | fuel + 1, exp =>
      let texts := (candidates x exp).map fun digits => signed x (layout (natDigits digits) exp)
      (texts.find? (reads x)).or (shortest x fuel (exp - 1))

/-- All digits of `x`, scaled by the power of ten that makes it whole. -/
def exactText (x : Float64) : Bytes :=
  signed x (natDigits (x.units * 5 ^ 1074) ++ (0x65 :: itoa (-1074)))

/-- The text `json.Marshal` writes. The exact digits stand in where the search finds nothing. -/
def format (x : Float64) : Bytes :=
  (shortest x 700 (natDigits (x.units / perOne)).length).getD (exactText x)

private theorem shortest_reads {x : Float64} {fuel : ℕ} {exp : ℤ} {text : Bytes}
    (found : shortest x fuel exp = some text) : reads x text = true := by
  induction fuel generalizing exp with
  | zero => cases found
  | succ fuel ih =>
    rw [shortest] at found
    obtain here | ⟨-, later⟩ := Option.or_eq_some_iff.mp found
    · exact List.find?_some here
    · exact ih later

private theorem span_natDigits (value : ℕ) {byte : UInt8} (mark : isDigit byte = false)
    (rest : Bytes) :
    (natDigits value ++ byte :: rest).span isDigit = (natDigits value, byte :: rest) := by
  have decimal := List.all_eq_true.mp (natDigits_spec value).2.1
  rw [List.span_eq_takeWhile_dropWhile, List.takeWhile_append_of_pos decimal,
    List.dropWhile_append_of_pos decimal, List.takeWhile_cons_of_neg (by simp [mark]),
    List.dropWhile_cons_of_neg (by simp [mark]), List.append_nil]

private theorem readUnsigned_digits (neg : Bool) (value : ℕ) (exp : ℤ) :
    readUnsigned neg (natDigits value ++ 0x65 :: itoa exp) = some ⟨neg, value, exp⟩ := by
  have exponent : readExp (0x65 :: itoa exp) = some exp := by
    change readPower (itoa exp) = some exp
    have read := parseInt_itoa exp
    unfold readPower
    split
    · next digits same =>
      rw [same] at read
      simp [parseInt, parseNat, isDigit] at read
    · exact read
  have noFrac : readFrac (0x65 :: itoa exp) = ([], 0x65 :: itoa exp) := rfl
  rw [readUnsigned, span_natDigits value (by decide)]
  simp only [noFrac, exponent, (natDigits_spec value).1, false_and, if_false, Option.map_some,
    List.append_nil, (natDigits_spec value).2.2, List.length_nil, Nat.cast_zero, sub_zero]

private theorem readDecimal_signed (x : Float64) (value : ℕ) (rest : Bytes) :
    readDecimal (signed x (natDigits value ++ rest)) =
      readUnsigned x.neg (natDigits value ++ rest) := by
  unfold signed
  cases x.neg with
  | true => rfl
  | false =>
    obtain ⟨nonempty, decimal, -⟩ := natDigits_spec value
    cases shape : natDigits value with
    | nil => exact absurd shape nonempty
    | cons byte tail =>
      rw [shape, List.all_cons, Bool.and_eq_true] at decimal
      rw [List.cons_append, if_neg Bool.false_ne_true, readDecimal]
      intro _ same
      rw [(List.cons.inj same).1] at decimal
      exact absurd decimal.1 (by decide)

private theorem scale_ten (units power : ℕ) :
    units * 5 ^ power * 10 ^ 0 * 2 ^ power = units * 10 ^ power := by
  rw [pow_zero, Nat.mul_one, Nat.mul_assoc, ← Nat.mul_pow]

private theorem exactText_reads (x : Float64) : reads x (exactText x) = true := by
  have numeric := Json.isNumber_natDigits (x.units * 5 ^ 1074) (0x65 :: itoa (-1074)) (by decide)
  have number : Json.isNumber (exactText x) = true := by
    unfold exactText signed
    split_ifs
    · exact numeric.2
    · exact numeric.1
  have parsed : parse (exactText x) = some x := by
    rw [parse, exactText, readDecimal_signed, readUnsigned_digits, Option.bind_some, ofDecimal]
    exact ofRatio_exact x (by positivity) (scale_ten x.units 1074)
  rw [reads, number, parsed]
  simp

/-- A written float64 reads back, and is a JSON number. -/
theorem reads_format (x : Float64) : reads x (format x) = true := by
  rw [format]
  cases found : shortest x 700 (natDigits (x.units / perOne)).length with
  | none => exact exactText_reads x
  | some text => exact shortest_reads found

/-- A float is written as a number of JSON. -/
theorem isNumber_format (x : Float64) : Json.isNumber (format x) = true :=
  (Bool.and_eq_true_iff.mp (reads_format x)).1

/-- A float that is written is read back. -/
@[simp] theorem parse_format (x : Float64) : parse (format x) = some x :=
  of_decide_eq_true (Bool.and_eq_true_iff.mp (reads_format x)).2

/-- The whole number that `x` is, if it is one. -/
def toInt? (x : Float64) : Option ℤ :=
  if x.units % perOne = 0 then
    some (if x.neg then -((x.units / perOne : ℕ) : ℤ) else ((x.units / perOne : ℕ) : ℤ))
  else none

/-- A natural number that fits the mantissa is a float64. -/
private theorem exists_units {value : ℕ} (bound : value < 2 ^ 53) :
    ∃ x : Float64, x.neg = false ∧ x.units = value * perOne := by
  obtain rfl | positive := Nat.eq_zero_or_pos value
  · exact ⟨0, rfl, (Nat.zero_mul _).trans (Nat.zero_mul _).symm⟩
  have log : Nat.log2 value < 53 := (Nat.log2_lt positive.ne').mpr bound
  have floor := Nat.log2_self_le positive.ne'
  have ceiling := Nat.lt_log2_self (n := value)
  generalize Nat.log2 value = power at log floor ceiling
  obtain ⟨up, full⟩ : ∃ up, power + up = 52 := ⟨52 - power, by omega⟩
  have small : value * 2 ^ up < 2 ^ 53 := by
    rw [show 53 = power + 1 + up by omega, pow_add]
    exact Nat.mul_lt_mul_of_pos_right ceiling (by positivity)
  have large : 2 ^ 52 ≤ value * 2 ^ up := by
    rw [← full, pow_add]
    exact Nat.mul_le_mul_right _ floor
  refine ⟨⟨false, value * 2 ^ up, 1074 - up, small, .inr large, by omega⟩, rfl, ?_⟩
  rw [units, Nat.mul_assoc, ← pow_add, Nat.add_sub_of_le (by omega)]
  rfl

/-- A small natural number is read as itself. -/
theorem parse_natDigits {value : ℕ} (bound : value < 2 ^ 53) :
    ∃ x, parse (natDigits value) = some x ∧ x.toInt? = some (value : ℤ) := by
  obtain ⟨x, sign, same⟩ := exists_units bound
  have spanned : (natDigits value).span isDigit = (natDigits value, []) := by
    have decimal := List.all_eq_true.mp (natDigits_spec value).2.1
    rw [List.span_eq_takeWhile_dropWhile, List.takeWhile_eq_self_iff.mpr decimal,
      List.dropWhile_eq_nil_iff.mpr decimal]
  have read : readDecimal (natDigits value) = some ⟨x.neg, value, 0⟩ := by
    have unsigned := readDecimal_signed x value []
    rw [List.append_nil, signed, sign, if_neg Bool.false_ne_true] at unsigned
    rw [unsigned, readUnsigned, spanned, sign]
    simp [readFrac, readExp, natDigits_spec value]
  refine ⟨x, ?_, ?_⟩
  · rw [parse, read, Option.bind_some, ofDecimal]
    apply ofRatio_exact x (by positivity)
    change value * 1 * perOne = x.units * 1
    rw [Nat.mul_one, Nat.mul_one, same]
  · rw [toInt?, same, Nat.mul_mod_left, if_pos rfl, sign, Nat.mul_div_cancel _ (by unfold perOne; positivity)]
    rfl

/-- The float64 nearest to a natural number. -/
def whole (value : ℕ) : Float64 := (parse (natDigits value)).getD 0

/-- A whole number below 2^53 is read as itself. -/
theorem parse_whole {value : ℕ} (bound : value < 2 ^ 53) :
    parse (natDigits value) = some (whole value) := by
  obtain ⟨x, reads, -⟩ := parse_natDigits bound
  rw [whole, reads, Option.getD_some]

theorem parse_itoa {value : ℤ} (positive : 0 ≤ value) (bound : value < 2 ^ 53) :
    parse (itoa value) = some (whole value.toNat) := by
  rw [itoa, if_neg (by omega), show value.natAbs = value.toNat by omega]
  exact parse_whole (by omega)

theorem toInt?_whole {value : ℕ} (bound : value < 2 ^ 53) : (whole value).toInt? = some (value : ℤ) := by
  obtain ⟨x, reads, same⟩ := parse_natDigits bound
  rw [whole, reads, Option.getD_some, same]

end Float64

end ShadowNet.Go
