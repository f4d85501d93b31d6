import ShadowNet.Go.Float64

/-! # Float64 arithmetic

Lean's `Float` computes as Go's float64 does where no products are fused with sums, with infinities
and NaN. Lean gives no definition of `math.Round` and of the verb `%.1f`; they work on the bits.
-/

namespace ShadowNet.Go

/-- A finite value as an operand. -/
def Float64.toFloat (x : Float64) : Float :=
  Float.ofBits (UInt64.ofNat ((if x.neg then 2 ^ 63 else 0) + x.shift * 2 ^ 52 + x.mant))

/-- `float64(n)`. -/
def floatOfInt (n : Int64) : Float := Float.ofInt n.toInt

/-- `math.Round`. -/
def mathRound (x : Float) : Float :=
  let bits := x.toBits
  let e := (bits >>> 52) &&& 0x7FF
  if e < 1023 then
    let zero := bits &&& 0x8000000000000000
    Float.ofBits (if e = 1022 then zero ||| 0x3FF0000000000000 else zero)
  else if e < 1023 + 52 then
    let e := e - 1023
    Float.ofBits ((bits + (0x8000000000000 >>> e)) &&& ~~~(0xFFFFFFFFFFFFF >>> e))
  else x

/-- What `%.1f` prints: the exact value to one decimal, ties to even. -/
def formatTenths (x : Float) : GoString :=
  let bits := x.toBits.toNat
  let exp := bits / 2 ^ 52 % 2 ^ 11
  let frac := bits % 2 ^ 52
  if exp = 2047 then
    if frac ≠ 0 then lit "NaN" else if 2 ^ 63 ≤ bits then lit "-Inf" else lit "+Inf"
  else
    let units := if exp = 0 then frac else (2 ^ 52 + frac) * 2 ^ (exp - 1)
    let tenths := Float64.roundHalfEven (units * 10) Float64.perOne
    (if 2 ^ 63 ≤ bits then lit "-" else []) ++ natDigits (tenths / 10) ++
      0x2E :: natDigits (tenths % 10)

/-- A number of hundredths as a decimal. -/
def hundredthsText (hundredths : ℕ) : GoString :=
  natDigits (hundredths / 100) ++
    [0x2E, digitByte (hundredths / 10 % 10), digitByte (hundredths % 10)]

/-- What `%.2f` prints. -/
def formatHundredths (x : Float) : GoString :=
  let bits := x.toBits.toNat
  let exp := bits / 2 ^ 52 % 2 ^ 11
  let frac := bits % 2 ^ 52
  if exp = 2047 then
    if frac ≠ 0 then lit "NaN" else if 2 ^ 63 ≤ bits then lit "-Inf" else lit "+Inf"
  else
    let units := if exp = 0 then frac else (2 ^ 52 + frac) * 2 ^ (exp - 1)
    (if 2 ^ 63 ≤ bits then lit "-" else []) ++
      hundredthsText (Float64.roundHalfEven (units * 100) Float64.perOne)

example : mathRound 2.5 = 3 ∧ mathRound (-0.5) = -1 ∧ formatTenths 95.05 = lit "95.0" := by
  decide +kernel

/-! ## Numbers without a sign -/

/-- A finite number without a sign; a zero may have one. -/
def Unsigned (x : Float) : Prop := x.toBits.toNat < 2047 * 2 ^ 52

instance (x : Float) : Decidable (Unsigned x) := Nat.decLt ..

/-- What a decimal without a sign is made of. -/
def isNumeral (byte : UInt8) : Bool := isDigit byte || byte == 0x2E

theorem isNumeral_natDigits (value : ℕ) : ∀ byte ∈ natDigits value, isNumeral byte = true :=
  fun byte member => Bool.or_eq_true_iff.mpr
    (.inl (List.all_eq_true.mp (natDigits_spec value).2.1 byte member))

theorem isNumeral_hundredthsText (hundredths : ℕ) :
    ∀ byte ∈ hundredthsText hundredths, isNumeral byte = true := by
  have decimal (value : ℕ) : isNumeral (digitByte (value % 10)) = true :=
    Bool.or_eq_true_iff.mpr (.inl (isDigit_digitByte (Nat.mod_lt _ (by decide))))
  intro byte member
  rcases List.mem_append.mp member with whole | part
  · exact isNumeral_natDigits _ byte whole
  · simp only [List.mem_cons, List.not_mem_nil, or_false] at part
    rcases part with rfl | rfl | rfl
    · rfl
    · exact decimal _
    · exact decimal _

theorem formatHundredths_unsigned {x : Float} (unsigned : Unsigned x) :
    ∃ hundredths, formatHundredths x = hundredthsText hundredths := by
  have bound : x.toBits.toNat < 2047 * 2 ^ 52 := unsigned
  have finite : ¬ x.toBits.toNat / 2 ^ 52 % 2 ^ 11 = 2047 := by omega
  have positive : ¬ 2 ^ 63 ≤ x.toBits.toNat := by omega
  rw [formatHundredths, if_neg finite, if_neg positive]
  exact ⟨_, rfl⟩

/-- Any other number is printed in letters or with a minus sign. -/
theorem formatHundredths_signed {x : Float} (signed : ¬ Unsigned x) :
    formatHundredths x ∈ [lit "NaN", lit "-Inf", lit "+Inf"] ∨
      ∃ hundredths, formatHundredths x = 0x2D :: hundredthsText hundredths := by
  have bound : ¬ x.toBits.toNat < 2047 * 2 ^ 52 := signed
  have wide : x.toBits.toNat < 2 ^ 64 := x.toBits.toNat_lt
  rw [formatHundredths]
  by_cases special : x.toBits.toNat / 2 ^ 52 % 2 ^ 11 = 2047
  · rw [if_pos special]
    split_ifs
    · exact .inl (by simp)
    · exact .inl (by simp)
    · exact .inl (by simp)
  · have negative : 2 ^ 63 ≤ x.toBits.toNat := by omega
    rw [if_neg special, if_pos negative]
    exact .inr ⟨_, rfl⟩

end ShadowNet.Go
