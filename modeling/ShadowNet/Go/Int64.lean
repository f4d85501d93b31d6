import Mathlib

/-! # Sums of int64 values

Sums wrap around; these bounds say what a comparison with a sum still tells about the integers.
-/

namespace ShadowNet.Go

/-- What is not above a sum that may overflow is not above the true sum. -/
theorem toInt_le_add {value base step : Int64} (positive : 0 < value) (forward : 0 ≤ step)
    (below : value ≤ base + step) : value.toInt ≤ base.toInt + step.toInt := by
  have start : 0 < value.toInt := Int64.lt_iff_toInt_lt.mp positive
  have ahead : 0 ≤ step.toInt := Int64.le_iff_toInt_le.mp forward
  have wrapped : value.toInt ≤ (base.toInt + step.toInt).bmod (2 ^ 64) := by
    rw [Int64.le_iff_toInt_le, Int64.toInt_add] at below
    exact below
  have baseHigh := base.toInt_lt
  have stepHigh := step.toInt_lt
  have baseLow := base.le_toInt
  rw [Int.bmod_def] at wrapped
  split_ifs at wrapped <;> omega

/-- A sum that fits is the sum of the integers. -/
theorem toInt_add_of_fits {base step : Int64} (forward : 0 ≤ step)
    (fits : base.toInt + step.toInt < 2 ^ 63) :
    (base + step).toInt = base.toInt + step.toInt := by
  have ahead : 0 ≤ step.toInt := Int64.le_iff_toInt_le.mp forward
  have baseLow := base.le_toInt
  rw [Int64.toInt_add, Int.bmod_def]
  split_ifs <;> omega

/-- A sum of a positive and a non-negative value is not zero, even where it wraps around. -/
theorem add_ne_zero {value step : Int64} (positive : 0 < value) (forward : 0 ≤ step) :
    value + step ≠ 0 := by
  have start : 0 < value.toInt := Int64.lt_iff_toInt_lt.mp positive
  have ahead : 0 ≤ step.toInt := Int64.le_iff_toInt_le.mp forward
  intro zero
  have wrapped : (value.toInt + step.toInt).bmod (2 ^ 64) = 0 := by
    rw [← Int64.toInt_add, zero]
    rfl
  have valueHigh := value.toInt_lt
  have stepHigh := step.toInt_lt
  rw [Int.bmod_def] at wrapped
  split_ifs at wrapped <;> omega

/-- Going forward from a positive value wraps around exactly when the sum does not fit. -/
theorem le_self_add_iff {value step : Int64} (positive : 0 < value) (forward : 0 ≤ step) :
    value ≤ value + step ↔ value.toInt + step.toInt < 2 ^ 63 := by
  have start : 0 < value.toInt := Int64.lt_iff_toInt_lt.mp positive
  have ahead : 0 ≤ step.toInt := Int64.le_iff_toInt_le.mp forward
  have valueHigh := value.toInt_lt
  have stepHigh := step.toInt_lt
  rw [Int64.le_iff_toInt_le, Int64.toInt_add, Int.bmod_def]
  split_ifs <;> omega

/-- A sum that is not below a positive number has not overflowed. -/
theorem fits_of_le_add {value base step : Int64} (positive : 0 < value) (forward : 0 ≤ step)
    (below : value ≤ base + step) : base.toInt + step.toInt < 2 ^ 63 := by
  have start : 0 < value.toInt := Int64.lt_iff_toInt_lt.mp positive
  have ahead : 0 ≤ step.toInt := Int64.le_iff_toInt_le.mp forward
  have baseHigh := base.toInt_lt
  have stepHigh := step.toInt_lt
  rw [Int64.le_iff_toInt_le, Int64.toInt_add, Int.bmod_def] at below
  split_ifs at below <;> omega

/-- The bases whose sum with a step is above a positive value form an interval. -/
theorem le_add_of_between {value step first base last : Int64} (positive : 0 < value)
    (forward : 0 ≤ step) (atFirst : value ≤ first + step) (after : first ≤ base)
    (before : base ≤ last) (atLast : value ≤ last + step) : value ≤ base + step := by
  have low := toInt_le_add positive forward atFirst
  have high := fits_of_le_add positive forward atLast
  rw [Int64.le_iff_toInt_le] at after before ⊢
  rw [toInt_add_of_fits forward (by omega)]
  omega

end ShadowNet.Go
