import Mathlib

/-! # Digits of a fixed number of places

A number written in some base with the most significant digit first, in as many places as asked for.
-/

namespace ShadowNet.Go

/-- The number that the digits write. -/
def valueOf (base : ℕ) (digits : List ℕ) : ℕ :=
  digits.foldl (fun value digit => value * base + digit) 0

/-- The last `count` digits of a number. -/
def digitsOf (base : ℕ) : ℕ → ℕ → List ℕ
  | 0, _ => []
  | count + 1, value => digitsOf base count (value / base) ++ [value % base]

variable {base : ℕ}

@[simp] theorem valueOf_concat (digits : List ℕ) (digit : ℕ) :
    valueOf base (digits ++ [digit]) = valueOf base digits * base + digit := by
  rw [valueOf, List.foldl_append, valueOf, List.foldl_cons, List.foldl_nil]

@[simp] theorem length_digitsOf (count value : ℕ) : (digitsOf base count value).length = count := by
  induction count generalizing value with
  | zero => rfl
  | succ count ih => rw [digitsOf, List.length_append, ih, List.length_singleton]

theorem digitsOf_lt (positive : 0 < base) (count value : ℕ) :
    ∀ digit ∈ digitsOf base count value, digit < base := by
  induction count generalizing value with
  | zero => simp [digitsOf]
  | succ count ih =>
    intro digit member
    rcases List.mem_append.mp member with before | last
    · exact ih _ digit before
    · rw [List.mem_singleton.mp last]
      exact Nat.mod_lt _ positive

/-- So many digits stand for no more than that. -/
theorem valueOf_lt {digits : List ℕ} (small : ∀ digit ∈ digits, digit < base) :
    valueOf base digits < base ^ digits.length := by
  induction digits using List.reverseRecOn with
  | nil => simp [valueOf]
  | append_singleton digits digit ih =>
    have before := ih fun other member => small other (List.mem_append_left _ member)
    have last := small digit (by simp)
    rw [valueOf_concat, List.length_append, List.length_singleton, pow_succ]
    calc valueOf base digits * base + digit < valueOf base digits * base + base := by omega
      _ = (valueOf base digits + 1) * base := by ring
      _ ≤ base ^ digits.length * base := Nat.mul_le_mul_right _ before

/-- A number that fits comes back from its digits. -/
theorem valueOf_digitsOf {count value : ℕ} (fits : value < base ^ count) :
    valueOf base (digitsOf base count value) = value := by
  induction count generalizing value with
  | zero =>
    rw [pow_zero] at fits
    rw [digitsOf, valueOf, List.foldl_nil]
    omega
  | succ count ih =>
    rw [digitsOf, valueOf_concat, ih, Nat.div_add_mod']
    rw [pow_succ] at fits
    exact Nat.div_lt_of_lt_mul (by rwa [Nat.mul_comm])

/-- Digits come back from their number. -/
theorem digitsOf_valueOf {digits : List ℕ} (small : ∀ digit ∈ digits, digit < base) :
    digitsOf base digits.length (valueOf base digits) = digits := by
  induction digits using List.reverseRecOn with
  | nil => rfl
  | append_singleton digits digit ih =>
    have last := small digit (by simp)
    rw [List.length_append, List.length_singleton, digitsOf, valueOf_concat,
      Nat.mul_comm, Nat.mul_add_div (by omega), Nat.div_eq_of_lt last, Nat.add_zero,
      ih fun other member => small other (List.mem_append_left _ member), Nat.mul_add_mod,
      Nat.mod_eq_of_lt last]

/-- The digits of a number are known from their number and its value. -/
theorem eq_digitsOf {digits : List ℕ} {value : ℕ} (small : ∀ digit ∈ digits, digit < base)
    (writes : valueOf base digits = value) : digits = digitsOf base digits.length value := by
  rw [← writes, digitsOf_valueOf small]

end ShadowNet.Go
