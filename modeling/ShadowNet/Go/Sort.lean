import Mathlib

/-! # Sorting slices

`sort.Slice` leaves the elements in some order that its comparison does not contradict; it need not
be stable, and under a comparison that is no strict weak order nothing is known but that no element
comes or goes.
-/

namespace ShadowNet.Go

variable {α : Type}

/-- A comparison that puts the elements into classes, one behind the other. -/
structure StrictWeak (less : α → α → Bool) : Prop where
  asymm : ∀ {a b}, less a b = true → less b a = false
  between : ∀ {a c}, less a c = true → ∀ b, less a b = true ∨ less b c = true

/-- No element stands behind one that is larger. -/
def Ordered (less : α → α → Bool) (items : List α) : Prop :=
  items.Pairwise fun first second => less second first = false

/-- `sort.Slice`. -/
structure SliceSort where
  sort : {α : Type} → (α → α → Bool) → List α → List α
  perm : ∀ {α : Type} (less : α → α → Bool) (items : List α), (sort less items).Perm items
  ordered : ∀ {α : Type} {less : α → α → Bool}, StrictWeak less → ∀ items : List α,
    Ordered less (sort less items)

/-- Sorting by a number. -/
theorem strictWeak_key (key : α → ℤ) : StrictWeak fun a b => decide (key a < key b) where
  asymm {a b} below := by
    rw [decide_eq_true_eq] at below
    exact decide_eq_false (by omega)
  between {a c} below b := by
    simp only [decide_eq_true_eq] at below ⊢
    omega

theorem StrictWeak.ordered_insertionSort {less : α → α → Bool} (weak : StrictWeak less)
    (items : List α) :
    Ordered less (items.insertionSort fun first second => less second first = false) := by
  have total : Std.Total fun first second : α => less second first = false := ⟨fun a b => by
    cases back : less b a with
    | false => exact .inl rfl
    | true => exact .inr (weak.asymm back)⟩
  have trans : IsTrans α fun first second => less second first = false := ⟨fun a b c ab bc => by
    cases ca : less c a with
    | false => rfl
    | true =>
      rcases weak.between ca b with below | above
      · rw [bc] at below
        cases below
      · rw [ab] at above
        cases above⟩
  exact List.pairwise_insertionSort _ items

/-- The stable order, which is what short slices get. -/
def SliceSort.stable : SliceSort where
  sort less items := items.insertionSort fun first second => less second first = false
  perm _ items := List.perm_insertionSort _ items
  ordered := StrictWeak.ordered_insertionSort

/-- Elements with distinct keys have one order only. -/
theorem Ordered.eq_of_perm (key : α → ℤ) {first second : List α}
    (one : Ordered (fun a b => decide (key a < key b)) first)
    (other : Ordered (fun a b => decide (key a < key b)) second) (same : first.Perm second)
    (distinct : (first.map key).Nodup) : first = second := by
  have strict {items : List α} (ordered : Ordered (fun a b => decide (key a < key b)) items)
      (nodup : (items.map key).Nodup) : items.Pairwise fun a b => key a < key b := by
    apply (List.Pairwise.and ordered (List.pairwise_map.mp nodup)).imp
    rintro a b ⟨after, differ⟩
    have notBelow : ¬ key b < key a := of_decide_eq_false after
    have apart : key a ≠ key b := differ
    omega
  exact same.eq_of_pairwise (fun a b _ _ below above => absurd below (by omega))
    (strict one distinct) (strict other ((same.map key).nodup_iff.mp distinct))

/-! ## The largest elements -/

/-- Some at most `limit` elements that none left out stands above, the largest first. -/
structure Largest (key : α → ℤ) (limit : ℕ) (items kept : List α) : Prop where
  few : kept.length ≤ limit
  descending : kept.Pairwise fun first second => key second ≤ key first
  dropped : ∃ dropped, items.Perm (kept ++ dropped) ∧
    ∀ d ∈ dropped, kept.length = limit ∧ ∀ k ∈ kept, key d ≤ key k

/-- Two lists that differ only in how elements with one key follow each other. -/
def EqualButTies (key : α → ℤ) (first second : List α) : Prop :=
  first.Perm second ∧ first.map key = second.map key

theorem SliceSort.descending (sorter : SliceSort) (key : α → ℤ) (items : List α) :
    (sorter.sort (fun a b => decide (key b < key a)) items).Pairwise
      fun first second => key second ≤ key first := by
  have weak : StrictWeak fun a b => decide (key b < key a) :=
    { asymm := fun below => by
        rw [decide_eq_true_eq] at below
        exact decide_eq_false (by omega)
      between := fun below b => by
        simp only [decide_eq_true_eq] at below ⊢
        omega }
  apply (sorter.ordered weak items).imp
  intro first second after
  have notBelow : ¬ key first < key second := of_decide_eq_false after
  omega

/-- Sorting downwards and cutting leaves the largest. -/
theorem SliceSort.largest_take (sorter : SliceSort) (key : α → ℤ) (limit : ℕ) (items : List α) :
    Largest key limit items
      ((sorter.sort (fun a b => decide (key b < key a)) items).take limit) := by
  have descending := sorter.descending key items
  have perm := sorter.perm (fun a b => decide (key b < key a)) items
  generalize sorter.sort (fun a b => decide (key b < key a)) items = sorted at descending perm
  refine ⟨List.length_take_le limit sorted, descending.take, sorted.drop limit, ?_, ?_⟩
  · rw [List.take_append_drop]
    exact perm.symm
  · intro d cut
    have long : limit < sorted.length := by
      by_contra short
      rw [List.drop_of_length_le (by omega)] at cut
      cases cut
    refine ⟨by rw [List.length_take]; omega, fun k kept => ?_⟩
    rw [← List.take_append_drop limit sorted] at descending
    exact (List.pairwise_append.mp descending).2.2 k kept d cut

/-- Where all fit, none is left out. -/
theorem Largest.perm {key : α → ℤ} {limit : ℕ} {items kept : List α}
    (largest : Largest key limit items kept) (fit : items.length ≤ limit) : kept.Perm items := by
  obtain ⟨dropped, perm, above⟩ := largest.dropped
  cases dropped with
  | nil => simpa using perm.symm
  | cons d rest =>
    have full := (above d (List.mem_cons_self ..)).1
    have count := perm.length_eq
    rw [List.length_append, List.length_cons] at count
    omega

theorem Largest.length_eq {key : α → ℤ} {limit : ℕ} {items kept : List α}
    (largest : Largest key limit items kept) : kept.length = min limit items.length := by
  rcases Nat.le_total items.length limit with fit | excess
  · rw [Nat.min_eq_right fit]
    exact (largest.perm fit).length_eq
  · obtain ⟨dropped, perm, above⟩ := largest.dropped
    have count := perm.length_eq
    rw [List.length_append] at count
    cases dropped with
    | nil =>
      rw [List.length_nil] at count
      have few := largest.few
      omega
    | cons d rest =>
      have full := (above d (List.mem_cons_self ..)).1
      omega

/-- Elements in descending order are told apart from another such order by ties only. -/
theorem EqualButTies.of_perm {key : α → ℤ} {first second : List α} (perm : first.Perm second)
    (one : first.Pairwise fun a b => key b ≤ key a)
    (other : second.Pairwise fun a b => key b ≤ key a) : EqualButTies key first second := by
  have keys {items : List α} (ordered : items.Pairwise fun a b => key b ≤ key a) :
      (items.map key).Pairwise fun a b => b ≤ a := List.pairwise_map.mpr ordered
  exact ⟨perm, (perm.map key).eq_of_pairwise (fun a b _ _ below above => le_antisymm above below)
    (keys one) (keys other)⟩

end ShadowNet.Go
