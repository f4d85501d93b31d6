import Mathlib

/-! # Loops with early returns

The body of a loop over a list either goes on with a new state or leaves the function with a
result. In the `Except` monad a result is an error and the loop is a monadic fold.
-/

namespace ShadowNet.Go

variable {α ρ σ : Type}

/-- A loop that does not leave before an item leaves there if the body does. -/
theorem foldlM_leaves {body : σ → α → Except ρ σ} {before after : List α} {item : α}
    {start middle : σ} {result : ρ} (reaches : before.foldlM body start = .ok middle)
    (leaves : body middle item = .error result) :
    (before ++ item :: after).foldlM body start = .error result := by
  rw [List.foldlM_append, reaches]
  change (item :: after).foldlM body middle = _
  rw [List.foldlM_cons, leaves]
  rfl

/-- A loop leaves at one item, with all items before it gone through. -/
theorem foldlM_eq_error {body : σ → α → Except ρ σ} {items : List α} {start : σ} {result : ρ} :
    items.foldlM body start = .error result ↔
      ∃ before item after middle, items = before ++ item :: after ∧
        before.foldlM body start = .ok middle ∧ body middle item = .error result := by
  constructor
  · intro left
    induction items generalizing start with
    | nil => cases left
    | cons head rest ih =>
      rw [List.foldlM_cons] at left
      cases step : body start head with
      | error early =>
        rw [step] at left
        cases left
        exact ⟨[], head, rest, start, rfl, rfl, step⟩
      | ok next =>
        rw [step] at left
        obtain ⟨before, item, after, middle, rfl, reaches, leaves⟩ := ih left
        refine ⟨head :: before, item, after, middle, rfl, ?_, leaves⟩
        rw [List.foldlM_cons, step]
        exact reaches
  · rintro ⟨before, item, after, middle, rfl, reaches, leaves⟩
    exact foldlM_leaves reaches leaves

/-- A loop goes through when its body does at every item, whatever the state. -/
theorem foldlM_goes_on {body : σ → α → Except ρ σ} {items : List α}
    (passes : ∀ item ∈ items, ∀ state, ∃ next, body state item = .ok next) (start : σ) :
    ∃ last, items.foldlM body start = .ok last := by
  induction items generalizing start with
  | nil => exact ⟨start, rfl⟩
  | cons head rest ih =>
    obtain ⟨next, step⟩ := passes head (List.mem_cons_self ..) start
    rw [List.foldlM_cons, step]
    exact ih (fun item member => passes item (List.mem_cons_of_mem _ member)) next

/-- In a loop that went through, the body went on at every item. -/
theorem foldlM_passed {body : σ → α → Except ρ σ} {items : List α} {start last : σ}
    (through : items.foldlM body start = .ok last) :
    ∀ item ∈ items, ∃ before after, body before item = .ok after := by
  induction items generalizing start with
  | nil => exact fun item member => nomatch member
  | cons head rest ih =>
    rw [List.foldlM_cons] at through
    cases step : body start head with
    | error early =>
      rw [step] at through
      cases through
    | ok next =>
      rw [step] at through
      exact List.forall_mem_cons.mpr ⟨⟨start, next, step⟩, ih through⟩

/-- What the body preserves along the items gone through holds at the end. -/
theorem foldlM_invariant {body : σ → α → Except ρ σ} {motive : List α → σ → Prop} {items : List α}
    {start last : σ} (base : motive [] start)
    (step : ∀ before item middle next, motive before middle → body middle item = .ok next →
      motive (before ++ [item]) next)
    (through : items.foldlM body start = .ok last) : motive items last := by
  suffices onward : ∀ before after start, motive before start →
      after.foldlM body start = .ok last → motive (before ++ after) last from
    onward [] items start base through
  intro before after
  induction after generalizing before with
  | nil =>
    intro start holds through
    cases through
    rwa [List.append_nil]
  | cons item rest ih =>
    intro start holds through
    rw [List.foldlM_cons] at through
    cases here : body start item with
    | error early =>
      rw [here] at through
      cases through
    | ok next =>
      rw [here] at through
      have later := ih (before ++ [item]) next (step before item start next holds here) through
      rwa [List.append_assoc] at later

/-- Past the items that satisfy a test there is a first that does not. -/
theorem takeWhile_first (test : α → Bool) {items : List α} {item : α} (member : item ∈ items)
    (failed : test item = false) :
    ∃ first rest, items = items.takeWhile test ++ first :: rest ∧ test first = false := by
  cases dropped : items.dropWhile test with
  | nil =>
    have passed := List.dropWhile_eq_nil_iff.mp dropped item member
    rw [failed] at passed
    cases passed
  | cons first rest =>
    refine ⟨first, rest, by rw [← dropped, List.takeWhile_append_dropWhile], ?_⟩
    have head := List.head?_dropWhile_not test items
    rw [dropped] at head
    exact head

end ShadowNet.Go
