import Mathlib

/-! # Early returns

A Go function that returns an error leaves at the first check that fails. In the `Except` monad
each such check is a `require`, and a run that succeeds has passed all of them.
-/

namespace ShadowNet.Go

variable {ε α β : Type}

/-- `if !condition { return error }`. -/
def require (condition : Prop) [Decidable condition] (error : ε) : Except ε Unit :=
  if condition then .ok () else .error error

theorem bind_eq_ok {first : Except ε α} {next : α → Except ε β} {result : β} :
    (first >>= next) = .ok result ↔ ∃ middle, first = .ok middle ∧ next middle = .ok result := by
  cases first <;> simp [bind, Except.bind]

theorem pure_eq_ok {value result : α} : (pure value : Except ε α) = .ok result ↔ value = result :=
  ⟨Except.ok.inj, congrArg Except.ok⟩

@[simp] theorem require_eq_ok {condition : Prop} [Decidable condition] {error : ε} {result : Unit} :
    require condition error = .ok result ↔ condition := by
  unfold require
  split_ifs with holds <;> simp [holds]

theorem exists_ok {made : Except ε α} (ends : made.toOption.isSome = true) :
    ∃ value, made = .ok value := by
  cases made with
  | ok value => exact ⟨value, rfl⟩
  | error => cases ends

theorem map_eq_ok {f : α → β} {first : Except ε α} {result : β} :
    first.map f = .ok result ↔ ∃ value, first = .ok value ∧ f value = result := by
  cases first <;> simp [Except.map]

theorem mapError_eq_ok {ε' : Type} {wrap : ε → ε'} {first : Except ε α} {result : α} :
    first.mapError wrap = .ok result ↔ first = .ok result := by
  cases first <;> simp [Except.mapError]

/-- A call that may fail, with the error that its failure becomes. -/
def orError (made : Option α) (error : ε) : Except ε α := made.elim (.error error) .ok

@[simp] theorem orError_eq_ok {made : Option α} {error : ε} {value : α} :
    orError made error = .ok value ↔ made = some value := by
  cases made <;> simp [orError]

/-- Past a check the run goes on exactly when the check held. -/
theorem require_bind_eq_ok {condition : Prop} [Decidable condition] {error : ε}
    {next : Unit → Except ε β} {result : β} :
    (require condition error >>= next) = .ok result ↔ condition ∧ next () = .ok result := by
  rw [bind_eq_ok]
  constructor
  · rintro ⟨⟨⟩, checked, later⟩
    exact ⟨require_eq_ok.mp checked, later⟩
  · rintro ⟨holds, later⟩
    exact ⟨(), require_eq_ok.mpr holds, later⟩

/-- A loop over checks ends well exactly when all of them do. -/
theorem forM_eq_ok {check : α → Except ε Unit} {items : List α} {result : Unit} :
    forM items check = .ok result ↔ ∀ item ∈ items, check item = .ok () := by
  induction items with
  | nil => simp [List.forM_nil, pure, Except.pure]
  | cons item rest ih =>
    rw [List.forM_cons, bind_eq_ok, List.forall_mem_cons]
    constructor
    · rintro ⟨⟨⟩, own, others⟩
      exact ⟨own, ih.mp others⟩
    · rintro ⟨own, others⟩
      exact ⟨(), own, ih.mpr others⟩

/-- Every error that a computation can return is of one kind. -/
def FailsWith (kind : ε → Prop) (run : Except ε α) : Prop :=
  ∀ error, run = .error error → kind error

variable {kind : ε → Prop}

theorem FailsWith.bind {first : Except ε α} {next : α → Except ε β} (fails : FailsWith kind first)
    (later : ∀ value, FailsWith kind (next value)) : FailsWith kind (first >>= next) := by
  intro error failed
  cases first with
  | error own =>
    cases failed
    exact fails error rfl
  | ok value => exact later value error failed

theorem failsWith_ok (value : α) : FailsWith kind (.ok value) := nofun

theorem failsWith_error {error : ε} (own : kind error) :
    FailsWith kind (.error error : Except ε α) := by
  rintro _ ⟨⟩
  exact own

theorem failsWith_require {condition : Prop} [Decidable condition] {error : ε} (own : kind error) :
    FailsWith kind (require condition error) := by
  unfold require
  split_ifs
  · exact failsWith_ok ()
  · exact failsWith_error own

theorem failsWith_mapError {ε' : Type} {wrap : ε' → ε} {first : Except ε' α}
    (wrapped : ∀ error, kind (wrap error)) : FailsWith kind (first.mapError wrap) := by
  cases first with
  | error own => exact failsWith_error (wrapped own)
  | ok value => exact failsWith_ok value

end ShadowNet.Go
