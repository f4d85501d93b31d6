import Mathlib

/-! # Runs of a labelled step relation

A property of every step that a run takes, and the rules by which such properties follow from what
one step does in the states where an invariant holds.
-/

namespace ShadowNet.Go

variable {σ α : Type} {step : σ → α → σ → Prop}

/-- Every step of a run from a state under the given labels satisfies `holds`. -/
def Always (step : σ → α → σ → Prop) (holds : σ → α → σ → Prop) : σ → List α → Prop
  | _, [] => True
  | state, label :: labels =>
      ∀ next, step state label next → holds state label next ∧ Always step holds next labels

/-- The states in which a run under the given labels may end. -/
inductive Run (step : σ → α → σ → Prop) : σ → List α → σ → Prop
  | nil (state : σ) : Run step state [] state
  | cons {state next last : σ} {label : α} {labels : List α} (stepped : step state label next)
      (rest : Run step next labels last) : Run step state (label :: labels) last

theorem Run.append {first second : List α} {start middle last : σ}
    (one : Run step start first middle) (two : Run step middle second last) :
    Run step start (first ++ second) last := by
  induction one with
  | nil => exact two
  | cons stepped _ ih => exact .cons stepped (ih two)

theorem always_append {holds : σ → α → σ → Prop} {first second : List α} {start : σ} :
    Always step holds start (first ++ second) ↔
      Always step holds start first ∧
        ∀ last, Run step start first last → Always step holds last second := by
  induction first generalizing start with
  | nil =>
    refine ⟨fun always => ⟨trivial, fun last run => ?_⟩, fun both => both.2 start (.nil start)⟩
    cases run
    exact always
  | cons label rest ih =>
    constructor
    · refine fun always => ⟨fun next stepped => ?_, fun last run => ?_⟩
      · exact ⟨(always next stepped).1, (ih.mp (always next stepped).2).1⟩
      · cases run with
        | cons stepped run => exact (ih.mp (always _ stepped).2).2 last run
    · rintro ⟨front, back⟩ next stepped
      exact ⟨(front next stepped).1, ih.mpr ⟨(front next stepped).2,
        fun last run => back last (.cons stepped run)⟩⟩

/-- Two properties that amount to the same wherever an invariant holds that one of them keeps. -/
theorem always_iff {motive : σ → Prop} {holds meets : σ → α → σ → Prop} {labels : List α}
    (exact : ∀ state next, ∀ label ∈ labels, motive state → step state label next →
      (holds state label next ↔ meets state label next))
    (keeps : ∀ state next, ∀ label ∈ labels, motive state → step state label next →
      meets state label next → motive next)
    {start : σ} (initial : motive start) :
    Always step holds start labels ↔ Always step meets start labels := by
  induction labels generalizing start with
  | nil => exact Iff.rfl
  | cons label rest ih =>
    have later (next : σ) (stepped : step start label next) (met : meets start label next) :
        Always step holds next rest ↔ Always step meets next rest :=
      ih (fun state next label member => exact state next label (List.mem_cons_of_mem _ member))
        (fun state next label member => keeps state next label (List.mem_cons_of_mem _ member))
        (keeps start next label (List.mem_cons_self ..) initial stepped met)
    refine forall_congr' fun next => forall_congr' fun stepped => ?_
    rw [exact start next label (List.mem_cons_self ..) initial stepped]
    exact and_congr_right fun met => later next stepped met

/-- Steps that meet a condition have a property too, if they have it wherever an invariant holds
that such steps keep. -/
theorem Always.of_invariant {motive : σ → Prop} {holds meets : σ → α → σ → Prop} {labels : List α}
    {start : σ} (always : Always step meets start labels) (initial : motive start)
    (gives : ∀ state next, ∀ label ∈ labels, motive state → step state label next →
      meets state label next → holds state label next)
    (keeps : ∀ state next, ∀ label ∈ labels, motive state → step state label next →
      meets state label next → motive next) :
    Always step holds start labels := by
  induction labels generalizing start with
  | nil => trivial
  | cons label rest ih =>
    intro next stepped
    obtain ⟨met, later⟩ := always next stepped
    have own := List.mem_cons_self (a := label) (l := rest)
    refine ⟨gives _ _ _ own initial stepped met, ?_⟩
    apply ih later (keeps _ _ _ own initial stepped met)
    · intro state next label member
      exact gives state next label (List.mem_cons_of_mem _ member)
    · intro state next label member
      exact keeps state next label (List.mem_cons_of_mem _ member)

/-- What every step does that starts where an invariant holds, if all steps keep the invariant. -/
theorem always_of_invariant {motive : σ → Prop} {holds : σ → α → σ → Prop} {labels : List α}
    {start : σ} (initial : motive start)
    (preserves : ∀ state next, ∀ label ∈ labels, motive state → step state label next →
      motive next ∧ holds state label next) : Always step holds start labels := by
  induction labels generalizing start with
  | nil => trivial
  | cons label rest ih =>
    intro next stepped
    obtain ⟨kept, held⟩ := preserves _ _ _ (List.mem_cons_self ..) initial stepped
    exact ⟨held, ih kept fun state next label member =>
      preserves state next label (List.mem_cons_of_mem _ member)⟩

/-- An invariant that the steps of a run preserve holds where the run ends. -/
theorem Run.invariant {motive : σ → Prop} {labels : List α} {start last : σ}
    (run : Run step start labels last) (initial : motive start)
    (keeps : ∀ state next, ∀ label ∈ labels, motive state → step state label next →
      motive next) : motive last := by
  induction run with
  | nil => exact initial
  | cons stepped _ ih =>
    exact ih (keeps _ _ _ (List.mem_cons_self ..) initial stepped)
      fun state next label member => keeps state next label (List.mem_cons_of_mem _ member)

/-- A measure that no step raises by more than its cost is raised by a run by no more than the sum of the
costs. -/
theorem Run.potential {motive : σ → Prop} (measure : σ → ℕ) (cost : α → ℕ) {labels : List α}
    {start last : σ} (run : Run step start labels last) (initial : motive start)
    (pays : ∀ state next, ∀ label ∈ labels, motive state → step state label next →
      motive next ∧ measure next ≤ measure state + cost label) :
    measure last ≤ measure start + (labels.map cost).sum := by
  induction run with
  | nil => exact Nat.le_add_right ..
  | @cons state next last label rest stepped _ ih =>
    obtain ⟨kept, paid⟩ := pays _ _ _ (List.mem_cons_self ..) initial stepped
    have later := ih kept fun state next label member =>
      pays state next label (List.mem_cons_of_mem _ member)
    rw [List.map_cons, List.sum_cons]
    omega

/-- A run whose steps all meet a condition keeps an invariant that such steps preserve. -/
theorem Always.invariant {motive : σ → Prop} {meets : σ → α → σ → Prop} {labels : List α}
    {start last : σ} (always : Always step meets start labels) (run : Run step start labels last)
    (initial : motive start)
    (keeps : ∀ state next, ∀ label ∈ labels, motive state → step state label next →
      meets state label next → motive next) : motive last := by
  induction run with
  | nil => exact initial
  | cons stepped _ ih =>
    obtain ⟨met, later⟩ := always _ stepped
    exact ih later (keeps _ _ _ (List.mem_cons_self ..) initial stepped met)
      fun state next label member => keeps state next label (List.mem_cons_of_mem _ member)

end ShadowNet.Go
