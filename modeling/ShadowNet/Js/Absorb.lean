import Mathlib

/-! # Maps that absorb others

A map that leaves out more than another absorbs it: whichever of the two comes first, what is left is what
the coarser one leaves.
-/

namespace ShadowNet.Js

variable {α ι : Type}

structure Absorbs (coarse fine : α → α) : Prop where
  after : ∀ x, coarse (fine x) = coarse x
  before : ∀ x, fine (coarse x) = coarse x

namespace Absorbs

variable {coarse fine : α → α}

theorem of_id (coarse : α → α) : Absorbs coarse id := ⟨fun _ => rfl, fun _ => rfl⟩

/-- A map that does nothing to what it has left. -/
theorem self (again : ∀ x, coarse (coarse x) = coarse x) : Absorbs coarse coarse := ⟨again, again⟩

theorem map (absorbs : Absorbs coarse fine) : Absorbs (List.map coarse) (List.map fine) := by
  refine ⟨fun xs => ?_, fun xs => ?_⟩
  · rw [List.map_map]
    exact List.map_congr_left fun x _ => absorbs.after x
  · rw [List.map_map]
    exact List.map_congr_left fun x _ => absorbs.before x

theorem map_take (absorbs : Absorbs coarse fine) (count : ℕ) :
    Absorbs (fun xs : List α => (xs.map coarse).take count) fun xs => (xs.map fine).take count := by
  refine ⟨fun xs => ?_, fun xs => ?_⟩
  · rw [List.map_take, absorbs.map.after, List.take_take, min_self]
  · rw [List.map_take, absorbs.map.before, List.take_take, min_self]

theorem mapIdx {coarse fine : ℕ → α → α} (absorbs : ∀ i, Absorbs (coarse i) (fine i)) :
    Absorbs (List.mapIdx coarse) (List.mapIdx fine) := by
  refine ⟨fun xs => ?_, fun xs => ?_⟩
  · rw [List.mapIdx_mapIdx]
    congr 1
    funext i x
    exact (absorbs i).after x
  · rw [List.mapIdx_mapIdx]
    congr 1
    funext i x
    exact (absorbs i).before x

/-- Of maps that come one after another, the one that absorbs them all is what is left. -/
theorem foldl {f : α → ι → α} {top : ι} {labels : List ι} (member : top ∈ labels)
    (absorbs : ∀ label ∈ labels, Absorbs (f · top) (f · label)) (start : α) :
    labels.foldl f start = f start top := by
  have fixed : ∀ rest : List ι, (∀ label ∈ rest, label ∈ labels) → ∀ x,
      rest.foldl f (f x top) = f x top := by
    intro rest inside x
    induction rest with
    | nil => rfl
    | cons label rest ih =>
      obtain ⟨own, others⟩ := List.forall_mem_cons.mp inside
      rw [List.foldl_cons, (absorbs label own).before x]
      exact ih others
  have first : ∀ front : List ι, (∀ label ∈ front, label ∈ labels) → ∀ x,
      f (front.foldl f x) top = f x top := by
    intro front inside x
    induction front generalizing x with
    | nil => rfl
    | cons label front ih =>
      obtain ⟨own, others⟩ := List.forall_mem_cons.mp inside
      rw [List.foldl_cons, ih others]
      exact (absorbs label own).after x
  obtain ⟨front, rest, rfl⟩ := List.append_of_mem member
  rw [List.foldl_append, List.foldl_cons,
    fixed rest fun label own => List.mem_append_right _ (List.mem_cons_of_mem _ own)]
  exact first front (fun label own => List.mem_append_left _ own) start

end Absorbs

end ShadowNet.Js
