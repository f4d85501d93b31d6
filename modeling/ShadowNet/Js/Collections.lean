import Mathlib

/-! # Collections of JavaScript

A `Map` keeps its entries in the order in which their keys were first set, and `sort` is stable. The
values that a loop leaves in a map when it sets only keys that are new are the first of each key.
-/

namespace ShadowNet.Js

variable {κ α : Type} [DecidableEq κ]

/-! ## Maps -/

structure Map (κ α : Type) where
  entries : List (κ × α)
  distinct : (entries.map Prod.fst).Nodup

namespace Map

def empty : Map κ α := ⟨[], List.nodup_nil⟩

def keys (map : Map κ α) : List κ := map.entries.map Prod.fst

def has (map : Map κ α) (key : κ) : Bool := key ∈ map.keys

/-- A key that is there already keeps its place. -/
def set (map : Map κ α) (key : κ) (value : α) : Map κ α :=
  if known : key ∈ map.keys then
    { entries := map.entries.map fun entry => if entry.1 = key then (key, value) else entry
      distinct := by
        have keys : (map.entries.map fun entry => if entry.1 = key then (key, value) else entry).map
            Prod.fst = map.entries.map Prod.fst := by
          rw [List.map_map]
          apply List.map_congr_left
          intro entry _
          by_cases same : entry.1 = key
          · rw [Function.comp_apply, if_pos same, same]
          · rw [Function.comp_apply, if_neg same]
        rw [keys]
        exact map.distinct }
  else
    { entries := map.entries ++ [(key, value)]
      distinct := by
        rw [List.map_append, List.map_singleton, ← List.concat_eq_append]
        exact map.distinct.concat known }

def values (map : Map κ α) : List α := map.entries.map Prod.snd

/-- One turn of a loop that sets the keys that the map does not have. -/
def setNew (key : α → κ) (map : Map κ α) (item : α) : Map κ α :=
  if map.has (key item) then map else map.set (key item) item

end Map

/-! ## The first of each key -/

def firsts (key : α → κ) : List α → List α
  | [] => []
  | item :: rest => item :: (firsts key rest).filter fun other => key other ≠ key item

variable {key : α → κ}

theorem foldl_setNew (map : Map κ α) (items : List α) :
    (items.foldl (Map.setNew key) map).values =
      map.values ++ (firsts key items).filter fun item => key item ∉ map.keys := by
  induction items generalizing map with
  | nil => simp [firsts]
  | cons item rest ih =>
    rw [List.foldl_cons, ih, firsts]
    by_cases known : key item ∈ map.keys
    · have kept : Map.setNew key map item = map := if_pos (decide_eq_true known)
      rw [kept, List.filter_cons_of_neg (by simp [known]), List.filter_filter]
      congr 1
      apply List.filter_congr
      intro other _
      by_cases same : key other = key item
      · simp [same, known]
      · simp [same]
    · obtain ⟨keys, values⟩ : (Map.setNew key map item).keys = map.keys ++ [key item] ∧
          (Map.setNew key map item).values = map.values ++ [item] := by
        have new : map.has (key item) = false := decide_eq_false known
        rw [Map.setNew, new, if_neg Bool.false_ne_true, Map.set, dif_neg known]
        exact ⟨List.map_append, List.map_append⟩
      rw [values, keys, List.filter_cons_of_pos (by simp [known]), List.append_assoc,
        List.filter_filter]
      refine congrArg (map.values ++ ·) (congrArg (item :: ·) (List.filter_congr fun other _ => ?_))
      simp

theorem firsts_sublist (items : List α) : (firsts key items).Sublist items := by
  induction items with
  | nil => exact List.Sublist.slnil
  | cons item rest ih => exact (List.filter_sublist.trans ih).cons_cons item

theorem nodup_firsts (items : List α) : ((firsts key items).map key).Nodup := by
  induction items with
  | nil => exact List.nodup_nil
  | cons item rest ih =>
    rw [firsts, List.map_cons, List.nodup_cons]
    constructor
    · intro again
      obtain ⟨other, kept, same⟩ := List.mem_map.mp again
      exact of_decide_eq_true (List.mem_filter.mp kept).2 same
    · exact ih.sublist (List.filter_sublist.map key)

/-- Every item has a first one of its key. -/
theorem exists_first {item : α} {items : List α} (member : item ∈ items) :
    ∃ first ∈ firsts key items, key first = key item := by
  induction items with
  | nil => cases member
  | cons head rest ih =>
    by_cases same : key item = key head
    · exact ⟨head, List.mem_cons_self .., same.symm⟩
    · obtain rfl | later := List.mem_cons.mp member
      · exact absurd rfl same
      · obtain ⟨first, kept, own⟩ := ih later
        refine ⟨first, List.mem_cons_of_mem _ (List.mem_filter.mpr ⟨kept, ?_⟩), own⟩
        rw [own]
        exact decide_eq_true same

theorem firsts_of_nodup {items : List α} (distinct : (items.map key).Nodup) :
    firsts key items = items := by
  induction items with
  | nil => rfl
  | cons item rest ih =>
    rw [List.map_cons, List.nodup_cons] at distinct
    rw [firsts, ih distinct.2, List.filter_eq_self.mpr]
    intro other member
    exact decide_eq_true fun same => distinct.1 (List.mem_map.mpr ⟨other, member, same⟩)

/-- A selection by key commutes with it. -/
theorem filter_firsts {select : α → Bool}
    (byKey : ∀ first second, key first = key second → select first = select second) (items : List α) :
    (firsts key items).filter select = firsts key (items.filter select) := by
  induction items with
  | nil => rfl
  | cons item rest ih =>
    rw [firsts]
    by_cases selected : select item = true
    · rw [List.filter_cons_of_pos selected, List.filter_cons_of_pos selected, firsts, ← ih,
        List.filter_filter, List.filter_filter]
      exact congrArg (item :: ·) (List.filter_congr fun other _ => Bool.and_comm _ _)
    · rw [List.filter_cons_of_neg selected, List.filter_cons_of_neg selected, ← ih, List.filter_filter]
      apply List.filter_congr
      intro other _
      by_cases same : key other = key item
      · simp [byKey other item same, selected]
      · simp [same]

theorem firsts_append (items more : List α) : firsts key (items ++ more) =
    firsts key items ++ (firsts key more).filter fun other => key other ∉ items.map key := by
  induction items with
  | nil => simp [firsts]
  | cons item rest ih =>
    rw [List.cons_append, firsts, ih, List.filter_append, List.filter_filter, firsts, List.cons_append]
    congr 2
    apply List.filter_congr
    intro other _
    simp

/-- What comes in ahead comes first. -/
theorem firsts_prefix_append (items more : List α) :
    firsts key items <+: firsts key (items ++ more) := by
  rw [firsts_append]
  exact List.prefix_append _ _

/-- Items that the rest begins with change nothing. -/
theorem firsts_append_of_front {items all : List α} (front : items <+: all)
    (distinct : (all.map key).Nodup) : firsts key (items ++ all) = all := by
  obtain ⟨more, rfl⟩ := front
  rw [List.map_append, List.nodup_append] at distinct
  obtain ⟨own, others, apart⟩ := distinct
  have whole : firsts key (items ++ more) = items ++ more := by
    apply firsts_of_nodup
    rw [List.map_append, List.nodup_append]
    exact ⟨own, others, apart⟩
  rw [firsts_append, firsts_of_nodup own, whole, List.filter_append]
  congr 1
  rw [List.filter_eq_nil_iff.mpr, List.filter_eq_self.mpr, List.nil_append]
  · intro other member
    apply decide_eq_true
    intro known
    exact apart _ known _ (List.mem_map_of_mem member) rfl
  · intro item member fresh
    exact of_decide_eq_true fresh (List.mem_map_of_mem member)

/-- Items that are there already change nothing. -/
theorem firsts_append_of_subset {items known : List α} (subset : known ⊆ items)
    (distinct : (items.map key).Nodup) : firsts key (items ++ known) = items := by
  rw [firsts_append, firsts_of_nodup distinct, List.filter_eq_nil_iff.mpr, List.append_nil]
  intro other member fresh
  exact of_decide_eq_true fresh (List.mem_map_of_mem (subset ((firsts_sublist known).subset member)))

/-! ## Sorting -/

/-- `sort` with a comparator. -/
def sort (compare : α → α → ℤ) (items : List α) : List α :=
  items.insertionSort fun first second => compare first second ≤ 0

variable (rank : α → ℤ)

theorem sort_perm (compare : α → α → ℤ) (items : List α) : (sort compare items).Perm items :=
  List.perm_insertionSort _ items

/-- Sorting by the difference of two numbers, the larger one first. -/
instance instTotalDescending : Std.Total fun first second : α => rank second - rank first ≤ 0 :=
  ⟨fun first second => by omega⟩

instance instTransDescending : IsTrans α fun first second => rank second - rank first ≤ 0 :=
  ⟨fun first second third above below => by omega⟩

theorem sort_descending (items : List α) :
    (sort (fun first second => rank second - rank first) items).Pairwise
      fun first second => rank second ≤ rank first := by
  apply (List.pairwise_insertionSort _ items).imp
  intro first second above
  change rank second - rank first ≤ 0 at above
  omega

/-- The sort is stable: those of one rank stay in their order. -/
theorem filter_sort (level : ℤ) (items : List α) :
    (sort (fun first second => rank second - rank first) items).filter (fun item => rank item = level) =
      items.filter fun item => rank item = level := by
  have ties : (items.filter fun item => rank item = level).Pairwise
      fun first second => rank second - rank first ≤ 0 := by
    apply List.pairwise_of_forall_mem_list
    intro first member second member'
    have own := of_decide_eq_true (List.mem_filter.mp member).2
    have own' := of_decide_eq_true (List.mem_filter.mp member').2
    omega
  have kept := (List.sublist_insertionSort ties List.filter_sublist).filter
    fun item => decide (rank item = level)
  rw [List.filter_filter] at kept
  simp only [Bool.and_self] at kept
  exact (kept.eq_of_length ((sort_perm _ items).filter _).length_eq.symm).symm

/-- Two orders that agree on each rank are the same. -/
theorem eq_of_levels {first second : List α}
    (one : first.Pairwise fun above below => rank below ≤ rank above)
    (other : second.Pairwise fun above below => rank below ≤ rank above)
    (levels : ∀ level, first.filter (fun item => rank item = level) =
      second.filter fun item => rank item = level) : first = second := by
  have within {items items' : List α} (levels : ∀ level,
      items.filter (fun item => rank item = level) = items'.filter fun item => rank item = level) :
      items ⊆ items' := by
    intro item member
    have own : item ∈ items.filter fun other => rank other = rank item :=
      List.mem_filter.mpr ⟨member, decide_eq_true rfl⟩
    rw [levels] at own
    exact (List.mem_filter.mp own).1
  induction first generalizing second with
  | nil =>
    exact (List.eq_nil_of_subset_nil (within fun level => (levels level).symm)).symm
  | cons head rest ih =>
    cases second with
    | nil => exact absurd (within levels (List.mem_cons_self ..)) List.not_mem_nil
    | cons head' rest' =>
      obtain ⟨highest, tail⟩ := List.pairwise_cons.mp one
      obtain ⟨highest', tail'⟩ := List.pairwise_cons.mp other
      -- The heads have the highest rank of either list, so that both lead its level.
      have same : rank head = rank head' := by
        have above : rank head ≤ rank head' := by
          rcases List.mem_cons.mp (within levels (List.mem_cons_self ..)) with equal | later
          · rw [equal]
          · exact highest' head later
        have below : rank head' ≤ rank head := by
          rcases List.mem_cons.mp (within (fun level => (levels level).symm)
            (List.mem_cons_self ..)) with equal | later
          · rw [equal]
          · exact highest head' later
        omega
      have top := levels (rank head)
      rw [List.filter_cons_of_pos (by simp), List.filter_cons_of_pos (by simp [same])] at top
      obtain ⟨rfl, -⟩ := List.cons.inj top
      refine congrArg (head :: ·) (ih tail tail' fun level => ?_)
      have both := levels level
      by_cases own : rank head = level
      · rw [List.filter_cons_of_pos (by simp [own]), List.filter_cons_of_pos (by simp [own])] at both
        exact (List.cons.inj both).2
      · rwa [List.filter_cons_of_neg (by simp [own]), List.filter_cons_of_neg (by simp [own])] at both

end ShadowNet.Js
