import Mathlib

/-! # Maps

A Go map is held as its entries in strictly increasing key order, so that a map has one
representation and equality of maps is equality of what they hold. A range over a map, whose order
Go leaves open, is taken in key order. A nil map reads as an empty one and is not told apart.
-/

namespace ShadowNet.Go

variable {κ α β : Type} [LinearOrder κ]

/-- Entries with strictly increasing keys. -/
structure Map (κ α : Type) [LinearOrder κ] where
  entries : List (κ × α)
  sorted : entries.Pairwise fun first second => first.1 < second.1

namespace Map

/-- The value at `key` in a list of entries. -/
def findIn (key : κ) : List (κ × α) → Option α
  | [] => none
  | (other, value) :: rest => if other = key then some value else findIn key rest

/-- One pass that replaces the entry at `key`, or puts a new one where it belongs. -/
def insertIn (key : κ) (value : α) : List (κ × α) → List (κ × α)
  | [] => [(key, value)]
  | (other, held) :: rest =>
      if key < other then (key, value) :: (other, held) :: rest
      else if key = other then (key, value) :: rest
      else (other, held) :: insertIn key value rest

theorem mem_insertIn {key : κ} {value : α} {entry : κ × α} {entries : List (κ × α)}
    (member : entry ∈ insertIn key value entries) : entry = (key, value) ∨ entry ∈ entries := by
  induction entries with
  | nil => simpa [insertIn] using member
  | cons head rest ih =>
    obtain ⟨other, held⟩ := head
    rw [insertIn] at member
    split_ifs at member with before same
    · exact List.mem_cons.mp member
    · exact (List.mem_cons.mp member).imp id (List.mem_cons_of_mem _)
    · obtain rfl | inside := List.mem_cons.mp member
      · exact .inr (List.mem_cons_self ..)
      · exact (ih inside).imp id (List.mem_cons_of_mem _)

/-- An insertion keeps the keys in order. -/
theorem sorted_insertIn {key : κ} {value : α} {entries : List (κ × α)}
    (sorted : entries.Pairwise fun first second => first.1 < second.1) :
    (insertIn key value entries).Pairwise fun first second => first.1 < second.1 := by
  induction entries with
  | nil => simp [insertIn]
  | cons head rest ih =>
    obtain ⟨other, held⟩ := head
    obtain ⟨least, tail⟩ := List.pairwise_cons.mp sorted
    rw [insertIn]
    split_ifs with before same
    · refine List.pairwise_cons.mpr ⟨fun entry member => ?_, sorted⟩
      obtain rfl | inside := List.mem_cons.mp member
      · exact before
      · exact before.trans (least entry inside)
    · subst same
      exact List.pairwise_cons.mpr ⟨least, tail⟩
    · refine List.pairwise_cons.mpr ⟨fun entry member => ?_, ih tail⟩
      obtain rfl | inside := mem_insertIn member
      · exact lt_of_le_of_ne (not_lt.mp before) (Ne.symm same)
      · exact least entry inside

/-- What is found after an insertion. -/
theorem findIn_insertIn (key other : κ) (value : α) (entries : List (κ × α)) :
    findIn other (insertIn key value entries) =
      if key = other then some value else findIn other entries := by
  induction entries with
  | nil => simp [insertIn, findIn]
  | cons head rest ih =>
    obtain ⟨held, content⟩ := head
    rw [insertIn]
    by_cases found : key = other
    · subst found
      rw [if_pos rfl] at ih ⊢
      split_ifs with before same
      · exact if_pos rfl
      · exact if_pos rfl
      · rw [findIn, if_neg (Ne.symm same), ih]
    · rw [if_neg found] at ih ⊢
      split_ifs with before same
      · exact if_neg found
      · subst same
        rw [findIn, findIn, if_neg found, if_neg found]
      · rw [findIn, findIn, ih]

/-- A key behind all others goes to the end. -/
theorem insertIn_last {key : κ} (value : α) {entries : List (κ × α)}
    (before : ∀ entry ∈ entries, entry.1 < key) :
    insertIn key value entries = entries ++ [(key, value)] := by
  induction entries with
  | nil => rfl
  | cons head rest ih =>
    obtain ⟨first, others⟩ := List.forall_mem_cons.mp before
    rw [insertIn, if_neg first.not_gt, if_neg first.ne', ih others, List.cons_append]

theorem findIn_insertIn_self (key : κ) (value : α) (entries : List (κ × α)) :
    findIn key (insertIn key value entries) = some value := by
  rw [findIn_insertIn, if_pos rfl]

theorem findIn_insertIn_of_ne {key other : κ} (differ : key ≠ other) (value : α)
    (entries : List (κ × α)) : findIn other (insertIn key value entries) = findIn other entries := by
  rw [findIn_insertIn, if_neg differ]

private theorem findIn_eq_none {key : κ} {entries : List (κ × α)}
    (absent : ∀ entry ∈ entries, entry.1 ≠ key) : findIn key entries = none := by
  induction entries with
  | nil => rfl
  | cons head rest ih =>
    rw [findIn, if_neg (absent head (List.mem_cons_self ..))]
    exact ih fun entry member => absent entry (List.mem_cons_of_mem _ member)

private theorem findIn_of_mem {entries : List (κ × α)}
    (sorted : entries.Pairwise fun first second => first.1 < second.1) {entry : κ × α}
    (member : entry ∈ entries) : findIn entry.1 entries = some entry.2 := by
  induction entries with
  | nil => cases member
  | cons head rest ih =>
    obtain ⟨least, tail⟩ := List.pairwise_cons.mp sorted
    obtain rfl | inside := List.mem_cons.mp member
    · exact if_pos rfl
    · rw [findIn, if_neg (least entry inside).ne]
      exact ih tail inside

theorem mem_of_findIn {key : κ} {value : α} {entries : List (κ × α)}
    (found : findIn key entries = some value) : (key, value) ∈ entries := by
  induction entries with
  | nil => cases found
  | cons head rest ih =>
    rw [findIn] at found
    split_ifs at found with same
    · obtain rfl : head.2 = value := by simpa using found
      subst same
      exact List.mem_cons_self ..
    · exact List.mem_cons_of_mem _ (ih found)

def empty : Map κ α := ⟨[], .nil⟩

instance : EmptyCollection (Map κ α) := ⟨empty⟩

instance : Inhabited (Map κ α) := ⟨empty⟩

instance [DecidableEq α] : DecidableEq (Map κ α) := fun first second =>
  decidable_of_iff (first.entries = second.entries) <| by
    cases first; cases second; simp

/-- `m[key]` where it is present. -/
def find? (m : Map κ α) (key : κ) : Option α := findIn key m.entries

/-- `m[key] = value`. -/
def insert (m : Map κ α) (key : κ) (value : α) : Map κ α :=
  ⟨insertIn key value m.entries, sorted_insertIn m.sorted⟩

/-- `delete(m, key)`. -/
def erase (m : Map κ α) (key : κ) : Map κ α :=
  ⟨m.entries.filter fun entry => entry.1 ≠ key, m.sorted.filter _⟩

/-- Successive assignments; a later one to the same key wins. -/
def insertAll (m : Map κ α) (entries : List (κ × α)) : Map κ α :=
  entries.foldl (fun m entry => m.insert entry.1 entry.2) m

@[simp] theorem find?_empty (key : κ) : (∅ : Map κ α).find? key = none := rfl

@[simp] theorem find?_insert (m : Map κ α) (key other : κ) (value : α) :
    (m.insert key value).find? other = if key = other then some value else m.find? other :=
  findIn_insertIn key other value m.entries

@[simp] theorem find?_erase (m : Map κ α) (key other : κ) :
    (m.erase key).find? other = if key = other then none else m.find? other := by
  change findIn other (m.entries.filter _) = ite _ _ (findIn other m.entries)
  induction m.entries with
  | nil => simp [findIn]
  | cons head rest ih =>
    rw [List.filter_cons]
    by_cases gone : head.1 = key
    · rw [if_neg (by simpa using gone), ih, findIn, gone]
      split_ifs <;> rfl
    · rw [if_pos (by simpa using gone), findIn, findIn, ih]
      split_ifs with same taken
      · exact absurd (same.trans taken.symm) gone
      · rfl
      · rfl
      · rfl

/-- A map has an entry exactly where it finds it. -/
theorem find?_eq_some (m : Map κ α) {key : κ} {value : α} :
    m.find? key = some value ↔ (key, value) ∈ m.entries :=
  ⟨mem_of_findIn, fun member => findIn_of_mem m.sorted member⟩

/-- A map is what it holds. -/
theorem ext {first second : Map κ α} (same : ∀ key, first.find? key = second.find? key) :
    first = second := by
  have entries : first.entries = second.entries := by
    refine List.Perm.eq_of_pairwise (fun a b _ _ before after => absurd before after.asymm)
      first.sorted second.sorted ?_
    refine (List.perm_ext_iff_of_nodup ?_ ?_).mpr fun entry => ?_
    · exact first.sorted.imp fun less => fun same => less.ne (congrArg Prod.fst same)
    · exact second.sorted.imp fun less => fun same => less.ne (congrArg Prod.fst same)
    · rw [← Prod.mk.eta (p := entry), ← find?_eq_some, ← find?_eq_some, same]
  cases first
  cases second
  simpa using entries

/-- Entries in key order are what is found in them. -/
theorem entries_ext {first second : List (κ × α)}
    (sorted : first.Pairwise fun one other => one.1 < other.1)
    (sorted' : second.Pairwise fun one other => one.1 < other.1)
    (same : ∀ key, findIn key first = findIn key second) : first = second :=
  congrArg Map.entries (@ext κ α _ ⟨first, sorted⟩ ⟨second, sorted'⟩ same)

/-- Entries that agree still agree when both get an entry that does. -/
theorem forall₂_insertIn {agree : α → β → Prop} {first : List (κ × α)} {second : List (κ × β)}
    (each : List.Forall₂ (fun one other => one.1 = other.1 ∧ agree one.2 other.2) first second)
    {key : κ} {value : α} {value' : β} (own : agree value value') :
    List.Forall₂ (fun one other => one.1 = other.1 ∧ agree one.2 other.2)
      (insertIn key value first) (insertIn key value' second) := by
  induction each with
  | nil => exact .cons ⟨rfl, own⟩ .nil
  | @cons one other first second same rest ih =>
    obtain ⟨name, held⟩ := one
    obtain ⟨name', held'⟩ := other
    obtain ⟨rfl, agrees⟩ : name = name' ∧ agree held held' := same
    rw [insertIn, insertIn]
    split_ifs
    · exact .cons ⟨rfl, own⟩ (.cons ⟨rfl, agrees⟩ rest)
    · exact .cons ⟨rfl, own⟩ rest
    · exact .cons ⟨rfl, agrees⟩ ih

/-- Assignments in key order hide what was there under the same keys. -/
theorem mem_insertAll {entries : List (κ × α)} {start : Map κ α} {entry : κ × α}
    (member : entry ∈ (start.insertAll entries).entries) :
    entry ∈ entries ∨ entry ∈ start.entries := by
  induction entries generalizing start with
  | nil => exact .inr member
  | cons head rest ih =>
    rcases ih member with inside | before
    · exact .inl (List.mem_cons_of_mem _ inside)
    · rcases mem_insertIn before with rfl | old
      · exact .inl (List.mem_cons_self ..)
      · exact .inr old

/-- Entries that are inserted go before those that were there. -/
theorem find?_insertAll {entries : List (κ × α)}
    (sorted : entries.Pairwise fun first second => first.1 < second.1) (start : Map κ α)
    (key : κ) : (start.insertAll entries).find? key = (findIn key entries).or (start.find? key) := by
  induction entries generalizing start with
  | nil => rfl
  | cons head rest ih =>
    obtain ⟨least, tail⟩ := List.pairwise_cons.mp sorted
    change ((start.insert head.1 head.2).insertAll rest).find? key = _
    rw [ih tail, find?_insert, findIn]
    split_ifs with same
    · rw [findIn_eq_none fun entry member => same ▸ (least entry member).ne']
      rfl
    · rfl

/-- Assignments to other keys leave a key alone. -/
theorem find?_insertAll_other {entries : List (κ × α)} {key : κ} (start : Map κ α)
    (others : ∀ entry ∈ entries, entry.1 ≠ key) :
    (start.insertAll entries).find? key = start.find? key := by
  induction entries generalizing start with
  | nil => rfl
  | cons head rest ih =>
    obtain ⟨own, later⟩ := List.forall_mem_cons.mp others
    change ((start.insert head.1 head.2).insertAll rest).find? key = _
    rw [ih _ later, find?_insert, if_neg own]

/-- Where all assignments to a key agree, the key has that value. -/
theorem find?_insertAll_agree {entries : List (κ × α)} {key : κ} {value : α} (start : Map κ α)
    (assigned : (key, value) ∈ entries ∨ start.find? key = some value)
    (agree : ∀ entry ∈ entries, entry.1 = key → entry.2 = value) :
    (start.insertAll entries).find? key = some value := by
  induction entries generalizing start with
  | nil => exact assigned.resolve_left (by simp)
  | cons head rest ih =>
    obtain ⟨own, later⟩ := List.forall_mem_cons.mp agree
    change ((start.insert head.1 head.2).insertAll rest).find? key = _
    refine ih _ ?_ later
    rw [find?_insert]
    by_cases same : head.1 = key
    · rw [if_pos same, own same]
      exact .inr rfl
    · rw [if_neg same]
      refine assigned.imp (fun member => ?_) id
      obtain rfl | inside := List.mem_cons.mp member
      · exact absurd rfl same
      · exact inside

/-- No key is in a map twice. -/
theorem nodup_keys (m : Map κ α) : (m.entries.map Prod.fst).Nodup :=
  List.pairwise_map.mpr (m.sorted.imp fun less => less.ne)

/-- Assignments to distinct keys leave exactly what they assign. -/
theorem insertAll_perm_iff (entries : List (κ × α)) :
    ((∅ : Map κ α).insertAll entries).entries.Perm entries ↔ (entries.map Prod.fst).Nodup := by
  constructor
  · intro same
    exact (same.map Prod.fst).nodup_iff.mp (nodup_keys _)
  · intro distinct
    apply (List.perm_ext_iff_of_nodup (nodup_keys _).of_map distinct.of_map).mpr
    intro entry
    constructor
    · intro member
      rcases mem_insertAll member with assigned | old
      · exact assigned
      · cases old
    · intro member
      apply (find?_eq_some _).mp
      apply find?_insertAll_agree _ (.inl member)
      intro other inside same
      exact congrArg Prod.snd (List.inj_on_of_nodup_map distinct inside member same)

/-- Assigning a map's own entries to an empty map gives the map back. -/
theorem insertAll_entries (m : Map κ α) : (∅ : Map κ α).insertAll m.entries = m := by
  apply ext
  intro key
  rw [find?_insertAll m.sorted, find?_empty, Option.or_none]
  rfl

/-- Assignments of images of a map's entries. -/
theorem find?_insertAll_map (start : Map κ β) (m : Map κ α) (f : α → β) (key : κ) :
    (start.insertAll (m.entries.map fun entry => (entry.1, f entry.2))).find? key =
      ((m.find? key).map f).or (start.find? key) := by
  have images (entries : List (κ × α)) :
      findIn key (entries.map fun entry => (entry.1, f entry.2)) = (findIn key entries).map f := by
    induction entries with
    | nil => rfl
    | cons head rest ih =>
      rw [List.map_cons, findIn, findIn, ih]
      split_ifs <;> rfl
  have sorted : (m.entries.map fun entry => (entry.1, f entry.2)).Pairwise
      fun first second => first.1 < second.1 := List.pairwise_map.mpr m.sorted
  rw [find?_insertAll sorted, images]
  rfl

end Map

end ShadowNet.Go
