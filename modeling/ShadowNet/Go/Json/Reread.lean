import ShadowNet.Go.Json.Any
import ShadowNet.Go.Json.Depth

/-! # Reading back what has been read

What `json.Unmarshal` has put into an `any` is written by `json.Marshal` as a text that holds the
same value again: the strings are valid, the numbers are float64, and the members of an object
stand in the order of their keys.
-/

namespace ShadowNet.Go.Json

/-! ## Values by their parts -/

/-- A property of values from that of their parts. -/
theorem Value.by_parts {holds : Value → Prop} (null : holds .null)
    (bool : ∀ value, holds (.bool value)) (num : ∀ text, holds (.num text))
    (str : ∀ text, holds (.str text))
    (arr : ∀ items, (∀ item ∈ items, holds item) → holds (.arr items))
    (obj : ∀ members : List (GoString × Value), (∀ member ∈ members, holds member.2) →
      holds (.obj members)) : ∀ value : Value, holds value
  | .null => null
  | .bool value => bool value
  | .num text => num text
  | .str text => str text
  | .arr items => arr items fun item _ => by_parts null bool num str arr obj item
  | .obj members => obj members fun member _ => by_parts null bool num str arr obj member.2
decreasing_by
  · have inside := List.sizeOf_lt_of_mem ‹item ∈ items›
    rw [Value.arr.sizeOf_spec]
    omega
  · have inside := List.sizeOf_lt_of_mem ‹member ∈ members›
    have whole : sizeOf member = 1 + sizeOf member.1 + sizeOf member.2 := Prod.mk.sizeOf_spec ..
    rw [Value.obj.sizeOf_spec]
    omega

/-! ## What is read -/

/-- A value as `json.Unmarshal` makes it. -/
inductive Any.Read : Any → Prop
  | null : Read .null
  | bool {value : Bool} : Read (.bool value)
  | float {value : Float64} : Read (.float value)
  | str {text : GoString} (valid : Valid text) : Read (.str text)
  | arr {items : List Any} (each : ∀ item ∈ items, Read item) : Read (.arr items)
  | obj {entries : List (GoString × Any)}
      (sorted : entries.Pairwise fun first second => first.1 < second.1)
      (named : ∀ entry ∈ entries, Valid entry.1) (each : ∀ entry ∈ entries, Read entry.2) :
      Read (.obj entries)

theorem mem_ofItems {items : List Value} {list : List Any} (reads : Any.ofItems items = some list)
    {read : Any} (member : read ∈ list) : ∃ item ∈ items, Any.ofValue item = some read := by
  induction items generalizing list with
  | nil =>
    cases reads
    cases member
  | cons item rest ih =>
    obtain ⟨first, own, tail⟩ := Option.bind_eq_some_iff.mp reads
    obtain ⟨others, later, rfl⟩ := Option.map_eq_some_iff.mp tail
    obtain rfl | inside := List.mem_cons.mp member
    · exact ⟨item, List.mem_cons_self .., own⟩
    · obtain ⟨other, listed, same⟩ := ih later inside
      exact ⟨other, List.mem_cons_of_mem _ listed, same⟩

theorem mem_ofMembers {members : List (GoString × Value)} {start last : List (GoString × Any)}
    (reads : Any.ofMembers start members = some last) {entry : GoString × Any} (member : entry ∈ last) :
    entry ∈ start ∨ ∃ value, (entry.1, value) ∈ members ∧ Any.ofValue value = some entry.2 := by
  induction members generalizing start with
  | nil =>
    cases reads
    exact .inl member
  | cons head rest ih =>
    obtain ⟨first, own, tail⟩ := Option.bind_eq_some_iff.mp reads
    rcases ih tail with held | ⟨value, listed, same⟩
    · rcases Map.mem_insertIn held with rfl | old
      · exact .inr ⟨head.2, List.mem_cons_self .., own⟩
      · exact .inl old
    · exact .inr ⟨value, List.mem_cons_of_mem _ listed, same⟩

theorem sorted_ofMembers {members : List (GoString × Value)} {start last : List (GoString × Any)}
    (sorted : start.Pairwise fun first second => first.1 < second.1)
    (reads : Any.ofMembers start members = some last) :
    last.Pairwise fun first second => first.1 < second.1 := by
  induction members generalizing start with
  | nil =>
    cases reads
    exact sorted
  | cons head rest ih =>
    obtain ⟨first, own, tail⟩ := Option.bind_eq_some_iff.mp reads
    exact ih (Map.sorted_insertIn sorted) tail

/-- What is read of a value is in the form in which values are read. -/
theorem ofValue_read (value : Value) : value.Wire → ∀ read, Any.ofValue value = some read →
    read.Read := by
  induction value using Value.by_parts with
  | null =>
    rintro - read ⟨⟩
    exact .null
  | bool value =>
    rintro - read ⟨⟩
    exact .bool
  | num text =>
    intro _ read reads
    obtain ⟨number, -, rfl⟩ := Option.map_eq_some_iff.mp reads
    exact .float
  | str text =>
    rintro valid read ⟨⟩
    exact .str valid
  | arr items ih =>
    intro wire read reads
    obtain ⟨list, own, rfl⟩ := Option.map_eq_some_iff.mp reads
    refine .arr fun item member => ?_
    obtain ⟨source, listed, same⟩ := mem_ofItems own member
    exact ih source listed (wireItems_iff.mp wire source listed) item same
  | obj members ih =>
    intro wire read reads
    obtain ⟨entries, own, rfl⟩ := Option.map_eq_some_iff.mp reads
    refine .obj (sorted_ofMembers .nil own) (fun entry member => ?_) fun entry member => ?_
    · obtain old | ⟨source, listed, -⟩ := mem_ofMembers own member
      · cases old
      · exact (wireMembers_iff.mp wire _ listed).1
    · obtain old | ⟨source, listed, same⟩ := mem_ofMembers own member
      · cases old
      · exact ih _ listed (wireMembers_iff.mp wire _ listed).2 _ same

/-! ## Written and read again -/

theorem toItems_eq (items : List Any) : Any.toItems items = items.map Any.toValue := by
  induction items with
  | nil => rfl
  | cons item rest ih => rw [Any.toItems, ih, List.map_cons]

theorem toMembers_eq (entries : List (GoString × Any)) :
    Any.toMembers entries = entries.map fun entry => (entry.1, entry.2.toValue) := by
  induction entries with
  | nil => rfl
  | cons entry rest ih => rw [Any.toMembers, ih, List.map_cons]

/-- What has been read is fit for the wire. -/
theorem Any.Read.wire {value : Any} (read : value.Read) : value.toValue.Wire := by
  induction read with
  | null => trivial
  | bool => trivial
  | float => exact Float64.isNumber_format _
  | str valid => exact valid
  | @arr items each ih =>
    rw [Any.toValue, toItems_eq]
    apply wireItems_iff.mpr
    intro item member
    obtain ⟨source, listed, rfl⟩ := List.mem_map.mp member
    exact ih source listed
  | @obj entries sorted named each ih =>
    rw [Any.toValue, toMembers_eq]
    apply wireMembers_iff.mpr
    intro member inside
    obtain ⟨source, listed, rfl⟩ := List.mem_map.mp inside
    exact ⟨named source listed, ih source listed⟩

/-- Members in key order go into the map one behind the other. -/
theorem ofMembers_toMembers {entries last : List (GoString × Any)}
    (sorted : entries.Pairwise fun first second => first.1 < second.1)
    (each : List.Forall₂ (fun entry read => entry.1 = read.1 ∧
      Any.ofValue entry.2.toValue = some read.2) entries last) :
    Any.ofMembers [] (Any.toMembers entries) = some last := by
  suffices behind : ∀ front : List (GoString × Any),
      (∀ earlier ∈ front, ∀ entry ∈ entries, earlier.1 < entry.1) →
        Any.ofMembers front (Any.toMembers entries) = some (front ++ last) from
    behind [] nofun
  induction each with
  | nil =>
    intro front _
    rw [Any.toMembers, Any.ofMembers, List.append_nil]
  | @cons entry read entries last same rest ih =>
    intro front before
    obtain ⟨least, tail⟩ := List.pairwise_cons.mp sorted
    have first : ∀ earlier ∈ front, earlier.1 < entry.1 :=
      fun earlier member => before earlier member entry (List.mem_cons_self ..)
    rw [Any.toMembers, Any.ofMembers, same.2, Option.bind_some, Map.insertIn_last _ first, ih tail]
    · rw [List.append_assoc, same.1]
      rfl
    · intro earlier member other inside
      rcases List.mem_append.mp member with old | new
      · exact before earlier old other (List.mem_cons_of_mem _ inside)
      · rw [List.mem_singleton.mp new]
        exact least other inside

/-- Items come back if each of them does. -/
theorem ofItems_toItems {items : List Any}
    (each : ∀ item ∈ items, Any.ofValue item.toValue = some item) :
    Any.ofItems (Any.toItems items) = some items := by
  induction items with
  | nil => rfl
  | cons item rest ih =>
    obtain ⟨first, others⟩ := List.forall_mem_cons.mp each
    rw [Any.toItems, Any.ofItems, first, Option.bind_some, ih others]
    rfl

/-- What has been read is read back. -/
theorem ofValue_toValue {value : Any} (read : value.Read) :
    Any.ofValue value.toValue = some value := by
  induction read with
  | null => rfl
  | bool => rfl
  | float => rw [Any.toValue, Any.ofValue, Float64.parse_format, Option.map_some]
  | str => rfl
  | arr each ih => rw [Any.toValue, Any.ofValue, ofItems_toItems ih, Option.map_some]
  | @obj entries sorted named each ih =>
    have same : List.Forall₂ (fun entry read : GoString × Any => entry.1 = read.1 ∧
        Any.ofValue entry.2.toValue = some read.2) entries entries :=
      List.forall₂_same.mpr fun entry member => ⟨rfl, ih entry member⟩
    rw [Any.toValue, Any.ofValue, ofMembers_toMembers sorted same, Option.map_some]

/-! ## Depth -/

theorem depth_le_items {items : List Value} {item : Value} (member : item ∈ items) :
    item.depth ≤ depthItems items := by
  induction items with
  | nil => cases member
  | cons head rest ih =>
    rw [depthItems]
    obtain rfl | inside := List.mem_cons.mp member
    · exact le_max_left _ _
    · exact (ih inside).trans (le_max_right _ _)

theorem depth_le_members {members : List (GoString × Value)} {member : GoString × Value}
    (inside : member ∈ members) : member.2.depth ≤ depthMembers members := by
  induction members with
  | nil => cases inside
  | cons head rest ih =>
    rw [depthMembers]
    obtain rfl | later := List.mem_cons.mp inside
    · exact le_max_left _ _
    · exact (ih later).trans (le_max_right _ _)

/-- Reading into an `any` makes nothing deeper. -/
theorem depth_ofValue (value : Value) : ∀ read, Any.ofValue value = some read →
    read.toValue.depth ≤ value.depth := by
  induction value using Value.by_parts with
  | null | bool value | str text =>
    rintro read ⟨⟩
    simp only [Any.toValue, le_refl]
  | num text =>
    intro read reads
    obtain ⟨number, -, rfl⟩ := Option.map_eq_some_iff.mp reads
    simp only [Any.toValue, Value.depth, le_refl]
  | arr items ih =>
    intro read reads
    obtain ⟨list, own, rfl⟩ := Option.map_eq_some_iff.mp reads
    rw [Any.toValue, toItems_eq]
    refine Nat.succ_le_succ (depthItems_le fun item member => ?_)
    obtain ⟨held, inside, rfl⟩ := List.mem_map.mp member
    obtain ⟨source, listed, same⟩ := mem_ofItems own inside
    exact (ih source listed held same).trans (depth_le_items listed)
  | obj members ih =>
    intro read reads
    obtain ⟨entries, own, rfl⟩ := Option.map_eq_some_iff.mp reads
    rw [Any.toValue, toMembers_eq]
    refine Nat.succ_le_succ (depthMembers_le fun member inside => ?_)
    obtain ⟨held, listed, rfl⟩ := List.mem_map.mp inside
    obtain old | ⟨source, written, same⟩ := mem_ofMembers own listed
    · cases old
    · exact (ih _ written held.2 same).trans (depth_le_members written)

end ShadowNet.Go.Json
