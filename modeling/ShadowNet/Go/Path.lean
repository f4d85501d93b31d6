import ShadowNet.Go.Bytes

/-! # Slash-separated paths

`path.Clean` by its documented rules: empty and `.` elements go, an inner `..` takes the element
before it along, and a `..` at the root is dropped.
-/

namespace ShadowNet.Go

/-- One element of a path onto the elements kept so far, newest first. -/
def pushElement (rooted : Bool) (kept : List GoString) (element : GoString) : List GoString :=
  if element = [] ∨ element = lit "." then kept
  else if element = lit ".." then
    match kept with
    | [] => if rooted then [] else [element]
    | last :: rest => if last = lit ".." then element :: kept else rest
  else element :: kept

/-- `path.Clean`. -/
def pathClean (path : GoString) : GoString :=
  let rooted : Bool := path.head? = some 0x2F
  let kept := (splitOn 0x2F path).foldl (pushElement rooted) []
  let body := List.intercalate [0x2F] kept.reverse
  if rooted then 0x2F :: body else if body = [] then lit "." else body

/-- `filepath.Join` of two elements. -/
def pathJoin (dir name : GoString) : GoString :=
  if dir = [] then if name = [] then [] else pathClean name
  else if name = [] then pathClean dir
  else pathClean (dir ++ 0x2F :: name)

/-- A name without slashes is clean unless it is empty or a dot. -/
theorem pathClean_name {name : GoString} (flat : 0x2F ∉ name) (nonempty : name ≠ [])
    (dot : name ≠ lit ".") : pathClean name = name := by
  have unrooted : name.head? ≠ some 0x2F := fun first => flat (List.mem_of_head? first)
  have pushed : pushElement false [] name = [name] := by
    unfold pushElement
    split_ifs <;> simp_all
  simp only [pathClean, unrooted, decide_false, splitOn_single flat, List.foldl_cons,
    List.foldl_nil, pushed]
  simp [List.intercalate, nonempty]

theorem splitOn_ne_nil (sep : UInt8) (s : GoString) : splitOn sep s ≠ [] := by
  cases s with
  | nil => simp [splitOn]
  | cons byte rest =>
    rw [splitOn]
    split_ifs
    · simp
    · split <;> simp

/-- The parts of two texts with the separator between them. -/
theorem splitOn_append (sep : UInt8) (s t : GoString) :
    splitOn sep (s ++ sep :: t) = splitOn sep s ++ splitOn sep t := by
  induction s with
  | nil => simp [splitOn]
  | cons byte rest ih =>
    rw [List.cons_append, splitOn, splitOn, ih]
    split_ifs with same
    · rfl
    · cases parts : splitOn sep rest with
      | nil => exact absurd parts (splitOn_ne_nil sep rest)
      | cons first later => rfl

/-- One element of a path that cleaning leaves alone. -/
@[mk_iff]
structure FileName (name : GoString) : Prop where
  flat : 0x2F ∉ name
  nonempty : name ≠ []
  dot : name ≠ lit "."
  dots : name ≠ lit ".."

instance instDecidableFileName (name : GoString) : Decidable (FileName name) :=
  decidable_of_iff _ (fileName_iff name).symm

theorem intercalate_append_singleton {α : Type} (sep : α) (items : List (List α)) (last : List α) :
    List.intercalate [sep] (items ++ [last]) = items.flatMap (· ++ [sep]) ++ last := by
  induction items with
  | nil => simp [List.intercalate]
  | cons first rest ih =>
    rw [List.cons_append, List.flatMap_cons, List.append_assoc, ← ih]
    cases rest <;> simp [List.intercalate, List.intersperse]

/-- The paths of the files of a directory differ in the names only. -/
theorem pathJoin_fileName (dir : GoString) : ∃ start, ∀ name, FileName name →
    pathJoin dir name = start ++ name := by
  by_cases here : dir = []
  · refine ⟨[], fun name own => ?_⟩
    rw [pathJoin, if_pos here, if_neg own.nonempty, pathClean_name own.flat own.nonempty own.dot]
    rfl
  obtain ⟨first, rest, rfl⟩ := List.exists_cons_of_ne_nil here
  let rooted : Bool := first = 0x2F
  let kept := (splitOn 0x2F (first :: rest)).foldl (pushElement rooted) []
  refine ⟨(if rooted then [0x2F] else []) ++ kept.reverse.flatMap (· ++ [0x2F]), ?_⟩
  intro name own
  have pushed : (splitOn 0x2F (first :: rest ++ 0x2F :: name)).foldl (pushElement rooted) [] =
      name :: kept := by
    rw [splitOn_append, splitOn_single own.flat, List.foldl_append, List.foldl_cons, List.foldl_nil]
    simp only [pushElement, own.nonempty, own.dot, own.dots, or_self, if_false]
    rfl
  have body : List.intercalate [0x2F] (name :: kept).reverse =
      kept.reverse.flatMap (· ++ [0x2F]) ++ name := by
    rw [List.reverse_cons, intercalate_append_singleton]
  have filled : kept.reverse.flatMap (· ++ [0x2F]) ++ name ≠ [] := by simp [own.nonempty]
  have start : decide ((first :: rest ++ 0x2F :: name).head? = some 0x2F) = rooted := by
    simp [rooted]
  rw [pathJoin, if_neg here, if_neg own.nonempty, pathClean]
  simp only [start, pushed, body, if_neg filled]
  cases rooted <;> simp

/-- Two files of a directory have two paths. -/
theorem pathJoin_ne {dir first second : GoString} (one : FileName first) (other : FileName second)
    (apart : first ≠ second) : pathJoin dir first ≠ pathJoin dir second := by
  obtain ⟨start, joined⟩ := pathJoin_fileName dir
  rw [joined first one, joined second other]
  exact fun same => apart (List.append_cancel_left same)

end ShadowNet.Go
