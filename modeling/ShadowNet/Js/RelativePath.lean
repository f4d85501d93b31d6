import ShadowNet.Js.String

/-! # Relative paths

A path is the list of its segments; a relative one is followed segment by segment from a directory.
-/

namespace ShadowNet.Js

/-- One segment from a directory: `.` stays, `..` goes up, but not above the root. -/
def followOne (dir : List JsString) (segment : JsString) : Option (List JsString) :=
  if segment = [0x2E] then some dir
  else if segment = [0x2E, 0x2E] then if dir = [] then none else some dir.dropLast
  else some (dir ++ [segment])

def follow (dir segments : List JsString) : Option (List JsString) := segments.foldlM followOne dir

/-- The text of a path from the root. -/
def under (path : List JsString) : JsString := path.flatMap (0x2F :: ·)

@[simp] theorem under_nil : under [] = [] := rfl

@[simp] theorem under_cons (segment : JsString) (path : List JsString) :
    under (segment :: path) = 0x2F :: (segment ++ under path) := rfl

theorem join_cons (segment : JsString) (path : List JsString) :
    join [0x2F] (segment :: path) = segment ++ under path := by
  induction path generalizing segment with
  | nil => simp [join]
  | cons next rest ih =>
    rw [under_cons, ← ih next]
    simp [join]

theorem under_eq_join {path : List JsString} (nonempty : path ≠ []) :
    under path = 0x2F :: join [0x2F] path := by
  cases path with
  | nil => exact absurd rfl nonempty
  | cons segment rest => rw [join_cons, under_cons]

theorem under_append (path rest : List JsString) : under (path ++ rest) = under path ++ under rest :=
  List.flatMap_append

theorem join_append {path rest : List JsString} (nonempty : path ≠ []) :
    join [0x2F] (path ++ rest) = join [0x2F] path ++ under rest := by
  cases path with
  | nil => exact absurd rfl nonempty
  | cons segment path => rw [List.cons_append, join_cons, join_cons, under_append, List.append_assoc]

/-- A path is read back from its text. -/
theorem splitOn_join {path : List JsString} (nonempty : path ≠ [])
    (flat : ∀ segment ∈ path, 0x2F ∉ segment) : (join [0x2F] path).splitOn 0x2F = path :=
  List.splitOn_intercalate 0x2F flat nonempty

theorem splitOn_under {path : List JsString} (flat : ∀ segment ∈ path, 0x2F ∉ segment) :
    (under path).splitOn 0x2F = [] :: path := by
  cases path with
  | nil => rfl
  | cons segment rest =>
    have split := List.splitOn_append_cons_self_of_not_mem (a := 0x2F) (List.not_mem_nil)
      (join [0x2F] (segment :: rest))
    rw [under_eq_join (List.cons_ne_nil _ _), ← List.nil_append (0x2F :: _), split,
      splitOn_join (List.cons_ne_nil _ _) flat]

end ShadowNet.Js
