import ShadowNet.Go.Json.Reads
import ShadowNet.Go.Json.Relaid

/-! # Reading part of what was written

A reader may have a struct with some of the fields that the writer's has. `json.Unmarshal` passes over
members that no field takes, and it does not see how the text is laid out.
-/

namespace ShadowNet.Go.Json

variable {α β σ τ : Type}

/-- A slice of which it does not matter whether it is nil: an empty one is written as `null` or not. -/
def Codec.list (element : Codec α) (zero : α) (asNull : Bool) : Codec (List α) where
  encode items :=
    if asNull && items.isEmpty then .null else (Codec.slice element zero).encode (some items)
  decode strict old value := ((Codec.slice element zero).decode strict (some old) value).map (·.getD [])

theorem reads_list {element : Codec α} {zero : α} {f : α → α} (asNull : Bool) (old items : List α)
    (each : ∀ item ∈ items, element.Reads zero item (f item)) :
    (Codec.list element zero asNull).Reads old items (items.map f) := by
  intro strict
  simp only [Codec.list]
  split_ifs with empty
  · rw [Bool.and_eq_true, List.isEmpty_iff] at empty
    rw [empty.2]
    rfl
  · rw [reads_slice (some old) (some items) each strict]
    rfl

theorem numeric_list {element : Codec α} (zero : α) {asNull : Bool} {items : List α}
    (each : ∀ item ∈ items, (element.encode item).Numeric) :
    ((Codec.list element zero asNull).encode items).Numeric := by
  simp only [Codec.list]
  split_ifs
  · trivial
  · exact numeric_slice zero each

theorem depth_list {element : Codec α} (zero : α) {asNull : Bool} {items : List α} {bound : ℕ}
    (each : ∀ item ∈ items, (element.encode item).depth ≤ bound) :
    ((Codec.list element zero asNull).encode items).depth ≤ bound + 1 := by
  simp only [Codec.list]
  split_ifs
  · exact Nat.zero_le _
  · exact depth_slice zero each

/-- The fields of the writer in turn are read by those of the reader over what was there, or passed
over. -/
def ReadsInto (x : τ) (fields : List (StructField σ)) : List (StructField τ) → σ → σ → Prop
  | [], old, last => old = last
  | field :: rest, old, last =>
      Valid field.name ∧ ∃ next,
        (field.present x = true →
          storeMember fields false old (field.name, (field.encode x).sanitize) = some next) ∧
        (field.present x = false → next = old) ∧ ReadsInto x fields rest next last

/-- A field that the reader has as well, perhaps as another type. -/
theorem readsInto_of {name : GoString} {get : τ → α} {set : α → τ → τ} {get' : σ → β}
    {set' : β → σ → σ} {codec : Codec α} {read : Codec β} {x : τ} {fields : List (StructField σ)}
    {old last : σ} {rest : List (StructField τ)} {value : β} (named : Valid name)
    (found : findField fields name = some (.of name get' set' read))
    (own : read.decode false (get' old) (codec.encode (get x)).sanitize = some value)
    (others : ReadsInto x fields rest (set' value old) last) :
    ReadsInto x fields (.of name get set codec :: rest) old last := by
  refine ⟨named, set' value old, fun _ => ?_, fun absent => ?_, others⟩
  · change storeMember fields false old (name, (codec.encode (get x)).sanitize) = _
    rw [storeMember, found]
    exact congrArg (Option.map (set' · old)) own
  · cases absent

/-- A field that the reader does not have. -/
theorem readsInto_other {field : StructField τ} {x : τ} {fields : List (StructField σ)} {old last : σ}
    {rest : List (StructField τ)} (named : Valid field.name)
    (missing : findField fields field.name = none) (others : ReadsInto x fields rest old last) :
    ReadsInto x fields (field :: rest) old last := by
  refine ⟨named, old, fun _ => ?_, fun _ => rfl, others⟩
  rw [storeMember, missing]
  rfl

/-- A record with fewer fields reads its part of a larger one. -/
theorem reads_narrow {fields : List (StructField σ)} {written : List (StructField τ)} {x : τ}
    {zero y : σ} (each : ReadsInto x fields written zero y) :
    (Codec.struct fields).decode false zero ((Codec.struct written).encode x).sanitize = some y := by
  have members (field : StructField τ) (named : Valid field.name) :
      sanitizeMembers (encodeMember x field) =
        if field.present x then [(field.name, (field.encode x).sanitize)] else [] := by
    unfold encodeMember
    split_ifs
    · rw [sanitizeMembers, sanitizeMembers, named]
    · rfl
  have appended (first second : List (GoString × Value)) :
      sanitizeMembers (first ++ second) = sanitizeMembers first ++ sanitizeMembers second := by
    induction first with
    | nil => rfl
    | cons member rest ih => rw [List.cons_append, sanitizeMembers, ih]; rfl
  change (sanitizeMembers (written.flatMap (encodeMember x))).foldlM (storeMember fields false) zero = _
  induction written generalizing zero with
  | nil => exact congrArg some each
  | cons field rest ih =>
    obtain ⟨named, next, own, absent, others⟩ := each
    rw [List.flatMap_cons, appended, members field named]
    cases present : field.present x with
    | true =>
      rw [if_pos rfl, List.singleton_append, List.foldlM_cons, own present]
      exact ih others
    | false =>
      rw [absent present] at others
      exact ih others

/-- What is read from a text that has been written and laid out. -/
theorem unmarshal_laidOut {codec : Codec α} {read : Codec β} {zero y : β} {x : α}
    {indent : Bytes} (blank : ∀ byte ∈ indent, isWhite byte = true)
    (reads : read.decode false zero (codec.encode x).sanitize = some y)
    (numeric : (codec.encode x).Numeric) (room : (codec.encode x).depth ≤ maxNestingDepth) :
    ∃ text, layOut indent (marshal codec x) = some text ∧ unmarshal read zero text = some y := by
  have parsed := parse_encode numeric room
  have whole : valid (marshal codec x) = true := by
    rw [valid, marshal, parsed]
    rfl
  refine ⟨_, if_pos whole, ?_⟩
  rw [unmarshal, parse_layOut blank (if_pos whole), marshal, parsed]
  exact reads

end ShadowNet.Go.Json
