import ShadowNet.Go.Float64
import ShadowNet.Go.Json.Wire
import ShadowNet.Go.Map

/-! # Go values as JSON

A codec is how `encoding/json` writes and reads the values of one Go type. A decoder takes the
value a variable holds and the JSON value found for it. A mismatch of types, a number out of range
or, in a strict decode, an unknown member fails the whole decode. `null` leaves a variable as it
was, except that it empties slices and maps. A decoded slice starts from zero elements, as
documented.
-/

namespace ShadowNet.Go.Json

/-- `Decoder α strict old value` is the new value of a variable of type `α` that held `old`. -/
abbrev Decoder (α : Type) := Bool → α → Value → Option α

structure Codec (α : Type) where
  encode : α → Value
  decode : Decoder α

variable {α β σ : Type}

def Codec.string : Codec GoString where
  encode := .str
  decode
    | _, old, .null => some old
    | _, _, .str text => some text
    | _, _, _ => none

def Codec.bool : Codec Bool where
  encode := .bool
  decode
    | _, old, .null => some old
    | _, _, .bool value => some value
    | _, _, _ => none

def int64OfInt? (value : ℤ) : Option Int64 :=
  if -2 ^ 63 ≤ value ∧ value < 2 ^ 63 then some (Int64.ofInt value) else none

/-- `int` and `int64` alike. -/
def Codec.int : Codec Int64 where
  encode value := .num (itoa value.toInt)
  decode
    | _, old, .null => some old
    | _, _, .num text => (parseInt text).bind int64OfInt?
    | _, _, _ => none

def Codec.uint : Codec UInt64 where
  encode value := .num (natDigits value.toNat)
  decode
    | _, old, .null => some old
    | _, _, .num text =>
        (parseNat text).bind fun value => if value < 2 ^ 64 then some (UInt64.ofNat value) else none
    | _, _, _ => none

def Codec.float : Codec Float64 where
  encode value := .num value.format
  decode
    | _, old, .null => some old
    | _, _, .num text => Float64.parse text
    | _, _, _ => none

/-- A slice of elements with the given codec and zero value; a nil slice is none. -/
def Codec.slice (element : Codec α) (zero : α) : Codec (Option (List α)) where
  encode
    | none => .null
    | some items => .arr (items.map element.encode)
  decode
    | _, _, .null => some none
    | strict, _, .arr items => (items.mapM (element.decode strict zero)).map some
    | _, _, _ => none

/-- A pointer to a value with the given codec; a nil pointer is none, and `null` makes it one. -/
def Codec.pointer (element : Codec α) (zero : α) : Codec (Option α) where
  encode
    | none => .null
    | some value => element.encode value
  decode
    | _, _, .null => some none
    | strict, old, value => (element.decode strict (old.getD zero) value).map some

def Codec.map (element : Codec α) (zero : α) : Codec (Map GoString α) where
  encode m := .obj (m.entries.map fun entry => (entry.1, element.encode entry.2))
  decode
    | _, _, .null => some ∅
    | strict, old, .obj members =>
        members.foldlM
          (fun m member => (element.decode strict zero member.2).map (m.insert member.1)) old
    | _, _, _ => none

/-! ## Structs -/

/-- A field of a struct under its JSON name. -/
structure StructField (σ : Type) where
  name : GoString
  /-- Whether the field is written; `omitempty` leaves empty ones out. -/
  present : σ → Bool
  encode : σ → Value
  store : Decoder σ
  /-- Take the field over from the first struct into the second. -/
  copy : σ → σ → σ

def StructField.of (name : GoString) (get : σ → β) (set : β → σ → σ) (codec : Codec β) :
    StructField σ where
  name := name
  present _ := true
  encode x := codec.encode (get x)
  store strict old value := (codec.decode strict (get old) value).map (set · old)
  copy x old := set (get x) old

/-- A string field tagged `omitempty`. -/
def StructField.omitEmpty (name : GoString) (get : σ → GoString) (set : GoString → σ → σ) :
    StructField σ :=
  { StructField.of name get set .string with present := fun x => get x ≠ [] }

/-- A field of any other type tagged `omitempty`. -/
def StructField.omitIf (empty : β → Bool) (name : GoString) (get : σ → β) (set : β → σ → σ)
    (codec : Codec β) : StructField σ :=
  { StructField.of name get set codec with present := fun x => !empty (get x) }

/-- `foldRune`, as far as it decides a match with an ASCII name. -/
def foldRune (c : Char) : Char :=
  if c.toNat = 0x17F then 'S' else if c.toNat = 0x212A then 'K' else c.toUpper

def foldName (name : GoString) : List Char := (runes name).map fun sym => foldRune sym.seen

/-- The field a member goes to: the one of that exact name, else the first that differs in case. -/
def findField (fields : List (StructField σ)) (key : GoString) : Option (StructField σ) :=
  (fields.find? fun field => field.name = key).or
    (fields.find? fun field => foldName field.name = foldName key)

theorem findField_mem {fields : List (StructField σ)} {key : GoString} {field : StructField σ}
    (found : findField fields key = some field) : field ∈ fields := by
  rcases Option.or_eq_some_iff.mp found with exact | ⟨-, folded⟩
  · exact List.mem_of_find?_eq_some exact
  · exact List.mem_of_find?_eq_some folded

def storeMember (fields : List (StructField σ)) (strict : Bool) (old : σ)
    (member : GoString × Value) : Option σ :=
  match findField fields member.1 with
  | some field => field.store strict old member.2
  | none => if strict then none else some old

def encodeMember (x : σ) (field : StructField σ) : List (GoString × Value) :=
  if field.present x then [(field.name, field.encode x)] else []

def Codec.struct (fields : List (StructField σ)) : Codec σ where
  encode x := .obj (fields.flatMap (encodeMember x))
  decode
    | _, old, .null => some old
    | strict, old, .obj members => members.foldlM (storeMember fields strict) old
    | _, _, _ => none

/-- `json.Marshal`. -/
def marshal (codec : Codec α) (x : α) : Bytes := encode (codec.encode x)

/-- `json.Unmarshal` into a zero variable. -/
def unmarshal (codec : Codec α) (zero : α) (text : Bytes) : Option α :=
  (parse text).bind (codec.decode false zero)

/-- A `json.Decoder` with `DisallowUnknownFields` that must then meet the end of the input. -/
def decodeStrict (codec : Codec α) (zero : α) (text : Bytes) : Option α :=
  (parse text).bind (codec.decode true zero)

/-! ## Reading back what was written -/

/-- A codec that brings `x` back into a variable that holds `old`. -/
def Codec.Restores (codec : Codec α) (old x : α) : Prop :=
  ∀ strict, codec.decode strict old (codec.encode x) = some x

theorem restores_string (old text : GoString) : Codec.string.Restores old text := fun _ => rfl

theorem restores_bool (old value : Bool) : Codec.bool.Restores old value := fun _ => rfl

theorem restores_int (old value : Int64) : Codec.int.Restores old value := by
  intro strict
  have range : -2 ^ 63 ≤ value.toInt ∧ value.toInt < 2 ^ 63 := ⟨value.le_toInt, value.toInt_lt⟩
  change (parseInt (itoa value.toInt)).bind int64OfInt? = some value
  rw [parseInt_itoa, Option.bind_some, int64OfInt?, if_pos range, Int64.ofInt_toInt]

theorem restores_uint (old value : UInt64) : Codec.uint.Restores old value := by
  intro strict
  change (parseNat (natDigits value.toNat)).bind _ = some value
  rw [parseNat_natDigits, Option.bind_some, if_pos value.toNat_lt, UInt64.ofNat_toNat]

private theorem float_decode (strict : Bool) (old : Float64) (text : Bytes) :
    Codec.float.decode strict old (.num text) = Float64.parse text := rfl

private theorem float_encode (value : Float64) : Codec.float.encode value = .num value.format := rfl

theorem restores_float (old value : Float64) : Codec.float.Restores old value := by
  intro strict
  rw [float_encode, float_decode, Float64.parse_format]

private theorem mapM_encoded {decode : Value → Option α} {encode : α → Value} (items : List α)
    (back : ∀ item ∈ items, decode (encode item) = some item) :
    (items.map encode).mapM decode = some items := by
  induction items with
  | nil => rfl
  | cons item rest ih =>
    rw [List.map_cons, List.mapM_cons, back item (List.mem_cons_self ..),
      ih fun other member => back other (List.mem_cons_of_mem _ member)]
    rfl

/-- Lists restore what their elements restore. -/
theorem restores_slice {element : Codec α} {zero : α} (old items : Option (List α))
    (back : ∀ item ∈ items.getD [], element.Restores zero item) :
    (Codec.slice element zero).Restores old items := by
  intro strict
  cases items with
  | none => rfl
  | some items =>
    exact congrArg (Option.map some)
      (mapM_encoded items fun item member => back item member strict)

/-- So do maps. -/
theorem restores_map {element : Codec α} {zero : α} (m : Map GoString α)
    (back : ∀ entry ∈ m.entries, element.Restores zero entry.2) :
    (Codec.map element zero).Restores ∅ m := by
  intro strict
  have filled (entries : List (GoString × α)) (start : Map GoString α)
      (back : ∀ entry ∈ entries, element.Restores zero entry.2) :
      (entries.map fun entry => (entry.1, element.encode entry.2)).foldlM
          (fun m member => (element.decode strict zero member.2).map (m.insert member.1)) start =
        some (start.insertAll entries) := by
    induction entries generalizing start with
    | nil => rfl
    | cons entry rest ih =>
      rw [List.map_cons, List.foldlM_cons, back entry (List.mem_cons_self ..) strict]
      exact ih (start.insert entry.1 entry.2)
        fun other member => back other (List.mem_cons_of_mem _ member)
  exact (filled m.entries ∅ back).trans (congrArg some m.insertAll_entries)

/-- Each field in turn takes its value over from `x`, whether it is written or left out. -/
def RestoresFields (x : σ) : List (StructField σ) → σ → Prop
  | [], old => old = x
  | field :: rest, old =>
      (field.present x = true → ∀ strict,
        field.store strict old (field.encode x) = some (field.copy x old)) ∧
      (field.present x = false → field.copy x old = old) ∧ RestoresFields x rest (field.copy x old)

/-- A member is stored in the field of its name. -/
theorem storeMember_own {fields : List (StructField σ)}
    (distinct : (fields.map StructField.name).Nodup) {field : StructField σ}
    (member : field ∈ fields) (strict : Bool) (old : σ) (value : Value) :
    storeMember fields strict old (field.name, value) = field.store strict old value := by
  have found : fields.find? (fun other => other.name = field.name) = some field := by
    induction fields with
    | nil => cases member
    | cons head rest ih =>
      rw [List.map_cons, List.nodup_cons] at distinct
      obtain rfl | inside := List.mem_cons.mp member
      · simp
      · have other : head.name ≠ field.name := fun same =>
          distinct.1 (same ▸ List.mem_map_of_mem inside)
        rw [List.find?_cons_of_neg (by simpa using other)]
        exact ih distinct.2 inside
  rw [storeMember, findField, found]
  rfl

/-- A record restores what its fields restore. -/
theorem restores_struct {fields : List (StructField σ)} {zero x : σ}
    (distinct : (fields.map StructField.name).Nodup) (each : RestoresFields x fields zero) :
    (Codec.struct fields).Restores zero x := by
  intro strict
  have stored (rest : List (StructField σ)) (old : σ) (inside : ∀ field ∈ rest, field ∈ fields)
      (each : RestoresFields x rest old) :
      (rest.flatMap (encodeMember x)).foldlM (storeMember fields strict) old = some x := by
    induction rest generalizing old with
    | nil => exact congrArg some each
    | cons field rest ih =>
      obtain ⟨written, omitted, tail⟩ := each
      have goes := ih (field.copy x old)
        (fun other member => inside other (List.mem_cons_of_mem _ member)) tail
      rw [List.flatMap_cons, encodeMember]
      cases present : field.present x with
      | true =>
        rw [if_pos rfl, List.singleton_append, List.foldlM_cons,
          storeMember_own distinct (inside field (List.mem_cons_self ..)), written present strict]
        exact goes
      | false => rw [omitted present] at goes; exact goes
  exact stored fields zero (fun _ member => member) each

theorem restoresFields_of {name : GoString} {get : σ → β} {set : β → σ → σ} {codec : Codec β}
    {x old : σ} {rest : List (StructField σ)} (back : codec.Restores (get old) (get x))
    (tail : RestoresFields x rest (set (get x) old)) :
    RestoresFields x (.of name get set codec :: rest) old :=
  ⟨fun _ strict => congrArg (Option.map (set · old)) (back strict), fun absent => (nomatch absent),
    tail⟩

theorem restoresFields_omitEmpty {name : GoString} {get : σ → GoString} {set : GoString → σ → σ}
    {x old : σ} {rest : List (StructField σ)} (unset : set [] old = old)
    (tail : RestoresFields x rest (set (get x) old)) :
    RestoresFields x (.omitEmpty name get set :: rest) old := by
  refine ⟨fun _ strict => rfl, fun absent => ?_, tail⟩
  have empty : get x = [] := by simpa [StructField.omitEmpty] using absent
  change set (get x) old = old
  rw [empty, unset]

/-! ## Values that stay fit for the wire -/

/-- A decode of a wire value keeps the variable within `good`. -/
def Codec.Keeps (codec : Codec α) (good : α → Prop) : Prop :=
  ∀ strict old value new, good old → value.Wire → codec.decode strict old value = some new → good new

theorem keeps_string : Codec.string.Keeps Valid := by
  intro strict old value new valid wire decoded
  cases value <;> cases decoded
  · exact valid
  · exact wire

theorem keeps_any (codec : Codec α) : codec.Keeps fun _ => True :=
  fun _ _ _ _ _ _ _ => trivial

/-- What every element keeps a list keeps. -/
theorem keeps_slice {element : Codec α} {zero : α} {good : α → Prop} (start : good zero)
    (keeps : element.Keeps good) :
    (Codec.slice element zero).Keeps fun items => ∀ item ∈ items.getD [], good item := by
  have all (strict : Bool) (items : List Value) (read : List α) (wire : WireItems items)
      (decoded : items.mapM (element.decode strict zero) = some read) : ∀ item ∈ read, good item := by
    induction items generalizing read with
    | nil => cases decoded; simp
    | cons item rest ih =>
      rw [List.mapM_cons] at decoded
      obtain ⟨first, here, later⟩ := Option.bind_eq_some_iff.mp decoded
      obtain ⟨others, there, made⟩ := Option.bind_eq_some_iff.mp later
      cases made
      exact List.forall_mem_cons.mpr
        ⟨keeps strict zero item first start wire.1 here, ih others wire.2 there⟩
  intro strict old value new _ wire decoded
  cases value with
  | null => cases decoded; simp
  | arr items =>
    obtain ⟨read, each, rfl⟩ := Option.map_eq_some_iff.mp decoded
    exact all strict items read wire each
  | _ => cases decoded

/-- What every value keeps a map keeps, with valid keys. -/
theorem keeps_map {element : Codec α} {zero : α} {good : α → Prop} (start : good zero)
    (keeps : element.Keeps good) :
    (Codec.map element zero).Keeps fun m => ∀ entry ∈ m.entries, Valid entry.1 ∧ good entry.2 := by
  have all (strict : Bool) (members : List (GoString × Value)) (old new : Map GoString α)
      (held : ∀ entry ∈ old.entries, Valid entry.1 ∧ good entry.2) (wire : WireMembers members)
      (decoded : members.foldlM
        (fun m member => (element.decode strict zero member.2).map (m.insert member.1)) old =
          some new) : ∀ entry ∈ new.entries, Valid entry.1 ∧ good entry.2 := by
    induction members generalizing old with
    | nil => cases decoded; exact held
    | cons member rest ih =>
      rw [List.foldlM_cons] at decoded
      obtain ⟨next, here, later⟩ := Option.bind_eq_some_iff.mp decoded
      obtain ⟨first, read, rfl⟩ := Option.map_eq_some_iff.mp here
      refine ih (old.insert member.1 first) (fun entry inside => ?_) wire.2.2 later
      obtain rfl | before := Map.mem_insertIn inside
      · exact ⟨wire.1, keeps strict zero member.2 first start wire.2.1 read⟩
      · exact held entry before
  intro strict old value new held wire decoded
  cases value with
  | null => cases decoded; exact fun _ member => nomatch member
  | obj members => exact all strict members old new held wire decoded
  | _ => cases decoded

/-- A store of a wire value into one field keeps the struct within `good`. -/
def StructField.Keeps (field : StructField σ) (good : σ → Prop) : Prop :=
  ∀ strict old value new, good old → value.Wire → field.store strict old value = some new → good new

theorem keepsField_of {name : GoString} {get : σ → β} {set : β → σ → σ} {codec : Codec β}
    {good : σ → Prop} {part : β → Prop} (keeps : codec.Keeps part)
    (read : ∀ x, good x → part (get x)) (write : ∀ x value, good x → part value → good (set value x)) :
    (StructField.of name get set codec).Keeps good := by
  intro strict old value new held wire stored
  obtain ⟨made, decoded, rfl⟩ := Option.map_eq_some_iff.mp stored
  exact write old made held (keeps strict _ value made (read old held) wire decoded)

/-- A field whose content `good` does not speak of. -/
theorem keepsField_any {name : GoString} {get : σ → β} {set : β → σ → σ} {codec : Codec β}
    {good : σ → Prop} (write : ∀ x value, good x → good (set value x)) :
    (StructField.of name get set codec).Keeps good :=
  keepsField_of (keeps_any codec) (fun _ _ => trivial) fun x value held _ => write x value held

theorem keepsField_omitEmpty {name : GoString} {get : σ → GoString} {set : GoString → σ → σ}
    {good : σ → Prop} (read : ∀ x, good x → Valid (get x))
    (write : ∀ x value, good x → Valid value → good (set value x)) :
    (StructField.omitEmpty name get set).Keeps good := by
  change (StructField.of name get set .string).Keeps good
  exact keepsField_of keeps_string read write

/-- What every field keeps a record keeps. -/
theorem keeps_struct {fields : List (StructField σ)} {good : σ → Prop}
    (each : fields.Forall fun field => field.Keeps good) : (Codec.struct fields).Keeps good := by
  have each := List.forall_iff_forall_mem.mp each
  have all (strict : Bool) (members : List (GoString × Value)) (old new : σ) (held : good old)
      (wire : WireMembers members)
      (decoded : members.foldlM (storeMember fields strict) old = some new) : good new := by
    induction members generalizing old with
    | nil => cases decoded; exact held
    | cons member rest ih =>
      rw [List.foldlM_cons] at decoded
      obtain ⟨next, here, later⟩ := Option.bind_eq_some_iff.mp decoded
      refine ih next ?_ wire.2.2 later
      unfold storeMember at here
      split at here
      · next field found =>
        exact each field (findField_mem found) strict old _ next held wire.2.1 here
      · split_ifs at here
        cases here
        exact held
  intro strict old value new held wire decoded
  cases value with
  | null => cases decoded; exact held
  | obj members => exact all strict members old new held wire decoded
  | _ => cases decoded

theorem exists_field {fields : List (StructField σ)} {x : σ} {member : GoString × Value}
    (inside : member ∈ fields.flatMap (encodeMember x)) :
    ∃ field ∈ fields, member = (field.name, field.encode x) := by
  obtain ⟨field, own, written⟩ := List.mem_flatMap.mp inside
  unfold encodeMember at written
  split_ifs at written
  · exact ⟨field, own, List.mem_singleton.mp written⟩
  · cases written

/-- A record is on the wire if its fields are. -/
theorem wire_struct {fields : List (StructField σ)} {x : σ}
    (names : ∀ field ∈ fields, Valid field.name)
    (each : fields.Forall fun field => (field.encode x).Wire) :
    ((Codec.struct fields).encode x).Wire := by
  have each := List.forall_iff_forall_mem.mp each
  apply wireMembers_iff.mpr
  intro member inside
  obtain ⟨field, own, rfl⟩ := exists_field inside
  exact ⟨names field own, each field own⟩

theorem wire_slice {element : Codec α} (zero : α) {items : Option (List α)}
    (each : ∀ item ∈ items.getD [], (element.encode item).Wire) :
    ((Codec.slice element zero).encode items).Wire := by
  cases items with
  | none => trivial
  | some items =>
    apply wireItems_iff.mpr
    intro value inside
    obtain ⟨item, own, rfl⟩ := List.mem_map.mp inside
    exact each item own

theorem wire_map {element : Codec α} (zero : α) {m : Map GoString α}
    (each : ∀ entry ∈ m.entries, Valid entry.1 ∧ (element.encode entry.2).Wire) :
    ((Codec.map element zero).encode m).Wire := by
  apply wireMembers_iff.mpr
  intro member inside
  obtain ⟨entry, own, rfl⟩ := List.mem_map.mp inside
  exact each entry own

/-- Every field that is written into a text fit for the wire is fit for it. -/
theorem wire_of_struct {fields : List (StructField σ)} {x : σ}
    (wire : ((Codec.struct fields).encode x).Wire) :
    fields.Forall fun field => field.present x = true → (field.encode x).Wire := by
  apply List.forall_iff_forall_mem.mpr
  intro field own present
  have written : (field.name, field.encode x) ∈ fields.flatMap (encodeMember x) := by
    apply List.mem_flatMap.mpr
    exact ⟨field, own, by simp [encodeMember, present]⟩
  exact (wireMembers_iff.mp wire _ written).2

/-- A string left out for being empty is UTF-8 all the same. -/
theorem valid_of_omitEmpty {name : GoString} {get : σ → GoString} {set : GoString → σ → σ} {x : σ}
    (wire : (StructField.omitEmpty name get set).present x = true →
      ((StructField.omitEmpty name get set).encode x).Wire) : Valid (get x) := by
  by_cases empty : get x = []
  · rw [empty]
    exact rfl
  · exact wire (decide_eq_true empty)

theorem wire_of_slice {element : Codec α} (zero : α) {items : Option (List α)}
    (wire : ((Codec.slice element zero).encode items).Wire) :
    ∀ item ∈ items.getD [], (element.encode item).Wire := by
  cases items with
  | none => simp
  | some items =>
    intro item own
    exact wireItems_iff.mp wire _ (List.mem_map_of_mem own)

theorem wire_of_map {element : Codec α} (zero : α) {m : Map GoString α}
    (wire : ((Codec.map element zero).encode m).Wire) :
    ∀ entry ∈ m.entries, Valid entry.1 ∧ (element.encode entry.2).Wire := by
  intro entry own
  exact wireMembers_iff.mp wire _ (List.mem_map_of_mem own)

theorem wire_int (value : Int64) : (Codec.int.encode value).Wire := isNumber_itoa value.toInt

theorem wire_uint (value : UInt64) : (Codec.uint.encode value).Wire := by
  have whole := (isNumber_natDigits value.toNat [] ⟨rfl, rfl⟩).1
  rwa [List.append_nil] at whole

theorem wire_float (value : Float64) : (Codec.float.encode value).Wire := value.isNumber_format

theorem depth_struct {fields : List (StructField σ)} {x : σ} {bound : ℕ}
    (each : fields.Forall fun field => (field.encode x).depth ≤ bound) :
    ((Codec.struct fields).encode x).depth ≤ bound + 1 := by
  have each := List.forall_iff_forall_mem.mp each
  refine Nat.succ_le_succ (depthMembers_le fun member inside => ?_)
  obtain ⟨field, own, rfl⟩ := exists_field inside
  exact each field own

theorem depth_slice {element : Codec α} (zero : α) {items : Option (List α)} {bound : ℕ}
    (each : ∀ item ∈ items.getD [], (element.encode item).depth ≤ bound) :
    ((Codec.slice element zero).encode items).depth ≤ bound + 1 := by
  cases items with
  | none => exact Nat.zero_le _
  | some items =>
    refine Nat.succ_le_succ (depthItems_le fun value inside => ?_)
    obtain ⟨item, own, rfl⟩ := List.mem_map.mp inside
    exact each item own

theorem depth_map {element : Codec α} (zero : α) {m : Map GoString α} {bound : ℕ}
    (each : ∀ entry ∈ m.entries, (element.encode entry.2).depth ≤ bound) :
    ((Codec.map element zero).encode m).depth ≤ bound + 1 := by
  refine Nat.succ_le_succ (depthMembers_le fun member inside => ?_)
  obtain ⟨entry, own, rfl⟩ := List.mem_map.mp inside
  exact each entry own

/-- What a codec restores and the wire carries is read back from its text. -/
theorem unmarshal_marshal {codec : Codec α} {zero x : α} (restores : codec.Restores zero x)
    (wire : (codec.encode x).Wire) (room : (codec.encode x).depth ≤ maxNestingDepth) :
    unmarshal codec zero (marshal codec x) = some x := by
  rw [unmarshal, marshal, wire.parse room]
  exact restores false

/-- A strict decoder reads back what has been written. -/
theorem decodeStrict_marshal {codec : Codec α} {zero x : α} (restores : codec.Restores zero x)
    (wire : (codec.encode x).Wire) (room : (codec.encode x).depth ≤ maxNestingDepth) :
    decodeStrict codec zero (marshal codec x) = some x := by
  rw [decodeStrict, marshal, wire.parse room]
  exact restores true

/-- What strict decoding into a good variable leaves there is good. -/
theorem decodeStrict_keeps {codec : Codec α} {good : α → Prop} {zero x : α} {text : Bytes}
    (keeps : codec.Keeps good) (start : good zero)
    (decoded : decodeStrict codec zero text = some x) : good x := by
  obtain ⟨value, parsed, read⟩ := Option.bind_eq_some_iff.mp decoded
  exact keeps true zero value x start (parse_wire parsed) read

/-! ## Strict and lenient decodes -/

/-- What a strict decode accepts, a lenient one reads alike. -/
def Codec.Lenient (codec : Codec α) : Prop :=
  ∀ old value new, codec.decode true old value = some new → codec.decode false old value = some new

@[simp] theorem lenient_string : Codec.string.Lenient := by
  intro old value new read
  cases value <;> exact read

@[simp] theorem lenient_bool : Codec.bool.Lenient := by
  intro old value new read
  cases value <;> exact read

@[simp] theorem lenient_int : Codec.int.Lenient := by
  intro old value new read
  cases value <;> exact read

@[simp] theorem lenient_uint : Codec.uint.Lenient := by
  intro old value new read
  cases value <;> exact read

@[simp] theorem lenient_float : Codec.float.Lenient := by
  intro old value new read
  cases value <;> exact read

/-- A loop whose steps succeed again goes the same way again. -/
private theorem foldlM_mono {step again : σ → β → Option σ} {items : List β} {old new : σ}
    (each : ∀ item ∈ items, ∀ x y, step x item = some y → again x item = some y)
    (ran : items.foldlM step old = some new) : items.foldlM again old = some new := by
  induction items generalizing old with
  | nil => exact ran
  | cons item rest ih =>
    obtain ⟨own, others⟩ := List.forall_mem_cons.mp each
    rw [List.foldlM_cons] at ran ⊢
    obtain ⟨next, here, later⟩ := Option.bind_eq_some_iff.mp ran
    rw [own old next here]
    exact ih others later

@[simp] theorem lenient_slice {element : Codec α} {zero : α} (lenient : element.Lenient) :
    (Codec.slice element zero).Lenient := by
  have all (items : List Value) (read : List α)
      (decoded : items.mapM (element.decode true zero) = some read) :
      items.mapM (element.decode false zero) = some read := by
    induction items generalizing read with
    | nil => exact decoded
    | cons item rest ih =>
      rw [List.mapM_cons] at decoded ⊢
      obtain ⟨first, here, later⟩ := Option.bind_eq_some_iff.mp decoded
      obtain ⟨others, there, made⟩ := Option.bind_eq_some_iff.mp later
      rw [lenient zero item first here, ih others there]
      exact made
  intro old value new decoded
  cases value with
  | arr items =>
    obtain ⟨read, each, rfl⟩ := Option.map_eq_some_iff.mp decoded
    exact congrArg (Option.map some) (all items read each)
  | _ => exact decoded

@[simp] theorem lenient_map {element : Codec α} {zero : α} (lenient : element.Lenient) :
    (Codec.map element zero).Lenient := by
  intro old value new decoded
  cases value with
  | obj members =>
    refine foldlM_mono (fun member _ m next inserted => ?_) decoded
    obtain ⟨first, read, rfl⟩ := Option.map_eq_some_iff.mp inserted
    rw [lenient zero member.2 first read, Option.map_some]
  | _ => exact decoded

def StructField.Lenient (field : StructField σ) : Prop :=
  ∀ old value new, field.store true old value = some new → field.store false old value = some new

@[simp] theorem lenientField_of {name : GoString} {get : σ → β} {set : β → σ → σ} {codec : Codec β}
    (lenient : codec.Lenient) : (StructField.of name get set codec).Lenient := by
  intro old value new stored
  obtain ⟨made, decoded, rfl⟩ := Option.map_eq_some_iff.mp stored
  exact congrArg (Option.map (set · old)) (lenient (get old) value made decoded)

@[simp] theorem lenientField_omitEmpty {name : GoString} {get : σ → GoString} {set : GoString → σ → σ} :
    (StructField.omitEmpty name get set).Lenient := by
  change (StructField.of name get set .string).Lenient
  exact lenientField_of lenient_string

/-- A record of lenient fields is lenient. -/
theorem lenient_struct {fields : List (StructField σ)}
    (each : fields.Forall StructField.Lenient) : (Codec.struct fields).Lenient := by
  have each := List.forall_iff_forall_mem.mp each
  intro old value new decoded
  cases value with
  | obj members =>
    refine foldlM_mono (fun member _ x next stored => ?_) decoded
    unfold storeMember at stored ⊢
    split at stored
    · next field found => exact each field (findField_mem found) x member.2 next stored
    · cases stored
  | _ => exact decoded

/-- A text that a strict decode accepts is read alike without strictness. -/
theorem unmarshal_of_decodeStrict {codec : Codec α} {zero x : α} {text : Bytes}
    (lenient : codec.Lenient) (decoded : decodeStrict codec zero text = some x) :
    unmarshal codec zero text = some x := by
  obtain ⟨value, parsed, read⟩ := Option.bind_eq_some_iff.mp decoded
  rw [unmarshal, parsed, Option.bind_some]
  exact lenient zero value x read

end ShadowNet.Go.Json
