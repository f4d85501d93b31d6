import ShadowNet.Go.Json.Decode

/-! # Reading back strings that are not UTF-8

`json.Marshal` writes U+FFFD for every byte outside UTF-8, in map keys as well. What a value with
such strings is read back as is a value with the written strings, and a map in which entries may
have met under one key. On UTF-8 strings this is the value itself.
-/

namespace ShadowNet.Go.Json

variable {α β σ : Type}

/-- A codec reads what it wrote for `x`, over a variable that holds `old`, as `y`. -/
def Codec.Reads (codec : Codec α) (old x y : α) : Prop :=
  ∀ strict, codec.decode strict old (codec.encode x).sanitize = some y

theorem reads_string (old text : GoString) : Codec.string.Reads old text (toValid text) :=
  fun _ => rfl

theorem reads_bool (old value : Bool) : Codec.bool.Reads old value value := fun _ => rfl

theorem reads_int (old value : Int64) : Codec.int.Reads old value value := restores_int old value

theorem reads_float (old value : Float64) : Codec.float.Reads old value value :=
  restores_float old value

private theorem sanitizeMembers_eq (members : List (GoString × Value)) :
    sanitizeMembers members = members.map fun member => (toValid member.1, member.2.sanitize) := by
  induction members with
  | nil => rfl
  | cons member rest ih => rw [List.map_cons, sanitizeMembers, ih]

/-- A list reads as its elements do. -/
theorem reads_slice {element : Codec α} {zero : α} {f : α → α} (old items : Option (List α))
    (each : ∀ item ∈ items.getD [], element.Reads zero item (f item)) :
    (Codec.slice element zero).Reads old items (items.map (List.map f)) := by
  intro strict
  cases items with
  | none => rfl
  | some items =>
    have back : (sanitizeItems (items.map element.encode)).mapM (element.decode strict zero) =
        some (items.map f) := by
      change ∀ item ∈ items, element.Reads zero item (f item) at each
      induction items with
      | nil => rfl
      | cons item rest ih =>
        obtain ⟨own, others⟩ := List.forall_mem_cons.mp each
        rw [List.map_cons, sanitizeItems, List.mapM_cons, own strict, ih others]
        rfl
    exact congrArg (Option.map some) back

/-- A map takes up what its values read as. -/
theorem reads_map {element : Codec α} {zero : α} {f : α → α} (old m : Map GoString α)
    (each : ∀ entry ∈ m.entries, element.Reads zero entry.2 (f entry.2)) :
    (Codec.map element zero).Reads old m
      (old.insertAll (m.entries.map fun entry => (toValid entry.1, f entry.2))) := by
  intro strict
  change (sanitizeMembers (m.entries.map _)).foldlM _ old = _
  rw [sanitizeMembers_eq]
  generalize m.entries = entries at each ⊢
  induction entries generalizing old with
  | nil => rfl
  | cons entry rest ih =>
    obtain ⟨own, others⟩ := List.forall_mem_cons.mp each
    rw [List.map_cons, List.map_cons, List.foldlM_cons, own strict]
    exact ih (old.insert (toValid entry.1) (f entry.2)) others

/-- Each field in turn is read over what the fields before it left, or left out. -/
def ReadsFields (x : σ) : List (StructField σ) → σ → σ → Prop
  | [], old, last => old = last
  | field :: rest, old, last =>
      Valid field.name ∧ ∃ next,
        (field.present x = true →
          ∀ strict, field.store strict old (field.encode x).sanitize = some next) ∧
        (field.present x = false → next = old) ∧ ReadsFields x rest next last

/-- One field, then the others. -/
theorem readsFields_of {name : GoString} {get : σ → β} {set : β → σ → σ} {codec : Codec β}
    {x old last : σ} {rest : List (StructField σ)} {value : β} (named : Valid name)
    (own : codec.Reads (get old) (get x) value) (others : ReadsFields x rest (set value old) last) :
    ReadsFields x (.of name get set codec :: rest) old last :=
  ⟨named, set value old, fun _ strict => congrArg (Option.map (set · old)) (own strict), nofun,
    others⟩

/-- A field that is left out keeps the value that it had. -/
theorem readsFields_omitIf {empty : β → Bool} {name : GoString} {get : σ → β} {set : β → σ → σ}
    {codec : Codec β} {x old last : σ} {rest : List (StructField σ)} {value : β}
    (named : Valid name) (own : empty (get x) = false → codec.Reads (get old) (get x) value)
    (unset : empty (get x) = true → set value old = old)
    (others : ReadsFields x rest (set value old) last) :
    ReadsFields x (.omitIf empty name get set codec :: rest) old last := by
  refine ⟨named, set value old, fun present strict => ?_, fun absent => unset ?_, others⟩
  · have filled : empty (get x) = false := by simpa [StructField.omitIf] using present
    exact congrArg (Option.map (set · old)) (own filled strict)
  · simpa [StructField.omitIf] using absent

theorem readsFields_omitEmpty {name : GoString} {get : σ → GoString} {set : GoString → σ → σ}
    {x old last : σ} {rest : List (StructField σ)} (named : Valid name) (unset : set [] old = old)
    (others : ReadsFields x rest (set (toValid (get x)) old) last) :
    ReadsFields x (.omitEmpty name get set :: rest) old last := by
  refine ⟨named, set (toValid (get x)) old, fun _ _ => rfl, fun absent => ?_, others⟩
  have empty : get x = [] := by simpa [StructField.omitEmpty] using absent
  rw [empty]
  exact unset

/-- A record reads as its fields do. -/
theorem reads_struct {fields : List (StructField σ)} {zero x y : σ}
    (distinct : (fields.map StructField.name).Nodup) (each : ReadsFields x fields zero y) :
    (Codec.struct fields).Reads zero x y := by
  intro strict
  change (sanitizeMembers (fields.flatMap (encodeMember x))).foldlM _ zero = _
  rw [sanitizeMembers_eq]
  have stored (rest : List (StructField σ)) (old : σ) (inside : ∀ field ∈ rest, field ∈ fields)
      (each : ReadsFields x rest old y) :
      ((rest.flatMap (encodeMember x)).map
          fun member => (toValid member.1, member.2.sanitize)).foldlM
        (storeMember fields strict) old = some y := by
    induction rest generalizing old with
    | nil => exact congrArg some each
    | cons field rest ih =>
      obtain ⟨named, next, own, absent, others⟩ := each
      obtain ⟨first, later⟩ := List.forall_mem_cons.mp inside
      have name : toValid field.name = field.name := named
      rw [List.flatMap_cons, encodeMember]
      cases present : field.present x with
      | true =>
        rw [if_pos rfl, List.singleton_append, List.map_cons, List.foldlM_cons]
        simp only [name]
        rw [storeMember_own distinct first, own present strict]
        exact ih next later others
      | false =>
        rw [absent present] at others
        exact ih old later others
  exact stored fields zero (fun _ member => member) each

/-! ## Numbers -/

theorem numericItems_iff {items : List Value} :
    NumericItems items ↔ ∀ item ∈ items, item.Numeric := by
  induction items with
  | nil => simp [NumericItems]
  | cons item rest ih => simp [NumericItems, ih]

theorem numericMembers_iff {members : List (GoString × Value)} :
    NumericMembers members ↔ ∀ member ∈ members, member.2.Numeric := by
  induction members with
  | nil => simp [NumericMembers]
  | cons member rest ih => simp [NumericMembers, ih]

/-- A record whose fields are numeric is. -/
theorem numeric_struct {fields : List (StructField σ)} {x : σ}
    (each : fields.Forall fun field => (field.encode x).Numeric) :
    ((Codec.struct fields).encode x).Numeric := by
  have each := List.forall_iff_forall_mem.mp each
  apply numericMembers_iff.mpr
  intro member inside
  obtain ⟨field, own, rfl⟩ := exists_field inside
  exact each field own

theorem numeric_slice {element : Codec α} (zero : α) {items : Option (List α)}
    (each : ∀ item ∈ items.getD [], (element.encode item).Numeric) :
    ((Codec.slice element zero).encode items).Numeric := by
  cases items with
  | none => trivial
  | some items =>
    apply numericItems_iff.mpr
    intro value inside
    obtain ⟨item, own, rfl⟩ := List.mem_map.mp inside
    exact each item own

theorem numeric_map {element : Codec α} (zero : α) {m : Map GoString α}
    (each : ∀ entry ∈ m.entries, (element.encode entry.2).Numeric) :
    ((Codec.map element zero).encode m).Numeric := by
  apply numericMembers_iff.mpr
  intro member inside
  obtain ⟨entry, own, rfl⟩ := List.mem_map.mp inside
  exact each entry own

/-- What is read back from a text that has been written. -/
theorem unmarshal_reads {codec : Codec α} {zero x y : α} (reads : codec.Reads zero x y)
    (numeric : (codec.encode x).Numeric) (room : (codec.encode x).depth ≤ maxNestingDepth) :
    unmarshal codec zero (marshal codec x) = some y := by
  rw [unmarshal, marshal, parse_encode numeric room]
  exact reads false

end ShadowNet.Go.Json
