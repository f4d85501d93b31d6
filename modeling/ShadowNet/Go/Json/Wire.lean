import ShadowNet.Go.Json.Invariant

/-! # Values fit for the wire

A value whose strings are UTF-8 and whose numbers follow the grammar is read back unchanged from its
own text. Parsing yields no other values, so what was once decoded can be written and read again.
-/

namespace ShadowNet.Go.Json

mutual
/-- Every string is UTF-8 and every number is one of the number grammar. -/
def Value.Wire : Value → Prop
  | .num text => isNumber text = true
  | .str text => Valid text
  | .arr items => WireItems items
  | .obj members => WireMembers members
  | _ => True

def WireItems : List Value → Prop
  | [] => True
  | item :: rest => item.Wire ∧ WireItems rest

def WireMembers : List (GoString × Value) → Prop
  | [] => True
  | (key, value) :: rest => Valid key ∧ value.Wire ∧ WireMembers rest
end

mutual
theorem Value.Wire.numeric (value : Value) (wire : value.Wire) : value.Numeric := by
  match value with
  | .null => trivial
  | .bool _ => trivial
  | .num _ => exact wire
  | .str _ => trivial
  | .arr items => exact WireItems.numeric items wire
  | .obj members => exact WireMembers.numeric members wire

theorem WireItems.numeric (items : List Value) (wire : WireItems items) : NumericItems items := by
  match items with
  | [] => trivial
  | item :: rest => exact ⟨Value.Wire.numeric item wire.1, WireItems.numeric rest wire.2⟩

theorem WireMembers.numeric (members : List (GoString × Value)) (wire : WireMembers members) :
    NumericMembers members := by
  match members with
  | [] => trivial
  | (key, value) :: rest =>
    exact ⟨Value.Wire.numeric value wire.2.1, WireMembers.numeric rest wire.2.2⟩
end

mutual
/-- A value on the wire needs no repair. -/
theorem Value.Wire.sanitize (value : Value) (wire : value.Wire) : value.sanitize = value := by
  match value with
  | .null => rfl
  | .bool _ => rfl
  | .num _ => rfl
  | .str text => exact congrArg Value.str wire
  | .arr items => exact congrArg Value.arr (WireItems.sanitize items wire)
  | .obj members => exact congrArg Value.obj (WireMembers.sanitize members wire)

theorem WireItems.sanitize (items : List Value) (wire : WireItems items) :
    sanitizeItems items = items := by
  match items with
  | [] => rfl
  | item :: rest =>
    rw [sanitizeItems, Value.Wire.sanitize item wire.1, WireItems.sanitize rest wire.2]

theorem WireMembers.sanitize (members : List (GoString × Value)) (wire : WireMembers members) :
    sanitizeMembers members = members := by
  match members with
  | [] => rfl
  | (key, value) :: rest =>
    rw [sanitizeMembers, Value.Wire.sanitize value wire.2.1, WireMembers.sanitize rest wire.2.2,
      show toValid key = key from wire.1]
end

/-- A value fit for the wire is what its own text parses to. -/
theorem Value.Wire.parse {value : Value} (wire : value.Wire)
    (room : value.depth ≤ maxNestingDepth) : parse (encode value) = some value := by
  rw [parse_encode (Value.Wire.numeric value wire) room, Value.Wire.sanitize value wire]

theorem wireItems_iff {items : List Value} : WireItems items ↔ ∀ item ∈ items, item.Wire := by
  induction items with
  | nil => simp [WireItems]
  | cons item rest ih => simp [WireItems, ih]

theorem wireMembers_iff {members : List (GoString × Value)} :
    WireMembers members ↔ ∀ member ∈ members, Valid member.1 ∧ member.2.Wire := by
  induction members with
  | nil => simp [WireMembers]
  | cons member rest ih => simp [WireMembers, ih, and_assoc]

theorem depthItems_le {items : List Value} {bound : ℕ}
    (shallow : ∀ item ∈ items, item.depth ≤ bound) : depthItems items ≤ bound := by
  induction items with
  | nil => exact Nat.zero_le _
  | cons item rest ih =>
    exact max_le (shallow item (List.mem_cons_self ..))
      (ih fun other member => shallow other (List.mem_cons_of_mem _ member))

theorem depthMembers_le {members : List (GoString × Value)} {bound : ℕ}
    (shallow : ∀ member ∈ members, member.2.depth ≤ bound) : depthMembers members ≤ bound := by
  induction members with
  | nil => exact Nat.zero_le _
  | cons member rest ih =>
    exact max_le (shallow member (List.mem_cons_self ..))
      (ih fun other inside => shallow other (List.mem_cons_of_mem _ inside))

/-! ## Parsing yields values fit for the wire -/

def Frame.Wire : Frame → Prop
  | .arrayValue done => ∀ item ∈ done, item.Wire
  | .objectKey done => ∀ member ∈ done, Valid member.1 ∧ member.2.Wire
  | .objectValue done key => (∀ member ∈ done, Valid member.1 ∧ member.2.Wire) ∧ Valid key

/-- What a mode has read so far; a number's text, newest first, must lead to its state. -/
def Mode.Wire : Mode → Prop
  | .endKey key => Valid key
  | .endTop value => value.Wire
  | .inNumber number text => ∃ byte body begun, text.reverse = byte :: body ∧
      NumState.begin byte = some begun ∧ body.foldlM NumState.next begun = some number
  | .inLiteral _ value => value.Wire
  | _ => True

structure State.Wire (state : State) : Prop where
  stack : ∀ frame ∈ state.stack, frame.Wire
  mode : state.mode.Wire

/-- Being on the wire is a case of what a state holds. -/
theorem State.wire_iff {state : State} : state.Wire ↔ state.Holds Value.Wire Valid := by
  have frame (frame : Frame) : frame.Wire ↔ frame.Holds Value.Wire Valid := by cases frame <;> rfl
  have mode (mode : Mode) : mode.Wire ↔ mode.Holds Value.Wire Valid := by cases mode <;> rfl
  exact ⟨fun wire => ⟨fun each member => (frame each).mp (wire.stack each member),
      (mode _).mp wire.mode⟩,
    fun holds => ⟨fun each member => (frame each).mpr (holds.stack each member),
      (mode _).mpr holds.mode⟩⟩

theorem wire_closed : Closed Value.Wire Valid where
  null := trivial
  bool _ := trivial
  num _ digits := digits
  arr _ items := wireItems_iff.mpr items
  obj _ members := wireMembers_iff.mpr members

/-- A scan of what is on the wire holds that only. -/
theorem run_wire {state last : State} {text : Bytes} (wire : state.Wire)
    (ran : run state text = some last) : last.Wire :=
  State.wire_iff.mpr (run_holds wire_closed (fun text => ⟨valid_toValid text, valid_toValid text⟩)
    (State.wire_iff.mp wire) ran)

/-- A parsed value is fit for the wire. -/
theorem parse_wire {text : Bytes} {value : Value} (parsed : parse text = some value) :
    value.Wire := by
  obtain ⟨last, ran, final⟩ := Option.bind_eq_some_iff.mp parsed
  exact (State.wire_iff.mp (run_wire (State.wire_iff.mpr start_holds) ran)).value final

/-! ## Texts that only fit values have -/

private theorem escape_seen (syms : List Sym) :
    ((syms.map fun sym => Sym.rune sym.seen).flatMap escapeSym).length ≤
        (syms.flatMap escapeSym).length ∧
      ((syms.flatMap escapeSym).length ≤
          ((syms.map fun sym => Sym.rune sym.seen).flatMap escapeSym).length →
        ofSyms syms = utf8 (syms.map Sym.seen)) := by
  induction syms with
  | nil => simp [ofSyms, utf8]
  | cons sym rest ih =>
    obtain ⟨shorter, same⟩ := ih
    simp only [List.map_cons, List.flatMap_cons, List.length_append]
    cases sym with
    | rune c =>
      refine ⟨Nat.add_le_add_left shorter _, fun long => ?_⟩
      rw [ofSyms, List.flatMap_cons, utf8, List.flatMap_cons]
      exact congrArg _ (same (Nat.le_of_add_le_add_left long))
    | bad byte =>
      have seen : (escapeSym (.rune (Sym.bad byte).seen)).length = 3 := rfl
      have escaped : (escapeSym (.bad byte)).length = 6 := rfl
      omega

theorem quote_toValid (text : GoString) :
    (quote (toValid text)).length ≤ (quote text).length ∧
      ((quote text).length ≤ (quote (toValid text)).length → Valid text) := by
  obtain ⟨shorter, same⟩ := escape_seen (runes text)
  have seen : runes (toValid text) = (runes text).map fun sym => Sym.rune sym.seen := by
    rw [toValid, runes_utf8, List.map_map]
    rfl
  simp only [quote, escape, seen, List.length_cons, List.length_append, List.length_nil]
  refine ⟨by omega, fun long => ?_⟩
  rw [Valid, toValid, ← same (by omega), ofSyms_runes]

mutual
/-- A repair never makes a text longer, and leaves one as long only if there was nothing to repair. -/
theorem encode_sanitize (value : Value) (numeric : value.Numeric) :
    (encode value.sanitize).length ≤ (encode value).length ∧
      ((encode value).length ≤ (encode value.sanitize).length → value.Wire) := by
  match value with
  | .null => exact ⟨le_rfl, fun _ => trivial⟩
  | .bool _ => exact ⟨le_rfl, fun _ => trivial⟩
  | .num _ => exact ⟨le_rfl, fun _ => numeric⟩
  | .str text => exact quote_toValid text
  | .arr [] => exact ⟨le_rfl, fun _ => trivial⟩
  | .arr (item :: rest) =>
    obtain ⟨first, firstWire⟩ := encode_sanitize item numeric.1
    obtain ⟨later, laterWire⟩ := encodeItems_sanitize rest numeric.2
    simp only [Value.sanitize, sanitizeItems, encode, List.length_cons, List.length_append]
    exact ⟨by omega, fun long => ⟨firstWire (by omega), laterWire (by omega)⟩⟩
  | .obj [] => exact ⟨le_rfl, fun _ => trivial⟩
  | .obj ((key, item) :: rest) =>
    obtain ⟨own, ownValid⟩ := quote_toValid key
    obtain ⟨first, firstWire⟩ := encode_sanitize item numeric.1
    obtain ⟨later, laterWire⟩ := encodeMembers_sanitize rest numeric.2
    simp only [Value.sanitize, sanitizeMembers, encode, List.length_cons, List.length_append]
    exact ⟨by omega, fun long =>
      ⟨ownValid (by omega), firstWire (by omega), laterWire (by omega)⟩⟩

theorem encodeItems_sanitize (items : List Value) (numeric : NumericItems items) :
    (encodeItems (sanitizeItems items)).length ≤ (encodeItems items).length ∧
      ((encodeItems items).length ≤ (encodeItems (sanitizeItems items)).length →
        WireItems items) := by
  match items with
  | [] => exact ⟨le_rfl, fun _ => trivial⟩
  | item :: rest =>
    obtain ⟨first, firstWire⟩ := encode_sanitize item numeric.1
    obtain ⟨later, laterWire⟩ := encodeItems_sanitize rest numeric.2
    simp only [sanitizeItems, encodeItems, List.length_cons, List.length_append]
    exact ⟨by omega, fun long => ⟨firstWire (by omega), laterWire (by omega)⟩⟩

theorem encodeMembers_sanitize (members : List (GoString × Value))
    (numeric : NumericMembers members) :
    (encodeMembers (sanitizeMembers members)).length ≤ (encodeMembers members).length ∧
      ((encodeMembers members).length ≤ (encodeMembers (sanitizeMembers members)).length →
        WireMembers members) := by
  match members with
  | [] => exact ⟨le_rfl, fun _ => trivial⟩
  | (key, item) :: rest =>
    obtain ⟨own, ownValid⟩ := quote_toValid key
    obtain ⟨first, firstWire⟩ := encode_sanitize item numeric.1
    obtain ⟨later, laterWire⟩ := encodeMembers_sanitize rest numeric.2
    simp only [sanitizeMembers, encodeMembers, List.length_cons, List.length_append]
    exact ⟨by omega, fun long =>
      ⟨ownValid (by omega), firstWire (by omega), laterWire (by omega)⟩⟩
end

/-- A text that some fit value has is had by fit values only. -/
theorem wire_of_encode_eq {value other : Value} (numeric : value.Numeric) (wire : other.Wire)
    (room : value.depth ≤ maxNestingDepth) (otherRoom : other.depth ≤ maxNestingDepth)
    (same : encode value = encode other) : value.Wire := by
  have read := wire.parse otherRoom
  rw [← same, parse_encode numeric room] at read
  apply (encode_sanitize value numeric).2
  rw [Option.some.inj read, same]

/-! ## Texts that end themselves -/

private theorem eq_of_encode_append {value other : Value} (ends : ∀ text, value ≠ .num text)
    (wire : value.Wire) (otherWire : other.Wire) (room : value.depth ≤ maxNestingDepth)
    (otherRoom : other.depth ≤ maxNestingDepth) {rest : Bytes}
    (longer : encode other = encode value ++ rest) : other = value := by
  have read := otherWire.parse otherRoom
  rw [longer, parse, start, List.append_assoc, run_encode value wire.numeric []
    (by simpa using room) fun text same => absurd same (ends text), wire.sanitize] at read
  obtain ⟨last, ran, found⟩ := Option.bind_eq_some_iff.mp read
  rw [deliver, Option.bind_some] at ran
  rw [run_endTop ran] at found
  exact (Option.some.inj found).symm

/-- The texts of values that are no numbers form a prefix code: what follows them does not matter. -/
theorem encode_append_inj {value other : Value} (ends : ∀ text, value ≠ .num text)
    (otherEnds : ∀ text, other ≠ .num text) (wire : value.Wire) (otherWire : other.Wire)
    (room : value.depth ≤ maxNestingDepth) (otherRoom : other.depth ≤ maxNestingDepth)
    {first second : Bytes} (same : encode value ++ first = encode other ++ second) :
    value = other ∧ first = second := by
  have equal : value = other := by
    rcases List.append_eq_append_iff.mp same with ⟨rest, longer, -⟩ | ⟨rest, longer, -⟩
    · exact (eq_of_encode_append ends wire otherWire room otherRoom longer).symm
    · exact eq_of_encode_append otherEnds otherWire wire otherRoom room longer
  subst equal
  exact ⟨rfl, List.append_cancel_left same⟩

end ShadowNet.Go.Json
