import ShadowNet.Go.Json.Encode

/-! # What a byte does

The steps of the scanner outside strings by what they are: space that is passed over, a bracket, a
quote, a piece of a number or of a literal, or a mark between two values. What is kept by a scan is
checked against these.
-/

namespace ShadowNet.Go.Json

/-- What each step keeps, a scan keeps. -/
theorem run_keeps {keeps : State → Prop}
    (each : ∀ state next byte, keeps state → step state byte = some next → keeps next)
    {state last : State} {text : Bytes} (first : keeps state) (ran : run state text = some last) :
    keeps last := by
  induction text generalizing state with
  | nil => cases ran; exact first
  | cons byte rest ih =>
    obtain ⟨next, stepped, tail⟩ := Option.bind_eq_some_iff.mp ran
    exact ih (each state next byte first stepped) tail

/-! ## Kinds of modes -/

/-- A value may begin. -/
def Mode.WantsValue (mode : Mode) : Prop := mode = .beginValue ∨ mode = .beginValueOrEmpty

/-- A key may begin. -/
def Mode.WantsKey (mode : Mode) : Prop := mode = .beginString ∨ mode = .beginStringOrEmpty

/-- Space may stand here, and means nothing. -/
def Mode.Idle : Mode → Prop
  | .inString _ _ | .inNumber _ _ | .inLiteral _ _ => False
  | _ => True

/-- Where a finished value leaves the scan. -/
def State.Ended (state : State) : Prop :=
  state.mode = .endValue ∨ ∃ value, state = ⟨[], .endTop value⟩

/-- The values that have literals. -/
def literals : List (Bytes × Value) :=
  [(lit "true", .bool true), (lit "false", .bool false), (lit "null", .null)]

theorem deliver_ended {value : Value} {stack : List Frame} {next : State}
    (delivered : deliver value stack = some next) : next.Ended := by
  unfold deliver at delivered
  split at delivered <;> cases delivered
  · exact .inr ⟨value, rfl⟩
  · exact .inl rfl
  · exact .inl rfl

theorem Mode.Idle.outside {mode : Mode} (idle : mode.Idle) (isKey : Bool) (text : StrState) :
    mode ≠ .inString isKey text := by
  rintro rfl
  exact idle

/-- A scanner is inside of a string or it is not. -/
theorem State.outside_or_inside (state : State) :
    (∀ isKey text, state.mode ≠ .inString isKey text) ∨
      ∃ stack isKey text, state = ⟨stack, .inString isKey text⟩ := by
  obtain ⟨stack, mode⟩ := state
  by_cases inside : ∃ isKey text, mode = .inString isKey text
  · obtain ⟨isKey, text, rfl⟩ := inside
    exact .inr ⟨stack, isKey, text, rfl⟩
  · exact .inl fun isKey text same => inside ⟨isKey, text, same⟩

theorem State.Ended.idle {state : State} (ended : state.Ended) : state.mode.Idle := by
  obtain held | ⟨value, rfl⟩ := ended
  · rw [held]
    trivial
  · trivial

/-! ## Moves -/

/-- What a byte does outside strings. -/
inductive Move (byte : UInt8) : State → State → Prop
  | blank {state : State} (white : isWhite byte = true) (idle : state.mode.Idle) :
      Move byte state state
  | openArray {stack : List Frame} {mode : Mode} (wants : mode.WantsValue) (mark : byte = 0x5B)
      (room : stack.length < maxNestingDepth) :
      Move byte ⟨stack, mode⟩ ⟨.arrayValue [] :: stack, .beginValueOrEmpty⟩
  | openObject {stack : List Frame} {mode : Mode} (wants : mode.WantsValue) (mark : byte = 0x7B)
      (room : stack.length < maxNestingDepth) :
      Move byte ⟨stack, mode⟩ ⟨.objectKey [] :: stack, .beginStringOrEmpty⟩
  | openString {stack : List Frame} {mode : Mode} {isKey : Bool}
      (wants : if isKey then mode.WantsKey else mode.WantsValue) (mark : byte = 0x22) :
      Move byte ⟨stack, mode⟩ ⟨stack, .inString isKey (.plain [])⟩
  | openNumber {stack : List Frame} {mode : Mode} {number : NumState} (wants : mode.WantsValue)
      (begun : NumState.begin byte = some number) :
      Move byte ⟨stack, mode⟩ ⟨stack, .inNumber number [byte]⟩
  | openLiteral {stack : List Frame} {mode : Mode} {rest : Bytes} {value : Value}
      (wants : mode.WantsValue) (word : (byte :: rest, value) ∈ literals) :
      Move byte ⟨stack, mode⟩ ⟨stack, .inLiteral rest value⟩
  | digit {stack : List Frame} {number next : NumState} {digits : Bytes}
      (goes : number.next byte = some next) :
      Move byte ⟨stack, .inNumber number digits⟩ ⟨stack, .inNumber next (byte :: digits)⟩
  | endNumber {stack : List Frame} {number : NumState} {digits : Bytes} {middle next : State}
      (stops : number.next byte = none) (complete : number.complete = true)
      (delivered : deliver (.num digits.reverse) stack = some middle)
      (after : Move byte middle next) : Move byte ⟨stack, .inNumber number digits⟩ next
  | letter {stack : List Frame} {first : UInt8} {rest : Bytes} {value : Value} :
      Move byte ⟨stack, .inLiteral (byte :: first :: rest) value⟩
        ⟨stack, .inLiteral (first :: rest) value⟩
  | endLiteral {stack : List Frame} {value : Value} {next : State}
      (delivered : deliver value stack = some next) :
      Move byte ⟨stack, .inLiteral [byte] value⟩ next
  | colon {stack : List Frame} {done : List (GoString × Value)} {key : GoString}
      (mark : byte = 0x3A) :
      Move byte ⟨.objectKey done :: stack, .endKey key⟩ ⟨.objectValue done key :: stack, .beginValue⟩
  | commaArray {stack : List Frame} {done : List Value} (mark : byte = 0x2C) :
      Move byte ⟨.arrayValue done :: stack, .endValue⟩ ⟨.arrayValue done :: stack, .beginValue⟩
  | commaObject {stack : List Frame} {done : List (GoString × Value)} (mark : byte = 0x2C) :
      Move byte ⟨.objectKey done :: stack, .endValue⟩ ⟨.objectKey done :: stack, .beginString⟩
  | closeArray {stack : List Frame} {done : List Value} {mode : Mode} {next : State}
      (may : mode = .endValue ∨ mode = .beginValueOrEmpty) (mark : byte = 0x5D)
      (delivered : deliver (.arr done.reverse) stack = some next) :
      Move byte ⟨.arrayValue done :: stack, mode⟩ next
  | closeObject {stack : List Frame} {done : List (GoString × Value)} {mode : Mode} {next : State}
      (may : mode = .endValue ∨ mode = .beginStringOrEmpty) (mark : byte = 0x7D)
      (delivered : deliver (.obj done.reverse) stack = some next) :
      Move byte ⟨.objectKey done :: stack, mode⟩ next

variable {byte : UInt8} {next : State}

private theorem move_beginValue {stack : List Frame} {mode : Mode} (wants : mode.WantsValue)
    (begun : beginValue stack byte = some next) : Move byte ⟨stack, mode⟩ next := by
  unfold beginValue push at begun
  split_ifs at begun with object room array room string minus zero digit true' false' null
  · cases begun
    exact .openObject wants object room
  · cases begun
    exact .openArray wants array room
  · cases begun
    exact @Move.openString byte stack mode false wants string
  · cases begun
    exact .openNumber wants (by rw [NumState.begin, if_pos minus])
  · cases begun
    exact .openNumber wants (by rw [NumState.begin, if_neg minus, if_pos zero])
  · cases begun
    exact .openNumber wants (by rw [NumState.begin, if_neg minus, if_neg zero, if_pos digit])
  · cases begun
    subst true'
    exact .openLiteral wants (by simp [literals]; decide)
  · cases begun
    subst false'
    exact .openLiteral wants (by simp [literals]; decide)
  · cases begun
    subst null
    exact .openLiteral wants (by simp [literals]; decide)

private theorem move_afterValue {state : State} (ended : state.Ended)
    (after : afterValue state byte = some next) : Move byte state next := by
  obtain ⟨stack, mode⟩ := state
  unfold afterValue at after
  split at after
  · next white =>
    cases after
    exact .blank white ended.idle
  · split at after
    · next done below shape held =>
      obtain rfl : stack = .arrayValue done :: below := shape
      obtain rfl : mode = .endValue := held
      split_ifs at after with comma close
      · cases after
        exact .commaArray comma
      · exact .closeArray (.inl rfl) close after
    · next done below shape held =>
      obtain rfl : stack = .objectKey done :: below := shape
      obtain rfl : mode = .endValue := held
      split_ifs at after with comma close
      · cases after
        exact .commaObject comma
      · exact .closeObject (.inl rfl) close after
    · cases after

/-- Outside strings every step is one of the moves. -/
theorem moves {state : State} (outside : ∀ isKey text, state.mode ≠ .inString isKey text)
    (stepped : step state byte = some next) : Move byte state next := by
  obtain ⟨stack, mode⟩ := state
  cases mode with
  | beginValue =>
    simp only [step] at stepped
    split_ifs at stepped with white
    · cases stepped
      exact .blank white trivial
    · exact move_beginValue (.inl rfl) stepped
  | beginValueOrEmpty =>
    simp only [step] at stepped
    split_ifs at stepped with white close
    · cases stepped
      exact .blank white trivial
    · split at stepped
      · exact .closeArray (.inr rfl) close stepped
      · cases stepped
    · exact move_beginValue (.inr rfl) stepped
  | beginString =>
    simp only [step] at stepped
    split_ifs at stepped with white mark
    · cases stepped
      exact .blank white trivial
    · cases stepped
      exact @Move.openString byte stack _ true (.inl rfl) mark
  | beginStringOrEmpty =>
    simp only [step] at stepped
    split_ifs at stepped with white mark close
    · cases stepped
      exact .blank white trivial
    · cases stepped
      exact @Move.openString byte stack _ true (.inr rfl) mark
    · split at stepped
      · exact .closeObject (.inr rfl) close stepped
      · cases stepped
  | endKey key =>
    simp only [step] at stepped
    split_ifs at stepped with white mark
    · cases stepped
      exact .blank white trivial
    · split at stepped
      · cases stepped
        exact .colon mark
      · cases stepped
  | endValue => exact move_afterValue (.inl rfl) stepped
  | endTop value =>
    simp only [step, afterValue] at stepped
    split_ifs at stepped with white
    cases stepped
    exact .blank white trivial
  | inString isKey text => exact absurd rfl (outside isKey text)
  | inNumber number digits =>
    simp only [step] at stepped
    split at stepped
    · next further goes =>
      cases stepped
      exact .digit goes
    · next stops =>
      split_ifs at stepped with complete
      obtain ⟨middle, delivered, after⟩ := Option.bind_eq_some_iff.mp stepped
      exact .endNumber stops complete delivered (move_afterValue (deliver_ended delivered) after)
  | inLiteral rest value =>
    simp only [step] at stepped
    split at stepped
    · split_ifs at stepped with same
      subst same
      exact .endLiteral stepped
    · next tail more =>
      split_ifs at stepped with same
      cases stepped
      subst same
      cases tail with
      | nil => exact (more rfl).elim
      | cons first tail => exact .letter
    · cases stepped

/-- A string begins at a quote, and with nothing in it. -/
theorem Move.opens {state : State} (move : Move byte state next) {isKey : Bool} {text : StrState}
    (inside : next.mode = .inString isKey text) : byte = 0x22 ∧ text = .plain [] := by
  induction move with
  | blank _ idle => exact absurd inside (idle.outside isKey text)
  | openString _ mark =>
    cases inside
    exact ⟨mark, rfl⟩
  | endNumber _ _ _ _ ih => exact ih inside
  | endLiteral delivered | closeArray _ _ delivered | closeObject _ _ delivered =>
    exact absurd inside ((deliver_ended delivered).idle.outside isKey text)
  | _ => cases inside

/-- Inside a string a byte ends it or goes into it. -/
theorem step_string {stack : List Frame} {isKey : Bool} {text : StrState}
    (stepped : step ⟨stack, .inString isKey text⟩ byte = some next) :
    (text.escape = .none ∧ byte = 0x22 ∧ (isKey = true ∧ next = ⟨stack, .endKey text.close⟩ ∨
      isKey = false ∧ deliver (.str text.close) stack = some next)) ∨
    ¬ (text.escape = .none ∧ byte = 0x22) ∧
      ∃ read, text.step byte = some read ∧ next = ⟨stack, .inString isKey read⟩ := by
  simp only [step] at stepped
  split_ifs at stepped with closing
  · refine .inl ⟨closing.1, closing.2, ?_⟩
    unfold endString at stepped
    split_ifs at stepped with asKey
    · cases stepped
      exact .inl ⟨asKey, rfl⟩
    · exact .inr ⟨Bool.eq_false_iff.mpr asKey, stepped⟩
  · obtain ⟨read, reads, rfl⟩ := Option.map_eq_some_iff.mp stepped
    exact .inr ⟨closing, read, reads, rfl⟩

/-! ## Literals -/

/-- What is left of a literal is letters. -/
def Mode.Lettered : Mode → Prop
  | .inLiteral rest _ => ∀ byte ∈ rest, isLowerLetter byte = true
  | _ => True

theorem Mode.Idle.lettered {mode : Mode} (idle : mode.Idle) : mode.Lettered := by
  cases mode with
  | inLiteral => exact idle.elim
  | _ => trivial

/-- The three literals are lower-case letters. -/
theorem letter_of_literal {text : Bytes} {value : Value} (word : (text, value) ∈ literals) :
    ∀ byte ∈ text, isLowerLetter byte = true := by
  have letters : ∀ literal ∈ literals, literal.1.all (decide <| isLowerLetter · = true) = true := by
    decide
  exact forall_mem_of_all (letters _ word)

theorem Move.lettered {state : State} (move : Move byte state next)
    (lettered : state.mode.Lettered) : next.mode.Lettered := by
  induction move with
  | blank _ idle => exact idle.lettered
  | openLiteral _ word =>
    exact fun byte member => letter_of_literal word byte (List.mem_cons_of_mem _ member)
  | endNumber _ _ delivered _ ih => exact ih (deliver_ended delivered).idle.lettered
  | letter => exact fun byte member => lettered byte (List.mem_cons_of_mem _ member)
  | endLiteral delivered | closeArray _ _ delivered | closeObject _ _ delivered =>
    exact (deliver_ended delivered).idle.lettered
  | _ => trivial

/-- A step keeps what is left of a literal in letters. -/
theorem step_lettered {state : State} (lettered : state.mode.Lettered)
    (stepped : step state byte = some next) : next.mode.Lettered := by
  obtain outside | ⟨stack, isKey, text, rfl⟩ := state.outside_or_inside
  · exact (moves outside stepped).lettered lettered
  · obtain ⟨-, -, ⟨-, rfl⟩ | ⟨-, delivered⟩⟩ | ⟨-, read, -, rfl⟩ := step_string stepped
    · trivial
    · exact (deliver_ended delivered).idle.lettered
    · trivial

/-- So does a scan. -/
theorem run_lettered {state last : State} {text : Bytes} (lettered : state.mode.Lettered)
    (ran : run state text = some last) : last.mode.Lettered :=
  run_keeps (fun _ _ _ => step_lettered) lettered ran

end ShadowNet.Go.Json
