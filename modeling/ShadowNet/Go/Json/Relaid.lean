import ShadowNet.Go.Json.Indent
import ShadowNet.Go.Json.Moves

/-! # What is laid out reads the same

The scanner goes over a text and over its layout side by side. In the layout the space that the text
has between tokens is missing, and there is other space; so the two states are the same, but for a
number that space has ended in the text only.
-/

namespace ShadowNet.Go.Json

/-! ## Marks -/

/-- The bytes that stand between tokens or begin a string. -/
def marks : Bytes := [0x20, 0x09, 0x0D, 0x0A, 0x22, 0x2C, 0x3A, 0x5B, 0x5D, 0x7B, 0x7D]

theorem mark_of_white {byte : UInt8} (white : isWhite byte = true) : byte ∈ marks := by
  simp only [isWhite, Bool.or_eq_true, decide_eq_true_eq] at white
  simp only [marks, List.mem_cons]
  tauto

theorem next_mark (number : NumState) {byte : UInt8} (mark : byte ∈ marks) :
    number.next byte = none := by
  have each : ∀ number ∈ [NumState.neg, .zero, .int, .dot, .frac, .exp, .expSign, .expInt],
      marks.all (decide <| number.next · = none) = true := by decide
  exact forall_mem_of_all (each number (by cases number <;> decide)) byte mark

theorem begin_mark {byte : UInt8} (mark : byte ∈ marks) : NumState.begin byte = none := by
  have each : ∀ byte ∈ marks, NumState.begin byte = none := forall_mem_of_all (by decide)
  exact each byte mark

theorem letter_mark {byte : UInt8} (mark : byte ∈ marks) : isLowerLetter byte = false := by
  have each : ∀ byte ∈ marks, isLowerLetter byte = false :=
    forall_mem_of_all (by decide)
  exact each byte mark

/-! ## Settled states -/

/-- The second state is the first, once its number is finished. -/
def Settles (state base : State) : Prop :=
  base = state ∨ ∃ number digits, state.mode = .inNumber number digits ∧
    number.complete = true ∧ deliver (.num digits.reverse) state.stack = some base

/-- To settle is transitive. -/
theorem Settles.trans {shown state base : State} (shows : Settles shown state)
    (settles : Settles state base) : Settles shown base := by
  obtain rfl | ⟨number, digits, held, complete, delivered⟩ := shows
  · exact settles
  · obtain rfl | ⟨number', digits', held', -, -⟩ := settles
    · exact .inr ⟨number, digits, held, complete, delivered⟩
    · have idle := (deliver_ended delivered).idle
      rw [held'] at idle
      exact idle.elim

theorem Settles.eq {shown state : State} (shows : Settles shown state) (going : ¬ state.Ended) :
    shown = state := by
  obtain rfl | ⟨number, digits, held, complete, delivered⟩ := shows
  · rfl
  · exact absurd (deliver_ended delivered) going

/-- A finished number is no matter to a mark. -/
theorem Settles.step {state base : State} (settles : Settles state base) {byte : UInt8}
    (mark : byte ∈ marks) : Json.step state byte = Json.step base byte := by
  obtain rfl | ⟨number, digits, held, complete, delivered⟩ := settles
  · rfl
  · obtain ⟨stack, mode⟩ := state
    obtain rfl : mode = .inNumber number digits := held
    have after : Json.step base byte = afterValue base byte := by
      obtain held | ⟨value, rfl⟩ := deliver_ended delivered
      · rw [Json.step, held]
      · rfl
    rw [after]
    simp only [Json.step, next_mark number mark, complete, if_true]
    rw [delivered, Option.bind_some]

/-- White space between tokens changes nothing. -/
theorem step_idle {state : State} (idle : state.mode.Idle) {byte : UInt8}
    (white : isWhite byte = true) : step state byte = some state := by
  obtain ⟨stack, mode⟩ := state
  cases mode with
  | inString | inNumber | inLiteral => exact idle.elim
  | endValue | endTop => simp only [step, afterValue, white, if_true]
  | _ => simp only [step, white, if_true]

/-- Space finishes a number and does nothing else. -/
theorem Settles.run_white {state base : State} (settles : Settles state base)
    (idle : base.mode.Idle) {bytes : Bytes} (filled : bytes ≠ [])
    (white : ∀ byte ∈ bytes, isWhite byte = true) : run state bytes = some base := by
  have stays {bytes : Bytes} (white : ∀ byte ∈ bytes, isWhite byte = true) :
      run base bytes = some base := by
    induction bytes with
    | nil => rfl
    | cons byte rest ih =>
      obtain ⟨first, others⟩ := List.forall_mem_cons.mp white
      rw [run, step_idle idle first, Option.bind_some, ih others]
  cases bytes with
  | nil => exact absurd rfl filled
  | cons byte rest =>
    obtain ⟨first, others⟩ := List.forall_mem_cons.mp white
    rw [run, settles.step (mark_of_white first), step_idle idle first, Option.bind_some, stays others]

theorem Mode.WantsValue.idle {mode : Mode} (wants : mode.WantsValue) : mode.Idle := by
  obtain rfl | rfl := wants <;> trivial

theorem Mode.WantsKey.idle {mode : Mode} (wants : mode.WantsKey) : mode.Idle := by
  obtain rfl | rfl := wants <;> trivial

/-- At a mark the state has settled. -/
theorem Move.settles {byte : UInt8} {state next : State} (move : Move byte state next)
    (lettered : state.mode.Lettered) (mark : byte ∈ marks) :
    ∃ base, Settles state base ∧ base.mode.Idle ∧ Move byte base next := by
  have unlettered (letter : isLowerLetter byte = true) : False := by
    rw [letter_mark mark] at letter
    cases letter
  cases move with
  | blank white idle => exact ⟨_, .inl rfl, idle, .blank white idle⟩
  | openArray wants bracket room => exact ⟨_, .inl rfl, wants.idle, .openArray wants bracket room⟩
  | openObject wants bracket room => exact ⟨_, .inl rfl, wants.idle, .openObject wants bracket room⟩
  | @openString stack mode isKey wants quote =>
    refine ⟨_, .inl rfl, ?_, .openString wants quote⟩
    cases isKey with
    | true => exact Mode.WantsKey.idle wants
    | false => exact Mode.WantsValue.idle wants
  | openNumber _ begun =>
    rw [begin_mark mark] at begun
    cases begun
  | openLiteral _ word =>
    exact (unlettered (letter_of_literal word byte (List.mem_cons_self ..))).elim
  | digit goes =>
    rw [next_mark _ mark] at goes
    cases goes
  | endNumber stops complete delivered after =>
    exact ⟨_, .inr ⟨_, _, rfl, complete, delivered⟩, (deliver_ended delivered).idle, after⟩
  | letter => exact (unlettered (lettered _ (List.mem_cons_self ..))).elim
  | endLiteral => exact (unlettered (lettered _ (List.mem_cons_self ..))).elim
  | colon mark => exact ⟨_, .inl rfl, trivial, .colon mark⟩
  | commaArray mark => exact ⟨_, .inl rfl, trivial, .commaArray mark⟩
  | commaObject mark => exact ⟨_, .inl rfl, trivial, .commaObject mark⟩
  | closeArray may mark delivered =>
    refine ⟨_, .inl rfl, ?_, .closeArray may mark delivered⟩
    obtain rfl | rfl := may <;> trivial
  | closeObject may mark delivered =>
    refine ⟨_, .inl rfl, ?_, .closeObject may mark delivered⟩
    obtain rfl | rfl := may <;> trivial

/-! ## What a layout knows of the mode -/

def Mode.quoted : Mode → Bool
  | .inString _ _ => true
  | _ => false

def Mode.escaped : Mode → Bool
  | .inString _ text => text.escape = .backslash
  | _ => false

/-- A bracket has just been opened. -/
def Mode.opened : Mode → Bool
  | .beginValueOrEmpty | .beginStringOrEmpty => true
  | _ => false

/-- No string and no bracket has just begun. -/
def Mode.Plain (mode : Mode) : Prop :=
  mode.quoted = false ∧ mode.escaped = false ∧ mode.opened = false

theorem State.Ended.plain {state : State} (ended : state.Ended) : state.mode.Plain := by
  obtain held | ⟨value, rfl⟩ := ended
  · rw [held]
    exact ⟨rfl, rfl, rfl⟩
  · exact ⟨rfl, rfl, rfl⟩

/-- The marks by what comes after them. -/
theorem Move.at_mark {byte : UInt8} {state next : State} (move : Move byte state next)
    (idle : state.mode.Idle) (mark : byte ∈ marks) :
    isWhite byte = true ∧ next = state ∨
      byte = 0x22 ∧ (∃ isKey, next.mode = .inString isKey (.plain [])) ∨
      (byte = 0x7B ∨ byte = 0x5B) ∧ (next.mode = .beginValueOrEmpty ∨ next.mode = .beginStringOrEmpty) ∨
      (byte = 0x2C ∨ byte = 0x3A) ∧ (next.mode = .beginValue ∨ next.mode = .beginString) ∨
      (byte = 0x7D ∨ byte = 0x5D) ∧ next.Ended := by
  cases move with
  | blank white => exact .inl ⟨white, rfl⟩
  | openArray _ bracket => exact .inr (.inr (.inl ⟨.inr bracket, .inl rfl⟩))
  | openObject _ bracket => exact .inr (.inr (.inl ⟨.inl bracket, .inr rfl⟩))
  | openString _ quote => exact .inr (.inl ⟨quote, _, rfl⟩)
  | openNumber _ begun =>
    rw [begin_mark mark] at begun
    cases begun
  | openLiteral _ word =>
    have letter := letter_of_literal word byte (List.mem_cons_self ..)
    rw [letter_mark mark] at letter
    cases letter
  | digit | endNumber | letter | endLiteral => exact idle.elim
  | colon colon => exact .inr (.inr (.inr (.inl ⟨.inr colon, .inl rfl⟩)))
  | commaArray comma => exact .inr (.inr (.inr (.inl ⟨.inl comma, .inl rfl⟩)))
  | commaObject comma => exact .inr (.inr (.inr (.inl ⟨.inl comma, .inr rfl⟩)))
  | closeArray _ bracket delivered =>
    exact .inr (.inr (.inr (.inr ⟨.inr bracket, deliver_ended delivered⟩)))
  | closeObject _ bracket delivered =>
    exact .inr (.inr (.inr (.inr ⟨.inl bracket, deliver_ended delivered⟩)))

/-- Any other byte is part of a number or a literal. -/
theorem Move.off_mark {byte : UInt8} {state next : State} (move : Move byte state next)
    (other : byte ∉ marks) : ¬ state.Ended ∧ next.mode.Plain := by
  have unmarked (mark : byte ∈ marks) : False := other mark
  have going {stack : List Frame} {mode : Mode} (wants : mode.WantsValue) :
      ¬ State.Ended ⟨stack, mode⟩ := by
    rintro (held | ⟨value, same⟩) <;> obtain rfl | rfl := wants
    · cases held
    · cases held
    · cases same
    · cases same
  induction move with
  | blank white => exact (other (mark_of_white white)).elim
  | openArray _ mark | openObject _ mark | openString _ mark | colon mark | commaArray mark
  | commaObject mark | closeArray _ mark | closeObject _ mark =>
    subst mark
    exact (unmarked (by decide)).elim
  | openNumber wants => exact ⟨going wants, rfl, rfl, rfl⟩
  | openLiteral wants => exact ⟨going wants, rfl, rfl, rfl⟩
  | digit => exact ⟨fun ended => ended.idle, rfl, rfl, rfl⟩
  | endNumber _ _ delivered _ ih => exact (ih.1 (deliver_ended delivered)).elim
  | letter => exact ⟨fun ended => ended.idle, rfl, rfl, rfl⟩
  | endLiteral delivered =>
    exact ⟨fun ended => ended.idle, (deliver_ended delivered).plain⟩

/-! ## Side by side -/

/-- The layout so far, the state on the text and the state on what has been laid out. -/
structure Related (layout : Layout) (state shown : State) : Prop where
  shows : Settles shown state
  ran : run start layout.out.reverse = some shown
  lettered : state.mode.Lettered
  quoted : layout.inString = state.mode.quoted
  escaped : layout.escaped = state.mode.escaped
  opened : layout.opened = state.mode.opened

/-- Bytes that are put out are scanned behind the others. -/
theorem run_put (layout : Layout) (bytes : Bytes) :
    run start (layout.put bytes).out.reverse =
      (run start layout.out.reverse).bind fun shown => run shown bytes := by
  rw [Layout.put, List.reverse_append, List.reverse_reverse, run_append]

section

variable {indent : Bytes} (blank : ∀ byte ∈ indent, isWhite byte = true) {layout : Layout}
  {state shown next : State} {byte : UInt8}

include blank in
theorem newline_white (depth : ℕ) :
    ∀ byte ∈ 0x0A :: (List.replicate depth indent).flatten, isWhite byte = true := by
  refine List.forall_mem_cons.mpr ⟨rfl, fun byte member => ?_⟩
  obtain ⟨copy, copied, inside⟩ := List.mem_flatten.mp member
  rw [List.eq_of_mem_replicate copied] at inside
  exact blank byte inside

/-- A backslash is one that stands behind none. -/
theorem StrState.step_backslash {text read : StrState} (reads : text.step byte = some read) :
    read.escape = .backslash ↔ text.escape ≠ .backslash ∧ byte = 0x5C := by
  obtain ⟨out, high, escape⟩ := text
  cases escape with
  | none =>
    simp only [StrState.step] at reads
    split_ifs at reads with mark
    · cases reads
      exact ⟨fun _ => ⟨by simp, mark⟩, fun _ => rfl⟩
    · cases reads
      constructor
      · intro held
        cases held
      · intro both
        exact absurd both.2 mark
  | backslash =>
    simp only [StrState.step] at reads
    refine ⟨fun held => ?_, fun both => absurd rfl both.1⟩
    split_ifs at reads
    · cases reads
      cases held
    · obtain ⟨plain, -, rfl⟩ := Option.map_eq_some_iff.mp reads
      cases held
  | hex count value =>
    obtain ⟨digit, hex, rfl⟩ := Option.map_eq_some_iff.mp reads
    constructor
    · intro held
      split_ifs at held
      rw [unit_escape] at held
      cases held
    · rintro ⟨-, rfl⟩
      cases hex

/-- Inside a string the layout copies. -/
theorem Related.inside (related : Related layout state shown) {isKey : Bool} {text : StrState}
    (held : state.mode = .inString isKey text) (stepped : step state byte = some next) :
    Related (layout.step indent byte) next next := by
  obtain ⟨stack, mode⟩ := state
  obtain rfl : mode = .inString isKey text := held
  obtain rfl := related.shows.eq fun ended => ended.idle
  have quoted : layout.inString = true := related.quoted
  have escaped : layout.escaped = decide (text.escape = .backslash) := related.escaped
  have opened : layout.opened = false := related.opened
  have ran : run start (layout.step indent byte).out.reverse = some next := by
    rw [Layout.step, if_pos quoted, run_put]
    change (run start layout.out.reverse).bind _ = _
    rw [related.ran, Option.bind_some, run, stepped]
    rfl
  obtain ⟨plain, rfl, closes⟩ | ⟨goes, read, reads, rfl⟩ := step_string stepped
  · have outside : next.mode.Plain := by
      obtain ⟨-, rfl⟩ | ⟨-, delivered⟩ := closes
      · exact ⟨rfl, rfl, rfl⟩
      · exact (deliver_ended delivered).plain
    refine ⟨.inl rfl, ran, step_lettered related.lettered stepped, ?_, ?_, ?_⟩
    · rw [Layout.step, if_pos quoted, outside.1]
      change (layout.escaped || _) = false
      rw [escaped, plain]
      decide
    · rw [Layout.step, if_pos quoted, outside.2.1]
      exact Bool.and_false _
    · rw [Layout.step, if_pos quoted, outside.2.2]
      exact opened
  · refine ⟨.inl rfl, ran, step_lettered related.lettered stepped, ?_, ?_, ?_⟩
    · rw [Layout.step, if_pos quoted]
      change (layout.escaped || decide (byte ≠ 0x22)) = true
      rw [escaped, Bool.or_eq_true, decide_eq_true_eq, decide_eq_true_eq]
      by_contra quotes
      simp only [not_or, not_not] at quotes
      obtain ⟨out, high, escape⟩ := text
      cases escape with
      | none => exact goes ⟨rfl, quotes.2⟩
      | backslash => exact quotes.1 rfl
      | hex count value =>
        rw [quotes.2] at reads
        cases reads
    · rw [Layout.step, if_pos quoted]
      change (!layout.escaped && decide (byte = 0x5C)) = decide (read.escape = .backslash)
      rw [escaped, ← decide_not, ← Bool.decide_and]
      exact decide_eq_decide.mpr (StrState.step_backslash reads).symm
    · rw [Layout.step, if_pos quoted]
      exact opened

/-- A finished number shows as little as the end of a value. -/
theorem Settles.flags {base : State} (settles : Settles state base) :
    state.mode.quoted = base.mode.quoted ∧ state.mode.escaped = base.mode.escaped ∧
      state.mode.opened = base.mode.opened := by
  obtain rfl | ⟨number, digits, held, -, delivered⟩ := settles
  · exact ⟨rfl, rfl, rfl⟩
  · obtain ⟨quoted, escaped, opened⟩ := (deliver_ended delivered).plain
    rw [held, quoted, escaped, opened]
    exact ⟨rfl, rfl, rfl⟩

theorem enter_fields (indent : Bytes) (layout : Layout) : (layout.enter indent).opened = false ∧
    (layout.enter indent).inString = layout.inString ∧
      (layout.enter indent).escaped = layout.escaped := by
  unfold Layout.enter
  split_ifs with opened
  · exact ⟨rfl, rfl, rfl⟩
  · exact ⟨Bool.eq_false_iff.mpr opened, rfl, rfl⟩

theorem close_fields (indent : Bytes) (layout : Layout) : (layout.close indent).opened = false ∧
    (layout.close indent).inString = layout.inString ∧
      (layout.close indent).escaped = layout.escaped := by
  unfold Layout.close
  split_ifs with opened
  · exact ⟨rfl, rfl, rfl⟩
  · exact ⟨Bool.eq_false_iff.mpr opened, rfl, rfl⟩

include blank in
/-- The line break behind a bracket is no matter to what comes after it. -/
theorem run_enter {base : State} (ran : run start layout.out.reverse = some shown)
    (settles : Settles shown base) (idle : layout.opened = true → base.mode.Idle) :
    ∃ entered, run start (layout.enter indent).out.reverse = some entered ∧ Settles entered base := by
  unfold Layout.enter
  split_ifs with opened
  · refine ⟨base, ?_, .inl rfl⟩
    rw [Layout.newline, run_put]
    change (run start layout.out.reverse).bind _ = _
    rw [ran, Option.bind_some]
    exact settles.run_white (idle opened) (List.cons_ne_nil _ _) (newline_white blank _)
  · exact ⟨shown, ran, settles⟩

include blank in
/-- Neither is that in front of one. -/
theorem run_close {base : State} (ran : run start layout.out.reverse = some shown)
    (settles : Settles shown base) (idle : base.mode.Idle) :
    ∃ closing, run start (layout.close indent).out.reverse = some closing ∧ Settles closing base := by
  unfold Layout.close
  split_ifs with opened
  · exact ⟨shown, ran, settles⟩
  · refine ⟨base, ?_, .inl rfl⟩
    rw [Layout.newline, run_put]
    change (run start layout.out.reverse).bind _ = _
    rw [ran, Option.bind_some]
    exact settles.run_white idle (List.cons_ne_nil _ _) (newline_white blank _)

include blank in
/-- Outside strings the layout leaves space out and puts its own. -/
theorem Related.outside (related : Related layout state shown)
    (outside : ∀ isKey text, state.mode ≠ .inString isKey text)
    (stepped : step state byte = some next) :
    ∃ shown, Related (layout.step indent byte) next shown := by
  have unquoted : layout.inString = false := by
    rw [related.quoted]
    cases held : state.mode with
    | inString isKey text => exact absurd held (outside isKey text)
    | _ => rfl
  have unescaped : layout.escaped = false := by
    rw [related.escaped]
    cases held : state.mode with
    | inString isKey text => exact absurd held (outside isKey text)
    | _ => rfl
  have lettered := step_lettered related.lettered stepped
  have move := moves outside stepped
  by_cases mark : byte ∈ marks
  · obtain ⟨base, settles, idle, moved⟩ := move.settles related.lettered mark
    have shows := related.shows.trans settles
    have reads : step base byte = some next := by rw [← settles.step mark, stepped]
    have flags := settles.flags
    obtain ⟨closing, ranClose, showsClose⟩ := run_close blank related.ran shows idle
    obtain ⟨entered, ranEnter, showsEnter⟩ := run_enter blank related.ran shows fun _ => idle
    obtain ⟨openedClose, quotedClose, escapedClose⟩ := close_fields indent layout
    obtain ⟨openedEnter, quotedEnter, escapedEnter⟩ := enter_fields indent layout
    -- What is put behind the line break is read from the settled state.
    have put {before : Layout} {seen : State} (ran : run start before.out.reverse = some seen)
        (shows : Settles seen base) : run start (before.put [byte]).out.reverse = some next := by
      rw [run_put, ran, Option.bind_some, run, shows.step mark, reads]
      rfl
    obtain ⟨white, rfl⟩ | ⟨rfl, isKey, held⟩ | ⟨bracket, held⟩ | ⟨separator, held⟩ |
      ⟨bracket, ended⟩ := moved.at_mark idle mark
    · rw [Layout.step, unquoted, if_neg (by decide), if_pos white]
      split_ifs
      · exact ⟨next, .inl rfl, put related.ran shows, lettered, related.quoted.trans flags.1,
          related.escaped.trans flags.2.1, related.opened.trans flags.2.2⟩
      · exact ⟨shown, shows, related.ran, lettered, related.quoted.trans flags.1,
          related.escaped.trans flags.2.1, related.opened.trans flags.2.2⟩
    · rw [Layout.step, unquoted, if_neg (by decide), if_neg (by decide), if_neg (by decide)]
      dsimp only
      rw [if_neg (by decide), if_neg (by decide), if_neg (by decide)]
      refine ⟨next, .inl rfl, put ranEnter showsEnter, lettered, ?_, ?_, ?_⟩
      · rw [held]
        rfl
      · rw [held]
        exact escapedEnter.trans unescaped
      · rw [held]
        exact openedEnter
    · have solid : isWhite byte = false ∧ ¬ (byte = 0x7D ∨ byte = 0x5D) := by
        obtain rfl | rfl := bracket <;> decide
      rw [Layout.step, unquoted, if_neg (by decide), if_neg (by simp [solid.1]), if_neg solid.2]
      dsimp only
      rw [if_pos bracket]
      refine ⟨next, .inl rfl, put ranEnter showsEnter, lettered, ?_, ?_, ?_⟩
      · apply (quotedEnter.trans unquoted).trans
        obtain held | held := held <;> rw [held] <;> rfl
      · apply (escapedEnter.trans unescaped).trans
        obtain held | held := held <;> rw [held] <;> rfl
      · obtain held | held := held <;> rw [held] <;> rfl
    · have plain : next.mode.Plain ∧ next.mode.Idle := by
        obtain held | held := held <;> rw [held] <;> exact ⟨⟨rfl, rfl, rfl⟩, trivial⟩
      obtain ⟨⟨quoted, escaped, opened⟩, rests⟩ := plain
      have stays {bytes : Bytes} (filled : bytes ≠ []) (white : ∀ byte ∈ bytes, isWhite byte = true) :
          run next bytes = some next := Settles.run_white (.inl rfl) rests filled white
      obtain rfl | rfl := separator
      · rw [Layout.step, unquoted, if_neg (by decide), if_neg (by decide), if_neg (by decide)]
        dsimp only
        rw [if_neg (by decide), if_pos rfl]
        refine ⟨next, .inl rfl, ?_, lettered, (quotedEnter.trans unquoted).trans quoted.symm,
          (escapedEnter.trans unescaped).trans escaped.symm, openedEnter.trans opened.symm⟩
        rw [Layout.newline, run_put, put ranEnter showsEnter, Option.bind_some]
        exact stays (List.cons_ne_nil _ _) (newline_white blank _)
      · rw [Layout.step, unquoted, if_neg (by decide), if_neg (by decide), if_neg (by decide)]
        dsimp only
        rw [if_neg (by decide), if_neg (by decide), if_pos rfl]
        refine ⟨next, .inl rfl, ?_, lettered, (quotedEnter.trans unquoted).trans quoted.symm,
          (escapedEnter.trans unescaped).trans escaped.symm, openedEnter.trans opened.symm⟩
        rw [run_put, ranEnter, Option.bind_some, run, showsEnter.step mark, reads]
        exact stays (List.cons_ne_nil _ _) (forall_mem_of_all (by decide))
    · rw [Layout.step, unquoted, if_neg (by decide)]
      have solid : isWhite byte = false := by obtain rfl | rfl := bracket <;> rfl
      rw [if_neg (by simp [solid]), if_pos bracket]
      obtain ⟨quoted, escaped, opened⟩ := ended.plain
      exact ⟨next, .inl rfl, put ranClose showsClose, lettered, (quotedClose.trans unquoted).trans quoted.symm,
        (escapedClose.trans unescaped).trans escaped.symm, openedClose.trans opened.symm⟩
  · obtain ⟨going, quoted, escaped, opened⟩ := move.off_mark mark
    obtain rfl := related.shows.eq going
    have idle (entering : layout.opened = true) : shown.mode.Idle := by
      rw [related.opened] at entering
      cases held : shown.mode with
      | beginValueOrEmpty | beginStringOrEmpty => trivial
      | _ => rw [held] at entering; cases entering
    obtain ⟨entered, ranEnter, showsEnter⟩ := run_enter blank related.ran (.inl rfl) idle
    obtain rfl := showsEnter.eq going
    obtain ⟨openedEnter, quotedEnter, escapedEnter⟩ := enter_fields indent layout
    have other {value : UInt8} (listed : value ∈ marks) : byte ≠ value := fun same => mark (same ▸ listed)
    have solid : ¬ isWhite byte = true := fun white => mark (mark_of_white white)
    have bracket : ¬ (byte = 0x7B ∨ byte = 0x5B) := by
      rintro (same | same)
      · exact other (by decide) same
      · exact other (by decide) same
    have bracket' : ¬ (byte = 0x7D ∨ byte = 0x5D) := by
      rintro (same | same)
      · exact other (by decide) same
      · exact other (by decide) same
    rw [Layout.step, unquoted, if_neg (by decide), if_neg solid, if_neg bracket']
    dsimp only
    rw [if_neg bracket, if_neg (other (by decide)), if_neg (other (by decide))]
    refine ⟨next, .inl rfl, ?_, lettered, ?_, (escapedEnter.trans unescaped).trans escaped.symm,
      openedEnter.trans opened.symm⟩
    · rw [run_put]
      change (run start (layout.enter indent).out.reverse).bind _ = _
      rw [ranEnter, Option.bind_some, run, stepped]
      rfl
    · rw [quoted]
      exact decide_eq_false (other (by decide))

include blank in
/-- A scan keeps the layout related to the text that is laid out. -/
theorem Related.run {text : Bytes} {last : State} (related : Related layout state shown)
    (ran : Json.run state text = some last) :
    ∃ shown, Related (text.foldl (Layout.step indent) layout) last shown := by
  induction text generalizing layout state shown with
  | nil =>
    cases ran
    exact ⟨shown, related⟩
  | cons byte rest ih =>
    obtain ⟨next, stepped, tail⟩ := Option.bind_eq_some_iff.mp ran
    obtain outside | ⟨stack, isKey, text, rfl⟩ := state.outside_or_inside
    · obtain ⟨seen, related⟩ := related.outside blank outside stepped
      exact ih related tail
    · exact ih (related.inside rfl stepped) tail

end

/-- Only valid text is laid out. -/
theorem valid_of_layOut {indent text pretty : Bytes} (laid : layOut indent text = some pretty) :
    valid text = true := by
  unfold layOut at laid
  split_ifs at laid with whole
  exact whole

/-- What `json.Indent` writes is read as what it was given. -/
theorem parse_layOut {indent text pretty : Bytes} (blank : ∀ byte ∈ indent, isWhite byte = true)
    (laid : layOut indent text = some pretty) : parse pretty = parse text := by
  unfold layOut at laid
  split_ifs at laid with whole
  cases laid
  obtain ⟨value, parsed⟩ := Option.isSome_iff_exists.mp whole
  obtain ⟨last, ran, final⟩ := Option.bind_eq_some_iff.mp parsed
  rw [run_append] at ran
  obtain ⟨ended, ran, closes⟩ := Option.bind_eq_some_iff.mp ran
  have begun : Related {} start start := ⟨.inl rfl, rfl, trivial, rfl, rfl, rfl⟩
  obtain ⟨shown, related⟩ := begun.run blank ran
  have blanks : (0x20 : UInt8) ∈ marks := by decide
  rw [parsed, parse, run_append, related.ran, Option.bind_some, Json.run, related.shows.step blanks]
  change (Json.run ended [0x20]).bind State.value? = _
  rw [closes]
  exact final

end ShadowNet.Go.Json
