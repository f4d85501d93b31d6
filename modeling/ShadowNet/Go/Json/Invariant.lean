import ShadowNet.Go.Json.Moves

/-! # What a scan keeps

A property of values that the constructors preserve holds of everything that a scan puts together, if
it holds of the strings that the scan completes.
-/

namespace ShadowNet.Go.Json

/-- Values are `good` when their parts are, and keys are `named`. -/
structure Closed (good : Value → Prop) (named : GoString → Prop) : Prop where
  null : good .null
  bool : ∀ value, good (.bool value)
  num : ∀ text, isNumber text = true → good (.num text)
  arr : ∀ items, (∀ item ∈ items, good item) → good (.arr items)
  obj : ∀ members, (∀ member ∈ members, named member.1 ∧ good member.2) → good (.obj members)

section

variable (good : Value → Prop) (named : GoString → Prop)

def Frame.Holds : Frame → Prop
  | .arrayValue done => ∀ item ∈ done, good item
  | .objectKey done => ∀ member ∈ done, named member.1 ∧ good member.2
  | .objectValue done key => (∀ member ∈ done, named member.1 ∧ good member.2) ∧ named key

/-- What a mode has read so far; a number's text, newest first, must lead to its state. -/
def Mode.Holds : Mode → Prop
  | .endKey key => named key
  | .endTop value => good value
  | .inNumber number text => ∃ byte body begun, text.reverse = byte :: body ∧
      NumState.begin byte = some begun ∧ body.foldlM NumState.next begun = some number
  | .inLiteral _ value => good value
  | _ => True

structure State.Holds (state : State) : Prop where
  stack : ∀ frame ∈ state.stack, frame.Holds good named
  mode : state.mode.Holds good named

/-- The string that a byte completes, if it does, is good where it stands. -/
def Completes (state : State) (byte : UInt8) : Prop :=
  ∀ isKey text, state.mode = .inString isKey text → text.escape = .none → byte = 0x22 →
    if isKey then named text.close else good (.str text.close)

end

variable {good : Value → Prop} {named : GoString → Prop}

/-- Nothing is held in the beginning. -/
theorem start_holds : start.Holds good named := ⟨by simp [start], trivial⟩

private theorem deliver_holds {value : Value} {stack : List Frame} {next : State} (own : good value)
    (frames : ∀ frame ∈ stack, frame.Holds good named)
    (delivered : deliver value stack = some next) : next.Holds good named := by
  match stack with
  | [] =>
    cases delivered
    exact ⟨by simp, own⟩
  | .arrayValue done :: stack =>
    cases delivered
    obtain ⟨top, rest⟩ := List.forall_mem_cons.mp frames
    exact ⟨List.forall_mem_cons.mpr ⟨List.forall_mem_cons.mpr ⟨own, top⟩, rest⟩, trivial⟩
  | .objectValue done key :: stack =>
    cases delivered
    obtain ⟨top, rest⟩ := List.forall_mem_cons.mp frames
    exact ⟨List.forall_mem_cons.mpr ⟨List.forall_mem_cons.mpr ⟨⟨top.2, own⟩, top.1⟩, rest⟩, trivial⟩
  | .objectKey _ :: _ => cases delivered

variable (closed : Closed good named)
include closed

private theorem arr_holds {done : List Value} {stack : List Frame} {next : State}
    (frames : ∀ frame ∈ .arrayValue done :: stack, frame.Holds good named)
    (delivered : deliver (.arr done.reverse) stack = some next) : next.Holds good named := by
  obtain ⟨top, rest⟩ := List.forall_mem_cons.mp frames
  exact deliver_holds (closed.arr _ fun item member => top item (List.mem_reverse.mp member)) rest
    delivered

private theorem obj_holds {done : List (GoString × Value)} {stack : List Frame} {next : State}
    (frames : ∀ frame ∈ .objectKey done :: stack, frame.Holds good named)
    (delivered : deliver (.obj done.reverse) stack = some next) : next.Holds good named := by
  obtain ⟨top, rest⟩ := List.forall_mem_cons.mp frames
  exact deliver_holds (closed.obj _ fun member inside => top member (List.mem_reverse.mp inside)) rest
    delivered

/-- A move holds nothing that the rules do not allow. -/
theorem Move.holds {byte : UInt8} {state next : State} (move : Move byte state next)
    (holds : state.Holds good named) : next.Holds good named := by
  induction move with
  | blank => exact holds
  | openArray | openObject =>
    exact ⟨List.forall_mem_cons.mpr ⟨List.forall_mem_nil _, holds.stack⟩, trivial⟩
  | openString => exact ⟨holds.stack, trivial⟩
  | openNumber _ begun => exact ⟨holds.stack, byte, [], _, rfl, begun, rfl⟩
  | openLiteral _ word =>
    have known : ∀ literal ∈ literals, good literal.2 :=
      List.forall_mem_cons.mpr ⟨closed.bool true, List.forall_mem_cons.mpr ⟨closed.bool false,
        List.forall_mem_singleton.mpr closed.null⟩⟩
    exact ⟨holds.stack, known _ word⟩
  | digit goes =>
    obtain ⟨first, body, begun, shape, begins, reads⟩ := holds.mode
    refine ⟨holds.stack, first, body ++ [byte], begun, by simp [shape], begins, ?_⟩
    rw [List.foldlM_append, reads]
    simpa using goes
  | endNumber _ complete delivered _ ih =>
    obtain ⟨first, body, begun, shape, begins, reads⟩ := holds.mode
    apply ih
    refine deliver_holds (closed.num _ ?_) holds.stack delivered
    rw [shape, isNumber, begins]
    simp [NumState.accepts, reads, complete]
  | letter => exact ⟨holds.stack, holds.mode⟩
  | endLiteral delivered => exact deliver_holds holds.mode holds.stack delivered
  | colon =>
    obtain ⟨top, rest⟩ := List.forall_mem_cons.mp holds.stack
    exact ⟨List.forall_mem_cons.mpr ⟨⟨top, holds.mode⟩, rest⟩, trivial⟩
  | commaArray | commaObject => exact ⟨holds.stack, trivial⟩
  | closeArray _ _ delivered => exact arr_holds closed holds.stack delivered
  | closeObject _ _ delivered => exact obj_holds closed holds.stack delivered

/-- One byte keeps the property if the string that it completes has it. -/
theorem step_holds {state next : State} {byte : UInt8} (holds : state.Holds good named)
    (completes : Completes good named state byte) (stepped : step state byte = some next) :
    next.Holds good named := by
  obtain outside | ⟨stack, isKey, text, rfl⟩ := state.outside_or_inside
  · exact (moves outside stepped).holds closed holds
  obtain ⟨plain, quote, ends⟩ | ⟨-, read, -, rfl⟩ := step_string stepped
  · have whole := completes isKey text rfl plain quote
    obtain ⟨rfl, rfl⟩ | ⟨rfl, delivered⟩ := ends
    · exact ⟨holds.stack, whole⟩
    · exact deliver_holds whole holds.stack delivered
  · exact ⟨holds.stack, trivial⟩

/-- A scan keeps the property where every string has it. -/
theorem run_holds (strings : ∀ text, named (toValid text) ∧ good (.str (toValid text)))
    {state last : State} {text : Bytes} (holds : state.Holds good named)
    (ran : run state text = some last) : last.Holds good named := by
  induction text generalizing state with
  | nil => cases ran; exact holds
  | cons byte rest ih =>
    obtain ⟨next, stepped, tail⟩ := Option.bind_eq_some_iff.mp ran
    refine ih (step_holds closed holds (fun isKey read _ _ _ => ?_) stepped) tail
    split_ifs
    · exact (strings _).1
    · exact (strings _).2

omit closed in
/-- The value of a text that has been read is good. -/
theorem State.Holds.value {state : State} (holds : state.Holds good named) {value : Value}
    (final : state.value? = some value) : good value := by
  have own := holds.mode
  unfold State.value? at final
  split at final
  · next mode => cases final; rw [mode] at own; exact own
  · cases final

end ShadowNet.Go.Json
