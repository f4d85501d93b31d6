import ShadowNet.Go.Json.Moves
import ShadowNet.Go.Json.Wire

/-! # How deep values are

The scanner refuses to open too many containers. So what it reads is not too deep, and a value that
is too deep is not read back.
-/

namespace ShadowNet.Go.Json

/-! ## Parsed values -/

/-- The values in a frame are at most so deep. -/
def Frame.Within (bound : ℕ) : Frame → Prop
  | .arrayValue done => ∀ item ∈ done, item.depth ≤ bound
  | .objectKey done | .objectValue done _ => ∀ member ∈ done, member.2.depth ≤ bound

/-- The more containers are open, the less deep are the values in them. -/
def StackWithin : List Frame → Prop
  | [] => True
  | frame :: stack => stack.length < maxNestingDepth ∧
      frame.Within (maxNestingDepth - (stack.length + 1)) ∧ StackWithin stack

def Mode.Within : Mode → Prop
  | .endTop value => value.depth ≤ maxNestingDepth
  | .inLiteral _ value => value.depth = 0
  | _ => True

structure State.Within (state : State) : Prop where
  stack : StackWithin state.stack
  mode : state.mode.Within

/-- A value that is shallow enough stays within the limit. -/
theorem deliver_within {value : Value} {stack : List Frame} {next : State}
    (shallow : value.depth ≤ maxNestingDepth - stack.length) (within : StackWithin stack)
    (delivered : deliver value stack = some next) : next.Within := by
  match stack with
  | [] =>
    cases delivered
    exact ⟨trivial, shallow⟩
  | .arrayValue done :: stack =>
    cases delivered
    obtain ⟨room, held, below⟩ := within
    exact ⟨⟨room, List.forall_mem_cons.mpr ⟨shallow, held⟩, below⟩, trivial⟩
  | .objectValue done key :: stack =>
    cases delivered
    obtain ⟨room, held, below⟩ := within
    exact ⟨⟨room, List.forall_mem_cons.mpr ⟨shallow, held⟩, below⟩, trivial⟩
  | .objectKey done :: stack => cases delivered

/-- So does every move. -/
theorem Move.within {byte : UInt8} {state next : State} (move : Move byte state next)
    (within : state.Within) : next.Within := by
  induction move with
  | blank => exact within
  | openArray _ _ room => exact ⟨⟨room, nofun, within.stack⟩, trivial⟩
  | openObject _ _ room => exact ⟨⟨room, nofun, within.stack⟩, trivial⟩
  | openLiteral _ word =>
    have flat : ∀ literal ∈ literals, literal.2.depth = 0 := by decide
    exact ⟨within.stack, flat _ word⟩
  | endNumber _ _ delivered _ ih =>
    exact ih (deliver_within (Nat.zero_le _) within.stack delivered)
  | letter => exact ⟨within.stack, within.mode⟩
  | endLiteral delivered =>
    have flat : _ = 0 := within.mode
    exact deliver_within (flat ▸ Nat.zero_le _) within.stack delivered
  | colon | commaArray | commaObject => exact ⟨within.stack, trivial⟩
  | @closeArray stack done mode next _ _ delivered =>
    obtain ⟨room, held, below⟩ := within.stack
    have items : depthItems done.reverse ≤ maxNestingDepth - (stack.length + 1) :=
      depthItems_le fun item member => held item (List.mem_reverse.mp member)
    exact deliver_within (by rw [Value.depth]; omega) below delivered
  | @closeObject stack done mode next _ _ delivered =>
    obtain ⟨room, held, below⟩ := within.stack
    have members : depthMembers done.reverse ≤ maxNestingDepth - (stack.length + 1) :=
      depthMembers_le fun member inside => held member (List.mem_reverse.mp inside)
    exact deliver_within (by rw [Value.depth]; omega) below delivered
  | _ => exact ⟨within.stack, trivial⟩

/-- The scanner never goes beyond the limit of nesting. -/
theorem step_within {state next : State} {byte : UInt8} (within : state.Within)
    (stepped : step state byte = some next) : next.Within := by
  obtain outside | ⟨stack, isKey, text, rfl⟩ := state.outside_or_inside
  · exact (moves outside stepped).within within
  · obtain ⟨-, -, ⟨-, rfl⟩ | ⟨-, delivered⟩⟩ | ⟨-, read, -, rfl⟩ := step_string stepped
    · exact ⟨within.stack, trivial⟩
    · exact deliver_within (Nat.zero_le _) within.stack delivered
    · exact ⟨within.stack, trivial⟩

/-- What is parsed opens no more containers than the scanner allows. -/
theorem parse_depth {text : Bytes} {value : Value} (parsed : parse text = some value) :
    value.depth ≤ maxNestingDepth := by
  obtain ⟨last, ran, final⟩ := Option.bind_eq_some_iff.mp parsed
  have within : last.Within :=
    run_keeps (fun _ _ _ => step_within) (show start.Within from ⟨trivial, trivial⟩) ran
  have held := within.mode
  unfold State.value? at final
  split at final
  · next mode => cases final; rw [mode] at held; exact held
  · cases final

/-! ## Encoded values -/

/-- At the limit nothing more is opened. -/
theorem push_deep {frame : Frame} {mode : Mode} {stack : List Frame}
    (full : maxNestingDepth ≤ stack.length) : push frame mode stack = none := by
  rw [push, if_neg (by omega)]

mutual
/-- A value that is too deep for the open containers is not read back. -/
theorem run_encode_deep (value : Value) (numeric : value.Numeric) (stack : List Frame)
    (fits : stack.length ≤ maxNestingDepth) (deep : maxNestingDepth < stack.length + value.depth)
    (tail : Bytes) : run ⟨stack, .beginValue⟩ (encode value ++ tail) = none := by
  match value with
  | .null | .bool _ | .num _ | .str _ => exact absurd deep (by simp only [Value.depth]; omega)
  | .arr items =>
    by_cases room : stack.length < maxNestingDepth
    swap
    · have refused : step ⟨stack, .beginValue⟩ 0x5B = none := push_deep (Nat.le_of_not_lt room)
      cases items <;> rw [encode, List.cons_append, run, refused, Option.bind_none]
    simp only [Value.depth] at deep
    match items with
    | [] => exact absurd deep (by simp only [depthItems]; omega)
    | item :: rest =>
      obtain ⟨here, there⟩ := numeric
      rw [encode, List.cons_append, run_open_array stack room, List.append_assoc, run_first here,
        List.append_assoc]
      by_cases first : maxNestingDepth < stack.length + 1 + item.depth
      · exact run_encode_deep item here (.arrayValue [] :: stack) room first _
      have closed : Delimited ([0x5D] ++ tail) := ⟨0x5D, tail, rfl, rfl⟩
      rw [run_encode item here (.arrayValue [] :: stack) (by simp only [List.length_cons]; omega)
        fun _ _ => closed.append_items rest]
      refine run_encodeItems_deep rest there [item.sanitize] stack room ?_ closed
      simp only [depthItems] at deep
      omega
  | .obj members =>
    by_cases room : stack.length < maxNestingDepth
    swap
    · have refused : step ⟨stack, .beginValue⟩ 0x7B = none := push_deep (Nat.le_of_not_lt room)
      cases members <;> rw [encode, List.cons_append, run, refused, Option.bind_none]
    simp only [Value.depth] at deep
    match members with
    | [] => exact absurd deep (by simp only [depthMembers]; omega)
    | (key, value) :: rest =>
      obtain ⟨here, there⟩ := numeric
      rw [encode, List.cons_append, run_open_object stack room, List.append_assoc, List.cons_append,
        List.append_assoc, List.append_assoc, run_key (.inr rfl)]
      by_cases first : maxNestingDepth < stack.length + 1 + value.depth
      · exact run_encode_deep value here (.objectValue [] (toValid key) :: stack) room first _
      have closed : Delimited ([0x7D] ++ tail) := ⟨0x7D, tail, rfl, rfl⟩
      rw [run_encode value here (.objectValue [] (toValid key) :: stack)
        (by simp only [List.length_cons]; omega) fun _ _ => closed.append_members rest]
      refine run_encodeMembers_deep rest there [(toValid key, value.sanitize)] stack room ?_ closed
      simp only [depthMembers] at deep
      omega

/-- Items that are too deep are refused. -/
theorem run_encodeItems_deep (items : List Value) (numeric : NumericItems items) (done : List Value)
    (stack : List Frame) (room : stack.length < maxNestingDepth)
    (deep : maxNestingDepth < stack.length + 1 + depthItems items) {tail : Bytes}
    (delimited : Delimited tail) :
    run ⟨.arrayValue done :: stack, .endValue⟩ (encodeItems items ++ tail) = none := by
  match items with
  | [] => exact absurd deep (by simp only [depthItems]; omega)
  | item :: rest =>
    obtain ⟨here, there⟩ := numeric
    rw [encodeItems, List.cons_append, List.append_assoc]
    change run ⟨.arrayValue done :: stack, .beginValue⟩ _ = _
    by_cases first : maxNestingDepth < stack.length + 1 + item.depth
    · exact run_encode_deep item here (.arrayValue done :: stack) room first _
    rw [run_encode item here (.arrayValue done :: stack) (by simp only [List.length_cons]; omega)
      fun _ _ => delimited.append_items rest]
    refine run_encodeItems_deep rest there (item.sanitize :: done) stack room ?_ delimited
    simp only [depthItems] at deep
    omega

/-- So are members. -/
theorem run_encodeMembers_deep (members : List (GoString × Value)) (numeric : NumericMembers members)
    (done : List (GoString × Value)) (stack : List Frame) (room : stack.length < maxNestingDepth)
    (deep : maxNestingDepth < stack.length + 1 + depthMembers members) {tail : Bytes}
    (delimited : Delimited tail) :
    run ⟨.objectKey done :: stack, .endValue⟩ (encodeMembers members ++ tail) = none := by
  match members with
  | [] => exact absurd deep (by simp only [depthMembers]; omega)
  | (key, value) :: rest =>
    obtain ⟨here, there⟩ := numeric
    rw [encodeMembers, List.cons_append, List.append_assoc, List.cons_append, List.append_assoc]
    change run ⟨.objectKey done :: stack, .beginString⟩ _ = _
    rw [run_key (.inl rfl)]
    by_cases first : maxNestingDepth < stack.length + 1 + value.depth
    · exact run_encode_deep value here (.objectValue done (toValid key) :: stack) room first _
    rw [run_encode value here (.objectValue done (toValid key) :: stack)
      (by simp only [List.length_cons]; omega) fun _ _ => delimited.append_members rest]
    refine run_encodeMembers_deep rest there ((toValid key, value.sanitize) :: done) stack room ?_
      delimited
    simp only [depthMembers] at deep
    omega
end

/-- What is written is read back, or it is no JSON text for the scanner at all. -/
theorem parse_encode_of_valid {value : Value} (numeric : value.Numeric)
    (whole : valid (encode value) = true) : parse (encode value) = some value.sanitize := by
  refine parse_encode numeric (Nat.le_of_not_lt fun deep => ?_)
  have refused := run_encode_deep value numeric [] (Nat.zero_le _) (by simpa using deep) [0x20]
  rw [valid, parse, start, refused] at whole
  cases whole

end ShadowNet.Go.Json
