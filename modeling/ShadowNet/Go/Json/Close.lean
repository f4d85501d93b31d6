import ShadowNet.Go.Json.Moves

/-! # Texts that end in a brace

A text whose last byte closes an object is whole there: nothing but space may be put behind it.
-/

namespace ShadowNet.Go.Json

/-- Outside strings a closing brace ends a value. -/
theorem Move.brace {byte : UInt8} {state next : State} (move : Move byte state next)
    (lettered : state.mode.Lettered) (mark : byte = 0x7D) : next.Ended := by
  subst mark
  induction move with
  | blank white => exact absurd white (by decide)
  | openArray _ mark | openString _ mark | colon mark | commaArray mark | commaObject mark
  | closeArray _ mark => exact absurd mark (by decide)
  | openObject _ mark => exact absurd mark (by decide)
  | openNumber _ begun => cases begun
  | @openLiteral stack mode rest value _ word =>
    have marks : ∀ literal ∈ literals, literal.1.head? ≠ some 0x7D := by decide
    exact absurd rfl (marks _ word)
  | @digit stack number next digits goes => cases number <;> cases goes
  | endNumber _ _ delivered _ ih => exact ih (deliver_ended delivered).idle.lettered
  | letter => exact absurd (lettered _ (List.mem_cons_self ..)) (by decide)
  | endLiteral => exact absurd (lettered _ (List.mem_cons_self ..)) (by decide)
  | closeObject _ _ delivered => exact deliver_ended delivered

/-- Behind a value that is complete there is only white space. -/
theorem run_endTop_white {value : Value} {text : Bytes} {last : State}
    (ran : run ⟨[], .endTop value⟩ text = some last) : ∀ byte ∈ text, isWhite byte = true := by
  induction text with
  | nil => simp
  | cons byte rest ih =>
    obtain ⟨next, stepped, tail⟩ := Option.bind_eq_some_iff.mp ran
    have stays : step ⟨[], .endTop value⟩ byte = afterValue ⟨[], .endTop value⟩ byte := rfl
    rw [stays, afterValue] at stepped
    split_ifs at stepped with white
    cases stepped
    exact List.forall_mem_cons.mpr ⟨white, ih tail⟩

/-- If a text parses that ends in a brace, nothing but space goes on from there. -/
theorem white_of_parse_append {text rest : Bytes} {value : Value}
    (closed : parse (text ++ [0x7D]) = some value) (whole : valid (text ++ 0x7D :: rest) = true) :
    ∀ byte ∈ rest, isWhite byte = true := by
  obtain ⟨last, ran, final⟩ := Option.bind_eq_some_iff.mp closed
  rw [List.append_assoc, run_append] at ran
  obtain ⟨before, front, ran⟩ := Option.bind_eq_some_iff.mp ran
  obtain ⟨after, brace, ran⟩ := Option.bind_eq_some_iff.mp ran
  obtain ⟨next, blank, rfl⟩ : ∃ next, step after 0x20 = some next ∧ next = last := by
    obtain ⟨next, blank, ends⟩ := Option.bind_eq_some_iff.mp ran
    exact ⟨next, blank, Option.some.inj ends⟩
  obtain outside | ⟨stack, isKey, text, rfl⟩ := before.outside_or_inside
  swap
  · -- a string goes on behind the blank
    obtain ⟨-, quote, -⟩ | ⟨-, read, -, rfl⟩ := step_string brace
    · cases quote
    · obtain ⟨-, quote, -⟩ | ⟨-, more, -, rfl⟩ := step_string blank
      · cases quote
      · cases final
  obtain held | ⟨value, rfl⟩ :=
    (moves outside brace).brace (run_lettered (show start.mode.Lettered from trivial) front) rfl
  · -- the blank leaves an inner value where it is
    obtain ⟨stack, mode⟩ := after
    obtain rfl : mode = .endValue := held
    cases blank
    cases final
  · obtain ⟨last', ran', -⟩ := Option.bind_eq_some_iff.mp
      (Option.isSome_iff_exists.mp whole).choose_spec
    rw [List.append_assoc, run_append, front] at ran'
    change (step before 0x7D).bind (fun next => run next (rest ++ [0x20])) = some last' at ran'
    rw [brace] at ran'
    exact fun byte member => run_endTop_white ran' byte (List.mem_append_left _ member)

end ShadowNet.Go.Json
