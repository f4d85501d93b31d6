import ShadowNet.Inside.Decision

/-! # The report on a run

`report.Generate` summarizes the state file and the stored profiles. Where the decision came from and
how sure it was are not members of the state file: the report searches the text of the reason for
them.
-/

namespace ShadowNet.Inside

open Go

/-- What the report reads of the state file. -/
structure ReportState where
  profilesLoaded : Int64
  selectedProfileID : GoString
  selectionReason : GoString
  fallbackCandidates : List GoString
  singBoxPID : Int64
  updatedAtUnix : Int64

structure Summary where
  statePresent : Bool := false
  profilesLoaded : Int64 := 0
  selectedFamily : GoString := []
  singBoxRunning : Bool := false
  selectionSource : GoString := []
  selectionConfidence : GoString := []
  profileFamilies : Map GoString ℕ := ∅
  cooldownCount : ℕ := 0
  failingCount : ℕ := 0

/-- A state as it is read back: JSON carries UTF-8 only. -/
def AgentState.readBack (st : AgentState) : ReportState where
  profilesLoaded := st.profilesLoaded
  selectedProfileID := toValid st.selectedProfileID
  selectionReason := toValid st.selectionReason
  fallbackCandidates := st.fallbackCandidates.map toValid
  singBoxPID := st.singBoxPID
  updatedAtUnix := st.updatedAtUnix

def parseSelectionSource (reason : GoString) : GoString :=
  let r := toLower reason
  if contains r (lit "source=orchestrator") then lit "orchestrator"
  else if contains r (lit "source=policy") then lit "policy"
  else []

def parseSelectionConfidence (reason : GoString) : GoString :=
  match (toLower reason).dropInfix? (lit "confidence=") with
  | none => []
  | some (_, rest) => rest.takeWhile isNumeral

/-- The members of the summary that come from the state file. -/
def stateSummary : Option ReportState → Summary
  | none => {}
  | some st =>
      { statePresent := true
        profilesLoaded := st.profilesLoaded
        singBoxRunning := st.singBoxPID ≠ 0
        selectionSource := parseSelectionSource st.selectionReason
        selectionConfidence := parseSelectionConfidence st.selectionReason }

/-- `report.Generate` once it has both files open; `none` stands for a state file that is missing. -/
def generateSummary (now : Int64) (st : Option ReportState) (profiles : List Profile) : Summary :=
  let families := profiles.foldl (fun families p =>
    families.insert p.family ((families.find? p.family).getD 0 + 1)) (∅ : Map GoString ℕ)
  let selected := st.bind fun st =>
    if st.selectedProfileID = [] then none else findProfileByID profiles st.selectedProfileID
  { stateSummary st with
    profileFamilies := families
    cooldownCount := (profiles.filter fun p => p.health.cooldownUntil > now).length
    failingCount := (profiles.filter fun p => p.health.consecutiveFails > 0).length
    selectedFamily := (selected.map (·.family)).getD [] }

/-! ## Texts that state a source or a confidence -/

def NamesOrchestrator (text : GoString) : Prop :=
  contains (toLower text) (lit "source=orchestrator") = true

def NamesPolicy (text : GoString) : Prop := contains (toLower text) (lit "source=policy") = true

def MentionsConfidence (text : GoString) : Prop :=
  contains (toLower text) (lit "confidence=") = true

/-- The first `confidence=` in a text is followed by this number. -/
def StatesConfidence (text number : GoString) : Prop :=
  ∃ before after, (toLower text).dropInfix? (lit "confidence=") = some (before, number ++ after) ∧
    (∀ byte ∈ number, isNumeral byte = true) ∧ ∀ byte ∈ after.head?, isNumeral byte = false

/-- The parser finds a confidence exactly where the text states it. -/
theorem parseSelectionConfidence_eq_iff {text number : GoString} (some : number ≠ []) :
    parseSelectionConfidence text = number ↔ StatesConfidence text number := by
  unfold parseSelectionConfidence StatesConfidence
  cases (toLower text).dropInfix? (lit "confidence=") with
  | none =>
    apply iff_of_false (fun empty => some empty.symm)
    rintro ⟨_, _, ⟨⟩, -⟩
  | some found =>
    obtain ⟨before, rest⟩ := found
    refine takeWhile_eq_iff.trans ⟨?_, ?_⟩
    · rintro ⟨after, rfl, numeral, stops⟩
      exact ⟨before, after, rfl, numeral, stops⟩
    · rintro ⟨_, after, ⟨⟩, numeral, stops⟩
      exact ⟨after, rfl, numeral, stops⟩

/-- The report says policy where the text names that and not the other. -/
theorem parseSelectionSource_policy (text : GoString) :
    parseSelectionSource text = lit "policy" ↔ NamesPolicy text ∧ ¬ NamesOrchestrator text := by
  unfold parseSelectionSource NamesPolicy NamesOrchestrator
  dsimp only
  have apart : ¬ lit "orchestrator" = lit "policy" := by decide
  have unnamed : ¬ [] = lit "policy" := by decide
  split_ifs with orchestrator policy
  · exact iff_of_false apart fun both => both.2 orchestrator
  · exact iff_of_true rfl ⟨policy, orchestrator⟩
  · exact iff_of_false unnamed fun both => policy both.1

/-! ## The reason that an answer leads to -/

theorem isFolded_of_numeral {byte : UInt8} (numeral : isNumeral byte = true) : isFolded byte = true := by
  rcases Bool.or_eq_true_iff.mp numeral with digit | point
  · simp only [isDigit, isFolded, isVisible, Bool.and_eq_true, Bool.not_eq_true', decide_eq_true_eq,
      Bool.and_eq_false_iff, decide_eq_false_iff_not] at digit ⊢
    omega
  · rw [eq_of_beq point]
    decide

/-- A number without a sign is made of digits and a point, which have no case. -/
theorem toLower_unsigned {x : Float} (unsigned : Unsigned x) :
    toLower (formatHundredths x) = formatHundredths x ∧
      ∀ byte ∈ formatHundredths x, isNumeral byte = true := by
  obtain ⟨hundredths, text⟩ := formatHundredths_unsigned unsigned
  have numeral := isNumeral_hundredthsText hundredths
  rw [text]
  exact ⟨toLower_folded fun byte member => isFolded_of_numeral (numeral byte member), numeral⟩

/-- Any other number starts otherwise. -/
theorem toLower_signed {x : Float} (signed : ¬ Unsigned x) : ∃ first rest,
    toLower (formatHundredths x) = first :: rest ∧ isNumeral first = false ∧
      0x73 ∉ first :: rest := by
  rcases formatHundredths_signed signed with letters | ⟨hundredths, text⟩
  · simp only [List.mem_cons, List.not_mem_nil, or_false] at letters
    rcases letters with same | same | same
    · rw [same]
      exact ⟨0x6E, [0x61, 0x6E], by decide, by decide, by decide⟩
    · rw [same]
      exact ⟨0x2D, [0x69, 0x6E, 0x66], by decide, by decide, by decide⟩
    · rw [same]
      exact ⟨0x2B, [0x69, 0x6E, 0x66], by decide, by decide, by decide⟩
  · have numeral := isNumeral_hundredthsText hundredths
    have folded : ∀ byte ∈ 0x2D :: hundredthsText hundredths, isFolded byte = true :=
      List.forall_mem_cons.mpr
        ⟨by decide, fun byte member => isFolded_of_numeral (numeral byte member)⟩
    rw [text, toLower_folded folded]
    refine ⟨_, _, rfl, by decide, fun member => ?_⟩
    rcases List.mem_cons.mp member with same | inside
    · exact absurd same (by decide)
    · exact absurd (numeral _ inside) (by decide)

theorem formatHundredths_ne_nil (x : Float) : formatHundredths x ≠ [] := by
  have some (hundredths : ℕ) : hundredthsText hundredths ≠ [] := by simp [hundredthsText]
  by_cases unsigned : Unsigned x
  · obtain ⟨hundredths, text⟩ := formatHundredths_unsigned unsigned
    rw [text]
    exact some hundredths
  · rcases formatHundredths_signed unsigned with letters | ⟨hundredths, text⟩
    · exact fun none => absurd (none ▸ letters) (by decide)
    · rw [text]
      exact List.cons_ne_nil _ _

/-- A printed number is read back as it is exactly if it has no sign. -/
theorem takeWhile_hundredths (x : Float) :
    (toLower (formatHundredths x)).takeWhile isNumeral = formatHundredths x ↔ Unsigned x := by
  constructor
  · intro same
    by_contra signed
    obtain ⟨first, rest, text, stops, -⟩ := toLower_signed signed
    rw [text, List.takeWhile_cons_of_neg (by simp [stops])] at same
    exact formatHundredths_ne_nil x same.symm
  · intro unsigned
    obtain ⟨same, numeral⟩ := toLower_unsigned unsigned
    rw [same]
    exact List.takeWhile_eq_self_iff.mpr numeral

theorem letter_hundredths (x : Float) : 0x73 ∉ toLower (formatHundredths x) := by
  by_cases unsigned : Unsigned x
  · obtain ⟨same, numeral⟩ := toLower_unsigned unsigned
    rw [same]
    exact fun member => absurd (numeral _ member) (by decide)
  · obtain ⟨first, rest, text, -, other⟩ := toLower_signed unsigned
    rwa [text]

/-- Behind the reason of an answer, `toLower` finds the tags as they are. -/
theorem toLower_advisedReason (res : DecisionResult)
    (source : res.source = lit "policy" ∨ res.source = lit "orchestrator") :
    toLower (advisedReason res) = toLower res.reason ++ 0x20 :: (lit "source=" ++ res.source ++
      0x20 :: (lit "confidence=" ++ toLower (formatHundredths res.confidence))) := by
  have tagged : toLower (0x20 :: (lit "source=" ++ res.source)) = 0x20 :: (lit "source=" ++ res.source) := by
    rcases source with same | same <;> rw [same] <;> decide
  have ascii : Ascii (0x20 :: (lit "source=" ++ res.source)) := by
    rcases source with same | same <;> rw [same] <;> decide
  have front : Ascii (0x20 :: lit "confidence=") := by decide
  have folded : toLower (0x20 :: lit "confidence=") = 0x20 :: lit "confidence=" := by decide
  have number : toLower (0x20 :: (lit "confidence=" ++ formatHundredths res.confidence)) =
      0x20 :: (lit "confidence=" ++ toLower (formatHundredths res.confidence)) :=
    (front.toLower_append _).trans (congrArg (· ++ _) folded)
  have shape : advisedReason res = res.reason ++ 0x20 :: (lit "source=" ++ res.source ++
      0x20 :: (lit "confidence=" ++ formatHundredths res.confidence)) := by
    rw [advisedReason, show lit " source=" = 0x20 :: lit "source=" by rfl,
      show lit " confidence=" = 0x20 :: lit "confidence=" by rfl]
    simp only [List.append_assoc, List.cons_append]
  rw [shape, toLower_append_ascii (by decide), ← List.cons_append, ascii.toLower_append, tagged,
    number]
  rfl

/-- The number in the tag is read, unless the reason has one before. -/
theorem advisedReason_confidence (res : DecisionResult)
    (source : res.source = lit "policy" ∨ res.source = lit "orchestrator") :
    parseSelectionConfidence (advisedReason res) = formatHundredths res.confidence ↔
      StatesConfidence res.reason (formatHundredths res.confidence) ∨
        ¬ MentionsConfidence res.reason ∧ Unsigned res.confidence := by
  have untagged : (lit "source=" ++ res.source).dropInfix? (lit "confidence=") = none := by
    rcases source with same | same <;> rw [same] <;> decide
  rw [← parseSelectionConfidence_eq_iff (formatHundredths_ne_nil res.confidence),
    parseSelectionConfidence, parseSelectionConfidence, toLower_advisedReason res source,
    dropInfix?_beside (by decide) (by decide), dropInfix?_beside (by decide) (by decide), untagged,
    dropInfix?_front]
  cases found : (toLower res.reason).dropInfix? (lit "confidence=") with
  | none =>
    have unmentioned : ¬ MentionsConfidence res.reason := fun mentioned =>
      (dropInfix?_eq_none (by decide)).mp found (of_decide_eq_true mentioned)
    have other : ¬ [] = formatHundredths res.confidence := (formatHundredths_ne_nil _).symm
    rw [or_iff_right other, and_iff_right unmentioned, ← takeWhile_hundredths]
    rfl
  | some found' =>
    obtain ⟨before, rest⟩ := found'
    have mentioned : MentionsConfidence res.reason := by
      by_contra absent
      have none := (dropInfix?_eq_none (by decide)).mpr fun inside => absent (decide_eq_true inside)
      cases none.symm.trans found
    rw [or_iff_left fun both => both.1 mentioned, Option.map_some, Option.some_or]
    dsimp only
    rw [takeWhile_append_stop (by decide)]

/-- The source of an advised reason is read back unless a policy reason names the orchestrator. -/
theorem advisedReason_source (res : DecisionResult)
    (source : res.source = lit "policy" ∨ res.source = lit "orchestrator") :
    parseSelectionSource (advisedReason res) = res.source ↔
      res.source = lit "orchestrator" ∨ ¬ NamesOrchestrator res.reason := by
  have quiet {part : GoString} (letter : 0x73 ∈ part) :
      contains (lit "confidence=" ++ toLower (formatHundredths res.confidence)) part = false := by
    apply decide_eq_false
    intro inside
    rcases List.mem_append.mp (inside.subset letter) with name | number
    · exact absurd name (by decide)
    · exact letter_hundredths _ number
  have tags {part : GoString} (flat : 0x20 ∉ part) (letter : 0x73 ∈ part) :
      contains (toLower (advisedReason res)) part =
        (contains (toLower res.reason) part || contains (lit "source=" ++ res.source) part) := by
    rw [toLower_advisedReason res source, contains_beside flat, contains_beside flat, quiet letter,
      Bool.or_false]
  unfold parseSelectionSource NamesOrchestrator
  dsimp only
  rw [tags (by decide) (by decide), tags (by decide) (by decide)]
  rcases source with same | same
  · have named : contains (lit "source=" ++ lit "policy") (lit "source=policy") = true := by decide
    have other : contains (lit "source=" ++ lit "policy") (lit "source=orchestrator") = false := by
      decide
    have apart : ¬ lit "orchestrator" = lit "policy" := by decide
    rw [same, named, other, Bool.or_false, Bool.or_true, if_pos rfl]
    split_ifs with orchestrator
    · exact iff_of_false apart (not_or.mpr ⟨Ne.symm apart, not_not.mpr orchestrator⟩)
    · exact iff_of_true rfl (.inr orchestrator)
  · have named : contains (lit "source=" ++ lit "orchestrator") (lit "source=orchestrator") = true := by
      decide
    rw [same, named, Bool.or_true, if_pos rfl]
    exact iff_of_true rfl (.inl rfl)

/-! ## What the report says of a run -/

/-- The report tells the source and the confidence that the run has settled on. -/
structure Settled.ReportedBy (settled : Settled) (summary : Summary) : Prop where
  source : summary.selectionSource = settled.finalSource
  confidence : summary.selectionConfidence = formatHundredths settled.finalConfidence

/-- The reason that is written tells the source and the confidence. Without an answer it is the
reason of the policy alone; the tags of an answer come behind its reason. -/
def Selection.ReasonTells (selection : Selection) (usePi : Bool) (answers : DecisionAnswers) : Prop :=
  match selection.piClient usePi answers with
  | none =>
      (NamesPolicy selection.policyReason ∧ ¬ NamesOrchestrator selection.policyReason) ∧
        StatesConfidence selection.policyReason (formatHundredths selection.policyConfidence)
  | some client =>
      let res := selection.advice answers client
      (res.source = lit "orchestrator" ∨ ¬ NamesOrchestrator res.reason) ∧
        (StatesConfidence res.reason (formatHundredths res.confidence) ∨
          ¬ MentionsConfidence res.reason ∧ Unsigned res.confidence)

theorem parse_readBack (st : AgentState) :
    parseSelectionSource st.readBack.selectionReason = parseSelectionSource st.selectionReason ∧
      parseSelectionConfidence st.readBack.selectionReason =
        parseSelectionConfidence st.selectionReason := by
  have lowered : toLower st.readBack.selectionReason = toLower st.selectionReason :=
    toLower_toValid st.selectionReason
  simp only [parseSelectionSource, parseSelectionConfidence, lowered, and_self]

theorem advice_source (selection : Selection) (answers : DecisionAnswers) (client : Client) :
    (selection.advice answers client).source = lit "policy" ∨
      (selection.advice answers client).source = lit "orchestrator" := by
  rw [Selection.advice]
  rcases decideWithFallback_cases answers.quoted (some client) selection.selected
      (selection.ranked.map (·.profile)) selection.request selection.selected
      selection.policyReason selection.policyConfidence with
    ⟨note, shape, -⟩ | ⟨ask, resp, p, -, -, -, shape⟩
  · exact .inl (congrArg DecisionResult.source shape)
  · exact .inr (congrArg DecisionResult.source shape)

variable {selection : Selection} {usePi adaptiveMode : Bool} {candidates : List Profile}
  {answers : DecisionAnswers}

/-- What is told of a state with the reason of the run. -/
theorem reported_of_reason {st : AgentState}
    (reason : st.selectionReason = (selection.final usePi answers).reason) (now : Int64)
    (profiles : List Profile) :
    (selection.settle usePi adaptiveMode candidates answers).ReportedBy
        (generateSummary now (some st.readBack) profiles) ↔ selection.ReasonTells usePi answers := by
  have parsed := parse_readBack st
  rw [reason] at parsed
  have split : (selection.settle usePi adaptiveMode candidates answers).ReportedBy
        (generateSummary now (some st.readBack) profiles) ↔
      parseSelectionSource (selection.final usePi answers).reason =
          (selection.final usePi answers).source ∧
        parseSelectionConfidence (selection.final usePi answers).reason =
          formatHundredths (selection.final usePi answers).confidence := by
    rw [← parsed.1, ← parsed.2]
    exact ⟨fun told => ⟨told.source, told.confidence⟩, fun told => ⟨told.1, told.2⟩⟩
  rw [split]
  unfold Selection.final Selection.ReasonTells
  cases asked : selection.piClient usePi answers with
  | none =>
    exact and_congr (parseSelectionSource_policy _)
      (parseSelectionConfidence_eq_iff (formatHundredths_ne_nil _))
  | some client =>
    have source := advice_source selection answers client
    exact and_congr (advisedReason_source _ source) (advisedReason_confidence _ source)

/-- What is written gives the reason of the decision. -/
theorem written_reason {rest : RunContext} {adaptive : AdaptiveState} {st : AgentState}
    (written : st ∈ (((selection.settle usePi adaptiveMode candidates answers).context rest).connect
      adaptive).1.written) : st.selectionReason = (selection.final usePi answers).reason :=
  (connect_tells _ adaptive st written).reason

/-- The report tells the source and the confidence exactly if the reason tells them. -/
theorem reported_iff (selection : Selection) (usePi adaptiveMode : Bool) (candidates : List Profile)
    (answers : DecisionAnswers) (rest : RunContext) (adaptive : AdaptiveState) (now : Int64)
    (profiles : List Profile) :
    ∀ st ∈ (((selection.settle usePi adaptiveMode candidates answers).context rest).connect
        adaptive).1.written,
      (selection.settle usePi adaptiveMode candidates answers).ReportedBy
          (generateSummary now (some st.readBack) profiles) ↔ selection.ReasonTells usePi answers := by
  intro st written
  exact reported_of_reason (written_reason written) now profiles

def oneProfile : List Profile := [trialProfile 0]

/-- What the engine makes of one profile. -/
def onlyOne : Selection :=
  let (selected, decision, ranked) :=
    Engine.selectProfile ⟨some (newAdaptiveState 80)⟩ .stable oneProfile ⟨1000, 1000, 1000⟩
  ⟨selected, decision, ranked⟩

theorem onlyOne_written (usePi : Bool) :
    (((onlyOne.settle usePi true oneProfile (switchingTo (lit "0"))).context
      (trialRun [(.started 7, true)])).connect (newAdaptiveState 80)).1.written ≠ [] := by
  cases usePi <;> decide +kernel

/-- With one profile and an orchestrator, the decision is reported. -/
theorem onlyOne_reported : ∃ st ∈ (((onlyOne.settle true true oneProfile
      (switchingTo (lit "0"))).context (trialRun [(.started 7, true)])).connect
        (newAdaptiveState 80)).1.written,
    (onlyOne.settle true true oneProfile (switchingTo (lit "0"))).ReportedBy
      (generateSummary 1000 (some st.readBack) []) := by
  obtain ⟨st, written⟩ := List.exists_mem_of_ne_nil _ (onlyOne_written true)
  refine ⟨st, written, (reported_iff onlyOne true true oneProfile (switchingTo (lit "0"))
    (trialRun [(.started 7, true)]) (newAdaptiveState 80) 1000 [] st written).mpr ?_⟩
  refine ⟨.inl ?_, .inr ⟨?_, ?_⟩⟩
  · decide
  · unfold MentionsConfidence
    decide
  · decide

/-- Without an orchestrator, the report knows neither the source nor the confidence. -/
theorem onlyOne_unreported :
    ¬ ∀ (selection : Selection) (usePi adaptiveMode : Bool) (candidates : List Profile)
      (answers : DecisionAnswers) (rest : RunContext) (adaptive : AdaptiveState) (now : Int64)
      (profiles : List Profile),
      ∀ st ∈ (((selection.settle usePi adaptiveMode candidates answers).context rest).connect
          adaptive).1.written,
        (selection.settle usePi adaptiveMode candidates answers).ReportedBy
          (generateSummary now (some st.readBack) profiles) := by
  intro reported
  obtain ⟨st, written⟩ := List.exists_mem_of_ne_nil _ (onlyOne_written false)
  have told := reported onlyOne false true oneProfile (switchingTo (lit "0"))
    (trialRun [(.started 7, true)]) (newAdaptiveState 80) 1000 [] st written
  have reason := written_reason written
  have tells := (@reported_of_reason onlyOne false true oneProfile _ st reason 1000 []).mp told
  have asked : onlyOne.piClient false (switchingTo (lit "0")) = none := rfl
  rw [Selection.ReasonTells, asked] at tells
  have unnamed : ¬ NamesPolicy onlyOne.policyReason := by
    unfold NamesPolicy
    decide +kernel
  exact unnamed tells.1.1

end ShadowNet.Inside
