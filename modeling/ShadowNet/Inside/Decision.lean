import ShadowNet.Inside.Redaction
import ShadowNet.Inside.Run
import ShadowNet.Policy.Orchestrator

/-! # The decision before the attempts

`runWithResolved` from the stored profiles to the attempts. The engine ranks the profiles, and the
fallbacks are taken from its ranking; then the orchestrator may be asked, and it may put another
profile in front. What has been decided goes into the events and into the state file.
-/

namespace ShadowNet.Inside

open Go

/-- What `Engine.SelectProfile` returns. A ranked profile keeps its score beside it. -/
structure Selection where
  selected : Profile
  decision : Decision
  ranked : List Ranked

/-- What a run gets from outside while it decides. -/
structure DecisionAnswers where
  /-- What `NewClient` gives, where it is called. -/
  client : Option Client
  /-- How `%q` prints a string. -/
  quoted : GoString → GoString
  rankedAt : Int64
  advisedAt : Int64
  switchedAt : Int64

/-- What a run has settled on, and the events that tell of it. -/
structure Settled where
  ranked : List Profile
  finalSelected : Profile
  finalReason : GoString
  finalConfidence : Float
  finalSource : GoString
  fallbackCandidates : List GoString
  events : List RuntimeEvent

/-- The profiles that are not disabled. -/
def candidatesOf (allProfiles : List Profile) : List Profile :=
  allProfiles.filter fun p => p.enabled && !p.manualDisabled

def noValidProfiles : Message :=
  ⟨"No valid profiles found.\n→ Import a trusted bundle first (or enable profiles in your store).", []⟩

def noViableProfiles : Message :=
  ⟨"No viable profiles (all are in cooldown due to repeated failures). " ++
    "Try again later or import a fresh bundle.", []⟩

namespace Selection

variable (selection : Selection)

/-- The score of the selected profile is that of the first ranked one. -/
def policyReason : GoString :=
  if isBlank selection.decision.reason then
    lit "score=" ++ formatTenths ((selection.ranked.head?.map (·.score)).getD 0) ++
      lit " ewma=" ++ formatHundredths selection.selected.health.successEWMA.toFloat ++
      lit " cooldown_until=" ++ itoa selection.selected.health.cooldownUntil.toInt
  else selection.decision.reason

def policyConfidence : Float :=
  let policyConfidence : Float :=
    match selection.ranked with
    | first :: second :: _ =>
        let policyConfidence := (first.score - second.score) / 20.0
        let policyConfidence := if policyConfidence < 0 then 0 else policyConfidence
        if policyConfidence > 1 then 1 else policyConfidence
    | _ => 1.0
  if policyConfidence.isNaN then 0 else policyConfidence

def fallbackCandidates : List GoString := ((selection.ranked.drop 1).take 3).map (·.profile.id)

def policyCandidates : List GoString := (selection.ranked.take 5).map (·.profile.id)

/-- Whether the orchestrator is to be asked. -/
def invokesPi (usePi : Bool) : Bool :=
  usePi || (selection.decision.useOrchestrator && 1 < selection.ranked.length)

/-- The orchestrator, as far as the run gets hold of it. -/
def piClient (usePi : Bool) (answers : DecisionAnswers) : Option Client :=
  if selection.invokesPi usePi then answers.client else none

def request : DecisionRequest := buildRequest (selection.ranked.map (·.profile)) []

/-- What `DecideWithFallback` makes of the answer. -/
def advice (answers : DecisionAnswers) (client : Client) : DecisionResult :=
  decideWithFallback answers.quoted (some client) selection.selected
    (selection.ranked.map (·.profile)) selection.request selection.selected selection.policyReason
    selection.policyConfidence

end Selection

def orchestratorDecisionMeta (policyCandidates : List GoString) (res : DecisionResult) :
    Map GoString MetaValue :=
  (∅ : Map GoString MetaValue).insertAll
    [(lit "action", .string (lit "select_profile")),
      (lit "candidates", .list (policyCandidates.map .string)),
      (lit "selected", .string res.selectedProfile.id),
      (lit "confidence", .float res.confidence),
      (lit "source", .string res.source),
      (lit "reason", .string res.reason)]

def profileSwitchMeta (finalSelected finalSource : GoString) (finalConfidence : Float)
    (finalReason : GoString) (fallbackCandidates : List GoString) : Map GoString MetaValue :=
  (∅ : Map GoString MetaValue).insertAll
    [(lit "selected", .string finalSelected),
      (lit "source", .string finalSource),
      (lit "confidence", .float finalConfidence),
      (lit "reason", .string finalReason),
      (lit "fallbacks", .list (fallbackCandidates.map .string))]

/-- The reason of a decision that the orchestrator was asked for. -/
def advisedReason (res : DecisionResult) : GoString :=
  res.reason ++ lit " source=" ++ res.source ++ lit " confidence=" ++ formatHundredths res.confidence

/-- The profile, the reason, the confidence and the source that a run settles on. -/
def Selection.final (selection : Selection) (usePi : Bool) (answers : DecisionAnswers) :
    DecisionResult :=
  match selection.piClient usePi answers with
  | none => ⟨selection.selected, selection.policyReason, selection.policyConfidence, lit "policy"⟩
  | some client =>
      let res := selection.advice answers client
      { res with reason := advisedReason res }

/-- The events that a decision publishes. -/
def Selection.events (selection : Selection) (usePi adaptiveMode : Bool) (candidates : List Profile)
    (answers : DecisionAnswers) : List RuntimeEvent :=
  let final := selection.final usePi answers
  [addEvent answers.rankedAt (lit "POLICY_DECISION") (lit "Policy ranked profiles")
    (policyDecisionMeta selection.ranked selection.selected.id selection.policyConfidence
      selection.policyReason 3 (Int64.ofNat candidates.length) selection.decision.scores
      adaptiveMode)] ++
  (match selection.piClient usePi answers with
    | none => []
    | some client =>
        [addEvent answers.advisedAt (lit "ORCHESTRATOR_DECISION")
          (lit "Orchestrator selected profile")
          (orchestratorDecisionMeta selection.policyCandidates (selection.advice answers client))]) ++
  [addEvent answers.switchedAt (lit "PROFILE_SWITCH")
    (lit "Selected profile " ++ final.selectedProfile.id)
    (profileSwitchMeta final.selectedProfile.id final.source final.confidence final.reason
      selection.fallbackCandidates)]

/-- `runWithResolved` from the engine's selection up to the attempts. -/
def Selection.settle (selection : Selection) (usePi adaptiveMode : Bool) (candidates : List Profile)
    (answers : DecisionAnswers) : Settled :=
  let final := selection.final usePi answers
  { ranked := selection.ranked.map (·.profile)
    finalSelected := final.selectedProfile
    finalReason := final.reason
    finalConfidence := final.confidence
    finalSource := final.source
    fallbackCandidates := selection.fallbackCandidates
    events := selection.events usePi adaptiveMode candidates answers }

/-- The selection that the engine makes of the stored profiles, or the error without one. -/
def selectionOf (engine : Engine) (sorter : SliceSort) (clock : Clock) (allProfiles : List Profile) :
    Except Message Selection :=
  match candidatesOf allProfiles with
  | [] => .error noValidProfiles
  | candidates =>
      match engine.selectProfile sorter candidates clock with
      | (_, _, []) => .error noViableProfiles
      | (selected, decision, ranked) => .ok ⟨selected, decision, ranked⟩

/-- A run that has settled; `rest` has what the decision does not touch. -/
def Settled.context (settled : Settled) (rest : RunContext) : RunContext :=
  { rest with
    ranked := settled.ranked
    finalSelected := settled.finalSelected
    finalReason := settled.finalReason
    fallbackCandidates := settled.fallbackCandidates }

/-! ## What the state file tells of the decision -/

/-- A state that has the reason and the fallbacks of the run. -/
structure RunContext.Tells (run : RunContext) (st : AgentState) : Prop where
  reason : st.selectionReason = run.finalReason
  fallbacks : st.fallbackCandidates = run.fallbackCandidates

/-- All states that have been written tell of the decision, and so does one yet to be written. -/
structure RunContext.Telling (run : RunContext) (s : RunState) : Prop where
  written : ∀ st ∈ s.written, run.Tells st
  lastState : s.lastState.updatedAtUnix ≠ 0 → run.Tells s.lastState

section

variable {run : RunContext}

theorem RunContext.tells_agentState (selectedID : GoString) (singBoxPID : Int64) (status : GoString)
    (probe : ProbeResult) (attempts : List AttemptState) (updatedAtUnix : Int64) :
    run.Tells (run.agentState selectedID singBoxPID status probe attempts updatedAtUnix) := ⟨rfl, rfl⟩

theorem RunContext.Telling.write {s : RunState} {st : AgentState} (telling : run.Telling s)
    (tells : run.Tells st) (writes : Bool) : run.Telling (s.write st writes) := by
  unfold RunState.write
  split_ifs
  · refine ⟨fun other member => ?_, telling.lastState⟩
    rcases List.mem_append.mp member with old | new
    · exact telling.written other old
    · exact List.mem_singleton.mp new ▸ tells
  · exact telling

theorem RunContext.Telling.ended {s : RunState} {st : AgentState} (telling : run.Telling s)
    (tells : run.Tells st) (writes : Bool) :
    run.Telling (({ s with lastState := st } : RunState).write st writes) := by
  have last : run.Telling { s with lastState := st } := ⟨telling.written, fun _ => tells⟩
  exact last.write tells writes

theorem RunContext.Telling.failed {s : RunState} (telling : run.Telling s) (entry : AttemptState)
    {st : List AttemptState → AgentState} (tells : ∀ attempts, run.Tells (st attempts)) :
    run.Telling (s.failed entry st) := ⟨telling.written, fun _ => tells _⟩

theorem RunContext.Telling.observe {s : RunState} (telling : run.Telling s) (a : AttemptAnswers)
    (p : Profile) : run.Telling (run.observe a p s) := by
  unfold RunContext.observe
  split_ifs
  · exact ⟨telling.written, telling.lastState⟩
  · exact ⟨telling.written, telling.lastState⟩
  · exact ⟨telling.written, telling.lastState⟩

theorem RunContext.Telling.running {s : RunState} (telling : run.Telling s) (a : AttemptAnswers)
    (p : Profile) (pid : Int64) : run.Telling (run.running a p pid s).1 := by
  have written := telling.write
    (run.tells_agentState p.id pid (lit "running") (run.probe a) s.attempts a.updatedAt) a.writesState
  unfold RunContext.running
  split_ifs
  · exact written
  · exact written
  · exact ⟨written.written, written.lastState⟩

/-- Whether an attempt ends the run or not. -/
theorem telling_attempt {s : RunState} (telling : run.Telling s) (item : Profile × ℕ) :
    match run.attempt s item with
    | .error exit => run.Telling exit.1
    | .ok next => run.Telling next := by
  obtain ⟨p, i⟩ := item
  unfold RunContext.attempt
  dsimp only
  generalize validateAction _ _ _ _ _ _ _ = guarded
  obtain ⟨loopGuard, rejected⟩ := guarded
  cases rejected with
  | some message => exact ⟨telling.written, telling.lastState⟩
  | none =>
    dsimp only
    have begun : run.Telling
        { s with
          switches := s.switches + 1, loopGuard
          snapshot := { s.snapshot with activeProfile := p.id }
          announced := s.announced ++ [p.id] } := ⟨telling.written, telling.lastState⟩
    generalize ({ s with
      switches := s.switches + 1, loopGuard
      snapshot := { s.snapshot with activeProfile := p.id }
      announced := s.announced ++ [p.id] } : RunState) = s at begun
    cases resolveTemplateText p (run.answers i).templates run.opts.templatesDir
        (run.answers i).readFile with
    | error message => exact begun
    | ok text =>
      dsimp only
      cases renderConfigToFile run.engine run.onAndroid p text run.renderOpts
          (run.answers i).writesConfig with
      | error message => exact begun
      | ok config =>
        dsimp only
        by_cases renderOnly : run.opts.renderOnly = true
        · rw [if_pos renderOnly]
          exact begun.write (run.tells_agentState ..) _
        rw [if_neg renderOnly]
        by_cases validateOnly : run.opts.validateOnly = true
        · rw [if_pos validateOnly]
          unfold RunContext.validated
          cases (run.answers i).check with
          | accepted => exact begun.write (run.tells_agentState ..) _
          | binaryNotFound => exact begun.write (run.tells_agentState ..) _
          | rejected => exact begun
        · rw [if_neg validateOnly]
          cases (run.answers i).start with
          | binaryNotFound err =>
            have written := begun.write (run.tells_agentState p.id 0 (lit "failed")
              (run.failedProbe (lit "BINARY_MISSING") err.text (run.answers i).observedAt) []
              (run.answers i).updatedAt) (run.answers i).writesState
            exact ⟨written.written, written.lastState⟩
          | failed err =>
            exact ⟨begun.written, fun _ => run.tells_agentState ..⟩
          | started pid =>
            dsimp only
            have observed := begun.observe (run.answers i) p
            by_cases fails : run.probeFails (run.answers i) = true
            · rw [if_pos fails]
              exact observed.failed _ fun _ => run.tells_agentState ..
            · rw [if_neg fails]
              apply RunContext.Telling.running
              exact ⟨observed.written, observed.lastState⟩

/-- Every state that a run writes has its reason and its fallbacks. -/
theorem connect_tells (run : RunContext) (adaptive : AdaptiveState) :
    ∀ st ∈ (run.connect adaptive).1.written, run.Tells st := by
  have start : run.Telling (run.start adaptive) := ⟨nofun, fun dated => absurd rfl dated⟩
  have telling : run.Telling (run.connect adaptive).1 := by
    rw [connect_eq]
    cases loop : (run.ordered.take run.maxAttempts).zipIdx.foldlM run.attempt
        (run.start adaptive) with
    | error exit =>
      obtain ⟨before, item, after, s, front, reached, leaves⟩ := foldlM_eq_error.mp loop
      have sofar := reached_invariant (motive := fun _ s => run.Telling s) start
        (fun _ item s next _ _ held stepped => by
          have kept := telling_attempt held item
          rwa [stepped] at kept) front reached
      have kept := telling_attempt sofar item
      rwa [leaves] at kept
    | ok s =>
      have sofar := reached_invariant (motive := fun _ s => run.Telling s) start
        (fun _ item s next _ _ held stepped => by
          have kept := telling_attempt held item
          rwa [stepped] at kept) (List.append_nil _).symm loop
      unfold RunContext.exhausted
      dsimp only
      by_cases undated : s.lastState.updatedAtUnix = 0
      · rw [if_pos undated]
        exact sofar.ended (run.tells_agentState ..) _
      · rw [if_neg undated]
        exact sofar.ended (sofar.lastState undated) _
  exact telling.written

end

/-! ## The announced fallbacks -/

/-- The first three profiles that are tried behind the selected one. -/
def RunContext.nextAttempts (run : RunContext) : List GoString :=
  ((run.ordered.drop 1).take 3).map (·.id)

/-- The fallbacks in the events and in the state file are the profiles that the run goes on with. -/
structure Settled.AnnouncesAttempts (settled : Settled) (rest : RunContext)
    (adaptive : AdaptiveState) : Prop where
  events : ∀ event ∈ settled.events, ∀ value, (lit "fallbacks", value) ∈ event.metadata.entries →
    value = .list ((settled.context rest).nextAttempts.map .string)
  states : ∀ st ∈ ((settled.context rest).connect adaptive).1.written,
    st.fallbackCandidates = (settled.context rest).nextAttempts
  apart : settled.finalSelected.id ∉ settled.fallbackCandidates

/-- The next attempts are the others in the order of their ranks. -/
theorem RunContext.nextAttempts_eq (run : RunContext) : run.nextAttempts =
    ((run.ranked.map (·.id)).filter fun id => id ≠ run.finalSelected.id).take 3 := by
  rw [RunContext.nextAttempts, RunContext.ordered, List.drop_one, List.tail_cons, List.map_take,
    List.filter_map]
  rfl

/-- The orchestrator is asked, and what it answers is accepted and asks for another profile than the
engine's. -/
def Selection.Diverted (selection : Selection) (usePi : Bool) (answers : DecisionAnswers) : Prop :=
  ∃ client resp, selection.piClient usePi answers = some client ∧
    client selection.request = some resp ∧
    enforceSafety answers.quoted (selection.ranked.map (·.profile)) selection.request resp = .ok () ∧
    resp.action = actionSwitchProfile ∧ resp.profileID ≠ selection.selected.id

/-- What is left of distinct IDs without one of them starts as what stands behind the first exactly if
it is the first that is missing. -/
theorem take_filter_eq_iff {ids : List GoString} {first chosen : GoString} {count : ℕ}
    (distinct : (first :: ids).Nodup) (some : 0 < count) :
    ((first :: ids).filter fun id => id ≠ chosen).take count = ids.take count ↔ chosen = first := by
  obtain ⟨fresh, -⟩ := List.nodup_cons.mp distinct
  constructor
  · intro same
    by_contra other
    have kept : first ≠ chosen := fun back => other back.symm
    rw [List.filter_cons_of_pos (by simpa using kept)] at same
    obtain ⟨less, rfl⟩ := Nat.exists_eq_succ_of_ne_zero some.ne'
    rw [List.take_succ_cons] at same
    exact fresh (List.mem_of_mem_take (same ▸ List.mem_cons_self ..))
  · rintro rfl
    have others : ∀ id ∈ ids, decide (id ≠ chosen) = true := fun id member =>
      decide_eq_true fun same => fresh (same ▸ member)
    rw [List.filter_cons_of_neg (by simp), List.filter_eq_self.mpr others]

variable {selection : Selection} {usePi adaptiveMode : Bool} {candidates : List Profile}
  {answers : DecisionAnswers}

/-- A switch that is accepted has a target. -/
theorem enforceSafety_target {quoted : GoString → GoString} {profiles : List Profile}
    {req : DecisionRequest} {resp : DecisionResponse}
    (accepted : enforceSafety quoted profiles req resp = .ok ())
    (action : resp.action = actionSwitchProfile) :
    ∃ target, findProfileByID profiles resp.profileID = some target := by
  rw [enforceSafety, if_pos (.inl action)] at accepted
  obtain ⟨⟨⟩, -, accepted⟩ := bind_eq_ok.mp accepted
  obtain ⟨-, accepted⟩ := require_bind_eq_ok.mp accepted
  cases found : findProfileByID profiles resp.profileID with
  | none =>
    rw [found] at accepted
    cases accepted
  | some target => exact ⟨target, rfl⟩

/-- The answer changes the selection exactly where it diverts it. -/
theorem final_selected_iff :
    (selection.final usePi answers).selectedProfile.id ≠ selection.selected.id ↔
      selection.Diverted usePi answers := by
  unfold Selection.final
  cases asked : selection.piClient usePi answers with
  | none =>
    apply iff_of_false (fun other => other rfl)
    rintro ⟨_, _, given, -⟩
    cases asked.symm.trans given
  | some client =>
    dsimp only
    rw [Selection.advice]
    rcases decideWithFallback_cases answers.quoted (some client) selection.selected
        (selection.ranked.map (·.profile)) selection.request selection.selected
        selection.policyReason selection.policyConfidence with
      ⟨note, shape, useless⟩ | ⟨ask, resp, p, given, answered, advised, shape⟩
    · rw [shape]
      apply iff_of_false (fun other => other rfl)
      rintro ⟨ask, resp, given, answered, accepted, action, -⟩
      obtain rfl := Option.some.inj (asked.symm.trans given)
      obtain ⟨target, found⟩ := enforceSafety_target accepted action
      exact useless client resp target rfl answered (.switch accepted action found)
    · rw [shape]
      obtain rfl := Option.some.inj given
      have keeps (action : resp.action ≠ actionSwitchProfile) : ¬ selection.Diverted usePi answers := by
        rintro ⟨ask, resp', given, answered', -, switch, -⟩
        obtain rfl := Option.some.inj (asked.symm.trans given)
        obtain rfl := Option.some.inj (answered.symm.trans answered')
        exact action switch
      cases advised with
      | hold accepted action =>
        exact iff_of_false (fun other => other rfl) (keeps (action ▸ by decide))
      | cooldown accepted action =>
        exact iff_of_false (fun other => other rfl) (keeps (action ▸ by decide))
      | switch accepted action found =>
        have named : p.id = resp.profileID := by simpa using List.find?_some found
        dsimp only
        rw [named]
        constructor
        · exact fun other => ⟨client, resp, asked, answered, accepted, action, other⟩
        · rintro ⟨ask, resp', given, answered', -, -, other⟩
          obtain rfl := Option.some.inj (asked.symm.trans given)
          obtain rfl := Option.some.inj (answered.symm.trans answered')
          exact other

/-- The first of the ranking is selected. -/
theorem selectionOf_first {engine : Engine} {sorter : SliceSort} {clock : Clock}
    {allProfiles : List Profile} (selected : selectionOf engine sorter clock allProfiles = .ok selection) :
    ∃ first rest, selection.ranked = first :: rest ∧ selection.selected = first.profile := by
  rw [selectionOf] at selected
  split at selected
  · cases selected
  · next candidates _ =>
    have first := engine.selectProfile_first sorter (candidatesOf allProfiles) clock
    split at selected
    · cases selected
    · next p decision ranked some same =>
      obtain rfl := Except.ok.inj selected
      rw [same] at first
      cases ranked with
      | nil => exact (some rfl).elim
      | cons best rest => exact ⟨best, rest, rfl, first best rest rfl⟩

/-! ## The fallbacks in the events -/

theorem mem_addEvent {now : Int64} {typ msg : GoString} {entries : List (GoString × MetaValue)}
    (distinct : (entries.map Prod.fst).Nodup) {key : GoString} {made : MetaValue} :
    (key, made) ∈ (addEvent now typ msg
        ((∅ : Map GoString MetaValue).insertAll entries)).metadata.entries ↔
      ∃ value, (key, value) ∈ entries ∧ made = sanitizeRuntimeValue key value := by
  rw [addEvent_metadata, mem_sanitizeRuntimeMeta]
  simp only [((Map.insertAll_perm_iff entries).mpr distinct).mem_iff]

/-- An event made with a list of fallbacks shows that list and no other. -/
theorem mem_fallbacks {now : Int64} {typ msg : GoString} {entries : List (GoString × MetaValue)}
    (distinct : (entries.map Prod.fst).Nodup) {items : List MetaValue}
    (given : (lit "fallbacks", .list items) ∈ entries) {value : MetaValue} :
    (lit "fallbacks", value) ∈ (addEvent now typ msg
        ((∅ : Map GoString MetaValue).insertAll entries)).metadata.entries ↔ value = .list items := by
  have visible : ¬ isHidden (lit "fallbacks") = true := by decide
  have kept : sanitizeRuntimeValue (lit "fallbacks") (.list items) = .list items := by
    rw [sanitizeRuntimeValue.eq_def, if_neg visible]
  rw [mem_addEvent distinct]
  constructor
  · rintro ⟨old, member, rfl⟩
    have same := List.inj_on_of_nodup_map distinct member given rfl
    rw [(Prod.mk.inj same).2, kept]
  · rintro rfl
    exact ⟨_, given, kept.symm⟩

theorem mem_policy_fallbacks {now : Int64} {msg : GoString} {profileCount : Int64} {value : MetaValue} :
    (lit "fallbacks", value) ∈ (addEvent now (lit "POLICY_DECISION") msg
        (policyDecisionMeta selection.ranked selection.selected.id selection.policyConfidence
          selection.policyReason 3 profileCount selection.decision.scores
          adaptiveMode)).metadata.entries ↔
      value = .list (selection.fallbackCandidates.map .string) := by
  rw [policyDecisionMeta, Selection.fallbackCandidates, List.map_map]
  apply mem_fallbacks
  · change List.Nodup [lit "candidates", lit "selected", lit "confidence", lit "reason",
      lit "fallbacks", lit "max_burst", lit "profile_cnt", lit "scores", lit "adaptive"]
    decide
  · simp [Function.comp_def]

theorem mem_switch_fallbacks {now : Int64} {msg selected source reason : GoString} {confidence : Float}
    {fallbacks : List GoString} {value : MetaValue} :
    (lit "fallbacks", value) ∈ (addEvent now (lit "PROFILE_SWITCH") msg
        (profileSwitchMeta selected source confidence reason fallbacks)).metadata.entries ↔
      value = .list (fallbacks.map .string) := by
  rw [profileSwitchMeta]
  apply mem_fallbacks
  · change List.Nodup [lit "selected", lit "source", lit "confidence", lit "reason", lit "fallbacks"]
    decide
  · simp

/-- No event names other fallbacks. -/
theorem fallbacks_of_event {event : RuntimeEvent} {value : MetaValue}
    (published : event ∈ selection.events usePi adaptiveMode candidates answers)
    (entry : (lit "fallbacks", value) ∈ event.metadata.entries) :
    value = .list (selection.fallbackCandidates.map .string) := by
  rw [Selection.events] at published
  rcases List.mem_append.mp published with early | switch
  · rcases List.mem_append.mp early with policy | advice
    · rw [List.mem_singleton.mp policy] at entry
      exact mem_policy_fallbacks.mp entry
    · cases asked : selection.piClient usePi answers with
      | none =>
        rw [asked] at advice
        cases advice
      | some client =>
        rw [asked] at advice
        rw [List.mem_singleton.mp advice, orchestratorDecisionMeta, mem_addEvent] at entry
        · obtain ⟨old, member, -⟩ := entry
          have named := List.mem_map_of_mem (f := Prod.fst) member
          exact absurd named (by
            change lit "fallbacks" ∉ [lit "action", lit "candidates", lit "selected",
              lit "confidence", lit "source", lit "reason"]
            decide)
        · change List.Nodup [lit "action", lit "candidates", lit "selected", lit "confidence",
            lit "source", lit "reason"]
          decide
  · rw [List.mem_singleton.mp switch] at entry
    exact mem_switch_fallbacks.mp entry

/-- The fallbacks are published. -/
theorem fallbacks_published : ∃ event ∈ selection.events usePi adaptiveMode candidates answers,
    (lit "fallbacks", .list (selection.fallbackCandidates.map .string)) ∈ event.metadata.entries :=
  ⟨_, List.mem_append_right _ (List.mem_singleton_self _), mem_switch_fallbacks.mpr rfl⟩

/-- What a run over distinct profiles announces comes to pass if it stays with the first of them. -/
theorem announces_iff_first {first : Ranked} {others : List Ranked}
    (ranked : selection.ranked = first :: others)
    (distinct : (selection.ranked.map (·.profile.id)).Nodup) (rest : RunContext)
    (adaptive : AdaptiveState) :
    (selection.settle usePi adaptiveMode candidates answers).AnnouncesAttempts rest adaptive ↔
      (selection.final usePi answers).selectedProfile.id = first.profile.id := by
  have next : ((selection.settle usePi adaptiveMode candidates answers).context rest).nextAttempts =
      ((first.profile.id :: others.map (·.profile.id)).filter fun id =>
        id ≠ (selection.final usePi answers).selectedProfile.id).take 3 := by
    rw [RunContext.nextAttempts_eq]
    change (List.filter _ ((selection.ranked.map (·.profile)).map (·.id))).take 3 = _
    rw [ranked, List.map_map]
    rfl
  have announced : selection.fallbackCandidates = (others.map (·.profile.id)).take 3 := by
    rw [Selection.fallbackCandidates, ranked, List.drop_one, List.tail_cons, List.map_take]
  rw [ranked, List.map_cons] at distinct
  have agree := @take_filter_eq_iff _ _ (selection.final usePi answers).selectedProfile.id 3 distinct
    (by decide)
  rw [← next, ← announced] at agree
  rw [← agree]
  constructor
  · intro announces
    obtain ⟨event, published, entry⟩ := @fallbacks_published selection usePi adaptiveMode candidates
      answers
    have same := announces.events event published _ entry
    have inj : Function.Injective MetaValue.string := fun _ _ same => MetaValue.string.inj same
    exact inj.list_map (MetaValue.list.inj same.symm)
  · intro same
    refine ⟨fun event published value entry => ?_, fun st written => ?_, ?_⟩
    · rw [same]
      exact fallbacks_of_event published entry
    · rw [same]
      exact (connect_tells _ adaptive st written).fallbacks
    · change (selection.final usePi answers).selectedProfile.id ∉ selection.fallbackCandidates
      rw [← same, next]
      intro member
      simpa using (List.mem_filter.mp (List.mem_of_mem_take member)).2

/-- The run announces the attempts to come exactly if it is not diverted by the orchestrator. -/
theorem announcesAttempts_iff {engine : Engine} {sorter : SliceSort} {clock : Clock}
    {allProfiles : List Profile} (selected : selectionOf engine sorter clock allProfiles = .ok selection)
    (distinct : (selection.ranked.map (·.profile.id)).Nodup) (usePi adaptiveMode : Bool)
    (answers : DecisionAnswers) (rest : RunContext) (adaptive : AdaptiveState) :
    (selection.settle usePi adaptiveMode (candidatesOf allProfiles) answers).AnnouncesAttempts rest
        adaptive ↔ ¬ selection.Diverted usePi answers := by
  obtain ⟨first, others, ranked, best⟩ := selectionOf_first selected
  rw [announces_iff_first ranked distinct, ← best, ← final_selected_iff, not_not]

def twoProfiles : List Profile := [plainProfile (lit "a"), plainProfile (lit "b")]

/-- What the engine makes of two equal profiles. -/
def firstOfTwo : Selection :=
  let (selected, decision, ranked) :=
    Engine.selectProfile ⟨some (newAdaptiveState 80)⟩ .stable twoProfiles ⟨1000, 1000, 1000⟩
  ⟨selected, decision, ranked⟩

theorem firstOfTwo_selected :
    selectionOf ⟨some (newAdaptiveState 80)⟩ .stable ⟨1000, 1000, 1000⟩ twoProfiles =
      .ok firstOfTwo := by
  rfl

/-- The orchestrator answers with a switch to a profile. -/
def switchingTo (id : GoString) : DecisionAnswers where
  client := some fun _ => some {
    action := actionSwitchProfile, profileID := id, reason := lit "latency", confidence := 0.9 }
  quoted text := text
  rankedAt := 1000
  advisedAt := 1000
  switchedAt := 1000

/-- A selection that the answer leaves is announced with the attempts that follow. -/
theorem firstOfTwo_announced :
    (firstOfTwo.settle true true (candidatesOf twoProfiles) (switchingTo (lit "a"))).AnnouncesAttempts
      (trialRun []) (newAdaptiveState 80) := by
  refine (announcesAttempts_iff firstOfTwo_selected (by decide) true true (switchingTo (lit "a"))
    (trialRun []) (newAdaptiveState 80)).mpr ?_
  rintro ⟨client, resp, given, answered, -, -, other⟩
  obtain rfl := Option.some.inj given
  obtain rfl := Option.some.inj answered
  exact other (by decide)

/-- Switched to the second profile, the run announces that profile as its fallback. -/
theorem secondOfTwo_announced :
    ¬ ∀ (engine : Engine) (sorter : SliceSort) (clock : Clock) (allProfiles : List Profile)
      (selection : Selection) (usePi adaptiveMode : Bool) (answers : DecisionAnswers)
      (rest : RunContext) (adaptive : AdaptiveState),
      selectionOf engine sorter clock allProfiles = .ok selection →
        (selection.ranked.map (·.profile.id)).Nodup →
          (selection.settle usePi adaptiveMode (candidatesOf allProfiles) answers).AnnouncesAttempts
            rest adaptive := by
  intro announces
  have wrong := announces _ _ _ _ _ true true (switchingTo (lit "b")) (trialRun [])
    (newAdaptiveState 80) firstOfTwo_selected (by decide)
  exact wrong.apart (by decide)

end ShadowNet.Inside
