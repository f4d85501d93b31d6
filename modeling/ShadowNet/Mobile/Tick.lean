import ShadowNet.Mobile.Agent
import ShadowNet.Mobile.ImportBundle
import ShadowNet.Policy.Cooldown
import ShadowNet.Policy.Orchestrator
import ShadowNet.Sing.Render

/-! # The ticks of the agent loop

`runOnce` loads the stores, selects a profile, asks `validateAction` whether the switch to it is
allowed, renders it, and records the outcome. The switches that `validateAction` counts are the
entries of `history`: every tick that succeeds appends one, whether or not the profile changes, and
none is ever too old to count.
-/

namespace ShadowNet

open Go Go.Json

/-- The packages and the platform that `runOnce` works with. -/
structure TickPackages where
  engine : TextTemplate.Engine Profile
  aead : MasterKey → Aead
  sorter : SliceSort
  /-- How `%q` prints. -/
  quoted : GoString → GoString
  onAndroid : Bool

/-- What a tick gets from the clock, the operating system and the orchestrator. -/
structure TickAnswers where
  storeOpens : Bool := true
  templateStoreOpens : Bool := true
  adaptiveStoreOpens : Bool := true
  clock : Clock
  response : Option DecisionResponse := none
  renderWrites : Bool := true
  attemptedAt : Int64
  nonce : Nonce
  /-- What a save of the adaptive state that fails leaves at its path. -/
  failedSave : Option StoreFile := none
  updatedAt : Int64

/-- The state that ticks work on. -/
structure TickState where
  shared : RuntimeState
  disk : Disk

/-- What `runOnce` has settled on before it consults the orchestrator. -/
structure TickChoice where
  key : MasterKey
  adaptive : AdaptiveState
  selected : Profile
  decision : Decision
  ranked : List Ranked
  reason : GoString

def adaptivePath (cfg : AgentConfig) : GoString := pathJoin cfg.stateDir (lit "adaptive.enc")

def templatesPath (cfg : AgentConfig) : GoString := pathJoin cfg.stateDir (lit "templates.enc")

/-- `AdaptiveStore.Load`. -/
def loadAdaptive (aead : Aead) : StoreFile → Except Message AdaptiveState
  | .absent => AdaptiveStore.load aead none
  | .unreadable => .error ⟨"%w", [.foreign]⟩
  | .holding contents => AdaptiveStore.load aead (some contents)

variable (packages : TickPackages) (cfg : AgentConfig)

/-- The part of `runOnce` before it takes the shared state. -/
def chooseProfile (answers : TickAnswers) (disk : Disk) : Except Message TickChoice := do
  let key ← (parseMasterKey cfg.masterKey).mapError fun text =>
    (⟨"invalid master_key: %v", [.err text]⟩ : Message)
  require (answers.storeOpens = true) ⟨"store error: %v", [.foreign]⟩
  require (answers.templateStoreOpens = true) ⟨"template store error: %v", [.foreign]⟩
  let profiles ← (loadProfiles (packages.aead key)
    (disk (pathJoin cfg.stateDir (lit "profiles.enc")))).mapError fun text =>
      (⟨"load profiles: %v", [.err text]⟩ : Message)
  let candidates := profiles.filter fun p => p.enabled && !p.manualDisabled
  require (candidates ≠ []) ⟨"no profiles available", []⟩
  require (answers.adaptiveStoreOpens = true) ⟨"adaptive store: %v", [.foreign]⟩
  let loaded ← (loadAdaptive (packages.aead key) (disk (adaptivePath cfg))).mapError fun message =>
    (⟨"adaptive state: " ++ message.format, message.args⟩ : Message)
  let adaptive := loaded.setEnabled cfg.adaptiveMode
  let (selected, decision, ranked) :=
    Engine.selectProfile ⟨some adaptive⟩ packages.sorter candidates answers.clock
  require (ranked ≠ []) ⟨"no viable profiles after cooldown filters", []⟩
  return {
    key
    adaptive := adaptive.ensureDefaults
    selected
    decision
    ranked
    reason := if isBlank decision.reason then
      lit "policy score=" ++ formatTenths ((ranked.head?.map (·.score)).getD 0)
    else decision.reason }

/-- The profile and the reason after the orchestrator has been consulted, if it is. -/
def TickChoice.consult (choice : TickChoice) (shared : RuntimeState)
    (response : Option DecisionResponse) : Profile × GoString :=
  if shared.pi.isSome ∧ 1 < choice.ranked.length ∧ choice.decision.useOrchestrator = true then
    let candidates := choice.ranked.map (·.profile)
    let result := decideWithFallback packages.quoted (some fun _ => response) choice.selected
      candidates (buildRequest candidates shared.history) choice.selected choice.reason 0.5
    (result.selectedProfile, result.reason ++ lit " source=" ++ result.source)
  else (choice.selected, choice.reason)

def resolveTemplateText (aead : Aead) (p : Profile) (disk : Disk) : Except Message Bytes :=
  let stored := templatesOrNone aead (disk (templatesPath cfg))
  let usable (key : GoString) : Option Bytes := (stored.find? key).filter fun text => !isBlank text
  match (if p.templateRef = [] then none else usable p.templateRef).or (usable p.family) with
  | some text => .ok text
  | none =>
      let name := if p.templateRef = [] then p.family ++ lit ".json"
        else if hasSuffix (toLower p.templateRef) (lit ".json") then p.templateRef
        else p.templateRef ++ lit ".json"
      let full := pathJoin cfg.templatesDir (pathClean name)
      match disk.read full with
      | some text => .ok text
      | none => .error ⟨"missing template for %q (%s): %w", [.str p.id, .str full, .foreign]⟩

def rateLimited : Message := ⟨"action rejected: %v", [.err "rate limit exceeded"]⟩

/-- What a tick rejects a profile with: the message, and the failure that goes on record. -/
def checkSwitch (choice : TickChoice) (selected : Profile) (recent : List GoString) :
    Except (Message × GoString) Unit :=
  (validateAction (lit "switch_profile") selected.id (choice.ranked.map (·.profile.id))
    (recent.length + 1) 6).mapError fun message =>
      (⟨"action rejected: %v", [.err message.format]⟩, lit "UNKNOWN")

/-- The configuration that a tick renders. -/
def renderTick (choice : TickChoice) (selected : Profile) (answers : TickAnswers) (disk : Disk) :
    Except (Message × GoString) Bytes := do
  let templateText ← (resolveTemplateText cfg (packages.aead choice.key) selected disk).mapError
    fun message => (message, lit "CONFIG_ERROR")
  (renderConfigToFile packages.engine packages.onAndroid selected templateText {}
    answers.renderWrites).mapError fun message =>
      (⟨"render config: " ++ message.format, message.args⟩, lit "CONFIG_ERROR")

def configPath : GoString :=
  if isBlank cfg.configPath then pathJoin (pathJoin cfg.stateDir (lit "runtime")) (lit "config.json")
  else cfg.configPath

/-- `AdaptiveStore.Save`, whose result is dropped. -/
def saveAdaptive (choice : TickChoice) (answers : TickAnswers) (adaptive : AdaptiveState)
    (disk : Disk) : Disk :=
  Function.update disk (adaptivePath cfg) (answers.failedSave.getD
    (.holding (AdaptiveStore.save (packages.aead choice.key) answers.nonce adaptive)))

/-- A failed attempt, as `runOnce` records it. -/
def failedSignal : AttemptSignal := { dnsOK := true }

def successSignal : AttemptSignal :=
  { connectOK := true, dnsOK := true, tcpHandshake := true, tlsSuccess := true }

/-- `runOnce`: the state it leaves, and the ID of the profile that it selected for good. -/
def runOnce (answers : TickAnswers) (s : TickState) : TickState × Option GoString :=
  match chooseProfile packages cfg answers s.disk with
  | .error message => ({ s with shared := updateError message answers.updatedAt s.shared }, none)
  | .ok choice =>
      let (selected, reason) := choice.consult packages s.shared answers.response
      match checkSwitch choice selected s.shared.history >>= fun _ =>
        renderTick packages cfg choice selected answers s.disk with
      | .error (message, failure) =>
          ({ shared := updateError message answers.updatedAt s.shared
             disk := saveAdaptive packages cfg choice answers
               (choice.adaptive.recordAttempt selected.id failedSignal failure answers.attemptedAt)
               s.disk }, none)
      | .ok cfgBytes =>
          ({ shared := tickSection selected.id reason answers.updatedAt s.shared
             disk := saveAdaptive packages cfg choice answers
               ((choice.adaptive.recordSelection selected.id).recordAttempt selected.id
                 successSignal [] answers.attemptedAt)
               (Function.update s.disk (configPath cfg) (.holding cfgBytes)) }, some selected.id)

/-! ## The switch limit -/

/-- The loop between two ticks, with the profile that was selected last and the times at which the
selected profile has changed. -/
structure TickedAgent where
  state : TickState
  current : Option GoString
  switches : List Int64

inductive TickLabel where
  | tick (answers : TickAnswers)
  | others (next : TickState)

/-- The agent after a tick. -/
def TickedAgent.tick (agent : TickedAgent) (answers : TickAnswers) : TickedAgent :=
  let (state, selected) := runOnce packages cfg answers agent.state
  match selected with
  | none => { agent with state }
  | some id =>
      { state
        current := some id
        switches :=
          if agent.current = some id then agent.switches
          else agent.switches ++ [answers.attemptedAt] }

/-- Only `StartAgent` empties the history, and then it starts another loop. -/
inductive TickStep : TickedAgent → TickLabel → TickedAgent → Prop
  | tick {agent : TickedAgent} (answers : TickAnswers) :
      TickStep agent (.tick answers) (agent.tick packages cfg answers)
  | others {agent : TickedAgent} (next : TickState)
      (history : next.shared.history = agent.state.shared.history) :
      TickStep agent (.others next) { agent with state := next }

/-- The switches in the minute before a time. -/
def TickedAgent.switchesBefore (agent : TickedAgent) (now : Int64) : List Int64 :=
  agent.switches.filter fun time => now.toInt - 60 ≤ time.toInt ∧ time.toInt ≤ now.toInt

/-- A tick is rejected for the rate only after more than six switches within a minute. -/
def LimitsSwitches (agent : TickedAgent) (label : TickLabel) (next : TickedAgent) : Prop :=
  match label with
  | .tick answers => next.state.shared.status.lastError = rateLimited →
      6 < (agent.switchesBefore answers.attemptedAt).length
  | .others _ => True

/-- A tick that has a profile to select comes after fewer than six that have selected one. -/
def BelowLimit (agent : TickedAgent) (label : TickLabel) (_next : TickedAgent) : Prop :=
  match label with
  | .tick answers => (∃ choice, chooseProfile packages cfg answers agent.state.disk = .ok choice) →
      agent.state.shared.history.length < 6
  | .others _ => True

/-- The format that no error but that of `validateAction` has. -/
def OtherFormat (message : Message) : Prop := message.format ≠ rateLimited.format

theorem otherFormat_append {front rest : String} (args : List Arg)
    (apart : ¬ front.toList <+: rateLimited.format.toList) :
    OtherFormat ⟨front ++ rest, args⟩ := by
  intro same
  refine apart ⟨rest.toList, ?_⟩
  rw [← String.toList_append]
  exact congrArg String.toList same

theorem chooseProfile_fails (answers : TickAnswers) (disk : Disk) :
    FailsWith OtherFormat (chooseProfile packages cfg answers disk) := by
  unfold chooseProfile
  refine (failsWith_mapError fun _ => by simp [OtherFormat, rateLimited]).bind fun key => ?_
  refine (failsWith_require (by simp [OtherFormat, rateLimited])).bind fun _ => ?_
  refine (failsWith_require (by simp [OtherFormat, rateLimited])).bind fun _ => ?_
  refine (failsWith_mapError fun _ => by simp [OtherFormat, rateLimited]).bind fun profiles => ?_
  refine (failsWith_require (by simp [OtherFormat, rateLimited])).bind fun _ => ?_
  refine (failsWith_require (by simp [OtherFormat, rateLimited])).bind fun _ => ?_
  refine (failsWith_mapError fun message => otherFormat_append _ (by decide)).bind fun loaded => ?_
  refine (failsWith_require (by simp [OtherFormat, rateLimited])).bind fun _ => ?_
  exact failsWith_ok _

theorem renderTick_fails (choice : TickChoice) (selected : Profile) (answers : TickAnswers)
    (disk : Disk) : FailsWith (fun failure => OtherFormat failure.1)
      (renderTick packages cfg choice selected answers disk) := by
  unfold renderTick
  refine FailsWith.bind ?_ fun templateText => ?_
  · intro failure failed
    unfold resolveTemplateText at failed
    dsimp only at failed
    split at failed
    · cases failed
    · split at failed
      · cases failed
      · cases failed
        simp [OtherFormat, rateLimited]
  · exact failsWith_mapError fun message => otherFormat_append _ (by decide)

theorem chooseProfile_selected {answers : TickAnswers} {disk : Disk} {choice : TickChoice}
    (chosen : chooseProfile packages cfg answers disk = .ok choice) :
    choice.selected ∈ choice.ranked.map (·.profile) := by
  simp only [chooseProfile, bind_eq_ok, require_eq_ok, exists_const, mapError_eq_ok, pure_eq_ok]
    at chosen
  obtain ⟨key, -, -, -, profiles, -, -, -, loaded, -, viable, rfl⟩ := chosen
  exact Engine.selectProfile_selected _ packages.sorter _ answers.clock viable

/-- The profile that a tick settles on is one of the ranked ones. -/
theorem consult_known {answers : TickAnswers} {disk : Disk} {choice : TickChoice}
    (chosen : chooseProfile packages cfg answers disk = .ok choice) (shared : RuntimeState)
    (response : Option DecisionResponse) :
    (choice.consult packages shared response).1.id ∈ choice.ranked.map (·.profile.id) := by
  have own := chooseProfile_selected packages cfg chosen
  have known : (choice.consult packages shared response).1 ∈ choice.ranked.map (·.profile) := by
    have selects := decideWithFallback_selected packages.quoted (some fun _ => response)
      choice.selected (choice.ranked.map (·.profile))
      (buildRequest (choice.ranked.map (·.profile)) shared.history) choice.selected choice.reason 0.5
    unfold TickChoice.consult
    split_ifs
    · simp only [List.mem_cons, or_self_left] at selects
      rcases selects with same | other
      · dsimp only
        rw [same]
        exact own
      · exact other
    · exact own
  have mapped := List.mem_map_of_mem (f := (·.id)) known
  rwa [List.map_map] at mapped

/-- A tick checks a known profile, so that only the number of switches matters. -/
theorem checkSwitch_eq {choice : TickChoice} {selected : Profile}
    (known : selected.id ∈ choice.ranked.map (·.profile.id)) (recent : List GoString) :
    checkSwitch choice selected recent =
      if recent.length < 6 then .ok () else .error (rateLimited, lit "UNKNOWN") := by
  have action : isBlank (lit "switch_profile") = false := by decide
  unfold checkSwitch validateAction
  rw [require, if_pos action, require, if_pos known, require]
  split_ifs with past few few
  all_goals first | rfl | omega

/-- How a tick ends: with no profile to select, with a rejected one, with one that fails to render,
or with a selected one. -/
inductive TickEnds (answers : TickAnswers) (s : TickState) : TickState × Option GoString → Prop
  | idle {shared : RuntimeState} {disk : Disk}
      (without : ∀ choice, chooseProfile packages cfg answers s.disk ≠ .ok choice)
      (history : shared.history = s.shared.history)
      (other : OtherFormat shared.status.lastError) : TickEnds answers s (⟨shared, disk⟩, none)
  | rejected {shared : RuntimeState} {disk : Disk} {choice : TickChoice}
      (chosen : chooseProfile packages cfg answers s.disk = .ok choice)
      (past : 6 ≤ s.shared.history.length) (limited : shared.status.lastError = rateLimited) :
      TickEnds answers s (⟨shared, disk⟩, none)
  | failed {shared : RuntimeState} {disk : Disk} (few : s.shared.history.length < 6)
      (history : shared.history = s.shared.history)
      (other : OtherFormat shared.status.lastError) : TickEnds answers s (⟨shared, disk⟩, none)
  | selected {shared : RuntimeState} {disk : Disk} {id : GoString}
      (few : s.shared.history.length < 6) (history : shared.history = s.shared.history ++ [id])
      (other : OtherFormat shared.status.lastError) : TickEnds answers s (⟨shared, disk⟩, some id)

theorem runOnce_ends (answers : TickAnswers) (s : TickState) :
    TickEnds packages cfg answers s (runOnce packages cfg answers s) := by
  unfold runOnce
  cases chosen : chooseProfile packages cfg answers s.disk with
  | error message =>
    refine .idle (fun choice same => ?_) rfl
      (chooseProfile_fails packages cfg answers s.disk message chosen)
    rw [chosen] at same
    cases same
  | ok choice =>
    have known := consult_known packages cfg chosen s.shared answers.response
    simp only [checkSwitch_eq known]
    split_ifs with few
    · cases rendered : renderTick packages cfg choice
          (choice.consult packages s.shared answers.response).1 answers s.disk with
      | error failure => exact .failed few rfl (renderTick_fails packages cfg _ _ _ _ _ rendered)
      | ok cfgBytes =>
        refine .selected few ?_ (by simp [OtherFormat, rateLimited, tickSection])
        apply if_neg
        rw [List.length_append, List.length_singleton]
        omega
    · exact .rejected chosen (Nat.not_lt.mp few) rfl

/-- A tick does to the shared state what the sections of a loop in its place may do. -/
theorem runOnce_sections (answers : TickAnswers) {s : AgentState} {n : ℕ}
    (ticks : s.loop n = .ticking) (disk : Disk) : ∃ labels last, Run AgentStep s labels last ∧
      last.shared = (runOnce packages cfg answers ⟨s.shared, disk⟩).1.shared := by
  have reads : AgentStep s (.readState n)
      { s with loop := Function.update s.loop n (.deciding s.shared.history) } := .readState ticks
  unfold runOnce
  cases chosen : chooseProfile packages cfg answers disk with
  | error message =>
    exact ⟨_, _, .cons (.tickError message answers.updatedAt (.inl ticks)) (.nil _), rfl⟩
  | ok choice =>
    have known := consult_known packages cfg chosen s.shared answers.response
    have decides := Function.update_self n (LoopPhase.deciding s.shared.history) s.loop
    dsimp only
    cases checked : checkSwitch choice (choice.consult packages s.shared answers.response).1
        s.shared.history with
    | error failure =>
      exact ⟨_, _, .cons reads <|
        .cons (.tickError failure.1 answers.updatedAt (.inr ⟨_, decides⟩)) (.nil _), rfl⟩
    | ok =>
      cases rendered : renderTick packages cfg choice
          (choice.consult packages s.shared answers.response).1 answers disk with
      | error failure =>
        exact ⟨_, _, .cons reads <| .cons (.tickError failure.1 answers.updatedAt
          (.inr ⟨_, decides⟩)) (.nil _), rfl⟩
      | ok cfgBytes =>
        have allowed := mapError_eq_ok.mp checked
        exact ⟨_, _, .cons reads <| .cons (.tickDone
          (choice.consult packages s.shared answers.response).2 answers.updatedAt decides allowed)
          (.nil _), rfl⟩

/-- Every switch is an entry of the history, and the history is full when ticks are rejected. -/
structure Counted (agent : TickedAgent) : Prop where
  switches : agent.switches.length ≤ agent.state.shared.history.length
  bounded : agent.state.shared.history.length ≤ 6

variable {packages cfg} {agent next : TickedAgent} {label : TickLabel}

theorem limits_iff_below (counted : Counted agent) (step : TickStep packages cfg agent label next) :
    LimitsSwitches agent label next ↔ BelowLimit packages cfg agent label next := by
  cases step with
  | others => exact Iff.rfl
  | tick answers =>
    unfold LimitsSwitches BelowLimit TickedAgent.tick
    have ends := runOnce_ends packages cfg answers agent.state
    generalize runOnce packages cfg answers agent.state = result at ends
    cases ends with
    | idle without history other =>
      refine iff_of_true (fun limited => ?_) fun ⟨choice, chosen⟩ => absurd chosen (without choice)
      exact absurd (congrArg Message.format limited) other
    | rejected chosen past limited =>
      refine iff_of_false (fun limits => ?_) fun below => absurd (below ⟨_, chosen⟩) (by omega)
      have many := limits limited
      have some : (agent.switchesBefore answers.attemptedAt).length ≤ agent.switches.length :=
        List.length_filter_le ..
      have := counted.switches
      have := counted.bounded
      omega
    | failed few history other =>
      exact iff_of_true (fun limited => absurd (congrArg Message.format limited) other) fun _ => few
    | selected few history other =>
      exact iff_of_true (fun limited => absurd (congrArg Message.format limited) other) fun _ => few

/-- A tick below its limit has each of its switches in the history. -/
theorem counted_step (counted : Counted agent) (step : TickStep packages cfg agent label next)
    (below : BelowLimit packages cfg agent label next) : Counted next := by
  cases step with
  | others state history => exact ⟨history ▸ counted.switches, history ▸ counted.bounded⟩
  | tick answers =>
    unfold BelowLimit at below
    unfold TickedAgent.tick
    have ends := runOnce_ends packages cfg answers agent.state
    generalize runOnce packages cfg answers agent.state = result at ends
    cases ends with
    | idle without history => exact ⟨history ▸ counted.switches, history ▸ counted.bounded⟩
    | rejected chosen past => exact absurd (below ⟨_, chosen⟩) (by omega)
    | failed few history => exact ⟨history ▸ counted.switches, history ▸ counted.bounded⟩
    | selected few history =>
      have switches := counted.switches
      constructor <;> dsimp only
      · rw [history, List.length_append, List.length_singleton]
        split_ifs
        · omega
        · rw [List.length_append, List.length_singleton]
          omega
      · rw [history, List.length_append, List.length_singleton]
        omega

/-- In a run of a loop every rejected tick follows more than six switches within a minute exactly
when no tick finds a profile to select after six that have selected one. -/
theorem ticks_limited_iff (packages : TickPackages) (cfg : AgentConfig) (shared : RuntimeState)
    (n : ℕ) (now : Int64) (disk : Disk) (labels : List TickLabel) :
    Always (TickStep packages cfg) LimitsSwitches ⟨⟨installSection cfg n now shared, disk⟩, none, []⟩
        labels ↔
      Always (TickStep packages cfg) (BelowLimit packages cfg)
        ⟨⟨installSection cfg n now shared, disk⟩, none, []⟩ labels :=
  always_iff (motive := Counted) (fun _ _ _ _ counted step => limits_iff_below counted step)
    (fun _ _ _ _ counted step below => counted_step counted step below)
    ⟨Nat.zero_le _, Nat.zero_le _⟩

def steadyProfile : Profile :=
  { id := lit "p1"
    family := familyReality
    enabled := true
    endpoint := ⟨lit "vpn.example", 443, lit "dual"⟩ }

def steadyPackages : TickPackages where
  engine := profileEngine fun _ _ => .error .parse
  aead := fun _ => clearAead
  sorter := .stable
  quoted := id
  onAndroid := false

/-- A state directory with one profile, and a template of its family. -/
def steadyDisk : Disk := fun path =>
  if path = lit "/state/profiles.enc" then
    .holding (Store.save clearAead zeroNonce (some [steadyProfile]))
  else if path = lit "/templates/reality.json" then
    .holding (lit ("\x7b\"type\":\"vless\",\"server\":\"\x7b\x7b.Endpoint.Host\x7d\x7d\"," ++
      "\"server_port\":443,\"uuid\":\"u\",\"flow\":\"f\"\x7d"))
  else .absent

def steadyConfig : AgentConfig :=
  { stateDir := lit "/state"
    masterKey := List.replicate 32 0x6B
    templatesDir := lit "/templates"
    adaptiveMode := true }

/-- What a tick gets at a time, if nothing fails. -/
def answersAt (now : Int64) : TickAnswers where
  clock := ⟨now, now, now⟩
  attemptedAt := now
  nonce := zeroNonce
  updatedAt := now

/-- What the steady agent settles on with what it has learned. -/
def steadyChoice (loaded : AdaptiveState) (now : Int64) : TickChoice :=
  let adaptive := loaded.setEnabled true
  let (selected, decision, ranked) :=
    Engine.selectProfile ⟨some adaptive⟩ .stable [steadyProfile] ⟨now, now, now⟩
  { key := recordedMasterKey
    adaptive := adaptive.ensureDefaults
    selected
    decision
    ranked
    reason := if isBlank decision.reason then
      lit "policy score=" ++ formatTenths ((ranked.head?.map (·.score)).getD 0)
    else decision.reason }

/-- The disk of the steady agent, with what it has learned. -/
structure SteadyDisk (disk : Disk) (loaded : AdaptiveState) : Prop where
  profiles : disk (lit "/state/profiles.enc") = steadyDisk (lit "/state/profiles.enc")
  templates : disk (lit "/state/templates.enc") = .absent
  template : disk (lit "/templates/reality.json") = steadyDisk (lit "/templates/reality.json")
  adaptive : loadAdaptive clearAead (disk (lit "/state/adaptive.enc")) = .ok loaded

/-- The one profile can be selected. -/
structure SteadyPick (loaded : AdaptiveState) (now : Int64) : Prop where
  selected : (steadyChoice loaded now).selected = steadyProfile.trusted
  ranked : (steadyChoice loaded now).ranked.map (·.profile.id) = [lit "p1"]

theorem SteadyDisk.choice {disk : Disk} {loaded : AdaptiveState} (steady : SteadyDisk disk loaded)
    {now : Int64} (pick : SteadyPick loaded now) :
    chooseProfile steadyPackages steadyConfig (answersAt now) disk =
      .ok (steadyChoice loaded now) := by
  have key : parseMasterKey steadyConfig.masterKey = .ok ⟨List.replicate 32 0x6B, rfl⟩ := by
    decide
  have paths : pathJoin steadyConfig.stateDir (lit "profiles.enc") = lit "/state/profiles.enc" ∧
      adaptivePath steadyConfig = lit "/state/adaptive.enc" := by decide
  have profiles : loadProfiles clearAead (disk (lit "/state/profiles.enc")) = .ok [steadyProfile] := by
    have file : steadyDisk (lit "/state/profiles.enc") =
        .holding (Store.save clearAead zeroNonce (appended [steadyProfile])) := if_pos rfl
    have back := @Store.load_save clearAead zeroNonce [steadyProfile] (by decide)
    rw [steady.profiles, file, loadProfiles, StoreFile.load, back]
  have candidates : [steadyProfile].filter (fun p => p.enabled && !p.manualDisabled) =
      [steadyProfile] := rfl
  have ranked : (steadyChoice loaded now).ranked ≠ [] := by
    intro none
    have listed := pick.ranked
    rw [none] at listed
    cases listed
  simp only [chooseProfile, bind_eq_ok, require_eq_ok, exists_const, mapError_eq_ok, pure_eq_ok]
  refine ⟨_, key, rfl, rfl, [steadyProfile], ?_, List.cons_ne_nil _ _, rfl, loaded, ?_, ranked, rfl⟩
  · rw [paths.1]
    exact profiles
  · rw [paths.2]
    exact steady.adaptive

theorem SteadyDisk.renders {disk : Disk} {loaded : AdaptiveState} (steady : SteadyDisk disk loaded)
    (choice : TickChoice) (now : Int64) :
    ∃ cfgBytes, renderTick steadyPackages steadyConfig choice steadyProfile.trusted (answersAt now) disk =
      .ok cfgBytes := by
  have paths : templatesPath steadyConfig = lit "/state/templates.enc" ∧
      pathJoin steadyConfig.templatesDir (pathClean (steadyProfile.trusted.family ++ lit ".json")) =
        lit "/templates/reality.json" := by decide
  have found : resolveTemplateText steadyConfig clearAead steadyProfile.trusted disk =
      resolveTemplateText steadyConfig clearAead steadyProfile.trusted steadyDisk := by
    have templates : steadyDisk (lit "/state/templates.enc") = .absent := by decide
    unfold resolveTemplateText Disk.read
    have own : steadyProfile.trusted.templateRef = [] := rfl
    simp only [paths.1, steady.templates, templates, if_pos own, paths.2, steady.template]
  have renders : ∃ cfgBytes, renderTick steadyPackages steadyConfig (steadyChoice {} 0) steadyProfile.trusted
      (answersAt 0) steadyDisk = .ok cfgBytes := by
    cases rendered : renderTick steadyPackages steadyConfig (steadyChoice {} 0) steadyProfile.trusted
        (answersAt 0) steadyDisk with
    | ok cfgBytes => exact ⟨cfgBytes, rfl⟩
    | error failure =>
      have renders : (renderTick steadyPackages steadyConfig (steadyChoice {} 0) steadyProfile.trusted
        (answersAt 0) steadyDisk).toBool = true := by decide +kernel
      rw [rendered] at renders
      cases renders
  unfold renderTick at renders ⊢
  exact found ▸ renders

/-- What the steady agent saves after a tick. -/
def steadySaved (loaded : AdaptiveState) (now : Int64) : AdaptiveState :=
  ((steadyChoice loaded now).adaptive.recordSelection (lit "p1")).recordAttempt (lit "p1")
    successSignal [] now

/-- The steady agent after some ticks. -/
structure SteadyAgent (agent : TickedAgent) (loaded : AdaptiveState) (ticks : ℕ) : Prop where
  disk : SteadyDisk agent.state.disk loaded
  pi : agent.state.shared.pi = none
  history : agent.state.shared.history.length = ticks
  switches : agent.switches.length ≤ 1
  first : agent.current ≠ some (lit "p1") → agent.switches = []

theorem SteadyDisk.update {disk : Disk} {loaded : AdaptiveState} (steady : SteadyDisk disk loaded)
    (cfgBytes : Bytes) :
    SteadyDisk (Function.update disk (configPath steadyConfig) (.holding cfgBytes)) loaded := by
  have rest (own : GoString) (other : own ≠ configPath steadyConfig) :
      Function.update disk (configPath steadyConfig) (.holding cfgBytes) own = disk own :=
    Function.update_of_ne other ..
  refine ⟨?_, ?_, ?_, ?_⟩
  · rw [rest _ (by decide)]
    exact steady.profiles
  · rw [rest _ (by decide)]
    exact steady.templates
  · rw [rest _ (by decide)]
    exact steady.template
  · rw [rest _ (by decide)]
    exact steady.adaptive

theorem SteadyDisk.save {disk : Disk} {loaded : AdaptiveState} (steady : SteadyDisk disk loaded)
    (choice : TickChoice) (now : Int64) (saved : AdaptiveState) :
    SteadyDisk (saveAdaptive steadyPackages steadyConfig choice (answersAt now) saved disk)
      saved.reloaded := by
  have path : adaptivePath steadyConfig = lit "/state/adaptive.enc" := by decide
  have rest (own : GoString) (apart : own ≠ adaptivePath steadyConfig) :
      saveAdaptive steadyPackages steadyConfig choice (answersAt now) saved disk own = disk own :=
    Function.update_of_ne apart ..
  refine ⟨?_, ?_, ?_, ?_⟩
  · rw [rest _ (by decide)]
    exact steady.profiles
  · rw [rest _ (by decide)]
    exact steady.templates
  · rw [rest _ (by decide)]
    exact steady.template
  · rw [saveAdaptive, path, Function.update_self]
    exact AdaptiveStore.load_save clearAead zeroNonce saved

theorem SteadyPick.known {loaded : AdaptiveState} {now : Int64} (pick : SteadyPick loaded now) :
    steadyProfile.trusted.id ∈ (steadyChoice loaded now).ranked.map (·.profile.id) := by
  rw [pick.ranked]
  exact List.mem_singleton_self _

theorem SteadyAgent.consult {agent : TickedAgent} {loaded : AdaptiveState} {ticks : ℕ}
    (steady : SteadyAgent agent loaded ticks) {now : Int64} (pick : SteadyPick loaded now) :
    (steadyChoice loaded now).consult steadyPackages agent.state.shared (answersAt now).response =
      (steadyProfile.trusted, (steadyChoice loaded now).reason) := by
  rw [TickChoice.consult, if_neg (by simp [steady.pi]), pick.selected]

theorem SteadyAgent.tick {agent : TickedAgent} {loaded : AdaptiveState} {ticks : ℕ}
    (steady : SteadyAgent agent loaded ticks) (few : ticks < 6) (now : Int64)
    (pick : SteadyPick loaded now) :
    SteadyAgent (agent.tick steadyPackages steadyConfig (answersAt now))
      (steadySaved loaded now).reloaded (ticks + 1) := by
  obtain ⟨cfgBytes, renders⟩ := steady.disk.renders (steadyChoice loaded now) now
  have ran : runOnce steadyPackages steadyConfig (answersAt now) agent.state =
      ({ shared := tickSection (lit "p1") (steadyChoice loaded now).reason now agent.state.shared
         disk := saveAdaptive steadyPackages steadyConfig (steadyChoice loaded now) (answersAt now)
           (steadySaved loaded now)
           (Function.update agent.state.disk (configPath steadyConfig) (.holding cfgBytes)) },
        some (lit "p1")) := by
    rw [runOnce, steady.disk.choice pick]
    simp only [steady.consult pick, checkSwitch_eq pick.known, if_pos (steady.history ▸ few)]
    rw [show (Except.ok () >>= fun _ => renderTick _ _ _ _ _ _ : Except (Message × GoString) Bytes) = _
      from renders]
    rfl
  rw [TickedAgent.tick, ran]
  refine ⟨(steady.disk.update cfgBytes).save _ now _, steady.pi, ?_, ?_, fun other => absurd rfl other⟩
  · have short : ¬ (agent.state.shared.history ++ [lit "p1"]).length > 8 := by
      rw [List.length_append, steady.history, List.length_singleton]
      omega
    change (if _ then _ else _ : List GoString).length = _
    rw [if_neg short, List.length_append, steady.history, List.length_singleton]
  · dsimp only
    split_ifs with same
    · exact steady.switches
    · rw [steady.first same]
      exact le_rfl

theorem SteadyAgent.rejected {agent : TickedAgent} {loaded : AdaptiveState}
    (steady : SteadyAgent agent loaded 6) {now : Int64} (pick : SteadyPick loaded now) :
    ¬ LimitsSwitches agent (.tick (answersAt now))
      (agent.tick steadyPackages steadyConfig (answersAt now)) := by
  intro limits
  have full : ¬ agent.state.shared.history.length < 6 := by rw [steady.history]; exact lt_irrefl 6
  have limited : (agent.tick steadyPackages steadyConfig (answersAt now)).state.shared.status.lastError =
      rateLimited := by
    rw [TickedAgent.tick, runOnce, steady.disk.choice pick]
    simp only [steady.consult pick, checkSwitch_eq pick.known, if_neg full]
    rfl
  have many := (limits limited).trans_le (List.length_filter_le _ _)
  have few := steady.switches
  omega

/-- The seventh tick that selects one and the same profile is rejected. -/
theorem steady_rejected :
    ¬ Always (TickStep steadyPackages steadyConfig) LimitsSwitches
      ⟨⟨installSection steadyConfig 0 1000 {}, steadyDisk⟩, none, []⟩
      ([1000, 1020, 1040, 1060, 1080, 1100, 1120].map fun now => .tick (answersAt now)) := by
  intro always
  have start : SteadyAgent ⟨⟨installSection steadyConfig 0 1000 {}, steadyDisk⟩, none, []⟩
      (newAdaptiveState 80) 0 :=
    ⟨⟨rfl, by decide, rfl, by decide⟩, rfl, rfl, Nat.zero_le 1, fun _ => rfl⟩
  have second := start.tick (by decide) 1000 ⟨by decide, by decide⟩
  have third := second.tick (by decide) 1020 ⟨by decide, by decide⟩
  have fourth := third.tick (by decide) 1040 ⟨by decide, by decide⟩
  have fifth := fourth.tick (by decide) 1060 ⟨by decide, by decide⟩
  have sixth := fifth.tick (by decide) 1080 ⟨by decide, by decide⟩
  have seventh := sixth.tick (by decide) 1100 ⟨by decide, by decide⟩
  have always := (always _ (.tick _)).2 _ (.tick _)
  have always := (always.2 _ (.tick _)).2 _ (.tick _)
  have always := (always.2 _ (.tick _)).2 _ (.tick _)
  refine seventh.rejected ?_ (always.2 _ (.tick _)).1
  exact ⟨by decide, by decide⟩

end ShadowNet
