import ShadowNet.Go.Loop
import ShadowNet.Policy.Adaptive
import ShadowNet.Sing.Render

/-! # The attempts of a connect run

`runWithResolved` once it has ranked the profiles and settled on one of them: it tries the profiles in
turn, up to a limit, until one of them starts and answers the probe. A profile that fails at its
start or at its probe is put on a list, and the run goes on with the next; the state file is written
when a profile runs and when none is left. Every other failure ends the run at once.
-/

namespace ShadowNet.Inside

open Go Go.Json

/-! ## Data -/

structure ProbeResult where
  status : GoString := []
  reason : GoString := []
  targetURL : GoString := []
  proxyURL : GoString := []
  httpStatus : Int64 := 0
  durationMS : Int64 := 0
  error : GoString := []
  observedAt : Int64 := 0
deriving DecidableEq

structure AttemptState where
  attempt : Int64
  profileID : GoString
  family : GoString
  configPath : GoString
  singBoxPID : Int64
  probe : ProbeResult
deriving DecidableEq

/-- What the state file holds. -/
structure AgentState where
  stateDir : GoString := []
  profilesLoaded : Int64 := 0
  selectedProfileID : GoString := []
  selectionReason : GoString := []
  fallbackCandidates : List GoString := []
  configPath : GoString := []
  singBoxBinary : GoString := []
  singBoxPID : Int64 := 0
  status : GoString := []
  probe : ProbeResult := {}
  attempts : List AttemptState := []
  updatedAtUnix : Int64 := 0
deriving DecidableEq

structure Options where
  stateDir : GoString
  templatesDir : GoString
  singBoxBin : GoString
  renderOnly : Bool := false
  validateOnly : Bool := false
  probeURL : GoString
  probeProxyAddr : GoString
  maxAttempts : Int64
  runtimeAPIAddr : GoString := []
  runtimeAPIKeepAlive : Bool := false

/-- What the runtime API tells of a run. -/
structure RuntimeSnapshot where
  status : GoString := lit "disconnected"
  activeProfile : GoString := []
  latencyMs : Int64 := 0
  failures : List GoString := []
deriving DecidableEq

/-- An error with what `errors.As` and `errors.Is` find in it. -/
structure CallError where
  text : GoString
  dns : Bool := false
  deadline : Bool := false
  timeout : Bool := false

/-- How `ApplyAndReload` ends. -/
inductive StartAnswer where
  | started (pid : Int64)
  | binaryNotFound (err : CallError)
  | failed (err : CallError)

/-- How `ValidateConfig` ends. -/
inductive CheckAnswer where
  | accepted
  | binaryNotFound
  | rejected

/-- What a run gets from the operating system, sing-box and the network during one attempt. -/
structure AttemptAnswers where
  /-- What the template store loads. -/
  templates : Option (Map GoString GoString)
  readFile : GoString → Option Bytes
  writesConfig : Bool := true
  check : CheckAnswer := .accepted
  start : StartAnswer
  /-- The error of waiting for the proxy to listen. -/
  waitErr : Option GoString := none
  probed : ProbeResult := {}
  /-- The end of what sing-box has written to its standard error. -/
  tail : GoString := []
  observedAt : Int64 := 0
  updatedAt : Int64 := 0
  recordedAt : Int64 := 0
  writesState : Bool := true

/-- What a run has settled on before its first attempt, and what it gets from outside. -/
structure RunContext where
  engine : TextTemplate.Engine Profile
  onAndroid : Bool
  opts : Options
  profilesLoaded : Int64
  ranked : List Profile
  finalSelected : Profile
  finalReason : GoString
  fallbackCandidates : List GoString
  configPath : GoString
  answers : ℕ → AttemptAnswers
  /-- The clock and the state file after the last attempt. -/
  endsAt : Int64
  writesLast : Bool

/-- The variables of a run, and what it has written and announced. -/
structure RunState where
  attempts : List AttemptState := []
  lastState : AgentState := {}
  switches : ℕ := 0
  loopGuard : Map GoString ℕ := ∅
  adaptive : AdaptiveState
  snapshot : RuntimeSnapshot
  /-- The states that have been written to the state file. -/
  written : List AgentState := []
  /-- The states written, each with what the runtime API told at that moment. -/
  served : List (AgentState × RuntimeSnapshot) := []
  /-- The profiles that the run has said it is starting with. -/
  announced : List GoString := []

/-! ## Failures -/

/-- `e2e.ClassifyError`. -/
def classifyError (err : Option CallError) (singBoxLogTail : GoString) : GoString :=
  match err with
  | none => lit "OK"
  | some err =>
      let combined := toLower err.text ++ 0x0A :: toLower singBoxLogTail
      let has (text : String) : Bool := contains combined (lit text)
      if err.dns then lit "DNS_FAILURE"
      else if err.deadline then lit "TIMEOUT"
      else if err.timeout then lit "TIMEOUT"
      else if has "sing-box check failed" || has "invalid" && has "config" then lit "CONFIG_ERROR"
      else if has "binary not found" || has "no such file" && has "sing-box" then
        lit "BINARY_MISSING"
      else if has "no such host" || has "dns" && has "failed" then lit "DNS_FAILURE"
      else if has "i/o timeout" || has "context deadline exceeded" then lit "TIMEOUT"
      else if has "connection refused" || has "network is unreachable" || has "no route to host" ||
          has "failed to connect outbound" || has "handshake" && has "failed" then
        lit "NETWORK_BLOCKED"
      else lit "UNKNOWN"

def signalForFailure (latencyMS : Int64) (reason : GoString) : AttemptSignal :=
  let signal : AttemptSignal :=
    { latencyMS, connectOK := false, dnsOK := true, tcpHandshake := true, tlsSuccess := false }
  if reason = lit "DNS_FAILURE" then { signal with dnsOK := false, tcpHandshake := false }
  else if reason = lit "TIMEOUT" then { signal with tcpHandshake := false }
  else if reason = lit "NETWORK_BLOCKED" then { signal with tcpHandshake := false }
  else if reason ∈ [lit "BINARY_MISSING", lit "CONFIG_ERROR"] then
    { signal with dnsOK := true, tcpHandshake := false }
  else signal

def successSignal (latencyMS : Int64) : AttemptSignal :=
  { latencyMS, connectOK := true, dnsOK := true, tcpHandshake := true, tlsSuccess := true }

def binaryMissing : Message :=
  ⟨"sing-box binary not found.\n→ Install sing-box or set --sing-box-bin to its path.", [.foreign]⟩

/-! ## Before an attempt -/

/-- `validateAction`: the guard that it has counted in, and the error. -/
def validateAction (action profileID : GoString) (known : List GoString)
    (switchCount maxPerMinute : ℕ) (loopGuard : Map GoString ℕ) (maxAttempts : ℕ) :
    Map GoString ℕ × Option Message :=
  if isBlank action then (loopGuard, some ⟨"missing action", []⟩)
  else if profileID ∉ known then (loopGuard, some ⟨"unknown profile %q", [.str profileID]⟩)
  else if 0 < maxPerMinute ∧ maxPerMinute < switchCount then
    (loopGuard, some ⟨"rate limit exceeded", []⟩)
  else if action = lit "switch_profile" then
    let count := (loopGuard.find? profileID).getD 0 + 1
    (loopGuard.insert profileID count,
      if 0 < maxAttempts ∧ maxAttempts < count then some ⟨"loop protection triggered", []⟩ else none)
  else (loopGuard, none)

/-- A template in the store that is not blank. -/
def storedTemplate (templates : Map GoString GoString) (key : GoString) : Option GoString :=
  (templates.find? key).filter fun text => !isBlank text

/-- The name of the file that has the template of a profile. -/
def templateFileName (p : Profile) : GoString :=
  if p.templateRef = [] then p.family ++ lit ".json"
  else if hasSuffix (toLower p.templateRef) (lit ".json") then p.templateRef
  else p.templateRef ++ lit ".json"

def resolveTemplateText (p : Profile) (templates : Option (Map GoString GoString))
    (templatesDir : GoString) (readFile : GoString → Option Bytes) : Except Message Bytes :=
  let stored := templates.bind fun templates =>
    ((if p.templateRef = [] then none else storedTemplate templates p.templateRef).or
      (storedTemplate templates p.family))
  match stored with
  | some text => .ok text
  | none =>
      let full := pathJoin templatesDir (pathClean (templateFileName p))
      match readFile full with
      | some text => .ok text
      | none => .error ⟨"missing outbound template for profile %q (looked for %s): %w",
          [.str p.id, .str full, .foreign]⟩

/-! ## Attempts -/

variable (run : RunContext)

def RunContext.probeEnabled : Bool := !isBlank run.opts.probeURL

def RunContext.probeProxyURL : GoString :=
  if contains run.opts.probeProxyAddr (lit "://") then run.opts.probeProxyAddr
  else lit "http://" ++ run.opts.probeProxyAddr

def RunContext.renderOpts : RenderOptions :=
  if run.probeEnabled then { probeListenAddr := run.opts.probeProxyAddr, disableTun := true } else {}

/-- The profiles in the order of the attempts. -/
def RunContext.ordered : List Profile :=
  run.finalSelected :: run.ranked.filter fun p => p.id ≠ run.finalSelected.id

def RunContext.maxAttempts : ℕ :=
  min (if run.opts.maxAttempts < 1 then 1 else run.opts.maxAttempts).toInt.toNat run.ordered.length

/-- A state of the run, as it goes into the state file. -/
def RunContext.agentState (selectedID : GoString) (singBoxPID : Int64) (status : GoString)
    (probe : ProbeResult) (attempts : List AttemptState) (updatedAtUnix : Int64) : AgentState where
  stateDir := run.opts.stateDir
  profilesLoaded := run.profilesLoaded
  selectedProfileID := selectedID
  selectionReason := run.finalReason
  fallbackCandidates := run.fallbackCandidates
  configPath := run.configPath
  singBoxBinary := run.opts.singBoxBin
  singBoxPID
  status
  probe
  attempts
  updatedAtUnix

def RunContext.failedProbe (reason error : GoString) (observedAt : Int64) : ProbeResult where
  status := lit "failed"
  reason
  targetURL := run.opts.probeURL
  proxyURL := run.probeProxyURL
  error
  observedAt

def RunContext.skippedProbe (observedAt : Int64) : ProbeResult where
  status := lit "skipped"
  reason := lit "UNKNOWN"
  targetURL := run.opts.probeURL
  proxyURL := run.probeProxyURL
  observedAt

/-- `writeState`. -/
def RunState.write (s : RunState) (st : AgentState) (writes : Bool) : RunState :=
  if writes then
    { s with written := s.written ++ [st], served := s.served ++ [(st, s.snapshot)] }
  else s

def RunState.addFailure (s : RunState) (reason : GoString) : RunState :=
  { s with snapshot := { s.snapshot with failures := s.snapshot.failures ++ [reason] } }

def RunState.recordAttempt (s : RunState) (p : Profile) (signal : AttemptSignal) (failure : GoString)
    (now : Int64) : RunState :=
  { s with adaptive := s.adaptive.recordAttempt p.id signal failure now }

/-- A profile that has failed at its start or at its probe goes on the list. -/
def RunState.failed (s : RunState) (entry : AttemptState) (st : List AttemptState → AgentState) :
    RunState :=
  { s with attempts := s.attempts ++ [entry], lastState := st (s.attempts ++ [entry]) }

/-- The exit of a run that is to render only. -/
def RunContext.rendered (a : AttemptAnswers) (p : Profile) (s : RunState) : RunState × Option Message :=
  let st := run.agentState p.id 0 (lit "rendered") (run.skippedProbe a.observedAt) [] a.updatedAt
  (s.write st a.writesState, if a.writesState then none else some ⟨"%w", [.foreign]⟩)

/-- The exit of a run that is to validate only. -/
def RunContext.validated (a : AttemptAnswers) (p : Profile) (s : RunState) :
    RunState × Option Message :=
  let st := run.agentState p.id 0 (lit "validated") (run.skippedProbe a.observedAt) [] a.updatedAt
  match a.check with
  | .accepted => (s.write st a.writesState, if a.writesState then none else some ⟨"%w", [.foreign]⟩)
  | .binaryNotFound => (s.write st a.writesState, some binaryMissing)
  | .rejected => (s, some ⟨"sing-box rejected the rendered config", [.foreign]⟩)

/-- The exit of a run without sing-box. -/
def RunContext.withoutBinary (a : AttemptAnswers) (p : Profile) (err : CallError) (s : RunState) :
    RunState × Option Message :=
  let reason := lit "BINARY_MISSING"
  let st := run.agentState p.id 0 (lit "failed") (run.failedProbe reason err.text a.observedAt) []
    a.updatedAt
  ((s.write st a.writesState).recordAttempt p (signalForFailure 0 reason) reason a.recordedAt,
    some binaryMissing)

/-- A profile with which sing-box does not start. -/
def RunContext.startFailed (a : AttemptAnswers) (i : ℕ) (p : Profile) (err : CallError)
    (s : RunState) : RunState :=
  let reason := classifyError (some err) a.tail
  let probe := run.failedProbe reason err.text a.observedAt
  let entry : AttemptState := ⟨Int64.ofNat (i + 1), p.id, p.family, run.configPath, 0, probe⟩
  ((s.addFailure reason).recordAttempt p (signalForFailure 0 reason) reason a.recordedAt).failed entry
    fun attempts => run.agentState p.id 0 (lit "failed") probe attempts a.updatedAt

/-- What the probe says once sing-box runs. -/
def RunContext.probe (a : AttemptAnswers) : ProbeResult :=
  if run.probeEnabled then
    match a.waitErr with
    | some text => run.failedProbe (lit "TIMEOUT") (lit "proxy not ready: " ++ text) a.observedAt
    | none =>
        if a.probed.status = lit "ok" then a.probed
        else { a.probed with reason := classifyError (some ⟨a.probed.error, false, false, false⟩) a.tail }
  else run.skippedProbe a.observedAt

def RunContext.probeFails (a : AttemptAnswers) : Bool :=
  run.probeEnabled && (run.probe a).status ≠ lit "ok"

/-- What the probe leaves behind. -/
def RunContext.observe (a : AttemptAnswers) (p : Profile) (s : RunState) : RunState :=
  let probe := run.probe a
  if run.probeFails a then
    (s.addFailure probe.reason).recordAttempt p (signalForFailure probe.durationMS probe.reason)
      probe.reason a.recordedAt
  else if run.probeEnabled then
    { s with snapshot := { s.snapshot with latencyMs := probe.durationMS, status := lit "connected" } }
      |>.recordAttempt p (successSignal probe.durationMS) [] a.recordedAt
  else s.recordAttempt p (successSignal 0) [] a.recordedAt

/-- The exit of a run with which sing-box runs; with the runtime API it waits for a signal first. -/
def RunContext.running (a : AttemptAnswers) (p : Profile) (pid : Int64) (s : RunState) :
    RunState × Option Message :=
  let s := s.write (run.agentState p.id pid (lit "running") (run.probe a) s.attempts a.updatedAt)
    a.writesState
  if a.writesState = false then (s, some ⟨"Failed to write state file", [.foreign]⟩)
  else if !run.opts.runtimeAPIKeepAlive || isBlank run.opts.runtimeAPIAddr then (s, none)
  else ({ s with snapshot := { s.snapshot with status := lit "disconnected" } }, none)

/-- One round of the attempt loop; an exit from the run leaves the loop. -/
def RunContext.attempt (s : RunState) (item : Profile × ℕ) :
    Except (RunState × Option Message) RunState := do
  let (p, i) := item
  let a := run.answers i
  let s := { s with switches := s.switches + 1 }
  let (loopGuard, rejected) := validateAction (lit "switch_profile") p.id
    (run.ordered.map (·.id)) s.switches 6 s.loopGuard run.maxAttempts
  let s := { s with loopGuard }
  match rejected with
  | some message => .error (s, some ⟨"action rejected: " ++ message.format, message.args⟩)
  | none =>
  let s := { s with
    snapshot := { s.snapshot with activeProfile := p.id }
    announced := s.announced ++ [p.id] }
  match resolveTemplateText p a.templates run.opts.templatesDir a.readFile with
  | .error _ => .error (s, some ⟨"Template resolution failed for selected profile", [.foreign]⟩)
  | .ok templateText =>
  match renderConfigToFile run.engine run.onAndroid p templateText run.renderOpts a.writesConfig with
  | .error _ =>
      .error (s, some ⟨"Failed to render sing-box config for selected profile", [.foreign]⟩)
  | .ok _ =>
  if run.opts.renderOnly then .error (run.rendered a p s)
  else if run.opts.validateOnly then .error (run.validated a p s)
  else
    match a.start with
    | .binaryNotFound err => .error (run.withoutBinary a p err s)
    | .failed err => .ok (run.startFailed a i p err s)
    | .started pid =>
        let s := run.observe a p s
        let probe := run.probe a
        let entry : AttemptState := ⟨Int64.ofNat (i + 1), p.id, p.family, run.configPath, pid, probe⟩
        if run.probeFails a then
          .ok (s.failed entry fun attempts =>
            run.agentState p.id pid (lit "failed") probe attempts a.updatedAt)
        else .error (run.running a p pid { s with attempts := s.attempts ++ [entry] })

/-- The exit of a run after its last attempt. -/
def RunContext.exhausted (s : RunState) : RunState × Option Message :=
  let lastState := if s.lastState.updatedAtUnix = 0 then
      run.agentState run.finalSelected.id 0 (lit "failed")
        (run.failedProbe (lit "UNKNOWN") (lit "no attempts completed") run.endsAt) s.attempts run.endsAt
    else s.lastState
  ({ s with lastState }.write lastState run.writesLast,
    some ⟨"Connection failed after %d attempt(s).\n→ Last reason: %s\n→ Try importing a newer " ++
      "bundle or re-running to try a different profile.",
      [.int s.attempts.length, .str lastState.probe.reason]⟩)

def RunContext.start (adaptive : AdaptiveState) : RunState where
  adaptive := adaptive.recordSelection run.finalSelected.id
  snapshot := { status := lit "connecting", activeProfile := run.finalSelected.id }

/-- `runWithResolved` from the attempts on; the error is none where the run succeeds. -/
def RunContext.connect (adaptive : AdaptiveState) : RunState × Option Message :=
  let s := run.start adaptive
  match validateAction (lit "select_profile") run.finalSelected.id (run.ordered.map (·.id)) s.switches
      6 s.loopGuard run.maxAttempts with
  | (loopGuard, some message) =>
      ({ s with loopGuard }, some ⟨"action rejected: " ++ message.format, message.args⟩)
  | (loopGuard, none) =>
      match (run.ordered.take run.maxAttempts).zipIdx.foldlM run.attempt { s with loopGuard } with
      | .error exit => exit
      | .ok s => run.exhausted s

/-! ## What one attempt does -/

/-- How a profile fares when its turn comes. -/
inductive Outcome where
  | templateMissing | renderFails | binaryMissing | startFails | probeFails | succeeds
deriving DecidableEq, Repr

def RunContext.outcome (item : Profile × ℕ) : Outcome :=
  let a := run.answers item.2
  match resolveTemplateText item.1 a.templates run.opts.templatesDir a.readFile with
  | .error _ => .templateMissing
  | .ok templateText =>
  match renderConfigToFile run.engine run.onAndroid item.1 templateText run.renderOpts
      a.writesConfig with
  | .error _ => .renderFails
  | .ok _ =>
  match a.start with
  | .binaryNotFound _ => .binaryMissing
  | .failed _ => .startFails
  | .started _ => if run.probeFails a then .probeFails else .succeeds

/-- The run goes on to the next profile. -/
def RunContext.FallsBack (item : Profile × ℕ) : Prop :=
  run.outcome item = .startFails ∨ run.outcome item = .probeFails

/-- Why a profile failed at its start or at its probe. -/
def RunContext.failureReason (i : ℕ) : GoString :=
  match (run.answers i).start with
  | .failed err => classifyError (some err) (run.answers i).tail
  | _ => (run.probe (run.answers i)).reason

/-- How an attempt ends in a run that is to connect and whose writes of the state file succeed. -/
inductive AttemptEnds (s : RunState) (item : Profile × ℕ) :
    Except (RunState × Option Message) RunState → Prop
  | rejected {exit : RunState} {message : Message} (limited : 6 ≤ s.switches)
      (written : exit.written = s.written) : AttemptEnds s item (.error (exit, some message))
  | unrendered {exit : RunState} {message : Message}
      (outcome : run.outcome item = .templateMissing ∨ run.outcome item = .renderFails)
      (written : exit.written = s.written) : AttemptEnds s item (.error (exit, some message))
  | withoutBinary {exit : RunState} {message : Message} {st : AgentState}
      (outcome : run.outcome item = .binaryMissing) (written : exit.written = s.written ++ [st])
      (attempts : st.attempts = []) (announced : exit.announced = s.announced ++ [item.1.id]) :
      AttemptEnds s item (.error (exit, some message))
  | failed {next : RunState} {entry : AttemptState} (spare : s.switches < 6)
      (outcome : run.FallsBack item) (switches : next.switches = s.switches + 1)
      (loopGuard : next.loopGuard =
        s.loopGuard.insert item.1.id ((s.loopGuard.find? item.1.id).getD 0 + 1))
      (written : next.written = s.written) (announced : next.announced = s.announced ++ [item.1.id])
      (names : entry.profileID = item.1.id) (reason : entry.probe.reason = run.failureReason item.2)
      (attempts : next.attempts = s.attempts ++ [entry])
      (status : next.lastState.status = lit "failed")
      (listed : next.lastState.attempts = next.attempts) : AttemptEnds s item (.ok next)
  | succeeded {exit : RunState} {st : AgentState} (spare : s.switches < 6)
      (outcome : run.outcome item = .succeeds) (written : exit.written = s.written ++ [st])
      (status : st.status = lit "running") (selected : st.selectedProfileID = item.1.id) :
      AttemptEnds s item (.error (exit, none))

/-- A run that is to connect. -/
def RunContext.Connects : Prop := run.opts.renderOnly = false ∧ run.opts.validateOnly = false

variable {run}

/-- A switch to a known profile is refused only past the limit of switches. -/
theorem validateAction_switch {profileID : GoString} {known : List GoString} {switches limit : ℕ}
    {loopGuard : Map GoString ℕ} (member : profileID ∈ known)
    (guarded : (loopGuard.find? profileID).getD 0 < limit) :
    (6 < switches ∧ validateAction (lit "switch_profile") profileID known switches 6 loopGuard limit =
        (loopGuard, some ⟨"rate limit exceeded", []⟩)) ∨
      (switches ≤ 6 ∧
        validateAction (lit "switch_profile") profileID known switches 6 loopGuard limit =
          (loopGuard.insert profileID ((loopGuard.find? profileID).getD 0 + 1), none)) := by
  have named : ¬ isBlank (lit "switch_profile") = true := by decide
  unfold validateAction
  rw [if_neg named, if_neg (not_not.mpr member)]
  by_cases past : 6 < switches
  · rw [if_pos ⟨by decide, past⟩]
    exact .inl ⟨past, rfl⟩
  · have unlooped : ¬ (0 < limit ∧ limit < (loopGuard.find? profileID).getD 0 + 1) := by omega
    rw [if_neg (fun both => past both.2), if_pos rfl]
    dsimp only
    rw [if_neg unlooped]
    exact .inr ⟨not_lt.mp past, rfl⟩

theorem observe_written (a : AttemptAnswers) (p : Profile) (s : RunState) :
    (run.observe a p s).written = s.written := by
  unfold RunContext.observe
  split_ifs <;> rfl

theorem running_exit {a : AttemptAnswers} (writes : a.writesState = true) (p : Profile) (pid : Int64)
    (s : RunState) : ∃ exit, run.running a p pid s = (exit, none) ∧ exit.written = s.written ++
      [run.agentState p.id pid (lit "running") (run.probe a) s.attempts a.updatedAt] := by
  unfold RunContext.running
  rw [writes, if_neg (by decide)]
  split_ifs
  · exact ⟨_, rfl, rfl⟩
  · exact ⟨_, rfl, rfl⟩

/-- How an attempt ends, by its outcome. -/
theorem attempt_ends (connects : run.Connects)
    (writes : ∀ i, (run.answers i).writesState = true) {s : RunState} {item : Profile × ℕ}
    (member : item.1 ∈ run.ordered)
    (guarded : (s.loopGuard.find? item.1.id).getD 0 < run.maxAttempts) :
    AttemptEnds run s item (run.attempt s item) := by
  obtain ⟨p, i⟩ := item
  have known : p.id ∈ run.ordered.map (·.id) := List.mem_map_of_mem member
  unfold RunContext.attempt
  dsimp only
  obtain ⟨past, limited⟩ | ⟨spare, counted⟩ := validateAction_switch known guarded
  · rw [limited]
    exact .rejected (Nat.le_of_lt_succ past) rfl
  · rw [counted]
    dsimp only
    cases template : resolveTemplateText p (run.answers i).templates run.opts.templatesDir
        (run.answers i).readFile with
    | error message => exact .unrendered (.inl (by simp [RunContext.outcome, template])) rfl
    | ok text =>
      dsimp only
      cases rendered : renderConfigToFile run.engine run.onAndroid p text run.renderOpts
          (run.answers i).writesConfig with
      | error message =>
        exact .unrendered (.inr (by simp [RunContext.outcome, template, rendered])) rfl
      | ok config =>
        dsimp only
        rw [connects.1, connects.2, if_neg Bool.false_ne_true, if_neg Bool.false_ne_true]
        cases started : (run.answers i).start with
        | binaryNotFound err =>
          have missing : run.outcome (p, i) = .binaryMissing := by
            simp [RunContext.outcome, template, rendered, started]
          dsimp only [RunContext.withoutBinary]
          rw [writes i]
          exact .withoutBinary missing rfl rfl rfl
        | failed err =>
          have stays : run.FallsBack (p, i) :=
            .inl (by simp [RunContext.outcome, template, rendered, started])
          have reason : classifyError (some err) (run.answers i).tail = run.failureReason i := by
            simp [RunContext.failureReason, started]
          exact .failed (by omega) stays rfl rfl rfl rfl rfl reason rfl rfl rfl
        | started pid =>
          have reason : (run.probe (run.answers i)).reason = run.failureReason i := by
            simp [RunContext.failureReason, started]
          dsimp only
          by_cases fails : run.probeFails (run.answers i) = true
          · have stays : run.FallsBack (p, i) :=
              .inr (by simp [RunContext.outcome, template, rendered, started, fails])
            rw [if_pos fails, RunContext.observe, if_pos fails]
            exact .failed (by omega) stays rfl rfl rfl rfl rfl reason rfl rfl rfl
          · have runs : run.outcome (p, i) = .succeeds := by
              simp [RunContext.outcome, template, rendered, started, fails]
            obtain ⟨exit, same, written⟩ := running_exit (writes i) p pid
              { run.observe (run.answers i) p _ with attempts := _ }
            rw [if_neg fails, same]
            exact .succeeded (by omega) runs (written.trans (congrArg (· ++ _) (observe_written ..)))
              rfl rfl

/-- After an attempt that falls back the loop goes on. -/
theorem AttemptEnds.goes_on {s : RunState} {item : Profile × ℕ}
    {result : Except (RunState × Option Message) RunState} (ends : AttemptEnds run s item result)
    (spare : s.switches < 6) (falls : run.FallsBack item) : ∃ next, result = .ok next := by
  cases ends with
  | rejected limited => omega
  | unrendered outcome =>
    rcases falls with same | same <;> simp [same] at outcome
  | withoutBinary outcome =>
    rcases falls with same | same <;> simp [same] at outcome
  | failed => exact ⟨_, rfl⟩
  | succeeded _ outcome =>
    rcases falls with same | same <;> simp [same] at outcome

/-- After one that succeeds it is over. -/
theorem AttemptEnds.succeeds {s : RunState} {item : Profile × ℕ}
    {result : Except (RunState × Option Message) RunState} (ends : AttemptEnds run s item result)
    (spare : s.switches < 6) (succeeds : run.outcome item = .succeeds) :
    ∃ exit st, result = .error (exit, none) ∧ exit.written = s.written ++ [st] ∧
      st.status = lit "running" ∧ st.selectedProfileID = item.1.id := by
  cases ends with
  | rejected limited => omega
  | unrendered outcome => simp [succeeds] at outcome
  | withoutBinary outcome => simp [succeeds] at outcome
  | failed _ outcome => rcases outcome with same | same <;> simp [succeeds] at same
  | succeeded _ _ written status selected => exact ⟨_, _, rfl, written, status, selected⟩

/-! ## What the attempts so far have left -/

/-- The state of a run that has fallen back from some profiles. -/
structure Tried (run : RunContext) (done : List (Profile × ℕ)) (s : RunState) : Prop where
  switches : s.switches = done.length
  few : done.length ≤ 6
  loopGuard : ∀ id, (s.loopGuard.find? id).getD 0 ≤ done.length
  fallsBack : ∀ item ∈ done, run.FallsBack item
  written : s.written = []
  announced : s.announced = done.map (·.1.id)
  attempts : s.attempts.map (fun entry => (entry.profileID, entry.probe.reason)) =
    done.map fun item => (item.1.id, run.failureReason item.2)
  lastState : done ≠ [] → s.lastState.status = lit "failed" ∧ s.lastState.attempts = s.attempts

theorem tried_start (adaptive : AdaptiveState) : Tried run [] (run.start adaptive) where
  switches := rfl
  few := Nat.zero_le _
  loopGuard id := by
    have none : (run.start adaptive).loopGuard.find? id = none := Map.find?_empty id
    rw [none]
    exact le_rfl
  fallsBack _ member := absurd member List.not_mem_nil
  written := rfl
  announced := rfl
  attempts := rfl
  lastState nonempty := absurd rfl nonempty

/-- One more attempt that falls back. -/
theorem tried_next {done : List (Profile × ℕ)} {item : Profile × ℕ} {s next : RunState}
    (tried : Tried run done s) (ends : AttemptEnds run s item (.ok next)) :
    Tried run (done ++ [item]) next := by
  cases ends with
  | failed spare outcome switches loopGuard written announced names reason attempts status listed =>
    have counted := tried.switches
    refine ⟨?_, ?_, fun id => ?_, ?_, ?_, ?_, ?_, fun _ => ⟨status, listed⟩⟩
    · rw [switches, counted, List.length_append, List.length_singleton]
    · rw [List.length_append, List.length_singleton]
      omega
    · have held := tried.loopGuard
      rw [loopGuard, Map.find?_insert, List.length_append, List.length_singleton]
      split_ifs with same
      · exact Nat.succ_le_succ (held item.1.id)
      · exact (held id).trans (Nat.le_succ _)
    · exact List.forall_mem_append.mpr ⟨tried.fallsBack, List.forall_mem_singleton.mpr outcome⟩
    · rw [written, tried.written]
    · rw [announced, tried.announced, List.map_append, List.map_singleton]
    · rw [attempts, List.map_append, tried.attempts, List.map_append, List.map_singleton,
        List.map_singleton, names, reason]

section

variable (connects : run.Connects) (writes : ∀ i, (run.answers i).writesState = true)

include connects writes

theorem tried_attempt {done : List (Profile × ℕ)} {item : Profile × ℕ} {s : RunState}
    (tried : Tried run done s) (member : item.1 ∈ run.ordered) (left : done.length < run.maxAttempts) :
    AttemptEnds run s item (run.attempt s item) :=
  attempt_ends connects writes member (lt_of_le_of_lt (tried.loopGuard _) left)

/-- The run goes through the profiles that it falls back from, as long as there are six at most. -/
theorem tried_through {done : List (Profile × ℕ)} {s : RunState} (tried : Tried run [] s)
    (members : ∀ item ∈ done, item.1 ∈ run.ordered) (falls : ∀ item ∈ done, run.FallsBack item)
    (room : done.length ≤ run.maxAttempts) (few : done.length ≤ 6) :
    ∃ last, done.foldlM run.attempt s = .ok last ∧ Tried run done last := by
  induction done using List.reverseRecOn with
  | nil => exact ⟨s, rfl, tried⟩
  | append_singleton before item ih =>
    rw [List.length_append, List.length_singleton] at room few
    obtain ⟨middle, reached, held⟩ := ih
      (fun each member => members each (List.mem_append_left _ member))
      (fun each member => falls each (List.mem_append_left _ member)) (by omega) (by omega)
    have ends := tried_attempt connects writes held
      (members item (List.mem_append_right _ (List.mem_singleton_self _))) (by omega)
    have outcome := falls item (List.mem_append_right _ (List.mem_singleton_self _))
    have spare : middle.switches < 6 := by
      rw [held.switches]
      omega
    obtain ⟨next, stepped⟩ := ends.goes_on spare outcome
    rw [stepped] at ends
    refine ⟨next, ?_, tried_next held ends⟩
    rw [List.foldlM_append, reached]
    change [item].foldlM run.attempt middle = _
    rw [List.foldlM_cons, stepped]
    rfl

end

/-- The loop as a fold over the numbered attempts. -/
theorem connect_eq (run : RunContext) (adaptive : AdaptiveState) : run.connect adaptive =
    match (run.ordered.take run.maxAttempts).zipIdx.foldlM run.attempt (run.start adaptive) with
    | .error exit => exit
    | .ok s => run.exhausted s := by
  have named : ¬ isBlank (lit "select_profile") = true := by decide
  have known : run.finalSelected.id ∈ run.ordered.map (·.id) :=
    List.mem_map_of_mem (List.mem_cons_self ..)
  have allowed : validateAction (lit "select_profile") run.finalSelected.id (run.ordered.map (·.id))
      (run.start adaptive).switches 6 (run.start adaptive).loopGuard run.maxAttempts =
      ((run.start adaptive).loopGuard, none) := by
    unfold validateAction
    rw [if_neg named, if_neg (not_not.mpr known),
      if_neg (by rintro ⟨-, past⟩; exact absurd past (Nat.not_lt_zero _)),
      if_neg (by decide)]
  unfold RunContext.connect
  dsimp only
  rw [allowed]

/-! ## The profile that runs -/

def trialProfile (i : ℕ) : Profile where
  id := itoa i
  family := familyTUIC
  enabled := true
  endpoint := ⟨lit "h", 443, []⟩

/-- A run without a probe over as many profiles as there are answers; all use one template, which is
there for the attempts marked so. -/
def trialRun (trials : List (StartAnswer × Bool)) : RunContext where
  engine := profileEngine fun _ _ => .error .parse
  onAndroid := false
  opts := {
    stateDir := lit "state", templatesDir := lit "templates", singBoxBin := [], probeURL := []
    probeProxyAddr := [], maxAttempts := 10 }
  profilesLoaded := Int64.ofNat trials.length
  ranked := (List.range trials.length).map trialProfile
  finalSelected := trialProfile 0
  finalReason := lit "policy"
  fallbackCandidates := []
  configPath := lit "config.json"
  answers i := {
    templates := none
    readFile _ := if (trials[i]?.map (·.2)).getD false then
      some (lit "\x7b\"type\":\"direct\"\x7d") else none
    start := (trials[i]?.map (·.1)).getD (.failed ⟨[], false, false, false⟩) }
  endsAt := 1
  writesLast := true

/-- sing-box does not start. -/
def refused : StartAnswer × Bool := (.failed ⟨lit "connection refused", false, false, false⟩, true)

theorem zipIdx_take_split {α : Type} {items : List α} {count k : ℕ} {item : α} (within : k < count)
    (here : items[k]? = some item) : ∃ after,
      (items.take count).zipIdx = (items.take k).zipIdx ++ (item, k) :: after := by
  obtain ⟨bound, same⟩ := List.getElem?_eq_some_iff.mp here
  have split : items.take count = items.take k ++ item :: (items.drop (k + 1)).take (count - k - 1) := by
    obtain ⟨room, rfl⟩ := Nat.exists_eq_add_of_lt within
    rw [show k + room + 1 = k + (room + 1) by omega, List.take_add, List.drop_eq_getElem_cons bound,
      same, List.take_succ_cons]
    congr 3
    omega
  refine ⟨((items.drop (k + 1)).take (count - k - 1)).zipIdx (k + 1), ?_⟩
  rw [split, List.zipIdx_append, List.zipIdx_cons, List.length_take, Nat.min_eq_left bound.le,
    Nat.zero_add]

theorem mem_zipIdx_take {items : List Profile} {count : ℕ} {item : Profile × ℕ}
    (member : item ∈ (items.take count).zipIdx) :
    item.2 < count ∧ items[item.2]? = some item.1 := by
  have here := List.mk_mem_zipIdx_iff_getElem?.mp member
  obtain ⟨bound, -⟩ := List.getElem?_eq_some_iff.mp here
  rw [List.length_take] at bound
  have low : item.2 < count := by omega
  rw [List.getElem?_take_of_lt low] at here
  exact ⟨low, here⟩

/-- A run reaches a profile that succeeds, if it is among the first six and the run falls back from all
before it. -/
theorem connect_reaches {run : RunContext} (connects : run.Connects)
    (writes : ∀ i, (run.answers i).writesState = true) {k : ℕ} {p : Profile}
    (within : k < min run.maxAttempts 6) (here : run.ordered[k]? = some p)
    (succeeds : run.outcome (p, k) = .succeeds)
    (before : ∀ i q, i < k → run.ordered[i]? = some q → run.FallsBack (q, i))
    (adaptive : AdaptiveState) : ∃ last st, run.connect adaptive = (last, none) ∧
      last.written.getLast? = some st ∧ st.status = lit "running" ∧ st.selectedProfileID = p.id := by
  obtain ⟨after, split⟩ := zipIdx_take_split (show k < run.maxAttempts by omega) here
  have front : ((run.ordered.take k).zipIdx).length = k := by
    obtain ⟨bound, -⟩ := List.getElem?_eq_some_iff.mp here
    rw [List.length_zipIdx, List.length_take, Nat.min_eq_left bound.le]
  obtain ⟨middle, reached, tried⟩ := tried_through connects writes (tried_start adaptive)
    (fun item member => List.mem_of_getElem? (mem_zipIdx_take member).2)
    (fun item member => before _ _ (mem_zipIdx_take member).1 (mem_zipIdx_take member).2)
    (show ((run.ordered.take k).zipIdx).length ≤ run.maxAttempts by omega) (by omega)
  have listed : (p, k).1 ∈ run.ordered := List.mem_of_getElem? here
  have ends := tried_attempt connects writes tried listed (by omega)
  have spare : middle.switches < 6 := by
    rw [tried.switches]
    omega
  obtain ⟨exit, st, left, written, status, selected⟩ := ends.succeeds spare succeeds
  refine ⟨exit, st, ?_, ?_, status, selected⟩
  · rw [connect_eq, split, foldlM_leaves reached left]
  · rw [written, tried.written]
    rfl

/-- The second profile connects after the first is refused. -/
theorem second_reached : ∃ last st,
    (trialRun [refused, (.started 7, true)]).connect (newAdaptiveState 80) = (last, none) ∧
      last.written.getLast? = some st ∧ st.status = lit "running" ∧ st.selectedProfileID = lit "1" := by
  have writes : ∀ i, ((trialRun [refused, (.started 7, true)]).answers i).writesState = true :=
    fun _ => rfl
  refine connect_reaches (k := 1) (p := trialProfile 1) ⟨rfl, rfl⟩ writes (by decide) rfl
    (by decide +kernel) (fun i q low here => ?_) _
  obtain rfl : i = 0 := Nat.lt_one_iff.mp low
  obtain rfl := Option.some.inj here
  exact .inl (by decide +kernel)

/-- The seventh profile is never tried. -/
theorem seventh_not_reached : (trialRun (.replicate 6 refused ++ [(.started 7, true)])).Connects ∧
    ((trialRun (.replicate 6 refused ++ [(.started 7, true)])).ranked.map (·.id)).Nodup ∧
    (∀ i < 6, (trialRun (.replicate 6 refused ++ [(.started 7, true)])).outcome (trialProfile i, i) =
      .startFails) ∧
    (trialRun (.replicate 6 refused ++ [(.started 7, true)])).outcome (trialProfile 6, 6) = .succeeds ∧
    (trialRun (.replicate 6 refused ++ [(.started 7, true)])).ordered =
      (List.range 7).map trialProfile ∧
    6 < (trialRun (.replicate 6 refused ++ [(.started 7, true)])).maxAttempts ∧
    ((trialRun (.replicate 6 refused ++ [(.started 7, true)])).connect (newAdaptiveState 80)).2 =
      some ⟨"action rejected: rate limit exceeded", []⟩ ∧
    ((trialRun (.replicate 6 refused ++ [(.started 7, true)])).connect (newAdaptiveState 80)).1.written =
      [] := by
  refine ⟨⟨rfl, rfl⟩, ?_, ?_, ?_, ?_, ?_, ?_, ?_⟩ <;> decide +kernel

/-! ## What a failed run has recorded -/

/-- The state file says that the run failed, and names the profiles it announced with the reasons. -/
def Recorded (run : RunContext) (last : RunState) : Prop :=
  ∃ st, last.written.getLast? = some st ∧ st.status = lit "failed" ∧
    st.attempts.map (fun entry => (entry.profileID, entry.probe.reason)) =
      last.announced.zipIdx.map fun item => (item.1, run.failureReason item.2)

/-- There are six attempts at most, and none of them stops the run. -/
structure RunContext.Exhausts (run : RunContext) : Prop where
  few : run.maxAttempts ≤ 6
  fallsBack : ∀ i p, i < run.maxAttempts → run.ordered[i]? = some p → run.FallsBack (p, i)

theorem RunContext.maxAttempts_pos (run : RunContext) : 0 < run.maxAttempts := by
  have least : 1 ≤ (if run.opts.maxAttempts < 1 then 1 else run.opts.maxAttempts).toInt := by
    split_ifs with low
    · decide
    · rw [Int64.lt_iff_toInt_lt] at low
      exact not_lt.mp low
  have nonempty : 0 < run.ordered.length := Nat.succ_pos _
  unfold RunContext.maxAttempts
  omega

theorem RunContext.length_attempts (run : RunContext) :
    ((run.ordered.take run.maxAttempts).zipIdx).length = run.maxAttempts := by
  rw [List.length_zipIdx, List.length_take, RunContext.maxAttempts]
  exact Nat.min_eq_left (Nat.min_le_right ..)

/-- What holds before the first attempt and is kept by all that go on holds where the run gets to. -/
theorem reached_invariant {run : RunContext} {motive : List (Profile × ℕ) → RunState → Prop}
    {adaptive : AdaptiveState} (initial : motive [] (run.start adaptive))
    (keeps : ∀ done item s next, done.length < run.maxAttempts → item.1 ∈ run.ordered →
      motive done s → run.attempt s item = .ok next → motive (done ++ [item]) next)
    {done rest : List (Profile × ℕ)} {s : RunState}
    (front : (run.ordered.take run.maxAttempts).zipIdx = done ++ rest)
    (reached : done.foldlM run.attempt (run.start adaptive) = .ok s) : motive done s := by
  refine foldlM_invariant (motive := fun done s => ∀ rest,
    (run.ordered.take run.maxAttempts).zipIdx = done ++ rest → motive done s)
    (fun _ _ => initial) ?_ reached rest front
  intro before item middle next held stepped rest front
  rw [List.append_assoc, List.singleton_append] at front
  have size := congrArg List.length front
  rw [run.length_attempts, List.length_append, List.length_cons] at size
  have member : item ∈ (run.ordered.take run.maxAttempts).zipIdx := by
    rw [front]
    exact List.mem_append_right _ (List.mem_cons_self ..)
  exact keeps before item middle next (by omega)
    (List.mem_of_getElem? (mem_zipIdx_take member).2) (held _ front) stepped

theorem tried_of_reached {run : RunContext} (connects : run.Connects)
    (writes : ∀ i, (run.answers i).writesState = true) {done rest : List (Profile × ℕ)}
    {adaptive : AdaptiveState} {s : RunState}
    (front : (run.ordered.take run.maxAttempts).zipIdx = done ++ rest)
    (reached : done.foldlM run.attempt (run.start adaptive) = .ok s) : Tried run done s := by
  refine reached_invariant (tried_start adaptive) ?_ front reached
  intro before item middle next room member tried stepped
  have ends := tried_attempt connects writes tried member room
  rw [stepped] at ends
  exact tried_next tried ends

/-- A run that is left at an attempt has recorded nothing of it. -/
theorem not_recorded_of_left {run : RunContext} {s exit : RunState} {item : Profile × ℕ}
    {message : Message} (fresh : s.written = [])
    (ends : AttemptEnds run s item (.error (exit, some message))) : ¬ Recorded run exit := by
  rintro ⟨st, written, -, listed⟩
  cases ends with
  | rejected _ kept | unrendered _ kept =>
    rw [kept, fresh] at written
    cases written
  | withoutBinary _ kept attempts announced =>
    rw [kept, fresh, List.nil_append, List.getLast?_singleton] at written
    obtain rfl := Option.some.inj written
    rw [attempts, announced] at listed
    have sizes := congrArg List.length listed
    simp at sizes

/-- A run that has tried all profiles has recorded each of them. -/
theorem exhausted_recorded {run : RunContext} {s : RunState} (writesLast : run.writesLast = true)
    (nonempty : run.ordered.take run.maxAttempts ≠ [])
    (tried : Tried run (run.ordered.take run.maxAttempts).zipIdx s) :
    Recorded run (run.exhausted s).1 := by
  have entries : s.attempts.map (fun entry => (entry.profileID, entry.probe.reason)) =
      s.announced.zipIdx.map fun item => (item.1, run.failureReason item.2) := by
    have names : (run.ordered.take run.maxAttempts).zipIdx.map (·.1.id) =
        (run.ordered.take run.maxAttempts).map (·.id) := by
      conv_rhs => rw [← List.zipIdx_map_fst 0 (run.ordered.take run.maxAttempts), List.map_map]
      rfl
    rw [tried.attempts, tried.announced, names, List.zipIdx_map, List.map_map]
    rfl
  have started : (run.ordered.take run.maxAttempts).zipIdx ≠ [] := by
    rwa [Ne, List.zipIdx_eq_nil_iff]
  obtain ⟨status, listed⟩ := tried.lastState started
  unfold RunContext.exhausted
  dsimp only
  rw [writesLast]
  split_ifs with unset
  · refine ⟨_, List.getLast?_concat .., rfl, entries⟩
  · refine ⟨_, List.getLast?_concat .., status, ?_⟩
    rw [listed]
    exact entries

/-- A failed run has recorded its failure exactly if it has gone through all its attempts. -/
theorem recorded_iff {run : RunContext} (connects : run.Connects)
    (writes : ∀ i, (run.answers i).writesState = true) (writesLast : run.writesLast = true)
    {adaptive : AdaptiveState} {last : RunState} {message : Message}
    (failed : run.connect adaptive = (last, some message)) : Recorded run last ↔ run.Exhausts := by
  rw [connect_eq] at failed
  split at failed
  · next exit left =>
    obtain ⟨before, item, after, middle, front, reached, leaves⟩ := foldlM_eq_error.mp left
    have tried := tried_of_reached connects writes front reached
    have size := congrArg List.length front
    rw [run.length_attempts, List.length_append, List.length_cons] at size
    have member : item ∈ (run.ordered.take run.maxAttempts).zipIdx := by
      rw [front]
      exact List.mem_append_right _ (List.mem_cons_self ..)
    obtain ⟨low, here⟩ := mem_zipIdx_take member
    have ends := tried_attempt connects writes tried (List.mem_of_getElem? here) (by omega)
    rw [leaves, failed] at ends
    apply iff_of_false (not_recorded_of_left tried.written ends)
    intro exhausts
    have few := exhausts.few
    obtain ⟨next, stays⟩ := ends.goes_on (by rw [tried.switches]; omega)
      (exhausts.fallsBack _ _ low here)
    cases stays
  · next s through =>
    have tried := tried_of_reached connects writes (List.append_nil _).symm through
    have few := tried.few
    rw [run.length_attempts] at few
    have nonempty : run.ordered.take run.maxAttempts ≠ [] := by
      rw [Ne, List.take_eq_nil_iff, not_or]
      exact ⟨run.maxAttempts_pos.ne', List.cons_ne_nil _ _⟩
    have recorded := exhausted_recorded writesLast nonempty tried
    rw [failed] at recorded
    refine iff_of_true recorded ⟨few, fun i p low here => tried.fallsBack (p, i) ?_⟩
    obtain ⟨after, split⟩ := zipIdx_take_split low here
    rw [split]
    exact List.mem_append_right _ (List.mem_cons_self ..)

/-- Two profiles that are refused. -/
theorem refusals_recorded :
    Recorded (trialRun [refused, refused])
      ((trialRun [refused, refused]).connect (newAdaptiveState 80)).1 := by
  have writes : ∀ i, ((trialRun [refused, refused]).answers i).writesState = true := fun _ => rfl
  have ends : ((trialRun [refused, refused]).connect (newAdaptiveState 80)).2.isSome = true := by
    decide +kernel
  obtain ⟨message, failed⟩ := Option.isSome_iff_exists.mp ends
  have whole : (trialRun [refused, refused]).connect (newAdaptiveState 80) =
      (((trialRun [refused, refused]).connect (newAdaptiveState 80)).1, some message) := by
    rw [← failed]
  refine (recorded_iff ⟨rfl, rfl⟩ writes rfl whole).mpr ⟨by decide, fun i p low here => .inl ?_⟩
  have within : i < 2 := lt_of_lt_of_le low (by decide)
  obtain rfl | rfl : i = 0 ∨ i = 1 := by omega
  · obtain rfl := Option.some.inj here
    decide +kernel
  · obtain rfl := Option.some.inj here
    decide +kernel

/-- A run that finds no template for its second profile fails and writes nothing. -/
theorem missingTemplate_unrecorded : (trialRun [refused, (.started 7, false)]).Connects ∧
    ((trialRun [refused, (.started 7, false)]).connect (newAdaptiveState 80)).2 =
      some ⟨"Template resolution failed for selected profile", [.foreign]⟩ ∧
    ((trialRun [refused, (.started 7, false)]).connect (newAdaptiveState 80)).1.announced =
      [lit "0", lit "1"] ∧
    ((trialRun [refused, (.started 7, false)]).connect (newAdaptiveState 80)).1.written = [] ∧
    ¬ Recorded (trialRun [refused, (.started 7, false)])
      ((trialRun [refused, (.started 7, false)]).connect (newAdaptiveState 80)).1 := by
  have nothing : ((trialRun [refused, (.started 7, false)]).connect (newAdaptiveState 80)).1.written =
      [] := by decide +kernel
  refine ⟨⟨rfl, rfl⟩, by decide +kernel, by decide +kernel, nothing, ?_⟩
  rintro ⟨st, written, -⟩
  rw [nothing] at written
  cases written

end ShadowNet.Inside
