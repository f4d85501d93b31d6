import ShadowNet.Android.SingBoxController
import ShadowNet.Go.History

/-! # The loop of the agent service

Every few seconds `AgentService` asks the bridge for its status, starts sing-box where it does not run,
tests the connection, and recovers from failures. What the bridge, sing-box, the test and the clock
answer is up to them.
-/

namespace ShadowNet.Android

open Go

/-! ## Texts -/

-- `strings.xml`
def statusDetailDisconnected : String := "Not connected."
def statusDetailFailed : String := "Unable to connect. Try again later."
def errorConfigMissing : String := "Import configuration to connect."
def errorConfigInvalid : String := "Configuration is invalid or expired."
def errorNetworkBlocked : String := "Connection blocked by network."

def isNotBlank (text : String) : Bool := !isNullOrBlank (some text)

def trim (text : String) : String :=
  String.ofList
    (((text.toList.dropWhile isWhitespace).reverse.dropWhile isWhitespace).reverse)

def contains (text part : String) : Bool := decide (part.toList <:+: text.toList)

/-- `lowercase()` and `uppercase()` of any text. -/
structure Letters where
  lowercase : String → String
  uppercase : String → String

structure UiState where
  status : String := "Disconnected"
  currentProfile : String := "-"
  lastAction : String := "-"
  lastError : String := ""
  lastErrorDetails : String := ""
deriving DecidableEq

/-- The members of the bridge's status. -/
structure BridgeStatus where
  running : Bool := false
  currentProfile : String := "-"
  lastAction : String := "-"
  lastError : String := ""

/-- A status that is no JSON object is `none`. -/
def fromBridgeStatus : Option BridgeStatus → UiState
  | some obj =>
      { status := if obj.running then "Connected" else "Disconnected"
        currentProfile := obj.currentProfile
        lastAction := obj.lastAction
        lastError := obj.lastError }
  | none => { status := "Error", lastError := "Invalid bridge status" }

def mapBridgeErrorToUi (letters : Letters) (raw : String) : String × String :=
  let msg := trim raw
  let lower := letters.lowercase msg
  if contains lower "no profiles available" then (errorConfigMissing, "No profiles available")
  else if contains lower "bundle invalid" || contains lower "signature" || contains lower "decrypt" ||
      contains lower "expired" || contains lower "unknown signer" || contains lower "replay" then
    (errorConfigInvalid, msg)
  else (statusDetailFailed, msg)

def mapProbeFailureToUi (letters : Letters) (reason details : String) : String × String :=
  let reason := letters.uppercase reason
  if reason = "DNS_FAILURE" ∨ reason = "DNS_BLOCKED" then
    (errorNetworkBlocked, trim ("DNS failure detected\n\n" ++ details))
  else if reason = "TLS_BLOCKED" then
    (errorNetworkBlocked, trim ("TLS handshake blocked\n\n" ++ details))
  else if reason = "TCP_RESET" then
    (errorNetworkBlocked, trim ("Connection reset detected\n\n" ++ details))
  else if reason = "NO_ROUTE" then
    (statusDetailDisconnected, trim ("No route to host\n\n" ++ details))
  else if reason = "TIMEOUT" then (errorNetworkBlocked, trim ("Timeout detected\n\n" ++ details))
  else (statusDetailFailed, trim ("Unknown failure\n\n" ++ details))

/-! ## One turn -/

/-- What the service keeps from one turn to the next. Moments are in milliseconds. -/
structure Monitor where
  restartAttempts : ℕ := 0
  probeFailureCount : Int32 := 0
  bridgeFailureCount : Int32 := 0
  lastProbeAtMs : ℤ := 0
  lastBatteryRestrictedAtMs : ℤ := 0
  lastRecoveryAtMs : ℤ := 0

structure RecoveryAnswers where
  now : ℤ
  configExists : Bool

/-- `ConnectionProbe.ResultInfo`. -/
structure ResultInfo where
  status : String
  reason : String
  httpStatus : Option ℤ := none
  error : Option String := none

structure Battery where
  level : ℤ := 100
  scale : ℤ := 100
  plugged : Bool := false

/-- What a turn is told, in the order in which it asks. -/
structure Answers where
  desired : Bool
  status : Option BridgeStatus
  stillDesired : Bool
  bridgeRecovery : RecoveryAnswers
  cfgExists : Bool
  running : Bool
  runningElse : Bool
  runningAfter : Bool
  now : ℤ
  probe : ResultInfo
  probeRecovery : RecoveryAnswers
  battery : Option Battery
  batteryAt : ℤ

/-- The turn sees sing-box running, and not only starts it. -/
def Answers.seesRunning (a : Answers) : Bool := !(a.cfgExists && !a.running) && a.runningElse

/-- A call of the bridge or the controller. -/
inductive Call where
  | startAgent
  | stopAgent
  | startSingBox
  | stopSingBox
deriving DecidableEq

inductive Action where
  | save (state : UiState)
  | call (call : Call)
  | recovery (now : ℤ) (calls : List Call)
  | probe (now : ℤ)
  | connectionFailure (reason : String) (retryCount : Int32)
  | batteryRestricted (now : ℤ)
deriving DecidableEq

def attemptRecovery (m : Monitor) (asked : RecoveryAnswers) (failureCount : Int32) :
    Monitor × List Action :=
  if asked.now - m.lastRecoveryAtMs < 8000 then (m, [])
  else
    let m := { m with lastRecoveryAtMs := asked.now }
    if failureCount = 1 then
      (m, [.recovery asked.now
        (.stopSingBox :: if asked.configExists then [.startSingBox] else [])])
    else if failureCount = 2 then
      ({ m with restartAttempts := 0 }, [.recovery asked.now [.stopAgent, .startAgent]])
    else (m, [.recovery asked.now []])

def mergeBridgeState (letters : Letters) (m : Monitor) (ui : UiState) (a : Answers) :
    Monitor × List Action × UiState :=
  if !a.stillDesired then
    ({ m with probeFailureCount := 0, bridgeFailureCount := 0 }, [],
      { ui with status := "Disconnected", lastError := "", lastErrorDetails := "" })
  else if isNotBlank ui.lastError then
    let m := { m with bridgeFailureCount := m.bridgeFailureCount + 1 }
    let mapped := mapBridgeErrorToUi letters ui.lastError
    let isConfigError := mapped.1 = errorConfigMissing ∨ mapped.1 = errorConfigInvalid
    if ¬ isConfigError ∧ m.bridgeFailureCount < 3 then
      let (m, recovery) := attemptRecovery m a.bridgeRecovery m.bridgeFailureCount
      (m, recovery, { ui with
        status := "Connecting", lastAction := "Retrying…", lastError := "", lastErrorDetails := "" })
    else
      (m, [], { ui with status := "Error", lastError := mapped.1, lastErrorDetails := mapped.2 })
  else
    let m := { m with bridgeFailureCount := 0 }
    if ui.status ≠ "Connected" then
      (m, [], { ui with status := "Connecting", lastError := "", lastErrorDetails := "" })
    else (m, [], { ui with status := "Connected", lastError := "", lastErrorDetails := "" })

/-- The turn starts sing-box where it has a configuration and does not run. -/
def keepRunning (m : Monitor) (a : Answers) : Monitor × List Action :=
  if a.cfgExists && !a.running then
    if m.restartAttempts < 3 then
      ({ m with restartAttempts := m.restartAttempts + 1 }, [.call .startSingBox])
    else (m, [])
  else if a.runningElse then ({ m with restartAttempts := 0 }, [])
  else (m, [])

/-- The test of the connection is due. -/
def probes (m : Monitor) (a : Answers) : Bool :=
  a.runningAfter && decide (a.now - m.lastProbeAtMs ≥ 30000)

def testConnection (letters : Letters) (m : Monitor) (merged : UiState) (a : Answers) :
    Monitor × List Action :=
  if probes m a then
    let m := { m with lastProbeAtMs := a.now }
    let testing : List Action :=
      [.save { merged with lastAction := "Testing connection…" }, .probe a.now]
    if a.probe.status = "ok" then
      ({ m with probeFailureCount := 0, bridgeFailureCount := 0 },
        testing ++ [.save { merged with
          status := "Connected", lastAction := "Connected", lastError := "", lastErrorDetails := "" }])
    else
      let m := { m with probeFailureCount := m.probeFailureCount + 1 }
      let mapped := mapProbeFailureToUi letters a.probe.reason (a.probe.error.getD "")
      let recovering : Bool := m.probeFailureCount < 3
      let failed : List Action :=
        [.connectionFailure a.probe.reason m.probeFailureCount,
          .save { merged with
            status := "Connecting"
            lastAction := if recovering then "Connection failed. Retrying…" else "Connection failed"
            lastError := if recovering then "" else mapped.1
            lastErrorDetails := if recovering then "" else mapped.2 }]
      let (m, recovery) := attemptRecovery m a.probeRecovery m.probeFailureCount
      (m, testing ++ failed ++ recovery)
  else (m, [])

def Battery.low (battery : Battery) : Bool :=
  let pct := if battery.scale > 0 then (battery.level * 100).tdiv battery.scale else 100
  !battery.plugged && decide (pct ≤ 15)

def nextDelayMs (m : Monitor) (a : Answers) : Monitor × List Action × ℕ :=
  let lowBattery := match a.battery with
    | none => false
    | some battery => battery.low
  if lowBattery then
    if a.batteryAt - m.lastBatteryRestrictedAtMs ≥ 10 * 60000 then
      ({ m with lastBatteryRestrictedAtMs := a.batteryAt }, [.batteryRestricted a.batteryAt], 15000)
    else (m, [], 15000)
  else (m, [], 5000)

/-- What `stopAgent` does but for the loop itself. -/
def stopAgent : List Action :=
  [.call .stopAgent, .call .stopSingBox,
    .save { status := "Disconnected", currentProfile := "-", lastAction := "stopped" }]

/-- A turn of the loop in `startAgent`, with the pause behind it; a loop that ends has none. -/
def turn (letters : Letters) (m : Monitor) (a : Answers) : Monitor × List Action × Option ℕ :=
  if !a.desired then (m, stopAgent, none)
  else
    let (m, recovery, merged) := mergeBridgeState letters m (fromBridgeStatus a.status) a
    let (m, restart) := keepRunning m a
    let (m, test) := testConnection letters m merged a
    let (m, restricted, delay) := nextDelayMs m a
    (m, recovery ++ [.save merged] ++ restart ++ test ++ restricted, some delay)

/-! ## Runs -/

/-- A turn that has been taken. -/
structure Turn where
  answers : Answers
  actions : List Action
  delay : Option ℕ

/-- The service goes on from where it was, also where another loop begins. -/
def MonitorStep (letters : Letters) (m : Monitor) (t : Turn) (next : Monitor) : Prop :=
  turn letters m t.answers = (next, t.actions, t.delay)

def Action.isProbe : Action → Bool
  | .probe _ => true
  | _ => false

def Action.recoveryAt : Action → Option ℤ
  | .recovery now _ => some now
  | _ => none

/-- How often the action starts sing-box. -/
def Action.starts : Action → ℕ
  | .call asked => if asked = .startSingBox then 1 else 0
  | .recovery _ calls => calls.count .startSingBox
  | _ => 0

def startsOf (actions : List Action) : ℕ := (actions.map Action.starts).sum

@[simp] theorem startsOf_append (first second : List Action) :
    startsOf (first ++ second) = startsOf first + startsOf second := by
  simp [startsOf]

namespace Turn

variable (t : Turn)

/-- The bridge reports an error to a user who wants to be connected. -/
def bridgeFails : Bool :=
  t.answers.desired && t.answers.stillDesired && isNotBlank (fromBridgeStatus t.answers.status).lastError

def probed : Bool := t.actions.any Action.isProbe

def probeFails : Bool := t.probed && decide (t.answers.probe.status ≠ "ok")

def probeWell : Bool := t.probed && decide (t.answers.probe.status = "ok")

def bridgeWell : Bool :=
  t.answers.desired && !t.bridgeFails || t.probeWell

/-- The error is one of the configuration, which trying again does not mend. -/
def ConfigError (letters : Letters) : Prop :=
  (mapBridgeErrorToUi letters (fromBridgeStatus t.answers.status).lastError).1 ∈
    [errorConfigMissing, errorConfigInvalid]

end Turn

/-! ## What the parts of a turn do -/

section

variable {letters : Letters} {m next : Monitor} {a : Answers} {asked : RecoveryAnswers}
  {failureCount : Int32} {actions : List Action}

/-- What a recovery changes, if there is one. -/
structure Recovers (m next : Monitor) (actions : List Action) : Prop where
  probeCount : next.probeFailureCount = m.probeFailureCount
  bridgeCount : next.bridgeFailureCount = m.bridgeFailureCount
  lastProbe : next.lastProbeAtMs = m.lastProbeAtMs
  lastRestricted : next.lastBatteryRestrictedAtMs = m.lastBatteryRestrictedAtMs
  calls : actions = [] ∧ next.lastRecoveryAtMs = m.lastRecoveryAtMs ∧
      next.restartAttempts = m.restartAttempts ∨
    ∃ now calls, actions = [.recovery now calls] ∧ next.lastRecoveryAtMs = now ∧
      m.lastRecoveryAtMs + 8000 ≤ now ∧
      (next.restartAttempts = m.restartAttempts ∨ .startAgent ∈ calls ∧ next.restartAttempts = 0)
  starts : startsOf actions ≤ (actions.filterMap Action.recoveryAt).length

theorem recovers_nothing (m : Monitor) : Recovers m m [] :=
  ⟨rfl, rfl, rfl, rfl, .inl ⟨rfl, rfl, rfl⟩, le_rfl⟩

/-- What `attemptRecovery` does: it waits out the distance, or it recovers and takes the time. -/
theorem attemptRecovery_recovers (made : attemptRecovery m asked failureCount = (next, actions)) :
    Recovers m next actions := by
  rw [attemptRecovery] at made
  split_ifs at made with early first configured second
  · cases made
    exact recovers_nothing m
  all_goals
    have late : m.lastRecoveryAtMs + 8000 ≤ asked.now := by omega
  · cases made
    exact ⟨rfl, rfl, rfl, rfl, .inr ⟨_, _, rfl, rfl, late, .inl rfl⟩, le_rfl⟩
  · cases made
    exact ⟨rfl, rfl, rfl, rfl, .inr ⟨_, _, rfl, rfl, late, .inl rfl⟩, Nat.zero_le _⟩
  · cases made
    exact ⟨rfl, rfl, rfl, rfl, .inr ⟨_, _, rfl, rfl, late, .inr ⟨by simp, rfl⟩⟩, Nat.zero_le _⟩
  · cases made
    exact ⟨rfl, rfl, rfl, rfl, .inr ⟨_, _, rfl, rfl, late, .inl rfl⟩, Nat.zero_le _⟩

/-- The error in the bridge's status is shown. -/
def showsError (letters : Letters) (m : Monitor) (ui : UiState) (a : Answers) : Prop :=
  a.stillDesired = true ∧ isNotBlank ui.lastError = true ∧
    ((mapBridgeErrorToUi letters ui.lastError).1 ∈ [errorConfigMissing, errorConfigInvalid] ∨
      ¬ m.bridgeFailureCount + 1 < 3)

/-- What the merging of the status of the bridge counts, recovers and shows. -/
theorem mergeBridgeState_spec {ui merged : UiState}
    (made : mergeBridgeState letters m ui a = (next, actions, merged)) :
    ∃ counted, Recovers counted next actions ∧
      counted = { m with
        probeFailureCount := if a.stillDesired then m.probeFailureCount else 0
        bridgeFailureCount :=
          if a.stillDesired && isNotBlank ui.lastError then m.bridgeFailureCount + 1 else 0 } ∧
      (isNotBlank merged.lastError = true → showsError letters m ui a) := by
  have blank : isNotBlank "" = false := by decide
  rw [mergeBridgeState] at made
  dsimp only at made
  split_ifs at made with undesired fails recovering
  · cases made
    simp only [Bool.not_eq_true'] at undesired
    exact ⟨_, recovers_nothing _, by simp [undesired], by simp [blank]⟩
  · cases recovered : attemptRecovery { m with bridgeFailureCount := m.bridgeFailureCount + 1 }
      a.bridgeRecovery (m.bridgeFailureCount + 1) with
    | mk after recovery =>
      simp only [recovered] at made
      cases made
      simp only [Bool.not_eq_true', Bool.not_eq_false] at undesired
      exact ⟨_, attemptRecovery_recovers recovered, by simp [undesired, fails], by simp [blank]⟩
  · cases made
    simp only [Bool.not_eq_true', Bool.not_eq_false] at undesired
    refine ⟨_, recovers_nothing _, by simp [undesired, fails], fun _ => ⟨undesired, fails, ?_⟩⟩
    rw [not_and_or, not_not] at recovering
    simpa using recovering
  · cases made
    simp only [Bool.not_eq_true', Bool.not_eq_false] at undesired
    exact ⟨_, recovers_nothing _, by simp [undesired, fails], by simp [blank]⟩
  · cases made
    simp only [Bool.not_eq_true', Bool.not_eq_false] at undesired
    exact ⟨_, recovers_nothing _, by simp [undesired, fails], by simp [blank]⟩

/-- The attempts to start sing-box after a turn. -/
def Restarts (m : Monitor) (a : Answers) (attempts : ℕ) (actions : List Action) : Prop :=
  actions = [] ∧ (attempts = m.restartAttempts ∨ a.seesRunning = true ∧ attempts = 0) ∨
    actions = [.call .startSingBox] ∧ m.restartAttempts < 3 ∧ attempts = m.restartAttempts + 1

/-- What the loop does about a sing-box that does not run. -/
theorem keepRunning_restarts (made : keepRunning m a = (next, actions)) :
    ∃ attempts, next = { m with restartAttempts := attempts } ∧ Restarts m a attempts actions := by
  rw [keepRunning] at made
  split_ifs at made with idle few running
  · cases made
    exact ⟨_, rfl, .inr ⟨rfl, few, rfl⟩⟩
  · cases made
    exact ⟨_, rfl, .inl ⟨rfl, .inl rfl⟩⟩
  · cases made
    have sees : a.seesRunning = true := by
      rw [Answers.seesRunning, Bool.eq_false_iff.mpr idle, running]
      rfl
    exact ⟨_, rfl, .inl ⟨rfl, .inr ⟨sees, rfl⟩⟩⟩
  · cases made
    exact ⟨_, rfl, .inl ⟨rfl, .inl rfl⟩⟩

/-- When the battery has been reported low, after a turn. -/
def Restricts (m : Monitor) (moment : ℤ) (actions : List Action) : Prop :=
  actions = [] ∧ moment = m.lastBatteryRestrictedAtMs ∨
    actions = [.batteryRestricted moment] ∧ m.lastBatteryRestrictedAtMs + 600000 ≤ moment

/-- A low battery is reported once in ten minutes at most. -/
theorem nextDelayMs_restricts {delay : ℕ} (made : nextDelayMs m a = (next, actions, delay)) :
    ∃ moment, next = { m with lastBatteryRestrictedAtMs := moment } ∧ Restricts m moment actions := by
  rw [nextDelayMs] at made
  split_ifs at made with low late
  · cases made
    exact ⟨_, rfl, .inr ⟨rfl, by omega⟩⟩
  · cases made
    exact ⟨_, rfl, .inl ⟨rfl, rfl⟩⟩
  · cases made
    exact ⟨_, rfl, .inl ⟨rfl, rfl⟩⟩

/-- What a test does, by its outcome. -/
inductive Tested (m : Monitor) (merged : UiState) (a : Answers) : Monitor → List Action → Prop
  | early (none : probes m a = false) : Tested m merged a m []
  | well (due : probes m a = true) (ok : a.probe.status = "ok") {testing connected : UiState}
      (same : testing.lastError = merged.lastError) (blank : connected.lastError = "") :
      Tested m merged a
        { m with lastProbeAtMs := a.now, probeFailureCount := 0, bridgeFailureCount := 0 }
        ([.save testing, .probe a.now] ++ [.save connected])
  | failed (due : probes m a = true) (bad : a.probe.status ≠ "ok") {testing shown : UiState}
      (same : testing.lastError = merged.lastError)
      (patient : isNotBlank shown.lastError = true → ¬ m.probeFailureCount + 1 < 3) {next : Monitor}
      {recovery : List Action}
      (recovers : Recovers
        { m with lastProbeAtMs := a.now, probeFailureCount := m.probeFailureCount + 1 } next recovery) :
      Tested m merged a next
        ([.save testing, .probe a.now] ++
          [.connectionFailure a.probe.reason (m.probeFailureCount + 1), .save shown] ++ recovery)

/-- What a test of the connection does, by its outcome. -/
theorem testConnection_tested {merged : UiState}
    (made : testConnection letters m merged a = (next, actions)) : Tested m merged a next actions := by
  have blank : isNotBlank "" = false := by decide
  rw [testConnection] at made
  split_ifs at made with due ok
  · cases made
    refine .well due ok ?_ rfl
    rfl
  · cases recovered : attemptRecovery
      { m with lastProbeAtMs := a.now, probeFailureCount := m.probeFailureCount + 1 } a.probeRecovery
      (m.probeFailureCount + 1) with
    | mk after recovery =>
      simp only [recovered] at made
      cases made
      refine .failed due ok ?_ ?_ (attemptRecovery_recovers recovered)
      · rfl
      · intro visible recovering
        simp [recovering, blank] at visible
  · cases made
    exact .early (Bool.eq_false_iff.mpr due)

end

/-! ## What a turn does -/

/-- A turn by the effects of its parts. -/
inductive Turned (letters : Letters) (m : Monitor) (t : Turn) : Monitor → Prop
  | stopped (undesired : t.answers.desired = false) (acted : t.actions = stopAgent) :
      Turned letters m t m
  | taken (desired : t.answers.desired = true) {counted merging tested : Monitor} {merged : UiState}
      {attempts : ℕ} {moment : ℤ} {recovery restart test restricted : List Action}
      (counts : counted = { m with
        probeFailureCount := if t.answers.stillDesired then m.probeFailureCount else 0
        bridgeFailureCount := if t.bridgeFails then m.bridgeFailureCount + 1 else 0 })
      (shows : isNotBlank merged.lastError = true →
        t.bridgeFails = true ∧ (t.ConfigError letters ∨ ¬ m.bridgeFailureCount + 1 < 3))
      (recovers : Recovers counted merging recovery)
      (restarts : Restarts merging t.answers attempts restart)
      (tests : Tested { merging with restartAttempts := attempts } merged t.answers tested test)
      (restricts : Restricts tested moment restricted)
      (acted : t.actions = recovery ++ [.save merged] ++ restart ++ test ++ restricted) :
      Turned letters m t { tested with lastBatteryRestrictedAtMs := moment }

section

variable {letters : Letters} {m next : Monitor} {t : Turn} {actions : List Action}

/-- A turn taken apart into its parts. -/
theorem MonitorStep.turned (step : MonitorStep letters m t next) : Turned letters m t next := by
  rw [MonitorStep, turn] at step
  cases desired : t.answers.desired with
  | false =>
    simp only [desired, Bool.not_false, if_true, Prod.mk.injEq] at step
    obtain ⟨rfl, acted, -⟩ := step
    exact .stopped desired acted.symm
  | true =>
    simp only [desired, Bool.not_true, Bool.false_eq_true, if_false, Prod.mk.injEq] at step
    obtain ⟨rfl, acted, -⟩ := step
    cases merge : mergeBridgeState letters m (fromBridgeStatus t.answers.status) t.answers with
    | mk merging rest =>
      obtain ⟨recovery, merged⟩ := rest
      cases keep : keepRunning merging t.answers with
      | mk kept restart =>
        cases try_ : testConnection letters kept merged t.answers with
        | mk tested test =>
          cases wait : nextDelayMs tested t.answers with
          | mk last rest =>
            simp only [merge, keep, try_, wait] at acted ⊢
            obtain ⟨counted, recovers, counts, shows⟩ := mergeBridgeState_spec merge
            obtain ⟨attempts, rfl, restarts⟩ := keepRunning_restarts keep
            obtain ⟨moment, rfl, restricts⟩ := nextDelayMs_restricts wait
            refine .taken desired ?_ ?_ recovers restarts (testConnection_tested try_) restricts acted.symm
            · simpa [Turn.bridgeFails, desired] using counts
            · intro visible
              obtain ⟨still, error, why⟩ := shows visible
              exact ⟨by simp [Turn.bridgeFails, desired, still, error], why⟩

theorem Recovers.any_isProbe (recovers : Recovers m next actions) :
    actions.any Action.isProbe = false := by
  obtain ⟨rfl, -⟩ | ⟨now, calls, rfl, -⟩ := recovers.calls
  · rfl
  · rfl

theorem Restarts.any_isProbe {a : Answers} {attempts : ℕ} (restarts : Restarts m a attempts actions) :
    actions.any Action.isProbe = false := by
  obtain ⟨rfl, -⟩ | ⟨rfl, -⟩ := restarts
  · rfl
  · rfl

theorem Restricts.any_isProbe {moment : ℤ} (restricts : Restricts m moment actions) :
    actions.any Action.isProbe = false := by
  obtain ⟨rfl, -⟩ | ⟨rfl, -⟩ := restricts
  · rfl
  · rfl

/-! ## Alarms -/

/-- The counts are those of the failures since the last success. -/
structure Tally (history : List Turn) (m : Monitor) : Prop where
  bridge : ∃ count, m.bridgeFailureCount = Int32.ofNat count ∧
    Streak Turn.bridgeFails Turn.bridgeWell count history
  probe : ∃ count, m.probeFailureCount = Int32.ofNat count ∧
    Streak Turn.probeFails Turn.probeWell count history

theorem tally_zero (history : List Turn) : Tally history {} :=
  ⟨⟨0, rfl, streak_zero ..⟩, ⟨0, rfl, streak_zero ..⟩⟩

/-- What the bridge's part of a turn makes of its count, if the connection is not tested well. -/
theorem bridge_streak {history : List Turn} {count : ℕ}
    (streak : Streak Turn.bridgeFails Turn.bridgeWell count history) (bad : t.probeWell = false) :
    ∃ later, (if t.bridgeFails then Int32.ofNat count + 1 else 0) = Int32.ofNat later ∧
      Streak Turn.bridgeFails Turn.bridgeWell later (history ++ [t]) := by
  cases fails : t.bridgeFails with
  | false => exact ⟨0, rfl, streak_zero ..⟩
  | true =>
    refine ⟨count + 1, (Int32.ofNat_add count 1).symm, streak.more fails ?_⟩
    simp [Turn.bridgeWell, fails, bad]

/-- One more turn keeps the tally. -/
theorem tally_step {history : List Turn} (tally : Tally history m) (turned : Turned letters m t next) :
    Tally (history ++ [t]) next := by
  obtain ⟨⟨bridge, sameBridge, bridgeStreak⟩, ⟨probe, sameProbe, probeStreak⟩⟩ := tally
  cases turned with
  | stopped undesired acted =>
    have untested : t.probed = false := by
      rw [Turn.probed, acted]
      rfl
    have bad : t.probeWell = false := by simp [Turn.probeWell, untested]
    exact ⟨⟨bridge, sameBridge, bridgeStreak.skip (by simp [Turn.bridgeWell, undesired, bad])⟩,
      ⟨probe, sameProbe, probeStreak.skip bad⟩⟩
  | @taken desired _ _ _ _ _ _ recovery restart test restricted counts _ recovers restarts tests restricts
      acted =>
    have probed : t.probed = test.any Action.isProbe := by
      simp only [Turn.probed, acted, List.any_append, recovers.any_isProbe, restarts.any_isProbe,
        restricts.any_isProbe, Bool.false_or, Bool.or_false]
      rfl
    subst counts
    have bridgeCount := recovers.bridgeCount
    have probeCount := recovers.probeCount
    rw [sameBridge] at bridgeCount
    rw [sameProbe] at probeCount
    -- A turn in which the user no longer wanted to be connected has set the count to zero before.
    have before : ∃ count, (if t.answers.stillDesired then Int32.ofNat probe else 0) = Int32.ofNat count ∧
        Streak Turn.probeFails Turn.probeWell count history := by
      cases t.answers.stillDesired with
      | false => exact ⟨0, rfl, streak_zero ..⟩
      | true => exact ⟨probe, rfl, probeStreak⟩
    obtain ⟨start, sameStart, startStreak⟩ := before
    rw [sameStart] at probeCount
    cases tests with
    | early none =>
      have bad : t.probeWell = false := by simp [Turn.probeWell, probed]
      obtain ⟨later, sameLater, laterStreak⟩ := bridge_streak bridgeStreak bad
      exact ⟨⟨later, bridgeCount.trans sameLater, laterStreak⟩, ⟨start, probeCount, startStreak.skip bad⟩⟩
    | well due ok => exact ⟨⟨0, rfl, streak_zero ..⟩, ⟨0, rfl, streak_zero ..⟩⟩
    | failed _ bad _ _ recovered =>
      replace probed : t.probed = true := by
        rw [probed, List.any_append, List.any_append]
        rfl
      have notWell : t.probeWell = false := by simp [Turn.probeWell, bad]
      have fails : t.probeFails = true := by simp [Turn.probeFails, probed, bad]
      obtain ⟨later, sameLater, laterStreak⟩ := bridge_streak bridgeStreak notWell
      constructor
      · exact ⟨later, recovered.bridgeCount.trans (bridgeCount.trans sameLater), laterStreak⟩
      · refine ⟨start + 1, recovered.probeCount.trans ?_, startStreak.more fails notWell⟩
        rw [Int32.ofNat_add]
        exact congrArg (· + 1) probeCount

theorem two_of_not_lt {count : ℕ} (enough : ¬ Int32.ofNat count + 1 < 3) : 2 ≤ count := by
  by_contra few
  obtain rfl | rfl : count = 0 ∨ count = 1 := by omega
  · exact enough (by decide)
  · exact enough (by decide)

/-- A recovery saves no state. -/
theorem Recovers.saves_nothing (recovers : Recovers m next actions) (state : UiState) :
    Action.save state ∉ actions := by
  obtain ⟨rfl, -⟩ | ⟨now, calls, rfl, -⟩ := recovers.calls
  · simp
  · simp

/-- An error that a test shows has been there before it, or follows from the count of failures. -/
theorem Tested.shows {merged state : UiState} {a : Answers} (tested : Tested m merged a next actions)
    (saved : .save state ∈ actions) (visible : isNotBlank state.lastError = true) :
    isNotBlank merged.lastError = true ∨
      actions.any Action.isProbe = true ∧ a.probe.status ≠ "ok" ∧ ¬ m.probeFailureCount + 1 < 3 := by
  have empty : isNotBlank "" = false := by decide
  cases tested with
  | early none => cases saved
  | well due ok same blank =>
    simp only [List.mem_append, List.mem_cons, Action.save.injEq, reduceCtorEq, List.not_mem_nil,
      or_false] at saved
    obtain rfl | rfl := saved
    · exact .inl (same ▸ visible)
    · rw [blank, empty] at visible
      cases visible
  | failed due bad same patient recovered =>
    have other := recovered.saves_nothing state
    simp only [List.mem_append, List.mem_cons, Action.save.injEq, reduceCtorEq, List.not_mem_nil,
      or_false, false_or, other] at saved
    obtain rfl | rfl := saved
    · exact .inl (same ▸ visible)
    · refine .inr ⟨?_, bad, patient visible⟩
      rw [List.any_append, List.any_append]
      rfl

/-- An error is shown for the configuration, or where the bridge or the test of the connection has
failed now and twice at least since it last did well. -/
theorem alarm_lasting {history : List Turn} (run : Run (MonitorStep letters) {} history m)
    (step : MonitorStep letters m t next) {state : UiState} (saved : .save state ∈ t.actions)
    (visible : isNotBlank state.lastError = true) :
    t.bridgeFails = true ∧
        (t.ConfigError letters ∨ Streak Turn.bridgeFails Turn.bridgeWell 2 history) ∨
      t.probeFails = true ∧ Streak Turn.probeFails Turn.probeWell 2 history := by
  have tally : Tally history m :=
    run.history (tally_zero []) fun _ _ _ _ tally stepped => tally_step tally stepped.turned
  obtain ⟨⟨bridge, sameBridge, bridgeStreak⟩, ⟨probe, sameProbe, probeStreak⟩⟩ := tally
  cases step.turned with
  | stopped undesired acted =>
    rw [acted] at saved
    simp only [stopAgent, List.mem_cons, Action.save.injEq, reduceCtorEq, List.not_mem_nil, or_false,
      false_or] at saved
    subst saved
    exact absurd visible (by decide)
  | @taken desired counted merging _ merged attempts _ recovery restart test restricted counts shows
      recovers restarts tests restricts acted =>
    have shown (error : isNotBlank merged.lastError = true) : t.bridgeFails = true ∧
        (t.ConfigError letters ∨ Streak Turn.bridgeFails Turn.bridgeWell 2 history) := by
      obtain ⟨fails, config | enough⟩ := shows error
      · exact ⟨fails, .inl config⟩
      · rw [sameBridge] at enough
        exact ⟨fails, .inr (bridgeStreak.fewer (two_of_not_lt enough))⟩
    have notRestart : Action.save state ∉ restart := by
      obtain ⟨rfl, -⟩ | ⟨rfl, -⟩ := restarts
      · simp
      · simp
    have notRestricted : Action.save state ∉ restricted := by
      obtain ⟨rfl, -⟩ | ⟨rfl, -⟩ := restricts
      · simp
      · simp
    have inside : state = merged ∨ .save state ∈ test := by
      simpa [acted, recovers.saves_nothing state, notRestart, notRestricted] using saved
    obtain rfl | tested := inside
    · exact .inl (shown visible)
    obtain error | ⟨probed, bad, enough⟩ := tests.shows tested visible
    · exact .inl (shown error)
    right
    have count : merging.probeFailureCount = if t.answers.stillDesired then Int32.ofNat probe else 0 := by
      rw [recovers.probeCount, counts, sameProbe]
    have two : 2 ≤ probe := by
      dsimp only at enough
      rw [count] at enough
      split_ifs at enough
      · exact two_of_not_lt enough
      · exact absurd (by decide) enough
    refine ⟨?_, probeStreak.fewer two⟩
    simp [Turn.probeFails, Turn.probed, acted, probed, bad]

/-! ## The pace -/

def Action.probeAt : Action → Option ℤ
  | .probe now => some now
  | _ => none

def Action.restrictedAt : Action → Option ℤ
  | .batteryRestricted now => some now
  | _ => none

/-- The moments of some kind of action. -/
def moments (moment : Action → Option ℤ) (history : List Turn) : List ℤ :=
  history.flatMap fun t => t.actions.filterMap moment

theorem moments_append (moment : Action → Option ℤ) (history : List Turn) (t : Turn) :
    moments moment (history ++ [t]) = moments moment history ++ t.actions.filterMap moment := by
  simp [moments]

/-- How often the turn starts sing-box, itself or in a recovery. -/
def Turn.starts (t : Turn) : ℕ := startsOf t.actions

/-- The turn counts the attempts anew, as sing-box runs or the bridge is started again. -/
def Turn.refreshes (t : Turn) : Bool :=
  t.answers.desired && t.answers.seesRunning || t.actions.any fun action => match action with
    | .recovery _ calls => calls.contains .startAgent
    | _ => false

/-- What has been done is as far apart as it is to be, and the starts since they were last counted anew
are those that the service counts, but for one of each recovery. -/
structure Paced (history : List Turn) (m : Monitor) : Prop where
  probes : Spaced 30000 (moments Action.probeAt history) m.lastProbeAtMs
  recoveries : Spaced 8000 (moments Action.recoveryAt history) m.lastRecoveryAtMs
  restrictions : Spaced 600000 (moments Action.restrictedAt history) m.lastBatteryRestrictedAtMs
  few : m.restartAttempts ≤ 3
  attempts : ∀ older recent, history = older ++ recent → (∀ t ∈ recent, t.refreshes = false) →
    (recent.map Turn.starts).sum ≤ m.restartAttempts + (moments Action.recoveryAt recent).length

theorem paced_nil : Paced [] {} := by
  refine ⟨spaced_nil .., spaced_nil .., spaced_nil .., Nat.zero_le _, fun older recent split _ => ?_⟩
  obtain ⟨-, rfl⟩ := List.append_eq_nil_iff.mp split.symm
  exact Nat.zero_le _

/-- Recoveries keep their distance. -/
theorem Recovers.spaced {gap : List ℤ} (recovers : Recovers m next actions)
    (spaced : Spaced 8000 gap m.lastRecoveryAtMs) :
    Spaced 8000 (gap ++ actions.filterMap Action.recoveryAt) next.lastRecoveryAtMs := by
  obtain ⟨rfl, same, -⟩ | ⟨now, calls, rfl, last, later, -⟩ := recovers.calls
  · rw [same]
    simpa using spaced
  · rw [last]
    simpa [Action.recoveryAt] using spaced.append (by decide) later

/-- A recovery that starts the bridge again counts the attempts anew. -/
theorem Recovers.attempts (recovers : Recovers m next actions) :
    next.restartAttempts = m.restartAttempts ∨
      next.restartAttempts = 0 ∧ ∀ t : Turn, actions ⊆ t.actions → t.refreshes = true := by
  obtain ⟨rfl, -, same⟩ | ⟨now, calls, rfl, -, -, same | ⟨started, zero⟩⟩ := recovers.calls
  · exact .inl same
  · exact .inl same
  · refine .inr ⟨zero, fun t inside => ?_⟩
    rw [Turn.refreshes, Bool.or_eq_true, List.any_eq_true]
    exact .inr ⟨_, inside (List.mem_singleton_self _), by simpa using started⟩

theorem Recovers.other_moments (recovers : Recovers m next actions) :
    actions.filterMap Action.probeAt = [] ∧ actions.filterMap Action.restrictedAt = [] := by
  obtain ⟨rfl, -⟩ | ⟨now, calls, rfl, -⟩ := recovers.calls
  · exact ⟨rfl, rfl⟩
  · exact ⟨rfl, rfl⟩

/-- Tests keep their distance. -/
theorem Tested.probes_spaced {merged : UiState} {a : Answers} {gap : List ℤ}
    (tested : Tested m merged a next actions) (spaced : Spaced 30000 gap m.lastProbeAtMs) :
    Spaced 30000 (gap ++ actions.filterMap Action.probeAt) next.lastProbeAtMs := by
  have late (due : probes m a = true) : m.lastProbeAtMs + 30000 ≤ a.now := by
    rw [probes, Bool.and_eq_true, decide_eq_true_eq] at due
    omega
  cases tested with
  | early none => simpa using spaced
  | well due => exact spaced.append (by decide) (late due)
  | failed due bad same patient recovered =>
    obtain ⟨none, -⟩ := recovered.other_moments
    rw [List.filterMap_append, none, List.append_nil, recovered.lastProbe]
    exact spaced.append (by decide) (late due)

/-- The recovery after a test that fails keeps the distance from the ones before. -/
theorem Tested.recoveries_spaced {merged : UiState} {a : Answers} {gap : List ℤ}
    (tested : Tested m merged a next actions) (spaced : Spaced 8000 gap m.lastRecoveryAtMs) :
    Spaced 8000 (gap ++ actions.filterMap Action.recoveryAt) next.lastRecoveryAtMs := by
  cases tested with
  | early none => simpa using spaced
  | well due => simpa [Action.recoveryAt, List.filterMap_cons] using spaced
  | failed due bad same patient recovered => exact recovered.spaced spaced

/-- What a test leaves of the other counts. -/
theorem Tested.others {merged : UiState} {a : Answers} (tested : Tested m merged a next actions) :
    next.lastBatteryRestrictedAtMs = m.lastBatteryRestrictedAtMs ∧
      actions.filterMap Action.restrictedAt = [] ∧
      startsOf actions ≤ (actions.filterMap Action.recoveryAt).length ∧
      (next.restartAttempts = m.restartAttempts ∨
        next.restartAttempts = 0 ∧ ∀ t : Turn, actions ⊆ t.actions → t.refreshes = true) := by
  cases tested with
  | early none => exact ⟨rfl, rfl, le_rfl, .inl rfl⟩
  | well due => exact ⟨rfl, rfl, le_rfl, .inl rfl⟩
  | failed due bad same patient recovered =>
    obtain ⟨-, none⟩ := recovered.other_moments
    refine ⟨recovered.lastRestricted, ?_, ?_, ?_⟩
    · rw [List.filterMap_append, none]
      rfl
    · rw [startsOf_append, List.filterMap_append, List.length_append]
      exact Nat.add_le_add (Nat.zero_le _) recovered.starts
    · obtain same | ⟨zero, refreshes⟩ := recovered.attempts
      · exact .inl same
      · refine .inr ⟨zero, fun t inside => refreshes t fun action member => ?_⟩
        exact inside (List.mem_append_right _ member)

theorem Restarts.others {a : Answers} {attempts : ℕ} (restarts : Restarts m a attempts actions) :
    actions.filterMap Action.probeAt = [] ∧ actions.filterMap Action.recoveryAt = [] ∧
      actions.filterMap Action.restrictedAt = [] := by
  obtain ⟨rfl, -⟩ | ⟨rfl, -⟩ := restarts
  · exact ⟨rfl, rfl, rfl⟩
  · exact ⟨rfl, rfl, rfl⟩

/-- A turn that does not count anew counts its own attempt, and starts sing-box once in a recovery. -/
theorem Turned.attempts (turned : Turned letters m t next) (few : m.restartAttempts ≤ 3) :
    next.restartAttempts ≤ 3 ∧
      (t.refreshes = false → m.restartAttempts + t.starts ≤
        next.restartAttempts + (t.actions.filterMap Action.recoveryAt).length) := by
  cases turned with
  | stopped undesired acted =>
    refine ⟨few, fun _ => ?_⟩
    rw [Turn.starts, acted]
    exact le_rfl
  | @taken desired counted merging tested merged attempts _ recovery restart test restricted counts _
      recovers restarts tests restricts acted =>
    obtain ⟨-, -, testStarts, after⟩ := tests.others
    have recoveryStarts := recovers.starts
    have noStart : startsOf restricted = 0 := by
      obtain ⟨rfl, -⟩ | ⟨rfl, -⟩ := restricts
      · rfl
      · rfl
    have saves : startsOf [.save merged] = 0 := rfl
    have starts : t.starts ≤ startsOf restart + (t.actions.filterMap Action.recoveryAt).length := by
      rw [Turn.starts, acted]
      simp only [startsOf_append, List.filterMap_append, List.length_append]
      omega
    have start : merging.restartAttempts = m.restartAttempts ∨
        merging.restartAttempts = 0 ∧ t.refreshes = true := by
      obtain same | ⟨zero, refreshes⟩ := recovers.attempts
      · rw [counts] at same
        exact .inl same
      · exact .inr ⟨zero, refreshes t fun action member => by simp [acted, member]⟩
    have last : tested.restartAttempts = attempts ∨ tested.restartAttempts = 0 ∧ t.refreshes = true := by
      obtain same | ⟨zero, refreshes⟩ := after
      · exact .inl same
      · exact .inr ⟨zero, refreshes t fun action member => by simp [acted, member]⟩
    have running (sees : t.answers.seesRunning = true) : t.refreshes = true := by
      simp [Turn.refreshes, desired, sees]
    dsimp only
    obtain ⟨rfl, rfl | ⟨elsewhere, rfl⟩⟩ | ⟨rfl, below, rfl⟩ := restarts
    · constructor
      · obtain same | ⟨zero, -⟩ := last <;> obtain sameStart | ⟨zeroStart, -⟩ := start <;> omega
      · intro stuck
        have none : startsOf [] = 0 := rfl
        simp only [stuck, Bool.false_eq_true, and_false, or_false] at start last
        omega
    · constructor
      · obtain same | ⟨zero, -⟩ := last <;> omega
      · intro stuck
        rw [running elsewhere] at stuck
        cases stuck
    · constructor
      · obtain same | ⟨zero, -⟩ := last <;> omega
      · intro stuck
        have one : startsOf [.call .startSingBox] = 1 := rfl
        simp only [stuck, Bool.false_eq_true, and_false, or_false] at start last
        omega

/-- The starts of every stretch that ends with one more turn. -/
theorem Paced.attempts_concat {history : List Turn} (paced : Paced history m)
    (counted : t.refreshes = false → m.restartAttempts + t.starts ≤
      next.restartAttempts + (t.actions.filterMap Action.recoveryAt).length)
    {older recent : List Turn} (split : history ++ [t] = older ++ recent)
    (stuck : ∀ t ∈ recent, t.refreshes = false) :
    (recent.map Turn.starts).sum ≤
      next.restartAttempts + (moments Action.recoveryAt recent).length := by
  obtain rfl | ⟨front, last, rfl⟩ := List.eq_nil_or_concat recent
  · exact Nat.zero_le _
  · rw [List.concat_eq_append] at split stuck ⊢
    rw [← List.append_assoc] at split
    obtain ⟨same, one⟩ := List.append_inj' split rfl
    obtain rfl : t = last := by simpa using one
    have before := paced.attempts older front same fun t member =>
      stuck t (List.mem_append_left _ member)
    have now := counted (stuck t (by simp))
    rw [List.map_append, List.sum_append, List.map_singleton, List.sum_singleton, moments_append,
      List.length_append]
    omega

/-- A turn keeps the distances and adds what it starts. -/
theorem paced_step {history : List Turn} (paced : Paced history m) (turned : Turned letters m t next) :
    Paced (history ++ [t]) next := by
  obtain ⟨few, counted⟩ := turned.attempts paced.few
  have attempts : ∀ older recent, history ++ [t] = older ++ recent →
      (∀ t ∈ recent, t.refreshes = false) → (recent.map Turn.starts).sum ≤
        next.restartAttempts + (moments Action.recoveryAt recent).length :=
    fun _ _ split stuck => paced.attempts_concat counted split stuck
  cases turned with
  | stopped undesired acted =>
    refine ⟨?_, ?_, ?_, few, attempts⟩
    all_goals
      rw [moments_append, acted]
      simp only [stopAgent, Action.probeAt, Action.recoveryAt, Action.restrictedAt, List.filterMap_cons,
        List.filterMap_nil, List.append_nil]
    · exact paced.probes
    · exact paced.recoveries
    · exact paced.restrictions
  | @taken desired counted merging tested merged _ _ recovery restart test restricted counts _ recovers
      restarts tests restricts acted =>
    obtain ⟨noProbe, noRestricted⟩ := recovers.other_moments
    obtain ⟨restartProbe, restartRecovery, restartRestricted⟩ := restarts.others
    obtain ⟨sameRestricted, testRestricted, -⟩ := tests.others
    have nothing (f : Action → Option ℤ) (own : ∀ moment, f (.batteryRestricted moment) = none) :
        restricted.filterMap f = [] := by
      obtain ⟨rfl, -⟩ | ⟨rfl, -⟩ := restricts
      · rfl
      · rw [List.filterMap_cons, own]
        rfl
    subst counts
    refine ⟨?_, ?_, ?_, few, attempts⟩
    all_goals
      rw [moments_append, acted]
      simp only [List.filterMap_append]
    · rw [noProbe, restartProbe, nothing _ fun _ => rfl, List.append_nil]
      apply tests.probes_spaced
      dsimp only
      rw [recovers.lastProbe]
      exact paced.probes
    · have saved : [Action.save merged].filterMap Action.recoveryAt = [] := rfl
      rw [restartRecovery, nothing _ fun _ => rfl, saved, List.append_nil, List.append_nil,
        List.append_nil, ← List.append_assoc]
      apply tests.recoveries_spaced
      apply recovers.spaced
      exact paced.recoveries
    · have saved : [Action.save merged].filterMap Action.restrictedAt = [] := rfl
      rw [noRestricted, restartRestricted, testRestricted, saved]
      have held : Spaced 600000 (moments Action.restrictedAt history)
          tested.lastBatteryRestrictedAtMs := by
        rw [sameRestricted]
        dsimp only
        rw [recovers.lastRestricted]
        exact paced.restrictions
      obtain ⟨rfl, rfl⟩ | ⟨rfl, later⟩ := restricts
      · simpa using held
      · exact held.append (by decide) later

/-- Tests, recoveries and reports of a low battery keep their distance; and until sing-box is seen to run
or the bridge is started again, sing-box is started three times at most and once in each recovery. -/
theorem monitor_paced {history : List Turn} (run : Run (MonitorStep letters) {} history m) :
    ((moments Action.probeAt history).Pairwise fun before after => before + 30000 ≤ after) ∧
      ((moments Action.recoveryAt history).Pairwise fun before after => before + 8000 ≤ after) ∧
      ((moments Action.restrictedAt history).Pairwise fun before after => before + 600000 ≤ after) ∧
      ∀ older recent, history = older ++ recent → (∀ t ∈ recent, t.refreshes = false) →
        (recent.map Turn.starts).sum ≤ 3 + (moments Action.recoveryAt recent).length := by
  have paced : Paced history m :=
    run.history paced_nil fun _ _ _ _ paced stepped => paced_step paced stepped.turned
  refine ⟨paced.probes.apart, paced.recoveries.apart, paced.restrictions.apart, ?_⟩
  intro older recent split stuck
  have counted := paced.attempts older recent split stuck
  have few := paced.few
  omega

end

/-! ## A connection that is blocked -/

/-- A turn in which the test of the connection fails. -/
def blocked (now : ℤ) : Answers :=
  { desired := true
    status := some { running := true }
    stillDesired := true
    bridgeRecovery := ⟨now, true⟩
    cfgExists := true
    running := true
    runningElse := true
    runningAfter := true
    now
    probe := { status := "failed", reason := "TIMEOUT", error := some "timeout" }
    probeRecovery := ⟨now, true⟩
    battery := none
    batteryAt := now }

/-- The turn that the service takes. -/
def take (letters : Letters) (m : Monitor) (a : Answers) : Turn :=
  let (_, actions, delay) := turn letters m a
  ⟨a, actions, delay⟩

def takeAll (letters : Letters) : Monitor → List Answers → List Turn
  | _, [] => []
  | m, a :: rest => take letters m a :: takeAll letters (turn letters m a).1 rest

/-- Turns that are taken one after another are a run of the loop. -/
theorem takeAll_run (letters : Letters) (m : Monitor) (asked : List Answers) :
    Run (MonitorStep letters) m (takeAll letters m asked)
      (asked.foldl (fun m a => (turn letters m a).1) m) := by
  induction asked generalizing m with
  | nil => exact .nil m
  | cons a rest ih => exact .cons rfl (ih _)

def asciiLetters : Letters :=
  ⟨fun text => text.map Char.toLower, fun text => text.map Char.toUpper⟩

def blockedTurns : List Turn :=
  takeAll asciiLetters {} [blocked 30000, blocked 60000]

def blockedMonitor : Monitor :=
  [blocked 30000, blocked 60000].foldl (fun m a => (turn asciiLetters m a).1) {}

def blockedState : UiState :=
  { status := "Connecting"
    lastAction := "Connection failed"
    lastError := errorNetworkBlocked
    lastErrorDetails := "Timeout detected\n\ntimeout" }

/-- The third failure is shown. -/
theorem blocked_alarm : ∃ m t next, Run (MonitorStep asciiLetters) {} blockedTurns m ∧
    MonitorStep asciiLetters m t next ∧ .save blockedState ∈ t.actions ∧
    (t.bridgeFails = true ∧ (t.ConfigError asciiLetters ∨
        Streak Turn.bridgeFails Turn.bridgeWell 2 blockedTurns) ∨
      t.probeFails = true ∧ Streak Turn.probeFails Turn.probeWell 2 blockedTurns) := by
  have run : Run (MonitorStep asciiLetters) {} blockedTurns blockedMonitor := takeAll_run ..
  have step : MonitorStep asciiLetters blockedMonitor
      (take asciiLetters blockedMonitor (blocked 90000))
      (turn asciiLetters blockedMonitor (blocked 90000)).1 := rfl
  have saved : Action.save blockedState ∈
      (take asciiLetters blockedMonitor (blocked 90000)).actions := by decide +kernel
  exact ⟨_, _, _, run, step, saved, alarm_lasting run step saved (by decide)⟩

/-- A turn in which sing-box does not run, with what the bridge reports. -/
def crashing (now : ℤ) (lastError : String) : Answers :=
  { blocked now with
    status := some { running := true, lastError }
    running := false
    runningElse := false
    runningAfter := false }

/-- Sing-box does not come up, and the bridge fails every other time. -/
def crashingAnswers : List Answers :=
  [crashing 70000 "timeout", crashing 75000 "", crashing 80000 "timeout", crashing 85000 "",
    crashing 90000 "timeout"]

def crashingTurns : List Turn := takeAll asciiLetters blockedMonitor crashingAnswers

/-- Sing-box is started three times, and once more in each of the three recoveries. -/
theorem crashing_paced : ∃ m, Run (MonitorStep asciiLetters) {} (blockedTurns ++ crashingTurns) m ∧
    moments Action.recoveryAt (blockedTurns ++ crashingTurns) = [30000, 60000, 70000, 80000, 90000] ∧
    (moments Action.recoveryAt (blockedTurns ++ crashingTurns)).Pairwise
      (fun before after => before + 8000 ≤ after) ∧
    (crashingTurns.map Turn.starts).sum = 6 ∧
    (crashingTurns.map Turn.starts).sum ≤ 3 + (moments Action.recoveryAt crashingTurns).length := by
  have first : Run (MonitorStep asciiLetters) {} blockedTurns blockedMonitor := takeAll_run ..
  have run := first.append (takeAll_run asciiLetters blockedMonitor crashingAnswers)
  obtain ⟨-, recoveries, -, few⟩ := monitor_paced run
  have stuck : ∀ t ∈ crashingTurns, t.refreshes = false := by decide +kernel
  exact ⟨_, run, by decide +kernel, recoveries, by decide +kernel, few _ _ rfl stuck⟩

end ShadowNet.Android
