import Mathlib
import ShadowNet.Go.Run
import ShadowNet.Mobile.Config

/-! # The agent and its callers

The exported functions of the bridge share one state under a mutex. `StartAgent` and `StopAgent`
take the channels of the running loop out of it in one section; `StartAgent` puts those of its own
loop in with another. A step below is one section together with what its goroutine does up to its
next section or wait, such as closing a stop channel that it has taken.
-/

namespace ShadowNet

open Go

structure AgentStatus where
  running : Bool := false
  currentProfile : GoString := []
  lastAction : GoString := []
  lastError : Message := ⟨"", []⟩
  updatedAtUnix : Int64 := 0

/-- The shared state. The two channels of a loop have the loop's number. -/
structure RuntimeState where
  cfg : AgentConfig := {}
  status : AgentStatus := {}
  stopCh : Option ℕ := none
  doneCh : Option ℕ := none
  /-- The loop that connected the client. -/
  pi : Option ℕ := none
  history : List GoString := []

/-- Where a call of `StartAgent` or `StopAgent` is. -/
inductive CallPhase where
  | idle
  | starting (config : GoString)
  | startWaiting (cfg : AgentConfig) (oldDone : Option ℕ)
  | stopping
  | stopWaiting (doneCh : Option ℕ)
  | returned

/-- Where a loop is: before it connects, in a tick, between ticks, or past its end. -/
inductive LoopPhase where
  | absent
  | connecting (cfg : AgentConfig)
  | ticking
  | deciding (recent : List GoString)
  | selecting
  | done

structure AgentState where
  shared : RuntimeState
  call : ℕ → CallPhase
  loop : ℕ → LoopPhase
  /-- The number of loops that have been started. -/
  loops : ℕ
  /-- How often each stop channel has been closed. -/
  closings : ℕ → ℕ

def AgentState.start : AgentState := ⟨{}, fun _ => .idle, fun _ => .absent, 0, fun _ => 0⟩

/-- What the goroutines do next. -/
inductive AgentLabel where
  | callStart (i : ℕ) (config : GoString)
  | refuse (i : ℕ) (now : Int64)
  | takeOver (i : ℕ)
  | install (i : ℕ) (now : Int64)
  | callStop (i : ℕ)
  | stop (i : ℕ) (now : Int64)
  | stopReturns (i : ℕ)
  | connect (n : ℕ)
  | unavailable (n : ℕ) (now : Int64)
  | withoutPi (n : ℕ)
  | readState (n : ℕ)
  | tickError (n : ℕ) (message : Message) (now : Int64)
  | tickDone (n : ℕ) (known : List GoString) (selected reason : GoString) (now : Int64)
  | nextTick (n : ℕ)
  | loopReturns (n : ℕ)
  | getStatus (now : Int64)

def validateAction (action profileID : GoString) (known : List GoString) (switchCount maxPerMinute : ℤ) :
    Except Message Unit := do
  require (isBlank action = false) ⟨"missing action", []⟩
  require (profileID ∈ known) ⟨"unknown profile", []⟩
  require (¬ (maxPerMinute > 0 ∧ switchCount > maxPerMinute)) ⟨"rate limit exceeded", []⟩

/-- `setError`. -/
def setError (message : Message) (now : Int64) (shared : RuntimeState) : RuntimeState :=
  { shared with
    status := { lastAction := lit "error", lastError := message, updatedAtUnix := now } }

/-- `updateError`. -/
def updateError (message : Message) (now : Int64) (shared : RuntimeState) : RuntimeState :=
  { shared with
    status := { shared.status with
      running := true, lastAction := lit "error", lastError := message, updatedAtUnix := now } }

/-- Both functions take the channels and the client out of the shared state. -/
def takeChannels (shared : RuntimeState) : RuntimeState :=
  { shared with stopCh := none, doneCh := none, pi := none }

/-- The section of `StopAgent`. -/
def stopSection (now : Int64) (shared : RuntimeState) : RuntimeState :=
  { takeChannels shared with
    status := { shared.status with
      running := false, lastAction := lit "stopped", updatedAtUnix := now } }

/-- The second section of `StartAgent`. -/
def installSection (cfg : AgentConfig) (n : ℕ) (now : Int64) (shared : RuntimeState) :
    RuntimeState :=
  { shared with
    cfg
    status := { running := true, lastAction := lit "starting", updatedAtUnix := now }
    stopCh := some n
    doneCh := some n
    history := [] }

/-- The last section of `runOnce`. -/
def tickSection (selected reason : GoString) (now : Int64) (shared : RuntimeState) : RuntimeState :=
  let history := shared.history ++ [selected]
  { shared with
    history := if history.length > 8 then history.drop (history.length - 8) else history
    status := {
      running := true, currentProfile := selected, lastAction := reason, updatedAtUnix := now } }

/-- The section of `GetStatus`. -/
def statusSection (now : Int64) (shared : RuntimeState) : RuntimeState :=
  if shared.status.updatedAtUnix = 0 then
    { shared with status := { shared.status with updatedAtUnix := now } }
  else shared

/-- `close`, on a stop channel if there is one. -/
def closeStop (channel : Option ℕ) (closings : ℕ → ℕ) : ℕ → ℕ :=
  match channel with
  | none => closings
  | some n => Function.update closings n (closings n + 1)

/-- Receiving from a done channel goes on where there is none, or where its loop is past its end. -/
def AgentState.receives (s : AgentState) (doneCh : Option ℕ) : Prop :=
  ∀ n, doneCh = some n → s.loop n = .done

inductive AgentStep : AgentState → AgentLabel → AgentState → Prop
  | callStart {s : AgentState} {i : ℕ} (config : GoString) (idle : s.call i = .idle) :
      AgentStep s (.callStart i config)
        { s with call := Function.update s.call i (.starting config) }
  | refuse {s : AgentState} {i : ℕ} {config : GoString} {message : Message} (now : Int64)
      (called : s.call i = .starting config) (invalid : parseConfig config = .error message) :
      AgentStep s (.refuse i now)
        { s with
          shared := setError message now s.shared
          call := Function.update s.call i .returned }
  | takeOver {s : AgentState} {i : ℕ} {config : GoString} {cfg : AgentConfig}
      (called : s.call i = .starting config) (valid : parseConfig config = .ok cfg) :
      AgentStep s (.takeOver i)
        { s with
          shared := takeChannels s.shared
          call := Function.update s.call i (.startWaiting cfg s.shared.doneCh)
          closings := closeStop s.shared.stopCh s.closings }
  | install {s : AgentState} {i : ℕ} {cfg : AgentConfig} {oldDone : Option ℕ} (now : Int64)
      (waiting : s.call i = .startWaiting cfg oldDone) (received : s.receives oldDone) :
      AgentStep s (.install i now)
        { s with
          shared := installSection cfg s.loops now s.shared
          call := Function.update s.call i .returned
          loop := Function.update s.loop s.loops (.connecting cfg)
          loops := s.loops + 1 }
  | callStop {s : AgentState} {i : ℕ} (idle : s.call i = .idle) :
      AgentStep s (.callStop i) { s with call := Function.update s.call i .stopping }
  | stop {s : AgentState} {i : ℕ} (now : Int64) (called : s.call i = .stopping) :
      AgentStep s (.stop i now)
        { s with
          shared := stopSection now s.shared
          call := Function.update s.call i (.stopWaiting s.shared.doneCh)
          closings := closeStop s.shared.stopCh s.closings }
  | stopReturns {s : AgentState} {i : ℕ} {doneCh : Option ℕ}
      (waiting : s.call i = .stopWaiting doneCh) (received : s.receives doneCh) :
      AgentStep s (.stopReturns i) { s with call := Function.update s.call i .returned }
  | connect {s : AgentState} {n : ℕ} {cfg : AgentConfig} (begins : s.loop n = .connecting cfg)
      (wanted : cfg.usePi = true) :
      AgentStep s (.connect n)
        { s with
          shared := { s.shared with pi := some n }
          loop := Function.update s.loop n .ticking }
  | unavailable {s : AgentState} {n : ℕ} {cfg : AgentConfig} (now : Int64)
      (begins : s.loop n = .connecting cfg) (wanted : cfg.usePi = true) :
      AgentStep s (.unavailable n now)
        { s with
          shared := updateError ⟨"orchestrator unavailable: %v", [.foreign]⟩ now s.shared
          loop := Function.update s.loop n .ticking }
  | withoutPi {s : AgentState} {n : ℕ} {cfg : AgentConfig} (begins : s.loop n = .connecting cfg)
      (unwanted : cfg.usePi = false) :
      AgentStep s (.withoutPi n) { s with loop := Function.update s.loop n .ticking }
  | readState {s : AgentState} {n : ℕ} (ticks : s.loop n = .ticking) :
      AgentStep s (.readState n)
        { s with loop := Function.update s.loop n (.deciding s.shared.history) }
  | tickError {s : AgentState} {n : ℕ} (message : Message) (now : Int64)
      (ticks : s.loop n = .ticking ∨ ∃ recent, s.loop n = .deciding recent) :
      AgentStep s (.tickError n message now)
        { s with
          shared := updateError message now s.shared
          loop := Function.update s.loop n .selecting }
  | tickDone {s : AgentState} {n : ℕ} {recent known : List GoString} {selected : GoString}
      (reason : GoString) (now : Int64) (decides : s.loop n = .deciding recent)
      (allowed : validateAction (lit "switch_profile") selected known (recent.length + 1) 6 = .ok ()) :
      AgentStep s (.tickDone n known selected reason now)
        { s with
          shared := tickSection selected reason now s.shared
          loop := Function.update s.loop n .selecting }
  | nextTick {s : AgentState} {n : ℕ} (between : s.loop n = .selecting) :
      AgentStep s (.nextTick n) { s with loop := Function.update s.loop n .ticking }
  | loopReturns {s : AgentState} {n : ℕ} (between : s.loop n = .selecting)
      (closed : 0 < s.closings n) :
      AgentStep s (.loopReturns n) { s with loop := Function.update s.loop n .done }
  | getStatus {s : AgentState} (now : Int64) :
      AgentStep s (.getStatus now) { s with shared := statusSection now s.shared }

/-! ## What a step does to the channels -/

/-- The stop channel that is shared, the loops that were started and the channels that were closed. -/
inductive ChannelStep (s next : AgentState) : AgentLabel → Prop
  | kept {label : AgentLabel} (other : ∀ i now, label ≠ .install i now)
      (stopCh : next.shared.stopCh = s.shared.stopCh) (loops : next.loops = s.loops)
      (closings : next.closings = s.closings) : ChannelStep s next label
  | taken {label : AgentLabel} (other : ∀ i now, label ≠ .install i now)
      (stopCh : next.shared.stopCh = none) (loops : next.loops = s.loops)
      (closings : next.closings = closeStop s.shared.stopCh s.closings) : ChannelStep s next label
  | installed {i : ℕ} {now : Int64} (stopCh : next.shared.stopCh = some s.loops)
      (loops : next.loops = s.loops + 1) (closings : next.closings = s.closings) :
      ChannelStep s next (.install i now)

variable {s next : AgentState} {label : AgentLabel} {labels : List AgentLabel}

theorem AgentStep.channels (step : AgentStep s label next) : ChannelStep s next label := by
  cases step with
  | takeOver => exact .taken nofun rfl rfl rfl
  | stop => exact .taken nofun rfl rfl rfl
  | install => exact .installed rfl rfl rfl
  | getStatus now =>
    refine .kept nofun ?_ rfl rfl
    change (statusSection now s.shared).stopCh = s.shared.stopCh
    unfold statusSection
    split_ifs <;> rfl
  | _ => exact .kept nofun rfl rfl rfl

/-- The stop channel that is shared belongs to a loop that was started and not signalled. -/
structure Shared (s : AgentState) : Prop where
  live : ∀ n, s.shared.stopCh = some n → n < s.loops ∧ s.closings n = 0
  once : ∀ n, s.closings n ≤ 1
  fresh : ∀ n, s.loops ≤ n → s.closings n = 0

/-- Every loop that was started and not signalled has its stop channel in the shared state, and no
stop channel has been closed twice. -/
structure Owned (s : AgentState) : Prop where
  held : ∀ n < s.loops, s.closings n = 0 → s.shared.stopCh = some n
  once : ∀ n, s.closings n ≤ 1

/-- A loop is put into the shared state where there is none. -/
def InstallsAlone (s : AgentState) (label : AgentLabel) (_next : AgentState) : Prop :=
  ∀ i now, label = .install i now → s.shared.stopCh = none

theorem closeStop_eq (channel : Option ℕ) (closings : ℕ → ℕ) (n : ℕ) :
    closeStop channel closings n = if channel = some n then closings n + 1 else closings n := by
  cases channel with
  | none => rfl
  | some m =>
    simp only [closeStop, Option.some_inj]
    split_ifs with same
    · rw [same, Function.update_self]
    · exact Function.update_of_ne (Ne.symm same) _ _

/-- Each step keeps what the calls, the loops and the status have in common. -/
theorem Shared.step (shared : Shared s) (step : AgentStep s label next) : Shared next := by
  cases step.channels with
  | kept other stopCh loops closings =>
    exact ⟨by rw [stopCh, loops, closings]; exact shared.live, by rw [closings]; exact shared.once,
      by rw [loops, closings]; exact shared.fresh⟩
  | taken other stopCh loops closings =>
    refine ⟨by rw [stopCh]; exact nofun, fun n => ?_, fun n bound => ?_⟩
    · rw [closings, closeStop_eq]
      split_ifs with same
      · rw [(shared.live n same).2]
      · exact shared.once n
    · rw [loops] at bound
      rw [closings, closeStop_eq]
      split_ifs with same
      · exact absurd (shared.live n same).1 (Nat.not_lt.mpr bound)
      · exact shared.fresh n bound
  | installed stopCh loops closings =>
    refine ⟨fun n same => ?_, by rw [closings]; exact shared.once, fun n bound => ?_⟩
    · rw [stopCh] at same
      obtain rfl := Option.some.inj same
      rw [loops, closings]
      exact ⟨Nat.lt_succ_self _, shared.fresh _ le_rfl⟩
    · rw [loops] at bound
      rw [closings]
      exact shared.fresh n (by omega)

/-- A step keeps the loops owned exactly when it puts no loop in the place of another. -/
theorem owned_step_iff (shared : Shared s) (owned : Owned s) (step : AgentStep s label next) :
    Owned next ↔ InstallsAlone s label next := by
  have once := (shared.step step).once
  cases step.channels with
  | kept other stopCh loops closings =>
    refine iff_of_true ⟨?_, once⟩ fun i now same => absurd same (other i now)
    rw [stopCh, loops, closings]
    exact owned.held
  | taken other stopCh loops closings =>
    refine iff_of_true ⟨fun n bound open_ => ?_, once⟩ fun i now same => absurd same (other i now)
    rw [loops] at bound
    rw [closings, closeStop_eq] at open_
    split_ifs at open_ with same
    exact absurd (owned.held n bound open_) same
  | installed stopCh loops closings =>
    constructor
    · intro after i now same
      by_contra some
      obtain ⟨n, held⟩ := Option.ne_none_iff_exists'.mp some
      obtain ⟨bound, open_⟩ := shared.live n held
      have kept := after.held n (by rw [loops]; omega) (by rw [closings]; exact open_)
      rw [stopCh] at kept
      exact absurd (Option.some.inj kept) (by omega)
    · intro alone
      refine ⟨fun n bound open_ => ?_, once⟩
      rw [loops] at bound
      rw [closings] at open_
      rw [stopCh]
      by_cases last : n = s.loops
      · rw [last]
      · have held := owned.held n (by omega) open_
        rw [alone _ _ rfl] at held
        cases held

theorem start_shared : Shared .start := ⟨nofun, fun _ => Nat.zero_le 1, fun _ _ => rfl⟩

theorem start_owned : Owned .start :=
  ⟨fun _ bound => absurd bound (Nat.not_lt_zero _), fun _ => Nat.zero_le 1⟩

/-- The loops stay owned in exactly the runs that never put one loop in the place of another. -/
theorem loops_owned_iff (labels : List AgentLabel) :
    Always AgentStep (fun _ _ next => Owned next) .start labels ↔
      Always AgentStep InstallsAlone .start labels := by
  refine always_iff (motive := fun s => Shared s ∧ Owned s) ?_ ?_ ⟨start_shared, start_owned⟩
  · exact fun s next label _ holds step => owned_step_iff holds.1 holds.2 step
  · exact fun s next label _ holds step alone =>
      ⟨holds.1.step step, (owned_step_iff holds.1 holds.2 step).mpr alone⟩

/-- A configuration that names what `validateConfig` asks for. -/
def plainConfig : GoString :=
  lit ("\x7b\"state_dir\":\"/state\",\"templates_dir\":\"/templates\"," ++
    "\"master_key\":\"0123456789abcdef0123456789abcdef\"\x7d")

theorem plainConfig_valid : ∃ cfg, parseConfig plainConfig = .ok cfg ∧ cfg.usePi = false := by
  have valid : (parseConfig plainConfig).toOption.map (·.usePi) = some false := by decide
  cases parsed : parseConfig plainConfig with
  | error message => rw [parsed] at valid; cases valid
  | ok cfg =>
    rw [parsed] at valid
    exact ⟨cfg, rfl, Option.some.inj valid⟩

/-- Two calls of `StartAgent` that both take over before either installs its loop. -/
theorem loop_orphaned :
    ¬ Always AgentStep (fun _ _ next => Owned next) .start
      [.callStart 0 plainConfig, .callStart 1 plainConfig, .takeOver 0, .takeOver 1, .install 0 1,
        .install 1 2] := by
  intro always
  obtain ⟨cfg, valid, -⟩ := plainConfig_valid
  have called := (always _ (.callStart plainConfig rfl)).2
  have both := (called _ (.callStart plainConfig rfl)).2
  have first := (both _ (.takeOver rfl valid)).2
  have second := (first _ (.takeOver rfl valid)).2
  have installed := (second _ (.install 1 rfl nofun)).2
  have owned := (installed _ (.install 2 rfl nofun)).1
  have held := owned.held 0 (Nat.zero_lt_succ 1) rfl
  cases held

/-! ## Staying stopped -/

/-- What `GetStatus` reports. -/
def getStatus (now : Int64) (s : AgentState) : AgentStatus := (statusSection now s.shared).status

theorem getStatus_running (now : Int64) (s : AgentState) :
    (getStatus now s).running = s.shared.status.running := by
  unfold getStatus statusSection
  split_ifs <;> rfl

/-- Whether a call of `StopAgent` has returned and `StartAgent` has not been called since. -/
def AgentLabel.stopped (before : Bool) : AgentLabel → Bool
  | .stopReturns _ => true
  | .callStart .. => false
  | _ => before

structure WatchedAgent where
  state : AgentState
  stopped : Bool

inductive WatchedStep : WatchedAgent → AgentLabel → WatchedAgent → Prop
  | step {s next : AgentState} {label : AgentLabel} {stopped : Bool}
      (taken : AgentStep s label next) :
      WatchedStep ⟨s, stopped⟩ label ⟨next, label.stopped stopped⟩

/-- A call of `StartAgent` whose configuration is valid, before it has put in its loop. -/
def CallPhase.startsLoop : CallPhase → Prop
  | .starting config => ∃ cfg, parseConfig config = .ok cfg
  | .startWaiting .. => True
  | _ => False

/-- A loop that has no tick under way and does not come to one by itself. -/
def LoopPhase.atRest : LoopPhase → Prop
  | .absent | .selecting | .done => True
  | _ => False

/-- Nothing is on its way that could set `Running`. -/
structure Resting (s : AgentState) : Prop where
  off : s.shared.status.running = false
  calls : ∀ i, ¬ (s.call i).startsLoop
  loops : ∀ n, (s.loop n).atRest
  signalled : ∀ n, s.loop n = .selecting → 0 < s.closings n

private theorem calls_update {call : ℕ → CallPhase} {phase : CallPhase} {i : ℕ}
    (calls : ∀ j, ¬ (call j).startsLoop) (own : ¬ phase.startsLoop) (j : ℕ) :
    ¬ (Function.update call i phase j).startsLoop := by
  rw [Function.update_apply]
  split_ifs
  · exact own
  · exact calls j

/-- A step at rest keeps everything at rest, unless `StartAgent` is called or a closed channel is left
alone. -/
theorem Resting.step (resting : Resting s) (step : AgentStep s label next)
    (calls : ∀ i config cfg, label = .callStart i config → parseConfig config ≠ .ok cfg)
    (heeds : ∀ n, label = .nextTick n → s.closings n = 0) : Resting next := by
  have moving {n : ℕ} {phase : LoopPhase} (own : s.loop n = phase) : phase.atRest :=
    own ▸ resting.loops n
  have calling {i : ℕ} {phase : CallPhase} (own : s.call i = phase) : ¬ phase.startsLoop :=
    own ▸ resting.calls i
  cases step with
  | callStart config idle =>
    refine { resting with calls := calls_update resting.calls ?_ }
    rintro ⟨cfg, valid⟩
    exact calls _ config cfg rfl valid
  | refuse => exact { resting with off := rfl, calls := calls_update resting.calls id }
  | takeOver called valid => exact absurd ⟨_, valid⟩ (calling called)
  | install now waiting => exact (calling waiting trivial).elim
  | callStop => exact { resting with calls := calls_update resting.calls id }
  | stop now called =>
    refine ⟨rfl, calls_update resting.calls id, resting.loops, fun n between => ?_⟩
    change 0 < closeStop s.shared.stopCh s.closings n
    rw [closeStop_eq]
    have before := resting.signalled n between
    split_ifs <;> omega
  | stopReturns => exact { resting with calls := calls_update resting.calls id }
  | connect begins => exact (moving begins).elim
  | unavailable now begins => exact (moving begins).elim
  | withoutPi begins => exact (moving begins).elim
  | readState ticks => exact (moving ticks).elim
  | tickError message now ticks =>
    obtain ticks | ⟨recent, ticks⟩ := ticks
    · exact (moving ticks).elim
    · exact (moving ticks).elim
  | tickDone reason now decides => exact (moving decides).elim
  | nextTick between =>
    have open_ := heeds _ rfl
    have closed := resting.signalled _ between
    omega
  | loopReturns between closed =>
    refine { resting with loops := fun m => ?_, signalled := fun m selecting => ?_ }
    · dsimp only
      rw [Function.update_apply]
      split_ifs
      · trivial
      · exact resting.loops m
    · dsimp only at selecting
      rw [Function.update_apply] at selecting
      split_ifs at selecting
      exact resting.signalled m selecting
  | getStatus now => exact { resting with off := (getStatus_running now s).trans resting.off }

private theorem waiting_of_update {call : ℕ → CallPhase} {phase : CallPhase} {i j : ℕ}
    {doneCh : Option ℕ} (waiting : Function.update call i phase j = .stopWaiting doneCh)
    (other : phase ≠ .stopWaiting doneCh) : call j = .stopWaiting doneCh := by
  by_cases same : j = i
  · subst same
    rw [Function.update_self] at waiting
    exact absurd waiting other
  · rwa [Function.update_of_ne same] at waiting

/-- A call of `StopAgent` that waits has been waiting, or has just had its section. -/
theorem AgentStep.waiting (step : AgentStep s label next) {j : ℕ} {doneCh : Option ℕ}
    (waiting : next.call j = .stopWaiting doneCh) :
    s.call j = .stopWaiting doneCh ∨ ∃ now, label = .stop j now := by
  cases step with
  | stop now called =>
    rename_i i
    by_cases same : j = i
    · exact .inr ⟨now, by rw [same]⟩
    · left
      change Function.update _ _ _ _ = _ at waiting
      rwa [Function.update_of_ne same] at waiting
  | callStart | refuse | takeOver | install | callStop | stopReturns =>
    exact .inl (waiting_of_update waiting nofun)
  | _ => exact .inl waiting

/-- A call of `StopAgent` waits, or one has returned and `StartAgent` has not been called since. -/
def WatchedAgent.Stopping (w : WatchedAgent) : Prop :=
  w.stopped = true ∨ ∃ i doneCh, w.state.call i = .stopWaiting doneCh

/-- What is being stopped after a step was so before, unless the step is a section of `StopAgent`. -/
theorem WatchedStep.stopping {w next : WatchedAgent} (step : WatchedStep w label next)
    (stopping : next.Stopping) : w.Stopping ∨ ∃ i now, label = .stop i now := by
  obtain ⟨taken⟩ := step
  obtain quiet | ⟨i, doneCh, waiting⟩ := stopping
  · left
    dsimp only [AgentLabel.stopped] at quiet
    split at quiet
    · cases taken with
      | stopReturns waiting received => exact .inr ⟨_, _, waiting⟩
    · cases quiet
    · exact .inl quiet
  · obtain before | ⟨now, stop⟩ := taken.waiting waiting
    · exact .inl (.inr ⟨i, doneCh, before⟩)
    · exact .inr ⟨i, now, stop⟩

end ShadowNet
