import ShadowNet.Bundle.Verify
import ShadowNet.Go.Run

/-! # The sing-box controller

A `Controller` has one configuration file and the handle of the last process it tried to start.
`ApplyAndReload` writes the file, has sing-box check it, and then signals or starts a process,
whichever the handle asks for. What the system answers during a call is an argument of the call.
A process may exit between any two calls, and nothing tells the controller.
-/

namespace ShadowNet

open Go

structure SingProcess where
  pid : ℕ
  exited : Bool := false
deriving DecidableEq

/-- An `exec.Cmd`, without a process as long as it has not been started. -/
structure Cmd where
  process : Option SingProcess := none
deriving DecidableEq

structure Controller where
  binaryPath : GoString
  cmd : Option Cmd := none
deriving DecidableEq

/-- `c.cmd.Process`, or nothing where one of the two is nil. -/
def Controller.process (c : Controller) : Option SingProcess := c.cmd.bind (·.process)

/-- What becomes of the configuration file and the processes, in the order of the events. -/
inductive SingEvent where
  | committed (configJSON : GoString)
  | signalled (pid : ℕ)
  | started (pid : ℕ)
deriving DecidableEq

/-- The answers to one lookup of the binary. -/
structure BinaryAnswers where
  lookPath : Option GoString
  stat : GoString → Bool

/-- The answers during one call of `ApplyAndReload`. -/
structure ReloadAnswers where
  mkdirAll : Bool := true
  writeFile : Bool := true
  rename : Bool := true
  atCheck : BinaryAnswers
  accepts : Bool
  atReload : BinaryAnswers
  /-- The number of the new process, unless `Start` fails. -/
  start : Option ℕ

def errBinaryNotFound : Message := ⟨"sing-box binary not found", []⟩

def errCheckFailed : Message := ⟨"sing-box check failed: %w: %s", [.foreign, .foreign]⟩

/-- `ValidateConfig` and `reloadOrRestartLocked` begin with this lookup. -/
def findBinary (binaryPath : GoString) (answers : BinaryAnswers) : Except Message GoString :=
  match if binaryPath = [] then answers.lookPath else some binaryPath with
  | none => .error errBinaryNotFound
  | some bin => if answers.stat bin then .ok bin else .error errBinaryNotFound

def writeAtomic (answers : ReloadAnswers) : Except Message Unit := do
  require (answers.mkdirAll = true) ⟨"%w", [.foreign]⟩
  require (answers.writeFile = true) ⟨"failed to write temp config: %w", [.foreign]⟩
  require (answers.rename = true) ⟨"failed to commit config: %w", [.foreign]⟩

/-- `Controller.ValidateConfig`. -/
def Controller.validateConfig (c : Controller) (answers : ReloadAnswers) : Except Message Unit := do
  let _bin ← findBinary c.binaryPath answers.atCheck
  require (answers.accepts = true) errCheckFailed

/-- A signal that reaches no one leaves no event. -/
def signal (process : SingProcess) : List SingEvent :=
  if process.exited then [] else [.signalled process.pid]

def Controller.reloadOrRestartLocked (c : Controller) (answers : ReloadAnswers) :
    Except Message Unit × List SingEvent × Controller :=
  match findBinary c.binaryPath answers.atReload with
  | .error message => (.error message, [], c)
  | .ok _ =>
      match c.process with
      -- What the signal returns is dropped.
      | some process => (.ok (), signal process, c)
      | none =>
          match answers.start with
          | none =>
              (.error ⟨"failed to start sing-box: %w", [.foreign]⟩, [], { c with cmd := some {} })
          | some pid => (.ok (), [.started pid], { c with cmd := some ⟨some ⟨pid, false⟩⟩ })

/-- A controller and its configuration file; `applied` is the text of the last call that succeeded. -/
structure SingState where
  controller : Controller
  configFile : Option GoString := none
  applied : Option GoString := none
deriving DecidableEq

/-- `Controller.ApplyAndReload`: what it returns, what happens during the call, and what it leaves. -/
def SingState.applyAndReload (s : SingState) (answers : ReloadAnswers) (configJSON : GoString) :
    Except Message Unit × List SingEvent × SingState :=
  match writeAtomic answers with
  | .error message => (.error message, [], s)
  | .ok () =>
      let written := { s with configFile := some configJSON }
      match s.controller.validateConfig answers with
      | .error message => (.error message, [.committed configJSON], written)
      | .ok () =>
          let (outcome, events, controller) := s.controller.reloadOrRestartLocked answers
          (outcome, .committed configJSON :: events, { written with controller })

/-- `Controller.Stop`; the answer is whether the process could be killed. -/
def Controller.stop (c : Controller) (kill : Bool) : Except Message Unit × Controller :=
  match c.process with
  | none => (.ok (), c)
  | some _ => if kill then (.ok (), { c with cmd := none }) else (.error ⟨"%w", [.foreign]⟩, c)

/-- The process of the handle exits; the handle stays. -/
def Controller.exit (c : Controller) : Controller :=
  { c with cmd := c.cmd.map fun cmd =>
      { cmd with process := cmd.process.map fun process => { process with exited := true } } }

inductive SingLabel where
  | applyAndReload (answers : ReloadAnswers) (configJSON : GoString)
  | stop (kill : Bool)
  | exit

inductive SingStep : SingState → SingLabel → SingState → Prop
  | succeeded {s next : SingState} {answers : ReloadAnswers} {configJSON : GoString}
      {events : List SingEvent}
      (returns : s.applyAndReload answers configJSON = (.ok (), events, next)) :
      SingStep s (.applyAndReload answers configJSON) { next with applied := some configJSON }
  | failed {s next : SingState} {answers : ReloadAnswers} {configJSON : GoString}
      {events : List SingEvent} {message : Message}
      (returns : s.applyAndReload answers configJSON = (.error message, events, next)) :
      SingStep s (.applyAndReload answers configJSON) next
  | stop {s : SingState} (kill : Bool) :
      SingStep s (.stop kill) { s with controller := (s.controller.stop kill).2 }
  | exit {s : SingState} : SingStep s .exit { s with controller := s.controller.exit }

/-! ## What a call does -/

/-- The call writes the file and runs the check. -/
def ReloadAnswers.Checks (answers : ReloadAnswers) (binaryPath : GoString) : Prop :=
  writeAtomic answers = .ok () ∧ ∃ bin, findBinary binaryPath answers.atCheck = .ok bin

/-- The check rejects the file that the call wrote. -/
def ReloadAnswers.Rejects (answers : ReloadAnswers) (binaryPath : GoString) : Prop :=
  answers.Checks binaryPath ∧ answers.accepts = false

/-- The call comes to signal or start a process. -/
def ReloadAnswers.Reloads (answers : ReloadAnswers) (binaryPath : GoString) : Prop :=
  (answers.Checks binaryPath ∧ answers.accepts = true) ∧
    ∃ bin, findBinary binaryPath answers.atReload = .ok bin

/-- The ways a call of `ApplyAndReload` ends. -/
inductive ReloadEnds (s : SingState) (answers : ReloadAnswers) (configJSON : GoString) :
    Except Message Unit × List SingEvent × SingState → Prop
  | aborted {message : Message} {events : List SingEvent} {left : SingState}
      (other : message ≠ errCheckFailed)
      (passed : ¬ answers.Rejects s.controller.binaryPath)
      (unheld : answers.Reloads s.controller.binaryPath → s.controller.process = none)
      (keeps : left.controller = s.controller ∨
        left.controller = { s.controller with cmd := some {} }) :
      ReloadEnds s answers configJSON (.error message, events, left)
  | rejected (rejects : answers.Rejects s.controller.binaryPath) :
      ReloadEnds s answers configJSON (.error errCheckFailed, [.committed configJSON],
        { s with configFile := some configJSON })
  | signalled {process : SingProcess} (reloads : answers.Reloads s.controller.binaryPath)
      (held : s.controller.process = some process) :
      ReloadEnds s answers configJSON (.ok (), .committed configJSON :: signal process,
        { s with configFile := some configJSON })
  | started {pid : ℕ} (reloads : answers.Reloads s.controller.binaryPath)
      (unheld : s.controller.process = none) :
      ReloadEnds s answers configJSON (.ok (), [.committed configJSON, .started pid],
        { s with
          configFile := some configJSON
          controller := { s.controller with cmd := some ⟨some ⟨pid, false⟩⟩ } })

variable {s next : SingState} {label : SingLabel} {answers : ReloadAnswers} {configJSON : GoString}

theorem findBinary_error {binaryPath : GoString} {answers : BinaryAnswers} {message : Message}
    (missing : findBinary binaryPath answers = .error message) : message = errBinaryNotFound := by
  unfold findBinary at missing
  split at missing
  · exact (Except.error.inj missing).symm
  · split_ifs at missing
    exact (Except.error.inj missing).symm

theorem writeAtomic_error {message : Message} (failed : writeAtomic answers = .error message) :
    message ≠ errCheckFailed := by
  intro same
  rw [same] at failed
  revert failed
  unfold writeAtomic require
  split_ifs <;> decide

theorem validateConfig_eq_ok {c : Controller} (written : writeAtomic answers = .ok ()) :
    c.validateConfig answers = .ok () ↔
      answers.Checks c.binaryPath ∧ answers.accepts = true := by
  simp only [Controller.validateConfig, bind_eq_ok, require_eq_ok, ReloadAnswers.Checks, written,
    true_and, exists_and_right]

theorem validateConfig_error {c : Controller} {message : Message}
    (written : writeAtomic answers = .ok ()) (failed : c.validateConfig answers = .error message) :
    answers.Rejects c.binaryPath ∧ message = errCheckFailed ∨
      ¬ answers.Checks c.binaryPath ∧ message = errBinaryNotFound := by
  cases found : findBinary c.binaryPath answers.atCheck with
  | error missing =>
    rw [Controller.validateConfig, found] at failed
    obtain rfl := Except.error.inj failed
    refine .inr ⟨?_, findBinary_error found⟩
    rintro ⟨-, bin, other⟩
    rw [found] at other
    cases other
  | ok bin =>
    rw [Controller.validateConfig, found] at failed
    change require (answers.accepts = true) errCheckFailed = _ at failed
    unfold require at failed
    split_ifs at failed with accepts
    exact .inl ⟨⟨⟨written, bin, found⟩, Bool.eq_false_iff.mpr accepts⟩, (Except.error.inj failed).symm⟩

theorem applyAndReload_ends (s : SingState) (answers : ReloadAnswers) (configJSON : GoString) :
    ReloadEnds s answers configJSON (s.applyAndReload answers configJSON) := by
  unfold SingState.applyAndReload
  cases written : writeAtomic answers with
  | error message =>
    have unchecked : ¬ answers.Checks s.controller.binaryPath := by
      rintro ⟨done, -⟩
      rw [written] at done
      cases done
    exact .aborted (writeAtomic_error written) (fun rejects => unchecked rejects.1)
      (fun reloads => absurd reloads.1.1 unchecked) (.inl rfl)
  | ok =>
    dsimp only
    cases valid : s.controller.validateConfig answers with
    | error message =>
      obtain ⟨rejects, rfl⟩ | ⟨unchecked, rfl⟩ := validateConfig_error written valid
      · exact .rejected rejects
      · exact .aborted (by decide) (fun rejects => unchecked rejects.1)
          (fun reloads => absurd reloads.1.1 unchecked) (.inl rfl)
    | ok =>
      have checks := (validateConfig_eq_ok written).mp valid
      have passed : ¬ answers.Rejects s.controller.binaryPath := by
        rintro ⟨-, rejects⟩
        rw [checks.2] at rejects
        cases rejects
      dsimp only [Controller.reloadOrRestartLocked]
      cases found : findBinary s.controller.binaryPath answers.atReload with
      | error message =>
        refine .aborted (by rw [findBinary_error found]; decide) passed ?_ (.inl rfl)
        rintro ⟨-, bin, other⟩
        rw [found] at other
        cases other
      | ok bin =>
        have reloads : answers.Reloads s.controller.binaryPath := ⟨checks, bin, found⟩
        cases held : s.controller.process with
        | some process => exact .signalled reloads held
        | none =>
          cases answers.start with
          | none => exact .aborted (by decide) passed (fun _ => held) (.inr rfl)
          | some pid => exact .started reloads held

/-! ## What a reload may promise -/

/-- The process was started or signalled after the file had become the text. -/
def TakesUp (events : List SingEvent) (configJSON : GoString) (pid : ℕ) : Prop :=
  ∃ before after, events = before ++ .committed configJSON :: after ∧
    (.started pid ∈ after ∨ .signalled pid ∈ after)

/-- A call that succeeds leaves a process that was running before or that it started, and that has
taken up the given text; a call whose check rejects the text leaves the file of the last success. -/
def ReloadTruthful (s : SingState) (label : SingLabel) (next : SingState) : Prop :=
  match label with
  | .applyAndReload answers configJSON =>
      let (outcome, events, _) := s.applyAndReload answers configJSON
      (outcome = .ok () → ∃ process, next.controller.process = some process ∧
        (s.controller.process = some process ∧ process.exited = false ∨
          .started process.pid ∈ events) ∧
        TakesUp events configJSON process.pid) ∧
      (outcome = .error errCheckFailed → next.configFile = s.applied)
  | _ => True

/-- No call that comes to reload finds the handle of a process that has exited, and the check rejects
nothing but the text of the last call that succeeded. -/
def ReloadsAlive (s : SingState) (label : SingLabel) (_next : SingState) : Prop :=
  match label with
  | .applyAndReload answers configJSON =>
      (answers.Reloads s.controller.binaryPath →
        ∀ process, s.controller.process = some process → process.exited = false) ∧
      (answers.Rejects s.controller.binaryPath → s.applied = some configJSON)
  | _ => True

/-- What is told of the text after the file has become it has taken it up. -/
theorem takesUp_committed {events : List SingEvent} {pid : ℕ}
    (told : .started pid ∈ events ∨ .signalled pid ∈ events) :
    TakesUp (.committed configJSON :: events) configJSON pid :=
  ⟨[], events, rfl, told⟩

theorem not_both {binaryPath : GoString} (reloads : answers.Reloads binaryPath) :
    ¬ answers.Rejects binaryPath := by
  rintro ⟨-, rejects⟩
  rw [reloads.1.2] at rejects
  cases rejects

/-- A call that signals the process of its handle is truthful exactly when that process still runs. -/
theorem signalled_truthful_iff {process : SingProcess}
    (held : s.controller.process = some process) :
    (∃ left, s.controller.process = some left ∧
      (s.controller.process = some left ∧ left.exited = false ∨
        .started left.pid ∈ .committed configJSON :: signal process) ∧
      TakesUp (.committed configJSON :: signal process) configJSON left.pid) ↔
    process.exited = false := by
  constructor
  · rintro ⟨left, same, running, -⟩
    obtain rfl := Option.some.inj (held.symm.trans same)
    apply running.elim And.right
    unfold signal
    split_ifs <;> simp
  · intro running
    refine ⟨process, held, .inl ⟨held, running⟩, takesUp_committed (.inr ?_)⟩
    simp [signal, running]

/-- A call is truthful exactly when it finds no dead process and rejects nothing new. -/
theorem truthful_iff_alive (step : SingStep s label next) :
    ReloadTruthful s label next ↔ ReloadsAlive s label next := by
  cases step with
  | stop => exact Iff.rfl
  | exit => exact Iff.rfl
  | @succeeded left answers configJSON events returns =>
    have ends := applyAndReload_ends s answers configJSON
    simp only [ReloadTruthful, ReloadsAlive]
    rw [returns] at ends ⊢
    cases ends with
    | @signalled process reloads held =>
      simp only [not_both reloads, reloads, false_imp_iff, and_true, true_imp_iff, reduceCtorEq]
      rw [signalled_truthful_iff held, held]
      refine ⟨fun running other same => ?_, fun running => running process rfl⟩
      rwa [← Option.some.inj same]
    | @started pid reloads unheld =>
      simp only [not_both reloads, reloads, false_imp_iff, and_true, true_imp_iff, reduceCtorEq]
      refine iff_of_true ⟨⟨pid, false⟩, rfl, .inr ?_, takesUp_committed (.inl ?_)⟩ ?_
      · simp
      · simp
      · rw [unheld]
        exact nofun
  | @failed left answers configJSON events message returns =>
    have ends := applyAndReload_ends s answers configJSON
    simp only [ReloadTruthful, ReloadsAlive]
    rw [returns] at ends ⊢
    cases ends with
    | aborted other passed unheld keeps =>
      refine iff_of_true ⟨nofun, fun same => absurd (Except.error.inj same) other⟩ ⟨?_, ?_⟩
      · intro reloads process held
        rw [unheld reloads] at held
        cases held
      · intro rejects
        exact absurd rejects passed
    | rejected rejects =>
      have stuck : ¬ answers.Reloads s.controller.binaryPath := fun reloads => not_both reloads rejects
      simp only [rejects, stuck, false_imp_iff, true_and, true_imp_iff, reduceCtorEq]
      exact eq_comm

/-- Reloads tell the truth in a run exactly when none of them meets a dead process and the check
rejects nothing but what was applied last. -/
theorem reloads_truthful_iff (binaryPath : GoString) (configFile : Option GoString)
    (labels : List SingLabel) :
    Always SingStep ReloadTruthful ⟨⟨binaryPath, none⟩, configFile, none⟩ labels ↔
      Always SingStep ReloadsAlive ⟨⟨binaryPath, none⟩, configFile, none⟩ labels :=
  always_iff (motive := fun _ => True) (fun _ _ _ _ _ step => truthful_iff_alive step)
    (fun _ _ _ _ _ _ _ => trivial) trivial

/-- Answers under which a call succeeds. -/
def goodAnswers : ReloadAnswers where
  atCheck := ⟨none, fun _ => true⟩
  accepts := true
  atReload := ⟨none, fun _ => true⟩
  start := some 1

/-- A reload after the process has exited returns nil and starts nothing, and a rejected text stays
in the file. -/
theorem reloads_not_truthful :
    ¬ Always SingStep ReloadTruthful ⟨⟨lit "/usr/bin/sing-box", none⟩, none, none⟩
        [.applyAndReload goodAnswers (lit "\x7b\x7d"), .exit,
          .applyAndReload goodAnswers (lit "\x7b\"log\":\x7b\x7d\x7d")] ∧
      ¬ Always SingStep ReloadTruthful ⟨⟨lit "/usr/bin/sing-box", none⟩, none, none⟩
        [.applyAndReload { goodAnswers with accepts := false } (lit "\x7b")] := by
  have found (answers : BinaryAnswers) (exists_ : answers.stat (lit "/usr/bin/sing-box") = true) :
      ∃ bin, findBinary (lit "/usr/bin/sing-box") answers = .ok bin :=
    ⟨_, by rw [findBinary, if_neg (by decide)]; exact if_pos exists_⟩
  constructor
  · intro always
    have later := ((always _ (.succeeded rfl)).2 _ .exit).2 _ (.succeeded rfl)
    have alive := ((truthful_iff_alive (.succeeded rfl)).mp later.1).1
    have running := alive ⟨⟨⟨rfl, found _ rfl⟩, rfl⟩, found _ rfl⟩ ⟨1, true⟩ rfl
    cases running
  · intro always
    have rejected := (always _ (.failed rfl)).1
    have known := ((truthful_iff_alive (.failed rfl)).mp rejected).2
    have applied := known ⟨⟨rfl, found _ rfl⟩, rfl⟩
    cases applied

end ShadowNet
