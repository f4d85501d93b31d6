import Mathlib
import ShadowNet.Go.Run

/-! # The sing-box supervisor

`SingBoxController` starts sing-box, waits for its exit and starts it again after a while, three times
at most, unless it is no longer wanted. A restart that has been decided on is not cancelled when the
controller is stopped, and starts sing-box all the same.
-/

namespace ShadowNet.Android

open Go

/-- `Char.isWhitespace`. -/
def isWhitespace (c : Char) : Bool :=
  ('\t' ≤ c && c ≤ '\r') || ('\u001c' ≤ c && c ≤ ' ') || c == '\u00a0' || c == '\u1680' ||
    ('\u2000' ≤ c && c ≤ '\u200a') || c == '\u2028' || c == '\u2029' || c == '\u202f' ||
    c == '\u205f' || c == '\u3000'

def isNullOrBlank (text : Option String) : Bool :=
  match text with
  | none => true
  | some text => text.toList.all isWhitespace

/-- The controller, with the processes it has started and the tasks it has handed on. -/
structure SingBoxController where
  process : Option ℕ := none
  desiredConfigPath : Option String := none
  restartAttempts : ℕ := 0
  /-- The processes that run. -/
  alive : List ℕ := []
  /-- How many processes have been started. -/
  started : ℕ := 0
  /-- The processes that a call of `waitForExit` waits for. -/
  awaited : List ℕ := []
  /-- How many calls of `waitForExit` are about to call `scheduleRestart`. -/
  restarting : ℕ := 0
  /-- The configurations that calls of `scheduleRestart` are about to hand to the supervisor. -/
  captured : List String := []
  /-- The configurations of the restarts that the supervisor has yet to carry out. -/
  scheduled : List String := []

/-- Which parts of `start` succeed. -/
structure Launch where
  binary : Bool
  config : Bool
  process : Bool

namespace SingBoxController

def isRunning (c : SingBoxController) : Bool :=
  match c.process with
  | none => false
  | some process => process ∈ c.alive

def start (c : SingBoxController) (configPath : String) (launch : Launch) : SingBoxController :=
  if c.isRunning then c
  else if launch.binary = false then c
  else
    let c := if c.desiredConfigPath ≠ some configPath then { c with restartAttempts := 0 } else c
    let c := { c with desiredConfigPath := some configPath }
    if launch.config = false ∨ launch.process = false then c
    else
      { c with
        process := some c.started
        alive := c.started :: c.alive
        started := c.started + 1
        awaited := c.started :: c.awaited }

/-- `destroyed` tells whether the process has been waited for, which an interrupt may prevent. -/
def stop (c : SingBoxController) (destroyed : Bool) : SingBoxController :=
  let c := { c with desiredConfigPath := none }
  match c.process with
  | none => c
  | some process =>
      { c with process := none, alive := if destroyed then c.alive.erase process else c.alive }

def restart (c : SingBoxController) (configPath : String) (destroyed : Bool) (launch : Launch) :
    SingBoxController :=
  (c.stop destroyed).start configPath launch

/-- What `waitForExit` does once it no longer waits. -/
def noticeExit (c : SingBoxController) (exited : ℕ) : SingBoxController :=
  let c := { c with awaited := c.awaited.erase exited }
  if c.process ≠ some exited then c
  else if c.desiredConfigPath.isNone then { c with process := none }
  else { c with process := none, restarting := c.restarting + 1 }

/-- The synchronized block of `scheduleRestart`, which decides on a restart. -/
def scheduleRestart (c : SingBoxController) : SingBoxController :=
  let c := { c with restarting := c.restarting - 1 }
  match c.desiredConfigPath with
  | none => c
  | some path =>
      if isNullOrBlank path ∨ c.restartAttempts ≥ 3 then c
      else
        { c with
          restartAttempts := c.restartAttempts + 1
          captured := path :: c.captured }

/-- `supervisor.schedule`, which `scheduleRestart` calls without the lock. -/
def schedule (c : SingBoxController) (configPath : String) : SingBoxController :=
  { c with captured := c.captured.erase configPath, scheduled := configPath :: c.scheduled }

/-- The supervisor carries out a scheduled restart. -/
def runTask (c : SingBoxController) (configPath : String) (launch : Launch) : SingBoxController :=
  ({ c with scheduled := c.scheduled.erase configPath } : SingBoxController).start configPath launch

end SingBoxController

inductive ControllerOp where
  | start (configPath : String) (launch : Launch)
  | stop (destroyed : Bool)
  | restart (configPath : String) (destroyed : Bool) (launch : Launch)
  | exit (process : ℕ)
  | noticeExit (process : ℕ)
  | scheduleRestart
  | schedule (configPath : String)
  | runTask (configPath : String) (launch : Launch)

/-- The steps of the clients, the processes, the threads that wait for them and the supervisor. What
the controller does under its lock is one step. -/
inductive ControllerStep : SingBoxController → ControllerOp → SingBoxController → Prop
  | start (c : SingBoxController) (configPath : String) (launch : Launch) :
      ControllerStep c (.start configPath launch) (c.start configPath launch)
  | stop (c : SingBoxController) (destroyed : Bool) :
      ControllerStep c (.stop destroyed) (c.stop destroyed)
  | restart (c : SingBoxController) (configPath : String) (destroyed : Bool) (launch : Launch) :
      ControllerStep c (.restart configPath destroyed launch)
        (c.restart configPath destroyed launch)
  | exit {c : SingBoxController} {process : ℕ} (running : process ∈ c.alive) :
      ControllerStep c (.exit process) { c with alive := c.alive.erase process }
  | noticeExit {c : SingBoxController} {process : ℕ} (awaited : process ∈ c.awaited)
      (exited : process ∉ c.alive) : ControllerStep c (.noticeExit process) (c.noticeExit process)
  | scheduleRestart {c : SingBoxController} (restarting : 0 < c.restarting) :
      ControllerStep c .scheduleRestart c.scheduleRestart
  | schedule {c : SingBoxController} {configPath : String} (captured : configPath ∈ c.captured) :
      ControllerStep c (.schedule configPath) (c.schedule configPath)
  | runTask {c : SingBoxController} {configPath : String} {launch : Launch}
      (scheduled : configPath ∈ c.scheduled) :
      ControllerStep c (.runTask configPath launch) (c.runTask configPath launch)

/-- A client asks for sing-box to run. -/
def ControllerOp.Starts : ControllerOp → Prop
  | .start .. | .restart .. => True
  | _ => False

def StartsNothing (c : SingBoxController) (_op : ControllerOp) (next : SingBoxController) : Prop :=
  next.started = c.started

/-- After a stop no process is started, whatever happens, until a client asks for one. -/
def StopIsFinal (_c : SingBoxController) (op : ControllerOp) (next : SingBoxController) : Prop :=
  ∀ destroyed, op = .stop destroyed → ∀ later : List ControllerOp, (∀ op ∈ later, ¬ op.Starts) →
    Always ControllerStep StartsNothing next later

/-- No restart is on its way to the supervisor or scheduled when the controller is stopped. -/
def NothingPending (c : SingBoxController) (op : ControllerOp) (_next : SingBoxController) : Prop :=
  ∀ destroyed, op = .stop destroyed → c.captured = [] ∧ c.scheduled = []

/-! ## A stopped controller -/

/-- Nothing is wanted, and no restart is pending. -/
structure SingBoxController.Idle (c : SingBoxController) : Prop where
  unwanted : c.desiredConfigPath = none
  uncaptured : c.captured = []
  unscheduled : c.scheduled = []

section

variable {c next : SingBoxController} {op : ControllerOp}

@[simp] theorem stop_desiredConfigPath (destroyed : Bool) :
    (c.stop destroyed).desiredConfigPath = none := by
  rw [SingBoxController.stop]
  split <;> rfl

@[simp] theorem stop_captured (destroyed : Bool) : (c.stop destroyed).captured = c.captured := by
  rw [SingBoxController.stop]
  split <;> rfl

@[simp] theorem stop_scheduled (destroyed : Bool) : (c.stop destroyed).scheduled = c.scheduled := by
  rw [SingBoxController.stop]
  split <;> rfl

@[simp] theorem stop_started (destroyed : Bool) : (c.stop destroyed).started = c.started := by
  rw [SingBoxController.stop]
  split <;> rfl

/-- A controller that has been stopped does not run. -/
theorem stop_not_running (destroyed : Bool) : (c.stop destroyed).isRunning = false := by
  rw [SingBoxController.stop, SingBoxController.isRunning]
  cases c.process <;> simp

/-- An idle controller stays idle and starts nothing. -/
theorem ControllerStep.idle (step : ControllerStep c op next) (idle : c.Idle) (asks : ¬ op.Starts) :
    next.Idle ∧ StartsNothing c op next := by
  obtain ⟨unwanted, uncaptured, unscheduled⟩ := idle
  cases step with
  | start configPath launch => exact absurd trivial asks
  | restart configPath destroyed launch => exact absurd trivial asks
  | stop destroyed =>
    exact ⟨⟨by simp, by simp [uncaptured], by simp [unscheduled]⟩, by simp [StartsNothing]⟩
  | exit running => exact ⟨⟨unwanted, uncaptured, unscheduled⟩, rfl⟩
  | noticeExit awaited exited =>
    simp only [SingBoxController.noticeExit, unwanted, Option.isNone_none, if_true]
    split_ifs
    · exact ⟨⟨rfl, uncaptured, unscheduled⟩, rfl⟩
    · exact ⟨⟨rfl, uncaptured, unscheduled⟩, rfl⟩
  | scheduleRestart restarting =>
    simp only [SingBoxController.scheduleRestart, unwanted]
    exact ⟨⟨rfl, uncaptured, unscheduled⟩, rfl⟩
  | schedule captured =>
    rw [uncaptured] at captured
    cases captured
  | runTask scheduled =>
    rw [unscheduled] at scheduled
    cases scheduled

/-- A scheduled restart starts a process, although the controller has been stopped. -/
theorem runTask_stop_started (destroyed : Bool) (configPath : String) :
    ((c.stop destroyed).runTask configPath ⟨true, true, true⟩).started = c.started + 1 := by
  have stopped : SingBoxController.isRunning { c.stop destroyed with
      scheduled := (c.stop destroyed).scheduled.erase configPath } = false :=
    stop_not_running destroyed
  rw [SingBoxController.runTask, SingBoxController.start, stopped]
  simp

/-- So does a restart that is handed to the supervisor after the controller has been stopped. -/
theorem runTask_schedule_started (destroyed : Bool) (configPath : String) :
    (((c.stop destroyed).schedule configPath).runTask configPath ⟨true, true, true⟩).started =
      c.started + 1 := by
  have stopped : SingBoxController.isRunning { (c.stop destroyed).schedule configPath with
      scheduled := ((c.stop destroyed).schedule configPath).scheduled.erase configPath } = false :=
    stop_not_running destroyed
  rw [SingBoxController.runTask, SingBoxController.start, stopped]
  simp [SingBoxController.schedule]

/-- A stop is final exactly if no restart is pending: each that is can be carried out. -/
theorem stopIsFinal_iff (step : ControllerStep c op next) :
    StopIsFinal c op next ↔ NothingPending c op next := by
  constructor
  · intro final destroyed stops
    subst stops
    cases step
    constructor
    · by_contra some
      obtain ⟨configPath, captured⟩ := List.exists_mem_of_ne_nil _ some
      have always := final destroyed rfl [.schedule configPath, .runTask configPath ⟨true, true, true⟩]
        (by simp [ControllerOp.Starts])
      obtain ⟨-, always⟩ := always _ (.schedule (by simpa using captured))
      obtain ⟨same, -⟩ := always _ (.runTask (List.mem_cons_self ..))
      have unchanged : ((c.stop destroyed).schedule configPath).started = c.started :=
        stop_started destroyed
      rw [StartsNothing, runTask_schedule_started, unchanged] at same
      omega
    · by_contra some
      obtain ⟨configPath, scheduled⟩ := List.exists_mem_of_ne_nil _ some
      have always := final destroyed rfl [.runTask configPath ⟨true, true, true⟩]
        (by simp [ControllerOp.Starts])
      obtain ⟨same, -⟩ := always _ (.runTask (by simpa using scheduled))
      rw [StartsNothing, runTask_stop_started, stop_started] at same
      omega
  · intro none destroyed stops later asks
    subst stops
    cases step
    obtain ⟨uncaptured, unscheduled⟩ := none destroyed rfl
    have idle : (c.stop destroyed).Idle := ⟨by simp, by simp [uncaptured], by simp [unscheduled]⟩
    exact always_of_invariant idle fun _ _ label member idle step =>
      step.idle idle (asks label member)

end

/-- In exactly the runs in which no restart is pending when the controller is stopped, the controller
stays stopped. -/
theorem stop_final_iff (ops : List ControllerOp) :
    Always ControllerStep StopIsFinal {} ops ↔ Always ControllerStep NothingPending {} ops :=
  always_iff (motive := fun _ => True) (fun _ _ _ _ _ step => stopIsFinal_iff step)
    (fun _ _ _ _ _ _ _ => trivial) trivial

/-- A process exits, its restart is scheduled, the controller is stopped, and the restart comes. -/
theorem stopped_restarts : ¬ ∀ ops : List ControllerOp, Always ControllerStep StopIsFinal {} ops := by
  intro all
  have running := (all [.start "config.json" ⟨true, true, true⟩, .exit 0, .noticeExit 0,
    .scheduleRestart, .schedule "config.json", .stop true] _ (.start _ _ _)).2
  have exited := (running _ (.exit (by decide))).2
  have noticed := (exited _ (.noticeExit (by decide) (by decide))).2
  have captured := (noticed _ (.scheduleRestart (by decide))).2
  have scheduled := (captured _ (.schedule (by decide))).2
  have final := (scheduled _ (.stop _ true)).1 true rfl [.runTask "config.json" ⟨true, true, true⟩]
    (by simp [ControllerOp.Starts])
  obtain ⟨same, -⟩ := final _ (.runTask (by decide))
  revert same
  unfold StartsNothing
  decide

end ShadowNet.Android
