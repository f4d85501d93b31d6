import ShadowNet.Android.SingBoxController

/-! # The processes that the supervisor starts

The clients ask for sing-box under one configuration only. Each request starts one process at most, and
the supervisor starts three more at most up to the first stop and after each one, however often sing-box
exits. Where every stop waits for the process, there is one process at a time.
-/

namespace ShadowNet.Android

open Go

/-- A client asks for a process. -/
def ControllerOp.asked : ControllerOp → ℕ
  | .start .. | .restart .. => 1
  | _ => 0

def ControllerOp.stopped : ControllerOp → ℕ
  | .stop .. | .restart .. => 1
  | _ => 0

/-- A client that asks for a process has this configuration for it. -/
def ControllerOp.Uses (path : String) : ControllerOp → Prop
  | .start configPath _ | .restart configPath _ _ => configPath = path
  | _ => True

/-- A stop is not interrupted while it waits. -/
def ControllerOp.Waits : ControllerOp → Prop
  | .stop destroyed | .restart _ destroyed _ => destroyed = true
  | _ => True

namespace SingBoxController

/-- The processes that have been started, those that are about to be, and the restarts that are left. -/
def potential (c : SingBoxController) : ℕ :=
  c.started + c.captured.length + c.scheduled.length +
    if c.desiredConfigPath.isNone then 3 else 3 - c.restartAttempts

/-- Nothing but this configuration is wanted or scheduled. -/
structure Only (path : String) (c : SingBoxController) : Prop where
  desired : ∀ wanted ∈ c.desiredConfigPath, wanted = path
  captured : ∀ wanted ∈ c.captured, wanted = path
  scheduled : ∀ wanted ∈ c.scheduled, wanted = path

variable {c : SingBoxController} {path : String}

theorem Only.desired_eq (only : c.Only path) :
    c.desiredConfigPath = none ∨ c.desiredConfigPath = some path := by
  cases wanted : c.desiredConfigPath with
  | none => exact .inl rfl
  | some other => exact .inr (congrArg some (only.desired other wanted))

/-- A start adds one process or none to those that may yet come. -/
theorem start_potential (only : c.Only path) (launch : Launch) :
    (c.start path launch).Only path ∧ (c.start path launch).potential ≤ c.potential + 1 := by
  have wanted : ∀ other ∈ some path, other = path := by simp
  rw [start]
  obtain unwanted | same := only.desired_eq
  · simp only [unwanted, ne_eq, reduceCtorEq, not_false_eq_true, if_true]
    split_ifs
    · exact ⟨only, Nat.le_succ _⟩
    · exact ⟨only, Nat.le_succ _⟩
    · exact ⟨⟨wanted, only.captured, only.scheduled⟩, by simp [potential, unwanted]⟩
    · exact ⟨⟨wanted, only.captured, only.scheduled⟩, by simp [potential, unwanted]; omega⟩
  · simp only [same, ne_eq, not_true_eq_false, if_false]
    split_ifs
    · exact ⟨only, Nat.le_succ _⟩
    · exact ⟨only, Nat.le_succ _⟩
    · exact ⟨⟨wanted, only.captured, only.scheduled⟩, by simp [potential, same]⟩
    · exact ⟨⟨wanted, only.captured, only.scheduled⟩, by simp [potential, same]; omega⟩

/-- A stop gives back three restarts at most. -/
theorem stop_potential (only : c.Only path) (destroyed : Bool) :
    (c.stop destroyed).Only path ∧ (c.stop destroyed).potential ≤ c.potential + 3 := by
  refine ⟨⟨by simp, by simpa using only.captured, by simpa using only.scheduled⟩, ?_⟩
  simp only [potential, stop_started, stop_captured, stop_scheduled, stop_desiredConfigPath,
    Option.isNone_none, if_true]
  omega

/-- To notice an exit costs nothing. -/
theorem noticeExit_potential (only : c.Only path) (exited : ℕ) :
    (c.noticeExit exited).Only path ∧ (c.noticeExit exited).potential = c.potential := by
  rw [noticeExit]
  split_ifs
  · exact ⟨⟨only.desired, only.captured, only.scheduled⟩, rfl⟩
  · exact ⟨⟨only.desired, only.captured, only.scheduled⟩, rfl⟩
  · exact ⟨⟨only.desired, only.captured, only.scheduled⟩, rfl⟩

/-- A restart that is decided on is one that was counted. -/
theorem scheduleRestart_potential (only : c.Only path) :
    c.scheduleRestart.Only path ∧ c.scheduleRestart.potential ≤ c.potential := by
  rw [scheduleRestart]
  obtain unwanted | same := only.desired_eq
  · simp only [unwanted]
    exact ⟨⟨by simp, only.captured, only.scheduled⟩, by simp [potential, unwanted]⟩
  · simp only [same]
    split_ifs with limit
    · exact ⟨⟨by simp, only.captured, only.scheduled⟩, by simp [potential, same]⟩
    · rw [not_or, not_le] at limit
      refine ⟨⟨by simp, by simpa using only.captured, only.scheduled⟩, ?_⟩
      simp only [potential, same, Option.isNone_some, List.length_cons]
      simp
      omega

/-- A restart is handed on as it was counted. -/
theorem schedule_potential (only : c.Only path) {configPath : String} (member : configPath ∈ c.captured) :
    (c.schedule configPath).Only path ∧ (c.schedule configPath).potential = c.potential := by
  have fewer := List.length_erase_of_mem member
  have some := List.length_pos_of_mem member
  refine ⟨⟨only.desired, fun wanted inside => only.captured wanted (List.mem_of_mem_erase inside),
    List.forall_mem_cons.mpr ⟨only.captured configPath member, only.scheduled⟩⟩, ?_⟩
  rw [potential, schedule, potential]
  dsimp only
  rw [List.length_cons]
  omega

/-- The supervisor carries out what has been counted when it was scheduled. -/
theorem runTask_potential (only : c.Only path) {configPath : String} (member : configPath ∈ c.scheduled)
    (launch : Launch) :
    (c.runTask configPath launch).Only path ∧ (c.runTask configPath launch).potential ≤ c.potential := by
  obtain rfl := only.scheduled configPath member
  have fewer := List.length_erase_of_mem member
  have some := List.length_pos_of_mem member
  have left : Only configPath { c with scheduled := c.scheduled.erase configPath } :=
    ⟨only.desired, only.captured,
      fun wanted inside => only.scheduled wanted (List.mem_of_mem_erase inside)⟩
  obtain ⟨kept, raised⟩ := start_potential left launch
  refine ⟨kept, raised.trans ?_⟩
  simp only [potential]
  omega

end SingBoxController

/-- Each operation raises the potential by what the client pays for it. -/
theorem ControllerStep.potential {path : String} {c next : SingBoxController} {op : ControllerOp}
    (step : ControllerStep c op next) (uses : op.Uses path) (only : c.Only path) :
    next.Only path ∧ next.potential ≤ c.potential + (op.asked + 3 * op.stopped) := by
  cases step with
  | start configPath launch =>
    obtain rfl : configPath = path := uses
    exact SingBoxController.start_potential only launch
  | stop destroyed => exact SingBoxController.stop_potential only destroyed
  | restart configPath destroyed launch =>
    obtain rfl : configPath = path := uses
    obtain ⟨stopped, first⟩ := SingBoxController.stop_potential only destroyed
    obtain ⟨started, second⟩ := SingBoxController.start_potential stopped launch
    refine ⟨started, second.trans ?_⟩
    simp only [ControllerOp.asked, ControllerOp.stopped]
    omega
  | exit running => exact ⟨⟨only.desired, only.captured, only.scheduled⟩, Nat.le_add_right ..⟩
  | noticeExit awaited exited =>
    obtain ⟨kept, same⟩ := SingBoxController.noticeExit_potential only _
    exact ⟨kept, same.le⟩
  | scheduleRestart restarting => exact SingBoxController.scheduleRestart_potential only
  | schedule captured =>
    obtain ⟨kept, same⟩ := SingBoxController.schedule_potential only captured
    exact ⟨kept, same.le⟩
  | runTask scheduled => exact SingBoxController.runTask_potential only scheduled _

/-! ## One process at a time -/

/-- A process that runs is the controller's own, and the only one. -/
def SingBoxController.Single (c : SingBoxController) : Prop :=
  c.alive = [] ∨ ∃ process, c.process = some process ∧ c.alive = [process]

namespace SingBoxController

variable {c : SingBoxController}

/-- A controller that does not run has no process. -/
theorem Single.idle (single : c.Single) (stopped : c.isRunning = false) : c.alive = [] := by
  obtain none | ⟨process, own, alive⟩ := single
  · exact none
  · rw [isRunning, own] at stopped
    simp [alive] at stopped

theorem start_single (single : c.Single) (configPath : String) (launch : Launch) :
    (c.start configPath launch).Single := by
  by_cases running : c.isRunning = true
  · rw [start, if_pos running]
    exact single
  have none := single.idle (by simpa using running)
  rw [start, if_neg running]
  split_ifs
  · exact single
  · exact .inl none
  · exact .inr ⟨c.started, rfl, by simp [none]⟩
  · exact .inl none
  · exact .inr ⟨c.started, rfl, by simp [none]⟩

theorem stop_single (single : c.Single) : (c.stop true).Single := by
  rw [stop]
  obtain none | ⟨process, own, alive⟩ := single
  · cases c.process with
    | none => exact .inl none
    | some process => exact .inl (by simp [none])
  · rw [own]
    exact .inl (by simp [alive])

theorem noticeExit_single (single : c.Single) {exited : ℕ} (gone : exited ∉ c.alive) :
    (c.noticeExit exited).Single := by
  by_cases own : c.process = some exited
  · have none : c.alive = [] := by
      obtain none | ⟨process, same, alive⟩ := single
      · exact none
      · obtain rfl : process = exited := Option.some.inj (same.symm.trans own)
        simp [alive] at gone
    rw [noticeExit]
    split_ifs
    · exact .inl none
    · exact .inl none
    · exact .inl none
  · rw [noticeExit, if_pos own]
    exact single

end SingBoxController

/-- Where stops wait for their process, no step leaves a second one running. -/
theorem ControllerStep.single {c next : SingBoxController} {op : ControllerOp}
    (step : ControllerStep c op next) (waits : op.Waits) (single : c.Single) : next.Single := by
  cases step with
  | start configPath launch => exact SingBoxController.start_single single configPath launch
  | stop destroyed =>
    obtain rfl : destroyed = true := waits
    exact SingBoxController.stop_single single
  | restart configPath destroyed launch =>
    obtain rfl : destroyed = true := waits
    exact SingBoxController.start_single (SingBoxController.stop_single single) configPath launch
  | exit running =>
    obtain none | ⟨own, -, alive⟩ := single
    · rw [none] at running
      cases running
    · rw [alive, List.mem_singleton] at running
      subst running
      exact .inl (by simp [alive])
  | noticeExit _ exited => exact SingBoxController.noticeExit_single single exited
  | scheduleRestart restarting =>
    rw [SingBoxController.scheduleRestart]
    split
    · exact single
    · split_ifs
      · exact single
      · exact single
  | schedule _ => exact single
  | @runTask configPath _ _ =>
    have left : SingBoxController.Single { c with scheduled := c.scheduled.erase configPath } := single
    exact SingBoxController.start_single left _ _

/-- However often sing-box exits, the supervisor starts it three times at most up to the first stop and
after each one, besides the starts that the clients ask for; and one process runs at a time. -/
theorem supervised_restarts {path : String} {ops : List ControllerOp} {last : SingBoxController}
    (uses : ∀ op ∈ ops, op.Uses path) (run : Run ControllerStep {} ops last) :
    last.started ≤ (ops.map ControllerOp.asked).sum + 3 * ((ops.map ControllerOp.stopped).sum + 1) ∧
      ((∀ op ∈ ops, op.Waits) →
        last.alive.length ≤ 1 ∧ ∀ process ∈ last.alive, last.process = some process) := by
  constructor
  · have paid := run.potential SingBoxController.potential
      (fun op => op.asked + 3 * op.stopped) (motive := SingBoxController.Only path)
      ⟨by simp, by simp, by simp⟩ fun _ _ op member only step => step.potential (uses op member) only
    have enough : last.started ≤ last.potential := by
      rw [SingBoxController.potential]
      omega
    have initial : SingBoxController.potential {} = 3 := rfl
    rw [List.sum_map_add, List.sum_map_mul_left, initial] at paid
    omega
  · intro waits
    have single : last.Single := run.invariant (motive := SingBoxController.Single) (.inl rfl)
      fun _ _ op member single step => step.single (waits op member) single
    obtain none | ⟨process, own, alive⟩ := single
    · simp [none]
    · simp [alive, own]

/-- A process exits and is started again. -/
def crash (process : ℕ) : List ControllerOp :=
  [.exit process, .noticeExit process, .scheduleRestart, .schedule "config.json",
    .runTask "config.json" ⟨true, true, true⟩]

def crashes : List ControllerOp :=
  .start "config.json" ⟨true, true, true⟩ :: (crash 0 ++ crash 1 ++ crash 2)

/-- What the controller has become after the crashes. -/
theorem crashes_run : Run ControllerStep {} crashes
    { process := some 3, desiredConfigPath := some "config.json", restartAttempts := 3, alive := [3],
      started := 4, awaited := [3] } := by
  apply Run.cons (.start ..)
  apply Run.cons (.exit (by decide))
  apply Run.cons (.noticeExit (by decide) (by decide))
  apply Run.cons (.scheduleRestart (by decide))
  apply Run.cons (.schedule (by decide))
  apply Run.cons (.runTask (by decide))
  apply Run.cons (.exit (by decide))
  apply Run.cons (.noticeExit (by decide) (by decide))
  apply Run.cons (.scheduleRestart (by decide))
  apply Run.cons (.schedule (by decide))
  apply Run.cons (.runTask (by decide))
  apply Run.cons (.exit (by decide))
  apply Run.cons (.noticeExit (by decide) (by decide))
  apply Run.cons (.scheduleRestart (by decide))
  apply Run.cons (.schedule (by decide))
  apply Run.cons (.runTask (by decide))
  apply Run.nil

/-- The controller that crashes again and again keeps to the bound. -/
theorem crashes_restarted : ∃ last, Run ControllerStep {} crashes last ∧ last.started = 4 ∧
    last.started ≤ (crashes.map ControllerOp.asked).sum +
      3 * ((crashes.map ControllerOp.stopped).sum + 1) ∧ last.alive.length ≤ 1 := by
  have uses : ∀ op ∈ crashes, op.Uses "config.json" := by simp [crashes, crash, ControllerOp.Uses]
  have waits : ∀ op ∈ crashes, op.Waits := by simp [crashes, crash, ControllerOp.Waits]
  obtain ⟨few, one⟩ := supervised_restarts uses crashes_run
  exact ⟨_, crashes_run, rfl, few, (one waits).1⟩

end ShadowNet.Android
