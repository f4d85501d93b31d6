import ShadowNet.Mobile.Tick

/-! # Resetting what has been learned

`ResetLearning` removes the adaptive file. A tick loads that file once and, on every way out that
comes after it has chosen a profile, saves what it has loaded together with its own attempt. A reset
between the two is undone by the save, unless there was nothing to forget. Each load, save and reset
is one step here; a log keeps what has been recorded since the last reset.
-/

namespace ShadowNet

open Go

/-! ## Logs -/

/-- Entries of adaptive states. -/
structure LearningLog where
  events : List NetworkEvent := []
  cooldown : List (GoString × Int64) := []
  selections : List GoString := []
deriving DecidableEq

def AdaptiveState.log (s : AdaptiveState) : LearningLog :=
  ⟨s.events, s.cooldown.entries, s.selectionHistory⟩

instance : Append LearningLog where
  append first second := ⟨first.events ++ second.events, first.cooldown ++ second.cooldown,
    first.selections ++ second.selections⟩

/-- The entries as they are read back. -/
def LearningLog.reloaded (log : LearningLog) : LearningLog :=
  ⟨log.events.map NetworkEvent.reloaded, log.cooldown.map fun entry => (toValid entry.1, entry.2),
    log.selections.map toValid⟩

/-- Every entry of the second log is in the first one, up to how JSON writes its strings. -/
structure LearningLog.Covers (log part : LearningLog) : Prop where
  events : part.reloaded.events ⊆ log.reloaded.events
  cooldown : part.reloaded.cooldown ⊆ log.reloaded.cooldown
  selections : part.reloaded.selections ⊆ log.reloaded.selections

theorem LearningLog.Covers.refl (log : LearningLog) : log.Covers log :=
  ⟨List.Subset.refl _, List.Subset.refl _, List.Subset.refl _⟩

theorem LearningLog.Covers.trans {first second third : LearningLog} (one : first.Covers second)
    (other : second.Covers third) : first.Covers third :=
  ⟨List.Subset.trans other.events one.events, List.Subset.trans other.cooldown one.cooldown,
    List.Subset.trans other.selections one.selections⟩

theorem LearningLog.Covers.of_subset {log part : LearningLog} (events : part.events ⊆ log.events)
    (cooldown : part.cooldown ⊆ log.cooldown) (selections : part.selections ⊆ log.selections) :
    log.Covers part :=
  ⟨List.map_subset _ events, List.map_subset _ cooldown, List.map_subset _ selections⟩

theorem LearningLog.Covers.left (first second : LearningLog) : (first ++ second).Covers first :=
  .of_subset (List.subset_append_left ..) (List.subset_append_left ..)
    (List.subset_append_left ..)

theorem LearningLog.Covers.append_right {log part : LearningLog} (covers : log.Covers part)
    (news : LearningLog) : (log ++ news).Covers (part ++ news) := by
  obtain ⟨events, cooldown, selections⟩ := covers
  constructor
  · change (part.events ++ news.events).map _ ⊆ (log.events ++ news.events).map _
    rw [List.map_append, List.map_append]
    exact List.append_subset.mpr ⟨List.subset_append_of_subset_left _ events,
      List.subset_append_right ..⟩
  · change (part.cooldown ++ news.cooldown).map _ ⊆ (log.cooldown ++ news.cooldown).map _
    rw [List.map_append, List.map_append]
    exact List.append_subset.mpr ⟨List.subset_append_of_subset_left _ cooldown,
      List.subset_append_right ..⟩
  · change (part.selections ++ news.selections).map _ ⊆ (log.selections ++ news.selections).map _
    rw [List.map_append, List.map_append]
    exact List.append_subset.mpr ⟨List.subset_append_of_subset_left _ selections,
      List.subset_append_right ..⟩

/-- A state has the same entries after it has been saved and loaded. -/
theorem covers_reloaded (s : AdaptiveState) : s.log.Covers s.reloaded.log := by
  constructor
  · intro e member
    obtain ⟨other, inside, rfl⟩ := List.mem_map.mp member
    obtain ⟨own, held, rfl⟩ := List.mem_map.mp inside
    refine List.mem_map.mpr ⟨own, held, ?_⟩
    simp only [NetworkEvent.reloaded, toValid_toValid]
  · intro entry member
    obtain ⟨other, inside, rfl⟩ := List.mem_map.mp member
    rcases Map.mem_insertAll inside with held | old
    · obtain ⟨own, holds, rfl⟩ := List.mem_map.mp held
      refine List.mem_map.mpr ⟨own, holds, ?_⟩
      simp only [toValid_toValid]
    · cases old
  · intro id member
    obtain ⟨other, inside, rfl⟩ := List.mem_map.mp member
    obtain ⟨own, held, rfl⟩ := List.mem_map.mp inside
    exact List.mem_map.mpr ⟨own, held, (toValid_toValid own).symm⟩

/-! ## What an attempt records -/

/-- What a tick records when it ends: a failed attempt, or a selection with a successful one. -/
def AdaptiveState.recordOutcome (s : AdaptiveState) (profileID : GoString)
    (failure : Option GoString) (now : Int64) : AdaptiveState :=
  match failure with
  | some failure => s.recordAttempt profileID failedSignal failure now
  | none => (s.recordSelection profileID).recordAttempt profileID successSignal [] now

/-- What is recorded in a state that has just been reset is the record itself. -/
def AdaptiveState.outcomeLog (s : AdaptiveState) (profileID : GoString) (failure : Option GoString)
    (now : Int64) : LearningLog :=
  (s.reset.recordOutcome profileID failure now).log

theorem lastOf_subset {α : Type} (count : ℕ) (items : List α) : lastOf count items ⊆ items :=
  List.drop_subset ..

theorem mem_lastOf_append {α : Type} {count : ℕ} (room : 0 < count) (items : List α) (item : α) :
    item ∈ lastOf count (items ++ [item]) := by
  rw [lastOf, List.drop_append_of_le_length (by simp; omega)]
  exact List.mem_append_right _ (List.mem_singleton_self item)

section

variable (s t : AdaptiveState) (profileID : GoString) (signal : AttemptSignal) (failure : GoString)
  (now : Int64)

theorem recordAttempt_selectionHistory :
    (s.recordAttempt profileID signal failure now).selectionHistory = s.selectionHistory := by
  unfold AdaptiveState.recordAttempt
  dsimp only
  split_ifs <;> rfl

private theorem window_positive : 0 < s.ensureDefaults.maxEvents.toInt.toNat := by
  have low := Int64.le_iff_toInt_le.mp s.ensureDefaults_sized.1
  have fifty : (50 : Int64).toInt = 50 := by decide
  omega

/-- The entries of a state after an attempt are its own and those of the attempt. -/
theorem recordAttempt_log (same : t.enabled = s.enabled) :
    (s.recordAttempt profileID signal failure now).events ⊆
        s.events ++ (t.recordAttempt profileID signal failure now).events ∧
      (s.recordAttempt profileID signal failure now).cooldown.entries ⊆
        s.cooldown.entries ++ (t.recordAttempt profileID signal failure now).cooldown.entries := by
  have switched : t.ensureDefaults.enabled = s.ensureDefaults.enabled := same
  unfold AdaptiveState.recordAttempt
  dsimp only
  rw [switched]
  by_cases ignored : s.ensureDefaults.enabled = false ∨ isBlank profileID = true
  · rw [if_pos ignored, if_pos ignored]
    exact ⟨List.subset_append_left .., List.subset_append_left ..⟩
  · rw [if_neg ignored, if_neg ignored]
    constructor
    · intro e member
      rcases List.mem_append.mp (lastOf_subset _ _ member) with old | new
      · exact List.mem_append_left _ old
      · obtain rfl := List.mem_singleton.mp new
        exact List.mem_append_right _ (mem_lastOf_append (window_positive t) _ _)
    · dsimp only
      split_ifs with connected
      · exact List.subset_append_left ..
      · intro entry member
        rcases Map.mem_insertIn member with rfl | old
        · apply List.mem_append_right
          apply (Map.find?_eq_some _).mp
          rw [Map.find?_insert, if_pos rfl]
        · exact List.mem_append_left _ old

/-- A state never has more than it had and what it has recorded. -/
theorem recordOutcome_covers (outcome : Option GoString) :
    (s.log ++ s.outcomeLog profileID outcome now).Covers
      (s.recordOutcome profileID outcome now).log := by
  cases outcome with
  | some failure =>
    obtain ⟨events, cooldown⟩ := recordAttempt_log s s.reset profileID failedSignal failure now rfl
    apply LearningLog.Covers.of_subset events cooldown
    change (s.recordAttempt profileID failedSignal failure now).selectionHistory ⊆ _
    rw [recordAttempt_selectionHistory]
    exact List.subset_append_left ..
  | none =>
    have kept (u : AdaptiveState) : (u.recordSelection profileID).enabled = u.enabled ∧
        (u.recordSelection profileID).events = u.events ∧
        (u.recordSelection profileID).cooldown = u.cooldown := by
      unfold AdaptiveState.recordSelection
      split_ifs <;> exact ⟨rfl, rfl, rfl⟩
    obtain ⟨events, cooldown⟩ := recordAttempt_log (s.recordSelection profileID)
      (s.reset.recordSelection profileID) profileID successSignal [] now
      ((kept s.reset).1.trans (kept s).1.symm)
    rw [(kept s).2.1] at events
    rw [(kept s).2.2] at cooldown
    apply LearningLog.Covers.of_subset events cooldown
    change (AdaptiveState.recordAttempt _ profileID successSignal [] now).selectionHistory ⊆
      s.selectionHistory ++
        (AdaptiveState.recordAttempt _ profileID successSignal [] now).selectionHistory
    rw [recordAttempt_selectionHistory, recordAttempt_selectionHistory]
    unfold AdaptiveState.recordSelection
    split_ifs with blank
    · exact List.subset_append_left ..
    · intro id member
      rcases List.mem_append.mp (lastOf_subset _ _ member) with old | new
      · exact List.mem_append_left _ old
      · obtain rfl := List.mem_singleton.mp new
        exact List.mem_append_right _ (mem_lastOf_append (by decide) _ _)

end

/-! ## Ticks and resets -/

variable (packages : TickPackages) (cfg : AgentConfig)

/-- What a load of the adaptive store yields. -/
def loadLearning (disk : Disk) : Except Message AdaptiveState := do
  let key ← (parseMasterKey cfg.masterKey).mapError fun text => (⟨text, []⟩ : Message)
  loadAdaptive (packages.aead key) (disk (adaptivePath cfg))

/-- What `ResetLearning` gets from the operating system. -/
structure ResetAnswers where
  storeOpens : Bool := true
  removes : Bool := true

/-- The part of `ResetLearning` before the file is removed. -/
def checkReset (answers : ResetAnswers) (disk : Disk) : Except Message AgentConfig := do
  let cfg ← validateConfig cfg
  let _ ← (parseMasterKey cfg.masterKey).mapError fun text =>
    (⟨"invalid master_key: %w", [.err text]⟩ : Message)
  require (answers.storeOpens = true) ⟨"%w", [.foreign]⟩
  require (disk (adaptivePath cfg) = .absent ∨ answers.removes = true) ⟨"%w", [.foreign]⟩
  return cfg

/-- `ResetLearning` on the shared configuration: the disk after the call, and what it returns. -/
def resetLearning (answers : ResetAnswers) (disk : Disk) : Disk × Except Message Unit :=
  match checkReset cfg answers disk with
  | .error message => (disk, .error message)
  | .ok cfg => (Function.update disk (adaptivePath cfg) .absent, .ok ())

/-- A tick between its load and its save. -/
structure HeldTick where
  choice : TickChoice
  /-- What the tick holds has been reset since. -/
  stale : Bool

/-- The agent with its ticks, and what has been recorded since the last reset, if there was one. -/
structure Learning where
  disk : Disk
  tick : ℕ → Option HeldTick
  since : Option LearningLog

/-- No entry is older than the last reset. -/
def Learning.Covers (l : Learning) (s : AdaptiveState) : Prop :=
  ∀ log ∈ l.since, log.Covers s.log

inductive LearningLabel where
  | load (n : ℕ) (answers : TickAnswers)
  /-- `seen` is what the tick has read of the shared state and of other files on its way. -/
  | save (n : ℕ) (answers : TickAnswers) (seen : TickState)
  | reset (answers : ResetAnswers)
  | others (disk : Disk)

/-- The profile that a tick settles on, and the failure that it meets with it. -/
def TickChoice.outcome (choice : TickChoice) (answers : TickAnswers) (seen : TickState) :
    GoString × Option GoString :=
  let selected := (choice.consult packages seen.shared answers.response).1
  match checkSwitch choice selected seen.shared.history >>= fun _ =>
    renderTick packages cfg choice selected answers seen.disk with
  | .error (_, failure) => (selected.id, some failure)
  | .ok _ => (selected.id, none)

/-- The state that a tick saves. -/
def TickChoice.recorded (choice : TickChoice) (answers : TickAnswers) (seen : TickState) :
    AdaptiveState :=
  let (profileID, failure) := choice.outcome packages cfg answers seen
  choice.adaptive.recordOutcome profileID failure answers.attemptedAt

def TickChoice.news (choice : TickChoice) (answers : TickAnswers) (seen : TickState) :
    LearningLog :=
  let (profileID, failure) := choice.outcome packages cfg answers seen
  choice.adaptive.outcomeLog profileID failure answers.attemptedAt

def Learning.load (l : Learning) (n : ℕ) (answers : TickAnswers) : Learning :=
  { l with
    tick := Function.update l.tick n
      ((chooseProfile packages cfg answers l.disk).toOption.map fun choice => ⟨choice, false⟩) }

def Learning.save (l : Learning) (n : ℕ) (choice : TickChoice) (answers : TickAnswers)
    (seen : TickState) : Learning where
  disk := saveAdaptive packages cfg choice answers (choice.recorded packages cfg answers seen) l.disk
  tick := Function.update l.tick n none
  since := l.since.map (· ++ choice.news packages cfg answers seen)

@[simp] theorem Learning.load_tick (l : Learning) (n : ℕ) (answers : TickAnswers) :
    (l.load packages cfg n answers).tick = Function.update l.tick n
      ((chooseProfile packages cfg answers l.disk).toOption.map fun choice => ⟨choice, false⟩) := rfl

@[simp] theorem Learning.save_tick (l : Learning) (n : ℕ) (choice : TickChoice)
    (answers : TickAnswers) (seen : TickState) :
    (l.save packages cfg n choice answers seen).tick = Function.update l.tick n none := rfl

/-- A tick that holds entries when they are reset holds stale ones from then on. -/
def HeldTick.reset (held : HeldTick) : HeldTick :=
  { held with stale := held.stale || held.choice.adaptive.log ≠ {} }

def Learning.reset (l : Learning) (answers : ResetAnswers) : Learning :=
  match resetLearning cfg answers l.disk with
  | (disk, .ok ()) =>
      { disk, tick := fun n => (l.tick n).map HeldTick.reset, since := some {} }
  | (disk, .error _) => { l with disk }

/-- A save that fails leaves the file as it was, and nothing else writes adaptive states. -/
inductive LearningStep : Learning → LearningLabel → Learning → Prop
  | load {l : Learning} {n : ℕ} (answers : TickAnswers) (between : l.tick n = none) :
      LearningStep l (.load n answers) (l.load packages cfg n answers)
  | save {l : Learning} {n : ℕ} {held : HeldTick} (answers : TickAnswers) (seen : TickState)
      (holds : l.tick n = some held)
      (atomic : ∀ file ∈ answers.failedSave, file = l.disk (adaptivePath cfg)) :
      LearningStep l (.save n answers seen) (l.save packages cfg n held.choice answers seen)
  | reset {l : Learning} (answers : ResetAnswers) :
      LearningStep l (.reset answers) (l.reset cfg answers)
  | others {l : Learning} (disk : Disk)
      (kept : ∀ loaded, loadLearning packages cfg disk = .ok loaded →
        loadLearning packages cfg l.disk = .ok loaded) :
      LearningStep l (.others disk) { l with disk }

/-- What a step loads or persists is not older than the last reset. -/
def Forgets (l : Learning) (label : LearningLabel) (next : Learning) : Prop :=
  match label with
  | .load _ _ => ∀ loaded, loadLearning packages cfg l.disk = .ok loaded → l.Covers loaded
  | .save n answers seen => answers.failedSave = none → ∀ held, l.tick n = some held →
      next.Covers (held.choice.recorded packages cfg answers seen)
  | .reset _ | .others _ => True

/-- A tick that saves has not held entries that were reset after it loaded them. -/
def SavesFresh (l : Learning) (label : LearningLabel) (_next : Learning) : Prop :=
  match label with
  | .save n answers _ => answers.failedSave = none → ∀ held, l.tick n = some held →
      held.stale = false
  | _ => True

/-- A tick that nothing comes between leaves what its load and its save leave. -/
theorem runOnce_learning (answers : TickAnswers) (s : TickState) :
    (runOnce packages cfg answers s).1.disk (adaptivePath cfg) =
      match chooseProfile packages cfg answers s.disk with
      | .error _ => s.disk (adaptivePath cfg)
      | .ok choice => saveAdaptive packages cfg choice answers
          (choice.recorded packages cfg answers s) s.disk (adaptivePath cfg) := by
  unfold runOnce
  cases chooseProfile packages cfg answers s.disk with
  | error message => rfl
  | ok choice =>
    simp only [TickChoice.recorded, TickChoice.outcome, saveAdaptive, Function.update_self]
    cases checkSwitch choice (choice.consult packages s.shared answers.response).1
        s.shared.history >>= fun _ => renderTick packages cfg choice
          (choice.consult packages s.shared answers.response).1 answers s.disk with
    | error failure => exact Function.update_self _ _ _
    | ok cfgBytes => exact Function.update_self _ _ _

/-- A reset that succeeds removes the file of the ticks. -/
theorem resetLearning_ok {answers : ResetAnswers} {disk : Disk}
    (returned : (resetLearning cfg answers disk).2 = .ok ()) :
    (resetLearning cfg answers disk).1 = Function.update disk (adaptivePath cfg) .absent := by
  unfold resetLearning at returned ⊢
  cases checked : checkReset cfg answers disk with
  | error message => simp [checked] at returned
  | ok ready =>
    simp only [checkReset, bind_eq_ok, require_eq_ok, exists_const, mapError_eq_ok, pure_eq_ok]
      at checked
    obtain ⟨valid, passes, -, -, -, -, rfl⟩ := checked
    have same : adaptivePath valid = adaptivePath cfg := by
      rw [validateConfig_keeps passes]
      rfl
    simp only [same]

/-! ## What is loaded and saved -/

variable {packages cfg}

/-- A tick that holds a choice has loaded its state from the file, under the key of the store. -/
theorem chooseProfile_loaded {answers : TickAnswers} {disk : Disk} {choice : TickChoice}
    (chosen : chooseProfile packages cfg answers disk = .ok choice) :
    parseMasterKey cfg.masterKey = .ok choice.key ∧
      ∃ loaded, loadLearning packages cfg disk = .ok loaded ∧
        choice.adaptive.log = loaded.log := by
  simp only [chooseProfile, bind_eq_ok, require_eq_ok, exists_const, mapError_eq_ok, pure_eq_ok]
    at chosen
  obtain ⟨key, parsed, -, -, profiles, -, -, -, loaded, read, -, rfl⟩ := chosen
  refine ⟨parsed, loaded, ?_, rfl⟩
  simp only [loadLearning, bind_eq_ok, mapError_eq_ok]
  exact ⟨key, parsed, read⟩

/-- Loading what has been saved gives nothing that was not in it. -/
theorem loadLearning_saved {answers : TickAnswers} {choice : TickChoice} {disk : Disk}
    {saved loaded : AdaptiveState} (keyed : parseMasterKey cfg.masterKey = .ok choice.key)
    (written : answers.failedSave = none)
    (read : loadLearning packages cfg (saveAdaptive packages cfg choice answers saved disk) =
      .ok loaded) : saved.log.Covers loaded.log := by
  simp only [loadLearning, bind_eq_ok, mapError_eq_ok] at read
  obtain ⟨key, parsed, opened⟩ := read
  cases keyed.symm.trans parsed
  rw [saveAdaptive, Function.update_self, written, Option.getD_none] at opened
  have back := AdaptiveStore.load_save (packages.aead choice.key) answers.nonce saved
  obtain rfl : saved.reloaded = loaded := Except.ok.inj (back.symm.trans opened)
  exact covers_reloaded saved

theorem recorded_covers (choice : TickChoice) (answers : TickAnswers) (seen : TickState) :
    (choice.adaptive.log ++ choice.news packages cfg answers seen).Covers
      (choice.recorded packages cfg answers seen).log :=
  recordOutcome_covers ..

/-- No state that a load would yield, or that a tick without stale entries holds, has an entry older
than the last reset. -/
structure Current (packages : TickPackages) (cfg : AgentConfig) (l : Learning) : Prop where
  file : ∀ loaded, loadLearning packages cfg l.disk = .ok loaded → l.Covers loaded
  ticks : ∀ n held, l.tick n = some held → parseMasterKey cfg.masterKey = .ok held.choice.key ∧
    (held.stale = false → l.Covers held.choice.adaptive)

theorem Learning.Covers.of_log {l : Learning} {s t : AdaptiveState} (covers : l.Covers s)
    (part : s.log.Covers t.log) : l.Covers t :=
  fun log member => (covers log member).trans part

variable {l next : Learning} {label : LearningLabel}

/-- What a tick without stale entries saves is not older than the last reset. -/
theorem save_covers (current : Current packages cfg l) {n : ℕ} {held : HeldTick}
    (holds : l.tick n = some held) (fresh : held.stale = false) (answers : TickAnswers)
    (seen : TickState) : (l.save packages cfg n held.choice answers seen).Covers
      (held.choice.recorded packages cfg answers seen) := by
  intro log member
  obtain ⟨before, given, rfl⟩ := Option.map_eq_some_iff.mp member
  have own := (current.ticks n held holds).2 fresh before given
  exact (own.append_right _).trans (recorded_covers held.choice answers seen)

theorem Learning.Covers.after_save {s : AdaptiveState} (covers : l.Covers s) (n : ℕ)
    (choice : TickChoice) (answers : TickAnswers) (seen : TickState) :
    (l.save packages cfg n choice answers seen).Covers s := by
  intro log member
  obtain ⟨before, given, rfl⟩ := Option.map_eq_some_iff.mp member
  exact (LearningLog.Covers.left before _).trans (covers before given)

theorem current_load (current : Current packages cfg l) (n : ℕ) (answers : TickAnswers) :
    Current packages cfg (l.load packages cfg n answers) := by
  refine ⟨current.file, ?_⟩
  intro m held holds
  by_cases own : m = n
  · subst own
    rw [Learning.load_tick, Function.update_self] at holds
    obtain ⟨choice, chosen, rfl⟩ := Option.map_eq_some_iff.mp holds
    have chosen : chooseProfile packages cfg answers l.disk = .ok choice := by
      cases made : chooseProfile packages cfg answers l.disk with
      | error message => simp [made, Except.toOption] at chosen
      | ok other => simpa [made, Except.toOption] using chosen
    obtain ⟨keyed, loaded, read, same⟩ := chooseProfile_loaded chosen
    refine ⟨keyed, fun _ => (current.file loaded read).of_log ?_⟩
    rw [same]
    exact .refl _
  · rw [Learning.load_tick, Function.update_of_ne own] at holds
    exact current.ticks m held holds

theorem current_save (current : Current packages cfg l) {n : ℕ} {held : HeldTick}
    (holds : l.tick n = some held) {answers : TickAnswers} (seen : TickState)
    (atomic : ∀ file ∈ answers.failedSave, file = l.disk (adaptivePath cfg))
    (fresh : answers.failedSave = none → held.stale = false) :
    Current packages cfg (l.save packages cfg n held.choice answers seen) := by
  constructor
  · intro loaded read
    cases failed : answers.failedSave with
    | none =>
      have saved := save_covers current holds (fresh failed) answers seen
      exact saved.of_log (loadLearning_saved (current.ticks n held holds).1 failed read)
    | some file =>
      have unchanged : (l.save packages cfg n held.choice answers seen).disk = l.disk := by
        rw [Learning.save, saveAdaptive, failed, Option.getD_some, atomic file failed,
          Function.update_eq_self]
      rw [unchanged] at read
      exact (current.file loaded read).after_save n held.choice answers seen
  · intro m other found
    by_cases own : m = n
    · subst own
      rw [Learning.save_tick, Function.update_self] at found
      cases found
    · rw [Learning.save_tick, Function.update_of_ne own] at found
      obtain ⟨keyed, covers⟩ := current.ticks m other found
      exact ⟨keyed, fun fresh => (covers fresh).after_save n held.choice answers seen⟩

theorem current_reset (current : Current packages cfg l) (answers : ResetAnswers) :
    Current packages cfg (l.reset cfg answers) := by
  unfold Learning.reset
  have removed := @resetLearning_ok cfg answers l.disk
  split
  · rename_i disk result
    rw [result] at removed
    obtain rfl := removed rfl
    constructor
    · intro loaded read log member
      cases member
      simp only [loadLearning, bind_eq_ok, mapError_eq_ok, Function.update_self] at read
      obtain ⟨key, -, opened⟩ := read
      cases opened
      exact .refl _
    · intro n held holds
      obtain ⟨before, found, rfl⟩ := Option.map_eq_some_iff.mp holds
      refine ⟨(current.ticks n before found).1, ?_⟩
      intro fresh log member
      cases member
      have nothing : before.choice.adaptive.log = {} := by
        simp [HeldTick.reset] at fresh
        exact fresh.2
      change LearningLog.Covers {} before.choice.adaptive.log
      rw [nothing]
      exact .refl _
  · rename_i disk message result
    have same : disk = l.disk := by
      unfold resetLearning at result
      split at result
      · exact (congrArg Prod.fst result).symm
      · cases result
    rw [same]
    exact current

theorem forgets_of_fresh (current : Current packages cfg l)
    (step : LearningStep packages cfg l label next) (fresh : SavesFresh l label next) :
    Forgets packages cfg l label next := by
  cases step with
  | load answers between => exact current.file
  | save answers seen holds atomic =>
    intro written held found
    cases holds.symm.trans found
    exact save_covers current holds (fresh written _ holds) answers seen
  | reset answers => trivial
  | others disk kept => trivial

/-- A step whose save is fresh brings nothing back that has been reset. -/
theorem current_step (current : Current packages cfg l)
    (step : LearningStep packages cfg l label next) (fresh : SavesFresh l label next) :
    Current packages cfg next := by
  cases step with
  | load answers between => exact current_load current _ answers
  | save answers seen holds atomic =>
    exact current_save current holds seen atomic fun written => fresh written _ holds
  | reset answers => exact current_reset current answers
  | others disk kept =>
    exact ⟨fun loaded read => current.file loaded (kept loaded read), current.ticks⟩

/-- The agent before its first tick. -/
def Learning.start (disk : Disk) : Learning := ⟨disk, fun _ => none, none⟩

/-- Runs in which nothing comes between the load and the save of a tick. -/
inductive Unbroken : List LearningLabel → Prop
  | nil : Unbroken []
  | tick {labels : List LearningLabel} (n : ℕ) (answers later : TickAnswers) (seen : TickState)
      (rest : Unbroken labels) : Unbroken (.load n answers :: .save n later seen :: labels)
  | reset {labels : List LearningLabel} (answers : ResetAnswers) (rest : Unbroken labels) :
      Unbroken (.reset answers :: labels)
  | others {labels : List LearningLabel} (disk : Disk) (rest : Unbroken labels) :
      Unbroken (.others disk :: labels)

/-- Ticks that nothing comes between never save stale entries. -/
theorem savesFresh_unbroken {labels : List LearningLabel} (unbroken : Unbroken labels)
    (idle : ∀ n, l.tick n = none) : Always (LearningStep packages cfg) SavesFresh l labels := by
  induction unbroken generalizing l with
  | nil => trivial
  | tick n answers later seen rest ih =>
    intro loaded step
    cases step
    refine ⟨trivial, ?_⟩
    intro saved step
    cases step with
    | save later seen holds =>
      constructor
      · intro _ held found
        rw [Learning.load_tick, Function.update_self] at found
        obtain ⟨choice, -, rfl⟩ := Option.map_eq_some_iff.mp found
        rfl
      · apply ih
        intro m
        rw [Learning.save_tick, Learning.load_tick, Function.update_idem]
        by_cases own : m = n
        · rw [own, Function.update_self]
        · rw [Function.update_of_ne own, idle]
  | reset answers rest ih =>
    intro next step
    cases step
    refine ⟨trivial, ih ?_⟩
    intro n
    unfold Learning.reset
    split
    · simp only [idle, Option.map_none]
    · exact idle n
  | others disk rest ih =>
    intro next step
    cases step
    exact ⟨trivial, ih idle⟩

/-- In a run in which no tick saves entries that were reset after it loaded them, nothing that is
persisted or loaded after a reset is older than the reset. -/
theorem resets_last (packages : TickPackages) (cfg : AgentConfig) (disk : Disk)
    (labels : List LearningLabel)
    (fresh : Always (LearningStep packages cfg) SavesFresh (.start disk) labels) :
    Always (LearningStep packages cfg) (Forgets packages cfg) (.start disk) labels := by
  have initial : Current packages cfg (.start disk) :=
    ⟨fun _ _ _ member => (nomatch member), fun _ _ holds => (nomatch holds)⟩
  apply fresh.of_invariant initial
  · intro state next label _ current step met
    exact forgets_of_fresh current step met
  · intro state next label _ current step met
    exact current_step current step met

/-- What the ticks of the steady agent see. -/
def steadySeen : TickState := ⟨installSection steadyConfig 0 1000 {}, steadyDisk⟩

/-- A loop whose ticks do not overlap the reset between them. -/
theorem steady_forgets :
    Always (LearningStep steadyPackages steadyConfig) (Forgets steadyPackages steadyConfig)
      (.start steadyDisk)
      [.load 0 (answersAt 1000), .save 0 (answersAt 1000) steadySeen, .reset {},
        .load 0 (answersAt 1020), .save 0 (answersAt 1020) steadySeen] := by
  apply resets_last
  exact savesFresh_unbroken (.tick 0 _ _ _ (.reset _ (.tick 0 _ _ _ .nil))) fun _ => rfl

theorem steady_outcome {loaded : AdaptiveState} {now : Int64} (pick : SteadyPick loaded now) :
    (steadyChoice loaded now).outcome steadyPackages steadyConfig (answersAt now) steadySeen =
      (lit "p1", none) := by
  have start : SteadyDisk steadySeen.disk (newAdaptiveState 80) :=
    ⟨rfl, by decide, rfl, by decide⟩
  obtain ⟨cfgBytes, renders⟩ := start.renders (steadyChoice loaded now) now
  have few : steadySeen.shared.history.length < 6 := Nat.zero_lt_succ 5
  have consulted : (steadyChoice loaded now).consult steadyPackages steadySeen.shared
      (answersAt now).response = (steadyProfile.trusted, (steadyChoice loaded now).reason) := by
    rw [TickChoice.consult, if_neg (by simp [steadySeen, installSection]), pick.selected]
  have switched : checkSwitch (steadyChoice loaded now) steadyProfile.trusted
      steadySeen.shared.history = .ok () := by
    rw [checkSwitch_eq pick.known, if_pos few]
  have rendered : (checkSwitch (steadyChoice loaded now) steadyProfile.trusted
      steadySeen.shared.history >>= fun _ => renderTick steadyPackages steadyConfig
        (steadyChoice loaded now) steadyProfile.trusted (answersAt now) steadySeen.disk) =
      .ok cfgBytes := bind_eq_ok.mpr ⟨(), switched, renders⟩
  simp only [TickChoice.outcome, consulted, rendered]
  rfl

theorem steady_recorded {loaded : AdaptiveState} {now : Int64} (pick : SteadyPick loaded now) :
    (steadyChoice loaded now).recorded steadyPackages steadyConfig (answersAt now) steadySeen =
      steadySaved loaded now := by
  rw [TickChoice.recorded, steady_outcome pick]
  rfl

theorem steady_news {loaded : AdaptiveState} {now : Int64} (pick : SteadyPick loaded now) :
    (steadyChoice loaded now).news steadyPackages steadyConfig (answersAt now) steadySeen =
      (steadyChoice loaded now).adaptive.outcomeLog (lit "p1") none now := by
  rw [TickChoice.news, steady_outcome pick]
  rfl

theorem steady_held {l : Learning} {loaded : AdaptiveState} (steady : SteadyDisk l.disk loaded)
    {now : Int64} (pick : SteadyPick loaded now) :
    (l.load steadyPackages steadyConfig 0 (answersAt now)).tick 0 =
      some ⟨steadyChoice loaded now, false⟩ := by
  rw [Learning.load_tick, Function.update_self, steady.choice pick]
  rfl

/-- The key of the steady agent is one that a reset accepts. -/
theorem steady_resets (l : Learning) : ∃ disk, l.reset steadyConfig {} =
    { disk, tick := fun n => (l.tick n).map HeldTick.reset, since := some {} } := by
  obtain ⟨valid, passes⟩ : ∃ valid, validateConfig steadyConfig = .ok valid := by
    cases checked : validateConfig steadyConfig with
    | ok valid => exact ⟨valid, rfl⟩
    | error message =>
      have passes : (validateConfig steadyConfig).toBool = true := by decide
      rw [checked] at passes
      cases passes
  have key : parseMasterKey valid.masterKey = .ok ⟨List.replicate 32 0x6B, rfl⟩ := by
    rw [validateConfig_keeps passes]
    change parseMasterKey steadyConfig.masterKey = _
    decide
  have checked : checkReset steadyConfig {} l.disk = .ok valid := by
    simp only [checkReset, bind_eq_ok, require_eq_ok, exists_const, mapError_eq_ok, pure_eq_ok]
    exact ⟨valid, passes, _, key, trivial, Or.inr trivial, rfl⟩
  refine ⟨Function.update l.disk (adaptivePath valid) .absent, ?_⟩
  rw [Learning.reset, resetLearning, checked]

/-- A reset between the load and the save of the second tick: the save brings the first tick's
attempt back. -/
theorem steady_remembers :
    ¬ Always (LearningStep steadyPackages steadyConfig) (Forgets steadyPackages steadyConfig)
      (.start steadyDisk)
      [.load 0 (answersAt 1000), .save 0 (answersAt 1000) steadySeen, .load 0 (answersAt 1020),
        .reset {}, .save 0 (answersAt 1020) steadySeen] := by
  intro always
  have start : SteadyDisk (Learning.start steadyDisk).disk (newAdaptiveState 80) :=
    ⟨rfl, by decide, rfl, by decide⟩
  have pick : SteadyPick (newAdaptiveState 80) 1000 := ⟨by decide, by decide⟩
  have loads := (always _ (.load _ rfl)).2
  have saves := (loads _ (.save _ _ (steady_held start pick) (by simp [answersAt]))).2
  have again := (saves _ (.load _ (by
    rw [Learning.save_tick, Function.update_self]))).2
  have resets := (again _ (.reset _)).2
  -- the second tick holds the attempt of the first one
  have second : SteadyDisk (((Learning.start steadyDisk).load steadyPackages steadyConfig 0
      (answersAt 1000)).save steadyPackages steadyConfig 0 (steadyChoice (newAdaptiveState 80) 1000)
        (answersAt 1000) steadySeen).disk (steadySaved (newAdaptiveState 80) 1000).reloaded := by
    rw [Learning.save, steady_recorded pick]
    exact start.save _ 1000 _
  have next : SteadyPick (steadySaved (newAdaptiveState 80) 1000).reloaded 1020 :=
    ⟨by decide, by decide⟩
  have held := steady_held second next
  generalize Learning.load _ _ _ 0 (answersAt 1020) = l at held resets
  obtain ⟨disk, reset⟩ := steady_resets l
  rw [reset] at resets
  have holds : Option.map HeldTick.reset (l.tick 0) = _ := congrArg (Option.map HeldTick.reset) held
  have covers : LearningLog.Covers ({} ++ TickChoice.news _ _ _ _ _)
      (TickChoice.recorded _ _ _ _ _).log :=
    (resets _ (.save _ _ holds (by simp [answersAt]))).1 rfl _ holds _ rfl
  dsimp only [HeldTick.reset] at covers
  rw [steady_recorded next, steady_news next] at covers
  exact absurd covers.events (by decide)

end ShadowNet
