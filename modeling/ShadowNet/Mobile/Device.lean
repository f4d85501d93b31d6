import ShadowNet.Import.Concurrent
import ShadowNet.Mobile.Tick

/-! # The stores of a running agent

`ImportBundle` and `runOnce` share the stores of the state directory, and no lock spans what either of
them does with these. A call that has verified its bundle goes on as in `ProcessAndStore`; a tick first
reads the profiles, and selects and renders one of them later. Other calls and ticks may come between.
-/

namespace ShadowNet

open Go Go.Json

/-- The packages of a process that imports and ticks. -/
structure DevicePackages where
  imports : ImportPackages
  sorter : SliceSort
  quoted : GoString → GoString
  onAndroid : Bool

def DevicePackages.ticks (packages : DevicePackages) : TickPackages :=
  ⟨packages.imports.engine, packages.imports.aead, packages.sorter, packages.quoted,
    packages.onAndroid⟩

/-- A bundle that a call of `ImportBundle` has verified, and the configuration of the call. -/
structure ImportedBundle where
  cfg : AgentConfig
  bundleBytes : Bytes
  payload : BundlePayload

/-- A call of `ImportBundle` that has opened its stores. -/
structure PendingImport where
  call : BundleCall
  cfg : AgentConfig
  bundleBytes : Bytes
  opened : OpenedImport
  phase : ImportPhase

def PendingImport.imported (pending : PendingImport) : ImportedBundle :=
  ⟨pending.cfg, pending.bundleBytes, pending.opened.payload⟩

def PendingImport.store (pending : PendingImport) : StoreCall :=
  pending.call.store pending.opened.payload

/-- A tick that has read the profiles, and the IDs that were revoked when it did. -/
structure PendingTick where
  cfg : AgentConfig
  answers : TickAnswers
  choice : TickChoice
  revoked : List GoString

/-- The process and its disk with what is under way, the imports that have been verified, and the IDs
that have been revoked and not brought back. -/
structure Device where
  shared : RuntimeState
  disk : Disk
  importing : ℕ → Option PendingImport
  ticking : ℕ → Option PendingTick
  imports : List ImportedBundle
  revoked : List GoString

inductive DeviceLabel where
  | openBundle (i : ℕ) (cfg : AgentConfig) (call : BundleCall)
  | advance (i : ℕ)
  | choose (i : ℕ) (cfg : AgentConfig) (answers : TickAnswers)
  | run (i : ℕ)
  | others (shared : RuntimeState) (disk : Disk)

def profilesPath (stateDir : GoString) : GoString := pathJoin stateDir (lit "profiles.enc")

/-- Configurations with the same stores, which the rendered file is not written over. -/
structure AgentConfig.Uses (cfg : AgentConfig) (stateDir : GoString) (key : MasterKey) : Prop where
  dir : cfg.stateDir = stateDir
  key : parseMasterKey cfg.masterKey = .ok key
  apart : ShadowNet.configPath cfg ≠ profilesPath stateDir ∧
    ShadowNet.configPath cfg ≠ templatesPath cfg ∧ ShadowNet.configPath cfg ≠ adaptivePath cfg

/-- The revoked IDs without those that the bundle brings. -/
def ImportedBundle.restores (imported : ImportedBundle) (revoked : List GoString) : List GoString :=
  revoked.filter fun id => id ∉ (imported.payload.profiles.getD []).map (·.id)

/-- The revoked IDs after an import that has succeeded. -/
def ImportedBundle.revokes (imported : ImportedBundle) (revoked : List GoString) : List GoString :=
  imported.restores (imported.payload.revocations.getD [] ++ revoked)

variable (packages : DevicePackages)

/-- `ImportBundle` before `ProcessAndStore`. -/
def Device.afterOpen (device : Device) (i : ℕ) (cfg : AgentConfig) (call : BundleCall) : Device :=
  match call.opened packages.imports cfg device.disk with
  | .error _ => device
  | .ok opened =>
      let pending : PendingImport :=
        ⟨call, cfg, ((device.disk.read call.path).bind fileBundle).getD [], opened, .start⟩
      { device with
        importing := Function.update device.importing i (some pending)
        imports := pending.imported :: device.imports }

/-- The next step of a call: the disk after it, and where the call is then. -/
def PendingImport.next (pending : PendingImport) (disk : Disk) : Disk × ImportPhase :=
  let (files, phase) := pending.store.advance (packages.imports.aead pending.opened.key)
    (pending.opened.files disk) pending.phase
  (pending.opened.write disk files, phase)

/-- The revoked IDs after a step of a call. A write of the profiles that fails may have brought some
back all the same. -/
def PendingImport.revoking (pending : PendingImport) (phase : ImportPhase) (revoked : List GoString) :
    List GoString :=
  match pending.phase with
  | .templatesSaved _ _ _ =>
      if phase.succeeded then pending.imported.revokes revoked else pending.imported.restores revoked
  | _ => revoked

def Device.afterAdvance (device : Device) (i : ℕ) : Device :=
  match device.importing i with
  | none => device
  | some pending =>
      let (disk, phase) := pending.next packages device.disk
      { device with
        disk
        importing := Function.update device.importing i (some { pending with phase })
        revoked := pending.revoking phase device.revoked }

/-- `runOnce` before it takes the shared state. -/
def Device.afterChoose (device : Device) (i : ℕ) (cfg : AgentConfig) (answers : TickAnswers) : Device :=
  match chooseProfile packages.ticks cfg answers device.disk with
  | .error message =>
      { device with shared := updateError message answers.updatedAt device.shared }
  | .ok choice =>
      { device with
        ticking := Function.update device.ticking i (some ⟨cfg, answers, choice, device.revoked⟩) }

/-- `runOnce` from where it takes the shared state. -/
def PendingTick.finish (tick : PendingTick) (s : TickState) : TickState × Option GoString :=
  let (selected, reason) := tick.choice.consult packages.ticks s.shared tick.answers.response
  match checkSwitch tick.choice selected s.shared.history >>= fun _ =>
    renderTick packages.ticks tick.cfg tick.choice selected tick.answers s.disk with
  | .error (message, failure) =>
      ({ shared := updateError message tick.answers.updatedAt s.shared
         disk := saveAdaptive packages.ticks tick.cfg tick.choice tick.answers
           (tick.choice.adaptive.recordAttempt selected.id failedSignal failure
             tick.answers.attemptedAt) s.disk }, none)
  | .ok cfgBytes =>
      ({ shared := tickSection selected.id reason tick.answers.updatedAt s.shared
         disk := saveAdaptive packages.ticks tick.cfg tick.choice tick.answers
           ((tick.choice.adaptive.recordSelection selected.id).recordAttempt selected.id
             successSignal [] tick.answers.attemptedAt)
           (Function.update s.disk (configPath tick.cfg) (.holding cfgBytes)) }, some selected.id)

def Device.afterRun (device : Device) (i : ℕ) : Device :=
  match device.ticking i with
  | none => device
  | some tick =>
      let (state, _) := tick.finish packages ⟨device.shared, device.disk⟩
      { device with
        shared := state.shared
        disk := state.disk
        ticking := Function.update device.ticking i none }

/-- A process over one state directory; what else runs on the device leaves the two stores alone. -/
inductive DeviceStep (stateDir : GoString) (key : MasterKey) : Device → DeviceLabel → Device → Prop
  | openBundle {device : Device} {i : ℕ} {cfg : AgentConfig} (free : device.importing i = none)
      (uses : cfg.Uses stateDir key) (call : BundleCall) :
      DeviceStep stateDir key device (.openBundle i cfg call)
        (device.afterOpen packages i cfg call)
  | advance {device : Device} (i : ℕ) :
      DeviceStep stateDir key device (.advance i) (device.afterAdvance packages i)
  | choose {device : Device} {i : ℕ} {cfg : AgentConfig} (free : device.ticking i = none)
      (uses : cfg.Uses stateDir key) (answers : TickAnswers) :
      DeviceStep stateDir key device (.choose i cfg answers)
        (device.afterChoose packages i cfg answers)
  | run {device : Device} (i : ℕ) :
      DeviceStep stateDir key device (.run i) (device.afterRun packages i)
  | others {device : Device} (shared : RuntimeState) (disk : Disk)
      (profiles : disk (profilesPath stateDir) = device.disk (profilesPath stateDir))
      (templates : disk (pathJoin stateDir (lit "templates.enc")) =
        device.disk (pathJoin stateDir (lit "templates.enc"))) :
      DeviceStep stateDir key device (.others shared disk) { device with shared, disk }

/-! ## Calls and ticks that are left alone -/

variable {packages} {device : Device} {i : ℕ} {cfg : AgentConfig} {call : BundleCall}

theorem afterAdvance_of_held {pending : PendingImport}
    (held : device.importing i = some pending) : device.afterAdvance packages i =
      { device with
        disk := (pending.next packages device.disk).1
        importing := Function.update device.importing i
          (some { pending with phase := (pending.next packages device.disk).2 })
        revoked := pending.revoking (pending.next packages device.disk).2 device.revoked } := by
  simp only [Device.afterAdvance, held]

theorem OpenedImport.files_write {opened : OpenedImport} {disk : Disk} {files : StoreFiles}
    (apart : opened.templatesPath ≠ opened.profilesPath) (some : files.templates.isSome = true) :
    opened.files (opened.write disk files) = files := by
  obtain ⟨file, held⟩ := Option.isSome_iff_exists.mp some
  rw [OpenedImport.files, OpenedImport.write, Function.update_self, Function.update_of_ne apart,
    Function.update_self, held, Option.getD_some, ← held]

theorem OpenedImport.write_write (opened : OpenedImport) (disk : Disk) {files after : StoreFiles}
    (apart : opened.templatesPath ≠ opened.profilesPath) (some : after.templates.isSome = true) :
    opened.write (opened.write disk files) after = opened.write disk after := by
  obtain ⟨file, held⟩ := Option.isSome_iff_exists.mp some
  simp only [OpenedImport.write, held, Option.getD_some]
  rw [Function.update_comm apart, Function.update_idem, Function.update_comm apart.symm,
    Function.update_idem, Function.update_comm apart]

theorem advance_templates_isSome {aead : Aead} {store : StoreCall} {files : StoreFiles}
    (phase : ImportPhase) (some : files.templates.isSome = true) :
    (store.advance aead files phase).1.templates.isSome = true := by
  obtain same | ⟨_, _, _, _, -, after⟩ | ⟨_, _, _, -, after⟩ :=
    advance_files aead store files phase
  · rwa [same]
  · rw [after]
    exact Option.isSome_map.trans some
  · rw [after]
    exact some

/-- The steps of a call that is left alone, on the disk and on its stores. -/
theorem afterAdvance_iterate {pending : PendingImport} (held : device.importing i = some pending)
    (apart : pending.opened.templatesPath ≠ pending.opened.profilesPath) (n : ℕ) :
    let at_ := (fun at_ : StoreFiles × ImportPhase =>
      pending.store.advance (packages.imports.aead pending.opened.key) at_.1 at_.2)^[n]
        (pending.opened.files device.disk, pending.phase)
    at_.1.templates.isSome = true ∧
      ((·.afterAdvance packages i)^[n] device).disk = pending.opened.write device.disk at_.1 ∧
      ((·.afterAdvance packages i)^[n] device).importing i = some { pending with phase := at_.2 } := by
  induction n with
  | zero =>
    refine ⟨rfl, ?_, held⟩
    simp only [Function.iterate_zero_apply, OpenedImport.write, OpenedImport.files,
      Option.getD_some, Function.update_eq_self]
  | succ n ih =>
    obtain ⟨stores, disk, known⟩ := ih
    simp only [Function.iterate_succ_apply'] at stores disk known ⊢
    generalize (fun at_ : StoreFiles × ImportPhase => pending.store.advance
      (packages.imports.aead pending.opened.key) at_.1 at_.2)^[n] _ = at_ at stores disk known ⊢
    have kept := @advance_templates_isSome (packages.imports.aead pending.opened.key)
      pending.store at_.1 at_.2 stores
    refine ⟨kept, ?_, ?_⟩ <;>
      rw [afterAdvance_of_held known] <;>
      simp only [PendingImport.next, PendingImport.store, disk, Function.update_self,
        OpenedImport.files_write apart stores]
    exact OpenedImport.write_write _ _ apart kept

theorem run_alone (packages : DevicePackages) (stateDir : GoString) (key : MasterKey)
    (device : Device) (i n : ℕ) : Run (DeviceStep packages stateDir key) device
      (List.replicate n (.advance i)) ((·.afterAdvance packages i)^[n] device) := by
  induction n generalizing device with
  | zero => exact .nil device
  | succ n ih => exact .cons (.advance i) (ih (device.afterAdvance packages i))

theorem templatesPath_ne (cfg : AgentConfig) : templatesPath cfg ≠ profilesPath cfg.stateDir :=
  pathJoin_ne (by decide) (by decide) (by decide)

theorem opened_paths {disk : Disk} {opened : OpenedImport}
    (ok : call.opened packages.imports cfg disk = .ok opened) :
    opened.profilesPath = profilesPath cfg.stateDir ∧ opened.templatesPath = templatesPath cfg ∧
      parseMasterKey cfg.masterKey = .ok opened.key := by
  obtain ⟨-, -, parsed, -, profiles, templates, -⟩ := opened_eq_ok.mp ok
  exact ⟨profiles, templates, parsed⟩

/-- A call that nothing comes between is `ImportBundle`. -/
theorem import_alone (device : Device) {opened : OpenedImport}
    (ok : call.opened packages.imports cfg device.disk = .ok opened) :
    let after := (·.afterAdvance packages i)^[4] (device.afterOpen packages i cfg call)
    after.disk = (importBundle packages.imports call cfg device.disk).1 ∧
      (after.importing i).map (·.phase) =
        some (.returned (importBundle packages.imports call cfg device.disk).2) := by
  obtain ⟨profiles, templates, -⟩ := opened_paths ok
  have apart : opened.templatesPath ≠ opened.profilesPath := by
    rw [profiles, templates]
    exact templatesPath_ne cfg
  have start : (device.afterOpen packages i cfg call).importing i =
        some ⟨call, cfg, ((device.disk.read call.path).bind fileBundle).getD [], opened, .start⟩ ∧
      (device.afterOpen packages i cfg call).disk = device.disk := by
    simp only [Device.afterOpen, ok, Function.update_self, and_self]
  obtain ⟨-, disk, phase⟩ := @afterAdvance_iterate packages _ _ _ start.1 apart 4
  dsimp only
  rw [disk, phase, start.2, importBundle, ok]
  change _ ∧ some _ = _
  rw [PendingImport.store, StoreCall.advance_alone]
  exact ⟨rfl, rfl⟩

/-- A tick that nothing comes between is `runOnce`. -/
theorem tick_alone (device : Device) {answers : TickAnswers} {choice : TickChoice}
    (chosen : chooseProfile packages.ticks cfg answers device.disk = .ok choice) :
    let after := (device.afterChoose packages i cfg answers).afterRun packages i
    let ran := runOnce packages.ticks cfg answers ⟨device.shared, device.disk⟩
    after.shared = ran.1.shared ∧ after.disk = ran.1.disk ∧
      (PendingTick.finish packages ⟨cfg, answers, choice, device.revoked⟩
        ⟨device.shared, device.disk⟩).2 = ran.2 := by
  have same : runOnce packages.ticks cfg answers ⟨device.shared, device.disk⟩ =
      PendingTick.finish packages ⟨cfg, answers, choice, device.revoked⟩
        ⟨device.shared, device.disk⟩ := by
    unfold runOnce
    rw [chosen]
    rfl
  dsimp only
  rw [same]
  simp only [Device.afterChoose, chosen, Device.afterRun, Function.update_self, and_self]

end ShadowNet
