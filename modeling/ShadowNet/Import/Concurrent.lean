import ShadowNet.Mobile.ImportBundle

/-! # Concurrent imports

Each call of `ImportBundle` opens stores of its own, so that their locks do not exclude one another.
A call loads the profiles, loads and saves the templates, and saves the profiles; every one of these
is a step in which other calls may have their turn. What a save keeps is what its call has loaded.
-/

namespace ShadowNet

open Go Go.Json

/-- Where a call of `ProcessAndStore` is, with the locals that it still needs. -/
inductive ImportPhase where
  | start
  | loaded (payload : BundlePayload) (existing : List Profile)
  | templatesLoaded (payload : BundlePayload) (existing updated : List Profile)
      (current : Map GoString GoString)
  | templatesSaved (payload : BundlePayload) (existing updated : List Profile)
  | returned (result : Except ImportFailure Unit)

def ImportPhase.succeeded : ImportPhase → Bool
  | .returned (.ok ()) => true
  | _ => false

/-- The next step of a call: the files after it, and where the call is then. -/
def StoreCall.advance (aead : Aead) (call : StoreCall) (files : StoreFiles) :
    ImportPhase → StoreFiles × ImportPhase
  | .start =>
      match call.payload with
      | none => (files, .returned (.error (.message ⟨"bundle invalid: empty payload", []⟩)))
      | some payload => (files, .loaded payload (profilesOrNone aead files.profiles))
  | .loaded payload existing =>
      match mergePayload existing payload call.now with
      | .error failure => (files, .returned (.error failure))
      | .ok updated =>
          match files.templates with
          | none => (files, .templatesSaved payload existing updated)
          | some file =>
              if payload.templates.entries = [] then (files, .templatesSaved payload existing updated)
              else (files, .templatesLoaded payload existing updated (templatesOrNone aead file))
  | .templatesLoaded payload existing updated current =>
      ({ files with
          templates := files.templates.map (·.afterWrite (TemplateStore.save aead
            call.templateNonce (overlay current payload.templates)) call.templatesWrite) },
        match writeResult call.templatesWrite with
        | .ok () => .templatesSaved payload existing updated
        | .error failure => .returned (.error failure))
  | .templatesSaved _ _ updated =>
      ({ files with
          profiles := files.profiles.afterWrite (call.sealedProfiles aead updated)
            call.profilesWrite },
        .returned (writeResult call.profilesWrite))
  | .returned result => (files, .returned result)

/-- A call that is left alone does what `ProcessAndStore` does. -/
theorem StoreCall.advance_alone (aead : Aead) (call : StoreCall) (files : StoreFiles) :
    (fun at_ : StoreFiles × ImportPhase => call.advance aead at_.1 at_.2)^[4] (files, .start) =
      ((call.run aead files).1, .returned (call.run aead files).2) := by
  obtain ⟨profiles, templates⟩ := files
  simp only [Function.iterate_succ_apply, Function.iterate_zero_apply]
  cases given : call.payload with
  | none => simp only [advance, given, run]
  | some payload =>
    simp only [advance, given, run]
    cases merged : mergePayload (profilesOrNone aead profiles) payload call.now with
    | error failure => rfl
    | ok updated =>
      cases templates with
      | none => simp [saveTemplates]
      | some file =>
        by_cases empty : payload.templates.entries = []
        · simp [saveTemplates, empty]
        · cases ended : call.templatesWrite <;>
            simp [saveTemplates, sealedTemplates, writeResult, empty, ended]

/-- Calls that share their files. -/
structure ImportState (ι : Type) where
  files : StoreFiles
  phase : ι → ImportPhase

variable {ι : Type} [DecidableEq ι]

/-- One of the calls takes its next step. -/
def ImportState.turn (aead : Aead) (calls : ι → StoreCall) (state : ImportState ι) (i : ι) :
    ImportState ι where
  files := ((calls i).advance aead state.files (state.phase i)).1
  phase := Function.update state.phase i ((calls i).advance aead state.files (state.phase i)).2

def importStep (aead : Aead) (calls : ι → StoreCall) (state : ImportState ι) (i : ι)
    (next : ImportState ι) : Prop := next = state.turn aead calls i

theorem ImportState.turn_phase_of_ne {aead : Aead} {calls : ι → StoreCall} {state : ImportState ι}
    {i j : ι} (differ : j ≠ i) : (state.turn aead calls i).phase j = state.phase j :=
  Function.update_of_ne differ _ _

/-- A call that writes a store finds in it what it has read from it, and does not stop half way. -/
def WritesWhatItRead (aead : Aead) (calls : ι → StoreCall) (state : ImportState ι) (i : ι)
    (_next : ImportState ι) : Prop :=
  match state.phase i with
  | .templatesLoaded _ _ _ current =>
      (calls i).templatesWrite.Clean ∧
        ∀ file, state.files.templates = some file → templatesOrNone aead file = current
  | .templatesSaved _ existing _ =>
      (calls i).profilesWrite.Clean ∧ profilesOrNone aead state.files.profiles = existing
  | _ => True

/-- The profiles of a payload are stored, as a call at the given time stores them. -/
def HasProfiles (aead : Aead) (files : StoreFiles) (payload : BundlePayload) (now : Int64) : Prop :=
  ∃ stored, loadProfiles aead files.profiles = .ok stored ∧
    ∀ raw ∈ payload.profiles.getD [], ∃ p ∈ stored, Normalized now raw p

def HasTemplates (aead : Aead) (files : StoreFiles) (payload : BundlePayload) : Prop :=
  ∀ key template, payload.templates.find? key = some template →
    ∃ file stored, files.templates = some file ∧ loadTemplates aead file = .ok stored ∧
      stored.find? key = some template.templateText

/-- A payload that takes nothing away from another one. -/
structure Spares (payload other : BundlePayload) : Prop where
  revocations : ∀ raw ∈ other.profiles.getD [], normalID raw.id ∉ payload.revocations.getD []
  templates : ∀ key, (other.templates.find? key).isSome = true → payload.templates.find? key = none

/-- What is known of a call and the files while it is in a phase. -/
def InPhase (aead : Aead) (call : StoreCall) (files : StoreFiles) : ImportPhase → Prop
  | .start => True
  | .loaded payload existing =>
      call.payload = some payload ∧ ∃ file, existing = profilesOrNone aead file
  | .templatesLoaded payload existing updated current =>
      call.payload = some payload ∧ (∃ file, existing = profilesOrNone aead file) ∧
        mergePayload existing payload call.now = .ok updated ∧
        ∃ file, current = templatesOrNone aead file
  | .templatesSaved payload existing updated =>
      call.payload = some payload ∧ (∃ file, existing = profilesOrNone aead file) ∧
        mergePayload existing payload call.now = .ok updated ∧ HasTemplates aead files payload
  | .returned (.ok ()) =>
      ∃ payload, call.payload = some payload ∧ HasTemplates aead files payload ∧
        HasProfiles aead files payload call.now
  | .returned (.error _) => True

variable {aead : Aead} {call : StoreCall} {files : StoreFiles}

/-- The files that a step leaves: those it met, or those with one store written. -/
theorem advance_files (aead : Aead) (call : StoreCall) (files : StoreFiles) (phase : ImportPhase) :
    (call.advance aead files phase).1 = files ∨
      (∃ payload existing updated current,
        phase = .templatesLoaded payload existing updated current ∧
        (call.advance aead files phase).1 =
          { files with
              templates := files.templates.map (·.afterWrite (TemplateStore.save aead
                call.templateNonce (overlay current payload.templates)) call.templatesWrite) }) ∨
      ∃ payload existing updated, phase = .templatesSaved payload existing updated ∧
        (call.advance aead files phase).1 =
          { files with
              profiles := files.profiles.afterWrite (call.sealedProfiles aead updated)
                call.profilesWrite } := by
  cases phase with
  | start => left; simp only [StoreCall.advance]; split <;> rfl
  | loaded payload existing =>
    left
    simp only [StoreCall.advance]
    split
    · rfl
    · split
      · rfl
      · split_ifs <;> rfl
  | templatesLoaded payload existing updated current =>
    exact .inr (.inl ⟨payload, existing, updated, current, rfl, rfl⟩)
  | templatesSaved payload existing updated =>
    exact .inr (.inr ⟨payload, existing, updated, rfl, rfl⟩)
  | returned result => exact .inl rfl

/-- A clean write is done, or changes nothing. -/
theorem StoreFile.afterWrite_of_clean {answer : WriteAnswer} (clean : answer.Clean)
    (file : StoreFile) (new : Bytes) :
    file.afterWrite new answer = .holding new ∨ file.afterWrite new answer = file := by
  cases answer with
  | done => exact .inl rfl
  | failed stop =>
    rw [clean stop rfl]
    exact .inr rfl

theorem hasTemplates_of_written {file : StoreFile} {payload : BundlePayload} (nonce : Nonce)
    (utf8 : payload.Utf8) (profiles : StoreFile) :
    HasTemplates aead ⟨profiles, some (.holding (TemplateStore.save aead nonce
      (overlay (templatesOrNone aead file) payload.templates)))⟩ payload := by
  intro key template found
  refine ⟨_, _, rfl, storedTemplates_load nonce utf8, ?_⟩
  rw [find?_overlay, found]
  rfl

theorem hasProfiles_of_written {file : StoreFile} {payload : BundlePayload}
    {updated : List Profile} {now : Int64} (nonce : Nonce) (utf8 : payload.Utf8)
    (merged : mergePayload (profilesOrNone aead file) payload now = .ok updated)
    (templates : Option StoreFile) :
    HasProfiles aead ⟨.holding (Store.save aead nonce (appended updated)), templates⟩ payload now := by
  refine ⟨updated, storedProfiles_load nonce utf8 merged, fun raw member => ?_⟩
  obtain ⟨added, rfl, -, each⟩ := mergePayload_eq_ok merged
  obtain ⟨p, new, normalized⟩ := each raw member
  exact ⟨p, List.mem_append_right _ new, normalized⟩

/-- A call writes templates over those that it finds: what another payload stored stays. -/
theorem hasTemplates_kept {file : StoreFile} {payload other : BundlePayload} (nonce : Nonce)
    (utf8 : payload.Utf8) (spares : Spares payload other) (held : files.templates = some file)
    (holds : HasTemplates aead files other) :
    HasTemplates aead { files with templates := some (.holding (TemplateStore.save aead nonce
      (overlay (templatesOrNone aead file) payload.templates))) } other := by
  intro key template found
  obtain ⟨same, stored, known, loaded, present⟩ := holds key template found
  obtain rfl := Option.some.inj (held.symm.trans known)
  refine ⟨_, _, rfl, storedTemplates_load nonce utf8, ?_⟩
  rw [find?_overlay, spares.templates key (by rw [found]; rfl), templatesOrNone, loaded]
  exact present

theorem hasProfiles_kept {payload other : BundlePayload} {updated : List Profile} {now time : Int64}
    (nonce : Nonce) (utf8 : payload.Utf8) (spares : Spares payload other)
    (merged : mergePayload (profilesOrNone aead files.profiles) payload now = .ok updated)
    (holds : HasProfiles aead files other time) :
    HasProfiles aead { files with profiles := .holding (Store.save aead nonce (appended updated)) }
      other time := by
  obtain ⟨stored, loaded, present⟩ := holds
  refine ⟨updated, storedProfiles_load nonce utf8 merged, fun raw member => ?_⟩
  obtain ⟨p, inside, normalized⟩ := present raw member
  obtain ⟨added, rfl, -⟩ := mergePayload_eq_ok merged
  refine ⟨p, List.mem_append_left _ (List.mem_filter.mpr ⟨?_, decide_eq_true ?_⟩), normalized⟩
  · rwa [profilesOrNone, loaded]
  · rw [normalized.id]
    exact spares.revocations raw member

/-- The step of a call keeps what is known of it. -/
theorem inPhase_step {phase : ImportPhase} (stores : files.templates.isSome = true)
    (utf8 : ∀ payload, call.payload = some payload → payload.Utf8)
    (holds : InPhase aead call files phase) :
    InPhase aead call (call.advance aead files phase).1 (call.advance aead files phase).2 := by
  obtain ⟨file, held⟩ := Option.isSome_iff_exists.mp stores
  cases phase with
  | start =>
    simp only [StoreCall.advance]
    cases given : call.payload with
    | none => trivial
    | some payload => exact ⟨given, files.profiles, rfl⟩
  | loaded payload existing =>
    obtain ⟨given, origin⟩ := holds
    simp only [StoreCall.advance]
    cases merged : mergePayload existing payload call.now with
    | error failure => trivial
    | ok updated =>
      simp only [held]
      split_ifs with empty
      · refine ⟨given, origin, merged, fun key template found => ?_⟩
        have listed := (Map.find?_eq_some _).mp found
        rw [empty] at listed
        cases listed
      · exact ⟨given, origin, merged, file, rfl⟩
  | templatesLoaded payload existing updated current =>
    obtain ⟨given, origin, merged, source, rfl⟩ := holds
    simp only [StoreCall.advance, held]
    cases call.templatesWrite with
    | failed stop => trivial
    | done =>
      exact ⟨given, origin, merged,
        hasTemplates_of_written call.templateNonce (utf8 payload given) files.profiles⟩
  | templatesSaved payload existing updated =>
    obtain ⟨given, ⟨source, rfl⟩, merged, templates⟩ := holds
    simp only [StoreCall.advance]
    cases call.profilesWrite with
    | failed stop => trivial
    | done =>
      exact ⟨payload, given, templates,
        hasProfiles_of_written call.nonce (utf8 payload given) merged files.templates⟩
  | returned result => exact holds

theorem inPhase_mono {after : StoreFiles} {phase : ImportPhase}
    (holds : InPhase aead call files phase)
    (templates : ∀ payload, call.payload = some payload → HasTemplates aead files payload →
      HasTemplates aead after payload)
    (profiles : ∀ payload, call.payload = some payload → HasProfiles aead files payload call.now →
      HasProfiles aead after payload call.now) : InPhase aead call after phase := by
  cases phase with
  | start => trivial
  | loaded payload existing => exact holds
  | templatesLoaded payload existing updated current => exact holds
  | templatesSaved payload existing updated =>
    obtain ⟨given, origin, merged, saved⟩ := holds
    exact ⟨given, origin, merged, templates payload given saved⟩
  | returned result =>
    cases result with
    | error failure => trivial
    | ok =>
      obtain ⟨payload, given, saved, stored⟩ := holds
      exact ⟨payload, given, templates payload given saved, profiles payload given stored⟩

variable {calls : ι → StoreCall} {state : ImportState ι}

omit [DecidableEq ι] in
/-- The step of one call keeps what is known of another, if it writes what it has read. -/
theorem inPhase_frame {i j : ι} (stores : state.files.templates.isSome = true)
    (utf8 : ∀ payload, (calls i).payload = some payload → payload.Utf8)
    (spares : ∀ payload other, (calls i).payload = some payload → (calls j).payload = some other →
      Spares payload other)
    (own : InPhase aead (calls i) state.files (state.phase i))
    (next : ImportState ι) (read : WritesWhatItRead aead calls state i next)
    (holds : InPhase aead (calls j) state.files (state.phase j)) :
    InPhase aead (calls j) ((calls i).advance aead state.files (state.phase i)).1
      (state.phase j) := by
  obtain ⟨file, held⟩ := Option.isSome_iff_exists.mp stores
  obtain same | ⟨payload, existing, updated, current, phase, after⟩ |
    ⟨payload, existing, updated, phase, after⟩ :=
      advance_files aead (calls i) state.files (state.phase i)
  · rwa [same]
  · rw [WritesWhatItRead, phase] at read
    rw [phase] at own
    have found : templatesOrNone aead file = current := read.2 file held
    rw [after, ← found]
    refine inPhase_mono holds (fun other given => ?_) fun other given stored => stored
    rw [held, Option.map_some]
    obtain written | same := StoreFile.afterWrite_of_clean read.1 file (TemplateStore.save aead
      (calls i).templateNonce (overlay (templatesOrNone aead file) payload.templates))
    · rw [written]
      exact hasTemplates_kept _ (utf8 payload own.1) (spares payload other own.1 given) held
    · rw [same, ← held]
      exact id
  · rw [WritesWhatItRead, phase] at read
    rw [phase] at own
    have found : profilesOrNone aead state.files.profiles = existing := read.2
    obtain ⟨given, -, merged, -⟩ := own
    rw [← found] at merged
    rw [after]
    refine inPhase_mono holds (fun other same stored => stored) fun other same => ?_
    obtain written | unwritten := StoreFile.afterWrite_of_clean read.1 state.files.profiles
      ((calls i).sealedProfiles aead updated)
    · rw [written]
      exact hasProfiles_kept _ (utf8 payload given) (spares payload other given same) merged
    · rw [unwritten]
      exact id

/-- Both stores hold what every call that has succeeded brought. -/
structure AllKept (aead : Aead) (calls : ι → StoreCall) (state : ImportState ι) : Prop where
  stores : state.files.templates.isSome = true
  phases : ∀ i, InPhase aead (calls i) state.files (state.phase i)

/-- A call that finds what it has read keeps what the other calls have brought. -/
theorem allKept_step {next : ImportState ι} {i : ι}
    (utf8 : ∀ i payload, (calls i).payload = some payload → payload.Utf8)
    (spares : ∀ i j payload other, i ≠ j → (calls i).payload = some payload →
      (calls j).payload = some other → Spares payload other)
    (kept : AllKept aead calls state) (stepped : importStep aead calls state i next)
    (read : WritesWhatItRead aead calls state i next) : AllKept aead calls next := by
  obtain rfl := stepped
  refine ⟨?_, fun j => ?_⟩
  · dsimp only [ImportState.turn]
    obtain same | ⟨_, _, _, _, -, after⟩ | ⟨_, _, _, -, after⟩ :=
      advance_files aead (calls i) state.files (state.phase i)
    · rw [same]
      exact kept.stores
    · rw [after]
      exact Option.isSome_map.trans kept.stores
    · rw [after]
      exact kept.stores
  · by_cases same : j = i
    · subst same
      simp only [ImportState.turn, Function.update_self]
      exact inPhase_step kept.stores (utf8 j) (kept.phases j)
    · rw [ImportState.turn_phase_of_ne same]
      exact inPhase_frame kept.stores (utf8 i)
        (fun payload other => spares i j payload other (Ne.symm same)) (kept.phases i) _ read
        (kept.phases j)

/-- Calls of `ImportBundle` on one directory: in every run in which each write finds what its call has
read and does not stop half way, both stores hold at the end what the calls that succeeded brought. -/
theorem imports_kept {packages : ImportPackages} {cfg : AgentConfig} {disk : Disk}
    {bundleCalls : ι → BundleCall} {payload : ι → BundlePayload} {key : MasterKey}
    {profilesPath templatesPath : GoString} {schedule : List ι} {last : ImportState ι}
    (opens : ∀ i, (bundleCalls i).opened packages cfg disk =
      .ok ⟨key, profilesPath, templatesPath, payload i⟩)
    (spares : ∀ i j, i ≠ j → Spares (payload i) (payload j))
    (run : Run (importStep (packages.aead key) fun i => (bundleCalls i).store (payload i))
      ⟨⟨disk profilesPath, some (disk templatesPath)⟩, fun _ => .start⟩ schedule last)
    (read : Always (importStep (packages.aead key) fun i => (bundleCalls i).store (payload i))
      (WritesWhatItRead (packages.aead key) fun i => (bundleCalls i).store (payload i))
      ⟨⟨disk profilesPath, some (disk templatesPath)⟩, fun _ => .start⟩ schedule) :
    ∀ i, (last.phase i).succeeded = true →
      HasProfiles (packages.aead key) last.files (payload i) (bundleCalls i).now ∧
        HasTemplates (packages.aead key) last.files (payload i) := by
  have kept : AllKept (packages.aead key) (fun i => (bundleCalls i).store (payload i)) last := by
    refine read.invariant run ⟨rfl, fun _ => trivial⟩ ?_
    intro state next i _ before stepped found
    refine allKept_step (fun j brought given => ?_) (fun j k brought other apart mine yours => ?_)
      before stepped found
    · cases given
      exact opened_utf8 (opens j)
    · cases mine
      cases yours
      exact spares j k apart
  intro i succeeded
  have phase := kept.phases i
  unfold ImportPhase.succeeded at succeeded
  split at succeeded
  · rename_i returned
    rw [returned] at phase
    obtain ⟨brought, given, templates, profiles⟩ := phase
    cases given
    exact ⟨profiles, templates⟩
  · cases succeeded

/-! ## One import after another -/

/-- What a call has read so far is still what the files hold. -/
def ReadsCurrent (aead : Aead) (state : ImportState ι) (i : ι) : Prop :=
  match state.phase i with
  | .loaded _ existing | .templatesSaved _ existing _ =>
      profilesOrNone aead state.files.profiles = existing
  | .templatesLoaded _ existing _ current =>
      profilesOrNone aead state.files.profiles = existing ∧
        ∀ file, state.files.templates = some file → templatesOrNone aead file = current
  | _ => True

omit [DecidableEq ι] in
theorem writes_of_current {i : ι} (clean : (calls i).FailsClean)
    (current : ReadsCurrent aead state i) (next : ImportState ι) :
    WritesWhatItRead aead calls state i next := by
  unfold ReadsCurrent at current
  unfold WritesWhatItRead
  split
  · rename_i phase
    rw [phase] at current
    exact ⟨clean.1, current.2⟩
  · rename_i phase
    rw [phase] at current
    exact ⟨clean.2, current⟩
  · trivial

theorem current_turn {i : ι} (current : ReadsCurrent aead state i) :
    ReadsCurrent aead (state.turn aead calls i) i := by
  unfold ReadsCurrent at current ⊢
  simp only [ImportState.turn, Function.update_self]
  cases phase : state.phase i with
  | start =>
    simp only [StoreCall.advance]
    cases (calls i).payload <;> trivial
  | loaded payload existing =>
    rw [phase] at current
    simp only [StoreCall.advance]
    cases mergePayload existing payload (calls i).now with
    | error failure => trivial
    | ok updated =>
      cases held : state.files.templates with
      | none => exact current
      | some file =>
        dsimp only
        split_ifs
        · exact current
        · refine ⟨current, fun other same => ?_⟩
          rw [Option.some.inj (held.symm.trans same)]
  | templatesLoaded payload existing updated read =>
    rw [phase] at current
    simp only [StoreCall.advance]
    cases (calls i).templatesWrite with
    | done => exact current.1
    | failed stop => trivial
  | templatesSaved payload existing updated => simp only [StoreCall.advance]
  | returned result => trivial

theorem always_block (n : ℕ) {i : ι} (clean : (calls i).FailsClean)
    (current : ReadsCurrent aead state i) :
    Always (importStep aead calls) (WritesWhatItRead aead calls) state (List.replicate n i) := by
  induction n generalizing state with
  | zero => trivial
  | succ n ih =>
    rintro next rfl
    exact ⟨writes_of_current clean current _, ih (current_turn current)⟩

/-- Calls that follow one another meet in the stores what they have read. -/
theorem always_serial {order : List ι} (distinct : order.Nodup)
    (clean : ∀ i ∈ order, (calls i).FailsClean) (fresh : ∀ i ∈ order, state.phase i = .start) :
    Always (importStep aead calls) (WritesWhatItRead aead calls) state
      (order.flatMap fun i => List.replicate 4 i) := by
  induction order generalizing state with
  | nil => trivial
  | cons i rest ih =>
    obtain ⟨apart, distinct⟩ := List.nodup_cons.mp distinct
    obtain ⟨own, others⟩ := List.forall_mem_cons.mp fresh
    obtain ⟨first, later⟩ := List.forall_mem_cons.mp clean
    rw [List.flatMap_cons, always_append]
    refine ⟨always_block 4 first (by rw [ReadsCurrent, own]; trivial), fun last run => ih distinct later ?_⟩
    refine run.invariant (motive := fun state => ∀ j ∈ rest, state.phase j = .start) others ?_
    rintro before next label member holds rfl j inside
    obtain rfl := List.eq_of_mem_replicate member
    have differ : j ≠ label := fun same => apart (same ▸ inside)
    rw [ImportState.turn_phase_of_ne differ]
    exact holds j inside

/-! ## Two imports at once -/

def pairStart : ImportState Bool :=
  ⟨⟨pairDisk (lit "/state/profiles.enc"), some (pairDisk (lit "/state/templates.enc"))⟩,
    fun _ => .start⟩

theorem pairPayload_spares (i j : Bool) (apart : i ≠ j) : Spares (pairPayload i) (pairPayload j) := by
  have own (key : GoString) : (recordedPayload.sortTags.templates.find? key).isSome = true ↔
      familyReality = key := by
    change (((∅ : Map GoString Template).insert familyReality _).find? key).isSome = true ↔ _
    rw [Map.find?_insert]
    split_ifs with same <;> simp [same]
  have other (key : GoString) : (secondPayload.sortTags.templates.find? key).isSome = true ↔
      lit "second" = key := by
    change (((∅ : Map GoString Template).insert (lit "second") _).find? key).isSome = true ↔ _
    rw [Map.find?_insert]
    split_ifs with same <;> simp [same]
  have distinct : lit "second" ≠ familyReality := by decide
  constructor
  · cases i <;> exact fun _ _ => List.not_mem_nil
  · intro key found
    apply Option.not_isSome_iff_eq_none.mp
    intro also
    cases i <;> cases j
    · exact apart rfl
    · exact distinct (((other key).mp found).trans ((own key).mp also).symm)
    · exact distinct (((other key).mp also).trans ((own key).mp found).symm)
    · exact apart rfl

/-- The two imports under a schedule. -/
def pairRun (schedule : List Bool) : ImportState Bool :=
  schedule.foldl (fun state i => state.turn clearAead (fun i => (pairCall i).store (pairPayload i)) i)
    pairStart

theorem run_pairRun (schedule : List Bool) :
    Run (importStep clearAead fun i => (pairCall i).store (pairPayload i)) pairStart schedule
      (pairRun schedule) := by
  unfold pairRun
  generalize pairStart = state
  induction schedule generalizing state with
  | nil => exact .nil state
  | cons i rest ih => exact .cons rfl (ih _)

theorem pairCall_clean (i : Bool) : ((pairCall i).store (pairPayload i)).FailsClean := by
  constructor <;> intro stop fails <;> cases i <;> cases fails

/-- Two imports one after the other keep the bundle of the first. -/
theorem serial_imports_kept :
    HasProfiles clearAead (pairRun ([false, true].flatMap fun i => List.replicate 4 i)).files
        (pairPayload false) (pairCall false).now ∧
      HasTemplates clearAead (pairRun ([false, true].flatMap fun i => List.replicate 4 i)).files
        (pairPayload false) := by
  have succeeded : ((pairRun ([false, true].flatMap fun i => List.replicate 4 i)).phase
      false).succeeded = true := by decide
  exact imports_kept (pairCall_opened rfl rfl) pairPayload_spares (run_pairRun _)
    (always_serial (by decide) (fun i _ => pairCall_clean i) fun _ _ => rfl) false succeeded

/-- Two imports that both succeed, and the profile of the first is gone. -/
theorem import_lost :
    ¬ ∀ last, Run (importStep clearAead fun i => (pairCall i).store (pairPayload i)) pairStart
        [false, true, false, false, false, true, true, true] last →
      (∀ i, (last.phase i).succeeded = true) →
        ∀ i, HasProfiles clearAead last.files (pairPayload i) (pairCall i).now ∧
          HasTemplates clearAead last.files (pairPayload i) := by
  intro kept
  obtain ⟨⟨stored, loaded, present⟩, -⟩ := kept _ (run_pairRun _) (by decide) false
  have ids : (loadProfiles clearAead (pairRun [false, true, false, false, false, true, true,
      true]).files.profiles).map (·.map (·.id)) = .ok [lit "p2"] := by decide +kernel
  rw [loaded] at ids
  have listed : recordedPayload.sortTags.profiles.getD [] ≠ [] := by decide
  have differ : normalID ((recordedPayload.sortTags.profiles.getD []).head (by decide)).id ≠
      lit "p2" := by decide
  obtain ⟨p, inside, normalized⟩ := present _ (List.head_mem listed)
  have member : p.id ∈ stored.map (·.id) := List.mem_map_of_mem inside
  have only : stored.map (·.id) = [lit "p2"] := Except.ok.inj ids
  rw [only, List.mem_singleton, normalized.id] at member
  exact differ member

end ShadowNet
