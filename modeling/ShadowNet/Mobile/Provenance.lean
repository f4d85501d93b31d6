import ShadowNet.Mobile.Device
import ShadowNet.Sing.Usable
import ShadowNet.Stores.Crash

/-! # Where the profiles come from that an agent runs

The bridge writes the two stores in `ImportBundle` only, from payloads that it has verified, and a
tick runs what it finds in them. So a tick runs a profile as a trusted signer has published it, with a
template of a verified bundle or the file that stands in for one. Where no import writes the profiles
over what another one has written since it read them, a tick selects no profile that an import has
revoked and none has brought back since.
-/

namespace ShadowNet

open Go Go.Json

variable (packages : DevicePackages)

/-! ## Trusted profiles and templates -/

/-- A key that the configuration of the import trusts has signed the bundle of the payload. -/
def ImportedBundle.Verified (imported : ImportedBundle) : Prop :=
  ∃ keys identity key clock, parseTrustedSignerKeys imported.cfg.trustedSignerPubsB64 = .ok keys ∧
    packages.imports.parseIdentity (trimSpace imported.cfg.ageIdentity) = some identity ∧
    key ∈ keys ∧ verifiedPayload packages.imports.suite packages.imports.engine
      imported.bundleBytes key ⟨0, some identity, true⟩ clock = some imported.payload

/-- The profile is one that a trusted signer has published, but for what an import sets. -/
def Published (imports : List ImportedBundle) (p : Profile) : Prop :=
  ∃ imported ∈ imports, imported.Verified packages ∧
    ∃ raw ∈ imported.payload.profiles.getD [], ∃ now, p = raw.imported now

/-- The text is the template with the key in a bundle of a trusted signer. -/
def PublishedTemplate (imports : List ImportedBundle) (key text : GoString) : Prop :=
  ∃ imported ∈ imports, imported.Verified packages ∧
    ∃ template, imported.payload.templates.find? key = some template ∧ template.templateText = text

/-- The file in which a tick looks for the template of a profile that the store has none for. -/
def fallbackFile (cfg : AgentConfig) (p : Profile) : GoString :=
  let name := if p.templateRef = [] then p.family ++ lit ".json"
    else if hasSuffix (toLower p.templateRef) (lit ".json") then p.templateRef
    else p.templateRef ++ lit ".json"
  pathJoin cfg.templatesDir (pathClean name)

/-- The template of a profile: one with its reference or its family from a bundle, or the file that
goes by this name if the store has no such template. -/
def TrustedTemplate (key : MasterKey) (imports : List ImportedBundle) (cfg : AgentConfig)
    (disk : Disk) (p : Profile) (text : Bytes) : Prop :=
  PublishedTemplate packages imports p.templateRef text ∨
    PublishedTemplate packages imports p.family text ∨
    ((∀ k ∈ [p.templateRef, p.family], k ≠ [] → ∀ stored,
        (templatesOrNone (packages.imports.aead key) (disk (templatesPath cfg))).find? k =
          some stored → isBlank stored = true) ∧
      disk.read (fallbackFile cfg p) = some text)

/-- What a tick selects has been published and may be used, and what it leaves at the path of the
configuration renders it with a trusted template. -/
def RunsPublished (key : MasterKey) (device : Device) (label : DeviceLabel) (next : Device) : Prop :=
  match label with
  | .run i => ∀ tick id, device.ticking i = some tick →
      (tick.finish packages ⟨device.shared, device.disk⟩).2 = some id →
        ∃ p text cfgBytes, p.id = id ∧ Published packages device.imports p ∧
          (∃ now ∈ tick.answers.clock.readings, p.usable now = true) ∧
          TrustedTemplate packages key device.imports tick.cfg device.disk p text ∧
          renderConfigToFile packages.imports.engine packages.onAndroid p text {}
            tick.answers.renderWrites = .ok cfgBytes ∧
          next.disk (configPath tick.cfg) = .holding cfgBytes
  | _ => True

/-- An import that writes the profiles finds in the store what it has read from it. -/
def WritesOverRead (device : Device) (label : DeviceLabel) (_next : Device) : Prop :=
  ∀ i pending payload existing updated, label = .advance i → device.importing i = some pending →
    pending.phase = .templatesSaved payload existing updated →
      profilesOrNone (packages.imports.aead pending.opened.key)
        (device.disk pending.opened.profilesPath) = existing

/-! ## What an import does to the stores -/

section

variable {packages : DevicePackages} {stateDir : GoString} {key : MasterKey} {device next : Device}
  {cfg : AgentConfig} {call : BundleCall} {imported : ImportedBundle} {pending : PendingImport}

theorem opened_verified {opened : OpenedImport}
    (ok : call.opened packages.imports cfg device.disk = .ok opened) :
    (ImportedBundle.mk cfg (((device.disk.read call.path).bind fileBundle).getD [])
      opened.payload).Verified packages := by
  obtain ⟨-, -, -, -, -, -, bundleBytes, given, keys, identity, signer, trusted, parsed, member,
    verified, -⟩ := opened_eq_ok.mp ok
  refine ⟨keys, identity, signer, call.clock, trusted, parsed, member, ?_⟩
  rw [given]
  exact verified

/-- An accepted payload is merged as it is. -/
theorem ImportedBundle.Verified.normalized (verified : imported.Verified packages) {raw p : Profile}
    (inside : raw ∈ imported.payload.profiles.getD []) {now : Int64} (normalized : Normalized now raw p) :
    p = raw.imported now ∧ p.source.trustLevel ≠ 0 := by
  obtain ⟨keys, identity, signer, clock, -, -, -, accepted⟩ := verified
  obtain ⟨wrapper, ciphertext, signature, text, decoded, passed, same⟩ :=
    (verifiedPayload_eq_some _).mp accepted
  rw [same, BundlePayload.sortTags_profiles] at inside
  obtain ⟨own, held, rfl⟩ := List.mem_map.mp inside
  obtain ⟨rfl, trusted⟩ := (passed.payload.profiles own held).imported normalized
  exact ⟨rfl, trusted⟩

/-- A call under way has verified its bundle, and its stores are those of the state directory. -/
structure PendingImport.Sound (packages : DevicePackages) (stateDir : GoString) (key : MasterKey)
    (pending : PendingImport) : Prop where
  verified : pending.imported.Verified packages
  utf8 : pending.opened.payload.Utf8
  key : pending.opened.key = key
  profiles : pending.opened.profilesPath = profilesPath stateDir
  templates : pending.opened.templatesPath = pathJoin stateDir (lit "templates.enc")

/-- What a call has read and merged, and which of it is good. -/
def PhaseHolds (aead : Aead) (call : StoreCall) (good : Profile → Prop)
    (goodText : GoString → GoString → Prop) : ImportPhase → Prop
  | .loaded payload existing => call.payload = some payload ∧
      (∃ file, existing = profilesOrNone aead file) ∧ ∀ p ∈ existing, good p
  | .templatesLoaded payload existing updated current => call.payload = some payload ∧
      (∃ file, existing = profilesOrNone aead file) ∧
      mergePayload existing payload call.now = .ok updated ∧ (∀ p ∈ updated, good p) ∧
      (∃ file, current = templatesOrNone aead file) ∧
      ∀ k text, current.find? k = some text → goodText k text
  | .templatesSaved payload existing updated => call.payload = some payload ∧
      (∃ file, existing = profilesOrNone aead file) ∧
      mergePayload existing payload call.now = .ok updated ∧ ∀ p ∈ updated, good p
  | _ => True

theorem PhaseHolds.mono {aead : Aead} {call : StoreCall} {good better : Profile → Prop}
    {goodText betterText : GoString → GoString → Prop} {phase : ImportPhase}
    (holds : PhaseHolds aead call good goodText phase) (profiles : ∀ p, good p → better p)
    (texts : ∀ k text, goodText k text → betterText k text) :
    PhaseHolds aead call better betterText phase := by
  cases phase with
  | start => trivial
  | returned => trivial
  | loaded payload existing =>
    obtain ⟨given, file, each⟩ := holds
    exact ⟨given, file, fun p member => profiles p (each p member)⟩
  | templatesLoaded payload existing updated current =>
    obtain ⟨given, file, merged, each, source, entries⟩ := holds
    exact ⟨given, file, merged, fun p member => profiles p (each p member), source,
      fun k text found => texts k text (entries k text found)⟩
  | templatesSaved payload existing updated =>
    obtain ⟨given, file, merged, each⟩ := holds
    exact ⟨given, file, merged, fun p member => profiles p (each p member)⟩

/-- A step of a call keeps what is known of it, if the stores are good and merging keeps them so. -/
theorem phaseHolds_step {aead : Aead} {call : StoreCall} {good : Profile → Prop}
    {goodText : GoString → GoString → Prop} {files : StoreFiles} {phase : ImportPhase}
    (holds : PhaseHolds aead call good goodText phase)
    (profiles : ∀ p ∈ profilesOrNone aead files.profiles, good p)
    (templates : ∀ file, files.templates = some file → ∀ k text,
      (templatesOrNone aead file).find? k = some text → goodText k text)
    (merges : ∀ payload existing updated, call.payload = some payload →
      mergePayload existing payload call.now = .ok updated → (∀ p ∈ existing, good p) →
        ∀ p ∈ updated, good p) :
    PhaseHolds aead call good goodText (call.advance aead files phase).2 := by
  cases phase with
  | start =>
    simp only [StoreCall.advance]
    cases given : call.payload with
    | none => trivial
    | some payload => exact ⟨given, ⟨files.profiles, rfl⟩, profiles⟩
  | loaded payload existing =>
    obtain ⟨given, file, each⟩ := holds
    simp only [StoreCall.advance]
    cases merged : mergePayload existing payload call.now with
    | error failure => trivial
    | ok updated =>
      have kept := merges payload existing updated given merged each
      cases held : files.templates with
      | none => exact ⟨given, file, merged, kept⟩
      | some own =>
        dsimp only
        split_ifs with empty
        · exact ⟨given, file, merged, kept⟩
        · exact ⟨given, file, merged, kept, ⟨own, rfl⟩, templates own held⟩
  | templatesLoaded payload existing updated current =>
    obtain ⟨given, file, merged, each, -⟩ := holds
    simp only [StoreCall.advance]
    cases call.templatesWrite with
    | done => exact ⟨given, file, merged, each⟩
    | failed stop => trivial
  | templatesSaved payload existing updated => trivial
  | returned result => trivial

/-- A store after a write of which no part can be read: as before, as written, or without contents. -/
theorem StoreFile.afterWrite_cases {α : Type} {load : StoreFile → α} {none : α} {new : Bytes}
    (cut : ∀ n < new.length, load (.holding (new.take n)) = none) (file : StoreFile)
    (answer : WriteAnswer) :
    load (file.afterWrite new answer) = load (.holding new) ∨
      answer ≠ .done ∧ (load (file.afterWrite new answer) = load file ∨
        load (file.afterWrite new answer) = none) := by
  cases answer with
  | done => exact .inl rfl
  | failed stop =>
    have fails : WriteAnswer.failed stop ≠ .done := by simp
    cases stop with
    | untouched => exact .inr ⟨fails, .inl rfl⟩
    | written count =>
      by_cases whole : new.length ≤ count
      · exact .inl (by rw [afterWrite, List.take_of_length_le whole])
      · exact .inr ⟨fails, .inr (cut count (Nat.lt_of_not_le whole))⟩

theorem profilesOrNone_of_ok {aead : Aead} {file : StoreFile} {profiles : List Profile}
    (loaded : loadProfiles aead file = .ok profiles) : profilesOrNone aead file = profiles := by
  rw [profilesOrNone, loaded]

theorem templatesOrNone_of_ok {aead : Aead} {file : StoreFile} {templates : Map GoString GoString}
    (loaded : loadTemplates aead file = .ok templates) : templatesOrNone aead file = templates := by
  rw [templatesOrNone, loaded]

theorem profilesOrNone_written {aead : Aead} {file source : StoreFile} {payload : BundlePayload}
    {updated : List Profile} {now : Int64} {nonce : Nonce} (refuses : ∀ text, aead.RefusesCut nonce text)
    (utf8 : payload.Utf8)
    (merged : mergePayload (profilesOrNone aead source) payload now = .ok updated)
    (answer : WriteAnswer) :
    profilesOrNone aead (file.afterWrite (Store.save aead nonce (appended updated)) answer) = updated ∨
      answer ≠ .done ∧ ∀ p ∈ profilesOrNone aead
        (file.afterWrite (Store.save aead nonce (appended updated)) answer),
          p ∈ profilesOrNone aead file := by
  have cut : ∀ n < (Store.save aead nonce (appended updated)).length,
      profilesOrNone aead (.holding ((Store.save aead nonce (appended updated)).take n)) = [] := by
    intro n short
    obtain ⟨error, failed⟩ := Store.load_cut (refuses _) short
    rw [profilesOrNone, loadProfiles, StoreFile.load, failed]
  obtain written | ⟨fails, same | none⟩ := StoreFile.afterWrite_cases cut file answer
  · rw [written, profilesOrNone_of_ok (storedProfiles_load nonce utf8 merged)]
    exact .inl rfl
  · rw [same]
    exact .inr ⟨fails, fun p member => member⟩
  · rw [none]
    exact .inr ⟨fails, fun p member => absurd member List.not_mem_nil⟩

theorem templatesOrNone_written {aead : Aead} {file source : StoreFile} {payload : BundlePayload}
    {nonce : Nonce} (refuses : ∀ text, aead.RefusesCut nonce text) (utf8 : payload.Utf8)
    (answer : WriteAnswer) {k text : GoString}
    (found : (templatesOrNone aead (file.afterWrite (TemplateStore.save aead nonce
      (overlay (templatesOrNone aead source) payload.templates)) answer)).find? k = some text) :
    (overlay (templatesOrNone aead source) payload.templates).find? k = some text ∨
      (templatesOrNone aead file).find? k = some text := by
  have cut : ∀ n < (TemplateStore.save aead nonce
      (overlay (templatesOrNone aead source) payload.templates)).length,
      templatesOrNone aead (.holding ((TemplateStore.save aead nonce
        (overlay (templatesOrNone aead source) payload.templates)).take n)) = ∅ := by
    intro n short
    obtain ⟨error, failed⟩ := TemplateStore.load_cut (refuses _) short
    rw [templatesOrNone, loadTemplates, StoreFile.load, failed]
  obtain written | ⟨-, same | none⟩ := StoreFile.afterWrite_cases cut file answer
  · rw [written, templatesOrNone_of_ok (storedTemplates_load nonce utf8)] at found
    exact .inl found
  · rw [same] at found
    exact .inr found
  · rw [none] at found
    cases found

theorem restores_subset (imported : ImportedBundle) (revoked : List GoString) :
    imported.restores revoked ⊆ revoked := fun _ member => (List.mem_filter.mp member).1

theorem restores_subset_revokes (imported : ImportedBundle) (revoked : List GoString) :
    imported.restores revoked ⊆ imported.revokes revoked := by
  intro id member
  obtain ⟨gone, absent⟩ := List.mem_filter.mp member
  exact List.mem_filter.mpr ⟨List.mem_append_right _ gone, absent⟩

theorem afterAdvance_disk {i : ℕ} (held : device.importing i = some pending)
    (sound : pending.Sound packages stateDir key) {files : StoreFiles}
    (ran : (pending.store.advance (packages.imports.aead key) ⟨device.disk (profilesPath stateDir),
      some (device.disk (pathJoin stateDir (lit "templates.enc")))⟩ pending.phase).1 = files) :
    (device.afterAdvance packages i).disk (profilesPath stateDir) = files.profiles ∧
      (device.afterAdvance packages i).disk (pathJoin stateDir (lit "templates.enc")) =
        files.templates.getD (device.disk (pathJoin stateDir (lit "templates.enc"))) := by
  have apart : pathJoin stateDir (lit "templates.enc") ≠ profilesPath stateDir :=
    pathJoin_ne (by decide) (by decide) (by decide)
  rw [afterAdvance_of_held held]
  simp only [PendingImport.next, OpenedImport.files, OpenedImport.write, sound.key, sound.profiles,
    sound.templates, ran, Function.update_self, Function.update_of_ne apart, and_self]

/-- What a step of a call does to the stores and the revoked IDs: nothing, or it writes templates over
those that it has read, or it writes the profiles that it has merged. -/
inductive Advanced (packages : DevicePackages) (stateDir : GoString) (key : MasterKey)
    (pending : PendingImport) (device next : Device) : Prop
  | reads (profiles : next.disk (profilesPath stateDir) = device.disk (profilesPath stateDir))
      (templates : next.disk (pathJoin stateDir (lit "templates.enc")) =
        device.disk (pathJoin stateDir (lit "templates.enc")))
      (revoked : next.revoked = device.revoked)
  | templates (payload : BundlePayload) (existing updated : List Profile)
      (current : Map GoString GoString)
      (at_ : pending.phase = .templatesLoaded payload existing updated current)
      (profiles : next.disk (profilesPath stateDir) = device.disk (profilesPath stateDir))
      (revoked : next.revoked = device.revoked)
      (entries : ∀ k text, (templatesOrNone (packages.imports.aead key)
          (next.disk (pathJoin stateDir (lit "templates.enc")))).find? k = some text →
        (overlay current payload.templates).find? k = some text ∨
          (templatesOrNone (packages.imports.aead key)
            (device.disk (pathJoin stateDir (lit "templates.enc")))).find? k = some text)
  | profiles (payload : BundlePayload) (existing updated : List Profile)
      (at_ : pending.phase = .templatesSaved payload existing updated)
      (templates : next.disk (pathJoin stateDir (lit "templates.enc")) =
        device.disk (pathJoin stateDir (lit "templates.enc")))
      (written : profilesOrNone (packages.imports.aead key) (next.disk (profilesPath stateDir)) =
            updated ∧ next.revoked ⊆ pending.imported.revokes device.revoked ∨
          (∀ p ∈ profilesOrNone (packages.imports.aead key) (next.disk (profilesPath stateDir)),
            p ∈ profilesOrNone (packages.imports.aead key) (device.disk (profilesPath stateDir))) ∧
            next.revoked ⊆ device.revoked)

/-- A step of an import does one of these things to the stores. -/
theorem advance_advanced (refuses : ∀ nonce text, (packages.imports.aead key).RefusesCut nonce text)
    {i : ℕ} {good : Profile → Prop} {goodText : GoString → GoString → Prop}
    (held : device.importing i = some pending) (sound : pending.Sound packages stateDir key)
    (holds : PhaseHolds (packages.imports.aead key) pending.store good goodText pending.phase) :
    Advanced packages stateDir key pending device (device.afterAdvance packages i) := by
  have utf8 := sound.utf8
  have revoked : (device.afterAdvance packages i).revoked =
      pending.revoking (pending.next packages device.disk).2 device.revoked := by
    rw [afterAdvance_of_held held]
  have quiet (loaded : ∀ payload existing updated current,
        pending.phase ≠ .templatesLoaded payload existing updated current)
      (saved : ∀ payload existing updated, pending.phase ≠ .templatesSaved payload existing updated)
      (same : pending.revoking (pending.next packages device.disk).2 device.revoked = device.revoked) :
      Advanced packages stateDir key pending device (device.afterAdvance packages i) := by
    obtain files | ⟨_, _, _, _, writes, -⟩ | ⟨_, _, _, writes, -⟩ := advance_files
      (packages.imports.aead key) pending.store ⟨device.disk (profilesPath stateDir),
        some (device.disk (pathJoin stateDir (lit "templates.enc")))⟩ pending.phase
    · obtain ⟨profiles, templates⟩ := afterAdvance_disk held sound files
      exact .reads profiles templates (revoked.trans same)
    · exact absurd writes (loaded _ _ _ _)
    · exact absurd writes (saved _ _ _)
  cases at_ : pending.phase with
  | start => exact quiet (by simp [at_]) (by simp [at_]) (by rw [PendingImport.revoking, at_])
  | loaded payload existing =>
    exact quiet (by simp [at_]) (by simp [at_]) (by rw [PendingImport.revoking, at_])
  | returned result =>
    exact quiet (by simp [at_]) (by simp [at_]) (by rw [PendingImport.revoking, at_])
  | templatesLoaded payload existing updated current =>
    rw [at_] at holds
    obtain ⟨given, -, -, -, ⟨source, rfl⟩, -⟩ := holds
    obtain rfl := Option.some.inj given
    obtain ⟨profiles, templates⟩ := afterAdvance_disk held sound (by rw [at_])
    refine .templates _ existing updated _ at_ profiles
      (revoked.trans (by rw [PendingImport.revoking, at_])) fun k text found => ?_
    rw [templates] at found
    exact templatesOrNone_written (refuses _) utf8 _ found
  | templatesSaved payload existing updated =>
    rw [at_] at holds
    obtain ⟨given, ⟨source, rfl⟩, merged, -⟩ := holds
    obtain rfl := Option.some.inj given
    obtain ⟨profiles, templates⟩ := afterAdvance_disk held sound (by rw [at_])
    refine .profiles _ _ updated at_ templates ?_
    have ended : (pending.next packages device.disk).2 =
        .returned (writeResult pending.store.profilesWrite) := by
      rw [PendingImport.next, at_]
      rfl
    rw [revoked, profiles, PendingImport.revoking, at_, ended]
    dsimp only
    obtain written | ⟨fails, kept⟩ := profilesOrNone_written (refuses pending.store.nonce) utf8 merged
      pending.store.profilesWrite
    · refine .inl ⟨written, ?_⟩
      split_ifs
      · exact List.Subset.refl _
      · exact restores_subset_revokes ..
    · refine .inr ⟨kept, ?_⟩
      cases answer : pending.store.profilesWrite with
      | done => exact absurd answer fails
      | failed stop => exact restores_subset ..

/-! ## What a tick runs -/

theorem finish_disk (tick : PendingTick) (s : TickState) {path : GoString}
    (adaptive : path ≠ adaptivePath tick.cfg) (config : path ≠ configPath tick.cfg) :
    (tick.finish packages s).1.disk path = s.disk path := by
  unfold PendingTick.finish
  dsimp only
  split
  · exact Function.update_of_ne adaptive ..
  · exact (Function.update_of_ne adaptive ..).trans (Function.update_of_ne config ..)

/-- A tick that selects a profile has rendered it. -/
theorem finish_selected {tick : PendingTick} {s : TickState} {id : GoString}
    (apart : configPath tick.cfg ≠ adaptivePath tick.cfg)
    (selected : (tick.finish packages s).2 = some id) :
    ∃ cfgBytes, let p := (tick.choice.consult packages.ticks s.shared tick.answers.response).1
      p.id = id ∧ renderTick packages.ticks tick.cfg tick.choice p tick.answers s.disk =
          .ok cfgBytes ∧
        (tick.finish packages s).1.disk (configPath tick.cfg) = .holding cfgBytes := by
  unfold PendingTick.finish at selected ⊢
  dsimp only at selected ⊢
  split at selected
  · cases selected
  · rename_i cfgBytes ran
    obtain ⟨⟨⟩, -, rendered⟩ := bind_eq_ok.mp ran
    exact ⟨cfgBytes, Option.some.inj selected, rendered,
      (Function.update_of_ne apart ..).trans (Function.update_self ..)⟩

/-- The profile that a tick settles on is one of the store, and may be used. -/
theorem consult_stored {answers : TickAnswers} {disk : Disk} {choice : TickChoice}
    (chosen : chooseProfile packages.ticks cfg answers disk = .ok choice) (shared : RuntimeState)
    (response : Option DecisionResponse) :
    parseMasterKey cfg.masterKey = .ok choice.key ∧
      ∃ p ∈ profilesOrNone (packages.imports.aead choice.key) (disk (profilesPath cfg.stateDir)),
        p.RankedAs answers.clock.readings (choice.consult packages.ticks shared response).1 := by
  have own := chooseProfile_selected packages.ticks cfg chosen
  have ranked : (choice.consult packages.ticks shared response).1 ∈
      choice.ranked.map (·.profile) := by
    have selects := decideWithFallback_selected packages.ticks.quoted (some fun _ => response)
      choice.selected (choice.ranked.map (·.profile))
      (buildRequest (choice.ranked.map (·.profile)) shared.history) choice.selected choice.reason 0.5
    unfold TickChoice.consult
    split_ifs
    · simp only [List.mem_cons, or_self_left] at selects
      rcases selects with same | other
      · dsimp only
        rw [same]
        exact own
      · exact other
    · exact own
  obtain ⟨entry, listed, same⟩ := List.mem_map.mp ranked
  rw [← same]
  simp only [chooseProfile, bind_eq_ok, require_eq_ok, exists_const, mapError_eq_ok, pure_eq_ok]
    at chosen
  obtain ⟨key, parsed, -, -, profiles, loaded, -, -, adaptive, -, -, rfl⟩ := chosen
  obtain ⟨p, kept, shown⟩ := Engine.selectProfile_ranked listed
  have held : profilesOrNone (packages.imports.aead key) (disk (profilesPath cfg.stateDir)) =
      profiles := profilesOrNone_of_ok loaded
  refine ⟨parsed, p, ?_, shown⟩
  change p ∈ profilesOrNone (packages.imports.aead key) _
  rw [held]
  exact List.mem_of_mem_filter kept

theorem resolveTemplateText_trusted {imports : List ImportedBundle} {disk : Disk} {p : Profile}
    {text : Bytes}
    (stored : ∀ k text, (templatesOrNone (packages.imports.aead key)
      (disk (templatesPath cfg))).find? k = some text → PublishedTemplate packages imports k text)
    (resolved : resolveTemplateText cfg (packages.imports.aead key) p disk = .ok text) :
    TrustedTemplate packages key imports cfg disk p text := by
  have usable {k : GoString} (found : ((templatesOrNone (packages.imports.aead key)
      (disk (templatesPath cfg))).find? k).filter (fun text => !isBlank text) = some text) :
      PublishedTemplate packages imports k text :=
    stored k text (Option.filter_eq_some_iff.mp found).1
  have blank {k : GoString} {own : Bytes} (held : (templatesOrNone (packages.imports.aead key)
        (disk (templatesPath cfg))).find? k = some own)
      (unusable : ((templatesOrNone (packages.imports.aead key)
        (disk (templatesPath cfg))).find? k).filter (fun text => !isBlank text) = none) :
      isBlank own = true := by
    have unfit := Option.filter_eq_none_iff.mp unusable own held
    simpa using unfit
  unfold resolveTemplateText at resolved
  dsimp only at resolved
  split at resolved
  · rename_i own found
    cases resolved
    obtain named | ⟨-, family⟩ := Option.or_eq_some_iff.mp found
    · split_ifs at named
      exact .inl (usable named)
    · exact .inr (.inl (usable family))
  · rename_i without
    obtain ⟨unnamed, other⟩ := Option.or_eq_none_iff.mp without
    split at resolved
    · rename_i own read
      cases resolved
      refine .inr (.inr ⟨fun k listed filled own held => ?_, read⟩)
      obtain rfl | rest := List.mem_cons.mp listed
      · rw [if_neg filled] at unnamed
        exact blank held unnamed
      · obtain rfl := List.mem_singleton.mp rest
        exact blank held other
    · cases resolved

/-- A tick under way has chosen among profiles of which each is good. -/
structure PendingTick.From (packages : DevicePackages) (stateDir : GoString) (key : MasterKey)
    (good : Profile → Prop) (tick : PendingTick) : Prop where
  uses : tick.cfg.Uses stateDir key
  key : tick.choice.key = key
  settles : ∀ shared response, ∃ p, good p ∧
    p.RankedAs tick.answers.clock.readings (tick.choice.consult packages.ticks shared response).1

theorem PendingTick.From.mono {good better : Profile → Prop} {tick : PendingTick}
    (source : tick.From packages stateDir key good) (gives : ∀ p, good p → better p) :
    tick.From packages stateDir key better := by
  refine ⟨source.uses, source.key, fun shared response => ?_⟩
  obtain ⟨p, fit, ranked⟩ := source.settles shared response
  exact ⟨p, gives p fit, ranked⟩

/-! ## What a step leaves of the rest -/

/-- A step that is none of a call that has opened its stores. -/
structure Frames (packages : DevicePackages) (stateDir : GoString) (key : MasterKey)
    (device next : Device) : Prop where
  profiles : next.disk (profilesPath stateDir) = device.disk (profilesPath stateDir)
  templates : next.disk (pathJoin stateDir (lit "templates.enc")) =
    device.disk (pathJoin stateDir (lit "templates.enc"))
  revoked : next.revoked = device.revoked
  imports : device.imports ⊆ next.imports
  importing : ∀ i pending, next.importing i = some pending → device.importing i = some pending ∨
    pending.Sound packages stateDir key ∧ pending.phase = .start ∧ pending.imported ∈ next.imports
  ticking : ∀ i tick, next.ticking i = some tick → device.ticking i = some tick ∨
    tick.revoked = device.revoked ∧ tick.From packages stateDir key fun p =>
      p ∈ profilesOrNone (packages.imports.aead key) (device.disk (profilesPath stateDir))

theorem Frames.refl (device : Device) : Frames packages stateDir key device device :=
  ⟨rfl, rfl, rfl, List.Subset.refl _, fun _ _ held => .inl held, fun _ _ held => .inl held⟩

theorem frames_open {i : ℕ} (uses : cfg.Uses stateDir key) :
    Frames packages stateDir key device (device.afterOpen packages i cfg call) := by
  obtain ⟨rfl, parsed, -⟩ := uses
  cases ok : call.opened packages.imports cfg device.disk with
  | error failure =>
    rw [Device.afterOpen, ok]
    exact Frames.refl device
  | ok opened =>
    obtain ⟨profiles, templates, master⟩ := opened_paths ok
    rw [Device.afterOpen, ok]
    refine ⟨rfl, rfl, rfl, List.subset_cons_self _ _, fun j pending held => ?_,
      fun _ _ held => .inl held⟩
    dsimp only at held
    by_cases same : j = i
    · subst same
      rw [Function.update_self] at held
      obtain rfl := Option.some.inj held
      refine .inr ⟨⟨opened_verified ok, opened_utf8 ok, ?_, profiles, templates⟩, rfl,
        List.mem_cons_self ..⟩
      exact Except.ok.inj (master.symm.trans parsed)
    · rw [Function.update_of_ne same] at held
      exact .inl held

theorem frames_choose {i : ℕ} {answers : TickAnswers} (uses : cfg.Uses stateDir key) :
    Frames packages stateDir key device (device.afterChoose packages i cfg answers) := by
  cases chosen : chooseProfile packages.ticks cfg answers device.disk with
  | error message =>
    rw [Device.afterChoose, chosen]
    exact { Frames.refl device with }
  | ok choice =>
    rw [Device.afterChoose, chosen]
    refine ⟨rfl, rfl, rfl, List.Subset.refl _, fun _ _ held => .inl held, fun j tick held => ?_⟩
    dsimp only at held
    by_cases same : j = i
    · subst same
      rw [Function.update_self] at held
      obtain rfl := Option.some.inj held
      have own (shared : RuntimeState) (response : Option DecisionResponse) :=
        consult_stored chosen shared response
      have found : choice.key = key :=
        Except.ok.inj ((own device.shared none).1.symm.trans uses.key)
      refine .inr ⟨rfl, uses, found, fun shared response => ?_⟩
      obtain ⟨-, p, held, ranked⟩ := own shared response
      rw [found, uses.dir] at held
      exact ⟨p, held, ranked⟩
    · rw [Function.update_of_ne same] at held
      exact .inl held

/-- A tick that runs leaves the stores and what is known of the imports alone. -/
theorem frames_run {i : ℕ} (uses : ∀ tick, device.ticking i = some tick → tick.cfg.Uses stateDir key) :
    Frames packages stateDir key device (device.afterRun packages i) := by
  cases held : device.ticking i with
  | none =>
    rw [Device.afterRun, held]
    exact Frames.refl device
  | some tick =>
    obtain ⟨rfl, -, profiles, templates, -⟩ := uses tick held
    have one : profilesPath tick.cfg.stateDir ≠ adaptivePath tick.cfg :=
      pathJoin_ne (by decide) (by decide) (by decide)
    have other : templatesPath tick.cfg ≠ adaptivePath tick.cfg :=
      pathJoin_ne (by decide) (by decide) (by decide)
    rw [Device.afterRun, held]
    refine ⟨finish_disk tick _ one profiles.symm, finish_disk tick _ other templates.symm, rfl,
      List.Subset.refl _, fun _ _ held => .inl held, fun j other held => ?_⟩
    dsimp only at held
    by_cases same : j = i
    · rw [same, Function.update_self] at held
      cases held
    · rw [Function.update_of_ne same] at held
      exact .inl held

/-- A step goes on with a call that has opened its stores, or it leaves these alone. -/
theorem step_frames {label : DeviceLabel} (step : DeviceStep packages stateDir key device label next)
    (uses : ∀ i tick, device.ticking i = some tick → tick.cfg.Uses stateDir key) :
    Frames packages stateDir key device next ∨ ∃ i pending, label = .advance i ∧
      device.importing i = some pending ∧ next = device.afterAdvance packages i := by
  cases step with
  | openBundle free uses call => exact .inl (frames_open uses)
  | advance i =>
    cases held : device.importing i with
    | none =>
      rw [Device.afterAdvance, held]
      exact .inl (Frames.refl device)
    | some pending => exact .inr ⟨i, pending, rfl, held, rfl⟩
  | choose free uses answers => exact .inl (frames_choose uses)
  | run i => exact .inl (frames_run (uses i))
  | others shared disk profiles templates =>
    exact .inl { Frames.refl device with profiles, templates }

end

/-! ## A bundle that replaces another one -/

/-- A payload that revokes the profile of the direct one and brings another. -/
def replacingPayload : BundlePayload :=
  { directPayload familyReality with
    profiles := ((directPayload familyReality).profiles.getD []).map fun p =>
      { p with id := lit "p2", endpoint := ⟨lit "h2", 443, lit "dual"⟩ }
    revocations := some [lit "p1"] }

def replacingSignature : Bytes :=
  (Base64.decode (lit
    "KF7PPYadRa0RY3aCaQguiJTJM_UihUmdNcyHyEBIHXGGUZ7lq-rTM5mFbKhDhdxfZZM11zPSBx-KN7PLhEkBCw")).getD []

def replacingHeader : BundleHeader :=
  { recordedHeader with bundleID := lit "b6", signature := Base64.encode replacingSignature }

def replacingBundle : Bytes :=
  marshal Wrapper.codec
    ⟨replacingHeader, Base64.encode (marshalCanonicalPayload replacingPayload)⟩

def replacingCalls : Suite :=
  recordedSuite recordedKey
    [(recordedKey.val,
      (Base64.decode (lit "E545QOZLVJFyIIjZoNdBYo_IJuCUddNBp4Cs3jxLgHA")).getD [])]
    [(signedBytes (directHeader realitySignature)
        (marshalCanonicalPayload (directPayload familyReality)), realitySignature),
      (signedBytes replacingHeader (marshalCanonicalPayload replacingPayload), replacingSignature)]

theorem replacingBundle_accepted :
    Accepted replacingCalls plainEngine replacingBundle recordedKey none 1500
      ⟨replacingHeader, Base64.encode (marshalCanonicalPayload replacingPayload)⟩
      (marshalCanonicalPayload replacingPayload) replacingSignature
      (marshalCanonicalPayload replacingPayload) replacingPayload := by
  refine accepted_of_signed replacingCalls rfl (by decide) ?_ ?_ (.inl ⟨rfl, rfl⟩)
    (by decide) (validatePayloadStrict_issues.mp (by decide))
  · have clean : headerIssues replacingHeader (ed25519KeyID replacingCalls recordedKey) 1500 (some [])
        (some []) = [] := by decide
    exact (headerIssues_eq_nil.mp clean).1
  · have other : (signedBytes replacingHeader (marshalCanonicalPayload replacingPayload) ==
        signedBytes (directHeader realitySignature)
          (marshalCanonicalPayload (directPayload familyReality))) = false := by
      decide
    simp [replacingCalls, recordedSuite, List.lookup, other]

theorem replacedBundle_accepted :
    Accepted replacingCalls plainEngine (directBundle familyReality realitySignature) recordedKey none
      1500 ⟨directHeader realitySignature,
        Base64.encode (marshalCanonicalPayload (directPayload familyReality))⟩
      (marshalCanonicalPayload (directPayload familyReality)) realitySignature
      (marshalCanonicalPayload (directPayload familyReality)) (directPayload familyReality) := by
  have headerUtf8 : (directHeader realitySignature).Utf8 := by decide
  have utf8 : (directPayload familyReality).Utf8 := by decide
  exact directBundle_passes rfl (by simp [replacingCalls, recordedSuite, List.lookup]) headerUtf8
    (by decide) utf8 (by decide)

def replacingPackages : DevicePackages :=
  ⟨{ identityPackages replacingCalls with aead := fun _ => keyAead }, .stable, id, false⟩

def replacingDisk : Disk := fun path =>
  if path = lit "/b1.snb" then .holding (directBundle familyReality realitySignature)
  else if path = lit "/b2.snb" then .holding replacingBundle
  else .absent

/-- A device without stores, and the two bundles. -/
def replacingDevice : Device := ⟨{}, replacingDisk, fun _ => none, fun _ => none, [], []⟩

theorem recordedConfig_uses : recordedConfig.Uses (lit "/state") recordedMasterKey :=
  ⟨rfl, by decide, by decide⟩

/-- The call with a number as it has opened its stores. -/
def replacingPending (i : Bool) : PendingImport :=
  ⟨pairCall i, recordedConfig,
    if i then replacingBundle else directBundle familyReality realitySignature,
    ⟨recordedMasterKey, lit "/state/profiles.enc", lit "/state/templates.enc",
      if i then replacingPayload.sortTags else (directPayload familyReality).sortTags⟩, .start⟩

/-- The device with a call of which the stores are open. -/
def Device.opening (device : Device) (i : ℕ) (pending : PendingImport) : Device :=
  { device with
    importing := Function.update device.importing i (some pending)
    imports := pending.imported :: device.imports }

theorem replacing_opens {device : Device} (n : ℕ) (i : Bool)
    (first : device.disk (lit "/b1.snb") = .holding (directBundle familyReality realitySignature))
    (second : device.disk (lit "/b2.snb") = .holding replacingBundle) :
    device.afterOpen replacingPackages n recordedConfig (pairCall i) =
      device.opening n (replacingPending i) := by
  have opened : (pairCall i).opened replacingPackages.imports recordedConfig device.disk =
      .ok (replacingPending i).opened := by
    change (pairCall i).opened (identityPackages replacingCalls) recordedConfig device.disk = _
    cases i with
    | false => exact bundleCall_opened (by decide) rfl first ⟨_, rfl⟩ replacedBundle_accepted rfl
    | true => exact bundleCall_opened (by decide) rfl second ⟨_, rfl⟩ replacingBundle_accepted rfl
  have given : (device.disk.read (pairCall i).path).bind fileBundle =
      some (replacingPending i).bundleBytes := by
    cases i with
    | false => exact fileBundle_of_held first ⟨_, rfl⟩
    | true => exact fileBundle_of_held second ⟨_, rfl⟩
  rw [Device.afterOpen, opened, given]
  rfl

/-- The device after both imports and the choice of a tick. -/
def replacedDevice : Device :=
  (((·.afterAdvance replacingPackages 1)^[4] (((·.afterAdvance replacingPackages 0)^[4]
    (replacingDevice.opening 0 (replacingPending false))).opening 1
      (replacingPending true))).afterChoose replacingPackages 0 recordedConfig (answersAt 1700))

def replacingImports : List DeviceLabel :=
  .openBundle 0 recordedConfig (pairCall false) :: List.replicate 4 (.advance 0) ++
    .openBundle 1 recordedConfig (pairCall true) :: List.replicate 4 (.advance 1)

theorem run_replacing : Run (DeviceStep replacingPackages (lit "/state") recordedMasterKey)
    replacingDevice (replacingImports ++ [.choose 0 recordedConfig (answersAt 1700)])
    replacedDevice := by
  have first := @replacing_opens replacingDevice 0 false rfl rfl
  have second := @replacing_opens ((·.afterAdvance replacingPackages 0)^[4]
    (replacingDevice.opening 0 (replacingPending false))) 1 true (by decide +kernel)
    (by decide +kernel)
  have one : DeviceStep replacingPackages (lit "/state") recordedMasterKey replacingDevice
      (.openBundle 0 recordedConfig (pairCall false)) _ := .openBundle rfl recordedConfig_uses _
  have two : DeviceStep replacingPackages (lit "/state") recordedMasterKey
      ((·.afterAdvance replacingPackages 0)^[4] (replacingDevice.opening 0 (replacingPending false)))
      (.openBundle 1 recordedConfig (pairCall true)) _ :=
    .openBundle (Option.isNone_iff_eq_none.mp (by decide +kernel)) recordedConfig_uses _
  rw [first] at one
  rw [second] at two
  have chosen : DeviceStep replacingPackages (lit "/state") recordedMasterKey _
      (.choose 0 recordedConfig (answersAt 1700)) replacedDevice :=
    .choose (Option.isNone_iff_eq_none.mp (by decide +kernel)) recordedConfig_uses _
  exact ((Run.cons one (run_alone ..)).append (.cons two (run_alone ..))).append
    (.cons chosen (.nil _))

/-- The tick selects the profile that has replaced the other, which it knows to be revoked. -/
theorem replacedDevice_selects : (replacedDevice.ticking 0).map (fun tick =>
      ((tick.finish replacingPackages ⟨replacedDevice.shared, replacedDevice.disk⟩).2, tick.revoked)) =
    some (some (lit "p2"), [lit "p1"]) := by decide +kernel

/-! ## Runs -/

section

variable {packages : DevicePackages} {stateDir : GoString} {key : MasterKey} {device next : Device}
  {cfg : AgentConfig} {call : BundleCall} {imported : ImportedBundle} {pending : PendingImport}

/-- What a call under way is known to have read, if what it can read is good. -/
def PendingImport.Reads (packages : DevicePackages) (stateDir : GoString) (key : MasterKey)
    (good : Profile → Prop) (goodText : GoString → GoString → Prop) (pending : PendingImport) : Prop :=
  pending.Sound packages stateDir key ∧
    PhaseHolds (packages.imports.aead key) pending.store good goodText pending.phase

/-- A profile that a trusted signer has published, as the stores hold it. -/
def StoredAsPublished (packages : DevicePackages) (imports : List ImportedBundle) (p : Profile) : Prop :=
  Published packages imports p ∧ p.source.trustLevel ≠ 0

/-- What the stores hold, and what calls and ticks have read from them, has been published. -/
structure Device.Trusted (packages : DevicePackages) (stateDir : GoString) (key : MasterKey)
    (device : Device) : Prop where
  profiles : ∀ p ∈ profilesOrNone (packages.imports.aead key) (device.disk (profilesPath stateDir)),
    StoredAsPublished packages device.imports p
  templates : ∀ k text, (templatesOrNone (packages.imports.aead key)
    (device.disk (pathJoin stateDir (lit "templates.enc")))).find? k = some text →
      PublishedTemplate packages device.imports k text
  importing : ∀ i pending, device.importing i = some pending → pending.imported ∈ device.imports ∧
    pending.Reads packages stateDir key (StoredAsPublished packages device.imports)
      (PublishedTemplate packages device.imports)
  ticking : ∀ i tick, device.ticking i = some tick →
    tick.From packages stateDir key (StoredAsPublished packages device.imports)

theorem StoredAsPublished.mono {imports more : List ImportedBundle} (added : imports ⊆ more)
    (p : Profile) (stored : StoredAsPublished packages imports p) :
    StoredAsPublished packages more p := by
  obtain ⟨⟨own, member, rest⟩, trusted⟩ := stored
  exact ⟨⟨own, added member, rest⟩, trusted⟩

theorem PublishedTemplate.mono {imports more : List ImportedBundle} (added : imports ⊆ more)
    (k text : GoString) (published : PublishedTemplate packages imports k text) :
    PublishedTemplate packages more k text := by
  obtain ⟨own, member, rest⟩ := published
  exact ⟨own, added member, rest⟩

/-- A payload merged with published profiles. -/
theorem mergePayload_published {imports : List ImportedBundle} {stored updated : List Profile}
    {now : Int64} (verified : imported.Verified packages) (known : imported ∈ imports)
    (before : ∀ p ∈ stored, StoredAsPublished packages imports p)
    (merged : mergePayload stored imported.payload now = .ok updated) :
    ∀ p ∈ updated, StoredAsPublished packages imports p := by
  obtain ⟨added, rfl, origin, -⟩ := mergePayload_eq_ok merged
  intro p member
  obtain held | new := List.mem_append.mp member
  · exact before p (List.mem_of_mem_filter held)
  · obtain ⟨raw, inside, normalized⟩ := origin p new
    obtain ⟨same, trusted⟩ := verified.normalized inside normalized
    exact ⟨⟨imported, known, verified, raw, inside, now, same⟩, trusted⟩

theorem overlay_published {imports : List ImportedBundle} {stored : Map GoString GoString}
    (verified : imported.Verified packages) (known : imported ∈ imports)
    (before : ∀ k text, stored.find? k = some text → PublishedTemplate packages imports k text)
    (k text : GoString) (found : (overlay stored imported.payload.templates).find? k = some text) :
    PublishedTemplate packages imports k text := by
  rw [find?_overlay] at found
  cases own : imported.payload.templates.find? k with
  | none =>
    rw [own] at found
    exact before k text found
  | some template =>
    rw [own] at found
    exact ⟨imported, known, verified, template, own, Option.some.inj found⟩

theorem Device.Trusted.frames (trusted : device.Trusted packages stateDir key)
    (frames : Frames packages stateDir key device next) : next.Trusted packages stateDir key := by
  have more := @StoredAsPublished.mono packages _ _ frames.imports
  have texts := @PublishedTemplate.mono packages _ _ frames.imports
  refine ⟨fun p member => ?_, fun k text found => ?_, fun i pending held => ?_, fun i tick held => ?_⟩
  · rw [frames.profiles] at member
    exact more p (trusted.profiles p member)
  · rw [frames.templates] at found
    exact texts k text (trusted.templates k text found)
  · obtain before | ⟨sound, start, known⟩ := frames.importing i pending held
    · obtain ⟨known, sound, holds⟩ := trusted.importing i pending before
      exact ⟨frames.imports known, sound, holds.mono more texts⟩
    · exact ⟨known, sound, by rw [start]; trivial⟩
  · obtain before | ⟨-, source⟩ := frames.ticking i tick held
    · exact (trusted.ticking i tick before).mono more
    · exact source.mono fun p member => more p (trusted.profiles p member)

/-- What a step of a call leaves of the calls. -/
theorem afterAdvance_importing {i j : ℕ} {after : PendingImport}
    (held : device.importing i = some pending)
    (found : (device.afterAdvance packages i).importing j = some after) :
    device.importing j = some after ∨
      after = { pending with phase := (pending.next packages device.disk).2 } := by
  rw [afterAdvance_of_held held] at found
  dsimp only at found
  by_cases same : j = i
  · rw [same, Function.update_self] at found
    exact .inr (Option.some.inj found).symm
  · rw [Function.update_of_ne same] at found
    exact .inl found

/-- A step of a call keeps what is known of what it has read. -/
theorem PendingImport.Reads.goesOn {good : Profile → Prop} {goodText : GoString → GoString → Prop}
    {disk : Disk} (reads : pending.Reads packages stateDir key good goodText)
    (profiles : ∀ p ∈ profilesOrNone (packages.imports.aead key) (disk (profilesPath stateDir)), good p)
    (templates : ∀ k text, (templatesOrNone (packages.imports.aead key)
      (disk (pathJoin stateDir (lit "templates.enc")))).find? k = some text → goodText k text)
    (merges : ∀ existing updated, mergePayload existing pending.opened.payload pending.call.now =
      .ok updated → (∀ p ∈ existing, good p) → ∀ p ∈ updated, good p) :
    PendingImport.Reads packages stateDir key good goodText
      { pending with phase := (pending.next packages disk).2 } := by
  obtain ⟨sound, holds⟩ := reads
  refine ⟨{ sound with }, ?_⟩
  have step := @phaseHolds_step _ _ _ _ ⟨disk (profilesPath stateDir),
      some (disk (pathJoin stateDir (lit "templates.enc")))⟩ _ holds profiles
    (fun file held k text found => by
      obtain rfl := Option.some.inj held
      exact templates k text found)
    fun payload existing updated given merged => by
      obtain rfl := Option.some.inj given
      exact merges existing updated merged
  rw [PendingImport.next, OpenedImport.files, sound.key, sound.profiles, sound.templates]
  exact step

theorem Device.Trusted.advance
    (refuses : ∀ nonce text, (packages.imports.aead key).RefusesCut nonce text) {i : ℕ}
    (trusted : device.Trusted packages stateDir key) (held : device.importing i = some pending) :
    (device.afterAdvance packages i).Trusted packages stateDir key := by
  obtain ⟨known, sound, holds⟩ := trusted.importing i pending held
  have advanced := advance_advanced refuses held sound holds
  have imports : (device.afterAdvance packages i).imports = device.imports := by
    rw [afterAdvance_of_held held]
  have ticking : (device.afterAdvance packages i).ticking = device.ticking := by
    rw [afterAdvance_of_held held]
  have merges (existing updated : List Profile) (merged : mergePayload existing
      pending.opened.payload pending.call.now = .ok updated) :=
    fun each => @mergePayload_published _ pending.imported _ _ _ _ sound.verified known each merged
  refine ⟨?_, ?_, fun j after found => ?_, by rw [imports, ticking]; exact trusted.ticking⟩
  · rw [imports]
    cases advanced with
    | reads profiles => rw [profiles]; exact trusted.profiles
    | templates payload existing updated current at_ profiles =>
      rw [profiles]
      exact trusted.profiles
    | profiles payload existing updated at_ templates written =>
      obtain ⟨same, -⟩ | ⟨kept, -⟩ := written
      · rw [same]
        rw [at_] at holds
        exact holds.2.2.2
      · exact fun p member => trusted.profiles p (kept p member)
  · rw [imports]
    cases advanced with
    | reads profiles templates => rw [templates]; exact trusted.templates
    | profiles payload existing updated at_ templates => rw [templates]; exact trusted.templates
    | templates payload existing updated current at_ profiles revoked entries =>
      rw [at_] at holds
      obtain ⟨given, -, -, -, -, texts⟩ := holds
      obtain rfl := Option.some.inj given
      intro k text found
      obtain written | before := entries k text found
      · exact @overlay_published _ pending.imported _ _ sound.verified known texts k text written
      · exact trusted.templates k text before
  · rw [imports]
    obtain before | rfl := afterAdvance_importing held found
    · exact trusted.importing j after before
    · exact ⟨known, PendingImport.Reads.goesOn ⟨sound, holds⟩ trusted.profiles trusted.templates merges⟩

/-- Every step keeps the stores and what is read from them published. -/
theorem trusted_step (refuses : ∀ nonce text, (packages.imports.aead key).RefusesCut nonce text)
    {label : DeviceLabel} (trusted : device.Trusted packages stateDir key)
    (step : DeviceStep packages stateDir key device label next) :
    next.Trusted packages stateDir key := by
  obtain frames | ⟨i, pending, -, held, rfl⟩ :=
    step_frames step fun i tick held => (trusted.ticking i tick held).uses
  · exact trusted.frames frames
  · exact trusted.advance refuses held

/-- A tick that has chosen among published profiles runs one of them. -/
theorem run_runs_published {i : ℕ} (trusted : device.Trusted packages stateDir key) :
    RunsPublished packages key device (.run i) (device.afterRun packages i) := by
  intro tick id held selected
  have source := trusted.ticking i tick held
  obtain ⟨rfl, parsed, -, -, apart⟩ := source.uses
  obtain ⟨cfgBytes, own, rendered, written⟩ := finish_selected apart selected
  obtain ⟨p, ⟨published, level⟩, shown, usable⟩ := source.settles device.shared tick.answers.response
  have whole : p.trusted = p := if_neg level
  have same : (tick.choice.consult packages.ticks device.shared tick.answers.response).1 = p := by
    rw [whole, or_self] at shown
    exact shown
  rw [same] at own rendered
  unfold renderTick at rendered
  obtain ⟨text, resolved, made⟩ := bind_eq_ok.mp rendered
  have found := mapError_eq_ok.mp resolved
  change resolveTemplateText tick.cfg (packages.imports.aead tick.choice.key) p device.disk = _ at found
  rw [source.key] at found
  refine ⟨p, text, cfgBytes, own, published, usable,
    resolveTemplateText_trusted trusted.templates found, mapError_eq_ok.mp made, ?_⟩
  rw [Device.afterRun, held]
  exact written

/-- From empty stores every tick runs a published profile, whatever is imported in between and however
the steps of imports and ticks are interleaved. -/
theorem ticks_run_published (packages : DevicePackages) (stateDir : GoString) (key : MasterKey)
    (refuses : ∀ nonce text, (packages.imports.aead key).RefusesCut nonce text) {device : Device}
    (empty : device.disk (profilesPath stateDir) = .absent ∧
      device.disk (pathJoin stateDir (lit "templates.enc")) = .absent)
    (idle : ∀ i, device.importing i = none ∧ device.ticking i = none) (labels : List DeviceLabel) :
    Always (DeviceStep packages stateDir key) (RunsPublished packages key) device labels := by
  have start : device.Trusted packages stateDir key := by
    refine ⟨?_, ?_, fun i pending held => ?_, fun i tick held => ?_⟩
    · rw [empty.1]
      exact List.forall_mem_nil _
    · rw [empty.2]
      intro k text found
      cases found
    · rw [(idle i).1] at held
      cases held
    · rw [(idle i).2] at held
      cases held
  apply always_of_invariant start
  intro device next label _ trusted step
  refine ⟨trusted_step refuses trusted step, ?_⟩
  cases step with
  | run i => exact run_runs_published trusted
  | openBundle => trivial
  | advance => trivial
  | choose => trivial
  | others => trivial

end

/-- The tick after both imports runs the profile of the second. -/
theorem replacedDevice_runs :
    (∃ tick, replacedDevice.ticking 0 = some tick ∧
      (tick.finish replacingPackages ⟨replacedDevice.shared, replacedDevice.disk⟩).2 =
        some (lit "p2")) ∧
    Always (DeviceStep replacingPackages (lit "/state") recordedMasterKey)
      (RunsPublished replacingPackages recordedMasterKey) replacingDevice
      (replacingImports ++ [.choose 0 recordedConfig (answersAt 1700), .run 0]) := by
  obtain ⟨tick, held, ran⟩ := Option.map_eq_some_iff.mp replacedDevice_selects
  exact ⟨⟨tick, held, (Prod.mk.inj ran).1⟩,
    ticks_run_published replacingPackages (lit "/state") recordedMasterKey
      (fun _ _ => taggedAead_refusesCut _ _ _) ⟨by decide, by decide⟩ (fun _ => ⟨rfl, rfl⟩) _⟩

/-! ## Revocations -/

section

variable {packages : DevicePackages} {stateDir : GoString} {key : MasterKey} {device next : Device}
  {cfg : AgentConfig} {call : BundleCall} {imported : ImportedBundle} {pending : PendingImport}

/-- No stored profile has been revoked, and no tick has read one that had been. -/
structure Device.Cleared (packages : DevicePackages) (stateDir : GoString) (key : MasterKey)
    (device : Device) : Prop where
  profiles : ∀ p ∈ profilesOrNone (packages.imports.aead key) (device.disk (profilesPath stateDir)),
    p.id ∉ device.revoked
  importing : ∀ i pending, device.importing i = some pending →
    pending.Reads packages stateDir key (fun _ => True) fun _ _ => True
  ticking : ∀ i tick, device.ticking i = some tick →
    tick.From packages stateDir key fun p => p.id ∉ tick.revoked

theorem mergePayload_cleared {stored updated : List Profile} {revoked : List GoString} {now : Int64}
    (verified : imported.Verified packages) (before : ∀ p ∈ stored, p.id ∉ revoked)
    (merged : mergePayload stored imported.payload now = .ok updated) :
    ∀ p ∈ updated, p.id ∉ imported.revokes revoked := by
  obtain ⟨added, rfl, origin, -⟩ := mergePayload_eq_ok merged
  intro p member revokes
  obtain ⟨gone, absent⟩ := List.mem_filter.mp revokes
  obtain held | new := List.mem_append.mp member
  · obtain ⟨inside, kept⟩ := List.mem_filter.mp held
    obtain own | earlier := List.mem_append.mp gone
    · exact of_decide_eq_true kept own
    · exact before p inside earlier
  · obtain ⟨raw, inside, normalized⟩ := origin p new
    obtain ⟨rfl, -⟩ := verified.normalized inside normalized
    exact of_decide_eq_true absent (List.mem_map.mpr ⟨raw, inside, rfl⟩)

theorem Device.Cleared.frames (cleared : device.Cleared packages stateDir key)
    (frames : Frames packages stateDir key device next) : next.Cleared packages stateDir key := by
  refine ⟨fun p member => ?_, fun i pending held => ?_, fun i tick held => ?_⟩
  · rw [frames.profiles] at member
    rw [frames.revoked]
    exact cleared.profiles p member
  · obtain before | ⟨sound, start, -⟩ := frames.importing i pending held
    · exact cleared.importing i pending before
    · exact ⟨sound, by rw [start]; trivial⟩
  · obtain before | ⟨revoked, source⟩ := frames.ticking i tick held
    · exact cleared.ticking i tick before
    · refine source.mono fun p member => ?_
      rw [revoked]
      exact cleared.profiles p member

/-- A call that writes the profiles over those that it has read writes no revoked one. -/
theorem Device.Cleared.advance
    (refuses : ∀ nonce text, (packages.imports.aead key).RefusesCut nonce text) {i : ℕ}
    (cleared : device.Cleared packages stateDir key) (held : device.importing i = some pending)
    (reads : WritesOverRead packages device (.advance i) (device.afterAdvance packages i)) :
    (device.afterAdvance packages i).Cleared packages stateDir key := by
  obtain ⟨sound, holds⟩ := cleared.importing i pending held
  have ticking : (device.afterAdvance packages i).ticking = device.ticking := by
    rw [afterAdvance_of_held held]
  refine ⟨?_, fun j after found => ?_, by rw [ticking]; exact cleared.ticking⟩
  · cases advance_advanced refuses held sound holds with
    | reads profiles templates revoked =>
      rw [profiles, revoked]
      exact cleared.profiles
    | templates payload existing updated current at_ profiles revoked =>
      rw [profiles, revoked]
      exact cleared.profiles
    | profiles payload existing updated at_ templates written =>
      have found := reads i pending payload existing updated rfl held at_
      rw [sound.key, sound.profiles] at found
      rw [at_] at holds
      obtain ⟨given, -, merged, -⟩ := holds
      obtain rfl := Option.some.inj given
      obtain ⟨same, revoked⟩ | ⟨kept, revoked⟩ := written
      · rw [same]
        intro p member again
        exact @mergePayload_cleared _ pending.imported _ _ _ _ sound.verified
          (found ▸ cleared.profiles) merged p member (revoked again)
      · exact fun p member again => cleared.profiles p (kept p member) (revoked again)
  · obtain before | rfl := afterAdvance_importing held found
    · exact cleared.importing j after before
    · exact PendingImport.Reads.goesOn ⟨sound, holds⟩ (fun _ _ => trivial) (fun _ _ _ => trivial)
        fun _ _ _ _ _ _ => trivial

/-- A call has read the profiles as they are in the store. -/
def PendingImport.Current (packages : DevicePackages) (disk : Disk) (pending : PendingImport) : Prop :=
  match pending.phase with
  | .loaded _ existing | .templatesLoaded _ existing _ _ | .templatesSaved _ existing _ =>
      profilesOrNone (packages.imports.aead pending.opened.key) (disk pending.opened.profilesPath) =
        existing
  | _ => True

end

end ShadowNet
