import ShadowNet.Go.WriteFile
import ShadowNet.Import.ProcessAndStore

/-! # Importing where files fail

`ProcessAndStore` over store files that may be unreadable and writes that may fail, also half way.
Nothing is written before the whole payload has been merged; then the templates are written, and then
the profiles. A store that does not load counts as empty.
-/

namespace ShadowNet

open Go Go.Json

/-- What is at the path of a store. -/
inductive StoreFile where
  | absent
  | unreadable
  | holding (contents : Bytes)
deriving DecidableEq

/-- `Load`, given what it makes of a missing file or of contents. -/
def StoreFile.load {α : Type} (opened : Option Bytes → Except String α) :
    StoreFile → Except String α
  | .absent => opened none
  | .unreadable => .error "%w"
  | .holding contents => opened (some contents)

/-- What is at the path of a store after `os.WriteFile`. -/
def StoreFile.afterWrite (file : StoreFile) (new : Bytes) : WriteAnswer → StoreFile
  | .done => .holding new
  | .failed .untouched => file
  | .failed (.written count) => .holding (new.take count)

/-- The files of an importer's stores; the template store may be missing. -/
structure StoreFiles where
  profiles : StoreFile
  templates : Option StoreFile
deriving DecidableEq

/-- One call of `ProcessAndStore`, with the clock and the nonces it reads and the ends of its writes. -/
structure StoreCall where
  payload : Option BundlePayload
  now : Int64
  nonce : Nonce
  templateNonce : Nonce
  templatesWrite : WriteAnswer
  profilesWrite : WriteAnswer

section

variable (aead : Aead)

def loadProfiles (file : StoreFile) : Except String (List Profile) := file.load (Store.load aead)

def loadTemplates (file : StoreFile) : Except String (Map GoString GoString) :=
  file.load (TemplateStore.load aead)

/-- The profiles of a store, none if it does not load. -/
def profilesOrNone (file : StoreFile) : List Profile :=
  match loadProfiles aead file with
  | .ok profiles => profiles
  | .error _ => []

/-- The templates of a store, none if it does not load. -/
def templatesOrNone (file : StoreFile) : Map GoString GoString :=
  match loadTemplates aead file with
  | .ok templates => templates
  | .error _ => ∅

/-- The stored profiles after the payload's revocations and profiles. -/
def mergePayload (stored : List Profile) (payload : BundlePayload) (now : Int64) :
    Except ImportFailure (List Profile) := do
  let existing := stored.foldl (keepExisting (payload.revocations.getD [])) {}
  let merge ← (payload.profiles.getD []).foldlM (mergeProfile existing now)
    { updated := existing.updated }
  return merge.updated

/-- The templates of a payload assigned over stored ones. -/
def overlay (stored : Map GoString GoString) (templates : Map GoString Template) :
    Map GoString GoString :=
  stored.insertAll (templates.entries.map fun entry => (entry.1, entry.2.templateText))

def writeFailure : ImportFailure := .message ⟨"%w", [.foreign]⟩

/-- What a call returns for the end of a write. -/
def writeResult : WriteAnswer → Except ImportFailure Unit
  | .done => .ok ()
  | .failed _ => .error writeFailure

/-- The contents that a call writes to the template store at `file`. -/
def StoreCall.sealedTemplates (call : StoreCall) (templates : Map GoString Template)
    (file : StoreFile) : Bytes :=
  TemplateStore.save aead call.templateNonce (overlay (templatesOrNone aead file) templates)

/-- The contents that a call writes to the profile store. -/
def StoreCall.sealedProfiles (call : StoreCall) (updated : List Profile) : Bytes :=
  Store.save aead call.nonce (appended updated)

/-- The part of `ProcessAndStore` that writes the template store. -/
def StoreCall.saveTemplates (call : StoreCall) (templates : Map GoString Template) :
    Option StoreFile → Option StoreFile × Except ImportFailure Unit
  | none => (none, .ok ())
  | some file =>
      if templates.entries = [] then (some file, .ok ())
      else
        (some (file.afterWrite (call.sealedTemplates aead templates file) call.templatesWrite),
          writeResult call.templatesWrite)

/-- `ProcessAndStore`: the files after the call, and what it returns. -/
def StoreCall.run (call : StoreCall) (files : StoreFiles) :
    StoreFiles × Except ImportFailure Unit :=
  match call.payload with
  | none => (files, .error (.message ⟨"bundle invalid: empty payload", []⟩))
  | some payload =>
      match mergePayload (profilesOrNone aead files.profiles) payload call.now with
      | .error failure => (files, .error failure)
      | .ok updated =>
          match call.saveTemplates aead payload.templates files.templates with
          | (templates, .error failure) => ({ files with templates }, .error failure)
          | (templates, .ok ()) =>
              ({ profiles :=
                    files.profiles.afterWrite (call.sealedProfiles aead updated) call.profilesWrite
                 templates },
                writeResult call.profilesWrite)

end

/-! ## What a call can do -/

variable {aead : Aead} {files : StoreFiles} {call : StoreCall}

/-- The call writes the template store, or tries to. -/
def BringsTemplates (files : StoreFiles) (call : StoreCall) : Prop :=
  files.templates.isSome = true ∧
    ∃ payload, call.payload = some payload ∧ payload.templates.entries ≠ []

/-- The payload is missing, or does not merge with the profiles that were read. -/
def Refused (aead : Aead) (files : StoreFiles) (call : StoreCall) : Prop :=
  ∀ payload updated, call.payload = some payload →
    mergePayload (profilesOrNone aead files.profiles) payload call.now ≠ .ok updated

/-- The template store after a call that has got past it: left alone, or with the payload's
templates. -/
inductive TemplatesSaved (aead : Aead) (files : StoreFiles) (call : StoreCall)
    (payload : BundlePayload) : Option StoreFile → Prop
  | alone (none : ¬ BringsTemplates files call) :
      TemplatesSaved aead files call payload files.templates
  | written (file : StoreFile) (held : files.templates = some file)
      (brings : BringsTemplates files call) (works : call.templatesWrite = .done) :
      TemplatesSaved aead files call payload
        (some (.holding (call.sealedTemplates aead payload.templates file)))

/-- How a call of `ProcessAndStore` can end. -/
inductive Outcome (aead : Aead) (files : StoreFiles) (call : StoreCall) : Prop
  /-- The payload is missing, invalid or in conflict with what is stored. -/
  | refused (failure : ImportFailure) (reason : Refused aead files call)
      (ends : call.run aead files = (files, .error failure))
  | templatesFailed (payload : BundlePayload) (updated : List Profile) (file : StoreFile)
      (stop : WriteEnd) (given : call.payload = some payload)
      (merged : mergePayload (profilesOrNone aead files.profiles) payload call.now = .ok updated)
      (held : files.templates = some file) (filled : payload.templates.entries ≠ [])
      (fails : call.templatesWrite = .failed stop)
      (ends : call.run aead files =
        ({ files with
            templates := some (file.afterWrite
              (call.sealedTemplates aead payload.templates file) (.failed stop)) },
          .error writeFailure))
  | profilesFailed (payload : BundlePayload) (updated : List Profile)
      (templates : Option StoreFile) (stop : WriteEnd) (given : call.payload = some payload)
      (merged : mergePayload (profilesOrNone aead files.profiles) payload call.now = .ok updated)
      (saved : TemplatesSaved aead files call payload templates)
      (fails : call.profilesWrite = .failed stop)
      (ends : call.run aead files =
        ({ profiles :=
              files.profiles.afterWrite (call.sealedProfiles aead updated) (.failed stop)
           templates },
          .error writeFailure))
  | stored (payload : BundlePayload) (updated : List Profile) (templates : Option StoreFile)
      (given : call.payload = some payload)
      (merged : mergePayload (profilesOrNone aead files.profiles) payload call.now = .ok updated)
      (saved : TemplatesSaved aead files call payload templates)
      (works : call.profilesWrite = .done)
      (ends : call.run aead files =
        ({ profiles := .holding (call.sealedProfiles aead updated), templates }, .ok ()))

/-- The templates of a payload are saved, or their write fails. -/
theorem saveTemplates_cases {payload : BundlePayload} (given : call.payload = some payload) :
    (∃ templates, TemplatesSaved aead files call payload templates ∧
        call.saveTemplates aead payload.templates files.templates = (templates, .ok ())) ∨
      ∃ file stop, files.templates = some file ∧ payload.templates.entries ≠ [] ∧
        call.templatesWrite = .failed stop ∧
        call.saveTemplates aead payload.templates files.templates =
          (some (file.afterWrite (call.sealedTemplates aead payload.templates file) (.failed stop)),
            .error writeFailure) := by
  cases held : files.templates with
  | none =>
    refine .inl ⟨files.templates, .alone ?_, by rw [held]; rfl⟩
    rintro ⟨some, -⟩
    rw [held] at some
    cases some
  | some file =>
    by_cases empty : payload.templates.entries = []
    · refine .inl ⟨files.templates, .alone ?_, by rw [held]; exact if_pos empty⟩
      rintro ⟨-, other, same, filled⟩
      obtain rfl := Option.some.inj (given.symm.trans same)
      exact filled empty
    · have brings : BringsTemplates files call := ⟨by rw [held]; rfl, payload, given, empty⟩
      cases ended : call.templatesWrite with
      | done =>
        refine .inl ⟨_, .written file held brings ended, ?_⟩
        rw [StoreCall.saveTemplates, if_neg empty, ended]
        rfl
      | failed stop =>
        refine .inr ⟨file, stop, rfl, empty, rfl, ?_⟩
        rw [StoreCall.saveTemplates, if_neg empty, ended]
        rfl

theorem StoreCall.outcome (aead : Aead) (files : StoreFiles) (call : StoreCall) :
    Outcome aead files call := by
  cases given : call.payload with
  | none =>
    refine .refused (.message ⟨"bundle invalid: empty payload", []⟩) (fun payload _ some => ?_) ?_
    · rw [given] at some
      cases some
    · simp only [run, given]
  | some payload =>
    cases merged : mergePayload (profilesOrNone aead files.profiles) payload call.now with
    | error failure =>
      refine .refused failure (fun other updated same => ?_) (by simp only [run, given, merged])
      obtain rfl := Option.some.inj (given.symm.trans same)
      rw [merged]
      exact nofun
    | ok updated =>
      obtain ⟨templates, saved, did⟩ | ⟨file, stop, held, filled, fails, did⟩ :=
        @saveTemplates_cases aead files call payload given
      · cases ended : call.profilesWrite with
        | done =>
          refine .stored payload updated templates given merged saved ended ?_
          simp only [run, given, merged, did, ended, StoreFile.afterWrite, writeResult]
        | failed stop =>
          refine .profilesFailed payload updated templates stop given merged saved ended ?_
          simp only [run, given, merged, did, ended, writeResult]
      · refine .templatesFailed payload updated file stop given merged held filled fails ?_
        simp only [run, given, merged, did]

/-- What a successful call has done. -/
theorem StoreCall.stored_of_ok (succeeded : (call.run aead files).2 = .ok ()) :
    ∃ payload updated templates, call.payload = some payload ∧
      mergePayload (profilesOrNone aead files.profiles) payload call.now = .ok updated ∧
      TemplatesSaved aead files call payload templates ∧ call.profilesWrite = .done ∧
      call.run aead files =
        ({ profiles := .holding (call.sealedProfiles aead updated), templates }, .ok ()) := by
  cases call.outcome aead files with
  | refused failure reason ends => rw [ends] at succeeded; cases succeeded
  | templatesFailed payload updated file stop given merged held filled fails ends =>
    rw [ends] at succeeded
    cases succeeded
  | profilesFailed payload updated templates stop given merged saved fails ends =>
    rw [ends] at succeeded
    cases succeeded
  | stored payload updated templates given merged saved works ends =>
    exact ⟨payload, updated, templates, given, merged, saved, works, ends⟩

/-- A call succeeds if its payload merges and it can write what it has to write. -/
theorem StoreCall.run_eq_ok_iff : (call.run aead files).2 = .ok () ↔
    ¬ Refused aead files call ∧ (BringsTemplates files call → call.templatesWrite = .done) ∧
      call.profilesWrite = .done := by
  constructor
  · intro succeeded
    obtain ⟨payload, updated, templates, given, merged, saved, works, -⟩ := stored_of_ok succeeded
    refine ⟨fun refused => refused payload updated given merged, fun brings => ?_, works⟩
    cases saved with
    | alone none => exact absurd brings none
    | written file held _ did => exact did
  · rintro ⟨passes, brought, works⟩
    cases call.outcome aead files with
    | refused failure reason ends => exact absurd reason passes
    | templatesFailed payload updated file stop given merged held filled fails ends =>
      cases fails.symm.trans (brought ⟨by rw [held]; rfl, payload, given, filled⟩)
    | profilesFailed payload updated templates stop given merged saved fails ends =>
      cases fails.symm.trans works
    | stored payload updated templates given merged saved works ends => rw [ends]

/-! ## What is read back -/

theorem loadProfiles_utf8 {file : StoreFile} {profiles : List Profile}
    (loaded : loadProfiles aead file = .ok profiles) : ∀ p ∈ profiles, p.Utf8 := by
  cases file with
  | absent => exact Store.load_utf8 (show Store.load aead none = .ok profiles from loaded)
  | unreadable => cases loaded
  | holding contents =>
    exact Store.load_utf8 (show Store.load aead (some contents) = .ok profiles from loaded)

theorem profilesOrNone_utf8 (aead : Aead) (file : StoreFile) :
    ∀ p ∈ profilesOrNone aead file, p.Utf8 := by
  unfold profilesOrNone
  split
  · rename_i profiles loaded
    exact loadProfiles_utf8 loaded
  · simp

theorem templatesOrNone_utf8 (aead : Aead) (file : StoreFile) :
    ∀ entry ∈ (templatesOrNone aead file).entries, Valid entry.1 ∧ Valid entry.2 := by
  unfold templatesOrNone
  split
  · rename_i templates loaded
    cases file with
    | absent =>
      exact TemplateStore.load_utf8 (show TemplateStore.load aead none = .ok templates from loaded)
    | unreadable => cases loaded
    | holding contents =>
      exact TemplateStore.load_utf8
        (show TemplateStore.load aead (some contents) = .ok templates from loaded)
  · exact fun _ member => nomatch member

theorem importDefaults_utf8 {p : Profile} (utf8 : p.Utf8) (now : Int64) :
    (importDefaults now p).Utf8 := by
  have bundle : Valid (lit "bundle") := by decide
  have source : Valid (if p.source.source = [] then lit "bundle" else p.source.source) := by
    split_ifs
    · exact bundle
    · exact utf8.source.source
  have reason : Valid (importDefaults now p).health.lastFailReason := by
    unfold importDefaults
    simp only
    split_ifs <;> exact utf8.health.lastFailReason
  exact { utf8 with source := ⟨source, utf8.source.publisherKey⟩, health := ⟨reason⟩ }

/-- A merged payload: the stored profiles that it does not revoke, and its own. -/
theorem mergePayload_eq_ok {stored updated : List Profile} {payload : BundlePayload} {now : Int64}
    (merged : mergePayload stored payload now = .ok updated) :
    ∃ added, updated = stored.filter (·.id ∉ payload.revocations.getD []) ++ added ∧
      (∀ p ∈ added, ∃ raw ∈ payload.profiles.getD [], Normalized now raw p) ∧
      ∀ raw ∈ payload.profiles.getD [], ∃ p ∈ added, Normalized now raw p := by
  simp only [mergePayload, bind_eq_ok, pure_eq_ok] at merged
  obtain ⟨merge, folded, rfl⟩ := merged
  have start : Existing.Indexed {} := ⟨fun _ _ found => (nomatch found), fun _ member => (nomatch member)⟩
  obtain ⟨-, kept⟩ := foldl_keepExisting (payload.revocations.getD []) stored start
  obtain ⟨added, updated, each, -⟩ := foldlM_mergeProfile folded
  exact ⟨added, by rw [updated, kept]; rfl, forall₂_mem each.flip, forall₂_mem each⟩

theorem mergePayload_utf8 {file : StoreFile} {updated : List Profile} {payload : BundlePayload}
    {now : Int64} (utf8 : payload.Utf8)
    (merged : mergePayload (profilesOrNone aead file) payload now = .ok updated) :
    ∀ p ∈ updated, p.Utf8 := by
  obtain ⟨added, rfl, origin, -⟩ := mergePayload_eq_ok merged
  intro p member
  obtain held | new := List.mem_append.mp member
  · exact profilesOrNone_utf8 aead file p (List.mem_of_mem_filter held)
  · obtain ⟨raw, inside, np, normalized, rfl⟩ := origin p new
    exact importDefaults_utf8 ((utf8.profiles raw inside).normalized normalized) now

theorem find?_overlay (stored : Map GoString GoString) (templates : Map GoString Template)
    (key : GoString) : (overlay stored templates).find? key =
      ((templates.find? key).map (·.templateText)).or (stored.find? key) :=
  Map.find?_insertAll_map stored templates (·.templateText) key

theorem overlay_utf8 {file : StoreFile} {payload : BundlePayload} (utf8 : payload.Utf8) :
    ∀ entry ∈ (overlay (templatesOrNone aead file) payload.templates).entries,
      Valid entry.1 ∧ Valid entry.2 := by
  rintro ⟨key, text⟩ member
  have found := (Map.find?_eq_some _).mpr member
  rw [find?_overlay] at found
  cases own : payload.templates.find? key with
  | none =>
    rw [own] at found
    exact templatesOrNone_utf8 aead file _ ((Map.find?_eq_some _).mp found)
  | some template =>
    rw [own] at found
    have fit := utf8.templates _ ((Map.find?_eq_some _).mp own)
    exact ⟨fit.1, Option.some.inj found ▸ fit.2⟩

/-! ## Atomicity -/

/-- Both stores read back as before. -/
def ReadsAsBefore (aead : Aead) (before after : StoreFiles) : Prop :=
  loadProfiles aead after.profiles = loadProfiles aead before.profiles ∧
    after.templates.map (loadTemplates aead) = before.templates.map (loadTemplates aead)

/-- A write that fails leaves its own file as it was. -/
def StoreCall.FailsClean (call : StoreCall) : Prop :=
  call.templatesWrite.Clean ∧ call.profilesWrite.Clean

/-- The profile store fails after the template store has got other templates. -/
def HalfDone (aead : Aead) (files : StoreFiles) (call : StoreCall) : Prop :=
  ∃ payload updated file, call.payload = some payload ∧ files.templates = some file ∧
    mergePayload (profilesOrNone aead files.profiles) payload call.now = .ok updated ∧
    payload.templates.entries ≠ [] ∧ call.templatesWrite = .done ∧ call.profilesWrite ≠ .done ∧
    loadTemplates aead (.holding (TemplateStore.save aead call.templateNonce
      (overlay (templatesOrNone aead file) payload.templates))) ≠ loadTemplates aead file

/-- A failed import whose failing write leaves its own file alone leaves both stores alone exactly when
it does not fail between the two writes. -/
theorem processAndStore_atomic_iff (aead : Aead) (files : StoreFiles) {call : StoreCall}
    (clean : call.FailsClean) :
    (∀ failure, (call.run aead files).2 = .error failure →
      ReadsAsBefore aead files (call.run aead files).1) ↔ ¬ HalfDone aead files call := by
  cases call.outcome aead files with
  | refused failure reason ends =>
    refine iff_of_true (fun _ _ => by rw [ends]; exact ⟨rfl, rfl⟩) ?_
    rintro ⟨payload, updated, file, given, -, merged, -⟩
    exact reason payload updated given merged
  | templatesFailed payload updated file stop given merged held filled fails ends =>
    obtain rfl := clean.1 stop fails
    refine iff_of_true (fun _ _ => ?_) ?_
    · rw [ends]
      exact ⟨rfl, by rw [held]; rfl⟩
    · rintro ⟨_, _, _, -, -, -, -, works, -⟩
      rw [fails] at works
      cases works
  | stored payload updated templates given merged saved works ends =>
    refine iff_of_true (fun failure failed => ?_) ?_
    · rw [ends] at failed
      cases failed
    · rintro ⟨_, _, _, -, -, -, -, -, fails, -⟩
      exact fails works
  | profilesFailed payload updated templates stop given merged saved fails ends =>
    obtain rfl := clean.2 stop fails
    have broken : call.profilesWrite ≠ .done := by
      rw [fails]
      exact nofun
    cases saved with
    | alone none =>
      refine iff_of_true (fun _ _ => by rw [ends]; exact ⟨rfl, rfl⟩) ?_
      rintro ⟨payload, _, file, given, held, -, filled, -⟩
      exact none ⟨by rw [held]; rfl, payload, given, filled⟩
    | written file held brings works =>
      obtain ⟨-, other, same, filled⟩ := brings
      obtain rfl := Option.some.inj (given.symm.trans same)
      constructor
      · rintro atomic ⟨payload', updated', file', given', held', -, -, -, -, differ⟩
        obtain rfl := Option.some.inj (given.symm.trans given')
        obtain rfl := Option.some.inj (held.symm.trans held')
        have same := (atomic writeFailure (by rw [ends])).2
        rw [ends, held] at same
        exact differ (Option.some.inj same)
      · intro whole failure failed
        rw [ends]
        refine ⟨rfl, ?_⟩
        rw [held]
        refine congrArg some (not_not.mp fun differ => whole ?_)
        exact ⟨payload, updated, file, given, held, merged, filled, works, broken, differ⟩

/-- An import of the payload on record, with the ends of its two writes. -/
def recordedCall (templatesWrite profilesWrite : WriteAnswer) : StoreCall :=
  ⟨some recordedPayload.sortTags, 1600, recordedImport.nonce, recordedImport.templateNonce,
    templatesWrite, profilesWrite⟩

theorem recordedCall_atomic_iff :
    (∀ failure, ((recordedCall (.failed .untouched) .done).run clearAead
          ⟨.absent, some .absent⟩).2 = .error failure →
        ReadsAsBefore clearAead ⟨.absent, some .absent⟩
          ((recordedCall (.failed .untouched) .done).run clearAead ⟨.absent, some .absent⟩).1) ↔
      ¬ HalfDone clearAead ⟨.absent, some .absent⟩ (recordedCall (.failed .untouched) .done) := by
  refine processAndStore_atomic_iff _ _ ⟨?_, ?_⟩ <;> rintro stop fails <;> cases fails
  rfl

/-- The templates of a failed import stay. -/
theorem halfDone_import :
    ¬ ∀ failure, ((recordedCall .done (.failed .untouched)).run clearAead
          ⟨.absent, some .absent⟩).2 = .error failure →
      ReadsAsBefore clearAead ⟨.absent, some .absent⟩
        ((recordedCall .done (.failed .untouched)).run clearAead ⟨.absent, some .absent⟩).1 := by
  intro atomic
  have same := (atomic writeFailure (by decide)).2
  have differ : ((recordedCall .done (.failed .untouched)).run clearAead
      ⟨.absent, some .absent⟩).1.templates.map (loadTemplates clearAead) ≠
        some (loadTemplates clearAead .absent) := by decide
  exact differ same

/-! ## What an import keeps -/

/-- A store that is there and does not load. -/
def Broken {α : Type} (loaded : Except String α) : Prop := ∃ text, loaded = .error text

/-- A successful import keeps what the payload neither revokes nor replaces, and a store that does
not load makes the import fail and keeps its file. -/
structure LosesNothing (aead : Aead) (files : StoreFiles) (call : StoreCall) : Prop where
  profiles : (call.run aead files).2 = .ok () → ∀ payload stored, call.payload = some payload →
    loadProfiles aead files.profiles = .ok stored →
      ∃ kept, loadProfiles aead (call.run aead files).1.profiles = .ok kept ∧
        ∀ p ∈ stored, p.id ∉ payload.revocations.getD [] →
          (∀ q ∈ payload.profiles.getD [], q.id ≠ p.id) → p ∈ kept
  templates : (call.run aead files).2 = .ok () → ∀ payload file stored,
    call.payload = some payload → files.templates = some file →
      loadTemplates aead file = .ok stored →
        ∃ after kept, (call.run aead files).1.templates = some after ∧
          loadTemplates aead after = .ok kept ∧
          ∀ key text, stored.find? key = some text → payload.templates.find? key = none →
            kept.find? key = some text
  brokenProfiles : Broken (loadProfiles aead files.profiles) →
    (call.run aead files).2 ≠ .ok () ∧ (call.run aead files).1.profiles = files.profiles
  brokenTemplates : ∀ file, files.templates = some file → Broken (loadTemplates aead file) →
    (call.run aead files).2 ≠ .ok () ∧ (call.run aead files).1.templates = files.templates

/-- A write that fails leaves the file as it was: it does not get to the truncation, or stops at a part
that the file has held already. -/
def StoreFile.Spared (file : StoreFile) (new : Bytes) (answer : WriteAnswer) : Prop :=
  ∃ stop, answer = .failed stop ∧
    (stop = .untouched ∨ ∃ count, stop = .written count ∧ file = .holding (new.take count))

/-- Both stores load, or the call stops before it changes the one that does not. -/
structure StopsInTime (aead : Aead) (files : StoreFiles) (call : StoreCall) : Prop where
  profiles : Broken (loadProfiles aead files.profiles) →
    Refused aead files call ∨ (BringsTemplates files call ∧ call.templatesWrite ≠ .done) ∨
      ∀ payload updated, call.payload = some payload →
        mergePayload (profilesOrNone aead files.profiles) payload call.now = .ok updated →
          files.profiles.Spared (call.sealedProfiles aead updated) call.profilesWrite
  templates : ∀ file, files.templates = some file → Broken (loadTemplates aead file) →
    Refused aead files call ∨
      (BringsTemplates files call ∧ ∀ payload, call.payload = some payload →
        file.Spared (call.sealedTemplates aead payload.templates file) call.templatesWrite) ∨
      (¬ BringsTemplates files call ∧ call.profilesWrite ≠ .done)

/-- A failing write spares a file exactly where the file is the same afterwards. -/
theorem StoreFile.afterWrite_failed_iff {file : StoreFile} {new : Bytes} {answer : WriteAnswer}
    {stop : WriteEnd} (fails : answer = .failed stop) :
    file.afterWrite new (.failed stop) = file ↔ file.Spared new answer := by
  cases stop with
  | untouched => exact iff_of_true rfl ⟨_, fails, .inl rfl⟩
  | written count =>
    constructor
    · exact fun same => ⟨_, fails, .inr ⟨count, rfl, same.symm⟩⟩
    · rintro ⟨other, same, rfl | ⟨taken, rfl, holds⟩⟩
      · cases fails.symm.trans same
      · cases fails.symm.trans same
        exact holds.symm

theorem storedProfiles_load {file : StoreFile} {updated : List Profile} {payload : BundlePayload}
    {now : Int64} (nonce : Nonce) (utf8 : payload.Utf8)
    (merged : mergePayload (profilesOrNone aead file) payload now = .ok updated) :
    loadProfiles aead (.holding (Store.save aead nonce (appended updated))) = .ok updated :=
  Store.load_save aead nonce (mergePayload_utf8 utf8 merged)

theorem storedTemplates_load {file : StoreFile} {payload : BundlePayload} (nonce : Nonce)
    (utf8 : payload.Utf8) :
    loadTemplates aead (.holding (TemplateStore.save aead nonce
      (overlay (templatesOrNone aead file) payload.templates))) =
        .ok (overlay (templatesOrNone aead file) payload.templates) :=
  TemplateStore.load_save aead nonce (overlay_utf8 utf8)

theorem not_broken {α : Type} {value : α} : ¬ Broken (.ok value : Except String α) := by
  rintro ⟨text, error⟩
  cases error

section

variable {payload : BundlePayload} {updated : List Profile} {templates : Option StoreFile}

/-- A call that writes the profiles keeps everything that it could read. -/
theorem keeps_of_stored (utf8 : payload.Utf8) (given : call.payload = some payload)
    (merged : mergePayload (profilesOrNone aead files.profiles) payload call.now = .ok updated)
    (saved : TemplatesSaved aead files call payload templates)
    (ends : call.run aead files =
      ({ profiles := .holding (call.sealedProfiles aead updated), templates }, .ok ()))
    (profiles : ¬ Broken (loadProfiles aead files.profiles))
    (others : ∀ file, files.templates = some file → ¬ Broken (loadTemplates aead file)) :
    LosesNothing aead files call := by
  refine ⟨fun _ other stored same loaded => ?_, fun _ other file stored same held loaded => ?_,
    fun broken => absurd broken profiles, fun file held broken => absurd broken (others file held)⟩
  · rw [ends]
    obtain rfl := Option.some.inj (given.symm.trans same)
    refine ⟨updated, storedProfiles_load call.nonce utf8 merged, fun p member unrevoked _ => ?_⟩
    obtain ⟨added, rfl, -⟩ := mergePayload_eq_ok merged
    refine List.mem_append_left _ (List.mem_filter.mpr ⟨?_, decide_eq_true unrevoked⟩)
    rwa [profilesOrNone, loaded]
  · rw [ends]
    obtain rfl := Option.some.inj (given.symm.trans same)
    cases saved with
    | alone none => exact ⟨file, stored, held, loaded, fun _ _ found _ => found⟩
    | written own held' brings works =>
      obtain rfl := Option.some.inj (held.symm.trans held')
      refine ⟨_, _, rfl, storedTemplates_load call.templateNonce utf8, fun key text found fresh => ?_⟩
      rw [find?_overlay, fresh, templatesOrNone, loaded]
      exact found

/-- A call whose write of the templates fails. -/
theorem losesNothing_of_templatesFailed {file : StoreFile} {stop : WriteEnd}
    (given : call.payload = some payload)
    (merged : mergePayload (profilesOrNone aead files.profiles) payload call.now = .ok updated)
    (held : files.templates = some file) (filled : payload.templates.entries ≠ [])
    (fails : call.templatesWrite = .failed stop)
    (ends : call.run aead files =
      ({ files with
          templates := some (file.afterWrite
            (call.sealedTemplates aead payload.templates file) (.failed stop)) },
        .error writeFailure)) :
    LosesNothing aead files call ↔ StopsInTime aead files call := by
  have result : (call.run aead files).2 ≠ .ok () := by
    rw [ends]
    exact nofun
  have brings : BringsTemplates files call := ⟨by rw [held]; rfl, payload, given, filled⟩
  have broke : call.templatesWrite ≠ .done := by
    rw [fails]
    exact nofun
  constructor
  · intro loses
    refine ⟨fun _ => .inr (.inl ⟨brings, broke⟩), fun other held' broken => ?_⟩
    obtain rfl := Option.some.inj (held.symm.trans held')
    have same := (loses.brokenTemplates _ held broken).2
    rw [ends, held] at same
    refine .inr (.inl ⟨brings, fun other given' => ?_⟩)
    obtain rfl := Option.some.inj (given.symm.trans given')
    exact (StoreFile.afterWrite_failed_iff fails).mp (Option.some.inj same)
  · intro stops
    refine ⟨fun succeeded => absurd succeeded result, fun succeeded => absurd succeeded result,
      fun _ => ⟨result, by rw [ends]⟩, fun other held' broken => ⟨result, ?_⟩⟩
    rw [ends, held]
    obtain rfl := Option.some.inj (held.symm.trans held')
    obtain refused | ⟨-, spared⟩ | ⟨none, -⟩ := stops.templates _ held broken
    · exact absurd merged (refused payload updated given)
    · exact congrArg some ((StoreFile.afterWrite_failed_iff fails).mpr (spared payload given))
    · exact absurd brings none

/-- A call whose write of the profiles fails. -/
theorem losesNothing_of_profilesFailed {stop : WriteEnd} (utf8 : payload.Utf8)
    (given : call.payload = some payload)
    (merged : mergePayload (profilesOrNone aead files.profiles) payload call.now = .ok updated)
    (saved : TemplatesSaved aead files call payload templates)
    (fails : call.profilesWrite = .failed stop)
    (ends : call.run aead files =
      ({ profiles := files.profiles.afterWrite (call.sealedProfiles aead updated) (.failed stop)
         templates },
        .error writeFailure)) :
    LosesNothing aead files call ↔ StopsInTime aead files call := by
  have result : (call.run aead files).2 ≠ .ok () := by
    rw [ends]
    exact nofun
  have broke : call.profilesWrite ≠ .done := by
    rw [fails]
    exact nofun
  have same : (call.run aead files).1.profiles = files.profiles ↔
      files.profiles.Spared (call.sealedProfiles aead updated) call.profilesWrite := by
    rw [ends]
    exact StoreFile.afterWrite_failed_iff fails
  have spares (loses : LosesNothing aead files call) (broken : Broken (loadProfiles aead files.profiles)) :
      ∀ other merge, call.payload = some other →
        mergePayload (profilesOrNone aead files.profiles) other call.now = .ok merge →
          files.profiles.Spared (call.sealedProfiles aead merge) call.profilesWrite := by
    intro other merge given' merged'
    obtain rfl := Option.some.inj (given.symm.trans given')
    obtain rfl := Except.ok.inj (merged.symm.trans merged')
    exact same.mp (loses.brokenProfiles broken).2
  cases saved with
  | alone none =>
    constructor
    · exact fun loses => ⟨fun broken => .inr (.inr (spares loses broken)),
        fun _ _ _ => .inr (.inr ⟨none, broke⟩)⟩
    · intro stops
      refine ⟨fun succeeded => absurd succeeded result, fun succeeded => absurd succeeded result,
        fun broken => ⟨result, same.mpr ?_⟩, fun _ _ _ => ⟨result, by rw [ends]⟩⟩
      obtain refused | ⟨brings, -⟩ | spared := stops.profiles broken
      · exact absurd merged (refused payload updated given)
      · exact absurd brings none
      · exact spared payload updated given merged
  | written file held brings works =>
    constructor
    · intro loses
      refine ⟨fun broken => .inr (.inr (spares loses broken)), fun other held' broken => ?_⟩
      have opened := @storedTemplates_load aead file payload call.templateNonce utf8
      have kept := (loses.brokenTemplates other held' broken).2
      rw [ends, held'] at kept
      rw [← Option.some.inj kept] at broken
      exact absurd broken (opened ▸ not_broken)
    · intro stops
      refine ⟨fun succeeded => absurd succeeded result, fun succeeded => absurd succeeded result,
        fun broken => ⟨result, same.mpr ?_⟩, fun other held' broken => ?_⟩
      · obtain refused | ⟨-, refused⟩ | spared := stops.profiles broken
        · exact absurd merged (refused payload updated given)
        · exact absurd works refused
        · exact spared payload updated given merged
      · obtain refused | ⟨-, spared⟩ | ⟨none, -⟩ := stops.templates other held' broken
        · exact absurd merged (refused payload updated given)
        · obtain ⟨stop, fails, -⟩ := spared payload given
          cases works.symm.trans fails
        · exact absurd brings none

end

/-- An import loses nothing exactly when it stops in time wherever a store does not load. -/
theorem processAndStore_losesNothing_iff
    (utf8 : ∀ payload, call.payload = some payload → payload.Utf8) :
    LosesNothing aead files call ↔ StopsInTime aead files call := by
  cases call.outcome aead files with
  | refused failure reason ends =>
    have result : (call.run aead files).2 ≠ .ok () := by
      rw [ends]
      exact nofun
    refine iff_of_true ⟨?_, ?_, fun _ => ?_, fun _ _ _ => ?_⟩
      ⟨fun _ => .inl reason, fun _ _ _ => .inl reason⟩
    · exact fun succeeded => absurd succeeded result
    · exact fun succeeded => absurd succeeded result
    · exact ⟨result, by rw [ends]⟩
    · exact ⟨result, by rw [ends]⟩
  | templatesFailed payload updated file stop given merged held filled fails ends =>
    exact losesNothing_of_templatesFailed given merged held filled fails ends
  | profilesFailed payload updated templates stop given merged saved fails ends =>
    exact losesNothing_of_profilesFailed (utf8 payload given) given merged saved fails ends
  | stored payload updated templates given merged saved works ends =>
    have result : (call.run aead files).2 = .ok () := by rw [ends]
    constructor
    · intro loses
      exact ⟨fun broken => absurd result (loses.brokenProfiles broken).1,
        fun file held broken => absurd result (loses.brokenTemplates file held broken).1⟩
    · intro stops
      have brought : BringsTemplates files call → call.templatesWrite = .done := by
        intro brings
        cases saved with
        | alone none => exact absurd brings none
        | written file held _ did => exact did
      refine keeps_of_stored (utf8 payload given) given merged saved ends (fun broken => ?_)
        fun file held broken => ?_
      · obtain refused | ⟨brings, fails⟩ | spared := stops.profiles broken
        · exact refused payload updated given merged
        · exact fails (brought brings)
        · obtain ⟨stop, fails, -⟩ := spared payload updated given merged
          cases works.symm.trans fails
      · obtain refused | ⟨brings, spared⟩ | ⟨-, fails⟩ := stops.templates file held broken
        · exact refused payload updated given merged
        · obtain ⟨stop, fails, -⟩ := spared payload given
          cases (brought brings).symm.trans fails
        · exact fails works

theorem verifiedPayload_utf8 {suite : Suite} {engine : TextTemplate.Engine Profile}
    {bundleBytes : Bytes} {signer : PublicKey} {opts : VerifyOptions suite} {clock : Int64}
    {payload : BundlePayload}
    (accepted : verifiedPayload suite engine bundleBytes signer opts clock = some payload) :
    payload.Utf8 := by
  obtain ⟨_, _, _, _, decoded, passed, rfl⟩ := (verifiedPayload_eq_some suite).mp accepted
  have utf8 := decodeStrict_payload_utf8 passed.reads
  refine { utf8 with profiles := fun p member => ?_ }
  rw [BundlePayload.sortTags_profiles] at member
  obtain ⟨raw, inside, rfl⟩ := List.mem_map.mp member
  exact (utf8.profiles raw inside).sortTags

/-- The call on record finds no store that does not load. -/
theorem recordedCall_losesNothing :
    LosesNothing clearAead ⟨.absent, some .absent⟩ (recordedCall .done .done) := by
  have empty : loadTemplates clearAead .absent = .ok ∅ := rfl
  refine (processAndStore_losesNothing_iff fun payload given => ?_).mpr ⟨?_, ?_⟩
  · cases given
    exact verifiedPayload_utf8 recordedBundle_verified
  · exact fun broken => absurd broken not_broken
  · rintro file held broken
    obtain rfl := Option.some.inj held
    rw [empty] at broken
    exact absurd broken not_broken

/-- An import over a damaged profile store succeeds, and all that it held is gone. -/
theorem damagedStore_overwritten :
    ¬ LosesNothing clearAead ⟨.holding [0], some .absent⟩ (recordedCall .done .done) := by
  intro loses
  exact (loses.brokenProfiles ⟨"malformed ciphertext", by decide⟩).1 (by decide)

/-! ## Calls whose files can be read and written -/

def StoreFile.ofContents : Option Bytes → StoreFile
  | none => .absent
  | some contents => .holding contents

def Stores.onDisk (stores : Stores) : StoreFiles :=
  ⟨.ofContents stores.profiles, stores.templates.map .ofContents⟩

theorem StoreFile.load_ofContents {α : Type} (opened : Option Bytes → Except String α)
    (file : Option Bytes) : (StoreFile.ofContents file).load opened = opened file := by
  cases file <;> rfl

/-- Where no file fails, a call does what `processAndStore` says. -/
theorem StoreCall.run_eq (aead : Aead) (stores : Stores) (call : ImportCall) :
    StoreCall.run aead
        ⟨some call.payload, call.now, call.nonce, call.templateNonce, .done, .done⟩ stores.onDisk =
      match processAndStore aead stores call with
      | .ok next => (next.onDisk, .ok ())
      | .error failure => (stores.onDisk, .error failure) := by
  have profiles : profilesOrNone aead stores.onDisk.profiles = existingProfiles aead stores := by
    rw [profilesOrNone, loadProfiles, Stores.onDisk, StoreFile.load_ofContents]
    unfold existingProfiles
    cases Store.load aead stores.profiles <;> rfl
  have templates : (StoreCall.mk (some call.payload) call.now call.nonce call.templateNonce .done
        .done).saveTemplates aead call.payload.templates stores.onDisk.templates =
      ((stores.templates.map (storeTemplates aead call.templateNonce
        call.payload.templates)).map .ofContents, .ok ()) := by
    rw [Stores.onDisk]
    cases stores.templates with
    | none => rfl
    | some file =>
      simp only [Option.map_some, saveTemplates, storeTemplates]
      split_ifs with empty
      · rfl
      · rw [sealedTemplates, templatesOrNone, loadTemplates, StoreFile.load_ofContents]
        cases TemplateStore.load aead file <;> rfl
  simp only [StoreCall.run, profiles, templates, processAndStore, mergePayload]
  cases (call.payload.profiles.getD []).foldlM
      (mergeProfile ((existingProfiles aead stores).foldl
        (keepExisting (call.payload.revocations.getD [])) {}) call.now)
      { updated := ((existingProfiles aead stores).foldl
        (keepExisting (call.payload.revocations.getD [])) {}).updated } with
  | error failure => rfl
  | ok merge => rfl

/-! ## Revocations -/

/-- The ID that `NormalizeForWire` gives a profile. -/
def normalID (id : GoString) : GoString := trimSpace (toLower id)

theorem normalID_normalID (id : GoString) : normalID (normalID id) = normalID id := by
  simp only [normalID, trimSpace_toLower, trimSpace_trimSpace, toLower_toLower]

theorem Normalized.id {now : Int64} {raw p : Profile} (normalized : Normalized now raw p) :
    p.id = normalID raw.id := by
  obtain ⟨np, done, rfl⟩ := normalized
  obtain ⟨family, -, -, -, rfl⟩ := normalizeForWire_eq_ok.mp done
  rfl

/-- No stored profile has a revoked ID, up to normalization. -/
def Revoked (aead : Aead) (payload : BundlePayload) (file : StoreFile) : Prop :=
  ∃ stored, loadProfiles aead file = .ok stored ∧
    ∀ p ∈ stored, ∀ id ∈ payload.revocations.getD [], normalID p.id ≠ normalID id

/-- The payload lists no profile that it revokes, and spells the stored IDs as they are stored. -/
structure PlainlyRevokes (aead : Aead) (payload : BundlePayload) (file : StoreFile) : Prop where
  own : ∀ p ∈ payload.profiles.getD [], ∀ id ∈ payload.revocations.getD [],
    normalID p.id ≠ normalID id
  spelled : ∀ p ∈ profilesOrNone aead file, ∀ id ∈ payload.revocations.getD [],
    normalID p.id = normalID id → p.id ∈ payload.revocations.getD []

/-- What a successful call leaves in the profile store. -/
theorem loads_of_ok {payload : BundlePayload} (utf8 : payload.Utf8)
    (given : call.payload = some payload) (succeeded : (call.run aead files).2 = .ok ()) :
    ∃ added, loadProfiles aead (call.run aead files).1.profiles =
        .ok ((profilesOrNone aead files.profiles).filter (·.id ∉ payload.revocations.getD []) ++
          added) ∧
      (∀ p ∈ added, ∃ raw ∈ payload.profiles.getD [], Normalized call.now raw p) ∧
      ∀ raw ∈ payload.profiles.getD [], ∃ p ∈ added, Normalized call.now raw p := by
  obtain ⟨other, updated, templates, same, merged, -, -, ends⟩ := StoreCall.stored_of_ok succeeded
  obtain rfl := Option.some.inj (given.symm.trans same)
  obtain ⟨added, rfl, origin, each⟩ := mergePayload_eq_ok merged
  rw [ends]
  exact ⟨added, storedProfiles_load call.nonce utf8 merged, origin, each⟩

/-- Revocations take effect exactly when the payload does not undo or misspell them itself. -/
theorem processAndStore_revokes_iff {suite : Suite} {engine : TextTemplate.Engine Profile}
    {bundleBytes : Bytes} {signer : PublicKey} {opts : VerifyOptions suite} {clock : Int64}
    {payload : BundlePayload}
    (accepted : verifiedPayload suite engine bundleBytes signer opts clock = some payload)
    (given : call.payload = some payload) (succeeded : (call.run aead files).2 = .ok ()) :
    Revoked aead payload (call.run aead files).1.profiles ↔
      PlainlyRevokes aead payload files.profiles := by
  obtain ⟨added, loaded, origin, each⟩ := loads_of_ok (verifiedPayload_utf8 accepted) given succeeded
  constructor
  · rintro ⟨_, reads, apart⟩
    obtain rfl := Except.ok.inj (loaded.symm.trans reads)
    constructor
    · intro p member id revoked
      obtain ⟨stored, new, normalized⟩ := each p member
      have differ := apart stored (List.mem_append_right _ new) id revoked
      rwa [normalized.id, normalID_normalID] at differ
    · intro p member id revoked equal
      by_contra unlisted
      have kept : p ∈ (profilesOrNone aead files.profiles).filter
          (·.id ∉ payload.revocations.getD []) :=
        List.mem_filter.mpr ⟨member, decide_eq_true unlisted⟩
      exact apart p (List.mem_append_left _ kept) id revoked equal
  · rintro ⟨own, spelled⟩
    refine ⟨_, loaded, fun p member id revoked equal => ?_⟩
    obtain held | new := List.mem_append.mp member
    · obtain ⟨before, unlisted⟩ := List.mem_filter.mp held
      exact of_decide_eq_true unlisted (spelled p before id revoked equal)
    · obtain ⟨raw, inside, normalized⟩ := origin p new
      rw [normalized.id, normalID_normalID] at equal
      exact own raw inside id revoked equal

/-- The call on record, into an empty store. -/
theorem recordedCall_revokes_iff :
    Revoked clearAead recordedPayload.sortTags
        ((recordedCall .done .done).run clearAead ⟨.absent, some .absent⟩).1.profiles ↔
      PlainlyRevokes clearAead recordedPayload.sortTags .absent :=
  processAndStore_revokes_iff recordedBundle_verified rfl (by decide)

/-- The payload on record, revoking its own profile. -/
def revokingPayload : BundlePayload := { recordedPayload with revocations := some [lit "p1"] }

def revokingSignature : Bytes :=
  (Base64.decode (lit
    "RXIma0s9CnpOef1vLH9cm0otjuPZdFcpN4Vez03B--Q9UeeMI0sOo0SyoOM4_xKgzczpLOBKUzvhTbDK0TQiAw")).getD []

def revokingHeader : BundleHeader :=
  { recordedHeader with signature := Base64.encode revokingSignature }

def revokingBundle : Bytes :=
  marshal Wrapper.codec ⟨revokingHeader, Base64.encode (marshalCanonicalPayload revokingPayload)⟩

def revokingCalls : Suite :=
  recordedSuite recordedKey
    [(recordedKey.val,
        (Base64.decode (lit "E545QOZLVJFyIIjZoNdBYo_IJuCUddNBp4Cs3jxLgHA")).getD []),
      (revokingBundle, (Base64.decode (lit "yDfb87Z5-Org08hfWY6NM7jlHnDoAgBfw_B4pZ1kgs8")).getD [])]
    [(signedBytes revokingHeader (marshalCanonicalPayload revokingPayload), revokingSignature)]

theorem revokingBundle_verified :
    verifiedPayload revokingCalls plainEngine revokingBundle recordedKey ⟨1500, none, true⟩ 0 =
      some revokingPayload.sortTags := by
  refine (verifiedPayload_eq_some revokingCalls).mpr ⟨_, _, _, _, revokingPayload,
    accepted_of_signed revokingCalls rfl (by decide) ?_ ?_ (.inl ⟨rfl, rfl⟩)
      (by decide) (validatePayloadStrict_issues.mp (by decide)), rfl⟩
  · have clean : headerIssues revokingHeader (ed25519KeyID revokingCalls recordedKey) 1500 (some [])
        (some []) = [] := by decide
    exact (headerIssues_eq_nil.mp clean).1
  · simp [revokingCalls, recordedSuite, List.lookup]

def revokingCall : StoreCall :=
  { recordedCall .done .done with payload := some revokingPayload.sortTags }

/-- A profile that the payload both revokes and lists is stored. -/
theorem revoked_stays :
    ¬ ∀ payload, verifiedPayload revokingCalls plainEngine revokingBundle recordedKey
          ⟨1500, none, true⟩ 0 = some payload →
        revokingCall.payload = some payload →
        (revokingCall.run clearAead ⟨.absent, some .absent⟩).2 = .ok () →
          Revoked clearAead payload (revokingCall.run clearAead ⟨.absent, some .absent⟩).1.profiles := by
  intro effective
  have succeeded : (revokingCall.run clearAead ⟨.absent, some .absent⟩).2 = .ok () := by
    decide
  obtain ⟨stored, reads, apart⟩ := effective _ revokingBundle_verified rfl succeeded
  obtain ⟨added, loaded, -, each⟩ :=
    loads_of_ok (verifiedPayload_utf8 revokingBundle_verified) rfl succeeded
  obtain rfl := Except.ok.inj (loaded.symm.trans reads)
  have listed : revokingPayload.sortTags.profiles.getD [] ≠ [] := by decide
  obtain ⟨p, new, normalized⟩ := each _ (List.head_mem listed)
  apply apart p (List.mem_append_right _ new) _ (List.mem_singleton_self _)
  rw [normalized.id, normalID_normalID]
  rfl

end ShadowNet
