import ShadowNet.Go.Json.Narrow
import ShadowNet.Go.Path
import ShadowNet.Go.Replace
import ShadowNet.Inside.Report
import ShadowNet.Profile.Store

/-! # The state file

`inside` writes its state as laid-out JSON to a temporary file and renames it, and `report.Generate`
reads the members that it needs from whatever is there. A report that is made at any moment of any
run tells the state that was written last, in full, or that there is none.
-/

namespace ShadowNet.Inside

open Go Go.Json

/-! ## Writing -/

def ProbeResult.fields : List (StructField ProbeResult) :=
  [.of (lit "status") (·.status) (fun value probe => { probe with status := value }) .string,
    .of (lit "reason") (·.reason) (fun value probe => { probe with reason := value }) .string,
    .of (lit "target_url") (·.targetURL) (fun value probe => { probe with targetURL := value }) .string,
    .of (lit "proxy_url") (·.proxyURL) (fun value probe => { probe with proxyURL := value }) .string,
    .omitIf (· = 0) (lit "http_status") (·.httpStatus)
      (fun value probe => { probe with httpStatus := value }) .int,
    .of (lit "duration_ms") (·.durationMS) (fun value probe => { probe with durationMS := value }) .int,
    .omitEmpty (lit "error") (·.error) (fun value probe => { probe with error := value }),
    .of (lit "observed_at_unix") (·.observedAt) (fun value probe => { probe with observedAt := value })
      .int]

def ProbeResult.codec : Codec ProbeResult := .struct ProbeResult.fields

def AttemptState.zero : AttemptState := ⟨0, [], [], [], 0, {}⟩

def AttemptState.fields : List (StructField AttemptState) :=
  [.of (lit "attempt") (·.attempt) (fun value entry => { entry with attempt := value }) .int,
    .of (lit "profile_id") (·.profileID) (fun value entry => { entry with profileID := value }) .string,
    .of (lit "family") (·.family) (fun value entry => { entry with family := value }) .string,
    .of (lit "config_path") (·.configPath) (fun value entry => { entry with configPath := value })
      .string,
    .of (lit "sing_box_pid") (·.singBoxPID) (fun value entry => { entry with singBoxPID := value }) .int,
    .of (lit "probe") (·.probe) (fun value entry => { entry with probe := value }) ProbeResult.codec]

def AttemptState.codec : Codec AttemptState := .struct AttemptState.fields

/-- The members of the state file; an empty list of candidates may be nil. -/
def AgentState.fields (nilCandidates : Bool) : List (StructField AgentState) :=
  [.of (lit "state_dir") (·.stateDir) (fun value st => { st with stateDir := value }) .string,
    .of (lit "profiles_loaded") (·.profilesLoaded) (fun value st => { st with profilesLoaded := value })
      .int,
    .of (lit "selected_profile_id") (·.selectedProfileID)
      (fun value st => { st with selectedProfileID := value }) .string,
    .of (lit "selection_reason") (·.selectionReason)
      (fun value st => { st with selectionReason := value }) .string,
    .of (lit "fallback_candidates") (·.fallbackCandidates)
      (fun value st => { st with fallbackCandidates := value }) (.list .string [] nilCandidates),
    .of (lit "config_path") (·.configPath) (fun value st => { st with configPath := value }) .string,
    .of (lit "sing_box_binary") (·.singBoxBinary) (fun value st => { st with singBoxBinary := value })
      .string,
    .of (lit "sing_box_pid") (·.singBoxPID) (fun value st => { st with singBoxPID := value }) .int,
    .of (lit "status") (·.status) (fun value st => { st with status := value }) .string,
    .of (lit "probe") (·.probe) (fun value st => { st with probe := value }) ProbeResult.codec,
    .omitIf (fun attempts : List AttemptState => attempts.isEmpty) (lit "attempts") (·.attempts)
      (fun value st => { st with attempts := value })
      (.list AttemptState.codec AttemptState.zero false),
    .of (lit "updated_at_unix") (·.updatedAtUnix) (fun value st => { st with updatedAtUnix := value })
      .int]

def AgentState.codec (nilCandidates : Bool) : Codec AgentState := .struct (AgentState.fields nilCandidates)

/-- The text that `writeState` writes. -/
def stateText (nilCandidates : Bool) (st : AgentState) : Option Bytes :=
  layOut (lit "  ") (marshal (AgentState.codec nilCandidates) st)

/-! ## Reading -/

def ReportState.zero : ReportState := ⟨0, [], [], [], 0, 0⟩

/-- The members of the state file that `pkg/report` has in its struct. -/
def ReportState.fields : List (StructField ReportState) :=
  [.of (lit "profiles_loaded") (·.profilesLoaded) (fun value st => { st with profilesLoaded := value })
      .int,
    .of (lit "selected_profile_id") (·.selectedProfileID)
      (fun value st => { st with selectedProfileID := value }) .string,
    .of (lit "selection_reason") (·.selectionReason)
      (fun value st => { st with selectionReason := value }) .string,
    .of (lit "fallback_candidates") (·.fallbackCandidates)
      (fun value st => { st with fallbackCandidates := value }) (.list .string [] false),
    .of (lit "sing_box_pid") (·.singBoxPID) (fun value st => { st with singBoxPID := value }) .int,
    .of (lit "updated_at_unix") (·.updatedAtUnix) (fun value st => { st with updatedAtUnix := value })
      .int]

/-- `readAgentState`; the flag tells whether there is a file. -/
def readAgentState (file : Option Bytes) : ReportState × Bool × Option Message :=
  match file with
  | none => (.zero, false, none)
  | some raw =>
      match unmarshal (.struct ReportState.fields) .zero raw with
      | none => (.zero, true, some ⟨"%w", [.foreign]⟩)
      | some st => (st, true, none)

def statePath (stateDir : GoString) : GoString := pathJoin stateDir (lit "state.json")

/-- What the binary that makes a report has built in. -/
structure BuildInfo where
  version : GoString
  goVersion : GoString
  goos : GoString
  goarch : GoString

structure Report where
  schema : GoString := lit "shadownet.report.v1"
  build : BuildInfo
  generatedAtUnix : Int64
  generatedHour : Int64
  mode : GoString := lit "inside"
  errors : List Message := []
  summary : Summary := {}

/-- The profile store as the report opens it; `folder` tells whether `os.MkdirAll` succeeds. -/
def reportedProfiles (aead : Aead) (folder : Bool) (file : Option Bytes) :
    Except Message (List Profile) :=
  if folder then (Store.load aead file).mapError fun text => ⟨"profiles_load_error: %v", [.err text]⟩
  else .error ⟨"profiles_store_error: %v", [.foreign]⟩

/-- The end of `report.Generate`, from what the two files gave. -/
def Report.about (out : Report) (checked : Int64) (st : Option ReportState)
    (profiles : Except Message (List Profile)) : Report :=
  match profiles with
  | .error message => { out with errors := out.errors ++ [message], summary := stateSummary st }
  | .ok profiles => { out with summary := generateSummary checked st profiles }

/-- A report before it has opened a file. -/
def Report.start (build : BuildInfo) (now : Int64) : Report :=
  { build, generatedAtUnix := now, generatedHour := now - Int64.ofInt (now.toInt % 3600) }

/-- `report.Generate`; the clock is read at the start and when the profiles are counted. -/
def generate (build : BuildInfo) (aeadOf : MasterKey → Aead) (now checked : Int64) (folder : Bool)
    (stateDir masterKey : Bytes) (files : Files GoString) : Report :=
  let out := Report.start build now
  if isBlank stateDir then { out with errors := [⟨"missing state_dir", []⟩] }
  else if size : masterKey.length = 32 then
    let (st, ok, err) := readAgentState (files (statePath stateDir))
    let out := { out with errors := err.toList.map fun _ => ⟨"state_read_error: %v", [.foreign]⟩ }
    out.about checked (if ok then some st else none)
      (reportedProfiles (aeadOf ⟨masterKey, size⟩) folder
        (files (pathJoin stateDir (lit "profiles.enc"))))
  else { out with errors := [⟨"missing or invalid master_key", []⟩] }

/-! ## What is read back -/

theorem ProbeResult.codec_numeric (probe : ProbeResult) :
    (ProbeResult.codec.encode probe).Numeric := by
  apply numeric_struct
  exact ⟨trivial, trivial, trivial, trivial, isNumber_itoa _, isNumber_itoa _, trivial,
    isNumber_itoa _⟩

theorem ProbeResult.codec_depth (probe : ProbeResult) : (ProbeResult.codec.encode probe).depth ≤ 1 := by
  apply depth_struct
  simp [ProbeResult.fields, StructField.of, StructField.omitIf, StructField.omitEmpty, Codec.string,
    Codec.int, Value.depth]

theorem AttemptState.codec_numeric (entry : AttemptState) :
    (AttemptState.codec.encode entry).Numeric := by
  apply numeric_struct
  exact ⟨isNumber_itoa _, trivial, trivial, trivial, isNumber_itoa _, entry.probe.codec_numeric⟩

theorem AttemptState.codec_depth (entry : AttemptState) :
    (AttemptState.codec.encode entry).depth ≤ 2 := by
  apply depth_struct
  simp [AttemptState.fields, StructField.of, Codec.string, Codec.int, Value.depth,
    entry.probe.codec_depth]

theorem AgentState.codec_numeric (nilCandidates : Bool) (st : AgentState) :
    ((AgentState.codec nilCandidates).encode st).Numeric := by
  apply numeric_struct
  have candidates : ((Codec.list .string [] nilCandidates).encode st.fallbackCandidates).Numeric :=
    numeric_list [] fun _ _ => trivial
  have attempts : ((Codec.list AttemptState.codec AttemptState.zero false).encode
      st.attempts).Numeric := numeric_list _ fun entry _ => entry.codec_numeric
  exact ⟨trivial, isNumber_itoa _, trivial, trivial, candidates, trivial, trivial, isNumber_itoa _,
    trivial, st.probe.codec_numeric, attempts, isNumber_itoa _⟩

theorem AgentState.codec_depth (nilCandidates : Bool) (st : AgentState) :
    ((AgentState.codec nilCandidates).encode st).depth ≤ 4 := by
  apply depth_struct
  have candidates : ((Codec.list .string [] nilCandidates).encode st.fallbackCandidates).depth ≤ 3 :=
    (depth_list [] fun _ _ => Nat.zero_le 0).trans (by decide)
  have attempts : ((Codec.list AttemptState.codec AttemptState.zero false).encode
      st.attempts).depth ≤ 3 := depth_list _ fun entry _ => entry.codec_depth
  have probe := st.probe.codec_depth.trans (by decide : 1 ≤ 3)
  exact ⟨Nat.zero_le _, Nat.zero_le _, Nat.zero_le _, Nat.zero_le _, candidates, Nat.zero_le _,
    Nat.zero_le _, Nat.zero_le _, Nat.zero_le _, probe, attempts, Nat.zero_le _⟩

/-- The report takes its members from the state and passes over the others. -/
theorem readsInto_agentState (nilCandidates : Bool) (st : AgentState) :
    ReadsInto st ReportState.fields (AgentState.fields nilCandidates) .zero st.readBack := by
  have candidates : (Codec.list .string [] false).decode false []
      ((Codec.list .string [] nilCandidates).encode st.fallbackCandidates).sanitize =
        some (st.fallbackCandidates.map toValid) :=
    reads_list nilCandidates [] _ (fun candidate _ => reads_string _ candidate) false
  apply readsInto_other (by decide) (by decide)
  apply readsInto_of (by decide) rfl (reads_int _ _ false)
  apply readsInto_of (by decide) rfl (reads_string _ _ false)
  apply readsInto_of (by decide) rfl (reads_string _ _ false)
  apply readsInto_of (by decide) rfl candidates
  apply readsInto_other (by decide) (by decide)
  apply readsInto_other (by decide) (by decide)
  apply readsInto_of (by decide) rfl (reads_int _ _ false)
  apply readsInto_other (by decide) (by decide)
  apply readsInto_other (by decide) (by decide)
  apply readsInto_other (by decide) (by decide)
  apply readsInto_of (by decide) rfl (reads_int _ _ false)
  rfl

/-- A state that is written is read back. -/
theorem readAgentState_stateText {nilCandidates : Bool} {st : AgentState} {data : Bytes}
    (written : stateText nilCandidates st = some data) :
    readAgentState (some data) = (st.readBack, true, none) := by
  have spaces : ∀ byte ∈ lit "  ", isWhite byte = true := forall_mem_of_all (by decide)
  obtain ⟨text, laid, read⟩ := unmarshal_laidOut spaces
    (reads_narrow (readsInto_agentState nilCandidates st)) (st.codec_numeric nilCandidates)
    ((st.codec_depth nilCandidates).trans (by decide))
  have same := written.symm.trans laid
  cases same
  simp only [readAgentState, read]

/-- Every state can be written. -/
theorem stateText_isSome (nilCandidates : Bool) (st : AgentState) :
    ∃ data, stateText nilCandidates st = some data := by
  have spaces : ∀ byte ∈ lit "  ", isWhite byte = true := forall_mem_of_all (by decide)
  obtain ⟨text, laid, -⟩ := unmarshal_laidOut spaces
    (reads_narrow (readsInto_agentState nilCandidates st)) (st.codec_numeric nilCandidates)
    ((st.codec_depth nilCandidates).trans (by decide))
  exact ⟨text, laid⟩

theorem exists_forall₂ {α β : Type} {R : α → β → Prop} {as : List α} (each : ∀ a ∈ as, ∃ b, R a b) :
    ∃ bs, List.Forall₂ R as bs := by
  induction as with
  | nil => exact ⟨[], .nil⟩
  | cons a rest ih =>
    obtain ⟨⟨b, own⟩, others⟩ := List.forall_mem_cons.mp each
    obtain ⟨bs, related⟩ := ih others
    exact ⟨b :: bs, .cons own related⟩

/-- The last items of related lists. -/
theorem forall₂_getLast? {α β : Type} {R : α → β → Prop} {as : List α} {bs : List β}
    (each : List.Forall₂ R as bs) :
    as.getLast? = none ∧ bs.getLast? = none ∨
      ∃ a b, as.getLast? = some a ∧ bs.getLast? = some b ∧ R a b := by
  rw [List.getLast?_eq_head?_reverse, List.getLast?_eq_head?_reverse]
  have reversed := List.forall₂_reverse_iff.mpr each
  generalize as.reverse = front, bs.reverse = back at reversed
  cases reversed with
  | nil => exact .inl ⟨rfl, rfl⟩
  | cons own _ => exact .inr ⟨_, _, rfl, rfl, own⟩

/-- The state is what a call of `writeState` was to write. -/
def Writes (data : Bytes) (st : AgentState) : Prop := ∃ nilCandidates, stateText nilCandidates st = some data

/-- A report tells the state of the last `writeState` that has come to its end, whole, or that there is
none yet; wherever other calls are or have stopped, and whatever happens to other files. -/
theorem report_tells_written {targets : Set GoString}
    (plain : ∀ path ∈ targets, hasSuffix path (lit ".tmp") = false) {stateDir : GoString}
    (named : isBlank stateDir = false) (target : statePath stateDir ∈ targets)
    {start last : FileSystem GoString} (idle : start.writers = fun _ => none)
    (absent : start.files (statePath stateDir) = none) {calls : List (FileCall GoString)}
    (run : Run (FileStep temporaryFile targets) start calls last)
    (own : ∀ data, .create (statePath stateDir) data ∈ calls → ∃ st, Writes data st) :
    ∃ states, List.Forall₂ Writes (renamedTo (statePath stateDir) calls) states ∧
      ∀ build aeadOf now checked folder (key : MasterKey),
        generate build aeadOf now checked folder stateDir key.val last.files =
          (Report.start build now).about checked (states.getLast?.map AgentState.readBack)
            (reportedProfiles (aeadOf key) folder
              (last.files (pathJoin stateDir (lit "profiles.enc")))) := by
  have each : ∀ data ∈ renamedTo (statePath stateDir) calls, ∃ st, Writes data st := by
    intro data member
    obtain created | ⟨writer, busy, -⟩ := run.renamed_created data member
    · exact own data created
    · rw [idle] at busy
      cases busy
  have tidy : start.Tidy temporaryFile targets := by
    intro path _ writer busy
    rw [idle] at busy
    cases busy
  have held := run.replaced (beside_temporaryFile plain) tidy target
  rw [absent, Option.or_none] at held
  obtain ⟨states, written⟩ := exists_forall₂ each
  refine ⟨states, written, fun build aeadOf now checked folder key => ?_⟩
  have read : readAgentState (last.files (statePath stateDir)) =
      ((states.getLast?.map AgentState.readBack).getD .zero, states.getLast?.isSome, none) := by
    rw [held]
    obtain ⟨empty, blank⟩ | ⟨data, st, final, latest, nilCandidates, text⟩ := forall₂_getLast? written
    · rw [empty, blank]
      rfl
    · rw [final, latest, readAgentState_stateText text]
      rfl
  unfold generate
  rw [named, if_neg Bool.false_ne_true, dif_pos key.property, read]
  cases states.getLast? <;> rfl

/-- A write that stops, one that comes to its end, and one under way. -/
def interruptedCalls (path data : Bytes) : List (FileCall GoString) :=
  [.create path data, .write path 1, .stop path, .create path data, .write path data.length,
    .rename path data, .create path data]

/-- The calls can be made one after another. -/
theorem interruptedCalls_run (path data : Bytes) : ∃ last,
    Run (FileStep temporaryFile {path}) { files := fun _ => none } (interruptedCalls path data)
      last := by
  apply Exists.intro
  apply Run.cons (.create rfl rfl)
  apply Run.cons (.write rfl (Function.update_self ..))
  apply Run.cons .stop
  apply Run.cons (.create rfl (Function.update_self ..))
  apply Run.cons (.write rfl (Function.update_self ..))
  apply Run.cons (@FileStep.rename _ _ temporaryFile {path} _ path ⟨data, data.length⟩ rfl
    (Function.update_self ..) le_rfl)
  apply Run.cons (.create rfl (Function.update_self ..))
  apply Run.nil

/-- The report tells what the write has written that has come to its end. -/
theorem interruptedCalls_told : ∃ data last, Writes data { singBoxPID := 7 } ∧
    Run (FileStep temporaryFile {statePath (lit "dir")}) { files := fun _ => none }
      (interruptedCalls (statePath (lit "dir")) data) last ∧
    ∃ st, Writes data st ∧
      generate ⟨[], [], [], []⟩ (fun _ => clearAead) 0 0 true (lit "dir") (List.replicate 32 1)
          last.files =
        (Report.start ⟨[], [], [], []⟩ 0).about 0 (some st.readBack)
          (reportedProfiles clearAead true (last.files (pathJoin (lit "dir") (lit "profiles.enc")))) := by
  obtain ⟨data, text⟩ := stateText_isSome false { singBoxPID := 7 }
  obtain ⟨last, run⟩ := interruptedCalls_run (statePath (lit "dir")) data
  refine ⟨data, last, ⟨false, text⟩, run, ?_⟩
  have plain : ∀ path ∈ ({statePath (lit "dir")} : Set GoString),
      hasSuffix path (lit ".tmp") = false := by
    rintro path rfl
    decide
  obtain ⟨states, told, report⟩ := report_tells_written plain (by decide) rfl rfl rfl run (by
    intro other member
    obtain rfl : other = data := by simpa [interruptedCalls] using member
    exact ⟨_, false, text⟩)
  have once : renamedTo (statePath (lit "dir")) (interruptedCalls (statePath (lit "dir")) data) =
      [data] := by simp [renamedTo, interruptedCalls, FileCall.renamed, List.filterMap_cons]
  rw [once] at told
  obtain ⟨st, rest, own, others, rfl⟩ := List.forall₂_cons_left_iff.mp told
  cases others
  exact ⟨st, own, report ⟨[], [], [], []⟩ (fun _ => clearAead) 0 0 true ⟨List.replicate 32 1, by simp⟩⟩

end ShadowNet.Inside
