import ShadowNet.Go.Run
import ShadowNet.Policy.AdaptiveStore

/-! # What an adaptive state remembers

The operations on an adaptive state after it has been loaded. Recording an attempt or a selection
cuts the list that it appends to; loading and `ReplaceDisk` take their lists as they come, so that
the bounds are those of the stored lists until the next recording.
-/

namespace ShadowNet

open Go Go.Json

inductive MemoryOp where
  | recordAttempt (profileID : GoString) (signal : AttemptSignal) (failure : GoString) (now : Int64)
  | recordSelection (profileID : GoString)
  | setEnabled (enabled : Bool)
  | reset
  | selectProfile (profiles : List Profile) (nowUnix : Int64)
  | snapshotDisk
  | replaceDisk (snapshot : AdaptiveStateDisk)

/-- A state with what has been told to it. -/
structure AdaptiveMemory where
  state : AdaptiveState
  /-- The events present at the last load, `ReplaceDisk` or `Reset`. -/
  base : List NetworkEvent
  /-- The attempts recorded since. -/
  recorded : List NetworkEvent

/-- What an attempt is remembered as. -/
def attemptEvent (profileID : GoString) (signal : AttemptSignal) (failure : GoString)
    (now : Int64) : NetworkEvent where
  timestamp := now
  profileID
  success := signal.connectOK
  latency := signal.latencyMS
  failure := normalizeFailure signal failure

def AdaptiveMemory.start (state : AdaptiveState) : AdaptiveMemory := ⟨state, state.events, []⟩

/-- `SelectProfile` and `SnapshotDisk` change nothing but the defaults. -/
def AdaptiveMemory.apply (m : AdaptiveMemory) : MemoryOp → AdaptiveMemory
  | .recordAttempt profileID signal failure now =>
      { m with
        state := m.state.recordAttempt profileID signal failure now
        recorded :=
          if m.state.enabled = false ∨ isBlank profileID then m.recorded
          else m.recorded ++ [attemptEvent profileID signal failure now] }
  | .recordSelection profileID => { m with state := m.state.recordSelection profileID }
  | .setEnabled enabled => { m with state := m.state.setEnabled enabled }
  | .reset => .start m.state.reset
  | .selectProfile _ _ => { m with state := m.state.ensureDefaults }
  | .snapshotDisk => { m with state := m.state.ensureDefaults }
  | .replaceDisk snapshot => .start (replaceDisk snapshot)

inductive AdaptiveMemoryStep : AdaptiveMemory → MemoryOp → AdaptiveMemory → Prop
  | apply {m : AdaptiveMemory} (op : MemoryOp) : AdaptiveMemoryStep m op (m.apply op)

/-- The memory is within its bounds, and it is what has been told to the state last. -/
structure AdaptiveMemory.Bounded (m : AdaptiveMemory) : Prop where
  window : 50 ≤ m.state.maxEvents ∧ m.state.maxEvents ≤ 100
  events : m.state.events.length ≤ m.state.maxEvents.toInt
  selections : m.state.selectionHistory.length ≤ 32
  suffix : m.state.events <:+ m.base ++ m.recorded
  drops : m.state.events ≠ m.base ++ m.recorded →
    m.state.events.length = m.state.maxEvents.toInt

/-- The window of a state that a snapshot is loaded into. -/
def AdaptiveStateDisk.window (d : AdaptiveStateDisk) : Int64 :=
  if d.maxEvents < 50 ∨ d.maxEvents > 100 then defaultAdaptiveWindowSize else d.maxEvents

/-- The lists of a snapshot are within the bounds. -/
structure AdaptiveStateDisk.Fits (d : AdaptiveStateDisk) : Prop where
  events : (d.events.getD []).length ≤ d.window.toInt
  selections : (d.selectionHistory.getD []).length ≤ 32

/-- What the file of an adaptive store decodes to. -/
def AdaptiveStore.stored (aead : Aead) (file : Option Bytes) : Option AdaptiveStateDisk := do
  let file ← file
  if file.length < 12 then none
  else
    let plaintext ← aead.gcmOpen (file.take 12) (file.drop 12)
    unmarshal AdaptiveStateDisk.codec {} plaintext

/-- A load gives what is stored, or the default where there is no file. -/
theorem AdaptiveStore.load_stored {aead : Aead} {file : Option Bytes} {s : AdaptiveState}
    (loaded : AdaptiveStore.load aead file = .ok s) :
    (AdaptiveStore.stored aead file = none ∧ s = newAdaptiveState defaultAdaptiveWindowSize) ∨
      ∃ snapshot, AdaptiveStore.stored aead file = some snapshot ∧ s = replaceDisk snapshot := by
  cases file with
  | none => exact .inl ⟨rfl, (Except.ok.inj loaded).symm⟩
  | some file =>
    right
    rw [AdaptiveStore.load] at loaded
    simp only [stored, bind, Option.bind_some]
    split_ifs at loaded ⊢ with short
    split at loaded
    · cases loaded
    · next plaintext opened =>
      split at loaded
      · cases loaded
      · next snapshot decoded =>
        refine ⟨snapshot, ?_, (Except.ok.inj loaded).symm⟩
        rw [opened]
        exact decoded

/-! ## Windows -/

/-- To cut before an item is added changes nothing. -/
theorem lastOf_lastOf_append {α : Type} (count : ℕ) (items : List α) (item : α) :
    lastOf count (lastOf count items ++ [item]) = lastOf count (items ++ [item]) := by
  by_cases none : count = 0
  · simp [lastOf, none]
  · rw [lastOf, lastOf, lastOf, ← List.drop_append_of_le_length (by omega), List.drop_drop]
    congr 1
    simp only [List.length_drop, List.length_append, List.length_singleton]
    omega

theorem lastOf_of_le {α : Type} {count : ℕ} {items : List α} (few : items.length ≤ count) :
    lastOf count items = items := by
  rw [lastOf, Nat.sub_eq_zero_of_le few, List.drop_zero]

theorem length_lastOf {α : Type} (count : ℕ) (items : List α) :
    (lastOf count items).length = min count items.length := by
  rw [lastOf, List.length_drop]
  omega

/-- The events are the last ones told, as many as the window has room for. -/
structure AdaptiveMemory.Remembers (m : AdaptiveMemory) : Prop where
  sized : m.state.Sized
  events : m.state.events = lastOf m.state.maxEvents.toInt.toNat (m.base ++ m.recorded)
  selections : m.state.selectionHistory.length ≤ 32

theorem AdaptiveState.Sized.room {s : AdaptiveState} (sized : s.Sized) :
    50 ≤ s.maxEvents.toInt ∧ s.maxEvents.toInt ≤ 100 :=
  ⟨Int64.le_iff_toInt_le.mp sized.1, Int64.le_iff_toInt_le.mp sized.2⟩

/-- A memory that keeps to its window is bounded. -/
theorem AdaptiveMemory.Remembers.bounded {m : AdaptiveMemory} (remembers : m.Remembers) :
    m.Bounded := by
  have room := remembers.sized.room
  have length : m.state.events.length =
      min m.state.maxEvents.toInt.toNat (m.base ++ m.recorded).length := by
    rw [remembers.events, length_lastOf]
  refine ⟨remembers.sized, by omega, remembers.selections, ?_, fun dropped => ?_⟩
  · rw [remembers.events]
    exact List.drop_suffix ..
  · have many : ¬ (m.base ++ m.recorded).length ≤ m.state.maxEvents.toInt.toNat := by
      intro few
      exact dropped (remembers.events.trans (lastOf_of_le few))
    omega

/-- A state that has just taken up a snapshot is within the bounds exactly if the snapshot is. -/
theorem start_bounded_iff (d : AdaptiveStateDisk) :
    (AdaptiveMemory.start (replaceDisk d)).Bounded ↔ d.Fits := by
  constructor
  · intro bounded
    exact ⟨bounded.events, bounded.selections⟩
  · intro fits
    refine ⟨AdaptiveState.ensureDefaults_sized _, fits.events, fits.selections, ?_, fun dropped => ?_⟩
    · rw [AdaptiveMemory.start, List.append_nil]
    · exact absurd (List.append_nil _).symm dropped

/-- So it is in the beginning where the snapshot fits. -/
theorem start_remembers {d : AdaptiveStateDisk} (fits : d.Fits) :
    (AdaptiveMemory.start (replaceDisk d)).Remembers := by
  refine ⟨AdaptiveState.ensureDefaults_sized _, ?_, fits.selections⟩
  rw [AdaptiveMemory.start, List.append_nil]
  refine (lastOf_of_le ?_).symm
  have few := fits.events
  change (d.events.getD []).length ≤ d.window.toInt.toNat
  omega

/-- A snapshot that an operation takes up is within the bounds. -/
def MemoryOp.Fits (op : MemoryOp) : Prop := ∀ d, op = .replaceDisk d → d.Fits

/-- An operation that fits keeps to the window. -/
theorem remembers_apply {m : AdaptiveMemory} (remembers : m.Remembers) {op : MemoryOp}
    (fits : op.Fits) : (m.apply op).Remembers := by
  have defaults : m.state.ensureDefaults = m.state := ensureDefaults_of_sized remembers.sized
  cases op with
  | recordAttempt profileID signal failure now =>
    simp only [AdaptiveMemory.apply, AdaptiveState.recordAttempt, defaults]
    by_cases ignored : m.state.enabled = false ∨ isBlank profileID = true
    · rw [if_pos ignored, if_pos ignored]
      exact remembers
    · rw [if_neg ignored, if_neg ignored]
      refine ⟨remembers.sized, ?_, remembers.selections⟩
      change lastOf _ (m.state.events ++ [attemptEvent profileID signal failure now]) = _
      rw [remembers.events, lastOf_lastOf_append, ← List.append_assoc]
  | recordSelection profileID =>
    simp only [AdaptiveMemory.apply, AdaptiveState.recordSelection]
    split_ifs with blank
    · exact remembers
    · refine ⟨remembers.sized, remembers.events, ?_⟩
      dsimp only
      rw [length_lastOf]
      omega
  | setEnabled enabled => exact ⟨remembers.sized, remembers.events, remembers.selections⟩
  | reset =>
    refine ⟨m.state.ensureDefaults_sized, ?_, Nat.zero_le _⟩
    exact (lastOf_of_le (Nat.zero_le _)).symm
  | selectProfile profiles nowUnix =>
    rw [AdaptiveMemory.apply, defaults]
    exact remembers
  | snapshotDisk =>
    rw [AdaptiveMemory.apply, defaults]
    exact remembers
  | replaceDisk snapshot => exact start_remembers (fits snapshot rfl)

/-- An operation keeps the bounds exactly where the file or snapshot that it takes up fits them. -/
theorem bounded_apply_iff {m : AdaptiveMemory} (remembers : m.Remembers) (op : MemoryOp) :
    (m.apply op).Bounded ↔ op.Fits := by
  constructor
  · rintro bounded d rfl
    exact (start_bounded_iff d).mp bounded
  · intro fits
    exact (remembers_apply remembers fits).bounded

/-- Whether operations fit does not depend on the state. -/
theorem always_fits_iff (m : AdaptiveMemory) (ops : List MemoryOp) :
    Always AdaptiveMemoryStep (fun _ op _ => op.Fits) m ops ↔ ∀ op ∈ ops, op.Fits := by
  induction ops generalizing m with
  | nil => simp [Always]
  | cons op rest ih =>
    rw [List.forall_mem_cons]
    constructor
    · intro always
      obtain ⟨own, later⟩ := always _ (.apply op)
      exact ⟨own, (ih _).mp later⟩
    · rintro ⟨own, later⟩ next step
      exact ⟨own, (ih next).mpr later⟩

/-- In a run that begins with a load, the memory is within its bounds throughout and what has been
told last, exactly if the stored lists and those of all snapshots taken up are within the bounds. -/
theorem adaptiveMemory_bounded_iff {aead : Aead} {file : Option Bytes} {s : AdaptiveState}
    (loaded : AdaptiveStore.load aead file = .ok s) (ops : List MemoryOp) :
    ((AdaptiveMemory.start s).Bounded ∧
        Always AdaptiveMemoryStep (fun _ _ next => next.Bounded) (.start s) ops) ↔
      (∀ snapshot, AdaptiveStore.stored aead file = some snapshot → snapshot.Fits) ∧
        ∀ snapshot, .replaceDisk snapshot ∈ ops → snapshot.Fits := by
  have run (remembers : (AdaptiveMemory.start s).Remembers) :
      Always AdaptiveMemoryStep (fun _ _ next => next.Bounded) (.start s) ops ↔
        ∀ snapshot, .replaceDisk snapshot ∈ ops → snapshot.Fits := by
    have same : Always AdaptiveMemoryStep (fun _ _ next => next.Bounded) (.start s) ops ↔
        Always AdaptiveMemoryStep (fun _ op _ => op.Fits) (.start s) ops := by
      refine always_iff (motive := AdaptiveMemory.Remembers) ?_ ?_ remembers
      · rintro m _ op - remembers ⟨⟩
        exact bounded_apply_iff remembers op
      · rintro m _ op - remembers ⟨⟩ fits
        exact remembers_apply remembers fits
    rw [same, always_fits_iff]
    constructor
    · exact fun all snapshot member => all _ member snapshot rfl
    · rintro all op member snapshot rfl
      exact all snapshot member
  rcases AdaptiveStore.load_stored loaded with ⟨absent, rfl⟩ | ⟨snapshot, stored, rfl⟩
  · have remembers : (AdaptiveMemory.start (newAdaptiveState defaultAdaptiveWindowSize)).Remembers :=
      ⟨by unfold AdaptiveState.Sized; decide, rfl, Nat.zero_le _⟩
    rw [absent, run remembers]
    simp [remembers.bounded]
  · rw [stored, start_bounded_iff]
    simp only [Option.some.injEq, forall_eq']
    exact and_congr_right fun fits => run (start_remembers fits)

/-- A state that has been used once. -/
def usedState : AdaptiveState :=
  { newAdaptiveState 80 with
    events := [{ timestamp := 900, profileID := lit "p1", success := true }]
    selectionHistory := [lit "p1"] }

/-- A snapshot with a smaller window. -/
def windowSnapshot : AdaptiveStateDisk :=
  { enabled := true
    maxEvents := 60
    events := some [{ timestamp := 950, profileID := lit "p2" }]
    selectionHistory := some [lit "p2"] }

/-- A stored state is loaded, and a snapshot takes its place. -/
theorem usedState_bounded : ∃ file s, AdaptiveStore.load clearAead (some file) = .ok s ∧
    s.events.length = 1 ∧ (AdaptiveMemory.start s).Bounded ∧
    Always AdaptiveMemoryStep (fun _ _ next => next.Bounded) (.start s)
      [.recordAttempt (lit "p1") {} [] 1000, .replaceDisk windowSnapshot,
        .recordAttempt (lit "p2") {} [] 1010, .recordSelection (lit "p2")] := by
  have loaded := AdaptiveStore.load_save clearAead zeroNonce usedState
  have bounded : (AdaptiveMemory.start usedState.reloaded).Bounded :=
    AdaptiveMemory.Remembers.bounded ⟨usedState.ensureDefaults_sized, by decide, by decide⟩
  refine ⟨_, _, loaded, by decide,
    (adaptiveMemory_bounded_iff loaded _).mpr ⟨fun snapshot stored => ?_, fun snapshot member => ?_⟩⟩
  · obtain ⟨absent, -⟩ | ⟨same, found, state⟩ := AdaptiveStore.load_stored loaded
    · rw [absent] at stored
      cases stored
    · rw [found] at stored
      cases stored
      exact (start_bounded_iff snapshot).mp (state ▸ bounded)
  · obtain rfl : snapshot = windowSnapshot := by simpa using member
    exact ⟨by decide, by decide⟩

/-- A state that has one event more than its window. -/
def overfull : AdaptiveState := { newAdaptiveState 80 with events := List.replicate 81 {} }

/-- A stored state with 81 events is loaded with all of them into a window of 80. -/
theorem overfull_unbounded : ∃ file s, AdaptiveStore.load clearAead (some file) = .ok s ∧
    ¬ (AdaptiveMemory.start s).Bounded := by
  refine ⟨_, _, AdaptiveStore.load_save clearAead zeroNonce overfull, fun bounded => ?_⟩
  have many : overfull.reloaded.events.length = 81 := by
    rw [AdaptiveState.reloaded, List.length_map]
    exact List.length_replicate
  have few := bounded.events
  change (overfull.reloaded.events.length : ℤ) ≤ 80 at few
  omega

end ShadowNet
