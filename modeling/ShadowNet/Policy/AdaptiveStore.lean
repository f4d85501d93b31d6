import ShadowNet.Bundle.Verify
import ShadowNet.Policy.Adaptive
import ShadowNet.Profile.Store

/-! # The adaptive store

`AdaptiveStore` keeps an adaptive state in a sealed JSON file. A state with UTF-8 strings comes back
as it was saved, up to the defaults. Other strings come back as JSON writes them, and entries of the
cooldown map whose keys it writes alike become one.
-/

namespace ShadowNet

open Go Go.Json

structure AdaptiveStateDisk where
  enabled : Bool := false
  maxEvents : Int64 := 0
  events : Option (List NetworkEvent) := none
  cooldown : Map GoString Int64 := ∅
  selectionHistory : Option (List GoString) := none
deriving DecidableEq

def NetworkEvent.fields : List (StructField NetworkEvent) :=
  [.of (lit "timestamp") (·.timestamp) (fun value e => { e with timestamp := value }) .int,
    .of (lit "profile_id") (·.profileID) (fun value e => { e with profileID := value }) .string,
    .of (lit "success") (·.success) (fun value e => { e with success := value }) .bool,
    .of (lit "latency") (·.latency) (fun value e => { e with latency := value }) .int,
    .of (lit "failure") (·.failure) (fun value e => { e with failure := value }) .string]

def NetworkEvent.codec : Codec NetworkEvent := .struct NetworkEvent.fields

def AdaptiveStateDisk.fields : List (StructField AdaptiveStateDisk) :=
  [.of (lit "enabled") (·.enabled) (fun value d => { d with enabled := value }) .bool,
    .of (lit "max_events") (·.maxEvents) (fun value d => { d with maxEvents := value }) .int,
    .of (lit "events") (·.events) (fun value d => { d with events := value })
      (.slice NetworkEvent.codec {}),
    .of (lit "cooldown") (·.cooldown) (fun value d => { d with cooldown := value }) (.map .int 0),
    .of (lit "selection_history") (·.selectionHistory)
      (fun value d => { d with selectionHistory := value }) (.slice .string [])]

def AdaptiveStateDisk.codec : Codec AdaptiveStateDisk := .struct AdaptiveStateDisk.fields

def AdaptiveState.snapshotDisk (s : AdaptiveState) : AdaptiveStateDisk where
  enabled := s.enabled
  maxEvents := s.ensureDefaults.maxEvents
  events := appended s.events
  cooldown := s.cooldown
  selectionHistory := appended s.selectionHistory

/-- `ReplaceDisk`, which leaves nothing of the state before. -/
def replaceDisk (snapshot : AdaptiveStateDisk) : AdaptiveState :=
  AdaptiveState.ensureDefaults
    { enabled := snapshot.enabled
      maxEvents := snapshot.maxEvents
      events := snapshot.events.getD []
      cooldown := snapshot.cooldown
      selectionHistory := snapshot.selectionHistory.getD [] }

/-- The file that `AdaptiveStore.Save` writes. -/
def AdaptiveStore.save (aead : Aead) (nonce : Nonce) (s : AdaptiveState) : Bytes :=
  sealFile aead AdaptiveStateDisk.codec nonce s.snapshotDisk

/-- `AdaptiveStore.Load` on the file at the path of the store. -/
def AdaptiveStore.load (aead : Aead) : Option Bytes → Except Message AdaptiveState
  | none => .ok (newAdaptiveState defaultAdaptiveWindowSize)
  | some file =>
      if file.length < 12 then .error ⟨"malformed adaptive store ciphertext", []⟩
      else
        match aead.gcmOpen (file.take 12) (file.drop 12) with
        | none => .error ⟨"adaptive store decrypt failed: %w", [.foreign]⟩
        | some plaintext =>
            match unmarshal AdaptiveStateDisk.codec {} plaintext with
            | none => .error ⟨"%w", [.foreign]⟩
            | some snapshot => .ok (replaceDisk snapshot)

/-! ## Restarts -/

/-- An event as it is read back. -/
def NetworkEvent.reloaded (e : NetworkEvent) : NetworkEvent :=
  { e with profileID := toValid e.profileID, failure := toValid e.failure }

/-- A state as it is read back. -/
def AdaptiveState.reloaded (s : AdaptiveState) : AdaptiveState :=
  { s.ensureDefaults with
    events := s.events.map NetworkEvent.reloaded
    cooldown := (∅ : Map GoString Int64).insertAll
      (s.cooldown.entries.map fun entry => (toValid entry.1, entry.2))
    selectionHistory := s.selectionHistory.map toValid }

theorem NetworkEvent.codec_reads (old e : NetworkEvent) :
    NetworkEvent.codec.Reads old e e.reloaded :=
  reads_struct (by decide)
    (readsFields_of (by decide) (reads_int _ _) <|
      readsFields_of (by decide) (reads_string _ _) <|
      readsFields_of (by decide) (reads_bool _ _) <|
      readsFields_of (by decide) (reads_int _ _) <|
      readsFields_of (by decide) (reads_string _ _) rfl)

theorem AdaptiveStateDisk.codec_reads (d : AdaptiveStateDisk) :
    AdaptiveStateDisk.codec.Reads {} d
      { d with
        events := d.events.map (List.map NetworkEvent.reloaded)
        cooldown := (∅ : Map GoString Int64).insertAll
          (d.cooldown.entries.map fun entry => (toValid entry.1, entry.2))
        selectionHistory := d.selectionHistory.map (List.map toValid) } :=
  reads_struct (by decide)
    (readsFields_of (by decide) (reads_bool _ _) <|
      readsFields_of (by decide) (reads_int _ _) <|
      readsFields_of (by decide)
        (reads_slice _ _ fun event _ => NetworkEvent.codec_reads {} event) <|
      readsFields_of (by decide)
        (reads_map (f := fun value => value) _ _ fun _ _ => reads_int _ _) <|
      readsFields_of (by decide) (reads_slice _ _ fun text _ => reads_string _ _) rfl)

theorem NetworkEvent.codec_numeric (e : NetworkEvent) : (NetworkEvent.codec.encode e).Numeric :=
  numeric_struct ⟨(wire_int e.timestamp).numeric, trivial, trivial, (wire_int e.latency).numeric,
    trivial⟩

theorem NetworkEvent.codec_depth (e : NetworkEvent) : (NetworkEvent.codec.encode e).depth ≤ 1 :=
  depth_struct ⟨le_rfl, le_rfl, le_rfl, le_rfl, le_rfl⟩

theorem AdaptiveStateDisk.codec_numeric (d : AdaptiveStateDisk) :
    (AdaptiveStateDisk.codec.encode d).Numeric :=
  numeric_struct ⟨trivial, (wire_int d.maxEvents).numeric,
    numeric_slice {} fun event _ => event.codec_numeric,
    numeric_map 0 fun entry _ => (wire_int entry.2).numeric,
    numeric_slice [] fun _ _ => trivial⟩

theorem AdaptiveStateDisk.codec_depth (d : AdaptiveStateDisk) :
    (AdaptiveStateDisk.codec.encode d).depth ≤ maxNestingDepth := by
  have flat (d : AdaptiveStateDisk) : (AdaptiveStateDisk.codec.encode d).depth ≤ 2 + 1 := by
    refine depth_struct ⟨Nat.zero_le _, Nat.zero_le _, ?_, ?_, ?_⟩
    · exact depth_slice {} fun event _ => event.codec_depth
    · exact depth_map 0 fun entry _ => Nat.zero_le 1
    · exact depth_slice [] fun _ _ => Nat.zero_le 1
  exact (flat d).trans (by decide)

theorem getD_appended {α β : Type} (f : α → β) (items : List α) :
    ((appended items).map (List.map f)).getD [] = items.map f := by
  cases items <;> rfl

/-- The window of a state is one that is left alone. -/
def AdaptiveState.Sized (s : AdaptiveState) : Prop := 50 ≤ s.maxEvents ∧ s.maxEvents ≤ 100

/-- The repair gives a window of a size that is left alone. -/
theorem AdaptiveState.ensureDefaults_sized (s : AdaptiveState) : s.ensureDefaults.Sized := by
  unfold AdaptiveState.Sized AdaptiveState.ensureDefaults
  split_ifs with outside
  · dsimp only
    decide
  · rw [not_or] at outside
    exact ⟨Int64.not_lt.mp outside.1, Int64.not_lt.mp outside.2⟩

theorem ensureDefaults_of_sized {s : AdaptiveState} (sized : s.Sized) : s.ensureDefaults = s := by
  have inside : ¬ (s.maxEvents < 50 ∨ s.maxEvents > 100) := by
    rintro (low | high)
    · exact absurd sized.1 (Int64.not_le.mpr low)
    · exact absurd sized.2 (Int64.not_le.mpr high)
  rw [AdaptiveState.ensureDefaults, if_neg inside]

theorem AdaptiveStore.load_eq_unsealFile (aead : Aead) (file : Bytes) :
    AdaptiveStore.load aead (some file) =
      aead.unsealFile ⟨"malformed adaptive store ciphertext", []⟩
        ⟨"adaptive store decrypt failed: %w", [.foreign]⟩
        (fun plaintext => match unmarshal AdaptiveStateDisk.codec {} plaintext with
          | none => .error ⟨"%w", [.foreign]⟩
          | some snapshot => .ok (replaceDisk snapshot)) file := rfl

/-- What has been saved is loaded back. -/
theorem AdaptiveStore.load_save (aead : Aead) (nonce : Nonce) (s : AdaptiveState) :
    AdaptiveStore.load aead (some (AdaptiveStore.save aead nonce s)) = .ok s.reloaded := by
  have read := unmarshal_reads (AdaptiveStateDisk.codec_reads s.snapshotDisk)
    (AdaptiveStateDisk.codec_numeric _) (AdaptiveStateDisk.codec_depth _)
  have sized : s.reloaded.Sized := s.ensureDefaults_sized
  rw [load_eq_unsealFile, save, sealFile, Aead.unsealFile_sealed]
  simp only [read]
  refine congrArg Except.ok (Eq.trans ?_ (ensureDefaults_of_sized sized))
  simp only [replaceDisk, AdaptiveState.snapshotDisk, getD_appended]
  rfl

/-- No part of a saved file loads. -/
theorem AdaptiveStore.load_cut {aead : Aead} {nonce : Nonce} {s : AdaptiveState}
    (refuses : aead.RefusesCut nonce (marshal AdaptiveStateDisk.codec s.snapshotDisk)) {n : ℕ}
    (cut : n < (AdaptiveStore.save aead nonce s).length) :
    ∃ error, AdaptiveStore.load aead (some ((AdaptiveStore.save aead nonce s).take n)) =
      .error error := by
  rw [load_eq_unsealFile]
  exact Aead.unsealFile_cut refuses cut

end ShadowNet
