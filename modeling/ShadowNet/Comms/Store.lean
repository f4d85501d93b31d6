import ShadowNet.Comms.Types
import ShadowNet.Profile.Store

/-! # The communication store

`Store` keeps a communication state in a sealed JSON file. `Save` prunes and validates the state
first, and `Load` validates what it has read. A state is read back with its strings as JSON writes
them and with empty `omitempty` collections nil; two contacts whose IDs are written alike then stand
in each other's way.
-/

namespace ShadowNet.Comms

open Go Go.Json

/-- The file that `Store.Save` writes at `now`, if it gets that far. -/
def Store.save (aead : Aead) (sorter : SliceSort) (nonce : Nonce) (now : Int64)
    (state : Option State) : Except Message Bytes := do
  let state ← orError state ⟨"comms: state is nil", []⟩
  let state := state.prune sorter now
  state.validate
  return sealFile aead State.codec nonce state

/-- `Store.Load` on the file at the path of the store; `now` is read where there is none. -/
def Store.load (aead : Aead) (defaultRole : DeviceRole) (now : Int64) :
    Option Bytes → Except Message State
  | none => .ok (newState defaultRole now)
  | some file =>
      if file.length < 12 then .error ⟨"comms: malformed ciphertext", []⟩
      else
        match aead.gcmOpen (file.take 12) (file.drop 12) with
        | none => .error ⟨"comms: decryption failed: %w", [.foreign]⟩
        | some plaintext =>
            match unmarshal State.codec {} plaintext with
            | none => .error ⟨"%w", [.foreign]⟩
            | some state => do
                state.validate
                return state

/-! ## States as they are read back -/

def InstalledApp.reloaded (a : InstalledApp) : InstalledApp :=
  { a with
    app := toValid a.app
    version := toValid a.version
    deepLinkHint := toValid a.deepLinkHint }

def ContactChannel.reloaded (c : ContactChannel) : ContactChannel :=
  { c with
    app := toValid c.app
    identifierHint := toValid c.identifierHint
    channelAlias := toValid c.channelAlias }

/-- A slice tagged `omitempty` as it is read back. -/
def omitted {α : Type} (items : Option (List α)) : Option (List α) :=
  if noItems items then none else items

def TrustedContact.reloaded (c : TrustedContact) : TrustedContact :=
  { c with
    id := toValid c.id
    contactAlias := toValid c.contactAlias
    trust := toValid c.trust
    channels := c.channels.map (List.map ContactChannel.reloaded)
    preferredOrder := omitted (c.preferredOrder.map (List.map toValid)) }

def BundleImportRecord.reloaded (r : BundleImportRecord) : BundleImportRecord :=
  { r with
    bundleID := toValid r.bundleID
    fromContact := toValid r.fromContact
    sourceApp := toValid r.sourceApp
    signatureKey := toValid r.signatureKey
    status := toValid r.status
    reason := toValid r.reason }

def State.reloaded (s : State) : State :=
  { s with
    role := toValid s.role
    installedApps := s.installedApps.map (List.map InstalledApp.reloaded)
    contacts := s.contacts.map (List.map TrustedContact.reloaded)
    channelPreference := (∅ : Map GoString (Option (List AppID))).insertAll
      (s.channelPreference.entries.map fun entry =>
        (toValid entry.1, entry.2.map (List.map toValid)))
    bundleHistory := omitted (s.bundleHistory.map (List.map BundleImportRecord.reloaded)) }

section

variable {σ α : Type} {name : GoString} {x old last : σ} {rest : List (StructField σ)}

/-- A number that is left out where it is zero. -/
theorem readsFields_zeroInt {get : σ → Int64} {set : Int64 → σ → σ} (named : Valid name)
    (unset : set 0 old = old) (others : ReadsFields x rest (set (get x) old) last) :
    ReadsFields x (.omitIf zeroInt name get set .int :: rest) old last := by
  refine readsFields_omitIf named (fun _ => reads_int _ _) (fun zero => ?_) others
  rw [of_decide_eq_true zero]
  exact unset

/-- A list that is left out where it has no items. -/
theorem readsFields_noItems {get : σ → Option (List α)} {set : Option (List α) → σ → σ}
    {element : Codec α} {zero : α} {f : α → α} (named : Valid name)
    (each : ∀ item ∈ (get x).getD [], element.Reads zero item (f item)) (unset : set none old = old)
    (others : ReadsFields x rest (set (omitted ((get x).map (List.map f))) old) last) :
    ReadsFields x (.omitIf noItems name get set (.slice element zero) :: rest) old last := by
  have same : noItems ((get x).map (List.map f)) = noItems (get x) := by
    cases get x with
    | none => rfl
    | some items => simp [noItems]
  refine readsFields_omitIf named (fun filled => ?_) (fun empty => ?_) others
  · rw [omitted, same, filled]
    exact reads_slice _ _ each
  · rw [omitted, same, empty]
    exact unset

end

theorem InstalledApp.codec_reads (a : InstalledApp) : InstalledApp.codec.Reads {} a a.reloaded :=
  reads_struct (by decide)
    (readsFields_of (by decide) (reads_string _ _) <|
      readsFields_of (by decide) (reads_bool _ _) <|
      readsFields_of (by decide) (reads_bool _ _) <|
      readsFields_omitEmpty (by decide) rfl <|
      readsFields_omitEmpty (by decide) rfl <|
      readsFields_zeroInt (by decide) rfl rfl)

theorem ContactChannel.codec_reads (c : ContactChannel) :
    ContactChannel.codec.Reads {} c c.reloaded :=
  reads_struct (by decide)
    (readsFields_of (by decide) (reads_string _ _) <|
      readsFields_omitEmpty (by decide) rfl <|
      readsFields_omitEmpty (by decide) rfl <|
      readsFields_zeroInt (by decide) rfl rfl)

theorem TrustedContact.codec_reads (c : TrustedContact) :
    TrustedContact.codec.Reads {} c c.reloaded :=
  reads_struct (by decide)
    (readsFields_of (by decide) (reads_string _ _) <|
      readsFields_of (by decide) (reads_string _ _) <|
      readsFields_of (by decide) (reads_string _ _) <|
      readsFields_of (by decide) (reads_slice _ _ fun channel _ => channel.codec_reads) <|
      readsFields_noItems (by decide) (fun _ _ => reads_string _ _) rfl <|
      readsFields_zeroInt (by decide) rfl rfl)

theorem BundleImportRecord.codec_reads (r : BundleImportRecord) :
    BundleImportRecord.codec.Reads {} r r.reloaded :=
  reads_struct (by decide)
    (readsFields_of (by decide) (reads_string _ _) <|
      readsFields_omitEmpty (by decide) rfl <|
      readsFields_of (by decide) (reads_string _ _) <|
      readsFields_omitEmpty (by decide) rfl <|
      readsFields_of (by decide) (reads_int _ _) <|
      readsFields_zeroInt (by decide) rfl <|
      readsFields_of (by decide) (reads_string _ _) <|
      readsFields_omitEmpty (by decide) rfl rfl)

theorem BlackoutReadiness.codec_reads (r : BlackoutReadiness) :
    BlackoutReadiness.codec.Reads {} r r :=
  reads_struct (by decide)
    (readsFields_zeroInt (by decide) rfl <|
      readsFields_zeroInt (by decide) rfl <|
      readsFields_of (by decide) (reads_bool _ _) <|
      readsFields_of (by decide) (reads_bool _ _) <|
      readsFields_of (by decide) (reads_bool _ _) rfl)

/-- What is read back of a state. -/
theorem State.codec_reads (s : State) : State.codec.Reads {} s s.reloaded := by
  refine reads_struct (by decide)
    (readsFields_of (by decide) (reads_int _ _) <|
      readsFields_of (by decide) (reads_int _ _) <|
      readsFields_of (by decide) (reads_string _ _) <|
      readsFields_of (by decide) (reads_slice _ _ fun app _ => app.codec_reads) <|
      readsFields_of (by decide) (reads_slice _ _ fun contact _ => contact.codec_reads) <|
      readsFields_omitIf (by decide) (fun _ => reads_map (f := Option.map (List.map toValid))
        _ _ fun _ _ => reads_slice _ _ fun _ _ => reads_string _ _) (fun empty => ?_) <|
      readsFields_noItems (by decide) (fun record _ => record.codec_reads) rfl <|
      readsFields_of (by decide) (s.readiness.codec_reads) rfl)
  rw [List.isEmpty_iff.mp empty]
  rfl

theorem TrustedContact.codec_numeric (c : TrustedContact) :
    (TrustedContact.codec.encode c).Numeric :=
  numeric_struct ⟨trivial, trivial, trivial, numeric_slice {} fun _ _ =>
      numeric_struct ⟨trivial, trivial, trivial, (wire_int _).numeric⟩,
    numeric_texts _, (wire_int _).numeric⟩

theorem State.codec_numeric (s : State) : (State.codec.encode s).Numeric := by
  have apps : ((Codec.slice InstalledApp.codec {}).encode s.installedApps).Numeric :=
    numeric_slice {} fun _ _ =>
      numeric_struct ⟨trivial, trivial, trivial, trivial, trivial, (wire_int _).numeric⟩
  have history : ((Codec.slice BundleImportRecord.codec {}).encode s.bundleHistory).Numeric :=
    numeric_slice {} fun _ _ => numeric_struct ⟨trivial, trivial, trivial, trivial,
      (wire_int _).numeric, (wire_int _).numeric, trivial, trivial⟩
  have readiness : (BlackoutReadiness.codec.encode s.readiness).Numeric :=
    numeric_struct ⟨(wire_int _).numeric, (wire_int _).numeric, trivial, trivial, trivial⟩
  exact numeric_struct ⟨(wire_int _).numeric, (wire_int _).numeric, trivial, apps,
    numeric_slice {} fun contact _ => contact.codec_numeric,
    numeric_map none fun _ _ => numeric_texts _, history, readiness⟩

private theorem depth_names (names : Option (List GoString)) :
    ((Codec.slice Codec.string []).encode names).depth ≤ 1 :=
  depth_slice [] fun _ _ => Nat.zero_le _

theorem ContactChannel.codec_depth (c : ContactChannel) :
    (ContactChannel.codec.encode c).depth ≤ 1 :=
  depth_struct ⟨Nat.zero_le _, Nat.zero_le _, Nat.zero_le _, Nat.zero_le _⟩

theorem TrustedContact.codec_depth (c : TrustedContact) :
    (TrustedContact.codec.encode c).depth ≤ 3 := by
  refine depth_struct ⟨Nat.zero_le _, Nat.zero_le _, Nat.zero_le _,
    depth_slice {} fun channel _ => channel.codec_depth, ?_, Nat.zero_le _⟩
  exact (depth_names _).trans (by decide)

theorem InstalledApp.codec_depth (a : InstalledApp) : (InstalledApp.codec.encode a).depth ≤ 3 :=
  depth_struct ⟨Nat.zero_le _, Nat.zero_le _, Nat.zero_le _, Nat.zero_le _, Nat.zero_le _,
    Nat.zero_le _⟩

theorem BundleImportRecord.codec_depth (r : BundleImportRecord) :
    (BundleImportRecord.codec.encode r).depth ≤ 3 :=
  depth_struct ⟨Nat.zero_le _, Nat.zero_le _, Nat.zero_le _, Nat.zero_le _, Nat.zero_le _,
    Nat.zero_le _, Nat.zero_le _, Nat.zero_le _⟩

theorem BlackoutReadiness.codec_depth (r : BlackoutReadiness) :
    (BlackoutReadiness.codec.encode r).depth ≤ 4 :=
  depth_struct ⟨Nat.zero_le _, Nat.zero_le _, Nat.zero_le _, Nat.zero_le _, Nat.zero_le _⟩

theorem State.codec_depth (s : State) : (State.codec.encode s).depth ≤ 5 := by
  have preference : ((Codec.map (Codec.slice Codec.string []) none).encode
      s.channelPreference).depth ≤ 2 := depth_map none fun entry _ => depth_names entry.2
  exact depth_struct ⟨Nat.zero_le _, Nat.zero_le _, Nat.zero_le _,
    depth_slice {} fun app _ => app.codec_depth,
    depth_slice {} fun contact _ => contact.codec_depth, preference.trans (by decide),
    depth_slice {} fun record _ => record.codec_depth, s.readiness.codec_depth⟩

/-! ## Loading what has been saved -/

/-- A save succeeds where the pruned state is valid. -/
theorem Store.save_eq_ok {aead : Aead} {sorter : SliceSort} {nonce : Nonce} {now : Int64}
    {state : Option State} {file : Bytes} :
    Store.save aead sorter nonce now state = .ok file ↔
      ∃ given, state = some given ∧ (given.prune sorter now).Ok ∧
        sealFile aead State.codec nonce (given.prune sorter now) = file := by
  simp only [Store.save, bind_eq_ok, orError_eq_ok, State.validate_eq_ok, exists_const, pure_eq_ok]

/-- JSON writes no two of the contacts' IDs alike. -/
def State.ToldApart (s : State) : Prop := ((s.contacts.getD []).map fun c => toValid c.id).Nodup

instance (s : State) : Decidable s.ToldApart := inferInstanceAs (Decidable (List.Nodup _))

/-- A state that has passed `Validate` is fit to be read back if its contacts are still told apart. -/
theorem State.Ok.reloaded_iff {s : State} (ok : s.Ok) : s.reloaded.Ok ↔ s.ToldApart := by
  have contacts : s.reloaded.contacts.getD [] =
      (s.contacts.getD []).map TrustedContact.reloaded := by
    unfold State.reloaded
    cases s.contacts <;> rfl
  have ids : (s.reloaded.contacts.getD []).map (·.id) =
      (s.contacts.getD []).map fun c => toValid c.id := by
    rw [contacts, List.map_map]
    rfl
  unfold State.ToldApart
  constructor
  · intro back
    exact ids ▸ back.distinct
  · intro distinct
    refine ⟨ok.schemaVersion, ?_, ?_, ?_, ?_, ids ▸ distinct, ?_⟩
    · have plain : toValid roleInside = roleInside ∧ toValid roleOutside = roleOutside := by
        decide
      rcases ok.role with role | role
      · exact .inl ((congrArg toValid role).trans plain.1)
      · exact .inr ((congrArg toValid role).trans plain.2)
    · refine le_of_eq_of_le ?_ ok.installedApps
      unfold State.reloaded
      cases s.installedApps <;> simp
    · rw [contacts, List.length_map]
      exact ok.few
    · intro c member
      rw [contacts] at member
      obtain ⟨own, inside, rfl⟩ := List.mem_map.mp member
      have holds := ok.contacts own inside
      have channels : own.reloaded.channels.getD [] =
          (own.channels.getD []).map ContactChannel.reloaded := by
        unfold TrustedContact.reloaded
        cases own.channels <;> rfl
      refine ⟨mt toValid_eq_nil.mp holds.id, mt toValid_eq_nil.mp holds.contactAlias, ?_, ?_, ?_⟩
      · rw [channels]
        exact mt List.map_eq_nil_iff.mp holds.channels
      · rw [channels, List.length_map]
        exact holds.few
      · intro channel member
        rw [channels] at member
        obtain ⟨raw, inside, rfl⟩ := List.mem_map.mp member
        exact mt toValid_eq_nil.mp (holds.apps raw inside)
    · refine le_trans ?_ ok.history
      unfold State.reloaded omitted
      dsimp only
      split_ifs
      · exact Nat.zero_le _
      · cases s.bundleHistory <;> simp

/-- A load opens the sealed file and fills in what is missing. -/
theorem Store.load_eq_unsealFile (aead : Aead) (defaultRole : DeviceRole) (now : Int64)
    (file : Bytes) :
    Store.load aead defaultRole now (some file) =
      aead.unsealFile ⟨"comms: malformed ciphertext", []⟩
        ⟨"comms: decryption failed: %w", [.foreign]⟩
        (fun plaintext => match unmarshal State.codec {} plaintext with
          | none => .error ⟨"%w", [.foreign]⟩
          | some state => do
              state.validate
              return state) file := rfl

/-- What has been saved is loaded back, if the contacts are still told apart. -/
theorem Store.load_save {aead : Aead} {sorter : SliceSort} {nonce : Nonce} {now later : Int64}
    {state : State} {file : Bytes} {defaultRole : DeviceRole}
    (saved : Store.save aead sorter nonce now (some state) = .ok file) {loaded : State} :
    Store.load aead defaultRole later (some file) = .ok loaded ↔
      (state.prune sorter now).ToldApart ∧ (state.prune sorter now).reloaded = loaded := by
  obtain ⟨_, ⟨⟩, ok, rfl⟩ := Store.save_eq_ok.mp saved
  have read := unmarshal_reads (state.prune sorter now).codec_reads
    (state.prune sorter now).codec_numeric
    ((state.prune sorter now).codec_depth.trans (by decide))
  rw [load_eq_unsealFile, sealFile, Aead.unsealFile_sealed]
  simp only [read, bind_eq_ok, pure_eq_ok, State.validate_eq_ok, ok.reloaded_iff, exists_const]

/-- No part of a saved file loads. -/
theorem Store.load_cut {aead : Aead} {sorter : SliceSort} {nonce : Nonce} {now later : Int64}
    {defaultRole : DeviceRole} {state : State} {file : Bytes}
    (saved : Store.save aead sorter nonce now (some state) = .ok file)
    (refuses : aead.RefusesCut nonce (marshal State.codec (state.prune sorter now))) {n : ℕ}
    (cut : n < file.length) :
    ∃ error, Store.load aead defaultRole later (some (file.take n)) = .error error := by
  obtain ⟨_, ⟨⟩, _, rfl⟩ := Store.save_eq_ok.mp saved
  rw [load_eq_unsealFile]
  exact Aead.unsealFile_cut refuses cut

/-! ## What persists -/

/-- An entry of the channel preference, up to nil and empty and up to how JSON writes strings. -/
def preferenceEntry (entry : GoString × Option (List AppID)) : GoString × List AppID :=
  (toValid entry.1, (entry.2.getD []).map toValid)

/-- Contacts that are equal up to nil and empty collections and up to how JSON writes strings. -/
structure TrustedContact.Alike (c d : TrustedContact) : Prop where
  id : toValid c.id = toValid d.id
  contactAlias : toValid c.contactAlias = toValid d.contactAlias
  trust : toValid c.trust = toValid d.trust
  channels : (c.channels.getD []).map ContactChannel.reloaded =
    (d.channels.getD []).map ContactChannel.reloaded
  preferredOrder : (c.preferredOrder.getD []).map toValid = (d.preferredOrder.getD []).map toValid
  lastVerifiedAt : c.lastVerifiedAt = d.lastVerifiedAt

/-- States that are equal up to nil and empty collections and up to how JSON writes strings. -/
structure State.Alike (s t : State) : Prop where
  schemaVersion : s.schemaVersion = t.schemaVersion
  updatedAt : s.updatedAt = t.updatedAt
  role : toValid s.role = toValid t.role
  installedApps : (s.installedApps.getD []).map InstalledApp.reloaded =
    (t.installedApps.getD []).map InstalledApp.reloaded
  contacts : List.Forall₂ TrustedContact.Alike (s.contacts.getD []) (t.contacts.getD [])
  channelPreference : (s.channelPreference.entries.map preferenceEntry).Perm
    (t.channelPreference.entries.map preferenceEntry)
  bundleHistory : (s.bundleHistory.getD []).map BundleImportRecord.reloaded =
    (t.bundleHistory.getD []).map BundleImportRecord.reloaded
  readiness : s.readiness = t.readiness

/-- JSON writes no two keys of the channel preference alike. -/
def State.PreferencesApart (s : State) : Prop :=
  (s.channelPreference.entries.map fun entry => toValid entry.1).Nodup

instance (s : State) : Decidable s.PreferencesApart := inferInstanceAs (Decidable (List.Nodup _))

theorem getD_omitted {α : Type} (items : Option (List α)) : (omitted items).getD [] = items.getD [] := by
  unfold omitted noItems
  split_ifs with empty
  · exact (List.isEmpty_iff.mp empty).symm
  · rfl

theorem getD_map {α β : Type} (f : α → β) (items : Option (List α)) :
    (items.map (List.map f)).getD [] = (items.getD []).map f := by
  cases items <;> rfl

theorem TrustedContact.reloaded_alike (c : TrustedContact) : c.reloaded.Alike c where
  id := toValid_toValid _
  contactAlias := toValid_toValid _
  trust := toValid_toValid _
  channels := by
    rw [reloaded, getD_map, List.map_map]
    apply List.map_congr_left
    intro channel _
    simp only [Function.comp, ContactChannel.reloaded, toValid_toValid]
  preferredOrder := by
    rw [reloaded, getD_omitted, getD_map, List.map_map]
    exact List.map_congr_left fun app _ => toValid_toValid app
  lastVerifiedAt := rfl

/-- The assignments that reading a map back makes keep its entries if they keep its keys apart. -/
theorem reloaded_preference_iff (s : State) :
    (s.reloaded.channelPreference.entries.map preferenceEntry).Perm
      (s.channelPreference.entries.map preferenceEntry) ↔ s.PreferencesApart := by
  have keys : (s.channelPreference.entries.map fun entry =>
      (toValid entry.1, entry.2.map (List.map toValid))).map Prod.fst =
      s.channelPreference.entries.map fun entry => toValid entry.1 := by
    rw [List.map_map]
    rfl
  have again : (s.channelPreference.entries.map fun entry =>
      (toValid entry.1, entry.2.map (List.map toValid))).map preferenceEntry =
      s.channelPreference.entries.map preferenceEntry := by
    rw [List.map_map]
    apply List.map_congr_left
    intro entry _
    simp only [Function.comp, preferenceEntry, getD_map, List.map_map, toValid_toValid]
    congr 1
    exact List.map_congr_left fun app _ => toValid_toValid app
  rw [State.PreferencesApart, ← keys]
  constructor
  · intro same
    have own : (s.reloaded.channelPreference.entries.map preferenceEntry).map Prod.fst =
        s.reloaded.channelPreference.entries.map Prod.fst := by
      rw [List.map_map]
      apply List.map_congr_left
      intro entry member
      rcases Map.mem_insertAll member with assigned | old
      · obtain ⟨raw, -, rfl⟩ := List.mem_map.mp assigned
        exact toValid_toValid raw.1
      · cases old
    have distinct := own ▸ Map.nodup_keys s.reloaded.channelPreference
    have distinct := (same.map Prod.fst).nodup_iff.mp distinct
    rw [List.map_map] at distinct
    rw [keys]
    exact distinct
  · intro distinct
    rw [← again]
    exact ((Map.insertAll_perm_iff _).mpr distinct).map preferenceEntry

/-- A state that is read back is like itself if no key of its channel preference is lost. -/
theorem State.reloaded_alike_iff (s : State) : s.reloaded.Alike s ↔ s.PreferencesApart := by
  rw [← reloaded_preference_iff]
  refine ⟨fun alike => alike.channelPreference, fun preference => ?_⟩
  refine ⟨rfl, rfl, toValid_toValid _, ?_, ?_, preference, ?_, rfl⟩
  · rw [reloaded, getD_map, List.map_map]
    apply List.map_congr_left
    intro app _
    simp only [Function.comp, InstalledApp.reloaded, toValid_toValid]
  · rw [reloaded, getD_map, List.forall₂_map_left_iff]
    exact List.forall₂_same.mpr fun contact _ => contact.reloaded_alike
  · rw [reloaded, getD_omitted, getD_map, List.map_map]
    apply List.map_congr_left
    intro record _
    simp only [Function.comp, BundleImportRecord.reloaded, toValid_toValid]

/-- A saved state is loaded back as it was exactly if JSON writes no two of its contacts' IDs and no
two keys of its channel preference alike. -/
theorem Store.persists_iff {aead : Aead} {sorter : SliceSort} {nonce : Nonce} {now later : Int64}
    {state : State} {file : Bytes} {defaultRole : DeviceRole}
    (saved : Store.save aead sorter nonce now (some state) = .ok file) :
    (∃ loaded, Store.load aead defaultRole later (some file) = .ok loaded ∧
        loaded.Alike (state.prune sorter now)) ↔
      state.ToldApart ∧ state.PreferencesApart := by
  simp only [Store.load_save saved, and_assoc, exists_and_left, exists_eq_left', State.reloaded_alike_iff]
  exact Iff.rfl

/-- A state with two contacts, named by their IDs. -/
def pairState (first second : GoString) : State :=
  { newState roleInside 900 with
    contacts := some ([first, second].map fun id =>
      { id, contactAlias := lit "friend", channels := some [{ app := lit "signal" }] })
    channelPreference := (∅ : Map _ _).insert (lit "normal") (some [lit "signal"]) }

/-- Two contacts with different IDs can be saved. -/
theorem pairState_saved {first second : GoString} (filled : first ≠ [] ∧ second ≠ [])
    (apart : first ≠ second) :
    ∃ file, Store.save clearAead .stable zeroNonce 1000 (some (pairState first second)) =
      .ok file := by
  refine ⟨_, Store.save_eq_ok.mpr ⟨_, rfl, ?_, rfl⟩⟩
  have contact (id : GoString) (named : id ≠ []) : TrustedContact.Ok
      { id, contactAlias := lit "friend", channels := some [{ app := lit "signal" }] } := by
    refine ⟨named, show lit "friend" ≠ [] by decide, List.cons_ne_nil _ _, show 1 ≤ 5 by decide, ?_⟩
    intro channel member
    obtain rfl := List.mem_singleton.mp member
    decide
  refine ⟨rfl, .inl rfl, Nat.zero_le _, show 2 ≤ 500 by decide, ?_, ?_, Nat.zero_le _⟩
  · exact List.forall_mem_cons.mpr ⟨contact first filled.1,
      List.forall_mem_singleton.mpr (contact second filled.2)⟩
  · exact List.nodup_cons.mpr ⟨mt List.mem_singleton.mp apart, List.nodup_singleton _⟩

/-- The two contacts come back. -/
theorem pairState_persists : ∃ file loaded,
    Store.save clearAead .stable zeroNonce 1000 (some (pairState (lit "c1") (lit "c2"))) = .ok file ∧
      Store.load clearAead roleInside 2000 (some file) = .ok loaded ∧
      loaded.Alike ((pairState (lit "c1") (lit "c2")).prune .stable 1000) := by
  obtain ⟨file, saved⟩ := @pairState_saved (lit "c1") (lit "c2") (by decide) (by decide)
  obtain ⟨loaded, read, alike⟩ := (Store.persists_iff saved).mpr ⟨by decide, by decide⟩
  exact ⟨file, loaded, saved, read, alike⟩

/-- Two IDs outside of UTF-8 that JSON writes alike: the saved state is refused from then on. -/
theorem pairState_lost : ∃ file,
    Store.save clearAead .stable zeroNonce 1000 (some (pairState [0xFE] [0xFF])) = .ok file ∧
      ∀ loaded, Store.load clearAead roleInside 2000 (some file) ≠ .ok loaded := by
  obtain ⟨file, saved⟩ := @pairState_saved [0xFE] [0xFF] (by decide) (by decide)
  refine ⟨file, saved, fun loaded read => ?_⟩
  exact absurd ((Store.load_save saved).mp read).1 (by decide)

end ShadowNet.Comms
