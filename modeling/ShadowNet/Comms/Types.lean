import ShadowNet.Bundle.Verify
import ShadowNet.Go.Result
import ShadowNet.Go.Sort

/-! # Communication state

The record types of `pkg/comms`, in the order of their struct fields, with their JSON codecs.
`Validate` is what a state must pass before it is written and after it is read; `Prune` drops import
records that are old or too many. Collections that are empty and tagged `omitempty` come back nil.
-/

namespace ShadowNet.Comms

open Go Go.Json

abbrev AppID := GoString

abbrev DeviceRole := GoString

abbrev TrustLevel := GoString

def roleInside : DeviceRole := lit "inside"

def roleOutside : DeviceRole := lit "outside"

def schemaV1 : Int64 := 1

def maxInstalledApps : ℕ := 10

def maxContacts : ℕ := 500

def maxChannelsPerContact : ℕ := 5

def maxBundleHistory : ℕ := 200

def bundleHistoryRetentionDays : Int64 := 90

structure InstalledApp where
  app : AppID := []
  installed : Bool := false
  enabled : Bool := false
  version : GoString := []
  deepLinkHint : GoString := []
  lastSeenAt : Int64 := 0
deriving DecidableEq, Inhabited

structure ContactChannel where
  app : AppID := []
  identifierHint : GoString := []
  channelAlias : GoString := []
  lastSuccessAt : Int64 := 0
deriving DecidableEq, Inhabited

structure TrustedContact where
  id : GoString := []
  /-- `Alias`. -/
  contactAlias : GoString := []
  trust : TrustLevel := []
  channels : Option (List ContactChannel) := none
  preferredOrder : Option (List AppID) := none
  lastVerifiedAt : Int64 := 0
deriving DecidableEq, Inhabited

structure BundleImportRecord where
  bundleID : GoString := []
  fromContact : GoString := []
  sourceApp : AppID := []
  signatureKey : GoString := []
  receivedAt : Int64 := 0
  sizeBytes : Int64 := 0
  status : GoString := []
  reason : GoString := []
deriving DecidableEq, Inhabited

structure BlackoutReadiness where
  lastChecklistAt : Int64 := 0
  lastBriarLocalTest : Int64 := 0
  hasPrimaryContact : Bool := false
  hasBackupContact : Bool := false
  hasOfflineContact : Bool := false
deriving DecidableEq, Inhabited

/-- What the store of the package holds. -/
structure State where
  schemaVersion : Int64 := 0
  updatedAt : Int64 := 0
  role : DeviceRole := []
  installedApps : Option (List InstalledApp) := none
  contacts : Option (List TrustedContact) := none
  channelPreference : Map GoString (Option (List AppID)) := ∅
  bundleHistory : Option (List BundleImportRecord) := none
  readiness : BlackoutReadiness := {}
deriving DecidableEq, Inhabited

/-- `NewState`. -/
def newState (role : DeviceRole) (now : Int64) : State where
  schemaVersion := schemaV1
  updatedAt := now
  role
  installedApps := some []
  contacts := some []
  bundleHistory := some []

/-! ## JSON forms -/

/-- A slice that `omitempty` leaves out. -/
def noItems {α : Type} (items : Option (List α)) : Bool := (items.getD []).isEmpty

def zeroInt (value : Int64) : Bool := value = 0

def InstalledApp.fields : List (StructField InstalledApp) :=
  [.of (lit "app") (·.app) (fun value a => { a with app := value }) .string,
    .of (lit "installed") (·.installed) (fun value a => { a with installed := value }) .bool,
    .of (lit "enabled") (·.enabled) (fun value a => { a with enabled := value }) .bool,
    .omitEmpty (lit "version") (·.version) (fun value a => { a with version := value }),
    .omitEmpty (lit "deeplink_hint") (·.deepLinkHint)
      (fun value a => { a with deepLinkHint := value }),
    .omitIf zeroInt (lit "last_seen_at") (·.lastSeenAt)
      (fun value a => { a with lastSeenAt := value }) .int]

def InstalledApp.codec : Codec InstalledApp := .struct InstalledApp.fields

def ContactChannel.fields : List (StructField ContactChannel) :=
  [.of (lit "app") (·.app) (fun value c => { c with app := value }) .string,
    .omitEmpty (lit "identifier_hint") (·.identifierHint)
      (fun value c => { c with identifierHint := value }),
    .omitEmpty (lit "channel_alias") (·.channelAlias)
      (fun value c => { c with channelAlias := value }),
    .omitIf zeroInt (lit "last_success_at") (·.lastSuccessAt)
      (fun value c => { c with lastSuccessAt := value }) .int]

def ContactChannel.codec : Codec ContactChannel := .struct ContactChannel.fields

def TrustedContact.fields : List (StructField TrustedContact) :=
  [.of (lit "id") (·.id) (fun value c => { c with id := value }) .string,
    .of (lit "alias") (·.contactAlias) (fun value c => { c with contactAlias := value }) .string,
    .of (lit "trust") (·.trust) (fun value c => { c with trust := value }) .string,
    .of (lit "channels") (·.channels) (fun value c => { c with channels := value })
      (.slice ContactChannel.codec {}),
    .omitIf noItems (lit "preferred_order") (·.preferredOrder)
      (fun value c => { c with preferredOrder := value }) (.slice .string []),
    .omitIf zeroInt (lit "last_verified_at") (·.lastVerifiedAt)
      (fun value c => { c with lastVerifiedAt := value }) .int]

def TrustedContact.codec : Codec TrustedContact := .struct TrustedContact.fields

def BundleImportRecord.fields : List (StructField BundleImportRecord) :=
  [.of (lit "bundle_id") (·.bundleID) (fun value r => { r with bundleID := value }) .string,
    .omitEmpty (lit "from_contact") (·.fromContact) (fun value r => { r with fromContact := value }),
    .of (lit "source_app") (·.sourceApp) (fun value r => { r with sourceApp := value }) .string,
    .omitEmpty (lit "signature_key") (·.signatureKey)
      (fun value r => { r with signatureKey := value }),
    .of (lit "received_at") (·.receivedAt) (fun value r => { r with receivedAt := value }) .int,
    .omitIf zeroInt (lit "size_bytes") (·.sizeBytes) (fun value r => { r with sizeBytes := value })
      .int,
    .of (lit "status") (·.status) (fun value r => { r with status := value }) .string,
    .omitEmpty (lit "reason") (·.reason) (fun value r => { r with reason := value })]

def BundleImportRecord.codec : Codec BundleImportRecord := .struct BundleImportRecord.fields

def BlackoutReadiness.fields : List (StructField BlackoutReadiness) :=
  [.omitIf zeroInt (lit "last_checklist_at") (·.lastChecklistAt)
      (fun value r => { r with lastChecklistAt := value }) .int,
    .omitIf zeroInt (lit "last_briar_local_test") (·.lastBriarLocalTest)
      (fun value r => { r with lastBriarLocalTest := value }) .int,
    .of (lit "has_primary_contact") (·.hasPrimaryContact)
      (fun value r => { r with hasPrimaryContact := value }) .bool,
    .of (lit "has_backup_contact") (·.hasBackupContact)
      (fun value r => { r with hasBackupContact := value }) .bool,
    .of (lit "has_offline_contact") (·.hasOfflineContact)
      (fun value r => { r with hasOfflineContact := value }) .bool]

def BlackoutReadiness.codec : Codec BlackoutReadiness := .struct BlackoutReadiness.fields

def State.fields : List (StructField State) :=
  [.of (lit "schema_version") (·.schemaVersion) (fun value s => { s with schemaVersion := value })
      .int,
    .of (lit "updated_at") (·.updatedAt) (fun value s => { s with updatedAt := value }) .int,
    .of (lit "role") (·.role) (fun value s => { s with role := value }) .string,
    .of (lit "installed_apps") (·.installedApps) (fun value s => { s with installedApps := value })
      (.slice InstalledApp.codec {}),
    .of (lit "contacts") (·.contacts) (fun value s => { s with contacts := value })
      (.slice TrustedContact.codec {}),
    .omitIf (fun m => m.entries.isEmpty) (lit "channel_preference") (·.channelPreference)
      (fun value s => { s with channelPreference := value }) (.map (.slice .string []) none),
    .omitIf noItems (lit "bundle_history") (·.bundleHistory)
      (fun value s => { s with bundleHistory := value }) (.slice BundleImportRecord.codec {}),
    .of (lit "blackout_readiness") (·.readiness) (fun value s => { s with readiness := value })
      BlackoutReadiness.codec]

def State.codec : Codec State := .struct State.fields

/-! ## Validation and pruning -/

/-- The loop of `Validate` over the contacts; `seen` has the IDs of those before. -/
def validateContacts : List TrustedContact → List GoString → Except Message Unit
  | [], _ => .ok ()
  | c :: rest, seen => do
      require (c.id ≠ []) ⟨"comms: contact id required", []⟩
      require (c.id ∉ seen) ⟨"comms: duplicate contact id: %q", [.str c.id]⟩
      require (c.contactAlias ≠ []) ⟨"comms: contact alias required for id: %q", [.str c.id]⟩
      require (c.channels.getD [] ≠ [])
        ⟨"comms: contact channels required for id: %q", [.str c.id]⟩
      require ((c.channels.getD []).length ≤ maxChannelsPerContact)
        ⟨"comms: too many channels for contact %q", [.str c.id]⟩
      forM (c.channels.getD []) fun channel =>
        require (channel.app ≠ []) ⟨"comms: channel app required for contact %q", [.str c.id]⟩
      validateContacts rest (c.id :: seen)

/-- `State.Validate`. -/
def State.validate (s : State) : Except Message Unit := do
  require (s.schemaVersion = schemaV1)
    ⟨"comms: unsupported schema_version: %d", [.int s.schemaVersion.toInt]⟩
  require (s.role = roleInside ∨ s.role = roleOutside) ⟨"comms: invalid role: %q", [.str s.role]⟩
  let installedApps := s.installedApps.getD []
  require (installedApps.length ≤ maxInstalledApps)
    ⟨"comms: too many installed apps: %d", [.int installedApps.length]⟩
  let contacts := s.contacts.getD []
  require (contacts.length ≤ maxContacts) ⟨"comms: too many contacts: %d", [.int contacts.length]⟩
  validateContacts contacts []
  let history := s.bundleHistory.getD []
  require (history.length ≤ maxBundleHistory * 2)
    ⟨"comms: bundle history unexpectedly large: %d", [.int history.length]⟩

/-- `State.Prune` at `now.Unix()`. -/
def State.prune (s : State) (sorter : SliceSort) (now : Int64) : State :=
  let cutoff := now - bundleHistoryRetentionDays * 24 * 3600
  let kept := (s.bundleHistory.getD []).filter fun r => r.receivedAt ≥ cutoff
  let kept := sorter.sort (fun first second => first.receivedAt > second.receivedAt) kept
  { s with
    updatedAt := now
    bundleHistory := some
      (if maxBundleHistory < kept.length then kept.take maxBundleHistory else kept) }

/-- A contact that raises no error by itself. -/
structure TrustedContact.Ok (c : TrustedContact) : Prop where
  id : c.id ≠ []
  contactAlias : c.contactAlias ≠ []
  channels : c.channels.getD [] ≠ []
  few : (c.channels.getD []).length ≤ maxChannelsPerContact
  apps : ∀ channel ∈ c.channels.getD [], channel.app ≠ []

/-- A state that passes `Validate`. -/
structure State.Ok (s : State) : Prop where
  schemaVersion : s.schemaVersion = schemaV1
  role : s.role = roleInside ∨ s.role = roleOutside
  installedApps : (s.installedApps.getD []).length ≤ maxInstalledApps
  few : (s.contacts.getD []).length ≤ maxContacts
  contacts : ∀ c ∈ s.contacts.getD [], c.Ok
  distinct : ((s.contacts.getD []).map (·.id)).Nodup
  history : (s.bundleHistory.getD []).length ≤ maxBundleHistory * 2

/-- Contacts that pass have IDs of their own. -/
theorem validateContacts_eq_ok {contacts : List TrustedContact} {seen : List GoString}
    {result : Unit} : validateContacts contacts seen = .ok result ↔
      (∀ c ∈ contacts, c.Ok) ∧ (∀ c ∈ contacts, c.id ∉ seen) ∧ (contacts.map (·.id)).Nodup := by
  induction contacts generalizing seen with
  | nil => simp [validateContacts]
  | cons c rest ih =>
    simp only [validateContacts, bind_eq_ok, require_eq_ok, exists_const, forM_eq_ok, ih,
      List.forall_mem_cons, List.map_cons, List.nodup_cons]
    constructor
    · rintro ⟨id, fresh, named, channels, few, apps, each, unseen, distinct⟩
      refine ⟨⟨⟨id, named, channels, few, apps⟩, each⟩, ⟨fresh, fun d member seen => ?_⟩, ?_, distinct⟩
      · exact unseen d member (List.mem_cons_of_mem _ seen)
      · intro member
        obtain ⟨d, inside, same⟩ := List.mem_map.mp member
        exact unseen d inside (same ▸ List.mem_cons_self ..)
    · rintro ⟨⟨own, each⟩, ⟨fresh, unseen⟩, new, distinct⟩
      refine ⟨own.id, fresh, own.contactAlias, own.channels, own.few, own.apps, each, ?_, distinct⟩
      intro d member held
      rcases List.mem_cons.mp held with same | before
      · exact new (List.mem_map.mpr ⟨d, member, same⟩)
      · exact unseen d member before

/-- A state that passes its check. -/
theorem State.validate_eq_ok {s : State} {result : Unit} : s.validate = .ok result ↔ s.Ok := by
  simp only [State.validate, bind_eq_ok, require_eq_ok, exists_const, validateContacts_eq_ok]
  constructor
  · rintro ⟨schema, role, apps, few, ⟨each, -, distinct⟩, history⟩
    exact ⟨schema, role, apps, few, each, distinct, history⟩
  · intro ok
    exact ⟨ok.schemaVersion, ok.role, ok.installedApps, ok.few,
      ⟨ok.contacts, by simp, ok.distinct⟩, ok.history⟩

/-! ## What pruning keeps -/

/-- The oldest `ReceivedAt` that `Prune` keeps. -/
def historyCutoff (now : Int64) : Int64 := now - bundleHistoryRetentionDays * 24 * 3600

/-- The newest records of a history that are not before the cutoff, as many as are kept. -/
structure Newest (cutoff : Int64) (history kept : List BundleImportRecord) : Prop where
  count : kept.length =
    min maxBundleHistory (history.countP fun r => decide (cutoff ≤ r.receivedAt))
  recent : ∀ r ∈ kept, cutoff ≤ r.receivedAt
  descending : kept.Pairwise fun first second => second.receivedAt ≤ first.receivedAt
  dropped : ∃ dropped, history.Perm (kept ++ dropped) ∧ ∀ r ∈ dropped, r.receivedAt < cutoff ∨
    kept.length = maxBundleHistory ∧ ∀ k ∈ kept, r.receivedAt ≤ k.receivedAt

def receivedKey (r : BundleImportRecord) : ℤ := r.receivedAt.toInt

/-- Pruning keeps the newest of the records that are not too old, as many as there is room for. -/
theorem State.prune_largest (s : State) (sorter : SliceSort) (now : Int64) :
    ∃ kept, s.prune sorter now = { s with updatedAt := now, bundleHistory := some kept } ∧
      Largest receivedKey maxBundleHistory
        ((s.bundleHistory.getD []).filter fun r => decide (historyCutoff now ≤ r.receivedAt))
        kept := by
  refine ⟨_, rfl, ?_⟩
  have cut (records : List BundleImportRecord) :
      (if maxBundleHistory < records.length then records.take maxBundleHistory else records) =
        records.take maxBundleHistory := by
    split
    · rfl
    · exact (List.take_of_length_le (by omega)).symm
  rw [cut]
  have order : (fun first second : BundleImportRecord =>
      decide (first.receivedAt > second.receivedAt)) =
        fun first second => decide (receivedKey second < receivedKey first) := by
    funext first second
    exact decide_eq_decide.mpr Int64.lt_iff_toInt_lt
  rw [order]
  exact sorter.largest_take receivedKey maxBundleHistory _

/-- What is left out for its age and what is left out for its number, together. -/
theorem Newest.of_largest {cutoff : Int64} {history kept : List BundleImportRecord}
    (largest : Largest receivedKey maxBundleHistory
      (history.filter fun r => decide (cutoff ≤ r.receivedAt)) kept) :
    Newest cutoff history kept := by
  obtain ⟨surplus, perm, above⟩ := largest.dropped
  refine ⟨?_, ?_, ?_, history.filter (fun r => !decide (cutoff ≤ r.receivedAt)) ++ surplus, ?_, ?_⟩
  · rw [largest.length_eq, List.countP_eq_length_filter]
  · intro r member
    have within := perm.symm.subset (List.mem_append_left surplus member)
    exact of_decide_eq_true (List.mem_filter.mp within).2
  · exact largest.descending.imp fun after => Int64.le_iff_toInt_le.mpr after
  · calc history.Perm (history.filter (fun r => decide (cutoff ≤ r.receivedAt)) ++
          history.filter fun r => !decide (cutoff ≤ r.receivedAt)) :=
          (List.filter_append_perm _ history).symm
      _ |>.Perm ((kept ++ surplus) ++ history.filter fun r => !decide (cutoff ≤ r.receivedAt)) :=
          perm.append_right _
      _ |>.Perm (kept ++ (history.filter (fun r => !decide (cutoff ≤ r.receivedAt)) ++ surplus)) := by
          rw [List.append_assoc]
          exact List.Perm.append_left kept List.perm_append_comm
  · intro r left
    rcases List.mem_append.mp left with old | cut
    · have before : ¬ cutoff ≤ r.receivedAt := by simpa using (List.mem_filter.mp old).2
      exact .inl (Int64.not_le.mp before)
    · obtain ⟨full, below⟩ := above r cut
      exact .inr ⟨full, fun k member => Int64.le_iff_toInt_le.mpr (below k member)⟩

/-- Pruning keeps the newest records, and pruning once more only reorders those of one second. -/
theorem State.prune_newest (s : State) (sorter next : SliceSort) (now : Int64) :
    ∃ kept again, s.prune sorter now = { s with updatedAt := now, bundleHistory := some kept } ∧
      Newest (historyCutoff now) (s.bundleHistory.getD []) kept ∧
      (s.prune sorter now).prune next now =
        { s with updatedAt := now, bundleHistory := some again } ∧
      EqualButTies receivedKey again kept := by
  obtain ⟨kept, pruned, largest⟩ := s.prune_largest sorter now
  obtain ⟨again, twice, once⟩ := (s.prune sorter now).prune_largest next now
  have newest := Newest.of_largest largest
  refine ⟨kept, again, pruned, newest, by rw [twice, pruned], ?_⟩
  rw [pruned, Option.getD_some, List.filter_eq_self.mpr] at once
  · exact .of_perm (once.perm largest.few) once.descending largest.descending
  · intro r member
    exact decide_eq_true (newest.recent r member)

end ShadowNet.Comms
