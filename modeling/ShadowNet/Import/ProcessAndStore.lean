import ShadowNet.Go.Run
import ShadowNet.Import.ParseBytes
import ShadowNet.Profile.Store

/-! # Storing imported profiles

`ProcessAndStore` keeps the stored profiles that the payload does not revoke and appends the
payload's own. An ID that is already stored is let through when its endpoint is the same, and is
then stored a second time; imports of fresh IDs keep the store free of duplicates.
-/

namespace ShadowNet

open Go Go.Json

/-- The files of an importer's stores; the template store may be missing. -/
structure Stores where
  profiles : Option Bytes
  templates : Option (Option Bytes)

/-- One call of `ProcessAndStore`, with the clock and the nonces it reads. -/
structure ImportCall where
  payload : BundlePayload
  now : Int64
  nonce : Nonce
  templateNonce : Nonce

/-- The stored profiles that are kept, with the two indexes over them. -/
structure Existing where
  updated : List Profile := []
  byID : Map GoString Profile := ∅
  byEndpoint : Map GoString GoString := ∅

def keepExisting (revoked : List GoString) (existing : Existing) (p : Profile) : Existing :=
  if p.id ∈ revoked then existing
  else
    { updated := existing.updated ++ [p]
      byID := existing.byID.insert p.id p
      byEndpoint := existing.byEndpoint.insert (endpointKey p) p.id }

def sameEndpoint (p q : Profile) : Prop :=
  p.family = q.family ∧ p.endpoint.host = q.endpoint.host ∧ p.endpoint.port = q.endpoint.port

instance (p q : Profile) : Decidable (sameEndpoint p q) := inferInstanceAs (Decidable (_ ∧ _ ∧ _))

/-- The defaults that an imported profile gets. -/
def importDefaults (now : Int64) (p : Profile) : Profile :=
  let h := p.health
  let h := if h.score.dropZeroSign = 0 ∧ h.successEWMA.dropZeroSign = 0 then
    { h with successEWMA := .half } else h
  let h := if h.lastFailAt = 0 ∧ h.lastOkAt = 0 then { h with lastOkAt := now } else h
  { p with
    enabled := true
    source := { p.source with
      source := if p.source.source = [] then lit "bundle" else p.source.source
      trustLevel := if p.source.trustLevel = 0 then 80 else p.source.trustLevel
      importedAt := orNow p.source.importedAt now }
    health := h }

/-- The loop over the payload's profiles. -/
structure Merge where
  updated : List Profile
  newByID : Map GoString Profile := ∅
  newByEndpoint : Map GoString GoString := ∅

def mergeProfile (existing : Existing) (now : Int64) (merge : Merge) (profile : Profile) :
    Except ImportFailure Merge :=
  match (normalizeForWire profile now).2 with
  | .error text =>
      .error (.message ⟨"profile invalid: id=%q: %w", [.str profile.id, .err text]⟩)
  | .ok p => do
      require (∀ prev ∈ existing.byID.find? p.id, sameEndpoint prev p)
        (.message ⟨"bundle invalid: conflicting profile id=%q", [.str p.id]⟩)
      require (∀ prev ∈ merge.newByID.find? p.id, sameEndpoint prev p)
        (.message ⟨"bundle invalid: conflicting duplicate profile id=%q", [.str p.id]⟩)
      let ek := endpointKey p
      require (∀ owner ∈ existing.byEndpoint.find? ek, owner = p.id)
        (.message ⟨"bundle invalid: endpoint conflict profile=%q endpoint_owner=%q",
          [.str p.id, .str ((existing.byEndpoint.find? ek).getD [])]⟩)
      require (∀ owner ∈ merge.newByEndpoint.find? ek, owner = p.id)
        (.message ⟨"bundle invalid: endpoint conflict profile=%q endpoint_owner=%q",
          [.str p.id, .str ((merge.newByEndpoint.find? ek).getD [])]⟩)
      let p := importDefaults now p
      return {
        updated := merge.updated ++ [p]
        newByID := merge.newByID.insert p.id p
        newByEndpoint := merge.newByEndpoint.insert ek p.id }

/-- The templates of a payload on top of the stored ones. -/
def storeTemplates (aead : Aead) (nonce : Nonce) (templates : Map GoString Template)
    (file : Option Bytes) : Option Bytes :=
  if templates.entries = [] then file
  else
    let current := match TemplateStore.load aead file with
      | .ok stored => stored
      | .error _ => ∅
    some (TemplateStore.save aead nonce
      (current.insertAll (templates.entries.map fun entry => (entry.1, entry.2.templateText))))

/-- The profiles that `ProcessAndStore` starts from. -/
def existingProfiles (aead : Aead) (stores : Stores) : List Profile :=
  match Store.load aead stores.profiles with
  | .ok profiles => profiles
  | .error _ => []

/-- `ProcessAndStore` on a payload, where files can be written; a call that fails writes none. -/
def processAndStore (aead : Aead) (stores : Stores) (call : ImportCall) :
    Except ImportFailure Stores := do
  let revoked := call.payload.revocations.getD []
  let existing := (existingProfiles aead stores).foldl (keepExisting revoked) {}
  let merge ← (call.payload.profiles.getD []).foldlM (mergeProfile existing call.now)
    { updated := existing.updated }
  return {
    profiles := some (Store.save aead call.nonce (appended merge.updated))
    templates := stores.templates.map
      (storeTemplates aead call.templateNonce call.payload.templates) }

/-! ## The two loops -/

/-- What the index by endpoints says about the profiles that are kept. -/
structure Existing.Indexed (existing : Existing) : Prop where
  owned : ∀ key owner, existing.byEndpoint.find? key = some owner →
    ∃ q ∈ existing.updated, q.id = owner
  covers : ∀ q ∈ existing.updated, (existing.byEndpoint.find? (endpointKey q)).isSome = true

theorem foldl_keepExisting (revoked : List GoString) (profiles : List Profile)
    {existing : Existing} (indexed : existing.Indexed) :
    (profiles.foldl (keepExisting revoked) existing).Indexed ∧
      (profiles.foldl (keepExisting revoked) existing).updated =
        existing.updated ++ profiles.filter (·.id ∉ revoked) := by
  induction profiles generalizing existing with
  | nil => exact ⟨indexed, by simp⟩
  | cons p rest ih =>
    rw [List.foldl_cons, keepExisting]
    split_ifs with gone
    · rw [List.filter_cons_of_neg (by simpa using gone)]
      exact ih indexed
    · rw [List.filter_cons_of_pos (by simpa using gone)]
      have next : Existing.Indexed
          { updated := existing.updated ++ [p]
            byID := existing.byID.insert p.id p
            byEndpoint := existing.byEndpoint.insert (endpointKey p) p.id } := by
        constructor
        · intro key owner found
          simp only [Map.find?_insert] at found
          split_ifs at found with same
          · exact ⟨p, by simp, Option.some.inj found⟩
          · obtain ⟨q, member, own⟩ := indexed.owned key owner found
            exact ⟨q, List.mem_append_left _ member, own⟩
        · intro q member
          simp only [Map.find?_insert]
          split_ifs with same
          · rfl
          · obtain before | here := List.mem_append.mp member
            · exact indexed.covers q before
            · exact absurd (congrArg endpointKey (List.mem_singleton.mp here)).symm same
      obtain ⟨kept, updated⟩ := ih next
      exact ⟨kept, by rw [updated, List.append_assoc]; rfl⟩

/-- What the loop over the payload stores for one of its profiles. -/
def Normalized (now : Int64) (p stored : Profile) : Prop :=
  ∃ np, (normalizeForWire p now).2 = .ok np ∧ stored = importDefaults now np

theorem foldlM_mergeProfile {existing : Existing} {now : Int64} {profiles : List Profile}
    {start last : Merge} (merged : profiles.foldlM (mergeProfile existing now) start = .ok last) :
    ∃ stored, last.updated = start.updated ++ stored ∧
      List.Forall₂ (Normalized now) profiles stored ∧
      ∀ p ∈ stored, ∀ owner, existing.byEndpoint.find? (endpointKey p) = some owner →
        owner = p.id := by
  induction profiles generalizing start with
  | nil =>
    cases merged
    exact ⟨[], by simp, .nil, by simp⟩
  | cons p rest ih =>
    rw [List.foldlM_cons, bind_eq_ok] at merged
    obtain ⟨middle, first, later⟩ := merged
    obtain ⟨stored, updated, each, owners⟩ := ih later
    unfold mergeProfile at first
    split at first
    · cases first
    · rename_i np normalized
      simp only [bind_eq_ok, require_eq_ok, pure_eq_ok] at first
      obtain ⟨-, -, -, -, -, owner, -, -, rfl⟩ := first
      refine ⟨importDefaults now np :: stored, by rw [updated, List.append_assoc]; rfl,
        .cons ⟨np, normalized, rfl⟩ each, List.forall_mem_cons.mpr ⟨owner, owners⟩⟩

/-- A profile as it is stored by an import: its own fields, with a fresh health. -/
def Profile.imported (p : Profile) (now : Int64) : Profile :=
  { p with
    createdAt := orNow p.createdAt now
    source := { p.source with importedAt := orNow p.source.importedAt now }
    health := { successEWMA := .half, lastOkAt := now } }

-- The two sides of a field must not be compared by unfolding the string functions.
attribute [local irreducible] trimSpace toLower

private theorem importDefaults_stamped {header : BundleHeader} {time now : Int64} {p : Profile}
    (wire : WireProfile header time p) :
    importDefaults now (p.sortTags.stamped now) = p.sortTags.imported now := by
  obtain ⟨np, first, same⟩ := wire.normalized
  obtain ⟨family, -, -, complete, rfl⟩ := normalizeForWire_eq_ok.mp first
  have enabled : true = p.enabled := congrArg (·.enabled) same
  have source : trimSpace p.source.source = p.source.source := congrArg (·.source.source) same
  have named : p.source.source ≠ [] := source ▸ complete.source
  have trusted : p.source.trustLevel ≠ 0 := by
    intro zero
    have positive : 0 < p.source.trustLevel := complete.trustLevel.1
    rw [zero] at positive
    exact absurd positive (by decide)
  have clean : importDefaults now (p.sortTags.stamped now) = { p.sortTags with
      enabled := true
      createdAt := orNow p.createdAt now
      source := { p.source with
        source := if p.source.source = [] then lit "bundle" else p.source.source
        trustLevel := if p.source.trustLevel = 0 then 80 else p.source.trustLevel
        importedAt := orNow (orNow p.source.importedAt now) now }
      health := { successEWMA := .half, lastOkAt := now } } := rfl
  rw [clean, if_neg named, if_neg trusted, orNow_orNow, enabled]
  rfl

/-- An import stores the profiles that the verifier let through as they are, with a fresh health. -/
theorem WireProfile.imported {header : BundleHeader} {time now : Int64} {p stored : Profile}
    (wire : WireProfile header time p) (normalized : Normalized now p.sortTags stored) :
    stored = p.sortTags.imported now ∧ p.source.trustLevel ≠ 0 := by
  obtain ⟨np, again, rfl⟩ := normalized
  refine ⟨by rw [wire.renormalized again, importDefaults_stamped wire], fun zero => ?_⟩
  obtain ⟨fitting, first, -⟩ := wire.normalized
  obtain ⟨family, -, -, complete, -⟩ := normalizeForWire_eq_ok.mp first
  have positive : 0 < p.source.trustLevel := complete.trustLevel.1
  rw [zero] at positive
  exact absurd positive (by decide)

/-- The stored profiles that a call keeps. -/
def ImportCall.kept (call : ImportCall) (stored : List Profile) : List Profile :=
  stored.filter (·.id ∉ call.payload.revocations.getD [])

/-- The profiles that a call adds. -/
def ImportCall.added (call : ImportCall) : List Profile :=
  (call.payload.profiles.getD []).map (·.imported call.now)

/-- A call on a payload that was accepted under some header keeps and adds, and lets no endpoint go
to another ID. -/
theorem processAndStore_updated {aead : Aead} {stores next : Stores} {call : ImportCall}
    {header : BundleHeader} {time : Int64} {raw : List Profile}
    (profiles : call.payload.profiles.getD [] = raw.map Profile.sortTags)
    (wire : ∀ p ∈ raw, WireProfile header time p)
    (processed : processAndStore aead stores call = .ok next) :
    next.profiles = some (Store.save aead call.nonce
        (appended (call.kept (existingProfiles aead stores) ++ call.added))) ∧
      ∀ p ∈ call.added, ∀ q ∈ call.kept (existingProfiles aead stores),
        endpointKey q = endpointKey p →
          ∃ other ∈ call.kept (existingProfiles aead stores), other.id = p.id := by
  unfold processAndStore at processed
  simp only [bind_eq_ok, pure_eq_ok] at processed
  obtain ⟨merge, merged, rfl⟩ := processed
  have start : Existing.Indexed {} := ⟨fun _ _ found => (nomatch found), fun _ member => (nomatch member)⟩
  obtain ⟨indexed, keeps⟩ := foldl_keepExisting (call.payload.revocations.getD [])
    (existingProfiles aead stores) start
  rw [List.nil_append] at keeps
  obtain ⟨stored, updated, each, owners⟩ := foldlM_mergeProfile merged
  have whole : stored = call.added := by
    rw [profiles, List.forall₂_map_left_iff] at each
    have both : List.Forall₂
        (fun p s => WireProfile header time p ∧ Normalized call.now p.sortTags s) raw stored :=
      (List.forall₂_and_left _ _).mpr ⟨wire, each⟩
    have same : List.Forall₂ (fun p s => p.sortTags.imported call.now = s) raw stored := by
      apply both.imp
      intro p s holds
      obtain ⟨checked, np, normalized, rfl⟩ := holds
      rw [checked.renormalized normalized, importDefaults_stamped checked]
    have mapped : raw.map (fun p => p.sortTags.imported call.now) = stored := by
      rw [← List.forall₂_eq_eq_eq, List.forall₂_map_left_iff]
      exact same
    rw [← mapped, ImportCall.added, profiles, List.map_map]
    rfl
  constructor
  · rw [updated, keeps, whole]
    rfl
  · intro p member q held same
    obtain ⟨owner, found⟩ := Option.isSome_iff_exists.mp (indexed.covers q (keeps ▸ held))
    obtain ⟨other, inside, own⟩ := indexed.owned _ owner found
    rw [keeps] at inside
    exact ⟨other, inside, by rw [own, owners p (whole ▸ member) owner (same ▸ found)]⟩

/-! ## Whole sequences of imports -/

/-- Pairwise distinct IDs and pairwise distinct endpoints. -/
structure Unique (profiles : List Profile) : Prop where
  ids : profiles.Pairwise fun p q => p.id ≠ q.id
  endpoints : profiles.Pairwise fun p q => ¬ sameEndpoint p q

/-- The payload of a call was returned by the importer. -/
def ImportCall.Accepted (suite : Suite) (engine : TextTemplate.Engine Profile) (call : ImportCall) :
    Prop :=
  ∃ (importer : Importer suite) (bundleBytes : Bytes) (clock : Int64),
    (importer.parseBytes engine bundleBytes clock).2 = .ok call.payload

def ImportStep (aead : Aead) (stores : Stores) (call : ImportCall) (next : Stores) : Prop :=
  processAndStore aead stores call = .ok next

/-- The store holds no duplicates, and each profile of the payload that the payload does not revoke
once, as imported. -/
def StoredOnce (aead : Aead) (_stores : Stores) (call : ImportCall) (next : Stores) : Prop :=
  ∃ stored, Store.load aead next.profiles = .ok stored ∧ Unique stored ∧
    ∀ p ∈ call.payload.profiles.getD [], p.id ∉ call.payload.revocations.getD [] →
      stored.filter (·.id = p.id) = [p.imported call.now]

/-- No profile of the payload has the ID of a stored profile that the payload does not revoke. -/
def FreshIDs (aead : Aead) (stores : Stores) (call : ImportCall) (_next : Stores) : Prop :=
  ∀ p ∈ call.payload.profiles.getD [], ∀ q ∈ existingProfiles aead stores, q.id = p.id →
    q.id ∈ call.payload.revocations.getD []

theorem endpointKey_congr {p q : Profile} (same : sameEndpoint p q) :
    endpointKey p = endpointKey q := by
  obtain ⟨family, host, port⟩ := same
  rw [endpointKey, endpointKey, family, host, port]

theorem Profile.Utf8.sortTags {p : Profile} (utf8 : p.Utf8) : p.sortTags.Utf8 := by
  refine { utf8 with capabilities := { utf8.capabilities with dpiResistanceTags := ?_ } }
  intro tag member
  apply utf8.capabilities.dpiResistanceTags tag
  change tag ∈ (p.capabilities.dpiResistanceTags.map sortStrings).getD [] at member
  cases tags : p.capabilities.dpiResistanceTags with
  | none => rw [tags] at member; cases member
  | some held =>
    rw [tags] at member
    exact (List.perm_insertionSort (· ≤ ·) held).mem_iff.mp member

theorem Profile.Utf8.imported {p : Profile} (utf8 : p.Utf8) (now : Int64) :
    (p.imported now).Utf8 :=
  { utf8 with source := { utf8.source with }, health := ⟨rfl⟩ }

/-- What the importer promises of a payload. -/
theorem ImportCall.Accepted.payload {suite : Suite} {engine : TextTemplate.Engine Profile}
    {call : ImportCall} (accepted : call.Accepted suite engine) :
    ∃ header time decoded, call.payload = BundlePayload.sortTags decoded ∧
      PayloadOk engine header time decoded ∧ decoded.Utf8 := by
  obtain ⟨importer, bundleBytes, clock, parsed⟩ := accepted
  obtain ⟨key, -, verified⟩ := parseBytes_sound parsed
  obtain ⟨wrapper, ciphertext, signature, text, decoded, passed, same⟩ :=
    (verifiedPayload_eq_some suite).mp verified
  exact ⟨wrapper.header, _, decoded, same, passed.payload, decodeStrict_payload_utf8 passed.reads⟩

/-- What one call does to a store that loads. -/
structure Effect (aead : Aead) (call : ImportCall) (stored : List Profile) (next : Stores) :
    Prop where
  loads : Store.load aead next.profiles = .ok (call.kept stored ++ call.added)
  utf8 : ∀ p ∈ call.added, p.Utf8
  unique : Unique call.added
  /-- An added profile takes an endpoint only from a profile that keeps its ID. -/
  owners : ∀ q ∈ call.kept stored, ∀ p ∈ call.added, sameEndpoint q p →
    ∃ other ∈ call.kept stored, other.id = p.id

/-- What an import that succeeds does to the profile store. -/
theorem effect_of_step {suite : Suite} {engine : TextTemplate.Engine Profile} {aead : Aead}
    {stores next : Stores} {call : ImportCall} {stored : List Profile}
    (accepted : call.Accepted suite engine) (loads : Store.load aead stores.profiles = .ok stored)
    (utf8 : ∀ p ∈ stored, p.Utf8) (step : ImportStep aead stores call next) :
    Effect aead call stored next := by
  obtain ⟨header, time, decoded, same, ok, strings⟩ := accepted.payload
  have profiles : call.payload.profiles.getD [] =
      (decoded.profiles.getD []).map Profile.sortTags := by
    rw [same, BundlePayload.sortTags_profiles]
  have existing : existingProfiles aead stores = stored := by rw [existingProfiles, loads]
  obtain ⟨saved, owners⟩ := processAndStore_updated profiles ok.profiles step
  rw [existing] at saved owners
  have added : call.added =
      (decoded.profiles.getD []).map fun p => p.sortTags.imported call.now := by
    rw [ImportCall.added, profiles, List.map_map]
    rfl
  have addedUtf8 : ∀ p ∈ call.added, p.Utf8 := by
    rw [added]
    intro p member
    obtain ⟨raw, inside, rfl⟩ := List.mem_map.mp member
    exact (strings.profiles raw inside).sortTags.imported call.now
  refine ⟨?_, addedUtf8, ⟨?_, ?_⟩, fun q held p member taken =>
    owners p member q held (endpointKey_congr taken)⟩
  · rw [saved]
    apply Store.load_save aead call.nonce
    intro p member
    obtain held | new := List.mem_append.mp member
    · exact utf8 p (List.mem_of_mem_filter held)
    · exact addedUtf8 p new
  · rw [added, List.pairwise_map]
    exact List.pairwise_map.mp ok.distinctIDs
  · rw [added, List.pairwise_map]
    exact (List.pairwise_map.mp ok.distinctEndpoints).imp fun differ same =>
      differ (endpointKey_congr same)

section

variable {aead : Aead} {call : ImportCall} {stored : List Profile} {next : Stores}

/-- The list after a call has no duplicates exactly when the call's IDs are fresh. -/
theorem Effect.unique_iff (effect : Effect aead call stored next) (before : Unique stored) :
    Unique (call.kept stored ++ call.added) ↔
      ∀ p ∈ call.added, ∀ q ∈ call.kept stored, q.id ≠ p.id := by
  have kept : (call.kept stored).Sublist stored := List.filter_sublist
  constructor
  · intro unique p new q held
    exact (List.pairwise_append.mp unique.ids).2.2 q held p new
  · intro fresh
    refine ⟨List.pairwise_append.mpr ⟨before.ids.sublist kept, effect.unique.ids,
      fun q held p new => fresh p new q held⟩, List.pairwise_append.mpr
        ⟨before.endpoints.sublist kept, effect.unique.endpoints, fun q held p new taken => ?_⟩⟩
    obtain ⟨other, inside, own⟩ := effect.owners q held p new taken
    exact fresh p new other inside own

private theorem filter_id_eq {profiles : List Profile} {p : Profile}
    (unique : profiles.Pairwise fun p q => p.id ≠ q.id) (member : p ∈ profiles) :
    profiles.filter (·.id = p.id) = [p] := by
  induction profiles with
  | nil => cases member
  | cons first rest ih =>
    obtain ⟨differ, later⟩ := List.pairwise_cons.mp unique
    obtain rfl | inside := List.mem_cons.mp member
    · rw [List.filter_cons_of_pos (by simp), List.filter_eq_nil_iff.mpr]
      exact fun q held => by simpa using (differ q held).symm
    · rw [List.filter_cons_of_neg (by simpa using differ p inside)]
      exact ih later inside

private theorem fresh_iff {stores : Stores} (next : Stores)
    (loads : Store.load aead stores.profiles = .ok stored) :
    FreshIDs aead stores call next ↔
      ∀ p ∈ call.added, ∀ q ∈ call.kept stored, q.id ≠ p.id := by
  have existing : existingProfiles aead stores = stored := by rw [existingProfiles, loads]
  unfold FreshIDs
  rw [existing]
  constructor
  · intro fresh p new q held same
    obtain ⟨raw, inside, rfl⟩ := List.mem_map.mp new
    obtain ⟨own, unrevoked⟩ := List.mem_filter.mp held
    exact of_decide_eq_true unrevoked (fresh raw inside q own same)
  · intro fresh p inside q own same
    by_contra unrevoked
    exact fresh (p.imported call.now) (List.mem_map_of_mem inside) q
      (List.mem_filter.mpr ⟨own, decide_eq_true unrevoked⟩) same

/-- An import stores a profile twice exactly where one that it keeps has an ID that it adds. -/
theorem storedOnce_iff {stores : Stores} (effect : Effect aead call stored next)
    (loads : Store.load aead stores.profiles = .ok stored) (before : Unique stored) :
    StoredOnce aead stores call next ↔ FreshIDs aead stores call next := by
  rw [fresh_iff next loads, ← effect.unique_iff before]
  constructor
  · rintro ⟨after, loaded, unique, -⟩
    obtain rfl := Except.ok.inj (effect.loads.symm.trans loaded)
    exact unique
  · intro unique
    refine ⟨_, effect.loads, unique, fun p inside _ => ?_⟩
    exact filter_id_eq unique.ids (List.mem_append_right _ (List.mem_map_of_mem inside))

end

/-- In a sequence of successful imports from an empty store, the store stays free of duplicates and
keeps each import exactly when no import brings an ID that is stored and not revoked. -/
theorem imports_storedOnce_iff {suite : Suite} {engine : TextTemplate.Engine Profile} (aead : Aead)
    (templates : Option (Option Bytes)) {imports : List ImportCall}
    (accepted : ∀ call ∈ imports, call.Accepted suite engine) :
    Always (ImportStep aead) (StoredOnce aead) ⟨none, templates⟩ imports ↔
      Always (ImportStep aead) (FreshIDs aead) ⟨none, templates⟩ imports := by
  let invariant (stores : Stores) : Prop := ∃ stored,
    Store.load aead stores.profiles = .ok stored ∧ (∀ p ∈ stored, p.Utf8) ∧ Unique stored
  have initial : invariant ⟨none, templates⟩ := ⟨[], rfl, by simp, ⟨.nil, .nil⟩⟩
  refine always_iff (fun stores next call member holds step => ?_)
    (fun stores next call member holds step fresh => ?_) initial
  · obtain ⟨stored, loads, utf8, unique⟩ := holds
    exact storedOnce_iff (effect_of_step (accepted call member) loads utf8 step) loads unique
  · obtain ⟨stored, loads, utf8, unique⟩ := holds
    have effect := effect_of_step (accepted call member) loads utf8 step
    refine ⟨_, effect.loads, fun p inside => ?_,
      (effect.unique_iff unique).mpr ((fresh_iff next loads).mp fresh)⟩
    obtain held | new := List.mem_append.mp inside
    · exact utf8 p (List.mem_of_mem_filter held)
    · exact effect.utf8 p new

/-- An import of the bundle on record. -/
def recordedImport : ImportCall :=
  ⟨recordedPayload.sortTags, 1600, ⟨List.replicate 12 0, rfl⟩, ⟨List.replicate 12 0, rfl⟩⟩

theorem recordedImport_accepted : recordedImport.Accepted recordedCalls plainEngine := by
  refine ⟨newImporter recordedCalls [recordedKey] none, recordedBundle, 1500,
    parseBytes_finds (List.mem_singleton_self _) recordedBundle_verified fun earlier member => ?_⟩
  rw [List.mem_singleton.mp ((List.takeWhile_sublist _).subset member)]

/-- The import on record, into empty stores. -/
theorem recordedImport_storedOnce_iff :
    Always (ImportStep clearAead) (StoredOnce clearAead) ⟨none, none⟩ [recordedImport] ↔
      Always (ImportStep clearAead) (FreshIDs clearAead) ⟨none, none⟩ [recordedImport] :=
  imports_storedOnce_iff clearAead none
    (List.forall_mem_singleton.mpr recordedImport_accepted)

/-- The recorded import goes through a second time. -/
theorem recordedImport_repeats (templates : Option (Option Bytes)) :
    ∃ first second, ImportStep clearAead ⟨none, templates⟩ recordedImport first ∧
      ImportStep clearAead first recordedImport second := by
  have succeeds (stores : Stores) (clean : ((recordedImport.payload.profiles.getD []).foldlM
      (mergeProfile ((existingProfiles clearAead stores).foldl (keepExisting []) {}) 1600)
      { updated := ((existingProfiles clearAead stores).foldl (keepExisting []) {}).updated }).isOk =
        true) : ∃ next, ImportStep clearAead stores recordedImport next := by
    cases merged : (recordedImport.payload.profiles.getD []).foldlM
      (mergeProfile ((existingProfiles clearAead stores).foldl (keepExisting []) {}) 1600)
      { updated := ((existingProfiles clearAead stores).foldl (keepExisting []) {}).updated } with
    | error failure => rw [merged] at clean; cases clean
    | ok merge => exact ⟨_, bind_eq_ok.mpr ⟨merge, merged, rfl⟩⟩
  have empty : existingProfiles clearAead ⟨none, templates⟩ = [] := rfl
  obtain ⟨first, stepped⟩ := succeeds ⟨none, templates⟩ (by rw [empty]; decide +kernel)
  have effect := effect_of_step recordedImport_accepted rfl (by simp) stepped
  have held : existingProfiles clearAead first = recordedImport.added := by
    rw [existingProfiles, effect.loads]
    rfl
  obtain ⟨second, again⟩ := succeeds first (by rw [held]; decide +kernel)
  exact ⟨first, second, stepped, again⟩

/-- Importing the same bundle twice stores its profile twice. -/
theorem reimport_duplicates :
    ¬ Always (ImportStep clearAead) (StoredOnce clearAead) ⟨none, none⟩
      [recordedImport, recordedImport] := by
  intro always
  obtain ⟨first, second, stepped, again⟩ := recordedImport_repeats none
  have empty : Store.load clearAead none = .ok [] := rfl
  have effect := effect_of_step recordedImport_accepted empty (by simp) stepped
  have held : existingProfiles clearAead first = recordedImport.added := by
    rw [existingProfiles, effect.loads]
    rfl
  have fresh := (storedOnce_iff (effect_of_step recordedImport_accepted effect.loads
    effect.utf8 again) effect.loads effect.unique).mp ((always first stepped).2 second again).1
  have member : recordedImport.added.head (by decide) ∈ existingProfiles clearAead first := by
    rw [held]
    exact List.head_mem _
  exact absurd (fresh _ (List.mem_singleton_self _) _ member rfl) (by decide)

end ShadowNet
