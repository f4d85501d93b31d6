import ShadowNet.Bundle.Verify
import ShadowNet.Go.Int64

/-! # What the verifier accepts

Each group of checks raises no issue exactly when a condition holds of the header, the profiles or
the templates. The profiles are checked in a loop that remembers the IDs and endpoints it has seen;
over a whole payload that memory amounts to distinctness.
-/

namespace ShadowNet

open Go Go.Json

@[simp] theorem check_eq_nil {ok : Prop} [Decidable ok] {code format : String} {args : List Arg} :
    check ok code format args = [] ↔ ok := by
  unfold check
  split_ifs with holds <;> simp [holds]

/-- The checks on a header's own fields. -/
structure HeaderOk (header : BundleHeader) (expected : GoString) (now : Int64) : Prop where
  magic : header.magic = lit "SNB1"
  bundleID : isBlank header.bundleID = false
  publisher : isBlank header.publisherKeyID = false ∧ header.publisherKeyID = expected
  seq : header.seq ≠ 0
  createdAt : 0 < header.createdAt
  expiresAt : 0 < header.expiresAt
  ordered : header.createdAt ≤ header.expiresAt
  notFuture : header.createdAt ≤ now + 600
  unexpired : now ≤ header.expiresAt
  cipher : header.cipher = cipherAge ∧ hasPrefix header.recipientKeyID (lit "age-x25519:") = true ∨
    header.cipher = cipherNone ∧ header.recipientKeyID = lit "none"

theorem headerIssues_eq_nil {header : BundleHeader} {expected : GoString} {now : Int64}
    {ciphertext signature : Option Bytes} :
    headerIssues header expected now ciphertext signature = [] ↔
      HeaderOk header expected now ∧ ciphertext.isSome = true ∧ signature.isSome = true := by
  have publisher : (if isBlank header.publisherKeyID then
      [issue "header_publisher_key_id" "missing publisher_key_id" []]
    else check (header.publisherKeyID = expected) "issuer_mismatch"
      "publisher_key_id=%q does not match trusted signer key id=%q"
      [.str header.publisherKeyID, .str expected]) = [] ↔
      isBlank header.publisherKeyID = false ∧ header.publisherKeyID = expected := by
    split_ifs with blank <;> simp [blank]
  have cipher : (if header.cipher = cipherAge then
      check (hasPrefix header.recipientKeyID (lit "age-x25519:") = true) "recipient_key_id"
        "age-x25519 bundles must have recipient_key_id starting with age-x25519:" []
    else if header.cipher = cipherNone then
      check (header.recipientKeyID = lit "none") "recipient_key_id"
        "cipher=\"none\" requires recipient_key_id=\"none\"" []
    else [issue "cipher" "unknown cipher" []]) = [] ↔
      header.cipher = cipherAge ∧ hasPrefix header.recipientKeyID (lit "age-x25519:") = true ∨
        header.cipher = cipherNone ∧ header.recipientKeyID = lit "none" := by
    have apart : cipherAge ≠ cipherNone := by decide
    split_ifs with aged plain
    · simp [aged, apart]
    · simp [plain, apart.symm]
    · simp [aged, plain]
  simp only [headerIssues, List.append_eq_nil_iff, publisher, cipher, check_eq_nil]
  constructor
  · rintro ⟨⟨⟨⟨⟨⟨⟨⟨⟨⟨⟨magic, bundleID⟩, publisher⟩, seq⟩, created⟩, expires⟩, ordered⟩, future⟩,
      unexpired⟩, cipher⟩, ciphertext⟩, signature⟩
    exact ⟨⟨magic, bundleID, publisher, seq, created, expires, ordered created expires, future,
      unexpired, cipher⟩, ciphertext, signature⟩
  · rintro ⟨ok, ciphertext, signature⟩
    exact ⟨⟨⟨⟨⟨⟨⟨⟨⟨⟨⟨ok.magic, ok.bundleID⟩, ok.publisher⟩, ok.seq⟩, ok.createdAt⟩, ok.expiresAt⟩,
      fun _ _ => ok.ordered⟩, ok.notFuture⟩, ok.unexpired⟩, ok.cipher⟩, ciphertext⟩, signature⟩

/-! ## Profiles -/

/-- A profile that raises no issue by itself. -/
structure WireProfile (header : BundleHeader) (now : Int64) (p : Profile) : Prop where
  normalized : ∃ np, (normalizeForWire p now).2 = .ok np ∧ np.deepEqual p.sortTags
  publisher : isBlank p.source.publisherKey = false ∧ p.source.publisherKey = header.publisherKeyID
  unexpired : p.expiresAt ≠ 0 → now < p.expiresAt
  ordered : p.expiresAt ≠ 0 → p.createdAt ≤ p.expiresAt

/-- The profile with unset times read as now, and without its health. -/
def Profile.stamped (p : Profile) (now : Int64) : Profile :=
  { p with
    createdAt := orNow p.createdAt now
    source := { p.source with importedAt := orNow p.source.importedAt now }
    health := {} }

-- The two sides of a field must not be compared by unfolding the string functions.
attribute [local irreducible] trimSpace toLower

/-- Normalizing a profile that the verifier let through changes neither its fields nor its tags. -/
theorem WireProfile.renormalized {header : BundleHeader} {time now : Int64} {p q : Profile}
    (wire : WireProfile header time p) (normalized : (normalizeForWire p.sortTags now).2 = .ok q) :
    q = p.sortTags.stamped now := by
  obtain ⟨np, first, same⟩ := wire.normalized
  obtain ⟨family, known, -, -, rfl⟩ := normalizeForWire_eq_ok.mp first
  obtain ⟨again, knownAgain, -, -, rfl⟩ := normalizeForWire_eq_ok.mp normalized
  obtain rfl : family = again := Except.ok.inj (known.symm.trans knownAgain)
  have id : trimSpace (toLower p.id) = p.id := congrArg (·.id) same
  have kind : family = p.family := congrArg (·.family) same
  have enabled : true = p.enabled := congrArg (·.enabled) same
  have disabled : false = p.manualDisabled := congrArg (·.manualDisabled) same
  have reference : trimSpace p.templateRef = p.templateRef := congrArg (·.templateRef) same
  have host : toLower (trimSpace p.endpoint.host) = p.endpoint.host :=
    congrArg (·.endpoint.host) same
  have version : defaultIPVersion (toLower (trimSpace p.endpoint.ipVersion)) =
      p.endpoint.ipVersion := congrArg (·.endpoint.ipVersion) same
  have transport : trimSpace (toLower p.capabilities.transport) = p.capabilities.transport :=
    congrArg (·.capabilities.transport) same
  have tags : uniqueSortedTags p.sortTags.capabilities.dpiResistanceTags =
      p.sortTags.capabilities.dpiResistanceTags :=
    congrArg (·.capabilities.dpiResistanceTags) same
  have bandwidth : toLower (trimSpace p.capabilities.bandwidthClass) =
      p.capabilities.bandwidthClass := congrArg (·.capabilities.bandwidthClass) same
  have source : trimSpace p.source.source = p.source.source := congrArg (·.source.source) same
  have notes : trimSpace p.notes = p.notes := congrArg (·.notes) same
  have shaped : p.sortTags.shaped family = p.sortTags := by
    simp only [Profile.shaped, Profile.sortTags, id, reference, host, version, transport, bandwidth]
    rw [kind]
  rw [shaped, Profile.sortTags_sortTags, Profile.completed, tags]
  change ({ p.sortTags with
    source := { p.source with
      source := trimSpace p.source.source, importedAt := orNow p.source.importedAt now }
    enabled := true, manualDisabled := false, health := {}
    createdAt := orNow p.createdAt now, notes := trimSpace p.notes } : Profile) = _
  rw [source, notes, enabled, disabled]
  rfl

/-- The profiles that raise no issue when the loop goes on from `scan`. -/
structure ScanOk (header : BundleHeader) (now : Int64) (scan : ProfileScan)
    (profiles : List Profile) : Prop where
  each : ∀ p ∈ profiles, WireProfile header now p
  freshIDs : ∀ p ∈ profiles, p.id ∉ scan.seenIDs
  distinctIDs : (profiles.map (·.id)).Nodup
  freshEndpoints : ∀ p ∈ profiles, endpointKey p ∉ scan.seenEndpoints
  distinctEndpoints : (profiles.map endpointKey).Nodup

theorem scanProfile_seen (header : BundleHeader) (now : Int64) (scan : ProfileScan) (p : Profile) :
    (scanProfile header now scan p).seen = scan.seen ++ [(normalizeForWire p now).1] := by
  unfold scanProfile
  split <;> rename_i result <;> rw [result]

private theorem foldl_scanProfile_seen (header : BundleHeader) (now : Int64)
    (profiles : List Profile) (scan : ProfileScan) :
    (profiles.foldl (scanProfile header now) scan).seen =
      scan.seen ++ profiles.map fun p => (normalizeForWire p now).1 := by
  induction profiles generalizing scan with
  | nil => simp
  | cons p rest ih => rw [List.foldl_cons, ih, scanProfile_seen]; simp

private theorem scanProfile_issues (header : BundleHeader) (now : Int64) (scan : ProfileScan)
    (p : Profile) :
    (scanProfile header now scan p).issues = [] ↔
      scan.issues = [] ∧ WireProfile header now p ∧ p.id ∉ scan.seenIDs ∧
        endpointKey p ∉ scan.seenEndpoints := by
  unfold scanProfile
  split
  · rename_i q text result
    apply iff_of_false (by simp)
    rintro ⟨-, wire, -⟩
    obtain ⟨np, normalized, -⟩ := wire.normalized
    rw [result] at normalized
    cases normalized
  · rename_i q np result
    have normalized : (normalizeForWire p now).2 = .ok np := by rw [result]
    obtain rfl : q = p.sortTags := by rw [← normalizeForWire_sorts normalized, result]
    have publisher : (if isBlank p.source.publisherKey then
        [issue "profile_issuer_missing" "profiles[%d] id=%q missing source.publisher_key"
          [.int scan.seen.length, .str p.id]]
      else check (p.source.publisherKey = header.publisherKeyID) "profile_issuer_mismatch"
        "profiles[%d] id=%q source.publisher_key mismatch"
        [.int scan.seen.length, .str p.id]) = [] ↔
        isBlank p.source.publisherKey = false ∧
          p.source.publisherKey = header.publisherKeyID := by
      split_ifs with blank <;> simp [blank]
    change scan.issues ++ profileIssues header now scan p.sortTags np = [] ↔ _
    rw [List.append_eq_nil_iff]
    apply and_congr_right
    intro _
    unfold profileIssues
    simp only [List.append_eq_nil_iff, check_eq_nil]
    constructor
    · rintro ⟨⟨⟨⟨⟨same, publishes⟩, freshID⟩, freshEndpoint⟩, unexpired⟩, ordered⟩
      exact ⟨⟨⟨np, normalized, same⟩, publisher.mp publishes, unexpired, ordered⟩, freshID,
        freshEndpoint⟩
    · rintro ⟨wire, freshID, freshEndpoint⟩
      obtain ⟨other, again, same⟩ := wire.normalized
      cases normalized.symm.trans again
      exact ⟨⟨⟨⟨⟨same, publisher.mpr wire.publisher⟩, freshID⟩, freshEndpoint⟩, wire.unexpired⟩,
        wire.ordered⟩

private theorem scanOk_cons {header : BundleHeader} {now : Int64} {scan : ProfileScan} {p : Profile}
    {rest : List Profile} (wire : WireProfile header now p) :
    ScanOk header now (scanProfile header now scan p) rest ∧ p.id ∉ scan.seenIDs ∧
        endpointKey p ∉ scan.seenEndpoints ↔ ScanOk header now scan (p :: rest) := by
  obtain ⟨np, normalized, -⟩ := wire.normalized
  have step : scanProfile header now scan p =
      { seen := scan.seen ++ [p.sortTags]
        seenIDs := p.id :: scan.seenIDs
        seenEndpoints := endpointKey p :: scan.seenEndpoints
        issues := scan.issues ++ profileIssues header now scan p.sortTags np } := by
    have pair : normalizeForWire p now = (p.sortTags, .ok np) :=
      Prod.ext (normalizeForWire_sorts normalized) normalized
    simp only [scanProfile, pair]
    rfl
  rw [step]
  constructor
  · rintro ⟨ok, freshID, freshEndpoint⟩
    refine ⟨List.forall_mem_cons.mpr ⟨wire, ok.each⟩, List.forall_mem_cons.mpr ⟨freshID, ?_⟩,
      List.nodup_cons.mpr ⟨?_, ok.distinctIDs⟩, List.forall_mem_cons.mpr ⟨freshEndpoint, ?_⟩,
      List.nodup_cons.mpr ⟨?_, ok.distinctEndpoints⟩⟩
    · exact fun q member held => ok.freshIDs q member (List.mem_cons_of_mem _ held)
    · intro member
      obtain ⟨q, inside, same⟩ := List.mem_map.mp member
      exact ok.freshIDs q inside (same ▸ List.mem_cons_self ..)
    · exact fun q member held => ok.freshEndpoints q member (List.mem_cons_of_mem _ held)
    · intro member
      obtain ⟨q, inside, same⟩ := List.mem_map.mp member
      exact ok.freshEndpoints q inside (same ▸ List.mem_cons_self ..)
  · intro ok
    obtain ⟨newID, distinctIDs⟩ := List.nodup_cons.mp ok.distinctIDs
    obtain ⟨newEndpoint, distinctEndpoints⟩ := List.nodup_cons.mp ok.distinctEndpoints
    refine ⟨⟨(List.forall_mem_cons.mp ok.each).2, fun q member held => ?_, distinctIDs,
      fun q member held => ?_, distinctEndpoints⟩, (List.forall_mem_cons.mp ok.freshIDs).1,
      (List.forall_mem_cons.mp ok.freshEndpoints).1⟩
    · obtain same | earlier := List.mem_cons.mp held
      · exact newID (List.mem_map.mpr ⟨q, member, same⟩)
      · exact ok.freshIDs q (List.mem_cons_of_mem _ member) earlier
    · obtain same | earlier := List.mem_cons.mp held
      · exact newEndpoint (List.mem_map.mpr ⟨q, member, same⟩)
      · exact ok.freshEndpoints q (List.mem_cons_of_mem _ member) earlier

private theorem foldl_scanProfile_issues (header : BundleHeader) (now : Int64)
    (profiles : List Profile) (scan : ProfileScan) :
    (profiles.foldl (scanProfile header now) scan).issues = [] ↔
      scan.issues = [] ∧ ScanOk header now scan profiles := by
  induction profiles generalizing scan with
  | nil => simpa using fun _ => ⟨by simp, by simp, by simp, by simp, by simp⟩
  | cons p rest ih =>
    rw [List.foldl_cons, ih, scanProfile_issues]
    constructor
    · rintro ⟨⟨clean, wire, freshID, freshEndpoint⟩, ok⟩
      exact ⟨clean, (scanOk_cons wire).mp ⟨ok, freshID, freshEndpoint⟩⟩
    · rintro ⟨clean, ok⟩
      have wire := ok.each p (List.mem_cons_self ..)
      obtain ⟨rest, freshID, freshEndpoint⟩ := (scanOk_cons wire).mpr ok
      exact ⟨⟨clean, wire, freshID, freshEndpoint⟩, rest⟩

/-- The loop over all profiles of a payload. -/
theorem scanProfiles_issues {header : BundleHeader} {now : Int64} {profiles : List Profile} :
    (scanProfiles header now profiles).issues = [] ↔
      (∀ p ∈ profiles, WireProfile header now p) ∧ (profiles.map (·.id)).Nodup ∧
        (profiles.map endpointKey).Nodup := by
  rw [scanProfiles, foldl_scanProfile_issues]
  constructor
  · rintro ⟨-, ok⟩
    exact ⟨ok.each, ok.distinctIDs, ok.distinctEndpoints⟩
  · rintro ⟨each, distinctIDs, distinctEndpoints⟩
    exact ⟨rfl, each, by simp, distinctIDs, by simp, distinctEndpoints⟩

theorem scanProfiles_seen {header : BundleHeader} {now : Int64} {profiles : List Profile}
    (each : ∀ p ∈ profiles, WireProfile header now p) :
    (scanProfiles header now profiles).seen = profiles.map Profile.sortTags := by
  rw [scanProfiles, foldl_scanProfile_seen]
  apply List.map_congr_left
  intro p member
  obtain ⟨np, normalized, -⟩ := (each p member).normalized
  exact normalizeForWire_sorts normalized

/-! ## Templates and payloads -/

/-- A template that raises no issue. -/
structure TemplateOk (engine : TextTemplate.Engine Profile) (profiles : List Profile) (k : GoString)
    (v : Template) : Prop where
  key : isBlank k = false ∧ 0x5C ∉ k
  inside : pathClean k ≠ lit "." ∧ pathClean k ≠ lit ".." ∧
    hasPrefix (pathClean k) (lit "../") = false ∧ hasPrefix (pathClean k) (lit "/") = false
  text : isBlank v.templateText = false
  renders : ∀ sample, profiles.find? (fun p => templateKey p = k) = some sample →
    ∃ text, engine.render v.templateText sample = .ok text ∧ Json.valid (trimSpace text) = true

/-- A template without issues. -/
theorem templateIssues_eq_nil {engine : TextTemplate.Engine Profile} {profiles : List Profile}
    {k : GoString} {v : Template} :
    templateIssues engine profiles (k, v) = [] ↔ TemplateOk engine profiles k v := by
  unfold templateIssues
  simp only
  split_ifs with blank backslash outside empty
  · exact iff_of_false (by simp) fun ok => by simp [ok.key.1] at blank
  · exact iff_of_false (by simp) fun ok => ok.key.2 backslash
  · apply iff_of_false (by simp)
    intro ok
    obtain ⟨dot, dots, above, root⟩ := ok.inside
    simp [dot, dots, above, root] at outside
  · exact iff_of_false (by simp) fun ok => by simp [ok.text] at empty
  · simp only [not_or, Bool.not_eq_true] at blank outside empty
    split
    · rename_i unused
      exact iff_of_true rfl ⟨⟨blank, backslash⟩, outside, empty, fun sample found => by
        rw [unused] at found
        cases found⟩
    · rename_i sample found
      have only : (∀ other, profiles.find? (fun p => templateKey p = k) = some other →
          ∃ text, engine.render v.templateText other = .ok text ∧
            Json.valid (trimSpace text) = true) ↔
          ∃ text, engine.render v.templateText sample = .ok text ∧
            Json.valid (trimSpace text) = true := by
        rw [found]
        exact ⟨fun each => each sample rfl, fun holds other same => Option.some.inj same ▸ holds⟩
      have whole : TemplateOk engine profiles k v ↔
          ∃ text, engine.render v.templateText sample = .ok text ∧
            Json.valid (trimSpace text) = true :=
        ⟨fun ok => only.mp ok.renders, fun holds =>
          ⟨⟨blank, backslash⟩, outside, empty, only.mpr holds⟩⟩
      rw [whole]
      split <;> rename_i rendered <;> simp [rendered]

/-- The payload with the tags of its profiles sorted. -/
def BundlePayload.sortTags (payload : BundlePayload) : BundlePayload :=
  { payload with profiles := payload.profiles.map (List.map Profile.sortTags) }

/-- A payload that raises no issue. -/
structure PayloadOk (engine : TextTemplate.Engine Profile) (header : BundleHeader) (now : Int64)
    (payload : BundlePayload) : Prop where
  schemaVersion : payload.schemaVersion = 1
  minAgentVersion : isBlank payload.minAgentVersion = false
  issuer : isBlank header.publisherKeyID = false ∧
    payload.notes.find? (lit "issuer_key_id") = some header.publisherKeyID
  profiles : ∀ p ∈ payload.profiles.getD [], WireProfile header now p
  distinctIDs : ((payload.profiles.getD []).map (·.id)).Nodup
  distinctEndpoints : ((payload.profiles.getD []).map endpointKey).Nodup
  templates : ∀ k v, payload.templates.find? k = some v →
    TemplateOk engine ((payload.profiles.getD []).map Profile.sortTags) k v
  complete : ∀ p ∈ payload.profiles.getD [], (payload.templates.find? (templateKey p)).isSome = true

private theorem issuer_ok {note : Option GoString} {publisher : GoString} :
    (if isBlank (note.getD []) then
        [issue "issuer_note" "missing notes.issuer_key_id" []]
      else check (note.getD [] = publisher) "issuer_note_mismatch"
        "notes.issuer_key_id must match header.publisher_key_id" []) = [] ↔
      isBlank publisher = false ∧ note = some publisher := by
  cases note with
  | none =>
    have blank : isBlank [] = true := by decide +kernel
    apply iff_of_false (by simp [blank])
    rintro ⟨-, ⟨⟩⟩
  | some text =>
    rw [Option.getD_some, Option.some_inj]
    split_ifs with blank
    · apply iff_of_false (by simp)
      rintro ⟨filled, rfl⟩
      simp [blank] at filled
    · rw [check_eq_nil]
      exact ⟨fun same => ⟨by simpa [same] using blank, same⟩, fun both => both.2⟩

/-- A payload without issues. -/
theorem validatePayloadStrict_issues {engine : TextTemplate.Engine Profile} {header : BundleHeader}
    {now : Int64} {payload : BundlePayload} :
    (validatePayloadStrict engine payload header now).2 = [] ↔
      PayloadOk engine header now payload := by
  simp only [validatePayloadStrict, List.append_eq_nil_iff, check_eq_nil, issuer_ok,
    scanProfiles_issues, List.flatMap_eq_nil_iff]
  have seen (each : ∀ p ∈ payload.profiles.getD [], WireProfile header now p) :
      (scanProfiles header now (payload.profiles.getD [])).seen =
        (payload.profiles.getD []).map Profile.sortTags := scanProfiles_seen each
  constructor
  · rintro ⟨⟨⟨⟨⟨schema, version⟩, issuer⟩, each, ids, endpoints⟩, templates⟩, complete⟩
    rw [seen each] at templates complete
    refine ⟨schema, version, issuer, each, ids, endpoints, fun k v found => ?_, fun p member => ?_⟩
    · exact templateIssues_eq_nil.mp (templates (k, v) ((Map.find?_eq_some _).mp found))
    · exact complete p.sortTags (List.mem_map_of_mem member)
  · intro ok
    rw [seen ok.profiles]
    refine ⟨⟨⟨⟨⟨ok.schemaVersion, ok.minAgentVersion⟩, ok.issuer⟩, ok.profiles, ok.distinctIDs,
      ok.distinctEndpoints⟩, fun entry member => ?_⟩, fun q member => ?_⟩
    · exact templateIssues_eq_nil.mpr (ok.templates _ _ ((Map.find?_eq_some _).mpr member))
    · obtain ⟨p, inside, rfl⟩ := List.mem_map.mp member
      exact ok.complete p inside

/-- The payload comes back with its tags sorted. -/
theorem validatePayloadStrict_payload {engine : TextTemplate.Engine Profile} {header : BundleHeader}
    {now : Int64} {payload : BundlePayload} (ok : PayloadOk engine header now payload) :
    (validatePayloadStrict engine payload header now).1 = payload.sortTags := by
  simp only [validatePayloadStrict, scanProfiles_seen ok.profiles, BundlePayload.sortTags]
  cases payload.profiles <;> rfl

/-- A plaintext is accepted when it is the canonical text of a payload without issues. -/
theorem verifyPayload_eq_ok {engine : TextTemplate.Engine Profile} {payloadBytes : Bytes}
    {header : BundleHeader} {now : Int64} {payload : BundlePayload} :
    verifyPayload engine payloadBytes header now = .ok payload ↔
      ∃ decoded, decodeStrict BundlePayload.codec {} payloadBytes = some decoded ∧
        marshalCanonicalPayload decoded = payloadBytes ∧ PayloadOk engine header now decoded ∧
        payload = decoded.sortTags := by
  unfold verifyPayload
  split
  · rename_i unread
    simp [unread]
  · rename_i decoded read
    simp only [read, Option.some_inj]
    split_ifs with canonical
    · split
      · rename_i returned validated
        have ok : PayloadOk engine header now decoded :=
          validatePayloadStrict_issues.mp (by rw [validated])
        have sorted := validatePayloadStrict_payload ok
        rw [validated] at sorted
        subst sorted
        constructor
        · rintro ⟨⟩
          exact ⟨decoded, rfl, canonical, ok, rfl⟩
        · rintro ⟨_, rfl, -, -, rfl⟩
          rfl
      · rename_i returned issues found validated
        apply iff_of_false (by simp)
        rintro ⟨_, rfl, -, ok, -⟩
        exact found (by rw [← validatePayloadStrict_issues.mpr ok, validated])
    · apply iff_of_false (by simp)
      rintro ⟨_, rfl, same, -⟩
      exact canonical same

/-! ## Bundles -/

section

variable (suite : Suite)

/-- How the plaintext comes out of the ciphertext. -/
def Opens (header : BundleHeader) (ciphertext : Bytes) (ageIdentity : Option suite.Identity)
    (text : Bytes) : Prop :=
  header.cipher = cipherNone ∧ text = ciphertext ∨
    header.cipher = cipherAge ∧ ∃ identity, ageIdentity = some identity ∧
      trimSpace header.recipientKeyID =
        ageKeyID suite (suite.recipientString (suite.recipient identity)) ∧
      suite.decrypt identity ciphertext = .ok text

/-- A payload that opens. -/
theorem decryptPayloadBytes_eq_ok {header : BundleHeader} {ciphertext text : Bytes}
    {ageIdentity : Option suite.Identity} :
    decryptPayloadBytes suite header ciphertext ageIdentity = .ok text ↔
      Opens suite header ciphertext ageIdentity text := by
  have apart : cipherAge ≠ cipherNone := by decide
  unfold decryptPayloadBytes Opens
  split_ifs with plain aged
  · simp [plain, apart.symm, eq_comm]
  · rw [aged]
    simp only [apart, true_and, false_and, false_or]
    cases ageIdentity with
    | none => simp
    | some identity =>
      simp only [Option.some_inj, exists_eq_left']
      split_ifs with recipient
      · rw [← recipient]
        split <;> rename_i opened <;> simp [opened]
      · simp [recipient]
  · simp [plain, aged]

private theorem not_opens {header : BundleHeader} {ciphertext text : Bytes}
    {ageIdentity : Option suite.Identity}
    (locked : header.cipher = cipherAge ∧ ageIdentity.isNone = true) :
    ¬ Opens suite header ciphertext ageIdentity text := by
  rintro (⟨plain, -⟩ | ⟨-, identity, given, -⟩)
  · exact absurd (locked.1.symm.trans plain) (by decide)
  · simp [given] at locked

/-- What passes between the wrapper and the payload of an accepted bundle. -/
structure Signed (wrapper : Wrapper) (trustedSigner : PublicKey) (ciphertext signature : Bytes) :
    Prop where
  decodes : Base64.decode wrapper.ciphertext = some ciphertext
  carries : Base64.decode wrapper.header.signature = some signature
  verifies : suite.verify trustedSigner (signedBytes wrapper.header ciphertext) signature = true

/-- A wrapper that passes: its header, its signature and its payload do. -/
theorem verifyWrapper_eq_payload {engine : TextTemplate.Engine Profile} {wrapper : Wrapper}
    {trustedSigner : PublicKey} {opts : VerifyOptions suite} {now : Int64}
    {payload : BundlePayload} :
    verifyWrapper suite engine wrapper trustedSigner opts now = .ok (some payload) ↔
      HeaderOk wrapper.header (ed25519KeyID suite trustedSigner) now ∧
        ∃ ciphertext signature text, Signed suite wrapper trustedSigner ciphertext signature ∧
          Opens suite wrapper.header ciphertext opts.ageIdentity text ∧
          verifyPayload engine text wrapper.header now = .ok payload := by
  unfold verifyWrapper
  simp only
  split
  · rename_i clean
    obtain ⟨ok, someCiphertext, someSignature⟩ := headerIssues_eq_nil.mp clean
    obtain ⟨ciphertext, ciphertextEq⟩ := Option.isSome_iff_exists.mp someCiphertext
    obtain ⟨signature, signatureEq⟩ := Option.isSome_iff_exists.mp someSignature
    simp only [ciphertextEq, signatureEq, Option.getD_some]
    have signed : ∀ c s, Signed suite wrapper trustedSigner c s → c = ciphertext ∧ s = signature :=
      fun c s both => ⟨Option.some.inj (both.decodes.symm.trans ciphertextEq),
        Option.some.inj (both.carries.symm.trans signatureEq)⟩
    split_ifs with verifies locked required
    · apply iff_of_false (by simp)
      rintro ⟨-, c, s, text, -, opens, -⟩
      exact not_opens suite locked opens
    · apply iff_of_false (by simp)
      rintro ⟨-, c, s, text, -, opens, -⟩
      exact not_opens suite locked opens
    · constructor
      · intro accepted
        split at accepted
        · cases accepted
        · rename_i text opened
          refine ⟨ok, ciphertext, signature, text, ⟨ciphertextEq, signatureEq, verifies⟩,
            (decryptPayloadBytes_eq_ok suite).mp opened, ?_⟩
          cases verified : verifyPayload engine text wrapper.header now with
          | error failure => simp [verified, Except.map] at accepted
          | ok returned => simpa [verified, Except.map] using accepted
      · rintro ⟨-, c, s, text, both, opens, verified⟩
        obtain ⟨rfl, rfl⟩ := signed c s both
        simp [(decryptPayloadBytes_eq_ok suite).mpr opens, verified, Except.map]
    · apply iff_of_false (by simp)
      rintro ⟨-, c, s, text, both, -⟩
      obtain ⟨rfl, rfl⟩ := signed c s both
      exact verifies both.verifies
  · rename_i issues found
    apply iff_of_false (by simp)
    rintro ⟨ok, c, s, text, both, -⟩
    exact found (headerIssues_eq_nil.mpr ⟨ok, by simp [both.decodes], by simp [both.carries]⟩)

/-- The payload that `verifyBundle` returns without an error. -/
def verifiedPayload (engine : TextTemplate.Engine Profile) (bundleBytes : Bytes)
    (trustedSigner : PublicKey) (opts : VerifyOptions suite) (clock : Int64) :
    Option BundlePayload :=
  match verifyBundle suite engine bundleBytes trustedSigner opts clock with
  | (some res, none) => res.payload
  | _ => none

/-- The way from the bytes of an accepted bundle to its payload. -/
structure Accepted (engine : TextTemplate.Engine Profile) (bundleBytes : Bytes)
    (trustedSigner : PublicKey) (ageIdentity : Option suite.Identity) (now : Int64)
    (wrapper : Wrapper) (ciphertext signature text : Bytes) (decoded : BundlePayload) : Prop where
  parses : decodeStrict Wrapper.codec {} bundleBytes = some wrapper
  header : HeaderOk wrapper.header (ed25519KeyID suite trustedSigner) now
  signed : Signed suite wrapper trustedSigner ciphertext signature
  opens : Opens suite wrapper.header ciphertext ageIdentity text
  reads : decodeStrict BundlePayload.codec {} text = some decoded
  canonical : marshalCanonicalPayload decoded = text
  payload : PayloadOk engine wrapper.header now decoded

/-- A bundle verifies to a payload exactly where it is accepted. -/
theorem verifyBundle_eq_payload {engine : TextTemplate.Engine Profile} {bundleBytes : Bytes}
    {trustedSigner : PublicKey} {opts : VerifyOptions suite} {clock : Int64} {res : VerifyResult}
    {payload : BundlePayload} :
    verifyBundle suite engine bundleBytes trustedSigner opts clock = (some res, none) ∧
        res.payload = some payload ↔
      ∃ wrapper ciphertext signature text decoded,
        Accepted suite engine bundleBytes trustedSigner opts.ageIdentity (opts.now clock) wrapper
          ciphertext signature text decoded ∧
        res = ⟨wrapper.header, ed25519KeyID suite trustedSigner,
          Base64.encode (suite.sha256 bundleBytes), some payload⟩ ∧
        payload = decoded.sortTags := by
  unfold verifyBundle
  constructor
  · rintro ⟨accepted, returned⟩
    split at accepted
    · cases accepted
    · rename_i wrapper parsed
      split at accepted <;> rename_i verified
      · simp at accepted
      · simp only [Prod.mk.injEq, Option.some_inj, and_true] at accepted
        subst accepted
        simp only at returned
        rw [returned, verifyWrapper_eq_payload] at verified
        obtain ⟨ok, ciphertext, signature, text, signed, opens, verified⟩ := verified
        obtain ⟨decoded, read, canonical, payloadOk, rfl⟩ := verifyPayload_eq_ok.mp verified
        exact ⟨wrapper, ciphertext, signature, text, decoded,
          ⟨parsed, ok, signed, opens, read, canonical, payloadOk⟩, by rw [returned], rfl⟩
  · rintro ⟨wrapper, ciphertext, signature, text, decoded, accepted, rfl, rfl⟩
    have verified := (verifyWrapper_eq_payload suite).mpr ⟨accepted.header, ciphertext, signature,
      text, accepted.signed, accepted.opens, verifyPayload_eq_ok.mpr
        ⟨decoded, accepted.reads, accepted.canonical, accepted.payload, rfl⟩⟩
    simp only [accepted.parses, verified, and_self]

/-- What is accepted, with all that has been checked of it. -/
theorem verifiedPayload_eq_some {engine : TextTemplate.Engine Profile} {bundleBytes : Bytes}
    {trustedSigner : PublicKey} {opts : VerifyOptions suite} {clock : Int64}
    {payload : BundlePayload} :
    verifiedPayload suite engine bundleBytes trustedSigner opts clock = some payload ↔
      ∃ wrapper ciphertext signature text decoded,
        Accepted suite engine bundleBytes trustedSigner opts.ageIdentity (opts.now clock) wrapper
          ciphertext signature text decoded ∧ payload = decoded.sortTags := by
  constructor
  · intro returned
    unfold verifiedPayload at returned
    split at returned
    · rename_i res accepted
      obtain ⟨wrapper, ciphertext, signature, text, decoded, accepted, -, same⟩ :=
        (verifyBundle_eq_payload suite).mp ⟨accepted, returned⟩
      exact ⟨wrapper, ciphertext, signature, text, decoded, accepted, same⟩
    · cases returned
  · rintro ⟨wrapper, ciphertext, signature, text, decoded, accepted, rfl⟩
    obtain ⟨whole, -⟩ := (verifyBundle_eq_payload suite).mpr
      ⟨wrapper, ciphertext, signature, text, decoded, accepted, rfl, rfl⟩
    rw [verifiedPayload, whole]

/-- A signed header around a payload without issues makes an accepted bundle. -/
theorem accepted_of_signed {engine : TextTemplate.Engine Profile} {trustedSigner : PublicKey}
    {ageIdentity : Option suite.Identity} {now : Int64} {header : BundleHeader}
    {ciphertext signature : Bytes} {payload : BundlePayload}
    (carries : header.signature = Base64.encode signature) (headerUtf8 : header.Utf8)
    (headerOk : HeaderOk header (ed25519KeyID suite trustedSigner) now)
    (verifies : suite.verify trustedSigner (signedBytes header ciphertext) signature = true)
    (opens : Opens suite header ciphertext ageIdentity (marshalCanonicalPayload payload))
    (payloadUtf8 : payload.Utf8) (payloadOk : PayloadOk engine header now payload) :
    Accepted suite engine (marshal Wrapper.codec ⟨header, Base64.encode ciphertext⟩) trustedSigner
      ageIdentity now ⟨header, Base64.encode ciphertext⟩ ciphertext signature
      (marshalCanonicalPayload payload) payload :=
  { parses := decodeStrict_wrapper headerUtf8 (Base64.ascii_encode ciphertext).valid
    header := headerOk
    signed := ⟨Base64.decode_encode _, by rw [carries, Base64.decode_encode], verifies⟩
    opens
    reads := decodeStrict_canonical payloadUtf8
    canonical := rfl
    payload := payloadOk }

end

/-! ## A bundle on record -/

def recordedKey : PublicKey :=
  ⟨(Base64.decode (lit "O2onvM62pC1io6jQKm8Nc2UyFXcd4kOmOsBIoYtZ2ik")).getD [], by decide⟩

/-- The key of somebody else. -/
def otherKey : PublicKey :=
  ⟨(Base64.decode (lit "iojj3XQJ8ZX9UtstPLpdcspnCb8dlBIb83SIAbQPb1w")).getD [], by decide⟩

def recordedKeyID : GoString := lit "ed25519:E545QOZLVJFyIIjZ"

def recordedPayload : BundlePayload :=
  { schemaVersion := 1
    minAgentVersion := lit "1.0.0"
    profiles := some
      [{  id := lit "p1"
          family := familyReality
          enabled := true
          createdAt := 900
          endpoint := ⟨lit "h", 443, lit "dual"⟩
          capabilities := ⟨lit "tcp", none, []⟩
          credentials := ⟨lit "u", [], lit "k", lit "s", lit "n", lit "c", []⟩
          source := ⟨lit "list", 80, 900, recordedKeyID⟩ }]
    templates := (∅ : Map GoString Template).insert familyReality ⟨lit "\x7b\x7d"⟩
    notes := (∅ : Map GoString GoString).insert (lit "issuer_key_id") recordedKeyID }

def recordedSignature : Bytes :=
  (Base64.decode (lit
    "V3OO6jF-AapmibP_LK_O68fh0Px6XC1xkQ2jxd5qcHGhCsqY35rj7ot9sOqlxHhF15IsHkU4pDLBsKEoK7dSBQ")).getD []

def recordedHeader : BundleHeader :=
  { magic := lit "SNB1"
    bundleID := lit "b1"
    publisherKeyID := recordedKeyID
    recipientKeyID := lit "none"
    seq := 1
    createdAt := 1000
    expiresAt := 2000
    cipher := cipherNone
    signature := Base64.encode recordedSignature }

def recordedBundle : Bytes :=
  marshal Wrapper.codec
    ⟨recordedHeader, Base64.encode (marshalCanonicalPayload recordedPayload)⟩

def recordedCalls : Suite :=
  recordedSuite recordedKey
    [(recordedKey.val,
        (Base64.decode (lit "E545QOZLVJFyIIjZoNdBYo_IJuCUddNBp4Cs3jxLgHA")).getD []),
      (otherKey.val, (Base64.decode (lit "NHUPmL1Z_PyUbaRaqr6TO-FUpLUJThxKv0KGZQXzyX4")).getD []),
      (recordedBundle, (Base64.decode (lit "oQWT75w9udQQT0HFdEw-TRGTvW2_1O5mzuWKWwVl3Ac")).getD [])]
    [(signedBytes recordedHeader (marshalCanonicalPayload recordedPayload), recordedSignature)]

/-- The templates on record splice fields and no more. -/
def plainEngine : TextTemplate.Engine Profile := profileEngine fun _ _ => .error .parse

/-- The bundle on record is accepted. -/
theorem recordedBundle_accepted :
    Accepted recordedCalls plainEngine recordedBundle recordedKey none 1500
      ⟨recordedHeader, Base64.encode (marshalCanonicalPayload recordedPayload)⟩
      (marshalCanonicalPayload recordedPayload) recordedSignature
      (marshalCanonicalPayload recordedPayload) recordedPayload := by
  refine accepted_of_signed recordedCalls rfl (by decide) ?_ ?_ (.inl ⟨rfl, rfl⟩)
    (by decide +kernel) (validatePayloadStrict_issues.mp (by decide +kernel))
  · have clean : headerIssues recordedHeader (ed25519KeyID recordedCalls recordedKey) 1500 (some [])
        (some []) = [] := by decide +kernel
    exact (headerIssues_eq_nil.mp clean).1
  · simp [recordedCalls, recordedSuite, List.lookup]

/-! ## Soundness -/

/-- What a bundle stands for once it has been accepted with a payload. -/
structure SoundBundle (suite : Suite) (engine : TextTemplate.Engine Profile) (bundleBytes : Bytes)
    (trustedSigner : PublicKey) (ageIdentity : Option suite.Identity) (now : Int64)
    (header : BundleHeader) (payload : BundlePayload) : Prop where
  magic : header.magic = lit "SNB1"
  publisher : header.publisherKeyID = ed25519KeyID suite trustedSigner
  notFuture : header.createdAt.toInt ≤ now.toInt + 600
  ordered : header.createdAt ≤ header.expiresAt
  unexpired : now ≤ header.expiresAt
  /-- The signature, the plaintext, and the payload as decoded, before its tags are sorted. -/
  contents : ∃ wrapper ciphertext signature text decoded,
    decodeStrict Wrapper.codec {} bundleBytes = some wrapper ∧ wrapper.header = header ∧
    Base64.decode wrapper.ciphertext = some ciphertext ∧
    Base64.decode header.signature = some signature ∧
    suite.verify trustedSigner
      (marshal BundleHeader.codec { header with signature := [] } ++ ciphertext) signature = true ∧
    Opens suite header ciphertext ageIdentity text ∧
    decodeStrict BundlePayload.codec {} text = some decoded ∧
    marshalCanonicalPayload decoded = text ∧ payload = decoded.sortTags
  schemaVersion : payload.schemaVersion = 1
  issuer : payload.notes.find? (lit "issuer_key_id") = some header.publisherKeyID
  publishers : ∀ p ∈ payload.profiles.getD [], p.source.publisherKey = header.publisherKeyID
  distinctIDs : (payload.profiles.getD []).Pairwise fun p q => p.id ≠ q.id
  distinctEndpoints : (payload.profiles.getD []).Pairwise fun p q =>
    ¬ (p.family = q.family ∧ p.endpoint.host = q.endpoint.host ∧ p.endpoint.port = q.endpoint.port)
  live : ∀ p ∈ payload.profiles.getD [], p.expiresAt = 0 ∨ now < p.expiresAt
  templates : ∀ p ∈ payload.profiles.getD [], ∃ template,
    payload.templates.find? (templateKey p) = some template ∧
      TemplateOk engine (payload.profiles.getD []) (templateKey p) template

theorem BundlePayload.sortTags_profiles (payload : BundlePayload) :
    payload.sortTags.profiles.getD [] = (payload.profiles.getD []).map Profile.sortTags := by
  unfold BundlePayload.sortTags
  cases payload.profiles <;> rfl

/-- Soundness of the verifier: a payload is returned only for a bundle that is what it should be. -/
theorem verifyBundle_sound {suite : Suite} {engine : TextTemplate.Engine Profile} {bundleBytes : Bytes}
    {trustedSigner : PublicKey} {opts : VerifyOptions suite} {clock : Int64} {res : VerifyResult}
    {payload : BundlePayload} (timed : opts.nowUnix ≠ 0)
    (accepted : verifyBundle suite engine bundleBytes trustedSigner opts clock = (some res, none))
    (returned : res.payload = some payload) :
    SoundBundle suite engine bundleBytes trustedSigner opts.ageIdentity opts.nowUnix res.header
      payload := by
  obtain ⟨wrapper, ciphertext, signature, text, decoded, passed, rfl, rfl⟩ :=
    (verifyBundle_eq_payload suite).mp ⟨accepted, returned⟩
  have now : opts.now clock = opts.nowUnix := if_neg timed
  rw [now] at passed
  obtain ⟨parses, header, signed, opens, reads, canonical, ok⟩ := passed
  have profile (p : Profile) (member : p ∈ decoded.sortTags.profiles.getD []) :
      ∃ raw ∈ decoded.profiles.getD [], raw.sortTags = p := by
    rw [BundlePayload.sortTags_profiles] at member
    exact List.mem_map.mp member
  refine ⟨header.magic, header.publisher.2, toInt_le_add header.createdAt (by decide)
    header.notFuture, header.ordered, header.unexpired,
    ⟨wrapper, ciphertext, signature, text, decoded, parses, rfl, signed.decodes, signed.carries,
      signed.verifies, opens, reads, canonical, rfl⟩, ok.schemaVersion, ok.issuer.2, ?_, ?_, ?_, ?_,
    ?_⟩
  · intro p member
    obtain ⟨raw, inside, rfl⟩ := profile p member
    exact (ok.profiles raw inside).publisher.2
  · rw [BundlePayload.sortTags_profiles, List.pairwise_map]
    exact List.pairwise_map.mp ok.distinctIDs
  · rw [BundlePayload.sortTags_profiles, List.pairwise_map]
    refine (List.pairwise_map.mp ok.distinctEndpoints).imp fun differ same => differ ?_
    obtain ⟨family, host, port⟩ := same
    rw [endpointKey, endpointKey]
    congr 1
    exact congrArg₂ (fun host port => 0x7C :: (host ++ 0x7C :: itoa (Int64.toInt port))) host port
  · intro p member
    obtain ⟨raw, inside, rfl⟩ := profile p member
    exact or_iff_not_imp_left.mpr (ok.profiles raw inside).unexpired
  · intro p member
    obtain ⟨raw, inside, rfl⟩ := profile p member
    obtain ⟨template, found⟩ := Option.isSome_iff_exists.mp (ok.complete raw inside)
    rw [BundlePayload.sortTags_profiles]
    exact ⟨template, found, ok.templates _ _ found⟩

/-- All that acceptance promises of the bundle on record. -/
theorem recordedBundle_sound :
    SoundBundle recordedCalls plainEngine recordedBundle recordedKey none 1500 recordedHeader
      recordedPayload.sortTags := by
  obtain ⟨accepted, returned⟩ := (@verifyBundle_eq_payload recordedCalls plainEngine recordedBundle
    recordedKey ⟨1500, none, true⟩ 0 _ _).mpr ⟨_, _, _, _, _, recordedBundle_accepted, rfl, rfl⟩
  exact verifyBundle_sound (by decide) accepted returned

end ShadowNet
