import ShadowNet.Go.Result
import ShadowNet.Go.Unicode
import ShadowNet.Profile.Types

/-! # Normalizing profiles for distribution

`normalizeForWire` in two halves around the one statement that other code sees: it sorts the tag
array in place, and the caller's profile shares that array. The halves are idempotent apart from
the tags, which are sorted before they are trimmed and lower-cased.
-/

namespace ShadowNet

open Go

/-- `^[a-z0-9][a-z0-9._-]{0,127}$`. -/
def profileIDPattern (id : GoString) : Bool :=
  let start (byte : UInt8) := isLowerLetter byte || isDigit byte
  match id with
  | [] => false
  | first :: rest =>
      start first && rest.length ≤ 127 &&
        rest.all fun byte => start byte || byte = 0x2E || byte = 0x5F || byte = 0x2D

/-- `^[a-z0-9_]{1,64}$`. -/
def tagPattern (tag : GoString) : Bool :=
  tag ≠ [] && tag.length ≤ 64 &&
    tag.all fun byte => isLowerLetter byte || isDigit byte || byte = 0x5F

def normalizeFamily (f : Family) : Except String Family :=
  let s := trimSpace (toLower f)
  if s = familyReality then .ok familyReality
  else if s = lit "hy2" ∨ s = familyHysteria2 then .ok familyHysteria2
  else if s = familyTUIC then .ok familyTUIC
  else if s = familyShadowTLS then .ok familyShadowTLS
  else if s = familyDNS then .ok familyDNS
  else .error "unsupported family"

def validateTransport (fam : Family) (transport : GoString) : Except String Unit :=
  if fam = familyReality ∨ fam = familyShadowTLS then
    require (transport = lit "tcp") "invalid transport for family"
  else if fam = familyHysteria2 ∨ fam = familyTUIC then
    require (transport = lit "udp" ∨ transport = lit "quic") "invalid transport for family"
  else if fam = familyDNS then
    require (transport = lit "udp" ∨ transport = lit "tcp") "invalid transport for family"
  else .error "unsupported family"

/-- One round of the loop of `uniqueSortedTags`. -/
def pushTag (out : List GoString) (tag : GoString) : List GoString :=
  let t := toLower (trimSpace tag)
  if t = [] then out else if out.getLast? = some t then out else out ++ [t]

/-- Tags trimmed and lower-cased, without empty ones and without equal neighbours. -/
def uniqueSortedTags (tags : Option (List GoString)) : Option (List GoString) :=
  let out := (tags.getD []).foldl pushTag []
  if out = [] then none else some out

def validateCredentials (p : Profile) : Except String Unit :=
  let c := p.credentials
  if p.family = familyReality then do
    require (isBlank c.uuid = false) "missing credentials.uuid"
    require (isBlank c.publicKey = false) "missing credentials.public_key"
    require (isBlank c.shortID = false) "missing credentials.short_id"
    require (isBlank c.sni = false) "missing credentials.sni"
    require (isBlank c.utlsFingerprint = false) "missing credentials.utls_fingerprint"
  else if p.family = familyHysteria2 then do
    require (isBlank c.password = false) "missing credentials.password"
    require (isBlank c.obfsPassword = false) "missing credentials.obfs_password"
    require (isBlank c.sni = false) "missing credentials.sni"
  else if p.family = familyTUIC then do
    require (isBlank c.uuid = false) "missing credentials.uuid"
    require (isBlank c.password = false) "missing credentials.password"
    require (isBlank c.sni = false) "missing credentials.sni"
  else if p.family = familyShadowTLS ∨ p.family = familyDNS then .ok ()
  else .error "unsupported family"

def defaultIPVersion (version : GoString) : GoString :=
  if version = [] then lit "dual" else version

/-- The part of `normalizeForWire` before the tags. -/
def normalizeShape (p : Profile) : Except String Profile := do
  let id := trimSpace (toLower p.id)
  require (id ≠ []) "missing id"
  require (profileIDPattern id = true) "invalid id"
  let family ← normalizeFamily p.family
  let host := toLower (trimSpace p.endpoint.host)
  require (host ≠ []) "missing endpoint.host"
  require (0 < p.endpoint.port ∧ p.endpoint.port ≤ 65535) "invalid endpoint.port"
  let ipVersion := defaultIPVersion (toLower (trimSpace p.endpoint.ipVersion))
  require (ipVersion ∈ [lit "v4", lit "v6", lit "dual"]) "invalid endpoint.ip_version"
  let templateRef := trimSpace p.templateRef
  require (contains templateRef (lit "..") = false) "invalid template_ref"
  require (0x2F ∉ templateRef ∧ 0x5C ∉ templateRef) "invalid template_ref"
  let transport := trimSpace (toLower p.capabilities.transport)
  require (transport ≠ []) "missing capabilities.transport"
  validateTransport family transport
  let bandwidthClass := toLower (trimSpace p.capabilities.bandwidthClass)
  require (bandwidthClass ∈ [[], lit "low", lit "medium", lit "high"])
    "invalid capabilities.bandwidth_class"
  return { p with
    id, family, templateRef
    endpoint := { p.endpoint with host, ipVersion }
    capabilities := { p.capabilities with transport, bandwidthClass } }

/-- A time that has not been set is now. -/
def orNow (time nowUnix : Int64) : Int64 := if time = 0 then nowUnix else time

/-- The part of `normalizeForWire` from the tags on; they come in sorted. -/
def normalizeRest (p : Profile) (nowUnix : Int64) : Except String Profile := do
  let tags := uniqueSortedTags p.capabilities.dpiResistanceTags
  require (∀ tag ∈ tags.getD [], tagPattern tag = true) "invalid capabilities.dpi_resistance_tags"
  let source := trimSpace p.source.source
  require (source ≠ []) "missing source.source"
  require (0 < p.source.trustLevel ∧ p.source.trustLevel ≤ 100) "invalid source.trust_level"
  let importedAt := orNow p.source.importedAt nowUnix
  require (0 ≤ importedAt) "invalid source.imported_at"
  validateCredentials p
  let createdAt := orNow p.createdAt nowUnix
  require (0 ≤ createdAt) "invalid created_at"
  require (p.expiresAt ≠ 0 → nowUnix < p.expiresAt) "expired profile"
  require (p.expiresAt ≠ 0 → createdAt ≤ p.expiresAt) "invalid expires_at"
  require (-100 ≤ p.priority ∧ p.priority ≤ 100) "invalid priority"
  return { p with
    capabilities := { p.capabilities with dpiResistanceTags := tags }
    source := { p.source with source, importedAt }
    enabled := true
    manualDisabled := false
    health := {}
    createdAt
    notes := trimSpace p.notes }

/-- `sort.Strings`. -/
def sortStrings (strings : List GoString) : List GoString := strings.insertionSort (· ≤ ·)

def Profile.sortTags (p : Profile) : Profile :=
  { p with capabilities :=
    { p.capabilities with dpiResistanceTags := p.capabilities.dpiResistanceTags.map sortStrings } }

/-- The caller's profile afterwards, with the tag array that the call sorts in place, and the
result. -/
def normalizeForWire (p : Profile) (nowUnix : Int64) : Profile × Except String Profile :=
  match normalizeShape p with
  | .error text => (p, .error text)
  | .ok shaped => (p.sortTags, normalizeRest shaped.sortTags nowUnix)

/-! ## What a normalized profile looks like -/

/-- The profile `normalizeShape` returns when all checks pass. -/
def Profile.shaped (p : Profile) (family : Family) : Profile :=
  { p with
    id := trimSpace (toLower p.id)
    family
    templateRef := trimSpace p.templateRef
    endpoint := { p.endpoint with
      host := toLower (trimSpace p.endpoint.host)
      ipVersion := defaultIPVersion (toLower (trimSpace p.endpoint.ipVersion)) }
    capabilities := { p.capabilities with
      transport := trimSpace (toLower p.capabilities.transport)
      bandwidthClass := toLower (trimSpace p.capabilities.bandwidthClass) } }

/-- The checks of `normalizeShape`, on the profile it returns. -/
structure WellShaped (p : Profile) : Prop where
  id : profileIDPattern p.id = true
  host : p.endpoint.host ≠ []
  port : 0 < p.endpoint.port ∧ p.endpoint.port ≤ 65535
  ipVersion : p.endpoint.ipVersion ∈ [lit "v4", lit "v6", lit "dual"]
  templateDots : contains p.templateRef (lit "..") = false
  templateSlashes : 0x2F ∉ p.templateRef ∧ 0x5C ∉ p.templateRef
  transport : p.capabilities.transport ≠ []
  carries : validateTransport p.family p.capabilities.transport = .ok ()
  bandwidthClass : p.capabilities.bandwidthClass ∈ [[], lit "low", lit "medium", lit "high"]

theorem sortStrings_sortStrings (strings : List GoString) :
    sortStrings (sortStrings strings) = sortStrings strings :=
  (List.pairwise_insertionSort (· ≤ ·) strings).insertionSort_eq

theorem Profile.sortTags_sortTags (p : Profile) : p.sortTags.sortTags = p.sortTags := by
  simp only [Profile.sortTags, Option.map_map, Function.comp_def, sortStrings_sortStrings]

theorem profileIDPattern_ne_nil {id : GoString} (matched : profileIDPattern id = true) : id ≠ [] := by
  rintro rfl
  exact absurd matched (by decide)

-- Comparing a check with its restatement must not unfold the string functions.
attribute [local irreducible] trimSpace toLower contains

theorem normalizeShape_eq_ok {p q : Profile} : normalizeShape p = .ok q ↔
    ∃ family, normalizeFamily p.family = .ok family ∧ WellShaped (p.shaped family) ∧
      q = p.shaped family := by
  unfold normalizeShape
  simp only [bind_eq_ok, require_eq_ok, exists_const, pure_eq_ok]
  constructor
  · rintro ⟨-, id, family, known, host, port, version, dots, slashes, transport, ⟨⟩, carries,
      bandwidth, rfl⟩
    exact ⟨family, known, ⟨id, host, port, version, dots, slashes, transport, carries, bandwidth⟩,
      rfl⟩
  · rintro ⟨family, known, shape, rfl⟩
    exact ⟨profileIDPattern_ne_nil shape.id, shape.id, family, known, shape.host, shape.port,
      shape.ipVersion, shape.templateDots, shape.templateSlashes, shape.transport, (), shape.carries,
      shape.bandwidthClass, rfl⟩

/-- The profile `normalizeRest` returns when all checks pass. -/
def Profile.completed (p : Profile) (nowUnix : Int64) : Profile :=
  { p with
    capabilities := { p.capabilities with
      dpiResistanceTags := uniqueSortedTags p.capabilities.dpiResistanceTags }
    source := { p.source with
      source := trimSpace p.source.source
      importedAt := orNow p.source.importedAt nowUnix }
    enabled := true
    manualDisabled := false
    health := {}
    createdAt := orNow p.createdAt nowUnix
    notes := trimSpace p.notes }

/-- The checks of `normalizeRest`, on the profile it returns. -/
structure Complete (p : Profile) (nowUnix : Int64) : Prop where
  tags : ∀ tag ∈ p.capabilities.dpiResistanceTags.getD [], tagPattern tag = true
  source : p.source.source ≠ []
  trustLevel : 0 < p.source.trustLevel ∧ p.source.trustLevel ≤ 100
  importedAt : 0 ≤ p.source.importedAt
  credentials : validateCredentials p = .ok ()
  createdAt : 0 ≤ p.createdAt
  unexpired : p.expiresAt ≠ 0 → nowUnix < p.expiresAt
  ordered : p.expiresAt ≠ 0 → p.createdAt ≤ p.expiresAt
  priority : -100 ≤ p.priority ∧ p.priority ≤ 100

theorem normalizeRest_eq_ok {p q : Profile} {nowUnix : Int64} :
    normalizeRest p nowUnix = .ok q ↔
      Complete (p.completed nowUnix) nowUnix ∧ q = p.completed nowUnix := by
  unfold normalizeRest
  simp only [bind_eq_ok, require_eq_ok, exists_const, pure_eq_ok]
  constructor
  · rintro ⟨tags, source, trust, imported, ⟨⟩, credentials, created, unexpired, ordered, priority, rfl⟩
    exact ⟨⟨tags, source, trust, imported, credentials, created, unexpired, ordered, priority⟩, rfl⟩
  · rintro ⟨complete, rfl⟩
    exact ⟨complete.tags, complete.source, complete.trustLevel, complete.importedAt, (),
      complete.credentials, complete.createdAt, complete.unexpired, complete.ordered,
      complete.priority, rfl⟩

/-- A profile normalizes exactly when its family is known and the profile put together passes every
check. -/
theorem normalizeForWire_eq_ok {p q : Profile} {nowUnix : Int64} :
    (normalizeForWire p nowUnix).2 = .ok q ↔
      ∃ family, normalizeFamily p.family = .ok family ∧ WellShaped (p.shaped family) ∧
        Complete ((p.shaped family).sortTags.completed nowUnix) nowUnix ∧
        q = (p.shaped family).sortTags.completed nowUnix := by
  unfold normalizeForWire
  cases shape : normalizeShape p with
  | error text =>
    apply iff_of_false (by simp)
    rintro ⟨family, known, well, -⟩
    rw [normalizeShape_eq_ok.mpr ⟨family, known, well, rfl⟩] at shape
    cases shape
  | ok shaped =>
    obtain ⟨family, known, well, rfl⟩ := normalizeShape_eq_ok.mp shape
    rw [normalizeRest_eq_ok]
    constructor
    · rintro ⟨complete, rfl⟩
      exact ⟨family, known, well, complete, rfl⟩
    · rintro ⟨other, same, -, complete, rfl⟩
      cases known.symm.trans same
      exact ⟨complete, rfl⟩

/-- A call that returns a profile has sorted the caller's tags. -/
theorem normalizeForWire_sorts {p q : Profile} {nowUnix : Int64}
    (normalized : (normalizeForWire p nowUnix).2 = .ok q) :
    (normalizeForWire p nowUnix).1 = p.sortTags := by
  unfold normalizeForWire at normalized ⊢
  split at normalized
  · cases normalized
  · rfl

/-! ## Tags -/

private theorem folded_of_tag {tag : GoString} (matched : tagPattern tag = true) :
    tag ≠ [] ∧ toLower (trimSpace tag) = tag := by
  simp only [tagPattern, Bool.and_eq_true, decide_eq_true_eq, List.all_eq_true, Bool.or_eq_true,
    isLowerLetter, isDigit] at matched
  have folded : ∀ byte ∈ tag, isFolded byte = true := by
    intro byte member
    have kind := matched.2 byte member
    simp only [isFolded, isVisible, Bool.and_eq_true, Bool.not_eq_true', decide_eq_true_eq,
      Bool.and_eq_false_iff, decide_eq_false_iff_not]
    obtain (letter | digit) | rfl := kind
    · omega
    · omega
    · decide
  exact ⟨matched.1.1, by rw [trimSpace_folded folded, toLower_folded folded]⟩

private theorem foldl_pushTag_mem {tags out : List GoString} {tag : GoString}
    (member : tag ∈ tags.foldl pushTag out) :
    tag ∈ out ∨ ∃ raw ∈ tags, toLower (trimSpace raw) = tag := by
  induction tags generalizing out with
  | nil => exact .inl member
  | cons head rest ih =>
    obtain held | ⟨raw, inside, same⟩ := ih member
    · simp only [pushTag] at held
      split_ifs at held
      · exact .inl held
      · exact .inl held
      · obtain before | here := List.mem_append.mp held
        · exact .inl before
        · exact .inr ⟨head, List.mem_cons_self .., (List.mem_singleton.mp here).symm⟩
    · exact .inr ⟨raw, List.mem_cons_of_mem _ inside, same⟩

theorem uniqueSortedTags_ne_empty (tags : Option (List GoString)) :
    uniqueSortedTags tags ≠ some [] := by
  simp only [uniqueSortedTags]
  split_ifs with empty
  · exact nofun
  · exact fun same => empty (Option.some.inj same)

theorem mem_uniqueSortedTags {tags : Option (List GoString)} {tag : GoString}
    (member : tag ∈ (uniqueSortedTags tags).getD []) :
    ∃ raw ∈ tags.getD [], toLower (trimSpace raw) = tag := by
  simp only [uniqueSortedTags] at member
  split_ifs at member
  · cases member
  · exact (foldl_pushTag_mem member).resolve_left (by simp)

private theorem foldl_pushTag_increasing {tags : List GoString} (out : List GoString)
    (matched : ∀ tag ∈ tags, tagPattern tag = true)
    (increasing : (out ++ tags).Pairwise (· < ·)) : tags.foldl pushTag out = out ++ tags := by
  induction tags generalizing out with
  | nil => simp
  | cons tag rest ih =>
    obtain ⟨own, below⟩ := List.forall_mem_cons.mp matched
    obtain ⟨nonempty, same⟩ := folded_of_tag own
    have fresh : out.getLast? ≠ some tag := by
      intro last
      have member := List.mem_of_getLast? last
      exact lt_irrefl _ ((List.pairwise_append.mp increasing).2.2 tag member tag
        (List.mem_cons_self ..))
    have pushed : pushTag out tag = out ++ [tag] := by
      rw [pushTag, same, if_neg nonempty, if_neg fresh]
    rw [List.foldl_cons, pushed, ih _ below (by simpa using increasing)]
    simp

/-- A tag as it stands in a normalized profile. -/
def foldTag (tag : GoString) : GoString := toLower (trimSpace tag)

/-- The tags of a list that are not blank, folded. -/
def foldedTags (tags : List GoString) : List GoString := (tags.map foldTag).filter (· ≠ [])

/-- Folding keeps the order of the tags that are not blank. -/
def Profile.KeepsTagOrder (p : Profile) : Prop :=
  ∀ a ∈ p.capabilities.dpiResistanceTags.getD [], ∀ b ∈ p.capabilities.dpiResistanceTags.getD [],
    a ≤ b → foldTag a ≠ [] → foldTag b ≠ [] → foldTag a ≤ foldTag b

private theorem pushTag_extends (out : List GoString) (tag : GoString) : out <+: pushTag out tag := by
  rw [pushTag]
  split_ifs
  · exact List.prefix_rfl
  · exact List.prefix_rfl
  · exact List.prefix_append ..

private theorem foldl_pushTag_extends (tags out : List GoString) : out <+: tags.foldl pushTag out := by
  induction tags generalizing out with
  | nil => exact List.prefix_rfl
  | cons tag rest ih => exact (pushTag_extends out tag).trans (ih _)

/-- The loop drops equal neighbours, so its tags increase exactly if the folded ones never fall. -/
theorem foldl_pushTag_isChain (tags : List GoString) {out : List GoString}
    (increasing : out.IsChain (· < ·)) :
    (tags.foldl pushTag out).IsChain (· < ·) ↔ (out ++ foldedTags tags).IsChain (· ≤ ·) := by
  induction tags generalizing out with
  | nil =>
    apply iff_of_true increasing
    rw [foldedTags, List.map_nil, List.filter_nil, List.append_nil]
    exact increasing.imp fun _ _ => le_of_lt
  | cons tag rest ih =>
    rw [List.foldl_cons]
    by_cases blank : foldTag tag = []
    · have skipped : pushTag out tag = out := if_pos blank
      have dropped : foldedTags (tag :: rest) = foldedTags rest := by simp [foldedTags, blank]
      rw [skipped, dropped]
      exact ih increasing
    have kept : foldedTags (tag :: rest) = foldTag tag :: foldedTags rest := by
      simp [foldedTags, blank]
    rw [kept]
    by_cases same : out.getLast? = some (foldTag tag)
    · have skipped : pushTag out tag = out := by
        rw [pushTag]
        exact (if_neg blank).trans (if_pos same)
      rw [skipped, ih increasing, List.isChain_append, List.isChain_append, List.isChain_cons, same]
      constructor
      · rintro ⟨before, after, next⟩
        exact ⟨before, ⟨next _ rfl, after⟩, by simp⟩
      · rintro ⟨before, ⟨next, after⟩, -⟩
        refine ⟨before, after, fun last held => ?_⟩
        cases held
        exact next
    · have pushed : pushTag out tag = out ++ [foldTag tag] := by
        rw [pushTag]
        exact (if_neg blank).trans (if_neg same)
      rw [pushed]
      by_cases above : ∀ last ∈ out.getLast?, last < foldTag tag
      · have longer : (out ++ [foldTag tag]).IsChain (· < ·) := by
          apply increasing.append (List.isChain_singleton _)
          intro last held first head
          obtain rfl : foldTag tag = first := by simpa using head
          exact above last held
        rw [ih longer, List.append_assoc, List.singleton_append]
      · refine iff_of_false (fun chain => above fun last held => ?_) fun chain => above fun last held => ?_
        · obtain ⟨later, whole⟩ := foldl_pushTag_extends rest (out ++ [foldTag tag])
          rw [← whole] at chain
          have front := (List.isChain_append.mp chain).1
          exact (List.isChain_append.mp front).2.2 last held _ rfl
        · have below := (List.isChain_append.mp chain).2.2 last held _ rfl
          refine lt_of_le_of_ne below fun equal => same ?_
          rw [← equal]
          exact held

private theorem pairwise_iff_mem {R : GoString → GoString → Prop} {l : List GoString} (self : ∀ a, R a a)
    (sorted : l.Pairwise (· ≤ ·)) :
    l.Pairwise R ↔ ∀ a ∈ l, ∀ b ∈ l, a ≤ b → R a b := by
  constructor
  · intro ordered
    induction l with
    | nil => exact nofun
    | cons head rest ih =>
      obtain ⟨least, sorted⟩ := List.pairwise_cons.mp sorted
      obtain ⟨first, ordered⟩ := List.pairwise_cons.mp ordered
      intro a inside b other below
      obtain here | inside := List.mem_cons.mp inside
      · obtain there | other := List.mem_cons.mp other
        · rw [here, there]
          exact self head
        · rw [here]
          exact first b other
      · obtain there | other := List.mem_cons.mp other
        · rw [le_antisymm below (there ▸ least a inside)]
          exact self b
        · exact ih sorted ordered a inside b other below
  · intro all
    exact sorted.imp_of_mem fun inside other below => all _ inside _ other below

theorem uniqueSortedTags_getD (tags : Option (List GoString)) :
    (uniqueSortedTags tags).getD [] = (tags.getD []).foldl pushTag [] := by
  simp only [uniqueSortedTags]
  split_ifs with empty
  · exact empty.symm
  · rfl

theorem sortTags_getD (p : Profile) :
    p.sortTags.capabilities.dpiResistanceTags.getD [] =
      sortStrings (p.capabilities.dpiResistanceTags.getD []) := by
  change (p.capabilities.dpiResistanceTags.map sortStrings).getD [] = _
  cases p.capabilities.dpiResistanceTags <;> rfl

/-- Normalized tags increase strictly exactly where folding keeps their order. -/
theorem uniqueSortedTags_increasing_iff (p : Profile) :
    ((uniqueSortedTags p.sortTags.capabilities.dpiResistanceTags).getD []).Pairwise (· < ·) ↔
      p.KeepsTagOrder := by
  have sorted : (sortStrings (p.capabilities.dpiResistanceTags.getD [])).Pairwise (· ≤ ·) :=
    List.pairwise_insertionSort _ _
  have kept (tag : GoString) := (List.perm_insertionSort (· ≤ ·)
    (p.capabilities.dpiResistanceTags.getD [])).mem_iff (a := tag)
  rw [uniqueSortedTags_getD, sortTags_getD, ← List.isChain_iff_pairwise,
    foldl_pushTag_isChain _ .nil, List.nil_append, List.isChain_iff_pairwise, foldedTags,
    List.pairwise_filter, List.pairwise_map, pairwise_iff_mem (fun _ _ _ => le_rfl) sorted]
  simp only [sortStrings, kept, decide_eq_true_eq, Profile.KeepsTagOrder]

/-! ## Normalizing again -/

/-- The profile with its tags sorted and thinned out once more. -/
def Profile.retagged (p : Profile) : Profile :=
  { p with capabilities := { p.capabilities with
    dpiResistanceTags := uniqueSortedTags p.sortTags.capabilities.dpiResistanceTags } }

/-- A profile that normalization could change in its tags only. -/
structure Normal (p : Profile) (nowUnix : Int64) : Prop where
  known : normalizeFamily p.family = .ok p.family
  shape : WellShaped p
  folded : p.shaped p.family = p
  complete : Complete p nowUnix
  settled : p.sortTags.completed nowUnix = p.retagged
  tags : p.capabilities.dpiResistanceTags ≠ some []

theorem normalizeFamily_idem {f family : Family} (known : normalizeFamily f = .ok family) :
    normalizeFamily family = .ok family := by
  simp only [normalizeFamily] at known
  split_ifs at known <;> cases known <;> decide +kernel

private theorem fold_fold (s : GoString) :
    trimSpace (toLower (trimSpace (toLower s))) = trimSpace (toLower s) := by
  simp only [trimSpace_toLower, trimSpace_trimSpace, toLower_toLower]

private theorem fold_fold' (s : GoString) :
    toLower (trimSpace (toLower (trimSpace s))) = toLower (trimSpace s) := by
  simp only [trimSpace_toLower, trimSpace_trimSpace, toLower_toLower]

private theorem ipVersion_fold (s : GoString) :
    defaultIPVersion (toLower (trimSpace (defaultIPVersion (toLower (trimSpace s))))) =
      defaultIPVersion (toLower (trimSpace s)) := by
  by_cases empty : toLower (trimSpace s) = []
  · rw [empty]
    decide +kernel
  · have kept : defaultIPVersion (toLower (trimSpace s)) = toLower (trimSpace s) := if_neg empty
    rw [kept, fold_fold', kept]

theorem orNow_orNow (time nowUnix : Int64) :
    orNow (orNow time nowUnix) nowUnix = orNow time nowUnix := by
  unfold orNow
  split_ifs <;> rfl

/-- What normalization returns is normal. -/
theorem normal_of_normalize {p q : Profile} {nowUnix : Int64}
    (normalized : (normalizeForWire p nowUnix).2 = .ok q) : Normal q nowUnix := by
  obtain ⟨family, known, shape, complete, rfl⟩ := normalizeForWire_eq_ok.mp normalized
  refine ⟨normalizeFamily_idem known, ⟨shape.id, shape.host, shape.port, shape.ipVersion,
    shape.templateDots, shape.templateSlashes, shape.transport, shape.carries,
    shape.bandwidthClass⟩, ?_, complete, ?_, uniqueSortedTags_ne_empty _⟩
  · simp only [Profile.shaped, Profile.completed, Profile.sortTags, fold_fold, fold_fold',
      ipVersion_fold, trimSpace_trimSpace]
  · simp only [Profile.completed, Profile.sortTags, Profile.retagged, trimSpace_trimSpace, orNow_orNow]

theorem retagged_complete {p : Profile} {nowUnix : Int64} (complete : Complete p nowUnix) :
    Complete p.retagged nowUnix := by
  refine ⟨?_, complete.source, complete.trustLevel, complete.importedAt, complete.credentials,
    complete.createdAt, complete.unexpired, complete.ordered, complete.priority⟩
  intro tag member
  obtain ⟨raw, inside, rfl⟩ := mem_uniqueSortedTags member
  have matched : tagPattern raw = true := by
    apply complete.tags raw
    change raw ∈ (p.capabilities.dpiResistanceTags.map sortStrings).getD [] at inside
    cases tags : p.capabilities.dpiResistanceTags with
    | none => rw [tags] at inside; cases inside
    | some held =>
      rw [tags] at inside
      exact (List.perm_insertionSort (· ≤ ·) held).mem_iff.mp inside
  rw [(folded_of_tag matched).2]
  exact matched

/-- Normalizing a normal profile can only fail to be the identity on its tags. -/
theorem normalizeForWire_normal {p : Profile} {nowUnix : Int64} (normal : Normal p nowUnix) :
    normalizeForWire p nowUnix = (p.sortTags, .ok p.retagged) := by
  have again : (normalizeForWire p nowUnix).2 = .ok p.retagged := by
    refine normalizeForWire_eq_ok.mpr ⟨p.family, normal.known, ?_, ?_, ?_⟩ <;>
      rw [normal.folded]
    · exact normal.shape
    · rw [normal.settled]
      exact retagged_complete normal.complete
    · exact normal.settled.symm
  exact Prod.ext (normalizeForWire_sorts again) again

theorem Normal.matched {p : Profile} {nowUnix : Int64} (normal : Normal p nowUnix) {tag : GoString}
    (member : tag ∈ p.capabilities.dpiResistanceTags.getD []) : foldTag tag = tag :=
  (folded_of_tag (normal.complete.tags tag member)).2

/-- Folding does nothing to the tags of a normal profile, so normalizing again puts them in order. -/
theorem Normal.retagged_increasing {p : Profile} {nowUnix : Int64} (normal : Normal p nowUnix) :
    (p.retagged.capabilities.dpiResistanceTags.getD []).Pairwise (· < ·) := by
  apply (uniqueSortedTags_increasing_iff p).mpr
  intro a inside b other below _ _
  rw [normal.matched inside, normal.matched other]
  exact below

/-- Sorting the tags does nothing exactly if they are sorted. -/
theorem sortTags_eq_self {p : Profile} :
    p.sortTags = p ↔ (p.capabilities.dpiResistanceTags.getD []).Pairwise (· ≤ ·) := by
  constructor
  · intro same
    rw [← same, sortTags_getD]
    exact List.pairwise_insertionSort _ _
  · intro sorted
    have kept : p.capabilities.dpiResistanceTags.map sortStrings =
        p.capabilities.dpiResistanceTags := by
      cases held : p.capabilities.dpiResistanceTags with
      | none => rfl
      | some tags =>
        rw [held] at sorted
        exact congrArg some sorted.insertionSort_eq
    rw [Profile.sortTags, kept]

theorem Normal.retagged_of_increasing {p : Profile} {nowUnix : Int64} (normal : Normal p nowUnix)
    (increasing : (p.capabilities.dpiResistanceTags.getD []).Pairwise (· < ·)) : p.retagged = p := by
  have kept : uniqueSortedTags p.capabilities.dpiResistanceTags =
      p.capabilities.dpiResistanceTags := by
    have matched := normal.complete.tags
    have nonempty := normal.tags
    cases held : p.capabilities.dpiResistanceTags with
    | none => rfl
    | some tags =>
      rw [held] at increasing matched nonempty
      rw [Option.getD_some] at increasing matched
      have pushed := foldl_pushTag_increasing [] matched increasing
      rw [uniqueSortedTags, Option.getD_some, pushed, List.nil_append]
      exact if_neg fun empty => nonempty (congrArg some empty)
  rw [Profile.retagged, sortTags_eq_self.mpr (increasing.imp le_of_lt), kept]

/-- Normalizing again leaves a normal profile as it is exactly when its tags increase. -/
theorem Normal.deepEqual_iff {p : Profile} {nowUnix : Int64} (normal : Normal p nowUnix) :
    p.retagged.deepEqual p.sortTags ∧ p.sortTags = p ↔
      (p.capabilities.dpiResistanceTags.getD []).Pairwise (· < ·) := by
  constructor
  · rintro ⟨same, sorted⟩
    have tags : p.retagged.capabilities.dpiResistanceTags = p.capabilities.dpiResistanceTags := by
      rw [sorted] at same
      exact congrArg (·.capabilities.dpiResistanceTags) same
    rw [← tags]
    exact normal.retagged_increasing
  · intro increasing
    have sorted := sortTags_eq_self.mpr (increasing.imp le_of_lt)
    refine ⟨?_, sorted⟩
    rw [normal.retagged_of_increasing increasing, sorted]
    rfl

theorem normalizeFamily_mem {f family : Family} (known : normalizeFamily f = .ok family) :
    family ∈ [familyReality, familyHysteria2, familyTUIC, familyShadowTLS, familyDNS] := by
  simp only [normalizeFamily] at known
  split_ifs at known <;> cases known <;> simp

/-- Normalization keeps strings within UTF-8. -/
theorem Profile.Utf8.normalized {p q : Profile} {nowUnix : Int64} (utf8 : p.Utf8)
    (normalized : (normalizeForWire p nowUnix).2 = .ok q) : q.Utf8 := by
  obtain ⟨family, known, -, -, rfl⟩ := normalizeForWire_eq_ok.mp normalized
  have families : ∀ family ∈ [familyReality, familyHysteria2, familyTUIC, familyShadowTLS,
    familyDNS], Valid family := by decide
  have version (s : GoString) : Valid (defaultIPVersion (toLower s)) := by
    unfold defaultIPVersion
    split_ifs
    · decide
    · exact valid_toLower _
  refine ⟨(valid_toLower _).trimSpace, families family (normalizeFamily_mem known),
    utf8.templateRef.trimSpace, ⟨valid_toLower _, version _⟩,
    ⟨(valid_toLower _).trimSpace, fun tag member => ?_, valid_toLower _⟩, utf8.credentials,
    ⟨utf8.source.source.trimSpace, utf8.source.publisherKey⟩, utf8.notes.trimSpace,
    utf8.mutationPolicy, ⟨rfl⟩⟩
  obtain ⟨raw, -, rfl⟩ := mem_uniqueSortedTags member
  exact valid_toLower _

/-! ## Normalizing twice -/

/-- The tags of a profile are trimmed, lower-case and strictly sorted. -/
structure TagsInOrder (p : Profile) : Prop where
  increasing : (p.capabilities.dpiResistanceTags.getD []).Pairwise (· < ·)
  folded : ∀ tag ∈ p.capabilities.dpiResistanceTags.getD [], trimSpace tag = tag ∧ toLower tag = tag

/-- Normalizing what a normalization returned gives it back, with its tags in order, exactly if
folding keeps the order of the tags that came in. -/
theorem normalizeForWire_twice_iff {p q : Profile} {nowUnix : Int64}
    (normalized : (normalizeForWire p nowUnix).2 = .ok q) :
    (normalizeForWire q nowUnix).2 = .ok q ∧ TagsInOrder q ↔ p.KeepsTagOrder := by
  have normal := normal_of_normalize normalized
  have tags : q.capabilities.dpiResistanceTags =
      uniqueSortedTags p.sortTags.capabilities.dpiResistanceTags := by
    obtain ⟨family, -, -, -, rfl⟩ := normalizeForWire_eq_ok.mp normalized
    rfl
  have again : (normalizeForWire q nowUnix).2 = .ok q.retagged := by
    rw [normalizeForWire_normal normal]
  rw [← uniqueSortedTags_increasing_iff, ← tags]
  constructor
  · exact fun kept => kept.2.increasing
  · intro increasing
    refine ⟨?_, increasing, fun tag member => ?_⟩
    · rw [again, normal.retagged_of_increasing increasing]
    · rw [tags] at member
      obtain ⟨raw, -, rfl⟩ := mem_uniqueSortedTags member
      rw [trimSpace_toLower, trimSpace_trimSpace, toLower_toLower]
      exact ⟨rfl, rfl⟩

/-- A profile of a resolver, with some tags. -/
def taggedProfile (tags : List GoString) : Profile where
  id := lit "dns-1"
  family := familyDNS
  enabled := true
  createdAt := 1
  endpoint := ⟨lit "dns.example", 53, lit "dual"⟩
  capabilities := { transport := lit "udp", dpiResistanceTags := some tags }
  source := { source := lit "file", trustLevel := 50, importedAt := 1 }

theorem taggedProfile_twice :
    (normalizeForWire (taggedProfile [lit "b", lit "a"]) 1).2 =
        .ok (taggedProfile [lit "a", lit "b"]) ∧
      ((normalizeForWire (taggedProfile [lit "a", lit "b"]) 1).2 =
          .ok (taggedProfile [lit "a", lit "b"]) ∧ TagsInOrder (taggedProfile [lit "a", lit "b"]) ↔
        (taggedProfile [lit "b", lit "a"]).KeepsTagOrder) := by
  have normalized : (normalizeForWire (taggedProfile [lit "b", lit "a"]) 1).2 =
      .ok (taggedProfile [lit "a", lit "b"]) := by decide +kernel
  exact ⟨normalized, normalizeForWire_twice_iff normalized⟩

/-- Sorted as they come, `B` stands before `a`; lower-cased, `b` does too. -/
theorem capitalTag_reordered :
    (normalizeForWire (taggedProfile [lit "a", lit "B"]) 1).2 =
        .ok (taggedProfile [lit "b", lit "a"]) ∧
      (normalizeForWire (taggedProfile [lit "b", lit "a"]) 1).2 ≠
        .ok (taggedProfile [lit "b", lit "a"]) ∧
      ¬ TagsInOrder (taggedProfile [lit "b", lit "a"]) := by
  refine ⟨by decide +kernel, by decide +kernel, fun ordered => ?_⟩
  exact absurd ordered.increasing (by decide)

end ShadowNet
