import ShadowNet.Go.Json.Reads

/-! # Profiles and their JSON form

The record types of `pkg/profile`, in the order of their struct fields, with the JSON codecs
that their tags give them. A family is any string until it has been normalized. A profile with
UTF-8 strings is read back from its own encoding, and decoding yields only such profiles.
-/

namespace ShadowNet

open Go Go.Json

abbrev Family := GoString

def familyReality : Family := lit "reality"
def familyHysteria2 : Family := lit "hysteria2"
def familyTUIC : Family := lit "tuic"
def familyShadowTLS : Family := lit "shadowtls"
def familyDNS : Family := lit "dns_tunnel"

structure Endpoint where
  host : GoString := []
  port : Int64 := 0
  ipVersion : GoString := []
deriving DecidableEq, Inhabited

structure Capabilities where
  transport : GoString := []
  dpiResistanceTags : Option (List GoString) := none
  bandwidthClass : GoString := []
deriving DecidableEq, Inhabited

structure Credentials where
  uuid : GoString := []
  password : GoString := []
  publicKey : GoString := []
  shortID : GoString := []
  sni : GoString := []
  utlsFingerprint : GoString := []
  obfsPassword : GoString := []
deriving DecidableEq, Inhabited

structure MutationPolicy where
  allowedSets : Option (List GoString) := none
  maxMutationsPerHour : Int64 := 0
deriving DecidableEq, Inhabited

structure Health where
  score : Float64 := 0
  successEWMA : Float64 := 0
  medianHandshakeMs : Int64 := 0
  lastOkAt : Int64 := 0
  lastFailAt : Int64 := 0
  lastFailReason : GoString := []
  cooldownUntil : Int64 := 0
  failureCount : Int64 := 0
  consecutiveFails : Int64 := 0
deriving DecidableEq, Inhabited

structure SourceInfo where
  source : GoString := []
  trustLevel : Int64 := 0
  importedAt : Int64 := 0
  publisherKey : GoString := []
deriving DecidableEq, Inhabited

/-- A pre-validated outbound template with its metadata. -/
structure Profile where
  id : GoString := []
  family : Family := []
  enabled : Bool := false
  manualDisabled : Bool := false
  createdAt : Int64 := 0
  expiresAt : Int64 := 0
  priority : Int64 := 0
  templateRef : GoString := []
  endpoint : Endpoint := {}
  capabilities : Capabilities := {}
  credentials : Credentials := {}
  source : SourceInfo := {}
  notes : GoString := []
  mutationPolicy : MutationPolicy := {}
  health : Health := {}
deriving DecidableEq, Inhabited

def Profile.dropZeroSigns (p : Profile) : Profile :=
  { p with health :=
    { p.health with
      score := p.health.score.dropZeroSign
      successEWMA := p.health.successEWMA.dropZeroSign } }

/-- `reflect.DeepEqual`; a nil slice differs from an empty one. -/
def Profile.deepEqual (p q : Profile) : Prop := p.dropZeroSigns = q.dropZeroSigns

instance (p q : Profile) : Decidable (p.deepEqual q) := inferInstanceAs (Decidable (_ = _))

/-! ## JSON forms -/

def Endpoint.fields : List (StructField Endpoint) :=
  [.of (lit "host") (·.host) (fun value e => { e with host := value }) .string,
    .of (lit "port") (·.port) (fun value e => { e with port := value }) .int,
    .of (lit "ip_version") (·.ipVersion) (fun value e => { e with ipVersion := value }) .string]

def Endpoint.codec : Codec Endpoint := .struct Endpoint.fields

def Capabilities.fields : List (StructField Capabilities) :=
  [.of (lit "transport") (·.transport) (fun value c => { c with transport := value }) .string,
    .of (lit "dpi_resistance_tags") (·.dpiResistanceTags)
      (fun value c => { c with dpiResistanceTags := value }) (.slice .string []),
    .of (lit "bandwidth_class") (·.bandwidthClass)
      (fun value c => { c with bandwidthClass := value }) .string]

def Capabilities.codec : Codec Capabilities := .struct Capabilities.fields

def Credentials.fields : List (StructField Credentials) :=
  [.omitEmpty (lit "uuid") (·.uuid) (fun value c => { c with uuid := value }),
    .omitEmpty (lit "password") (·.password) (fun value c => { c with password := value }),
    .omitEmpty (lit "public_key") (·.publicKey) (fun value c => { c with publicKey := value }),
    .omitEmpty (lit "short_id") (·.shortID) (fun value c => { c with shortID := value }),
    .omitEmpty (lit "sni") (·.sni) (fun value c => { c with sni := value }),
    .omitEmpty (lit "utls_fingerprint") (·.utlsFingerprint)
      (fun value c => { c with utlsFingerprint := value }),
    .omitEmpty (lit "obfs_password") (·.obfsPassword)
      (fun value c => { c with obfsPassword := value })]

def Credentials.codec : Codec Credentials := .struct Credentials.fields

def MutationPolicy.fields : List (StructField MutationPolicy) :=
  [.of (lit "allowed_sets") (·.allowedSets)
      (fun value m => { m with allowedSets := value }) (.slice .string []),
    .of (lit "max_mutations_per_hour") (·.maxMutationsPerHour)
      (fun value m => { m with maxMutationsPerHour := value }) .int]

def MutationPolicy.codec : Codec MutationPolicy := .struct MutationPolicy.fields

def Health.fields : List (StructField Health) :=
  [.of (lit "score") (·.score) (fun value h => { h with score := value }) .float,
    .of (lit "success_ewma") (·.successEWMA)
      (fun value h => { h with successEWMA := value }) .float,
    .of (lit "median_handshake_ms") (·.medianHandshakeMs)
      (fun value h => { h with medianHandshakeMs := value }) .int,
    .of (lit "last_ok_at") (·.lastOkAt) (fun value h => { h with lastOkAt := value }) .int,
    .of (lit "last_fail_at") (·.lastFailAt) (fun value h => { h with lastFailAt := value }) .int,
    .of (lit "last_fail_reason") (·.lastFailReason)
      (fun value h => { h with lastFailReason := value }) .string,
    .of (lit "cooldown_until") (·.cooldownUntil)
      (fun value h => { h with cooldownUntil := value }) .int,
    .of (lit "failure_count") (·.failureCount)
      (fun value h => { h with failureCount := value }) .int,
    .of (lit "consecutive_fails") (·.consecutiveFails)
      (fun value h => { h with consecutiveFails := value }) .int]

def Health.codec : Codec Health := .struct Health.fields

def SourceInfo.fields : List (StructField SourceInfo) :=
  [.omitEmpty (lit "source") (·.source) (fun value s => { s with source := value }),
    .of (lit "trust_level") (·.trustLevel) (fun value s => { s with trustLevel := value }) .int,
    .of (lit "imported_at") (·.importedAt) (fun value s => { s with importedAt := value }) .int,
    .omitEmpty (lit "publisher_key") (·.publisherKey)
      (fun value s => { s with publisherKey := value })]

def SourceInfo.codec : Codec SourceInfo := .struct SourceInfo.fields

def Profile.fields : List (StructField Profile) :=
  [.of (lit "id") (·.id) (fun value p => { p with id := value }) .string,
    .of (lit "family") (·.family) (fun value p => { p with family := value }) .string,
    .of (lit "enabled") (·.enabled) (fun value p => { p with enabled := value }) .bool,
    .of (lit "manual_disabled") (·.manualDisabled)
      (fun value p => { p with manualDisabled := value }) .bool,
    .of (lit "created_at") (·.createdAt) (fun value p => { p with createdAt := value }) .int,
    .of (lit "expires_at") (·.expiresAt) (fun value p => { p with expiresAt := value }) .int,
    .of (lit "priority") (·.priority) (fun value p => { p with priority := value }) .int,
    .of (lit "template_ref") (·.templateRef)
      (fun value p => { p with templateRef := value }) .string,
    .of (lit "endpoint") (·.endpoint) (fun value p => { p with endpoint := value }) Endpoint.codec,
    .of (lit "capabilities") (·.capabilities)
      (fun value p => { p with capabilities := value }) Capabilities.codec,
    .of (lit "credentials") (·.credentials)
      (fun value p => { p with credentials := value }) Credentials.codec,
    .of (lit "source") (·.source) (fun value p => { p with source := value }) SourceInfo.codec,
    .of (lit "notes") (·.notes) (fun value p => { p with notes := value }) .string,
    .of (lit "mutation_policy") (·.mutationPolicy)
      (fun value p => { p with mutationPolicy := value }) MutationPolicy.codec,
    .of (lit "health") (·.health) (fun value p => { p with health := value }) Health.codec]

def Profile.codec : Codec Profile := .struct Profile.fields

/-! ## Strings that are UTF-8 -/

@[mk_iff]
structure Endpoint.Utf8 (e : Endpoint) : Prop where
  host : Valid e.host
  ipVersion : Valid e.ipVersion

@[mk_iff]
structure Capabilities.Utf8 (c : Capabilities) : Prop where
  transport : Valid c.transport
  dpiResistanceTags : ∀ text ∈ c.dpiResistanceTags.getD [], Valid text
  bandwidthClass : Valid c.bandwidthClass

@[mk_iff]
structure Credentials.Utf8 (c : Credentials) : Prop where
  uuid : Valid c.uuid
  password : Valid c.password
  publicKey : Valid c.publicKey
  shortID : Valid c.shortID
  sni : Valid c.sni
  utlsFingerprint : Valid c.utlsFingerprint
  obfsPassword : Valid c.obfsPassword

@[mk_iff]
structure MutationPolicy.Utf8 (m : MutationPolicy) : Prop where
  allowedSets : ∀ text ∈ m.allowedSets.getD [], Valid text

@[mk_iff]
structure Health.Utf8 (h : Health) : Prop where
  lastFailReason : Valid h.lastFailReason

@[mk_iff]
structure SourceInfo.Utf8 (s : SourceInfo) : Prop where
  source : Valid s.source
  publisherKey : Valid s.publisherKey

@[mk_iff]
structure Profile.Utf8 (p : Profile) : Prop where
  id : Valid p.id
  family : Valid p.family
  templateRef : Valid p.templateRef
  endpoint : p.endpoint.Utf8
  capabilities : p.capabilities.Utf8
  credentials : p.credentials.Utf8
  source : p.source.Utf8
  notes : Valid p.notes
  mutationPolicy : p.mutationPolicy.Utf8
  health : p.health.Utf8

instance (e : Endpoint) : Decidable e.Utf8 := decidable_of_iff _ (Endpoint.utf8_iff e).symm

instance (c : Capabilities) : Decidable c.Utf8 := decidable_of_iff _ (Capabilities.utf8_iff c).symm

instance (c : Credentials) : Decidable c.Utf8 := decidable_of_iff _ (Credentials.utf8_iff c).symm

instance (m : MutationPolicy) : Decidable m.Utf8 :=
  decidable_of_iff _ (MutationPolicy.utf8_iff m).symm

instance (h : Health) : Decidable h.Utf8 := decidable_of_iff _ (Health.utf8_iff h).symm

instance (s : SourceInfo) : Decidable s.Utf8 := decidable_of_iff _ (SourceInfo.utf8_iff s).symm

instance (p : Profile) : Decidable p.Utf8 := decidable_of_iff _ (Profile.utf8_iff p).symm

theorem Endpoint.codec_keeps : Endpoint.codec.Keeps Endpoint.Utf8 :=
  keeps_struct ⟨keepsField_of keeps_string (fun _ u => u.host)
      fun _ _ u made => { u with host := made },
    keepsField_any fun _ _ u => { u with },
    keepsField_of keeps_string (fun _ u => u.ipVersion)
      fun _ _ u made => { u with ipVersion := made }⟩

theorem Capabilities.codec_keeps : Capabilities.codec.Keeps Capabilities.Utf8 :=
  keeps_struct ⟨keepsField_of keeps_string (fun _ u => u.transport)
      fun _ _ u made => { u with transport := made },
    keepsField_of (keeps_slice (by decide) keeps_string) (fun _ u => u.dpiResistanceTags)
      fun _ _ u made => { u with dpiResistanceTags := made },
    keepsField_of keeps_string (fun _ u => u.bandwidthClass)
      fun _ _ u made => { u with bandwidthClass := made }⟩

theorem Credentials.codec_keeps : Credentials.codec.Keeps Credentials.Utf8 :=
  keeps_struct ⟨keepsField_omitEmpty (fun _ u => u.uuid) fun _ _ u made => { u with uuid := made },
    keepsField_omitEmpty (fun _ u => u.password) fun _ _ u made => { u with password := made },
    keepsField_omitEmpty (fun _ u => u.publicKey) fun _ _ u made => { u with publicKey := made },
    keepsField_omitEmpty (fun _ u => u.shortID) fun _ _ u made => { u with shortID := made },
    keepsField_omitEmpty (fun _ u => u.sni) fun _ _ u made => { u with sni := made },
    keepsField_omitEmpty (fun _ u => u.utlsFingerprint)
      fun _ _ u made => { u with utlsFingerprint := made },
    keepsField_omitEmpty (fun _ u => u.obfsPassword)
      fun _ _ u made => { u with obfsPassword := made }⟩

theorem MutationPolicy.codec_keeps : MutationPolicy.codec.Keeps MutationPolicy.Utf8 :=
  keeps_struct ⟨keepsField_of (keeps_slice (by decide) keeps_string) (fun _ u => u.allowedSets)
      fun _ _ u made => { u with allowedSets := made },
    keepsField_any fun _ _ u => { u with }⟩

theorem Health.codec_keeps : Health.codec.Keeps Health.Utf8 :=
  keeps_struct ⟨keepsField_any fun _ _ u => { u with },
    keepsField_any fun _ _ u => { u with },
    keepsField_any fun _ _ u => { u with },
    keepsField_any fun _ _ u => { u with },
    keepsField_any fun _ _ u => { u with },
    keepsField_of keeps_string (fun _ u => u.lastFailReason)
      fun _ _ u made => { u with lastFailReason := made },
    keepsField_any fun _ _ u => { u with },
    keepsField_any fun _ _ u => { u with },
    keepsField_any fun _ _ u => { u with }⟩

theorem SourceInfo.codec_keeps : SourceInfo.codec.Keeps SourceInfo.Utf8 :=
  keeps_struct ⟨keepsField_omitEmpty (fun _ u => u.source)
      fun _ _ u made => { u with source := made },
    keepsField_any fun _ _ u => { u with },
    keepsField_any fun _ _ u => { u with },
    keepsField_omitEmpty (fun _ u => u.publisherKey)
      fun _ _ u made => { u with publisherKey := made }⟩

theorem Profile.codec_keeps : Profile.codec.Keeps Profile.Utf8 :=
  keeps_struct ⟨keepsField_of keeps_string (fun _ u => u.id)
      fun _ _ u made => { u with id := made },
    keepsField_of keeps_string (fun _ u => u.family) fun _ _ u made => { u with family := made },
    keepsField_any fun _ _ u => { u with },
    keepsField_any fun _ _ u => { u with },
    keepsField_any fun _ _ u => { u with },
    keepsField_any fun _ _ u => { u with },
    keepsField_any fun _ _ u => { u with },
    keepsField_of keeps_string (fun _ u => u.templateRef)
      fun _ _ u made => { u with templateRef := made },
    keepsField_of Endpoint.codec_keeps (fun _ u => u.endpoint)
      fun _ _ u made => { u with endpoint := made },
    keepsField_of Capabilities.codec_keeps (fun _ u => u.capabilities)
      fun _ _ u made => { u with capabilities := made },
    keepsField_of Credentials.codec_keeps (fun _ u => u.credentials)
      fun _ _ u made => { u with credentials := made },
    keepsField_of SourceInfo.codec_keeps (fun _ u => u.source)
      fun _ _ u made => { u with source := made },
    keepsField_of keeps_string (fun _ u => u.notes) fun _ _ u made => { u with notes := made },
    keepsField_of MutationPolicy.codec_keeps (fun _ u => u.mutationPolicy)
      fun _ _ u made => { u with mutationPolicy := made },
    keepsField_of Health.codec_keeps (fun _ u => u.health)
      fun _ _ u made => { u with health := made }⟩

/-! ## Strict and lenient decodes -/

@[simp] theorem Endpoint.codec_lenient : Endpoint.codec.Lenient :=
  lenient_struct (by simp [Endpoint.fields])

@[simp] theorem Capabilities.codec_lenient : Capabilities.codec.Lenient :=
  lenient_struct (by simp [Capabilities.fields])

@[simp] theorem Credentials.codec_lenient : Credentials.codec.Lenient :=
  lenient_struct (by simp [Credentials.fields])

@[simp] theorem MutationPolicy.codec_lenient : MutationPolicy.codec.Lenient :=
  lenient_struct (by simp [MutationPolicy.fields])

@[simp] theorem Health.codec_lenient : Health.codec.Lenient :=
  lenient_struct (by simp [Health.fields])

@[simp] theorem SourceInfo.codec_lenient : SourceInfo.codec.Lenient :=
  lenient_struct (by simp [SourceInfo.fields])

@[simp] theorem Profile.codec_lenient : Profile.codec.Lenient :=
  lenient_struct (by simp [Profile.fields])

theorem Profile.utf8_zero : ({} : Profile).Utf8 := by decide

theorem Endpoint.restores (e : Endpoint) : Endpoint.codec.Restores {} e :=
  restores_struct (by decide)
    (restoresFields_of (restores_string _ _) <| restoresFields_of (restores_int _ _) <|
      restoresFields_of (restores_string _ _) rfl)

theorem Capabilities.restores (c : Capabilities) : Capabilities.codec.Restores {} c :=
  restores_struct (by decide)
    (restoresFields_of (restores_string _ _) <|
      restoresFields_of (restores_slice _ _ fun _ _ => restores_string _ _) <|
      restoresFields_of (restores_string _ _) rfl)

theorem Credentials.restores (c : Credentials) : Credentials.codec.Restores {} c :=
  restores_struct (by decide)
    (restoresFields_omitEmpty rfl <| restoresFields_omitEmpty rfl <|
      restoresFields_omitEmpty rfl <| restoresFields_omitEmpty rfl <|
      restoresFields_omitEmpty rfl <| restoresFields_omitEmpty rfl <|
      restoresFields_omitEmpty rfl rfl)

theorem MutationPolicy.restores (m : MutationPolicy) : MutationPolicy.codec.Restores {} m :=
  restores_struct (by decide)
    (restoresFields_of (restores_slice _ _ fun _ _ => restores_string _ _) <|
      restoresFields_of (restores_int _ _) rfl)

theorem Health.restores (h : Health) : Health.codec.Restores {} h :=
  restores_struct (by decide)
    (restoresFields_of (restores_float _ _) <| restoresFields_of (restores_float _ _) <|
      restoresFields_of (restores_int _ _) <| restoresFields_of (restores_int _ _) <|
      restoresFields_of (restores_int _ _) <| restoresFields_of (restores_string _ _) <|
      restoresFields_of (restores_int _ _) <| restoresFields_of (restores_int _ _) <|
      restoresFields_of (restores_int _ _) rfl)

theorem SourceInfo.restores (s : SourceInfo) : SourceInfo.codec.Restores {} s :=
  restores_struct (by decide)
    (restoresFields_omitEmpty rfl <| restoresFields_of (restores_int _ _) <|
      restoresFields_of (restores_int _ _) <| restoresFields_omitEmpty rfl rfl)

theorem Profile.restores (p : Profile) : Profile.codec.Restores {} p :=
  restores_struct (by decide)
    (restoresFields_of (restores_string _ _) <| restoresFields_of (restores_string _ _) <|
      restoresFields_of (restores_bool _ _) <| restoresFields_of (restores_bool _ _) <|
      restoresFields_of (restores_int _ _) <| restoresFields_of (restores_int _ _) <|
      restoresFields_of (restores_int _ _) <| restoresFields_of (restores_string _ _) <|
      restoresFields_of (p.endpoint.restores) <| restoresFields_of (p.capabilities.restores) <|
      restoresFields_of (p.credentials.restores) <| restoresFields_of (p.source.restores) <|
      restoresFields_of (restores_string _ _) <| restoresFields_of (p.mutationPolicy.restores) <|
      restoresFields_of (p.health.restores) rfl)

theorem Endpoint.Utf8.wire {e : Endpoint} (utf8 : e.Utf8) : (Endpoint.codec.encode e).Wire :=
  wire_struct (by decide) ⟨utf8.host, wire_int _, utf8.ipVersion⟩

theorem Capabilities.Utf8.wire {c : Capabilities} (utf8 : c.Utf8) :
    (Capabilities.codec.encode c).Wire :=
  wire_struct (by decide) ⟨utf8.transport, wire_slice [] utf8.dpiResistanceTags, utf8.bandwidthClass⟩

theorem Credentials.Utf8.wire {c : Credentials} (utf8 : c.Utf8) :
    (Credentials.codec.encode c).Wire :=
  wire_struct (by decide) ⟨utf8.uuid, utf8.password, utf8.publicKey, utf8.shortID, utf8.sni,
    utf8.utlsFingerprint, utf8.obfsPassword⟩

theorem MutationPolicy.Utf8.wire {m : MutationPolicy} (utf8 : m.Utf8) :
    (MutationPolicy.codec.encode m).Wire :=
  wire_struct (by decide) ⟨wire_slice [] utf8.allowedSets, wire_int _⟩

theorem Health.Utf8.wire {h : Health} (utf8 : h.Utf8) : (Health.codec.encode h).Wire :=
  wire_struct (by decide) ⟨wire_float _, wire_float _, wire_int _, wire_int _, wire_int _,
    utf8.lastFailReason, wire_int _, wire_int _, wire_int _⟩

theorem SourceInfo.Utf8.wire {s : SourceInfo} (utf8 : s.Utf8) : (SourceInfo.codec.encode s).Wire :=
  wire_struct (by decide) ⟨utf8.source, wire_int _, wire_int _, utf8.publisherKey⟩

theorem Profile.Utf8.wire {p : Profile} (utf8 : p.Utf8) : (Profile.codec.encode p).Wire :=
  wire_struct (by decide) ⟨utf8.id, utf8.family, trivial, trivial, wire_int _, wire_int _,
    wire_int _, utf8.templateRef, utf8.endpoint.wire, utf8.capabilities.wire, utf8.credentials.wire,
    utf8.source.wire, utf8.notes, utf8.mutationPolicy.wire, utf8.health.wire⟩

/-! ## Nesting -/

private theorem depth_texts (texts : Option (List GoString)) :
    ((Codec.slice Codec.string []).encode texts).depth ≤ 1 :=
  depth_slice [] fun _ _ => Nat.zero_le _

theorem Endpoint.codec_depth (e : Endpoint) : (Endpoint.codec.encode e).depth ≤ 2 :=
  depth_struct ⟨Nat.zero_le _, Nat.zero_le _, Nat.zero_le _⟩

theorem Capabilities.codec_depth (c : Capabilities) : (Capabilities.codec.encode c).depth ≤ 2 :=
  depth_struct ⟨Nat.zero_le _, depth_texts _, Nat.zero_le _⟩

theorem Credentials.codec_depth (c : Credentials) : (Credentials.codec.encode c).depth ≤ 2 :=
  depth_struct ⟨Nat.zero_le _, Nat.zero_le _, Nat.zero_le _, Nat.zero_le _,
    Nat.zero_le _, Nat.zero_le _, Nat.zero_le _⟩

theorem MutationPolicy.codec_depth (m : MutationPolicy) :
    (MutationPolicy.codec.encode m).depth ≤ 2 :=
  depth_struct ⟨depth_texts _, Nat.zero_le _⟩

theorem Health.codec_depth (h : Health) : (Health.codec.encode h).depth ≤ 2 :=
  depth_struct ⟨Nat.zero_le _, Nat.zero_le _, Nat.zero_le _, Nat.zero_le _,
    Nat.zero_le _, Nat.zero_le _, Nat.zero_le _, Nat.zero_le _, Nat.zero_le _⟩

theorem SourceInfo.codec_depth (s : SourceInfo) : (SourceInfo.codec.encode s).depth ≤ 2 :=
  depth_struct ⟨Nat.zero_le _, Nat.zero_le _, Nat.zero_le _, Nat.zero_le _⟩

/-- A profile nests no deeper than its tag list. -/
theorem Profile.codec_depth (p : Profile) : (Profile.codec.encode p).depth ≤ 3 :=
  depth_struct ⟨Nat.zero_le _, Nat.zero_le _, Nat.zero_le _, Nat.zero_le _,
    Nat.zero_le _, Nat.zero_le _, Nat.zero_le _, Nat.zero_le _, p.endpoint.codec_depth,
    p.capabilities.codec_depth, p.credentials.codec_depth, p.source.codec_depth, Nat.zero_le _,
    p.mutationPolicy.codec_depth, p.health.codec_depth⟩

/-! ## Texts of any strings -/

theorem numeric_texts (texts : Option (List GoString)) :
    ((Codec.slice Codec.string []).encode texts).Numeric :=
  numeric_slice [] fun _ _ => trivial

theorem Endpoint.codec_numeric (e : Endpoint) : (Endpoint.codec.encode e).Numeric :=
  numeric_struct ⟨trivial, (wire_int _).numeric, trivial⟩

theorem Capabilities.codec_numeric (c : Capabilities) : (Capabilities.codec.encode c).Numeric :=
  numeric_struct ⟨trivial, numeric_texts _, trivial⟩

theorem Credentials.codec_numeric (c : Credentials) : (Credentials.codec.encode c).Numeric :=
  numeric_struct ⟨trivial, trivial, trivial, trivial, trivial, trivial, trivial⟩

theorem MutationPolicy.codec_numeric (m : MutationPolicy) :
    (MutationPolicy.codec.encode m).Numeric :=
  numeric_struct ⟨numeric_texts _, (wire_int _).numeric⟩

theorem Health.codec_numeric (h : Health) : (Health.codec.encode h).Numeric :=
  numeric_struct ⟨(wire_float _).numeric, (wire_float _).numeric, (wire_int _).numeric,
    (wire_int _).numeric, (wire_int _).numeric, trivial, (wire_int _).numeric,
    (wire_int _).numeric, (wire_int _).numeric⟩

theorem SourceInfo.codec_numeric (s : SourceInfo) : (SourceInfo.codec.encode s).Numeric :=
  numeric_struct ⟨trivial, (wire_int _).numeric, (wire_int _).numeric, trivial⟩

theorem Profile.codec_numeric (p : Profile) : (Profile.codec.encode p).Numeric :=
  numeric_struct ⟨trivial, trivial, trivial, trivial, (wire_int _).numeric, (wire_int _).numeric,
    (wire_int _).numeric, trivial, p.endpoint.codec_numeric, p.capabilities.codec_numeric,
    p.credentials.codec_numeric, p.source.codec_numeric, trivial, p.mutationPolicy.codec_numeric,
    p.health.codec_numeric⟩

/-! ## Profiles as they are read back -/

def Endpoint.reloaded (e : Endpoint) : Endpoint :=
  { e with host := toValid e.host, ipVersion := toValid e.ipVersion }

def Capabilities.reloaded (c : Capabilities) : Capabilities where
  transport := toValid c.transport
  dpiResistanceTags := c.dpiResistanceTags.map (List.map toValid)
  bandwidthClass := toValid c.bandwidthClass

def Credentials.reloaded (c : Credentials) : Credentials where
  uuid := toValid c.uuid
  password := toValid c.password
  publicKey := toValid c.publicKey
  shortID := toValid c.shortID
  sni := toValid c.sni
  utlsFingerprint := toValid c.utlsFingerprint
  obfsPassword := toValid c.obfsPassword

def MutationPolicy.reloaded (m : MutationPolicy) : MutationPolicy :=
  { m with allowedSets := m.allowedSets.map (List.map toValid) }

def Health.reloaded (h : Health) : Health := { h with lastFailReason := toValid h.lastFailReason }

def SourceInfo.reloaded (s : SourceInfo) : SourceInfo :=
  { s with source := toValid s.source, publisherKey := toValid s.publisherKey }

/-- A profile with its strings as JSON writes them. -/
def Profile.reloaded (p : Profile) : Profile :=
  { p with
    id := toValid p.id
    family := toValid p.family
    templateRef := toValid p.templateRef
    endpoint := p.endpoint.reloaded
    capabilities := p.capabilities.reloaded
    credentials := p.credentials.reloaded
    source := p.source.reloaded
    notes := toValid p.notes
    mutationPolicy := p.mutationPolicy.reloaded
    health := p.health.reloaded }

theorem Endpoint.codec_reads (e : Endpoint) : Endpoint.codec.Reads {} e e.reloaded :=
  reads_struct (by decide)
    (readsFields_of (by decide) (reads_string _ _) <|
      readsFields_of (by decide) (reads_int _ _) <|
      readsFields_of (by decide) (reads_string _ _) rfl)

theorem Capabilities.codec_reads (c : Capabilities) :
    Capabilities.codec.Reads {} c c.reloaded :=
  reads_struct (by decide)
    (readsFields_of (by decide) (reads_string _ _) <|
      readsFields_of (by decide) (reads_slice _ _ fun _ _ => reads_string _ _) <|
      readsFields_of (by decide) (reads_string _ _) rfl)

theorem Credentials.codec_reads (c : Credentials) : Credentials.codec.Reads {} c c.reloaded :=
  reads_struct (by decide)
    (readsFields_omitEmpty (by decide) rfl <| readsFields_omitEmpty (by decide) rfl <|
      readsFields_omitEmpty (by decide) rfl <| readsFields_omitEmpty (by decide) rfl <|
      readsFields_omitEmpty (by decide) rfl <| readsFields_omitEmpty (by decide) rfl <|
      readsFields_omitEmpty (by decide) rfl rfl)

theorem MutationPolicy.codec_reads (m : MutationPolicy) :
    MutationPolicy.codec.Reads {} m m.reloaded :=
  reads_struct (by decide)
    (readsFields_of (by decide) (reads_slice _ _ fun _ _ => reads_string _ _) <|
      readsFields_of (by decide) (reads_int _ _) rfl)

theorem Health.codec_reads (h : Health) : Health.codec.Reads {} h h.reloaded :=
  reads_struct (by decide)
    (readsFields_of (by decide) (reads_float _ _) <|
      readsFields_of (by decide) (reads_float _ _) <|
      readsFields_of (by decide) (reads_int _ _) <|
      readsFields_of (by decide) (reads_int _ _) <|
      readsFields_of (by decide) (reads_int _ _) <|
      readsFields_of (by decide) (reads_string _ _) <|
      readsFields_of (by decide) (reads_int _ _) <|
      readsFields_of (by decide) (reads_int _ _) <|
      readsFields_of (by decide) (reads_int _ _) rfl)

theorem SourceInfo.codec_reads (s : SourceInfo) : SourceInfo.codec.Reads {} s s.reloaded :=
  reads_struct (by decide)
    (readsFields_omitEmpty (by decide) rfl <|
      readsFields_of (by decide) (reads_int _ _) <|
      readsFields_of (by decide) (reads_int _ _) <|
      readsFields_omitEmpty (by decide) rfl rfl)

theorem Profile.codec_reads (p : Profile) : Profile.codec.Reads {} p p.reloaded :=
  reads_struct (by decide)
    (readsFields_of (by decide) (reads_string _ _) <|
      readsFields_of (by decide) (reads_string _ _) <|
      readsFields_of (by decide) (reads_bool _ _) <|
      readsFields_of (by decide) (reads_bool _ _) <|
      readsFields_of (by decide) (reads_int _ _) <|
      readsFields_of (by decide) (reads_int _ _) <|
      readsFields_of (by decide) (reads_int _ _) <|
      readsFields_of (by decide) (reads_string _ _) <|
      readsFields_of (by decide) (p.endpoint.codec_reads) <|
      readsFields_of (by decide) (p.capabilities.codec_reads) <|
      readsFields_of (by decide) (p.credentials.codec_reads) <|
      readsFields_of (by decide) (p.source.codec_reads) <|
      readsFields_of (by decide) (reads_string _ _) <|
      readsFields_of (by decide) (p.mutationPolicy.codec_reads) <|
      readsFields_of (by decide) (p.health.codec_reads) rfl)

end ShadowNet
