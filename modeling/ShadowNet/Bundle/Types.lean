import ShadowNet.Profile.Types

/-! # Bundles

A bundle is a signed header around a ciphertext; the plaintext is a payload of profiles, revocations
and templates. The payload's canonical text is the encoding of its fields in the order of the type,
with maps in key order.
-/

namespace ShadowNet

open Go Go.Json

/-- The authenticated metadata around the payload. -/
structure BundleHeader where
  magic : GoString := []
  bundleID : GoString := []
  publisherKeyID : GoString := []
  recipientKeyID : GoString := []
  seq : UInt64 := 0
  createdAt : Int64 := 0
  expiresAt : Int64 := 0
  cipher : GoString := []
  signature : GoString := []
deriving DecidableEq, Inhabited

/-- The JSON object that carries a bundle. -/
structure Wrapper where
  header : BundleHeader := {}
  ciphertext : GoString := []
deriving DecidableEq, Inhabited

structure Template where
  templateText : GoString := []
deriving DecidableEq, Inhabited

structure PolicyOverrides where
  cooldownHardFailSec : Int64 := 0
  maxSwitchesPer10Min : Int64 := 0
deriving DecidableEq, Inhabited

structure BundlePayload where
  schemaVersion : Int64 := 0
  minAgentVersion : GoString := []
  profiles : Option (List Profile) := none
  revocations : Option (List GoString) := none
  policyOverrides : PolicyOverrides := {}
  templates : Map GoString Template := ∅
  notes : Map GoString GoString := ∅
deriving DecidableEq, Inhabited

/-! ## JSON forms -/

def BundleHeader.fields : List (StructField BundleHeader) :=
  [.of (lit "magic") (·.magic) (fun value h => { h with magic := value }) .string,
    .of (lit "bundle_id") (·.bundleID) (fun value h => { h with bundleID := value }) .string,
    .of (lit "publisher_key_id") (·.publisherKeyID)
      (fun value h => { h with publisherKeyID := value }) .string,
    .of (lit "recipient_key_id") (·.recipientKeyID)
      (fun value h => { h with recipientKeyID := value }) .string,
    .of (lit "seq") (·.seq) (fun value h => { h with seq := value }) .uint,
    .of (lit "created_at") (·.createdAt) (fun value h => { h with createdAt := value }) .int,
    .of (lit "expires_at") (·.expiresAt) (fun value h => { h with expiresAt := value }) .int,
    .of (lit "cipher") (·.cipher) (fun value h => { h with cipher := value }) .string,
    .of (lit "sig") (·.signature) (fun value h => { h with signature := value }) .string]

def BundleHeader.codec : Codec BundleHeader := .struct BundleHeader.fields

def Wrapper.fields : List (StructField Wrapper) :=
  [.of (lit "header") (·.header) (fun value w => { w with header := value }) BundleHeader.codec,
    .of (lit "ciphertext") (·.ciphertext) (fun value w => { w with ciphertext := value }) .string]

def Wrapper.codec : Codec Wrapper := .struct Wrapper.fields

def Template.fields : List (StructField Template) :=
  [.of (lit "template_text") (·.templateText) (fun value t => { t with templateText := value })
    .string]

def Template.codec : Codec Template := .struct Template.fields

def PolicyOverrides.fields : List (StructField PolicyOverrides) :=
  [.of (lit "cooldown_hard_fail_sec") (·.cooldownHardFailSec)
      (fun value o => { o with cooldownHardFailSec := value }) .int,
    .of (lit "max_switches_per_10min") (·.maxSwitchesPer10Min)
      (fun value o => { o with maxSwitchesPer10Min := value }) .int]

def PolicyOverrides.codec : Codec PolicyOverrides := .struct PolicyOverrides.fields

def BundlePayload.fields : List (StructField BundlePayload) :=
  [.of (lit "schema_version") (·.schemaVersion) (fun value p => { p with schemaVersion := value })
      .int,
    .of (lit "min_agent_version") (·.minAgentVersion)
      (fun value p => { p with minAgentVersion := value }) .string,
    .of (lit "profiles") (·.profiles) (fun value p => { p with profiles := value })
      (.slice Profile.codec {}),
    .of (lit "revocations") (·.revocations) (fun value p => { p with revocations := value })
      (.slice .string []),
    .of (lit "policy_overrides") (·.policyOverrides)
      (fun value p => { p with policyOverrides := value }) PolicyOverrides.codec,
    .of (lit "templates") (·.templates) (fun value p => { p with templates := value })
      (.map Template.codec {}),
    .of (lit "notes") (·.notes) (fun value p => { p with notes := value }) (.map .string [])]

def BundlePayload.codec : Codec BundlePayload := .struct BundlePayload.fields

/-! ## Canonical payloads -/

/-- `writeSortedObject`; a map's entries are in key order already. -/
def writeSortedObject {α : Type} (codec : Codec α) (m : Map GoString α) : Bytes :=
  if m.entries = [] then lit "{}"
  else
    let write (entry : GoString × α) : Bytes := quote entry.1 ++ 0x3A :: marshal codec entry.2
    0x7B :: (List.intercalate [0x2C] (m.entries.map write) ++ [0x7D])

def canonicalField (name : GoString) (value : Bytes) : Bytes := quote name ++ 0x3A :: value

def marshalCanonicalPayload (payload : BundlePayload) : Bytes :=
  0x7B :: (List.intercalate [0x2C]
    [canonicalField (lit "schema_version") (marshal .int payload.schemaVersion),
      canonicalField (lit "min_agent_version") (marshal .string payload.minAgentVersion),
      canonicalField (lit "profiles") (marshal (.slice Profile.codec {}) payload.profiles),
      canonicalField (lit "revocations") (marshal (.slice .string []) payload.revocations),
      canonicalField (lit "policy_overrides") (marshal PolicyOverrides.codec payload.policyOverrides),
      canonicalField (lit "templates") (writeSortedObject Template.codec payload.templates),
      canonicalField (lit "notes") (writeSortedObject .string payload.notes)] ++ [0x7D])

/-- The canonical text is the JSON text of the payload. -/
theorem marshalCanonicalPayload_eq (payload : BundlePayload) :
    marshalCanonicalPayload payload = marshal BundlePayload.codec payload := by
  have sorted {α : Type} (codec : Codec α) (zero : α) (m : Map GoString α) :
      writeSortedObject codec m = marshal (.map codec zero) m := by
    unfold writeSortedObject
    change _ = encode (.obj (m.entries.map fun entry => (entry.1, codec.encode entry.2)))
    split_ifs with empty
    · rw [empty]
      rfl
    · rw [encode_obj, List.map_map]
      rfl
  rw [marshalCanonicalPayload, sorted _ {}, sorted _ []]
  exact (encode_obj (BundlePayload.fields.flatMap (encodeMember payload))).symm

/-! ## Strings that are UTF-8 -/

@[mk_iff]
structure BundleHeader.Utf8 (h : BundleHeader) : Prop where
  magic : Valid h.magic
  bundleID : Valid h.bundleID
  publisherKeyID : Valid h.publisherKeyID
  recipientKeyID : Valid h.recipientKeyID
  cipher : Valid h.cipher
  signature : Valid h.signature

@[mk_iff]
structure BundlePayload.Utf8 (p : BundlePayload) : Prop where
  minAgentVersion : Valid p.minAgentVersion
  profiles : ∀ profile ∈ p.profiles.getD [], profile.Utf8
  revocations : ∀ id ∈ p.revocations.getD [], Valid id
  templates : ∀ entry ∈ p.templates.entries, Valid entry.1 ∧ Valid entry.2.templateText
  notes : ∀ entry ∈ p.notes.entries, Valid entry.1 ∧ Valid entry.2

instance (h : BundleHeader) : Decidable h.Utf8 := decidable_of_iff _ (BundleHeader.utf8_iff h).symm

instance (p : BundlePayload) : Decidable p.Utf8 :=
  decidable_of_iff _ (BundlePayload.utf8_iff p).symm

theorem Template.codec_keeps : Template.codec.Keeps fun t => Valid t.templateText :=
  keeps_struct (keepsField_of keeps_string (fun _ valid => valid) fun _ _ _ made => made)

/-- Decoding yields payloads of UTF-8 strings. -/
theorem BundlePayload.codec_keeps : BundlePayload.codec.Keeps BundlePayload.Utf8 :=
  keeps_struct ⟨keepsField_any fun _ _ u => { u with },
    keepsField_of keeps_string (fun _ u => u.minAgentVersion)
      fun _ _ u made => { u with minAgentVersion := made },
    keepsField_of (keeps_slice Profile.utf8_zero Profile.codec_keeps) (fun _ u => u.profiles)
      fun _ _ u made => { u with profiles := made },
    keepsField_of (keeps_slice (by decide) keeps_string) (fun _ u => u.revocations)
      fun _ _ u made => { u with revocations := made },
    keepsField_any fun _ _ u => { u with },
    keepsField_of (keeps_map (by decide) Template.codec_keeps) (fun _ u => u.templates)
      fun _ _ u made => { u with templates := made },
    keepsField_of (keeps_map (by decide) keeps_string) (fun _ u => u.notes)
      fun _ _ u made => { u with notes := made }⟩

theorem decodeStrict_payload_utf8 {text : Bytes} {payload : BundlePayload}
    (decoded : decodeStrict BundlePayload.codec {} text = some payload) : payload.Utf8 :=
  decodeStrict_keeps BundlePayload.codec_keeps (by decide) decoded

/-! ## Strict and lenient decodes -/

@[simp] theorem BundleHeader.codec_lenient : BundleHeader.codec.Lenient :=
  lenient_struct (by simp [BundleHeader.fields])

theorem Wrapper.codec_lenient : Wrapper.codec.Lenient :=
  lenient_struct (by simp [Wrapper.fields])

@[simp] theorem Template.codec_lenient : Template.codec.Lenient :=
  lenient_struct (by simp [Template.fields])

@[simp] theorem PolicyOverrides.codec_lenient : PolicyOverrides.codec.Lenient :=
  lenient_struct (by simp [PolicyOverrides.fields])

theorem BundlePayload.codec_lenient : BundlePayload.codec.Lenient :=
  lenient_struct (by simp [BundlePayload.fields])

/-! ## Reading bundles back -/

theorem BundleHeader.restores (h : BundleHeader) : BundleHeader.codec.Restores {} h :=
  restores_struct (by decide)
    (restoresFields_of (restores_string _ _) <| restoresFields_of (restores_string _ _) <|
      restoresFields_of (restores_string _ _) <| restoresFields_of (restores_string _ _) <|
      restoresFields_of (restores_uint _ _) <| restoresFields_of (restores_int _ _) <|
      restoresFields_of (restores_int _ _) <| restoresFields_of (restores_string _ _) <|
      restoresFields_of (restores_string _ _) rfl)

theorem Wrapper.restores (w : Wrapper) : Wrapper.codec.Restores {} w :=
  restores_struct (by decide)
    (restoresFields_of w.header.restores <| restoresFields_of (restores_string _ _) rfl)

theorem Template.restores (t : Template) : Template.codec.Restores {} t :=
  restores_struct (by decide) (restoresFields_of (restores_string _ _) rfl)

theorem PolicyOverrides.restores (o : PolicyOverrides) : PolicyOverrides.codec.Restores {} o :=
  restores_struct (by decide)
    (restoresFields_of (restores_int _ _) <| restoresFields_of (restores_int _ _) rfl)

theorem BundlePayload.restores (p : BundlePayload) : BundlePayload.codec.Restores {} p :=
  restores_struct (by decide)
    (restoresFields_of (restores_int _ _) <| restoresFields_of (restores_string _ _) <|
      restoresFields_of (restores_slice _ _ fun profile _ => profile.restores) <|
      restoresFields_of (restores_slice _ _ fun _ _ => restores_string _ _) <|
      restoresFields_of p.policyOverrides.restores <|
      restoresFields_of (restores_map _ fun entry _ => entry.2.restores) <|
      restoresFields_of (restores_map _ fun _ _ => restores_string _ _) rfl)

theorem BundleHeader.Utf8.wire {h : BundleHeader} (utf8 : h.Utf8) :
    (BundleHeader.codec.encode h).Wire :=
  wire_struct (by decide) ⟨utf8.magic, utf8.bundleID, utf8.publisherKeyID, utf8.recipientKeyID,
    wire_uint _, wire_int _, wire_int _, utf8.cipher, utf8.signature⟩

theorem Wrapper.wire {w : Wrapper} (header : w.header.Utf8) (ciphertext : Valid w.ciphertext) :
    (Wrapper.codec.encode w).Wire :=
  wire_struct (by decide) ⟨header.wire, ciphertext⟩

theorem BundlePayload.Utf8.wire {p : BundlePayload} (utf8 : p.Utf8) :
    (BundlePayload.codec.encode p).Wire := by
  refine wire_struct (by decide) ⟨wire_int _, utf8.minAgentVersion,
    wire_slice {} fun profile member => (utf8.profiles profile member).wire,
    wire_slice [] utf8.revocations, wire_struct (by decide) ⟨wire_int _, wire_int _⟩,
    wire_map {} fun entry member => ⟨(utf8.templates entry member).1,
      wire_struct (by decide) (utf8.templates entry member).2⟩,
    wire_map [] utf8.notes⟩

theorem BundleHeader.codec_depth (h : BundleHeader) : (BundleHeader.codec.encode h).depth ≤ 1 :=
  depth_struct ⟨Nat.zero_le _, Nat.zero_le _, Nat.zero_le _, Nat.zero_le _, Nat.zero_le _,
    Nat.zero_le _, Nat.zero_le _, Nat.zero_le _, Nat.zero_le _⟩

theorem Wrapper.codec_depth (w : Wrapper) : (Wrapper.codec.encode w).depth ≤ 2 :=
  depth_struct ⟨w.header.codec_depth, Nat.zero_le _⟩

theorem Template.codec_depth (t : Template) : (Template.codec.encode t).depth ≤ 1 :=
  depth_struct (Nat.zero_le _)

theorem PolicyOverrides.codec_depth (o : PolicyOverrides) :
    (PolicyOverrides.codec.encode o).depth ≤ 1 :=
  depth_struct ⟨Nat.zero_le _, Nat.zero_le _⟩

theorem BundlePayload.codec_depth (p : BundlePayload) :
    (BundlePayload.codec.encode p).depth ≤ 5 := by
  have texts : ((Codec.slice Codec.string []).encode p.revocations).depth ≤ 1 :=
    depth_slice [] fun _ _ => Nat.zero_le _
  have templates : ((Codec.map Template.codec {}).encode p.templates).depth ≤ 2 :=
    depth_map {} fun entry _ => entry.2.codec_depth
  have notes : ((Codec.map Codec.string []).encode p.notes).depth ≤ 1 :=
    depth_map [] fun _ _ => Nat.zero_le _
  exact depth_struct ⟨Nat.zero_le _, Nat.zero_le _, depth_slice {} fun profile _ => profile.codec_depth,
    texts.trans (by decide), p.policyOverrides.codec_depth.trans (by decide),
    templates.trans (by decide), notes.trans (by decide)⟩

/-- A payload of UTF-8 strings is read back strictly from its canonical text. -/
theorem decodeStrict_canonical {p : BundlePayload} (utf8 : p.Utf8) :
    decodeStrict BundlePayload.codec {} (marshalCanonicalPayload p) = some p := by
  rw [marshalCanonicalPayload_eq]
  exact decodeStrict_marshal p.restores utf8.wire (p.codec_depth.trans (by decide))

/-- A minimum version that survives the canonical text is UTF-8. -/
theorem BundlePayload.version_utf8 {payload other : BundlePayload}
    (rest : { payload with minAgentVersion := [] }.Utf8) (utf8 : other.Utf8)
    (same : marshalCanonicalPayload payload = marshalCanonicalPayload other) :
    Valid payload.minAgentVersion := by
  rw [marshalCanonicalPayload_eq, marshalCanonicalPayload_eq] at same
  have numeric : (BundlePayload.codec.encode payload).Numeric := rest.wire.numeric
  have wire := wire_of_encode_eq numeric utf8.wire (payload.codec_depth.trans (by decide))
    (other.codec_depth.trans (by decide)) same
  exact wire.2.2.2.1

theorem decodeStrict_wrapper {w : Wrapper} (header : w.header.Utf8)
    (ciphertext : Valid w.ciphertext) :
    decodeStrict Wrapper.codec {} (marshal Wrapper.codec w) = some w :=
  decodeStrict_marshal w.restores (Wrapper.wire header ciphertext)
    (w.codec_depth.trans (by decide))

end ShadowNet
