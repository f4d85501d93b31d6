import ShadowNet.Bundle.Types

/-! # Canonical payloads

`json.Marshal` writes a byte outside UTF-8 as the six characters `\ufffd` and a U+FFFD that it has
read as itself, so that the canonical text of a payload with such a byte is not the canonical text
of what it is read back as. For all other payloads the canonical text is a fixed point. The text
that is signed, a header followed by the ciphertext, tells where the header ends.
-/

namespace ShadowNet

open Go Go.Json

/-! ## What the text of a payload tells of its strings -/

theorem Endpoint.utf8_of_wire {e : Endpoint} (wire : (Endpoint.codec.encode e).Wire) : e.Utf8 := by
  obtain ⟨host, -, ipVersion⟩ := wire_of_struct wire
  exact ⟨host rfl, ipVersion rfl⟩

theorem Capabilities.utf8_of_wire {c : Capabilities}
    (wire : (Capabilities.codec.encode c).Wire) : c.Utf8 := by
  obtain ⟨transport, tags, bandwidth⟩ := wire_of_struct wire
  exact ⟨transport rfl, wire_of_slice [] (tags rfl), bandwidth rfl⟩

theorem Credentials.utf8_of_wire {c : Credentials} (wire : (Credentials.codec.encode c).Wire) :
    c.Utf8 := by
  obtain ⟨uuid, password, publicKey, shortID, sni, fingerprint, obfs⟩ := wire_of_struct wire
  exact ⟨valid_of_omitEmpty uuid, valid_of_omitEmpty password, valid_of_omitEmpty publicKey,
    valid_of_omitEmpty shortID, valid_of_omitEmpty sni, valid_of_omitEmpty fingerprint,
    valid_of_omitEmpty obfs⟩

theorem MutationPolicy.utf8_of_wire {m : MutationPolicy}
    (wire : (MutationPolicy.codec.encode m).Wire) : m.Utf8 := by
  obtain ⟨allowed, -⟩ := wire_of_struct wire
  exact ⟨wire_of_slice [] (allowed rfl)⟩

theorem Health.utf8_of_wire {h : Health} (wire : (Health.codec.encode h).Wire) : h.Utf8 := by
  obtain ⟨-, -, -, -, -, reason, -⟩ := wire_of_struct wire
  exact ⟨reason rfl⟩

theorem SourceInfo.utf8_of_wire {s : SourceInfo} (wire : (SourceInfo.codec.encode s).Wire) :
    s.Utf8 := by
  obtain ⟨source, -, -, publisher⟩ := wire_of_struct wire
  exact ⟨valid_of_omitEmpty source, valid_of_omitEmpty publisher⟩

theorem Profile.utf8_of_wire {p : Profile} (wire : (Profile.codec.encode p).Wire) : p.Utf8 := by
  obtain ⟨id, family, -, -, -, -, -, templateRef, endpoint, capabilities, credentials, source,
    notes, mutation, health⟩ := wire_of_struct wire
  exact ⟨id rfl, family rfl, templateRef rfl, Endpoint.utf8_of_wire (endpoint rfl),
    Capabilities.utf8_of_wire (capabilities rfl), Credentials.utf8_of_wire (credentials rfl),
    SourceInfo.utf8_of_wire (source rfl), notes rfl, MutationPolicy.utf8_of_wire (mutation rfl),
    Health.utf8_of_wire (health rfl)⟩

/-- What is on the wire has valid strings only. -/
theorem BundlePayload.utf8_of_wire {p : BundlePayload}
    (wire : (BundlePayload.codec.encode p).Wire) : p.Utf8 := by
  obtain ⟨-, version, profiles, revocations, -, templates, notes⟩ := wire_of_struct wire
  refine ⟨version rfl, ?_, wire_of_slice [] (revocations rfl), ?_, wire_of_map [] (notes rfl)⟩
  · intro profile member
    exact Profile.utf8_of_wire (wire_of_slice {} (profiles rfl) profile member)
  · intro entry member
    obtain ⟨key, value⟩ := wire_of_map {} (templates rfl) entry member
    exact ⟨key, wire_of_struct value rfl⟩

theorem BundlePayload.codec_numeric (p : BundlePayload) :
    (BundlePayload.codec.encode p).Numeric := by
  have overrides : (PolicyOverrides.codec.encode p.policyOverrides).Numeric :=
    numeric_struct ⟨(wire_int _).numeric, (wire_int _).numeric⟩
  exact numeric_struct ⟨(wire_int _).numeric, trivial,
    numeric_slice {} fun profile _ => profile.codec_numeric, numeric_texts _, overrides,
    numeric_map {} fun _ _ => numeric_struct trivial, numeric_map [] fun _ _ => trivial⟩

/-! ## Round trips -/

/-- A canonical text that a UTF-8 payload has is had by UTF-8 payloads only. -/
theorem utf8_of_canonical_eq {payload other : BundlePayload} (utf8 : other.Utf8)
    (same : marshalCanonicalPayload payload = marshalCanonicalPayload other) : payload.Utf8 := by
  rw [marshalCanonicalPayload_eq, marshalCanonicalPayload_eq] at same
  apply BundlePayload.utf8_of_wire
  exact wire_of_encode_eq payload.codec_numeric utf8.wire (payload.codec_depth.trans (by decide))
    (other.codec_depth.trans (by decide)) same

/-- The canonical text of a payload is read back as a payload with that text, and as the payload
itself if its strings are UTF-8. -/
def RoundTrips (payload : BundlePayload) : Prop :=
  ∃ back, decodeStrict BundlePayload.codec {} (marshalCanonicalPayload payload) = some back ∧
    marshalCanonicalPayload back = marshalCanonicalPayload payload ∧
    (payload.Utf8 → back = payload)

/-- The payloads that the canonical text carries are those of UTF-8 strings. -/
theorem roundTrips_iff (payload : BundlePayload) : RoundTrips payload ↔ payload.Utf8 := by
  constructor
  · rintro ⟨back, read, canonical, -⟩
    exact utf8_of_canonical_eq (decodeStrict_payload_utf8 read) canonical.symm
  · intro utf8
    exact ⟨payload, decodeStrict_canonical utf8, rfl, fun _ => rfl⟩

/-- A minimum version with a byte outside UTF-8. -/
def strayVersion : BundlePayload := { schemaVersion := 1, minAgentVersion := [0xFF] }

/-- A version that is not UTF-8 does not come back. -/
theorem strayVersion_changed : ¬ RoundTrips strayVersion := by
  rintro ⟨back, read, canonical, -⟩
  have utf8 := utf8_of_canonical_eq (decodeStrict_payload_utf8 read) canonical.symm
  revert utf8
  decide

/-! ## The signed text -/

/-- Headers with one encoding are one. -/
theorem BundleHeader.codec_injective {first second : BundleHeader}
    (same : BundleHeader.codec.encode first = BundleHeader.codec.encode second) :
    first = second := by
  have read := second.restores true
  rw [← same, first.restores true] at read
  exact Option.some.inj read

/-- The text of a header tells where it ends: two headers followed by two ciphertexts are the same
bytes only if the headers and the ciphertexts are the same. -/
theorem header_append_inj {first second : BundleHeader} (firstUtf8 : first.Utf8)
    (secondUtf8 : second.Utf8) {firstCiphertext secondCiphertext : Bytes}
    (same : marshal BundleHeader.codec first ++ firstCiphertext =
      marshal BundleHeader.codec second ++ secondCiphertext) :
    first = second ∧ firstCiphertext = secondCiphertext := by
  have object (h : BundleHeader) (text : Bytes) : BundleHeader.codec.encode h ≠ .num text := by
    intro number
    cases number
  have room (h : BundleHeader) : (BundleHeader.codec.encode h).depth ≤ maxNestingDepth :=
    h.codec_depth.trans (by decide)
  obtain ⟨values, rest⟩ := encode_append_inj (object first) (object second) firstUtf8.wire
    secondUtf8.wire (room first) (room second) same
  exact ⟨BundleHeader.codec_injective values, rest⟩

/-- A header with a quotation mark, a comma and a brace in its bundle ID. -/
def bracedHeader : BundleHeader := { magic := lit "SNB1", bundleID := lit "b\",1\x7d", seq := 1 }

/-- A header in braces, on both sides. -/
theorem bracedHeader_append : bracedHeader = bracedHeader ∧ lit "\x7d" = lit "\x7d" :=
  header_append_inj (by decide) (by decide) rfl

end ShadowNet
