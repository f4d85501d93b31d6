import ShadowNet.Release.Manifest

/-! # Verifying installed files

`pkg/installer` compares the digests of a file with those that are expected of it, digit by digit
and without regard to case. An empty digest is not compared, so an artifact that lists none is not
verified at all; what is listed has been checked with the manifest and is compared as it stands.
-/

namespace ShadowNet.Installer

open Go Go.Json Release

structure Checksums where
  sha256 : GoString
  sha512 : GoString

/-- The packages `crypto/sha256` and `crypto/sha512`. -/
structure Digests where
  sum256 : Bytes → Bytes
  sum512 : Bytes → Bytes
  size256 : ∀ contents, (sum256 contents).length = 32
  size512 : ∀ contents, (sum512 contents).length = 64

/-- `HashReader`; `contents` is what reading to the end gives. -/
def hashReader (digests : Digests) (contents : Except Message Bytes) : Except Message Checksums := do
  let bytes ← contents
  return ⟨hexEncodeToString (digests.sum256 bytes), hexEncodeToString (digests.sum512 bytes)⟩

/-- The digit that the loop of `normalizeHex` makes of a byte, if any. -/
def normalizeDigit (c : UInt8) : Option UInt8 :=
  let c := if 65 ≤ c ∧ c ≤ 70 then c - 65 + 97 else c
  if (48 ≤ c ∧ c ≤ 57) ∨ (97 ≤ c ∧ c ≤ 102) then some c else none

def normalizeHex (s : GoString) : GoString := s.filterMap normalizeDigit

def equalHex (a b : GoString) : Bool := normalizeHex a = normalizeHex b

/-- `VerifyFile`; `file` is what opening and reading the file at the path gives. -/
def verifyFile (digests : Digests) (file : Except Message Bytes) (expected : Checksums) :
    Except Message Unit := do
  let got ← hashReader digests file
  require (¬(expected.sha256 ≠ [] ∧ equalHex expected.sha256 got.sha256 = false))
    ⟨"checksum mismatch (sha256): expected=%s got=%s", [.str expected.sha256, .str got.sha256]⟩
  require (¬(expected.sha512 ≠ [] ∧ equalHex expected.sha512 got.sha512 = false))
    ⟨"checksum mismatch (sha512): expected=%s got=%s", [.str expected.sha512, .str got.sha512]⟩

/-- `Checksums` of an artifact. -/
def checksums (a : Artifact) : Checksums := ⟨a.sha256, a.sha512⟩

/-! ## Digests that are listed -/

/-- A digest is listed, and it is that of the file but for the case of its letters. -/
def Confirms (listed : GoString) (sum : Bytes) : Prop :=
  listed ≠ [] ∧ toLower listed = hexEncodeToString sum

/-- A digest is listed that is not that of the file. -/
def Contradicts (listed : GoString) (sum : Bytes) : Prop :=
  listed ≠ [] ∧ toLower listed ≠ hexEncodeToString sum

private theorem normalizeDigit_hex : ∀ value < 0x80, (hexValue (UInt8.ofNat value)).isSome = true →
    normalizeDigit (UInt8.ofNat value) = some (UInt8.ofNat (lowerRune (Char.ofNat value)).toNat) ∧
      (lowerRune (Char.ofNat value)).toNat < 0x80 := by decide

/-- Of hexadecimal digits the loop keeps all, as small letters. -/
theorem normalizeHex_hex {s : GoString} (hex : ∀ digit ∈ s, (hexValue digit).isSome = true) :
    normalizeHex s = toLower s := by
  induction s with
  | nil => rfl
  | cons digit rest ih =>
    obtain ⟨own, below⟩ := List.forall_mem_cons.mp hex
    have visible := visible_of_hexValue own
    simp only [isVisible, Bool.and_eq_true, decide_eq_true_eq] at visible
    obtain ⟨lowered, low⟩ := normalizeDigit_hex digit.toNat visible.2 (by rwa [UInt8.ofNat_toNat])
    rw [UInt8.ofNat_toNat] at lowered
    have ascii : Ascii [digit] := by simpa [Ascii] using visible.2
    have first : toLower [digit] = [UInt8.ofNat (lowerRune (Char.ofNat digit.toNat)).toNat] := by
      rw [toLower, runes_ascii visible.2]
      exact (List.append_nil _).trans (encodeRune_ascii low)
    rw [normalizeHex, List.filterMap_cons_some lowered, ← normalizeHex, ih below,
      ← List.singleton_append, ← first, ← ascii.toLower_append, List.singleton_append]

/-- Digests are compared as digits, whatever the case of the listed ones. -/
theorem equalHex_sum {listed : GoString} (hex : ∀ digit ∈ listed, (hexValue digit).isSome = true)
    (sum : Bytes) :
    equalHex listed (hexEncodeToString sum) = true ↔ toLower listed = hexEncodeToString sum := by
  have digits : ∀ digit ∈ hexEncodeToString sum, (hexValue digit).isSome = true :=
    hex_hexDigits _ 0 sum
  rw [equalHex, decide_eq_true_eq, normalizeHex_hex hex, normalizeHex_hex digits,
    toLower_hexEncodeToString]

theorem hex_of_isHexLen {s : GoString} {bytes : ℕ} (checked : isHexLen s bytes = true) :
    ∀ digit ∈ s, (hexValue digit).isSome = true := by
  rw [isHexLen] at checked
  split_ifs at checked
  obtain ⟨decoded, read⟩ := Option.isSome_iff_exists.mp checked
  exact hex_of_hexDecode read

theorem verifyFile_eq_ok {digests : Digests} {contents : Bytes} {expected : Checksums} :
    verifyFile digests (.ok contents) expected = .ok () ↔
      (expected.sha256 ≠ [] → equalHex expected.sha256
        (hexEncodeToString (digests.sum256 contents)) = true) ∧
      (expected.sha512 ≠ [] → equalHex expected.sha512
        (hexEncodeToString (digests.sum512 contents)) = true) := by
  simp only [verifyFile, hashReader, bind_eq_ok, pure_eq_ok, Except.ok.injEq, require_eq_ok, not_and,
    Bool.not_eq_false, exists_const, exists_eq_left']

/-- A checked artifact is verified exactly if no digest that it lists is another than the file's. -/
theorem verifyFile_artifact {a : Artifact} (ok : a.Ok) (digests : Digests) (contents : Bytes) :
    verifyFile digests (.ok contents) (checksums a) = .ok () ↔
      ¬ Contradicts a.sha256 (digests.sum256 contents) ∧
        ¬ Contradicts a.sha512 (digests.sum512 contents) := by
  have compared {listed : GoString} {size : ℕ} {sum : Bytes}
      (checked : listed ≠ [] → isHexLen listed size = true) :
      (listed ≠ [] → equalHex listed (hexEncodeToString sum) = true) ↔
        ¬ Contradicts listed sum := by
    rw [Contradicts, not_and, not_not]
    exact forall_congr' fun some => equalHex_sum (hex_of_isHexLen (checked some)) sum
  rw [verifyFile_eq_ok]
  exact and_congr (compared ok.sha256) (compared ok.sha512)

/-- The manifests of `Load` are among those of `Validate`. -/
def Accepts (jsonError : Bytes → Message) (m : Manifest) : Prop :=
  (∃ text, load jsonError text = .ok m) ∨ m.validate = .ok ()

theorem Accepts.ok {jsonError : Bytes → Message} {m : Manifest} (accepts : Accepts jsonError m) :
    m.Ok := by
  rcases accepts with ⟨text, loaded⟩ | validated
  · exact (load_eq_ok.mp loaded).2
  · exact Manifest.validate_eq_ok.mp validated

theorem confirms_of_listed {listed : GoString} {sum : Bytes} (some : listed ≠ [])
    (agrees : ¬ Contradicts listed sum) : Confirms listed sum :=
  ⟨some, by_contra fun differ => agrees ⟨some, differ⟩⟩

/-- A file passes only by a digest that its artifact lists, unless that lists none, and never against
one. -/
theorem verifyFile_listed {a : Artifact} (ok : a.Ok) (digests : Digests) (contents : Bytes) :
    (verifyFile digests (.ok contents) (checksums a) = .ok () →
      Confirms a.sha256 (digests.sum256 contents) ∨ Confirms a.sha512 (digests.sum512 contents) ∨
        a.sha256 = [] ∧ a.sha512 = []) ∧
    (Contradicts a.sha256 (digests.sum256 contents) ∨
        Contradicts a.sha512 (digests.sum512 contents) →
      verifyFile digests (.ok contents) (checksums a) ≠ .ok ()) := by
  rw [Ne, verifyFile_artifact ok]
  constructor
  · rintro ⟨short, long⟩
    by_cases first : a.sha256 = []
    · by_cases second : a.sha512 = []
      · exact .inr (.inr ⟨first, second⟩)
      · exact .inr (.inl (confirms_of_listed second long))
    · exact .inl (confirms_of_listed first short)
  · rintro (short | long) ⟨agrees, agrees'⟩
    · exact agrees short
    · exact agrees' long

/-- A file passes only by a digest that is listed, and never against one. -/
def FailsClosed (digests : Digests) (contents : Bytes) (a : Artifact) : Prop :=
  (verifyFile digests (.ok contents) (checksums a) = .ok () →
    Confirms a.sha256 (digests.sum256 contents) ∨ Confirms a.sha512 (digests.sum512 contents)) ∧
  (Contradicts a.sha256 (digests.sum256 contents) ∨
      Contradicts a.sha512 (digests.sum512 contents) →
    verifyFile digests (.ok contents) (checksums a) ≠ .ok ())

/-- Verification fails closed exactly for the artifacts that list a digest; those that list none pass
for every file. -/
theorem failsClosed_iff {jsonError : Bytes → Message} {m : Manifest} (accepted : Accepts jsonError m)
    {a : Artifact} (member : a ∈ m.artifacts.getD []) (digests : Digests) (contents : Bytes) :
    FailsClosed digests contents a ↔ a.sha256 ≠ [] ∨ a.sha512 ≠ [] := by
  have ok := accepted.ok.artifacts a member
  obtain ⟨passing, failing⟩ := verifyFile_listed ok digests contents
  constructor
  · rintro ⟨closed, -⟩
    by_contra unlisted
    rw [not_or, not_not, not_not] at unlisted
    have passes : verifyFile digests (.ok contents) (checksums a) = .ok () :=
      (verifyFile_artifact ok digests contents).mpr
        ⟨fun listed => listed.1 unlisted.1, fun listed => listed.1 unlisted.2⟩
    rcases closed passes with confirmed | confirmed
    · exact confirmed.1 unlisted.1
    · exact confirmed.1 unlisted.2
  · intro listed
    refine ⟨fun passes => ?_, failing⟩
    rcases passing passes with confirmed | confirmed | ⟨first, second⟩
    · exact .inl confirmed
    · exact .inr confirmed
    · exact absurd listed (by simp [first, second])

/-- A file with its digests. -/
def releasedFile : Bytes := lit "shadownet 1.0.0\n"

def releasedSum256 : Bytes :=
    [0xcf, 0xe9, 0xb2, 0xc9, 0x56, 0x4b, 0x29, 0x33, 0xad, 0xcd, 0x0a, 0x2b, 0x26, 0xf6, 0x08,
      0x32, 0x91, 0x44, 0x26, 0x0a, 0x73, 0xcf, 0xd1, 0x5e, 0x0c, 0xe1, 0x3e, 0xb3, 0x91, 0x9a,
      0x7a, 0x3d]

def releasedSum512 : Bytes :=
    [0xdf, 0x7f, 0xe3, 0x39, 0x6c, 0x3c, 0xa3, 0x74, 0x55, 0x41, 0x82, 0xd8, 0x09, 0x92, 0x89,
      0x7b, 0xab, 0x97, 0xcc, 0x29, 0xa8, 0x48, 0x0c, 0xd9, 0xd1, 0xd9, 0x95, 0x73, 0x19, 0xb0,
      0x12, 0x34, 0x11, 0xc0, 0xb0, 0xd0, 0xbd, 0x00, 0x8e, 0x15, 0xc9, 0x86, 0x1f, 0xa1, 0x49,
      0x78, 0x62, 0xd3, 0x4f, 0x1c, 0x0b, 0x12, 0xda, 0xde, 0x70, 0x94, 0x9f, 0x5c, 0x6d, 0x25,
      0x6d, 0x3c, 0xb9, 0x73]

/-- The packages on record, for that file. -/
def recordedDigests : Digests where
  sum256 contents := if contents = releasedFile then releasedSum256 else List.replicate 32 0
  sum512 contents := if contents = releasedFile then releasedSum512 else List.replicate 64 0
  size256 contents := by split <;> rfl
  size512 contents := by split <;> rfl

/-- The first digest in capital letters, the second as it is. -/
def releasedArtifact : Artifact :=
  { name := lit "a"
    sha256 := hexDigits (fun _ => true) 0 releasedSum256
    sha512 := hexEncodeToString releasedSum512 }

def bareArtifact : Artifact := { name := lit "a" }

def manifestOf (a : Artifact) : Manifest :=
  { schema := schemaV1, version := lit "v1", artifacts := some [a] }

/-- The file passes for the artifact with its digests, and another does not. -/
theorem releasedArtifact_failsClosed :
    verifyFile recordedDigests (.ok releasedFile) (checksums releasedArtifact) = .ok () ∧
      verifyFile recordedDigests (.ok []) (checksums releasedArtifact) ≠ .ok () ∧
      (FailsClosed recordedDigests releasedFile releasedArtifact ↔
        releasedArtifact.sha256 ≠ [] ∨ releasedArtifact.sha512 ≠ []) := by
  have accepted : Accepts (fun _ => ⟨"EOF", []⟩) (manifestOf releasedArtifact) :=
    .inr (by decide +kernel)
  exact ⟨by decide, by decide,
    failsClosed_iff accepted (List.mem_singleton_self _) recordedDigests releasedFile⟩

/-- A manifest without digests is loaded, and its artifact passes for a file. -/
theorem bareArtifact_passes : ¬ ∀ (jsonError : Bytes → Message) (m : Manifest), Accepts jsonError m →
    ∀ a ∈ m.artifacts.getD [], ∀ (digests : Digests) (contents : Bytes),
      FailsClosed digests contents a := by
  intro every
  have loaded : load (fun _ => ⟨"EOF", []⟩) (lit ("\x7b\"schema\":\"shadownet.release-manifest.v1\"," ++
      "\"version\":\"v1\",\"artifacts\":[\x7b\"name\":\"a\"\x7d]\x7d")) =
      .ok (manifestOf bareArtifact) := by decide
  have passes : verifyFile recordedDigests (.ok releasedFile) (checksums bareArtifact) = .ok () := by
    decide
  rcases (every _ _ (.inl ⟨_, loaded⟩) bareArtifact (List.mem_singleton_self _) recordedDigests
    releasedFile).1 passes with confirmed | confirmed
  · exact confirmed.1 rfl
  · exact confirmed.1 rfl

end ShadowNet.Installer
