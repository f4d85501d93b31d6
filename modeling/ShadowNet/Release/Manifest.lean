import ShadowNet.Bundle.Verify
import ShadowNet.Go.Hex
import ShadowNet.Go.Result

/-! # Release manifests

`pkg/release`: the file that names the artifacts of a release, with a digest or two for each.
`Load` refuses members that it does not know and text behind the manifest. A digest may be left out,
and one that is there has the right number of hexadecimal digits.
-/

namespace ShadowNet.Release

open Go Go.Json

def schemaV1 : GoString := lit "shadownet.release-manifest.v1"

structure Meta where
  repo : GoString := []
  commitSHA : GoString := []
  builtAt : GoString := []
deriving DecidableEq, Inhabited

structure AssetRules where
  preferred : Map GoString (Option (List GoString)) := ∅
deriving DecidableEq, Inhabited

structure Artifact where
  name : GoString := []
  sha256 : GoString := []
  sha512 : GoString := []
  size : Int64 := 0
deriving DecidableEq, Inhabited

structure Manifest where
  schema : GoString := []
  version : GoString := []
  artifacts : Option (List Artifact) := none
  /-- `Meta`. -/
  about : Option Meta := none
  mapping : Option AssetRules := none
deriving DecidableEq, Inhabited

/-! ## JSON forms -/

def Meta.fields : List (StructField Meta) :=
  [.omitEmpty (lit "repo") (·.repo) (fun value m => { m with repo := value }),
    .omitEmpty (lit "commit_sha") (·.commitSHA) (fun value m => { m with commitSHA := value }),
    .omitEmpty (lit "built_at") (·.builtAt) (fun value m => { m with builtAt := value })]

def Meta.codec : Codec Meta := .struct Meta.fields

def AssetRules.fields : List (StructField AssetRules) :=
  [.omitIf (fun preferred => preferred.entries.isEmpty) (lit "preferred") (·.preferred)
    (fun value r => { r with preferred := value }) (.map (.slice .string []) none)]

def AssetRules.codec : Codec AssetRules := .struct AssetRules.fields

def Artifact.fields : List (StructField Artifact) :=
  [.of (lit "name") (·.name) (fun value a => { a with name := value }) .string,
    .omitEmpty (lit "sha256") (·.sha256) (fun value a => { a with sha256 := value }),
    .omitEmpty (lit "sha512") (·.sha512) (fun value a => { a with sha512 := value }),
    .omitIf (fun size => decide (size = 0)) (lit "size") (·.size)
      (fun value a => { a with size := value }) .int]

def Artifact.codec : Codec Artifact := .struct Artifact.fields

def Manifest.fields : List (StructField Manifest) :=
  [.of (lit "schema") (·.schema) (fun value m => { m with schema := value }) .string,
    .of (lit "version") (·.version) (fun value m => { m with version := value }) .string,
    .of (lit "artifacts") (·.artifacts) (fun value m => { m with artifacts := value })
      (.slice Artifact.codec {}),
    .omitIf Option.isNone (lit "meta") (·.about) (fun value m => { m with about := value })
      (.pointer Meta.codec {}),
    .omitIf Option.isNone (lit "mapping") (·.mapping) (fun value m => { m with mapping := value })
      (.pointer AssetRules.codec {})]

def Manifest.codec : Codec Manifest := .struct Manifest.fields

/-! ## Validation -/

def isHexLen (s : GoString) (bytes : ℕ) : Bool :=
  if s.length ≠ bytes * 2 then false else (hexDecode s).isSome

/-- The loop of `Validate` from artifact `i` on; `nameSeen` has the names of those before. -/
def validateArtifacts : ℕ → List Artifact → List GoString → Except Message Unit
  | _, [], _ => .ok ()
  | i, a :: rest, nameSeen => do
      require (a.name ≠ []) ⟨"manifest: artifacts[%d]: missing name", [.int i]⟩
      require (a.name ∉ nameSeen) ⟨"manifest: duplicate artifact name: %q", [.str a.name]⟩
      require (a.sha256 ≠ [] → isHexLen a.sha256 32 = true)
        ⟨"manifest: %s: invalid sha256", [.str a.name]⟩
      require (a.sha512 ≠ [] → isHexLen a.sha512 64 = true)
        ⟨"manifest: %s: invalid sha512", [.str a.name]⟩
      require (0 ≤ a.size) ⟨"manifest: %s: invalid size", [.str a.name]⟩
      validateArtifacts (i + 1) rest (a.name :: nameSeen)

def Manifest.validate (m : Manifest) : Except Message Unit := do
  require (m.schema ≠ []) ⟨"manifest: missing schema", []⟩
  require (m.schema = schemaV1) ⟨"manifest: unsupported schema: %q", [.str m.schema]⟩
  require (m.version ≠ []) ⟨"manifest: missing version", []⟩
  require (m.artifacts.getD [] ≠ []) ⟨"manifest: missing artifacts", []⟩
  validateArtifacts 0 (m.artifacts.getD []) []

/-- `Load` of the text that the reader gives; `jsonError` is the error of one that is no manifest or
has something behind it. -/
def load (jsonError : Bytes → Message) (text : Bytes) : Except Message Manifest := do
  let m ← orError (decodeStrict Manifest.codec {} text) (jsonError text)
  m.validate
  return m

/-- An artifact that raises no error by itself. -/
structure Artifact.Ok (a : Artifact) : Prop where
  name : a.name ≠ []
  sha256 : a.sha256 ≠ [] → isHexLen a.sha256 32 = true
  sha512 : a.sha512 ≠ [] → isHexLen a.sha512 64 = true
  size : 0 ≤ a.size

/-- A manifest that passes `Validate`. -/
structure Manifest.Ok (m : Manifest) : Prop where
  schema : m.schema = schemaV1
  version : m.version ≠ []
  some : m.artifacts.getD [] ≠ []
  artifacts : ∀ a ∈ m.artifacts.getD [], a.Ok
  distinct : ((m.artifacts.getD []).map (·.name)).Nodup

theorem validateArtifacts_eq_ok {i : ℕ} {artifacts : List Artifact} {nameSeen : List GoString}
    {result : Unit} : validateArtifacts i artifacts nameSeen = .ok result ↔
      (∀ a ∈ artifacts, a.Ok) ∧ (∀ a ∈ artifacts, a.name ∉ nameSeen) ∧
        (artifacts.map (·.name)).Nodup := by
  induction artifacts generalizing i nameSeen with
  | nil => simp [validateArtifacts]
  | cons a rest ih =>
    simp only [validateArtifacts, require_bind_eq_ok, ih, List.forall_mem_cons, List.map_cons,
      List.nodup_cons]
    constructor
    · rintro ⟨name, fresh, sha256, sha512, size, each, unseen, distinct⟩
      refine ⟨⟨⟨name, sha256, sha512, size⟩, each⟩, ⟨fresh, fun b member seen => ?_⟩, ?_, distinct⟩
      · exact unseen b member (List.mem_cons_of_mem _ seen)
      · intro member
        obtain ⟨b, inside, same⟩ := List.mem_map.mp member
        exact unseen b inside (same ▸ List.mem_cons_self ..)
    · rintro ⟨⟨own, each⟩, ⟨fresh, unseen⟩, new, distinct⟩
      refine ⟨own.name, fresh, own.sha256, own.sha512, own.size, each, ?_, distinct⟩
      intro b member held
      rcases List.mem_cons.mp held with same | before
      · exact new (List.mem_map.mpr ⟨b, member, same⟩)
      · exact unseen b member before

theorem Manifest.validate_eq_ok {m : Manifest} {result : Unit} :
    m.validate = .ok result ↔ m.Ok := by
  simp only [validate, require_bind_eq_ok, validateArtifacts_eq_ok]
  constructor
  · rintro ⟨-, schema, version, some, each, -, distinct⟩
    exact ⟨schema, version, some, each, distinct⟩
  · intro ok
    refine ⟨?_, ok.schema, ok.version, ok.some, ok.artifacts, by simp, ok.distinct⟩
    rw [ok.schema]
    decide

theorem load_eq_ok {jsonError : Bytes → Message} {text : Bytes} {m : Manifest} :
    load jsonError text = .ok m ↔ decodeStrict Manifest.codec {} text = some m ∧ m.Ok := by
  simp only [load, bind_eq_ok, orError_eq_ok, Manifest.validate_eq_ok, pure_eq_ok, exists_const]
  constructor
  · rintro ⟨read, decoded, ok, rfl⟩
    exact ⟨decoded, ok⟩
  · rintro ⟨decoded, ok⟩
    exact ⟨m, decoded, ok, rfl⟩

end ShadowNet.Release
