import ShadowNet.Import.ParseBytes

/-! # Replays on one importer

An `Importer` remembers the IDs of the bundles that it has parsed. Over any sequence of its calls a
bundle ID is let through at most once.
-/

namespace ShadowNet

open Go Go.Json

/-- The ID in the header of a bundle. -/
def bundleID (bundleBytes : Bytes) : Option GoString :=
  (decodeStrict Wrapper.codec {} bundleBytes).map (·.header.bundleID)

/-- The bundle that a `snb` URI holds. -/
def uriBundle (uri : GoString) : Option Bytes :=
  if hasPrefix uri (lit "snb://v2:") then Base64.decode (uri.drop 9) else none

/-- The bundle in a file, as bytes or as a URI. -/
def fileBundle (raw : Bytes) : Option Bytes :=
  if hasPrefix (trimSpace raw) (lit "snb://v2:") then uriBundle (trimSpace raw) else some raw

/-- A JSON object is no URI. -/
theorem brace_not_uri (rest : Bytes) :
    hasPrefix (trimSpace (0x7B :: rest)) (lit "snb://v2:") = false := by
  obtain ⟨kept, trimmed⟩ := trimSpace_cons_visible (by decide : isVisible 0x7B = true) rest
  rw [trimmed]
  apply decide_eq_false
  rintro ⟨tail, same⟩
  have first : (0x73 : UInt8) = 0x7B := (List.cons.inj same).1
  exact absurd first (by decide)

theorem fileBundle_of_brace (rest : Bytes) : fileBundle (0x7B :: rest) = some (0x7B :: rest) := by
  rw [fileBundle, brace_not_uri]
  rfl

/-- A call on an importer, with the time that it reads. -/
inductive ParseCall where
  | parseBytes (bundleBytes : Bytes) (clock : Int64)
  | parseURI (uri : GoString) (clock : Int64)

def ParseCall.bundle : ParseCall → Option Bytes
  | .parseBytes bundleBytes _ => some bundleBytes
  | .parseURI uri _ => uriBundle uri

variable {suite : Suite}

def ParseCall.run (engine : TextTemplate.Engine Profile) (importer : Importer suite) :
    ParseCall → Parsed suite
  | .parseBytes bundleBytes clock => importer.parseBytes engine bundleBytes clock
  | .parseURI uri clock => importer.parseURI engine uri clock

/-- A file is imported if it holds a bundle that `ParseBytes` lets through. -/
theorem importFile_eq_ok {engine : TextTemplate.Engine Profile} {importer : Importer suite}
    {file : Option Bytes} {clock : Int64} {payload : BundlePayload} :
    (importer.importFile engine file clock).2 = .ok payload ↔
      ∃ bundleBytes, file.bind fileBundle = some bundleBytes ∧
        (importer.parseBytes engine bundleBytes clock).2 = .ok payload := by
  cases file with
  | none => exact iff_of_false nofun fun found => nomatch found
  | some raw =>
    simp only [Importer.importFile, Option.bind_some, fileBundle, uriBundle]
    split_ifs with uri
    · simp only [Importer.parseURI, if_pos uri]
      cases Base64.decode ((trimSpace raw).drop 9) with
      | none => exact iff_of_false nofun fun found => nomatch found
      | some bundleBytes => simp
    · simp

/-- The IDs of the bundles that a sequence of calls lets through. -/
def parsedIDs (engine : TextTemplate.Engine Profile) (importer : Importer suite) :
    List ParseCall → List GoString
  | [] => []
  | call :: calls =>
      match call.run engine importer with
      | (after, .ok _) =>
          ((call.bundle.bind bundleID).getD []) :: parsedIDs engine after calls
      | (after, .error _) => parsedIDs engine after calls

/-- The calls of an importer only ever add to what it has seen, and a success adds the bundle's ID. -/
structure Remembers (importer : Importer suite) (bundle : Option Bytes) (parsed : Parsed suite) :
    Prop where
  grows : importer.seenBundleIDs ⊆ parsed.1.seenBundleIDs
  adds : ∀ payload, parsed.2 = .ok payload → ∃ id, bundle.bind bundleID = some id ∧
    id ∉ importer.seenBundleIDs ∧ id ∈ parsed.1.seenBundleIDs

variable {engine : TextTemplate.Engine Profile} {importer : Importer suite}

theorem remembers_of_error (bundle : Option Bytes) (failure : ImportFailure) :
    Remembers importer bundle (importer, .error failure) :=
  ⟨List.Subset.refl _, nofun⟩

/-- What a verifier without an error returns about the bundle's ID. -/
theorem verifyBundle_bundleID {bundleBytes : Bytes} {key : PublicKey} {opts : VerifyOptions suite}
    {clock : Int64} {res : VerifyResult} {payload : BundlePayload}
    (verified : verifyBundle suite engine bundleBytes key opts clock = (some res, none))
    (returned : res.payload = some payload) : bundleID bundleBytes = some res.header.bundleID := by
  obtain ⟨wrapper, _, _, _, _, accepted, rfl, -⟩ :=
    (verifyBundle_eq_payload suite).mp ⟨verified, returned⟩
  rw [bundleID, accepted.parses]
  rfl

theorem accept_remembers {bundleBytes : Bytes} {key : PublicKey} {clock : Int64}
    {res : Option VerifyResult}
    (verified : verifyBundle suite engine bundleBytes key importer.options clock = (res, none)) :
    Remembers importer (some bundleBytes) (importer.accept res) := by
  unfold Importer.accept
  split
  · rename_i header keyID digest payload
    have named : bundleID bundleBytes = some header.bundleID := verifyBundle_bundleID verified rfl
    split_ifs with seen
    · exact remembers_of_error _ _
    · dsimp only
      split_ifs
      · exact ⟨List.subset_cons_self _ _,
          fun _ _ => ⟨header.bundleID, named, seen, List.mem_cons_self ..⟩⟩
      · exact ⟨List.subset_cons_self _ _, nofun⟩
  · exact remembers_of_error _ _

theorem parseBytes_remembers (importer : Importer suite) (engine : TextTemplate.Engine Profile)
    (bundleBytes : Bytes) (clock : Int64) :
    Remembers importer (some bundleBytes) (importer.parseBytes engine bundleBytes clock) := by
  unfold Importer.parseBytes
  split_ifs with empty
  · exact remembers_of_error _ _
  · split
    · rename_i parsed searched
      obtain ⟨-, key, -, middle, -, -, left⟩ := foldlM_eq_error.mp searched
      unfold Importer.tryKey at left
      split at left <;> rename_i verified
      · cases left
        exact accept_remembers verified
      · cases left
      · cases left
        exact remembers_of_error _ _
    · exact remembers_of_error _ _
    · exact remembers_of_error _ _
    · exact remembers_of_error _ _

theorem parseURI_remembers (importer : Importer suite) (engine : TextTemplate.Engine Profile)
    (uri : GoString) (clock : Int64) :
    Remembers importer (uriBundle uri) (importer.parseURI engine uri clock) := by
  unfold Importer.parseURI uriBundle
  split_ifs
  · cases Base64.decode (uri.drop 9) with
    | none => exact remembers_of_error _ _
    | some bundleBytes => exact parseBytes_remembers importer engine bundleBytes clock
  · exact remembers_of_error _ _

theorem ParseCall.run_remembers (call : ParseCall) (engine : TextTemplate.Engine Profile)
    (importer : Importer suite) : Remembers importer call.bundle (call.run engine importer) := by
  cases call with
  | parseBytes bundleBytes clock => exact parseBytes_remembers importer engine bundleBytes clock
  | parseURI uri clock => exact parseURI_remembers importer engine uri clock

/-- One importer lets a bundle ID through at most once, and none that it has seen before. -/
theorem parsedIDs_nodup (engine : TextTemplate.Engine Profile) (importer : Importer suite)
    (calls : List ParseCall) :
    (parsedIDs engine importer calls).Nodup ∧
      ∀ id ∈ parsedIDs engine importer calls, id ∉ importer.seenBundleIDs := by
  induction calls generalizing importer with
  | nil => exact ⟨.nil, nofun⟩
  | cons call calls ih =>
    have remembers := call.run_remembers engine importer
    rw [parsedIDs]
    split
    · rename_i after payload ran
      rw [ran] at remembers
      obtain ⟨id, named, fresh, added⟩ := remembers.adds payload rfl
      obtain ⟨distinct, unseen⟩ := ih after
      rw [named, Option.getD_some]
      refine ⟨List.nodup_cons.mpr ⟨fun again => unseen id again added, distinct⟩,
        List.forall_mem_cons.mpr ⟨fresh, fun other member before => ?_⟩⟩
      exact unseen other member (remembers.grows before)
    · rename_i after failure ran
      rw [ran] at remembers
      obtain ⟨distinct, unseen⟩ := ih after
      exact ⟨distinct, fun other member before => unseen other member (remembers.grows before)⟩

end ShadowNet
