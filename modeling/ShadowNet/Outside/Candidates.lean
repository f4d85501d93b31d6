import ShadowNet.Bundle.Verify

/-! # Choosing candidates for a bundle

Candidates are read from JSON files, normalized and scored, and then picked: first the best of each
family, then the best of the rest, within caps and without sharing endpoints. Scores are sums of
small integers, which the float64 values of the source hold exactly.
-/

namespace ShadowNet

open Go Go.Json

/-! ## Loading -/

/-- `loadProfilesFile` on the contents of the file. -/
def loadProfilesFile (raw : Bytes) : Except String (List Profile) :=
  let trimmed := trimSpace raw
  if trimmed = [] then .error "empty profiles file"
  else if hasPrefix trimmed (lit "[") then
    match decodeStrict (.slice Profile.codec {}) none trimmed with
    | some profiles => .ok (profiles.getD [])
    | none => .error "%w"
  else
    match decodeStrict Profile.codec {} trimmed with
    | some profile => .ok [profile]
    | none => .error "%w"

/-- `loadProfilesDir` on the contents of the JSON files, in the order of their paths. -/
def loadProfilesDir (files : List Bytes) : Except String (List Profile) :=
  if files = [] then .error "no .json files found in %s"
  else
    files.mapM fun raw =>
      match decodeStrict Profile.codec {} raw with
      | some profile => .ok profile
      | none => .error "%s: %w"

/-- `LoadCandidates`, with what it finds at the two paths where they are given. -/
def loadCandidates (profilesFile : Option Bytes) (profilesDir : Option (List Bytes)) :
    Except String (List Profile) := do
  let fromFile ← profilesFile.elim (.ok []) loadProfilesFile
  let fromDir ← profilesDir.elim (.ok []) loadProfilesDir
  let out := fromFile ++ fromDir
  if out = [] then .error "no candidates loaded: set --profiles or --profiles-dir" else return out

/-- Candidates come with UTF-8 strings, whatever the files hold. -/
theorem loadCandidates_utf8 {profilesFile : Option Bytes} {profilesDir : Option (List Bytes)}
    {out : List Profile} (loaded : loadCandidates profilesFile profilesDir = .ok out) :
    ∀ p ∈ out, p.Utf8 := by
  have one {raw : Bytes} {p : Profile} (decoded : decodeStrict Profile.codec {} raw = some p) :
      p.Utf8 := decodeStrict_keeps Profile.codec_keeps Profile.utf8_zero decoded
  have file (raw : Bytes) (profiles : List Profile)
      (read : loadProfilesFile raw = .ok profiles) : ∀ p ∈ profiles, p.Utf8 := by
    unfold loadProfilesFile at read
    simp only at read
    split_ifs at read
    · split at read <;> cases read
      rename_i decoded
      exact decodeStrict_keeps (keeps_slice Profile.utf8_zero Profile.codec_keeps) (by simp) decoded
    · split at read <;> cases read
      rename_i decoded
      exact List.forall_mem_singleton.mpr (one decoded)
  have dir (files : List Bytes) (profiles : List Profile)
      (read : loadProfilesDir files = .ok profiles) : ∀ p ∈ profiles, p.Utf8 := by
    unfold loadProfilesDir at read
    split_ifs at read with empty
    clear empty
    induction files generalizing profiles with
    | nil => cases read; simp
    | cons raw rest ih =>
      rw [List.mapM_cons] at read
      obtain ⟨first, here, later⟩ := bind_eq_ok.mp read
      obtain ⟨others, there, made⟩ := bind_eq_ok.mp later
      cases made
      refine List.forall_mem_cons.mpr ⟨?_, ih others there⟩
      split at here <;> cases here
      rename_i decoded
      exact one decoded
  simp only [loadCandidates, bind_eq_ok] at loaded
  obtain ⟨fromFile, first, fromDir, second, loaded⟩ := loaded
  split_ifs at loaded
  · cases loaded
    intro p member
    obtain inFile | inDir := List.mem_append.mp member
    · cases profilesFile with
      | none => cases first; cases inFile
      | some raw => exact file raw fromFile first p inFile
    · cases profilesDir with
      | none => cases second; cases inDir
      | some files => exact dir files fromDir second p inDir

/-! ## Scoring -/

structure Candidate where
  profile : Profile
  score : ℤ
deriving DecidableEq

structure Exclusion where
  id : GoString
  reason : String
deriving DecidableEq, Repr

/-- `now - p.CreatedAt`, not below zero. -/
def ageSec (p : Profile) (now : Int64) : Int64 := if now - p.createdAt < 0 then 0 else now - p.createdAt

def scoreCandidate (p : Profile) (now : Int64) : ℤ :=
  let fresh : ℤ :=
    if ageSec p now < 7 * 24 * 3600 then 15 else if ageSec p now < 30 * 24 * 3600 then 5 else 0
  let expiring : ℤ := if p.expiresAt ≠ 0 ∧ p.expiresAt - now < 48 * 3600 then 20 else 0
  p.source.trustLevel.toInt + p.priority.toInt * 10 + fresh - expiring

/-- Not after: a higher score, or the same score and an ID that is not larger. -/
def Candidate.before (c d : Candidate) : Bool :=
  if c.score = d.score then c.profile.id ≤ d.profile.id else d.score < c.score

/-- `sort.SliceStable` by score and then by ID. -/
def sortByScore (candidates : List Candidate) : List Candidate :=
  candidates.insertionSort fun c d => c.before d

structure Scored where
  out : List Candidate := []
  seenIDs : List GoString := []
  excluded : List Exclusion := []

/-- One round of the loop of `ValidateNormalizeAndScore`. -/
def scoreOne (now : Int64) (scored : Scored) (p : Profile) : Scored :=
  match (normalizeForWire p now).2 with
  | .error text => { scored with excluded := scored.excluded ++ [⟨p.id, text⟩] }
  | .ok cp =>
      if cp.id ∈ scored.seenIDs then
        { scored with excluded := scored.excluded ++ [⟨cp.id, "duplicate id"⟩] }
      else
        { scored with
          out := scored.out ++ [⟨cp, scoreCandidate cp now⟩]
          seenIDs := cp.id :: scored.seenIDs }

def validateNormalizeAndScore (candidates : List Profile) (now : Int64) :
    List Candidate × List Exclusion :=
  let scored := candidates.foldl (scoreOne now) {}
  (sortByScore scored.out, scored.excluded)

/-! ## Selecting -/

structure SelectionParams where
  maxProfiles : ℤ
  maxPerFamily : ℤ

/-- The parameters after the defaults for values that are not positive. -/
def SelectionParams.defaults (params : SelectionParams) : SelectionParams :=
  let maxProfiles := if params.maxProfiles ≤ 0 then 20 else params.maxProfiles
  { maxProfiles
    maxPerFamily := if params.maxPerFamily ≤ 0 then maxProfiles else params.maxPerFamily }

/-- What the closure `selectOne` of `SelectForBundle` works on. -/
structure Selection where
  selected : List Candidate := []
  excluded : List Exclusion := []
  seenEndpoints : List GoString := []
  selectedPerFamily : Map Family ℤ := ∅

def selectOne (params : SelectionParams) (selection : Selection) (c : Candidate) :
    Selection × Bool :=
  let perFamily := (selection.selectedPerFamily.find? c.profile.family).getD 0
  let ek := endpointKey c.profile
  if params.maxPerFamily ≤ perFamily then
    ({ selection with excluded := selection.excluded ++ [⟨c.profile.id, "cap per family"⟩] }, false)
  else if ek ∈ selection.seenEndpoints then
    ({ selection with
      excluded := selection.excluded ++ [⟨c.profile.id, "duplicate endpoint"⟩] }, false)
  else
    ({ selection with
      selected := selection.selected ++ [c]
      seenEndpoints := ek :: selection.seenEndpoints
      selectedPerFamily := selection.selectedPerFamily.insert c.profile.family (perFamily + 1) },
      true)

/-- Candidates by family, each family's in the order of their scores. -/
def groupByFamily (candidates : List Candidate) : Map Family (List Candidate) :=
  candidates.foldl (fun byFamily c =>
    byFamily.insert c.profile.family ((byFamily.find? c.profile.family).getD [] ++ [c])) ∅

/-- The first of each family, in the order of the families; what is left comes second. -/
def selectFirsts (params : SelectionParams) (state : Selection × List Candidate)
    (family : List Candidate) : Selection × List Candidate :=
  let (selection, rest) := state
  if params.maxProfiles ≤ selection.selected.length then (selection, rest ++ family)
  else
    match family with
    | [] => (selection, rest)
    | c :: others =>
        let (selection, chosen) := selectOne params selection c
        (selection, rest ++ if chosen then others else family)

/-- One round of the loop over the rest. -/
def selectRest (params : SelectionParams) (selection : Selection) (c : Candidate) : Selection :=
  if params.maxProfiles ≤ selection.selected.length then
    { selection with
      excluded := selection.excluded ++ [⟨c.profile.id, "max profiles reached"⟩] }
  else (selectOne params selection c).1

/-- The loops of `SelectForBundle`: the candidates included, ordered by ID, and the exclusions. -/
def selectCandidates (candidates : List Candidate) (params : SelectionParams) :
    List Candidate × List Exclusion :=
  let families := (groupByFamily candidates).entries.map fun entry => sortByScore entry.2
  let (selection, rest) :=
    if 1 < params.maxProfiles ∧ 1 < families.length then
      families.foldl (selectFirsts params) ({}, [])
    else ({}, families.flatten)
  let selection := (sortByScore rest).foldl (selectRest params) selection
  (selection.selected.insertionSort fun c d => c.profile.id ≤ d.profile.id, selection.excluded)

/-- `SelectForBundle`. It first makes a slice with room for as many candidates as a bundle may have,
and panics if that is more than the `capacity` of a slice. -/
def selectForBundle (capacity : ℕ) (candidates : List Candidate) (params : SelectionParams) :
    Option (List Candidate × List Exclusion) :=
  if capacity < params.defaults.maxProfiles then none
  else some (selectCandidates candidates params.defaults)

/-! ## What is included -/

/-- A result is that of the loops, where the slice can be made. -/
theorem selectForBundle_eq_some {capacity : ℕ} {candidates : List Candidate}
    {params : SelectionParams} {result : List Candidate × List Exclusion} :
    selectForBundle capacity candidates params = some result ↔
      params.defaults.maxProfiles ≤ capacity ∧
        selectCandidates candidates params.defaults = result := by
  unfold selectForBundle
  split_ifs with panics
  · exact iff_of_false nofun fun fits => absurd panics (not_lt.mpr fits.1)
  · rw [Option.some.injEq, and_iff_right (not_lt.mp panics)]

/-- The selection returns a result with some property if the slice is made and what the loops give
has it. -/
theorem exists_selectForBundle {capacity : ℕ} {candidates : List Candidate}
    {params : SelectionParams} {good : List Candidate × List Exclusion → Prop}
    (always : good (selectCandidates candidates params.defaults)) :
    (∃ result, selectForBundle capacity candidates params = some result ∧ good result) ↔
      params.defaults.maxProfiles ≤ capacity := by
  simp only [selectForBundle_eq_some]
  constructor
  · rintro ⟨-, ⟨fits, -⟩, -⟩
    exact fits
  · exact fun fits => ⟨_, ⟨fits, rfl⟩, always⟩

theorem sortByScore_perm (candidates : List Candidate) :
    (sortByScore candidates).Perm candidates := List.perm_insertionSort _ _

private theorem scoreOne_keeps {pool : List Profile} {now : Int64} {scored : Scored} {p : Profile}
    (member : p ∈ pool)
    (holds : (∀ c ∈ scored.out, ∃ raw ∈ pool, (normalizeForWire raw now).2 = .ok c.profile) ∧
      scored.seenIDs = (scored.out.map (·.profile.id)).reverse ∧ scored.seenIDs.Nodup) :
    (∀ c ∈ (scoreOne now scored p).out,
        ∃ raw ∈ pool, (normalizeForWire raw now).2 = .ok c.profile) ∧
      (scoreOne now scored p).seenIDs = ((scoreOne now scored p).out.map (·.profile.id)).reverse ∧
      (scoreOne now scored p).seenIDs.Nodup := by
  obtain ⟨each, ids, distinct⟩ := holds
  unfold scoreOne
  split
  · exact ⟨each, ids, distinct⟩
  · rename_i cp normalized
    split_ifs with seen
    · exact ⟨each, ids, distinct⟩
    · refine ⟨fun c inside => ?_, by simp [ids], List.nodup_cons.mpr ⟨seen, distinct⟩⟩
      obtain before | here := List.mem_append.mp inside
      · exact each c before
      · exact ⟨p, member, by rw [normalized, List.mem_singleton.mp here]⟩

/-- Scored candidates are normalized, with distinct IDs. -/
theorem validateNormalizeAndScore_spec (candidates : List Profile) (now : Int64) :
    (∀ c ∈ (validateNormalizeAndScore candidates now).1,
        ∃ raw ∈ candidates, (normalizeForWire raw now).2 = .ok c.profile) ∧
      ((validateNormalizeAndScore candidates now).1.map (·.profile.id)).Nodup := by
  obtain ⟨each, ids, distinct⟩ := List.foldlRecOn (motive := fun scored : Scored =>
      (∀ c ∈ scored.out, ∃ raw ∈ candidates, (normalizeForWire raw now).2 = .ok c.profile) ∧
        scored.seenIDs = (scored.out.map (·.profile.id)).reverse ∧ scored.seenIDs.Nodup)
    candidates (scoreOne now) (b := {}) ⟨by simp, rfl, .nil⟩
    fun scored holds p member => scoreOne_keeps member holds
  have perm := sortByScore_perm (candidates.foldl (scoreOne now) {}).out
  refine ⟨fun c member => each c (perm.mem_iff.mp member), ?_⟩
  rw [ids, List.nodup_reverse] at distinct
  exact (perm.map _).nodup_iff.mpr distinct

/-- Candidates from a pool, no two with the same endpoint. -/
structure SelectionOk (pool : List Candidate) (selection : Selection) : Prop where
  members : ∀ c ∈ selection.selected, c ∈ pool
  recorded : selection.seenEndpoints =
    (selection.selected.map fun c => endpointKey c.profile).reverse
  distinct : selection.seenEndpoints.Nodup

/-- A candidate that is considered keeps the selection sound. -/
theorem selectOne_ok {params : SelectionParams} {pool : List Candidate} {selection : Selection}
    {c : Candidate} (ok : SelectionOk pool selection) (member : c ∈ pool) :
    SelectionOk pool (selectOne params selection c).1 := by
  unfold selectOne
  simp only
  split_ifs with capped seen
  · exact ⟨ok.members, ok.recorded, ok.distinct⟩
  · exact ⟨ok.members, ok.recorded, ok.distinct⟩
  · refine ⟨fun d inside => ?_, by simp [ok.recorded], List.nodup_cons.mpr ⟨seen, ok.distinct⟩⟩
    obtain before | here := List.mem_append.mp inside
    · exact ok.members d before
    · exact List.mem_singleton.mp here ▸ member

private theorem selectFirsts_ok {params : SelectionParams} {pool : List Candidate}
    {state : Selection × List Candidate} {family : List Candidate}
    (ok : SelectionOk pool state.1 ∧ ∀ c ∈ state.2, c ∈ pool) (members : ∀ c ∈ family, c ∈ pool) :
    SelectionOk pool (selectFirsts params state family).1 ∧
      ∀ c ∈ (selectFirsts params state family).2, c ∈ pool := by
  obtain ⟨selection, rest⟩ := state
  obtain ⟨ok, restMembers⟩ := ok
  have appended {more : List Candidate} (moreMembers : ∀ c ∈ more, c ∈ pool) :
      ∀ c ∈ rest ++ more, c ∈ pool := fun c inside =>
    (List.mem_append.mp inside).elim (restMembers c) (moreMembers c)
  unfold selectFirsts
  simp only
  split_ifs with full
  · exact ⟨ok, appended members⟩
  · cases family with
    | nil => exact ⟨ok, restMembers⟩
    | cons c others =>
      obtain ⟨own, othersMembers⟩ := List.forall_mem_cons.mp members
      refine ⟨selectOne_ok ok own, appended ?_⟩
      split_ifs
      · exact othersMembers
      · exact members

private theorem groupByFamily_members {candidates : List Candidate} {family : Family}
    {group : List Candidate} (found : (groupByFamily candidates).find? family = some group) :
    ∀ c ∈ group, c ∈ candidates := by
  have all := List.foldlRecOn (motive := fun byFamily : Map Family (List Candidate) =>
      ∀ family group, byFamily.find? family = some group → ∀ c ∈ group, c ∈ candidates)
    candidates (fun byFamily c => byFamily.insert c.profile.family
      ((byFamily.find? c.profile.family).getD [] ++ [c])) (b := ∅)
    (fun family group found => by cases found)
    (fun byFamily holds c member family group found d inside => ?_)
  · exact all family group found
  · rw [Map.find?_insert] at found
    split_ifs at found with same
    · cases found
      obtain before | here := List.mem_append.mp inside
      · cases held : byFamily.find? c.profile.family with
        | none => rw [held] at before; cases before
        | some earlier => rw [held] at before; exact holds _ earlier held d before
      · exact List.mem_singleton.mp here ▸ member
    · exact holds family group found d inside

/-- The two rounds of the selection, before the result is ordered. -/
private theorem selected_ok (params : SelectionParams) {pool : List Candidate}
    {first : Selection × List Candidate}
    (ok : SelectionOk pool first.1 ∧ ∀ c ∈ first.2, c ∈ pool) :
    SelectionOk pool ((sortByScore first.2).foldl (selectRest params) first.1) := by
  apply List.foldlRecOn (motive := SelectionOk pool) _ _ ok.1
  intro selection holds c member
  unfold selectRest
  split_ifs
  · exact ⟨holds.members, holds.recorded, holds.distinct⟩
  · exact selectOne_ok holds (ok.2 c ((sortByScore_perm first.2).mem_iff.mp member))

/-- What is selected comes from the candidates, with distinct endpoints. -/
theorem selectCandidates_spec (candidates : List Candidate) (params : SelectionParams) :
    (∀ c ∈ (selectCandidates candidates params).1, c ∈ candidates) ∧
      ((selectCandidates candidates params).1.map fun c => endpointKey c.profile).Nodup := by
  have groups : ∀ group ∈ (groupByFamily candidates).entries.map fun entry => sortByScore entry.2,
      ∀ c ∈ group, c ∈ candidates := by
    intro group inside c member
    obtain ⟨⟨family, held⟩, entry, rfl⟩ := List.mem_map.mp inside
    exact groupByFamily_members ((Map.find?_eq_some _).mpr entry) c
      ((sortByScore_perm held).mem_iff.mp member)
  have start : SelectionOk candidates {} := ⟨by simp, rfl, .nil⟩
  have whole (first : Selection × List Candidate)
      (ok : SelectionOk candidates first.1 ∧ ∀ c ∈ first.2, c ∈ candidates) :
      let selected := ((sortByScore first.2).foldl (selectRest params) first.1).selected
      let ordered := selected.insertionSort fun c d => c.profile.id ≤ d.profile.id
      (∀ c ∈ ordered, c ∈ candidates) ∧ (ordered.map fun c => endpointKey c.profile).Nodup := by
    intro selected ordered
    have final : SelectionOk candidates _ := selected_ok params ok
    have perm : ordered.Perm selected := List.perm_insertionSort _ _
    have distinct := final.distinct
    rw [final.recorded, List.nodup_reverse] at distinct
    exact ⟨fun c member => final.members c (perm.mem_iff.mp member),
      (perm.map _).nodup_iff.mpr distinct⟩
  unfold selectCandidates
  simp only
  split_ifs
  · exact whole _ (List.foldlRecOn
      (motive := fun state : Selection × List Candidate =>
        SelectionOk candidates state.1 ∧ ∀ c ∈ state.2, c ∈ candidates)
      _ _ ⟨start, by simp⟩ fun state ok group member => selectFirsts_ok ok (groups group member))
  · refine whole ({}, _) ⟨start, fun c member => ?_⟩
    obtain ⟨group, inside, own⟩ := List.mem_flatten.mp member
    exact groups group inside c own

end ShadowNet
