import ShadowNet.Outside.Exclusions

/-! # The same candidates make the same bundle

Neither the order in which raw candidates are handed in nor the order in which the maps are gone
through shows in the result: scores and IDs put the candidates into one order, and the names do the
same for the families.
-/

namespace ShadowNet

open Go

/-! ## The order of the maps -/

/-- One round of the loop over the map that sorts the candidates of each family. -/
def sortGroup (byFamily : Map Family (List Candidate)) (family : Family) :
    Map Family (List Candidate) :=
  byFamily.insert family (sortByScore ((byFamily.find? family).getD []))

/-- The loops of `SelectForBundle`, where the two over the map of the families go through it in some
orders. -/
def selectCandidatesIn (sorting listing : List Family) (candidates : List Candidate)
    (params : SelectionParams) : List Candidate × List Exclusion :=
  let byFamily := sorting.foldl sortGroup (groupByFamily candidates)
  let families := listing.insertionSort (· ≤ ·)
  let groups := families.map fun family => (byFamily.find? family).getD []
  let (selection, rest) :=
    if 1 < params.maxProfiles ∧ 1 < families.length then
      groups.foldl (selectFirsts params) ({}, [])
    else ({}, groups.flatten)
  let selection := (sortByScore rest).foldl (selectRest params) selection
  (selection.selected.insertionSort fun c d => c.profile.id ≤ d.profile.id, selection.excluded)

/-- `SelectForBundle`, with the map of the families gone through in some orders. -/
def selectForBundleIn (capacity : ℕ) (sorting listing : List Family) (candidates : List Candidate)
    (params : SelectionParams) : Option (List Candidate × List Exclusion) :=
  if capacity < params.defaults.maxProfiles then none
  else some (selectCandidatesIn sorting listing candidates params.defaults)

/-- The families of some candidates in an order in which a map may be gone through. -/
def MapOrder (candidates : List Candidate) (order : List Family) : Prop :=
  order.Perm ((groupByFamily candidates).entries.map (·.1))

instance (candidates : List Candidate) (order : List Family) :
    Decidable (MapOrder candidates order) := inferInstanceAs (Decidable (List.Perm _ _))

theorem find?_foldl_sortGroup {order : List Family} (distinct : order.Nodup)
    (byFamily : Map Family (List Candidate)) (family : Family) :
    (order.foldl sortGroup byFamily).find? family =
      if family ∈ order then some (sortByScore ((byFamily.find? family).getD []))
      else byFamily.find? family := by
  induction order generalizing byFamily with
  | nil => rfl
  | cons first rest ih =>
    obtain ⟨fresh, distinct⟩ := List.nodup_cons.mp distinct
    rw [List.foldl_cons, ih distinct, sortGroup, Map.find?_insert]
    by_cases own : first = family
    · subst own
      rw [if_neg fresh, if_pos rfl, if_pos (List.mem_cons_self ..)]
    · rw [if_neg own]
      simp only [List.mem_cons, Ne.symm own, false_or]

theorem sorted_listing {candidates : List Candidate} {order : List Family}
    (lists : MapOrder candidates order) :
    order.insertionSort (· ≤ ·) = (groupByFamily candidates).entries.map (·.1) := by
  refine List.Perm.eq_of_pairwise' (List.pairwise_insertionSort _ _) ?_
    ((List.perm_insertionSort _ _).trans lists)
  exact (List.pairwise_map.mpr (groupByFamily candidates).sorted).imp le_of_lt

/-- The maps may be gone through in any order. -/
theorem selectCandidatesIn_eq {candidates : List Candidate} {sorting listing : List Family}
    (sorts : MapOrder candidates sorting) (lists : MapOrder candidates listing)
    (params : SelectionParams) :
    selectCandidatesIn sorting listing candidates params = selectCandidates candidates params := by
  have distinct : sorting.Nodup := sorts.nodup_iff.mpr (nodup_families candidates)
  have groups : ((groupByFamily candidates).entries.map (·.1)).map (fun family =>
      ((sorting.foldl sortGroup (groupByFamily candidates)).find? family).getD []) =
      (groupByFamily candidates).entries.map fun entry => sortByScore entry.2 := by
    rw [List.map_map]
    apply List.map_congr_left
    intro entry member
    have held : entry.1 ∈ sorting := sorts.mem_iff.mpr (List.mem_map_of_mem member)
    have found : (groupByFamily candidates).find? entry.1 = some entry.2 :=
      (Map.find?_eq_some _).mpr member
    rw [Function.comp_apply, find?_foldl_sortGroup distinct, if_pos held, found]
    rfl
  unfold selectCandidatesIn selectCandidates
  dsimp only
  rw [sorted_listing lists, groups, List.length_map, List.length_map]

/-- In whatever order the map is gone through, the result is the same. -/
theorem selectForBundleIn_eq {capacity : ℕ} {candidates : List Candidate}
    {sorting listing : List Family} (sorts : MapOrder candidates sorting)
    (lists : MapOrder candidates listing) (params : SelectionParams) :
    selectForBundleIn capacity sorting listing candidates params =
      selectForBundle capacity candidates params := by
  rw [selectForBundleIn, selectCandidatesIn_eq sorts lists, selectForBundle]

/-! ## The order of the candidates -/

/-- A raw candidate as it is scored, if it is valid. -/
def scoredCandidate (now : Int64) (p : Profile) : Option Candidate :=
  match (normalizeForWire p now).2 with
  | .ok cp => some ⟨cp, scoreCandidate cp now⟩
  | .error _ => none

/-- The exclusion of a raw candidate that is not valid. -/
def invalidCandidate (now : Int64) (p : Profile) : Option Exclusion :=
  match (normalizeForWire p now).2 with
  | .ok _ => none
  | .error text => some ⟨p.id, text⟩

/-- No two of the raw candidates have the same ID once they are normalized. -/
def DistinctIDs (now : Int64) (profiles : List Profile) : Prop :=
  ((profiles.filterMap (scoredCandidate now)).map (·.profile.id)).Nodup

instance (now : Int64) (profiles : List Profile) : Decidable (DistinctIDs now profiles) :=
  inferInstanceAs (Decidable (List.Nodup _))

theorem foldl_scoreOne_distinct {now : Int64} {profiles : List Profile}
    (distinct : DistinctIDs now profiles) :
    profiles.foldl (scoreOne now) {} =
      { out := profiles.filterMap (scoredCandidate now)
        seenIDs := ((profiles.filterMap (scoredCandidate now)).map (·.profile.id)).reverse
        excluded := profiles.filterMap (invalidCandidate now) } := by
  induction profiles using List.reverseRecOn with
  | nil => rfl
  | append_singleton profiles p ih =>
    rw [DistinctIDs, List.filterMap_append, List.map_append] at distinct
    obtain ⟨front, -, apart⟩ := List.nodup_append.mp distinct
    rw [List.foldl_append, ih front, List.filterMap_append, List.filterMap_append, List.foldl_cons,
      List.foldl_nil, scoreOne]
    cases normalized : (normalizeForWire p now).2 with
    | error text => simp [scoredCandidate, invalidCandidate, normalized]
    | ok cp =>
      have scored : scoredCandidate now p = some ⟨cp, scoreCandidate cp now⟩ := by
        rw [scoredCandidate, normalized]
      have valid : invalidCandidate now p = none := by rw [invalidCandidate, normalized]
      have fresh : cp.id ∉ ((profiles.filterMap (scoredCandidate now)).map (·.profile.id)).reverse := by
        rw [List.mem_reverse]
        intro seen
        refine apart _ seen cp.id ?_ rfl
        rw [List.filterMap_cons, scored]
        exact List.mem_cons_self ..
      dsimp only
      rw [if_neg fresh]
      simp [scored, valid]

/-- Scores and IDs leave one order only. -/
theorem sortByScore_eq_of_perm {candidates shuffled : List Candidate}
    (distinct : (candidates.map (·.profile.id)).Nodup) (same : candidates.Perm shuffled) :
    sortByScore candidates = sortByScore shuffled := by
  refine List.Perm.eq_of_pairwise (fun c d inside other ahead behind => ?_)
    (sortByScore_sorted candidates) (sortByScore_sorted shuffled)
    ((sortByScore_perm _).trans (same.trans (sortByScore_perm _).symm))
  exact List.inj_on_of_nodup_map distinct ((sortByScore_perm _).mem_iff.mp inside)
    (same.mem_iff.mpr ((sortByScore_perm _).mem_iff.mp other)) (before_antisymm ahead behind)

theorem DistinctIDs.perm {now : Int64} {profiles shuffled : List Profile}
    (distinct : DistinctIDs now profiles) (same : profiles.Perm shuffled) :
    DistinctIDs now shuffled :=
  ((same.filterMap _).map _).nodup_iff.mp distinct

/-- Raw candidates in another order score the same. -/
theorem validateNormalizeAndScore_perm {now : Int64} {profiles shuffled : List Profile}
    (distinct : DistinctIDs now profiles) (same : profiles.Perm shuffled) :
    (validateNormalizeAndScore profiles now).1 = (validateNormalizeAndScore shuffled now).1 ∧
      (validateNormalizeAndScore profiles now).2.Perm (validateNormalizeAndScore shuffled now).2 := by
  unfold validateNormalizeAndScore
  rw [foldl_scoreOne_distinct distinct, foldl_scoreOne_distinct (distinct.perm same)]
  exact ⟨sortByScore_eq_of_perm distinct (same.filterMap _), same.filterMap _⟩

/-- The same raw candidates in another order, and the maps gone through in other orders, give the
same candidates and the same exclusions with the same reasons, or the same panic. -/
theorem selection_reproducible {capacity : ℕ} {now : Int64} {profiles shuffled : List Profile}
    {params : SelectionParams} {sorting listing sorting' listing' : List Family}
    (distinct : DistinctIDs now profiles) (same : profiles.Perm shuffled)
    (orders : MapOrder (validateNormalizeAndScore profiles now).1 sorting ∧
      MapOrder (validateNormalizeAndScore profiles now).1 listing)
    (orders' : MapOrder (validateNormalizeAndScore shuffled now).1 sorting' ∧
      MapOrder (validateNormalizeAndScore shuffled now).1 listing') :
    let scored := validateNormalizeAndScore profiles now
    let scored' := validateNormalizeAndScore shuffled now
    let result := selectForBundleIn capacity sorting listing scored.1 params
    let result' := selectForBundleIn capacity sorting' listing' scored'.1 params
    Option.Rel (fun made made' =>
      made.1 = made'.1 ∧ (scored.2 ++ made.2).Perm (scored'.2 ++ made'.2)) result result' := by
  intro scored scored' result result'
  obtain ⟨candidates, exclusions⟩ := validateNormalizeAndScore_perm distinct same
  have results : result = result' :=
    calc selectForBundleIn capacity sorting listing scored.1 params
      _ = selectForBundle capacity scored.1 params := selectForBundleIn_eq orders.1 orders.2 params
      _ = selectForBundle capacity scored'.1 params := by rw [candidates]
      _ = selectForBundleIn capacity sorting' listing' scored'.1 params :=
        (selectForBundleIn_eq orders'.1 orders'.2 params).symm
  rw [results]
  cases result' with
  | none => exact .none
  | some made => exact .some ⟨rfl, exclusions.append_right _⟩

/-- The best candidate handed in last, and the families gone through in four orders. -/
theorem offeredCandidates_reproducible :
    let profiles := offeredCandidates.map (·.profile)
    let scored := validateNormalizeAndScore profiles 1
    let scored' := validateNormalizeAndScore profiles.reverse 1
    let result := selectForBundleIn 1000 [familyShadowTLS, familyDNS, familyHysteria2]
      [familyDNS, familyHysteria2, familyShadowTLS] scored.1 ⟨2, 2⟩
    let result' := selectForBundleIn 1000 [familyHysteria2, familyDNS, familyShadowTLS]
      [familyShadowTLS, familyHysteria2, familyDNS] scored'.1 ⟨2, 2⟩
    Option.Rel (fun made made' =>
      made.1 = made'.1 ∧ (scored.2 ++ made.2).Perm (scored'.2 ++ made'.2)) result result' :=
  selection_reproducible (by decide) (List.reverse_perm _).symm
    ⟨by decide, by decide⟩ ⟨by decide, by decide⟩

end ShadowNet
