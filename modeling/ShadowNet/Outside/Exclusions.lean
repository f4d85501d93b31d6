import ShadowNet.Outside.Selection

/-! # Why a candidate is left out

The reasons are given in the middle of the two loops, against what has been selected so far. They
stay true: what is selected only grows, and a candidate comes after those that rank above it. The
best candidate of all is safe from every reason but one, the families that go first.
-/

namespace ShadowNet

open Go

/-! ## Reasons against a list of selected candidates -/

/-- Why a candidate cannot be put beside those that are selected. -/
inductive Reason (params : SelectionParams) (selected : List Candidate) (c : Candidate)
    (reason : String) : Prop
  | maxProfiles (text : reason = "max profiles reached")
      (full : params.maxProfiles ≤ selected.length)
  | perFamily (text : reason = "cap per family")
      (capped : params.maxPerFamily ≤ selected.countP (inFamily c.profile.family))
  | endpoint (text : reason = "duplicate endpoint") {d : Candidate} (member : d ∈ selected)
      (same : endpointKey d.profile = endpointKey c.profile) (ahead : d.before c = true)

/-- An exclusion that tells why its candidate is left out. -/
structure Explains (params : SelectionParams) (selected : List Candidate) (c : Candidate)
    (e : Exclusion) : Prop where
  id : e.id = c.profile.id
  reason : Reason params selected c e.reason

/-- After some candidates, each of them is selected or left out for a reason. -/
def Told (params : SelectionParams) (offered : List Candidate) (s : Selection) : Prop :=
  ∃ dropped, offered.Perm (s.selected ++ dropped) ∧
    List.Forall₂ (Explains params s.selected) dropped s.excluded

/-- A reason stays true as more are selected. -/
theorem Reason.mono {params : SelectionParams} {selected more : List Candidate} {c : Candidate}
    {reason : String} (given : Reason params selected c reason) (grown : selected <+: more) :
    Reason params more c reason := by
  have longer := grown.length_le
  cases given with
  | maxProfiles text full => exact .maxProfiles text (by omega)
  | perFamily text capped =>
    have counts : selected.countP (inFamily c.profile.family) ≤
        more.countP (inFamily c.profile.family) := grown.sublist.countP_le
    exact .perFamily text (by omega)
  | endpoint text member same ahead => exact .endpoint text (grown.subset member) same ahead

/-- One more is left out for a reason. -/
theorem Told.exclude {params : SelectionParams} {offered : List Candidate} {s : Selection}
    (told : Told params offered s) {c : Candidate} {reason : String}
    (given : Reason params s.selected c reason) :
    Told params (offered ++ [c])
      { s with excluded := s.excluded ++ [⟨c.profile.id, reason⟩] } := by
  obtain ⟨dropped, perm, each⟩ := told
  refine ⟨dropped ++ [c], ?_, forall₂_concat each ⟨rfl, given⟩⟩
  rw [← List.append_assoc]
  exact perm.append_right [c]

/-- Whatever is selected ranks above the candidates of its family that are still to come. -/
def Led (selected rest : List Candidate) : Prop :=
  ∀ d ∈ selected, ∀ c ∈ rest, d.profile.family = c.profile.family → d.before c = true

section

variable {params : SelectionParams} {offered : List Candidate} {s : Selection}

/-- What `selectOne` leaves out cannot be put beside the selected ones. -/
theorem selectOne_told (told : Told params offered s) (fair : Fair params offered s) {c : Candidate}
    (flat : 0x7C ∉ c.profile.family) (flats : ∀ d ∈ s.selected, 0x7C ∉ d.profile.family)
    (led : Led s.selected [c]) : Told params (offered ++ [c]) (selectOne params s c).1 := by
  unfold selectOne
  dsimp only
  split_ifs with capped seen
  · apply told.exclude
    rw [fair.counted] at capped
    exact .perFamily rfl capped
  · apply told.exclude
    rw [fair.recorded, List.mem_reverse] at seen
    obtain ⟨d, member, same⟩ := List.mem_map.mp seen
    have families := family_of_endpointKey (flats d member) flat same
    exact .endpoint rfl member same (led d member c (List.mem_singleton_self c) families)
  · obtain ⟨dropped, perm, each⟩ := told
    refine ⟨dropped, ?_, each.imp fun other e explained =>
      ⟨explained.id, explained.reason.mono (List.prefix_append ..)⟩⟩
    apply (perm.append_right [c]).trans
    rw [List.append_assoc, List.append_assoc]
    exact List.perm_append_comm.append_left s.selected

/-- The second pass tells the truth of each that it leaves out. -/
theorem selectRest_told (told : Told params offered s) (fair : Fair params offered s) {c : Candidate}
    (flat : 0x7C ∉ c.profile.family) (flats : ∀ d ∈ s.selected, 0x7C ∉ d.profile.family)
    (led : Led s.selected [c]) : Told params (offered ++ [c]) (selectRest params s c) := by
  unfold selectRest
  split_ifs with full
  · exact told.exclude (.maxProfiles rfl full)
  · exact selectOne_told told fair flat flats led

/-- A round of the loop over the rest selects its candidate or nothing. -/
theorem selectRest_selected (params : SelectionParams) (s : Selection) (c : Candidate) :
    (selectRest params s c).selected = s.selected ∨
      (selectRest params s c).selected = s.selected ++ [c] := by
  unfold selectRest selectOne
  dsimp only
  split_ifs
  · exact .inl rfl
  · exact .inl rfl
  · exact .inl rfl
  · exact .inr rfl

/-- The loop over the rest, which comes best first. -/
theorem foldl_selectRest_told {rest : List Candidate} (told : Told params offered s)
    (fair : Fair params offered s) (flat : ∀ c ∈ s.selected ++ rest, 0x7C ∉ c.profile.family)
    (led : Led s.selected rest) (sorted : rest.Pairwise fun c d => c.before d = true) :
    Told params (offered ++ rest) (rest.foldl (selectRest params) s) := by
  induction rest generalizing offered s with
  | nil => rwa [List.append_nil]
  | cons c rest ih =>
    obtain ⟨ahead, sorted⟩ := List.pairwise_cons.mp sorted
    obtain ⟨flats, others⟩ := List.forall_mem_append.mp flat
    obtain ⟨own, later⟩ := List.forall_mem_cons.mp others
    have next := selectRest_told told fair own flats fun d member other here => by
      rw [List.mem_singleton.mp here]
      exact led d member c (List.mem_cons_self ..)
    have whole := ih next (selectRest_fair fair c) ?_ ?_ sorted
    · rwa [List.append_assoc] at whole
    · rcases selectRest_selected params s c with same | picked
      · rw [same]
        exact List.forall_mem_append.mpr ⟨flats, later⟩
      · rw [picked, List.append_assoc]
        exact flat
    · intro d member other inside family
      rcases selectRest_selected params s c with same | picked
      · rw [same] at member
        exact led d member other (List.mem_cons_of_mem _ inside) family
      · rw [picked] at member
        rcases List.mem_append.mp member with before | here
        · exact led d before other (List.mem_cons_of_mem _ inside) family
        · rw [List.mem_singleton.mp here]
          exact ahead other inside

end

/-! ## The first of each family -/

theorem selectOne_selected (params : SelectionParams) (s : Selection) (c : Candidate) :
    (selectOne params s c).1.selected = s.selected ∧ (selectOne params s c).2 = false ∨
      (selectOne params s c).1.selected = s.selected ++ [c] ∧ (selectOne params s c).2 = true := by
  unfold selectOne
  dsimp only
  split_ifs
  · exact .inl ⟨rfl, rfl⟩
  · exact .inl ⟨rfl, rfl⟩
  · exact .inr ⟨rfl, rfl⟩

theorem selectFirsts_led {params : SelectionParams} {state : Selection × List Candidate}
    {family : Family} {group : List Candidate} (led : Led state.1.selected state.2)
    (own : ∀ c ∈ group, c.profile.family = family)
    (sorted : group.Pairwise fun c d => c.before d = true)
    (others : ∀ c ∈ state.1.selected ++ state.2, c.profile.family ≠ family) :
    Led (selectFirsts params state group).1.selected (selectFirsts params state group).2 := by
  obtain ⟨selection, rest⟩ := state
  obtain ⟨earlier, waiting⟩ := List.forall_mem_append.mp others
  have skipped : Led selection.selected (rest ++ group) := by
    intro d member c inside same
    rcases List.mem_append.mp inside with old | new
    · exact led d member c old same
    · exact absurd (same.trans (own c new)) (earlier d member)
  unfold selectFirsts
  dsimp only
  split_ifs with full
  · exact skipped
  · cases group with
    | nil => exact led
    | cons c later =>
      obtain ⟨ahead, -⟩ := List.pairwise_cons.mp sorted
      dsimp only
      rcases selectOne_selected params selection c with ⟨same, passed⟩ | ⟨picked, chosen⟩
      · rw [same, passed]
        exact skipped
      · rw [picked, chosen, if_pos rfl]
        intro d member other inside family
        rcases List.mem_append.mp member with before | here
        · refine skipped d before other ?_ family
          exact (List.append_sublist_append_left rest).mpr (List.sublist_cons_self ..) |>.subset inside
        · cases List.mem_singleton.mp here
          rcases List.mem_append.mp inside with old | new
          · exact absurd (family.symm.trans (own c (List.mem_cons_self ..))) (waiting other old)
          · exact ahead other new

theorem foldl_selectFirsts_led {params : SelectionParams} (cap : 0 < params.maxPerFamily)
    (room : 0 ≤ params.maxProfiles) {groups : List (Family × List Candidate)}
    (belongs : ∀ entry ∈ groups, Group entry.1 entry.2 ∧ 0x7C ∉ entry.1)
    (sorted : ∀ entry ∈ groups, entry.2.Pairwise fun c d => c.before d = true)
    (distinct : (groups.map (·.1)).Nodup) :
    Led ((groups.map (·.2)).foldl (selectFirsts params) ({}, [])).1.selected
      ((groups.map (·.2)).foldl (selectFirsts params) ({}, [])).2 := by
  induction groups using List.reverseRecOn with
  | nil => exact fun d member => absurd member List.not_mem_nil
  | append_singleton groups entry ih =>
    obtain ⟨front, last⟩ := List.forall_mem_append.mp belongs
    obtain ⟨sortedFront, sortedLast⟩ := List.forall_mem_append.mp sorted
    have single := List.mem_singleton_self entry
    rw [List.map_append, List.nodup_append] at distinct
    rw [List.map_append, List.foldl_append]
    have covers := (foldl_selectFirsts_pass cap room front distinct.1).covers
    refine selectFirsts_led (ih front sortedFront distinct.1) (last entry single).1.own
      (sortedLast entry single) fun c member => ?_
    obtain ⟨group, inside, here⟩ := List.mem_flatten.mp (covers.mem_iff.mpr member)
    obtain ⟨other, earlier, rfl⟩ := List.mem_map.mp inside
    rw [(front other earlier).1.own c here]
    exact distinct.2.2 other.1 (List.mem_map_of_mem earlier) entry.1 (List.mem_singleton_self _)

/-! ## The whole selection -/

theorem familyGroups_sorted {candidates : List Candidate} :
    ∀ entry ∈ familyGroups candidates, entry.2.Pairwise fun c d => c.before d = true := by
  intro entry member
  obtain ⟨held, -, rfl⟩ := List.mem_map.mp member
  exact sortByScore_sorted held.2

/-- So do both passes together. -/
theorem selectionOf_told {candidates : List Candidate} {params : SelectionParams}
    (flat : ∀ c ∈ candidates, 0x7C ∉ c.profile.family) (profiles : 0 < params.maxProfiles)
    (cap : 0 < params.maxPerFamily) : Told params candidates (selectionOf candidates params) := by
  have covers := flatten_familyGroups candidates
  have conclude {first : Selection × List Candidate}
      (told : Told params first.1.selected first.1) (fair : Fair params first.1.selected first.1)
      (led : Led first.1.selected first.2) (whole : candidates.Perm (first.1.selected ++ first.2)) :
      Told params candidates ((sortByScore first.2).foldl (selectRest params) first.1) := by
    have perm := sortByScore_perm first.2
    have flats : ∀ c ∈ first.1.selected ++ sortByScore first.2, 0x7C ∉ c.profile.family :=
      fun c member => flat c (whole.mem_iff.mpr ((perm.append_left _).mem_iff.mp member))
    obtain ⟨dropped, split, each⟩ := foldl_selectRest_told told fair flats
      (fun d member c inside => led d member c (perm.mem_iff.mp inside))
      (sortByScore_sorted first.2)
    exact ⟨dropped, (whole.trans (perm.symm.append_left _)).trans split, each⟩
  unfold selectionOf
  dsimp only
  split_ifs
  · have distinct := familyGroups_distinct candidates
    have pass := foldl_selectFirsts_pass cap profiles.le (familyGroups_belong flat) distinct
    have led := foldl_selectFirsts_led cap profiles.le (familyGroups_belong flat)
      familyGroups_sorted distinct
    refine conclude ⟨[], ?_, ?_⟩ pass.fair led (covers.symm.trans pass.covers)
    · rw [List.append_nil]
    · rw [pass.noneExcluded]
      exact .nil
  · exact conclude ⟨[], .nil, .nil⟩ (empty_fair profiles.le cap.le)
      (fun d member => absurd member List.not_mem_nil) covers.symm

/-- What may be included together. -/
structure WithinCaps (params : SelectionParams) (included : List Candidate) : Prop where
  size : (included.length : ℤ) ≤ params.maxProfiles
  perFamily : ∀ family, (included.countP (inFamily family) : ℤ) ≤ params.maxPerFamily
  distinctEndpoints : (included.map fun c => endpointKey c.profile).Nodup

/-- The reasons that are given for exclusions, read against what is included in the end. -/
structure TruthfulExclusions (params : SelectionParams) (candidates included : List Candidate)
    (excluded : List Exclusion) : Prop where
  named : ∀ e ∈ excluded, ∃ c ∈ candidates, e.id = c.profile.id
  maxProfiles : ∀ c ∈ candidates, ⟨c.profile.id, "max profiles reached"⟩ ∈ excluded →
    (included.length : ℤ) = params.maxProfiles
  perFamily : ∀ c ∈ candidates, ⟨c.profile.id, "cap per family"⟩ ∈ excluded →
    (included.countP (inFamily c.profile.family) : ℤ) = params.maxPerFamily
  endpoint : ∀ c ∈ candidates, ⟨c.profile.id, "duplicate endpoint"⟩ ∈ excluded →
    ∃ d ∈ included, endpointKey d.profile = endpointKey c.profile ∧ d.before c = true
  within : WithinCaps params included
  maximal : ∀ c ∈ candidates, c ∉ included → ¬ WithinCaps params (c :: included)

/-- Whoever is left out for a reason cannot be added. -/
theorem Reason.blocks {params : SelectionParams} {included : List Candidate} {c : Candidate}
    {reason : String} (given : Reason params included c reason) :
    ¬ WithinCaps params (c :: included) := by
  intro within
  cases given with
  | maxProfiles text full =>
    have size := within.size
    rw [List.length_cons] at size
    push_cast at size
    omega
  | perFamily text capped =>
    have count := within.perFamily c.profile.family
    have own : inFamily c.profile.family c = true := decide_eq_true rfl
    rw [List.countP_cons_of_pos own] at count
    push_cast at count
    omega
  | endpoint text member same ahead =>
    have fresh := (List.nodup_cons.mp within.distinctEndpoints).1
    exact fresh (List.mem_map.mpr ⟨_, member, same⟩)

theorem WithinCaps.perm {params : SelectionParams} {included other : List Candidate}
    (within : WithinCaps params included) (same : included.Perm other) : WithinCaps params other where
  size := same.length_eq ▸ within.size
  perFamily := fun family => same.countP_eq _ ▸ within.perFamily family
  distinctEndpoints := (same.map _).nodup_iff.mp within.distinctEndpoints

theorem Fair.withinCaps {params : SelectionParams} {offered : List Candidate} {s : Selection}
    (fair : Fair params offered s) : WithinCaps params s.selected where
  size := fair.size
  perFamily := fair.perFamily
  distinctEndpoints := by
    have distinct := fair.distinct
    rwa [fair.recorded, List.nodup_reverse] at distinct

theorem TruthfulExclusions.perm {params : SelectionParams} {candidates included other : List Candidate}
    {excluded : List Exclusion} (truthful : TruthfulExclusions params candidates included excluded)
    (same : included.Perm other) : TruthfulExclusions params candidates other excluded where
  named := truthful.named
  maxProfiles := fun c member out => same.length_eq ▸ truthful.maxProfiles c member out
  perFamily := fun c member out => same.countP_eq _ ▸ truthful.perFamily c member out
  endpoint := fun c member out => by
    obtain ⟨d, inside, rest⟩ := truthful.endpoint c member out
    exact ⟨d, same.mem_iff.mp inside, rest⟩
  within := truthful.within.perm same
  maximal := fun c member out within => truthful.maximal c member
    (fun inside => out (same.mem_iff.mp inside)) (within.perm (same.symm.cons c))

/-- Where every exclusion has a reason, the reasons are true of the candidates they name. -/
theorem Told.truthful {params : SelectionParams} {candidates : List Candidate} {s : Selection}
    (told : Told params candidates s) (within : WithinCaps params s.selected)
    (distinct : (candidates.map (·.profile.id)).Nodup) :
    TruthfulExclusions params candidates s.selected s.excluded := by
  obtain ⟨dropped, perm, each⟩ := told
  have given (c : Candidate) (member : c ∈ candidates) (reason : String)
      (excluded : ⟨c.profile.id, reason⟩ ∈ s.excluded) : Reason params s.selected c reason := by
    obtain ⟨other, inside, explained⟩ := forall₂_mem each.flip _ excluded
    have same : other = c := List.inj_on_of_nodup_map distinct
      (perm.mem_iff.mpr (List.mem_append_right _ inside)) member explained.id.symm
    exact same ▸ explained.reason
  refine ⟨fun e excluded => ?_, fun c member excluded => ?_, fun c member excluded => ?_,
    fun c member excluded => ?_, within, fun c member out => ?_⟩
  · obtain ⟨c, inside, explained⟩ := forall₂_mem each.flip e excluded
    exact ⟨c, perm.mem_iff.mpr (List.mem_append_right _ inside), explained.id⟩
  · cases given c member _ excluded with
    | maxProfiles text full => exact le_antisymm within.size full
    | perFamily text => exact absurd text (by decide)
    | endpoint text => exact absurd text (by decide)
  · cases given c member _ excluded with
    | maxProfiles text => exact absurd text (by decide)
    | perFamily text capped => exact le_antisymm (within.perFamily _) capped
    | endpoint text => exact absurd text (by decide)
  · cases given c member _ excluded with
    | maxProfiles text => exact absurd text (by decide)
    | perFamily text => exact absurd text (by decide)
    | endpoint text inside same ahead => exact ⟨_, inside, same, ahead⟩
  · obtain inside | left := List.mem_append.mp (perm.mem_iff.mp member)
    · exact absurd inside out
    · obtain ⟨e, -, explained⟩ := forall₂_mem each _ left
      exact explained.reason.blocks

/-- The exclusions of both stages are true of the result. -/
theorem selectCandidates_truthful (profiles : List Profile) (now : Int64) (params : SelectionParams) :
    let scored := (validateNormalizeAndScore profiles now).1
    let result := selectCandidates scored params.defaults
    TruthfulExclusions params.defaults scored result.1 result.2 := by
  intro scored result
  obtain ⟨profilesPos, capPos⟩ := params.defaults_pos
  have flat := scored_flat profiles now
  have ids := (validateNormalizeAndScore_spec profiles now).2
  have shape : result = _ := selectCandidates_eq scored params.defaults
  have ordered : (selectionOf scored params.defaults).selected.Perm result.1 := by
    rw [shape]
    exact (List.perm_insertionSort _ _).symm
  have excluded : result.2 = (selectionOf scored params.defaults).excluded := by rw [shape]
  obtain ⟨offered, -, fair⟩ := selectionOf_fair flat profilesPos capPos
  have truthful := (selectionOf_told flat profilesPos capPos).truthful fair.withinCaps ids
  rw [excluded]
  exact truthful.perm ordered

/-- The reasons of the second stage are true of what is included in the end, and no candidate could
be included besides, exactly if a slice can be made for the candidates that a bundle may have. -/
theorem selectForBundle_truthful_iff (capacity : ℕ) (profiles : List Profile) (now : Int64)
    (params : SelectionParams) :
    let scored := (validateNormalizeAndScore profiles now).1
    (∃ result, selectForBundle capacity scored params = some result ∧
        TruthfulExclusions params.defaults scored result.1 result.2) ↔
      params.defaults.maxProfiles ≤ capacity :=
  exists_selectForBundle (selectCandidates_truthful profiles now params)

/-- Where the slice cannot be made there is no result to tell of. -/
theorem hugeBundle_untold :
    let scored := (validateNormalizeAndScore (offeredCandidates.map (·.profile)) 1).1
    ¬ ∃ result, selectForBundle (2 ^ 48) scored hugeBundle = some result ∧
      TruthfulExclusions hugeBundle.defaults scored result.1 result.2 := by
  intro scored
  rintro ⟨result, returned, -⟩
  exact absurd (selectForBundle_eq_some.mp returned).1 (by decide)

/-! ## The best of all -/

section

variable {params : SelectionParams}

theorem selectFirsts_keeps (params : SelectionParams) (state : Selection × List Candidate)
    (group : List Candidate) :
    state.1.selected <+: (selectFirsts params state group).1.selected := by
  unfold selectFirsts
  dsimp only
  split_ifs
  · exact List.prefix_rfl
  · cases group with
    | nil => exact List.prefix_rfl
    | cons c later =>
      rcases selectOne_selected params state.1 c with ⟨same, -⟩ | ⟨picked, -⟩
      · exact same ▸ List.prefix_rfl
      · exact picked ▸ List.prefix_append ..

theorem foldl_selectFirsts_keeps (params : SelectionParams) (state : Selection × List Candidate)
    (groups : List (List Candidate)) :
    state.1.selected <+: (groups.foldl (selectFirsts params) state).1.selected := by
  induction groups generalizing state with
  | nil => exact List.prefix_rfl
  | cons group groups ih => exact (selectFirsts_keeps params state group).trans (ih _)

/-- Once the bundle is full the families that come later get nothing. -/
theorem foldl_selectFirsts_full {state : Selection × List Candidate}
    (full : params.maxProfiles ≤ state.1.selected.length) (groups : List (List Candidate)) :
    (groups.foldl (selectFirsts params) state).1 = state.1 := by
  induction groups generalizing state with
  | nil => rfl
  | cons group groups ih =>
    have same : (selectFirsts params state group).1 = state.1 := by
      obtain ⟨selection, rest⟩ := state
      unfold selectFirsts
      dsimp only at full ⊢
      rw [if_pos full]
    rw [List.foldl_cons, ih (same ▸ full), same]

/-- A bundle that is full stays as it is. -/
theorem foldl_selectRest_full {s : Selection} (full : params.maxProfiles ≤ s.selected.length)
    (rest : List Candidate) : (rest.foldl (selectRest params) s).selected = s.selected := by
  induction rest generalizing s with
  | nil => rfl
  | cons c rest ih =>
    have same : (selectRest params s c).selected = s.selected := by
      unfold selectRest
      rw [if_pos full]
    rw [List.foldl_cons, ih (same ▸ full), same]

/-- The families of the candidates that come before a family by name. -/
def familiesBefore (candidates : List Candidate) (family : Family) : ℕ :=
  (candidates.map (·.profile.family)).dedup.countP (· < family)

theorem familyGroups_split {candidates : List Candidate} {c : Candidate} (member : c ∈ candidates) :
    ∃ front back, familyGroups candidates =
        front ++ (c.profile.family,
          sortByScore (candidates.filter (inFamily c.profile.family))) :: back ∧
      front.length = familiesBefore candidates c.profile.family ∧
      ∀ entry ∈ front, entry.1 < c.profile.family := by
  have filled : candidates.filter (inFamily c.profile.family) ≠ [] :=
    List.ne_nil_of_mem (List.mem_filter.mpr ⟨member, decide_eq_true rfl⟩)
  have held : (c.profile.family, sortByScore (candidates.filter (inFamily c.profile.family))) ∈
      familyGroups candidates :=
    List.mem_map.mpr ⟨(c.profile.family, _), mem_groupByFamily.mpr ⟨filled, rfl⟩, rfl⟩
  have names : (familyGroups candidates).map (·.1) =
      (groupByFamily candidates).entries.map (·.1) := by
    rw [familyGroups, List.map_map]
    rfl
  have sorted : ((familyGroups candidates).map (·.1)).Pairwise (· < ·) := by
    rw [names]
    exact List.pairwise_map.mpr (groupByFamily candidates).sorted
  have count : ((familyGroups candidates).map (·.1)).countP (· < c.profile.family) =
      familiesBefore candidates c.profile.family := by
    rw [names]
    exact (families_perm candidates).countP_eq _
  obtain ⟨front, back, split⟩ := List.append_of_mem held
  rw [split, List.map_append, List.map_cons] at sorted count
  obtain ⟨-, tail, below⟩ := List.pairwise_append.mp sorted
  obtain ⟨above, -⟩ := List.pairwise_cons.mp tail
  have smaller : ∀ entry ∈ front, entry.1 < c.profile.family := fun entry inside =>
    below _ (List.mem_map_of_mem inside) _ (List.mem_cons_self ..)
  refine ⟨front, back, split, ?_, smaller⟩
  rw [← count, List.countP_append, List.countP_cons_of_neg (by simp)]
  have all : (front.map (·.1)).countP (· < c.profile.family) = (front.map (·.1)).length :=
    List.countP_eq_length.mpr fun family inside => by
      obtain ⟨entry, here, rfl⟩ := List.mem_map.mp inside
      exact decide_eq_true (smaller entry here)
  have none : (back.map (·.1)).countP (· < c.profile.family) = 0 :=
    List.countP_eq_zero.mpr fun family inside => by
      rw [decide_eq_true_eq, not_lt]
      exact (above family inside).le
  rw [all, none, List.length_map, Nat.add_zero]

variable {candidates : List Candidate} {c : Candidate}

theorem foldl_firstGroups (cap : 0 < params.maxPerFamily) (profiles : 0 < params.maxProfiles)
    (flat : ∀ c ∈ candidates, 0x7C ∉ c.profile.family) {front : List (Family × List Candidate)}
    (initial : front <+: familyGroups candidates) (few : (front.length : ℤ) ≤ params.maxProfiles) :
    ((front.map (·.2)).foldl (selectFirsts params) ({}, [])).1.selected =
      (front.map (·.2)).filterMap List.head? := by
  have belongs := fun entry inside => familyGroups_belong flat entry (initial.subset inside)
  have distinct := (familyGroups_distinct candidates).sublist (initial.sublist.map (·.1))
  apply (foldl_selectFirsts_pass cap profiles.le belongs distinct).heads
  rwa [List.length_map]

/-- The best candidate is selected if the families before its own leave room, or if no family goes
first. -/
theorem best_selected (flat : ∀ c ∈ candidates, 0x7C ∉ c.profile.family)
    (distinct : (candidates.map (·.profile.id)).Nodup) (profiles : 0 < params.maxProfiles)
    (cap : 0 < params.maxPerFamily) (member : c ∈ candidates)
    (best : ∀ d ∈ candidates, c.before d = true)
    (room : params.maxProfiles = 1 ∨
      (familiesBefore candidates c.profile.family : ℤ) < params.maxProfiles) :
    c ∈ (selectionOf candidates params).selected := by
  have covers := flatten_familyGroups candidates
  unfold selectionOf
  dsimp only
  split_ifs with firstPass
  · obtain ⟨front, back, split, length, -⟩ := familyGroups_split member
    obtain ⟨others, leads⟩ : ∃ others,
        sortByScore (candidates.filter (inFamily c.profile.family)) = c :: others :=
      head_sortByScore (distinct.sublist (List.filter_sublist.map _))
        (List.mem_filter.mpr ⟨member, decide_eq_true rfl⟩)
        fun d inside => best d (List.mem_of_mem_filter inside)
    rw [leads] at split
    have few : ((front ++ [(c.profile.family, c :: others)]).length : ℤ) ≤ params.maxProfiles := by
      rw [List.length_append, length, List.length_singleton]
      push_cast
      omega
    have initial : front ++ [(c.profile.family, c :: others)] <+: familyGroups candidates :=
      ⟨back, by rw [split, List.append_assoc, List.singleton_append]⟩
    have heads := foldl_firstGroups cap profiles flat initial few
    have inside : c ∈ ((((front ++ [(c.profile.family, c :: others)]).map (·.2)).foldl
        (selectFirsts params) ({}, [])).1).selected := by
      rw [heads, List.map_append, List.filterMap_append]
      exact List.mem_append_right _ (List.mem_singleton_self c)
    have whole : (familyGroups candidates).map (·.2) =
        (front ++ [(c.profile.family, c :: others)]).map (·.2) ++ back.map (·.2) := by
      rw [split, ← List.map_append, List.append_assoc, List.singleton_append]
    rw [whole, List.foldl_append]
    apply (foldl_selectRest_keeps params _ _).subset
    exact (foldl_selectFirsts_keeps params _ _).subset inside
  · exact foldl_selectRest_best profiles cap ((covers.map _).nodup_iff.mpr distinct)
      (covers.mem_iff.mpr member) fun d inside => best d (covers.mem_iff.mp inside)

/-- The best candidate is not selected if the families before its own fill the bundle. -/
theorem best_unselected (flat : ∀ c ∈ candidates, 0x7C ∉ c.profile.family)
    (cap : 0 < params.maxPerFamily) (member : c ∈ candidates) (several : 1 < params.maxProfiles)
    (full : params.maxProfiles ≤ (familiesBefore candidates c.profile.family : ℤ)) :
    c ∉ (selectionOf candidates params).selected := by
  obtain ⟨front, back, split, length, smaller⟩ := familyGroups_split member
  obtain ⟨size, sized⟩ := Int.eq_ofNat_of_zero_le (by omega : 0 ≤ params.maxProfiles)
  have enough : size ≤ front.length := by omega
  have initial : front.take size <+: familyGroups candidates :=
    (List.take_prefix size front).trans ⟨_, split.symm⟩
  have taken : (front.take size).length = size := List.length_take_of_le enough
  have heads := foldl_firstGroups cap (by omega) flat initial (by omega)
  have belongs := fun entry inside => familyGroups_belong flat entry (initial.subset inside)
  have filled : params.maxProfiles ≤ ((((front.take size).map (·.2)).foldl (selectFirsts params)
      ({}, [])).1.selected.length : ℤ) := by
    have each : ∀ group ∈ (front.take size).map (·.2), (List.head? group).isSome = true := by
      intro group inside
      obtain ⟨entry, here, rfl⟩ := List.mem_map.mp inside
      exact List.isSome_head?.mpr (belongs entry here).1.filled
    rw [heads, List.length_filterMap_eq_countP, List.countP_eq_length.mpr each, List.length_map,
      taken, sized]
  have whole : (familyGroups candidates).map (·.2) = (front.take size).map (·.2) ++
      (front.drop size ++ (c.profile.family,
        sortByScore (candidates.filter (inFamily c.profile.family))) :: back).map (·.2) := by
    rw [← List.map_append, ← List.append_assoc, List.take_append_drop, split]
  have pass : (((familyGroups candidates).map (·.2)).foldl (selectFirsts params) ({}, [])).1 =
      (((front.take size).map (·.2)).foldl (selectFirsts params) ({}, [])).1 := by
    rw [whole, List.foldl_append, foldl_selectFirsts_full filled]
  have groups : 1 < ((familyGroups candidates).map (·.2)).length := by
    rw [List.length_map, split, List.length_append]
    omega
  unfold selectionOf
  dsimp only
  rw [if_pos ⟨several, groups⟩, pass, foldl_selectRest_full filled, heads]
  intro inside
  obtain ⟨group, here, head⟩ := List.mem_filterMap.mp inside
  obtain ⟨entry, early, rfl⟩ := List.mem_map.mp here
  have family := (belongs entry early).1.own c (List.mem_of_head? head)
  exact absurd family (smaller entry (List.mem_of_mem_take early)).ne'

end

/-- A candidate whose profile has been normalized. -/
def Candidate.Valid (c : Candidate) : Prop :=
  ∃ raw now, (normalizeForWire raw now).2 = .ok c.profile

theorem Candidate.Valid.flat {c : Candidate} (valid : c.Valid) : 0x7C ∉ c.profile.family := by
  obtain ⟨raw, now, normalized⟩ := valid
  exact normalized_flat normalized

/-- The best candidate is included exactly if the bundle is for one profile or the families before
its own leave room. -/
theorem best_included_iff {capacity : ℕ} {candidates : List Candidate} {params : SelectionParams}
    {c : Candidate} (valid : ∀ d ∈ candidates, d.Valid)
    (distinct : (candidates.map (·.profile.id)).Nodup) (profiles : 1 ≤ params.maxProfiles)
    (fits : params.maxProfiles ≤ capacity) (cap : 1 ≤ params.maxPerFamily) (member : c ∈ candidates)
    (best : ∀ d ∈ candidates, c.before d = true) :
    ∃ result, selectForBundle capacity candidates params = some result ∧
      (c ∈ result.1 ↔ params.maxProfiles = 1 ∨
        (familiesBefore candidates c.profile.family : ℤ) < params.maxProfiles) := by
  have flat : ∀ d ∈ candidates, 0x7C ∉ d.profile.family := fun d inside => (valid d inside).flat
  have given : params.defaults = params := by
    unfold SelectionParams.defaults
    dsimp only
    rw [if_neg (by omega), if_neg (by omega)]
  refine (exists_selectForBundle ?_).mpr (given.symm ▸ fits)
  rw [given, selectCandidates_eq]
  dsimp only
  rw [(List.perm_insertionSort _ _).mem_iff]
  constructor
  · intro selected
    by_contra full
    exact best_unselected flat (by omega) member (by omega) (by omega) selected
  · exact best_selected flat distinct (by omega) (by omega) member best

theorem offeredCandidates_scored :
    validateNormalizeAndScore (offeredCandidates.map (·.profile)) 1 = (offeredCandidates, []) := by
  decide

theorem offeredCandidates_valid : ∀ c ∈ offeredCandidates, c.Valid := by
  intro c member
  have scored := validateNormalizeAndScore_spec (offeredCandidates.map (·.profile)) 1
  rw [offeredCandidates_scored] at scored
  obtain ⟨raw, -, normalized⟩ := scored.1 c member
  exact ⟨raw, 1, normalized⟩

theorem offeredCandidates_best : ∀ d ∈ offeredCandidates, bestCandidate.before d = true := by decide

/-- Of three candidates the best is included if there is room for all. -/
theorem offeredCandidates_included :
    ∃ result, selectForBundle 1000 offeredCandidates ⟨3, 1⟩ = some result ∧
      (bestCandidate ∈ result.1 ↔
        (3 : ℤ) = 1 ∨ (familiesBefore offeredCandidates familyShadowTLS : ℤ) < 3) :=
  best_included_iff offeredCandidates_valid (by decide) (by decide) (by decide) (by decide)
    (List.mem_cons_self ..) offeredCandidates_best

/-- With room for two the families before the best candidate's take both places. -/
theorem bestCandidate_dropped :
    (∀ d ∈ offeredCandidates, d.Valid) ∧ (offeredCandidates.map (·.profile.id)).Nodup ∧
      bestCandidate ∈ offeredCandidates ∧ (∀ d ∈ offeredCandidates, bestCandidate.before d = true) ∧
      ∃ result, selectForBundle 1000 offeredCandidates ⟨2, 2⟩ = some result ∧
        bestCandidate ∉ result.1 :=
  ⟨offeredCandidates_valid, by decide, List.mem_cons_self .., offeredCandidates_best,
    _, rfl, by decide⟩

end ShadowNet
