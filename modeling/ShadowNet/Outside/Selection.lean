import Mathlib
import ShadowNet.Outside.Candidates

/-! # What becomes of every candidate

Each candidate that is handed in is included or excluded once. The included ones keep to the caps and
share neither IDs nor endpoints, and with enough room the best of each family is among them.
-/

namespace ShadowNet

open Go

/-! ## The order of the scores -/

instance : Std.Total fun c d : Candidate => c.before d = true where
  total c d := by
    simp only [Candidate.before]
    by_cases same : c.score = d.score
    · rw [if_pos same, if_pos same.symm, decide_eq_true_eq, decide_eq_true_eq]
      exact le_total ..
    · rw [if_neg same, if_neg (Ne.symm same), decide_eq_true_eq, decide_eq_true_eq]
      omega

instance : IsTrans Candidate fun c d => c.before d = true where
  trans c d e := by
    simp only [Candidate.before]
    intro first second
    split_ifs at first second ⊢ <;>
      simp only [decide_eq_true_eq] at first second ⊢
    · exact first.trans second
    all_goals omega

theorem sortByScore_sorted (candidates : List Candidate) :
    (sortByScore candidates).Pairwise fun c d => c.before d = true :=
  List.pairwise_insertionSort (fun c d : Candidate => c.before d = true) candidates

/-- Only a candidate with the same ID may stand on either side of another. -/
theorem before_antisymm {c d : Candidate} (first : c.before d = true) (second : d.before c = true) :
    c.profile.id = d.profile.id := by
  simp only [Candidate.before] at first second
  by_cases same : c.score = d.score
  · rw [if_pos same, decide_eq_true_eq] at first
    rw [if_pos same.symm, decide_eq_true_eq] at second
    exact le_antisymm first second
  · rw [if_neg same, decide_eq_true_eq] at first
    rw [if_neg (Ne.symm same), decide_eq_true_eq] at second
    omega

/-- The best of a list with distinct IDs comes first. -/
theorem head_sortByScore {candidates : List Candidate} {c : Candidate}
    (distinct : (candidates.map (·.profile.id)).Nodup) (member : c ∈ candidates)
    (best : ∀ d ∈ candidates, c.before d = true) :
    ∃ others, sortByScore candidates = c :: others := by
  have perm := sortByScore_perm candidates
  have sorted := sortByScore_sorted candidates
  generalize sortByScore candidates = list at perm sorted
  cases list with
  | nil => exact absurd (perm.mem_iff.mpr member) List.not_mem_nil
  | cons first others =>
    rcases List.mem_cons.mp (perm.mem_iff.mpr member) with rfl | later
    · exact ⟨others, rfl⟩
    · have ahead := List.rel_of_pairwise_cons sorted later
      have behind := best first (perm.mem_iff.mp (List.mem_cons_self ..))
      have same := List.inj_on_of_nodup_map distinct member
        (perm.mem_iff.mp (List.mem_cons_self ..)) (before_antisymm behind ahead)
      exact ⟨others, by rw [same]⟩

/-! ## The first stage -/

/-- The ID that an exclusion of the first stage gives. -/
def reportedID (now : Int64) (p : Profile) : GoString :=
  match (normalizeForWire p now).2 with
  | .ok cp => cp.id
  | .error _ => p.id

/-- The candidate is what normalization makes of the profile. -/
def Normalizes (now : Int64) (p : Profile) (c : Candidate) : Prop :=
  (normalizeForWire p now).2 = .ok c.profile

/-- Each of the profiles is scored or excluded. -/
def AccountedOnce (now : Int64) (profiles : List Profile) (scored : Scored) : Prop :=
  ∃ kept dropped, profiles.Perm (kept ++ dropped) ∧
    List.Forall₂ (Normalizes now) kept scored.out ∧
    List.Forall₂ (fun p e => e.id = reportedID now p) dropped scored.excluded

theorem forall₂_concat {α β : Type} {R : α → β → Prop} {as : List α} {bs : List β} {a : α} {b : β}
    (front : List.Forall₂ R as bs) (last : R a b) : List.Forall₂ R (as ++ [a]) (bs ++ [b]) :=
  List.rel_append front (.cons last .nil)

/-- A raw candidate is scored or left out, and not both. -/
theorem scoreOne_accounts {now : Int64} {profiles : List Profile} {scored : Scored}
    (accounted : AccountedOnce now profiles scored) (p : Profile) :
    AccountedOnce now (profiles ++ [p]) (scoreOne now scored p) := by
  obtain ⟨kept, dropped, perm, each, reported⟩ := accounted
  have excluded {reason : String} {id : GoString} (own : id = reportedID now p) :
      AccountedOnce now (profiles ++ [p])
        { scored with excluded := scored.excluded ++ [⟨id, reason⟩] } :=
    ⟨kept, dropped ++ [p], by simpa using perm.append_right [p], each, forall₂_concat reported own⟩
  unfold scoreOne
  split
  · next text failed => exact excluded (by rw [reportedID, failed])
  · next cp normalized =>
    split_ifs with seen
    · exact excluded (by rw [reportedID, normalized])
    · refine ⟨kept ++ [p], dropped, ?_, forall₂_concat each normalized, reported⟩
      rw [List.append_assoc]
      exact (perm.append_right [p]).trans (by
        rw [List.append_assoc]
        exact List.perm_append_comm.append_left kept)

/-- So is each in the list. -/
theorem foldl_scoreOne_accounts (now : Int64) (profiles : List Profile) :
    AccountedOnce now profiles (profiles.foldl (scoreOne now) {}) := by
  induction profiles using List.reverseRecOn with
  | nil => exact ⟨[], [], .nil, .nil, .nil⟩
  | append_singleton profiles p ih =>
    rw [List.foldl_append]
    exact scoreOne_accounts ih p

/-! ## Picking a candidate -/

def inFamily (family : Family) (c : Candidate) : Bool := c.profile.family = family

/-- A selection after some candidates, within the caps. -/
structure Fair (params : SelectionParams) (offered : List Candidate) (s : Selection) : Prop
    extends SelectionOk offered s where
  accounted : ∃ dropped, offered.Perm (s.selected ++ dropped) ∧
    s.excluded.map (·.id) = dropped.map (·.profile.id)
  counted : ∀ family, (s.selectedPerFamily.find? family).getD 0 = s.selected.countP (inFamily family)
  perFamily : ∀ family, (s.selected.countP (inFamily family) : ℤ) ≤ params.maxPerFamily
  size : (s.selected.length : ℤ) ≤ params.maxProfiles

theorem Fair.exclude {params : SelectionParams} {offered : List Candidate} {s : Selection}
    (fair : Fair params offered s) (c : Candidate) (reason : String) :
    Fair params (offered ++ [c])
      { s with excluded := s.excluded ++ [⟨c.profile.id, reason⟩] } where
  members := fun d member => List.mem_append_left _ (fair.members d member)
  recorded := fair.recorded
  distinct := fair.distinct
  accounted := by
    obtain ⟨dropped, perm, ids⟩ := fair.accounted
    refine ⟨dropped ++ [c], ?_, ?_⟩
    · rw [← List.append_assoc]
      exact perm.append_right [c]
    · rw [List.map_append, List.map_append, ids]
      rfl
  counted := fair.counted
  perFamily := fair.perFamily
  size := fair.size

/-- What `selectOne` picks keeps to the caps. -/
theorem selectOne_fair {params : SelectionParams} {offered : List Candidate} {s : Selection}
    (fair : Fair params offered s) (room : (s.selected.length : ℤ) < params.maxProfiles)
    (c : Candidate) : Fair params (offered ++ [c]) (selectOne params s c).1 := by
  have ok : SelectionOk (offered ++ [c]) (selectOne params s c).1 := selectOne_ok
    ⟨fun d member => List.mem_append_left _ (fair.members d member), fair.recorded, fair.distinct⟩
    (List.mem_append_right _ (List.mem_singleton_self c))
  unfold selectOne at ok ⊢
  dsimp only at ok ⊢
  split_ifs at ok ⊢ with capped seen
  · exact fair.exclude c "cap per family"
  · exact fair.exclude c "duplicate endpoint"
  · have count (family : Family) : (s.selected ++ [c]).countP (inFamily family) =
        s.selected.countP (inFamily family) + if c.profile.family = family then 1 else 0 := by
      rw [List.countP_append, List.countP_singleton, inFamily]
      simp only [decide_eq_true_eq]
    refine ⟨ok, ?_, ?_, ?_, ?_⟩
    · obtain ⟨dropped, perm, ids⟩ := fair.accounted
      refine ⟨dropped, ?_, ids⟩
      apply (perm.append_right [c]).trans
      rw [List.append_assoc, List.append_assoc]
      exact List.perm_append_comm.append_left s.selected
    · intro family
      rw [Map.find?_insert, count, fair.counted]
      split_ifs with same
      · subst same
        rw [Option.getD_some]
        push_cast
        rfl
      · rw [fair.counted, Nat.add_zero]
    · intro family
      rw [count]
      split_ifs with same
      · subst same
        rw [fair.counted] at capped
        push_cast
        omega
      · exact fair.perFamily family
    · rw [List.length_append, List.length_singleton]
      push_cast
      omega

/-- A candidate of the second pass is selected or left out, within the caps. -/
theorem selectRest_fair {params : SelectionParams} {offered : List Candidate} {s : Selection}
    (fair : Fair params offered s) (c : Candidate) :
    Fair params (offered ++ [c]) (selectRest params s c) := by
  unfold selectRest
  split_ifs with full
  · exact fair.exclude c "max profiles reached"
  · exact selectOne_fair fair (not_le.mp full) c

/-- So are all of them. -/
theorem foldl_selectRest_fair {params : SelectionParams} {offered : List Candidate} {s : Selection}
    (fair : Fair params offered s) (rest : List Candidate) :
    Fair params (offered ++ rest) (rest.foldl (selectRest params) s) := by
  induction rest generalizing offered s with
  | nil => rwa [List.append_nil]
  | cons c rest ih =>
    have later := ih (selectRest_fair fair c)
    rwa [List.append_assoc] at later

/-- Nothing that is selected is given up. -/
theorem selectRest_keeps (params : SelectionParams) (s : Selection) (c : Candidate) :
    s.selected <+: (selectRest params s c).selected := by
  unfold selectRest selectOne
  dsimp only
  split_ifs
  · exact List.prefix_rfl
  · exact List.prefix_rfl
  · exact List.prefix_rfl
  · exact List.prefix_append _ _

theorem foldl_selectRest_keeps (params : SelectionParams) (s : Selection) (rest : List Candidate) :
    s.selected <+: (rest.foldl (selectRest params) s).selected := by
  induction rest generalizing s with
  | nil => exact List.prefix_rfl
  | cons c rest ih => exact (selectRest_keeps params s c).trans (ih _)

/-- The first of its family and with an endpoint that no other has is picked. -/
theorem selectOne_picks {params : SelectionParams} {offered : List Candidate} {s : Selection}
    {c : Candidate} (fair : Fair params offered s) (cap : 0 < params.maxPerFamily)
    (firstOf : s.selected.countP (inFamily c.profile.family) = 0)
    (fresh : endpointKey c.profile ∉ s.seenEndpoints) :
    (selectOne params s c).2 = true ∧ (selectOne params s c).1.selected = s.selected ++ [c] ∧
      (selectOne params s c).1.excluded = s.excluded := by
  have below : ¬ params.maxPerFamily ≤ (s.selectedPerFamily.find? c.profile.family).getD 0 := by
    rw [fair.counted, firstOf]
    omega
  unfold selectOne
  dsimp only
  rw [if_neg below, if_neg fresh]
  exact ⟨rfl, rfl, rfl⟩

/-! ## The first of each family -/

/-- Families without the separator are told apart by the endpoint keys. -/
theorem family_of_endpointKey {p q : Profile} (own : 0x7C ∉ p.family) (other : 0x7C ∉ q.family)
    (same : endpointKey p = endpointKey q) : p.family = q.family := by
  have cuts := congrArg (cut 0x7C) same
  rw [endpointKey, endpointKey, cut_append own, cut_append other, Option.some.injEq,
    Prod.mk.injEq] at cuts
  exact cuts.1

/-- The candidates of one family, best first. -/
structure Group (family : Family) (group : List Candidate) : Prop where
  filled : group ≠ []
  own : ∀ c ∈ group, c.profile.family = family

/-- The loop over the families, before the rest is looked at. -/
structure FirstPass (params : SelectionParams) (groups : List (List Candidate))
    (state : Selection × List Candidate) : Prop where
  fair : Fair params state.1.selected state.1
  noneExcluded : state.1.excluded = []
  covers : groups.flatten.Perm (state.1.selected ++ state.2)
  heads : (groups.length : ℤ) ≤ params.maxProfiles →
    state.1.selected = groups.filterMap List.head?

theorem selectFirsts_pass {params : SelectionParams} {groups : List (List Candidate)}
    {state : Selection × List Candidate} (pass : FirstPass params groups state)
    (cap : 0 < params.maxPerFamily) {family : Family} {group : List Candidate}
    (belongs : Group family group) (flat : 0x7C ∉ family)
    (others : ∀ c ∈ groups.flatten, c.profile.family ≠ family ∧ 0x7C ∉ c.profile.family) :
    FirstPass params (groups ++ [group]) (selectFirsts params state group) := by
  obtain ⟨selection, rest⟩ := state
  obtain ⟨fair, noneExcluded, covers, heads⟩ := pass
  dsimp only at fair noneExcluded covers heads
  obtain ⟨c, later, rfl⟩ := List.exists_cons_of_ne_nil belongs.filled
  have own := belongs.own c (List.mem_cons_self ..)
  have earlier : ∀ d ∈ selection.selected, d.profile.family ≠ family ∧ 0x7C ∉ d.profile.family :=
    fun d member => others d (covers.mem_iff.mpr (List.mem_append_left _ member))
  have whole : (groups ++ [c :: later]).flatten = groups.flatten ++ c :: later := by
    rw [List.flatten_append, List.flatten_singleton]
  unfold selectFirsts
  dsimp only
  by_cases full : params.maxProfiles ≤ selection.selected.length
  · rw [if_pos full]
    refine ⟨fair, noneExcluded, ?_, ?_⟩
    · rw [whole, ← List.append_assoc]
      exact covers.append_right _
    · intro room
      rw [List.length_append, List.length_singleton] at room
      push_cast at room
      have few := List.length_filterMap_le List.head? groups
      rw [heads (by omega)] at full
      omega
  · have firstOf : selection.selected.countP (inFamily c.profile.family) = 0 := by
      rw [List.countP_eq_zero]
      intro d member
      rw [inFamily, decide_eq_true_eq, own]
      exact (earlier d member).1
    have fresh : endpointKey c.profile ∉ selection.seenEndpoints := by
      rw [fair.recorded, List.mem_reverse]
      intro member
      obtain ⟨d, inside, same⟩ := List.mem_map.mp member
      have families := family_of_endpointKey (earlier d inside).2 (own ▸ flat) same
      exact (earlier d inside).1 (families.trans own)
    obtain ⟨chosen, selected, excluded⟩ := selectOne_picks fair cap firstOf fresh
    have next := selectOne_fair fair (not_le.mp full) c
    rw [← selected] at next
    rw [if_neg full, if_pos chosen]
    refine ⟨next, excluded.trans noneExcluded, ?_, ?_⟩
    · dsimp only
      rw [whole, selected, List.append_assoc, List.singleton_append]
      apply (covers.append_right _).trans
      rw [List.append_assoc]
      exact List.perm_middle.append_left selection.selected
    · intro room
      rw [List.length_append, List.length_singleton] at room
      push_cast at room
      dsimp only
      rw [selected, heads (by omega), List.filterMap_append]
      rfl

/-- The first pass over all families. -/
theorem foldl_selectFirsts_pass {params : SelectionParams} (cap : 0 < params.maxPerFamily)
    (room : 0 ≤ params.maxProfiles) {groups : List (Family × List Candidate)}
    (belongs : ∀ entry ∈ groups, Group entry.1 entry.2 ∧ 0x7C ∉ entry.1)
    (distinct : (groups.map (·.1)).Nodup) :
    FirstPass params (groups.map (·.2))
      ((groups.map (·.2)).foldl (selectFirsts params) ({}, [])) := by
  induction groups using List.reverseRecOn with
  | nil =>
    refine ⟨⟨⟨by simp, rfl, .nil⟩, ⟨[], .nil, rfl⟩, fun family => rfl, fun family => ?_, room⟩, rfl,
      .nil, fun _ => rfl⟩
    exact cap.le
  | append_singleton groups entry ih =>
    obtain ⟨front, last⟩ := List.forall_mem_append.mp belongs
    obtain ⟨own, flat⟩ := last entry (List.mem_singleton_self _)
    rw [List.map_append, List.nodup_append] at distinct
    rw [List.map_append, List.foldl_append]
    apply selectFirsts_pass (ih front distinct.1) cap own flat
    intro c member
    obtain ⟨group, inside, here⟩ := List.mem_flatten.mp member
    obtain ⟨other, earlier, rfl⟩ := List.mem_map.mp inside
    obtain ⟨group, otherFlat⟩ := front other earlier
    rw [group.own c here]
    refine ⟨?_, otherFlat⟩
    exact distinct.2.2 other.1 (List.mem_map_of_mem earlier) entry.1 (List.mem_singleton_self _)

/-! ## Grouping -/

theorem find?_groupByFamily (candidates : List Candidate) (family : Family) :
    (groupByFamily candidates).find? family =
      if candidates.filter (inFamily family) = [] then none
      else some (candidates.filter (inFamily family)) := by
  induction candidates using List.reverseRecOn with
  | nil => rfl
  | append_singleton candidates c ih =>
    have step : groupByFamily (candidates ++ [c]) = (groupByFamily candidates).insert c.profile.family
        (((groupByFamily candidates).find? c.profile.family).getD [] ++ [c]) := by
      rw [groupByFamily, List.foldl_append]
      rfl
    rw [step, Map.find?_insert, List.filter_append]
    by_cases own : c.profile.family = family
    · subst own
      have last : [c].filter (inFamily c.profile.family) = [c] :=
        List.filter_eq_self.mpr (by simp [inFamily])
      have filled : candidates.filter (inFamily c.profile.family) ++ [c] ≠ [] := by simp
      rw [if_pos rfl, ih, last, if_neg filled]
      split_ifs with none
      · rw [none]
        rfl
      · rfl
    · have last : [c].filter (inFamily family) = [] :=
        List.filter_eq_nil_iff.mpr (by simp [inFamily, own])
      rw [if_neg own, ih, last, List.append_nil]

/-- The groups as `SelectForBundle` goes through them. -/
def familyGroups (candidates : List Candidate) : List (Family × List Candidate) :=
  (groupByFamily candidates).entries.map fun entry => (entry.1, sortByScore entry.2)

theorem mem_groupByFamily {candidates : List Candidate} {entry : Family × List Candidate} :
    entry ∈ (groupByFamily candidates).entries ↔
      entry.2 ≠ [] ∧ entry.2 = candidates.filter (inFamily entry.1) := by
  obtain ⟨family, group⟩ := entry
  rw [← Map.find?_eq_some, find?_groupByFamily]
  dsimp only
  split_ifs with none
  · constructor
    · exact nofun
    · rintro ⟨filled, rfl⟩
      exact absurd none filled
  · rw [Option.some.injEq]
    constructor
    · rintro rfl
      exact ⟨none, rfl⟩
    · rintro ⟨-, rfl⟩
      rfl

theorem nodup_families (candidates : List Candidate) :
    ((groupByFamily candidates).entries.map (·.1)).Nodup :=
  (List.pairwise_map.mpr (groupByFamily candidates).sorted).imp ne_of_lt

/-- The families of the groups are those of the candidates, each of them once. -/
theorem families_perm (candidates : List Candidate) :
    ((groupByFamily candidates).entries.map (·.1)).Perm
      (candidates.map (·.profile.family)).dedup := by
  apply (List.perm_ext_iff_of_nodup (nodup_families candidates) (List.nodup_dedup _)).mpr
  intro family
  rw [List.mem_dedup, List.mem_map, List.mem_map]
  constructor
  · rintro ⟨entry, member, rfl⟩
    obtain ⟨filled, shape⟩ := mem_groupByFamily.mp member
    obtain ⟨c, inside⟩ := List.exists_mem_of_ne_nil _ filled
    rw [shape, List.mem_filter, inFamily, decide_eq_true_eq] at inside
    exact ⟨c, inside⟩
  · rintro ⟨c, member, rfl⟩
    have own : c ∈ candidates.filter (inFamily c.profile.family) :=
      List.mem_filter.mpr ⟨member, decide_eq_true rfl⟩
    exact ⟨(c.profile.family, _), mem_groupByFamily.mpr ⟨List.ne_nil_of_mem own, rfl⟩, rfl⟩

/-- Filtering by each of some families splits the candidates of those families. -/
theorem flatMap_filter_perm (candidates : List Candidate) {families : List Family}
    (distinct : families.Nodup) :
    (families.flatMap fun family => candidates.filter (inFamily family)).Perm
      (candidates.filter fun c => c.profile.family ∈ families) := by
  induction families with
  | nil => simp
  | cons family rest ih =>
    obtain ⟨fresh, later⟩ := List.nodup_cons.mp distinct
    have split := List.filter_append_perm (inFamily family)
      (candidates.filter fun c => c.profile.family ∈ family :: rest)
    have own : (candidates.filter fun c => c.profile.family ∈ family :: rest).filter
        (inFamily family) = candidates.filter (inFamily family) := by
      rw [List.filter_filter]
      apply List.filter_congr
      intro c _
      by_cases same : c.profile.family = family <;> simp [inFamily, same]
    have others : (candidates.filter fun c => c.profile.family ∈ family :: rest).filter
        (fun c => !inFamily family c) = candidates.filter fun c => c.profile.family ∈ rest := by
      rw [List.filter_filter]
      apply List.filter_congr
      intro c _
      by_cases same : c.profile.family = family <;> simp [inFamily, same, fresh]
    rw [own, others] at split
    rw [List.flatMap_cons]
    exact ((ih later).append_left _).trans split

/-- The groups hold every candidate once. -/
theorem flatten_familyGroups (candidates : List Candidate) :
    ((familyGroups candidates).map (·.2)).flatten.Perm candidates := by
  have groups : (familyGroups candidates).map (·.2) =
      ((groupByFamily candidates).entries.map (·.1)).map fun family =>
        sortByScore (candidates.filter (inFamily family)) := by
    rw [familyGroups, List.map_map, List.map_map]
    apply List.map_congr_left
    intro entry member
    exact congrArg sortByScore (mem_groupByFamily.mp member).2
  have every : candidates.filter (fun c => c.profile.family ∈
      (groupByFamily candidates).entries.map (·.1)) = candidates := by
    refine List.filter_eq_self.mpr fun c member => decide_eq_true ?_
    rw [(families_perm candidates).mem_iff, List.mem_dedup]
    exact List.mem_map_of_mem member
  have split := flatMap_filter_perm candidates (nodup_families candidates)
  rw [every] at split
  rw [groups, ← List.flatMap_def]
  refine (List.Perm.flatMap_left _ fun family _ => ?_).trans split
  exact sortByScore_perm _

theorem familyGroups_belong {candidates : List Candidate}
    (flat : ∀ c ∈ candidates, 0x7C ∉ c.profile.family) :
    ∀ entry ∈ familyGroups candidates, Group entry.1 entry.2 ∧ 0x7C ∉ entry.1 := by
  intro entry member
  obtain ⟨held, inside, rfl⟩ := List.mem_map.mp member
  obtain ⟨filled, shape⟩ := mem_groupByFamily.mp inside
  have perm := sortByScore_perm held.2
  have own (c : Candidate) (here : c ∈ sortByScore held.2) :
      c ∈ candidates ∧ c.profile.family = held.1 := by
    rw [perm.mem_iff, shape, List.mem_filter, inFamily, decide_eq_true_eq] at here
    exact here
  refine ⟨⟨fun empty => filled (List.perm_nil.mp (empty ▸ perm.symm)), fun c here => (own c here).2⟩,
    ?_⟩
  obtain ⟨c, here⟩ := List.exists_mem_of_ne_nil _ filled
  obtain ⟨raw, family⟩ := own c (perm.mem_iff.mpr here)
  exact family ▸ flat c raw

theorem familyGroups_distinct (candidates : List Candidate) :
    ((familyGroups candidates).map (·.1)).Nodup := by
  rw [familyGroups, List.map_map]
  exact nodup_families candidates

/-! ## The whole selection -/

/-- What `SelectForBundle` has selected before it orders the result by ID. -/
def selectionOf (candidates : List Candidate) (params : SelectionParams) : Selection :=
  let groups := (familyGroups candidates).map (·.2)
  let state :=
    if 1 < params.maxProfiles ∧ 1 < groups.length then
      groups.foldl (selectFirsts params) ({}, [])
    else ({}, groups.flatten)
  (sortByScore state.2).foldl (selectRest params) state.1

/-- The result is the selection, in the order of the IDs. -/
theorem selectCandidates_eq (candidates : List Candidate) (params : SelectionParams) :
    selectCandidates candidates params =
      let selection := selectionOf candidates params
      (selection.selected.insertionSort fun c d => c.profile.id ≤ d.profile.id,
        selection.excluded) := by
  have groups : (familyGroups candidates).map (·.2) =
      (groupByFamily candidates).entries.map fun entry => sortByScore entry.2 := List.map_map ..
  unfold selectCandidates selectionOf
  rw [groups]

/-- After defaulting both caps are positive. -/
theorem SelectionParams.defaults_pos (params : SelectionParams) :
    0 < params.defaults.maxProfiles ∧ 0 < params.defaults.maxPerFamily := by
  unfold SelectionParams.defaults
  dsimp only
  constructor
  · split_ifs <;> omega
  · split_ifs <;> omega

section

variable {candidates : List Candidate} {params : SelectionParams}

theorem empty_fair (profiles : 0 ≤ params.maxProfiles) (cap : 0 ≤ params.maxPerFamily) :
    Fair params [] {} :=
  ⟨⟨by simp, rfl, .nil⟩, ⟨[], .nil, rfl⟩, fun _ => rfl, fun _ => cap, profiles⟩

/-- The selection in the end, as one after all candidates. -/
theorem selectionOf_fair (flat : ∀ c ∈ candidates, 0x7C ∉ c.profile.family)
    (profiles : 0 < params.maxProfiles) (cap : 0 < params.maxPerFamily) :
    ∃ offered, offered.Perm candidates ∧ Fair params offered (selectionOf candidates params) := by
  have covers := flatten_familyGroups candidates
  unfold selectionOf
  dsimp only
  split_ifs
  · have distinct := familyGroups_distinct candidates
    have pass := foldl_selectFirsts_pass cap profiles.le (familyGroups_belong flat) distinct
    generalize ((familyGroups candidates).map (·.2)).foldl (selectFirsts params) ({}, []) = state
      at pass
    refine ⟨_, ?_, foldl_selectRest_fair pass.fair (sortByScore state.2)⟩
    exact ((sortByScore_perm _).append_left _).trans (pass.covers.symm.trans covers)
  · refine ⟨_, ?_, foldl_selectRest_fair (empty_fair profiles.le cap.le) (sortByScore _)⟩
    rw [List.nil_append]
    exact (sortByScore_perm _).trans covers

/-- Without a pass over the families the best candidate is the first that is looked at. -/
theorem foldl_selectRest_best {rest : List Candidate} {c : Candidate}
    (profiles : 0 < params.maxProfiles) (cap : 0 < params.maxPerFamily)
    (distinct : (rest.map (·.profile.id)).Nodup) (member : c ∈ rest)
    (best : ∀ d ∈ rest, c.before d = true) :
    c ∈ ((sortByScore rest).foldl (selectRest params) {}).selected := by
  obtain ⟨later, first⟩ := head_sortByScore distinct member best
  rw [first, List.foldl_cons]
  apply (foldl_selectRest_keeps params _ later).subset
  have room : ¬ params.maxProfiles ≤ (({} : Selection).selected.length : ℤ) := not_le.mpr profiles
  rw [selectRest, if_neg room, (selectOne_picks (empty_fair profiles.le cap.le) cap rfl
    List.not_mem_nil).2.1]
  exact List.mem_singleton_self c

/-- With room for all families the best of each is selected. -/
theorem selectionOf_best (flat : ∀ c ∈ candidates, 0x7C ∉ c.profile.family)
    (distinct : (candidates.map (·.profile.id)).Nodup) (cap : 0 < params.maxPerFamily)
    (several : 1 < params.maxProfiles)
    (room : ((candidates.map (·.profile.family)).dedup.length : ℤ) ≤ params.maxProfiles)
    {c : Candidate} (member : c ∈ candidates)
    (best : ∀ d ∈ candidates, d.profile.family = c.profile.family → c.before d = true) :
    c ∈ (selectionOf candidates params).selected := by
  obtain ⟨others, leads⟩ : ∃ others,
      sortByScore (candidates.filter (inFamily c.profile.family)) = c :: others := by
    refine head_sortByScore (distinct.sublist (List.filter_sublist.map _))
      (List.mem_filter.mpr ⟨member, decide_eq_true rfl⟩) fun d inside => ?_
    obtain ⟨raw, same⟩ := List.mem_filter.mp inside
    exact best d raw (of_decide_eq_true same)
  have own : c :: others ∈ (familyGroups candidates).map (·.2) := by
    have filled : candidates.filter (inFamily c.profile.family) ≠ [] :=
      List.ne_nil_of_mem (List.mem_filter.mpr ⟨member, decide_eq_true rfl⟩)
    rw [← leads, familyGroups, List.map_map]
    exact List.mem_map.mpr
      ⟨(c.profile.family, _), mem_groupByFamily.mpr ⟨filled, rfl⟩, rfl⟩
  unfold selectionOf
  dsimp only
  split_ifs with firstPass
  · have families := familyGroups_distinct candidates
    have pass := foldl_selectFirsts_pass cap (by omega) (familyGroups_belong flat) families
    have few : (((familyGroups candidates).map (·.2)).length : ℤ) ≤ params.maxProfiles := by
      rw [← (families_perm candidates).length_eq, List.length_map] at room
      rw [List.length_map, familyGroups, List.length_map]
      exact room
    have heads := pass.heads few
    generalize ((familyGroups candidates).map (·.2)).foldl (selectFirsts params) ({}, []) = state
      at heads
    apply (foldl_selectRest_keeps params state.1 (sortByScore state.2)).subset
    rw [heads]
    exact List.mem_filterMap.mpr ⟨_, own, rfl⟩
  · -- There is one family only, and its best candidate is the best of all.
    have single : (familyGroups candidates).map (·.2) = [c :: others] := by
      have short : ((familyGroups candidates).map (·.2)).length ≤ 1 := by omega
      obtain ⟨group, alone⟩ := List.length_eq_one_iff.mp
        (le_antisymm short (List.length_pos_iff.mpr (List.ne_nil_of_mem own)))
      rw [alone, List.mem_singleton] at own
      rw [alone, own]
    have covers := flatten_familyGroups candidates
    rw [single, List.flatten_singleton] at covers ⊢
    apply foldl_selectRest_best (by omega) cap ((covers.map _).nodup_iff.mpr distinct)
      (List.mem_cons_self ..)
    intro d inside
    rw [← leads, (sortByScore_perm _).mem_iff, List.mem_filter] at inside
    exact best d inside.1 (of_decide_eq_true inside.2)

end

/-- Every profile that is handed in, each time that it is, ends up in one place: among the included
candidates, or in the exclusions of one of the two stages. -/
def Accounted (now : Int64) (profiles : List Profile) (included : List Candidate)
    (unscored unselected : List Exclusion) : Prop :=
  ∃ kept dropped passed, profiles.Perm (kept ++ dropped ++ passed) ∧
    List.Forall₂ (Normalizes now) kept included ∧
    List.Forall₂ (fun p e => e.id = reportedID now p) dropped unscored ∧
    List.Forall₂ (fun p e => ∃ cp, (normalizeForWire p now).2 = .ok cp ∧ e.id = cp.id) passed
      unselected

/-- What the two stages together make of a list of profiles. -/
structure SelectionSound (now : Int64) (profiles : List Profile) (params : SelectionParams)
    (scored included : List Candidate) (unscored unselected : List Exclusion) : Prop where
  accounted : Accounted now profiles included unscored unselected
  size : (included.length : ℤ) ≤ params.defaults.maxProfiles
  perFamily : ∀ family,
    (included.countP (inFamily family) : ℤ) ≤ params.defaults.maxPerFamily
  distinctEndpoints : (included.map fun c => endpointKey c.profile).Nodup
  distinctIDs : (included.map (·.profile.id)).Nodup
  best : 1 < params.defaults.maxProfiles →
    ((scored.map (·.profile.family)).dedup.length : ℤ) ≤ params.defaults.maxProfiles →
    ∀ c ∈ scored, (∀ d ∈ scored, d.profile.family = c.profile.family → c.before d = true) →
      c ∈ included

theorem normalized_flat {p q : Profile} {now : Int64} (normalized : (normalizeForWire p now).2 = .ok q) :
    0x7C ∉ q.family := by
  have flat : ∀ family ∈ [familyReality, familyHysteria2, familyTUIC, familyShadowTLS, familyDNS],
      0x7C ∉ family := by decide
  obtain ⟨family, known, -, -, rfl⟩ := normalizeForWire_eq_ok.mp normalized
  exact flat family (normalizeFamily_mem known)

theorem scored_flat (profiles : List Profile) (now : Int64) :
    ∀ c ∈ (validateNormalizeAndScore profiles now).1, 0x7C ∉ c.profile.family := by
  intro c member
  obtain ⟨raw, -, normalized⟩ := (validateNormalizeAndScore_spec profiles now).1 c member
  exact normalized_flat normalized

theorem forall₂_unselected {now : Int64} {passed : List Profile} {dropped : List Candidate}
    {unselected : List Exclusion} (each : List.Forall₂ (Normalizes now) passed dropped)
    (ids : unselected.map (·.id) = dropped.map (·.profile.id)) :
    List.Forall₂ (fun p e => ∃ cp, (normalizeForWire p now).2 = .ok cp ∧ e.id = cp.id) passed
      unselected := by
  induction each generalizing unselected with
  | nil =>
    rw [List.map_eq_nil_iff.mp ids]
    exact .nil
  | @cons p c _ _ own _ ih =>
    obtain ⟨e, later, rfl, same, others⟩ := List.map_eq_cons_iff.mp ids
    exact .cons ⟨c.profile, own, same⟩ (ih others)

/-- Both stages together account for every raw candidate. -/
theorem accounted_of_stages {now : Int64} {profiles : List Profile} {scored : Scored}
    {included dropped : List Candidate} {unselected : List Exclusion}
    (first : AccountedOnce now profiles scored) (second : scored.out.Perm (included ++ dropped))
    (ids : unselected.map (·.id) = dropped.map (·.profile.id)) :
    Accounted now profiles included scored.excluded unselected := by
  obtain ⟨kept, unscored, perm, each, reported⟩ := first
  obtain ⟨raw, matched, same⟩ := List.perm_comp_forall₂ second.symm each.flip
  have normalized : List.Forall₂ (Normalizes now) raw (included ++ dropped) := matched.flip
  refine ⟨raw.take included.length, unscored, raw.drop included.length, ?_,
    List.forall₂_take_append _ _ _ normalized, reported,
    forall₂_unselected (List.forall₂_drop_append _ _ _ normalized) ids⟩
  have split : (raw ++ unscored).Perm
      (raw.take included.length ++ unscored ++ raw.drop included.length) := by
    nth_rewrite 1 [← List.take_append_drop included.length raw]
    rw [List.append_assoc, List.append_assoc]
    exact List.perm_append_comm.append_left _
  exact perm.trans ((same.symm.append_right unscored).trans split)

/-- What the loops of the selection give is sound for every list of profiles. -/
theorem selectCandidates_sound (profiles : List Profile) (now : Int64) (params : SelectionParams) :
    let scored := validateNormalizeAndScore profiles now
    let result := selectCandidates scored.1 params.defaults
    SelectionSound now profiles params scored.1 result.1 scored.2 result.2 := by
  intro scored result
  have flat := scored_flat profiles now
  have ids := (validateNormalizeAndScore_spec profiles now).2
  obtain ⟨profilesPos, capPos⟩ := params.defaults_pos
  obtain ⟨offered, perm, fair⟩ := selectionOf_fair flat profilesPos capPos
  have shape : result = _ := selectCandidates_eq scored.1 params.defaults
  have ordered : result.1.Perm (selectionOf scored.1 params.defaults).selected := by
    rw [shape]
    exact List.perm_insertionSort _ _
  obtain ⟨dropped, split, excludedIDs⟩ := fair.accounted
  have parts : scored.1.Perm (result.1 ++ dropped) :=
    perm.symm.trans (split.trans (ordered.symm.append_right dropped))
  have some : (result.1.map (·.profile.id)).Nodup := by
    have all := (parts.map (·.profile.id)).nodup_iff.mp ids
    rw [List.map_append] at all
    exact (List.nodup_append.mp all).1
  have endpoints := fair.distinct
  rw [fair.recorded, List.nodup_reverse] at endpoints
  have excluded : result.2.map (·.id) = dropped.map (·.profile.id) := by
    rw [shape]
    exact excludedIDs
  have accounted := accounted_of_stages (foldl_scoreOne_accounts now profiles)
    ((sortByScore_perm _).symm.trans parts) excluded
  refine ⟨accounted, ?_, fun family => ?_, (ordered.map _).nodup_iff.mpr endpoints, some,
    fun several room c member best => ?_⟩
  · rw [ordered.length_eq]
    exact fair.size
  · rw [ordered.countP_eq]
    exact fair.perFamily family
  · exact ordered.mem_iff.mpr (selectionOf_best flat ids capPos several room member best)

/-- Every profile is accounted for once, within the caps, and with room for all families the best of
each is included, exactly if a slice can be made for the candidates that a bundle may have. -/
theorem selectForBundle_sound_iff (capacity : ℕ) (profiles : List Profile) (now : Int64)
    (params : SelectionParams) :
    let scored := validateNormalizeAndScore profiles now
    (∃ result, selectForBundle capacity scored.1 params = some result ∧
        SelectionSound now profiles params scored.1 result.1 scored.2 result.2) ↔
      params.defaults.maxProfiles ≤ capacity :=
  exists_selectForBundle (selectCandidates_sound profiles now params)

def offeredProfile (id : GoString) (family : Family) (transport : GoString) (priority : Int64) :
    Profile where
  id
  family
  enabled := true
  createdAt := 1
  priority
  endpoint := ⟨lit "good.example", 443, lit "dual"⟩
  capabilities := { transport }
  credentials := { password := lit "secret", obfsPassword := lit "salt", sni := lit "good.example" }
  source := { source := lit "file", trustLevel := 50, importedAt := 1 }

def bestCandidate : Candidate :=
  ⟨offeredProfile (lit "shadowtls-1") familyShadowTLS (lit "tcp") 1, 75⟩

/-- Three candidates as they are scored at time 1. -/
def offeredCandidates : List Candidate :=
  [bestCandidate,
    ⟨offeredProfile (lit "dns-1") familyDNS (lit "udp") 0, 65⟩,
    ⟨offeredProfile (lit "hysteria2-1") familyHysteria2 (lit "udp") 0, 65⟩]

/-- A bundle for as many profiles as an `int` can say. -/
def hugeBundle : SelectionParams := ⟨9223372036854775807, 10⟩

/-- No slice has room for that many candidates, even where it may have `2 ^ 48` of them. -/
theorem hugeBundle_panics :
    let profiles := offeredCandidates.map (·.profile)
    let scored := validateNormalizeAndScore profiles 1
    ¬ ∃ result, selectForBundle (2 ^ 48) scored.1 hugeBundle = some result ∧
      SelectionSound 1 profiles hugeBundle scored.1 result.1 scored.2 result.2 := by
  intro profiles scored
  rintro ⟨result, returned, -⟩
  exact absurd (selectForBundle_eq_some.mp returned).1 (by decide)

end ShadowNet
