import Mathlib
import ShadowNet.Policy.Adaptive

/-! # Adaptive rankings in exact arithmetic

The scores of `SelectProfile` over any kind of numbers. Over float64 they are those of the agent;
over the rationals nothing is rounded, and a ranking has exactly the profiles that it should have,
in the order of their scores.
-/

namespace ShadowNet

open Go

/-- Numbers that scores are computed with. -/
class Scalar (K : Type) extends Add K, Sub K, Mul K, Div K, LT K, OfScientific K where
  ofNat : ℕ → K
  /-- `float64(n)`. -/
  ofInt64 : Int64 → K
  ofFloat64 : Float64 → K
  /-- `math.Round`. -/
  round : K → K

instance : Scalar Float where
  ofNat := Float.ofNat
  ofInt64 := floatOfInt
  ofFloat64 := Float64.toFloat
  round := mathRound

/-- The value of a finite float64. -/
def Float64.toRat (x : Float64) : ℚ := (if x.neg then -1 else 1) * x.units / Float64.perOne

instance : Scalar ℚ where
  ofNat n := n
  ofInt64 n := n.toInt
  ofFloat64 := Float64.toRat
  round x := if x < 0 then -⌊-x + 1 / 2⌋ else ⌊x + 1 / 2⌋

section

variable (K : Type) [Scalar K] [DecidableLT K]

def decayWeightIn (now eventTS : Int64) : K :=
  let age := now - eventTS
  if age ≤ 0 then Scalar.ofNat 1
  else
    let w : K := 1.0 - Scalar.ofInt64 age / Scalar.ofNat 300
    if w < 0.1 then 0.1 else w

structure AggregatedIn where
  successW : K := Scalar.ofNat 0
  totalW : K := Scalar.ofNat 0
  latencyW : K := Scalar.ofNat 0
  latencyWW : K := Scalar.ofNat 0
  failW : K := Scalar.ofNat 0

structure RankedIn (K : Type) where
  profile : Profile
  score : K

structure ScoredProfileIn (K : Type) where
  profileID : GoString
  score : K

variable {K}

def AggregatedIn.add (a : AggregatedIn K) (ev : NetworkEvent) (w : K) : AggregatedIn K where
  successW := if ev.success then a.successW + w else a.successW
  failW := if ev.success then a.failW else a.failW + w
  totalW := a.totalW + w
  latencyW := if ev.latency > 0 then a.latencyW + Scalar.ofInt64 ev.latency * w else a.latencyW
  latencyWW := if ev.latency > 0 then a.latencyWW + w else a.latencyWW

variable (K) in
def aggregateIn (events : List NetworkEvent) (nowUnix : Int64) : Map GoString (AggregatedIn K) :=
  events.foldl
    (fun ag ev => ag.insert ev.profileID
      (((ag.find? ev.profileID).getD {}).add ev (decayWeightIn K nowUnix ev.timestamp))) ∅

/-- The score of a profile with the attempts `a`. -/
def adaptiveScoreIn (failures : List GoString) (a : AggregatedIn K) (p : Profile) : K :=
  let successRate :=
    if a.totalW > Scalar.ofNat 0 then a.successW / a.totalW else Scalar.ofFloat64 p.health.successEWMA
  let latency :=
    if a.latencyWW > Scalar.ofNat 0 then a.latencyW / a.latencyWW
    else Scalar.ofInt64 p.health.medianHandshakeMs
  let failCount := a.failW + Scalar.ofInt64 p.health.consecutiveFails
  let score := successRate * 100.0 - latency / 10.0 - failCount * 5.0
  let score := score + Scalar.ofInt64 p.trusted.source.trustLevel * 0.2
  let score :=
    if lit "UDP_BLOCKED" ∈ failures then
      let score :=
        if equalFold p.capabilities.transport (lit "tcp") then score + Scalar.ofNat 8 else score
      if equalFold p.capabilities.transport (lit "udp") then score - Scalar.ofNat 12 else score
    else score
  if lit "TLS_BLOCKED" ∈ failures ∧ isBlank p.credentials.utlsFingerprint = false then
    score + Scalar.ofNat 3
  else score

variable (K)

def AdaptiveState.scoreIn (s : AdaptiveState) (profiles : List Profile) (nowUnix : Int64) :
    List (RankedIn K) :=
  let failures := s.recentFailures
  let ag := aggregateIn K s.events nowUnix
  (profiles.filter fun p =>
      p.usable nowUnix && !s.cooling p.id nowUnix && !dnsExcluded failures p).map fun p =>
    ⟨p.trusted, adaptiveScoreIn failures ((ag.find? p.id).getD {}) p⟩

def AdaptiveState.scoreUnfilteredIn (s : AdaptiveState) (profiles : List Profile)
    (nowUnix : Int64) : List (RankedIn K) :=
  (profiles.filter fun p => p.usable nowUnix && !s.cooling p.id nowUnix).map fun p =>
    ⟨p, Scalar.ofFloat64 p.health.successEWMA * 100.0⟩

def AdaptiveState.candidatesIn (s : AdaptiveState) (profiles : List Profile) (nowUnix : Int64) :
    List (RankedIn K) :=
  let scored := s.scoreIn K profiles nowUnix
  if scored.isEmpty then s.scoreUnfilteredIn K profiles nowUnix else scored

/-- The ranked list and the scores of `AdaptiveState.SelectProfile`. -/
def AdaptiveState.selectProfileIn (s : AdaptiveState) (sorter : SliceSort)
    (profiles : List Profile) (nowUnix : Int64) :
    List (RankedIn K) × List (ScoredProfileIn K) :=
  let s := s.ensureDefaults
  if s.enabled = false then ([], [])
  else
    (sorter.sort (fun first second => first.score > second.score)
        (s.candidatesIn K profiles nowUnix),
      sorter.sort (fun first second => first.score > second.score)
        ((s.candidatesIn K profiles nowUnix).map fun candidate =>
          ⟨candidate.profile.id, Scalar.round (candidate.score * Scalar.ofNat 10) / Scalar.ofNat 10⟩))

end

/-! ## Over float64 -/

def AggregatedIn.toFloat (a : AggregatedIn Float) : Aggregated :=
  ⟨a.successW, a.totalW, a.latencyW, a.latencyWW, a.failW⟩

theorem decayWeightIn_float (now eventTS : Int64) :
    decayWeightIn Float now eventTS = decayWeight now eventTS := rfl

theorem adaptiveScoreIn_float (failures : List GoString) (a : AggregatedIn Float) (p : Profile) :
    adaptiveScoreIn failures a p = adaptiveScore failures a.toFloat p := rfl

theorem aggregateIn_float (events : List NetworkEvent) (nowUnix : Int64) (key : GoString) :
    ((aggregateIn Float events nowUnix).find? key).map AggregatedIn.toFloat =
      (aggregate events nowUnix).find? key := by
  have loop (own : Map GoString (AggregatedIn Float)) (ag : Map GoString Aggregated)
      (same : ∀ key, (own.find? key).map AggregatedIn.toFloat = ag.find? key) :
      ((events.foldl (fun ag ev => ag.insert ev.profileID
        (((ag.find? ev.profileID).getD {}).add ev (decayWeightIn Float nowUnix ev.timestamp)))
          own).find? key).map AggregatedIn.toFloat =
        (events.foldl (fun ag ev => ag.insert ev.profileID
          (((ag.find? ev.profileID).getD {}).add ev (decayWeight nowUnix ev.timestamp)))
            ag).find? key := by
    induction events generalizing own ag with
    | nil => exact same key
    | cons ev rest ih =>
      apply ih
      intro other
      rw [Map.find?_insert, Map.find?_insert, ← same ev.profileID, ← same other]
      split_ifs
      · cases own.find? ev.profileID <;> rfl
      · rfl
  exact loop ∅ ∅ fun _ => rfl

def RankedIn.toFloat (r : RankedIn Float) : Ranked := ⟨r.profile, r.score⟩

/-- Over float64 the candidates are those of the agent. -/
theorem candidatesIn_float (s : AdaptiveState) (profiles : List Profile) (nowUnix : Int64) :
    (s.candidatesIn Float profiles nowUnix).map RankedIn.toFloat =
      s.candidates profiles nowUnix := by
  have scored : (s.scoreIn Float profiles nowUnix).map RankedIn.toFloat =
      s.score profiles nowUnix := by
    rw [AdaptiveState.scoreIn, AdaptiveState.score, List.map_map]
    apply List.map_congr_left
    intro p _
    simp only [Function.comp, RankedIn.toFloat, adaptiveScoreIn_float, ← aggregateIn_float]
    cases (aggregateIn Float s.events nowUnix).find? p.id <;> rfl
  have unfiltered : (s.scoreUnfilteredIn Float profiles nowUnix).map RankedIn.toFloat =
      s.scoreUnfiltered profiles nowUnix := by
    rw [AdaptiveState.scoreUnfilteredIn, AdaptiveState.scoreUnfiltered, List.map_map]
    rfl
  rw [AdaptiveState.candidatesIn, AdaptiveState.candidates, ← scored, ← unfiltered]
  cases s.scoreIn Float profiles nowUnix <;> rfl

/-! ## Which profiles are ranked -/

/-- The profile is enabled and in no cooldown; a profile that never failed has a cooldown of 0. -/
def AdaptiveState.Eligible (s : AdaptiveState) (nowUnix : Int64) (p : Profile) : Prop :=
  p.enabled = true ∧ p.manualDisabled = false ∧ p.health.cooldownUntil ≤ nowUnix ∧
    (s.cooldown.find? p.id).getD 0 ≤ nowUnix

instance (s : AdaptiveState) (nowUnix : Int64) (p : Profile) : Decidable (s.Eligible nowUnix p) :=
  inferInstanceAs (Decidable (_ ∧ _))

def Profile.DnsDependent (p : Profile) : Prop :=
  p.family = familyDNS ∨ hasTag (p.capabilities.dpiResistanceTags.getD []) (lit "dns-dependent") = true

instance (p : Profile) : Decidable p.DnsDependent := inferInstanceAs (Decidable (_ ∨ _))

/-- The most recent types of failures, six at most. -/
def AdaptiveState.recentTypes (s : AdaptiveState) : List GoString :=
  ((s.events.reverse.filter fun ev => !ev.success && !isBlank ev.failure).map
    (·.failure)).eraseDups.take 6

/-- There is evidence of blocked DNS, and a profile to use instead. -/
def AdaptiveState.AvoidsDns (s : AdaptiveState) (profiles : List Profile) (nowUnix : Int64) : Prop :=
  lit "DNS_BLOCKED" ∈ s.recentTypes ∧ ∃ p ∈ profiles, s.Eligible nowUnix p ∧ ¬ p.DnsDependent

instance (s : AdaptiveState) (profiles : List Profile) (nowUnix : Int64) :
    Decidable (s.AvoidsDns profiles nowUnix) :=
  inferInstanceAs (Decidable (_ ∧ ∃ p ∈ profiles, _))

/-- The profiles that are to be ranked. -/
def AdaptiveState.rankable (s : AdaptiveState) (profiles : List Profile) (nowUnix : Int64) :
    List Profile :=
  profiles.filter fun p =>
    s.Eligible nowUnix p ∧ ¬ (s.AvoidsDns profiles nowUnix ∧ p.DnsDependent)

/-- The loop over the newest attempts, with what it has found so far. -/
theorem collectFailures_eq (events : List NetworkEvent) (found : List GoString)
    (few : found.length ≤ 6) :
    collectFailures events found =
      (found ++ (((events.filter fun ev => !ev.success && !isBlank ev.failure).map
        (·.failure)).filter (· ∉ found)).eraseDups).take 6 := by
  induction events generalizing found with
  | nil => simp [collectFailures, List.take_of_length_le few]
  | cons ev older ih =>
    rw [collectFailures, List.filter_cons]
    by_cases full : 6 ≤ found.length
    · rw [if_pos full, List.take_append_of_le_length full, List.take_of_length_le few]
    · rw [if_neg full]
      by_cases fails : (!ev.success && !isBlank ev.failure) = true
      · rw [if_pos fails, List.map_cons, List.filter_cons]
        have counted : ev.success = false ∧ isBlank ev.failure = false := by simpa using fails
        by_cases known : ev.failure ∈ found
        · rw [if_pos (.inr (.inr known)), if_neg (by simpa using known), ih found few]
        · rw [if_neg (by simp [counted, known]), if_pos (by simpa using known),
            ih (found ++ [ev.failure]) (by simp; omega), List.eraseDups_cons, List.filter_filter,
            List.append_assoc, List.singleton_append]
          congr 4
          apply List.filter_congr
          intro other _
          rw [Bool.eq_iff_iff]
          simp [and_comm]
      · rw [if_neg fails, if_pos (by grind), ih found few]

theorem recentFailures_eq (s : AdaptiveState) : s.recentFailures = s.recentTypes := by
  rw [AdaptiveState.recentFailures, collectFailures_eq _ _ (Nat.zero_le _)]
  simp [AdaptiveState.recentTypes]

/-- The two tests at the head of the loop decide who is eligible. -/
theorem eligible_iff (s : AdaptiveState) (nowUnix : Int64) (p : Profile) :
    (p.usable nowUnix && !s.cooling p.id nowUnix) = true ↔ s.Eligible nowUnix p := by
  simp only [Profile.usable, AdaptiveState.cooling, AdaptiveState.Eligible, Bool.and_eq_true,
    Bool.not_eq_true', decide_eq_false_iff_not, Int64.not_lt, gt_iff_lt, and_assoc]

/-- Blocked names exclude those who depend on them. -/
theorem dnsExcluded_iff (s : AdaptiveState) (p : Profile) :
    dnsExcluded s.recentFailures p = true ↔ lit "DNS_BLOCKED" ∈ s.recentTypes ∧ p.DnsDependent := by
  rw [recentFailures_eq]
  simp [dnsExcluded, Profile.DnsDependent]

section

variable {K : Type} [Scalar K] [DecidableLT K] (s : AdaptiveState) (profiles : List Profile)
  (nowUnix : Int64)

theorem scoreIn_ids : (s.scoreIn K profiles nowUnix).map (·.profile.id) =
    (profiles.filter fun p => s.Eligible nowUnix p ∧
      ¬ (lit "DNS_BLOCKED" ∈ s.recentTypes ∧ p.DnsDependent)).map (·.id) := by
  rw [AdaptiveState.scoreIn, List.map_map]
  have same (p : Profile) : (p.usable nowUnix && !s.cooling p.id nowUnix &&
      !dnsExcluded s.recentFailures p) = decide (s.Eligible nowUnix p ∧
        ¬ (lit "DNS_BLOCKED" ∈ s.recentTypes ∧ p.DnsDependent)) := by
    rw [Bool.eq_iff_iff, Bool.and_eq_true, eligible_iff, Bool.not_eq_true', ← Bool.not_eq_true,
      dnsExcluded_iff, decide_eq_true_eq]
  simp only [same]
  exact List.map_congr_left fun p _ => trusted_id p

/-- The candidates are the profiles that are to be ranked. -/
theorem candidatesIn_ids : (s.candidatesIn K profiles nowUnix).map (·.profile.id) =
    (s.rankable profiles nowUnix).map (·.id) := by
  have scored := @scoreIn_ids K _ _ s profiles nowUnix
  rw [AdaptiveState.candidatesIn]
  cases found : s.scoreIn K profiles nowUnix with
  | nil =>
    rw [found] at scored
    have none := List.map_eq_nil_iff.mp scored.symm
    have keeps : ¬ s.AvoidsDns profiles nowUnix := by
      rintro ⟨-, p, member, eligible, independent⟩
      have left := List.filter_eq_nil_iff.mp none p member
      exact left (decide_eq_true ⟨eligible, fun both => independent both.2⟩)
    rw [List.isEmpty_nil, if_pos rfl, AdaptiveState.scoreUnfilteredIn, List.map_map]
    refine congrArg (List.map _) (List.filter_congr fun p _ => ?_)
    rw [Bool.eq_iff_iff, eligible_iff, decide_eq_true_eq]
    exact ⟨fun eligible => ⟨eligible, fun both => keeps both.1⟩, And.left⟩
  | cons first rest =>
    rw [List.isEmpty_cons, if_neg Bool.false_ne_true, ← found, scored]
    refine congrArg (List.map _) (List.filter_congr fun p _ => ?_)
    rw [decide_eq_decide]
    refine and_congr_right fun eligible => not_congr (and_congr_left fun dependent => ?_)
    refine ⟨fun blocked => ⟨blocked, ?_⟩, And.left⟩
    -- something passed the filter, and it does not depend on DNS
    have kept : first.profile.id ∈ (s.scoreIn K profiles nowUnix).map (·.profile.id) := by
      rw [found]
      exact List.mem_cons_self ..
    rw [scored] at kept
    obtain ⟨q, passed, -⟩ := List.mem_map.mp kept
    obtain ⟨member, passes⟩ := List.mem_filter.mp passed
    obtain ⟨usable, other⟩ := of_decide_eq_true passes
    exact ⟨q, member, usable, fun depends => other ⟨blocked, depends⟩⟩

/-- Nothing is left to rank exactly where no profile is eligible. -/
theorem rankable_eq_nil_iff :
    s.rankable profiles nowUnix = [] ↔ ∀ p ∈ profiles, ¬ s.Eligible nowUnix p := by
  rw [AdaptiveState.rankable, List.filter_eq_nil_iff]
  simp only [decide_eq_true_eq, not_and]
  constructor
  · intro all p member eligible
    obtain ⟨⟨-, q, inside, usable, independent⟩, -⟩ := Decidable.not_imp_iff_and_not.mp
      (all p member eligible)
    exact all q inside usable fun _ => independent
  · intro none p member eligible
    exact absurd eligible (none p member)

end

/-! ## Rankings -/

/-- A ranking of the profiles that are to be ranked, with its scores. -/
structure AdaptiveState.RankingOf (s : AdaptiveState) (profiles : List Profile) (nowUnix : Int64)
    (ranked : List (RankedIn ℚ)) (scores : List (ScoredProfileIn ℚ)) : Prop where
  ids : (ranked.map (·.profile.id)).Perm ((s.rankable profiles nowUnix).map (·.id))
  distinct : (ranked.map (·.profile.id)).Nodup
  descending : ranked.Pairwise fun first second => second.score ≤ first.score
  scored : (scores.map (·.profileID)).Perm (ranked.map (·.profile.id))
  empty : ranked = [] ↔ ∀ p ∈ profiles, ¬ s.Eligible nowUnix p

theorem strictWeak_descending {α : Type} (key : α → ℚ) :
    StrictWeak fun first second => decide (key first > key second) where
  asymm above := decide_eq_false (of_decide_eq_true above).asymm
  between above b := by
    rcases lt_or_ge (key b) (key _) with below | reaches
    · exact .inl (decide_eq_true below)
    · exact .inr (decide_eq_true ((of_decide_eq_true above).trans_le reaches))

/-- `SelectProfile` ranks exactly the profiles that are to be ranked, by their scores. -/
theorem selectProfileIn_ranks (s : AdaptiveState) (enabled : s.enabled = true) (sorter : SliceSort)
    (profiles : List Profile) (distinct : (profiles.map (·.id)).Nodup) (nowUnix : Int64) :
    s.RankingOf profiles nowUnix (s.selectProfileIn ℚ sorter profiles nowUnix).1
      (s.selectProfileIn ℚ sorter profiles nowUnix).2 := by
  have on : ¬ s.ensureDefaults.enabled = false := by
    rw [AdaptiveState.ensureDefaults, enabled]
    decide
  have listed : (s.ensureDefaults.candidatesIn ℚ profiles nowUnix).map (·.profile.id) =
      (s.rankable profiles nowUnix).map (·.id) := candidatesIn_ids s profiles nowUnix
  rw [AdaptiveState.selectProfileIn, if_neg on]
  dsimp only
  have ids := (sorter.perm (fun first second : RankedIn ℚ => decide (first.score > second.score))
    (s.ensureDefaults.candidatesIn ℚ profiles nowUnix)).map (·.profile.id)
  rw [listed] at ids
  refine ⟨ids, ?_, ?_, ?_, ?_⟩
  · apply ids.nodup_iff.mpr
    exact (List.filter_sublist.map _).nodup distinct
  · refine (sorter.ordered (strictWeak_descending RankedIn.score) _).imp fun kept => ?_
    exact le_of_not_gt (of_decide_eq_false kept)
  · apply ((sorter.perm _ _).map _).trans
    rw [List.map_map]
    exact (List.Perm.of_eq listed).trans ids.symm
  · rw [← rankable_eq_nil_iff]
    constructor
    · intro none
      rw [none] at ids
      exact List.map_eq_nil_iff.mp ids.symm.eq_nil
    · intro none
      rw [none] at ids
      exact List.map_eq_nil_iff.mp ids.eq_nil

/-- Two attempts with blocked DNS and a success, and a profile that has failed a moment ago. -/
def attemptedState : AdaptiveState :=
  { newAdaptiveState 80 with
    events :=
      [{ timestamp := 900, profileID := lit "dns", failure := lit "DNS_BLOCKED" },
        { timestamp := 950, profileID := lit "udp", failure := lit "UDP_BLOCKED" },
        { timestamp := 990, profileID := lit "tcp", success := true, latency := 120 },
        { timestamp := 995, profileID := lit "cooling", failure := lit "DNS_BLOCKED" }]
    cooldown := (∅ : Map GoString Int64).insert (lit "cooling") 1055 }

def attemptedProfiles : List Profile :=
  [{ id := lit "dns", family := familyDNS, enabled := true },
    { id := lit "udp", family := familyHysteria2, enabled := true, capabilities := { transport := lit "udp" } },
    { id := lit "cooling", family := familyReality, enabled := true },
    { id := lit "tcp", family := familyReality, enabled := true, capabilities := { transport := lit "tcp" } },
    { id := lit "off", family := familyReality, enabled := true, manualDisabled := true }]

/-- The profile that needs DNS, the cooling one and the one that is switched off are not ranked. -/
theorem attemptedState_ranks :
    let ranked := attemptedState.selectProfileIn ℚ .stable attemptedProfiles 1000
    ranked.1.map (·.profile.id) = [lit "tcp", lit "udp"] ∧
      attemptedState.RankingOf attemptedProfiles 1000 ranked.1 ranked.2 :=
  ⟨by decide +kernel,
    selectProfileIn_ranks attemptedState rfl .stable attemptedProfiles (by decide) 1000⟩

end ShadowNet
