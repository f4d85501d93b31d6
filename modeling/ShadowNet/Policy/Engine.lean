import ShadowNet.Policy.Adaptive

/-! # The policy engine

`Engine.SelectProfile` takes the best profile of the adaptive ranking, or of a ranking of its own
where that one is empty or switched off. The clock is read anew for each ranking.
-/

namespace ShadowNet

open Go

/-- A nil engine behaves as one without an adaptive state. -/
structure Engine where
  adaptiveState : Option AdaptiveState := none

/-- The readings of the clock during one call, as Unix seconds. -/
structure Clock where
  adaptive : Int64
  fallback : Int64
  ranking : Int64

def recentSuccessWindowSec : Int64 := 3600

def freshImportWindowSec : Int64 := 7 * 24 * 3600

/-- The score of `RankProfiles`. -/
def engineScore (now : Int64) (p : Profile) : Float :=
  let score := p.health.successEWMA.toFloat * scoreScale
  let score :=
    if p.health.medianHandshakeMs > 1000 then score - 10.0
    else if p.health.medianHandshakeMs < 300 ∧ p.health.medianHandshakeMs > 0 then score + 10.0
    else score
  let score := if now - p.health.lastOkAt < recentSuccessWindowSec then score + 5.0 else score
  let score := score + floatOfInt p.trusted.source.trustLevel * trustWeight
  let score :=
    if p.source.importedAt > 0 ∧ now - p.source.importedAt < freshImportWindowSec then score + 3.0
    else score
  let score := score - floatOfInt p.health.consecutiveFails * 15.0
  let score := score - floatOfInt p.health.failureCount * 1.0
  if p.capabilities.transport = lit "tcp" then score + 1.0 else score

/-- `Engine.RankProfiles`. -/
def Engine.rankProfiles (e : Engine) (sorter : SliceSort) (profiles : List Profile)
    (clock : Clock) : List Ranked :=
  let adaptive :=
    match e.adaptiveState with
    | some state => (state.selectProfile sorter profiles clock.fallback).1
    | none => []
  if adaptive ≠ [] then adaptive
  else
    sorter.sort (fun first second => first.score > second.score)
      ((profiles.filter (·.usable clock.ranking)).map fun p =>
        ⟨p.trusted, engineScore clock.ranking p⟩)

/-- What `SelectProfile` does where the adaptive ranking gives nothing. -/
def Engine.selectFallback (e : Engine) (sorter : SliceSort) (profiles : List Profile)
    (clock : Clock) (decision : Decision) : Profile × Decision × List Ranked :=
  match e.rankProfiles sorter profiles clock with
  | [] => ({}, { decision with reason := lit "no viable profiles after deterministic ranking" }, [])
  | first :: rest =>
      (first.profile,
        { decision with
          selected := first.profile.id
          reason := lit "deterministic fallback score=" ++ formatTenths first.score
          scores := (first :: rest).map fun ranked => ⟨ranked.profile.id, ranked.score⟩ },
        first :: rest)

/-- `Engine.SelectProfile`. -/
def Engine.selectProfile (e : Engine) (sorter : SliceSort) (profiles : List Profile)
    (clock : Clock) : Profile × Decision × List Ranked :=
  match e.adaptiveState with
  | some state =>
      if state.enabled then
        match state.selectProfile sorter profiles clock.adaptive with
        | (first :: rest, decision) => (first.profile, decision, first :: rest)
        | ([], decision) => e.selectFallback sorter profiles clock decision
      else e.selectFallback sorter profiles clock {}
  | none => e.selectFallback sorter profiles clock {}

/-! ## The selected profile and the decision -/

/-- The guard puts the second of the ranked profiles in the place of a first one with another ID. -/
def GuardReplaces (history : List GoString) (ranked : List Ranked) : Prop :=
  ∃ first second rest, ranked = first :: second :: rest ∧ diversityGuard history ranked = true ∧
    first.profile.id ≠ second.profile.id

/-- The decision names the first of the ranked profiles unless the guard replaces it. -/
theorem selectRanked_eq_first (history : List GoString) (first : Ranked) (rest : List Ranked) :
    first.profile.id = (selectRanked history (first :: rest)).1 ↔
      ¬ GuardReplaces history (first :: rest) := by
  cases rest with
  | nil =>
    apply iff_of_true rfl
    rintro ⟨_, _, _, ⟨⟩, -⟩
  | cons second later =>
    rw [selectRanked]
    split_ifs with guarded
    · refine ⟨fun same => ?_, fun stays => ?_⟩
      · rintro ⟨_, _, _, ⟨⟩, -, other⟩
        exact other same
      · by_contra other
        exact stays ⟨first, second, later, rfl, guarded, other⟩
    · apply iff_of_true rfl
      rintro ⟨_, _, _, -, fires, -⟩
      exact guarded fires

theorem selectProfile_enabled {s : AdaptiveState} (enabled : s.enabled = true) (sorter : SliceSort)
    (profiles : List Profile) (nowUnix : Int64) :
    (s.selectProfile sorter profiles nowUnix).1 = s.ranking sorter profiles nowUnix ∧
      (s.selectProfile sorter profiles nowUnix).2.selected =
        (selectRanked s.selectionHistory (s.ranking sorter profiles nowUnix)).1 := by
  have on : ¬ s.ensureDefaults.enabled = false := by
    rw [AdaptiveState.ensureDefaults, enabled]
    decide
  rw [AdaptiveState.selectProfile, if_neg on]
  exact ⟨rfl, rfl⟩

theorem selectProfile_disabled {s : AdaptiveState} (disabled : s.enabled = false)
    (sorter : SliceSort) (profiles : List Profile) (nowUnix : Int64) :
    (s.selectProfile sorter profiles nowUnix).1 = [] := by
  have off : s.ensureDefaults.enabled = false := disabled
  rw [AdaptiveState.selectProfile, if_pos off]

theorem selectFallback_follows (e : Engine) (sorter : SliceSort) (profiles : List Profile)
    (clock : Clock) (decision : Decision) :
    (e.selectFallback sorter profiles clock decision).2.2 ≠ [] →
      (e.selectFallback sorter profiles clock decision).1.id =
        (e.selectFallback sorter profiles clock decision).2.1.selected := by
  unfold Engine.selectFallback
  split
  · exact fun none => absurd rfl none
  · exact fun _ => rfl

theorem selectFallback_first (e : Engine) (sorter : SliceSort) (profiles : List Profile)
    (clock : Clock) (decision : Decision) : ∀ first rest,
      (e.selectFallback sorter profiles clock decision).2.2 = first :: rest →
        (e.selectFallback sorter profiles clock decision).1 = first.profile := by
  unfold Engine.selectFallback
  split
  · exact fun _ _ none => (nomatch none)
  · rintro _ _ ⟨⟩
    rfl

/-- The engine returns the first of the profiles that it ranks. -/
theorem Engine.selectProfile_first (e : Engine) (sorter : SliceSort) (profiles : List Profile)
    (clock : Clock) : ∀ first rest, (e.selectProfile sorter profiles clock).2.2 = first :: rest →
      (e.selectProfile sorter profiles clock).1 = first.profile := by
  have fallback := selectFallback_first e sorter profiles clock
  unfold Engine.selectProfile
  cases e.adaptiveState with
  | none => exact fallback {}
  | some state =>
    dsimp only
    split_ifs with enabled
    · split
      · rintro _ _ ⟨⟩
        rfl
      · exact fallback _
    · exact fallback {}

/-- The engine returns one of the profiles that it ranks. -/
theorem Engine.selectProfile_selected (e : Engine) (sorter : SliceSort) (profiles : List Profile)
    (clock : Clock) (some : (e.selectProfile sorter profiles clock).2.2 ≠ []) :
    (e.selectProfile sorter profiles clock).1 ∈
      (e.selectProfile sorter profiles clock).2.2.map (·.profile) := by
  obtain ⟨first, rest, ranked⟩ := List.exists_cons_of_ne_nil some
  rw [ranked, e.selectProfile_first sorter profiles clock first rest ranked]
  exact List.mem_cons_self ..

/-- The engine returns the profile that its decision names exactly when the guard is not to replace
the best profile of the adaptive ranking. -/
theorem engine_follows_iff (e : Engine) (sorter : SliceSort) (profiles : List Profile)
    (clock : Clock) :
    ((e.selectProfile sorter profiles clock).2.2 ≠ [] →
        (e.selectProfile sorter profiles clock).1.id =
          (e.selectProfile sorter profiles clock).2.1.selected) ↔
      ∀ state, e.adaptiveState = some state → state.enabled = true →
        ¬ GuardReplaces state.selectionHistory
          (state.ranking sorter profiles clock.adaptive) := by
  have fallback := selectFallback_follows e sorter profiles clock
  unfold Engine.selectProfile
  cases given : e.adaptiveState with
  | none => exact iff_of_true (fallback {}) nofun
  | some state =>
    simp only [Option.some_inj, forall_eq']
    split_ifs with enabled
    · obtain ⟨ranked, selected⟩ := selectProfile_enabled enabled sorter profiles clock.adaptive
      generalize state.selectProfile sorter profiles clock.adaptive = result at ranked selected ⊢
      obtain ⟨list, decision⟩ := result
      dsimp only at ranked selected
      rw [← ranked] at selected ⊢
      cases list with
      | nil =>
        apply iff_of_true (fallback decision)
        intro _
        rintro ⟨_, _, _, ⟨⟩, -⟩
      | cons first rest =>
        dsimp only at selected ⊢
        rw [selected, selectRanked_eq_first]
        simp only [ne_eq, reduceCtorEq, not_false_eq_true, true_imp_iff, enabled]
    · exact iff_of_true (fallback {}) fun on => absurd on enabled

/-- A profile that may be used at any time. -/
def plainProfile (id : GoString) : Profile := { id, enabled := true }

/-- A state in which one profile has been selected ten times in a row. -/
def lockedIn : AdaptiveState :=
  { newAdaptiveState 80 with selectionHistory := List.replicate 10 (lit "a") }

/-- The decision names the second of two equal profiles, and the engine returns the first. -/
theorem engine_ignores_guard :
    ¬ ∀ (e : Engine) (sorter : SliceSort) (profiles : List Profile) (clock : Clock),
      (e.selectProfile sorter profiles clock).2.2 ≠ [] →
        (e.selectProfile sorter profiles clock).1.id =
          (e.selectProfile sorter profiles clock).2.1.selected := by
  intro follows
  have wrong := follows ⟨some lockedIn⟩ .stable [plainProfile (lit "a"), plainProfile (lit "b")]
    ⟨1000, 1000, 1000⟩
  revert wrong
  decide

/-! ## Who is ranked -/

/-- The readings of the clock. -/
def Clock.readings (clock : Clock) : List Int64 := [clock.adaptive, clock.fallback, clock.ranking]

/-- A profile that may be used at one of these times, as a ranking shows it. -/
def Profile.RankedAs (p : Profile) (times : List Int64) (shown : Profile) : Prop :=
  (shown = p ∨ shown = p.trusted) ∧ ∃ now ∈ times, p.usable now = true

theorem candidates_shown {s : AdaptiveState} {profiles : List Profile} {now : Int64}
    {candidate : Ranked} (member : candidate ∈ s.candidates profiles now) :
    ∃ p ∈ profiles, (candidate.profile = p ∨ candidate.profile = p.trusted) ∧
      p.usable now = true := by
  unfold AdaptiveState.candidates at member
  dsimp only at member
  split_ifs at member with unfiltered
  · obtain ⟨p, kept, rfl⟩ := List.mem_map.mp member
    obtain ⟨inside, passed⟩ := List.mem_filter.mp kept
    rw [Bool.and_eq_true] at passed
    exact ⟨p, inside, .inl rfl, passed.1⟩
  · obtain ⟨p, kept, rfl⟩ := List.mem_map.mp member
    obtain ⟨inside, passed⟩ := List.mem_filter.mp kept
    rw [Bool.and_eq_true, Bool.and_eq_true] at passed
    exact ⟨p, inside, .inr rfl, passed.1.1⟩

theorem selectProfile_shown {s : AdaptiveState} {sorter : SliceSort} {profiles : List Profile}
    {times : List Int64} {now : Int64} (read : now ∈ times) {ranked : Ranked}
    (member : ranked ∈ (s.selectProfile sorter profiles now).1) :
    ∃ p ∈ profiles, p.RankedAs times ranked.profile := by
  cases enabled : s.enabled with
  | false =>
    rw [selectProfile_disabled enabled] at member
    cases member
  | true =>
    rw [(selectProfile_enabled enabled sorter profiles now).1] at member
    obtain ⟨p, inside, shown, usable⟩ := candidates_shown ((sorter.perm _ _).mem_iff.mp member)
    exact ⟨p, inside, shown, now, read, usable⟩

theorem rankProfiles_shown {e : Engine} {sorter : SliceSort} {profiles : List Profile}
    {clock : Clock} {ranked : Ranked} (member : ranked ∈ e.rankProfiles sorter profiles clock) :
    ∃ p ∈ profiles, p.RankedAs clock.readings ranked.profile := by
  unfold Engine.rankProfiles at member
  dsimp only at member
  split_ifs at member with adaptive
  · cases given : e.adaptiveState with
    | none =>
      rw [given] at member
      cases member
    | some state =>
      rw [given] at member
      exact selectProfile_shown (by simp [Clock.readings]) member
  · obtain ⟨p, kept, rfl⟩ := List.mem_map.mp ((sorter.perm _ _).mem_iff.mp member)
    obtain ⟨inside, usable⟩ := List.mem_filter.mp kept
    exact ⟨p, inside, .inr rfl, clock.ranking, by simp [Clock.readings], usable⟩

/-- The engine ranks profiles that it is given and that may be used. -/
theorem Engine.selectProfile_ranked {e : Engine} {sorter : SliceSort} {profiles : List Profile}
    {clock : Clock} {ranked : Ranked} (member : ranked ∈ (e.selectProfile sorter profiles clock).2.2) :
    ∃ p ∈ profiles, p.RankedAs clock.readings ranked.profile := by
  have fallback (decision : Decision)
      (member : ranked ∈ (e.selectFallback sorter profiles clock decision).2.2) :
      ∃ p ∈ profiles, p.RankedAs clock.readings ranked.profile := by
    unfold Engine.selectFallback at member
    split at member
    · cases member
    · rename_i first rest same
      exact rankProfiles_shown (same ▸ member)
  unfold Engine.selectProfile at member
  split at member
  · split_ifs at member with enabled
    · split at member
      · rename_i state given first rest decision same
        have read : clock.adaptive ∈ clock.readings := by simp [Clock.readings]
        apply selectProfile_shown read
        rw [same]
        exact member
      · exact fallback _ member
    · exact fallback _ member
  · exact fallback _ member

end ShadowNet
