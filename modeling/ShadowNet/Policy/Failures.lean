import ShadowNet.Policy.Ranking

/-! # What a failed attempt does to a score

The score of a profile over the rationals as sums over its attempts in the window, and the change
that one more failure makes. The failure itself always costs: it weighs down the success rate and
is counted. But its latency goes into the mean like any other, the oldest attempt leaves a full
window, and evidence of blocking is worth something to the profiles that it does not touch; so a
score can rise, and it is stated exactly when.
-/

namespace ShadowNet

open Go

/-- The score that the loop of `SelectProfile` computes for a profile, over the rationals. -/
def AdaptiveState.scoreOf (s : AdaptiveState) (p : Profile) (now : Int64) : ℚ :=
  adaptiveScoreIn s.recentFailures (((aggregateIn ℚ s.events now).find? p.id).getD {}) p

/-! ## Sums over the attempts of a profile -/

def attemptsOf (id : GoString) (events : List NetworkEvent) : List NetworkEvent :=
  events.filter (·.profileID = id)

def measured (events : List NetworkEvent) : List NetworkEvent := events.filter (·.latency > 0)

def failed (events : List NetworkEvent) : List NetworkEvent := events.filter (!·.success)

section

variable (now : Int64)

def weight (ev : NetworkEvent) : ℚ := decayWeightIn ℚ now ev.timestamp

def weightOf (events : List NetworkEvent) : ℚ := (events.map (weight now)).sum

def latencyOf (events : List NetworkEvent) : ℚ :=
  (events.map fun ev => ev.latency.toInt * weight now ev).sum

/-- The success rate of a profile with these attempts. -/
def successRate (p : Profile) (own : List NetworkEvent) : ℚ :=
  if 0 < weightOf now own then weightOf now (own.filter (·.success)) / weightOf now own
  else Float64.toRat p.health.successEWMA

/-- The latency of a profile with these attempts. -/
def meanLatency (p : Profile) (own : List NetworkEvent) : ℚ :=
  if 0 < weightOf now (measured own) then latencyOf now (measured own) / weightOf now (measured own)
  else p.health.medianHandshakeMs.toInt

end

/-- What the recent failures are worth to a profile. -/
def failureBonus (failures : List GoString) (p : Profile) : ℚ :=
  (if lit "UDP_BLOCKED" ∈ failures then
    (if equalFold p.capabilities.transport (lit "tcp") then 8 else 0) -
      (if equalFold p.capabilities.transport (lit "udp") then 12 else 0)
  else 0) +
  if lit "TLS_BLOCKED" ∈ failures ∧ isBlank p.credentials.utlsFingerprint = false then 3 else 0

theorem adaptiveScoreIn_rat (failures : List GoString) (a : AggregatedIn ℚ) (p : Profile) :
    adaptiveScoreIn failures a p =
      (if 0 < a.totalW then a.successW / a.totalW else Float64.toRat p.health.successEWMA) * 100 -
        (if 0 < a.latencyWW then a.latencyW / a.latencyWW
          else p.health.medianHandshakeMs.toInt) / 10 -
        (a.failW + p.health.consecutiveFails.toInt) * 5 +
        p.trusted.source.trustLevel.toInt * (1 / 5) + failureBonus failures p := by
  have native : adaptiveScoreIn failures a p =
      (let score : ℚ :=
        (if 0 < a.totalW then a.successW / a.totalW else Float64.toRat p.health.successEWMA) * 100.0 -
          (if 0 < a.latencyWW then a.latencyW / a.latencyWW
            else p.health.medianHandshakeMs.toInt) / 10.0 -
          (a.failW + p.health.consecutiveFails.toInt) * 5.0 +
          p.trusted.source.trustLevel.toInt * 0.2
      let score :=
        if lit "UDP_BLOCKED" ∈ failures then
          let score := if equalFold p.capabilities.transport (lit "tcp") then score + (8 : ℕ) else score
          if equalFold p.capabilities.transport (lit "udp") then score - (12 : ℕ) else score
        else score
      if lit "TLS_BLOCKED" ∈ failures ∧ isBlank p.credentials.utlsFingerprint = false then
        score + (3 : ℕ)
      else score) := rfl
  have decimals : (100.0 : ℚ) = 100 ∧ (10.0 : ℚ) = 10 ∧ (5.0 : ℚ) = 5 ∧ (0.2 : ℚ) = 1 / 5 := by
    norm_num
  obtain ⟨hundred, ten, five, fifth⟩ := decimals
  rw [native, failureBonus, hundred, ten, five, fifth]
  generalize (if 0 < a.totalW then _ else _ : ℚ) = rate, (if 0 < a.latencyWW then _ else _ : ℚ) = delay
  dsimp only
  split_ifs <;> push_cast <;> ring

private theorem add_rat (a : AggregatedIn ℚ) (ev : NetworkEvent) (w : ℚ) : a.add ev w =
    { successW := a.successW + if ev.success then w else 0
      totalW := a.totalW + w
      latencyW := a.latencyW + if ev.latency > 0 then ev.latency.toInt * w else 0
      latencyWW := a.latencyWW + if ev.latency > 0 then w else 0
      failW := a.failW + if ev.success then 0 else w } := by
  have native : a.add ev w =
      { successW := if ev.success then a.successW + w else a.successW
        failW := if ev.success then a.failW else a.failW + w
        totalW := a.totalW + w
        latencyW := if ev.latency > 0 then a.latencyW + ev.latency.toInt * w else a.latencyW
        latencyWW := if ev.latency > 0 then a.latencyWW + w else a.latencyWW } := rfl
  rw [native]
  split_ifs <;> simp only [add_zero]

section

variable (now : Int64)

@[simp] theorem weightOf_nil : weightOf now [] = 0 := rfl

@[simp] theorem weightOf_append (first second : List NetworkEvent) :
    weightOf now (first ++ second) = weightOf now first + weightOf now second := by
  rw [weightOf, List.map_append, List.sum_append, weightOf, weightOf]

@[simp] theorem latencyOf_append (first second : List NetworkEvent) :
    latencyOf now (first ++ second) = latencyOf now first + latencyOf now second := by
  rw [latencyOf, List.map_append, List.sum_append, latencyOf, latencyOf]

theorem weightOf_filter_cons (select : NetworkEvent → Bool) (ev : NetworkEvent)
    (rest : List NetworkEvent) : weightOf now ((ev :: rest).filter select) =
      (if select ev then weight now ev else 0) + weightOf now (rest.filter select) := by
  rw [List.filter_cons]
  split_ifs
  · rfl
  · rw [zero_add]

/-- What the loop has added up for a profile after its attempts. -/
private theorem foldl_add_rat (own : List NetworkEvent) (a : AggregatedIn ℚ) :
    own.foldl (fun a ev => a.add ev (weight now ev)) a =
      { successW := a.successW + weightOf now (own.filter (·.success))
        totalW := a.totalW + weightOf now own
        latencyW := a.latencyW + latencyOf now (measured own)
        latencyWW := a.latencyWW + weightOf now (measured own)
        failW := a.failW + weightOf now (failed own) } := by
  induction own generalizing a with
  | nil => simp [measured, failed, latencyOf]
  | cons ev rest ih =>
    have whole : weightOf now (ev :: rest) = weight now ev + weightOf now rest := rfl
    have delays : latencyOf now (measured (ev :: rest)) =
        (if ev.latency > 0 then ev.latency.toInt * weight now ev else 0) +
          latencyOf now (measured rest) := by
      rw [measured, List.filter_cons]
      by_cases taken : ev.latency > 0
      · rw [if_pos (decide_eq_true taken), if_pos taken]
        rfl
      · rw [if_neg (by simpa using taken), if_neg taken, zero_add]
        rfl
    have fails : weightOf now (failed (ev :: rest)) =
        (if ev.success then 0 else weight now ev) + weightOf now (failed rest) := by
      rw [failed, weightOf_filter_cons, failed]
      cases ev.success <;> rfl
    have timed : weightOf now (measured (ev :: rest)) =
        (if decide (ev.latency > 0) then weight now ev else 0) + weightOf now (measured rest) :=
      weightOf_filter_cons now _ ev rest
    rw [List.foldl_cons, ih, add_rat, weightOf_filter_cons, whole, delays, fails, timed]
    simp only [add_assoc, decide_eq_true_eq]

/-- The loop over the events, seen at one profile. -/
theorem aggregateIn_rat (events : List NetworkEvent) (id : GoString) :
    ((aggregateIn ℚ events now).find? id).getD {} =
      { successW := weightOf now ((attemptsOf id events).filter (·.success))
        totalW := weightOf now (attemptsOf id events)
        latencyW := latencyOf now (measured (attemptsOf id events))
        latencyWW := weightOf now (measured (attemptsOf id events))
        failW := weightOf now (failed (attemptsOf id events)) } := by
  have loop (ag : Map GoString (AggregatedIn ℚ)) :
      ((events.foldl (fun ag ev => ag.insert ev.profileID
        (((ag.find? ev.profileID).getD {}).add ev (decayWeightIn ℚ now ev.timestamp)))
          ag).find? id).getD {} =
        (attemptsOf id events).foldl (fun a ev => a.add ev (weight now ev))
          ((ag.find? id).getD {}) := by
    induction events generalizing ag with
    | nil => rfl
    | cons ev rest ih =>
      rw [List.foldl_cons, ih, attemptsOf, attemptsOf, List.filter_cons, Map.find?_insert]
      by_cases own : ev.profileID = id
      · rw [if_pos own, if_pos (decide_eq_true own), List.foldl_cons, own]
        rfl
      · rw [if_neg own, if_neg (by simpa using own)]
  refine (loop ∅).trans ((foldl_add_rat now _ _).trans ?_)
  have zero : ((∅ : Map GoString (AggregatedIn ℚ)).find? id).getD {} =
      ({ successW := 0, totalW := 0, latencyW := 0, latencyWW := 0, failW := 0 } :
        AggregatedIn ℚ) := rfl
  simp only [zero, zero_add]

theorem scoreOf_eq (s : AdaptiveState) (p : Profile) : s.scoreOf p now =
    successRate now p (attemptsOf p.id s.events) * 100 -
      meanLatency now p (attemptsOf p.id s.events) / 10 -
      (weightOf now (failed (attemptsOf p.id s.events)) + p.health.consecutiveFails.toInt) * 5 +
      p.trusted.source.trustLevel.toInt * (1 / 5) + failureBonus s.recentFailures p := by
  rw [AdaptiveState.scoreOf, adaptiveScoreIn_rat, aggregateIn_rat]
  rfl

theorem weight_pos (ev : NetworkEvent) : 0 < weight now ev := by
  have native : weight now ev =
      (if now - ev.timestamp ≤ 0 then ((1 : ℕ) : ℚ)
      else if (1.0 - ((now - ev.timestamp).toInt : ℚ) / (300 : ℕ) : ℚ) < 0.1 then 0.1
        else 1.0 - ((now - ev.timestamp).toInt : ℚ) / (300 : ℕ)) := rfl
  rw [native]
  split_ifs with fresh old
  · norm_num
  · norm_num
  · exact lt_of_lt_of_le (by norm_num) (not_lt.mp old)

theorem weightOf_nonneg (events : List NetworkEvent) : 0 ≤ weightOf now events := by
  apply List.sum_nonneg
  intro w member
  obtain ⟨ev, -, rfl⟩ := List.mem_map.mp member
  exact (weight_pos now ev).le

theorem weightOf_pos {events : List NetworkEvent} (some : events ≠ []) : 0 < weightOf now events := by
  obtain ⟨ev, rest, rfl⟩ := List.exists_cons_of_ne_nil some
  have whole : weightOf now (ev :: rest) = weight now ev + weightOf now rest := rfl
  have first := weight_pos now ev
  have others := weightOf_nonneg now rest
  linarith

theorem weightOf_filter_le (select : NetworkEvent → Bool) (events : List NetworkEvent) :
    weightOf now (events.filter select) ≤ weightOf now events := by
  induction events with
  | nil => exact le_rfl
  | cons ev rest ih =>
    have whole : weightOf now (ev :: rest) = weight now ev + weightOf now rest := rfl
    have positive := weight_pos now ev
    rw [weightOf_filter_cons, whole]
    split_ifs <;> linarith

end

/-! ## One more failure -/

section

variable (s : AdaptiveState)

/-- The events that one more pushes out of the window, and the others. -/
def AdaptiveState.evicted : List NetworkEvent :=
  s.events.take (s.events.length - (s.ensureDefaults.maxEvents.toInt.toNat - 1))

def AdaptiveState.staying : List NetworkEvent :=
  lastOf (s.ensureDefaults.maxEvents.toInt.toNat - 1) s.events

/-- The event of a failed attempt. -/
def failedEvent (p : Profile) (signal : AttemptSignal) (failure : GoString) (t : Int64) :
    NetworkEvent where
  timestamp := t
  profileID := p.id
  latency := signal.latencyMS
  failure := normalizeFailure signal failure

theorem maxEvents_pos : 1 ≤ s.ensureDefaults.maxEvents.toInt.toNat := by
  have fifty : (50 : Int64).toInt = 50 := by decide
  rw [AdaptiveState.ensureDefaults]
  split_ifs with outside
  · exact (by decide : 1 ≤ defaultAdaptiveWindowSize.toInt.toNat)
  · have least := Int64.le_iff_toInt_le.mp (Int64.not_lt.mp (not_or.mp outside).1)
    change 1 ≤ s.maxEvents.toInt.toNat
    omega

theorem evicted_append_staying : s.evicted ++ s.staying = s.events :=
  List.take_append_drop _ _

theorem recordAttempt_failed {s : AdaptiveState} (enabled : s.enabled = true) {p : Profile}
    (named : isBlank p.id = false) {signal : AttemptSignal} (fails : signal.connectOK = false)
    (failure : GoString) (t : Int64) :
    (s.recordAttempt p.id signal failure t).events =
      s.staying ++ [failedEvent p signal failure t] := by
  have room := maxEvents_pos s
  have on : ¬ (s.ensureDefaults.enabled = false ∨ isBlank p.id = true) := by
    rw [AdaptiveState.ensureDefaults, enabled, named]
    decide
  rw [AdaptiveState.recordAttempt, if_neg on, fails]
  change lastOf _ (s.events ++ [failedEvent p signal failure t]) = _
  rw [lastOf, List.length_append, List.length_singleton, List.drop_append_of_le_length (by omega),
    AdaptiveState.staying, lastOf]
  congr 2
  omega

variable {s} {p : Profile} {signal : AttemptSignal} (failure : GoString) (t now : Int64)

/-- The attempts of the profile once the failure is recorded. -/
def attemptsAfter (s : AdaptiveState) (p : Profile) (signal : AttemptSignal) (failure : GoString)
    (t : Int64) : List NetworkEvent :=
  attemptsOf p.id s.staying ++ [failedEvent p signal failure t]

theorem attemptsOf_recordAttempt (enabled : s.enabled = true) (named : isBlank p.id = false)
    (fails : signal.connectOK = false) :
    attemptsOf p.id (s.recordAttempt p.id signal failure t).events =
      attemptsAfter s p signal failure t := by
  rw [recordAttempt_failed enabled named fails, attemptsOf, List.filter_append]
  congr 1
  exact List.filter_cons_of_pos (decide_eq_true rfl)

/-- The failure of a profile without a name is not recorded. -/
theorem scoreOf_unnamed (unnamed : isBlank p.id = true) :
    (s.recordAttempt p.id signal failure t).scoreOf p now = s.scoreOf p now := by
  have off : s.ensureDefaults.enabled = false ∨ isBlank p.id = true := .inr unnamed
  rw [AdaptiveState.recordAttempt, if_pos off]
  rfl

/-- The change of the score: the latency, the attempts that leave the window and the evidence of
blocking may raise it, the success rate and the count of failures lower it. -/
theorem scoreOf_recordAttempt (enabled : s.enabled = true) (named : isBlank p.id = false)
    (fails : signal.connectOK = false) :
    (s.recordAttempt p.id signal failure t).scoreOf p now - s.scoreOf p now =
      ((meanLatency now p (attemptsOf p.id s.events) -
          meanLatency now p (attemptsAfter s p signal failure t)) / 10 +
        5 * weightOf now (failed (attemptsOf p.id s.evicted)) +
        (failureBonus (s.recordAttempt p.id signal failure t).recentFailures p -
          failureBonus s.recentFailures p)) -
      (100 * (successRate now p (attemptsOf p.id s.events) -
          successRate now p (attemptsAfter s p signal failure t)) +
        5 * weight now (failedEvent p signal failure t)) := by
  have own : failed (attemptsOf p.id s.events) =
      failed (attemptsOf p.id s.evicted) ++ failed (attemptsOf p.id s.staying) := by
    rw [← evicted_append_staying s, attemptsOf, List.filter_append, failed, List.filter_append]
    rfl
  have one : failed [failedEvent p signal failure t] = [failedEvent p signal failure t] := rfl
  have single : weightOf now [failedEvent p signal failure t] =
      weight now (failedEvent p signal failure t) := add_zero _
  have next : weightOf now (failed (attemptsAfter s p signal failure t)) =
      weightOf now (failed (attemptsOf p.id s.staying)) +
        weight now (failedEvent p signal failure t) := by
    rw [attemptsAfter, failed, List.filter_append, weightOf_append, ← failed, ← failed, one, single]
  rw [scoreOf_eq, scoreOf_eq, attemptsOf_recordAttempt failure t enabled named fails, next, own,
    weightOf_append]
  ring

/-- The success rate does not rise by a failure if nothing leaves the window. -/
theorem successRate_after (known : 0 ≤ Float64.toRat p.health.successEWMA) :
    successRate now p (attemptsAfter s p signal failure t) ≤
      successRate now p (attemptsOf p.id s.staying) := by
  have positive := weight_pos now (failedEvent p signal failure t)
  have single : weightOf now [failedEvent p signal failure t] =
      weight now (failedEvent p signal failure t) := add_zero _
  have none : [failedEvent p signal failure t].filter (·.success) = [] := rfl
  have total := weightOf_nonneg now (attemptsOf p.id s.staying)
  have good := weightOf_nonneg now ((attemptsOf p.id s.staying).filter (·.success))
  have part := weightOf_filter_le now (·.success) (attemptsOf p.id s.staying)
  have after : successRate now p (attemptsAfter s p signal failure t) =
      weightOf now ((attemptsOf p.id s.staying).filter (·.success)) /
        (weightOf now (attemptsOf p.id s.staying) + weight now (failedEvent p signal failure t)) := by
    rw [attemptsAfter, successRate, weightOf_append, single, List.filter_append, none,
      List.append_nil, if_pos (add_pos_of_nonneg_of_pos total positive)]
  rw [after, successRate]
  split_ifs with some
  · exact div_le_div_of_nonneg_left good some (by linarith)
  · have zero : weightOf now ((attemptsOf p.id s.staying).filter (·.success)) = 0 := by linarith
    rw [zero, zero_div]
    exact known

/-- The mean latency does not fall by one that is not below it. -/
theorem meanLatency_after (slow : signal.latencyMS ≤ 0 ∨
    meanLatency now p (attemptsOf p.id s.staying) ≤ signal.latencyMS.toInt) :
    meanLatency now p (attemptsOf p.id s.staying) ≤
      meanLatency now p (attemptsAfter s p signal failure t) := by
  have split : measured (attemptsAfter s p signal failure t) =
      measured (attemptsOf p.id s.staying) ++ measured [failedEvent p signal failure t] :=
    List.filter_append ..
  by_cases timed : signal.latencyMS > 0
  · have taken : measured [failedEvent p signal failure t] = [failedEvent p signal failure t] :=
      List.filter_cons_of_pos (decide_eq_true timed)
    have single : weightOf now [failedEvent p signal failure t] =
        weight now (failedEvent p signal failure t) := add_zero _
    have delay : latencyOf now [failedEvent p signal failure t] =
        signal.latencyMS.toInt * weight now (failedEvent p signal failure t) := add_zero _
    have positive := weight_pos now (failedEvent p signal failure t)
    have mean := slow.resolve_left (Int64.not_le.mpr timed)
    rw [meanLatency] at mean
    rw [meanLatency, meanLatency, split, taken, weightOf_append, latencyOf_append, single, delay]
    split_ifs at mean ⊢ with some whole whole
    · rw [div_le_iff₀ some] at mean
      rw [div_le_div_iff₀ some whole]
      nlinarith
    · linarith
    · have empty : measured (attemptsOf p.id s.staying) = [] := by
        by_contra other
        exact some (weightOf_pos now other)
      rw [empty, weightOf_nil, zero_add] at whole ⊢
      have nothing : latencyOf now [] = 0 := rfl
      rwa [nothing, zero_add, mul_div_cancel_right₀ _ whole.ne']
    · have total := weightOf_nonneg now (measured (attemptsOf p.id s.staying))
      linarith
  · have dropped : measured [failedEvent p signal failure t] = [] :=
      List.filter_cons_of_neg (decide_eq_true_iff.not.mpr timed)
    rw [meanLatency, meanLatency, split, dropped, List.append_nil]

/-- What may make a failure pay: an attempt of the profile leaves the window, the latency is below
the mean, an estimate below zero is replaced, or the recent failures are worth more. -/
structure Unmoved (s : AdaptiveState) (p : Profile) (signal : AttemptSignal) (failure : GoString)
    (t now : Int64) : Prop where
  window : attemptsOf p.id s.evicted = []
  latency : signal.latencyMS ≤ 0 ∨
    meanLatency now p (attemptsOf p.id s.events) ≤ signal.latencyMS.toInt
  estimate : 0 ≤ Float64.toRat p.health.successEWMA
  bonus : failureBonus (s.recordAttempt p.id signal failure t).recentFailures p ≤
    failureBonus s.recentFailures p

/-- Recording a failure does not raise the score exactly if what it takes off the latency, lets go of
and adds as a bonus is no more than what it costs, and without the former it never does. -/
theorem scoreOf_recordAttempt_le_iff (enabled : s.enabled = true) (fails : signal.connectOK = false) :
    ((s.recordAttempt p.id signal failure t).scoreOf p now ≤ s.scoreOf p now ↔
      isBlank p.id = true ∨
        (meanLatency now p (attemptsOf p.id s.events) -
            meanLatency now p (attemptsAfter s p signal failure t)) / 10 +
          5 * weightOf now (failed (attemptsOf p.id s.evicted)) +
          (failureBonus (s.recordAttempt p.id signal failure t).recentFailures p -
            failureBonus s.recentFailures p) ≤
        100 * (successRate now p (attemptsOf p.id s.events) -
            successRate now p (attemptsAfter s p signal failure t)) +
          5 * weight now (failedEvent p signal failure t)) ∧
    (Unmoved s p signal failure t now →
      (s.recordAttempt p.id signal failure t).scoreOf p now ≤ s.scoreOf p now) := by
  by_cases named : isBlank p.id = true
  · have same : (s.recordAttempt p.id signal failure t).scoreOf p now = s.scoreOf p now :=
      scoreOf_unnamed failure t now named
    exact ⟨iff_of_true same.le (.inl named), fun _ => same.le⟩
  · have change := scoreOf_recordAttempt failure t now enabled (Bool.eq_false_iff.mpr named) fails
    refine ⟨?_, fun unmoved => ?_⟩
    · rw [or_iff_right named]
      constructor <;> intro bound <;> linarith
    · have stays : attemptsOf p.id s.events = attemptsOf p.id s.staying := by
        conv_lhs => rw [← evicted_append_staying s, attemptsOf, List.filter_append]
        exact congrArg (· ++ _) unmoved.window
      have slow := unmoved.latency
      have bonus := unmoved.bonus
      have positive := weight_pos now (failedEvent p signal failure t)
      rw [stays] at slow change
      rw [unmoved.window] at change
      have gone : weightOf now (failed []) = 0 := rfl
      have rate : successRate now p (attemptsAfter s p signal failure t) ≤
          successRate now p (attemptsOf p.id s.staying) :=
        successRate_after failure t now unmoved.estimate
      have mean := meanLatency_after failure t now slow
      rw [gone] at change
      linarith

end

/-- One attempt of a profile succeeded slowly, and then another profile was tried. -/
def slowState (others : ℕ) : AdaptiveState where
  enabled := true
  maxEvents := 50
  events := { profileID := lit "a", success := true, latency := 10000 } ::
    List.replicate others { profileID := lit "b", success := true }

theorem scoreOf_recordAttempt_slower :
    ((slowState 0).recordAttempt (lit "a") { latencyMS := 20000 } [] 0).scoreOf { id := lit "a" } 60 ≤
      (slowState 0).scoreOf { id := lit "a" } 60 :=
  (scoreOf_recordAttempt_le_iff [] 0 60 (s := slowState 0) (p := { id := lit "a" }) rfl rfl).2
    ⟨rfl, .inr (by decide +kernel), by decide +kernel, by decide +kernel⟩

/-- A failure that was quick pays for a profile that has been slow. -/
theorem scoreOf_recordAttempt_quicker :
    ¬ ∀ (s : AdaptiveState) (p : Profile) (signal : AttemptSignal) (failure : GoString)
      (t now : Int64), s.enabled = true → signal.connectOK = false → t.toInt + 60 ≤ now.toInt →
        (s.recordAttempt p.id signal failure t).scoreOf p now ≤ s.scoreOf p now := by
  have higher : (slowState 0).scoreOf { id := lit "a" } 60 <
      ((slowState 0).recordAttempt (lit "a") { latencyMS := 10 } [] 0).scoreOf { id := lit "a" }
        60 := by decide +kernel
  intro every
  exact absurd (every (slowState 0) { id := lit "a" } _ _ _ _ rfl rfl (by decide)) (not_le.mpr higher)

/-- So does one that pushes the slow attempt out of the window. -/
example : (slowState 49).scoreOf { id := lit "a" } 60 <
    ((slowState 49).recordAttempt (lit "a") {} [] 0).scoreOf { id := lit "a" } 60 := by
  decide +kernel

/-- So does one that speaks for its transport. -/
example : (slowState 0).scoreOf { id := lit "c", capabilities := { transport := lit "tcp" } } 60 <
    ((slowState 0).recordAttempt (lit "c") {} (lit "UDP_BLOCKED") 0).scoreOf
      { id := lit "c", capabilities := { transport := lit "tcp" } } 60 := by
  decide +kernel

end ShadowNet
