import ShadowNet.Go.Map
import ShadowNet.Sing.Controller
import ShadowNet.Sing.Generator

/-! # The rotation loop

`RotationManager.Start` rotates once and then again at every tick and at every burst of anomalies,
and after each of these rotations resets its ticker to the interval of the current configuration.
`Reset` panics at an interval that is not positive. What the store, the advisor, the file system and
the clock answer during a rotation is an argument of the rotation; times are in nanoseconds.
-/

namespace ShadowNet

open Go

def minute : ℤ := 60 * 1000000000

/-- `detector.Event`, as far as the loop looks at one. -/
structure Event where
  timestamp : ℤ
deriving DecidableEq

structure RotationManager where
  generator : ConfigGenerator
  sing : SingState
  currentConfig : LLMDecision := {}
  currentProfile : Profile := {}
  blacklist : Map GoString ℤ := ∅

/-- The answers during one call of `Rotate`. -/
structure RotationAnswers where
  /-- What the store loads, unless it fails. -/
  stored : Option (List Profile)
  now : ℤ
  /-- Whether the advisor proposes an action. -/
  proposes : Bool
  files : GeneratorAnswers
  reload : ReloadAnswers
  failedAt : ℤ

/-- One profile in the loop of `getHealthyCandidates`: a blacklisted one is passed over or, once its
time is up, taken off the list. -/
def healthyStep (now : ℤ) (state : Map GoString ℤ × List Profile) (p : Profile) :
    Map GoString ℤ × List Profile :=
  match state.1.find? p.id with
  | none => (state.1, state.2 ++ [p])
  | some expiry =>
      if now < expiry then state else (state.1.erase p.id, state.2 ++ [p])

/-- `getHealthyCandidates`, once the store has been loaded. -/
def RotationManager.healthyCandidates (rm : RotationManager) (stored : List Profile) (now : ℤ) :
    Map GoString ℤ × List Profile :=
  stored.foldl (healthyStep now) (rm.blacklist, [])

/-- The decision that stands in for an advisor that fails. -/
def fallbackDecision (p : Profile) : LLMDecision where
  protocol := p.family
  rotationIntervalSec := 600

/-- The rotation finds a candidate and takes the fallback for it. -/
def RotationManager.fallsBack (rm : RotationManager) (answers : RotationAnswers) : Bool :=
  match answers.stored with
  | none => false
  | some stored => !(rm.healthyCandidates stored answers.now).2.isEmpty && !answers.proposes

/-- What `Rotate` does once it has chosen a profile. -/
def RotationManager.apply (rm : RotationManager) (answers : RotationAnswers) : RotationManager :=
  match rm.generator.generate answers.files rm.currentConfig rm.currentProfile.endpoint.host
      (lit "uuid") (lit "pubkey") with
  | .error _ => rm
  | .ok configBytes =>
      match rm.sing.applyAndReload answers.reload configBytes with
      | (.ok (), _, sing) => { rm with sing }
      | (.error _, _, sing) =>
          { rm with
            sing
            blacklist := rm.blacklist.insert rm.currentProfile.id (answers.failedAt + 30 * minute) }

/-- `RotationManager.Rotate`. -/
def RotationManager.rotate (rm : RotationManager) (answers : RotationAnswers) : RotationManager :=
  match answers.stored with
  | none => rm
  | some stored =>
      let (blacklist, candidates) := rm.healthyCandidates stored answers.now
      match candidates with
      | [] => { rm with blacklist }
      | first :: _ =>
          let chosen := { rm with
            blacklist
            currentProfile := first
            currentConfig :=
              if answers.proposes then rm.currentConfig else fallbackDecision first }
          chosen.apply answers

inductive LoopState where
  | starting
  | selecting
  | returned
  | panicked
deriving DecidableEq

/-- The loop, with the durations it has passed to `ticker.Reset` so far. -/
structure RotationLoop where
  manager : RotationManager
  recentAnomalies : List Event := []
  loop : LoopState := .starting
  resets : List Int64 := []
  /-- Whether a rotation so far has taken the fallback. -/
  fellBack : Bool := false

inductive RotationLabel where
  | initial (answers : RotationAnswers)
  | anomaly (event : Event) (now blacklistedAt : ℤ) (answers : RotationAnswers)
  | tick (answers : RotationAnswers)
  | shutdown

/-- `append` and the cleaning up after it. -/
def cleanUp (recent : List Event) (event : Event) (now : ℤ) : List Event :=
  (recent ++ [event]).filter fun e => now - minute < e.timestamp

/-- `time.Duration(RotationIntervalSec) * time.Second`. -/
def RotationManager.interval (rm : RotationManager) : Int64 :=
  rm.currentConfig.rotationIntervalSec * 1000000000

/-- `ticker.Reset` with the interval of the current configuration. -/
def RotationLoop.reset (r : RotationLoop) : RotationLoop :=
  { r with
    resets := r.resets ++ [r.manager.interval]
    loop := if 0 < r.manager.interval then .selecting else .panicked }

/-- The current profile goes on the blacklist before an emergency rotation. -/
def RotationManager.blacklistCurrent (rm : RotationManager) (now : ℤ) : RotationManager :=
  { rm with blacklist := rm.blacklist.insert rm.currentProfile.id (now + 60 * minute) }

/-- The loop after a rotation of a manager. -/
def RotationLoop.rotate (r : RotationLoop) (rm : RotationManager) (answers : RotationAnswers) :
    RotationLoop :=
  { r with manager := rm.rotate answers, fellBack := r.fellBack || rm.fallsBack answers }

inductive RotationStep : RotationLoop → RotationLabel → RotationLoop → Prop
  | initial {r : RotationLoop} (answers : RotationAnswers) (starts : r.loop = .starting) :
      RotationStep r (.initial answers)
        { r.rotate r.manager answers with loop := .selecting }
  | anomaly {r : RotationLoop} (event : Event) (now blacklistedAt : ℤ) (answers : RotationAnswers)
      (selects : r.loop = .selecting) (few : (cleanUp r.recentAnomalies event now).length < 3) :
      RotationStep r (.anomaly event now blacklistedAt answers)
        { r with recentAnomalies := cleanUp r.recentAnomalies event now }
  | emergency {r : RotationLoop} (event : Event) (now blacklistedAt : ℤ)
      (answers : RotationAnswers) (selects : r.loop = .selecting)
      (burst : 3 ≤ (cleanUp r.recentAnomalies event now).length) :
      RotationStep r (.anomaly event now blacklistedAt answers)
        (RotationLoop.reset
          { r.rotate (r.manager.blacklistCurrent blacklistedAt) answers with recentAnomalies := [] })
  | tick {r : RotationLoop} (answers : RotationAnswers) (selects : r.loop = .selecting) :
      RotationStep r (.tick answers)
        (r.rotate r.manager answers).reset
  | shutdown {r : RotationLoop} (selects : r.loop = .selecting) :
      RotationStep r .shutdown { r with loop := .returned }

/-! ## Candidates -/

/-- Whether a blacklist lets a profile through. -/
def letsThrough (blacklist : Map GoString ℤ) (now : ℤ) (p : Profile) : Bool :=
  match blacklist.find? p.id with
  | none => true
  | some expiry => expiry ≤ now

theorem letsThrough_erase {blacklist : Map GoString ℤ} {now expiry : ℤ} {key : GoString}
    (held : blacklist.find? key = some expiry) (late : expiry ≤ now) (p : Profile) :
    letsThrough (blacklist.erase key) now p = letsThrough blacklist now p := by
  unfold letsThrough
  rw [Map.find?_erase]
  split_ifs with same
  · rw [← same, held]
    exact (decide_eq_true late).symm
  · rfl

/-- Taking entries off the blacklist on the way does not change who gets through. -/
theorem healthyCandidates_eq (rm : RotationManager) (stored : List Profile) (now : ℤ) :
    (rm.healthyCandidates stored now).2 = stored.filter (letsThrough rm.blacklist now) := by
  have loop (blacklist : Map GoString ℤ) (healthy : List Profile) :
      (stored.foldl (healthyStep now) (blacklist, healthy)).2 =
        healthy ++ stored.filter (letsThrough blacklist now) := by
    induction stored generalizing blacklist healthy with
    | nil => simp
    | cons p rest ih =>
      rw [List.foldl_cons, List.filter_cons, healthyStep]
      cases held : blacklist.find? p.id with
      | none =>
        have through : letsThrough blacklist now p = true := by rw [letsThrough, held]
        rw [ih, if_pos through, List.append_assoc]
        rfl
      | some expiry =>
        have listed : letsThrough blacklist now p = decide (expiry ≤ now) := by
          rw [letsThrough, held]
        dsimp only
        split_ifs with early passes passes
        · exact absurd (of_decide_eq_true (listed ▸ passes)) (not_le.mpr early)
        · exact ih blacklist healthy
        · rw [ih, List.append_assoc, List.singleton_append,
            List.filter_congr fun q _ => letsThrough_erase held (not_lt.mp early) q]
        · exact absurd (listed.trans (decide_eq_true (not_lt.mp early))) passes
  exact loop rm.blacklist []

/-! ## The interval -/

theorem apply_currentConfig (rm : RotationManager) (answers : RotationAnswers) :
    (rm.apply answers).currentConfig = rm.currentConfig := by
  unfold RotationManager.apply
  split
  · rfl
  · split <;> rfl

/-- Only the fallback sets the interval. -/
theorem rotate_intervalSec (rm : RotationManager) (answers : RotationAnswers) :
    (rm.rotate answers).currentConfig.rotationIntervalSec =
      if rm.fallsBack answers then 600 else rm.currentConfig.rotationIntervalSec := by
  unfold RotationManager.rotate RotationManager.fallsBack
  cases answers.stored with
  | none => rfl
  | some stored =>
    simp only
    split
    next none => simp [none]
    next first rest found =>
      rw [apply_currentConfig]
      cases answers.proposes <;> simp [found, fallbackDecision]

/-- The interval tells whether a rotation has taken the fallback, and all resets so far were sound. -/
structure Paced (r : RotationLoop) : Prop where
  interval : r.manager.currentConfig.rotationIntervalSec = if r.fellBack then 600 else 0
  positive : ∀ duration ∈ r.resets, 0 < duration

theorem Paced.rotate {r : RotationLoop} (paced : Paced r) (rm : RotationManager)
    (same : rm.currentConfig = r.manager.currentConfig) (answers : RotationAnswers) :
    Paced (r.rotate rm answers) := by
  refine ⟨?_, paced.positive⟩
  change (rm.rotate answers).currentConfig.rotationIntervalSec = _
  rw [rotate_intervalSec, same, paced.interval, RotationLoop.rotate]
  cases rm.fallsBack answers <;> simp

/-- A reset is sound exactly when a rotation has taken the fallback before it. -/
theorem Paced.reset_iff {r : RotationLoop} (paced : Paced r) :
    (∀ duration ∈ r.reset.resets, 0 < duration) ↔ r.fellBack = true := by
  have interval : r.manager.interval = if r.fellBack then 600000000000 else 0 := by
    rw [RotationManager.interval, paced.interval]
    cases r.fellBack <;> rfl
  simp only [RotationLoop.reset, List.forall_mem_append, List.forall_mem_singleton, interval]
  refine ⟨fun both => ?_, fun fell => ⟨paced.positive, ?_⟩⟩
  · by_contra never
    rw [if_neg never] at both
    exact absurd both.2 (by decide)
  · rw [if_pos fell]
    decide

/-- Every duration passed to `ticker.Reset` is positive. -/
def PositiveResets (_r : RotationLoop) (_label : RotationLabel) (next : RotationLoop) : Prop :=
  ∀ duration ∈ next.resets, 0 < duration

/-- A rotation that is followed by a reset takes the fallback, if none before it has. -/
def ResetsAfterFallback (r : RotationLoop) (label : RotationLabel) (_next : RotationLoop) : Prop :=
  match label with
  | .tick answers => r.fellBack = true ∨ r.manager.fallsBack answers = true
  | .anomaly event now blacklistedAt answers =>
      3 ≤ (cleanUp r.recentAnomalies event now).length →
        r.fellBack = true ∨ (r.manager.blacklistCurrent blacklistedAt).fallsBack answers = true
  | _ => True

theorem positive_iff_fallback {r next : RotationLoop} {label : RotationLabel} (paced : Paced r)
    (step : RotationStep r label next) :
    PositiveResets r label next ↔ ResetsAfterFallback r label next := by
  cases step with
  | initial answers starts => exact iff_of_true paced.positive trivial
  | anomaly event now blacklistedAt answers selects few =>
    exact iff_of_true paced.positive fun burst => absurd few (not_lt.mpr burst)
  | emergency event now blacklistedAt answers selects burst =>
    have rotated := paced.rotate (r.manager.blacklistCurrent blacklistedAt) rfl answers
    have cleared : Paced { r.rotate (r.manager.blacklistCurrent blacklistedAt) answers with
        recentAnomalies := [] } := ⟨rotated.interval, rotated.positive⟩
    apply cleared.reset_iff.trans
    simp only [RotationLoop.rotate, ResetsAfterFallback, burst, true_imp_iff, Bool.or_eq_true]
  | tick answers selects =>
    apply (paced.rotate r.manager rfl answers).reset_iff.trans
    simp only [RotationLoop.rotate, ResetsAfterFallback, Bool.or_eq_true]
  | shutdown selects => exact iff_of_true paced.positive trivial

/-- A step that resets the ticker only after a fallback keeps the resets sound. -/
theorem paced_step {r next : RotationLoop} {label : RotationLabel} (paced : Paced r)
    (step : RotationStep r label next) (after : ResetsAfterFallback r label next) : Paced next := by
  have positive := (positive_iff_fallback paced step).mpr after
  cases step with
  | initial answers starts => exact ⟨(paced.rotate r.manager rfl answers).interval, positive⟩
  | anomaly => exact ⟨paced.interval, positive⟩
  | emergency event now blacklistedAt answers =>
    exact ⟨(paced.rotate (r.manager.blacklistCurrent blacklistedAt) rfl answers).interval,
      positive⟩
  | tick answers selects => exact ⟨(paced.rotate r.manager rfl answers).interval, positive⟩
  | shutdown => exact ⟨paced.interval, positive⟩

/-- A loop that has not started, with a new manager. -/
def RotationLoop.start (generator : ConfigGenerator) (sing : SingState) : RotationLoop where
  manager := { generator, sing }

/-- In a run of the loop every reset is positive exactly when a rotation takes the fallback before
the first reset. -/
theorem resets_positive_iff (generator : ConfigGenerator) (sing : SingState)
    (labels : List RotationLabel) :
    Always RotationStep PositiveResets (.start generator sing) labels ↔
      Always RotationStep ResetsAfterFallback (.start generator sing) labels :=
  always_iff (motive := Paced) (fun _ _ _ _ paced step => positive_iff_fallback paced step)
    (fun _ _ _ _ paced step after => paced_step paced step after) ⟨rfl, nofun⟩

/-- Answers of a rotation that finds nothing in the store. -/
def emptyStore : RotationAnswers where
  stored := some []
  now := 0
  proposes := true
  files := ⟨fun _ => none, []⟩
  reload := goodAnswers
  failedAt := 0

/-- Where the store is empty at first, the first tick resets the ticker to nothing. -/
theorem reset_to_zero :
    ¬ Always RotationStep PositiveResets
        (.start ⟨profileEngine fun _ _ => .error .parse, lit "templates"⟩ ⟨⟨[], none⟩, none, none⟩)
        [.initial emptyStore, .tick emptyStore] := by
  intro always
  have first := (always _ (.initial emptyStore rfl)).2 _ (.tick emptyStore rfl)
  have positive := first.1 0 (by simp [RotationLoop.reset, RotationLoop.rotate,
    RotationManager.rotate, RotationManager.interval, RotationManager.healthyCandidates,
    emptyStore, RotationLoop.start])
  exact absurd positive (by decide)

/-! ## What a failed rotation leaves -/

/-- The manager once a rotation has chosen a profile, if it comes to choose one. -/
def RotationManager.choose (rm : RotationManager) (answers : RotationAnswers) :
    Option RotationManager := do
  let stored ← answers.stored
  let (blacklist, candidates) := rm.healthyCandidates stored answers.now
  let first ← candidates.head?
  return { rm with
    blacklist
    currentProfile := first
    currentConfig := if answers.proposes then rm.currentConfig else fallbackDecision first }

/-- The configuration of a chosen profile is generated, and `ApplyAndReload` takes it. -/
def RotationManager.applies (rm : RotationManager) (answers : RotationAnswers) : Bool :=
  match rm.generator.generate answers.files rm.currentConfig rm.currentProfile.endpoint.host
      (lit "uuid") (lit "pubkey") with
  | .error _ => false
  | .ok configBytes => (rm.sing.applyAndReload answers.reload configBytes).1.isOk

/-- What a rotation applies, if it succeeds. -/
def RotationManager.applied (rm : RotationManager) (answers : RotationAnswers) :
    Option (Profile × LLMDecision) := do
  let chosen ← rm.choose answers
  if chosen.applies answers then return (chosen.currentProfile, chosen.currentConfig) else none

theorem choose_isSome {rm chosen : RotationManager} {answers : RotationAnswers}
    (found : rm.choose answers = some chosen) : ∃ stored first, answers.stored = some stored ∧
      stored.find? (letsThrough rm.blacklist answers.now) = some first ∧
      chosen.currentProfile = first ∧
      chosen.currentConfig =
        if answers.proposes then rm.currentConfig else fallbackDecision first := by
  simp only [RotationManager.choose, bind, Option.bind_eq_some_iff] at found
  obtain ⟨stored, loaded, first, head, made⟩ := found
  rw [healthyCandidates_eq, List.head?_filter] at head
  cases made
  exact ⟨stored, first, loaded, head, rfl, rfl⟩

theorem choose_eq_none {rm : RotationManager} {answers : RotationAnswers}
    (idle : rm.choose answers = none) {stored : List Profile} (loaded : answers.stored = some stored) :
    stored.find? (letsThrough rm.blacklist answers.now) = none := by
  rw [← List.head?_filter, ← healthyCandidates_eq]
  cases head : (rm.healthyCandidates stored answers.now).2.head? with
  | none => rfl
  | some first => simp [RotationManager.choose, loaded, head] at idle

theorem rotate_eq (rm : RotationManager) (answers : RotationAnswers) :
    (rm.choose answers = none ∧
        (rm.rotate answers).currentProfile = rm.currentProfile ∧
        (rm.rotate answers).currentConfig = rm.currentConfig) ∨
      ∃ chosen, rm.choose answers = some chosen ∧ rm.rotate answers = chosen.apply answers := by
  unfold RotationManager.choose RotationManager.rotate
  cases answers.stored with
  | none => exact .inl ⟨rfl, rfl, rfl⟩
  | some stored =>
    rcases found : rm.healthyCandidates stored answers.now with ⟨blacklist, candidates⟩
    cases candidates with
    | nil => exact .inl ⟨by simp [found], by simp [found], by simp [found]⟩
    | cons first rest => exact .inr ⟨_, by simp [found]; rfl, by simp [found]⟩

theorem apply_currentProfile (rm : RotationManager) (answers : RotationAnswers) :
    (rm.apply answers).currentProfile = rm.currentProfile := by
  unfold RotationManager.apply
  split
  · rfl
  · split <;> rfl

/-- A manager over its rotations. -/
structure Rotated where
  manager : RotationManager
  /-- What the last rotation that succeeded has applied. -/
  applied : Profile × LLMDecision

inductive RotatedLabel where
  | rotate (answers : RotationAnswers)
  /-- What else happens to a manager: profiles go on the blacklist, and sing-box runs on. -/
  | others (blacklist : Map GoString ℤ) (sing : SingState)

inductive RotatedStep : Rotated → RotatedLabel → Rotated → Prop
  | rotate {r : Rotated} (answers : RotationAnswers) :
      RotatedStep r (.rotate answers)
        ⟨r.manager.rotate answers, (r.manager.applied answers).getD r.applied⟩
  | others {r : Rotated} (blacklist : Map GoString ℤ) (sing : SingState) :
      RotatedStep r (.others blacklist sing) { r with manager := { r.manager with blacklist, sing } }

/-- The current profile and configuration are those that were last applied. -/
def Rotated.Describes (r : Rotated) : Prop :=
  r.manager.currentProfile = r.applied.1 ∧ r.manager.currentConfig = r.applied.2

/-- A rotation that fails leaves the current profile and configuration as they were, and they
describe what was last applied. -/
def LeavesIntact (r : Rotated) (label : RotatedLabel) (next : Rotated) : Prop :=
  (match label with
    | .rotate answers => r.manager.applied answers = none →
        next.manager.currentProfile = r.manager.currentProfile ∧
          next.manager.currentConfig = r.manager.currentConfig
    | .others _ _ => True) ∧ next.Describes

/-- A rotation that fails finds no candidate, or it finds the current profile first and has the
advisor's answer or the fallback for this profile in force already. -/
def ChoosesCurrent (r : Rotated) (label : RotatedLabel) (_next : Rotated) : Prop :=
  match label with
  | .rotate answers => r.manager.applied answers = none →
      ∀ stored first, answers.stored = some stored →
        stored.find? (letsThrough r.manager.blacklist answers.now) = some first →
        first = r.manager.currentProfile ∧
          (answers.proposes = true ∨ r.manager.currentConfig = fallbackDecision first)
  | .others _ _ => True

/-- A rotation that fails leaves all intact exactly where it has chosen what runs already. -/
theorem intact_iff {r next : Rotated} {label : RotatedLabel} (describes : r.Describes)
    (step : RotatedStep r label next) : LeavesIntact r label next ↔ ChoosesCurrent r label next := by
  cases step with
  | others blacklist sing => exact iff_of_true ⟨trivial, describes⟩ trivial
  | rotate answers =>
    obtain ⟨idle, profile, config⟩ | ⟨chosen, found, rotated⟩ := rotate_eq r.manager answers
    · have failed : r.manager.applied answers = none := by
        rw [RotationManager.applied, idle]
        rfl
      refine iff_of_true ⟨fun _ => ⟨profile, config⟩, ?_⟩ ?_
      · rw [failed]
        exact ⟨profile.trans describes.1, config.trans describes.2⟩
      · intro _ stored first loaded head
        rw [choose_eq_none idle loaded] at head
        cases head
    · obtain ⟨stored, first, loaded, head, profile, config⟩ := choose_isSome found
      have outcome : r.manager.applied answers =
          if chosen.applies answers then some (chosen.currentProfile, chosen.currentConfig)
          else none := by
        rw [RotationManager.applied, found]
        rfl
      have left : (r.manager.rotate answers).currentProfile = chosen.currentProfile ∧
          (r.manager.rotate answers).currentConfig = chosen.currentConfig := by
        rw [rotated]
        exact ⟨apply_currentProfile _ _, apply_currentConfig _ _⟩
      unfold LeavesIntact ChoosesCurrent Rotated.Describes
      dsimp only
      cases applies : chosen.applies answers with
      | true =>
        rw [outcome, if_pos applies]
        exact iff_of_true ⟨nofun, left⟩ nofun
      | false =>
        have failed : r.manager.applied answers = none := by
          rw [outcome, applies]
          rfl
        have same : (chosen.currentProfile = r.manager.currentProfile ∧
            chosen.currentConfig = r.manager.currentConfig) ↔
            first = r.manager.currentProfile ∧
              (answers.proposes = true ∨ r.manager.currentConfig = fallbackDecision first) := by
          rw [profile, config]
          cases answers.proposes <;> simp [eq_comm]
        simp only [failed, Option.getD_none, left.1, left.2, ← describes.1, ← describes.2, same,
          true_imp_iff, and_self_iff, loaded, Option.some.injEq]
        constructor
        · rintro own _ other rfl found
          cases head.symm.trans found
          exact own
        · intro all
          exact all stored first rfl head

/-- Over every run, rotations that fail leave the current profile and configuration as they were,
which then are those that were last applied, exactly if each of them finds no candidate or has
chosen what was current already. -/
theorem failedRotations_intact_iff (rm : RotationManager) (labels : List RotatedLabel) :
    Always RotatedStep LeavesIntact ⟨rm, rm.currentProfile, rm.currentConfig⟩ labels ↔
      Always RotatedStep ChoosesCurrent ⟨rm, rm.currentProfile, rm.currentConfig⟩ labels :=
  always_iff (motive := Rotated.Describes) (fun _ _ _ _ describes step => intact_iff describes step)
    (fun _ _ _ _ describes step met => ((intact_iff describes step).mpr met).2) ⟨rfl, rfl⟩

/-- Answers of a rotation that has one profile, no advice and no template for the fallback. -/
def strandedAnswers : RotationAnswers where
  stored := some [{ id := lit "p1", family := familyReality, endpoint := { host := lit "h" } }]
  now := 0
  proposes := false
  files := ⟨fun _ => none, []⟩
  reload := goodAnswers
  failedAt := 0

/-- A rotation that fails for want of a template leaves a profile as current that was never
applied. -/
theorem strandedRotation_current :
    ¬ Always RotatedStep LeavesIntact
        ⟨⟨⟨profileEngine fun _ _ => .error .parse, lit "templates"⟩, ⟨⟨[], none⟩, none, none⟩, {}, {},
          ∅⟩, {}, {}⟩
        [.rotate strandedAnswers] := by
  intro always
  have intact := (always _ (.rotate strandedAnswers)).1
  exact absurd (intact.1 rfl).1 (by decide)

/-! ## Who is activated -/

/-- The call of `Rotate` that a step makes, with the manager as the call finds it. -/
def RotationLoop.call (r : RotationLoop) :
    RotationLabel → Option (RotationManager × RotationAnswers)
  | .initial answers => some (r.manager, answers)
  | .anomaly event now blacklistedAt answers =>
      if 3 ≤ (cleanUp r.recentAnomalies event now).length then
        some (r.manager.blacklistCurrent blacklistedAt, answers)
      else none
  | .tick answers => some (r.manager, answers)
  | .shutdown => none

/-- The state of a profile that may be used at a time. -/
structure FitAt (now : ℤ) (p : Profile) : Prop where
  enabled : p.enabled = true
  manualDisabled : p.manualDisabled = false
  cooldown : p.health.cooldownUntil.toInt * 1000000000 ≤ now

/-- A profile that a call of `Rotate` may activate. -/
structure Activatable (rm : RotationManager) (answers : RotationAnswers) (p : Profile) : Prop where
  stored : ∃ stored, answers.stored = some stored ∧ p ∈ stored
  fit : FitAt answers.now p
  blacklist : ∀ deadline, rm.blacklist.find? p.id = some deadline → deadline ≤ answers.now

/-- A call activates a profile that it may activate, and a stored profile is among its candidates
again once the deadline that it is blacklisted with has come. -/
def RespectsState (r : RotationLoop) (label : RotationLabel) (next : RotationLoop) : Prop :=
  ∀ rm answers, r.call label = some (rm, answers) →
    (∀ p config, rm.applied answers = some (p, config) →
      next.manager.currentProfile = p ∧ Activatable rm answers p) ∧
    ∀ stored, answers.stored = some stored → ∀ p ∈ stored, ∀ deadline,
      rm.blacklist.find? p.id = some deadline → deadline ≤ answers.now →
        p ∈ (rm.healthyCandidates stored answers.now).2

/-- The manager with a profile that it has chosen. -/
def RotationManager.take (rm : RotationManager) (answers : RotationAnswers) (first : Profile) :
    RotationManager :=
  { rm with
    currentProfile := first
    currentConfig := if answers.proposes then rm.currentConfig else fallbackDecision first }

/-- The first stored profile that the blacklist lets through may be used, wherever its configuration
is generated and sing-box takes it. -/
def FirstIsFit (r : RotationLoop) (label : RotationLabel) (_next : RotationLoop) : Prop :=
  ∀ rm answers, r.call label = some (rm, answers) → ∀ stored first, answers.stored = some stored →
    stored.find? (letsThrough rm.blacklist answers.now) = some first →
    (rm.take answers first).applies answers = true → FitAt answers.now first

theorem call_manager {r next : RotationLoop} {label : RotationLabel} {rm : RotationManager}
    {answers : RotationAnswers} (step : RotationStep r label next)
    (calls : r.call label = some (rm, answers)) : next.manager = rm.rotate answers := by
  cases step with
  | initial _ starts =>
    cases calls
    rfl
  | anomaly _ _ _ _ selects few =>
    rw [RotationLoop.call, if_neg (not_le.mpr few)] at calls
    cases calls
  | emergency _ _ _ _ selects burst =>
    rw [RotationLoop.call, if_pos burst] at calls
    cases calls
    rfl
  | tick _ selects =>
    cases calls
    rfl
  | shutdown selects => cases calls

/-- A call applies the first stored profile that the blacklist lets through. -/
theorem applied_iff {rm : RotationManager} {answers : RotationAnswers} {p : Profile}
    {config : LLMDecision} : rm.applied answers = some (p, config) ↔
      (∃ stored, answers.stored = some stored ∧
        stored.find? (letsThrough rm.blacklist answers.now) = some p) ∧
      (rm.take answers p).applies answers = true ∧
      config = (rm.take answers p).currentConfig := by
  have chosen : rm.applied answers = answers.stored.bind fun stored =>
      (stored.find? (letsThrough rm.blacklist answers.now)).bind fun first =>
        if (rm.take answers first).applies answers then
          some (first, (rm.take answers first).currentConfig)
        else none := by
    unfold RotationManager.applied RotationManager.choose
    cases answers.stored with
    | none => rfl
    | some stored =>
      simp only [Option.bind_eq_bind, Option.bind_some]
      rw [healthyCandidates_eq, List.head?_filter]
      cases stored.find? (letsThrough rm.blacklist answers.now) <;> rfl
  rw [chosen]
  simp only [Option.bind_eq_some_iff, Option.ite_none_right_eq_some, Option.some_inj,
    Prod.mk.injEq]
  constructor
  · rintro ⟨stored, loaded, first, found, applies, rfl, rfl⟩
    exact ⟨⟨stored, loaded, found⟩, applies, rfl⟩
  · rintro ⟨⟨stored, loaded, found⟩, applies, rfl⟩
    exact ⟨stored, loaded, p, found, applies, rfl, rfl⟩

/-- What is applied is current after the call. -/
theorem applied_current {rm : RotationManager} {answers : RotationAnswers} {p : Profile}
    {config : LLMDecision} (applied : rm.applied answers = some (p, config)) :
    (rm.rotate answers).currentProfile = p := by
  obtain ⟨⟨stored, loaded, found⟩, -, -⟩ := applied_iff.mp applied
  obtain ⟨idle, -⟩ | ⟨chosen, chooses, rotated⟩ := rotate_eq rm answers
  · rw [choose_eq_none idle loaded] at found
    cases found
  · obtain ⟨other, first, again, head, profile, -⟩ := choose_isSome chooses
    cases loaded.symm.trans again
    cases found.symm.trans head
    rw [rotated, apply_currentProfile, profile]

/-- A profile passes the blacklist unless its deadline is still to come. -/
theorem letsThrough_iff {blacklist : Map GoString ℤ} {now : ℤ} {p : Profile} :
    letsThrough blacklist now p = true ↔
      ∀ deadline, blacklist.find? p.id = some deadline → deadline ≤ now := by
  unfold letsThrough
  cases blacklist.find? p.id <;> simp

theorem respects_iff_fit {r next : RotationLoop} {label : RotationLabel}
    (step : RotationStep r label next) : RespectsState r label next ↔ FirstIsFit r label next := by
  constructor
  · intro respects rm answers calls stored first loaded found applies
    have applied : rm.applied answers = some (first, _) :=
      applied_iff.mpr ⟨⟨stored, loaded, found⟩, applies, rfl⟩
    exact ((respects rm answers calls).1 _ _ applied).2.fit
  · intro fits rm answers calls
    refine ⟨fun p config applied => ⟨?_, ?_⟩, ?_⟩
    · rw [call_manager step calls, applied_current applied]
    · obtain ⟨⟨stored, loaded, found⟩, applies, -⟩ := applied_iff.mp applied
      refine ⟨⟨stored, loaded, List.mem_of_find?_eq_some found⟩, ?_, ?_⟩
      · exact fits rm answers calls stored p loaded found applies
      · exact letsThrough_iff.mp (List.find?_some found)
    · intro stored _ p member deadline listed late
      rw [healthyCandidates_eq, List.mem_filter]
      refine ⟨member, letsThrough_iff.mpr fun other same => ?_⟩
      cases listed.symm.trans same
      exact late

/-- In a run of the loop every call activates a profile that its state allows, and blacklisted ones
come back when their time is up, exactly if the first stored profile that the blacklist lets through
may always be used. -/
theorem rotations_respect_iff (generator : ConfigGenerator) (sing : SingState)
    (labels : List RotationLabel) :
    Always RotationStep RespectsState (.start generator sing) labels ↔
      Always RotationStep FirstIsFit (.start generator sing) labels :=
  always_iff (motive := fun _ => True) (fun _ _ _ _ _ step => respects_iff_fit step)
    (fun _ _ _ _ _ _ _ => trivial) trivial

def directOutbound : GoString := lit "\x7b\"type\":\"direct\"\x7d"

theorem generate_eq_ok {g : ConfigGenerator} {answers : GeneratorAnswers} {decision : LLMDecision}
    {serverIP uuid pubKey : GoString} {text outbound pretty : Bytes}
    (reads : answers.readFile (pathJoin g.templateDir (decision.protocol ++ lit ".json")) = some text)
    (renders : g.engine.render text (decisionProfile decision serverIP uuid pubKey
      (randomHex answers.drawn)) = .ok outbound)
    (laid : Json.layOut (lit "  ") (baseConfigHead ++ outbound ++ baseConfigTail) = some pretty) :
    g.generate answers decision serverIP uuid pubKey = .ok pretty := by
  -- With `lay` in its place nothing is tempted to run the layout of the base configuration.
  obtain ⟨lay, same⟩ : ∃ lay, Json.layOut (lit "  ") = lay := ⟨_, rfl⟩
  rw [same] at laid
  rw [ConfigGenerator.generate, same]
  simp only [reads, renders, laid]

/-- The base configuration is JSON with a direct outbound as its first. -/
theorem layOut_direct : ∃ pretty, Json.layOut (lit "  ")
    (baseConfigHead ++ directOutbound ++ baseConfigTail) = some pretty := by
  have json : Json.valid (baseConfigHead ++ directOutbound ++ baseConfigTail) = true := by
    rw [baseConfigHead, baseConfigTail]
    repeat rw [lit_ofList]
    decide +kernel
  exact ⟨_, if_pos json⟩

theorem render_direct (data : Profile) :
    (profileEngine fun _ _ => .error .parse).render directOutbound data = .ok directOutbound := by
  have whole : TextTemplate.pieces directOutbound = some [.text directOutbound] := by decide
  rw [TextTemplate.Engine.render, whole]
  simp [TextTemplate.Engine.piece]

theorem generate_direct {templateDir : GoString} {answers : GeneratorAnswers}
    (reads : ∀ path, answers.readFile path = some directOutbound) (decision : LLMDecision)
    (serverIP uuid pubKey : GoString) :
    ∃ pretty, ConfigGenerator.generate ⟨profileEngine fun _ _ => .error .parse, templateDir⟩ answers
      decision serverIP uuid pubKey = .ok pretty := by
  obtain ⟨pretty, laid⟩ := layOut_direct
  exact ⟨pretty, generate_eq_ok (reads _) (render_direct _) laid⟩

/-- A generator with some templates, and a controller of a binary that has not run. -/
def freshManager : RotationManager where
  generator := ⟨profileEngine fun _ _ => .error .parse, lit "templates"⟩
  sing := ⟨⟨lit "s", none⟩, none, none⟩

theorem applies_direct {rm : RotationManager} {answers : RotationAnswers}
    (generator : rm.generator = freshManager.generator) (sing : rm.sing = freshManager.sing)
    (reads : ∀ path, answers.files.readFile path = some directOutbound)
    (reload : answers.reload = goodAnswers) : rm.applies answers = true := by
  obtain ⟨pretty, generated⟩ :=
    generate_direct reads rm.currentConfig rm.currentProfile.endpoint.host (lit "uuid") (lit "pubkey")
  rw [RotationManager.applies, generator, freshManager, generated, sing, reload]
  rfl

/-- Answers of a rotation that has one profile, which is disabled, and a template for it. -/
def disabledAnswers : RotationAnswers where
  stored := some [{ id := lit "p1", family := familyReality, endpoint := { host := lit "h" } }]
  now := 0
  proposes := false
  files := ⟨fun _ => some directOutbound, []⟩
  reload := goodAnswers
  failedAt := 0

/-- The first rotation activates a profile that is disabled. -/
theorem disabled_activated :
    ¬ Always RotationStep RespectsState (.start freshManager.generator freshManager.sing)
        [.initial disabledAnswers] := by
  intro always
  have respects := ((always _ (.initial disabledAnswers rfl)).1 _ _ rfl).1
  have applies (p : Profile) : (freshManager.take disabledAnswers p).applies disabledAnswers = true :=
    applies_direct rfl rfl (fun _ => rfl) rfl
  have allowed := (respects _ _ (applied_iff.mpr ⟨⟨_, rfl, rfl⟩, applies _, rfl⟩)).2
  cases allowed.fit.enabled

end ShadowNet
