import ShadowNet.Js.Absorb
import ShadowNet.Js.String

/-! # The privacy filter of the dashboard

What the public sees has its times in wider buckets, its counts and places rounded, and nothing of the
regions with few samples. Times and counts are whole numbers, which a number holds exactly.
-/

namespace ShadowNet.Website

open Js

/-! ## Snapshots -/

inductive DashboardView where
  | global
  | iran
  | protocols
  | releases

inductive RegionStatus where
  | healthy
  | degraded
  | unstable
  | blocked
  | unknown

inductive ProtocolID where
  | reality
  | hysteria2
  | tuic
  | shadowtls
  | dnsTunnel

inductive RecommendationTier where
  | primary
  | secondary
  | fallback
  | avoid

inductive SignatureStatus where
  | ok
  | warn
  | fail

inductive ActivitySeverity where
  | info
  | warn
  | crit

inductive ActivityType where
  | snapshot
  | dpiShift
  | protocolCooldown
  | bundleGenerated
  | bundleImported
  | bundleRejected
  | helperStatus

structure RegionAggregate where
  countryName : JsString
  status : RegionStatus
  protocolMix : ProtocolID → Option ℚ
  configSuccessRate : ℚ
  recentChangeRate : ℚ
  lastUpdateUnix : ℤ
  sampleCount : ℤ

structure InsideSignals where
  activeInstallations : ℤ
  protocolSurvivalRate : ℚ
  blackoutProbability : ℚ
  meshActivityScore : ℚ
  seedAdoptionRate : ℚ
  lastUpdateUnix : ℤ

inductive HelperAvailability where
  | up
  | degraded
  | down

structure HelperNode where
  id : JsString
  label : JsString
  regionLabel : JsString
  coords : ℚ × ℚ
  availability : HelperAvailability
  lastUpdateUnix : ℤ

structure OutsideHelperActivity where
  activeHelperRegions : List JsString
  bundlesGenerated24h : ℤ
  successfulDistributions24h : ℤ
  profileFreshnessHours : ℚ
  helperAvailabilityScore : ℚ
  lastUpdateUnix : ℤ

structure ProtocolHealth where
  protocol : ProtocolID
  successRate : ℚ
  failureTrend : ℚ
  cooldownRate : ℚ
  recommendationTier : RecommendationTier
  lastUpdateUnix : ℤ

structure PlatformArtifacts where
  android : Bool
  linux : Bool
  windows : Bool
  macos : Bool

structure ReleaseHealth where
  latestVersion : JsString
  installerDownloads24h : Option ℤ
  manifestFreshnessSec : ℤ
  signatureStatus : SignatureStatus
  platformArtifacts : PlatformArtifacts
  lastUpdateUnix : ℤ

structure ActivityItem where
  id : JsString
  tsUnix : ℤ
  severity : ActivitySeverity
  type : ActivityType
  message : JsString
  regionLabel : Option JsString

structure ConnectionFlow where
  id : JsString
  origin : ℚ × ℚ
  target : ℚ × ℚ
  intensity : ℚ
  label : Option JsString
  tsUnix : ℤ

structure DashboardSnapshot where
  version : ℤ
  view : DashboardView
  generatedAtUnix : ℤ
  privacyThreshold : ℤ
  regions : List RegionAggregate
  inside : InsideSignals
  outside : OutsideHelperActivity
  protocols : List ProtocolHealth
  release : ReleaseHealth
  helperNodes : List HelperNode
  flows : List ConnectionFlow
  activity : List ActivityItem

/-! ## Rounding -/

/-- `Math.round`. -/
def round (q : ℚ) : ℤ := ⌊q + 1 / 2⌋

def bucketUnix (bucketSec unix : ℤ) : ℤ :=
  if bucketSec ≤ 1 then unix else ⌊(unix : ℚ) / bucketSec⌋ * bucketSec

def roundTo (step n : ℤ) : ℤ := if step ≤ 1 then n else round ((n : ℚ) / step) * step

def quantizeCoord (step v : ℚ) : ℚ := if step ≤ 0 then v else round (v / step) * step

def quantizePair (step : ℚ) (p : ℚ × ℚ) : ℚ × ℚ :=
  Prod.map (quantizeCoord step) (quantizeCoord step) p

/-! ## The filter -/

inductive PrivacyMode where
  | publicMode
  | trustedMode
deriving DecidableEq

structure Options where
  mode : PrivacyMode
  threshold : Option ℤ := none
  timeBucketSec : Option ℤ := none

def Options.bucketSec (opts : Options) : ℤ :=
  if opts.mode = .publicMode then opts.timeBucketSec.getD 300 else opts.timeBucketSec.getD 60

def stripLowVolumeRegion (bucketSec : ℤ) (r : RegionAggregate) : RegionAggregate :=
  { r with
    status := .unknown
    protocolMix := fun _ => none
    configSuccessRate := 0
    recentChangeRate := 0
    lastUpdateUnix := bucketUnix bucketSec r.lastUpdateUnix
    sampleCount := 0 }

def filterRegion (mode : PrivacyMode) (threshold bucketSec : ℤ) (r : RegionAggregate) :
    RegionAggregate :=
  if mode = .trustedMode then { r with lastUpdateUnix := bucketUnix bucketSec r.lastUpdateUnix }
  else if r.sampleCount < threshold then stripLowVolumeRegion bucketSec r
  else
    { r with
      lastUpdateUnix := bucketUnix bucketSec r.lastUpdateUnix
      sampleCount := max threshold (roundTo 25 r.sampleCount) }

/-- What the public mode does to a value, and the trusted one does not. -/
def inPublic {α : Type} (mode : PrivacyMode) (f : α → α) (value : α) : α :=
  if mode = .publicMode then f value else value

def filterFlow (mode : PrivacyMode) (bucketSec : ℤ) (f : ConnectionFlow) : ConnectionFlow :=
  if mode = .publicMode then
    { f with
      origin := quantizePair (1 / 2) f.origin
      target := quantizePair (1 / 2) f.target
      tsUnix := bucketUnix bucketSec f.tsUnix
      intensity := min 1 (max 0 f.intensity) }
  else { f with tsUnix := bucketUnix bucketSec f.tsUnix }

def filterNode (mode : PrivacyMode) (bucketSec : ℤ) (i : ℕ) (n : HelperNode) : HelperNode :=
  if mode = .publicMode then
    { n with
      id := js "zone-" ++ number i
      label := js "zone"
      coords := quantizePair (1 / 2) n.coords
      lastUpdateUnix := bucketUnix bucketSec n.lastUpdateUnix }
  else { n with lastUpdateUnix := bucketUnix bucketSec n.lastUpdateUnix }

def applyPrivacyFilter (snap : DashboardSnapshot) (opts : Options) : DashboardSnapshot :=
  let threshold := opts.threshold.getD snap.privacyThreshold
  let bucketSec := opts.bucketSec
  { snap with
    generatedAtUnix := bucketUnix bucketSec snap.generatedAtUnix
    privacyThreshold := threshold
    regions := snap.regions.map (filterRegion opts.mode threshold bucketSec)
    inside := { snap.inside with
      lastUpdateUnix := bucketUnix bucketSec snap.inside.lastUpdateUnix
      activeInstallations := inPublic opts.mode (roundTo 50) snap.inside.activeInstallations }
    outside := { snap.outside with
      lastUpdateUnix := bucketUnix bucketSec snap.outside.lastUpdateUnix
      bundlesGenerated24h := inPublic opts.mode (roundTo 5) snap.outside.bundlesGenerated24h
      successfulDistributions24h :=
        inPublic opts.mode (roundTo 5) snap.outside.successfulDistributions24h }
    protocols := snap.protocols.map fun p =>
      { p with lastUpdateUnix := bucketUnix bucketSec p.lastUpdateUnix }
    release := { snap.release with
      lastUpdateUnix := bucketUnix bucketSec snap.release.lastUpdateUnix }
    activity := (snap.activity.map fun a =>
      { a with tsUnix := bucketUnix bucketSec a.tsUnix }).take 50
    flows := snap.flows.map (filterFlow opts.mode bucketSec)
    helperNodes := snap.helperNodes.mapIdx (filterNode opts.mode bucketSec) }

/-! ## Filtering again -/

theorem floor_div (n : ℤ) {d : ℤ} (positive : 0 < d) : ⌊(n : ℚ) / d⌋ = n / d := by
  obtain ⟨count, rfl⟩ := Int.eq_ofNat_of_zero_le positive.le
  exact Rat.floor_intCast_div_natCast n count

theorem bucket_absorbs {fine coarse : ℤ} (divides : fine ∣ coarse) (positive : 0 < coarse) :
    Absorbs (bucketUnix coarse) (bucketUnix fine) := by
  by_cases one : fine ≤ 1
  · have same : bucketUnix fine = id := by
      funext unix
      exact if_pos one
    rw [same]
    exact .of_id _
  rw [not_le] at one
  obtain ⟨times, rfl⟩ := divides
  have timesPositive : 0 < times := by
    by_contra not
    nlinarith
  have wide : ¬ fine * times ≤ 1 := by nlinarith
  have bucket (unix : ℤ) : bucketUnix fine unix = unix / fine * fine := by
    rw [bucketUnix, if_neg (not_le.mpr one), floor_div _ (by omega)]
  have bucketWide (unix : ℤ) :
      bucketUnix (fine * times) unix = unix / (fine * times) * (fine * times) := by
    rw [bucketUnix, if_neg wide, floor_div _ positive]
  refine ⟨fun unix => ?_, fun unix => ?_⟩
  · rw [bucketWide, bucketWide, bucket, mul_comm (unix / fine) fine,
      Int.mul_ediv_mul_of_pos _ _ (by omega : 0 < fine), Int.ediv_ediv_of_nonneg (by omega)]
  · rw [bucket, bucketWide]
    apply Int.ediv_mul_cancel
    exact ⟨unix / (fine * times) * times, by ring⟩

@[simp] theorem round_intCast (n : ℤ) : round n = n := by
  rw [round, Int.floor_intCast_add]
  norm_num

theorem round_mono {p q : ℚ} (le : p ≤ q) : round p ≤ round q :=
  Int.floor_le_floor (by linarith)

theorem roundTo_again (step n : ℤ) : roundTo step (roundTo step n) = roundTo step n := by
  rw [roundTo, roundTo]
  split_ifs with small
  · rfl
  · have nonzero : (step : ℚ) ≠ 0 := by
      have : step ≠ 0 := by omega
      exact_mod_cast this
    push_cast
    rw [mul_div_cancel_right₀ _ nonzero, round_intCast]

theorem roundTo_mono (step : ℤ) {m n : ℤ} (le : m ≤ n) : roundTo step m ≤ roundTo step n := by
  rw [roundTo, roundTo]
  split_ifs with small
  · exact le
  · have positive : (0 : ℚ) < step := by
      have : 0 < step := by omega
      exact_mod_cast this
    apply mul_le_mul_of_nonneg_right _ (by omega)
    apply round_mono
    gcongr

/-- A count that has been raised to the threshold stays there. -/
theorem max_roundTo {threshold n : ℤ} (enough : threshold ≤ n) (step : ℤ) :
    max threshold (roundTo step (max threshold (roundTo step n))) = max threshold (roundTo step n) := by
  have least := roundTo_mono step enough
  by_cases above : threshold ≤ roundTo step n
  · rw [max_eq_right above, roundTo_again, max_eq_right above]
  · rw [max_eq_left (by omega : roundTo step n ≤ threshold), max_eq_left (by omega)]

theorem quantizeCoord_again (step v : ℚ) :
    quantizeCoord step (quantizeCoord step v) = quantizeCoord step v := by
  rw [quantizeCoord, quantizeCoord]
  split_ifs with small
  · rfl
  · rw [mul_div_cancel_right₀ _ (by linarith : step ≠ 0), round_intCast]

theorem quantizePair_again (step : ℚ) (p : ℚ × ℚ) :
    quantizePair step (quantizePair step p) = quantizePair step p :=
  Prod.ext (quantizeCoord_again ..) (quantizeCoord_again ..)

theorem clamp_again (v : ℚ) : min 1 (max 0 (min 1 (max 0 v))) = min 1 (max (0 : ℚ) v) := by
  rw [max_eq_right (le_min zero_le_one (le_max_left 0 v)), min_eq_right (min_le_left ..)]

/-! ## The coarser of two filters -/

/-- The first options show no less than the second ones. -/
structure Options.Finer (fine coarse : Options) : Prop where
  threshold : fine.threshold = coarse.threshold
  mode : fine.mode = .trustedMode ∨ coarse.mode = .publicMode
  divides : fine.bucketSec ∣ coarse.bucketSec
  positive : 0 < coarse.bucketSec

section

variable {fine coarse : PrivacyMode} (finer : fine = .trustedMode ∨ coarse = .publicMode)

include finer

theorem inPublic_absorbs {α : Type} {f : α → α} (again : ∀ value, f (f value) = f value) :
    Absorbs (inPublic coarse f) (inPublic fine f) := by
  have trusted : inPublic .trustedMode f = id := by
    funext value
    exact if_neg (by simp)
  have everyone : inPublic .publicMode f = f := by
    funext value
    exact if_pos rfl
  cases fine with
  | trustedMode =>
    rw [trusted]
    exact .of_id _
  | publicMode =>
    obtain rfl : coarse = .publicMode := finer.resolve_left (by simp)
    rw [everyone]
    exact .self again

/-- What the public filter makes of a region but for its time. -/
theorem filterRegion_absorbs {fineBucket coarseBucket : ℤ}
    (buckets : Absorbs (bucketUnix coarseBucket) (bucketUnix fineBucket)) (threshold : ℤ) :
    Absorbs (filterRegion coarse threshold coarseBucket) (filterRegion fine threshold fineBucket) := by
  have twice (first second : ℤ) (r : RegionAggregate) :
      filterRegion .publicMode threshold second (filterRegion .publicMode threshold first r) =
        { filterRegion .publicMode threshold second r with
          lastUpdateUnix := bucketUnix second (bucketUnix first r.lastUpdateUnix) } := by
    by_cases few : r.sampleCount < threshold
    · by_cases none : 0 < threshold
      · simp [filterRegion, stripLowVolumeRegion, few, none]
      · have zero : roundTo 25 0 = 0 := by norm_num [roundTo, round]
        simp [filterRegion, stripLowVolumeRegion, few, none, zero]
        omega
    · have enough := max_roundTo (not_lt.mp few) 25
      simp [filterRegion, few, enough]
  cases fine with
  | trustedMode =>
    cases coarse with
    | trustedMode =>
      refine ⟨fun r => ?_, fun r => ?_⟩
      · simp [filterRegion, buckets.after]
      · simp [filterRegion, buckets.before]
    | publicMode =>
      refine ⟨fun r => ?_, fun r => ?_⟩
      · by_cases few : r.sampleCount < threshold
        · simp [filterRegion, stripLowVolumeRegion, few, buckets.after]
        · simp [filterRegion, few, buckets.after]
      · by_cases few : r.sampleCount < threshold
        · simp [filterRegion, stripLowVolumeRegion, few, buckets.before]
        · simp [filterRegion, few, buckets.before]
  | publicMode =>
    obtain rfl : coarse = .publicMode := finer.resolve_left (by simp)
    refine ⟨fun r => ?_, fun r => ?_⟩
    · rw [twice, buckets.after]
      by_cases few : r.sampleCount < threshold
      · simp [filterRegion, stripLowVolumeRegion, few]
      · simp [filterRegion, few]
    · rw [twice, buckets.before]
      by_cases few : r.sampleCount < threshold
      · simp [filterRegion, stripLowVolumeRegion, few]
      · simp [filterRegion, few]

theorem filterFlow_absorbs {fineBucket coarseBucket : ℤ}
    (buckets : Absorbs (bucketUnix coarseBucket) (bucketUnix fineBucket)) :
    Absorbs (filterFlow coarse coarseBucket) (filterFlow fine fineBucket) := by
  cases fine with
  | trustedMode =>
    cases coarse with
    | trustedMode =>
      exact ⟨fun f => by simp [filterFlow, buckets.after], fun f => by simp [filterFlow, buckets.before]⟩
    | publicMode =>
      exact ⟨fun f => by simp [filterFlow, buckets.after], fun f => by simp [filterFlow, buckets.before]⟩
  | publicMode =>
    obtain rfl : coarse = .publicMode := finer.resolve_left (by simp)
    refine ⟨fun f => ?_, fun f => ?_⟩
    · simp only [filterFlow, if_true, quantizePair_again, clamp_again, buckets.after]
    · simp only [filterFlow, if_true, quantizePair_again, clamp_again, buckets.before]

theorem filterNode_absorbs {fineBucket coarseBucket : ℤ}
    (buckets : Absorbs (bucketUnix coarseBucket) (bucketUnix fineBucket)) (i : ℕ) :
    Absorbs (filterNode coarse coarseBucket i) (filterNode fine fineBucket i) := by
  cases fine with
  | trustedMode =>
    cases coarse with
    | trustedMode =>
      exact ⟨fun n => by simp [filterNode, buckets.after], fun n => by simp [filterNode, buckets.before]⟩
    | publicMode =>
      exact ⟨fun n => by simp [filterNode, buckets.after], fun n => by simp [filterNode, buckets.before]⟩
  | publicMode =>
    obtain rfl : coarse = .publicMode := finer.resolve_left (by simp)
    refine ⟨fun n => ?_, fun n => ?_⟩
    · simp only [filterNode, if_true, quantizePair_again, buckets.after]
    · simp only [filterNode, if_true, quantizePair_again, buckets.before]

end

theorem Options.Finer.absorbs {fine coarse : Options} (finer : fine.Finer coarse) :
    Absorbs (applyPrivacyFilter · coarse) (applyPrivacyFilter · fine) := by
  have buckets := bucket_absorbs finer.divides finer.positive
  have threshold (own : Option ℤ) (value : ℤ) : own.getD (own.getD value) = own.getD value := by
    cases own <;> rfl
  have regions := filterRegion_absorbs finer.mode buckets
  have installations := inPublic_absorbs finer.mode (roundTo_again 50)
  have bundles := inPublic_absorbs finer.mode (roundTo_again 5)
  have protocols : Absorbs
      (fun p : ProtocolHealth => { p with lastUpdateUnix := bucketUnix coarse.bucketSec p.lastUpdateUnix })
      fun p => { p with lastUpdateUnix := bucketUnix fine.bucketSec p.lastUpdateUnix } :=
    ⟨fun p => by simp [buckets.after], fun p => by simp [buckets.before]⟩
  have activity : Absorbs
      (fun a : ActivityItem => { a with tsUnix := bucketUnix coarse.bucketSec a.tsUnix })
      fun a => { a with tsUnix := bucketUnix fine.bucketSec a.tsUnix } :=
    ⟨fun a => by simp [buckets.after], fun a => by simp [buckets.before]⟩
  have flows := (filterFlow_absorbs finer.mode buckets).map
  have nodes := Absorbs.mapIdx (filterNode_absorbs finer.mode buckets)
  refine ⟨fun snap => ?_, fun snap => ?_⟩
  · simp only [applyPrivacyFilter, finer.threshold, threshold, buckets.after, (regions _).map.after,
      installations.after, bundles.after, protocols.map.after, (activity.map_take 50).after, flows.after,
      nodes.after]
  · simp only [applyPrivacyFilter, finer.threshold, threshold, buckets.before, (regions _).map.before,
      installations.before, bundles.before, protocols.map.before, (activity.map_take 50).before,
      flows.before, nodes.before]

end ShadowNet.Website
