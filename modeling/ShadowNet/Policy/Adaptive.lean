import ShadowNet.Go.Float
import ShadowNet.Go.Map
import ShadowNet.Go.Sort
import ShadowNet.Go.Unicode
import ShadowNet.Profile.Types

/-! # Adaptive selection

`AdaptiveState` holds the recent attempts, a cooldown for each profile that failed, and the recent
selections. `SelectProfile` drops the profiles that must not be used now, scores the others by what
the attempts say about them, and ranks them; a guard passes over the best one if it has been
selected too often in a row. Times are Unix seconds.
-/

namespace ShadowNet

open Go

structure AttemptSignal where
  latencyMS : Int64 := 0
  connectOK : Bool := false
  dnsOK : Bool := false
  tcpHandshake : Bool := false
  tlsSuccess : Bool := false
deriving DecidableEq

structure NetworkEvent where
  timestamp : Int64 := 0
  profileID : GoString := []
  success : Bool := false
  latency : Int64 := 0
  failure : GoString := []
deriving DecidableEq, Inhabited

structure ScoredProfile where
  profileID : GoString
  score : Float
deriving DecidableEq

structure Decision where
  selected : GoString := []
  reason : GoString := []
  scores : List ScoredProfile := []
  recentFailures : List GoString := []
  useOrchestrator : Bool := false
deriving DecidableEq

structure AdaptiveState where
  enabled : Bool := false
  maxEvents : Int64 := 0
  events : List NetworkEvent := []
  cooldown : Map GoString Int64 := ∅
  selectionHistory : List GoString := []
deriving DecidableEq

/-- A profile and the `Health.Score` it has been given, which need not be finite. -/
structure Ranked where
  profile : Profile
  score : Float
deriving DecidableEq

def defaultAdaptiveWindowSize : Int64 := 80

def adaptiveCooldownSeconds : Int64 := 60

def diversityStreakLimit : ℕ := 10

def diversityScoreDelta : Float := 5.0

def orchestratorCloseScoreDelta : Float := 3.0

def scoreScale : Float := 100.0

def trustWeight : Float := 0.2

/-- `NewAdaptiveState`. -/
def newAdaptiveState (maxEvents : Int64) : AdaptiveState where
  enabled := true
  maxEvents := if maxEvents < 50 then 50 else if maxEvents > 100 then 100 else maxEvents

/-- `ensureDefaultsLocked`. -/
def AdaptiveState.ensureDefaults (s : AdaptiveState) : AdaptiveState :=
  { s with
    maxEvents :=
      if s.maxEvents < 50 ∨ s.maxEvents > 100 then defaultAdaptiveWindowSize else s.maxEvents }

def AdaptiveState.reset (s : AdaptiveState) : AdaptiveState :=
  { s.ensureDefaults with events := [], selectionHistory := [], cooldown := ∅ }

def AdaptiveState.setEnabled (s : AdaptiveState) (enabled : Bool) : AdaptiveState := { s with enabled }

/-- The last `count` of a slice. -/
def lastOf {α : Type} (count : ℕ) (items : List α) : List α := items.drop (items.length - count)

def AdaptiveState.recordSelection (s : AdaptiveState) (profileID : GoString) : AdaptiveState :=
  if isBlank profileID then s
  else { s with selectionHistory := lastOf 32 (s.selectionHistory ++ [profileID]) }

def normalizeFailure (signal : AttemptSignal) (failure : GoString) : GoString :=
  let nf := toUpper (trimSpace failure)
  if nf = [] ∨ nf = lit "UNKNOWN" then
    if signal.dnsOK = false then lit "DNS_BLOCKED"
    else if signal.tcpHandshake && !signal.tlsSuccess then lit "TLS_BLOCKED"
    else if signal.tcpHandshake = false then lit "TCP_RESET"
    else lit "UNKNOWN"
  else if nf ∈ [lit "DNS_FAILURE", lit "DNS_BLOCKED", lit "DNS_POISON_SUSPECTED"] then
    lit "DNS_BLOCKED"
  else if nf ∈ [lit "UDP_BLOCK_SUSPECTED", lit "UDP_BLOCKED"] then lit "UDP_BLOCKED"
  else if nf ∈ [lit "TLS_BLOCKED", lit "TLS_FAILURE"] then lit "TLS_BLOCKED"
  else if nf = lit "TIMEOUT" then lit "TIMEOUT"
  else if nf ∈ [lit "NO_ROUTE", lit "NETWORK_BLOCKED"] then lit "NO_ROUTE"
  else if nf ∈ [lit "TCP_RESET", lit "ACTIVE_RESET_SUSPECTED"] then lit "TCP_RESET"
  else nf

/-- `RecordAttempt` at `now.Unix()`. -/
def AdaptiveState.recordAttempt (s : AdaptiveState) (profileID : GoString) (signal : AttemptSignal)
    (failure : GoString) (now : Int64) : AdaptiveState :=
  let s := s.ensureDefaults
  if s.enabled = false ∨ isBlank profileID then s
  else
    { s with
      events := lastOf s.maxEvents.toInt.toNat (s.events ++
        [{ timestamp := now
           profileID
           success := signal.connectOK
           latency := signal.latencyMS
           failure := normalizeFailure signal failure }])
      cooldown :=
        if signal.connectOK then s.cooldown
        else s.cooldown.insert profileID (now + adaptiveCooldownSeconds) }

/-! ## Scoring -/

/-- `strings.EqualFold` with an ASCII text. -/
def equalFold (s ascii : GoString) : Bool := Json.foldName s = Json.foldName ascii

def hasTag (tags : List GoString) (wanted : GoString) : Bool :=
  tags.any fun t => equalFold (trimSpace t) (toLower (trimSpace wanted))

def decayWeight (now eventTS : Int64) : Float :=
  let age := now - eventTS
  if age ≤ 0 then 1
  else
    let w := 1.0 - floatOfInt age / 300
    if w < 0.1 then 0.1 else w

/-- The failures of the newest attempts, newest first, each once and six at most. -/
def collectFailures : List NetworkEvent → List GoString → List GoString
  | [], found => found
  | ev :: older, found =>
      if 6 ≤ found.length then found
      else if ev.success ∨ isBlank ev.failure ∨ ev.failure ∈ found then collectFailures older found
      else collectFailures older (found ++ [ev.failure])

def AdaptiveState.recentFailures (s : AdaptiveState) : List GoString :=
  collectFailures s.events.reverse []

structure Aggregated where
  successW : Float := 0
  totalW : Float := 0
  latencyW : Float := 0
  latencyWW : Float := 0
  failW : Float := 0

def Aggregated.add (a : Aggregated) (ev : NetworkEvent) (w : Float) : Aggregated where
  successW := if ev.success then a.successW + w else a.successW
  failW := if ev.success then a.failW else a.failW + w
  totalW := a.totalW + w
  latencyW := if ev.latency > 0 then a.latencyW + floatOfInt ev.latency * w else a.latencyW
  latencyWW := if ev.latency > 0 then a.latencyWW + w else a.latencyWW

def aggregate (events : List NetworkEvent) (nowUnix : Int64) : Map GoString Aggregated :=
  events.foldl
    (fun ag ev => ag.insert ev.profileID
      (((ag.find? ev.profileID).getD {}).add ev (decayWeight nowUnix ev.timestamp))) ∅

/-- A profile may be used now, as far as the profile itself says. -/
def Profile.usable (p : Profile) (nowUnix : Int64) : Bool :=
  p.enabled && !p.manualDisabled && !(p.health.cooldownUntil > nowUnix)

/-- The profile is in adaptive cooldown; one without an entry reads as 0. -/
def AdaptiveState.cooling (s : AdaptiveState) (profileID : GoString) (nowUnix : Int64) : Bool :=
  (s.cooldown.find? profileID).getD 0 > nowUnix

def dnsExcluded (failures : List GoString) (p : Profile) : Bool :=
  lit "DNS_BLOCKED" ∈ failures &&
    (p.family = familyDNS || hasTag (p.capabilities.dpiResistanceTags.getD []) (lit "dns-dependent"))

/-- A profile without a trust level counts as half trusted. -/
def Profile.trusted (p : Profile) : Profile :=
  if p.source.trustLevel = 0 then { p with source := { p.source with trustLevel := 50 } } else p

@[simp] theorem trusted_id (p : Profile) : p.trusted.id = p.id := by
  unfold Profile.trusted
  split_ifs <;> rfl

/-- The score of a profile with the attempts `a`. -/
def adaptiveScore (failures : List GoString) (a : Aggregated) (p : Profile) : Float :=
  let successRate := if a.totalW > 0 then a.successW / a.totalW else p.health.successEWMA.toFloat
  let latency :=
    if a.latencyWW > 0 then a.latencyW / a.latencyWW else floatOfInt p.health.medianHandshakeMs
  let failCount := a.failW + floatOfInt p.health.consecutiveFails
  let score := successRate * 100.0 - latency / 10.0 - failCount * 5.0
  let score := score + floatOfInt p.trusted.source.trustLevel * trustWeight
  let score :=
    if lit "UDP_BLOCKED" ∈ failures then
      let score := if equalFold p.capabilities.transport (lit "tcp") then score + 8 else score
      if equalFold p.capabilities.transport (lit "udp") then score - 12 else score
    else score
  if lit "TLS_BLOCKED" ∈ failures ∧ isBlank p.credentials.utlsFingerprint = false then score + 3
  else score

/-- The loop over the profiles. -/
def AdaptiveState.score (s : AdaptiveState) (profiles : List Profile) (nowUnix : Int64) :
    List Ranked :=
  let failures := s.recentFailures
  let ag := aggregate s.events nowUnix
  (profiles.filter fun p =>
      p.usable nowUnix && !s.cooling p.id nowUnix && !dnsExcluded failures p).map fun p =>
    ⟨p.trusted, adaptiveScore failures ((ag.find? p.id).getD {}) p⟩

/-- The loop that stands in where the other one leaves no profile. -/
def AdaptiveState.scoreUnfiltered (s : AdaptiveState) (profiles : List Profile) (nowUnix : Int64) :
    List Ranked :=
  (profiles.filter fun p => p.usable nowUnix && !s.cooling p.id nowUnix).map fun p =>
    ⟨p, p.health.successEWMA.toFloat * scoreScale⟩

/-- The candidates, in the order of the profiles. -/
def AdaptiveState.candidates (s : AdaptiveState) (profiles : List Profile) (nowUnix : Int64) :
    List Ranked :=
  let scored := s.score profiles nowUnix
  if scored = [] then s.scoreUnfiltered profiles nowUnix else scored

/-! ## Selecting -/

def shouldUseOrchestrator (scores : List ScoredProfile) (recentFailures : List GoString) : Bool :=
  (match scores with
    | first :: second :: _ => (first.score - second.score).abs ≤ orchestratorCloseScoreDelta
    | _ => false) ||
  2 ≤ recentFailures.length || recentFailures.any (equalFold · (lit "UNKNOWN"))

def recentSelectionStreak (history : List GoString) (id : GoString) : ℕ :=
  (history.reverse.takeWhile (· = id)).length

/-- The guard passes over the best of the ranked profiles. -/
def diversityGuard (history : List GoString) : List Ranked → Bool
  | first :: second :: _ =>
      diversityStreakLimit ≤ recentSelectionStreak history first.profile.id &&
        first.score - second.score ≤ diversityScoreDelta
  | _ => false

/-- The ranked candidates. -/
def AdaptiveState.ranking (s : AdaptiveState) (sorter : SliceSort) (profiles : List Profile)
    (nowUnix : Int64) : List Ranked :=
  sorter.sort (fun first second => first.score > second.score) (s.candidates profiles nowUnix)

def bestReason (first : Ranked) : GoString :=
  lit "score=" ++ formatTenths first.score ++ lit " highest success_rate with latency/failure penalties"

/-- The selected one of the ranked profiles, and why. -/
def selectRanked (history : List GoString) (ranked : List Ranked) : GoString × GoString :=
  match ranked with
  | [] => ([], lit "no selectable profiles")
  | [first] => (first.profile.id, bestReason first)
  | first :: second :: _ =>
      if diversityGuard history ranked then
        (second.profile.id, lit "diversity guard: " ++ first.profile.id ++ lit " repeated " ++
          natDigits (recentSelectionStreak history first.profile.id) ++
          lit " times, switched to close score " ++ formatTenths second.score)
      else (first.profile.id, bestReason first)

/-- `AdaptiveState.SelectProfile` at `now.Unix()`. -/
def AdaptiveState.selectProfile (s : AdaptiveState) (sorter : SliceSort) (profiles : List Profile)
    (nowUnix : Int64) : List Ranked × Decision :=
  let s := s.ensureDefaults
  if s.enabled = false then ([], { reason := lit "adaptive mode disabled" })
  else
    let recentFailures := s.recentFailures
    let ranked := s.ranking sorter profiles nowUnix
    let scores := sorter.sort (fun first second => first.score > second.score)
      ((s.candidates profiles nowUnix).map fun candidate =>
        ⟨candidate.profile.id, mathRound (candidate.score * 10) / 10⟩)
    let (selected, reason) := selectRanked s.selectionHistory ranked
    (ranked,
      { selected, reason, scores, recentFailures
        useOrchestrator := ranked ≠ [] && shouldUseOrchestrator scores recentFailures })

end ShadowNet
