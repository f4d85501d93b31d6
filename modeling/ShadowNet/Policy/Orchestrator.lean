import ShadowNet.Go.Result
import ShadowNet.Policy.Engine

/-! # The orchestrator's advice

`DecideWithFallback` asks an external orchestrator which profile to use. An answer is taken only if
it passes `ValidateResponse` and `EnforceSafety`; otherwise the choice of the policy stands. How `%q`
prints a string is a parameter.
-/

namespace ShadowNet

open Go

/-- The parts of a `DecisionRequest` that the checks of the response look at. -/
structure DecisionRequest where
  profileIDs : List GoString := []
  recentSwitches : List GoString := []
  maxSwitchRate : Int64 := 3
  noUDP : Bool := false
deriving DecidableEq

structure DecisionResponse where
  action : GoString
  profileID : GoString := []
  reason : GoString
  confidence : Float
  fallback : List GoString := []
deriving DecidableEq

structure DecisionResult where
  selectedProfile : Profile
  reason : GoString
  confidence : Float
  source : GoString

/-- What `Client.Decide` answers to a request; it has nothing where the call fails. -/
abbrev Client := DecisionRequest → Option DecisionResponse

def actionSwitchProfile : GoString := lit "switch_profile"
def actionHoldCurrent : GoString := lit "hold_current"
def actionCooldownProfile : GoString := lit "cooldown_profile"
def actionImportBundle : GoString := lit "import_bundle"
def actionActivateMesh : GoString := lit "activate_mesh"

/-- `BuildRequest` under `MaxSwitchRate: 3`. -/
def buildRequest (profiles : List Profile) (recentSwitches : List GoString) : DecisionRequest where
  profileIDs := profiles.map (·.id)
  recentSwitches

/-- What is wrong with the names in a response. -/
def checkFallback (quoted : GoString → GoString) (known : List GoString) :
    List GoString → Except GoString Unit
  | [] => .ok ()
  | id :: rest => do
      require (isBlank id = false) (lit "empty fallback id")
      require (id ∈ known) (lit "unknown fallback id " ++ quoted id)
      checkFallback quoted known rest

def validateResponse (quoted : GoString → GoString) (req : DecisionRequest)
    (resp : DecisionResponse) : Except GoString Unit := do
  require (resp.action ∈ [actionSwitchProfile, actionHoldCurrent, actionCooldownProfile,
    actionImportBundle, actionActivateMesh]) (lit "invalid action " ++ quoted resp.action)
  -- A confidence that is no number fails both comparisons.
  require (0 ≤ resp.confidence ∧ resp.confidence ≤ 1) (lit "invalid confidence")
  require (isBlank resp.reason = false) (lit "missing reason")
  let named := resp.action = actionSwitchProfile ∨ resp.action = actionCooldownProfile
  require (named → isBlank resp.profileID = false) (lit "missing profile_id")
  require (named → resp.profileID ∈ req.profileIDs) (lit "unknown profile_id " ++ quoted resp.profileID)
  checkFallback quoted req.profileIDs resp.fallback

def findProfileByID (profiles : List Profile) (id : GoString) : Option Profile :=
  profiles.find? fun p => p.id = id

/-- `EnforceSafety`, which returns the response as it is. -/
def enforceSafety (quoted : GoString → GoString) (candidates : List Profile)
    (req : DecisionRequest) (resp : DecisionResponse) : Except GoString Unit := do
  validateResponse quoted req resp
  require (resp.action = actionSwitchProfile → 0 < req.maxSwitchRate →
    (req.recentSwitches.length : ℤ) < req.maxSwitchRate.toInt) (lit "switch rate limit exceeded")
  if resp.action = actionSwitchProfile ∨ resp.action = actionCooldownProfile then
    match findProfileByID candidates resp.profileID with
    | none => .error (lit "unknown target profile")
    | some target =>
        require (target.enabled = true ∧ target.manualDisabled = false)
          (lit "target profile disabled")
        require (¬ (req.noUDP = true ∧ target.capabilities.transport = lit "udp"))
          (lit "udp prohibited by constraints")
  else .ok ()

/-- `DecideWithFallback`. -/
def decideWithFallback (quoted : GoString → GoString) (client : Option Client) (current : Profile)
    (candidates : List Profile) (req : DecisionRequest) (policySelected : Profile)
    (policyReason : GoString) (policyConfidence : Float) : DecisionResult :=
  let policy (note : GoString) : DecisionResult :=
    ⟨policySelected, policyReason ++ note, policyConfidence, lit "policy"⟩
  match client with
  | none => policy []
  | some client =>
      match client req with
      | none => policy (lit " (orchestrator_unavailable)")
      | some resp =>
          match enforceSafety quoted candidates req resp with
          | .error err => policy (lit " (orchestrator_rejected: " ++ err ++ lit ")")
          | .ok () =>
              if resp.action = actionHoldCurrent then
                ⟨current, resp.reason, resp.confidence, lit "orchestrator"⟩
              else if resp.action = actionSwitchProfile then
                match findProfileByID candidates resp.profileID with
                | none => policy (lit " (orchestrator_invalid_target)")
                | some p => ⟨p, resp.reason, resp.confidence, lit "orchestrator"⟩
              else if resp.action = actionCooldownProfile then
                ⟨policySelected, resp.reason, resp.confidence, lit "orchestrator"⟩
              else if resp.action = actionImportBundle ∨ resp.action = actionActivateMesh then
                policy (lit " (orchestrator_action_not_supported: " ++ resp.action ++ lit ")")
              else policy (lit " (orchestrator_unknown_action)")

variable {quoted : GoString → GoString} {current : Profile} {candidates : List Profile}
  {req : DecisionRequest} {resp : DecisionResponse}

/-! ## What a response leads to -/

/-- The ways in which the orchestrator is the source of a decision. -/
inductive Advised (quoted : GoString → GoString) (current : Profile) (candidates : List Profile)
    (req : DecisionRequest) (policySelected : Profile) (resp : DecisionResponse) : Profile → Prop
  | hold (accepted : enforceSafety quoted candidates req resp = .ok ())
      (action : resp.action = actionHoldCurrent) :
      Advised quoted current candidates req policySelected resp current
  | switch {target : Profile} (accepted : enforceSafety quoted candidates req resp = .ok ())
      (action : resp.action = actionSwitchProfile)
      (found : findProfileByID candidates resp.profileID = some target) :
      Advised quoted current candidates req policySelected resp target
  | cooldown (accepted : enforceSafety quoted candidates req resp = .ok ())
      (action : resp.action = actionCooldownProfile) :
      Advised quoted current candidates req policySelected resp policySelected

/-- What is advised, by the action of the answer. -/
theorem advised_iff {policySelected p : Profile} :
    Advised quoted current candidates req policySelected resp p ↔
      enforceSafety quoted candidates req resp = .ok () ∧
        (resp.action = actionHoldCurrent ∧ p = current ∨
          resp.action = actionSwitchProfile ∧
            findProfileByID candidates resp.profileID = some p ∨
          resp.action = actionCooldownProfile ∧ p = policySelected) := by
  constructor
  · intro advised
    cases advised with
    | hold accepted action => exact ⟨accepted, .inl ⟨action, rfl⟩⟩
    | switch accepted action found => exact ⟨accepted, .inr (.inl ⟨action, found⟩)⟩
    | cooldown accepted action => exact ⟨accepted, .inr (.inr ⟨action, rfl⟩)⟩
  · rintro ⟨accepted, ⟨action, rfl⟩ | ⟨action, found⟩ | ⟨action, rfl⟩⟩
    · exact .hold accepted action
    · exact .switch accepted action found
    · exact .cooldown accepted action

theorem Advised.unique {policySelected p q : Profile}
    (advised : Advised quoted current candidates req policySelected resp p)
    (again : Advised quoted current candidates req policySelected resp q) : p = q := by
  have holdNotSwitch : actionHoldCurrent ≠ actionSwitchProfile := by decide
  have holdNotCool : actionHoldCurrent ≠ actionCooldownProfile := by decide
  have switchNotCool : actionSwitchProfile ≠ actionCooldownProfile := by decide
  cases advised with
  | hold _ action =>
    cases again with
    | hold => rfl
    | switch _ other => exact absurd (action.symm.trans other) holdNotSwitch
    | cooldown _ other => exact absurd (action.symm.trans other) holdNotCool
  | switch _ action found =>
    cases again with
    | hold _ other => exact absurd (other.symm.trans action) holdNotSwitch
    | switch _ _ same => exact Option.some.inj (found.symm.trans same)
    | cooldown _ other => exact absurd (action.symm.trans other) switchNotCool
  | cooldown _ action =>
    cases again with
    | hold _ other => exact absurd (other.symm.trans action) holdNotCool
    | switch _ other => exact absurd (other.symm.trans action) switchNotCool
    | cooldown => rfl

/-- A decision is that of the policy, with a note on what went wrong, or it follows the response. -/
theorem decideWithFallback_cases (quoted : GoString → GoString) (client : Option Client)
    (current : Profile) (candidates : List Profile) (req : DecisionRequest)
    (policySelected : Profile) (policyReason : GoString) (policyConfidence : Float) :
    let result := decideWithFallback quoted client current candidates req policySelected
      policyReason policyConfidence
    (∃ note, result = ⟨policySelected, policyReason ++ note, policyConfidence, lit "policy"⟩ ∧
        ∀ ask resp p, client = some ask → ask req = some resp →
          ¬ Advised quoted current candidates req policySelected resp p) ∨
      ∃ ask resp p, client = some ask ∧ ask req = some resp ∧
        Advised quoted current candidates req policySelected resp p ∧
        result = ⟨p, resp.reason, resp.confidence, lit "orchestrator"⟩ := by
  intro result
  subst result
  unfold decideWithFallback
  dsimp only
  rcases client with _ | ask
  · refine .inl ⟨[], ?_, fun _ _ _ given => nomatch given⟩
    dsimp only
  rcases answer : ask req with _ | resp
  · refine .inl ⟨lit " (orchestrator_unavailable)", by simp only [answer], ?_⟩
    rintro _ _ _ ⟨⟩ answered
    cases answer.symm.trans answered
  rcases safe : enforceSafety quoted candidates req resp with err | ⟨⟩
  · refine .inl ⟨lit " (orchestrator_rejected: " ++ err ++ lit ")", by simp only [answer, safe], ?_⟩
    rintro _ _ _ ⟨⟩ answered advised
    cases answer.symm.trans answered
    cases safe.symm.trans (advised_iff.mp advised).1
  simp only [answer, safe]
  -- Without advice to follow, a note is all that is left to give.
  have declined {note : GoString}
      (useless : ∀ p, ¬ Advised quoted current candidates req policySelected resp p) :
      ∃ text, (⟨policySelected, policyReason ++ note, policyConfidence, lit "policy"⟩ :
          DecisionResult) = ⟨policySelected, policyReason ++ text, policyConfidence, lit "policy"⟩ ∧
        ∀ other reply p, some ask = some other → other req = some reply →
          ¬ Advised quoted current candidates req policySelected reply p := by
    refine ⟨note, rfl, ?_⟩
    rintro _ _ p ⟨⟩ answered
    cases answer.symm.trans answered
    exact useless p
  split_ifs with hold switch cool unsupported
  · exact .inr ⟨ask, resp, current, rfl, answer, .hold safe hold, rfl⟩
  · rcases found : findProfileByID candidates resp.profileID with _ | target
    · refine .inl (declined fun p advised => ?_)
      cases advised with
      | hold _ action => exact hold action
      | switch _ _ target => cases found.symm.trans target
      | cooldown _ action => exact absurd (switch.symm.trans action) (by decide)
    · exact .inr ⟨ask, resp, target, rfl, answer, .switch safe switch found, rfl⟩
  · exact .inr ⟨ask, resp, policySelected, rfl, answer, .cooldown safe cool, rfl⟩
  all_goals
    refine .inl (declined fun p advised => ?_)
    cases advised with
    | hold _ action => exact hold action
    | switch _ action => exact switch action
    | cooldown _ action => exact cool action

/-- The orchestrator is the source of a decision exactly where its response leads there. -/
theorem decideWithFallback_source (client : Option Client) (policySelected : Profile)
    (policyReason : GoString) (policyConfidence : Float) (p : Profile) :
    let result := decideWithFallback quoted client current candidates req policySelected
      policyReason policyConfidence
    (result.source = lit "orchestrator" ∧ result.selectedProfile = p) ↔
      ∃ ask resp, client = some ask ∧ ask req = some resp ∧
        Advised quoted current candidates req policySelected resp p := by
  have policy : ¬ lit "policy" = lit "orchestrator" := by decide
  intro result
  have outcome := decideWithFallback_cases quoted client current candidates req policySelected
    policyReason policyConfidence
  rcases outcome with ⟨note, shape, useless⟩ | ⟨ask, resp, q, given, answered, advised, shape⟩
  · refine iff_of_false (fun fromAdvice => policy ?_) ?_
    · rw [← fromAdvice.1]
      exact (congrArg DecisionResult.source shape).symm
    · rintro ⟨ask, resp, given, answered, advised⟩
      exact useless ask resp p given answered advised
  · have source : result.source = lit "orchestrator" := congrArg DecisionResult.source shape
    have selected : result.selectedProfile = q := congrArg DecisionResult.selectedProfile shape
    constructor
    · rintro ⟨-, rfl⟩
      exact ⟨ask, resp, given, answered, selected ▸ advised⟩
    · rintro ⟨other, reply, given', answered', advised'⟩
      cases given.symm.trans given'
      cases answered.symm.trans answered'
      exact ⟨source, selected.trans (advised.unique advised')⟩

theorem Advised.mem {policySelected p : Profile}
    (advised : Advised quoted current candidates req policySelected resp p) :
    p ∈ policySelected :: current :: candidates := by
  cases advised with
  | hold => exact List.mem_cons_of_mem _ (List.mem_cons_self ..)
  | switch _ _ found =>
    have known : p ∈ candidates := List.mem_of_find?_eq_some found
    exact List.mem_cons_of_mem _ (List.mem_cons_of_mem _ known)
  | cooldown => exact List.mem_cons_self ..

/-- What is selected is the choice of the policy, the current profile or one of the candidates. -/
theorem decideWithFallback_selected (quoted : GoString → GoString) (client : Option Client)
    (current : Profile) (candidates : List Profile) (req : DecisionRequest)
    (policySelected : Profile) (policyReason : GoString) (policyConfidence : Float) :
    (decideWithFallback quoted client current candidates req policySelected policyReason
      policyConfidence).selectedProfile ∈ policySelected :: current :: candidates := by
  have outcome := decideWithFallback_cases quoted client current candidates req policySelected
    policyReason policyConfidence
  rcases outcome with ⟨note, shape, -⟩ | ⟨ask, resp, p, -, -, advised, shape⟩
  · rw [shape]
    exact List.mem_cons_self ..
  · rw [shape]
    exact advised.mem

/-! ## When the orchestrator fails -/

/-- The orchestrator gives nothing that can be followed: its client is missing or fails, or its
response is rejected or asks for an action that is not supported. -/
inductive Unusable (quoted : GoString → GoString) (client : Option Client)
    (candidates : List Profile) (req : DecisionRequest) : Prop
  | absent (none : client = none)
  | fails {ask : Client} (given : client = some ask) (answered : ask req = none)
  | rejected {ask : Client} {resp : DecisionResponse} {err : GoString} (given : client = some ask)
      (answered : ask req = some resp) (refused : enforceSafety quoted candidates req resp = .error err)
  | unsupported {ask : Client} {resp : DecisionResponse} (given : client = some ask)
      (answered : ask req = some resp)
      (action : resp.action ∉ [actionHoldCurrent, actionSwitchProfile, actionCooldownProfile])

/-- What a decision may be, whatever becomes of the request to the orchestrator. -/
structure HarmlessDecision (quoted : GoString → GoString) (client : Option Client)
    (current : Profile) (candidates : List Profile) (req : DecisionRequest)
    (policySelected : Profile) (policyConfidence : Float) (result : DecisionResult) : Prop where
  selected : result.selectedProfile ∈ policySelected :: current :: candidates
  failed : Unusable quoted client candidates req → result.selectedProfile = policySelected ∧
    result.confidence = policyConfidence ∧ result.source = lit "policy"
  policy : result.source = lit "policy" → result.selectedProfile = policySelected ∧
    result.confidence = policyConfidence

theorem Unusable.not_advised {client : Option Client} {policySelected p : Profile} {ask : Client}
    (unusable : Unusable quoted client candidates req) (given : client = some ask)
    (answered : ask req = some resp) :
    ¬ Advised quoted current candidates req policySelected resp p := by
  intro advised
  obtain ⟨accepted, action⟩ := advised_iff.mp advised
  cases unusable with
  | absent none => cases given.symm.trans none
  | fails given' answered' =>
    cases given.symm.trans given'
    cases answered.symm.trans answered'
  | rejected given' answered' refused =>
    cases given.symm.trans given'
    cases answered.symm.trans answered'
    cases accepted.symm.trans refused
  | unsupported given' answered' other =>
    cases given.symm.trans given'
    cases answered.symm.trans answered'
    rcases action with ⟨hold, -⟩ | ⟨switch, -⟩ | ⟨cool, -⟩
    · exact other (by simp [hold])
    · exact other (by simp [switch])
    · exact other (by simp [cool])

/-- Whatever the orchestrator does, the profile is a known one, and where it fails the decision is
that of the policy. -/
theorem decideWithFallback_harmless (quoted : GoString → GoString) (client : Option Client)
    (current : Profile) (candidates : List Profile) (req : DecisionRequest)
    (policySelected : Profile) (policyReason : GoString) (policyConfidence : Float) :
    HarmlessDecision quoted client current candidates req policySelected policyConfidence
      (decideWithFallback quoted client current candidates req policySelected policyReason
        policyConfidence) := by
  have selected := decideWithFallback_selected quoted client current candidates req policySelected
    policyReason policyConfidence
  have outcome := decideWithFallback_cases quoted client current candidates req policySelected
    policyReason policyConfidence
  refine ⟨selected, ?_, ?_⟩ <;>
    rcases outcome with ⟨note, shape, -⟩ | ⟨ask, resp, p, given, answered, advised, shape⟩ <;>
    rw [shape]
  · exact fun _ => ⟨rfl, rfl, rfl⟩
  · exact fun unusable => absurd advised (unusable.not_advised given answered)
  · exact fun _ => ⟨rfl, rfl⟩
  · have apart : ¬ lit "orchestrator" = lit "policy" := by decide
    exact fun policy => absurd policy apart

/-! ## Advice within the policy -/

/-- A transport that runs over UDP. -/
def Capabilities.OverUDP (c : Capabilities) : Prop :=
  c.transport = lit "udp" ∨ c.transport = lit "quic"

instance (c : Capabilities) : Decidable c.OverUDP := inferInstanceAs (Decidable (_ ∨ _))

/-- The profile is one that the response asks to cool down. -/
def DecisionResponse.CoolsDown (resp : DecisionResponse) (p : Profile) : Prop :=
  resp.action = actionCooldownProfile ∧ p.id = resp.profileID

/-- What the policy demands of a profile that is selected on advice. -/
structure InsidePolicy (current : Profile) (candidates : List Profile) (req : DecisionRequest)
    (resp : DecisionResponse) (selected : Profile) : Prop where
  known : selected ∈ current :: candidates
  enabled : selected.enabled = true
  notDisabled : selected.manualDisabled = false
  switchRate : selected.id ≠ current.id → 0 < req.maxSwitchRate →
    (req.recentSwitches.length : ℤ) < req.maxSwitchRate.toInt
  transport : req.noUDP = true → ¬ selected.capabilities.OverUDP
  notCooled : ¬ resp.CoolsDown selected

/-- A decision with the orchestrator as its source is one that the policy allows. -/
def AdviceInside (client : Option Client) (current : Profile) (candidates : List Profile)
    (req : DecisionRequest) (result : DecisionResult) : Prop :=
  result.source = lit "orchestrator" →
    ∃ ask resp, client = some ask ∧ ask req = some resp ∧
      InsidePolicy current candidates req resp result.selectedProfile

/-- What `EnforceSafety` leaves to its caller. It looks at the profile that a response names and only
for the transport `udp`; the one that is kept, or that the policy has selected, it does not see. -/
structure AdviceChecked (current : Profile) (candidates : List Profile) (req : DecisionRequest)
    (policySelected : Profile) (resp : DecisionResponse) : Prop where
  hold : resp.action = actionHoldCurrent →
    (current.enabled = true ∧ current.manualDisabled = false) ∧
      (req.noUDP = true → ¬ current.capabilities.OverUDP)
  switch : resp.action = actionSwitchProfile → req.noUDP = true →
    ∀ target, findProfileByID candidates resp.profileID = some target →
      target.capabilities.transport ≠ lit "quic"
  cooldown : resp.action = actionCooldownProfile →
    (policySelected ∈ current :: candidates ∧ policySelected.id ≠ resp.profileID) ∧
      (policySelected.enabled = true ∧ policySelected.manualDisabled = false) ∧
      (policySelected.id ≠ current.id → 0 < req.maxSwitchRate →
        (req.recentSwitches.length : ℤ) < req.maxSwitchRate.toInt) ∧
      (req.noUDP = true → ¬ policySelected.capabilities.OverUDP)

/-- What `EnforceSafety` makes sure of for a switch. -/
theorem enforceSafety_switch {target : Profile}
    (accepted : enforceSafety quoted candidates req resp = .ok ())
    (action : resp.action = actionSwitchProfile)
    (found : findProfileByID candidates resp.profileID = some target) :
    (0 < req.maxSwitchRate → (req.recentSwitches.length : ℤ) < req.maxSwitchRate.toInt) ∧
      (target.enabled = true ∧ target.manualDisabled = false) ∧
      ¬ (req.noUDP = true ∧ target.capabilities.transport = lit "udp") := by
  have applies : resp.action = actionSwitchProfile ∨ resp.action = actionCooldownProfile :=
    .inl action
  rw [enforceSafety, if_pos applies, found] at accepted
  obtain ⟨⟨⟩, -, accepted⟩ := bind_eq_ok.mp accepted
  obtain ⟨rate, accepted⟩ := require_bind_eq_ok.mp accepted
  obtain ⟨usable, accepted⟩ := require_bind_eq_ok.mp accepted
  exact ⟨rate action, usable, require_eq_ok.mp accepted⟩

theorem Advised.insidePolicy {policySelected p : Profile}
    (advised : Advised quoted current candidates req policySelected resp p)
    (checked : AdviceChecked current candidates req policySelected resp) :
    InsidePolicy current candidates req resp p := by
  cases advised with
  | hold accepted action =>
    obtain ⟨⟨enabled, notDisabled⟩, transport⟩ := checked.hold action
    refine ⟨List.mem_cons_self .., enabled, notDisabled, fun other => absurd rfl other, transport, ?_⟩
    rintro ⟨cools, -⟩
    rw [action] at cools
    revert cools
    decide
  | switch accepted action found =>
    obtain ⟨rate, ⟨enabled, notDisabled⟩, tcp⟩ := enforceSafety_switch accepted action found
    refine ⟨List.mem_cons_of_mem _ (List.mem_of_find?_eq_some found), enabled, notDisabled,
      fun _ => rate, ?_, ?_⟩
    · rintro noUDP (udp | quic)
      · exact tcp ⟨noUDP, udp⟩
      · exact checked.switch action noUDP _ found quic
    · rintro ⟨cools, -⟩
      rw [action] at cools
      revert cools
      decide
  | cooldown accepted action =>
    obtain ⟨⟨known, other⟩, ⟨enabled, notDisabled⟩, rate, transport⟩ := checked.cooldown action
    exact ⟨known, enabled, notDisabled, rate, transport, fun cools => other cools.2⟩

/-- A decision with the orchestrator as its source stays inside the policy exactly when the caller's
own profiles and the transport `quic` leave nothing for `EnforceSafety` to miss. -/
theorem insidePolicy_iff (quoted : GoString → GoString) (client : Option Client)
    (current : Profile) (candidates : List Profile) (req : DecisionRequest)
    (policySelected : Profile) (policyReason : GoString) (policyConfidence : Float) :
    AdviceInside client current candidates req (decideWithFallback quoted client current candidates
        req policySelected policyReason policyConfidence) ↔
      ∀ ask resp, client = some ask → ask req = some resp →
        enforceSafety quoted candidates req resp = .ok () →
          AdviceChecked current candidates req policySelected resp := by
  have source (p : Profile) := @decideWithFallback_source quoted current candidates req client
    policySelected policyReason policyConfidence p
  generalize decideWithFallback quoted client current candidates req policySelected policyReason
    policyConfidence = result at source
  constructor
  · rintro inside ask resp given answered accepted
    have leads {p : Profile} (advised : Advised quoted current candidates req policySelected resp p) :
        InsidePolicy current candidates req resp p := by
      obtain ⟨fromAdvice, rfl⟩ := (source p).mpr ⟨ask, resp, given, answered, advised⟩
      obtain ⟨ask', resp', given', answered', policy⟩ := inside fromAdvice
      cases given.symm.trans given'
      cases answered.symm.trans answered'
      exact policy
    refine ⟨fun action => ?_, fun action noUDP target found quic => ?_, fun action => ?_⟩
    · have policy := leads (.hold accepted action)
      exact ⟨⟨policy.enabled, policy.notDisabled⟩, policy.transport⟩
    · exact (leads (.switch accepted action found)).transport noUDP (.inr quic)
    · have policy := leads (.cooldown accepted action)
      exact ⟨⟨policy.known, fun same => policy.notCooled ⟨action, same⟩⟩,
        ⟨policy.enabled, policy.notDisabled⟩, policy.switchRate, policy.transport⟩
  · intro checked fromAdvice
    obtain ⟨ask, resp, given, answered, advised⟩ := (source _).mp ⟨fromAdvice, rfl⟩
    have accepted := (advised_iff.mp advised).1
    exact ⟨ask, resp, given, answered,
      advised.insidePolicy (checked ask resp given answered accepted)⟩

/-- Asked to cool down the profile that the policy has selected, it selects that profile. -/
theorem cooledProfile_selected :
    ¬ ∀ (quoted : GoString → GoString) (client : Option Client) (current : Profile)
      (candidates : List Profile) (req : DecisionRequest) (policySelected : Profile)
      (policyReason : GoString) (policyConfidence : Float),
      AdviceInside client current candidates req (decideWithFallback quoted client current
        candidates req policySelected policyReason policyConfidence) := by
  intro inside
  have advice := inside id
    (some fun _ => some {
      action := actionCooldownProfile, profileID := lit "a", reason := lit "flapping",
      confidence := 0.9 })
    (plainProfile (lit "a")) [plainProfile (lit "a"), plainProfile (lit "b")]
    (buildRequest [plainProfile (lit "a"), plainProfile (lit "b")] []) (plainProfile (lit "a")) [] 0.5
  obtain ⟨_, _, ⟨⟩, ⟨⟩, policy⟩ := advice (by decide)
  refine policy.notCooled ⟨rfl, ?_⟩
  decide

end ShadowNet
