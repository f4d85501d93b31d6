import ShadowNet.Go.Chan
import ShadowNet.Go.History
import ShadowNet.Policy.Rotation

/-! # The daemon

The main loop of the daemon runs the detection suite at every tick and sends what it finds into a channel,
from which the rotation loop takes it. The two are goroutines: each reads the clock in its own order, and
sending waits while the channel is full.
-/

namespace ShadowNet.Inside

open Go

/-! ## Who stays on the blacklist -/

section

variable {rm : RotationManager} {answers : RotationAnswers} {id : GoString} {deadline : ℤ}

/-- A profile stays on the blacklist until its deadline. -/
theorem listed_healthyStep {now : ℤ} {p : Profile} (state : Map GoString ℤ × List Profile)
    (listed : state.1.find? id = some deadline) (early : now < deadline) :
    (healthyStep now state p).1.find? id = some deadline := by
  unfold healthyStep
  cases held : state.1.find? p.id with
  | none => exact listed
  | some expiry =>
    dsimp only
    split_ifs with before
    · exact listed
    · rw [Map.find?_erase, if_neg]
      · exact listed
      · rintro rfl
        cases listed.symm.trans held
        exact before early

theorem listed_healthyCandidates (stored : List Profile) {now : ℤ}
    (listed : rm.blacklist.find? id = some deadline) (early : now < deadline) :
    (rm.healthyCandidates stored now).1.find? id = some deadline := by
  unfold RotationManager.healthyCandidates
  generalize healthy : ([] : List Profile) = start
  clear healthy
  generalize rm.blacklist = blacklist at listed ⊢
  induction stored generalizing blacklist start with
  | nil => exact listed
  | cons p rest ih =>
    rw [List.foldl_cons]
    apply ih
    exact listed_healthyStep (blacklist, start) listed early

/-- Applying a profile leaves the entries of the others. -/
theorem apply_blacklist (other : rm.currentProfile.id ≠ id) :
    (rm.apply answers).blacklist.find? id = rm.blacklist.find? id := by
  unfold RotationManager.apply
  split
  · rfl
  · split
    · rfl
    · exact (Map.find?_insert ..).trans (if_neg other)

/-- Who is on the blacklist is not chosen before the deadline. -/
theorem choose_late {chosen : RotationManager} (chooses : rm.choose answers = some chosen)
    (listed : rm.blacklist.find? chosen.currentProfile.id = some deadline) :
    deadline ≤ answers.now := by
  obtain ⟨stored, first, -, head, rfl, -⟩ := choose_isSome chooses
  exact letsThrough_iff.mp (List.find?_some head) deadline listed

/-- Who is on the blacklist stays there through a rotation that begins before the deadline. -/
theorem listed_rotate (listed : rm.blacklist.find? id = some deadline)
    (early : answers.now < deadline) : (rm.rotate answers).blacklist.find? id = some deadline := by
  unfold RotationManager.rotate
  cases answers.stored with
  | none => exact listed
  | some stored =>
    have kept := listed_healthyCandidates stored listed early
    have healthy := healthyCandidates_eq rm stored answers.now
    rcases found : rm.healthyCandidates stored answers.now with ⟨blacklist, candidates⟩
    rw [found] at kept healthy
    simp only [found]
    cases candidates with
    | nil => exact kept
    | cons first rest =>
      dsimp only
      rw [apply_blacklist]
      · exact kept
      · rintro rfl
        have through : first ∈ stored.filter (letsThrough rm.blacklist answers.now) := by
          rw [← healthy]
          exact List.mem_cons_self ..
        have late := letsThrough_iff.mp (List.mem_filter.mp through).2 deadline listed
        exact absurd late (not_le.mpr early)

/-- The configuration of a chosen profile is generated, and sing-box refuses it. -/
def reloadFails (rm : RotationManager) (answers : RotationAnswers) : Bool :=
  match rm.generator.generate answers.files rm.currentConfig rm.currentProfile.endpoint.host
      (lit "uuid") (lit "pubkey") with
  | .error _ => false
  | .ok configBytes => !(rm.sing.applyAndReload answers.reload configBytes).1.isOk

/-- A profile that sing-box refuses goes on the blacklist. -/
theorem apply_reloadFails (fails : reloadFails rm answers = true) :
    (rm.apply answers).blacklist.find? rm.currentProfile.id =
      some (answers.failedAt + 30 * minute) := by
  unfold reloadFails at fails
  unfold RotationManager.apply
  cases generated : rm.generator.generate answers.files rm.currentConfig
      rm.currentProfile.endpoint.host (lit "uuid") (lit "pubkey") with
  | error =>
    rw [generated] at fails
    cases fails
  | ok configBytes =>
    rw [generated] at fails
    dsimp only at fails ⊢
    split
    · rename_i applied
      simp [applied, Except.isOk, Except.toBool] at fails
    · exact (Map.find?_insert ..).trans (if_pos rfl)

end

/-! ## The detection suite -/

/-- `detector.Event`, as the suite makes it. -/
structure Anomaly extends Event where
  type : GoString
  severity : GoString
deriving DecidableEq

/-- The checks of `runDetectionSuite`, in their order. -/
inductive Check where
  | passive
  | baseline
  | sni
  | udp
deriving DecidableEq

/-- The event of a check that finds something. -/
def Check.anomaly (now : ℤ) : Check → Anomaly
  | .passive => ⟨⟨now⟩, lit "HIGH_RETRANSMISSION", lit "medium"⟩
  | .baseline => ⟨⟨now⟩, lit "TOTAL_BLACKOUT_SUSPECTED", lit "critical"⟩
  | .sni => ⟨⟨now⟩, lit "SNI_BLOCK_SUSPECTED", lit "high"⟩
  | .udp => ⟨⟨now⟩, lit "UDP_BLOCK_SUSPECTED", lit "high"⟩

/-- The check after one; a blackout ends the suite. -/
def Check.next : Check → Bool → Option Check
  | .passive, _ => some .baseline
  | .baseline, found => if found then none else some .sni
  | .sni, _ => some .udp
  | .udp, _ => none

/-- How many events the rest of a suite may still send. -/
def Check.left : Option Check → ℕ
  | none => 0
  | some .passive => 3
  | some .baseline | some .sni => 2
  | some .udp => 1

/-! ## The daemon -/

inductive MainLoop where
  | selecting
  | checking (check : Check)
  /-- The main loop waits until the channel takes an event. -/
  | sending (anomaly : Anomaly) (next : Option Check)
  | returned
deriving DecidableEq

/-- Where the main loop goes on in the suite. -/
def MainLoop.resume : Option Check → MainLoop
  | none => .selecting
  | some check => .checking check

structure Daemon where
  rotation : RotationLoop
  /-- A time that the rotation loop has not read a later one than. -/
  clock : ℤ
  main : MainLoop := .selecting
  anomalies : Chan Anomaly := .make 100
  cancelled : Bool := false
  /-- What has been sent and received so far. -/
  sent : List Anomaly := []
  received : List Anomaly := []

inductive DaemonLabel where
  /-- The rotation loop goes on, without an anomaly. -/
  | rotation (label : RotationLabel) (last : ℤ)
  /-- It takes an anomaly, one of too few. -/
  | anomaly (anomaly : Anomaly) (now : ℤ)
  /-- It takes an anomaly and rotates. -/
  | emergency (anomaly : Anomaly) (now blacklistedAt : ℤ) (answers : RotationAnswers) (last : ℤ)
  | tick
  /-- A check, and whether it finds something: more than every fifth segment sent again, no baseline
  connection, a blocked name or blocked datagrams. -/
  | check (found : Bool) (now : ℤ)
  | send
  | signal
  | returns

/-- The calls of `time.Now` in a rotation. -/
def Spans (answers : RotationAnswers) (first last : ℤ) : Prop :=
  first ≤ answers.now ∧ answers.now ≤ answers.failedAt ∧ answers.failedAt ≤ last

/-- Which steps other than of an anomaly the rotation loop may take. -/
def MayTake (cancelled : Bool) (first last : ℤ) : RotationLabel → Prop
  | .initial answers | .tick answers => Spans answers first last
  | .anomaly .. => False
  | .shutdown => cancelled = true ∧ first ≤ last

/-- The process runs: `main` has not returned, and no goroutine has panicked. -/
structure Daemon.Running (d : Daemon) : Prop where
  main : d.main ≠ .returned
  rotation : d.rotation.loop ≠ .panicked

inductive DaemonStep : Daemon → DaemonLabel → Daemon → Prop
  | rotation {d : Daemon} {label : RotationLabel} {next : RotationLoop} {last : ℤ}
      (running : d.Running) (may : MayTake d.cancelled d.clock last label)
      (step : RotationStep d.rotation label next) :
      DaemonStep d (.rotation label last) { d with rotation := next, clock := last }
  | anomaly {d : Daemon} {anomaly : Anomaly} {anomalies : Chan Anomaly} {next : RotationLoop}
      {now blacklistedAt : ℤ} {answers : RotationAnswers} (running : d.Running)
      (taken : d.anomalies.poll = some (anomaly, anomalies)) (later : d.clock ≤ now)
      (few : (cleanUp d.rotation.recentAnomalies anomaly.toEvent now).length < 3)
      (step : RotationStep d.rotation (.anomaly anomaly.toEvent now blacklistedAt answers) next) :
      DaemonStep d (.anomaly anomaly now)
        { d with rotation := next, clock := now, anomalies, received := d.received ++ [anomaly] }
  | emergency {d : Daemon} {anomaly : Anomaly} {anomalies : Chan Anomaly} {next : RotationLoop}
      {now blacklistedAt last : ℤ} {answers : RotationAnswers} (running : d.Running)
      (taken : d.anomalies.poll = some (anomaly, anomalies)) (later : d.clock ≤ now)
      (after : now ≤ blacklistedAt) (spans : Spans answers blacklistedAt last)
      (burst : 3 ≤ (cleanUp d.rotation.recentAnomalies anomaly.toEvent now).length)
      (step : RotationStep d.rotation (.anomaly anomaly.toEvent now blacklistedAt answers) next) :
      DaemonStep d (.emergency anomaly now blacklistedAt answers last)
        { d with rotation := next, clock := last, anomalies, received := d.received ++ [anomaly] }
  | tick {d : Daemon} (running : d.Running) (selects : d.main = .selecting) :
      DaemonStep d .tick { d with main := .checking .passive }
  | finds {d : Daemon} {check : Check} (now : ℤ) (running : d.Running)
      (checks : d.main = .checking check) :
      DaemonStep d (.check true now)
        { d with main := .sending (check.anomaly now) (check.next true) }
  | passes {d : Daemon} {check : Check} (now : ℤ) (running : d.Running)
      (checks : d.main = .checking check) :
      DaemonStep d (.check false now) { d with main := .resume (check.next false) }
  | send {d : Daemon} {anomaly : Anomaly} {next : Option Check} {anomalies : Chan Anomaly}
      (running : d.Running) (sends : d.main = .sending anomaly next)
      (taken : d.anomalies.offer anomaly = .sent anomalies) :
      DaemonStep d .send
        { d with main := .resume next, anomalies, sent := d.sent ++ [anomaly] }
  | signal {d : Daemon} (running : d.Running) : DaemonStep d .signal { d with cancelled := true }
  | returns {d : Daemon} (running : d.Running) (selects : d.main = .selecting)
      (cancelled : d.cancelled = true) : DaemonStep d .returns { d with main := .returned }

/-- The daemon as it starts. -/
def Daemon.start (generator : ConfigGenerator) (sing : SingState) (clock : ℤ) : Daemon where
  rotation := .start generator sing
  clock

/-- The call of `Rotate` in a step, with the manager as the call finds it. -/
def Daemon.call (d : Daemon) : DaemonLabel → Option (RotationManager × RotationAnswers)
  | .rotation (.initial answers) _ | .rotation (.tick answers) _ => some (d.rotation.manager, answers)
  | .emergency _ _ blacklistedAt answers _ =>
      some (d.rotation.manager.blacklistCurrent blacklistedAt, answers)
  | _ => none

/-- A step that puts a profile on the blacklist. -/
inductive Bans (d : Daemon) : DaemonLabel → GoString → ℤ → Prop
  | emergency {anomaly : Anomaly} {now blacklistedAt last : ℤ} {answers : RotationAnswers} :
      Bans d (.emergency anomaly now blacklistedAt answers last) d.rotation.manager.currentProfile.id
        (blacklistedAt + 60 * minute)
  | reload {label : DaemonLabel} {rm chosen : RotationManager} {answers : RotationAnswers}
      (calls : d.call label = some (rm, answers)) (chooses : rm.choose answers = some chosen)
      (fails : reloadFails chosen answers = true) :
      Bans d label chosen.currentProfile.id (answers.failedAt + 30 * minute)

/-! ## Quarantine -/

/-- A profile is kept off until a deadline. -/
def Banned (id : GoString) (deadline : ℤ) (d : Daemon) : Prop :=
  deadline ≤ d.clock ∨ deadline ≤ d.clock + 60 * minute ∧
    ∃ expiry, deadline ≤ expiry ∧ d.rotation.manager.blacklist.find? id = some expiry

section

variable {d next : Daemon} {label : DaemonLabel} {id : GoString} {deadline : ℤ}

/-- A step that makes a call of `Rotate` ends with what the call leaves, some time later. -/
theorem step_call (step : DaemonStep d label next) {rm : RotationManager} {answers : RotationAnswers}
    (calls : d.call label = some (rm, answers)) :
    next.rotation.manager = rm.rotate answers ∧ Spans answers d.clock next.clock := by
  cases step with
  | rotation running may step =>
    cases step with
    | initial answers =>
      cases calls
      exact ⟨rfl, may⟩
    | tick answers =>
      cases calls
      exact ⟨rfl, may⟩
    | anomaly | emergency => cases may
    | shutdown => cases calls
  | emergency running taken later after spans burst step =>
    cases calls
    refine ⟨?_, ?_⟩
    · apply call_manager step
      exact if_pos burst
    · exact ⟨later.trans (after.trans spans.1), spans.2⟩
  | _ => cases calls

/-- A step that makes no call leaves the blacklist as it is. -/
theorem step_idle (step : DaemonStep d label next) (idle : d.call label = none) :
    next.rotation.manager = d.rotation.manager ∧ d.clock ≤ next.clock := by
  cases step with
  | rotation running may step =>
    cases step with
    | initial | tick => cases idle
    | anomaly | emergency => cases may
    | shutdown => exact ⟨rfl, may.2⟩
  | anomaly running taken later few step =>
    cases step with
    | anomaly => exact ⟨rfl, later⟩
    | emergency _ _ _ _ _ burst => exact absurd burst (not_le.mpr few)
  | emergency => cases idle
  | _ => exact ⟨rfl, le_rfl⟩

/-- A call of `Rotate` still finds on the blacklist who was there when the step began. -/
theorem call_listed (step : DaemonStep d label next) {rm : RotationManager}
    {answers : RotationAnswers} (calls : d.call label = some (rm, answers)) {expiry : ℤ}
    (near : deadline ≤ d.clock + 60 * minute) (far : deadline ≤ expiry)
    (listed : d.rotation.manager.blacklist.find? id = some expiry) :
    ∃ later, deadline ≤ later ∧ rm.blacklist.find? id = some later := by
  cases step with
  | rotation running may step =>
    cases step with
    | initial | tick =>
      cases calls
      exact ⟨expiry, far, listed⟩
    | anomaly | emergency => cases may
    | shutdown => cases calls
  | @emergency _ _ _ _ blacklistedAt _ answers running taken later after spans burst step =>
    cases calls
    rw [RotationManager.blacklistCurrent, Map.find?_insert]
    split_ifs with current
    · exact ⟨_, by omega, rfl⟩
    · exact ⟨expiry, far, listed⟩
  | _ => cases calls

/-- Every step keeps off who is kept off. -/
theorem banned_step (step : DaemonStep d label next) (banned : Banned id deadline d) :
    Banned id deadline next := by
  cases called : d.call label with
  | none =>
    obtain ⟨same, later⟩ := step_idle step called
    rw [Banned, same]
    obtain late | ⟨near, listed⟩ := banned
    · exact .inl (late.trans later)
    · exact .inr ⟨by omega, listed⟩
  | some call =>
    obtain ⟨rm, answers⟩ := call
    obtain ⟨rotated, first, within, last⟩ := step_call step called
    by_cases late : deadline ≤ next.clock
    · exact .inl late
    · obtain early | ⟨near, expiry, far, listed⟩ := banned
      · omega
      · obtain ⟨later, farther, found⟩ := call_listed step called near far listed
        refine .inr ⟨by omega, later, farther, ?_⟩
        rw [rotated]
        exact listed_rotate found (by omega)

/-- Who is kept off is not chosen before the deadline. -/
theorem banned_choose (step : DaemonStep d label next) (banned : Banned id deadline d)
    {rm chosen : RotationManager} {answers : RotationAnswers}
    (calls : d.call label = some (rm, answers)) (chooses : rm.choose answers = some chosen)
    (same : chosen.currentProfile.id = id) : deadline ≤ answers.now := by
  obtain ⟨-, first, -⟩ := step_call step calls
  obtain late | ⟨near, expiry, far, listed⟩ := banned
  · exact late.trans first
  · obtain ⟨later, farther, found⟩ := call_listed step calls near far listed
    exact farther.trans (choose_late chooses (same ▸ found))

/-- Who is put on the blacklist is kept off. -/
theorem banned_of_bans (step : DaemonStep d label next) (bans : Bans d label id deadline) :
    Banned id deadline next := by
  cases bans with
  | @emergency anomaly now blacklistedAt last answers =>
    obtain ⟨rotated, -, within, before⟩ := step_call step rfl
    have after : blacklistedAt ≤ answers.now := by
      cases step with
      | emergency _ _ _ _ spans => exact spans.1
    by_cases late : blacklistedAt + 60 * minute ≤ answers.now
    · exact .inl (by omega)
    · refine .inr ⟨by omega, _, le_rfl, ?_⟩
      rw [rotated]
      apply listed_rotate
      · exact (Map.find?_insert ..).trans (if_pos rfl)
      · exact not_le.mp late
  | @reload _ rm chosen answers calls chooses fails =>
    obtain ⟨rotated, -, -, before⟩ := step_call step calls
    refine .inr ⟨?_, _, le_rfl, ?_⟩
    · have positive : 0 ≤ minute := by decide
      omega
    · obtain ⟨idle, -⟩ | ⟨other, again, applied⟩ := rotate_eq rm answers
      · cases idle.symm.trans chooses
      · cases chooses.symm.trans again
        rw [rotated, applied]
        exact apply_reloadFails fails

end

/-! ## What an emergency takes -/

def DaemonLabel.isEmergency : DaemonLabel → Bool
  | .emergency .. => true
  | _ => false

def DaemonLabel.isTick : DaemonLabel → Bool
  | .tick => true
  | _ => false

/-- The event that the rotation loop takes without rotating. -/
def DaemonLabel.event : DaemonLabel → Option Event
  | .anomaly taken _ => some taken.toEvent
  | _ => none

/-- An event is less than a minute old. -/
def fresh (now : ℤ) (event : Event) : Bool := now - minute < event.timestamp

/-- The rotation loop takes an event that is less than a minute old at a time. -/
def DaemonLabel.isFresh (now : ℤ) (label : DaemonLabel) : Bool :=
  (label.event.map (fresh now)).getD false

section

variable {labels : List DaemonLabel} {d next : Daemon} {label : DaemonLabel}

/-- What was sent is what was received and then what is in the channel, which has a hundred places. -/
structure Queued (d : Daemon) : Prop where
  capacity : d.anomalies.capacity = 100
  order : d.sent = d.received ++ d.anomalies.buffer

theorem Queued.take {anomaly : Anomaly} {anomalies : Chan Anomaly} (queued : Queued d)
    (taken : d.anomalies.poll = some (anomaly, anomalies)) :
    anomalies.capacity = 100 ∧ d.sent = d.received ++ [anomaly] ++ anomalies.buffer := by
  obtain ⟨buffer, capacity, -⟩ := Chan.poll_some taken
  refine ⟨capacity.trans queued.capacity, ?_⟩
  rw [queued.order, buffer, List.append_assoc, List.singleton_append]

/-- Sending and receiving keep the order and the capacity of the channel. -/
theorem queued_step (queued : Queued d) (step : DaemonStep d label next) : Queued next := by
  cases step with
  | anomaly running taken => exact ⟨(queued.take taken).1, (queued.take taken).2⟩
  | emergency running taken => exact ⟨(queued.take taken).1, (queued.take taken).2⟩
  | send running sends taken =>
    obtain ⟨buffer, capacity, -, -⟩ := Chan.offer_sent taken
    refine ⟨capacity.trans queued.capacity, ?_⟩
    change d.sent ++ _ = d.received ++ _
    rw [queued.order, buffer, List.append_assoc]
  | _ => exact ⟨queued.capacity, queued.order⟩

/-- The rotation loop remembers two events at most, all taken since the last emergency. -/
structure Remembers (labels : List DaemonLabel) (d : Daemon) : Prop where
  few : d.rotation.recentAnomalies.length ≤ 2
  since : ∃ older recent, labels = older ++ recent ∧ (∀ label ∈ recent, label.isEmergency = false) ∧
    d.rotation.recentAnomalies.Sublist (recent.filterMap DaemonLabel.event)

/-- A step without an event keeps what is remembered. -/
theorem Remembers.idle (remembers : Remembers labels d) (calm : label.isEmergency = false)
    (none : label.event = none)
    (same : next.rotation.recentAnomalies = d.rotation.recentAnomalies) :
    Remembers (labels ++ [label]) next := by
  obtain ⟨older, recent, rfl, calms, sublist⟩ := remembers.since
  refine ⟨same ▸ remembers.few, older, recent ++ [label], List.append_assoc .., ?_, ?_⟩
  · exact List.forall_mem_append.mpr ⟨calms, List.forall_mem_singleton.mpr calm⟩
  · simpa [none, same] using sublist

/-- Without an anomaly the loop keeps the ones that it has. -/
theorem rotation_recent {r next : RotationLoop} {label : RotationLabel} {cancelled : Bool}
    {first last : ℤ} (step : RotationStep r label next) (may : MayTake cancelled first last label) :
    next.recentAnomalies = r.recentAnomalies := by
  cases step with
  | anomaly | emergency => cases may
  | _ => rfl

/-- A step remembers an event, or forgets them all at an emergency. -/
theorem remembers_step (remembers : Remembers labels d) (step : DaemonStep d label next) :
    Remembers (labels ++ [label]) next := by
  cases step with
  | rotation running may step => exact remembers.idle rfl rfl (rotation_recent step may)
  | anomaly running taken later few step =>
    cases step with
    | emergency _ _ _ _ _ burst => exact absurd burst (not_le.mpr few)
    | anomaly =>
      obtain ⟨older, recent, rfl, calms, sublist⟩ := remembers.since
      refine ⟨Nat.le_of_lt_succ few, older, recent ++ [_], List.append_assoc .., ?_, ?_⟩
      · exact List.forall_mem_append.mpr ⟨calms, List.forall_mem_singleton.mpr rfl⟩
      · rw [List.filterMap_append]
        exact List.filter_sublist.trans (sublist.append (.refl _))
  | emergency running taken later after spans burst step =>
    cases step with
    | anomaly _ _ _ _ _ few => exact absurd burst (not_le.mpr few)
    | emergency =>
      refine ⟨Nat.zero_le _, labels ++ [_], [], (List.append_nil _).symm, ?_, .refl _⟩
      simp
  | _ => exact remembers.idle rfl rfl rfl

/-- An emergency is the third event since the last one, all of them less than a minute old. -/
theorem Remembers.warned (remembers : Remembers labels d) {event : Event} {now : ℤ}
    (burst : 3 ≤ (cleanUp d.rotation.recentAnomalies event now).length) :
    fresh now event = true ∧
      Streak (DaemonLabel.isFresh now) DaemonLabel.isEmergency 2 labels := by
  obtain ⟨older, recent, rfl, calms, sublist⟩ := remembers.since
  have few := remembers.few
  have counted : (cleanUp d.rotation.recentAnomalies event now).length =
      d.rotation.recentAnomalies.countP (fresh now) + if fresh now event then 1 else 0 := by
    rw [cleanUp, ← List.countP_eq_length_filter, List.countP_append, List.countP_singleton]
    rfl
  have remembered := List.countP_le_length (p := fresh now) (l := d.rotation.recentAnomalies)
  have own : fresh now event = true := by
    by_contra stale
    rw [if_neg stale] at counted
    omega
  refine ⟨own, older, recent, rfl, ?_, calms⟩
  rw [if_pos own] at counted
  have all := sublist.countP_le (p := fresh now)
  rw [List.countP_filterMap] at all
  change 2 ≤ recent.countP fun label => (label.event.map (fresh now)).getD false
  omega

/-- How many events the main loop may still send in the suite. -/
def MainLoop.left : MainLoop → ℕ
  | .selecting | .returned => 0
  | .checking check => Check.left (some check)
  | .sending _ next => Check.left next + 1

@[simp] theorem left_checking (check : Check) :
    (MainLoop.checking check).left = Check.left (some check) := rfl

@[simp] theorem left_sending (anomaly : Anomaly) (next : Option Check) :
    (MainLoop.sending anomaly next).left = Check.left next + 1 := rfl

@[simp] theorem left_resume (next : Option Check) : (MainLoop.resume next).left = Check.left next := by
  cases next <;> rfl

theorem left_next (check : Check) : Check.left (check.next false) ≤ Check.left (some check) ∧
    Check.left (check.next true) + 1 ≤ Check.left (some check) := by
  cases check <;> decide

theorem cleanUp_length_le (recent : List Event) (event : Event) (now : ℤ) :
    (cleanUp recent event now).length ≤ recent.length + 1 := by
  have kept := List.length_filter_le (fun e => decide (now - minute < e.timestamp)) (recent ++ [event])
  rwa [List.length_append, List.length_singleton] at kept

/-- The events that may still be part of an emergency. -/
def Daemon.pending (d : Daemon) : ℕ :=
  d.rotation.recentAnomalies.length + d.anomalies.buffer.length + d.main.left

/-- A suite sends three events at most, and an emergency takes three. -/
theorem pending_step (step : DaemonStep d label next) :
    next.pending + (if label.isEmergency then 3 else 0) ≤
      d.pending + if label.isTick then 3 else 0 := by
  simp only [Daemon.pending]
  cases step with
  | rotation running may step =>
    rw [rotation_recent step may]
    rfl
  | @anomaly event _ _ now _ _ running taken later few step =>
    obtain ⟨buffer, -, -⟩ := Chan.poll_some taken
    cases step with
    | emergency _ _ _ _ _ burst => exact absurd burst (not_le.mpr few)
    | anomaly =>
      have kept := cleanUp_length_le d.rotation.recentAnomalies event.toEvent now
      simp only [buffer, List.length_cons, DaemonLabel.isEmergency, DaemonLabel.isTick,
        Bool.false_eq_true, if_false]
      omega
  | emergency running taken later after spans burst step =>
    obtain ⟨buffer, -, -⟩ := Chan.poll_some taken
    cases step with
    | anomaly _ _ _ _ _ few => exact absurd burst (not_le.mpr few)
    | emergency =>
      have three := burst.trans (cleanUp_length_le ..)
      simp only [RotationLoop.reset, List.length_nil, buffer, List.length_cons,
        DaemonLabel.isEmergency, DaemonLabel.isTick, Bool.false_eq_true, if_true, if_false]
      omega
  | tick running selects =>
    rw [selects]
    rfl
  | @finds check now running checks =>
    have left := (left_next check).2
    simp only [checks, left_checking, left_sending, DaemonLabel.isEmergency, DaemonLabel.isTick,
      Bool.false_eq_true, if_false]
    omega
  | @passes check now running checks =>
    have left := (left_next check).1
    simp only [checks, left_checking, left_resume, DaemonLabel.isEmergency, DaemonLabel.isTick,
      Bool.false_eq_true, if_false]
    omega
  | send running sends taken =>
    obtain ⟨buffer, -, -, -⟩ := Chan.offer_sent taken
    simp only [sends, left_sending, left_resume, buffer, List.length_append, List.length_singleton,
      DaemonLabel.isEmergency, DaemonLabel.isTick, Bool.false_eq_true, if_false]
    omega
  | signal => rfl
  | returns running selects =>
    rw [selects]
    rfl

/-- Every emergency is paid for by a suite. -/
def Paid (labels : List DaemonLabel) (d : Daemon) : Prop :=
  3 * labels.countP DaemonLabel.isEmergency + d.pending ≤ 3 * labels.countP DaemonLabel.isTick

/-- A suite pays for the emergencies that its events may cause. -/
theorem paid_step (paid : Paid labels d) (step : DaemonStep d label next) :
    Paid (labels ++ [label]) next := by
  have pays := pending_step step
  rw [Paid, List.countP_append, List.countP_append, List.countP_singleton, List.countP_singleton]
  rw [Paid] at paid
  split_ifs at pays ⊢ <;> omega

end

/-- In every run of the daemon, the rotation loop takes what the suites have sent, in order; there are no more
emergencies than suites, each on three events of the last minute that no other has taken; and whom the
daemon rotates away from, or sing-box refuses, is not chosen again for an hour or half an hour. -/
theorem daemon_quarantines (generator : ConfigGenerator) (sing : SingState) (clock : ℤ)
    {labels : List DaemonLabel} {d : Daemon}
    (run : Run DaemonStep (.start generator sing clock) labels d) :
    (d.sent = d.received ++ d.anomalies.buffer ∧ d.anomalies.buffer.length ≤ 100) ∧
    labels.countP DaemonLabel.isEmergency ≤ labels.countP DaemonLabel.isTick ∧
    (∀ anomaly now blacklistedAt answers last next,
      DaemonStep d (.emergency anomaly now blacklistedAt answers last) next →
        (fresh now anomaly.toEvent = true ∧
          Streak (DaemonLabel.isFresh now) DaemonLabel.isEmergency 2 labels) ∧
        ∀ chosen, (d.rotation.manager.blacklistCurrent blacklistedAt).choose answers = some chosen →
          chosen.currentProfile.id = d.rotation.manager.currentProfile.id →
            blacklistedAt + 60 * minute ≤ answers.now) ∧
    ∀ label next id deadline, DaemonStep d label next → Bans d label id deadline →
      ∀ later last, Run DaemonStep next later last → ∀ rotation after, DaemonStep last rotation after →
        ∀ rm answers chosen, last.call rotation = some (rm, answers) → rm.choose answers = some chosen →
          chosen.currentProfile.id = id → deadline ≤ answers.now := by
  have queued : Queued d :=
    run.invariant ⟨rfl, rfl⟩ fun _ _ _ _ queued step => queued_step queued step
  have remembers : Remembers labels d := by
    refine run.history ⟨Nat.zero_le _, [], [], rfl, by simp, .refl _⟩ ?_
    intro past state label next remembers step
    exact remembers_step remembers step
  have paid : Paid labels d := by
    refine run.history (le_refl 0) ?_
    intro past state label next paid step
    exact paid_step paid step
  refine ⟨⟨queued.order, ?_⟩, ?_, ?_, ?_⟩
  · rw [← queued.capacity]
    exact d.anomalies.fits
  · rw [Paid] at paid
    omega
  · intro anomaly now blacklistedAt answers last next step
    refine ⟨?_, ?_⟩
    · cases step with
      | emergency _ _ _ _ _ burst => exact remembers.warned burst
    · rintro chosen chooses same
      apply choose_late chooses
      rw [same]
      exact (Map.find?_insert ..).trans (if_pos rfl)
  · intro label next id deadline step bans later last rest rotation after made rm answers chosen calls
      chooses same
    have banned : Banned id deadline last :=
      rest.invariant (banned_of_bans step bans) fun _ _ _ _ banned step => banned_step step banned
    exact banned_choose made banned calls chooses same

/-- A suite that finds throttling, a blocked name and blocked datagrams. -/
def badSuite : List DaemonLabel :=
  [.rotation (.initial strandedAnswers) 0, .tick, .check true 10, .send, .check false 11, .check true 12,
    .send, .check true 13, .send, .anomaly (Check.passive.anomaly 10) 20,
    .anomaly (Check.sni.anomaly 12) 20,
    .emergency (Check.udp.anomaly 13) 20 20 { strandedAnswers with now := 20, failedAt := 20 } 20]

/-- One suite is enough for an emergency. -/
theorem badSuite_counted :
    ∃ d, Run DaemonStep
        (.start ⟨profileEngine fun _ _ => .error .parse, lit "templates"⟩ ⟨⟨[], none⟩, none, none⟩ 0)
        badSuite d ∧
      d.sent = d.received ++ d.anomalies.buffer ∧
      badSuite.countP DaemonLabel.isEmergency ≤ badSuite.countP DaemonLabel.isTick := by
  have run : ∃ d, Run DaemonStep
      (.start ⟨profileEngine fun _ _ => .error .parse, lit "templates"⟩ ⟨⟨[], none⟩, none, none⟩ 0)
      badSuite d := by
    exact ⟨_,
      .cons (.rotation ⟨by decide, by decide⟩ ⟨by decide, by decide, by decide⟩ (.initial _ rfl)) <|
      .cons (.tick ⟨by decide, by decide⟩ rfl) <|
      .cons (.finds _ ⟨by decide, by decide⟩ rfl) <| .cons (.send ⟨by decide, by decide⟩ rfl rfl) <|
      .cons (.passes _ ⟨by decide, by decide⟩ rfl) <|
      .cons (.finds _ ⟨by decide, by decide⟩ rfl) <| .cons (.send ⟨by decide, by decide⟩ rfl rfl) <|
      .cons (.finds _ ⟨by decide, by decide⟩ rfl) <| .cons (.send ⟨by decide, by decide⟩ rfl rfl) <|
      .cons (.anomaly ⟨by decide, by decide⟩ rfl (by decide) (by decide)
        (.anomaly _ _ 0 strandedAnswers rfl (by decide))) <|
      .cons (.anomaly ⟨by decide, by decide⟩ rfl (by decide) (by decide)
        (.anomaly _ _ 0 strandedAnswers rfl (by decide))) <|
      .cons (.emergency ⟨by decide, by decide⟩ rfl (by decide) (by decide)
        ⟨by decide, by decide, by decide⟩ (by decide) (.emergency _ _ _ _ rfl (by decide))) <|
      .nil _⟩
  obtain ⟨d, run⟩ := run
  have counted := daemon_quarantines _ _ _ run
  exact ⟨d, run, counted.1.1, counted.2.1⟩

end ShadowNet.Inside
