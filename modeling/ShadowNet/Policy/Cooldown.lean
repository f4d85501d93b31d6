import ShadowNet.Go.Int64
import ShadowNet.Policy.AdaptiveStore
import ShadowNet.Policy.Engine

/-! # The cooldown of failed profiles

A failed attempt puts an entry into the cooldown map, and only `Reset` takes entries out. Later
failures move the entry forward as long as the clock does; a restart brings it back if JSON keeps its
key. Both rankings of `AdaptiveState.SelectProfile` pass over a profile with such an entry.
-/

namespace ShadowNet

open Go

/-- What an adaptive state goes through without `Reset`; a restart saves it and loads it again. -/
inductive AdaptiveOp where
  | recordAttempt (profileID : GoString) (signal : AttemptSignal) (failure : GoString) (now : Int64)
  | recordSelection (profileID : GoString)
  | setEnabled (enabled : Bool)
  | selectProfile (profiles : List Profile) (now : Int64)
  | restart (nonce : Nonce)

def AdaptiveOp.time? : AdaptiveOp → Option Int64
  | .recordAttempt _ _ _ now => some now
  | .selectProfile _ now => some now
  | _ => none

def AdaptiveOp.attempted? : AdaptiveOp → Option GoString
  | .recordAttempt profileID _ _ _ => some profileID
  | _ => none

def AdaptiveState.apply (aead : Aead) (s : AdaptiveState) : AdaptiveOp → AdaptiveState
  | .recordAttempt profileID signal failure now => s.recordAttempt profileID signal failure now
  | .recordSelection profileID => s.recordSelection profileID
  | .setEnabled enabled => s.setEnabled enabled
  | .selectProfile _ _ => s.ensureDefaults
  | .restart nonce =>
      match AdaptiveStore.load aead (some (AdaptiveStore.save aead nonce s)) with
      | .ok loaded => loaded
      | .error _ => s

def AdaptiveState.run (aead : Aead) (s : AdaptiveState) (ops : List AdaptiveOp) : AdaptiveState :=
  ops.foldl (AdaptiveState.apply aead) s

/-! ## Who is ranked -/

variable {aead : Aead} {s : AdaptiveState} {id : GoString} {profiles : List Profile} {now : Int64}

/-- A candidate is a usable profile that does not cool down. -/
theorem candidate_of {candidate : Ranked} (member : candidate ∈ s.candidates profiles now) :
    ∃ p ∈ profiles, p.usable now = true ∧ s.cooling p.id now = false ∧
      candidate.profile.id = p.id := by
  unfold AdaptiveState.candidates at member
  dsimp only at member
  split_ifs at member with unfiltered
  · obtain ⟨p, kept, rfl⟩ := List.mem_map.mp member
    obtain ⟨inside, passed⟩ := List.mem_filter.mp kept
    rw [Bool.and_eq_true, Bool.not_eq_true'] at passed
    exact ⟨p, inside, passed.1, passed.2, rfl⟩
  · obtain ⟨p, kept, rfl⟩ := List.mem_map.mp member
    obtain ⟨inside, passed⟩ := List.mem_filter.mp kept
    rw [Bool.and_eq_true, Bool.and_eq_true, Bool.not_eq_true'] at passed
    exact ⟨p, inside, passed.1.1, passed.1.2, trusted_id p⟩

/-- Without candidates every usable profile is in cooldown. -/
theorem cooling_of_no_candidates (none : s.candidates profiles now = []) {p : Profile}
    (member : p ∈ profiles) (usable : p.usable now = true) : s.cooling p.id now = true := by
  have unfiltered : s.scoreUnfiltered profiles now = [] := by
    unfold AdaptiveState.candidates at none
    dsimp only at none
    split_ifs at none with empty
    · exact none
    · exact absurd none empty
  by_contra warm
  have kept : p ∈ profiles.filter fun p => p.usable now && !s.cooling p.id now := by
    rw [List.mem_filter, usable, Bool.eq_false_iff.mpr warm]
    exact ⟨member, rfl⟩
  rw [List.map_eq_nil_iff.mp unfiltered] at kept
  cases kept

/-- No ranked profile is in cooldown. -/
theorem ranked_not_cooling {sorter : SliceSort} {ranked : Ranked}
    (member : ranked ∈ (s.selectProfile sorter profiles now).1) :
    s.cooling ranked.profile.id now = false := by
  cases enabled : s.enabled with
  | false =>
    rw [selectProfile_disabled enabled] at member
    cases member
  | true =>
    rw [(selectProfile_enabled enabled sorter profiles now).1] at member
    obtain ⟨p, -, -, cool, same⟩ := candidate_of ((sorter.perm _ _).mem_iff.mp member)
    rw [same, cool]

/-- A profile in cooldown is not ranked, and the engine returns it only where all others that may be
used are in cooldown too. -/
def StaysOut (sorter : SliceSort) (s : AdaptiveState) (id : GoString) (profiles : List Profile)
    (clock : Clock) : Prop :=
  (∀ ranked ∈ (s.selectProfile sorter profiles clock.adaptive).1, ranked.profile.id ≠ id) ∧
    ((Engine.selectProfile ⟨some s⟩ sorter profiles clock).1.id = id →
      ∀ p ∈ profiles, p.usable clock.adaptive = true → s.cooling p.id clock.adaptive = true)

/-- A profile that cools down stays out. -/
theorem staysOut_of_cooling {sorter : SliceSort} {clock : Clock} (enabled : s.enabled = true)
    (cooling : s.cooling id clock.adaptive = true) : StaysOut sorter s id profiles clock := by
  have out : ∀ ranked ∈ (s.selectProfile sorter profiles clock.adaptive).1,
      ranked.profile.id ≠ id := by
    rintro ranked member rfl
    rw [ranked_not_cooling member] at cooling
    cases cooling
  refine ⟨out, fun returned p member usable => ?_⟩
  apply cooling_of_no_candidates _ member usable
  by_contra some
  unfold Engine.selectProfile at returned
  simp only [enabled, if_true] at returned
  have ranking := (selectProfile_enabled enabled sorter profiles clock.adaptive).1
  generalize s.selectProfile sorter profiles clock.adaptive = result at out returned ranking
  obtain ⟨ranked, decision⟩ := result
  cases ranked with
  | nil =>
    apply some
    have permuted := sorter.perm (fun first second => first.score > second.score)
      (s.candidates profiles clock.adaptive)
    change [] = sorter.sort _ _ at ranking
    rw [← ranking] at permuted
    exact permuted.symm.eq_nil
  | cons first rest => exact out first (List.mem_cons_self ..) returned

/-! ## Entries stay -/

/-- The entry of a profile is not before `bound`. -/
def Held (id : GoString) (bound : ℤ) (s : AdaptiveState) : Prop :=
  ∃ until', s.cooldown.find? id = some until' ∧ bound ≤ until'.toInt

/-- No other key is written like this one. -/
def Alone (id : GoString) (s : AdaptiveState) : Prop :=
  ∀ key, toValid key = id → key ≠ id → s.cooldown.find? key = none

theorem cooling_of_held {bound : ℤ} (held : Held id bound s) (early : now.toInt < bound) :
    s.cooling id now = true := by
  obtain ⟨until', found, late⟩ := held
  rw [AdaptiveState.cooling, found]
  exact decide_eq_true (Int64.lt_iff_toInt_lt.mpr (early.trans_le late))

/-- What an attempt does to the cooldowns. -/
theorem recordAttempt_cooldown (s : AdaptiveState) (profileID : GoString) (signal : AttemptSignal)
    (failure : GoString) (now : Int64) :
    (s.recordAttempt profileID signal failure now).cooldown =
      if s.enabled = true ∧ isBlank profileID = false ∧ signal.connectOK = false then
        s.cooldown.insert profileID (now + adaptiveCooldownSeconds)
      else s.cooldown := by
  unfold AdaptiveState.recordAttempt AdaptiveState.ensureDefaults
  cases s.enabled <;> cases isBlank profileID <;> cases signal.connectOK <;> rfl

theorem apply_restart (nonce : Nonce) : s.apply aead (.restart nonce) = s.reloaded := by
  rw [AdaptiveState.apply, AdaptiveStore.load_save]

theorem apply_cooldown_of_quiet {op : AdaptiveOp} (quiet : op.attempted? = none)
    (runs : ∀ nonce, op ≠ .restart nonce) : (s.apply aead op).cooldown = s.cooldown := by
  cases op with
  | recordAttempt => cases quiet
  | recordSelection profileID =>
    change (s.recordSelection profileID).cooldown = _
    unfold AdaptiveState.recordSelection
    split_ifs <;> rfl
  | setEnabled => rfl
  | selectProfile => rfl
  | restart nonce => exact absurd rfl (runs nonce)

/-- An attempt with a key of its own. -/
def AdaptiveOp.Apart (id : GoString) (op : AdaptiveOp) : Prop :=
  ∀ other, op.attempted? = some other → toValid other = id → other = id

/-- Of keys that are written alike one is read back. -/
theorem alone_reloaded (id : GoString) (s : AdaptiveState) : Alone id s.reloaded := by
  intro key written other
  refine (Map.find?_insertAll_other _ fun entry member same => ?_).trans (Map.find?_empty key)
  obtain ⟨held, -, rfl⟩ := List.mem_map.mp member
  have valid : toValid key = key := by
    rw [← same]
    exact valid_toValid held.1
  exact other (valid.symm.trans written)

/-- Operations on other profiles keep an entry alone. -/
theorem alone_step {op : AdaptiveOp} (alone : Alone id s) (apart : op.Apart id) :
    Alone id (s.apply aead op) := by
  cases op with
  | recordAttempt profileID signal failure now =>
    intro key written other
    change (s.recordAttempt profileID signal failure now).cooldown.find? key = none
    rw [recordAttempt_cooldown]
    split_ifs
    · rw [Map.find?_insert, if_neg]
      · exact alone key written other
      · rintro rfl
        exact other (apart profileID rfl written)
    · exact alone key written other
  | restart nonce =>
    rw [apply_restart]
    exact alone_reloaded id s
  | _ =>
    intro key written other
    rw [apply_cooldown_of_quiet rfl (by simp)]
    exact alone key written other

/-- A restart keeps the entry of a UTF-8 key that no other key is written like. -/
theorem held_reloaded {bound : ℤ} (valid : Valid id) (alone : Alone id s)
    (held : Held id bound s) : Held id bound s.reloaded := by
  obtain ⟨until', found, late⟩ := held
  refine ⟨until', Map.find?_insertAll_agree _ (.inl ?_) fun entry member same => ?_, late⟩
  · have name : toValid id = id := valid
    exact List.mem_map.mpr ⟨(id, until'), (s.cooldown.find?_eq_some).mp found, by rw [name]⟩
  · obtain ⟨own, inside, rfl⟩ := List.mem_map.mp member
    have present := (s.cooldown.find?_eq_some).mpr inside
    by_cases key : own.1 = id
    · rw [key, found] at present
      exact (Option.some.inj present).symm
    · rw [alone own.1 same key] at present
      cases present

/-- The times of an operation lie between two bounds. -/
def AdaptiveOp.Within (first last : Int64) (op : AdaptiveOp) : Prop :=
  ∀ time, op.time? = some time → first ≤ time ∧ time ≤ last

theorem held_attempt {t last : Int64} (forward : t ≤ now) (recent : now ≤ last)
    (fits : last.toInt + 60 < 2 ^ 63) : t.toInt + 60 ≤ (now + adaptiveCooldownSeconds).toInt := by
  have later := Int64.le_iff_toInt_le.mp forward
  have earlier := Int64.le_iff_toInt_le.mp recent
  have seconds : adaptiveCooldownSeconds.toInt = 60 := rfl
  rw [toInt_add_of_fits (by decide) (by omega), seconds]
  omega

/-- A cooldown outlasts every operation within its time. -/
theorem held_step {t last : Int64} {op : AdaptiveOp} (valid : Valid id) (alone : Alone id s)
    (within : op.Within t last) (fits : last.toInt + 60 < 2 ^ 63)
    (held : Held id (t.toInt + 60) s) : Held id (t.toInt + 60) (s.apply aead op) := by
  cases op with
  | recordAttempt profileID signal failure now =>
    unfold Held
    change ∃ until', (s.recordAttempt profileID signal failure now).cooldown.find? id = some until' ∧ _
    rw [recordAttempt_cooldown]
    split_ifs
    · rw [Map.find?_insert]
      split_ifs
      · obtain ⟨forward, recent⟩ := within now rfl
        exact ⟨_, rfl, held_attempt forward recent fits⟩
      · exact held
    · exact held
  | restart nonce =>
    rw [apply_restart]
    exact held_reloaded valid alone held
  | _ =>
    unfold Held
    rw [apply_cooldown_of_quiet rfl (by simp)]
    exact held

/-- So do operations one after another. -/
theorem alone_run (aead : Aead) {ops : List AdaptiveOp} (apart : ∀ op ∈ ops, op.Apart id) (alone : Alone id s) :
    Alone id (s.run aead ops) := by
  induction ops generalizing s with
  | nil => exact alone
  | cons op rest ih =>
    obtain ⟨own, others⟩ := List.forall_mem_cons.mp apart
    exact ih others (alone_step alone own)

/-- Over a run with a clock that goes forward, the entry stays. -/
theorem held_run (aead : Aead) {t last : Int64} {ops : List AdaptiveOp} (valid : Valid id)
    (apart : ∀ op ∈ ops, op.Apart id) (within : ∀ op ∈ ops, op.Within t last)
    (fits : last.toInt + 60 < 2 ^ 63) (alone : Alone id s) (held : Held id (t.toInt + 60) s) :
    Held id (t.toInt + 60) (s.run aead ops) := by
  induction ops generalizing s with
  | nil => exact held
  | cons op rest ih =>
    obtain ⟨own, others⟩ := List.forall_mem_cons.mp apart
    obtain ⟨first, later⟩ := List.forall_mem_cons.mp within
    exact ih others later (alone_step alone own) (held_step valid alone first fits held)

/-! ## Failed attempts -/

/-- A run in which an attempt fails and less than a minute passes until `now`. -/
structure FailedRun (aead : Aead) (maxEvents : Int64) (before : List AdaptiveOp) (id : GoString)
    (signal : AttemptSignal) (failure : GoString) (t : Int64) (after : List AdaptiveOp)
    (now : Int64) : Prop where
  named : isBlank id = false
  failed : signal.connectOK = false
  recording : ((newAdaptiveState maxEvents).run aead before).enabled = true
  forward : ((before ++ .recordAttempt id signal failure t :: after).filterMap AdaptiveOp.time? ++
    [now]).Pairwise (· ≤ ·)
  recent : now.toInt < t.toInt + 60

/-- The state at the end of such a run. -/
def lastState (aead : Aead) (maxEvents : Int64) (before : List AdaptiveOp) (id : GoString)
    (signal : AttemptSignal) (failure : GoString) (t : Int64) (after : List AdaptiveOp) :
    AdaptiveState :=
  (newAdaptiveState maxEvents).run aead (before ++ .recordAttempt id signal failure t :: after)

/-- A profile that failed stays out for a minute, if its ID is UTF-8 and no other ID is written like
it, and the cooldown does not overflow. -/
theorem failed_stays_out {maxEvents t : Int64} {before after : List AdaptiveOp}
    {signal : AttemptSignal} {failure : GoString} {clock : Clock}
    (run : FailedRun aead maxEvents before id signal failure t after clock.adaptive)
    (valid : Valid id) (apart : ∀ op ∈ before ++ after, op.Apart id)
    (fits : clock.adaptive.toInt + 60 < 2 ^ 63) (sorter : SliceSort)
    (enabled : (lastState aead maxEvents before id signal failure t after).enabled = true) :
    StaysOut sorter (lastState aead maxEvents before id signal failure t after) id profiles
      clock := by
  obtain ⟨earlier, later⟩ := List.forall_mem_append.mp apart
  have start : Alone id (newAdaptiveState maxEvents) := fun _ _ _ => rfl
  have alone := alone_run aead earlier start
  have attempt : (AdaptiveOp.recordAttempt id signal failure t).Apart id := by
    rintro other ⟨⟩ -
    rfl
  have timed : AdaptiveOp.time? (.recordAttempt id signal failure t) = some t := rfl
  have forward := run.forward
  rw [List.filterMap_append, List.filterMap_cons_some timed, List.append_assoc] at forward
  obtain ⟨-, whole, -⟩ := List.pairwise_append.mp forward
  rw [List.cons_append, List.pairwise_cons, List.pairwise_append] at whole
  obtain ⟨fromT, -, -, toNow⟩ := whole
  have within : ∀ op ∈ after, op.Within t clock.adaptive := by
    intro op member time own
    have inside := List.mem_filterMap.mpr ⟨op, member, own⟩
    exact ⟨fromT time (List.mem_append_left _ inside),
      toNow time inside _ (List.mem_singleton_self _)⟩
  have held : Held id (t.toInt + 60) (((newAdaptiveState maxEvents).run aead before).apply aead
      (.recordAttempt id signal failure t)) := by
    refine ⟨t + adaptiveCooldownSeconds, ?_, held_attempt (Int64.le_refl t) ?_ fits⟩
    · change (AdaptiveState.recordAttempt _ id signal failure t).cooldown.find? id = _
      rw [recordAttempt_cooldown, if_pos ⟨run.recording, run.named, run.failed⟩, Map.find?_insert,
        if_pos rfl]
    · exact fromT _ (List.mem_append_right _ (List.mem_singleton_self _))
  refine staysOut_of_cooling enabled (cooling_of_held ?_ run.recent)
  have last := held_run aead valid later within fits (alone_step alone attempt) held
  unfold lastState AdaptiveState.run at *
  rw [List.foldl_append]
  exact last

/-- A profile that fails once and succeeds after a restart. -/
theorem failed_stays_out_once :
    StaysOut .stable
      (lastState clearAead 80 [] (lit "p") {} [] 1000
        [.restart zeroNonce, .recordAttempt (lit "p") { connectOK := true } [] 1010])
      (lit "p") [plainProfile (lit "p"), plainProfile (lit "q")] ⟨1059, 1059, 1059⟩ :=
  failed_stays_out
    { named := by decide
      failed := rfl
      recording := rfl
      forward := by decide
      recent := by decide }
    (by decide) (by simp [AdaptiveOp.Apart, AdaptiveOp.attempted?, eq_comm]) (by decide)
    .stable (by decide +kernel)

/-- An ID that is not UTF-8 is lost in a restart, and a cooldown past the last second is none. -/
theorem failed_comes_back :
    (FailedRun clearAead 80 [] [0xFF] {} [] 1000 [.restart zeroNonce] 1001 ∧
      ¬ StaysOut .stable (lastState clearAead 80 [] [0xFF] {} [] 1000 [.restart zeroNonce]) [0xFF]
        [plainProfile [0xFF]] ⟨1001, 1001, 1001⟩) ∧
    FailedRun clearAead 80 [] (lit "p") {} [] 9223372036854775800 [] 9223372036854775801 ∧
      ¬ StaysOut .stable (lastState clearAead 80 [] (lit "p") {} [] 9223372036854775800 [])
        (lit "p") [plainProfile (lit "p")]
        ⟨9223372036854775801, 9223372036854775801, 9223372036854775801⟩ := by
  have back {s : AdaptiveState} {id : GoString} {profiles : List Profile} {clock : Clock}
      (ranked : id ∈ (s.selectProfile .stable profiles clock.adaptive).1.map (·.profile.id)) :
      ¬ StaysOut .stable s id profiles clock := by
    intro out
    obtain ⟨first, member, same⟩ := List.mem_map.mp ranked
    exact out.1 first member same
  refine ⟨⟨?_, back (by decide +kernel)⟩, ?_, back (by decide +kernel)⟩
  · exact ⟨by decide, rfl, rfl, by decide, by decide⟩
  · exact ⟨by decide, rfl, rfl, by decide, by decide⟩

end ShadowNet
