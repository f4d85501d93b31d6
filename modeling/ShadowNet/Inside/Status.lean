import ShadowNet.Inside.Run

/-! # The status that the runtime API tells

A run keeps two records: the state file, and the snapshot that the runtime API hands out. The
snapshot says that the run is connecting once a profile is selected, and that it is connected once a
probe has come back. No other exit from the run says anything, so the two records come apart where
there is no probe, and at every error.
-/

namespace ShadowNet.Inside

open Go Go.Json

variable {run : RunContext}

/-- What is served while the state file says that the run goes on, and after an error. -/
structure StatusAgrees (last : RunState) (error : Option Message) : Prop where
  running : ∀ entry ∈ last.served, entry.1.status = lit "running" →
    entry.2.status = lit "connected" ∧ entry.2.activeProfile = entry.1.selectedProfileID
  failed : error ≠ none →
    last.snapshot.status ≠ lit "connecting" ∧ last.snapshot.status ≠ lit "connected"

/-! ## What one attempt does to the status -/

/-- The template of the profile is found, and a config is written from it. -/
def RunContext.Renders (run : RunContext) (item : Profile × ℕ) : Prop :=
  run.outcome item ≠ .templateMissing ∧ run.outcome item ≠ .renderFails

/-- The run ends with this profile, without an error. -/
def RunContext.Finishes (run : RunContext) (item : Profile × ℕ) : Prop :=
  (run.answers item.2).writesState = true ∧
    if run.opts.renderOnly then run.Renders item
    else if run.opts.validateOnly then
      run.Renders item ∧ (run.answers item.2).check = .accepted
    else run.outcome item = .succeeds

/-- Behind this profile the run goes on to the next one. -/
def RunContext.Continues (run : RunContext) (item : Profile × ℕ) : Prop :=
  run.Connects ∧ run.FallsBack item

/-- What an attempt leaves of the status, by the way in which it ends. -/
inductive StatusAfter (run : RunContext) (s : RunState) (item : Profile × ℕ) :
    Except (RunState × Option Message) RunState → Prop
  | continues {next : RunState} (spare : s.switches < 6) (continues : run.Continues item)
      (switches : next.switches = s.switches + 1)
      (loopGuard : next.loopGuard =
        s.loopGuard.insert item.1.id ((s.loopGuard.find? item.1.id).getD 0 + 1))
      (served : next.served = s.served) (status : next.snapshot.status = s.snapshot.status)
      (lastState : next.lastState.status = lit "failed") : StatusAfter run s item (.ok next)
  | fails {exit : RunState} {message : Message}
      (stuck : s.switches < 6 → ¬ run.Finishes item ∧ ¬ run.Continues item)
      (status : exit.snapshot.status = s.snapshot.status ∨
        exit.snapshot.status = lit "connected")
      (served : ∀ entry ∈ exit.served, entry ∈ s.served ∨ entry.1.status ≠ lit "running") :
      StatusAfter run s item (.error (exit, some message))
  | finishes {exit : RunState} {st : AgentState} {snapshot : RuntimeSnapshot}
      (spare : s.switches < 6) (finishes : run.Finishes item)
      (served : exit.served = s.served ++ [(st, snapshot)])
      (running : st.status = lit "running" ↔ run.Connects)
      (active : snapshot.activeProfile = st.selectedProfileID)
      (status : run.Connects →
        snapshot.status = if run.probeEnabled then lit "connected" else s.snapshot.status) :
      StatusAfter run s item (.error (exit, none))

theorem write_snapshot (s : RunState) (st : AgentState) (writes : Bool) :
    (s.write st writes).snapshot = s.snapshot := by
  cases writes <;> rfl

theorem mem_write_served {s : RunState} {st : AgentState} {writes : Bool}
    {entry : AgentState × RuntimeSnapshot} (member : entry ∈ (s.write st writes).served) :
    entry ∈ s.served ∨ entry.1 = st := by
  cases writes with
  | true =>
    rcases List.mem_append.mp member with old | new
    · exact .inl old
    · exact .inr (congrArg Prod.fst (List.mem_singleton.mp new))
  | false => exact .inl member

theorem RunContext.Finishes.renders {item : Profile × ℕ} (finishes : run.Finishes item) :
    run.Renders item := by
  obtain ⟨-, finishes⟩ := finishes
  split_ifs at finishes
  · exact finishes
  · exact finishes.1
  · rw [RunContext.Renders, finishes]
    decide

theorem RunContext.Continues.renders {item : Profile × ℕ} (continues : run.Continues item) :
    run.Renders item := by
  rcases continues.2 with falls | falls
  · rw [RunContext.Renders, falls]
    decide
  · rw [RunContext.Renders, falls]
    decide

theorem RunContext.Finishes.succeeds {item : Profile × ℕ} (finishes : run.Finishes item)
    (connects : run.Connects) : run.outcome item = .succeeds := by
  obtain ⟨-, finishes⟩ := finishes
  rwa [connects.1, connects.2, if_neg Bool.false_ne_true, if_neg Bool.false_ne_true] at finishes

theorem RunContext.not_continues {item : Profile × ℕ} {outcome : Outcome}
    (same : run.outcome item = outcome)
    (stays : ¬ (outcome = .startFails ∨ outcome = .probeFails)) : ¬ run.Continues item :=
  fun continues => stays (same ▸ continues.2)

theorem RunContext.Continues.not_finishes {item : Profile × ℕ} (continues : run.Continues item) :
    ¬ run.Finishes item :=
  fun finishes => run.not_continues (finishes.succeeds continues.1) (by decide) continues

theorem RunContext.not_finishes_unwritten {item : Profile × ℕ}
    (unwritten : (run.answers item.2).writesState = false) : ¬ run.Finishes item :=
  fun finishes => Bool.false_ne_true (unwritten.symm.trans finishes.1)

/-- An attempt that ends the run with an error and writes nothing. -/
theorem StatusAfter.stops {s exit : RunState} {item : Profile × ℕ} {message : Message}
    (unfinished : ¬ run.Finishes item) (last : ¬ run.Continues item)
    (status : exit.snapshot.status = s.snapshot.status) (served : exit.served = s.served) :
    StatusAfter run s item (.error (exit, some message)) := by
  apply StatusAfter.fails (fun _ => ⟨unfinished, last⟩) (.inl status)
  intro entry member
  exact .inl (served ▸ member)

/-- An attempt without a config ends the run with an error. -/
theorem StatusAfter.unrendered {s exit : RunState} {item : Profile × ℕ} {message : Message}
    (unrendered : ¬ run.Renders item) (status : exit.snapshot.status = s.snapshot.status)
    (served : exit.served = s.served) : StatusAfter run s item (.error (exit, some message)) :=
  .stops (fun finishes => unrendered finishes.renders)
    (fun continues => unrendered continues.renders) status served

theorem rendered_status {s s' : RunState} {item : Profile × ℕ} (spare : s.switches < 6)
    (renderOnly : run.opts.renderOnly = true) (renders : run.Renders item)
    (served : s'.served = s.served) (status : s'.snapshot.status = s.snapshot.status)
    (active : s'.snapshot.activeProfile = item.1.id) :
    StatusAfter run s item (.error (run.rendered (run.answers item.2) item.1 s')) := by
  have unconnected : ¬ run.Connects := fun connects => by
    cases renderOnly.symm.trans connects.1
  have last : ¬ run.Continues item := fun continues => unconnected continues.1
  dsimp only [RunContext.rendered]
  cases writes : (run.answers item.2).writesState with
  | true =>
    have finishes : run.Finishes item := ⟨writes, by rwa [if_pos renderOnly]⟩
    exact .finishes spare finishes (congrArg (· ++ _) served)
      (iff_of_false (by decide : lit "rendered" ≠ lit "running") unconnected) active
      fun connects => absurd connects unconnected
  | false => exact .stops (run.not_finishes_unwritten writes) last status served

theorem validated_status {s s' : RunState} {item : Profile × ℕ} (spare : s.switches < 6)
    (renderOnly : run.opts.renderOnly = false) (validateOnly : run.opts.validateOnly = true)
    (renders : run.Renders item) (served : s'.served = s.served)
    (status : s'.snapshot.status = s.snapshot.status)
    (active : s'.snapshot.activeProfile = item.1.id) :
    StatusAfter run s item (.error (run.validated (run.answers item.2) item.1 s')) := by
  have unconnected : ¬ run.Connects := fun connects => by
    cases validateOnly.symm.trans connects.2
  have last : ¬ run.Continues item := fun continues => unconnected continues.1
  have accepted : run.Finishes item ↔
      (run.answers item.2).writesState = true ∧ (run.answers item.2).check = .accepted := by
    rw [RunContext.Finishes, renderOnly, validateOnly, if_neg Bool.false_ne_true, if_pos rfl,
      and_iff_right renders]
  dsimp only [RunContext.validated]
  cases check : (run.answers item.2).check with
  | accepted =>
    dsimp only
    cases writes : (run.answers item.2).writesState with
    | true =>
      exact .finishes spare (accepted.mpr ⟨writes, check⟩) (congrArg (· ++ _) served)
        (iff_of_false (by decide : lit "validated" ≠ lit "running") unconnected) active
        fun connects => absurd connects unconnected
    | false => exact .stops (run.not_finishes_unwritten writes) last status served
  | binaryNotFound =>
    have unfinished : ¬ run.Finishes item := fun finishes => by
      cases check.symm.trans (accepted.mp finishes).2
    apply StatusAfter.fails (fun _ => ⟨unfinished, last⟩)
    · exact .inl ((congrArg _ (write_snapshot ..)).trans status)
    · intro entry member
      rcases mem_write_served member with old | new
      · exact .inl (served ▸ old)
      · exact .inr (new ▸ (by decide : lit "validated" ≠ lit "running"))
  | rejected =>
    have unfinished : ¬ run.Finishes item := fun finishes => by
      cases check.symm.trans (accepted.mp finishes).2
    exact .stops unfinished last status served

theorem observe_served (a : AttemptAnswers) (p : Profile) (s : RunState) :
    (run.observe a p s).served = s.served := by
  unfold RunContext.observe
  split_ifs <;> rfl

theorem observe_active (a : AttemptAnswers) (p : Profile) (s : RunState) :
    (run.observe a p s).snapshot.activeProfile = s.snapshot.activeProfile := by
  unfold RunContext.observe
  split_ifs <;> rfl

/-- The snapshot says that the run is connected once a probe has come back, and only then. -/
theorem observe_status (a : AttemptAnswers) (p : Profile) (s : RunState) :
    (run.observe a p s).snapshot.status =
      if run.probeEnabled ∧ run.probeFails a = false then lit "connected"
      else s.snapshot.status := by
  unfold RunContext.observe
  cases run.probeFails a
  · cases run.probeEnabled <;> rfl
  · cases run.probeEnabled <;> rfl

/-- A profile that connects is shown as running. -/
theorem running_status {s s' : RunState} {item : Profile × ℕ} {pid : Int64}
    (spare : s.switches < 6) (connects : run.Connects) (succeeds : run.outcome item = .succeeds)
    (served : s'.served = s.served)
    (status : s'.snapshot.status = if run.probeEnabled then lit "connected" else s.snapshot.status)
    (active : s'.snapshot.activeProfile = item.1.id) :
    StatusAfter run s item (.error (run.running (run.answers item.2) item.1 pid s')) := by
  unfold RunContext.running
  cases writes : (run.answers item.2).writesState with
  | true =>
    have finishes : run.Finishes item := by
      refine ⟨writes, ?_⟩
      rwa [connects.1, connects.2, if_neg Bool.false_ne_true, if_neg Bool.false_ne_true]
    have ends (exit : RunState) (kept : exit.served = (s'.write
        (run.agentState item.1.id pid (lit "running") (run.probe (run.answers item.2)) s'.attempts
          (run.answers item.2).updatedAt) true).served) :
        StatusAfter run s item (.error (exit, none)) :=
      .finishes spare finishes (kept.trans (congrArg (· ++ _) served)) (iff_of_true rfl connects)
        active fun _ => status
    dsimp only
    rw [if_neg (by decide)]
    split_ifs
    · exact ends _ rfl
    · exact ends _ rfl
  | false =>
    apply StatusAfter.fails
      (fun _ => ⟨run.not_finishes_unwritten writes, run.not_continues succeeds (by decide)⟩)
    · change s'.snapshot.status = _ ∨ s'.snapshot.status = _
      rw [status]
      split_ifs
      · exact .inr rfl
      · exact .inl rfl
    · intro entry member
      exact .inl (served ▸ member)

/-- The status after an attempt, by its outcome. -/
theorem attempt_status {s : RunState} {item : Profile × ℕ} (member : item.1 ∈ run.ordered)
    (guarded : (s.loopGuard.find? item.1.id).getD 0 < run.maxAttempts) :
    StatusAfter run s item (run.attempt s item) := by
  obtain ⟨p, i⟩ := item
  have known : p.id ∈ run.ordered.map (·.id) := List.mem_map_of_mem member
  unfold RunContext.attempt
  dsimp only
  obtain ⟨past, limited⟩ | ⟨spare, counted⟩ := validateAction_switch known guarded
  · rw [limited]
    exact .fails (fun spare => absurd past (by omega)) (.inl rfl) fun _ => .inl
  · rw [counted]
    dsimp only
    cases template : resolveTemplateText p (run.answers i).templates run.opts.templatesDir
        (run.answers i).readFile with
    | error message =>
      exact .unrendered (fun renders => renders.1 (by simp [RunContext.outcome, template])) rfl rfl
    | ok text =>
      dsimp only
      cases rendered : renderConfigToFile run.engine run.onAndroid p text run.renderOpts
          (run.answers i).writesConfig with
      | error message =>
        exact .unrendered
          (fun renders => renders.2 (by simp [RunContext.outcome, template, rendered])) rfl rfl
      | ok config =>
        have renders : run.Renders (p, i) := by
          simp only [RunContext.Renders, RunContext.outcome, template, rendered]
          cases (run.answers i).start with
          | binaryNotFound err => exact ⟨by simp, by simp⟩
          | failed err => exact ⟨by simp, by simp⟩
          | started pid => cases run.probeFails (run.answers i) <;> exact ⟨by simp, by simp⟩
        dsimp only
        cases renderOnly : run.opts.renderOnly with
        | true =>
          rw [if_pos rfl]
          exact rendered_status (by omega) renderOnly renders rfl rfl rfl
        | false =>
          rw [if_neg Bool.false_ne_true]
          cases validateOnly : run.opts.validateOnly with
          | true =>
            rw [if_pos rfl]
            exact validated_status (by omega) renderOnly validateOnly renders rfl rfl rfl
          | false =>
            rw [if_neg Bool.false_ne_true]
            have connects : run.Connects := ⟨renderOnly, validateOnly⟩
            cases started : (run.answers i).start with
            | binaryNotFound err =>
              have missing : run.outcome (p, i) = .binaryMissing := by
                simp [RunContext.outcome, template, rendered, started]
              dsimp only [RunContext.withoutBinary]
              have unfinished : ¬ run.Finishes (p, i) := fun finishes => by
                cases missing.symm.trans (finishes.succeeds connects)
              apply StatusAfter.fails
                (fun _ => ⟨unfinished, run.not_continues missing (by decide)⟩)
              · left
                cases (run.answers i).writesState <;> rfl
              · intro entry member
                apply (mem_write_served member).imp_right
                intro new
                exact new ▸ (by decide : lit "failed" ≠ lit "running")
            | failed err =>
              have falls : run.FallsBack (p, i) :=
                .inl (by simp [RunContext.outcome, template, rendered, started])
              exact .continues (by omega) ⟨connects, falls⟩ rfl rfl rfl rfl rfl
            | started pid =>
              dsimp only
              by_cases fails : run.probeFails (run.answers i) = true
              · have falls : run.FallsBack (p, i) :=
                  .inr (by simp [RunContext.outcome, template, rendered, started, fails])
                rw [if_pos fails, RunContext.observe, if_pos fails]
                exact .continues (by omega) ⟨connects, falls⟩ rfl rfl rfl rfl rfl
              · have succeeds : run.outcome (p, i) = .succeeds := by
                  simp [RunContext.outcome, template, rendered, started, fails]
                rw [if_neg fails]
                change StatusAfter run s (p, i)
                  (.error (run.running (run.answers (p, i).2) (p, i).1 pid _))
                apply running_status (by omega) connects succeeds
                · exact observe_served ..
                · apply (observe_status ..).trans
                  rw [Bool.eq_false_of_not_eq_true fails]
                  simp only [and_true]
                · exact observe_active ..

/-! ## The status of a whole run -/

/-- The state of a run that has gone on to the next profile at every attempt so far. -/
structure Pending (run : RunContext) (done : List (Profile × ℕ)) (s : RunState) : Prop where
  switches : s.switches = done.length
  loopGuard : ∀ id, (s.loopGuard.find? id).getD 0 ≤ done.length
  continues : ∀ item ∈ done, run.Continues item
  served : s.served = []
  status : s.snapshot.status = lit "connecting"
  lastState : s.lastState.status ≠ lit "running"

/-- After an attempt that falls back the status still says that it connects. -/
theorem pending_next {done : List (Profile × ℕ)} {item : Profile × ℕ} {s next : RunState}
    (pending : Pending run done s) (after : StatusAfter run s item (.ok next)) :
    Pending run (done ++ [item]) next := by
  cases after with
  | continues spare continues switches loopGuard served status lastState =>
    refine ⟨?_, fun id => ?_, ?_, served.trans pending.served, status.trans pending.status, ?_⟩
    · rw [switches, pending.switches, List.length_append, List.length_singleton]
    · have held := pending.loopGuard
      rw [loopGuard, Map.find?_insert, List.length_append, List.length_singleton]
      split_ifs with same
      · exact Nat.succ_le_succ (held item.1.id)
      · exact (held id).trans (Nat.le_succ _)
    · exact List.forall_mem_append.mpr
        ⟨pending.continues, List.forall_mem_singleton.mpr continues⟩
    · rw [lastState]
      decide

theorem pending_of_reached {done rest : List (Profile × ℕ)} {adaptive : AdaptiveState}
    {s : RunState} (front : (run.ordered.take run.maxAttempts).zipIdx = done ++ rest)
    (reached : done.foldlM run.attempt (run.start adaptive) = .ok s) : Pending run done s := by
  have tried : Tried run [] (run.start adaptive) := tried_start adaptive
  refine reached_invariant ⟨rfl, tried.loopGuard, fun _ member => absurd member List.not_mem_nil,
    rfl, rfl, (by decide : ([] : GoString) ≠ lit "running")⟩ ?_ front reached
  intro before item middle next room member pending stepped
  have after := attempt_status member (lt_of_le_of_lt (pending.loopGuard _) room)
  rw [stepped] at after
  exact pending_next pending after

/-- Where a numbered list is split. -/
theorem zipIdx_split {α : Type} {items : List α} {before after : List (α × ℕ)} {item : α × ℕ}
    (front : items.zipIdx = before ++ item :: after) :
    item.2 = before.length ∧ ∀ i q, i < item.2 → items[i]? = some q → (q, i) ∈ before := by
  have numbered (i : ℕ) : (before ++ item :: after)[i]? = items[i]?.map fun q => (q, i) := by
    rw [← front, List.getElem?_zipIdx, Nat.zero_add]
  have here := numbered before.length
  rw [List.getElem?_append_right le_rfl, Nat.sub_self, List.getElem?_cons_zero] at here
  obtain ⟨q, -, same⟩ := Option.map_eq_some_iff.mp here.symm
  refine ⟨congrArg Prod.snd same.symm, fun i q low there => ?_⟩
  rw [← same] at low
  have inside := numbered i
  rw [List.getElem?_append_left low, there] at inside
  exact List.mem_of_getElem? inside

/-- The run ends without an error, at a profile that has been probed if it runs. -/
def RunContext.EndsProbed (run : RunContext) : Prop :=
  ∃ k p, k < min run.maxAttempts 6 ∧ run.ordered[k]? = some p ∧ run.Finishes (p, k) ∧
    (∀ i q, i < k → run.ordered[i]? = some q → run.Continues (q, i)) ∧
      (run.Connects → run.probeEnabled = true)

/-- A run that ends well comes to a profile with which it ends, or behind which it goes on. -/
theorem RunContext.EndsProbed.after {before after : List (Profile × ℕ)} (ends : run.EndsProbed)
    (front : (run.ordered.take run.maxAttempts).zipIdx = before ++ after)
    (continues : ∀ item ∈ before, run.Continues item) :
    ∃ item rest, after = item :: rest ∧ item.2 < 6 ∧
      (run.Finishes item ∧ (run.Connects → run.probeEnabled = true) ∨ run.Continues item) := by
  obtain ⟨k, p, low, here, finishes, earlier, probed⟩ := ends
  have listed : (p, k) ∈ (run.ordered.take run.maxAttempts).zipIdx := by
    rw [List.mk_mem_zipIdx_iff_getElem?, List.getElem?_take_of_lt (by omega)]
    exact here
  have outside : (p, k) ∉ before := fun member => (continues _ member).not_finishes finishes
  rw [front] at listed
  have member := (List.mem_append.mp listed).resolve_left outside
  obtain ⟨item, rest, rfl⟩ := List.exists_cons_of_ne_nil (List.ne_nil_of_mem member)
  obtain ⟨-, passed⟩ := zipIdx_split front
  have inside : item ∈ (run.ordered.take run.maxAttempts).zipIdx :=
    front ▸ List.mem_append_right _ (List.mem_cons_self ..)
  obtain ⟨within, there⟩ := mem_zipIdx_take inside
  refine ⟨item, rest, rfl, ?_⟩
  rcases lt_trichotomy k item.2 with less | same | more
  · refine absurd (passed k p less ?_) outside
    rw [List.getElem?_take_of_lt (by omega)]
    exact here
  · subst same
    obtain rfl := Option.some.inj (here.symm.trans there)
    exact ⟨by omega, .inl ⟨finishes, probed⟩⟩
  · exact ⟨by omega, .inr (earlier _ _ more there)⟩

theorem exhausted_snapshot (s : RunState) : (run.exhausted s).1.snapshot = s.snapshot :=
  write_snapshot ..

/-- Where an attempt ends the run, and what is known of the run by then. -/
theorem left_at {adaptive : AdaptiveState} {exit : RunState × Option Message}
    (left : (run.ordered.take run.maxAttempts).zipIdx.foldlM run.attempt (run.start adaptive) =
      .error exit) :
    ∃ before item after s, (run.ordered.take run.maxAttempts).zipIdx = before ++ item :: after ∧
      item.2 < run.maxAttempts ∧ run.ordered[item.2]? = some item.1 ∧ Pending run before s ∧
        StatusAfter run s item (.error exit) := by
  obtain ⟨before, item, after, s, front, reached, leaves⟩ := foldlM_eq_error.mp left
  have pending := pending_of_reached front reached
  have size := congrArg List.length front
  rw [run.length_attempts, List.length_append, List.length_cons] at size
  have inside : item ∈ (run.ordered.take run.maxAttempts).zipIdx :=
    front ▸ List.mem_append_right _ (List.mem_cons_self ..)
  obtain ⟨low, here⟩ := mem_zipIdx_take inside
  have ends := attempt_status (List.mem_of_getElem? here)
    (lt_of_le_of_lt (pending.loopGuard item.1.id) (by omega))
  rw [leaves] at ends
  exact ⟨before, item, after, s, front, low, here, pending, ends⟩

/-- In every run the active profile is the one of which the state file says that it runs. -/
theorem active_selected (run : RunContext) (adaptive : AdaptiveState) :
    ∀ entry ∈ (run.connect adaptive).1.served, entry.1.status = lit "running" →
      entry.2.activeProfile = entry.1.selectedProfileID := by
  rw [connect_eq]
  intro entry member running
  cases loop : (run.ordered.take run.maxAttempts).zipIdx.foldlM run.attempt
      (run.start adaptive) with
  | error exit =>
    rw [loop] at member
    obtain ⟨before, item, after, s, -, -, -, pending, ends⟩ := left_at loop
    cases ends with
    | fails stuck status served =>
      rcases served entry member with old | other
      · rw [pending.served] at old
        cases old
      · exact absurd running other
    | finishes spare finishes served named active status =>
      dsimp only at member
      rw [served, pending.served, List.nil_append, List.mem_singleton] at member
      subst member
      exact active
  | ok s =>
    rw [loop] at member
    have pending := pending_of_reached (List.append_nil _).symm loop
    rcases mem_write_served member with old | new
    · cases pending.served ▸ old
    · rw [new] at running
      split_ifs at running
      · exact absurd running (by decide : lit "failed" ≠ lit "running")
      · exact absurd running pending.lastState

/-- The runtime API agrees with the state file exactly in the runs that end well behind a probe. -/
theorem statusAgrees_iff (run : RunContext) (adaptive : AdaptiveState) :
    StatusAgrees (run.connect adaptive).1 (run.connect adaptive).2 ↔ run.EndsProbed := by
  rw [connect_eq]
  cases loop : (run.ordered.take run.maxAttempts).zipIdx.foldlM run.attempt
      (run.start adaptive) with
  | error exit =>
    obtain ⟨before, item, after, middle, front, low, here, pending, ends⟩ := left_at loop
    obtain ⟨position, passed⟩ := zipIdx_split front
    have counted := pending.switches
    cases ends with
    | fails stuck status served =>
      refine iff_of_false (fun agrees => ?_) fun probed => ?_
      · have clear := agrees.failed (Option.some_ne_none _)
        rcases status with kept | connected
        · exact clear.1 (kept.trans pending.status)
        · exact clear.2 connected
      · obtain ⟨first, rest, same, few, well⟩ := probed.after front pending.continues
        obtain ⟨rfl, -⟩ := List.cons.inj same
        have both := stuck (by omega)
        rcases well with ⟨finishes, -⟩ | continues
        · exact both.1 finishes
        · exact both.2 continues
    | @finishes exit st snapshot spare finishes served running active status =>
      rw [pending.served, List.nil_append] at served
      constructor
      · intro agrees
        refine ⟨item.2, item.1, by omega, here, finishes, fun i q less there => ?_,
          fun connects => ?_⟩
        · refine pending.continues _ (passed i q less ?_)
          rw [List.getElem?_take_of_lt (by omega)]
          exact there
        · have entry := agrees.running (st, snapshot) (served ▸ List.mem_singleton_self _)
            (running.mpr connects)
          by_contra unprobed
          have kept := status connects
          rw [if_neg unprobed, pending.status, entry.1] at kept
          exact absurd kept (by decide)
      · intro probed
        obtain ⟨first, rest, same, few, well⟩ := probed.after front pending.continues
        obtain ⟨rfl, -⟩ := List.cons.inj same
        have enabled : run.Connects → run.probeEnabled = true := by
          rcases well with ⟨-, enabled⟩ | continues
          · exact enabled
          · exact absurd finishes continues.not_finishes
        refine ⟨fun entry member runs => ?_, fun failed => absurd rfl failed⟩
        rw [served, List.mem_singleton] at member
        subst member
        have connects := running.mp runs
        refine ⟨?_, active⟩
        rw [status connects, if_pos (enabled connects)]
  | ok s =>
    have whole := (List.append_nil (run.ordered.take run.maxAttempts).zipIdx).symm
    have pending := pending_of_reached whole loop
    refine iff_of_false (fun agrees => ?_) fun probed => ?_
    · apply (agrees.failed (Option.some_ne_none _)).1
      rw [exhausted_snapshot, pending.status]
    · obtain ⟨_, _, empty, -⟩ := probed.after whole pending.continues
      cases empty

/-- Without a probe the run stays at connecting beside a state file that says it runs, and a run whose
only profile does not start leaves it there too. -/
theorem unprobed_connecting :
    (((trialRun [(.started 7, true)]).connect (newAdaptiveState 80)).1.served.map fun entry =>
        (entry.1.status, entry.1.selectedProfileID, entry.2.status, entry.2.activeProfile)) =
      [(lit "running", lit "0", lit "connecting", lit "0")] ∧
    ¬ StatusAgrees ((trialRun [(.started 7, true)]).connect (newAdaptiveState 80)).1
      ((trialRun [(.started 7, true)]).connect (newAdaptiveState 80)).2 ∧
    ((trialRun [refused]).connect (newAdaptiveState 80)).1.snapshot.status = lit "connecting" ∧
    ¬ StatusAgrees ((trialRun [refused]).connect (newAdaptiveState 80)).1
      ((trialRun [refused]).connect (newAdaptiveState 80)).2 := by
  have runs : (((trialRun [(.started 7, true)]).connect (newAdaptiveState 80)).1.served.map
      fun entry => (entry.1.status, entry.1.selectedProfileID, entry.2.status,
        entry.2.activeProfile)) =
      [(lit "running", lit "0", lit "connecting", lit "0")] := by decide +kernel
  have stays : ((trialRun [refused]).connect (newAdaptiveState 80)).1.snapshot.status =
      lit "connecting" := by decide +kernel
  have fails : ((trialRun [refused]).connect (newAdaptiveState 80)).2.isSome = true := by
    decide +kernel
  refine ⟨runs, fun agrees => ?_, stays, fun agrees => ?_⟩
  · obtain ⟨entry, single⟩ := List.map_eq_singleton_iff.mp runs
    obtain ⟨status, -, shown, -⟩ : entry.1.status = lit "running" ∧
        entry.1.selectedProfileID = lit "0" ∧ entry.2.status = lit "connecting" ∧
          entry.2.activeProfile = lit "0" := by simpa using single.2
    have told := (agrees.running entry (single.1 ▸ List.mem_singleton_self _) status).1
    exact absurd (shown.symm.trans told) (by decide)
  · refine (agrees.failed fun none => ?_).1 stays
    rw [none] at fails
    cases fails

end ShadowNet.Inside
