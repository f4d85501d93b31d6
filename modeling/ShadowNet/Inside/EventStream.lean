import ShadowNet.Go.Bytes
import ShadowNet.Inside.EventBus

/-! # The event stream

The handler of `/api/events/stream` subscribes, then sends the recent events, and then whatever comes
over its channel. An event that is published between the first two is among the recent events and in
the channel as well, and the client gets it twice.
-/

namespace ShadowNet.Inside

open Go

variable {α β ι : Type} [DecidableEq ι]

/-- Where the handler is; the recent events are those at the time at which `joined` events had been
published, and `rest` of them are still to be sent. -/
inductive Handler (α : Type) where
  | arriving
  | subscribed
  | streaming (backlog rest : List α) (joined : ℕ)
  | left

/-- What the handler writes: the JSON text of an event, or a comment. -/
inductive Frame (β : Type) where
  | data (raw : β)
  | ping

def Frame.raw? : Frame β → Option β
  | .data raw => some raw
  | .ping => none

structure StreamState (α β ι : Type) where
  bus : BusState α ι
  handler : Handler α := .arriving
  written : List (Frame β) := []

omit [DecidableEq ι] in
def StreamState.new (maxRing subBufLen : Int64) : StreamState α β ι where
  bus := .new maxRing subBufLen

/-- The events that the client has got. -/
def StreamState.received (s : StreamState α β ι) : List β := s.written.filterMap Frame.raw?

/-- An event whose JSON text cannot be made is passed over. -/
def frames (marshal : α → Option β) (event : α) : List (Frame β) :=
  ((marshal event).map Frame.data).toList

inductive StreamOp (α ι : Type) where
  | other (op : BusOp α ι)
  | subscribe
  | recent
  | replay
  | receive
  | ping
  | leave
  | cancel
  | close

def BusOp.subscriber? : BusOp α ι → Option ι
  | .subscribe i | .receive i | .cancel i | .close i => some i
  | _ => none

/-- The steps of the handler, with the channel `i`, and of the rest of the agent. -/
inductive StreamStep (marshal : α → Option β) (i : ι) :
    StreamState α β ι → StreamOp α ι → StreamState α β ι → Prop
  | other {s : StreamState α β ι} {op : BusOp α ι} {bus : BusState α ι}
      (elsewhere : op.subscriber? ≠ some i) (step : BusStep s.bus op bus) :
      StreamStep marshal i s (.other op) { s with bus }
  | subscribe {s : StreamState α β ι} {bus : BusState α ι} (arriving : s.handler = .arriving)
      (step : BusStep s.bus (.subscribe i) bus) :
      StreamStep marshal i s .subscribe { s with bus, handler := .subscribed }
  | recent {s : StreamState α β ι} (subscribed : s.handler = .subscribed)
      (free : s.bus.publishing = none) :
      StreamStep marshal i s .recent { s with
        handler := .streaming (s.bus.bus.recent 100) (s.bus.bus.recent 100) s.bus.published.length }
  | replay {s : StreamState α β ι} {backlog rest : List α} {event : α} {joined : ℕ}
      (streaming : s.handler = .streaming backlog (event :: rest) joined) :
      StreamStep marshal i s .replay { s with
        handler := .streaming backlog rest joined
        written := s.written ++ frames marshal event }
  | receive {s : StreamState α β ι} {bus : BusState α ι} {backlog : List α} {joined : ℕ}
      {sub : Subscription α} {event : α} {chan : Chan α}
      (streaming : s.handler = .streaming backlog [] joined) (found : s.bus.channels i = some sub)
      (taken : sub.chan.poll = some (event, chan)) (step : BusStep s.bus (.receive i) bus) :
      StreamStep marshal i s .receive { s with bus, written := s.written ++ frames marshal event }
  | ping {s : StreamState α β ι} {backlog : List α} {joined : ℕ}
      (streaming : s.handler = .streaming backlog [] joined) :
      StreamStep marshal i s .ping { s with written := s.written ++ [.ping] }
  | leave {s : StreamState α β ι} {backlog : List α} {joined : ℕ}
      (streaming : s.handler = .streaming backlog [] joined) :
      StreamStep marshal i s .leave { s with handler := .left }
  | cancel {s : StreamState α β ι} {bus : BusState α ι} (left : s.handler = .left)
      (step : BusStep s.bus (.cancel i) bus) : StreamStep marshal i s .cancel { s with bus }
  | close {s : StreamState α β ι} {bus : BusState α ι} (left : s.handler = .left)
      (step : BusStep s.bus (.close i) bus) : StreamStep marshal i s .close { s with bus }

/-! ## What the client is to get -/

/-- Nothing has been dropped from the channel. -/
def Subscription.Intact (sub : Subscription α) : Prop := ∀ entry ∈ sub.taken, entry.2 = true

/-- The event that is being published, if the subscriber has not been sent it. -/
def BusState.inFlight (s : BusState α ι) (i : ι) : List α :=
  match s.publishing with
  | some call => if i ∈ call.pending then [call.event] else []
  | none => []

/-- With what is still on its way to it, a client whose queue has not overflowed gets the recent
events and all that were published after them, each of them once and in their order. -/
def StreamState.ExactlyOnce (marshal : α → Option β) (i : ι) (s : StreamState α β ι) : Prop :=
  ∀ sub backlog rest joined, s.bus.channels i = some sub → sub.Intact →
    s.handler = .streaming backlog rest joined →
      (s.received ++ (rest ++ sub.chan.buffer ++ s.bus.inFlight i).filterMap marshal).map some =
        (backlog ++ s.bus.published.drop joined).map marshal

/-- The recent events are taken when nothing has been published since the handler has subscribed,
and each event for the client has a JSON text. -/
def Undisturbed (marshal : α → Option β) (i : ι) (s : StreamState α β ι) (op : StreamOp α ι)
    (_next : StreamState α β ι) : Prop :=
  match op with
  | .recent => ∀ sub, s.bus.channels i = some sub → sub.Intact →
      sub.start = s.bus.published.length ∧
        ∀ event ∈ s.bus.bus.recent 100, (marshal event).isSome = true
  | .other (.publish event _) => ∀ sub backlog rest joined, s.bus.channels i = some sub →
      sub.Intact → s.handler = .streaming backlog rest joined → (marshal event).isSome = true
  | _ => True

/-! ## Lists of frames -/

section

variable {marshal : α → Option β}

theorem filterMap_frames (event : α) :
    (frames marshal event).filterMap Frame.raw? = [event].filterMap marshal := by
  cases made : marshal event <;> simp [frames, Frame.raw?, made]

theorem map_some_filterMap {events : List α}
    (all : ∀ event ∈ events, (marshal event).isSome = true) :
    (events.filterMap marshal).map some = events.map marshal := by
  induction events with
  | nil => rfl
  | cons event rest ih =>
    obtain ⟨raw, made⟩ := Option.isSome_iff_exists.mp (all event (List.mem_cons_self ..))
    rw [List.filterMap_cons_some made, List.map_cons, List.map_cons, made,
      ih fun other member => all other (List.mem_cons_of_mem _ member)]

/-- A client that has been sent all events since `start` has got each of them once if and only if
these are the ones after the recent events. -/
theorem map_filterMap_eq_iff {backlog published : List α} {start joined k : ℕ}
    (order : start ≤ joined) (bound : joined ≤ published.length)
    (recent : backlog = (published.take joined).drop k) (kept : 0 < joined → k < joined) :
    ((backlog ++ published.drop start).filterMap marshal).map some =
        (backlog ++ published.drop joined).map marshal ↔
      start = joined ∧ ∀ event ∈ backlog ++ published.drop joined, (marshal event).isSome = true := by
  constructor
  · intro same
    have all : ∀ event ∈ backlog ++ published.drop joined, (marshal event).isSome = true := by
      intro event member
      have inside := List.mem_map_of_mem (f := marshal) member
      rw [← same] at inside
      obtain ⟨raw, -, made⟩ := List.mem_map.mp inside
      rw [← made]
      rfl
    refine ⟨?_, all⟩
    by_contra differ
    have before : start < joined := by omega
    -- the last of the recent events comes a second time
    have last : published[joined - 1] ∈ backlog := by
      rw [recent]
      apply List.mem_of_getElem? (i := joined - 1 - k)
      have early := kept (by omega)
      rw [List.getElem?_drop, List.getElem?_take_of_lt (by omega), show k + (joined - 1 - k) = joined - 1 by omega]
      exact List.getElem?_eq_getElem (by omega)
    have split : published.drop start =
        (published.drop start).take (joined - start) ++ published.drop joined := by
      have parts := (List.take_append_drop (joined - start) (published.drop start)).symm
      rw [List.drop_drop, show start + (joined - start) = joined by omega] at parts
      exact parts
    have lengths := congrArg List.length same
    rw [split, ← List.append_assoc, List.filterMap_append, List.filterMap_append, List.map_append,
      List.map_append, List.map_append, ← map_some_filterMap fun event member =>
        all event (List.mem_append_right _ member), ← map_some_filterMap fun event member =>
        all event (List.mem_append_left _ member)] at lengths
    simp only [List.length_append, List.length_map] at lengths
    have none : ((published.drop start).take (joined - start)).filterMap marshal = [] := by
      apply List.eq_nil_of_length_eq_zero
      omega
    obtain ⟨raw, made⟩ := Option.isSome_iff_exists.mp (all _ (List.mem_append_left _ last))
    have member : published[joined - 1] ∈ (published.drop start).take (joined - start) := by
      apply List.mem_of_getElem? (i := joined - 1 - start)
      rw [List.getElem?_take_of_lt (by omega), List.getElem?_drop,
        show start + (joined - 1 - start) = joined - 1 by omega]
      exact List.getElem?_eq_getElem (by omega)
    have sent := List.mem_filterMap.mpr ⟨_, member, made⟩
    rw [none] at sent
    cases sent
  · rintro ⟨rfl, all⟩
    exact map_some_filterMap all

end

/-! ## The handler -/

/-- What the handler has done while it streams. -/
structure Streams (marshal : α → Option β) (sub : Subscription α) (backlog rest : List α)
    (joined : ℕ) (published : List α) (received : List β) : Prop where
  served : sub.cancelled = false
  order : sub.start ≤ joined
  bound : joined ≤ published.length
  recent : ∃ k, backlog = (published.take joined).drop k ∧ (0 < joined → k < joined)
  sent : ∃ done, backlog = done ++ rest ∧ received = (done ++ sub.received).filterMap marshal
  first : rest = [] ∨ sub.received = []

structure StreamState.Invariant (marshal : α → Option β) (i : ι) (s : StreamState α β ι) : Prop where
  bus : s.bus.Invariant
  arriving : s.handler = .arriving → s.bus.channels i = none ∧ s.received = []
  subscribed : s.handler = .subscribed → s.received = [] ∧
    ∃ sub, s.bus.channels i = some sub ∧ sub.cancelled = false ∧ sub.received = []
  streaming : ∀ backlog rest joined, s.handler = .streaming backlog rest joined →
    ∃ sub, s.bus.channels i = some sub ∧
      Streams marshal sub backlog rest joined s.bus.published s.received

/-- The condition under which a client gets each event once. -/
def StreamState.Clean (marshal : α → Option β) (i : ι) (s : StreamState α β ι) : Prop :=
  ∀ sub backlog rest joined, s.bus.channels i = some sub → sub.Intact →
    s.handler = .streaming backlog rest joined →
      sub.start = joined ∧
        ∀ event ∈ backlog ++ s.bus.published.drop joined, (marshal event).isSome = true

theorem Subscription.Intact.queued {sub : Subscription α} (intact : sub.Intact) :
    sub.queued = sub.received ++ sub.chan.buffer := by
  rw [Subscription.queued, Subscription.received, List.filter_eq_self.mpr intact]

theorem BusState.Invariant.offered_append {s : BusState α ι} (inv : s.Invariant) (i : ι) :
    s.offeredTo i ++ s.inFlight i = s.published := by
  rw [BusState.offeredTo, BusState.inFlight, BusState.pending]
  cases held : s.publishing with
  | none => simp
  | some call =>
    obtain ⟨before, published⟩ := inv.newest call held
    dsimp only
    split_ifs
    · rw [published, List.dropLast_concat]
    · exact List.append_nil _

section

variable {marshal : α → Option β} {i : ι} {s : StreamState α β ι}

/-- Under the invariant, exactly once means that nothing has come between. -/
theorem StreamState.exactlyOnce_iff (inv : s.Invariant marshal i) :
    s.ExactlyOnce marshal i ↔ s.Clean marshal i := by
  refine forall_congr' fun sub => forall_congr' fun backlog => forall_congr' fun rest =>
    forall_congr' fun joined => forall_congr' fun found => forall_congr' fun intact =>
    forall_congr' fun streaming => ?_
  obtain ⟨_, same, streams⟩ := inv.streaming backlog rest joined streaming
  cases found.symm.trans same
  obtain ⟨k, recent, kept⟩ := streams.recent
  rw [← map_filterMap_eq_iff streams.order streams.bound recent kept]
  have follows := inv.bus.follows i sub found
  have since : s.bus.published.drop sub.start =
      sub.received ++ sub.chan.buffer ++ s.bus.inFlight i := by
    conv_lhs => rw [← inv.bus.offered_append i]
    rw [List.drop_append_of_le_length follows.start, ← follows.enqueued streams.served,
      intact.queued]
  obtain ⟨done, parts, received⟩ := streams.sent
  have all : s.received ++ (rest ++ sub.chan.buffer ++ s.bus.inFlight i).filterMap marshal =
      (backlog ++ s.bus.published.drop sub.start).filterMap marshal := by
    rw [received, since, parts, ← List.filterMap_append]
    rcases streams.first with none | none <;> simp [none]
  rw [all]

omit [DecidableEq ι] in
theorem received_write (s : StreamState α β ι) (bus : BusState α ι) (handler : Handler α)
    (event : α) : StreamState.received { bus, handler, written := s.written ++ frames marshal event } =
      s.received ++ [event].filterMap marshal := by
  rw [StreamState.received, StreamState.received, List.filterMap_append, filterMap_frames]

omit [DecidableEq ι] in
/-- The backlog is the end of what has been published. -/
theorem recent_eq {bus : EventBus α ι} {published : List α} (limit : Int64) (positive : 0 < limit.toInt)
    (retains : 0 < bus.maxRing) (ring : bus.ring = published.drop (published.length - bus.maxRing)) :
    ∃ k, bus.recent limit = (published.take published.length).drop k ∧
      (0 < published.length → k < published.length) := by
  rw [List.take_length, EventBus.recent, ring]
  split_ifs with all
  · exact ⟨_, rfl, by omega⟩
  · rw [List.drop_drop]
    refine ⟨_, rfl, fun some => ?_⟩
    rw [List.length_drop, Int64.toNatClampNeg]
    omega

theorem Streams.mono {sub after : Subscription α} {backlog rest : List α} {joined : ℕ}
    {published more : List α} {received : List β}
    (streams : Streams marshal sub backlog rest joined published received)
    (start : after.start = sub.start) (got : after.received = sub.received)
    (cancelled : after.cancelled = sub.cancelled) :
    Streams marshal after backlog rest joined (published ++ more) received where
  served := cancelled ▸ streams.served
  order := start ▸ streams.order
  bound := by
    have bound := streams.bound
    rw [List.length_append]
    omega
  recent := by
    rw [List.take_append_of_le_length streams.bound]
    exact streams.recent
  sent := got ▸ streams.sent
  first := got ▸ streams.first

/-- A step of the rest of the agent. -/
theorem StreamState.Invariant.other {op : BusOp α ι} {bus : BusState α ι}
    (inv : s.Invariant marshal i) (elsewhere : op.subscriber? ≠ some i)
    (step : BusStep s.bus op bus) : ({ s with bus } : StreamState α β ι).Invariant marshal i where
  bus := (step.invariant inv.bus).1
  arriving arriving := by
    obtain ⟨fresh, received⟩ := inv.arriving arriving
    refine ⟨step.unborn fresh ?_, received⟩
    rintro rfl
    exact elsewhere rfl
  subscribed subscribed := by
    obtain ⟨received, sub, found, served, none⟩ := inv.subscribed subscribed
    obtain ⟨after, held, -, -, got, cancelled⟩ := step.subscriber found
    refine ⟨received, after, held, (cancelled ?_).trans served, (got ?_).trans none⟩
    · rintro rfl
      exact elsewhere rfl
    · rintro rfl
      exact elsewhere rfl
  streaming backlog rest joined streaming := by
    obtain ⟨sub, found, streams⟩ := inv.streaming backlog rest joined streaming
    obtain ⟨after, held, start, -, got, cancelled⟩ := step.subscriber found
    refine ⟨after, held, ?_⟩
    change Streams marshal after backlog rest joined bus.published s.received
    rw [step.published]
    apply streams.mono start
    · apply got
      rintro rfl
      exact elsewhere rfl
    · apply cancelled
      rintro rfl
      exact elsewhere rfl

/-- A step of the handler or beside it keeps the invariant. -/
theorem StreamStep.invariant {op : StreamOp α ι} {next : StreamState α β ι}
    (step : StreamStep marshal i s op next) (inv : s.Invariant marshal i) :
    next.Invariant marshal i := by
  cases step with
  | other elsewhere step => exact inv.other elsewhere step
  | @subscribe bus arriving step =>
    obtain ⟨-, received⟩ := inv.arriving arriving
    refine ⟨(step.invariant inv.bus).1, by simp, fun _ => ⟨received, ?_⟩, by simp⟩
    cases step with
    | subscribe free fresh => exact ⟨_, s.bus.set_self i _, rfl, rfl⟩
  | recent subscribed free =>
    obtain ⟨received, sub, found, served, none⟩ := inv.subscribed subscribed
    refine ⟨inv.bus, by simp, by simp, fun backlog rest joined streaming => ⟨sub, found, ?_⟩⟩
    cases streaming
    have follows := inv.bus.follows i sub found
    rw [BusState.offeredTo_of_free free] at follows
    refine ⟨served, follows.start, Nat.le_refl _,
      recent_eq 100 (by decide) inv.bus.retains inv.bus.ring, ⟨[], rfl, ?_⟩, .inr none⟩
    change s.received = _
    rw [received, none]
    rfl
  | @replay backlog rest event joined streaming =>
    obtain ⟨sub, found, streams⟩ := inv.streaming _ _ _ streaming
    refine ⟨inv.bus, by simp, by simp, fun _ _ _ same => ⟨sub, found, ?_⟩⟩
    cases same
    obtain ⟨done, parts, received⟩ := streams.sent
    have none : sub.received = [] := streams.first.resolve_left (List.cons_ne_nil _ _)
    refine ⟨streams.served, streams.order, streams.bound, streams.recent,
      ⟨done ++ [event], by simp [parts], ?_⟩, .inr none⟩
    rw [received_write, received, none, List.append_nil, List.append_nil, List.filterMap_append]
  | @receive bus backlog joined sub event chan streaming found taken step =>
    obtain ⟨_, same, streams⟩ := inv.streaming _ _ _ streaming
    cases found.symm.trans same
    refine ⟨(step.invariant inv.bus).1, ?_, ?_, ?_⟩
    · intro arriving
      cases streaming.symm.trans arriving
    · intro subscribed
      cases streaming.symm.trans subscribed
    · intro _ _ _ still
      cases streaming.symm.trans still
      cases step with
      | @receive _ other ev chan' known got =>
        cases found.symm.trans known
        cases taken.symm.trans got
        refine ⟨_, s.bus.set_self i _, ?_⟩
        obtain ⟨done, parts, received⟩ := streams.sent
        refine ⟨streams.served, streams.order, streams.bound, streams.recent,
          ⟨done, parts, ?_⟩, .inl rfl⟩
        rw [received_write, received, ← List.filterMap_append]
        simp [Subscription.received]
  | ping streaming =>
    have received : StreamState.received { s with written := s.written ++ [.ping] } =
        s.received := by simp [StreamState.received, Frame.raw?]
    constructor
    · exact inv.bus
    · rw [received]
      exact inv.arriving
    · rw [received]
      exact inv.subscribed
    · rw [received]
      exact inv.streaming
  | leave streaming => exact ⟨inv.bus, by simp, by simp, by simp⟩
  | cancel left step =>
    constructor
    · exact (step.invariant inv.bus).1
    · intro arriving
      cases left.symm.trans arriving
    · intro subscribed
      cases left.symm.trans subscribed
    · intro _ _ _ streaming
      cases left.symm.trans streaming
  | close left step =>
    constructor
    · exact (step.invariant inv.bus).1
    · intro arriving
      cases left.symm.trans arriving
    · intro subscribed
      cases left.symm.trans subscribed
    · intro _ _ _ streaming
      cases left.symm.trans streaming

theorem Subscription.Intact.of_prefix {sub after : Subscription α} (intact : after.Intact)
    (taken : sub.taken <+: after.taken) : sub.Intact :=
  fun entry member => intact entry (taken.subset member)

/-- A step leaves the client's stream as it should be if and only if it disturbs nothing. -/
theorem StreamStep.clean_iff {op : StreamOp α ι} {next : StreamState α β ι}
    (step : StreamStep marshal i s op next) (inv : s.Invariant marshal i)
    (clean : s.Clean marshal i) :
    next.Clean marshal i ↔ Undisturbed marshal i s op next := by
  cases step with
  | @other op bus elsewhere step =>
    have before {after : Subscription α} (held : bus.channels i = some after) (intact : after.Intact)
        {backlog rest : List α} {joined : ℕ} (streaming : s.handler = .streaming backlog rest joined) :
        ∃ sub, s.bus.channels i = some sub ∧ sub.Intact ∧ after.start = sub.start := by
      obtain ⟨sub, found, -⟩ := inv.streaming backlog rest joined streaming
      obtain ⟨_, same, start, taken, -⟩ := step.subscriber found
      cases held.symm.trans same
      exact ⟨sub, found, intact.of_prefix taken, start⟩
    constructor
    · intro clean
      cases step with
      | publish free ranges =>
        intro sub backlog rest joined found intact streaming
        obtain ⟨_, -, streams⟩ := inv.streaming backlog rest joined streaming
        obtain ⟨-, all⟩ := clean sub backlog rest joined found intact streaming
        apply all
        rw [List.drop_append_of_le_length streams.bound]
        simp
      | _ => trivial
    · intro undisturbed after backlog rest joined held intact streaming
      obtain ⟨sub, found, kept, start⟩ := before held intact streaming
      obtain ⟨_, -, streams⟩ := inv.streaming backlog rest joined streaming
      obtain ⟨joins, all⟩ := clean sub backlog rest joined found kept streaming
      refine ⟨start.trans joins, fun event member => ?_⟩
      rw [show ({ s with bus } : StreamState α β ι).bus.published = s.bus.published ++ op.events
        from step.published, List.drop_append_of_le_length streams.bound, ← List.append_assoc] at member
      rcases List.mem_append.mp member with known | new
      · exact all event known
      · cases step with
        | publish free ranges =>
          rw [List.mem_singleton.mp new]
          exact undisturbed sub backlog rest joined found kept streaming
        | _ => cases new
  | subscribe arriving step => exact ⟨fun _ => trivial, fun _ _ _ _ _ _ _ same => by cases same⟩
  | recent subscribed free =>
    constructor
    · intro clean sub found intact
      obtain ⟨start, all⟩ := clean sub _ _ _ found intact rfl
      exact ⟨start, fun event member => all event (List.mem_append_left _ member)⟩
    · intro undisturbed sub backlog rest joined found intact streaming
      cases streaming
      obtain ⟨start, all⟩ := undisturbed sub found intact
      refine ⟨start, ?_⟩
      rw [List.drop_length, List.append_nil]
      exact all
  | replay streaming =>
    refine ⟨fun _ => trivial, fun _ sub _ _ _ found intact same => ?_⟩
    cases same
    exact clean sub _ _ _ found intact streaming
  | receive streaming found taken step =>
    refine ⟨fun _ => trivial, fun _ after _ _ _ held intact same => ?_⟩
    obtain ⟨_, there, start, prior, -⟩ := step.subscriber found
    cases held.symm.trans there
    obtain ⟨joins, all⟩ := clean _ _ _ _ found (intact.of_prefix prior) same
    refine ⟨start.trans joins, ?_⟩
    rw [step.published]
    simpa [BusOp.events] using all
  | ping streaming => exact ⟨fun _ => trivial, fun _ => clean⟩
  | leave streaming => exact ⟨fun _ => trivial, fun _ _ _ _ _ _ _ same => by cases same⟩
  | cancel left step =>
    refine ⟨fun _ => trivial, fun _ sub _ _ _ _ _ streaming => ?_⟩
    cases left.symm.trans streaming
  | close left step =>
    refine ⟨fun _ => trivial, fun _ sub _ _ _ _ _ streaming => ?_⟩
    cases left.symm.trans streaming

omit s in
theorem StreamState.invariant_new (maxRing subBufLen : Int64) :
    (StreamState.new maxRing subBufLen : StreamState α β ι).Invariant marshal i where
  bus := BusState.invariant_new _ _
  arriving _ := ⟨rfl, rfl⟩
  subscribed := nofun
  streaming := nofun

end

/-- A client gets each event once, as long as its queue does not overflow, in exactly the runs in
which nothing is published between the two calls with which the handler begins, and each event for
the client has a JSON text. -/
theorem stream_exactlyOnce_iff (marshal : α → Option β) (i : ι) (maxRing subBufLen : Int64)
    (ops : List (StreamOp α ι)) :
    Always (StreamStep marshal i) (fun _ _ next => next.ExactlyOnce marshal i)
        (.new maxRing subBufLen) ops ↔
      Always (StreamStep marshal i) (Undisturbed marshal i) (.new maxRing subBufLen) ops := by
  refine always_iff (motive := fun s => s.Invariant marshal i ∧ s.Clean marshal i) ?_ ?_
    ⟨StreamState.invariant_new _ _, nofun⟩
  · rintro s next op - ⟨inv, clean⟩ step
    rw [StreamState.exactlyOnce_iff (step.invariant inv), step.clean_iff inv clean]
  · rintro s next op - ⟨inv, clean⟩ step undisturbed
    exact ⟨step.invariant inv, (step.clean_iff inv clean).mpr undisturbed⟩

/-- An event that is published when the handler has subscribed, but not taken the recent events. -/
theorem earlyEvent_twice : ¬ Always (StreamStep some ()) (fun _ _ next => next.ExactlyOnce some ())
    (.new 100 100) [.subscribe, .other (.publish (lit "AGENT_START") [()]), .other .select,
      .other .unlock, .recent] := by
  intro always
  have subscribed := (always _ (.subscribe rfl (.subscribe rfl rfl))).2
  have published := (subscribed _ (.other nofun (.publish rfl (List.Perm.refl _)))).2
  have sent := (published _ (.other nofun (.select rfl rfl rfl))).2
  have unlocked := (sent _ (.other nofun (.unlock rfl))).2
  have once := (unlocked _ (.recent rfl rfl)).1 _ _ _ _ rfl nofun rfl
  have lengths := congrArg List.length once
  revert lengths
  decide

end ShadowNet.Inside
