import Mathlib
import ShadowNet.Go.Chan
import ShadowNet.Go.Int64
import ShadowNet.Go.Run

/-! # The event bus

Runtime events go to every subscriber over a channel of its own, and a full channel loses its oldest
event. The bus is locked while it publishes, but its subscribers may receive between any two of its
operations on their channels.
-/

namespace ShadowNet.Inside

open Go

variable {α ι : Type}

/-! ## The bus -/

structure EventBus (α ι : Type) where
  ring : List α := []
  maxRing : ℕ
  subs : List ι := []
  subBufLen : ℕ

def newEventBus (maxRing subBufLen : Int64) : EventBus α ι where
  maxRing := (if maxRing < 1 then 1 else maxRing).toNatClampNeg
  subBufLen := (if subBufLen < 1 then 1 else subBufLen).toNatClampNeg

/-- What `publish` does to the ring. -/
def EventBus.retain (bus : EventBus α ι) (event : α) : List α :=
  let ring := bus.ring ++ [event]
  if ring.length > bus.maxRing then ring.drop (ring.length - bus.maxRing) else ring

def EventBus.recent (bus : EventBus α ι) (limit : Int64) : List α :=
  if limit ≤ 0 ∨ limit.toInt > bus.ring.length then bus.ring
  else bus.ring.drop (bus.ring.length - limit.toNatClampNeg)

/-- The channel that `subscribe` has made, with what has left it: each event that its subscriber
received, or that was dropped. -/
structure Subscription (α : Type) where
  chan : Chan α
  /-- How many events had been published before it. -/
  start : ℕ
  taken : List (α × Bool) := []
  cancelled : Bool := false

namespace Subscription

def received (sub : Subscription α) : List α := (sub.taken.filter (·.2)).map (·.1)

/-- All that has ever been in the channel. -/
def queued (sub : Subscription α) : List α := sub.taken.map (·.1) ++ sub.chan.buffer

end Subscription

/-- The selects of `sendDropOldest`. -/
inductive Select where
  | send
  | dropOldest
  | resend
deriving DecidableEq

/-- A select of `sendDropOldest`: the subscription after it, and the select that is next. -/
def Subscription.select (sub : Subscription α) (event : α) :
    Select → Option (Subscription α × Option Select)
  | .send =>
      match sub.chan.offer event with
      | .panics => none
      | .sent chan => some ({ sub with chan }, none)
      | .full => some (sub, some .dropOldest)
  | .dropOldest =>
      match sub.chan.poll with
      | some (oldest, chan) =>
          some ({ sub with chan, taken := sub.taken ++ [(oldest, false)] }, some .resend)
      | none => some (sub, some .resend)
  | .resend =>
      match sub.chan.offer event with
      | .panics => none
      | .sent chan => some ({ sub with chan }, none)
      | .full => some (sub, none)

/-- A `publish` under way, with the subscribers that it has not sent its event to. -/
structure Publishing (α ι : Type) where
  event : α
  pending : List ι
  next : Select := .send

structure BusState (α ι : Type) where
  bus : EventBus α ι
  channels : ι → Option (Subscription α) := fun _ => none
  /-- The call that holds the lock. -/
  publishing : Option (Publishing α ι) := none
  /-- All that has been published. -/
  published : List α := []
  crashed : Bool := false

inductive BusOp (α ι : Type) where
  | subscribe (i : ι)
  | publish (event : α) (order : List ι)
  | select
  | unlock
  | receive (i : ι)
  | cancel (i : ι)
  | close (i : ι)

variable [DecidableEq ι]

def BusState.set (s : BusState α ι) (i : ι) (sub : Subscription α) : ι → Option (Subscription α) :=
  Function.update s.channels i (some sub)

/-- The steps of the callers. A cancel function is called once; it deletes its channel from the map
first, and then closes it. -/
inductive BusStep : BusState α ι → BusOp α ι → BusState α ι → Prop
  | subscribe {s : BusState α ι} {i : ι} (free : s.publishing = none) (fresh : s.channels i = none) :
      BusStep s (.subscribe i) { s with
        bus := { s.bus with subs := i :: s.bus.subs }
        channels := s.set i ⟨.make s.bus.subBufLen, s.published.length, [], false⟩ }
  | publish {s : BusState α ι} {event : α} {order : List ι} (free : s.publishing = none)
      (ranges : order.Perm s.bus.subs) :
      BusStep s (.publish event order) { s with
        bus := { s.bus with ring := s.bus.retain event }
        published := s.published ++ [event]
        publishing := some ⟨event, order, .send⟩ }
  | select {s : BusState α ι} {event : α} {i : ι} {rest : List ι} {select : Select}
      {sub after : Subscription α} {next : Option Select}
      (locked : s.publishing = some ⟨event, i :: rest, select⟩) (found : s.channels i = some sub)
      (does : sub.select event select = some (after, next)) :
      BusStep s .select { s with
        channels := s.set i after
        publishing := some (match next with
          | some select => ⟨event, i :: rest, select⟩
          | none => ⟨event, rest, .send⟩) }
  | panic {s : BusState α ι} {event : α} {i : ι} {rest : List ι} {select : Select}
      {sub : Subscription α} (locked : s.publishing = some ⟨event, i :: rest, select⟩)
      (found : s.channels i = some sub) (panics : sub.select event select = none) :
      BusStep s .select { s with crashed := true }
  | unlock {s : BusState α ι} {event : α} {select : Select}
      (locked : s.publishing = some ⟨event, [], select⟩) :
      BusStep s .unlock { s with publishing := none }
  | receive {s : BusState α ι} {i : ι} {sub : Subscription α} {event : α} {chan : Chan α}
      (found : s.channels i = some sub) (taken : sub.chan.poll = some (event, chan)) :
      BusStep s (.receive i) { s with
        channels := s.set i { sub with chan, taken := sub.taken ++ [(event, true)] } }
  | cancel {s : BusState α ι} {i : ι} {sub : Subscription α} (free : s.publishing = none)
      (found : s.channels i = some sub) (first : sub.cancelled = false) :
      BusStep s (.cancel i) { s with
        bus := { s.bus with subs := s.bus.subs.erase i }
        channels := s.set i { sub with cancelled := true } }
  | close {s : BusState α ι} {i : ι} {sub : Subscription α} (found : s.channels i = some sub)
      (deleted : sub.cancelled = true) (isOpen : sub.chan.closed = false) :
      BusStep s (.close i) { s with channels := s.set i { sub with chan := sub.chan.close } }

omit [DecidableEq ι] in
def BusState.new (maxRing subBufLen : Int64) : BusState α ι where
  bus := newEventBus maxRing subBufLen

namespace BusState

/-- The subscribers that a `publish` has yet to send its event to. -/
def pending (s : BusState α ι) : List ι :=
  match s.publishing with
  | some call => call.pending
  | none => []

/-- What a subscriber has been sent, with all that came before it. -/
def offeredTo (s : BusState α ι) (i : ι) : List α :=
  if i ∈ s.pending then s.published.dropLast else s.published

/-- What subscribers get out of the bus, and what the bus retains. -/
structure Delivers (s : BusState α ι) : Prop where
  alive : s.crashed = false
  ring : s.bus.ring = s.published.drop (s.published.length - s.bus.maxRing)
  received : ∀ i sub, s.channels i = some sub → sub.received.Sublist (s.published.drop sub.start)
  inOrder : ∀ i sub, s.channels i = some sub → sub.queued <+: s.published.drop sub.start
  enqueued : ∀ i sub, s.channels i = some sub → sub.cancelled = false →
    sub.queued = (s.offeredTo i).drop sub.start
  older : ∀ i sub, s.channels i = some sub → ∀ (k : ℕ) event, sub.taken[k]? = some (event, false) →
    sub.start + k + 1 < s.published.length

/-- The newest event ends up at the back of the queue, and only the front of a queue is dropped. -/
structure HandsOver (s next : BusState α ι) : Prop where
  newest : ∀ event i rest select, s.publishing = some ⟨event, i :: rest, select⟩ →
    next.publishing = some ⟨event, rest, .send⟩ →
      ∃ sub, next.channels i = some sub ∧ sub.chan.buffer.getLast? = some event
  oldest : ∀ i sub after event, s.channels i = some sub → next.channels i = some after →
    after.taken = sub.taken ++ [(event, false)] → sub.chan.buffer = event :: after.chan.buffer

end BusState

/-! ## One subscriber -/

namespace Subscription

/-- A subscriber that has been sent `offered`, of all the events `published`. -/
structure Follows (sub : Subscription α) (offered published : List α) : Prop where
  roomy : 0 < sub.chan.capacity
  closed : sub.chan.closed = true → sub.cancelled = true
  start : sub.start ≤ offered.length
  inOrder : sub.queued <+: offered.drop sub.start
  enqueued : sub.cancelled = false → sub.queued = offered.drop sub.start
  older : ∀ (k : ℕ) event, sub.taken[k]? = some (event, false) →
    sub.start + k + 1 < published.length

theorem received_sublist (sub : Subscription α) : sub.received.Sublist sub.queued :=
  (List.filter_sublist.map _).trans (List.sublist_append_left _ _)

theorem getElem?_append_one {taken : List (α × Bool)} {last entry : α × Bool} {k : ℕ}
    (found : (taken ++ [last])[k]? = some entry) :
    taken[k]? = some entry ∨ k = taken.length ∧ last = entry := by
  rcases Nat.lt_or_ge k taken.length with inside | beyond
  · rw [List.getElem?_append_left inside] at found
    exact .inl found
  · rw [List.getElem?_append_right beyond] at found
    obtain ⟨bound, same⟩ := List.getElem?_eq_some_iff.mp found
    rw [List.length_singleton] at bound
    have index : k - taken.length = 0 := by omega
    simp only [index, List.getElem_cons_zero] at same
    exact .inr ⟨by omega, same⟩

/-- What a select leaves of a subscriber whose channel is open. -/
theorem select_spec {sub : Subscription α} (event : α) {select : Select}
    (isOpen : sub.chan.closed = false) (roomy : 0 < sub.chan.capacity)
    (room : select = .resend → sub.chan.buffer.length < sub.chan.capacity) :
    ∃ after next, sub.select event select = some (after, next) ∧
      after.chan.capacity = sub.chan.capacity ∧ after.chan.closed = false ∧
      after.start = sub.start ∧ after.cancelled = sub.cancelled ∧
      (next = none ∧ after.taken = sub.taken ∧ after.chan.buffer = sub.chan.buffer ++ [event] ∨
        next = some .dropOldest ∧ after = sub ∨
        next = some .resend ∧ after.chan.buffer.length < after.chan.capacity ∧
          (after = sub ∨ ∃ oldest, after.taken = sub.taken ++ [(oldest, false)] ∧
            sub.chan.buffer = oldest :: after.chan.buffer)) := by
  have sends {chan : Chan α} (sent : sub.chan.offer event = .sent chan) :=
    Chan.offer_sent sent
  have neverPanics : sub.chan.offer event ≠ .panics := fun panics => by
    rw [Chan.offer_panics panics] at isOpen
    cases isOpen
  cases select with
  | send =>
    cases offered : sub.chan.offer event with
    | panics => exact absurd offered neverPanics
    | full =>
      refine ⟨sub, some .dropOldest, by simp only [Subscription.select, offered], rfl, isOpen, rfl,
        rfl, .inr (.inl ⟨rfl, rfl⟩)⟩
    | sent chan =>
      obtain ⟨buffer, capacity, closed, -⟩ := sends offered
      exact ⟨{ sub with chan }, none, by simp only [Subscription.select, offered], capacity,
        closed.trans isOpen, rfl, rfl, .inl ⟨rfl, rfl, buffer⟩⟩
  | dropOldest =>
    cases polled : sub.chan.poll with
    | none =>
      have empty := Chan.poll_none polled
      refine ⟨sub, some .resend, by simp only [Subscription.select, polled], rfl, isOpen, rfl, rfl,
        .inr (.inr ⟨rfl, ?_, .inl rfl⟩)⟩
      rw [empty]
      exact roomy
    | some polledEvent =>
      obtain ⟨oldest, chan⟩ := polledEvent
      obtain ⟨buffer, capacity, closed⟩ := Chan.poll_some polled
      refine ⟨{ sub with chan, taken := sub.taken ++ [(oldest, false)] }, some .resend,
        by simp only [Subscription.select, polled], capacity, closed.trans isOpen, rfl, rfl,
        .inr (.inr ⟨rfl, ?_, .inr ⟨oldest, rfl, buffer⟩⟩)⟩
      have fits := sub.chan.fits
      rw [buffer, List.length_cons, ← capacity] at fits
      exact fits
  | resend =>
    cases offered : sub.chan.offer event with
    | panics => exact absurd offered neverPanics
    | full =>
      have full := Chan.offer_full offered
      have free := room rfl
      omega
    | sent chan =>
      obtain ⟨buffer, capacity, closed, -⟩ := sends offered
      exact ⟨{ sub with chan }, none, by simp only [Subscription.select, offered], capacity,
        closed.trans isOpen, rfl, rfl, .inl ⟨rfl, rfl, buffer⟩⟩

namespace Follows

variable {sub after : Subscription α} {offered published : List α} {event : α}

theorem make (capacity : ℕ) (roomy : 0 < capacity) (published : List α) :
    Follows ⟨.make capacity, published.length, [], false⟩ published published where
  roomy := roomy
  closed := nofun
  start := Nat.le_refl _
  inOrder := by simp [queued]
  enqueued _ := by simp [queued]
  older k _ found := by simp at found

/-- An event that is published is yet to be offered. -/
theorem publish (follows : sub.Follows offered published) :
    sub.Follows offered (published ++ [event]) where
  __ := follows
  older k event found := by
    have older := follows.older k event found
    rw [List.length_append]
    omega

/-- A subscriber that is no longer sent anything. -/
theorem ignore (follows : sub.Follows published published) (cancelled : sub.cancelled = true) :
    sub.Follows (published ++ [event]) (published ++ [event]) where
  __ := follows.publish
  start := Nat.le_trans follows.start (by simp)
  inOrder := by
    rw [List.drop_append_of_le_length follows.start]
    exact follows.inOrder.trans (List.prefix_append _ _)
  enqueued served := by
    rw [cancelled] at served
    cases served

/-- What is received follows what was received before. -/
theorem receive {chan : Chan α} (follows : sub.Follows offered published)
    (taken : sub.chan.poll = some (event, chan)) :
    ({ sub with chan, taken := sub.taken ++ [(event, true)] } : Subscription α).Follows offered
      published := by
  obtain ⟨buffer, capacity, closed⟩ := Chan.poll_some taken
  have queued : ({ sub with chan, taken := sub.taken ++ [(event, true)] } : Subscription α).queued =
      sub.queued := by simp [Subscription.queued, buffer]
  constructor
  · exact capacity ▸ follows.roomy
  · exact fun isClosed => follows.closed (closed ▸ isClosed)
  · exact follows.start
  · exact queued ▸ follows.inOrder
  · exact fun served => queued ▸ follows.enqueued served
  · intro k entry found
    rcases getElem?_append_one found with before | ⟨-, own⟩
    · exact follows.older k entry before
    · cases own

theorem cancel (follows : sub.Follows offered published) :
    ({ sub with cancelled := true } : Subscription α).Follows offered published where
  __ := follows
  closed _ := rfl
  enqueued := nofun

theorem close (follows : sub.Follows offered published) (deleted : sub.cancelled = true) :
    ({ sub with chan := sub.chan.close } : Subscription α).Follows offered published where
  __ := follows
  closed _ := deleted

/-- What the selects before the last one leave. -/
theorem dropOldest {before : List α} (follows : sub.Follows before (before ++ [event]))
    {oldest : α} (served : sub.cancelled = false) (capacity : after.chan.capacity = sub.chan.capacity)
    (closed : after.chan.closed = false) (start : after.start = sub.start)
    (taken : after.taken = sub.taken ++ [(oldest, false)])
    (buffer : sub.chan.buffer = oldest :: after.chan.buffer) :
    after.Follows before (before ++ [event]) := by
  have queued : after.queued = sub.queued := by simp [Subscription.queued, taken, buffer]
  constructor
  · exact capacity ▸ follows.roomy
  · intro isClosed
    rw [closed] at isClosed
    cases isClosed
  · exact start ▸ follows.start
  · exact queued ▸ start ▸ follows.inOrder
  · exact fun _ => queued ▸ start ▸ follows.enqueued served
  · intro k entry found
    rw [taken] at found
    rw [start]
    rcases getElem?_append_one found with earlier | ⟨index, -⟩
    · exact follows.older k entry earlier
    · -- the dropped event is in the channel, and so older than the one that is being sent
      have all := congrArg List.length (follows.enqueued served)
      simp only [Subscription.queued, buffer, List.length_append, List.length_map, List.length_cons,
        List.length_drop] at all
      rw [List.length_append, List.length_singleton, index]
      omega

theorem enqueue {before : List α} (follows : sub.Follows before (before ++ [event]))
    (served : sub.cancelled = false) (capacity : after.chan.capacity = sub.chan.capacity)
    (closed : after.chan.closed = false) (start : after.start = sub.start)
    (taken : after.taken = sub.taken) (buffer : after.chan.buffer = sub.chan.buffer ++ [event]) :
    after.Follows (before ++ [event]) (before ++ [event]) := by
  have queued : after.queued = (before ++ [event]).drop after.start := by
    rw [start, List.drop_append_of_le_length follows.start, ← follows.enqueued served]
    simp [Subscription.queued, taken, buffer]
  constructor
  · exact capacity ▸ follows.roomy
  · intro isClosed
    rw [closed] at isClosed
    cases isClosed
  · rw [start]
    exact Nat.le_trans follows.start (by simp)
  · exact queued ▸ List.prefix_rfl
  · exact fun _ => queued
  · intro k entry found
    rw [taken] at found
    rw [start]
    exact follows.older k entry found

end Follows

end Subscription

/-! ## The whole bus -/

namespace BusState

structure Invariant (s : BusState α ι) : Prop where
  alive : s.crashed = false
  retains : 0 < s.bus.maxRing
  ring : s.bus.ring = s.published.drop (s.published.length - s.bus.maxRing)
  roomy : 0 < s.bus.subBufLen
  nodup : s.bus.subs.Nodup
  served : ∀ i, i ∈ s.bus.subs ↔ ∃ sub, s.channels i = some sub ∧ sub.cancelled = false
  pendingNodup : s.pending.Nodup
  pendingServed : ∀ i ∈ s.pending, i ∈ s.bus.subs
  newest : ∀ call, s.publishing = some call → ∃ before, s.published = before ++ [call.event]
  room : ∀ event i rest sub, s.publishing = some ⟨event, i :: rest, .resend⟩ →
    s.channels i = some sub → sub.chan.buffer.length < sub.chan.capacity
  follows : ∀ i sub, s.channels i = some sub → sub.Follows (s.offeredTo i) s.published

theorem set_eq_some {s : BusState α ι} {i j : ι} {sub after : Subscription α}
    (found : s.set i after j = some sub) :
    j = i ∧ sub = after ∨ j ≠ i ∧ s.channels j = some sub := by
  rw [set, Function.update_apply] at found
  split_ifs at found with same
  · cases found
    exact .inl ⟨same, rfl⟩
  · exact .inr ⟨same, found⟩

theorem set_self (s : BusState α ι) (i : ι) (sub : Subscription α) : s.set i sub i = some sub :=
  Function.update_self ..

theorem set_of_ne (s : BusState α ι) {i j : ι} (differ : j ≠ i) (sub : Subscription α) :
    s.set i sub j = s.channels j := Function.update_of_ne differ ..

omit [DecidableEq ι] in
theorem pending_of_free {s : BusState α ι} (free : s.publishing = none) : s.pending = [] := by
  rw [pending, free]

theorem offeredTo_of_free {s : BusState α ι} (free : s.publishing = none) (i : ι) :
    s.offeredTo i = s.published := by
  rw [offeredTo, pending_of_free free, if_neg List.not_mem_nil]

theorem offeredTo_front (s : BusState α ι) (i : ι) : s.offeredTo i <+: s.published := by
  rw [offeredTo]
  split_ifs
  · exact List.dropLast_prefix _
  · exact List.prefix_rfl

/-- A property of the subscribers that one of them keeps as it changes. -/
theorem served_set {s : BusState α ι} (inv : s.Invariant) {i : ι} {sub after : Subscription α}
    (found : s.channels i = some sub) (same : after.cancelled = sub.cancelled) (j : ι) :
    j ∈ s.bus.subs ↔ ∃ sub, s.set i after j = some sub ∧ sub.cancelled = false := by
  rw [inv.served]
  by_cases own : j = i
  · subst own
    rw [set_self, found]
    simp [same]
  · rw [set_of_ne s own]

/-- The invariant gives every delivery. -/
theorem Delivers.of_invariant {s : BusState α ι} (inv : s.Invariant) : s.Delivers where
  alive := inv.alive
  ring := inv.ring
  received i sub found := by
    have queued := (inv.follows i sub found).inOrder.sublist
    exact sub.received_sublist.trans (queued.trans ((offeredTo_front s i).drop sub.start).sublist)
  inOrder i sub found :=
    (inv.follows i sub found).inOrder.trans ((offeredTo_front s i).drop sub.start)
  enqueued i sub found := (inv.follows i sub found).enqueued
  older i sub found := (inv.follows i sub found).older

omit [DecidableEq ι] in
/-- The ring is the end of what has been published. -/
theorem retain_eq {bus : EventBus α ι} {published : List α}
    (ring : bus.ring = published.drop (published.length - bus.maxRing)) (event : α) :
    bus.retain event =
      (published ++ [event]).drop ((published ++ [event]).length - bus.maxRing) := by
  rw [EventBus.retain, ring]
  simp only [List.length_append, List.length_drop, List.length_singleton]
  split_ifs with full
  · rw [← List.drop_append_of_le_length (by omega), List.drop_drop]
    congr 1
    omega
  · rw [← List.drop_append_of_le_length (by omega)]
    congr 1
    omega

theorem clamped_pos (n : Int64) : 0 < (if n < 1 then 1 else n).toNatClampNeg := by
  split_ifs with small
  · decide
  · rw [Int64.lt_iff_toInt_lt] at small
    have one : (1 : Int64).toInt = 1 := rfl
    rw [Int64.toNatClampNeg]
    omega

/-- A new bus. -/
theorem invariant_new (maxRing subBufLen : Int64) :
    (BusState.new maxRing subBufLen : BusState α ι).Invariant where
  alive := rfl
  retains := clamped_pos maxRing
  ring := List.drop_nil.symm
  roomy := clamped_pos subBufLen
  nodup := List.nodup_nil
  served _ := ⟨nofun, nofun⟩
  pendingNodup := List.nodup_nil
  pendingServed := nofun
  newest := nofun
  room := nofun
  follows := nofun

section

variable {s : BusState α ι} (inv : s.Invariant)
include inv

theorem Invariant.isOpen {i : ι} {sub : Subscription α} (found : s.channels i = some sub)
    (member : i ∈ s.bus.subs) : sub.cancelled = false ∧ sub.chan.closed = false := by
  obtain ⟨known, same, served⟩ := (inv.served i).mp member
  rw [found] at same
  cases same
  refine ⟨served, ?_⟩
  cases closed : sub.chan.closed with
  | false => rfl
  | true =>
    rw [(inv.follows i sub found).closed closed] at served
    cases served

/-- A new subscriber follows from here on. -/
theorem Invariant.subscribe {i : ι} (free : s.publishing = none) (fresh : s.channels i = none) :
    ({ s with
        bus := { s.bus with subs := i :: s.bus.subs }
        channels := s.set i ⟨.make s.bus.subBufLen, s.published.length, [], false⟩ } :
      BusState α ι).Invariant where
  alive := inv.alive
  retains := inv.retains
  ring := inv.ring
  roomy := inv.roomy
  nodup := by
    refine List.nodup_cons.mpr ⟨fun member => ?_, inv.nodup⟩
    obtain ⟨sub, found, -⟩ := (inv.served i).mp member
    rw [fresh] at found
    cases found
  served j := by
    dsimp only
    rw [List.mem_cons, inv.served]
    by_cases own : j = i
    · subst own
      simp [set_self]
    · simp [own, set_of_ne s own]
  pendingNodup := inv.pendingNodup
  pendingServed j member := List.mem_cons_of_mem _ (inv.pendingServed j member)
  newest := inv.newest
  room event j rest sub locked := by
    dsimp only at locked
    rw [free] at locked
    cases locked
  follows j sub found := by
    change sub.Follows (s.offeredTo j) s.published
    rw [offeredTo_of_free free]
    rcases set_eq_some found with ⟨-, rfl⟩ | ⟨-, found⟩
    · exact .make _ inv.roomy _
    · exact offeredTo_of_free free j ▸ inv.follows j sub found

/-- A publish begins with all subscribers before it. -/
theorem Invariant.publish {event : α} {order : List ι} (free : s.publishing = none)
    (ranges : order.Perm s.bus.subs) :
    ({ s with
        bus := { s.bus with ring := s.bus.retain event }
        published := s.published ++ [event]
        publishing := some ⟨event, order, .send⟩ } : BusState α ι).Invariant where
  alive := inv.alive
  retains := inv.retains
  ring := retain_eq inv.ring event
  roomy := inv.roomy
  nodup := inv.nodup
  served := inv.served
  pendingNodup := ranges.nodup_iff.mpr inv.nodup
  pendingServed _ := ranges.mem_iff.mp
  newest call locked := by
    cases locked
    exact ⟨s.published, rfl⟩
  room event j rest sub locked := by cases locked
  follows j sub found := by
    have follows := offeredTo_of_free free j ▸ inv.follows j sub found
    change sub.Follows (if j ∈ order then (s.published ++ [event]).dropLast else s.published ++ [event])
      (s.published ++ [event])
    split_ifs with asked
    · rw [List.dropLast_concat]
      exact follows.publish
    · -- whoever is not sent the event has cancelled
      apply follows.ignore
      cases cancelled : sub.cancelled with
      | true => rfl
      | false =>
        exact absurd (ranges.mem_iff.mpr ((inv.served j).mpr ⟨sub, found, cancelled⟩)) asked

/-- It ends when all have been offered the event. -/
theorem Invariant.unlock {event : α} {select : Select}
    (locked : s.publishing = some ⟨event, [], select⟩) :
    ({ s with publishing := none } : BusState α ι).Invariant where
  __ := inv
  pendingNodup := List.nodup_nil
  pendingServed := nofun
  newest := nofun
  room := nofun
  follows j sub found := by
    have idle : s.offeredTo j = s.published := by
      rw [offeredTo, pending, locked, if_neg List.not_mem_nil]
    exact idle ▸ inv.follows j sub found

/-- A step on one channel that is no part of a `publish`. -/
theorem Invariant.replace {i : ι} {sub after : Subscription α} (found : s.channels i = some sub)
    (same : after.cancelled = sub.cancelled)
    (shorter : after.chan.buffer.length ≤ sub.chan.buffer.length)
    (capacity : after.chan.capacity = sub.chan.capacity)
    (follows : sub.Follows (s.offeredTo i) s.published →
      after.Follows (s.offeredTo i) s.published) :
    ({ s with channels := s.set i after } : BusState α ι).Invariant where
  __ := inv
  served := served_set inv found same
  room event j rest other locked held := by
    rcases set_eq_some held with ⟨rfl, rfl⟩ | ⟨-, held⟩
    · have room := inv.room event j rest sub locked found
      omega
    · exact inv.room event j rest other locked held
  follows j other held := by
    rcases set_eq_some held with ⟨rfl, rfl⟩ | ⟨-, held⟩
    · exact follows (inv.follows j sub found)
    · exact inv.follows j other held

/-- One who leaves is offered nothing more. -/
theorem Invariant.cancel {i : ι} {sub : Subscription α} (free : s.publishing = none)
    (found : s.channels i = some sub) :
    ({ s with
        bus := { s.bus with subs := s.bus.subs.erase i }
        channels := s.set i { sub with cancelled := true } } : BusState α ι).Invariant where
  alive := inv.alive
  retains := inv.retains
  ring := inv.ring
  roomy := inv.roomy
  nodup := inv.nodup.erase i
  served j := by
    dsimp only
    rw [inv.nodup.mem_erase_iff, inv.served]
    by_cases own : j = i
    · subst own
      simp [set_self]
    · simp [own, set_of_ne s own]
  pendingNodup := inv.pendingNodup
  pendingServed j member := by
    change j ∈ s.pending at member
    rw [pending_of_free free] at member
    cases member
  newest := inv.newest
  room event j rest other locked := by
    dsimp only at locked
    rw [free] at locked
    cases locked
  follows j other held := by
    rcases set_eq_some held with ⟨rfl, rfl⟩ | ⟨-, held⟩
    · exact (inv.follows j sub found).cancel
    · exact inv.follows j other held

/-- What a `publish` knows of the subscriber that is next. -/
theorem Invariant.sending {event : α} {i : ι} {rest : List ι} {select : Select}
    {sub : Subscription α} (locked : s.publishing = some ⟨event, i :: rest, select⟩)
    (found : s.channels i = some sub) :
    sub.cancelled = false ∧ sub.chan.closed = false ∧
      (select = .resend → sub.chan.buffer.length < sub.chan.capacity) ∧
      ∃ before, s.published = before ++ [event] ∧ sub.Follows before (before ++ [event]) := by
  have pending : s.pending = i :: rest := by rw [BusState.pending, locked]
  have member : i ∈ s.pending := pending ▸ List.mem_cons_self ..
  obtain ⟨served, isOpen⟩ := inv.isOpen found (inv.pendingServed i member)
  obtain ⟨before, published⟩ := inv.newest _ locked
  refine ⟨served, isOpen, ?_, before, published, ?_⟩
  · rintro rfl
    exact inv.room event i rest sub locked found
  · have follows := inv.follows i sub found
    rw [offeredTo, if_pos member, published, List.dropLast_concat] at follows
    exact follows

/-- A select on a channel that needs another one. -/
theorem Invariant.selecting {event : α} {i : ι} {rest : List ι} {select again : Select}
    {sub after : Subscription α} (locked : s.publishing = some ⟨event, i :: rest, select⟩)
    (found : s.channels i = some sub) (same : after.cancelled = sub.cancelled)
    (room : again = .resend → after.chan.buffer.length < after.chan.capacity)
    (follows : after.Follows (s.offeredTo i) s.published) :
    ({ s with
        channels := s.set i after
        publishing := some ⟨event, i :: rest, again⟩ } : BusState α ι).Invariant := by
  have pending : s.pending = i :: rest := by rw [BusState.pending, locked]
  exact {
    inv with
    served := served_set inv found same
    pendingNodup := pending ▸ inv.pendingNodup
    pendingServed := pending ▸ inv.pendingServed
    newest := fun call held => by
      cases held
      obtain ⟨before, published⟩ := inv.newest _ locked
      exact ⟨before, published⟩
    room := fun ev j others other held known => by
      cases held
      rcases set_eq_some known with ⟨-, rfl⟩ | ⟨differ, -⟩
      · exact room rfl
      · exact absurd rfl differ
    follows := fun j other known => by
      change other.Follows (if j ∈ i :: rest then s.published.dropLast else s.published) s.published
      rw [← pending]
      rcases set_eq_some known with ⟨rfl, rfl⟩ | ⟨-, known⟩
      · exact follows
      · exact inv.follows j other known }

/-- The select that sends the event. -/
theorem Invariant.selected {event : α} {i : ι} {rest : List ι} {select : Select}
    {sub after : Subscription α} (locked : s.publishing = some ⟨event, i :: rest, select⟩)
    (found : s.channels i = some sub) (same : after.cancelled = sub.cancelled)
    (follows : after.Follows s.published s.published) :
    ({ s with
        channels := s.set i after
        publishing := some ⟨event, rest, .send⟩ } : BusState α ι).Invariant := by
  have pending : s.pending = i :: rest := by rw [BusState.pending, locked]
  obtain ⟨once, others⟩ := List.nodup_cons.mp (pending ▸ inv.pendingNodup)
  exact {
    inv with
    served := served_set inv found same
    pendingNodup := others
    pendingServed := fun j member =>
      inv.pendingServed j (pending ▸ List.mem_cons_of_mem _ member)
    newest := fun call held => by
      cases held
      obtain ⟨before, published⟩ := inv.newest _ locked
      exact ⟨before, published⟩
    room := fun ev j others other held => by cases held
    follows := fun j other known => by
      change other.Follows (if j ∈ rest then s.published.dropLast else s.published) s.published
      rcases set_eq_some known with ⟨rfl, rfl⟩ | ⟨differ, known⟩
      · rw [if_neg once]
        exact follows
      · have before := inv.follows j other known
        simp only [offeredTo, pending, List.mem_cons, differ, false_or] at before
        exact before }

/-- What one select does to the subscriber that it is at. -/
theorem Invariant.select {event : α} {i : ι} {rest : List ι} {select : Select}
    {sub after : Subscription α} {next : Option Select}
    (locked : s.publishing = some ⟨event, i :: rest, select⟩) (found : s.channels i = some sub)
    (does : sub.select event select = some (after, next)) :
    ({ s with
        channels := s.set i after
        publishing := some (match next with
          | some select => ⟨event, i :: rest, select⟩
          | none => ⟨event, rest, .send⟩) } : BusState α ι).Invariant ∧
      (next = none → after.taken = sub.taken ∧ after.chan.buffer.getLast? = some event) ∧
      ∀ oldest, after.taken = sub.taken ++ [(oldest, false)] →
        sub.chan.buffer = oldest :: after.chan.buffer := by
  obtain ⟨served, isOpen, room, before, published, follows⟩ := inv.sending locked found
  have member : i ∈ s.pending := by
    rw [pending, locked]
    exact List.mem_cons_self ..
  have offered : s.offeredTo i = before := by
    rw [offeredTo, if_pos member, published, List.dropLast_concat]
  obtain ⟨_, _, selects, capacity, closed, start, cancelled, outcome⟩ :=
    sub.select_spec event isOpen follows.roomy room
  cases does.symm.trans selects
  rcases outcome with ⟨rfl, taken, buffer⟩ | ⟨rfl, rfl⟩ | ⟨rfl, free, rfl | ⟨oldest, taken, buffer⟩⟩
  · refine ⟨inv.selected locked found cancelled ?_, fun _ => ⟨taken, ?_⟩, fun oldest dropped => ?_⟩
    · exact published ▸ follows.enqueue served capacity closed start taken buffer
    · rw [buffer, List.getLast?_concat]
    · have longer := congrArg List.length (taken.symm.trans dropped)
      simp at longer
  · refine ⟨inv.selecting locked found rfl nofun (inv.follows i _ found), nofun, fun oldest dropped => ?_⟩
    have longer := congrArg List.length dropped
    simp at longer
  · refine ⟨inv.selecting locked found rfl (fun _ => free) (inv.follows i _ found), nofun,
      fun oldest dropped => ?_⟩
    have longer := congrArg List.length dropped
    simp at longer
  · refine ⟨inv.selecting locked found cancelled (fun _ => free) ?_, nofun, fun other dropped => ?_⟩
    · rw [offered, published]
      exact follows.dropOldest served capacity closed start taken buffer
    · have same := List.append_cancel_left (taken.symm.trans dropped)
      cases same
      exact buffer

/-- No select of a `publish` panics. -/
theorem Invariant.select_ne_none {event : α} {i : ι} {rest : List ι} {select : Select}
    {sub : Subscription α} (locked : s.publishing = some ⟨event, i :: rest, select⟩)
    (found : s.channels i = some sub) : sub.select event select ≠ none := by
  obtain ⟨-, isOpen, room, before, -, follows⟩ := inv.sending locked found
  obtain ⟨after, next, selects, -⟩ := sub.select_spec event isOpen follows.roomy room
  rw [selects]
  exact Option.some_ne_none _

end

omit [DecidableEq ι] in
theorem handsOver_of_taken {s next : BusState α ι}
    (publishing : next.publishing = s.publishing ∨ s.publishing = none ∨ next.publishing = none)
    (taken : ∀ i sub after event, s.channels i = some sub → next.channels i = some after →
      after.taken ≠ sub.taken ++ [(event, false)]) : s.HandsOver next where
  newest event i rest select locked sent := by
    rcases publishing with same | free | free
    · rw [same, locked] at sent
      simp at sent
    · rw [locked] at free
      cases free
    · rw [sent] at free
      cases free
  oldest i sub after event found held dropped := absurd dropped (taken i sub after event found held)

theorem taken_ne_append {taken : List (α × Bool)} {event : α} : taken ≠ taken ++ [(event, false)] := by
  intro same
  have longer := congrArg List.length same
  simp at longer

/-- A step on one subscriber that drops nothing. -/
theorem taken_ne_of_set {s : BusState α ι} {i : ι} {sub after : Subscription α}
    (found : s.channels i = some sub)
    (keeps : ∀ event, after.taken ≠ sub.taken ++ [(event, false)]) (j : ι)
    (one other : Subscription α) (event : α) (known : s.channels j = some one)
    (held : s.set i after j = some other) : other.taken ≠ one.taken ++ [(event, false)] := by
  rcases set_eq_some held with ⟨rfl, rfl⟩ | ⟨-, same⟩
  · rw [found] at known
    cases known
    exact keeps event
  · rw [known] at same
    cases same
    exact taken_ne_append

end BusState

/-- A step keeps the invariant, and hands over what a receiver takes. -/
theorem BusStep.invariant {s next : BusState α ι} {op : BusOp α ι} (step : BusStep s op next)
    (inv : s.Invariant) : next.Invariant ∧ s.HandsOver next := by
  cases step with
  | @subscribe i free fresh =>
    refine ⟨inv.subscribe free fresh, BusState.handsOver_of_taken (.inr (.inl free)) ?_⟩
    intro j one other event known held
    rcases BusState.set_eq_some held with ⟨rfl, -⟩ | ⟨-, same⟩
    · rw [fresh] at known
      cases known
    · rw [known] at same
      cases same
      exact BusState.taken_ne_append
  | publish free ranges =>
    refine ⟨inv.publish free ranges, BusState.handsOver_of_taken (.inr (.inl free)) ?_⟩
    intro j one other event known held
    cases known.symm.trans held
    exact BusState.taken_ne_append
  | @select event i rest select sub after again locked found does =>
    obtain ⟨keeps, sent, dropped⟩ := inv.select locked found does
    refine ⟨keeps, ?_, ?_⟩
    · intro ev j others select' held finished
      cases locked.symm.trans held
      cases again with
      | some more => simp at finished
      | none => exact ⟨after, s.set_self i after, (sent rfl).2⟩
    · intro j one other oldest known held drops
      rcases BusState.set_eq_some held with ⟨rfl, rfl⟩ | ⟨-, same⟩
      · cases found.symm.trans known
        exact dropped oldest drops
      · cases known.symm.trans same
        exact absurd drops BusState.taken_ne_append
  | panic locked found panics => exact absurd panics (inv.select_ne_none locked found)
  | unlock locked =>
    refine ⟨inv.unlock locked, BusState.handsOver_of_taken (.inr (.inr rfl)) ?_⟩
    intro j one other event known held
    cases known.symm.trans held
    exact BusState.taken_ne_append
  | receive found taken =>
    obtain ⟨buffer, capacity, -⟩ := Chan.poll_some taken
    refine ⟨inv.replace found rfl ?_ capacity fun follows => follows.receive taken,
      BusState.handsOver_of_taken (.inl rfl) (BusState.taken_ne_of_set found fun event same => ?_)⟩
    · rw [buffer]
      exact Nat.le_succ _
    · simp at same
  | cancel free found first =>
    exact ⟨inv.cancel free found, BusState.handsOver_of_taken (.inr (.inl free))
      (BusState.taken_ne_of_set found fun _ => BusState.taken_ne_append)⟩
  | close found deleted isOpen =>
    exact ⟨inv.replace found rfl (Nat.le_refl _) rfl fun follows => follows.close deleted,
      BusState.handsOver_of_taken (.inl rfl)
        (BusState.taken_ne_of_set found fun _ => BusState.taken_ne_append)⟩

/-- What a step leaves of a subscriber. -/
theorem BusStep.subscriber {s next : BusState α ι} {op : BusOp α ι} (step : BusStep s op next) {i : ι}
    {sub : Subscription α} (found : s.channels i = some sub) :
    ∃ after, next.channels i = some after ∧ after.start = sub.start ∧ sub.taken <+: after.taken ∧
      (op ≠ .receive i → after.received = sub.received) ∧
      (op ≠ .cancel i → after.cancelled = sub.cancelled) := by
  have same : ∃ after, s.channels i = some after ∧ after.start = sub.start ∧
      sub.taken <+: after.taken ∧ (op ≠ .receive i → after.received = sub.received) ∧
      (op ≠ .cancel i → after.cancelled = sub.cancelled) :=
    ⟨sub, found, rfl, List.prefix_rfl, fun _ => rfl, fun _ => rfl⟩
  have elsewhere {j : ι} (differ : i ≠ j) (other : Subscription α) :
      ∃ after, s.set j other i = some after ∧ after.start = sub.start ∧
        sub.taken <+: after.taken ∧ (op ≠ .receive i → after.received = sub.received) ∧
        (op ≠ .cancel i → after.cancelled = sub.cancelled) := by
    rw [s.set_of_ne differ]
    exact same
  cases step with
  | @subscribe j free fresh =>
    refine elsewhere ?_ _
    rintro rfl
    rw [fresh] at found
    cases found
  | publish free ranges => exact same
  | @select event j rest select one after again locked known does =>
    by_cases own : i = j
    · subst own
      cases found.symm.trans known
      refine ⟨after, s.set_self i after, ?_⟩
      cases select with
      | send =>
        rw [Subscription.select] at does
        split at does <;> cases does <;> exact ⟨rfl, List.prefix_rfl, fun _ => rfl, fun _ => rfl⟩
      | dropOldest =>
        rw [Subscription.select] at does
        split at does
        · cases does
          refine ⟨rfl, List.prefix_append _ _, fun _ => ?_, fun _ => rfl⟩
          simp [Subscription.received]
        · cases does
          exact ⟨rfl, List.prefix_rfl, fun _ => rfl, fun _ => rfl⟩
      | resend =>
        rw [Subscription.select] at does
        split at does <;> cases does <;> exact ⟨rfl, List.prefix_rfl, fun _ => rfl, fun _ => rfl⟩
    · exact elsewhere own _
  | panic locked known panics => exact same
  | unlock locked => exact same
  | @receive j one event chan known taken =>
    by_cases own : i = j
    · subst own
      cases found.symm.trans known
      exact ⟨_, s.set_self i _, rfl, List.prefix_append _ _, fun other => absurd rfl other,
        fun _ => rfl⟩
    · exact elsewhere own _
  | @cancel j one free known first =>
    by_cases own : i = j
    · subst own
      cases found.symm.trans known
      exact ⟨_, s.set_self i _, rfl, List.prefix_rfl, fun _ => rfl, fun other => absurd rfl other⟩
    · exact elsewhere own _
  | @close j one known deleted isOpen =>
    by_cases own : i = j
    · subst own
      cases found.symm.trans known
      exact ⟨_, s.set_self i _, rfl, List.prefix_rfl, fun _ => rfl, fun _ => rfl⟩
    · exact elsewhere own _

theorem BusStep.unborn {s next : BusState α ι} {op : BusOp α ι} (step : BusStep s op next) {i : ι}
    (fresh : s.channels i = none) (other : op ≠ .subscribe i) : next.channels i = none := by
  have elsewhere {j : ι} {one : Subscription α} (known : s.channels j = some one)
      (after : Subscription α) : s.set j after i = none := by
    rw [s.set_of_ne ?_, fresh]
    rintro rfl
    rw [fresh] at known
    cases known
  cases step with
  | @subscribe j free absent =>
    rw [← fresh]
    refine s.set_of_ne ?_ _
    rintro rfl
    exact other rfl
  | publish free ranges => exact fresh
  | select locked known does => exact elsewhere known _
  | panic locked known panics => exact fresh
  | unlock locked => exact fresh
  | receive known taken => exact elsewhere known _
  | cancel free known first => exact elsewhere known _
  | close known deleted isOpen => exact elsewhere known _

def BusOp.events : BusOp α ι → List α
  | .publish event _ => [event]
  | _ => []

/-- A step publishes its own events and no others. -/
theorem BusStep.published {s next : BusState α ι} {op : BusOp α ι} (step : BusStep s op next) :
    next.published = s.published ++ op.events := by
  cases step <;> simp [BusOp.events]

end ShadowNet.Inside
