import ShadowNet.Bundle.Verify
import ShadowNet.Go.Chan
import ShadowNet.Go.Run

/-! # The simulated mesh and the simulated receiver

`SimMesh.Broadcast` and `Receiver.Push` put a copy of a slice into a buffered channel and never wait;
the two `Receive` take it out. Whatever the callers write to their slices, what is received is what
was sent, in order, and nothing is refused while there is room.
-/

namespace ShadowNet.Mesh

open Go

/-- The arrays behind slices, by address; addresses from `next` on are unused. -/
structure Memory where
  contents : ℕ → Bytes
  next : ℕ

def Memory.alloc (memory : Memory) (bytes : Bytes) : ℕ × Memory :=
  (memory.next, ⟨Function.update memory.contents memory.next bytes, memory.next + 1⟩)

def Memory.write (memory : Memory) (address : ℕ) (bytes : Bytes) : Memory :=
  { memory with contents := Function.update memory.contents address bytes }

/-- A channel of slices, with the slices that callers hold, and what was accepted and received. -/
structure Queue where
  memory : Memory
  owned : List ℕ
  ch : Chan ℕ
  sent : List Bytes
  received : List Bytes

def newQueue (capacity : ℕ) : Queue := ⟨⟨fun _ => [], 0⟩, [], .make capacity, [], []⟩

def queueCapacity (default buffer : Int64) : ℕ :=
  (if buffer ≤ 0 then default else buffer).toInt.toNat

/-- `New` of the simulated mesh. -/
def SimMesh.new (buffer : Int64) : Queue := newQueue (queueCapacity 16 buffer)

/-- `New` of the simulated receiver. -/
def Receiver.new (buffer : Int64) : Queue := newQueue (queueCapacity 8 buffer)

/-- A copy of a slice is put into the channel, if there is room; none is a panic. -/
def Queue.enqueue (q : Queue) (data : ℕ) : Option (Bool × Queue) :=
  let bytes := q.memory.contents data
  let (cp, memory) := q.memory.alloc bytes
  match q.ch.offer cp with
  | .sent ch => some (true, { q with memory, ch, sent := q.sent ++ [bytes] })
  | .full => some (false, { q with memory })
  | .panics => none

def errQueueFull : Message := ⟨"mesh: queue full", []⟩

/-- `SimMesh.Broadcast`. -/
def SimMesh.broadcast (m : Queue) (data : ℕ) : Option (Except Message Unit × Queue) :=
  (m.enqueue data).map fun (accepted, next) =>
    (if accepted then .ok () else .error errQueueFull, next)

/-- `Receiver.Push`. -/
def Receiver.push (r : Queue) (payload : ℕ) : Option (Bool × Queue) := r.enqueue payload

/-- The branch of `Receive` that gets a slice, which is then the caller's. -/
def Queue.receive (q : Queue) : Option (ℕ × Queue) :=
  q.ch.poll.map fun (address, ch) =>
    (address, { q with
      ch
      owned := address :: q.owned
      received := q.received ++ [q.memory.contents address] })

inductive QueueLabel where
  | alloc (bytes : Bytes)
  | write (address : ℕ) (bytes : Bytes)
  | send (data : ℕ)
  | receive
  | cancelled

/-- Callers make slices, write to those that they hold, send and receive. -/
inductive QueueStep : Queue → QueueLabel → Queue → Prop
  | alloc {q : Queue} (bytes : Bytes) :
      QueueStep q (.alloc bytes)
        { q with memory := (q.memory.alloc bytes).2, owned := q.memory.next :: q.owned }
  | write {q : Queue} {address : ℕ} (held : address ∈ q.owned) (bytes : Bytes) :
      QueueStep q (.write address bytes) { q with memory := q.memory.write address bytes }
  | send {q next : Queue} {data : ℕ} {accepted : Bool} (held : data ∈ q.owned)
      (done : q.enqueue data = some (accepted, next)) : QueueStep q (.send data) next
  | receive {q next : Queue} {address : ℕ} (done : q.receive = some (address, next)) :
      QueueStep q .receive next
  | cancelled {q : Queue} : QueueStep q .cancelled q

/-- The slices in the channel are the queue's own, and hold what was sent and not received. -/
structure Isolated (capacity : ℕ) (q : Queue) : Prop where
  delivers : q.received ++ q.ch.buffer.map q.memory.contents = q.sent
  apart : ∀ address ∈ q.ch.buffer, address ∉ q.owned
  distinct : q.ch.buffer.Nodup
  queuedUsed : ∀ address ∈ q.ch.buffer, address < q.memory.next
  ownedUsed : ∀ address ∈ q.owned, address < q.memory.next
  capacity : q.ch.capacity = capacity
  opened : q.ch.closed = false

variable {capacity : ℕ} {q next : Queue}

/-- A write at another address leaves the contents of a list of addresses. -/
theorem map_update {addresses : List ℕ} {address : ℕ} (contents : ℕ → Bytes) (bytes : Bytes)
    (other : address ∉ addresses) :
    addresses.map (Function.update contents address bytes) = addresses.map contents := by
  apply List.map_congr_left
  intro own member
  apply Function.update_of_ne
  rintro rfl
  exact other member

theorem isolated_new (capacity : ℕ) : Isolated capacity (newQueue capacity) :=
  ⟨rfl, List.forall_mem_nil _, .nil, List.forall_mem_nil _, List.forall_mem_nil _, rfl, rfl⟩

/-- What a send does: it takes the copy in, or it finds the channel full. -/
theorem Isolated.enqueue (isolated : Isolated capacity q) (data : ℕ) :
    ∃ next, q.enqueue data = some (decide (q.ch.buffer.length < capacity), next) ∧
      Isolated capacity next := by
  have fresh : q.memory.next ∉ q.ch.buffer :=
    fun member => Nat.lt_irrefl _ (isolated.queuedUsed _ member)
  have foreign : q.memory.next ∉ q.owned :=
    fun member => Nat.lt_irrefl _ (isolated.ownedUsed _ member)
  have contents := map_update q.memory.contents (q.memory.contents data) fresh
  unfold Queue.enqueue
  dsimp only [Memory.alloc]
  split
  · rename_i ch offered
    obtain ⟨buffer, size, closed, room⟩ := Chan.offer_sent offered
    rw [isolated.capacity] at room
    refine ⟨_, by rw [decide_eq_true room], ?_⟩
    constructor <;> dsimp only
    · rw [buffer, List.map_append, contents, ← List.append_assoc, isolated.delivers, List.map_singleton,
        Function.update_self]
    · rw [buffer]
      exact List.forall_mem_append.mpr ⟨isolated.apart, List.forall_mem_singleton.mpr foreign⟩
    · rw [buffer]
      exact isolated.distinct.append (List.nodup_singleton _) (by simpa using fresh)
    · rw [buffer]
      refine List.forall_mem_append.mpr ⟨?_, List.forall_mem_singleton.mpr (Nat.lt_succ_self _)⟩
      exact fun address member => Nat.lt_succ_of_lt (isolated.queuedUsed address member)
    · exact fun address member => Nat.lt_succ_of_lt (isolated.ownedUsed address member)
    · exact size.trans isolated.capacity
    · exact closed.trans isolated.opened
  · rename_i offered
    have full := Chan.offer_full offered
    rw [isolated.capacity] at full
    refine ⟨_, by rw [decide_eq_false (by omega)], ?_⟩
    refine { isolated with delivers := ?_, queuedUsed := ?_, ownedUsed := ?_ } <;> dsimp only
    · rw [contents, isolated.delivers]
    · exact fun address member => Nat.lt_succ_of_lt (isolated.queuedUsed address member)
    · exact fun address member => Nat.lt_succ_of_lt (isolated.ownedUsed address member)
  · rename_i offered
    have closed := Chan.offer_panics offered
    rw [isolated.opened] at closed
    cases closed

/-- Both simulations tell their callers whether there was room, and keep the copy apart if so. -/
theorem Isolated.sends (isolated : Isolated capacity q) (data : ℕ) :
    ∃ next, Isolated capacity next ∧
      SimMesh.broadcast q data =
        some (if q.ch.buffer.length < capacity then .ok () else .error errQueueFull, next) ∧
      Receiver.push q data = some (decide (q.ch.buffer.length < capacity), next) := by
  obtain ⟨next, result, kept⟩ := isolated.enqueue data
  refine ⟨next, kept, ?_, result⟩
  rw [SimMesh.broadcast, result, Option.map_some]
  simp only [decide_eq_true_eq]

/-- No step shares a buffer between a caller and the queue. -/
theorem isolated_step {label : QueueLabel} (isolated : Isolated capacity q)
    (step : QueueStep q label next) : Isolated capacity next := by
  cases step with
  | cancelled => exact isolated
  | alloc bytes =>
    have fresh : q.memory.next ∉ q.ch.buffer :=
      fun member => Nat.lt_irrefl _ (isolated.queuedUsed _ member)
    refine { isolated with delivers := ?_, apart := ?_, queuedUsed := ?_, ownedUsed := ?_ } <;>
      dsimp only [Memory.alloc]
    · rw [map_update _ _ fresh, isolated.delivers]
    · intro address member held
      obtain rfl | before := List.mem_cons.mp held
      · exact fresh member
      · exact isolated.apart address member before
    · exact fun address member => Nat.lt_succ_of_lt (isolated.queuedUsed address member)
    · refine List.forall_mem_cons.mpr ⟨Nat.lt_succ_self _, ?_⟩
      exact fun address member => Nat.lt_succ_of_lt (isolated.ownedUsed address member)
  | write held bytes =>
    refine { isolated with delivers := ?_ }
    dsimp only [Memory.write]
    rw [map_update _ _ fun member => isolated.apart _ member held, isolated.delivers]
  | @send _ data _ held done =>
    obtain ⟨after, result, kept⟩ := isolated.enqueue data
    rw [done] at result
    cases result
    exact kept
  | receive done =>
    obtain ⟨⟨head, ch⟩, taken, same⟩ := Option.map_eq_some_iff.mp done
    cases same
    obtain ⟨buffer, size, closed⟩ := Chan.poll_some taken
    obtain ⟨new, rest⟩ := List.nodup_cons.mp (buffer ▸ isolated.distinct)
    have later : ∀ own ∈ ch.buffer, own ∈ q.ch.buffer := by
      rw [buffer]
      exact fun own member => List.mem_cons_of_mem _ member
    refine ⟨?_, ?_, rest, ?_, ?_, size.trans isolated.capacity, closed.trans isolated.opened⟩ <;>
      dsimp only
    · rw [← isolated.delivers, buffer, List.map_cons, List.append_assoc, List.singleton_append]
    · intro own member held
      obtain rfl | before := List.mem_cons.mp held
      · exact new member
      · exact isolated.apart own (later own member) before
    · exact fun own member => isolated.queuedUsed own (later own member)
    · refine List.forall_mem_cons.mpr ⟨isolated.queuedUsed _ ?_, isolated.ownedUsed⟩
      rw [buffer]
      exact List.mem_cons_self ..

/-- In any run what has been received and what is queued is what was accepted, in order, and a send
is accepted exactly while the channel has room. -/
theorem simQueues_deliver (buffer : Int64) {start last : Queue} {size : ℕ}
    (made : start = SimMesh.new buffer ∧ size = queueCapacity 16 buffer ∨
      start = Receiver.new buffer ∧ size = queueCapacity 8 buffer)
    {labels : List QueueLabel} (run : Run QueueStep start labels last) :
    last.received ++ last.ch.buffer.map last.memory.contents = last.sent ∧
      last.ch.buffer.length ≤ size ∧ 0 < size ∧
      ∀ data, ∃ next, last.enqueue data = some (decide (last.ch.buffer.length < size), next) := by
  have initial : Isolated size start := by
    obtain ⟨rfl, rfl⟩ | ⟨rfl, rfl⟩ := made
    · exact isolated_new _
    · exact isolated_new _
  have isolated : Isolated size last :=
    run.invariant initial fun _ _ _ _ kept step => isolated_step kept step
  have positive (default : Int64) (some : 0 < default.toInt) : 0 < queueCapacity default buffer := by
    unfold queueCapacity
    split_ifs with blank
    · omega
    · have above : (0 : Int64).toInt < buffer.toInt := by
        rw [← Int64.lt_iff_toInt_lt]
        exact Int64.not_le.mp blank
      have zero : (0 : Int64).toInt = 0 := by decide
      omega
  refine ⟨isolated.delivers, ?_, ?_, fun data => ?_⟩
  · rw [← isolated.capacity]
    exact last.ch.fits
  · obtain ⟨-, rfl⟩ | ⟨-, rfl⟩ := made
    · exact positive 16 (by decide)
    · exact positive 8 (by decide)
  · obtain ⟨next, result, -⟩ := isolated.enqueue data
    exact ⟨next, result⟩

/-- What is written to a slice after it was sent is not received. -/
theorem rewritten_delivers : ∃ last, Run QueueStep (SimMesh.new 1)
    [.alloc (lit "offer"), .send 0, .write 0 (lit "other"), .receive] last ∧
      last.received = [lit "offer"] := by
  obtain ⟨last, run, sent, empty⟩ : ∃ last, Run QueueStep (SimMesh.new 1)
      [.alloc (lit "offer"), .send 0, .write 0 (lit "other"), .receive] last ∧
        last.sent = [lit "offer"] ∧ last.ch.buffer = [] :=
    ⟨_, .cons (.alloc _) <| .cons (.send (List.mem_singleton_self 0) rfl) <|
      .cons (.write (List.mem_singleton_self 0) _) <| .cons (.receive rfl) (.nil _), rfl, rfl⟩
  have delivered := (simQueues_deliver 1 (.inl ⟨rfl, rfl⟩) run).1
  rw [empty, sent, List.map_nil, List.append_nil] at delivered
  exact ⟨last, run, delivered⟩

end ShadowNet.Mesh
