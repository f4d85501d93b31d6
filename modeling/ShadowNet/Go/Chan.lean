import Mathlib

/-! # Buffered channels

A channel holds no more values than it has room for. A `select` with a default takes one step: it
sends or receives at once, or does neither.
-/

namespace ShadowNet.Go

variable {α : Type}

/-- A channel with a buffer; sending to it once it is closed is a panic. -/
structure Chan (α : Type) where
  capacity : ℕ
  buffer : List α
  closed : Bool
  fits : buffer.length ≤ capacity

namespace Chan

/-- `make(chan α, capacity)`. -/
def make (capacity : ℕ) : Chan α := ⟨capacity, [], false, Nat.zero_le _⟩

inductive Offer (α : Type) where
  | sent (chan : Chan α)
  | full
  | panics

/-- `select { case ch <- value: default: }`. -/
def offer (chan : Chan α) (value : α) : Offer α :=
  if chan.closed then .panics
  else if room : chan.buffer.length < chan.capacity then
    .sent { chan with
      buffer := chan.buffer ++ [value]
      fits := by rw [List.length_append]; exact room }
  else .full

/-- What a receive takes from the channel, and the channel then. -/
def poll (chan : Chan α) : Option (α × Chan α) :=
  match holds : chan.buffer with
  | [] => none
  | value :: rest => some (value, { chan with
      buffer := rest
      fits := by have fits := chan.fits; rw [holds, List.length_cons] at fits; omega })

/-- `close(ch)` of an open channel. -/
def close (chan : Chan α) : Chan α := { chan with closed := true }

@[simp] theorem make_buffer (capacity : ℕ) : (make capacity : Chan α).buffer = [] := rfl
@[simp] theorem make_capacity (capacity : ℕ) : (make capacity : Chan α).capacity = capacity := rfl
@[simp] theorem make_closed (capacity : ℕ) : (make capacity : Chan α).closed = false := rfl
@[simp] theorem close_buffer (chan : Chan α) : chan.close.buffer = chan.buffer := rfl
@[simp] theorem close_capacity (chan : Chan α) : chan.close.capacity = chan.capacity := rfl

/-- A value that is sent is put last, where there is room. -/
theorem offer_sent {chan next : Chan α} {value : α} (sent : chan.offer value = .sent next) :
    next.buffer = chan.buffer ++ [value] ∧ next.capacity = chan.capacity ∧
      next.closed = chan.closed ∧ chan.buffer.length < chan.capacity := by
  rw [offer] at sent
  split_ifs at sent with closed room
  cases sent
  exact ⟨rfl, rfl, rfl, room⟩

/-- A channel that takes nothing is full. -/
theorem offer_full {chan : Chan α} {value : α} (full : chan.offer value = .full) :
    chan.buffer.length = chan.capacity := by
  rw [offer] at full
  split_ifs at full with closed room
  have fits := chan.fits
  omega

/-- Only a closed channel panics. -/
theorem offer_panics {chan : Chan α} {value : α} (panics : chan.offer value = .panics) :
    chan.closed = true := by
  rw [offer] at panics
  split_ifs at panics with closed room
  exact closed

/-- A receiver gets the first value. -/
theorem poll_some {chan next : Chan α} {value : α} (taken : chan.poll = some (value, next)) :
    chan.buffer = value :: next.buffer ∧ next.capacity = chan.capacity ∧
      next.closed = chan.closed := by
  obtain ⟨capacity, buffer, closed, fits⟩ := chan
  cases buffer with
  | nil => cases taken
  | cons first rest =>
    cases taken
    exact ⟨rfl, rfl, rfl⟩

/-- Where a receiver gets none there is none. -/
theorem poll_none {chan : Chan α} (empty : chan.poll = none) : chan.buffer = [] := by
  obtain ⟨capacity, buffer, closed, fits⟩ := chan
  cases buffer with
  | nil => rfl
  | cons first rest => cases empty

end Chan

end ShadowNet.Go
