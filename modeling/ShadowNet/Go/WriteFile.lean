import ShadowNet.Go.Bytes

/-! # Files that are overwritten in place

`os.WriteFile` truncates the file and then writes the new contents. Where it stops on the way, the
file holds what it held before or a part of what it was to hold, and a reader that takes no part for
the whole is left with the old contents, with the new ones, or with an error.
-/

namespace ShadowNet.Go

variable {ε α β : Type}

/-- How far `os.WriteFile` gets: not to the truncation, or from there to a number of bytes. -/
inductive WriteEnd
  | untouched
  | written (count : ℕ)
deriving DecidableEq

def WriteEnd.leaves (old : Option Bytes) (new : Bytes) : WriteEnd → Option Bytes
  | .untouched => old
  | .written count => some (new.take count)

/-- Which of two contents the file then holds in full, if the new ones take so many bytes. -/
def WriteEnd.kept (old new : α) (length : ℕ) : WriteEnd → Option α
  | .untouched => some old
  | .written count => if length ≤ count then some new else none

/-- How `os.WriteFile` returns. -/
inductive WriteAnswer
  | done
  | failed (stop : WriteEnd)
deriving DecidableEq

/-- A write that leaves the file as it was if it fails. -/
def WriteAnswer.Clean (answer : WriteAnswer) : Prop :=
  ∀ stop, answer = .failed stop → stop = .untouched

def WriteAnswer.leaves (old : Option Bytes) (new : Bytes) : WriteAnswer → Option Bytes
  | .done => some new
  | .failed stop => stop.leaves old new

/-- What a write leaves is what was there, or some first bytes of what was to be written. -/
theorem WriteAnswer.leaves_cases (old : Option Bytes) (new : Bytes) (write : WriteAnswer) :
    write.leaves old new = old ∨ ∃ count, write.leaves old new = some (new.take count) := by
  cases write with
  | done => exact .inr ⟨new.length, by rw [List.take_length]; rfl⟩
  | failed stop =>
    cases stop with
    | untouched => exact .inl rfl
    | written count => exact .inr ⟨count, rfl⟩

/-- A reader that fails on every part of a file returns what it returns on a whole one. -/
theorem WriteEnd.loads_iff {load : Option Bytes → Except ε β} {old new : Bytes} {first second : α}
    {gives : α → β → Prop} (before : ∀ result, load (some old) = .ok result ↔ gives first result)
    (after : ∀ result, load (some new) = .ok result ↔ gives second result)
    (cut : ∀ count < new.length, ∃ error, load (some (new.take count)) = .error error)
    (stop : WriteEnd) (result : β) :
    load (stop.leaves (some old) new) = .ok result ↔
      ∃ contents, stop.kept first second new.length = some contents ∧ gives contents result := by
  cases stop with
  | untouched => simp [leaves, kept, before]
  | written count =>
    by_cases whole : new.length ≤ count
    · simp [leaves, kept, if_pos whole, List.take_of_length_le whole, after]
    · obtain ⟨error, failed⟩ := cut count (Nat.lt_of_not_le whole)
      simp [leaves, kept, if_neg whole, failed]

end ShadowNet.Go
