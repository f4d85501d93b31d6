import ShadowNet.Go.Run

/-! # Histories of runs

How often something has happened in a run since something else did, and how far apart the moments are at
which it happens.
-/

namespace ShadowNet.Go

section

variable {σ α : Type} {step : σ → α → σ → Prop}

/-- What a state has to do with the steps that led to it. -/
theorem Run.history {motive : List α → σ → Prop} {start last : σ} {labels : List α}
    (run : Run step start labels last) (initial : motive [] start)
    (grows : ∀ past state label next, motive past state → step state label next →
      motive (past ++ [label]) next) : motive labels last := by
  suffices later : ∀ past, motive past start → motive (past ++ labels) last from later [] initial
  clear initial
  induction run with
  | nil =>
    intro past held
    rwa [List.append_nil]
  | @cons _ _ _ label _ stepped _ ih =>
    intro past held
    have whole := ih (past ++ [label]) (grows past _ label _ held stepped)
    rwa [List.append_assoc, List.singleton_append] at whole

end

/-! ## Streaks -/

section

variable {α : Type} {fails well : α → Bool} {count : ℕ} {history : List α} {event : α}

/-- Since the last event that went well, this many have failed at least. -/
def Streak (fails well : α → Bool) (count : ℕ) (history : List α) : Prop :=
  ∃ older recent, history = older ++ recent ∧ count ≤ recent.countP fails ∧
    ∀ event ∈ recent, well event = false

theorem streak_zero (fails well : α → Bool) (history : List α) : Streak fails well 0 history :=
  ⟨history, [], by simp, Nat.zero_le _, by simp⟩

/-- An event that is not a success leaves a streak. -/
theorem Streak.skip (streak : Streak fails well count history) (not : well event = false) :
    Streak fails well count (history ++ [event]) := by
  obtain ⟨older, recent, rfl, enough, none⟩ := streak
  refine ⟨older, recent ++ [event], List.append_assoc .., ?_, ?_⟩
  · rw [List.countP_append]
    exact enough.trans (Nat.le_add_right ..)
  · intro other member
    obtain inside | last := List.mem_append.mp member
    · exact none other inside
    · rwa [List.mem_singleton.mp last]

/-- A failure makes it longer. -/
theorem Streak.more (streak : Streak fails well count history) (failed : fails event = true)
    (not : well event = false) : Streak fails well (count + 1) (history ++ [event]) := by
  obtain ⟨older, recent, rfl, enough, none⟩ := streak
  refine ⟨older, recent ++ [event], List.append_assoc .., ?_, ?_⟩
  · rw [List.countP_append, List.countP_singleton, failed]
    exact Nat.add_le_add_right enough 1
  · intro other member
    obtain inside | last := List.mem_append.mp member
    · exact none other inside
    · rwa [List.mem_singleton.mp last]

/-- Part of a streak is one. -/
theorem Streak.fewer (streak : Streak fails well count history) {fewer : ℕ} (less : fewer ≤ count) :
    Streak fails well fewer history := by
  obtain ⟨older, recent, split, enough, none⟩ := streak
  exact ⟨older, recent, split, less.trans enough, none⟩

end

/-! ## Moments -/

/-- The moments are this far apart, and none is later than the last one. -/
structure Spaced (gap : ℤ) (moments : List ℤ) (last : ℤ) : Prop where
  apart : moments.Pairwise fun before after => before + gap ≤ after
  until_last : ∀ moment ∈ moments, moment ≤ last

theorem spaced_nil (gap last : ℤ) : Spaced gap [] last := ⟨.nil, by simp⟩

/-- A moment far enough behind the last one keeps the distance. -/
theorem Spaced.append {gap last now : ℤ} {moments : List ℤ} (spaced : Spaced gap moments last)
    (positive : 0 ≤ gap) (later : last + gap ≤ now) : Spaced gap (moments ++ [now]) now := by
  constructor
  · rw [List.pairwise_append]
    refine ⟨spaced.apart, List.pairwise_singleton .., fun before member after last => ?_⟩
    obtain rfl := List.mem_singleton.mp last
    have early := spaced.until_last before member
    omega
  · intro moment member
    obtain inside | last := List.mem_append.mp member
    · have early := spaced.until_last moment inside
      omega
    · exact (List.mem_singleton.mp last).le

end ShadowNet.Go
