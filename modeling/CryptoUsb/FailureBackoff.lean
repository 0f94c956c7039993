import Mathlib.Data.List.Basic

/-!
# Backoff after repeated failures

Attempts leave marks: failures, each with its time, and successes.  A counter
with a lock covers the failures since the last success when it counts no fewer
of them and, from a threshold on, its lock is the one due after the latest.
Marks of several keys are told apart by projection on one key.
-/

namespace FailureBackoff

inductive Mark (Time : Type*)
  | failure (time : Time)
  | success

variable {Time End Key : Type*}

/-- A success forgets the failures before it. -/
def Mark.after : List Time → Mark Time → List Time
  | failures, .failure time => time :: failures
  | _, .success => []

/-- The times of the failures since the last success, the latest first. -/
def recentFailures (marks : List (Mark Time)) : List Time :=
  marks.foldl Mark.after []

@[simp]
theorem recentFailures_nil : recentFailures ([] : List (Mark Time)) = [] :=
  rfl

@[simp]
theorem recentFailures_concat (marks : List (Mark Time)) (mark : Mark Time) :
    recentFailures (marks ++ [mark]) = mark.after (recentFailures marks) := by
  simp [recentFailures]

/-- A counter and its lock cover these failures. -/
structure Covers (threshold : Nat) (lockEnd : Nat → Time → Option End) (failures : List Time)
    (count : Nat) (lockedUntil : Option End) : Prop where
  counted : failures.length ≤ count
  locked : threshold ≤ failures.length → ∀ time, failures.head? = some time →
    ∃ reached, failures.length ≤ reached ∧ (lockEnd reached time).isSome ∧
      lockedUntil = lockEnd reached time

namespace Covers

variable {threshold count : Nat} {lockEnd : Nat → Time → Option End} {failures : List Time}
  {lockedUntil : Option End}

theorem nil : Covers threshold lockEnd [] count lockedUntil where
  counted := Nat.zero_le count
  locked := by
    intro _ time latest
    cases latest

/-- A failure that is counted but not told keeps the lock. -/
theorem untold (covers : Covers threshold lockEnd failures count lockedUntil) :
    Covers threshold lockEnd failures (count + 1) lockedUntil where
  counted := Nat.le_succ_of_le covers.counted
  locked := covers.locked

theorem failure (covers : Covers threshold lockEnd failures count lockedUntil) {time : Time}
    {nextLock : Option End}
    (locks : threshold ≤ count + 1 →
      (lockEnd (count + 1) time).isSome ∧ nextLock = lockEnd (count + 1) time) :
    Covers threshold lockEnd (time :: failures) (count + 1) nextLock where
  counted := Nat.succ_le_succ covers.counted
  locked := by
    intro reached latest isLatest
    obtain rfl := Option.some.inj isLatest
    have enough : (time :: failures).length ≤ count + 1 := Nat.succ_le_succ covers.counted
    obtain ⟨ends, locked⟩ := locks (Nat.le_trans reached enough)
    exact ⟨count + 1, enough, ends, locked⟩

end Covers

/-! ## Marks of several keys -/

variable [DecidableEq Key]

/-- The marks of one key, in order. -/
def marksFor (key : Key) (marks : List (Key × Mark Time)) : List (Mark Time) :=
  marks.filterMap fun mark => if mark.1 = key then some mark.2 else none

@[simp]
theorem marksFor_nil (key : Key) : marksFor key ([] : List (Key × Mark Time)) = [] :=
  rfl

@[simp]
theorem marksFor_concat_same (key : Key) (marks : List (Key × Mark Time)) (mark : Mark Time) :
    marksFor key (marks ++ [(key, mark)]) = marksFor key marks ++ [mark] := by
  simp [marksFor]

theorem marksFor_concat_other {key other : Key} (different : other ≠ key)
    (marks : List (Key × Mark Time)) (mark : Mark Time) :
    marksFor key (marks ++ [(other, mark)]) = marksFor key marks := by
  simp [marksFor, different]

end FailureBackoff
