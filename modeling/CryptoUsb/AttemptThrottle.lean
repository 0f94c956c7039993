import CryptoUsb.Errors
import CryptoUsb.IsoDateTime
import Mathlib.Data.List.AList

/-!
# Throttling of repeated failures

After a number of consecutive failures each further one locks for a time that
doubles up to a limit.  `DeviceMismatchThrottle` keeps this state for each file,
in memory.
-/

namespace CryptoUsb

open IsoDateTime

def maxFailedAttempts : Nat := 5

def baseLockoutSeconds : Nat := 30

def maxLockoutSeconds : Nat := 60 * 60

/-- The lockout after this many failures, or none below the threshold. -/
def lockoutSeconds (failedAttempts : Nat) : Option Nat :=
  if maxFailedAttempts ≤ failedAttempts then
    some (min (baseLockoutSeconds * 2 ^ (failedAttempts - maxFailedAttempts)) maxLockoutSeconds)
  else none

/-- The length of the lockout after this many failures, in ticks of the clock. -/
def lockoutTicks (failedAttempts : Nat) : Nat :=
  ticksPerSecond *
    min (baseLockoutSeconds * 2 ^ (failedAttempts - maxFailedAttempts)) maxLockoutSeconds

/-- The end of a lockout that starts now. -/
def lockoutEnd (now : UtcInstant) (seconds : Nat) : Raises DateTime :=
  match now.1.addTicks (seconds * ticksPerSecond) with
  | some lockedUntil => .ok lockedUntil
  | none => raise .overflowError "date value out of range"

/-- `now < locked_until`; both are aware. -/
def isBefore (now : UtcInstant) (lockedUntil : DateTime) : Bool :=
  now.1.lessThan lockedUntil = some true

/-- More failures never lock for less. -/
theorem lockoutTicks_mono {fewer more : Nat} (le : fewer ≤ more) :
    lockoutTicks fewer ≤ lockoutTicks more := by
  have exponent : fewer - maxFailedAttempts ≤ more - maxFailedAttempts := by omega
  have power : 2 ^ (fewer - maxFailedAttempts) ≤ 2 ^ (more - maxFailedAttempts) :=
    Nat.pow_le_pow_right (by decide) exponent
  unfold lockoutTicks
  gcongr

theorem lockoutSeconds_eq_some {failedAttempts seconds : Nat} :
    lockoutSeconds failedAttempts = some seconds ↔
      maxFailedAttempts ≤ failedAttempts ∧
        lockoutTicks failedAttempts = ticksPerSecond * seconds := by
  have positive : 0 < ticksPerSecond := by decide
  unfold lockoutSeconds lockoutTicks
  split_ifs with reached
  · rw [Option.some.injEq, Nat.mul_right_inj positive.ne', and_iff_right reached]
  · simp [reached]

/-- When the lockout after so many failures ends, where that is a date-time. -/
def lockoutEndAfter (failedAttempts : Nat) (now : UtcInstant) : Option DateTime :=
  now.1.addTicks (lockoutTicks failedAttempts)

theorem lockoutSeconds_eq_none {failedAttempts : Nat} :
    lockoutSeconds failedAttempts = none ↔ ¬ maxFailedAttempts ≤ failedAttempts := by
  unfold lockoutSeconds
  split_ifs with reached <;> simp [reached]

/-- `now + timedelta(microseconds=ticks)`. -/
def endAfterTicks (now : UtcInstant) (ticks : Nat) : Raises DateTime :=
  match now.1.addTicks ticks with
  | some lockedUntil => .ok lockedUntil
  | none => raise .overflowError "date value out of range"

theorem lockoutEnd_eq (now : UtcInstant) (seconds : Nat) :
    lockoutEnd now seconds = endAfterTicks now (seconds * ticksPerSecond) :=
  rfl

theorem toOption_endAfterTicks (now : UtcInstant) (ticks : Nat) :
    (endAfterTicks now ticks).toOption = now.1.addTicks ticks := by
  unfold endAfterTicks
  cases now.1.addTicks ticks <;> rfl

theorem lockoutEndAfter_eq {failedAttempts seconds : Nat} {now : UtcInstant}
    (due : lockoutSeconds failedAttempts = some seconds) :
    lockoutEndAfter failedAttempts now = (lockoutEnd now seconds).toOption := by
  rw [lockoutEnd_eq, toOption_endAfterTicks, lockoutEndAfter,
    (lockoutSeconds_eq_some.mp due).2, Nat.mul_comm]

/-- Until a lockout has lasted as long as it must for fewer failures, it is not over. -/
theorem isBefore_lockoutEndAfter {fewer more : Nat} (le : fewer ≤ more) {start now : UtcInstant}
    {lockedUntil : DateTime} (ends : lockoutEndAfter more start = some lockedUntil)
    (early : now.1.ticks < start.1.ticks + lockoutTicks fewer) :
    isBefore now lockedUntil = true := by
  have longer := lockoutTicks_mono le
  unfold lockoutEndAfter DateTime.addTicks at ends
  split_ifs at ends
  obtain rfl := Option.some.inj ends
  simp only [isBefore, DateTime.lessThan, now.2, start.2, decide_eq_true_eq, Option.some.injEq]
  omega

structure DeviceMismatchState where
  failedAttempts : Nat := 0
  lockedUntil : Option DateTime := none
  deriving DecidableEq

/-- One more mismatch; the lock stays where a new one would end past the last
date-time. -/
def DeviceMismatchState.counted (state : DeviceMismatchState) (now : UtcInstant) :
    DeviceMismatchState where
  failedAttempts := state.failedAttempts + 1
  lockedUntil :=
    if maxFailedAttempts ≤ state.failedAttempts + 1 then
      (lockoutEndAfter (state.failedAttempts + 1) now).or state.lockedUntil
    else state.lockedUntil

structure DeviceMismatchThrottle where
  state : AList (fun _ : String => DeviceMismatchState) := ∅

namespace DeviceMismatchThrottle

def isLocked (throttle : DeviceMismatchThrottle) (now : UtcInstant) (fileId : String) : Bool :=
  match throttle.state.lookup fileId with
  | none => false
  | some state => state.lockedUntil.any (isBefore now)

/-- Count a mismatch; at the threshold and beyond, lock. -/
def registerMismatch (throttle : DeviceMismatchThrottle) (now : UtcInstant) (fileId : String) :
    DeviceMismatchThrottle × Raises Unit :=
  let state := (throttle.state.lookup fileId).getD {}
  let counted := { state with failedAttempts := state.failedAttempts + 1 }
  match lockoutSeconds counted.failedAttempts with
  | none => (⟨throttle.state.insert fileId counted⟩, .ok ())
  | some seconds =>
      match lockoutEnd now seconds with
      | .error exc => (⟨throttle.state.insert fileId counted⟩, .error exc)
      | .ok lockedUntil =>
          (⟨throttle.state.insert fileId { counted with lockedUntil := some lockedUntil }⟩, .ok ())

def registerSuccess (throttle : DeviceMismatchThrottle) (fileId : String) :
    DeviceMismatchThrottle :=
  match throttle.state.lookup fileId with
  | none => throttle
  | some _ => ⟨throttle.state.insert fileId {}⟩

/-- The state of a file, with nothing counted where there is none. -/
def stateOf (throttle : DeviceMismatchThrottle) (fileId : String) : DeviceMismatchState :=
  (throttle.state.lookup fileId).getD {}

theorem isLocked_eq (throttle : DeviceMismatchThrottle) (now : UtcInstant) (fileId : String) :
    throttle.isLocked now fileId = (throttle.stateOf fileId).lockedUntil.any (isBefore now) := by
  unfold isLocked stateOf
  cases throttle.state.lookup fileId <;> rfl

/-- What is stored for a counted mismatch: with a new lock where one is due and ends
at a date-time. -/
def stored (throttle : DeviceMismatchThrottle) (fileId : String) (counted : DeviceMismatchState)
    (ends : Nat → Raises DateTime) (due : Option Nat) : DeviceMismatchThrottle × Raises Unit :=
  match due with
  | none => (⟨throttle.state.insert fileId counted⟩, .ok ())
  | some seconds =>
      match ends seconds with
      | .error exc => (⟨throttle.state.insert fileId counted⟩, .error exc)
      | .ok lockedUntil =>
          (⟨throttle.state.insert fileId { counted with lockedUntil := some lockedUntil }⟩, .ok ())

theorem state_stored (throttle : DeviceMismatchThrottle) (fileId : String)
    (counted : DeviceMismatchState) (ends : Nat → Raises DateTime) (due : Option Nat) :
    (stored throttle fileId counted ends due).1.state =
      throttle.state.insert fileId
        { counted with
          lockedUntil := (due.bind fun seconds => (ends seconds).toOption).or
            counted.lockedUntil } := by
  cases due with
  | none => rfl
  | some seconds =>
      simp only [stored, Option.bind_some]
      cases ends seconds <;> rfl

theorem stored_returns {throttle : DeviceMismatchThrottle} {fileId : String}
    {counted : DeviceMismatchState} {ends : Nat → Raises DateTime} {due : Option Nat} :
    (stored throttle fileId counted ends due).2 = .ok () ↔
      ∀ seconds, due = some seconds → (ends seconds).toOption.isSome := by
  cases due with
  | none => simp [stored]
  | some seconds =>
      simp only [stored, Option.some.injEq, forall_eq']
      cases ends seconds <;> simp [Except.toOption]

theorem registerMismatch_eq (throttle : DeviceMismatchThrottle) (now : UtcInstant)
    (fileId : String) :
    throttle.registerMismatch now fileId =
      stored throttle fileId
        { throttle.stateOf fileId with
          failedAttempts := (throttle.stateOf fileId).failedAttempts + 1 }
        (lockoutEnd now) (lockoutSeconds ((throttle.stateOf fileId).failedAttempts + 1)) :=
  rfl

theorem state_registerMismatch (throttle : DeviceMismatchThrottle) (now : UtcInstant)
    (fileId : String) :
    (throttle.registerMismatch now fileId).1.state =
      throttle.state.insert fileId ((throttle.stateOf fileId).counted now) := by
  rw [registerMismatch_eq, state_stored, DeviceMismatchState.counted]
  cases due : lockoutSeconds ((throttle.stateOf fileId).failedAttempts + 1) with
  | none => rw [if_neg (lockoutSeconds_eq_none.mp due), Option.bind_none, Option.none_or]
  | some seconds =>
      rw [if_pos (lockoutSeconds_eq_some.mp due).1, lockoutEndAfter_eq due, Option.bind_some]

/-- Counting raises exactly where the lockout would end past the last date-time. -/
theorem registerMismatch_returns {throttle : DeviceMismatchThrottle} {now : UtcInstant}
    {fileId : String} :
    (throttle.registerMismatch now fileId).2 = .ok () ↔
      (maxFailedAttempts ≤ (throttle.stateOf fileId).failedAttempts + 1 →
        (lockoutEndAfter ((throttle.stateOf fileId).failedAttempts + 1) now).isSome) := by
  rw [registerMismatch_eq, stored_returns]
  cases due : lockoutSeconds ((throttle.stateOf fileId).failedAttempts + 1) with
  | none =>
      have notReached := lockoutSeconds_eq_none.mp due
      exact ⟨fun _ reached => absurd reached notReached, fun _ _ isDue => nomatch isDue⟩
  | some seconds =>
      rw [lockoutEndAfter_eq due, imp_iff_right (lockoutSeconds_eq_some.mp due).1]
      constructor
      · intro ended
        exact ended seconds rfl
      · rintro ended _ ⟨⟩
        exact ended

theorem stateOf_registerMismatch (throttle : DeviceMismatchThrottle) (now : UtcInstant)
    (fileId : String) :
    (throttle.registerMismatch now fileId).1.stateOf fileId =
      (throttle.stateOf fileId).counted now := by
  simp [stateOf, state_registerMismatch, AList.lookup_insert]

theorem stateOf_registerMismatch_other (throttle : DeviceMismatchThrottle) (now : UtcInstant)
    {fileId other : String} (different : fileId ≠ other) :
    (throttle.registerMismatch now other).1.stateOf fileId = throttle.stateOf fileId := by
  simp [stateOf, state_registerMismatch, AList.lookup_insert_ne different]

theorem stateOf_registerSuccess (throttle : DeviceMismatchThrottle) (fileId : String) :
    (throttle.registerSuccess fileId).stateOf fileId = {} := by
  unfold registerSuccess stateOf
  cases found : throttle.state.lookup fileId with
  | none => simp [found]
  | some state => simp [AList.lookup_insert]

theorem stateOf_registerSuccess_other (throttle : DeviceMismatchThrottle)
    {fileId other : String} (different : fileId ≠ other) :
    (throttle.registerSuccess other).stateOf fileId = throttle.stateOf fileId := by
  unfold registerSuccess stateOf
  cases throttle.state.lookup other with
  | none => rfl
  | some state => simp [AList.lookup_insert_ne different]

/-- Right after a success the file is not locked, whatever the time. -/
@[simp]
theorem isLocked_registerSuccess (throttle : DeviceMismatchThrottle) (now : UtcInstant)
    (fileId : String) : (throttle.registerSuccess fileId).isLocked now fileId = false := by
  rw [isLocked_eq, stateOf_registerSuccess]
  rfl

end DeviceMismatchThrottle

end CryptoUsb
