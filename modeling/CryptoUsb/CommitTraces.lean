import Mathlib.Data.List.Basic

/-!
# Commit traces

Code that works on a store and commits its changes one after another.  Running
it gives the states it commits, in order, and its outcome.  The store is left in
the last of them; an interruption leaves it in an earlier one, or where it was.
-/

namespace CommitTraces

structure Trace (State Failure Value : Type) where
  commits : List State
  outcome : Except Failure Value

/-- Code that commits states of a store and returns or raises. -/
structure Committing (State Failure Value : Type) where
  run : State → Trace State Failure Value

variable {State Failure Value Result : Type}

namespace Trace

/-- The state after the code, run from this state. -/
def finalState (trace : Trace State Failure Value) (start : State) : State :=
  trace.commits.getLast?.getD start

/-- The state where the code is cut short after so many commits. -/
def stateAt (trace : Trace State Failure Value) (start : State) (count : Nat) : State :=
  (trace.commits.take count).getLast?.getD start

/-- The trace of code that runs after these commits. -/
def after (earlier : List State) (trace : Trace State Failure Value) :
    Trace State Failure Value where
  commits := earlier ++ trace.commits
  outcome := trace.outcome

@[simp]
theorem finalState_nil (outcome : Except Failure Value) (start : State) :
    (⟨[], outcome⟩ : Trace State Failure Value).finalState start = start :=
  rfl

@[simp]
theorem finalState_concat (commits : List State) (last : State)
    (outcome : Except Failure Value) (start : State) :
    (⟨commits ++ [last], outcome⟩ : Trace State Failure Value).finalState start = last := by
  simp [finalState]

@[simp]
theorem finalState_after (earlier : List State) (trace : Trace State Failure Value)
    (start : State) :
    (trace.after earlier).finalState start =
      trace.finalState
        ((⟨earlier, trace.outcome⟩ : Trace State Failure Value).finalState start) := by
  unfold finalState after
  rw [List.getLast?_append]
  cases trace.commits.getLast? <;> rfl

@[simp]
theorem after_nil (trace : Trace State Failure Value) : trace.after [] = trace :=
  rfl

@[simp]
theorem after_mk (earlier commits : List State) (outcome : Except Failure Value) :
    (⟨commits, outcome⟩ : Trace State Failure Value).after earlier =
      ⟨earlier ++ commits, outcome⟩ :=
  rfl

theorem finalState_mem (trace : Trace State Failure Value) (start : State) :
    trace.finalState start = start ∨ trace.finalState start ∈ trace.commits := by
  unfold finalState
  cases last : trace.commits.getLast? with
  | none => exact .inl rfl
  | some state => exact .inr (List.mem_of_getLast? last)

theorem stateAt_of_length_le (trace : Trace State Failure Value) (start : State) {count : Nat}
    (complete : trace.commits.length ≤ count) :
    trace.stateAt start count = trace.finalState start := by
  rw [stateAt, finalState, List.take_of_length_le complete]

@[simp]
theorem stateAt_zero (trace : Trace State Failure Value) (start : State) :
    trace.stateAt start 0 = start :=
  rfl

theorem stateAt_mem (trace : Trace State Failure Value) (start : State) (count : Nat) :
    trace.stateAt start count = start ∨ trace.stateAt start count ∈ trace.commits := by
  unfold stateAt
  cases last : (trace.commits.take count).getLast? with
  | none => exact .inl rfl
  | some state =>
      refine .inr ?_
      exact List.mem_of_mem_take (List.mem_of_getLast? last)

end Trace

namespace Committing

protected def pure (value : Value) : Committing State Failure Value where
  run _ := ⟨[], .ok value⟩

/-- The second part starts from the last state that the first one committed. -/
protected def bind (code : Committing State Failure Value)
    (next : Value → Committing State Failure Result) : Committing State Failure Result where
  run start :=
    match code.run start with
    | ⟨commits, .error failure⟩ => ⟨commits, .error failure⟩
    | ⟨commits, .ok value⟩ => ((next value).run (commits.getLast?.getD start)).after commits

instance : Monad (Committing State Failure) where
  pure := Committing.pure
  bind := Committing.bind

/-- Code that reads the store and may raise. -/
def read (answer : State → Except Failure Value) : Committing State Failure Value where
  run start := ⟨[], answer start⟩

/-- Code that does not touch the store. -/
def lift (answer : Except Failure Value) : Committing State Failure Value :=
  read fun _ => answer

/-- One commit. -/
def commit (change : State → State) : Committing State Failure Unit where
  run start := ⟨[change start], .ok ()⟩

@[simp]
theorem run_pure (value : Value) (start : State) :
    (pure value : Committing State Failure Value).run start = ⟨[], .ok value⟩ :=
  rfl

@[simp]
theorem run_read (answer : State → Except Failure Value) (start : State) :
    (read answer).run start = ⟨[], answer start⟩ :=
  rfl

@[simp]
theorem run_lift (answer : Except Failure Value) (start : State) :
    (lift answer : Committing State Failure Value).run start = ⟨[], answer⟩ :=
  rfl

@[simp]
theorem run_commit (change : State → State) (start : State) :
    (commit change : Committing State Failure Unit).run start = ⟨[change start], .ok ()⟩ :=
  rfl

variable {code : Committing State Failure Value} {next : Value → Committing State Failure Result}
  {start : State} {commits : List State}

theorem run_bind (code : Committing State Failure Value)
    (next : Value → Committing State Failure Result) (start : State) :
    (code >>= next).run start =
      match code.run start with
      | ⟨commits, .error failure⟩ => ⟨commits, .error failure⟩
      | ⟨commits, .ok value⟩ => ((next value).run (commits.getLast?.getD start)).after commits :=
  rfl

theorem run_bind_returned {value : Value} {last : State}
    (returned : code.run start = ⟨commits, .ok value⟩)
    (final : commits.getLast?.getD start = last) :
    (code >>= next).run start = ((next value).run last).after commits := by
  rw [run_bind, returned, ← final]

theorem run_bind_ok {value : Value} (returned : code.run start = ⟨[], .ok value⟩) :
    (code >>= next).run start = (next value).run start := by
  rw [run_bind, returned]
  rfl

/-- A part that returns after one commit. -/
theorem run_bind_commit {value : Value} {state : State}
    (returned : code.run start = ⟨[state], .ok value⟩) :
    (code >>= next).run start = ((next value).run state).after [state] := by
  rw [run_bind, returned]
  rfl

theorem run_bind_pure (code : Committing State Failure Value) (change : Value → Result)
    (start : State) :
    (code >>= fun value => pure (change value)).run start =
      ⟨(code.run start).commits, (code.run start).outcome.map change⟩ := by
  rw [run_bind]
  rcases code.run start with ⟨commits, failure | value⟩
  · rfl
  · simp [Except.map]

/-- A part that raises ends the code. -/
theorem run_bind_error {failure : Failure} (raised : code.run start = ⟨commits, .error failure⟩) :
    (code >>= next).run start = ⟨commits, .error failure⟩ := by
  rw [run_bind, raised]

/-- Code with a handler that continues from what it had committed when it raised. -/
def handle {Failure' : Type} (code : Committing State Failure Value)
    (handler : Failure → Committing State Failure' Value) :
    Committing State Failure' Value where
  run start :=
    match code.run start with
    | ⟨commits, .ok value⟩ => ⟨commits, .ok value⟩
    | ⟨commits, .error failure⟩ =>
        ((handler failure).run (commits.getLast?.getD start)).after commits

end Committing

/-- Every commit of the code keeps the property. -/
def Keeps (code : Committing State Failure Value) (holds : State → Prop) : Prop :=
  ∀ start, holds start → ∀ state ∈ (code.run start).commits, holds state

namespace Keeps

variable {code : Committing State Failure Value} {next : Value → Committing State Failure Result}
  {holds : State → Prop} {start : State}

theorem finalState (keeps : Keeps code holds) (initially : holds start) :
    holds ((code.run start).finalState start) := by
  unfold Trace.finalState
  cases last : (code.run start).commits.getLast? with
  | none => exact initially
  | some state => exact keeps start initially state (List.mem_of_getLast? last)

theorem stateAt (keeps : Keeps code holds) (initially : holds start) (count : Nat) :
    holds ((code.run start).stateAt start count) := by
  rcases Trace.stateAt_mem (code.run start) start count with same | member
  · rwa [same]
  · exact keeps start initially _ member

theorem pure (value : Value) : Keeps (Pure.pure value : Committing State Failure Value) holds :=
  fun _ _ _ member => absurd member List.not_mem_nil

theorem read (answer : State → Except Failure Value) : Keeps (Committing.read answer) holds :=
  fun _ _ _ member => absurd member List.not_mem_nil

theorem lift (answer : Except Failure Value) :
    Keeps (Committing.lift answer : Committing State Failure Value) holds :=
  read _

theorem commit {change : State → State} (kept : ∀ state, holds state → holds (change state)) :
    Keeps (Committing.commit change : Committing State Failure Unit) holds := by
  intro start initially state member
  obtain rfl := List.mem_singleton.mp member
  exact kept start initially

theorem bind (first : Keeps code holds) (second : ∀ value, Keeps (next value) holds) :
    Keeps (code >>= next) holds := by
  intro start initially state member
  have between := first.finalState initially
  have early := first start initially
  rw [Committing.run_bind] at member
  unfold Trace.finalState at between
  rcases ran : code.run start with ⟨commits, failure | value⟩
  · rw [ran] at early member
    exact early state member
  · rw [ran] at early member between
    rcases List.mem_append.mp member with before | behind
    · exact early state before
    · exact second value _ between state behind

end Keeps

/-- Whatever the code raises is allowed. -/
def FailsWithin (code : Committing State Failure Value) (allowed : Failure → Prop) : Prop :=
  ∀ start failure, (code.run start).outcome = .error failure → allowed failure

namespace FailsWithin

variable {code : Committing State Failure Value} {next : Value → Committing State Failure Result}
  {allowed : Failure → Prop}

theorem pure (value : Value) :
    FailsWithin (Pure.pure value : Committing State Failure Value) allowed :=
  fun _ _ raised => nomatch raised

theorem read {answer : State → Except Failure Value}
    (within : ∀ state failure, answer state = .error failure → allowed failure) :
    FailsWithin (Committing.read answer) allowed :=
  within

theorem lift {answer : Except Failure Value}
    (within : ∀ failure, answer = .error failure → allowed failure) :
    FailsWithin (Committing.lift answer : Committing State Failure Value) allowed :=
  fun _ => within

theorem commit (change : State → State) :
    FailsWithin (Committing.commit change : Committing State Failure Unit) allowed :=
  fun _ _ raised => nomatch raised

theorem bind (first : FailsWithin code allowed)
    (second : ∀ value, FailsWithin (next value) allowed) :
    FailsWithin (code >>= next) allowed := by
  intro start failure raised
  rw [Committing.run_bind] at raised
  have early := first start
  rcases ran : code.run start with ⟨commits, failed | value⟩
  · rw [ran] at early raised
    exact early failure (congrArg Except.error (Except.error.inj raised))
  · rw [ran] at raised
    exact second value _ failure raised

end FailsWithin

end CommitTraces
