import Mathlib.Data.List.Basic

/-!
# Simulations

Components that answer calls one after another.  A component simulates a simpler one when
related states answer every call alike and stay related; it then answers every list of calls
alike.
-/

namespace Simulations

variable {State Spec Call Input Answer : Type*}

/-- The state after some calls, and what they answered, in order. -/
def answers (respond : State → Call → State × Answer) : State → List Call → State × List Answer
  | state, [] => (state, [])
  | state, call :: calls =>
      let (next, answer) := respond state call
      let (finish, later) := answers respond next calls
      (finish, answer :: later)

/-- Related states answer alike and stay related; `input` forgets what the simpler component
is not asked. -/
structure Simulates (concrete : State → Call → State × Answer)
    (abstract : Spec → Input → Spec × Answer) (input : Call → Input) (allowed : Call → Prop)
    (related : State → Spec → Prop) : Prop where
  step : ∀ {state spec call}, related state spec → allowed call →
    (concrete state call).2 = (abstract spec (input call)).2 ∧
      related (concrete state call).1 (abstract spec (input call)).1

/-- A list of calls is answered alike. -/
theorem Simulates.run {concrete : State → Call → State × Answer}
    {abstract : Spec → Input → Spec × Answer} {input : Call → Input} {allowed : Call → Prop}
    {related : State → Spec → Prop}
    (simulates : Simulates concrete abstract input allowed related) {state : State} {spec : Spec}
    (initially : related state spec) {calls : List Call} (permitted : ∀ call ∈ calls, allowed call) :
    (answers concrete state calls).2 = (answers abstract spec (calls.map input)).2 ∧
      related (answers concrete state calls).1 (answers abstract spec (calls.map input)).1 := by
  induction calls generalizing state spec with
  | nil => exact ⟨rfl, initially⟩
  | cons call calls ih =>
      obtain ⟨now, later⟩ := List.forall_mem_cons.mp permitted
      obtain ⟨alike, stays⟩ := simulates.step initially now
      obtain ⟨others, ends⟩ := ih stays later
      refine ⟨?_, ends⟩
      show _ :: _ = _ :: _
      rw [alike, others]

end Simulations
