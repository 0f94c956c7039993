import Mathlib.Algebra.BigOperators.Group.List.Basic
import Mathlib.Algebra.GroupWithZero.Nat
import Mathlib.Data.List.Induction

/-!
# Runs of a transition system

Finite runs of a step relation, with the events of the run in order.  An
invariant is proved of one step and holds along every run.  A one-shot system
has events of some weight, and the whole weight of a run is at most one: a step
either changes nothing that matters, or spends the system for good.
-/

namespace TransitionRuns

variable {State Event : Type*}

/-- A run with its events, the last step last. -/
inductive Run (step : State → Event → State → Prop) : State → List Event → State → Prop
  | refl (state : State) : Run step state [] state
  | tail {start middle finish : State} {events : List Event} {event : Event} :
      Run step start events middle → step middle event finish →
        Run step start (events ++ [event]) finish

namespace Run

variable {step : State → Event → State → Prop} {start finish : State} {events : List Event}

theorem single {event : Event} (stepped : step start event finish) :
    Run step start [event] finish :=
  tail (refl start) stepped

theorem append {middle : State} {more : List Event} (first : Run step start events middle)
    (second : Run step middle more finish) : Run step start (events ++ more) finish := by
  induction second with
  | refl => simpa using first
  | tail _ stepped ih =>
      rw [← List.append_assoc]
      exact tail ih stepped

theorem last {event : Event} (run : Run step start (events ++ [event]) finish) :
    ∃ middle, Run step start events middle ∧ step middle event finish := by
  generalize whole : events ++ [event] = all at run
  cases run with
  | refl => simp at whole
  | tail first stepped =>
      obtain ⟨rfl, same⟩ := List.append_inj' whole rfl
      obtain rfl := List.singleton_inj.mp same
      exact ⟨_, first, stepped⟩

theorem split {before after : List Event} (run : Run step start (before ++ after) finish) :
    ∃ middle, Run step start before middle ∧ Run step middle after finish := by
  induction after using List.reverseRecOn generalizing finish with
  | nil =>
      rw [List.append_nil] at run
      exact ⟨finish, run, refl finish⟩
  | append_singleton after event ih =>
      rw [← List.append_assoc] at run
      obtain ⟨late, first, stepped⟩ := run.last
      obtain ⟨middle, toMiddle, toLate⟩ := ih first
      exact ⟨middle, toMiddle, tail toLate stepped⟩

/-- A run whose events are all allowed is one of the allowed steps. -/
theorem restrict (run : Run step start events finish) {allowed : Event → Prop}
    (all : ∀ event ∈ events, allowed event) :
    Run (fun state event next => step state event next ∧ allowed event) start events finish := by
  induction run with
  | refl => exact refl _
  | tail _ stepped ih =>
      apply tail (ih fun event member => all event (List.mem_append_left _ member))
      exact ⟨stepped, all _ (List.mem_append_right _ (List.mem_singleton_self _))⟩

/-- What every step preserves holds at the end of a run that started with it. -/
theorem invariant (run : Run step start events finish) (holds : State → Prop)
    (preserved : ∀ {state event next}, holds state → step state event next → holds next)
    (initially : holds start) : holds finish := by
  induction run with
  | refl => exact initially
  | tail _ stepped ih => exact preserved ih stepped

/-- A relation between the events so far and the state that every step preserves. -/
theorem history (run : Run step start events finish) (holds : List Event → State → Prop)
    (preserved : ∀ {events state event next}, holds events state → step state event next →
      holds (events ++ [event]) next)
    (initially : holds [] start) : holds events finish := by
  induction run with
  | refl => exact initially
  | tail _ stepped ih => exact preserved ih stepped

/-- What every step from a state of an invariant does, every event of a run does. -/
theorem forall_events (run : Run step start events finish) (holds : State → Prop)
    {allowed : Event → Prop}
    (preserved : ∀ {state event next}, holds state → step state event next →
      allowed event ∧ holds next)
    (initially : holds start) :
    (∀ event ∈ events, allowed event) ∧ holds finish := by
  induction run with
  | refl => exact ⟨by simp, initially⟩
  | tail _ stepped ih =>
      obtain ⟨before, reached⟩ := ih
      obtain ⟨now, next⟩ := preserved reached stepped
      refine ⟨fun event member => ?_, next⟩
      rcases List.mem_append.mp member with earlier | last
      · exact before event earlier
      · rw [List.mem_singleton.mp last]
        exact now

end Run

/-- What the last event of a kind says. -/
def latest {Event Value : Type*} (value? : Event → Option Value) (events : List Event) :
    Option Value :=
  events.reverse.findSome? value?

theorem latest_concat {Event Value : Type*} (value? : Event → Option Value)
    (events : List Event) (event : Event) :
    latest value? (events ++ [event]) = (value? event).or (latest value? events) := by
  rw [latest, List.reverse_append, List.reverse_singleton, List.singleton_append,
    List.findSome?_cons]
  cases value? event <;> rfl

/-- Events weigh nothing until one of weight one, which spends the system. -/
structure OneShot (step : State → Event → State → Prop) (weight : Event → Nat)
    (fresh spent : State → Prop) : Prop where
  fresh_step : ∀ {state event next}, fresh state → step state event next →
    weight event = 0 ∧ fresh next ∨ weight event = 1 ∧ spent next
  spent_step : ∀ {state event next}, spent state → step state event next →
    weight event = 0 ∧ spent next

/-- A run of a one-shot system weighs at most one, and one only if it spent the
system. -/
theorem OneShot.run {step : State → Event → State → Prop} {weight : Event → Nat}
    {fresh spent : State → Prop} (oneShot : OneShot step weight fresh spent)
    {start finish : State} {events : List Event} (run : Run step start events finish)
    (initially : fresh start) :
    (events.map weight).sum = 0 ∧ fresh finish ∨ (events.map weight).sum = 1 ∧ spent finish := by
  induction run with
  | refl => exact .inl ⟨rfl, initially⟩
  | tail _ stepped ih =>
      simp only [List.map_append, List.map_cons, List.map_nil, List.sum_append, List.sum_cons,
        List.sum_nil]
      rcases ih with ⟨total, stillFresh⟩ | ⟨total, isSpent⟩
      · rcases oneShot.fresh_step stillFresh stepped with ⟨weightless, next⟩ | ⟨fired, next⟩
        · exact .inl ⟨by omega, next⟩
        · exact .inr ⟨by omega, next⟩
      · obtain ⟨weightless, next⟩ := oneShot.spent_step isSpent stepped
        exact .inr ⟨by omega, next⟩

end TransitionRuns
