import Mathlib.Data.List.Forall2

/-!
# Code that draws at random

Code that threads the state of a source of randomness and may raise.  What such code does
whatever it draws is stated by `Always`: it returns from every state of the source, and its value
satisfies the postcondition.
-/

namespace RandomDraws

variable {State Error Value Result Item : Type}

abbrev Drawing (State Error : Type) := StateT State (Except Error)

def Always (code : Drawing State Error Value) (holds : Value → Prop) : Prop :=
  ∀ state, ∃ value next, code state = .ok (value, next) ∧ holds value

namespace Always

variable {code : Drawing State Error Value} {rest : Value → Drawing State Error Result}
  {holds weaker : Value → Prop} {ends : Result → Prop}

protected theorem pure {value : Value} (held : holds value) :
    Always (pure value : Drawing State Error Value) holds :=
  fun state => ⟨value, state, rfl, held⟩

protected theorem bind (first : Always code holds)
    (second : ∀ value, holds value → Always (rest value) ends) : Always (code >>= rest) ends := by
  intro state
  obtain ⟨value, middle, drawn, held⟩ := first state
  obtain ⟨result, next, returned, ended⟩ := second value held middle
  refine ⟨result, next, ?_, ended⟩
  show (code state >>= fun pair => rest pair.1 pair.2) = _
  rw [drawn]
  exact returned

theorem imp (always : Always code holds) (weakens : ∀ value, holds value → weaker value) :
    Always code weaker := by
  intro state
  obtain ⟨value, next, drawn, held⟩ := always state
  exact ⟨value, next, drawn, weakens value held⟩

theorem map {change : Value → Result} (always : Always code fun value => ends (change value)) :
    Always (change <$> code) ends := by
  rw [map_eq_pure_bind]
  exact .bind always fun value ended => .pure ended

theorem lift {outcome : Except Error Value} {value : Value} (returned : outcome = .ok value)
    (held : holds value) :
    Always (liftM outcome : Drawing State Error Value) holds := by
  intro state
  rw [returned]
  exact ⟨value, state, rfl, held⟩

/-- A comprehension, with a postcondition for each of its values. -/
theorem mapM {items : List Item} {each : Item → Drawing State Error Value}
    (always : ∀ item ∈ items, Always (each item) holds) :
    Always (items.mapM each) fun values =>
      values.length = items.length ∧ ∀ value ∈ values, holds value := by
  induction items with
  | nil =>
      rw [List.mapM_nil]
      exact .pure ⟨rfl, by simp⟩
  | cons item items ih =>
      obtain ⟨first, others⟩ := List.forall_mem_cons.mp always
      rw [List.mapM_cons]
      refine .bind first fun value held => .bind (ih others) fun values drawn => .pure ⟨?_, ?_⟩
      · rw [List.length_cons, List.length_cons, drawn.1]
      · exact List.forall_mem_cons.mpr ⟨held, drawn.2⟩

/-- A loop, with an invariant of the number of rounds. -/
theorem foldlM_range {round : Value → Nat → Drawing State Error Value} {start : Value}
    (invariant : Nat → Value → Prop) (starts : invariant 0 start)
    (keeps : ∀ done value, invariant done value →
      Always (round value done) (invariant (done + 1))) (count : Nat) :
    Always ((List.range count).foldlM round start) (invariant count) := by
  induction count with
  | zero =>
      rw [List.range_zero, List.foldlM_nil]
      exact .pure starts
  | succ count ih =>
      rw [List.range_succ, List.foldlM_append]
      refine .bind ih fun value held => ?_
      rw [List.foldlM_cons]
      exact .bind (keeps count value held) fun next kept => .pure kept

end Always

end RandomDraws
