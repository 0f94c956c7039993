import Mathlib.Data.List.Basic
import Mathlib.Data.Set.Basic
import Mathlib.Logic.Relation

/-!
# Scoped handles

Code that creates objects on a heap, reads them through their handles and clears them, and
that may return or raise.  Code is tidy when every object it created is cleared by the time it
ends, however it ends, and when it has read none that was cleared before.  Code that is called
on the way may create objects of its own, and may clear what it is given.
-/

namespace ScopedHandles

/-- Who created an object: the code under study, or code that it calls. -/
inductive Owner
  | operation
  | client
  deriving DecidableEq

structure Entry (Cell : Type) where
  owner : Owner
  cell : Cell

/-- The objects in the order of their creation, and for every read whether the object was
live. -/
structure Heap (Cell : Type) where
  entries : List (Entry Cell) := []
  reads : List Bool := []

/-- Code that works on a heap and returns or raises. -/
structure HandleCode (Cell Failure Value : Type) where
  run : Heap Cell → Except Failure Value × Heap Cell

/-- How objects are cleared. -/
structure Disposal (Cell : Type) where
  clear : Cell → Cell
  Cleared : Cell → Prop
  cleared_clear : ∀ cell, Cleared (clear cell)
  clear_of_cleared : ∀ cell, Cleared cell → clear cell = cell

variable {Cell Failure Value Result : Type}

namespace Heap

def push (heap : Heap Cell) (owner : Owner) (cell : Cell) : Heap Cell :=
  { heap with entries := heap.entries ++ [⟨owner, cell⟩] }

/-- Change the object behind a handle. -/
def change (heap : Heap Cell) (handle : Nat) (changed : Cell → Cell) : Heap Cell :=
  { heap with
    entries := heap.entries.modify handle fun entry => { entry with cell := changed entry.cell } }

variable (heap : Heap Cell) (owner : Owner) (cell : Cell) {handle other : Nat}
  (changed : Cell → Cell)

@[simp]
theorem push_self : (heap.push owner cell).entries[heap.entries.length]? =
    some ⟨owner, cell⟩ := by
  simp [push]

theorem push_other (older : handle < heap.entries.length) :
    (heap.push owner cell).entries[handle]? = heap.entries[handle]? := by
  simp [push, List.getElem?_append_left older]

@[simp]
theorem length_push : (heap.push owner cell).entries.length = heap.entries.length + 1 := by
  simp [push]

@[simp]
theorem length_change : (heap.change handle changed).entries.length = heap.entries.length := by
  simp [change]

theorem change_self {entry : Entry Cell} (found : heap.entries[handle]? = some entry) :
    (heap.change handle changed).entries[handle]? =
      some { entry with cell := changed entry.cell } := by
  simp [change, found]

theorem change_other (different : other ≠ handle) :
    (heap.change handle changed).entries[other]? = heap.entries[other]? := by
  simp [change, different.symm]

end Heap

/-! ## Code -/

namespace HandleCode

protected def pure (value : Value) : HandleCode Cell Failure Value where
  run heap := (.ok value, heap)

protected def bind (code : HandleCode Cell Failure Value)
    (next : Value → HandleCode Cell Failure Result) : HandleCode Cell Failure Result where
  run heap :=
    match code.run heap with
    | (.error failure, after) => (.error failure, after)
    | (.ok value, after) => (next value).run after

instance : Monad (HandleCode Cell Failure) where
  pure := HandleCode.pure
  bind := HandleCode.bind

/-- Code that does not touch the heap. -/
def lift (answer : Except Failure Value) : HandleCode Cell Failure Value where
  run heap := (answer, heap)

/-- A new object; its handle is its place on the heap. -/
def create (owner : Owner) (cell : Cell) : HandleCode Cell Failure Nat where
  run heap := (.ok heap.entries.length, heap.push owner cell)

/-- Look at an object. -/
def read (handle : Nat) (live : Cell → Bool) (look : Option Cell → Except Failure Value) :
    HandleCode Cell Failure Value where
  run heap :=
    match heap.entries[handle]? with
    | none => (look none, heap)
    | some entry => (look (some entry.cell), { heap with reads := heap.reads ++ [live entry.cell] })

def change (handle : Nat) (changed : Cell → Cell) : HandleCode Cell Failure Unit where
  run heap := (.ok (), heap.change handle changed)

/-- `try: ... finally: ...`, where the second part does not raise. -/
def ensuring (code : HandleCode Cell Failure Value) (cleanup : HandleCode Cell Failure Unit) :
    HandleCode Cell Failure Value where
  run heap :=
    match code.run heap with
    | (outcome, between) =>
        match cleanup.run between with
        | (.ok (), after) => (outcome, after)
        | (.error failure, after) => (.error failure, after)

/-- How the code ended, without raising. -/
def reify (code : HandleCode Cell Failure Value) :
    HandleCode Cell Failure (Except Failure Value) where
  run heap :=
    match code.run heap with
    | (outcome, after) => (.ok outcome, after)

/-- `try: ... except: ...`. -/
def rescue (code : HandleCode Cell Failure Value)
    (handler : Failure → HandleCode Cell Failure Value) : HandleCode Cell Failure Value where
  run heap :=
    match code.run heap with
    | (.ok value, after) => (.ok value, after)
    | (.error failure, after) => (handler failure).run after

theorem bind_assoc {Last : Type} (code : HandleCode Cell Failure Value)
    (next : Value → HandleCode Cell Failure Result)
    (last : Result → HandleCode Cell Failure Last) :
    code >>= next >>= last = code >>= fun value => next value >>= last := by
  simp only [Bind.bind, HandleCode.bind, HandleCode.mk.injEq]
  funext heap
  rcases code.run heap with ⟨_ | _, _⟩ <;> rfl

end HandleCode

/-! ## Tidy code -/

section Tidiness

variable (disposal : Disposal Cell)

/-- From one heap to a later one: older objects are as they were or cleared, those that the
operation created are cleared but for the pending ones, and all it read were live. -/
structure Tidy (pending : Set Nat) (before after : Heap Cell) : Prop where
  kept : ∀ (handle : Nat) (entry : Entry Cell), before.entries[handle]? = some entry →
    ∃ cell, after.entries[handle]? = some ⟨entry.owner, cell⟩ ∧
      (cell = entry.cell ∨ cell = disposal.clear entry.cell)
  fresh : ∀ (handle : Nat) (entry : Entry Cell), before.entries.length ≤ handle →
    after.entries[handle]? = some entry → entry.owner = .operation → handle ∉ pending →
      disposal.Cleared entry.cell
  reads : ∃ more, after.reads = before.reads ++ more ∧ ∀ live ∈ more, live = true

/-- What code that is called may do with objects: create its own, and clear any. -/
inductive ClientStep : Heap Cell → Heap Cell → Prop
  | create (heap : Heap Cell) (cell : Cell) : ClientStep heap (heap.push .client cell)
  | clear (heap : Heap Cell) (handle : Nat) :
      ClientStep heap (heap.change handle disposal.clear)

/-- Code that is called: it may do anything that takes client steps. -/
structure ClientCode (Failure Value : Type) where
  code : HandleCode Cell Failure Value
  steps : ∀ heap, Relation.ReflTransGen (ClientStep disposal) heap (code.run heap).2

/-- From this heap the code ends like this and leaves the heap tidy. -/
def Runs (code : HandleCode Cell Failure Value) (heap : Heap Cell)
    (outcome : Except Failure Value) (pending : Set Nat) : Prop :=
  ∃ after, code.run heap = (outcome, after) ∧ Tidy disposal pending heap after

end Tidiness

namespace Tidy

variable {disposal : Disposal Cell} {pending more : Set Nat} {before between after : Heap Cell}

theorem refl (pending : Set Nat) (heap : Heap Cell) : Tidy disposal pending heap heap where
  kept _ entry found := ⟨entry.cell, found, .inl rfl⟩
  fresh handle entry beyond found := by
    have inside := (List.getElem?_eq_some_iff.mp found).1
    omega
  reads := ⟨[], by simp, by simp⟩

theorem trans (first : Tidy disposal pending before between)
    (second : Tidy disposal pending between after) : Tidy disposal pending before after where
  kept := by
    intro handle entry found
    obtain ⟨cell, foundBetween, early⟩ := first.kept handle entry found
    obtain ⟨last, foundAfter, late⟩ := second.kept handle _ foundBetween
    refine ⟨last, foundAfter, ?_⟩
    rcases early with rfl | rfl
    · exact late
    · rw [disposal.clear_of_cleared _ (disposal.cleared_clear _), or_self] at late
      exact .inr late
  fresh := by
    intro handle entry beyond found isOperation notPending
    by_cases made : handle < between.entries.length
    · obtain ⟨cell, foundAfter, late⟩ :=
        second.kept handle _ (List.getElem?_eq_getElem made)
      obtain rfl := Option.some.inj (found.symm.trans foundAfter)
      have cleared := first.fresh handle _ beyond (List.getElem?_eq_getElem made) isOperation
        notPending
      rcases late with rfl | rfl
      · exact cleared
      · exact disposal.cleared_clear _
    · exact second.fresh handle entry (by omega) found isOperation notPending
  reads := by
    obtain ⟨early, beforeReads, earlyLive⟩ := first.reads
    obtain ⟨late, afterReads, lateLive⟩ := second.reads
    refine ⟨early ++ late, by rw [afterReads, beforeReads, List.append_assoc], ?_⟩
    intro live member
    rcases List.mem_append.mp member with inEarly | inLate
    · exact earlyLive live inEarly
    · exact lateLive live inLate

theorem mono (tidy : Tidy disposal pending before after) (subset : pending ⊆ more) :
    Tidy disposal more before after where
  kept := tidy.kept
  fresh handle entry beyond found isOperation notPending :=
    tidy.fresh handle entry beyond found isOperation fun isPending => notPending (subset isPending)
  reads := tidy.reads

theorem push (heap : Heap Cell) (cell : Cell) :
    Tidy disposal {heap.entries.length} heap (heap.push .operation cell) where
  kept handle entry found := by
    have older := (List.getElem?_eq_some_iff.mp found).1
    exact ⟨entry.cell, (heap.push_other _ cell older).trans found, .inl rfl⟩
  fresh handle entry beyond found _ notPending := by
    have inside := (List.getElem?_eq_some_iff.mp found).1
    rw [Heap.length_push] at inside
    exact absurd (show handle = heap.entries.length by omega) notPending
  reads := ⟨[], by simp [Heap.push], by simp⟩

theorem push_client (heap : Heap Cell) (cell : Cell) :
    Tidy disposal ∅ heap (heap.push .client cell) where
  kept handle entry found := by
    have older := (List.getElem?_eq_some_iff.mp found).1
    exact ⟨entry.cell, (heap.push_other _ cell older).trans found, .inl rfl⟩
  fresh handle entry beyond found isOperation _ := by
    have inside := (List.getElem?_eq_some_iff.mp found).1
    rw [Heap.length_push] at inside
    obtain rfl : handle = heap.entries.length := by omega
    rw [Heap.push_self] at found
    obtain rfl := Option.some.inj found
    exact nomatch isOperation
  reads := ⟨[], by simp [Heap.push], by simp⟩

theorem change_clear (heap : Heap Cell) (handle : Nat) :
    Tidy disposal ∅ heap (heap.change handle disposal.clear) where
  kept other entry found := by
    by_cases same : other = handle
    · subst same
      exact ⟨_, heap.change_self _ found, .inr rfl⟩
    · exact ⟨entry.cell, (heap.change_other _ same).trans found, .inl rfl⟩
  fresh other entry beyond found := by
    have inside := (List.getElem?_eq_some_iff.mp found).1
    rw [Heap.length_change] at inside
    omega
  reads := ⟨[], by simp [Heap.change], by simp⟩

/-- An object that is cleared is pending no longer. -/
theorem clear (tidy : Tidy disposal pending before between) (handle : Nat) :
    Tidy disposal (pending \ {handle}) before (between.change handle disposal.clear) where
  kept := (tidy.trans ((change_clear between handle).mono (Set.empty_subset _))).kept
  fresh := by
    intro other entry beyond found isOperation notPending
    by_cases same : other = handle
    · subst same
      have inside := (List.getElem?_eq_some_iff.mp found).1
      rw [Heap.length_change] at inside
      rw [between.change_self _ (List.getElem?_eq_getElem inside)] at found
      obtain rfl := Option.some.inj found
      exact disposal.cleared_clear _
    · rw [between.change_other _ same] at found
      exact tidy.fresh other entry beyond found isOperation fun isPending =>
        notPending ⟨isPending, same⟩
  reads := (tidy.trans ((change_clear between handle).mono (Set.empty_subset _))).reads

theorem of_clientSteps (steps : Relation.ReflTransGen (ClientStep disposal) before after) :
    Tidy disposal ∅ before after := by
  induction steps with
  | refl => exact refl ∅ before
  | tail _ step ih =>
      cases step with
      | create cell => exact ih.trans (push_client _ cell)
      | clear handle => exact ih.trans (change_clear _ handle)

end Tidy

/-! ## Rules for code -/

namespace Runs

variable {disposal : Disposal Cell} {code : HandleCode Cell Failure Value}
  {next : Value → HandleCode Cell Failure Result} {heap : Heap Cell}
  {outcome : Except Failure Value} {result : Except Failure Result} {pending : Set Nat}

theorem lift (answer : Except Failure Value) (heap : Heap Cell) :
    Runs disposal (HandleCode.lift answer) heap answer ∅ :=
  ⟨heap, rfl, .refl ∅ heap⟩

theorem pure (value : Value) (heap : Heap Cell) :
    Runs disposal (Pure.pure value : HandleCode Cell Failure Value) heap (.ok value) ∅ :=
  ⟨heap, rfl, .refl ∅ heap⟩

theorem client (called : ClientCode disposal Failure Value) (heap : Heap Cell) :
    Runs disposal called.code heap (called.code.run heap).1 ∅ :=
  ⟨_, rfl, .of_clientSteps (called.steps heap)⟩

theorem bind {second : Value → Except Failure Result} (first : Runs disposal code heap outcome ∅)
    (rest : ∀ value, outcome = .ok value → ∀ after, Tidy disposal ∅ heap after →
      Runs disposal (next value) after (second value) ∅) :
    Runs disposal (code >>= next) heap (outcome >>= second) ∅ := by
  obtain ⟨between, ran, early⟩ := first
  cases outcome with
  | error failure => exact ⟨between, by simp [Bind.bind, HandleCode.bind, ran, Except.bind], early⟩
  | ok value =>
      obtain ⟨after, ranNext, late⟩ := rest value rfl between early
      refine ⟨after, ?_, early.trans late⟩
      simp only [Bind.bind, HandleCode.bind, ran, Except.bind]
      exact ranNext

theorem bind_exists {Choice : Type} {value : Value} {ending : Choice → Except Failure Result}
    (first : Runs disposal code heap (.ok value) ∅)
    (rest : ∀ after, ∃ choice, Runs disposal (next value) after (ending choice) ∅) :
    ∃ choice, Runs disposal (code >>= next) heap (ending choice) ∅ := by
  obtain ⟨between, ran, early⟩ := first
  obtain ⟨choice, after, ranNext, late⟩ := rest between
  refine ⟨choice, after, ?_, early.trans late⟩
  simp only [Bind.bind, HandleCode.bind, ran]
  exact ranNext

theorem bind_ok {value : Value} (first : Runs disposal code heap (.ok value) ∅)
    (rest : ∀ after, Runs disposal (next value) after result ∅) :
    Runs disposal (code >>= next) heap result ∅ :=
  @Runs.bind _ _ _ _ disposal code next heap _ (fun _ => result) first fun
    | _, rfl, after, _ => rest after

theorem lift_bind {answer : Except Failure Value} {second : Value → Except Failure Result}
    (rest : ∀ value, answer = .ok value →
      Runs disposal (next value) heap (second value) pending) :
    Runs disposal (HandleCode.lift answer >>= next) heap (answer >>= second) pending := by
  cases answer with
  | error failure => exact ⟨heap, rfl, .refl pending heap⟩
  | ok value => exact rest value rfl

/-- A live object is read, and the rest goes on from the same objects. -/
theorem read_bind {handle : Nat} {entry : Entry Cell} {live : Cell → Bool}
    {look : Option Cell → Except Failure Value} {value : Value}
    (found : heap.entries[handle]? = some entry) (isLive : live entry.cell = true)
    (looked : look (some entry.cell) = .ok value)
    (rest : ∀ after, after.entries = heap.entries →
      Runs disposal (next value) after result pending) :
    Runs disposal (HandleCode.read handle live look >>= next) heap result pending := by
  obtain ⟨after, ran, late⟩ := rest { heap with reads := heap.reads ++ [live entry.cell] } rfl
  refine ⟨after, ?_, Tidy.trans ⟨?_, ?_, ?_⟩ late⟩
  · simp only [Bind.bind, HandleCode.bind, HandleCode.read, found, looked]
    exact ran
  · exact (@Tidy.refl _ disposal pending heap).kept
  · exact (@Tidy.refl _ disposal pending heap).fresh
  · exact ⟨[live entry.cell], rfl, by simp [isLive]⟩

theorem create (heap : Heap Cell) (cell : Cell) :
    Runs disposal (HandleCode.create .operation cell : HandleCode Cell Failure Nat) heap
      (.ok heap.entries.length) {heap.entries.length} :=
  ⟨_, rfl, .push heap cell⟩

theorem bind_error {failure : Failure} (first : Runs disposal code heap (.error failure) pending) :
    Runs disposal (code >>= next) heap (.error failure) pending := by
  obtain ⟨after, ran, tidy⟩ := first
  exact ⟨after, by simp [Bind.bind, HandleCode.bind, ran], tidy⟩

/-- An object that is handed over and cleared at once. -/
theorem bind_clear {handle : Nat} {making : HandleCode Cell Failure Nat}
    {rest : HandleCode Cell Failure Result}
    (made : Runs disposal making heap (.ok handle) {handle})
    (others : ∀ after, Tidy disposal ∅ heap after → Runs disposal rest after result ∅) :
    Runs disposal (do
      let handle ← making
      HandleCode.change handle disposal.clear
      rest) heap result ∅ := by
  obtain ⟨between, ran, tidy⟩ := made
  have cleared : Tidy disposal ∅ heap _ :=
    (tidy.clear handle).mono fun _ both => absurd both.1 both.2
  obtain ⟨after, ranRest, late⟩ := others _ cleared
  refine ⟨after, ?_, cleared.trans late⟩
  simp only [Bind.bind, HandleCode.bind, HandleCode.change, ran]
  exact ranRest

/-- A new object that is cleared at the end of its scope, however the scope ends. -/
theorem scope {cell : Cell} {body : Nat → HandleCode Cell Failure Value}
    (inside : Runs disposal (body heap.entries.length) (heap.push .operation cell) outcome
      pending) :
    Runs disposal (do
      let handle ← HandleCode.create .operation cell
      HandleCode.ensuring (body handle) (HandleCode.change handle disposal.clear)) heap outcome
        pending := by
  obtain ⟨after, ran, tidy⟩ := inside
  have created := (@Tidy.push _ disposal heap cell).mono
    (Set.subset_union_right (s := pending))
  have left := (created.trans (tidy.mono Set.subset_union_left)).clear heap.entries.length
  refine ⟨after.change heap.entries.length disposal.clear, ?_, left.mono ?_⟩
  · simp only [Bind.bind, HandleCode.bind, HandleCode.create, HandleCode.ensuring,
      HandleCode.change, ran]
  · rintro handle ⟨isPending | isHandle, notHandle⟩
    · exact isPending
    · exact absurd isHandle notHandle

theorem reify (ended : Runs disposal code heap outcome pending) :
    Runs disposal code.reify heap (.ok outcome : Except Failure (Except Failure Value))
      pending := by
  obtain ⟨after, ran, tidy⟩ := ended
  exact ⟨after, by simp [HandleCode.reify, ran], tidy⟩

/-- A handler that only changes what is raised. -/
theorem rescue (ended : Runs disposal code heap outcome pending)
    (handled : Failure → Except Failure Value) :
    Runs disposal (code.rescue fun failure => HandleCode.lift (handled failure)) heap
      (match outcome with
        | .ok value => .ok value
        | .error failure => handled failure) pending := by
  obtain ⟨after, ran, tidy⟩ := ended
  refine ⟨after, ?_, tidy⟩
  cases outcome <;> simp [HandleCode.rescue, HandleCode.lift, ran]

end Runs

end ScopedHandles
