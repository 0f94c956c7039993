import Mathlib.Data.List.Basic

/-!
# Pickers over polled lists

A table shows a list that is read again and again, at most one of its rows is selected, and an
observer is told of every change of the selection.  A list that is read unchanged changes
nothing.  Any other list rebuilds the table, and the row with the key that was selected before
is selected again, if there is one.  What the observer establishes for the selected item holds
after every reading and every selection.
-/

namespace PolledPickers

/-! ## Tables -/

/-- The rows of a table, and the index of the selected one. -/
structure Table (Row : Type*) where
  rows : List Row := []
  selected : Option (Fin rows.length) := none

namespace Table

variable {Row : Type*} (table : Table Row)

def selectedRow : Option Row :=
  table.selected.map table.rows.get

/-- The index, if there is such a row. -/
def position (index : Option Nat) : Option (Fin table.rows.length) :=
  index.bind fun index =>
    if inside : index < table.rows.length then some ⟨index, inside⟩ else none

def select (index : Option Nat) : Table Row :=
  { table with selected := table.position index }

@[simp] theorem rows_select (index : Option Nat) : (table.select index).rows = table.rows :=
  rfl

@[simp] theorem selected_select (index : Option Nat) :
    (table.select index).selected = table.position index :=
  rfl

@[simp] theorem position_none : table.position none = none :=
  rfl

theorem selectedRow_select (index : Option Nat) :
    (table.select index).selectedRow = index.bind (table.rows[·]?) := by
  cases index with
  | none => rfl
  | some index =>
      simp only [selectedRow, select, position, Option.bind_some]
      split_ifs with inside
      · simp [inside]
      · simp [inside]

end Table

/-! ## Pickers -/

/-- A table over the list that was read last, the selected item as its observer noted it, and
what else the observer keeps. -/
structure Picker (Item Key State : Type*) where
  items : Option (List Item) := none
  table : Table Key := {}
  chosen : Option Item := none
  state : State

/-- What is done when the selection has changed, when the rows were rebuilt, and when no row
could be selected again. -/
structure Hooks (Item State : Type*) where
  selected : Option Item → State → State
  rebuilt : State → State := id
  unselected : State → State := id

namespace Picker

variable {Item Key State : Type*} [DecidableEq Key] (key : Item → Key)
  (hooks : Hooks Item State) (picker : Picker Item Key State)

/-- The first item of the list with this key. -/
def lookup (row : Key) : Option Item :=
  (picker.items.getD []).find? (key · = row)

/-- The observer of the selection. -/
def onSelected : Picker Item Key State :=
  let chosen := picker.table.selectedRow.bind (picker.lookup key)
  { picker with chosen, state := hooks.selected chosen picker.state }

/-- Another selection, of which the observer is told. -/
def select (index : Option Nat) : Picker Item Key State :=
  if picker.table.position index = picker.table.selected then picker
  else { picker with table := picker.table.select index }.onSelected key hooks

/-- The first row of an item with this key is selected again. -/
def reselect : Option Key → Picker Item Key State
  | none => picker
  | some row =>
      match (picker.items.getD []).findIdx? (key · = row) with
      | none => picker
      | some index => picker.select key hooks (some index)

/-- The rows of the list, none of them selected. -/
def rebuild : Picker Item Key State :=
  { picker with
    table := { rows := (picker.items.getD []).map key }
    chosen := none
    state := hooks.rebuilt picker.state }

/-- The list is read again. -/
def refresh [DecidableEq Item] (items : List Item) : Picker Item Key State :=
  if picker.items = some items then picker
  else
    let cleared := { picker with items := some items }.select key hooks none
    let reselected := (cleared.rebuild key hooks).reselect key hooks (picker.chosen.map key)
    if reselected.chosen.isNone then
      { reselected with state := hooks.unselected reselected.state }
    else reselected

/-! ## What the picker keeps -/

/-- The rows are those of the list, and the item that the observer noted is the selected one. -/
structure Settled : Prop where
  rows : picker.table.rows = (picker.items.getD []).map key
  chosen : picker.chosen = picker.table.selectedRow.bind (picker.lookup key)

variable {key hooks picker} {items : List Item} {index : Option Nat} {row : Key} {item : Item}

theorem key_of_lookup (found : picker.lookup key row = some item) : key item = row := by
  simpa using List.find?_some found

theorem Settled.mem (settled : picker.Settled key) (chosen : picker.chosen = some item) :
    item ∈ picker.items.getD [] := by
  rw [settled.chosen] at chosen
  obtain ⟨row, -, found⟩ := Option.bind_eq_some_iff.mp chosen
  exact List.mem_of_find?_eq_some found

theorem Settled.lookup_chosen (settled : picker.Settled key) :
    picker.chosen.bind (fun item => picker.lookup key (key item)) = picker.chosen := by
  cases chosen : picker.chosen with
  | none => rfl
  | some item =>
      rw [settled.chosen] at chosen
      obtain ⟨row, -, found⟩ := Option.bind_eq_some_iff.mp chosen
      rw [Option.bind_some, key_of_lookup found]
      exact found

@[simp] theorem items_select : (picker.select key hooks index).items = picker.items := by
  unfold select onSelected
  split <;> rfl

theorem Settled.chosen_select (settled : picker.Settled key) :
    (picker.select key hooks index).chosen =
      (index.bind (picker.table.rows[·]?)).bind (picker.lookup key) := by
  rw [← Table.selectedRow_select]
  unfold select
  split
  · rename_i same
    rw [settled.chosen, Table.selectedRow, Table.selectedRow, Table.selected_select, same]
    rfl
  · rfl

theorem Settled.select (settled : picker.Settled key) :
    (picker.select key hooks index).Settled key := by
  unfold Picker.select
  split
  · exact settled
  · exact ⟨settled.rows, rfl⟩

@[simp] theorem items_reselect {previous : Option Key} :
    (picker.reselect key hooks previous).items = picker.items := by
  unfold reselect
  split
  · rfl
  · split
    · rfl
    · exact items_select

theorem Settled.reselect (settled : picker.Settled key) {previous : Option Key} :
    (picker.reselect key hooks previous).Settled key := by
  unfold Picker.reselect
  split
  · exact settled
  · split
    · exact settled
    · exact settled.select

/-- The row that is selected again is one of the first item with its key, if there is one. -/
theorem Settled.chosen_reselect (settled : picker.Settled key) :
    (picker.reselect key hooks (some row)).chosen =
      (picker.lookup key row).or picker.chosen := by
  cases position : (picker.items.getD []).findIdx? (key · = row) with
  | none =>
      have absent := List.findIdx?_eq_none_iff.mp position
      have unfound : picker.lookup key row = none :=
        List.find?_eq_none.mpr fun item member => by simpa using absent item member
      simp only [Picker.reselect, position, unfound, Option.none_or]
  | some index =>
      obtain ⟨inside, isFirst, -⟩ := List.findIdx?_eq_some_iff_getElem.mp position
      have sameKey : key (picker.items.getD [])[index] = row := of_decide_eq_true isFirst
      have shown : picker.table.rows[index]? = some row := by
        rw [settled.rows, List.getElem?_map, List.getElem?_eq_getElem inside, Option.map_some,
          sameKey]
      have present : ((picker.items.getD []).find? (key · = row)).isSome = true :=
        List.find?_isSome.mpr ⟨_, List.getElem_mem inside, by simpa using sameKey⟩
      obtain ⟨item, found⟩ := Option.isSome_iff_exists.mp present
      have lookedUp : picker.lookup key row = some item := found
      simp only [Picker.reselect, position, settled.chosen_select, Option.bind_some, shown,
        lookedUp, Option.some_or]

theorem Settled.chosen_reselect_anew (settled : picker.Settled key)
    (unchosen : picker.chosen = none) (previous : Option Key) :
    (picker.reselect key hooks previous).chosen = previous.bind (picker.lookup key) := by
  cases previous with
  | none => exact unchosen
  | some row => rw [settled.chosen_reselect, unchosen, Option.or_none, Option.bind_some]

theorem settled_rebuild : (picker.rebuild key hooks).Settled key :=
  ⟨rfl, rfl⟩

/-! ## What the observer establishes -/

/-- A relation between the selected item and the rest that the observer establishes again at
every change. -/
structure Observed (hooks : Hooks Item State) (holds : Option Item → State → Prop) : Prop where
  selected : ∀ {before after state}, holds before state → holds after (hooks.selected after state)
  rebuilt : ∀ {state}, holds none state → holds none (hooks.rebuilt state)
  unselected : ∀ {state}, holds none state → holds none (hooks.unselected state)

variable {holds : Option Item → State → Prop}

theorem Observed.select (observed : Observed hooks holds)
    (held : holds picker.chosen picker.state) :
    holds (picker.select key hooks index).chosen (picker.select key hooks index).state := by
  unfold Picker.select
  split
  · exact held
  · exact observed.selected held

theorem Observed.reselect (observed : Observed hooks holds)
    (held : holds picker.chosen picker.state) {previous : Option Key} :
    holds (picker.reselect key hooks previous).chosen
      (picker.reselect key hooks previous).state := by
  unfold Picker.reselect
  split
  · exact held
  · split
    · exact held
    · exact observed.select held

variable [DecidableEq Item]

@[simp] theorem items_refresh : (picker.refresh key hooks items).items = some items := by
  unfold refresh
  split
  · assumption
  · simp only
    split <;> simp [rebuild]

theorem Settled.refresh (settled : picker.Settled key) :
    (picker.refresh key hooks items).Settled key := by
  unfold Picker.refresh
  split
  · exact settled
  · have reselected := @Settled.reselect Item Key State _ key hooks
      (({ picker with items := some items }.select key hooks none).rebuild key hooks)
      settled_rebuild (picker.chosen.map key)
    simp only
    split
    · exact ⟨reselected.rows, reselected.chosen⟩
    · exact reselected

/-- A list that is read keeps the chosen item by its key, if that is still there. -/
theorem Settled.chosen_refresh (settled : picker.Settled key) :
    (picker.refresh key hooks items).chosen =
      picker.chosen.bind fun item => items.find? (key · = key item) := by
  unfold Picker.refresh
  split
  · rename_i same
    rw [← settled.lookup_chosen]
    simp only [lookup, same, Option.getD_some, Option.bind_assoc]
    apply Option.bind_congr
    intro item chosen
    cases found : items.find? (key · = key item) with
    | none => rfl
    | some other =>
        have sameKey : key other = key item := by simpa using List.find?_some found
        rw [Option.bind_some, sameKey, found]
  · have chosen := @Settled.chosen_reselect_anew Item Key State _ key hooks
      (({ picker with items := some items }.select key hooks none).rebuild key hooks)
      settled_rebuild rfl (picker.chosen.map key)
    rw [Option.bind_map] at chosen
    simp only
    split
    · rw [chosen]
      simp [lookup, rebuild, Function.comp_def]
    · rw [chosen]
      simp [lookup, rebuild, Function.comp_def]

theorem key_of_chosen_refresh (settled : picker.Settled key)
    (chosen : (picker.refresh key hooks items).chosen = some item) :
    ∃ before, picker.chosen = some before ∧ key item = key before := by
  rw [settled.chosen_refresh] at chosen
  obtain ⟨before, was, found⟩ := Option.bind_eq_some_iff.mp chosen
  exact ⟨before, was, by simpa using List.find?_some found⟩

/-- Nothing is chosen while the rows are replaced, so that the observer establishes the relation
for no item, and again for the item that is selected anew. -/
theorem Observed.refresh (observed : Observed hooks holds) (settled : picker.Settled key)
    (held : holds picker.chosen picker.state) :
    holds (picker.refresh key hooks items).chosen (picker.refresh key hooks items).state := by
  unfold Picker.refresh
  split
  · exact held
  · have cleared : holds none ({ picker with items := some items }.select key hooks none).state := by
      unfold Picker.select
      split
      · rename_i unselected
        have unchosen : picker.chosen = none := by
          rw [settled.chosen, Table.selectedRow, ← unselected]
          rfl
        exact unchosen ▸ held
      · exact observed.selected held
    have reselected := @Observed.reselect Item Key State _ key hooks
      (({ picker with items := some items }.select key hooks none).rebuild key hooks) holds
      observed (observed.rebuilt cleared) (picker.chosen.map key)
    simp only
    split
    · rename_i unchosen
      rw [Option.isNone_iff_eq_none] at unchosen
      rw [unchosen] at reselected ⊢
      exact observed.unselected reselected
    · exact reselected

end Picker

end PolledPickers
