import Mathlib.Data.List.Basic

/-!
# Fields joined by a separator

A list of fields, written one after the other with a separator between them.  The separator may
occur inside the fields, which cuts them into pieces.  What is written determines the pieces and
their order, and no more: it determines the fields up to how the pieces are divided among them.
-/

namespace SeparatedFields

variable {Symbol : Type} [DecidableEq Symbol] (separator : Symbol)

/-- The fields with a separator between them. -/
def join (fields : List (List Symbol)) : List Symbol :=
  [separator].intercalate fields

/-- The stretches between separators, of all fields in order. -/
def pieces (fields : List (List Symbol)) : List (List Symbol) :=
  fields.flatMap (·.splitOn separator)

/-- Of how many pieces each field consists. -/
def pieceCounts (fields : List (List Symbol)) : List Nat :=
  fields.map fun field => (field.splitOn separator).length

/-- The same pieces, divided differently among the fields. -/
def Regrouped (fields others : List (List Symbol)) : Prop :=
  pieces separator fields = pieces separator others ∧
    pieceCounts separator fields ≠ pieceCounts separator others

variable {separator} {fields others : List (List Symbol)}

omit [DecidableEq Symbol] in
theorem join_cons (field : List Symbol) (nonempty : fields ≠ []) :
    join separator (field :: fields) = field ++ separator :: join separator fields := by
  obtain ⟨next, rest, rfl⟩ := List.exists_cons_of_ne_nil nonempty
  rw [join, List.intercalate_cons_cons, List.append_assoc, List.singleton_append]
  rfl

theorem splitOn_join (nonempty : fields ≠ []) :
    (join separator fields).splitOn separator = pieces separator fields := by
  induction fields with
  | nil => exact absurd rfl nonempty
  | cons field rest ih =>
      cases rest with
      | nil => simp [join, pieces]
      | cons next rest =>
          rw [join_cons field (List.cons_ne_nil next rest), List.splitOn_append_cons_self,
            ih (List.cons_ne_nil next rest)]
          rfl

theorem join_pieces (nonempty : fields ≠ []) :
    join separator (pieces separator fields) = join separator fields := by
  rw [← splitOn_join nonempty, join, List.intercalate_splitOn]

theorem join_eq_iff (nonempty : fields ≠ []) (othersNonempty : others ≠ []) :
    join separator fields = join separator others ↔
      pieces separator fields = pieces separator others := by
  constructor
  · intro same
    rw [← splitOn_join nonempty, ← splitOn_join othersNonempty, same]
  · intro same
    rw [← join_pieces nonempty, ← join_pieces othersNonempty, same]

/-- The pieces of a field determine it. -/
theorem splitOn_injective : Function.Injective (List.splitOn separator) := by
  intro field other same
  calc
    field = [separator].intercalate (field.splitOn separator) :=
      (List.intercalate_splitOn separator).symm
    _ = [separator].intercalate (other.splitOn separator) := by rw [same]
    _ = other := List.intercalate_splitOn separator

theorem eq_of_pieces (samePieces : pieces separator fields = pieces separator others)
    (sameCounts : pieceCounts separator fields = pieceCounts separator others) :
    fields = others := by
  induction fields generalizing others with
  | nil => exact (List.map_eq_nil_iff.mp sameCounts.symm).symm
  | cons field rest ih =>
      cases others with
      | nil => cases sameCounts
      | cons other others =>
          obtain ⟨sameCount, restCounts⟩ := List.cons.inj sameCounts
          obtain ⟨first, restPieces⟩ := List.append_inj samePieces sameCount
          rw [splitOn_injective first, ih restPieces restCounts]

/-- What is written determines the fields exactly when they are no regrouping of one another. -/
theorem determined_iff (nonempty : fields ≠ []) (othersNonempty : others ≠ []) :
    (join separator fields = join separator others → fields = others) ↔
      ¬ Regrouped separator fields others := by
  rw [join_eq_iff nonempty othersNonempty]
  constructor
  · rintro determined ⟨samePieces, otherCounts⟩
    exact otherCounts (congrArg (pieceCounts separator) (determined samePieces))
  · intro notRegrouped samePieces
    apply eq_of_pieces samePieces
    by_contra otherCounts
    exact notRegrouped ⟨samePieces, otherCounts⟩

theorem field_after_separator {before after : List Symbol} {first : Symbol}
    (nonempty : fields ≠ []) (free : ∀ field ∈ fields, separator ∉ field)
    (other : first ≠ separator)
    (divided : join separator fields = before ++ separator :: first :: after) :
    ∃ rest, first :: rest ∈ fields := by
  have split := List.splitOn_intercalate separator free nonempty
  rw [← join, divided, List.splitOn_append_cons_self, List.splitOn_cons_eq_if_modifyHead,
    if_neg (by simp [other])] at split
  obtain ⟨rest, others, splitAfter⟩ :=
    List.exists_cons_of_ne_nil (List.splitOn_ne_nil separator after)
  rw [splitAfter, List.modifyHead_cons] at split
  exact ⟨rest, by rw [← split]; simp⟩

end SeparatedFields
