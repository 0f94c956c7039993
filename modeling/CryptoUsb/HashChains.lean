import Mathlib.Data.List.Induction
import Mathlib.Data.List.Nodup

/-!
# Hash chains

A list of entries, each with a tag of its own and the tag of the entry before
it; the first entry follows a fixed root.  While the tags are distinct, the
linked sublists of a chain are its prefixes, and a chain whose entries each
match some entry of another one matches it place by place.
-/

namespace HashChains

variable {Entry Tag : Type*}

/-- Every entry names the tag of the entry before it. -/
def Linked (previous own : Entry → Tag) (root : Tag) : List Entry → Prop
  | [] => True
  | entry :: entries => previous entry = root ∧ Linked previous own (own entry) entries

/-- The tag that the next entry has to name. -/
def lastTag (own : Entry → Tag) (root : Tag) : List Entry → Tag
  | [] => root
  | entry :: entries => lastTag own (own entry) entries

variable {previous own : Entry → Tag} {root : Tag}

theorem lastTag_append (front back : List Entry) :
    lastTag own root (front ++ back) = lastTag own (lastTag own root front) back := by
  induction front generalizing root with
  | nil => rfl
  | cons entry entries ih => exact ih

theorem lastTag_eq_getLast? (entries : List Entry) :
    lastTag own root entries = (entries.getLast?.map own).getD root := by
  induction entries using List.reverseRecOn with
  | nil => rfl
  | append_singleton entries entry _ => simp [lastTag_append, lastTag]

theorem linked_append {front back : List Entry} :
    Linked previous own root (front ++ back) ↔
      Linked previous own root front ∧ Linked previous own (lastTag own root front) back := by
  induction front generalizing root with
  | nil => simp [Linked, lastTag]
  | cons entry entries ih => simp [Linked, lastTag, ih, and_assoc]

theorem Linked.concat {entries : List Entry} {entry : Entry}
    (linked : Linked previous own root entries)
    (follows : previous entry = lastTag own root entries) :
    Linked previous own root (entries ++ [entry]) :=
  linked_append.mpr ⟨linked, follows, trivial⟩

theorem Linked.of_prefix {front entries : List Entry} (linked : Linked previous own root entries)
    (isPrefix : front <+: entries) : Linked previous own root front := by
  obtain ⟨back, rfl⟩ := isPrefix
  exact (linked_append.mp linked).1

theorem Linked.getElem?_previous {entries : List Entry}
    (linked : Linked previous own root entries) {index : Nat} (inRange : index < entries.length) :
    (root :: entries.map own)[index]? = some (previous entries[index]) := by
  induction entries generalizing root index with
  | nil => exact absurd inRange (Nat.not_lt_zero _)
  | cons entry entries ih =>
      obtain ⟨first, rest⟩ := linked
      cases index with
      | zero => exact congrArg some first.symm
      | succ index => exact ih rest (Nat.lt_of_succ_lt_succ inRange)

/-- The linked sublists of a chain with distinct tags are its prefixes. -/
theorem Linked.sublist_iff_prefix {entries kept : List Entry}
    (linked : Linked previous own root entries)
    (distinct : (root :: entries.map own).Nodup) (sublist : kept.Sublist entries) :
    Linked previous own root kept ↔ kept <+: entries := by
  refine ⟨fun keptLinked => ?_, linked.of_prefix⟩
  induction sublist generalizing root with
  | slnil => exact List.prefix_refl _
  | @cons kept entries entry sublist ih =>
      cases kept with
      | nil => exact List.nil_prefix
      | cons first kept =>
          -- The first kept entry stands further back, so it does not name the root.
          have member : first ∈ entries := sublist.subset (by simp)
          obtain ⟨index, inRange, rfl⟩ := List.mem_iff_getElem.mp member
          have named := linked.2.getElem?_previous inRange
          have notRoot : root ∉ own entry :: entries.map own := (List.nodup_cons.mp distinct).1
          rw [keptLinked.1] at named
          exact absurd (List.mem_of_getElem? named) notRoot
  | @cons_cons kept entries entry sublist ih =>
      obtain ⟨-, rest⟩ := linked
      have tails := ih rest (List.nodup_cons.mp distinct).2 keptLinked.2
      exact List.cons_prefix_cons.mpr ⟨rfl, tails⟩

/-- A chain whose entries each match some entry of a chain with distinct tags
matches it place by place. -/
theorem Linked.match_getElem {entries others : List Entry}
    (linked : Linked previous own root entries)
    (distinct : (root :: entries.map own).Nodup)
    (othersLinked : Linked previous own root others)
    (matched : Entry → Entry → Prop)
    (each : ∀ other ∈ others, ∃ entry ∈ entries, own other = own entry ∧
      previous other = previous entry ∧ matched other entry)
    {index : Nat} (inOthers : index < others.length) (inRange : index < entries.length) :
    own others[index] = own entries[index] ∧ matched others[index] entries[index] := by
  have atPlace {place : Nat} (inOthers : place < others.length)
      (inRange : place < entries.length)
      (follows : previous others[place] = previous entries[place]) :
      own others[place] = own entries[place] ∧ matched others[place] entries[place] := by
    obtain ⟨entry, member, sameTag, named, isMatch⟩ := each _ (List.getElem_mem inOthers)
    obtain ⟨found, foundRange, rfl⟩ := List.mem_iff_getElem.mp member
    have samePlace : (root :: entries.map own)[place]? = (root :: entries.map own)[found]? := by
      rw [linked.getElem?_previous inRange, linked.getElem?_previous foundRange, ← follows, named]
    have longer : place < (root :: entries.map own).length := by
      rw [List.length_cons, List.length_map]
      omega
    obtain rfl := (List.getElem?_inj longer distinct).mp samePlace
    exact ⟨sameTag, isMatch⟩
  induction index with
  | zero =>
      refine atPlace inOthers inRange (Option.some.inj ?_)
      rw [← othersLinked.getElem?_previous inOthers, ← linked.getElem?_previous inRange]
      rfl
  | succ index ih =>
      refine atPlace inOthers inRange (Option.some.inj ?_)
      have before := (ih (by omega) (by omega)).1
      rw [← othersLinked.getElem?_previous inOthers, ← linked.getElem?_previous inRange]
      simp [before, Nat.lt_of_succ_lt inOthers, Nat.lt_of_succ_lt inRange]

/-- Tags are distinct where equal tags come from equal predecessors and no tag is
the root. -/
theorem Linked.nodup {entries : List Entry} (linked : Linked previous own root entries)
    (injective : ∀ first ∈ entries, ∀ second ∈ entries, own first = own second →
      previous first = previous second)
    (notRoot : ∀ entry ∈ entries, own entry ≠ root) :
    (root :: entries.map own).Nodup := by
  have differ (first second : Nat) (before : first < second)
      (inRange : second ≤ entries.length) :
      (root :: entries.map own)[first]? ≠ (root :: entries.map own)[second]? := by
    obtain ⟨second, rfl⟩ : ∃ later, second = later + 1 := ⟨second - 1, by omega⟩
    have secondRange : second < entries.length := by omega
    induction first generalizing second with
    | zero =>
        have differs := notRoot _ (List.getElem_mem secondRange)
        simpa [secondRange, eq_comm] using differs
    | succ first ih =>
        intro same
        have firstRange : first < entries.length := by omega
        have sameTag : own entries[first] = own entries[second] := by
          simpa [firstRange, secondRange] using same
        have named := injective _ (List.getElem_mem firstRange) _
          (List.getElem_mem secondRange) sameTag
        obtain ⟨earlier, rfl⟩ : ∃ earlier, second = earlier + 1 := ⟨second - 1, by omega⟩
        refine ih earlier (by omega) (by omega) (by omega) ?_
        rw [linked.getElem?_previous firstRange, linked.getElem?_previous secondRange, named]
  refine List.pairwise_iff_getElem.mpr fun first second firstRange inRange before same => ?_
  rw [List.length_cons, List.length_map] at inRange
  refine differ first second before (by omega) ?_
  rw [List.getElem?_eq_getElem firstRange, List.getElem?_eq_getElem (by simpa using inRange), same]

end HashChains
