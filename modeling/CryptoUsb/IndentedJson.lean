import CryptoUsb.JsonText

/-!
# Indented JSON text

A writer that puts white space between the items of arrays and objects, such as a new line and an
indentation.  Its text is read back as the value, and what is cut off it is not a JSON document.
-/

namespace JsonText

/-! ## Writing -/

mutual

/-- The text of a value that is nested so deep; `gap` is the white space at each depth. -/
def layOut (gap : Nat → List Char) (depth : Nat) : Json → List Char
  | .arr (item :: items) =>
      '[' :: (gap (depth + 1) ++ (layOut gap (depth + 1) item ++ layOutItems gap depth items))
  | .obj ((key, value) :: members) =>
      '{' :: (gap (depth + 1) ++ (dumpsString key ++ ':' :: ' ' ::
        (layOut gap (depth + 1) value ++ layOutMembers gap depth members)))
  | value => dumpsChars value

/-- The items after the first one, and the closing bracket. -/
def layOutItems (gap : Nat → List Char) (depth : Nat) : List Json → List Char
  | [] => gap depth ++ [']']
  | item :: items =>
      ',' :: (gap (depth + 1) ++ (layOut gap (depth + 1) item ++ layOutItems gap depth items))

/-- The members after the first one, and the closing brace. -/
def layOutMembers (gap : Nat → List Char) (depth : Nat) : List (String × Json) → List Char
  | [] => gap depth ++ ['}']
  | (key, value) :: members =>
      ',' :: (gap (depth + 1) ++ (dumpsString key ++ ':' :: ' ' ::
        (layOut gap (depth + 1) value ++ layOutMembers gap depth members)))

end

/-- A new line, and so many spaces at each depth. -/
def indentation (newline : List Char) (indent depth : Nat) : List Char :=
  newline ++ List.replicate (indent * depth) ' '

/-- The text that is written with `indent` on a system that ends its lines so. -/
def dumpsIndented (newline : List Char) (indent : Nat) (value : Json) : List Char :=
  layOut (indentation newline indent) 0 value

example : String.ofList (dumpsIndented ['\n'] 2 (.arr [.int 1, .arr [.null]])) =
    "[\n  1,\n  [\n    null\n  ]\n]" := by
  decide +kernel

/-! ## Reading back -/

/-- Nothing but white space. -/
def Blank (characters : List Char) : Prop :=
  ∀ character ∈ characters, isSpace character = true

theorem blank_newline : Blank ['\n'] := by
  intro character member
  rw [List.mem_singleton.mp member]
  rfl

theorem blank_indentation {newline : List Char} (blank : Blank newline) (indent depth : Nat) :
    Blank (indentation newline indent depth) := by
  intro character member
  rcases List.mem_append.mp member with ends | spaces
  · exact blank character ends
  · rw [List.eq_of_mem_replicate spaces]
    rfl

theorem skipSpaces_blank {blanks : List Char} (blank : Blank blanks) (rest : List Char) :
    skipSpaces (blanks ++ rest) = skipSpaces rest := by
  induction blanks with
  | nil => rfl
  | cons space blanks ih =>
      obtain ⟨isSpace, blank⟩ := List.forall_mem_cons.mp blank
      rw [List.cons_append, skipSpaces, List.dropWhile_cons_of_pos isSpace]
      exact ih blank

section ReadingBack

variable {gap : Nat → List Char}

theorem layOut_head (depth : Nat) (value : Json) (readable : FloatsReadable value) :
    ∃ head tail, layOut gap depth value = head :: tail ∧ isSpace head = false ∧ head ≠ ']' := by
  have plain := dumpsChars_head value readable
  match value with
  | .arr (_ :: _) => exact ⟨_, _, by rw [layOut], by decide, by decide⟩
  | .obj (_ :: _) => exact ⟨_, _, by rw [layOut], by decide, by decide⟩
  | .arr [] | .obj [] | .null | .bool _ | .int _ | .float _ | .str _ => simpa [layOut] using plain

theorem skipSpaces_layOut (depth : Nat) (value : Json) (readable : FloatsReadable value)
    (rest : List Char) :
    skipSpaces (layOut gap depth value ++ rest) = layOut gap depth value ++ rest := by
  obtain ⟨head, tail, written, solid, -⟩ := @layOut_head gap depth value readable
  rw [written, List.cons_append, skipSpaces_cons solid]

theorem endsNumber_space {space : Char} {rest : List Char} (blank : isSpace space = true) :
    EndsNumber (space :: rest) := by
  intro head member
  obtain rfl : space = head := by simpa using member
  simp only [isSpace, Bool.or_eq_true, decide_eq_true_eq] at blank
  rcases blank with ((rfl | rfl) | rfl) | rfl <;> decide

theorem endsNumber_blank {blanks rest : List Char} (blank : Blank blanks)
    (ends : EndsNumber rest) : EndsNumber (blanks ++ rest) := by
  cases blanks with
  | nil => exact ends
  | cons space blanks => exact endsNumber_space (blank space (List.mem_cons_self ..))

theorem endsNumber_layOutItems (blank : ∀ depth, Blank (gap depth)) (depth : Nat)
    (items : List Json) (rest : List Char) : EndsNumber (layOutItems gap depth items ++ rest) := by
  cases items with
  | nil =>
      rw [layOutItems, List.append_assoc]
      exact endsNumber_blank (blank depth) (endsNumber_cons (by decide))
  | cons item items =>
      rw [layOutItems]
      exact endsNumber_cons (by decide)

theorem endsNumber_layOutMembers (blank : ∀ depth, Blank (gap depth)) (depth : Nat)
    (members : List (String × Json)) (rest : List Char) :
    EndsNumber (layOutMembers gap depth members ++ rest) := by
  cases members with
  | nil =>
      rw [layOutMembers, List.append_assoc]
      exact endsNumber_blank (blank depth) (endsNumber_cons (by decide))
  | cons member members =>
      rw [layOutMembers]
      exact endsNumber_cons (by decide)

mutual

/-- Enough fuel reads a value back, whatever follows it. -/
theorem parseValue_layOut (blank : ∀ depth, Blank (gap depth)) :
    ∀ (value : Json) (depth fuel : Nat) (rest : List Char), FloatsReadable value →
      (layOut gap depth value).length ≤ fuel → EndsNumber rest →
        parseValue fuel (layOut gap depth value ++ rest) = some (value, rest)
  | .arr (item :: items), depth, 0, _, _, bound, _ => by simp [layOut] at bound
  | .arr (item :: items), depth, fuel + 1, rest, ⟨itemReadable, itemsReadable⟩, bound, _ => by
      simp only [layOut, List.length_cons, List.length_append] at bound
      have readItem := parseValue_layOut blank item (depth + 1) fuel
        (layOutItems gap depth items ++ rest) itemReadable (by omega)
        (endsNumber_layOutItems blank depth items rest)
      have readItems := parseItems_layOut blank items depth fuel rest itemsReadable (by omega)
      have solid := @skipSpaces_layOut gap (depth + 1) item itemReadable
        (layOutItems gap depth items ++ rest)
      obtain ⟨head, tail, written, -, notClosing⟩ :=
        @layOut_head gap (depth + 1) item itemReadable
      rw [written, List.cons_append] at readItem solid
      simp only [layOut, written, List.cons_append, List.append_assoc, parseValue]
      rw [skipSpaces_blank (blank _), solid]
      split
      case h_1 equal => exact absurd (List.cons.inj equal).1 notClosing
      case h_2 => simp [readItem, readItems]
  | .obj ((key, value) :: members), depth, 0, _, _, bound, _ => by simp [layOut] at bound
  | .obj ((key, value) :: members), depth, fuel + 1, rest, ⟨valueReadable, membersReadable⟩,
      bound, _ => by
      simp only [layOut, List.length_cons, List.length_append] at bound
      have readMember := parseMember_layOut blank key value (depth + 1) fuel
        (layOutMembers gap depth members ++ rest) valueReadable (by omega)
        (endsNumber_layOutMembers blank depth members rest)
      have readMembers := parseMembers_layOut blank members depth fuel rest membersReadable
        (by omega)
      simp only [dumpsString, List.cons_append, List.append_assoc, List.nil_append] at readMember
      simp only [layOut, dumpsString, List.cons_append, List.nil_append, List.append_assoc,
        parseValue]
      rw [skipSpaces_blank (blank _), skipSpaces_cons (by decide)]
      simp [readMember, readMembers]
  | .arr [], _, fuel, rest, readable, bound, ends =>
      parseValue_dumpsChars (.arr []) fuel rest readable bound ends
  | .obj [], _, fuel, rest, readable, bound, ends =>
      parseValue_dumpsChars (.obj []) fuel rest readable bound ends
  | .null, _, fuel, rest, readable, bound, ends =>
      parseValue_dumpsChars .null fuel rest readable bound ends
  | .bool value, _, fuel, rest, readable, bound, ends => by
      simp only [layOut] at bound ⊢
      exact parseValue_dumpsChars (.bool value) fuel rest readable bound ends
  | .int value, _, fuel, rest, readable, bound, ends => by
      simp only [layOut] at bound ⊢
      exact parseValue_dumpsChars (.int value) fuel rest readable bound ends
  | .float literal, _, fuel, rest, readable, bound, ends => by
      simp only [layOut] at bound ⊢
      exact parseValue_dumpsChars (.float literal) fuel rest readable bound ends
  | .str text, _, fuel, rest, readable, bound, ends => by
      simp only [layOut] at bound ⊢
      exact parseValue_dumpsChars (.str text) fuel rest readable bound ends

theorem parseMember_layOut (blank : ∀ depth, Blank (gap depth)) :
    ∀ (key : String) (value : Json) (depth fuel : Nat) (rest : List Char), FloatsReadable value →
      (dumpsString key).length + (layOut gap depth value).length < fuel → EndsNumber rest →
        parseMember fuel (dumpsString key ++ ':' :: ' ' :: (layOut gap depth value ++ rest)) =
          some ((key, value), rest)
  | key, value, depth, 0, _, _, bound, _ => by omega
  | key, value, depth, fuel + 1, rest, readable, bound, ends => by
      have read := parseValue_layOut blank value depth fuel rest readable (by omega) ends
      have afterColon : skipSpaces (' ' :: (layOut gap depth value ++ rest)) =
          layOut gap depth value ++ rest :=
        (skipSpaces_space _).trans (skipSpaces_layOut depth value readable rest)
      simp only [dumpsString, List.cons_append, List.append_assoc, List.nil_append,
        parseMember, parseStringChars_dumps]
      simp [skipSpaces_cons (show isSpace ':' = false by decide), afterColon, read]

theorem parseMembers_layOut (blank : ∀ depth, Blank (gap depth)) :
    ∀ (members : List (String × Json)) (depth fuel : Nat) (rest : List Char),
      FloatsReadableMembers members → (layOutMembers gap depth members).length ≤ fuel →
        parseMembers fuel (layOutMembers gap depth members ++ rest) = some (members, rest)
  | [], depth, 0, _, _, bound => by simp [layOutMembers] at bound
  | [], depth, fuel + 1, rest, _, _ => by
      rw [layOutMembers, List.append_assoc, parseMembers, skipSpaces_blank (blank _)]
      rfl
  | (key, value) :: members, depth, 0, _, _, bound => by simp [layOutMembers] at bound
  | (key, value) :: members, depth, fuel + 1, rest, ⟨valueReadable, membersReadable⟩, bound => by
      simp only [layOutMembers, List.length_cons, List.length_append] at bound
      have readMember := parseMember_layOut blank key value (depth + 1) fuel
        (layOutMembers gap depth members ++ rest) valueReadable (by omega)
        (endsNumber_layOutMembers blank depth members rest)
      have readMembers := parseMembers_layOut blank members depth fuel rest membersReadable
        (by omega)
      have afterComma : skipSpaces (gap (depth + 1) ++ (dumpsString key ++ ':' :: ' ' ::
          (layOut gap (depth + 1) value ++ (layOutMembers gap depth members ++ rest)))) =
          dumpsString key ++ ':' :: ' ' ::
            (layOut gap (depth + 1) value ++ (layOutMembers gap depth members ++ rest)) := by
        rw [skipSpaces_blank (blank _)]
        exact skipSpaces_cons (by decide)
      simp only [layOutMembers, List.cons_append, List.append_assoc, parseMembers]
      simp [skipSpaces_cons (show isSpace ',' = false by decide), afterComma, readMember,
        readMembers]

theorem parseItems_layOut (blank : ∀ depth, Blank (gap depth)) :
    ∀ (items : List Json) (depth fuel : Nat) (rest : List Char),
      FloatsReadableItems items → (layOutItems gap depth items).length ≤ fuel →
        parseItems fuel (layOutItems gap depth items ++ rest) = some (items, rest)
  | [], depth, 0, _, _, bound => by simp [layOutItems] at bound
  | [], depth, fuel + 1, rest, _, _ => by
      rw [layOutItems, List.append_assoc, parseItems, skipSpaces_blank (blank _)]
      rfl
  | item :: items, depth, 0, _, _, bound => by simp [layOutItems] at bound
  | item :: items, depth, fuel + 1, rest, ⟨itemReadable, itemsReadable⟩, bound => by
      simp only [layOutItems, List.length_cons, List.length_append] at bound
      have readItem := parseValue_layOut blank item (depth + 1) fuel
        (layOutItems gap depth items ++ rest) itemReadable (by omega)
        (endsNumber_layOutItems blank depth items rest)
      have readItems := parseItems_layOut blank items depth fuel rest itemsReadable (by omega)
      have afterComma : skipSpaces (gap (depth + 1) ++ (layOut gap (depth + 1) item ++
          (layOutItems gap depth items ++ rest))) =
          layOut gap (depth + 1) item ++ (layOutItems gap depth items ++ rest) :=
        (skipSpaces_blank (blank _) _).trans (skipSpaces_layOut _ item itemReadable _)
      simp only [layOutItems, List.cons_append, List.append_assoc, parseItems]
      simp [skipSpaces_cons (show isSpace ',' = false by decide), afterComma, readItem,
        readItems]

end

theorem loads_dumpsIndented {newline : List Char} (blank : Blank newline) (indent : Nat)
    {value : Json} (readable : FloatsReadable value) :
    loads (String.ofList (dumpsIndented newline indent value)) = some value := by
  have read := parseValue_layOut (blank_indentation blank indent) value 0
    ((dumpsIndented newline indent value).length + 1) [] readable (by rw [dumpsIndented]; omega)
    endsNumber_nil
  have solid := @skipSpaces_layOut (indentation newline indent) 0 value readable []
  rw [List.append_nil] at read solid
  rw [← dumpsIndented] at read solid
  simp only [loads, String.toList_ofList, solid, read]
  rfl

end ReadingBack

end JsonText
