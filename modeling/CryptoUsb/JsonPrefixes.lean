import CryptoUsb.IndentedJson
import Mathlib.Data.List.TakeWhile

/-!
# JSON documents that are cut off

The reader looks at no more of a text than it reads: what it reads at the beginning of a text it
also reads at the beginning of every longer one, but for a number at the very end.  So a document
is not the beginning of another one, unless it is a number, and what is cut off an object is not
read at all.
-/

namespace JsonText

/-! ## Numbers before other text -/

/-- The text goes on, and not with more of a number. -/
def Delimits (rest : List Char) : Prop :=
  rest ≠ [] ∧ EndsNumber rest

theorem takeWhile_append_of_stop {characters : List Char}
    (stops : characters.dropWhile Char.isDigit ≠ []) (more : List Char) :
    (characters ++ more).takeWhile Char.isDigit = characters.takeWhile Char.isDigit ∧
      (characters ++ more).dropWhile Char.isDigit =
        characters.dropWhile Char.isDigit ++ more := by
  induction characters with
  | nil => exact absurd rfl stops
  | cons head characters ih =>
      by_cases isDigit : head.isDigit = true
      · rw [List.dropWhile_cons_of_pos isDigit] at stops
        simp [isDigit, ih stops]
      · simp [isDigit]

theorem takeFraction_extend {characters : List Char} (goesOn : (takeFraction characters).2 ≠ [])
    (notPoint : (takeFraction characters).2 ≠ ['.']) (more : List Char) :
    takeFraction (characters ++ more) =
      ((takeFraction characters).1, (takeFraction characters).2 ++ more) := by
  cases characters with
  | nil => exact absurd rfl goesOn
  | cons head tail =>
      by_cases point : head = '.'
      · subst point
        cases tail with
        | nil => exact absurd rfl notPoint
        | cons digit tail =>
            by_cases isDigit : digit.isDigit = true
            · simp only [takeFraction, isDigit, if_true] at goesOn
              obtain ⟨digits, others⟩ := takeWhile_append_of_stop goesOn more
              simp [takeFraction, isDigit, digits, others]
            · simp [takeFraction, isDigit]
      · simp [takeFraction, point]

theorem takeExponent_extend {characters : List Char}
    (delimits : Delimits (takeExponent characters).2) (more : List Char) :
    takeExponent (characters ++ more) =
      ((takeExponent characters).1, (takeExponent characters).2 ++ more) := by
  obtain ⟨goesOn, ends⟩ := delimits
  cases characters with
  | nil => exact absurd rfl goesOn
  | cons marker tail =>
      by_cases isMarker : marker = 'e' ∨ marker = 'E'
      · have notMarker {rest : List Char} : ¬ EndsNumber (marker :: rest) := by
          intro stops
          have letter := stops marker rfl
          rcases isMarker with rfl | rfl
          · exact letter.2.2.1 rfl
          · exact letter.2.2.2 rfl
        match tail with
        | [] => simp [takeExponent, isMarker, notMarker] at ends
        | [digit] =>
            by_cases isDigit : digit.isDigit = true
            · simp [takeExponent, isMarker, isDigit] at goesOn
            · simp [takeExponent, isMarker, isDigit, notMarker] at ends
        | sign :: digit :: tail =>
            simp only [takeExponent, List.cons_append, isMarker, if_true] at goesOn ends ⊢
            split_ifs at goesOn ends ⊢ with signed unsigned
            · obtain ⟨digits, others⟩ := takeWhile_append_of_stop goesOn more
              rw [digits, others]
            · obtain ⟨digits, others⟩ := takeWhile_append_of_stop goesOn more
              simp only [List.cons_append] at digits others
              rw [digits, others]
            · exact absurd ends notMarker
      · simp [takeExponent, isMarker]

theorem finishNumber_extend {negative : Bool} {digits characters rest : List Char} {value : Json}
    (delimits : Delimits rest) (finished : finishNumber negative digits characters = (value, rest))
    (more : List Char) :
    finishNumber negative digits (characters ++ more) = (value, rest ++ more) := by
  have left : (takeExponent (takeFraction characters).2).2 = rest := by
    have second := congrArg Prod.snd finished
    simp only [finishNumber] at second
    split_ifs at second <;> exact second
  have goesOn : (takeFraction characters).2 ≠ [] := by
    intro ended
    rw [ended] at left
    exact delimits.1 left.symm
  have notPoint : (takeFraction characters).2 ≠ ['.'] := by
    intro point
    rw [point] at left
    obtain rfl : ['.'] = rest := left
    exact absurd rfl (delimits.2 '.' rfl).2.1
  have fraction := takeFraction_extend goesOn notPoint more
  have exponent := takeExponent_extend (left ▸ delimits) more
  have first := congrArg Prod.fst finished
  simp only [finishNumber] at first ⊢
  rw [fraction]
  simp only [exponent, left]
  split_ifs at first ⊢ <;> simp_all

theorem parseUnsigned_extend {negative : Bool} {characters rest : List Char} {value : Json}
    (delimits : Delimits rest) (read : parseUnsigned negative characters = some (value, rest))
    (more : List Char) :
    parseUnsigned negative (characters ++ more) = some (value, rest ++ more) := by
  cases characters with
  | nil => cases read
  | cons first characters =>
      simp only [List.cons_append, parseUnsigned] at read ⊢
      split_ifs at read ⊢ with zero isDigit
      · exact congrArg some (finishNumber_extend delimits (Option.some.inj read) more)
      · have finished := Option.some.inj read
        have stops : characters.dropWhile Char.isDigit ≠ [] := by
          intro ended
          rw [ended] at finished
          have left := congrArg Prod.snd finished
          exact delimits.1 left.symm
        obtain ⟨digits, others⟩ := takeWhile_append_of_stop stops more
        rw [digits, others]
        exact congrArg some (finishNumber_extend delimits finished more)

theorem parseNumber_extend {characters rest : List Char} {value : Json}
    (delimits : Delimits rest) (read : parseNumber characters = some (value, rest))
    (more : List Char) : parseNumber (characters ++ more) = some (value, rest ++ more) := by
  unfold parseNumber at read
  split at read
  case h_1 =>
    obtain ⟨rfl, rfl⟩ := Prod.mk.inj (Option.some.inj read)
    rfl
  case h_2 =>
    obtain ⟨digit, digits, rfl, isDigit⟩ := parseUnsigned_head read
    have notInfinity : digit ≠ 'I' := by
      rintro rfl
      revert isDigit
      decide
    have extended := parseUnsigned_extend delimits read more
    simpa [parseNumber, notInfinity] using extended
  case h_3 =>
    obtain ⟨digit, digits, rfl, isDigit⟩ := parseUnsigned_head read
    have notSign : digit ≠ '-' := by
      rintro rfl
      revert isDigit
      decide
    have extended := parseUnsigned_extend delimits read more
    simpa [parseNumber, notSign] using extended

/-! ## Values before other text -/

theorem map_extend {characters text rest : List Char} {more : List Char}
    {add : List Char × List Char → List Char × List Char}
    (adds : ∀ parsed, add (parsed.1, parsed.2 ++ more) = ((add parsed).1, (add parsed).2 ++ more))
    (ih : ∀ {text rest : List Char}, parseStringChars characters = some (text, rest) →
      parseStringChars (characters ++ more) = some (text, rest ++ more))
    (parsed : (parseStringChars characters).map add = some (text, rest)) :
    (parseStringChars (characters ++ more)).map add = some (text, rest ++ more) := by
  obtain ⟨⟨inner, after⟩, found, same⟩ := Option.map_eq_some_iff.mp parsed
  rw [ih found, Option.map_some, adds (inner, after), same]

theorem parseStringChars_extend {characters text rest : List Char}
    (parsed : parseStringChars characters = some (text, rest)) (more : List Char) :
    parseStringChars (characters ++ more) = some (text, rest ++ more) := by
  induction characters using parseStringChars.induct generalizing text rest with
  | case1 => cases parsed
  | case2 after =>
      obtain ⟨rfl, rfl⟩ := Prod.mk.inj (Option.some.inj parsed)
      rfl
  | case3 a b c d after bad => simp [parseStringChars, bad] at parsed
  | case4 a b c d high isHigh range e f g h after bad =>
      simp [parseStringChars, isHigh, range, bad] at parsed
  | case5 a b c d high isHigh range e f g h after low isLow lowRange ih =>
      simp only [List.cons_append, parseStringChars, isHigh, if_pos range, isLow, if_pos lowRange]
        at parsed ⊢
      exact map_extend (fun _ => rfl) ih parsed
  | case6 a b c d high isHigh range e f g h after low isLow lowRange =>
      simp [parseStringChars, isHigh, range, isLow, lowRange] at parsed
  | case7 a b c d after high isHigh range notPair =>
      simp only [parseStringChars, isHigh, if_pos range] at parsed
      cases parsed
  | case8 a b c d after unit isUnit notHigh range =>
      simp [parseStringChars, isUnit, notHigh, range] at parsed
  | case9 a b c d after unit isUnit notHigh notLow ih =>
      simp only [List.cons_append, parseStringChars, isUnit, if_neg notHigh, if_neg notLow]
        at parsed ⊢
      exact map_extend (fun _ => rfl) ih parsed
  | case10 escape after notUnicode character =>
      rename_i isNone
      rw [parseStringChars] at parsed
      · simp only [character] at isNone
        simp only [isNone] at parsed
        cases parsed
      · exact notUnicode
  | case11 escape after notUnicode character unescaped isSome =>
      rename_i ih
      simp only [character] at isSome
      have notU : escape ≠ 'u' := by
        rintro rfl
        simp at isSome
      rw [List.cons_append, List.cons_append]
      rw [parseStringChars] at parsed ⊢
      · simp only [isSome] at parsed ⊢
        exact map_extend (fun _ => rfl) ih parsed
      · exact fun _ _ _ _ _ isU => absurd isU notU
      · exact notUnicode
  | case12 character after notQuote notUnicode notEscape bad =>
      rw [parseStringChars] at parsed
      · rw [if_pos bad] at parsed
        cases parsed
      · exact notQuote
      · exact notUnicode
      · exact notEscape
  | case13 character after notQuote notUnicode notEscape plain ih =>
      have notBackslash : character ≠ '\\' := fun backslash => plain (.inl backslash)
      rw [List.cons_append]
      rw [parseStringChars] at parsed ⊢
      · rw [if_neg plain] at parsed ⊢
        exact map_extend (fun _ => rfl) ih parsed
      · exact notQuote
      · exact fun _ _ _ _ _ backslash => absurd backslash notBackslash
      · exact fun _ _ backslash => absurd backslash notBackslash
      · exact notQuote
      · exact notUnicode
      · exact notEscape

def Json.isNumber : Json → Bool
  | .int _ | .float _ => true
  | _ => false

theorem skipSpaces_extend {characters : List Char} (solid : skipSpaces characters ≠ [])
    (more : List Char) : skipSpaces (characters ++ more) = skipSpaces characters ++ more := by
  induction characters with
  | nil => exact absurd rfl solid
  | cons head characters ih =>
      by_cases space : isSpace head = true
      · rw [skipSpaces, List.dropWhile_cons_of_pos space] at solid
        rw [List.cons_append, skipSpaces, List.dropWhile_cons_of_pos space, skipSpaces,
          List.dropWhile_cons_of_pos space]
        exact ih solid
      · have notSpace := Bool.eq_false_of_not_eq_true space
        rw [skipSpaces_cons notSpace, List.cons_append, skipSpaces_cons notSpace]

theorem delimits_of_skipSpaces {rest after : List Char} {head : Char}
    (next : skipSpaces rest = head :: after)
    (closes : head = ',' ∨ head = '}' ∨ head = ']') : Delimits rest := by
  cases rest with
  | nil => cases next
  | cons first rest =>
      refine ⟨List.cons_ne_nil _ _, ?_⟩
      cases space : isSpace first with
      | true => exact endsNumber_space space
      | false =>
          rw [skipSpaces_cons space] at next
          obtain ⟨rfl, -⟩ := List.cons.inj next
          exact endsNumber_cons closes

theorem finishNumber_isNumber (negative : Bool) (digits characters : List Char) :
    (finishNumber negative digits characters).1.isNumber = true := by
  simp only [finishNumber]
  split_ifs <;> rfl

theorem parseUnsigned_isNumber {negative : Bool} {characters rest : List Char} {value : Json}
    (read : parseUnsigned negative characters = some (value, rest)) : value.isNumber = true := by
  cases characters with
  | nil => cases read
  | cons first characters =>
      simp only [parseUnsigned] at read
      split_ifs at read
      · have finished := finishNumber_isNumber negative ['0'] characters
        rwa [Option.some.inj read] at finished
      · have finished := finishNumber_isNumber negative
          (first :: characters.takeWhile Char.isDigit) (characters.dropWhile Char.isDigit)
        rwa [Option.some.inj read] at finished

theorem parseNumber_isNumber {characters rest : List Char} {value : Json}
    (read : parseNumber characters = some (value, rest)) : value.isNumber = true ∧
      ∃ head tail, characters = head :: tail ∧ (head.isDigit = true ∨ head = '-') := by
  unfold parseNumber at read
  split at read
  case h_1 =>
    obtain ⟨rfl, -⟩ := Prod.mk.inj (Option.some.inj read)
    exact ⟨rfl, _, _, rfl, .inr rfl⟩
  case h_2 => exact ⟨parseUnsigned_isNumber read, _, _, rfl, .inr rfl⟩
  case h_3 =>
    obtain ⟨digit, digits, written, isDigit⟩ := parseUnsigned_head read
    exact ⟨parseUnsigned_isNumber read, digit, digits, written, .inl isDigit⟩

section Parsing

variable {fuel : Nat} {characters rest after : List Char} {value : Json}
  {member : String × Json} {members : List (String × Json)} {items : List Json}

theorem parseValue_nil : parseValue fuel [] = none := by
  cases fuel <;> rfl

theorem parseMember_nil : parseMember fuel [] = none := by
  cases fuel <;> rfl

theorem parseMember_brace : parseMember fuel ('}' :: rest) = none := by
  cases fuel with
  | zero => rfl
  | succ fuel => simp [parseMember]

theorem parseValue_bracket : parseValue fuel (']' :: rest) = none := by
  cases fuel with
  | zero => rfl
  | succ fuel => simp [parseValue, parseNumber, parseUnsigned]

theorem parseValue_object : parseValue (fuel + 1) ('{' :: rest) = some (value, after) ↔
    (skipSpaces rest = '}' :: after ∧ value = .obj []) ∨
      ∃ member middle members, parseMember fuel (skipSpaces rest) = some (member, middle) ∧
        parseMembers fuel middle = some (members, after) ∧ value = .obj (member :: members) := by
  simp only [parseValue]
  split
  case h_1 tail solid =>
    simp [solid, parseMember_brace, eq_comm, and_comm]
  case h_2 notBrace =>
    have noEmpty : ¬ (skipSpaces rest = '}' :: after ∧ value = .obj []) :=
      fun empty => notBrace _ empty.1
    simp only [noEmpty, false_or, Option.bind_eq_bind, Option.bind_eq_some_iff, Prod.exists,
      Option.pure_def, Option.some.injEq, Prod.mk.injEq]
    constructor
    · rintro ⟨key, field, middle, first, others, left, read, rfl, rfl⟩
      exact ⟨key, field, middle, others, first, read, rfl⟩
    · rintro ⟨key, field, middle, others, first, read, rfl⟩
      exact ⟨key, field, middle, first, others, after, read, rfl, rfl⟩

theorem parseValue_array : parseValue (fuel + 1) ('[' :: rest) = some (value, after) ↔
    (skipSpaces rest = ']' :: after ∧ value = .arr []) ∨
      ∃ item middle items, parseValue fuel (skipSpaces rest) = some (item, middle) ∧
        parseItems fuel middle = some (items, after) ∧ value = .arr (item :: items) := by
  simp only [parseValue]
  split
  case h_1 tail solid =>
    simp [solid, parseValue_bracket, eq_comm, and_comm]
  case h_2 notBracket =>
    have noEmpty : ¬ (skipSpaces rest = ']' :: after ∧ value = .arr []) :=
      fun empty => notBracket _ empty.1
    simp only [noEmpty, false_or, Option.bind_eq_bind, Option.bind_eq_some_iff, Prod.exists,
      Option.pure_def, Option.some.injEq, Prod.mk.injEq]
    constructor
    · rintro ⟨item, middle, first, others, left, read, rfl, rfl⟩
      exact ⟨item, middle, others, first, read, rfl⟩
    · rintro ⟨item, middle, others, first, read, rfl⟩
      exact ⟨item, middle, first, others, after, read, rfl, rfl⟩

theorem parseMember_iff : parseMember (fuel + 1) characters = some (member, after) ↔
    ∃ quoted text middle colon, characters = '"' :: quoted ∧
      parseStringChars quoted = some (text, middle) ∧ skipSpaces middle = ':' :: colon ∧
        parseValue fuel (skipSpaces colon) = some (member.2, after) ∧
          member.1 = String.ofList text := by
  unfold parseMember
  split
  case h_1 quoted =>
    simp only [Option.bind_eq_bind, Option.bind_eq_some_iff, Prod.exists]
    constructor
    · rintro ⟨text, middle, read, parsed⟩
      split at parsed
      case h_1 colon solid =>
        obtain ⟨⟨value, left⟩, valueRead, same⟩ := Option.bind_eq_some_iff.mp parsed
        obtain ⟨rfl, rfl⟩ := Prod.mk.inj (Option.some.inj same)
        exact ⟨quoted, text, middle, colon, rfl, read, solid, valueRead, rfl⟩
      case h_2 => cases parsed
    · rintro ⟨_, text, middle, colon, same, read, solid, valueRead, key⟩
      obtain rfl := (List.cons.inj same).2
      refine ⟨text, middle, read, ?_⟩
      simp [solid, valueRead, ← key]
  case h_2 notQuote =>
    simp only [reduceCtorEq, false_iff, not_exists]
    rintro quoted _ _ _ ⟨rfl, -⟩
    exact notQuote _ rfl

theorem parseMembers_iff : parseMembers (fuel + 1) characters = some (members, after) ↔
    (skipSpaces characters = '}' :: after ∧ members = []) ∨
      ∃ rest member middle others, skipSpaces characters = ',' :: rest ∧
        parseMember fuel (skipSpaces rest) = some (member, middle) ∧
          parseMembers fuel middle = some (others, after) ∧ members = member :: others := by
  rw [parseMembers]
  split
  case h_1 rest solid => simp [solid, eq_comm, and_comm]
  case h_2 rest solid =>
    simp only [solid, Option.bind_eq_bind, Option.bind_eq_some_iff, Option.pure_def,
      Option.some.injEq, Prod.exists, Prod.mk.injEq]
    constructor
    · rintro ⟨key, field, middle, first, others, left, read, rfl, rfl⟩
      exact .inr ⟨rest, key, field, middle, others, rfl, first, read, rfl⟩
    · rintro (⟨brace, -⟩ | ⟨_, key, field, middle, others, same, first, read, rfl⟩)
      · simp at brace
      · obtain rfl := (List.cons.inj same).2
        exact ⟨key, field, middle, first, others, after, read, rfl, rfl⟩
  case h_3 notBrace notComma =>
    simp only [reduceCtorEq, false_iff, not_or, not_and, not_exists]
    exact ⟨fun brace => absurd brace (notBrace _), fun rest _ _ _ comma =>
      absurd comma (notComma rest)⟩

theorem parseItems_iff : parseItems (fuel + 1) characters = some (items, after) ↔
    (skipSpaces characters = ']' :: after ∧ items = []) ∨
      ∃ rest item middle others, skipSpaces characters = ',' :: rest ∧
        parseValue fuel (skipSpaces rest) = some (item, middle) ∧
          parseItems fuel middle = some (others, after) ∧ items = item :: others := by
  rw [parseItems]
  split
  case h_1 rest solid => simp [solid, eq_comm, and_comm]
  case h_2 rest solid =>
    simp only [solid, Option.bind_eq_bind, Option.bind_eq_some_iff, Option.pure_def,
      Option.some.injEq, Prod.exists, Prod.mk.injEq]
    constructor
    · rintro ⟨item, middle, first, others, left, read, rfl, rfl⟩
      exact .inr ⟨rest, item, middle, others, rfl, first, read, rfl⟩
    · rintro (⟨bracket, -⟩ | ⟨_, item, middle, others, same, first, read, rfl⟩)
      · simp at bracket
      · obtain rfl := (List.cons.inj same).2
        exact ⟨item, middle, first, others, after, read, rfl, rfl⟩
  case h_3 notBracket notComma =>
    simp only [reduceCtorEq, false_iff, not_or, not_and, not_exists]
    exact ⟨fun bracket => absurd bracket (notBracket _), fun rest _ _ _ comma =>
      absurd comma (notComma rest)⟩

/-- With so much fuel, a text that goes on is read in the same way, with more fuel too. -/
structure Extends (fuel : Nat) : Prop where
  value {characters rest : List Char} {value : Json} :
    parseValue fuel characters = some (value, rest) → (value.isNumber = true → Delimits rest) →
      ∀ later, fuel ≤ later → ∀ more,
        parseValue later (characters ++ more) = some (value, rest ++ more)
  member {characters rest : List Char} {member : String × Json} :
    parseMember fuel characters = some (member, rest) → Delimits rest →
      ∀ later, fuel ≤ later → ∀ more,
        parseMember later (characters ++ more) = some (member, rest ++ more)
  members {characters rest : List Char} {members : List (String × Json)} :
    parseMembers fuel characters = some (members, rest) → ∀ later, fuel ≤ later → ∀ more,
      parseMembers later (characters ++ more) = some (members, rest ++ more)
  items {characters rest : List Char} {items : List Json} :
    parseItems fuel characters = some (items, rest) → ∀ later, fuel ≤ later → ∀ more,
      parseItems later (characters ++ more) = some (items, rest ++ more)

theorem delimits_of_parseMembers (parsed : parseMembers fuel characters = some (members, after)) :
    Delimits characters := by
  cases fuel with
  | zero => cases parsed
  | succ fuel =>
      rcases parseMembers_iff.mp parsed with ⟨brace, -⟩ | ⟨_, _, _, _, comma, -⟩
      · exact delimits_of_skipSpaces brace (.inr (.inl rfl))
      · exact delimits_of_skipSpaces comma (.inl rfl)

theorem delimits_of_parseItems (parsed : parseItems fuel characters = some (items, after)) :
    Delimits characters := by
  cases fuel with
  | zero => cases parsed
  | succ fuel =>
      rcases parseItems_iff.mp parsed with ⟨bracket, -⟩ | ⟨_, _, _, _, comma, -⟩
      · exact delimits_of_skipSpaces bracket (.inr (.inr rfl))
      · exact delimits_of_skipSpaces comma (.inl rfl)

theorem skipSpaces_ne_nil_of_value (parsed : parseValue fuel (skipSpaces rest) =
    some (value, after)) : skipSpaces rest ≠ [] := by
  intro ended
  rw [ended, parseValue_nil] at parsed
  cases parsed

theorem skipSpaces_ne_nil_of_member (parsed : parseMember fuel (skipSpaces rest) =
    some (member, after)) : skipSpaces rest ≠ [] := by
  intro ended
  rw [ended, parseMember_nil] at parsed
  cases parsed

theorem skipSpaces_extend_cons {head : Char} (solid : skipSpaces rest = head :: after)
    (more : List Char) : skipSpaces (rest ++ more) = head :: (after ++ more) := by
  rw [skipSpaces_extend (by simp [solid]), solid]
  rfl

namespace Extends

variable (extending : Extends fuel)

include extending

theorem object_succ (parsed : parseValue (fuel + 1) ('{' :: rest) = some (value, after))
    {later : Nat} (enough : fuel ≤ later) (more : List Char) :
    parseValue (later + 1) ('{' :: (rest ++ more)) = some (value, after ++ more) := by
  refine parseValue_object.mpr ?_
  rcases parseValue_object.mp parsed with ⟨brace, empty⟩ | ⟨member, middle, members, first, others,
    same⟩
  · exact .inl ⟨skipSpaces_extend_cons brace more, empty⟩
  · have solid := skipSpaces_ne_nil_of_member first
    refine .inr ⟨member, middle ++ more, members, ?_, extending.members others later enough more,
      same⟩
    rw [skipSpaces_extend solid]
    exact extending.member first (delimits_of_parseMembers others) later enough more

theorem array_succ (parsed : parseValue (fuel + 1) ('[' :: rest) = some (value, after))
    {later : Nat} (enough : fuel ≤ later) (more : List Char) :
    parseValue (later + 1) ('[' :: (rest ++ more)) = some (value, after ++ more) := by
  refine parseValue_array.mpr ?_
  rcases parseValue_array.mp parsed with ⟨bracket, empty⟩ | ⟨item, middle, items, first, others,
    same⟩
  · exact .inl ⟨skipSpaces_extend_cons bracket more, empty⟩
  · have solid := skipSpaces_ne_nil_of_value first
    refine .inr ⟨item, middle ++ more, items, ?_, extending.items others later enough more, same⟩
    rw [skipSpaces_extend solid]
    exact extending.value first (fun _ => delimits_of_parseItems others) later enough more

theorem member_succ (parsed : parseMember (fuel + 1) characters = some (member, after))
    (delimits : Delimits after) {later : Nat} (enough : fuel ≤ later) (more : List Char) :
    parseMember (later + 1) (characters ++ more) = some (member, after ++ more) := by
  obtain ⟨quoted, text, middle, colon, rfl, read, solid, valueRead, key⟩ :=
    parseMember_iff.mp parsed
  refine parseMember_iff.mpr ⟨quoted ++ more, text, middle ++ more, colon ++ more, rfl,
    parseStringChars_extend read more, skipSpaces_extend_cons solid more, ?_, key⟩
  rw [skipSpaces_extend (skipSpaces_ne_nil_of_value valueRead)]
  exact extending.value valueRead (fun _ => delimits) later enough more

theorem members_succ (parsed : parseMembers (fuel + 1) characters = some (members, after))
    {later : Nat} (enough : fuel ≤ later) (more : List Char) :
    parseMembers (later + 1) (characters ++ more) = some (members, after ++ more) := by
  refine parseMembers_iff.mpr ?_
  rcases parseMembers_iff.mp parsed with ⟨brace, empty⟩ | ⟨rest, member, middle, others, comma,
    first, read, same⟩
  · exact .inl ⟨skipSpaces_extend_cons brace more, empty⟩
  · refine .inr ⟨rest ++ more, member, middle ++ more, others, skipSpaces_extend_cons comma more,
      ?_, extending.members read later enough more, same⟩
    rw [skipSpaces_extend (skipSpaces_ne_nil_of_member first)]
    exact extending.member first (delimits_of_parseMembers read) later enough more

theorem items_succ (parsed : parseItems (fuel + 1) characters = some (items, after))
    {later : Nat} (enough : fuel ≤ later) (more : List Char) :
    parseItems (later + 1) (characters ++ more) = some (items, after ++ more) := by
  refine parseItems_iff.mpr ?_
  rcases parseItems_iff.mp parsed with ⟨bracket, empty⟩ | ⟨rest, item, middle, others, comma,
    first, read, same⟩
  · exact .inl ⟨skipSpaces_extend_cons bracket more, empty⟩
  · refine .inr ⟨rest ++ more, item, middle ++ more, others, skipSpaces_extend_cons comma more,
      ?_, extending.items read later enough more, same⟩
    rw [skipSpaces_extend (skipSpaces_ne_nil_of_value first)]
    exact extending.value first (fun _ => delimits_of_parseItems read) later enough more

theorem value_succ (parsed : parseValue (fuel + 1) characters = some (value, rest))
    (delimits : value.isNumber = true → Delimits rest) {later : Nat} (enough : fuel ≤ later)
    (more : List Char) :
    parseValue (later + 1) (characters ++ more) = some (value, rest ++ more) := by
  have whole := parsed
  rw [parseValue.eq_def] at parsed
  simp only at parsed
  split at parsed
  case h_1 tail =>
    simp only [Option.bind_eq_bind, Option.bind_eq_some_iff, Prod.exists] at parsed
    obtain ⟨text, left, read, same⟩ := parsed
    obtain ⟨rfl, rfl⟩ := Prod.mk.inj (Option.some.inj same)
    simp [parseValue, parseStringChars_extend read]
  case h_2 tail => exact extending.object_succ whole enough more
  case h_3 tail => exact extending.array_succ whole enough more
  case h_9 =>
    obtain ⟨isNumber, head, tail, rfl, first⟩ := parseNumber_isNumber parsed
    rw [List.cons_append, parseValue_eq_parseNumber later (tail ++ more) first]
    exact parseNumber_extend (delimits isNumber) parsed more
  all_goals
    obtain ⟨rfl, rfl⟩ := Prod.mk.inj (Option.some.inj parsed)
    simp [parseValue]

end Extends

theorem extends_of_fuel (fuel : Nat) : Extends fuel := by
  induction fuel with
  | zero => exact ⟨nofun, nofun, nofun, nofun⟩
  | succ fuel ih =>
      constructor
      · intro characters rest value parsed delimits later enough more
        obtain ⟨later, rfl⟩ := Nat.exists_eq_add_of_le' (Nat.lt_of_lt_of_le fuel.succ_pos enough)
        exact ih.value_succ parsed delimits (by omega) more
      · intro characters rest member parsed delimits later enough more
        obtain ⟨later, rfl⟩ := Nat.exists_eq_add_of_le' (Nat.lt_of_lt_of_le fuel.succ_pos enough)
        exact ih.member_succ parsed delimits (by omega) more
      · intro characters rest members parsed later enough more
        obtain ⟨later, rfl⟩ := Nat.exists_eq_add_of_le' (Nat.lt_of_lt_of_le fuel.succ_pos enough)
        exact ih.members_succ parsed (by omega) more
      · intro characters rest items parsed later enough more
        obtain ⟨later, rfl⟩ := Nat.exists_eq_add_of_le' (Nat.lt_of_lt_of_le fuel.succ_pos enough)
        exact ih.items_succ parsed (by omega) more

end Parsing

/-! ## Documents -/

theorem loads_eq_some {text : List Char} {value : Json} :
    loads (String.ofList text) = some value ↔ ∃ rest,
      parseValue (text.length + 1) (skipSpaces text) = some (value, rest) ∧
        skipSpaces rest = [] := by
  simp only [loads, String.toList_ofList]
  split
  case h_1 read rest parsed =>
    rw [parsed]
    split_ifs with blank
    · simp [blank, eq_comm]
    · simp [blank]
  case h_2 parsed => simp [parsed]

theorem blank_of_skipSpaces {characters : List Char} (skipped : skipSpaces characters = []) :
    Blank characters :=
  List.dropWhile_eq_nil_iff.mp skipped

/-- What is read of the beginning of a document, but for a number, is all of the document. -/
theorem loads_append {part more : List Char} {value whole : Json}
    (first : loads (String.ofList part) = some value) (notNumber : value.isNumber = false)
    (all : loads (String.ofList (part ++ more)) = some whole) : whole = value ∧ Blank more := by
  obtain ⟨rest, read, -⟩ := loads_eq_some.mp first
  obtain ⟨left, readAll, ended⟩ := loads_eq_some.mp all
  have solid : skipSpaces part ≠ [] := skipSpaces_ne_nil_of_value read
  have extended := (extends_of_fuel _).value read (by simp [notNumber])
    ((part ++ more).length + 1) (by simp) more
  rw [skipSpaces_extend solid, extended] at readAll
  obtain ⟨rfl, rfl⟩ := Prod.mk.inj (Option.some.inj readAll)
  exact ⟨rfl, fun _ member => blank_of_skipSpaces ended _ (List.mem_append_right _ member)⟩

theorem not_isNumber_of_object {text : List Char} {value : Json}
    (read : loads (String.ofList ('{' :: text)) = some value) : value.isNumber = false := by
  obtain ⟨rest, parsed, -⟩ := loads_eq_some.mp read
  rw [skipSpaces_cons (by decide)] at parsed
  rcases parseValue_object.mp parsed with ⟨-, rfl⟩ | ⟨_, _, _, -, -, rfl⟩
  · rfl
  · rfl

theorem layOutMembers_ends (gap : Nat → List Char) (depth : Nat)
    (members : List (String × Json)) : (layOutMembers gap depth members).getLast? = some '}' := by
  induction members with
  | nil => simp [layOutMembers]
  | cons member members ih => simp [layOutMembers, List.getLast?_cons, List.getLast?_append, ih]

theorem layOut_object (gap : Nat → List Char) (depth : Nat) (members : List (String × Json)) :
    (layOut gap depth (.obj members)).head? = some '{' ∧
      (layOut gap depth (.obj members)).getLast? = some '}' := by
  cases members with
  | nil => simp [layOut, dumpsChars]
  | cons member members =>
      simp [layOut, List.getLast?_cons, List.getLast?_append, layOutMembers_ends]

/-- What is cut off the text of an object is not read. -/
theorem loads_cut {newline : List Char} (blank : Blank newline) (indent : Nat)
    {members : List (String × Json)} (readable : FloatsReadableMembers members)
    {part more : List Char} (cut : part ++ more = dumpsIndented newline indent (.obj members))
    (missing : more ≠ []) : loads (String.ofList part) = none := by
  have all := loads_dumpsIndented blank indent
    (show FloatsReadable (.obj members) from readable)
  obtain ⟨opening, closing⟩ := layOut_object (indentation newline indent) 0 members
  rw [← cut] at all
  rw [← dumpsIndented, ← cut] at opening closing
  by_contra read
  obtain ⟨value, first⟩ := Option.ne_none_iff_exists'.mp read
  cases part with
  | nil => cases first
  | cons head part =>
      obtain rfl : head = '{' := by simpa using opening
      obtain ⟨-, rest⟩ := loads_append first (not_isNumber_of_object first) all
      rw [List.getLast?_append_of_ne_nil _ missing] at closing
      have blankBrace := rest '}' (List.mem_of_getLast? closing)
      cases blankBrace

end JsonText
