import CryptoUsb.ByteStrings

/-!
# JSON text

The text that a standard JSON writer produces, with `", "` and `": "` as
separators and every character outside printable ASCII escaped, and a reader
for JSON documents in general.  Reading a written value gives the value back.
Numbers with a fraction or an exponent are kept by their literal.
-/

namespace JsonText

open ByteString

inductive Json
  | null
  | bool (value : Bool)
  | int (value : Int)
  | float (literal : String)
  | str (value : String)
  | arr (items : List Json)
  | obj (members : List (String × Json))

/-! ## Writing -/

/-- `\u` followed by four hexadecimal digits. -/
def unicodeEscape (unit : Nat) : List Char :=
  ['\\', 'u', hexDigit (unit / 4096), hexDigit (unit / 256 % 16),
    hexDigit (unit / 16 % 16), hexDigit (unit % 16)]

/-- One character of a string literal. -/
def dumpsChar (character : Char) : List Char :=
  if character = '"' then ['\\', '"']
  else if character = '\\' then ['\\', '\\']
  else if character = '\n' then ['\\', 'n']
  else if character = '\r' then ['\\', 'r']
  else if character = '\t' then ['\\', 't']
  else if character = '\x0c' then ['\\', 'f']
  else if character = '\x08' then ['\\', 'b']
  else if 32 ≤ character.toNat ∧ character.toNat ≤ 126 then [character]
  else if character.toNat < 65536 then unicodeEscape character.toNat
  else
    unicodeEscape (55296 + (character.toNat - 65536) / 1024) ++
      unicodeEscape (56320 + (character.toNat - 65536) % 1024)

def dumpsString (text : String) : List Char :=
  '"' :: (text.toList.flatMap dumpsChar ++ ['"'])

def dumpsInt (number : Int) : List Char :=
  if 0 ≤ number then Nat.toDigits 10 number.natAbs
  else '-' :: Nat.toDigits 10 number.natAbs

mutual

def dumpsChars : Json → List Char
  | .null => ['n', 'u', 'l', 'l']
  | .bool true => ['t', 'r', 'u', 'e']
  | .bool false => ['f', 'a', 'l', 's', 'e']
  | .int value => dumpsInt value
  | .float literal => literal.toList
  | .str value => dumpsString value
  | .arr [] => ['[', ']']
  | .arr (item :: items) => '[' :: (dumpsChars item ++ dumpsItems items)
  | .obj [] => ['{', '}']
  | .obj ((key, value) :: members) =>
      '{' :: (dumpsString key ++ ':' :: ' ' :: (dumpsChars value ++ dumpsMembers members))

/-- The items after the first one, and the closing bracket. -/
def dumpsItems : List Json → List Char
  | [] => [']']
  | item :: items => ',' :: ' ' :: (dumpsChars item ++ dumpsItems items)

/-- The members after the first one, and the closing brace. -/
def dumpsMembers : List (String × Json) → List Char
  | [] => ['}']
  | (key, value) :: members =>
      ',' :: ' ' :: (dumpsString key ++ ':' :: ' ' :: (dumpsChars value ++ dumpsMembers members))

end

def dumps (value : Json) : String :=
  String.ofList (dumpsChars value)

/-- Put a member before the first one with no smaller key. -/
def insertMember (member : String × Json) : List (String × Json) → List (String × Json)
  | [] => [member]
  | head :: members =>
      if head.1 < member.1 then head :: insertMember member members
      else member :: head :: members

mutual

/-- The value that a writer with `sort_keys` writes. -/
def sortKeys : Json → Json
  | .arr items => .arr (sortKeysItems items)
  | .obj members => .obj (sortKeysMembers members)
  | value => value

def sortKeysItems : List Json → List Json
  | [] => []
  | item :: items => sortKeys item :: sortKeysItems items

def sortKeysMembers : List (String × Json) → List (String × Json)
  | [] => []
  | (key, value) :: members => insertMember (key, sortKeys value) (sortKeysMembers members)

end

/-! ## Reading -/

def isSpace (character : Char) : Bool :=
  character = ' ' || character = '\t' || character = '\n' || character = '\r'

def skipSpaces (characters : List Char) : List Char :=
  characters.dropWhile isSpace

/-- The number written as four hexadecimal digits. -/
def fourHexDigits (first second third fourth : Char) : Option Nat := do
  let first ← hexDigitValue first
  let second ← hexDigitValue second
  let third ← hexDigitValue third
  let fourth ← hexDigitValue fourth
  return first * 4096 + second * 256 + third * 16 + fourth

/-- The characters of a string literal up to its closing quote, and what
follows.  A surrogate escape must be one of a high-low pair. -/
def parseStringChars : List Char → Option (List Char × List Char)
  | [] => none
  | '"' :: rest => some ([], rest)
  | '\\' :: 'u' :: a :: b :: c :: d :: rest =>
      match fourHexDigits a b c d with
      | none => none
      | some unit =>
          if 55296 ≤ unit ∧ unit < 56320 then
            match rest with
            | '\\' :: 'u' :: a :: b :: c :: d :: rest =>
                match fourHexDigits a b c d with
                | none => none
                | some low =>
                    if 56320 ≤ low ∧ low < 57344 then
                      (parseStringChars rest).map fun parsed =>
                        (Char.ofNat (65536 + (unit - 55296) * 1024 + (low - 56320)) :: parsed.1,
                          parsed.2)
                    else none
            | _ => none
          else if 56320 ≤ unit ∧ unit < 57344 then none
          else
            (parseStringChars rest).map fun parsed =>
              (Char.ofNat unit :: parsed.1, parsed.2)
  | '\\' :: escape :: rest =>
      let character : Option Char :=
        if escape = '"' then some '"'
        else if escape = '\\' then some '\\'
        else if escape = '/' then some '/'
        else if escape = 'b' then some '\x08'
        else if escape = 'f' then some '\x0c'
        else if escape = 'n' then some '\n'
        else if escape = 'r' then some '\r'
        else if escape = 't' then some '\t'
        else none
      match character with
      | none => none
      | some character =>
          (parseStringChars rest).map fun parsed => (character :: parsed.1, parsed.2)
  | character :: rest =>
      if character = '\\' ∨ character.toNat < 32 then none
      else (parseStringChars rest).map fun parsed => (character :: parsed.1, parsed.2)

/-- The literal, without its sign, of a JSON fraction and exponent. -/
def takeFraction : List Char → List Char × List Char
  | '.' :: digit :: rest =>
      if digit.isDigit then
        ('.' :: digit :: rest.takeWhile Char.isDigit, rest.dropWhile Char.isDigit)
      else ([], '.' :: digit :: rest)
  | characters => ([], characters)

def takeExponent (characters : List Char) : List Char × List Char :=
  match characters with
  | marker :: rest =>
      if marker = 'e' ∨ marker = 'E' then
        match rest with
        | sign :: digit :: more =>
            if (sign = '+' ∨ sign = '-') ∧ digit.isDigit then
              (marker :: sign :: digit :: more.takeWhile Char.isDigit,
                more.dropWhile Char.isDigit)
            else if sign.isDigit then
              (marker :: rest.takeWhile Char.isDigit, rest.dropWhile Char.isDigit)
            else ([], characters)
        | [digit] =>
            if digit.isDigit then ([marker, digit], []) else ([], characters)
        | [] => ([], characters)
      else ([], characters)
  | [] => ([], [])

/-- Finish a number whose integer digits have been read. -/
def finishNumber (negative : Bool) (digits rest : List Char) : Json × List Char :=
  let (fraction, rest) := takeFraction rest
  let (exponent, rest) := takeExponent rest
  let magnitude := Nat.ofDigitChars 10 digits 0
  if fraction = [] ∧ exponent = [] then
    (.int (if negative then -(magnitude : Int) else magnitude), rest)
  else
    (.float (String.ofList
      ((if negative then ['-'] else []) ++ digits ++ fraction ++ exponent)), rest)

def parseUnsigned (negative : Bool) : List Char → Option (Json × List Char)
  | [] => none
  | first :: rest =>
      if first = '0' then some (finishNumber negative ['0'] rest)
      else if first.isDigit then
        some (finishNumber negative (first :: rest.takeWhile Char.isDigit)
          (rest.dropWhile Char.isDigit))
      else none

def parseNumber : List Char → Option (Json × List Char)
  | '-' :: 'I' :: 'n' :: 'f' :: 'i' :: 'n' :: 'i' :: 't' :: 'y' :: rest =>
      some (.float "-Infinity", rest)
  | '-' :: rest => parseUnsigned true rest
  | characters => parseUnsigned false characters

mutual

/-- One value and what follows it.  Every nested value costs one unit of
fuel. -/
def parseValue : Nat → List Char → Option (Json × List Char)
  | 0, _ => none
  | fuel + 1, characters =>
      match characters with
      | '"' :: rest => do
          let (text, rest) ← parseStringChars rest
          return (.str (String.ofList text), rest)
      | '{' :: rest =>
          match skipSpaces rest with
          | '}' :: rest => some (.obj [], rest)
          | rest => do
              let (member, rest) ← parseMember fuel rest
              let (members, rest) ← parseMembers fuel rest
              return (.obj (member :: members), rest)
      | '[' :: rest =>
          match skipSpaces rest with
          | ']' :: rest => some (.arr [], rest)
          | rest => do
              let (item, rest) ← parseValue fuel rest
              let (items, rest) ← parseItems fuel rest
              return (.arr (item :: items), rest)
      | 'n' :: 'u' :: 'l' :: 'l' :: rest => some (.null, rest)
      | 't' :: 'r' :: 'u' :: 'e' :: rest => some (.bool true, rest)
      | 'f' :: 'a' :: 'l' :: 's' :: 'e' :: rest => some (.bool false, rest)
      | 'N' :: 'a' :: 'N' :: rest => some (.float "NaN", rest)
      | 'I' :: 'n' :: 'f' :: 'i' :: 'n' :: 'i' :: 't' :: 'y' :: rest =>
          some (.float "Infinity", rest)
      | characters => parseNumber characters

/-- A member `"key": value`. -/
def parseMember : Nat → List Char → Option ((String × Json) × List Char)
  | 0, _ => none
  | fuel + 1, characters =>
      match characters with
      | '"' :: rest => do
          let (key, rest) ← parseStringChars rest
          match skipSpaces rest with
          | ':' :: rest => do
              let (value, rest) ← parseValue fuel (skipSpaces rest)
              return ((String.ofList key, value), rest)
          | _ => none
      | _ => none

/-- What follows a member: the closing brace, or a comma and another member. -/
def parseMembers : Nat → List Char → Option (List (String × Json) × List Char)
  | 0, _ => none
  | fuel + 1, characters =>
      match skipSpaces characters with
      | '}' :: rest => some ([], rest)
      | ',' :: rest => do
          let (member, rest) ← parseMember fuel (skipSpaces rest)
          let (members, rest) ← parseMembers fuel rest
          return (member :: members, rest)
      | _ => none

/-- What follows an item: the closing bracket, or a comma and another item. -/
def parseItems : Nat → List Char → Option (List Json × List Char)
  | 0, _ => none
  | fuel + 1, characters =>
      match skipSpaces characters with
      | ']' :: rest => some ([], rest)
      | ',' :: rest => do
          let (item, rest) ← parseValue fuel (skipSpaces rest)
          let (items, rest) ← parseItems fuel rest
          return (item :: items, rest)
      | _ => none

end

/-- The value of a JSON document, or `none` where the text is not one. -/
def loads (text : String) : Option Json :=
  let characters := text.toList
  match parseValue (characters.length + 1) (skipSpaces characters) with
  | some (value, rest) => if skipSpaces rest = [] then some value else none
  | none => none

/-! ## Reading back a string -/

theorem hexDigitValue_hexDigit {number : Nat} (small : number < 16) :
    hexDigitValue (hexDigit number) = some number :=
  hexDigitValue_of_toLower small (toLower_hexDigit small)

theorem fourHexDigits_of_unit {unit : Nat} (small : unit < 65536) :
    fourHexDigits (hexDigit (unit / 4096)) (hexDigit (unit / 256 % 16))
      (hexDigit (unit / 16 % 16)) (hexDigit (unit % 16)) = some unit := by
  simp only [fourHexDigits,
    hexDigitValue_hexDigit (show unit / 4096 < 16 by omega),
    hexDigitValue_hexDigit (show unit / 256 % 16 < 16 by omega),
    hexDigitValue_hexDigit (show unit / 16 % 16 < 16 by omega),
    hexDigitValue_hexDigit (show unit % 16 < 16 by omega),
    Option.bind_eq_bind, Option.bind_some, Option.pure_def, Option.some.injEq]
  omega

theorem parseStringChars_unit {unit : Nat} (small : unit < 65536)
    (scalar : ¬ (55296 ≤ unit ∧ unit < 57344)) (rest : List Char) :
    parseStringChars (unicodeEscape unit ++ rest) =
      (parseStringChars rest).map fun parsed =>
        (Char.ofNat unit :: parsed.1, parsed.2) := by
  have notHigh : ¬ (55296 ≤ unit ∧ unit < 56320) := by omega
  have notLow : ¬ (56320 ≤ unit ∧ unit < 57344) := by omega
  simp only [unicodeEscape, List.cons_append, List.nil_append, parseStringChars,
    fourHexDigits_of_unit small, if_neg notHigh, if_neg notLow]

theorem parseStringChars_pair {high low : Nat}
    (highRange : 55296 ≤ high ∧ high < 56320) (lowRange : 56320 ≤ low ∧ low < 57344)
    (rest : List Char) :
    parseStringChars (unicodeEscape high ++ (unicodeEscape low ++ rest)) =
      (parseStringChars rest).map fun parsed =>
        (Char.ofNat (65536 + (high - 55296) * 1024 + (low - 56320)) :: parsed.1,
          parsed.2) := by
  simp only [unicodeEscape, List.cons_append, List.nil_append, parseStringChars,
    fourHexDigits_of_unit (show high < 65536 by omega),
    fourHexDigits_of_unit (show low < 65536 by omega), if_pos highRange, if_pos lowRange]

theorem parseStringChars_plain {character : Char} (notQuote : character ≠ '"')
    (notBackslash : character ≠ '\\') (printable : 32 ≤ character.toNat)
    (rest : List Char) :
    parseStringChars (character :: rest) =
      (parseStringChars rest).map fun parsed => (character :: parsed.1, parsed.2) := by
  have allowed : ¬ (character = '\\' ∨ character.toNat < 32) := by
    rintro (backslash | control)
    · exact notBackslash backslash
    · omega
  rw [parseStringChars.eq_def]
  split
  case h_1 empty => cases empty
  case h_2 equal => exact absurd (List.cons.inj equal).1 notQuote
  case h_3 equal => exact absurd (List.cons.inj equal).1 notBackslash
  case h_4 equal => exact absurd (List.cons.inj equal).1 notBackslash
  case h_5 equal =>
    obtain ⟨rfl, rfl⟩ := List.cons.inj equal
    rw [if_neg allowed]

theorem parseStringChars_dumpsChar (character : Char) (rest : List Char) :
    parseStringChars (dumpsChar character ++ rest) =
      (parseStringChars rest).map fun parsed => (character :: parsed.1, parsed.2) := by
  have scalar : ¬ (55296 ≤ character.toNat ∧ character.toNat < 57344) := by
    have valid := character.valid
    change character.toNat < 55296 ∨ (57343 < character.toNat ∧ _) at valid
    omega
  have inUnicode : character.toNat < 1114112 := by
    have valid := character.valid
    change character.toNat < 55296 ∨ (_ ∧ character.toNat < 1114112) at valid
    omega
  unfold dumpsChar
  split_ifs with quote backslash newline return_ tab formFeed backspace printable basic
  case pos => subst quote; simp [parseStringChars]
  case pos => subst backslash; simp [parseStringChars]
  case pos => subst newline; simp [parseStringChars]
  case pos => subst return_; simp [parseStringChars]
  case pos => subst tab; simp [parseStringChars]
  case pos => subst formFeed; simp [parseStringChars]
  case pos => subst backspace; simp [parseStringChars]
  case pos => exact parseStringChars_plain quote backslash printable.1 rest
  case pos =>
    rw [parseStringChars_unit basic scalar, Char.ofNat_toNat]
  case neg =>
    have restored : 65536 + (55296 + (character.toNat - 65536) / 1024 - 55296) * 1024 +
        (56320 + (character.toNat - 65536) % 1024 - 56320) = character.toNat := by
      omega
    rw [List.append_assoc, parseStringChars_pair (by omega) (by omega), restored,
      Char.ofNat_toNat]

theorem parseStringChars_dumps (characters rest : List Char) :
    parseStringChars (characters.flatMap dumpsChar ++ '"' :: rest) =
      some (characters, rest) := by
  induction characters with
  | nil => simp [parseStringChars]
  | cons character characters ih =>
      rw [List.flatMap_cons, List.append_assoc, parseStringChars_dumpsChar, ih]
      rfl

/-! ## Reading back a number -/

/-- The text after a number does not continue it. -/
def EndsNumber (rest : List Char) : Prop :=
  ∀ character ∈ rest.head?,
    character.isDigit = false ∧ character ≠ '.' ∧ character ≠ 'e' ∧ character ≠ 'E'

theorem endsNumber_nil : EndsNumber [] := by
  intro character member
  cases member

theorem endsNumber_cons {character : Char} {rest : List Char}
    (stops : character = ',' ∨ character = '}' ∨ character = ']') :
    EndsNumber (character :: rest) := by
  intro head member
  obtain rfl : character = head := by simpa using member
  rcases stops with rfl | rfl | rfl <;> decide

theorem takeFraction_of_ends {rest : List Char} (ends : EndsNumber rest) :
    takeFraction rest = ([], rest) := by
  unfold takeFraction
  split
  case h_1 => exact absurd rfl (ends _ rfl).2.1
  case h_2 => rfl

theorem takeExponent_of_ends {rest : List Char} (ends : EndsNumber rest) :
    takeExponent rest = ([], rest) := by
  cases rest with
  | nil => rfl
  | cons marker more =>
      have stops := ends marker rfl
      simp [takeExponent, stops.2.2.1, stops.2.2.2]

theorem finishNumber_of_ends {rest : List Char} (negative : Bool) (digits : List Char)
    (ends : EndsNumber rest) :
    finishNumber negative digits rest =
      (.int (if negative then -(Nat.ofDigitChars 10 digits 0 : Int)
        else Nat.ofDigitChars 10 digits 0), rest) := by
  simp [finishNumber, takeFraction_of_ends ends, takeExponent_of_ends ends]

theorem takeWhile_digits {digits rest : List Char}
    (allDigits : ∀ character ∈ digits, character.isDigit = true)
    (ends : EndsNumber rest) :
    (digits ++ rest).takeWhile Char.isDigit = digits ∧
      (digits ++ rest).dropWhile Char.isDigit = rest := by
  induction digits with
  | nil =>
      cases rest with
      | nil => simp
      | cons head rest =>
          have := (ends head rfl).1
          simp [this]
  | cons digit digits ih =>
      have isDigit := allDigits digit (by simp)
      have tail := ih fun character member => allDigits character (by simp [member])
      simp [isDigit, tail]

theorem head_toDigits {number : Nat} {digit : Char} {digits : List Char}
    (written : Nat.toDigits 10 number = digit :: digits) (zero : digit = '0') :
    digits = [] := by
  induction number using Nat.strong_induction_on generalizing digits with
  | _ number ih =>
      by_cases small : number < 10
      · rw [Nat.toDigits_of_lt_base small] at written
        exact (List.cons.inj written).2.symm
      · rw [Nat.toDigits_of_base_le (by omega) (by omega)] at written
        cases quotient : Nat.toDigits 10 (number / 10) with
        | nil => exact absurd quotient Nat.toDigits_ne_nil
        | cons head tail =>
            rw [quotient, List.cons_append] at written
            obtain ⟨rfl, tailEq⟩ := List.cons.inj written
            have tailNil := ih (number / 10) (by omega) quotient
            have quotientZero : number / 10 = 0 := by
              have value := Nat.ofDigitChars_ten_toDigits (n := number / 10)
              rw [quotient, tailNil, zero] at value
              simpa [Nat.ofDigitChars_cons] using value.symm
            omega

theorem parseUnsigned_toDigits (negative : Bool) (number : Nat) {rest : List Char}
    (ends : EndsNumber rest) :
    parseUnsigned negative (Nat.toDigits 10 number ++ rest) =
      some (.int (if negative then -(number : Int) else number), rest) := by
  have allDigits : ∀ character ∈ Nat.toDigits 10 number, character.isDigit = true :=
    fun character member => Nat.isDigit_of_mem_toDigits (by omega) (by omega) member
  have value := Nat.ofDigitChars_ten_toDigits (n := number)
  cases written : Nat.toDigits 10 number with
  | nil => exact absurd written Nat.toDigits_ne_nil
  | cons digit digits =>
      rw [written] at value allDigits
      rw [List.cons_append, parseUnsigned]
      by_cases zero : digit = '0'
      · have digitsNil := head_toDigits written zero
        rw [zero, digitsNil] at value
        rw [if_pos zero, digitsNil, List.nil_append, finishNumber_of_ends negative _ ends, value]
      · have isDigit := allDigits digit (by simp)
        have tailDigits : ∀ character ∈ digits, character.isDigit = true :=
          fun character member => allDigits character (List.mem_cons_of_mem _ member)
        have span := takeWhile_digits tailDigits ends
        rw [if_neg zero, if_pos isDigit, span.1, span.2,
          finishNumber_of_ends negative _ ends, value]

theorem parseNumber_dumpsInt (number : Int) {rest : List Char} (ends : EndsNumber rest) :
    parseNumber (dumpsInt number ++ rest) = some (.int number, rest) := by
  have allDigits : ∀ character ∈ Nat.toDigits 10 number.natAbs, character.isDigit = true :=
    fun character member => Nat.isDigit_of_mem_toDigits (by omega) (by omega) member
  unfold dumpsInt
  cases written : Nat.toDigits 10 number.natAbs with
  | nil => exact absurd written Nat.toDigits_ne_nil
  | cons digit digits =>
      have isDigit : digit.isDigit = true := by
        rw [written] at allDigits
        exact allDigits digit (by simp)
      have read (negative : Bool) := parseUnsigned_toDigits negative number.natAbs ends
      rw [written] at read
      by_cases positive : 0 ≤ number
      · have natAbs : ((number.natAbs : Nat) : Int) = number := by omega
        have notMinus : digit ≠ '-' := by
          rintro rfl
          revert isDigit
          decide
        rw [if_pos positive, List.cons_append, parseNumber.eq_def]
        split
        case h_1 equal => exact absurd (List.cons.inj equal).1 notMinus
        case h_2 equal => exact absurd (List.cons.inj equal).1 notMinus
        case h_3 =>
          rw [← List.cons_append, read false]
          simp [natAbs]
      · have natAbs : -((number.natAbs : Nat) : Int) = number := by omega
        have notInfinity : digit ≠ 'I' := by
          rintro rfl
          revert isDigit
          decide
        rw [if_neg positive, List.cons_append, List.cons_append, parseNumber.eq_def]
        split
        case h_1 equal =>
          exact absurd (List.cons.inj (List.cons.inj equal).2).1 notInfinity
        case h_2 equal =>
          obtain rfl := (List.cons.inj equal).2
          rw [← List.cons_append, read true, if_pos rfl, natAbs]
        case h_3 notMinus => exact absurd rfl (notMinus _)

/-! ## Reading back a float -/

/-- A text that is read as a whole as one number with a fraction or an
exponent. -/
def isFloatLiteral (literal : String) : Bool :=
  match parseNumber literal.toList with
  | some (.float text, []) => text = literal
  | _ => false

theorem parseNumber_floatLiteral {literal : String} (isLiteral : isFloatLiteral literal = true) :
    parseNumber literal.toList = some (.float literal, []) := by
  unfold isFloatLiteral at isLiteral
  split at isLiteral
  case h_1 text read => rw [read, of_decide_eq_true isLiteral]
  case h_2 => cases isLiteral

theorem takeWhile_append_ends {rest : List Char} (ends : EndsNumber rest)
    (characters : List Char) :
    (characters ++ rest).takeWhile Char.isDigit = characters.takeWhile Char.isDigit ∧
      (characters ++ rest).dropWhile Char.isDigit =
        characters.dropWhile Char.isDigit ++ rest := by
  induction characters with
  | nil =>
      cases rest with
      | nil => simp
      | cons head rest =>
          have := (ends head rfl).1
          simp [this]
  | cons digit digits ih =>
      by_cases isDigit : digit.isDigit = true
      · simp [isDigit, ih]
      · simp [isDigit]

theorem takeFraction_append {characters rest : List Char} (ends : EndsNumber rest)
    (notPoint : characters ≠ ['.']) :
    takeFraction (characters ++ rest) =
      ((takeFraction characters).1, (takeFraction characters).2 ++ rest) := by
  cases characters with
  | nil => exact takeFraction_of_ends ends
  | cons head tail =>
      by_cases point : head = '.'
      · subst point
        cases tail with
        | nil => exact absurd rfl notPoint
        | cons digit more =>
            obtain ⟨digits, others⟩ := takeWhile_append_ends ends more
            by_cases isDigit : digit.isDigit = true
            · simp [takeFraction, isDigit, digits, others]
            · simp [takeFraction, isDigit]
      · simp [takeFraction, point]

theorem takeExponent_append {characters rest : List Char} (ends : EndsNumber rest)
    (whole : (takeExponent characters).2 = []) :
    takeExponent (characters ++ rest) = ((takeExponent characters).1, rest) := by
  cases characters with
  | nil => exact takeExponent_of_ends ends
  | cons marker tail =>
      by_cases isMarker : marker = 'e' ∨ marker = 'E'
      · match tail with
        | [] => simp [takeExponent, isMarker] at whole
        | [digit] =>
            by_cases isDigit : digit.isDigit = true
            · cases rest with
              | nil => simp [takeExponent, isMarker, isDigit]
              | cons head more =>
                  have notDigit := (ends head rfl).1
                  simp [takeExponent, isMarker, isDigit, notDigit]
            · simp [takeExponent, isMarker, isDigit] at whole
        | sign :: digit :: more =>
            obtain ⟨digits, others⟩ := takeWhile_append_ends ends more
            obtain ⟨tailDigits, tailOthers⟩ :=
              takeWhile_append_ends ends (sign :: digit :: more)
            simp only [List.cons_append] at tailDigits tailOthers
            simp only [takeExponent, List.cons_append, isMarker, if_true] at whole ⊢
            split_ifs at whole ⊢ with signed unsigned
            · simp only at whole ⊢
              rw [digits, others, whole, List.nil_append]
            · simp only at whole ⊢
              rw [tailDigits, tailOthers, whole, List.nil_append]
      · simp [takeExponent, isMarker] at whole

theorem finishNumber_append {negative : Bool} {digits characters rest : List Char} {value : Json}
    (ends : EndsNumber rest) (finished : finishNumber negative digits characters = (value, [])) :
    finishNumber negative digits (characters ++ rest) = (value, rest) := by
  have whole : (takeExponent (takeFraction characters).2).2 = [] := by
    have second := congrArg Prod.snd finished
    simp only [finishNumber] at second
    split_ifs at second <;> exact second
  have notPoint : characters ≠ ['.'] := by
    rintro rfl
    revert whole
    decide
  have fraction := takeFraction_append ends notPoint
  have exponent := takeExponent_append ends whole
  have first := congrArg Prod.fst finished
  simp only [finishNumber] at first ⊢
  rw [fraction]
  simp only [exponent]
  split_ifs at first ⊢ <;> simp_all

theorem parseUnsigned_append {negative : Bool} {characters rest : List Char} {value : Json}
    (ends : EndsNumber rest) (read : parseUnsigned negative characters = some (value, [])) :
    parseUnsigned negative (characters ++ rest) = some (value, rest) := by
  cases characters with
  | nil => cases read
  | cons first characters =>
      simp only [List.cons_append, parseUnsigned] at read ⊢
      split_ifs at read ⊢ with zero isDigit
      · exact congrArg some (finishNumber_append ends (Option.some.inj read))
      · obtain ⟨digits, others⟩ := takeWhile_append_ends ends characters
        rw [digits, others]
        exact congrArg some (finishNumber_append ends (Option.some.inj read))

theorem parseUnsigned_head {negative : Bool} {characters : List Char}
    {read : Json × List Char} (parsed : parseUnsigned negative characters = some read) :
    ∃ head tail, characters = head :: tail ∧ head.isDigit = true := by
  cases characters with
  | nil => cases parsed
  | cons head tail =>
      refine ⟨head, tail, rfl, ?_⟩
      simp only [parseUnsigned] at parsed
      split_ifs at parsed with zero isDigit
      · rw [zero]
        decide
      · exact isDigit

/-- A number that is read as a whole is read the same before a text that ends it. -/
theorem parseNumber_append {characters rest : List Char} {value : Json}
    (ends : EndsNumber rest) (read : parseNumber characters = some (value, [])) :
    parseNumber (characters ++ rest) = some (value, rest) := by
  unfold parseNumber at read
  split at read
  case h_1 more =>
    obtain ⟨rfl, rfl⟩ := Prod.mk.inj (Option.some.inj read)
    rfl
  case h_2 more _ =>
    obtain ⟨digit, digits, rfl, isDigit⟩ := parseUnsigned_head read
    have notInfinity : digit ≠ 'I' := by
      rintro rfl
      revert isDigit
      decide
    have appended := parseUnsigned_append ends read
    simpa [parseNumber, notInfinity] using appended
  case h_3 notMinus _ =>
    obtain ⟨digit, digits, rfl, isDigit⟩ := parseUnsigned_head read
    have notSign : digit ≠ '-' := by
      rintro rfl
      revert isDigit
      decide
    have appended := parseUnsigned_append ends read
    simpa [parseNumber, notSign] using appended

theorem floatLiteral_head {literal : String} (isLiteral : isFloatLiteral literal = true) :
    ∃ head tail, literal.toList = head :: tail ∧ (head.isDigit = true ∨ head = '-') := by
  have read := parseNumber_floatLiteral isLiteral
  unfold parseNumber at read
  split at read
  case h_1 written => exact ⟨'-', _, written, .inr rfl⟩
  case h_2 written => exact ⟨'-', _, written, .inr rfl⟩
  case h_3 =>
    obtain ⟨digit, digits, written, isDigit⟩ := parseUnsigned_head read
    exact ⟨digit, digits, written, .inl isDigit⟩

/-! ## Reading back a value -/

mutual

/-- No number with a fraction or an exponent occurs. -/
def FloatFree : Json → Prop
  | .float _ => False
  | .arr items => FloatFreeItems items
  | .obj members => FloatFreeMembers members
  | _ => True

def FloatFreeItems : List Json → Prop
  | [] => True
  | item :: items => FloatFree item ∧ FloatFreeItems items

def FloatFreeMembers : List (String × Json) → Prop
  | [] => True
  | (_, value) :: members => FloatFree value ∧ FloatFreeMembers members

end

mutual

/-- Every number with a fraction or an exponent is kept by a text that is read
back as it stands. -/
def FloatsReadable : Json → Prop
  | .float literal => isFloatLiteral literal = true
  | .arr items => FloatsReadableItems items
  | .obj members => FloatsReadableMembers members
  | _ => True

def FloatsReadableItems : List Json → Prop
  | [] => True
  | item :: items => FloatsReadable item ∧ FloatsReadableItems items

def FloatsReadableMembers : List (String × Json) → Prop
  | [] => True
  | (_, value) :: members => FloatsReadable value ∧ FloatsReadableMembers members

end

mutual

theorem FloatFree.floatsReadable : ∀ value : Json, FloatFree value → FloatsReadable value
  | .float _, floatFree => floatFree.elim
  | .arr items, floatFree => FloatFreeItems.floatsReadable items floatFree
  | .obj members, floatFree => FloatFreeMembers.floatsReadable members floatFree
  | .null, _ => trivial
  | .bool _, _ => trivial
  | .int _, _ => trivial
  | .str _, _ => trivial

theorem FloatFreeItems.floatsReadable : ∀ items : List Json,
    FloatFreeItems items → FloatsReadableItems items
  | [], _ => trivial
  | item :: items, ⟨itemFree, itemsFree⟩ =>
      ⟨FloatFree.floatsReadable item itemFree, FloatFreeItems.floatsReadable items itemsFree⟩

theorem FloatFreeMembers.floatsReadable : ∀ members : List (String × Json),
    FloatFreeMembers members → FloatsReadableMembers members
  | [], _ => trivial
  | (_, value) :: members, ⟨valueFree, membersFree⟩ =>
      ⟨FloatFree.floatsReadable value valueFree,
        FloatFreeMembers.floatsReadable members membersFree⟩

end

theorem skipSpaces_cons {character : Char} {rest : List Char}
    (solid : isSpace character = false) :
    skipSpaces (character :: rest) = character :: rest := by
  simp [skipSpaces, solid]

theorem skipSpaces_space (rest : List Char) :
    skipSpaces (' ' :: rest) = skipSpaces rest := by
  simp [skipSpaces, isSpace]

theorem parseValue_eq_parseNumber (fuel : Nat) {head : Char} (tail : List Char)
    (number : head.isDigit = true ∨ head = '-') :
    parseValue (fuel + 1) (head :: tail) = parseNumber (head :: tail) := by
  have notNumber {letter : Char} (equal : head = letter)
      (other : letter.isDigit = false ∧ letter ≠ '-') : False := by
    rcases number with digit | minus
    · rw [equal, other.1] at digit
      cases digit
    · exact other.2 (equal ▸ minus)
  unfold parseValue
  split
  case h_9 => rfl
  all_goals
    rename_i equal
    exact (notNumber (List.cons.inj equal).1 (by decide)).elim

theorem dumpsInt_head (number : Int) :
    ∃ head tail, dumpsInt number = head :: tail ∧ (head.isDigit = true ∨ head = '-') := by
  unfold dumpsInt
  split_ifs
  · cases written : Nat.toDigits 10 number.natAbs with
    | nil => exact absurd written Nat.toDigits_ne_nil
    | cons digit digits =>
        have member : digit ∈ Nat.toDigits 10 number.natAbs := by simp [written]
        exact ⟨digit, digits, rfl,
          .inl (Nat.isDigit_of_mem_toDigits (by omega) (by omega) member)⟩
  · exact ⟨'-', _, rfl, .inr rfl⟩

theorem not_space_of_number {head : Char} (number : head.isDigit = true ∨ head = '-') :
    isSpace head = false ∧ head ≠ ']' := by
  rcases number with digit | rfl
  · constructor
    · by_contra space
      have spaces : head = ' ' ∨ head = '\t' ∨ head = '\n' ∨ head = '\r' := by
        simp only [isSpace, Bool.or_eq_false_iff, decide_eq_false_iff_not] at space
        tauto
      rcases spaces with rfl | rfl | rfl | rfl <;> revert digit <;> decide
    · rintro rfl
      revert digit
      decide
  · decide

/-- A written value starts with neither a space nor a closing bracket. -/
theorem dumpsChars_head (value : Json) (readable : FloatsReadable value) :
    ∃ head tail, dumpsChars value = head :: tail ∧ isSpace head = false ∧ head ≠ ']' := by
  match value with
  | .null => exact ⟨_, _, rfl, by decide, by decide⟩
  | .bool true => exact ⟨_, _, rfl, by decide, by decide⟩
  | .bool false => exact ⟨_, _, rfl, by decide, by decide⟩
  | .int number =>
      obtain ⟨head, tail, written, number⟩ := dumpsInt_head number
      exact ⟨head, tail, by rw [dumpsChars, written], not_space_of_number number⟩
  | .float literal =>
      obtain ⟨head, tail, written, number⟩ := floatLiteral_head readable
      exact ⟨head, tail, by rw [dumpsChars, written], not_space_of_number number⟩
  | .str _ => exact ⟨_, _, rfl, by decide, by decide⟩
  | .arr [] => exact ⟨_, _, rfl, by decide, by decide⟩
  | .arr (_ :: _) => exact ⟨_, _, rfl, by decide, by decide⟩
  | .obj [] => exact ⟨_, _, rfl, by decide, by decide⟩
  | .obj (_ :: _) => exact ⟨_, _, rfl, by decide, by decide⟩

theorem skipSpaces_dumpsChars (value : Json) (readable : FloatsReadable value)
    (rest : List Char) :
    skipSpaces (dumpsChars value ++ rest) = dumpsChars value ++ rest := by
  obtain ⟨head, tail, written, solid, -⟩ := dumpsChars_head value readable
  rw [written, List.cons_append, skipSpaces_cons solid]

theorem length_dumpsChars_pos (value : Json) (readable : FloatsReadable value) :
    0 < (dumpsChars value).length := by
  obtain ⟨head, tail, written, -⟩ := dumpsChars_head value readable
  simp [written]

theorem endsNumber_dumpsItems (items : List Json) (rest : List Char) :
    EndsNumber (dumpsItems items ++ rest) := by
  cases items <;> exact endsNumber_cons (by decide)

theorem endsNumber_dumpsMembers (members : List (String × Json)) (rest : List Char) :
    EndsNumber (dumpsMembers members ++ rest) := by
  match members with
  | [] => exact endsNumber_cons (by decide)
  | (_, _) :: _ => exact endsNumber_cons (by decide)

mutual

/-- Enough fuel reads a written value back, whatever follows it. -/
theorem parseValue_dumpsChars : ∀ (value : Json) (fuel : Nat) (rest : List Char),
    FloatsReadable value → (dumpsChars value).length ≤ fuel → EndsNumber rest →
      parseValue fuel (dumpsChars value ++ rest) = some (value, rest)
  | value, 0, _, readable, bound, _ => by
      have := length_dumpsChars_pos value readable
      omega
  | .null, _ + 1, _, _, _, _ => by simp [dumpsChars, parseValue]
  | .bool true, _ + 1, _, _, _, _ => by simp [dumpsChars, parseValue]
  | .bool false, _ + 1, _, _, _, _ => by simp [dumpsChars, parseValue]
  | .int number, fuel + 1, rest, _, _, ends => by
      obtain ⟨head, tail, written, isNumber⟩ := dumpsInt_head number
      have read := parseNumber_dumpsInt number ends
      rw [written, List.cons_append] at read
      rw [dumpsChars, written, List.cons_append,
        parseValue_eq_parseNumber fuel (tail ++ rest) isNumber, read]
  | .float literal, fuel + 1, rest, readable, _, ends => by
      obtain ⟨head, tail, written, isNumber⟩ := floatLiteral_head readable
      have read := parseNumber_append ends (parseNumber_floatLiteral readable)
      rw [written, List.cons_append] at read
      rw [dumpsChars, written, List.cons_append,
        parseValue_eq_parseNumber fuel (tail ++ rest) isNumber, read]
  | .str text, fuel + 1, rest, _, _, _ => by
      simp [dumpsChars, dumpsString, parseValue, parseStringChars_dumps]
  | .arr [], fuel + 1, rest, _, _, _ => by
      simp [dumpsChars, parseValue, skipSpaces, isSpace]
  | .arr (item :: items), fuel + 1, rest, readable, bound, _ => by
      obtain ⟨itemReadable, itemsReadable⟩ := readable
      simp only [dumpsChars, List.length_cons, List.length_append] at bound
      have readItem := parseValue_dumpsChars item fuel (dumpsItems items ++ rest) itemReadable
        (by omega) (endsNumber_dumpsItems items rest)
      have readItems := parseItems_dumps items fuel rest itemsReadable (by omega)
      obtain ⟨head, tail, written, solid, notClosing⟩ := dumpsChars_head item itemReadable
      rw [written, List.cons_append] at readItem
      simp only [dumpsChars, written, List.cons_append, List.append_assoc, parseValue]
      rw [skipSpaces_cons solid]
      split
      case h_1 equal => exact absurd (List.cons.inj equal).1 notClosing
      case h_2 => simp [readItem, readItems]
  | .obj [], fuel + 1, rest, _, _, _ => by
      simp [dumpsChars, parseValue, skipSpaces, isSpace]
  | .obj ((key, value) :: members), fuel + 1, rest, readable, bound, _ => by
      obtain ⟨valueReadable, membersReadable⟩ := readable
      simp only [dumpsChars, List.length_cons, List.length_append] at bound
      have readMember := parseMember_dumps key value fuel (dumpsMembers members ++ rest)
        valueReadable (by omega) (endsNumber_dumpsMembers members rest)
      have readMembers := parseMembers_dumps members fuel rest membersReadable (by omega)
      simp only [dumpsString, List.cons_append, List.nil_append, List.append_assoc]
        at readMember
      simp only [dumpsChars, dumpsString, List.cons_append, List.nil_append,
        List.append_assoc, parseValue]
      rw [skipSpaces_cons (by decide)]
      simp [readMember, readMembers]

theorem parseMember_dumps : ∀ (key : String) (value : Json) (fuel : Nat) (rest : List Char),
    FloatsReadable value → (dumpsString key).length + (dumpsChars value).length < fuel →
      EndsNumber rest →
      parseMember fuel (dumpsString key ++ ':' :: ' ' :: (dumpsChars value ++ rest)) =
        some ((key, value), rest)
  | key, value, 0, _, _, bound, _ => by omega
  | key, value, fuel + 1, rest, readable, bound, ends => by
      have read := parseValue_dumpsChars value fuel rest readable (by omega) ends
      have solid := skipSpaces_dumpsChars value readable rest
      have afterColon : skipSpaces (' ' :: (dumpsChars value ++ rest)) =
          dumpsChars value ++ rest := (skipSpaces_space _).trans solid
      simp only [dumpsString, List.cons_append, List.append_assoc, List.nil_append,
        parseMember, parseStringChars_dumps]
      simp [skipSpaces_cons (show isSpace ':' = false by decide), afterColon, read]

theorem parseMembers_dumps : ∀ (members : List (String × Json)) (fuel : Nat)
    (rest : List Char), FloatsReadableMembers members →
      (dumpsMembers members).length ≤ fuel →
      parseMembers fuel (dumpsMembers members ++ rest) = some (members, rest)
  | [], 0, _, _, bound => by simp [dumpsMembers] at bound
  | [], fuel + 1, rest, _, _ => by
      simp [dumpsMembers, parseMembers, skipSpaces, isSpace]
  | (key, value) :: members, 0, _, _, bound => by simp [dumpsMembers] at bound
  | (key, value) :: members, fuel + 1, rest, readable, bound => by
      obtain ⟨valueReadable, membersReadable⟩ := readable
      simp only [dumpsMembers, List.length_cons, List.length_append] at bound
      have readMember := parseMember_dumps key value fuel (dumpsMembers members ++ rest)
        valueReadable (by omega) (endsNumber_dumpsMembers members rest)
      have readMembers := parseMembers_dumps members fuel rest membersReadable (by omega)
      have afterComma : skipSpaces (' ' :: (dumpsString key ++ ':' :: ' ' ::
          (dumpsChars value ++ (dumpsMembers members ++ rest)))) =
          dumpsString key ++ ':' :: ' ' ::
            (dumpsChars value ++ (dumpsMembers members ++ rest)) := by
        simp [skipSpaces, isSpace, dumpsString]
      simp only [dumpsMembers, List.cons_append, List.append_assoc, parseMembers]
      simp [skipSpaces_cons (show isSpace ',' = false by decide), afterComma, readMember,
        readMembers]

theorem parseItems_dumps : ∀ (items : List Json) (fuel : Nat) (rest : List Char),
    FloatsReadableItems items → (dumpsItems items).length ≤ fuel →
      parseItems fuel (dumpsItems items ++ rest) = some (items, rest)
  | [], 0, _, _, bound => by simp [dumpsItems] at bound
  | [], fuel + 1, rest, _, _ => by
      simp [dumpsItems, parseItems, skipSpaces, isSpace]
  | item :: items, 0, _, _, bound => by simp [dumpsItems] at bound
  | item :: items, fuel + 1, rest, readable, bound => by
      obtain ⟨itemReadable, itemsReadable⟩ := readable
      simp only [dumpsItems, List.length_cons, List.length_append] at bound
      have readItem := parseValue_dumpsChars item fuel (dumpsItems items ++ rest) itemReadable
        (by omega) (endsNumber_dumpsItems items rest)
      have readItems := parseItems_dumps items fuel rest itemsReadable (by omega)
      have solid := skipSpaces_dumpsChars item itemReadable (dumpsItems items ++ rest)
      have afterComma : skipSpaces (' ' :: (dumpsChars item ++ (dumpsItems items ++ rest))) =
          dumpsChars item ++ (dumpsItems items ++ rest) := (skipSpaces_space _).trans solid
      simp only [dumpsItems, List.cons_append, List.append_assoc, parseItems]
      simp [skipSpaces_cons (show isSpace ',' = false by decide), afterComma, readItem,
        readItems]

end

theorem floatsReadable_insertMember {member : String × Json} {members : List (String × Json)}
    (readable : FloatsReadable member.2) (others : FloatsReadableMembers members) :
    FloatsReadableMembers (insertMember member members) := by
  induction members with
  | nil => exact ⟨readable, trivial⟩
  | cons head members ih =>
      obtain ⟨headReadable, membersReadable⟩ := others
      unfold insertMember
      split_ifs
      · exact ⟨headReadable, ih membersReadable⟩
      · exact ⟨readable, headReadable, membersReadable⟩

mutual

theorem floatsReadable_sortKeys : ∀ value : Json,
    FloatsReadable value → FloatsReadable (sortKeys value)
  | .arr items, readable => floatsReadable_sortKeysItems items readable
  | .obj members, readable => floatsReadable_sortKeysMembers members readable
  | .float _, readable => readable
  | .null, _ => trivial
  | .bool _, _ => trivial
  | .int _, _ => trivial
  | .str _, _ => trivial

theorem floatsReadable_sortKeysItems : ∀ items : List Json,
    FloatsReadableItems items → FloatsReadableItems (sortKeysItems items)
  | [], _ => trivial
  | item :: items, ⟨itemReadable, itemsReadable⟩ =>
      ⟨floatsReadable_sortKeys item itemReadable,
        floatsReadable_sortKeysItems items itemsReadable⟩

theorem floatsReadable_sortKeysMembers : ∀ members : List (String × Json),
    FloatsReadableMembers members → FloatsReadableMembers (sortKeysMembers members)
  | [], _ => trivial
  | (_, value) :: members, ⟨valueReadable, membersReadable⟩ =>
      floatsReadable_insertMember (floatsReadable_sortKeys value valueReadable)
        (floatsReadable_sortKeysMembers members membersReadable)

end

/-- Reading a written document gives its value back. -/
theorem loads_dumps_of_floatsReadable (value : Json) (readable : FloatsReadable value) :
    loads (dumps value) = some value := by
  have read := parseValue_dumpsChars value ((dumpsChars value).length + 1) [] readable
    (by omega) endsNumber_nil
  have solid := skipSpaces_dumpsChars value readable []
  rw [List.append_nil] at read solid
  simp only [loads, dumps, String.toList_ofList, solid, read]
  rfl

/-- Reading a document written with sorted keys gives its sorted value. -/
theorem loads_dumps_sortKeys (value : Json) (readable : FloatsReadable value) :
    loads (dumps (sortKeys value)) = some (sortKeys value) :=
  loads_dumps_of_floatsReadable _ (floatsReadable_sortKeys value readable)

@[simp]
theorem loads_dumps (value : Json) (floatFree : FloatFree value) :
    loads (dumps value) = some value :=
  loads_dumps_of_floatsReadable value (FloatFree.floatsReadable value floatFree)

/-! ## The size of a written value -/

theorem length_dumpsChar_le (character : Char) : (dumpsChar character).length ≤ 12 := by
  unfold dumpsChar
  split_ifs <;> simp [unicodeEscape]

theorem length_dumpsString_le (text : String) :
    (dumpsString text).length ≤ 12 * text.length + 2 := by
  have escaped (characters : List Char) :
      (characters.flatMap dumpsChar).length ≤ 12 * characters.length := by
    induction characters with
    | nil => simp
    | cons head tail ih =>
        have := length_dumpsChar_le head
        simp only [List.flatMap_cons, List.length_append, List.length_cons]
        omega
  have := escaped text.toList
  rw [String.length_toList] at this
  simp only [dumpsString, List.length_cons, List.length_append, List.length_nil]
  omega

theorem length_dumpsInt_le (number : Int) : (dumpsInt number).length ≤ number.natAbs + 2 := by
  have digits : (Nat.toDigits 10 number.natAbs).length ≤ number.natAbs + 1 :=
    (Nat.length_toDigits_le_iff (by omega) (by omega)).mpr
      (lt_of_lt_of_le (Nat.lt_pow_self (by omega)) (Nat.pow_le_pow_right (by omega) (Nat.le_succ _)))
  unfold dumpsInt
  split_ifs
  · omega
  · rw [List.length_cons]
    omega

mutual

/-- A bound on the length of a written value. -/
def textSize : Json → Nat
  | .null => 4
  | .bool _ => 5
  | .int number => number.natAbs + 2
  | .float literal => literal.length
  | .str text => 12 * text.length + 2
  | .arr items => textSizeItems items + 2
  | .obj members => textSizeMembers members + 2

def textSizeItems : List Json → Nat
  | [] => 0
  | item :: items => textSize item + 2 + textSizeItems items

def textSizeMembers : List (String × Json) → Nat
  | [] => 0
  | (key, value) :: members => 12 * key.length + 6 + textSize value + textSizeMembers members

end

mutual

theorem length_dumpsChars_le : ∀ value : Json, (dumpsChars value).length ≤ textSize value
  | .null => by decide
  | .bool true => by decide
  | .bool false => by decide
  | .int number => length_dumpsInt_le number
  | .float literal => by rw [dumpsChars, textSize, String.length_toList]
  | .str text => length_dumpsString_le text
  | .arr [] => by decide
  | .arr (item :: items) => by
      have first := length_dumpsChars_le item
      have others := length_dumpsItems_le items
      simp only [dumpsChars, textSize, textSizeItems, List.length_cons, List.length_append]
      omega
  | .obj [] => by decide
  | .obj ((key, value) :: members) => by
      have keySize := length_dumpsString_le key
      have first := length_dumpsChars_le value
      have others := length_dumpsMembers_le members
      simp only [dumpsChars, textSize, textSizeMembers, List.length_cons, List.length_append]
      omega

theorem length_dumpsItems_le : ∀ items : List Json,
    (dumpsItems items).length ≤ textSizeItems items + 1
  | [] => by decide
  | item :: items => by
      have first := length_dumpsChars_le item
      have others := length_dumpsItems_le items
      simp only [dumpsItems, textSizeItems, List.length_cons, List.length_append]
      omega

theorem length_dumpsMembers_le : ∀ members : List (String × Json),
    (dumpsMembers members).length ≤ textSizeMembers members + 1
  | [] => by decide
  | (key, value) :: members => by
      have keySize := length_dumpsString_le key
      have first := length_dumpsChars_le value
      have others := length_dumpsMembers_le members
      simp only [dumpsMembers, textSizeMembers, List.length_cons, List.length_append]
      omega

end

theorem length_encodeUtf8_dumps_le (value : Json) :
    (encodeUtf8 (dumps value)).length ≤ 4 * textSize value :=
  (length_encodeUtf8_ofList _).trans (Nat.mul_le_mul_left 4 (length_dumpsChars_le value))

end JsonText
