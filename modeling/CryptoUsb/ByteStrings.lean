import Mathlib.Data.List.Basic
import Mathlib.Data.List.Induction
import Mathlib.Tactic.Ring
import Mathlib.Tactic.IntervalCases

/-!
# Byte strings, big-endian fields and text encodings

Byte strings are lists of octets.  This file collects the conversions that
length-prefixed binary formats are built from: fixed-width big-endian numbers,
UTF-8 and ASCII text, and hexadecimal digests, each with the theorem that
decoding undoes encoding.
-/

namespace ByteString

abbrev Bytes := List UInt8

/-! ## Big-endian numbers -/

/-- The low `8 * width` bits of a number, most significant octet first. -/
def bigEndian : Nat → Nat → Bytes
  | 0, _ => []
  | width + 1, number =>
      bigEndian width (number / 256) ++ [UInt8.ofNat number]

/-- The number denoted by a big-endian byte string of any length. -/
def fromBigEndian (bytes : Bytes) : Nat :=
  bytes.foldl (fun value byte => value * 256 + byte.toNat) 0

@[simp]
theorem length_bigEndian (width number : Nat) :
    (bigEndian width number).length = width := by
  induction width generalizing number with
  | zero => rfl
  | succ width ih => simp [bigEndian, ih]

theorem fromBigEndian_concat (bytes : Bytes) (byte : UInt8) :
    fromBigEndian (bytes ++ [byte]) = fromBigEndian bytes * 256 + byte.toNat := by
  simp [fromBigEndian]

/-- A number that fits in its field is read back from it. -/
theorem fromBigEndian_bigEndian {width number : Nat}
    (fits : number < 256 ^ width) :
    fromBigEndian (bigEndian width number) = number := by
  induction width generalizing number with
  | zero =>
      have : number = 0 := by simpa using fits
      simp [bigEndian, fromBigEndian, this]
  | succ width ih =>
      have quotientFits : number / 256 < 256 ^ width := by
        rw [pow_succ] at fits
        exact Nat.div_lt_of_lt_mul (by omega)
      rw [bigEndian, fromBigEndian_concat, ih quotientFits]
      simp only [UInt8.toNat_ofNat']
      omega

theorem fromBigEndian_lt (bytes : Bytes) : fromBigEndian bytes < 256 ^ bytes.length := by
  induction bytes using List.reverseRecOn with
  | nil => simp [fromBigEndian]
  | append_singleton bytes byte ih =>
      have byteBound := byte.toNat_lt
      rw [fromBigEndian_concat, List.length_append, List.length_singleton, pow_succ]
      omega

theorem bigEndian_fromBigEndian (bytes : Bytes) :
    bigEndian bytes.length (fromBigEndian bytes) = bytes := by
  induction bytes using List.reverseRecOn with
  | nil => rfl
  | append_singleton bytes byte ih =>
      have byteBound := byte.toNat_lt
      have quotient : (fromBigEndian bytes * 256 + byte.toNat) / 256 = fromBigEndian bytes := by
        omega
      have lowOctet : UInt8.ofNat (fromBigEndian bytes * 256 + byte.toNat) = byte := by
        apply UInt8.toNat_inj.mp
        rw [UInt8.toNat_ofNat']
        omega
      rw [List.length_append, List.length_singleton, fromBigEndian_concat, bigEndian, quotient,
        ih, lowOctet]

/-! ## Length-prefixed fields -/

/-- A field preceded by its length in `width` octets. -/
def lengthPrefixed (width : Nat) (field : Bytes) : Bytes :=
  bigEndian width field.length ++ field

/-- Split off a length-prefixed field.  A field that is cut short gives what
there is of it. -/
def readLengthPrefixed (width : Nat) (bytes : Bytes) : Bytes × Bytes :=
  let length := fromBigEndian (bytes.take width)
  ((bytes.drop width).take length, (bytes.drop width).drop length)

theorem readLengthPrefixed_append {width : Nat} {field : Bytes}
    (fits : field.length < 256 ^ width) (rest : Bytes) :
    readLengthPrefixed width (lengthPrefixed width field ++ rest) = (field, rest) := by
  have prefixTaken : (lengthPrefixed width field ++ rest).take width =
      bigEndian width field.length := by
    rw [lengthPrefixed, List.append_assoc, List.take_left' (length_bigEndian _ _)]
  have prefixDropped : (lengthPrefixed width field ++ rest).drop width = field ++ rest := by
    rw [lengthPrefixed, List.append_assoc, List.drop_left' (length_bigEndian _ _)]
  simp only [readLengthPrefixed, prefixTaken, prefixDropped, fromBigEndian_bigEndian fits,
    List.take_left, List.drop_left]

theorem readLengthPrefixed_one (length : UInt8) (rest : Bytes) :
    readLengthPrefixed 1 (length :: rest) =
      (rest.take length.toNat, rest.drop length.toNat) := by
  simp [readLengthPrefixed, fromBigEndian]

/-- The length of a field is there, and so is the field. -/
def WholeField (width : Nat) (bytes : Bytes) : Prop :=
  width ≤ bytes.length ∧ fromBigEndian (bytes.take width) ≤ (bytes.drop width).length

instance (width : Nat) (bytes : Bytes) : Decidable (WholeField width bytes) :=
  inferInstanceAs (Decidable (_ ∧ _))

theorem wholeField_append {width : Nat} {field : Bytes} (fits : field.length < 256 ^ width)
    (rest : Bytes) : WholeField width (lengthPrefixed width field ++ rest) := by
  have taken : (lengthPrefixed width field ++ rest).take width =
      bigEndian width field.length := by
    rw [lengthPrefixed, List.append_assoc, List.take_left' (length_bigEndian _ _)]
  constructor
  · simp [lengthPrefixed]
  · rw [taken, fromBigEndian_bigEndian fits, List.length_drop]
    simp [lengthPrefixed]

/-- A whole field is written back as it was read. -/
theorem lengthPrefixed_of_whole {width : Nat} {bytes : Bytes}
    (whole : WholeField width bytes) :
    (readLengthPrefixed width bytes).1.length < 256 ^ width ∧
      lengthPrefixed width (readLengthPrefixed width bytes).1 ++
        (readLengthPrefixed width bytes).2 = bytes := by
  obtain ⟨hasLength, hasField⟩ := whole
  have prefixSize : (bytes.take width).length = width := by
    rw [List.length_take]
    omega
  have fieldSize : (readLengthPrefixed width bytes).1.length =
      fromBigEndian (bytes.take width) := by
    rw [readLengthPrefixed, List.length_take]
    omega
  have restored : bigEndian width (fromBigEndian (bytes.take width)) = bytes.take width := by
    have encoded := bigEndian_fromBigEndian (bytes.take width)
    rwa [prefixSize] at encoded
  have bound := fromBigEndian_lt (bytes.take width)
  rw [prefixSize] at bound
  refine ⟨by rwa [fieldSize], ?_⟩
  rw [lengthPrefixed, fieldSize, restored, List.append_assoc]
  simp only [readLengthPrefixed, List.take_append_drop]

/-- Every one of the fields that follow each other is whole, and nothing comes
after the last. -/
def WholeFields : List Nat → Bytes → Prop
  | [], bytes => bytes = []
  | width :: widths, bytes =>
      WholeField width bytes ∧ WholeFields widths (readLengthPrefixed width bytes).2

instance : (widths : List Nat) → (bytes : Bytes) → Decidable (WholeFields widths bytes)
  | [], bytes => inferInstanceAs (Decidable (bytes = []))
  | width :: widths, bytes =>
      have := instDecidableWholeFields widths (readLengthPrefixed width bytes).2
      inferInstanceAs (Decidable (WholeField width bytes ∧ _))

@[simp]
theorem wholeFields_nil {bytes : Bytes} : WholeFields [] bytes ↔ bytes = [] :=
  Iff.rfl

theorem wholeFields_append {width : Nat} {widths : List Nat} {field rest : Bytes}
    (fits : field.length < 256 ^ width) :
    WholeFields (width :: widths) (lengthPrefixed width field ++ rest) ↔
      WholeFields widths rest := by
  simp only [WholeFields, wholeField_append fits, readLengthPrefixed_append fits, true_and]

/-! ## UTF-8 and ASCII text -/

/-- The UTF-8 encoding of a string. -/
def encodeUtf8 (text : String) : Bytes :=
  text.toByteArray.data.toList

/-- Decode UTF-8, or `none` where the bytes are not valid UTF-8. -/
def decodeUtf8 (bytes : Bytes) : Option String :=
  let array := ByteArray.mk bytes.toArray
  if valid : array.IsValidUTF8 then some (String.fromUTF8 array valid) else none

@[simp]
theorem decodeUtf8_encodeUtf8 (text : String) :
    decodeUtf8 (encodeUtf8 text) = some text := by
  simp [decodeUtf8, encodeUtf8, text.isValidUTF8, String.fromUTF8]

theorem encodeUtf8_of_decodeUtf8 {bytes : Bytes} {text : String}
    (decoded : decodeUtf8 bytes = some text) : encodeUtf8 text = bytes := by
  simp only [decodeUtf8] at decoded
  split at decoded
  case isTrue valid =>
    obtain rfl := Option.some.inj decoded
    simp [encodeUtf8, String.fromUTF8]
  case isFalse => cases decoded

theorem encodeUtf8_injective : Function.Injective encodeUtf8 := by
  intro first second equal
  have decoded := congrArg decodeUtf8 equal
  simpa using decoded

@[simp]
theorem encodeUtf8_append (first second : String) :
    encodeUtf8 (first ++ second) = encodeUtf8 first ++ encodeUtf8 second := by
  simp [encodeUtf8]

theorem encodeUtf8_ofList (characters : List Char) :
    encodeUtf8 (String.ofList characters) = characters.flatMap String.utf8EncodeChar := by
  simp [encodeUtf8, List.utf8Encode]

theorem encodeUtf8_intercalate (separator : String) (parts : List String) :
    encodeUtf8 (String.intercalate separator parts) =
      (encodeUtf8 separator).intercalate (parts.map encodeUtf8) := by
  induction parts with
  | nil => rfl
  | cons part parts ih =>
      cases parts with
      | nil => simp
      | cons next parts =>
          rw [String.intercalate_cons_cons, encodeUtf8_append, encodeUtf8_append, ih]
          simp [List.intercalate_cons_cons]

/-- A byte below 128 is the character itself. -/
theorem byte_of_utf8EncodeChar {character : Char} {byte : UInt8}
    (member : byte ∈ String.utf8EncodeChar character) :
    byte.toNat = character.toNat ∨ 128 ≤ byte.toNat := by
  have high (low : UInt8) {mark : UInt8} (marked : 128 ≤ mark.toNat) :
      128 ≤ (low ||| mark).toNat := by
    rw [UInt8.toNat_or]
    exact marked.trans Nat.right_le_or
  have sizes : character.utf8Size = 1 ∨ character.utf8Size = 2 ∨ character.utf8Size = 3 ∨
      character.utf8Size = 4 := by
    have := character.utf8Size_pos
    have := character.utf8Size_le_four
    omega
  rcases sizes with one | two | three | four
  · rw [String.utf8EncodeChar_eq_singleton one] at member
    obtain rfl := List.mem_singleton.mp member
    have small : character.toNat ≤ 127 := Char.utf8Size_eq_one_iff.mp one
    left
    rw [UInt32.toNat_toUInt8]
    exact Nat.mod_eq_of_lt (by change character.toNat < 256; omega)
  · rw [String.utf8EncodeChar_eq_cons_cons two] at member
    right
    simp only [List.mem_cons, List.not_mem_nil, or_false] at member
    rcases member with rfl | rfl <;> exact high _ (by decide)
  · rw [String.utf8EncodeChar_eq_cons_cons_cons three] at member
    right
    simp only [List.mem_cons, List.not_mem_nil, or_false] at member
    rcases member with rfl | rfl | rfl <;> exact high _ (by decide)
  · rw [String.utf8EncodeChar_eq_cons_cons_cons_cons four] at member
    right
    simp only [List.mem_cons, List.not_mem_nil, or_false] at member
    rcases member with rfl | rfl | rfl | rfl <;> exact high _ (by decide)
/-- A character takes at most four bytes. -/
theorem length_encodeUtf8_ofList (characters : List Char) :
    (encodeUtf8 (String.ofList characters)).length ≤ 4 * characters.length := by
  have encoded : (encodeUtf8 (String.ofList characters)).length = characters.utf8Encode.size := by
    simp only [encodeUtf8, String.toByteArray_ofList, Array.length_toList, ByteArray.size]
  rw [encoded]
  induction characters with
  | nil => simp
  | cons head tail ih =>
      have headSize := Char.utf8Size_le_four head
      have tailSize := ih (by simp [encodeUtf8])
      rw [List.utf8Encode_cons, ByteArray.size_append, List.length_cons]
      have single : [head].utf8Encode.size = head.utf8Size := by
        simp [List.utf8Encode_singleton]
      omega

/-- Seven-bit characters take one byte each. -/
theorem encodeUtf8_ofList_ascii {characters : List Char}
    (ascii : ∀ character ∈ characters, character.toNat < 128) :
    encodeUtf8 (String.ofList characters) =
      characters.map fun character => UInt8.ofNat character.toNat := by
  induction characters with
  | nil => rfl
  | cons head tail ih =>
      have headSize : head.utf8Size = 1 := by
        rw [Char.utf8Size_eq_one_iff]
        exact Nat.le_of_lt_succ (ascii head (by simp))
      have single : encodeUtf8 (String.singleton head) = [UInt8.ofNat head.toNat] := by
        simp only [encodeUtf8, String.toByteArray_singleton, List.utf8Encode_singleton,
          String.utf8EncodeChar_eq_singleton headSize]
        rfl
      rw [String.ofList_cons, encodeUtf8_append, single,
        ih fun character member => ascii character (List.mem_cons_of_mem _ member)]
      rfl

@[simp]
theorem encodeUtf8_eq_nil {text : String} : encodeUtf8 text = [] ↔ text = "" := by
  constructor
  · intro empty
    apply encodeUtf8_injective
    rw [empty]
    rfl
  · rintro rfl
    rfl

/-- Seven-bit text as bytes, or `none` where a character is outside ASCII. -/
def encodeAscii (text : String) : Option Bytes :=
  if text.toList.all (fun character => character.toNat < 128) then
    some (text.toList.map fun character => UInt8.ofNat character.toNat)
  else none

/-- Bytes as seven-bit text, or `none` where a byte is outside ASCII. -/
def decodeAscii (bytes : Bytes) : Option String :=
  if bytes.all (fun byte => byte.toNat < 128) then
    some (String.ofList (bytes.map fun byte => Char.ofNat byte.toNat))
  else none

theorem length_encodeAscii {text : String} {bytes : Bytes}
    (encoded : encodeAscii text = some bytes) : bytes.length = text.length := by
  unfold encodeAscii at encoded
  split at encoded
  case isTrue =>
    obtain rfl := Option.some.inj encoded
    rw [List.length_map, String.length_toList]
  case isFalse => cases encoded

theorem decodeAscii_encodeAscii {text : String} {bytes : Bytes}
    (encoded : encodeAscii text = some bytes) :
    decodeAscii bytes = some text := by
  unfold encodeAscii at encoded
  split at encoded
  case isTrue ascii =>
    have bound : ∀ character ∈ text.toList, character.toNat < 128 := by
      simpa using ascii
    have small : ∀ character ∈ text.toList,
        (UInt8.ofNat character.toNat).toNat = character.toNat := by
      intro character member
      have := bound character member
      simp only [UInt8.toNat_ofNat']
      omega
    obtain rfl := Option.some.inj encoded
    have allAscii : (text.toList.map fun character =>
        UInt8.ofNat character.toNat).all (fun byte => byte.toNat < 128) := by
      simp only [List.all_map, List.all_eq_true, Function.comp_apply, decide_eq_true_eq]
      intro character member
      rw [small character member]
      exact bound character member
    have restored : (text.toList.map fun character => UInt8.ofNat character.toNat).map
        (fun byte => Char.ofNat byte.toNat) = text.toList := by
      rw [List.map_map]
      conv_rhs => rw [← List.map_id text.toList]
      apply List.map_congr_left
      intro character member
      simp only [Function.comp_apply, id_eq, small character member, Char.ofNat_toNat]
    simp only [decodeAscii, allAscii, if_true, restored, String.ofList_toList]
  case isFalse notAscii => cases encoded

theorem encodeAscii_of_decodeAscii {bytes : Bytes} {text : String}
    (decoded : decodeAscii bytes = some text) : encodeAscii text = some bytes := by
  unfold decodeAscii at decoded
  split at decoded
  case isTrue ascii =>
    have small : ∀ byte ∈ bytes, (Char.ofNat byte.toNat).toNat = byte.toNat := by
      intro byte member
      have bound : byte.toNat < 128 := by simpa using List.all_eq_true.mp ascii byte member
      have valid : byte.toNat.isValidChar := .inl (by omega)
      rw [Char.ofNat, dif_pos valid]
      rfl
    obtain rfl := Option.some.inj decoded
    have allAscii : (bytes.map fun byte => Char.ofNat byte.toNat).all
        (fun character => character.toNat < 128) := by
      simp only [List.all_map, List.all_eq_true, Function.comp_apply, decide_eq_true_eq]
      intro byte member
      rw [small byte member]
      simpa using List.all_eq_true.mp ascii byte member
    have restored : (bytes.map fun byte => Char.ofNat byte.toNat).map
        (fun character => UInt8.ofNat character.toNat) = bytes := by
      rw [List.map_map]
      conv_rhs => rw [← List.map_id bytes]
      apply List.map_congr_left
      intro byte member
      simp only [Function.comp_apply, id_eq, small byte member, UInt8.ofNat_toNat]
    simp only [encodeAscii, String.toList_ofList, allAscii, if_true, restored]
  case isFalse => cases decoded

/-! ## Hexadecimal digests -/

/-- The lower-case hexadecimal digit of a number below sixteen. -/
def hexDigit (number : Nat) : Char :=
  "0123456789abcdef".toList.getD number '0'

/-- The value of a hexadecimal digit of either case. -/
def hexDigitValue (character : Char) : Option Nat :=
  let code := character.toNat
  if 48 ≤ code ∧ code ≤ 57 then some (code - 48)
  else if 97 ≤ code ∧ code ≤ 102 then some (code - 87)
  else if 65 ≤ code ∧ code ≤ 70 then some (code - 55)
  else none

def hexChars (bytes : Bytes) : List Char :=
  bytes.flatMap fun byte => [hexDigit (byte.toNat / 16), hexDigit (byte.toNat % 16)]

/-- The lower-case hexadecimal text of a byte string. -/
def hexEncode (bytes : Bytes) : String :=
  String.ofList (hexChars bytes)

def decodeHexChars : List Char → Option Bytes
  | [] => some []
  | [_] => none
  | high :: low :: rest => do
      let high ← hexDigitValue high
      let low ← hexDigitValue low
      let bytes ← decodeHexChars rest
      return UInt8.ofNat (high * 16 + low) :: bytes

/-- The byte string denoted by hexadecimal text of either case. -/
def decodeHex (text : String) : Option Bytes :=
  decodeHexChars text.toList

/-- ASCII case folding, character by character. -/
def lower (text : String) : String :=
  String.ofList (text.toList.map Char.toLower)

private theorem toLower_toNat (character : Char) :
    character.toLower.toNat =
      if 65 ≤ character.toNat ∧ character.toNat ≤ 90 then character.toNat + 32
      else character.toNat := by
  have codes : (character.val ≥ 'A'.val ∧ character.val ≤ 'Z'.val) ↔
      (65 ≤ character.toNat ∧ character.toNat ≤ 90) := Iff.rfl
  unfold Char.toLower
  by_cases upper : character.val ≥ 'A'.val ∧ character.val ≤ 'Z'.val
  · have bounds := codes.mp upper
    rw [dif_pos upper, if_pos bounds]
    change (character.val + 32).toNat = _
    rw [UInt32.toNat_add]
    change (character.toNat + 32) % 2 ^ 32 = _
    omega
  · rw [dif_neg upper, if_neg (codes.not.mp upper)]

/-- A character whose lower-case form is a hexadecimal digit has that digit's
value. -/
theorem hexDigitValue_of_toLower {character : Char} {number : Nat}
    (small : number < 16) (folded : character.toLower = hexDigit number) :
    hexDigitValue character = some number := by
  have codes := congrArg Char.toNat folded
  rw [toLower_toNat] at codes
  have digitCode : (hexDigit number).toNat =
      if number < 10 then number + 48 else number + 87 := by
    interval_cases number <;> rfl
  rw [digitCode] at codes
  simp only [hexDigitValue]
  by_cases isDecimal : number < 10
  · rw [if_pos isDecimal] at codes
    have code : character.toNat = number + 48 := by
      split_ifs at codes <;> omega
    rw [if_pos (by omega), code, Nat.add_sub_cancel]
  · rw [if_neg isDecimal] at codes
    have code : character.toNat = number + 87 ∨ character.toNat = number + 55 := by
      split_ifs at codes <;> omega
    rw [if_neg (by omega)]
    rcases code with code | code
    · rw [if_pos (by omega), code, Nat.add_sub_cancel]
    · rw [if_neg (by omega), if_pos (by omega), code, Nat.add_sub_cancel]

theorem toLower_hexDigit {number : Nat} (small : number < 16) :
    (hexDigit number).toLower = hexDigit number := by
  interval_cases number <;> rfl

theorem hexChars_cons (byte : UInt8) (bytes : Bytes) :
    hexChars (byte :: bytes) =
      hexDigit (byte.toNat / 16) :: hexDigit (byte.toNat % 16) :: hexChars bytes :=
  rfl

@[simp]
theorem length_hexChars (bytes : Bytes) :
    (hexChars bytes).length = 2 * bytes.length := by
  induction bytes with
  | nil => rfl
  | cons byte bytes ih =>
      rw [hexChars_cons, List.length_cons, List.length_cons, ih, List.length_cons]
      omega

theorem mem_hexChars {bytes : Bytes} {character : Char} (member : character ∈ hexChars bytes) :
    ∃ number < 16, character = hexDigit number := by
  obtain ⟨byte, -, digit⟩ := List.mem_flatMap.mp member
  have byteBound := byte.toNat_lt
  simp only [List.mem_cons, List.not_mem_nil, or_false] at digit
  rcases digit with rfl | rfl
  · exact ⟨byte.toNat / 16, by omega, rfl⟩
  · exact ⟨byte.toNat % 16, by omega, rfl⟩

theorem decodeHexChars_of_toLower {characters : List Char} {bytes : Bytes}
    (folded : characters.map Char.toLower = hexChars bytes) :
    decodeHexChars characters = some bytes := by
  induction bytes generalizing characters with
  | nil =>
      have : characters = [] := by simpa [hexChars] using folded
      rw [this]
      rfl
  | cons byte bytes ih =>
      rw [hexChars_cons] at folded
      match characters with
      | [] => simp at folded
      | [_] => simp at folded
      | high :: low :: rest =>
          simp only [List.map_cons, List.cons.injEq] at folded
          obtain ⟨highFolded, lowFolded, restFolded⟩ := folded
          have byteBound := byte.toNat_lt
          have highValue := hexDigitValue_of_toLower (by omega) highFolded
          have lowValue := hexDigitValue_of_toLower (by omega) lowFolded
          have recombined : byte.toNat / 16 * 16 + byte.toNat % 16 = byte.toNat := by
            omega
          simp only [decodeHexChars, highValue, lowValue, ih restFolded,
            Option.bind_eq_bind, Option.bind_some, Option.pure_def, recombined,
            UInt8.ofNat_toNat]

/-- Text whose lower-case form is a digest's hexadecimal text denotes the
digest. -/
theorem decodeHex_of_lower {text : String} {bytes : Bytes}
    (folded : lower text = hexEncode bytes) :
    decodeHex text = some bytes := by
  apply decodeHexChars_of_toLower
  have characters := congrArg String.toList folded
  simpa [lower, hexEncode] using characters

@[simp]
theorem lower_hexEncode (bytes : Bytes) : lower (hexEncode bytes) = hexEncode bytes := by
  have unchanged : (hexChars bytes).map Char.toLower = hexChars bytes := by
    induction bytes with
    | nil => rfl
    | cons byte bytes ih =>
        have byteBound := byte.toNat_lt
        rw [hexChars_cons, List.map_cons, List.map_cons, ih,
          toLower_hexDigit (by omega), toLower_hexDigit (by omega)]
  simp [lower, hexEncode, unchanged]

@[simp]
theorem length_hexEncode (bytes : Bytes) : (hexEncode bytes).length = 2 * bytes.length := by
  simp [hexEncode]

end ByteString
