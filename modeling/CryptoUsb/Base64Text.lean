import CryptoUsb.ByteStrings

/-!
# Base64 text

The standard alphabet with padding.  Decoding is the lenient one: characters
outside the alphabet are skipped, a complete run of padding ends the input, and
only a group that stops short of its padding is an error.  Decoding undoes
encoding.
-/

namespace Base64Text

open ByteString

inductive Base64Error
  | notAscii
  | oneExtraCharacter (dataCharacters : Nat)
  | incorrectPadding
  deriving DecidableEq, Repr

/-- The alphabet's character for a number below sixty-four. -/
def base64Digit (number : Nat) : Char :=
  "ABCDEFGHIJKLMNOPQRSTUVWXYZabcdefghijklmnopqrstuvwxyz0123456789+/".toList.getD number 'A'

/-- The number of an alphabet character. -/
def base64Value (character : Char) : Option Nat :=
  let code := character.toNat
  if 65 ≤ code ∧ code ≤ 90 then some (code - 65)
  else if 97 ≤ code ∧ code ≤ 122 then some (code - 71)
  else if 48 ≤ code ∧ code ≤ 57 then some (code + 4)
  else if code = 43 then some 62
  else if code = 47 then some 63
  else none

def b64encodeChars : Bytes → List Char
  | [] => []
  | [a] => [base64Digit (a.toNat / 4), base64Digit (a.toNat % 4 * 16), '=', '=']
  | [a, b] =>
      [base64Digit (a.toNat / 4), base64Digit (a.toNat % 4 * 16 + b.toNat / 16),
        base64Digit (b.toNat % 16 * 4), '=']
  | a :: b :: c :: rest =>
      base64Digit (a.toNat / 4) :: base64Digit (a.toNat % 4 * 16 + b.toNat / 16) ::
        base64Digit (b.toNat % 16 * 4 + c.toNat / 64) :: base64Digit (c.toNat % 64) ::
          b64encodeChars rest

def b64encode (bytes : Bytes) : String :=
  String.ofList (b64encodeChars bytes)

/-- Decode after `count` data characters, the last of which left the low bits
`left` over, and after `pads` padding characters. -/
def b64decodeFrom : Nat → Nat → Nat → List Char → Except Base64Error Bytes
  | count, _, _, [] =>
      if count % 4 = 0 then .ok []
      else if count % 4 = 1 then .error (.oneExtraCharacter count)
      else .error .incorrectPadding
  | count, left, pads, character :: rest =>
      if character = '=' then
        if 2 ≤ count % 4 then
          -- A full run of padding stops the scan, whatever follows.
          if 4 ≤ count % 4 + (pads + 1) then .ok []
          else b64decodeFrom count left (pads + 1) rest
        else b64decodeFrom count left pads rest
      else
        match base64Value character with
        | none => b64decodeFrom count left pads rest
        | some value =>
            match count % 4 with
            | 0 => b64decodeFrom (count + 1) value 0 rest
            | 1 => do
                let bytes ← b64decodeFrom (count + 1) (value % 16) 0 rest
                return UInt8.ofNat (left * 4 + value / 16) :: bytes
            | 2 => do
                let bytes ← b64decodeFrom (count + 1) (value % 4) 0 rest
                return UInt8.ofNat (left * 16 + value / 4) :: bytes
            | _ => do
                let bytes ← b64decodeFrom (count + 1) 0 0 rest
                return UInt8.ofNat (left * 64 + value) :: bytes

def b64decode (text : String) : Except Base64Error Bytes :=
  if text.toList.all (fun character => character.toNat < 128) then
    b64decodeFrom 0 0 0 text.toList
  else .error .notAscii

/-! ## Decoding undoes encoding -/

private theorem base64_alphabet : ∀ number < 64,
    base64Value (base64Digit number) = some number ∧ base64Digit number ≠ '=' ∧
      (base64Digit number).toNat < 128 := by
  decide +kernel

theorem base64Value_base64Digit {number : Nat} (small : number < 64) :
    base64Value (base64Digit number) = some number :=
  (base64_alphabet number small).1

theorem base64Digit_ne_pad {number : Nat} (small : number < 64) :
    base64Digit number ≠ '=' :=
  (base64_alphabet number small).2.1

theorem base64Digit_ascii {number : Nat} (small : number < 64) :
    (base64Digit number).toNat < 128 :=
  (base64_alphabet number small).2.2

section

variable {count left pads number : Nat} (small : number < 64) (rest : List Char)

include small

theorem b64decodeFrom_first (position : count % 4 = 0) :
    b64decodeFrom count left pads (base64Digit number :: rest) =
      b64decodeFrom (count + 1) number 0 rest := by
  simp only [b64decodeFrom, if_neg (base64Digit_ne_pad small), base64Value_base64Digit small,
    position]

theorem b64decodeFrom_second (position : count % 4 = 1) :
    b64decodeFrom count left pads (base64Digit number :: rest) =
      (b64decodeFrom (count + 1) (number % 16) 0 rest).map
        (UInt8.ofNat (left * 4 + number / 16) :: ·) := by
  simp only [b64decodeFrom, if_neg (base64Digit_ne_pad small), base64Value_base64Digit small,
    position]
  cases b64decodeFrom (count + 1) (number % 16) 0 rest <;> rfl

theorem b64decodeFrom_third (position : count % 4 = 2) :
    b64decodeFrom count left pads (base64Digit number :: rest) =
      (b64decodeFrom (count + 1) (number % 4) 0 rest).map
        (UInt8.ofNat (left * 16 + number / 4) :: ·) := by
  simp only [b64decodeFrom, if_neg (base64Digit_ne_pad small), base64Value_base64Digit small,
    position]
  cases b64decodeFrom (count + 1) (number % 4) 0 rest <;> rfl

theorem b64decodeFrom_fourth (position : count % 4 = 3) :
    b64decodeFrom count left pads (base64Digit number :: rest) =
      (b64decodeFrom (count + 1) 0 0 rest).map
        (UInt8.ofNat (left * 64 + number) :: ·) := by
  simp only [b64decodeFrom, if_neg (base64Digit_ne_pad small), base64Value_base64Digit small,
    position]
  cases b64decodeFrom (count + 1) 0 0 rest <;> rfl

end

/-- Encoded text decodes to its bytes at the start of any group. -/
theorem b64decodeFrom_encode (bytes : Bytes) {count left pads : Nat}
    (position : count % 4 = 0) :
    b64decodeFrom count left pads (b64encodeChars bytes) = .ok bytes := by
  induction bytes using b64encodeChars.induct generalizing count left pads with
  | case1 => simp [b64encodeChars, b64decodeFrom, position]
  | case2 a =>
      have aBound := a.toNat_lt
      have restored : a.toNat / 4 * 4 + a.toNat % 4 * 16 / 16 = a.toNat := by omega
      rw [b64encodeChars, b64decodeFrom_first (by omega) _ position,
        b64decodeFrom_second (by omega) _ (by omega), restored]
      simp [b64decodeFrom, show (count + 1 + 1) % 4 = 2 by omega, Except.map]
  | case3 a b =>
      have aBound := a.toNat_lt
      have bBound := b.toNat_lt
      have firstByte : a.toNat / 4 * 4 + (a.toNat % 4 * 16 + b.toNat / 16) / 16 = a.toNat := by
        omega
      have secondByte : (a.toNat % 4 * 16 + b.toNat / 16) % 16 * 16 +
          b.toNat % 16 * 4 / 4 = b.toNat := by
        omega
      rw [b64encodeChars, b64decodeFrom_first (by omega) _ position,
        b64decodeFrom_second (by omega) _ (by omega), firstByte,
        b64decodeFrom_third (by omega) _ (by omega), secondByte]
      simp [b64decodeFrom, show (count + 1 + 1 + 1) % 4 = 3 by omega, Except.map]
  | case4 a b c rest ih =>
      have aBound := a.toNat_lt
      have bBound := b.toNat_lt
      have cBound := c.toNat_lt
      have firstByte : a.toNat / 4 * 4 + (a.toNat % 4 * 16 + b.toNat / 16) / 16 = a.toNat := by
        omega
      have secondByte : (a.toNat % 4 * 16 + b.toNat / 16) % 16 * 16 +
          (b.toNat % 16 * 4 + c.toNat / 64) / 4 = b.toNat := by
        omega
      have thirdByte : (b.toNat % 16 * 4 + c.toNat / 64) % 4 * 64 + c.toNat % 64 =
          c.toNat := by
        omega
      rw [b64encodeChars, b64decodeFrom_first (by omega) _ position,
        b64decodeFrom_second (by omega) _ (by omega), firstByte,
        b64decodeFrom_third (by omega) _ (by omega), secondByte,
        b64decodeFrom_fourth (by omega) _ (by omega), thirdByte,
        ih (by omega)]
      simp [Except.map]

theorem b64encodeChars_ascii (bytes : Bytes) :
    ∀ character ∈ b64encodeChars bytes, character.toNat < 128 := by
  have pad : '='.toNat < 128 := by decide
  induction bytes using b64encodeChars.induct with
  | case1 => simp [b64encodeChars]
  | case2 a =>
      have aBound := a.toNat_lt
      simp only [b64encodeChars, List.forall_mem_cons]
      exact ⟨base64Digit_ascii (by omega), base64Digit_ascii (by omega), pad, pad, by simp⟩
  | case3 a b =>
      have aBound := a.toNat_lt
      have bBound := b.toNat_lt
      simp only [b64encodeChars, List.forall_mem_cons]
      exact ⟨base64Digit_ascii (by omega), base64Digit_ascii (by omega),
        base64Digit_ascii (by omega), pad, by simp⟩
  | case4 a b c rest ih =>
      have aBound := a.toNat_lt
      have bBound := b.toNat_lt
      have cBound := c.toNat_lt
      simp only [b64encodeChars, List.forall_mem_cons]
      exact ⟨base64Digit_ascii (by omega), base64Digit_ascii (by omega),
        base64Digit_ascii (by omega), base64Digit_ascii (by omega), ih⟩

@[simp]
theorem b64decode_b64encode (bytes : Bytes) : b64decode (b64encode bytes) = .ok bytes := by
  have ascii : (b64encodeChars bytes).all (fun character => character.toNat < 128) := by
    simpa using b64encodeChars_ascii bytes
  simp only [b64decode, b64encode, String.toList_ofList, ascii, if_true]
  exact b64decodeFrom_encode bytes rfl

example : b64decode "aGVs bG8=" = .ok [104, 101, 108, 108, 111] := by rfl

theorem length_b64encode_le (bytes : Bytes) :
    (b64encode bytes).length ≤ 2 * bytes.length + 4 := by
  rw [b64encode, String.length_ofList]
  fun_induction b64encodeChars bytes with
  | case1 => simp
  | case2 => simp
  | case3 => simp
  | case4 a b c rest ih =>
      simp only [List.length_cons]
      omega

/-- Text of the alphabet decodes where its last group is complete. -/
theorem b64decodeFrom_groups {groups : Nat} {characters : List Char} {count left pads : Nat}
    (position : count % 4 = 0) (complete : characters.length = 4 * groups)
    (digits : ∀ character ∈ characters, ∃ number < 64, character = base64Digit number) :
    ∃ bytes, b64decodeFrom count left pads characters = .ok bytes ∧
      bytes.length = 3 * groups := by
  induction groups generalizing characters count left pads with
  | zero =>
      obtain rfl := List.eq_nil_of_length_eq_zero complete
      exact ⟨[], by simp [b64decodeFrom, position], rfl⟩
  | succ groups ih =>
      match characters, complete, digits with
      | a :: b :: c :: d :: rest, complete, digits =>
          simp only [List.forall_mem_cons] at digits
          obtain ⟨⟨a, aSmall, rfl⟩, ⟨b, bSmall, rfl⟩, ⟨c, cSmall, rfl⟩, ⟨d, dSmall, rfl⟩,
            digits⟩ := digits
          have restComplete : rest.length = 4 * groups := by
            simp only [List.length_cons] at complete
            omega
          obtain ⟨bytes, decoded, length⟩ := @ih rest (count + 1 + 1 + 1 + 1) 0 0 (by omega)
            restComplete digits
          rw [b64decodeFrom_first aSmall _ position, b64decodeFrom_second bSmall _ (by omega),
            b64decodeFrom_third cSmall _ (by omega), b64decodeFrom_fourth dSmall _ (by omega),
            decoded]
          refine ⟨_, rfl, ?_⟩
          simp only [List.length_cons]
          omega

theorem b64decode_groups {groups : Nat} {characters : List Char}
    (complete : characters.length = 4 * groups)
    (digits : ∀ character ∈ characters, ∃ number < 64, character = base64Digit number) :
    ∃ bytes, b64decode (String.ofList characters) = .ok bytes ∧ bytes.length = 3 * groups := by
  have ascii : characters.all (fun character => character.toNat < 128) = true := by
    rw [List.all_eq_true]
    intro character member
    obtain ⟨number, small, rfl⟩ := digits character member
    exact decide_eq_true (base64Digit_ascii small)
  rw [b64decode, String.toList_ofList, if_pos ascii]
  exact b64decodeFrom_groups rfl complete digits

end Base64Text
