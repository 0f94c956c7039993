import CryptoUsb.ByteStrings

/-!
# The outer syntax of PDF files

Decimal numbers, the cross-reference table that says where the objects of a file begin,
streams with their length, and literal strings.  Everything is read as a reader of the
format does: table entries by their position, strings up to their closing parenthesis.
-/

namespace PdfSyntax

open ByteString

/-! ## Numbers -/

/-- The decimal digits of a number. -/
def decimal (number : Nat) : Bytes :=
  (Nat.toDigits 10 number).map fun digit => UInt8.ofNat digit.toNat

/-- The digits with zeros in front of them. -/
def padded (width number : Nat) : Bytes :=
  List.replicate (width - (decimal number).length) 48 ++ decimal number

/-- The number that digits denote. -/
def value (digits : Bytes) : Nat :=
  digits.foldl (fun value digit => 10 * value + (digit.toNat - 48)) 0

theorem value_zeros_append (count : Nat) (digits : Bytes) :
    value (List.replicate count 48 ++ digits) = value digits := by
  induction count with
  | zero => rfl
  | succ count ih => exact ih

theorem foldl_digits {digits : List Char} (start : Nat)
    (ascii : ∀ digit ∈ digits, digit.isDigit = true) :
    (digits.map fun digit => UInt8.ofNat digit.toNat).foldl
        (fun value digit => 10 * value + (digit.toNat - 48)) start =
      Nat.ofDigitChars 10 digits start := by
  induction digits generalizing start with
  | nil => rfl
  | cons digit digits ih =>
      have small := (Char.isDigit_iff_toNat.mp (ascii digit (List.mem_cons_self ..))).2
      rw [List.map_cons, List.foldl_cons, Nat.ofDigitChars_cons, UInt8.toNat_ofNat',
        Nat.mod_eq_of_lt (small.trans_lt (by decide))]
      exact ih _ fun other member => ascii other (List.mem_cons_of_mem _ member)

theorem value_decimal (number : Nat) : value (decimal number) = number := by
  have ascii : ∀ digit ∈ Nat.toDigits 10 number, digit.isDigit = true :=
    fun digit member => Nat.isDigit_of_mem_toDigits (by decide) (by decide) member
  exact (foldl_digits 0 ascii).trans Nat.ofDigitChars_ten_toDigits

theorem value_padded (width number : Nat) : value (padded width number) = number := by
  rw [padded, value_zeros_append, value_decimal]

theorem length_padded {width number : Nat} (positive : 0 < width) (small : number < 10 ^ width) :
    (padded width number).length = width := by
  have digits : (decimal number).length ≤ width := by
    rw [decimal, List.length_map]
    exact (Nat.length_toDigits_le_iff (by decide) positive).mpr small
  rw [padded, List.length_append, List.length_replicate]
  omega

/-! ## Objects one after the other -/

/-- Where the parts of a file begin, the first of them at `start`. -/
def offsets (start : Nat) : List Bytes → List Nat
  | [] => []
  | part :: parts => start :: offsets (start + part.length) parts

@[simp]
theorem length_offsets (start : Nat) (parts : List Bytes) :
    (offsets start parts).length = parts.length := by
  induction parts generalizing start with
  | nil => rfl
  | cons part parts ih => rw [offsets, List.length_cons, ih, List.length_cons]

theorem part_at_offset {parts : List Bytes} {index offset : Nat} {part : Bytes} (header : Bytes)
    (rest : Bytes) (begins : (offsets header.length parts)[index]? = some offset)
    (present : parts[index]? = some part) :
    part <+: (header ++ parts.flatten ++ rest).drop offset := by
  induction parts generalizing header index with
  | nil => cases present
  | cons first parts ih =>
      cases index with
      | zero =>
          obtain rfl := Option.some.inj begins
          obtain rfl := Option.some.inj present
          rw [List.flatten_cons, List.append_assoc, List.drop_left, List.append_assoc]
          exact List.prefix_append ..
      | succ index =>
          have later := ih (header ++ first) (by simpa [offsets] using begins) present
          simpa using later

/-! ## The cross-reference table -/

def freeEntry : Bytes :=
  encodeUtf8 "0000000000 65535 f \n"

def inUseEntry (offset : Nat) : Bytes :=
  padded 10 offset ++ encodeUtf8 " 00000 n \n"

/-- The entries of a table, the first of them free. -/
def entries (offsets : List Nat) : Bytes :=
  freeEntry ++ offsets.flatMap inUseEntry

/-- An entry of a table is found by its position: every entry takes twenty bytes. -/
def entryAt (table : Bytes) (number : Nat) : Bytes :=
  (table.drop (20 * number)).take 20

theorem length_freeEntry : freeEntry.length = 20 := by
  decide +kernel

theorem length_inUseEntry {offset : Nat} (small : offset < 10 ^ 10) :
    (inUseEntry offset).length = 20 := by
  have kind : (encodeUtf8 " 00000 n \n").length = 10 := by decide +kernel
  rw [inUseEntry, List.length_append, length_padded (by decide) small, kind]

theorem entryAt_zero (offsets : List Nat) (rest : Bytes) :
    entryAt (entries offsets ++ rest) 0 = freeEntry := by
  rw [entryAt, entries, Nat.mul_zero, List.drop_zero, List.append_assoc,
    List.take_left' length_freeEntry]

theorem inUseEntries_drop {offsets : List Nat} {index offset : Nat} (rest : Bytes)
    (small : ∀ offset ∈ offsets, offset < 10 ^ 10) (present : offsets[index]? = some offset) :
    ((offsets.flatMap inUseEntry ++ rest).drop (20 * index)).take 20 = inUseEntry offset := by
  induction offsets generalizing index with
  | nil => cases present
  | cons first offsets ih =>
      obtain ⟨firstSmall, small⟩ := List.forall_mem_cons.mp small
      rw [List.flatMap_cons, List.append_assoc]
      cases index with
      | zero =>
          obtain rfl := Option.some.inj present
          rw [Nat.mul_zero, List.drop_zero, List.take_left' (length_inUseEntry firstSmall)]
      | succ index =>
          rw [Nat.mul_succ, Nat.add_comm, ← List.drop_drop,
            List.drop_left' (length_inUseEntry firstSmall)]
          exact ih small present

theorem entryAt_succ {offsets : List Nat} {index offset : Nat} (rest : Bytes)
    (small : ∀ offset ∈ offsets, offset < 10 ^ 10) (present : offsets[index]? = some offset) :
    entryAt (entries offsets ++ rest) (index + 1) = inUseEntry offset := by
  rw [entryAt, Nat.mul_succ, Nat.add_comm, ← List.drop_drop, entries, List.append_assoc,
    List.drop_left' length_freeEntry]
  exact inUseEntries_drop rest small present

theorem length_entries {offsets : List Nat} (small : ∀ offset ∈ offsets, offset < 10 ^ 10) :
    (entries offsets).length = 20 * (offsets.length + 1) := by
  have inUse : (offsets.flatMap inUseEntry).length = 20 * offsets.length := by
    induction offsets with
    | nil => rfl
    | cons first offsets ih =>
        obtain ⟨firstSmall, small⟩ := List.forall_mem_cons.mp small
        rw [List.flatMap_cons, List.length_append, length_inUseEntry firstSmall, ih small,
          List.length_cons]
        omega
  rw [entries, List.length_append, length_freeEntry, inUse]
  omega

/-! ## A file that can be navigated -/

/-- The first line of a cross-reference table for this many objects and the free one. -/
def tableHeader (count : Nat) : Bytes :=
  encodeUtf8 "xref\n0 " ++ decimal (count + 1) ++ encodeUtf8 "\n"

/-- The text with which an object begins. -/
def objectHeader (number : Nat) : Bytes :=
  decimal number ++ encodeUtf8 " 0 obj"

/-- The entries behind the first line of the table at this place. -/
def tableEntries (pdf : Bytes) (count table : Nat) : Bytes :=
  pdf.drop (table + (tableHeader count).length)

/-- Where the table at this place says that an object begins. -/
def recordedOffset (pdf : Bytes) (count table number : Nat) : Nat :=
  value ((entryAt (tableEntries pdf count table) number).take 10)

/-- An entry of twenty bytes for an object that is in use. -/
structure InUse (entry : Bytes) : Prop where
  length : entry.length = 20
  digits : ∀ digit ∈ entry.take 10, 48 ≤ digit.toNat ∧ digit.toNat ≤ 57
  kind : entry.drop 10 = encodeUtf8 " 00000 n \n"

/-- A file with this many objects, whose table at this place records where each of them begins. -/
structure CrossReferenced (pdf : Bytes) (count table : Nat) : Prop where
  header : tableHeader count <+: pdf.drop table
  free : entryAt (tableEntries pdf count table) 0 = freeEntry
  inUse : ∀ number, 1 ≤ number → number ≤ count →
    InUse (entryAt (tableEntries pdf count table) number)
  recorded : ∀ number, 1 ≤ number → number ≤ count →
    objectHeader number <+: pdf.drop (recordedOffset pdf count table number)
  trailer : encodeUtf8 "trailer\n<< /Size " ++ decimal (count + 1) ++ encodeUtf8 " " <+:
    (tableEntries pdf count table).drop (20 * (count + 1))
  start : encodeUtf8 "startxref\n" ++ decimal table ++ encodeUtf8 "\n%%EOF" <:+ pdf

theorem digits_decimal (number : Nat) :
    ∀ digit ∈ decimal number, 48 ≤ digit.toNat ∧ digit.toNat ≤ 57 := by
  intro byte member
  obtain ⟨digit, inDigits, rfl⟩ := List.mem_map.mp member
  have isDigit := Char.isDigit_iff_toNat.mp
    (Nat.isDigit_of_mem_toDigits (by decide) (by decide) inDigits)
  rw [UInt8.toNat_ofNat', Nat.mod_eq_of_lt (isDigit.2.trans_lt (by decide))]
  exact isDigit

theorem digits_padded (width number : Nat) :
    ∀ digit ∈ padded width number, 48 ≤ digit.toNat ∧ digit.toNat ≤ 57 := by
  intro digit member
  rcases List.mem_append.mp member with zero | inDigits
  · rw [List.eq_of_mem_replicate zero]
    decide
  · exact digits_decimal number digit inDigits

theorem take_inUseEntry {offset : Nat} (small : offset < 10 ^ 10) :
    (inUseEntry offset).take 10 = padded 10 offset :=
  List.take_left' (length_padded (by decide) small)

theorem inUse_inUseEntry {offset : Nat} (small : offset < 10 ^ 10) :
    InUse (inUseEntry offset) where
  length := length_inUseEntry small
  digits := by
    rw [take_inUseEntry small]
    exact digits_padded 10 offset
  kind := List.drop_left' (length_padded (by decide) small)

/-- The cross-reference table and what follows it, of a file with these objects. -/
def writeTable (header : Bytes) (objects : List Bytes) (root : Bytes) : Bytes :=
  tableHeader objects.length ++ entries (offsets header.length objects) ++
    (encodeUtf8 "trailer\n<< /Size " ++ decimal (objects.length + 1) ++ encodeUtf8 " ") ++ root ++
    (encodeUtf8 "startxref\n" ++ decimal (header ++ objects.flatten).length ++
      encodeUtf8 "\n%%EOF")

/-- A file with its objects one after the other, and the table behind them. -/
def writeFile (header : Bytes) (objects : List Bytes) (root : Bytes) : Bytes :=
  header ++ objects.flatten ++ writeTable header objects root

section WriteFile

variable {header root : Bytes} {objects : List Bytes}

theorem tableEntries_writeFile :
    tableEntries (writeFile header objects root) objects.length
        (header ++ objects.flatten).length =
      entries (offsets header.length objects) ++
        ((encodeUtf8 "trailer\n<< /Size " ++ decimal (objects.length + 1) ++ encodeUtf8 " ") ++
          (root ++ (encodeUtf8 "startxref\n" ++ decimal (header ++ objects.flatten).length ++
            encodeUtf8 "\n%%EOF"))) := by
  rw [tableEntries, writeFile, ← List.drop_drop, List.drop_left, writeTable]
  simp only [List.append_assoc, List.drop_left]

theorem entryAt_writeFile (small : ∀ offset ∈ offsets header.length objects, offset < 10 ^ 10)
    {index offset : Nat} (begins : (offsets header.length objects)[index]? = some offset) :
    entryAt (tableEntries (writeFile header objects root) objects.length
      (header ++ objects.flatten).length) (index + 1) = inUseEntry offset := by
  rw [tableEntries_writeFile]
  exact entryAt_succ _ small begins

theorem recordedOffset_writeFile
    (small : ∀ offset ∈ offsets header.length objects, offset < 10 ^ 10) {index offset : Nat}
    (begins : (offsets header.length objects)[index]? = some offset) :
    recordedOffset (writeFile header objects root) objects.length
      (header ++ objects.flatten).length (index + 1) = offset := by
  rw [recordedOffset, entryAt_writeFile small begins,
    take_inUseEntry (small offset (List.mem_of_getElem? begins)), value_padded]

theorem exists_object {number : Nat} (positive : 1 ≤ number) (bounded : number ≤ objects.length) :
    ∃ index offset object, number = index + 1 ∧ objects[index]? = some object ∧
      (offsets header.length objects)[index]? = some offset := by
  obtain ⟨index, rfl⟩ := Nat.exists_eq_add_of_le' positive
  have inOffsets : index < (offsets header.length objects).length := by
    rw [length_offsets]
    exact bounded
  exact ⟨index, (offsets header.length objects).get ⟨index, inOffsets⟩,
    objects.get ⟨index, bounded⟩, rfl, List.getElem?_eq_getElem bounded,
    List.getElem?_eq_getElem inOffsets⟩

/-- Objects that begin with their numbers are found where the table says. -/
theorem crossReferenced_writeFile
    (small : ∀ offset ∈ offsets header.length objects, offset < 10 ^ 10)
    (numbered : ∀ index object, objects[index]? = some object →
      objectHeader (index + 1) <+: object) :
    CrossReferenced (writeFile header objects root) objects.length
      (header ++ objects.flatten).length where
  header := by
    rw [writeFile, List.drop_left, writeTable]
    simp only [List.append_assoc]
    exact List.prefix_append ..
  free := by
    rw [tableEntries_writeFile]
    exact entryAt_zero _ _
  inUse := by
    intro number positive bounded
    obtain ⟨index, offset, object, rfl, -, begins⟩ :=
      @exists_object header objects number positive bounded
    rw [entryAt_writeFile small begins]
    exact inUse_inUseEntry (small offset (List.mem_of_getElem? begins))
  recorded := by
    intro number positive bounded
    obtain ⟨index, offset, object, rfl, present, begins⟩ :=
      @exists_object header objects number positive bounded
    rw [recordedOffset_writeFile small begins]
    exact (numbered index object present).trans (part_at_offset header _ begins present)
  trailer := by
    have entriesLength := length_entries small
    rw [length_offsets] at entriesLength
    rw [tableEntries_writeFile, List.drop_left' entriesLength]
    exact List.prefix_append ..
  start := by
    rw [writeFile, writeTable, ← List.append_assoc]
    exact List.suffix_append ..

end WriteFile

/-! ## Streams -/

/-- An object that is a stream, with its length in bytes. -/
def streamObject (number : Nat) (content : Bytes) : Bytes :=
  objectHeader number ++ encodeUtf8 "\n<< /Length " ++ decimal content.length ++
    encodeUtf8 " >>\nstream\n" ++ content ++ encodeUtf8 "\nendstream\nendobj\n"

/-- A stream at this place, whose end mark is the first one behind its beginning. -/
structure HoldsStream (pdf : Bytes) (offset number : Nat) (content : Bytes) : Prop where
  object : streamObject number content <+: pdf.drop offset
  ends : ¬ encodeUtf8 "\nendstream" <:+: content

/-! ## Literal strings -/

def isOctal (byte : UInt8) : Bool :=
  48 ≤ byte.toNat && byte.toNat ≤ 55

/-- What the bytes behind a backslash stand for, and how many of them there are. -/
def escapeSequence : Bytes → Bytes × Nat
  | [] => ([], 0)
  | byte :: rest =>
      if isOctal byte then
        let digits := ((byte :: rest).take 3).takeWhile isOctal
        ([UInt8.ofNat (digits.foldl (fun value digit => 8 * value + (digit.toNat - 48)) 0)],
          digits.length)
      else if byte = 13 then ([], if rest.head? = some 10 then 2 else 1)
      else if byte = 10 then ([], 1)
      else if byte = 110 then ([10], 1)
      else if byte = 114 then ([13], 1)
      else if byte = 116 then ([9], 1)
      else if byte = 98 then ([8], 1)
      else if byte = 102 then ([12], 1)
      else ([byte], 1)

/-- The contents of a literal string up to its closing parenthesis, and what is behind it;
`depth` parentheses are open inside it, and `skip` bytes have been read already. -/
def readLiteral : (depth skip : Nat) → Bytes → Option (Bytes × Bytes)
  | _, _, [] => none
  | depth, skip + 1, _ :: rest => readLiteral depth skip rest
  | depth, 0, byte :: rest =>
      if byte = 92 then
        (readLiteral depth (escapeSequence rest).2 rest).map fun (text, after) =>
          ((escapeSequence rest).1 ++ text, after)
      else if byte = 41 then
        match depth with
        | 0 => some ([], rest)
        | depth + 1 => (readLiteral depth 0 rest).map fun (text, after) => (41 :: text, after)
      else if byte = 40 then
        (readLiteral (depth + 1) 0 rest).map fun (text, after) => (40 :: text, after)
      else if byte = 13 then
        -- An end of line of any kind is read as a line feed.
        (readLiteral depth (if rest.head? = some 10 then 1 else 0) rest).map fun (text, after) =>
          (10 :: text, after)
      else (readLiteral depth 0 rest).map fun (text, after) => (byte :: text, after)

/-- All literal strings of a content stream, or `none` where one does not end; `skip` bytes
have been read already. -/
def literalStrings : (skip : Nat) → Bytes → Option (List Bytes)
  | _, [] => some []
  | skip + 1, _ :: rest => literalStrings skip rest
  | 0, byte :: rest =>
      if byte = 40 then
        match readLiteral 0 0 rest with
        | none => none
        | some (text, after) =>
            (literalStrings (rest.length - after.length) rest).map (text :: ·)
      else if byte = 37 then
        -- A comment goes up to the end of the line.
        literalStrings (rest.takeWhile fun byte => byte ≠ 10 && byte ≠ 13).length rest
      else literalStrings 0 rest

section Literals

variable {bytes text after rest : Bytes}

/-- A byte that stands for itself in a literal string. -/
def isOrdinary (byte : UInt8) : Prop :=
  byte ≠ 92 ∧ byte ≠ 41 ∧ byte ≠ 40 ∧ byte ≠ 13

@[simp]
theorem readLiteral_end (rest : Bytes) : readLiteral 0 0 (41 :: rest) = some ([], rest) := by
  rw [readLiteral]
  simp

theorem readLiteral_ordinary (ordinary : ∀ byte ∈ bytes, isOrdinary byte)
    (read : readLiteral 0 0 rest = some (text, after)) :
    readLiteral 0 0 (bytes ++ rest) = some (bytes ++ text, after) := by
  induction bytes with
  | nil => exact read
  | cons byte bytes ih =>
      obtain ⟨backslash, closing, opening, carriage⟩ := ordinary byte (List.mem_cons_self ..)
      have later := ih fun other member => ordinary other (List.mem_cons_of_mem _ member)
      rw [List.cons_append, readLiteral, if_neg backslash, if_neg closing, if_neg opening,
        if_neg carriage, later]
      rfl

theorem readLiteral_escaped {byte : UInt8} (special : byte = 92 ∨ byte = 40 ∨ byte = 41)
    (read : readLiteral 0 0 rest = some (text, after)) :
    readLiteral 0 0 (92 :: byte :: rest) = some (byte :: text, after) := by
  have escapes : escapeSequence (byte :: rest) = ([byte], 1) := by
    rcases special with rfl | rfl | rfl <;> rfl
  rw [readLiteral, if_pos rfl, escapes]
  simp only [readLiteral, read]
  rfl

theorem literalStrings_skip (before : Bytes) :
    literalStrings before.length (before ++ rest) = literalStrings 0 rest := by
  induction before with
  | nil => rfl
  | cons byte before ih => exact ih

theorem literalStrings_outside {before : Bytes} (noString : 40 ∉ before)
    (noComment : 37 ∉ before) :
    literalStrings 0 (before ++ rest) = literalStrings 0 rest := by
  induction before with
  | nil => rfl
  | cons byte before ih =>
      obtain ⟨string, noString⟩ := List.ne_and_not_mem_of_not_mem_cons noString
      obtain ⟨comment, noComment⟩ := List.ne_and_not_mem_of_not_mem_cons noComment
      rw [List.cons_append, literalStrings, if_neg (Ne.symm string), if_neg (Ne.symm comment)]
      exact ih noString noComment

theorem literalStrings_string (literal : Bytes)
    (read : readLiteral 0 0 (literal ++ 41 :: rest) = some (text, rest)) :
    literalStrings 0 (40 :: (literal ++ 41 :: rest)) =
      (literalStrings 0 rest).map (text :: ·) := by
  have length : (literal ++ 41 :: rest).length - rest.length = (literal ++ [41]).length := by
    simp only [List.length_append, List.length_cons, List.length_nil]
    omega
  rw [literalStrings, if_pos rfl]
  have passed := @literalStrings_skip rest (literal ++ [41])
  rw [List.append_assoc, List.singleton_append] at passed
  simp only [read, length, passed]

end Literals

end PdfSyntax
