import CryptoUsb.EncryptedContainers
import CryptoUsb.PdfSyntax
import CryptoUsb.SeparatedFields

/-!
# Decoy documents

The text and the PDF that are shown in place of a file.  The PDF is written by hand: five
objects, a cross-reference table of their offsets, and a content stream with one literal
string for each line of the text.
-/

namespace CryptoUsb

open ByteString PdfSyntax

/-! ## Text -/

namespace DecoyContent

def titles : List String :=
  ["Quarterly Financial Summary",
    "Project Status Report",
    "Internal Memorandum",
    "Meeting Minutes",
    "Research Notes",
    "Client Proposal Draft",
    "Inventory Reconciliation"]

def sentences : List String :=
  ["The team reviewed progress against the current milestones.",
    "Budget allocations remain within the approved range for this period.",
    "Further analysis is required before the next stakeholder review.",
    "Action items were assigned to the relevant department leads.",
    "The revised timeline reflects updated resourcing constraints.",
    "Preliminary results are consistent with expectations from last quarter.",
    "A follow-up meeting has been scheduled to address open questions.",
    "Supporting documentation is attached for reference purposes.",
    "The proposed changes were approved pending final sign-off.",
    "Data collection is ongoing and will be summarized next cycle.",
    "No significant risks were identified during this review period.",
    "The working group will reconvene once feedback has been incorporated."]

/-- `rng.sample(_SENTENCES, k)` for a `k` between three and six. -/
structure SentenceSample where
  drawn : List (Fin sentences.length)
  distinct : drawn.Nodup
  count : 3 ≤ drawn.length ∧ drawn.length ≤ 6

/-- What `generate_fake_text` draws. -/
structure TextDraws where
  title : Fin titles.length
  paragraphs : List SentenceSample
  count : 2 ≤ paragraphs.length ∧ paragraphs.length ≤ 4

def generateFakeText (draws : TextDraws) : Bytes :=
  let title := titles.get draws.title
  let paragraphs := draws.paragraphs.map fun sample =>
    String.intercalate " " (sample.drawn.map sentences.get)
  let body := String.intercalate "\n\n" paragraphs
  encodeUtf8 (title ++ "\n" ++ String.ofList (List.replicate title.length '=') ++ "\n\n" ++ body ++
    "\n")

/-! ## Lines -/

/-- A character at which `str.splitlines` ends a line. -/
def isLineBoundary (character : Char) : Bool :=
  [0x0a, 0x0b, 0x0c, 0x0d, 0x1c, 0x1d, 0x1e, 0x85, 0x2028, 0x2029].contains character.toNat

/-- `str.splitlines`: a carriage return and the line feed behind it are one boundary. -/
def splitLines : List Char → List (List Char)
  | [] => []
  | '\r' :: '\n' :: rest => [] :: splitLines rest
  | character :: rest =>
      if isLineBoundary character then [] :: splitLines rest
      else
        match splitLines rest with
        | [] => [[character]]
        | line :: lines => (character :: line) :: lines

/-- `str.replace` of a single character. -/
def replace (old : Char) (new : List Char) (text : List Char) : List Char :=
  text.flatMap fun character => if character = old then new else [character]

/-- The three replacements, in the order in which they are made. -/
def escape (line : List Char) : List Char :=
  replace ')' ['\\', ')'] (replace '(' ['\\', '('] (replace '\\' ['\\', '\\'] line))

def contentLines (lines : List (List Char)) : List String :=
  ["BT", "/F1 11 Tf", "50 750 Td", "14 TL"] ++
    lines.map (fun line => "(" ++ String.ofList (escape line) ++ ") Tj T*") ++ ["ET"]

def contentStream (lines : List (List Char)) : Bytes :=
  encodeUtf8 (String.intercalate "\n" (contentLines lines))

/-! ## The document -/

def objects (content : Bytes) : List Bytes :=
  [encodeUtf8 "1 0 obj\n<< /Type /Catalog /Pages 2 0 R >>\nendobj\n",
    encodeUtf8 "2 0 obj\n<< /Type /Pages /Kids [3 0 R] /Count 1 >>\nendobj\n",
    encodeUtf8 "3 0 obj\n<< /Type /Page /Parent 2 0 R /Resources << /Font << /F1 4 0 R >> >> " ++
      encodeUtf8 "/MediaBox [0 0 612 792] /Contents 5 0 R >>\nendobj\n",
    encodeUtf8 "4 0 obj\n<< /Type /Font /Subtype /Type1 /BaseFont /Helvetica >>\nendobj\n",
    encodeUtf8 "5 0 obj\n<< /Length " ++ decimal content.length ++ encodeUtf8 " >>\nstream\n" ++
      content ++ encodeUtf8 "\nendstream\nendobj\n"]

/-- One round of the loop over the objects: the file so far, and the offsets. -/
def appendObject (built : Bytes × List Nat) (object : Bytes) : Bytes × List Nat :=
  (built.1 ++ object, built.2 ++ [built.1.length])

def fakePdf (content : Bytes) : Bytes :=
  let (pdf, offsets) := (objects content).foldl appendObject (encodeUtf8 "%PDF-1.4\n", [])
  let xrefOffset := pdf.length
  let size := decimal ((objects content).length + 1)
  let pdf := pdf ++ (encodeUtf8 "xref\n0 " ++ size ++ encodeUtf8 "\n")
  let pdf := pdf ++ encodeUtf8 "0000000000 65535 f \n"
  let pdf := offsets.foldl
    (fun pdf offset => pdf ++ (padded 10 offset ++ encodeUtf8 " 00000 n \n")) pdf
  pdf ++ (encodeUtf8 "trailer\n<< /Size " ++ size ++ encodeUtf8 " /Root 1 0 R >>\n" ++
    encodeUtf8 "startxref\n" ++ decimal xrefOffset ++ encodeUtf8 "\n%%EOF")

/-- `generate_fake_pdf` around what `generate_fake_text` returned. -/
def generateFakePdf (fakeText : Bytes) : Raises Bytes := do
  let text ← decodeUtf8Bytes fakeText
  let lines := (splitLines text.toList).take 24
  return fakePdf (contentStream lines)

/-! ## Lines hold no end of line -/

theorem splitLines_free {text line : List Char} (member : line ∈ splitLines text) :
    ∀ character ∈ line, isLineBoundary character = false := by
  induction text using splitLines.induct generalizing line with
  | case1 => cases member
  | case2 rest ih =>
      rw [splitLines] at member
      rcases List.mem_cons.mp member with rfl | later
      · nofun
      · exact ih later
  | case3 character rest distinct boundary ih =>
      rw [splitLines, if_pos boundary] at member
      · rcases List.mem_cons.mp member with rfl | later
        · nofun
        · exact ih later
      · exact distinct
  | case4 character rest distinct inside ended ih =>
      rw [splitLines, if_neg inside, ended] at member
      · obtain rfl := List.mem_singleton.mp member
        intro other only
        rw [List.mem_singleton.mp only]
        exact Bool.eq_false_of_not_eq_true inside
      · exact distinct
  | case5 character rest distinct inside first others split ih =>
      rw [splitLines, if_neg inside, split] at member
      · rw [split] at ih
        rcases List.mem_cons.mp member with rfl | later
        · intro other occurs
          rcases List.mem_cons.mp occurs with rfl | behind
          · exact Bool.eq_false_of_not_eq_true inside
          · exact ih (List.mem_cons_self ..) other behind
        · exact ih (List.mem_cons_of_mem _ later)
      · exact distinct

example : splitLines "one\r\ntwo\n\nthree".toList =
    ["one".toList, "two".toList, [], "three".toList] := by
  decide +kernel

/-! ## Escaped lines are read back -/

/-- What the three replacements make of one character. -/
def escapeCharacter (character : Char) : List Char :=
  if character = '\\' ∨ character = '(' ∨ character = ')' then ['\\', character] else [character]

/-- The backslashes that the later replacements put in are not doubled. -/
theorem escape_eq_flatMap (line : List Char) : escape line = line.flatMap escapeCharacter := by
  induction line with
  | nil => rfl
  | cons character line ih =>
      have first : replace ')' ['\\', ')'] (replace '(' ['\\', '(']
          (if character = '\\' then ['\\', '\\'] else [character])) =
            escapeCharacter character := by
        by_cases backslash : character = '\\'
        · subst backslash
          rfl
        · by_cases opening : character = '('
          · subst opening
            rfl
          · by_cases closing : character = ')'
            · subst closing
              rfl
            · simp [replace, escapeCharacter, backslash, opening, closing]
      rw [List.flatMap_cons, ← ih, ← first]
      simp only [escape, replace, List.flatMap_cons, List.flatMap_append]

/-- The line as it stands between the parentheses. -/
def escapedBytes (line : List Char) : Bytes :=
  encodeUtf8 (String.ofList (escape line))

theorem escapedBytes_cons (character : Char) (line : List Char) :
    escapedBytes (character :: line) =
      (escapeCharacter character).flatMap String.utf8EncodeChar ++ escapedBytes line := by
  simp only [escapedBytes, encodeUtf8_ofList, escape_eq_flatMap, List.flatMap_cons,
    List.flatMap_append]

theorem eq_of_ascii_byte {character : Char} {byte : UInt8} (other : Char)
    (ascii : other.toNat < 128) (member : byte ∈ String.utf8EncodeChar character)
    (same : byte.toNat = other.toNat) : character = other := by
  rcases byte_of_utf8EncodeChar member with equal | high
  · exact Char.toNat_inj.mp (equal.symm.trans same)
  · omega

/-- A character of a line reads as itself. -/
theorem readLiteral_escapeCharacter {character : Char} {rest text after : Bytes}
    (noReturn : character ≠ '\r') (read : readLiteral 0 0 rest = some (text, after)) :
    readLiteral 0 0 ((escapeCharacter character).flatMap String.utf8EncodeChar ++ rest) =
      some (String.utf8EncodeChar character ++ text, after) := by
  by_cases special : character = '\\' ∨ character = '(' ∨ character = ')'
  · rw [escapeCharacter, if_pos special]
    rcases special with rfl | rfl | rfl
    · exact readLiteral_escaped (.inl rfl) read
    · exact readLiteral_escaped (.inr (.inl rfl)) read
    · exact readLiteral_escaped (.inr (.inr rfl)) read
  · rw [escapeCharacter, if_neg special, List.flatMap_singleton]
    apply readLiteral_ordinary _ read
    intro byte member
    simp only [not_or] at special
    refine ⟨?_, ?_, ?_, ?_⟩
    · rintro rfl
      exact special.1 (eq_of_ascii_byte '\\' (by decide) member rfl)
    · rintro rfl
      exact special.2.2 (eq_of_ascii_byte ')' (by decide) member rfl)
    · rintro rfl
      exact special.2.1 (eq_of_ascii_byte '(' (by decide) member rfl)
    · rintro rfl
      exact noReturn (eq_of_ascii_byte '\r' (by decide) member rfl)

theorem readLiteral_escapedBytes {line : List Char} (noReturn : '\r' ∉ line) (rest : Bytes) :
    readLiteral 0 0 (escapedBytes line ++ 41 :: rest) =
      some (encodeUtf8 (String.ofList line), rest) := by
  induction line with
  | nil => exact readLiteral_end rest
  | cons character line ih =>
      obtain ⟨other, noReturn⟩ := List.ne_and_not_mem_of_not_mem_cons noReturn
      rw [escapedBytes_cons, List.append_assoc,
        readLiteral_escapeCharacter (Ne.symm other) (ih noReturn), encodeUtf8_ofList,
        encodeUtf8_ofList, List.flatMap_cons]

/-! ## The content stream -/

/-- The operator that shows a line. -/
def showLine (line : List Char) : Bytes :=
  40 :: (escapedBytes line ++ 41 :: encodeUtf8 " Tj T*")

def streamParts (lines : List (List Char)) : List Bytes :=
  [encodeUtf8 "BT", encodeUtf8 "/F1 11 Tf", encodeUtf8 "50 750 Td", encodeUtf8 "14 TL"] ++
    (lines.map showLine ++ [encodeUtf8 "ET"])

theorem contentStream_eq_join (lines : List (List Char)) :
    contentStream lines = SeparatedFields.join 10 (streamParts lines) := by
  have separator : encodeUtf8 "\n" = [10] := by decide
  have shown (line : List Char) :
      encodeUtf8 ("(" ++ String.ofList (escape line) ++ ") Tj T*") = showLine line := by
    have opening : encodeUtf8 "(" = [40] := by decide
    have closing : encodeUtf8 ") Tj T*" = 41 :: encodeUtf8 " Tj T*" := by decide
    rw [encodeUtf8_append, encodeUtf8_append, opening, closing, showLine, escapedBytes]
    rfl
  rw [contentStream, encodeUtf8_intercalate, separator, SeparatedFields.join]
  simp only [contentLines, streamParts, List.map_append, List.map_cons, List.map_nil,
    List.map_map, Function.comp_def, shown, List.append_assoc]

theorem literalStrings_shownLines {lines : List (List Char)}
    (noReturn : ∀ line ∈ lines, '\r' ∉ line) :
    literalStrings 0 (SeparatedFields.join 10 (lines.map showLine ++ [encodeUtf8 "ET"])) =
      some (lines.map fun line => encodeUtf8 (String.ofList line)) := by
  induction lines with
  | nil => decide
  | cons line lines ih =>
      obtain ⟨first, noReturn⟩ := List.forall_mem_cons.mp noReturn
      have behind (rest : Bytes) :
          literalStrings 0 (encodeUtf8 " Tj T*" ++ 10 :: rest) = literalStrings 0 rest := by
        rw [List.append_cons]
        exact literalStrings_outside (by decide) (by decide)
      rw [List.map_cons, List.cons_append, SeparatedFields.join_cons _ (by simp), showLine,
        List.cons_append, List.append_assoc, List.cons_append,
        literalStrings_string _ (readLiteral_escapedBytes first _), behind, ih noReturn]
      rfl

theorem literalStrings_operators {operators rest : List Bytes}
    (plain : ∀ operator ∈ operators, 40 ∉ operator ++ [10] ∧ 37 ∉ operator ++ [10])
    (others : rest ≠ []) :
    literalStrings 0 (SeparatedFields.join 10 (operators ++ rest)) =
      literalStrings 0 (SeparatedFields.join 10 rest) := by
  induction operators with
  | nil => rfl
  | cons operator operators ih =>
      obtain ⟨⟨noString, noComment⟩, plain⟩ := List.forall_mem_cons.mp plain
      rw [List.cons_append, SeparatedFields.join_cons _ (by simp [others]), List.append_cons,
        literalStrings_outside noString noComment, ih plain]

theorem literalStrings_contentStream {lines : List (List Char)}
    (noReturn : ∀ line ∈ lines, '\r' ∉ line) :
    literalStrings 0 (contentStream lines) =
      some (lines.map fun line => encodeUtf8 (String.ofList line)) := by
  rw [contentStream_eq_join, streamParts, literalStrings_operators (by decide) (by simp)]
  exact literalStrings_shownLines noReturn

theorem newline_not_mem_escapedBytes {line : List Char} (noNewline : '\n' ∉ line) :
    10 ∉ escapedBytes line := by
  intro member
  rw [escapedBytes, encodeUtf8_ofList, escape_eq_flatMap, List.flatMap_assoc] at member
  obtain ⟨character, inLine, inEscape⟩ := List.mem_flatMap.mp member
  obtain ⟨escaped, inCharacter, inBytes⟩ := List.mem_flatMap.mp inEscape
  obtain rfl := eq_of_ascii_byte '\n' (by decide) inBytes rfl
  rw [escapeCharacter] at inCharacter
  split at inCharacter
  · rcases List.mem_cons.mp inCharacter with backslash | itself
    · exact absurd backslash (by decide)
    · rw [List.mem_singleton.mp itself] at noNewline
      exact noNewline inLine
  · rw [List.mem_singleton.mp inCharacter] at noNewline
    exact noNewline inLine

/-- Every part is one line, and none begins as the end mark does. -/
theorem streamParts_line {lines : List (List Char)} (noNewline : ∀ line ∈ lines, '\n' ∉ line)
    {part : Bytes} (member : part ∈ streamParts lines) :
    10 ∉ part ∧ part.head? ≠ some 101 := by
  rcases List.mem_append.mp member with operator | later
  · have checked : ∀ part ∈ [encodeUtf8 "BT", encodeUtf8 "/F1 11 Tf", encodeUtf8 "50 750 Td",
        encodeUtf8 "14 TL"], 10 ∉ part ∧ part.head? ≠ some 101 := by
      decide
    exact checked part operator
  · rcases List.mem_append.mp later with shown | last
    · obtain ⟨line, inLines, rfl⟩ := List.mem_map.mp shown
      refine ⟨?_, by simp [showLine]⟩
      have behind : 10 ∉ 41 :: encodeUtf8 " Tj T*" := by decide
      have free := newline_not_mem_escapedBytes (noNewline line inLines)
      simp only [showLine, List.mem_cons, List.mem_append, not_or] at behind ⊢
      exact ⟨by decide, free, behind⟩
    · rw [List.mem_singleton.mp last]
      decide

theorem contentStream_ends {lines : List (List Char)} (noNewline : ∀ line ∈ lines, '\n' ∉ line) :
    ¬ encodeUtf8 "\nendstream" <:+: contentStream lines := by
  rintro ⟨before, after, divided⟩
  have mark : encodeUtf8 "\nendstream" = 10 :: 101 :: encodeUtf8 "ndstream" := by decide
  rw [contentStream_eq_join, mark, List.append_assoc, List.cons_append, List.cons_append]
    at divided
  obtain ⟨rest, begins⟩ := SeparatedFields.field_after_separator (by simp [streamParts])
    (fun part member => (streamParts_line noNewline member).1) (by decide) divided.symm
  exact (streamParts_line noNewline begins).2 rfl

/-! ## The file -/

theorem foldl_appendObject (pdf : Bytes) (found : List Nat) (parts : List Bytes) :
    parts.foldl appendObject (pdf, found) =
      (pdf ++ parts.flatten, found ++ offsets pdf.length parts) := by
  induction parts generalizing pdf found with
  | nil => simp [offsets]
  | cons part parts ih =>
      rw [List.foldl_cons, appendObject, ih]
      simp [offsets]

theorem foldl_entries (pdf : Bytes) (offsets : List Nat) :
    offsets.foldl (fun pdf offset => pdf ++ (padded 10 offset ++ encodeUtf8 " 00000 n \n")) pdf =
      pdf ++ offsets.flatMap inUseEntry := by
  induction offsets generalizing pdf with
  | nil => simp
  | cons offset offsets ih =>
      rw [List.foldl_cons, ih, List.flatMap_cons, inUseEntry]
      simp only [List.append_assoc]

def pdfHeader : Bytes :=
  encodeUtf8 "%PDF-1.4\n"

def rootEntry : Bytes :=
  encodeUtf8 "/Root 1 0 R >>\n"

theorem fakePdf_eq (content : Bytes) :
    fakePdf content = writeFile pdfHeader (objects content) rootEntry := by
  have root : encodeUtf8 " /Root 1 0 R >>\n" = encodeUtf8 " " ++ rootEntry := by decide
  rw [fakePdf, foldl_appendObject, writeFile, writeTable, tableHeader, entries, freeEntry]
  simp only [foldl_entries, root, List.nil_append, pdfHeader, List.append_assoc]

/-- The objects that do not depend on the text. -/
def fixedObjects : List Bytes :=
  (objects []).take 4

theorem objects_eq (content : Bytes) :
    objects content = fixedObjects ++ [streamObject 5 content] := by
  have first : encodeUtf8 "5 0 obj\n<< /Length " =
      objectHeader 5 ++ encodeUtf8 "\n<< /Length " := rfl
  rw [objects, first]
  rfl

theorem offsets_objects (content : Bytes) :
    offsets pdfHeader.length (objects content) = [9, 58, 115, 241, 311] := by
  have fixed : offsets pdfHeader.length (objects []) = [9, 58, 115, 241, 311] := by
    decide +kernel
  exact fixed

theorem objectHeader_streamObject (number : Nat) (content : Bytes) :
    objectHeader number <+: streamObject number content := by
  simp only [streamObject, List.append_assoc]
  exact List.prefix_append ..

theorem objects_numbered (content : Bytes) (index : Nat) (object : Bytes)
    (present : (objects content)[index]? = some object) :
    objectHeader (index + 1) <+: object := by
  have fixed : ∀ index < 4, ∀ object ∈ fixedObjects[index]?,
      objectHeader (index + 1) <+: object := by
    decide
  have count : fixedObjects.length = 4 := rfl
  rw [objects_eq] at present
  rcases Nat.lt_or_ge index 4 with early | late
  · rw [List.getElem?_append_left (by omega)] at present
    exact fixed index early object present
  · rw [List.getElem?_append_right (by omega), count] at present
    cases last : index - 4 with
    | zero =>
        rw [last] at present
        obtain rfl := Option.some.inj present
        rw [show index = 4 by omega]
        exact objectHeader_streamObject 5 content
    | succ later =>
        rw [last] at present
        cases present

/-- The file up to the number of the last object, which is the same for every text. -/
def fixedPart : Bytes :=
  pdfHeader ++ fixedObjects.flatten ++ objectHeader 5

theorem fakePdf_fixed (content : Bytes) : fixedPart <+: fakePdf content := by
  obtain ⟨rest, same⟩ := objectHeader_streamObject 5 content
  rw [fakePdf_eq, writeFile, objects_eq, List.flatten_append, List.flatten_singleton, ← same,
    fixedPart]
  simp only [List.append_assoc, List.prefix_append_right_inj]
  exact List.prefix_append ..

/-- The pattern begins at none of the first places. -/
def absentBefore (pattern : Bytes) : Nat → Bytes → Bool
  | 0, _ => true
  | places + 1, bytes => !pattern.isPrefixOf bytes && absentBefore pattern places bytes.tail

theorem not_prefix_of_absentBefore {pattern bytes : Bytes} {places earlier : Nat}
    (absent : absentBefore pattern places bytes = true) (before : earlier < places) :
    ¬ pattern <+: bytes.drop earlier := by
  induction places generalizing earlier bytes with
  | zero => exact absurd before (Nat.not_lt_zero _)
  | succ places ih =>
      rw [absentBefore, Bool.and_eq_true, Bool.not_eq_true', ← Bool.not_eq_true,
        List.isPrefixOf_iff_prefix] at absent
      cases earlier with
      | zero => exact absent.1
      | succ earlier =>
          rw [← List.drop_tail]
          exact ih absent.2 (Nat.lt_of_succ_lt_succ before)

/-- No object header comes before that of the object itself. -/
theorem objectHeader_first {index offset earlier : Nat} (content : Bytes)
    (begins : (offsets pdfHeader.length (objects content))[index]? = some offset)
    (before : earlier < offset) :
    ¬ objectHeader (index + 1) <+: (fakePdf content).drop earlier := by
  have fixed : ∀ index < 5, ∀ offset ∈ [9, 58, 115, 241, 311][index]?,
      offset + (objectHeader (index + 1)).length ≤ fixedPart.length ∧
        absentBefore (objectHeader (index + 1)) offset fixedPart = true := by
    decide +kernel
  rw [offsets_objects] at begins
  have bounded : index < 5 := (List.getElem?_eq_some_iff.mp begins).1
  obtain ⟨room, absent⟩ := fixed index bounded offset begins
  obtain ⟨rest, same⟩ := fakePdf_fixed content
  intro found
  apply not_prefix_of_absentBefore absent before
  rw [← same, List.drop_append_of_le_length (by omega)] at found
  apply List.prefix_of_prefix_length_le found (List.prefix_append ..)
  rw [List.length_drop]
  omega

/-- The structure of a decoy: its table, its objects and the strings of its lines. -/
structure ValidDecoy (pdf : Bytes) (table : Nat) (lines : List (List Char)) : Prop where
  crossReferenced : CrossReferenced pdf 5 table
  first : ∀ number, 1 ≤ number → number ≤ 5 →
    ∀ earlier < recordedOffset pdf 5 table number, ¬ objectHeader number <+: pdf.drop earlier
  stream : HoldsStream pdf (recordedOffset pdf 5 table 5) 5 (contentStream lines)
  strings : literalStrings 0 (contentStream lines) =
    some (lines.map fun line => encodeUtf8 (String.ofList line))

theorem recordedOffset_objects {content : Bytes} {index offset : Nat}
    (begins : (offsets pdfHeader.length (objects content))[index]? = some offset) :
    recordedOffset (fakePdf content) 5 (pdfHeader ++ (objects content).flatten).length
      (index + 1) = offset := by
  rw [fakePdf_eq]
  apply @recordedOffset_writeFile pdfHeader rootEntry (objects content) _ index offset begins
  rw [offsets_objects]
  decide

theorem holdsStream_fakePdf {content : Bytes}
    (ends : ¬ encodeUtf8 "\nendstream" <:+: content) :
    HoldsStream (fakePdf content) (recordedOffset (fakePdf content) 5
      (pdfHeader ++ (objects content).flatten).length 5) 5 content where
  object := by
    have begins : (offsets pdfHeader.length (objects content))[4]? = some 311 := by
      rw [offsets_objects]
      rfl
    have present : (objects content)[4]? = some (streamObject 5 content) := by
      rw [objects_eq]
      rfl
    rw [recordedOffset_objects begins, fakePdf_eq]
    exact part_at_offset pdfHeader _ begins present
  ends := ends

theorem fakePdf_valid {lines : List (List Char)}
    (unbroken : ∀ line ∈ lines, ∀ character ∈ line, isLineBoundary character = false) :
    ValidDecoy (fakePdf (contentStream lines))
      (pdfHeader ++ (objects (contentStream lines)).flatten).length lines := by
  have without {character : Char} (boundary : isLineBoundary character = true) :
      ∀ line ∈ lines, character ∉ line := by
    intro line inLines member
    rw [unbroken line inLines character member] at boundary
    cases boundary
  constructor
  · rw [fakePdf_eq]
    apply crossReferenced_writeFile _ (objects_numbered _)
    rw [offsets_objects]
    decide
  · intro number positive bounded earlier before
    obtain ⟨index, offset, object, rfl, -, begins⟩ :=
      @exists_object pdfHeader (objects (contentStream lines)) number positive bounded
    rw [recordedOffset_objects begins] at before
    exact objectHeader_first _ begins before
  · exact holdsStream_fakePdf (contentStream_ends (without (by decide)))
  · exact literalStrings_contentStream (without (by decide))

theorem generateFakePdf_eq (text : String) :
    generateFakePdf (encodeUtf8 text) =
      .ok (fakePdf (contentStream ((splitLines text.toList).take 24))) := by
  rw [generateFakePdf, decodeUtf8Bytes_encodeUtf8]
  rfl

theorem take_splitLines_free (text : String) : ∀ line ∈ (splitLines text.toList).take 24,
    ∀ character ∈ line, isLineBoundary character = false :=
  fun _ member => splitLines_free (List.mem_of_mem_take member)

/-- Whatever the text, the PDF around it is well formed, and its strings are the first
twenty-four lines of the text. -/
theorem generateFakePdf_valid (text : String) :
    ∃ pdf table, generateFakePdf (encodeUtf8 text) = .ok pdf ∧
      ValidDecoy pdf table ((splitLines text.toList).take 24) :=
  ⟨_, _, generateFakePdf_eq text, fakePdf_valid (take_splitLines_free text)⟩

end DecoyContent

end CryptoUsb
