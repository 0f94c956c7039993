import CryptoUsb.DecoyPdf
import CryptoUsb.PngImages
import CryptoUsb.RandomDraws
import Mathlib.Data.Set.List

/-!
# Content generators

The generators of decoys as code that draws from a `random.Random`: text, PDF, image and corrupted
data.  None of them raises, and what they return is well formed whatever is drawn.
-/

namespace CryptoUsb

open ByteString RandomDraws

/-- The methods of `random.Random` that the generators call. -/
structure Random (State : Type) where
  choice {Item : Type} : List Item → Drawing State PyError Item
  randint : Int → Int → Drawing State PyError Int
  sample {Item : Type} : List Item → Int → Drawing State PyError (List Item)
  randbytes : Nat → Drawing State PyError Bytes
  getrandbits : Nat → Drawing State PyError Nat

/-- What the documentation says of them: when they return, and what. -/
structure Random.Documented {State : Type} (rng : Random State) : Prop where
  choice {Item : Type} {items : List Item} : items ≠ [] → Always (rng.choice items) (· ∈ items)
  randint {low high : Int} : low ≤ high →
    Always (rng.randint low high) fun drawn => low ≤ drawn ∧ drawn ≤ high
  sample {Item : Type} {population : List Item} {count : Int} :
    0 ≤ count → count ≤ population.length →
      Always (rng.sample population count) fun drawn => ∃ places : List (Fin population.length),
        places.Nodup ∧ (places.length : Int) = count ∧ drawn = places.map population.get
  randbytes (count : Nat) : Always (rng.randbytes count) (·.length = count)
  getrandbits (count : Nat) : Always (rng.getrandbits count) (· < 2 ^ count)

/-- `zlib.compress` at level six, and what undoes it. -/
structure Zlib where
  compress : Bytes → Bytes
  decompress : Bytes → Option Bytes

/-- `compressBound`. -/
def Zlib.compressBound (length : Nat) : Nat :=
  length + length / 2 ^ 12 + length / 2 ^ 14 + length / 2 ^ 25 + 13

structure Zlib.Documented (zlib : Zlib) : Prop where
  decompress (data : Bytes) : zlib.decompress (zlib.compress data) = some data
  bound (data : Bytes) : (zlib.compress data).length ≤ compressBound data.length

namespace ContentGenerators

open DecoyContent (titles sentences TextDraws SentenceSample)

section Generators

variable {State : Type} (rng : Random State)

/-! ## Text and PDF -/

def paragraph : Drawing State PyError String := do
  let sentenceCount := min (← rng.randint 3 6) sentences.length
  let sentences ← rng.sample sentences sentenceCount
  return String.intercalate " " sentences

def generateFakeText : Drawing State PyError Bytes := do
  let title ← rng.choice titles
  let paragraphCount ← rng.randint 2 4
  let paragraphs ← (List.range paragraphCount.toNat).mapM fun _ => paragraph rng
  let body := String.intercalate "\n\n" paragraphs
  return encodeUtf8 (title ++ "\n" ++ String.ofList (List.replicate title.length '=') ++ "\n\n" ++
    body ++ "\n")

def generateFakePdf : Drawing State PyError Bytes := do
  let text ← generateFakeText rng
  DecoyContent.generateFakePdf text

/-! ## Image -/

/-- `struct.pack(">I", value)`; nothing for a `struct.error`. -/
def packUInt32 (value : Int) : Option Bytes :=
  if 0 ≤ value ∧ value < 2 ^ 32 then some (bigEndian 4 value.toNat) else none

def pngChunk (tag data : Bytes) : Option Bytes := do
  let length ← packUInt32 data.length
  let checksum ← packUInt32 (PngImage.crc32 (tag ++ data) &&& 0xFFFFFFFF : Nat)
  return length ++ tag ++ data ++ checksum

/-- A grey value near that of the gradient, as a byte of `bytearray`. -/
def greyValue (base jitter : Int) : UInt8 :=
  UInt8.ofNat (max 0 (min 255 (base + jitter))).toNat

def appendPixel (base : Int) (raw : Bytes) : Drawing State PyError Bytes := do
  let jitter ← rng.randint (-20) 20
  let value := greyValue base jitter
  return raw ++ [value, value, value]

/-- The scanlines.  `gradient` is `int(255 * (y / max(height - 1, 1)))`, computed in floating
point. -/
def rawScanlines (gradient : Int → Nat → Int) (width height : Int) : Drawing State PyError Bytes :=
  (List.range height.toNat).foldlM (fun raw y =>
    (List.range width.toNat).foldlM (fun raw _ => appendPixel rng (gradient height y) raw)
      (raw ++ [0])) []

/-- The signature, the header, the compressed scanlines and the end. -/
def pngFile (width height : Int) (compressed : Bytes) : Option Bytes := do
  let signature : Bytes := [0x89, 0x50, 0x4e, 0x47, 0x0d, 0x0a, 0x1a, 0x0a]
  let packedWidth ← packUInt32 width
  let packedHeight ← packUInt32 height
  let ihdr := packedWidth ++ packedHeight ++ [8, 2, 0, 0, 0]
  let header ← pngChunk (encodeUtf8 "IHDR") ihdr
  let data ← pngChunk (encodeUtf8 "IDAT") compressed
  let last ← pngChunk (encodeUtf8 "IEND") []
  return signature ++ header ++ data ++ last

/-- Nothing for a `struct.error`. -/
def generateFakeImage (zlib : Zlib) (gradient : Int → Nat → Int) (width height : Int) :
    Drawing State PyError (Option Bytes) := do
  let raw ← rawScanlines rng gradient width height
  return pngFile width height (zlib.compress raw)

/-! ## Corrupted data -/

/-- A piece of the text is written over the noise at some place. -/
def spliceFragment (fragmentSource corrupted : Bytes) : Drawing State PyError Bytes := do
  let fragLen ← rng.randint 4 (min 16 fragmentSource.length)
  let fragStart ← rng.randint 0 (fragmentSource.length - fragLen)
  let fragment := (fragmentSource.drop fragStart.toNat).take fragLen.toNat
  let pos ← rng.randint 0 (corrupted.length - fragLen)
  return corrupted.take pos.toNat ++ fragment ++ corrupted.drop (pos + fragLen).toNat

def generateCorruptedData (size : Int) : Drawing State PyError Bytes := do
  let size := max size 32
  let corrupted ← rng.randbytes size.toNat
  let fragmentSource ← generateFakeText rng
  let fragments ← rng.randint 2 4
  (List.range fragments.toNat).foldlM (fun corrupted _ =>
    spliceFragment rng fragmentSource corrupted) corrupted

end Generators

section Text

variable {State : Type} {rng : Random State}

theorem paragraph_always (documented : rng.Documented) :
    Always (paragraph rng) fun text => ∃ sample : SentenceSample,
      text = String.intercalate " " (sample.drawn.map sentences.get) := by
  refine .bind (documented.randint (by decide)) fun count bounds => ?_
  have few : min count sentences.length ≤ 6 := by
    rw [min_le_iff]
    exact .inl bounds.2
  have many : 3 ≤ min count sentences.length := by
    rw [le_min_iff]
    exact ⟨bounds.1, by decide⟩
  refine .bind (documented.sample (by omega) (min_le_right _ _)) fun drawn sampled => ?_
  obtain ⟨places, distinct, length, rfl⟩ := sampled
  exact .pure ⟨⟨places, distinct, by omega⟩, rfl⟩

theorem generateFakeText_always (documented : rng.Documented) :
    Always (generateFakeText rng) fun text => ∃ draws,
      text = DecoyContent.generateFakeText draws := by
  refine .bind (documented.choice (by decide)) fun title chosen => ?_
  refine .bind (documented.randint (by decide)) fun count bounds => ?_
  refine .bind (.mapM fun _ _ => paragraph_always documented) fun paragraphs drawn => ?_
  obtain ⟨length, sampled⟩ := drawn
  obtain ⟨samples, rfl⟩ : paragraphs ∈ Set.range (List.map fun sample : SentenceSample =>
      String.intercalate " " (sample.drawn.map sentences.get)) := by
    rw [Set.range_list_map]
    intro text member
    obtain ⟨sample, same⟩ := sampled text member
    exact ⟨sample, same.symm⟩
  obtain ⟨place, rfl⟩ := List.get_of_mem chosen
  rw [List.length_map, List.length_range] at length
  exact .pure ⟨⟨place, samples, by omega⟩, by simp [DecoyContent.generateFakeText]⟩

/-- A PDF with its header, whose table leads to its objects. -/
def WellFormedPdf (pdf : Bytes) : Prop :=
  DecoyContent.pdfHeader <+: pdf ∧ ∃ table lines, DecoyContent.ValidDecoy pdf table lines

theorem generateFakePdf_always (documented : rng.Documented) :
    Always (generateFakePdf rng) WellFormedPdf := by
  refine .bind (generateFakeText_always documented) fun text ⟨draws, same⟩ => ?_
  subst same
  refine .lift (DecoyContent.generateFakePdf_eq _) ⟨?_, _, _, DecoyContent.fakePdf_valid
    (DecoyContent.take_splitLines_free _)⟩
  rw [DecoyContent.fakePdf_eq]
  exact (List.prefix_append ..).trans (List.prefix_append ..)

end Text

section Image

open PngImage

variable {State : Type} {rng : Random State} {zlib : Zlib} {gradient : Int → Nat → Int}

theorem toNat_greyValue (base jitter : Int) :
    ((greyValue base jitter).toNat : Int) = max 0 (min 255 (base + jitter)) := by
  rw [greyValue, UInt8.toNat_ofNat']
  omega

/-- A grey that differs from the gradient by the noise. -/
def GreyNear (base : Int) (pixel : Pixel) : Prop :=
  ∃ jitter, -20 ≤ jitter ∧ jitter ≤ 20 ∧ ∃ value : UInt8, pixel = ⟨value, value, value⟩ ∧
    (value.toNat : Int) = max 0 (min 255 (base + jitter))

theorem appendPixel_always (documented : rng.Documented) (base : Int) (raw : Bytes) :
    Always (appendPixel rng base raw) fun grown => ∃ pixel, GreyNear base pixel ∧
      grown = raw ++ pixel.bytes :=
  .bind (documented.randint (by decide)) fun jitter bounds => .pure
    ⟨_, ⟨jitter, bounds.1, bounds.2, _, rfl, toNat_greyValue base jitter⟩, rfl⟩

theorem appendScanline_always (documented : rng.Documented) (base : Int) (raw : Bytes)
    (width : Nat) :
    Always ((List.range width).foldlM (fun raw _ => appendPixel rng base raw) (raw ++ [0]))
      fun grown => ∃ row : List Pixel, row.length = width ∧ (∀ pixel ∈ row, GreyNear base pixel) ∧
        grown = raw ++ scanline row := by
  apply Always.foldlM_range fun width grown => ∃ row : List Pixel, row.length = width ∧
    (∀ pixel ∈ row, GreyNear base pixel) ∧ grown = raw ++ scanline row
  · exact ⟨[], rfl, by simp, rfl⟩
  · rintro width grown ⟨row, length, grey, rfl⟩
    refine (appendPixel_always documented base _).imp fun grown appended => ?_
    obtain ⟨pixel, near, rfl⟩ := appended
    refine ⟨row ++ [pixel], ?_, ?_, ?_⟩
    · rw [List.length_append, length]
      rfl
    · exact List.forall_mem_append.mpr ⟨grey, List.forall_mem_singleton.mpr near⟩
    · simp [scanline]

/-- The rows of a gradient with noise. -/
structure NoisyGradient (gradient : Nat → Int) (width : Nat) (rows : List (List Pixel)) : Prop where
  full : ∀ row ∈ rows, row.length = width
  grey : ∀ y row, rows[y]? = some row → ∀ pixel ∈ row, GreyNear (gradient y) pixel

theorem NoisyGradient.concat {gradient : Nat → Int} {width : Nat} {rows : List (List Pixel)}
    {row : List Pixel} (noisy : NoisyGradient gradient width rows) (full : row.length = width)
    (grey : ∀ pixel ∈ row, GreyNear (gradient rows.length) pixel) :
    NoisyGradient gradient width (rows ++ [row]) where
  full := List.forall_mem_append.mpr ⟨noisy.full, List.forall_mem_singleton.mpr full⟩
  grey := by
    intro y other found
    rcases Nat.lt_trichotomy y rows.length with before | rfl | behind
    · rw [List.getElem?_append_left before] at found
      exact noisy.grey y other found
    · rw [List.getElem?_concat_length] at found
      obtain rfl := Option.some.inj found
      exact grey
    · rw [List.getElem?_eq_none (by simp; omega)] at found
      cases found

theorem rawScanlines_always (documented : rng.Documented) (width height : Int) :
    Always (rawScanlines rng gradient width height) fun raw => ∃ rows,
      rows.length = height.toNat ∧ NoisyGradient (gradient height) width.toNat rows ∧
        raw = rows.flatMap scanline := by
  apply Always.foldlM_range fun height' raw => ∃ rows, rows.length = height' ∧
    NoisyGradient (gradient height) width.toNat rows ∧ raw = rows.flatMap scanline
  · exact ⟨[], rfl, ⟨by simp, by simp⟩, rfl⟩
  · rintro y raw ⟨rows, rfl, noisy, rfl⟩
    refine (appendScanline_always documented _ _ width.toNat).imp fun grown appended => ?_
    obtain ⟨row, full, grey, rfl⟩ := appended
    exact ⟨rows ++ [row], by simp, noisy.concat full grey, by simp⟩

theorem packUInt32_natCast {value : Nat} (fits : value < 2 ^ 32) :
    packUInt32 value = some (bigEndian 4 value) := by
  rw [packUInt32, if_pos ⟨by omega, by omega⟩, Int.toNat_natCast]

theorem pngChunk_eq {tag data : Bytes} (short : data.length < 2 ^ 32) :
    pngChunk tag data = some (Chunk.bytes ⟨tag, data⟩) := by
  have masked : crc32 (tag ++ data) &&& 0xFFFFFFFF = crc32 (tag ++ data) := by
    rw [show 0xFFFFFFFF = 2 ^ 32 - 1 from rfl, Nat.and_two_pow_sub_one_eq_mod]
    exact Nat.mod_eq_of_lt (crc32_lt _)
  rw [pngChunk, packUInt32_natCast short, masked, packUInt32_natCast (crc32_lt _)]
  rfl

theorem length_scanlines {rows : List (List Pixel)} {width : Nat}
    (full : ∀ row ∈ rows, row.length = width) :
    (rows.flatMap scanline).length = rows.length * (1 + 3 * width) := by
  have scanned : ∀ row ∈ rows, (scanline row).length = 1 + 3 * width := by
    intro row member
    rw [scanline, List.length_cons, List.length_flatMap, ← full row member]
    simp [Pixel.bytes]
    omega
  rw [List.length_flatMap, List.map_congr_left scanned]
  simp

theorem pngChunk_header (width height : Nat) :
    pngChunk (encodeUtf8 "IHDR") (bigEndian 4 width ++ bigEndian 4 height ++ colourFields) =
      some (headerChunk width height).bytes :=
  pngChunk_eq (by simp [colourFields])

theorem pngChunk_end : pngChunk (encodeUtf8 "IEND") [] = some (Chunk.bytes ⟨endTag, []⟩) :=
  pngChunk_eq (by simp)

theorem pngChunk_data {compressed : Bytes} (short : compressed.length < 2 ^ 31) :
    pngChunk (encodeUtf8 "IDAT") compressed = some (Chunk.bytes ⟨dataTag, compressed⟩) :=
  pngChunk_eq (by omega)

theorem pngFile_eq {width height : Nat} {compressed : Bytes} (rows : List (List Pixel))
    (narrow : width < 2 ^ 31) (low : height < 2 ^ 31) (short : compressed.length < 2 ^ 31) :
    pngFile width height compressed = some (Image.file ⟨width, height, rows⟩ compressed) := by
  have first : packUInt32 width = some (bigEndian 4 width) := packUInt32_natCast (by omega)
  have second : packUInt32 height = some (bigEndian 4 height) := packUInt32_natCast (by omega)
  have header := pngChunk_header width height
  have data := pngChunk_data short
  have last := pngChunk_end
  rw [colourFields] at header
  rw [pngFile]
  refine Option.bind_eq_some_iff.mpr ⟨_, first, Option.bind_eq_some_iff.mpr ⟨_, second, ?_⟩⟩
  refine Option.bind_eq_some_iff.mpr ⟨_, header, Option.bind_eq_some_iff.mpr ⟨_, data, ?_⟩⟩
  refine Option.bind_eq_some_iff.mpr ⟨_, last, ?_⟩
  simp only [Image.file, Image.chunks, signature, List.flatMap_cons, List.flatMap_nil,
    List.append_assoc, List.append_nil, Option.pure_def]

/-- The image that is shown reads back as a noisy gradient of the size asked for. -/
theorem generateFakeImage_always (documented : rng.Documented) (compresses : zlib.Documented)
    {width height : Nat} (wide : 0 < width) (high : 0 < height)
    (small : Zlib.compressBound (height * (1 + 3 * width)) < 2 ^ 31) :
    Always (generateFakeImage rng zlib gradient width height) fun content => ∃ file rows,
      content = some file ∧ decode zlib.decompress file = some ⟨width, height, rows⟩ ∧
        NoisyGradient (gradient height) width rows := by
  refine .bind (rawScanlines_always documented width height) fun raw scanned => .pure ?_
  obtain ⟨rows, count, noisy, rfl⟩ := scanned
  rw [Int.toNat_natCast] at count noisy
  have short : (zlib.compress (rows.flatMap scanline)).length < 2 ^ 31 := by
    refine Nat.lt_of_le_of_lt (compresses.bound _) ?_
    rwa [length_scanlines noisy.full, count]
  have narrow : width < 2 ^ 31 ∧ height < 2 ^ 31 := by
    have room : height * (1 + 3 * width) < 2 ^ 31 := by
      rw [Zlib.compressBound] at small
      omega
    have wider : 1 + 3 * width ≤ height * (1 + 3 * width) := Nat.le_mul_of_pos_left _ high
    have higher : height ≤ height * (1 + 3 * width) := Nat.le_mul_of_pos_right _ (by omega)
    constructor
    · omega
    · omega
  have proper : Image.Proper ⟨width, height, rows⟩ :=
    ⟨⟨wide, narrow.1⟩, ⟨high, narrow.2⟩, count, noisy.full⟩
  exact ⟨_, rows, pngFile_eq rows narrow.1 narrow.2 short,
    decode_file proper short (compresses.decompress _), noisy⟩

end Image

section Corrupted

variable {State : Type} {rng : Random State}

theorem four_le_length_generateFakeText (draws : TextDraws) :
    4 ≤ (DecoyContent.generateFakeText draws).length := by
  have breaks : (encodeUtf8 "\n").length = 1 ∧ (encodeUtf8 "\n\n").length = 2 := by decide
  simp only [DecoyContent.generateFakeText, encodeUtf8_append, List.length_append, breaks]
  omega

/-- Some of the text can be read in the data. -/
def Legible (source corrupted : Bytes) : Prop :=
  ∃ fragment : Bytes, 4 ≤ fragment.length ∧ fragment.length ≤ 16 ∧ fragment <:+: source ∧
    fragment <:+: corrupted

/-- A splice fits between the ends of the text and of the data. -/
theorem spliceFragment_always (documented : rng.Documented) {source corrupted : Bytes}
    (long : 4 ≤ source.length) (room : 16 ≤ corrupted.length) :
    Always (spliceFragment rng source corrupted) fun spliced =>
      spliced.length = corrupted.length ∧ Legible source spliced := by
  refine .bind (documented.randint (by omega)) fun fragLen lengths => ?_
  refine .bind (documented.randint (by omega)) fun fragStart starts => ?_
  refine .bind (documented.randint (by omega)) fun pos places => .pure ?_
  have cut : ((source.drop fragStart.toNat).take fragLen.toNat).length = fragLen.toNat := by
    rw [List.length_take, List.length_drop]
    omega
  refine ⟨?_, _, ?_, ?_, ?_, ⟨_, _, rfl⟩⟩
  · rw [List.length_append, List.length_append, cut, List.length_take, List.length_drop]
    omega
  · omega
  · omega
  · exact (List.take_prefix _ _).isInfix.trans (List.drop_suffix _ _).isInfix

/-- The data is of the size asked for, but of thirty-two bytes at least, and there is something
legible in it. -/
theorem generateCorruptedData_always (documented : rng.Documented) (size : Int) :
    Always (generateCorruptedData rng size) fun corrupted =>
      (corrupted.length : Int) = max size 32 ∧
        ∃ draws, Legible (DecoyContent.generateFakeText draws) corrupted := by
  refine .bind (documented.randbytes _) fun noise length => ?_
  refine .bind (generateFakeText_always documented) fun source ⟨draws, same⟩ => ?_
  refine .bind (documented.randint (by decide)) fun fragments count => ?_
  have long : 4 ≤ source.length := same ▸ four_le_length_generateFakeText draws
  refine (Always.foldlM_range (fun rounds corrupted => corrupted.length = noise.length ∧
    (0 < rounds → Legible source corrupted)) ⟨rfl, by omega⟩ ?_ _).imp ?_
  · intro rounds corrupted held
    refine (spliceFragment_always documented long (by omega)).imp fun spliced made => ?_
    exact ⟨made.1.trans held.1, fun _ => made.2⟩
  · rintro corrupted ⟨kept, spliced⟩
    exact ⟨by omega, draws, same ▸ spliced (by omega)⟩

end Corrupted

end ContentGenerators

/-! ## A source that counts, and a compression that stores -/

def countingRandom : Random Nat where
  choice items state :=
    match items[state % items.length]? with
    | some item => .ok (item, state + 1)
    | none => raise .indexError "Cannot choose from an empty sequence"
  randint low high state :=
    if low ≤ high then .ok (low + (state : Int) % (high - low + 1), state + 1)
    else raise .valueError "empty range in randrange"
  sample population count state :=
    if 0 ≤ count ∧ count ≤ population.length then .ok (population.take count.toNat, state + 1)
    else raise .valueError "Sample larger than population or is negative"
  randbytes count state := .ok (List.replicate count (UInt8.ofNat state), state + 1)
  getrandbits count state := .ok (state % 2 ^ count, state + 1)

theorem countingRandom_documented : countingRandom.Documented where
  choice := by
    intro _ items nonempty state
    have inside : state % items.length < items.length :=
      Nat.mod_lt _ (List.length_pos_iff.mpr nonempty)
    refine ⟨items[state % items.length], state + 1, ?_, List.getElem_mem inside⟩
    simp only [countingRandom, List.getElem?_eq_getElem inside]
  randint := by
    intro low high ordered state
    have drawn : countingRandom.randint low high state =
        .ok (low + (state : Int) % (high - low + 1), state + 1) := if_pos ordered
    have lower := Int.emod_nonneg (state : Int) (show high - low + 1 ≠ 0 by omega)
    have upper := Int.emod_lt_of_pos (state : Int) (show 0 < high - low + 1 by omega)
    exact ⟨_, _, drawn, by omega, by omega⟩
  sample := by
    intro _ population count nonneg bounded state
    have drawn : countingRandom.sample population count state =
        .ok (population.take count.toNat, state + 1) := if_pos ⟨nonneg, bounded⟩
    refine ⟨_, _, drawn, (List.finRange population.length).take count.toNat, ?_, ?_, ?_⟩
    · exact (List.nodup_finRange _).sublist (List.take_sublist _ _)
    · rw [List.length_take, List.length_finRange]
      omega
    · rw [List.map_take, List.map_get_finRange]
  randbytes := fun count state => ⟨_, _, rfl, List.length_replicate⟩
  getrandbits := fun count state => ⟨_, _, rfl, Nat.mod_lt _ (Nat.two_pow_pos count)⟩

def storedZlib : Zlib where
  compress := id
  decompress := some

theorem storedZlib_documented : storedZlib.Documented where
  decompress _ := rfl
  bound data := by
    show data.length ≤ _
    rw [Zlib.compressBound]
    omega

end CryptoUsb
