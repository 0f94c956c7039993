import CryptoUsb.ByteStrings

/-!
# PNG images

The part of the format that true-colour images without interlacing and without filters need:
chunks with their checksums, the header, and the scanlines behind the compression.
-/

namespace PngImage

open ByteString

/-! ## Checksums -/

/-- One bit of the division by the polynomial of CRC-32. -/
def crcShift (remainder : BitVec 32) : BitVec 32 :=
  if remainder.getLsbD 0 then (remainder >>> 1) ^^^ 0xEDB88320#32 else remainder >>> 1

def crcByte (remainder : BitVec 32) (byte : UInt8) : BitVec 32 :=
  Nat.repeat crcShift 8 (remainder ^^^ byte.toBitVec.setWidth 32)

def crc32 (bytes : Bytes) : Nat :=
  (~~~(bytes.foldl crcByte (~~~0#32))).toNat

theorem crc32_lt (bytes : Bytes) : crc32 bytes < 256 ^ 4 :=
  BitVec.isLt _

example : crc32 (encodeUtf8 "IEND") = 0xAE426082 := by
  decide +kernel

/-! ## Chunks -/

structure Chunk where
  tag : Bytes
  data : Bytes
  deriving DecidableEq, Repr

namespace Chunk

def checksum (chunk : Chunk) : Nat :=
  crc32 (chunk.tag ++ chunk.data)

def bytes (chunk : Chunk) : Bytes :=
  bigEndian 4 chunk.data.length ++ chunk.tag ++ chunk.data ++ bigEndian 4 chunk.checksum

/-- A chunk of a length that the format allows. -/
structure Fits (chunk : Chunk) : Prop where
  tag : chunk.tag.length = 4
  data : chunk.data.length < 2 ^ 31

end Chunk

/-- Split off a chunk that is there to its end, not too long, and whose checksum is right. -/
def readChunk (stream : Bytes) : Option (Chunk × Bytes) :=
  let body := stream.drop 8
  let length := fromBigEndian (stream.take 4)
  let chunk : Chunk := ⟨(stream.drop 4).take 4, body.take length⟩
  let behind := body.drop length
  if length < 2 ^ 31 ∧ 4 ≤ behind.length ∧
      fromBigEndian (behind.take 4) = chunk.checksum then
    some (chunk, behind.drop 4)
  else none

/-- All chunks of a stream that holds nothing else. -/
def readChunks : Nat → Bytes → Option (List Chunk)
  | _, [] => some []
  | 0, _ :: _ => none
  | fuel + 1, stream => do
      let (chunk, rest) ← readChunk stream
      let chunks ← readChunks fuel rest
      return chunk :: chunks

section Chunks

variable {chunk : Chunk} {chunks : List Chunk}

theorem Chunk.bytes_append (chunk : Chunk) (rest : Bytes) :
    chunk.bytes ++ rest = bigEndian 4 chunk.data.length ++ (chunk.tag ++ (chunk.data ++
      (bigEndian 4 chunk.checksum ++ rest))) := by
  simp only [bytes, List.append_assoc]

theorem readChunk_append (fits : chunk.Fits) (rest : Bytes) :
    readChunk (chunk.bytes ++ rest) = some (chunk, rest) := by
  have first := length_bigEndian 4 chunk.data.length
  have last := length_bigEndian 4 chunk.checksum
  have length : fromBigEndian ((chunk.bytes ++ rest).take 4) = chunk.data.length := by
    have room : chunk.data.length < 256 ^ 4 := fits.data.trans (by decide)
    rw [chunk.bytes_append, List.take_left' first, fromBigEndian_bigEndian room]
  have tagged : (chunk.bytes ++ rest).drop 4 =
      chunk.tag ++ (chunk.data ++ (bigEndian 4 chunk.checksum ++ rest)) := by
    rw [chunk.bytes_append, List.drop_left' first]
  have body : (chunk.bytes ++ rest).drop 8 =
      chunk.data ++ (bigEndian 4 chunk.checksum ++ rest) := by
    rw [show 8 = 4 + 4 from rfl, ← List.drop_drop, tagged, List.drop_left' fits.tag]
  have checked : fromBigEndian (bigEndian 4 chunk.checksum) = chunk.checksum :=
    fromBigEndian_bigEndian (crc32_lt _)
  simp only [readChunk, length, tagged, body, List.take_left' fits.tag, List.take_left,
    List.drop_left, List.take_left' last, List.drop_left' last, checked, List.length_append, last]
  rw [if_pos ⟨fits.data, by omega, trivial⟩]

theorem Chunk.bytes_ne_nil (chunk : Chunk) : chunk.bytes ≠ [] := by
  intro empty
  have length := congrArg List.length empty
  simp [bytes] at length

theorem readChunks_append {fuel : Nat} (enough : chunks.length ≤ fuel)
    (fits : ∀ chunk ∈ chunks, chunk.Fits) :
    readChunks fuel (chunks.flatMap Chunk.bytes) = some chunks := by
  induction chunks generalizing fuel with
  | nil => cases fuel <;> rfl
  | cons chunk chunks ih =>
      obtain ⟨first, others⟩ := List.forall_mem_cons.mp fits
      obtain ⟨fuel, rfl⟩ : ∃ less, fuel = less + 1 := ⟨fuel - 1, by simp at enough; omega⟩
      rw [List.flatMap_cons]
      cases stream : chunk.bytes ++ chunks.flatMap Chunk.bytes with
      | nil => exact absurd (List.append_eq_nil_iff.mp stream).1 chunk.bytes_ne_nil
      | cons byte after =>
          rw [readChunks, ← stream, readChunk_append first]
          · simp only [Option.bind_eq_bind, Option.bind_some, ih (by simpa using enough) others]
            rfl
          · intro empty
            cases empty

end Chunks

/-! ## Scanlines -/

structure Pixel where
  red : UInt8
  green : UInt8
  blue : UInt8
  deriving DecidableEq, Repr

def Pixel.bytes (pixel : Pixel) : Bytes :=
  [pixel.red, pixel.green, pixel.blue]

def readPixels : Nat → Bytes → Option (List Pixel × Bytes)
  | 0, stream => some ([], stream)
  | count + 1, red :: green :: blue :: stream => do
      let (pixels, rest) ← readPixels count stream
      return (⟨red, green, blue⟩ :: pixels, rest)
  | _ + 1, _ => none

/-- The filter type `0`, and the pixels. -/
def scanline (pixels : List Pixel) : Bytes :=
  0 :: pixels.flatMap Pixel.bytes

def readScanline (width : Nat) : Bytes → Option (List Pixel × Bytes)
  | [] => none
  | filter :: stream => if filter = 0 then readPixels width stream else none

/-- So many scanlines, and nothing behind them. -/
def readScanlines (width : Nat) : Nat → Bytes → Option (List (List Pixel))
  | 0, [] => some []
  | 0, _ :: _ => none
  | height + 1, stream => do
      let (pixels, rest) ← readScanline width stream
      let rows ← readScanlines width height rest
      return pixels :: rows

theorem readPixels_append (pixels : List Pixel) (rest : Bytes) :
    readPixels pixels.length (pixels.flatMap Pixel.bytes ++ rest) = some (pixels, rest) := by
  induction pixels with
  | nil => rfl
  | cons pixel pixels ih =>
      rw [List.flatMap_cons, List.append_assoc]
      simp only [Pixel.bytes, List.cons_append, List.nil_append, List.length_cons, readPixels, ih,
        Option.bind_eq_bind, Option.bind_some]
      rfl

theorem readScanline_append (pixels : List Pixel) (rest : Bytes) :
    readScanline pixels.length (scanline pixels ++ rest) = some (pixels, rest) := by
  rw [scanline, List.cons_append, readScanline, if_pos rfl, readPixels_append]

theorem readScanlines_flatMap {width : Nat} {rows : List (List Pixel)}
    (full : ∀ row ∈ rows, row.length = width) :
    readScanlines width rows.length (rows.flatMap scanline) = some rows := by
  induction rows with
  | nil => rfl
  | cons row rows ih =>
      obtain ⟨first, others⟩ := List.forall_mem_cons.mp full
      have read : readScanline width (scanline row ++ rows.flatMap scanline) =
          some (row, rows.flatMap scanline) := by
        rw [← first]
        exact readScanline_append row _
      simp only [List.flatMap_cons, List.length_cons, readScanlines, read, ih others,
        Option.bind_eq_bind, Option.bind_some]
      rfl

/-! ## Images -/

structure Image where
  width : Nat
  height : Nat
  rows : List (List Pixel)
  deriving DecidableEq, Repr

def signature : Bytes :=
  [0x89, 0x50, 0x4e, 0x47, 0x0d, 0x0a, 0x1a, 0x0a]

def headerTag : Bytes := encodeUtf8 "IHDR"

def dataTag : Bytes := encodeUtf8 "IDAT"

def endTag : Bytes := encodeUtf8 "IEND"

/-- Eight bits a sample, true colour, and the first of the methods each. -/
def colourFields : Bytes :=
  [8, 2, 0, 0, 0]

def headerChunk (width height : Nat) : Chunk :=
  ⟨headerTag, bigEndian 4 width ++ bigEndian 4 height ++ colourFields⟩

def readHeader (chunk : Chunk) : Option (Nat × Nat) :=
  let width := fromBigEndian (chunk.data.take 4)
  let height := fromBigEndian ((chunk.data.drop 4).take 4)
  if chunk.tag = headerTag ∧ chunk.data.drop 8 = colourFields ∧
      (0 < width ∧ width < 2 ^ 31) ∧ (0 < height ∧ height < 2 ^ 31) then
    some (width, height)
  else none

def decodeChunks (inflate : Bytes → Option Bytes) : List Chunk → Option Image
  | [] => none
  | header :: others => do
      let (width, height) ← readHeader header
      let packed := others.dropLast
      guard (others.getLast? = some ⟨endTag, []⟩ ∧ packed ≠ [] ∧
        ∀ chunk ∈ packed, chunk.tag = dataTag)
      let raw ← inflate (packed.flatMap Chunk.data)
      let rows ← readScanlines width height raw
      return ⟨width, height, rows⟩

def decode (inflate : Bytes → Option Bytes) (file : Bytes) : Option Image :=
  if file.take 8 = signature then do
    let chunks ← readChunks file.length (file.drop 8)
    decodeChunks inflate chunks
  else none

namespace Image

/-- An image that the format has room for, and whose rows fill it. -/
structure Proper (image : Image) : Prop where
  width : 0 < image.width ∧ image.width < 2 ^ 31
  height : 0 < image.height ∧ image.height < 2 ^ 31
  rows : image.rows.length = image.height
  full : ∀ row ∈ image.rows, row.length = image.width

def scanlines (image : Image) : Bytes :=
  image.rows.flatMap scanline

def chunks (image : Image) (packed : Bytes) : List Chunk :=
  [headerChunk image.width image.height, ⟨dataTag, packed⟩, ⟨endTag, []⟩]

/-- The file with the compressed scanlines in one chunk. -/
def file (image : Image) (packed : Bytes) : Bytes :=
  signature ++ (image.chunks packed).flatMap Chunk.bytes

end Image

section Images

variable {inflate : Bytes → Option Bytes} {image : Image} {packed : Bytes}

theorem readHeader_headerChunk (proper : image.Proper) :
    readHeader (headerChunk image.width image.height) = some (image.width, image.height) := by
  have first := length_bigEndian 4 image.width
  have second := length_bigEndian 4 image.height
  have width : fromBigEndian (bigEndian 4 image.width) = image.width :=
    fromBigEndian_bigEndian (proper.width.2.trans (by decide))
  have height : fromBigEndian (bigEndian 4 image.height) = image.height :=
    fromBigEndian_bigEndian (proper.height.2.trans (by decide))
  have behind : (bigEndian 4 image.width ++ (bigEndian 4 image.height ++ colourFields)).drop 8 =
      colourFields := by
    rw [show 8 = 4 + 4 from rfl, ← List.drop_drop, List.drop_left' first, List.drop_left' second]
  simp only [readHeader, headerChunk, List.append_assoc, List.take_left' first,
    List.drop_left' first, List.take_left' second, width, height, behind]
  rw [if_pos ⟨trivial, trivial, proper.width, proper.height⟩]

theorem Image.chunks_fit (short : packed.length < 2 ^ 31) :
    ∀ chunk ∈ image.chunks packed, chunk.Fits := by
  intro chunk member
  simp only [Image.chunks, List.mem_cons, List.not_mem_nil, or_false] at member
  rcases member with rfl | rfl | rfl
  · exact ⟨rfl, by simp [headerChunk, colourFields]⟩
  · exact ⟨rfl, short⟩
  · exact ⟨rfl, by simp⟩

theorem decodeChunks_chunks (proper : image.Proper)
    (inflates : inflate packed = some image.scanlines) :
    decodeChunks inflate (image.chunks packed) = some image := by
  have rows : readScanlines image.width image.height image.scanlines = some image.rows := by
    rw [← proper.rows]
    exact readScanlines_flatMap proper.full
  simp only [Image.chunks, decodeChunks, readHeader_headerChunk proper, Option.bind_eq_bind,
    Option.bind_some, List.dropLast_cons_cons, List.dropLast_singleton, List.flatMap_singleton,
    inflates, rows]
  rfl

theorem decode_file (proper : image.Proper) (short : packed.length < 2 ^ 31)
    (inflates : inflate packed = some image.scanlines) :
    decode inflate (image.file packed) = some image := by
  have signed : (image.file packed).take 8 = signature := List.take_left' rfl
  have behind : (image.file packed).drop 8 = (image.chunks packed).flatMap Chunk.bytes :=
    List.drop_left' rfl
  have enough : (image.chunks packed).length ≤ (image.file packed).length := by
    simp only [Image.file, signature, List.length_append, List.length_cons, Image.chunks,
      List.length_nil]
    omega
  rw [decode, if_pos signed, behind, readChunks_append enough (Image.chunks_fit short)]
  exact decodeChunks_chunks proper inflates

end Images

end PngImage
