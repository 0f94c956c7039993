import CryptoUsb.SecureAccess

/-!
# Content types

What the decryption page takes decrypted bytes for, and the kinds of content that the deception
engine makes up.
-/

namespace CryptoUsb

open ByteString

namespace DecryptionPage

def pngMagic : Bytes := [0x89, 0x50, 0x4e, 0x47, 0x0d, 0x0a, 0x1a, 0x0a]

def jpegMagic : Bytes := [0xff, 0xd8]

def gifMagics : List Bytes := [encodeUtf8 "GIF87a", encodeUtf8 "GIF89a"]

def pdfMagic : Bytes := encodeUtf8 "%PDF-"

def isoBmffBoxType : Bytes := encodeUtf8 "ftyp"

/-- `_sniff_content_type`. -/
def sniffContentType (content : Bytes) : String :=
  if pdfMagic.isPrefixOf content then "application/pdf"
  else if pngMagic.isPrefixOf content then "image/png"
  else if jpegMagic.isPrefixOf content then "image/jpeg"
  else if content.take 6 ∈ gifMagics then "image/gif"
  else if (content.drop 4).take 4 = isoBmffBoxType then "video/mp4"
  else
    match decodeUtf8Bytes content with
    | .ok _ => "text/plain"
    | .error _ => "application/octet-stream"

end DecryptionPage

inductive DeceptionContentType
  | fakeText
  | fakePdf
  | fakeImage
  | corruptedData
  | fakeMetadata
  deriving DecidableEq, Repr

namespace DeceptionContentType

/-- `list(DeceptionContentType)`. -/
def all : List DeceptionContentType :=
  [.fakeText, .fakePdf, .fakeImage, .corruptedData, .fakeMetadata]

def value : DeceptionContentType → String
  | .fakeText => "fake_text"
  | .fakePdf => "fake_pdf"
  | .fakeImage => "fake_image"
  | .corruptedData => "corrupted_data"
  | .fakeMetadata => "fake_metadata"

/-- `MIME_TYPES`. -/
def mimeType : DeceptionContentType → String
  | .fakeText => "text/plain"
  | .fakePdf => "application/pdf"
  | .fakeImage => "image/png"
  | .corruptedData => "application/octet-stream"
  | .fakeMetadata => "application/json"

/-- `_EXTENSIONS`. -/
def fileExtension : DeceptionContentType → String
  | .fakeText => "txt"
  | .fakePdf => "pdf"
  | .fakeImage => "png"
  | .corruptedData => "bin"
  | .fakeMetadata => "json"

end DeceptionContentType

/-- What is handed back in place of a denial. -/
structure DeceptionResponse where
  trigger : DeceptionTrigger
  contentType : DeceptionContentType
  content : Bytes
  mimeType : String
  filename : String
  generatedAt : IsoDateTime.UtcInstant

end CryptoUsb
