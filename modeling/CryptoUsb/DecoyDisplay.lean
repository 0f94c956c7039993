import CryptoUsb.DeceptionEngine
import CryptoUsb.ViewerDesk

/-!
# The display of decoys

A decoy is displayed under the MIME type of its kind, a plaintext under what its bytes are taken
for.  For every kind of decoy but one there is a plaintext for which the page opens the very same
viewer.
-/

namespace CryptoUsb

open ByteString RandomDraws ContentGenerators

namespace DecryptionPage

/-! ## What bytes are taken for -/

/-- What the first eight bytes are the signature of. -/
def signatureOf (head : Bytes) : Option String :=
  if pdfMagic.isPrefixOf head then some "application/pdf"
  else if pngMagic.isPrefixOf head then some "image/png"
  else if jpegMagic.isPrefixOf head then some "image/jpeg"
  else if gifMagics.contains (head.take 6) then some "image/gif"
  else if (head.drop 4).take 4 = isoBmffBoxType then some "video/mp4"
  else none

/-- What bytes without a signature are taken for. -/
def textOrBinary (content : Bytes) : String :=
  match decodeUtf8Bytes content with
  | .ok _ => "text/plain"
  | .error _ => "application/octet-stream"

theorem isPrefixOf_take {magic : Bytes} {count : Nat} (short : magic.length ≤ count)
    (content : Bytes) : magic.isPrefixOf (content.take count) = magic.isPrefixOf content := by
  rw [Bool.eq_iff_iff, List.isPrefixOf_iff_prefix, List.isPrefixOf_iff_prefix,
    List.prefix_take_iff]
  exact and_iff_left short

theorem sniffContentType_eq (content : Bytes) :
    sniffContentType content = (signatureOf (content.take 8)).getD (textOrBinary content) := by
  have six : (content.take 8).take 6 = content.take 6 := by rw [List.take_take]; rfl
  have box : ((content.take 8).drop 4).take 4 = (content.drop 4).take 4 := by
    rw [List.drop_take, List.take_take]
    rfl
  have pdf := isPrefixOf_take (show pdfMagic.length ≤ 8 by decide) content
  have png := isPrefixOf_take (show pngMagic.length ≤ 8 by decide) content
  have jpeg := isPrefixOf_take (show jpegMagic.length ≤ 8 by decide) content
  simp only [sniffContentType, signatureOf, pdf, png, jpeg, six, box, List.contains_iff_mem]
  split_ifs <;> rfl

theorem sniffContentType_of_signature {content : Bytes} {contentType : String}
    (signed : signatureOf (content.take 8) = some contentType) :
    sniffContentType content = contentType := by
  rw [sniffContentType_eq, signed]
  rfl

theorem sniffContentType_pdf {pdf : Bytes} (headed : DecoyContent.pdfHeader <+: pdf) :
    sniffContentType pdf = "application/pdf" := by
  obtain ⟨rest, rfl⟩ := headed
  apply sniffContentType_of_signature
  rw [List.take_append_of_le_length (by decide)]
  decide

theorem sniffContentType_png {inflate : Bytes → Option Bytes} {file : Bytes}
    {image : PngImage.Image} (decodes : PngImage.decode inflate file = some image) :
    sniffContentType file = "image/png" := by
  apply sniffContentType_of_signature
  rw [PngImage.decode] at decodes
  split at decodes
  case isTrue signed =>
    rw [signed]
    decide
  case isFalse => cases decodes

theorem signatureOf_title : ∀ title ∈ DecoyContent.titles, 8 ≤ (encodeUtf8 title).length ∧
    signatureOf ((encodeUtf8 title).take 8) = none := by
  decide

theorem sniffContentType_text (draws : DecoyContent.TextDraws) :
    sniffContentType (DecoyContent.generateFakeText draws) = "text/plain" := by
  obtain ⟨long, unsigned⟩ := signatureOf_title (DecoyContent.titles.get draws.title)
    (List.get_mem _ _)
  have decoded : textOrBinary (DecoyContent.generateFakeText draws) = "text/plain" := by
    rw [textOrBinary, DecoyContent.generateFakeText, decodeUtf8Bytes_encodeUtf8]
  have head : (DecoyContent.generateFakeText draws).take 8 =
      (encodeUtf8 (DecoyContent.titles.get draws.title)).take 8 := by
    simp only [DecoyContent.generateFakeText, encodeUtf8_append, List.append_assoc]
    exact List.take_append_of_le_length long
  rw [sniffContentType_eq, head, unsigned, decoded]
  rfl

/-- What a plaintext can be taken for. -/
theorem sniffContentType_mem (content : Bytes) : sniffContentType content ∈
    ["application/pdf", "image/png", "image/jpeg", "image/gif", "video/mp4", "text/plain",
      "application/octet-stream"] := by
  unfold sniffContentType
  split_ifs
  all_goals first
    | decide
    | split <;> decide

end DecryptionPage

/-! ## The viewer of a decoy -/

/-- A decoy of text, a PDF or an image is taken for what it is. -/
theorem DeceptionEngine.WellFormed.sniffed {State : Type} {engine : DeceptionEngine State}
    {now : IsoDateTime.UtcInstant} {fileId : Option String} {content : Bytes}
    {contentType : DeceptionContentType}
    (wellFormed : engine.WellFormed now fileId content contentType)
    (readable : contentType ∈ [DeceptionContentType.fakeText, .fakePdf, .fakeImage]) :
    DecryptionPage.sniffContentType content = contentType.mimeType := by
  cases contentType with
  | fakeText =>
      obtain ⟨draws, rfl⟩ := wellFormed
      exact DecryptionPage.sniffContentType_text draws
  | fakePdf => exact DecryptionPage.sniffContentType_pdf wellFormed.1
  | fakeImage =>
      obtain ⟨rows, decodes, -⟩ := wellFormed
      exact DecryptionPage.sniffContentType_png decodes
  | corruptedData => simp at readable
  | fakeMetadata => simp at readable

section Viewers

variable {decoder : ImageDecoder} {window : NativeWindow} {geometry : WindowGeometry}
  {calls : NativeWindow.AffinityCalls}

/-- The viewer that the page opens on some content. -/
def ViewerDesk.viewerOf (decoder : ImageDecoder) (window : NativeWindow)
    (geometry : WindowGeometry) (calls : NativeWindow.AffinityCalls) (content : Bytes)
    (contentType : String) : SecureViewerWidget :=
  openViewer decoder window (openingEvents geometry calls [(content, contentType)])

theorem notice_injective {first second : String}
    (same : s!"Unsupported content type: {first}" = s!"Unsupported content type: {second}") :
    first = second := by
  have characters := congrArg String.toList same
  simp only [toString, String.toList_append, List.append_cancel_left_eq] at characters
  exact String.toList_inj.mp characters

/-- The notice about a content type is given for that type only, but for the one about images. -/
theorem eq_of_noticed {content : Bytes} {contentType other : String}
    (noticed : (ViewerDesk.viewerOf decoder window geometry calls content contentType).labelView =
      .notice s!"Unsupported content type: {other}")
    (notImage : other ≠ "image (unrecognized or corrupt format)") : contentType = other := by
  have displayed : (ViewerDesk.viewerOf decoder window geometry calls content
      contentType).labelView =
        (({} : SecureViewerWidget).display decoder geometry content contentType).1.labelView :=
    rfl
  rw [displayed] at noticed
  simp only [SecureViewerWidget.display, Bool.false_eq_true, if_false] at noticed
  split_ifs at noticed
  · cases noticed
  · cases noticed
  · simp only [SecureViewerWidget.showImage] at noticed
    split at noticed
    · exact absurd (notice_injective (LabelContent.notice.inj noticed)).symm notImage
    · cases noticed
  · cases noticed
  · exact notice_injective (LabelContent.notice.inj noticed)

/-- A content type that the viewer has no view for. -/
structure Undisplayed (contentType : String) : Prop where
  notText : contentType ≠ SecureViewerWidget.contentTypeTxt
  notPdf : contentType ≠ SecureViewerWidget.contentTypePdf
  notImage : contentType.startsWith SecureViewerWidget.imagePrefix = false
  notVideo : contentType ≠ SecureViewerWidget.contentTypeMp4

theorem undisplayed_json : Undisplayed "application/json" :=
  ⟨by decide, by decide, by decide +kernel, by decide⟩

theorem undisplayed_octetStream : Undisplayed "application/octet-stream" :=
  ⟨by decide, by decide, by decide +kernel, by decide⟩

variable {contentType : String}

theorem Undisplayed.display (undisplayed : Undisplayed contentType) (content : Bytes) :
    ({} : SecureViewerWidget).display decoder geometry content contentType =
      (SecureViewerWidget.showUnsupported {} contentType, []) := by
  have notVideo := beq_eq_false_iff_ne.mpr undisplayed.notVideo
  simp [SecureViewerWidget.display, undisplayed.notText, undisplayed.notPdf, undisplayed.notImage,
    notVideo, SecureViewerWidget.stopVideo, QBuffer.closeAt]

theorem Undisplayed.viewerOf_eq (undisplayed : Undisplayed contentType) (content other : Bytes) :
    ViewerDesk.viewerOf decoder window geometry calls content contentType =
      ViewerDesk.viewerOf decoder window geometry calls other contentType := by
  simp only [ViewerDesk.viewerOf, ViewerDesk.openViewer, ViewerDesk.openingEvents,
    ViewerDesk.displayEvents, List.map_cons, List.map_nil, List.singleton_append,
    List.foldl_cons, SecureViewerWidget.respond, undisplayed.display content,
    undisplayed.display other]

theorem Undisplayed.labelView (undisplayed : Undisplayed contentType) (content : Bytes) :
    (ViewerDesk.viewerOf decoder window geometry calls content contentType).labelView =
      .notice s!"Unsupported content type: {contentType}" := by
  show (({} : SecureViewerWidget).display decoder geometry content _).1.labelView = _
  rw [undisplayed.display]
  rfl

variable {State : Type} {engine : DeceptionEngine State}

/-- The page opens the viewer of the decoy for some plaintext as well, unless the decoy is fake
metadata. -/
theorem exists_plaintext_iff {activation : Activation} {response : DeceptionResponse}
    (answers : engine.Answers activation response) :
    (∃ plaintext, ViewerDesk.viewerOf decoder window geometry calls plaintext
        (DecryptionPage.sniffContentType plaintext) =
      ViewerDesk.viewerOf decoder window geometry calls response.content response.mimeType) ↔
      response.contentType ≠ .fakeMetadata := by
  have sniffed := @DeceptionEngine.WellFormed.sniffed _ _ _ _ _ _ answers.content
  rw [answers.mimeType]
  generalize response.content = content at sniffed
  generalize response.contentType = kind at sniffed
  cases kind with
  | fakeText => exact iff_of_true ⟨content, by rw [sniffed (by simp)]⟩ (by simp)
  | fakePdf => exact iff_of_true ⟨content, by rw [sniffed (by simp)]⟩ (by simp)
  | fakeImage => exact iff_of_true ⟨content, by rw [sniffed (by simp)]⟩ (by simp)
  | corruptedData =>
      have binary : DecryptionPage.sniffContentType [0xff] = "application/octet-stream" := by
        decide +kernel
      refine iff_of_true ⟨[0xff], ?_⟩ (by simp)
      rw [binary]
      exact undisplayed_octetStream.viewerOf_eq _ _
  | fakeMetadata =>
      refine iff_of_false ?_ (by simp)
      rintro ⟨plaintext, same⟩
      have noticed :=
        @Undisplayed.labelView decoder window geometry calls _ undisplayed_json content
      rw [DeceptionContentType.mimeType] at same
      rw [← same] at noticed
      have taken := DecryptionPage.sniffContentType_mem plaintext
      rw [eq_of_noticed noticed (by decide)] at taken
      exact absurd taken (by decide)

/-- Whatever is activated, the viewer that is opened on the decoy is one that could have been
opened on a decrypted file, exactly if the decoy is not fake metadata. -/
theorem decoys_viewed_as_genuine (documented : engine.Documented) (activation : Activation) :
    Always (engine.activate activation) fun returned => ∃ response, returned = some response ∧
      ∀ decoder window geometry calls,
        (∃ plaintext, ViewerDesk.viewerOf decoder window geometry calls plaintext
            (DecryptionPage.sniffContentType plaintext) =
          ViewerDesk.viewerOf decoder window geometry calls response.content response.mimeType) ↔
        response.contentType ≠ .fakeMetadata := by
  refine (DeceptionEngine.activate_always documented activation).imp fun returned activated => ?_
  obtain ⟨response, rfl, answers⟩ := activated
  exact ⟨response, rfl, fun _ _ _ _ => exists_plaintext_iff answers⟩

end Viewers

theorem decoys_viewed_as_genuine_counting :
    Always (countingEngine.activate ⟨.deviceMismatch, none, none, none, plainInstant, plainInstant⟩)
      fun returned => ∃ response, returned = some response ∧ ∀ decoder window geometry calls,
        (∃ plaintext, ViewerDesk.viewerOf decoder window geometry calls plaintext
            (DecryptionPage.sniffContentType plaintext) =
          ViewerDesk.viewerOf decoder window geometry calls response.content response.mimeType) ↔
        response.contentType ≠ .fakeMetadata :=
  decoys_viewed_as_genuine countingEngine_documented _

end CryptoUsb
