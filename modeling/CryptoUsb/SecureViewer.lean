import CryptoUsb.ByteStrings
import CryptoUsb.Errors
import CryptoUsb.ScreenCapture
import CryptoUsb.TransitionRuns
import Mathlib.Algebra.Order.Ring.Rat

/-!
# The secure viewer

The window that shows decrypted content, from its first display to its teardown: its stacked
views, the buffers that the PDF and the video view read from, the zoom, the watcher for the Print
Screen key, the capture protection and the signal that tells of the teardown.  A view is recorded
by the bytes that it renders.
-/

namespace CryptoUsb

open ByteString TransitionRuns

/-! ## The window -/

/-- A `QBuffer` of the window.  Closed buffers stay with their parent. -/
structure QBuffer where
  data : Bytes
  isOpen : Bool := true

/-- Close the buffer at a place, if there is one. -/
def QBuffer.closeAt (buffers : List QBuffer) : Option Nat → List QBuffer
  | some index => buffers.modify index fun buffer => { buffer with isOpen := false }
  | none => buffers

/-- What an image decodes to. -/
structure Pixmap where
  content : Bytes
  width : Nat
  height : Nat

/-- What the label shows: nothing, an image at a zoom factor, or a notice. -/
inductive LabelContent
  | empty
  | picture (pixmap : Pixmap) (factor : ℚ)
  | notice (text : String)

/-- The widgets of the stack. -/
inductive StackPage
  | text
  | label
  | pdf
  | video
  deriving DecidableEq, Repr

inductive PdfZoomMode
  | custom
  | fitToWidth
  deriving DecidableEq, Repr

structure QSize where
  width : Int
  height : Int

/-- The size of the window, and the size that its layout asks for. -/
structure WindowGeometry where
  size : QSize
  sizeHint : QSize

/-- What Qt makes of bytes: the size of an image, if it can decode one. -/
structure ImageDecoder where
  fromData : Bytes → Option (Nat × Nat)

structure SecureViewerWidget where
  textView : Option Bytes := none
  labelView : LabelContent := .empty
  originalImagePixmap : Option Pixmap := none
  imageZoomFactor : ℚ := 1
  pdfDocument : Option Bytes := none
  pdfZoomMode : PdfZoomMode := .custom
  pdfZoomFactor : ℚ := 1
  /-- The places of the two readers in `buffers`. -/
  pdfBuffer : Option Nat := none
  videoBuffer : Option Nat := none
  isPlaying : Bool := false
  buffers : List QBuffer := []
  currentWidget : StackPage := .text
  zoomToolbarVisible : Bool := true
  videoControlsVisible : Bool := false
  watcher : PrintScreenWatcher := {}
  captureProtection : Option CaptureProtectionResult := none
  affinity : DisplayAffinity := .none
  /-- Whether `_on_screen_capture_detected` is set. -/
  hasCaptureHandler : Bool := false
  isClosed : Bool := false

/-- What a call on the window lets its surroundings notice, in order. -/
inductive ViewerSignal
  | runtimeError (message : String)
  | captureHandled (ends : Raises Unit)
  | closed

namespace SecureViewerWidget

def contentTypeTxt : String := "text/plain"

def contentTypePdf : String := "application/pdf"

def contentTypeMp4 : String := "video/mp4"

def imagePrefix : String := "image/"

def zoomStep : ℚ := 5 / 4

def zoomMin : ℚ := 1 / 4

def zoomMax : ℚ := 4

/-! ## Buffers -/

/-- A new buffer with this content, opened. -/
def openBuffer (viewer : SecureViewerWidget) (content : Bytes) : SecureViewerWidget :=
  { viewer with buffers := viewer.buffers ++ [{ data := content }] }

def stopVideo (viewer : SecureViewerWidget) : SecureViewerWidget :=
  { viewer with
    isPlaying := false
    buffers := QBuffer.closeAt viewer.buffers viewer.videoBuffer
    videoBuffer := none }

/-- The document is closed, and its buffer. -/
def closePdf (viewer : SecureViewerWidget) : SecureViewerWidget :=
  { viewer with
    pdfDocument := none
    buffers := QBuffer.closeAt viewer.buffers viewer.pdfBuffer
    pdfBuffer := none }

/-! ## Display -/

def computeImageFitFactor (geometry : WindowGeometry) (pixmap : Pixmap) : ℚ :=
  let available :=
    if geometry.size.width < 100 ∨ geometry.size.height < 100 then geometry.sizeHint
    else geometry.size
  if pixmap.width ≤ 0 ∨ pixmap.height ≤ 0 then 1
  else
    max zoomMin (min 1 (min (available.width / pixmap.width) (available.height / pixmap.height)))

def renderImage (viewer : SecureViewerWidget) : SecureViewerWidget :=
  match viewer.originalImagePixmap with
  | none => viewer
  | some pixmap => { viewer with labelView := .picture pixmap viewer.imageZoomFactor }

def showText (viewer : SecureViewerWidget) (content : Bytes) : SecureViewerWidget :=
  { viewer with textView := some content, currentWidget := .text }

def showUnsupported (viewer : SecureViewerWidget) (contentType : String) : SecureViewerWidget :=
  { viewer with
    originalImagePixmap := none
    labelView := .notice s!"Unsupported content type: {contentType}"
    currentWidget := .label }

def showImage (decoder : ImageDecoder) (geometry : WindowGeometry) (viewer : SecureViewerWidget)
    (content : Bytes) : SecureViewerWidget :=
  match decoder.fromData content with
  | none => viewer.showUnsupported "image (unrecognized or corrupt format)"
  | some (width, height) =>
      let pixmap : Pixmap := ⟨content, width, height⟩
      renderImage { viewer with
        originalImagePixmap := some pixmap
        currentWidget := .label
        imageZoomFactor := computeImageFitFactor geometry pixmap }

/-- The new buffer is opened before the old one is closed. -/
def showPdf (viewer : SecureViewerWidget) (content : Bytes) : SecureViewerWidget :=
  { (viewer.openBuffer content).closePdf with
    pdfBuffer := some viewer.buffers.length
    pdfDocument := some content
    pdfZoomMode := .fitToWidth
    currentWidget := .pdf }

def showVideo (viewer : SecureViewerWidget) (content : Bytes) : SecureViewerWidget :=
  { viewer.openBuffer content with
    videoBuffer := some viewer.buffers.length
    currentWidget := .video
    isPlaying := true }

def display (decoder : ImageDecoder) (geometry : WindowGeometry) (viewer : SecureViewerWidget)
    (content : Bytes) (contentType : String) : SecureViewerWidget × List ViewerSignal :=
  if viewer.isClosed then
    (viewer, [.runtimeError "Cannot display content on a closed SecureViewerWidget"])
  else
    let isVideo := contentType == contentTypeMp4
    let viewer := { viewer.stopVideo with
      zoomToolbarVisible := !isVideo
      videoControlsVisible := isVideo }
    if contentType = contentTypeTxt then (viewer.showText content, [])
    else if contentType = contentTypePdf then (viewer.showPdf content, [])
    else if contentType.startsWith imagePrefix then
      (viewer.showImage decoder geometry content, [])
    else if isVideo then (viewer.showVideo content, [])
    else (viewer.showUnsupported contentType, [])

def toggleVideoPlayback (viewer : SecureViewerWidget) : SecureViewerWidget :=
  { viewer with isPlaying := !viewer.isPlaying }

/-! ## Zoom -/

def setPdfZoomFactor (viewer : SecureViewerWidget) (factor : ℚ) : SecureViewerWidget :=
  { viewer with
    pdfZoomMode := .custom
    pdfZoomFactor := max zoomMin (min zoomMax factor) }

/-- The image at another zoom factor, if there is one. -/
def setImageZoomFactor (viewer : SecureViewerWidget) (factor : Pixmap → ℚ) :
    SecureViewerWidget :=
  match viewer.originalImagePixmap with
  | none => viewer
  | some pixmap => renderImage { viewer with imageZoomFactor := factor pixmap }

/-- The font of the text view, and a video, show nothing else when they are zoomed. -/
def zoomIn (viewer : SecureViewerWidget) : SecureViewerWidget :=
  match viewer.currentWidget with
  | .pdf => viewer.setPdfZoomFactor (viewer.pdfZoomFactor * zoomStep)
  | .label => viewer.setImageZoomFactor fun _ => min zoomMax (viewer.imageZoomFactor * zoomStep)
  | .text | .video => viewer

def zoomOut (viewer : SecureViewerWidget) : SecureViewerWidget :=
  match viewer.currentWidget with
  | .pdf => viewer.setPdfZoomFactor (viewer.pdfZoomFactor / zoomStep)
  | .label => viewer.setImageZoomFactor fun _ => max zoomMin (viewer.imageZoomFactor / zoomStep)
  | .text | .video => viewer

def zoomFit (geometry : WindowGeometry) (viewer : SecureViewerWidget) : SecureViewerWidget :=
  match viewer.currentWidget with
  | .pdf => { viewer with pdfZoomMode := .fitToWidth }
  | .label => viewer.setImageZoomFactor (computeImageFitFactor geometry)
  | .text | .video => viewer

/-! ## Lifecycle -/

def showEvent (window : NativeWindow) (viewer : SecureViewerWidget)
    (calls : NativeWindow.AffinityCalls) : SecureViewerWidget :=
  let applied := window.applyCaptureProtection calls viewer.affinity
  { viewer with
    affinity := applied.1
    captureProtection := some applied.2
    watcher := viewer.watcher.start window }

def captureProtectionLevel (viewer : SecureViewerWidget) : CaptureProtectionLevel :=
  match viewer.captureProtection with
  | none => .none
  | some result => result.level

/-- All rendered content is cleared. -/
def blank (viewer : SecureViewerWidget) : SecureViewerWidget :=
  stopVideo (closePdf { viewer with
    textView := none
    labelView := .empty
    originalImagePixmap := none })

def teardown (window : NativeWindow) (viewer : SecureViewerWidget) (removal : ApiCall) :
    SecureViewerWidget × List ViewerSignal :=
  if viewer.isClosed then (viewer, [])
  else
    let blanked := blank { viewer with isClosed := true }
    ({ blanked with
        watcher := blanked.watcher.stop
        affinity := match viewer.captureProtection with
          | some _ => window.removeCaptureProtection removal viewer.affinity
          | none => viewer.affinity
        captureProtection := none }, [.closed])

/-- `_on_printscreen_detected`.  A handler that raises keeps the rest from running. -/
def onPrintscreenDetected (window : NativeWindow) (viewer : SecureViewerWidget)
    (handlerEnds : Raises Unit) (removal : ApiCall) : SecureViewerWidget × List ViewerSignal :=
  let blankAndClose := viewer.blank.teardown window removal
  if viewer.hasCaptureHandler then
    match handlerEnds with
    | .ok () => (blankAndClose.1, .captureHandled handlerEnds :: blankAndClose.2)
    | .error _ => (viewer, [.captureHandled handlerEnds])
  else blankAndClose

/-- One tick of the watcher's timer. -/
def poll (window : NativeWindow) (viewer : SecureViewerWidget) (answer : Option (BitVec 32))
    (handlerEnds : Raises Unit) (removal : ApiCall) : SecureViewerWidget × List ViewerSignal :=
  let isDown := PrintScreenWatcher.isKeyDown window answer
  let detected :=
    if viewer.watcher.detects isDown then viewer.onPrintscreenDetected window handlerEnds removal
    else (viewer, [])
  ({ detected.1 with watcher := detected.1.watcher.polled isDown }, detected.2)

end SecureViewerWidget

end CryptoUsb
