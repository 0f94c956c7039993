import CryptoUsb.SecureViewer
import Mathlib.Tactic.Linarith

/-!
# The life of a viewer

What a viewer shows along a run of displays, zooms, timer ticks and closings: the content that
was displayed last, until the viewer is closed, and nothing from then on.  It tells of its
teardown exactly once.
-/

namespace CryptoUsb

open ByteString TransitionRuns

/-! ## Open buffers -/

/-- Only the buffers at these places are open. -/
def QBuffer.OpenAmong (buffers : List QBuffer) (places : List Nat) : Prop :=
  ∀ (index : Nat) (buffer : QBuffer), buffers[index]? = some buffer → buffer.isOpen = true →
    index ∈ places

namespace QBuffer.OpenAmong

variable {buffers : List QBuffer} {places more : List Nat}

theorem mono (among : OpenAmong buffers places) (within : places ⊆ more) :
    OpenAmong buffers more :=
  fun index buffer present isOpen => within (among index buffer present isOpen)

theorem append (among : OpenAmong buffers places) (added : QBuffer) :
    OpenAmong (buffers ++ [added]) (buffers.length :: places) := by
  intro index buffer present isOpen
  rcases lt_trichotomy index buffers.length with inside | rfl | outside
  · rw [List.getElem?_append_left inside] at present
    exact List.mem_cons_of_mem _ (among index buffer present isOpen)
  · exact List.mem_cons_self
  · rw [List.getElem?_eq_none (by simp; omega)] at present
    cases present

theorem closeAt {place : Option Nat} (among : OpenAmong buffers (place.toList ++ places)) :
    OpenAmong (QBuffer.closeAt buffers place) places := by
  cases place with
  | none => exact among
  | some closed =>
      intro index buffer present isOpen
      rw [QBuffer.closeAt, List.getElem?_modify] at present
      obtain ⟨before, presentBefore, changed⟩ := Option.map_eq_some_iff.mp present
      by_cases isClosed : closed = index
      · rw [if_pos isClosed] at changed
        rw [← changed] at isOpen
        cases isOpen
      · rw [if_neg isClosed] at changed
        obtain rfl : before = buffer := changed
        rcases List.mem_append.mp (among index before presentBefore isOpen) with here | there
        · exact absurd (List.mem_singleton.mp here).symm isClosed
        · exact there

end QBuffer.OpenAmong

/-! ## What is seen -/

namespace SecureViewerWidget

/-- What can be read from a buffer. -/
def readable (viewer : SecureViewerWidget) (place : Option Nat) : Option Bytes :=
  place.bind fun index => (viewer.buffers[index]?.filter QBuffer.isOpen).map QBuffer.data

/-- The bytes that the current widget renders. -/
def shown (viewer : SecureViewerWidget) : Option Bytes :=
  match viewer.currentWidget with
  | .text => viewer.textView
  | .label =>
      match viewer.labelView with
      | .picture pixmap _ => some pixmap.content
      | .empty | .notice _ => none
  | .pdf => viewer.pdfDocument
  | .video => viewer.readable viewer.videoBuffer

/-- Nothing of any content is left in a view, and nothing watches or protects it. -/
structure Emptied (viewer : SecureViewerWidget) : Prop where
  textView : viewer.textView = none
  labelView : viewer.labelView = .empty
  originalImagePixmap : viewer.originalImagePixmap = none
  pdfDocument : viewer.pdfDocument = none
  pdfBuffer : viewer.pdfBuffer = none
  videoBuffer : viewer.videoBuffer = none
  watcher : viewer.watcher.isActive = false
  captureProtection : viewer.captureProtection = none

/-- The places that the two readers use. -/
def places (viewer : SecureViewerWidget) : List Nat :=
  viewer.pdfBuffer.toList ++ viewer.videoBuffer.toList

/-- What holds of a viewer in every state, apart from what it shows. -/
structure Ordered (viewer : SecureViewerWidget) : Prop where
  buffers : QBuffer.OpenAmong viewer.buffers viewer.places
  picture : ∀ pixmap, viewer.originalImagePixmap = some pixmap →
    ∃ factor, viewer.labelView = .picture pixmap factor
  level : viewer.captureProtectionLevel.affinity.strength ≤ viewer.affinity.strength
  imageZoom : zoomMin ≤ viewer.imageZoomFactor ∧ viewer.imageZoomFactor ≤ zoomMax
  pdfZoom : zoomMin ≤ viewer.pdfZoomFactor ∧ viewer.pdfZoomFactor ≤ zoomMax
  emptied : viewer.isClosed = true → viewer.Emptied

section Operations

variable {viewer : SecureViewerWidget} {decoder : ImageDecoder} {geometry : WindowGeometry}
  {window : NativeWindow}

theorem Emptied.shown (emptied : viewer.Emptied) : viewer.shown = none := by
  unfold SecureViewerWidget.shown
  cases viewer.currentWidget with
  | text => exact emptied.textView
  | label => simp only [emptied.labelView]
  | pdf => exact emptied.pdfDocument
  | video => simp only [emptied.videoBuffer, readable, Option.bind_none]

/-! ## What each operation keeps -/

theorem Ordered.stopVideo (ordered : viewer.Ordered) : viewer.stopVideo.Ordered where
  buffers := by
    have among : QBuffer.OpenAmong viewer.buffers
        (viewer.videoBuffer.toList ++ viewer.pdfBuffer.toList) :=
      ordered.buffers.mono (by simp [places])
    exact among.closeAt.mono (by simp [places, SecureViewerWidget.stopVideo])
  picture := ordered.picture
  level := ordered.level
  imageZoom := ordered.imageZoom
  pdfZoom := ordered.pdfZoom
  emptied isClosed := { ordered.emptied isClosed with videoBuffer := rfl }

theorem Ordered.showText (ordered : viewer.Ordered) (isOpen : viewer.isClosed = false)
    (content : Bytes) : (viewer.showText content).Ordered :=
  { ordered with emptied := fun isClosed => absurd (isOpen.symm.trans isClosed) (by simp) }

theorem Ordered.showUnsupported (ordered : viewer.Ordered) (isOpen : viewer.isClosed = false)
    (contentType : String) : (viewer.showUnsupported contentType).Ordered :=
  { ordered with
    picture := by
      intro pixmap shown
      cases shown
    emptied := fun isClosed => absurd (isOpen.symm.trans isClosed) (by simp) }

theorem zoomMin_le_one : zoomMin ≤ 1 := by
  norm_num [zoomMin]

theorem one_le_zoomMax : 1 ≤ zoomMax := by
  norm_num [zoomMax]

theorem computeImageFitFactor_within (geometry : WindowGeometry) (pixmap : Pixmap) :
    zoomMin ≤ computeImageFitFactor geometry pixmap ∧
      computeImageFitFactor geometry pixmap ≤ zoomMax := by
  by_cases isEmpty : pixmap.width ≤ 0 ∨ pixmap.height ≤ 0
  · simp only [computeImageFitFactor, if_pos isEmpty]
    exact ⟨zoomMin_le_one, one_le_zoomMax⟩
  · simp only [computeImageFitFactor, if_neg isEmpty]
    refine ⟨le_max_left _ _, max_le (zoomMin_le_one.trans one_le_zoomMax) ?_⟩
    exact (min_le_left _ _).trans one_le_zoomMax

theorem Ordered.renderImage (ordered : viewer.Ordered) (isOpen : viewer.isClosed = false)
    (pixmap : Pixmap) {factor : ℚ} (within : zoomMin ≤ factor ∧ factor ≤ zoomMax)
    (page : StackPage) :
    (SecureViewerWidget.renderImage { viewer with
      originalImagePixmap := some pixmap
      imageZoomFactor := factor
      currentWidget := page }).Ordered :=
  { ordered with
    picture := fun _ original => ⟨factor, by rw [← Option.some.inj original]; rfl⟩
    imageZoom := within
    emptied := fun isClosed => absurd (isOpen.symm.trans isClosed) (by simp) }

theorem Ordered.showImage (ordered : viewer.Ordered) (isOpen : viewer.isClosed = false)
    (content : Bytes) : (viewer.showImage decoder geometry content).Ordered := by
  unfold SecureViewerWidget.showImage
  cases decoder.fromData content with
  | none => exact ordered.showUnsupported isOpen _
  | some size =>
      exact ordered.renderImage isOpen _ (computeImageFitFactor_within geometry _) .label

theorem Ordered.showPdf (ordered : viewer.Ordered) (isOpen : viewer.isClosed = false)
    (content : Bytes) : (viewer.showPdf content).Ordered :=
  { ordered with
    buffers := by
      have among : QBuffer.OpenAmong (viewer.buffers ++ [{ data := content }])
          (viewer.pdfBuffer.toList ++ viewer.buffers.length :: viewer.videoBuffer.toList) := by
        apply (ordered.buffers.append { data := content }).mono
        simp [places]
      exact among.closeAt
    emptied := fun isClosed => absurd (isOpen.symm.trans isClosed) (by simp) }

theorem Ordered.showVideo (ordered : viewer.Ordered) (isOpen : viewer.isClosed = false)
    (stopped : viewer.videoBuffer = none) (content : Bytes) : (viewer.showVideo content).Ordered :=
  { ordered with
    buffers := by
      apply (ordered.buffers.append { data := content }).mono
      simp [places, stopped, SecureViewerWidget.showVideo, openBuffer]
    emptied := fun isClosed => absurd (isOpen.symm.trans isClosed) (by simp) }

theorem Ordered.display (ordered : viewer.Ordered) (content : Bytes) (contentType : String) :
    (viewer.display decoder geometry content contentType).1.Ordered := by
  unfold SecureViewerWidget.display
  cases isOpen : viewer.isClosed with
  | true => exact ordered
  | false =>
      have stopped : SecureViewerWidget.Ordered { viewer.stopVideo with
          zoomToolbarVisible := !(contentType == contentTypeMp4)
          videoControlsVisible := contentType == contentTypeMp4 } :=
        { ordered.stopVideo with
          emptied := fun isClosed => absurd (isOpen.symm.trans isClosed) (by simp) }
      simp only [Bool.false_eq_true, if_false]
      split_ifs
      · exact stopped.showText isOpen content
      · exact stopped.showPdf isOpen content
      · exact stopped.showImage isOpen content
      · exact stopped.showVideo isOpen rfl content
      · exact stopped.showUnsupported isOpen contentType

theorem Ordered.setPdfZoomFactor (ordered : viewer.Ordered) (factor : ℚ) :
    (viewer.setPdfZoomFactor factor).Ordered :=
  { ordered with
    pdfZoom := ⟨le_max_left _ _, max_le (zoomMin_le_one.trans one_le_zoomMax) (min_le_left _ _)⟩
    emptied := fun isClosed => { ordered.emptied isClosed with } }

theorem Ordered.setImageZoomFactor (ordered : viewer.Ordered) {factor : Pixmap → ℚ}
    (within : ∀ pixmap, zoomMin ≤ factor pixmap ∧ factor pixmap ≤ zoomMax) :
    (viewer.setImageZoomFactor factor).Ordered := by
  unfold SecureViewerWidget.setImageZoomFactor
  cases original : viewer.originalImagePixmap with
  | none => exact ordered
  | some pixmap =>
      have isOpen : viewer.isClosed = false := by
        by_contra isClosed
        have emptied := ordered.emptied (Bool.not_eq_false _ ▸ isClosed)
        cases original.symm.trans emptied.originalImagePixmap
      exact ordered.renderImage isOpen pixmap (within pixmap) viewer.currentWidget

theorem zoomMin_pos : 0 < zoomMin := by
  norm_num [zoomMin]

theorem zoomedIn_within {factor : ℚ} (within : zoomMin ≤ factor ∧ factor ≤ zoomMax) :
    zoomMin ≤ min zoomMax (factor * zoomStep) ∧ min zoomMax (factor * zoomStep) ≤ zoomMax := by
  refine ⟨le_min (zoomMin_le_one.trans one_le_zoomMax) ?_, min_le_left _ _⟩
  have positive := zoomMin_pos.trans_le within.1
  unfold zoomStep
  linarith [within.1]

theorem zoomedOut_within {factor : ℚ} (within : zoomMin ≤ factor ∧ factor ≤ zoomMax) :
    zoomMin ≤ max zoomMin (factor / zoomStep) ∧ max zoomMin (factor / zoomStep) ≤ zoomMax := by
  refine ⟨le_max_left _ _, max_le (zoomMin_le_one.trans one_le_zoomMax) ?_⟩
  have positive := zoomMin_pos.trans_le within.1
  unfold zoomStep
  linarith [within.2]

theorem Ordered.zoomIn (ordered : viewer.Ordered) : viewer.zoomIn.Ordered := by
  unfold SecureViewerWidget.zoomIn
  cases viewer.currentWidget with
  | pdf => exact ordered.setPdfZoomFactor _
  | label => exact ordered.setImageZoomFactor fun _ => zoomedIn_within ordered.imageZoom
  | text | video => exact ordered

theorem Ordered.zoomOut (ordered : viewer.Ordered) : viewer.zoomOut.Ordered := by
  unfold SecureViewerWidget.zoomOut
  cases viewer.currentWidget with
  | pdf => exact ordered.setPdfZoomFactor _
  | label => exact ordered.setImageZoomFactor fun _ => zoomedOut_within ordered.imageZoom
  | text | video => exact ordered

theorem Ordered.zoomFit (ordered : viewer.Ordered) : (viewer.zoomFit geometry).Ordered := by
  unfold SecureViewerWidget.zoomFit
  cases viewer.currentWidget with
  | pdf => exact { ordered with emptied := fun isClosed => { ordered.emptied isClosed with } }
  | label => exact ordered.setImageZoomFactor (computeImageFitFactor_within geometry)
  | text | video => exact ordered

theorem Ordered.showEvent (ordered : viewer.Ordered) (isOpen : viewer.isClosed = false)
    (calls : NativeWindow.AffinityCalls) : (viewer.showEvent window calls).Ordered :=
  { ordered with
    level := NativeWindow.applyCaptureProtection_covers
    emptied := fun isClosed => absurd (isOpen.symm.trans isClosed) (by simp) }

/-! ## Closing -/

theorem Ordered.blank (ordered : viewer.Ordered) : viewer.blank.Ordered where
  buffers := by
    have among : QBuffer.OpenAmong viewer.closePdf.buffers
        (viewer.videoBuffer.toList ++ []) :=
      QBuffer.OpenAmong.closeAt (ordered.buffers.mono (by simp [places]))
    exact among.closeAt
  picture := by
    intro pixmap shown
    cases shown
  level := ordered.level
  imageZoom := ordered.imageZoom
  pdfZoom := ordered.pdfZoom
  emptied isClosed :=
    { ordered.emptied isClosed with
      textView := rfl
      labelView := rfl
      originalImagePixmap := rfl
      pdfDocument := rfl
      pdfBuffer := rfl
      videoBuffer := rfl }

theorem teardown_of_open (isOpen : viewer.isClosed = false) (removal : ApiCall) :
    (viewer.teardown window removal).1.isClosed = true ∧
      (viewer.teardown window removal).2 = [.closed] := by
  simp only [teardown, isOpen, Bool.false_eq_true, if_false]
  exact ⟨rfl, trivial⟩

theorem teardown_of_closed (isClosed : viewer.isClosed = true) (removal : ApiCall) :
    viewer.teardown window removal = (viewer, []) := by
  simp only [teardown, isClosed, if_true]

theorem Ordered.teardown (ordered : viewer.Ordered) (removal : ApiCall) :
    (viewer.teardown window removal).1.Ordered := by
  cases isOpen : viewer.isClosed with
  | true => rwa [teardown_of_closed isOpen]
  | false =>
      unfold SecureViewerWidget.teardown
      simp only [isOpen, Bool.false_eq_true, if_false]
      exact
        { buffers := ordered.blank.buffers
          picture := ordered.blank.picture
          level := Nat.zero_le _
          imageZoom := ordered.imageZoom
          pdfZoom := ordered.pdfZoom
          emptied := fun _ => ⟨rfl, rfl, rfl, rfl, rfl, rfl, rfl, rfl⟩ }

end Operations

/-- What a display on an open viewer lets be seen of the content. -/
def rendered (decoder : ImageDecoder) (content : Bytes) (contentType : String) : Option Bytes :=
  if contentType = contentTypeTxt ∨ contentType = contentTypePdf then some content
  else if contentType.startsWith imagePrefix then (decoder.fromData content).map fun _ => content
  else if contentType = contentTypeMp4 then some content
  else none

/-! ## What each operation shows -/

section Shown

variable {viewer : SecureViewerWidget} {decoder : ImageDecoder} {geometry : WindowGeometry}
  {window : NativeWindow}

theorem shown_showImage (content : Bytes) :
    (viewer.showImage decoder geometry content).shown =
      (decoder.fromData content).map fun _ => content := by
  unfold showImage
  cases decoder.fromData content <;> rfl

theorem shown_showVideo (content : Bytes) : (viewer.showVideo content).shown = some content := by
  simp [shown, showVideo, readable, openBuffer]

theorem shown_display (isOpen : viewer.isClosed = false) (content : Bytes) (contentType : String) :
    (viewer.display decoder geometry content contentType).1.shown =
      rendered decoder content contentType := by
  simp only [display, isOpen, Bool.false_eq_true, if_false, rendered, beq_iff_eq]
  by_cases isText : contentType = contentTypeTxt
  · simp only [isText, true_or, if_true]
    rfl
  · by_cases isPdf : contentType = contentTypePdf
    · simp only [isPdf, or_true, if_true]
      rfl
    · have neither : ¬ (contentType = contentTypeTxt ∨ contentType = contentTypePdf) :=
        not_or.mpr ⟨isText, isPdf⟩
      simp only [if_neg isText, if_neg isPdf, if_neg neither]
      split_ifs
      · exact shown_showImage content
      · exact shown_showVideo content
      · rfl

theorem shown_setImageZoomFactor (ordered : viewer.Ordered)
    (isLabel : viewer.currentWidget = .label)
    (factor : Pixmap → ℚ) : (viewer.setImageZoomFactor factor).shown = viewer.shown := by
  unfold setImageZoomFactor
  cases original : viewer.originalImagePixmap with
  | none => rfl
  | some pixmap =>
      obtain ⟨_, rendersIt⟩ := ordered.picture pixmap original
      simp only [renderImage, shown, isLabel, rendersIt]

theorem shown_zoomIn (ordered : viewer.Ordered) : viewer.zoomIn.shown = viewer.shown := by
  unfold zoomIn
  split
  · rfl
  · next isLabel => exact shown_setImageZoomFactor ordered isLabel _
  · rfl
  · rfl

theorem shown_zoomOut (ordered : viewer.Ordered) : viewer.zoomOut.shown = viewer.shown := by
  unfold zoomOut
  split
  · rfl
  · next isLabel => exact shown_setImageZoomFactor ordered isLabel _
  · rfl
  · rfl

theorem shown_zoomFit (ordered : viewer.Ordered) :
    (viewer.zoomFit geometry).shown = viewer.shown := by
  unfold zoomFit
  split
  · rfl
  · next isLabel => exact shown_setImageZoomFactor ordered isLabel _
  · rfl
  · rfl

end Shown

end SecureViewerWidget

/-! ## Runs -/

/-- What happens to a viewer: its backend calls, its buttons, its window and its timer. -/
inductive ViewerEvent
  | displayed (geometry : WindowGeometry) (content : Bytes) (contentType : String)
  | captureHandlerSet (isSet : Bool)
  | windowShown (calls : NativeWindow.AffinityCalls)
  | polled (answer : Option (BitVec 32)) (handlerEnds : Raises Unit) (removal : ApiCall)
  | windowClosed (removal : ApiCall)
  | zoomedIn
  | zoomedOut
  | fitted (geometry : WindowGeometry)
  | playbackToggled

/-- An event with what the viewer let be noticed. -/
structure ViewerTurn where
  event : ViewerEvent
  signals : List ViewerSignal

namespace SecureViewerWidget

def respond (decoder : ImageDecoder) (window : NativeWindow) (viewer : SecureViewerWidget) :
    ViewerEvent → SecureViewerWidget × List ViewerSignal
  | .displayed geometry content contentType => viewer.display decoder geometry content contentType
  | .captureHandlerSet isSet => ({ viewer with hasCaptureHandler := isSet }, [])
  | .windowShown calls => (viewer.showEvent window calls, [])
  | .polled answer handlerEnds removal => viewer.poll window answer handlerEnds removal
  | .windowClosed removal => viewer.teardown window removal
  | .zoomedIn => (viewer.zoomIn, [])
  | .zoomedOut => (viewer.zoomOut, [])
  | .fitted geometry => (viewer.zoomFit geometry, [])
  | .playbackToggled => (viewer.toggleVideoPlayback, [])

/-- A closed window is not shown again, and only a running timer ticks. -/
def Possible (viewer : SecureViewerWidget) : ViewerEvent → Prop
  | .windowShown _ => viewer.isClosed = false
  | .polled _ _ _ => viewer.watcher.isActive = true
  | _ => True

end SecureViewerWidget

structure ViewerStep (decoder : ImageDecoder) (window : NativeWindow)
    (viewer : SecureViewerWidget) (turn : ViewerTurn) (next : SecureViewerWidget) : Prop where
  possible : viewer.Possible turn.event
  responds : viewer.respond decoder window turn.event = (next, turn.signals)

def ViewerEvent.displayed? : ViewerEvent → Option (Bytes × String)
  | .displayed _ content contentType => some (content, contentType)
  | _ => none

/-- The content and the content type that were displayed last. -/
def lastDisplayed (turns : List ViewerTurn) : Option (Bytes × String) :=
  (turns.filterMap fun turn => turn.event.displayed?).getLast?

def ViewerSignal.isClosing : ViewerSignal → Bool
  | .closed => true
  | _ => false

/-- How often the viewer told of its teardown. -/
def closings (turns : List ViewerTurn) : Nat :=
  (turns.flatMap ViewerTurn.signals).countP ViewerSignal.isClosing

namespace SecureViewerWidget

section Steps

variable {decoder : ImageDecoder} {window : NativeWindow} {viewer next : SecureViewerWidget}
  {turn : ViewerTurn} {turns : List ViewerTurn}

/-- All that an event can let be noticed. -/
inductive Signalled (viewer next : SecureViewerWidget) : List ViewerSignal → Prop
  | quiet (same : next.isClosed = viewer.isClosed) : Signalled viewer next []
  | refused (message : String) (same : next.isClosed = viewer.isClosed) :
      Signalled viewer next [.runtimeError message]
  | handlerRaised (exc : PyError) (wasOpen : viewer.isClosed = false)
      (isOpen : next.isClosed = false) : Signalled viewer next [.captureHandled (.error exc)]
  | closedItself (wasOpen : viewer.isClosed = false) (isClosed : next.isClosed = true) :
      Signalled viewer next [.closed]
  | handled (wasOpen : viewer.isClosed = false) (isClosed : next.isClosed = true) :
      Signalled viewer next [.captureHandled (.ok ()), .closed]

theorem signalled_teardown (removal : ApiCall) :
    Signalled viewer (viewer.teardown window removal).1 (viewer.teardown window removal).2 := by
  cases isOpen : viewer.isClosed with
  | true =>
      rw [teardown_of_closed isOpen]
      exact .quiet rfl
  | false =>
      obtain ⟨isClosed, signals⟩ := @teardown_of_open viewer window isOpen removal
      rw [signals]
      exact .closedItself isOpen isClosed

theorem isClosed_display (geometry : WindowGeometry) (content : Bytes) (contentType : String) :
    (viewer.display decoder geometry content contentType).1.isClosed = viewer.isClosed := by
  unfold display
  cases isOpen : viewer.isClosed with
  | true => exact isOpen
  | false =>
      simp only [Bool.false_eq_true, if_false]
      split_ifs
      · exact isOpen
      · exact isOpen
      · unfold showImage
        cases decoder.fromData content <;> exact isOpen
      · exact isOpen
      · exact isOpen

theorem isClosed_renderImage : viewer.renderImage.isClosed = viewer.isClosed := by
  unfold renderImage
  split <;> rfl

theorem isClosed_setImageZoomFactor (factor : Pixmap → ℚ) :
    (viewer.setImageZoomFactor factor).isClosed = viewer.isClosed := by
  unfold setImageZoomFactor
  split
  · rfl
  · exact isClosed_renderImage

theorem isClosed_zoomIn : viewer.zoomIn.isClosed = viewer.isClosed := by
  unfold zoomIn
  split <;> first | rfl | exact isClosed_setImageZoomFactor _

theorem isClosed_zoomOut : viewer.zoomOut.isClosed = viewer.isClosed := by
  unfold zoomOut
  split <;> first | rfl | exact isClosed_setImageZoomFactor _

theorem isClosed_zoomFit {geometry : WindowGeometry} :
    (viewer.zoomFit geometry).isClosed = viewer.isClosed := by
  unfold zoomFit
  split <;> first | rfl | exact isClosed_setImageZoomFactor _

theorem Signalled.of_same {other : SecureViewerWidget} {signals : List ViewerSignal}
    (signalled : Signalled viewer next signals) (same : other.isClosed = next.isClosed) :
    Signalled viewer other signals := by
  cases signalled with
  | quiet unchanged => exact .quiet (same.trans unchanged)
  | refused message unchanged => exact .refused message (same.trans unchanged)
  | handlerRaised exc wasOpen isOpen => exact .handlerRaised exc wasOpen (same.trans isOpen)
  | closedItself wasOpen isClosed => exact .closedItself wasOpen (same.trans isClosed)
  | handled wasOpen isClosed => exact .handled wasOpen (same.trans isClosed)

theorem signalled_display (geometry : WindowGeometry) (content : Bytes) (contentType : String) :
    Signalled viewer (viewer.display decoder geometry content contentType).1
      (viewer.display decoder geometry content contentType).2 := by
  have same := @isClosed_display decoder viewer geometry content contentType
  cases isOpen : viewer.isClosed with
  | true =>
      simp only [display, isOpen, if_true] at same ⊢
      exact .refused _ rfl
  | false =>
      have quiet : (viewer.display decoder geometry content contentType).2 = [] := by
        simp only [display, isOpen, Bool.false_eq_true, if_false]
        split_ifs <;> rfl
      rw [quiet]
      exact .quiet same

theorem signalled_onPrintscreenDetected (isOpen : viewer.isClosed = false)
    (handlerEnds : Raises Unit) (removal : ApiCall) :
    Signalled viewer (viewer.onPrintscreenDetected window handlerEnds removal).1
      (viewer.onPrintscreenDetected window handlerEnds removal).2 := by
  have blankOpen : viewer.blank.isClosed = false := isOpen
  obtain ⟨isClosed, signals⟩ := @teardown_of_open viewer.blank window blankOpen removal
  unfold onPrintscreenDetected
  cases viewer.hasCaptureHandler with
  | false =>
      simp only [Bool.false_eq_true, if_false, signals]
      exact .closedItself isOpen isClosed
  | true =>
      cases handlerEnds with
      | error exc => exact .handlerRaised exc isOpen isOpen
      | ok done =>
          simp only [if_true, signals]
          exact .handled isOpen isClosed

/-- The timer does not run in a closed viewer. -/
theorem Ordered.isOpen_of_active (ordered : viewer.Ordered)
    (active : viewer.watcher.isActive = true) : viewer.isClosed = false := by
  by_contra isClosed
  have emptied := ordered.emptied (Bool.not_eq_false _ ▸ isClosed)
  cases active.symm.trans emptied.watcher

theorem signalled_poll (isOpen : viewer.isClosed = false) (answer : Option (BitVec 32))
    (handlerEnds : Raises Unit) (removal : ApiCall) :
    Signalled viewer (viewer.poll window answer handlerEnds removal).1
      (viewer.poll window answer handlerEnds removal).2 := by
  unfold poll
  dsimp only
  split_ifs
  · exact (signalled_onPrintscreenDetected isOpen handlerEnds removal).of_same rfl
  · exact .quiet rfl

/-- One case an event. -/
theorem Ordered.signalled_respond (ordered : viewer.Ordered) {event : ViewerEvent}
    (possible : viewer.Possible event) :
    Signalled viewer (viewer.respond decoder window event).1
      (viewer.respond decoder window event).2 := by
  cases event with
  | displayed geometry content contentType => exact signalled_display geometry content contentType
  | captureHandlerSet isSet => exact .quiet rfl
  | windowShown calls => exact .quiet rfl
  | polled answer handlerEnds removal =>
      exact signalled_poll (ordered.isOpen_of_active possible) answer handlerEnds removal
  | windowClosed removal => exact signalled_teardown removal
  | zoomedIn => exact .quiet isClosed_zoomIn
  | zoomedOut => exact .quiet isClosed_zoomOut
  | fitted geometry => exact .quiet isClosed_zoomFit
  | playbackToggled => exact .quiet rfl

theorem Ordered.signalled (ordered : viewer.Ordered)
    (step : ViewerStep decoder window viewer turn next) : Signalled viewer next turn.signals := by
  have signalled := @Ordered.signalled_respond decoder window viewer ordered _ step.possible
  rwa [step.responds] at signalled

theorem Ordered.onPrintscreenDetected (ordered : viewer.Ordered) (handlerEnds : Raises Unit)
    (removal : ApiCall) :
    (viewer.onPrintscreenDetected window handlerEnds removal).1.Ordered := by
  unfold SecureViewerWidget.onPrintscreenDetected
  dsimp only
  split
  · cases handlerEnds with
    | error exc => exact ordered
    | ok done => exact ordered.blank.teardown removal
  · exact ordered.blank.teardown removal

theorem Ordered.poll (ordered : viewer.Ordered) (answer : Option (BitVec 32))
    (handlerEnds : Raises Unit) (removal : ApiCall) :
    (viewer.poll window answer handlerEnds removal).1.Ordered := by
  have keeps {polled : SecureViewerWidget} (isOrdered : polled.Ordered) (isDown : Bool) :
      SecureViewerWidget.Ordered { polled with watcher := polled.watcher.polled isDown } :=
    { isOrdered with
      emptied := fun isClosed =>
        { isOrdered.emptied isClosed with watcher := (isOrdered.emptied isClosed).watcher } }
  unfold SecureViewerWidget.poll
  apply keeps
  split
  · exact ordered.onPrintscreenDetected handlerEnds removal
  · exact ordered

theorem Ordered.respond (ordered : viewer.Ordered) {event : ViewerEvent}
    (possible : viewer.Possible event) : (viewer.respond decoder window event).1.Ordered := by
  cases event with
  | displayed geometry content contentType => exact ordered.display content contentType
  | captureHandlerSet isSet =>
      exact { ordered with emptied := fun isClosed => { ordered.emptied isClosed with } }
  | windowShown calls => exact ordered.showEvent possible calls
  | polled answer handlerEnds removal => exact ordered.poll answer handlerEnds removal
  | windowClosed removal => exact ordered.teardown removal
  | zoomedIn => exact ordered.zoomIn
  | zoomedOut => exact ordered.zoomOut
  | fitted geometry => exact ordered.zoomFit
  | playbackToggled =>
      exact { ordered with emptied := fun isClosed => { ordered.emptied isClosed with } }

theorem Ordered.step (ordered : viewer.Ordered)
    (step : ViewerStep decoder window viewer turn next) : next.Ordered := by
  have after := @Ordered.respond decoder window viewer ordered _ step.possible
  rwa [step.responds] at after

theorem isClosed_teardown (removal : ApiCall) :
    (viewer.teardown window removal).1.isClosed = true := by
  cases isOpen : viewer.isClosed with
  | true => rwa [teardown_of_closed isOpen]
  | false => exact (teardown_of_open isOpen removal).1

theorem onPrintscreenDetected_open {handlerEnds : Raises Unit} {removal : ApiCall}
    (isOpen : (viewer.onPrintscreenDetected window handlerEnds removal).1.isClosed = false) :
    (viewer.onPrintscreenDetected window handlerEnds removal).1 = viewer := by
  have closes := @isClosed_teardown window viewer.blank removal
  unfold onPrintscreenDetected at isOpen ⊢
  dsimp only at isOpen ⊢
  split at isOpen
  · next hasHandler =>
      rw [if_pos hasHandler]
      cases handlerEnds with
      | error exc => rfl
      | ok done => exact absurd (closes.symm.trans isOpen) (by simp)
  · exact absurd (closes.symm.trans isOpen) (by simp)

theorem shown_poll {answer : Option (BitVec 32)} {handlerEnds : Raises Unit} {removal : ApiCall}
    (isOpen : (viewer.poll window answer handlerEnds removal).1.isClosed = false) :
    (viewer.poll window answer handlerEnds removal).1.shown = viewer.shown := by
  have sameShown (polled : SecureViewerWidget) (isDown : Bool) :
      shown { polled with watcher := polled.watcher.polled isDown } = polled.shown := rfl
  unfold poll at isOpen ⊢
  dsimp only at isOpen ⊢
  rw [sameShown]
  split
  · next detects =>
      rw [if_pos detects] at isOpen
      rw [onPrintscreenDetected_open isOpen]
  · rfl

theorem Signalled.isOpen {signals : List ViewerSignal} (signalled : Signalled viewer next signals)
    (isOpen : next.isClosed = false) : viewer.isClosed = false := by
  cases signalled with
  | quiet same => exact same.symm.trans isOpen
  | refused _ same => exact same.symm.trans isOpen
  | handlerRaised _ wasOpen _ => exact wasOpen
  | closedItself wasOpen _ => exact wasOpen
  | handled wasOpen _ => exact wasOpen

/-- What the viewer shows after an event that leaves it open. -/
theorem Ordered.shown_respond (ordered : viewer.Ordered) {event : ViewerEvent}
    (possible : viewer.Possible event)
    (isOpen : (viewer.respond decoder window event).1.isClosed = false) :
    (viewer.respond decoder window event).1.shown =
      event.displayed?.elim viewer.shown fun displayed =>
        rendered decoder displayed.1 displayed.2 := by
  have signalled := @Ordered.signalled_respond decoder window viewer ordered _ possible
  have wasOpen := signalled.isOpen isOpen
  cases event with
  | displayed geometry content contentType => exact shown_display wasOpen content contentType
  | captureHandlerSet isSet => rfl
  | windowShown calls => rfl
  | polled answer handlerEnds removal => exact shown_poll isOpen
  | windowClosed removal => exact absurd ((isClosed_teardown removal).symm.trans isOpen) (by simp)
  | zoomedIn => exact shown_zoomIn ordered
  | zoomedOut => exact shown_zoomOut ordered
  | fitted geometry => exact shown_zoomFit ordered
  | playbackToggled => rfl

end Steps

/-! ## Along a run -/

/-- What is said of a viewer after some turns. -/
structure Sound (decoder : ImageDecoder) (turns : List ViewerTurn) (viewer : SecureViewerWidget) :
    Prop where
  ordered : viewer.Ordered
  shows : viewer.shown = if viewer.isClosed then none else
    (lastDisplayed turns).bind fun displayed => rendered decoder displayed.1 displayed.2
  closes : closings turns = if viewer.isClosed then 1 else 0

section Runs

variable {decoder : ImageDecoder} {window : NativeWindow} {viewer next : SecureViewerWidget}
  {turn : ViewerTurn} {turns : List ViewerTurn}

theorem ordered_new : SecureViewerWidget.Ordered {} where
  buffers index buffer present := by simp at present
  picture pixmap shown := by cases shown
  level := le_rfl
  imageZoom := ⟨zoomMin_le_one, one_le_zoomMax⟩
  pdfZoom := ⟨zoomMin_le_one, one_le_zoomMax⟩
  emptied isClosed := by cases isClosed

theorem lastDisplayed_concat (turns : List ViewerTurn) (turn : ViewerTurn) :
    lastDisplayed (turns ++ [turn]) = turn.event.displayed?.or (lastDisplayed turns) := by
  unfold lastDisplayed
  rw [List.filterMap_append]
  cases event : turn.event.displayed? <;> simp [event]

theorem closings_concat (turns : List ViewerTurn) (turn : ViewerTurn) :
    closings (turns ++ [turn]) =
      closings turns + turn.signals.countP ViewerSignal.isClosing := by
  simp [closings, List.flatMap_append, List.countP_append]

theorem Signalled.closes {signals : List ViewerSignal} (signalled : Signalled viewer next signals) :
    (if viewer.isClosed then 1 else 0) + signals.countP ViewerSignal.isClosing =
      if next.isClosed then 1 else 0 := by
  cases signalled with
  | quiet same => simp [same]
  | refused message same => simp [same, ViewerSignal.isClosing]
  | handlerRaised exc wasOpen isOpen => simp [wasOpen, isOpen, ViewerSignal.isClosing]
  | closedItself wasOpen isClosed => simp [wasOpen, isClosed, ViewerSignal.isClosing]
  | handled wasOpen isClosed => simp [wasOpen, isClosed, ViewerSignal.isClosing]

theorem Sound.step (sound : viewer.Sound decoder turns)
    (step : ViewerStep decoder window viewer turn next) :
    next.Sound decoder (turns ++ [turn]) where
  ordered := sound.ordered.step step
  shows := by
    have signalled := sound.ordered.signalled step
    have ordered := sound.ordered.step step
    have after := @Ordered.shown_respond decoder window viewer sound.ordered _ step.possible
    rw [step.responds] at after
    cases isOpen : next.isClosed with
    | true => exact (ordered.emptied isOpen).shown
    | false =>
        have shows := sound.shows
        rw [signalled.isOpen isOpen] at shows
        rw [after isOpen, lastDisplayed_concat]
        cases turn.event.displayed? with
        | none => exact shows
        | some displayed => rfl
  closes := by
    rw [closings_concat, sound.closes]
    exact (sound.ordered.signalled step).closes

theorem sound_of_run (run : Run (ViewerStep decoder window) {} turns viewer) :
    viewer.Sound decoder turns :=
  run.history (fun turns viewer => viewer.Sound decoder turns)
    (fun sound step => sound.step step) ⟨ordered_new, rfl, rfl⟩

end Runs

end SecureViewerWidget

section Main

variable {decoder : ImageDecoder} {window : NativeWindow} {viewer : SecureViewerWidget}
  {turns : List ViewerTurn}

/-- Until it is closed a viewer shows what was displayed last, however it is zoomed, shown and
watched, and it reads from no other buffer than those of its two readers.  Once it is closed
nothing is shown, no buffer is open and no timer runs.  It tells of the teardown exactly once. -/
theorem viewer_shows_last_until_closed (run : Run (ViewerStep decoder window) {} turns viewer) :
    (viewer.shown = if viewer.isClosed then none else
      (lastDisplayed turns).bind fun displayed =>
        SecureViewerWidget.rendered decoder displayed.1 displayed.2) ∧
    (∀ (index : Nat) (buffer : QBuffer), viewer.buffers[index]? = some buffer →
      buffer.isOpen = true → viewer.pdfBuffer = some index ∨ viewer.videoBuffer = some index) ∧
    (viewer.isClosed = true → viewer.Emptied ∧ ∀ buffer ∈ viewer.buffers, buffer.isOpen = false) ∧
    closings turns = if viewer.isClosed then 1 else 0 := by
  have sound := SecureViewerWidget.sound_of_run run
  refine ⟨sound.shows, ?_, ?_, sound.closes⟩
  · intro index buffer present isOpen
    have member := sound.ordered.buffers index buffer present isOpen
    simpa [SecureViewerWidget.places] using member
  · intro isClosed
    have emptied := sound.ordered.emptied isClosed
    refine ⟨emptied, fun buffer member => ?_⟩
    obtain ⟨index, present⟩ := List.mem_iff_getElem?.mp member
    by_contra isOpen
    have place := sound.ordered.buffers index buffer present (Bool.not_eq_false _ ▸ isOpen)
    simp [SecureViewerWidget.places, emptied.pdfBuffer, emptied.videoBuffer] at place

/-- The protection level that a viewer reports is never above the one that its window has. -/
theorem capture_protection_not_overstated
    (run : Run (ViewerStep decoder window) {} turns viewer) :
    viewer.captureProtectionLevel.affinity.strength ≤ viewer.affinity.strength :=
  (SecureViewerWidget.sound_of_run run).ordered.level

end Main

/-! ## A viewer that a press of the key closes -/

def plainDecoder : ImageDecoder :=
  ⟨fun _ => none⟩

def plainWindow : NativeWindow :=
  ⟨true, 1⟩

theorem SecureViewerWidget.step_of_possible {decoder : ImageDecoder} {window : NativeWindow}
    {viewer : SecureViewerWidget} {event : ViewerEvent} (possible : viewer.Possible event) :
    ViewerStep decoder window viewer ⟨event, (viewer.respond decoder window event).2⟩
      (viewer.respond decoder window event).1 :=
  ⟨possible, rfl⟩

/-- A text on a window that is shown. -/
def plainViewer : SecureViewerWidget :=
  (SecureViewerWidget.showEvent plainWindow
    (SecureViewerWidget.display plainDecoder ⟨⟨900, 700⟩, ⟨900, 700⟩⟩ {} [104, 105]
      "text/plain").1 ⟨.refused, .succeeded⟩)

theorem plainViewer_run : ∃ turns, Run (ViewerStep plainDecoder plainWindow) {} turns plainViewer ∧
    lastDisplayed turns = some ([104, 105], "text/plain") := by
  have displays := @SecureViewerWidget.step_of_possible plainDecoder plainWindow {}
    (.displayed ⟨⟨900, 700⟩, ⟨900, 700⟩⟩ [104, 105] "text/plain") trivial
  have shows := @SecureViewerWidget.step_of_possible plainDecoder plainWindow
    (SecureViewerWidget.display plainDecoder ⟨⟨900, 700⟩, ⟨900, 700⟩⟩ {} [104, 105] "text/plain").1
    (.windowShown ⟨.refused, .succeeded⟩) rfl
  exact ⟨_, (Run.single displays).tail shows, rfl⟩

theorem viewer_shows_last_until_closed_plain :
    plainViewer.shown = some [104, 105] ∧
    ∃ turns viewer, Run (ViewerStep plainDecoder plainWindow) {} turns viewer ∧
      viewer.isClosed = true ∧ viewer.shown = none ∧ closings turns = 1 := by
  obtain ⟨turns, run, last⟩ := plainViewer_run
  obtain ⟨shows, -⟩ := viewer_shows_last_until_closed run
  have isOpen : plainViewer.isClosed = false := rfl
  rw [isOpen, last] at shows
  refine ⟨shows, ?_⟩
  have pressed := @SecureViewerWidget.step_of_possible plainDecoder plainWindow plainViewer
    (.polled (some 0x8000#32) (.ok ()) .succeeded) rfl
  have isClosed : (plainViewer.respond plainDecoder plainWindow
      (.polled (some 0x8000#32) (.ok ()) .succeeded)).1.isClosed = true := rfl
  have closing := run.tail pressed
  obtain ⟨showsNothing, -, -, once⟩ := viewer_shows_last_until_closed closing
  rw [isClosed] at showsNothing once
  exact ⟨_, _, closing, isClosed, showsNothing, once⟩

theorem capture_protection_not_overstated_plain :
    plainViewer.captureProtectionLevel = .monitorBlackout ∧ 1 ≤ plainViewer.affinity.strength := by
  obtain ⟨turns, run, -⟩ := plainViewer_run
  exact ⟨rfl, capture_protection_not_overstated run⟩

end CryptoUsb
