import CryptoUsb.AuditTrail
import CryptoUsb.ContentTypes
import CryptoUsb.ViewerLifecycle

/-!
# The desk

The viewers that the decryption page opens, with the callbacks that it connects to them: a
detected capture is noted in the session of the view, and the teardown of a viewer closes its
session.  The page holds one viewer only.  Another click takes its place, and a viewer that is
open then is destroyed without a teardown: nobody closes its session any more.
-/

namespace CryptoUsb

open ByteString DecryptionPage IsoDateTime SecureAccessService TransitionRuns

/-! ## The desk and its viewers -/

/-- A viewer with the session that its callbacks close over, and `capture_state`. -/
structure DeskViewer where
  widget : SecureViewerWidget
  session : Option UsageRecord
  captureDetected : Bool := false

/-- The throttle, `_active_viewer`, the viewers whose place another one has taken, as they were
left, and the log. -/
structure ViewerDesk where
  throttle : DeviceMismatchThrottle := {}
  active : Option DeskViewer := none
  replaced : List DeskViewer := []
  repository : TrackingRepository := []

/-- A click on the view button, with the decoy that the engine would make up, or an event of the
active viewer. -/
inductive DeskEvent
  | viewClicked (call : ServiceCall) (decoy : DeceptionResponse)
  | viewerTurned (turn : ViewerTurn)

def DeskEvent.click? : DeskEvent → Option (ServiceCall × DeceptionResponse)
  | .viewClicked call decoy => some (call, decoy)
  | .viewerTurned _ => none

namespace ViewerDesk

/-- What a click displays: the plaintext of a view, and the decoy where access was not
granted. -/
def displayedContents (result : AccessResult) (decoy : DeceptionResponse) :
    List (Bytes × String) :=
  result.views.map (fun view => (view.buffer, sniffContentType view.buffer)) ++
    match result.outcome with
    | .ok outcome => if outcome.granted then [] else [(decoy.content, decoy.mimeType)]
    | .error _ => []

def displayEvents (geometry : WindowGeometry) (contents : List (Bytes × String)) :
    List ViewerEvent :=
  contents.map fun displayed => .displayed geometry displayed.1 displayed.2

/-- The calls on a new viewer: its contents are displayed, the capture handler is set, and the
window is shown. -/
def openingEvents (geometry : WindowGeometry) (calls : NativeWindow.AffinityCalls)
    (contents : List (Bytes × String)) : List ViewerEvent :=
  displayEvents geometry contents ++ [.captureHandlerSet true, .windowShown calls]

def openViewer (decoder : ImageDecoder) (window : NativeWindow) (events : List ViewerEvent) :
    SecureViewerWidget :=
  events.foldl (fun viewer event => (viewer.respond decoder window event).1) {}

/-- The viewer that a click leaves active.  An attempt that raises leaves it without callbacks,
and never shows its window. -/
def clickedViewer (decoder : ImageDecoder) (window : NativeWindow) (geometry : WindowGeometry)
    (calls : NativeWindow.AffinityCalls) (result : AccessResult) (decoy : DeceptionResponse) :
    DeskViewer :=
  let contents := displayedContents result decoy
  match result.outcome with
  | .ok outcome =>
      { widget := openViewer decoder window (openingEvents geometry calls contents)
        session := outcome.session }
  | .error _ =>
      { widget := openViewer decoder window (displayEvents geometry contents)
        session := none }

/-- Events that the window has by itself.  The page's capture handler sets a flag and adds one to
a counter, and always returns. -/
def FromWindow : ViewerEvent → Prop
  | .displayed _ _ _ | .captureHandlerSet _ => False
  | .polled _ handlerEnds _ => handlerEnds = .ok ()
  | _ => True

/-- `_on_capture_detected`. -/
def onCaptureDetected (viewer : DeskViewer) : DeskViewer :=
  { viewer with
    captureDetected := true
    session := viewer.session.map UsageTracker.recordScreenCaptureAttempt }

/-- `on_view_closed`, if there is a session. -/
def onViewClosed (crypto : Cryptography) (totalSeconds : Int → PyFloat)
    (keys : TrackingProtectionKeys) (now : UtcInstant) (nonce : AesCipher.Nonce)
    (session : Option UsageRecord) (repository : TrackingRepository) : TrackingRepository :=
  match session with
  | none => repository
  | some record => repositoryAfter repository
      (UsageTracker.recordClose crypto totalSeconds keys now nonce record (some repository))

/-- What the slots of the page do at a signal of a viewer. -/
def hear (crypto : Cryptography) (totalSeconds : Int → PyFloat) (keys : TrackingProtectionKeys)
    (now : UtcInstant) (nonce : AesCipher.Nonce) (heard : DeskViewer × TrackingRepository) :
    ViewerSignal → DeskViewer × TrackingRepository
  | .captureHandled (.ok ()) => (onCaptureDetected heard.1, heard.2)
  | .closed =>
      (heard.1, onViewClosed crypto totalSeconds keys now nonce heard.1.session heard.2)
  | .captureHandled (.error _) | .runtimeError _ => heard

/-- All viewers so far, the active one last. -/
def viewers (desk : ViewerDesk) : List DeskViewer :=
  desk.replaced ++ desk.active.toList

/-- The desk with another result of its active viewer. -/
def heard (desk : ViewerDesk) (held : DeskViewer × TrackingRepository) : ViewerDesk :=
  { desk with active := some held.1, repository := held.2 }

/-- `_active_viewer = viewer`, and the attempt. -/
def clicked (desk : ViewerDesk) (decoder : ImageDecoder) (window : NativeWindow)
    (geometry : WindowGeometry) (calls : NativeWindow.AffinityCalls) (result : AccessResult)
    (decoy : DeceptionResponse) : ViewerDesk :=
  { desk with
    throttle := result.throttle
    active := some (clickedViewer decoder window geometry calls result decoy)
    replaced := desk.viewers }

end ViewerDesk

/-- One click, or one event of the active viewer with all that follows from it. -/
inductive DeskStep (crypto : Cryptography) (totalSeconds : Int → PyFloat)
    (keys : TrackingProtectionKeys) (decoder : ImageDecoder) (window : NativeWindow) :
    ViewerDesk → DeskEvent → ViewerDesk → Prop
  | clicked (desk : ViewerDesk) {call : ServiceCall} {decoy : DeceptionResponse}
      (geometry : WindowGeometry) (calls : NativeWindow.AffinityCalls) :
      call.service.throttle = desk.throttle →
      (∀ buffer metadata, call.request.onGranted buffer metadata = .ok ()) →
        DeskStep crypto totalSeconds keys decoder window desk (.viewClicked call decoy)
          (desk.clicked decoder window geometry calls (call.result crypto) decoy)
  | turned (desk : ViewerDesk) {viewer : DeskViewer} {turn : ViewerTurn}
      {next : SecureViewerWidget} (now : UtcInstant) (nonce : AesCipher.Nonce) :
      desk.active = some viewer → ViewerDesk.FromWindow turn.event →
      ViewerStep decoder window viewer.widget turn next →
        DeskStep crypto totalSeconds keys decoder window desk (.viewerTurned turn)
          (desk.heard (turn.signals.foldl
            (ViewerDesk.hear crypto totalSeconds keys now nonce)
            ({ viewer with widget := next }, desk.repository)))

/-! ## The audit trail behind the desk -/

/-- The session of a viewer that was not closed. -/
def DeskViewer.openSession? (viewer : DeskViewer) : Option UsageRecord :=
  if viewer.widget.isClosed then none else viewer.session

namespace ViewerDesk

variable (desk : ViewerDesk)

/-- The session of the active viewer, if it is open. -/
def openSessions : List UsageRecord :=
  desk.active.toList.filterMap DeskViewer.openSession?

/-- The sessions of the viewers that were destroyed while they were open. -/
def lostSessions : List UsageRecord :=
  desk.replaced.filterMap DeskViewer.openSession?

/-- What the audit trail sees of the desk: no session is closed that is open or lost. -/
def audit : AuditState where
  throttle := desk.throttle
  sessions := desk.lostSessions ++ desk.openSessions
  repository := desk.repository

/-- No viewer is open. -/
def Cleared : Prop :=
  ∀ viewer, desk.active = some viewer → viewer.widget.isClosed = true

end ViewerDesk

def DeskEvent.audit? (event : DeskEvent) : Option AuditEvent :=
  event.click?.map fun click => .attempt click.1

/-- An attempt of the desk to be audited. -/
def DeskEvent.audited (crypto : Cryptography) (event : DeskEvent) : Bool :=
  event.audit?.any (AuditEvent.audited crypto)

def DeskEvent.turnedAway (event : DeskEvent) : Bool :=
  event.audit?.any AuditEvent.turnedAway

@[simp] theorem DeskEvent.audited_viewClicked (crypto : Cryptography) (call : ServiceCall)
    (decoy : DeceptionResponse) : (DeskEvent.viewClicked call decoy).audited crypto =
      (AuditEvent.attempt call).audited crypto :=
  rfl

section Audit

variable {crypto : Cryptography} {totalSeconds : Int → PyFloat} {keys : TrackingProtectionKeys}
  {decoder : ImageDecoder} {window : NativeWindow} {desk next : ViewerDesk} {event : DeskEvent}

theorem ViewerDesk.audit_heard (desk : ViewerDesk) (held : DeskViewer × TrackingRepository) :
    (desk.heard held).audit =
      ⟨desk.throttle, desk.lostSessions ++ held.1.openSession?.toList, held.2⟩ := by
  simp only [audit, heard, openSessions, lostSessions, Option.toList_some, List.filterMap_cons,
    List.filterMap_nil]
  cases held.1.openSession? <;> rfl

theorem AuditStep.note_last (throttle : DeviceMismatchThrottle) (front : List UsageRecord)
    (record : UsageRecord) (repository : TrackingRepository) :
    AuditStep crypto totalSeconds keys ⟨throttle, front ++ [record], repository⟩
      .screenCaptureDetected
      ⟨throttle, front ++ [UsageTracker.recordScreenCaptureAttempt record], repository⟩ := by
  have step := @AuditStep.screenCaptureDetected crypto totalSeconds keys
    ⟨throttle, front ++ [record], repository⟩ front.length record (by simp)
  simpa using step

theorem AuditStep.close_last (throttle : DeviceMismatchThrottle) (front : List UsageRecord)
    (record : UsageRecord) (repository : TrackingRepository) (now : UtcInstant)
    (nonce : AesCipher.Nonce) :
    AuditStep crypto totalSeconds keys ⟨throttle, front ++ [record], repository⟩
      .viewClosed
      ⟨throttle, front, repositoryAfter repository (UsageTracker.recordClose crypto
        totalSeconds keys now nonce record (some repository))⟩ := by
  have step := @AuditStep.viewClosed crypto totalSeconds keys
    ⟨throttle, front ++ [record], repository⟩ front.length record _ now nonce (by simp) rfl
  have erased : (front ++ [record]).eraseIdx front.length = front := by
    rw [List.eraseIdx_append_of_length_le le_rfl, Nat.sub_self]
    exact List.append_nil front
  rwa [erased] at step

/-- The audit trail goes from one desk to another, without an attempt. -/
def AuditsWithoutAttempt (crypto : Cryptography) (totalSeconds : Int → PyFloat)
    (keys : TrackingProtectionKeys) (desk next : ViewerDesk) : Prop :=
  ∃ audits, Run (AuditStep crypto totalSeconds keys) desk.audit audits next.audit ∧
    audits.countP (AuditEvent.audited crypto) = 0 ∧ audits.countP AuditEvent.turnedAway = 0

theorem AuditsWithoutAttempt.of_same (same : next.audit = desk.audit) :
    AuditsWithoutAttempt crypto totalSeconds keys desk next :=
  ⟨[], same ▸ .refl _, rfl, rfl⟩

theorem AuditsWithoutAttempt.trans {last : ViewerDesk}
    (first : AuditsWithoutAttempt crypto totalSeconds keys desk next)
    (second : AuditsWithoutAttempt crypto totalSeconds keys next last) :
    AuditsWithoutAttempt crypto totalSeconds keys desk last := by
  obtain ⟨audits, run, noneAudited, noneAway⟩ := first
  obtain ⟨more, rest, alsoNone, alsoNoneAway⟩ := second
  refine ⟨audits ++ more, run.append rest, ?_, ?_⟩
  · rw [List.countP_append, noneAudited, alsoNone]
  · rw [List.countP_append, noneAway, alsoNoneAway]

theorem AuditsWithoutAttempt.of_step {event : AuditEvent}
    (step : AuditStep crypto totalSeconds keys desk.audit event next.audit)
    (isCallback : event = .screenCaptureDetected ∨ event = .viewClosed) :
    AuditsWithoutAttempt crypto totalSeconds keys desk next := by
  refine ⟨[event], .single step, ?_, ?_⟩
  · rcases isCallback with rfl | rfl <;> rfl
  · rcases isCallback with rfl | rfl <;> rfl

variable {viewer : DeskViewer} {repository : TrackingRepository} {now : UtcInstant}
  {nonce : AesCipher.Nonce}

theorem DeskViewer.openSession?_of_open (isOpen : viewer.widget.isClosed = false) :
    viewer.openSession? = viewer.session := by
  simp [openSession?, isOpen]

theorem DeskViewer.openSession?_of_closed (isClosed : viewer.widget.isClosed = true) :
    viewer.openSession? = none := by
  simp [openSession?, isClosed]

/-- A detected capture is noted in the session of an open viewer, if it has one. -/
theorem audits_captureHandled (isOpen : viewer.widget.isClosed = false) :
    AuditsWithoutAttempt crypto totalSeconds keys (desk.heard (viewer, repository))
      (desk.heard (ViewerDesk.onCaptureDetected viewer, repository)) := by
  have noted : (ViewerDesk.onCaptureDetected viewer).openSession? =
      viewer.session.map UsageTracker.recordScreenCaptureAttempt :=
    DeskViewer.openSession?_of_open isOpen
  cases session : viewer.session with
  | none =>
      apply AuditsWithoutAttempt.of_same
      rw [ViewerDesk.audit_heard, ViewerDesk.audit_heard, noted,
        DeskViewer.openSession?_of_open isOpen, session]
      rfl
  | some record =>
      refine AuditsWithoutAttempt.of_step ?_ (.inl rfl)
      rw [ViewerDesk.audit_heard, ViewerDesk.audit_heard, noted,
        DeskViewer.openSession?_of_open isOpen, session]
      exact AuditStep.note_last _ _ record repository

/-- The teardown of an open viewer closes its session, if it has one. -/
theorem audits_closed {widget : SecureViewerWidget} (isOpen : viewer.widget.isClosed = false)
    (isClosed : widget.isClosed = true) :
    AuditsWithoutAttempt crypto totalSeconds keys (desk.heard (viewer, repository))
      (desk.heard ({ viewer with widget }, ViewerDesk.onViewClosed crypto totalSeconds
        keys now nonce viewer.session repository)) := by
  have closed : DeskViewer.openSession? { viewer with widget } = none :=
    DeskViewer.openSession?_of_closed isClosed
  cases session : viewer.session with
  | none =>
      apply AuditsWithoutAttempt.of_same
      rw [session] at closed
      rw [ViewerDesk.audit_heard, ViewerDesk.audit_heard, closed,
        DeskViewer.openSession?_of_open isOpen, session]
      rfl
  | some record =>
      rw [session] at closed
      refine AuditsWithoutAttempt.of_step ?_ (.inr rfl)
      rw [ViewerDesk.audit_heard, ViewerDesk.audit_heard, closed,
        DeskViewer.openSession?_of_open isOpen, session, Option.toList_none, List.append_nil]
      exact AuditStep.close_last _ _ record repository now nonce

/-- What follows from the signals of one event of a viewer. -/
theorem audits_signals {widget : SecureViewerWidget} {signals : List ViewerSignal}
    (signalled : viewer.widget.Signalled widget signals) :
    AuditsWithoutAttempt crypto totalSeconds keys (desk.heard (viewer, repository))
      (desk.heard (signals.foldl (ViewerDesk.hear crypto totalSeconds keys now nonce)
        ({ viewer with widget }, repository))) := by
  have unheard (same : widget.isClosed = viewer.widget.isClosed) :
      AuditsWithoutAttempt crypto totalSeconds keys (desk.heard (viewer, repository))
        (desk.heard ({ viewer with widget }, repository)) := by
    apply AuditsWithoutAttempt.of_same
    rw [ViewerDesk.audit_heard, ViewerDesk.audit_heard]
    simp only [DeskViewer.openSession?, same]
  cases signalled with
  | quiet same => exact unheard same
  | refused message same => exact unheard same
  | handlerRaised exc wasOpen isOpen => exact unheard (isOpen.trans wasOpen.symm)
  | closedItself wasOpen isClosed => exact audits_closed wasOpen isClosed
  | handled wasOpen isClosed =>
      have noted := @audits_captureHandled crypto totalSeconds keys desk viewer repository wasOpen
      exact noted.trans (audits_closed wasOpen isClosed)

end Audit

/-! ## Sessions without captures -/

namespace SecureAccessService

/-- No capture has been noted yet. -/
def Unnoted (session : Option UsageRecord) : Prop :=
  ∀ record ∈ session, record.screenCaptureAttempts = 0

/-- A returned attempt hands out a session without captures. -/
def HandsOutUnnoted (result : AccessResult) : Prop :=
  ∀ outcome, result.outcome = .ok outcome → Unnoted outcome.session

section Unnoted

variable {crypto : Cryptography} {service : SecureAccessService} {disk : Disk}
  {request : AccessRequest} {draws : AccessDraws} {metadata : FileMetadata}
  {session : Option UsageRecord}

theorem Unnoted.map (unnoted : Unnoted session) {change : UsageRecord → UsageRecord}
    (keeps : ∀ record, (change record).screenCaptureAttempts = record.screenCaptureAttempts) :
    Unnoted (session.map change) := by
  intro changed member
  obtain ⟨record, held, rfl⟩ := Option.mem_map.mp member
  exact (keeps record).trans (unnoted record held)

theorem startSession_unnoted : Unnoted (startSession service request draws) := by
  intro record member
  unfold startSession at member
  split_ifs at member
  · obtain rfl := Option.some.inj member
    rfl
  · cases member

theorem settled_error_unnoted {exc : PyError} :
    HandsOutUnnoted (settled service disk (.error exc)) := by
  intro outcome returned
  cases returned

theorem deceived_unnoted (unnoted : Unnoted session) (trigger : DeceptionTrigger) :
    HandsOutUnnoted (deceived service disk request trigger session) := by
  intro outcome returned
  obtain rfl := Except.ok.inj returned
  exact unnoted

theorem rejected_unnoted (unnoted : Unnoted session) (report : CheckReport) :
    HandsOutUnnoted (rejected service disk request draws report session) := by
  have deceives := @deceived_unnoted service disk request _
    (@Unnoted.map _ unnoted (rejectedRecord (mapValidationFailureToTrigger report)) fun _ => rfl)
    (mapValidationFailureToTrigger report)
  unfold rejected
  dsimp only
  split_ifs
  · split
    · intro outcome returned
      cases returned
    · exact deceives
  · exact deceives

theorem viewed_unnoted (unnoted : Unnoted session) {wrapper : KeyWrapper} {plaintext : Bytes} :
    HandsOutUnnoted
      (viewed crypto service disk request draws metadata wrapper plaintext session) := by
  intro outcome returned
  simp only [viewed] at returned
  split at returned
  · simp only [finished] at returned
    split_ifs at returned
    · split at returned
      · cases returned
      · obtain rfl := Except.ok.inj returned
        exact unnoted
    · obtain rfl := Except.ok.inj returned
      exact unnoted
  · split_ifs at returned
    · obtain rfl := Except.ok.inj returned
      exact unnoted
    · cases returned

theorem admitted_unnoted (unnoted : Unnoted session) :
    HandsOutUnnoted (admitted crypto service disk request draws metadata session) := by
  have opened := @Unnoted.map _ unnoted
    (fun record => { record with openTime := some draws.openClock.1 }) fun _ => rfl
  unfold admitted
  split
  · exact settled_error_unnoted
  · dsimp only
    split
    · split_ifs
      · exact deceived_unnoted opened _
      · exact settled_error_unnoted
    · exact viewed_unnoted opened

theorem attemptAccess_unnoted :
    HandsOutUnnoted (attemptAccess crypto service disk request draws) := by
  have absent : Unnoted none := by
    rintro _ ⟨⟩
  have started := @startSession_unnoted service request draws
  unfold attemptAccess
  split_ifs
  · exact deceived_unnoted absent _
  · exact deceived_unnoted absent _
  · unfold validated
    dsimp only
    split
    · exact settled_error_unnoted
    · split
      · exact settled_error_unnoted
      · split_ifs
        · exact rejected_unnoted started _
        · split
          · exact settled_error_unnoted
          · exact admitted_unnoted (started.map fun _ => rfl)

end Unnoted

end SecureAccessService

/-! ## The life of each viewer -/

section Viewers

variable {crypto : Cryptography} {totalSeconds : Int → PyFloat} {keys : TrackingProtectionKeys}
  {decoder : ImageDecoder} {window : NativeWindow} {geometry : WindowGeometry}
  {calls : NativeWindow.AffinityCalls} {desk next : ViewerDesk} {event : DeskEvent}
  {events : List DeskEvent} {viewer : DeskViewer} {call : ServiceCall}
  {decoy : DeceptionResponse}

theorem displays_run (contents : List (Bytes × String)) :
    ∃ turns, Run (ViewerStep decoder window) {} turns
        (ViewerDesk.openViewer decoder window (ViewerDesk.displayEvents geometry contents)) ∧
      lastDisplayed turns = contents.getLast? ∧ (ViewerDesk.openViewer decoder window
        (ViewerDesk.displayEvents geometry contents)).isClosed = false := by
  induction contents using List.reverseRecOn with
  | nil => exact ⟨[], .refl _, rfl, rfl⟩
  | append_singleton contents displayed ih =>
      obtain ⟨turns, run, -, isOpen⟩ := ih
      simp only [ViewerDesk.displayEvents, ViewerDesk.openViewer, List.map_append,
        List.map_singleton, List.foldl_append, List.foldl_cons, List.foldl_nil,
        List.getLast?_concat] at run isOpen ⊢
      refine ⟨_, run.tail (SecureViewerWidget.step_of_possible trivial), ?_, ?_⟩
      · rw [SecureViewerWidget.lastDisplayed_concat]
        rfl
      · exact (SecureViewerWidget.isClosed_display _ _ _).trans isOpen

/-- A viewer that is opened runs through its opening, and displayed the last of the contents
last. -/
theorem openViewer_run (contents : List (Bytes × String)) :
    let opened := ViewerDesk.openViewer decoder window
      (ViewerDesk.openingEvents geometry calls contents)
    ∃ turns, Run (ViewerStep decoder window) {} turns opened ∧
      lastDisplayed turns = contents.getLast? ∧ opened.isClosed = false := by
  obtain ⟨turns, run, last, isOpen⟩ := @displays_run decoder window geometry contents
  simp only [ViewerDesk.openViewer, ViewerDesk.openingEvents, List.foldl_append, List.foldl_cons,
    List.foldl_nil] at run isOpen ⊢
  have handled := run.tail
    (@SecureViewerWidget.step_of_possible decoder window _ (.captureHandlerSet true) trivial)
  have shown := handled.tail
    (@SecureViewerWidget.step_of_possible decoder window _ (.windowShown calls) isOpen)
  refine ⟨_, shown, ?_, isOpen⟩
  rw [SecureViewerWidget.lastDisplayed_concat, SecureViewerWidget.lastDisplayed_concat]
  exact last

theorem clickedViewer_run (result : AccessResult) (decoy : DeceptionResponse) :
    let clicked := ViewerDesk.clickedViewer decoder window geometry calls result decoy
    ∃ turns, Run (ViewerStep decoder window) {} turns clicked.widget ∧
      lastDisplayed turns = (ViewerDesk.displayedContents result decoy).getLast? ∧
      clicked.widget.isClosed = false := by
  dsimp only [ViewerDesk.clickedViewer]
  split
  · exact openViewer_run _
  · exact displays_run _

theorem session_clickedViewer (call : ServiceCall) (decoy : DeceptionResponse) :
    (ViewerDesk.clickedViewer decoder window geometry calls (call.result crypto) decoy).session =
      call.session? crypto := by
  cases returned : (call.result crypto).outcome with
  | ok outcome => simp only [ViewerDesk.clickedViewer, ServiceCall.session?, returned]
  | error exc => simp only [ViewerDesk.clickedViewer, ServiceCall.session?, returned]

/-- A viewer notes a capture once, and is closed by it. -/
structure DeskViewer.Noted (viewer : DeskViewer) : Prop where
  noted : ∀ record ∈ viewer.session,
    record.screenCaptureAttempts = if viewer.captureDetected then 1 else 0
  detected : viewer.captureDetected = true → viewer.widget.isClosed = true

/-- What is known of the viewer of a click. -/
structure DeskViewer.Traced (crypto : Cryptography) (decoder : ImageDecoder)
    (window : NativeWindow) (call : ServiceCall) (decoy : DeceptionResponse)
    (viewer : DeskViewer) : Prop where
  displays : ∃ turns, Run (ViewerStep decoder window) {} turns viewer.widget ∧
    lastDisplayed turns = (ViewerDesk.displayedContents (call.result crypto) decoy).getLast?
  notes : viewer.Noted

theorem DeskViewer.Traced.ordered (traced : viewer.Traced crypto decoder window call decoy) :
    viewer.widget.Ordered := by
  obtain ⟨turns, run, -⟩ := traced.displays
  exact (SecureViewerWidget.sound_of_run run).ordered

theorem lastDisplayed_fromWindow {turns : List ViewerTurn} {turn : ViewerTurn}
    (fromWindow : ViewerDesk.FromWindow turn.event) :
    lastDisplayed (turns ++ [turn]) = lastDisplayed turns := by
  rw [SecureViewerWidget.lastDisplayed_concat]
  cases event : turn.event with
  | displayed geometry content contentType =>
      rw [event] at fromWindow
      exact fromWindow.elim
  | _ => rfl

/-- An event of a viewer notes a capture only when it closes the viewer. -/
theorem DeskViewer.Traced.turned {turn : ViewerTurn} {widget : SecureViewerWidget}
    {repository : TrackingRepository} {now : UtcInstant} {nonce : AesCipher.Nonce}
    (traced : viewer.Traced crypto decoder window call decoy)
    (fromWindow : ViewerDesk.FromWindow turn.event)
    (step : ViewerStep decoder window viewer.widget turn widget) :
    (turn.signals.foldl (ViewerDesk.hear crypto totalSeconds keys now nonce)
      ({ viewer with widget }, repository)).1.Traced crypto decoder window call decoy := by
  obtain ⟨turns, run, last⟩ := traced.displays
  have displays : ∃ turns, Run (ViewerStep decoder window) {} turns widget ∧
      lastDisplayed turns = (ViewerDesk.displayedContents (call.result crypto) decoy).getLast? :=
    ⟨_, run.tail step, (lastDisplayed_fromWindow fromWindow).trans last⟩
  have kept (same : viewer.widget.isClosed = true → widget.isClosed = true) :
      DeskViewer.Traced crypto decoder window call decoy { viewer with widget } :=
    ⟨displays, traced.notes.noted, fun detected => same (traced.notes.detected detected)⟩
  have signalled := traced.ordered.signalled step
  generalize turn.signals = signals at signalled ⊢
  cases signalled with
  | quiet same => exact kept same.trans
  | refused message same => exact kept same.trans
  | handlerRaised exc wasOpen isOpen => exact kept fun isClosed => by simp [wasOpen] at isClosed
  | closedItself wasOpen isClosed => exact kept fun _ => isClosed
  | handled wasOpen isClosed =>
      have undetected : viewer.captureDetected = false := by
        by_contra detected
        have wasClosed := traced.notes.detected (Bool.not_eq_false _ ▸ detected)
        exact absurd (wasOpen.symm.trans wasClosed) (by simp)
      refine ⟨displays, ?_, fun _ => isClosed⟩
      intro changed member
      obtain ⟨record, held, rfl⟩ := Option.mem_map.mp member
      have before := traced.notes.noted record held
      rw [undetected] at before
      show record.screenCaptureAttempts + 1 = 1
      rw [before]
      rfl

/-- The viewer of a click, before anything has happened to it. -/
theorem DeskViewer.traced_clicked (call : ServiceCall) (decoy : DeceptionResponse) :
    DeskViewer.Traced crypto decoder window call decoy
      (ViewerDesk.clickedViewer decoder window geometry calls (call.result crypto) decoy) where
  displays := by
    obtain ⟨turns, run, last, -⟩ := @clickedViewer_run decoder window geometry calls
      (call.result crypto) decoy
    exact ⟨turns, run, last⟩
  notes := by
    have session := @session_clickedViewer crypto decoder window geometry calls call decoy
    have undetected : (ViewerDesk.clickedViewer decoder window geometry calls
        (call.result crypto) decoy).captureDetected = false := by
      dsimp only [ViewerDesk.clickedViewer]
      split <;> rfl
    refine ⟨fun record held => ?_, fun detected => ?_⟩
    · rw [session] at held
      rw [undetected]
      unfold ServiceCall.session? at held
      split at held
      · rename_i outcome returned
        exact attemptAccess_unnoted outcome returned record held
      · cases held
    · rw [undetected] at detected
      cases detected

/-- The active viewer is that of the last click, and what was left of the others is in order. -/
structure ViewerDesk.Traced (crypto : Cryptography) (decoder : ImageDecoder)
    (window : NativeWindow) (events : List DeskEvent) (desk : ViewerDesk) : Prop where
  active : ∀ viewer, desk.active = some viewer →
    ∃ call decoy, latest DeskEvent.click? events = some (call, decoy) ∧
      viewer.Traced crypto decoder window call decoy
  replaced : ∀ viewer ∈ desk.replaced, viewer.Noted

theorem ViewerDesk.Traced.viewers (traced : desk.Traced crypto decoder window events)
    (member : viewer ∈ desk.viewers) : viewer.Noted := by
  rcases List.mem_append.mp member with replaced | active
  · exact traced.replaced viewer replaced
  · obtain ⟨call, decoy, -, here⟩ := traced.active viewer (Option.mem_toList.mp active)
    exact here.notes

theorem ViewerDesk.Traced.step (traced : desk.Traced crypto decoder window events)
    (stepped : DeskStep crypto totalSeconds keys decoder window desk event next) :
    next.Traced crypto decoder window (events ++ [event]) := by
  cases stepped with
  | clicked geometry calls shared returns =>
      rename_i call decoy
      constructor
      · intro viewer isActive
        obtain rfl := Option.some.inj isActive
        exact ⟨call, decoy, latest_concat .., DeskViewer.traced_clicked call decoy⟩
      · exact fun viewer member => traced.viewers member
  | turned now nonce isActive fromWindow step =>
      constructor
      · intro viewer stillActive
        obtain rfl := Option.some.inj stillActive
        obtain ⟨call, decoy, clicked, here⟩ := traced.active _ isActive
        exact ⟨call, decoy, (latest_concat ..).trans clicked, here.turned fromWindow step⟩
      · exact traced.replaced

theorem ViewerDesk.traced_of_run {throttle : DeviceMismatchThrottle}
    (run : Run (DeskStep crypto totalSeconds keys decoder window) { throttle } events desk) :
    desk.Traced crypto decoder window events :=
  run.history (ViewerDesk.Traced crypto decoder window) ViewerDesk.Traced.step
    ⟨(fun _ isActive => by cases isActive), List.forall_mem_nil _⟩

/-! ## The sessions of the desk -/

/-- The service of a click tracks its sessions. -/
def DeskEvent.Tracked (event : DeskEvent) : Prop :=
  ∀ click ∈ event.click?, click.1.service.tracksUsage = true

/-- A step that makes no click while a viewer is open. -/
def OrderlyStep (crypto : Cryptography) (totalSeconds : Int → PyFloat)
    (keys : TrackingProtectionKeys) (decoder : ImageDecoder) (window : NativeWindow)
    (desk : ViewerDesk) (event : DeskEvent) (next : ViewerDesk) : Prop :=
  DeskStep crypto totalSeconds keys decoder window desk event next ∧
    (event.click?.isSome = true → desk.Cleared)

theorem ViewerDesk.lostSessions_clicked (desk : ViewerDesk) (result : AccessResult) :
    (desk.clicked decoder window geometry calls result decoy).lostSessions =
      desk.lostSessions ++ desk.openSessions := by
  rw [lostSessions, clicked, viewers, List.filterMap_append]
  rfl

theorem ViewerDesk.openSessions_clicked (desk : ViewerDesk) (call : ServiceCall) :
    (desk.clicked decoder window geometry calls (call.result crypto) decoy).openSessions =
      (call.session? crypto).toList := by
  obtain ⟨-, -, -, isOpen⟩ := @clickedViewer_run decoder window geometry calls
    (call.result crypto) decoy
  have session : (clickedViewer decoder window geometry calls (call.result crypto) decoy).session =
      call.session? crypto := session_clickedViewer call decoy
  have opens := (DeskViewer.openSession?_of_open isOpen).trans session
  simp only [openSessions, clicked, Option.toList_some, List.filterMap_cons, List.filterMap_nil,
    opens]
  cases call.session? crypto <;> rfl

theorem ViewerDesk.exists_active_clicked (desk : ViewerDesk) {record : UsageRecord}
    (handedOut : call.session? crypto = some record) :
    ∃ viewer, (desk.clicked decoder window geometry calls (call.result crypto) decoy).active =
        some viewer ∧ viewer.widget.isClosed = false ∧ viewer.session = some record := by
  obtain ⟨-, -, -, isOpen⟩ := @clickedViewer_run decoder window geometry calls
    (call.result crypto) decoy
  exact ⟨_, rfl, isOpen, (session_clickedViewer call decoy).trans handedOut⟩

/-- Nothing is lost as long as no click is made while a viewer is open. -/
theorem ViewerDesk.nothing_lost {throttle : DeviceMismatchThrottle}
    (run : Run (OrderlyStep crypto totalSeconds keys decoder window) { throttle } events desk) :
    desk.lostSessions = [] := by
  refine run.invariant (fun desk => desk.lostSessions = []) (fun nothing stepped => ?_) rfl
  obtain ⟨step, orderly⟩ := stepped
  cases step with
  | clicked geometry calls shared returns =>
      rename_i desk call decoy
      have cleared := orderly rfl
      rw [lostSessions_clicked, nothing, List.nil_append, openSessions,
        List.filterMap_eq_nil_iff]
      intro viewer isActive
      exact DeskViewer.openSession?_of_closed (cleared viewer (Option.mem_toList.mp isActive))
  | turned now nonce isActive fromWindow step => exact nothing

theorem ViewerDesk.audit_clicked (desk : ViewerDesk)
    (shared : call.service.throttle = desk.throttle) (tracks : call.service.tracksUsage = true) :
    AuditStep crypto totalSeconds keys desk.audit (.attempt call)
      (desk.clicked decoder window geometry calls (call.result crypto) decoy).audit := by
  have step := @AuditStep.attempt crypto totalSeconds keys desk.audit call shared tracks
  have sessions : (desk.clicked decoder window geometry calls (call.result crypto) decoy).audit =
      ⟨(call.result crypto).throttle, desk.audit.sessions ++ (call.session? crypto).toList,
        desk.repository⟩ := by
    simp only [audit, lostSessions_clicked, openSessions_clicked]
    rfl
  rw [sessions]
  exact step

/-- There is an audit trail behind the desk. -/
def ViewerDesk.Audits (crypto : Cryptography) (totalSeconds : Int → PyFloat)
    (keys : TrackingProtectionKeys) (throttle : DeviceMismatchThrottle)
    (events : List DeskEvent) (desk : ViewerDesk) : Prop :=
  ∃ audits, Run (AuditStep crypto totalSeconds keys) { throttle } audits desk.audit ∧
    audits.countP (AuditEvent.audited crypto) = events.countP (DeskEvent.audited crypto) ∧
    audits.countP AuditEvent.turnedAway = events.countP DeskEvent.turnedAway

theorem ViewerDesk.Audits.clicked {throttle : DeviceMismatchThrottle}
    (audits : desk.Audits crypto totalSeconds keys throttle events)
    (shared : call.service.throttle = desk.throttle) (tracks : call.service.tracksUsage = true) :
    ViewerDesk.Audits crypto totalSeconds keys throttle (events ++ [.viewClicked call decoy])
      (desk.clicked decoder window geometry calls (call.result crypto) decoy) := by
  obtain ⟨trail, run, audited, away⟩ := audits
  refine ⟨_, run.tail (desk.audit_clicked shared tracks), ?_, ?_⟩
  · rw [List.countP_append, List.countP_append, audited, List.countP_singleton,
      List.countP_singleton]
    rfl
  · rw [List.countP_append, List.countP_append, away, List.countP_singleton,
      List.countP_singleton]
    rfl

theorem ViewerDesk.Audits.turned {throttle : DeviceMismatchThrottle} {turn : ViewerTurn}
    {widget : SecureViewerWidget} {now : UtcInstant} {nonce : AesCipher.Nonce}
    (audits : desk.Audits crypto totalSeconds keys throttle events)
    (isActive : desk.active = some viewer)
    (signalled : viewer.widget.Signalled widget turn.signals) :
    ViewerDesk.Audits crypto totalSeconds keys throttle (events ++ [.viewerTurned turn])
      (desk.heard (turn.signals.foldl (ViewerDesk.hear crypto totalSeconds keys now nonce)
        ({ viewer with widget }, desk.repository))) := by
  obtain ⟨trail, run, audited, away⟩ := audits
  have unheard : desk.heard (viewer, desk.repository) = desk := by
    rw [ViewerDesk.heard, ← isActive]
  obtain ⟨more, rest, noneAudited, noneAway⟩ := @audits_signals crypto totalSeconds keys desk
    viewer desk.repository now nonce widget turn.signals signalled
  rw [unheard] at rest
  refine ⟨trail ++ more, run.append rest, ?_, ?_⟩
  · rw [List.countP_append, List.countP_append, audited, noneAudited]
    rfl
  · rw [List.countP_append, List.countP_append, away, noneAway]
    rfl

theorem ViewerDesk.audits_of_run {throttle : DeviceMismatchThrottle}
    (run : Run (DeskStep crypto totalSeconds keys decoder window) { throttle } events desk)
    (tracked : ∀ event ∈ events, event.Tracked) :
    desk.Audits crypto totalSeconds keys throttle events := by
  have kept := (run.restrict tracked).history
    (fun events desk => desk.Traced crypto decoder window events ∧
      desk.Audits crypto totalSeconds keys throttle events)
    (fun kept stepped => ?_)
    ⟨⟨(fun _ isActive => by cases isActive), List.forall_mem_nil _⟩, [], .refl _, rfl, rfl⟩
  · exact kept.2
  · obtain ⟨traced, audits⟩ := kept
    refine ⟨traced.step stepped.1, ?_⟩
    obtain ⟨step, tracks⟩ := stepped
    cases step with
    | clicked geometry calls shared returns => exact audits.clicked shared (tracks _ rfl)
    | turned now nonce isActive fromWindow step =>
        obtain ⟨call, decoy, -, here⟩ := traced.active _ isActive
        exact audits.turned isActive (here.ordered.signalled step)

/-- In every run of the desk, the entries of the log, the session of the viewer that is open and
those that were lost make up the attempts to be audited, but for the ones that were turned away:
a viewer that is torn down closes its session once, however that comes about, and only a click
while it is open loses it.  A session notes a capture exactly when the capture closed its
viewer. -/
theorem desk_keeps_audit (total : crypto.EncryptsAll)
    (size : keys.encryptionKey.length = AesCipher.aesKeySizeBytes)
    {throttle : DeviceMismatchThrottle}
    (run : Run (DeskStep crypto totalSeconds keys decoder window) { throttle } events desk)
    (tracked : ∀ event ∈ events, event.Tracked) :
    desk.repository.listEntries.length + (desk.lostSessions.length + desk.openSessions.length) +
        events.countP DeskEvent.turnedAway = events.countP (DeskEvent.audited crypto) ∧
      (Run (OrderlyStep crypto totalSeconds keys decoder window) { throttle } events desk →
        desk.lostSessions = []) ∧
      ∀ viewer ∈ desk.viewers,
        (∀ record ∈ viewer.session,
          record.screenCaptureAttempts = if viewer.captureDetected then 1 else 0) ∧
        (viewer.captureDetected = true → viewer.widget.isClosed = true) := by
  obtain ⟨trail, audit, audited, away⟩ := ViewerDesk.audits_of_run run tracked
  have counted := (Audited.run total size audit).counted
  refine ⟨?_, ViewerDesk.nothing_lost, fun viewer member => ?_⟩
  · rw [audited, away, ViewerDesk.audit, List.length_append] at counted
    exact counted
  · have notes := (ViewerDesk.traced_of_run run).viewers member
    exact ⟨notes.noted, notes.detected⟩

/-! ## What is shown -/

theorem rendered_eq_some {content shown : Bytes} {contentType : String}
    (renders : SecureViewerWidget.rendered decoder content contentType = some shown) :
    shown = content := by
  unfold SecureViewerWidget.rendered at renders
  split_ifs at renders
  · exact (Option.some.inj renders).symm
  · obtain ⟨_, -, same⟩ := Option.map_eq_some_iff.mp renders
    exact same.symm
  · exact (Option.some.inj renders).symm

theorem grant_of_view {view : View} (member : view ∈ (call.result crypto).views) :
    ∃ metadata, Grant crypto call.service call.request call.draws metadata view.buffer := by
  rcases attemptAccess_cases crypto call.service call.disk call.request call.draws with
    ⟨metadata, plaintext, grant, result⟩ | idle
  · rw [ServiceCall.result, result, viewed_views] at member
    obtain rfl := List.mem_singleton.mp member
    exact ⟨metadata, grant⟩
  · rw [ServiceCall.result, idle.views] at member
    cases member

/-- What the active viewer shows at any time is of the last click: the decoy where its attempt
was not granted, and otherwise the plaintext that was granted to it, also where its burn raised.
A viewer that is closed shows nothing. -/
theorem desk_shows_granted_or_decoy {throttle : DeviceMismatchThrottle}
    (run : Run (DeskStep crypto totalSeconds keys decoder window) { throttle } events desk)
    {content : Bytes} (isActive : desk.active = some viewer)
    (shown : viewer.widget.shown = some content) :
    viewer.widget.isClosed = false ∧
      ∃ call decoy, latest DeskEvent.click? events = some (call, decoy) ∧
        ((∃ outcome, (call.result crypto).outcome = .ok outcome ∧ outcome.granted = false ∧
            content = decoy.content) ∨
          (∃ metadata, Grant crypto call.service call.request call.draws metadata content) ∧
            ∀ outcome, (call.result crypto).outcome = .ok outcome → outcome.granted = true) := by
  obtain ⟨call, decoy, clicked, traced⟩ := (ViewerDesk.traced_of_run run).active viewer isActive
  obtain ⟨turns, widgetRun, last⟩ := traced.displays
  have shows := (SecureViewerWidget.sound_of_run widgetRun).shows
  rw [shown] at shows
  split_ifs at shows with isClosed
  obtain ⟨displayed, lastEq, renders⟩ := Option.bind_eq_some_iff.mp shows.symm
  obtain rfl := rendered_eq_some renders
  rw [last, ViewerDesk.displayedContents] at lastEq
  refine ⟨Bool.not_eq_true _ ▸ isClosed, call, decoy, clicked, ?_⟩
  have granted (member : displayed ∈ (call.result crypto).views.map fun view =>
      (view.buffer, sniffContentType view.buffer)) :
      ∃ metadata, Grant crypto call.service call.request call.draws metadata displayed.1 := by
    obtain ⟨view, viewed, rfl⟩ := List.mem_map.mp member
    exact grant_of_view viewed
  cases returned : (call.result crypto).outcome with
  | error exc =>
      rw [returned] at lastEq
      simp only [List.append_nil] at lastEq
      exact .inr ⟨granted (List.mem_of_getLast? lastEq), fun _ ended => by cases ended⟩
  | ok outcome =>
      rw [returned] at lastEq
      cases isGranted : outcome.granted with
      | false =>
          simp only [isGranted, Bool.false_eq_true, if_false, List.getLast?_concat,
            Option.some.injEq] at lastEq
          exact .inl ⟨outcome, rfl, isGranted, by rw [← lastEq]⟩
      | true =>
          simp only [isGranted, if_true, List.append_nil] at lastEq
          refine .inr ⟨granted (List.mem_of_getLast? lastEq), fun other same => ?_⟩
          rw [← Except.ok.inj same]
          exact isGranted

end Viewers

/-! ## Two desks with one viewer -/

def plainGeometry : WindowGeometry :=
  ⟨⟨900, 700⟩, ⟨900, 700⟩⟩

def plainDecoy : DeceptionResponse where
  trigger := .deviceMismatch
  contentType := .fakeText
  content := [104]
  mimeType := "text/plain"
  filename := "notes_1000.txt"
  generatedAt := plainInstant

/-- An attempt from a foreign machine returns, unless the next one locks the file. -/
theorem trackedCall_returns {attempts : Nat} (few : attempts + 1 < maxFailedAttempts) :
    Returns
      ((trackedCall (strangerThrottle attempts)).result (plainCrypto [104, 105])).outcome := by
  have fewer : attempts < maxFailedAttempts := by omega
  have marked : (trackedCall (strangerThrottle attempts)).mark? (plainCrypto [104, 105]) =
      some (.failure plainInstant) := by
    have notThrottled : (strangerThrottle attempts).isLocked plainInstant "f" = false := by
      rw [DeviceMismatchThrottle.isLocked_eq, stateOf_strangerThrottle fewer]
      rfl
    exact strangerCall_mark notThrottled
  rcases result_throttle (plainCrypto [104, 105]) (trackedCall (strangerThrottle attempts))
    with ⟨unmarked, -⟩ | ⟨passed, -⟩ | ⟨-, -, returns⟩
  · rw [marked] at unmarked
    cases unmarked
  · rw [marked] at passed
    cases passed
  · apply returns.mpr
    rw [DeviceMismatchThrottle.registerMismatch_returns]
    show _ ≤ ((strangerThrottle attempts).stateOf "f").failedAttempts + 1 → _
    rw [stateOf_strangerThrottle fewer]
    intro reached
    exact absurd reached (by simp only; omega)

/-- The first of these attempts. -/
def firstCall : ServiceCall :=
  trackedCall (strangerThrottle 0)

theorem firstCall_audited :
    (AuditEvent.attempt firstCall).audited (plainCrypto [104, 105]) = true := by
  have returns := trackedCall_returns (show 0 + 1 < maxFailedAttempts by decide)
  rw [AuditEvent.audited, firstCall, decide_eq_true returns]
  rfl

/-- The desk after the first click. -/
def firstDesk (decoy : DeceptionResponse) : ViewerDesk :=
  ViewerDesk.clicked {} plainDecoder plainWindow plainGeometry ⟨.refused, .succeeded⟩
    (firstCall.result (plainCrypto [104, 105])) decoy

theorem firstDesk_run (decoy : DeceptionResponse) :
    Run (DeskStep (plainCrypto [104, 105]) wholeSeconds plainTrackingKeys plainDecoder
      plainWindow) {} [.viewClicked firstCall decoy] (firstDesk decoy) :=
  .single (.clicked {} _ _ rfl fun _ _ => rfl)

theorem firstDesk_active (decoy : DeceptionResponse) :
    ∃ viewer record, (firstDesk decoy).active = some viewer ∧
      viewer.widget.isClosed = false ∧ viewer.session = some record := by
  have opens := @isSome_session? (plainCrypto [104, 105]) firstCall rfl
  have away : (AuditEvent.attempt firstCall).turnedAway = false := rfl
  rw [firstCall_audited, away] at opens
  obtain ⟨record, session⟩ := Option.isSome_iff_exists.mp opens
  obtain ⟨viewer, isActive, isOpen, held⟩ := ViewerDesk.exists_active_clicked {} session
  exact ⟨viewer, record, isActive, isOpen, held⟩

/-- A view with the decoy forced, after the first click. -/
def forcedCall : ServiceCall :=
  { firstCall with
    service := { firstCall.service with
      throttle := (firstCall.result (plainCrypto [104, 105])).throttle }
    request := { plainRequest [104, 105] with forceDeception := true } }

/-- The desk after another click, which is made while the first viewer is open. -/
def forcedDesk (first decoy : DeceptionResponse) : ViewerDesk :=
  (firstDesk first).clicked plainDecoder plainWindow plainGeometry ⟨.refused, .succeeded⟩
    (forcedCall.result (plainCrypto [104, 105])) decoy

theorem forcedDesk_run (first decoy : DeceptionResponse) :
    Run (DeskStep (plainCrypto [104, 105]) wholeSeconds plainTrackingKeys plainDecoder
      plainWindow) {} [.viewClicked firstCall first, .viewClicked forcedCall decoy]
      (forcedDesk first decoy) :=
  (firstDesk_run first).tail (.clicked _ _ _ rfl fun _ _ => rfl)

theorem forcedDesk_repository (first decoy : DeceptionResponse) :
    (forcedDesk first decoy).repository = [] :=
  rfl

theorem forcedDesk_openSessions (first decoy : DeceptionResponse) :
    (forcedDesk first decoy).openSessions = [] := by
  have unheld : forcedCall.session? (plainCrypto [104, 105]) = none := by
    rw [ServiceCall.session?, (result_of_unvalidated (.inl rfl)).2]
    rfl
  rw [forcedDesk, ViewerDesk.openSessions_clicked, unheld]
  rfl

theorem ViewerDesk.closes_by_hand {crypto : Cryptography} {desk : ViewerDesk} {viewer : DeskViewer}
    (isActive : desk.active = some viewer) (isOpen : viewer.widget.isClosed = false) :
    ∃ next, DeskStep crypto wholeSeconds plainTrackingKeys plainDecoder plainWindow desk
        (.viewerTurned ⟨.windowClosed .succeeded, [.closed]⟩) next ∧ next.openSessions = [] := by
  obtain ⟨isClosed, signals⟩ :=
    @SecureViewerWidget.teardown_of_open viewer.widget plainWindow isOpen .succeeded
  have closing : ViewerStep plainDecoder plainWindow viewer.widget
      ⟨.windowClosed .succeeded, [.closed]⟩
      (viewer.widget.teardown plainWindow .succeeded).1 :=
    ⟨trivial, Prod.ext rfl signals⟩
  refine ⟨_, .turned desk plainInstant (padTo 12 []) isActive trivial closing, ?_⟩
  exact List.filterMap_cons_none (DeskViewer.openSession?_of_closed isClosed)

theorem firstClick_tracked {decoy : DeceptionResponse} :
    DeskEvent.Tracked (.viewClicked firstCall decoy) := by
  intro click clicked
  obtain rfl := Option.some.inj clicked
  rfl

/-- The viewer of the first click is closed by hand, and its session is logged; or another click
is made before that, and it is lost. -/
theorem desk_keeps_audit_stranger :
    (∃ events desk, Run (DeskStep (plainCrypto [104, 105]) wholeSeconds plainTrackingKeys
        plainDecoder plainWindow) {} events desk ∧ desk.repository.listEntries.length = 1 ∧
      desk.lostSessions.length = 0) ∧
    ∃ events desk, Run (DeskStep (plainCrypto [104, 105]) wholeSeconds plainTrackingKeys
        plainDecoder plainWindow) {} events desk ∧ desk.repository.listEntries.length = 0 ∧
      desk.lostSessions.length = 1 := by
  obtain ⟨viewer, record, isActive, isOpen, -⟩ := firstDesk_active plainDecoy
  have audited : DeskEvent.audited (plainCrypto [104, 105])
      (.viewClicked firstCall plainDecoy) = true := by
    rw [DeskEvent.audited_viewClicked, firstCall_audited]
  constructor
  · obtain ⟨desk, closed, noneOpen⟩ := ViewerDesk.closes_by_hand isActive isOpen
    have run := (firstDesk_run plainDecoy).tail closed
    obtain ⟨counted, orderly, -⟩ := desk_keeps_audit transparent_encryptsAll (by decide) run
      (List.forall_mem_cons.mpr ⟨firstClick_tracked, List.forall_mem_singleton.mpr
        fun _ clicked => by cases clicked⟩)
    have nothing := orderly (.append
      (.single ⟨.clicked {} _ _ rfl fun _ _ => rfl, fun _ _ isActive => by cases isActive⟩)
      (.single ⟨closed, fun isClick => by cases isClick⟩))
    have once : ([DeskEvent.viewClicked firstCall plainDecoy] ++
        [DeskEvent.viewerTurned ⟨.windowClosed .succeeded, [.closed]⟩]).countP
          (DeskEvent.audited (plainCrypto [104, 105])) = 1 := by
      rw [List.singleton_append, List.countP_cons_of_pos audited]
      rfl
    have noneAway : ([DeskEvent.viewClicked firstCall plainDecoy] ++
        [DeskEvent.viewerTurned ⟨.windowClosed .succeeded, [.closed]⟩]).countP
          DeskEvent.turnedAway = 0 := rfl
    rw [noneOpen, nothing, once, noneAway] at counted
    simp only [List.length_nil, Nat.add_zero] at counted
    exact ⟨_, desk, run, counted, by rw [nothing]; rfl⟩
  · have run := forcedDesk_run plainDecoy plainDecoy
    have noneOpen := forcedDesk_openSessions plainDecoy plainDecoy
    have unlogged := forcedDesk_repository plainDecoy plainDecoy
    generalize forcedDesk plainDecoy plainDecoy = desk at run noneOpen unlogged
    obtain ⟨counted, -⟩ := desk_keeps_audit transparent_encryptsAll (by decide) run
      (List.forall_mem_cons.mpr ⟨firstClick_tracked, List.forall_mem_singleton.mpr
        fun click clicked => by
          obtain rfl := Option.some.inj clicked
          rfl⟩)
    have once : [DeskEvent.viewClicked firstCall plainDecoy,
        .viewClicked forcedCall plainDecoy].countP
          (DeskEvent.audited (plainCrypto [104, 105])) = 1 := by
      have exempt : ¬ DeskEvent.audited (plainCrypto [104, 105])
          (.viewClicked forcedCall plainDecoy) = true := Bool.false_ne_true
      rw [List.countP_cons_of_pos audited, List.countP_cons_of_neg exempt, List.countP_nil]
    have noneAway : [DeskEvent.viewClicked firstCall plainDecoy,
        .viewClicked forcedCall plainDecoy].countP DeskEvent.turnedAway = 0 := rfl
    have nothingLogged : desk.repository.listEntries.length = 0 := by
      rw [unlogged]
      rfl
    rw [noneOpen, nothingLogged, once, noneAway, List.length_nil] at counted
    refine ⟨_, desk, run, nothingLogged, ?_⟩
    omega

/-- The decoy of the first click, which is not shown any more after the second one. -/
def firstDecoy : DeceptionResponse :=
  { plainDecoy with content := [105] }

theorem forcedDesk_shown (first : DeceptionResponse) :
    ∃ viewer, (forcedDesk first plainDecoy).active = some viewer ∧
      viewer.widget.shown = some plainDecoy.content := by
  have forced := (@result_of_unvalidated (plainCrypto [104, 105]) forcedCall (.inl rfl)).2
  have desk : forcedDesk first plainDecoy = (firstDesk first).clicked plainDecoder plainWindow
      plainGeometry ⟨.refused, .succeeded⟩ forcedCall.unvalidated plainDecoy := by
    rw [forcedDesk, forced]
  rw [desk]
  exact ⟨_, rfl, rfl⟩

theorem desk_shows_granted_or_decoy_forced :
    ∃ events desk viewer, Run (DeskStep (plainCrypto [104, 105]) wholeSeconds plainTrackingKeys
        plainDecoder plainWindow) {} events desk ∧
      desk.active = some viewer ∧ viewer.widget.shown = some plainDecoy.content ∧
      viewer.widget.isClosed = false ∧
      latest DeskEvent.click? events = some (forcedCall, plainDecoy) := by
  obtain ⟨viewer, isActive, shows⟩ := forcedDesk_shown firstDecoy
  have run := forcedDesk_run firstDecoy plainDecoy
  obtain ⟨isOpen, -⟩ := desk_shows_granted_or_decoy run isActive shows
  exact ⟨_, _, viewer, run, isActive, shows, isOpen, rfl⟩

end CryptoUsb
