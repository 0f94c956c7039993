import CryptoUsb.DecryptionPage
import CryptoUsb.TransitionRuns

/-!
# Viewing sessions

The private key that a user loads into the decryption page, and the passphrase it was
loaded with, across the clicks of the page and the viewers it opens.  Both are set
together.  A viewer that closes takes the key back, and leaves the passphrase.
-/

namespace CryptoUsb

open ByteString TransitionRuns

/-! ## The page and its viewers -/

/-- A viewer on the screen, and whether a screen capture was detected while it was open. -/
structure OpenViewer where
  captureDetected : Bool := false
  deriving DecidableEq, Repr

/-- The page with its passphrase field, its status line and the viewers it has opened. -/
structure PageWindow where
  page : DecryptionPage
  passphraseText : String
  status : String
  viewers : List OpenViewer

/-- What the status line shows after a click that did not come to anything. -/
def DecryptionPage.ClickEnd.status (ended : DecryptionPage.ClickEnd) (before : String) : String :=
  match ended with
  | .refused message => message
  | .ignored | .raised _ => before

namespace PageWindow

/-- `_on_choose_key_clicked`; a dialog that is cancelled answers with empty text. -/
def onChooseKeyClicked (window : PageWindow) (path : String) : PageWindow :=
  if path = "" then window
  else { window with page := { window.page with keyPath := path } }

/-- `_on_load_key_clicked`. -/
def onLoadKeyClicked (serialization : KeySerialization RSAPrivateKey RSAPublicKey)
    (window : PageWindow) (privatePem : Raises Bytes) (generated : RSAPrivateKey) : PageWindow :=
  if window.page.keyPath = "" ∨ window.page.keyPath = "No private key loaded." then
    { window with status := "Choose a private key file first." }
  else
    match DecryptionPage.loadKey serialization window.page privatePem window.passphraseText
        generated with
    | .ok page => { window with page, status := "Private key loaded." }
    | .error _ => window

/-- `_on_view_clicked` with the viewer it opens.  `shown` is what comes between the attempt
and the viewer: the decoy is displayed, or the containers are listed again. -/
def onViewClicked (crypto : Cryptography) (window : PageWindow) (probes : HostProbes)
    (display : Bytes → Raises Unit) (shown : Raises Unit) (disk : Disk) (draws : AccessDraws) :
    PageWindow :=
  let clicked := DecryptionPage.onViewClicked crypto probes window.page display disk draws
  match clicked.attempt with
  | .error ended => { window with page := clicked.page, status := ended.status window.status }
  | .ok result =>
      match result.outcome.bind fun _ => shown with
      | .error _ => { window with page := clicked.page }
      | .ok _ =>
          { window with
            page := clicked.page
            status := match window.page.selectedContainer with
              | some path => s!"Opened {path.name} in the secure viewer."
              | none => window.status
            viewers := window.viewers ++ [{}] }

/-- `_on_capture_detected` of an open viewer. -/
def onCaptureDetected (window : PageWindow) (index : Nat) : PageWindow :=
  { window with viewers := window.viewers.modify index fun _ => { captureDetected := true } }

/-- `_on_viewer_closed` of an open viewer. -/
def onViewerClosed (window : PageWindow) (index : Fin window.viewers.length) : PageWindow where
  page := window.page.viewerClosed
  passphraseText := ""
  status :=
    if (window.viewers.get index).captureDetected then
      "Secure viewer closed: a screen capture attempt was detected."
    else "Secure viewer closed."
  viewers := window.viewers.eraseIdx index

/-- `_on_rebind_clicked` with what it shows. -/
def onRebindClicked (crypto : Cryptography)
    (serialization : KeySerialization RSAPrivateKey RSAPublicKey) (window : PageWindow)
    (probes : HostProbes) (disk : Disk) (answer : DecryptionPage.RebindAnswer) : PageWindow :=
  let rebound := DecryptionPage.onRebindClicked crypto probes window.page serialization disk answer
  { window with
    page := rebound.page
    status := match rebound.tracked, window.page.selectedContainer, window.page.selectedDevice with
      | .ok _, some path, some device => s!"Rebound {path.name} to {device.mountPoint}."
      | .error ended, _, _ => ended.status window.status
      | _, _, _ => window.status }

/-- Whatever else changes about the page: selections, the session, the local records. -/
def refreshed (window : PageWindow) (page : DecryptionPage) (passphraseText : String) :
    PageWindow :=
  { window with
    page := { page with
      keyWrapper := window.page.keyWrapper
      loadedKeyPassphrase := window.page.loadedKeyPassphrase
      keyPath := window.page.keyPath }
    passphraseText }

end PageWindow

/-! ## Runs -/

/-- What happens to the page. -/
inductive PageEvent
  | keyChosen (path : String)
  | keyLoaded (privatePem : Raises Bytes) (generated : RSAPrivateKey)
  | viewed (probes : HostProbes) (display : Bytes → Raises Unit) (shown : Raises Unit)
      (disk : Disk) (draws : AccessDraws)
  | captureDetected (index : Nat)
  | viewerClosed (index : Nat)
  | rebound (probes : HostProbes) (disk : Disk) (answer : DecryptionPage.RebindAnswer)
  | refreshed (page : DecryptionPage) (passphraseText : String)

/-- One handler runs after the other. -/
inductive PageStep (crypto : Cryptography)
    (serialization : KeySerialization RSAPrivateKey RSAPublicKey) :
    PageWindow → PageEvent → PageWindow → Prop
  | keyChosen (window : PageWindow) (path : String) :
      PageStep crypto serialization window (.keyChosen path) (window.onChooseKeyClicked path)
  | keyLoaded (window : PageWindow) (privatePem : Raises Bytes) (generated : RSAPrivateKey) :
      PageStep crypto serialization window (.keyLoaded privatePem generated)
        (window.onLoadKeyClicked serialization privatePem generated)
  | viewed (window : PageWindow) (probes : HostProbes) (display : Bytes → Raises Unit)
      (shown : Raises Unit) (disk : Disk) (draws : AccessDraws) :
      PageStep crypto serialization window (.viewed probes display shown disk draws)
        (window.onViewClicked crypto probes display shown disk draws)
  | captureDetected (window : PageWindow) (index : Nat) :
      PageStep crypto serialization window (.captureDetected index)
        (window.onCaptureDetected index)
  | viewerClosed (window : PageWindow) (index : Fin window.viewers.length) :
      PageStep crypto serialization window (.viewerClosed index) (window.onViewerClosed index)
  | rebound (window : PageWindow) (probes : HostProbes) (disk : Disk)
      (answer : DecryptionPage.RebindAnswer) :
      PageStep crypto serialization window (.rebound probes disk answer)
        (window.onRebindClicked crypto serialization probes disk answer)
  | refreshed (window : PageWindow) (page : DecryptionPage) (passphraseText : String) :
      PageStep crypto serialization window (.refreshed page passphraseText)
        (window.refreshed page passphraseText)

namespace PageWindow

/-- The page as `__init__` leaves it. -/
structure Fresh (window : PageWindow) : Prop where
  keyWrapper : window.page.keyWrapper = none
  loadedKeyPassphrase : window.page.loadedKeyPassphrase = none
  viewers : window.viewers = []

/-- A passphrase is held only with a key. -/
def Paired (window : PageWindow) : Prop :=
  window.page.loadedKeyPassphrase ≠ none → window.page.keyWrapper ≠ none

/-- What is said of the key and the passphrase in a state that these events led to: they are
set together, held together, and cleared together when a viewer closes. -/
structure Scoped (events : List PageEvent) (window : PageWindow) : Prop where
  paired : window.Paired
  setTogether : window.page.keyWrapper ≠ none → window.page.loadedKeyPassphrase ≠ none
  cleared : ∀ index, events.getLast? = some (.viewerClosed index) →
    window.page.loadedKeyPassphrase = none

/-- With a key, and with a viewer, there is a passphrase. -/
structure HoldsPassphrase (window : PageWindow) : Prop where
  withKey : window.page.keyWrapper ≠ none → window.page.loadedKeyPassphrase ≠ none
  withViewer : window.viewers ≠ [] → window.page.loadedKeyPassphrase ≠ none

/-- The key and its passphrase are untouched. -/
structure SameKey (window next : PageWindow) : Prop where
  keyWrapper : next.page.keyWrapper = window.page.keyWrapper
  loadedKeyPassphrase : next.page.loadedKeyPassphrase = window.page.loadedKeyPassphrase

/-- All that a step can do to the key, the passphrase and the number of viewers. -/
inductive KeyChange (window : PageWindow) : PageEvent → PageWindow → Prop
  | kept {event : PageEvent} {next : PageWindow} (same : window.SameKey next)
      (viewers : next.viewers.length = window.viewers.length)
      (noClosing : ∀ index, event ≠ .viewerClosed index) : KeyChange window event next
  | loaded {event : PageEvent} {next : PageWindow} (keyWrapper : next.page.keyWrapper ≠ none)
      (loadedKeyPassphrase : next.page.loadedKeyPassphrase ≠ none)
      (noClosing : ∀ index, event ≠ .viewerClosed index) : KeyChange window event next
  | opened {event : PageEvent} {next : PageWindow} (same : window.SameKey next)
      (keyWrapper : window.page.keyWrapper ≠ none)
      (noClosing : ∀ index, event ≠ .viewerClosed index) : KeyChange window event next
  | closed {index : Nat} {next : PageWindow} (present : window.viewers ≠ [])
      (keyWrapper : next.page.keyWrapper = none)
      (loadedKeyPassphrase : next.page.loadedKeyPassphrase = window.page.loadedKeyPassphrase) :
      KeyChange window (.viewerClosed index) next

theorem SameKey.refl (window : PageWindow) : window.SameKey window :=
  ⟨rfl, rfl⟩

/-! ## What each handler does to the key -/

section Handlers

variable {crypto : Cryptography} {serialization : KeySerialization RSAPrivateKey RSAPublicKey}
  {window : PageWindow}

theorem loadKey_sets {page next : DecryptionPage} {privatePem : Raises Bytes}
    {passphrase : String} {generated : RSAPrivateKey}
    (loaded : DecryptionPage.loadKey serialization page privatePem passphrase generated =
      .ok next) : next.keyWrapper ≠ none ∧ next.loadedKeyPassphrase ≠ none := by
  unfold DecryptionPage.loadKey at loaded
  dsimp only at loaded
  split at loaded
  · rw [← Except.ok.inj loaded]
    exact ⟨nofun, nofun⟩
  · split at loaded
    · rw [← Except.ok.inj loaded]
      exact ⟨nofun, nofun⟩
    · cases loaded

theorem onLoadKeyClicked_change (privatePem : Raises Bytes) (generated : RSAPrivateKey) :
    KeyChange window (.keyLoaded privatePem generated)
      (window.onLoadKeyClicked serialization privatePem generated) := by
  unfold onLoadKeyClicked
  split
  · exact .kept ⟨rfl, rfl⟩ rfl nofun
  · split
    · next loaded => exact .loaded (loadKey_sets loaded).1 (loadKey_sets loaded).2 nofun
    · exact .kept (.refl window) rfl nofun

@[simp]
theorem onLoadKeyClicked_viewers (privatePem : Raises Bytes) (generated : RSAPrivateKey) :
    (window.onLoadKeyClicked serialization privatePem generated).viewers = window.viewers := by
  unfold onLoadKeyClicked
  split
  · rfl
  · split <;> rfl

/-- A view only starts with a key. -/
theorem keyWrapper_of_prepareView {probes : HostProbes} {page : DecryptionPage}
    {display : Bytes → Raises Unit} {disk : Disk}
    {started : SecureAccessService × AccessRequest}
    (prepared : DecryptionPage.prepareView crypto probes page display disk = .ok started) :
    page.keyWrapper ≠ none := by
  intro absent
  simp only [DecryptionPage.prepareView, absent, DecryptionPage.given] at prepared
  cases selected : page.selectedContainer with
  | none =>
      rw [selected] at prepared
      cases prepared
  | some path =>
      rw [selected] at prepared
      cases prepared

theorem onViewClicked_page (probes : HostProbes) (page : DecryptionPage)
    (display : Bytes → Raises Unit) (disk : Disk) (draws : AccessDraws) :
    let clicked := DecryptionPage.onViewClicked crypto probes page display disk draws
    clicked.page.keyWrapper = page.keyWrapper ∧
      clicked.page.loadedKeyPassphrase = page.loadedKeyPassphrase ∧
      ∀ result, clicked.attempt = .ok result → page.keyWrapper ≠ none := by
  unfold DecryptionPage.onViewClicked
  cases prepared : DecryptionPage.prepareView crypto probes page display disk with
  | error ended =>
      refine ⟨rfl, rfl, fun result attempted => ?_⟩
      cases attempted
  | ok started => exact ⟨rfl, rfl, fun _ _ => keyWrapper_of_prepareView prepared⟩

theorem onViewClicked_sameKey (probes : HostProbes) (display : Bytes → Raises Unit)
    (shown : Raises Unit) (disk : Disk) (draws : AccessDraws) :
    window.SameKey (window.onViewClicked crypto probes display shown disk draws) := by
  obtain ⟨keyWrapper, passphrase, -⟩ :=
    @onViewClicked_page crypto probes window.page display disk draws
  unfold onViewClicked
  dsimp only
  split
  · exact ⟨keyWrapper, passphrase⟩
  · split <;> exact ⟨keyWrapper, passphrase⟩

theorem onViewClicked_change (probes : HostProbes) (display : Bytes → Raises Unit)
    (shown : Raises Unit) (disk : Disk) (draws : AccessDraws) :
    KeyChange window (.viewed probes display shown disk draws)
      (window.onViewClicked crypto probes display shown disk draws) := by
  have same := @onViewClicked_sameKey crypto window probes display shown disk draws
  obtain ⟨-, -, attempted⟩ := @onViewClicked_page crypto probes window.page display disk draws
  by_cases loaded : window.page.keyWrapper = none
  · refine .kept same ?_ nofun
    unfold onViewClicked
    dsimp only
    split
    · rfl
    · next attempt => exact absurd loaded (attempted _ attempt)
  · exact .opened same loaded nofun

theorem onRebindClicked_change (probes : HostProbes) (disk : Disk)
    (answer : DecryptionPage.RebindAnswer) :
    KeyChange window (.rebound probes disk answer)
      (window.onRebindClicked crypto serialization probes disk answer) := by
  unfold onRebindClicked DecryptionPage.onRebindClicked
  cases DecryptionPage.prepareRebind crypto window.page disk answer with
  | error ended => exact .kept ⟨rfl, rfl⟩ rfl nofun
  | ok prepared => exact .kept ⟨rfl, rfl⟩ rfl nofun

/-- One case a handler. -/
theorem keyChange_of_step {event : PageEvent} {next : PageWindow}
    (stepped : PageStep crypto serialization window event next) :
    KeyChange window event next := by
  cases stepped with
  | keyChosen path =>
      unfold onChooseKeyClicked
      split
      · exact .kept (.refl window) rfl nofun
      · exact .kept ⟨rfl, rfl⟩ rfl nofun
  | keyLoaded privatePem generated => exact onLoadKeyClicked_change privatePem generated
  | viewed probes display shown disk draws =>
      exact onViewClicked_change probes display shown disk draws
  | captureDetected index => exact .kept ⟨rfl, rfl⟩ (List.length_modify ..) nofun
  | viewerClosed index =>
      exact .closed (List.ne_nil_of_length_pos (by have := index.isLt; omega)) rfl rfl
  | rebound probes disk answer => exact onRebindClicked_change probes disk answer
  | refreshed page passphraseText => exact .kept ⟨rfl, rfl⟩ rfl nofun

end Handlers

/-! ## Runs of the page -/

section Runs

variable {crypto : Cryptography} {serialization : KeySerialization RSAPrivateKey RSAPublicKey}
  {start window next finish : PageWindow} {event : PageEvent} {events : List PageEvent}

theorem Fresh.holdsPassphrase (fresh : start.Fresh) : start.HoldsPassphrase where
  withKey := fun present => absurd fresh.keyWrapper present
  withViewer := fun present => absurd fresh.viewers present

theorem Fresh.paired (fresh : start.Fresh) : start.Paired :=
  fun present => absurd fresh.loadedKeyPassphrase present

theorem HoldsPassphrase.step (held : window.HoldsPassphrase)
    (stepped : PageStep crypto serialization window event next) : next.HoldsPassphrase := by
  cases keyChange_of_step stepped with
  | kept same viewers noClosing =>
      constructor
      · rw [same.keyWrapper, same.loadedKeyPassphrase]
        exact held.withKey
      · rw [same.loadedKeyPassphrase]
        intro present
        apply held.withViewer
        apply List.ne_nil_of_length_pos
        have := List.length_pos_iff.mpr present
        omega
  | loaded keyWrapper loadedKeyPassphrase noClosing =>
      exact ⟨fun _ => loadedKeyPassphrase, fun _ => loadedKeyPassphrase⟩
  | opened same keyWrapper noClosing =>
      have passphrase := held.withKey keyWrapper
      rw [← same.loadedKeyPassphrase] at passphrase
      exact ⟨fun _ => passphrase, fun _ => passphrase⟩
  | closed present keyWrapper loadedKeyPassphrase =>
      have passphrase := held.withViewer present
      rw [← loadedKeyPassphrase] at passphrase
      exact ⟨fun _ => passphrase, fun _ => passphrase⟩

theorem Paired.step (paired : window.Paired)
    (stepped : PageStep crypto serialization window event next)
    (noClosing : ∀ index, event ≠ .viewerClosed index) : next.Paired := by
  cases keyChange_of_step stepped with
  | kept same viewers _ =>
      rw [Paired, same.keyWrapper, same.loadedKeyPassphrase]
      exact paired
  | loaded keyWrapper loadedKeyPassphrase _ => exact fun _ => keyWrapper
  | opened same keyWrapper _ =>
      rw [Paired, same.keyWrapper]
      exact fun _ => keyWrapper
  | closed present keyWrapper loadedKeyPassphrase => exact absurd rfl (noClosing _)

theorem HoldsPassphrase.closing {index : Nat} (held : window.HoldsPassphrase)
    (closed : PageStep crypto serialization window (.viewerClosed index) next) :
    next.page.keyWrapper = none ∧ next.page.loadedKeyPassphrase ≠ none := by
  cases keyChange_of_step closed with
  | kept same viewers noClosing => exact absurd rfl (noClosing index)
  | loaded keyWrapper loadedKeyPassphrase noClosing => exact absurd rfl (noClosing index)
  | opened same keyWrapper noClosing => exact absurd rfl (noClosing index)
  | closed present keyWrapper loadedKeyPassphrase =>
      rw [loadedKeyPassphrase]
      exact ⟨keyWrapper, held.withViewer present⟩

theorem Fresh.reaches (fresh : start.Fresh)
    (run : Run (PageStep crypto serialization) start events finish) : finish.HoldsPassphrase :=
  run.invariant HoldsPassphrase (fun held stepped => held.step stepped) fresh.holdsPassphrase

theorem Fresh.reaches_paired (fresh : start.Fresh)
    (run : Run (PageStep crypto serialization) start events finish)
    (noClosing : ∀ index, .viewerClosed index ∉ events) : finish.Paired := by
  apply run.history (fun events window => (∀ index, .viewerClosed index ∉ events) → window.Paired)
    _ (fun _ => fresh.paired) noClosing
  intro events window event next paired stepped unclosed
  apply (paired fun index member => unclosed index (List.mem_append_left _ member)).step stepped
  rintro index rfl
  exact unclosed index (List.mem_append_right _ (List.mem_singleton_self _))

theorem Fresh.leaves_passphrase {index : Nat} {before after : List PageEvent}
    (fresh : start.Fresh)
    (run : Run (PageStep crypto serialization) start (before ++ .viewerClosed index :: after)
      finish) :
    ∃ closed, Run (PageStep crypto serialization) start (before ++ [.viewerClosed index]) closed ∧
      closed.page.keyWrapper = none ∧ closed.page.loadedKeyPassphrase ≠ none := by
  rw [List.append_cons] at run
  obtain ⟨closed, toClosing, -⟩ := run.split
  obtain ⟨opened, first, closing⟩ := toClosing.last
  exact ⟨closed, toClosing, (fresh.reaches first).closing closing⟩

/-- In all the states of a run the key and its passphrase are scoped to the viewing session
exactly when no viewer is closed. -/
theorem scoped_along_run_iff (fresh : start.Fresh)
    (run : Run (PageStep crypto serialization) start events finish) :
    (∀ before middle, before <+: events →
        Run (PageStep crypto serialization) start before middle → Scoped before middle) ↔
      ∀ index, .viewerClosed index ∉ events := by
  constructor
  · intro held index member
    obtain ⟨before, after, rfl⟩ := List.append_of_mem member
    obtain ⟨closed, toClosing, keyWrapper, passphrase⟩ := fresh.leaves_passphrase run
    have isPrefix : before ++ [.viewerClosed index] <+:
        before ++ PageEvent.viewerClosed index :: after := ⟨after, by simp⟩
    exact (held _ closed isPrefix toClosing).paired passphrase keyWrapper
  · intro noClosing before middle isPrefix toMiddle
    have unclosed : ∀ index, .viewerClosed index ∉ before := fun index member =>
      noClosing index (isPrefix.subset member)
    refine ⟨fresh.reaches_paired toMiddle unclosed, (fresh.reaches toMiddle).withKey, ?_⟩
    intro index last
    exact absurd (List.mem_of_getLast? last) (unclosed index)

end Runs

end PageWindow

/-! ## A key that is loaded, used and taken back -/

namespace PageWindow

/-- In a decoy session every container that can be read is shown a decoy for. -/
theorem onViewClicked_decoy {crypto : Cryptography} {window : PageWindow} {probes : HostProbes}
    {display : Bytes → Raises Unit} {disk : Disk} {draws : AccessDraws} {session : PageSession}
    {path : DevicePath} {keyWrapper : RSAOAEPKeyWrapper} {file : String × Bytes}
    (signedIn : window.page.session = some session) (decoy : session.isDecoy = true)
    (selected : window.page.selectedContainer = some path)
    (loaded : window.page.keyWrapper = some keyWrapper)
    (read : DecryptionPage.readSelected crypto disk path = .ok file) :
    (window.onViewClicked crypto probes display (.ok ()) disk draws).viewers =
      window.viewers ++ [⟨false⟩] := by
  have source : DecryptionPage.viewSource crypto window.page disk session path keyWrapper =
      .ok (DecryptionPage.localSource window.page) := by
    simp [DecryptionPage.viewSource, decoy, Except.mapError, bind, Except.bind]
  have prepared : DecryptionPage.prepareView crypto probes window.page display disk =
      .ok (DecryptionPage.accessService window.page (DecryptionPage.localSource window.page) file.1,
        DecryptionPage.accessRequest crypto probes window.page display session keyWrapper path
          (DecryptionPage.localSource window.page) file.1 file.2) := by
    unfold DecryptionPage.prepareView
    rw [selected, loaded, signedIn]
    simp only [DecryptionPage.given, source, read, bind, Except.bind]
    rfl
  unfold onViewClicked DecryptionPage.onViewClicked
  rw [prepared]
  simp only [SecureAccessService.attemptAccess, DecryptionPage.accessRequest, decoy]
  rfl

end PageWindow

/-- The page before a key is loaded, in a decoy session, with a container selected. -/
def freshWindow : PageWindow where
  page := { plainDecryptionPage (plainPageWrite false false false none) "p" plainDevice
      ⟨"F:", "f.cusc"⟩ with
    session := some ⟨localOwnerId, true, localOwnerId_ne_empty⟩
    keyWrapper := none
    loadedKeyPassphrase := none }
  passphraseText := "p"
  status := ""
  viewers := []

theorem freshWindow_fresh : freshWindow.Fresh :=
  ⟨rfl, rfl, rfl⟩

/-- The key is loaded with its passphrase. -/
def loadedWindow : PageWindow :=
  freshWindow.onLoadKeyClicked rsaSerialization (.ok []) transparentPrivateKey

private theorem loadedWindow_eq :
    freshWindow.onLoadKeyClicked rsaSerialization (.ok []) transparentPrivateKey = loadedWindow :=
  rfl

private theorem loadedWindow_page :
    loadedWindow.page = { freshWindow.page with
      keyWrapper := some ⟨transparentPrivateKey.publicKey, some transparentPrivateKey⟩
      loadedKeyPassphrase := some (encodeUtf8 "p") } := by
  have chosen : ¬ (freshWindow.page.keyPath = "" ∨
      freshWindow.page.keyPath = "No private key loaded.") := by
    show ¬ ("file_wrapping_key.pem" = "" ∨ "file_wrapping_key.pem" = "No private key loaded.")
    decide
  have loads : KeyAuthenticator.loadPrivateKey rsaSerialization [] (encodeUtf8 "p") =
      .ok transparentPrivateKey := by
    have utf8 : encodeUtf8 "p" = [112] := by decide
    rw [utf8]
    rfl
  have typed : freshWindow.passphraseText = "p" := rfl
  rw [loadedWindow, PageWindow.onLoadKeyClicked, if_neg chosen, DecryptionPage.loadKey, typed]
  simp only [Except.bind, loads]

private theorem exists_readSelected {crypto : Cryptography} {encryption : EncryptionPage}
    {choice : WriteChoice} {draws : WriteDraws} {probes : HostProbes} {disk : Disk}
    {path : DevicePath} {prepared : PreparedFile}
    {portableMetadata : Option PortableMetadataEnvelope} {plaintext bytes : Bytes}
    (file : DecryptionPage.WrittenFile crypto encryption choice draws probes disk path prepared
      portableMetadata plaintext bytes) :
    ∃ disk file, DecryptionPage.readSelected crypto disk path = .ok file :=
  ⟨disk, _, DecryptionPage.readSelected_eq file.read file.file.serialized⟩

theorem freshWindow_reads : ∃ disk file,
    DecryptionPage.readSelected storeCrypto disk ⟨"F:", "f.cusc"⟩ = .ok file := by
  obtain ⟨written, finds⟩ := plainPageWrite_found false false false none "p" plainDevice
    ⟨"F:", "f.cusc"⟩
  obtain ⟨prepared, portableMetadata, plaintext, bytes, -, -, found⟩ := finds.found
  exact exists_readSelected found.toWrittenFile

/-- A key is loaded, a file is viewed, and the viewer closes. -/
private theorem load_view_close {crypto : Cryptography}
    {serialization : KeySerialization RSAPrivateKey RSAPublicKey} {start loaded : PageWindow}
    {privatePem : Raises Bytes} {generated : RSAPrivateKey} {probes : HostProbes}
    {display : Bytes → Raises Unit} {disk : Disk} {draws : AccessDraws}
    (load : start.onLoadKeyClicked serialization privatePem generated = loaded)
    (opened : 0 < (loaded.onViewClicked crypto probes display (.ok ()) disk draws).viewers.length) :
    ∃ finish, Run (PageStep crypto serialization) start
        [.keyLoaded privatePem generated, .viewed probes display (.ok ()) disk draws,
          .viewerClosed 0] finish ∧
      finish.page.keyWrapper = none ∧
      finish.page.loadedKeyPassphrase = loaded.page.loadedKeyPassphrase := by
  have same := @PageWindow.onViewClicked_sameKey crypto loaded probes display (.ok ()) disk draws
  have loading := Run.single (@PageStep.keyLoaded crypto serialization start privatePem generated)
  rw [load] at loading
  have viewing := @PageStep.viewed crypto serialization loaded probes display (.ok ()) disk draws
  have closing := @PageStep.viewerClosed crypto serialization _ ⟨0, opened⟩
  exact ⟨_, (loading.tail viewing).tail closing, rfl, same.loadedKeyPassphrase⟩

private theorem freshWindow_run : ∃ disk finish,
    Run (PageStep storeCrypto rsaSerialization) freshWindow
        [.keyLoaded (.ok []) transparentPrivateKey,
          .viewed plainProbes (fun _ => .ok ()) (.ok ()) disk plainDraws, .viewerClosed 0] finish ∧
      finish.page.keyWrapper = none ∧
      finish.page.loadedKeyPassphrase = some (encodeUtf8 "p") := by
  obtain ⟨disk, file, read⟩ := freshWindow_reads
  have opened := @PageWindow.onViewClicked_decoy storeCrypto loadedWindow plainProbes
    (fun _ => .ok ()) disk plainDraws ⟨localOwnerId, true, localOwnerId_ne_empty⟩
    ⟨"F:", "f.cusc"⟩ _ file (by rw [loadedWindow_page]; rfl) rfl
    (by rw [loadedWindow_page]; rfl) (by rw [loadedWindow_page]) read
  have count := congrArg List.length opened
  rw [List.length_append, List.length_singleton] at count
  obtain ⟨finish, run, keyWrapper, passphrase⟩ := @load_view_close storeCrypto rsaSerialization
    freshWindow loadedWindow (.ok []) transparentPrivateKey plainProbes (fun _ => .ok ()) disk
    plainDraws loadedWindow_eq (by omega)
  rw [loadedWindow_page] at passphrase
  exact ⟨disk, finish, run, keyWrapper, passphrase⟩

/-- The viewer closes: the key is gone, and the passphrase is still there. -/
theorem passphrase_outlives_viewer :
    ∃ events finish, freshWindow.Fresh ∧
      Run (PageStep storeCrypto rsaSerialization) freshWindow events finish ∧
      events.getLast? = some (.viewerClosed 0) ∧
      finish.page.keyWrapper = none ∧
      finish.page.loadedKeyPassphrase = some (encodeUtf8 "p") := by
  obtain ⟨disk, finish, run, keyWrapper, passphrase⟩ := freshWindow_run
  exact ⟨_, finish, freshWindow_fresh, run, rfl, keyWrapper, passphrase⟩

theorem scoped_along_run_iff_fresh :
    ∃ events finish, Run (PageStep storeCrypto rsaSerialization) freshWindow events finish ∧
      ((∀ before middle, before <+: events →
          Run (PageStep storeCrypto rsaSerialization) freshWindow before middle →
            PageWindow.Scoped before middle) ↔
        ∀ index, .viewerClosed index ∉ events) := by
  obtain ⟨disk, finish, run, -, -⟩ := freshWindow_run
  exact ⟨_, finish, run, PageWindow.scoped_along_run_iff freshWindow_fresh run⟩

end CryptoUsb
