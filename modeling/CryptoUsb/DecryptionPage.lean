import CryptoUsb.EncryptionPage
import CryptoUsb.RebindChains

/-!
# The decryption page

The two clicks that touch a file: "view", which chooses between the local record and
the portable section of the selected container, and "rebind".  A view comes to one
attempt of the secure access service or is refused before it; `prepareView` says which.
-/

namespace CryptoUsb

open ByteString

/-- `CryptoError` and its subclasses. -/
def PyError.isCryptoError (error : PyError) : Bool :=
  error.kind ∈ [ErrorClass.cryptoError, .encryptionError, .decryptionError, .keyWrappingError,
    .keyUnwrappingError, .keyDestroyedError]

/-- `ValueError` and its subclass of text that does not decode. -/
def PyError.isValueError (error : PyError) : Bool :=
  error.kind ∈ [ErrorClass.valueError, .unicodeError]

/-- What the page answers when a container cannot be read. -/
def PyError.isReadFailure (error : PyError) : Bool :=
  error.isUSBError || error.kind = .osError

/-- The state of the page; `session` is the session of a user who is signed in. -/
structure DecryptionPage where
  metadataRepository : Option MetadataRepository
  protectionKeys : MetadataProtectionKeys
  session : Option PageSession
  tracksUsage : Bool := false
  throttle : DeviceMismatchThrottle := {}
  selectedDevice : Option USBDevice
  selectedContainer : Option DevicePath
  keyWrapper : Option RSAOAEPKeyWrapper
  loadedKeyPassphrase : Option Bytes
  keyPath : String

/-- The local table behind a repository. -/
def Repository.table? : Repository → Option MetadataRepository
  | .sqlite table => some table
  | .portable _ => none

namespace DecryptionPage

/-- `_on_load_key_clicked` on the contents of the chosen file: a key that cannot be loaded
is replaced by a generated one. -/
def loadKey (serialization : KeySerialization RSAPrivateKey RSAPublicKey) (page : DecryptionPage)
    (privatePem : Raises Bytes) (passphrase : String) (generated : RSAPrivateKey) :
    Raises DecryptionPage :=
  let loaded (privateKey : RSAPrivateKey) : DecryptionPage :=
    { page with
      keyWrapper := some ⟨privateKey.publicKey, some privateKey⟩
      loadedKeyPassphrase := some (encodeUtf8 passphrase) }
  match privatePem.bind fun pem =>
      KeyAuthenticator.loadPrivateKey serialization pem (encodeUtf8 passphrase) with
  | .ok privateKey => .ok (loaded privateKey)
  | .error exc =>
      if exc.isCryptoError || exc.kind = .osError then .ok (loaded generated) else .error exc

/-- Closing the viewer takes the key back. -/
def viewerClosed (page : DecryptionPage) : DecryptionPage :=
  { page with
    keyWrapper := none
    keyPath := "No private key loaded." }

/-! ## Viewing -/

/-- Where a view takes the record from, and the keys it is protected with. -/
structure MetadataSource where
  repository : Option Repository
  protectionKeys : MetadataProtectionKeys
  portable : Bool

/-- The record of the local table. -/
def localSource (page : DecryptionPage) : MetadataSource where
  repository := page.metadataRepository.map .sqlite
  protectionKeys := page.protectionKeys
  portable := false

/-- `_load_portable_metadata_source`. -/
def portableSource (crypto : Cryptography) (page : DecryptionPage) (disk : Disk)
    (path : DevicePath) (keyWrapper : RSAOAEPKeyWrapper) : Raises (Option MetadataSource) :=
  match keyWrapper.privateKey, page.loadedKeyPassphrase with
  | some privateKey, some passphrase =>
      match SecureStorageWriter.readContainer crypto disk path with
      | .error exc => if exc.isReadFailure then .ok none else .error exc
      | .ok container =>
          .ok (container.portableMetadata.map fun envelope =>
            { repository := some (.portable ⟨container, path⟩)
              protectionKeys := deriveProtectionKeysFromKeyMaterial crypto
                privateKey.privateBytes passphrase envelope.salt
              portable := true })
  | _, _ => .ok none

/-- The identity that the selected device presents on this machine. -/
def presentedIdentity (crypto : Cryptography) (probes : HostProbes) (page : DecryptionPage) :
    PresentedIdentity where
  device := page.selectedDevice
  usbIdentifier := page.selectedDevice.map (computeUsbIdentifier probes)
  machineFingerprint := some (computeMachineFingerprint crypto probes)
  hardwareDescriptor := page.selectedDevice.bind (computeHardwareDescriptor probes)

/-- The local copy, where the view goes through a portable one and there is a local copy
as well. -/
def mirrors (page : DecryptionPage) (source : MetadataSource) (fileId : String) :
    List Repository :=
  match page.metadataRepository with
  | none => []
  | some table =>
      if source.portable && (table.load fileId).isSome then [.sqlite table] else []

/-- The service that is constructed for one view. -/
def accessService (page : DecryptionPage) (source : MetadataSource) (fileId : String) :
    SecureAccessService where
  repository := source.repository
  mirrorRepositories := mirrors page source fileId
  throttle := page.throttle
  tracksUsage := page.tracksUsage

/-- How a click ends that does not come to anything: without a word, with a message in the
status line, or with an exception that leaves the slot. -/
inductive ClickEnd
  | ignored
  | refused (message : String)
  | raised (exc : PyError)

/-- What is there, or the end of the click. -/
def given {α : Type} (value : Option α) (otherwise : ClickEnd) : Except ClickEnd α :=
  match value with
  | none => .error otherwise
  | some value => .ok value

/-- What was returned, or the end of the click: exceptions of a kind that the page expects
are put into words. -/
def answered {α : Type} (outcome : Raises α) (expected : PyError → Bool)
    (words : String → String) : Except ClickEnd α :=
  outcome.mapError fun exc =>
    if expected exc then .refused (words exc.message) else .raised exc

section Clicks

variable (crypto : Cryptography) (probes : HostProbes) (page : DecryptionPage)

/-- `read_encrypted_file_bytes` on the selected container. -/
def readSelected (disk : Disk) (path : DevicePath) : Except ClickEnd (String × Bytes) :=
  answered (SecureStorageService.readEncryptedFileBytes crypto disk path) PyError.isReadFailure
    fun message => s!"Could not read {path.name}: {message}"

/-- The source of a view: a decoy session is never given a portable one. -/
def viewSource (disk : Disk) (session : PageSession) (path : DevicePath)
    (keyWrapper : RSAOAEPKeyWrapper) : Except ClickEnd MetadataSource := do
  let portable ← (if session.isDecoy then .ok none
    else portableSource crypto page disk path keyWrapper).mapError .raised
  let source := portable.getD (localSource page)
  if source.repository.isNone && !session.isDecoy then
    .error (.refused "No metadata repository is available in this session.")
  else .ok source

/-- The arguments of `attempt_access`; `display` is what the viewer does. -/
def accessRequest (display : Bytes → Raises Unit) (session : PageSession)
    (keyWrapper : RSAOAEPKeyWrapper) (path : DevicePath) (source : MetadataSource)
    (fileId : String) (encryptedFileBytes : Bytes) : AccessRequest where
  fileId := fileId
  encryptedFileBytes := encryptedFileBytes
  keyWrapper := rsaOaepKeyWrapper keyWrapper
  protectionKeys := source.protectionKeys
  onGranted := fun buffer _ => display buffer
  identity := presentedIdentity crypto probes page
  user := some session.ownerId
  forceDeception := session.isDecoy
  containerPath := some path

/-- `_on_view_clicked` up to the attempt. -/
def prepareView (display : Bytes → Raises Unit) (disk : Disk) :
    Except ClickEnd (SecureAccessService × AccessRequest) := do
  let path ← given page.selectedContainer .ignored
  let keyWrapper ← given page.keyWrapper .ignored
  let session ← given page.session (.refused "You must be signed in to view a file.")
  let source ← viewSource crypto page disk session path keyWrapper
  let (fileId, encryptedFileBytes) ← readSelected crypto disk path
  return (accessService page source fileId,
    accessRequest crypto probes page display session keyWrapper path source fileId
      encryptedFileBytes)

/-- The page, the devices and the attempt of a view, if it came to one. -/
structure ViewClicked where
  page : DecryptionPage
  disk : Disk
  attempt : Except ClickEnd AccessResult

/-- The local table after an attempt or a rebind. -/
def localAfter (repositories : List Repository) : Option MetadataRepository :=
  (repositories.findSome? Repository.table?).or page.metadataRepository

/-- `_on_view_clicked`. -/
def onViewClicked (display : Bytes → Raises Unit) (disk : Disk) (draws : AccessDraws) :
    ViewClicked :=
  match prepareView crypto probes page display disk with
  | .error ended => ⟨page, disk, .error ended⟩
  | .ok (service, request) =>
      let result := SecureAccessService.attemptAccess crypto service disk request draws
      { page := { page with
          metadataRepository := localAfter page result.repositories
          throttle := result.throttle }
        disk := result.disk
        attempt := .ok result }

/-! ## Rebinding -/

/-- The answer to the passphrase prompt, the contents of the chosen key file, and what a
rebind draws. -/
structure RebindAnswer where
  passphrase : Option String
  privatePem : Raises Bytes
  entropy : RebindEntropy
  faults : SaveFaults

/-- The page and the devices after a rebind; a rebind that returned has told the tracker,
if there is one, the identifiers of the devices. -/
structure RebindClicked where
  page : DecryptionPage
  disk : Disk
  tracked : Except ClickEnd (Option (Option String × Option String))

/-- The arguments of `rebind`: the selected device is both the old and the new one. -/
def rebindRequest (metadata : FileMetadata) (device : USBDevice)
    (privateKeyPem passphrase : Bytes) : RebindRequest where
  metadata := metadata
  privateKeyPem := privateKeyPem
  passphrase := passphrase
  protectionKeys := page.protectionKeys
  newDevice := device
  oldDevice := some device

/-- The record that a rebind is about, in the local table. -/
def boundRecord (table : MetadataRepository) (fileId : String) : Except ClickEnd FileMetadata := do
  let stored ← given (table.load fileId)
    (.refused "No metadata record found for this file in this session.")
  let metadata ← answered (MetadataProtector.unprotect crypto page.protectionKeys stored)
    (·.kind = .metadataTamperError) fun message =>
      s!"Metadata failed its integrity check: {message}"
  if metadata.deviceBinding.bound then .ok metadata
  else .error (.refused
    "This file is not bound to any device (portable mode) — nothing to rebind.")

/-- `_on_rebind_clicked` up to the rebind. -/
def prepareRebind (disk : Disk) (answer : RebindAnswer) :
    Except ClickEnd (MetadataRepository × RebindRequest) := do
  let path ← given page.selectedContainer .ignored
  let device ← given page.selectedDevice .ignored
  let _ ← given page.session (.refused "You must be signed in to rebind a file.")
  let _ ← given ((some page.keyPath).filter fun path =>
    path ≠ "" ∧ path ≠ "No private key loaded.")
      (.refused "Choose and load a private key file first.")
  let table ← given page.metadataRepository
    (.refused "No metadata repository is available in this session.")
  let passphrase ← given (answer.passphrase.filter (· ≠ "")) (.refused "Rebind cancelled.")
  let (fileId, _) ← readSelected crypto disk path
  let metadata ← boundRecord crypto page table fileId
  let pem ← answered answer.privatePem (·.kind = .osError) fun message =>
    s!"Could not read the private key file: {message}"
  return (table, rebindRequest page metadata device pem (encodeUtf8 passphrase))

/-- What the page makes of the outcome of a rebind. -/
def rebindOutcome (outcome : Raises Unit) : Except ClickEnd Unit :=
  outcome.mapError fun exc =>
    if exc.isCryptoError then .refused "Rebind failed: incorrect passphrase or key material."
    else if exc.isValueError then .refused s!"Rebind failed: {exc.message}"
    else .raised exc

/-- `_on_rebind_clicked`.  The service that is asked knows of no mirror. -/
def onRebindClicked (serialization : KeySerialization RSAPrivateKey RSAPublicKey) (disk : Disk)
    (answer : RebindAnswer) : RebindClicked :=
  match prepareRebind crypto page disk answer with
  | .error ended => ⟨page, disk, .error ended⟩
  | .ok (table, request) =>
      let result := DeviceRebindService.rebind crypto serialization probes request answer.entropy
        disk [.sqlite table] answer.faults
      { page := { page with metadataRepository := localAfter page result.repositories }
        disk := result.disk
        tracked := (rebindOutcome result.outcome).map fun _ =>
          if page.tracksUsage then
            some (request.metadata.deviceBinding.usbSerial,
              result.metadata.deviceBinding.usbSerial)
          else none }

end Clicks

/-- A view hands over this plaintext, and is granted when the viewer shows it and, for a
one-time file, the burn returns. -/
def ShowsFile (crypto : Cryptography) (probes : HostProbes) (page : DecryptionPage)
    (display : Bytes → Raises Unit) (disk : Disk) (draws : AccessDraws) (plaintext : Bytes) :
    Prop :=
  ∃ service request metadata,
    prepareView crypto probes page display disk = .ok (service, request) ∧
      ViewsPlaintext crypto service disk request draws metadata plaintext

/-! ## Pages that are ready for a view -/

/-- A user is signed in, a private key is loaded, and a container is selected on a device. -/
structure Ready (page : DecryptionPage) (privateKey : RSAPrivateKey) (passphrase : Bytes)
    (device : USBDevice) (path : DevicePath) : Prop where
  session : ∃ session, page.session = some session ∧ session.isDecoy = false
  keyWrapper : page.keyWrapper = some ⟨privateKey.publicKey, some privateKey⟩
  loadedKeyPassphrase : page.loadedKeyPassphrase = some passphrase
  selectedDevice : page.selectedDevice = some device
  selectedContainer : page.selectedContainer = some path

/-- The source that a view of this container chooses: its own portable section, if it has
one. -/
def chosenSource (crypto : Cryptography) (page : DecryptionPage) (privateKey : RSAPrivateKey)
    (passphrase : Bytes) (container : SecureContainer) (path : DevicePath) : MetadataSource :=
  match container.portableMetadata with
  | none => localSource page
  | some envelope =>
      { repository := some (.portable ⟨container, path⟩)
        protectionKeys := deriveProtectionKeysFromKeyMaterial crypto privateKey.privateBytes
          passphrase envelope.salt
        portable := true }

section Ready

variable {crypto : Cryptography} {probes : HostProbes} {page : DecryptionPage}
  {privateKey : RSAPrivateKey} {passphrase : Bytes} {device : USBDevice} {path : DevicePath}
  {display : Bytes → Raises Unit} {disk : Disk} {container : SecureContainer}

theorem chosenSource_none (embedded : container.portableMetadata = none) :
    chosenSource crypto page privateKey passphrase container path = localSource page := by
  simp only [chosenSource, embedded]

theorem chosenSource_some {envelope : PortableMetadataEnvelope}
    (embedded : container.portableMetadata = some envelope) :
    chosenSource crypto page privateKey passphrase container path =
      { repository := some (.portable ⟨container, path⟩)
        protectionKeys := deriveProtectionKeysFromKeyMaterial crypto privateKey.privateBytes
          passphrase envelope.salt
        portable := true } := by
  simp only [chosenSource, embedded]

theorem readSelected_eq {bytes : Bytes}
    (read : SecureStorageWriter.readContainer crypto disk path = .ok container)
    (serialized : container.fileContainer.serialize = .ok bytes) :
    readSelected crypto disk path = .ok (container.fileId, bytes) := by
  have readBytes : SecureStorageService.readEncryptedFileBytes crypto disk path =
      .ok (container.fileId, bytes) :=
    bind_eq_ok.mpr ⟨container, read, bind_eq_ok.mpr ⟨bytes, serialized, rfl⟩⟩
  rw [readSelected, readBytes]
  rfl

theorem Ready.presentedIdentity_eq (ready : page.Ready privateKey passphrase device path) :
    presentedIdentity crypto probes page = SecureStorageService.enrolledIdentity probes device
      (some (computeMachineFingerprint crypto probes)) := by
  unfold presentedIdentity
  rw [ready.selectedDevice]
  rfl

/-- A view of a container that can be read comes to an attempt on the chosen source. -/
theorem Ready.prepareView_eq (ready : page.Ready privateKey passphrase device path)
    (read : SecureStorageWriter.readContainer crypto disk path = .ok container) {bytes : Bytes}
    (serialized : container.fileContainer.serialize = .ok bytes)
    (available : (chosenSource crypto page privateKey passphrase container path).repository ≠
      none) :
    ∃ session, session.isDecoy = false ∧
      let source := chosenSource crypto page privateKey passphrase container path
      prepareView crypto probes page display disk = .ok
        (accessService page source container.fileId,
          accessRequest crypto probes page display session
            ⟨privateKey.publicKey, some privateKey⟩ path source container.fileId bytes) := by
  obtain ⟨session, signedIn, genuine⟩ := ready.session
  have loaded : portableSource crypto page disk path ⟨privateKey.publicKey, some privateKey⟩ =
      .ok (container.portableMetadata.map fun envelope =>
        { repository := some (.portable ⟨container, path⟩)
          protectionKeys := deriveProtectionKeysFromKeyMaterial crypto privateKey.privateBytes
            passphrase envelope.salt
          portable := true }) := by
    simp only [portableSource, ready.loadedKeyPassphrase, read]
  have source : viewSource crypto page disk session path
      ⟨privateKey.publicKey, some privateKey⟩ =
        .ok (chosenSource crypto page privateKey passphrase container path) := by
    unfold viewSource
    rw [genuine, loaded]
    cases embedded : container.portableMetadata with
    | none =>
        rw [chosenSource_none embedded] at available ⊢
        obtain ⟨repository, given⟩ := Option.ne_none_iff_exists'.mp available
        show (if (localSource page).repository.isNone && true then _ else _) = _
        rw [given]
        rfl
    | some envelope =>
        rw [chosenSource_some embedded]
        rfl
  refine ⟨session, genuine, ?_⟩
  unfold prepareView
  rw [ready.selectedContainer, ready.keyWrapper, signedIn]
  simp only [given, source, readSelected_eq read serialized, bind, Except.bind]
  rfl

end Ready

/-! ## Files of the encryption page -/

/-- A file that the encryption page wrote, as it is found later: the selected container is a
copy of what was written, the local record is the one that was saved, and the pages share
their keys. -/
structure FindsFile (crypto : Cryptography) (encryption : EncryptionPage) (choice : WriteChoice)
    (draws : WriteDraws) (probes : HostProbes) (before : Disk) (written : SecureWriteResult)
    (page : DecryptionPage) (disk : Disk) (path : DevicePath) : Prop where
  wrote : (encryption.writeContainer crypto choice draws probes before).outcome =
    some (.ok written)
  copied : disk path =
    (encryption.writeContainer crypto choice draws probes before).disk written.destination
  recorded : ∃ table saved, page.metadataRepository = some table ∧
    (encryption.writeContainer crypto choice draws probes before).page.metadataRepository =
      some saved ∧ table.load written.fileId = saved.load written.fileId
  keys : encryption.protectionKeys = some page.protectionKeys

/-- What a container of such a file is made of. -/
structure WrittenFile (crypto : Cryptography) (encryption : EncryptionPage) (choice : WriteChoice)
    (draws : WriteDraws) (probes : HostProbes) (disk : Disk) (path : DevicePath)
    (prepared : PreparedFile) (portableMetadata : Option PortableMetadataEnvelope)
    (plaintext bytes : Bytes) : Prop where
  file : SecureStorageService.Prepared crypto probes (encryption.storeRequest crypto choice draws)
    draws.store prepared plaintext bytes
  portable : match EncryptionPage.promptPassphrase choice.passphrase with
    | none => portableMetadata = none
    | some passphrase => ∃ portableRecord,
        portableMetadata = some ⟨draws.salt.1, portableRecord⟩ ∧
        MetadataProtector.protect crypto (EncryptionPage.portableMetadataKeys crypto
          (encryption.sessionKey draws.generated) passphrase draws.salt.1)
            draws.store.portableNonce prepared.metadata = .ok portableRecord
  read : SecureStorageWriter.readContainer crypto disk path =
    .ok (SecureStorageService.containerOf prepared portableMetadata)

/-- Such a file whose record is in the local table, under the keys of the page. -/
structure FoundFile (crypto : Cryptography) (encryption : EncryptionPage) (choice : WriteChoice)
    (draws : WriteDraws) (probes : HostProbes) (page : DecryptionPage) (disk : Disk)
    (path : DevicePath) (prepared : PreparedFile)
    (portableMetadata : Option PortableMetadataEnvelope) (plaintext bytes : Bytes) : Prop extends
    WrittenFile crypto encryption choice draws probes disk path prepared portableMetadata plaintext
      bytes where
  recorded : ∃ table, page.metadataRepository = some table ∧
    table.load prepared.metadata.fileId = some prepared.protectedMetadata
  keys : prepared.keys = page.protectionKeys

/-- A copy of what a store left on the device is a container of the file. -/
theorem WrittenFile.of_stored {crypto : Cryptography} {encryption : EncryptionPage}
    {choice : WriteChoice} {draws : WriteDraws} {probes : HostProbes} {disk : Disk}
    {repository : Option MetadataRepository} {result : StoreResult} {written : SecureWriteResult}
    {path : DevicePath} {prepared : PreparedFile}
    {portableMetadata : Option PortableMetadataEnvelope} {plaintext bytes : Bytes}
    (stored : SecureStorageService.Stored crypto probes (encryption.storeRequest crypto choice
      draws) draws.store repository result written prepared portableMetadata plaintext bytes)
    (copied : disk path = result.disk written.destination) :
    WrittenFile crypto encryption choice draws probes disk path prepared portableMetadata
      plaintext bytes where
  file := stored.file
  portable := EncryptionPage.portable_of_write stored
  read := by
    have read := stored.readContainer
    rw [SecureStorageWriter.readContainer_eq_ok, ← copied] at read
    exact SecureStorageWriter.readContainer_eq_ok.mpr read

theorem FindsFile.found {crypto : Cryptography} {encryption : EncryptionPage}
    {choice : WriteChoice} {draws : WriteDraws} {probes : HostProbes} {before disk : Disk}
    {written : SecureWriteResult} {page : DecryptionPage} {path : DevicePath}
    (finds : FindsFile crypto encryption choice draws probes before written page disk path) :
    ∃ prepared portableMetadata plaintext bytes, choice.source = .ok plaintext ∧
      written.fileId = prepared.metadata.fileId ∧
      FoundFile crypto encryption choice draws probes page disk path prepared portableMetadata
        plaintext bytes := by
  obtain ⟨returned, diskEq, repositoryEq⟩ := EncryptionPage.writeContainer_eq finds.wrote
  obtain ⟨prepared, portableMetadata, plaintext, bytes, stored⟩ :=
    SecureStorageService.storeFile_returns returned
  refine ⟨prepared, portableMetadata, plaintext, bytes, stored.file.source, stored.fileId,
    WrittenFile.of_stored stored (finds.copied.trans (congrFun diskEq _)), ?_, ?_⟩
  · obtain ⟨table, saved, tableEq, savedEq, same⟩ := finds.recorded
    rw [repositoryEq] at savedEq
    cases given : encryption.metadataRepository with
    | none =>
        have kept := stored.saved
        rw [savedEq, given] at kept
        cases (Prod.mk.inj kept).1
    | some first =>
        obtain ⟨after, afterEq, loaded⟩ := stored.load given
        obtain rfl := Option.some.inj (afterEq.symm.trans savedEq)
        rw [stored.fileId] at same
        exact ⟨table, tableEq, same.trans loaded⟩
  · rw [stored.file.keys]
    show encryption.protectionKeys.getD _ = _
    rw [finds.keys]
    rfl

/-! ## Views of a written file -/

theorem ShowsFile.granted {crypto : Cryptography} {probes : HostProbes} {page : DecryptionPage}
    {display : Bytes → Raises Unit} {disk : Disk} {draws : AccessDraws} {plaintext : Bytes}
    (shows : ShowsFile crypto probes page display disk draws plaintext) :
    ∃ service request metadata opened,
      prepareView crypto probes page display disk = .ok (service, request) ∧
        SecureAccessService.Grant crypto service request draws metadata opened := by
  obtain ⟨service, request, metadata, prepared, viewed⟩ := shows
  rcases SecureAccessService.attemptAccess_cases crypto service disk request draws with
    ⟨read, opened, grant, -⟩ | idle
  · exact ⟨service, request, read, opened, prepared, grant⟩
  · cases idle.views.symm.trans viewed.views

section Views

variable {crypto : Cryptography} {privateKey : RSAPrivateKey} {encryption : EncryptionPage}
  {choice : WriteChoice} {draws : WriteDraws} {writeProbes probes : HostProbes}
  {page : DecryptionPage} {disk : Disk} {device : USBDevice} {path : DevicePath}
  {passphrase : Bytes} {prepared : PreparedFile}
  {portableMetadata : Option PortableMetadataEnvelope} {plaintext bytes : Bytes}
  {display : Bytes → Raises Unit} {viewDraws : AccessDraws}

/-- A view through the portable section.  It reads the record as it was written, and only under
the keys it was written with. -/
theorem WrittenFile.portable_grant (laws : crypto.AesGcmLaws) (oaep : privateKey.OaepLaws)
    (written : WrittenFile crypto encryption choice draws writeProbes disk path prepared
      portableMetadata plaintext bytes)
    (sessionKey : encryption.sessionKey draws.generated = privateKey)
    (ready : page.Ready privateKey passphrase device path) {given : Bytes}
    (prompted : EncryptionPage.promptPassphrase choice.passphrase = some given) :
    let keysOf passphrase := EncryptionPage.portableMetadataKeys crypto privateKey passphrase
      draws.salt.1
    ∃ service request, prepareView crypto probes page display disk = .ok (service, request) ∧
      request.identity = presentedIdentity crypto probes page ∧
      request.onGranted = (fun buffer _ => display buffer) ∧
      (∀ metadata opened,
        SecureAccessService.Grant crypto service request viewDraws metadata opened →
          metadata = prepared.metadata ∧
            (keysOf passphrase).encryptionKey = (keysOf given).encryptionKey) ∧
      (keysOf passphrase = keysOf given →
        page.throttle.isLocked viewDraws.throttleClock prepared.metadata.fileId = false →
        (DeviceBindingValidator.validate prepared.metadata.deviceBinding
          (presentedIdentity crypto probes page)).ok = true →
        (SecureAccessService.effectiveWrapper crypto privateKey.keyWrapper
          prepared.metadata.deviceBinding (presentedIdentity crypto probes page)).unwrap
            prepared.metadata.wrappedKey = .ok draws.store.encrypt.fek.1 →
        SecureAccessService.Grant crypto service request viewDraws prepared.metadata
          plaintext) := by
  intro keysOf
  have portable := written.portable
  rw [prompted] at portable
  obtain ⟨portableRecord, rfl, protectedRecord⟩ := portable
  have embedded : (SecureStorageService.containerOf prepared
      (some ⟨draws.salt.1, portableRecord⟩)).portableMetadata =
        some ⟨draws.salt.1, portableRecord⟩ := rfl
  have chosen := @chosenSource_some crypto page privateKey passphrase path _ _ embedded
  obtain ⟨session, genuine, started⟩ := @Ready.prepareView_eq crypto probes page privateKey
    passphrase device path display disk _ ready written.read bytes written.file.serialized
    (by rw [chosen]; nofun)
  rw [chosen] at started
  have loaded : (Repository.portable ⟨SecureStorageService.containerOf prepared
      (some ⟨draws.salt.1, portableRecord⟩), path⟩).load prepared.metadata.fileId =
        some portableRecord := by
    rw [Repository.load]
    refine PortableMetadataRepository.load_eq_some.mpr
      ⟨?_, ⟨draws.salt.1, portableRecord⟩, rfl, rfl⟩
    exact (MetadataProtector.protect_eq_ok.mp protectedRecord).2.1
  rw [sessionKey] at protectedRecord
  refine ⟨_, _, started, rfl, rfl, ?_, ?_⟩
  · intro metadata opened grant
    obtain ⟨repository, record, primary, found, unprotected⟩ := grant.recorded
    obtain rfl := Option.some.inj primary
    obtain rfl := Option.some.inj (loaded.symm.trans found)
    exact ⟨MetadataProtector.eq_of_unprotect_protect laws protectedRecord unprotected,
      MetadataProtector.key_eq_of_unprotect laws protectedRecord unprotected⟩
  · intro sameKeys notThrottled accepted unwrapped
    rw [show EncryptionPage.portableMetadataKeys crypto privateKey given draws.salt.1 =
      EncryptionPage.portableMetadataKeys crypto privateKey passphrase draws.salt.1 from
        sameKeys.symm] at protectedRecord
    exact written.file.file.grant_of_record laws genuine notThrottled rfl loaded protectedRecord rfl
      ⟨written.file.valid encryption.ownerId_ne_empty (EncryptionPage.leavesTraces
        (sessionKey ▸ oaep)), written.file.describes.hash,
        EncryptionPage.policyHolds written.file _, accepted⟩ unwrapped

end Views

end DecryptionPage

/-! ## A written file as it is found -/

def plainEncryptionPage : EncryptionPage where
  metadataRepository := some {}
  protectionKeys := some plainKeys
  session := none

theorem plainEncryptionPage_plain : PlainPage plainEncryptionPage :=
  ⟨rfl, rfl, rfl⟩

/-- The first write of the page, on an empty device. -/
def plainPageWrite (bindDevice onMachine oneTimeAccess : Bool) (passphrase : Option String) :
    EncryptionPage.PageWrite :=
  plainEncryptionPage.writeContainer storeCrypto
    (plainChoice bindDevice onMachine oneTimeAccess passphrase) (plainWriteDraws (padTo 16 []))
    plainProbes (fun _ => none)

/-- The decryption page after this write, with the key pair loaded and a container selected on
a device. -/
def plainDecryptionPage (write : EncryptionPage.PageWrite) (passphrase : String)
    (device : USBDevice) (path : DevicePath) : DecryptionPage where
  metadataRepository := write.page.metadataRepository
  protectionKeys := plainKeys
  session := some ⟨localOwnerId, false, localOwnerId_ne_empty⟩
  selectedDevice := some device
  selectedContainer := some path
  keyWrapper := some ⟨transparentPrivateKey.publicKey, some transparentPrivateKey⟩
  loadedKeyPassphrase := some (encodeUtf8 passphrase)
  keyPath := "file_wrapping_key.pem"

theorem plainDecryptionPage_ready (write : EncryptionPage.PageWrite) (passphrase : String)
    (device : USBDevice) (path : DevicePath) :
    (plainDecryptionPage write passphrase device path).Ready transparentPrivateKey
      (encodeUtf8 passphrase) device path :=
  ⟨⟨_, rfl, rfl⟩, rfl, rfl, rfl, rfl⟩

/-- A device that holds one file. -/
def copyOf (contents : Option Bytes) (path : DevicePath) : Disk :=
  fun other => if other = path then contents else none

/-- Wherever the container is copied to, the file is found. -/
theorem plainPageWrite_found (bindDevice onMachine oneTimeAccess : Bool)
    (prompted : Option String) (passphrase : String) (device : USBDevice) (path : DevicePath) :
    ∃ written, DecryptionPage.FindsFile storeCrypto plainEncryptionPage
      (plainChoice bindDevice onMachine oneTimeAccess prompted) (plainWriteDraws (padTo 16 []))
      plainProbes (fun _ => none) written
      (plainDecryptionPage (plainPageWrite bindDevice onMachine oneTimeAccess prompted) passphrase
        device path)
      (copyOf ((plainPageWrite bindDevice onMachine oneTimeAccess prompted).disk
        written.destination) path) path := by
  obtain ⟨written, wrote⟩ := @PlainPage.write_returns plainEncryptionPage bindDevice onMachine
    oneTimeAccess prompted (padTo 16 []) (fun _ => none) plainEncryptionPage_plain rfl
  obtain ⟨returned, -, repositoryEq⟩ := EncryptionPage.writeContainer_eq wrote
  obtain ⟨prepared, portableMetadata, plaintext, bytes, stored⟩ :=
    SecureStorageService.storeFile_returns returned
  obtain ⟨saved, savedEq, -⟩ := stored.load rfl
  have recorded : (plainPageWrite bindDevice onMachine oneTimeAccess
      prompted).page.metadataRepository = some saved := repositoryEq.trans savedEq
  exact ⟨written, wrote, if_pos rfl, ⟨saved, saved, recorded, recorded, rfl⟩, rfl⟩

end CryptoUsb
