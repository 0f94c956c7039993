import CryptoUsb.DecryptionPage

/-!
# What an exported key opens

All writes of a page session wrap their keys with one key pair, and an export hands it
out under one passphrase.  The portable section of a file is protected under the
passphrase of its own write, and a view prefers it to the local record: the exported key
opens the files without such a section, and those whose passphrase is the exported one.
-/

namespace CryptoUsb

open ByteString

namespace EncryptionPage

/-! ## Sessions -/

/-- One write of a session, with the devices and the local table as the write finds them. -/
structure SessionWrite where
  choice : WriteChoice
  draws : WriteDraws
  disk : Disk
  metadataRepository : Option MetadataRepository

/-- The page when the write starts. -/
def SessionWrite.start (write : SessionWrite) (page : EncryptionPage) : EncryptionPage :=
  { page with metadataRepository := write.metadataRepository }

def SessionWrite.run (crypto : Cryptography) (probes : HostProbes) (write : SessionWrite)
    (page : EncryptionPage) : PageWrite :=
  (write.start page).writeContainer crypto write.choice write.draws probes write.disk

/-- The page after some writes. -/
def afterWrites (crypto : Cryptography) (probes : HostProbes) :
    List SessionWrite → EncryptionPage → EncryptionPage
  | [], page => page
  | write :: later, page => afterWrites crypto probes later (write.run crypto probes page).page

section Sessions

variable {crypto : Cryptography} {probes : HostProbes} {page : EncryptionPage}
  {privateKey : RSAPrivateKey}

theorem afterWrites_append (earlier later : List SessionWrite) :
    afterWrites crypto probes (earlier ++ later) page =
      afterWrites crypto probes later (afterWrites crypto probes earlier page) := by
  induction earlier generalizing page with
  | nil => rfl
  | cons write earlier ih => exact ih

theorem sessionKey_of_held (held : page.privateKey = some privateKey)
    (generated : RSAPrivateKey) : page.sessionKey generated = privateKey := by
  rw [sessionKey, held]
  rfl

theorem run_page {write : SessionWrite} {outcome : Raises SecureWriteResult}
    (ended : (write.run crypto probes page).outcome = some outcome) :
    (write.run crypto probes page).page.privateKey =
        some (page.sessionKey write.draws.generated) ∧
      (write.run crypto probes page).page.lastWritePassphrase =
        promptPassphrase write.choice.passphrase := by
  simp only [SessionWrite.run, writeContainer] at ended ⊢
  split_ifs at ended ⊢
  exact ⟨rfl, rfl⟩

theorem run_keeps_key (write : SessionWrite) (held : page.privateKey = some privateKey) :
    (write.run crypto probes page).page.privateKey = some privateKey := by
  simp only [SessionWrite.run, writeContainer]
  split_ifs
  · exact held
  · exact congrArg some (sessionKey_of_held held _)

theorem afterWrites_keeps_key (writes : List SessionWrite)
    (held : page.privateKey = some privateKey) :
    (afterWrites crypto probes writes page).privateKey = some privateKey := by
  induction writes generalizing page with
  | nil => exact held
  | cons write writes ih => exact ih (run_keeps_key write held)

theorem exportKey_eq {earlier later : List SessionWrite} {write : SessionWrite}
    {outcome : Raises SecureWriteResult}
    (ended : (write.run crypto probes (afterWrites crypto probes earlier page)).outcome =
      some outcome) {generated : RSAPrivateKey} {answer : Option String} {passphrase : Bytes}
    (exported : ((afterWrites crypto probes (earlier ++ write :: later) page).exportKey generated
      answer).2 = some (privateKey, passphrase)) :
    (afterWrites crypto probes earlier page).sessionKey write.draws.generated = privateKey := by
  have held := @afterWrites_keeps_key crypto probes _ _ later (run_page ended).1
  rw [afterWrites_append] at exported
  obtain ⟨_, -, sameKey⟩ := Option.map_eq_some_iff.mp exported
  have exportedKey := (Prod.mk.inj sameKey).1
  rw [← exportedKey, ← sessionKey_of_held held generated]
  rfl

end Sessions

end EncryptionPage

namespace DecryptionPage

/-! ## Views with the exported key -/

/-- The key file that a session exported is loaded under its passphrase. -/
structure LoadsExport (serialization : KeySerialization RSAPrivateKey RSAPublicKey)
    (exporting : EncryptionPage) (page : DecryptionPage) (privateKey : RSAPrivateKey)
    (passphrase : Bytes) : Prop where
  exported : ∃ generated answer, (exporting.exportKey generated answer).2 =
    some (privateKey, passphrase)
  loaded : ∃ before pem text generated,
    KeyAuthenticator.loadPrivateKey serialization pem passphrase = .ok privateKey ∧
      encodeUtf8 text = passphrase ∧
      loadKey serialization before (.ok pem) text generated = .ok page

/-- A signed-in user has selected a container on a device. -/
structure Selects (page : DecryptionPage) (device : USBDevice) (path : DevicePath) : Prop where
  session : ∃ session, page.session = some session ∧ session.isDecoy = false
  selectedDevice : page.selectedDevice = some device
  selectedContainer : page.selectedContainer = some path

/-- The view is granted, and what it shows is this plaintext. -/
def GrantsFile (crypto : Cryptography) (probes : HostProbes) (page : DecryptionPage)
    (display : Bytes → Raises Unit) (disk : Disk) (draws : AccessDraws) (plaintext : Bytes) :
    Prop :=
  ∃ result outcome,
    (onViewClicked crypto probes page display disk draws).attempt = .ok result ∧
      result.outcome = .ok outcome ∧ outcome.granted = true ∧
      result.views.map View.buffer = [plaintext]

/-- The view comes to an attempt that shows nothing. -/
def ShowsNothing (crypto : Cryptography) (probes : HostProbes) (page : DecryptionPage)
    (display : Bytes → Raises Unit) (disk : Disk) (draws : AccessDraws) : Prop :=
  ∃ result, (onViewClicked crypto probes page display disk draws).attempt = .ok result ∧
    result.views = []

section Views

variable {crypto : Cryptography} {serialization : KeySerialization RSAPrivateKey RSAPublicKey}
  {privateKey : RSAPrivateKey} {encryption : EncryptionPage} {choice : WriteChoice}
  {draws : WriteDraws} {probes : HostProbes} {page : DecryptionPage} {disk : Disk}
  {device : USBDevice} {path : DevicePath} {passphrase : Bytes} {prepared : PreparedFile}
  {portableMetadata : Option PortableMetadataEnvelope} {plaintext bytes : Bytes}
  {display : Bytes → Raises Unit} {viewDraws : AccessDraws}

theorem LoadsExport.ready
    (loads : LoadsExport serialization encryption page privateKey passphrase)
    (selects : page.Selects device path) : page.Ready privateKey passphrase device path := by
  obtain ⟨before, pem, text, generated, opens, typed, loaded⟩ := loads.loaded
  rw [← typed] at opens
  have answered : (Except.ok pem : Raises Bytes).bind (fun pem =>
      KeyAuthenticator.loadPrivateKey serialization pem (encodeUtf8 text)) = .ok privateKey := opens
  simp only [loadKey, answered, Except.ok.injEq] at loaded
  refine ⟨selects.session, ?_, ?_, selects.selectedDevice, selects.selectedContainer⟩
  · rw [← loaded]
  · rw [← loaded, typed]

theorem GrantsFile.of_grant {service : SecureAccessService} {request : AccessRequest}
    {metadata : FileMetadata}
    (started : prepareView crypto probes page display disk = .ok (service, request))
    (grant : SecureAccessService.Grant crypto service request viewDraws metadata plaintext)
    (shown : Returns (request.onGranted plaintext metadata))
    (reusable : metadata.usagePolicy.oneTimeAccess = false) :
    GrantsFile crypto probes page display disk viewDraws plaintext := by
  have viewed := ViewsPlaintext.of_grant disk grant
  obtain ⟨outcome, returned, granted⟩ := viewed.granted shown (.inl reusable)
  refine ⟨_, outcome, ?_, returned, granted, ?_⟩
  · simp only [onViewClicked, started]
  · rw [viewed.views]
    rfl

theorem ShowsNothing.not_grantsFile
    (nothing : ShowsNothing crypto probes page display disk viewDraws) :
    ¬ GrantsFile crypto probes page display disk viewDraws plaintext := by
  rintro ⟨result, outcome, attempted, -, -, shown⟩
  obtain ⟨idle, sameAttempt, empty⟩ := nothing
  obtain rfl := Except.ok.inj (attempted.symm.trans sameAttempt)
  rw [empty] at shown
  cases shown

theorem ShowsNothing.of_not_grant {service : SecureAccessService} {request : AccessRequest}
    (started : prepareView crypto probes page display disk = .ok (service, request))
    (denied : ∀ metadata opened,
      ¬ SecureAccessService.Grant crypto service request viewDraws metadata opened) :
    ShowsNothing crypto probes page display disk viewDraws := by
  refine ⟨SecureAccessService.attemptAccess crypto service disk request viewDraws, ?_, ?_⟩
  · simp only [onViewClicked, started]
  · rcases SecureAccessService.attemptAccess_cases crypto service disk request viewDraws with
      ⟨metadata, opened, grant, -⟩ | idle
    · exact absurd grant (denied metadata opened)
    · exact idle.views

/-- On the device and the machine of the write, the binding is accepted and the key unwraps. -/
theorem WrittenFile.atHome (laws : crypto.AesGcmLaws) (oaep : privateKey.OaepLaws)
    (written : WrittenFile crypto encryption choice draws probes disk path prepared
      portableMetadata plaintext bytes)
    (sessionKey : encryption.sessionKey draws.generated = privateKey)
    (ready : page.Ready privateKey passphrase choice.device path)
    (satisfied : choice.machineBinding = .specific →
      choice.targetMachineFingerprint = computeMachineFingerprint crypto probes) :
    (∀ fingerprint, SecureStorageService.recordedMachine crypto probes choice.machineBinding
        (encryption.storeRequest crypto choice draws).targetMachineFingerprint =
          some fingerprint → computeMachineFingerprint crypto probes = fingerprint) ∧
      (DeviceBindingValidator.validate prepared.metadata.deviceBinding
        (presentedIdentity crypto probes page)).ok = true ∧
      (SecureAccessService.effectiveWrapper crypto privateKey.keyWrapper
        prepared.metadata.deviceBinding (presentedIdentity crypto probes page)).unwrap
          prepared.metadata.wrappedKey = .ok draws.store.encrypt.fek.1 := by
  have machine : ∀ fingerprint, SecureStorageService.recordedMachine crypto probes
      choice.machineBinding (encryption.storeRequest crypto choice draws).targetMachineFingerprint =
        some fingerprint → computeMachineFingerprint crypto probes = fingerprint := by
    intro fingerprint recorded
    cases binding : choice.machineBinding with
    | none =>
        rw [binding] at recorded
        cases recorded
    | current =>
        rw [binding] at recorded
        exact Option.some.inj recorded
    | specific =>
        rw [binding] at recorded
        have filtered : (some choice.targetMachineFingerprint).filter (· ≠ "") =
            some fingerprint := recorded
        obtain ⟨target, -⟩ := Option.filter_eq_some_iff.mp filtered
        exact (satisfied binding).symm.trans (Option.some.inj target)
  have sameWrapper : (encryption.storeRequest crypto choice draws).keyWrapper =
      privateKey.keyWrapper := by
    rw [← sessionKey]
    rfl
  have unwrapped : (SecureStorageService.storeWrapper crypto probes
      (encryption.storeRequest crypto choice draws)).unwrap prepared.metadata.wrappedKey =
        .ok draws.store.encrypt.fek.1 := by
    apply SecureStorageService.storeWrapper_undoesWrap laws
    · rw [sameWrapper]
      exact oaep.undoesWrap
    · exact written.file.wrapped
  refine ⟨machine, ?_, ?_⟩
  · rw [ready.presentedIdentity_eq]
    apply written.file.binding_accepted
    intro fingerprint recorded
    exact congrArg some (machine fingerprint recorded)
  · rw [ready.presentedIdentity_eq, ← sameWrapper]
    have effective := written.file.effectiveWrapper_eq
      (some (computeMachineFingerprint crypto probes))
    exact (congrArg (·.unwrap prepared.metadata.wrappedKey) effective).trans unwrapped

/-- Without a portable section, a view goes through the local record. -/
theorem FoundFile.local_grant (laws : crypto.AesGcmLaws) (oaep : privateKey.OaepLaws)
    (found : FoundFile crypto encryption choice draws probes page disk path prepared
      portableMetadata plaintext bytes)
    (sessionKey : encryption.sessionKey draws.generated = privateKey)
    (ready : page.Ready privateKey passphrase choice.device path)
    (unembedded : portableMetadata = none)
    (satisfied : choice.machineBinding = .specific →
      choice.targetMachineFingerprint = computeMachineFingerprint crypto probes)
    (notThrottled : page.throttle.isLocked viewDraws.throttleClock prepared.metadata.fileId =
      false) :
    ∃ service request, prepareView crypto probes page display disk = .ok (service, request) ∧
      request.onGranted = (fun buffer _ => display buffer) ∧
      SecureAccessService.Grant crypto service request viewDraws prepared.metadata plaintext := by
  obtain ⟨-, accepted, unwrapped⟩ := found.toWrittenFile.atHome laws oaep sessionKey ready satisfied
  obtain ⟨table, tableEq, loaded⟩ := found.recorded
  have chosen := @chosenSource_none crypto page privateKey passphrase path
    (SecureStorageService.containerOf prepared portableMetadata) unembedded
  have localTable : (localSource page).repository = some (.sqlite table) := by
    rw [localSource, tableEq]
    rfl
  obtain ⟨session, genuine, started⟩ := @Ready.prepareView_eq crypto probes page privateKey
    passphrase choice.device path display disk _ ready found.read bytes found.file.serialized
    (by rw [chosen, localTable]; nofun)
  rw [chosen] at started
  have localLoaded : (Repository.sqlite table).load prepared.metadata.fileId =
      some prepared.protectedMetadata := loaded
  have written := found.file.written
  rw [found.keys] at written
  refine ⟨_, _, started, rfl, ?_⟩
  exact found.file.file.grant_of_record laws genuine notThrottled localTable localLoaded written
    rfl ⟨found.file.valid encryption.ownerId_ne_empty (EncryptionPage.leavesTraces
      (sessionKey ▸ oaep)), found.file.describes.hash, EncryptionPage.policyHolds found.file _,
      accepted⟩ unwrapped

/-- Under other keys than its own the portable section does not open. -/
theorem WrittenFile.shows_nothing (laws : crypto.AesGcmLaws) (oaep : privateKey.OaepLaws)
    (written : WrittenFile crypto encryption choice draws probes disk path prepared
      portableMetadata plaintext bytes)
    (sessionKey : encryption.sessionKey draws.generated = privateKey)
    (ready : page.Ready privateKey passphrase device path) {given : Bytes}
    (prompted : EncryptionPage.promptPassphrase choice.passphrase = some given)
    (otherKeys : (EncryptionPage.portableMetadataKeys crypto privateKey passphrase
      draws.salt.1).encryptionKey ≠
        (EncryptionPage.portableMetadataKeys crypto privateKey given draws.salt.1).encryptionKey) :
    ShowsNothing crypto probes page display disk viewDraws := by
  obtain ⟨service, request, started, -, -, reads, -⟩ :=
    @WrittenFile.portable_grant crypto privateKey encryption choice draws probes probes page disk
      device path passphrase prepared portableMetadata plaintext bytes display viewDraws laws oaep
      written sessionKey ready given prompted
  apply ShowsNothing.of_not_grant started
  intro metadata opened grant
  exact otherKeys (reads metadata opened grant).2

/-- A file of a session is viewed with the exported key where no portable section was made, or
where it was made with the exported passphrase; with other derived keys nothing is shown. -/
theorem exported_key_opens (laws : crypto.AesGcmLaws) (oaep : privateKey.OaepLaws)
    {first : EncryptionPage} {earlier later : List EncryptionPage.SessionWrite}
    {write : EncryptionPage.SessionWrite} {written : SecureWriteResult}
    (loads : LoadsExport serialization
      (EncryptionPage.afterWrites crypto probes (earlier ++ write :: later) first) page privateKey
      passphrase)
    (finds : FindsFile crypto
      (write.start (EncryptionPage.afterWrites crypto probes earlier first)) write.choice write.draws
      probes write.disk written page disk path)
    (selects : page.Selects write.choice.device path)
    (satisfied : write.choice.machineBinding = .specific →
      write.choice.targetMachineFingerprint = computeMachineFingerprint crypto probes)
    (reusable : write.choice.oneTimeAccess = false)
    (notThrottled : page.throttle.isLocked viewDraws.throttleClock written.fileId = false)
    (shown : ∀ plaintext, Returns (display plaintext)) :
    let keysOf passphrase := EncryptionPage.portableMetadataKeys crypto privateKey passphrase
      write.draws.salt.1
    ∃ plaintext, write.choice.source = .ok plaintext ∧
      ((∀ given, EncryptionPage.promptPassphrase write.choice.passphrase = some given →
          keysOf passphrase = keysOf given) →
        GrantsFile crypto probes page display disk viewDraws plaintext) ∧
      (∀ given, EncryptionPage.promptPassphrase write.choice.passphrase = some given →
          (keysOf passphrase).encryptionKey ≠ (keysOf given).encryptionKey →
        ShowsNothing crypto probes page display disk viewDraws) := by
  intro keysOf
  obtain ⟨prepared, portableMetadata, plaintext, bytes, source, sameId, found⟩ := finds.found
  rw [sameId] at notThrottled
  obtain ⟨generated, answer, exported⟩ := loads.exported
  have sessionKey := EncryptionPage.exportKey_eq finds.wrote exported
  have ready := loads.ready selects
  have reusableRecord : prepared.metadata.usagePolicy.oneTimeAccess = false := by
    rw [found.file.metadata]
    exact reusable
  obtain ⟨-, accepted, unwrapped⟩ := found.toWrittenFile.atHome laws oaep sessionKey ready satisfied
  refine ⟨plaintext, source, ?_, ?_⟩
  · intro sameKeys
    cases prompted : EncryptionPage.promptPassphrase write.choice.passphrase with
    | none =>
        have unembedded := found.portable
        rw [prompted] at unembedded
        obtain ⟨service, request, started, shows, grant⟩ := found.local_grant laws oaep sessionKey
          ready unembedded satisfied notThrottled
        exact .of_grant started grant (shows ▸ shown plaintext) reusableRecord
    | some given =>
        obtain ⟨service, request, started, -, shows, -, grants⟩ :=
          @WrittenFile.portable_grant crypto privateKey _ write.choice write.draws probes probes page
            disk write.choice.device path passphrase prepared portableMetadata plaintext bytes
            display viewDraws laws oaep found.toWrittenFile sessionKey ready given prompted
        have grant := grants (sameKeys given prompted) notThrottled accepted unwrapped
        exact .of_grant started grant (shows ▸ shown plaintext) reusableRecord
  · intro given prompted otherKeys
    exact found.toWrittenFile.shows_nothing laws oaep sessionKey ready prompted otherKeys

end Views

end DecryptionPage

/-! ## Two writes under two passphrases -/

/-- A PEM that spells out the passphrase that opens it. -/
def spelledSerialization : KeySerialization RSAPrivateKey RSAPublicKey where
  loadPemPrivateKey pem passphrase :=
    if pem = passphrase then .ok transparentPrivateKey
    else raise .valueError "Bad decrypt. Incorrect password?"
  loadPemPublicKey _ := .ok transparentPrivateKey.publicKey
  sign _ _ challenge := .ok challenge
  verify _ signature challenge := .ok (signature = challenge)

/-- The two bytes are written to an empty device under a passphrase. -/
def plainSessionWrite (passphrase : String) (fileId : BytesOf 16)
    (metadataRepository : Option MetadataRepository) : EncryptionPage.SessionWrite where
  choice := plainChoice true false false (some passphrase)
  draws := plainWriteDraws fileId
  disk := fun _ => none
  metadataRepository := metadataRepository

/-- The decryption page with the key that was exported, and a container selected. -/
def exportedPage (metadataRepository : Option MetadataRepository) (passphrase : String)
    (path : DevicePath) : DecryptionPage where
  metadataRepository := metadataRepository
  protectionKeys := plainKeys
  session := some ⟨localOwnerId, false, localOwnerId_ne_empty⟩
  selectedDevice := some plainDevice
  selectedContainer := some path
  keyWrapper := some ⟨transparentPrivateKey.publicKey, some transparentPrivateKey⟩
  loadedKeyPassphrase := some (encodeUtf8 passphrase)
  keyPath := "file_wrapping_key.pem"

section PlainSession

variable {page : EncryptionPage} {passphrase : String} {fileId : BytesOf 16}
  {metadataRepository : Option MetadataRepository} {path : DevicePath}

theorem PlainPage.run (plain : PlainPage page) :
    PlainPage ((plainSessionWrite passphrase fileId metadataRepository).run storeCrypto plainProbes
      page).page := by
  simp only [EncryptionPage.SessionWrite.run, EncryptionPage.writeContainer]
  split_ifs
  · exact ⟨plain.keys, plain.sessionKey, plain.session⟩
  · exact ⟨plain.keys, plain.sessionKey, plain.session⟩

theorem PlainPage.run_returns (plain : PlainPage page) :
    ∃ written, ((plainSessionWrite passphrase fileId metadataRepository).run storeCrypto plainProbes
      page).outcome = some (.ok written) := by
  have started : PlainPage ((plainSessionWrite passphrase fileId metadataRepository).start page) :=
    ⟨plain.keys, plain.sessionKey, plain.session⟩
  exact started.write_returns rfl

theorem PlainPage.loadsExport (plain : PlainPage page)
    (remembered : page.lastWritePassphrase = some (encodeUtf8 passphrase)) :
    DecryptionPage.LoadsExport spelledSerialization page
      (exportedPage metadataRepository passphrase path) transparentPrivateKey
      (encodeUtf8 passphrase) where
  exported := by
    refine ⟨transparentPrivateKey, none, ?_⟩
    simp only [EncryptionPage.exportKey, remembered, plain.sessionKey]
    rfl
  loaded := by
    have opens : KeyAuthenticator.loadPrivateKey spelledSerialization (encodeUtf8 passphrase)
        (encodeUtf8 passphrase) = .ok transparentPrivateKey := by
      simp only [KeyAuthenticator.loadPrivateKey, spelledSerialization, if_true]
    refine ⟨exportedPage metadataRepository passphrase path, _, passphrase, transparentPrivateKey,
      opens, rfl, ?_⟩
    simp only [DecryptionPage.loadKey, Except.bind, opens]
    rfl

/-- After a second write the first file is found, with both records in the table. -/
theorem PlainPage.findsFile (plain : PlainPage page) (table : MetadataRepository)
    {other : String} {otherId : BytesOf 16}
    (different : uuidText (uuid4 fileId) ≠ uuidText (uuid4 otherId)) :
    let first := plainSessionWrite passphrase fileId (some table)
    let before := (first.run storeCrypto plainProbes page).page
    let second := plainSessionWrite other otherId before.metadataRepository
    ∃ after written path disk,
      (second.run storeCrypto plainProbes before).page.metadataRepository = some after ∧
        DecryptionPage.FindsFile storeCrypto (first.start page) first.choice first.draws plainProbes
          first.disk written (exportedPage (some after) other path) disk path := by
  intro first before second
  obtain ⟨written, wrote⟩ : ∃ written, (first.run storeCrypto plainProbes page).outcome =
    some (.ok written) := plain.run_returns
  obtain ⟨writtenSecond, wroteSecond⟩ : ∃ written, (second.run storeCrypto plainProbes
    before).outcome = some (.ok written) := plain.run.run_returns
  obtain ⟨returned, -, repositoryEq⟩ := EncryptionPage.writeContainer_eq wrote
  obtain ⟨prepared, portableMetadata, plaintext, bytes, stored⟩ :=
    SecureStorageService.storeFile_returns returned
  obtain ⟨saved, savedEq, -⟩ := stored.load rfl
  have recorded : before.metadataRepository = some saved := repositoryEq.trans savedEq
  obtain ⟨returnedSecond, -, repositorySecond⟩ := EncryptionPage.writeContainer_eq wroteSecond
  obtain ⟨preparedSecond, _, _, _, storedSecond⟩ :=
    SecureStorageService.storeFile_returns returnedSecond
  obtain ⟨after, afterEq, kept⟩ := storedSecond.load_other recorded
  refine ⟨after, written, plainPath fileId, copyOf ((first.run storeCrypto plainProbes page).disk
    written.destination) (plainPath fileId), repositorySecond.trans afterEq, wrote, if_pos rfl,
    ⟨after, saved, rfl, recorded, kept _ ?_⟩, plain.keys⟩
  rw [stored.fileId, stored.file.metadata, storedSecond.file.metadata]
  exact different

theorem PlainPage.second_loadsExport (plain : PlainPage page) {first : String}
    {firstId : BytesOf 16} {firstTable table : Option MetadataRepository}
    (prompted : EncryptionPage.promptPassphrase (some passphrase) =
      some (encodeUtf8 passphrase)) :
    DecryptionPage.LoadsExport spelledSerialization
      (EncryptionPage.afterWrites storeCrypto plainProbes
        ([] ++ plainSessionWrite first firstId firstTable ::
          [plainSessionWrite passphrase fileId metadataRepository]) page)
      (exportedPage table passphrase path) transparentPrivateKey (encodeUtf8 passphrase) := by
  obtain ⟨written, returned⟩ := (@PlainPage.run page first firstId firstTable plain).run_returns
  have remembered := (EncryptionPage.run_page returned).2
  exact (plain.run.run).loadsExport (remembered.trans prompted)

end PlainSession

/-- The first write of the session. -/
def firstWrite : EncryptionPage.SessionWrite :=
  plainSessionWrite "passphrase-a" (padTo 16 []) (some {})

/-- The second write, which finds the record of the first one. -/
def secondWrite : EncryptionPage.SessionWrite :=
  plainSessionWrite "passphrase-b" (padTo 16 [1])
    (firstWrite.run storeCrypto plainProbes plainEncryptionPage).page.metadataRepository

/-- The page after both writes. -/
abbrev twiceWritten : EncryptionPage :=
  EncryptionPage.afterWrites storeCrypto plainProbes ([] ++ firstWrite :: [secondWrite])
    plainEncryptionPage

theorem twiceWritten_loadsExport (metadataRepository : Option MetadataRepository)
    (path : DevicePath) : DecryptionPage.LoadsExport spelledSerialization twiceWritten
      (exportedPage metadataRepository "passphrase-b" path) transparentPrivateKey
      (encodeUtf8 "passphrase-b") := by
  have prompted : EncryptionPage.promptPassphrase (some "passphrase-b") =
      some (encodeUtf8 "passphrase-b") := by
    decide +kernel
  exact plainEncryptionPage_plain.second_loadsExport prompted

theorem firstWrite_found : ∃ after written path disk,
    DecryptionPage.FindsFile storeCrypto (firstWrite.start (EncryptionPage.afterWrites storeCrypto
        plainProbes [] plainEncryptionPage)) firstWrite.choice firstWrite.draws plainProbes
      firstWrite.disk written (exportedPage (some after) "passphrase-b" path) disk path := by
  have different : uuidText (uuid4 (padTo 16 [])) ≠ uuidText (uuid4 (padTo 16 [1])) := by
    decide +kernel
  obtain ⟨after, written, path, disk, -, finds⟩ := @PlainPage.findsFile plainEncryptionPage
    "passphrase-a" (padTo 16 []) plainEncryptionPage_plain {} "passphrase-b" (padTo 16 [1]) different
  exact ⟨after, written, path, disk, finds⟩

/-- With the key that is exported after the second write, the first file is not shown. -/
theorem earlier_file_not_opened : ∃ after written path disk,
    DecryptionPage.LoadsExport spelledSerialization twiceWritten
        (exportedPage (some after) "passphrase-b" path) transparentPrivateKey
        (encodeUtf8 "passphrase-b") ∧
      DecryptionPage.FindsFile storeCrypto (firstWrite.start (EncryptionPage.afterWrites storeCrypto
          plainProbes [] plainEncryptionPage)) firstWrite.choice firstWrite.draws plainProbes
        firstWrite.disk written (exportedPage (some after) "passphrase-b" path) disk path ∧
      (exportedPage (some after) "passphrase-b" path).Selects firstWrite.choice.device path ∧
      firstWrite.choice.oneTimeAccess = false ∧ firstWrite.choice.machineBinding = .none ∧
      ∀ viewDraws plaintext, ¬ DecryptionPage.GrantsFile storeCrypto plainProbes
        (exportedPage (some after) "passphrase-b" path) (fun _ => .ok ()) disk viewDraws
          plaintext := by
  obtain ⟨after, written, path, disk, finds⟩ := firstWrite_found
  have loads := twiceWritten_loadsExport (some after) path
  have selects : (exportedPage (some after) "passphrase-b" path).Selects plainDevice path :=
    ⟨⟨_, rfl, rfl⟩, rfl, rfl⟩
  refine ⟨after, written, path, disk, loads, finds, selects, rfl, rfl, ?_⟩
  intro viewDraws plaintext
  obtain ⟨prepared, portableMetadata, _, bytes, -, -, found⟩ := finds.found
  have prompted : EncryptionPage.promptPassphrase firstWrite.choice.passphrase =
      some (encodeUtf8 "passphrase-a") := by
    show EncryptionPage.promptPassphrase (some "passphrase-a") = some (encodeUtf8 "passphrase-a")
    decide +kernel
  apply DecryptionPage.ShowsNothing.not_grantsFile
  exact found.toWrittenFile.shows_nothing transparent_aesGcmLaws transparentPrivateKey_laws
    plainEncryptionPage_plain.sessionKey (loads.ready selects) prompted (by decide +kernel)

/-- Two writes under one passphrase: the first file is shown. -/
theorem exported_key_opens_plain : ∃ (after : MetadataRepository) (path : DevicePath) (disk : Disk),
    DecryptionPage.GrantsFile storeCrypto plainProbes
      (exportedPage (some after) "passphrase-b" path) (fun _ => .ok ()) disk plainDraws
        [104, 105] := by
  have different : uuidText (uuid4 (padTo 16 [])) ≠ uuidText (uuid4 (padTo 16 [1])) := by
    decide +kernel
  have prompted : EncryptionPage.promptPassphrase (some "passphrase-b") =
      some (encodeUtf8 "passphrase-b") := by
    decide +kernel
  obtain ⟨after, written, path, disk, -, finds⟩ := @PlainPage.findsFile plainEncryptionPage
    "passphrase-b" (padTo 16 []) plainEncryptionPage_plain {} "passphrase-b" (padTo 16 [1]) different
  obtain ⟨plaintext, source, opens, -⟩ := @DecryptionPage.exported_key_opens storeCrypto
    spelledSerialization transparentPrivateKey plainProbes
    (exportedPage (some after) "passphrase-b" path) disk path (encodeUtf8 "passphrase-b")
    (fun _ => .ok ()) plainDraws transparent_aesGcmLaws transparentPrivateKey_laws
    plainEncryptionPage [] [plainSessionWrite "passphrase-b" (padTo 16 [1]) (some after)]
    (plainSessionWrite "passphrase-b" (padTo 16 []) (some {})) written
    (plainEncryptionPage_plain.second_loadsExport prompted) finds ⟨⟨_, rfl, rfl⟩, rfl, rfl⟩ nofun
    rfl rfl fun _ => ⟨(), rfl⟩
  obtain rfl := Except.ok.inj source
  refine ⟨after, path, disk, opens fun given givenEq => ?_⟩
  obtain rfl := Option.some.inj (prompted.symm.trans givenEq)
  rfl

end CryptoUsb
