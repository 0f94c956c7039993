import CryptoUsb.ExportedKeys
import CryptoUsb.OneTimeRuns
import CryptoUsb.PageRebind
import CryptoUsb.PortableSaves

/-!
# Copied containers of a one-time file

A one-time file with a local record and a portable section is viewed through the decryption
page, and its container is copied before and after views.  A view goes through the portable
section of the copy that is selected and burns that section and the local record.  A copy that
was taken before keeps its own section, which the page prefers to the burned local record.
-/

namespace CryptoUsb

open ByteString TransitionRuns

namespace OneTimeAccessEnforcer

variable {crypto : Cryptography} {container : SecureContainer} {path : DevicePath}
  {table : MetadataRepository} {disk : Disk} {metadata : FileMetadata} {wrapper : KeyWrapper}
  {entropy : BurnEntropy} {faults : SaveFaults} {stored : ProtectedMetadata}
  {existing : PortableMetadataEnvelope} {payload : Bytes}

/-- A burn of a portable section and its local mirror in which nothing fails. -/
theorem burn_mirrored (made : burnedRecord crypto metadata wrapper entropy = .ok stored)
    (embedded : container.portableMetadata = some existing)
    (serialized : (container.withRecord existing.salt stored).serialize crypto = .ok payload)
    (spared : ∀ save, faults save = none) :
    burn crypto disk [.portable ⟨container, path⟩, .sqlite table] metadata wrapper entropy
        faults =
      { disk := (disk.remove (temporaryPath path (entropy.temporary 0))).write path payload
        repositories := [.portable ⟨container.withRecord existing.salt stored, path⟩,
          .sqlite (table.upsert stored)]
        saves := [.ok (), .ok ()]
        outcome := .ok (generateProtectionKeys entropy.keys) } := by
  have record : PortableMetadataRepository.replaced ⟨container, path⟩ existing stored =
      container.withRecord existing.salt stored := rfl
  simp only [burn, made, saveAll, Repository.save, PortableMetadataRepository.save, embedded,
    record, spared, SecureStorageWriter.rewrite_without_fault serialized,
    MetadataRepository.save, Except.map]

end OneTimeAccessEnforcer

namespace DecryptionPage

/-! ## Copies and views -/

/-- The local table, the devices, and where the container of one file has been copied to. -/
structure CopiedFile where
  table : MetadataRepository
  disk : Disk
  copies : List DevicePath

/-- A click on "view" and the page as it is then. -/
structure ViewClick where
  probes : HostProbes
  page : DecryptionPage
  display : Bytes → Raises Unit
  draws : AccessDraws

def ViewClick.clicked (crypto : Cryptography) (click : ViewClick) (disk : Disk) : ViewClicked :=
  onViewClicked crypto click.probes click.page click.display disk click.draws

/-- How often a view handed the plaintext to the viewer. -/
def ViewClicked.handed (plaintext : Bytes) (clicked : ViewClicked) : Nat :=
  match clicked.attempt with
  | .error _ => 0
  | .ok result => result.views.countP (·.buffer = plaintext)

inductive CopyEvent
  | copied (source target : DevicePath)
  | viewed (click : ViewClick) (clicked : ViewClicked)

def CopyEvent.handed (plaintext : Bytes) : CopyEvent → Nat
  | .copied _ _ => 0
  | .viewed _ clicked => clicked.handed plaintext

/-- A copy of one of the copies, or a view of one of them with the private key of the file. -/
inductive CopyStep (crypto : Cryptography) (privateKey : RSAPrivateKey) :
    CopiedFile → CopyEvent → CopiedFile → Prop
  | copied {state : CopiedFile} {source : DevicePath} {contents : Bytes} (target : DevicePath)
      (listed : source ∈ state.copies) (held : state.disk source = some contents) :
      CopyStep crypto privateKey state (.copied source target)
        { state with
          disk := state.disk.write target contents
          copies := target :: state.copies }
  | viewed {state : CopiedFile} {click : ViewClick} {passphrase : Bytes} {device : USBDevice}
      {path : DevicePath} {table : MetadataRepository} (listed : path ∈ state.copies)
      (ready : click.page.Ready privateKey passphrase device path)
      (found : click.page.metadataRepository = some state.table)
      (left : (click.clicked crypto state.disk).page.metadataRepository = some table) :
      CopyStep crypto privateKey state (.viewed click (click.clicked crypto state.disk))
        { state with
          table
          disk := (click.clicked crypto state.disk).disk }

/-- The viewer shows what it is given, and the burn that follows takes effect: it draws another
key than that of the file, its record fits into the selected container and no save fails. -/
structure ViewClick.Burns (crypto : Cryptography) (privateKey : RSAPrivateKey)
    (prepared : PreparedFile) (fek : Bytes) (disk : Disk) (click : ViewClick) : Prop where
  shown : ∀ plaintext, Returns (click.display plaintext)
  decoy : click.draws.burn.decoyFek.1 ≠ fek
  spared : ∀ save, click.draws.saveFaults save = none
  fits : ∀ path container stored, click.page.selectedContainer = some path →
    SecureStorageWriter.readContainer crypto disk path = .ok container →
    OneTimeAccessEnforcer.burnedRecord crypto prepared.metadata
      (SecureAccessService.effectiveWrapper crypto privateKey.keyWrapper
        prepared.metadata.deviceBinding (presentedIdentity crypto click.probes click.page))
      click.draws.burn = .ok stored →
    (Repository.portable ⟨container, path⟩).CanStore crypto stored

/-- The page does not turn the view away for earlier attempts from other devices. -/
def ViewClick.Heard (fileId : String) (click : ViewClick) : Prop :=
  click.page.throttle.isLocked click.draws.throttleClock fileId = false

/-- While the local record is as it was written, a view is followed by its burn; after that no
view selects a copy that is as it was written. -/
structure ViewClick.Single (crypto : Cryptography) (privateKey : RSAPrivateKey)
    (prepared : PreparedFile) (fek : Bytes) (original : Option Bytes) (state : CopiedFile)
    (click : ViewClick) : Prop where
  burns : state.table.load prepared.metadata.fileId = some prepared.protectedMetadata →
    click.Heard prepared.metadata.fileId → click.Burns crypto privateKey prepared fek state.disk
  fresh : state.table.load prepared.metadata.fileId ≠ some prepared.protectedMetadata →
    click.Heard prepared.metadata.fileId →
      ∀ path, click.page.selectedContainer = some path → state.disk path ≠ original

def CopyEvent.Single (crypto : Cryptography) (privateKey : RSAPrivateKey)
    (prepared : PreparedFile) (fek : Bytes) (original : Option Bytes) (state : CopiedFile) :
    CopyEvent → Prop
  | .copied _ _ => True
  | .viewed click _ => click.Single crypto privateKey prepared fek original state

/-- A step whose view, if it is one, keeps to these conditions. -/
def SingleStep (crypto : Cryptography) (privateKey : RSAPrivateKey) (prepared : PreparedFile)
    (fek : Bytes) (original : Option Bytes) (state : CopiedFile) (event : CopyEvent)
    (next : CopiedFile) : Prop :=
  CopyStep crypto privateKey state event next ∧
    event.Single crypto privateKey prepared fek original state

/-! ## What a view reaches -/

/-- The attempt that a view of a container with a portable section comes to, where there is a
local record as well. -/
structure Reaches (crypto : Cryptography) (privateKey : RSAPrivateKey) (state : CopiedFile)
    (click : ViewClick) (container : SecureContainer) (path : DevicePath)
    (service : SecureAccessService) (request : AccessRequest) : Prop where
  started : prepareView crypto click.probes click.page click.display state.disk =
    .ok (service, request)
  primary : service.repository = some (.portable ⟨container, path⟩)
  repositories : SecureAccessService.repositories service =
    [.portable ⟨container, path⟩, .sqlite state.table]
  throttle : service.throttle = click.page.throttle
  fileId : request.fileId = container.fileId
  serialized : container.fileContainer.serialize = .ok request.encryptedFileBytes
  keyWrapper : request.keyWrapper = privateKey.keyWrapper
  onGranted : request.onGranted = fun buffer _ => click.display buffer
  identity : request.identity = presentedIdentity crypto click.probes click.page
  containerPath : request.containerPath = some path

section Views

variable {crypto : Cryptography} {privateKey : RSAPrivateKey} {state : CopiedFile}
  {click : ViewClick} {passphrase : Bytes} {device : USBDevice} {path : DevicePath}
  {container : SecureContainer} {service : SecureAccessService} {request : AccessRequest}

theorem Ready.reaches (ready : click.page.Ready privateKey passphrase device path)
    (found : click.page.metadataRepository = some state.table)
    (read : SecureStorageWriter.readContainer crypto state.disk path = .ok container)
    (embedded : container.portableMetadata ≠ none)
    (recorded : (state.table.load container.fileId).isSome = true) {bytes : Bytes}
    (serialized : container.fileContainer.serialize = .ok bytes) :
    ∃ service request, Reaches crypto privateKey state click container path service request := by
  obtain ⟨envelope, given⟩ := Option.ne_none_iff_exists'.mp embedded
  have chosen := @chosenSource_some crypto click.page privateKey passphrase path _ _ given
  obtain ⟨session, -, started⟩ := @Ready.prepareView_eq crypto click.probes click.page
    privateKey passphrase device path click.display state.disk container ready read bytes
      serialized (by rw [chosen]; nofun)
  rw [chosen] at started
  refine ⟨_, _, started, rfl, ?_, rfl, rfl, serialized, rfl, rfl, rfl, rfl⟩
  simp [SecureAccessService.repositories, accessService, mirrors, found, recorded]

/-- A file that is not there is not viewed. -/
theorem Ready.view_of_missing (ready : click.page.Ready privateKey passphrase device path)
    {disk : Disk} (missing : disk path = none) :
    ∃ ended, prepareView crypto click.probes click.page click.display disk = .error ended := by
  obtain ⟨session, signedIn, -⟩ := ready.session
  have unread : ∃ ended, readSelected crypto disk path = .error ended := by
    unfold readSelected SecureStorageService.readEncryptedFileBytes
    simp only [SecureStorageWriter.readContainer, missing]
    exact ⟨_, rfl⟩
  obtain ⟨ended, unread⟩ := unread
  unfold prepareView
  rw [ready.selectedContainer, ready.keyWrapper, signedIn]
  simp only [given, unread, bind, Except.bind]
  cases viewSource crypto click.page disk session path ⟨privateKey.publicKey, some privateKey⟩ with
  | error refused => exact ⟨refused, rfl⟩
  | ok source => exact ⟨ended, rfl⟩

theorem Reaches.clicked (reaches : Reaches crypto privateKey state click container path service
      request) {table : MetadataRepository}
    (left : (click.clicked crypto state.disk).page.metadataRepository = some table)
    (plaintext : Bytes) :
    let result := SecureAccessService.attemptAccess crypto service state.disk request click.draws
    (click.clicked crypto state.disk).handed plaintext =
        result.views.countP (·.buffer = plaintext) ∧
      (click.clicked crypto state.disk).disk = result.disk ∧
      localAfter click.page result.repositories = some table := by
  simp only [ViewClick.clicked, onViewClicked, reaches.started, ViewClicked.handed] at left ⊢
  exact ⟨trivial, trivial, left⟩

theorem Reaches.handed_of_grant
    (reaches : Reaches crypto privateKey state click container path service request)
    {metadata : FileMetadata} {plaintext : Bytes}
    (grant : SecureAccessService.Grant crypto service request click.draws metadata plaintext) :
    (click.clicked crypto state.disk).handed plaintext = 1 := by
  simp only [ViewClick.clicked, onViewClicked, reaches.started, ViewClicked.handed,
    SecureAccessService.attemptAccess_of_grant grant, SecureAccessService.viewed_views]
  simp

theorem table_left (crypto : Cryptography) {disk : Disk} {table : MetadataRepository}
    (found : click.page.metadataRepository = some table) :
    ∃ after, (click.clicked crypto disk).page.metadataRepository = some after := by
  unfold ViewClick.clicked onViewClicked
  split
  · exact ⟨table, found⟩
  · simp only [localAfter, found]
    exact Option.ne_none_iff_exists'.mp (by simp)

end Views

/-! ## Live and spent copies -/

/-- The wrapper of the key pair. -/
abbrev IsOwnWrapper (privateKey : RSAPrivateKey) (wrapper : KeyWrapper) : Prop :=
  wrapper = privateKey.keyWrapper

/-- The container with this record in its portable section. -/
def copyWith (prepared : PreparedFile) (salt : Bytes) (stored : ProtectedMetadata) :
    SecureContainer :=
  SecureStorageService.containerOf prepared (some ⟨salt, stored⟩)

/-- A one-time file whose container has these contents, with a portable section. -/
structure OneTimeContainer (crypto : Cryptography) (privateKey : RSAPrivateKey)
    (file : EncryptedFile crypto) (prepared : PreparedFile) (salt : Bytes)
    (portableRecord : ProtectedMetadata) (contents : Bytes) : Prop where
  container : file.container = prepared.fileContainer
  describes : file.Describes prepared.metadata
  oneTime : prepared.metadata.usagePolicy.oneTimeAccess = true
  opens : ∃ identity, (SecureAccessService.effectiveWrapper crypto privateKey.keyWrapper
    prepared.metadata.deviceBinding identity).unwrap prepared.metadata.wrappedKey = .ok file.fek
  recorded : file.Records prepared.protectedMetadata prepared.metadata
  embedded : file.Records portableRecord prepared.metadata
  reads : SecureContainer.deserialize crypto contents =
    .ok (copyWith prepared salt portableRecord)

/-- The local record and all copies are as they were written. -/
structure LiveCopies (prepared : PreparedFile) (contents : Bytes) (state : CopiedFile) :
    Prop where
  table : state.table.load prepared.metadata.fileId = some prepared.protectedMetadata
  copies : ∀ path ∈ state.copies, ∀ held, state.disk path = some held → held = contents

/-- The local record is spent, and so is the portable section of every copy that is not as it
was written. -/
structure SpentCopies (privateKey : RSAPrivateKey) {crypto : Cryptography}
    (file : EncryptedFile crypto) (prepared : PreparedFile) (salt : Bytes) (contents : Bytes)
    (state : CopiedFile) : Prop where
  table : ∃ stored, state.table.load prepared.metadata.fileId = some stored ∧
    file.SpentRecord (IsOwnWrapper privateKey) stored
  copies : ∀ path ∈ state.copies, ∀ held, state.disk path = some held →
    held = contents ∨ ∃ stored, file.SpentRecord (IsOwnWrapper privateKey) stored ∧
      SecureContainer.deserialize crypto held = .ok (copyWith prepared salt stored)

section Steps

variable {crypto : Cryptography} {privateKey : RSAPrivateKey} {file : EncryptedFile crypto}
  {prepared : PreparedFile} {salt contents : Bytes} {portableRecord : ProtectedMetadata}
  {state : CopiedFile} {click : ViewClick} {path : DevicePath} {service : SecureAccessService}
  {request : AccessRequest}

theorem ownWrapper_genuine (oaep : privateKey.OaepLaws) :
    GenuineWrappers (IsOwnWrapper privateKey) := by
  rintro _ _ rfl rfl entropy keyMaterial wrapped unwrapped wrote read
  exact Except.ok.inj (read.symm.trans (oaep.undoesWrap _ _ _ wrote))

theorem WrapsFileKeys.effective (wraps : WrapsFileKeys privateKey) (total : crypto.EncryptsAll)
    (binding : DeviceBinding) (identity : PresentedIdentity) (entropy : WrapEntropy)
    {fek : Bytes} (size : fek.length = AesCipher.aesKeySizeBytes) :
    ∃ wrapped, (SecureAccessService.effectiveWrapper crypto privateKey.keyWrapper binding
      identity).wrap entropy fek = .ok wrapped := by
  obtain ⟨inner, wrapped⟩ := wraps entropy fek size
  unfold SecureAccessService.effectiveWrapper
  split_ifs
  · obtain ⟨ciphertext, encrypted⟩ := AesCipher.encrypt_total total entropy.deviceNonce inner
      (length_deriveDeviceBindingKey crypto (deviceFingerprintMaterial identity.usbIdentifier
        identity.hardwareDescriptor))
    exact ⟨_, deviceBound_wrap_eq_ok.mpr ⟨inner, ciphertext, wrapped, encrypted, rfl⟩⟩
  · exact ⟨inner, wrapped⟩

/-- The record of a burn can be made. -/
theorem burnedRecord_total (wraps : WrapsFileKeys privateKey) (total : crypto.EncryptsAll)
    {metadata : FileMetadata} (oneTime : metadata.usagePolicy.oneTimeAccess = true)
    (identity : PresentedIdentity) (entropy : BurnEntropy) :
    ∃ stored, OneTimeAccessEnforcer.burnedRecord crypto metadata
      (SecureAccessService.effectiveWrapper crypto privateKey.keyWrapper metadata.deviceBinding
        identity) entropy = .ok stored := by
  obtain ⟨decoyWrapped, wrapped⟩ :=
    wraps.effective total metadata.deviceBinding identity entropy.wrap entropy.decoyFek.2
  have keySize : (generateProtectionKeys entropy.keys).encryptionKey.length =
      AesCipher.aesKeySizeBytes := entropy.keys.encryptionKey.2
  obtain ⟨stored, written⟩ := MetadataProtector.protect_total total keySize entropy.nonce
    (OneTimeAccessEnforcer.burned metadata decoyWrapped)
  exact ⟨stored, OneTimeAccessEnforcer.burnedRecord_eq_ok.mpr
    ⟨oneTime, decoyWrapped, wrapped, written⟩⟩

theorem OneTimeContainer.not_spent (laws : crypto.AesGcmLaws)
    (original : OneTimeContainer crypto privateKey file prepared salt portableRecord contents) :
    ¬ file.SpentRecord (IsOwnWrapper privateKey) prepared.protectedMetadata := by
  rintro ⟨metadata, records, closed⟩
  obtain ⟨keys, nonce, written⟩ := records.written
  have unprotected := MetadataProtector.unprotect_protect laws written
  obtain rfl := EncryptedFile.unprotect_records laws original.recorded unprotected
  obtain ⟨identity, unwrapped⟩ := original.opens
  exact closed _ rfl identity unwrapped

/-- A file that is left after a burn is the selected one with its new section, or as before. -/
theorem held_after_burn {disk : Disk} {random : BytesOf 16} {payload held : Bytes}
    {other : DevicePath} (containerPath : request.containerPath = some path) {draws : AccessDraws}
    (left : SecureAccessService.deleteContainer request draws
      ((disk.remove (temporaryPath path random)).write path payload) other = some held) :
    other = path ∧ held = payload ∨ disk other = some held := by
  have written : (disk.remove (temporaryPath path random)).write path payload other =
      some held := by
    unfold SecureAccessService.deleteContainer at left
    simp only [containerPath] at left
    split_ifs at left
    · exact left
    · by_cases same : other = path
      · rw [same, Disk.remove_self] at left
        cases left
      · rwa [Disk.remove_other same] at left
  by_cases same : other = path
  · rw [same, Disk.write_self] at written
    exact .inl ⟨same, (Option.some.inj written).symm⟩
  · rw [Disk.write_other same] at written
    by_cases temporary : other = temporaryPath path random
    · rw [temporary, Disk.remove_self] at written
      cases written
    · rw [Disk.remove_other temporary] at written
      exact .inr written

theorem other_after_burn {disk : Disk} {random : BytesOf 16} {payload : Bytes}
    {other : DevicePath} (containerPath : request.containerPath = some path)
    (different : other ≠ path) (notTemporary : other ≠ temporaryPath path random)
    (draws : AccessDraws) :
    SecureAccessService.deleteContainer request draws
      ((disk.remove (temporaryPath path random)).write path payload) other = disk other := by
  unfold SecureAccessService.deleteContainer
  simp only [containerPath]
  split_ifs
  · rw [Disk.write_other different, Disk.remove_other notTemporary]
  · rw [Disk.remove_other different, Disk.write_other different, Disk.remove_other notTemporary]

/-- A view that hands nothing over and leaves table and devices as they are. -/
structure Untouched (crypto : Cryptography) (state : CopiedFile) (click : ViewClick)
    (plaintext : Bytes) (table : MetadataRepository) : Prop where
  handed : (click.clicked crypto state.disk).handed plaintext = 0
  disk : (click.clicked crypto state.disk).disk = state.disk
  table : table = state.table

theorem untouched_of_refused {ended : ClickEnd} {table : MetadataRepository}
    (refused : prepareView crypto click.probes click.page click.display state.disk =
      .error ended)
    (found : click.page.metadataRepository = some state.table)
    (left : (click.clicked crypto state.disk).page.metadataRepository = some table)
    (plaintext : Bytes) : Untouched crypto state click plaintext table := by
  simp only [ViewClick.clicked, onViewClicked, refused] at left
  constructor
  · simp only [ViewClick.clicked, onViewClicked, refused, ViewClicked.handed]
  · simp only [ViewClick.clicked, onViewClicked, refused]
  · exact Option.some.inj (left.symm.trans found)

theorem Reaches.untouched {container : SecureContainer}
    (reaches : Reaches crypto privateKey state click container path service request)
    {table : MetadataRepository}
    (left : (click.clicked crypto state.disk).page.metadataRepository = some table)
    (idle : (SecureAccessService.attemptAccess crypto service state.disk request
      click.draws).Idle service state.disk) (plaintext : Bytes) :
    Untouched crypto state click plaintext table := by
  obtain ⟨handed, disk, after⟩ := reaches.clicked left plaintext
  rw [idle.repositories, reaches.repositories] at after
  exact ⟨handed.trans (by rw [idle.views]; rfl), disk.trans idle.disk,
    (Option.some.inj after).symm⟩

/-- A view of a copy reads the record in its portable section. -/
theorem OneTimeContainer.reaches
    (original : OneTimeContainer crypto privateKey file prepared salt portableRecord contents)
    {passphrase held : Bytes} {device : USBDevice} {stored : ProtectedMetadata}
    (ready : click.page.Ready privateKey passphrase device path)
    (found : click.page.metadataRepository = some state.table)
    (recorded : (state.table.load prepared.metadata.fileId).isSome = true)
    (present : state.disk path = some held)
    (reads : SecureContainer.deserialize crypto held = .ok (copyWith prepared salt stored)) :
    ∃ service request, request.encryptedFileBytes = file.bytes ∧
      Reaches crypto privateKey state click (copyWith prepared salt stored) path service
        request := by
  have serialized : (copyWith prepared salt stored).fileContainer.serialize = .ok file.bytes := by
    show prepared.fileContainer.serialize = _
    rw [← original.container]
    exact file.serialized
  obtain ⟨service, request, reaches⟩ := ready.reaches found
    (SecureStorageWriter.readContainer_eq_ok.mpr ⟨held, present, reads⟩) nofun recorded serialized
  exact ⟨service, request, Except.ok.inj (reaches.serialized.symm.trans serialized), reaches⟩

theorem Reaches.stored_of_grant {stored : ProtectedMetadata}
    (reaches : Reaches crypto privateKey state click (copyWith prepared salt stored) path service
      request) (sameId : stored.fileId = prepared.metadata.fileId) :
    (Repository.portable ⟨copyWith prepared salt stored, path⟩).load request.fileId =
      some stored := by
  rw [reaches.fileId, Repository.load]
  exact PortableMetadataRepository.load_eq_some.mpr ⟨sameId, ⟨salt, stored⟩, rfl, rfl⟩

/-- After the burn, a view shows nothing: its copy is spent, or the page does not hear it. -/
theorem spent_view (laws : crypto.AesGcmLaws)
    (original : OneTimeContainer crypto privateKey file prepared salt portableRecord contents)
    (spent : SpentCopies privateKey file prepared salt contents state)
    (single : click.Single crypto privateKey prepared file.fek (some contents) state)
    {passphrase : Bytes} {device : USBDevice} (listed : path ∈ state.copies)
    (ready : click.page.Ready privateKey passphrase device path)
    (found : click.page.metadataRepository = some state.table) {table : MetadataRepository}
    (left : (click.clicked crypto state.disk).page.metadataRepository = some table) :
    Untouched crypto state click file.plaintext table := by
  cases present : state.disk path with
  | none =>
      obtain ⟨ended, refused⟩ := ready.view_of_missing present
      exact untouched_of_refused refused found left _
  | some held =>
      obtain ⟨localRecord, loaded, localSpent⟩ := spent.table
      have recorded : (state.table.load prepared.metadata.fileId).isSome = true := by
        rw [loaded]
        rfl
      have changed : state.table.load prepared.metadata.fileId ≠
          some prepared.protectedMetadata := by
        intro unchanged
        rw [Option.some.inj (loaded.symm.trans unchanged)] at localSpent
        exact original.not_spent laws localSpent
      rcases spent.copies path listed held present with rfl | ⟨stored, storedSpent, reads⟩
      · obtain ⟨service, request, -, reaches⟩ :=
          original.reaches ready found recorded present original.reads
        rcases SecureAccessService.attemptAccess_cases crypto service state.disk request
          click.draws with ⟨metadata, opened, grant, -⟩ | idle
        · have heard : click.Heard prepared.metadata.fileId := by
            have notThrottled := grant.notThrottled
            rwa [reaches.throttle, reaches.fileId] at notThrottled
          exact absurd present (single.fresh changed heard path ready.selectedContainer)
        · exact reaches.untouched left idle _
      · obtain ⟨service, request, presented, reaches⟩ :=
          original.reaches ready found recorded present reads
        rcases SecureAccessService.attemptAccess_cases crypto service state.disk request
          click.draws with ⟨metadata, opened, grant, -⟩ | idle
        · have ⟨_, records, _⟩ := storedSpent
          obtain ⟨keys, nonce, written⟩ := records.written
          have sameId : stored.fileId = prepared.metadata.fileId := by
            rw [(MetadataProtector.protect_eq_ok.mp written).2.1, records.describes.fileId,
              original.describes.fileId]
          exact absurd grant (storedSpent.not_opened laws reaches.primary
            (reaches.stored_of_grant sameId) reaches.keyWrapper presented)
        · exact reaches.untouched left idle _

/-- A granted view of a copy that is as it was written hands the plaintext over and puts one
spent record into the local table and into the portable section of the copy. -/
theorem Reaches.burns (laws : crypto.AesGcmLaws) (total : crypto.EncryptsAll)
    (oaep : privateKey.OaepLaws) (wraps : WrapsFileKeys privateKey)
    (original : OneTimeContainer crypto privateKey file prepared salt portableRecord contents)
    (reaches : Reaches crypto privateKey state click (copyWith prepared salt portableRecord) path
      service request) (selected : click.page.selectedContainer = some path)
    (present : state.disk path = some contents)
    (grant : SecureAccessService.Grant crypto service request click.draws prepared.metadata
      file.plaintext) (burns : click.Burns crypto privateKey prepared file.fek state.disk)
    {table : MetadataRepository}
    (left : (click.clicked crypto state.disk).page.metadataRepository = some table) :
    ∃ stored payload, stored.fileId = file.fileId ∧
      file.SpentRecord (IsOwnWrapper privateKey) stored ∧
      (copyWith prepared salt stored).serialize crypto = .ok payload ∧
      table = state.table.upsert stored ∧
      (click.clicked crypto state.disk).disk = SecureAccessService.deleteContainer request
        click.draws ((state.disk.remove (temporaryPath path
          (click.draws.burn.temporary 0))).write path payload) ∧
      (click.clicked crypto state.disk).handed file.plaintext = 1 := by
  have returned : Returns (request.onGranted file.plaintext prepared.metadata) := by
    rw [reaches.onGranted]
    exact burns.shown file.plaintext
  obtain ⟨stored, made⟩ := burnedRecord_total wraps total original.oneTime
    (presentedIdentity crypto click.probes click.page) click.draws.burn
  obtain ⟨envelope, payload, existing, serialized⟩ := burns.fits path _ stored selected
    (SecureStorageWriter.readContainer_eq_ok.mpr ⟨contents, present, original.reads⟩) made
  obtain rfl := Option.some.inj existing
  obtain ⟨storedId, spent⟩ := OneTimeAccessEnforcer.spent_of_burnedRecord laws
    (ownWrapper_genuine oaep) original.describes rfl made burns.decoy
  obtain ⟨repositoriesEq, -, diskEq⟩ := SecureAccessService.attemptAccess_burns state.disk grant
    returned original.oneTime
  rw [reaches.repositories, reaches.keyWrapper, reaches.identity,
    OneTimeAccessEnforcer.burn_mirrored made existing serialized burns.spared]
    at repositoriesEq diskEq
  rw [if_pos ⟨_, rfl⟩] at diskEq
  obtain ⟨-, diskAfter, after⟩ := reaches.clicked left file.plaintext
  rw [repositoriesEq] at after
  exact ⟨stored, payload, storedId, spent, serialized, (Option.some.inj after).symm,
    diskAfter.trans diskEq, reaches.handed_of_grant grant⟩

/-- Before the burn, a view shows nothing or hands the plaintext over once and burns the file. -/
theorem live_view (laws : crypto.AesGcmLaws) (total : crypto.EncryptsAll)
    (oaep : privateKey.OaepLaws) (wraps : WrapsFileKeys privateKey)
    (original : OneTimeContainer crypto privateKey file prepared salt portableRecord contents)
    (live : LiveCopies prepared contents state)
    (single : click.Single crypto privateKey prepared file.fek (some contents) state)
    {passphrase : Bytes} {device : USBDevice} (listed : path ∈ state.copies)
    (ready : click.page.Ready privateKey passphrase device path)
    (found : click.page.metadataRepository = some state.table) {table : MetadataRepository}
    (left : (click.clicked crypto state.disk).page.metadataRepository = some table) :
    Untouched crypto state click file.plaintext table ∨
      (click.clicked crypto state.disk).handed file.plaintext = 1 ∧
        SpentCopies privateKey file prepared salt contents
          ⟨table, (click.clicked crypto state.disk).disk, state.copies⟩ := by
  cases present : state.disk path with
  | none =>
      obtain ⟨ended, refused⟩ := ready.view_of_missing present
      exact .inl (untouched_of_refused refused found left _)
  | some held =>
      obtain rfl := live.copies path listed held present
      have recorded : (state.table.load prepared.metadata.fileId).isSome = true := by
        rw [live.table]
        rfl
      obtain ⟨service, request, presented, reaches⟩ :=
        original.reaches ready found recorded present original.reads
      rcases SecureAccessService.attemptAccess_cases crypto service state.disk request
        click.draws with ⟨metadata, opened, grant, -⟩ | idle
      · right
        have ⟨keys, nonce, written⟩ := original.embedded.written
        have loaded := reaches.stored_of_grant
          (MetadataProtector.protect_eq_ok.mp written).2.1
        obtain ⟨repository, stored, primary, read, unprotected⟩ := grant.recorded
        obtain rfl := Option.some.inj (reaches.primary.symm.trans primary)
        obtain rfl := Option.some.inj (loaded.symm.trans read)
        obtain rfl := EncryptedFile.unprotect_records laws original.embedded unprotected
        obtain ⟨-, rfl⟩ := EncryptedFile.opens_of_grant laws presented grant
        have heard : click.Heard prepared.metadata.fileId := by
          have notThrottled := grant.notThrottled
          rwa [reaches.throttle, reaches.fileId] at notThrottled
        obtain ⟨burned, payload, burnedId, spent, serialized, rfl, disk, handed⟩ :=
          reaches.burns laws total oaep wraps original ready.selectedContainer present grant
            (single.burns live.table heard) left
        refine ⟨handed, ⟨burned, ?_, spent⟩, ?_⟩
        · rw [original.describes.fileId, ← burnedId]
          exact MetadataRepository.load_upsert ..
        · intro other otherListed otherHeld remains
          rw [disk] at remains
          rcases held_after_burn reaches.containerPath remains with ⟨-, rfl⟩ | kept
          · exact .inr ⟨burned, spent, deserialize_withRecord original.reads serialized⟩
          · exact .inl (live.copies other otherListed otherHeld kept)
      · exact .inl (reaches.untouched left idle _)

theorem copied_held {target other : DevicePath} {held otherHeld : Bytes}
    (remains : state.disk.write target held other = some otherHeld)
    (listed : other ∈ target :: state.copies) :
    otherHeld = held ∨ other ∈ state.copies ∧ state.disk other = some otherHeld := by
  by_cases same : other = target
  · rw [same, Disk.write_self] at remains
    exact .inl (Option.some.inj remains).symm
  · rw [Disk.write_other same] at remains
    exact .inr ⟨(List.mem_cons.mp listed).resolve_left same, remains⟩

/-- Copies and views as a system with one shot. -/
theorem copies_oneShot (laws : crypto.AesGcmLaws) (total : crypto.EncryptsAll)
    (oaep : privateKey.OaepLaws) (wraps : WrapsFileKeys privateKey)
    (original : OneTimeContainer crypto privateKey file prepared salt portableRecord contents) :
    OneShot (SingleStep crypto privateKey prepared file.fek (some contents))
      (CopyEvent.handed file.plaintext) (LiveCopies prepared contents)
      (SpentCopies privateKey file prepared salt contents) where
  fresh_step := by
    rintro state _ _ live ⟨step, single⟩
    cases step with
    | @copied source held target listed present =>
        refine .inl ⟨rfl, live.table, ?_⟩
        intro other otherListed otherHeld remains
        rcases copied_held remains otherListed with rfl | ⟨before, kept⟩
        · exact live.copies source listed _ present
        · exact live.copies other before otherHeld kept
    | viewed listed ready found left =>
        rcases live_view laws total oaep wraps original live single listed ready found left with
          untouched | ⟨handed, spent⟩
        · refine .inl ⟨untouched.handed, ?_, ?_⟩
          · rw [untouched.table]
            exact live.table
          · rw [untouched.disk]
            exact live.copies
        · exact .inr ⟨handed, spent⟩
  spent_step := by
    rintro state _ _ spent ⟨step, single⟩
    cases step with
    | @copied source held target listed present =>
        refine ⟨rfl, spent.table, ?_⟩
        intro other otherListed otherHeld remains
        rcases copied_held remains otherListed with rfl | ⟨before, kept⟩
        · exact spent.copies source listed _ present
        · exact spent.copies other before otherHeld kept
    | viewed listed ready found left =>
        have untouched := spent_view laws original spent single listed ready found left
        refine ⟨untouched.handed, ?_, ?_⟩
        · rw [untouched.table]
          exact spent.table
        · rw [untouched.disk]
          exact spent.copies

end Steps

/-! ## Runs on a written file -/

section Runs

variable {crypto : Cryptography} {privateKey : RSAPrivateKey} {encryption : EncryptionPage}
  {choice : WriteChoice} {writeDraws : WriteDraws} {writeProbes : HostProbes} {before : Disk}
  {written : SecureWriteResult} {table : MetadataRepository} {prepared : PreparedFile}
  {plaintext : Bytes}

/-- The installation after a write: its local table, the devices, and the one container. -/
def afterWrite (write : EncryptionPage.PageWrite) (table : MetadataRepository)
    (destination : DevicePath) : CopiedFile where
  table
  disk := write.disk
  copies := [destination]

/-- A one-time file with a local record and a portable section, as the write left it. -/
theorem writtenOneTime (laws : crypto.AesGcmLaws) (oaep : privateKey.OaepLaws)
    (wrote : (encryption.writeContainer crypto choice writeDraws writeProbes before).outcome =
      some (.ok written))
    (made : SecureStorageService.prepareFile crypto writeProbes
      (encryption.storeRequest crypto choice writeDraws) writeDraws.store = .ok prepared)
    (sessionKey : encryption.sessionKey writeDraws.generated = privateKey)
    (oneTime : choice.oneTimeAccess = true)
    (portable : EncryptionPage.promptPassphrase choice.passphrase ≠ none)
    (source : choice.source = .ok plaintext)
    (recorded : (encryption.writeContainer crypto choice writeDraws writeProbes
      before).page.metadataRepository = some table) :
    ∃ (file : EncryptedFile crypto) (portableRecord : ProtectedMetadata) (contents : Bytes),
      file.fek = writeDraws.store.encrypt.fek.1 ∧ file.plaintext = plaintext ∧
      (encryption.writeContainer crypto choice writeDraws writeProbes before).disk
        written.destination = some contents ∧
      OneTimeContainer crypto privateKey file prepared writeDraws.salt.1 portableRecord contents ∧
      table.load prepared.metadata.fileId = some prepared.protectedMetadata := by
  obtain ⟨returned, diskEq, repositoryEq⟩ := EncryptionPage.writeContainer_eq wrote
  obtain ⟨made', portableMetadata, opened, bytes, stored⟩ :=
    SecureStorageService.storeFile_returns returned
  obtain rfl : made' = prepared := Except.ok.inj
    ((SecureStorageService.prepareFile_eq_ok.mpr ⟨opened, bytes, stored.file⟩).symm.trans made)
  obtain rfl : opened = plaintext := Except.ok.inj (stored.file.source.symm.trans source)
  obtain ⟨given, prompted⟩ := Option.ne_none_iff_exists'.mp portable
  have sectionWritten := EncryptionPage.portable_of_write stored
  rw [prompted] at sectionWritten
  obtain ⟨portableRecord, rfl, protectedRecord⟩ := sectionWritten
  obtain ⟨contents, serialized, onDisk⟩ := stored.payload
  refine ⟨stored.file.file, portableRecord, contents, rfl, rfl, by rw [diskEq]; exact onDisk,
    ?_, ?_⟩
  · have sameWrapper : (encryption.storeRequest crypto choice writeDraws).keyWrapper =
        privateKey.keyWrapper := by
      rw [← sessionKey]
      rfl
    constructor
    case container => rfl
    case describes => exact stored.file.describes
    case oneTime =>
      rw [stored.file.metadata]
      exact oneTime
    case opens =>
      refine ⟨SecureStorageService.enrolledIdentity writeProbes choice.device none, ?_⟩
      rw [← sameWrapper]
      have effective := stored.file.effectiveWrapper_eq none
      have unwrapped := SecureStorageService.storeWrapper_undoesWrap laws
        (sameWrapper ▸ oaep.undoesWrap) _ _ _ stored.file.wrapped
      exact (congrArg (·.unwrap made'.metadata.wrappedKey) effective).trans unwrapped
    case recorded => exact ⟨stored.file.describes, _, _, stored.file.written⟩
    case embedded => exact ⟨stored.file.describes, _, _, protectedRecord⟩
    case reads => exact stored.file.deserialize_containerOf serialized
  · rw [repositoryEq] at recorded
    cases first : encryption.metadataRepository with
    | none =>
        have kept := stored.saved
        rw [recorded, first] at kept
        cases (Prod.mk.inj kept).1
    | some first' =>
        obtain ⟨after, afterEq, loaded⟩ := stored.load first
        obtain rfl := Option.some.inj (afterEq.symm.trans recorded)
        exact loaded

/-- However its container is copied, the file is viewed at most once, as long as every view of
the live file is followed by its burn and no view after that selects a copy that is as it was
written. -/
theorem copies_viewed_once (laws : crypto.AesGcmLaws) (total : crypto.EncryptsAll)
    (oaep : privateKey.OaepLaws) (wraps : WrapsFileKeys privateKey)
    (wrote : (encryption.writeContainer crypto choice writeDraws writeProbes before).outcome =
      some (.ok written))
    (made : SecureStorageService.prepareFile crypto writeProbes
      (encryption.storeRequest crypto choice writeDraws) writeDraws.store = .ok prepared)
    (sessionKey : encryption.sessionKey writeDraws.generated = privateKey)
    (oneTime : choice.oneTimeAccess = true)
    (portable : EncryptionPage.promptPassphrase choice.passphrase ≠ none)
    (source : choice.source = .ok plaintext)
    (recorded : (encryption.writeContainer crypto choice writeDraws writeProbes
      before).page.metadataRepository = some table)
    {events : List CopyEvent} {finish : CopiedFile}
    (run : Run (SingleStep crypto privateKey prepared writeDraws.store.encrypt.fek.1
        ((encryption.writeContainer crypto choice writeDraws writeProbes before).disk
          written.destination))
      (afterWrite (encryption.writeContainer crypto choice writeDraws writeProbes before) table
        written.destination) events finish) :
    (events.map (CopyEvent.handed plaintext)).sum ≤ 1 := by
  obtain ⟨file, portableRecord, contents, fekEq, rfl, onDisk, original, loaded⟩ :=
    writtenOneTime laws oaep wrote made sessionKey oneTime portable source recorded
  rw [onDisk, ← fekEq] at run
  have live : LiveCopies prepared contents (afterWrite
      (encryption.writeContainer crypto choice writeDraws writeProbes before) table
      written.destination) := by
    refine ⟨loaded, ?_⟩
    intro path listed held present
    obtain rfl := List.mem_singleton.mp listed
    exact Option.some.inj (present.symm.trans onDisk)
  rcases (copies_oneShot laws total oaep wraps original).run run live with ⟨weight, -⟩ |
    ⟨weight, -⟩
  · omega
  · omega

/-- The page prefers the section of the selected container: a copy that is as it was written is
granted to the owner, whatever has become of the local record. -/
theorem pristine_copy_granted (laws : crypto.AesGcmLaws) (oaep : privateKey.OaepLaws)
    (wrote : (encryption.writeContainer crypto choice writeDraws writeProbes before).outcome =
      some (.ok written))
    (made : SecureStorageService.prepareFile crypto writeProbes
      (encryption.storeRequest crypto choice writeDraws) writeDraws.store = .ok prepared)
    (sessionKey : encryption.sessionKey writeDraws.generated = privateKey)
    (source : choice.source = .ok plaintext) {passphrase : Bytes}
    (prompted : EncryptionPage.promptPassphrase choice.passphrase = some passphrase)
    (satisfied : choice.machineBinding = .specific →
      choice.targetMachineFingerprint = computeMachineFingerprint crypto writeProbes)
    {state : CopiedFile} {click : ViewClick} {path : DevicePath}
    (atHome : click.probes = writeProbes)
    (ready : click.page.Ready privateKey passphrase choice.device path)
    (pristine : state.disk path =
      (encryption.writeContainer crypto choice writeDraws writeProbes before).disk
        written.destination)
    (heard : click.Heard prepared.metadata.fileId) {container : SecureContainer}
    {service : SecureAccessService} {request : AccessRequest}
    (reaches : Reaches crypto privateKey state click container path service request) :
    SecureAccessService.Grant crypto service request click.draws prepared.metadata plaintext := by
  obtain ⟨returned, diskEq, -⟩ := EncryptionPage.writeContainer_eq wrote
  obtain ⟨made', portableMetadata, opened, bytes, stored⟩ :=
    SecureStorageService.storeFile_returns returned
  obtain rfl : made' = prepared := Except.ok.inj
    ((SecureStorageService.prepareFile_eq_ok.mpr ⟨opened, bytes, stored.file⟩).symm.trans made)
  obtain rfl : opened = plaintext := Except.ok.inj (stored.file.source.symm.trans source)
  have file := WrittenFile.of_stored stored (pristine.trans (congrFun diskEq _))
  obtain ⟨-, accepted, unwrapped⟩ := file.atHome laws oaep sessionKey ready satisfied
  obtain ⟨asked, given, started, -, -, -, granted⟩ := @WrittenFile.portable_grant crypto
    privateKey encryption choice writeDraws writeProbes click.probes click.page state.disk
    choice.device path passphrase made' portableMetadata opened bytes click.display click.draws
    laws oaep file sessionKey ready passphrase prompted
  obtain ⟨rfl, rfl⟩ := Prod.mk.inj (Except.ok.inj (started.symm.trans reaches.started))
  rw [← atHome] at accepted unwrapped
  exact granted rfl heard accepted unwrapped

end Runs

end DecryptionPage

/-! ## Two bytes that are copied -/

open DecryptionPage

/-- The two bytes, written to be viewed once, with a portable section. -/
abbrev copiedChoice : WriteChoice :=
  plainChoice false false true (some "passphrase-a")

abbrev copiedWrite : EncryptionPage.PageWrite :=
  plainPageWrite false false true (some "passphrase-a")

theorem copiedWrite_eq : copiedWrite = plainEncryptionPage.writeContainer storeCrypto copiedChoice
    (plainWriteDraws (padTo 16 [])) plainProbes (fun _ => none) :=
  rfl

/-- A view of one of the copies with the right key and passphrase, on the right device. -/
def copiedClick (table : MetadataRepository) (path : DevicePath) : ViewClick where
  probes := plainProbes
  page := { plainDecryptionPage copiedWrite "passphrase-a" plainDevice path with
    metadataRepository := some table }
  display := fun _ => .ok ()
  draws := plainDraws

theorem copiedClick_ready (table : MetadataRepository) (path : DevicePath) :
    (copiedClick table path).page.Ready transparentPrivateKey (encodeUtf8 "passphrase-a")
      plainDevice path :=
  (plainDecryptionPage_ready copiedWrite "passphrase-a" plainDevice path).withTable table

theorem copied_prompted : EncryptionPage.promptPassphrase copiedChoice.passphrase =
    some (encodeUtf8 "passphrase-a") := by
  show EncryptionPage.promptPassphrase (some "passphrase-a") = some (encodeUtf8 "passphrase-a")
  decide +kernel

theorem copiedWrite_returns : ∃ written table prepared bytes,
    copiedWrite.outcome = some (.ok written) ∧
      copiedWrite.page.metadataRepository = some table ∧
      SecureStorageService.Prepared storeCrypto plainProbes
        (plainPageRequest plainEncryptionPage false false true (some "passphrase-a")
          (padTo 16 []))
        (plainWriteDraws (padTo 16 [])).store prepared [104, 105] bytes := by
  obtain ⟨written, finds⟩ := plainPageWrite_found false false true (some "passphrase-a")
    "passphrase-a" plainDevice (plainPath (padTo 16 []))
  obtain ⟨_, saved, -, savedEq, -⟩ := finds.recorded
  obtain ⟨prepared, _, plaintext, bytes, source, -, found⟩ := finds.found
  obtain rfl : [104, 105] = plaintext := Except.ok.inj source
  exact ⟨written, saved, prepared, bytes, finds.wrote, savedEq, found.file⟩

section CopiedWrite

variable {prepared : PreparedFile} {bytes contents : Bytes} {table : MetadataRepository}
  {path : DevicePath} {disk : Disk}

/-- The record of its burn fits into the container. -/
theorem copiedWrite_fits
    (file : SecureStorageService.Prepared storeCrypto plainProbes
      (plainPageRequest plainEncryptionPage false false true (some "passphrase-a") (padTo 16 []))
      (plainWriteDraws (padTo 16 [])).store prepared [104, 105] bytes)
    {identity : PresentedIdentity} {entropy : BurnEntropy} {stored : ProtectedMetadata}
    (made : OneTimeAccessEnforcer.burnedRecord storeCrypto prepared.metadata
      (SecureAccessService.effectiveWrapper storeCrypto transparentPrivateKey.keyWrapper
        prepared.metadata.deviceBinding identity) entropy = .ok stored)
    (salt : Bytes) (shortSalt : salt.length ≤ 255) :
    ∃ payload, (copyWith prepared salt stored).serialize storeCrypto = .ok payload := by
  obtain ⟨-, decoyWrapped, wrapped, written⟩ :=
    OneTimeAccessEnforcer.burnedRecord_eq_ok.mp made
  have unbound : SecureAccessService.effectiveWrapper storeCrypto
      transparentPrivateKey.keyWrapper prepared.metadata.deviceBinding identity =
        transparentPrivateKey.keyWrapper := by
    rw [file.metadata]
    rfl
  rw [unbound] at wrapped
  have decoy : (padTo 4 entropy.wrap.paddingSeed).1 ++ entropy.decoyFek.1 = decoyWrapped :=
    Except.ok.inj wrapped
  have keyLength := Base64Text.length_b64encode_le decoyWrapped
  rw [← decoy, List.length_append, entropy.decoyFek.2, (padTo 4 entropy.wrap.paddingSeed).2,
    decoy, AesCipher.aesKeySizeBytes] at keyLength
  obtain ⟨bytesSmall, short⟩ := plainEncryptionPage_plain.prepared_small file
  have burnedSize := fieldSize_burned_le prepared.metadata decoyWrapped
  have version : prepared.metadata.metadataVersion = currentMetadataVersion := by
    rw [file.metadata]
  have shortId : (encodeUtf8 prepared.metadata.fileId).length ≤ 255 := by
    rw [file.metadata]
    exact length_encodeUtf8_uuidText _
  have small : stored.Small := small_of_protect written version (by omega)
  obtain ⟨payload, serialized, -⟩ := @SecureContainer.serialize_total storeCrypto
    (copyWith prepared salt stored) bytes shortId file.serialized bytesSmall
    (small_of_protect file.written version (short.trans (by decide))) (by
      rintro envelope ⟨⟩
      exact ⟨by rwa [OneTimeAccessEnforcer.fileId_burnedRecord made], shortSalt, small⟩)
  exact ⟨payload, serialized⟩

theorem copiedClick_burns
    (file : SecureStorageService.Prepared storeCrypto plainProbes
      (plainPageRequest plainEncryptionPage false false true (some "passphrase-a") (padTo 16 []))
      (plainWriteDraws (padTo 16 [])).store prepared [104, 105] bytes)
    {portableRecord : ProtectedMetadata} (present : disk path = some contents)
    (reads : SecureContainer.deserialize storeCrypto contents =
      .ok (copyWith prepared (plainWriteDraws (padTo 16 [])).salt.1 portableRecord)) :
    (copiedClick table path).Burns storeCrypto transparentPrivateKey prepared plainFek disk where
  shown := fun _ => ⟨(), rfl⟩
  decoy := plainDecoy_ne
  spared := fun _ => rfl
  fits := by
    intro selected container stored chosen read made
    obtain rfl : path = selected := Option.some.inj chosen
    rw [SecureStorageWriter.readContainer, present] at read
    obtain rfl := Except.ok.inj (reads.symm.trans read)
    obtain ⟨payload, serialized⟩ := copiedWrite_fits file made
      (plainWriteDraws (padTo 16 [])).salt.1 (by decide)
    exact ⟨_, payload, rfl, serialized⟩

end CopiedWrite

/-- What the write of the two bytes left. -/
structure CopiedOriginal (written : SecureWriteResult) (table : MetadataRepository)
    (prepared : PreparedFile) (file : EncryptedFile storeCrypto)
    (portableRecord : ProtectedMetadata) (contents : Bytes) : Prop where
  wrote : copiedWrite.outcome = some (.ok written)
  saved : copiedWrite.page.metadataRepository = some table
  prepares : ∃ bytes, SecureStorageService.Prepared storeCrypto plainProbes
    (plainPageRequest plainEncryptionPage false false true (some "passphrase-a") (padTo 16 []))
    (plainWriteDraws (padTo 16 [])).store prepared [104, 105] bytes
  fek : file.fek = plainFek
  plaintext : file.plaintext = [104, 105]
  onDisk : copiedWrite.disk written.destination = some contents
  original : OneTimeContainer storeCrypto transparentPrivateKey file prepared
    (plainWriteDraws (padTo 16 [])).salt.1 portableRecord contents
  loaded : table.load prepared.metadata.fileId = some prepared.protectedMetadata

theorem copiedWrite_original : ∃ written table prepared file portableRecord contents,
    CopiedOriginal written table prepared file portableRecord contents := by
  obtain ⟨written, table, prepared, bytes, wrote, saved, prepares⟩ := copiedWrite_returns
  have made := SecureStorageService.prepareFile_eq_ok.mpr ⟨_, bytes, prepares⟩
  obtain ⟨file, portableRecord, contents, fek, plaintext, onDisk, original, loaded⟩ :=
    @writtenOneTime storeCrypto transparentPrivateKey plainEncryptionPage copiedChoice
      (plainWriteDraws (padTo 16 [])) plainProbes (fun _ => none) written table prepared
      [104, 105] transparent_aesGcmLaws transparentPrivateKey_laws wrote made
      plainEncryptionPage_plain.sessionKey rfl (by rw [copied_prompted]; nofun) rfl saved
  rw [← copiedWrite_eq] at onDisk
  exact ⟨written, table, prepared, file, portableRecord, contents, wrote, saved,
    ⟨bytes, prepares⟩, fek, plaintext, onDisk, original, loaded⟩

namespace CopiedOriginal

variable {written : SecureWriteResult} {table : MetadataRepository} {prepared : PreparedFile}
  {file : EncryptedFile storeCrypto} {portableRecord : ProtectedMetadata} {contents : Bytes}
  {state : CopiedFile} {path : DevicePath}

/-- Whatever the local record says, a copy that is as it was written is granted. -/
theorem reaches_grant
    (left : CopiedOriginal written table prepared file portableRecord contents)
    (present : state.disk path = some contents)
    (recorded : (state.table.load prepared.metadata.fileId).isSome = true) :
    ∃ service request, Reaches storeCrypto transparentPrivateKey state
        (copiedClick state.table path)
        (copyWith prepared (plainWriteDraws (padTo 16 [])).salt.1 portableRecord) path service
        request ∧
      SecureAccessService.Grant storeCrypto service request plainDraws prepared.metadata
        [104, 105] := by
  obtain ⟨bytes, prepares⟩ := left.prepares
  have made := SecureStorageService.prepareFile_eq_ok.mpr ⟨_, bytes, prepares⟩
  have granted := @pristine_copy_granted storeCrypto transparentPrivateKey plainEncryptionPage
    copiedChoice (plainWriteDraws (padTo 16 [])) plainProbes (fun _ => none) written prepared
      [104, 105] transparent_aesGcmLaws transparentPrivateKey_laws left.wrote made
      plainEncryptionPage_plain.sessionKey rfl (encodeUtf8 "passphrase-a") copied_prompted nofun
  rw [← copiedWrite_eq] at granted
  have ready := copiedClick_ready state.table path
  obtain ⟨service, request, -, reaches⟩ :=
    left.original.reaches ready rfl recorded present left.original.reads
  exact ⟨service, request, reaches,
    granted rfl ready (present.trans left.onDisk.symm) rfl reaches⟩

/-- A view of a copy that is as it was written hands the two bytes over, leaves another record
in the local table, and leaves the copies in other directories alone. -/
theorem view (left : CopiedOriginal written table prepared file portableRecord contents)
    (present : state.disk path = some contents)
    (recorded : (state.table.load prepared.metadata.fileId).isSome = true) :
    ∃ next, ((copiedClick state.table path).clicked storeCrypto
        state.disk).page.metadataRepository = some next ∧
      (next.load prepared.metadata.fileId).isSome = true ∧
      ((copiedClick state.table path).clicked storeCrypto state.disk).handed [104, 105] = 1 ∧
      ∀ other, other.directory ≠ path.directory →
        ((copiedClick state.table path).clicked storeCrypto state.disk).disk other =
          state.disk other := by
  obtain ⟨service, request, reaches, grant⟩ := left.reaches_grant present recorded
  obtain ⟨next, tableLeft⟩ :=
    @table_left (copiedClick state.table path) storeCrypto state.disk state.table rfl
  obtain ⟨bytes, prepares⟩ := left.prepares
  have burns := @copiedClick_burns prepared bytes contents state.table path state.disk prepares
    portableRecord present left.original.reads
  rw [← left.fek] at burns
  rw [← left.plaintext] at grant ⊢
  obtain ⟨burned, payload, burnedId, -, -, rfl, diskEq, handed⟩ := reaches.burns
    transparent_aesGcmLaws transparent_encryptsAll transparentPrivateKey_laws
    transparentPrivateKey_wraps left.original rfl present grant burns tableLeft
  refine ⟨_, tableLeft, ?_, handed, ?_⟩
  · rw [left.original.describes.fileId, ← burnedId, MetadataRepository.load_upsert]
    rfl
  · intro other apart
    rw [diskEq]
    apply other_after_burn reaches.containerPath
    · rintro rfl
      exact apart rfl
    · rintro rfl
      exact apart rfl

end CopiedOriginal

/-- Where the container is copied to. -/
def copyPath (original : DevicePath) : DevicePath :=
  { original with directory := original.directory ++ "/backup" }

theorem copyPath_apart (original : DevicePath) :
    (copyPath original).directory ≠ original.directory := by
  intro equal
  have lengths := congrArg String.length equal
  have backup : ("/backup" : String).length = 7 := rfl
  simp only [copyPath, String.length_append, backup] at lengths
  omega

/-- The state after the container was copied. -/
def afterCopy (write : EncryptionPage.PageWrite) (table : MetadataRepository)
    (destination : DevicePath) (contents : Bytes) : CopiedFile where
  table
  disk := write.disk.write (copyPath destination) contents
  copies := [copyPath destination, destination]

theorem copyStep_copied {crypto : Cryptography} {privateKey : RSAPrivateKey}
    {write : EncryptionPage.PageWrite} {destination : DevicePath} {contents : Bytes}
    (onDisk : write.disk destination = some contents) (table : MetadataRepository) :
    CopyStep crypto privateKey (afterWrite write table destination)
      (.copied destination (copyPath destination))
      (afterCopy write table destination contents) :=
  .copied (copyPath destination) (List.mem_singleton.mpr rfl) onDisk

theorem copyStep_viewed {state : CopiedFile} {path : DevicePath} (listed : path ∈ state.copies)
    {next : MetadataRepository} (left : ((copiedClick state.table path).clicked storeCrypto
      state.disk).page.metadataRepository = some next) :
    CopyStep storeCrypto transparentPrivateKey state
      (.viewed (copiedClick state.table path)
        ((copiedClick state.table path).clicked storeCrypto state.disk))
      ⟨next, ((copiedClick state.table path).clicked storeCrypto state.disk).disk,
        state.copies⟩ :=
  .viewed listed (copiedClick_ready state.table path) rfl left

/-- A copy is made, the container is viewed and burned, and the copy is viewed after it. -/
theorem copy_viewed_after_burn : ∃ written table contents next last,
    let destination := written.destination
    let copied := afterCopy copiedWrite table destination contents
    let first := copiedClick table destination
    let second := copiedClick next (copyPath destination)
    let burned := (first.clicked storeCrypto copied.disk).disk
    let events := [.copied destination (copyPath destination),
      .viewed first (first.clicked storeCrypto copied.disk),
      .viewed second (second.clicked storeCrypto burned)]
    copiedWrite.outcome = some (.ok written) ∧
      copiedWrite.page.metadataRepository = some table ∧
      Run (CopyStep storeCrypto transparentPrivateKey)
        (afterWrite copiedWrite table destination) events last ∧
      (events.map (CopyEvent.handed [104, 105])).sum = 2 := by
  obtain ⟨written, table, prepared, file, portableRecord, contents, left⟩ := copiedWrite_original
  have apart := copyPath_apart written.destination
  have present : (afterCopy copiedWrite table written.destination contents).disk
      written.destination = some contents :=
    (Disk.write_other fun same => apart (congrArg DevicePath.directory same).symm).trans
      left.onDisk
  have recorded : (table.load prepared.metadata.fileId).isSome = true := by
    rw [left.loaded]
    rfl
  obtain ⟨next, firstLeft, recordedNext, handed, others⟩ := left.view present recorded
  have copyPresent : ((copiedClick table written.destination).clicked storeCrypto
      (afterCopy copiedWrite table written.destination contents).disk).disk
        (copyPath written.destination) = some contents :=
    (others _ apart).trans (Disk.write_self ..)
  obtain ⟨last, secondLeft, -, handedAgain, -⟩ := @CopiedOriginal.view _ _ _ _ _ _
    ⟨next, _, [copyPath written.destination, written.destination]⟩ _ left copyPresent recordedNext
  have copy := @copyStep_copied storeCrypto transparentPrivateKey _ _ _ left.onDisk table
  have firstView := copyStep_viewed (List.mem_cons_of_mem _ (List.mem_singleton.mpr rfl)) firstLeft
  have secondView := copyStep_viewed List.mem_cons_self secondLeft
  refine ⟨written, table, contents, next, _, left.wrote, left.saved,
    ((Run.single copy).tail firstView).tail secondView, ?_⟩
  simp only [List.map_cons, List.map_nil, List.sum_cons, List.sum_nil, CopyEvent.handed]
  exact congrArg₂ (fun first second => 0 + (first + (second + 0))) handed handedAgain

/-- A view of the copy keeps to the conditions, and hands the two bytes over once. -/
theorem copies_viewed_once_plain : ∃ written table contents,
    let destination := written.destination
    let copied := afterCopy copiedWrite table destination contents
    let click := copiedClick table (copyPath destination)
    copiedWrite.outcome = some (.ok written) ∧
      (click.clicked storeCrypto copied.disk).handed [104, 105] = 1 ∧
      ([.copied destination (copyPath destination),
        .viewed click (click.clicked storeCrypto copied.disk)].map
          (CopyEvent.handed [104, 105])).sum ≤ 1 := by
  obtain ⟨written, table, prepared, file, portableRecord, contents, left⟩ := copiedWrite_original
  obtain ⟨bytes, prepares⟩ := left.prepares
  have made := SecureStorageService.prepareFile_eq_ok.mpr ⟨_, bytes, prepares⟩
  have present : (afterCopy copiedWrite table written.destination contents).disk
      (copyPath written.destination) = some contents := Disk.write_self ..
  have recorded : (table.load prepared.metadata.fileId).isSome = true := by
    rw [left.loaded]
    rfl
  obtain ⟨next, tableLeft, -, handed, -⟩ := left.view present recorded
  have single : (copiedClick table (copyPath written.destination)).Single storeCrypto
      transparentPrivateKey prepared plainFek (copiedWrite.disk written.destination)
      (afterCopy copiedWrite table written.destination contents) :=
    ⟨fun _ _ => copiedClick_burns prepares present left.original.reads,
      fun changed => absurd left.loaded changed⟩
  have copy := @copyStep_copied storeCrypto transparentPrivateKey _ _ _ left.onDisk table
  have view := copyStep_viewed List.mem_cons_self tableLeft
  have run : Run (SingleStep storeCrypto transparentPrivateKey prepared plainFek
      (copiedWrite.disk written.destination)) (afterWrite copiedWrite table written.destination)
      _ _ := (Run.single ⟨copy, trivial⟩).tail ⟨view, single⟩
  have once := @copies_viewed_once storeCrypto transparentPrivateKey plainEncryptionPage
    copiedChoice (plainWriteDraws (padTo 16 [])) plainProbes (fun _ => none) written table
      prepared [104, 105] transparent_aesGcmLaws transparent_encryptsAll
      transparentPrivateKey_laws transparentPrivateKey_wraps left.wrote made
      plainEncryptionPage_plain.sessionKey rfl (by rw [copied_prompted]; nofun) rfl left.saved
  rw [← copiedWrite_eq] at once
  exact ⟨written, table, contents, left.wrote, handed, once run⟩

end CryptoUsb
