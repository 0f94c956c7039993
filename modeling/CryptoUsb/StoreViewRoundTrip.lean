import CryptoUsb.SecureStorage

/-!
# From a store to a view

Which layer wraps the key is chosen from two flags when a file is stored, and
derived from the recorded binding when it is viewed.  In every binding mode the
owner of a stored file views its plaintext, through the local record and through
the portable one, as long as the wrapped key and the name of its algorithm are
not empty.
-/

namespace CryptoUsb

open ByteString

/-- The owner of a stored file attempts to view it on the enrolled device and the
bound machine, before it expires. -/
structure OwnerAttempt (crypto : Cryptography) (probes : HostProbes) (request : StoreRequest)
    (fileId : String) (bytes : Bytes) (keys : MetadataProtectionKeys) (repository : Repository)
    (service : SecureAccessService) (access : AccessRequest) (draws : AccessDraws) : Prop where
  repository : service.repository = some repository
  fileId : access.fileId = fileId
  bytes : access.encryptedFileBytes = bytes
  keyWrapper : access.keyWrapper = request.keyWrapper
  keys : access.protectionKeys = keys
  notForced : access.forceDeception = false
  notThrottled : service.throttle.isLocked draws.throttleClock access.fileId = false
  identity : ∃ machineFingerprint,
    access.identity = SecureStorageService.enrolledIdentity probes request.device
      machineFingerprint ∧
    ∀ fingerprint, SecureStorageService.recordedMachine crypto probes request.machineBinding
      request.targetMachineFingerprint = some fingerprint → machineFingerprint = some fingerprint
  notExpired : ∀ expiresAt, (request.expiryRules.getD {}).expiresAt = some expiresAt →
    expiresAt.lessThan draws.validationClock.1 = some false

/-- An attempt hands over this plaintext once, and is granted when the view returns
and the file is reusable or its burn returns. -/
structure ViewsPlaintext (crypto : Cryptography) (service : SecureAccessService) (disk : Disk)
    (access : AccessRequest) (draws : AccessDraws) (metadata : FileMetadata)
    (plaintext : Bytes) : Prop where
  views : (SecureAccessService.attemptAccess crypto service disk access draws).views =
    [⟨plaintext, metadata, access.onGranted plaintext metadata⟩]
  granted : Returns (access.onGranted plaintext metadata) →
    metadata.usagePolicy.oneTimeAccess = false ∨
      Returns (OneTimeAccessEnforcer.burn crypto disk service.repositories metadata
        (SecureAccessService.effectiveWrapper crypto access.keyWrapper metadata.deviceBinding
          access.identity) draws.burn draws.saveFaults).outcome →
    ∃ outcome, (SecureAccessService.attemptAccess crypto service disk access draws).outcome =
      .ok outcome ∧ outcome.granted = true

theorem ViewsPlaintext.of_grant {crypto : Cryptography} {service : SecureAccessService}
    {access : AccessRequest} {draws : AccessDraws} {metadata : FileMetadata} {plaintext : Bytes}
    (disk : Disk)
    (grant : SecureAccessService.Grant crypto service access draws metadata plaintext) :
    ViewsPlaintext crypto service disk access draws metadata plaintext := by
  have attempted := @SecureAccessService.attemptAccess_of_grant _ _ disk _ _ _ _ grant
  constructor
  · rw [attempted, SecureAccessService.viewed_views]
  · intro returned burned
    rw [attempted]
    exact SecureAccessService.viewed_granted returned burned

namespace SecureStorageService

/-- The wrapper leaves something in the record: not its algorithm's name nor what it
wraps is empty, unless the device layer is put around it. -/
structure LeavesTraces (request : StoreRequest) : Prop where
  algorithm : ¬ (request.bindDevice = true ∧ request.machineBinding = .none) →
    request.keyWrapper.algorithm ≠ ""
  wrapped : ¬ (request.bindDevice = true ∧ request.machineBinding = .none) →
    ∀ entropy keyMaterial, request.keyWrapper.wrap entropy keyMaterial ≠ .ok []

variable {crypto : Cryptography} {probes : HostProbes} {request : StoreRequest}
  {draws : StoreDraws} {prepared : PreparedFile} {plaintext bytes : Bytes}

theorem recordedDevice_matches (probes : HostProbes) (device : USBDevice)
    (machineFingerprint presentedFingerprint : Option String) :
    DeviceBindingValidator.DeviceMatches (recordedDevice probes device machineFingerprint)
      (enrolledIdentity probes device presentedFingerprint) := by
  refine ⟨_, rfl, rfl, fun described => ?_⟩
  cases descriptor : computeHardwareDescriptor probes device with
  | none => simp [DeviceBindingValidator.hasDescriptor, recordedDevice, descriptor] at described
  | some recorded =>
      simp [DeviceBindingValidator.matchesHardware, recordedDevice, enrolledIdentity, descriptor]

namespace Prepared

variable (file : Prepared crypto probes request draws prepared plaintext bytes)

include file

theorem binding_accepted {machineFingerprint : Option String}
    (machine : ∀ fingerprint, recordedMachine crypto probes request.machineBinding
      request.targetMachineFingerprint = some fingerprint →
        machineFingerprint = some fingerprint) :
    (DeviceBindingValidator.validate prepared.metadata.deviceBinding
      (enrolledIdentity probes request.device machineFingerprint)).ok = true := by
  rw [file.metadata]
  refine (DeviceBindingValidator.validate_ok _ _).mpr ⟨?_, ?_⟩
  · intro bound
    unfold storeBinding at bound ⊢
    split_ifs at bound ⊢
    exact recordedDevice_matches ..
  · intro recorded
    have sameMachine : (storeBinding crypto probes request).machineFingerprint =
        recordedMachine crypto probes request.machineBinding
          request.targetMachineFingerprint := by
      unfold storeBinding
      split_ifs <;> rfl
    rw [sameMachine] at recorded ⊢
    obtain ⟨fingerprint, given⟩ := Option.ne_none_iff_exists'.mp recorded
    rw [given]
    exact (machine fingerprint given).symm

/-- A prepared record passes structural validation. -/
theorem valid (owner : request.ownerId ≠ "") (traces : LeavesTraces request) :
    MetadataController.validate prepared.metadata = .ok () := by
  obtain ⟨hashLength, hashHex⟩ := computeIntegrityHash_valid crypto bytes
  have wrapped := file.wrapped
  have wrappedNonempty : prepared.metadata.wrappedKey ≠ [] := by
    intro empty
    rw [empty] at wrapped
    unfold storeWrapper at wrapped
    split_ifs at wrapped with deviceOnly
    · obtain ⟨innerWrapped, ciphertext, -, -, appended⟩ := deviceBound_wrap_eq_ok.mp wrapped
      have lengths := congrArg List.length appended
      rw [List.length_append, draws.encrypt.wrap.deviceNonce.2] at lengths
      simp [AesCipher.nonceSizeBytes] at lengths
      omega
    · exact traces.wrapped deviceOnly _ _ wrapped
  have named : (storeWrapper crypto probes request).algorithm ≠ "" := by
    unfold storeWrapper
    split_ifs with deviceOnly
    · intro empty
      have characters := congrArg (fun name => name.toList.length) empty
      simp [deviceBoundKeyWrapper, String.toList_append] at characters
    · exact traces.algorithm deviceOnly
  rw [file.metadata] at wrappedNonempty ⊢
  simp [MetadataController.validate, uuidText_ne_empty, owner, wrappedNonempty, named, hashLength,
    hashHex]

theorem policyHolds {now : IsoDateTime.DateTime}
    (positive : ∀ limit, (request.expiryRules.getD {}).maxAccessCount = some limit → 0 < limit)
    (notExpired : ∀ expiresAt, (request.expiryRules.getD {}).expiresAt = some expiresAt →
      expiresAt.lessThan now = some false) :
    ValidationEngine.PolicyHolds now prepared.metadata := by
  rw [file.metadata]
  exact ⟨notExpired, positive, fun _ => Int.zero_lt_one⟩

/-- The attempt of the owner on a copy of the record is granted. -/
theorem grant (laws : crypto.AesGcmLaws) (undoes : request.keyWrapper.UndoesWrap)
    (owner : request.ownerId ≠ "") (traces : LeavesTraces request)
    (positive : ∀ limit, (request.expiryRules.getD {}).maxAccessCount = some limit → 0 < limit)
    {keys : MetadataProtectionKeys} {nonce : AesCipher.Nonce} {stored : ProtectedMetadata}
    {repository : Repository} (loaded : repository.load prepared.metadata.fileId = some stored)
    (written : MetadataProtector.protect crypto keys nonce prepared.metadata = .ok stored)
    {service : SecureAccessService} {access : AccessRequest} {accessDraws : AccessDraws}
    (attempt : OwnerAttempt crypto probes request prepared.metadata.fileId bytes keys repository
      service access accessDraws) :
    SecureAccessService.Grant crypto service access accessDraws prepared.metadata plaintext := by
  obtain ⟨machineFingerprint, identity, machine⟩ := attempt.identity
  have unwrapped : (storeWrapper crypto probes request).unwrap prepared.metadata.wrappedKey =
      .ok draws.encrypt.fek.1 := storeWrapper_undoesWrap laws undoes _ _ _ file.wrapped
  rw [← file.effectiveWrapper_eq machineFingerprint] at unwrapped
  refine file.file.grant_of_record laws attempt.notForced attempt.notThrottled attempt.repository
    (attempt.fileId ▸ loaded) (attempt.keys ▸ written) attempt.bytes
    ⟨file.valid owner traces, file.describes.hash, file.policyHolds positive attempt.notExpired,
      ?_⟩ ?_
  · rw [identity]
    exact file.binding_accepted machine
  · rw [identity, attempt.keyWrapper]
    exact unwrapped

end Prepared

theorem verifyWrapper_eq (crypto : Cryptography) (probes : HostProbes) (request : StoreRequest) :
    verifyWrapper crypto probes request.keyWrapper (some request.device) request.bindDevice
      request.machineBinding = .ok (storeWrapper crypto probes request) := by
  unfold verifyWrapper storeWrapper
  split_ifs with deviceOnly
  · simp [deviceBindingAndWrapper, deviceOnly]
  · rfl

/-- A stored file comes back: its bytes are read from the device, the owner's attempt
on either record hands over the plaintext, and the file verifies. -/
structure ComesBack (crypto : Cryptography) (probes : HostProbes) (request : StoreRequest)
    (result : StoreResult) (written : SecureWriteResult) (plaintext bytes : Bytes)
    (metadata : FileMetadata) (table : MetadataRepository) (container : SecureContainer) :
    Prop where
  source : request.source = .ok plaintext
  readsBytes : readEncryptedFileBytes crypto result.disk written.destination =
    .ok (written.fileId, bytes)
  recorded : result.repository = some table
  reads : SecureStorageWriter.readContainer crypto result.disk written.destination =
    .ok container
  viewedLocally : ∀ service disk access accessDraws,
    OwnerAttempt crypto probes request written.fileId bytes written.protectionKeys
        (.sqlite table) service access accessDraws →
      ViewsPlaintext crypto service disk access accessDraws metadata plaintext
  viewedPortably : ∀ keys salt, request.portableMetadataKeys = some keys →
    request.portableMetadataSalt = some salt → ∀ service disk access accessDraws,
      OwnerAttempt crypto probes request written.fileId bytes keys
          (.portable ⟨container, written.destination⟩) service access accessDraws →
        ViewsPlaintext crypto service disk access accessDraws metadata plaintext
  verified : verifyStoredFile crypto probes result.disk written.destination request.keyWrapper
    written.protectionKeys (some request.device) request.bindDevice request.machineBinding =
      .ok true

/-- Whatever is stored with a wrapper that leaves traces comes back, in every
binding mode. -/
theorem stored_comesBack (laws : crypto.AesGcmLaws) (undoes : request.keyWrapper.UndoesWrap)
    (owner : request.ownerId ≠ "") (traces : LeavesTraces request)
    (positive : ∀ limit, (request.expiryRules.getD {}).maxAccessCount = some limit → 0 < limit)
    {disk : Disk} {before : MetadataRepository} {written : SecureWriteResult}
    (returned : (storeFile crypto probes request draws disk (some before)).outcome =
      .ok written) :
    ∃ plaintext bytes metadata table container, ComesBack crypto probes request
      (storeFile crypto probes request draws disk (some before)) written plaintext bytes metadata
      table container := by
  obtain ⟨prepared, portableMetadata, plaintext, bytes, stored⟩ := storeFile_returns returned
  obtain ⟨table, tableEq, loaded⟩ := stored.load rfl
  have read := stored.readContainer
  refine ⟨plaintext, bytes, prepared.metadata, table, _, stored.file.source, ?_, tableEq, read,
    ?_, ?_, ?_⟩
  · rw [stored.fileId]
    exact bind_eq_ok.mpr ⟨_, read, bind_eq_ok.mpr ⟨bytes, stored.file.serialized, rfl⟩⟩
  · intro service disk access accessDraws attempt
    rw [stored.fileId, stored.keys] at attempt
    have localLoaded : (Repository.sqlite table).load prepared.metadata.fileId =
        some prepared.protectedMetadata := loaded
    exact .of_grant disk (stored.file.grant laws undoes owner traces positive localLoaded
      stored.file.written attempt)
  · intro keys salt keysGiven saltGiven service disk access accessDraws attempt
    obtain ⟨portableRecord, rfl, portableWritten⟩ := stored.portable_of_keys keysGiven saltGiven
    rw [stored.fileId] at attempt
    have portableLoaded : (Repository.portable ⟨containerOf prepared
        (some ⟨salt, portableRecord⟩), written.destination⟩).load prepared.metadata.fileId =
          some portableRecord := by
      rw [Repository.load]
      refine PortableMetadataRepository.load_eq_some.mpr ⟨?_, ⟨salt, portableRecord⟩, rfl, rfl⟩
      exact (MetadataProtector.protect_eq_ok.mp portableWritten).2.1
    exact .of_grant disk (stored.file.grant laws undoes owner traces positive portableLoaded
      portableWritten attempt)
  · rw [verifyStoredFile, verifyWrapper_eq]
    refine bind_eq_ok.mpr ⟨_, rfl, bind_eq_ok.mpr ⟨_, read, ?_⟩⟩
    refine verifyContainerDeep_eq_ok.mpr ⟨⟨plaintext, stored.file.decryptBytes laws undoes⟩,
      prepared.metadata, ?_⟩
    rw [stored.keys]
    exact MetadataProtector.unprotect_protect laws stored.file.written

/-- A record that fails structural validation is never viewed. -/
theorem Stored.not_viewed (laws : crypto.AesGcmLaws) {before : MetadataRepository}
    {result : StoreResult} {written : SecureWriteResult}
    {portableMetadata : Option PortableMetadataEnvelope}
    (stored : Stored crypto probes request draws (some before) result written prepared
      portableMetadata plaintext bytes)
    (invalid : MetadataController.validate prepared.metadata ≠ .ok ())
    {after : MetadataRepository} (saved : result.repository = some after)
    {service : SecureAccessService} (primary : service.repository = some (.sqlite after))
    (disk : Disk) {access : AccessRequest} (sameId : access.fileId = written.fileId)
    (accessDraws : AccessDraws) :
    (SecureAccessService.attemptAccess crypto service disk access accessDraws).views = [] := by
  rcases SecureAccessService.attemptAccess_cases crypto service disk access accessDraws with
    ⟨metadata, opened, grant, -⟩ | idle
  · exfalso
    obtain ⟨repository, record, primaryEq, loaded, unprotected⟩ := grant.recorded
    obtain rfl := Option.some.inj (primary.symm.trans primaryEq)
    obtain ⟨saved', savedEq, loadedEq⟩ := stored.load rfl
    obtain rfl := Option.some.inj (saved.symm.trans savedEq)
    rw [sameId, stored.fileId] at loaded
    obtain rfl := Option.some.inj (loadedEq.symm.trans loaded)
    obtain rfl :=
      MetadataProtector.eq_of_unprotect_protect laws stored.file.written unprotected
    exact invalid grant.accepted.structurallyValid
  · exact idle.views

end SecureStorageService

/-! ## Wrappers that leave no traces -/

/-- The owner's attempt on a plain file. -/
def plainOwnerAccess (keyWrapper : KeyWrapper) (written : SecureWriteResult) (bytes : Bytes) :
    AccessRequest where
  fileId := written.fileId
  encryptedFileBytes := bytes
  keyWrapper
  protectionKeys := written.protectionKeys
  onGranted := fun _ _ => .ok ()
  identity := SecureStorageService.enrolledIdentity plainProbes plainDevice none

def plainOwnerService (table : MetadataRepository) : SecureAccessService where
  repository := some (.sqlite table)
  mirrorRepositories := []
  throttle := {}
  tracksUsage := false

/-- A plain file is stored with this wrapper, whose unwrap undoes wrap, and the
attempt of its owner makes no view. -/
def OwnerDenied (keyWrapper : KeyWrapper) : Prop :=
  keyWrapper.UndoesWrap ∧ ∃ written table bytes,
    (plainStore keyWrapper false).outcome = .ok written ∧
    (plainStore keyWrapper false).repository = some table ∧
    SecureStorageService.readEncryptedFileBytes storeCrypto (plainStore keyWrapper false).disk
      written.destination = .ok (written.fileId, bytes) ∧
    OwnerAttempt storeCrypto plainProbes (plainStoreRequest keyWrapper false) written.fileId bytes
      written.protectionKeys (.sqlite table) (plainOwnerService table)
      (plainOwnerAccess keyWrapper written bytes) plainDraws ∧
    (SecureAccessService.attemptAccess storeCrypto (plainOwnerService table) (fun _ => none)
      (plainOwnerAccess keyWrapper written bytes) plainDraws).views = []

/-- A wrapper whose algorithm has no name. -/
def namelessWrapper : KeyWrapper :=
  { transparentWrapper 1 with algorithm := "" }

/-- A wrapper that knows one key, and wraps it to nothing. -/
def emptyingWrapper : KeyWrapper where
  algorithm := "RSA-OAEP"
  wrap _ keyMaterial :=
    if keyMaterial = plainFek then .ok [] else raise .keyWrappingError "unknown key"
  unwrap wrappedKey :=
    if wrappedKey = [] then .ok plainFek else raise .keyUnwrappingError "unknown key"

theorem plainOwnerAttempt (keyWrapper : KeyWrapper) (written : SecureWriteResult) (bytes : Bytes)
    (table : MetadataRepository) :
    OwnerAttempt storeCrypto plainProbes (plainStoreRequest keyWrapper false) written.fileId bytes
      written.protectionKeys (.sqlite table) (plainOwnerService table)
      (plainOwnerAccess keyWrapper written bytes) plainDraws where
  repository := rfl
  fileId := rfl
  bytes := rfl
  keyWrapper := rfl
  keys := rfl
  notForced := rfl
  notThrottled := rfl
  identity := ⟨none, rfl, by simp [plainStoreRequest, SecureStorageService.recordedMachine]⟩
  notExpired := by simp [plainStoreRequest]

/-- A wrapper whose records are not valid denies the owner the view. -/
theorem ownerDenied_of_invalid {keyWrapper : KeyWrapper} (undoes : keyWrapper.UndoesWrap)
    {algoBytes wrapped : Bytes} (ascii : encodeAsciiText keyWrapper.algorithm = .ok algoBytes)
    (shortName : algoBytes.length ≤ 255) (shortText : keyWrapper.algorithm.length ≤ 255)
    (wrote : keyWrapper.wrap plainStoreDraws.encrypt.wrap plainFek = .ok wrapped)
    (shortKey : wrapped.length ≤ 1000) (traceless : keyWrapper.algorithm = "" ∨ wrapped = []) :
    OwnerDenied keyWrapper := by
  obtain ⟨written, prepared, portableMetadata, bytes, returned, stored⟩ :=
    @plainStore_returns keyWrapper false algoBytes wrapped ascii shortName shortText wrote shortKey
  obtain ⟨table, tableEq, -⟩ := stored.load rfl
  refine ⟨undoes, written, table, bytes, returned, tableEq, ?_, plainOwnerAttempt .., ?_⟩
  · rw [stored.fileId]
    exact bind_eq_ok.mpr ⟨_, stored.readContainer,
      bind_eq_ok.mpr ⟨bytes, stored.file.serialized, rfl⟩⟩
  · refine stored.not_viewed transparent_aesGcmLaws ?_ tableEq rfl _ rfl _
    intro valid
    obtain ⟨named, nonempty⟩ := MetadataController.traces_of_validate valid
    obtain rfl := Except.ok.inj (wrote.symm.trans stored.file.wrapped)
    rw [stored.file.metadata] at named
    rcases traceless with unnamed | empty
    · exact named unnamed
    · exact nonempty empty

/-- A name or a wrapped key that is empty is stored, and rejected when it is read. -/
theorem denied_without_traces : OwnerDenied namelessWrapper ∧ OwnerDenied emptyingWrapper := by
  constructor
  · have ascii : encodeAsciiText "" = .ok [] := by decide +kernel
    exact ownerDenied_of_invalid (transparentWrapper_undoesWrap 1) ascii (by decide) (by decide)
      rfl (by decide) (.inl rfl)
  · have ascii : encodeAsciiText "RSA-OAEP" = .ok (encodeUtf8 "RSA-OAEP") := by decide +kernel
    have wrote : emptyingWrapper.wrap plainStoreDraws.encrypt.wrap plainFek = .ok [] := by
      simp [emptyingWrapper]
    refine ownerDenied_of_invalid ?_ ascii (by decide +kernel) (by decide +kernel) wrote
      (by decide) (.inr rfl)
    intro entropy keyMaterial wrapped wrote
    simp only [emptyingWrapper] at wrote ⊢
    split_ifs at wrote with known
    · obtain rfl := Except.ok.inj wrote
      rw [known]
      rfl
    · exact absurd wrote (raise_ne_ok _ _ _)

theorem stored_comesBack_plain :
    ∃ written plaintext bytes metadata table container,
      SecureStorageService.ComesBack storeCrypto plainProbes
        (plainStoreRequest (transparentWrapper 1) true) (plainStore (transparentWrapper 1) true)
        written plaintext bytes metadata table container := by
  obtain ⟨written, -, -, -, returned, -⟩ := plainStore_returns_transparent true
  have positive : ∀ limit, ((plainStoreRequest (transparentWrapper 1) true).expiryRules.getD
      {}).maxAccessCount = some limit → 0 < limit := nofun
  exact ⟨written, SecureStorageService.stored_comesBack transparent_aesGcmLaws
    (transparentWrapper_undoesWrap 1) (by decide)
    ⟨fun deviceOnly => absurd ⟨rfl, rfl⟩ deviceOnly, fun deviceOnly => absurd ⟨rfl, rfl⟩ deviceOnly⟩
    positive returned⟩

end CryptoUsb
