import CryptoUsb.StoredFiles
import CryptoUsb.TransparentPrimitives

/-!
# The secure storage service

Encrypting a file, recording its metadata and writing both to a device as one
secure container.  The wrapped key and the record are made once, saved to the
local repository, and embedded in the container; a portable copy of the record
under keys of its own is optional.
-/

namespace CryptoUsb

open ByteString IsoDateTime

/-- The arguments of `store_file`; `source` is the content of the source file, if
it can be read. -/
structure StoreRequest where
  source : Raises Bytes
  device : USBDevice
  keyWrapper : KeyWrapper
  ownerId : String
  overwrite : Bool := false
  protectionKeys : Option MetadataProtectionKeys := none
  expiryRules : Option ExpiryRules := none
  usagePolicy : Option UsagePolicy := none
  bindDevice : Bool := false
  machineBinding : MachineBindingMode := .none
  targetMachineFingerprint : Option String := none
  portableMetadataKeys : Option MetadataProtectionKeys := none
  portableMetadataSalt : Option Bytes := none

/-- The random bytes, the clock and the failures that one `store_file` meets. -/
structure StoreDraws where
  encrypt : EncryptEntropy
  fileId : BytesOf 16
  createdAt : UtcInstant
  keys : ProtectionKeyEntropy
  nonce : AesCipher.Nonce
  portableNonce : AesCipher.Nonce
  temporary : BytesOf 16
  saveFault : Option WriteFault
  writeFault : Option WriteFault

structure SecureWriteResult where
  fileId : String
  destination : DevicePath
  containerSizeBytes : Nat
  protectionKeys : MetadataProtectionKeys
  portableMetadataEmbedded : Bool

structure StoreResult where
  disk : Disk
  repository : Option MetadataRepository
  outcome : Raises SecureWriteResult

/-- What is made of a file before anything is stored. -/
structure PreparedFile where
  metadata : FileMetadata
  fileContainer : EncryptedContainer
  keys : MetadataProtectionKeys
  protectedMetadata : ProtectedMetadata

namespace SecureStorageService

/-- The fingerprint recorded for one machine-binding mode. -/
def recordedMachine (crypto : Cryptography) (probes : HostProbes)
    (machineBinding : MachineBindingMode) (targetMachineFingerprint : Option String) :
    Option String :=
  match machineBinding with
  | .none => none
  | .current => some (computeMachineFingerprint crypto probes)
  | .specific => targetMachineFingerprint

/-- The binding recorded for a device as the probes describe it. -/
def recordedDevice (probes : HostProbes) (device : USBDevice)
    (machineFingerprint : Option String) : DeviceBinding :=
  let descriptor := computeHardwareDescriptor probes device
  { deviceId := some device.deviceId
    label := some device.label
    bound := true
    usbSerial := some (computeUsbIdentifier probes device)
    machineFingerprint
    vendorId := descriptor.bind HardwareDescriptor.vendorId
    productId := descriptor.bind HardwareDescriptor.productId
    hardwareSerial := descriptor.bind HardwareDescriptor.hardwareSerial }

/-- The key of a device as the probes describe it. -/
def deviceKey (crypto : Cryptography) (probes : HostProbes) (device : USBDevice) : Bytes :=
  deriveDeviceBindingKey crypto (deviceFingerprintMaterial
    (some (computeUsbIdentifier probes device)) (computeHardwareDescriptor probes device))

/-- `_device_binding_and_wrapper`. -/
def deviceBindingAndWrapper (crypto : Cryptography) (probes : HostProbes)
    (keyWrapper : KeyWrapper) (device : Option USBDevice) (bindDevice : Bool)
    (machineBinding : MachineBindingMode) (targetMachineFingerprint : Option String := none) :
    Raises (DeviceBinding × KeyWrapper) :=
  if machineBinding = .specific ∧ targetMachineFingerprint = none then
    raise .valueError "target_machine_fingerprint is required when machine_binding is SPECIFIC"
  else
    let machineFingerprint :=
      recordedMachine crypto probes machineBinding targetMachineFingerprint
    if bindDevice = false then .ok ({ machineFingerprint }, keyWrapper)
    else
      match device with
      | none => raise .assertionError ""
      | some device =>
          .ok (recordedDevice probes device machineFingerprint,
            if machineBinding = .none then
              deviceBoundKeyWrapper crypto keyWrapper (deviceKey crypto probes device)
            else keyWrapper)

section Store

variable (crypto : Cryptography) (probes : HostProbes) (request : StoreRequest)
  (draws : StoreDraws)

/-- Everything `store_file` computes before its first write. -/
def prepareFile : Raises PreparedFile := do
  let (deviceBinding, effectiveWrapper) ← deviceBindingAndWrapper crypto probes
    request.keyWrapper (some request.device) request.bindDevice request.machineBinding
    request.targetMachineFingerprint
  let plaintext ← request.source
  let fileContainer ← FileEncryptor.encryptBytes crypto draws.encrypt plaintext effectiveWrapper
  let encryptedBytes ← fileContainer.serialize
  let metadata : FileMetadata := {
    fileId := uuidText (uuid4 draws.fileId)
    ownerId := request.ownerId
    wrappedKey := fileContainer.wrappedKey
    wrapAlgorithm := fileContainer.wrapAlgorithm
    integrityHash := computeIntegrityHash crypto encryptedBytes
    createdAt := draws.createdAt.1
    expiryRules := request.expiryRules.getD {}
    deviceBinding
    usagePolicy := request.usagePolicy.getD {} }
  let keys := request.protectionKeys.getD (generateProtectionKeys draws.keys)
  let protectedMetadata ← MetadataProtector.protect crypto keys draws.nonce metadata
  return { metadata, fileContainer, keys, protectedMetadata }

/-- The portable copy of a record, when both keys and salt were supplied. -/
def portableEnvelope (metadata : FileMetadata) : Raises (Option PortableMetadataEnvelope) :=
  match request.portableMetadataKeys, request.portableMetadataSalt with
  | some keys, some salt => do
      let protectedMetadata ← MetadataProtector.protect crypto keys draws.portableNonce metadata
      return some { salt, protectedMetadata }
  | _, _ => .ok none

/-- `metadata_repository.save(protected)`, where there is a repository. -/
def saveRecord (repository : Option MetadataRepository) (stored : ProtectedMetadata)
    (fault : Option WriteFault) : Option MetadataRepository × Raises Unit :=
  match repository with
  | none => (none, .ok ())
  | some repository =>
      let (repository, outcome) := repository.save stored fault
      (some repository, outcome)

/-- The container of a prepared file. -/
def containerOf (prepared : PreparedFile) (portableMetadata : Option PortableMetadataEnvelope) :
    SecureContainer where
  fileId := prepared.metadata.fileId
  fileContainer := prepared.fileContainer
  protectedMetadata := prepared.protectedMetadata
  portableMetadata := portableMetadata

/-- `SecureStorageService.store_file`. -/
def storeFile (disk : Disk) (repository : Option MetadataRepository) : StoreResult :=
  if request.portableMetadataKeys.isSome ≠ request.portableMetadataSalt.isSome then
    ⟨disk, repository, raise .valueError
      "portable_metadata_keys and portable_metadata_salt must be supplied together"⟩
  else
    match prepareFile crypto probes request draws with
    | .error exc => ⟨disk, repository, .error exc⟩
    | .ok prepared =>
        let (repository, saved) :=
          saveRecord repository prepared.protectedMetadata draws.saveFault
        match saved with
        | .error exc => ⟨disk, repository, .error exc⟩
        | .ok () =>
            match portableEnvelope crypto request draws prepared.metadata with
            | .error exc => ⟨disk, repository, .error exc⟩
            | .ok portableMetadata =>
                match SecureStorageWriter.writeContainer crypto probes disk
                    (containerOf prepared portableMetadata) request.device
                    (some (prepared.metadata.fileId ++ ".cusc")) request.overwrite
                    draws.temporary draws.writeFault with
                | (disk, .error exc) => ⟨disk, repository, .error exc⟩
                | (disk, .ok destination) =>
                    ⟨disk, repository, .ok {
                      fileId := prepared.metadata.fileId
                      destination
                      containerSizeBytes := ((disk destination).getD []).length
                      protectionKeys := prepared.keys
                      portableMetadataEmbedded := portableMetadata.isSome }⟩

end Store

/-- `read_encrypted_file_bytes`. -/
def readEncryptedFileBytes (crypto : Cryptography) (disk : Disk) (path : DevicePath) :
    Raises (String × Bytes) := do
  let container ← SecureStorageWriter.readContainer crypto disk path
  let bytes ← container.fileContainer.serialize
  return (container.fileId, bytes)

/-- The wrapper that `verify_stored_file` rebuilds from the flags. -/
def verifyWrapper (crypto : Cryptography) (probes : HostProbes) (keyWrapper : KeyWrapper)
    (device : Option USBDevice) (bindDevice : Bool) (machineBinding : MachineBindingMode) :
    Raises KeyWrapper :=
  if bindDevice = true ∧ machineBinding = .none then
    match device with
    | none => raise .valueError "device is required to verify a device-only-bound container"
    | some device => do
        let (_, effectiveWrapper) ← deviceBindingAndWrapper crypto probes keyWrapper
          (some device) bindDevice machineBinding
        return effectiveWrapper
  else .ok keyWrapper

/-- `verify_stored_file`. -/
def verifyStoredFile (crypto : Cryptography) (probes : HostProbes) (disk : Disk)
    (path : DevicePath) (keyWrapper : KeyWrapper) (keys : MetadataProtectionKeys)
    (device : Option USBDevice := none) (bindDevice : Bool := false)
    (machineBinding : MachineBindingMode := .none) : Raises Bool := do
  let effectiveWrapper ←
    verifyWrapper crypto probes keyWrapper device bindDevice machineBinding
  let container ← SecureStorageWriter.readContainer crypto disk path
  verifyContainerDeep crypto container effectiveWrapper keys

/-! ## What a prepared file is -/

/-- The wrapper that `store_file` uses. -/
def storeWrapper (crypto : Cryptography) (probes : HostProbes) (request : StoreRequest) :
    KeyWrapper :=
  if request.bindDevice ∧ request.machineBinding = .none then
    deviceBoundKeyWrapper crypto request.keyWrapper (deviceKey crypto probes request.device)
  else request.keyWrapper

/-- The binding that `store_file` records. -/
def storeBinding (crypto : Cryptography) (probes : HostProbes) (request : StoreRequest) :
    DeviceBinding :=
  let machineFingerprint := recordedMachine crypto probes request.machineBinding
    request.targetMachineFingerprint
  if request.bindDevice then recordedDevice probes request.device machineFingerprint
  else { machineFingerprint }

/-- A device as the probes describe it, attached to some machine. -/
def enrolledIdentity (probes : HostProbes) (device : USBDevice)
    (machineFingerprint : Option String) : PresentedIdentity where
  device := some device
  usbIdentifier := some (computeUsbIdentifier probes device)
  machineFingerprint
  hardwareDescriptor := computeHardwareDescriptor probes device

/-- A file that `store_file` prepared, with all that its record says of it. -/
structure Prepared (crypto : Cryptography) (probes : HostProbes) (request : StoreRequest)
    (draws : StoreDraws) (prepared : PreparedFile) (plaintext bytes : Bytes) : Prop where
  targeted : request.machineBinding = .specific → request.targetMachineFingerprint ≠ none
  source : request.source = .ok plaintext
  encrypted : FileEncryptor.encryptBytes crypto draws.encrypt plaintext
    (storeWrapper crypto probes request) = .ok prepared.fileContainer
  serialized : prepared.fileContainer.serialize = .ok bytes
  metadata : prepared.metadata = {
    fileId := uuidText (uuid4 draws.fileId)
    ownerId := request.ownerId
    wrappedKey := prepared.fileContainer.wrappedKey
    wrapAlgorithm := (storeWrapper crypto probes request).algorithm
    integrityHash := computeIntegrityHash crypto bytes
    createdAt := draws.createdAt.1
    expiryRules := request.expiryRules.getD {}
    deviceBinding := storeBinding crypto probes request
    usagePolicy := request.usagePolicy.getD {} }
  keys : prepared.keys = request.protectionKeys.getD (generateProtectionKeys draws.keys)
  written : MetadataProtector.protect crypto prepared.keys draws.nonce prepared.metadata =
    .ok prepared.protectedMetadata

variable {crypto : Cryptography} {probes : HostProbes} {request : StoreRequest}
  {draws : StoreDraws}

theorem storeWrapper_undoesWrap (laws : crypto.AesGcmLaws)
    (undoes : request.keyWrapper.UndoesWrap) :
    (storeWrapper crypto probes request).UndoesWrap := by
  unfold storeWrapper
  split_ifs
  · exact deviceBound_undoesWrap laws undoes
  · exact undoes

theorem deviceBindingAndWrapper_eq_ok {binding : DeviceBinding} {wrapper : KeyWrapper} :
    deviceBindingAndWrapper crypto probes request.keyWrapper (some request.device)
        request.bindDevice request.machineBinding request.targetMachineFingerprint =
          .ok (binding, wrapper) ↔
      (request.machineBinding = .specific → request.targetMachineFingerprint ≠ none) ∧
        binding = storeBinding crypto probes request ∧
        wrapper = storeWrapper crypto probes request := by
  unfold deviceBindingAndWrapper storeBinding storeWrapper
  by_cases untargeted : request.machineBinding = .specific ∧
      request.targetMachineFingerprint = none
  · simp [untargeted]
  · have targeted : request.machineBinding = .specific →
        request.targetMachineFingerprint ≠ none :=
      fun specific absent => untargeted ⟨specific, absent⟩
    rw [if_neg untargeted]
    cases request.bindDevice with
    | false =>
        constructor
        · intro made
          cases made
          exact ⟨targeted, rfl, rfl⟩
        · rintro ⟨-, rfl, rfl⟩
          rfl
    | true =>
        constructor
        · intro made
          cases made
          exact ⟨targeted, rfl, by simp⟩
        · rintro ⟨-, rfl, rfl⟩
          simp

theorem prepareFile_eq_ok {prepared : PreparedFile} :
    prepareFile crypto probes request draws = .ok prepared ↔
      ∃ plaintext bytes, Prepared crypto probes request draws prepared plaintext bytes := by
  simp only [prepareFile, bind_eq_ok, Prod.exists, deviceBindingAndWrapper_eq_ok]
  constructor
  · rintro ⟨_, _, ⟨targeted, rfl, rfl⟩, plaintext, source, container, encrypted, bytes,
      serialized, stored, written, made⟩
    obtain rfl := Except.ok.inj made
    have algorithm := (FileEncryptor.encryptBytes_eq_ok.mp encrypted).1
    exact ⟨plaintext, bytes, targeted, source, encrypted, serialized, by rw [algorithm], rfl,
      written⟩
  · rintro ⟨plaintext, bytes, file⟩
    have algorithm := (FileEncryptor.encryptBytes_eq_ok.mp file.encrypted).1
    refine ⟨_, _, ⟨file.targeted, rfl, rfl⟩, plaintext, file.source, prepared.fileContainer,
      file.encrypted, bytes, file.serialized, prepared.protectedMetadata, ?_, ?_⟩
    · rw [algorithm, ← file.metadata, ← file.keys]
      exact file.written
    · rw [algorithm, ← file.metadata, ← file.keys]
      rfl

namespace Prepared

variable {prepared : PreparedFile} {plaintext bytes : Bytes}

/-- The encrypted file behind a prepared one. -/
def file (file : Prepared crypto probes request draws prepared plaintext bytes) :
    EncryptedFile crypto where
  fileId := prepared.metadata.fileId
  plaintext
  fek := draws.encrypt.fek.1
  nonce := draws.encrypt.nonce
  container := prepared.fileContainer
  bytes
  encrypted := (FileEncryptor.encryptBytes_eq_ok.mp file.encrypted).2.2
  serialized := file.serialized

variable (file : Prepared crypto probes request draws prepared plaintext bytes)

include file

theorem describes : file.file.Describes prepared.metadata where
  fileId := rfl
  hash := by
    rw [file.metadata]
    exact verifyIntegrityHash_compute crypto bytes

theorem wrapped : (storeWrapper crypto probes request).wrap draws.encrypt.wrap
    draws.encrypt.fek.1 = .ok prepared.metadata.wrappedKey := by
  rw [file.metadata]
  exact (FileEncryptor.encryptBytes_eq_ok.mp file.encrypted).2.1

theorem decryptBytes (laws : crypto.AesGcmLaws) (undoes : request.keyWrapper.UndoesWrap) :
    FileEncryptor.decryptBytes crypto prepared.fileContainer
      (storeWrapper crypto probes request) = .ok plaintext :=
  FileEncryptor.decryptBytes_encryptBytes laws (storeWrapper_undoesWrap laws undoes)
    file.encrypted

theorem fileId_protectedMetadata :
    prepared.protectedMetadata.fileId = prepared.metadata.fileId :=
  (MetadataProtector.protect_eq_ok.mp file.written).2.1

/-- The wrapper that a reader derives from the record, on the enrolled device, is
the one the file was stored with. -/
theorem effectiveWrapper_eq (machineFingerprint : Option String) :
    SecureAccessService.effectiveWrapper crypto request.keyWrapper
        prepared.metadata.deviceBinding
        (enrolledIdentity probes request.device machineFingerprint) =
      storeWrapper crypto probes request := by
  have targeted := file.targeted
  rw [SecureAccessService.effectiveWrapper, file.metadata]
  cases bound : request.bindDevice with
  | false => simp [storeWrapper, storeBinding, bound]
  | true =>
      cases binding : request.machineBinding with
      | none => simp [storeWrapper, storeBinding, recordedDevice, recordedMachine, bound, binding,
          deviceKey, enrolledIdentity]
      | current => simp [storeWrapper, storeBinding, recordedDevice, recordedMachine, bound,
          binding]
      | specific =>
          have given := targeted binding
          simp [storeWrapper, storeBinding, recordedDevice, recordedMachine, bound, binding, given]

theorem deserialize_containerOf {portableMetadata : Option PortableMetadataEnvelope}
    {payload : Bytes}
    (serialized : (containerOf prepared portableMetadata).serialize crypto = .ok payload) :
    SecureContainer.deserialize crypto payload = .ok (containerOf prepared portableMetadata) :=
  SecureContainer.deserialize_serialize serialized
    (FileEncryptor.nonce_length_of_encryptBytes file.encrypted) file.fileId_protectedMetadata

end Prepared

/-! ## What a stored file is -/

/-- A file that `store_file` has stored. -/
structure Stored (crypto : Cryptography) (probes : HostProbes) (request : StoreRequest)
    (draws : StoreDraws) (repository : Option MetadataRepository) (result : StoreResult)
    (written : SecureWriteResult) (prepared : PreparedFile)
    (portableMetadata : Option PortableMetadataEnvelope) (plaintext bytes : Bytes) : Prop where
  file : Prepared crypto probes request draws prepared plaintext bytes
  portable : portableEnvelope crypto request draws prepared.metadata = .ok portableMetadata
  saved : saveRecord repository prepared.protectedMetadata draws.saveFault =
    (result.repository, .ok ())
  payload : ∃ payload, (containerOf prepared portableMetadata).serialize crypto = .ok payload ∧
    result.disk written.destination = some payload
  fileId : written.fileId = prepared.metadata.fileId
  keys : written.protectionKeys = prepared.keys
  embedded : written.portableMetadataEmbedded = portableMetadata.isSome

/-- What holds after a `store_file` that returned. -/
theorem storeFile_returns {disk : Disk} {repository : Option MetadataRepository}
    {written : SecureWriteResult}
    (returned : (storeFile crypto probes request draws disk repository).outcome = .ok written) :
    ∃ prepared portableMetadata plaintext bytes,
      Stored crypto probes request draws repository
        (storeFile crypto probes request draws disk repository) written prepared
        portableMetadata plaintext bytes := by
  unfold storeFile at returned ⊢
  split_ifs at returned ⊢ with together
  · simp at returned
  cases prepareEq : prepareFile crypto probes request draws with
  | error exc => simp [prepareEq] at returned
  | ok prepared =>
      obtain ⟨plaintext, bytes, file⟩ := prepareFile_eq_ok.mp prepareEq
      simp only [prepareEq] at returned ⊢
      rcases savedEq : saveRecord repository prepared.protectedMetadata draws.saveFault with
        ⟨repositoryAfter, exc | _⟩
      · simp [savedEq] at returned
      simp only [savedEq] at returned ⊢
      cases portableEq : portableEnvelope crypto request draws prepared.metadata with
      | error exc => simp [portableEq] at returned
      | ok portableMetadata =>
          simp only [portableEq] at returned ⊢
          rcases wroteEq : SecureStorageWriter.writeContainer crypto probes disk
            (containerOf prepared portableMetadata) request.device
            (some (prepared.metadata.fileId ++ ".cusc")) request.overwrite draws.temporary
            draws.writeFault with ⟨diskAfter, exc | destination⟩
          · simp [wroteEq] at returned
          simp only [wroteEq, Except.ok.injEq] at returned ⊢
          obtain rfl := returned
          obtain ⟨payload, serialized, onDisk, -⟩ :=
            SecureStorageWriter.writeContainer_returns wroteEq
          exact ⟨prepared, portableMetadata, plaintext, bytes, file, portableEq, savedEq,
            ⟨payload, serialized, onDisk⟩, rfl, rfl, rfl⟩

/-- A prepared file is stored when nothing fails. -/
theorem storeFile_total {disk : Disk} {repository : Option MetadataRepository}
    {prepared : PreparedFile} {portableMetadata : Option PortableMetadataEnvelope}
    {plaintext bytes payload : Bytes}
    (together : request.portableMetadataKeys.isSome = request.portableMetadataSalt.isSome)
    (file : Prepared crypto probes request draws prepared plaintext bytes)
    (portable : portableEnvelope crypto request draws prepared.metadata = .ok portableMetadata)
    (serialized : (containerOf prepared portableMetadata).serialize crypto = .ok payload)
    (valid : (validateDevice probes request.device payload.length).ok = true)
    (free : disk ⟨request.device.mountPoint, prepared.metadata.fileId ++ ".cusc"⟩ = none)
    (saveSpared : draws.saveFault = none) (writeSpared : draws.writeFault = none) :
    ∃ written, (storeFile crypto probes request draws disk repository).outcome = .ok written := by
  have prepareEq := prepareFile_eq_ok.mpr ⟨plaintext, bytes, file⟩
  obtain ⟨repositoryAfter, saved⟩ : ∃ repositoryAfter,
      saveRecord repository prepared.protectedMetadata draws.saveFault =
        (repositoryAfter, .ok ()) := by
    rw [saveSpared]
    cases repository with
    | none => exact ⟨none, rfl⟩
    | some before => exact ⟨_, rfl⟩
  have fileId : prepared.metadata.fileId = uuidText (uuid4 draws.fileId) := by
    rw [file.metadata]
  have named : prepared.metadata.fileId ++ ".cusc" ≠ "" := by
    intro empty
    have characters := congrArg (fun name => name.toList.length) empty
    simp [String.toList_append] at characters
  have plain : SecureStorageWriter.isPlainName (prepared.metadata.fileId ++ ".cusc") = true := by
    rw [fileId]
    exact SecureStorageWriter.isPlainName_uuid _
  obtain ⟨diskAfter, wrote⟩ := SecureStorageWriter.writeContainer_total request.overwrite
    draws.temporary serialized (file.deserialize_containerOf serialized) valid named plain free
  simp [storeFile, together, prepareEq, saved, portable, writeSpared, wrote]

namespace Stored

variable {repository : Option MetadataRepository} {result : StoreResult}
  {written : SecureWriteResult} {prepared : PreparedFile}
  {portableMetadata : Option PortableMetadataEnvelope} {plaintext bytes : Bytes}
  (stored : Stored crypto probes request draws repository result written prepared
    portableMetadata plaintext bytes)

include stored

theorem wellFormed : (containerOf prepared portableMetadata).fileContainer.nonce.length =
      AesCipher.nonceSizeBytes ∧
    (containerOf prepared portableMetadata).protectedMetadata.fileId =
      (containerOf prepared portableMetadata).fileId :=
  ⟨FileEncryptor.nonce_length_of_encryptBytes stored.file.encrypted,
    stored.file.fileId_protectedMetadata⟩

theorem readContainer : SecureStorageWriter.readContainer crypto result.disk
    written.destination = .ok (containerOf prepared portableMetadata) := by
  obtain ⟨payload, serialized, onDisk⟩ := stored.payload
  simp only [SecureStorageWriter.readContainer, onDisk]
  exact stored.file.deserialize_containerOf serialized

theorem load {before : MetadataRepository} (given : repository = some before) :
    ∃ after, result.repository = some after ∧
      after.load prepared.metadata.fileId = some prepared.protectedMetadata := by
  have saved := stored.saved
  subst given
  simp only [saveRecord, MetadataRepository.save] at saved
  split at saved
  · simp at saved
  · obtain ⟨after, -⟩ := Prod.mk.inj saved
    refine ⟨_, after.symm, ?_⟩
    rw [← stored.file.fileId_protectedMetadata]
    exact MetadataRepository.load_upsert _ _

theorem load_other {before : MetadataRepository} (given : repository = some before) :
    ∃ after, result.repository = some after ∧
      ∀ fileId, fileId ≠ prepared.metadata.fileId → after.load fileId = before.load fileId := by
  have saved := stored.saved
  subst given
  simp only [saveRecord, MetadataRepository.save] at saved
  split at saved
  · simp at saved
  · obtain ⟨after, -⟩ := Prod.mk.inj saved
    refine ⟨_, after.symm, fun fileId other => ?_⟩
    rw [← stored.file.fileId_protectedMetadata] at other
    exact MetadataRepository.load_upsert_other other

/-- The portable section, where keys and salt were supplied, holds the record
under these keys. -/
theorem portable_of_keys {keys : MetadataProtectionKeys} {salt : Bytes}
    (keysGiven : request.portableMetadataKeys = some keys)
    (saltGiven : request.portableMetadataSalt = some salt) :
    ∃ portableRecord, portableMetadata = some ⟨salt, portableRecord⟩ ∧
      MetadataProtector.protect crypto keys draws.portableNonce prepared.metadata =
        .ok portableRecord := by
  have portable := stored.portable
  simp only [portableEnvelope, keysGiven, saltGiven, bind_eq_ok] at portable
  obtain ⟨portableRecord, written, made⟩ := portable
  exact ⟨portableRecord, (Except.ok.inj made).symm, written⟩

end Stored

end SecureStorageService

/-!
## A store with the transparent primitives

Two bytes, to be viewed once, are stored on a roomy device together with a portable copy of their
record.  With any wrapper whose algorithm and output are short, the store returns.
-/

abbrev storeCrypto : Cryptography :=
  transparent (padTo 32)

/-- A machine that tells neither serial numbers nor hardware descriptors. -/
def plainProbes : HostProbes where
  attached := fun _ => true
  writable := fun _ => true
  volumeSerial := fun _ => none
  pnpDeviceId := fun _ => none
  machineGuid := some "guid"
  nodeName := ""
  hardwareAddress := 0

def plainDevice : USBDevice where
  deviceId := "E:"
  mountPoint := "E:"
  label := "KEY"
  filesystem := "FAT32"
  totalBytes := 2 ^ 80
  freeBytes := 2 ^ 80
  isRemovable := true

def plainSalt : Bytes := List.replicate 16 3

/-- A request to store two bytes that may be viewed once. -/
def plainStoreRequest (keyWrapper : KeyWrapper) (bindDevice : Bool) : StoreRequest where
  source := .ok [104, 105]
  device := plainDevice
  keyWrapper
  ownerId := "owner"
  usagePolicy := some { oneTimeAccess := true }
  bindDevice
  portableMetadataKeys := some plainKeys
  portableMetadataSalt := some plainSalt

def plainStoreDraws : StoreDraws where
  encrypt := ⟨⟨plainFek, by decide⟩, plainNonce, ⟨[], plainNonce⟩⟩
  fileId := padTo 16 []
  createdAt := plainInstant
  keys := ⟨padTo 32 [5], padTo 32 [6]⟩
  nonce := plainNonce
  portableNonce := plainNonce
  temporary := padTo 16 []
  saveFault := none
  writeFault := none

/-- The store of a plain file on an empty device, with an empty local table. -/
def plainStore (keyWrapper : KeyWrapper) (bindDevice : Bool) : StoreResult :=
  SecureStorageService.storeFile storeCrypto plainProbes
    (plainStoreRequest keyWrapper bindDevice) plainStoreDraws (fun _ => none) (some {})

/-- A store of a plain file with all that it left behind. -/
abbrev PlainStored (keyWrapper : KeyWrapper) (bindDevice : Bool) (written : SecureWriteResult)
    (prepared : PreparedFile) (portableMetadata : Option PortableMetadataEnvelope)
    (bytes : Bytes) : Prop :=
  SecureStorageService.Stored storeCrypto plainProbes (plainStoreRequest keyWrapper bindDevice)
    plainStoreDraws (some {}) (plainStore keyWrapper bindDevice) written prepared
    portableMetadata [104, 105] bytes

/-- The wrapper that a plain store uses. -/
abbrev plainStoreWrapper (keyWrapper : KeyWrapper) (bindDevice : Bool) : KeyWrapper :=
  SecureStorageService.storeWrapper storeCrypto plainProbes
    (plainStoreRequest keyWrapper bindDevice)

/-- What the store makes of the file when its key is wrapped like this. -/
def plainStoreContainer (algorithm : String) (wrapped : Bytes) : EncryptedContainer where
  wrapAlgorithm := algorithm
  wrappedKey := wrapped
  nonce := plainNonce.1
  ciphertext := plainFek ++ [104, 105]

/-- What the store records of it. -/
def plainStoreMetadata (keyWrapper : KeyWrapper) (bindDevice : Bool) (wrapped bytes : Bytes) :
    FileMetadata where
  fileId := uuidText (uuid4 plainStoreDraws.fileId)
  ownerId := "owner"
  wrappedKey := wrapped
  wrapAlgorithm := (plainStoreWrapper keyWrapper bindDevice).algorithm
  integrityHash := computeIntegrityHash storeCrypto bytes
  createdAt := plainInstant.1
  deviceBinding := SecureStorageService.storeBinding storeCrypto plainProbes
    (plainStoreRequest keyWrapper bindDevice)
  usagePolicy := { oneTimeAccess := true }

/-- What the transparent primitives protect is not large when its record is not. -/
theorem small_of_protect {digest : Bytes → BytesOf 32} {keys : MetadataProtectionKeys}
    {nonce : AesCipher.Nonce} {metadata : FileMetadata} {stored : ProtectedMetadata}
    (written : MetadataProtector.protect (transparent digest) keys nonce metadata = .ok stored)
    (version : metadata.metadataVersion = currentMetadataVersion)
    (short : metadata.fieldSize < 2 ^ 40) : stored.Small := by
  obtain ⟨encrypted, -, versionEq, tag⟩ := MetadataProtector.protect_eq_ok.mp written
  obtain ⟨-, nonceEq, made⟩ := AesCipher.encrypt_eq_ok.mp encrypted
  obtain ⟨⟨keySize, -⟩, ciphertext⟩ := transparent_encrypt.mp made
  have payload := MetadataProtector.length_payload_le metadata
  rw [version] at versionEq
  refine ⟨by rw [versionEq]; decide, by rw [versionEq]; decide, ?_, ?_, ?_⟩
  · rw [nonceEq, nonce.2]
    decide
  · rw [tag]
    exact (HmacUtil.length_computeHmac ..).trans_lt (by decide)
  · rw [ciphertext, List.length_append, keySize]
    omega

theorem fieldSize_burned_le (metadata : FileMetadata) (decoyWrapped : Bytes) :
    (OneTimeAccessEnforcer.burned metadata decoyWrapped).fieldSize ≤
      metadata.fieldSize + (Base64Text.b64encode decoyWrapped).length := by
  simp only [OneTimeAccessEnforcer.burned, FileMetadata.fieldSize, Int.natAbs_zero]
  omega

/-- The container of a small file with a small record is written. -/
theorem SecureStorageService.Prepared.serialize_containerOf {digest : Bytes → BytesOf 32}
    {probes : HostProbes} {request : StoreRequest} {draws : StoreDraws}
    {prepared : PreparedFile} {plaintext bytes : Bytes}
    {portableMetadata : Option PortableMetadataEnvelope}
    (file : Prepared (transparent digest) probes request draws prepared plaintext bytes)
    (bytesSmall : bytes.length < 2 ^ 61) (short : prepared.metadata.fieldSize < 2 ^ 40)
    (portable : portableEnvelope (transparent digest) request draws prepared.metadata =
      .ok portableMetadata)
    (shortSalt : ∀ salt, request.portableMetadataSalt = some salt → salt.length ≤ 255) :
    ∃ payload, (containerOf prepared portableMetadata).serialize (transparent digest) =
      .ok payload ∧ payload.length < 2 ^ 64 := by
  have fileId : prepared.metadata.fileId = uuidText (uuid4 draws.fileId) := by
    rw [file.metadata]
  have version : prepared.metadata.metadataVersion = currentMetadataVersion := by
    rw [file.metadata]
  have shortId : (encodeUtf8 prepared.metadata.fileId).length ≤ 255 := by
    rw [fileId]
    exact length_encodeUtf8_uuidText _
  refine SecureContainer.serialize_total _ shortId file.serialized bytesSmall
    (small_of_protect file.written version short) ?_
  intro envelope given
  obtain rfl : portableMetadata = some envelope := given
  unfold portableEnvelope at portable
  split at portable
  · rename_i keys salt keysGiven saltGiven
    obtain ⟨stored, written, made⟩ := bind_eq_ok.mp portable
    obtain rfl := Option.some.inj (Except.ok.inj made)
    have sameId := (MetadataProtector.protect_eq_ok.mp written).2.1
    exact ⟨by rwa [sameId], shortSalt salt saltGiven, small_of_protect written version short⟩
  · cases portable

theorem plainBinding_size (keyWrapper : KeyWrapper) (bindDevice : Bool) :
    (SecureStorageService.storeBinding storeCrypto plainProbes
      (plainStoreRequest keyWrapper bindDevice)).fieldSize ≤ 100 := by
  cases bindDevice with
  | false => exact Nat.zero_le _
  | true =>
      show (SecureStorageService.recordedDevice plainProbes plainDevice none).fieldSize ≤ 100
      decide +kernel

theorem plainInstant_size : (isoformat plainInstant.1).length ≤ 100 := by
  decide +kernel

theorem length_uuidText_le (random : BytesOf 16) : (uuidText (uuid4 random)).length ≤ 100 := by
  have size : (uuid4 random).length = 16 := by simp [uuid4, random.2]
  rw [uuidText, String.length_ofList]
  simp only [List.length_append, List.length_cons, List.length_take, List.length_drop,
    length_hexChars, size]
  omega

theorem plainDevice_valid {size : Nat} (small : size < 2 ^ 64) :
    (validateDevice plainProbes plainDevice size).ok = true := by
  refine (validateDevice_ok rfl).mpr ⟨rfl, rfl, ?_⟩
  show size + 4 * 1024 * 1024 ≤ 2 ^ 80
  omega

section Store

variable {keyWrapper : KeyWrapper} {bindDevice : Bool} {algoBytes wrapped bytes : Bytes}

theorem plainContainer_small {algorithm : String}
    (serialized : (plainStoreContainer algorithm wrapped).serialize = .ok bytes) :
    bytes.length < 2 ^ 61 := by
  obtain ⟨nameBytes, nameAscii, shortName, shortKey, rfl⟩ :=
    EncryptedContainer.serialize_eq_ok.mp serialized
  have magicSize : EncryptedContainer.magic.length = 4 := by decide
  have nonceSize := plainNonce.2
  have ciphertextSize : (plainFek ++ [104, 105]).length = 34 := by decide
  simp only [plainStoreContainer, List.length_append, List.length_cons, lengthPrefixed,
    length_bigEndian, magicSize, nonceSize, AesCipher.nonceSizeBytes] at shortKey ciphertextSize ⊢
  omega

theorem plainMetadata_small
    (shortText : (plainStoreWrapper keyWrapper bindDevice).algorithm.length ≤ 255)
    (shortKey : wrapped.length ≤ 1000) :
    (plainStoreMetadata keyWrapper bindDevice wrapped bytes).fieldSize < 2 ^ 30 := by
  have idSize := length_uuidText_le plainStoreDraws.fileId
  have ownerSize : "owner".length = 5 := by decide +kernel
  have keySize := Base64Text.length_b64encode_le wrapped
  have hashSize := (computeIntegrityHash_valid storeCrypto bytes).1
  have createdSize := plainInstant_size
  have bindingSize := plainBinding_size keyWrapper bindDevice
  have versionSize : currentMetadataVersion.natAbs ≤ 100 := by decide
  simp only [FileMetadata.fieldSize, plainStoreMetadata, hashSize, ownerSize, Option.map_none,
    optLength, Option.elim_none, Int.natAbs_zero]
  omega

/-- A plain file is prepared. -/
theorem plainStore_prepared
    (wrote : (plainStoreWrapper keyWrapper bindDevice).wrap plainStoreDraws.encrypt.wrap
      plainFek = .ok wrapped)
    (serialized : (plainStoreContainer (plainStoreWrapper keyWrapper bindDevice).algorithm
      wrapped).serialize = .ok bytes) :
    ∃ stored, SecureStorageService.Prepared storeCrypto plainProbes
      (plainStoreRequest keyWrapper bindDevice) plainStoreDraws
      { metadata := plainStoreMetadata keyWrapper bindDevice wrapped bytes
        fileContainer :=
          plainStoreContainer (plainStoreWrapper keyWrapper bindDevice).algorithm wrapped
        keys := generateProtectionKeys plainStoreDraws.keys
        protectedMetadata := stored } [104, 105] bytes := by
  have keySize : (generateProtectionKeys plainStoreDraws.keys).encryptionKey.length =
      AesCipher.aesKeySizeBytes := plainStoreDraws.keys.encryptionKey.2
  obtain ⟨stored, written⟩ := MetadataProtector.protect_total transparent_encryptsAll keySize
    plainNonce (plainStoreMetadata keyWrapper bindDevice wrapped bytes)
  refine ⟨stored, nofun, rfl, ?_, serialized, rfl, rfl, written⟩
  exact FileEncryptor.encryptBytes_eq_ok.mpr ⟨rfl, wrote, AesCipher.encrypt_eq_ok.mpr
    ⟨by decide, rfl, transparent_encrypt.mpr ⟨by decide, rfl⟩⟩⟩

/-- A plain store returns. -/
theorem plainStore_returns
    (ascii : encodeAsciiText (plainStoreWrapper keyWrapper bindDevice).algorithm = .ok algoBytes)
    (shortName : algoBytes.length ≤ 255)
    (shortText : (plainStoreWrapper keyWrapper bindDevice).algorithm.length ≤ 255)
    (wrote : (plainStoreWrapper keyWrapper bindDevice).wrap plainStoreDraws.encrypt.wrap
      plainFek = .ok wrapped)
    (shortKey : wrapped.length ≤ 1000) :
    ∃ written prepared portableMetadata bytes,
      (plainStore keyWrapper bindDevice).outcome = .ok written ∧
        PlainStored keyWrapper bindDevice written prepared portableMetadata bytes := by
  obtain ⟨bytes, serialized⟩ : ∃ bytes, (plainStoreContainer
      (plainStoreWrapper keyWrapper bindDevice).algorithm wrapped).serialize = .ok bytes :=
    ⟨_, EncryptedContainer.serialize_eq_ok.mpr
      ⟨algoBytes, ascii, shortName, shortKey.trans (by decide), rfl⟩⟩
  obtain ⟨stored, file⟩ := plainStore_prepared wrote serialized
  have keySize : plainKeys.encryptionKey.length = AesCipher.aesKeySizeBytes := by decide
  obtain ⟨portableStored, portableWritten⟩ := MetadataProtector.protect_total
    transparent_encryptsAll keySize plainNonce
    (plainStoreMetadata keyWrapper bindDevice wrapped bytes)
  have portable : SecureStorageService.portableEnvelope storeCrypto
      (plainStoreRequest keyWrapper bindDevice) plainStoreDraws
      (plainStoreMetadata keyWrapper bindDevice wrapped bytes) =
        .ok (some ⟨plainSalt, portableStored⟩) :=
    bind_eq_ok.mpr ⟨portableStored, portableWritten, rfl⟩
  obtain ⟨payload, payloadWritten, payloadSmall⟩ := file.serialize_containerOf
    (plainContainer_small serialized)
    ((plainMetadata_small shortText shortKey).trans (by decide)) portable (by
      intro salt given
      obtain rfl := Option.some.inj given
      decide)
  obtain ⟨written, returned⟩ : ∃ written, (plainStore keyWrapper bindDevice).outcome =
      .ok written :=
    SecureStorageService.storeFile_total rfl file portable payloadWritten
      (plainDevice_valid payloadSmall) rfl rfl rfl
  obtain ⟨prepared, portableMetadata, plaintext, bytes, stored⟩ :=
    SecureStorageService.storeFile_returns returned
  obtain rfl := Except.ok.inj stored.file.source
  exact ⟨written, prepared, portableMetadata, bytes, returned, stored⟩

end Store

theorem algorithm_ascii (bindDevice : Bool) :
    ∃ algoBytes, encodeAsciiText (plainStoreWrapper (transparentWrapper 1) bindDevice).algorithm =
      .ok algoBytes ∧ algoBytes.length ≤ 255 ∧
        (plainStoreWrapper (transparentWrapper 1) bindDevice).algorithm.length ≤ 255 := by
  cases bindDevice with
  | false =>
      show ∃ algoBytes, encodeAsciiText "RSA-OAEP" = .ok algoBytes ∧ algoBytes.length ≤ 255 ∧
        "RSA-OAEP".length ≤ 255
      exact ⟨encodeUtf8 "RSA-OAEP", by decide +kernel⟩
  | true =>
      show ∃ algoBytes, encodeAsciiText ("RSA-OAEP" ++ "+DEVICE-BOUND-AES-GCM") =
        .ok algoBytes ∧ algoBytes.length ≤ 255 ∧
          ("RSA-OAEP" ++ "+DEVICE-BOUND-AES-GCM").length ≤ 255
      exact ⟨encodeUtf8 "RSA-OAEP+DEVICE-BOUND-AES-GCM", by decide +kernel⟩

theorem transparentWrapper_wraps (bindDevice : Bool) (entropy : WrapEntropy)
    {keyMaterial : Bytes} (size : keyMaterial.length = 32) :
    ∃ wrapped, (plainStoreWrapper (transparentWrapper 1) bindDevice).wrap entropy keyMaterial =
      .ok wrapped ∧ wrapped.length ≤ 1000 := by
  cases bindDevice with
  | false => exact ⟨1 :: keyMaterial, rfl, by rw [List.length_cons, size]; decide⟩
  | true =>
      have keySize : (SecureStorageService.deviceKey storeCrypto plainProbes plainDevice).length =
          AesCipher.aesKeySizeBytes := length_deriveDeviceBindingKey ..
      refine ⟨entropy.deviceNonce.1 ++
        (SecureStorageService.deviceKey storeCrypto plainProbes plainDevice ++ 1 :: keyMaterial),
        deviceBound_wrap_eq_ok.mpr ⟨1 :: keyMaterial, _, rfl, AesCipher.encrypt_eq_ok.mpr
          ⟨keySize, rfl, transparent_encrypt.mpr ⟨⟨keySize, entropy.deviceNonce.2⟩, rfl⟩⟩, rfl⟩,
        ?_⟩
      rw [List.length_append, List.length_append, List.length_cons, keySize, size,
        entropy.deviceNonce.2]
      decide

theorem plainStore_returns_transparent (bindDevice : Bool) :
    ∃ written prepared portableMetadata bytes,
      (plainStore (transparentWrapper 1) bindDevice).outcome = .ok written ∧
        PlainStored (transparentWrapper 1) bindDevice written prepared portableMetadata
          bytes := by
  obtain ⟨algoBytes, ascii, shortName, shortText⟩ := algorithm_ascii bindDevice
  obtain ⟨wrapped, wrote, shortKey⟩ :=
    transparentWrapper_wraps bindDevice plainStoreDraws.encrypt.wrap plainStoreDraws.encrypt.fek.2
  exact plainStore_returns ascii shortName shortText wrote shortKey

end CryptoUsb
