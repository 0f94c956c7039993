import CryptoUsb.DeviceRebind
import CryptoUsb.TransitionRuns

/-!
# Chains of rebinds

A bound file may be moved from device to device any number of times.  What a rebind
keeps is that the recorded key hides the key of the file under the device that the
record names, and that nothing else of the record is changed.  The bytes of the file
are never touched, so after any chain they are viewed on the last device and on no
other.
-/

namespace CryptoUsb

open ByteString TransitionRuns

/-- A device as a machine described it when the file was bound to it. -/
structure Enrollment where
  probes : HostProbes
  device : USBDevice

/-- Where the record of the file is held, and the device it names. -/
structure RebindState where
  disk : Disk
  repository : Repository
  enrolled : Enrollment

structure RebindCall where
  probes : HostProbes
  request : RebindRequest
  entropy : RebindEntropy
  faults : SaveFaults

/-- What a call does to a repository without mirrors. -/
def RebindCall.result (call : RebindCall) (crypto : Cryptography)
    (serialization : KeySerialization RSAPrivateKey RSAPublicKey) (state : RebindState) :
    RebindResult :=
  DeviceRebindService.rebind crypto serialization call.probes call.request call.entropy
    state.disk [state.repository] call.faults

/-- A rebind of the record as it is stored, with the private key of the file and the
keys of the record, that returned. -/
structure RebindStep (crypto : Cryptography)
    (serialization : KeySerialization RSAPrivateKey RSAPublicKey) (privateKey : RSAPrivateKey)
    (keys : MetadataProtectionKeys) (fileId : String) (state : RebindState) (call : RebindCall)
    (next : RebindState) : Prop where
  recorded : ∃ stored, state.repository.load fileId = some stored ∧
    MetadataProtector.unprotect crypto keys stored = .ok call.request.metadata
  privateKey : KeyAuthenticator.loadPrivateKey serialization call.request.privateKeyPem
    call.request.passphrase = .ok privateKey
  keys : call.request.protectionKeys = keys
  returned : (call.result crypto serialization state).outcome = .ok ()
  disk : next.disk = (call.result crypto serialization state).disk
  repository : (call.result crypto serialization state).repositories = [next.repository]
  enrolled : next.enrolled = ⟨call.probes, call.request.newDevice⟩

/-- The record of a file that was moved to a device: only the key and the device are
new, and the key hides that of the file under this device. -/
structure BoundTo (crypto : Cryptography) (privateKey : RSAPrivateKey) (original : FileMetadata)
    (fek : Bytes) (enrolled : Enrollment) (metadata : FileMetadata) : Prop where
  fields : metadata = { original with
    wrappedKey := metadata.wrappedKey
    deviceBinding := SecureStorageService.recordedDevice enrolled.probes enrolled.device
      original.deviceBinding.machineFingerprint }
  wrapped : ∃ entropy, (deviceWrapper crypto enrolled.probes enrolled.device
    original.deviceBinding.machineFingerprint privateKey.keyWrapper).wrap entropy fek =
      .ok metadata.wrappedKey

/-- The repository holds such a record. -/
def HoldsBound (crypto : Cryptography) (privateKey : RSAPrivateKey)
    (keys : MetadataProtectionKeys) (original : FileMetadata) (fek : Bytes)
    (state : RebindState) : Prop :=
  ∃ metadata stored nonce, state.repository.load original.fileId = some stored ∧
    MetadataProtector.protect crypto keys nonce metadata = .ok stored ∧
    BoundTo crypto privateKey original fek state.enrolled metadata

section Chain

variable {crypto : Cryptography} {serialization : KeySerialization RSAPrivateKey RSAPublicKey}
  {privateKey : RSAPrivateKey} {keys : MetadataProtectionKeys} {original metadata : FileMetadata}
  {fek : Bytes} {enrolled : Enrollment}

theorem deviceWrapper_undoesWrap (laws : crypto.AesGcmLaws) (oaep : privateKey.OaepLaws)
    (probes : HostProbes) (device : USBDevice) (machineFingerprint : Option String) :
    (deviceWrapper crypto probes device machineFingerprint privateKey.keyWrapper).UndoesWrap := by
  unfold deviceWrapper
  split_ifs
  · exact deviceBound_undoesWrap laws oaep.undoesWrap
  · exact oaep.undoesWrap

/-- Whatever opens the recorded key opens it to the key of the file. -/
theorem BoundTo.opened (laws : crypto.AesGcmLaws) (oaep : privateKey.OaepLaws)
    {probes : HostProbes} {request : RebindRequest}
    (boundTo : BoundTo crypto privateKey original fek enrolled request.metadata)
    {wrapper : KeyWrapper} (effective : DeviceRebindService.effectiveWrapper crypto probes
      request privateKey.keyWrapper = .ok wrapper)
    {opened : Bytes} (unwrapped : wrapper.unwrap request.metadata.wrappedKey = .ok opened) :
    opened = fek := by
  obtain ⟨entropy, wrapped⟩ := boundTo.wrapped
  have undone := deviceWrapper_undoesWrap laws oaep _ _ _ _ _ _ wrapped
  have sameMachine : request.metadata.deviceBinding.machineFingerprint =
      original.deviceBinding.machineFingerprint := by
    rw [boundTo.fields]
    rfl
  unfold DeviceRebindService.effectiveWrapper at effective
  rw [sameMachine] at effective
  unfold deviceWrapper at wrapped undone
  cases machine : original.deviceBinding.machineFingerprint with
  | some fingerprint =>
      simp only [machine, Except.ok.injEq] at effective
      rw [machine, if_neg (by simp), effective] at undone
      exact Except.ok.inj (unwrapped.symm.trans undone)
  | none =>
      rw [machine, if_pos rfl] at wrapped undone
      cases presented : request.oldDevice with
      | none => simp [machine, presented] at effective
      | some oldDevice =>
          simp only [machine, presented, Except.ok.injEq] at effective
          subst effective
          -- The presented device has the key of the enrolled one.
          rw [deviceKey_eq_of_unwrap laws wrapped unwrapped] at unwrapped
          exact Except.ok.inj (unwrapped.symm.trans undone)

/-- A rebind moves the record to its new device. -/
theorem holdsBound_step (laws : crypto.AesGcmLaws) (oaep : privateKey.OaepLaws)
    {state next : RebindState} {call : RebindCall}
    (holds : HoldsBound crypto privateKey keys original fek state)
    (step : RebindStep crypto serialization privateKey keys original.fileId state call next) :
    HoldsBound crypto privateKey keys original fek next := by
  obtain ⟨metadata, stored, nonce, loaded, written, boundTo⟩ := holds
  obtain ⟨stored', loaded', unprotected⟩ := step.recorded
  obtain rfl := Option.some.inj (loaded.symm.trans loaded')
  obtain rfl := MetadataProtector.eq_of_unprotect_protect laws written unprotected
  obtain ⟨usedKey, opened, wrappedKey, saved, rewraps, protectedNew, -, held⟩ :=
    DeviceRebindService.rebind_returns step.returned
  obtain rfl := Except.ok.inj (rewraps.loaded.symm.trans step.privateKey)
  obtain ⟨wrapper, effective, unwrapped⟩ := rewraps.opened
  obtain rfl := boundTo.opened laws oaep effective unwrapped
  have sameId : call.request.metadata.fileId = original.fileId := by rw [boundTo.fields]
  have sameMachine : call.request.metadata.deviceBinding.machineFingerprint =
      original.deviceBinding.machineFingerprint := by
    rw [boundTo.fields]
    rfl
  refine ⟨_, saved, call.entropy.nonce, ?_, step.keys ▸ protectedNew, ?_, ?_⟩
  · rw [← sameId]
    exact held next.repository (step.repository ▸ List.mem_singleton.mpr rfl)
  · rw [step.enrolled, DeviceRebindService.rebound, sameMachine]
    conv_lhs => rw [boundTo.fields]
  · have wrapped := rewraps.wrapped
    rw [sameMachine] at wrapped
    rw [step.enrolled]
    exact ⟨call.entropy.wrap, wrapped⟩

theorem holdsBound_run (laws : crypto.AesGcmLaws) (oaep : privateKey.OaepLaws)
    {start finish : RebindState} {calls : List RebindCall}
    (run : Run (RebindStep crypto serialization privateKey keys original.fileId) start calls
      finish)
    (holds : HoldsBound crypto privateKey keys original fek start) :
    HoldsBound crypto privateKey keys original fek finish :=
  run.invariant _ (holdsBound_step laws oaep) holds

/-! ## Views after a chain -/

/-- An attempt on the untouched bytes of the file, on the enrolled device and the
recorded machine, with the keys of the record; apart from its binding the record was
acceptable as it was stored. -/
structure MovedAttempt (privateKey : RSAPrivateKey) (keys : MetadataProtectionKeys)
    (original : FileMetadata) (bytes : Bytes) (state : RebindState)
    (service : SecureAccessService) (access : AccessRequest) (draws : AccessDraws) : Prop where
  repository : service.repository = some state.repository
  fileId : access.fileId = original.fileId
  bytes : access.encryptedFileBytes = bytes
  keyWrapper : access.keyWrapper = privateKey.keyWrapper
  keys : access.protectionKeys = keys
  notForced : access.forceDeception = false
  notThrottled : service.throttle.isLocked draws.throttleClock access.fileId = false
  identity : ∃ machineFingerprint,
    access.identity = SecureStorageService.enrolledIdentity state.enrolled.probes
      state.enrolled.device machineFingerprint ∧
    ∀ fingerprint, original.deviceBinding.machineFingerprint = some fingerprint →
      machineFingerprint = some fingerprint
  valid : MetadataController.validate original = .ok ()
  policy : ValidationEngine.PolicyHolds draws.validationClock.1 original

theorem deviceWrapper_ne_nil (oaep : privateKey.OaepLaws) {probes : HostProbes}
    {device : USBDevice} {machineFingerprint : Option String} {entropy : WrapEntropy}
    {keyMaterial : Bytes} : (deviceWrapper crypto probes device machineFingerprint
      privateKey.keyWrapper).wrap entropy keyMaterial ≠ .ok [] := by
  intro wrapped
  unfold deviceWrapper at wrapped
  split_ifs at wrapped
  · obtain ⟨innerWrapped, ciphertext, -, -, appended⟩ := deviceBound_wrap_eq_ok.mp wrapped
    have lengths := congrArg List.length appended
    rw [List.length_append, entropy.deviceNonce.2] at lengths
    simp [AesCipher.nonceSizeBytes] at lengths
    omega
  · exact oaep.wrap_ne_nil wrapped

theorem BoundTo.valid (oaep : privateKey.OaepLaws)
    (boundTo : BoundTo crypto privateKey original fek enrolled metadata)
    (valid : MetadataController.validate original = .ok ()) :
    MetadataController.validate metadata = .ok () := by
  obtain ⟨entropy, wrapped⟩ := boundTo.wrapped
  have nonempty : metadata.wrappedKey ≠ [] := by
    intro empty
    exact deviceWrapper_ne_nil oaep (empty ▸ wrapped)
  have originalNonempty := (MetadataController.traces_of_validate valid).2
  rw [boundTo.fields]
  simpa only [MetadataController.validate, nonempty, originalNonempty, if_false] using valid

theorem BoundTo.accepts (boundTo : BoundTo crypto privateKey original fek enrolled metadata)
    {machineFingerprint : Option String}
    (machine : ∀ fingerprint, original.deviceBinding.machineFingerprint = some fingerprint →
      machineFingerprint = some fingerprint) :
    (DeviceBindingValidator.validate metadata.deviceBinding
      (SecureStorageService.enrolledIdentity enrolled.probes enrolled.device
        machineFingerprint)).ok = true := by
  rw [boundTo.fields]
  refine (DeviceBindingValidator.validate_ok _ _).mpr
    ⟨fun _ => SecureStorageService.recordedDevice_matches .., fun recorded => ?_⟩
  obtain ⟨fingerprint, given⟩ := Option.ne_none_iff_exists'.mp recorded
  exact given.trans (machine fingerprint given).symm

/-- On the enrolled device the record unwraps to the key of the file. -/
theorem BoundTo.unwrap (laws : crypto.AesGcmLaws) (oaep : privateKey.OaepLaws)
    (boundTo : BoundTo crypto privateKey original fek enrolled metadata)
    (machineFingerprint : Option String) :
    (SecureAccessService.effectiveWrapper crypto privateKey.keyWrapper metadata.deviceBinding
      (SecureStorageService.enrolledIdentity enrolled.probes enrolled.device
        machineFingerprint)).unwrap metadata.wrappedKey = .ok fek := by
  obtain ⟨entropy, wrapped⟩ := boundTo.wrapped
  have undone := deviceWrapper_undoesWrap laws oaep _ _ _ _ _ _ wrapped
  have same : SecureAccessService.effectiveWrapper crypto privateKey.keyWrapper
      metadata.deviceBinding (SecureStorageService.enrolledIdentity enrolled.probes
        enrolled.device machineFingerprint) =
      deviceWrapper crypto enrolled.probes enrolled.device
        original.deviceBinding.machineFingerprint privateKey.keyWrapper := by
    rw [boundTo.fields]
    simp only [SecureAccessService.effectiveWrapper, SecureStorageService.recordedDevice,
      Bool.true_and, deviceWrapper, SecureStorageService.deviceKey,
      SecureStorageService.enrolledIdentity]
    cases original.deviceBinding.machineFingerprint <;> rfl
  rw [same]
  exact undone

/-- A moved record grants the attempt on its device. -/
theorem BoundTo.grant (laws : crypto.AesGcmLaws) (oaep : privateKey.OaepLaws)
    (file : EncryptedFile crypto) (describes : file.Describes original) {state : RebindState}
    (boundTo : BoundTo crypto privateKey original file.fek state.enrolled metadata)
    {stored : ProtectedMetadata} {nonce : AesCipher.Nonce}
    (loaded : state.repository.load original.fileId = some stored)
    (written : MetadataProtector.protect crypto keys nonce metadata = .ok stored)
    {service : SecureAccessService} {access : AccessRequest} {draws : AccessDraws}
    (attempt : MovedAttempt privateKey keys original file.bytes state service access draws) :
    SecureAccessService.Grant crypto service access draws metadata file.plaintext := by
  obtain ⟨machineFingerprint, identity, machine⟩ := attempt.identity
  have hash : metadata.integrityHash = original.integrityHash := by rw [boundTo.fields]
  have policy : ValidationEngine.PolicyHolds draws.validationClock.1 metadata := by
    rw [boundTo.fields]
    exact ⟨attempt.policy.notExpired, attempt.policy.withinCount, attempt.policy.unused⟩
  refine file.grant_of_record laws attempt.notForced attempt.notThrottled attempt.repository
    (attempt.fileId ▸ loaded) (attempt.keys ▸ written) attempt.bytes
    ⟨boundTo.valid oaep attempt.valid, hash ▸ describes.hash, policy, ?_⟩ ?_
  · rw [identity]
    exact boundTo.accepts machine
  · rw [identity, attempt.keyWrapper]
    exact boundTo.unwrap laws oaep machineFingerprint

/-- On the enrolled device the key of the record is wrapped for another one. -/
theorem BoundTo.rewraps (laws : crypto.AesGcmLaws) (oaep : privateKey.OaepLaws)
    (total : crypto.EncryptsAll)
    (wraps : ∀ entropy, ∃ wrapped, privateKey.keyWrapper.wrap entropy fek = .ok wrapped)
    {probes : HostProbes} {request : RebindRequest} (entropy : RebindEntropy)
    (boundTo : BoundTo crypto privateKey original fek enrolled request.metadata)
    (loaded : KeyAuthenticator.loadPrivateKey serialization request.privateKeyPem
      request.passphrase = .ok privateKey)
    (presented : original.deviceBinding.machineFingerprint = none →
      ∃ oldDevice, request.oldDevice = some oldDevice ∧
        SecureStorageService.deviceKey crypto probes oldDevice =
          SecureStorageService.deviceKey crypto enrolled.probes enrolled.device) :
    ∃ wrappedKey, DeviceRebindService.Rewraps crypto serialization probes request entropy
      privateKey fek wrappedKey := by
  obtain ⟨wrapEntropy, wrapped⟩ := boundTo.wrapped
  have undone := deviceWrapper_undoesWrap laws oaep _ _ _ _ _ _ wrapped
  have bound : request.metadata.deviceBinding.bound = true := by
    rw [boundTo.fields]
    rfl
  have sameMachine : request.metadata.deviceBinding.machineFingerprint =
      original.deviceBinding.machineFingerprint := by
    rw [boundTo.fields]
    rfl
  obtain ⟨wrappedKey, rewrapped⟩ : ∃ wrappedKey, (deviceWrapper crypto probes request.newDevice
      request.metadata.deviceBinding.machineFingerprint privateKey.keyWrapper).wrap entropy.wrap
        fek = .ok wrappedKey := by
    obtain ⟨innerWrapped, innerWrote⟩ := wraps entropy.wrap
    unfold deviceWrapper
    split_ifs
    · obtain ⟨ciphertext, encrypted⟩ := AesCipher.encrypt_total total entropy.wrap.deviceNonce
        innerWrapped (length_deriveDeviceBindingKey crypto _)
      exact ⟨_, deviceBound_wrap_eq_ok.mpr
        ⟨innerWrapped, ciphertext, innerWrote, encrypted, rfl⟩⟩
    · exact ⟨innerWrapped, innerWrote⟩
  refine ⟨wrappedKey, bound, loaded, ?_, rewrapped⟩
  unfold DeviceRebindService.effectiveWrapper
  unfold deviceWrapper at undone
  rw [sameMachine]
  cases machine : original.deviceBinding.machineFingerprint with
  | some fingerprint =>
      rw [machine, if_neg (by simp)] at undone
      exact ⟨_, rfl, undone⟩
  | none =>
      obtain ⟨oldDevice, given, sameKey⟩ := presented machine
      rw [machine, if_pos rfl, ← sameKey] at undone
      simp only [given]
      exact ⟨_, rfl, undone⟩

/-- A moved record grants nothing to a device with another identifier. -/
theorem BoundTo.not_viewed (laws : crypto.AesGcmLaws) {state : RebindState}
    (boundTo : BoundTo crypto privateKey original fek state.enrolled metadata)
    {stored : ProtectedMetadata} {nonce : AesCipher.Nonce}
    (loaded : state.repository.load original.fileId = some stored)
    (written : MetadataProtector.protect crypto keys nonce metadata = .ok stored)
    {service : SecureAccessService} (primary : service.repository = some state.repository)
    {access : AccessRequest} (sameId : access.fileId = original.fileId)
    (otherDevice : access.identity.usbIdentifier ≠
      some (computeUsbIdentifier state.enrolled.probes state.enrolled.device))
    (disk : Disk) (draws : AccessDraws) :
    (SecureAccessService.attemptAccess crypto service disk access draws).views = [] := by
  rcases SecureAccessService.attemptAccess_cases crypto service disk access draws with
    ⟨read, plaintext, grant, -⟩ | idle
  · exfalso
    obtain ⟨repository, record, primaryEq, found, unprotected⟩ := grant.recorded
    obtain rfl := Option.some.inj (primary.symm.trans primaryEq)
    obtain rfl := Option.some.inj (loaded.symm.trans (sameId ▸ found))
    obtain rfl := MetadataProtector.eq_of_unprotect_protect laws written unprotected
    have deviceAccepted := ((DeviceBindingValidator.validate_ok _ _).mp grant.accepted.binding).1
    rw [boundTo.fields] at deviceAccepted
    obtain ⟨presented, identified, serial, -⟩ := deviceAccepted rfl
    rw [identified, ← serial] at otherDevice
    exact otherDevice rfl
  · exact idle.views

end Chain

/-! ## Files that were stored for a device -/

section Stored

variable {crypto : Cryptography} {serialization : KeySerialization RSAPrivateKey RSAPublicKey}
  {privateKey : RSAPrivateKey} {probes : HostProbes} {request : StoreRequest}
  {draws : StoreDraws} {prepared : PreparedFile} {plaintext bytes : Bytes}

/-- A file that was stored for its device is bound to it. -/
theorem SecureStorageService.Prepared.boundTo
    (file : SecureStorageService.Prepared crypto probes request draws prepared plaintext bytes)
    (bound : request.bindDevice = true) {held : Option RSAPrivateKey}
    (keyWrapper : request.keyWrapper = rsaOaepKeyWrapper ⟨privateKey.publicKey, held⟩) :
    BoundTo crypto privateKey prepared.metadata draws.encrypt.fek.1 ⟨probes, request.device⟩
      prepared.metadata := by
  have recorded : prepared.metadata.deviceBinding = SecureStorageService.recordedDevice probes
      request.device (SecureStorageService.recordedMachine crypto probes request.machineBinding
        request.targetMachineFingerprint) := by
    rw [file.metadata]
    simp [SecureStorageService.storeBinding, bound]
  have machine : prepared.metadata.deviceBinding.machineFingerprint =
      SecureStorageService.recordedMachine crypto probes request.machineBinding
        request.targetMachineFingerprint := by
    rw [recorded]
    rfl
  constructor
  case fields => rw [machine, ← recorded]
  case wrapped =>
    refine ⟨draws.encrypt.wrap, ?_⟩
    have wrapped := file.wrapped
    rw [machine, deviceWrapper]
    unfold SecureStorageService.storeWrapper at wrapped
    rw [keyWrapper] at wrapped
    cases binding : request.machineBinding with
    | none =>
        rw [if_pos ⟨bound, binding⟩] at wrapped
        exact wrapped
    | current =>
        rw [if_neg (by simp [binding])] at wrapped
        exact wrapped
    | specific =>
        have given := file.targeted binding
        rw [if_neg (by simp [binding])] at wrapped
        rw [SecureStorageService.recordedMachine, if_neg given]
        exact wrapped

theorem leavesTraces_of_oaep (oaep : privateKey.OaepLaws) {held : Option RSAPrivateKey}
    (keyWrapper : request.keyWrapper = rsaOaepKeyWrapper ⟨privateKey.publicKey, held⟩) :
    SecureStorageService.LeavesTraces request where
  algorithm _ := by
    rw [keyWrapper]
    exact (by decide : "RSA-OAEP" ≠ "")
  wrapped _ entropy keyMaterial := by
    rw [keyWrapper]
    exact oaep.wrap_ne_nil

/-- A file that has an owner and may be viewed at all. -/
structure StoreRequest.Viewable (request : StoreRequest) : Prop where
  owner : request.ownerId ≠ ""
  positive : ∀ limit, (request.expiryRules.getD {}).maxAccessCount = some limit → 0 < limit

/-- The owner attempts to view the untouched bytes of a file on the enrolled device and the
machine that was recorded when it was stored, before it expires. -/
structure MovedOwnerAttempt (crypto : Cryptography) (probes : HostProbes)
    (request : StoreRequest) (privateKey : RSAPrivateKey) (keys : MetadataProtectionKeys)
    (fileId : String) (bytes : Bytes) (state : RebindState) (service : SecureAccessService)
    (access : AccessRequest) (draws : AccessDraws) : Prop where
  repository : service.repository = some state.repository
  fileId : access.fileId = fileId
  bytes : access.encryptedFileBytes = bytes
  keyWrapper : access.keyWrapper = privateKey.keyWrapper
  keys : access.protectionKeys = keys
  notForced : access.forceDeception = false
  notThrottled : service.throttle.isLocked draws.throttleClock access.fileId = false
  identity : ∃ machineFingerprint,
    access.identity = SecureStorageService.enrolledIdentity state.enrolled.probes
      state.enrolled.device machineFingerprint ∧
    ∀ fingerprint, SecureStorageService.recordedMachine crypto probes request.machineBinding
      request.targetMachineFingerprint = some fingerprint → machineFingerprint = some fingerprint
  notExpired : ∀ expiresAt, (request.expiryRules.getD {}).expiresAt = some expiresAt →
    expiresAt.lessThan draws.validationClock.1 = some false

/-- Such an attempt is one on the record as it was stored. -/
theorem SecureStorageService.Prepared.movedAttempt
    (file : SecureStorageService.Prepared crypto probes request draws prepared plaintext bytes)
    (oaep : privateKey.OaepLaws) {held : Option RSAPrivateKey}
    (keyWrapper : request.keyWrapper = rsaOaepKeyWrapper ⟨privateKey.publicKey, held⟩)
    (bound : request.bindDevice = true) (viewable : request.Viewable) {state : RebindState}
    {service : SecureAccessService} {access : AccessRequest} {accessDraws : AccessDraws}
    (attempt : MovedOwnerAttempt crypto probes request privateKey prepared.keys
      prepared.metadata.fileId bytes state service access accessDraws) :
    MovedAttempt privateKey prepared.keys prepared.metadata bytes state service access
      accessDraws where
  repository := attempt.repository
  fileId := attempt.fileId
  bytes := attempt.bytes
  keyWrapper := attempt.keyWrapper
  keys := attempt.keys
  notForced := attempt.notForced
  notThrottled := attempt.notThrottled
  identity := by
    obtain ⟨machineFingerprint, identity, machine⟩ := attempt.identity
    refine ⟨machineFingerprint, identity, fun fingerprint recorded => machine fingerprint ?_⟩
    rw [file.metadata] at recorded
    simpa [SecureStorageService.storeBinding, SecureStorageService.recordedDevice, bound]
      using recorded
  valid := file.valid viewable.owner (leavesTraces_of_oaep oaep keyWrapper)
  policy := file.policyHolds viewable.positive attempt.notExpired

/-- A file that was moved from device to device: it is viewed on the last one and on
no other, and of its record only the key and the device are new. -/
structure MovedTo (crypto : Cryptography) (probes : HostProbes) (request : StoreRequest)
    (privateKey : RSAPrivateKey) (keys : MetadataProtectionKeys) (original : FileMetadata)
    (plaintext bytes : Bytes) (state : RebindState) (metadata : FileMetadata) : Prop where
  recorded : ∃ stored, state.repository.load original.fileId = some stored ∧
    MetadataProtector.unprotect crypto keys stored = .ok metadata
  machine : metadata.deviceBinding.machineFingerprint =
    original.deviceBinding.machineFingerprint
  otherFields : { metadata with
    wrappedKey := original.wrappedKey
    deviceBinding := original.deviceBinding } = original
  viewed : request.Viewable → ∀ service disk access draws,
    MovedOwnerAttempt crypto probes request privateKey keys original.fileId bytes state service
        access draws →
      ViewsPlaintext crypto service disk access draws metadata plaintext
  refused : ∀ service disk access draws, service.repository = some state.repository →
    access.fileId = original.fileId →
    access.identity.usbIdentifier ≠
      some (computeUsbIdentifier state.enrolled.probes state.enrolled.device) →
    (SecureAccessService.attemptAccess crypto service disk access draws).views = [] ∧
      ∀ outcome, (SecureAccessService.attemptAccess crypto service disk access draws).outcome =
        .ok outcome → outcome.granted = false

/-- Every chain of rebinds moves a file that was stored for its device, and nothing
else of it.  The original is what the store left in the table. -/
theorem rebinds_move_file (laws : crypto.AesGcmLaws) (oaep : privateKey.OaepLaws)
    (bound : request.bindDevice = true) {held : Option RSAPrivateKey}
    (keyWrapper : request.keyWrapper = rsaOaepKeyWrapper ⟨privateKey.publicKey, held⟩)
    {disk : Disk} {before : MetadataRepository} {written : SecureWriteResult}
    (returned : (SecureStorageService.storeFile crypto probes request draws disk
      (some before)).outcome = .ok written) :
    ∃ plaintext bytes row original table,
      request.source = .ok plaintext ∧ original.fileId = written.fileId ∧
      (SecureStorageService.storeFile crypto probes request draws disk
        (some before)).repository = some table ∧
      table.load written.fileId = some row ∧
      MetadataProtector.unprotect crypto written.protectionKeys row = .ok original ∧
      SecureStorageService.readEncryptedFileBytes crypto (SecureStorageService.storeFile crypto
        probes request draws disk (some before)).disk written.destination =
          .ok (written.fileId, bytes) ∧
      ∀ calls finish, Run (RebindStep crypto serialization privateKey written.protectionKeys
          written.fileId)
          ⟨(SecureStorageService.storeFile crypto probes request draws disk (some before)).disk,
            .sqlite table, ⟨probes, request.device⟩⟩ calls finish →
        ∃ metadata, MovedTo crypto probes request privateKey written.protectionKeys original
          plaintext bytes finish metadata := by
  obtain ⟨prepared, portableMetadata, plaintext, bytes, stored⟩ :=
    SecureStorageService.storeFile_returns returned
  obtain ⟨table, tableEq, loaded⟩ := stored.load rfl
  have unprotected := MetadataProtector.unprotect_protect laws stored.file.written
  refine ⟨plaintext, bytes, prepared.protectedMetadata, prepared.metadata, table,
    stored.file.source, stored.fileId.symm, tableEq, stored.fileId ▸ loaded,
    stored.keys ▸ unprotected, ?_, ?_⟩
  · rw [stored.fileId]
    exact bind_eq_ok.mpr ⟨_, stored.readContainer,
      bind_eq_ok.mpr ⟨bytes, stored.file.serialized, rfl⟩⟩
  · intro calls finish run
    rw [stored.fileId, stored.keys] at run
    have initially : HoldsBound crypto privateKey prepared.keys prepared.metadata
        draws.encrypt.fek.1 ⟨(SecureStorageService.storeFile crypto probes request draws disk
          (some before)).disk, .sqlite table, ⟨probes, request.device⟩⟩ :=
      ⟨prepared.metadata, prepared.protectedMetadata, draws.nonce, loaded, stored.file.written,
        stored.file.boundTo bound keyWrapper⟩
    obtain ⟨metadata, record, nonce, found, protectedNew, boundTo⟩ :=
      holdsBound_run laws oaep run initially
    refine ⟨metadata, ⟨record, found, ?_⟩, ?_, ?_, ?_, ?_⟩
    · rw [stored.keys]
      exact MetadataProtector.unprotect_protect laws protectedNew
    · rw [boundTo.fields]
      rfl
    · rw [boundTo.fields]
    · intro viewable service disk access accessDraws attempt
      rw [stored.keys] at attempt
      exact .of_grant disk (boundTo.grant laws oaep stored.file.file stored.file.describes
        found protectedNew (stored.file.movedAttempt oaep keyWrapper bound viewable attempt))
    · intro service disk access accessDraws primary sameId otherDevice
      have unviewed := boundTo.not_viewed laws found protectedNew primary sameId otherDevice disk
        accessDraws
      exact ⟨unviewed, fun outcome reported => Bool.eq_false_of_not_eq_true fun granted =>
        (SecureAccessService.attemptAccess_reports crypto service disk access
          accessDraws).granted outcome reported granted unviewed⟩

end Stored

/-! ## A file moved once -/

private theorem plainDeviceStore_returns :
    ∃ written prepared portableMetadata bytes,
      (plainStore transparentPrivateKey.keyWrapper true).outcome = .ok written ∧
        PlainStored transparentPrivateKey.keyWrapper true written prepared portableMetadata
          bytes := by
  have keySize : (SecureStorageService.deviceKey storeCrypto plainProbes plainDevice).length =
      AesCipher.aesKeySizeBytes := length_deriveDeviceBindingKey ..
  have ascii : encodeAsciiText ("RSA-OAEP" ++ "+DEVICE-BOUND-AES-GCM") =
      .ok (encodeUtf8 "RSA-OAEP+DEVICE-BOUND-AES-GCM") := by decide +kernel
  have wrote : (plainStoreWrapper transparentPrivateKey.keyWrapper true).wrap
      plainStoreDraws.encrypt.wrap plainFek = .ok (plainNonce.1 ++
        (SecureStorageService.deviceKey storeCrypto plainProbes plainDevice ++
          ((padTo 4 []).1 ++ plainFek))) :=
    deviceBound_wrap_eq_ok.mpr ⟨(padTo 4 []).1 ++ plainFek, _, rfl, AesCipher.encrypt_eq_ok.mpr
      ⟨keySize, rfl, transparent_encrypt.mpr ⟨⟨keySize, plainNonce.2⟩, rfl⟩⟩, rfl⟩
  have shortName : (encodeUtf8 "RSA-OAEP+DEVICE-BOUND-AES-GCM").length ≤ 255 := by
    decide +kernel
  have shortText : ("RSA-OAEP" ++ "+DEVICE-BOUND-AES-GCM").length ≤ 255 := by decide +kernel
  refine plainStore_returns ascii shortName shortText wrote ?_
  rw [List.length_append, List.length_append, keySize, plainNonce.2]
  decide

/-- The rebind of a plain record to the other device. -/
def plainRebindCall (metadata : FileMetadata) (keys : MetadataProtectionKeys) : RebindCall where
  probes := plainProbes
  request := { plainRebindRequest with metadata, protectionKeys := keys }
  entropy := plainRebindEntropy
  faults := fun _ => none

/-- An attempt with the keys of a plain file on the other device. -/
def movedAccess (written : SecureWriteResult) (bytes : Bytes) : AccessRequest where
  fileId := written.fileId
  encryptedFileBytes := bytes
  keyWrapper := transparentPrivateKey.keyWrapper
  protectionKeys := written.protectionKeys
  onGranted := fun _ _ => .ok ()
  identity := SecureStorageService.enrolledIdentity plainProbes otherDevice none

def movedService (table : MetadataRepository) : SecureAccessService where
  repository := some (.sqlite table)
  mirrorRepositories := []
  throttle := {}
  tracksUsage := false

theorem movedAccess_attempt (written : SecureWriteResult) (bytes : Bytes) (disk : Disk)
    (table : MetadataRepository) :
    MovedOwnerAttempt storeCrypto plainProbes
      (plainStoreRequest transparentPrivateKey.keyWrapper true) transparentPrivateKey
      written.protectionKeys written.fileId bytes
      ⟨disk, .sqlite table, ⟨plainProbes, otherDevice⟩⟩ (movedService table)
      (movedAccess written bytes) plainDraws where
  repository := rfl
  fileId := rfl
  bytes := rfl
  keyWrapper := rfl
  keys := rfl
  notForced := rfl
  notThrottled := rfl
  identity := ⟨none, rfl, fun _ recorded => by cases recorded⟩
  notExpired := fun _ expires => by cases expires

/-- The burn after the view returns. -/
theorem movedAccess_burns (written : SecureWriteResult) (bytes : Bytes) (disk : Disk)
    (table : MetadataRepository) {metadata : FileMetadata}
    (oneTime : metadata.usagePolicy.oneTimeAccess = true) :
    Returns (OneTimeAccessEnforcer.burn storeCrypto disk (movedService table).repositories metadata
      (SecureAccessService.effectiveWrapper storeCrypto (movedAccess written bytes).keyWrapper
        metadata.deviceBinding (movedAccess written bytes).identity)
      plainDraws.burn plainDraws.saveFaults).outcome := by
  obtain ⟨decoyWrapped, wrapped⟩ :=
    (@SecureAccessService.effectiveWrapper_wrap_returns storeCrypto transparent_encryptsAll
      (movedAccess written bytes).keyWrapper metadata.deviceBinding
      (movedAccess written bytes).identity plainDraws.burn.wrap
      plainDraws.burn.decoyFek.1).mpr ⟨_, rfl⟩
  have keySize : (generateProtectionKeys plainDraws.burn.keys).encryptionKey.length =
      AesCipher.aesKeySizeBytes := plainDraws.burn.keys.encryptionKey.2
  obtain ⟨stored, protectedNew⟩ := MetadataProtector.protect_total transparent_encryptsAll keySize
    plainDraws.burn.nonce (OneTimeAccessEnforcer.burned metadata decoyWrapped)
  refine OneTimeAccessEnforcer.burn_of_saved (OneTimeAccessEnforcer.burnedRecord_eq_ok.mpr
    ⟨oneTime, decoyWrapped, wrapped, protectedNew⟩) (fun repository member => ?_) fun _ _ => rfl
  rw [List.mem_singleton.mp member]
  trivial

/-- The plain call on a table that holds the record moves it. -/
theorem plainRebindCall_step {written : SecureWriteResult} {prepared : PreparedFile}
    {portableMetadata : Option PortableMetadataEnvelope} {bytes : Bytes}
    (stored : PlainStored transparentPrivateKey.keyWrapper true written prepared portableMetadata
      bytes) {after : MetadataRepository}
    (loaded : after.load prepared.metadata.fileId = some prepared.protectedMetadata)
    (disk : Disk) : ∃ row,
      RebindStep storeCrypto rsaSerialization transparentPrivateKey written.protectionKeys
        written.fileId ⟨disk, .sqlite after, ⟨plainProbes, plainDevice⟩⟩
        (plainRebindCall prepared.metadata written.protectionKeys)
        ⟨disk, .sqlite (after.upsert row), ⟨plainProbes, otherDevice⟩⟩ := by
  let call := plainRebindCall prepared.metadata written.protectionKeys
  have boundTo : BoundTo storeCrypto transparentPrivateKey prepared.metadata plainFek
      ⟨plainProbes, plainDevice⟩ call.request.metadata :=
    @SecureStorageService.Prepared.boundTo _ _ _ _ _ _ _ _ stored.file rfl
      (some transparentPrivateKey) rfl
  have wraps (entropy : WrapEntropy) : ∃ wrapped,
      transparentPrivateKey.keyWrapper.wrap entropy plainFek = .ok wrapped := ⟨_, rfl⟩
  obtain ⟨wrappedKey, rewraps⟩ := @BoundTo.rewraps _ rsaSerialization _ _ _ _
    transparent_aesGcmLaws transparentPrivateKey_laws transparent_encryptsAll wraps plainProbes _
    plainRebindEntropy boundTo rfl fun _ => ⟨plainDevice, rfl, rfl⟩
  have keySize : written.protectionKeys.encryptionKey.length = AesCipher.aesKeySizeBytes := by
    rw [stored.keys, stored.file.keys]
    exact plainStoreDraws.keys.encryptionKey.2
  obtain ⟨row, protectedNew⟩ := MetadataProtector.protect_total transparent_encryptsAll keySize
    plainRebindEntropy.nonce (DeviceRebindService.rebound plainProbes call.request wrappedKey)
  have rebound := @DeviceRebindService.rebind_table storeCrypto rsaSerialization plainProbes
    call.request plainRebindEntropy disk (fun _ => none) after wrappedKey row
    (DeviceRebindService.rewrappedKey_eq_ok.mpr ⟨_, _, rewraps⟩) protectedNew rfl
  have result : call.result storeCrypto rsaSerialization
      ⟨disk, .sqlite after, ⟨plainProbes, plainDevice⟩⟩ = _ := rebound
  refine ⟨row, ⟨prepared.protectedMetadata, ?_, ?_⟩, rfl, rfl, ?_, ?_, ?_, rfl⟩
  · rw [stored.fileId]
    exact loaded
  · rw [stored.keys]
    exact MetadataProtector.unprotect_protect transparent_aesGcmLaws stored.file.written
  · rw [result]
  · rw [result]
  · rw [result]

/-- A plain file is stored for the plain device and moved to the other one, where a view of
it is granted. -/
theorem rebinds_move_file_plain :
    ∃ written call table disk bytes metadata,
      (plainStore transparentPrivateKey.keyWrapper true).outcome = .ok written ∧
      (∃ before, (plainStore transparentPrivateKey.keyWrapper true).repository = some before ∧
        Run (RebindStep storeCrypto rsaSerialization transparentPrivateKey
            written.protectionKeys written.fileId)
          ⟨(plainStore transparentPrivateKey.keyWrapper true).disk, .sqlite before,
            ⟨plainProbes, plainDevice⟩⟩ [call]
          ⟨disk, .sqlite table, ⟨plainProbes, otherDevice⟩⟩) ∧
      (SecureAccessService.attemptAccess storeCrypto (movedService table) disk
        (movedAccess written bytes) plainDraws).views = [⟨[104, 105], metadata, .ok ()⟩] ∧
      ∃ outcome, (SecureAccessService.attemptAccess storeCrypto (movedService table) disk
        (movedAccess written bytes) plainDraws).outcome = .ok outcome ∧
          outcome.granted = true := by
  obtain ⟨written, prepared, portableMetadata, bytes, returned, stored⟩ :=
    plainDeviceStore_returns
  obtain ⟨plaintext, readBytes, row, original, table, source, sameId, tableEq, rowLoaded, opened,
      -, moved⟩ := @rebinds_move_file _ rsaSerialization _ _ _ _ transparent_aesGcmLaws
      transparentPrivateKey_laws rfl (some transparentPrivateKey) rfl _ _ _ returned
  obtain rfl := Except.ok.inj source
  obtain ⟨after, afterEq, loaded⟩ := stored.load rfl
  obtain rfl := Option.some.inj (afterEq.symm.trans tableEq)
  rw [stored.fileId] at rowLoaded
  obtain rfl : prepared.protectedMetadata = row := Option.some.inj (loaded.symm.trans rowLoaded)
  obtain rfl := MetadataProtector.eq_of_unprotect_protect transparent_aesGcmLaws
    stored.file.written opened
  obtain ⟨newRow, step⟩ := plainRebindCall_step stored loaded
    (plainStore transparentPrivateKey.keyWrapper true).disk
  obtain ⟨metadata, movedTo⟩ := moved _ _ (.single step)
  have viewable : (plainStoreRequest transparentPrivateKey.keyWrapper true).Viewable :=
    ⟨by decide, fun _ limited => by cases limited⟩
  have viewed := movedTo.viewed viewable _ (plainStore transparentPrivateKey.keyWrapper true).disk
    _ _ (sameId ▸ movedAccess_attempt written readBytes _ _)
  have oneTime : metadata.usagePolicy.oneTimeAccess = true := by
    have same := congrArg (fun record => record.usagePolicy.oneTimeAccess) movedTo.otherFields
    rw [stored.file.metadata] at same
    exact same
  exact ⟨written, _, _, _, readBytes, metadata, returned, ⟨after, afterEq, .single step⟩,
    viewed.views, viewed.granted ⟨(), rfl⟩ (.inr (movedAccess_burns _ _ _ _ oneTime))⟩

end CryptoUsb
