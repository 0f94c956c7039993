import CryptoUsb.GrantSoundness
import CryptoUsb.SecureStorage

/-!
# The device policy and the device key

Whether a presented device is the one a file is bound to is decided twice.  The
policy skips the parts of the hardware descriptor that were not recorded; the
key takes a missing part in as empty text.  For an identity that the policy
accepts, the keys agree exactly when no part is presented that was not recorded.
-/

namespace CryptoUsb

open ByteString

/-- A part that was not recorded is not presented either. -/
def PartNotAdded (recorded : Option String) (part : HardwareDescriptor → Option String)
    (presented : Option HardwareDescriptor) : Prop :=
  recorded = none → (part (presented.getD {})).getD "" = ""

/-- The presented descriptor has no part that the record lacks. -/
structure NoPartAdded (binding : DeviceBinding) (presented : Option HardwareDescriptor) :
    Prop where
  vendorId : PartNotAdded binding.vendorId HardwareDescriptor.vendorId presented
  productId : PartNotAdded binding.productId HardwareDescriptor.productId presented
  hardwareSerial : PartNotAdded binding.hardwareSerial HardwareDescriptor.hardwareSerial presented

/-- The device keys of two fingerprint materials differ when the materials do. -/
def Cryptography.SeparatesDevices (crypto : Cryptography) (first second : Bytes) : Prop :=
  deriveDeviceBindingKey crypto first = deriveDeviceBindingKey crypto second → first = second

/-! ## Fingerprint material -/

/-- The characters of the four parts of a device's fingerprint. -/
def fingerprintCharacters (serial vendorId productId hardwareSerial : String) : List Char :=
  serial.toList ++ '|' :: (vendorId.toList ++ '|' ::
    (productId.toList ++ '|' :: hardwareSerial.toList))

theorem deviceFingerprintMaterial_eq_iff {serial otherSerial : Option String}
    {descriptor otherDescriptor : Option HardwareDescriptor} :
    deviceFingerprintMaterial serial descriptor =
        deviceFingerprintMaterial otherSerial otherDescriptor ↔
      fingerprintCharacters (serial.getD "") ((descriptor.getD {}).vendorId.getD "")
          ((descriptor.getD {}).productId.getD "") ((descriptor.getD {}).hardwareSerial.getD "") =
        fingerprintCharacters (otherSerial.getD "")
          ((otherDescriptor.getD {}).vendorId.getD "")
          ((otherDescriptor.getD {}).productId.getD "")
          ((otherDescriptor.getD {}).hardwareSerial.getD "") := by
  have characters (serial vendorId productId hardwareSerial : String) :
      (String.intercalate "|" [serial, vendorId, productId, hardwareSerial]).toList =
        fingerprintCharacters serial vendorId productId hardwareSerial := by
    simp [fingerprintCharacters]
  rw [deviceFingerprintMaterial, deviceFingerprintMaterial, encodeUtf8_injective.eq_iff,
    ← String.toList_inj, characters, characters]

/-- Of a matching part, the recorded text is no longer than the presented one, and
as long only if nothing was added. -/
theorem PartMatches.length_le {recorded : Option String}
    {part : HardwareDescriptor → Option String} {presented : Option HardwareDescriptor}
    (matching : PartMatches recorded part presented) :
    (recorded.getD "").length ≤ ((part (presented.getD {})).getD "").length ∧
      ((recorded.getD "").length = ((part (presented.getD {})).getD "").length →
        PartNotAdded recorded part presented) := by
  cases recorded with
  | none =>
      refine ⟨Nat.zero_le _, fun sameLength _ => ?_⟩
      exact String.length_eq_zero_iff.mp sameLength.symm
  | some value =>
      obtain ⟨descriptor, rfl, same⟩ := matching value rfl
      refine ⟨?_, fun _ absent => by cases absent⟩
      simp [same]

theorem PartMatches.text_eq {recorded : Option String}
    {part : HardwareDescriptor → Option String} {presented : Option HardwareDescriptor}
    (matching : PartMatches recorded part presented)
    (notAdded : PartNotAdded recorded part presented) :
    (part (presented.getD {})).getD "" = recorded.getD "" := by
  cases recorded with
  | none => exact notAdded rfl
  | some value =>
      obtain ⟨descriptor, rfl, same⟩ := matching value rfl
      simp [same]

namespace SecureStorageService

variable {crypto : Cryptography} {probes : HostProbes} {device : USBDevice}
  {identity : PresentedIdentity}

/-- The material of an accepted identity is that of the enrolled device exactly
when no part was added. -/
theorem material_eq_iff {machineFingerprint : Option String}
    (presented : DevicePresented (recordedDevice probes device machineFingerprint) identity) :
    deviceFingerprintMaterial identity.usbIdentifier identity.hardwareDescriptor =
        deviceFingerprintMaterial (some (computeUsbIdentifier probes device))
          (computeHardwareDescriptor probes device) ↔
      NoPartAdded (recordedDevice probes device machineFingerprint)
        identity.hardwareDescriptor := by
  have recordedText (part : HardwareDescriptor → Option String) (absent : part {} = none) :
      (part ((computeHardwareDescriptor probes device).getD {})).getD "" =
        ((computeHardwareDescriptor probes device).bind part).getD "" := by
    cases computeHardwareDescriptor probes device <;> simp [absent]
  rw [deviceFingerprintMaterial_eq_iff, presented.serial,
    recordedText HardwareDescriptor.vendorId rfl, recordedText HardwareDescriptor.productId rfl,
    recordedText HardwareDescriptor.hardwareSerial rfl]
  constructor
  · intro same
    obtain ⟨vendorLe, vendor⟩ := presented.vendorId.length_le
    obtain ⟨productLe, product⟩ := presented.productId.length_le
    obtain ⟨serialLe, serial⟩ := presented.hardwareSerial.length_le
    have lengths := congrArg List.length same
    simp only [fingerprintCharacters, recordedDevice, List.length_append, List.length_cons,
      String.length_toList, Option.getD_some] at lengths vendorLe productLe serialLe
    simp only [recordedDevice] at vendor product serial
    exact ⟨vendor (by omega), product (by omega), serial (by omega)⟩
  · intro notAdded
    rw [presented.vendorId.text_eq notAdded.vendorId,
      presented.productId.text_eq notAdded.productId,
      presented.hardwareSerial.text_eq notAdded.hardwareSerial]
    rfl

variable {request : StoreRequest} {draws : StoreDraws} {prepared : PreparedFile}
  {plaintext bytes : Bytes}

theorem Prepared.deviceBinding (file : Prepared crypto probes request draws prepared plaintext
      bytes) (bound : request.bindDevice = true) (machineFree : request.machineBinding = .none) :
    prepared.metadata.deviceBinding = recordedDevice probes request.device none := by
  rw [file.metadata]
  simp [storeBinding, bound, machineFree, recordedMachine]

/-- For an accepted identity the device keys agree exactly when no part was added. -/
theorem Prepared.deviceKey_eq_iff
    (file : Prepared crypto probes request draws prepared plaintext bytes)
    (bound : request.bindDevice = true) (machineFree : request.machineBinding = .none)
    (separates : crypto.SeparatesDevices
      (deviceFingerprintMaterial identity.usbIdentifier identity.hardwareDescriptor)
      (deviceFingerprintMaterial (some (computeUsbIdentifier probes request.device))
        (computeHardwareDescriptor probes request.device)))
    (accepted : (DeviceBindingValidator.validate prepared.metadata.deviceBinding identity).ok =
      true) :
    deriveDeviceBindingKey crypto
        (deviceFingerprintMaterial identity.usbIdentifier identity.hardwareDescriptor) =
          deviceKey crypto probes request.device ↔
      NoPartAdded prepared.metadata.deviceBinding identity.hardwareDescriptor := by
  rw [file.deviceBinding bound machineFree] at accepted ⊢
  have deviceMatches := ((DeviceBindingValidator.validate_ok _ _).mp accepted).1 rfl
  have presented := DeviceBindingValidator.devicePresented_of_matches deviceMatches nofun
  rw [← material_eq_iff presented]
  constructor
  · exact separates
  · intro same
    rw [same]
    rfl

/-- An accepted identity unwraps the key of the file exactly when no part was
added. -/
theorem Prepared.unwraps_iff (laws : crypto.AesGcmLaws)
    (undoes : request.keyWrapper.UndoesWrap)
    (file : Prepared crypto probes request draws prepared plaintext bytes)
    (bound : request.bindDevice = true) (machineFree : request.machineBinding = .none)
    (separates : crypto.SeparatesDevices
      (deviceFingerprintMaterial identity.usbIdentifier identity.hardwareDescriptor)
      (deviceFingerprintMaterial (some (computeUsbIdentifier probes request.device))
        (computeHardwareDescriptor probes request.device)))
    (accepted : (DeviceBindingValidator.validate prepared.metadata.deviceBinding identity).ok =
      true) :
    (SecureAccessService.effectiveWrapper crypto request.keyWrapper
        prepared.metadata.deviceBinding identity).unwrap prepared.metadata.wrappedKey =
          .ok draws.encrypt.fek.1 ↔
      NoPartAdded prepared.metadata.deviceBinding identity.hardwareDescriptor := by
  have wrapped := file.wrapped
  rw [storeWrapper, if_pos ⟨bound, machineFree⟩] at wrapped
  rw [← file.deviceKey_eq_iff bound machineFree separates accepted]
  rw [SecureAccessService.effectiveWrapper, file.deviceBinding bound machineFree, if_pos (by rfl)]
  constructor
  · exact deviceKey_eq_of_unwrap laws wrapped
  · intro sameKey
    rw [sameKey]
    exact deviceBound_undoesWrap laws undoes _ _ _ wrapped

/-- Of a stored file bound to its device alone, whatever identity the policy
accepts, the presented device key is the one the file was stored with exactly when
no part of the descriptor is presented that was missing at the time of the store. -/
theorem deviceKey_agrees_iff (laws : crypto.AesGcmLaws) {disk : Disk}
    {repository : Option MetadataRepository} {written : SecureWriteResult}
    (returned : (storeFile crypto probes request draws disk repository).outcome = .ok written)
    (bound : request.bindDevice = true) (machineFree : request.machineBinding = .none)
    {container : SecureContainer} {metadata : FileMetadata}
    (read : SecureStorageWriter.readContainer crypto
      (storeFile crypto probes request draws disk repository).disk written.destination =
        .ok container)
    (unprotected : MetadataProtector.unprotect crypto written.protectionKeys
      container.protectedMetadata = .ok metadata)
    (identity : PresentedIdentity)
    (separates : crypto.SeparatesDevices
      (deviceFingerprintMaterial identity.usbIdentifier identity.hardwareDescriptor)
      (deviceFingerprintMaterial (some (computeUsbIdentifier probes request.device))
        (computeHardwareDescriptor probes request.device)))
    (accepted : (DeviceBindingValidator.validate metadata.deviceBinding identity).ok = true) :
    deriveDeviceBindingKey crypto
        (deviceFingerprintMaterial identity.usbIdentifier identity.hardwareDescriptor) =
          deviceKey crypto probes request.device ↔
      NoPartAdded metadata.deviceBinding identity.hardwareDescriptor := by
  obtain ⟨prepared, portableMetadata, plaintext, bytes, stored⟩ := storeFile_returns returned
  obtain rfl := Except.ok.inj (read.symm.trans stored.readContainer)
  obtain rfl := MetadataProtector.eq_of_unprotect_protect laws stored.file.written unprotected
  exact stored.file.deviceKey_eq_iff bound machineFree separates accepted

end SecureStorageService

/-! ## A serial number that was not told at the time of the store -/

/-- The enrolled device on a machine that reads its serial number. -/
def laterIdentity : PresentedIdentity where
  usbIdentifier := some (computeUsbIdentifier plainProbes plainDevice)
  hardwareDescriptor := some { hardwareSerial := some "4C5300" }

private theorem laterKey_ne :
    deriveDeviceBindingKey storeCrypto
        (deviceFingerprintMaterial laterIdentity.usbIdentifier
          laterIdentity.hardwareDescriptor) ≠
      SecureStorageService.deviceKey storeCrypto plainProbes plainDevice := by
  decide +kernel

private theorem laterIdentity_accepted :
    (DeviceBindingValidator.validate
      (SecureStorageService.recordedDevice plainProbes plainDevice none) laterIdentity).ok =
        true :=
  (DeviceBindingValidator.validate_ok _ _).mpr
    ⟨fun _ => ⟨_, rfl, rfl, nofun⟩, nofun⟩

/-- The plain store with what is read back from it. -/
private theorem plainStore_read :
    ∃ written container metadata,
      (plainStore (transparentWrapper 1) true).outcome = .ok written ∧
      SecureStorageWriter.readContainer storeCrypto
        (plainStore (transparentWrapper 1) true).disk written.destination = .ok container ∧
      MetadataProtector.unprotect storeCrypto written.protectionKeys
        container.protectedMetadata = .ok metadata ∧
      (DeviceBindingValidator.validate metadata.deviceBinding laterIdentity).ok = true := by
  obtain ⟨written, prepared, portableMetadata, bytes, returned, stored⟩ :=
    plainStore_returns_transparent true
  refine ⟨written, _, prepared.metadata, returned, stored.readContainer, ?_, ?_⟩
  · rw [stored.keys]
    exact MetadataProtector.unprotect_protect transparent_aesGcmLaws stored.file.written
  · rw [stored.file.deviceBinding rfl rfl]
    exact laterIdentity_accepted

/-- The policy accepts the device with its serial number, which the key does not. -/
theorem accepted_with_other_key :
    ∃ written container metadata,
      (plainStore (transparentWrapper 1) true).outcome = .ok written ∧
      SecureStorageWriter.readContainer storeCrypto
        (plainStore (transparentWrapper 1) true).disk written.destination = .ok container ∧
      MetadataProtector.unprotect storeCrypto written.protectionKeys
        container.protectedMetadata = .ok metadata ∧
      (DeviceBindingValidator.validate metadata.deviceBinding laterIdentity).ok = true ∧
      deriveDeviceBindingKey storeCrypto
          (deviceFingerprintMaterial laterIdentity.usbIdentifier
            laterIdentity.hardwareDescriptor) ≠
        SecureStorageService.deviceKey storeCrypto plainProbes plainDevice := by
  obtain ⟨written, container, metadata, returned, read, unprotected, accepted⟩ :=
    plainStore_read
  exact ⟨written, container, metadata, returned, read, unprotected, accepted, laterKey_ne⟩

theorem deviceKey_agrees_iff_plain :
    ∃ written container metadata,
      (plainStore (transparentWrapper 1) true).outcome = .ok written ∧
      SecureStorageWriter.readContainer storeCrypto
        (plainStore (transparentWrapper 1) true).disk written.destination = .ok container ∧
      MetadataProtector.unprotect storeCrypto written.protectionKeys
        container.protectedMetadata = .ok metadata ∧
      (deriveDeviceBindingKey storeCrypto
          (deviceFingerprintMaterial laterIdentity.usbIdentifier
            laterIdentity.hardwareDescriptor) =
          SecureStorageService.deviceKey storeCrypto plainProbes plainDevice ↔
        NoPartAdded metadata.deviceBinding laterIdentity.hardwareDescriptor) := by
  obtain ⟨written, container, metadata, returned, read, unprotected, accepted⟩ :=
    plainStore_read
  exact ⟨written, container, metadata, returned, read, unprotected,
    SecureStorageService.deviceKey_agrees_iff transparent_aesGcmLaws returned rfl rfl read
      unprotected laterIdentity (fun same => absurd same laterKey_ne) accepted⟩

end CryptoUsb
