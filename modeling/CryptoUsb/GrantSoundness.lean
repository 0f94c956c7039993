import CryptoUsb.SecureAccess

/-!
# Soundness of grants

A view is justified when the throttle, the stored record, the presented bytes,
the clock and the presented identity all allow it, and its buffer is what the
record's key decrypts.  An attempt makes at most one view, and only a justified
one.
-/

namespace CryptoUsb

open ByteString IsoDateTime

/-- A recorded part of a descriptor equals the presented one. -/
def PartMatches (recorded : Option String) (part : HardwareDescriptor → Option String)
    (presented : Option HardwareDescriptor) : Prop :=
  ∀ value, recorded = some value →
    ∃ descriptor, presented = some descriptor ∧ part descriptor = some value

/-- The presented device is the one a record is bound to. -/
structure DevicePresented (binding : DeviceBinding) (identity : PresentedIdentity) : Prop where
  serial : identity.usbIdentifier = binding.usbSerial
  vendorId : PartMatches binding.vendorId HardwareDescriptor.vendorId identity.hardwareDescriptor
  productId : PartMatches binding.productId HardwareDescriptor.productId
    identity.hardwareDescriptor
  hardwareSerial : PartMatches binding.hardwareSerial HardwareDescriptor.hardwareSerial
    identity.hardwareDescriptor

/-- Everything that makes a view legitimate at the moment of its attempt. -/
structure Justified (crypto : Cryptography) (service : SecureAccessService)
    (request : AccessRequest) (draws : AccessDraws) (view : View) : Prop where
  notForced : request.forceDeception = false
  notThrottled : service.throttle.isLocked draws.throttleClock request.fileId = false
  recorded : ∃ repository stored, service.repository = some repository ∧
    repository.load request.fileId = some stored ∧
    MetadataProtector.unprotect crypto request.protectionKeys stored = .ok view.metadata
  valid : MetadataController.validate view.metadata = .ok ()
  hash : decodeHex view.metadata.integrityHash =
    some (crypto.sha256 request.encryptedFileBytes).1
  notExpired : ∀ expiresAt, view.metadata.expiryRules.expiresAt = some expiresAt →
    expiresAt.lessThan draws.validationClock.1 = some false
  withinCount : ∀ maxAccessCount,
    view.metadata.expiryRules.maxAccessCount = some maxAccessCount →
      view.metadata.accessCount < maxAccessCount
  unused : view.metadata.usagePolicy.oneTimeAccess = true → view.metadata.accessCount < 1
  device : view.metadata.deviceBinding.bound = true →
    view.metadata.deviceBinding.usbSerial ≠ none →
      DevicePresented view.metadata.deviceBinding request.identity
  machine : view.metadata.deviceBinding.machineFingerprint ≠ none →
    request.identity.machineFingerprint = view.metadata.deviceBinding.machineFingerprint
  decrypted : ∃ container fek, EncryptedContainer.deserialize request.encryptedFileBytes =
      .ok container ∧
    (SecureAccessService.effectiveWrapper crypto request.keyWrapper view.metadata.deviceBinding
      request.identity).unwrap view.metadata.wrappedKey = .ok fek ∧
    AesCipher.decrypt crypto container.nonce container.ciphertext fek = .ok view.buffer

namespace DeviceBindingValidator

/-- A descriptor check that passes has compared every recorded part. -/
theorem matchesHardware_parts {binding : DeviceBinding}
    {presented : Option HardwareDescriptor} (checked : matchesHardware binding presented = true) :
    PartMatches binding.vendorId HardwareDescriptor.vendorId presented ∧
      PartMatches binding.productId HardwareDescriptor.productId presented ∧
      PartMatches binding.hardwareSerial HardwareDescriptor.hardwareSerial presented := by
  cases presented with
  | none => simp [matchesHardware] at checked
  | some descriptor =>
      simp only [matchesHardware, Bool.and_eq_true, Bool.or_eq_true, decide_eq_true_eq] at checked
      obtain ⟨⟨vendorId, productId⟩, hardwareSerial⟩ := checked
      have part {recorded present : Option String} {read : HardwareDescriptor → Option String}
          (compared : recorded = none ∨ recorded = present) (same : read descriptor = present) :
          PartMatches recorded read (some descriptor) := by
        rintro value rfl
        rcases compared with absent | rfl
        · cases absent
        · exact ⟨descriptor, rfl, same⟩
      exact ⟨part vendorId rfl, part productId rfl, part hardwareSerial rfl⟩

theorem devicePresented_of_matches {binding : DeviceBinding} {identity : PresentedIdentity}
    (deviceMatches : DeviceMatches binding identity) (recorded : binding.usbSerial ≠ none) :
    DevicePresented binding identity := by
  obtain ⟨presented, identified, compared⟩ := deviceMatches
  obtain ⟨serial, serialEq⟩ := Option.ne_none_iff_exists'.mp recorded
  rw [serialEq] at compared
  obtain ⟨rfl, described⟩ := compared
  have serialMatches : identity.usbIdentifier = binding.usbSerial := identified.trans serialEq.symm
  by_cases hasParts : hasDescriptor binding = true
  · obtain ⟨vendorId, productId, hardwareSerial⟩ := matchesHardware_parts (described hasParts)
    exact ⟨serialMatches, vendorId, productId, hardwareSerial⟩
  · simp only [hasDescriptor, Bool.or_eq_true, not_or, Bool.not_eq_true,
      Option.isSome_eq_false_iff, Option.isNone_iff_eq_none] at hasParts
    obtain ⟨⟨vendorId, productId⟩, hardwareSerial⟩ := hasParts
    refine ⟨serialMatches, ?_, ?_, ?_⟩ <;> intro value found <;> simp_all

end DeviceBindingValidator

namespace SecureAccessService

variable {crypto : Cryptography} {service : SecureAccessService} {request : AccessRequest}
  {draws : AccessDraws} {metadata : FileMetadata} {plaintext : Bytes}

/-- Whatever lets an attempt come to a view justifies the view. -/
theorem justified_of_grant (returned : Raises Unit)
    (grant : Grant crypto service request draws metadata plaintext) :
    Justified crypto service request draws ⟨plaintext, metadata, returned⟩ := by
  obtain ⟨container, read, opened⟩ := grant.decrypted
  obtain ⟨fek, unwrapped, decrypted⟩ := FileEncryptor.decryptBytes_eq_ok.mp opened
  obtain ⟨device, machine⟩ :=
    (DeviceBindingValidator.validate_ok _ _).mp grant.accepted.binding
  exact {
    notForced := grant.notForced
    notThrottled := grant.notThrottled
    recorded := grant.recorded
    valid := grant.accepted.structurallyValid
    hash := decodeHex_of_verifyIntegrityHash grant.accepted.intact
    notExpired := grant.accepted.policy.notExpired
    withinCount := grant.accepted.policy.withinCount
    unused := grant.accepted.policy.unused
    device := fun bound recorded =>
      DeviceBindingValidator.devicePresented_of_matches (device bound) recorded
    machine := fun recorded => (machine recorded).symm
    decrypted := ⟨container, fek, read, unwrapped, decrypted⟩ }

/-- An attempt makes at most one view, and every view it makes is justified. -/
theorem attemptAccess_views_justified (crypto : Cryptography) (service : SecureAccessService)
    (disk : Disk) (request : AccessRequest) (draws : AccessDraws) :
    (attemptAccess crypto service disk request draws).views.length ≤ 1 ∧
      ∀ view ∈ (attemptAccess crypto service disk request draws).views,
        Justified crypto service request draws view := by
  rcases attemptAccess_cases crypto service disk request draws with
    ⟨metadata, plaintext, grant, attempted⟩ | idle
  · rw [attempted, viewed_views]
    refine ⟨le_rfl, fun view member => ?_⟩
    obtain rfl := List.mem_singleton.mp member
    exact justified_of_grant _ grant
  · rw [idle.views]
    exact ⟨Nat.zero_le 1, fun view member => absurd member List.not_mem_nil⟩

end SecureAccessService

end CryptoUsb
