import CryptoUsb.AccessValidation

/-!
# The metadata controller

Records are created, read and updated, and their accesses counted, under the keys of one
protector.  A call that changes a record ends by validating it and saving it encrypted
again; a call that raises has saved nothing.
-/

namespace CryptoUsb

open ByteString IsoDateTime

/-- The random bytes of a call that saves, and the fault of its save. -/
structure ControllerDraws where
  nonce : AesCipher.Nonce
  saveFault : Option WriteFault := none

/-- The arguments of `create`. -/
structure CreateRequest where
  fileId : String
  ownerId : String
  wrappedKey : Bytes
  wrapAlgorithm : String
  integrityHash : String
  expiryRules : Option ExpiryRules := none
  deviceBinding : Option DeviceBinding := none
  usagePolicy : Option UsagePolicy := none

namespace MetadataController

/-! ## The usage rules -/

def enforceExpiry (now : UtcInstant) (metadata : FileMetadata) : Raises Unit :=
  match metadata.expiryRules.expiresAt with
  | none => .ok ()
  | some expiresAt =>
      match expiresAt.lessThan now.1 with
      | none => raise .typeError "can't compare offset-naive and offset-aware datetimes"
      | some true =>
          raise .policyViolationError s!"File {metadata.fileId} expired at {expiresAt.text}"
      | some false => .ok ()

def enforceAccessCount (metadata : FileMetadata) : Raises Unit :=
  match metadata.expiryRules.maxAccessCount with
  | none => .ok ()
  | some maxAccessCount =>
      if maxAccessCount ≤ metadata.accessCount then
        raise .policyViolationError
          s!"File {metadata.fileId} reached its maximum access count ({maxAccessCount})"
      else .ok ()

def enforceReuse (metadata : FileMetadata) : Raises Unit :=
  if metadata.usagePolicy.oneTimeAccess && 1 ≤ metadata.accessCount then
    raise .policyViolationError
      s!"File {metadata.fileId} allows only one-time access and has already been accessed"
  else .ok ()

/-- `enforce_policy`, at the instant `now`. -/
def enforcePolicy (now : UtcInstant) (metadata : FileMetadata) : Raises Unit := do
  enforceExpiry now metadata
  enforceAccessCount metadata
  enforceReuse metadata

/-! ## The calls -/

section Calls

variable (crypto : Cryptography) (keys : MetadataProtectionKeys)

/-- The end of every call that changes a record: validate it, protect it and save it. -/
def store (draws : ControllerDraws) (repository : MetadataRepository) (metadata : FileMetadata) :
    MetadataRepository × Raises FileMetadata :=
  match validate metadata with
  | .error exc => (repository, .error exc)
  | .ok () =>
      match MetadataProtector.protect crypto keys draws.nonce metadata with
      | .error exc => (repository, .error exc)
      | .ok stored =>
          let (repository, saved) := repository.save stored draws.saveFault
          (repository, saved.map fun _ => metadata)

/-- The record that `create` makes. -/
def newRecord (request : CreateRequest) (now : UtcInstant) : FileMetadata where
  fileId := request.fileId
  ownerId := request.ownerId
  wrappedKey := request.wrappedKey
  wrapAlgorithm := request.wrapAlgorithm
  integrityHash := request.integrityHash
  createdAt := now.1
  lastAccessedAt := none
  accessCount := 0
  expiryRules := request.expiryRules.getD {}
  deviceBinding := request.deviceBinding.getD {}
  usagePolicy := request.usagePolicy.getD {}
  metadataVersion := currentMetadataVersion

def create (draws : ControllerDraws) (repository : MetadataRepository) (request : CreateRequest)
    (now : UtcInstant) : MetadataRepository × Raises FileMetadata :=
  store crypto keys draws repository (newRecord request now)

def read (repository : MetadataRepository) (fileId : String) : Raises FileMetadata :=
  match repository.load fileId with
  | none => raise .metadataNotFoundError s!"No metadata found for file_id={fileId}"
  | some stored => do
      let metadata ← MetadataProtector.unprotect crypto keys stored
      validate metadata
      return metadata

/-- A record with one more access, at the second reading of the clock. -/
def accessed (metadata : FileMetadata) (now : UtcInstant) : FileMetadata :=
  { metadata with accessCount := metadata.accessCount + 1, lastAccessedAt := some now.1 }

/-- `record_access`.  The policy is enforced at one reading of the clock, and the access
recorded at the next. -/
def recordAccess (draws : ControllerDraws) (repository : MetadataRepository)
    (policyClock accessClock : UtcInstant) (fileId : String) :
    MetadataRepository × Raises FileMetadata :=
  match (do
      let metadata ← read crypto keys repository fileId
      enforcePolicy policyClock metadata
      return metadata : Raises FileMetadata) with
  | .error exc => (repository, .error exc)
  | .ok metadata => store crypto keys draws repository (accessed metadata accessClock)

end Calls

/-! ## What the calls do -/

section Specifications

variable {crypto : Cryptography} {keys : MetadataProtectionKeys} {draws : ControllerDraws}
  {repository after : MetadataRepository} {metadata : FileMetadata} {fileId : String}

/-- A store that returned has saved the record, and one that raised nothing. -/
theorem store_cases (crypto : Cryptography) (keys : MetadataProtectionKeys)
    (draws : ControllerDraws) (repository : MetadataRepository) (metadata : FileMetadata) :
    (∃ stored, validate metadata = .ok () ∧ draws.saveFault = none ∧
        MetadataProtector.protect crypto keys draws.nonce metadata = .ok stored ∧
        store crypto keys draws repository metadata = (repository.upsert stored, .ok metadata)) ∨
      ∃ exc, store crypto keys draws repository metadata = (repository, .error exc) := by
  unfold store
  cases validate metadata with
  | error exc => exact .inr ⟨exc, rfl⟩
  | ok _ =>
      cases written : MetadataProtector.protect crypto keys draws.nonce metadata with
      | error exc => exact .inr ⟨exc, rfl⟩
      | ok stored =>
          cases fault : draws.saveFault with
          | some fault => exact .inr ⟨_, rfl⟩
          | none => exact .inl ⟨stored, rfl, rfl, rfl, rfl⟩

theorem read_eq_ok : read crypto keys repository fileId = .ok metadata ↔
    ∃ stored, repository.load fileId = some stored ∧
      MetadataProtector.unprotect crypto keys stored = .ok metadata ∧
      validate metadata = .ok () := by
  unfold read
  cases repository.load fileId with
  | none => simp
  | some stored =>
      rw [bind_eq_ok]
      constructor
      · rintro ⟨opened, unprotected, rest⟩
        obtain ⟨_, valid, returned⟩ := bind_eq_ok.mp rest
        obtain rfl := Except.ok.inj returned
        exact ⟨stored, rfl, unprotected, valid⟩
      · rintro ⟨other, same, unprotected, valid⟩
        obtain rfl := Option.some.inj same
        exact ⟨metadata, unprotected, bind_eq_ok.mpr ⟨(), valid, rfl⟩⟩

theorem read_of_stored (laws : crypto.AesGcmLaws) {nonce : AesCipher.Nonce}
    {stored : ProtectedMetadata} (loaded : repository.load fileId = some stored)
    (written : MetadataProtector.protect crypto keys nonce metadata = .ok stored)
    (valid : validate metadata = .ok ()) : read crypto keys repository fileId = .ok metadata :=
  read_eq_ok.mpr ⟨stored, loaded, MetadataProtector.unprotect_protect laws written, valid⟩

theorem enforcePolicy_eq_ok {now : UtcInstant} : enforcePolicy now metadata = .ok () ↔
    ValidationEngine.PolicyHolds now.1 metadata := by
  have expiry : enforceExpiry now metadata = .ok () ↔ ∀ expiresAt,
      metadata.expiryRules.expiresAt = some expiresAt →
        expiresAt.lessThan now.1 = some false := by
    unfold enforceExpiry
    cases metadata.expiryRules.expiresAt with
    | none => simp
    | some expiresAt => rcases compared : expiresAt.lessThan now.1 with _ | (_ | _) <;>
        simp [compared]
  have accessCount : enforceAccessCount metadata = .ok () ↔ ∀ maxAccessCount,
      metadata.expiryRules.maxAccessCount = some maxAccessCount →
        metadata.accessCount < maxAccessCount := by
    unfold enforceAccessCount
    cases metadata.expiryRules.maxAccessCount with
    | none => simp
    | some maxAccessCount =>
        by_cases reached : maxAccessCount ≤ metadata.accessCount
        · simp [reached]
        · simp [reached, Int.not_le.mp reached]
  have reuse : enforceReuse metadata = .ok () ↔
      (metadata.usagePolicy.oneTimeAccess = true → metadata.accessCount < 1) := by
    unfold enforceReuse
    cases metadata.usagePolicy.oneTimeAccess with
    | false => simp
    | true =>
        by_cases used : 1 ≤ metadata.accessCount
        · simp [used]
        · simp [used, Int.not_le.mp used]
  unfold enforcePolicy
  rw [bind_eq_ok]
  constructor
  · rintro ⟨_, notExpired, rest⟩
    obtain ⟨_, withinCount, unused⟩ := bind_eq_ok.mp rest
    exact ⟨expiry.mp notExpired, accessCount.mp withinCount, reuse.mp unused⟩
  · intro holds
    exact ⟨(), expiry.mpr holds.notExpired,
      bind_eq_ok.mpr ⟨(), accessCount.mpr holds.withinCount, reuse.mpr holds.unused⟩⟩

/-- An access that is recorded was allowed, and the record is saved with one access more; an
access that is not recorded changes nothing. -/
theorem recordAccess_cases (crypto : Cryptography) (keys : MetadataProtectionKeys)
    (draws : ControllerDraws) (repository : MetadataRepository)
    (policyClock accessClock : UtcInstant) (fileId : String) :
    (∃ metadata stored, read crypto keys repository fileId = .ok metadata ∧
        ValidationEngine.PolicyHolds policyClock.1 metadata ∧
        validate (accessed metadata accessClock) = .ok () ∧
        MetadataProtector.protect crypto keys draws.nonce (accessed metadata accessClock) =
          .ok stored ∧
        recordAccess crypto keys draws repository policyClock accessClock fileId =
          (repository.upsert stored, .ok (accessed metadata accessClock))) ∨
      ∃ exc, recordAccess crypto keys draws repository policyClock accessClock fileId =
        (repository, .error exc) := by
  unfold recordAccess
  cases found : read crypto keys repository fileId with
  | error exc => exact .inr ⟨exc, rfl⟩
  | ok metadata =>
      cases enforced : enforcePolicy policyClock metadata with
      | error exc => exact .inr ⟨exc, by simp only [ok_bind, enforced, error_bind]⟩
      | ok _ =>
          simp only [ok_bind, enforced]
          rcases store_cases crypto keys draws repository (accessed metadata accessClock) with
            ⟨stored, valid, -, written, saved⟩ | ⟨exc, raised⟩
          · exact .inl ⟨metadata, stored, rfl, enforcePolicy_eq_ok.mp enforced, valid, written,
              saved⟩
          · exact .inr ⟨exc, raised⟩

end Specifications

end MetadataController

end CryptoUsb
