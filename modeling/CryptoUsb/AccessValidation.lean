import CryptoUsb.MetadataStore

/-!
# Access-time validation

Every check that runs before a file may be viewed: authenticity and structure of
the stored record, the hash of the presented bytes, expiry and use counts, and
the device and machine binding.  The results are accumulated in one report; the
main lemmas say exactly when a report is in order.
-/

namespace CryptoUsb

open ByteString IsoDateTime

/-- What a caller presents along with a file: the attached device, its
identifier and descriptor, and the machine. -/
structure PresentedIdentity where
  device : Option USBDevice := none
  usbIdentifier : Option String := none
  machineFingerprint : Option String := none
  hardwareDescriptor : Option HardwareDescriptor := none

/-! ## Device binding -/

namespace DeviceBindingValidator

/-- Every recorded part of the hardware descriptor equals the presented one. -/
def matchesHardware (binding : DeviceBinding) (descriptor : Option HardwareDescriptor) : Bool :=
  match descriptor with
  | none => false
  | some descriptor =>
      (binding.vendorId = none || binding.vendorId = descriptor.vendorId) &&
        (binding.productId = none || binding.productId = descriptor.productId) &&
        (binding.hardwareSerial = none || binding.hardwareSerial = descriptor.hardwareSerial)

def hasDescriptor (binding : DeviceBinding) : Bool :=
  binding.vendorId.isSome || binding.productId.isSome || binding.hardwareSerial.isSome

def unauthorizedReason : String :=
  "Presented USB device does not match the device this file is bound to"

def checkSerial (result : CheckReport) (binding : DeviceBinding) (device : Option USBDevice)
    (serial presented : String) : CheckReport :=
  if serial = presented then result.add .usbIdentifier true
  else
    let labelMatches := device.any fun device => binding.label = some device.label
    let result := result.add .usbIdentifier false
      (some "Presented USB device's identifier does not match the enrolled device")
    if labelMatches then
      result.add .clonedUsb false (some
        "Presented device reports the same volume label but a different physical identifier (possible clone)")
    else result.add .unauthorizedDevice false (some unauthorizedReason)

def checkDescriptor (result : CheckReport) (binding : DeviceBinding)
    (descriptor : Option HardwareDescriptor) : CheckReport :=
  if hasDescriptor binding then
    result.add .hardwareDescriptor (matchesHardware binding descriptor) (some
      "Presented USB device's hardware descriptor (vendor/product/serial) does not match the enrolled device")
  else result

/-- `_check_device`: every USB identity check of a bound file. -/
def checkDevice (result : CheckReport) (binding : DeviceBinding)
    (identity : PresentedIdentity) : CheckReport :=
  match identity.usbIdentifier with
  | none =>
      result.add .unauthorizedDevice false
        (some "No USB device is currently presented, but this file requires one")
  | some presented =>
      match binding.usbSerial with
      | none =>
          -- Bound before a serial was recorded: only the device id is compared.
          let isMatch := binding.deviceId = none || binding.deviceId = some presented
          let result := result.add .usbIdentifier isMatch
            (some "Bound device_id does not match the presented device")
          if isMatch then result
          else result.add .unauthorizedDevice false (some unauthorizedReason)
      | some serial =>
          checkDescriptor (checkSerial result binding identity.device serial presented) binding
            identity.hardwareDescriptor

def checkMachine (result : CheckReport) (binding : DeviceBinding)
    (identity : PresentedIdentity) : CheckReport :=
  match binding.machineFingerprint with
  | none => result
  | some _ =>
      result.add .machineFingerprint (binding.machineFingerprint = identity.machineFingerprint)
        (some "This file is bound to a different machine")

def validate (binding : DeviceBinding) (identity : PresentedIdentity) : CheckReport :=
  let result : CheckReport := if binding.bound then checkDevice .empty binding identity else .empty
  let result := checkMachine result binding identity
  result.add .deviceBinding result.ok

/-- The presented identity satisfies the device half of a binding. -/
def DeviceMatches (binding : DeviceBinding) (identity : PresentedIdentity) : Prop :=
  ∃ presented, identity.usbIdentifier = some presented ∧
    match binding.usbSerial with
    | none => binding.deviceId = none ∨ binding.deviceId = some presented
    | some serial => serial = presented ∧ (hasDescriptor binding = true →
        matchesHardware binding identity.hardwareDescriptor = true)

theorem checkSerial_ok (result : CheckReport) (binding : DeviceBinding)
    (device : Option USBDevice) (serial presented : String) :
    (checkSerial result binding device serial presented).ok = true ↔
      result.ok = true ∧ serial = presented := by
  unfold checkSerial
  split_ifs with same
  · simp [same]
  · simp only [same, and_false, iff_false]
    split_ifs <;> simp

theorem checkDescriptor_ok (result : CheckReport) (binding : DeviceBinding)
    (descriptor : Option HardwareDescriptor) :
    (checkDescriptor result binding descriptor).ok = true ↔ result.ok = true ∧
      (hasDescriptor binding = true → matchesHardware binding descriptor = true) := by
  unfold checkDescriptor
  split_ifs with recorded <;> simp [recorded]

theorem checkDevice_ok (result : CheckReport) (binding : DeviceBinding)
    (identity : PresentedIdentity) :
    (checkDevice result binding identity).ok = true ↔
      result.ok = true ∧ DeviceMatches binding identity := by
  unfold checkDevice DeviceMatches
  cases identity.usbIdentifier with
  | none => simp
  | some presented =>
      cases binding.usbSerial with
      | some serial =>
          simp only [checkDescriptor_ok, checkSerial_ok, Option.some.injEq, exists_eq_left',
            and_assoc]
      | none =>
          simp only [Option.some.injEq, exists_eq_left']
          by_cases isMatch : binding.deviceId = none ∨ binding.deviceId = some presented
          · have decided : (binding.deviceId = none || binding.deviceId = some presented : Bool) =
              true := by simpa using isMatch
            simp [isMatch, decided]
          · have decided : (binding.deviceId = none || binding.deviceId = some presented : Bool) =
              false := by simpa using isMatch
            simp [isMatch, decided]

theorem checkMachine_ok (result : CheckReport) (binding : DeviceBinding)
    (identity : PresentedIdentity) :
    (checkMachine result binding identity).ok = true ↔ result.ok = true ∧
      (binding.machineFingerprint ≠ none →
        binding.machineFingerprint = identity.machineFingerprint) := by
  unfold checkMachine
  cases binding.machineFingerprint <;> simp

/-- Exactly the identities that satisfy both binding axes are accepted. -/
theorem validate_ok (binding : DeviceBinding) (identity : PresentedIdentity) :
    (validate binding identity).ok = true ↔
      (binding.bound = true → DeviceMatches binding identity) ∧
        (binding.machineFingerprint ≠ none →
          binding.machineFingerprint = identity.machineFingerprint) := by
  simp only [validate, CheckReport.add_ok, Bool.and_self, checkMachine_ok]
  cases bound : binding.bound <;> simp [checkDevice_ok]

end DeviceBindingValidator

/-! ## Recorded checks and the verdict -/

namespace CheckReport

/-- `for name, passed in other.checks.items(): report.add(name, passed)`. -/
def addAll (report : CheckReport) (entries : List (Sigma fun _ : CheckName => Bool)) :
    CheckReport :=
  entries.foldl (fun report entry => report.add entry.1 entry.2) report

theorem addAll_ok (report : CheckReport) (entries : List (Sigma fun _ : CheckName => Bool)) :
    (report.addAll entries).ok = true ↔
      report.ok = true ∧ ∀ entry ∈ entries, entry.2 = true := by
  induction entries generalizing report with
  | nil => simp [addAll]
  | cons entry entries ih =>
      rw [addAll, List.foldl_cons, ← addAll, ih]
      simp [and_assoc]

end CheckReport

namespace DeviceBindingValidator

theorem entries_passed (binding : DeviceBinding) (identity : PresentedIdentity) :
    (∀ entry ∈ (validate binding identity).checks.entries, entry.2 = true) ↔
      (validate binding identity).ok = true := by
  constructor
  · intro passed
    have recorded : (validate binding identity).checks.lookup .deviceBinding =
        some (validate binding identity).ok := by
      simp [validate, CheckReport.add]
    have member := AList.mem_lookup_iff.mp recorded
    exact passed _ member
  · intro ok entry member
    exact (validate binding identity).consistent ok entry.1 entry.2
      (AList.mem_lookup_iff.mpr member)

end DeviceBindingValidator

/-! ## The validation engine -/

structure ValidationReport where
  fileId : String
  report : CheckReport := .empty
  metadata : Option FileMetadata := none

namespace ValidationEngine

def checkExpiry (now : DateTime) (report : CheckReport) (rules : ExpiryRules) :
    Raises CheckReport :=
  match rules.expiresAt with
  | none => .ok (report.add .expiry true)
  | some expiresAt =>
      match expiresAt.lessThan now with
      | none => raise .typeError "can't compare offset-naive and offset-aware datetimes"
      | some expired =>
          .ok (report.add .expiry (!expired) (some s!"Access expired at {expiresAt.text}"))

def checkAccessCount (report : CheckReport) (metadata : FileMetadata) : CheckReport :=
  match metadata.expiryRules.maxAccessCount with
  | none => report.add .accessCount true
  | some maxAccessCount =>
      report.add .accessCount (metadata.accessCount < maxAccessCount)
        (some s!"Maximum access count ({maxAccessCount}) reached")

def checkReuse (report : CheckReport) (metadata : FileMetadata) : CheckReport :=
  if metadata.usagePolicy.oneTimeAccess then
    report.add .reusedAccess (metadata.accessCount < 1)
      (some "One-time access has already been used")
  else report.add .reusedAccess true

/-- `_validate_policy`, at the instant `now`. -/
def validatePolicy (now : DateTime) (report : CheckReport) (metadata : FileMetadata) :
    Raises CheckReport := do
  let report ← checkExpiry now report metadata.expiryRules
  return checkReuse (checkAccessCount report metadata) metadata

/-- Merge the result of the binding checks into a report. -/
def mergeBinding (report binding : CheckReport) : CheckReport :=
  let report := report.addAll binding.checks.entries
  { report with
    reasons := binding.reasons.foldl (fun reasons reason =>
      if reason ∈ reasons then reasons else reasons ++ [reason]) report.reasons }

/-- `try: controller.validate(metadata)`. -/
def checkStructure (report : CheckReport) (metadata : FileMetadata) : Raises CheckReport :=
  match MetadataController.validate metadata with
  | .ok () => .ok (report.add .metadataIntegrity true)
  | .error exc =>
      if exc.kind = .metadataValidationError then
        .ok (report.add .metadataIntegrity false
          (some s!"Metadata failed structural validation: {exc.message}"))
      else .error exc

/-- Every check on a record that was unprotected. -/
def checkRecord (crypto : Cryptography) (now : DateTime) (report : CheckReport)
    (metadata : FileMetadata) (encryptedFileBytes : Bytes) (identity : PresentedIdentity) :
    Raises CheckReport := do
  let report ← checkStructure report metadata
  let report := report.add .fileIntegrity
    (verifyIntegrityHash crypto encryptedFileBytes metadata.integrityHash)
    (some "Encrypted file content does not match its stored integrity hash")
  let report ← validatePolicy now report metadata
  return mergeBinding report (DeviceBindingValidator.validate metadata.deviceBinding identity)

/-- `ValidationEngine.validate`. -/
def validate (crypto : Cryptography) (repository : Repository) (keys : MetadataProtectionKeys)
    (now : DateTime) (fileId : String) (encryptedFileBytes : Bytes)
    (identity : PresentedIdentity) : Raises ValidationReport :=
  match repository.load fileId with
  | none =>
      .ok { fileId, report := CheckReport.empty.add .metadataPresent false
              (some s!"No metadata found for file_id={fileId}") }
  | some stored =>
      let report := CheckReport.empty.add .metadataPresent true
      match MetadataProtector.unprotect crypto keys stored with
      | .error exc =>
          if exc.kind = .metadataTamperError then
            .ok { fileId, report := report.add .hmac false
                    (some s!"Metadata failed HMAC/integrity check: {exc.message}") }
          else .error exc
      | .ok metadata => do
          let report ← checkRecord crypto now (report.add .hmac true) metadata
            encryptedFileBytes identity
          return { fileId, report, metadata := some metadata }

/-- The usage rules hold at an instant. -/
structure PolicyHolds (now : DateTime) (metadata : FileMetadata) : Prop where
  notExpired : ∀ expiresAt, metadata.expiryRules.expiresAt = some expiresAt →
    expiresAt.lessThan now = some false
  withinCount : ∀ maxAccessCount, metadata.expiryRules.maxAccessCount = some maxAccessCount →
    metadata.accessCount < maxAccessCount
  unused : metadata.usagePolicy.oneTimeAccess = true → metadata.accessCount < 1

/-- All that a passed validation established about a record. -/
structure RecordAccepted (crypto : Cryptography) (now : DateTime) (metadata : FileMetadata)
    (encryptedFileBytes : Bytes) (identity : PresentedIdentity) : Prop where
  structurallyValid : MetadataController.validate metadata = .ok ()
  intact : verifyIntegrityHash crypto encryptedFileBytes metadata.integrityHash = true
  policy : PolicyHolds now metadata
  binding : (DeviceBindingValidator.validate metadata.deviceBinding identity).ok = true

theorem mergeBinding_ok (report : CheckReport) (binding : DeviceBinding)
    (identity : PresentedIdentity) :
    (mergeBinding report (DeviceBindingValidator.validate binding identity)).ok = true ↔
      report.ok = true ∧ (DeviceBindingValidator.validate binding identity).ok = true := by
  simp only [mergeBinding, CheckReport.addAll_ok, DeviceBindingValidator.entries_passed]

theorem checkExpiry_ok {now : DateTime} {report : CheckReport} {rules : ExpiryRules} :
    (∃ result, checkExpiry now report rules = .ok result ∧ result.ok = true) ↔
      report.ok = true ∧ ∀ expiresAt, rules.expiresAt = some expiresAt →
        expiresAt.lessThan now = some false := by
  unfold checkExpiry
  cases rules.expiresAt with
  | none => simp
  | some expiresAt => rcases compared : expiresAt.lessThan now with _ | (_ | _) <;> simp [compared]

theorem checkAccessCount_ok (report : CheckReport) (metadata : FileMetadata) :
    (checkAccessCount report metadata).ok = true ↔ report.ok = true ∧
      ∀ maxAccessCount, metadata.expiryRules.maxAccessCount = some maxAccessCount →
        metadata.accessCount < maxAccessCount := by
  unfold checkAccessCount
  cases metadata.expiryRules.maxAccessCount <;> simp

theorem checkReuse_ok (report : CheckReport) (metadata : FileMetadata) :
    (checkReuse report metadata).ok = true ↔ report.ok = true ∧
      (metadata.usagePolicy.oneTimeAccess = true → metadata.accessCount < 1) := by
  unfold checkReuse
  split_ifs with oneTime <;> simp [oneTime]

/-- The policy checks pass exactly when the usage rules hold. -/
theorem validatePolicy_ok {now : DateTime} {report : CheckReport} {metadata : FileMetadata} :
    (∃ result, validatePolicy now report metadata = .ok result ∧ result.ok = true) ↔
      report.ok = true ∧ PolicyHolds now metadata := by
  constructor
  · rintro ⟨result, validated, ok⟩
    obtain ⟨afterExpiry, checked, written⟩ := bind_eq_ok.mp validated
    obtain rfl := Except.ok.inj written
    obtain ⟨countOk, unused⟩ := (checkReuse_ok _ _).mp ok
    obtain ⟨expiryOk, withinCount⟩ := (checkAccessCount_ok _ _).mp countOk
    obtain ⟨reportOk, notExpired⟩ := checkExpiry_ok.mp ⟨afterExpiry, checked, expiryOk⟩
    exact ⟨reportOk, ⟨notExpired, withinCount, unused⟩⟩
  · rintro ⟨reportOk, holds⟩
    obtain ⟨afterExpiry, checked, expiryOk⟩ := checkExpiry_ok.mpr ⟨reportOk, holds.notExpired⟩
    exact ⟨_, bind_eq_ok.mpr ⟨afterExpiry, checked, rfl⟩, (checkReuse_ok _ _).mpr
      ⟨(checkAccessCount_ok _ _).mpr ⟨expiryOk, holds.withinCount⟩, holds.unused⟩⟩

theorem checkStructure_ok {report : CheckReport} {metadata : FileMetadata} :
    (∃ result, checkStructure report metadata = .ok result ∧ result.ok = true) ↔
      report.ok = true ∧ MetadataController.validate metadata = .ok () := by
  unfold checkStructure
  cases MetadataController.validate metadata with
  | ok _ => simp
  | error exc =>
      by_cases structural : exc.kind = .metadataValidationError <;> simp [structural]

/-- The checks on a record all pass exactly when the record is accepted. -/
theorem checkRecord_ok {crypto : Cryptography} {now : DateTime} {report : CheckReport}
    {metadata : FileMetadata} {encryptedFileBytes : Bytes} {identity : PresentedIdentity} :
    (∃ result, checkRecord crypto now report metadata encryptedFileBytes identity = .ok result ∧
        result.ok = true) ↔
      report.ok = true ∧ RecordAccepted crypto now metadata encryptedFileBytes identity := by
  constructor
  · rintro ⟨result, checked, ok⟩
    obtain ⟨afterStructure, structureChecked, rest⟩ := bind_eq_ok.mp checked
    obtain ⟨afterPolicy, policyChecked, written⟩ := bind_eq_ok.mp rest
    obtain rfl := Except.ok.inj written
    obtain ⟨policyOk, binding⟩ := (mergeBinding_ok _ _ _).mp ok
    obtain ⟨hashOk, policy⟩ := validatePolicy_ok.mp ⟨afterPolicy, policyChecked, policyOk⟩
    rw [CheckReport.add_ok, Bool.and_eq_true] at hashOk
    obtain ⟨reportOk, valid⟩ := checkStructure_ok.mp ⟨afterStructure, structureChecked, hashOk.1⟩
    exact ⟨reportOk, ⟨valid, hashOk.2, policy, binding⟩⟩
  · rintro ⟨reportOk, accepted⟩
    obtain ⟨afterStructure, structureChecked, structureOk⟩ :=
      checkStructure_ok.mpr ⟨reportOk, accepted.structurallyValid⟩
    have hashOk : (afterStructure.add .fileIntegrity
        (verifyIntegrityHash crypto encryptedFileBytes metadata.integrityHash)
        (some "Encrypted file content does not match its stored integrity hash")).ok = true := by
      rw [CheckReport.add_ok, structureOk, accepted.intact, Bool.and_self]
    obtain ⟨afterPolicy, policyChecked, policyOk⟩ :=
      validatePolicy_ok.mpr ⟨hashOk, accepted.policy⟩
    exact ⟨_, bind_eq_ok.mpr ⟨afterStructure, structureChecked,
      bind_eq_ok.mpr ⟨afterPolicy, policyChecked, rfl⟩⟩,
      (mergeBinding_ok _ _ _).mpr ⟨policyOk, accepted.binding⟩⟩

/-- A report is in order exactly when the stored record was unprotected and
accepted. -/
theorem validate_ok {crypto : Cryptography} {repository : Repository}
    {keys : MetadataProtectionKeys} {now : DateTime} {fileId : String}
    {encryptedFileBytes : Bytes} {identity : PresentedIdentity} {metadata : FileMetadata} :
    (∃ report, validate crypto repository keys now fileId encryptedFileBytes identity =
        .ok report ∧ report.report.ok = true ∧ report.metadata = some metadata) ↔
      ∃ stored, repository.load fileId = some stored ∧
        MetadataProtector.unprotect crypto keys stored = .ok metadata ∧
        RecordAccepted crypto now metadata encryptedFileBytes identity := by
  unfold validate
  cases repository.load fileId with
  | none => simp
  | some stored =>
      simp only [Option.some.injEq, exists_eq_left']
      cases MetadataProtector.unprotect crypto keys stored with
      | error exc =>
          by_cases tampered : exc.kind = .metadataTamperError <;> simp [tampered]
      | ok read =>
          simp only [bind_eq_ok, pure_eq_ok, Except.ok.injEq]
          constructor
          · rintro ⟨_, ⟨checked, checkedEq, rfl⟩, ok, sameMetadata⟩
            obtain rfl := Option.some.inj sameMetadata
            exact ⟨rfl, (checkRecord_ok.mp ⟨checked, checkedEq, ok⟩).2⟩
          · rintro ⟨rfl, accepted⟩
            have reportOk : ((CheckReport.empty.add .metadataPresent true).add .hmac true).ok =
              true := rfl
            obtain ⟨checked, checkedEq, ok⟩ := checkRecord_ok.mpr ⟨reportOk, accepted⟩
            exact ⟨_, ⟨checked, checkedEq, rfl⟩, ok, rfl⟩

/-- A report in order carries the metadata it accepted. -/
theorem metadata_of_ok {crypto : Cryptography} {repository : Repository}
    {keys : MetadataProtectionKeys} {now : DateTime} {fileId : String}
    {encryptedFileBytes : Bytes} {identity : PresentedIdentity} {report : ValidationReport}
    (validated : validate crypto repository keys now fileId encryptedFileBytes identity =
      .ok report) (ok : report.report.ok = true) :
    ∃ metadata, report.metadata = some metadata := by
  unfold validate at validated
  split at validated
  · obtain rfl := Except.ok.inj validated
    simp at ok
  · split at validated
    · split_ifs at validated
      obtain rfl := Except.ok.inj validated
      simp at ok
    · obtain ⟨checked, -, written⟩ := bind_eq_ok.mp validated
      obtain rfl := Except.ok.inj written
      exact ⟨_, rfl⟩

end ValidationEngine

end CryptoUsb
