import CryptoUsb.JsonFields

/-!
# File metadata

The plaintext record of everything tracked about a protected file, and its
dictionary form.  Reading the dictionary form of a record gives the record
back.
-/

namespace CryptoUsb

open ByteString JsonText IsoDateTime Base64Text

def currentMetadataVersion : Int := 1

/-- The machine-binding half of the two binding axes. -/
inductive MachineBindingMode
  | none
  | current
  | specific
  deriving DecidableEq, Repr

@[ext]
structure ExpiryRules where
  expiresAt : Option DateTime := none
  maxAccessCount : Option Int := none
  deriving DecidableEq, Repr

@[ext]
structure DeviceBinding where
  deviceId : Option String := none
  label : Option String := none
  bound : Bool := false
  usbSerial : Option String := none
  machineFingerprint : Option String := none
  vendorId : Option String := none
  productId : Option String := none
  hardwareSerial : Option String := none
  deriving DecidableEq, Repr

@[ext]
structure UsagePolicy where
  oneTimeAccess : Bool := false
  allowMultipleDevices : Bool := true
  notes : Option String := none
  deriving DecidableEq, Repr

@[ext]
structure FileMetadata where
  fileId : String
  ownerId : String
  wrappedKey : Bytes
  wrapAlgorithm : String
  integrityHash : String
  createdAt : DateTime
  lastAccessedAt : Option DateTime := none
  accessCount : Int := 0
  expiryRules : ExpiryRules := {}
  deviceBinding : DeviceBinding := {}
  usagePolicy : UsagePolicy := {}
  metadataVersion : Int := currentMetadataVersion
  deriving DecidableEq, Repr

/-! ## Dictionary form -/

def ExpiryRules.toDict (rules : ExpiryRules) : Json :=
  .obj [("expires_at", optDateTime rules.expiresAt),
    ("max_access_count", optInt rules.maxAccessCount)]

def ExpiryRules.fromDict (data : Json) : Raises ExpiryRules := do
  let expiresAt ← getDateTime data "expires_at"
  let maxAccessCount ← asOptional asInt (← getOr data "max_access_count" .null)
  return { expiresAt, maxAccessCount }

def DeviceBinding.toDict (binding : DeviceBinding) : Json :=
  .obj [("device_id", optStr binding.deviceId),
    ("label", optStr binding.label),
    ("bound", .bool binding.bound),
    ("usb_serial", optStr binding.usbSerial),
    ("machine_fingerprint", optStr binding.machineFingerprint),
    ("vendor_id", optStr binding.vendorId),
    ("product_id", optStr binding.productId),
    ("hardware_serial", optStr binding.hardwareSerial)]

def DeviceBinding.fromDict (data : Json) : Raises DeviceBinding := do
  let deviceId ← asOptional asStr (← getOr data "device_id" .null)
  let label ← asOptional asStr (← getOr data "label" .null)
  let bound ← asBool (← getOr data "bound" (.bool false))
  let usbSerial ← asOptional asStr (← getOr data "usb_serial" .null)
  let machineFingerprint ← asOptional asStr (← getOr data "machine_fingerprint" .null)
  let vendorId ← asOptional asStr (← getOr data "vendor_id" .null)
  let productId ← asOptional asStr (← getOr data "product_id" .null)
  let hardwareSerial ← asOptional asStr (← getOr data "hardware_serial" .null)
  return {
    deviceId
    label
    bound
    usbSerial
    machineFingerprint
    vendorId
    productId
    hardwareSerial }

def UsagePolicy.toDict (policy : UsagePolicy) : Json :=
  .obj [("one_time_access", .bool policy.oneTimeAccess),
    ("allow_multiple_devices", .bool policy.allowMultipleDevices),
    ("notes", optStr policy.notes)]

def UsagePolicy.fromDict (data : Json) : Raises UsagePolicy := do
  let oneTimeAccess ← asBool (← getOr data "one_time_access" (.bool false))
  let allowMultipleDevices ← asBool (← getOr data "allow_multiple_devices" (.bool true))
  let notes ← asOptional asStr (← getOr data "notes" .null)
  return { oneTimeAccess, allowMultipleDevices, notes }

def FileMetadata.toDict (metadata : FileMetadata) : Json :=
  .obj [("file_id", .str metadata.fileId),
    ("owner_id", .str metadata.ownerId),
    ("wrapped_key", .str (b64encode metadata.wrappedKey)),
    ("wrap_algorithm", .str metadata.wrapAlgorithm),
    ("integrity_hash", .str metadata.integrityHash),
    ("created_at", .str (isoformat metadata.createdAt)),
    ("last_accessed_at", optDateTime metadata.lastAccessedAt),
    ("access_count", .int metadata.accessCount),
    ("expiry_rules", metadata.expiryRules.toDict),
    ("device_binding", metadata.deviceBinding.toDict),
    ("usage_policy", metadata.usagePolicy.toDict),
    ("metadata_version", .int metadata.metadataVersion)]

def FileMetadata.fromDict (data : Json) : Raises FileMetadata := do
  let fileId ← asStr (← getItem data "file_id")
  let ownerId ← asStr (← getItem data "owner_id")
  let wrappedKey ← asBase64 (← getItem data "wrapped_key")
  let wrapAlgorithm ← asStr (← getItem data "wrap_algorithm")
  let integrityHash ← asStr (← getItem data "integrity_hash")
  let createdAt ← asDateTime (← getItem data "created_at")
  let lastAccessedAt ← getDateTime data "last_accessed_at"
  let accessCount ← asInt (← getOr data "access_count" (.int 0))
  let expiryRules ← ExpiryRules.fromDict (← getOr data "expiry_rules" (.obj []))
  let deviceBinding ← DeviceBinding.fromDict (← getOr data "device_binding" (.obj []))
  let usagePolicy ← UsagePolicy.fromDict (← getOr data "usage_policy" (.obj []))
  let metadataVersion ← asInt (← getOr data "metadata_version" (.int currentMetadataVersion))
  return {
    fileId
    ownerId
    wrappedKey
    wrapAlgorithm
    integrityHash
    createdAt
    lastAccessedAt
    accessCount
    expiryRules
    deviceBinding
    usagePolicy
    metadataVersion }

/-! ## Reading what was written -/

@[simp]
theorem ExpiryRules.fromDict_toDict (rules : ExpiryRules) :
    ExpiryRules.fromDict rules.toDict = .ok rules := by
  have expiresAt : getDateTime rules.toDict "expires_at" = .ok rules.expiresAt :=
    getDateTime_optDateTime rfl
  have maxAccessCount : getOr rules.toDict "max_access_count" .null =
    .ok (optInt rules.maxAccessCount) := rfl
  simp [ExpiryRules.fromDict, expiresAt, maxAccessCount, pure, Except.pure]

@[simp]
theorem DeviceBinding.fromDict_toDict (binding : DeviceBinding) :
    DeviceBinding.fromDict binding.toDict = .ok binding := by
  simp [DeviceBinding.fromDict, DeviceBinding.toDict, getOr, memberLookup, pure, Except.pure]

@[simp]
theorem UsagePolicy.fromDict_toDict (policy : UsagePolicy) :
    UsagePolicy.fromDict policy.toDict = .ok policy := by
  simp [UsagePolicy.fromDict, UsagePolicy.toDict, getOr, memberLookup, pure, Except.pure]

/-- Reading the dictionary form of a record gives the record back. -/
@[simp]
theorem FileMetadata.fromDict_toDict (metadata : FileMetadata) :
    FileMetadata.fromDict metadata.toDict = .ok metadata := by
  have lastAccessedAt : getDateTime metadata.toDict "last_accessed_at" =
    .ok metadata.lastAccessedAt := getDateTime_optDateTime rfl
  unfold FileMetadata.toDict at lastAccessedAt
  simp [FileMetadata.fromDict, FileMetadata.toDict, getItem, getOr, memberLookup,
    lastAccessedAt, pure, Except.pure]

theorem FileMetadata.floatFree_toDict (metadata : FileMetadata) :
    FloatFree metadata.toDict := by
  simp [FileMetadata.toDict, ExpiryRules.toDict, DeviceBinding.toDict, UsagePolicy.toDict,
    FloatFree, FloatFreeMembers]

theorem FileMetadata.loads_dumps_toDict (metadata : FileMetadata) :
    loads (dumps metadata.toDict) = some metadata.toDict :=
  loads_dumps _ metadata.floatFree_toDict

/-! ## The size of a record -/

def optLength (value : Option String) : Nat :=
  value.elim 0 String.length

def DeviceBinding.fieldSize (binding : DeviceBinding) : Nat :=
  optLength binding.deviceId + optLength binding.label + optLength binding.usbSerial +
    optLength binding.machineFingerprint + optLength binding.vendorId +
    optLength binding.productId + optLength binding.hardwareSerial

/-- The characters and the numbers of a record's fields. -/
def FileMetadata.fieldSize (metadata : FileMetadata) : Nat :=
  metadata.fileId.length + metadata.ownerId.length +
    (b64encode metadata.wrappedKey).length + metadata.wrapAlgorithm.length +
    metadata.integrityHash.length + (isoformat metadata.createdAt).length +
    optLength (metadata.lastAccessedAt.map isoformat) + metadata.accessCount.natAbs +
    optLength (metadata.expiryRules.expiresAt.map isoformat) +
    metadata.expiryRules.maxAccessCount.elim 0 Int.natAbs + metadata.deviceBinding.fieldSize +
    optLength metadata.usagePolicy.notes + metadata.metadataVersion.natAbs

theorem textSize_optStr (value : Option String) :
    textSize (optStr value) ≤ 12 * optLength value + 4 := by
  cases value <;> simp [optStr, textSize, optLength]

theorem textSize_optDateTime (value : Option DateTime) :
    textSize (optDateTime value) ≤ 12 * optLength (value.map isoformat) + 4 := by
  cases value <;> simp [optDateTime, textSize, optLength]

theorem textSize_optInt (value : Option Int) :
    textSize (optInt value) ≤ value.elim 0 Int.natAbs + 4 := by
  cases value <;> simp [optInt, textSize]

theorem DeviceBinding.textSize_toDict (binding : DeviceBinding) :
    textSize binding.toDict ≤ 12 * binding.fieldSize + 1200 := by
  have deviceId := textSize_optStr binding.deviceId
  have label := textSize_optStr binding.label
  have usbSerial := textSize_optStr binding.usbSerial
  have machineFingerprint := textSize_optStr binding.machineFingerprint
  have vendorId := textSize_optStr binding.vendorId
  have productId := textSize_optStr binding.productId
  have hardwareSerial := textSize_optStr binding.hardwareSerial
  have keys : "device_id".length + "label".length + "bound".length + "usb_serial".length +
      "machine_fingerprint".length + "vendor_id".length + "product_id".length +
      "hardware_serial".length ≤ 90 := by decide +kernel
  simp only [DeviceBinding.toDict, textSize, textSizeMembers, DeviceBinding.fieldSize]
  omega

theorem ExpiryRules.textSize_toDict (rules : ExpiryRules) :
    textSize rules.toDict ≤ 12 * optLength (rules.expiresAt.map isoformat) +
      rules.maxAccessCount.elim 0 Int.natAbs + 340 := by
  have expiresAt := textSize_optDateTime rules.expiresAt
  have maxAccessCount := textSize_optInt rules.maxAccessCount
  have keys : "expires_at".length + "max_access_count".length ≤ 26 := by decide +kernel
  simp only [ExpiryRules.toDict, textSize, textSizeMembers]
  omega

theorem UsagePolicy.textSize_toDict (policy : UsagePolicy) :
    textSize policy.toDict ≤ 12 * optLength policy.notes + 540 := by
  have notes := textSize_optStr policy.notes
  have keys : "one_time_access".length + "allow_multiple_devices".length + "notes".length ≤ 42 := by
    decide +kernel
  simp only [UsagePolicy.toDict, textSize, textSizeMembers]
  omega

theorem FileMetadata.textSize_toDict (metadata : FileMetadata) :
    textSize metadata.toDict ≤ 12 * metadata.fieldSize + 4000 := by
  have lastAccessedAt := textSize_optDateTime metadata.lastAccessedAt
  have rules := metadata.expiryRules.textSize_toDict
  have binding := metadata.deviceBinding.textSize_toDict
  have policy := metadata.usagePolicy.textSize_toDict
  have keys : "file_id".length + "owner_id".length + "wrapped_key".length +
      "wrap_algorithm".length + "integrity_hash".length + "created_at".length +
      "last_accessed_at".length + "access_count".length + "expiry_rules".length +
      "device_binding".length + "usage_policy".length + "metadata_version".length ≤ 146 := by
    decide +kernel
  simp only [FileMetadata.toDict, textSize, textSizeMembers, FileMetadata.fieldSize]
  omega

end CryptoUsb
