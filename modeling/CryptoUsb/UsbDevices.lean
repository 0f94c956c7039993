import CryptoUsb.CryptoPrimitives
import Mathlib.Data.List.AList

/-!
# USB devices

A removable device and what is read from it: the checks made before a write,
its identifier, its hardware descriptor and the key material that stands for it.
The operating system's answers are the fields of `HostProbes`.
-/

namespace CryptoUsb

open ByteString

/-! ## Check reports -/

/-- The names under which checks are recorded. -/
inductive CheckName
  | attached
  | removable
  | writable
  | sufficientSpace
  | metadataPresent
  | hmac
  | metadataIntegrity
  | fileIntegrity
  | expiry
  | accessCount
  | reusedAccess
  | deviceBinding
  | unauthorizedDevice
  | clonedUsb
  | usbIdentifier
  | machineFingerprint
  | hardwareDescriptor
  deriving DecidableEq, Repr

/-- What `ValidationResult`, `DeviceBindingResult` and `ValidationReport` have in
common.  A report in order has no failed check. -/
structure CheckReport where
  ok : Bool
  checks : AList (fun _ : CheckName => Bool)
  reasons : List String
  consistent : ok = true → ∀ name passed, checks.lookup name = some passed → passed = true

namespace CheckReport

def empty : CheckReport where
  ok := true
  checks := ∅
  reasons := []
  consistent := by
    intro _ name passed found
    simp at found

def add (report : CheckReport) (name : CheckName) (passed : Bool)
    (reason : Option String := none) : CheckReport where
  ok := report.ok && passed
  checks := report.checks.insert name passed
  reasons :=
    if passed then report.reasons
    else report.reasons ++ (reason.filter (· ≠ "")).toList
  consistent := by
    intro ok other value found
    obtain ⟨reportOk, passedTrue⟩ : report.ok = true ∧ passed = true := by
      simpa using ok
    by_cases same : other = name
    · subst same
      simp only [AList.lookup_insert, Option.some.injEq] at found
      rw [← found, passedTrue]
    · simp only [AList.lookup_insert_ne same] at found
      exact report.consistent reportOk other value found

/-- `checks.get(name) is False`. -/
def failed (report : CheckReport) (name : CheckName) : Bool :=
  report.checks.lookup name = some false

@[simp]
theorem add_ok (report : CheckReport) (name : CheckName) (passed : Bool)
    (reason : Option String) : (report.add name passed reason).ok = (report.ok && passed) :=
  rfl

@[simp]
theorem empty_ok : empty.ok = true :=
  rfl

end CheckReport

/-! ## Devices -/

structure USBDevice where
  deviceId : String
  mountPoint : String
  label : String
  filesystem : String
  totalBytes : Nat
  freeBytes : Nat
  isRemovable : Bool
  deriving DecidableEq, Repr

@[ext]
structure HardwareDescriptor where
  vendorId : Option String := none
  productId : Option String := none
  hardwareSerial : Option String := none
  deriving DecidableEq, Repr

/-- What the operating system of the running machine answers. -/
structure HostProbes where
  attached : String → Bool
  writable : String → Bool
  volumeSerial : String → Option Int
  pnpDeviceId : String → Option String
  machineGuid : Option String
  nodeName : String
  hardwareAddress : Nat

def freeSpaceSafetyMarginBytes : Nat := 4 * 1024 * 1024

/-- Decimal digits in groups of three. -/
def groupThousands (number : Nat) : String :=
  let grouped := (Nat.toDigits 10 number).reverse.zipIdx.flatMap fun (digit, index) =>
    if index ≠ 0 ∧ index % 3 = 0 then [',', digit] else [digit]
  String.ofList grouped.reverse

/-- `USBDeviceValidator.validate`. -/
def validateDevice (probes : HostProbes) (device : USBDevice) (requiredBytes : Nat) :
    CheckReport :=
  let attached := probes.attached device.mountPoint
  let report := CheckReport.empty.add .attached attached
    (some s!"Device is no longer attached at {device.mountPoint}")
  if !attached then report
  else
    let needed := requiredBytes + freeSpaceSafetyMarginBytes
    ((report.add .removable device.isRemovable
        (some s!"{device.deviceId} is not a removable device")).add
      .writable (probes.writable device.mountPoint)
        (some s!"{device.mountPoint} is not writable")).add
      .sufficientSpace (needed ≤ device.freeBytes)
        (some s!"Only {groupThousands device.freeBytes} bytes free; need at least {groupThousands needed} bytes")

theorem validateDevice_ok {probes : HostProbes} {device : USBDevice} {requiredBytes : Nat}
    (attached : probes.attached device.mountPoint = true) :
    (validateDevice probes device requiredBytes).ok = true ↔
      device.isRemovable = true ∧ probes.writable device.mountPoint = true ∧
        requiredBytes + freeSpaceSafetyMarginBytes ≤ device.freeBytes := by
  simp [validateDevice, attached, and_assoc]

/-! ## Identity -/

/-- `f"{serial:08X}"`. -/
def formatSerial (serial : Int) : List Char :=
  let sign := if serial < 0 then ['-'] else []
  let digits := (Nat.toDigits 16 serial.natAbs).map Char.toUpper
  sign ++ List.replicate (8 - sign.length - digits.length) '0' ++ digits

def computeUsbIdentifier (probes : HostProbes) (device : USBDevice) : String :=
  let serialComponent :=
    match probes.volumeSerial device.mountPoint with
    | some serial => String.ofList (formatSerial serial)
    | none => "UNKNOWN"
  s!"{serialComponent}:{device.filesystem}:{device.totalBytes}"

/-- A character of `[^&\\]`. -/
def isTokenCharacter (character : Char) : Bool :=
  character ≠ '&' && character ≠ '\\'

/-- What the marker, in either case, is followed by at its first occurrence
before a token character. -/
def searchToken (marker : List Char) : List Char → Option (List Char)
  | [] => none
  | character :: rest =>
      let candidate := character :: rest
      let token := (candidate.drop marker.length).takeWhile isTokenCharacter
      if (candidate.take marker.length).map Char.toUpper = marker ∧ token ≠ [] then some token
      else searchToken marker rest

/-- The zeros of the scripts that have decimal digits. -/
def decimalZeros : List Nat :=
  [0x30, 0x660, 0x6f0, 0x7c0, 0x966, 0x9e6, 0xa66, 0xae6, 0xb66, 0xbe6, 0xc66, 0xce6, 0xd66,
    0xde6, 0xe50, 0xed0, 0xf20, 0x1040, 0x1090, 0x17e0, 0x1810, 0x1946, 0x19d0, 0x1a80, 0x1a90,
    0x1b50, 0x1bb0, 0x1c40, 0x1c50, 0xa620, 0xa8d0, 0xa900, 0xa9d0, 0xa9f0, 0xaa50, 0xabf0,
    0xff10, 0x104a0, 0x10d30, 0x11066, 0x110f0, 0x11136, 0x111d0, 0x112f0, 0x11450, 0x114d0,
    0x11650, 0x116c0, 0x11730, 0x118e0, 0x11950, 0x11c50, 0x11d50, 0x11da0, 0x16a60, 0x16ac0,
    0x16b50, 0x1d7ce, 0x1d7d8, 0x1d7e2, 0x1d7ec, 0x1d7f6, 0x1e140, 0x1e2f0, 0x1e950, 0x1fbf0]

/-- A character of `\d`: each zero is followed by the other nine digits. -/
def isDecimalDigit (character : Char) : Bool :=
  decimalZeros.any fun start => start ≤ character.toNat && character.toNat < start + 10

/-- `\d+$`. -/
def endsWithDigits (characters : List Char) : Bool :=
  let digits := characters.takeWhile isDecimalDigit
  let rest := characters.dropWhile isDecimalDigit
  digits ≠ [] && (rest = [] || rest = ['\n'])

/-- The path segment before a trailing `&` and number. -/
def searchSerial : List Char → Option (List Char)
  | [] => none
  | character :: rest =>
      let token := rest.takeWhile isTokenCharacter
      let after := rest.dropWhile isTokenCharacter
      if character = '\\' ∧ token ≠ [] ∧ after.head? = some '&' ∧ endsWithDigits after.tail then
        some token
      else searchSerial rest

def parsePnpDeviceId (pnpDeviceId : String) : Option HardwareDescriptor :=
  let characters := pnpDeviceId.toList
  let vendorId := (searchToken "VEN_".toList characters).map String.ofList
  let productId := (searchToken "PROD_".toList characters).map String.ofList
  let hardwareSerial := (searchSerial characters).map String.ofList
  if vendorId = none ∧ productId = none ∧ hardwareSerial = none then none
  else some { vendorId, productId, hardwareSerial }

def computeHardwareDescriptor (probes : HostProbes) (device : USBDevice) :
    Option HardwareDescriptor :=
  match probes.pnpDeviceId device.mountPoint with
  | none => none
  | some pnpDeviceId => if pnpDeviceId = "" then none else parsePnpDeviceId pnpDeviceId

def computeMachineFingerprint (crypto : Cryptography) (probes : HostProbes) : String :=
  match probes.machineGuid.filter (· ≠ "") with
  | some guid => hexEncode (crypto.sha256 (encodeUtf8 guid)).1
  | none =>
      hexEncode (crypto.sha256 (encodeUtf8 s!"{probes.nodeName}:{probes.hardwareAddress}")).1

/-- `device_fingerprint_material`: missing parts are folded in as empty text. -/
def deviceFingerprintMaterial (usbSerial : Option String)
    (hardwareDescriptor : Option HardwareDescriptor) : Bytes :=
  let descriptor := hardwareDescriptor.getD {}
  encodeUtf8 (String.intercalate "|" [usbSerial.getD "", descriptor.vendorId.getD "",
    descriptor.productId.getD "", descriptor.hardwareSerial.getD ""])

example :
    parsePnpDeviceId "USBSTOR\\DISK&VEN_SANDISK&PROD_CRUZER_BLADE&REV_1.00\\4C530001A2B3C4D5&0" =
      some ⟨some "SANDISK", some "CRUZER_BLADE", some "4C530001A2B3C4D5"⟩ := by
  decide +kernel

end CryptoUsb
