import CryptoUsb.DeviceKeyAgreement
import CryptoUsb.PnpDeviceIds
import CryptoUsb.SeparatedFields

/-!
# Fingerprints of different devices

A device's fingerprint is its identifier, vendor, product and serial with `|` between
them.  The filesystem in the identifier and the tokens of the hardware descriptor may
hold a `|` themselves, so two devices share a fingerprint, and with it the device key,
when their parts are the same pieces divided differently.
-/

namespace CryptoUsb

open ByteString SeparatedFields

/-! ## Parts of a descriptor -/

theorem searchToken_ne_nil {marker text token : List Char}
    (found : searchToken marker text = some token) : token ≠ [] := by
  induction text with
  | nil => cases found
  | cons character text ih =>
      rw [searchToken] at found
      split at found
      · next marked =>
          rw [← Option.some.inj found]
          exact marked.2
      · exact ih found

theorem searchSerial_ne_nil {text token : List Char} (found : searchSerial text = some token) :
    token ≠ [] := by
  induction text with
  | nil => cases found
  | cons character text ih =>
      rw [searchSerial] at found
      split at found
      · next segment =>
          rw [← Option.some.inj found]
          exact segment.2.1
      · exact ih found

/-- No part is recorded as empty text. -/
structure HardwareDescriptor.Filled (descriptor : HardwareDescriptor) : Prop where
  vendorId : descriptor.vendorId ≠ some ""
  productId : descriptor.productId ≠ some ""
  hardwareSerial : descriptor.hardwareSerial ≠ some ""

theorem HardwareDescriptor.filled_empty : HardwareDescriptor.Filled {} :=
  ⟨nofun, nofun, nofun⟩

private theorem ofList_ne_empty {found : Option (List Char)}
    (filled : ∀ token, found = some token → token ≠ []) :
    found.map String.ofList ≠ some "" := by
  cases found with
  | none => nofun
  | some token =>
      intro empty
      exact filled token rfl (String.ofList_eq_empty_iff.mp (Option.some.inj empty))

theorem parsePnpDeviceId_filled {path : String} {descriptor : HardwareDescriptor}
    (parsed : parsePnpDeviceId path = some descriptor) : descriptor.Filled := by
  rw [parsePnpDeviceId] at parsed
  split at parsed
  · cases parsed
  · rw [← Option.some.inj parsed]
    exact ⟨ofList_ne_empty fun _ => searchToken_ne_nil, ofList_ne_empty fun _ => searchToken_ne_nil,
      ofList_ne_empty fun _ => searchSerial_ne_nil⟩

theorem part_eq_of_text {part other : Option String} (filled : part ≠ some "")
    (otherFilled : other ≠ some "") (same : part.getD "" = other.getD "") : part = other := by
  cases part with
  | none =>
      cases other with
      | none => rfl
      | some text => exact absurd (congrArg some same.symm) otherFilled
  | some value =>
      cases other with
      | none => exact absurd (congrArg some same) filled
      | some text => exact congrArg some same

/-! ## Identities -/

/-- What `compute_usb_identifier` and `parse_pnp_device_id` tell of a device. -/
structure DeviceIdentity where
  usbIdentifier : String
  descriptor : Option HardwareDescriptor
  computed : ∃ probes device, usbIdentifier = computeUsbIdentifier probes device
  parsed : descriptor = none ∨ ∃ path, descriptor = parsePnpDeviceId path

namespace DeviceIdentity

variable (first second : DeviceIdentity)

/-- The parts of the fingerprint. -/
def parts (identity : DeviceIdentity) : List (List Char) :=
  let descriptor := identity.descriptor.getD {}
  [identity.usbIdentifier.toList, (descriptor.vendorId.getD "").toList,
    (descriptor.productId.getD "").toList, (descriptor.hardwareSerial.getD "").toList]

def material (identity : DeviceIdentity) : Bytes :=
  deviceFingerprintMaterial (some identity.usbIdentifier) identity.descriptor

def bindingKey (crypto : Cryptography) (identity : DeviceIdentity) : Bytes :=
  deriveDeviceBindingKey crypto identity.material

/-- The same identifier, vendor, product and serial. -/
def SameDevice : Prop :=
  first.usbIdentifier = second.usbIdentifier ∧
    first.descriptor.getD {} = second.descriptor.getD {}

theorem filled (identity : DeviceIdentity) : (identity.descriptor.getD {}).Filled := by
  cases told : identity.descriptor with
  | none => exact HardwareDescriptor.filled_empty
  | some descriptor =>
      rcases identity.parsed with absent | ⟨path, parsed⟩
      · rw [told] at absent
        cases absent
      · exact parsePnpDeviceId_filled (parsed.symm.trans told)

theorem sameDevice_iff_parts : SameDevice first second ↔ first.parts = second.parts := by
  constructor
  · rintro ⟨identifier, descriptor⟩
    rw [parts, parts, identifier, descriptor]
  · intro same
    simp only [parts, List.cons.injEq, String.toList_inj, and_true] at same
    obtain ⟨identifier, vendorId, productId, hardwareSerial⟩ := same
    refine ⟨identifier, HardwareDescriptor.ext ?_ ?_ ?_⟩
    · exact part_eq_of_text first.filled.vendorId second.filled.vendorId vendorId
    · exact part_eq_of_text first.filled.productId second.filled.productId productId
    · exact part_eq_of_text first.filled.hardwareSerial second.filled.hardwareSerial
        hardwareSerial

theorem material_eq_iff_join :
    first.material = second.material ↔ join '|' first.parts = join '|' second.parts := by
  have joined (serial vendorId productId hardwareSerial : String) :
      fingerprintCharacters serial vendorId productId hardwareSerial =
        join '|' [serial.toList, vendorId.toList, productId.toList, hardwareSerial.toList] := by
    simp [fingerprintCharacters, join]
  rw [material, material, deviceFingerprintMaterial_eq_iff, joined, joined]
  rfl

/-- One material stands for one device exactly when the parts are no regrouping. -/
theorem material_determines_iff :
    (first.material = second.material → SameDevice first second) ↔
      ¬ Regrouped '|' first.parts second.parts := by
  rw [material_eq_iff_join, sameDevice_iff_parts]
  exact determined_iff (List.cons_ne_nil _ _) (List.cons_ne_nil _ _)

theorem SameDevice.material_eq {first second : DeviceIdentity}
    (same : SameDevice first second) : first.material = second.material := by
  rw [material_eq_iff_join, (sameDevice_iff_parts first second).mp same]

theorem bindingKey_eq_iff {crypto : Cryptography}
    (separates : crypto.SeparatesDevices first.material second.material) :
    first.bindingKey crypto = second.bindingKey crypto ↔ first.material = second.material := by
  constructor
  · exact separates
  · intro same
    rw [bindingKey, bindingKey, same]

/-- Two identities share their material only if they are one device, and share their
device key exactly then, unless the parts of one are the pieces of the other divided
differently. -/
theorem fingerprint_tells_devices_apart_iff (crypto : Cryptography) :
    ((first.material = second.material → SameDevice first second) ↔
        ¬ Regrouped '|' first.parts second.parts) ∧
      (crypto.SeparatesDevices first.material second.material →
        ((first.bindingKey crypto = second.bindingKey crypto ↔ SameDevice first second) ↔
          ¬ Regrouped '|' first.parts second.parts)) := by
  refine ⟨material_determines_iff first second, fun separates => ?_⟩
  rw [← material_determines_iff, bindingKey_eq_iff first second separates]
  constructor
  · exact Iff.mp
  · intro determines
    exact ⟨determines, SameDevice.material_eq⟩

end DeviceIdentity

/-! ## A separator in a token -/

/-- The vendor holds a separator. -/
def dividedVendor : DeviceIdentity where
  usbIdentifier := computeUsbIdentifier plainProbes plainDevice
  descriptor := parsePnpDeviceId "USBSTOR\\DISK&VEN_A|B&PROD_C&REV_1.00\\4C53&0"
  computed := ⟨plainProbes, plainDevice, rfl⟩
  parsed := .inr ⟨_, rfl⟩

/-- The product holds a separator. -/
def dividedProduct : DeviceIdentity where
  usbIdentifier := computeUsbIdentifier plainProbes plainDevice
  descriptor := parsePnpDeviceId "USBSTOR\\DISK&VEN_A&PROD_B|C&REV_1.00\\4C53&0"
  computed := ⟨plainProbes, plainDevice, rfl⟩
  parsed := .inr ⟨_, rfl⟩

theorem divided_material_eq : dividedVendor.material = dividedProduct.material := by
  decide +kernel

/-- The two devices differ in vendor and product and derive the same key. -/
theorem divided_devices_share_key :
    dividedVendor.descriptor = some ⟨some "A|B", some "C", some "4C53"⟩ ∧
      dividedProduct.descriptor = some ⟨some "A", some "B|C", some "4C53"⟩ ∧
      dividedVendor.material = dividedProduct.material ∧
      ¬ DeviceIdentity.SameDevice dividedVendor dividedProduct ∧
      ∀ crypto, dividedVendor.bindingKey crypto = dividedProduct.bindingKey crypto := by
  refine ⟨by decide +kernel, by decide +kernel, divided_material_eq, ?_, fun crypto => ?_⟩
  · rintro ⟨-, same⟩
    revert same
    decide +kernel
  · rw [DeviceIdentity.bindingKey, divided_material_eq, DeviceIdentity.bindingKey]

/-- A device whose tokens hold no separator. -/
def undividedDevice : DeviceIdentity where
  usbIdentifier := computeUsbIdentifier plainProbes plainDevice
  descriptor := parsePnpDeviceId "USBSTOR\\DISK&VEN_A&PROD_C&REV_1.00\\4C53&0"
  computed := ⟨plainProbes, plainDevice, rfl⟩
  parsed := .inr ⟨_, rfl⟩

theorem fingerprint_tells_devices_apart_iff_undivided :
    ((undividedDevice.material = dividedVendor.material →
          DeviceIdentity.SameDevice undividedDevice dividedVendor) ↔
        ¬ Regrouped '|' undividedDevice.parts dividedVendor.parts) ∧
      ((undividedDevice.bindingKey storeCrypto = dividedVendor.bindingKey storeCrypto ↔
          DeviceIdentity.SameDevice undividedDevice dividedVendor) ↔
        ¬ Regrouped '|' undividedDevice.parts dividedVendor.parts) := by
  obtain ⟨materials, keys⟩ := DeviceIdentity.fingerprint_tells_devices_apart_iff undividedDevice
    dividedVendor storeCrypto
  refine ⟨materials, keys fun sameKey => absurd sameKey ?_⟩
  decide +kernel

end CryptoUsb
