import CryptoUsb.PolledPickers
import CryptoUsb.TransitionRuns
import CryptoUsb.UsbDevices

/-!
# Device detection

The removable devices among the partitions that the operating system reports, and the device
table that the pages show over them.  Each page polls the detector, and does more of its own when
the selection changes.
-/

namespace CryptoUsb

open PolledPickers TransitionRuns

/-! ## The detector -/

/-- An entry of `psutil.disk_partitions`. -/
structure Partition where
  device : String
  mountpoint : String
  fstype : String
  opts : Option String
  deriving DecidableEq, Repr

structure DiskUsage where
  total : Nat
  free : Nat
  deriving DecidableEq, Repr

/-- The functions that a detector is constructed with, as they answer a poll. -/
structure USBDeviceDetector where
  partitions : Raises (List Partition)
  usage : String → Raises DiskUsage
  driveType : String → Option Nat
  volumeLabel : String → String

namespace USBDeviceDetector

/-- `win32file.DRIVE_REMOVABLE`. -/
def driveRemovable : Nat := 2

variable (detector : USBDeviceDetector)

def isRemovable (part : Partition) : Bool :=
  match detector.driveType part.mountpoint with
  | some driveType => driveType = driveRemovable
  | none => (part.opts.getD "").toLower.toList.tails.any ("removable".toList.isPrefixOf ·)

def deviceOf (part : Partition) (usage : DiskUsage) : USBDevice where
  deviceId := part.device
  mountPoint := part.mountpoint
  label := detector.volumeLabel part.mountpoint
  filesystem := part.fstype
  totalBytes := usage.total
  freeBytes := usage.free
  isRemovable := true

/-- The loop of `detect_devices`: a partition that cannot be read is skipped. -/
def devicesOf : List Partition → Raises (List USBDevice)
  | [] => .ok []
  | part :: parts =>
      if !detector.isRemovable part then devicesOf parts
      else
        match detector.usage part.mountpoint with
        | .ok usage => (devicesOf parts).map (detector.deviceOf part usage :: ·)
        | .error exc => if exc.kind = .osError then devicesOf parts else .error exc

def detectDevices : Raises (List USBDevice) :=
  match detector.partitions with
  | .error exc => if exc.kind = .osError then .ok [] else .error exc
  | .ok partitions => detector.devicesOf partitions

/-- A device that the detector reports: a removable partition that could be read. -/
def Reports (device : USBDevice) : Prop :=
  ∃ partitions part usage, detector.partitions = .ok partitions ∧ part ∈ partitions ∧
    detector.isRemovable part = true ∧ detector.usage part.mountpoint = .ok usage ∧
    device = detector.deviceOf part usage

variable {detector} {devices : List USBDevice}

theorem mem_devicesOf {partitions : List Partition}
    (read : detector.devicesOf partitions = .ok devices) (device : USBDevice) :
    device ∈ devices ↔ ∃ part ∈ partitions, detector.isRemovable part = true ∧
      ∃ usage, detector.usage part.mountpoint = .ok usage ∧
        device = detector.deviceOf part usage := by
  induction partitions generalizing devices with
  | nil =>
      cases read
      simp
  | cons part parts ih =>
      unfold devicesOf at read
      cases removable : detector.isRemovable part with
      | false =>
          rw [removable] at read
          rw [ih read]
          simp [removable]
      | true =>
          cases usage : detector.usage part.mountpoint with
          | error exc =>
              simp only [removable, usage, Bool.not_true, Bool.false_eq_true, if_false] at read
              split_ifs at read
              rw [ih read]
              simp [usage]
          | ok used =>
              simp only [removable, usage, Bool.not_true, Bool.false_eq_true, if_false] at read
              cases rest : detector.devicesOf parts with
              | error exc =>
                  rw [rest] at read
                  cases read
              | ok others =>
                  rw [rest] at read
                  cases read
                  rw [List.mem_cons, ih rest]
                  simp [usage, removable]

/-- The detected devices are exactly those that are reported. -/
theorem mem_detectDevices (detected : detector.detectDevices = .ok devices) (device : USBDevice) :
    device ∈ devices ↔ detector.Reports device := by
  unfold detectDevices at detected
  unfold Reports
  cases partitions : detector.partitions with
  | error exc =>
      rw [partitions] at detected
      simp only at detected
      split_ifs at detected
      cases detected
      simp
  | ok parts =>
      rw [partitions] at detected
      rw [mem_devicesOf detected]
      constructor
      · rintro ⟨part, member, removable, usage, read, same⟩
        exact ⟨parts, part, usage, rfl, member, removable, read, same⟩
      · rintro ⟨_, part, usage, listed, member, removable, read, same⟩
        obtain rfl := Except.ok.inj listed
        exact ⟨part, member, removable, usage, read, same⟩

theorem Reports.isRemovable {device : USBDevice} (reports : detector.Reports device) :
    device.isRemovable = true := by
  obtain ⟨_, _, _, _, _, _, _, rfl⟩ := reports
  rfl

end USBDeviceDetector

/-! ## Device tables -/

/-- `_devices`, the table over them, `_selected_device`, and the rest of a page. -/
abbrev DeviceTable (State : Type) := Picker USBDevice String State

namespace DeviceTable

variable {State : Type} (hooks : Hooks USBDevice State) (table : DeviceTable State)

/-- `_refresh_devices`; an exception of the detector leaves the slot. -/
def refreshDevices (detector : USBDeviceDetector) : DeviceTable State :=
  match detector.detectDevices with
  | .error _ => table
  | .ok devices => table.refresh USBDevice.deviceId hooks devices

/-- A click on a row of the table, or beside them. -/
def chooseDevice (row : Option Nat) : DeviceTable State :=
  table.select USBDevice.deviceId hooks row

/-- `_reselect_device`. -/
def reselectDevice (deviceId : Option String) : DeviceTable State :=
  table.reselect USBDevice.deviceId hooks deviceId

/-- The table shows devices that were reported, and the device that was clicked last is
selected, if one is. -/
structure Follows (reported : USBDevice → Prop) (clicked : Option String) : Prop where
  settled : table.Settled USBDevice.deviceId
  reported : ∀ device ∈ table.items.getD [], reported device
  clicked : ∀ device, table.chosen = some device → clicked = some device.deviceId

variable {hooks table} {reported : USBDevice → Prop} {clicked : Option String}
  {detector : USBDeviceDetector} {row : Option Nat}

theorem Follows.mono {more : USBDevice → Prop} (follows : table.Follows reported clicked)
    (included : ∀ device, reported device → more device) : table.Follows more clicked :=
  ⟨follows.settled, fun device member => included device (follows.reported device member),
    follows.clicked⟩

theorem Follows.refreshDevices (follows : table.Follows reported clicked)
    (reports : ∀ device, detector.Reports device → reported device) :
    (table.refreshDevices hooks detector).Follows reported clicked := by
  unfold DeviceTable.refreshDevices
  cases answer : detector.detectDevices with
  | error exc => exact follows
  | ok devices =>
      refine ⟨follows.settled.refresh, fun device member => ?_, fun device chosen => ?_⟩
      · rw [Picker.items_refresh] at member
        exact reports device ((USBDeviceDetector.mem_detectDevices answer device).mp member)
      · obtain ⟨before, was, sameId⟩ := Picker.key_of_chosen_refresh follows.settled chosen
        rw [follows.clicked before was, sameId]

theorem Follows.chooseDevice (follows : table.Follows reported clicked) :
    (table.chooseDevice hooks row).Follows reported (row.bind (table.table.rows[·]?)) := by
  refine ⟨follows.settled.select, fun device member => ?_, fun device chosen => ?_⟩
  · rw [DeviceTable.chooseDevice, Picker.items_select] at member
    exact follows.reported device member
  · rw [DeviceTable.chooseDevice, follows.settled.chosen_select] at chosen
    obtain ⟨shown, clickedRow, found⟩ := Option.bind_eq_some_iff.mp chosen
    rw [clickedRow, Picker.key_of_lookup found]

theorem Follows.reselectDevice {deviceId : String}
    (follows : table.Follows reported (some deviceId)) :
    (table.reselectDevice hooks (some deviceId)).Follows reported (some deviceId) := by
  refine ⟨follows.settled.reselect, fun device member => ?_, fun device chosen => ?_⟩
  · rw [DeviceTable.reselectDevice, Picker.items_reselect] at member
    exact follows.reported device member
  · rw [DeviceTable.reselectDevice, follows.settled.chosen_reselect] at chosen
    rcases Option.or_eq_some_iff.mp chosen with found | ⟨-, before⟩
    · rw [Picker.key_of_lookup found]
    · exact follows.clicked device before

theorem Follows.chosen_reported (follows : table.Follows reported clicked) {device : USBDevice}
    (chosen : table.chosen = some device) : reported device :=
  follows.reported device (follows.settled.mem chosen)

end DeviceTable

end CryptoUsb
