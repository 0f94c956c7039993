import CryptoUsb.DecryptionPage
import CryptoUsb.DeviceDetection

/-!
# The tables of the pages

The encryption page and the decryption page on their screens: the table of the devices, which
is polled, the table of the secure containers on the selected device, and the buttons.  Polls
run while a write or a view is in progress, too; the click works with the device and the file
that were selected when it was made.
-/

namespace CryptoUsb

open ByteString PolledPickers

/-! ## Containers on a device -/

/-- What `sorted(Path(directory).glob("*.cusc"))` finds: the names, in order. -/
abbrev Listing := String → List String

/-- The containers on the selected device. -/
def containersOn (listing : Listing) : Option USBDevice → List DevicePath
  | none => []
  | some device => (listing device.mountPoint).map (DevicePath.mk device.mountPoint)

theorem directory_of_mem_containersOn {listing : Listing} {device : Option USBDevice}
    {path : DevicePath} (member : path ∈ containersOn listing device) :
    ∃ selected, device = some selected ∧ path.directory = selected.mountPoint := by
  cases device with
  | none => cases member
  | some selected =>
      obtain ⟨name, -, rfl⟩ := List.mem_map.mp member
      exact ⟨selected, rfl, rfl⟩

/-- A run of `_refresh_devices`: the answers of the detector and of the device's folder. -/
structure DevicePoll where
  detector : USBDeviceDetector
  listing : Listing

/-! ## The decryption page -/

/-- `_containers`, the table over them, `_selected_container`, and whether the two buttons are
enabled. -/
abbrev ContainerTable := Picker DevicePath DevicePath Bool

namespace ContainerTable

/-- `_on_container_selected`: both end in `_update_view_button_state`. -/
def hooks (keyLoaded : Bool) : Hooks DevicePath Bool where
  selected path _ := path.isSome && keyLoaded
  rebuilt _ := (none : Option DevicePath).isSome && keyLoaded

/-- `_refresh_containers`. -/
def refreshContainers (keyLoaded : Bool) (listing : Listing) (device : Option USBDevice)
    (table : ContainerTable) : ContainerTable :=
  table.refresh id (hooks keyLoaded) (containersOn listing device)

/-- `_update_view_button_state`. -/
def updateViewButtonState (keyLoaded : Bool) (table : ContainerTable) : ContainerTable :=
  { table with state := table.chosen.isSome && keyLoaded }

end ContainerTable

/-- The page without its selection, and its tables. -/
structure DecryptionScreen where
  base : DecryptionPage
  tables : DeviceTable ContainerTable

namespace DecryptionScreen

/-- A page that is constructed: nothing was detected yet. -/
def fresh (base : DecryptionPage) : DecryptionScreen where
  base := base
  tables := { items := some [], state := { items := some [], state := false } }

variable (screen : DecryptionScreen)

/-- The page with what is selected in its tables. -/
def page : DecryptionPage :=
  { screen.base with
    selectedDevice := screen.tables.chosen
    selectedContainer := screen.tables.state.chosen }

def keyLoaded : Bool :=
  screen.base.keyWrapper.isSome

/-- `_on_device_selected`, and the last lines of `_refresh_devices`. -/
def hooks (listing : Listing) : Hooks USBDevice ContainerTable where
  selected device containers := containers.refreshContainers screen.keyLoaded listing device
  unselected containers := containers.refreshContainers screen.keyLoaded listing none

def refreshDevices (poll : DevicePoll) : DecryptionScreen :=
  { screen with tables := screen.tables.refreshDevices (screen.hooks poll.listing) poll.detector }

def chooseDevice (row : Option Nat) (listing : Listing) : DecryptionScreen :=
  { screen with tables := screen.tables.chooseDevice (screen.hooks listing) row }

def chooseContainer (row : Option Nat) : DecryptionScreen :=
  { screen with
    tables := { screen.tables with
      state := screen.tables.state.select id (ContainerTable.hooks screen.keyLoaded) row } }

def refreshContainers (listing : Listing) : DecryptionScreen :=
  { screen with
    tables := { screen.tables with
      state := screen.tables.state.refreshContainers screen.keyLoaded listing
        screen.tables.chosen } }

/-- The page has another state, after which it updates its buttons. -/
def updated (base : DecryptionPage) : DecryptionScreen where
  base := base
  tables := { screen.tables with
    state := screen.tables.state.updateViewButtonState base.keyWrapper.isSome }

/-- `_on_choose_key_clicked`; a dialog that is cancelled answers with empty text. -/
def onChooseKeyClicked (path : String) : DecryptionScreen :=
  if path = "" then screen else { screen with base := { screen.base with keyPath := path } }

/-- `_on_load_key_clicked`; an exception that the page does not expect leaves the slot. -/
def onLoadKeyClicked (serialization : KeySerialization RSAPrivateKey RSAPublicKey)
    (privatePem : Raises Bytes) (passphrase : String) (generated : RSAPrivateKey) :
    DecryptionScreen :=
  if screen.base.keyPath = "" ∨ screen.base.keyPath = "No private key loaded." then screen
  else
    match screen.base.loadKey serialization privatePem passphrase generated with
    | .error _ => screen
    | .ok base => screen.updated base

/-- Closing the viewer takes the key back. -/
def onViewerClosed : DecryptionScreen :=
  screen.updated screen.base.viewerClosed

/-- `_on_view_clicked` on the page as it is, with the polls during the attempt; the containers
are listed again after a granted view. -/
def onViewClicked (crypto : Cryptography) (probes : HostProbes) (display : Bytes → Raises Unit)
    (disk : Disk) (draws : AccessDraws) (polls : List DevicePoll) (listing : Listing) :
    DecryptionScreen × Disk :=
  let clicked := DecryptionPage.onViewClicked crypto probes screen.page display disk draws
  let polled := polls.foldl refreshDevices { screen with base := clicked.page }
  let granted := match clicked.attempt with
    | .ok { outcome := .ok outcome, .. } => outcome.granted
    | _ => false
  (if granted then polled.refreshContainers listing else polled, clicked.disk)

/-- `_on_rebind_clicked`; a rebind that returned is followed by another listing. -/
def onRebindClicked (crypto : Cryptography) (probes : HostProbes)
    (serialization : KeySerialization RSAPrivateKey RSAPublicKey) (disk : Disk)
    (answer : DecryptionPage.RebindAnswer) (listing : Listing) : DecryptionScreen × Disk :=
  let clicked :=
    DecryptionPage.onRebindClicked crypto probes screen.page serialization disk answer
  let rebound := { screen with base := clicked.page }
  (match clicked.tracked with
    | .ok _ => rebound.refreshContainers listing
    | .error _ => rebound, clicked.disk)

end DecryptionScreen

/-! ## The encryption page -/

/-- `_containers`, which are listed only, and whether the button for writing is enabled. -/
structure EncryptionPanel where
  containers : List DevicePath := []
  writeEnabled : Bool := false

/-- The page, the path of the file to store, and the tables. -/
structure EncryptionScreen where
  base : EncryptionPage
  sourcePath : Option String := none
  tables : DeviceTable EncryptionPanel := { state := {} }

/-- What the form and the passphrase prompt say when a write starts, and what it draws.  The
device is the one that was selected at the click. -/
structure WriteAttempt where
  choice : WriteChoice
  draws : WriteDraws

/-- How a key file is written: it is not opened, it is cut short after so many bytes, or it is
written to its end. -/
inductive KeyFileEnd
  | refused
  | cut (kept : Nat)
  | written

/-- An export: the key that is generated if there is none yet, the answers to the passphrase
prompt and to the file dialog, what `serialize_private_key` comes to, and the writing. -/
structure KeyExport where
  generated : RSAPrivateKey
  passphrase : Option String
  target : Option DevicePath
  serialize : (privateKey : RSAPrivateKey) → (passphrase : Bytes) → Raises Bytes
  ends : KeyFileEnd

namespace EncryptionScreen

variable (screen : EncryptionScreen)

/-- `_on_device_selected`, and the other lines of `_refresh_devices`. -/
def hooks (listing : Listing) : Hooks USBDevice EncryptionPanel where
  selected device _ :=
    { containers := containersOn listing device
      writeEnabled := device.isSome && screen.sourcePath.isSome }
  rebuilt panel :=
    { panel with writeEnabled := (none : Option USBDevice).isSome && screen.sourcePath.isSome }
  unselected panel := { panel with containers := containersOn listing none }

def refreshDevices (poll : DevicePoll) : EncryptionScreen :=
  { screen with tables := screen.tables.refreshDevices (screen.hooks poll.listing) poll.detector }

def chooseDevice (row : Option Nat) (listing : Listing) : EncryptionScreen :=
  { screen with tables := screen.tables.chooseDevice (screen.hooks listing) row }

/-- `_update_write_button_state` after another choice of the file to store. -/
def withSource (sourcePath : Option String) : EncryptionScreen :=
  { screen with
    sourcePath
    tables := { screen.tables with
      state := { screen.tables.state with
        writeEnabled := screen.tables.chosen.isSome && sourcePath.isSome } } }

/-- `_on_export_key_clicked`; a key that was saved takes the chosen file back. -/
def onExportKeyClicked (exporting : KeyExport) (disk : Disk) : EncryptionScreen × Disk :=
  let (base, exported) := screen.base.exportKey exporting.generated exporting.passphrase
  let screen := { screen with base }
  match exported, exporting.target with
  | some (privateKey, passphrase), some path =>
      match exporting.serialize privateKey passphrase, exporting.ends with
      | .ok privatePem, .written => (screen.withSource none, disk.write path privatePem)
      | .ok privatePem, .cut kept => (screen, disk.write path (privatePem.take kept))
      | .ok _, .refused | .error _, _ => (screen, disk)
  | _, _ => (screen, disk)

/-- After a write: the containers are listed again, or the device of the write is selected
again. -/
def afterWrite (device : USBDevice) (listing : Listing) : EncryptionScreen :=
  if screen.tables.chosen.map (·.deviceId) = some device.deviceId then
    { screen with
      tables := { screen.tables with
        state := { screen.tables.state with
          containers := containersOn listing screen.tables.chosen } } }
  else
    { screen with
      tables := screen.tables.reselectDevice (screen.hooks listing) (some device.deviceId) }

/-- `_on_write_clicked`: the calls of `_write_container` work with the device that was selected
at the click.  A second one follows where a container is in the way and the user confirms.  The
page is polled during the first call, and again until the second one has ended. -/
def onWriteClicked (crypto : Cryptography) (probes : HostProbes) (attempt : WriteAttempt)
    (confirmed : Option WriteAttempt) (polls morePolls : List DevicePoll) (listing : Listing)
    (disk : Disk) : EncryptionScreen × Disk :=
  match screen.tables.chosen, screen.sourcePath with
  | some device, some _ =>
      let write (base : EncryptionPage) (attempt : WriteAttempt) (overwrite : Bool) (disk : Disk) :=
        base.writeContainer crypto { attempt.choice with device, overwrite } attempt.draws probes
          disk
      let first := write screen.base attempt false disk
      let last :=
        match first.outcome, confirmed with
        | some (.error ⟨.containerOverwriteError, _⟩), some attempt =>
            write first.page attempt true first.disk
        | _, _ => first
      let polled := (polls ++ morePolls).foldl refreshDevices { screen with base := last.page }
      match last.outcome with
      | some (.ok _) => (polled.afterWrite device listing, last.disk)
      | _ => (polled, last.disk)
  | _, _ => ((polls ++ morePolls).foldl refreshDevices screen, disk)

end EncryptionScreen

end CryptoUsb
