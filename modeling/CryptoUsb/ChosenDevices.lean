import CryptoUsb.DecryptionPage
import CryptoUsb.DirectoryFrames
import CryptoUsb.PageTables

/-!
# Chosen devices

The encryption page and the decryption page are open together and share one repository.  However
their devices come and go, a view presents the device on which the viewed container lies, both
were clicked by the user, and no file is touched but in the folders of devices that the detector
reported as removable and the user clicked.
-/

namespace CryptoUsb

open ByteString DecryptionPage PolledPickers TransitionRuns

/-! ## The containers of the selected device -/

/-- The table lists containers of this device, the container that was clicked last is selected,
if one is, and the buttons are enabled where a container is selected and a key is loaded. -/
structure ContainerTable.Shows (device : Option USBDevice) (keyLoaded : Bool)
    (clicked : Option DevicePath) (table : ContainerTable) : Prop where
  settled : table.Settled id
  listed : ∀ path ∈ table.items.getD [], ∃ selected, device = some selected ∧
    path.directory = selected.mountPoint
  buttons : table.state = (table.chosen.isSome && keyLoaded)
  clicked : ∀ path, table.chosen = some path → clicked = some path

namespace ContainerTable

variable {device other : Option USBDevice} {keyLoaded : Bool} {clicked : Option DevicePath}
  {table : ContainerTable} {listing : Listing}

theorem observed_buttons : Picker.Observed (hooks keyLoaded)
    fun path enabled => enabled = (path.isSome && keyLoaded) where
  selected _ := rfl
  rebuilt _ := rfl
  unselected held := held

theorem Shows.refreshContainers (shows : Shows other keyLoaded clicked table) :
    Shows device keyLoaded clicked (table.refreshContainers keyLoaded listing device) where
  settled := shows.settled.refresh
  listed path member := by
    rw [ContainerTable.refreshContainers, Picker.items_refresh] at member
    exact directory_of_mem_containersOn member
  buttons := observed_buttons.refresh shows.settled shows.buttons
  clicked path chosen := by
    obtain ⟨before, was, same⟩ := Picker.key_of_chosen_refresh shows.settled chosen
    rw [shows.clicked before was]
    exact congrArg some same.symm

theorem Shows.select (shows : Shows device keyLoaded clicked table) (row : Option Nat) :
    Shows device keyLoaded (row.bind (table.table.rows[·]?))
      (table.select id (hooks keyLoaded) row) where
  settled := shows.settled.select
  listed path member := by
    rw [Picker.items_select] at member
    exact shows.listed path member
  buttons := observed_buttons.select shows.buttons
  clicked path chosen := by
    rw [shows.settled.chosen_select] at chosen
    obtain ⟨shown, clickedRow, found⟩ := Option.bind_eq_some_iff.mp chosen
    rw [clickedRow]
    exact congrArg some (Picker.key_of_lookup found).symm

theorem Shows.updateViewButtonState (shows : Shows device keyLoaded clicked table)
    (loaded : Bool) : Shows device loaded clicked (table.updateViewButtonState loaded) :=
  ⟨⟨shows.settled.rows, shows.settled.chosen⟩, shows.listed, rfl, shows.clicked⟩

theorem Shows.onDevice (shows : Shows device keyLoaded clicked table) {path : DevicePath}
    (chosen : table.chosen = some path) : ∃ selected, device = some selected ∧
      path.directory = selected.mountPoint :=
  shows.listed path (shows.settled.mem chosen)

end ContainerTable

/-! ## The screens -/

namespace DecryptionScreen

/-- What the screen shows, for the devices that were reported and the last clicks. -/
structure Follows (reported : USBDevice → Prop) (deviceClicked : Option String)
    (containerClicked : Option DevicePath) (screen : DecryptionScreen) : Prop where
  tables : screen.tables.Follows reported deviceClicked
  containers : ContainerTable.Shows screen.tables.chosen screen.keyLoaded containerClicked
    screen.tables.state

variable {reported : USBDevice → Prop} {deviceClicked : Option String}
  {containerClicked : Option DevicePath} {screen : DecryptionScreen}

theorem observed (screen : DecryptionScreen) (listing : Listing)
    (containerClicked : Option DevicePath) : Picker.Observed (screen.hooks listing)
      fun device => ContainerTable.Shows device screen.keyLoaded containerClicked where
  selected shows := shows.refreshContainers
  rebuilt shows := shows
  unselected shows := shows.refreshContainers

theorem Follows.mono {more : USBDevice → Prop}
    (follows : screen.Follows reported deviceClicked containerClicked)
    (included : ∀ device, reported device → more device) :
    screen.Follows more deviceClicked containerClicked :=
  ⟨follows.tables.mono included, follows.containers⟩

theorem Follows.refreshDevices {poll : DevicePoll}
    (follows : screen.Follows reported deviceClicked containerClicked)
    (reports : ∀ device, poll.detector.Reports device → reported device) :
    (screen.refreshDevices poll).Follows reported deviceClicked containerClicked := by
  refine ⟨follows.tables.refreshDevices reports, ?_⟩
  unfold DecryptionScreen.refreshDevices DeviceTable.refreshDevices
  cases poll.detector.detectDevices with
  | error exc => exact follows.containers
  | ok devices =>
      exact (screen.observed poll.listing containerClicked).refresh follows.tables.settled
        follows.containers

theorem Follows.polls {polls : List DevicePoll}
    (follows : screen.Follows reported deviceClicked containerClicked)
    (reports : ∀ poll ∈ polls, ∀ device, poll.detector.Reports device → reported device) :
    (polls.foldl DecryptionScreen.refreshDevices screen).Follows reported deviceClicked
      containerClicked := by
  induction polls generalizing screen with
  | nil => exact follows
  | cons poll polls ih =>
      obtain ⟨first, others⟩ := List.forall_mem_cons.mp reports
      exact ih (follows.refreshDevices first) others

theorem Follows.chooseDevice (follows : screen.Follows reported deviceClicked containerClicked)
    (row : Option Nat) (listing : Listing) :
    (screen.chooseDevice row listing).Follows reported
      (row.bind (screen.tables.table.rows[·]?)) containerClicked :=
  ⟨follows.tables.chooseDevice,
    (screen.observed listing containerClicked).select follows.containers⟩

theorem Follows.chooseContainer
    (follows : screen.Follows reported deviceClicked containerClicked) (row : Option Nat) :
    (screen.chooseContainer row).Follows reported deviceClicked
      (row.bind (screen.tables.state.table.rows[·]?)) :=
  ⟨⟨⟨follows.tables.settled.rows, follows.tables.settled.chosen⟩, follows.tables.reported,
    follows.tables.clicked⟩, follows.containers.select row⟩

theorem Follows.refreshContainers
    (follows : screen.Follows reported deviceClicked containerClicked) (listing : Listing) :
    (screen.refreshContainers listing).Follows reported deviceClicked containerClicked :=
  ⟨⟨⟨follows.tables.settled.rows, follows.tables.settled.chosen⟩, follows.tables.reported,
    follows.tables.clicked⟩, follows.containers.refreshContainers⟩

theorem Follows.updated (follows : screen.Follows reported deviceClicked containerClicked)
    (base : DecryptionPage) :
    (screen.updated base).Follows reported deviceClicked containerClicked :=
  ⟨⟨⟨follows.tables.settled.rows, follows.tables.settled.chosen⟩, follows.tables.reported,
    follows.tables.clicked⟩, follows.containers.updateViewButtonState _⟩

theorem Follows.withBase (follows : screen.Follows reported deviceClicked containerClicked)
    {base : DecryptionPage} (sameKey : base.keyWrapper = screen.base.keyWrapper) :
    Follows reported deviceClicked containerClicked { screen with base } := by
  refine ⟨follows.tables, ?_⟩
  show ContainerTable.Shows screen.tables.chosen base.keyWrapper.isSome containerClicked _
  rw [sameKey]
  exact follows.containers

variable {crypto : Cryptography} {probes : HostProbes}
  {serialization : KeySerialization RSAPrivateKey RSAPublicKey} {display : Bytes → Raises Unit}
  {disk : Disk} {draws : AccessDraws} {polls : List DevicePoll} {listing : Listing}

theorem Follows.onChooseKeyClicked
    (follows : screen.Follows reported deviceClicked containerClicked) (path : String) :
    (screen.onChooseKeyClicked path).Follows reported deviceClicked containerClicked := by
  unfold DecryptionScreen.onChooseKeyClicked
  split_ifs
  · exact follows
  · exact follows.withBase rfl

theorem Follows.onLoadKeyClicked
    (follows : screen.Follows reported deviceClicked containerClicked)
    (privatePem : Raises Bytes) (passphrase : String) (generated : RSAPrivateKey) :
    (screen.onLoadKeyClicked serialization privatePem passphrase generated).Follows reported
      deviceClicked containerClicked := by
  unfold DecryptionScreen.onLoadKeyClicked
  split_ifs
  · exact follows
  · split
    · exact follows
    · exact follows.updated _

theorem keyWrapper_viewClicked (page : DecryptionPage) :
    (DecryptionPage.onViewClicked crypto probes page display disk draws).page.keyWrapper =
      page.keyWrapper := by
  unfold DecryptionPage.onViewClicked
  split <;> rfl

theorem Follows.onViewClicked
    (follows : screen.Follows reported deviceClicked containerClicked)
    (reports : ∀ poll ∈ polls, ∀ device, poll.detector.Reports device → reported device) :
    (screen.onViewClicked crypto probes display disk draws polls listing).1.Follows reported
      deviceClicked containerClicked := by
  have polled := (follows.withBase (@keyWrapper_viewClicked crypto probes display disk draws
    screen.page)).polls reports
  unfold DecryptionScreen.onViewClicked
  dsimp only
  split_ifs
  · exact polled.refreshContainers listing
  · exact polled

theorem keyWrapper_rebindClicked (page : DecryptionPage) (answer : RebindAnswer) :
    (DecryptionPage.onRebindClicked crypto probes page serialization disk
      answer).page.keyWrapper = page.keyWrapper := by
  unfold DecryptionPage.onRebindClicked
  split <;> rfl

theorem Follows.onRebindClicked
    (follows : screen.Follows reported deviceClicked containerClicked) (answer : RebindAnswer) :
    (screen.onRebindClicked crypto probes serialization disk answer listing).1.Follows reported
      deviceClicked containerClicked := by
  have rebound := follows.withBase (@keyWrapper_rebindClicked crypto probes serialization disk
    screen.page answer)
  unfold DecryptionScreen.onRebindClicked
  dsimp only
  split
  · exact rebound.refreshContainers listing
  · exact rebound

theorem Follows.onDevice (follows : screen.Follows reported deviceClicked containerClicked)
    {path : DevicePath} (selected : screen.page.selectedContainer = some path) :
    ∃ device, screen.page.selectedDevice = some device ∧ path.directory = device.mountPoint :=
  follows.containers.onDevice selected

end DecryptionScreen

namespace EncryptionScreen

/-- The containers are those of the selected device, and the button is enabled where a device
and a file are chosen. -/
structure Shows (sourceChosen : Bool) (device : Option USBDevice) (panel : EncryptionPanel) :
    Prop where
  listed : ∀ path ∈ panel.containers, ∃ selected, device = some selected ∧
    path.directory = selected.mountPoint
  button : panel.writeEnabled = (device.isSome && sourceChosen)

structure Follows (reported : USBDevice → Prop) (deviceClicked : Option String)
    (screen : EncryptionScreen) : Prop where
  tables : screen.tables.Follows reported deviceClicked
  panel : Shows screen.sourcePath.isSome screen.tables.chosen screen.tables.state

variable {reported : USBDevice → Prop} {deviceClicked : Option String}
  {screen : EncryptionScreen}

theorem observed (screen : EncryptionScreen) (listing : Listing) :
    Picker.Observed (screen.hooks listing) (Shows screen.sourcePath.isSome) where
  selected _ := ⟨fun _ => directory_of_mem_containersOn, rfl⟩
  rebuilt shows := ⟨shows.listed, rfl⟩
  unselected shows :=
    ⟨fun _ (member : _ ∈ containersOn listing none) => directory_of_mem_containersOn member,
      shows.button⟩

theorem Follows.mono {more : USBDevice → Prop} (follows : screen.Follows reported deviceClicked)
    (included : ∀ device, reported device → more device) : screen.Follows more deviceClicked :=
  ⟨follows.tables.mono included, follows.panel⟩

theorem Follows.refreshDevices {poll : DevicePoll}
    (follows : screen.Follows reported deviceClicked)
    (reports : ∀ device, poll.detector.Reports device → reported device) :
    (screen.refreshDevices poll).Follows reported deviceClicked := by
  refine ⟨follows.tables.refreshDevices reports, ?_⟩
  unfold EncryptionScreen.refreshDevices DeviceTable.refreshDevices
  cases poll.detector.detectDevices with
  | error exc => exact follows.panel
  | ok devices => exact (screen.observed poll.listing).refresh follows.tables.settled follows.panel

theorem Follows.polls {polls : List DevicePoll} (follows : screen.Follows reported deviceClicked)
    (reports : ∀ poll ∈ polls, ∀ device, poll.detector.Reports device → reported device) :
    (polls.foldl EncryptionScreen.refreshDevices screen).Follows reported deviceClicked := by
  induction polls generalizing screen with
  | nil => exact follows
  | cons poll polls ih =>
      obtain ⟨first, others⟩ := List.forall_mem_cons.mp reports
      exact ih (follows.refreshDevices first) others

theorem Follows.chooseDevice (follows : screen.Follows reported deviceClicked)
    (row : Option Nat) (listing : Listing) :
    (screen.chooseDevice row listing).Follows reported
      (row.bind (screen.tables.table.rows[·]?)) :=
  ⟨follows.tables.chooseDevice, (screen.observed listing).select follows.panel⟩

theorem Follows.withSource (follows : screen.Follows reported deviceClicked)
    (sourcePath : Option String) :
    (screen.withSource sourcePath).Follows reported deviceClicked :=
  ⟨⟨⟨follows.tables.settled.rows, follows.tables.settled.chosen⟩, follows.tables.reported,
    follows.tables.clicked⟩, ⟨follows.panel.listed, rfl⟩⟩

theorem Follows.withBase (follows : screen.Follows reported deviceClicked)
    (base : EncryptionPage) : Follows reported deviceClicked { screen with base } :=
  ⟨follows.tables, follows.panel⟩

theorem Follows.afterWrite {device : USBDevice}
    (follows : screen.Follows reported (some device.deviceId)) (listing : Listing) :
    (screen.afterWrite device listing).Follows reported (some device.deviceId) := by
  unfold EncryptionScreen.afterWrite
  split_ifs
  · exact ⟨⟨⟨follows.tables.settled.rows, follows.tables.settled.chosen⟩,
      follows.tables.reported, follows.tables.clicked⟩,
      ⟨fun _ => directory_of_mem_containersOn, follows.panel.button⟩⟩
  · exact ⟨follows.tables.reselectDevice, (screen.observed listing).reselect follows.panel⟩

theorem Follows.onExportKeyClicked (follows : screen.Follows reported deviceClicked)
    (exporting : KeyExport) (disk : Disk) :
    (screen.onExportKeyClicked exporting disk).1.Follows reported deviceClicked := by
  unfold EncryptionScreen.onExportKeyClicked
  dsimp only
  split
  · split
    · exact (follows.withBase _).withSource none
    · exact follows.withBase _
    · exact follows.withBase _
    · exact follows.withBase _
  · exact follows.withBase _

variable {crypto : Cryptography} {probes : HostProbes} {attempt : WriteAttempt}
  {confirmed : Option WriteAttempt} {polls morePolls : List DevicePoll} {listing : Listing}
  {disk : Disk}

/-- The device of the write was clicked last, whatever the polls find meanwhile. -/
theorem Follows.onWriteClicked (follows : screen.Follows reported deviceClicked)
    (reports : ∀ poll ∈ polls ++ morePolls, ∀ device, poll.detector.Reports device →
      reported device) :
    (screen.onWriteClicked crypto probes attempt confirmed polls morePolls listing disk).1.Follows
      reported deviceClicked := by
  unfold EncryptionScreen.onWriteClicked
  split
  · rename_i device source selected chosen
    have clicked : deviceClicked = some device.deviceId := follows.tables.clicked device selected
    dsimp only
    split
    · rw [clicked] at follows ⊢
      exact ((follows.withBase _).polls reports).afterWrite listing
    · exact (follows.withBase _).polls reports
  · exact follows.polls reports

end EncryptionScreen

/-! ## Both pages -/

/-- The pages of a window and the devices. -/
structure OpenPages where
  encryption : EncryptionScreen
  decryption : DecryptionScreen
  disk : Disk

/-- What the user does, what the pages do by themselves, and what happens to the devices.  A
click on a row comes with what the row shows. -/
inductive PagesEvent
  | encryptionPolled (poll : DevicePoll)
  | decryptionPolled (poll : DevicePoll)
  | encryptionDeviceClicked (row : Option Nat) (shown : Option String) (listing : Listing)
  | decryptionDeviceClicked (row : Option Nat) (shown : Option String) (listing : Listing)
  | containerClicked (row : Option Nat) (shown : Option DevicePath)
  | sourceChosen (path : String)
  | writeClicked (probes : HostProbes) (attempt : WriteAttempt) (confirmed : Option WriteAttempt)
      (polls morePolls : List DevicePoll) (listing : Listing)
  | exportKeyClicked (exporting : KeyExport)
  | keyChosen (path : String)
  | loadKeyClicked (privatePem : Raises Bytes) (passphrase : String) (generated : RSAPrivateKey)
  | viewClicked (probes : HostProbes) (display : Bytes → Raises Unit) (draws : AccessDraws)
      (polls : List DevicePoll) (listing : Listing)
  | rebindClicked (probes : HostProbes) (answer : RebindAnswer) (listing : Listing)
  | viewerClosed
  | sessionChanged (session : Option PageSession)
  | mediaChanged (change : Disk → Disk)

namespace PagesEvent

def polls : PagesEvent → List DevicePoll
  | .encryptionPolled poll | .decryptionPolled poll => [poll]
  | .writeClicked _ _ _ polls morePolls _ => polls ++ morePolls
  | .viewClicked _ _ _ polls _ => polls
  | _ => []

def encryptionClick? : PagesEvent → Option (Option String)
  | .encryptionDeviceClicked _ shown _ => some shown
  | _ => none

def decryptionClick? : PagesEvent → Option (Option String)
  | .decryptionDeviceClicked _ shown _ => some shown
  | _ => none

def containerClick? : PagesEvent → Option (Option DevicePath)
  | .containerClicked _ shown => some shown
  | _ => none

/-- A device that the detector reported during these events. -/
def Reported (events : List PagesEvent) (device : USBDevice) : Prop :=
  ∃ event ∈ events, ∃ poll ∈ event.polls, poll.detector.Reports device

end PagesEvent

namespace OpenPages

/-- The pages of a new window. -/
def fresh (encryption : EncryptionPage) (decryption : DecryptionPage) (disk : Disk) :
    OpenPages where
  encryption := { base := encryption }
  decryption := .fresh decryption
  disk := disk

variable (pages : OpenPages)

/-- The encryption page has changed the repository, which both pages hold. -/
def afterEncryption (changed : EncryptionScreen × Disk) : OpenPages where
  encryption := changed.1
  decryption := { pages.decryption with
    base := { pages.decryption.base with
      metadataRepository := changed.1.base.metadataRepository } }
  disk := changed.2

/-- The decryption page has changed the repository, which both pages hold. -/
def afterDecryption (changed : DecryptionScreen × Disk) : OpenPages where
  encryption := { pages.encryption with
    base := { pages.encryption.base with
      metadataRepository := changed.1.base.metadataRepository } }
  decryption := changed.1
  disk := changed.2

/-- A click on a row of a table shows what the row does. -/
def Possible : PagesEvent → Prop
  | .encryptionDeviceClicked row shown _ =>
      shown = row.bind (pages.encryption.tables.table.rows[·]?)
  | .decryptionDeviceClicked row shown _ =>
      shown = row.bind (pages.decryption.tables.table.rows[·]?)
  | .containerClicked row shown =>
      shown = row.bind (pages.decryption.tables.state.table.rows[·]?)
  | _ => True

def respond (crypto : Cryptography)
    (serialization : KeySerialization RSAPrivateKey RSAPublicKey) : PagesEvent → OpenPages
  | .encryptionPolled poll =>
      { pages with encryption := pages.encryption.refreshDevices poll }
  | .decryptionPolled poll =>
      { pages with decryption := pages.decryption.refreshDevices poll }
  | .encryptionDeviceClicked row _ listing =>
      { pages with encryption := pages.encryption.chooseDevice row listing }
  | .decryptionDeviceClicked row _ listing =>
      { pages with decryption := pages.decryption.chooseDevice row listing }
  | .containerClicked row _ =>
      { pages with decryption := pages.decryption.chooseContainer row }
  | .sourceChosen path =>
      { pages with encryption := pages.encryption.withSource (some path) }
  | .writeClicked probes attempt confirmed polls morePolls listing =>
      pages.afterEncryption (pages.encryption.onWriteClicked crypto probes attempt confirmed polls
        morePolls listing pages.disk)
  | .exportKeyClicked exporting =>
      let (encryption, disk) := pages.encryption.onExportKeyClicked exporting pages.disk
      { pages with encryption, disk }
  | .keyChosen path => { pages with decryption := pages.decryption.onChooseKeyClicked path }
  | .loadKeyClicked privatePem passphrase generated =>
      { pages with
        decryption := pages.decryption.onLoadKeyClicked serialization privatePem passphrase
          generated }
  | .viewClicked probes display draws polls listing =>
      pages.afterDecryption (pages.decryption.onViewClicked crypto probes display pages.disk draws
        polls listing)
  | .rebindClicked probes answer listing =>
      pages.afterDecryption (pages.decryption.onRebindClicked crypto probes serialization
        pages.disk answer listing)
  | .viewerClosed => { pages with decryption := pages.decryption.onViewerClosed }
  | .sessionChanged session =>
      { pages with
        encryption := { pages.encryption with base := { pages.encryption.base with session } }
        decryption := { pages.decryption with base := { pages.decryption.base with session } } }
  | .mediaChanged change => { pages with disk := change pages.disk }

/-- An event of the open pages. -/
def Step (crypto : Cryptography) (serialization : KeySerialization RSAPrivateKey RSAPublicKey)
    (pages : OpenPages) (event : PagesEvent) (next : OpenPages) : Prop :=
  pages.Possible event ∧ next = pages.respond crypto serialization event

/-- What both screens show, after these events. -/
structure Follows (events : List PagesEvent) (pages : OpenPages) : Prop where
  encryption : pages.encryption.Follows (PagesEvent.Reported events)
    (latest PagesEvent.encryptionClick? events).join
  decryption : pages.decryption.Follows (PagesEvent.Reported events)
    (latest PagesEvent.decryptionClick? events).join
    (latest PagesEvent.containerClick? events).join

section Runs

variable {crypto : Cryptography} {serialization : KeySerialization RSAPrivateKey RSAPublicKey}
  {events : List PagesEvent} {event : PagesEvent} {next start finish : OpenPages}
  {pages : OpenPages}

theorem reported_concat {device : USBDevice} (reported : PagesEvent.Reported events device) :
    PagesEvent.Reported (events ++ [event]) device := by
  obtain ⟨before, member, polled⟩ := reported
  exact ⟨before, List.mem_append_left _ member, polled⟩

theorem reported_of_polls {poll : DevicePoll} (polled : poll ∈ event.polls) (device : USBDevice)
    (reports : poll.detector.Reports device) :
    PagesEvent.Reported (events ++ [event]) device :=
  ⟨event, List.mem_append_right _ (List.mem_singleton_self _), poll, polled, reports⟩

theorem Follows.step (follows : Follows events pages)
    (stepped : Step crypto serialization pages event next) :
    Follows (events ++ [event]) next := by
  obtain ⟨possible, rfl⟩ := stepped
  have encryption := follows.encryption.mono fun device => @reported_concat events event device
  have decryption := follows.decryption.mono fun device => @reported_concat events event device
  have reports : ∀ poll ∈ event.polls, ∀ device, poll.detector.Reports device →
      PagesEvent.Reported (events ++ [event]) device :=
    fun _ => reported_of_polls
  constructor
  · rw [latest_concat]
    cases event with
    | encryptionPolled poll =>
        exact encryption.refreshDevices (reports poll (List.mem_singleton_self poll))
    | encryptionDeviceClicked row shown listing =>
        obtain rfl : shown = row.bind (pages.encryption.tables.table.rows[·]?) := possible
        exact encryption.chooseDevice row listing
    | sourceChosen path => exact encryption.withSource (some path)
    | writeClicked probes attempt confirmed polls morePolls listing =>
        exact encryption.onWriteClicked reports
    | exportKeyClicked exporting => exact encryption.onExportKeyClicked exporting _
    | viewClicked | rebindClicked | sessionChanged => exact encryption.withBase _
    | decryptionPolled | decryptionDeviceClicked | containerClicked | keyChosen | loadKeyClicked
      | viewerClosed | mediaChanged => exact encryption
  · rw [latest_concat, latest_concat]
    cases event with
    | decryptionPolled poll =>
        exact decryption.refreshDevices (reports poll (List.mem_singleton_self poll))
    | decryptionDeviceClicked row shown listing =>
        obtain rfl : shown = row.bind (pages.decryption.tables.table.rows[·]?) := possible
        exact decryption.chooseDevice row listing
    | containerClicked row shown =>
        obtain rfl : shown = row.bind (pages.decryption.tables.state.table.rows[·]?) := possible
        exact decryption.chooseContainer row
    | keyChosen path => exact decryption.onChooseKeyClicked path
    | loadKeyClicked privatePem passphrase generated =>
        exact decryption.onLoadKeyClicked privatePem passphrase generated
    | viewClicked probes display draws polls listing => exact decryption.onViewClicked reports
    | rebindClicked probes answer listing => exact decryption.onRebindClicked answer
    | viewerClosed => exact decryption.updated _
    | writeClicked | sessionChanged => exact decryption.withBase rfl
    | encryptionPolled | encryptionDeviceClicked | sourceChosen | exportKeyClicked
      | mediaChanged => exact decryption

/-- The container lies on the device, which was reported as removable; both are what the user
clicked last. -/
structure Chosen (events : List PagesEvent) (path : DevicePath) (device : USBDevice) : Prop where
  contained : path.directory = device.mountPoint
  removable : device.isRemovable = true
  reported : PagesEvent.Reported events device
  deviceClicked : latest PagesEvent.decryptionClick? events = some (some device.deviceId)
  containerClicked : latest PagesEvent.containerClick? events = some (some path)

theorem Follows.chosen (follows : Follows events pages) {path : DevicePath}
    (selected : pages.decryption.page.selectedContainer = some path) :
    ∃ device, pages.decryption.page.selectedDevice = some device ∧ Chosen events path device := by
  obtain ⟨device, onDevice, contained⟩ := follows.decryption.onDevice selected
  have reported := follows.decryption.tables.chosen_reported onDevice
  have removable : device.isRemovable = true := by
    obtain ⟨event, -, poll, -, reports⟩ := reported
    exact reports.isRemovable
  exact ⟨device, onDevice, contained, removable, reported,
    Option.join_eq_some_iff.mp (follows.decryption.tables.clicked device onDevice),
    Option.join_eq_some_iff.mp (follows.decryption.containers.clicked path selected)⟩

end Runs

/-! ## Pages with the plain device -/

end OpenPages

end CryptoUsb
