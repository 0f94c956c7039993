import CryptoUsb.AtomicReplacement
import CryptoUsb.CanonicalContainers
import CryptoUsb.SecureStorage
import CryptoUsb.TransitionRuns

/-!
# Saves of a portable record

A save replaces the record in the portable section of one container file and writes the whole
container again.  However many saves there are, the file holds the container that was there
with the last of the records, and nothing else about it has changed.
-/

namespace CryptoUsb

open ByteString TransitionRuns

/-! ## Runs of saves -/

/-- One save, with the random bytes of its temporary file. -/
structure PortableSave where
  stored : ProtectedMetadata
  random : BytesOf 16
  fault : Option WriteFault

/-- A save on the device and the repository in memory that returned. -/
def PortableSave.Step (crypto : Cryptography) (state : Disk × PortableMetadataRepository)
    (event : PortableSave) (next : Disk × PortableMetadataRepository) : Prop :=
  state.2.save crypto state.1 event.stored event.random event.fault = (next.1, next.2, .ok ())

/-- The record of the last save, or the one that was there. -/
def lastSaved (original : ProtectedMetadata) (events : List PortableSave) : ProtectedMetadata :=
  (events.getLast?.map PortableSave.stored).getD original

/-- The container with this record in its portable section. -/
def SecureContainer.withRecord (container : SecureContainer) (salt : Bytes)
    (stored : ProtectedMetadata) : SecureContainer :=
  { container with portableMetadata := some { salt, protectedMetadata := stored } }

/-- The file and the repository in memory hold the same container. -/
structure InStep (crypto : Cryptography) (container : SecureContainer) (path : DevicePath)
    (state : Disk × PortableMetadataRepository) : Prop where
  memory : state.2 = ⟨container, path⟩
  disk : SecureStorageWriter.readContainer crypto state.1 path = .ok container

section Saves

variable {crypto : Cryptography} {container : SecureContainer} {path : DevicePath}
  {envelope : PortableMetadataEnvelope}

theorem withRecord_existing (embedded : container.portableMetadata = some envelope) :
    container.withRecord envelope.salt envelope.protectedMetadata = container := by
  obtain ⟨fileId, file, stored, portable⟩ := container
  obtain rfl : portable = some envelope := embedded
  rfl

theorem deserialize_withRecord {data payload : Bytes}
    (deserialized : SecureContainer.deserialize crypto data = .ok container) {salt : Bytes}
    {stored : ProtectedMetadata}
    (serialized : (container.withRecord salt stored).serialize crypto = .ok payload) :
    SecureContainer.deserialize crypto payload = .ok (container.withRecord salt stored) := by
  have rereads : (container.withRecord salt stored).reread = container.withRecord salt stored :=
    congrArg (SecureContainer.withRecord · salt stored)
      (SecureContainer.reread_of_deserialize deserialized)
  rw [SecureContainer.deserialize_serialize_reread serialized, rereads]

/-- A save that returned leaves file and memory with the new record. -/
theorem inStep_save {state next : Disk × PortableMetadataRepository} {event : PortableSave}
    (embedded : container.portableMetadata = some envelope)
    (inStep : InStep crypto container path state) (saved : event.Step crypto state next) :
    InStep crypto (container.withRecord envelope.salt event.stored) path next := by
  obtain ⟨disk, repository⟩ := state
  obtain ⟨after, saving⟩ := next
  obtain ⟨rfl, read⟩ := inStep
  obtain ⟨data, -, deserialized⟩ := SecureStorageWriter.readContainer_eq_ok.mp read
  have record : PortableMetadataRepository.replaced ⟨container, path⟩ envelope event.stored =
      container.withRecord envelope.salt event.stored := rfl
  simp only [PortableSave.Step, PortableMetadataRepository.save, embedded, record] at saved
  cases serialized : (container.withRecord envelope.salt event.stored).serialize crypto with
  | error exc =>
      simp [SecureStorageWriter.rewriteContainerInPlace, serialized, Except.map] at saved
  | ok payload =>
      cases noFault : event.fault with
      | some fault =>
          simp [SecureStorageWriter.rewriteContainerInPlace, serialized, noFault, replaceFile,
            raise, Except.map] at saved
      | none =>
          rw [noFault, SecureStorageWriter.rewrite_without_fault serialized] at saved
          simp only [Prod.mk.injEq] at saved
          obtain ⟨rfl, rfl, -⟩ := saved
          exact ⟨rfl, SecureStorageWriter.readContainer_eq_ok.mpr
            ⟨payload, Disk.write_self .., deserialize_withRecord deserialized serialized⟩⟩

theorem step_of_serialize {stored : ProtectedMetadata} {payload : Bytes}
    (embedded : container.portableMetadata = some envelope)
    (serialized : (container.withRecord envelope.salt stored).serialize crypto = .ok payload)
    (disk : Disk) (random : BytesOf 16) :
    PortableSave.Step crypto (disk, ⟨container, path⟩) ⟨stored, random, none⟩
      ((disk.remove (temporaryPath path random)).write path payload,
        ⟨container.withRecord envelope.salt stored, path⟩) := by
  have record : PortableMetadataRepository.replaced ⟨container, path⟩ envelope stored =
      container.withRecord envelope.salt stored := rfl
  simp only [PortableSave.Step, PortableMetadataRepository.save, embedded, record,
    SecureStorageWriter.rewrite_without_fault serialized, Except.map]

/-- After any number of saves, file and memory hold the last record. -/
theorem inStep_run {start finish : Disk × PortableMetadataRepository}
    {events : List PortableSave} (embedded : container.portableMetadata = some envelope)
    (opened : InStep crypto container path start)
    (run : Run (PortableSave.Step crypto) start events finish) :
    InStep crypto (container.withRecord envelope.salt
      (lastSaved envelope.protectedMetadata events)) path finish := by
  refine run.history (fun events state => InStep crypto (container.withRecord envelope.salt
    (lastSaved envelope.protectedMetadata events)) path state) ?_ ?_
  · intro events state event next inStep saved
    have stepped := inStep_save rfl inStep saved
    simp only [lastSaved, List.getLast?_append, List.getLast?_singleton, Option.some_or,
      Option.map_some, Option.getD_some]
    exact stepped
  · rw [show lastSaved envelope.protectedMetadata [] = envelope.protectedMetadata from rfl,
      withRecord_existing embedded]
    exact opened

theorem load_withRecord (salt : Bytes) (stored : ProtectedMetadata) (fileId : String) :
    PortableMetadataRepository.load ⟨container.withRecord salt stored, path⟩ fileId =
      if fileId = stored.fileId then some stored else none := by
  by_cases same : fileId = stored.fileId
  · simp [PortableMetadataRepository.load, SecureContainer.withRecord, same]
  · simp [PortableMetadataRepository.load, SecureContainer.withRecord, same, Ne.symm same]

theorem readEncryptedFileBytes_of_read {disk : Disk} {bytes : Bytes}
    (read : SecureStorageWriter.readContainer crypto disk path = .ok container)
    (serialized : container.fileContainer.serialize = .ok bytes) :
    SecureStorageService.readEncryptedFileBytes crypto disk path =
      .ok (container.fileId, bytes) := by
  simp only [SecureStorageService.readEncryptedFileBytes, read, serialized, ok_bind]
  rfl

/-- What a run of saves has done to the file at this path. -/
structure OnlyRecordChanged (crypto : Cryptography) (container : SecureContainer) (salt : Bytes)
    (path : DevicePath) (before : Disk) (record : ProtectedMetadata)
    (state : Disk × PortableMetadataRepository) : Prop where
  read : SecureStorageWriter.readContainer crypto state.1 path = .ok
    { fileId := container.fileId
      fileContainer := container.fileContainer
      protectedMetadata := container.protectedMetadata
      portableMetadata := some { salt, protectedMetadata := record } }
  loads : ∀ fileId, state.2.load fileId = if fileId = record.fileId then some record else none
  reopened : ∀ opened, SecureStorageWriter.readContainer crypto state.1 path = .ok opened →
    ∀ fileId, PortableMetadataRepository.load ⟨opened, path⟩ fileId =
      if fileId = record.fileId then some record else none
  bytes : ∃ bytes,
    SecureStorageService.readEncryptedFileBytes crypto before path =
        .ok (container.fileId, bytes) ∧
      SecureStorageService.readEncryptedFileBytes crypto state.1 path =
        .ok (container.fileId, bytes)

/-- Saves of portable records change the record of the file they are made on, and nothing
else of it. -/
theorem saves_change_only_record {disk : Disk} {events : List PortableSave}
    {finish : Disk × PortableMetadataRepository}
    (read : SecureStorageWriter.readContainer crypto disk path = .ok container)
    (embedded : container.portableMetadata = some envelope)
    (run : Run (PortableSave.Step crypto) (disk, ⟨container, path⟩) events finish) :
    OnlyRecordChanged crypto container envelope.salt path disk
      (lastSaved envelope.protectedMetadata events) finish := by
  have inStep := inStep_run embedded ⟨rfl, read⟩ run
  obtain ⟨data, -, deserialized⟩ := SecureStorageWriter.readContainer_eq_ok.mp read
  obtain ⟨-, blob, fileRead⟩ := SecureContainer.parts_of_deserialize deserialized
  obtain ⟨bytes, serialized⟩ := EncryptedContainer.serialize_of_deserialize fileRead
  constructor
  case read => exact inStep.disk
  case loads =>
    rw [inStep.memory]
    exact load_withRecord _ _
  case reopened =>
    intro opened readAgain
    obtain rfl := Except.ok.inj (inStep.disk.symm.trans readAgain)
    exact load_withRecord _ _
  case bytes =>
    have rewritten : (container.withRecord envelope.salt
        (lastSaved envelope.protectedMetadata events)).fileContainer.serialize = .ok bytes :=
      serialized
    have after := readEncryptedFileBytes_of_read inStep.disk rewritten
    exact ⟨bytes, readEncryptedFileBytes_of_read read serialized, after⟩

end Saves

/-! ## A run of saves -/

/-- A record of a file with nothing in it but its version. -/
def emptyRecord (fileId : String) (version : Int) : ProtectedMetadata where
  fileId
  metadataVersion := version
  nonce := []
  ciphertext := []
  hmacTag := []

/-- A container with such a record in its portable section. -/
def portableContainer (version : Int) : SecureContainer where
  fileId := "f"
  fileContainer := plainContainer []
  protectedMetadata := emptyRecord "f" 1
  portableMetadata := some { salt := [1], protectedMetadata := emptyRecord "f" version }

theorem emptyRecord_small (fileId : String) {version : Int} (nonnegative : 0 ≤ version)
    (small : version < 256 ^ 4) : (emptyRecord fileId version).Small :=
  ⟨nonnegative, small, by simp [emptyRecord], by simp [emptyRecord], by simp [emptyRecord]⟩

theorem portableContainer_reads {version : Int} (nonnegative : 0 ≤ version)
    (small : version < 256 ^ 4) :
    ∃ payload, (portableContainer version).serialize (plainCrypto []) = .ok payload ∧
      SecureContainer.deserialize (plainCrypto []) payload = .ok (portableContainer version) := by
  have shortId : (encodeUtf8 "f").length ≤ 255 := by decide
  obtain ⟨payload, serialized, -⟩ := @SecureContainer.serialize_total (plainCrypto [])
    (portableContainer version) _ shortId (plainContainer_serialize []) (by decide)
    (emptyRecord_small "f" (by decide) (by decide)) (by
      rintro envelope ⟨⟩
      exact ⟨shortId, by simp, emptyRecord_small "f" nonnegative small⟩)
  exact ⟨payload, serialized, SecureContainer.deserialize_serialize serialized rfl rfl⟩

/-- A second record replaces the first, which is all that a reader notices. -/
theorem saves_change_only_record_once : ∃ disk finish,
    Run (PortableSave.Step (plainCrypto [])) (disk, ⟨portableContainer 1, ⟨"usb", "f"⟩⟩)
        [⟨emptyRecord "f" 2, padTo 16 [], none⟩] finish ∧
      OnlyRecordChanged (plainCrypto []) (portableContainer 1) [1] ⟨"usb", "f"⟩ disk
        (emptyRecord "f" 2) finish := by
  obtain ⟨payload, -, first⟩ := portableContainer_reads (by decide : (0 : Int) ≤ 1) (by decide)
  obtain ⟨next, serialized, -⟩ := portableContainer_reads (by decide : (0 : Int) ≤ 2) (by decide)
  have read : SecureStorageWriter.readContainer (plainCrypto []) (fun _ => some payload)
      ⟨"usb", "f"⟩ = .ok (portableContainer 1) :=
    SecureStorageWriter.readContainer_eq_ok.mpr ⟨payload, rfl, first⟩
  have saved := @step_of_serialize (plainCrypto []) (portableContainer 1) ⟨"usb", "f"⟩ _
    (emptyRecord "f" 2) next rfl serialized (fun _ => some payload) (padTo 16 [])
  exact ⟨_, _, .single saved, saves_change_only_record read rfl (.single saved)⟩

end CryptoUsb
