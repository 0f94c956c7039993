import CryptoUsb.SecureStorage

/-!
# Stores that fail

The record of a file is saved to the local repository before its container is
written.  A store that raises leaves the repository as it was exactly when it
does not get as far as that save.
-/

namespace CryptoUsb

open ByteString

namespace SecureStorageService

/-- A store saves this record: the file can be read, encrypted and recorded, and the
save meets no fault. -/
structure SavesRecord (crypto : Cryptography) (probes : HostProbes) (request : StoreRequest)
    (draws : StoreDraws) (stored : ProtectedMetadata) : Prop where
  together : request.portableMetadataKeys.isSome = request.portableMetadataSalt.isSome
  made : ∃ prepared plaintext bytes,
    Prepared crypto probes request draws prepared plaintext bytes ∧
      prepared.protectedMetadata = stored
  spared : draws.saveFault = none

/-- The repository is there and holds the same records as before. -/
def KeepsRecords (before : MetadataRepository) (result : StoreResult) : Prop :=
  ∃ after, result.repository = some after ∧
    ∀ fileId, after.load fileId = before.load fileId

variable {crypto : Cryptography} {probes : HostProbes} {request : StoreRequest}
  {draws : StoreDraws} {disk : Disk} {before : MetadataRepository}

/-- Nothing after the save touches the repository. -/
theorem storeFile_repository (crypto : Cryptography) (probes : HostProbes)
    (request : StoreRequest) (draws : StoreDraws) (disk : Disk) (before : MetadataRepository) :
    (∃ stored, SavesRecord crypto probes request draws stored ∧
        (storeFile crypto probes request draws disk (some before)).repository =
          some (before.upsert stored)) ∨
      (∀ stored, ¬ SavesRecord crypto probes request draws stored) ∧
        (storeFile crypto probes request draws disk (some before)).repository =
          some before := by
  unfold storeFile
  split_ifs with apart
  · exact .inr ⟨fun stored saves => apart saves.together, rfl⟩
  · cases prepareEq : prepareFile crypto probes request draws with
    | error exc =>
        refine .inr ⟨fun stored saves => ?_, rfl⟩
        obtain ⟨prepared, plaintext, bytes, file, -⟩ := saves.made
        rw [prepareFile_eq_ok.mpr ⟨plaintext, bytes, file⟩] at prepareEq
        cases prepareEq
    | ok prepared =>
        obtain ⟨plaintext, bytes, file⟩ := prepareFile_eq_ok.mp prepareEq
        cases spared : draws.saveFault with
        | some fault =>
            refine .inr ⟨fun stored saves => ?_, rfl⟩
            exact nomatch spared.symm.trans saves.spared
        | none =>
            refine .inl ⟨prepared.protectedMetadata,
              ⟨not_not.mp apart, ⟨prepared, plaintext, bytes, file, rfl⟩, spared⟩, ?_⟩
            simp only [saveRecord, MetadataRepository.save]
            split
            · rfl
            · split <;> rfl

theorem SavesRecord.unique {stored other : ProtectedMetadata}
    (saves : SavesRecord crypto probes request draws stored)
    (alsoSaves : SavesRecord crypto probes request draws other) : stored = other := by
  obtain ⟨prepared, plaintext, bytes, file, rfl⟩ := saves.made
  obtain ⟨preparedToo, plaintextToo, bytesToo, fileToo, rfl⟩ := alsoSaves.made
  have prepareEq := prepareFile_eq_ok.mpr ⟨plaintext, bytes, file⟩
  rw [prepareFile_eq_ok.mpr ⟨plaintextToo, bytesToo, fileToo⟩] at prepareEq
  rw [Except.ok.inj prepareEq]

theorem load_upsert_eq_iff {stored : ProtectedMetadata} :
    (∀ fileId, (before.upsert stored).load fileId = before.load fileId) ↔
      before.load stored.fileId = some stored := by
  constructor
  · intro kept
    rw [← kept, MetadataRepository.load_upsert]
  · intro present fileId
    by_cases same : fileId = stored.fileId
    · rw [same, MetadataRepository.load_upsert, present]
    · exact MetadataRepository.load_upsert_other same

/-- A store, whether it raises or not, keeps the records exactly when it saves none
but one that was there. -/
theorem keepsRecords_iff :
    KeepsRecords before (storeFile crypto probes request draws disk (some before)) ↔
      ∀ stored, SavesRecord crypto probes request draws stored →
        before.load stored.fileId = some stored := by
  rcases storeFile_repository crypto probes request draws disk before with
    ⟨stored, saves, repository⟩ | ⟨notSaved, repository⟩
  · have keeps : KeepsRecords before
        (storeFile crypto probes request draws disk (some before)) ↔
          before.load stored.fileId = some stored := by
      simp only [KeepsRecords, repository, Option.some.injEq, exists_eq_left']
      exact load_upsert_eq_iff
    rw [keeps]
    constructor
    · intro present other alsoSaves
      rwa [alsoSaves.unique saves]
    · intro present
      exact present stored saves
  · constructor
    · intro _ stored saves
      exact absurd saves (notSaved stored)
    · intro _
      exact ⟨before, repository, fun _ => rfl⟩

/-! ## A device that fills up -/

theorem writeContainer_raises (crypto : Cryptography) (probes : HostProbes) (disk : Disk)
    (container : SecureContainer) (device : USBDevice) (filename : Option String)
    (overwrite : Bool) (random : BytesOf 16) (fault : WriteFault) :
    ∃ exc, (SecureStorageWriter.writeContainer crypto probes disk container device filename
      overwrite random (some fault)).2 = .error exc := by
  unfold SecureStorageWriter.writeContainer
  cases container.serialize crypto with
  | error exc => exact ⟨exc, rfl⟩
  | ok payload =>
      simp only [replaceFile]
      split_ifs <;> exact ⟨_, rfl⟩

/-- A store whose container is not written raises. -/
theorem storeFile_raises {fault : WriteFault} (failed : draws.writeFault = some fault)
    (repository : Option MetadataRepository) :
    ∃ exc, (storeFile crypto probes request draws disk repository).outcome = .error exc := by
  unfold storeFile
  split_ifs with apart
  · exact ⟨_, rfl⟩
  cases prepareFile crypto probes request draws with
  | error exc => exact ⟨exc, rfl⟩
  | ok prepared =>
      rcases savedEq : saveRecord repository prepared.protectedMetadata draws.saveFault with
        ⟨repositoryAfter, exc | _⟩
      · simp [savedEq]
      simp only [savedEq]
      cases portableEnvelope crypto request draws prepared.metadata with
      | error exc => exact ⟨exc, rfl⟩
      | ok portableMetadata =>
          obtain ⟨exc, raised⟩ := writeContainer_raises crypto probes disk
            (containerOf prepared portableMetadata) request.device
            (some (prepared.metadata.fileId ++ ".cusc")) request.overwrite draws.temporary fault
          rw [← failed] at raised
          simp only
          split
          · exact ⟨_, rfl⟩
          · rename_i written
            rw [written] at raised
            cases raised

theorem Prepared.of_faults {prepared : PreparedFile} {plaintext bytes : Bytes}
    (file : Prepared crypto probes request draws prepared plaintext bytes)
    (saveFault writeFault : Option WriteFault) :
    Prepared crypto probes request { draws with saveFault, writeFault } prepared plaintext
      bytes :=
  ⟨file.targeted, file.source, file.encrypted, file.serialized, file.metadata, file.keys,
    file.written⟩

/-- The plain store on a device without room for its container. -/
def fullDeviceStore : StoreResult :=
  storeFile storeCrypto plainProbes (plainStoreRequest (transparentWrapper 1) false)
    { plainStoreDraws with
      saveFault := none
      writeFault := some ⟨.write 0, "No space left on device", false⟩ } (fun _ => none) (some {})

/-- The record stays although the container was never written. -/
theorem fullDeviceStore_orphan :
    (∃ exc, fullDeviceStore.outcome = .error exc) ∧ ¬ KeepsRecords {} fullDeviceStore := by
  refine ⟨storeFile_raises rfl _, ?_⟩
  rw [fullDeviceStore, keepsRecords_iff]
  obtain ⟨_, prepared, _, bytes, _, stored⟩ := plainStore_returns_transparent false
  have saves := stored.file.of_faults none (some ⟨.write 0, "No space left on device", false⟩)
  intro kept
  exact nomatch kept prepared.protectedMetadata ⟨rfl, ⟨prepared, _, bytes, saves, rfl⟩, rfl⟩

end SecureStorageService

end CryptoUsb
