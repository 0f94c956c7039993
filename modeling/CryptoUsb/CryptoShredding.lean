import CryptoUsb.PersistentCopies
import CryptoUsb.SecureStorage

/-!
# Shredding a stored file by its burn

A store writes the wrapped key of a file to several places, and a burn replaces
it in the local record and in the portable section.  The container keeps the
key it was written with, twice.  What remains after a burn opens the file
exactly when the container is still on the device.
-/

namespace CryptoUsb

open ByteString

/-- A wrapped key that remains for a file: in a record of the repositories, or in
the container on the device. -/
inductive RemainingKey (crypto : Cryptography) (fileId : String)
    (repositories : List Repository) (disk : Disk) (path : DevicePath) : Bytes → Prop
  | recorded {repository : Repository} {stored : ProtectedMetadata}
      {keys : MetadataProtectionKeys} {metadata : FileMetadata}
      (listed : repository ∈ repositories) (loaded : repository.load fileId = some stored)
      (unprotected : MetadataProtector.unprotect crypto keys stored = .ok metadata) :
      RemainingKey crypto fileId repositories disk path metadata.wrappedKey
  | portableSection {container : SecureContainer} {envelope : PortableMetadataEnvelope}
      {keys : MetadataProtectionKeys} {metadata : FileMetadata}
      (read : SecureStorageWriter.readContainer crypto disk path = .ok container)
      (embedded : container.portableMetadata = some envelope)
      (unprotected : MetadataProtector.unprotect crypto keys envelope.protectedMetadata =
        .ok metadata) :
      RemainingKey crypto fileId repositories disk path metadata.wrappedKey
  | embeddedRecord {container : SecureContainer} {keys : MetadataProtectionKeys}
      {metadata : FileMetadata}
      (read : SecureStorageWriter.readContainer crypto disk path = .ok container)
      (unprotected : MetadataProtector.unprotect crypto keys container.protectedMetadata =
        .ok metadata) :
      RemainingKey crypto fileId repositories disk path metadata.wrappedKey
  | embeddedFile {container : SecureContainer}
      (read : SecureStorageWriter.readContainer crypto disk path = .ok container) :
      RemainingKey crypto fileId repositories disk path container.fileContainer.wrappedKey

/-- Nothing that remains opens the file under the owner's wrapper. -/
structure Shredded (crypto : Cryptography) (wrapper : KeyWrapper) (file : EncryptedContainer)
    (fileId : String) (repositories : List Repository) (disk : Disk) (path : DevicePath) :
    Prop where
  keys : ∀ wrappedKey, RemainingKey crypto fileId repositories disk path wrappedKey →
    ∀ fek plaintext, wrapper.unwrap wrappedKey = .ok fek →
      AesCipher.decrypt crypto file.nonce file.ciphertext fek ≠ .ok plaintext
  decryptBytes : ∀ container plaintext,
    SecureStorageWriter.readContainer crypto disk path = .ok container →
      FileEncryptor.decryptBytes crypto container.fileContainer wrapper ≠ .ok plaintext
  verifyContainerDeep : ∀ container keys,
    SecureStorageWriter.readContainer crypto disk path = .ok container →
      verifyContainerDeep crypto container wrapper keys ≠ .ok true

/-- The repositories that hold the record of a stored file: the local table, where
there is one, and the portable section, where there is one. -/
def storedCopies (local? : Option MetadataRepository) (container : SecureContainer)
    (path : DevicePath) : List Repository :=
  (local?.map Repository.sqlite).toList ++
    (container.portableMetadata.map fun _ => Repository.portable ⟨container, path⟩).toList

theorem storedCopies_separate (local? : Option MetadataRepository) (container : SecureContainer)
    (path : DevicePath) : (storedCopies local? container path).Pairwise Repository.Separate := by
  unfold storedCopies
  cases local? with
  | none => cases container.portableMetadata <;> simp
  | some table =>
      cases container.portableMetadata with
      | none => simp
      | some envelope =>
          refine List.pairwise_pair.mpr ?_
          intro firstPath secondPath first
          cases first

theorem mem_storedCopies {local? : Option MetadataRepository} {container : SecureContainer}
    {path : DevicePath} {repository : Repository}
    (listed : repository ∈ storedCopies local? container path) :
    (∃ table, local? = some table ∧ repository = .sqlite table) ∨
      repository = .portable ⟨container, path⟩ := by
  simp only [storedCopies, List.mem_append, Option.mem_toList, Option.map_eq_some_iff] at listed
  rcases listed with ⟨table, given, rfl⟩ | ⟨envelope, -, rfl⟩
  · exact .inl ⟨table, given, rfl⟩
  · exact .inr rfl

namespace SecureStorageService

section Shred

variable {crypto : Cryptography} {family : KeyWrapper → Prop} {probes : HostProbes}
  {request : StoreRequest} {draws : StoreDraws} {prepared : PreparedFile}
  {plaintext bytes : Bytes}

/-- The key that a burn leaves in the records does not open the file. -/
theorem Prepared.burnedKey_fails (laws : crypto.AesGcmLaws) (genuine : GenuineWrappers family)
    (member : family request.keyWrapper)
    (file : Prepared crypto probes request draws prepared plaintext bytes)
    {identity : PresentedIdentity} {entropy : BurnEntropy} {stored : ProtectedMetadata}
    (decoy : entropy.decoyFek.1 ≠ draws.encrypt.fek.1)
    (made : OneTimeAccessEnforcer.burnedRecord crypto prepared.metadata
      (SecureAccessService.effectiveWrapper crypto request.keyWrapper
        prepared.metadata.deviceBinding identity) entropy = .ok stored)
    {keys : MetadataProtectionKeys} {metadata : FileMetadata}
    (unprotected : MetadataProtector.unprotect crypto keys stored = .ok metadata)
    {fek opened : Bytes}
    (unwrapped : (storeWrapper crypto probes request).unwrap metadata.wrappedKey = .ok fek) :
    AesCipher.decrypt crypto prepared.fileContainer.nonce prepared.fileContainer.ciphertext fek ≠
      .ok opened := by
  intro decrypted
  obtain ⟨-, decoyWrapped, wrapped, written⟩ :=
    OneTimeAccessEnforcer.burnedRecord_eq_ok.mp made
  obtain rfl := MetadataProtector.eq_of_unprotect_protect laws written unprotected
  rw [← file.effectiveWrapper_eq none] at unwrapped
  have decoyFek := SecureAccessService.effectiveWrapper_genuine laws genuine member member wrapped
    unwrapped
  have ownFek := AesCipher.key_eq_of_decrypt laws file.file.encrypted decrypted
  exact decoy (decoyFek.symm.trans ownFek)

/-- A round of saves leaves the container as it was but for its portable section. -/
theorem Stored.readContainer_saveAll {repository : Option MetadataRepository}
    {result : StoreResult} {written : SecureWriteResult}
    {portableMetadata : Option PortableMetadataEnvelope}
    (file : Stored crypto probes request draws repository result written prepared
      portableMetadata plaintext bytes) {copies : List Repository}
    (all : copies.Perm (storedCopies result.repository (containerOf prepared portableMetadata)
      written.destination))
    {before : Disk} (kept : before written.destination = result.disk written.destination)
    {stored : ProtectedMetadata} {temporary : Nat → BytesOf 16} {faults : SaveFaults}
    (saved : (OneTimeAccessEnforcer.saveAll crypto stored temporary faults 0 before
      copies).outcome = .ok ()) :
    ∃ portableAfter, SecureStorageWriter.readContainer crypto
      (OneTimeAccessEnforcer.saveAll crypto stored temporary faults 0 before copies).disk
      written.destination =
        .ok { containerOf prepared portableMetadata with portableMetadata := portableAfter } := by
  refine OneTimeAccessEnforcer.readContainer_saveAll ?_ file.wellFormed ?_ saved ?_
  · exact (all.pairwise_iff Repository.Separate.symm).mpr (storedCopies_separate ..)
  · intro repository listed
    rcases mem_storedCopies (all.mem_iff.mp listed) with ⟨table, -, rfl⟩ | rfl
    · right
      intro firstPath secondPath first
      cases first
    · exact .inl rfl
  · rw [SecureStorageWriter.readContainer_congr kept]
    exact file.readContainer

/-- A container that is still on the device opens the file after the burn. -/
theorem Stored.not_shredded (laws : crypto.AesGcmLaws) (undoes : request.keyWrapper.UndoesWrap)
    {repository : Option MetadataRepository} {result : StoreResult} {written : SecureWriteResult}
    {portableMetadata : Option PortableMetadataEnvelope}
    (file : Stored crypto probes request draws repository result written prepared
      portableMetadata plaintext bytes) {copies : List Repository}
    (all : copies.Perm (storedCopies result.repository (containerOf prepared portableMetadata)
      written.destination))
    {before : Disk} (kept : before written.destination = result.disk written.destination)
    {metadata : FileMetadata} {wrapper : KeyWrapper} {entropy : BurnEntropy}
    {faults : SaveFaults} {newKeys : MetadataProtectionKeys}
    (burned : (OneTimeAccessEnforcer.burn crypto before copies metadata wrapper entropy
      faults).outcome = .ok newKeys) {remaining : Disk}
    (present : remaining written.destination = (OneTimeAccessEnforcer.burn crypto before copies
      metadata wrapper entropy faults).disk written.destination)
    (container : EncryptedContainer) (fileId : String) (repositories : List Repository) :
    ¬ Shredded crypto (storeWrapper crypto probes request) container fileId repositories remaining
      written.destination := by
  intro shredded
  obtain ⟨stored, -, saved, burnEq⟩ := OneTimeAccessEnforcer.burn_returns burned
  rw [burnEq] at present
  obtain ⟨portableAfter, readAfter⟩ := file.readContainer_saveAll all kept saved
  rw [← SecureStorageWriter.readContainer_congr present] at readAfter
  exact shredded.decryptBytes _ plaintext readAfter (file.file.decryptBytes laws undoes)

/-- After the burn of a stored file in every copy of its record, what remains
opens nothing exactly when the container is no longer on the device. -/
theorem shredded_iff_removed (laws : crypto.AesGcmLaws) (genuine : GenuineWrappers family)
    (member : family request.keyWrapper) (undoes : request.keyWrapper.UndoesWrap) {disk : Disk}
    {repository : Option MetadataRepository} {written : SecureWriteResult}
    (returned : (storeFile crypto probes request draws disk repository).outcome = .ok written)
    {container : SecureContainer} {metadata : FileMetadata}
    (read : SecureStorageWriter.readContainer crypto
      (storeFile crypto probes request draws disk repository).disk written.destination =
        .ok container)
    (unprotected : MetadataProtector.unprotect crypto written.protectionKeys
      container.protectedMetadata = .ok metadata)
    {copies : List Repository}
    (all : copies.Perm (storedCopies
      (storeFile crypto probes request draws disk repository).repository container
      written.destination))
    {before : Disk} (kept : before written.destination =
      (storeFile crypto probes request draws disk repository).disk written.destination)
    (identity : PresentedIdentity) {entropy : BurnEntropy} {faults : SaveFaults}
    (decoy : entropy.decoyFek.1 ≠ draws.encrypt.fek.1) {newKeys : MetadataProtectionKeys}
    (burned : (OneTimeAccessEnforcer.burn crypto before copies metadata
      (SecureAccessService.effectiveWrapper crypto request.keyWrapper metadata.deviceBinding
        identity) entropy faults).outcome = .ok newKeys)
    {remaining : Disk}
    (left : remaining written.destination = none ∨ remaining written.destination =
      (OneTimeAccessEnforcer.burn crypto before copies metadata
        (SecureAccessService.effectiveWrapper crypto request.keyWrapper metadata.deviceBinding
          identity) entropy faults).disk written.destination) :
    Shredded crypto (storeWrapper crypto probes request) container.fileContainer written.fileId
        (OneTimeAccessEnforcer.burn crypto before copies metadata
          (SecureAccessService.effectiveWrapper crypto request.keyWrapper metadata.deviceBinding
            identity) entropy faults).repositories remaining written.destination ↔
      remaining written.destination = none := by
  obtain ⟨prepared, portableMetadata, plaintext, bytes, file⟩ := storeFile_returns returned
  obtain rfl := Except.ok.inj (read.symm.trans file.readContainer)
  rw [file.keys] at unprotected
  obtain rfl := MetadataProtector.eq_of_unprotect_protect laws file.file.written unprotected
  constructor
  · intro shredded
    rcases left with removed | present
    · exact removed
    · exact absurd shredded (file.not_shredded laws undoes all kept burned present _ _ _)
  · intro removed
    obtain ⟨stored, made, saved, burnEq⟩ := OneTimeAccessEnforcer.burn_returns burned
    rw [burnEq]
    have sameId : stored.fileId = written.fileId :=
      (OneTimeAccessEnforcer.fileId_burnedRecord made).trans file.fileId.symm
    have unreadable (container : SecureContainer) : SecureStorageWriter.readContainer crypto
        remaining written.destination ≠ .ok container := by
      simp [SecureStorageWriter.readContainer, removed]
    refine ⟨?_, fun container _ read => absurd read (unreadable container),
      fun container _ read => absurd read (unreadable container)⟩
    intro wrappedKey remainingKey fek opened unwrapped
    cases remainingKey with
    | recorded listed loaded unprotected =>
        have held := (OneTimeAccessEnforcer.saveAll_holds
          (OneTimeAccessEnforcer.saves_of_saveAll saved)).2 _ listed
        rw [sameId] at held
        obtain rfl := Option.some.inj (held.symm.trans loaded)
        exact file.file.burnedKey_fails laws genuine member decoy made unprotected unwrapped
    | portableSection read => exact absurd read (unreadable _)
    | embeddedRecord read => exact absurd read (unreadable _)
    | embeddedFile read => exact absurd read (unreadable _)

end Shred

end SecureStorageService

/-! ## Burning a plain file -/

section Burn

variable {bindDevice : Bool} {prepared : PreparedFile} {plaintext bytes : Bytes}

/-- A plain file and its record are small. -/
theorem plainPrepared_small (file : SecureStorageService.Prepared storeCrypto plainProbes
      (plainStoreRequest (transparentWrapper 1) bindDevice) plainStoreDraws prepared plaintext
      bytes) : bytes.length < 2 ^ 61 ∧ prepared.metadata.fieldSize < 2 ^ 30 := by
  obtain ⟨_, -, -, shortText⟩ := algorithm_ascii bindDevice
  obtain ⟨wrapped, wrote, shortKey⟩ :=
    transparentWrapper_wraps bindDevice plainStoreDraws.encrypt.wrap plainStoreDraws.encrypt.fek.2
  obtain ⟨algorithm, wrappedEq, encrypted⟩ :=
    FileEncryptor.encryptBytes_eq_ok.mp file.encrypted
  obtain ⟨-, nonceEq, made⟩ := AesCipher.encrypt_eq_ok.mp encrypted
  obtain ⟨-, ciphertextEq⟩ := transparent_encrypt.mp made
  obtain rfl := Except.ok.inj file.source
  obtain rfl := Except.ok.inj (wrote.symm.trans wrappedEq)
  have container : prepared.fileContainer = plainStoreContainer
      (plainStoreWrapper (transparentWrapper 1) bindDevice).algorithm
      prepared.fileContainer.wrappedKey :=
    EncryptedContainer.ext algorithm rfl nonceEq ciphertextEq
  constructor
  · have serialized := file.serialized
    rw [container] at serialized
    exact plainContainer_small serialized
  · rw [file.metadata]
    exact plainMetadata_small shortText shortKey

/-- The record that burns a plain file is made, and is small. -/
theorem plainBurnedRecord (file : SecureStorageService.Prepared storeCrypto plainProbes
      (plainStoreRequest (transparentWrapper 1) bindDevice) plainStoreDraws prepared plaintext
      bytes) (entropy : BurnEntropy) :
    ∃ stored, OneTimeAccessEnforcer.burnedRecord storeCrypto prepared.metadata
        (SecureAccessService.effectiveWrapper storeCrypto (transparentWrapper 1)
          prepared.metadata.deviceBinding
          (SecureStorageService.enrolledIdentity plainProbes plainDevice none)) entropy =
          .ok stored ∧ stored.fileId = prepared.metadata.fileId ∧ stored.Small := by
  obtain ⟨decoyWrapped, wrapped, shortKey⟩ :=
    transparentWrapper_wraps bindDevice entropy.wrap entropy.decoyFek.2
  rw [plainStoreWrapper, ← file.effectiveWrapper_eq none] at wrapped
  have keySize : (generateProtectionKeys entropy.keys).encryptionKey.length =
      AesCipher.aesKeySizeBytes := entropy.keys.encryptionKey.2
  obtain ⟨stored, written⟩ := MetadataProtector.protect_total transparent_encryptsAll keySize
    entropy.nonce (OneTimeAccessEnforcer.burned prepared.metadata decoyWrapped)
  have oneTime : prepared.metadata.usagePolicy.oneTimeAccess = true := by
    rw [file.metadata]
    rfl
  have made := OneTimeAccessEnforcer.burnedRecord_eq_ok.mpr
    ⟨oneTime, decoyWrapped, wrapped, written⟩
  refine ⟨stored, made, OneTimeAccessEnforcer.fileId_burnedRecord made, ?_⟩
  refine small_of_protect written ?_ ?_
  · rw [file.metadata]
    rfl
  · have size := (plainPrepared_small file).2
    have keyLength := Base64Text.length_b64encode_le decoyWrapped
    have burnedSize := fieldSize_burned_le prepared.metadata decoyWrapped
    omega

/-- A small record fits into the portable section of a plain file. -/
theorem plainStored_canStore {written : SecureWriteResult}
    {portableMetadata : Option PortableMetadataEnvelope}
    (file : PlainStored (transparentWrapper 1) bindDevice written prepared portableMetadata bytes)
    {stored : ProtectedMetadata} (sameId : stored.fileId = prepared.metadata.fileId)
    (small : stored.Small) (path : DevicePath) :
    (Repository.portable ⟨SecureStorageService.containerOf prepared portableMetadata,
      path⟩).CanStore storeCrypto stored := by
  obtain ⟨portableRecord, rfl, -⟩ := file.portable_of_keys rfl rfl
  obtain ⟨bytesSmall, short⟩ := plainPrepared_small file.file
  have version : prepared.metadata.metadataVersion = currentMetadataVersion := by
    rw [file.file.metadata]
  have shortId : (encodeUtf8 prepared.metadata.fileId).length ≤ 255 := by
    rw [file.file.metadata]
    exact length_encodeUtf8_uuidText _
  have portable : ∀ envelope,
      some (PortableMetadataEnvelope.mk plainSalt stored) = some envelope →
        (encodeUtf8 envelope.protectedMetadata.fileId).length ≤ 255 ∧
          envelope.salt.length ≤ 255 ∧ envelope.protectedMetadata.Small := by
    intro envelope given
    obtain rfl := Option.some.inj given
    exact ⟨by rwa [sameId], (by decide : plainSalt.length ≤ 255), small⟩
  obtain ⟨payload, serialized, -⟩ : ∃ payload, (SecureStorageService.containerOf prepared
      (some ⟨plainSalt, stored⟩)).serialize storeCrypto = .ok payload ∧ payload.length < 2 ^ 64 :=
    SecureContainer.serialize_total storeCrypto shortId file.file.serialized bytesSmall
      (small_of_protect file.file.written version (short.trans (by decide))) portable
  exact ⟨_, payload, rfl, serialized⟩

end Burn

/-! ## A burn that leaves the container in place -/

/-- The burn of a plain file in its local and its portable record. -/
def plainLocalBurn (container : SecureContainer) (path : DevicePath) (metadata : FileMetadata) :
    OneTimeAccessEnforcer.BurnResult :=
  OneTimeAccessEnforcer.burn storeCrypto (plainStore (transparentWrapper 1) true).disk
    (storedCopies (plainStore (transparentWrapper 1) true).repository container path) metadata
    (SecureAccessService.effectiveWrapper storeCrypto (transparentWrapper 1)
      metadata.deviceBinding (SecureStorageService.enrolledIdentity plainProbes plainDevice none))
    plainDraws.burn fun _ => none

/-- The plain store, what is read back from it, and its burn that returns. -/
private theorem plainStore_burns :
    ∃ written prepared portableMetadata bytes newKeys,
      (plainStore (transparentWrapper 1) true).outcome = .ok written ∧
      PlainStored (transparentWrapper 1) true written prepared portableMetadata bytes ∧
      (plainLocalBurn (SecureStorageService.containerOf prepared portableMetadata)
        written.destination prepared.metadata).outcome = .ok newKeys := by
  obtain ⟨written, prepared, portableMetadata, bytes, returned, file⟩ :=
    plainStore_returns_transparent true
  obtain ⟨stored, made, sameId, small⟩ := plainBurnedRecord file.file plainDraws.burn
  have fits : ∀ repository ∈ storedCopies (plainStore (transparentWrapper 1) true).repository
      (SecureStorageService.containerOf prepared portableMetadata) written.destination,
      repository.CanStore storeCrypto stored := by
    intro repository listed
    rcases mem_storedCopies listed with ⟨table, -, rfl⟩ | rfl
    · trivial
    · exact plainStored_canStore file sameId small _
  have saves : ∀ saved ∈ (OneTimeAccessEnforcer.saveAll storeCrypto stored
      plainDraws.burn.temporary (fun _ => none) 0 (plainStore (transparentWrapper 1) true).disk
      (storedCopies (plainStore (transparentWrapper 1) true).repository
        (SecureStorageService.containerOf prepared portableMetadata)
        written.destination)).saves, Returns saved :=
    OneTimeAccessEnforcer.saveAll_returns fits fun _ _ => rfl
  have saved := (OneTimeAccessEnforcer.saveAll_holds saves).1
  refine ⟨written, prepared, portableMetadata, bytes,
    generateProtectionKeys plainDraws.burn.keys, returned, file, ?_⟩
  simp only [plainLocalBurn, OneTimeAccessEnforcer.burn, made, saved]
  rfl

/-- The burn has completed everywhere, and the container still opens the file. -/
theorem opened_after_burn :
    ∃ written container metadata newKeys,
      (plainStore (transparentWrapper 1) true).outcome = .ok written ∧
      SecureStorageWriter.readContainer storeCrypto
        (plainStore (transparentWrapper 1) true).disk written.destination = .ok container ∧
      MetadataProtector.unprotect storeCrypto written.protectionKeys
        container.protectedMetadata = .ok metadata ∧
      (plainLocalBurn container written.destination metadata).outcome = .ok newKeys ∧
      ¬ Shredded storeCrypto (plainStoreWrapper (transparentWrapper 1) true)
        container.fileContainer written.fileId
        (plainLocalBurn container written.destination metadata).repositories
        (plainLocalBurn container written.destination metadata).disk written.destination := by
  obtain ⟨written, prepared, portableMetadata, bytes, newKeys, returned, file, burned⟩ :=
    plainStore_burns
  refine ⟨written, _, prepared.metadata, newKeys, returned, file.readContainer, ?_, burned,
    file.not_shredded transparent_aesGcmLaws (transparentWrapper_undoesWrap 1) (.refl _) rfl burned
      rfl _ _ _⟩
  rw [file.keys]
  exact MetadataProtector.unprotect_protect transparent_aesGcmLaws file.file.written

theorem shredded_iff_removed_plain :
    ∃ written container metadata,
      (plainStore (transparentWrapper 1) true).outcome = .ok written ∧
      (Shredded storeCrypto (plainStoreWrapper (transparentWrapper 1) true)
          container.fileContainer written.fileId
          (plainLocalBurn container written.destination metadata).repositories (fun _ => none)
          written.destination ↔
        (fun _ => none : Disk) written.destination = none) := by
  obtain ⟨written, prepared, portableMetadata, bytes, newKeys, returned, file, burned⟩ :=
    plainStore_burns
  have unprotected : MetadataProtector.unprotect storeCrypto written.protectionKeys
      prepared.protectedMetadata = .ok prepared.metadata := by
    rw [file.keys]
    exact MetadataProtector.unprotect_protect transparent_aesGcmLaws file.file.written
  exact ⟨written, _, prepared.metadata, returned,
    SecureStorageService.shredded_iff_removed transparent_aesGcmLaws transparentWrappers_genuine
      ⟨1, rfl⟩ (transparentWrapper_undoesWrap 1) returned file.readContainer unprotected (.refl _)
      rfl _ plainDecoy_ne burned (.inl rfl)⟩

end CryptoUsb
