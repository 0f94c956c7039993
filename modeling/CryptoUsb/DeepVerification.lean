import CryptoUsb.FailureClasses
import CryptoUsb.CanonicalContainers

/-!
# What deep verification establishes

Deep verification opens the embedded file under the key wrapped in it, and the embedded record
under the protection keys, and compares neither with the other.  A record that was made for
one file passes beside the body of another, and is told apart at the time of access.
-/

namespace CryptoUsb

open ByteString IsoDateTime

namespace SecureContainer

theorem fileId_of_deserialize {crypto : Cryptography} {data : Bytes} {container : SecureContainer}
    (read : deserialize crypto data = .ok container) :
    container.protectedMetadata.fileId = container.fileId :=
  (parts_of_deserialize read).1

end SecureContainer

/-! ## Bodies with the same bytes -/

/-- A body that decrypts is told from the body of a file by its bytes. -/
theorem EncryptedFile.container_eq_iff {crypto : Cryptography} {file : EncryptedFile crypto}
    {body : EncryptedContainer} {presented : Bytes} {keyWrapper : KeyWrapper}
    (opens : Returns (FileEncryptor.decryptBytes crypto body keyWrapper))
    (serialized : body.serialize = .ok presented) :
    body = file.container ↔ presented = file.bytes := by
  constructor
  · rintro rfl
    exact Except.ok.inj (serialized.symm.trans file.serialized)
  · rintro rfl
    obtain ⟨plaintext, opened⟩ := opens
    obtain ⟨fek, -, decrypted⟩ := FileEncryptor.decryptBytes_eq_ok.mp opened
    have nonceSize := (AesCipher.decrypt_eq_ok.mp decrypted).2.1
    have read := EncryptedContainer.deserialize_serialize serialized nonceSize
    exact Except.ok.inj (read.symm.trans file.deserialize_bytes)

/-! ## The links that verification leaves open -/

/-- How the record of a container that was made for a file is linked to the embedded body. -/
structure DeepLinks (crypto : Cryptography) (file : EncryptedFile crypto)
    (metadata : FileMetadata) (container : SecureContainer) (keyWrapper : KeyWrapper)
    (keys : MetadataProtectionKeys) : Prop where
  record : MetadataProtector.unprotect crypto keys container.protectedMetadata = .ok metadata
  fileId : metadata.fileId = container.protectedMetadata.fileId
  readFileId : ∀ data, SecureContainer.deserialize crypto data = .ok container →
    metadata.fileId = container.fileId
  /-- The hash is that of the embedded body exactly when this is the body of the file. -/
  hash : ∀ presented, container.fileContainer.serialize = .ok presented →
    (verifyIntegrityHash crypto presented metadata.integrityHash = true ↔
      container.fileContainer = file.container)
  key : container.fileContainer = file.container →
    Returns (FileEncryptor.decryptBytes crypto
      { container.fileContainer with wrappedKey := metadata.wrappedKey } keyWrapper)
  /-- At the time of access the body of another file fails its check. -/
  access : ∀ (call : ValidationCall) report,
    call.repository.load call.fileId = some container.protectedMetadata → call.keys = keys →
    container.fileContainer.serialize = .ok call.encryptedFileBytes →
    call.result crypto = .ok report →
      (report.report.failed .fileIntegrity = true ↔ container.fileContainer ≠ file.container)

namespace ValidationCall

theorem failed_fileIntegrity {crypto : Cryptography} {call : ValidationCall}
    {report : ValidationReport} {stored : ProtectedMetadata} {metadata : FileMetadata}
    (loaded : call.repository.load call.fileId = some stored)
    (unprotected : MetadataProtector.unprotect crypto call.keys stored = .ok metadata)
    (validated : call.result crypto = .ok report) :
    report.report.failed .fileIntegrity =
      !verifyIntegrityHash crypto call.encryptedFileBytes metadata.integrityHash := by
  rw [result, ValidationEngine.validate_of_unprotected loaded unprotected] at validated
  obtain ⟨checked, checkedEq, returned⟩ := bind_eq_ok.mp validated
  obtain rfl := Except.ok.inj returned
  exact (ValidationEngine.checkRecord_failures (by decide) checkedEq).intact

end ValidationCall

/-- Deep verification succeeds exactly when the body opens under its own wrapped key and the
record under the protection keys.  A record that was made for a file then describes the body
exactly when it is the body of this file. -/
theorem deepVerification_links (crypto : Cryptography) (container : SecureContainer)
    (keyWrapper : KeyWrapper) (keys : MetadataProtectionKeys) :
    (verifyContainerDeep crypto container keyWrapper keys = .ok true ↔
      Returns (FileEncryptor.decryptBytes crypto container.fileContainer keyWrapper) ∧
        Returns (MetadataProtector.unprotect crypto keys container.protectedMetadata)) ∧
    ∀ (file : EncryptedFile crypto) (metadata : FileMetadata), crypto.AesGcmLaws →
      crypto.NoSecondPreimage file.bytes → file.Records container.protectedMetadata metadata →
      metadata.wrappedKey = file.container.wrappedKey →
      verifyContainerDeep crypto container keyWrapper keys = .ok true →
        DeepLinks crypto file metadata container keyWrapper keys := by
  refine ⟨verifyContainerDeep_eq_ok, ?_⟩
  intro file metadata laws noSecondPreimage records sameKey verified
  obtain ⟨opens, read, unprotected⟩ := verifyContainerDeep_eq_ok.mp verified
  obtain rfl := EncryptedFile.unprotect_records laws records unprotected
  have recordId : read.fileId = container.protectedMetadata.fileId := by
    obtain ⟨writtenKeys, nonce, written⟩ := records.written
    exact (MetadataProtector.protect_eq_ok.mp written).2.1.symm
  have hash (presented : Bytes) (serialized : container.fileContainer.serialize = .ok presented) :
      verifyIntegrityHash crypto presented read.integrityHash = true ↔
        container.fileContainer = file.container := by
    rw [EncryptedFile.container_eq_iff opens serialized]
    constructor
    · exact EncryptedFile.bytes_eq_of_verified noSecondPreimage records.describes
    · rintro rfl
      exact records.describes.hash
  constructor
  case record => exact unprotected
  case fileId => exact recordId
  case readFileId =>
    intro data deserialized
    rw [recordId]
    exact SecureContainer.fileId_of_deserialize deserialized
  case hash => exact hash
  case key =>
    intro same
    rw [sameKey, ← same]
    exact opens
  case access =>
    intro call report loaded sameKeys serialized validated
    rw [← sameKeys] at unprotected
    rw [ValidationCall.failed_fileIntegrity loaded unprotected validated, Bool.not_eq_true',
      ← Bool.not_eq_true, hash _ serialized]

/-! ## A record beside another body -/

/-- The record of one plain file with a body. -/
def recordedContainer (body : EncryptedContainer) : SecureContainer where
  fileId := "f"
  fileContainer := body
  protectedMetadata := plainStored (plainCrypto [1]) (plainMetadata [1] {} {})

theorem recordedContainer_verifies (plaintext : Bytes) :
    verifyContainerDeep (plainCrypto [1]) (recordedContainer (plainContainer plaintext))
      (transparentWrapper 1) plainKeys = .ok true := by
  refine verifyContainerDeep_eq_ok.mpr ⟨⟨plaintext, ?_⟩, plainMetadata [1] {} {}, ?_⟩
  · refine FileEncryptor.decryptBytes_eq_ok.mpr ⟨plainFek, rfl, ?_⟩
    exact AesCipher.decrypt_eq_ok.mpr ⟨by decide, plainNonce.2, rfl⟩
  · exact MetadataProtector.unprotect_protect transparent_aesGcmLaws (protect_plainStored _)

/-- A record passes beside the body of another file, whose hash it does not carry. -/
theorem spliced_container_verifies :
    verifyContainerDeep (plainCrypto [1]) (recordedContainer (plainContainer [2]))
        (transparentWrapper 1) plainKeys = .ok true ∧
      ∃ metadata presented, MetadataProtector.unprotect (plainCrypto [1]) plainKeys
          (recordedContainer (plainContainer [2])).protectedMetadata = .ok metadata ∧
        (recordedContainer (plainContainer [2])).fileContainer.serialize = .ok presented ∧
        verifyIntegrityHash (plainCrypto [1]) presented metadata.integrityHash = false := by
  refine ⟨recordedContainer_verifies [2], plainMetadata [1] {} {}, plainBytes [2],
    MetadataProtector.unprotect_protect transparent_aesGcmLaws (protect_plainStored _),
    plainContainer_serialize [2], ?_⟩
  rw [← Bool.not_eq_true]
  intro verified
  have same := @EncryptedFile.bytes_eq_of_verified _ (plainFile [1])
    (markingDigest_noSecondPreimage _) _ (plainMetadata_describes [1] {} {}) _ verified
  have differ : plainBytes [2] ≠ plainBytes [1] := by decide +kernel
  exact differ same

theorem deepVerification_links_plain :
    DeepLinks (plainCrypto [1]) (plainFile [1]) (plainMetadata [1] {} {})
      (recordedContainer (plainContainer [2])) (transparentWrapper 1) plainKeys :=
  (deepVerification_links (plainCrypto [1]) (recordedContainer (plainContainer [2]))
    (transparentWrapper 1) plainKeys).2 (plainFile [1]) (plainMetadata [1] {} {})
      transparent_aesGcmLaws (markingDigest_noSecondPreimage _)
      ⟨plainMetadata_describes [1] {} {}, plainKeys, plainNonce, protect_plainStored _⟩ rfl
      (recordedContainer_verifies [2])

end CryptoUsb
