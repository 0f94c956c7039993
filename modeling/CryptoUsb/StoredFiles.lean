import CryptoUsb.SecureAccess

/-!
# Stored files

A file as it was encrypted, and the records that describe it.  Whatever an
attempt grants on such a record is the plaintext of the file, obtained from the
bytes that were stored and from the key the file was encrypted under.
-/

namespace CryptoUsb

open ByteString

/-- An encrypted file with the key and the plaintext it was made from. -/
structure EncryptedFile (crypto : Cryptography) where
  fileId : String
  plaintext : Bytes
  fek : Bytes
  nonce : AesCipher.Nonce
  container : EncryptedContainer
  bytes : Bytes
  encrypted : AesCipher.encrypt crypto nonce plaintext fek =
    .ok (container.nonce, container.ciphertext)
  serialized : container.serialize = .ok bytes

namespace EncryptedFile

variable {crypto : Cryptography} (file : EncryptedFile crypto)

/-- The record names the file and carries the hash of its bytes. -/
structure Describes (metadata : FileMetadata) : Prop where
  fileId : metadata.fileId = file.fileId
  hash : verifyIntegrityHash crypto file.bytes metadata.integrityHash = true

/-- A stored record protects this description of the file. -/
structure Records (stored : ProtectedMetadata) (metadata : FileMetadata) : Prop where
  describes : file.Describes metadata
  written : ∃ keys nonce, MetadataProtector.protect crypto keys nonce metadata = .ok stored

variable {file}

theorem length_nonce : file.container.nonce.length = AesCipher.nonceSizeBytes := by
  rw [(AesCipher.encrypt_eq_ok.mp file.encrypted).2.1]
  exact file.nonce.2

theorem deserialize_bytes : EncryptedContainer.deserialize file.bytes = .ok file.container :=
  EncryptedContainer.deserialize_serialize file.serialized length_nonce

/-- With any wrapped key in the container, the file decrypts exactly when the
key unwraps to its own. -/
theorem decryptBytes_iff (laws : crypto.AesGcmLaws) {wrappedKey plaintext : Bytes}
    {wrapper : KeyWrapper} :
    FileEncryptor.decryptBytes crypto { file.container with wrappedKey } wrapper =
        .ok plaintext ↔
      wrapper.unwrap wrappedKey = .ok file.fek ∧ plaintext = file.plaintext := by
  rw [FileEncryptor.decryptBytes_eq_ok]
  constructor
  · rintro ⟨fek, unwrapped, decrypted⟩
    obtain rfl := AesCipher.key_eq_of_decrypt laws file.encrypted decrypted
    have same := decrypted.symm.trans (AesCipher.decrypt_of_encrypt laws file.encrypted)
    exact ⟨unwrapped, Except.ok.inj same⟩
  · rintro ⟨unwrapped, rfl⟩
    exact ⟨file.fek, unwrapped, AesCipher.decrypt_of_encrypt laws file.encrypted⟩

theorem bytes_eq_of_verified (noSecondPreimage : crypto.NoSecondPreimage file.bytes)
    {metadata : FileMetadata} (describes : file.Describes metadata) {presented : Bytes}
    (verified : verifyIntegrityHash crypto presented metadata.integrityHash = true) :
    presented = file.bytes := by
  have recorded := decodeHex_of_verifyIntegrityHash describes.hash
  rw [decodeHex_of_verifyIntegrityHash verified] at recorded
  exact noSecondPreimage presented (Subtype.ext (Option.some.inj recorded))

theorem unprotect_records (laws : crypto.AesGcmLaws) {stored : ProtectedMetadata}
    {metadata read : FileMetadata} {keys : MetadataProtectionKeys}
    (records : file.Records stored metadata)
    (unprotected : MetadataProtector.unprotect crypto keys stored = .ok read) :
    read = metadata := by
  obtain ⟨writtenKeys, nonce, written⟩ := records.written
  exact MetadataProtector.eq_of_unprotect_protect laws written unprotected

end EncryptedFile

/-! ## What is relied on around a file -/

/-- The assumptions on the primitives and on a family of wrappers under which a
file with these bytes is kept. -/
structure TrustedPrimitives (crypto : Cryptography) (family : KeyWrapper → Prop)
    (bytes : Bytes) : Prop where
  aesGcm : crypto.AesGcmLaws
  encryptsAll : crypto.EncryptsAll
  genuine : GenuineWrappers family
  noSecondPreimage : crypto.NoSecondPreimage bytes

namespace SecureAccessService

/-- Under one binding, what an effective wrapper wrapped, any other unwraps to
the same key or not at all. -/
theorem effectiveWrapper_genuine {crypto : Cryptography} {family : KeyWrapper → Prop}
    (laws : crypto.AesGcmLaws) (genuine : GenuineWrappers family)
    {first second : KeyWrapper} (firstMember : family first) (secondMember : family second)
    {binding : DeviceBinding} {firstIdentity secondIdentity : PresentedIdentity}
    {entropy : WrapEntropy} {keyMaterial wrapped unwrapped : Bytes}
    (wrote : (effectiveWrapper crypto first binding firstIdentity).wrap entropy keyMaterial =
      .ok wrapped)
    (read : (effectiveWrapper crypto second binding secondIdentity).unwrap wrapped =
      .ok unwrapped) : unwrapped = keyMaterial := by
  unfold effectiveWrapper at wrote read
  split_ifs at wrote read
  · exact genuineWrappers_deviceBound laws genuine _ _ ⟨first, _, firstMember, rfl⟩
      ⟨second, _, secondMember, rfl⟩ _ _ _ _ wrote read
  · exact genuine first second firstMember secondMember _ _ _ _ wrote read

theorem effectiveWrapper_wrap_returns {crypto : Cryptography} (total : crypto.EncryptsAll)
    {wrapper : KeyWrapper} {binding : DeviceBinding} {identity : PresentedIdentity}
    {entropy : WrapEntropy} {keyMaterial : Bytes} :
    Returns ((effectiveWrapper crypto wrapper binding identity).wrap entropy keyMaterial) ↔
      Returns (wrapper.wrap entropy keyMaterial) := by
  unfold effectiveWrapper
  split_ifs
  · exact deviceBound_wrap_returns total (length_deriveDeviceBindingKey _ _)
  · exact Iff.rfl

end SecureAccessService

/-! ## Grants on a recorded file -/

theorem EncryptedFile.opens_of_grant {crypto : Cryptography} {file : EncryptedFile crypto}
    (laws : crypto.AesGcmLaws) {service : SecureAccessService} {request : AccessRequest}
    {draws : AccessDraws} {metadata : FileMetadata} {plaintext : Bytes}
    (presented : request.encryptedFileBytes = file.bytes)
    (grant : SecureAccessService.Grant crypto service request draws metadata plaintext) :
    (SecureAccessService.effectiveWrapper crypto request.keyWrapper metadata.deviceBinding
        request.identity).unwrap metadata.wrappedKey = .ok file.fek ∧
      plaintext = file.plaintext := by
  obtain ⟨container, read, opened⟩ := grant.decrypted
  rw [presented, EncryptedFile.deserialize_bytes] at read
  obtain rfl := Except.ok.inj read
  exact (EncryptedFile.decryptBytes_iff laws).mp opened

theorem EncryptedFile.of_grant {crypto : Cryptography} {file : EncryptedFile crypto}
    (laws : crypto.AesGcmLaws) (noSecondPreimage : crypto.NoSecondPreimage file.bytes)
    {service : SecureAccessService} {request : AccessRequest} {draws : AccessDraws}
    {metadata : FileMetadata} {plaintext : Bytes} (describes : file.Describes metadata)
    (grant : SecureAccessService.Grant crypto service request draws metadata plaintext) :
    (SecureAccessService.effectiveWrapper crypto request.keyWrapper metadata.deviceBinding
        request.identity).unwrap metadata.wrappedKey = .ok file.fek ∧
      plaintext = file.plaintext :=
  EncryptedFile.opens_of_grant laws
    (EncryptedFile.bytes_eq_of_verified noSecondPreimage describes grant.accepted.intact) grant

/-- The keys of a record, the bytes of its file and an accepted identity are
granted the plaintext, when the recorded key unwraps to that of the file. -/
theorem EncryptedFile.grant_of_record {crypto : Cryptography} (file : EncryptedFile crypto)
    (laws : crypto.AesGcmLaws) {service : SecureAccessService} {request : AccessRequest}
    {draws : AccessDraws} {metadata : FileMetadata} {stored : ProtectedMetadata}
    {repository : Repository} {nonce : AesCipher.Nonce}
    (notForced : request.forceDeception = false)
    (notThrottled : service.throttle.isLocked draws.throttleClock request.fileId = false)
    (primary : service.repository = some repository)
    (loaded : repository.load request.fileId = some stored)
    (written : MetadataProtector.protect crypto request.protectionKeys nonce metadata =
      .ok stored)
    (presented : request.encryptedFileBytes = file.bytes)
    (accepted : ValidationEngine.RecordAccepted crypto draws.validationClock.1 metadata
      file.bytes request.identity)
    (unwrapped : (SecureAccessService.effectiveWrapper crypto request.keyWrapper
      metadata.deviceBinding request.identity).unwrap metadata.wrappedKey = .ok file.fek) :
    SecureAccessService.Grant crypto service request draws metadata file.plaintext where
  notForced := notForced
  notThrottled := notThrottled
  recorded := ⟨repository, stored, primary, loaded,
    MetadataProtector.unprotect_protect laws written⟩
  accepted := presented ▸ accepted
  decrypted := ⟨file.container, presented ▸ EncryptedFile.deserialize_bytes,
    (EncryptedFile.decryptBytes_iff laws).mpr ⟨unwrapped, rfl⟩⟩

end CryptoUsb
