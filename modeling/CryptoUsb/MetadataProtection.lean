import CryptoUsb.CryptoPrimitives
import CryptoUsb.EncryptedContainers
import CryptoUsb.FileMetadataModel

/-!
# Protected metadata

A metadata record is encrypted and then authenticated by an HMAC under a key of
its own.  Unprotecting checks the HMAC before anything is decrypted.
-/

namespace CryptoUsb

open ByteString JsonText

@[ext]
structure MetadataProtectionKeys where
  encryptionKey : Bytes
  hmacKey : Bytes
  deriving DecidableEq

/-- The random bytes of `generate_protection_keys`. -/
structure ProtectionKeyEntropy where
  encryptionKey : BytesOf AesCipher.aesKeySizeBytes
  hmacKey : BytesOf HmacUtil.hmacKeySizeBytes

def generateProtectionKeys (entropy : ProtectionKeyEntropy) : MetadataProtectionKeys where
  encryptionKey := entropy.encryptionKey.1
  hmacKey := entropy.hmacKey.1

def hkdfInfoEncryptionKey : Bytes :=
  encodeUtf8 "crypto-usb:metadata-protection:encryption-key"

def hkdfInfoHmacKey : Bytes :=
  encodeUtf8 "crypto-usb:metadata-protection:hmac-key"

/-- `password_hasher.derive_vault_key_from_bytes`. -/
def deriveVaultKeyFromBytes (crypto : Cryptography) (secret salt : Bytes) : BytesOf 32 :=
  crypto.scrypt 32 (2 ^ 14) 8 1 secret salt

def deriveProtectionKeysFromKeyMaterial (crypto : Cryptography)
    (privateKeyMaterial passphrase salt : Bytes) : MetadataProtectionKeys :=
  let masterSecret := (deriveVaultKeyFromBytes crypto (privateKeyMaterial ++ passphrase) salt).1
  { encryptionKey :=
      (crypto.hkdfExpandSha256 AesCipher.aesKeySizeBytes hkdfInfoEncryptionKey masterSecret).1
    hmacKey :=
      (crypto.hkdfExpandSha256 HmacUtil.hmacKeySizeBytes hkdfInfoHmacKey masterSecret).1 }

/-- The stored envelope: all but the file id and the version is opaque. -/
@[ext]
structure ProtectedMetadata where
  fileId : String
  metadataVersion : Int
  nonce : Bytes
  ciphertext : Bytes
  hmacTag : Bytes
  deriving DecidableEq

namespace MetadataProtector

/-- The fields joined by `b"|"`. -/
def macInput (fileId : String) (metadataVersion : Int) (nonce ciphertext : Bytes) : Bytes :=
  encodeUtf8 fileId ++ (124 :: (encodeUtf8 (toString metadataVersion) ++
    (124 :: (nonce ++ (124 :: ciphertext)))))

def payload (metadata : FileMetadata) : Bytes :=
  encodeUtf8 (dumps metadata.toDict)

def protect (crypto : Cryptography) (keys : MetadataProtectionKeys) (nonce : AesCipher.Nonce)
    (metadata : FileMetadata) : Raises ProtectedMetadata := do
  let (nonce, ciphertext) ←
    AesCipher.encrypt crypto nonce (payload metadata) keys.encryptionKey
  let macInput := macInput metadata.fileId metadata.metadataVersion nonce ciphertext
  return {
    fileId := metadata.fileId
    metadataVersion := metadata.metadataVersion
    nonce
    ciphertext
    hmacTag := HmacUtil.computeHmac crypto keys.hmacKey macInput }

/-- `FileMetadata.from_dict(json.loads(payload.decode("utf-8")))`. -/
def readPayload (payload : Bytes) : Raises FileMetadata := do
  let text ← decodeUtf8Bytes payload
  match loads text with
  | none => raise .valueError "Expecting value"
  | some data => FileMetadata.fromDict data

def unprotect (crypto : Cryptography) (keys : MetadataProtectionKeys)
    (stored : ProtectedMetadata) : Raises FileMetadata :=
  let macInput :=
    macInput stored.fileId stored.metadataVersion stored.nonce stored.ciphertext
  if HmacUtil.verifyHmac crypto keys.hmacKey macInput stored.hmacTag = false then
    raise .metadataTamperError s!"Metadata integrity check failed for file_id={stored.fileId}"
  else
    match AesCipher.decrypt crypto stored.nonce stored.ciphertext keys.encryptionKey with
    | .error exc =>
        raise .metadataTamperError
          s!"Metadata decryption failed for file_id={stored.fileId}: {exc.message}"
    | .ok payload => readPayload payload

variable {crypto : Cryptography} {keys otherKeys : MetadataProtectionKeys}
  {nonce : AesCipher.Nonce} {metadata : FileMetadata} {stored : ProtectedMetadata}

theorem length_payload_le (metadata : FileMetadata) :
    (payload metadata).length ≤ 48 * metadata.fieldSize + 16000 := by
  have written := length_encodeUtf8_dumps_le metadata.toDict
  have fields := metadata.textSize_toDict
  simp only [payload]
  omega

theorem readPayload_payload (metadata : FileMetadata) :
    readPayload (payload metadata) = .ok metadata := by
  simp [readPayload, payload, FileMetadata.loads_dumps_toDict]

theorem protect_eq_ok :
    protect crypto keys nonce metadata = .ok stored ↔
      AesCipher.encrypt crypto nonce (payload metadata) keys.encryptionKey =
          .ok (stored.nonce, stored.ciphertext) ∧
        stored.fileId = metadata.fileId ∧ stored.metadataVersion = metadata.metadataVersion ∧
        stored.hmacTag = HmacUtil.computeHmac crypto keys.hmacKey
          (macInput stored.fileId stored.metadataVersion stored.nonce stored.ciphertext) := by
  simp only [protect, bind_eq_ok, Prod.exists]
  constructor
  · rintro ⟨nonce, ciphertext, encrypted, written⟩
    obtain rfl := Except.ok.inj written
    exact ⟨encrypted, rfl, rfl, rfl⟩
  · rintro ⟨encrypted, fileId, version, tag⟩
    refine ⟨_, _, encrypted, congrArg Except.ok ?_⟩
    ext1 <;> simp [fileId, version, tag]

theorem unprotect_eq_ok :
    unprotect crypto keys stored = .ok metadata ↔
      HmacUtil.verifyHmac crypto keys.hmacKey (macInput stored.fileId stored.metadataVersion
          stored.nonce stored.ciphertext) stored.hmacTag = true ∧
        ∃ payload, AesCipher.decrypt crypto stored.nonce stored.ciphertext
            keys.encryptionKey = .ok payload ∧ readPayload payload = .ok metadata := by
  simp only [unprotect]
  split_ifs with invalid
  · simp [invalid]
  · have valid := Bool.eq_true_of_not_eq_false invalid
    cases AesCipher.decrypt crypto stored.nonce stored.ciphertext keys.encryptionKey with
    | error exc => simp
    | ok payload => simp [valid]

/-- Unprotecting undoes protecting. -/
theorem unprotect_protect (laws : crypto.AesGcmLaws)
    (written : protect crypto keys nonce metadata = .ok stored) :
    unprotect crypto keys stored = .ok metadata := by
  obtain ⟨encrypted, -, -, tag⟩ := protect_eq_ok.mp written
  refine unprotect_eq_ok.mpr ⟨?_, payload metadata, AesCipher.decrypt_of_encrypt laws encrypted,
    readPayload_payload metadata⟩
  simp [HmacUtil.verifyHmac, tag]

theorem key_eq_of_unprotect (laws : crypto.AesGcmLaws) {other : FileMetadata}
    (written : protect crypto keys nonce metadata = .ok stored)
    (read : unprotect crypto otherKeys stored = .ok other) :
    otherKeys.encryptionKey = keys.encryptionKey := by
  obtain ⟨encrypted, -, -, -⟩ := protect_eq_ok.mp written
  obtain ⟨-, bytes, decrypted, -⟩ := unprotect_eq_ok.mp read
  exact AesCipher.key_eq_of_decrypt laws encrypted decrypted

/-- Whichever keys unprotect a record, they read the record that was written. -/
theorem eq_of_unprotect_protect (laws : crypto.AesGcmLaws) {other : FileMetadata}
    (written : protect crypto keys nonce metadata = .ok stored)
    (read : unprotect crypto otherKeys stored = .ok other) : other = metadata := by
  obtain ⟨encrypted, -, -, -⟩ := protect_eq_ok.mp written
  obtain ⟨-, bytes, decrypted, loaded⟩ := unprotect_eq_ok.mp read
  rw [key_eq_of_unprotect laws written read, AesCipher.decrypt_of_encrypt laws encrypted]
    at decrypted
  obtain rfl := Except.ok.inj decrypted
  rw [readPayload_payload] at loaded
  exact (Except.ok.inj loaded).symm

theorem protect_total (total : crypto.EncryptsAll)
    (size : keys.encryptionKey.length = AesCipher.aesKeySizeBytes) (nonce : AesCipher.Nonce)
    (metadata : FileMetadata) : ∃ stored, protect crypto keys nonce metadata = .ok stored := by
  obtain ⟨ciphertext, encrypted⟩ := AesCipher.encrypt_total total nonce (payload metadata) size
  simp [protect, encrypted, pure, Except.pure]

end MetadataProtector

end CryptoUsb
