import CryptoUsb.StoredFiles

/-!
# Transparent primitives

Primitives that keep their key and their input readable in their output, and so
satisfy every law the development relies on.  They give concrete files, records
and requests, on which a run can be followed to its end.
-/

namespace CryptoUsb

open ByteString IsoDateTime

/-! ## Primitives -/

/-- The beginning of a byte string, filled up with zeros. -/
def padTo (size : Nat) (bytes : Bytes) : BytesOf size :=
  ⟨(bytes ++ List.replicate size 0).take size, by simp⟩

/-- A hash that tells one byte string from all others. -/
def markingDigest (marked bytes : Bytes) : BytesOf 32 :=
  if bytes = marked then padTo 32 [1] else padTo 32 []

/-- Ciphertexts are the key followed by the plaintext; keys are derived by
truncation, from device material by its last bytes. -/
def transparent (digest : Bytes → BytesOf 32) : Cryptography where
  aesGcmEncrypt key nonce plaintext :=
    if key.length = 32 ∧ nonce.length = 12 then .ok (key ++ plaintext) else .error "invalid size"
  aesGcmDecrypt key _ ciphertext :=
    if key = ciphertext.take 32 then .ok (ciphertext.drop 32) else .error .invalidTag
  sha256 := digest
  hmacSha256 key _ := padTo 32 key
  hkdfSha256 length _ material := padTo length material.reverse
  hkdfExpandSha256 length _ secret := padTo length secret
  scrypt length _ _ _ secret salt := padTo length (salt ++ secret)

variable {digest : Bytes → BytesOf 32}

theorem transparent_encrypt {key nonce plaintext ciphertext : Bytes} :
    (transparent digest).aesGcmEncrypt key nonce plaintext = .ok ciphertext ↔
      (key.length = 32 ∧ nonce.length = 12) ∧ ciphertext = key ++ plaintext := by
  simp only [transparent]
  split_ifs with sizes <;> simp [sizes, eq_comm]

theorem transparent_aesGcmLaws : (transparent digest).AesGcmLaws where
  decrypt_encrypt := by
    intro key nonce plaintext ciphertext encrypted
    obtain ⟨⟨size, -⟩, rfl⟩ := transparent_encrypt.mp encrypted
    simp [transparent, List.take_left' size, List.drop_left' size]
  wrong_key := by
    intro key otherKey nonce plaintext ciphertext other encrypted decrypted
    obtain ⟨⟨size, -⟩, rfl⟩ := transparent_encrypt.mp encrypted
    simp only [transparent, List.take_left' size] at decrypted
    split_ifs at decrypted with same
    exact same

theorem transparent_encryptsAll : (transparent digest).EncryptsAll :=
  fun key _ plaintext keySize nonceSize =>
    ⟨key ++ plaintext, transparent_encrypt.mpr ⟨⟨keySize, nonceSize⟩, rfl⟩⟩

theorem markingDigest_noSecondPreimage (marked : Bytes) :
    (transparent (markingDigest marked)).NoSecondPreimage marked := by
  intro other same
  simp only [transparent, markingDigest, if_true] at same
  split_ifs at same with equal
  · exact equal
  · exact absurd same (by decide)

/-! ## Key wrappers -/

/-- A wrapper that puts the number of its key pair before the key. -/
def transparentWrapper (keyPair : UInt8) : KeyWrapper where
  algorithm := "RSA-OAEP"
  wrap _ keyMaterial := .ok (keyPair :: keyMaterial)
  unwrap wrappedKey :=
    match wrappedKey with
    | [] => raise .keyUnwrappingError "RSA-OAEP key unwrapping failed"
    | number :: keyMaterial =>
        if number = keyPair then .ok keyMaterial
        else raise .keyUnwrappingError "RSA-OAEP key unwrapping failed"

def IsTransparentWrapper (wrapper : KeyWrapper) : Prop :=
  ∃ keyPair, wrapper = transparentWrapper keyPair

theorem transparentWrapper_undoesWrap (keyPair : UInt8) :
    (transparentWrapper keyPair).UndoesWrap := by
  rintro entropy keyMaterial wrapped wrote
  obtain rfl := Except.ok.inj wrote
  simp [transparentWrapper]

theorem transparentWrappers_genuine : GenuineWrappers IsTransparentWrapper := by
  rintro _ _ ⟨first, rfl⟩ ⟨second, rfl⟩ entropy keyMaterial wrapped unwrapped wrote read
  obtain rfl := Except.ok.inj wrote
  simp only [transparentWrapper] at read
  split_ifs at read
  · exact (Except.ok.inj read).symm
  · exact absurd read (raise_ne_ok _ _ _)

theorem transparent_trusted (bytes : Bytes) :
    TrustedPrimitives (transparent (markingDigest bytes)) IsTransparentWrapper bytes where
  aesGcm := transparent_aesGcmLaws
  encryptsAll := transparent_encryptsAll
  genuine := transparentWrappers_genuine
  noSecondPreimage := markingDigest_noSecondPreimage bytes

/-! ## A file -/

def plainFek : Bytes := List.replicate 32 7

def plainNonce : AesCipher.Nonce := ⟨List.replicate 12 0, by decide⟩

def plainContainer (plaintext : Bytes) : EncryptedContainer where
  wrapAlgorithm := "RSA-OAEP"
  wrappedKey := 1 :: plainFek
  nonce := plainNonce.1
  ciphertext := plainFek ++ plaintext

def plainBytes (plaintext : Bytes) : Bytes :=
  EncryptedContainer.magic ++ (EncryptedContainer.formatVersion ::
    (lengthPrefixed 1 (encodeUtf8 "RSA-OAEP") ++ (lengthPrefixed 2 (1 :: plainFek) ++
      (plainNonce.1 ++ (plainFek ++ plaintext)))))

private theorem encodeAsciiText_algorithm :
    encodeAsciiText "RSA-OAEP" = .ok (encodeUtf8 "RSA-OAEP") := by
  have ascii : encodeAscii "RSA-OAEP" = some (encodeUtf8 "RSA-OAEP") := by decide +kernel
  simp [encodeAsciiText, ascii]

theorem plainContainer_serialize (plaintext : Bytes) :
    (plainContainer plaintext).serialize = .ok (plainBytes plaintext) :=
  EncryptedContainer.serialize_eq_ok.mpr
    ⟨encodeUtf8 "RSA-OAEP", encodeAsciiText_algorithm, by decide +kernel,
      by simp [plainContainer, plainFek], rfl⟩

/-- The primitives under which a file with this plaintext is kept. -/
abbrev plainCrypto (plaintext : Bytes) : Cryptography :=
  transparent (markingDigest (plainBytes plaintext))

/-- A file encrypted with the transparent primitives. -/
def plainFile (plaintext : Bytes) : EncryptedFile (plainCrypto plaintext) where
  fileId := "f"
  plaintext
  fek := plainFek
  nonce := plainNonce
  container := plainContainer plaintext
  bytes := plainBytes plaintext
  encrypted := AesCipher.encrypt_eq_ok.mpr
    ⟨by decide, rfl, transparent_encrypt.mpr ⟨by decide, rfl⟩⟩
  serialized := plainContainer_serialize plaintext

/-! ## Its record and a request for it -/

def plainInstant : UtcInstant :=
  ⟨{ ticks := 0, inRange := by decide, utcoffset := some .utc }, rfl⟩

/-- A record of the file that is bound to no device. -/
def plainMetadata (plaintext : Bytes) (rules : ExpiryRules) (policy : UsagePolicy) :
    FileMetadata where
  fileId := "f"
  ownerId := "owner"
  wrappedKey := 1 :: plainFek
  wrapAlgorithm := "RSA-OAEP"
  integrityHash := computeIntegrityHash (plainCrypto plaintext) (plainBytes plaintext)
  createdAt := plainInstant.1
  expiryRules := rules
  usagePolicy := policy

def plainKeys : MetadataProtectionKeys where
  encryptionKey := List.replicate 32 5
  hmacKey := List.replicate 32 6

/-- A record as the transparent primitives protect it. -/
def plainStored (crypto : Cryptography) (metadata : FileMetadata) : ProtectedMetadata where
  fileId := metadata.fileId
  metadataVersion := metadata.metadataVersion
  nonce := plainNonce.1
  ciphertext := plainKeys.encryptionKey ++ MetadataProtector.payload metadata
  hmacTag := HmacUtil.computeHmac crypto plainKeys.hmacKey
    (MetadataProtector.macInput metadata.fileId metadata.metadataVersion plainNonce.1
      (plainKeys.encryptionKey ++ MetadataProtector.payload metadata))

def plainDraws : AccessDraws where
  throttleClock := plainInstant
  loginClock := plainInstant
  validationClock := plainInstant
  mismatchClock := plainInstant
  openClock := plainInstant
  sessionId := padTo 16 []
  burn := {
    decoyFek := padTo 32 [8]
    wrap := ⟨[], plainNonce⟩
    keys := ⟨padTo 32 [9], padTo 32 [10]⟩
    nonce := plainNonce
    temporary := fun _ => padTo 16 [] }
  saveFaults := fun _ => none
  unlinkFault := none

/-- A request with the right bytes, keys and wrapper, and a view that returns. -/
def plainRequest (plaintext : Bytes) : AccessRequest where
  fileId := "f"
  encryptedFileBytes := plainBytes plaintext
  keyWrapper := transparentWrapper 1
  protectionKeys := plainKeys
  onGranted := fun _ _ => .ok ()

/-- The local table with one record. -/
def plainRepository (crypto : Cryptography) (metadata : FileMetadata) : Repository :=
  .sqlite (({} : MetadataRepository).upsert (plainStored crypto metadata))

def plainService (crypto : Cryptography) (metadata : FileMetadata) : SecureAccessService where
  repository := some (plainRepository crypto metadata)
  mirrorRepositories := []
  throttle := {}
  tracksUsage := false

theorem protect_plainStored (metadata : FileMetadata) :
    MetadataProtector.protect (transparent digest) plainKeys plainNonce metadata =
      .ok (plainStored (transparent digest) metadata) :=
  MetadataProtector.protect_eq_ok.mpr ⟨AesCipher.encrypt_eq_ok.mpr
    ⟨by decide, rfl, transparent_encrypt.mpr ⟨by decide, rfl⟩⟩, rfl, rfl, rfl⟩

theorem plainDecoy_ne : plainDraws.burn.decoyFek.1 ≠ plainFek := by
  decide

theorem load_plainRepository (crypto : Cryptography) (metadata : FileMetadata) :
    (plainRepository crypto metadata).load metadata.fileId = some (plainStored crypto metadata) :=
  MetadataRepository.load_upsert _ (plainStored crypto metadata)

theorem plainMetadata_describes (plaintext : Bytes) (rules : ExpiryRules) (policy : UsagePolicy) :
    (plainFile plaintext).Describes (plainMetadata plaintext rules policy) :=
  ⟨rfl, verifyIntegrityHash_compute _ _⟩

theorem plainMetadata_valid (plaintext : Bytes) (rules : ExpiryRules) (policy : UsagePolicy) :
    MetadataController.validate (plainMetadata plaintext rules policy) = .ok () := by
  obtain ⟨length, hex⟩ :=
    computeIntegrityHash_valid (plainCrypto plaintext) (plainBytes plaintext)
  simp [MetadataController.validate, plainMetadata, length, hex]

theorem plainGrant (plaintext : Bytes) {rules : ExpiryRules} {policy : UsagePolicy}
    (holds : ValidationEngine.PolicyHolds plainInstant.1 (plainMetadata plaintext rules policy)) :
    SecureAccessService.Grant (plainCrypto plaintext)
      (plainService (plainCrypto plaintext) (plainMetadata plaintext rules policy))
      (plainRequest plaintext) plainDraws (plainMetadata plaintext rules policy) plaintext :=
  (plainFile plaintext).grant_of_record transparent_aesGcmLaws rfl rfl rfl
    (load_plainRepository _ _) (protect_plainStored _) rfl
    ⟨plainMetadata_valid plaintext rules policy, verifyIntegrityHash_compute _ _, holds,
      (DeviceBindingValidator.validate_ok _ _).mpr ⟨nofun, nofun⟩⟩ rfl

end CryptoUsb
