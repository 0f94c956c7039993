import CryptoUsb.ByteStrings
import CryptoUsb.Errors

/-!
# Cryptographic primitives

The third-party primitives the program calls are the fields of `Cryptography`;
what is relied on of them is stated by the named laws below.  `AesCipher` and
`HmacUtil` are the program's own thin layer over them.  Bytes drawn from the
operating system's generator are arguments.
-/

namespace CryptoUsb

open ByteString

/-- Byte strings of one length, such as the result of `os.urandom`. -/
abbrev BytesOf (size : Nat) :=
  { bytes : Bytes // bytes.length = size }

inductive AesGcmFailure
  | invalidTag
  | other (text : String)
  deriving DecidableEq, Repr

/-- The primitives of the `cryptography` package and of `hashlib`. -/
structure Cryptography where
  aesGcmEncrypt : (key nonce plaintext : Bytes) → Except String Bytes
  aesGcmDecrypt : (key nonce ciphertext : Bytes) → Except AesGcmFailure Bytes
  sha256 : Bytes → BytesOf 32
  hmacSha256 : (key data : Bytes) → BytesOf 32
  hkdfSha256 : (length : Nat) → (info material : Bytes) → BytesOf length
  hkdfExpandSha256 : (length : Nat) → (info secret : Bytes) → BytesOf length
  scrypt : (length n r p : Nat) → (secret salt : Bytes) → BytesOf length

namespace Cryptography

variable (crypto : Cryptography)

/-- Authenticated decryption undoes encryption and fails under any other key. -/
structure AesGcmLaws : Prop where
  decrypt_encrypt : ∀ {key nonce plaintext ciphertext : Bytes},
    crypto.aesGcmEncrypt key nonce plaintext = .ok ciphertext →
      crypto.aesGcmDecrypt key nonce ciphertext = .ok plaintext
  wrong_key : ∀ {key otherKey nonce plaintext ciphertext other : Bytes},
    crypto.aesGcmEncrypt key nonce plaintext = .ok ciphertext →
      crypto.aesGcmDecrypt otherKey nonce ciphertext = .ok other → otherKey = key

/-- Encryption under a key and a nonce of the right sizes does not fail. -/
def EncryptsAll : Prop :=
  ∀ key nonce plaintext : Bytes, key.length = 32 → nonce.length = 12 →
    ∃ ciphertext, crypto.aesGcmEncrypt key nonce plaintext = .ok ciphertext

/-- No other byte string has the hash of this one. -/
def NoSecondPreimage (bytes : Bytes) : Prop :=
  ∀ other, crypto.sha256 other = crypto.sha256 bytes → other = bytes

end Cryptography

namespace AesCipher

variable (crypto : Cryptography)

def aesKeySizeBytes : Nat := 32

def nonceSizeBytes : Nat := 12

abbrev Nonce := BytesOf nonceSizeBytes

/-- `aes_cipher.encrypt`: nonce and ciphertext under a fresh nonce. -/
def encrypt (nonce : Nonce) (plaintext key : Bytes) : Raises (Bytes × Bytes) :=
  if key.length ≠ aesKeySizeBytes then
    raise .encryptionError s!"AES-256 key must be {aesKeySizeBytes} bytes, got {key.length}"
  else
    match crypto.aesGcmEncrypt key nonce.1 plaintext with
    | .error exc => raise .encryptionError s!"AES-GCM encryption failed: {exc}"
    | .ok ciphertext => .ok (nonce.1, ciphertext)

/-- `aes_cipher.decrypt`. -/
def decrypt (nonce ciphertext key : Bytes) : Raises Bytes :=
  if key.length ≠ aesKeySizeBytes then
    raise .decryptionError s!"AES-256 key must be {aesKeySizeBytes} bytes, got {key.length}"
  else if nonce.length ≠ nonceSizeBytes then
    raise .decryptionError s!"Nonce must be {nonceSizeBytes} bytes, got {nonce.length}"
  else
    match crypto.aesGcmDecrypt key nonce ciphertext with
    | .error .invalidTag =>
        raise .decryptionError "Authentication failed: ciphertext or key is invalid/tampered"
    | .error (.other exc) => raise .decryptionError s!"AES-GCM decryption failed: {exc}"
    | .ok plaintext => .ok plaintext

variable {crypto}

theorem encrypt_eq_ok {nonce : Nonce} {plaintext key storedNonce ciphertext : Bytes} :
    encrypt crypto nonce plaintext key = .ok (storedNonce, ciphertext) ↔
      key.length = aesKeySizeBytes ∧ storedNonce = nonce.1 ∧
        crypto.aesGcmEncrypt key nonce.1 plaintext = .ok ciphertext := by
  unfold encrypt
  by_cases size : key.length = aesKeySizeBytes
  · cases crypto.aesGcmEncrypt key nonce.1 plaintext with
    | error exc => simp [size]
    | ok written => simp [size, eq_comm]
  · simp [size]

theorem decrypt_eq_ok {nonce ciphertext key plaintext : Bytes} :
    decrypt crypto nonce ciphertext key = .ok plaintext ↔
      key.length = aesKeySizeBytes ∧ nonce.length = nonceSizeBytes ∧
        crypto.aesGcmDecrypt key nonce ciphertext = .ok plaintext := by
  unfold decrypt
  by_cases keySize : key.length = aesKeySizeBytes
  · by_cases nonceSize : nonce.length = nonceSizeBytes
    · rcases crypto.aesGcmDecrypt key nonce ciphertext with (_ | exc) | read <;>
        simp [keySize, nonceSize]
    · simp [keySize, nonceSize]
  · simp [keySize]

theorem decrypt_error {nonce ciphertext key : Bytes} {error : PyError}
    (raised : decrypt crypto nonce ciphertext key = .error error) :
    error.kind = .decryptionError := by
  unfold decrypt at raised
  split_ifs at raised
  · cases raised; rfl
  · cases raised; rfl
  · split at raised <;> cases raised <;> rfl

theorem decrypt_of_encrypt (laws : crypto.AesGcmLaws) {nonce : Nonce}
    {plaintext key storedNonce ciphertext : Bytes}
    (encrypted : encrypt crypto nonce plaintext key = .ok (storedNonce, ciphertext)) :
    decrypt crypto storedNonce ciphertext key = .ok plaintext := by
  obtain ⟨size, rfl, written⟩ := encrypt_eq_ok.mp encrypted
  exact decrypt_eq_ok.mpr ⟨size, nonce.2, laws.decrypt_encrypt written⟩

theorem key_eq_of_decrypt (laws : crypto.AesGcmLaws) {nonce : Nonce}
    {plaintext key storedNonce ciphertext otherKey other : Bytes}
    (encrypted : encrypt crypto nonce plaintext key = .ok (storedNonce, ciphertext))
    (decrypted : decrypt crypto storedNonce ciphertext otherKey = .ok other) :
    otherKey = key := by
  obtain ⟨-, rfl, written⟩ := encrypt_eq_ok.mp encrypted
  exact laws.wrong_key written (decrypt_eq_ok.mp decrypted).2.2

theorem encrypt_total (total : crypto.EncryptsAll) (nonce : Nonce) (plaintext : Bytes)
    {key : Bytes} (size : key.length = aesKeySizeBytes) :
    ∃ ciphertext, encrypt crypto nonce plaintext key = .ok (nonce.1, ciphertext) := by
  obtain ⟨ciphertext, written⟩ := total key nonce.1 plaintext size nonce.2
  exact ⟨ciphertext, encrypt_eq_ok.mpr ⟨size, rfl, written⟩⟩

end AesCipher

namespace HmacUtil

def hmacKeySizeBytes : Nat := 32

def computeHmac (crypto : Cryptography) (key data : Bytes) : Bytes :=
  (crypto.hmacSha256 key data).1

/-- `hmac_util.verify_hmac`: the comparison is in constant time, which does not
show in its result. -/
def verifyHmac (crypto : Cryptography) (key data tag : Bytes) : Bool :=
  computeHmac crypto key data = tag

theorem length_computeHmac (crypto : Cryptography) (key data : Bytes) :
    (computeHmac crypto key data).length = 32 :=
  (crypto.hmacSha256 key data).2

end HmacUtil

/-- `hashing.compute_integrity_hash`: the hexadecimal SHA-256 digest. -/
def computeIntegrityHash (crypto : Cryptography) (data : Bytes) : String :=
  hexEncode (crypto.sha256 data).1

def verifyIntegrityHash (crypto : Cryptography) (data : Bytes) (expectedHash : String) : Bool :=
  computeIntegrityHash crypto data = lower expectedHash

theorem decodeHex_of_verifyIntegrityHash {crypto : Cryptography} {data : Bytes}
    {expectedHash : String} (verified : verifyIntegrityHash crypto data expectedHash = true) :
    decodeHex expectedHash = some (crypto.sha256 data).1 :=
  decodeHex_of_lower (of_decide_eq_true verified).symm

theorem verifyIntegrityHash_compute (crypto : Cryptography) (data : Bytes) :
    verifyIntegrityHash crypto data (computeIntegrityHash crypto data) = true := by
  simp [verifyIntegrityHash, computeIntegrityHash]

end CryptoUsb
