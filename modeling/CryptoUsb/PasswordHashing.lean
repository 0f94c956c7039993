import CryptoUsb.JsonFields
import CryptoUsb.MetadataProtection
import Mathlib.Data.Set.Function

/-!
# Password hashing

scrypt digests of passwords and recovery codes, and the keys that are derived
from them under salts of their own.  A digest is kept with its salts and cost
parameters, and is written as JSON.
-/

namespace CryptoUsb

open ByteString JsonText

/-- A scrypt digest with the parameters it was made with. -/
@[ext]
structure PasswordCredential where
  salt : Bytes
  digest : Bytes
  n : Nat
  r : Nat
  p : Nat
  keyLen : Nat
  keyWrapSalt : Option Bytes := none
  deriving DecidableEq

namespace PasswordCredential

def toDict (credential : PasswordCredential) : Json :=
  .obj [
    ("salt", .str (Base64Text.b64encode credential.salt)),
    ("digest", .str (Base64Text.b64encode credential.digest)),
    ("n", .int credential.n),
    ("r", .int credential.r),
    ("p", .int credential.p),
    ("key_len", .int credential.keyLen),
    ("key_wrap_salt", optBase64 credential.keyWrapSalt)]

def fromDict (data : Json) : Raises PasswordCredential := do
  let keyWrapSalt ← getOr data "key_wrap_salt" .null
  let salt ← asBase64 (← getItem data "salt")
  let digest ← asBase64 (← getItem data "digest")
  let n ← asNat (← getItem data "n")
  let r ← asNat (← getItem data "r")
  let p ← asNat (← getItem data "p")
  let keyLen ← asNat (← getItem data "key_len")
  let keyWrapSalt ← asOptional asBase64 keyWrapSalt
  return { salt, digest, n, r, p, keyLen, keyWrapSalt }

@[simp]
theorem fromDict_toDict (credential : PasswordCredential) :
    fromDict credential.toDict = .ok credential := by
  simp [fromDict, toDict, getItem, getOr, memberLookup, pure, Except.pure]

theorem loads_dumps_toDict (credential : PasswordCredential) :
    loads (dumps credential.toDict) = some credential.toDict := by
  refine loads_dumps _ ?_
  simp [toDict, FloatFree, FloatFreeMembers]

end PasswordCredential

/-- The keys derived from these secrets under these salts tell both apart. -/
def Cryptography.ScryptSeparates (crypto : Cryptography) (secrets salts : Set Bytes) : Prop :=
  Set.InjOn (fun input : Bytes × Bytes => deriveVaultKeyFromBytes crypto input.1 input.2)
    (secrets ×ˢ salts)

namespace PasswordHasher

variable (crypto : Cryptography)

def scryptN : Nat := 2 ^ 14

def scryptR : Nat := 8

def scryptP : Nat := 1

def keyLenBytes : Nat := 32

def saltLenBytes : Nat := 16

def minPasswordLength : Nat := 8

def recoveryCodeLength : Nat := 24

def recoveryCodeAlphabet : String := "ABCDEFGHIJKLMNOPQRSTUVWXYZ0123456789"

/-- The codes that `generate_recovery_code` draws from. -/
abbrev RecoveryCode :=
  { code : String // code.length = recoveryCodeLength ∧
    ∀ character ∈ code.toList, character ∈ recoveryCodeAlphabet.toList }

/-- The salts drawn for one digest. -/
structure CredentialSalts where
  salt : BytesOf saltLenBytes
  keyWrapSalt : BytesOf saltLenBytes

def validatePasswordStrength (password : String) : Raises Unit :=
  if password.length < minPasswordLength then
    raise .weakPasswordError s!"Password must be at least {minPasswordLength} characters long"
  else .ok ()

/-- `_derive`. -/
def derive (password : String) (salt : Bytes) (n r p keyLen : Nat) : Bytes :=
  (crypto.scrypt keyLen n r p (encodeUtf8 password) salt).1

/-- The digest of a secret under fresh salts. -/
def credentialFor (salts : CredentialSalts) (secret : String) : PasswordCredential where
  salt := salts.salt.1
  digest := derive crypto secret salts.salt.1 scryptN scryptR scryptP keyLenBytes
  n := scryptN
  r := scryptR
  p := scryptP
  keyLen := keyLenBytes
  keyWrapSalt := some salts.keyWrapSalt.1

def hashPassword (salts : CredentialSalts) (password : String) : Raises PasswordCredential := do
  validatePasswordStrength password
  return credentialFor crypto salts password

/-- The comparison is in constant time, which does not show in its result. -/
def verifyPassword (password : String) (credential : PasswordCredential) : Bool :=
  derive crypto password credential.salt credential.n credential.r credential.p
    credential.keyLen = credential.digest

def deriveVaultKey (password : String) (salt : Bytes) : Bytes :=
  derive crypto password salt scryptN scryptR scryptP keyLenBytes

def deriveRecoveryKey (recoveryCode : String) (salt : Bytes) : Bytes :=
  derive crypto recoveryCode salt scryptN scryptR scryptP keyLenBytes

def hashRecoveryCode (salts : CredentialSalts) (recoveryCode : String) : PasswordCredential :=
  credentialFor crypto salts recoveryCode

def verifyRecoveryCode (recoveryCode : String) (credential : PasswordCredential) : Bool :=
  verifyPassword crypto recoveryCode credential

variable {crypto : Cryptography} {secrets salts : Set Bytes}

theorem hashPassword_eq_ok {drawn : CredentialSalts} {password : String}
    {credential : PasswordCredential} :
    hashPassword crypto drawn password = .ok credential ↔
      minPasswordLength ≤ password.length ∧ credential = credentialFor crypto drawn password := by
  unfold hashPassword validatePasswordStrength
  rw [bind_eq_ok]
  split_ifs with weak
  · simp [Nat.not_le_of_lt weak]
  · simp [pure_eq_ok, Nat.le_of_not_lt weak]

theorem hashPassword_weak {drawn : CredentialSalts} {password : String}
    (weak : ¬ minPasswordLength ≤ password.length) :
    hashPassword crypto drawn password =
      raise .weakPasswordError s!"Password must be at least {minPasswordLength} characters long" := by
  simp [hashPassword, validatePasswordStrength, Nat.lt_of_not_le weak, raise]

theorem length_deriveVaultKey (password : String) (salt : Bytes) :
    (deriveVaultKey crypto password salt).length = AesCipher.aesKeySizeBytes :=
  (crypto.scrypt keyLenBytes scryptN scryptR scryptP (encodeUtf8 password) salt).2

theorem deriveVaultKey_inj (separates : crypto.ScryptSeparates secrets salts)
    {first second : String} {firstSalt secondSalt : Bytes}
    (firstSecret : encodeUtf8 first ∈ secrets) (secondSecret : encodeUtf8 second ∈ secrets)
    (firstDrawn : firstSalt ∈ salts) (secondDrawn : secondSalt ∈ salts)
    (same : deriveVaultKey crypto first firstSalt = deriveVaultKey crypto second secondSalt) :
    first = second ∧ firstSalt = secondSalt := by
  have pairs : (encodeUtf8 first, firstSalt) = (encodeUtf8 second, secondSalt) :=
    separates ⟨firstSecret, firstDrawn⟩ ⟨secondSecret, secondDrawn⟩ (Subtype.ext same)
  obtain ⟨encoded, sameSalt⟩ := Prod.mk.inj pairs
  exact ⟨encodeUtf8_injective encoded, sameSalt⟩

theorem verifyPassword_credentialFor (separates : crypto.ScryptSeparates secrets salts)
    {drawn : CredentialSalts} {secret candidate : String}
    (isSecret : encodeUtf8 secret ∈ secrets) (isCandidate : encodeUtf8 candidate ∈ secrets)
    (isDrawn : drawn.salt.1 ∈ salts) :
    verifyPassword crypto candidate (credentialFor crypto drawn secret) = true ↔
      candidate = secret := by
  constructor
  · intro verified
    have same := of_decide_eq_true verified
    exact (deriveVaultKey_inj separates isCandidate isSecret isDrawn isDrawn same).1
  · rintro rfl
    exact decide_eq_true rfl

end PasswordHasher

end CryptoUsb
