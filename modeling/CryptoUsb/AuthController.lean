import CryptoUsb.ProtectionKeySlots

/-!
# The authentication controller

Registration, sign-in, change and reset of the credential of an account, and its
deletion.  A change of the credential re-wraps the Vault Master Key: the account
row, the password slot and the recovery slot are written in three commits.
-/

namespace CryptoUsb

open ByteString CommitTraces IsoDateTime

/-- The proof that an owner signed in. -/
structure AuthSession where
  ownerId : String
  method : AuthMethod
  authenticatedAt : UtcInstant
  isDecoy : Bool := false
  vaultKey : Option Bytes := none

/-! ## Challenge and response -/

/-- Keys in PEM form and signatures, of the `cryptography` package. -/
structure KeySerialization (PrivateKey PublicKey : Type) where
  loadPemPrivateKey : (pem passphrase : Bytes) → Raises PrivateKey
  loadPemPublicKey : (pem : Bytes) → Raises PublicKey
  sign : (privateKey : PrivateKey) → (salt challenge : Bytes) → Raises Bytes
  verify : (publicKey : PublicKey) → (signature challenge : Bytes) → Raises Bool

namespace KeyAuthenticator

variable {PrivateKey PublicKey : Type} (serialization : KeySerialization PrivateKey PublicKey)

/-- `rsa_keypair.load_private_key`. -/
def loadPrivateKey (pem passphrase : Bytes) : Raises PrivateKey :=
  match serialization.loadPemPrivateKey pem passphrase with
  | .ok privateKey => .ok privateKey
  | .error exc =>
      if exc.kind ∈ [ErrorClass.valueError, .typeError] then
        raise .cryptoError s!"Failed to load private key: {exc.message}"
      else .error exc

/-- `rsa_keypair.load_public_key`. -/
def loadPublicKey (pem : Bytes) : Raises PublicKey :=
  match serialization.loadPemPublicKey pem with
  | .ok publicKey => .ok publicKey
  | .error exc =>
      if exc.kind = .valueError then
        raise .cryptoError s!"Failed to load public key: {exc.message}"
      else .error exc

/-- The random bytes of one authentication. -/
structure ChallengeDraws where
  challenge : BytesOf 32
  salt : Bytes

/-- A key that does not load fails the authentication. -/
def authenticate (draws : ChallengeDraws) (privateKeyPem passphrase publicKeyPem : Bytes) :
    Raises Bool :=
  match loadPrivateKey serialization privateKeyPem passphrase with
  | .error exc => if exc.kind = .cryptoError then .ok false else .error exc
  | .ok privateKey => do
      let signature ← serialization.sign privateKey draws.salt draws.challenge.1
      match loadPublicKey serialization publicKeyPem with
      | .error exc => if exc.kind = .cryptoError then .ok false else .error exc
      | .ok publicKey => serialization.verify publicKey signature draws.challenge.1

end KeyAuthenticator

/-! ## The controller -/

/-- Whether the controller was constructed with a database manager. -/
structure AuthController where
  hasDatabase : Bool := true

/-- The readings of the clock during one call. -/
structure CallClocks where
  lock : UtcInstant
  remaining : UtcInstant
  outcome : UtcInstant
  session : UtcInstant

/-- What is drawn for a new password and its recovery code. -/
structure CredentialDraws where
  password : PasswordHasher.CredentialSalts
  recoveryCode : PasswordHasher.RecoveryCode
  recovery : PasswordHasher.CredentialSalts
  vault : ProtectionKeys.VaultDraws
  recoveryNonce : AesCipher.Nonce

namespace AuthController

variable (crypto : Cryptography) (controller : AuthController)

def getAccount (ownerId : String) : Transaction UserAccount := do
  let account ← .read fun database => database.accounts.load ownerId
  match account with
  | none => .lift (raise .accountNotFoundError s!"No account found for owner_id={ownerId}")
  | some account => return account

def saveAccount (account : UserAccount) : Transaction Unit :=
  .commit fun database => { database with accounts := database.accounts.save account }

/-- `_fail`. -/
def fail (clock : UtcInstant) (account : UserAccount) : Transaction Unit := do
  let account ← .lift (LockoutPolicy.registerFailure account clock)
  saveAccount account

/-- `_succeed`. -/
def succeed (clocks : CallClocks) (account : UserAccount) (vaultKey : Option Bytes) :
    Transaction AuthSession := do
  saveAccount (LockoutPolicy.registerSuccess account clocks.outcome)
  return {
    ownerId := account.ownerId
    method := account.authMethod
    authenticatedAt := clocks.session
    vaultKey }

/-- The decoy session of a wrong credential. -/
def decoySession (clocks : CallClocks) (ownerId : String) (method : AuthMethod) : AuthSession where
  ownerId := ownerId
  method := method
  authenticatedAt := clocks.session
  isDecoy := true

def requireUnlockedAccount (clocks : CallClocks) (ownerId : String)
    (expectedMethod : AuthMethod) : Transaction UserAccount := do
  let account ← getAccount ownerId
  let locked ← .lift (LockoutPolicy.isLocked account clocks.lock)
  if locked then do
    let seconds ← .lift (LockoutPolicy.secondsRemaining account clocks.remaining)
    .lift (raise .accountLockedError
      s!"Account is locked for {seconds} more second(s) after repeated failed attempts")
  else if account.authMethod ≠ expectedMethod then do
    -- The wrong method counts as a failed attempt.
    fail clocks.outcome account
    .lift (raise .invalidCredentialsError
      s!"Account owner_id={ownerId} does not use {expectedMethod.value} authentication")
  else return account

/-- `_unwrap_vmk_via_password`. -/
def unwrapVmkViaPassword (oldCredential : PasswordCredential) (password : String) :
    Transaction (Option Bytes) :=
  if controller.hasDatabase then
    match oldCredential.keyWrapSalt with
    | none => return none
    | some salt => ProtectionKeys.unwrapVaultMasterKeyViaPassword crypto
        (PasswordHasher.deriveVaultKey crypto password salt)
  else return none

/-- `_unwrap_vmk_via_recovery`. -/
def unwrapVmkViaRecovery (oldRecoveryCodeHash : PasswordCredential) (recoveryCode : String) :
    Transaction (Option Bytes) :=
  if controller.hasDatabase then
    match oldRecoveryCodeHash.keyWrapSalt with
    | none => return none
    | some salt => ProtectionKeys.unwrapVaultMasterKeyViaRecovery crypto
        (PasswordHasher.deriveRecoveryKey crypto recoveryCode salt)
  else return none

/-- `_rewrap_vault_master_key`. -/
def rewrapVaultMasterKey (draws : CredentialDraws) (oldVmk : Option Bytes)
    (newCredential : PasswordCredential) (newPassword : String)
    (newRecoveryCodeHash : PasswordCredential) (newRecoveryCode : String) : Transaction Unit :=
  if controller.hasDatabase then
    match newCredential.keyWrapSalt, newRecoveryCodeHash.keyWrapSalt with
    | some passwordSalt, some recoverySalt =>
        let newVaultKey := PasswordHasher.deriveVaultKey crypto newPassword passwordSalt
        let newRecoveryKey := PasswordHasher.deriveRecoveryKey crypto newRecoveryCode recoverySalt
        match oldVmk with
        | some oldVmk => do
            ProtectionKeys.wrapVaultMasterKeyForPassword crypto draws.vault.nonce oldVmk
              newVaultKey
            ProtectionKeys.wrapVaultMasterKeyForRecovery crypto draws.recoveryNonce oldVmk
              newRecoveryKey
        | none => do
            let _ ← ProtectionKeys.establishVaultMasterKey crypto draws.vault
              draws.recoveryNonce newVaultKey newRecoveryKey
            return ()
    | _, _ => .lift (raise .assertionError "")
  else return ()

def registerPasswordAccount (draws : CredentialDraws) (clock : UtcInstant)
    (ownerId password : String) : Transaction (UserAccount × String) := do
  let isRegistered ← .read fun database => .ok (database.accounts.exists ownerId)
  if isRegistered then
    .lift (raise .accountAlreadyExistsError s!"An account already exists for owner_id={ownerId}")
  else do
    let credential ← .lift (PasswordHasher.hashPassword crypto draws.password password)
    let recoveryCode := draws.recoveryCode.1
    let recoveryCodeHash := PasswordHasher.hashRecoveryCode crypto draws.recovery recoveryCode
    let account : UserAccount := {
      ownerId
      credential := .password credential
      createdAt := clock.1
      recoveryCodeHash := some recoveryCodeHash }
    saveAccount account
    rewrapVaultMasterKey crypto controller draws none credential password recoveryCodeHash
      recoveryCode
    return (account, recoveryCode)

def registerPrivateKeyAccount (clock : UtcInstant) (ownerId : String) (publicKeyPem : Bytes) :
    Transaction UserAccount := do
  let isRegistered ← .read fun database => .ok (database.accounts.exists ownerId)
  if isRegistered then
    .lift (raise .accountAlreadyExistsError s!"An account already exists for owner_id={ownerId}")
  else do
    let account : UserAccount := {
      ownerId
      credential := .privateKey { publicKeyPem }
      createdAt := clock.1 }
    saveAccount account
    return account

/-- A wrong password gives a decoy session and counts as a failure. -/
def authenticatePassword (salt : BytesOf PasswordHasher.saltLenBytes) (clocks : CallClocks)
    (ownerId password : String) : Transaction AuthSession := do
  let account ← requireUnlockedAccount clocks ownerId .password
  match account.credential with
  | .privateKey _ => .lift (raise .assertionError "")
  | .password credential =>
      if PasswordHasher.verifyPassword crypto password credential then
        match credential.keyWrapSalt with
        | some keyWrapSalt =>
            succeed clocks account (some (PasswordHasher.deriveVaultKey crypto password keyWrapSalt))
        | none => do
            -- An account from before the salt existed gets one at its first sign-in.
            let account := { account with
              credential := .password { credential with keyWrapSalt := some salt.1 } }
            saveAccount account
            succeed clocks account (some (PasswordHasher.deriveVaultKey crypto password salt.1))
      else do
        fail clocks.outcome account
        return decoySession clocks ownerId .password

variable {PrivateKey PublicKey : Type} (serialization : KeySerialization PrivateKey PublicKey)

def authenticatePrivateKey (draws : KeyAuthenticator.ChallengeDraws)
    (salt : BytesOf PasswordHasher.saltLenBytes) (clocks : CallClocks) (ownerId : String)
    (privateKeyPem passphrase : Bytes) : Transaction AuthSession := do
  let account ← requireUnlockedAccount clocks ownerId .privateKey
  match account.credential with
  | .password _ => .lift (raise .assertionError "")
  | .privateKey credential => do
      let verified ← .lift (KeyAuthenticator.authenticate serialization draws privateKeyPem
        passphrase credential.publicKeyPem)
      -- The secret of the vault key is `private_key_pem + b"|" + passphrase`.
      let vaultKey := fun keyWrapSalt : Bytes =>
        (deriveVaultKeyFromBytes crypto (privateKeyPem ++ 124 :: passphrase) keyWrapSalt).1
      if verified then
        match credential.keyWrapSalt with
        | some keyWrapSalt => succeed clocks account (some (vaultKey keyWrapSalt))
        | none => do
            let account := { account with
              credential := .privateKey { credential with keyWrapSalt := some salt.1 } }
            saveAccount account
            succeed clocks account (some (vaultKey salt.1))
      else do
        fail clocks.outcome account
        return decoySession clocks ownerId .privateKey

/-- What a change and a reset do once the caller is known to be the owner. -/
def rotateCredentials (draws : CredentialDraws) (clock : UtcInstant) (account : UserAccount)
    (oldVmk : Option Bytes) (newPassword : String) : Transaction (UserAccount × String) := do
  let credential ← .lift (PasswordHasher.hashPassword crypto draws.password newPassword)
  let recoveryCode := draws.recoveryCode.1
  let recoveryCodeHash := PasswordHasher.hashRecoveryCode crypto draws.recovery recoveryCode
  let account := LockoutPolicy.registerSuccess { account with
    credential := .password credential
    recoveryCodeHash := some recoveryCodeHash } clock
  saveAccount account
  rewrapVaultMasterKey crypto controller draws oldVmk credential newPassword recoveryCodeHash
    recoveryCode
  return (account, recoveryCode)

def changePassword (draws : CredentialDraws) (clocks : CallClocks)
    (ownerId currentPassword newPassword : String) : Transaction (UserAccount × String) := do
  let account ← requireUnlockedAccount clocks ownerId .password
  match account.credential with
  | .privateKey _ => .lift (raise .assertionError "")
  | .password credential =>
      if PasswordHasher.verifyPassword crypto currentPassword credential then do
        let oldVmk ← unwrapVmkViaPassword crypto controller credential currentPassword
        rotateCredentials crypto controller draws clocks.outcome account oldVmk newPassword
      else do
        fail clocks.outcome account
        .lift (raise .invalidCredentialsError "Incorrect current password")

def verifyPassword (clocks : CallClocks) (ownerId currentPassword : String) :
    Transaction Unit := do
  let account ← requireUnlockedAccount clocks ownerId .password
  match account.credential with
  | .privateKey _ => .lift (raise .assertionError "")
  | .password credential =>
      if PasswordHasher.verifyPassword crypto currentPassword credential then
        saveAccount (LockoutPolicy.registerSuccess account clocks.outcome)
      else do
        fail clocks.outcome account
        .lift (raise .invalidCredentialsError "Incorrect current password")

/-- The slots of `app_meta` are left as they are. -/
def deleteAccount (clocks : CallClocks) (ownerId currentPassword : String) :
    Transaction Unit := do
  verifyPassword crypto clocks ownerId currentPassword
  if controller.hasDatabase then do
    .commit fun database => { database with fileMetadata := {} }
    .commit fun database => { database with usageLog := database.usageLog.clear }
    .commit fun database => { database with deceptionEvents := database.deceptionEvents.clear }
    .commit fun database => { database with accounts := database.accounts.delete ownerId }
  else .commit fun database => { database with accounts := database.accounts.delete ownerId }

def resetPasswordWithRecoveryCode (draws : CredentialDraws) (clocks : CallClocks)
    (ownerId recoveryCode newPassword : String) : Transaction (UserAccount × String) := do
  let account ← requireUnlockedAccount clocks ownerId .password
  match account.credential with
  | .privateKey _ => .lift (raise .assertionError "")
  | .password _ =>
      match account.recoveryCodeHash.filter
          (PasswordHasher.verifyRecoveryCode crypto recoveryCode) with
      | some recoveryCodeHash => do
          let oldVmk ← unwrapVmkViaRecovery crypto controller recoveryCodeHash recoveryCode
          rotateCredentials crypto controller draws clocks.outcome account oldVmk newPassword
      | none => do
          fail clocks.outcome account
          .lift (raise .invalidCredentialsError "Invalid recovery code")

end AuthController

end CryptoUsb
