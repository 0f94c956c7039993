import CryptoUsb.AuthController

/-!
# The vault of a password account

An account in good order: its row has the digests of the current password and
the current recovery code, and the keys derived from these open the two slots of
one Vault Master Key.  Each call of the controller is described once here: what
it commits, and what it returns.
-/

namespace CryptoUsb

open ByteString CommitTraces IsoDateTime ProtectionKeys

/-- The current secrets of an account and the salts they were hashed with. -/
structure Credentials where
  password : String
  recoveryCode : String
  passwordSalts : PasswordHasher.CredentialSalts
  recoverySalts : PasswordHasher.CredentialSalts

namespace Credentials

def vaultKey (crypto : Cryptography) (credentials : Credentials) : Bytes :=
  PasswordHasher.deriveVaultKey crypto credentials.password
    credentials.passwordSalts.keyWrapSalt.1

def recoveryKey (crypto : Cryptography) (credentials : Credentials) : Bytes :=
  PasswordHasher.deriveRecoveryKey crypto credentials.recoveryCode
    credentials.recoverySalts.keyWrapSalt.1

/-- The credentials after a registration, a change or a reset. -/
def drawn (draws : CredentialDraws) (password : String) : Credentials where
  password := password
  recoveryCode := draws.recoveryCode.1
  passwordSalts := draws.password
  recoverySalts := draws.recovery

/-- The secrets and salts are among the ones that scrypt tells apart. -/
structure Known (secrets salts : Set Bytes) (credentials : Credentials) : Prop where
  password : encodeUtf8 credentials.password ∈ secrets
  recoveryCode : encodeUtf8 credentials.recoveryCode ∈ secrets
  passwordSalt : credentials.passwordSalts.salt.1 ∈ salts
  passwordWrapSalt : credentials.passwordSalts.keyWrapSalt.1 ∈ salts
  recoverySalt : credentials.recoverySalts.salt.1 ∈ salts
  recoveryWrapSalt : credentials.recoverySalts.keyWrapSalt.1 ∈ salts

end Credentials

/-- The account of this owner has the digests of these credentials. -/
structure Enrolled (crypto : Cryptography) (ownerId : String) (credentials : Credentials)
    (account : UserAccount) : Prop where
  ownerId : account.ownerId = ownerId
  credential : account.credential = .password
    (PasswordHasher.credentialFor crypto credentials.passwordSalts credentials.password)
  recoveryCodeHash : account.recoveryCodeHash = some
    (PasswordHasher.credentialFor crypto credentials.recoverySalts credentials.recoveryCode)
  lockedByClock : LockoutPolicy.LockedByClock account

/-- The account is stored, and both of its secrets lead to the Vault Master Key. -/
structure VaultState (crypto : Cryptography) (ownerId : String) (credentials : Credentials)
    (vmk : Bytes) (database : Database) : Prop where
  account : ∃ account, database.accounts.load ownerId = .ok (some account) ∧
    Enrolled crypto ownerId credentials account
  passwordSlot : Wraps crypto database vaultMasterKeyPasswordSlot (credentials.vaultKey crypto) vmk
  recoverySlot :
    Wraps crypto database vaultMasterKeyRecoverySlot (credentials.recoveryKey crypto) vmk

/-- Each commit counts a failure of this account and changes nothing else. -/
def OnlyFailures (account : UserAccount) (database : Database) (commits : List Database) : Prop :=
  ∀ state ∈ commits, ∃ counted, LockoutPolicy.CountsFailure account counted ∧
    state = { database with accounts := database.accounts.save counted }

/-- The code raises and leaves no more than a counted failure behind. -/
def Refuses {α : Type} (account : UserAccount) (database : Database) (code : Transaction α) :
    Prop :=
  ∃ commits error, code.run database = ⟨commits, .error error⟩ ∧
    OnlyFailures account database commits

section Calls

variable {crypto : Cryptography} {ownerId : String} {credentials : Credentials} {vmk : Bytes}
  {database : Database} {account : UserAccount}

theorem OnlyFailures.nil : OnlyFailures account database [] :=
  fun _ member => absurd member List.not_mem_nil

theorem Refuses.of_raise {α : Type} (kind : ErrorClass) (message : String) :
    Refuses account database (.lift (raise kind message) : Transaction α) :=
  ⟨[], _, rfl, .nil⟩

theorem Refuses.bind {α β : Type} {code : Transaction α} {next : α → Transaction β} {value : α}
    (returned : code.run database = ⟨[], .ok value⟩)
    (refuses : Refuses account database (next value)) :
    Refuses account database (code >>= next) := by
  obtain ⟨commits, error, ran, failures⟩ := refuses
  exact ⟨commits, error, by rw [Committing.run_bind_ok returned, ran], failures⟩

theorem Refuses.bind_of {α β : Type} {code : Transaction α} {next : α → Transaction β}
    (refuses : Refuses account database code) : Refuses account database (code >>= next) := by
  obtain ⟨commits, error, ran, failures⟩ := refuses
  exact ⟨commits, error, Committing.run_bind_error ran, failures⟩

/-! ## Accounts and their rows -/

theorem Enrolled.counted (enrolled : Enrolled crypto ownerId credentials account)
    {counted : UserAccount} (counts : LockoutPolicy.CountsFailure account counted) :
    Enrolled crypto ownerId credentials counted where
  ownerId := counts.ownerId.trans enrolled.ownerId
  credential := counts.credential.trans enrolled.credential
  recoveryCodeHash := counts.recoveryCodeHash.trans enrolled.recoveryCodeHash
  lockedByClock := counts.lockedByClock enrolled.lockedByClock

theorem Enrolled.registerSuccess (enrolled : Enrolled crypto ownerId credentials account)
    (clock : UtcInstant) :
    Enrolled crypto ownerId credentials (LockoutPolicy.registerSuccess account clock) where
  ownerId := enrolled.ownerId
  credential := enrolled.credential
  recoveryCodeHash := enrolled.recoveryCodeHash
  lockedByClock := LockoutPolicy.lockedByClock_registerSuccess clock

/-- Saving the account of the owner again keeps the vault. -/
theorem VaultState.save (vault : VaultState crypto ownerId credentials vmk database)
    (loaded : database.accounts.load ownerId = .ok (some account)) {updated : UserAccount}
    (enrolled : Enrolled crypto ownerId credentials updated)
    (sameCreation : updated.createdAt = account.createdAt) :
    VaultState crypto ownerId credentials vmk
      { database with accounts := database.accounts.save updated } where
  account := by
    have owner := AccountRepository.ownerId_of_load loaded
    have saved := AccountRepository.load_save loaded (enrolled.ownerId.trans owner.symm)
      sameCreation
    rw [enrolled.ownerId] at saved
    exact ⟨updated, saved, enrolled⟩
  passwordSlot := vault.passwordSlot
  recoverySlot := vault.recoverySlot

theorem VaultState.failures (vault : VaultState crypto ownerId credentials vmk database)
    (loaded : database.accounts.load ownerId = .ok (some account))
    (enrolled : Enrolled crypto ownerId credentials account) {commits : List Database}
    (failures : OnlyFailures account database commits) {state : Database}
    (member : state ∈ commits) :
    VaultState crypto ownerId credentials vmk state ∧ SameBut [] database state := by
  obtain ⟨counted, counts, rfl⟩ := failures state member
  exact ⟨vault.save loaded (enrolled.counted counts) counts.createdAt, rfl, rfl,
    fun _ _ => ⟨rfl, rfl⟩⟩

/-! ## The parts of a call -/

theorem fail_run (clock : UtcInstant) (account : UserAccount) (database : Database) :
    (∃ commits, (AuthController.fail clock account).run database = ⟨commits, .ok ()⟩ ∧
        OnlyFailures account database commits) ∨
      Refuses account database (AuthController.fail clock account) := by
  unfold AuthController.fail
  cases registered : LockoutPolicy.registerFailure account clock with
  | error exc => exact .inr ⟨[], exc, rfl, .nil⟩
  | ok counted =>
      refine .inl ⟨_, rfl, fun state member => ?_⟩
      obtain rfl := List.mem_singleton.mp member
      exact ⟨counted, LockoutPolicy.registerFailure_counts registered, rfl⟩

theorem fail_refuses {α : Type} (clock : UtcInstant) (account : UserAccount)
    (database : Database) (kind : ErrorClass) (message : String) :
    Refuses account database (do
      AuthController.fail clock account
      .lift (raise kind message) : Transaction α) := by
  rcases fail_run clock account database with ⟨commits, ran, failures⟩ | refuses
  · refine ⟨commits, ⟨kind, message⟩, ?_, failures⟩
    rw [Committing.run_bind, ran]
    simp [raise]
  · exact refuses.bind_of

theorem getAccount_of_load (loaded : database.accounts.load ownerId = .ok (some account)) :
    (AuthController.getAccount ownerId).run database = ⟨[], .ok account⟩ := by
  rw [AuthController.getAccount, Committing.run_bind_ok (by rw [Committing.run_read, loaded])]
  rfl

theorem requireUnlockedAccount_of_unlocked {clocks : CallClocks} {method : AuthMethod}
    (loaded : database.accounts.load ownerId = .ok (some account))
    (unlocked : LockoutPolicy.isLocked account clocks.lock = .ok false)
    (sameMethod : account.authMethod = method) :
    (AuthController.requireUnlockedAccount clocks ownerId method).run database =
      ⟨[], .ok account⟩ := by
  rw [AuthController.requireUnlockedAccount, Committing.run_bind_ok (getAccount_of_load loaded),
    unlocked, Committing.run_bind_ok (Committing.run_lift _ _)]
  simp [sameMethod]

/-- A call goes on only with an unlocked account of its method. -/
theorem requireUnlockedAccount_run
    (loaded : database.accounts.load ownerId = .ok (some account))
    (clock : LockoutPolicy.LockedByClock account) (clocks : CallClocks) (method : AuthMethod) :
    (LockoutPolicy.isLocked account clocks.lock = .ok false ∧ account.authMethod = method ∧
        (AuthController.requireUnlockedAccount clocks ownerId method).run database =
          ⟨[], .ok account⟩) ∨
      ((LockoutPolicy.isLocked account clocks.lock = .ok true ∨ account.authMethod ≠ method) ∧
        Refuses account database
          (AuthController.requireUnlockedAccount clocks ownerId method)) := by
  have found := getAccount_of_load loaded
  obtain ⟨locked, answered⟩ := LockoutPolicy.isLocked_total clock clocks.lock
  have asked : (Committing.lift (LockoutPolicy.isLocked account clocks.lock) :
      Transaction Bool).run database = ⟨[], .ok locked⟩ := by
    rw [Committing.run_lift, answered]
  cases locked with
  | true =>
      refine .inr ⟨.inl answered, Refuses.bind found (Refuses.bind asked ?_)⟩
      cases remaining : LockoutPolicy.secondsRemaining account clocks.remaining with
      | error exc => exact ⟨[], exc, rfl, .nil⟩
      | ok seconds => exact Refuses.bind rfl (.of_raise _ _)
  | false =>
      by_cases sameMethod : account.authMethod = method
      · exact .inl ⟨answered, sameMethod,
          requireUnlockedAccount_of_unlocked loaded answered sameMethod⟩
      · refine .inr ⟨.inr sameMethod, Refuses.bind found (Refuses.bind asked ?_)⟩
        rw [if_neg Bool.false_ne_true, if_pos sameMethod]
        exact fail_refuses _ _ _ _ _

/-! ## The calls -/

/-- The three commits of a registration, a change or a reset. -/
structure Rotation (crypto : Cryptography) (ownerId : String) (credentials : Credentials)
    (vmk : Bytes) (database row slot after : Database) : Prop where
  rowAccount : ∃ account, row.accounts.load ownerId = .ok (some account) ∧
    Enrolled crypto ownerId credentials account
  rowSame : SameBut [] database row
  slotAccounts : slot.accounts = row.accounts
  slotWraps : Wraps crypto slot vaultMasterKeyPasswordSlot (credentials.vaultKey crypto) vmk
  slotSame : SameBut [vaultMasterKeyPasswordSlot] row slot
  vault : VaultState crypto ownerId credentials vmk after
  afterSame : SameBut [vaultMasterKeyPasswordSlot, vaultMasterKeyRecoverySlot] database after

/-- Writing both slots after the account row completes the vault. -/
theorem Rotation.complete {row slot after : Database}
    (rowAccount : ∃ account, row.accounts.load ownerId = .ok (some account) ∧
      Enrolled crypto ownerId credentials account)
    (rowSame : SameBut [] database row) (slotAccounts : slot.accounts = row.accounts)
    (slotWraps : Wraps crypto slot vaultMasterKeyPasswordSlot (credentials.vaultKey crypto) vmk)
    (slotSame : SameBut [vaultMasterKeyPasswordSlot] row slot)
    (afterAccounts : after.accounts = slot.accounts)
    (afterWraps :
      Wraps crypto after vaultMasterKeyRecoverySlot (credentials.recoveryKey crypto) vmk)
    (afterSame : SameBut [vaultMasterKeyRecoverySlot] slot after) :
    Rotation crypto ownerId credentials vmk database row slot after where
  rowAccount := rowAccount
  rowSame := rowSame
  slotAccounts := slotAccounts
  slotWraps := slotWraps
  slotSame := slotSame
  vault :=
    { account := by rwa [afterAccounts, slotAccounts]
      passwordSlot := (afterSame.slots _ (by decide)).wraps.mpr slotWraps
      recoverySlot := afterWraps }
  afterSame := ((rowSame.mono (by simp)).trans (slotSame.mono (by simp))).trans
    (afterSame.mono (by simp))

/-- A Vault Master Key is carried over in two commits. -/
theorem rewrapVaultMasterKey_run (total : crypto.EncryptsAll) (draws : CredentialDraws)
    (password : String) (size : vmk.length = AesCipher.aesKeySizeBytes)
    {row : Database} (rowSame : SameBut [] database row)
    (rowAccount : ∃ account, row.accounts.load ownerId = .ok (some account) ∧
      Enrolled crypto ownerId (.drawn draws password) account) :
    ∃ slot after,
      (AuthController.rewrapVaultMasterKey crypto {} draws (some vmk)
        (PasswordHasher.credentialFor crypto draws.password password) password
        (PasswordHasher.hashRecoveryCode crypto draws.recovery draws.recoveryCode.1)
        draws.recoveryCode.1).run row = ⟨[slot, after], .ok ()⟩ ∧
      Rotation crypto ownerId (.drawn draws password) vmk database row slot after := by
  obtain ⟨slot, firstSaved, slotWraps, slotAccounts, slotSame⟩ := saveWrapped_run total
    draws.vault.nonce vaultMasterKeyPasswordSlot
    (PasswordHasher.length_deriveVaultKey password draws.password.keyWrapSalt.1) size row
  obtain ⟨after, secondSaved, afterWraps, afterAccounts, afterSame⟩ := saveWrapped_run total
    draws.recoveryNonce vaultMasterKeyRecoverySlot
    (PasswordHasher.length_deriveVaultKey draws.recoveryCode.1 draws.recovery.keyWrapSalt.1)
    size slot
  have first : (wrapVaultMasterKeyForPassword crypto draws.vault.nonce vmk
      (PasswordHasher.deriveVaultKey crypto password draws.password.keyWrapSalt.1)).run row =
        ⟨[slot], .ok ()⟩ := firstSaved
  have second : (wrapVaultMasterKeyForRecovery crypto draws.recoveryNonce vmk
      (PasswordHasher.deriveRecoveryKey crypto draws.recoveryCode.1
        draws.recovery.keyWrapSalt.1)).run slot = ⟨[after], .ok ()⟩ := secondSaved
  refine ⟨slot, after, ?_, .complete rowAccount rowSame slotAccounts slotWraps slotSame
    afterAccounts afterWraps afterSame⟩
  simp only [AuthController.rewrapVaultMasterKey, PasswordHasher.credentialFor,
    PasswordHasher.hashRecoveryCode, if_true]
  rw [Committing.run_bind_commit first, second]
  rfl

/-- With an acceptable password, credentials are rotated in three commits. -/
theorem rotateCredentials_run (total : crypto.EncryptsAll)
    (loaded : database.accounts.load ownerId = .ok (some account)) (draws : CredentialDraws)
    (clock : UtcInstant) {newPassword : String}
    (acceptable : PasswordHasher.minPasswordLength ≤ newPassword.length)
    (size : vmk.length = AesCipher.aesKeySizeBytes) :
    ∃ row slot after result,
      (AuthController.rotateCredentials crypto {} draws clock account (some vmk)
        newPassword).run database = ⟨[row, slot, after], .ok (result, draws.recoveryCode.1)⟩ ∧
      Rotation crypto ownerId (.drawn draws newPassword) vmk database row slot after := by
  have owner := AccountRepository.ownerId_of_load loaded
  have hashed := PasswordHasher.hashPassword_eq_ok.mpr
    ⟨acceptable, (rfl : PasswordHasher.credentialFor crypto draws.password newPassword = _)⟩
  let updated := LockoutPolicy.registerSuccess { account with
    credential := .password (PasswordHasher.credentialFor crypto draws.password newPassword)
    recoveryCodeHash :=
      some (PasswordHasher.hashRecoveryCode crypto draws.recovery draws.recoveryCode.1) } clock
  have saved : (database.accounts.save updated).load ownerId = .ok (some updated) := by
    have again := AccountRepository.load_save loaded (rfl : updated.ownerId = account.ownerId) rfl
    rwa [show updated.ownerId = ownerId from owner] at again
  have rowSame : SameBut [] database
      { database with accounts := database.accounts.save updated } :=
    ⟨rfl, rfl, fun _ _ => ⟨rfl, rfl⟩⟩
  obtain ⟨slot, after, ran, rotation⟩ := rewrapVaultMasterKey_run total draws newPassword size
    rowSame ⟨updated, saved, owner, rfl, rfl, LockoutPolicy.lockedByClock_registerSuccess clock⟩
  refine ⟨_, slot, after, updated, ?_, rotation⟩
  rw [AuthController.rotateCredentials,
    Committing.run_bind_ok (by rw [Committing.run_lift, hashed])]
  dsimp only
  rw [Committing.run_bind_commit rfl, Committing.run_bind, ran]
  rfl

theorem Enrolled.authMethod (enrolled : Enrolled crypto ownerId credentials account) :
    account.authMethod = .password := by
  rw [UserAccount.authMethod, enrolled.credential]
  rfl

/-- A password call goes on exactly where the account is not locked. -/
theorem requirePasswordAccount_run
    (loaded : database.accounts.load ownerId = .ok (some account))
    (enrolled : Enrolled crypto ownerId credentials account) (clocks : CallClocks) :
    (LockoutPolicy.isLocked account clocks.lock = .ok false ∧
        (AuthController.requireUnlockedAccount clocks ownerId .password).run database =
          ⟨[], .ok account⟩) ∨
      (LockoutPolicy.isLocked account clocks.lock = .ok true ∧
        Refuses account database
          (AuthController.requireUnlockedAccount clocks ownerId .password)) := by
  rcases requireUnlockedAccount_run loaded enrolled.lockedByClock clocks .password with
    ⟨unlocked, -, ran⟩ | ⟨locked | otherMethod, refuses⟩
  · exact .inl ⟨unlocked, ran⟩
  · exact .inr ⟨locked, refuses⟩
  · exact absurd enrolled.authMethod otherMethod

variable {secrets salts : Set Bytes}

theorem verifyPassword_enrolled (separates : crypto.ScryptSeparates secrets salts)
    (known : credentials.Known secrets salts) {candidate : String}
    (isCandidate : encodeUtf8 candidate ∈ secrets) :
    PasswordHasher.verifyPassword crypto candidate
        (PasswordHasher.credentialFor crypto credentials.passwordSalts credentials.password) =
      decide (candidate = credentials.password) :=
  Bool.eq_iff_iff.mpr ((PasswordHasher.verifyPassword_credentialFor separates known.password
    isCandidate known.passwordSalt).trans (decide_eq_true_iff).symm)

theorem verifyRecoveryCode_enrolled (separates : crypto.ScryptSeparates secrets salts)
    (known : credentials.Known secrets salts) {candidate : String}
    (isCandidate : encodeUtf8 candidate ∈ secrets) :
    PasswordHasher.verifyRecoveryCode crypto candidate
        (PasswordHasher.credentialFor crypto credentials.recoverySalts credentials.recoveryCode) =
      decide (candidate = credentials.recoveryCode) :=
  Bool.eq_iff_iff.mpr ((PasswordHasher.verifyPassword_credentialFor separates known.recoveryCode
    isCandidate known.recoverySalt).trans (decide_eq_true_iff).symm)

/-- The database after a success of this account. -/
def afterSuccess (account : UserAccount) (clock : UtcInstant) (database : Database) : Database :=
  { database with
    accounts := database.accounts.save (LockoutPolicy.registerSuccess account clock) }

/-- The session of a sign-in with the current password. -/
def vaultSession (crypto : Cryptography) (ownerId : String) (credentials : Credentials)
    (clocks : CallClocks) : AuthSession where
  ownerId := ownerId
  method := .password
  authenticatedAt := clocks.session
  vaultKey := some (credentials.vaultKey crypto)

/-- A sign-in succeeds with the current password, and with another one gives a
decoy session or raises. -/
theorem authenticatePassword_run (separates : crypto.ScryptSeparates secrets salts)
    (known : credentials.Known secrets salts)
    (loaded : database.accounts.load ownerId = .ok (some account))
    (enrolled : Enrolled crypto ownerId credentials account)
    (salt : BytesOf PasswordHasher.saltLenBytes) (clocks : CallClocks) {candidate : String}
    (isCandidate : encodeUtf8 candidate ∈ secrets) :
    (LockoutPolicy.isLocked account clocks.lock = .ok false ∧ candidate = credentials.password ∧
        (AuthController.authenticatePassword crypto salt clocks ownerId candidate).run database =
          ⟨[afterSuccess account clocks.outcome database],
            .ok (vaultSession crypto ownerId credentials clocks)⟩) ∨
      (candidate ≠ credentials.password ∧ ∃ commits,
        (AuthController.authenticatePassword crypto salt clocks ownerId candidate).run database =
            ⟨commits, .ok (AuthController.decoySession clocks ownerId .password)⟩ ∧
          OnlyFailures account database commits) ∨
      ((LockoutPolicy.isLocked account clocks.lock = .ok true ∨
          candidate ≠ credentials.password) ∧
        Refuses account database
          (AuthController.authenticatePassword crypto salt clocks ownerId candidate)) := by
  have verified := verifyPassword_enrolled separates known isCandidate
  rcases requirePasswordAccount_run loaded enrolled clocks with
    ⟨unlocked, required⟩ | ⟨locked, refuses⟩
  · have started : (AuthController.authenticatePassword crypto salt clocks ownerId candidate).run
        database = (if candidate = credentials.password then
          AuthController.succeed clocks account (some (PasswordHasher.deriveVaultKey crypto candidate
            credentials.passwordSalts.keyWrapSalt.1))
        else do
          AuthController.fail clocks.outcome account
          return AuthController.decoySession clocks ownerId .password :
            Transaction AuthSession).run database := by
      rw [AuthController.authenticatePassword, Committing.run_bind_ok required]
      simp only [enrolled.credential, verified, decide_eq_true_eq]
      rfl
    by_cases same : candidate = credentials.password
    · refine .inl ⟨unlocked, same, ?_⟩
      rw [started, if_pos same, AuthController.succeed, Committing.run_bind_commit rfl]
      simp [vaultSession, afterSuccess, Credentials.vaultKey, same, enrolled.ownerId,
        enrolled.authMethod]
    · rw [if_neg same] at started
      rcases fail_run clocks.outcome account database with ⟨commits, ran, failures⟩ | refuses
      · refine .inr (.inl ⟨same, commits, ?_, failures⟩)
        rw [started, Committing.run_bind, ran]
        simp
      · refine .inr (.inr ⟨.inr same, ?_⟩)
        obtain ⟨commits, error, ran, failures⟩ := refuses
        exact ⟨commits, error, by rw [started, Committing.run_bind_error ran], failures⟩
  · exact .inr (.inr ⟨.inl locked, refuses.bind_of⟩)

/-- A verification succeeds with the current password of an unlocked account and
raises otherwise. -/
theorem verifyPassword_run (separates : crypto.ScryptSeparates secrets salts)
    (known : credentials.Known secrets salts)
    (loaded : database.accounts.load ownerId = .ok (some account))
    (enrolled : Enrolled crypto ownerId credentials account) (clocks : CallClocks)
    {candidate : String} (isCandidate : encodeUtf8 candidate ∈ secrets) :
    (candidate = credentials.password ∧
        (AuthController.verifyPassword crypto clocks ownerId candidate).run database =
          ⟨[afterSuccess account clocks.outcome database], .ok ()⟩) ∨
      ((LockoutPolicy.isLocked account clocks.lock = .ok true ∨
          candidate ≠ credentials.password) ∧
        Refuses account database
          (AuthController.verifyPassword crypto clocks ownerId candidate)) := by
  have verified := verifyPassword_enrolled separates known isCandidate
  rcases requirePasswordAccount_run loaded enrolled clocks with
    ⟨-, required⟩ | ⟨locked, refuses⟩
  · by_cases same : candidate = credentials.password
    · refine .inl ⟨same, ?_⟩
      rw [AuthController.verifyPassword, Committing.run_bind_ok required]
      simp only [enrolled.credential, verified, decide_eq_true_eq, if_pos same]
      rfl
    · refine .inr ⟨.inr same, Refuses.bind required ?_⟩
      simp only [enrolled.credential, verified, decide_eq_true_eq, if_neg same]
      exact fail_refuses _ _ _ _ _
  · exact .inr ⟨.inl locked, refuses.bind_of⟩

theorem rotateCredentials_refuses (draws : CredentialDraws) (clock : UtcInstant)
    (oldVmk : Option Bytes) {newPassword : String}
    (weak : ¬ PasswordHasher.minPasswordLength ≤ newPassword.length) :
    Refuses account database
      (AuthController.rotateCredentials crypto {} draws clock account oldVmk newPassword) := by
  rw [AuthController.rotateCredentials, PasswordHasher.hashPassword_weak weak]
  exact (Refuses.of_raise _ _).bind_of

/-- A change goes through for the current password of an unlocked account and an
acceptable new one. -/
def ChangeGoesThrough (credentials : Credentials) (account : UserAccount) (clocks : CallClocks)
    (candidate newPassword : String) : Prop :=
  LockoutPolicy.isLocked account clocks.lock = .ok false ∧ candidate = credentials.password ∧
    PasswordHasher.minPasswordLength ≤ newPassword.length

/-- A reset goes through for the current recovery code of an unlocked account and
an acceptable new password. -/
def ResetGoesThrough (credentials : Credentials) (account : UserAccount) (clocks : CallClocks)
    (candidate newPassword : String) : Prop :=
  LockoutPolicy.isLocked account clocks.lock = .ok false ∧
    candidate = credentials.recoveryCode ∧
    PasswordHasher.minPasswordLength ≤ newPassword.length

/-- The call rotates the credentials in three commits and returns the new code. -/
def Rotates (crypto : Cryptography) (ownerId : String) (draws : CredentialDraws)
    (newPassword : String) (vmk : Bytes) (database : Database)
    (call : Transaction (UserAccount × String)) : Prop :=
  ∃ row slot after result,
    call.run database = ⟨[row, slot, after], .ok (result, draws.recoveryCode.1)⟩ ∧
      Rotation crypto ownerId (.drawn draws newPassword) vmk database row slot after

theorem Rotates.bind {α : Type} {code : Transaction α}
    {next : α → Transaction (UserAccount × String)} {value : α} {draws : CredentialDraws}
    {newPassword : String} (returned : code.run database = ⟨[], .ok value⟩)
    (rotates : Rotates crypto ownerId draws newPassword vmk database (next value)) :
    Rotates crypto ownerId draws newPassword vmk database (code >>= next) := by
  obtain ⟨row, slot, after, result, ran, rotation⟩ := rotates
  exact ⟨row, slot, after, result, by rw [Committing.run_bind_ok returned, ran], rotation⟩

theorem changePassword_run (laws : crypto.AesGcmLaws) (total : crypto.EncryptsAll)
    (separates : crypto.ScryptSeparates secrets salts) (known : credentials.Known secrets salts)
    (vault : VaultState crypto ownerId credentials vmk database)
    (loaded : database.accounts.load ownerId = .ok (some account))
    (enrolled : Enrolled crypto ownerId credentials account) (draws : CredentialDraws)
    (clocks : CallClocks) {candidate : String} (isCandidate : encodeUtf8 candidate ∈ secrets)
    (newPassword : String) :
    (ChangeGoesThrough credentials account clocks candidate newPassword ∧
        Rotates crypto ownerId draws newPassword vmk database
          (AuthController.changePassword crypto {} draws clocks ownerId candidate newPassword)) ∨
      (¬ ChangeGoesThrough credentials account clocks candidate newPassword ∧
        Refuses account database
          (AuthController.changePassword crypto {} draws clocks ownerId candidate
            newPassword)) := by
  have verified := verifyPassword_enrolled separates known isCandidate
  rcases requirePasswordAccount_run loaded enrolled clocks with
    ⟨unlocked, required⟩ | ⟨locked, refuses⟩
  · by_cases same : candidate = credentials.password
    · have unwrapped : (AuthController.unwrapVmkViaPassword crypto {}
          (PasswordHasher.credentialFor crypto credentials.passwordSalts credentials.password)
          candidate).run database = ⟨[], .ok (some vmk)⟩ := by
        rw [same]
        exact congrArg (Trace.mk []) (vault.passwordSlot.load laws)
      by_cases acceptable : PasswordHasher.minPasswordLength ≤ newPassword.length
      · refine .inl ⟨⟨unlocked, same, acceptable⟩, Rotates.bind required ?_⟩
        simp only [enrolled.credential, verified, decide_eq_true_eq, if_pos same]
        exact Rotates.bind unwrapped
          (rotateCredentials_run total loaded draws clocks.outcome acceptable vault.passwordSlot.1)
      · refine .inr ⟨fun through => acceptable through.2.2, Refuses.bind required ?_⟩
        simp only [enrolled.credential, verified, decide_eq_true_eq, if_pos same]
        exact Refuses.bind unwrapped (rotateCredentials_refuses _ _ _ acceptable)
    · refine .inr ⟨fun through => same through.2.1, Refuses.bind required ?_⟩
      simp only [enrolled.credential, verified, decide_eq_true_eq, if_neg same]
      exact fail_refuses _ _ _ _ _
  · refine .inr ⟨fun through => ?_, refuses.bind_of⟩
    exact absurd (locked.symm.trans through.1) (by simp)

theorem Enrolled.recoveryCodeHash_filter (separates : crypto.ScryptSeparates secrets salts)
    (known : credentials.Known secrets salts)
    (enrolled : Enrolled crypto ownerId credentials account) {candidate : String}
    (isCandidate : encodeUtf8 candidate ∈ secrets) :
    account.recoveryCodeHash.filter (PasswordHasher.verifyRecoveryCode crypto candidate) =
      if candidate = credentials.recoveryCode then some (PasswordHasher.credentialFor crypto
        credentials.recoverySalts credentials.recoveryCode) else none := by
  rw [enrolled.recoveryCodeHash, Option.filter_some,
    verifyRecoveryCode_enrolled separates known isCandidate]
  simp

/-- A reset with another code is refused, whatever is in the slots. -/
theorem resetPassword_wrong (separates : crypto.ScryptSeparates secrets salts)
    (known : credentials.Known secrets salts)
    (loaded : database.accounts.load ownerId = .ok (some account))
    (enrolled : Enrolled crypto ownerId credentials account) (draws : CredentialDraws)
    (clocks : CallClocks) {candidate : String} (isCandidate : encodeUtf8 candidate ∈ secrets)
    (wrong : candidate ≠ credentials.recoveryCode) (newPassword : String) :
    Refuses account database
      (AuthController.resetPasswordWithRecoveryCode crypto {} draws clocks ownerId candidate
        newPassword) := by
  rcases requirePasswordAccount_run loaded enrolled clocks with ⟨-, required⟩ | ⟨-, refuses⟩
  · refine Refuses.bind required ?_
    simp only [enrolled.credential,
      enrolled.recoveryCodeHash_filter separates known isCandidate, if_neg wrong]
    exact fail_refuses _ _ _ _ _
  · exact refuses.bind_of

theorem resetPassword_run (laws : crypto.AesGcmLaws) (total : crypto.EncryptsAll)
    (separates : crypto.ScryptSeparates secrets salts) (known : credentials.Known secrets salts)
    (vault : VaultState crypto ownerId credentials vmk database)
    (loaded : database.accounts.load ownerId = .ok (some account))
    (enrolled : Enrolled crypto ownerId credentials account) (draws : CredentialDraws)
    (clocks : CallClocks) {candidate : String} (isCandidate : encodeUtf8 candidate ∈ secrets)
    (newPassword : String) :
    (ResetGoesThrough credentials account clocks candidate newPassword ∧
        Rotates crypto ownerId draws newPassword vmk database
          (AuthController.resetPasswordWithRecoveryCode crypto {} draws clocks ownerId candidate
            newPassword)) ∨
      (¬ ResetGoesThrough credentials account clocks candidate newPassword ∧
        Refuses account database
          (AuthController.resetPasswordWithRecoveryCode crypto {} draws clocks ownerId candidate
            newPassword)) := by
  have filtered := enrolled.recoveryCodeHash_filter separates known isCandidate
  by_cases same : candidate = credentials.recoveryCode
  · rcases requirePasswordAccount_run loaded enrolled clocks with
      ⟨unlocked, required⟩ | ⟨locked, refuses⟩
    · have unwrapped : (AuthController.unwrapVmkViaRecovery crypto {}
          (PasswordHasher.credentialFor crypto credentials.recoverySalts credentials.recoveryCode)
          candidate).run database = ⟨[], .ok (some vmk)⟩ := by
        rw [same]
        exact congrArg (Trace.mk []) (vault.recoverySlot.load laws)
      by_cases acceptable : PasswordHasher.minPasswordLength ≤ newPassword.length
      · refine .inl ⟨⟨unlocked, same, acceptable⟩, Rotates.bind required ?_⟩
        simp only [enrolled.credential, filtered, if_pos same]
        exact Rotates.bind unwrapped
          (rotateCredentials_run total loaded draws clocks.outcome acceptable vault.passwordSlot.1)
      · refine .inr ⟨fun through => acceptable through.2.2, Refuses.bind required ?_⟩
        simp only [enrolled.credential, filtered, if_pos same]
        exact Refuses.bind unwrapped (rotateCredentials_refuses _ _ _ acceptable)
    · refine .inr ⟨fun through => ?_, refuses.bind_of⟩
      exact absurd (locked.symm.trans through.1) (by simp)
  · exact .inr ⟨fun through => same through.2.1,
      resetPassword_wrong separates known loaded enrolled draws clocks isCandidate same newPassword⟩

theorem authenticatePrivateKey_refuses {PrivateKey PublicKey : Type}
    (serialization : KeySerialization PrivateKey PublicKey)
    (loaded : database.accounts.load ownerId = .ok (some account))
    (enrolled : Enrolled crypto ownerId credentials account)
    (draws : KeyAuthenticator.ChallengeDraws) (salt : BytesOf PasswordHasher.saltLenBytes)
    (clocks : CallClocks) (privateKeyPem passphrase : Bytes) :
    Refuses account database (AuthController.authenticatePrivateKey crypto serialization draws salt
      clocks ownerId privateKeyPem passphrase) := by
  rcases requireUnlockedAccount_run loaded enrolled.lockedByClock clocks .privateKey with
    ⟨-, sameMethod, -⟩ | ⟨-, refuses⟩
  · rw [enrolled.authMethod] at sameMethod
    cases sameMethod
  · exact refuses.bind_of

theorem registerPasswordAccount_refuses
    (loaded : database.accounts.load ownerId = .ok (some account)) (draws : CredentialDraws)
    (clock : UtcInstant) (password : String) :
    Refuses account database
      (AuthController.registerPasswordAccount crypto {} draws clock ownerId password) := by
  refine Refuses.bind (Committing.run_read _ _) ?_
  rw [AccountRepository.exists_of_load loaded, if_pos rfl]
  exact .of_raise _ _

theorem isRegistered_run (isNew : database.accounts.exists ownerId = false) :
    (Committing.read fun database => .ok (database.accounts.exists ownerId) :
      Transaction Bool).run database = ⟨[], .ok false⟩ := by
  rw [Committing.run_read, isNew]

theorem registerPasswordAccount_weak (isNew : database.accounts.exists ownerId = false)
    (draws : CredentialDraws) (clock : UtcInstant) {password : String}
    (weak : ¬ PasswordHasher.minPasswordLength ≤ password.length) :
    ∃ error, (AuthController.registerPasswordAccount crypto {} draws clock ownerId password).run
      database = ⟨[], .error error⟩ := by
  rw [AuthController.registerPasswordAccount, Committing.run_bind_ok (isRegistered_run isNew),
    if_neg Bool.false_ne_true, PasswordHasher.hashPassword_weak weak]
  exact ⟨_, Committing.run_bind_error rfl⟩

/-- Without a Vault Master Key to carry over, both slots get the one in the password
slot, or a drawn one. -/
theorem rewrapVaultMasterKey_establish (laws : crypto.AesGcmLaws) (total : crypto.EncryptsAll)
    (draws : CredentialDraws) (password : String) {row : Database}
    (rowSame : SameBut [] database row)
    (rowAccount : ∃ account, row.accounts.load ownerId = .ok (some account) ∧
      Enrolled crypto ownerId (.drawn draws password) account)
    (wellFormed : SlotWellFormed crypto row vaultMasterKeyPasswordSlot) :
    ∃ vmk commits slot after,
      (AuthController.rewrapVaultMasterKey crypto {} draws none
        (PasswordHasher.credentialFor crypto draws.password password) password
        (PasswordHasher.hashRecoveryCode crypto draws.recovery draws.recoveryCode.1)
        draws.recoveryCode.1).run row = ⟨commits ++ [after], .ok ()⟩ ∧
      Rotation crypto ownerId (.drawn draws password) vmk database row slot after ∧
      (loadWrapped crypto row.appMeta vaultMasterKeyPasswordSlot
        (Credentials.vaultKey crypto (.drawn draws password)) = .ok none →
          vmk = draws.vault.vmk.1) := by
  -- The recovery slot is written last, whatever the password slot holds.
  have finish {vmk : Bytes} {commits : List Database} {slot : Database}
      (created : (loadOrCreateVaultMasterKey crypto draws.vault
        (PasswordHasher.deriveVaultKey crypto password draws.password.keyWrapSalt.1)).run row =
          ⟨commits, .ok vmk⟩)
      (last : commits.getLast?.getD row = slot)
      (slotWraps : Wraps crypto slot vaultMasterKeyPasswordSlot
        (Credentials.vaultKey crypto (.drawn draws password)) vmk)
      (slotAccounts : slot.accounts = row.accounts)
      (slotSame : SameBut [vaultMasterKeyPasswordSlot] row slot) :
      ∃ after, (AuthController.rewrapVaultMasterKey crypto {} draws none
          (PasswordHasher.credentialFor crypto draws.password password) password
          (PasswordHasher.hashRecoveryCode crypto draws.recovery draws.recoveryCode.1)
          draws.recoveryCode.1).run row = ⟨commits ++ [after], .ok ()⟩ ∧
        Rotation crypto ownerId (.drawn draws password) vmk database row slot after := by
    obtain ⟨after, saved, afterWraps, afterAccounts, afterSame⟩ := saveWrapped_run total
      draws.recoveryNonce vaultMasterKeyRecoverySlot
      (PasswordHasher.length_deriveVaultKey draws.recoveryCode.1 draws.recovery.keyWrapSalt.1)
      slotWraps.1 slot
    have wrapped : (wrapVaultMasterKeyForRecovery crypto draws.recoveryNonce vmk
        (PasswordHasher.deriveRecoveryKey crypto draws.recoveryCode.1
          draws.recovery.keyWrapSalt.1)).run slot = ⟨[after], .ok ()⟩ := saved
    refine ⟨after, ?_, .complete rowAccount rowSame slotAccounts slotWraps slotSame afterAccounts
      afterWraps afterSame⟩
    have established : (establishVaultMasterKey crypto draws.vault draws.recoveryNonce
        (PasswordHasher.deriveVaultKey crypto password draws.password.keyWrapSalt.1)
        (PasswordHasher.deriveRecoveryKey crypto draws.recoveryCode.1
          draws.recovery.keyWrapSalt.1)).run row = ⟨commits ++ [after], .ok vmk⟩ := by
      rw [establishVaultMasterKey, Committing.run_bind_returned created last,
        Committing.run_bind_commit wrapped]
      simp
    simp only [AuthController.rewrapVaultMasterKey, PasswordHasher.credentialFor,
      PasswordHasher.hashRecoveryCode, if_true]
    rw [Committing.run_bind_returned established rfl]
    simp
  rcases wellFormed.load laws (Credentials.vaultKey crypto (.drawn draws password)) with
    closed | ⟨vmk, opened, wraps⟩
  · obtain ⟨slot, created, slotWraps, slotAccounts, slotSame⟩ :=
      loadOrCreateVaultMasterKey_new total draws.vault
        (PasswordHasher.length_deriveVaultKey password draws.password.keyWrapSalt.1) closed
    obtain ⟨after, ran, rotation⟩ := finish created rfl slotWraps slotAccounts slotSame
    exact ⟨_, _, slot, after, ran, rotation, fun _ => rfl⟩
  · obtain ⟨after, ran, rotation⟩ := finish (loadOrCreateVaultMasterKey_held laws draws.vault wraps)
      rfl wraps rfl (.refl _ _)
    exact ⟨vmk, _, row, after, ran, rotation, fun closed => nomatch opened.symm.trans closed⟩

/-- A registration completes a vault: of the drawn Vault Master Key, unless the new
vault key opens what is in the password slot. -/
theorem registerPasswordAccount_run (laws : crypto.AesGcmLaws) (total : crypto.EncryptsAll)
    (isNew : database.accounts.exists ownerId = false)
    (wellFormed : SlotWellFormed crypto database vaultMasterKeyPasswordSlot)
    (draws : CredentialDraws) (clock : UtcInstant) {password : String}
    (acceptable : PasswordHasher.minPasswordLength ≤ password.length) :
    ∃ vmk commits after account,
      (AuthController.registerPasswordAccount crypto {} draws clock ownerId password).run
          database = ⟨commits, .ok (account, draws.recoveryCode.1)⟩ ∧
        commits.getLast?.getD database = after ∧
        VaultState crypto ownerId (.drawn draws password) vmk after ∧
        SameBut [vaultMasterKeyPasswordSlot, vaultMasterKeyRecoverySlot] database after ∧
        (loadWrapped crypto database.appMeta vaultMasterKeyPasswordSlot
          (Credentials.vaultKey crypto (.drawn draws password)) = .ok none →
            vmk = draws.vault.vmk.1) := by
  have hashed := PasswordHasher.hashPassword_eq_ok.mpr
    ⟨acceptable, (rfl : PasswordHasher.credentialFor crypto draws.password password = _)⟩
  let account : UserAccount := {
    ownerId
    credential := .password (PasswordHasher.credentialFor crypto draws.password password)
    createdAt := clock.1
    recoveryCodeHash :=
      some (PasswordHasher.hashRecoveryCode crypto draws.recovery draws.recoveryCode.1) }
  let row : Database := { database with accounts := database.accounts.save account }
  have saved : row.accounts.load ownerId = .ok (some account) :=
    AccountRepository.load_save_new (AccountRepository.lookup_of_not_exists isNew)
  have enrolled : Enrolled crypto ownerId (.drawn draws password) account :=
    ⟨rfl, rfl, rfl, fun _ locked => nomatch locked⟩
  have rowSame : SameBut [] database row := ⟨rfl, rfl, fun _ _ => ⟨rfl, rfl⟩⟩
  obtain ⟨vmk, commits, slot, after, ran, rotation, isDrawn⟩ := rewrapVaultMasterKey_establish
    laws total draws password rowSame ⟨account, saved, enrolled⟩ wellFormed
  refine ⟨vmk, row :: (commits ++ [after]), after, account, ?_, ?_, rotation.vault,
    rotation.afterSame, isDrawn⟩
  · rw [AuthController.registerPasswordAccount, Committing.run_bind_ok (isRegistered_run isNew),
      if_neg Bool.false_ne_true, Committing.run_bind_ok (by rw [Committing.run_lift, hashed])]
    dsimp only
    rw [Committing.run_bind_commit rfl, Committing.run_bind, ran]
    simp [account, row]
  · rw [← List.cons_append, List.getLast?_concat]
    rfl

end Calls

end CryptoUsb
