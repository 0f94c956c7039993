import CryptoUsb.AccountVault
import CryptoUsb.TransitionRuns
import CryptoUsb.TransparentPrimitives

/-!
# Runs of calls on one account

The calls on the controller for one owner, and on the loaders of the protection
keys, in any order.  A call is described by what it does to an account in good
order; every run from a fresh installation keeps the account so.
-/

namespace CryptoUsb

open ByteString CommitTraces IsoDateTime ProtectionKeys

/-- A call with its arguments and everything that it draws. -/
inductive AccountCall
  | register (draws : CredentialDraws) (clock : UtcInstant) (password : String)
  | authenticate (salt : BytesOf PasswordHasher.saltLenBytes) (clocks : CallClocks)
      (password : String)
  | authenticatePrivateKey (draws : KeyAuthenticator.ChallengeDraws)
      (salt : BytesOf PasswordHasher.saltLenBytes) (clocks : CallClocks)
      (privateKeyPem passphrase : Bytes)
  | verify (clocks : CallClocks) (password : String)
  | change (draws : CredentialDraws) (clocks : CallClocks) (currentPassword newPassword : String)
  | reset (draws : CredentialDraws) (clocks : CallClocks) (recoveryCode newPassword : String)
  | loadMetadataKeys (draws : ProtectionKeyDraws) (vaultKey : Bytes)
  | loadTrackingKeys (draws : ProtectionKeyDraws) (vaultKey : Bytes)

/-- What a call returns. -/
inductive AccountResult
  | credentials (recoveryCode : String)
  | session (signedIn : AuthSession)
  | verified
  | metadataKeys (keys : MetadataProtectionKeys)
  | trackingKeys (keys : TrackingProtectionKeys)

namespace AccountCall

def transaction (crypto : Cryptography) {PrivateKey PublicKey : Type}
    (serialization : KeySerialization PrivateKey PublicKey) (ownerId : String) :
    AccountCall → Transaction AccountResult
  | .register draws clock password => do
      let registered ←
        AuthController.registerPasswordAccount crypto {} draws clock ownerId password
      return .credentials registered.2
  | .authenticate salt clocks password => do
      let session ← AuthController.authenticatePassword crypto salt clocks ownerId password
      return .session session
  | .authenticatePrivateKey draws salt clocks privateKeyPem passphrase => do
      let session ← AuthController.authenticatePrivateKey crypto serialization draws salt clocks
        ownerId privateKeyPem passphrase
      return .session session
  | .verify clocks password => do
      let _ ← AuthController.verifyPassword crypto clocks ownerId password
      return .verified
  | .change draws clocks currentPassword newPassword => do
      let changed ← AuthController.changePassword crypto {} draws clocks ownerId currentPassword
        newPassword
      return .credentials changed.2
  | .reset draws clocks recoveryCode newPassword => do
      let changed ← AuthController.resetPasswordWithRecoveryCode crypto {} draws clocks ownerId
        recoveryCode newPassword
      return .credentials changed.2
  | .loadMetadataKeys draws vaultKey => do
      let keys ← loadOrCreateMetadataProtectionKeys crypto draws vaultKey
      return .metadataKeys keys
  | .loadTrackingKeys draws vaultKey => do
      let keys ← loadOrCreateTrackingProtectionKeys crypto draws vaultKey
      return .trackingKeys keys

/-- The passwords and recovery codes that occur in a call. -/
def secrets : AccountCall → List String
  | .register draws _ password => [password, draws.recoveryCode.1]
  | .authenticate _ _ password => [password]
  | .authenticatePrivateKey _ _ _ _ _ => []
  | .verify _ password => [password]
  | .change draws _ currentPassword newPassword =>
      [currentPassword, newPassword, draws.recoveryCode.1]
  | .reset draws _ recoveryCode newPassword => [recoveryCode, newPassword, draws.recoveryCode.1]
  | .loadMetadataKeys _ _ => []
  | .loadTrackingKeys _ _ => []

/-- What is drawn for new credentials. -/
def draws? : AccountCall → Option CredentialDraws
  | .register draws _ _ => some draws
  | .change draws _ _ _ => some draws
  | .reset draws _ _ _ => some draws
  | _ => none

/-- The password that a call sets where it succeeds. -/
def newPassword? : AccountCall → Option String
  | .register _ _ password => some password
  | .change _ _ _ newPassword => some newPassword
  | .reset _ _ _ newPassword => some newPassword
  | _ => none

/-- The vault key that a loader is called with. -/
def vaultKey? : AccountCall → Option Bytes
  | .loadMetadataKeys _ vaultKey => some vaultKey
  | .loadTrackingKeys _ vaultKey => some vaultKey
  | _ => none

/-- The secrets and the salts of a call are among the ones that scrypt tells apart. -/
structure Within (secrets salts : Set Bytes) (call : AccountCall) : Prop where
  secrets : ∀ secret ∈ call.secrets, encodeUtf8 secret ∈ secrets
  passwordSalt : ∀ draws ∈ call.draws?, draws.password.salt.1 ∈ salts
  passwordWrapSalt : ∀ draws ∈ call.draws?, draws.password.keyWrapSalt.1 ∈ salts
  recoverySalt : ∀ draws ∈ call.draws?, draws.recovery.salt.1 ∈ salts
  recoveryWrapSalt : ∀ draws ∈ call.draws?, draws.recovery.keyWrapSalt.1 ∈ salts

end AccountCall

/-- A call and its outcome. -/
structure AccountEvent where
  call : AccountCall
  outcome : Raises AccountResult

/-- The database, the vault keys of the sign-ins so far, and those of the sign-ins
since the credentials were last set. -/
structure AccountLife where
  database : Database
  logins : List Bytes := []
  current : List Bytes := []

/-- The vault key of a sign-in. -/
def AccountResult.vaultKey? : AccountResult → Option Bytes
  | .session signedIn => signedIn.vaultKey
  | _ => none

def AccountLife.after (life : AccountLife) (trace : Trace Database PyError AccountResult) :
    AccountLife where
  database := trace.finalState life.database
  logins :=
    match trace.outcome with
    | .ok result => result.vaultKey?.toList ++ life.logins
    | .error _ => life.logins
  current :=
    match trace.outcome with
    | .ok (.credentials _) => []
    | .ok result => result.vaultKey?.toList ++ life.current
    | .error _ => life.current

/-- One call.  A loader is called with one of the usable vault keys. -/
structure AccountStep (crypto : Cryptography) {PrivateKey PublicKey : Type}
    (serialization : KeySerialization PrivateKey PublicKey) (ownerId : String)
    (secrets salts : Set Bytes) (usable : AccountLife → List Bytes) (life : AccountLife)
    (event : AccountEvent) (next : AccountLife) : Prop where
  within : event.call.Within secrets salts
  usable : ∀ vaultKey ∈ event.call.vaultKey?, vaultKey ∈ usable life
  outcome : event.outcome =
    ((event.call.transaction crypto serialization ownerId).run life.database).outcome
  next : next = life.after ((event.call.transaction crypto serialization ownerId).run life.database)

/-- The slots of the protection keys. -/
def protectionSlots : List String :=
  [metadataEncryptionKey, metadataHmacKey, trackingEncryptionKey, trackingHmacKey]

/-- The database before any account: no row for the owner, and no key in a slot. -/
structure FreshInstallation (ownerId : String) (database : Database) : Prop where
  isNew : database.accounts.exists ownerId = false
  slots : ∀ key ∈ vaultMasterKeyPasswordSlot :: protectionSlots,
    database.appMeta.lookup (nonceRow key) = none

/-- An account in good order, with these credentials and this Vault Master Key. -/
structure AccountOpen (crypto : Cryptography) (ownerId : String) (secrets salts : Set Bytes)
    (credentials : Credentials) (vmk : Bytes) (life : AccountLife) : Prop where
  known : credentials.Known secrets salts
  vault : VaultState crypto ownerId credentials vmk life.database
  slots : ∀ key ∈ protectionSlots, SlotWellFormed crypto life.database key
  current : ∀ vaultKey ∈ life.current, vaultKey = credentials.vaultKey crypto

/-- What a call does to an account in good order: it keeps the credentials, it
rotates them knowing one of them, or it loads protection keys. -/
inductive AccountEffect (crypto : Cryptography) (ownerId : String) (secrets salts : Set Bytes)
    (credentials : Credentials) (vmk : Bytes) (life : AccountLife) :
    AccountEvent → AccountLife → Prop
  | kept {event : AccountEvent} {next : AccountLife} :
      event.call.vaultKey? = none → (∀ code, event.outcome ≠ .ok (.credentials code)) →
      (∀ keys, event.outcome ≠ .ok (.metadataKeys keys)) →
      (∀ keys, event.outcome ≠ .ok (.trackingKeys keys)) →
      AccountOpen crypto ownerId secrets salts credentials vmk next →
      SameBut [] life.database next.database →
        AccountEffect crypto ownerId secrets salts credentials vmk life event next
  | changed (draws : CredentialDraws) (clocks : CallClocks) (newPassword : String)
      {next : AccountLife} :
      AccountOpen crypto ownerId secrets salts (.drawn draws newPassword) vmk next →
      SameBut [vaultMasterKeyPasswordSlot, vaultMasterKeyRecoverySlot] life.database
        next.database →
        AccountEffect crypto ownerId secrets salts credentials vmk life
          ⟨.change draws clocks credentials.password newPassword,
            .ok (.credentials draws.recoveryCode.1)⟩ next
  | reset (draws : CredentialDraws) (clocks : CallClocks) (newPassword : String)
      {next : AccountLife} :
      AccountOpen crypto ownerId secrets salts (.drawn draws newPassword) vmk next →
      SameBut [vaultMasterKeyPasswordSlot, vaultMasterKeyRecoverySlot] life.database
        next.database →
        AccountEffect crypto ownerId secrets salts credentials vmk life
          ⟨.reset draws clocks credentials.recoveryCode newPassword,
            .ok (.credentials draws.recoveryCode.1)⟩ next
  | loadedMetadata (draws : ProtectionKeyDraws) (vaultKey : Bytes)
      {keys : MetadataProtectionKeys} {next : AccountLife} :
      AccountOpen crypto ownerId secrets salts credentials vmk next →
      HoldsKeys crypto next.database metadataEncryptionKey metadataHmacKey vmk
        (keys.encryptionKey, keys.hmacKey) →
      (∀ held, HoldsKeys crypto life.database metadataEncryptionKey metadataHmacKey vmk held →
        (keys.encryptionKey, keys.hmacKey) = held) →
      SameBut [metadataEncryptionKey, metadataHmacKey] life.database next.database →
        AccountEffect crypto ownerId secrets salts credentials vmk life
          ⟨.loadMetadataKeys draws vaultKey, .ok (.metadataKeys keys)⟩ next
  | loadedTracking (draws : ProtectionKeyDraws) (vaultKey : Bytes)
      {keys : TrackingProtectionKeys} {next : AccountLife} :
      AccountOpen crypto ownerId secrets salts credentials vmk next →
      HoldsKeys crypto next.database trackingEncryptionKey trackingHmacKey vmk
        (keys.encryptionKey, keys.hmacKey) →
      (∀ held, HoldsKeys crypto life.database trackingEncryptionKey trackingHmacKey vmk held →
        (keys.encryptionKey, keys.hmacKey) = held) →
      SameBut [trackingEncryptionKey, trackingHmacKey] life.database next.database →
        AccountEffect crypto ownerId secrets salts credentials vmk life
          ⟨.loadTrackingKeys draws vaultKey, .ok (.trackingKeys keys)⟩ next

/-- No account of the owner, and slots that are empty or hold keys. -/
structure AccountAbsent (crypto : Cryptography) (ownerId : String) (life : AccountLife) :
    Prop where
  isNew : life.database.accounts.exists ownerId = false
  passwordSlot : SlotWellFormed crypto life.database vaultMasterKeyPasswordSlot
  slots : ∀ key ∈ protectionSlots, SlotWellFormed crypto life.database key
  current : life.current = []

/-- What a call does where there is no account: it raises, or it registers one. -/
inductive AbsentEffect (crypto : Cryptography) (ownerId : String) (secrets salts : Set Bytes)
    (life : AccountLife) : AccountEvent → AccountLife → Prop
  | refused {call : AccountCall} {error : PyError} {next : AccountLife} :
      call.vaultKey? = none → AccountAbsent crypto ownerId next →
      next.database = life.database →
        AbsentEffect crypto ownerId secrets salts life ⟨call, .error error⟩ next
  | registered (draws : CredentialDraws) (clock : UtcInstant) (password : String) {vmk : Bytes}
      {next : AccountLife} :
      AccountOpen crypto ownerId secrets salts (.drawn draws password) vmk next →
      SameBut [vaultMasterKeyPasswordSlot, vaultMasterKeyRecoverySlot] life.database
        next.database →
      (loadWrapped crypto life.database.appMeta vaultMasterKeyPasswordSlot
        (Credentials.vaultKey crypto (.drawn draws password)) = .ok none →
          vmk = draws.vault.vmk.1) →
        AbsentEffect crypto ownerId secrets salts life
          ⟨.register draws clock password, .ok (.credentials draws.recoveryCode.1)⟩ next

section Steps

variable {crypto : Cryptography} {PrivateKey PublicKey : Type}
  {serialization : KeySerialization PrivateKey PublicKey} {ownerId : String}
  {secrets salts : Set Bytes} {credentials : Credentials} {vmk : Bytes} {life next : AccountLife}
  {account : UserAccount} {event : AccountEvent}

theorem ProtectionKeys.SameBut.slotsWellFormed {keys : List String} {first second : Database}
    (same : SameBut keys first second) (apart : ∀ key ∈ protectionSlots, key ∉ keys)
    (slots : ∀ key ∈ protectionSlots, SlotWellFormed crypto first key) :
    ∀ key ∈ protectionSlots, SlotWellFormed crypto second key :=
  fun key member => (same.slots key (apart key member)).wellFormed.mpr (slots key member)

theorem AccountOpen.of_same (opened : AccountOpen crypto ownerId secrets salts credentials vmk life)
    (vault : VaultState crypto ownerId credentials vmk next.database)
    (same : SameBut [] life.database next.database)
    (current : ∀ vaultKey ∈ next.current, vaultKey = credentials.vaultKey crypto) :
    AccountOpen crypto ownerId secrets salts credentials vmk next where
  known := opened.known
  vault := vault
  slots := same.slotsWellFormed (by simp) opened.slots
  current := current

/-- Counted failures keep the account open, whatever else the call returns but a
vault key. -/
theorem AccountOpen.failures
    (opened : AccountOpen crypto ownerId secrets salts credentials vmk life)
    (loaded : life.database.accounts.load ownerId = .ok (some account))
    (enrolled : Enrolled crypto ownerId credentials account) {commits : List Database}
    (failures : OnlyFailures account life.database commits) (outcome : Raises AccountResult)
    (current : ∀ vaultKey ∈ (life.after ⟨commits, outcome⟩).current,
      vaultKey = credentials.vaultKey crypto) :
    AccountOpen crypto ownerId secrets salts credentials vmk (life.after ⟨commits, outcome⟩) ∧
      SameBut [] life.database (life.after ⟨commits, outcome⟩).database := by
  have reached : VaultState crypto ownerId credentials vmk
        (life.after ⟨commits, outcome⟩).database ∧
      SameBut [] life.database (life.after ⟨commits, outcome⟩).database := by
    rcases Trace.finalState_mem (⟨commits, outcome⟩ : Trace Database PyError AccountResult)
      life.database with unchanged | committed
    · rw [AccountLife.after, unchanged]
      exact ⟨opened.vault, .refl _ _⟩
    · exact opened.vault.failures loaded enrolled failures committed
  exact ⟨opened.of_same reached.1 reached.2 current, reached.2⟩

/-- A refused call changes failure counts at most. -/
theorem AccountEffect.refused {α : Type}
    (opened : AccountOpen crypto ownerId secrets salts credentials vmk life)
    (loaded : life.database.accounts.load ownerId = .ok (some account))
    (enrolled : Enrolled crypto ownerId credentials account) {call : AccountCall}
    (isNotLoader : call.vaultKey? = none) {code : Transaction α} {result : α → AccountResult}
    (refuses : Refuses account life.database code) :
    AccountEffect crypto ownerId secrets salts credentials vmk life
      ⟨call, ((code >>= fun value => pure (result value)).run life.database).outcome⟩
      (life.after ((code >>= fun value => pure (result value)).run life.database)) := by
  obtain ⟨commits, error, ran, failures⟩ := refuses
  rw [Committing.run_bind_error ran]
  obtain ⟨stillOpen, same⟩ := opened.failures loaded enrolled failures (.error error)
    opened.current
  exact .kept isNotLoader nofun nofun nofun stillOpen same

/-- After a success of the account it is still open. -/
theorem AccountOpen.afterSuccess
    (opened : AccountOpen crypto ownerId secrets salts credentials vmk life)
    (loaded : life.database.accounts.load ownerId = .ok (some account))
    (enrolled : Enrolled crypto ownerId credentials account) (clock : UtcInstant)
    (outcome : Raises AccountResult)
    (current : ∀ vaultKey ∈
      (life.after ⟨[CryptoUsb.afterSuccess account clock life.database], outcome⟩).current,
        vaultKey = credentials.vaultKey crypto) :
    AccountOpen crypto ownerId secrets salts credentials vmk
        (life.after ⟨[CryptoUsb.afterSuccess account clock life.database], outcome⟩) ∧
      SameBut [] life.database
        (life.after ⟨[CryptoUsb.afterSuccess account clock life.database], outcome⟩).database :=
  have same : SameBut [] life.database (CryptoUsb.afterSuccess account clock life.database) :=
    ⟨rfl, rfl, fun _ _ => ⟨rfl, rfl⟩⟩
  ⟨opened.of_same (opened.vault.save loaded (enrolled.registerSuccess clock) rfl) same current,
    same⟩

theorem AccountCall.Within.of_draws_eq_none {call : AccountCall} (drawsNothing : call.draws? = none)
    (known : ∀ secret ∈ call.secrets, encodeUtf8 secret ∈ secrets) :
    call.Within secrets salts := by
  constructor
  · exact known
  all_goals simp [drawsNothing]

theorem AccountCall.Within.drawn {call : AccountCall} (within : call.Within secrets salts)
    {draws : CredentialDraws} (isDrawn : call.draws? = some draws) {password : String}
    (isSecret : password ∈ call.secrets) (isCode : draws.recoveryCode.1 ∈ call.secrets) :
    (Credentials.drawn draws password).Known secrets salts where
  password := within.secrets _ isSecret
  recoveryCode := within.secrets _ isCode
  passwordSalt := within.passwordSalt _ isDrawn
  passwordWrapSalt := within.passwordWrapSalt _ isDrawn
  recoverySalt := within.recoverySalt _ isDrawn
  recoveryWrapSalt := within.recoveryWrapSalt _ isDrawn

theorem AccountOpen.rotated
    (opened : AccountOpen crypto ownerId secrets salts credentials vmk life)
    {draws : CredentialDraws} {newPassword : String} {row slot after : Database}
    (known : (Credentials.drawn draws newPassword).Known secrets salts)
    (rotation : Rotation crypto ownerId (.drawn draws newPassword) vmk life.database row slot
      after) (code : String) :
    AccountOpen crypto ownerId secrets salts (.drawn draws newPassword) vmk
      (life.after ⟨[row, slot, after], .ok (.credentials code)⟩) where
  known := known
  vault := rotation.vault
  slots := rotation.afterSame.slotsWellFormed (by decide) opened.slots
  current := fun _ member => absurd member List.not_mem_nil

theorem ProtectionKeys.HoldsKeys.slotWellFormed {database : Database}
    {encryptionName hmacName : String} {keys : Bytes × Bytes}
    (holds : HoldsKeys crypto database encryptionName hmacName vmk keys) :
    SlotWellFormed crypto database encryptionName ∧ SlotWellFormed crypto database hmacName :=
  ⟨.inr ⟨_, _, holds.encryptionKey⟩, .inr ⟨_, _, holds.hmacKey⟩⟩

/-- Loading protection keys keeps the account open. -/
theorem AccountOpen.loaded
    (opened : AccountOpen crypto ownerId secrets salts credentials vmk life)
    {encryptionName hmacName : String} {keys : Bytes × Bytes}
    (apart : ∀ key ∈ [vaultMasterKeyPasswordSlot, vaultMasterKeyRecoverySlot],
      key ∉ [encryptionName, hmacName])
    (holds : HoldsKeys crypto next.database encryptionName hmacName vmk keys)
    (sameAccounts : next.database.accounts = life.database.accounts)
    (same : SameBut [encryptionName, hmacName] life.database next.database)
    (current : next.current = life.current) :
    AccountOpen crypto ownerId secrets salts credentials vmk next where
  known := opened.known
  vault :=
    { account := by rw [sameAccounts]; exact opened.vault.account
      passwordSlot := (same.slots _ (apart _ (by simp))).wraps.mpr opened.vault.passwordSlot
      recoverySlot := (same.slots _ (apart _ (by simp))).wraps.mpr opened.vault.recoverySlot }
  slots := by
    intro key member
    by_cases inside : key ∈ [encryptionName, hmacName]
    · rcases List.mem_pair.mp inside with rfl | rfl
      · exact holds.slotWellFormed.1
      · exact holds.slotWellFormed.2
    · exact (same.slots key inside).wellFormed.mpr (opened.slots key member)
  current := by rw [current]; exact opened.current

/-- What one call does to an open account. -/
theorem AccountOpen.step (laws : crypto.AesGcmLaws) (total : crypto.EncryptsAll)
    (separates : crypto.ScryptSeparates secrets salts)
    (opened : AccountOpen crypto ownerId secrets salts credentials vmk life)
    (stepped : AccountStep crypto serialization ownerId secrets salts AccountLife.current life
      event next) :
    AccountEffect crypto ownerId secrets salts credentials vmk life event next := by
  obtain ⟨account, loaded, enrolled⟩ := opened.vault.account
  obtain ⟨within, usable, outcome, rfl⟩ := stepped
  obtain ⟨call, outcome⟩ := event
  dsimp only at within usable outcome
  subst outcome
  cases call with
  | register draws clock password =>
      exact .refused opened loaded enrolled rfl
        (registerPasswordAccount_refuses loaded draws clock password)
  | authenticate salt clocks password =>
      have isSecret := within.secrets password (by simp [AccountCall.secrets])
      rcases authenticatePassword_run separates opened.known loaded enrolled salt clocks isSecret
        with ⟨-, -, ran⟩ | ⟨-, commits, ran, failures⟩ | ⟨-, refuses⟩
      · rw [AccountCall.transaction, Committing.run_bind_pure, ran]
        obtain ⟨stillOpen, same⟩ := opened.afterSuccess loaded enrolled clocks.outcome
          (.ok (.session (vaultSession crypto ownerId credentials clocks))) (by
            intro vaultKey member
            rcases List.mem_cons.mp member with rfl | earlier
            · rfl
            · exact opened.current vaultKey earlier)
        exact .kept rfl nofun nofun nofun stillOpen same
      · rw [AccountCall.transaction, Committing.run_bind_pure, ran]
        obtain ⟨stillOpen, same⟩ := opened.failures loaded enrolled failures
          (.ok (.session (AuthController.decoySession clocks ownerId .password))) opened.current
        exact .kept rfl nofun nofun nofun stillOpen same
      · exact .refused opened loaded enrolled rfl refuses
  | authenticatePrivateKey draws salt clocks privateKeyPem passphrase =>
      exact .refused opened loaded enrolled rfl (authenticatePrivateKey_refuses serialization
        loaded enrolled draws salt clocks privateKeyPem passphrase)
  | verify clocks password =>
      have isSecret := within.secrets password (by simp [AccountCall.secrets])
      rcases verifyPassword_run separates opened.known loaded enrolled clocks isSecret with
        ⟨-, ran⟩ | ⟨-, refuses⟩
      · rw [AccountCall.transaction, Committing.run_bind_pure, ran]
        obtain ⟨stillOpen, same⟩ := opened.afterSuccess loaded enrolled clocks.outcome
          (.ok .verified) opened.current
        exact .kept rfl nofun nofun nofun stillOpen same
      · exact .refused opened loaded enrolled rfl refuses
  | change draws clocks currentPassword newPassword =>
      have isSecret := within.secrets currentPassword (by simp [AccountCall.secrets])
      rcases changePassword_run laws total separates opened.known opened.vault loaded enrolled
        draws clocks isSecret newPassword with
        ⟨⟨-, rfl, -⟩, row, slot, after, result, ran, rotation⟩ | ⟨-, refuses⟩
      · rw [AccountCall.transaction, Committing.run_bind_pure, ran]
        have known := within.drawn rfl (show newPassword ∈ _ by simp [AccountCall.secrets])
          (by simp [AccountCall.secrets])
        exact .changed draws clocks newPassword (opened.rotated known rotation _)
          rotation.afterSame
      · exact .refused opened loaded enrolled rfl refuses
  | reset draws clocks recoveryCode newPassword =>
      have isSecret := within.secrets recoveryCode (by simp [AccountCall.secrets])
      rcases resetPassword_run laws total separates opened.known opened.vault loaded enrolled
        draws clocks isSecret newPassword with
        ⟨⟨-, rfl, -⟩, row, slot, after, result, ran, rotation⟩ | ⟨-, refuses⟩
      · rw [AccountCall.transaction, Committing.run_bind_pure, ran]
        have known := within.drawn rfl (show newPassword ∈ _ by simp [AccountCall.secrets])
          (by simp [AccountCall.secrets])
        exact .reset draws clocks newPassword (opened.rotated known rotation _)
          rotation.afterSame
      · exact .refused opened loaded enrolled rfl refuses
  | loadMetadataKeys draws vaultKey =>
      obtain rfl := opened.current vaultKey (usable vaultKey rfl)
      obtain ⟨keys, commits, after, ran, rfl, holds, accounts, same, unique⟩ :=
        loadOrCreateKeys_run laws total (by decide) draws opened.vault.passwordSlot
          (opened.slots metadataEncryptionKey (by decide))
          (opened.slots metadataHmacKey (by decide))
      rw [AccountCall.transaction, Committing.run_bind_pure,
        loadOrCreateMetadataProtectionKeys, Committing.run_bind_pure, ran]
      have stillOpen : AccountOpen crypto ownerId secrets salts credentials vmk
          (life.after ⟨commits, .ok (.metadataKeys ⟨keys.1, keys.2⟩)⟩) :=
        opened.loaded (by decide) holds accounts same rfl
      exact .loadedMetadata draws _ stillOpen holds unique same
  | loadTrackingKeys draws vaultKey =>
      obtain rfl := opened.current vaultKey (usable vaultKey rfl)
      obtain ⟨keys, commits, after, ran, rfl, holds, accounts, same, unique⟩ :=
        loadOrCreateKeys_run laws total (by decide) draws opened.vault.passwordSlot
          (opened.slots trackingEncryptionKey (by decide))
          (opened.slots trackingHmacKey (by decide))
      rw [AccountCall.transaction, Committing.run_bind_pure,
        loadOrCreateTrackingProtectionKeys, Committing.run_bind_pure, ran]
      have stillOpen : AccountOpen crypto ownerId secrets salts credentials vmk
          (life.after ⟨commits, .ok (.trackingKeys ⟨keys.1, keys.2⟩)⟩) :=
        opened.loaded (by decide) holds accounts same rfl
      exact .loadedTracking draws _ stillOpen holds unique same

theorem FreshInstallation.absent {database : Database}
    (fresh : FreshInstallation ownerId database) :
    AccountAbsent crypto ownerId { database } where
  isNew := fresh.isNew
  passwordSlot := .inl (fresh.slots _ (by simp))
  slots := fun key member => .inl (fresh.slots key (List.mem_cons_of_mem _ member))
  current := rfl

theorem requireUnlockedAccount_absent {database : Database}
    (isNew : database.accounts.exists ownerId = false) (clocks : CallClocks)
    (method : AuthMethod) : ∃ error,
      (AuthController.requireUnlockedAccount clocks ownerId method).run database =
        ⟨[], .error error⟩ := by
  have missing : (Committing.read fun database : Database =>
      database.accounts.load ownerId).run database = ⟨[], .ok none⟩ := by
    rw [Committing.run_read, AccountRepository.load_of_not_exists isNew]
  have raised : (AuthController.getAccount ownerId).run database =
      ⟨[], raise .accountNotFoundError s!"No account found for owner_id={ownerId}"⟩ := by
    rw [AuthController.getAccount, Committing.run_bind_ok missing]
    rfl
  exact ⟨_, Committing.run_bind_error raised⟩

theorem AbsentEffect.raised {α : Type} (absent : AccountAbsent crypto ownerId life)
    {call : AccountCall} (isNotLoader : call.vaultKey? = none) {code : Transaction α}
    {result : α → AccountResult}
    (raises : ∃ error, code.run life.database = ⟨[], .error error⟩) :
    AbsentEffect crypto ownerId secrets salts life
      ⟨call, ((code >>= fun value => pure (result value)).run life.database).outcome⟩
      (life.after ((code >>= fun value => pure (result value)).run life.database)) := by
  obtain ⟨error, ran⟩ := raises
  rw [Committing.run_bind_error ran]
  exact .refused isNotLoader ⟨absent.isNew, absent.passwordSlot, absent.slots, absent.current⟩ rfl

/-- What one call does where there is no account. -/
theorem AccountAbsent.step (laws : crypto.AesGcmLaws) (total : crypto.EncryptsAll)
    (absent : AccountAbsent crypto ownerId life)
    (stepped : AccountStep crypto serialization ownerId secrets salts AccountLife.current life
      event next) :
    AbsentEffect crypto ownerId secrets salts life event next := by
  obtain ⟨within, usable, outcome, rfl⟩ := stepped
  obtain ⟨call, outcome⟩ := event
  dsimp only at within usable outcome
  subst outcome
  have required (clocks : CallClocks) (method : AuthMethod) :=
    requireUnlockedAccount_absent absent.isNew clocks method
  cases call with
  | register draws clock password =>
      by_cases acceptable : PasswordHasher.minPasswordLength ≤ password.length
      · obtain ⟨vmk, commits, after, account, ran, rfl, vault, same, isDrawn⟩ :=
          registerPasswordAccount_run laws total absent.isNew absent.passwordSlot draws clock
            acceptable
        rw [AccountCall.transaction, Committing.run_bind_pure, ran]
        have opened : AccountOpen crypto ownerId secrets salts (.drawn draws password) vmk
            (life.after ⟨commits, .ok (.credentials draws.recoveryCode.1)⟩) :=
          { known := within.drawn rfl (by simp [AccountCall.secrets])
              (by simp [AccountCall.secrets])
            vault := vault
            slots := same.slotsWellFormed (by decide) absent.slots
            current := fun _ member => absurd member List.not_mem_nil }
        exact .registered draws clock password opened same isDrawn
      · exact .raised absent rfl
          (registerPasswordAccount_weak absent.isNew draws clock acceptable)
  | authenticate salt clocks password =>
      obtain ⟨error, ran⟩ := required clocks .password
      exact .raised absent rfl ⟨error, Committing.run_bind_error ran⟩
  | authenticatePrivateKey draws salt clocks privateKeyPem passphrase =>
      obtain ⟨error, ran⟩ := required clocks .privateKey
      exact .raised absent rfl ⟨error, Committing.run_bind_error ran⟩
  | verify clocks password =>
      obtain ⟨error, ran⟩ := required clocks .password
      exact .raised absent rfl ⟨error, Committing.run_bind_error ran⟩
  | change draws clocks currentPassword newPassword =>
      obtain ⟨error, ran⟩ := required clocks .password
      exact .raised absent rfl ⟨error, Committing.run_bind_error ran⟩
  | reset draws clocks recoveryCode newPassword =>
      obtain ⟨error, ran⟩ := required clocks .password
      exact .raised absent rfl ⟨error, Committing.run_bind_error ran⟩
  | loadMetadataKeys draws vaultKey =>
      have member := usable vaultKey rfl
      rw [absent.current] at member
      exact absurd member List.not_mem_nil
  | loadTrackingKeys draws vaultKey =>
      have member := usable vaultKey rfl
      rw [absent.current] at member
      exact absurd member List.not_mem_nil

/-! ## Calls that go through -/

theorem AccountStep.of_call (usable : AccountLife → List Bytes) {call : AccountCall}
    (within : call.Within secrets salts) (isNotLoader : call.vaultKey? = none)
    {trace : Trace Database PyError AccountResult}
    (ran : (call.transaction crypto serialization ownerId).run life.database = trace) :
    AccountStep crypto serialization ownerId secrets salts usable life ⟨call, trace.outcome⟩
      (life.after trace) where
  within := within
  usable := by simp [isNotLoader]
  outcome := congrArg Trace.outcome ran.symm
  next := congrArg life.after ran.symm

theorem AccountStep.of_load (usable : AccountLife → List Bytes) (draws : ProtectionKeyDraws)
    {vaultKey : Bytes} (isUsable : vaultKey ∈ usable life) :
    AccountStep crypto serialization ownerId secrets salts usable life
      ⟨.loadMetadataKeys draws vaultKey, (((AccountCall.loadMetadataKeys draws
        vaultKey).transaction crypto serialization ownerId).run life.database).outcome⟩
      (life.after (((AccountCall.loadMetadataKeys draws vaultKey).transaction crypto
        serialization ownerId).run life.database)) where
  within := .of_draws_eq_none rfl (by simp [AccountCall.secrets])
  usable := by
    rintro _ ⟨rfl⟩
    exact isUsable
  outcome := rfl
  next := rfl

variable (serialization) in
/-- An account can be registered on a fresh installation. -/
theorem AccountAbsent.register_exists (laws : crypto.AesGcmLaws) (total : crypto.EncryptsAll)
    (usable : AccountLife → List Bytes) (absent : AccountAbsent crypto ownerId life)
    {draws : CredentialDraws} (clock : UtcInstant) {password : String}
    (within : (AccountCall.register draws clock password).Within secrets salts)
    (acceptable : PasswordHasher.minPasswordLength ≤ password.length) :
    ∃ vmk next, AccountStep crypto serialization ownerId secrets salts usable life
        ⟨.register draws clock password, .ok (.credentials draws.recoveryCode.1)⟩ next ∧
      AccountOpen crypto ownerId secrets salts (.drawn draws password) vmk next ∧
      SameBut [vaultMasterKeyPasswordSlot, vaultMasterKeyRecoverySlot] life.database
        next.database ∧
      (loadWrapped crypto life.database.appMeta vaultMasterKeyPasswordSlot
        (Credentials.vaultKey crypto (.drawn draws password)) = .ok none →
          vmk = draws.vault.vmk.1) := by
  obtain ⟨vmk, commits, after, account, ran, rfl, vault, same, isDrawn⟩ :=
    registerPasswordAccount_run laws total absent.isNew absent.passwordSlot draws clock
      acceptable
  have called : ((AccountCall.register draws clock password).transaction crypto serialization
      ownerId).run life.database = ⟨commits, .ok (.credentials draws.recoveryCode.1)⟩ := by
    rw [AccountCall.transaction, Committing.run_bind_pure, ran]
    rfl
  refine ⟨vmk, _, .of_call usable within rfl called, ?_, same, isDrawn⟩
  exact {
    known := within.drawn rfl (by simp [AccountCall.secrets]) (by simp [AccountCall.secrets])
    vault := vault
    slots := same.slotsWellFormed (by decide) absent.slots
    current := fun _ member => absurd member List.not_mem_nil }

variable (serialization) in
/-- The owner can sign in, after the end of a lockout. -/
theorem AccountOpen.signIn_exists (separates : crypto.ScryptSeparates secrets salts)
    (usable : AccountLife → List Bytes)
    (opened : AccountOpen crypto ownerId secrets salts credentials vmk life)
    (salt : BytesOf PasswordHasher.saltLenBytes) (clock : UtcInstant) :
    ∃ clocks next, AccountStep crypto serialization ownerId secrets salts usable life
        ⟨.authenticate salt clocks credentials.password,
          .ok (.session (vaultSession crypto ownerId credentials clocks))⟩ next ∧
      AccountOpen crypto ownerId secrets salts credentials vmk next ∧
      credentials.vaultKey crypto ∈ next.current ∧ credentials.vaultKey crypto ∈ next.logins := by
  obtain ⟨account, loaded, enrolled⟩ := opened.vault.account
  obtain ⟨unlocked, isUnlocked⟩ := LockoutPolicy.exists_unlocked enrolled.lockedByClock clock
  let clocks : CallClocks := ⟨unlocked, clock, clock, clock⟩
  have within : (AccountCall.authenticate salt clocks credentials.password).Within secrets salts :=
    .of_draws_eq_none rfl (by simpa [AccountCall.secrets] using opened.known.password)
  rcases authenticatePassword_run separates opened.known loaded enrolled salt clocks
    opened.known.password with ⟨-, -, ran⟩ | ⟨wrong, -⟩ | ⟨locked | wrong, -⟩
  · have called : ((AccountCall.authenticate salt clocks credentials.password).transaction crypto
        serialization ownerId).run life.database =
          ⟨[CryptoUsb.afterSuccess account clocks.outcome life.database],
            .ok (.session (vaultSession crypto ownerId credentials clocks))⟩ := by
      rw [AccountCall.transaction, Committing.run_bind_pure, ran]
      rfl
    obtain ⟨stillOpen, -⟩ := opened.afterSuccess loaded enrolled clocks.outcome
      (.ok (.session (vaultSession crypto ownerId credentials clocks))) (by
        intro vaultKey member
        rcases List.mem_cons.mp member with rfl | earlier
        · rfl
        · exact opened.current vaultKey earlier)
    exact ⟨clocks, _, .of_call usable within rfl called, stillOpen, List.mem_cons_self ..,
      List.mem_cons_self ..⟩
  · exact absurd rfl wrong
  · exact absurd (isUnlocked.symm.trans locked) (by simp)
  · exact absurd rfl wrong

variable (serialization) in
/-- The owner can change the password, after the end of a lockout. -/
theorem AccountOpen.change_exists (laws : crypto.AesGcmLaws) (total : crypto.EncryptsAll)
    (separates : crypto.ScryptSeparates secrets salts) (usable : AccountLife → List Bytes)
    (opened : AccountOpen crypto ownerId secrets salts credentials vmk life)
    {draws : CredentialDraws} (clock : UtcInstant) {newPassword : String}
    (within : (AccountCall.register draws clock newPassword).Within secrets salts)
    (acceptable : PasswordHasher.minPasswordLength ≤ newPassword.length) :
    ∃ clocks next, AccountStep crypto serialization ownerId secrets salts usable life
        ⟨.change draws clocks credentials.password newPassword,
          .ok (.credentials draws.recoveryCode.1)⟩ next ∧
      AccountOpen crypto ownerId secrets salts (.drawn draws newPassword) vmk next ∧
      next.logins = life.logins := by
  obtain ⟨account, loaded, enrolled⟩ := opened.vault.account
  obtain ⟨unlocked, isUnlocked⟩ := LockoutPolicy.exists_unlocked enrolled.lockedByClock clock
  let clocks : CallClocks := ⟨unlocked, clock, clock, clock⟩
  have changeWithin : (AccountCall.change draws clocks credentials.password newPassword).Within
      secrets salts := by
    refine ⟨?_, within.passwordSalt, within.passwordWrapSalt, within.recoverySalt,
      within.recoveryWrapSalt⟩
    simp only [AccountCall.secrets, List.forall_mem_cons]
    exact ⟨opened.known.password, within.secrets _ (by simp [AccountCall.secrets]),
      within.secrets _ (by simp [AccountCall.secrets]), by simp⟩
  rcases changePassword_run laws total separates opened.known opened.vault loaded enrolled draws
    clocks opened.known.password newPassword with
    ⟨-, row, slot, after, result, ran, rotation⟩ | ⟨blocked, -⟩
  · have called : ((AccountCall.change draws clocks credentials.password newPassword).transaction
        crypto serialization ownerId).run life.database =
          ⟨[row, slot, after], .ok (.credentials draws.recoveryCode.1)⟩ := by
      rw [AccountCall.transaction, Committing.run_bind_pure, ran]
      rfl
    have known := within.drawn rfl (show newPassword ∈ _ by simp [AccountCall.secrets])
      (by simp [AccountCall.secrets])
    exact ⟨clocks, _, .of_call usable changeWithin rfl called,
      opened.rotated known rotation _, rfl⟩
  · exact absurd ⟨isUnlocked, rfl, acceptable⟩ blocked

end Steps

/-!
## Accounts with transparent primitives

Two passwords, two recovery codes and the salts of two hashings, which the transparent derivation
tells apart.
-/

/-- Keys are the salt followed by the beginning of the secret. -/
def vaultCrypto : Cryptography :=
  transparent (padTo 32)

theorem vaultCrypto_aesGcmLaws : vaultCrypto.AesGcmLaws :=
  @transparent_aesGcmLaws (padTo 32)

theorem vaultCrypto_encryptsAll : vaultCrypto.EncryptsAll :=
  @transparent_encryptsAll (padTo 32)

def firstPassword : String := "password1"

def secondPassword : String := "password2"

def repeatedCode (character : Char)
    (inAlphabet : character ∈ PasswordHasher.recoveryCodeAlphabet.toList) :
    PasswordHasher.RecoveryCode where
  val := String.ofList (List.replicate PasswordHasher.recoveryCodeLength character)
  property := by
    refine ⟨by simp, fun other member => ?_⟩
    rw [String.toList_ofList] at member
    rwa [List.eq_of_mem_replicate member]

def firstCode : PasswordHasher.RecoveryCode := repeatedCode 'A' (by decide)

def secondCode : PasswordHasher.RecoveryCode := repeatedCode 'B' (by decide)

def numberedSalt (number : UInt8) : BytesOf PasswordHasher.saltLenBytes :=
  padTo 16 [number]

/-- The draws of one hashing, told apart by their number. -/
def plainCredentialDraws (number : UInt8) (recoveryCode : PasswordHasher.RecoveryCode) :
    CredentialDraws where
  password := ⟨numberedSalt number, numberedSalt (number + 1)⟩
  recoveryCode := recoveryCode
  recovery := ⟨numberedSalt (number + 2), numberedSalt (number + 3)⟩
  vault := ⟨padTo 32 [number], plainNonce⟩
  recoveryNonce := plainNonce

def firstDraws : CredentialDraws := plainCredentialDraws 1 firstCode

def secondDraws : CredentialDraws := plainCredentialDraws 5 secondCode

def plainKeyDraws : ProtectionKeyDraws where
  vault := ⟨padTo 32 [9], plainNonce⟩
  entropy := ⟨padTo 32 [10], padTo 32 [11]⟩
  encryptionNonce := plainNonce
  hmacNonce := plainNonce

def plainSecrets : List Bytes :=
  [encodeUtf8 firstPassword, encodeUtf8 secondPassword, encodeUtf8 firstCode.1,
    encodeUtf8 secondCode.1]

def plainSalts : List Bytes :=
  [1, 2, 3, 4, 5, 6, 7, 8].map fun number => (numberedSalt number).1

private theorem plainKeys_distinct : ∀ secret ∈ plainSecrets, ∀ salt ∈ plainSalts,
    ∀ other ∈ plainSecrets, ∀ otherSalt ∈ plainSalts,
      deriveVaultKeyFromBytes vaultCrypto secret salt =
        deriveVaultKeyFromBytes vaultCrypto other otherSalt →
      secret = other ∧ salt = otherSalt := by
  decide +kernel

theorem vaultCrypto_separates :
    vaultCrypto.ScryptSeparates { secret | secret ∈ plainSecrets } { salt | salt ∈ plainSalts } := by
  rintro ⟨secret, salt⟩ ⟨isSecret, isSalt⟩ ⟨other, otherSalt⟩ ⟨isOther, isOtherSalt⟩ same
  obtain ⟨rfl, rfl⟩ := plainKeys_distinct secret isSecret salt isSalt other isOther otherSalt
    isOtherSalt same
  rfl

/-- Keys that are their own PEM form; a signature repeats the key. -/
def plainSerialization : KeySerialization Bytes Bytes where
  loadPemPrivateKey pem _ := .ok pem
  loadPemPublicKey pem := .ok pem
  sign privateKey _ _ := .ok privateKey
  verify publicKey signature _ := .ok (publicKey = signature)

theorem firstDraws_within : (AccountCall.register firstDraws plainInstant firstPassword).Within
    { secret | secret ∈ plainSecrets } { salt | salt ∈ plainSalts } where
  secrets := by
    simp only [AccountCall.secrets, List.forall_mem_cons]
    exact ⟨by simp [plainSecrets], by simp [plainSecrets, firstDraws, plainCredentialDraws],
      by simp⟩
  passwordSalt := by
    rintro draws ⟨rfl⟩
    exact List.mem_map.mpr ⟨1, by decide, rfl⟩
  passwordWrapSalt := by
    rintro draws ⟨rfl⟩
    exact List.mem_map.mpr ⟨2, by decide, rfl⟩
  recoverySalt := by
    rintro draws ⟨rfl⟩
    exact List.mem_map.mpr ⟨3, by decide, rfl⟩
  recoveryWrapSalt := by
    rintro draws ⟨rfl⟩
    exact List.mem_map.mpr ⟨4, by decide, rfl⟩

theorem secondDraws_within : (AccountCall.register secondDraws plainInstant secondPassword).Within
    { secret | secret ∈ plainSecrets } { salt | salt ∈ plainSalts } where
  secrets := by
    simp only [AccountCall.secrets, List.forall_mem_cons]
    exact ⟨by simp [plainSecrets], by simp [plainSecrets, secondDraws, plainCredentialDraws],
      by simp⟩
  passwordSalt := by
    rintro draws ⟨rfl⟩
    exact List.mem_map.mpr ⟨5, by decide, rfl⟩
  passwordWrapSalt := by
    rintro draws ⟨rfl⟩
    exact List.mem_map.mpr ⟨6, by decide, rfl⟩
  recoverySalt := by
    rintro draws ⟨rfl⟩
    exact List.mem_map.mpr ⟨7, by decide, rfl⟩
  recoveryWrapSalt := by
    rintro draws ⟨rfl⟩
    exact List.mem_map.mpr ⟨8, by decide, rfl⟩

theorem freshDatabase : FreshInstallation "owner" ({} : Database) where
  isNew := rfl
  slots := fun _ _ => rfl

theorem firstPassword_acceptable :
    PasswordHasher.minPasswordLength ≤ firstPassword.length := by
  decide

theorem secondPassword_acceptable :
    PasswordHasher.minPasswordLength ≤ secondPassword.length := by
  decide

end CryptoUsb
