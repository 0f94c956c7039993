import CryptoUsb.VaultContinuity

/-!
# The vault of a private-key account

A sign-in with a private key is decided by the key itself, but its vault key is
derived from the bytes of the PEM and of the passphrase.  Sign-ins with the same
bytes share one vault; of two sign-ins with different bytes, for instance of one
key under an old and a new passphrase, at most one opens the password slot, and a
load by the other fills the slot anew.
-/

namespace CryptoUsb

open ByteString CommitTraces IsoDateTime ProtectionKeys TransitionRuns

/-! ## Sign-ins and loads of a run -/

/-- The bytes that the vault key of a sign-in is derived from. -/
def keySecret (privateKeyPem passphrase : Bytes) : Bytes :=
  privateKeyPem ++ 124 :: passphrase

structure KeySignIn where
  secret : Bytes
  vaultKey : Bytes

/-- A successful sign-in with a private key. -/
def AccountEvent.keySignIn? (event : AccountEvent) : Option KeySignIn :=
  match event.call, event.outcome with
  | .authenticatePrivateKey _ _ _ privateKeyPem passphrase, .ok (.session signedIn) =>
      signedIn.vaultKey.map fun vaultKey => ⟨keySecret privateKeyPem passphrase, vaultKey⟩
  | _, _ => none

/-- What protection keys are for. -/
inductive ProtectionKind
  | metadata
  | tracking
  deriving DecidableEq

namespace ProtectionKind

def encryptionName : ProtectionKind → String
  | .metadata => metadataEncryptionKey
  | .tracking => trackingEncryptionKey

def hmacName : ProtectionKind → String
  | .metadata => metadataHmacKey
  | .tracking => trackingHmacKey

theorem encryptionName_mem (kind : ProtectionKind) : kind.encryptionName ∈ protectionSlots := by
  cases kind <;> decide

theorem hmacName_mem (kind : ProtectionKind) : kind.hmacName ∈ protectionSlots := by
  cases kind <;> decide

theorem names_distinct (kind : ProtectionKind) : kind.encryptionName ≠ kind.hmacName := by
  cases kind <;> decide

theorem passwordSlot_apart (kind : ProtectionKind) :
    vaultMasterKeyPasswordSlot ∉ [kind.encryptionName, kind.hmacName] := by
  cases kind <;> decide

theorem names_apart {kind other : ProtectionKind} (different : other ≠ kind) :
    other.encryptionName ∉ [kind.encryptionName, kind.hmacName] ∧
      other.hmacName ∉ [kind.encryptionName, kind.hmacName] := by
  cases kind <;> cases other <;> first | exact absurd rfl different | decide

end ProtectionKind

/-- The protection keys that a load returned. -/
def AccountEvent.loaded? (kind : ProtectionKind) (event : AccountEvent) :
    Option (Bytes × Bytes) :=
  match kind, event.outcome with
  | .metadata, .ok (.metadataKeys keys) => some (keys.encryptionKey, keys.hmacKey)
  | .tracking, .ok (.trackingKeys keys) => some (keys.encryptionKey, keys.hmacKey)
  | _, _ => none

/-- The vault key opens the password slot to this Vault Master Key. -/
def OpensVault (crypto : Cryptography) (database : Database) (vaultKey vmk : Bytes) : Prop :=
  loadWrapped crypto database.appMeta vaultMasterKeyPasswordSlot vaultKey = .ok (some vmk)

/-- The bytes of a sign-in, and the salt that it may store, are among the ones that
scrypt tells apart. -/
def AccountCall.KeyWithin (secrets salts : Set Bytes) : AccountCall → Prop
  | .authenticatePrivateKey _ salt _ privateKeyPem passphrase =>
      keySecret privateKeyPem passphrase ∈ secrets ∧ salt.1 ∈ salts
  | _ => True

/-- One call on a private-key account; a loader may be called with the vault key of
any sign-in. -/
structure KeyStep (crypto : Cryptography) {PrivateKey PublicKey : Type}
    (serialization : KeySerialization PrivateKey PublicKey) (ownerId : String)
    (secrets salts : Set Bytes) (life : AccountLife) (event : AccountEvent) (next : AccountLife) :
    Prop where
  call : AccountStep crypto serialization ownerId Set.univ Set.univ AccountLife.logins life event
    next
  keyWithin : event.call.KeyWithin secrets salts

/-- The owner's account holds this public key and this salt. -/
def KeyStored (ownerId : String) (publicKeyPem : Bytes) (keyWrapSalt : Option Bytes)
    (database : Database) : Prop :=
  ∃ account, database.accounts.load ownerId = .ok (some account) ∧
    account.credential = .privateKey ⟨publicKeyPem, keyWrapSalt⟩ ∧
    LockoutPolicy.LockedByClock account

/-- A private-key account in good order. -/
structure KeyAccount (crypto : Cryptography) (ownerId : String) (publicKeyPem : Bytes)
    (keyWrapSalt : Option Bytes) (life : AccountLife) : Prop where
  stored : KeyStored ownerId publicKeyPem keyWrapSalt life.database
  passwordSlot : SlotWellFormed crypto life.database vaultMasterKeyPasswordSlot
  slots : ∀ key ∈ protectionSlots, SlotWellFormed crypto life.database key
  logins : ∀ vaultKey ∈ life.logins, vaultKey.length = AesCipher.aesKeySizeBytes

/-- What a call does to a private-key account: it keeps everything but failure counts,
it signs in under the stored salt or stores one, or it loads protection keys. -/
inductive KeyEffect (crypto : Cryptography) (ownerId : String) (publicKeyPem : Bytes)
    (keyWrapSalt : Option Bytes) (secrets salts : Set Bytes) (life : AccountLife) :
    AccountEvent → AccountLife → Prop
  | kept {event : AccountEvent} {next : AccountLife} :
      event.call.vaultKey? = none → event.keySignIn? = none →
      (∀ kind, event.loaded? kind = none) →
      KeyAccount crypto ownerId publicKeyPem keyWrapSalt next →
      SameBut [] life.database next.database → next.logins = life.logins →
        KeyEffect crypto ownerId publicKeyPem keyWrapSalt secrets salts life event next
  | signedIn {event : AccountEvent} {next : AccountLife} (secret salt : Bytes) :
      event.call.vaultKey? = none → secret ∈ secrets →
      event.keySignIn? = some ⟨secret, (deriveVaultKeyFromBytes crypto secret salt).1⟩ →
      (∀ kind, event.loaded? kind = none) →
      (∀ stored ∈ keyWrapSalt, stored = salt) → (keyWrapSalt = none → salt ∈ salts) →
      KeyAccount crypto ownerId publicKeyPem (some salt) next →
      SameBut [] life.database next.database →
      next.logins = (deriveVaultKeyFromBytes crypto secret salt).1 :: life.logins →
        KeyEffect crypto ownerId publicKeyPem keyWrapSalt secrets salts life event next
  | loaded {event : AccountEvent} {next : AccountLife} (kind : ProtectionKind) (vaultKey : Bytes)
      (keys : Bytes × Bytes) :
      Returns event.outcome → event.keySignIn? = none → event.loaded? kind = some keys →
      (∀ other, other ≠ kind → event.loaded? other = none) →
      event.call.vaultKey? = some vaultKey → vaultKey ∈ life.logins →
      KeyAccount crypto ownerId publicKeyPem keyWrapSalt next →
      LoadsKeys crypto kind.encryptionName kind.hmacName vaultKey life.database next.database
        keys →
      next.logins = life.logins →
        KeyEffect crypto ownerId publicKeyPem keyWrapSalt secrets salts life event next

section KeyAccounts

variable {crypto : Cryptography} {PrivateKey PublicKey : Type}
  {serialization : KeySerialization PrivateKey PublicKey} {ownerId : String}
  {secrets salts : Set Bytes} {publicKeyPem : Bytes} {keyWrapSalt : Option Bytes}
  {database : Database} {account : UserAccount} {life next : AccountLife}
  {events : List AccountEvent} {event : AccountEvent}

/-! ## The calls -/

theorem keyStored_save (loaded : database.accounts.load ownerId = .ok (some account))
    {updated : UserAccount} (sameOwner : updated.ownerId = account.ownerId)
    (sameCreation : updated.createdAt = account.createdAt)
    (credential : updated.credential = .privateKey ⟨publicKeyPem, keyWrapSalt⟩)
    (clock : LockoutPolicy.LockedByClock updated) :
    KeyStored ownerId publicKeyPem keyWrapSalt
      { database with accounts := database.accounts.save updated } := by
  have saved := AccountRepository.load_save loaded sameOwner sameCreation
  rw [sameOwner, AccountRepository.ownerId_of_load loaded] at saved
  exact ⟨updated, saved, credential, clock⟩

theorem keyStored_new (credential : account.credential = .privateKey ⟨publicKeyPem, keyWrapSalt⟩)
    (clock : LockoutPolicy.LockedByClock account) :
    KeyStored account.ownerId publicKeyPem keyWrapSalt
      { accounts := ({} : AccountRepository).save account } :=
  ⟨account, AccountRepository.load_save_new rfl, credential, clock⟩

/-- A verified sign-in derives its vault key under the stored salt, or under the drawn
one, which it stores. -/
theorem authenticatePrivateKey_verified
    (loaded : database.accounts.load ownerId = .ok (some account))
    (credential : account.credential = .privateKey ⟨publicKeyPem, keyWrapSalt⟩)
    {draws : KeyAuthenticator.ChallengeDraws} {privateKeyPem passphrase : Bytes}
    (verified : KeyAuthenticator.authenticate serialization draws privateKeyPem passphrase
      publicKeyPem = .ok true)
    (salt : BytesOf PasswordHasher.saltLenBytes) {clocks : CallClocks}
    (required : (AuthController.requireUnlockedAccount clocks ownerId .privateKey).run database =
      ⟨[], .ok account⟩) :
    ∃ commits session,
      (AuthController.authenticatePrivateKey crypto serialization draws salt clocks ownerId
          privateKeyPem passphrase).run database = ⟨commits, .ok session⟩ ∧
        session.vaultKey = some (deriveVaultKeyFromBytes crypto
          (keySecret privateKeyPem passphrase) (keyWrapSalt.getD salt.1)).1 ∧
        KeyStored ownerId publicKeyPem (some (keyWrapSalt.getD salt.1))
          (commits.getLast?.getD database) ∧
        SameBut [] database (commits.getLast?.getD database) := by
  cases keyWrapSalt with
  | some stored =>
      let session : AuthSession :=
        ⟨account.ownerId, account.authMethod, clocks.session, false,
          some (deriveVaultKeyFromBytes crypto (keySecret privateKeyPem passphrase) stored).1⟩
      refine ⟨[CryptoUsb.afterSuccess account clocks.outcome database], session, ?_, rfl, ?_, rfl,
        rfl, fun _ _ => ⟨rfl, rfl⟩⟩
      · rw [AuthController.authenticatePrivateKey, Committing.run_bind_ok required]
        simp only [credential]
        rw [Committing.run_bind_ok (by rw [Committing.run_lift, verified])]
        rfl
      · exact keyStored_save loaded rfl rfl credential
          (LockoutPolicy.lockedByClock_registerSuccess _)
  | none =>
      let healed := { account with
        credential := .privateKey ⟨publicKeyPem, some salt.1⟩ }
      let between : Database := { database with accounts := database.accounts.save healed }
      have saved : between.accounts.load ownerId = .ok (some healed) := by
        have again := AccountRepository.load_save loaded (rfl : healed.ownerId = account.ownerId)
          rfl
        have owner : healed.ownerId = ownerId :=
          (AccountRepository.ownerId_of_load loaded : account.ownerId = ownerId)
        rwa [owner] at again
      let session : AuthSession :=
        ⟨healed.ownerId, healed.authMethod, clocks.session, false,
          some (deriveVaultKeyFromBytes crypto (keySecret privateKeyPem passphrase) salt.1).1⟩
      refine ⟨[between, CryptoUsb.afterSuccess healed clocks.outcome between], session, ?_, rfl, ?_,
        rfl, rfl, fun _ _ => ⟨rfl, rfl⟩⟩
      · rw [AuthController.authenticatePrivateKey, Committing.run_bind_ok required]
        simp only [credential]
        rw [Committing.run_bind_ok (by rw [Committing.run_lift, verified])]
        rfl
      · exact keyStored_save saved rfl rfl rfl (LockoutPolicy.lockedByClock_registerSuccess _)

/-- A sign-in succeeds, gives a decoy session, or is refused. -/
theorem authenticatePrivateKey_run
    (loaded : database.accounts.load ownerId = .ok (some account))
    (credential : account.credential = .privateKey ⟨publicKeyPem, keyWrapSalt⟩)
    (clock : LockoutPolicy.LockedByClock account) (draws : KeyAuthenticator.ChallengeDraws)
    (salt : BytesOf PasswordHasher.saltLenBytes) (clocks : CallClocks)
    (privateKeyPem passphrase : Bytes) :
    (∃ commits session,
      (AuthController.authenticatePrivateKey crypto serialization draws salt clocks ownerId
          privateKeyPem passphrase).run database = ⟨commits, .ok session⟩ ∧
        session.vaultKey = some (deriveVaultKeyFromBytes crypto
          (keySecret privateKeyPem passphrase) (keyWrapSalt.getD salt.1)).1 ∧
        KeyStored ownerId publicKeyPem (some (keyWrapSalt.getD salt.1))
          (commits.getLast?.getD database) ∧
        SameBut [] database (commits.getLast?.getD database)) ∨
      (∃ commits,
        (AuthController.authenticatePrivateKey crypto serialization draws salt clocks ownerId
            privateKeyPem passphrase).run database =
          ⟨commits, .ok (AuthController.decoySession clocks ownerId .privateKey)⟩ ∧
        OnlyFailures account database commits) ∨
      Refuses account database (AuthController.authenticatePrivateKey crypto serialization draws
        salt clocks ownerId privateKeyPem passphrase) := by
  rcases requireUnlockedAccount_run loaded clock clocks .privateKey with
    ⟨-, -, required⟩ | ⟨-, refuses⟩
  · cases verified : KeyAuthenticator.authenticate serialization draws privateKeyPem passphrase
      publicKeyPem with
    | error exc =>
        refine .inr (.inr (Refuses.bind required ?_))
        simp only [credential]
        exact Refuses.bind_of ⟨[], exc, by rw [Committing.run_lift, verified], .nil⟩
    | ok isVerified =>
        cases isVerified with
        | true =>
            exact .inl (authenticatePrivateKey_verified loaded credential verified salt required)
        | false =>
            have started : (AuthController.authenticatePrivateKey crypto serialization draws salt
                clocks ownerId privateKeyPem passphrase).run database = (do
                  AuthController.fail clocks.outcome account
                  return AuthController.decoySession clocks ownerId .privateKey :
                    Transaction AuthSession).run database := by
              rw [AuthController.authenticatePrivateKey, Committing.run_bind_ok required]
              simp only [credential]
              rw [Committing.run_bind_ok (by rw [Committing.run_lift, verified])]
              rfl
            rcases fail_run clocks.outcome account database with ⟨commits, ran, failures⟩ | refuses
            · refine .inr (.inl ⟨commits, ?_, failures⟩)
              rw [started, Committing.run_bind, ran]
              simp
            · obtain ⟨commits, error, ran, failures⟩ := refuses
              exact .inr (.inr
                ⟨commits, error, by rw [started, Committing.run_bind_error ran], failures⟩)
  · exact .inr (.inr refuses.bind_of)

theorem requirePassword_refuses (loaded : database.accounts.load ownerId = .ok (some account))
    (credential : account.credential = .privateKey ⟨publicKeyPem, keyWrapSalt⟩)
    (clock : LockoutPolicy.LockedByClock account) (clocks : CallClocks) :
    Refuses account database
      (AuthController.requireUnlockedAccount clocks ownerId .password) := by
  rcases requireUnlockedAccount_run loaded clock clocks .password with
    ⟨-, sameMethod, -⟩ | ⟨-, refuses⟩
  · rw [UserAccount.authMethod, credential] at sameMethod
    cases sameMethod
  · exact refuses

/-! ## One call -/

theorem AccountEvent.keySignIn?_of_error {call : AccountCall} {error : PyError} :
    (⟨call, .error error⟩ : AccountEvent).keySignIn? = none := by
  unfold keySignIn?
  split
  case h_1 shown => cases shown
  case h_2 => rfl

theorem AccountEvent.loaded?_of_error {call : AccountCall} {error : PyError}
    (kind : ProtectionKind) : (⟨call, .error error⟩ : AccountEvent).loaded? kind = none := by
  cases kind <;> rfl

theorem AccountEvent.loaded?_of_session {call : AccountCall} {session : AuthSession}
    (kind : ProtectionKind) :
    (⟨call, .ok (.session session)⟩ : AccountEvent).loaded? kind = none := by
  cases kind <;> rfl

theorem KeyAccount.of_stored
    (keyAccount : KeyAccount crypto ownerId publicKeyPem keyWrapSalt life)
    {nextSalt : Option Bytes} (stored : KeyStored ownerId publicKeyPem nextSalt next.database)
    (same : SameBut [] life.database next.database)
    (logins : ∀ vaultKey ∈ next.logins, vaultKey.length = AesCipher.aesKeySizeBytes) :
    KeyAccount crypto ownerId publicKeyPem nextSalt next where
  stored := stored
  passwordSlot := (same.slots _ (by simp)).wellFormed.mpr keyAccount.passwordSlot
  slots := same.slotsWellFormed (by simp) keyAccount.slots
  logins := logins

/-- Counted failures keep the account, whatever the call returns but a vault key. -/
theorem KeyAccount.failures
    (keyAccount : KeyAccount crypto ownerId publicKeyPem keyWrapSalt life)
    (loaded : life.database.accounts.load ownerId = .ok (some account))
    (credential : account.credential = .privateKey ⟨publicKeyPem, keyWrapSalt⟩)
    (clock : LockoutPolicy.LockedByClock account) {commits : List Database}
    (failures : OnlyFailures account life.database commits) {outcome : Raises AccountResult}
    (logins : (life.after ⟨commits, outcome⟩).logins = life.logins) :
    KeyAccount crypto ownerId publicKeyPem keyWrapSalt (life.after ⟨commits, outcome⟩) ∧
      SameBut [] life.database (life.after ⟨commits, outcome⟩).database := by
  have reached : KeyStored ownerId publicKeyPem keyWrapSalt
        (life.after ⟨commits, outcome⟩).database ∧
      SameBut [] life.database (life.after ⟨commits, outcome⟩).database := by
    rcases Trace.finalState_mem (⟨commits, outcome⟩ : Trace Database PyError AccountResult)
      life.database with unchanged | committed
    · rw [AccountLife.after, unchanged]
      exact ⟨keyAccount.stored, .refl _ _⟩
    · obtain ⟨counted, counts, isState⟩ := failures _ committed
      rw [AccountLife.after, isState]
      exact ⟨keyStored_save loaded (counts.ownerId) counts.createdAt
        (counts.credential.trans credential) (counts.lockedByClock clock), rfl, rfl,
        fun _ _ => ⟨rfl, rfl⟩⟩
  exact ⟨keyAccount.of_stored reached.1 reached.2 (by rw [logins]; exact keyAccount.logins),
    reached.2⟩

/-- A refused call changes failure counts at most. -/
theorem KeyEffect.refused {α : Type}
    (keyAccount : KeyAccount crypto ownerId publicKeyPem keyWrapSalt life)
    (loaded : life.database.accounts.load ownerId = .ok (some account))
    (credential : account.credential = .privateKey ⟨publicKeyPem, keyWrapSalt⟩)
    (clock : LockoutPolicy.LockedByClock account) {call : AccountCall}
    (isNotLoader : call.vaultKey? = none) {code : Transaction α} {result : α → AccountResult}
    (refuses : Refuses account life.database code) :
    KeyEffect crypto ownerId publicKeyPem keyWrapSalt secrets salts life
      ⟨call, ((code >>= fun value => pure (result value)).run life.database).outcome⟩
      (life.after ((code >>= fun value => pure (result value)).run life.database)) := by
  obtain ⟨commits, error, ran, failures⟩ := refuses
  rw [Committing.run_bind_error ran]
  have kept : (life.after ⟨commits, .error error⟩).logins = life.logins := rfl
  obtain ⟨still, same⟩ := keyAccount.failures loaded credential clock failures kept
  exact .kept isNotLoader AccountEvent.keySignIn?_of_error AccountEvent.loaded?_of_error still same
    kept

/-- The account after a load. -/
theorem KeyAccount.loads
    (keyAccount : KeyAccount crypto ownerId publicKeyPem keyWrapSalt life) (kind : ProtectionKind)
    {vaultKey : Bytes} {keys : Bytes × Bytes}
    (loads : LoadsKeys crypto kind.encryptionName kind.hmacName vaultKey life.database
      next.database keys)
    (logins : next.logins = life.logins) :
    KeyAccount crypto ownerId publicKeyPem keyWrapSalt next where
  stored := by
    obtain ⟨account, loaded, rest⟩ := keyAccount.stored
    exact ⟨account, by rw [loads.accounts, loaded], rest⟩
  passwordSlot := by
    obtain ⟨vmk, wraps, -⟩ := loads.opens
    exact .inr ⟨_, _, wraps⟩
  slots := by
    intro key member
    obtain ⟨vmk, -, holds⟩ := loads.opens
    by_cases inside : key ∈ [kind.encryptionName, kind.hmacName]
    · rcases List.mem_pair.mp inside with rfl | rfl
      · exact holds.slotWellFormed.1
      · exact holds.slotWellFormed.2
    · have outside : key ∉ [vaultMasterKeyPasswordSlot, kind.encryptionName, kind.hmacName] := by
        refine fun given => (List.mem_cons.mp given).elim (fun isSlot => ?_) inside
        subst isSlot
        exact absurd member (by decide)
      exact (loads.same.slots key outside).wellFormed.mpr (keyAccount.slots key member)
  logins := by rw [logins]; exact keyAccount.logins

theorem KeyAccount.loads_exists (laws : crypto.AesGcmLaws) (total : crypto.EncryptsAll)
    (keyAccount : KeyAccount crypto ownerId publicKeyPem keyWrapSalt life) (kind : ProtectionKind)
    (draws : ProtectionKeyDraws) {vaultKey : Bytes} (isLogin : vaultKey ∈ life.logins) :
    ∃ keys commits,
      (loadOrCreateKeys crypto kind.encryptionName kind.hmacName draws vaultKey).run
          life.database = ⟨commits, .ok keys⟩ ∧
        LoadsKeys crypto kind.encryptionName kind.hmacName vaultKey life.database
          (commits.getLast?.getD life.database) keys := by
  obtain ⟨keys, commits, after, ran, rfl, loads⟩ := loadOrCreateKeys_loads laws total
    kind.names_distinct kind.passwordSlot_apart draws (keyAccount.logins vaultKey isLogin)
    keyAccount.passwordSlot (keyAccount.slots _ kind.encryptionName_mem)
    (keyAccount.slots _ kind.hmacName_mem)
  exact ⟨keys, commits, ran, loads⟩

/-- What one call does to a private-key account. -/
theorem KeyAccount.step (laws : crypto.AesGcmLaws) (total : crypto.EncryptsAll)
    (keyAccount : KeyAccount crypto ownerId publicKeyPem keyWrapSalt life)
    (stepped : KeyStep crypto serialization ownerId secrets salts life event next) :
    KeyEffect crypto ownerId publicKeyPem keyWrapSalt secrets salts life event next := by
  obtain ⟨account, loaded, credential, clock⟩ := keyAccount.stored
  obtain ⟨⟨-, usable, outcome, rfl⟩, keyWithin⟩ := stepped
  obtain ⟨call, outcome⟩ := event
  dsimp only at usable outcome keyWithin
  subst outcome
  have required (clocks : CallClocks) := requirePassword_refuses loaded credential clock clocks
  cases call with
  | register draws clock' password =>
      exact .refused keyAccount loaded credential clock rfl
        (registerPasswordAccount_refuses loaded draws clock' password)
  | authenticate salt clocks password =>
      exact .refused keyAccount loaded credential clock rfl (required clocks).bind_of
  | authenticatePrivateKey draws salt clocks privateKeyPem passphrase =>
      rcases authenticatePrivateKey_run loaded credential clock draws salt clocks privateKeyPem
        passphrase with
        ⟨commits, session, ran, isKey, stored, same⟩ | ⟨commits, ran, failures⟩ | refuses
      · rw [AccountCall.transaction, Committing.run_bind_pure, ran]
        have logins : (life.after ⟨commits, .ok (.session session)⟩).logins =
            (deriveVaultKeyFromBytes crypto (keySecret privateKeyPem passphrase)
              (keyWrapSalt.getD salt.1)).1 :: life.logins := by
          simp [AccountLife.after, AccountResult.vaultKey?, isKey]
        refine .signedIn (keySecret privateKeyPem passphrase) (keyWrapSalt.getD salt.1) rfl
          keyWithin.1 ?_ AccountEvent.loaded?_of_session ?_ ?_
          (keyAccount.of_stored stored same ?_) same logins
        · simp [AccountEvent.keySignIn?, Except.map, isKey]
        · rintro given rfl
          rfl
        · rintro rfl
          exact keyWithin.2
        · intro vaultKey (member : vaultKey ∈ (life.after ⟨commits, .ok (.session session)⟩).logins)
          rw [logins] at member
          rcases List.mem_cons.mp member with rfl | earlier
          · exact (deriveVaultKeyFromBytes crypto _ _).2
          · exact keyAccount.logins vaultKey earlier
      · rw [AccountCall.transaction, Committing.run_bind_pure, ran]
        have kept : (life.after ⟨commits, .ok (.session
            (AuthController.decoySession clocks ownerId .privateKey))⟩).logins = life.logins := rfl
        obtain ⟨still, same⟩ := keyAccount.failures loaded credential clock failures kept
        exact .kept rfl rfl AccountEvent.loaded?_of_session still same kept
      · exact .refused keyAccount loaded credential clock rfl refuses
  | verify clocks password =>
      exact .refused keyAccount loaded credential clock rfl (required clocks).bind_of
  | change draws clocks currentPassword newPassword =>
      exact .refused keyAccount loaded credential clock rfl (required clocks).bind_of
  | reset draws clocks recoveryCode newPassword =>
      exact .refused keyAccount loaded credential clock rfl (required clocks).bind_of
  | loadMetadataKeys draws vaultKey =>
      have isLogin := usable vaultKey rfl
      obtain ⟨keys, commits, ran, loads⟩ := keyAccount.loads_exists laws total .metadata draws
        isLogin
      have called : ((AccountCall.loadMetadataKeys draws vaultKey).transaction crypto
          serialization ownerId).run life.database =
            ⟨commits, .ok (.metadataKeys ⟨keys.1, keys.2⟩)⟩ := by
        have read : (loadOrCreateKeys crypto metadataEncryptionKey metadataHmacKey draws
          vaultKey).run life.database = ⟨commits, .ok keys⟩ := ran
        rw [AccountCall.transaction, Committing.run_bind_pure,
          loadOrCreateMetadataProtectionKeys, Committing.run_bind_pure, read]
        rfl
      rw [called]
      exact .loaded .metadata vaultKey keys (returns_ok _) rfl rfl
        (by rintro (_ | _) different <;> first | exact absurd rfl different | rfl) rfl isLogin
        (keyAccount.loads .metadata loads rfl) loads rfl
  | loadTrackingKeys draws vaultKey =>
      have isLogin := usable vaultKey rfl
      obtain ⟨keys, commits, ran, loads⟩ := keyAccount.loads_exists laws total .tracking draws
        isLogin
      have called : ((AccountCall.loadTrackingKeys draws vaultKey).transaction crypto
          serialization ownerId).run life.database =
            ⟨commits, .ok (.trackingKeys ⟨keys.1, keys.2⟩)⟩ := by
        have read : (loadOrCreateKeys crypto trackingEncryptionKey trackingHmacKey draws
          vaultKey).run life.database = ⟨commits, .ok keys⟩ := ran
        rw [AccountCall.transaction, Committing.run_bind_pure,
          loadOrCreateTrackingProtectionKeys, Committing.run_bind_pure, read]
        rfl
      rw [called]
      exact .loaded .tracking vaultKey keys (returns_ok _) rfl rfl
        (by rintro (_ | _) different <;> first | exact absurd rfl different | rfl) rfl isLogin
        (keyAccount.loads .tracking loads rfl) loads rfl

/-! ## Runs -/

/-- What a run has led to: every sign-in derived its vault key under the stored salt. -/
structure KeyHistory (crypto : Cryptography) (ownerId : String) (publicKeyPem : Bytes)
    (secrets salts : Set Bytes) (keyWrapSalt : Option Bytes) (events : List AccountEvent)
    (life : AccountLife) : Prop where
  account : KeyAccount crypto ownerId publicKeyPem keyWrapSalt life
  drawn : ∀ salt ∈ keyWrapSalt, salt ∈ salts
  signIns : ∀ signIn ∈ events.filterMap AccountEvent.keySignIn?, signIn.secret ∈ secrets ∧
    ∃ salt ∈ keyWrapSalt, signIn.vaultKey = (deriveVaultKeyFromBytes crypto signIn.secret salt).1
  logins : ∀ vaultKey ∈ life.logins,
    ∃ signIn ∈ events.filterMap AccountEvent.keySignIn?, signIn.vaultKey = vaultKey
  returned : ∀ event ∈ events, event.call.vaultKey?.isSome → Returns event.outcome

/-- All sign-ins presented the same bytes. -/
def SameSecrets (events : List AccountEvent) : Prop :=
  ∀ first ∈ events.filterMap AccountEvent.keySignIn?,
    ∀ second ∈ events.filterMap AccountEvent.keySignIn?, first.secret = second.secret

/-- Nothing was loaded yet, or the vault key of a sign-in opens the password slot, and
everything that was loaded is stored under what it opens. -/
def KeysLoaded (crypto : Cryptography) (events : List AccountEvent) (database : Database) : Prop :=
  (∀ kind, events.filterMap (AccountEvent.loaded? kind) = []) ∨
    ∃ signIn ∈ events.filterMap AccountEvent.keySignIn?, ∃ vmk,
      Wraps crypto database vaultMasterKeyPasswordSlot signIn.vaultKey vmk ∧
        ∀ kind, ∀ keys ∈ events.filterMap (AccountEvent.loaded? kind),
          HoldsKeys crypto database kind.encryptionName kind.hmacName vmk keys

theorem mem_filterMap_concat {α : Type} {read : AccountEvent → Option α} {value : α}
    (member : value ∈ events.filterMap read) : value ∈ (events ++ [event]).filterMap read := by
  rw [filterMap_concat]
  exact List.mem_append_left _ member

theorem SameSecrets.of_concat (same : SameSecrets (events ++ [event])) : SameSecrets events :=
  fun first isFirst second isSecond =>
    same first (mem_filterMap_concat isFirst) second (mem_filterMap_concat isSecond)

theorem KeysLoaded.kept {before after : Database} (loaded : KeysLoaded crypto events before)
    (noLoad : ∀ kind, event.loaded? kind = none) (same : SameBut [] before after) :
    KeysLoaded crypto (events ++ [event]) after := by
  have unchanged (kind : ProtectionKind) : (events ++ [event]).filterMap
      (AccountEvent.loaded? kind) = events.filterMap (AccountEvent.loaded? kind) := by
    rw [filterMap_concat, noLoad, Option.toList_none, List.append_nil]
  rcases loaded with none | ⟨signIn, isSignIn, vmk, wraps, holds⟩
  · exact .inl fun kind => (unchanged kind).trans (none kind)
  · refine .inr ⟨signIn, mem_filterMap_concat isSignIn, vmk,
      (same.slots _ (by simp)).wraps.mpr wraps, fun kind keys member => ?_⟩
    rw [unchanged] at member
    exact (same.holdsKeys (by simp) (by simp)).mpr (holds kind keys member)

section History

variable (history : KeyHistory crypto ownerId publicKeyPem secrets salts keyWrapSalt events life)
include history

/-- Under the one stored salt the same bytes give the same vault key. -/
theorem KeyHistory.vaultKey_eq {first second : KeySignIn}
    (isFirst : first ∈ events.filterMap AccountEvent.keySignIn?)
    (isSecond : second ∈ events.filterMap AccountEvent.keySignIn?)
    (sameSecret : first.secret = second.secret) : first.vaultKey = second.vaultKey := by
  obtain ⟨-, salt, isSalt, firstKey⟩ := history.signIns first isFirst
  obtain ⟨-, other, isOther, secondKey⟩ := history.signIns second isSecond
  obtain rfl := Option.mem_unique isSalt isOther
  rw [firstKey, secondKey, sameSecret]

/-- Where the vault key of one sign-in opens the vault, that of another does exactly if
both presented the same bytes. -/
theorem KeyHistory.opensVault_iff (laws : crypto.AesGcmLaws)
    (separates : crypto.ScryptSeparates secrets salts) {first second : KeySignIn}
    (isFirst : first ∈ events.filterMap AccountEvent.keySignIn?)
    (isSecond : second ∈ events.filterMap AccountEvent.keySignIn?) {vmk : Bytes}
    (opens : OpensVault crypto life.database first.vaultKey vmk) :
    OpensVault crypto life.database second.vaultKey vmk ↔ first.secret = second.secret := by
  have holds {vaultKey value : Bytes} (opened : OpensVault crypto life.database vaultKey value) :
      Wraps crypto life.database vaultMasterKeyPasswordSlot vaultKey value := by
    rcases history.account.passwordSlot.load laws vaultKey with closed | ⟨held, found, wraps⟩
    · exact nomatch closed.symm.trans opened
    · obtain rfl := Option.some.inj (Except.ok.inj (found.symm.trans opened))
      exact wraps
  constructor
  · intro alsoOpens
    obtain ⟨firstKnown, salt, isSalt, firstKey⟩ := history.signIns first isFirst
    obtain ⟨secondKnown, other, isOther, secondKey⟩ := history.signIns second isSecond
    obtain rfl := Option.mem_unique isSalt isOther
    have sameKey := (holds alsoOpens).key_unique laws (holds opens)
    rw [firstKey, secondKey] at sameKey
    have drawn := history.drawn salt isSalt
    have samePair : (first.secret, salt) = (second.secret, salt) :=
      separates ⟨firstKnown, drawn⟩ ⟨secondKnown, drawn⟩ (Subtype.ext sameKey)
    exact congrArg Prod.fst samePair
  · intro sameSecret
    rwa [← history.vaultKey_eq isFirst isSecond sameSecret]

/-- One call of a run. -/
theorem KeyHistory.step
    (effect : KeyEffect crypto ownerId publicKeyPem keyWrapSalt secrets salts life event next) :
    ∃ nextSalt, KeyHistory crypto ownerId publicKeyPem secrets salts nextSalt
      (events ++ [event]) next := by
  have earlier {vaultKey : Bytes} (member : vaultKey ∈ life.logins) :
      ∃ signIn ∈ (events ++ [event]).filterMap AccountEvent.keySignIn?,
        signIn.vaultKey = vaultKey := by
    obtain ⟨signIn, isSignIn, isKey⟩ := history.logins vaultKey member
    exact ⟨signIn, mem_filterMap_concat isSignIn, isKey⟩
  cases effect with
  | kept isNotLoader noSignIn noLoad still same logins =>
      refine ⟨keyWrapSalt, still, history.drawn,
        forall_filterMap_concat history.signIns (by simp [noSignIn]), ?_,
        forall_mem_concat history.returned (by simp [isNotLoader])⟩
      rw [logins]
      exact fun vaultKey member => earlier member
  | signedIn secret salt isNotLoader known signIn noLoad stored drawn signed same logins =>
      refine ⟨some salt, signed, ?_, ?_, ?_,
        forall_mem_concat history.returned (by simp [isNotLoader])⟩
      · rintro _ ⟨rfl⟩
        cases given : keyWrapSalt with
        | none => exact drawn given
        | some previous => exact stored previous given ▸ history.drawn previous given
      · refine forall_filterMap_concat (fun other member => ?_) (fun now shown => ?_)
        · obtain ⟨otherKnown, otherSalt, isSalt, isKey⟩ := history.signIns other member
          exact ⟨otherKnown, salt, rfl, stored otherSalt isSalt ▸ isKey⟩
        · obtain rfl := Option.some.inj (signIn.symm.trans shown)
          exact ⟨known, salt, rfl, rfl⟩
      · rw [logins]
        intro vaultKey member
        rcases List.mem_cons.mp member with rfl | before
        · refine ⟨⟨secret, _⟩, ?_, rfl⟩
          rw [filterMap_concat, signIn]
          exact List.mem_append_right _ (List.mem_singleton_self _)
        · exact earlier before
  | loaded kind vaultKey keys returned noSignIn isLoad others isKey isLogin still loads logins =>
      refine ⟨keyWrapSalt, still, history.drawn,
        forall_filterMap_concat history.signIns (by simp [noSignIn]), ?_,
        forall_mem_concat history.returned fun _ => returned⟩
      rw [logins]
      exact fun vaultKey member => earlier member

/-- As long as the sign-ins present the same bytes, the loads share one vault. -/
theorem KeyHistory.keysLoaded (laws : crypto.AesGcmLaws)
    (effect : KeyEffect crypto ownerId publicKeyPem keyWrapSalt secrets salts life event next)
    (before : KeysLoaded crypto events life.database) (same : SameSecrets events) :
    KeysLoaded crypto (events ++ [event]) next.database := by
  cases effect with
  | kept isNotLoader noSignIn noLoad still unchanged logins => exact before.kept noLoad unchanged
  | signedIn secret salt isNotLoader known signIn noLoad stored drawn signed unchanged logins =>
      exact before.kept noLoad unchanged
  | loaded kind vaultKey keys returned noSignIn isLoad others isKey isLogin still loads logins =>
      obtain ⟨signIn, isSignIn, rfl⟩ := history.logins vaultKey isLogin
      obtain ⟨vmk, wraps, holds⟩ := loads.opens
      refine .inr ⟨signIn, mem_filterMap_concat isSignIn, vmk, wraps, fun other => ?_⟩
      rcases before with none | ⟨previous, isPrevious, held, wrapped, holdsBefore⟩
      · refine forall_filterMap_concat (by simp [none other]) fun now shown => ?_
        by_cases sameKind : other = kind
        · subst sameKind
          obtain rfl := Option.some.inj (isLoad.symm.trans shown)
          exact holds
        · exact nomatch (others other sameKind).symm.trans shown
      · -- All sign-ins have one vault key, so the load found the vault open.
        rw [history.vaultKey_eq isPrevious isSignIn
          (same previous isPrevious signIn isSignIn)] at wrapped
        obtain ⟨sameSlots, unique⟩ := loads.kept held wrapped
        obtain rfl := wraps.value_unique laws
          ((sameSlots.slots _ kind.passwordSlot_apart).wraps.mpr wrapped)
        by_cases sameKind : other = kind
        · subst sameKind
          refine forall_filterMap_concat (fun earlier member => ?_) fun now shown => ?_
          · exact unique earlier (holdsBefore other earlier member) ▸ holds
          · obtain rfl := Option.some.inj (isLoad.symm.trans shown)
            exact holds
        · obtain ⟨encryptionApart, hmacApart⟩ := ProtectionKind.names_apart sameKind
          refine forall_filterMap_concat (fun earlier member => ?_) fun now shown => ?_
          · exact (sameSlots.holdsKeys encryptionApart hmacApart).mpr
              (holdsBefore other earlier member)
          · exact nomatch (others other sameKind).symm.trans shown

end History

/-- Along every run, the sign-ins are known by their bytes, and loads under the same
bytes share one vault. -/
theorem keyHistory_of_run (laws : crypto.AesGcmLaws) (total : crypto.EncryptsAll)
    (initially : KeyAccount crypto ownerId publicKeyPem keyWrapSalt { database })
    (drawn : ∀ salt ∈ keyWrapSalt, salt ∈ salts)
    (run : Run (KeyStep crypto serialization ownerId secrets salts) { database } events life) :
    ∃ salt, KeyHistory crypto ownerId publicKeyPem secrets salts salt events life ∧
      (SameSecrets events → KeysLoaded crypto events life.database) := by
  refine run.history (fun events life => ∃ salt, KeyHistory crypto ownerId publicKeyPem secrets
      salts salt events life ∧ (SameSecrets events → KeysLoaded crypto events life.database))
    (fun holds stepped => ?_) ⟨keyWrapSalt, ?_, fun _ => .inl fun _ => rfl⟩
  · obtain ⟨salt, history, loaded⟩ := holds
    have effect := history.account.step laws total stepped
    obtain ⟨nextSalt, nextHistory⟩ := history.step effect
    exact ⟨nextSalt, nextHistory, fun same =>
      history.keysLoaded laws effect (loaded same.of_concat) same.of_concat⟩
  · exact ⟨initially, drawn, by simp, by simp, by simp⟩

/-- Of two successful sign-ins of a run, where one opens the vault the other does exactly
if both presented the same bytes.  A load leaves its vault key opening the vault, and as
long as all sign-ins present the same bytes, every load returns, and always the same
keys. -/
theorem private_key_vault_shared (laws : crypto.AesGcmLaws) (total : crypto.EncryptsAll)
    (separates : crypto.ScryptSeparates secrets salts)
    (initially : KeyAccount crypto ownerId publicKeyPem keyWrapSalt { database })
    (drawn : ∀ salt ∈ keyWrapSalt, salt ∈ salts)
    (run : Run (KeyStep crypto serialization ownerId secrets salts) { database } events life) :
    (∀ first ∈ events.filterMap AccountEvent.keySignIn?,
        ∀ second ∈ events.filterMap AccountEvent.keySignIn?, ∀ vmk,
          OpensVault crypto life.database first.vaultKey vmk →
            (OpensVault crypto life.database second.vaultKey vmk ↔
              first.secret = second.secret)) ∧
      (∀ event next, KeyStep crypto serialization ownerId secrets salts life event next →
        ∀ vaultKey ∈ event.call.vaultKey?, ∃ vmk, OpensVault crypto next.database vaultKey vmk) ∧
      (SameSecrets events →
        (∀ event ∈ events, event.call.vaultKey?.isSome → Returns event.outcome) ∧
          ∀ kind, ∀ first ∈ events.filterMap (AccountEvent.loaded? kind),
            ∀ second ∈ events.filterMap (AccountEvent.loaded? kind), first = second) := by
  obtain ⟨salt, history, loaded⟩ := keyHistory_of_run laws total initially drawn run
  refine ⟨fun first isFirst second isSecond vmk opens =>
    history.opensVault_iff laws separates isFirst isSecond opens,
    fun event next stepped vaultKey isKey => ?_, fun same => ⟨history.returned,
      fun kind first isFirst second isSecond => ?_⟩⟩
  · cases history.account.step laws total stepped with
    | kept isNotLoader noSignIn noLoad still unchanged logins =>
        exact nomatch isNotLoader.symm.trans isKey
    | signedIn secret salt isNotLoader known signIn noLoad stored drawn signed unchanged logins =>
        exact nomatch isNotLoader.symm.trans isKey
    | loaded kind loadKey keys returned noSignIn isLoad others isLoadKey isLogin still loads
        logins =>
        obtain rfl := Option.some.inj (isLoadKey.symm.trans isKey)
        obtain ⟨vmk, wraps, -⟩ := loads.opens
        exact ⟨vmk, wraps.load laws⟩
  · rcases loaded same with none | ⟨signIn, isSignIn, vmk, wraps, holds⟩
    · rw [none kind] at isFirst
      exact absurd isFirst List.not_mem_nil
    · exact (holds kind first isFirst).unique laws (holds kind second isSecond)

/-! ## Calls that go through -/

theorem ProtectionKeys.SameBut.opensVault {before after : Database} (same : SameBut [] before after)
    {vaultKey vmk : Bytes} (opens : OpensVault crypto before vaultKey vmk) :
    OpensVault crypto after vaultKey vmk := by
  obtain ⟨nonceRows, ciphertextRows⟩ := same.slots vaultMasterKeyPasswordSlot (by simp)
  unfold OpensVault loadWrapped at opens ⊢
  rwa [nonceRows, ciphertextRows]

variable (crypto) in
/-- A key that verifies signs in, after the end of a lockout. -/
theorem KeyAccount.signIn_exists
    (keyAccount : KeyAccount crypto ownerId publicKeyPem keyWrapSalt life)
    {draws : KeyAuthenticator.ChallengeDraws} {privateKeyPem passphrase : Bytes}
    (verified : KeyAuthenticator.authenticate serialization draws privateKeyPem passphrase
      publicKeyPem = .ok true)
    (salt : BytesOf PasswordHasher.saltLenBytes) (clock : UtcInstant)
    (isSecret : keySecret privateKeyPem passphrase ∈ secrets) (isSalt : salt.1 ∈ salts) :
    ∃ event next, KeyStep crypto serialization ownerId secrets salts life event next ∧
      event.keySignIn? = some ⟨keySecret privateKeyPem passphrase, (deriveVaultKeyFromBytes crypto
        (keySecret privateKeyPem passphrase) (keyWrapSalt.getD salt.1)).1⟩ ∧
      KeyAccount crypto ownerId publicKeyPem (some (keyWrapSalt.getD salt.1)) next ∧
      (deriveVaultKeyFromBytes crypto (keySecret privateKeyPem passphrase)
        (keyWrapSalt.getD salt.1)).1 ∈ next.logins ∧
      SameBut [] life.database next.database := by
  obtain ⟨account, loaded, credential, lockedByClock⟩ := keyAccount.stored
  obtain ⟨now, unlocked⟩ := LockoutPolicy.exists_unlocked lockedByClock clock
  let clocks : CallClocks := ⟨now, clock, clock, clock⟩
  have isPrivateKey : account.authMethod = .privateKey := by
    rw [UserAccount.authMethod, credential]
    rfl
  rcases requireUnlockedAccount_run loaded lockedByClock clocks .privateKey with
    ⟨-, -, required⟩ | ⟨locked | otherMethod, -⟩
  · obtain ⟨commits, session, ran, isKey, stored, same⟩ := authenticatePrivateKey_verified
      loaded credential verified salt required
    have called : ((AccountCall.authenticatePrivateKey draws salt clocks privateKeyPem
        passphrase).transaction crypto serialization ownerId).run life.database =
          ⟨commits, .ok (.session session)⟩ := by
      rw [AccountCall.transaction, Committing.run_bind_pure, ran]
      rfl
    have logins : (life.after ⟨commits, .ok (.session session)⟩).logins =
        (deriveVaultKeyFromBytes crypto (keySecret privateKeyPem passphrase)
          (keyWrapSalt.getD salt.1)).1 :: life.logins := by
      simp [AccountLife.after, AccountResult.vaultKey?, isKey]
    have within : (AccountCall.authenticatePrivateKey draws salt clocks privateKeyPem
        passphrase).Within Set.univ Set.univ :=
      .of_draws_eq_none rfl fun _ _ => trivial
    have stepped := AccountStep.of_call AccountLife.logins within rfl called
    refine ⟨_, _, ⟨stepped, isSecret, isSalt⟩, ?_, keyAccount.of_stored stored same ?_, ?_, same⟩
    · simp [AccountEvent.keySignIn?, isKey]
    · intro vaultKey member
      rw [logins] at member
      rcases List.mem_cons.mp member with rfl | earlier
      · exact (deriveVaultKeyFromBytes crypto _ _).2
      · exact keyAccount.logins vaultKey earlier
    · rw [logins]
      exact List.mem_cons_self ..
  · exact absurd (unlocked.symm.trans locked) (by simp)
  · exact absurd isPrivateKey otherMethod

end KeyAccounts

/-! ## One key under two passphrases -/

/-- A PEM is the key followed by the passphrase that it is encrypted under. -/
def passphraseSerialization : KeySerialization UInt8 UInt8 where
  loadPemPrivateKey pem passphrase :=
    match pem with
    | privateKey :: encryptedUnder =>
        if encryptedUnder = passphrase then .ok privateKey
        else raise .valueError "Incorrect password, could not decrypt key"
    | [] => raise .valueError "Could not deserialize key data."
  loadPemPublicKey pem :=
    match pem with
    | [publicKey] => .ok publicKey
    | _ => raise .valueError "Could not deserialize key data."
  sign privateKey _ challenge := .ok (privateKey :: challenge)
  verify publicKey signature challenge := .ok (signature = publicKey :: challenge)

def oldPassphrase : Bytes := [1, 2, 3]

def newPassphrase : Bytes := [4, 5, 6]

/-- The key 7, encrypted under this passphrase. -/
def pemUnder (passphrase : Bytes) : Bytes := 7 :: passphrase

theorem pemUnder_verifies (draws : KeyAuthenticator.ChallengeDraws) (passphrase : Bytes) :
    KeyAuthenticator.authenticate passphraseSerialization draws (pemUnder passphrase) passphrase
      [7] = .ok true := by
  simp [KeyAuthenticator.authenticate, KeyAuthenticator.loadPrivateKey,
    KeyAuthenticator.loadPublicKey, passphraseSerialization, pemUnder, bind, Except.bind]

def plainKeyAccount : UserAccount where
  ownerId := "owner"
  credential := .privateKey { publicKeyPem := [7] }
  createdAt := plainInstant.1

def keyAccountDatabase : Database where
  accounts := ({} : AccountRepository).save plainKeyAccount

def passphraseSecrets : List Bytes :=
  [keySecret (pemUnder oldPassphrase) oldPassphrase,
    keySecret (pemUnder newPassphrase) newPassphrase]

theorem passphraseSecrets_separate :
    vaultCrypto.ScryptSeparates { secret | secret ∈ passphraseSecrets }
      { salt | salt ∈ [(numberedSalt 1).1] } := by
  have distinct : ∀ secret ∈ passphraseSecrets, ∀ other ∈ passphraseSecrets,
      deriveVaultKeyFromBytes vaultCrypto secret (numberedSalt 1).1 =
        deriveVaultKeyFromBytes vaultCrypto other (numberedSalt 1).1 → secret = other := by
    decide +kernel
  rintro ⟨secret, salt⟩ ⟨isSecret, isSalt⟩ ⟨other, otherSalt⟩ ⟨isOther, isOtherSalt⟩ same
  obtain rfl := List.mem_singleton.mp isSalt
  obtain rfl := List.mem_singleton.mp isOtherSalt
  obtain rfl := distinct secret isSecret other isOther same
  rfl

theorem plainKeyAccount_lockedByClock : LockoutPolicy.LockedByClock plainKeyAccount := by
  intro lockedUntil locked
  cases locked

theorem keyAccountDatabase_stored :
    KeyStored plainKeyAccount.ownerId [7] none keyAccountDatabase :=
  keyStored_new rfl plainKeyAccount_lockedByClock

theorem keyAccountDatabase_enrolled :
    KeyAccount vaultCrypto "owner" [7] none { database := keyAccountDatabase } where
  stored := keyAccountDatabase_stored
  passwordSlot := .inl rfl
  slots := fun _ _ => .inl rfl
  logins := fun _ member => absurd member List.not_mem_nil

/-- The calls on this account. -/
abbrev PassphraseStep : AccountLife → AccountEvent → AccountLife → Prop :=
  KeyStep vaultCrypto passphraseSerialization "owner" { secret | secret ∈ passphraseSecrets }
    { salt | salt ∈ [(numberedSalt 1).1] }

/-- The sign-in with the key under this passphrase. -/
def signInUnder (passphrase : Bytes) : KeySignIn where
  secret := keySecret (pemUnder passphrase) passphrase
  vaultKey := (deriveVaultKeyFromBytes vaultCrypto (keySecret (pemUnder passphrase) passphrase)
    (numberedSalt 1).1).1

theorem signInUnder_secrets :
    (signInUnder oldPassphrase).secret ≠ (signInUnder newPassphrase).secret := by
  decide

/-- Sign in under the old passphrase, load, and sign in under the new one. -/
theorem passphraseRun : ∃ events life vmk,
    Run PassphraseStep { database := keyAccountDatabase } events life ∧
      signInUnder oldPassphrase ∈ events.filterMap AccountEvent.keySignIn? ∧
      signInUnder newPassphrase ∈ events.filterMap AccountEvent.keySignIn? ∧
      OpensVault vaultCrypto life.database (signInUnder oldPassphrase).vaultKey vmk := by
  let draws : KeyAuthenticator.ChallengeDraws := ⟨padTo 32 [], []⟩
  have oldSecret : keySecret (pemUnder oldPassphrase) oldPassphrase ∈
      { secret | secret ∈ passphraseSecrets } := List.mem_cons_self ..
  have newSecret : keySecret (pemUnder newPassphrase) newPassphrase ∈
      { secret | secret ∈ passphraseSecrets } := List.mem_cons_of_mem _ (List.mem_cons_self ..)
  have isSalt : (numberedSalt 1).1 ∈ { salt | salt ∈ [(numberedSalt 1).1] } :=
    List.mem_singleton_self _
  obtain ⟨firstEvent, signedIn, firstStep, isFirst, enrolled, isLogin, -⟩ :=
    keyAccountDatabase_enrolled.signIn_exists vaultCrypto (pemUnder_verifies draws oldPassphrase)
      (numberedSalt 1) plainInstant oldSecret isSalt
  have loadStep : PassphraseStep signedIn _ _ :=
    ⟨.of_load AccountLife.logins plainKeyDraws isLogin, trivial⟩
  have effect := enrolled.step vaultCrypto_aesGcmLaws vaultCrypto_encryptsAll loadStep
  cases effect with
  | kept isNotLoader => cases isNotLoader
  | signedIn _ _ isNotLoader => cases isNotLoader
  | loaded kind vaultKey keys returned noSignIn isLoad others isKey _ loadedAccount loads =>
      obtain rfl := Option.some.inj isKey
      obtain ⟨vmk, wraps, -⟩ := loads.opens
      obtain ⟨secondEvent, last, secondStep, isSecond, -, -, same⟩ :=
        loadedAccount.signIn_exists vaultCrypto (pemUnder_verifies draws newPassphrase)
          (numberedSalt 1) plainInstant newSecret isSalt
      have opens := same.opensVault (wraps.load vaultCrypto_aesGcmLaws)
      refine ⟨_, last, vmk, ((Run.single firstStep).tail loadStep).tail secondStep,
        mem_filterMap_concat (mem_filterMap_concat ?_), ?_, opens⟩
      · exact List.mem_filterMap.mpr ⟨firstEvent, List.mem_singleton_self _, isFirst⟩
      · exact List.mem_filterMap.mpr ⟨secondEvent, List.mem_concat_self, isSecond⟩

theorem private_key_vault_shared_plain : ∃ events life vmk,
    Run PassphraseStep { database := keyAccountDatabase } events life ∧
      OpensVault vaultCrypto life.database (signInUnder oldPassphrase).vaultKey vmk ∧
      ¬ OpensVault vaultCrypto life.database (signInUnder newPassphrase).vaultKey vmk := by
  obtain ⟨events, life, vmk, run, isFirst, isSecond, opens⟩ := passphraseRun
  obtain ⟨shared, -⟩ := private_key_vault_shared vaultCrypto_aesGcmLaws vaultCrypto_encryptsAll
    passphraseSecrets_separate keyAccountDatabase_enrolled nofun run
  exact ⟨events, life, vmk, run, opens, fun alsoOpens =>
    signInUnder_secrets ((shared _ isFirst _ isSecond vmk opens).mp alsoOpens)⟩

/-- The same key under a new passphrase signs in, and does not open the vault. -/
theorem new_passphrase_shut_out :
    ¬ ∀ events life, Run PassphraseStep { database := keyAccountDatabase } events life →
      ∀ first ∈ events.filterMap AccountEvent.keySignIn?,
        ∀ second ∈ events.filterMap AccountEvent.keySignIn?, ∀ vmk,
          OpensVault vaultCrypto life.database first.vaultKey vmk →
            OpensVault vaultCrypto life.database second.vaultKey vmk := by
  intro claimed
  obtain ⟨events, life, vmk, run, isFirst, isSecond, opens⟩ := passphraseRun
  obtain ⟨salt, history, -⟩ := keyHistory_of_run vaultCrypto_aesGcmLaws vaultCrypto_encryptsAll
    keyAccountDatabase_enrolled nofun run
  have alsoOpens := claimed events life run _ isFirst _ isSecond vmk opens
  exact signInUnder_secrets ((history.opensVault_iff vaultCrypto_aesGcmLaws
    passphraseSecrets_separate isFirst isSecond opens).mp alsoOpens)

end CryptoUsb
