import CryptoUsb.CredentialRotation

/-!
# Interrupted rotations

A change or a reset that is cut short after one of its commits.  Between the
account row and the password slot the stored salts are new and the slots are old:
no credential leads to the Vault Master Key, and the next load draws another one.
After every other commit the old password or the new one still leads to it.
-/

namespace CryptoUsb

open ByteString CommitTraces IsoDateTime ProtectionKeys TransitionRuns

/-! ## What a state leads to -/

/-- At some time a sign-in with the password returns a vault key, and loading with
it returns this Vault Master Key and writes nothing. -/
def ReachesByPassword (crypto : Cryptography) (ownerId : String) (vmk : Bytes)
    (database : Database) (password : String) : Prop :=
  ∃ salt clocks commits session vaultKey,
    (AuthController.authenticatePassword crypto salt clocks ownerId password).run database =
        ⟨commits, .ok session⟩ ∧
      session.vaultKey = some vaultKey ∧
      ∀ draws, (loadOrCreateVaultMasterKey crypto draws vaultKey).run
        (commits.getLast?.getD database) = ⟨[], .ok vmk⟩

/-- At some time a reset with the recovery code returns, and its new password opens
the password slot to this Vault Master Key. -/
def ReachesByRecoveryCode (crypto : Cryptography) (ownerId : String) (vmk : Bytes)
    (database : Database) (recoveryCode : String) : Prop :=
  ∃ draws clocks newPassword commits result,
    (AuthController.resetPasswordWithRecoveryCode crypto {} draws clocks ownerId recoveryCode
        newPassword).run database = ⟨commits, .ok result⟩ ∧
      loadWrapped crypto (commits.getLast?.getD database).appMeta vaultMasterKeyPasswordSlot
        (PasswordHasher.deriveVaultKey crypto newPassword draws.password.keyWrapSalt.1) =
          .ok (some vmk)

/-- A credential that the owner knows leads to the Vault Master Key. -/
def Recoverable (crypto : Cryptography) (ownerId : String) (vmk : Bytes)
    (credentials : Credentials) (newPassword : String) (database : Database) : Prop :=
  ReachesByPassword crypto ownerId vmk database credentials.password ∨
    ReachesByPassword crypto ownerId vmk database newPassword ∨
    ReachesByRecoveryCode crypto ownerId vmk database credentials.recoveryCode

/-- What the owner proves to be the owner with. -/
inductive OwnerProof
  | password (currentPassword : String)
  | recoveryCode (code : String)

namespace OwnerProof

/-- `change_password` with a password, `reset_password_with_recovery_code` with a
recovery code. -/
def rotation (crypto : Cryptography) (draws : CredentialDraws) (clocks : CallClocks)
    (ownerId newPassword : String) : OwnerProof → Transaction (UserAccount × String)
  | .password currentPassword => AuthController.changePassword crypto {} draws clocks ownerId
      currentPassword newPassword
  | .recoveryCode code => AuthController.resetPasswordWithRecoveryCode crypto {} draws clocks
      ownerId code newPassword

def secret : OwnerProof → String
  | .password currentPassword => currentPassword
  | .recoveryCode code => code

/-- The secret is the current one of its kind. -/
def IsCurrent (credentials : Credentials) : OwnerProof → Prop
  | .password currentPassword => currentPassword = credentials.password
  | .recoveryCode code => code = credentials.recoveryCode

/-- The account is unlocked, the secret is right, and the new password acceptable. -/
def GoesThrough (proof : OwnerProof) (ownerId : String) (credentials : Credentials)
    (database : Database) (clocks : CallClocks) (newPassword : String) : Prop :=
  Unlocked ownerId database clocks ∧ proof.IsCurrent credentials ∧
    PasswordHasher.minPasswordLength ≤ newPassword.length

end OwnerProof

/-- The drawn salt and the drawn recovery code are not the old ones. -/
structure CredentialDraws.Fresh (draws : CredentialDraws) (credentials : Credentials) : Prop where
  keyWrapSalt : draws.password.keyWrapSalt ≠ credentials.passwordSalts.keyWrapSalt
  recoveryCode : draws.recoveryCode.1 ≠ credentials.recoveryCode

section Interruptions

variable {crypto : Cryptography} {ownerId : String} {secrets salts : Set Bytes}
  {credentials : Credentials} {vmk : Bytes} {database row slot after : Database}
  {draws : CredentialDraws} {newPassword : String}

/-- The password reaches the key where the stored salts and the password slot are its
own. -/
theorem reachesByPassword (laws : crypto.AesGcmLaws)
    (separates : crypto.ScryptSeparates secrets salts) (known : credentials.Known secrets salts)
    (account : ∃ account, database.accounts.load ownerId = .ok (some account) ∧
      Enrolled crypto ownerId credentials account)
    (wraps : Wraps crypto database vaultMasterKeyPasswordSlot (credentials.vaultKey crypto) vmk)
    (clocks : CallClocks) :
    ReachesByPassword crypto ownerId vmk database credentials.password := by
  obtain ⟨account, loaded, enrolled⟩ := account
  obtain ⟨now, unlocked⟩ := LockoutPolicy.exists_unlocked enrolled.lockedByClock clocks.lock
  rcases authenticatePassword_run separates known loaded enrolled credentials.passwordSalts.salt
    { clocks with lock := now } known.password with
    ⟨-, -, ran⟩ | ⟨wrong, -⟩ | ⟨locked | wrong, -⟩
  · refine ⟨_, _, _, _, _, ran, rfl, fun draws => ?_⟩
    have stillWraps : Wraps crypto (afterSuccess account clocks.outcome database)
        vaultMasterKeyPasswordSlot (credentials.vaultKey crypto) vmk := wraps
    exact loadOrCreateVaultMasterKey_held laws draws stillWraps
  · exact absurd rfl wrong
  · exact absurd (unlocked.symm.trans locked) (by simp)
  · exact absurd rfl wrong

theorem VaultState.recoverable (laws : crypto.AesGcmLaws)
    (separates : crypto.ScryptSeparates secrets salts) (known : credentials.Known secrets salts)
    (vault : VaultState crypto ownerId credentials vmk database) (clocks : CallClocks) :
    Recoverable crypto ownerId vmk credentials newPassword database :=
  .inl (reachesByPassword laws separates known vault.account vault.passwordSlot clocks)

theorem Rotation.recoverable (laws : crypto.AesGcmLaws)
    (separates : crypto.ScryptSeparates secrets salts)
    (drawnKnown : (Credentials.drawn draws newPassword).Known secrets salts)
    (rotation : Rotation crypto ownerId (.drawn draws newPassword) vmk database row slot after)
    (clocks : CallClocks) {state : Database} (isLater : state = slot ∨ state = after) :
    Recoverable crypto ownerId vmk credentials newPassword state := by
  refine .inr (.inl ?_)
  change ReachesByPassword crypto ownerId vmk state (Credentials.drawn draws newPassword).password
  rcases isLater with rfl | rfl
  · exact reachesByPassword laws separates drawnKnown
      (by rw [rotation.slotAccounts]; exact rotation.rowAccount) rotation.slotWraps clocks
  · exact reachesByPassword laws separates drawnKnown rotation.vault.account
      rotation.vault.passwordSlot clocks

/-- With the account row alone, nothing leads to the key any more: the new password
derives another key than the slot is wrapped under, and the old secrets are refused. -/
theorem Rotation.row_not_recoverable (laws : crypto.AesGcmLaws) (total : crypto.EncryptsAll)
    (separates : crypto.ScryptSeparates secrets salts) (known : credentials.Known secrets salts)
    (drawnKnown : (Credentials.drawn draws newPassword).Known secrets salts)
    (vault : VaultState crypto ownerId credentials vmk database)
    (rotation : Rotation crypto ownerId (.drawn draws newPassword) vmk database row slot after)
    (fresh : draws.Fresh credentials) :
    ¬ Recoverable crypto ownerId vmk credentials newPassword row := by
  obtain ⟨account, loaded, enrolled⟩ := rotation.rowAccount
  have wraps : Wraps crypto row vaultMasterKeyPasswordSlot (credentials.vaultKey crypto) vmk :=
    (rotation.rowSame.slots _ (by simp)).wraps.mpr vault.passwordSlot
  have different : Credentials.vaultKey crypto (.drawn draws newPassword) ≠
      credentials.vaultKey crypto := fun same =>
    fresh.keyWrapSalt (Subtype.ext (PasswordHasher.deriveVaultKey_inj separates
      drawnKnown.password known.password drawnKnown.passwordWrapSalt known.passwordWrapSalt
      same).2)
  -- A sign-in gives the new vault key, with which the load draws a new Vault Master Key.
  have byPassword {candidate : String} (isCandidate : encodeUtf8 candidate ∈ secrets) :
      ¬ ReachesByPassword crypto ownerId vmk row candidate := by
    rintro ⟨salt, clocks, commits, session, vaultKey, signedIn, isKey, loads⟩
    rcases authenticatePassword_run separates drawnKnown loaded enrolled salt clocks isCandidate
      with ⟨-, rfl, ran⟩ | ⟨-, others, ran, -⟩ | ⟨-, refuses⟩
    · obtain ⟨rfl, returned⟩ := Trace.mk.inj (signedIn.symm.trans ran)
      obtain rfl := Except.ok.inj returned
      obtain rfl := Option.some.inj isKey
      have stillWraps : Wraps crypto (afterSuccess account clocks.outcome row)
          vaultMasterKeyPasswordSlot (credentials.vaultKey crypto) vmk := wraps
      obtain ⟨filled, created, -⟩ := loadOrCreateVaultMasterKey_new total draws.vault
        (PasswordHasher.length_deriveVaultKey _ _) (stillWraps.load_other laws different)
      have held := loads draws.vault
      rw [List.getLast?_singleton, Option.getD_some] at held
      have noCommit := congrArg Trace.commits (created.symm.trans held)
      cases noCommit
    · obtain ⟨rfl, returned⟩ := Trace.mk.inj (signedIn.symm.trans ran)
      obtain rfl := Except.ok.inj returned
      cases isKey
    · exact refuses.not_returns ⟨session, congrArg Trace.outcome signedIn⟩
  rintro (old | new | ⟨resetDraws, clocks, password, commits, result, returned, -⟩)
  · exact byPassword known.password old
  · exact byPassword drawnKnown.password new
  · have refuses := resetPassword_wrong separates drawnKnown loaded enrolled resetDraws clocks
      known.recoveryCode fresh.recoveryCode.symm password
    exact refuses.not_returns ⟨result, congrArg Trace.outcome returned⟩

/-- A change or a reset goes through in three commits, or it is refused. -/
theorem OwnerProof.rotation_run (laws : crypto.AesGcmLaws) (total : crypto.EncryptsAll)
    (separates : crypto.ScryptSeparates secrets salts) (known : credentials.Known secrets salts)
    (vault : VaultState crypto ownerId credentials vmk database) (draws : CredentialDraws)
    (clocks : CallClocks) (newPassword : String) (proof : OwnerProof)
    (isSecret : encodeUtf8 proof.secret ∈ secrets) :
    (proof.GoesThrough ownerId credentials database clocks newPassword ∧
        Rotates crypto ownerId draws newPassword vmk database
          (proof.rotation crypto draws clocks ownerId newPassword)) ∨
      (¬ proof.GoesThrough ownerId credentials database clocks newPassword ∧
        ∃ account, database.accounts.load ownerId = .ok (some account) ∧
          Enrolled crypto ownerId credentials account ∧
          Refuses account database
            (proof.rotation crypto draws clocks ownerId newPassword)) := by
  obtain ⟨account, loaded, enrolled⟩ := vault.account
  unfold OwnerProof.GoesThrough
  rw [unlocked_iff loaded]
  cases proof with
  | password currentPassword =>
      simp only [OwnerProof.rotation, OwnerProof.IsCurrent, OwnerProof.secret] at isSecret ⊢
      rcases changePassword_run laws total separates known vault loaded enrolled draws clocks
        isSecret newPassword with done | ⟨blocked, refuses⟩
      · exact .inl done
      · exact .inr ⟨blocked, account, loaded, enrolled, refuses⟩
  | recoveryCode code =>
      simp only [OwnerProof.rotation, OwnerProof.IsCurrent, OwnerProof.secret] at isSecret ⊢
      rcases resetPassword_run laws total separates known vault loaded enrolled draws clocks
        isSecret newPassword with done | ⟨blocked, refuses⟩
      · exact .inl done
      · exact .inr ⟨blocked, account, loaded, enrolled, refuses⟩

theorem stateAt_rotation (outcome : Raises (UserAccount × String)) (count : Nat) {state : Database}
    (isState : (⟨[row, slot, after], outcome⟩ : Trace Database PyError _).stateAt database count =
      state) :
    count = 0 ∧ state = database ∨ count = 1 ∧ state = row ∨
      count ≠ 1 ∧ (state = slot ∨ state = after) := by
  subst isState
  rcases count with _ | _ | _ | count
  · exact .inl ⟨rfl, rfl⟩
  · exact .inr (.inl ⟨rfl, rfl⟩)
  · exact .inr (.inr ⟨by omega, .inl rfl⟩)
  · refine .inr (.inr ⟨by omega, .inr ?_⟩)
    rw [Trace.stateAt_of_length_le _ _ (by simp)]
    rfl

/-- An interruption leaves the Vault Master Key in reach, unless it comes right after
the account row of a call that goes through; there it is out of reach, as long as
the draws were fresh. -/
theorem interrupted_rotation_recoverable (laws : crypto.AesGcmLaws) (total : crypto.EncryptsAll)
    (separates : crypto.ScryptSeparates secrets salts) (known : credentials.Known secrets salts)
    (vault : VaultState crypto ownerId credentials vmk database)
    (drawnKnown : (Credentials.drawn draws newPassword).Known secrets salts)
    (proof : OwnerProof) (isSecret : encodeUtf8 proof.secret ∈ secrets) (clocks : CallClocks)
    (count : Nat) {state : Database}
    (isState : ((proof.rotation crypto draws clocks ownerId newPassword).run database).stateAt
      database count = state) :
    (¬ (proof.GoesThrough ownerId credentials database clocks newPassword ∧ count = 1) →
        Recoverable crypto ownerId vmk credentials newPassword state) ∧
      (draws.Fresh credentials →
        (proof.GoesThrough ownerId credentials database clocks newPassword ∧ count = 1) →
          ¬ Recoverable crypto ownerId vmk credentials newPassword state) := by
  rcases proof.rotation_run laws total separates known vault draws clocks newPassword isSecret with
    ⟨through, row, slot, after, result, ran, rotation⟩ |
      ⟨blocked, account, loaded, enrolled, commits, error, ran, failures⟩
  · rw [ran] at isState
    rcases stateAt_rotation _ _ isState with ⟨rfl, rfl⟩ | ⟨rfl, rfl⟩ | ⟨notFirst, reached⟩
    · refine ⟨fun _ => ?_, fun _ cut => absurd cut.2 (by simp)⟩
      exact vault.recoverable laws separates known clocks
    · refine ⟨fun elsewhere => absurd ⟨through, rfl⟩ elsewhere, fun fresh _ => ?_⟩
      exact rotation.row_not_recoverable laws total separates known drawnKnown vault fresh
    · exact ⟨fun _ => rotation.recoverable laws separates drawnKnown clocks reached,
        fun _ cut => absurd cut.2 notFirst⟩
  · refine ⟨fun _ => ?_, fun _ cut => absurd cut.1 blocked⟩
    rw [ran] at isState
    rcases Trace.stateAt_mem (⟨commits, .error error⟩ : Trace Database PyError
      (UserAccount × String)) database count with unchanged | committed
    · rw [unchanged] at isState
      exact (isState ▸ vault).recoverable laws separates known clocks
    · rw [isState] at committed
      obtain ⟨kept, -⟩ := vault.failures loaded enrolled failures committed
      exact kept.recoverable laws separates known clocks

end Interruptions

/-! ## A password change cut short -/

theorem secondDraws_fresh :
    secondDraws.Fresh (.drawn firstDraws firstPassword) where
  keyWrapSalt := by decide +kernel
  recoveryCode := by decide +kernel

theorem firstCredentials_known : (Credentials.drawn firstDraws firstPassword).Known
    { secret | secret ∈ plainSecrets } { salt | salt ∈ plainSalts } :=
  firstDraws_within.drawn rfl (by simp [AccountCall.secrets]) (by simp [AccountCall.secrets])

theorem secondCredentials_known : (Credentials.drawn secondDraws secondPassword).Known
    { secret | secret ∈ plainSecrets } { salt | salt ∈ plainSalts } :=
  secondDraws_within.drawn rfl (by simp [AccountCall.secrets]) (by simp [AccountCall.secrets])

theorem plainVault_exists : ∃ database vmk clocks,
    VaultState vaultCrypto "owner" (.drawn firstDraws firstPassword) vmk database ∧
      (OwnerProof.password firstPassword).GoesThrough "owner" (.drawn firstDraws firstPassword)
        database clocks secondPassword := by
  have absent : AccountAbsent vaultCrypto "owner" { database := {} } := freshDatabase.absent
  obtain ⟨vmk, registered, -, opened, -⟩ := absent.register_exists plainSerialization
    vaultCrypto_aesGcmLaws vaultCrypto_encryptsAll AccountLife.current plainInstant
    firstDraws_within firstPassword_acceptable
  obtain ⟨account, loaded, enrolled⟩ := opened.vault.account
  obtain ⟨now, unlocked⟩ := LockoutPolicy.exists_unlocked enrolled.lockedByClock plainInstant
  exact ⟨registered.database, vmk, ⟨now, now, now, now⟩, opened.vault,
    ⟨account, loaded, unlocked⟩, rfl, secondPassword_acceptable⟩

theorem interrupted_rotation_recoverable_plain : ∃ database vmk clocks,
    VaultState vaultCrypto "owner" (.drawn firstDraws firstPassword) vmk database ∧
      ∀ count, Recoverable vaultCrypto "owner" vmk (.drawn firstDraws firstPassword)
          secondPassword ((((OwnerProof.password firstPassword).rotation vaultCrypto secondDraws
            clocks "owner" secondPassword).run database).stateAt database count) ↔
        count ≠ 1 := by
  obtain ⟨database, vmk, clocks, vault, through⟩ := plainVault_exists
  refine ⟨database, vmk, clocks, vault, fun count => ?_⟩
  obtain ⟨elsewhere, first⟩ := interrupted_rotation_recoverable vaultCrypto_aesGcmLaws
    vaultCrypto_encryptsAll vaultCrypto_separates firstCredentials_known vault
    secondCredentials_known (.password firstPassword) (by simp [OwnerProof.secret, plainSecrets])
    clocks count rfl
  constructor
  · rintro recoverable rfl
    exact first secondDraws_fresh ⟨through, rfl⟩ recoverable
  · exact fun notFirst => elsewhere fun cut => notFirst cut.2

/-- A change that is cut short after the account row shuts the owner out of the Vault
Master Key. -/
theorem interrupted_change_unrecoverable :
    ¬ ∀ (database : Database) (credentials : Credentials) (vmk : Bytes) (clocks : CallClocks)
        (draws : CredentialDraws) (newPassword : String) (proof : OwnerProof) (count : Nat),
      VaultState vaultCrypto "owner" credentials vmk database →
        Recoverable vaultCrypto "owner" vmk credentials newPassword
          (((proof.rotation vaultCrypto draws clocks "owner" newPassword).run database).stateAt
            database count) := by
  intro claimed
  obtain ⟨database, vmk, clocks, vault, through⟩ := plainVault_exists
  rcases OwnerProof.rotation_run vaultCrypto_aesGcmLaws vaultCrypto_encryptsAll
    vaultCrypto_separates firstCredentials_known vault secondDraws clocks secondPassword
    (.password firstPassword) (by simp [OwnerProof.secret, plainSecrets]) with
    ⟨-, row, slot, after, result, ran, rotation⟩ | ⟨blocked, -⟩
  · have recoverable := claimed database _ vmk clocks secondDraws secondPassword
      (.password firstPassword) 1 vault
    rw [ran] at recoverable
    exact rotation.row_not_recoverable vaultCrypto_aesGcmLaws vaultCrypto_encryptsAll
      vaultCrypto_separates firstCredentials_known secondCredentials_known vault
      secondDraws_fresh recoverable
  · exact blocked through

end CryptoUsb
