import CryptoUsb.VaultContinuity

/-!
# Credential rotation

At every moment exactly the password and the recovery code of the last successful
registration, change or reset are accepted, and exactly these open the slots of
the Vault Master Key.  A recovery code is accepted for one successful reset: the
reset itself replaces it.
-/

namespace CryptoUsb

open ByteString CommitTraces IsoDateTime ProtectionKeys TransitionRuns

/-! ## What is accepted -/

/-- The account of the owner is stored and is not locked at the time of the call. -/
def Unlocked (ownerId : String) (database : Database) (clocks : CallClocks) : Prop :=
  ∃ account, database.accounts.load ownerId = .ok (some account) ∧
    LockoutPolicy.isLocked account clocks.lock = .ok false

/-- The sign-in returns a session, and not the decoy of a wrong password. -/
def AcceptsPassword (crypto : Cryptography) (ownerId : String) (database : Database)
    (salt : BytesOf PasswordHasher.saltLenBytes) (clocks : CallClocks) (candidate : String) :
    Prop :=
  ∃ session,
    ((AuthController.authenticatePassword crypto salt clocks ownerId candidate).run
      database).outcome = .ok session ∧ session.isDecoy = false

def AcceptsRecoveryCode (crypto : Cryptography) (ownerId : String) (database : Database)
    (draws : CredentialDraws) (clocks : CallClocks) (candidate newPassword : String) : Prop :=
  Returns ((AuthController.resetPasswordWithRecoveryCode crypto {} draws clocks ownerId candidate
    newPassword).run database).outcome

/-- Under some salt, the secret derives a key that opens the slot.  Passwords and
recovery codes derive their keys in the same way. -/
def Opens (crypto : Cryptography) (database : Database) (slot : String) (salts : Set Bytes)
    (secret : String) : Prop :=
  ∃ salt ∈ salts, ∃ value, loadWrapped crypto database.appMeta slot
    (PasswordHasher.deriveVaultKey crypto secret salt) = .ok (some value)

/-- The credential, the recovery code hash and the slots of the Vault Master Key are
the same. -/
structure SameCredentials (ownerId : String) (first second : Database) : Prop where
  row : (second.accounts.load ownerId).map (Option.map fun account =>
      (account.credential, account.recoveryCodeHash)) =
    (first.accounts.load ownerId).map (Option.map fun account =>
      (account.credential, account.recoveryCodeHash))
  passwordSlot : SameSlot second first vaultMasterKeyPasswordSlot
  recoverySlot : SameSlot second first vaultMasterKeyRecoverySlot

/-- The calls accept these credentials and no others.  Before the first registration
there are none. -/
structure OnlyAccepts (crypto : Cryptography) (ownerId : String) (secrets salts : Set Bytes)
    (latest : Option (String × String)) (database : Database) : Prop where
  password : ∀ salt clocks candidate, encodeUtf8 candidate ∈ secrets →
    (AcceptsPassword crypto ownerId database salt clocks candidate ↔
      Unlocked ownerId database clocks ∧ latest.map Prod.fst = some candidate)
  recoveryCode : ∀ draws clocks candidate newPassword, encodeUtf8 candidate ∈ secrets →
    (AcceptsRecoveryCode crypto ownerId database draws clocks candidate newPassword ↔
      Unlocked ownerId database clocks ∧ latest.map Prod.snd = some candidate ∧
        PasswordHasher.minPasswordLength ≤ newPassword.length)
  lockEnds : latest.isSome → ∀ clocks : CallClocks, ∃ now,
    Unlocked ownerId database { clocks with lock := now }
  passwordSlot : ∀ password code, latest = some (password, code) →
    ∀ secret, encodeUtf8 secret ∈ secrets →
      (Opens crypto database vaultMasterKeyPasswordSlot salts secret ↔ secret = password)
  recoverySlot : ∀ password code, latest = some (password, code) →
    ∀ secret, encodeUtf8 secret ∈ secrets →
      (Opens crypto database vaultMasterKeyRecoverySlot salts secret ↔ secret = code)

/-! ## Accounts in good order -/

section Rotations

variable {crypto : Cryptography} {PrivateKey PublicKey : Type}
  {serialization : KeySerialization PrivateKey PublicKey} {ownerId : String}
  {secrets salts : Set Bytes} {credentials : Credentials} {vmk : Bytes}
  {database : Database} {events : List AccountEvent} {event : AccountEvent}
  {life next : AccountLife}

theorem Refuses.not_returns {α : Type} {account : UserAccount} {code : Transaction α}
    (refuses : Refuses account database code) : ¬ Returns (code.run database).outcome := by
  obtain ⟨commits, error, ran, -⟩ := refuses
  rw [ran]
  exact not_returns_error error

theorem unlocked_iff {account : UserAccount} {clocks : CallClocks}
    (loaded : database.accounts.load ownerId = .ok (some account)) :
    Unlocked ownerId database clocks ↔
      LockoutPolicy.isLocked account clocks.lock = .ok false := by
  constructor
  · rintro ⟨other, otherLoaded, unlocked⟩
    obtain rfl := Option.some.inj (Except.ok.inj (loaded.symm.trans otherLoaded))
    exact unlocked
  · exact fun unlocked => ⟨account, loaded, unlocked⟩

theorem VaultState.acceptsPassword_iff (separates : crypto.ScryptSeparates secrets salts)
    (known : credentials.Known secrets salts)
    (vault : VaultState crypto ownerId credentials vmk database)
    (salt : BytesOf PasswordHasher.saltLenBytes) (clocks : CallClocks) {candidate : String}
    (isCandidate : encodeUtf8 candidate ∈ secrets) :
    AcceptsPassword crypto ownerId database salt clocks candidate ↔
      Unlocked ownerId database clocks ∧ candidate = credentials.password := by
  obtain ⟨account, loaded, enrolled⟩ := vault.account
  rw [unlocked_iff loaded]
  rcases authenticatePassword_run separates known loaded enrolled salt clocks isCandidate with
    ⟨unlocked, same, ran⟩ | ⟨wrong, commits, ran, -⟩ | ⟨blocked, refuses⟩
  · exact iff_of_true ⟨_, by rw [ran], rfl⟩ ⟨unlocked, same⟩
  · refine iff_of_false ?_ fun accepted => wrong accepted.2
    rintro ⟨session, returned, real⟩
    rw [ran] at returned
    obtain rfl := Except.ok.inj returned
    cases real
  · refine iff_of_false (fun accepted => ?_) fun accepted => ?_
    · obtain ⟨session, returned, -⟩ := accepted
      exact refuses.not_returns ⟨session, returned⟩
    · rcases blocked with locked | wrong
      · exact absurd (locked.symm.trans accepted.1) (by simp)
      · exact wrong accepted.2

theorem VaultState.acceptsRecoveryCode_iff (laws : crypto.AesGcmLaws)
    (total : crypto.EncryptsAll) (separates : crypto.ScryptSeparates secrets salts)
    (known : credentials.Known secrets salts)
    (vault : VaultState crypto ownerId credentials vmk database) (draws : CredentialDraws)
    (clocks : CallClocks) {candidate : String} (isCandidate : encodeUtf8 candidate ∈ secrets)
    (newPassword : String) :
    AcceptsRecoveryCode crypto ownerId database draws clocks candidate newPassword ↔
      Unlocked ownerId database clocks ∧ candidate = credentials.recoveryCode ∧
        PasswordHasher.minPasswordLength ≤ newPassword.length := by
  obtain ⟨account, loaded, enrolled⟩ := vault.account
  rw [unlocked_iff loaded]
  rcases resetPassword_run laws total separates known vault loaded enrolled draws clocks
    isCandidate newPassword with
    ⟨through, row, slot, after, result, ran, -⟩ | ⟨blocked, refuses⟩
  · refine iff_of_true ?_ through
    rw [AcceptsRecoveryCode, ran]
    exact returns_ok _
  · exact iff_of_false refuses.not_returns blocked

/-- A slot opens exactly for the secret whose key it is wrapped under. -/
theorem ProtectionKeys.Wraps.opens_iff (laws : crypto.AesGcmLaws)
    (separates : crypto.ScryptSeparates secrets salts) {slot secret : String} {salt value : Bytes}
    (wraps : Wraps crypto database slot (PasswordHasher.deriveVaultKey crypto secret salt) value)
    (isSecret : encodeUtf8 secret ∈ secrets) (isSalt : salt ∈ salts) {candidate : String}
    (isCandidate : encodeUtf8 candidate ∈ secrets) :
    Opens crypto database slot salts candidate ↔ candidate = secret := by
  constructor
  · rintro ⟨otherSalt, isOtherSalt, opened, loaded⟩
    by_contra different
    have shut := wraps.load_other laws fun same => different
      (PasswordHasher.deriveVaultKey_inj separates isCandidate isSecret isOtherSalt isSalt same).1
    exact nomatch shut.symm.trans loaded
  · rintro rfl
    exact ⟨salt, isSalt, value, wraps.load laws⟩

/-- An open account accepts its credentials and no others. -/
theorem AccountOpen.onlyAccepts (laws : crypto.AesGcmLaws) (total : crypto.EncryptsAll)
    (separates : crypto.ScryptSeparates secrets salts)
    (opened : AccountOpen crypto ownerId secrets salts credentials vmk life) :
    OnlyAccepts crypto ownerId secrets salts
      (some (credentials.password, credentials.recoveryCode)) life.database where
  password salt clocks candidate isCandidate := by
    rw [opened.vault.acceptsPassword_iff separates opened.known salt clocks isCandidate]
    simp [eq_comm]
  recoveryCode draws clocks candidate newPassword isCandidate := by
    rw [opened.vault.acceptsRecoveryCode_iff laws total separates opened.known draws clocks
      isCandidate]
    simp [eq_comm]
  lockEnds _ clocks := by
    obtain ⟨account, loaded, enrolled⟩ := opened.vault.account
    obtain ⟨now, unlocked⟩ := LockoutPolicy.exists_unlocked enrolled.lockedByClock clocks.lock
    exact ⟨now, account, loaded, unlocked⟩
  passwordSlot password code latest secret isSecret := by
    obtain ⟨rfl, rfl⟩ := Prod.mk.inj (Option.some.inj latest)
    exact opened.vault.passwordSlot.opens_iff laws separates opened.known.password
      opened.known.passwordWrapSalt isSecret
  recoverySlot password code latest secret isSecret := by
    obtain ⟨rfl, rfl⟩ := Prod.mk.inj (Option.some.inj latest)
    exact opened.vault.recoverySlot.opens_iff laws separates opened.known.recoveryCode
      opened.known.recoveryWrapSalt isSecret

/-- Without an account nothing is accepted. -/
theorem AccountAbsent.onlyAccepts (absent : AccountAbsent crypto ownerId life) :
    OnlyAccepts crypto ownerId secrets salts none life.database where
  password salt clocks candidate _ := by
    refine iff_of_false ?_ (by simp)
    rintro ⟨session, returned, -⟩
    obtain ⟨error, ran⟩ := requireUnlockedAccount_absent absent.isNew clocks .password
    rw [AuthController.authenticatePassword, Committing.run_bind_error ran] at returned
    cases returned
  recoveryCode draws clocks candidate newPassword _ := by
    refine iff_of_false ?_ (by simp)
    obtain ⟨error, ran⟩ := requireUnlockedAccount_absent absent.isNew clocks .password
    rw [AcceptsRecoveryCode, AuthController.resetPasswordWithRecoveryCode,
      Committing.run_bind_error ran]
    exact not_returns_error error
  lockEnds := nofun
  passwordSlot := nofun
  recoverySlot := nofun

theorem VaultState.sameCredentials {other : Database}
    (vault : VaultState crypto ownerId credentials vmk database)
    (otherVault : VaultState crypto ownerId credentials vmk other)
    {keys : List String} (passwordApart : vaultMasterKeyPasswordSlot ∉ keys)
    (recoveryApart : vaultMasterKeyRecoverySlot ∉ keys) (same : SameBut keys database other) :
    SameCredentials ownerId database other where
  row := by
    obtain ⟨account, loaded, enrolled⟩ := vault.account
    obtain ⟨otherAccount, otherLoaded, otherEnrolled⟩ := otherVault.account
    rw [loaded, otherLoaded]
    simp [Except.map, enrolled.credential, enrolled.recoveryCodeHash, otherEnrolled.credential,
      otherEnrolled.recoveryCodeHash]
  passwordSlot := same.slots _ passwordApart
  recoverySlot := same.slots _ recoveryApart

/-! ## Runs -/

/-- The recovery code that a successful call returned. -/
def AccountEvent.issuedCode? (event : AccountEvent) : Option String :=
  event.credentials?.map Prod.snd

/-- The recovery code that a successful reset was called with. -/
def AccountEvent.usedCode? (event : AccountEvent) : Option String :=
  match event.call, event.outcome with
  | .reset _ _ recoveryCode _, .ok (.credentials _) => some recoveryCode
  | _, _ => none

/-- What a run has led to: no account yet, or an open one of the last credentials.
The codes that were used, and then the current one, were issued in this order. -/
inductive Latest (crypto : Cryptography) (ownerId : String) (secrets salts : Set Bytes) :
    List AccountEvent → AccountLife → Prop
  | absent {events : List AccountEvent} {life : AccountLife} :
      AccountAbsent crypto ownerId life → currentCredentials events = none →
      events.filterMap AccountEvent.usedCode? = [] →
        Latest crypto ownerId secrets salts events life
  | opened {events : List AccountEvent} {life : AccountLife} (credentials : Credentials)
      (vmk : Bytes) :
      AccountOpen crypto ownerId secrets salts credentials vmk life →
      currentCredentials events = some (credentials.password, credentials.recoveryCode) →
      (events.filterMap AccountEvent.usedCode? ++ [credentials.recoveryCode]).Sublist
        (events.filterMap AccountEvent.issuedCode?) →
        Latest crypto ownerId secrets salts events life

theorem AccountEvent.usedCode?_eq_none
    (unset : ∀ code, event.outcome ≠ .ok (.credentials code)) : event.usedCode? = none := by
  unfold usedCode?
  split
  case h_1 code _ shown => exact absurd shown (unset _)
  case h_2 => rfl

theorem AccountEvent.usedCode?_of_error {call : AccountCall} {error : PyError} :
    (⟨call, .error error⟩ : AccountEvent).usedCode? = none :=
  usedCode?_eq_none nofun

theorem Latest.unset (opened : AccountOpen crypto ownerId secrets salts credentials vmk next)
    (current : currentCredentials events = some (credentials.password, credentials.recoveryCode))
    (codes : (events.filterMap AccountEvent.usedCode? ++ [credentials.recoveryCode]).Sublist
      (events.filterMap AccountEvent.issuedCode?))
    (unset : ∀ code, event.outcome ≠ .ok (.credentials code)) :
    Latest crypto ownerId secrets salts (events ++ [event]) next := by
  have noCredentials := AccountEvent.credentials?_eq_none unset
  have noCode := AccountEvent.usedCode?_eq_none unset
  refine .opened credentials vmk opened ?_ ?_
  · rw [currentCredentials_concat, noCredentials, current]
    rfl
  · rw [filterMap_concat, filterMap_concat, noCode, AccountEvent.issuedCode?, noCredentials]
    simpa using codes

/-- One call of a run. -/
theorem Latest.step (laws : crypto.AesGcmLaws) (total : crypto.EncryptsAll)
    (separates : crypto.ScryptSeparates secrets salts)
    (latest : Latest crypto ownerId secrets salts events life)
    (stepped : AccountStep crypto serialization ownerId secrets salts AccountLife.current life
      event next) :
    Latest crypto ownerId secrets salts (events ++ [event]) next := by
  cases latest with
  | absent absent current codes =>
      cases absent.step laws total stepped with
      | refused isNotLoader stillAbsent unchanged =>
          refine .absent stillAbsent ?_ ?_
          · rw [currentCredentials_concat, AccountEvent.credentials?_of_error, current]
            rfl
          · rw [filterMap_concat, AccountEvent.usedCode?_of_error, codes]
            rfl
      | registered draws clock password opened same isDrawn =>
          refine .opened _ _ opened ?_ ?_
          · rw [currentCredentials_concat]
            rfl
          · rw [filterMap_concat, filterMap_concat, codes]
            exact List.sublist_append_right _ _
  | opened credentials vmk opened current codes =>
      cases opened.step laws total separates stepped with
      | kept isNotLoader noCredentials noMetadata noTracking stillOpen same =>
          exact .unset stillOpen current codes noCredentials
      | changed draws clocks newPassword rotated same =>
          refine .opened _ _ rotated ?_ ?_
          · rw [currentCredentials_concat]
            rfl
          · -- The code in force is replaced without having been used.
            have unused := (List.sublist_append_left _ _).trans codes
            rw [filterMap_concat, filterMap_concat, List.append_assoc]
            exact unused.append (List.Sublist.refl [draws.recoveryCode.1])
      | reset draws clocks newPassword rotated same =>
          refine .opened _ _ rotated ?_ ?_
          · rw [currentCredentials_concat]
            rfl
          · rw [filterMap_concat, filterMap_concat]
            exact codes.append (List.Sublist.refl [draws.recoveryCode.1])
      | loadedMetadata draws vaultKey stillOpen holds unique same =>
          exact .unset stillOpen current codes nofun
      | loadedTracking draws vaultKey stillOpen holds unique same =>
          exact .unset stillOpen current codes nofun

/-- A call that sets no credentials leaves the stored ones as they are. -/
theorem Latest.sameCredentials (laws : crypto.AesGcmLaws) (total : crypto.EncryptsAll)
    (separates : crypto.ScryptSeparates secrets salts)
    (latest : Latest crypto ownerId secrets salts events life)
    (stepped : AccountStep crypto serialization ownerId secrets salts AccountLife.current life
      event next)
    (unset : ∀ code, event.outcome ≠ .ok (.credentials code)) :
    SameCredentials ownerId life.database next.database := by
  cases latest with
  | absent absent current codes =>
      cases absent.step laws total stepped with
      | refused isNotLoader stillAbsent unchanged =>
          rw [unchanged]
          exact ⟨rfl, ⟨rfl, rfl⟩, ⟨rfl, rfl⟩⟩
      | registered draws clock password opened same isDrawn => exact absurd rfl (unset _)
  | opened credentials vmk opened current codes =>
      cases opened.step laws total separates stepped with
      | kept isNotLoader noCredentials noMetadata noTracking stillOpen same =>
          exact opened.vault.sameCredentials stillOpen.vault (by simp) (by simp) same
      | changed draws clocks newPassword rotated same => exact absurd rfl (unset _)
      | reset draws clocks newPassword rotated same => exact absurd rfl (unset _)
      | loadedMetadata draws vaultKey stillOpen holds unique same =>
          exact opened.vault.sameCredentials stillOpen.vault (by decide) (by decide) same
      | loadedTracking draws vaultKey stillOpen holds unique same =>
          exact opened.vault.sameCredentials stillOpen.vault (by decide) (by decide) same

/-- Along every run the account accepts the last credentials and no others, a call
that fails leaves the stored credentials as they are, and as long as the issued
codes are distinct, none of them is used for two resets. -/
theorem only_latest_credentials (laws : crypto.AesGcmLaws) (total : crypto.EncryptsAll)
    (separates : crypto.ScryptSeparates secrets salts)
    (absent : AccountAbsent crypto ownerId { database })
    (run : Run (AccountStep crypto serialization ownerId secrets salts AccountLife.current)
      { database } events life) :
    OnlyAccepts crypto ownerId secrets salts (currentCredentials events) life.database ∧
      (∀ event next, AccountStep crypto serialization ownerId secrets salts AccountLife.current
          life event next →
        (∀ code, event.outcome ≠ .ok (.credentials code)) →
          SameCredentials ownerId life.database next.database) ∧
      ((events.filterMap AccountEvent.issuedCode?).Nodup →
        (events.filterMap AccountEvent.usedCode?).Nodup) := by
  have latest : Latest crypto ownerId secrets salts events life :=
    run.history (Latest crypto ownerId secrets salts)
      (fun latest stepped => latest.step laws total separates stepped) (.absent absent rfl rfl)
  refine ⟨?_, fun event next stepped unset => latest.sameCredentials laws total separates stepped
    unset, fun issued => ?_⟩
  · cases latest with
    | absent absent current codes =>
        rw [current]
        exact absent.onlyAccepts
    | opened credentials vmk opened current codes =>
        rw [current]
        exact opened.onlyAccepts laws total separates
  · cases latest with
    | absent absent current codes => simp [codes]
    | opened credentials vmk opened current codes =>
        exact ((List.sublist_append_left _ _).trans codes).nodup issued

end Rotations

theorem only_latest_credentials_plain : ∃ events life,
    Run (PlainStep AccountLife.current) { database := {} } events life ∧
      OnlyAccepts vaultCrypto "owner" { secret | secret ∈ plainSecrets }
        { salt | salt ∈ plainSalts } (some (secondPassword, secondCode.1)) life.database := by
  obtain ⟨events, life, vmk, run, current, -⟩ := plainRun_changed AccountLife.current
  obtain ⟨accepts, -⟩ := only_latest_credentials vaultCrypto_aesGcmLaws vaultCrypto_encryptsAll
    vaultCrypto_separates freshDatabase.absent run
  exact ⟨events, life, run, current ▸ accepts⟩

end CryptoUsb
