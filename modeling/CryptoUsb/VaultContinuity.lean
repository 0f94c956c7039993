import CryptoUsb.AccountRuns

/-!
# Continuity of the Vault Master Key

Whatever is called on an account, in whatever order, its current password and its
current recovery code both lead to the Vault Master Key of its registration, and
the protection keys under it are the same at every load.  The loaders have to be
called with the vault key of a sign-in under the current credentials: with an
older one they cannot open the password slot, and fill it with a fresh key.
-/

namespace CryptoUsb

open ByteString CommitTraces ProtectionKeys TransitionRuns

/-! ## What a run shows -/

/-- The password and the recovery code that a successful call set. -/
def AccountEvent.credentials? (event : AccountEvent) : Option (String × String) :=
  match event.call.newPassword?, event.outcome with
  | some password, .ok (.credentials recoveryCode) => some (password, recoveryCode)
  | _, _ => none

/-- The Vault Master Key drawn by a successful registration. -/
def AccountEvent.createdVmk? (event : AccountEvent) : Option Bytes :=
  match event with
  | ⟨.register draws _ _, .ok _⟩ => some draws.vault.vmk.1
  | _ => none

def AccountEvent.metadataKeys? (event : AccountEvent) : Option MetadataProtectionKeys :=
  match event.outcome with
  | .ok (.metadataKeys keys) => some keys
  | _ => none

def AccountEvent.trackingKeys? (event : AccountEvent) : Option TrackingProtectionKeys :=
  match event.outcome with
  | .ok (.trackingKeys keys) => some keys
  | _ => none

/-- The credentials set by the last successful call. -/
def currentCredentials (events : List AccountEvent) : Option (String × String) :=
  (events.filterMap AccountEvent.credentials?).getLast?

/-- The Vault Master Key of the registration. -/
def createdVmk (events : List AccountEvent) : Option Bytes :=
  (events.filterMap AccountEvent.createdVmk?).head?

theorem filterMap_concat {α : Type} (read : AccountEvent → Option α) (events : List AccountEvent)
    (event : AccountEvent) :
    (events ++ [event]).filterMap read = events.filterMap read ++ (read event).toList := by
  rw [List.filterMap_append]
  cases found : read event <;> simp [found]

theorem currentCredentials_concat (events : List AccountEvent) (event : AccountEvent) :
    currentCredentials (events ++ [event]) =
      event.credentials?.or (currentCredentials events) := by
  rw [currentCredentials, filterMap_concat, List.getLast?_append]
  cases event.credentials? <;> rfl

theorem createdVmk_concat (events : List AccountEvent) (event : AccountEvent) :
    createdVmk (events ++ [event]) = (createdVmk events).or event.createdVmk? := by
  rw [createdVmk, filterMap_concat, List.head?_append]
  cases event.createdVmk? <;> rfl

/-- Under the stored salts, the password opens the password slot, the recovery code
opens the recovery slot, and both hold this Vault Master Key. -/
def VaultUnlocks (crypto : Cryptography) (ownerId : String) (database : Database)
    (password recoveryCode : String) (vmk : Bytes) : Prop :=
  ∃ account credential recoveryCodeHash passwordSalt recoverySalt,
    database.accounts.load ownerId = .ok (some account) ∧
      account.credential = .password credential ∧
      credential.keyWrapSalt = some passwordSalt ∧
      account.recoveryCodeHash = some recoveryCodeHash ∧
      recoveryCodeHash.keyWrapSalt = some recoverySalt ∧
      loadWrapped crypto database.appMeta vaultMasterKeyPasswordSlot
        (PasswordHasher.deriveVaultKey crypto password passwordSalt) = .ok (some vmk) ∧
      loadWrapped crypto database.appMeta vaultMasterKeyRecoverySlot
        (PasswordHasher.deriveRecoveryKey crypto recoveryCode recoverySalt) = .ok (some vmk)

theorem VaultState.unlocks {crypto : Cryptography} (laws : crypto.AesGcmLaws) {ownerId : String}
    {credentials : Credentials} {vmk : Bytes} {database : Database}
    (vault : VaultState crypto ownerId credentials vmk database) :
    VaultUnlocks crypto ownerId database credentials.password credentials.recoveryCode vmk := by
  obtain ⟨account, loaded, enrolled⟩ := vault.account
  exact ⟨account, _, _, _, _, loaded, enrolled.credential, rfl, enrolled.recoveryCodeHash, rfl,
    vault.passwordSlot.load laws, vault.recoverySlot.load laws⟩

/-! ## The invariant -/

/-- An open account whose credentials, Vault Master Key and protection keys are the
ones that the run has shown. -/
structure Continued (crypto : Cryptography) (ownerId : String) (secrets salts : Set Bytes)
    (credentials : Credentials) (vmk : Bytes) (events : List AccountEvent) (life : AccountLife) :
    Prop where
  opened : AccountOpen crypto ownerId secrets salts credentials vmk life
  current : currentCredentials events = some (credentials.password, credentials.recoveryCode)
  created : createdVmk events = some vmk
  metadata : ∀ keys ∈ events.filterMap AccountEvent.metadataKeys?,
    HoldsKeys crypto life.database metadataEncryptionKey metadataHmacKey vmk
      (keys.encryptionKey, keys.hmacKey)
  tracking : ∀ keys ∈ events.filterMap AccountEvent.trackingKeys?,
    HoldsKeys crypto life.database trackingEncryptionKey trackingHmacKey vmk
      (keys.encryptionKey, keys.hmacKey)
  returned : ∀ event ∈ events, event.call.vaultKey?.isSome → Returns event.outcome

/-- Nothing was registered yet, and nothing has been loaded. -/
structure NotRegistered (ownerId : String) (events : List AccountEvent) (life : AccountLife) :
    Prop where
  fresh : FreshInstallation ownerId life.database
  current : life.current = []
  raised : ∀ event ∈ events, event.call.vaultKey? = none ∧ ∃ error, event.outcome = .error error

section Continuity

variable {crypto : Cryptography} {PrivateKey PublicKey : Type}
  {serialization : KeySerialization PrivateKey PublicKey} {ownerId : String}
  {secrets salts : Set Bytes} {credentials next : Credentials} {vmk : Bytes}
  {events : List AccountEvent} {event : AccountEvent} {life after : AccountLife}

theorem AccountEvent.credentials?_eq_none
    (unset : ∀ code, event.outcome ≠ .ok (.credentials code)) : event.credentials? = none := by
  unfold credentials?
  split
  case h_1 code _ shown => exact absurd shown (unset code)
  case h_2 => rfl

theorem AccountEvent.metadataKeys?_eq_none
    (unloaded : ∀ keys, event.outcome ≠ .ok (.metadataKeys keys)) :
    event.metadataKeys? = none := by
  unfold metadataKeys?
  split
  case h_1 keys shown => exact absurd shown (unloaded keys)
  case h_2 => rfl

theorem AccountEvent.trackingKeys?_eq_none
    (unloaded : ∀ keys, event.outcome ≠ .ok (.trackingKeys keys)) :
    event.trackingKeys? = none := by
  unfold trackingKeys?
  split
  case h_1 keys shown => exact absurd shown (unloaded keys)
  case h_2 => rfl

theorem forall_filterMap_concat {α : Type} {read : AccountEvent → Option α} {holds : α → Prop}
    (before : ∀ value ∈ events.filterMap read, holds value)
    (now : ∀ value ∈ read event, holds value) :
    ∀ value ∈ (events ++ [event]).filterMap read, holds value := by
  intro value member
  rw [filterMap_concat] at member
  rcases List.mem_append.mp member with earlier | last
  · exact before value earlier
  · exact now value (Option.mem_toList.mp last)

theorem forall_mem_concat {holds : AccountEvent → Prop} (before : ∀ event ∈ events, holds event)
    (now : holds event) : ∀ other ∈ events ++ [event], holds other := by
  intro other member
  rcases List.mem_append.mp member with earlier | last
  · exact before other earlier
  · rwa [List.mem_singleton.mp last]

/-- A call that shows no protection keys and leaves their slots alone. -/
theorem Continued.extend
    (continued : Continued crypto ownerId secrets salts credentials vmk events life)
    (opened : AccountOpen crypto ownerId secrets salts next vmk after)
    (shown : event.credentials?.or (some (credentials.password, credentials.recoveryCode)) =
      some (next.password, next.recoveryCode))
    (isNotLoader : event.call.vaultKey? = none)
    (noMetadata : event.metadataKeys? = none) (noTracking : event.trackingKeys? = none)
    {keys : List String} (apart : ∀ key ∈ protectionSlots, key ∉ keys)
    (same : SameBut keys life.database after.database) :
    Continued crypto ownerId secrets salts next vmk (events ++ [event]) after where
  opened := opened
  current := by rw [currentCredentials_concat, continued.current, shown]
  created := by rw [createdVmk_concat, continued.created]; rfl
  metadata := by
    refine forall_filterMap_concat (fun shown member => ?_) (by simp [noMetadata])
    exact (same.holdsKeys (apart _ (by decide)) (apart _ (by decide))).mpr
      (continued.metadata shown member)
  tracking := by
    refine forall_filterMap_concat (fun shown member => ?_) (by simp [noTracking])
    exact (same.holdsKeys (apart _ (by decide)) (apart _ (by decide))).mpr
      (continued.tracking shown member)
  returned := forall_mem_concat continued.returned (by simp [isNotLoader])

/-- One call keeps the invariant, under the credentials that it sets or keeps. -/
theorem Continued.step (laws : crypto.AesGcmLaws) (total : crypto.EncryptsAll)
    (separates : crypto.ScryptSeparates secrets salts)
    (continued : Continued crypto ownerId secrets salts credentials vmk events life)
    (stepped : AccountStep crypto serialization ownerId secrets salts AccountLife.current life
      event after) :
    ∃ next, Continued crypto ownerId secrets salts next vmk (events ++ [event]) after := by
  cases continued.opened.step laws total separates stepped with
  | kept isNotLoader noCredentials noMetadata noTracking opened same =>
      have unset : event.credentials?.or (some (credentials.password, credentials.recoveryCode)) =
          some (credentials.password, credentials.recoveryCode) := by
        rw [AccountEvent.credentials?_eq_none noCredentials]
        rfl
      exact ⟨credentials, continued.extend opened unset isNotLoader
        (AccountEvent.metadataKeys?_eq_none noMetadata)
        (AccountEvent.trackingKeys?_eq_none noTracking) (by simp) same⟩
  | changed draws clocks newPassword opened same =>
      exact ⟨_, continued.extend opened rfl rfl rfl rfl (by decide) same⟩
  | reset draws clocks newPassword opened same =>
      exact ⟨_, continued.extend opened rfl rfl rfl rfl (by decide) same⟩
  | loadedMetadata draws vaultKey opened holds unique same =>
      refine ⟨credentials, opened, ?_, ?_, ?_, ?_, ?_⟩
      · rw [currentCredentials_concat, continued.current]
        rfl
      · rw [createdVmk_concat, continued.created]
        rfl
      · refine forall_filterMap_concat (fun earlier member => ?_) (fun now shown => ?_)
        · rwa [← unique _ (continued.metadata earlier member)]
        · obtain rfl := Option.some.inj shown
          exact holds
      · refine forall_filterMap_concat (fun earlier member => ?_) (fun _ shown => nomatch shown)
        exact (same.holdsKeys (by decide) (by decide)).mpr (continued.tracking earlier member)
      · exact forall_mem_concat continued.returned fun _ => returns_ok _
  | loadedTracking draws vaultKey opened holds unique same =>
      refine ⟨credentials, opened, ?_, ?_, ?_, ?_, ?_⟩
      · rw [currentCredentials_concat, continued.current]
        rfl
      · rw [createdVmk_concat, continued.created]
        rfl
      · refine forall_filterMap_concat (fun earlier member => ?_) (fun _ shown => nomatch shown)
        exact (same.holdsKeys (by decide) (by decide)).mpr (continued.metadata earlier member)
      · refine forall_filterMap_concat (fun earlier member => ?_) (fun now shown => ?_)
        · rwa [← unique _ (continued.tracking earlier member)]
        · obtain rfl := Option.some.inj shown
          exact holds
      · exact forall_mem_concat continued.returned fun _ => returns_ok _

theorem AccountEvent.credentials?_of_error {call : AccountCall} {error : PyError} :
    (⟨call, .error error⟩ : AccountEvent).credentials? = none :=
  credentials?_eq_none nofun

theorem AccountEvent.createdVmk?_of_error {call : AccountCall} {error : PyError} :
    (⟨call, .error error⟩ : AccountEvent).createdVmk? = none := by
  unfold createdVmk?
  split
  case h_1 shown => cases shown
  case h_2 => rfl

theorem NotRegistered.filterMap_eq_nil {α : Type} {read : AccountEvent → Option α}
    (notRegistered : NotRegistered ownerId events life)
    (unread : ∀ call error, read ⟨call, .error error⟩ = none) : events.filterMap read = [] := by
  refine List.filterMap_eq_nil_iff.mpr fun ⟨call, outcome⟩ member => ?_
  obtain ⟨-, error, rfl⟩ := notRegistered.raised _ member
  exact unread call error

/-- The registration starts the invariant. -/
theorem NotRegistered.step (laws : crypto.AesGcmLaws) (total : crypto.EncryptsAll)
    (notRegistered : NotRegistered ownerId events life)
    (stepped : AccountStep crypto serialization ownerId secrets salts AccountLife.current life
      event after) :
    NotRegistered ownerId (events ++ [event]) after ∨
      ∃ credentials vmk, Continued crypto ownerId secrets salts credentials vmk
        (events ++ [event]) after := by
  have absent : AccountAbsent crypto ownerId life :=
    { notRegistered.fresh.absent with current := notRegistered.current }
  cases absent.step laws total stepped with
  | refused isNotLoader stillAbsent unchanged =>
      refine .inl ⟨unchanged ▸ notRegistered.fresh, stillAbsent.current, ?_⟩
      exact forall_mem_concat notRegistered.raised ⟨isNotLoader, _, rfl⟩
  | registered draws clock password opened same isDrawn =>
      have closed : loadWrapped crypto life.database.appMeta vaultMasterKeyPasswordSlot
          (Credentials.vaultKey crypto (.drawn draws password)) = .ok none := by
        simp [loadWrapped, notRegistered.fresh.slots _ (List.mem_cons_self ..)]
      obtain rfl := isDrawn closed
      have noVmk := notRegistered.filterMap_eq_nil fun _ _ => AccountEvent.createdVmk?_of_error
      have noMetadata : events.filterMap AccountEvent.metadataKeys? = [] :=
        notRegistered.filterMap_eq_nil fun _ _ => rfl
      have noTracking : events.filterMap AccountEvent.trackingKeys? = [] :=
        notRegistered.filterMap_eq_nil fun _ _ => rfl
      refine .inr ⟨_, _, opened, ?_, ?_, ?_, ?_, ?_⟩
      · rw [currentCredentials_concat]
        rfl
      · rw [createdVmk_concat, createdVmk, noVmk]
        rfl
      · exact forall_filterMap_concat (by simp [noMetadata])
          (by simp [AccountEvent.metadataKeys?])
      · exact forall_filterMap_concat (by simp [noTracking])
          (by simp [AccountEvent.trackingKeys?])
      · refine forall_mem_concat (fun event member => ?_) (by simp [AccountCall.vaultKey?])
        simp [(notRegistered.raised event member).1]

/-- Along every run there is no account yet, or one that continues what the run
has shown. -/
theorem continued_of_run (laws : crypto.AesGcmLaws) (total : crypto.EncryptsAll)
    (separates : crypto.ScryptSeparates secrets salts) {database : Database}
    (fresh : FreshInstallation ownerId database)
    (run : Run (AccountStep crypto serialization ownerId secrets salts AccountLife.current)
      { database } events life) :
    NotRegistered ownerId events life ∨
      ∃ credentials vmk, Continued crypto ownerId secrets salts credentials vmk events life := by
  refine run.history (fun events life => NotRegistered ownerId events life ∨
    ∃ credentials vmk, Continued crypto ownerId secrets salts credentials vmk events life)
    (fun holds stepped => ?_) (.inl ⟨fresh, rfl, by simp⟩)
  rcases holds with notRegistered | ⟨credentials, vmk, continued⟩
  · exact notRegistered.step laws total stepped
  · obtain ⟨next, nextContinued⟩ := continued.step laws total separates stepped
    exact .inr ⟨next, vmk, nextContinued⟩

/-- Along every run, the current password and the current recovery code lead to the
Vault Master Key of the registration, every load returns, and all loads of the
protection keys return the same. -/
theorem vault_continuity (laws : crypto.AesGcmLaws) (total : crypto.EncryptsAll)
    (separates : crypto.ScryptSeparates secrets salts) {database : Database}
    (fresh : FreshInstallation ownerId database)
    (run : Run (AccountStep crypto serialization ownerId secrets salts AccountLife.current)
      { database } events life) :
    (∀ password recoveryCode, currentCredentials events = some (password, recoveryCode) →
        ∃ vmk, createdVmk events = some vmk ∧
          VaultUnlocks crypto ownerId life.database password recoveryCode vmk) ∧
      (∀ event ∈ events, event.call.vaultKey?.isSome → Returns event.outcome) ∧
      (∀ first ∈ events.filterMap AccountEvent.metadataKeys?,
        ∀ second ∈ events.filterMap AccountEvent.metadataKeys?, first = second) ∧
      (∀ first ∈ events.filterMap AccountEvent.trackingKeys?,
        ∀ second ∈ events.filterMap AccountEvent.trackingKeys?, first = second) := by
  rcases continued_of_run laws total separates fresh run with
    notRegistered | ⟨credentials, vmk, continued⟩
  · have noMetadata : events.filterMap AccountEvent.metadataKeys? = [] :=
      notRegistered.filterMap_eq_nil fun _ _ => rfl
    have noTracking : events.filterMap AccountEvent.trackingKeys? = [] :=
      notRegistered.filterMap_eq_nil fun _ _ => rfl
    refine ⟨fun password recoveryCode shown => ?_, fun event member loads => ?_,
      by simp [noMetadata], by simp [noTracking]⟩
    · rw [currentCredentials, notRegistered.filterMap_eq_nil
        fun _ _ => AccountEvent.credentials?_of_error] at shown
      cases shown
    · rw [(notRegistered.raised event member).1] at loads
      cases loads
  · refine ⟨fun password recoveryCode shown => ?_, continued.returned, fun first isFirst second
      isSecond => ?_, fun first isFirst second isSecond => ?_⟩
    · rw [continued.current] at shown
      obtain ⟨rfl, rfl⟩ := Prod.mk.inj (Option.some.inj shown)
      exact ⟨vmk, continued.created, continued.opened.vault.unlocks laws⟩
    · have same := (continued.metadata first isFirst).unique laws
        (continued.metadata second isSecond)
      exact MetadataProtectionKeys.ext (congrArg Prod.fst same) (congrArg Prod.snd same)
    · have same := (continued.tracking first isFirst).unique laws
        (continued.tracking second isSecond)
      exact TrackingProtectionKeys.ext (congrArg Prod.fst same) (congrArg Prod.snd same)

/-- A load with a vault key of superseded credentials shuts the current ones out. -/
theorem AccountOpen.stale_load (laws : crypto.AesGcmLaws) (total : crypto.EncryptsAll)
    (opened : AccountOpen crypto ownerId secrets salts credentials vmk life)
    (draws : ProtectionKeyDraws) {vaultKey : Bytes}
    (size : vaultKey.length = AesCipher.aesKeySizeBytes)
    (stale : vaultKey ≠ credentials.vaultKey crypto) (recoveryCode : String) (held : Bytes) :
    ¬ VaultUnlocks crypto ownerId (life.after (((AccountCall.loadMetadataKeys draws
      vaultKey).transaction crypto serialization ownerId).run life.database)).database
        credentials.password recoveryCode held := by
  obtain ⟨keys, commits, after, ran, rfl, ⟨_, wraps, -⟩, accounts, -, -⟩ :=
    loadOrCreateKeys_loads laws total (by decide) (by decide) draws size
      (.inr ⟨_, _, opened.vault.passwordSlot⟩) (opened.slots metadataEncryptionKey (by decide))
      (opened.slots metadataHmacKey (by decide))
  rw [AccountCall.transaction, Committing.run_bind_pure, loadOrCreateMetadataProtectionKeys,
    Committing.run_bind_pure, ran]
  change ¬ VaultUnlocks crypto ownerId (commits.getLast?.getD life.database) _ _ _
  rintro ⟨account, credential, recoveryCodeHash, passwordSalt, recoverySalt, loaded, isPassword,
    isSalt, -, -, unlocked, -⟩
  obtain ⟨stored, storedLoaded, enrolled⟩ := opened.vault.account
  rw [accounts, storedLoaded] at loaded
  obtain rfl := Option.some.inj (Except.ok.inj loaded)
  obtain rfl := Credential.password.inj (isPassword.symm.trans enrolled.credential)
  obtain rfl := Option.some.inj isSalt
  have shut := wraps.load_other laws (Ne.symm stale)
  cases shut.symm.trans unlocked

end Continuity

/-! ## An account that is signed in to, and changed -/

/-- The calls on the account of the plain values. -/
abbrev PlainStep (usable : AccountLife → List Bytes) :
    AccountLife → AccountEvent → AccountLife → Prop :=
  AccountStep vaultCrypto plainSerialization "owner" { secret | secret ∈ plainSecrets }
    { salt | salt ∈ plainSalts } usable

/-- Register, sign in, and change the password; the sign-in is not forgotten. -/
theorem plainRun_changed (usable : AccountLife → List Bytes) : ∃ events life vmk,
    Run (PlainStep usable) { database := {} } events life ∧
      currentCredentials events = some (secondPassword, secondCode.1) ∧
      AccountOpen vaultCrypto "owner" { secret | secret ∈ plainSecrets }
        { salt | salt ∈ plainSalts } (.drawn secondDraws secondPassword) vmk life ∧
      Credentials.vaultKey vaultCrypto (.drawn firstDraws firstPassword) ∈ life.logins := by
  have absent : AccountAbsent vaultCrypto "owner" { database := {} } := freshDatabase.absent
  obtain ⟨vmk, registered, firstStep, firstOpen, -⟩ := absent.register_exists
    plainSerialization vaultCrypto_aesGcmLaws vaultCrypto_encryptsAll usable
    plainInstant firstDraws_within firstPassword_acceptable
  obtain ⟨signInClocks, signedIn, secondStep, secondOpen, -, known⟩ := firstOpen.signIn_exists
    plainSerialization vaultCrypto_separates usable (numberedSalt 0) plainInstant
  obtain ⟨clocks, changed, thirdStep, thirdOpen, kept⟩ := secondOpen.change_exists
    plainSerialization vaultCrypto_aesGcmLaws vaultCrypto_encryptsAll
    vaultCrypto_separates usable plainInstant secondDraws_within secondPassword_acceptable
  refine ⟨_, changed, vmk, ((Run.single firstStep).tail secondStep).tail thirdStep, ?_, thirdOpen,
    by rwa [kept]⟩
  rw [currentCredentials_concat]
  rfl

theorem plainRun_loaded : ∃ events life,
    Run (PlainStep AccountLife.current) { database := {} } events life ∧
      currentCredentials events = some (secondPassword, secondCode.1) ∧
      ∃ event ∈ events, event.call.vaultKey?.isSome := by
  obtain ⟨events, changed, vmk, run, current, opened, -⟩ := plainRun_changed AccountLife.current
  obtain ⟨clocks, signedIn, signInStep, -, isCurrent, -⟩ := opened.signIn_exists
    plainSerialization vaultCrypto_separates AccountLife.current (numberedSalt 0) plainInstant
  have loadStep : PlainStep AccountLife.current signedIn _ _ :=
    .of_load AccountLife.current plainKeyDraws isCurrent
  refine ⟨_, _, (run.tail signInStep).tail loadStep, ?_, _, List.mem_concat_self, rfl⟩
  rw [currentCredentials_concat, currentCredentials_concat, current]
  rfl

theorem vault_continuity_plain : ∃ events life,
    Run (PlainStep AccountLife.current) { database := {} } events life ∧
      (∃ event ∈ events, event.call.vaultKey?.isSome ∧ Returns event.outcome) ∧
      ∃ vmk, createdVmk events = some vmk ∧
        VaultUnlocks vaultCrypto "owner" life.database secondPassword secondCode.1 vmk := by
  obtain ⟨events, life, run, current, event, member, loads⟩ := plainRun_loaded
  obtain ⟨unlocks, returned, -⟩ := vault_continuity vaultCrypto_aesGcmLaws
    vaultCrypto_encryptsAll vaultCrypto_separates freshDatabase run
  exact ⟨events, life, run, ⟨event, member, loads, returned event member loads⟩,
    unlocks _ _ current⟩

/-- With the vault key of a sign-in from before the change, the load fills the
password slot anew, and the current password no longer leads to the Vault Master
Key. -/
theorem stale_vault_key_breaks_continuity :
    ¬ ∀ events life, Run (PlainStep AccountLife.logins) { database := {} } events life →
      ∀ password recoveryCode, currentCredentials events = some (password, recoveryCode) →
        ∃ vmk, createdVmk events = some vmk ∧
          VaultUnlocks vaultCrypto "owner" life.database password recoveryCode vmk := by
  intro claimed
  obtain ⟨events, changed, vmk, run, current, opened, known⟩ := plainRun_changed AccountLife.logins
  have stale : Credentials.vaultKey vaultCrypto (.drawn firstDraws firstPassword) ≠
      Credentials.vaultKey vaultCrypto (.drawn secondDraws secondPassword) := by
    decide +kernel
  have loadStep : PlainStep AccountLife.logins changed _ _ :=
    .of_load AccountLife.logins plainKeyDraws known
  obtain ⟨held, -, unlocked⟩ := claimed _ _ (run.tail loadStep) secondPassword secondCode.1
    (by rw [currentCredentials_concat, current]; rfl)
  exact opened.stale_load vaultCrypto_aesGcmLaws vaultCrypto_encryptsAll plainKeyDraws
    (PasswordHasher.length_deriveVaultKey _ _) stale secondCode.1 held unlocked

end CryptoUsb
