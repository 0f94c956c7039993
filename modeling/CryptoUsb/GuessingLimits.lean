import CryptoUsb.AccountRuns
import CryptoUsb.AuthController
import CryptoUsb.FailureBackoff

/-!
# Guessing the credentials of an account

The six calls that check a credential share one counter in the account row.
Failures through any of them, in any mix, lock the account against all of them;
while it is locked a call compares nothing and stores nothing.
-/

namespace CryptoUsb

open ByteString CommitTraces FailureBackoff IsoDateTime TransitionRuns

/-- The calls that check a credential, with their arguments and what they draw. -/
inductive CredentialCheck
  | authenticatePassword (salt : BytesOf PasswordHasher.saltLenBytes) (password : String)
  | authenticatePrivateKey (draws : KeyAuthenticator.ChallengeDraws)
      (salt : BytesOf PasswordHasher.saltLenBytes) (privateKeyPem passphrase : Bytes)
  | changePassword (draws : CredentialDraws) (currentPassword newPassword : String)
  | verifyPassword (currentPassword : String)
  | deleteAccount (currentPassword : String)
  | resetPasswordWithRecoveryCode (draws : CredentialDraws) (recoveryCode newPassword : String)

structure CredentialAttempt where
  controller : AuthController
  clocks : CallClocks
  check : CredentialCheck

/-- The call, with the session it returns if it is a sign-in. -/
def CredentialAttempt.transaction (crypto : Cryptography) {PrivateKey PublicKey : Type}
    (serialization : KeySerialization PrivateKey PublicKey) (ownerId : String)
    (attempt : CredentialAttempt) : Transaction (Option AuthSession) :=
  match attempt.check with
  | .authenticatePassword salt password => do
      let session ← AuthController.authenticatePassword crypto salt attempt.clocks ownerId password
      return some session
  | .authenticatePrivateKey draws salt privateKeyPem passphrase => do
      let session ← AuthController.authenticatePrivateKey crypto serialization draws salt
        attempt.clocks ownerId privateKeyPem passphrase
      return some session
  | .changePassword draws currentPassword newPassword => do
      let _ ← AuthController.changePassword crypto attempt.controller draws attempt.clocks ownerId
        currentPassword newPassword
      return none
  | .verifyPassword currentPassword => do
      let _ ← AuthController.verifyPassword crypto attempt.clocks ownerId currentPassword
      return none
  | .deleteAccount currentPassword => do
      let _ ← AuthController.deleteAccount crypto attempt.controller attempt.clocks ownerId
        currentPassword
      return none
  | .resetPasswordWithRecoveryCode draws recoveryCode newPassword => do
      let _ ← AuthController.resetPasswordWithRecoveryCode crypto attempt.controller draws
        attempt.clocks ownerId recoveryCode newPassword
      return none

/-- A wrong credential or method: a decoy session, or `InvalidCredentialsError`. -/
def isFailed {α : Type} (isDecoy : α → Bool) : Raises α → Bool
  | .ok value => isDecoy value
  | .error exc => exc.kind = .invalidCredentialsError

def isDecoySession (session : Option AuthSession) : Bool :=
  session.any AuthSession.isDecoy

/-- An attempt and what came of it. -/
structure AttemptEvent where
  attempt : CredentialAttempt
  trace : Trace Database PyError (Option AuthSession)

/-- A failed attempt, or one that accepted its credential.  One that stored nothing was
refused before its credential was judged, or raised before it was counted. -/
def AttemptEvent.mark? (event : AttemptEvent) : Option (Mark UtcInstant) :=
  if event.trace.commits.isEmpty then none
  else if isFailed isDecoySession event.trace.outcome then
    some (.failure event.attempt.clocks.outcome)
  else some .success

def GuessingStep (crypto : Cryptography) {PrivateKey PublicKey : Type}
    (serialization : KeySerialization PrivateKey PublicKey) (ownerId : String)
    (database : Database) (event : AttemptEvent) (next : Database) : Prop :=
  event.trace = (event.attempt.transaction crypto serialization ownerId).run database ∧
    next = event.trace.finalState database

/-! ## What a failed attempt stores -/

/-- What a call stores when it fails for this account: the counted failure. -/
def CountsOnce {α : Type} (isDecoy : α → Bool) (clock : UtcInstant) (account : UserAccount)
    (database : Database) (code : Transaction α) : Prop :=
  (code.run database).commits ≠ [] → isFailed isDecoy (code.run database).outcome = true →
    ∃ counted, LockoutPolicy.registerFailure account clock = .ok counted ∧
      (code.run database).commits =
        [{ database with accounts := database.accounts.save counted }]

theorem fail_registers {clock : UtcInstant} {account counted : UserAccount}
    (registered : LockoutPolicy.registerFailure account clock = .ok counted)
    (database : Database) :
    (AuthController.fail clock account).run database =
      ⟨[{ database with accounts := database.accounts.save counted }], .ok ()⟩ := by
  simp only [AuthController.fail, registered]
  rfl

theorem fail_raises {clock : UtcInstant} {account : UserAccount} {exc : PyError}
    (raised : LockoutPolicy.registerFailure account clock = .error exc) (database : Database) :
    (AuthController.fail clock account).run database = ⟨[], .error exc⟩ := by
  simp only [AuthController.fail, raised]
  rfl

theorem getAccount_cases (ownerId : String) (database : Database) :
    (∃ exc, (AuthController.getAccount ownerId).run database = ⟨[], .error exc⟩) ∨
      ∃ account, database.accounts.load ownerId = .ok (some account) ∧
        (AuthController.getAccount ownerId).run database = ⟨[], .ok account⟩ := by
  unfold AuthController.getAccount
  rw [Committing.run_bind, Committing.run_read]
  cases loaded : database.accounts.load ownerId with
  | error exc => exact .inl ⟨exc, rfl⟩
  | ok found =>
      cases found with
      | none => exact .inl ⟨⟨.accountNotFoundError, _⟩, rfl⟩
      | some account => exact .inr ⟨account, rfl, rfl⟩

/-- Getting an unlocked account of a method raises before anything is stored, counts the
wrong method, or gives the account. -/
theorem requireUnlockedAccount_cases (clocks : CallClocks) (ownerId : String)
    (method : AuthMethod) (database : Database) :
    (∃ exc, (AuthController.requireUnlockedAccount clocks ownerId method).run database =
        ⟨[], .error exc⟩) ∨
      (∃ account counted exc, database.accounts.load ownerId = .ok (some account) ∧
        LockoutPolicy.registerFailure account clocks.outcome = .ok counted ∧
        (AuthController.requireUnlockedAccount clocks ownerId method).run database =
          ⟨[{ database with accounts := database.accounts.save counted }], .error exc⟩) ∨
      ∃ account, database.accounts.load ownerId = .ok (some account) ∧
        (AuthController.requireUnlockedAccount clocks ownerId method).run database =
          ⟨[], .ok account⟩ := by
  unfold AuthController.requireUnlockedAccount
  rcases getAccount_cases ownerId database with ⟨exc, missing⟩ | ⟨account, loaded, found⟩
  · exact .inl ⟨exc, Committing.run_bind_error missing⟩
  rw [Committing.run_bind_ok found]
  cases asked : LockoutPolicy.isLocked account clocks.lock with
  | error exc => exact .inl ⟨exc, rfl⟩
  | ok locked =>
      rw [Committing.run_bind_ok (Committing.run_lift _ _)]
      cases locked with
      | true =>
          rw [if_pos rfl]
          cases LockoutPolicy.secondsRemaining account clocks.remaining with
          | error exc => exact .inl ⟨exc, rfl⟩
          | ok seconds => exact .inl ⟨⟨.accountLockedError, _⟩, rfl⟩
      | false =>
          rw [if_neg Bool.false_ne_true]
          split_ifs with otherMethod
          · cases registered : LockoutPolicy.registerFailure account clocks.outcome with
            | error exc =>
                exact .inl ⟨exc, Committing.run_bind_error (fail_raises registered database)⟩
            | ok counted =>
                have stored := fail_registers registered database
                exact .inr (.inl ⟨account, counted, _, loaded, registered,
                  (Committing.run_bind_commit stored).trans rfl⟩)
          · exact .inr (.inr ⟨account, loaded, rfl⟩)

namespace CountsOnce

variable {α : Type} {isDecoy : α → Bool} {clock : UtcInstant} {account : UserAccount}
  {database : Database} {code : Transaction α}

theorem of_idle (idle : (code.run database).commits = []) :
    CountsOnce isDecoy clock account database code :=
  fun stored => absurd idle stored

theorem of_not_failed (notFailed : isFailed isDecoy (code.run database).outcome = false) :
    CountsOnce isDecoy clock account database code := by
  intro _ failed
  rw [notFailed] at failed
  cases failed

theorem of_fail (answer : Raises α) :
    CountsOnce isDecoy clock account database
      (AuthController.fail clock account >>= fun _ => .lift answer) := by
  cases registered : LockoutPolicy.registerFailure account clock with
  | error exc =>
      apply of_idle
      rw [Committing.run_bind_error (fail_raises registered database)]
  | ok counted =>
      refine fun _ _ => ⟨counted, registered, ?_⟩
      rw [Committing.run_bind_commit (fail_registers registered database)]
      rfl

theorem lift_bind {β : Type} {answer : Raises β} {next : β → Transaction α}
    (rest : ∀ value, CountsOnce isDecoy clock account database (next value)) :
    CountsOnce isDecoy clock account database (.lift answer >>= next) := by
  cases answer with
  | error exc => exact of_idle rfl
  | ok value => exact rest value

end CountsOnce

/-- What a call stores when it fails: the counted failure of the owner's account. -/
def FailsCounted {α : Type} (isDecoy : α → Bool) (clock : UtcInstant) (ownerId : String)
    (database : Database) (code : Transaction α) : Prop :=
  (code.run database).commits ≠ [] → isFailed isDecoy (code.run database).outcome = true →
    ∃ account counted, database.accounts.load ownerId = .ok (some account) ∧
      LockoutPolicy.registerFailure account clock = .ok counted ∧
        (code.run database).commits =
          [{ database with accounts := database.accounts.save counted }]

namespace FailsCounted

variable {α β : Type} {isDecoy : α → Bool} {clocks : CallClocks} {ownerId : String}
  {database : Database}

/-- A call that begins with an unlocked account of its method. -/
theorem of_account {method : AuthMethod} {rest : UserAccount → Transaction α}
    (counts : ∀ account, CountsOnce isDecoy clocks.outcome account database (rest account)) :
    FailsCounted isDecoy clocks.outcome ownerId database
      (AuthController.requireUnlockedAccount clocks ownerId method >>= rest) := by
  rcases requireUnlockedAccount_cases clocks ownerId method database with
    ⟨exc, raised⟩ | ⟨account, counted, exc, loaded, registered, raised⟩ | ⟨account, loaded, found⟩
  · intro stored _
    rw [Committing.run_bind_error raised] at stored
    exact absurd rfl stored
  · intro _ _
    refine ⟨account, counted, loaded, registered, ?_⟩
    rw [Committing.run_bind_error raised]
  · intro stored failed
    rw [Committing.run_bind_ok found] at stored failed ⊢
    obtain ⟨counted, registered, commits⟩ := counts account stored failed
    exact ⟨account, counted, loaded, registered, commits⟩

theorem bind_pure {code : Transaction α} {change : α → β} {isDecoyChanged : β → Bool}
    (counts : FailsCounted isDecoy clocks.outcome ownerId database code)
    (sameVerdict : ∀ value, isDecoyChanged (change value) = isDecoy value) :
    FailsCounted isDecoyChanged clocks.outcome ownerId database
      (code >>= fun value => pure (change value)) := by
  intro stored failed
  rw [Committing.run_bind_pure] at stored failed ⊢
  refine counts stored ?_
  rw [← failed]
  cases (code.run database).outcome with
  | error exc => rfl
  | ok value => exact (sameVerdict value).symm

end FailsCounted

/-! ## The calls -/

section Calls

variable {crypto : Cryptography} {PrivateKey PublicKey : Type}
  {serialization : KeySerialization PrivateKey PublicKey} {ownerId : String}
  {clocks : CallClocks} {database : Database} {account : UserAccount}

theorem authenticatePassword_counts (salt : BytesOf PasswordHasher.saltLenBytes)
    (password : String) :
    FailsCounted AuthSession.isDecoy clocks.outcome ownerId database
      (AuthController.authenticatePassword crypto salt clocks ownerId password) := by
  refine .of_account fun account => ?_
  split
  · exact .of_idle rfl
  · split_ifs
    · split
      · exact .of_not_failed rfl
      · exact .of_not_failed rfl
    · exact .of_fail _

theorem authenticatePrivateKey_counts (draws : KeyAuthenticator.ChallengeDraws)
    (salt : BytesOf PasswordHasher.saltLenBytes) (privateKeyPem passphrase : Bytes) :
    FailsCounted AuthSession.isDecoy clocks.outcome ownerId database
      (AuthController.authenticatePrivateKey crypto serialization draws salt clocks ownerId
        privateKeyPem passphrase) := by
  refine .of_account fun account => ?_
  split
  · exact .of_idle rfl
  · refine .lift_bind fun verified => ?_
    dsimp only
    split_ifs
    · split
      · exact .of_not_failed rfl
      · exact .of_not_failed rfl
    · exact .of_fail _

theorem verifyPassword_counts (currentPassword : String) :
    FailsCounted (fun _ => false) clocks.outcome ownerId database
      (AuthController.verifyPassword crypto clocks ownerId currentPassword) := by
  refine .of_account fun account => ?_
  split
  · exact .of_idle rfl
  · split_ifs
    · exact .of_not_failed rfl
    · exact .of_fail _

/-! What runs after the account is saved raises no `InvalidCredentialsError`. -/

def NotInvalid (exc : PyError) : Prop :=
  exc.kind ≠ .invalidCredentialsError

theorem notInvalid_of_raise {α : Type} {kind : ErrorClass} {message : String}
    (different : kind ≠ .invalidCredentialsError) :
    ∀ exc, (raise kind message : Raises α) = .error exc → NotInvalid exc := by
  rintro exc ⟨⟩
  exact different

theorem notInvalid_bind {α β : Type} {first : Raises α} {next : α → Raises β}
    (notFirst : ∀ exc, first = .error exc → NotInvalid exc)
    (notNext : ∀ value exc, next value = .error exc → NotInvalid exc) :
    ∀ exc, (first >>= next) = .error exc → NotInvalid exc := by
  intro exc raised
  cases first with
  | error failed =>
      obtain rfl := Except.error.inj raised
      exact notFirst failed rfl
  | ok value => exact notNext value exc raised

theorem asBase64_raises (value : JsonText.Json) :
    ∀ exc, asBase64 value = .error exc → NotInvalid exc := by
  unfold asBase64 asStr
  apply notInvalid_bind
  · split
    · nofun
    · exact notInvalid_of_raise (by decide)
  · intro text
    split
    · nofun
    all_goals exact notInvalid_of_raise (by decide)

theorem encrypt_raises (nonce : AesCipher.Nonce) (plaintext key : Bytes) :
    ∀ exc, AesCipher.encrypt crypto nonce plaintext key = .error exc → NotInvalid exc := by
  unfold AesCipher.encrypt
  split_ifs
  · exact notInvalid_of_raise (by decide)
  · split
    · exact notInvalid_of_raise (by decide)
    · nofun

theorem loadWrapped_raises (appMeta : AList (fun _ : String => String)) (key : String)
    (vaultKey : Bytes) :
    ∀ exc, ProtectionKeys.loadWrapped crypto appMeta key vaultKey = .error exc →
      NotInvalid exc := by
  unfold ProtectionKeys.loadWrapped
  split
  · refine notInvalid_bind (asBase64_raises _) fun nonce => ?_
    refine notInvalid_bind (asBase64_raises _) fun ciphertext => ?_
    intro exc raised
    split at raised
    · cases raised
    · rename_i failed decrypted
      have kind := AesCipher.decrypt_error decrypted
      rw [if_pos kind] at raised
      cases raised
  · nofun

theorem saveWrapped_fails (drawn : AesCipher.Nonce) (key : String) (value vaultKey : Bytes) :
    FailsWithin (ProtectionKeys.saveWrapped crypto drawn key value vaultKey) NotInvalid :=
  .bind (.lift (encrypt_raises _ _ _)) fun _ => .commit _

theorem rewrapVaultMasterKey_fails (controller : AuthController) (draws : CredentialDraws)
    (oldVmk : Option Bytes) (newCredential : PasswordCredential) (newPassword : String)
    (newRecoveryCodeHash : PasswordCredential) (newRecoveryCode : String) :
    FailsWithin (AuthController.rewrapVaultMasterKey crypto controller draws oldVmk newCredential
      newPassword newRecoveryCodeHash newRecoveryCode) NotInvalid := by
  unfold AuthController.rewrapVaultMasterKey
  split_ifs
  · split
    · dsimp only
      split
      · exact .bind (saveWrapped_fails _ _ _ _) fun _ => saveWrapped_fails _ _ _ _
      · refine .bind (.bind ?_ fun _ => .bind (saveWrapped_fails _ _ _ _) fun _ => .pure _)
          fun _ => .pure _
        refine .bind (.read fun _ => loadWrapped_raises _ _ _) fun found => ?_
        split
        · exact .pure _
        · exact .bind (saveWrapped_fails _ _ _ _) fun _ => .pure _
    · exact .lift (notInvalid_of_raise (by decide))
  · exact .pure _

theorem rotateCredentials_fails (controller : AuthController) (draws : CredentialDraws)
    (oldVmk : Option Bytes) (newPassword : String) :
    FailsWithin (AuthController.rotateCredentials crypto controller draws clocks.outcome account
      oldVmk newPassword) NotInvalid := by
  unfold AuthController.rotateCredentials
  refine .bind (.lift ?_) fun credential => .bind (.commit _) fun _ =>
    .bind (rewrapVaultMasterKey_fails _ _ _ _ _ _ _) fun _ => .pure _
  unfold PasswordHasher.hashPassword PasswordHasher.validatePasswordStrength
  refine notInvalid_bind ?_ nofun
  split_ifs
  · exact notInvalid_of_raise (by decide)
  · nofun

theorem CountsOnce.of_fails {α : Type} {code : Transaction α}
    (fails : FailsWithin code NotInvalid) :
    CountsOnce (fun _ => false) clocks.outcome account database code := by
  apply of_not_failed
  cases outcome : (code.run database).outcome with
  | ok value => rfl
  | error exc => exact decide_eq_false (fails database exc outcome)

theorem changePassword_counts (controller : AuthController) (draws : CredentialDraws)
    (currentPassword newPassword : String) :
    FailsCounted (fun _ => false) clocks.outcome ownerId database
      (AuthController.changePassword crypto controller draws clocks ownerId currentPassword
        newPassword) := by
  refine .of_account fun account => ?_
  split
  · exact .of_idle rfl
  · split_ifs
    · refine .of_fails (.bind ?_ fun _ => rotateCredentials_fails _ _ _ _)
      unfold AuthController.unwrapVmkViaPassword
      split_ifs
      · split
        · exact .pure _
        · exact .read fun _ => loadWrapped_raises _ _ _
      · exact .pure _
    · exact .of_fail _

theorem resetPasswordWithRecoveryCode_counts (controller : AuthController)
    (draws : CredentialDraws) (recoveryCode newPassword : String) :
    FailsCounted (fun _ => false) clocks.outcome ownerId database
      (AuthController.resetPasswordWithRecoveryCode crypto controller draws clocks ownerId
        recoveryCode newPassword) := by
  refine .of_account fun account => ?_
  split
  · exact .of_idle rfl
  · split
    · refine .of_fails (.bind ?_ fun _ => rotateCredentials_fails _ _ _ _)
      unfold AuthController.unwrapVmkViaRecovery
      split_ifs
      · split
        · exact .pure _
        · exact .read fun _ => loadWrapped_raises _ _ _
      · exact .pure _
    · exact .of_fail _

/-- Nothing fails after the verification of a deletion. -/
theorem deleteAccount_counts (controller : AuthController) (currentPassword : String) :
    FailsCounted (fun _ => false) clocks.outcome ownerId database
      (AuthController.deleteAccount crypto controller clocks ownerId currentPassword) := by
  unfold AuthController.deleteAccount
  rcases ran : (AuthController.verifyPassword crypto clocks ownerId currentPassword).run database
    with ⟨commits, exc | _⟩
  · have counts := @verifyPassword_counts crypto ownerId clocks database currentPassword
    intro stored failed
    rw [Committing.run_bind_error ran] at stored failed ⊢
    unfold FailsCounted at counts
    rw [ran] at counts
    exact counts stored failed
  · intro _ failed
    exfalso
    rw [Committing.run_bind, ran] at failed
    dsimp only at failed
    split_ifs at failed <;> cases failed

/-- An attempt that fails stores the counted failure and nothing else. -/
theorem CredentialAttempt.counts (attempt : CredentialAttempt) :
    FailsCounted isDecoySession attempt.clocks.outcome ownerId database
      (attempt.transaction crypto serialization ownerId) := by
  obtain ⟨controller, clocks, check⟩ := attempt
  cases check with
  | authenticatePassword salt password =>
      exact (authenticatePassword_counts salt password).bind_pure fun _ => rfl
  | authenticatePrivateKey draws salt privateKeyPem passphrase =>
      exact (authenticatePrivateKey_counts draws salt privateKeyPem passphrase).bind_pure
        fun _ => rfl
  | changePassword draws currentPassword newPassword =>
      exact (changePassword_counts controller draws currentPassword newPassword).bind_pure
        fun _ => rfl
  | verifyPassword currentPassword =>
      exact (verifyPassword_counts currentPassword).bind_pure fun _ => rfl
  | deleteAccount currentPassword =>
      exact (deleteAccount_counts controller currentPassword).bind_pure fun _ => rfl
  | resetPasswordWithRecoveryCode draws recoveryCode newPassword =>
      exact (resetPasswordWithRecoveryCode_counts controller draws recoveryCode
        newPassword).bind_pure fun _ => rfl

theorem CredentialAttempt.raises (attempt : CredentialAttempt) {exc : PyError}
    (refused : ∀ method, (AuthController.requireUnlockedAccount attempt.clocks ownerId
      method).run database = ⟨[], .error exc⟩) :
    (attempt.transaction crypto serialization ownerId).run database = ⟨[], .error exc⟩ := by
  obtain ⟨controller, clocks, check⟩ := attempt
  cases check with
  | deleteAccount currentPassword =>
      exact Committing.run_bind_error (Committing.run_bind_error
        (Committing.run_bind_error (refused .password)))
  | authenticatePrivateKey draws salt privateKeyPem passphrase =>
      exact Committing.run_bind_error (Committing.run_bind_error (refused .privateKey))
  | _ => exact Committing.run_bind_error (Committing.run_bind_error (refused .password))

end Calls

/-! ## Runs -/

/-- The account counts these failures, and its lock is the one due after the latest. -/
def Guarded (ownerId : String) (failures : List UtcInstant) (database : Database) : Prop :=
  failures ≠ [] → ∃ account, database.accounts.load ownerId = .ok (some account) ∧
    Covers maxFailedAttempts lockoutEndAfter failures account.failedAttempts account.lockedUntil

section Runs

variable {crypto : Cryptography} {PrivateKey PublicKey : Type}
  {serialization : KeySerialization PrivateKey PublicKey} {ownerId : String}

theorem Guarded.step {failures : List UtcInstant} {database next : Database}
    {event : AttemptEvent} (guarded : Guarded ownerId failures database)
    (stepped : GuessingStep crypto serialization ownerId database event next) :
    Guarded ownerId (event.mark?.elim failures fun mark => mark.after failures) next := by
  obtain ⟨ran, rfl⟩ := stepped
  have counts := @CredentialAttempt.counts crypto _ _ serialization ownerId database event.attempt
  unfold FailsCounted at counts
  rw [← ran] at counts
  unfold AttemptEvent.mark?
  split_ifs with idle failed
  · rw [Option.elim_none, Trace.finalState, List.isEmpty_iff.mp idle]
    exact guarded
  · obtain ⟨account, counted, loaded, registered, commits⟩ :=
      counts (fun empty => idle (List.isEmpty_iff.mpr empty)) failed
    rw [Option.elim_some, Trace.finalState, commits]
    intro _
    have counted_of := LockoutPolicy.registerFailure_counts registered
    have owner := AccountRepository.ownerId_of_load loaded
    have saved := AccountRepository.load_save loaded counted_of.ownerId counted_of.createdAt
    rw [counted_of.ownerId, owner] at saved
    refine ⟨counted, saved, ?_⟩
    have covers : Covers maxFailedAttempts lockoutEndAfter failures account.failedAttempts
        account.lockedUntil := by
      by_cases first : failures = []
      · rw [first]
        exact .nil
      · obtain ⟨known, loadedKnown, covers⟩ := guarded first
        obtain rfl := Option.some.inj (Except.ok.inj (loaded.symm.trans loadedKnown))
        exact covers
    obtain ⟨rfl, ends⟩ := LockoutPolicy.registerFailure_eq_ok.mp registered
    refine covers.failure fun reached => ⟨ends reached, ?_⟩
    obtain ⟨lockedUntil, ended⟩ := Option.isSome_iff_exists.mp (ends reached)
    simp only [LockoutPolicy.counted, if_pos reached, ended, Option.some_or]
  · exact fun some => absurd rfl some

theorem Guarded.run {start finish : Database} {events : List AttemptEvent}
    (run : Run (GuessingStep crypto serialization ownerId) start events finish) :
    Guarded ownerId (recentFailures (events.filterMap AttemptEvent.mark?)) finish := by
  refine run.history (fun events database =>
    Guarded ownerId (recentFailures (events.filterMap AttemptEvent.mark?)) database) ?_
    (fun some => absurd rfl some)
  intro events database event next guarded stepped
  have kept := guarded.step stepped
  rw [List.filterMap_append]
  cases marked : event.mark? with
  | none => simpa [marked] using kept
  | some mark => simpa [marked] using kept

/-- While an account is locked, no call reads more than its row. -/
theorem locked_run {clocks : CallClocks} {database : Database} {account : UserAccount}
    {lockedUntil : DateTime} (loaded : database.accounts.load ownerId = .ok (some account))
    (locked : account.lockedUntil = some lockedUntil)
    (offset : lockedUntil.utcoffset = some UtcOffset.utc)
    (early : isBefore clocks.lock lockedUntil = true) :
    ∃ seconds : Int, ∀ method,
      (AuthController.requireUnlockedAccount clocks ownerId method).run database =
        ⟨[], raise .accountLockedError
          s!"Account is locked for {seconds} more second(s) after repeated failed attempts"⟩ := by
  have isLocked : LockoutPolicy.isLocked account clocks.lock = .ok true := by
    simp only [LockoutPolicy.isLocked, locked, of_decide_eq_true early]
  obtain ⟨microseconds, subtracted⟩ := DateTime.subtract_isSome
    (UtcInstant.isAware ⟨lockedUntil, offset⟩) clocks.remaining.isAware
  have remaining : LockoutPolicy.secondsRemaining account clocks.remaining =
      .ok (max 0 (microseconds.tdiv ticksPerSecond)) := by
    simp only [LockoutPolicy.secondsRemaining, locked, subtracted]
  rcases getAccount_cases ownerId database with ⟨exc, missing⟩ | ⟨found, loadedToo, got⟩
  · unfold AuthController.getAccount at missing
    rw [Committing.run_bind_ok (by rw [Committing.run_read, loaded])] at missing
    cases missing
  obtain rfl := Option.some.inj (Except.ok.inj (loadedToo.symm.trans loaded))
  refine ⟨max 0 (microseconds.tdiv ticksPerSecond), fun method => ?_⟩
  unfold AuthController.requireUnlockedAccount
  rw [Committing.run_bind_ok got, isLocked, Committing.run_bind_ok (Committing.run_lift _ _),
    if_pos rfl, remaining, Committing.run_bind_ok (Committing.run_lift _ _)]
  rfl

/-- After enough failed attempts since the last accepted one, through any of the calls,
every call before the lockout due to the latest has lasted raises `AccountLockedError`
and stores nothing, whatever its credential and whatever would compare it. -/
theorem account_guessing_limit {start finish : Database} {events : List AttemptEvent}
    (run : Run (GuessingStep crypto serialization ownerId) start events finish) :
    let failures := recentFailures (events.filterMap AttemptEvent.mark?)
    ∀ time, maxFailedAttempts ≤ failures.length → failures.head? = some time →
      ∀ clocks : CallClocks,
        clocks.lock.1.ticks < time.1.ticks + lockoutTicks failures.length →
          ∃ seconds : Int, ∀ (primitives : Cryptography) (controller : AuthController)
            (check : CredentialCheck),
              (CredentialAttempt.transaction primitives serialization ownerId
                ⟨controller, clocks, check⟩).run finish = ⟨[], raise .accountLockedError
                  s!"Account is locked for {seconds} more second(s) after repeated failed attempts"⟩ := by
  intro failures time enough latest clocks early
  have some : failures ≠ [] := by
    intro none
    rw [none] at latest
    cases latest
  obtain ⟨account, loaded, covers⟩ := Guarded.run run some
  obtain ⟨reached, le, ends, locked⟩ := covers.locked enough time latest
  obtain ⟨lockedUntil, ended⟩ := Option.isSome_iff_exists.mp ends
  have offset : lockedUntil.utcoffset = Option.some UtcOffset.utc := by
    rw [DateTime.utcoffset_addTicks ended, time.2]
  obtain ⟨seconds, refused⟩ := locked_run loaded (locked.trans ended) offset
    (isBefore_lockoutEndAfter le ended early)
  exact ⟨seconds, fun primitives controller check => CredentialAttempt.raises _ refused⟩

end Runs

/-! ## Five sign-ins by the wrong method -/

def wrongMethodClocks : CallClocks :=
  ⟨plainInstant, plainInstant, plainInstant, plainInstant⟩

/-- A sign-in with a private key. -/
def wrongMethodAttempt : CredentialAttempt where
  controller := {}
  clocks := wrongMethodClocks
  check := .authenticatePrivateKey ⟨padTo 32 [], []⟩ (padTo 16 []) [1] [2]

/-- It fails on a password account. -/
theorem wrongMethod_step {database : Database} {account : UserAccount}
    (loaded : database.accounts.load "owner" = .ok (some account))
    (isPassword : account.authMethod = .password) (unlocked : account.lockedUntil = none)
    {counted : UserAccount}
    (registered :
      LockoutPolicy.registerFailure account wrongMethodClocks.outcome = .ok counted) :
    ∃ event : AttemptEvent, event.mark? = some (.failure plainInstant) ∧
      GuessingStep vaultCrypto plainSerialization "owner" database event
        { database with accounts := database.accounts.save counted } := by
  have refused : ∃ message, (AuthController.requireUnlockedAccount wrongMethodClocks "owner"
      .privateKey).run database =
        ⟨[{ database with accounts := database.accounts.save counted }],
          raise .invalidCredentialsError message⟩ := by
    have isUnlocked : LockoutPolicy.isLocked account wrongMethodClocks.lock = .ok false := by
      simp only [LockoutPolicy.isLocked, unlocked]
    have otherMethod : account.authMethod ≠ .privateKey := by
      rw [isPassword]
      decide
    apply Exists.intro
    unfold AuthController.requireUnlockedAccount
    rw [Committing.run_bind_ok (getAccount_of_load loaded), isUnlocked,
      Committing.run_bind_ok (Committing.run_lift _ _), if_neg Bool.false_ne_true, if_pos otherMethod,
      Committing.run_bind_commit (fail_registers registered database)]
    rfl
  obtain ⟨message, refused⟩ := refused
  have ran : (wrongMethodAttempt.transaction vaultCrypto plainSerialization "owner").run database =
      ⟨[{ database with accounts := database.accounts.save counted }],
        raise .invalidCredentialsError message⟩ :=
    Committing.run_bind_error (Committing.run_bind_error refused)
  exact ⟨⟨wrongMethodAttempt, _⟩, rfl, ran.symm, rfl⟩

/-- A run of so many failures. -/
theorem wrongMethod_run {start : Database} {account : UserAccount}
    (loaded : start.accounts.load "owner" = .ok (some account))
    (isPassword : account.authMethod = .password) (fresh : account.failedAttempts = 0)
    (unlocked : account.lockedUntil = none) :
    ∀ attempts ≤ maxFailedAttempts, ∃ events finish,
      Run (GuessingStep vaultCrypto plainSerialization "owner") start events finish ∧
        recentFailures (events.filterMap AttemptEvent.mark?) =
          List.replicate attempts plainInstant ∧
        ∃ counted, finish.accounts.load "owner" = .ok (some counted) ∧
          counted.authMethod = .password ∧ counted.failedAttempts = attempts ∧
          (attempts < maxFailedAttempts → counted.lockedUntil = none) := by
  intro attempts
  induction attempts with
  | zero =>
      intro _
      exact ⟨[], start, .refl start, rfl, account, loaded, isPassword, fresh, fun _ => unlocked⟩
  | succ attempts ih =>
      intro few
      obtain ⟨events, middle, run, failures, counted, loaded, isPassword, count, unlocked⟩ :=
        ih (by omega)
      have registered : LockoutPolicy.registerFailure counted plainInstant =
          .ok (LockoutPolicy.counted counted plainInstant) := by
        refine LockoutPolicy.registerFailure_eq_ok.mpr ⟨rfl, fun reached => ?_⟩
        rw [count] at reached ⊢
        obtain rfl : attempts = 4 := by
          have fifth : 5 ≤ attempts + 1 := reached
          have four : attempts + 1 ≤ 5 := few
          omega
        decide
      obtain ⟨event, marked, stepped⟩ :=
        wrongMethod_step loaded isPassword (unlocked (by omega)) registered
      have owner := AccountRepository.ownerId_of_load loaded
      have saved := AccountRepository.load_save loaded
        (rfl : (LockoutPolicy.counted counted plainInstant).ownerId = counted.ownerId) rfl
      rw [show (LockoutPolicy.counted counted plainInstant).ownerId = "owner" from owner] at saved
      refine ⟨events ++ [event], _, .tail run stepped, ?_, _, saved, isPassword, ?_, ?_⟩
      · rw [List.filterMap_append, List.filterMap_cons_some marked, List.filterMap_nil,
          recentFailures_concat, failures]
        rfl
      · rw [LockoutPolicy.counted, count]
      · intro notYet
        rw [← count] at notYet
        rw [LockoutPolicy.counted, if_neg (Nat.not_le_of_lt notYet)]
        exact unlocked (by omega)

/-- A password account that has just been made. -/
def guessedAccount : UserAccount where
  ownerId := "owner"
  credential := .password
    (PasswordHasher.credentialFor vaultCrypto firstDraws.password firstPassword)
  createdAt := plainInstant.1

def guessedDatabase : Database where
  accounts := ({} : AccountRepository).save guessedAccount

/-- Five failures lock it even for its own password. -/
theorem account_guessing_limit_wrongMethod : ∃ events finish,
    Run (GuessingStep vaultCrypto plainSerialization "owner") guessedDatabase events finish ∧
      ∃ seconds : Int, ((⟨{}, wrongMethodClocks, .verifyPassword firstPassword⟩ :
        CredentialAttempt).transaction vaultCrypto plainSerialization "owner").run finish =
          ⟨[], raise .accountLockedError
            s!"Account is locked for {seconds} more second(s) after repeated failed attempts"⟩ := by
  have loaded : guessedDatabase.accounts.load "owner" = .ok (some guessedAccount) :=
    @AccountRepository.load_save_new {} guessedAccount rfl
  obtain ⟨events, finish, run, failures, -⟩ :=
    wrongMethod_run loaded rfl rfl rfl maxFailedAttempts le_rfl
  refine ⟨events, finish, run, ?_⟩
  have limit := account_guessing_limit run
  dsimp only at limit
  rw [failures] at limit
  obtain ⟨seconds, refused⟩ := limit plainInstant (by decide) rfl wrongMethodClocks (by decide)
  exact ⟨seconds, refused vaultCrypto {} (.verifyPassword firstPassword)⟩

end CryptoUsb
