import CryptoUsb.GuessingLimits

/-!
# Deleting the account

A deletion verifies the password and then clears the metadata, the usage log and the deception
events and removes the row of the account, each in a commit of its own.  An operation that
fails between two of them leaves what the earlier ones have cleared.
-/

namespace CryptoUsb

open CommitTraces

/-! ## Failing operations -/

namespace AuthController

/-- How a deletion ends and what it leaves, where all of its operations on the database succeed,
or where the one after so many commits fails. -/
def deletionWithFault (crypto : Cryptography) (controller : AuthController) (clocks : CallClocks)
    (ownerId currentPassword : String) (before : Database) (fault : Option Nat)
    (message : String) : Raises Unit × Database :=
  let trace := (deleteAccount crypto controller clocks ownerId currentPassword).run before
  match fault with
  | some count =>
      -- The account is always loaded first, and after the last commit nothing can fail.
      if count = 0 ∨ count < trace.commits.length then
        (raise .sqliteError message, trace.stateAt before count)
      else (trace.outcome, trace.finalState before)
  | none => (trace.outcome, trace.finalState before)

end AuthController

/-- Metadata, usage log and deception events are empty. -/
structure Database.Cleared (database : Database) : Prop where
  fileMetadata : database.fileMetadata = {}
  usageLog : database.usageLog = []
  deceptionEvents : database.deceptionEvents = []

/-- The protected data is the same, and so is the credential of the account. -/
structure ProtectedDataKept (ownerId : String) (before after : Database) : Prop where
  fileMetadata : after.fileMetadata = before.fileMetadata
  usageLog : after.usageLog = before.usageLog
  deceptionEvents : after.deceptionEvents = before.deceptionEvents
  account : after.accounts = before.accounts ∨
    ∃ account kept, before.accounts.load ownerId = .ok (some account) ∧
      after.accounts.load ownerId = .ok (some kept) ∧ kept.credential = account.credential ∧
      kept.recoveryCodeHash = account.recoveryCodeHash

/-- A deletion completed, or it raised and left everything as it was. -/
def AllOrNothing (ownerId : String) (before : Database) (ended : Raises Unit × Database) : Prop :=
  (ended.1 = .ok () ∧ ended.2.accounts.exists ownerId = false ∧ ended.2.Cleared) ∨
    ((∃ exc, ended.1 = .error exc) ∧ ProtectedDataKept ownerId before ended.2)

/-- The condition on the failing operation: what was cleared before it was empty anyway.  A
controller without a database manager clears nothing. -/
def NothingToLose (controller : AuthController) (before : Database) (fault : Option Nat) : Prop :=
  if controller.hasDatabase then
    ∀ count, fault = some count → count < 5 →
      (2 ≤ count → before.fileMetadata = {}) ∧ (3 ≤ count → before.usageLog = []) ∧
        (4 ≤ count → before.deceptionEvents = [])
  else fault = some 0 ∨ fault = some 1 ∨ before.Cleared

/-! ## What a deletion commits -/

section Deletions

variable {crypto : Cryptography} {controller : AuthController} {clocks : CallClocks}
  {ownerId currentPassword : String} {before : Database}

theorem ProtectedDataKept.refl (ownerId : String) (database : Database) :
    ProtectedDataKept ownerId database database :=
  ⟨rfl, rfl, rfl, .inl rfl⟩

/-- A saved account keeps its credential. -/
theorem ProtectedDataKept.save {account kept : UserAccount}
    (loaded : before.accounts.load ownerId = .ok (some account))
    (sameOwner : kept.ownerId = account.ownerId) (sameCreation : kept.createdAt = account.createdAt)
    (sameCredential : kept.credential = account.credential)
    (sameCode : kept.recoveryCodeHash = account.recoveryCodeHash) :
    ProtectedDataKept ownerId before
      { before with accounts := before.accounts.save kept } where
  fileMetadata := rfl
  usageLog := rfl
  deceptionEvents := rfl
  account := by
    have saved := AccountRepository.load_save loaded sameOwner sameCreation
    rw [sameOwner, AccountRepository.ownerId_of_load loaded] at saved
    exact .inr ⟨account, kept, loaded, saved, sameCredential, sameCode⟩

/-- A verification returns after saving the account, or raises and keeps what is protected at
every commit. -/
theorem verifyPassword_cases (crypto : Cryptography) (clocks : CallClocks)
    (ownerId currentPassword : String) (before : Database) :
    (∃ account, before.accounts.load ownerId = .ok (some account) ∧
      (AuthController.verifyPassword crypto clocks ownerId currentPassword).run before =
        ⟨[afterSuccess account clocks.outcome before], .ok ()⟩) ∨
      ∃ commits exc,
        (AuthController.verifyPassword crypto clocks ownerId currentPassword).run before =
          ⟨commits, .error exc⟩ ∧ ∀ state ∈ commits, ProtectedDataKept ownerId before state := by
  have counts {account counted : UserAccount}
      (loaded : before.accounts.load ownerId = .ok (some account))
      (registered : LockoutPolicy.registerFailure account clocks.outcome = .ok counted) :
      ∀ state ∈ [{ before with accounts := before.accounts.save counted }],
        ProtectedDataKept ownerId before state := by
    intro state member
    obtain rfl := List.mem_singleton.mp member
    have counted := LockoutPolicy.registerFailure_counts registered
    exact .save loaded counted.ownerId counted.createdAt counted.credential
      counted.recoveryCodeHash
  unfold AuthController.verifyPassword
  rcases requireUnlockedAccount_cases clocks ownerId .password before with
    ⟨exc, missing⟩ | ⟨account, counted, exc, loaded, registered, refused⟩ |
      ⟨account, loaded, found⟩
  · exact .inr ⟨[], exc, Committing.run_bind_error missing, by simp⟩
  · exact .inr ⟨_, exc, Committing.run_bind_error refused, counts loaded registered⟩
  · rw [Committing.run_bind_ok found]
    cases account.credential with
    | privateKey credential => exact .inr ⟨[], _, rfl, by simp⟩
    | password credential =>
        dsimp only
        split_ifs with verified
        · exact .inl ⟨account, loaded, rfl⟩
        · cases registered : LockoutPolicy.registerFailure account clocks.outcome with
          | error exc =>
              exact .inr ⟨[], exc, Committing.run_bind_error (fail_raises registered before),
                by simp⟩
          | ok counted =>
              refine .inr ⟨_, _, (Committing.run_bind_commit (fail_registers registered
                before)).trans rfl, ?_⟩
              exact counts loaded registered

theorem allOrNothing_raised {exc : PyError} {after : Database} :
    AllOrNothing ownerId before (.error exc, after) ↔ ProtectedDataKept ownerId before after := by
  simp [AllOrNothing]

theorem allOrNothing_returned {after : Database} :
    AllOrNothing ownerId before (.ok (), after) ↔
      after.accounts.exists ownerId = false ∧ after.Cleared := by
  simp [AllOrNothing]

/-- Clearing tables after the verification keeps what is protected exactly when they were empty
before. -/
theorem protectedDataKept_iff {verified after : Database}
    (kept : ProtectedDataKept ownerId before verified)
    (sameAccounts : after.accounts = verified.accounts) :
    ProtectedDataKept ownerId before after ↔ after.fileMetadata = before.fileMetadata ∧
      after.usageLog = before.usageLog ∧ after.deceptionEvents = before.deceptionEvents := by
  constructor
  · intro all
    exact ⟨all.fileMetadata, all.usageLog, all.deceptionEvents⟩
  · rintro ⟨fileMetadata, usageLog, deceptionEvents⟩
    refine ⟨fileMetadata, usageLog, deceptionEvents, ?_⟩
    rw [sameAccounts]
    exact kept.account

/-- A deletion that was refused left everything as it was, wherever it failed. -/
theorem allOrNothing_of_refused {commits : List Database} {exc : PyError}
    (refused : (AuthController.verifyPassword crypto clocks ownerId currentPassword).run before =
      ⟨commits, .error exc⟩)
    (kept : ∀ state ∈ commits, ProtectedDataKept ownerId before state) (fault : Option Nat)
    (message : String) :
    AllOrNothing ownerId before (AuthController.deletionWithFault crypto controller clocks ownerId
      currentPassword before fault message) := by
  have keeps {state : Database} (reached : state = before ∨ state ∈ commits) :
      ProtectedDataKept ownerId before state := by
    rcases reached with rfl | member
    · exact .refl ownerId _
    · exact kept state member
  have ran : (AuthController.deleteAccount crypto controller clocks ownerId currentPassword).run
      before = ⟨commits, .error exc⟩ := Committing.run_bind_error refused
  unfold AuthController.deletionWithFault
  simp only [ran]
  cases fault with
  | none => exact allOrNothing_raised.mpr (keeps (Trace.finalState_mem _ before))
  | some count =>
      dsimp only
      split_ifs
      · exact allOrNothing_raised.mpr (keeps (Trace.stateAt_mem _ before count))
      · exact allOrNothing_raised.mpr (keeps (Trace.finalState_mem _ before))

/-- The states that a deletion commits after the verification. -/
def deletionStates (controller : AuthController) (ownerId : String) (verified : Database) :
    List Database :=
  let emptied : Database := { verified with fileMetadata := {} }
  let unlogged : Database := { emptied with usageLog := [] }
  let cleared : Database := { unlogged with deceptionEvents := [] }
  if controller.hasDatabase then
    [verified, emptied, unlogged, cleared,
      { cleared with accounts := verified.accounts.delete ownerId }]
  else [verified, { verified with accounts := verified.accounts.delete ownerId }]

theorem deleteAccount_of_verified {verified : Database}
    (ran : (AuthController.verifyPassword crypto clocks ownerId currentPassword).run before =
      ⟨[verified], .ok ()⟩) :
    (AuthController.deleteAccount crypto controller clocks ownerId currentPassword).run before =
      ⟨deletionStates controller ownerId verified, .ok ()⟩ := by
  rw [AuthController.deleteAccount, Committing.run_bind_commit ran]
  unfold deletionStates
  split_ifs <;> rfl

theorem deletionWithFault_early {states : List Database}
    (ran : (AuthController.deleteAccount crypto controller clocks ownerId currentPassword).run
      before = ⟨states, .ok ()⟩) (message : String) {count : Nat}
    (early : count = 0 ∨ count < states.length) :
    AuthController.deletionWithFault crypto controller clocks ownerId currentPassword before
        (some count) message =
      (raise .sqliteError message, (states.take count).getLast?.getD before) := by
  simp only [AuthController.deletionWithFault, ran, if_pos early, Trace.stateAt]

theorem deletionWithFault_complete {states : List Database}
    (ran : (AuthController.deleteAccount crypto controller clocks ownerId currentPassword).run
      before = ⟨states, .ok ()⟩) (message : String) {fault : Option Nat}
    (late : ∀ count, fault = some count → ¬ (count = 0 ∨ count < states.length)) :
    AuthController.deletionWithFault crypto controller clocks ownerId currentPassword before fault
        message = (.ok (), states.getLast?.getD before) := by
  cases fault with
  | none => simp only [AuthController.deletionWithFault, ran, Trace.finalState]
  | some count =>
      simp only [AuthController.deletionWithFault, ran, if_neg (late count rfl), Trace.finalState]

/-- A deletion whose password is verified is all or nothing exactly when there was nothing to
lose. -/
theorem allOrNothing_of_verified {verified : Database}
    (ran : (AuthController.verifyPassword crypto clocks ownerId currentPassword).run before =
      ⟨[verified], .ok ()⟩)
    (kept : ProtectedDataKept ownerId before verified) (fault : Option Nat) (message : String) :
    AllOrNothing ownerId before (AuthController.deletionWithFault crypto controller clocks ownerId
      currentPassword before fault message) ↔ NothingToLose controller before fault := by
  have fileMetadata := kept.fileMetadata
  have usageLog := kept.usageLog
  have deceptionEvents := kept.deceptionEvents
  have raised (after : Database) (sameAccounts : after.accounts = verified.accounts) :
      AllOrNothing ownerId before (raise .sqliteError message, after) ↔
        after.fileMetadata = before.fileMetadata ∧ after.usageLog = before.usageLog ∧
          after.deceptionEvents = before.deceptionEvents :=
    allOrNothing_raised.trans (protectedDataKept_iff kept sameAccounts)
  have start : AllOrNothing ownerId before (raise .sqliteError message, before) :=
    allOrNothing_raised.mpr (.refl ownerId before)
  have isGone := AccountRepository.exists_delete verified.accounts ownerId
  have deleted := @deleteAccount_of_verified crypto controller _ _ _ _ _ ran
  unfold deletionStates at deleted
  unfold NothingToLose
  split_ifs at deleted ⊢ with managed
  · rcases fault with _ | (_ | _ | _ | _ | _ | count)
    · rw [deletionWithFault_complete deleted message (by simp)]
      exact iff_of_true (allOrNothing_returned.mpr ⟨isGone, rfl, rfl, rfl⟩) nofun
    · rw [deletionWithFault_early deleted message (.inl rfl)]
      exact iff_of_true start (by simp)
    · rw [deletionWithFault_early deleted message (.inr (by simp))]
      exact (raised verified rfl).trans
        (iff_of_true ⟨fileMetadata, usageLog, deceptionEvents⟩ (by simp))
    · rw [deletionWithFault_early deleted message (.inr (by simp))]
      refine (raised { verified with fileMetadata := {} } rfl).trans ?_
      simp [usageLog, deceptionEvents, eq_comm]
    · rw [deletionWithFault_early deleted message (.inr (by simp))]
      refine (raised { verified with fileMetadata := {}, usageLog := [] } rfl).trans ?_
      simp [deceptionEvents, eq_comm]
    · rw [deletionWithFault_early deleted message (.inr (by simp))]
      refine (raised { verified with
        fileMetadata := {}, usageLog := [], deceptionEvents := [] } rfl).trans ?_
      simp [eq_comm]
    · rw [deletionWithFault_complete deleted message (fun late isLate => by
        obtain rfl := Option.some.inj isLate
        simp)]
      exact iff_of_true (allOrNothing_returned.mpr ⟨isGone, rfl, rfl, rfl⟩) (by simp)
  · have complete : AllOrNothing ownerId before (.ok (), { verified with
        accounts := verified.accounts.delete ownerId }) ↔ before.Cleared := by
      rw [allOrNothing_returned, and_iff_right isGone]
      constructor
      · intro all
        exact ⟨fileMetadata ▸ all.fileMetadata, usageLog ▸ all.usageLog,
          deceptionEvents ▸ all.deceptionEvents⟩
      · intro all
        exact ⟨fileMetadata.trans all.fileMetadata, usageLog.trans all.usageLog,
          deceptionEvents.trans all.deceptionEvents⟩
    rcases fault with _ | (_ | _ | count)
    · rw [deletionWithFault_complete deleted message (by simp)]
      exact complete.trans (by simp)
    · rw [deletionWithFault_early deleted message (.inl rfl)]
      exact iff_of_true start (by simp)
    · rw [deletionWithFault_early deleted message (.inr (by simp))]
      exact iff_of_true ((raised verified rfl).mpr ⟨fileMetadata, usageLog, deceptionEvents⟩)
        (by simp)
    · rw [deletionWithFault_complete deleted message (fun late isLate => by
        obtain rfl := Option.some.inj isLate
        simp)]
      exact complete.trans (by simp)

/-- A deletion is all or nothing exactly when its password is refused, or what it cleared before
the operation that failed was empty anyway. -/
theorem deleteAccount_allOrNothing_iff (crypto : Cryptography) (controller : AuthController)
    (clocks : CallClocks) (ownerId currentPassword : String) (before : Database)
    (fault : Option Nat) (message : String) :
    AllOrNothing ownerId before (AuthController.deletionWithFault crypto controller clocks ownerId
      currentPassword before fault message) ↔
      ¬ Returns ((AuthController.verifyPassword crypto clocks ownerId currentPassword).run
        before).outcome ∨ NothingToLose controller before fault := by
  rcases verifyPassword_cases crypto clocks ownerId currentPassword before with
    ⟨account, loaded, ran⟩ | ⟨commits, exc, refused, kept⟩
  · rw [allOrNothing_of_verified ran (.save loaded rfl rfl rfl rfl), ran]
    simp
  · refine iff_of_true (allOrNothing_of_refused refused kept fault message) (.inl ?_)
    rw [refused]
    exact not_returns_error exc

end Deletions

/-! ## A deletion that loses the metadata -/

/-- The database of a fresh account with one metadata record. -/
def recordedDatabase : Database :=
  { guessedDatabase with
    fileMetadata :=
      ({} : MetadataRepository).upsert (plainStored vaultCrypto (plainMetadata [] {} {})) }

/-- Where the usage log cannot be cleared, the metadata is lost and the account is not. -/
theorem failed_deletion_loses_metadata :
    ¬ AllOrNothing "owner" recordedDatabase (AuthController.deletionWithFault vaultCrypto {}
      wrongMethodClocks "owner" firstPassword recordedDatabase (some 2) "database is locked") := by
  have loaded : recordedDatabase.accounts.load "owner" = .ok (some guessedAccount) :=
    @AccountRepository.load_save_new {} guessedAccount rfl
  have verifies : PasswordHasher.verifyPassword vaultCrypto firstPassword
      (PasswordHasher.credentialFor vaultCrypto firstDraws.password firstPassword) = true := by
    simp [PasswordHasher.verifyPassword, PasswordHasher.credentialFor]
  have found : (AuthController.requireUnlockedAccount wrongMethodClocks "owner" .password).run
      recordedDatabase = ⟨[], .ok guessedAccount⟩ :=
    requireUnlockedAccount_of_unlocked loaded rfl rfl
  have ran : (AuthController.verifyPassword vaultCrypto wrongMethodClocks "owner"
      firstPassword).run recordedDatabase =
      ⟨[afterSuccess guessedAccount wrongMethodClocks.outcome recordedDatabase], .ok ()⟩ := by
    rw [AuthController.verifyPassword, Committing.run_bind_ok found]
    simp only [guessedAccount, verifies, if_true]
    rfl
  rw [allOrNothing_of_verified ran (.save loaded rfl rfl rfl rfl)]
  intro nothingToLose
  have empty := (nothingToLose 2 rfl (by decide)).1 le_rfl
  have held := MetadataRepository.load_upsert {} (plainStored vaultCrypto (plainMetadata [] {} {}))
  rw [show ({} : MetadataRepository).upsert _ = {} from empty] at held
  cases held

end CryptoUsb
