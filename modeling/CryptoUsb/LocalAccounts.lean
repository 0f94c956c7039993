import CryptoUsb.AttemptThrottle
import CryptoUsb.PasswordHashing

/-!
# Local accounts

An account holds one credential, a scrypt digest or an enrolled public key, and
its lockout state.  The repository keeps accounts as rows of texts; a saved
account is loaded as it was.
-/

namespace CryptoUsb

open ByteString JsonText IsoDateTime

inductive AuthMethod
  | password
  | privateKey
  deriving DecidableEq, Repr

def AuthMethod.value : AuthMethod → String
  | .password => "password"
  | .privateKey => "private_key"

structure PrivateKeyCredential where
  publicKeyPem : Bytes
  keyWrapSalt : Option Bytes := none
  deriving DecidableEq

namespace PrivateKeyCredential

def toDict (credential : PrivateKeyCredential) : Json :=
  .obj [
    ("public_key_pem", .str (Base64Text.b64encode credential.publicKeyPem)),
    ("key_wrap_salt", optBase64 credential.keyWrapSalt)]

def fromDict (data : Json) : Raises PrivateKeyCredential := do
  let keyWrapSalt ← getOr data "key_wrap_salt" .null
  let publicKeyPem ← asBase64 (← getItem data "public_key_pem")
  let keyWrapSalt ← asOptional asBase64 keyWrapSalt
  return { publicKeyPem, keyWrapSalt }

@[simp]
theorem fromDict_toDict (credential : PrivateKeyCredential) :
    fromDict credential.toDict = .ok credential := by
  simp [fromDict, toDict, getItem, getOr, memberLookup, pure, Except.pure]

theorem loads_dumps_toDict (credential : PrivateKeyCredential) :
    loads (dumps credential.toDict) = some credential.toDict := by
  refine loads_dumps _ ?_
  simp [toDict, FloatFree, FloatFreeMembers]

end PrivateKeyCredential

inductive Credential
  | password (credential : PasswordCredential)
  | privateKey (credential : PrivateKeyCredential)
  deriving DecidableEq

/-- The method that a credential is for: an account holds no credential of
another method than its own. -/
def Credential.method : Credential → AuthMethod
  | .password _ => .password
  | .privateKey _ => .privateKey

def Credential.toDict : Credential → Json
  | .password credential => credential.toDict
  | .privateKey credential => credential.toDict

@[ext]
structure UserAccount where
  ownerId : String
  credential : Credential
  createdAt : DateTime
  failedAttempts : Nat := 0
  lockedUntil : Option DateTime := none
  lastLoginAt : Option DateTime := none
  recoveryCodeHash : Option PasswordCredential := none
  deriving DecidableEq

def UserAccount.authMethod (account : UserAccount) : AuthMethod :=
  account.credential.method

/-! ## Lockout -/

namespace LockoutPolicy

def isLocked (account : UserAccount) (now : UtcInstant) : Raises Bool :=
  match account.lockedUntil with
  | none => .ok false
  | some lockedUntil =>
      match now.1.lessThan lockedUntil with
      | some answer => .ok answer
      | none => raise .typeError "can't compare offset-naive and offset-aware datetimes"

/-- Whole seconds until the end of the lockout. -/
def secondsRemaining (account : UserAccount) (now : UtcInstant) : Raises Int :=
  match account.lockedUntil with
  | none => .ok 0
  | some lockedUntil =>
      match lockedUntil.subtract now.1 with
      | some microseconds => .ok (max 0 (microseconds.tdiv ticksPerSecond))
      | none => raise .typeError "can't subtract offset-naive and offset-aware datetimes"

/-- `now + timedelta(seconds=seconds)`. -/
def lockedFor (now : UtcInstant) (seconds : Nat) : Raises DateTime :=
  match now.1.addTicks (ticksPerSecond * seconds) with
  | some lockedUntil => .ok lockedUntil
  | none => raise .overflowError "date value out of range"

/-- The thresholds are the ones of `lockoutSeconds`. -/
def registerFailure (account : UserAccount) (now : UtcInstant) : Raises UserAccount :=
  let counted := { account with failedAttempts := account.failedAttempts + 1 }
  match lockoutSeconds counted.failedAttempts with
  | none => .ok counted
  | some seconds => do
      let lockedUntil ← lockedFor now seconds
      return { counted with lockedUntil := some lockedUntil }

def registerSuccess (account : UserAccount) (now : UtcInstant) : UserAccount :=
  { account with
    failedAttempts := 0
    lockedUntil := none
    lastLoginAt := some now.1 }

/-- The account object after `register_failure`, also where that raised: the lock
stays where a new one would end past the last date-time. -/
def counted (account : UserAccount) (now : UtcInstant) : UserAccount :=
  { account with
    failedAttempts := account.failedAttempts + 1
    lockedUntil :=
      if maxFailedAttempts ≤ account.failedAttempts + 1 then
        (lockoutEndAfter (account.failedAttempts + 1) now).or account.lockedUntil
      else account.lockedUntil }

/-- Lockouts end at times of the clock. -/
def LockedByClock (account : UserAccount) : Prop :=
  ∀ lockedUntil ∈ account.lockedUntil, lockedUntil.utcoffset = some UtcOffset.utc

variable {account : UserAccount}

theorem isLocked_total (clock : LockedByClock account) (now : UtcInstant) :
    ∃ answer, isLocked account now = .ok answer := by
  unfold isLocked
  cases given : account.lockedUntil with
  | none => exact ⟨false, rfl⟩
  | some lockedUntil =>
      have offset := clock lockedUntil given
      obtain ⟨answer, compared⟩ :=
        DateTime.lessThan_isSome now.isAware (UtcInstant.isAware ⟨lockedUntil, offset⟩)
      exact ⟨answer, by simp [compared]⟩

/-- A lockout ends: at its end the account is not locked. -/
theorem exists_unlocked (clock : LockedByClock account) (start : UtcInstant) :
    ∃ now, isLocked account now = .ok false := by
  unfold isLocked
  cases given : account.lockedUntil with
  | none => exact ⟨start, rfl⟩
  | some lockedUntil =>
      have offset := clock lockedUntil given
      exact ⟨⟨lockedUntil, offset⟩, by simp [DateTime.lessThan, offset]⟩

theorem lockedByClock_registerSuccess (now : UtcInstant) :
    LockedByClock (registerSuccess account now) :=
  fun _ locked => nomatch locked

theorem utcoffset_lockedFor {now : UtcInstant} {seconds : Nat} {lockedUntil : DateTime}
    (ended : lockedFor now seconds = .ok lockedUntil) :
    lockedUntil.utcoffset = some UtcOffset.utc := by
  unfold lockedFor at ended
  split at ended
  case h_1 later moved =>
    obtain rfl := Except.ok.inj ended
    rw [DateTime.utcoffset_addTicks moved, now.2]
  case h_2 => cases ended

theorem lockedFor_eq_ok {failedAttempts seconds : Nat} {now : UtcInstant}
    {lockedUntil : DateTime} (due : lockoutSeconds failedAttempts = some seconds) :
    lockedFor now seconds = .ok lockedUntil ↔
      lockoutEndAfter failedAttempts now = some lockedUntil := by
  rw [lockoutEndAfter, (lockoutSeconds_eq_some.mp due).2, lockedFor]
  cases now.1.addTicks (ticksPerSecond * seconds) <;> simp

/-- A failure is registered exactly where its lockout ends at a date-time. -/
theorem registerFailure_eq_ok {now : UtcInstant} {registered : UserAccount} :
    registerFailure account now = .ok registered ↔
      registered = counted account now ∧
        (maxFailedAttempts ≤ account.failedAttempts + 1 →
          (lockoutEndAfter (account.failedAttempts + 1) now).isSome) := by
  unfold registerFailure counted
  dsimp only
  cases due : lockoutSeconds (account.failedAttempts + 1) with
  | none =>
      have notReached := lockoutSeconds_eq_none.mp due
      rw [if_neg notReached]
      constructor
      · intro result
        exact ⟨(Except.ok.inj result).symm, fun reached => absurd reached notReached⟩
      · rintro ⟨rfl, -⟩
        rfl
  | some seconds =>
      have reached := (lockoutSeconds_eq_some.mp due).1
      simp only [bind_eq_ok, lockedFor_eq_ok due, reached, if_true, forall_const]
      constructor
      · rintro ⟨lockedUntil, ended, result⟩
        rw [ended]
        exact ⟨(Except.ok.inj result).symm, rfl⟩
      · rintro ⟨rfl, ends⟩
        obtain ⟨lockedUntil, ended⟩ := Option.isSome_iff_exists.mp ends
        rw [ended]
        exact ⟨lockedUntil, rfl, rfl⟩

/-- What a counted failure leaves of an account. -/
structure CountsFailure (account counted : UserAccount) : Prop where
  ownerId : counted.ownerId = account.ownerId
  createdAt : counted.createdAt = account.createdAt
  credential : counted.credential = account.credential
  recoveryCodeHash : counted.recoveryCodeHash = account.recoveryCodeHash
  lockedByClock : LockedByClock account → LockedByClock counted

theorem registerFailure_counts {now : UtcInstant} {counted : UserAccount}
    (registered : registerFailure account now = .ok counted) : CountsFailure account counted := by
  unfold registerFailure at registered
  dsimp only at registered
  split at registered
  case h_1 =>
    obtain rfl := Except.ok.inj registered
    exact ⟨rfl, rfl, rfl, rfl, fun clock => clock⟩
  case h_2 seconds _ =>
    obtain ⟨lockedUntil, ended, result⟩ := bind_eq_ok.mp registered
    obtain rfl := Except.ok.inj result
    refine ⟨rfl, rfl, rfl, rfl, fun _ given isGiven => ?_⟩
    obtain rfl := Option.some.inj isGiven
    exact utcoffset_lockedFor ended

end LockoutPolicy

/-! ## The repository -/

/-- A row of the `accounts` table. -/
structure AccountRow where
  authMethod : String
  credentialJson : String
  failedAttempts : Nat
  lockedUntil : Option String
  createdAt : String
  lastLoginAt : Option String
  recoveryCodeHashJson : Option String
  deriving DecidableEq

/-- `read(text) if text else None`. -/
def readColumn {α : Type} (read : String → Raises α) : Option String → Raises (Option α)
  | none => .ok none
  | some text =>
      if text = "" then .ok none
      else do
        let value ← read text
        return some value

/-- The credential of the type that the method of the row names. -/
def readCredential (authMethod credentialJson : String) : Raises Credential :=
  if authMethod = AuthMethod.password.value then do
    let credential ← PasswordCredential.fromDict (← loadJson credentialJson)
    return .password credential
  else if authMethod = AuthMethod.privateKey.value then do
    let credential ← PrivateKeyCredential.fromDict (← loadJson credentialJson)
    return .privateKey credential
  else raise .valueError s!"'{authMethod}' is not a valid AuthMethod"

def readRecoveryCodeHash (text : String) : Raises PasswordCredential := do
  let data ← loadJson text
  PasswordCredential.fromDict data

def readDateTime (text : String) : Raises DateTime :=
  asDateTime (.str text)

structure AccountRepository where
  rows : AList (fun _ : String => AccountRow) := ∅

namespace AccountRepository

/-- Insert a row, or replace all of it but the time of its creation. -/
def save (repository : AccountRepository) (account : UserAccount) : AccountRepository where
  rows := repository.rows.insert account.ownerId
    { authMethod := account.authMethod.value
      credentialJson := dumps account.credential.toDict
      failedAttempts := account.failedAttempts
      lockedUntil := account.lockedUntil.map isoformat
      createdAt :=
        match repository.rows.lookup account.ownerId with
        | some row => row.createdAt
        | none => isoformat account.createdAt
      lastLoginAt := account.lastLoginAt.map isoformat
      recoveryCodeHashJson :=
        account.recoveryCodeHash.map fun credential => dumps credential.toDict }

def load (repository : AccountRepository) (ownerId : String) : Raises (Option UserAccount) :=
  match repository.rows.lookup ownerId with
  | none => .ok none
  | some row => do
      let credential ← readCredential row.authMethod row.credentialJson
      let recoveryCodeHash ← readColumn readRecoveryCodeHash row.recoveryCodeHashJson
      let lockedUntil ← readColumn readDateTime row.lockedUntil
      let createdAt ← readDateTime row.createdAt
      let lastLoginAt ← readColumn readDateTime row.lastLoginAt
      return some {
        ownerId
        credential
        failedAttempts := row.failedAttempts
        lockedUntil
        createdAt
        lastLoginAt
        recoveryCodeHash }

def «exists» (repository : AccountRepository) (ownerId : String) : Bool :=
  (repository.rows.lookup ownerId).isSome

def delete (repository : AccountRepository) (ownerId : String) : AccountRepository where
  rows := repository.rows.erase ownerId

end AccountRepository

/-! ## Loading what was saved -/

private theorem dumps_obj_ne_empty (members : List (String × Json)) :
    dumps (.obj members) ≠ "" := by
  intro empty
  have characters := congrArg String.toList empty
  cases members <;> simp [dumps, dumpsChars] at characters

theorem readColumn_map {α : Type} {read : String → Raises α} {write : α → String} {value : Option α}
    (nonempty : ∀ value, write value ≠ "") (reads : ∀ value, read (write value) = .ok value) :
    readColumn read (value.map write) = .ok value := by
  cases value with
  | none => rfl
  | some value => simp [readColumn, nonempty, reads, pure, Except.pure]

@[simp]
theorem readColumn_isoformat (dateTime : Option DateTime) :
    readColumn readDateTime (dateTime.map isoformat) = .ok dateTime :=
  readColumn_map isoformat_ne_empty asDateTime_isoformat

@[simp]
theorem readColumn_recoveryCodeHash (credential : Option PasswordCredential) :
    readColumn readRecoveryCodeHash (credential.map fun credential => dumps credential.toDict) =
      .ok credential := by
  refine readColumn_map (fun credential => dumps_obj_ne_empty _) fun credential => ?_
  simp [readRecoveryCodeHash, loadJson, credential.loads_dumps_toDict]

@[simp]
theorem readCredential_toDict (credential : Credential) :
    readCredential credential.method.value (dumps credential.toDict) = .ok credential := by
  cases credential with
  | password credential =>
      simp [readCredential, Credential.method, Credential.toDict, loadJson,
        credential.loads_dumps_toDict, pure, Except.pure]
  | privateKey credential =>
      simp [readCredential, Credential.method, AuthMethod.value, Credential.toDict, loadJson,
        credential.loads_dumps_toDict, pure, Except.pure]

namespace AccountRepository

variable {repository : AccountRepository} {account : UserAccount} {ownerId : String}

theorem load_save_new (isNew : repository.rows.lookup account.ownerId = none) :
    (repository.save account).load account.ownerId = .ok (some account) := by
  simp [load, save, isNew, UserAccount.authMethod, readDateTime, pure, Except.pure]

/-- A loaded account that keeps its name and its time of creation is loaded as it
was saved. -/
theorem load_save {stored : UserAccount} (loaded : repository.load ownerId = .ok (some stored))
    (sameOwner : account.ownerId = stored.ownerId)
    (sameCreation : account.createdAt = stored.createdAt) :
    (repository.save account).load account.ownerId = .ok (some account) := by
  unfold load at loaded
  cases found : repository.rows.lookup ownerId with
  | none => simp [found] at loaded
  | some row =>
      simp only [found, bind_eq_ok] at loaded
      obtain ⟨credential, -, recoveryCodeHash, -, lockedUntil, -, createdAt, created, lastLoginAt,
        -, result⟩ := loaded
      obtain rfl := Option.some.inj (Except.ok.inj result)
      rw [← show account.createdAt = createdAt from sameCreation] at created
      rw [← show account.ownerId = ownerId from sameOwner] at found
      simp [load, save, found, created, UserAccount.authMethod, pure, Except.pure]

theorem ownerId_of_load {stored : UserAccount}
    (loaded : repository.load ownerId = .ok (some stored)) : stored.ownerId = ownerId := by
  unfold load at loaded
  cases found : repository.rows.lookup ownerId with
  | none => simp [found] at loaded
  | some row =>
      simp only [found, bind_eq_ok] at loaded
      obtain ⟨credential, -, recoveryCodeHash, -, lockedUntil, -, createdAt, -, lastLoginAt, -,
        result⟩ := loaded
      obtain rfl := Option.some.inj (Except.ok.inj result)
      rfl

theorem lookup_of_not_exists (absent : repository.exists ownerId = false) :
    repository.rows.lookup ownerId = none := by
  simpa [«exists»] using absent

theorem exists_of_load {stored : UserAccount}
    (loaded : repository.load ownerId = .ok (some stored)) : repository.exists ownerId = true := by
  unfold load at loaded
  cases found : repository.rows.lookup ownerId with
  | none => simp [found] at loaded
  | some row => simp [«exists», found]

@[simp]
theorem exists_delete (repository : AccountRepository) (ownerId : String) :
    (repository.delete ownerId).exists ownerId = false := by
  simp [«exists», delete]

theorem load_of_not_exists (absent : repository.exists ownerId = false) :
    repository.load ownerId = .ok none := by
  simp [load, lookup_of_not_exists absent]

end AccountRepository

end CryptoUsb
