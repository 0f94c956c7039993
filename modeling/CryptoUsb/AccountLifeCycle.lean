import CryptoUsb.CredentialRotation
import CryptoUsb.TrackedSessions

/-!
# The life cycle of an account and its usage log

Calls on the account, its deletion and a new registration, and the trackers that
logins build, in any order.  A deletion clears the log, and the next account has
tracking keys of its own; a tracker from before the deletion still holds the old
ones.  As long as no such tracker appends, the log verifies for the latest login.
-/

namespace CryptoUsb

open ByteString CommitTraces IsoDateTime ProtectionKeys TransitionRuns

/-- A tracker that a login built, with the sessions that it holds in memory. -/
structure LoginTracker where
  keys : TrackingProtectionKeys
  sessions : List UsageRecord := []
  closed : List Nat := []

/-- The account with its database, the trackers that were built so far, the latest
last, and how many of them there were at the last deletion. -/
structure TrackedLife where
  account : AccountLife
  trackers : List LoginTracker := []
  retired : Nat := 0

inductive LifeEvent
  | called (event : AccountEvent)
  | deleted (outcome : Raises Unit)
  | tracked (event : TrackerEvent)

/-- Another log in the database. -/
def AccountLife.withLog (life : AccountLife) (usageLog : TrackingRepository) : AccountLife :=
  { life with database := { life.database with usageLog } }

/-- What a tracker works on: its sessions, and the log of the database. -/
def LoginTracker.view (tracker : LoginTracker) (database : Database) : TrackingState where
  sessions := tracker.sessions
  closed := tracker.closed
  repository := database.usageLog

namespace TrackedLife

/-- A load of the tracking keys builds a tracker. -/
def called (state : TrackedLife) (event : AccountEvent) (account : AccountLife) : TrackedLife :=
  { state with
    account
    trackers := state.trackers ++ (event.trackingKeys?.map fun keys => { keys := keys }).toList }

/-- A deletion that returns retires the trackers. -/
def deleted (state : TrackedLife) (trace : Trace Database PyError Unit) : TrackedLife :=
  match trace.outcome with
  | .ok _ => { state with
      account := { state.account with
        database := trace.finalState state.account.database
        current := [] }
      retired := state.trackers.length }
  | .error _ => { state with
      account := { state.account with database := trace.finalState state.account.database } }

def tracked (state : TrackedLife) (index : Nat) (keys : TrackingProtectionKeys)
    (after : TrackingState) : TrackedLife :=
  { state with
    account := state.account.withLog after.repository
    trackers := state.trackers.set index ⟨keys, after.sessions, after.closed⟩ }

/-- The trackers that were built since the last deletion. -/
def live (state : TrackedLife) : List LoginTracker :=
  state.trackers.drop state.retired

/-- The tracker was built since the last deletion. -/
def BuiltSinceDeletion (state : TrackedLife) (index : Nat) : Prop :=
  state.retired ≤ index

end TrackedLife

/-- One call on the account, a deletion, or a call on one of the trackers.  A tracker
appends to the log only where it may. -/
inductive LifeStep (crypto : Cryptography) {PrivateKey PublicKey : Type}
    (serialization : KeySerialization PrivateKey PublicKey) (ownerId : String)
    (secrets salts : Set Bytes) (totalSeconds : Int → PyFloat)
    (mayAppend : TrackedLife → Nat → Prop) : TrackedLife → LifeEvent → TrackedLife → Prop
  | call (state : TrackedLife) {event : AccountEvent} {account : AccountLife} :
      AccountStep crypto serialization ownerId secrets salts AccountLife.current state.account
        event account →
        LifeStep crypto serialization ownerId secrets salts totalSeconds mayAppend state
          (.called event) (state.called event account)
  | delete (state : TrackedLife) (clocks : CallClocks) (currentPassword : String)
      {trace : Trace Database PyError Unit} :
      encodeUtf8 currentPassword ∈ secrets →
      trace = (AuthController.deleteAccount crypto {} clocks ownerId currentPassword).run
        state.account.database →
        LifeStep crypto serialization ownerId secrets salts totalSeconds mayAppend state
          (.deleted trace.outcome) (state.deleted trace)
  | track (state : TrackedLife) {index : Nat} {tracker : LoginTracker} {event : TrackerEvent}
      {after : TrackingState} :
      state.trackers[index]? = some tracker → (event.finalizes = true → mayAppend state index) →
      TrackerStep crypto totalSeconds tracker.keys (tracker.view state.account.database) event
        after →
        LifeStep crypto serialization ownerId secrets salts totalSeconds mayAppend state
          (.tracked event) (state.tracked index tracker.keys after)

/-- The log verifies for the latest tracker, and for one that is built now with the vault
key of a login since the credentials were last set. -/
structure NoFalseAlarm (crypto : Cryptography) (state : TrackedLife) : Prop where
  latest : ∀ tracker ∈ state.trackers.getLast?,
    (UsageTracker.verifyLogIntegrity crypto tracker.keys
      (some state.account.database.usageLog)).ok = true
  built : ∀ vaultKey ∈ state.account.current, ∀ draws, ∃ keys commits,
    (loadOrCreateTrackingProtectionKeys crypto draws vaultKey).run state.account.database =
        ⟨commits, .ok keys⟩ ∧
      (UsageTracker.verifyLogIntegrity crypto keys
        (some (commits.getLast?.getD state.account.database).usageLog)).ok = true

/-- No account, no tracker since the deletion, and an empty log; or an open account
whose live trackers all hold the tracking keys that the log is sealed under. -/
inductive LogInOrder (crypto : Cryptography) (ownerId : String) (secrets salts : Set Bytes)
    (state : TrackedLife) : Prop
  | absent : AccountAbsent crypto ownerId state.account →
      state.retired = state.trackers.length → state.account.database.usageLog = [] →
        LogInOrder crypto ownerId secrets salts state
  | opened (credentials : Credentials) (vmk : Bytes) :
      AccountOpen crypto ownerId secrets salts credentials vmk state.account →
      state.retired ≤ state.trackers.length →
      (∀ tracker ∈ state.live,
        HoldsKeys crypto state.account.database trackingEncryptionKey trackingHmacKey vmk
            (tracker.keys.encryptionKey, tracker.keys.hmacKey) ∧
          ∃ records, SealedLog crypto tracker.keys state.account.database.usageLog records) →
      (state.live = [] → state.account.database.usageLog = []) →
        LogInOrder crypto ownerId secrets salts state

section LifeCycles

variable {crypto : Cryptography} {PrivateKey PublicKey : Type}
  {serialization : KeySerialization PrivateKey PublicKey} {ownerId : String}
  {secrets salts : Set Bytes} {totalSeconds : Int → PyFloat} {credentials : Credentials}
  {vmk : Bytes} {state next : TrackedLife} {event : LifeEvent} {life : AccountLife}
  {database : Database} {account : UserAccount}

/-! ## Deletion -/

/-- A deletion with the current password clears the metadata and the log and removes the
account; with another password it is refused. -/
theorem deleteAccount_run (separates : crypto.ScryptSeparates secrets salts)
    (known : credentials.Known secrets salts)
    (loaded : database.accounts.load ownerId = .ok (some account))
    (enrolled : Enrolled crypto ownerId credentials account) (clocks : CallClocks)
    {candidate : String} (isCandidate : encodeUtf8 candidate ∈ secrets) :
    (∃ commits after,
      (AuthController.deleteAccount crypto {} clocks ownerId candidate).run database =
          ⟨commits ++ [after], .ok ()⟩ ∧
        after.accounts.exists ownerId = false ∧ after.appMeta = database.appMeta ∧
        after.usageLog = []) ∨
      ((LockoutPolicy.isLocked account clocks.lock = .ok true ∨
          candidate ≠ credentials.password) ∧
        Refuses account database
          (AuthController.deleteAccount crypto {} clocks ownerId candidate)) := by
  rcases verifyPassword_run separates known loaded enrolled clocks isCandidate with
    ⟨-, verified⟩ | ⟨blocked, refuses⟩
  · let verifiedState := afterSuccess account clocks.outcome database
    let emptied : Database := { verifiedState with fileMetadata := {} }
    let unlogged : Database := { emptied with usageLog := [] }
    let cleared : Database := { unlogged with deceptionEvents := [] }
    let after : Database := { cleared with accounts := cleared.accounts.delete ownerId }
    refine .inl ⟨[verifiedState, emptied, unlogged, cleared], after, ?_,
      AccountRepository.exists_delete _ _, rfl, rfl⟩
    rw [AuthController.deleteAccount, Committing.run_bind_commit verified]
    rfl
  · exact .inr ⟨blocked, refuses.bind_of⟩

/-! ## Logs and trackers -/

theorem AccountOpen.withLog
    (opened : AccountOpen crypto ownerId secrets salts credentials vmk life)
    (usageLog : TrackingRepository) :
    AccountOpen crypto ownerId secrets salts credentials vmk (life.withLog usageLog) where
  known := opened.known
  vault := ⟨opened.vault.account, opened.vault.passwordSlot, opened.vault.recoverySlot⟩
  slots := opened.slots
  current := opened.current

theorem AccountAbsent.withLog (absent : AccountAbsent crypto ownerId life)
    (usageLog : TrackingRepository) : AccountAbsent crypto ownerId (life.withLog usageLog) :=
  ⟨absent.isNew, absent.passwordSlot, absent.slots, absent.current⟩

theorem TrackerStep.repository_eq {keys : TrackingProtectionKeys} {before after : TrackingState}
    {event : TrackerEvent} (stepped : TrackerStep crypto totalSeconds keys before event after)
    (notFinal : event.finalizes = false) : after.repository = before.repository := by
  cases stepped with
  | start => rfl
  | note => rfl
  | close => cases notFinal
  | rebind => cases notFinal

/-- The log verifies where it is in order. -/
theorem LogInOrder.noFalseAlarm (laws : crypto.AesGcmLaws) (total : crypto.EncryptsAll)
    (order : LogInOrder crypto ownerId secrets salts state) : NoFalseAlarm crypto state := by
  have empty {keys : TrackingProtectionKeys} {usageLog : TrackingRepository}
      (isEmpty : usageLog = []) :
      (UsageTracker.verifyLogIntegrity crypto keys (some usageLog)).ok = true := by
    rw [isEmpty, SealedLog.empty.verifies]
  have lastLive {tracker : LoginTracker} (isLast : tracker ∈ state.trackers.getLast?)
      (nonempty : state.live ≠ []) : tracker ∈ state.live := by
    have same : state.live.getLast? = state.trackers.getLast? := by
      rw [TrackedLife.live, List.getLast?_drop, if_neg]
      exact fun short => nonempty (List.drop_eq_nil_of_le short)
    exact List.mem_of_getLast? (same.trans isLast)
  cases order with
  | absent absent noLive noLog =>
      refine ⟨fun tracker isLast => empty noLog, fun vaultKey member => ?_⟩
      rw [absent.current] at member
      exact absurd member List.not_mem_nil
  | opened credentials vmk opened retired trackers noLog =>
      constructor
      · intro tracker isLast
        by_cases noLive : state.live = []
        · exact empty (noLog noLive)
        · obtain ⟨-, records, sealed⟩ := trackers tracker (lastLive isLast noLive)
          rw [sealed.verifies]
      · intro vaultKey member draws
        obtain rfl := opened.current vaultKey member
        obtain ⟨keys, commits, after, ran, rfl, holds, -, same, unique⟩ :=
          loadOrCreateKeys_run laws total (by decide) draws opened.vault.passwordSlot
            (opened.slots trackingEncryptionKey (by decide))
            (opened.slots trackingHmacKey (by decide))
        refine ⟨⟨keys.1, keys.2⟩, commits, ?_, ?_⟩
        · rw [loadOrCreateTrackingProtectionKeys, Committing.run_bind_pure, ran]
          rfl
        · rw [same.usageLog]
          cases live : state.live with
          | nil => exact empty (noLog live)
          | cons tracker rest =>
              have isLive : tracker ∈ state.live := by rw [live]; exact List.mem_cons_self ..
              obtain ⟨held, records, sealed⟩ := trackers tracker isLive
              obtain rfl := unique _ held
              exact congrArg ChainVerificationResult.ok sealed.verifies

/-! ## Steps -/

theorem TrackedLife.called_of_none {event : AccountEvent} {account : AccountLife}
    (noTracker : event.trackingKeys? = none) :
    state.called event account = { state with account } := by
  simp [TrackedLife.called, noTracker]

/-- A call that builds no tracker and keeps the log and the tracking keys. -/
theorem LogInOrder.kept {account : AccountLife}
    (opened : AccountOpen crypto ownerId secrets salts credentials vmk account)
    (retired : state.retired ≤ state.trackers.length)
    (trackers : ∀ tracker ∈ state.live,
      HoldsKeys crypto state.account.database trackingEncryptionKey trackingHmacKey vmk
          (tracker.keys.encryptionKey, tracker.keys.hmacKey) ∧
        ∃ records, SealedLog crypto tracker.keys state.account.database.usageLog records)
    (noLog : state.live = [] → state.account.database.usageLog = [])
    {keys : List String} (same : SameBut keys state.account.database account.database)
    (encryptionApart : trackingEncryptionKey ∉ keys) (hmacApart : trackingHmacKey ∉ keys) :
    LogInOrder crypto ownerId secrets salts { state with account } := by
  refine .opened credentials vmk opened retired (fun tracker isLive => ?_) fun noLive => ?_
  · obtain ⟨holds, sealed⟩ := trackers tracker isLive
    exact ⟨(same.holdsKeys encryptionApart hmacApart).mpr holds, same.usageLog ▸ sealed⟩
  · exact same.usageLog.trans (noLog noLive)

/-- A call on the account keeps the log in order. -/
theorem LogInOrder.call (laws : crypto.AesGcmLaws) (total : crypto.EncryptsAll)
    (separates : crypto.ScryptSeparates secrets salts)
    (order : LogInOrder crypto ownerId secrets salts state) {event : AccountEvent}
    {account : AccountLife}
    (stepped : AccountStep crypto serialization ownerId secrets salts AccountLife.current
      state.account event account) :
    LogInOrder crypto ownerId secrets salts (state.called event account) := by
  cases order with
  | absent absent retired noLog =>
      cases absent.step laws total stepped with
      | refused isNotLoader stillAbsent unchanged =>
          rw [TrackedLife.called_of_none rfl]
          exact .absent stillAbsent retired (by rw [unchanged]; exact noLog)
      | registered draws clock password opened same isDrawn =>
          rw [TrackedLife.called_of_none rfl]
          have noLive : state.live = [] := List.drop_eq_nil_of_le retired.ge
          refine .opened _ _ opened retired.le (fun tracker isLive => ?_) fun _ =>
            same.usageLog.trans noLog
          have isOld : tracker ∈ state.live := isLive
          rw [noLive] at isOld
          exact absurd isOld List.not_mem_nil
  | opened credentials vmk opened retired trackers noLog =>
      cases opened.step laws total separates stepped with
      | kept isNotLoader noCredentials noMetadata noTracking stillOpen same =>
          rw [TrackedLife.called_of_none (AccountEvent.trackingKeys?_eq_none noTracking)]
          exact .kept stillOpen retired trackers noLog same (by simp) (by simp)
      | changed draws clocks newPassword rotated same =>
          rw [TrackedLife.called_of_none rfl]
          exact .kept rotated retired trackers noLog same (by decide) (by decide)
      | reset draws clocks newPassword rotated same =>
          rw [TrackedLife.called_of_none rfl]
          exact .kept rotated retired trackers noLog same (by decide) (by decide)
      | loadedMetadata draws vaultKey stillOpen holds unique same =>
          rw [TrackedLife.called_of_none rfl]
          exact .kept stillOpen retired trackers noLog same (by decide) (by decide)
      | @loadedTracking draws vaultKey keys _ stillOpen holds unique same =>
          -- The new tracker gets the keys of the live ones.
          have live : (state.called ⟨.loadTrackingKeys draws vaultKey, .ok (.trackingKeys keys)⟩
              account).live = state.live ++ [{ keys := keys }] :=
            List.drop_append_of_le_length retired
          refine .opened credentials vmk stillOpen ?_ ?_ ?_
          · exact retired.trans (by simp [TrackedLife.called])
          · rw [live]
            intro tracker isLive
            have sealedLog : ∃ records, SealedLog crypto keys state.account.database.usageLog
                records := by
              cases earlier : state.live with
              | nil => exact ⟨[], noLog earlier ▸ SealedLog.empty⟩
              | cons other rest =>
                  obtain ⟨held, sealed⟩ := trackers other (by rw [earlier]; simp)
                  obtain rfl : keys = other.keys := TrackingProtectionKeys.ext
                    (congrArg Prod.fst (unique _ held)) (congrArg Prod.snd (unique _ held))
                  exact sealed
            have sameKeys : tracker.keys = keys := by
              rcases List.mem_append.mp isLive with earlier | new
              · have held := unique _ (trackers tracker earlier).1
                exact TrackingProtectionKeys.ext (congrArg Prod.fst held).symm
                  (congrArg Prod.snd held).symm
              · rw [List.mem_singleton.mp new]
            rw [sameKeys]
            exact ⟨holds, same.usageLog ▸ sealedLog⟩
          · rw [live]
            exact fun noLive => absurd noLive (by simp)

theorem ProtectionKeys.SlotWellFormed.of_appMeta {first second : Database} {key : String}
    (same : second.appMeta = first.appMeta) (wellFormed : SlotWellFormed crypto first key) :
    SlotWellFormed crypto second key := by
  have sameSlot : SameSlot second first key := ⟨by rw [same], by rw [same]⟩
  exact sameSlot.wellFormed.mpr wellFormed

theorem AccountOpen.absent_after
    (opened : AccountOpen crypto ownerId secrets salts credentials vmk life) {after : Database}
    (isGone : after.accounts.exists ownerId = false)
    (sameMeta : after.appMeta = life.database.appMeta) :
    AccountAbsent crypto ownerId { life with database := after, current := [] } where
  isNew := isGone
  passwordSlot := .of_appMeta sameMeta (.inr ⟨_, _, opened.vault.passwordSlot⟩)
  slots := fun key member => .of_appMeta sameMeta (opened.slots key member)
  current := rfl

theorem TrackedLife.deleted_of_returned {commits : List Database} {after : Database} :
    state.deleted ⟨commits ++ [after], .ok ()⟩ = { state with
      account := { state.account with database := after, current := [] }
      retired := state.trackers.length } := by
  simp [TrackedLife.deleted]

/-- A deletion clears the log and retires the trackers, or is refused. -/
theorem LogInOrder.delete (separates : crypto.ScryptSeparates secrets salts)
    (order : LogInOrder crypto ownerId secrets salts state) (clocks : CallClocks)
    {candidate : String} (isCandidate : encodeUtf8 candidate ∈ secrets) :
    LogInOrder crypto ownerId secrets salts (state.deleted
      ((AuthController.deleteAccount crypto {} clocks ownerId candidate).run
        state.account.database)) := by
  cases order with
  | absent absent retired noLog =>
      obtain ⟨error, ran⟩ := requireUnlockedAccount_absent absent.isNew clocks .password
      have refused : (AuthController.deleteAccount crypto {} clocks ownerId candidate).run
          state.account.database = ⟨[], .error error⟩ :=
        Committing.run_bind_error (Committing.run_bind_error ran)
      rw [refused]
      exact .absent absent retired noLog
  | opened credentials vmk opened retired trackers noLog =>
      obtain ⟨account, loaded, enrolled⟩ := opened.vault.account
      rcases deleteAccount_run separates opened.known loaded enrolled clocks isCandidate with
        ⟨commits, after, ran, isGone, sameMeta, cleared⟩ | ⟨-, commits, error, ran, failures⟩
      · rw [ran, TrackedLife.deleted_of_returned]
        exact .absent (opened.absent_after isGone sameMeta) rfl cleared
      · rw [ran]
        have reached : VaultState crypto ownerId credentials vmk
              ((⟨commits, .error error⟩ : Trace Database PyError Unit).finalState
                state.account.database) ∧
            SameBut [] state.account.database
              ((⟨commits, .error error⟩ : Trace Database PyError Unit).finalState
                state.account.database) := by
          rcases Trace.finalState_mem (⟨commits, .error error⟩ : Trace Database PyError Unit)
            state.account.database with unchanged | committed
          · rw [unchanged]
            exact ⟨opened.vault, .refl _ _⟩
          · exact opened.vault.failures loaded enrolled failures committed
        exact .kept (opened.of_same reached.1 reached.2 opened.current) retired trackers noLog
          reached.2 (by simp) (by simp)

theorem TrackedLife.live_of_getElem? {index : Nat} {tracker : LoginTracker}
    (present : state.trackers[index]? = some tracker) (isLive : state.retired ≤ index) :
    tracker ∈ state.live := by
  refine List.mem_of_getElem? (i := index - state.retired) ?_
  rw [TrackedLife.live, List.getElem?_drop, Nat.add_sub_cancel' isLive, present]

/-- A call on a tracker keeps the log in order, as long as only live trackers append. -/
theorem LogInOrder.track (laws : crypto.AesGcmLaws)
    (order : LogInOrder crypto ownerId secrets salts state) {index : Nat}
    {tracker : LoginTracker} {event : TrackerEvent} {after : TrackingState}
    (present : state.trackers[index]? = some tracker)
    (mayAppend : event.finalizes = true → state.BuiltSinceDeletion index)
    (stepped : TrackerStep crypto totalSeconds tracker.keys
      (tracker.view state.account.database) event after) :
    LogInOrder crypto ownerId secrets salts (state.tracked index tracker.keys after) := by
  have inRange : index < state.trackers.length := (List.getElem?_eq_some_iff.mp present).1
  have untouched (isRetired : index < state.retired) :
      after.repository = state.account.database.usageLog := by
    refine stepped.repository_eq (Bool.eq_false_iff.mpr fun finalizes => ?_)
    exact absurd (mayAppend finalizes) (Nat.not_le_of_lt isRetired)
  cases order with
  | absent absent retired noLog =>
      refine .absent (absent.withLog _) ?_ ((untouched (retired ▸ inRange)).trans noLog)
      simpa [TrackedLife.tracked] using retired
  | opened credentials vmk opened retired trackers noLog =>
      refine .opened credentials vmk (opened.withLog _) (by simpa [TrackedLife.tracked] using retired)
        ?_ ?_
      · intro other isLive
        by_cases isRetired : index < state.retired
        · have sameLive : (state.tracked index tracker.keys after).live = state.live :=
            List.drop_set_of_lt isRetired
          rw [sameLive] at isLive
          obtain ⟨holds, sealed⟩ := trackers other isLive
          refine ⟨⟨holds.encryptionKey, holds.hmacKey⟩, ?_⟩
          rwa [← untouched isRetired] at sealed
        · have member := TrackedLife.live_of_getElem? present (Nat.le_of_not_lt isRetired)
          obtain ⟨holds, records, sealed⟩ := trackers tracker member
          have appended : SealedLog crypto tracker.keys after.repository _ :=
            SealedLog.step sealed stepped
          have sameKeys : other.keys = tracker.keys := by
            have inside : other ∈ (state.trackers.set index
                ⟨tracker.keys, after.sessions, after.closed⟩).drop state.retired := isLive
            rw [List.drop_set, if_neg isRetired] at inside
            rcases List.mem_or_eq_of_mem_set inside with earlier | rfl
            · have held := (trackers other earlier).1.unique laws holds
              exact TrackingProtectionKeys.ext (congrArg Prod.fst held) (congrArg Prod.snd held)
            · rfl
          rw [sameKeys]
          exact ⟨⟨holds.encryptionKey, holds.hmacKey⟩, _, appended⟩
      · intro noLive
        have isRetired : index < state.retired := by
          by_contra isLive
          have short := List.drop_eq_nil_iff.mp noLive
          simp only [TrackedLife.tracked, List.length_set] at short
          omega
        have sameLive : (state.tracked index tracker.keys after).live = state.live :=
          List.drop_set_of_lt isRetired
        exact (untouched isRetired).trans (noLog (sameLive.symm.trans noLive))

/-- Along every run in which no tracker from before a deletion appends to the log, the log
verifies for the latest login. -/
theorem no_false_tamper_alarm (laws : crypto.AesGcmLaws) (total : crypto.EncryptsAll)
    (separates : crypto.ScryptSeparates secrets salts)
    (absent : AccountAbsent crypto ownerId { database }) (emptyLog : database.usageLog = [])
    {events : List LifeEvent}
    (run : Run (LifeStep crypto serialization ownerId secrets salts totalSeconds
      TrackedLife.BuiltSinceDeletion) { account := { database } } events state) :
    NoFalseAlarm crypto state := by
  refine (run.invariant (LogInOrder crypto ownerId secrets salts) (fun order stepped => ?_)
    (.absent absent rfl emptyLog)).noFalseAlarm laws total
  cases stepped with
  | call stepped => exact order.call laws total separates stepped
  | delete clocks currentPassword isSecret ran =>
      subst ran
      exact order.delete separates clocks isSecret
  | track present mayAppend stepped => exact order.track laws present mayAppend stepped

/-! ## A login that builds a tracker -/

variable (serialization) in
/-- Where the tracking slots do not open, a load with a current vault key draws the keys. -/
theorem AccountOpen.builds_tracker (laws : crypto.AesGcmLaws) (total : crypto.EncryptsAll)
    (separates : crypto.ScryptSeparates secrets salts)
    (opened : AccountOpen crypto ownerId secrets salts credentials vmk life)
    (draws : ProtectionKeyDraws) (isCurrent : credentials.vaultKey crypto ∈ life.current)
    (closed : loadWrapped crypto life.database.appMeta trackingEncryptionKey vmk = .ok none) :
    ∃ event account,
      AccountStep crypto serialization ownerId secrets salts AccountLife.current life event
          account ∧
        event.trackingKeys? = some (generateTrackingKeys draws.entropy) ∧
        AccountOpen crypto ownerId secrets salts credentials vmk account ∧
        HoldsKeys crypto account.database trackingEncryptionKey trackingHmacKey vmk
          (draws.entropy.encryptionKey.1, draws.entropy.hmacKey.1) ∧
        account.database.usageLog = life.database.usageLog := by
  obtain ⟨hmacKey, hmacLoaded⟩ : ∃ hmacKey,
      loadWrapped crypto life.database.appMeta trackingHmacKey vmk = .ok hmacKey := by
    rcases (opened.slots trackingHmacKey (by decide)).load laws vmk with closed | ⟨key, found, -⟩
    · exact ⟨_, closed⟩
    · exact ⟨_, found⟩
  obtain ⟨between, after, ran, -⟩ := loadOrCreateKeys_new laws total (by decide) draws
    opened.vault.passwordSlot closed hmacLoaded (.inl rfl)
  have called : ((AccountCall.loadTrackingKeys draws (credentials.vaultKey crypto)).transaction
      crypto serialization ownerId).run life.database =
        ⟨[between, after], .ok (.trackingKeys (generateTrackingKeys draws.entropy))⟩ := by
    rw [AccountCall.transaction, Committing.run_bind_pure, loadOrCreateTrackingProtectionKeys,
      Committing.run_bind_pure, ran]
    rfl
  have stepped : AccountStep crypto serialization ownerId secrets salts AccountLife.current life
      ⟨.loadTrackingKeys draws (credentials.vaultKey crypto),
        .ok (.trackingKeys (generateTrackingKeys draws.entropy))⟩
      (life.after ⟨[between, after], .ok (.trackingKeys (generateTrackingKeys draws.entropy))⟩) :=
    { within := .of_draws_eq_none rfl (by simp [AccountCall.secrets])
      usable := by
        rintro _ ⟨rfl⟩
        exact isCurrent
      outcome := congrArg Trace.outcome called.symm
      next := congrArg life.after called.symm }
  cases opened.step laws total separates stepped with
  | kept isNotLoader => cases isNotLoader
  | loadedTracking _ _ stillOpen holds unique same =>
      exact ⟨_, _, stepped, rfl, stillOpen, holds, same.usageLog⟩

variable (serialization) (totalSeconds) in
/-- The owner signs in, and the login builds a tracker with drawn keys. -/
theorem AccountOpen.login_builds_tracker (laws : crypto.AesGcmLaws) (total : crypto.EncryptsAll)
    (separates : crypto.ScryptSeparates secrets salts) (mayAppend : TrackedLife → Nat → Prop)
    (opened : AccountOpen crypto ownerId secrets salts credentials vmk state.account)
    (draws : ProtectionKeyDraws) (salt : BytesOf PasswordHasher.saltLenBytes) (clock : UtcInstant)
    (closed : loadWrapped crypto state.account.database.appMeta trackingEncryptionKey vmk =
      .ok none) :
    ∃ events account,
      Run (LifeStep crypto serialization ownerId secrets salts totalSeconds mayAppend) state
          events { state with
            account
            trackers := state.trackers ++ [{ keys := generateTrackingKeys draws.entropy }] } ∧
        AccountOpen crypto ownerId secrets salts credentials vmk account ∧
        HoldsKeys crypto account.database trackingEncryptionKey trackingHmacKey vmk
          (draws.entropy.encryptionKey.1, draws.entropy.hmacKey.1) ∧
        account.database.usageLog = state.account.database.usageLog := by
  obtain ⟨clocks, signedIn, signInStep, signedInOpen, isCurrent, -⟩ := opened.signIn_exists
    serialization separates AccountLife.current salt clock
  cases opened.step laws total separates signInStep with
  | kept _ _ _ _ _ same =>
      have stillClosed : loadWrapped crypto signedIn.database.appMeta trackingEncryptionKey vmk =
          .ok none := by
        obtain ⟨nonceRows, ciphertextRows⟩ := same.slots trackingEncryptionKey (by simp)
        unfold loadWrapped at closed ⊢
        rwa [nonceRows, ciphertextRows]
      obtain ⟨event, account, built, isTracker, stillOpen, holds, sameLog⟩ :=
        signedInOpen.builds_tracker serialization laws total separates draws isCurrent stillClosed
      have first : LifeStep crypto serialization ownerId secrets salts totalSeconds mayAppend state
          _ _ := .call state signInStep
      rw [TrackedLife.called_of_none rfl] at first
      have second : LifeStep crypto serialization ownerId secrets salts totalSeconds mayAppend
          { state with account := signedIn } _ _ := .call _ built
      simp only [TrackedLife.called, isTracker] at second
      exact ⟨_, account, (Run.single first).tail second, stillOpen, holds,
        sameLog.trans same.usageLog⟩

/-- A log that was sealed under other keys does not verify, where the tags of both keys
differ. -/
theorem SealedLog.not_verifies {keys others : TrackingProtectionKeys}
    {repository : TrackingRepository} {records : List UsageRecord}
    (log : SealedLog crypto keys repository records) (nonempty : records ≠ [])
    (tags : ∀ data, HmacUtil.computeHmac crypto others.hmacKey data ≠
      HmacUtil.computeHmac crypto keys.hmacKey data) :
    (UsageTracker.verifyLogIntegrity crypto others (some repository)).ok = false := by
  refine Bool.eq_false_iff.mpr fun verified => ?_
  obtain ⟨-, entries⟩ := TamperEvidentLog.verifyChain_ok.mp verified
  have sealed := log.sealed
  cases listed : repository.listEntries with
  | nil =>
      rw [listed] at sealed
      cases sealed
      exact nonempty rfl
  | cons entry rest =>
      rw [listed] at sealed entries
      cases sealed with
      | cons first _ =>
          have own := entries entry (List.mem_cons_self ..)
          rw [TamperEvidentLog.verifyEntry, HmacUtil.verifyHmac, decide_eq_true_eq,
            first.entryHmac] at own
          exact tags _ own

end LifeCycles

/-! ## A session from before the deletion -/

abbrev PlainLifeStep (mayAppend : TrackedLife → Nat → Prop) :
    TrackedLife → LifeEvent → TrackedLife → Prop :=
  LifeStep vaultCrypto plainSerialization "owner" { secret | secret ∈ plainSecrets }
    { salt | salt ∈ plainSalts } wholeSeconds mayAppend

def secondKeyDraws : ProtectionKeyDraws where
  vault := ⟨padTo 32 [12], plainNonce⟩
  entropy := ⟨padTo 32 [13], padTo 32 [14]⟩
  encryptionNonce := plainNonce
  hmacNonce := plainNonce

def plainSession : UsageRecord :=
  UsageTracker.startSession "user" "machine" "f" none (padTo 16 []) plainInstant

/-- The tracker of the first login, with a session that is still open. -/
def openTracker : LoginTracker where
  keys := generateTrackingKeys plainKeyDraws.entropy
  sessions := [plainSession]

/-- Register, sign in, and start a session. -/
theorem plainSession_started (mayAppend : TrackedLife → Nat → Prop) : ∃ events account,
    Run (PlainLifeStep mayAppend) { account := { database := {} } } events
        { account, trackers := [openTracker] } ∧
      AccountOpen vaultCrypto "owner" { secret | secret ∈ plainSecrets }
        { salt | salt ∈ plainSalts } (.drawn firstDraws firstPassword) firstDraws.vault.vmk.1
        account ∧
      HoldsKeys vaultCrypto account.database trackingEncryptionKey trackingHmacKey
        firstDraws.vault.vmk.1
        (plainKeyDraws.entropy.encryptionKey.1, plainKeyDraws.entropy.hmacKey.1) ∧
      account.database.usageLog = [] := by
  have absent : AccountAbsent vaultCrypto "owner" { database := {} } := freshDatabase.absent
  obtain ⟨vmk, registered, registerStep, opened, same, isDrawn⟩ := absent.register_exists
    plainSerialization vaultCrypto_aesGcmLaws vaultCrypto_encryptsAll AccountLife.current
    plainInstant firstDraws_within firstPassword_acceptable
  obtain rfl := isDrawn (by simp [loadWrapped, freshDatabase.slots _ (List.mem_cons_self ..)])
  have closed : loadWrapped vaultCrypto registered.database.appMeta trackingEncryptionKey
      firstDraws.vault.vmk.1 = .ok none := by
    have emptySlot := freshDatabase.slots trackingEncryptionKey (by decide)
    rw [← (same.slots trackingEncryptionKey (by decide)).1] at emptySlot
    simp [loadWrapped, emptySlot]
  have first : PlainLifeStep mayAppend { account := { database := {} } } _ _ :=
    .call _ registerStep
  let start : TrackedLife := { account := registered }
  have startOpen : AccountOpen vaultCrypto "owner" _ _ _ _ start.account := opened
  obtain ⟨events, account, login, stillOpen, holds, sameLog⟩ :=
    startOpen.login_builds_tracker plainSerialization wholeSeconds vaultCrypto_aesGcmLaws
      vaultCrypto_encryptsAll vaultCrypto_separates mayAppend plainKeyDraws (numberedSalt 0)
      plainInstant closed
  let built : TrackedLife :=
    { account, trackers := [{ keys := generateTrackingKeys plainKeyDraws.entropy }] }
  have present : built.trackers[0]? = some { keys := generateTrackingKeys plainKeyDraws.entropy } :=
    rfl
  have started : PlainLifeStep mayAppend built (.tracked .noted) _ :=
    .track built present (fun finalizes => absurd finalizes Bool.false_ne_true)
      (.start _ "user" "machine" "f" none (padTo 16 []) plainInstant)
  exact ⟨_, account, ((Run.single first).append login).tail started, stillOpen, holds,
    sameLog.trans same.usageLog⟩

/-- The session is closed, and its record is sealed under the keys of its tracker. -/
theorem openTracker_closes {mayAppend : TrackedLife → Nat → Prop} {state : TrackedLife}
    (present : state.trackers[0]? = some openTracker) (may : mayAppend state 0)
    (emptyLog : state.account.database.usageLog = []) : ∃ event after record,
    PlainLifeStep mayAppend state event (state.tracked 0 openTracker.keys after) ∧
      SealedLog vaultCrypto openTracker.keys after.repository [record] := by
  have size : openTracker.keys.encryptionKey.length = AesCipher.aesKeySizeBytes :=
    plainKeyDraws.entropy.encryptionKey.2
  obtain ⟨repository, appended⟩ := appendRecord_total vaultCrypto_encryptsAll size plainNonce
    { plainSession with closeTime := some plainInstant.1 } []
  have closed : UsageTracker.recordClose vaultCrypto wholeSeconds openTracker.keys plainInstant
      plainNonce plainSession (some state.account.database.usageLog) =
        .ok ({ plainSession with closeTime := some plainInstant.1 }, repository) := by
    rw [emptyLog, UsageTracker.recordClose]
    exact congrArg (Except.map _) appended
  have isOpen : (openTracker.view state.account.database).sessions[0]? = some plainSession := rfl
  have step : TrackerStep vaultCrypto wholeSeconds openTracker.keys
      (openTracker.view state.account.database) _ _ :=
    .close _ plainInstant plainNonce isOpen List.not_mem_nil closed.symm
  have emptyView : SealedLog vaultCrypto openTracker.keys
      (openTracker.view state.account.database).repository [] := by
    rw [show (openTracker.view state.account.database).repository = [] from emptyLog]
    exact .empty
  exact ⟨_, _, _, .track state present (fun _ => may) step, emptyView.step step⟩

theorem no_false_tamper_alarm_plain : ∃ events state tracker,
    Run (PlainLifeStep TrackedLife.BuiltSinceDeletion) { account := { database := {} } } events
        state ∧
      state.trackers.getLast? = some tracker ∧ state.account.database.usageLog ≠ [] ∧
      (UsageTracker.verifyLogIntegrity vaultCrypto tracker.keys
        (some state.account.database.usageLog)).ok = true := by
  obtain ⟨events, account, run, -, -, emptyLog⟩ :=
    plainSession_started TrackedLife.BuiltSinceDeletion
  obtain ⟨event, after, record, closed, sealed⟩ := @openTracker_closes
    TrackedLife.BuiltSinceDeletion { account, trackers := [openTracker] } rfl (Nat.zero_le 0)
    emptyLog
  have noAlarm := no_false_tamper_alarm vaultCrypto_aesGcmLaws vaultCrypto_encryptsAll
    vaultCrypto_separates freshDatabase.absent rfl (run.tail closed)
  refine ⟨_, _, _, run.tail closed, rfl, fun noEntry => ?_, noAlarm.latest _ rfl⟩
  have length := sealed.length
  rw [show after.repository = [] from noEntry] at length
  cases length

/-- The account is deleted and registered again, and a new login builds a tracker, before
the session of the first login is closed. -/
theorem plainSession_reregistered {account : AccountLife} {mayAppend : TrackedLife → Nat → Prop}
    (opened : AccountOpen vaultCrypto "owner" { secret | secret ∈ plainSecrets }
      { salt | salt ∈ plainSalts } (.drawn firstDraws firstPassword) firstDraws.vault.vmk.1 account)
    (holds : HoldsKeys vaultCrypto account.database trackingEncryptionKey trackingHmacKey
      firstDraws.vault.vmk.1
      (plainKeyDraws.entropy.encryptionKey.1, plainKeyDraws.entropy.hmacKey.1)) :
    ∃ events after retired,
      Run (PlainLifeStep mayAppend) { account, trackers := [openTracker] } events
          ⟨after, [openTracker, { keys := generateTrackingKeys secondKeyDraws.entropy }],
            retired⟩ ∧
        after.database.usageLog = [] := by
  obtain ⟨stored, loaded, enrolled⟩ := opened.vault.account
  obtain ⟨now, unlocked⟩ := LockoutPolicy.exists_unlocked enrolled.lockedByClock plainInstant
  let clocks : CallClocks := ⟨now, now, now, now⟩
  rcases deleteAccount_run vaultCrypto_separates opened.known loaded enrolled clocks
    opened.known.password with
    ⟨commits, cleared, ran, isGone, sameMeta, emptyLog⟩ | ⟨locked | wrong, -⟩
  · have deletion : PlainLifeStep mayAppend { account, trackers := [openTracker] } _ _ :=
      .delete _ clocks firstPassword opened.known.password ran.symm
    rw [TrackedLife.deleted_of_returned] at deletion
    have absent := opened.absent_after isGone sameMeta
    obtain ⟨vmk, registered, registerStep, reopened, same, isDrawn⟩ := absent.register_exists
      plainSerialization vaultCrypto_aesGcmLaws vaultCrypto_encryptsAll AccountLife.current
      plainInstant secondDraws_within secondPassword_acceptable
    -- The new vault key does not open the old slot, and the new key not the old tracking keys.
    have sameSlots (key : String) : SameSlot cleared account.database key :=
      ⟨by rw [sameMeta], by rw [sameMeta]⟩
    obtain rfl := isDrawn (((sameSlots _).wraps.mpr opened.vault.passwordSlot).load_other
      vaultCrypto_aesGcmLaws (by decide +kernel))
    have oldKeys : Wraps vaultCrypto registered.database trackingEncryptionKey
        firstDraws.vault.vmk.1 plainKeyDraws.entropy.encryptionKey.1 :=
      (same.slots _ (by decide)).wraps.mpr ((sameSlots _).wraps.mpr holds.encryptionKey)
    have registration : PlainLifeStep mayAppend
        ⟨{ account with database := cleared, current := [] }, [openTracker], 1⟩ _ _ :=
      .call _ registerStep
    let start : TrackedLife := ⟨registered, [openTracker], 1⟩
    have startOpen : AccountOpen vaultCrypto "owner" _ _ _ _ start.account := reopened
    obtain ⟨events, after, login, -, -, sameLog⟩ :=
      startOpen.login_builds_tracker plainSerialization wholeSeconds vaultCrypto_aesGcmLaws
        vaultCrypto_encryptsAll vaultCrypto_separates mayAppend secondKeyDraws (numberedSalt 0)
        plainInstant (oldKeys.load_other vaultCrypto_aesGcmLaws (by decide +kernel))
    exact ⟨_, after, 1, ((Run.single deletion).tail registration).append login,
      sameLog.trans (same.usageLog.trans emptyLog)⟩
  · exact absurd (unlocked.symm.trans locked) (by simp)
  · exact absurd rfl wrong

/-- A session from before the deletion is closed after the next login, whose tracker then
reports tampering. -/
theorem old_session_raises_alarm :
    ¬ ∀ events state, Run (PlainLifeStep fun _ _ => True) { account := { database := {} } } events
        state → NoFalseAlarm vaultCrypto state := by
  intro claimed
  obtain ⟨events, account, run, opened, holds, -⟩ := plainSession_started fun _ _ => True
  obtain ⟨more, after, retired, reregistered, emptyLog⟩ := plainSession_reregistered opened holds
  obtain ⟨event, closed, record, closing, sealed⟩ := @openTracker_closes (fun _ _ => True)
    ⟨after, [openTracker, { keys := generateTrackingKeys secondKeyDraws.entropy }], retired⟩ rfl
    trivial emptyLog
  have verified := (claimed _ _ ((run.append reregistered).tail closing)).latest _ rfl
  have tags (data : Bytes) : HmacUtil.computeHmac vaultCrypto
      (generateTrackingKeys secondKeyDraws.entropy).hmacKey data ≠
        HmacUtil.computeHmac vaultCrypto openTracker.keys.hmacKey data := by
    change (padTo 32 (generateTrackingKeys secondKeyDraws.entropy).hmacKey).1 ≠
      (padTo 32 openTracker.keys.hmacKey).1
    decide
  exact absurd verified (Bool.eq_false_iff.mp (sealed.not_verifies (by simp) tags))

end CryptoUsb
