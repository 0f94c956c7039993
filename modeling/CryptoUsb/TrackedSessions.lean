import CryptoUsb.TransitionRuns
import CryptoUsb.TransparentPrimitives
import CryptoUsb.UsageTracking

/-!
# Tracked sessions

Trackers that share a repository and their keys, with any number of overlapping
sessions.  In whatever order the sessions are closed, the log verifies and reads
back as the records that were sealed.
-/

namespace CryptoUsb

open ByteString IsoDateTime TransitionRuns

/-- The sessions that trackers hold in memory, which of them were closed, and the
repository they share. -/
structure TrackingState where
  sessions : List UsageRecord := []
  closed : List Nat := []
  repository : TrackingRepository := []

/-- A call on an open session that finalizes nothing. -/
inductive SessionNote
  | authenticationResult (success : Bool)
  | validationResult (success : Bool)
  | opened (now : UtcInstant)
  | screenCaptureAttempt
  | tamperingEvent

def SessionNote.apply (record : UsageRecord) : SessionNote → UsageRecord
  | .authenticationResult success => UsageTracker.recordAuthenticationResult record success
  | .validationResult success => UsageTracker.recordValidationResult record success
  | .opened now => UsageTracker.recordOpen record now
  | .screenCaptureAttempt => UsageTracker.recordScreenCaptureAttempt record
  | .tamperingEvent => UsageTracker.recordTamperingEvent record

/-- What a call on a tracker shows: nothing, or the outcome of a close or a rebind
with the record it sealed. -/
inductive TrackerEvent
  | noted
  | finalized (outcome : Raises UsageRecord)

def TrackerEvent.finalizes : TrackerEvent → Bool
  | .noted => false
  | .finalized _ => true

def TrackerEvent.record? : TrackerEvent → Option UsageRecord
  | .finalized (.ok record) => some record
  | _ => none

/-- What a close or a rebind shows of its outcome. -/
def finalizedEvent (outcome : Raises (UsageRecord × Option TrackingRepository)) : TrackerEvent :=
  .finalized (outcome.map Prod.fst)

/-- The repository after a close or a rebind: the old one where it raised. -/
def repositoryAfter (repository : TrackingRepository)
    (outcome : Raises (UsageRecord × Option TrackingRepository)) : TrackingRepository :=
  match outcome with
  | .ok (_, some after) => after
  | _ => repository

/-- The sessions after one of them was closed. -/
def sessionsAfter (sessions : List UsageRecord) (index : Nat)
    (outcome : Raises (UsageRecord × Option TrackingRepository)) : List UsageRecord :=
  match outcome with
  | .ok (record, _) => sessions.set index record
  | .error _ => sessions

/-- A call on one of the trackers that share a repository and their keys.  Every
session is closed at most once, in whatever order. -/
inductive TrackerStep (crypto : Cryptography) (totalSeconds : Int → PyFloat)
    (keys : TrackingProtectionKeys) : TrackingState → TrackerEvent → TrackingState → Prop
  | start (state : TrackingState) (user machineId fileId : String) (usbId : Option String)
      (uuid : BytesOf 16) (now : UtcInstant) :
      TrackerStep crypto totalSeconds keys state .noted
        { state with
          sessions := state.sessions ++
            [UsageTracker.startSession user machineId fileId usbId uuid now] }
  | note (state : TrackingState) {index : Nat} {record : UsageRecord} (note : SessionNote) :
      state.sessions[index]? = some record →
        TrackerStep crypto totalSeconds keys state .noted
          { state with sessions := state.sessions.set index (note.apply record) }
  | close (state : TrackingState) {index : Nat} {record : UsageRecord}
      {outcome : Raises (UsageRecord × Option TrackingRepository)} (now : UtcInstant)
      (nonce : AesCipher.Nonce) :
      state.sessions[index]? = some record → index ∉ state.closed →
      outcome = UsageTracker.recordClose crypto totalSeconds keys now nonce record
        (some state.repository) →
        TrackerStep crypto totalSeconds keys state (finalizedEvent outcome)
          { sessions := sessionsAfter state.sessions index outcome
            closed := index :: state.closed
            repository := repositoryAfter state.repository outcome }
  | rebind (state : TrackingState) {outcome : Raises (UsageRecord × Option TrackingRepository)}
      (user machineId fileId : String) (previousUsbId newUsbId : Option String)
      (uuid : BytesOf 16) (now : UtcInstant) (nonce : AesCipher.Nonce) :
      outcome = UsageTracker.recordDeviceRebind crypto keys user machineId fileId previousUsbId
        newUsbId uuid now nonce (some state.repository) →
        TrackerStep crypto totalSeconds keys state (finalizedEvent outcome)
          { state with repository := repositoryAfter state.repository outcome }

/-- Sessions were opened at times of the clock. -/
def OpenedByClock (record : UsageRecord) : Prop :=
  ∀ openTime ∈ record.openTime, openTime.IsAware

section Runs

variable {crypto : Cryptography} {totalSeconds : Int → PyFloat} {keys : TrackingProtectionKeys}

theorem SessionNote.apply_openedByClock {record : UsageRecord} (opened : OpenedByClock record)
    (note : SessionNote) : OpenedByClock (note.apply record) := by
  cases note with
  | opened now =>
      intro openTime given
      obtain rfl := Option.some.inj given
      exact now.isAware
  | authenticationResult => exact opened
  | validationResult => exact opened
  | screenCaptureAttempt => exact opened
  | tamperingEvent => exact opened

theorem finalizeRecord_total {record : UsageRecord} (opened : OpenedByClock record)
    (now : UtcInstant) : ∃ finalized,
      UsageTracker.finalizeRecord totalSeconds now record = .ok finalized ∧
        OpenedByClock finalized := by
  unfold UsageTracker.finalizeRecord
  split
  case h_1 => exact ⟨_, rfl, opened⟩
  case h_2 openTime given =>
    obtain ⟨microseconds, difference⟩ :=
      DateTime.subtract_isSome now.isAware (opened openTime given)
    simp only [difference]
    exact ⟨_, rfl, opened⟩

/-- A close or a rebind keeps the log sealed; where it raises, the log is as it
was. -/
theorem SealedLog.finalized {repository : TrackingRepository} {records : List UsageRecord}
    (log : SealedLog crypto keys repository records) {nonce : AesCipher.Nonce}
    {outcome : Raises (UsageRecord × Option TrackingRepository)}
    (appended : ∀ record after, outcome = .ok (record, after) →
      UsageTracker.appendRecord crypto keys nonce record (some repository) = .ok after) :
    SealedLog crypto keys (repositoryAfter repository outcome)
      (records ++ (finalizedEvent outcome).record?.toList) := by
  cases outcome with
  | error exc =>
      rw [show (finalizedEvent (.error exc)).record?.toList = [] from rfl, List.append_nil]
      exact log
  | ok result =>
      obtain ⟨record, after⟩ := result
      obtain ⟨entry, written, rfl⟩ :=
        UsageTracker.appendRecord_eq_ok.mp (appended record after rfl)
      obtain ⟨-, follows, -⟩ := TamperEvidentLog.sealRecord_eq_ok.mp written
      exact log.append record.sessionId follows ⟨nonce, by rw [follows]; exact written⟩

theorem SealedLog.step {state next : TrackingState} {event : TrackerEvent}
    {records : List UsageRecord} (log : SealedLog crypto keys state.repository records)
    (stepped : TrackerStep crypto totalSeconds keys state event next) :
    SealedLog crypto keys next.repository (records ++ event.record?.toList) := by
  cases stepped with
  | start user machineId fileId usbId uuid now => simpa [TrackerEvent.record?] using log
  | note note present => simpa [TrackerEvent.record?] using log
  | close now nonce present pending called =>
      refine @SealedLog.finalized _ _ _ _ log nonce _ fun record after returned => ?_
      rw [returned] at called
      obtain ⟨finalized, -, rest⟩ := bind_eq_ok.mp called.symm
      obtain ⟨repository, appended, result⟩ := bind_eq_ok.mp rest
      obtain ⟨rfl, rfl⟩ := Prod.mk.inj (Except.ok.inj result)
      exact appended
  | rebind user machineId fileId previousUsbId newUsbId uuid now nonce called =>
      refine @SealedLog.finalized _ _ _ _ log nonce _ fun record after returned => ?_
      rw [returned] at called
      obtain ⟨repository, appended, result⟩ := bind_eq_ok.mp called.symm
      obtain ⟨rfl, rfl⟩ := Prod.mk.inj (Except.ok.inj result)
      exact appended

theorem filterMap_record?_concat (events : List TrackerEvent) (event : TrackerEvent) :
    (events ++ [event]).filterMap TrackerEvent.record? =
      events.filterMap TrackerEvent.record? ++ event.record?.toList := by
  rw [List.filterMap_append]
  cases found : event.record? <;> simp [found]

theorem sealedLog_of_run {events : List TrackerEvent} {state : TrackingState}
    (run : Run (TrackerStep crypto totalSeconds keys) {} events state) :
    SealedLog crypto keys state.repository (events.filterMap TrackerEvent.record?) := by
  refine run.history (fun events state => SealedLog crypto keys state.repository
    (events.filterMap TrackerEvent.record?)) (fun log stepped => ?_) SealedLog.empty
  rw [filterMap_record?_concat]
  exact log.step stepped

/-- Every close and rebind so far returned, and open sessions carry times of the
clock. -/
structure CallsReturned (events : List TrackerEvent) (state : TrackingState) : Prop where
  returned : (events.filterMap TrackerEvent.record?).length =
    events.countP TrackerEvent.finalizes
  opened : ∀ record ∈ state.sessions, OpenedByClock record

private theorem forall_set {property : UsageRecord → Prop} {sessions : List UsageRecord}
    (all : ∀ record ∈ sessions, property record) (index : Nat) {record : UsageRecord}
    (holds : property record) : ∀ other ∈ sessions.set index record, property other := by
  intro other member
  rcases List.mem_or_eq_of_mem_set member with there | rfl
  · exact all other there
  · exact holds

theorem appendRecord_total (total : crypto.EncryptsAll)
    (size : keys.encryptionKey.length = AesCipher.aesKeySizeBytes) (nonce : AesCipher.Nonce)
    (record : UsageRecord) (repository : TrackingRepository) : ∃ after,
      UsageTracker.appendRecord crypto keys nonce record (some repository) = .ok after := by
  obtain ⟨entry, written, -, -⟩ :=
    TamperEvidentLog.sealRecord_total total size nonce record repository.lastEntryHmac
  exact ⟨_, UsageTracker.appendRecord_eq_ok.mpr ⟨entry, written, rfl⟩⟩

theorem CallsReturned.noted {events : List TrackerEvent} {state : TrackingState}
    (calls : CallsReturned events state) {next : TrackingState}
    (opened : ∀ record ∈ next.sessions, OpenedByClock record) :
    CallsReturned (events ++ [.noted]) next := by
  refine ⟨?_, opened⟩
  rw [filterMap_record?_concat, List.length_append, calls.returned, List.countP_append]
  rfl

theorem CallsReturned.finalized {events : List TrackerEvent} {state : TrackingState}
    (calls : CallsReturned events state) {next : TrackingState} (record : UsageRecord)
    (opened : ∀ record ∈ next.sessions, OpenedByClock record) :
    CallsReturned (events ++ [.finalized (.ok record)]) next := by
  refine ⟨?_, opened⟩
  rw [filterMap_record?_concat, List.length_append, calls.returned, List.countP_append]
  rfl

theorem CallsReturned.step (total : crypto.EncryptsAll)
    (size : keys.encryptionKey.length = AesCipher.aesKeySizeBytes)
    {events : List TrackerEvent} {event : TrackerEvent} {state next : TrackingState}
    (calls : CallsReturned events state)
    (stepped : TrackerStep crypto totalSeconds keys state event next) :
    CallsReturned (events ++ [event]) next := by
  cases stepped with
  | start user machineId fileId usbId uuid now =>
      refine calls.noted ?_
      intro record member
      rcases List.mem_append.mp member with there | new
      · exact calls.opened record there
      · obtain rfl := List.mem_singleton.mp new
        intro openTime given
        cases given
  | note note present =>
      exact calls.noted (forall_set calls.opened _
        (note.apply_openedByClock (calls.opened _ (List.mem_of_getElem? present))))
  | close now nonce present pending called =>
      have clock := calls.opened _ (List.mem_of_getElem? present)
      obtain ⟨finalized, finalizedEq, finalizedClock⟩ :=
        @finalizeRecord_total totalSeconds _ clock now
      obtain ⟨after, appended⟩ :=
        appendRecord_total total size nonce finalized state.repository
      simp only [UsageTracker.recordClose, finalizedEq, appended, ok_bind] at called
      subst called
      exact calls.finalized finalized (forall_set calls.opened _ finalizedClock)
  | rebind user machineId fileId previousUsbId newUsbId uuid now nonce called =>
      obtain ⟨after, appended⟩ := appendRecord_total total size nonce
        (UsageTracker.rebindRecord user machineId fileId previousUsbId newUsbId uuid now)
        state.repository
      simp only [UsageTracker.recordDeviceRebind, appended, ok_bind] at called
      subst called
      exact calls.finalized _ calls.opened

/-- The log is complete: after any interleaving of calls it verifies, counts every
close and rebind, and reads back as the records they sealed, in order. -/
theorem log_complete (laws : crypto.AesGcmLaws) (total : crypto.EncryptsAll)
    (size : keys.encryptionKey.length = AesCipher.aesKeySizeBytes)
    {events : List TrackerEvent} {state : TrackingState}
    (run : Run (TrackerStep crypto totalSeconds keys) {} events state) :
    UsageTracker.verifyLogIntegrity crypto keys (some state.repository) =
        { ok := true, verifiedCount := events.countP TrackerEvent.finalizes } ∧
      UsageTracker.readAllRecords crypto keys (some state.repository) =
        .ok (events.filterMap TrackerEvent.record?) := by
  have log := sealedLog_of_run run
  have calls := run.history CallsReturned (fun calls stepped => calls.step total size stepped)
    ⟨rfl, by simp⟩
  refine ⟨?_, log.readAllRecords laws⟩
  rw [log.verifies, calls.returned]

end Runs

/-! ## A tracked session -/

/-- Primitives that encrypt transparently and whose tags show the nonce of the
entry they are for. -/
def chainCrypto : Cryptography :=
  { transparent (padTo 32) with
    hmacSha256 := fun _ data => padTo 32 (1 :: (data.drop 33).take 12) }

theorem chainCrypto_aesGcmLaws : chainCrypto.AesGcmLaws where
  decrypt_encrypt := (@transparent_aesGcmLaws (padTo 32)).decrypt_encrypt
  wrong_key := (@transparent_aesGcmLaws (padTo 32)).wrong_key

theorem chainCrypto_encryptsAll : chainCrypto.EncryptsAll :=
  @transparent_encryptsAll (padTo 32)

def plainTrackingKeys : TrackingProtectionKeys where
  encryptionKey := List.replicate 32 5
  hmacKey := List.replicate 32 6

/-- Durations in whole seconds. -/
def wholeSeconds (microseconds : Int) : PyFloat :=
  if microseconds = 1000000 then ⟨"1.0", by decide⟩ else PyFloat.zero

theorem plainRun : ∃ (events : List TrackerEvent) (state : TrackingState),
    Run (TrackerStep chainCrypto wholeSeconds plainTrackingKeys) {} events state ∧
      events.countP TrackerEvent.finalizes = 2 := by
  have started : TrackerStep chainCrypto wholeSeconds plainTrackingKeys {} .noted _ :=
    .start {} "user" "machine" "f" none (padTo 16 []) plainInstant
  have closed := @TrackerStep.close chainCrypto wholeSeconds plainTrackingKeys
    { sessions := [UsageTracker.startSession "user" "machine" "f" none (padTo 16 [])
        plainInstant] } 0 _ _ plainInstant (padTo 12 [1]) rfl List.not_mem_nil rfl
  refine ⟨_, _, ((Run.single started).tail closed).tail (.rebind _ "user" "machine" "f" none
    (some "usb") (padTo 16 []) plainInstant (padTo 12 [2]) rfl), rfl⟩

theorem log_complete_plain :
    ∃ (events : List TrackerEvent) (state : TrackingState),
      events.countP TrackerEvent.finalizes = 2 ∧
        UsageTracker.verifyLogIntegrity chainCrypto plainTrackingKeys (some state.repository) =
            { ok := true, verifiedCount := events.countP TrackerEvent.finalizes } ∧
          UsageTracker.readAllRecords chainCrypto plainTrackingKeys (some state.repository) =
            .ok (events.filterMap TrackerEvent.record?) := by
  obtain ⟨events, state, run, count⟩ := plainRun
  exact ⟨events, state, count,
    log_complete chainCrypto_aesGcmLaws chainCrypto_encryptsAll (by decide) run⟩

end CryptoUsb
