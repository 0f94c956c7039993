import CryptoUsb.DeviceProbing
import CryptoUsb.TrackedSessions

/-!
# The audit trail

Attempts of a service that tracks usage, and the callbacks that they hand out.
Once every session was closed, the log has an entry for each attempt that
returned and was not forced, except for those that found their file throttled.
-/

namespace CryptoUsb

open ByteString FailureBackoff IsoDateTime SecureAccessService TransitionRuns

/-- The throttle of the service, the sessions it has handed out and that are not
closed, and the log. -/
structure AuditState where
  throttle : DeviceMismatchThrottle := {}
  sessions : List UsageRecord := []
  repository : TrackingRepository := []

/-- An attempt, or one of the callbacks of an earlier one. -/
inductive AuditEvent
  | attempt (call : ServiceCall)
  | screenCaptureDetected
  | viewClosed

/-- The session that the callbacks of a returned attempt close over. -/
def ServiceCall.session? (crypto : Cryptography) (call : ServiceCall) : Option UsageRecord :=
  match (call.result crypto).outcome with
  | .ok outcome => outcome.session
  | .error _ => none

/-- One call in the life of a service with a tracker.  `on_view_closed` is invoked
once for every session, in whatever order. -/
inductive AuditStep (crypto : Cryptography) (totalSeconds : Int → PyFloat)
    (keys : TrackingProtectionKeys) : AuditState → AuditEvent → AuditState → Prop
  | attempt (state : AuditState) (call : ServiceCall) :
      call.service.throttle = state.throttle → call.service.tracksUsage = true →
        AuditStep crypto totalSeconds keys state (.attempt call)
          { state with
            throttle := (call.result crypto).throttle
            sessions := state.sessions ++ (call.session? crypto).toList }
  | screenCaptureDetected (state : AuditState) {index : Nat} {record : UsageRecord} :
      state.sessions[index]? = some record →
        AuditStep crypto totalSeconds keys state .screenCaptureDetected
          { state with
            sessions := state.sessions.set index
              (UsageTracker.recordScreenCaptureAttempt record) }
  | viewClosed (state : AuditState) {index : Nat} {record : UsageRecord}
      {outcome : Raises (UsageRecord × Option TrackingRepository)} (now : UtcInstant)
      (nonce : AesCipher.Nonce) :
      state.sessions[index]? = some record →
      outcome = UsageTracker.recordClose crypto totalSeconds keys now nonce record
        (some state.repository) →
        AuditStep crypto totalSeconds keys state .viewClosed
          { state with
            sessions := state.sessions.eraseIdx index
            repository := repositoryAfter state.repository outcome }

/-- An attempt to be audited: one that returned and was not forced. -/
def AuditEvent.audited (crypto : Cryptography) : AuditEvent → Bool
  | .attempt call =>
      !call.request.forceDeception && decide (Returns (call.result crypto).outcome)
  | _ => false

/-- An attempt that was rejected because its file is throttled. -/
def AuditEvent.turnedAway : AuditEvent → Bool
  | .attempt call => !call.request.forceDeception && call.throttled
  | _ => false

section Runs

variable {crypto : Cryptography} {totalSeconds : Int → PyFloat} {keys : TrackingProtectionKeys}

theorem returns_of_unvalidated {call : ServiceCall}
    (unvalidated : call.request.forceDeception = true ∨ call.throttled = true) :
    Returns (call.result crypto).outcome := by
  rw [(result_of_unvalidated unvalidated).2]
  exact ⟨_, rfl⟩

/-- An attempt of a tracking service comes to a session exactly when it is audited and
not turned away. -/
theorem isSome_session? {call : ServiceCall} (tracks : call.service.tracksUsage = true) :
    (call.session? crypto).isSome =
      ((AuditEvent.attempt call).audited crypto && !(AuditEvent.attempt call).turnedAway) := by
  have reports := attemptAccess_reports crypto call.service call.disk call.request call.draws
  cases answered : (call.result crypto).outcome with
  | error exc =>
      have raised : ¬ Returns (.error exc : Raises AccessOutcome) := by
        rintro ⟨outcome, returned⟩
        cases returned
      simp only [ServiceCall.session?, answered, AuditEvent.audited, raised, decide_false,
        Bool.and_false, Bool.false_and, Option.isSome_none]
  | ok outcome =>
      have returned : Returns (.ok outcome : Raises AccessOutcome) := ⟨outcome, rfl⟩
      have opens := (reports.session outcome answered).isSome
      simp only [ServiceCall.session?, answered, opens, OpensSession, tracks, AuditEvent.audited,
        returned, decide_true, Bool.and_true, AuditEvent.turnedAway]
      cases forced : call.request.forceDeception with
      | true => rfl
      | false => simp [ServiceCall.throttled]

theorem audited_of_turnedAway {event : AuditEvent} (away : event.turnedAway = true) :
    event.audited crypto = true := by
  cases event with
  | attempt call =>
      obtain ⟨notForced, throttled⟩ := Bool.and_eq_true_iff.mp away
      have returned := @returns_of_unvalidated crypto call (.inr throttled)
      simp only [AuditEvent.audited, notForced, returned, decide_true, Bool.and_true]
  | screenCaptureDetected => cases away
  | viewClosed => cases away

theorem length_session? {call : ServiceCall} (tracks : call.service.tracksUsage = true) :
    (call.session? crypto).toList.length +
        (if (AuditEvent.attempt call).turnedAway then 1 else 0) =
      if (AuditEvent.attempt call).audited crypto then 1 else 0 := by
  have sessions := @isSome_session? crypto call tracks
  cases away : (AuditEvent.attempt call).turnedAway with
  | true =>
      have audited := @audited_of_turnedAway crypto _ away
      rw [audited, away] at sessions
      have none := Option.isNone_iff_eq_none.mp (Option.isSome_eq_false_iff.mp sessions)
      rw [none, audited]
      rfl
  | false =>
      rw [away, Bool.not_false, Bool.and_true] at sessions
      rw [← sessions]
      cases call.session? crypto <;> rfl

/-- The entries, the open sessions and the attempts turned away make up the audited
attempts so far. -/
structure Audited (crypto : Cryptography) (events : List AuditEvent) (state : AuditState) :
    Prop where
  counted : state.repository.listEntries.length + state.sessions.length +
    events.countP AuditEvent.turnedAway = events.countP (AuditEvent.audited crypto)
  opened : ∀ record ∈ state.sessions, OpenedByClock record

namespace Audited

variable {events : List AuditEvent} {state : AuditState}

theorem attempt (audited : Audited crypto events state) {call : ServiceCall}
    (tracks : call.service.tracksUsage = true) :
    Audited crypto (events ++ [.attempt call])
      { state with
        throttle := (call.result crypto).throttle
        sessions := state.sessions ++ (call.session? crypto).toList } where
  counted := by
    have counted := audited.counted
    have here := @length_session? crypto call tracks
    rw [List.countP_append, List.countP_append, List.countP_singleton, List.countP_singleton,
      List.length_append]
    dsimp only
    omega
  opened := by
    intro record member
    rcases List.mem_append.mp member with earlier | given
    · exact audited.opened record earlier
    · rw [Option.mem_toList] at given
      unfold ServiceCall.session? at given
      have reports := attemptAccess_reports crypto call.service call.disk call.request call.draws
      split at given
      case h_1 outcome returned => exact (reports.session outcome returned).opened record given
      case h_2 => cases given

theorem noted (audited : Audited crypto events state) {index : Nat} {record : UsageRecord}
    (present : state.sessions[index]? = some record) :
    Audited crypto (events ++ [.screenCaptureDetected])
      { state with
        sessions := state.sessions.set index
          (UsageTracker.recordScreenCaptureAttempt record) } where
  counted := by
    rw [List.countP_append, List.countP_append, List.length_set]
    exact audited.counted
  opened := by
    intro other member
    rcases List.mem_or_eq_of_mem_set member with there | rfl
    · exact audited.opened other there
    · exact audited.opened record (List.mem_of_getElem? present)

/-- Closing a session adds an entry for it. -/
theorem closed (total : crypto.EncryptsAll)
    (size : keys.encryptionKey.length = AesCipher.aesKeySizeBytes)
    (audited : Audited crypto events state) {index : Nat} {record : UsageRecord}
    (present : state.sessions[index]? = some record) (now : UtcInstant)
    (nonce : AesCipher.Nonce) :
    Audited crypto (events ++ [.viewClosed])
      { state with
        sessions := state.sessions.eraseIdx index
        repository := repositoryAfter state.repository (UsageTracker.recordClose crypto
          totalSeconds keys now nonce record (some state.repository)) } := by
  obtain ⟨finalized, finalizedEq, -⟩ := @finalizeRecord_total totalSeconds _
    (audited.opened record (List.mem_of_getElem? present)) now
  obtain ⟨entry, written, -, -⟩ := TamperEvidentLog.sealRecord_total total size nonce finalized
    state.repository.lastEntryHmac
  have appended := UsageTracker.appendRecord_eq_ok.mpr ⟨entry, written, rfl⟩
  have closes : UsageTracker.recordClose crypto totalSeconds keys now nonce record
      (some state.repository) =
        .ok (finalized, some (state.repository.append finalized.sessionId entry)) := by
    simp only [UsageTracker.recordClose, finalizedEq, appended, ok_bind]
    rfl
  have inside : index < state.sessions.length := (List.getElem?_eq_some_iff.mp present).1
  have counted := audited.counted
  rw [closes]
  constructor
  · rw [List.countP_append, List.countP_append, List.length_eraseIdx_of_lt inside]
    show (state.repository.append finalized.sessionId entry).listEntries.length +
      (state.sessions.length - 1) + events.countP AuditEvent.turnedAway = _
    rw [TrackingRepository.listEntries_append, List.length_append, List.length_singleton]
    show _ = events.countP (AuditEvent.audited crypto)
    omega
  · intro other member
    exact audited.opened other (List.mem_of_mem_eraseIdx member)

theorem step (total : crypto.EncryptsAll)
    (size : keys.encryptionKey.length = AesCipher.aesKeySizeBytes) {event : AuditEvent}
    {next : AuditState} (audited : Audited crypto events state)
    (stepped : AuditStep crypto totalSeconds keys state event next) :
    Audited crypto (events ++ [event]) next := by
  cases stepped with
  | attempt call shared tracks => exact audited.attempt tracks
  | screenCaptureDetected present => exact audited.noted present
  | viewClosed now nonce present called =>
      subst called
      exact audited.closed total size present now nonce

theorem run (total : crypto.EncryptsAll)
    (size : keys.encryptionKey.length = AesCipher.aesKeySizeBytes)
    {throttle : DeviceMismatchThrottle}
    (run : Run (AuditStep crypto totalSeconds keys) { throttle } events state) :
    Audited crypto events state :=
  Run.history run (Audited crypto) (fun audited stepped => audited.step total size stepped)
    ⟨rfl, by simp⟩

end Audited

/-- The log is complete once every session was closed exactly when no attempt of the run
was turned away. -/
theorem audit_complete_iff (total : crypto.EncryptsAll)
    (size : keys.encryptionKey.length = AesCipher.aesKeySizeBytes)
    {throttle : DeviceMismatchThrottle} {events : List AuditEvent} {state : AuditState}
    (run : Run (AuditStep crypto totalSeconds keys) { throttle } events state)
    (allClosed : state.sessions = []) :
    state.repository.listEntries.length = events.countP (AuditEvent.audited crypto) ↔
      ∀ call, .attempt call ∈ events → call.request.forceDeception = false →
        call.throttled = false := by
  have counted := (Audited.run total size run).counted
  rw [allClosed, List.length_nil, Nat.add_zero] at counted
  have complete : state.repository.listEntries.length =
      events.countP (AuditEvent.audited crypto) ↔ events.countP AuditEvent.turnedAway = 0 := by
    omega
  rw [complete, List.countP_eq_zero]
  constructor
  · intro noneAway call member notForced
    have stays := noneAway _ member
    simpa [AuditEvent.turnedAway, notForced] using stays
  · intro noneThrottled event member away
    cases event with
    | attempt call =>
        obtain ⟨notForced, throttled⟩ := Bool.and_eq_true_iff.mp away
        rw [Bool.not_eq_true'] at notForced
        rw [noneThrottled call member notForced] at throttled
        cases throttled
    | screenCaptureDetected => cases away
    | viewClosed => cases away

/-- So many sessions closed after each other. -/
def viewsClosed (sessions : Nat) : List AuditEvent :=
  List.replicate sessions .viewClosed

theorem closing_run (now : UtcInstant) (nonce : AesCipher.Nonce) (sessions : List UsageRecord)
    (throttle : DeviceMismatchThrottle) (repository : TrackingRepository) :
    ∃ after, Run (AuditStep crypto totalSeconds keys) ⟨throttle, sessions, repository⟩
      (viewsClosed sessions.length) ⟨throttle, [], after⟩ := by
  induction sessions generalizing repository with
  | nil => exact ⟨repository, .refl _⟩
  | cons record sessions ih =>
      obtain ⟨after, rest⟩ := ih (repositoryAfter repository (UsageTracker.recordClose crypto
        totalSeconds keys now nonce record (some repository)))
      have first := @AuditStep.viewClosed crypto totalSeconds keys
        ⟨throttle, record :: sessions, repository⟩ 0 record _ now nonce rfl rfl
      exact ⟨after, (Run.single first).append rest⟩

end Runs

/-! ## Attempts with a foreign device -/

/-- An attempt on a tracking service from a machine that the file is not bound to. -/
def trackedCall (throttle : DeviceMismatchThrottle) : ServiceCall :=
  { strangerCall throttle with
    service := { (strangerCall throttle).service with tracksUsage := true } }

/-- Such attempts right after each other. -/
def trackedCalls (attempts : Nat) : List AuditEvent :=
  (List.range attempts).map fun earlier => .attempt (trackedCall (strangerThrottle earlier))

theorem trackedCall_throttle {attempts : Nat} (few : attempts < maxFailedAttempts) :
    ((trackedCall (strangerThrottle attempts)).result (plainCrypto [104, 105])).throttle =
      strangerThrottle (attempts + 1) := by
  have marked : (trackedCall (strangerThrottle attempts)).mark? (plainCrypto [104, 105]) =
      some (.failure plainInstant) := by
    have notThrottled : (strangerThrottle attempts).isLocked plainInstant "f" = false := by
      rw [DeviceMismatchThrottle.isLocked_eq, stateOf_strangerThrottle few]
      rfl
    exact strangerCall_mark notThrottled
  rcases result_throttle (plainCrypto [104, 105]) (trackedCall (strangerThrottle attempts))
    with ⟨unmarked, -⟩ | ⟨passed, -⟩ | ⟨-, counted, -⟩
  · exact nomatch marked.symm.trans unmarked
  · exact nomatch marked.symm.trans passed
  · exact counted

theorem strangerThrottle_locked :
    (strangerThrottle 5).isLocked plainInstant "f" = true := by
  obtain ⟨run, failures⟩ := strangerThrottle_run (show 5 ≤ maxFailedAttempts by decide)
  have locked := @Tracks.isLocked _ "f" _ _ (Tracks.run run "f") plainInstant plainInstant
  rw [failures] at locked
  exact locked (by decide) rfl (by decide)

theorem trackedCalls_run {attempts : Nat} (few : attempts ≤ maxFailedAttempts) :
    ∃ state, Run (AuditStep (plainCrypto [104, 105]) wholeSeconds plainTrackingKeys) {}
      (trackedCalls attempts) state ∧ state.throttle = strangerThrottle attempts := by
  induction attempts with
  | zero => exact ⟨_, .refl _, rfl⟩
  | succ attempts ih =>
      obtain ⟨state, run, shared⟩ := ih (by omega)
      have stepped := @AuditStep.attempt (plainCrypto [104, 105]) wholeSeconds plainTrackingKeys
        state (trackedCall (strangerThrottle attempts)) shared.symm rfl
      rw [trackedCalls, List.range_succ, List.map_append]
      exact ⟨_, run.tail stepped, trackedCall_throttle few⟩

theorem trackedCalls_closed : ∃ closes state,
    Run (AuditStep (plainCrypto [104, 105]) wholeSeconds plainTrackingKeys) {}
      (trackedCalls 6 ++ viewsClosed closes) state ∧ state.sessions = [] := by
  obtain ⟨state, run, shared⟩ := trackedCalls_run (show 5 ≤ maxFailedAttempts by decide)
  have sixth := @AuditStep.attempt (plainCrypto [104, 105]) wholeSeconds plainTrackingKeys
    state (trackedCall (strangerThrottle 5)) shared.symm rfl
  obtain ⟨after, closing⟩ := @closing_run (plainCrypto [104, 105]) wholeSeconds
    plainTrackingKeys plainInstant (padTo 12 []) _ _ _
  exact ⟨_, _, (run.tail sixth).append closing, rfl⟩

/-- The attempt on the throttled file returned and left no entry. -/
theorem turned_away_unaudited : ∃ closes state,
    Run (AuditStep (plainCrypto [104, 105]) wholeSeconds plainTrackingKeys) {}
        (trackedCalls 6 ++ viewsClosed closes) state ∧
      state.sessions = [] ∧ state.repository.listEntries.length ≠
        (trackedCalls 6 ++ viewsClosed closes).countP
          (AuditEvent.audited (plainCrypto [104, 105])) := by
  obtain ⟨closes, state, run, allClosed⟩ := trackedCalls_closed
  have audited : Audited (plainCrypto [104, 105]) _ state :=
    .run transparent_encryptsAll (by decide) run
  have counted := audited.counted
  rw [allClosed, List.length_nil, Nat.add_zero] at counted
  refine ⟨closes, state, run, allClosed, ?_⟩
  have away : 0 < (trackedCalls 6 ++ viewsClosed closes).countP
      AuditEvent.turnedAway := by
    refine List.countP_pos_iff.mpr ⟨.attempt (trackedCall (strangerThrottle 5)), ?_, ?_⟩
    · refine List.mem_append_left _ (List.mem_map.mpr ⟨5, by decide, rfl⟩)
    · exact strangerThrottle_locked
  omega

theorem audit_complete_iff_stranger : ∃ (closes : Nat) (state : AuditState),
    state.sessions = [] ∧
      (state.repository.listEntries.length =
          (trackedCalls 6 ++ viewsClosed closes).countP
            (AuditEvent.audited (plainCrypto [104, 105])) ↔
        ∀ call, .attempt call ∈ trackedCalls 6 ++ viewsClosed closes →
          call.request.forceDeception = false → call.throttled = false) := by
  obtain ⟨closes, state, run, allClosed⟩ := trackedCalls_closed
  exact ⟨closes, state, allClosed,
    audit_complete_iff transparent_encryptsAll (by decide) run allClosed⟩

end CryptoUsb
