import CryptoUsb.AccessLimits
import CryptoUsb.FailureBackoff
import CryptoUsb.LocalAccounts

/-!
# Probing a file with devices

Attempts of any number of services that share one throttle.  What the throttle
holds for a file is what a lockout policy makes of the mismatches and successes
of that file alone, and while it locks the file no attempt is validated.
-/

namespace CryptoUsb

open ByteString FailureBackoff IsoDateTime SecureAccessService TransitionRuns

namespace ServiceCall

def throttled (call : ServiceCall) : Bool :=
  call.service.throttle.isLocked call.draws.throttleClock call.request.fileId

/-- What `ValidationEngine.validate` answers, where the attempt runs it. -/
def validation? (crypto : Cryptography) (call : ServiceCall) : Option (Raises ValidationReport) :=
  if call.request.forceDeception || call.throttled then none
  else call.service.repository.map fun repository =>
    ValidationEngine.validate crypto repository call.request.protectionKeys
      call.draws.validationClock.1 call.request.fileId call.request.encryptedFileBytes
      call.request.identity

/-- What the attempt tells the throttle: a validation that passed, or one that failed
for the device. -/
def mark? (crypto : Cryptography) (call : ServiceCall) : Option (Mark UtcInstant) :=
  match call.validation? crypto with
  | some (.ok report) =>
      if report.report.ok then some .success
      else if mapValidationFailureToTrigger report.report = .deviceMismatch then
        some (.failure call.draws.mismatchClock)
      else none
  | _ => none

/-- The mark of an attempt that ended as it says; the attempt raises where the lockout
would end past the last date-time. -/
def endedMark? (crypto : Cryptography) (call : ServiceCall) : Option (Mark UtcInstant) :=
  match call.mark? crypto with
  | some (.failure time) =>
      if Returns (call.result crypto).outcome then some (.failure time) else none
  | mark => mark

/-- The answer of an attempt that is not validated. -/
def unvalidated (call : ServiceCall) : AccessResult :=
  deceived call.service call.disk call.request
    (if call.request.forceDeception then .wrongCredentials else .deviceMismatch) none

end ServiceCall

/-- The marks of some attempts, with their files. -/
def fileMarks (mark? : ServiceCall → Option (Mark UtcInstant)) (calls : List ServiceCall) :
    List (String × Mark UtcInstant) :=
  calls.filterMap fun call => (mark? call).map fun mark => (call.request.fileId, mark)

/-- An attempt of a service whose throttle is the shared one. -/
def ProbeStep (crypto : Cryptography) (throttle : DeviceMismatchThrottle) (call : ServiceCall)
    (next : DeviceMismatchThrottle) : Prop :=
  call.service.throttle = throttle ∧ next = (call.result crypto).throttle

/-- The account object of a lockout policy that is told this mark. -/
def LockoutPolicy.told (login : UtcInstant) (account : UserAccount) : Mark UtcInstant → UserAccount
  | .failure time => counted account time
  | .success => registerSuccess account login

/-! ## One attempt -/

section Attempt

variable {crypto : Cryptography} {call : ServiceCall}

/-- Past validation nothing changes the throttle. -/
theorem throttle_admitted (service : SecureAccessService) (disk : Disk) (request : AccessRequest)
    (draws : AccessDraws) (metadata : FileMetadata) (session : Option UsageRecord) :
    (admitted crypto service disk request draws metadata session).throttle = service.throttle := by
  unfold admitted
  split
  · rfl
  · dsimp only
    split
    · split_ifs <;> rfl
    · unfold viewed
      dsimp only
      split
      · unfold finished
        dsimp only
        split_ifs
        · split <;> rfl
        · rfl
      · split_ifs <;> rfl

theorem result_of_unvalidated
    (unvalidated : call.request.forceDeception = true ∨ call.throttled = true) :
    call.validation? crypto = none ∧ call.result crypto = call.unvalidated := by
  have skipped : (call.request.forceDeception || call.throttled) = true := by
    simpa using unvalidated
  refine ⟨by rw [ServiceCall.validation?, if_pos skipped], ?_⟩
  unfold ServiceCall.result attemptAccess ServiceCall.unvalidated
  cases forced : call.request.forceDeception with
  | true => rfl
  | false =>
      have throttled : call.throttled = true := by simpa [forced] using unvalidated
      unfold ServiceCall.throttled at throttled
      rw [if_neg Bool.false_ne_true, if_neg Bool.false_ne_true, if_pos throttled]

theorem rejected_mismatch {service : SecureAccessService} (disk : Disk) {request : AccessRequest}
    {draws : AccessDraws} {report : CheckReport} (session : Option UsageRecord)
    (mismatch : mapValidationFailureToTrigger report = .deviceMismatch) :
    let registered := service.throttle.registerMismatch draws.mismatchClock request.fileId
    (rejected service disk request draws report session).throttle = registered.1 ∧
      (Returns (rejected service disk request draws report session).outcome ↔
        registered.2 = .ok ()) := by
  unfold rejected
  rw [if_pos mismatch]
  rcases service.throttle.registerMismatch draws.mismatchClock request.fileId with
    ⟨throttle, exc | _⟩
  · simp [settled]
  · simp [deceived, settled]

/-- What an attempt does to the throttle is what it tells it. -/
theorem result_throttle (crypto : Cryptography) (call : ServiceCall) :
    (call.mark? crypto = none ∧ (call.result crypto).throttle = call.service.throttle) ∨
      (call.mark? crypto = some .success ∧ (call.result crypto).throttle =
        call.service.throttle.registerSuccess call.request.fileId) ∨
      (call.mark? crypto = some (.failure call.draws.mismatchClock) ∧
        let registered := call.service.throttle.registerMismatch call.draws.mismatchClock
          call.request.fileId
        (call.result crypto).throttle = registered.1 ∧
          (Returns (call.result crypto).outcome ↔ registered.2 = .ok ())) := by
  by_cases skipped : call.request.forceDeception = true ∨ call.throttled = true
  · obtain ⟨notRun, result⟩ := @result_of_unvalidated crypto _ skipped
    refine .inl ⟨by rw [ServiceCall.mark?, notRun], ?_⟩
    rw [result]
    rfl
  obtain ⟨notForced, notThrottled⟩ := not_or.mp skipped
  have runs : ¬ (call.request.forceDeception || call.throttled) = true := by
    simpa using skipped
  rw [Bool.not_eq_true] at notForced notThrottled
  unfold ServiceCall.throttled at notThrottled
  unfold ServiceCall.result ServiceCall.mark? ServiceCall.validation? attemptAccess
  rw [if_neg runs, notForced, notThrottled, if_neg Bool.false_ne_true,
    if_neg Bool.false_ne_true]
  unfold validated
  dsimp only
  cases call.service.repository with
  | none => exact .inl ⟨rfl, rfl⟩
  | some repository =>
      simp only [Option.map_some]
      cases ValidationEngine.validate crypto repository call.request.protectionKeys
          call.draws.validationClock.1 call.request.fileId call.request.encryptedFileBytes
          call.request.identity with
      | error exc => exact .inl ⟨rfl, rfl⟩
      | ok report =>
          dsimp only
          cases ok : report.report.ok with
          | true =>
              refine .inr (.inl ⟨rfl, ?_⟩)
              rw [if_neg (Bool.false_ne_true ∘ Eq.symm)]
              cases report.metadata with
              | none => rfl
              | some metadata => exact throttle_admitted ..
          | false =>
              rw [if_pos rfl, if_neg Bool.false_ne_true]
              by_cases mismatch : mapValidationFailureToTrigger report.report = .deviceMismatch
              · rw [if_pos mismatch]
                exact .inr (.inr ⟨rfl, rejected_mismatch _ _ mismatch⟩)
              · rw [if_neg mismatch]
                refine .inl ⟨rfl, ?_⟩
                unfold rejected
                rw [if_neg mismatch]
                rfl

end Attempt

/-! ## Runs -/

theorem fileMarks_concat_none {mark? : ServiceCall → Option (Mark UtcInstant)}
    (calls : List ServiceCall) {call : ServiceCall} (unmarked : mark? call = none) :
    fileMarks mark? (calls ++ [call]) = fileMarks mark? calls := by
  simp [fileMarks, unmarked]

theorem fileMarks_concat {mark? : ServiceCall → Option (Mark UtcInstant)}
    (calls : List ServiceCall) {call : ServiceCall} {mark : Mark UtcInstant}
    (marked : mark? call = some mark) :
    fileMarks mark? (calls ++ [call]) = fileMarks mark? calls ++ [(call.request.fileId, mark)] := by
  simp [fileMarks, marked]

/-- What is left of one file's attempts in its state: the count and the lock of a lockout
policy that was told its marks alone, which cover the mismatches that ended. -/
structure Tracks (crypto : Cryptography) (fileId : String) (calls : List ServiceCall)
    (state : DeviceMismatchState) : Prop where
  driven : ∀ (account : UserAccount) (login : UtcInstant), account.failedAttempts = 0 →
    account.lockedUntil = none →
      let driven := (marksFor fileId (fileMarks (ServiceCall.mark? crypto) calls)).foldl
        (LockoutPolicy.told login) account
      state = ⟨driven.failedAttempts, driven.lockedUntil⟩
  covers : Covers maxFailedAttempts lockoutEndAfter
    (recentFailures (marksFor fileId (fileMarks (ServiceCall.endedMark? crypto) calls)))
    state.failedAttempts state.lockedUntil

namespace Tracks

variable {crypto : Cryptography} {fileId : String} {calls : List ServiceCall}
  {call : ServiceCall} {state : DeviceMismatchState}

/-- Another file's attempt, or one that tells nothing, leaves the state alone. -/
theorem other (tracks : Tracks crypto fileId calls state)
    (silent : call.request.fileId ≠ fileId ∨ call.mark? crypto = none) :
    Tracks crypto fileId (calls ++ [call]) state := by
  have sameMarks {mark? : ServiceCall → Option (Mark UtcInstant)}
      (untold : call.mark? crypto = none → mark? call = none) :
      marksFor fileId (fileMarks mark? (calls ++ [call])) =
        marksFor fileId (fileMarks mark? calls) := by
    rcases silent with different | unmarked
    · cases marked : mark? call with
      | none => rw [fileMarks_concat_none calls marked]
      | some mark => rw [fileMarks_concat calls marked, marksFor_concat_other different]
    · rw [fileMarks_concat_none calls (untold unmarked)]
  constructor
  · rw [sameMarks id]
    exact tracks.driven
  · rw [sameMarks fun unmarked => by rw [ServiceCall.endedMark?, unmarked]]
    exact tracks.covers

theorem success (sameFile : call.request.fileId = fileId)
    (passed : call.mark? crypto = some .success) :
    Tracks crypto fileId (calls ++ [call]) {} := by
  have ended : call.endedMark? crypto = some .success := by
    rw [ServiceCall.endedMark?, passed]
  constructor
  · intro account login _ _
    rw [fileMarks_concat calls passed, sameFile, marksFor_concat_same, List.foldl_concat]
    rfl
  · rw [fileMarks_concat calls ended, sameFile, marksFor_concat_same, recentFailures_concat]
    exact .nil

theorem mismatch (tracks : Tracks crypto fileId calls state)
    (sameFile : call.request.fileId = fileId) {time : UtcInstant}
    (failed : call.mark? crypto = some (.failure time))
    (returns : Returns (call.result crypto).outcome ↔
      (maxFailedAttempts ≤ state.failedAttempts + 1 →
        (lockoutEndAfter (state.failedAttempts + 1) time).isSome)) :
    Tracks crypto fileId (calls ++ [call]) (state.counted time) := by
  constructor
  · intro account login fresh unlocked
    rw [fileMarks_concat calls failed, sameFile, marksFor_concat_same, List.foldl_concat]
    have driven := tracks.driven account login fresh unlocked
    dsimp only at driven ⊢
    rw [driven]
    rfl
  · by_cases ended : Returns (call.result crypto).outcome
    · have marked : call.endedMark? crypto = some (.failure time) := by
        simp only [ServiceCall.endedMark?, failed, if_pos ended]
      rw [fileMarks_concat calls marked, sameFile, marksFor_concat_same, recentFailures_concat]
      refine tracks.covers.failure fun reached => ⟨returns.mp ended reached, ?_⟩
      obtain ⟨lockedUntil, ends⟩ := Option.isSome_iff_exists.mp (returns.mp ended reached)
      simp only [DeviceMismatchState.counted, if_pos reached, ends, Option.some_or]
    · have unmarked : call.endedMark? crypto = none := by
        simp only [ServiceCall.endedMark?, failed, if_neg ended]
      rw [fileMarks_concat_none calls unmarked]
      -- The lockout would end past the last date-time: the lock stays.
      obtain ⟨reached, past⟩ := Classical.not_imp.mp (mt returns.mpr ended)
      have keeps : (state.counted time).lockedUntil = state.lockedUntil := by
        simp only [DeviceMismatchState.counted, if_pos reached,
          Option.not_isSome_iff_eq_none.mp past, Option.none_or]
      rw [keeps]
      exact tracks.covers.untold

end Tracks

/-- An attempt keeps track of every file. -/
theorem Tracks.step {crypto : Cryptography} {calls : List ServiceCall}
    {throttle next : DeviceMismatchThrottle} {call : ServiceCall}
    (tracks : ∀ fileId, Tracks crypto fileId calls (throttle.stateOf fileId))
    (stepped : ProbeStep crypto throttle call next) (fileId : String) :
    Tracks crypto fileId (calls ++ [call]) (next.stateOf fileId) := by
  obtain ⟨rfl, rfl⟩ := stepped
  rcases result_throttle crypto call with ⟨unmarked, kept⟩ | ⟨passed, reset⟩ |
    ⟨failed, counted, returns⟩
  · rw [kept]
    exact (tracks fileId).other (.inr unmarked)
  · rw [reset]
    by_cases sameFile : call.request.fileId = fileId
    · rw [sameFile, DeviceMismatchThrottle.stateOf_registerSuccess]
      exact .success sameFile passed
    · rw [DeviceMismatchThrottle.stateOf_registerSuccess_other _ (Ne.symm sameFile)]
      exact (tracks fileId).other (.inl sameFile)
  · rw [counted]
    by_cases sameFile : call.request.fileId = fileId
    · rw [DeviceMismatchThrottle.registerMismatch_returns, sameFile] at returns
      rw [sameFile, DeviceMismatchThrottle.stateOf_registerMismatch]
      exact (tracks fileId).mismatch sameFile failed returns
    · rw [DeviceMismatchThrottle.stateOf_registerMismatch_other _ _ (Ne.symm sameFile)]
      exact (tracks fileId).other (.inl sameFile)

theorem Tracks.run {crypto : Cryptography} {calls : List ServiceCall}
    {throttle : DeviceMismatchThrottle} (run : Run (ProbeStep crypto) {} calls throttle)
    (fileId : String) : Tracks crypto fileId calls (throttle.stateOf fileId) := by
  revert fileId
  refine run.history (fun calls throttle => ∀ fileId,
    Tracks crypto fileId calls (throttle.stateOf fileId)) (fun tracks stepped fileId =>
      Tracks.step tracks stepped fileId) (fun fileId => ⟨?_, .nil⟩)
  intro account login fresh unlocked
  simp only [fileMarks, List.filterMap_nil, marksFor_nil, List.foldl_nil, fresh, unlocked]
  rfl

/-- After enough mismatches the file is locked for the lockout due to the latest. -/
theorem Tracks.isLocked {crypto : Cryptography} {fileId : String} {calls : List ServiceCall}
    {throttle : DeviceMismatchThrottle}
    (tracks : Tracks crypto fileId calls (throttle.stateOf fileId)) {time now : UtcInstant}
    (enough : maxFailedAttempts ≤ (recentFailures (marksFor fileId
      (fileMarks (ServiceCall.endedMark? crypto) calls))).length)
    (latest : (recentFailures (marksFor fileId
      (fileMarks (ServiceCall.endedMark? crypto) calls))).head? = some time)
    (early : now.1.ticks < time.1.ticks + lockoutTicks (recentFailures (marksFor fileId
      (fileMarks (ServiceCall.endedMark? crypto) calls))).length) :
    throttle.isLocked now fileId = true := by
  obtain ⟨reached, le, ends, locked⟩ := tracks.covers.locked enough time latest
  obtain ⟨lockedUntil, ended⟩ := Option.isSome_iff_exists.mp ends
  rw [DeviceMismatchThrottle.isLocked_eq, locked, ended]
  exact isBefore_lockoutEndAfter le ended early

/-- Whatever attempts are made on a throttle since it was constructed, its state of a
file is that of a lockout policy told the marks of this file alone; and after enough
mismatches since the last success, none is validated before the lockout due to the
latest has lasted. -/
theorem device_probing_limit {crypto : Cryptography} {calls : List ServiceCall}
    {throttle : DeviceMismatchThrottle} (run : Run (ProbeStep crypto) {} calls throttle)
    (fileId : String) :
    (∀ (account : UserAccount) (login : UtcInstant), account.failedAttempts = 0 →
      account.lockedUntil = none →
        let driven := (marksFor fileId (fileMarks (ServiceCall.mark? crypto) calls)).foldl
          (LockoutPolicy.told login) account
        throttle.stateOf fileId = ⟨driven.failedAttempts, driven.lockedUntil⟩) ∧
      let mismatches :=
        recentFailures (marksFor fileId (fileMarks (ServiceCall.endedMark? crypto) calls))
      ∀ time, maxFailedAttempts ≤ mismatches.length → mismatches.head? = some time →
        ∀ call : ServiceCall, call.service.throttle = throttle → call.request.fileId = fileId →
          call.draws.throttleClock.1.ticks < time.1.ticks + lockoutTicks mismatches.length →
            call.validation? crypto = none ∧ call.result crypto = call.unvalidated := by
  have tracks := Tracks.run run fileId
  refine ⟨tracks.driven, ?_⟩
  rintro mismatches time enough latest call rfl rfl early
  exact result_of_unvalidated (.inr (tracks.isLocked enough latest early))

/-! ## A file of another machine -/

theorem validate_of_checked {crypto : Cryptography} {repository : Repository}
    {keys : MetadataProtectionKeys} {now : DateTime} {fileId : String}
    {encryptedFileBytes : Bytes} {identity : PresentedIdentity} {stored : ProtectedMetadata}
    {metadata : FileMetadata} {report : CheckReport}
    (loaded : repository.load fileId = some stored)
    (unprotected : MetadataProtector.unprotect crypto keys stored = .ok metadata)
    (checked : ValidationEngine.checkRecord crypto now
      ((CheckReport.empty.add .metadataPresent true).add .hmac true) metadata encryptedFileBytes
      identity = .ok report) :
    ValidationEngine.validate crypto repository keys now fileId encryptedFileBytes identity =
      .ok ⟨fileId, report, some metadata⟩ := by
  simp only [ValidationEngine.validate, loaded, unprotected, checked, ok_bind]
  rfl

/-- A record that is bound to a machine. -/
def machineMetadata : FileMetadata :=
  { plainMetadata [104, 105] {} {} with deviceBinding := { machineFingerprint := some "m" } }

/-- An attempt on that file from no such machine. -/
def strangerCall (throttle : DeviceMismatchThrottle) : ServiceCall where
  service := { plainService (plainCrypto [104, 105]) machineMetadata with throttle }
  disk := fun _ => none
  request := plainRequest [104, 105]
  draws := plainDraws

/-- The checks on that record, as far as they can pass. -/
def strangerReport : CheckReport :=
  ValidationEngine.mergeBinding (((((CheckReport.empty.add .metadataPresent true).add .hmac
      true).add .metadataIntegrity true).add .fileIntegrity true (some
        "Encrypted file content does not match its stored integrity hash")).add .expiry true
      |>.add .accessCount true |>.add .reusedAccess true)
    (DeviceBindingValidator.validate machineMetadata.deviceBinding {})

theorem strangerReport_mismatch : strangerReport.ok = false ∧
    mapValidationFailureToTrigger strangerReport = .deviceMismatch :=
  ⟨rfl, rfl⟩

theorem strangerCall_mark {throttle : DeviceMismatchThrottle}
    (notThrottled : throttle.isLocked plainInstant "f" = false) :
    (strangerCall throttle).mark? (plainCrypto [104, 105]) = some (.failure plainInstant) := by
  have loaded : (plainRepository (plainCrypto [104, 105]) machineMetadata).load "f" =
      some (plainStored (plainCrypto [104, 105]) machineMetadata) :=
    load_plainRepository (plainCrypto [104, 105]) machineMetadata
  have unprotected := MetadataProtector.unprotect_protect transparent_aesGcmLaws
    (@protect_plainStored (markingDigest (plainBytes [104, 105])) machineMetadata)
  have valid : MetadataController.validate machineMetadata = .ok () :=
    plainMetadata_valid [104, 105] {} {}
  have intact : verifyIntegrityHash (plainCrypto [104, 105]) (plainBytes [104, 105])
      machineMetadata.integrityHash = true := verifyIntegrityHash_compute _ _
  have checked : ValidationEngine.checkRecord (plainCrypto [104, 105]) plainInstant.1
      ((CheckReport.empty.add .metadataPresent true).add .hmac true) machineMetadata
      (plainBytes [104, 105]) {} = .ok strangerReport := by
    simp only [ValidationEngine.checkRecord, ValidationEngine.checkStructure, valid, intact,
      ok_bind]
    rfl
  have validated : (strangerCall throttle).validation? (plainCrypto [104, 105]) =
      some (.ok ⟨"f", strangerReport, some machineMetadata⟩) := by
    have runs : ((strangerCall throttle).request.forceDeception ||
        (strangerCall throttle).throttled) = false := notThrottled
    rw [ServiceCall.validation?, runs, if_neg Bool.false_ne_true]
    exact congrArg some (validate_of_checked loaded unprotected checked)
  obtain ⟨rejected, mismatch⟩ := strangerReport_mismatch
  simp only [ServiceCall.mark?, validated, rejected, mismatch, if_true, Bool.false_eq_true,
    if_false]
  rfl

/-- The shared throttle after so many of these attempts, at one time. -/
def strangerThrottle : Nat → DeviceMismatchThrottle
  | 0 => {}
  | attempts + 1 => ((strangerThrottle attempts).registerMismatch plainInstant "f").1

theorem stateOf_strangerThrottle {attempts : Nat} (few : attempts < maxFailedAttempts) :
    (strangerThrottle attempts).stateOf "f" = ⟨attempts, none⟩ := by
  induction attempts with
  | zero => rfl
  | succ attempts ih =>
      have notReached : ¬ maxFailedAttempts ≤ attempts + 1 := by omega
      rw [strangerThrottle, DeviceMismatchThrottle.stateOf_registerMismatch, ih (by omega),
        DeviceMismatchState.counted, if_neg notReached]

theorem strangerCall_counted {attempts : Nat} (few : attempts < maxFailedAttempts) :
    (strangerCall (strangerThrottle attempts)).endedMark? (plainCrypto [104, 105]) =
        some (.failure plainInstant) ∧
      ((strangerCall (strangerThrottle attempts)).result (plainCrypto [104, 105])).throttle =
        strangerThrottle (attempts + 1) := by
  have marked : (strangerCall (strangerThrottle attempts)).mark? (plainCrypto [104, 105]) =
      some (.failure plainInstant) := by
    apply strangerCall_mark
    rw [DeviceMismatchThrottle.isLocked_eq, stateOf_strangerThrottle few]
    rfl
  rcases result_throttle (plainCrypto [104, 105]) (strangerCall (strangerThrottle attempts))
    with ⟨unmarked, -⟩ | ⟨passed, -⟩ | ⟨-, counted, returns⟩
  · exact nomatch marked.symm.trans unmarked
  · exact nomatch marked.symm.trans passed
  · refine ⟨?_, counted⟩
    have ended : Returns
        ((strangerCall (strangerThrottle attempts)).result (plainCrypto [104, 105])).outcome := by
      refine returns.mpr (DeviceMismatchThrottle.registerMismatch_returns.mpr ?_)
      show _ ≤ ((strangerThrottle attempts).stateOf "f").failedAttempts + 1 →
        (lockoutEndAfter (((strangerThrottle attempts).stateOf "f").failedAttempts + 1)
          plainInstant).isSome
      rw [stateOf_strangerThrottle few]
      intro reached
      obtain rfl : attempts = 4 := by
        have fifth : 5 ≤ attempts + 1 := reached
        have four : attempts < 5 := few
        omega
      decide
    simp only [ServiceCall.endedMark?, marked, if_pos ended]

/-- The first five attempts are validated, and fail. -/
theorem strangerThrottle_run {attempts : Nat} (few : attempts ≤ maxFailedAttempts) :
    let calls := (List.range attempts).map fun earlier => strangerCall (strangerThrottle earlier)
    Run (ProbeStep (plainCrypto [104, 105])) {} calls (strangerThrottle attempts) ∧
      recentFailures (marksFor "f"
        (fileMarks (ServiceCall.endedMark? (plainCrypto [104, 105])) calls)) =
          List.replicate attempts plainInstant := by
  induction attempts with
  | zero => exact ⟨.refl _, rfl⟩
  | succ attempts ih =>
      obtain ⟨run, failures⟩ := ih (by omega)
      obtain ⟨ended, counted⟩ := strangerCall_counted few
      rw [List.range_succ, List.map_append]
      refine ⟨.tail run ⟨rfl, counted.symm⟩, ?_⟩
      have sameFile : (strangerCall (strangerThrottle attempts)).request.fileId = "f" := rfl
      rw [List.map_singleton, fileMarks_concat _ ended, sameFile, marksFor_concat_same,
        recentFailures_concat, failures]
      rfl

/-- The sixth attempt, right after these, is not validated. -/
theorem device_probing_limit_stranger :
    (strangerCall (strangerThrottle 5)).validation? (plainCrypto [104, 105]) = none ∧
      (strangerCall (strangerThrottle 5)).result (plainCrypto [104, 105]) =
        (strangerCall (strangerThrottle 5)).unvalidated := by
  obtain ⟨run, failures⟩ := strangerThrottle_run (show 5 ≤ maxFailedAttempts by decide)
  have limit := (device_probing_limit run "f").2
  rw [failures] at limit
  exact limit plainInstant (by decide) rfl (strangerCall (strangerThrottle 5)) rfl rfl (by decide)

end CryptoUsb
