import CryptoUsb.JsonFields

/-!
# Usage records

The plaintext record of one usage session, and its dictionary form.  A written
record reads back as it was, also when its keys are sorted.
-/

namespace CryptoUsb

open JsonText IsoDateTime

@[ext]
structure UsageRecord where
  sessionId : String
  user : String
  machineId : String
  fileId : String
  usbId : Option String := none
  loginTime : Option DateTime := none
  openTime : Option DateTime := none
  closeTime : Option DateTime := none
  durationSeconds : Option PyFloat := none
  authenticationResult : Option Bool := none
  validationResult : Option Bool := none
  screenCaptureAttempts : Int := 0
  tamperingEvents : Int := 0
  eventType : String := "access"
  previousUsbId : Option String := none
  deriving DecidableEq, Repr

namespace UsageRecord

/-- The members of the dictionary form, in the order of the source. -/
def members (record : UsageRecord) : List (String × Json) :=
  [("session_id", .str record.sessionId),
    ("user", .str record.user),
    ("machine_id", .str record.machineId),
    ("file_id", .str record.fileId),
    ("usb_id", optStr record.usbId),
    ("login_time", optDateTime record.loginTime),
    ("open_time", optDateTime record.openTime),
    ("close_time", optDateTime record.closeTime),
    ("duration_seconds", optFloat record.durationSeconds),
    ("authentication_result", optBool record.authenticationResult),
    ("validation_result", optBool record.validationResult),
    ("screen_capture_attempts", .int record.screenCaptureAttempts),
    ("tampering_events", .int record.tamperingEvents),
    ("event_type", .str record.eventType),
    ("previous_usb_id", optStr record.previousUsbId)]

def toDict (record : UsageRecord) : Json :=
  .obj record.members

def fromDict (data : Json) : Raises UsageRecord := do
  let sessionId ← asStr (← getItem data "session_id")
  let user ← asStr (← getItem data "user")
  let machineId ← asStr (← getItem data "machine_id")
  let fileId ← asStr (← getItem data "file_id")
  let usbId ← asOptional asStr (← getOr data "usb_id" .null)
  let loginTime ← getDateTime data "login_time"
  let openTime ← getDateTime data "open_time"
  let closeTime ← getDateTime data "close_time"
  let durationSeconds ← asOptional asFloat (← getOr data "duration_seconds" .null)
  let authenticationResult ← asOptional asBool (← getOr data "authentication_result" .null)
  let validationResult ← asOptional asBool (← getOr data "validation_result" .null)
  let screenCaptureAttempts ← asInt (← getOr data "screen_capture_attempts" (.int 0))
  let tamperingEvents ← asInt (← getOr data "tampering_events" (.int 0))
  let eventType ← asStr (← getOr data "event_type" (.str "access"))
  let previousUsbId ← asOptional asStr (← getOr data "previous_usb_id" .null)
  return {
    sessionId
    user
    machineId
    fileId
    usbId
    loginTime
    openTime
    closeTime
    durationSeconds
    authenticationResult
    validationResult
    screenCaptureAttempts
    tamperingEvents
    eventType
    previousUsbId }

/-! ## Reading what was written -/

theorem fromDict_of_lookup {record : UsageRecord} {members : List (String × Json)}
    (same : ∀ key, memberLookup key members = memberLookup key record.members) :
    fromDict (.obj members) = .ok record := by
  have loginTime : getDateTime (.obj members) "login_time" = .ok record.loginTime :=
    getDateTime_optDateTime (by rw [getOr, same]; rfl)
  have openTime : getDateTime (.obj members) "open_time" = .ok record.openTime :=
    getDateTime_optDateTime (by rw [getOr, same]; rfl)
  have closeTime : getDateTime (.obj members) "close_time" = .ok record.closeTime :=
    getDateTime_optDateTime (by rw [getOr, same]; rfl)
  simp [fromDict, loginTime, openTime, closeTime, getItem, getOr, same, UsageRecord.members,
    memberLookup, pure, Except.pure]

theorem floatsReadable_toDict (record : UsageRecord) : FloatsReadable record.toDict := by
  have text (value : Option String) : FloatsReadable (optStr value) := by cases value <;> trivial
  have time (value : Option DateTime) : FloatsReadable (optDateTime value) := by
    cases value <;> trivial
  have answer (value : Option Bool) : FloatsReadable (optBool value) := by
    cases value <;> trivial
  have duration (value : Option PyFloat) : FloatsReadable (optFloat value) := by
    cases value with
    | none => trivial
    | some value => exact value.readable
  exact ⟨trivial, trivial, trivial, trivial, text _, time _, time _, time _, duration _,
    answer _, answer _, trivial, trivial, trivial, text _, trivial⟩

private theorem sortKeys_members (record : UsageRecord) :
    ∀ member ∈ record.members, sortKeys member.2 = member.2 := by
  have text (value : Option String) : sortKeys (optStr value) = optStr value := by
    cases value <;> rfl
  have time (value : Option DateTime) : sortKeys (optDateTime value) = optDateTime value := by
    cases value <;> rfl
  have answer (value : Option Bool) : sortKeys (optBool value) = optBool value := by
    cases value <;> rfl
  have duration (value : Option PyFloat) : sortKeys (optFloat value) = optFloat value := by
    cases value <;> rfl
  simp [members, text, time, answer, duration, sortKeys]

theorem fromDict_loads_dumps (record : UsageRecord) :
    ∃ data, loads (dumps (sortKeys record.toDict)) = some data ∧ fromDict data = .ok record := by
  have distinct : (record.members.map Prod.fst).Nodup := by
    simp [members]
  have read := fromDict_of_lookup
    (memberLookup_sortKeysMembers distinct record.sortKeys_members)
  have sorted : sortKeys record.toDict = .obj (sortKeysMembers record.members) := by
    rw [toDict, sortKeys]
  refine ⟨sortKeys record.toDict, loads_dumps_sortKeys _ record.floatsReadable_toDict, ?_⟩
  rw [sorted, read]

end UsageRecord

end CryptoUsb
