import CryptoUsb.StorageWriter
import CryptoUsb.TamperEvidentLog

/-!
# Usage tracking

The tracker keeps a session's record in memory and seals it into the log when
the session is closed.  A log that was sealed under one set of keys verifies and
reads back under these keys.
-/

namespace CryptoUsb

open ByteString IsoDateTime HashChains

namespace UsageTracker

variable (crypto : Cryptography) (totalSeconds : Int → PyFloat) (keys : TrackingProtectionKeys)

def startSession (user machineId fileId : String) (usbId : Option String) (uuid : BytesOf 16)
    (now : UtcInstant) : UsageRecord where
  sessionId := uuidText (uuid4 uuid)
  user := user
  machineId := machineId
  fileId := fileId
  usbId := usbId
  loginTime := some now.1

def recordAuthenticationResult (record : UsageRecord) (success : Bool) : UsageRecord :=
  { record with authenticationResult := some success }

def recordValidationResult (record : UsageRecord) (success : Bool) : UsageRecord :=
  { record with validationResult := some success }

def recordOpen (record : UsageRecord) (now : UtcInstant) : UsageRecord :=
  { record with openTime := some now.1 }

def recordScreenCaptureAttempt (record : UsageRecord) : UsageRecord :=
  { record with screenCaptureAttempts := record.screenCaptureAttempts + 1 }

def recordTamperingEvent (record : UsageRecord) : UsageRecord :=
  { record with tamperingEvents := record.tamperingEvents + 1 }

/-- Seal a record and append it, if there is a repository. -/
def appendRecord (nonce : AesCipher.Nonce) (record : UsageRecord) :
    Option TrackingRepository → Raises (Option TrackingRepository)
  | none => .ok none
  | some repository => do
      let entry ← TamperEvidentLog.sealRecord crypto keys nonce record repository.lastEntryHmac
      return some (repository.append record.sessionId entry)

/-- The close time and, for a record that was opened, the duration.  How
`total_seconds` rounds to a float is the parameter `totalSeconds`. -/
def finalizeRecord (now : UtcInstant) (record : UsageRecord) : Raises UsageRecord :=
  match record.openTime with
  | none => .ok { record with closeTime := some now.1 }
  | some openTime =>
      match now.1.subtract openTime with
      | none => raise .typeError "can't subtract offset-naive and offset-aware datetimes"
      | some microseconds =>
          .ok { record with
            closeTime := some now.1
            durationSeconds := some (totalSeconds microseconds) }

def recordClose (now : UtcInstant) (nonce : AesCipher.Nonce) (record : UsageRecord)
    (repository : Option TrackingRepository) :
    Raises (UsageRecord × Option TrackingRepository) := do
  let record ← finalizeRecord totalSeconds now record
  let repository ← appendRecord crypto keys nonce record repository
  return (record, repository)

def rebindRecord (user machineId fileId : String) (previousUsbId newUsbId : Option String)
    (uuid : BytesOf 16) (now : UtcInstant) : UsageRecord where
  sessionId := uuidText (uuid4 uuid)
  user := user
  machineId := machineId
  fileId := fileId
  usbId := newUsbId
  previousUsbId := previousUsbId
  loginTime := some now.1
  closeTime := some now.1
  durationSeconds := some PyFloat.zero
  authenticationResult := some true
  eventType := "device_rebind"

def recordDeviceRebind (user machineId fileId : String) (previousUsbId newUsbId : Option String)
    (uuid : BytesOf 16) (now : UtcInstant) (nonce : AesCipher.Nonce)
    (repository : Option TrackingRepository) :
    Raises (UsageRecord × Option TrackingRepository) := do
  let record := rebindRecord user machineId fileId previousUsbId newUsbId uuid now
  let repository ← appendRecord crypto keys nonce record repository
  return (record, repository)

def readAllRecords : Option TrackingRepository → Raises (List UsageRecord)
  | none => .ok []
  | some repository => repository.listEntries.mapM (TamperEvidentLog.openEntry crypto keys)

def verifyLogIntegrity : Option TrackingRepository → ChainVerificationResult
  | none => { ok := true, verifiedCount := 0 }
  | some repository => TamperEvidentLog.verifyChain crypto keys repository.listEntries

end UsageTracker

theorem UsageTracker.appendRecord_eq_ok {crypto : Cryptography} {keys : TrackingProtectionKeys}
    {nonce : AesCipher.Nonce} {record : UsageRecord} {repository : TrackingRepository}
    {after : Option TrackingRepository} :
    appendRecord crypto keys nonce record (some repository) = .ok after ↔
      ∃ entry, TamperEvidentLog.sealRecord crypto keys nonce record repository.lastEntryHmac =
          .ok entry ∧ after = some (repository.append record.sessionId entry) := by
  simp only [appendRecord, bind_eq_ok, pure_eq_ok]

/-! ## Sealed logs -/

/-- The entries of the log are the records, sealed in order under these keys. -/
structure SealedLog (crypto : Cryptography) (keys : TrackingProtectionKeys)
    (repository : TrackingRepository) (records : List UsageRecord) : Prop where
  chained : TamperEvidentLog.Chained TamperEvidentLog.genesisHmac repository.listEntries
  sealed : List.Forall₂ (TamperEvidentLog.Seals crypto keys) repository.listEntries records

namespace SealedLog

variable {crypto : Cryptography} {keys : TrackingProtectionKeys}
  {repository : TrackingRepository} {records : List UsageRecord}

theorem empty : SealedLog crypto keys [] [] :=
  ⟨trivial, .nil⟩

theorem append (log : SealedLog crypto keys repository records) {record : UsageRecord}
    {entry : ChainedLogEntry} (sessionId : String)
    (follows : entry.prevHmac = repository.lastEntryHmac)
    (sealed : TamperEvidentLog.Seals crypto keys entry record) :
    SealedLog crypto keys (repository.append sessionId entry) (records ++ [record]) := by
  constructor
  · rw [TrackingRepository.listEntries_append]
    rw [TrackingRepository.lastEntryHmac_eq] at follows
    exact log.chained.concat follows
  · rw [TrackingRepository.listEntries_append]
    exact List.rel_append log.sealed (.cons sealed .nil)

theorem length (log : SealedLog crypto keys repository records) :
    repository.listEntries.length = records.length :=
  log.sealed.length_eq

theorem verifyEntry (log : SealedLog crypto keys repository records) {entry : ChainedLogEntry}
    (member : entry ∈ repository.listEntries) :
    TamperEvidentLog.verifyEntry crypto keys entry = true := by
  obtain ⟨index, inRange, rfl⟩ := List.mem_iff_getElem.mp member
  have sameLength := log.length
  have sealed := log.sealed.get inRange (by omega)
  exact TamperEvidentLog.Seals.verifyEntry sealed

theorem verifies (log : SealedLog crypto keys repository records) :
    UsageTracker.verifyLogIntegrity crypto keys (some repository) =
      { ok := true, verifiedCount := records.length } := by
  have verified := TamperEvidentLog.verifyChain_ok.mpr
    ⟨log.chained, fun _ member => log.verifyEntry member⟩
  rw [UsageTracker.verifyLogIntegrity, TamperEvidentLog.verifyChain_of_ok verified, log.length]

theorem readAllRecords (laws : crypto.AesGcmLaws)
    (log : SealedLog crypto keys repository records) :
    UsageTracker.readAllRecords crypto keys (some repository) = .ok records := by
  have read {entries : List ChainedLogEntry} {records : List UsageRecord}
      (sealed : List.Forall₂ (TamperEvidentLog.Seals crypto keys) entries records) :
      entries.mapM (TamperEvidentLog.openEntry crypto keys) = .ok records := by
    induction sealed with
    | nil => rfl
    | cons first _ ih => simp [first.openEntry laws, ih, pure, Except.pure]
  exact read log.sealed

end SealedLog

end CryptoUsb
