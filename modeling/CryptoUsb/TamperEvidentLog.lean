import CryptoUsb.HashChains
import CryptoUsb.MetadataProtection
import CryptoUsb.UsageRecords

/-!
# The tamper-evident log

Usage records are encrypted, authenticated and chained: each entry's HMAC also
covers the HMAC of the entry before it.  The repository appends entries and
never changes one.
-/

namespace CryptoUsb

open ByteString JsonText HashChains

@[ext]
structure TrackingProtectionKeys where
  encryptionKey : Bytes
  hmacKey : Bytes
  deriving DecidableEq

def generateTrackingKeys (entropy : ProtectionKeyEntropy) : TrackingProtectionKeys where
  encryptionKey := entropy.encryptionKey.1
  hmacKey := entropy.hmacKey.1

/-- What is stored of one usage record. -/
@[ext]
structure ChainedLogEntry where
  nonce : Bytes
  ciphertext : Bytes
  prevHmac : Bytes
  entryHmac : Bytes
  deriving DecidableEq

structure ChainVerificationResult where
  ok : Bool
  verifiedCount : Nat
  reason : Option String := none
  deriving DecidableEq, Repr

namespace TamperEvidentLog

/-- The fixed root that the first entry follows. -/
def genesisHmac : Bytes := List.replicate 32 0

/-- The fields joined by `b"|"`. -/
def macInput (prevHmac nonce ciphertext : Bytes) : Bytes :=
  prevHmac ++ (124 :: (nonce ++ (124 :: ciphertext)))

def payload (record : UsageRecord) : Bytes :=
  encodeUtf8 (dumps (sortKeys record.toDict))

/-- `TamperEvidentLog.seal`. -/
def sealRecord (crypto : Cryptography) (keys : TrackingProtectionKeys) (nonce : AesCipher.Nonce)
    (record : UsageRecord) (prevHmac : Bytes) : Raises ChainedLogEntry := do
  let (nonce, ciphertext) ← AesCipher.encrypt crypto nonce (payload record) keys.encryptionKey
  return {
    nonce
    ciphertext
    prevHmac
    entryHmac := HmacUtil.computeHmac crypto keys.hmacKey (macInput prevHmac nonce ciphertext) }

def verifyEntry (crypto : Cryptography) (keys : TrackingProtectionKeys)
    (entry : ChainedLogEntry) : Bool :=
  let macInput := macInput entry.prevHmac entry.nonce entry.ciphertext
  HmacUtil.verifyHmac crypto keys.hmacKey macInput entry.entryHmac

/-- `UsageRecord.from_dict(json.loads(payload.decode("utf-8")))`. -/
def readPayload (payload : Bytes) : Raises UsageRecord := do
  let text ← decodeUtf8Bytes payload
  match loads text with
  | none => raise .valueError "Expecting value"
  | some data => UsageRecord.fromDict data

/-- `TamperEvidentLog.open`. -/
def openEntry (crypto : Cryptography) (keys : TrackingProtectionKeys)
    (entry : ChainedLogEntry) : Raises UsageRecord :=
  if verifyEntry crypto keys entry = false then
    raise .trackingTamperError "Usage log entry failed its integrity check"
  else
    match AesCipher.decrypt crypto entry.nonce entry.ciphertext keys.encryptionKey with
    | .error exc =>
        raise .trackingTamperError s!"Usage log entry failed to decrypt: {exc.message}"
    | .ok payload => readPayload payload

/-- The loop of `verify_chain` from one index on. -/
def verifyChainFrom (crypto : Cryptography) (keys : TrackingProtectionKeys) (index : Nat)
    (expectedPrev : Bytes) : List ChainedLogEntry → ChainVerificationResult
  | [] => { ok := true, verifiedCount := index }
  | entry :: entries =>
      if entry.prevHmac ≠ expectedPrev then
        { ok := false
          verifiedCount := index
          reason := some (s!"Broken chain link at entry {index}: does not follow from the " ++
            "previous entry (an entry was deleted, inserted, or reordered)") }
      else if verifyEntry crypto keys entry = false then
        { ok := false
          verifiedCount := index
          reason := some
            s!"HMAC mismatch at entry {index}: entry content or chain link was modified" }
      else verifyChainFrom crypto keys (index + 1) entry.entryHmac entries

def verifyChain (crypto : Cryptography) (keys : TrackingProtectionKeys)
    (entries : List ChainedLogEntry) : ChainVerificationResult :=
  verifyChainFrom crypto keys 0 genesisHmac entries

/-- Every entry follows the one before it. -/
abbrev Chained (expectedPrev : Bytes) (entries : List ChainedLogEntry) : Prop :=
  Linked ChainedLogEntry.prevHmac ChainedLogEntry.entryHmac expectedPrev entries

/-- The entry was sealed from the record under these keys. -/
def Seals (crypto : Cryptography) (keys : TrackingProtectionKeys) (entry : ChainedLogEntry)
    (record : UsageRecord) : Prop :=
  ∃ nonce, sealRecord crypto keys nonce record entry.prevHmac = .ok entry

variable {crypto : Cryptography} {keys : TrackingProtectionKeys} {entry : ChainedLogEntry}
  {entries : List ChainedLogEntry} {record : UsageRecord} {prevHmac : Bytes}

theorem readPayload_payload (record : UsageRecord) :
    readPayload (payload record) = .ok record := by
  obtain ⟨data, loaded, read⟩ := record.fromDict_loads_dumps
  simp [readPayload, payload, loaded, read]

theorem sealRecord_eq_ok {nonce : AesCipher.Nonce} :
    sealRecord crypto keys nonce record prevHmac = .ok entry ↔
      AesCipher.encrypt crypto nonce (payload record) keys.encryptionKey =
          .ok (entry.nonce, entry.ciphertext) ∧
        entry.prevHmac = prevHmac ∧ entry.entryHmac = HmacUtil.computeHmac crypto keys.hmacKey
          (macInput prevHmac entry.nonce entry.ciphertext) := by
  simp only [sealRecord, bind_eq_ok, Prod.exists]
  constructor
  · rintro ⟨nonce, ciphertext, encrypted, written⟩
    obtain rfl := Except.ok.inj written
    exact ⟨encrypted, rfl, rfl⟩
  · rintro ⟨encrypted, follows, tag⟩
    refine ⟨_, _, encrypted, congrArg Except.ok ?_⟩
    ext1 <;> simp [follows, tag]

theorem sealRecord_total (total : crypto.EncryptsAll)
    (size : keys.encryptionKey.length = AesCipher.aesKeySizeBytes) (nonce : AesCipher.Nonce)
    (record : UsageRecord) (prevHmac : Bytes) :
    ∃ entry, sealRecord crypto keys nonce record prevHmac = .ok entry ∧ entry.prevHmac = prevHmac ∧
      Seals crypto keys entry record := by
  obtain ⟨ciphertext, encrypted⟩ := AesCipher.encrypt_total total nonce (payload record) size
  have sealed : sealRecord crypto keys nonce record prevHmac = .ok {
      nonce := nonce.1
      ciphertext
      prevHmac
      entryHmac := HmacUtil.computeHmac crypto keys.hmacKey
        (macInput prevHmac nonce.1 ciphertext) } := by
    simp [sealRecord, encrypted, pure, Except.pure]
  exact ⟨_, sealed, rfl, nonce, sealed⟩

theorem Seals.entryHmac (sealed : Seals crypto keys entry record) :
    entry.entryHmac = HmacUtil.computeHmac crypto keys.hmacKey
      (macInput entry.prevHmac entry.nonce entry.ciphertext) := by
  obtain ⟨nonce, written⟩ := sealed
  exact (sealRecord_eq_ok.mp written).2.2

theorem Seals.verifyEntry (sealed : Seals crypto keys entry record) :
    verifyEntry crypto keys entry = true := by
  simp [TamperEvidentLog.verifyEntry, HmacUtil.verifyHmac, sealed.entryHmac]

theorem Seals.openEntry (laws : crypto.AesGcmLaws) (sealed : Seals crypto keys entry record) :
    openEntry crypto keys entry = .ok record := by
  obtain ⟨nonce, written⟩ := sealed
  have decrypted := AesCipher.decrypt_of_encrypt laws (sealRecord_eq_ok.mp written).1
  have verified := Seals.verifyEntry ⟨nonce, written⟩
  simp [TamperEvidentLog.openEntry, verified, decrypted, readPayload_payload]

/-- A verified chain is a chain of verified entries, all of them counted. -/
theorem verifyChainFrom_ok {index : Nat} {expectedPrev : Bytes} :
    (verifyChainFrom crypto keys index expectedPrev entries).ok = true ↔
      Chained expectedPrev entries ∧ ∀ entry ∈ entries, verifyEntry crypto keys entry = true := by
  induction entries generalizing index expectedPrev with
  | nil => simp [verifyChainFrom, Chained, Linked]
  | cons entry entries ih =>
      simp only [verifyChainFrom, Chained, Linked, List.forall_mem_cons]
      split_ifs with broken mismatch
      · simp [broken]
      · simp [mismatch]
      · have verified := Bool.eq_true_of_not_eq_false mismatch
        have follows := not_ne_iff.mp broken
        rw [ih]
        simp [verified, follows, Chained]

theorem verifyChainFrom_of_ok {index : Nat} {expectedPrev : Bytes}
    (verified : (verifyChainFrom crypto keys index expectedPrev entries).ok = true) :
    verifyChainFrom crypto keys index expectedPrev entries =
      { ok := true, verifiedCount := index + entries.length } := by
  induction entries generalizing index expectedPrev with
  | nil => rfl
  | cons entry entries ih =>
      simp only [verifyChainFrom] at verified ⊢
      split_ifs at verified ⊢
      rw [ih verified, List.length_cons]
      congr 1
      omega

theorem verifyChain_ok :
    (verifyChain crypto keys entries).ok = true ↔
      Chained genesisHmac entries ∧ ∀ entry ∈ entries, verifyEntry crypto keys entry = true :=
  verifyChainFrom_ok

theorem verifyChain_of_ok (verified : (verifyChain crypto keys entries).ok = true) :
    verifyChain crypto keys entries = { ok := true, verifiedCount := entries.length } := by
  have result := verifyChainFrom_of_ok verified
  rwa [Nat.zero_add] at result

end TamperEvidentLog

/-! ## The repository -/

structure UsageLogRow where
  sessionId : String
  entry : ChainedLogEntry
  deriving DecidableEq

/-- The rows of `usage_log` in the order of their ids. -/
abbrev TrackingRepository :=
  List UsageLogRow

namespace TrackingRepository

def lastEntryHmac (repository : TrackingRepository) : Bytes :=
  match repository.getLast? with
  | some row => row.entry.entryHmac
  | none => TamperEvidentLog.genesisHmac

def append (repository : TrackingRepository) (sessionId : String) (entry : ChainedLogEntry) :
    TrackingRepository :=
  repository ++ [⟨sessionId, entry⟩]

def listEntries (repository : TrackingRepository) : List ChainedLogEntry :=
  repository.map UsageLogRow.entry

/-- `clear`: an all-or-nothing wipe. -/
def clear (_ : TrackingRepository) : TrackingRepository :=
  []

theorem lastEntryHmac_eq (repository : TrackingRepository) :
    repository.lastEntryHmac = lastTag ChainedLogEntry.entryHmac TamperEvidentLog.genesisHmac
      repository.listEntries := by
  rw [lastTag_eq_getLast?, listEntries, List.getLast?_map, lastEntryHmac]
  cases repository.getLast? <;> rfl

theorem listEntries_append (repository : TrackingRepository) (sessionId : String)
    (entry : ChainedLogEntry) :
    (repository.append sessionId entry).listEntries = repository.listEntries ++ [entry] := by
  simp [append, listEntries]

end TrackingRepository

end CryptoUsb
