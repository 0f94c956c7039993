import CryptoUsb.TrackedSessions

/-!
# Tampering with the log

What an edit of the stored rows by someone without the keys can do unnoticed.
Deleting entries is noticed unless only the last ones go; changing the fields of
entries is noticed unless the separator of the MAC input also occurs inside a
field, where the boundary between the fields can be moved.
-/

namespace CryptoUsb

open ByteString TransitionRuns HashChains TamperEvidentLog

/-- The MAC input of an entry. -/
def ChainedLogEntry.macInput (entry : ChainedLogEntry) : Bytes :=
  TamperEvidentLog.macInput entry.prevHmac entry.nonce entry.ciphertext

/-- The tags of the entries of a log tell their MAC inputs apart, and none is the
root of the chain. -/
structure TagsDistinguish (crypto : Cryptography) (keys : TrackingProtectionKeys)
    (entries : List ChainedLogEntry) : Prop where
  injective : ∀ first ∈ entries, ∀ second ∈ entries,
    HmacUtil.computeHmac crypto keys.hmacKey first.macInput =
      HmacUtil.computeHmac crypto keys.hmacKey second.macInput →
        first.macInput = second.macInput
  notGenesis : ∀ entry ∈ entries,
    HmacUtil.computeHmac crypto keys.hmacKey entry.macInput ≠ genesisHmac

section Fields

variable {crypto : Cryptography} {keys : TrackingProtectionKeys}
  {repository : TrackingRepository} {records : List UsageRecord}
  {entries : List ChainedLogEntry} {entry other : ChainedLogEntry}

theorem verifyEntry_eq_true :
    verifyEntry crypto keys entry = true ↔
      entry.entryHmac = HmacUtil.computeHmac crypto keys.hmacKey entry.macInput := by
  simp [verifyEntry, HmacUtil.verifyHmac, ChainedLogEntry.macInput, eq_comm]

theorem length_prevHmac (chained : Chained genesisHmac entries)
    (verified : ∀ entry ∈ entries, verifyEntry crypto keys entry = true)
    (member : entry ∈ entries) : entry.prevHmac.length = 32 := by
  obtain ⟨index, inRange, rfl⟩ := List.mem_iff_getElem.mp member
  have named := List.mem_of_getElem? (chained.getElem?_previous inRange)
  rcases List.mem_cons.mp named with root | tag
  · rw [root]
    rfl
  · obtain ⟨before, there, same⟩ := List.mem_map.mp tag
    rw [← same, verifyEntry_eq_true.mp (verified before there)]
    exact HmacUtil.length_computeHmac crypto _ _

/-- The MAC input determines the tag it names, and the other fields up to the place
of the separator. -/
theorem macInput_inj (size : entry.prevHmac.length = 32) (otherSize : other.prevHmac.length = 32)
    (same : entry.macInput = other.macInput) :
    entry.prevHmac = other.prevHmac ∧
      entry.nonce ++ 124 :: entry.ciphertext = other.nonce ++ 124 :: other.ciphertext := by
  obtain ⟨prevHmac, rest⟩ := List.append_inj same (by omega)
  exact ⟨prevHmac, (List.cons.inj rest).2⟩

/-- Without the separator inside the fields there is only one place for it. -/
theorem fields_inj {nonce ciphertext otherNonce otherCiphertext : Bytes}
    (nonceFree : (124 : UInt8) ∉ nonce) (ciphertextFree : (124 : UInt8) ∉ ciphertext)
    (same : otherNonce ++ 124 :: otherCiphertext = nonce ++ 124 :: ciphertext) :
    otherNonce = nonce ∧ otherCiphertext = ciphertext := by
  rcases List.append_eq_append_iff.mp same with ⟨between, longer, rest⟩ | ⟨between, longer, rest⟩
  · cases between with
    | nil => simpa [longer] using rest
    | cons byte between =>
        obtain ⟨rfl, -⟩ := List.cons.inj rest
        rw [longer] at nonceFree
        simp at nonceFree
  · cases between with
    | nil => simpa [longer, eq_comm] using rest
    | cons byte between =>
        obtain ⟨rfl, -⟩ := List.cons.inj rest
        have inside : ciphertext = between ++ 124 :: otherCiphertext := (List.cons.inj rest).2
        rw [inside] at ciphertextFree
        simp at ciphertextFree

theorem SealedLog.length_prevHmac (log : SealedLog crypto keys repository records)
    (member : entry ∈ repository.listEntries) : entry.prevHmac.length = 32 :=
  CryptoUsb.length_prevHmac log.chained (fun _ there => log.verifyEntry there) member

theorem SealedLog.entryHmac (log : SealedLog crypto keys repository records)
    (member : entry ∈ repository.listEntries) :
    entry.entryHmac = HmacUtil.computeHmac crypto keys.hmacKey entry.macInput :=
  verifyEntry_eq_true.mp (log.verifyEntry member)

theorem SealedLog.nodup (log : SealedLog crypto keys repository records)
    (distinguish : TagsDistinguish crypto keys repository.listEntries) :
    (genesisHmac :: repository.listEntries.map ChainedLogEntry.entryHmac).Nodup := by
  refine log.chained.nodup ?_ ?_
  · intro first firstMember second secondMember sameTag
    rw [log.entryHmac firstMember, log.entryHmac secondMember] at sameTag
    exact (macInput_inj (log.length_prevHmac firstMember) (log.length_prevHmac secondMember)
      (distinguish.injective first firstMember second secondMember sameTag)).1
  · intro entry member
    rw [log.entryHmac member]
    exact distinguish.notGenesis entry member

end Fields

/-! ## A log of rebinds -/

def plainRebind : UsageRecord :=
  UsageTracker.rebindRecord "user" "machine" "f" none (some "usb") (padTo 16 []) plainInstant

def plainEntry (nonce : AesCipher.Nonce) (record : UsageRecord) (prevHmac : Bytes) :
    ChainedLogEntry where
  nonce := nonce.1
  ciphertext := plainTrackingKeys.encryptionKey ++ payload record
  prevHmac := prevHmac
  entryHmac := HmacUtil.computeHmac chainCrypto plainTrackingKeys.hmacKey
    (macInput prevHmac nonce.1 (plainTrackingKeys.encryptionKey ++ payload record))

/-- A log of one rebind for each nonce, the latest first. -/
def plainLog : List AesCipher.Nonce → TrackingRepository
  | [] => []
  | nonce :: earlier =>
      (plainLog earlier).append plainRebind.sessionId
        (plainEntry nonce plainRebind (plainLog earlier).lastEntryHmac)

theorem sealRecord_plain (nonce : AesCipher.Nonce) (record : UsageRecord) (prevHmac : Bytes) :
    sealRecord chainCrypto plainTrackingKeys nonce record prevHmac =
      .ok (plainEntry nonce record prevHmac) :=
  sealRecord_eq_ok.mpr ⟨AesCipher.encrypt_eq_ok.mpr
    ⟨by decide, rfl, (@transparent_encrypt (padTo 32) _ _ _ _).mpr ⟨⟨by decide, nonce.2⟩, rfl⟩⟩,
    rfl, rfl⟩

theorem plainLog_run (nonces : List AesCipher.Nonce) :
    ∃ events, Run (TrackerStep chainCrypto wholeSeconds plainTrackingKeys) {} events
      { repository := plainLog nonces } := by
  induction nonces with
  | nil => exact ⟨[], .refl _⟩
  | cons nonce earlier ih =>
      obtain ⟨events, run⟩ := ih
      have called : .ok (plainRebind, some (plainLog (nonce :: earlier))) =
          UsageTracker.recordDeviceRebind chainCrypto plainTrackingKeys "user" "machine" "f" none
            (some "usb") (padTo 16 []) plainInstant nonce (some (plainLog earlier)) := by
        simp only [UsageTracker.recordDeviceRebind, UsageTracker.appendRecord, sealRecord_plain,
          ok_bind]
        rfl
      have stepped : TrackerStep chainCrypto wholeSeconds plainTrackingKeys
          { repository := plainLog earlier } _ { repository := plainLog (nonce :: earlier) } :=
        .rebind { repository := plainLog earlier } _ _ _ _ _ _ _ _ called
      exact ⟨_, run.tail stepped⟩

/-- Distinct nonces make distinct tags. -/
theorem chainCrypto_distinguish {entries : List ChainedLogEntry}
    (sizes : ∀ entry ∈ entries, entry.prevHmac.length = 32 ∧ entry.nonce.length = 12)
    (distinct : (entries.map ChainedLogEntry.nonce).Nodup) :
    TagsDistinguish chainCrypto plainTrackingKeys entries := by
  have tag : ∀ entry ∈ entries,
      HmacUtil.computeHmac chainCrypto plainTrackingKeys.hmacKey entry.macInput =
        1 :: (entry.nonce ++ List.replicate 19 0) := by
    intro entry member
    obtain ⟨prevSize, nonceSize⟩ := sizes entry member
    have joined : entry.macInput =
        (entry.prevHmac ++ [124]) ++ (entry.nonce ++ 124 :: entry.ciphertext) := by
      simp [ChainedLogEntry.macInput, macInput]
    have shown : (entry.macInput.drop 33).take 12 = entry.nonce := by
      rw [joined, List.drop_left' (by simp [prevSize]), List.take_left' nonceSize]
    calc
      HmacUtil.computeHmac chainCrypto plainTrackingKeys.hmacKey entry.macInput =
          (padTo 32 (1 :: (entry.macInput.drop 33).take 12)).1 := rfl
      _ = 1 :: (entry.nonce ++ List.replicate 19 0) := by
        rw [shown]
        simp [padTo, List.take_append, nonceSize]
  constructor
  · intro first firstMember second secondMember same
    rw [tag first firstMember, tag second secondMember] at same
    have sameNonce : first.nonce = second.nonce := List.append_cancel_right (List.cons.inj same).2
    rw [List.inj_on_of_nodup_map distinct firstMember secondMember sameNonce]
  · intro entry member
    rw [tag entry member]
    intro genesis
    exact absurd (List.cons.inj genesis).1 (by decide)

private theorem plainLog_nonces (nonces : List AesCipher.Nonce) :
    (plainLog nonces).listEntries.map ChainedLogEntry.nonce =
      (nonces.map Subtype.val).reverse := by
  induction nonces with
  | nil => rfl
  | cons nonce earlier ih =>
      rw [plainLog, TrackingRepository.listEntries_append, List.map_append, ih]
      simp [plainEntry]

theorem plainLog_distinguish {nonces : List AesCipher.Nonce}
    (distinct : (nonces.map Subtype.val).Nodup) :
    TagsDistinguish chainCrypto plainTrackingKeys (plainLog nonces).listEntries := by
  obtain ⟨events, run⟩ := plainLog_run nonces
  have log := sealedLog_of_run run
  refine chainCrypto_distinguish (fun entry member => ⟨log.length_prevHmac member, ?_⟩) ?_
  · have inNonces : entry.nonce ∈ (nonces.map Subtype.val).reverse := by
      rw [← plainLog_nonces]
      exact List.mem_map_of_mem member
    obtain ⟨nonce, -, same⟩ := List.mem_map.mp (List.mem_reverse.mp inNonces)
    rw [← same]
    exact nonce.2
  · rw [plainLog_nonces]
    exact List.nodup_reverse.mpr distinct

/-! ## Deleting entries -/

section Deletion

variable {crypto : Cryptography} {totalSeconds : Int → PyFloat} {keys : TrackingProtectionKeys}

/-- What is left of a log after a deletion verifies exactly when only entries at
the end were deleted. -/
theorem deletion_noticed_iff {events : List TrackerEvent} {state : TrackingState}
    (run : Run (TrackerStep crypto totalSeconds keys) {} events state)
    (distinguish : TagsDistinguish crypto keys state.repository.listEntries)
    {kept : List ChainedLogEntry} (sublist : kept.Sublist state.repository.listEntries) :
    (verifyChain crypto keys kept).ok = false ↔ ¬ kept <+: state.repository.listEntries := by
  have log := sealedLog_of_run run
  have keptVerified : ∀ entry ∈ kept, verifyEntry crypto keys entry = true :=
    fun entry member => log.verifyEntry (sublist.subset member)
  have accepted : (verifyChain crypto keys kept).ok = true ↔
      kept <+: state.repository.listEntries := by
    rw [verifyChain_ok, ← log.chained.sublist_iff_prefix (log.nodup distinguish) sublist]
    exact and_iff_left keptVerified
  rw [← accepted, Bool.not_eq_true]

end Deletion

/-- The log of two rebinds. -/
def plainTwoRebinds : TrackingRepository :=
  plainLog [padTo 12 [2], padTo 12 [1]]

private theorem plainTwoRebinds_distinguish :
    TagsDistinguish chainCrypto plainTrackingKeys plainTwoRebinds.listEntries :=
  plainLog_distinguish (by decide)

/-- Deleting the last entry of a log leaves a log that verifies. -/
theorem truncation_unnoticed :
    (∃ events, Run (TrackerStep chainCrypto wholeSeconds plainTrackingKeys) {} events
        { repository := plainTwoRebinds }) ∧
      TagsDistinguish chainCrypto plainTrackingKeys plainTwoRebinds.listEntries ∧
      (plainLog [padTo 12 [1]]).listEntries.Sublist plainTwoRebinds.listEntries ∧
      (plainLog [padTo 12 [1]]).listEntries ≠ plainTwoRebinds.listEntries ∧
      (verifyChain chainCrypto plainTrackingKeys (plainLog [padTo 12 [1]]).listEntries).ok =
        true := by
  obtain ⟨events, run⟩ := plainLog_run [padTo 12 [1]]
  have log := sealedLog_of_run run
  have longer : plainTwoRebinds.listEntries = (plainLog [padTo 12 [1]]).listEntries ++
      [plainEntry (padTo 12 [2]) plainRebind (plainLog [padTo 12 [1]]).lastEntryHmac] :=
    TrackingRepository.listEntries_append _ _ _
  refine ⟨plainLog_run _, plainTwoRebinds_distinguish, ?_, ?_,
    congrArg ChainVerificationResult.ok log.verifies⟩
  · rw [longer]
    exact List.sublist_append_left _ _
  · rw [longer]
    simp

theorem deletion_noticed_iff_plain :
    ((verifyChain chainCrypto plainTrackingKeys (plainTwoRebinds.listEntries.drop 1)).ok = false ↔
      ¬ plainTwoRebinds.listEntries.drop 1 <+: plainTwoRebinds.listEntries) := by
  obtain ⟨events, run⟩ := plainLog_run [padTo 12 [2], padTo 12 [1]]
  exact deletion_noticed_iff run plainTwoRebinds_distinguish (List.drop_sublist 1 _)

/-! ## Editing the fields of entries -/

/-- Without the key, only tags for MAC inputs that were sealed are known. -/
def Unforged (crypto : Cryptography) (keys : TrackingProtectionKeys)
    (entries edited : List ChainedLogEntry) : Prop :=
  ∀ other ∈ edited, verifyEntry crypto keys other = true →
    ∃ entry ∈ entries, other.macInput = entry.macInput

/-- Every edit that verifies with the same number of entries left all of them as
they were, and the log reads back as its records. -/
def EditsShow (crypto : Cryptography) (keys : TrackingProtectionKeys)
    (repository : TrackingRepository) (records : List UsageRecord) : Prop :=
  ∀ edited : TrackingRepository,
    Unforged crypto keys repository.listEntries edited.listEntries →
    UsageTracker.verifyLogIntegrity crypto keys (some edited) =
        { ok := true, verifiedCount := repository.listEntries.length } →
      edited.listEntries = repository.listEntries ∧
        UsageTracker.readAllRecords crypto keys (some edited) = .ok records

/-- The separator of the MAC input occurs in no field after it. -/
def SeparatorFree (entry : ChainedLogEntry) : Prop :=
  (124 : UInt8) ∉ entry.nonce ∧ (124 : UInt8) ∉ entry.ciphertext

section Edits

variable {crypto : Cryptography} {totalSeconds : Int → PyFloat} {keys : TrackingProtectionKeys}
  {repository : TrackingRepository} {records : List UsageRecord}

theorem verifyLogIntegrity_of_count {edited : TrackingRepository} {count : Nat}
    (accepted : UsageTracker.verifyLogIntegrity crypto keys (some edited) =
      { ok := true, verifiedCount := count }) :
    Chained genesisHmac edited.listEntries ∧
      (∀ entry ∈ edited.listEntries, verifyEntry crypto keys entry = true) ∧
      edited.listEntries.length = count := by
  have verified : (verifyChain crypto keys edited.listEntries).ok = true :=
    congrArg ChainVerificationResult.ok accepted
  obtain ⟨chained, entries⟩ := verifyChain_ok.mp verified
  have counted := (verifyChain_of_ok verified).symm.trans accepted
  exact ⟨chained, entries, congrArg ChainVerificationResult.verifiedCount counted⟩

/-- Without separators inside the fields, every unnoticed edit changed nothing. -/
theorem SealedLog.editsShow (laws : crypto.AesGcmLaws)
    (log : SealedLog crypto keys repository records)
    (distinguish : TagsDistinguish crypto keys repository.listEntries)
    (free : ∀ entry ∈ repository.listEntries, SeparatorFree entry) :
    EditsShow crypto keys repository records := by
  intro edited unforged accepted
  obtain ⟨chained, verified, length⟩ := verifyLogIntegrity_of_count accepted
  have each : ∀ other ∈ edited.listEntries, ∃ entry ∈ repository.listEntries,
      other.entryHmac = entry.entryHmac ∧ other.prevHmac = entry.prevHmac ∧ other = entry := by
    intro other member
    obtain ⟨entry, there, same⟩ := unforged other member (verified other member)
    have sameTag : other.entryHmac = entry.entryHmac := by
      rw [verifyEntry_eq_true.mp (verified other member), log.entryHmac there, same]
    obtain ⟨samePrev, joined⟩ := macInput_inj
      (CryptoUsb.length_prevHmac chained verified member) (log.length_prevHmac there) same
    obtain ⟨sameNonce, sameCiphertext⟩ := fields_inj (free entry there).1 (free entry there).2 joined
    exact ⟨entry, there, sameTag, samePrev,
      ChainedLogEntry.ext sameNonce sameCiphertext samePrev sameTag⟩
  have unchanged : edited.listEntries = repository.listEntries := by
    apply List.ext_getElem length
    intro index inEdited inRange
    exact (log.chained.match_getElem (log.nodup distinguish) chained Eq each inEdited inRange).2
  refine ⟨unchanged, ?_⟩
  have read := log.readAllRecords laws
  rwa [UsageTracker.readAllRecords, ← unchanged] at read

/-- The entry with the boundary between nonce and ciphertext moved. -/
structure Moved (entry other : ChainedLogEntry) : Prop where
  prevHmac : other.prevHmac = entry.prevHmac
  entryHmac : other.entryHmac = entry.entryHmac
  macInput : other.macInput = entry.macInput
  differs : other ≠ entry

/-- A separator inside a field is another place for the boundary. -/
theorem exists_moved {entry : ChainedLogEntry} (inside : ¬ SeparatorFree entry) :
    ∃ other, Moved entry other := by
  by_cases inNonce : (124 : UInt8) ∈ entry.nonce
  · obtain ⟨before, after, nonce⟩ := List.append_of_mem inNonce
    refine ⟨{ entry with
      nonce := before
      ciphertext := after ++ 124 :: entry.ciphertext }, rfl, rfl, ?_, ?_⟩
    · simp [ChainedLogEntry.macInput, TamperEvidentLog.macInput, nonce]
    · intro same
      have shorter := congrArg (fun entry => entry.nonce.length) same
      simp [nonce] at shorter
  · have inCiphertext : (124 : UInt8) ∈ entry.ciphertext := by
      by_contra free
      exact inside ⟨inNonce, free⟩
    obtain ⟨before, after, ciphertext⟩ := List.append_of_mem inCiphertext
    refine ⟨{ entry with
      nonce := entry.nonce ++ 124 :: before
      ciphertext := after }, rfl, rfl, ?_, ?_⟩
    · simp [ChainedLogEntry.macInput, TamperEvidentLog.macInput, ciphertext]
    · intro same
      have shorter := congrArg (fun entry => entry.ciphertext.length) same
      simp [ciphertext] at shorter
      omega

/-- Putting a moved entry in its place is an edit that verifies. -/
theorem SealedLog.moved_accepted (log : SealedLog crypto keys repository records)
    {front back : TrackingRepository} {row : UsageLogRow} {other : ChainedLogEntry}
    (split : repository = front ++ row :: back) (moved : Moved row.entry other) :
    Unforged crypto keys repository.listEntries
        (front ++ { row with entry := other } :: back : TrackingRepository).listEntries ∧
      UsageTracker.verifyLogIntegrity crypto keys
          (some (front ++ { row with entry := other } :: back)) =
        { ok := true, verifiedCount := repository.listEntries.length } := by
  have before : repository.listEntries =
      front.map UsageLogRow.entry ++ row.entry :: back.map UsageLogRow.entry := by
    simp [TrackingRepository.listEntries, split]
  have after : (front ++ { row with entry := other } :: back : TrackingRepository).listEntries =
      front.map UsageLogRow.entry ++ other :: back.map UsageLogRow.entry := by
    simp [TrackingRepository.listEntries]
  have others : ∀ entry ∈ front.map UsageLogRow.entry ++ other :: back.map UsageLogRow.entry,
      entry = other ∨ entry ∈ repository.listEntries := by
    intro entry member
    rw [before]
    simp only [List.mem_append, List.mem_cons] at member ⊢
    tauto
  have inPlace : row.entry ∈ repository.listEntries := by
    simp [before]
  have chained : Chained genesisHmac
      (front.map UsageLogRow.entry ++ other :: back.map UsageLogRow.entry) := by
    have original := log.chained
    rw [before] at original
    obtain ⟨frontChained, follows, backChained⟩ := linked_append.mp original
    refine linked_append.mpr ⟨frontChained, moved.prevHmac.trans follows, ?_⟩
    rw [moved.entryHmac]
    exact backChained
  have verified : ∀ entry ∈ front.map UsageLogRow.entry ++ other :: back.map UsageLogRow.entry,
      TamperEvidentLog.verifyEntry crypto keys entry = true := by
    intro entry member
    rcases others entry member with rfl | there
    · rw [verifyEntry_eq_true, moved.entryHmac, moved.macInput]
      exact log.entryHmac inPlace
    · exact log.verifyEntry there
  rw [after]
  constructor
  · intro entry member _
    rcases others entry member with rfl | there
    · exact ⟨row.entry, inPlace, moved.macInput⟩
    · exact ⟨entry, there, rfl⟩
  · rw [UsageTracker.verifyLogIntegrity, after,
      verifyChain_of_ok (verifyChain_ok.mpr ⟨chained, verified⟩), before]
    simp

/-- Edits show exactly when no entry has the separator inside its nonce or its
ciphertext. -/
theorem editsShow_iff (laws : crypto.AesGcmLaws) {events : List TrackerEvent}
    {state : TrackingState}
    (run : Run (TrackerStep crypto totalSeconds keys) {} events state)
    (distinguish : TagsDistinguish crypto keys state.repository.listEntries) :
    EditsShow crypto keys state.repository (events.filterMap TrackerEvent.record?) ↔
      ∀ entry ∈ state.repository.listEntries, SeparatorFree entry := by
  have log := sealedLog_of_run run
  refine ⟨fun shows => ?_, log.editsShow laws distinguish⟩
  by_contra notFree
  obtain ⟨entry, member, inside⟩ : ∃ entry ∈ state.repository.listEntries,
      ¬ SeparatorFree entry := by
    simpa using notFree
  obtain ⟨row, there, rfl⟩ := List.mem_map.mp member
  obtain ⟨front, back, split⟩ := List.append_of_mem there
  obtain ⟨other, moved⟩ := exists_moved inside
  obtain ⟨unforged, accepted⟩ := log.moved_accepted split moved
  have same := (shows _ unforged accepted).1
  rw [split] at same
  simp only [TrackingRepository.listEntries, List.map_append, List.map_cons] at same
  exact moved.differs (List.cons.inj (List.append_cancel_left same)).1

end Edits

/-- An entry whose nonce has another length is not opened, and the log not read. -/
private theorem readAllRecords_of_nonce_size {crypto : Cryptography}
    {keys : TrackingProtectionKeys} {repository : TrackingRepository} {entry : ChainedLogEntry}
    (first : repository.listEntries.head? = some entry)
    (size : entry.nonce.length ≠ AesCipher.nonceSizeBytes) :
    ¬ Returns (UsageTracker.readAllRecords crypto keys (some repository)) := by
  rintro ⟨records, read⟩
  obtain ⟨entries, split⟩ := List.head?_eq_some_iff.mp first
  simp only [UsageTracker.readAllRecords, split, List.mapM_cons, bind_eq_ok] at read
  obtain ⟨record, opened, -⟩ := read
  unfold openEntry at opened
  split_ifs at opened
  · exact absurd opened (raise_ne_ok _ _ _)
  · split at opened
    case h_1 => exact absurd opened (raise_ne_ok _ _ _)
    case h_2 decrypted => exact size (AesCipher.decrypt_eq_ok.mp decrypted).2.1

/-- A log of one rebind whose nonce starts with the separator. -/
def plainBarRebind : TrackingRepository :=
  plainLog [padTo 12 [124]]

/-- The rebind with its boundary moved before the nonce. -/
def plainMovedRebind : TrackingRepository :=
  plainBarRebind.map fun row => { row with entry := { row.entry with
    nonce := []
    ciphertext := List.replicate 11 0 ++ 124 :: row.entry.ciphertext } }

private theorem plainBarRebind_moved :
    Moved (plainEntry (padTo 12 [124]) plainRebind genesisHmac)
      { plainEntry (padTo 12 [124]) plainRebind genesisHmac with
        nonce := []
        ciphertext := List.replicate 11 0 ++
          124 :: (plainEntry (padTo 12 [124]) plainRebind genesisHmac).ciphertext } where
  prevHmac := rfl
  entryHmac := rfl
  macInput := by
    have nonce : (plainEntry (padTo 12 [124]) plainRebind genesisHmac).nonce =
        124 :: List.replicate 11 0 := by
      simp only [plainEntry]
      decide
    simp [ChainedLogEntry.macInput, macInput, nonce]
  differs := by
    intro same
    have nonce := congrArg ChainedLogEntry.nonce same
    simp only [plainEntry] at nonce
    exact absurd nonce (by decide)

/-- An edit that moves the boundary verifies, and the log can no longer be read. -/
theorem moved_boundary_unnoticed :
    (∃ events, Run (TrackerStep chainCrypto wholeSeconds plainTrackingKeys) {} events
        { repository := plainBarRebind }) ∧
      TagsDistinguish chainCrypto plainTrackingKeys plainBarRebind.listEntries ∧
      Unforged chainCrypto plainTrackingKeys plainBarRebind.listEntries
        plainMovedRebind.listEntries ∧
      UsageTracker.verifyLogIntegrity chainCrypto plainTrackingKeys (some plainMovedRebind) =
        { ok := true, verifiedCount := plainBarRebind.listEntries.length } ∧
      ¬ Returns (UsageTracker.readAllRecords chainCrypto plainTrackingKeys
        (some plainMovedRebind)) := by
  obtain ⟨events, run⟩ := plainLog_run [padTo 12 [124]]
  have split : plainBarRebind = [] ++
      (⟨plainRebind.sessionId, plainEntry (padTo 12 [124]) plainRebind genesisHmac⟩ :
        UsageLogRow) :: [] := rfl
  obtain ⟨unforged, accepted⟩ :=
    (sealedLog_of_run run).moved_accepted split plainBarRebind_moved
  refine ⟨plainLog_run _, plainLog_distinguish (by decide), unforged, accepted, ?_⟩
  rintro ⟨records, read⟩
  have first : plainMovedRebind.listEntries.head? = some { plainEntry (padTo 12 [124]) plainRebind
      genesisHmac with
        nonce := []
        ciphertext := List.replicate 11 0 ++
          124 :: (plainEntry (padTo 12 [124]) plainRebind genesisHmac).ciphertext } := rfl
  exact readAllRecords_of_nonce_size first (by decide) ⟨records, read⟩

theorem editsShow_iff_plain :
    ∃ events, Run (TrackerStep chainCrypto wholeSeconds plainTrackingKeys) {} events
        { repository := plainTwoRebinds } ∧
      (EditsShow chainCrypto plainTrackingKeys plainTwoRebinds
          (events.filterMap TrackerEvent.record?) ↔
        ∀ entry ∈ plainTwoRebinds.listEntries, SeparatorFree entry) := by
  obtain ⟨events, run⟩ := plainLog_run [padTo 12 [2], padTo 12 [1]]
  exact ⟨events, run, editsShow_iff chainCrypto_aesGcmLaws run plainTwoRebinds_distinguish⟩

end CryptoUsb
