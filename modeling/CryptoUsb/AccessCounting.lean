import CryptoUsb.AcceptedRecords
import CryptoUsb.TransitionRuns

/-!
# Counting accesses

Calls of the controller one after another, on any files and at any times.  The count of a
record that `create` made lives inside the encrypted record, and is read, compared and
written again at every access: it is the number of the accesses recorded so far.
-/

namespace CryptoUsb

open ByteString IsoDateTime TransitionRuns

inductive ControllerOperation
  | recordAccess (draws : ControllerDraws) (policyClock accessClock : UtcInstant)
  | read

/-- One call of the controller, with the table as it finds it. -/
structure ControllerCall where
  repository : MetadataRepository
  fileId : String
  operation : ControllerOperation

namespace ControllerCall

section Results

variable (crypto : Cryptography) (keys : MetadataProtectionKeys)

def result (call : ControllerCall) : MetadataRepository × Raises FileMetadata :=
  match call.operation with
  | .recordAccess draws policyClock accessClock =>
      MetadataController.recordAccess crypto keys draws call.repository policyClock accessClock
        call.fileId
  | .read => (call.repository, MetadataController.read crypto keys call.repository call.fileId)

/-- The record that a call returned as accessed, if it is of this file. -/
def access (fileId : String) (call : ControllerCall) : Option FileMetadata :=
  match call.operation with
  | .recordAccess .. =>
      if call.fileId = fileId then (call.result crypto keys).2.toOption else none
  | .read => none

/-- The records that the accesses to a file returned, in order. -/
def accesses (fileId : String) (calls : List ControllerCall) : List FileMetadata :=
  calls.filterMap (access crypto keys fileId)

def Step (repository : MetadataRepository) (call : ControllerCall) (after : MetadataRepository) :
    Prop :=
  call.repository = repository ∧ after = (call.result crypto keys).1

end Results

variable {crypto : Cryptography} {keys : MetadataProtectionKeys} {call : ControllerCall}
  {fileId : String}

/-- A call that recorded an access of the record it found. -/
structure Recorded (crypto : Cryptography) (keys : MetadataProtectionKeys) (call : ControllerCall)
    (draws : ControllerDraws) (policyClock accessClock : UtcInstant) (found : FileMetadata)
    (stored : ProtectedMetadata) : Prop where
  operation : call.operation = .recordAccess draws policyClock accessClock
  read : MetadataController.read crypto keys call.repository call.fileId = .ok found
  allowed : ValidationEngine.PolicyHolds policyClock.1 found
  valid : MetadataController.validate (MetadataController.accessed found accessClock) = .ok ()
  written : MetadataProtector.protect crypto keys draws.nonce
    (MetadataController.accessed found accessClock) = .ok stored
  result : call.result crypto keys = (call.repository.upsert stored,
    .ok (MetadataController.accessed found accessClock))

/-- What a call can do: record an access that the rules allow, or change nothing. -/
theorem result_cases (crypto : Cryptography) (keys : MetadataProtectionKeys)
    (call : ControllerCall) :
    (∃ draws policyClock accessClock found stored,
        Recorded crypto keys call draws policyClock accessClock found stored) ∨
      ((call.result crypto keys).1 = call.repository ∧
        ∀ fileId, call.access crypto keys fileId = none) := by
  cases operation : call.operation with
  | read =>
      right
      constructor
      · simp only [result, operation]
      · intro fileId
        simp only [access, operation]
  | recordAccess draws policyClock accessClock =>
      rcases MetadataController.recordAccess_cases crypto keys draws call.repository policyClock
          accessClock call.fileId with
        ⟨metadata, stored, found, allowed, valid, written, recorded⟩ | ⟨exc, raised⟩
      · left
        refine ⟨draws, policyClock, accessClock, metadata, stored, operation, found, allowed, valid,
          written, ?_⟩
        simp only [result, operation, recorded]
      · right
        constructor
        · simp only [result, operation, raised]
        · intro fileId
          simp only [access, operation, result, raised]
          split_ifs <;> rfl

theorem Recorded.access_eq {draws : ControllerDraws} {policyClock accessClock : UtcInstant}
    {found : FileMetadata} {stored : ProtectedMetadata}
    (recorded : Recorded crypto keys call draws policyClock accessClock found stored)
    (fileId : String) : call.access crypto keys fileId =
      if call.fileId = fileId then some (MetadataController.accessed found accessClock)
      else none := by
  simp only [access, recorded.operation, recorded.result, Except.toOption]

theorem unchanged_of_error {exc : PyError} (raised : (call.result crypto keys).2 = .error exc) :
    (call.result crypto keys).1 = call.repository := by
  rcases result_cases crypto keys call with ⟨_, _, _, _, _, recorded⟩ | unchanged
  · rw [recorded.result] at raised
    cases raised
  · exact unchanged.1

end ControllerCall

/-! ## Tables that the protector wrote -/

/-- Every record of the table was protected, under whichever keys. -/
def MetadataRepository.Genuine (crypto : Cryptography) (repository : MetadataRepository) : Prop :=
  ∀ fileId stored, repository.load fileId = some stored →
    ∃ keys nonce metadata, MetadataProtector.protect crypto keys nonce metadata = .ok stored

namespace MetadataRepository.Genuine

variable {crypto : Cryptography} {keys : MetadataProtectionKeys} {repository : MetadataRepository}
  {fileId : String}

theorem empty : Genuine crypto {} := by
  intro fileId stored loaded
  simp [load] at loaded

theorem upsert (genuine : repository.Genuine crypto) {nonce : AesCipher.Nonce}
    {metadata : FileMetadata} {stored : ProtectedMetadata}
    (written : MetadataProtector.protect crypto keys nonce metadata = .ok stored) :
    (repository.upsert stored).Genuine crypto := by
  intro fileId found loaded
  by_cases same : fileId = stored.fileId
  · subst same
    rw [load_upsert] at loaded
    obtain rfl := Option.some.inj loaded
    exact ⟨keys, nonce, metadata, written⟩
  · rw [load_upsert_other same] at loaded
    exact genuine fileId found loaded

theorem fileId_of_read (genuine : repository.Genuine crypto) (laws : crypto.AesGcmLaws)
    {metadata : FileMetadata}
    (found : MetadataController.read crypto keys repository fileId = .ok metadata) :
    metadata.fileId = fileId := by
  obtain ⟨stored, loaded, unprotected, -⟩ := MetadataController.read_eq_ok.mp found
  obtain ⟨otherKeys, nonce, original, written⟩ := genuine fileId stored loaded
  obtain rfl := MetadataProtector.eq_of_unprotect_protect laws written unprotected
  rw [← (MetadataProtector.protect_eq_ok.mp written).2.1]
  exact fileId_of_load loaded

end MetadataRepository.Genuine

/-! ## Counting along a run -/

section Counting

variable (crypto : Cryptography) (keys : MetadataProtectionKeys) (metadata : FileMetadata)

/-- What the accesses so far and the table say of a record. -/
structure Counted (calls : List ControllerCall) (repository : MetadataRepository) : Prop where
  /-- The accesses are numbered from one, and keep the other fields of the record. -/
  numbered : ∀ (index : Nat) access,
    (ControllerCall.accesses crypto keys metadata.fileId calls)[index]? = some access →
      ∃ instant : UtcInstant, access =
        { metadata with accessCount := index + 1, lastAccessedAt := some instant.1 }
  /-- The table holds what the last of them returned. -/
  stored : MetadataController.read crypto keys repository metadata.fileId =
    .ok ((ControllerCall.accesses crypto keys metadata.fileId calls).getLast?.getD metadata)
  withinLimit : ∀ maxAccessCount, metadata.expiryRules.maxAccessCount = some maxAccessCount →
    ((ControllerCall.accesses crypto keys metadata.fileId calls).length : Int) ≤
      max maxAccessCount 0
  oneTime : metadata.usagePolicy.oneTimeAccess = true →
    (ControllerCall.accesses crypto keys metadata.fileId calls).length ≤ 1

/-- What one call of a run does. -/
structure CallCounts (call : ControllerCall) : Prop where
  /-- An access comes in time, and stores the record that it returns. -/
  access : ∀ access, call.access crypto keys metadata.fileId = some access →
    (∃ draws policyClock accessClock,
      call.operation = .recordAccess draws policyClock accessClock ∧
      ∀ expiresAt, metadata.expiryRules.expiresAt = some expiresAt →
        expiresAt.lessThan policyClock.1 = some false) ∧
    MetadataController.read crypto keys (call.result crypto keys).1 metadata.fileId = .ok access
  /-- A call that raises changes no record of any file. -/
  rejected : ∀ exc, (call.result crypto keys).2 = .error exc →
    (call.result crypto keys).1 = call.repository
  /-- A call keeps the records of the other files. -/
  others : ∀ fileId, fileId ≠ call.fileId →
    (call.result crypto keys).1.load fileId = call.repository.load fileId

end Counting

namespace ControllerCall

variable {crypto : Cryptography} {keys : MetadataProtectionKeys} {call : ControllerCall}
  {fileId : String}

theorem accesses_append (calls : List ControllerCall) :
    accesses crypto keys fileId (calls ++ [call]) =
      accesses crypto keys fileId calls ++ (call.access crypto keys fileId).toList := by
  unfold accesses
  rw [List.filterMap_append]
  cases accessed : call.access crypto keys fileId <;> simp [accessed]

/-- A call keeps the records of the other files, and a table that the protector wrote. -/
theorem frame (laws : crypto.AesGcmLaws) (genuine : call.repository.Genuine crypto) :
    (call.result crypto keys).1.Genuine crypto ∧
      ∀ fileId, fileId ≠ call.fileId →
        (call.result crypto keys).1.load fileId = call.repository.load fileId := by
  rcases result_cases crypto keys call with
    ⟨draws, _, accessClock, found, stored, recorded⟩ | ⟨unchanged, -⟩
  · rw [recorded.result]
    refine ⟨genuine.upsert recorded.written, fun fileId other => ?_⟩
    have recordId : stored.fileId = found.fileId :=
      (MetadataProtector.protect_eq_ok.mp recorded.written).2.1
    apply MetadataRepository.load_upsert_other
    rwa [recordId, genuine.fileId_of_read laws recorded.read]
  · rw [unchanged]
    exact ⟨genuine, fun _ _ => rfl⟩

end ControllerCall

section Counting

variable {crypto : Cryptography} {keys : MetadataProtectionKeys} {metadata : FileMetadata}
  {calls : List ControllerCall} {call : ControllerCall} {repository after : MetadataRepository}

/-- The stored record has as many accesses as were recorded, and the other fields it began
with. -/
theorem Counted.latest (counted : Counted crypto keys metadata calls repository)
    (unused : metadata.accessCount = 0) :
    ∃ lastAccessedAt,
      (ControllerCall.accesses crypto keys metadata.fileId calls).getLast?.getD metadata =
        { metadata with
          accessCount := (ControllerCall.accesses crypto keys metadata.fileId calls).length
          lastAccessedAt } := by
  cases last : (ControllerCall.accesses crypto keys metadata.fileId calls).getLast? with
  | none =>
      rw [List.getLast?_eq_none_iff.mp last]
      refine ⟨metadata.lastAccessedAt, ?_⟩
      simp [← unused]
  | some access =>
      have positive : 0 < (ControllerCall.accesses crypto keys metadata.fileId calls).length := by
        apply List.length_pos_iff.mpr
        intro empty
        simp [empty] at last
      rw [List.getLast?_eq_getElem?] at last
      obtain ⟨instant, shape⟩ := counted.numbered _ access last
      refine ⟨some instant.1, ?_⟩
      have count : (((ControllerCall.accesses crypto keys metadata.fileId calls).length - 1 : Nat) :
          Int) + 1 = (ControllerCall.accesses crypto keys metadata.fileId calls).length := by
        omega
      rw [Option.getD_some, shape, count]

/-- A call that leaves the record of the file alone counts nothing. -/
theorem Counted.idle (counted : Counted crypto keys metadata calls repository)
    (noAccess : call.access crypto keys metadata.fileId = none)
    (kept : after.load metadata.fileId = repository.load metadata.fileId) :
    Counted crypto keys metadata (calls ++ [call]) after := by
  have same : ControllerCall.accesses crypto keys metadata.fileId (calls ++ [call]) =
      ControllerCall.accesses crypto keys metadata.fileId calls := by
    rw [ControllerCall.accesses_append, noAccess, Option.toList_none, List.append_nil]
  constructor
  case numbered => rw [same]; exact counted.numbered
  case stored =>
    rw [same, ← counted.stored]
    unfold MetadataController.read
    rw [kept]
  case withinLimit => rw [same]; exact counted.withinLimit
  case oneTime => rw [same]; exact counted.oneTime

/-- The access that an allowed call records is the next one. -/
theorem Counted.recorded (counted : Counted crypto keys metadata calls repository)
    (laws : crypto.AesGcmLaws) (unused : metadata.accessCount = 0) {draws : ControllerDraws}
    {policyClock accessClock : UtcInstant} {found : FileMetadata} {stored : ProtectedMetadata}
    (recorded : call.Recorded crypto keys draws policyClock accessClock found stored)
    (sameFile : call.fileId = metadata.fileId) (sameTable : call.repository = repository) :
    (∀ expiresAt, metadata.expiryRules.expiresAt = some expiresAt →
        expiresAt.lessThan policyClock.1 = some false) ∧
      MetadataController.read crypto keys (call.result crypto keys).1 metadata.fileId =
        .ok (MetadataController.accessed found accessClock) ∧
      Counted crypto keys metadata (calls ++ [call]) (call.result crypto keys).1 := by
  obtain ⟨lastAccessedAt, shape⟩ := counted.latest unused
  have foundEq : found = { metadata with
      accessCount := (ControllerCall.accesses crypto keys metadata.fileId calls).length
      lastAccessedAt } := by
    have read := recorded.read
    rw [sameFile, sameTable, counted.stored, shape] at read
    exact (Except.ok.inj read).symm
  have extended : ControllerCall.accesses crypto keys metadata.fileId (calls ++ [call]) =
      ControllerCall.accesses crypto keys metadata.fileId calls ++
        [MetadataController.accessed found accessClock] := by
    rw [ControllerCall.accesses_append, recorded.access_eq, if_pos sameFile, Option.toList_some]
  have storedRead : MetadataController.read crypto keys (call.result crypto keys).1
      metadata.fileId = .ok (MetadataController.accessed found accessClock) := by
    have recordId : stored.fileId = metadata.fileId := by
      rw [(MetadataProtector.protect_eq_ok.mp recorded.written).2.1, foundEq]
      rfl
    rw [recorded.result]
    refine MetadataController.read_of_stored laws ?_ recorded.written recorded.valid
    rw [← recordId]
    exact MetadataRepository.load_upsert call.repository stored
  have policy := recorded.allowed
  rw [foundEq] at policy
  refine ⟨policy.notExpired, storedRead, ?_⟩
  constructor
  case numbered =>
    intro index access found
    rw [extended] at found
    rcases Nat.lt_trichotomy index
      (ControllerCall.accesses crypto keys metadata.fileId calls).length with
      earlier | last | beyond
    · rw [List.getElem?_append_left earlier] at found
      exact counted.numbered index access found
    · subst last
      rw [List.getElem?_concat_length] at found
      obtain rfl := Option.some.inj found
      exact ⟨accessClock, by rw [foundEq]; rfl⟩
    · rw [List.getElem?_eq_none (by simp; omega)] at found
      cases found
  case stored =>
    rw [extended, List.getLast?_concat, Option.getD_some]
    exact storedRead
  case withinLimit =>
    intro maxAccessCount limited
    have within := policy.withinCount maxAccessCount limited
    rw [extended, List.length_append, List.length_singleton]
    simp only at within
    omega
  case oneTime =>
    intro oneTimeAccess
    have unusedSoFar := policy.unused oneTimeAccess
    rw [extended, List.length_append, List.length_singleton]
    simp only at unusedSoFar
    omega

/-- What one call of a run does to the count of a record. -/
theorem Counted.step (counted : Counted crypto keys metadata calls repository)
    (laws : crypto.AesGcmLaws) (unused : metadata.accessCount = 0)
    (genuine : repository.Genuine crypto)
    (stepped : ControllerCall.Step crypto keys repository call after) :
    CallCounts crypto keys metadata call ∧ after.Genuine crypto ∧
      Counted crypto keys metadata (calls ++ [call]) after := by
  obtain ⟨rfl, rfl⟩ := stepped
  obtain ⟨stillGenuine, others⟩ := @ControllerCall.frame crypto keys call laws genuine
  have rejected := fun exc => @ControllerCall.unchanged_of_error crypto keys call exc
  rcases ControllerCall.result_cases crypto keys call with
    ⟨draws, policyClock, accessClock, found, stored, recorded⟩ | ⟨unchanged, noAccess⟩
  · by_cases sameFile : call.fileId = metadata.fileId
    · obtain ⟨inTime, storedRead, next⟩ := counted.recorded laws unused recorded sameFile rfl
      refine ⟨⟨?_, rejected, others⟩, stillGenuine, next⟩
      intro access accessed
      rw [recorded.access_eq, if_pos sameFile] at accessed
      obtain rfl := Option.some.inj accessed
      exact ⟨⟨draws, policyClock, accessClock, recorded.operation, inTime⟩, storedRead⟩
    · have noAccess : call.access crypto keys metadata.fileId = none := by
        rw [recorded.access_eq, if_neg sameFile]
      refine ⟨⟨?_, rejected, others⟩, stillGenuine,
        counted.idle noAccess (others metadata.fileId (Ne.symm sameFile))⟩
      intro access accessed
      rw [noAccess] at accessed
      cases accessed
  · refine ⟨⟨?_, rejected, others⟩, stillGenuine,
      counted.idle (noAccess metadata.fileId) (by rw [unchanged])⟩
    intro access accessed
    rw [noAccess] at accessed
    cases accessed

/-- The accesses to a record that `create` made are counted exactly, along every run of accesses
and reads of any files, from any table that the protector wrote and that still holds it. -/
theorem counts_exactly (laws : crypto.AesGcmLaws) {request : CreateRequest} {now : UtcInstant}
    {draws : ControllerDraws} {start finish : MetadataRepository} (genuine : start.Genuine crypto)
    (created : (MetadataController.create crypto keys draws repository request now).2 =
      .ok metadata)
    (kept : start.load request.fileId =
      (MetadataController.create crypto keys draws repository request now).1.load request.fileId)
    (run : Run (ControllerCall.Step crypto keys) start calls finish) :
    (∀ call ∈ calls, CallCounts crypto keys metadata call) ∧
      Counted crypto keys metadata calls finish := by
  obtain ⟨rfl, valid, stored, written, -, loaded⟩ := MetadataController.create_returns created
  have initially : Counted crypto keys (MetadataController.newRecord request now) [] start := by
    constructor
    case numbered => intro index access found; cases found
    case stored => exact MetadataController.read_of_stored laws (kept.trans loaded) written valid
    case withinLimit => intro maxAccessCount _; exact le_max_right maxAccessCount 0
    case oneTime => intro _; exact Nat.zero_le 1
  have reached := run.history (fun calls repository =>
      (∀ call ∈ calls, CallCounts crypto keys (MetadataController.newRecord request now) call) ∧
        repository.Genuine crypto ∧
        Counted crypto keys (MetadataController.newRecord request now) calls repository) ?_
    ⟨by simp, genuine, initially⟩
  · exact ⟨reached.1, reached.2.2⟩
  · intro calls repository call after holds stepped
    obtain ⟨counts, genuineSoFar, counted⟩ := holds
    obtain ⟨now, next⟩ := counted.step laws rfl genuineSoFar stepped
    refine ⟨fun member among => ?_, next⟩
    rcases List.mem_append.mp among with earlier | last
    · exact counts member earlier
    · obtain rfl := List.mem_singleton.mp last
      exact now

end Counting

/-! ## One access with the transparent primitives -/

def plainAccess (repository : MetadataRepository) : ControllerCall where
  repository
  fileId := "f"
  operation := .recordAccess plainControllerDraws plainInstant plainInstant

theorem counts_exactly_plain :
    ∃ metadata, (MetadataController.create (transparent (padTo 32)) plainKeys plainControllerDraws {}
        (expiringRequest plainInstant.1) plainInstant).2 = .ok metadata ∧
      (∀ call ∈ [plainAccess (MetadataController.create (transparent (padTo 32)) plainKeys
          plainControllerDraws {} (expiringRequest plainInstant.1) plainInstant).1],
        CallCounts (transparent (padTo 32)) plainKeys metadata call) ∧
      Counted (transparent (padTo 32)) plainKeys metadata
        [plainAccess (MetadataController.create (transparent (padTo 32)) plainKeys
          plainControllerDraws {} (expiringRequest plainInstant.1) plainInstant).1]
        ((plainAccess (MetadataController.create (transparent (padTo 32)) plainKeys
          plainControllerDraws {} (expiringRequest plainInstant.1) plainInstant).1).result
            (transparent (padTo 32)) plainKeys).1 := by
  obtain ⟨metadata, created⟩ := expiringRequest_created plainInstant.1
  have genuine : (MetadataController.create (transparent (padTo 32)) plainKeys plainControllerDraws
      {} (expiringRequest plainInstant.1) plainInstant).1.Genuine (transparent (padTo 32)) := by
    obtain ⟨-, -, stored, written, table, -⟩ := MetadataController.create_returns created
    rw [table]
    exact MetadataRepository.Genuine.empty.upsert written
  exact ⟨metadata, created, counts_exactly transparent_aesGcmLaws genuine created rfl
    (.single ⟨rfl, rfl⟩)⟩

end CryptoUsb
