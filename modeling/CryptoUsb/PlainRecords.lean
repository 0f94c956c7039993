import CryptoUsb.MetadataUpdate
import CryptoUsb.Simulations

/-!
# Plain records

What the metadata controller is for: a table of records by file id.  Nothing in it is
encrypted, and no key or nonce is needed to answer a call.  The controller over its encrypted
rows answers every list of calls as this table does.
-/

namespace CryptoUsb

open ByteString IsoDateTime Simulations

/-! ## The remaining calls of the controller -/

/-- `MetadataRepository.delete`, and whether there was a row. -/
def MetadataRepository.delete (repository : MetadataRepository) (fileId : String)
    (fault : Option WriteFault) : MetadataRepository × Raises Bool :=
  match fault with
  | some fault => (repository, raise .sqliteError fault.text)
  | none => ({ rows := repository.rows.erase fileId }, .ok (repository.load fileId).isSome)

namespace MetadataController

def delete (repository : MetadataRepository) (fault : Option WriteFault) (fileId : String) :
    MetadataRepository × Raises Bool :=
  repository.delete fileId fault

def verifyFileIntegrity (crypto : Cryptography) (keys : MetadataProtectionKeys)
    (repository : MetadataRepository) (fileId : String) (encryptedFileBytes : Bytes) :
    Raises Bool := do
  let metadata ← read crypto keys repository fileId
  return verifyIntegrityHash crypto encryptedFileBytes metadata.integrityHash

end MetadataController

namespace Change

def assignsToDict : Change → Bool
  | .other _ (.toDict _) => true
  | _ => false

theorem foldl_assign_toDict {entries : List Change} {object : RecordObject}
    (plain : ∀ change ∈ entries, change.assignsToDict = false) (unassigned : object.toDict = none) :
    (entries.foldl assign object).toDict = none := by
  induction entries generalizing object with
  | nil => exact unassigned
  | cons change entries ih =>
      obtain ⟨first, rest⟩ := List.forall_mem_cons.mp plain
      apply ih rest
      cases change with
      | field change => exact unassigned
      | other name effect =>
          cases effect with
          | inert => exact unassigned
          | refused kind refusal message => exact unassigned
          | dict fields => rfl
          | toDict payload => cases first
      | unknown name => exact unassigned

end Change

/-! ## Calls and answers -/

/-- A call of the controller, with all of its arguments. -/
inductive RecordRequest
  | create (request : CreateRequest) (now : UtcInstant)
  | read (fileId : String)
  | update (fileId : String) (changes : Changes)
  | recordAccess (fileId : String) (policyClock accessClock : UtcInstant)
  | delete (fileId : String)
  | verifyFileIntegrity (fileId : String) (encryptedFileBytes : Bytes)

/-- A record, or the truth value that a deletion and an integrity check return. -/
inductive RecordAnswer
  | record (metadata : FileMetadata)
  | flag (value : Bool)

/-- A call with the nonce it draws and the fault of its write. -/
structure RecordCall where
  request : RecordRequest
  draws : ControllerDraws

/-- `to_dict` is not among the attributes that the call assigns. -/
def RecordCall.Plain (call : RecordCall) : Prop :=
  match call.request with
  | .update _ changes => ∀ change ∈ changes.entries, change.assignsToDict = false
  | _ => True

/-- What remains of a call for a table that encrypts nothing. -/
def RecordCall.input (call : RecordCall) : RecordRequest × Option WriteFault :=
  (call.request, call.draws.saveFault)

def answeredRecord {Table : Type*} (result : Table × Raises FileMetadata) :
    Table × Raises RecordAnswer :=
  (result.1, result.2.map .record)

def answeredFlag {Table : Type*} (result : Table × Raises Bool) : Table × Raises RecordAnswer :=
  (result.1, result.2.map .flag)

/-- One call of the controller over the encrypted table. -/
def MetadataController.respond (crypto : Cryptography) (keys : MetadataProtectionKeys)
    (repository : MetadataRepository) (call : RecordCall) :
    MetadataRepository × Raises RecordAnswer :=
  match call.request with
  | .create request now => answeredRecord (create crypto keys call.draws repository request now)
  | .read fileId => answeredRecord (repository, read crypto keys repository fileId)
  | .update fileId changes =>
      answeredRecord (update crypto keys call.draws repository fileId changes)
  | .recordAccess fileId policyClock accessClock =>
      answeredRecord
        (recordAccess crypto keys call.draws repository policyClock accessClock fileId)
  | .delete fileId => answeredFlag (delete repository call.draws.saveFault fileId)
  | .verifyFileIntegrity fileId encryptedFileBytes =>
      answeredFlag
        (repository, verifyFileIntegrity crypto keys repository fileId encryptedFileBytes)

/-! ## The table of plain records -/

/-- The record of every file that has one. -/
abbrev PlainRecords := String → Option FileMetadata

namespace PlainRecords

/-- Keep a valid record, unless the write fails. -/
def store (records : PlainRecords) (fault : Option WriteFault) (metadata : FileMetadata) :
    PlainRecords × Raises FileMetadata :=
  match MetadataController.validate metadata with
  | .error exc => (records, .error exc)
  | .ok () =>
      match fault with
      | some fault => (records, raise .sqliteError fault.text)
      | none => (Function.update records metadata.fileId (some metadata), .ok metadata)

def read (records : PlainRecords) (fileId : String) : Raises FileMetadata :=
  match records fileId with
  | none => raise .metadataNotFoundError s!"No metadata found for file_id={fileId}"
  | some metadata => .ok metadata

/-- Keep what a record was made into, where it could be made. -/
def keep (records : PlainRecords) (fault : Option WriteFault) (made : Raises FileMetadata) :
    PlainRecords × Raises FileMetadata :=
  match made with
  | .error exc => (records, .error exc)
  | .ok metadata => records.store fault metadata

/-- The record with the changes made to it. -/
def changed (records : PlainRecords) (fileId : String) (changes : Changes) :
    Raises FileMetadata := do
  let metadata ← records.read fileId
  let object ← changes.entries.foldlM RecordObject.setAttribute { fields := metadata }
  return object.fields

/-- The record with one more access, if the policy allows it. -/
def accessed (records : PlainRecords) (fileId : String) (policyClock accessClock : UtcInstant) :
    Raises FileMetadata := do
  let metadata ← records.read fileId
  MetadataController.enforcePolicy policyClock metadata
  return MetadataController.accessed metadata accessClock

def delete (records : PlainRecords) (fault : Option WriteFault) (fileId : String) :
    PlainRecords × Raises Bool :=
  match fault with
  | some fault => (records, raise .sqliteError fault.text)
  | none => (Function.update records fileId none, .ok (records fileId).isSome)

/-- One call, answered from the table alone. -/
def respond (crypto : Cryptography) (records : PlainRecords)
    (input : RecordRequest × Option WriteFault) : PlainRecords × Raises RecordAnswer :=
  match input with
  | (.create request now, fault) =>
      answeredRecord (records.store fault (MetadataController.newRecord request now))
  | (.read fileId, _) => answeredRecord (records, records.read fileId)
  | (.update fileId changes, fault) =>
      answeredRecord (records.keep fault (records.changed fileId changes))
  | (.recordAccess fileId policyClock accessClock, fault) =>
      answeredRecord (records.keep fault (records.accessed fileId policyClock accessClock))
  | (.delete fileId, fault) => answeredFlag (records.delete fault fileId)
  | (.verifyFileIntegrity fileId encryptedFileBytes, _) =>
      answeredFlag (records, (records.read fileId).map fun metadata =>
        verifyIntegrityHash crypto encryptedFileBytes metadata.integrityHash)

end PlainRecords

/-! ## The encrypted table represents the plain one -/

/-- The row is the record, protected under these keys. -/
structure HoldsRecord (crypto : Cryptography) (keys : MetadataProtectionKeys)
    (stored : ProtectedMetadata) (metadata : FileMetadata) : Prop where
  written : ∃ nonce, MetadataProtector.protect crypto keys nonce metadata = .ok stored
  valid : MetadataController.validate metadata = .ok ()

/-- Row for row, the table holds the records. -/
def Represents (crypto : Cryptography) (keys : MetadataProtectionKeys)
    (repository : MetadataRepository) (records : PlainRecords) : Prop :=
  ∀ fileId, Option.Rel (HoldsRecord crypto keys) (repository.load fileId) (records fileId)

section Refinement

variable {crypto : Cryptography} {keys : MetadataProtectionKeys} {draws : ControllerDraws}
  {repository : MetadataRepository} {records : PlainRecords} {fileId : String}

theorem Represents.empty : Represents crypto keys {} fun _ => none := by
  intro fileId
  exact .none

/-- The same record is read, or none is found. -/
theorem Represents.read_eq (laws : crypto.AesGcmLaws)
    (represents : Represents crypto keys repository records) (fileId : String) :
    MetadataController.read crypto keys repository fileId = records.read fileId := by
  have held := represents fileId
  unfold PlainRecords.read
  cases found : records fileId with
  | none =>
      rw [found] at held
      cases loaded : repository.load fileId with
      | none =>
          unfold MetadataController.read
          rw [loaded]
      | some stored =>
          rw [loaded] at held
          cases held
  | some metadata =>
      rw [found] at held
      cases loaded : repository.load fileId with
      | none =>
          rw [loaded] at held
          cases held
      | some stored =>
          rw [loaded] at held
          cases held with
          | some holds =>
              obtain ⟨nonce, written⟩ := holds.written
              exact MetadataController.read_of_stored laws loaded written holds.valid

theorem Represents.upsert (represents : Represents crypto keys repository records)
    {stored : ProtectedMetadata} {metadata : FileMetadata}
    (holds : HoldsRecord crypto keys stored metadata) :
    Represents crypto keys (repository.upsert stored)
      (Function.update records metadata.fileId (some metadata)) := by
  obtain ⟨nonce, written⟩ := holds.written
  obtain ⟨-, sameId, -⟩ := MetadataProtector.protect_eq_ok.mp written
  intro fileId
  by_cases same : fileId = metadata.fileId
  · subst same
    rw [Function.update_self, ← sameId, repository.load_upsert]
    exact .some holds
  · rw [Function.update_of_ne same,
      MetadataRepository.load_upsert_other (by rw [sameId]; exact same)]
    exact represents fileId

/-- A record is stored, or refused, alike. -/
theorem Represents.store (total : crypto.EncryptsAll)
    (size : keys.encryptionKey.length = AesCipher.aesKeySizeBytes)
    (represents : Represents crypto keys repository records) (metadata : FileMetadata) :
    (MetadataController.store crypto keys draws repository metadata).2 =
        (records.store draws.saveFault metadata).2 ∧
      Represents crypto keys (MetadataController.store crypto keys draws repository metadata).1
        (records.store draws.saveFault metadata).1 := by
  unfold MetadataController.store PlainRecords.store
  cases valid : MetadataController.validate metadata with
  | error exc => exact ⟨rfl, represents⟩
  | ok _ =>
      obtain ⟨stored, written⟩ :=
        MetadataProtector.protect_total total size draws.nonce metadata
      simp only [written]
      cases draws.saveFault with
      | some fault => exact ⟨rfl, represents⟩
      | none => exact ⟨rfl, represents.upsert ⟨⟨draws.nonce, written⟩, valid⟩⟩

theorem Represents.keep (total : crypto.EncryptsAll)
    (size : keys.encryptionKey.length = AesCipher.aesKeySizeBytes)
    (represents : Represents crypto keys repository records) {made : Raises FileMetadata}
    {result : MetadataRepository × Raises FileMetadata}
    (stores : result = match made with
      | .error exc => (repository, .error exc)
      | .ok metadata => MetadataController.store crypto keys draws repository metadata) :
    result.2 = (records.keep draws.saveFault made).2 ∧
      Represents crypto keys result.1 (records.keep draws.saveFault made).1 := by
  subst stores
  cases made with
  | error exc => exact ⟨rfl, represents⟩
  | ok metadata => exact represents.store total size metadata

/-- An update that leaves the method `to_dict` alone stores the changed record. -/
theorem MetadataController.update_eq_store {changes : Changes}
    (plain : ∀ change ∈ changes.entries, change.assignsToDict = false) :
    update crypto keys draws repository fileId changes =
      match (do
        let metadata ← read crypto keys repository fileId
        let object ← changes.entries.foldlM RecordObject.setAttribute { fields := metadata }
        return object.fields : Raises FileMetadata) with
      | .error exc => (repository, .error exc)
      | .ok metadata => store crypto keys draws repository metadata := by
  cases found : read crypto keys repository fileId with
  | error exc =>
      unfold update
      rw [found]
      rfl
  | ok metadata =>
      have assigned : changes.entries.foldl Change.assign { fields := metadata } =
        changes.object metadata := rfl
      rw [update_of_read found, ok_bind, assignments_eq, assigned]
      cases changes.entries.findSome? Change.refusal with
      | some exc => rfl
      | none =>
          have unassigned : (changes.object metadata).toDict = none :=
            Change.foldl_assign_toDict plain rfl
          simp only [ok_bind, protectObject, unassigned, store]
          rfl

theorem MetadataController.recordAccess_eq_store {policyClock accessClock : UtcInstant} :
    recordAccess crypto keys draws repository policyClock accessClock fileId =
      match (do
        let metadata ← read crypto keys repository fileId
        enforcePolicy policyClock metadata
        return accessed metadata accessClock : Raises FileMetadata) with
      | .error exc => (repository, .error exc)
      | .ok metadata => store crypto keys draws repository metadata := by
  unfold recordAccess
  cases read crypto keys repository fileId with
  | error exc => rfl
  | ok metadata =>
      cases enforced : enforcePolicy policyClock metadata with
      | error exc => simp only [ok_bind, enforced, error_bind]
      | ok _ =>
          simp only [ok_bind, enforced]
          rfl

theorem Represents.isSome_load (represents : Represents crypto keys repository records)
    (fileId : String) : (repository.load fileId).isSome = (records fileId).isSome := by
  have held := represents fileId
  cases loaded : repository.load fileId <;> cases found : records fileId <;>
    rw [loaded, found] at held <;> first | rfl | cases held

theorem Represents.delete (represents : Represents crypto keys repository records)
    (fault : Option WriteFault) (fileId : String) :
    (MetadataController.delete repository fault fileId).2 = (records.delete fault fileId).2 ∧
      Represents crypto keys (MetadataController.delete repository fault fileId).1
        (records.delete fault fileId).1 := by
  cases fault with
  | some fault => exact ⟨rfl, represents⟩
  | none =>
      refine ⟨?_, fun other => ?_⟩
      · show Except.ok _ = Except.ok _
        rw [represents.isSome_load]
      · show Option.Rel _ (MetadataRepository.load { rows := repository.rows.erase fileId } other)
          (Function.update records fileId none other)
        by_cases same : other = fileId
        · subst same
          rw [Function.update_self, MetadataRepository.load, AList.lookup_erase]
          exact .none
        · rw [Function.update_of_ne same, MetadataRepository.load, AList.lookup_erase_ne same]
          exact represents other

/-- The controller answers one call as the table of plain records does.  One case a call. -/
theorem respond_refines (laws : crypto.AesGcmLaws) (total : crypto.EncryptsAll)
    (size : keys.encryptionKey.length = AesCipher.aesKeySizeBytes) :
    Simulates (MetadataController.respond crypto keys) (PlainRecords.respond crypto)
      RecordCall.input RecordCall.Plain (Represents crypto keys) := by
  constructor
  intro repository records call represents plain
  obtain ⟨request, draws⟩ := call
  cases request with
  | create request now =>
      obtain ⟨alike, stays⟩ :=
        @Represents.store _ _ draws _ _ total size represents
          (MetadataController.newRecord request now)
      exact ⟨congrArg (Except.map _) alike, stays⟩
  | read fileId => exact ⟨congrArg (Except.map _) (represents.read_eq laws fileId), represents⟩
  | update fileId changes =>
      obtain ⟨alike, stays⟩ := represents.keep total size
        (@MetadataController.update_eq_store _ keys draws repository fileId changes plain)
      rw [represents.read_eq laws] at alike stays
      exact ⟨congrArg (Except.map _) alike, stays⟩
  | recordAccess fileId policyClock accessClock =>
      obtain ⟨alike, stays⟩ := represents.keep total size
        (@MetadataController.recordAccess_eq_store _ keys draws repository fileId policyClock
          accessClock)
      rw [represents.read_eq laws] at alike stays
      exact ⟨congrArg (Except.map _) alike, stays⟩
  | delete fileId =>
      obtain ⟨alike, stays⟩ := represents.delete draws.saveFault fileId
      exact ⟨congrArg (Except.map _) alike, stays⟩
  | verifyFileIntegrity fileId encryptedFileBytes =>
      refine ⟨?_, represents⟩
      show Except.map _ (MetadataController.verifyFileIntegrity _ _ _ _ _) = Except.map _ _
      rw [MetadataController.verifyFileIntegrity, represents.read_eq laws]
      cases records.read fileId <;> rfl

/-- The controller answers every list of calls as the table of plain records does: with which
keys and nonces it works cannot be told from its answers. -/
theorem controller_refines_plain (laws : crypto.AesGcmLaws) (total : crypto.EncryptsAll)
    (size : keys.encryptionKey.length = AesCipher.aesKeySizeBytes)
    (represents : Represents crypto keys repository records) {calls : List RecordCall}
    (plain : ∀ call ∈ calls, call.Plain) :
    (answers (MetadataController.respond crypto keys) repository calls).2 =
        (answers (PlainRecords.respond crypto) records (calls.map RecordCall.input)).2 ∧
      Represents crypto keys (answers (MetadataController.respond crypto keys) repository calls).1
        (answers (PlainRecords.respond crypto) records (calls.map RecordCall.input)).1 :=
  (respond_refines laws total size).run represents plain

end Refinement

/-! ## Some calls with the transparent primitives -/

/-- A file is created, accessed, given to another owner, and deleted. -/
def plainRecordCalls : List RecordCall :=
  [.create (expiringRequest plainInstant.1) plainInstant,
    .recordAccess "f" plainInstant plainInstant,
    .update "f" ⟨[.field (.ownerId "other")], List.nodup_singleton _⟩,
    .delete "f"].map fun request => ⟨request, plainControllerDraws⟩

theorem controller_refines_plain_calls :
    (answers (MetadataController.respond (transparent (padTo 32)) plainKeys) {}
        plainRecordCalls).2 =
      (answers (PlainRecords.respond (transparent (padTo 32))) (fun _ => none)
        (plainRecordCalls.map RecordCall.input)).2 := by
  have plain : ∀ call ∈ plainRecordCalls, call.Plain := by
    simp [plainRecordCalls, RecordCall.Plain, Change.assignsToDict]
  exact (controller_refines_plain transparent_aesGcmLaws transparent_encryptsAll (by decide)
    .empty plain).1

end CryptoUsb
