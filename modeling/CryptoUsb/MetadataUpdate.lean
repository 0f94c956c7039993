import CryptoUsb.AccessCounting

/-!
# Updating a record

`update` assigns attributes of the record by name, behind a test that the object has the
attribute.  The fields of its class pass this test, and so does every other attribute of the
object: an update replaces exactly the named fields where all names are fields, and where some
are not, it need not raise.
-/

namespace CryptoUsb

open ByteString IsoDateTime

/-! ## Assigning fields -/

/-- The fields that a change can name.  `file_id` names the parameter of `update`. -/
inductive MetadataField
  | ownerId
  | wrappedKey
  | wrapAlgorithm
  | integrityHash
  | createdAt
  | lastAccessedAt
  | accessCount
  | expiryRules
  | deviceBinding
  | usagePolicy
  | metadataVersion
  deriving DecidableEq, Repr

/-- Two records agree on a field. -/
def MetadataField.Same (first second : FileMetadata) : MetadataField → Prop
  | .ownerId => first.ownerId = second.ownerId
  | .wrappedKey => first.wrappedKey = second.wrappedKey
  | .wrapAlgorithm => first.wrapAlgorithm = second.wrapAlgorithm
  | .integrityHash => first.integrityHash = second.integrityHash
  | .createdAt => first.createdAt = second.createdAt
  | .lastAccessedAt => first.lastAccessedAt = second.lastAccessedAt
  | .accessCount => first.accessCount = second.accessCount
  | .expiryRules => first.expiryRules = second.expiryRules
  | .deviceBinding => first.deviceBinding = second.deviceBinding
  | .usagePolicy => first.usagePolicy = second.usagePolicy
  | .metadataVersion => first.metadataVersion = second.metadataVersion

/-- A new value for a field. -/
inductive FieldChange
  | ownerId (value : String)
  | wrappedKey (value : Bytes)
  | wrapAlgorithm (value : String)
  | integrityHash (value : String)
  | createdAt (value : DateTime)
  | lastAccessedAt (value : Option DateTime)
  | accessCount (value : Int)
  | expiryRules (value : ExpiryRules)
  | deviceBinding (value : DeviceBinding)
  | usagePolicy (value : UsagePolicy)
  | metadataVersion (value : Int)

namespace FieldChange

def field : FieldChange → MetadataField
  | .ownerId _ => .ownerId
  | .wrappedKey _ => .wrappedKey
  | .wrapAlgorithm _ => .wrapAlgorithm
  | .integrityHash _ => .integrityHash
  | .createdAt _ => .createdAt
  | .lastAccessedAt _ => .lastAccessedAt
  | .accessCount _ => .accessCount
  | .expiryRules _ => .expiryRules
  | .deviceBinding _ => .deviceBinding
  | .usagePolicy _ => .usagePolicy
  | .metadataVersion _ => .metadataVersion

def apply (metadata : FileMetadata) : FieldChange → FileMetadata
  | .ownerId value => { metadata with ownerId := value }
  | .wrappedKey value => { metadata with wrappedKey := value }
  | .wrapAlgorithm value => { metadata with wrapAlgorithm := value }
  | .integrityHash value => { metadata with integrityHash := value }
  | .createdAt value => { metadata with createdAt := value }
  | .lastAccessedAt value => { metadata with lastAccessedAt := value }
  | .accessCount value => { metadata with accessCount := value }
  | .expiryRules value => { metadata with expiryRules := value }
  | .deviceBinding value => { metadata with deviceBinding := value }
  | .usagePolicy value => { metadata with usagePolicy := value }
  | .metadataVersion value => { metadata with metadataVersion := value }

@[simp]
theorem fileId_apply (metadata : FileMetadata) (change : FieldChange) :
    (apply metadata change).fileId = metadata.fileId := by
  cases change <;> rfl

theorem apply_apply (metadata : FileMetadata) (change : FieldChange) :
    apply (apply metadata change) change = apply metadata change := by
  cases change <;> rfl

theorem apply_comm (metadata : FileMetadata) {first second : FieldChange}
    (different : first.field ≠ second.field) :
    apply (apply metadata first) second = apply (apply metadata second) first := by
  cases first <;> cases second <;> first | rfl | exact absurd rfl different

theorem same_apply (metadata : FileMetadata) {change : FieldChange} {field : MetadataField}
    (different : change.field ≠ field) : field.Same metadata (apply metadata change) := by
  cases change <;> cases field <;> first | rfl | exact absurd rfl different

theorem foldl_apply_comm (metadata : FileMetadata) {change : FieldChange}
    {changes : List FieldChange} (unnamed : change.field ∉ changes.map field) :
    changes.foldl apply (apply metadata change) = apply (changes.foldl apply metadata) change := by
  induction changes generalizing metadata with
  | nil => rfl
  | cons next changes ih =>
      obtain ⟨different, rest⟩ := List.ne_and_not_mem_of_not_mem_cons unnamed
      rw [List.foldl_cons, List.foldl_cons, apply_comm metadata different]
      exact ih _ rest

end FieldChange

/-- A record with exactly these fields replaced. -/
structure FieldsReplaced (before : FileMetadata) (changes : List FieldChange)
    (after : FileMetadata) : Prop where
  named : ∀ change ∈ changes, FieldChange.apply after change = after
  unnamed : ∀ field ∉ changes.map FieldChange.field, field.Same before after
  fileId : after.fileId = before.fileId

theorem MetadataField.Same.trans {first second third : FileMetadata} {field : MetadataField}
    (one : field.Same first second) (two : field.Same second third) : field.Same first third := by
  cases field <;> exact Eq.trans one two

theorem fieldsReplaced_foldl (metadata : FileMetadata) {changes : List FieldChange}
    (distinct : (changes.map FieldChange.field).Nodup) :
    FieldsReplaced metadata changes (changes.foldl FieldChange.apply metadata) := by
  induction changes generalizing metadata with
  | nil =>
      refine ⟨by simp, fun field _ => ?_, rfl⟩
      cases field <;> rfl
  | cons change changes ih =>
      obtain ⟨unnamed, rest⟩ := List.nodup_cons.mp distinct
      have replaced := ih (FieldChange.apply metadata change) rest
      rw [List.foldl_cons]
      constructor
      case named =>
        intro other member
        rcases List.mem_cons.mp member with rfl | later
        · rw [FieldChange.foldl_apply_comm metadata unnamed, FieldChange.apply_apply]
        · exact replaced.named other later
      case unnamed =>
        intro field absent
        obtain ⟨different, others⟩ := List.ne_and_not_mem_of_not_mem_cons absent
        exact (FieldChange.same_apply metadata (Ne.symm different)).trans
          (replaced.unnamed field others)
      case fileId => rw [replaced.fileId, FieldChange.fileId_apply]

/-! ## Assigning attributes -/

/-- What the assignment of an attribute that is no field does. -/
inductive AttributeEffect
  /-- A class attribute such as `from_dict` or `__doc__`: nothing looks at the assigned value. -/
  | inert
  /-- `__class__` or `__weakref__`, which cannot be assigned. -/
  | refused (kind : ErrorClass) (refusal : kind = .typeError ∨ kind = .attributeError)
      (message : String)
  /-- `__dict__`: all attributes of the object are replaced. -/
  | dict (fields : FileMetadata)
  /-- `to_dict`, and the payload that the assigned method leads to. -/
  | toDict (payload : Raises Bytes)

/-- One keyword argument of `update`. -/
inductive Change
  | field (change : FieldChange)
  | other (name : String) (effect : AttributeEffect)
  | unknown (name : String)

/-- The record as an object: its fields, and the payload of a `to_dict` that was assigned. -/
structure RecordObject where
  fields : FileMetadata
  toDict : Option (Raises Bytes) := none

/-- `hasattr` and `setattr`. -/
def RecordObject.setAttribute (object : RecordObject) : Change → Raises RecordObject
  | .field change => .ok { object with fields := change.apply object.fields }
  | .other _ .inert => .ok object
  | .other _ (.refused kind _ message) => raise kind message
  | .other _ (.dict fields) => .ok { fields }
  | .other _ (.toDict payload) => .ok { object with toDict := some payload }
  | .unknown name => raise .metadataValidationError s!"Unknown metadata field: {name}"

namespace Change

def fieldChange : Change → Option FieldChange
  | .field change => some change
  | _ => none

def isField (change : Change) : Bool :=
  change.fieldChange.isSome

/-- What is raised for a key whose assignment stops the update. -/
def refusal : Change → Option PyError
  | .other _ (.refused kind _ message) => some ⟨kind, message⟩
  | .unknown name => some ⟨.metadataValidationError, s!"Unknown metadata field: {name}"⟩
  | _ => none

/-- The object after an assignment that is not refused. -/
def assign (object : RecordObject) : Change → RecordObject
  | .field change => { object with fields := change.apply object.fields }
  | .other _ (.dict fields) => { fields }
  | .other _ (.toDict payload) => { object with toDict := some payload }
  | _ => object

end Change

theorem RecordObject.setAttribute_eq (object : RecordObject) (change : Change) :
    object.setAttribute change =
      match change.refusal with
      | some exc => .error exc
      | none => .ok (change.assign object) := by
  cases change with
  | field change => rfl
  | other name effect => cases effect <;> rfl
  | unknown name => rfl

/-- The keyword arguments of a call: no key comes twice. -/
structure Changes where
  entries : List Change
  distinct : ((entries.filterMap Change.fieldChange).map FieldChange.field).Nodup

def Changes.fieldChanges (changes : Changes) : List FieldChange :=
  changes.entries.filterMap Change.fieldChange

/-- The object after all assignments, were none of them refused. -/
def Changes.object (changes : Changes) (metadata : FileMetadata) : RecordObject :=
  changes.entries.foldl Change.assign { fields := metadata }

theorem assignments_eq (object : RecordObject) (entries : List Change) :
    entries.foldlM RecordObject.setAttribute object =
      match entries.findSome? Change.refusal with
      | some exc => .error exc
      | none => .ok (entries.foldl Change.assign object) := by
  induction entries generalizing object with
  | nil => rfl
  | cons change entries ih =>
      rw [List.foldlM_cons, object.setAttribute_eq]
      cases refused : change.refusal with
      | some exc => simp [refused]
      | none => simp [refused, ih]

namespace Changes

variable {changes : Changes}

/-- Where all keys are fields, the assignments replace these fields. -/
theorem of_fields (onlyFields : ∀ change ∈ changes.entries, change.isField = true)
    (metadata : FileMetadata) :
    changes.entries.findSome? Change.refusal = none ∧
      changes.object metadata =
        { fields := changes.fieldChanges.foldl FieldChange.apply metadata } := by
  obtain ⟨entries, distinct⟩ := changes
  unfold object fieldChanges
  simp only at onlyFields ⊢
  clear distinct
  induction entries generalizing metadata with
  | nil => exact ⟨rfl, rfl⟩
  | cons change entries ih =>
      obtain ⟨first, rest⟩ := List.forall_mem_cons.mp onlyFields
      cases change with
      | field change => exact ih (change.apply metadata) rest
      | other name effect => cases first
      | unknown name => cases first

end Changes

/-! ## The update -/

namespace MetadataController

section Update

variable (crypto : Cryptography) (keys : MetadataProtectionKeys)

/-- `protect`, of an object whose `to_dict` may have been assigned. -/
def protectObject (nonce : AesCipher.Nonce) (object : RecordObject) :
    Raises ProtectedMetadata :=
  match object.toDict with
  | none => MetadataProtector.protect crypto keys nonce object.fields
  | some payload => do
      let payload ← payload
      let (nonce, ciphertext) ← AesCipher.encrypt crypto nonce payload keys.encryptionKey
      let macInput := MetadataProtector.macInput object.fields.fileId
        object.fields.metadataVersion nonce ciphertext
      return {
        fileId := object.fields.fileId
        metadataVersion := object.fields.metadataVersion
        nonce
        ciphertext
        hmacTag := HmacUtil.computeHmac crypto keys.hmacKey macInput }

/-- `update`.  The record is validated and saved under the id that it has in the end. -/
def update (draws : ControllerDraws) (repository : MetadataRepository) (fileId : String)
    (changes : Changes) : MetadataRepository × Raises FileMetadata :=
  match (do
      let metadata ← read crypto keys repository fileId
      let object ← changes.entries.foldlM RecordObject.setAttribute { fields := metadata }
      validate object.fields
      let stored ← protectObject crypto keys draws.nonce object
      return (object.fields, stored) : Raises (FileMetadata × ProtectedMetadata)) with
  | .error exc => (repository, .error exc)
  | .ok (metadata, stored) =>
      let (repository, saved) := repository.save stored draws.saveFault
      (repository, saved.map fun _ => metadata)

/-- The frame of an update. -/
structure UpdateFrame (draws : ControllerDraws) (repository : MetadataRepository)
    (fileId : String) (changes : Changes) : Prop where
  raised : ∀ exc, (update crypto keys draws repository fileId changes).2 = .error exc →
    (update crypto keys draws repository fileId changes).1 = repository
  returned : ∀ after, (update crypto keys draws repository fileId changes).2 = .ok after →
    ∃ before, read crypto keys repository fileId = .ok before ∧
      FieldsReplaced before changes.fieldChanges after ∧
      read crypto keys (update crypto keys draws repository fileId changes).1 fileId = .ok after ∧
      ∀ other ≠ fileId, (update crypto keys draws repository fileId changes).1.load other =
        repository.load other
  /-- A key that is no field of the record is refused. -/
  onlyFields : ∀ metadata, read crypto keys repository fileId = .ok metadata →
    (∃ change ∈ changes.entries, change.isField = false) →
      ∃ exc, (update crypto keys draws repository fileId changes).2 = .error exc ∧
        exc.kind = .metadataValidationError

end Update

/-- The changes of a record raise a validation error: the first key that is refused is no
attribute, or none is refused and the changed record is not valid, or an assigned `to_dict`
raises such an error itself. -/
def Rejects (changes : Changes) (metadata : FileMetadata) : Prop :=
  match changes.entries.findSome? Change.refusal with
  | some exc => exc.kind = .metadataValidationError
  | none => ∃ exc : PyError, exc.kind = .metadataValidationError ∧
      (validate (changes.object metadata).fields = .error exc ∨
        validate (changes.object metadata).fields = .ok () ∧
          (changes.object metadata).toDict = some (.error exc))

section Specifications

variable {crypto : Cryptography} {keys : MetadataProtectionKeys} {draws : ControllerDraws}
  {repository : MetadataRepository} {fileId : String} {changes : Changes}
  {metadata : FileMetadata}

/-- What an update of a record that is read does, in terms of the changed object. -/
theorem update_of_read (found : read crypto keys repository fileId = .ok metadata) :
    update crypto keys draws repository fileId changes =
      match changes.entries.findSome? Change.refusal with
      | some exc => (repository, .error exc)
      | none =>
          match validate (changes.object metadata).fields with
          | .error exc => (repository, .error exc)
          | .ok () =>
              match protectObject crypto keys draws.nonce (changes.object metadata) with
              | .error exc => (repository, .error exc)
              | .ok stored =>
                  let (repository, saved) := repository.save stored draws.saveFault
                  (repository, saved.map fun _ => (changes.object metadata).fields) := by
  have assigned : changes.entries.foldl Change.assign { fields := metadata } =
      changes.object metadata := rfl
  unfold update
  simp only [found, ok_bind, assignments_eq, assigned]
  cases changes.entries.findSome? Change.refusal with
  | some exc => rfl
  | none =>
      simp only [ok_bind]
      cases validate (changes.object metadata).fields with
      | error exc => rfl
      | ok _ =>
          simp only [ok_bind]
          cases protectObject crypto keys draws.nonce (changes.object metadata) <;> rfl

theorem update_raised {exc : PyError}
    (raised : (update crypto keys draws repository fileId changes).2 = .error exc) :
    (update crypto keys draws repository fileId changes).1 = repository := by
  unfold update at raised ⊢
  split
  · rfl
  · rename_i metadata stored prepared
    simp only [prepared] at raised ⊢
    cases fault : draws.saveFault with
    | some fault => rfl
    | none => simp [fault, MetadataRepository.save, Except.map] at raised

theorem encrypt_raisesOnly (nonce : AesCipher.Nonce) (plaintext key : Bytes) :
    RaisesOnly .encryptionError (AesCipher.encrypt crypto nonce plaintext key) := by
  unfold AesCipher.encrypt
  split_ifs
  · exact raisesOnly_raise.mpr rfl
  · split
    · exact raisesOnly_raise.mpr rfl
    · exact raisesOnly_ok _ _

theorem protectObject_of_toDict {nonce : AesCipher.Nonce} {object : RecordObject} {exc : PyError}
    (assigned : object.toDict = some (.error exc)) :
    protectObject crypto keys nonce object = .error exc := by
  unfold protectObject
  rw [assigned]
  rfl

/-- Nothing but an assigned `to_dict` raises a validation error while a record is protected. -/
theorem toDict_of_protectObject {nonce : AesCipher.Nonce} {object : RecordObject} {exc : PyError}
    (raised : protectObject crypto keys nonce object = .error exc)
    (rejected : exc.kind = .metadataValidationError) : object.toDict = some (.error exc) := by
  have encryption (payload : Bytes) :
      AesCipher.encrypt crypto nonce payload keys.encryptionKey ≠ .error exc := by
    intro failed
    have kind := encrypt_raisesOnly nonce payload keys.encryptionKey exc failed
    rw [rejected] at kind
    cases kind
  unfold protectObject at raised
  cases assigned : object.toDict with
  | none =>
      rw [assigned] at raised
      unfold MetadataProtector.protect at raised
      cases encrypted : AesCipher.encrypt crypto nonce (MetadataProtector.payload object.fields)
          keys.encryptionKey with
      | error failure =>
          simp [encrypted] at raised
          exact absurd (raised ▸ encrypted) (encryption _)
      | ok sealed => simp [encrypted] at raised
  | some payload =>
      rw [assigned] at raised
      cases payload with
      | error failure => exact congrArg (some ∘ Except.error) (Except.error.inj raised)
      | ok payload =>
          cases encrypted : AesCipher.encrypt crypto nonce payload keys.encryptionKey with
          | error failure =>
              simp [encrypted] at raised
              exact absurd (raised ▸ encrypted) (encryption _)
          | ok sealed => simp [encrypted] at raised

/-- An update of a record that is read raises a validation error exactly for changes that are
rejected. -/
theorem update_rejects_iff (found : read crypto keys repository fileId = .ok metadata) :
    (∃ exc, (update crypto keys draws repository fileId changes).2 = .error exc ∧
        exc.kind = .metadataValidationError) ↔ Rejects changes metadata := by
  rw [update_of_read found]
  unfold Rejects
  cases changes.entries.findSome? Change.refusal with
  | some exc => simp
  | none =>
      simp only
      cases validate (changes.object metadata).fields with
      | error exc => simp
      | ok _ =>
          cases protected' : protectObject crypto keys draws.nonce (changes.object metadata) with
          | error exc =>
              constructor
              · rintro ⟨_, raised, rejected⟩
                obtain rfl := Except.error.inj raised
                exact ⟨exc, rejected, .inr ⟨rfl, toDict_of_protectObject protected' rejected⟩⟩
              · rintro ⟨failure, rejected, invalid | ⟨-, assigned⟩⟩
                · cases invalid
                · rw [protectObject_of_toDict assigned] at protected'
                  obtain rfl := Except.error.inj protected'
                  exact ⟨failure, rfl, rejected⟩
          | ok stored =>
              constructor
              · rintro ⟨exc, raised, rejected⟩
                cases fault : draws.saveFault with
                | none => simp [fault, MetadataRepository.save, Except.map] at raised
                | some fault =>
                    simp only [fault, MetadataRepository.save, raise, Except.map] at raised
                    obtain rfl := Except.error.inj raised
                    cases rejected
              · rintro ⟨failure, rejected, invalid | ⟨-, assigned⟩⟩
                · cases invalid
                · rw [protectObject_of_toDict assigned] at protected'
                  cases protected'

/-- An update whose keys are all fields replaces these fields and no other record. -/
theorem update_fields (laws : crypto.AesGcmLaws) (genuine : repository.Genuine crypto)
    (onlyFields : ∀ change ∈ changes.entries, change.isField = true) {after : FileMetadata}
    (updated : (update crypto keys draws repository fileId changes).2 = .ok after) :
    ∃ before, read crypto keys repository fileId = .ok before ∧
      FieldsReplaced before changes.fieldChanges after ∧
      read crypto keys (update crypto keys draws repository fileId changes).1 fileId = .ok after ∧
      ∀ other ≠ fileId, (update crypto keys draws repository fileId changes).1.load other =
        repository.load other := by
  cases found : read crypto keys repository fileId with
  | error exc => simp [update, found] at updated
  | ok before =>
      obtain ⟨notRefused, assigned⟩ := changes.of_fields onlyFields before
      have replaced := fieldsReplaced_foldl before changes.distinct
      have stores : update crypto keys draws repository fileId changes =
          store crypto keys draws repository
            (changes.fieldChanges.foldl FieldChange.apply before) := by
        rw [update_of_read found, notRefused, assigned]
        rfl
      rw [stores] at updated ⊢
      rcases store_cases crypto keys draws repository
          (changes.fieldChanges.foldl FieldChange.apply before) with
        ⟨stored, valid, -, written, saved⟩ | ⟨exc, raised⟩
      · rw [saved] at updated ⊢
        obtain rfl := Except.ok.inj updated
        have storedId : stored.fileId = fileId := by
          rw [(MetadataProtector.protect_eq_ok.mp written).2.1]
          exact replaced.fileId.trans (genuine.fileId_of_read laws found)
        refine ⟨before, rfl, replaced, ?_, fun other different => ?_⟩
        · refine read_of_stored laws ?_ written valid
          rw [← storedId]
          exact repository.load_upsert stored
        · exact MetadataRepository.load_upsert_other (by rwa [storedId])
      · rw [raised] at updated
        cases updated

/-- An update keeps to its frame exactly when the record is not read, every key is a field, or
the changes are rejected. -/
theorem updateFrame_iff (laws : crypto.AesGcmLaws) (genuine : repository.Genuine crypto) :
    UpdateFrame crypto keys draws repository fileId changes ↔
      (∀ metadata, read crypto keys repository fileId ≠ .ok metadata) ∨
        (∀ change ∈ changes.entries, change.isField = true) ∨
        ∃ metadata, read crypto keys repository fileId = .ok metadata ∧
          Rejects changes metadata := by
  constructor
  · intro frame
    cases found : read crypto keys repository fileId with
    | error exc => exact .inl fun metadata equal => nomatch equal
    | ok metadata =>
        right
        by_cases onlyFields : ∀ change ∈ changes.entries, change.isField = true
        · exact .inl onlyFields
        · right
          push Not at onlyFields
          simp only [ne_eq, Bool.not_eq_true] at onlyFields
          exact ⟨metadata, rfl, (update_rejects_iff found).mp
            (frame.onlyFields metadata found onlyFields)⟩
  · intro condition
    refine ⟨fun exc raised => update_raised raised, fun after updated => ?_,
      fun metadata found notField => ?_⟩
    · rcases condition with unread | onlyFields | ⟨metadata, found, rejects⟩
      · cases found : read crypto keys repository fileId with
        | error exc => simp [update, found] at updated
        | ok metadata => exact absurd found (unread metadata)
      · exact update_fields laws genuine onlyFields updated
      · obtain ⟨exc, raised, -⟩ := (@update_rejects_iff _ _ draws _ _ _ _ found).mpr rejects
        rw [updated] at raised
        cases raised
    · rcases condition with unread | onlyFields | ⟨other, otherFound, rejects⟩
      · exact absurd found (unread metadata)
      · obtain ⟨change, member, other⟩ := notField
        rw [onlyFields change member] at other
        cases other
      · exact (update_rejects_iff otherFound).mpr rejects

end Specifications

end MetadataController

/-! ## Updates of a plain record -/

/-- The table after the record was created. -/
def plainTable : MetadataRepository :=
  (MetadataController.create (transparent (padTo 32)) plainKeys plainControllerDraws {}
    (expiringRequest plainInstant.1) plainInstant).1

/-- A change of an attribute of the class that is no field. -/
def docChange : Changes where
  entries := [.other "__doc__" .inert]
  distinct := List.nodup_nil

def ownerChange : Changes where
  entries := [.field (.ownerId "new-owner")]
  distinct := List.nodup_singleton _

/-- An update of `__doc__` does not raise. -/
theorem doc_update_leaves_frame :
    ¬ MetadataController.UpdateFrame (transparent (padTo 32)) plainKeys plainControllerDraws
      plainTable "f" docChange := by
  intro frame
  obtain ⟨metadata, created⟩ := expiringRequest_created plainInstant.1
  obtain ⟨rfl, valid, stored, written, -, loaded⟩ := MetadataController.create_returns created
  have found : MetadataController.read (transparent (padTo 32)) plainKeys plainTable "f" = .ok _ :=
    MetadataController.read_of_stored transparent_aesGcmLaws loaded written valid
  have rejects := (MetadataController.update_rejects_iff found).mp
    (frame.onlyFields _ found ⟨_, .head _, rfl⟩)
  obtain ⟨exc, -, invalid | ⟨-, assigned⟩⟩ := rejects
  · cases valid.symm.trans invalid
  · cases assigned

theorem updateFrame_iff_owner :
    MetadataController.UpdateFrame (transparent (padTo 32)) plainKeys plainControllerDraws
      plainTable "f" ownerChange := by
  obtain ⟨metadata, created⟩ := expiringRequest_created plainInstant.1
  obtain ⟨-, -, stored, written, table, -⟩ := MetadataController.create_returns created
  have genuine : plainTable.Genuine (transparent (padTo 32)) := by
    rw [plainTable, table]
    exact MetadataRepository.Genuine.empty.upsert written
  refine (MetadataController.updateFrame_iff transparent_aesGcmLaws genuine).mpr
    (.inr (.inl fun change member => ?_))
  obtain rfl := List.mem_singleton.mp member
  rfl

end CryptoUsb
