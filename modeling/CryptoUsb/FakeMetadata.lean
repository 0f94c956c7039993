import CryptoUsb.ContentGenerators
import CryptoUsb.IndentedJson
import CryptoUsb.MetadataController

/-!
# Fake metadata

A decoy in the shape of a metadata record.  The application's own reader takes it for a record
that is valid and that no usage rule ever refuses.
-/

namespace CryptoUsb

open ByteString RandomDraws JsonText IsoDateTime Base64Text

namespace ContentGenerators

/-- A number in hexadecimal, with zeros before it up to a width. -/
def paddedHex (width number : Nat) : String :=
  let digits := Nat.toDigits 16 number
  String.ofList (List.replicate (width - digits.length) '0' ++ digits)

example : paddedHex 8 48879 = "0000beef" := by decide +kernel

def unlimitedExpiryRules : Json :=
  .obj [("expires_at", .null), ("max_access_count", .null)]

/-- Without the three hardware fields that a record of the application has. -/
def unboundDeviceBinding : Json :=
  .obj [("device_id", .null), ("label", .null), ("bound", .bool false), ("usb_serial", .null),
    ("machine_fingerprint", .null)]

def freeUsagePolicy : Json :=
  .obj [("one_time_access", .bool false), ("allow_multiple_devices", .bool true),
    ("notes", .null)]

/-- `file_id or f"file-{…}"`. -/
def fakeFileId {State : Type} (rng : Random State) (fileId : Option String) :
    Drawing State PyError String :=
  match fileId with
  | some fileId =>
      if fileId = "" then do return "file-" ++ paddedHex 8 (← rng.getrandbits 32)
      else return fileId
  | none => do return "file-" ++ paddedHex 8 (← rng.getrandbits 32)

def fakePayload (now : UtcInstant) (fileId ownerId wrappedKey integrityHash : String)
    (accessCount : Int) : Json :=
  .obj [("file_id", .str fileId),
    ("owner_id", .str ownerId),
    ("wrapped_key", .str wrappedKey),
    ("wrap_algorithm", .str "RSA-OAEP"),
    ("integrity_hash", .str integrityHash),
    ("created_at", .str (isoformat now.1)),
    ("last_accessed_at", .str (isoformat now.1)),
    ("access_count", .int accessCount),
    ("expiry_rules", unlimitedExpiryRules),
    ("device_binding", unboundDeviceBinding),
    ("usage_policy", freeUsagePolicy),
    ("metadata_version", .int 1)]

/-- `generate_fake_metadata`, at the instant `now`. -/
def generateFakeMetadata {State : Type} (rng : Random State) (now : UtcInstant)
    (fileId : Option String) : Drawing State PyError Bytes := do
  let fileId ← fakeFileId rng fileId
  let ownerId := "user-" ++ paddedHex 4 (← rng.getrandbits 16)
  let wrappedKey := hexEncode (← rng.randbytes 24)
  let integrityHash := hexEncode (← rng.randbytes 32)
  let accessCount ← rng.randint 0 5
  let payload := fakePayload now fileId ownerId wrappedKey integrityHash accessCount
  return encodeUtf8 (String.ofList (dumpsIndented ['\n'] 2 payload))

/-! ## What the fields read as -/

theorem hexDigit_eq_base64Digit : ∀ number < 16,
    hexDigit number = base64Digit (if number < 10 then number + 52 else number + 16) := by
  decide +kernel

theorem asBase64_hexEncode {bytes : Bytes} {groups : Nat} (complete : bytes.length = 2 * groups) :
    ∃ wrapped, asBase64 (.str (hexEncode bytes)) = .ok wrapped ∧ wrapped.length = 3 * groups := by
  have digits : ∀ character ∈ hexChars bytes, ∃ number < 64, character = base64Digit number := by
    intro character member
    obtain ⟨number, small, rfl⟩ := mem_hexChars member
    exact ⟨_, by split <;> omega, hexDigit_eq_base64Digit number small⟩
  have length : (hexChars bytes).length = 4 * groups := by
    rw [length_hexChars]
    omega
  obtain ⟨wrapped, decoded, wrappedLength⟩ := b64decode_groups length digits
  refine ⟨wrapped, ?_, wrappedLength⟩
  simp [asBase64, hexEncode, decoded]

theorem fromDict_unlimitedExpiryRules :
    ExpiryRules.fromDict unlimitedExpiryRules = .ok {} :=
  ExpiryRules.fromDict_toDict {}

theorem fromDict_freeUsagePolicy : UsagePolicy.fromDict freeUsagePolicy = .ok {} :=
  UsagePolicy.fromDict_toDict {}

theorem fromDict_unboundDeviceBinding :
    DeviceBinding.fromDict unboundDeviceBinding = .ok {} := by
  simp [DeviceBinding.fromDict, unboundDeviceBinding, getOr, memberLookup, asOptional, pure,
    Except.pure]

theorem fromDict_fakePayload {now : UtcInstant} {fileId ownerId wrappedKey integrityHash : String}
    {accessCount : Int} {wrapped : Bytes} (decoded : asBase64 (.str wrappedKey) = .ok wrapped) :
    FileMetadata.fromDict
        (fakePayload now fileId ownerId wrappedKey integrityHash accessCount) =
      .ok { fileId, ownerId, wrappedKey := wrapped, wrapAlgorithm := "RSA-OAEP", integrityHash,
            createdAt := now.1, lastAccessedAt := some now.1, accessCount } := by
  have lastAccessedAt : getDateTime
      (fakePayload now fileId ownerId wrappedKey integrityHash accessCount) "last_accessed_at" =
      .ok (some now.1) :=
    getDateTime_optDateTime rfl
  unfold fakePayload at lastAccessedAt ⊢
  simp [FileMetadata.fromDict, getItem, getOr, memberLookup, decoded, lastAccessedAt,
    fromDict_unlimitedExpiryRules, fromDict_unboundDeviceBinding, fromDict_freeUsagePolicy, pure,
    Except.pure, currentMetadataVersion]

theorem loads_fakePayload (now : UtcInstant)
    (fileId ownerId wrappedKey integrityHash : String) (accessCount : Int) :
    loads (String.ofList (dumpsIndented ['\n'] 2
        (fakePayload now fileId ownerId wrappedKey integrityHash accessCount))) =
      some (fakePayload now fileId ownerId wrappedKey integrityHash accessCount) := by
  apply loads_dumpsIndented blank_newline
  apply FloatFree.floatsReadable
  simp [fakePayload, unlimitedExpiryRules, unboundDeviceBinding, freeUsagePolicy, FloatFree,
    FloatFreeMembers]

/-! ## The record -/

/-- The JSON text of a record. -/
def ReadsAs (content : Bytes) (metadata : FileMetadata) : Prop :=
  ∃ text data, decodeUtf8Bytes content = .ok text ∧ loadJson text = .ok data ∧
    FileMetadata.fromDict data = .ok metadata

/-- A record that was made up at `now`. -/
structure FakeRecord (now : UtcInstant) (metadata : FileMetadata) : Prop where
  valid : MetadataController.validate metadata = .ok ()
  created : metadata.createdAt = now.1
  accessed : metadata.lastAccessedAt = some now.1
  accesses : 0 ≤ metadata.accessCount ∧ metadata.accessCount ≤ 5
  unlimited : metadata.expiryRules = {}
  unbound : metadata.deviceBinding = {}
  free : metadata.usagePolicy = {}

/-- No usage rule refuses such a record, however late. -/
theorem FakeRecord.enforcePolicy {now : UtcInstant} {metadata : FileMetadata}
    (fake : FakeRecord now metadata) (later : UtcInstant) :
    MetadataController.enforcePolicy later metadata = .ok () := by
  rw [MetadataController.enforcePolicy_eq_ok]
  constructor
  · intro expiresAt limited
    rw [fake.unlimited] at limited
    cases limited
  · intro maxAccessCount limited
    rw [fake.unlimited] at limited
    cases limited
  · intro once
    rw [fake.free] at once
    cases once

theorem FakeRecord.binding {now : UtcInstant} {metadata : FileMetadata}
    (fake : FakeRecord now metadata) (identity : PresentedIdentity) :
    (DeviceBindingValidator.validate metadata.deviceBinding identity).ok = true := by
  rw [fake.unbound]
  rfl

theorem lessThan_self (now : UtcInstant) : now.1.lessThan now.1 = some false := by
  rw [DateTime.lessThan, now.2]
  simp

section Generator

variable {State : Type} {rng : Random State}

theorem fakeFileId_always (documented : rng.Documented) (fileId : Option String) :
    Always (fakeFileId rng fileId) fun chosen => chosen ≠ "" ∧
      ∀ given, fileId = some given → given ≠ "" → chosen = given := by
  have drawn : Always (do return "file-" ++ paddedHex 8 (← rng.getrandbits 32) :
      Drawing State PyError String) fun chosen => chosen ≠ "" :=
    .bind (documented.getrandbits 32) fun _ _ => .pure (by simp)
  match fileId with
  | none => exact drawn.imp fun chosen named => ⟨named, by simp⟩
  | some given =>
      rw [fakeFileId]
      by_cases empty : given = ""
      · rw [if_pos empty]
        refine drawn.imp fun chosen named => ⟨named, ?_⟩
        intro _ same nonempty
        exact absurd (Option.some.inj same ▸ empty) nonempty
      · rw [if_neg empty]
        refine .pure ⟨empty, ?_⟩
        rintro _ same -
        exact Option.some.inj same

/-- The decoy reads back as a record of the file that was asked for, made at the instant at which
it was generated. -/
theorem generateFakeMetadata_always (documented : rng.Documented) (now : UtcInstant)
    (fileId : Option String) :
    Always (generateFakeMetadata rng now fileId) fun content => ∃ metadata,
      ReadsAs content metadata ∧ FakeRecord now metadata ∧
        ∀ given, fileId = some given → given ≠ "" → metadata.fileId = given := by
  refine .bind (fakeFileId_always documented fileId) fun chosen ⟨named, given⟩ => ?_
  refine .bind (documented.getrandbits 16) fun owner _ => ?_
  refine .bind (documented.randbytes 24) fun key keyLength => ?_
  refine .bind (documented.randbytes 32) fun hash hashLength => ?_
  refine .bind (documented.randint (by decide)) fun accessCount accesses => .pure ?_
  obtain ⟨wrapped, decoded, wrappedLength⟩ := @asBase64_hexEncode key 12 keyLength
  have loaded := loads_fakePayload now chosen ("user-" ++ paddedHex 4 owner) (hexEncode key)
    (hexEncode hash) accessCount
  refine ⟨_, ⟨_, _, decodeUtf8Bytes_encodeUtf8 _, by rw [loadJson, loaded],
    fromDict_fakePayload decoded⟩, ?_, given⟩
  refine ⟨?_, rfl, rfl, accesses, rfl, rfl, rfl⟩
  have hashed : (hexEncode hash).length = 64 ∧ isHex (hexEncode hash) = true := by
    constructor
    · rw [length_hexEncode, hashLength]
    · apply isHex_hexEncode
      rintro rfl
      cases hashLength
  have wraps : wrapped ≠ [] := by
    rintro rfl
    cases wrappedLength
  simp [MetadataController.validate, named, wraps, hashed, accesses.1, lessThan_self,
    currentMetadataVersion]

end Generator

end ContentGenerators

end CryptoUsb
