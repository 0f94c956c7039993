import CryptoUsb.TransparentPrimitives

/-!
# Parsing secure containers

Which containers come back from their bytes, in both versions of the format, and
which byte strings make the three nested parsers raise something else than the
error their callers handle.
-/

namespace CryptoUsb

open ByteString

/-! ## Both versions of the format -/

/-- The number of bytes of a serialized record. -/
def ProtectedMetadata.size (stored : ProtectedMetadata) : Nat :=
  4 + (2 + stored.nonce.length) + (2 + stored.hmacTag.length) + (8 + stored.ciphertext.length)

def EncryptedContainer.size (container : EncryptedContainer) : Nat :=
  5 + (1 + container.wrapAlgorithm.length) + (2 + container.wrappedKey.length) +
    container.nonce.length + container.ciphertext.length

def PortableMetadataEnvelope.size (envelope : PortableMetadataEnvelope) : Nat :=
  5 + (1 + (encodeUtf8 envelope.protectedMetadata.fileId).length) + (1 + envelope.salt.length) +
    envelope.protectedMetadata.size

/-- The limits of the fields of an encrypted file, as its serializer checks them. -/
structure EncryptedContainer.WithinLimits (container : EncryptedContainer) : Prop where
  ascii : (encodeAscii container.wrapAlgorithm).isSome
  shortName : container.wrapAlgorithm.length ≤ 255
  shortKey : container.wrappedKey.length ≤ 65535
  nonceSize : container.nonce.length = AesCipher.nonceSizeBytes

structure PortableMetadataEnvelope.WithinLimits (envelope : PortableMetadataEnvelope) : Prop where
  shortId : (encodeUtf8 envelope.protectedMetadata.fileId).length ≤ 255
  shortSalt : envelope.salt.length ≤ 255
  fits : envelope.protectedMetadata.Fits

structure SecureContainer.WithinLimits (container : SecureContainer) : Prop where
  shortId : (encodeUtf8 container.fileId).length ≤ 255
  sameId : container.protectedMetadata.fileId = container.fileId
  file : container.fileContainer.WithinLimits
  fits : container.protectedMetadata.Fits
  portable : ∀ envelope ∈ container.portableMetadata, envelope.WithinLimits

/-- Every part is short enough for the eight bytes that hold its length. -/
structure SecureContainer.PartsFit (container : SecureContainer) : Prop where
  file : container.fileContainer.size < 2 ^ 64
  metadata : container.protectedMetadata.size < 2 ^ 64
  portable : ∀ envelope ∈ container.portableMetadata, envelope.size < 2 ^ 64

theorem serializeProtectedMetadata_of_fits {stored : ProtectedMetadata} (fits : stored.Fits) :
    ∃ blob, serializeProtectedMetadata stored = .ok blob ∧ blob.length = stored.size := by
  refine ⟨_, serializeProtectedMetadata_eq_ok.mpr ⟨fits, rfl⟩, ?_⟩
  simp only [List.length_append, lengthPrefixed, length_bigEndian, ProtectedMetadata.size]
  omega

theorem EncryptedContainer.serialize_of_limits {container : EncryptedContainer}
    (limits : container.WithinLimits) :
    ∃ blob, container.serialize = .ok blob ∧ blob.length = container.size := by
  obtain ⟨algoBytes, ascii⟩ := Option.isSome_iff_exists.mp limits.ascii
  have nameSize := length_encodeAscii ascii
  have shortName := limits.shortName
  refine ⟨_, serialize_eq_ok.mpr ⟨algoBytes, by simp [encodeAsciiText, ascii], by omega,
    limits.shortKey, rfl⟩, ?_⟩
  have magicSize : magic.length = 4 := by decide
  simp only [List.length_append, List.length_cons, lengthPrefixed, length_bigEndian, magicSize,
    nameSize, size]
  omega

theorem PortableMetadataEnvelope.serialize_of_limits {envelope : PortableMetadataEnvelope}
    (limits : envelope.WithinLimits) :
    ∃ blob, envelope.serialize = .ok blob ∧ blob.length = envelope.size := by
  obtain ⟨fields, written, fieldsSize⟩ := serializeProtectedMetadata_of_fits limits.fits
  refine ⟨_, serialize_eq_ok.mpr ⟨limits.shortId, limits.shortSalt, fields, written, rfl⟩, ?_⟩
  have magicSize : magic.length = 4 := by decide
  simp only [List.length_append, List.length_cons, lengthPrefixed, length_bigEndian, magicSize,
    fieldsSize, size]
  omega

namespace SecureContainer

/-- A container within its limits is written exactly when its parts fit their
length fields. -/
theorem serialize_returns_iff {crypto : Cryptography} {container : SecureContainer}
    (limits : container.WithinLimits) :
    Returns (container.serialize crypto) ↔ container.PartsFit := by
  obtain ⟨fileBlob, fileWritten, fileSize⟩ :=
    EncryptedContainer.serialize_of_limits limits.file
  obtain ⟨metaBlob, metaWritten, metaSize⟩ := serializeProtectedMetadata_of_fits limits.fits
  obtain ⟨portableBlob, portableWritten, portableSize⟩ : ∃ portableBlob,
      serializePortable container.portableMetadata = .ok portableBlob ∧
        portableBlob.length = (container.portableMetadata.map (·.size)).getD 0 := by
    cases given : container.portableMetadata with
    | none => exact ⟨[], rfl, rfl⟩
    | some envelope =>
        exact PortableMetadataEnvelope.serialize_of_limits (limits.portable envelope given)
  constructor
  · rintro ⟨bytes, serialized⟩
    obtain ⟨body, bodyWritten, -⟩ := bind_eq_ok.mp serialized
    obtain ⟨-, fileBlob', metaBlob', portableBlob', fileWritten', metaWritten',
      portableWritten', fileFits, metaFits, portableFits, -⟩ :=
      serializeBody_eq_ok.mp bodyWritten
    obtain rfl := Except.ok.inj (fileWritten.symm.trans fileWritten')
    obtain rfl := Except.ok.inj (metaWritten.symm.trans metaWritten')
    obtain rfl := Except.ok.inj (portableWritten.symm.trans portableWritten')
    refine ⟨by omega, by omega, ?_⟩
    intro envelope given
    rw [Option.mem_def.mp given] at portableSize
    simp only [Option.map_some, Option.getD_some] at portableSize
    omega
  · rintro ⟨fileFits, metaFits, portableFits⟩
    have portableShort : portableBlob.length < 256 ^ 8 := by
      rw [portableSize]
      cases given : container.portableMetadata with
      | none => simp
      | some envelope => simpa using portableFits envelope given
    exact ⟨_, bind_eq_ok.mpr ⟨_, serializeBody_eq_ok.mpr ⟨limits.shortId, fileBlob, metaBlob,
      portableBlob, fileWritten, metaWritten, portableWritten, by omega, by omega,
      portableShort, rfl⟩, rfl⟩⟩

/-- The layout of version 1, which has no portable section. -/
def serializeVersionOne (crypto : Cryptography) (container : SecureContainer) :
    Raises Bytes := do
  let fileBlob ← container.fileContainer.serialize
  let metaBlob ← serializeProtectedMetadata container.protectedMetadata
  let body := magic ++ (1 :: (lengthPrefixed 1 (encodeUtf8 container.fileId) ++
    (lengthPrefixed 8 fileBlob ++ lengthPrefixed 8 metaBlob)))
  return body ++ (crypto.sha256 body).1

/-- A container written in version 1 comes back without a portable section. -/
theorem deserialize_serializeVersionOne {crypto : Cryptography} {container : SecureContainer}
    (limits : container.WithinLimits) (fileFits : container.fileContainer.size < 2 ^ 64)
    (metaFits : container.protectedMetadata.size < 2 ^ 64) :
    ∃ bytes, container.serializeVersionOne crypto = .ok bytes ∧
      deserialize crypto bytes = .ok { container with portableMetadata := none } := by
  obtain ⟨fileBlob, fileWritten, fileSize⟩ :=
    EncryptedContainer.serialize_of_limits limits.file
  obtain ⟨metaBlob, metaWritten, metaSize⟩ := serializeProtectedMetadata_of_fits limits.fits
  refine ⟨_, bind_eq_ok.mpr ⟨_, fileWritten, bind_eq_ok.mpr ⟨_, metaWritten, rfl⟩⟩, ?_⟩
  have fileShort : fileBlob.length < 256 ^ 8 := by omega
  have metaShort : metaBlob.length < 256 ^ 8 := by omega
  have header : magic ++ (1 :: (lengthPrefixed 1 (encodeUtf8 container.fileId) ++
      (lengthPrefixed 8 fileBlob ++ lengthPrefixed 8 metaBlob))) =
      [67, 85, 83, 67, 1, UInt8.ofNat (encodeUtf8 container.fileId).length] ++
        (encodeUtf8 container.fileId ++ (lengthPrefixed 8 fileBlob ++
          (lengthPrefixed 8 metaBlob ++ []))) := by
    rw [lengthPrefixed_one, List.append_nil]
    rfl
  have metaRead := deserialize_serializeProtectedMetadata metaWritten
  rw [limits.sameId] at metaRead
  simp only [header]
  rw [deserialize_append_sha256 (by simp only [List.length_append, List.length_cons]; omega)]
  simp only [deserializeBody]
  rw [if_neg (by simp; rfl)]
  simp only [List.cons_append, byteAt_succ, byteAt_zero, ok_bind, List.drop_succ_cons,
    List.drop_zero, List.nil_append, toNat_length limits.shortId, List.take_left,
    List.drop_left, decodeUtf8Bytes_encodeUtf8, readLengthPrefixed_append fileShort,
    readLengthPrefixed_append metaShort,
    EncryptedContainer.deserialize_serialize fileWritten limits.file.nonceSize, reraiseAs_ok,
    metaRead]
  rfl

/-- Decoding undoes encoding of every container whose parts fit their length
fields, and reads the layout of version 1. -/
theorem deserialize_undoes_serialize {crypto : Cryptography} {container : SecureContainer}
    (limits : container.WithinLimits) (fits : container.PartsFit) :
    (∃ bytes, container.serialize crypto = .ok bytes ∧
        deserialize crypto bytes = .ok container) ∧
      ∃ bytes, container.serializeVersionOne crypto = .ok bytes ∧
        deserialize crypto bytes = .ok { container with portableMetadata := none } := by
  refine ⟨?_, deserialize_serializeVersionOne limits fits.file fits.metadata⟩
  obtain ⟨bytes, serialized⟩ := (serialize_returns_iff limits).mpr fits
  exact ⟨bytes, serialized,
    deserialize_serialize serialized limits.file.nonceSize limits.sameId⟩

end SecureContainer

/-- A record with a ciphertext of the given bytes. -/
def plainRecord (ciphertext : Bytes) : ProtectedMetadata where
  fileId := "report"
  metadataVersion := 1
  nonce := plainNonce.1
  ciphertext := ciphertext
  hmacTag := [1, 2, 3]

/-- A container with such a record, on its own and in a portable section. -/
def plainSecureContainer (ciphertext : Bytes) : SecureContainer where
  fileId := "report"
  fileContainer := plainContainer [5]
  protectedMetadata := plainRecord ciphertext
  portableMetadata := some { salt := [9], protectedMetadata := plainRecord [] }

private theorem plainRecord_fits {ciphertext : Bytes} (short : ciphertext.length < 2 ^ 64) :
    (plainRecord ciphertext).Fits where
  versionNonnegative := by simp [plainRecord]
  version := by simp [plainRecord]
  nonce := by simp [plainRecord, plainNonce]
  hmacTag := by simp [plainRecord]
  ciphertext := by simpa [plainRecord] using short

private theorem plainSecureContainer_withinLimits {ciphertext : Bytes}
    (short : ciphertext.length < 2 ^ 64) :
    (plainSecureContainer ciphertext).WithinLimits := by
  have idSize : (encodeUtf8 "report").length ≤ 255 := by decide +kernel
  have ascii : (encodeAscii "RSA-OAEP").isSome := by decide +kernel
  have nameSize : "RSA-OAEP".length ≤ 255 := by decide
  have keySize : ((1 : UInt8) :: plainFek).length ≤ 65535 := by decide
  refine ⟨idSize, rfl, ⟨ascii, nameSize, keySize, plainNonce.2⟩, plainRecord_fits short, ?_⟩
  intro envelope given
  obtain rfl := Option.some.inj (Option.mem_def.mp given)
  exact ⟨idSize, by decide, plainRecord_fits (by simp)⟩

private theorem longRecord_not_written {ciphertext : Bytes}
    (length : ciphertext.length = 2 ^ 64 - 1) :
    ¬ Returns ((plainSecureContainer ciphertext).serialize (transparent (padTo 32))) := by
  have limits := @plainSecureContainer_withinLimits ciphertext (by omega)
  rw [SecureContainer.serialize_returns_iff limits]
  intro fits
  have fits := fits.metadata
  simp only [plainSecureContainer, plainRecord, ProtectedMetadata.size] at fits
  omega

def longestCiphertext : Bytes := List.replicate (2 ^ 64 - 1) 0

private theorem length_longestCiphertext : longestCiphertext.length = 2 ^ 64 - 1 :=
  List.length_replicate

/-- A ciphertext as long as its length field allows makes the record too long for
the length field around it: the container is not written. -/
theorem longest_record_not_written :
    (plainSecureContainer longestCiphertext).WithinLimits ∧
      ¬ ∃ bytes,
        (plainSecureContainer longestCiphertext).serialize (transparent (padTo 32)) =
            .ok bytes ∧
          SecureContainer.deserialize (transparent (padTo 32)) bytes =
            .ok (plainSecureContainer longestCiphertext) := by
  have length := length_longestCiphertext
  refine ⟨plainSecureContainer_withinLimits (by omega), ?_⟩
  rintro ⟨bytes, serialized, -⟩
  exact longRecord_not_written length ⟨bytes, serialized⟩

theorem deserialize_undoes_serialize_plain :
    (∃ bytes, (plainSecureContainer [4]).serialize (transparent (padTo 32)) = .ok bytes ∧
        SecureContainer.deserialize (transparent (padTo 32)) bytes =
          .ok (plainSecureContainer [4])) ∧
      ∃ bytes, (plainSecureContainer [4]).serializeVersionOne (transparent (padTo 32)) =
          .ok bytes ∧
        SecureContainer.deserialize (transparent (padTo 32)) bytes =
          .ok { plainSecureContainer [4] with portableMetadata := none } :=
  SecureContainer.deserialize_undoes_serialize (plainSecureContainer_withinLimits (by simp))
    { file := by decide
      metadata := by decide
      portable := by
        intro envelope given
        obtain rfl := Option.some.inj (Option.mem_def.mp given)
        decide +kernel }

/-! ## Which byte strings are rejected cleanly -/

theorem byteAt_eq (data : Bytes) (offset : Nat) :
    byteAt data offset =
      if offset < data.length then .ok (data.getD offset 0)
      else raise .indexError "index out of range" := by
  unfold byteAt
  split_ifs with inRange
  · simp [List.getD, List.getElem?_eq_getElem inRange]
  · simp [List.getElem?_eq_none (Nat.le_of_not_lt inRange)]

/-- The single bytes and the text that the file parser reads are there. -/
def EncryptedContainer.Readable (data : Bytes) : Prop :=
  data.take 4 = magic → 4 < data.length ∧
    (data.getD 4 0 = formatVersion → 5 < data.length ∧
      (decodeAscii ((data.drop 6).take (data.getD 5 0).toNat)).isSome)

/-- The envelope parser refuses the section before it reads further. -/
def PortableMetadataEnvelope.Refused (data : Bytes) : Prop :=
  data.take 4 = magic → 4 < data.length ∧ data.getD 4 0 ≠ formatVersion

def PortableMetadataEnvelope.Readable (data : Bytes) : Prop :=
  data.take 4 = magic → 4 < data.length ∧
    (data.getD 4 0 = formatVersion → 5 < data.length ∧
      (decodeUtf8 ((data.drop 6).take (data.getD 5 0).toNat)).isSome ∧
      6 + (data.getD 5 0).toNat < data.length)

/-- A byte or a text that is not there was read. -/
def Crashes {α : Type} (outcome : Raises α) : Prop :=
  ∃ error, outcome = .error error ∧ (error.kind = .indexError ∨ error.kind = .unicodeError)

theorem EncryptedContainer.deserialize_cases (data : Bytes) :
    (Readable data ∧
        (Returns (deserialize data) ∨
          ∃ message, deserialize data = raise .decryptionError message)) ∨
      (¬ Readable data ∧ Crashes (deserialize data)) := by
  unfold deserialize Readable
  by_cases marked : data.take 4 = magic
  · simp only [marked, ne_eq, not_true_eq_false, if_false, forall_const, byteAt_eq]
    by_cases hasVersion : 4 < data.length
    · simp only [hasVersion, if_true, ok_bind, true_and]
      by_cases known : data.getD 4 0 = formatVersion
      · simp only [known, not_true_eq_false, if_false, forall_const]
        by_cases hasLength : 5 < data.length
        · simp only [hasLength, if_true, ok_bind, true_and, decodeAsciiBytes]
          cases decodeAscii ((data.drop 6).take (data.getD 5 0).toNat) with
          | none => exact .inr ⟨by simp, _, rfl, .inr rfl⟩
          | some wrapAlgorithm => exact .inl ⟨rfl, .inl ⟨_, rfl⟩⟩
        · simp only [hasLength, if_false, false_and]
          exact .inr ⟨not_false, _, rfl, .inl rfl⟩
      · simp only [known, not_false_eq_true, if_true, false_implies]
        exact .inl ⟨trivial, .inr ⟨_, rfl⟩⟩
    · simp only [hasVersion, if_false, false_and]
      exact .inr ⟨not_false, _, rfl, .inl rfl⟩
  · simp only [marked, ne_eq, not_false_eq_true, if_true, false_implies]
    exact .inl ⟨trivial, .inr ⟨_, rfl⟩⟩

theorem PortableMetadataEnvelope.deserialize_cases (data : Bytes) :
    (Readable data ∧ Refused data ∧
        ∃ message, deserialize data = raise .metadataValidationError message) ∨
      (Readable data ∧ ¬ Refused data ∧ Returns (deserialize data)) ∨
      (¬ Readable data ∧ Crashes (deserialize data)) := by
  unfold deserialize Readable Refused
  by_cases marked : data.take 4 = magic
  · simp only [marked, ne_eq, not_true_eq_false, if_false, forall_const, byteAt_eq]
    by_cases hasVersion : 4 < data.length
    · simp only [hasVersion, if_true, ok_bind, true_and]
      by_cases known : data.getD 4 0 = formatVersion
      · simp only [known, not_true_eq_false, if_false, forall_const]
        by_cases hasLength : 5 < data.length
        · simp only [hasLength, if_true, ok_bind, true_and, decodeUtf8Bytes]
          cases decodeUtf8 ((data.drop 6).take (data.getD 5 0).toNat) with
          | none => exact .inr (.inr ⟨by simp, _, rfl, .inr rfl⟩)
          | some fileId =>
              have saltThere : 0 < ((data.drop 6).drop (data.getD 5 0).toNat).length ↔
                  6 + (data.getD 5 0).toNat < data.length := by
                simp only [List.length_drop]
                omega
              simp only [ok_bind, Option.isSome_some, true_and, ← saltThere]
              split_ifs with saltLength
              · exact .inr (.inl ⟨saltLength, not_false, _, rfl⟩)
              · exact .inr (.inr ⟨saltLength, _, rfl, .inl rfl⟩)
        · simp only [hasLength, if_false, false_and]
          exact .inr (.inr ⟨not_false, _, rfl, .inl rfl⟩)
      · simp only [known, not_false_eq_true, if_true, false_implies]
        exact .inl ⟨trivial, trivial, _, rfl⟩
    · simp only [hasVersion, if_false, false_and]
      exact .inr (.inr ⟨not_false, _, rfl, .inl rfl⟩)
  · simp only [marked, ne_eq, not_false_eq_true, if_true, false_implies]
    exact .inl ⟨trivial, trivial, _, rfl⟩

namespace SecureContainer

/-- The fields of a body that hold text or an inner format, as `deserialize`
slices them. -/
structure Slices where
  fileIdBytes : Bytes
  fileBlob : Bytes
  portableBlob : Bytes

def slices (body : Bytes) : Slices :=
  let fileIdLength := (body.getD 5 0).toNat
  let afterId := (body.drop 6).drop fileIdLength
  let afterFile := (readLengthPrefixed 8 afterId).2
  let afterMetadata := (readLengthPrefixed 8 afterFile).2
  { fileIdBytes := (body.drop 6).take fileIdLength
    fileBlob := (readLengthPrefixed 8 afterId).1
    portableBlob := (readLengthPrefixed 8 afterMetadata).1 }

def HasPortable (body : Bytes) : Prop :=
  minFormatVersionWithPortableSection ≤ body.getD 4 0 ∧ (slices body).portableBlob ≠ []

/-- The file id is text, and each inner format that is reached can be read. -/
structure FieldsReadable (body : Bytes) : Prop where
  fileId : (decodeUtf8 (slices body).fileIdBytes).isSome
  portable : HasPortable body →
    PortableMetadataEnvelope.Readable (slices body).portableBlob
  file : (HasPortable body → ¬ PortableMetadataEnvelope.Refused (slices body).portableBlob) →
    EncryptedContainer.Readable (slices body).fileBlob

/-- Data that passes the checks of length, hash, magic bytes and version has
readable fields. -/
def Readable (crypto : Cryptography) (data : Bytes) : Prop :=
  let body := data.take (data.length - outerHashSizeBytes)
  magic.length + 1 + 1 + outerHashSizeBytes ≤ data.length →
    (crypto.sha256 body).1 = data.drop (data.length - outerHashSizeBytes) →
    body.take 4 = magic → 1 ≤ body.getD 4 0 → body.getD 4 0 ≤ formatVersion →
    FieldsReadable body

/-- The portable section of a body, read where the version has one. -/
private def readPortable (body : Bytes) : Raises (Option PortableMetadataEnvelope) :=
  if minFormatVersionWithPortableSection ≤ body.getD 4 0 then
    deserializePortable (slices body).portableBlob
  else .ok none

private theorem readPortable_cases (body : Bytes) :
    (HasPortable body ∧ PortableMetadataEnvelope.Readable (slices body).portableBlob ∧
        PortableMetadataEnvelope.Refused (slices body).portableBlob ∧
        ∃ message, readPortable body = raise .containerVerificationError message) ∨
      ((HasPortable body → PortableMetadataEnvelope.Readable (slices body).portableBlob ∧
          ¬ PortableMetadataEnvelope.Refused (slices body).portableBlob) ∧
        Returns (readPortable body)) ∨
      (HasPortable body ∧ ¬ PortableMetadataEnvelope.Readable (slices body).portableBlob ∧
        Crashes (readPortable body)) := by
  unfold readPortable HasPortable
  by_cases versioned : minFormatVersionWithPortableSection ≤ body.getD 4 0
  · by_cases empty : (slices body).portableBlob = []
    · refine .inr (.inl ⟨fun present => absurd empty present.2, ?_⟩)
      simp [deserializePortable, empty]
    · simp only [versioned, deserializePortable, empty, if_true, if_false, ne_eq,
        not_false_eq_true, true_and, forall_const]
      rcases PortableMetadataEnvelope.deserialize_cases (slices body).portableBlob with
        ⟨readable, refused, message, raised⟩ | ⟨readable, accepted, envelope, parsed⟩ |
          ⟨unreadable, error, raised, kind⟩
      · refine .inl ⟨readable, refused, ?_⟩
        rw [raised]
        exact ⟨_, rfl⟩
      · refine .inr (.inl ⟨⟨readable, accepted⟩, ?_⟩)
        rw [parsed]
        exact ⟨_, rfl⟩
      · refine .inr (.inr ⟨unreadable, ?_⟩)
        rw [raised]
        have uncaught : error.kind ≠ .metadataValidationError := by
          rcases kind with kind | kind <;> simp [kind]
        exact ⟨error, by simp [reraiseAs, uncaught], kind⟩
  · refine .inr (.inl ⟨fun present => absurd present.1 versioned, ?_⟩)
    rw [if_neg versioned]
    exact returns_ok _

/-- Past the checks of magic bytes and version, a body is read field by field. -/
private theorem deserializeBody_eq {body : Bytes} (long : 6 ≤ body.length)
    (marked : body.take 4 = magic) (notBefore : 1 ≤ body.getD 4 0)
    (notAfter : body.getD 4 0 ≤ formatVersion) :
    deserializeBody body = do
      let fileId ← decodeUtf8Bytes (slices body).fileIdBytes
      let portableMetadata ← readPortable body
      let fileContainer ← reraiseAs .decryptionError .containerVerificationError
        "Embedded file container is invalid: "
        (EncryptedContainer.deserialize (slices body).fileBlob)
      let afterFile := (readLengthPrefixed 8 ((body.drop 6).drop (body.getD 5 0).toNat)).2
      return {
        fileId
        fileContainer
        protectedMetadata :=
          deserializeProtectedMetadata (readLengthPrefixed 8 afterFile).1 fileId
        portableMetadata } := by
  have versionThere : 4 < body.length := by omega
  have lengthThere : 5 < body.length := by omega
  have known : ¬ (body.getD 4 0 < 1 ∨ formatVersion < body.getD 4 0) := by
    simp only [not_or, UInt8.not_lt]
    exact ⟨notBefore, notAfter⟩
  simp only [deserializeBody, marked, ne_eq, not_true_eq_false, if_false, byteAt_eq,
    versionThere, lengthThere, if_true, ok_bind, known, readPortable]
  split_ifs with versioned <;> rfl

private theorem not_raisesOnly_of_crashes {α : Type} {outcome : Raises α}
    (crashes : Crashes outcome) : ¬ RaisesOnly .containerVerificationError outcome := by
  obtain ⟨error, raised, kind⟩ := crashes
  intro only
  rw [only error raised] at kind
  simp at kind

theorem deserializeBody_raisesOnly {body : Bytes} (long : 6 ≤ body.length) :
    RaisesOnly .containerVerificationError (deserializeBody body) ↔
      (body.take 4 = magic → 1 ≤ body.getD 4 0 → body.getD 4 0 ≤ formatVersion →
        FieldsReadable body) := by
  have versionThere : 4 < body.length := by omega
  by_cases marked : body.take 4 = magic
  · by_cases known : 1 ≤ body.getD 4 0 ∧ body.getD 4 0 ≤ formatVersion
    · rw [deserializeBody_eq long marked known.1 known.2]
      simp only [marked, known, forall_const]
      cases decoded : decodeUtf8 (slices body).fileIdBytes with
      | none =>
          refine iff_of_false ?_ (fun readable => by simpa [decoded] using readable.fileId)
          simp [decodeUtf8Bytes, decoded, raise, RaisesOnly]
      | some fileId =>
          have isText : (decodeUtf8 (slices body).fileIdBytes).isSome := by simp [decoded]
          simp only [decodeUtf8Bytes, decoded, ok_bind]
          rcases readPortable_cases body with ⟨present, readable, refused, message, raised⟩ |
            ⟨accepted, portable, parsed⟩ | ⟨present, unreadable, error, raised, kind⟩
          · refine iff_of_true ?_ ⟨isText, fun _ => readable,
              fun reached => absurd refused (reached present)⟩
            simp [raised, raise, RaisesOnly]
          · simp only [parsed, ok_bind]
            rcases EncryptedContainer.deserialize_cases (slices body).fileBlob with
              ⟨readable, ⟨file, parsedFile⟩ | ⟨message, raised⟩⟩ | ⟨unreadable, error, raised, kind⟩
            · refine iff_of_true ?_ ⟨isText, fun present => (accepted present).1,
                fun _ => readable⟩
              simp [parsedFile, pure, Except.pure]
            · refine iff_of_true ?_ ⟨isText, fun present => (accepted present).1,
                fun _ => readable⟩
              simp [raised, raise, reraiseAs, RaisesOnly]
            · refine iff_of_false ?_ (fun fields => unreadable
                (fields.file fun present => (accepted present).2))
              have uncaught : error.kind ≠ .decryptionError := by
                rcases kind with kind | kind <;> simp [kind]
              exact not_raisesOnly_of_crashes ⟨error, by simp [raised, reraiseAs, uncaught], kind⟩
          · refine iff_of_false ?_ (fun fields => unreadable (fields.portable present))
            exact not_raisesOnly_of_crashes ⟨error, by simp [raised], kind⟩
    · have unknown : body.getD 4 0 < 1 ∨ formatVersion < body.getD 4 0 := by
        simpa only [← UInt8.not_le, ← not_and_or] using known
      refine iff_of_true ?_ (fun _ notBefore notAfter => absurd ⟨notBefore, notAfter⟩ known)
      simp only [deserializeBody, marked, ne_eq, not_true_eq_false, if_false, byteAt_eq,
        versionThere, if_true, ok_bind, unknown, raisesOnly_raise]
  · simp [deserializeBody, marked]

/-- Parsing returns or raises the one error exactly on readable data. -/
theorem deserialize_raisesOnly_iff (crypto : Cryptography) (data : Bytes) :
    RaisesOnly .containerVerificationError (deserialize crypto data) ↔ Readable crypto data := by
  have magicSize : magic.length = 4 := by decide
  have hashSize : outerHashSizeBytes = 32 := rfl
  unfold deserialize Readable
  by_cases short : data.length < magic.length + 1 + 1 + outerHashSizeBytes
  · rw [if_pos short]
    exact iff_of_true (by simp) (fun long => by omega)
  · rw [if_neg short]
    by_cases same : (crypto.sha256 (data.take (data.length - outerHashSizeBytes))).1 =
        data.drop (data.length - outerHashSizeBytes)
    · have long : magic.length + 1 + 1 + outerHashSizeBytes ≤ data.length := by omega
      have bodySize : 6 ≤ (data.take (data.length - outerHashSizeBytes)).length := by
        rw [List.length_take]
        omega
      simp only [same, long, ne_eq, not_true_eq_false, if_false, forall_const]
      exact deserializeBody_raisesOnly bodySize
    · simp [same]

end SecureContainer

/-- A container whose only field is a file id that is not text. -/
def unreadableBody : Bytes :=
  SecureContainer.magic ++ [2, 1, 255]

/-- A byte outside UTF-8 in the file id, under a recomputed hash, escapes as a
decoding error. -/
theorem unreadable_fileId_escapes :
    ¬ RaisesOnly .containerVerificationError
      (SecureContainer.deserialize (transparent (padTo 32))
        (unreadableBody ++ ((transparent (padTo 32)).sha256 unreadableBody).1)) := by
  rw [SecureContainer.deserialize_append_sha256 (by decide)]
  intro only
  have raised : SecureContainer.deserializeBody unreadableBody =
      raise .unicodeError "'utf-8' codec can't decode bytes" := by
    decide +kernel
  exact absurd (only _ raised) (by decide)

end CryptoUsb
