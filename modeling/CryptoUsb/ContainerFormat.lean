import CryptoUsb.MetadataProtection

/-!
# Secure containers

The `.cusc` format: one file on the device holds the encrypted file, its local
protected metadata and, optionally, a portable metadata envelope, followed by a
SHA-256 hash over everything before it.
-/

namespace CryptoUsb

open ByteString

/-- `try: ... except caught as exc: raise raised(text + exc)`. -/
def reraiseAs {α : Type} (caught raised : ErrorClass) (text : String) (outcome : Raises α) :
    Raises α :=
  match outcome with
  | .ok value => .ok value
  | .error exc => if exc.kind = caught then raise raised (text ++ exc.message) else .error exc

@[simp]
theorem reraiseAs_ok {α : Type} (caught raised : ErrorClass) (text : String) (value : α) :
    reraiseAs caught raised text (.ok value) = .ok value :=
  rfl

theorem reraiseAs_eq_ok {α : Type} {caught raised : ErrorClass} {text : String}
    {outcome : Raises α} {value : α} :
    reraiseAs caught raised text outcome = .ok value ↔ outcome = .ok value := by
  cases outcome with
  | ok result => simp [reraiseAs]
  | error exc =>
      simp only [reraiseAs, reduceCtorEq, iff_false]
      split_ifs <;> simp

/-! ## Protected metadata fields -/

def serializeProtectedMetadata (stored : ProtectedMetadata) : Raises Bytes := do
  let version ← toBytes 4 stored.metadataVersion
  let nonce ← lengthField 2 stored.nonce
  let hmacTag ← lengthField 2 stored.hmacTag
  let ciphertext ← lengthField 8 stored.ciphertext
  return version ++ (nonce ++ (hmacTag ++ ciphertext))

def deserializeProtectedMetadata (blob : Bytes) (fileId : String) : ProtectedMetadata :=
  let (nonce, rest) := readLengthPrefixed 2 (blob.drop 4)
  let (hmacTag, rest) := readLengthPrefixed 2 rest
  let (ciphertext, _) := readLengthPrefixed 8 rest
  { fileId, metadataVersion := fromBigEndian (blob.take 4), nonce, ciphertext, hmacTag }

/-- The sizes that the fields of a protected record may have. -/
structure ProtectedMetadata.Fits (stored : ProtectedMetadata) : Prop where
  versionNonnegative : 0 ≤ stored.metadataVersion
  version : stored.metadataVersion < 256 ^ 4
  nonce : stored.nonce.length < 256 ^ 2
  hmacTag : stored.hmacTag.length < 256 ^ 2
  ciphertext : stored.ciphertext.length < 256 ^ 8

theorem serializeProtectedMetadata_eq_ok {stored : ProtectedMetadata} {bytes : Bytes} :
    serializeProtectedMetadata stored = .ok bytes ↔ stored.Fits ∧
      bytes = bigEndian 4 stored.metadataVersion.toNat ++ (lengthPrefixed 2 stored.nonce ++
        (lengthPrefixed 2 stored.hmacTag ++ lengthPrefixed 8 stored.ciphertext)) := by
  simp only [serializeProtectedMetadata, bind_eq_ok, toBytes_eq_ok, lengthField_eq_ok]
  constructor
  · rintro ⟨_, ⟨nonnegative, version, rfl⟩, _, ⟨nonce, rfl⟩, _, ⟨tag, rfl⟩, _,
      ⟨ciphertext, rfl⟩, written⟩
    exact ⟨⟨nonnegative, version, nonce, tag, ciphertext⟩, (Except.ok.inj written).symm⟩
  · rintro ⟨fits, rfl⟩
    exact ⟨_, ⟨fits.versionNonnegative, fits.version, rfl⟩, _, ⟨fits.nonce, rfl⟩, _,
      ⟨fits.hmacTag, rfl⟩, _, ⟨fits.ciphertext, rfl⟩, rfl⟩

theorem deserializeProtectedMetadata_append {stored : ProtectedMetadata} (fits : stored.Fits)
    (rest : Bytes) :
    deserializeProtectedMetadata (bigEndian 4 stored.metadataVersion.toNat ++
      (lengthPrefixed 2 stored.nonce ++ (lengthPrefixed 2 stored.hmacTag ++
        (lengthPrefixed 8 stored.ciphertext ++ rest)))) stored.fileId = stored := by
  have version : ((fromBigEndian (bigEndian 4 stored.metadataVersion.toNat) : Nat) : Int) =
      stored.metadataVersion := by
    have bound : stored.metadataVersion.toNat < 256 ^ 4 := by
      have := fits.version
      omega
    rw [fromBigEndian_bigEndian bound, Int.toNat_of_nonneg fits.versionNonnegative]
  simp only [deserializeProtectedMetadata, List.take_left' (length_bigEndian _ _),
    List.drop_left' (length_bigEndian _ _), readLengthPrefixed_append fits.nonce,
    readLengthPrefixed_append fits.hmacTag, readLengthPrefixed_append fits.ciphertext, version]

theorem deserialize_serializeProtectedMetadata {stored : ProtectedMetadata} {bytes : Bytes}
    (serialized : serializeProtectedMetadata stored = .ok bytes) :
    deserializeProtectedMetadata bytes stored.fileId = stored := by
  obtain ⟨fits, rfl⟩ := serializeProtectedMetadata_eq_ok.mp serialized
  have read := deserializeProtectedMetadata_append fits []
  rwa [List.append_nil] at read

/-- A record of less than two to the power of sixty bytes. -/
structure ProtectedMetadata.Small (stored : ProtectedMetadata) : Prop where
  versionNonnegative : 0 ≤ stored.metadataVersion
  version : stored.metadataVersion < 256 ^ 4
  nonce : stored.nonce.length < 256 ^ 2
  hmacTag : stored.hmacTag.length < 256 ^ 2
  ciphertext : stored.ciphertext.length < 2 ^ 60

theorem serializeProtectedMetadata_total {stored : ProtectedMetadata} (small : stored.Small) :
    ∃ bytes, serializeProtectedMetadata stored = .ok bytes ∧ bytes.length < 2 ^ 61 := by
  have nonce := small.nonce
  have hmacTag := small.hmacTag
  have ciphertext := small.ciphertext
  refine ⟨_, serializeProtectedMetadata_eq_ok.mpr ⟨⟨small.versionNonnegative, small.version,
    nonce, hmacTag, by omega⟩, rfl⟩, ?_⟩
  simp only [List.length_append, lengthPrefixed, length_bigEndian]
  omega

/-! ## Portable metadata envelopes -/

@[ext]
structure PortableMetadataEnvelope where
  salt : Bytes
  protectedMetadata : ProtectedMetadata
  deriving DecidableEq

namespace PortableMetadataEnvelope

def magic : Bytes := encodeUtf8 "CUPM"

def formatVersion : UInt8 := 1

def serialize (envelope : PortableMetadataEnvelope) : Raises Bytes :=
  let fileIdBytes := encodeUtf8 envelope.protectedMetadata.fileId
  if 255 < fileIdBytes.length then
    raise .metadataValidationError
      "file_id too long to serialize into a portable metadata envelope"
  else if 255 < envelope.salt.length then
    raise .metadataValidationError "salt too long to serialize into a portable metadata envelope"
  else do
    -- The record's fields are laid out as in the container's own metadata blob.
    let fields ← serializeProtectedMetadata envelope.protectedMetadata
    return magic ++ (formatVersion :: (lengthPrefixed 1 fileIdBytes ++
      (lengthPrefixed 1 envelope.salt ++ fields)))

def deserialize (data : Bytes) : Raises PortableMetadataEnvelope :=
  if data.take 4 ≠ magic then
    raise .metadataValidationError
      "Not a valid CUPM portable metadata envelope (bad magic bytes)"
  else do
    let version ← byteAt data 4
    if version ≠ formatVersion then
      raise .metadataValidationError
        s!"Unsupported portable metadata envelope version: {version.toNat}"
    else
      let fileIdLength ← byteAt data 5
      let rest := data.drop 6
      let fileId ← decodeUtf8Bytes (rest.take fileIdLength.toNat)
      let rest := rest.drop fileIdLength.toNat
      let saltLength ← byteAt rest 0
      let rest := rest.drop 1
      return {
        salt := rest.take saltLength.toNat
        protectedMetadata := deserializeProtectedMetadata (rest.drop saltLength.toNat) fileId }

theorem serialize_eq_ok {envelope : PortableMetadataEnvelope} {bytes : Bytes} :
    envelope.serialize = .ok bytes ↔
      (encodeUtf8 envelope.protectedMetadata.fileId).length ≤ 255 ∧ envelope.salt.length ≤ 255 ∧
        ∃ fields, serializeProtectedMetadata envelope.protectedMetadata = .ok fields ∧
          bytes = magic ++ (formatVersion ::
            (lengthPrefixed 1 (encodeUtf8 envelope.protectedMetadata.fileId) ++
              (lengthPrefixed 1 envelope.salt ++ fields))) := by
  simp only [serialize]
  split_ifs with longId longSalt
  · simp only [raise_ne_ok, false_iff]
    omega
  · simp only [raise_ne_ok, false_iff]
    omega
  · have bounds : (encodeUtf8 envelope.protectedMetadata.fileId).length ≤ 255 ∧
        envelope.salt.length ≤ 255 := by
      omega
    simp only [bounds, true_and, bind_eq_ok, pure_eq_ok]

theorem deserialize_serialize {envelope : PortableMetadataEnvelope} {bytes : Bytes}
    (serialized : envelope.serialize = .ok bytes) : deserialize bytes = .ok envelope := by
  obtain ⟨shortId, shortSalt, fields, written, rfl⟩ := serialize_eq_ok.mp serialized
  have header : magic ++ (formatVersion ::
      (lengthPrefixed 1 (encodeUtf8 envelope.protectedMetadata.fileId) ++
        (lengthPrefixed 1 envelope.salt ++ fields))) =
      [67, 85, 80, 77, 1, UInt8.ofNat (encodeUtf8 envelope.protectedMetadata.fileId).length] ++
        (encodeUtf8 envelope.protectedMetadata.fileId ++
          (UInt8.ofNat envelope.salt.length :: (envelope.salt ++ fields))) := by
    rw [lengthPrefixed_one, lengthPrefixed_one]
    rfl
  rw [header]
  simp only [deserialize]
  rw [if_neg (by simp; rfl)]
  simp only [List.cons_append, byteAt_succ, byteAt_zero, ok_bind, List.drop_succ_cons,
    List.drop_zero, List.nil_append, toNat_length shortId, toNat_length shortSalt,
    List.take_left, List.drop_left, decodeUtf8Bytes_encodeUtf8,
    deserialize_serializeProtectedMetadata written]
  rfl

theorem serialize_ne_nil {envelope : PortableMetadataEnvelope} {bytes : Bytes}
    (serialized : envelope.serialize = .ok bytes) : bytes ≠ [] := by
  obtain ⟨-, -, fields, -, rfl⟩ := serialize_eq_ok.mp serialized
  exact List.cons_ne_nil _ _

end PortableMetadataEnvelope

/-! ## Secure containers -/

@[ext]
structure SecureContainer where
  fileId : String
  fileContainer : EncryptedContainer
  protectedMetadata : ProtectedMetadata
  portableMetadata : Option PortableMetadataEnvelope := none
  deriving DecidableEq

namespace SecureContainer

def magic : Bytes := encodeUtf8 "CUSC"

def formatVersion : UInt8 := 2

def minFormatVersionWithPortableSection : UInt8 := 2

def outerHashSizeBytes : Nat := 32

def serializePortable : Option PortableMetadataEnvelope → Raises Bytes
  | none => .ok []
  | some envelope => envelope.serialize

/-- Everything before the outer hash. -/
def serializeBody (container : SecureContainer) : Raises Bytes :=
  let fileIdBytes := encodeUtf8 container.fileId
  if 255 < fileIdBytes.length then
    raise .containerVerificationError "file_id too long to serialize"
  else do
    let fileBlob ← container.fileContainer.serialize
    let metaBlob ← serializeProtectedMetadata container.protectedMetadata
    let portableBlob ← serializePortable container.portableMetadata
    let fileField ← lengthField 8 fileBlob
    let metaField ← lengthField 8 metaBlob
    let portableField ← lengthField 8 portableBlob
    return magic ++ (formatVersion :: (lengthPrefixed 1 fileIdBytes ++
      (fileField ++ (metaField ++ portableField))))

def serialize (crypto : Cryptography) (container : SecureContainer) : Raises Bytes := do
  let body ← container.serializeBody
  return body ++ (crypto.sha256 body).1

/-- An empty section stands for none. -/
def deserializePortable (blob : Bytes) : Raises (Option PortableMetadataEnvelope) :=
  if blob = [] then .ok none
  else do
    let envelope ← reraiseAs .metadataValidationError .containerVerificationError
      "Embedded portable metadata is invalid: " (PortableMetadataEnvelope.deserialize blob)
    return some envelope

def deserializeBody (body : Bytes) : Raises SecureContainer :=
  if body.take 4 ≠ magic then
    raise .containerVerificationError "Not a valid CUSC secure container (bad magic bytes)"
  else do
    let version ← byteAt body 4
    if version < 1 ∨ formatVersion < version then
      raise .containerVerificationError s!"Unsupported container version: {version.toNat}"
    else
      let fileIdLength ← byteAt body 5
      let rest := body.drop 6
      let fileId ← decodeUtf8Bytes (rest.take fileIdLength.toNat)
      let (fileBlob, rest) := readLengthPrefixed 8 (rest.drop fileIdLength.toNat)
      let (metaBlob, rest) := readLengthPrefixed 8 rest
      let portableMetadata ←
        if minFormatVersionWithPortableSection ≤ version then
          deserializePortable (readLengthPrefixed 8 rest).1
        else .ok none
      let fileContainer ← reraiseAs .decryptionError .containerVerificationError
        "Embedded file container is invalid: " (EncryptedContainer.deserialize fileBlob)
      return {
        fileId
        fileContainer
        protectedMetadata := deserializeProtectedMetadata metaBlob fileId
        portableMetadata }

def deserialize (crypto : Cryptography) (data : Bytes) : Raises SecureContainer :=
  if data.length < magic.length + 1 + 1 + outerHashSizeBytes then
    raise .containerVerificationError "Container data is too short to be valid"
  else
    let body := data.take (data.length - outerHashSizeBytes)
    let checksum := data.drop (data.length - outerHashSizeBytes)
    if (crypto.sha256 body).1 ≠ checksum then
      raise .containerVerificationError
        ("Container integrity check failed: outer SHA-256 hash mismatch " ++
          "(the file is corrupt, truncated, or has been tampered with)")
    else deserializeBody body

/-! ### Decoding undoes encoding -/

theorem serializeBody_eq_ok {container : SecureContainer} {body : Bytes} :
    container.serializeBody = .ok body ↔
      (encodeUtf8 container.fileId).length ≤ 255 ∧
        ∃ fileBlob metaBlob portableBlob, container.fileContainer.serialize = .ok fileBlob ∧
          serializeProtectedMetadata container.protectedMetadata = .ok metaBlob ∧
          serializePortable container.portableMetadata = .ok portableBlob ∧
          fileBlob.length < 256 ^ 8 ∧ metaBlob.length < 256 ^ 8 ∧
          portableBlob.length < 256 ^ 8 ∧
          body = magic ++ (formatVersion :: (lengthPrefixed 1 (encodeUtf8 container.fileId) ++
            (lengthPrefixed 8 fileBlob ++
              (lengthPrefixed 8 metaBlob ++ lengthPrefixed 8 portableBlob)))) := by
  simp only [serializeBody]
  split_ifs with longId
  · simp only [raise_ne_ok, false_iff]
    omega
  · have shortId : (encodeUtf8 container.fileId).length ≤ 255 := by omega
    simp only [shortId, true_and, bind_eq_ok, lengthField_eq_ok]
    constructor
    · rintro ⟨fileBlob, fileWritten, metaBlob, metaWritten, portableBlob, portableWritten, _,
        ⟨fileFits, rfl⟩, _, ⟨metaFits, rfl⟩, _, ⟨portableFits, rfl⟩, written⟩
      exact ⟨fileBlob, metaBlob, portableBlob, fileWritten, metaWritten, portableWritten,
        fileFits, metaFits, portableFits, (Except.ok.inj written).symm⟩
    · rintro ⟨fileBlob, metaBlob, portableBlob, fileWritten, metaWritten, portableWritten,
        fileFits, metaFits, portableFits, rfl⟩
      exact ⟨fileBlob, fileWritten, metaBlob, metaWritten, portableBlob, portableWritten, _,
        ⟨fileFits, rfl⟩, _, ⟨metaFits, rfl⟩, _, ⟨portableFits, rfl⟩, rfl⟩

/-- A container of small parts is written, and is not large itself. -/
theorem serialize_total (crypto : Cryptography) {container : SecureContainer} {fileBlob : Bytes}
    (shortId : (encodeUtf8 container.fileId).length ≤ 255)
    (fileWritten : container.fileContainer.serialize = .ok fileBlob)
    (fileSmall : fileBlob.length < 2 ^ 61) (small : container.protectedMetadata.Small)
    (portable : ∀ envelope, container.portableMetadata = some envelope →
      (encodeUtf8 envelope.protectedMetadata.fileId).length ≤ 255 ∧
        envelope.salt.length ≤ 255 ∧ envelope.protectedMetadata.Small) :
    ∃ payload, container.serialize crypto = .ok payload ∧ payload.length < 2 ^ 64 := by
  obtain ⟨metaBlob, metaWritten, metaSmall⟩ := serializeProtectedMetadata_total small
  obtain ⟨portableBlob, portableWritten, portableSmall⟩ : ∃ portableBlob,
      serializePortable container.portableMetadata = .ok portableBlob ∧
        portableBlob.length < 2 ^ 62 := by
    cases given : container.portableMetadata with
    | none => exact ⟨[], rfl, by simp⟩
    | some envelope =>
        obtain ⟨shortEnvelopeId, shortSalt, smallRecord⟩ := portable envelope given
        obtain ⟨fields, fieldsWritten, fieldsSmall⟩ :=
          serializeProtectedMetadata_total smallRecord
        refine ⟨_, PortableMetadataEnvelope.serialize_eq_ok.mpr
          ⟨shortEnvelopeId, shortSalt, fields, fieldsWritten, rfl⟩, ?_⟩
        have magicSize : PortableMetadataEnvelope.magic.length = 4 := by decide
        simp only [List.length_append, List.length_cons, lengthPrefixed, length_bigEndian,
          magicSize]
        omega
  have body := serializeBody_eq_ok.mpr ⟨shortId, fileBlob, metaBlob, portableBlob, fileWritten,
    metaWritten, portableWritten, by omega, by omega, by omega, rfl⟩
  refine ⟨_, bind_eq_ok.mpr ⟨_, body, rfl⟩, ?_⟩
  have magicSize : magic.length = 4 := by decide
  have hashSize := fun data => (crypto.sha256 data).2
  simp only [List.length_append, List.length_cons, lengthPrefixed, length_bigEndian, magicSize,
    hashSize]
  omega

theorem deserializePortable_serializePortable {portable : Option PortableMetadataEnvelope}
    {blob : Bytes} (serialized : serializePortable portable = .ok blob) :
    deserializePortable blob = .ok portable := by
  cases portable with
  | none =>
      obtain rfl := Except.ok.inj serialized
      rfl
  | some envelope =>
      have nonempty := PortableMetadataEnvelope.serialize_ne_nil serialized
      simp [deserializePortable, nonempty,
        PortableMetadataEnvelope.deserialize_serialize serialized, pure, Except.pure]

/-- What a reader makes of a written container: the metadata is that of its file id, and the
encrypted file is split anew. -/
def reread (container : SecureContainer) : SecureContainer :=
  { container with
    fileContainer := container.fileContainer.reread
    protectedMetadata := { container.protectedMetadata with fileId := container.fileId } }

theorem reread_eq_self_iff {container : SecureContainer} :
    container.reread = container ↔ container.fileContainer.reread = container.fileContainer ∧
      container.protectedMetadata.fileId = container.fileId := by
  constructor
  · intro same
    have sameFile := congrArg SecureContainer.fileContainer same
    have sameId := congrArg (fun read => read.protectedMetadata.fileId) same
    exact ⟨sameFile, sameId.symm⟩
  · rintro ⟨sameFile, sameId⟩
    obtain ⟨fileId, file, stored, portable⟩ := container
    obtain rfl : stored.fileId = fileId := sameId
    simp only [reread, sameFile]

/-- A body is read from its start: what comes after it is ignored. -/
theorem deserializeBody_append_reread {container : SecureContainer} {body : Bytes}
    (serialized : container.serializeBody = .ok body) (extra : Bytes) :
    deserializeBody (body ++ extra) = .ok container.reread := by
  obtain ⟨shortId, fileBlob, metaBlob, portableBlob, fileWritten, metaWritten, portableWritten,
    fileFits, metaFits, portableFits, rfl⟩ := serializeBody_eq_ok.mp serialized
  have header : magic ++ (formatVersion :: (lengthPrefixed 1 (encodeUtf8 container.fileId) ++
      (lengthPrefixed 8 fileBlob ++ (lengthPrefixed 8 metaBlob ++
        lengthPrefixed 8 portableBlob)))) ++ extra =
      [67, 85, 83, 67, 2, UInt8.ofNat (encodeUtf8 container.fileId).length] ++
        (encodeUtf8 container.fileId ++ (lengthPrefixed 8 fileBlob ++
          (lengthPrefixed 8 metaBlob ++ (lengthPrefixed 8 portableBlob ++ extra)))) := by
    rw [lengthPrefixed_one]
    simp only [List.append_assoc, List.cons_append]
    rfl
  have metaRead : deserializeProtectedMetadata metaBlob container.fileId =
      { container.protectedMetadata with fileId := container.fileId } :=
    @deserialize_serializeProtectedMetadata
      { container.protectedMetadata with fileId := container.fileId } _ metaWritten
  rw [header]
  simp only [deserializeBody]
  rw [if_neg (by simp; rfl)]
  simp only [List.cons_append, byteAt_succ, byteAt_zero, ok_bind, List.drop_succ_cons,
    List.drop_zero, List.nil_append, toNat_length shortId, List.take_left, List.drop_left,
    decodeUtf8Bytes_encodeUtf8, readLengthPrefixed_append fileFits,
    readLengthPrefixed_append metaFits, readLengthPrefixed_append portableFits,
    EncryptedContainer.deserialize_serialize_reread fileWritten, reraiseAs_ok, metaRead,
    deserializePortable_serializePortable portableWritten]
  rfl

theorem deserializeBody_append {container : SecureContainer} {body : Bytes}
    (serialized : container.serializeBody = .ok body)
    (nonceSize : container.fileContainer.nonce.length = AesCipher.nonceSizeBytes)
    (sameId : container.protectedMetadata.fileId = container.fileId) (extra : Bytes) :
    deserializeBody (body ++ extra) = .ok container := by
  have sameFile := EncryptedContainer.reread_eq_self_iff.mpr (.inl nonceSize)
  have read := deserializeBody_append_reread serialized extra
  rwa [reread_eq_self_iff.mpr ⟨sameFile, sameId⟩] at read

theorem deserializeBody_serializeBody {container : SecureContainer} {body : Bytes}
    (serialized : container.serializeBody = .ok body)
    (nonceSize : container.fileContainer.nonce.length = AesCipher.nonceSizeBytes)
    (sameId : container.protectedMetadata.fileId = container.fileId) :
    deserializeBody body = .ok container := by
  have read := deserializeBody_append serialized nonceSize sameId []
  rwa [List.append_nil] at read

/-- Data that ends in the hash of a body is read as that body. -/
theorem deserialize_append_sha256 {crypto : Cryptography} {body : Bytes}
    (bodySize : 6 ≤ body.length) :
    deserialize crypto (body ++ (crypto.sha256 body).1) = deserializeBody body := by
  have hashSize : (crypto.sha256 body).1.length = 32 := (crypto.sha256 body).2
  have split : (body ++ (crypto.sha256 body).1).length - outerHashSizeBytes = body.length := by
    simp [outerHashSizeBytes, hashSize]
  have longEnough : ¬ (body ++ (crypto.sha256 body).1).length <
      magic.length + 1 + 1 + outerHashSizeBytes := by
    have magicSize : magic.length = 4 := by decide
    simp only [List.length_append, hashSize, outerHashSizeBytes, magicSize]
    omega
  unfold deserialize
  rw [if_neg longEnough]
  simp only [split, List.take_left, List.drop_left, ne_eq, not_true_eq_false, if_false]

/-- A written container is read as a reader splits it. -/
theorem deserialize_serialize_reread {crypto : Cryptography} {container : SecureContainer}
    {bytes : Bytes} (serialized : container.serialize crypto = .ok bytes) :
    deserialize crypto bytes = .ok container.reread := by
  obtain ⟨body, bodyWritten, written⟩ := bind_eq_ok.mp serialized
  obtain rfl := Except.ok.inj written
  have bodySize : 6 ≤ body.length := by
    obtain ⟨-, _, _, _, -, -, -, -, -, -, rfl⟩ := serializeBody_eq_ok.mp bodyWritten
    have magicSize : magic.length = 4 := by decide
    simp only [List.length_append, List.length_cons, magicSize, lengthPrefixed,
      length_bigEndian]
    omega
  have read := deserializeBody_append_reread bodyWritten []
  rw [List.append_nil] at read
  rw [deserialize_append_sha256 bodySize, read]

theorem deserialize_serialize {crypto : Cryptography} {container : SecureContainer}
    {bytes : Bytes} (serialized : container.serialize crypto = .ok bytes)
    (nonceSize : container.fileContainer.nonce.length = AesCipher.nonceSizeBytes)
    (sameId : container.protectedMetadata.fileId = container.fileId) :
    deserialize crypto bytes = .ok container := by
  have sameFile := EncryptedContainer.reread_eq_self_iff.mpr (.inl nonceSize)
  have read := @deserialize_serialize_reread crypto _ _ serialized
  rwa [reread_eq_self_iff.mpr ⟨sameFile, sameId⟩] at read

/-- A container that was read has the record of its own file, and an encrypted file that
was read as well. -/
theorem parts_of_deserialize {crypto : Cryptography} {data : Bytes} {container : SecureContainer}
    (read : deserialize crypto data = .ok container) :
    container.protectedMetadata.fileId = container.fileId ∧
      ∃ blob, EncryptedContainer.deserialize blob = .ok container.fileContainer := by
  have body (bytes : Bytes) (read : deserializeBody bytes = .ok container) :
      container.protectedMetadata.fileId = container.fileId ∧
        ∃ blob, EncryptedContainer.deserialize blob = .ok container.fileContainer := by
    unfold deserializeBody at read
    split at read
    · cases read
    · obtain ⟨version, -, read⟩ := bind_eq_ok.mp read
      split at read
      · cases read
      · obtain ⟨fileIdLength, -, read⟩ := bind_eq_ok.mp read
        obtain ⟨fileId, -, read⟩ := bind_eq_ok.mp read
        dsimp only at read
        split at read
        all_goals
          obtain ⟨portable, -, read⟩ := bind_eq_ok.mp read
          obtain ⟨file, fileRead, read⟩ := bind_eq_ok.mp read
          obtain rfl := Except.ok.inj read
          exact ⟨rfl, _, reraiseAs_eq_ok.mp fileRead⟩
  unfold deserialize at read
  split_ifs at read
  · cases read
  · dsimp only at read
    split_ifs at read
    · cases read
    · exact body _ read

theorem reread_of_deserialize {crypto : Cryptography} {data : Bytes} {container : SecureContainer}
    (read : deserialize crypto data = .ok container) : container.reread = container := by
  obtain ⟨sameId, blob, fileRead⟩ := parts_of_deserialize read
  exact reread_eq_self_iff.mpr ⟨EncryptedContainer.reread_of_deserialize fileRead, sameId⟩

end SecureContainer

/-- `verify_container_deep`: unwrap the key, decrypt the file and unprotect the
metadata, all in memory. -/
def verifyContainerDeep (crypto : Cryptography) (container : SecureContainer)
    (keyWrapper : KeyWrapper) (keys : MetadataProtectionKeys) : Raises Bool := do
  let fek ← reraiseAs .keyUnwrappingError .containerVerificationError
    "Deep verification failed: could not unwrap key: "
    (keyWrapper.unwrap container.fileContainer.wrappedKey)
  let _ ← reraiseAs .decryptionError .containerVerificationError
    "Deep verification failed: file ciphertext did not decrypt/authenticate: "
    (AesCipher.decrypt crypto container.fileContainer.nonce container.fileContainer.ciphertext fek)
  let _ ← reraiseAs .metadataTamperError .containerVerificationError
    "Deep verification failed: metadata tamper check failed: "
    (MetadataProtector.unprotect crypto keys container.protectedMetadata)
  return true

/-- Deep verification succeeds exactly when the embedded file decrypts and the
embedded metadata is accepted. -/
theorem verifyContainerDeep_eq_ok {crypto : Cryptography} {container : SecureContainer}
    {keyWrapper : KeyWrapper} {keys : MetadataProtectionKeys} :
    verifyContainerDeep crypto container keyWrapper keys = .ok true ↔
      Returns (FileEncryptor.decryptBytes crypto container.fileContainer keyWrapper) ∧
        Returns (MetadataProtector.unprotect crypto keys container.protectedMetadata) := by
  simp only [verifyContainerDeep, bind_eq_ok, reraiseAs_eq_ok, Returns,
    FileEncryptor.decryptBytes_eq_ok]
  constructor
  · rintro ⟨fek, unwrapped, plaintext, decrypted, metadata, accepted, -⟩
    exact ⟨⟨plaintext, fek, unwrapped, decrypted⟩, metadata, accepted⟩
  · rintro ⟨⟨plaintext, fek, unwrapped, decrypted⟩, metadata, accepted⟩
    exact ⟨fek, unwrapped, plaintext, decrypted, metadata, accepted, rfl⟩

end CryptoUsb
