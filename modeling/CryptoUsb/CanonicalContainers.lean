import CryptoUsb.ContainerParsing

/-!
# Which containers are written back as they were read

The three nested parsers read every field from its start and never compare a
declared length, or the end of the data, with what is there.  An accepted container is
therefore the encoding of what it decodes to exactly when its fields are whole and
nothing follows the last of them.
-/

namespace CryptoUsb

open ByteString

/-! ## Protected records -/

/-- A serialized record whose fields are all there, with nothing after them. -/
def WholeRecord (blob : Bytes) : Prop :=
  4 ≤ blob.length ∧ WholeFields [2, 2, 8] (blob.drop 4)

theorem serializeProtectedMetadata_iff_whole {blob : Bytes} {fileId : String} :
    serializeProtectedMetadata (deserializeProtectedMetadata blob fileId) = .ok blob ↔
      WholeRecord blob := by
  rw [serializeProtectedMetadata_eq_ok]
  constructor
  · rintro ⟨fits, written⟩
    constructor
    · rw [written]
      simp
    · rw [written, List.drop_left' (length_bigEndian _ _), wholeFields_append fits.nonce,
        wholeFields_append fits.hmacTag, ← List.append_nil (lengthPrefixed 8 _),
        wholeFields_append fits.ciphertext, wholeFields_nil]
  · rintro ⟨hasVersion, nonceWhole, tagWhole, ciphertextWhole, nothingAfter⟩
    have versionSize : (blob.take 4).length = 4 := by
      rw [List.length_take]
      omega
    have bound := fromBigEndian_lt (blob.take 4)
    have restored := bigEndian_fromBigEndian (blob.take 4)
    rw [versionSize] at bound restored
    obtain ⟨nonceFits, nonceRead⟩ := lengthPrefixed_of_whole nonceWhole
    obtain ⟨tagFits, tagRead⟩ := lengthPrefixed_of_whole tagWhole
    obtain ⟨ciphertextFits, ciphertextRead⟩ := lengthPrefixed_of_whole ciphertextWhole
    rw [wholeFields_nil.mp nothingAfter, List.append_nil] at ciphertextRead
    have versionFits : ((fromBigEndian (blob.take 4) : Nat) : Int) < 256 ^ 4 := by
      exact_mod_cast bound
    refine ⟨⟨Int.natCast_nonneg _, versionFits, nonceFits, tagFits, ciphertextFits⟩, ?_⟩
    calc blob = blob.take 4 ++ blob.drop 4 := (List.take_append_drop 4 blob).symm
      _ = _ := by
        simp only [deserializeProtectedMetadata, Int.toNat_natCast]
        rw [restored, ciphertextRead, tagRead, nonceRead]

/-! ## Encrypted files -/

namespace EncryptedContainer

/-- The algorithm's name and the wrapped key are there in full.  What follows is nonce
and ciphertext, to the end. -/
def Whole (data : Bytes) : Prop :=
  WholeField 1 (data.drop 5) ∧ WholeField 2 (readLengthPrefixed 1 (data.drop 5)).2

theorem of_deserialize {data : Bytes} {container : EncryptedContainer}
    (accepted : deserialize data = .ok container) :
    data = magic ++ (formatVersion :: data.drop 5) ∧
      decodeAsciiBytes (readLengthPrefixed 1 (data.drop 5)).1 = .ok container.wrapAlgorithm ∧
      readLengthPrefixed 2 (readLengthPrefixed 1 (data.drop 5)).2 =
        (container.wrappedKey, container.nonce ++ container.ciphertext) := by
  unfold deserialize at accepted
  split_ifs at accepted with unmarked
  · simp at accepted
  obtain ⟨version, versionRead, accepted⟩ := bind_eq_ok.mp accepted
  split_ifs at accepted with unknown
  · simp at accepted
  obtain ⟨length, lengthRead, accepted⟩ := bind_eq_ok.mp accepted
  obtain ⟨name, nameRead, accepted⟩ := bind_eq_ok.mp accepted
  obtain rfl := Except.ok.inj accepted
  have known : version = formatVersion := not_not.mp unknown
  rw [known] at versionRead
  have fields := readLengthPrefixed_of_byteAt lengthRead
  refine ⟨header_of_read (not_not.mp unmarked) (byteAt_eq_ok.mp versionRead), ?_, ?_⟩
  · rw [fields]
    exact nameRead
  · rw [fields]
    exact Prod.ext rfl (List.take_append_drop _ _).symm

theorem serialize_of_deserialize {data : Bytes} {container : EncryptedContainer}
    (accepted : deserialize data = .ok container) : ∃ bytes, container.serialize = .ok bytes := by
  have readSize (width : Nat) (bytes : Bytes) :
      (readLengthPrefixed width bytes).1.length < 256 ^ width := by
    refine lt_of_le_of_lt (List.length_take_le _ _) ((fromBigEndian_lt _).trans_le ?_)
    exact Nat.pow_le_pow_right (by decide) (List.length_take_le _ _)
  obtain ⟨-, nameRead, keyRead⟩ := of_deserialize accepted
  have nameSize := readSize 1 (data.drop 5)
  have keySize := readSize 2 (readLengthPrefixed 1 (data.drop 5)).2
  rw [keyRead] at keySize
  exact ⟨_, serialize_eq_ok.mpr ⟨_, encodeAsciiText_of_decode nameRead, by omega,
    Nat.le_of_lt_succ keySize, rfl⟩⟩

theorem serialize_iff_whole {data : Bytes} {container : EncryptedContainer}
    (accepted : deserialize data = .ok container) :
    container.serialize = .ok data ↔ Whole data := by
  obtain ⟨header, nameRead, keyRead⟩ := of_deserialize accepted
  constructor
  · intro serialized
    obtain ⟨algoBytes, -, shortName, shortKey, written⟩ := serialize_eq_ok.mp serialized
    have dropped : data.drop 5 = lengthPrefixed 1 algoBytes ++
        (lengthPrefixed 2 container.wrappedKey ++
          (container.nonce ++ container.ciphertext)) := by
      rw [written]
      rfl
    have nameFits : algoBytes.length < 256 ^ 1 := by omega
    have keyFits : container.wrappedKey.length < 256 ^ 2 := by omega
    rw [Whole, dropped, readLengthPrefixed_append nameFits]
    exact ⟨wholeField_append nameFits _, wholeField_append keyFits _⟩
  · rintro ⟨nameWhole, keyWhole⟩
    obtain ⟨nameFits, nameWritten⟩ := lengthPrefixed_of_whole nameWhole
    obtain ⟨keyFits, keyWritten⟩ := lengthPrefixed_of_whole keyWhole
    simp only [keyRead] at keyFits keyWritten
    refine serialize_eq_ok.mpr ⟨_, encodeAsciiText_of_decode nameRead, by omega, by omega, ?_⟩
    rw [keyWritten, nameWritten]
    exact header

end EncryptedContainer

/-! ## Portable envelopes -/

namespace PortableMetadataEnvelope

/-- The file id, the salt and the record are there in full, with nothing after them. -/
def Whole (data : Bytes) : Prop :=
  WholeField 1 (data.drop 5) ∧ WholeField 1 (readLengthPrefixed 1 (data.drop 5)).2 ∧
    WholeRecord (readLengthPrefixed 1 (readLengthPrefixed 1 (data.drop 5)).2).2

theorem of_deserialize {data : Bytes} {envelope : PortableMetadataEnvelope}
    (accepted : deserialize data = .ok envelope) :
    data = magic ++ (formatVersion :: data.drop 5) ∧
      ∃ fileId blob, decodeUtf8Bytes (readLengthPrefixed 1 (data.drop 5)).1 = .ok fileId ∧
        readLengthPrefixed 1 (readLengthPrefixed 1 (data.drop 5)).2 = (envelope.salt, blob) ∧
        envelope.protectedMetadata = deserializeProtectedMetadata blob fileId := by
  unfold deserialize at accepted
  split_ifs at accepted with unmarked
  · simp at accepted
  obtain ⟨version, versionRead, accepted⟩ := bind_eq_ok.mp accepted
  split_ifs at accepted with unknown
  · simp at accepted
  obtain ⟨length, lengthRead, accepted⟩ := bind_eq_ok.mp accepted
  obtain ⟨fileId, idRead, accepted⟩ := bind_eq_ok.mp accepted
  obtain ⟨saltLength, saltLengthRead, accepted⟩ := bind_eq_ok.mp accepted
  obtain rfl := Except.ok.inj accepted
  have known : version = formatVersion := not_not.mp unknown
  rw [known] at versionRead
  have fields := readLengthPrefixed_of_byteAt lengthRead
  refine ⟨header_of_read (not_not.mp unmarked) (byteAt_eq_ok.mp versionRead), fileId, _, ?_, ?_,
    rfl⟩
  · rw [fields]
    exact idRead
  · rw [fields]
    obtain ⟨inRange, found⟩ := List.getElem?_eq_some_iff.mp (byteAt_eq_ok.mp saltLengthRead)
    have split := List.drop_eq_getElem_cons inRange
    rw [found, List.drop_zero] at split
    rw [split, readLengthPrefixed_one]
    rfl

theorem serialize_iff_whole {data : Bytes} {envelope : PortableMetadataEnvelope}
    (accepted : deserialize data = .ok envelope) :
    envelope.serialize = .ok data ↔ Whole data := by
  obtain ⟨header, fileId, blob, idRead, saltRead, recordRead⟩ := of_deserialize accepted
  have sameId : envelope.protectedMetadata.fileId = fileId := by rw [recordRead]; rfl
  have recordWhole := @serializeProtectedMetadata_iff_whole blob fileId
  rw [← recordRead] at recordWhole
  constructor
  · intro serialized
    obtain ⟨shortId, shortSalt, fields, fieldsWritten, written⟩ :=
      serialize_eq_ok.mp serialized
    have dropped : data.drop 5 =
        lengthPrefixed 1 (encodeUtf8 envelope.protectedMetadata.fileId) ++
          (lengthPrefixed 1 envelope.salt ++ fields) := by
      rw [written]
      rfl
    have idFits : (encodeUtf8 envelope.protectedMetadata.fileId).length < 256 ^ 1 := by omega
    have saltFits : envelope.salt.length < 256 ^ 1 := by omega
    rw [dropped, readLengthPrefixed_append idFits, readLengthPrefixed_append saltFits] at saltRead
    obtain rfl : fields = blob := congrArg Prod.snd saltRead
    rw [Whole, dropped, readLengthPrefixed_append idFits, readLengthPrefixed_append saltFits]
    exact ⟨wholeField_append idFits _, wholeField_append saltFits _,
      recordWhole.mp fieldsWritten⟩
  · rintro ⟨idWhole, saltWhole, fieldsWhole⟩
    obtain ⟨idFits, idWritten⟩ := lengthPrefixed_of_whole idWhole
    obtain ⟨saltFits, saltWritten⟩ := lengthPrefixed_of_whole saltWhole
    simp only [saltRead] at saltFits saltWritten fieldsWhole
    rw [← encodeUtf8_of_decodeUtf8Bytes idRead, ← sameId] at idFits idWritten
    refine serialize_eq_ok.mpr ⟨by omega, by omega, blob, recordWhole.mpr fieldsWhole, ?_⟩
    rw [saltWritten, idWritten]
    exact header

end PortableMetadataEnvelope

/-! ## Secure containers -/

namespace SecureContainer

/-- The parts of a body that follow its file id, each with what comes after it. -/
def fileSection (body : Bytes) : Bytes × Bytes :=
  readLengthPrefixed 8 (readLengthPrefixed 1 (body.drop 5)).2

def metadataSection (body : Bytes) : Bytes × Bytes :=
  readLengthPrefixed 8 (fileSection body).2

def portableSection (body : Bytes) : Bytes × Bytes :=
  readLengthPrefixed 8 (metadataSection body).2

/-- The sections of a body, and the fields inside each, are there in full with
nothing after the last. -/
structure WholeBody (body : Bytes) : Prop where
  sections : WholeFields [1, 8, 8, 8] (body.drop 5)
  file : EncryptedContainer.Whole (fileSection body).1
  metadata : WholeRecord (metadataSection body).1
  portable : (portableSection body).1 ≠ [] →
    PortableMetadataEnvelope.Whole (portableSection body).1

/-- Everything before the outer hash is whole. -/
def Whole (data : Bytes) : Prop :=
  WholeBody (data.take (data.length - outerHashSizeBytes))

theorem serializePortable_iff_whole {blob : Bytes} {portable : Option PortableMetadataEnvelope}
    (accepted : deserializePortable blob = .ok portable) :
    serializePortable portable = .ok blob ↔
      (blob ≠ [] → PortableMetadataEnvelope.Whole blob) := by
  unfold deserializePortable at accepted
  split_ifs at accepted with empty
  · obtain rfl := Except.ok.inj accepted
    simp [serializePortable, empty]
  · obtain ⟨envelope, read, accepted⟩ := bind_eq_ok.mp accepted
    obtain rfl := Except.ok.inj accepted
    have whole := PortableMetadataEnvelope.serialize_iff_whole (reraiseAs_eq_ok.mp read)
    simp only [serializePortable, whole, ne_eq, empty, not_false_eq_true, forall_const]

/-- What each section of an accepted body decodes to. -/
structure Decodes (body : Bytes) (container : SecureContainer) : Prop where
  header : body = magic ++ (formatVersion :: body.drop 5)
  fileId : decodeUtf8Bytes (readLengthPrefixed 1 (body.drop 5)).1 = .ok container.fileId
  file : EncryptedContainer.deserialize (fileSection body).1 = .ok container.fileContainer
  metadata : container.protectedMetadata =
    deserializeProtectedMetadata (metadataSection body).1 container.fileId
  portable : deserializePortable (portableSection body).1 = .ok container.portableMetadata

theorem decodes_of_accepted {body : Bytes} {container : SecureContainer}
    (accepted : deserializeBody body = .ok container)
    (versioned : body[4]? = some formatVersion) : Decodes body container := by
  unfold deserializeBody at accepted
  split_ifs at accepted with unmarked
  · simp at accepted
  rw [byteAt_eq_ok.mpr versioned, ok_bind] at accepted
  split_ifs at accepted with unknown hasPortable
  · simp at accepted
  · obtain ⟨length, lengthRead, accepted⟩ := bind_eq_ok.mp accepted
    obtain ⟨fileId, idRead, accepted⟩ := bind_eq_ok.mp accepted
    have fields := readLengthPrefixed_of_byteAt lengthRead
    obtain ⟨portable, portableRead, accepted⟩ := bind_eq_ok.mp accepted
    obtain ⟨file, fileRead, accepted⟩ := bind_eq_ok.mp accepted
    obtain rfl := Except.ok.inj accepted
    constructor
    case header => exact header_of_read (not_not.mp unmarked) versioned
    case fileId => rw [fields]; exact idRead
    case file =>
      rw [fileSection, fields]
      exact reraiseAs_eq_ok.mp fileRead
    case metadata =>
      rw [metadataSection, fileSection, fields]
      rfl
    case portable =>
      rw [portableSection, metadataSection, fileSection, fields]
      exact portableRead
  · exact absurd (by decide) hasPortable

theorem serializeBody_iff_whole {body : Bytes} {container : SecureContainer}
    (decodes : Decodes body container) :
    container.serializeBody = .ok body ↔ WholeBody body := by
  have fileWhole := EncryptedContainer.serialize_iff_whole decodes.file
  have metadataWhole := @serializeProtectedMetadata_iff_whole (metadataSection body).1
    container.fileId
  rw [← decodes.metadata] at metadataWhole
  have portableWhole := serializePortable_iff_whole decodes.portable
  constructor
  · intro serialized
    obtain ⟨shortId, fileBlob, metaBlob, portableBlob, fileWritten, metaWritten,
      portableWritten, fileFits, metaFits, portableFits, written⟩ :=
      serializeBody_eq_ok.mp serialized
    have dropped : body.drop 5 = lengthPrefixed 1 (encodeUtf8 container.fileId) ++
        (lengthPrefixed 8 fileBlob ++ (lengthPrefixed 8 metaBlob ++
          (lengthPrefixed 8 portableBlob ++ []))) := by
      rw [written, List.append_nil]
      rfl
    have idFits : (encodeUtf8 container.fileId).length < 256 ^ 1 := by omega
    have fileRead : fileSection body = (fileBlob, lengthPrefixed 8 metaBlob ++
        (lengthPrefixed 8 portableBlob ++ [])) := by
      rw [fileSection, dropped, readLengthPrefixed_append idFits,
        readLengthPrefixed_append fileFits]
    have metaRead : metadataSection body = (metaBlob, lengthPrefixed 8 portableBlob ++ []) := by
      rw [metadataSection, fileRead, readLengthPrefixed_append metaFits]
    have portableRead : portableSection body = (portableBlob, []) := by
      rw [portableSection, metaRead, readLengthPrefixed_append portableFits]
    rw [fileRead] at fileWhole
    rw [metaRead] at metadataWhole
    rw [portableRead] at portableWhole
    constructor
    case sections =>
      rw [dropped, wholeFields_append idFits, wholeFields_append fileFits,
        wholeFields_append metaFits, wholeFields_append portableFits, wholeFields_nil]
    case file => rw [fileRead]; exact fileWhole.mp fileWritten
    case metadata => rw [metaRead]; exact metadataWhole.mp metaWritten
    case portable => rw [portableRead]; exact portableWhole.mp portableWritten
  · rintro ⟨⟨idWhole, fileThere, metadataThere, portableThere, nothingAfter⟩, file, metadata,
      portable⟩
    obtain ⟨idFits, idRead⟩ := lengthPrefixed_of_whole idWhole
    obtain ⟨fileFits, fileRead⟩ := lengthPrefixed_of_whole fileThere
    obtain ⟨metaFits, metaRead⟩ := lengthPrefixed_of_whole metadataThere
    obtain ⟨portableFits, portableRead⟩ := lengthPrefixed_of_whole portableThere
    rw [wholeFields_nil.mp nothingAfter, List.append_nil] at portableRead
    rw [← encodeUtf8_of_decodeUtf8Bytes decodes.fileId] at idFits idRead
    refine serializeBody_eq_ok.mpr ⟨by omega, _, _, _, fileWhole.mpr file,
      metadataWhole.mpr metadata, portableWhole.mpr portable, fileFits, metaFits, portableFits,
      ?_⟩
    calc body = magic ++ (formatVersion :: body.drop 5) := decodes.header
      _ = _ := by
        rw [portableSection, metadataSection, fileSection, portableRead, metaRead, fileRead,
          idRead]

/-- The body of accepted data is what its outer hash covers. -/
theorem accepted_body {crypto : Cryptography} {data : Bytes} {container : SecureContainer}
    (accepted : deserialize crypto data = .ok container) :
    ∃ body, data = body ++ (crypto.sha256 body).1 ∧
      body = data.take (data.length - outerHashSizeBytes) ∧ 6 ≤ body.length ∧
      deserializeBody body = .ok container := by
  simp only [deserialize] at accepted
  split_ifs at accepted with short unhashed
  · simp at accepted
  · simp at accepted
  have magicSize : magic.length = 4 := by decide
  refine ⟨_, ?_, rfl, ?_, accepted⟩
  · rw [not_not.mp unhashed, List.take_append_drop]
  · rw [outerHashSizeBytes, magicSize] at short
    rw [outerHashSizeBytes, List.length_take]
    omega

theorem serialize_iff_whole {crypto : Cryptography} {data : Bytes} {container : SecureContainer}
    (accepted : deserialize crypto data = .ok container)
    (versioned : data[4]? = some formatVersion) :
    container.serialize crypto = .ok data ↔ Whole data := by
  obtain ⟨body, hashed, taken, bodySize, read⟩ := accepted_body accepted
  have bodyVersioned : body[4]? = some formatVersion := by
    rw [hashed, List.getElem?_append_left (by omega)] at versioned
    exact versioned
  rw [Whole, ← taken, ← serializeBody_iff_whole (decodes_of_accepted read bodyVersioned)]
  constructor
  · intro serialized
    obtain ⟨written, bodyWritten, serialized⟩ := bind_eq_ok.mp serialized
    have same : written ++ (crypto.sha256 written).1 = body ++ (crypto.sha256 body).1 := by
      rw [← hashed]
      exact Except.ok.inj serialized
    have sizes := (crypto.sha256 written).2.trans (crypto.sha256 body).2.symm
    rw [bodyWritten, (List.append_inj' same sizes).1]
  · intro bodyWritten
    exact bind_eq_ok.mpr ⟨body, bodyWritten, congrArg Except.ok hashed.symm⟩

/-- Accepted data of the current version is what its container is written as exactly
when it is whole, and whole data is the only whole data of its container. -/
theorem serialize_deserialize_iff {crypto : Cryptography} {data : Bytes}
    {container : SecureContainer} (accepted : deserialize crypto data = .ok container)
    (versioned : data[4]? = some formatVersion) :
    (container.serialize crypto = .ok data ↔ Whole data) ∧
      ∀ other, deserialize crypto other = .ok container → other[4]? = some formatVersion →
        Whole data → Whole other → other = data := by
  refine ⟨serialize_iff_whole accepted versioned, ?_⟩
  intro other otherAccepted otherVersioned whole otherWhole
  have written := (serialize_iff_whole accepted versioned).mpr whole
  have otherWritten := (serialize_iff_whole otherAccepted otherVersioned).mpr otherWhole
  exact Except.ok.inj (otherWritten.symm.trans written)

end SecureContainer

/-- A container without a portable section. -/
def bareContainer : SecureContainer :=
  { plainSecureContainer [4] with portableMetadata := none }

private theorem bareContainer_body :
    ∃ body, bareContainer.serializeBody = .ok body ∧ 6 ≤ body.length ∧
      body[4]? = some SecureContainer.formatVersion := by
  have shortId : (encodeUtf8 bareContainer.fileId).length ≤ 255 := by decide +kernel
  have ascii : (encodeAscii "RSA-OAEP").isSome := by decide +kernel
  have nameSize : "RSA-OAEP".length ≤ 255 := by decide
  have keySize : ((1 : UInt8) :: plainFek).length ≤ 65535 := by decide
  have limits : bareContainer.fileContainer.WithinLimits :=
    ⟨ascii, nameSize, keySize, plainNonce.2⟩
  have fits : bareContainer.protectedMetadata.Fits := by
    constructor <;> simp [bareContainer, plainSecureContainer, plainRecord, plainNonce]
  obtain ⟨fileBlob, fileWritten, fileSize⟩ := EncryptedContainer.serialize_of_limits limits
  obtain ⟨metaBlob, metaWritten, metaSize⟩ := serializeProtectedMetadata_of_fits fits
  have fileSmall : bareContainer.fileContainer.size < 256 ^ 8 := by decide
  have metaSmall : bareContainer.protectedMetadata.size < 256 ^ 8 := by decide
  have written := SecureContainer.serializeBody_eq_ok.mpr ⟨shortId, fileBlob, metaBlob, [],
    fileWritten, metaWritten, rfl, by omega, by omega, by simp, rfl⟩
  refine ⟨_, written, ?_, ?_⟩
  · have magicSize : SecureContainer.magic.length = 4 := by decide
    simp only [List.length_append, List.length_cons, magicSize, lengthPrefixed,
      length_bigEndian]
    omega
  · rfl

/-- A byte after the last section changes neither the verdict nor the container. -/
theorem trailing_byte_ignored :
    ∃ body, bareContainer.serializeBody = .ok body ∧
      let crypto := transparent (padTo 32)
      let data := body ++ (crypto.sha256 body).1
      let padded := body ++ [0] ++ (crypto.sha256 (body ++ [0])).1
      SecureContainer.deserialize crypto data = .ok bareContainer ∧
        data[4]? = some SecureContainer.formatVersion ∧
        SecureContainer.deserialize crypto padded = .ok bareContainer ∧
        padded[4]? = some SecureContainer.formatVersion ∧
        padded ≠ data ∧ bareContainer.serialize crypto ≠ .ok padded := by
  obtain ⟨body, written, bodySize, versioned⟩ := bareContainer_body
  refine ⟨body, written, ?_⟩
  intro crypto data padded
  have different : padded ≠ data := by
    intro same
    have sizes := congrArg List.length same
    simp only [padded, data, List.length_append, (crypto.sha256 _).2, List.length_singleton]
      at sizes
    omega
  refine ⟨?_, ?_, ?_, ?_, different, ?_⟩
  · rw [SecureContainer.deserialize_append_sha256 bodySize]
    exact SecureContainer.deserializeBody_serializeBody written plainNonce.2 rfl
  · rw [List.getElem?_append_left (by omega)]
    exact versioned
  · have paddedSize : 6 ≤ (body ++ [0]).length := by
      rw [List.length_append]
      omega
    rw [SecureContainer.deserialize_append_sha256 paddedSize]
    exact SecureContainer.deserializeBody_append written plainNonce.2 rfl [0]
  · simp only [padded, List.append_assoc]
    rw [List.getElem?_append_left (by omega)]
    exact versioned
  · intro serialized
    have unpadded : bareContainer.serialize crypto = .ok data :=
      bind_eq_ok.mpr ⟨body, written, rfl⟩
    exact different (Except.ok.inj (serialized.symm.trans unpadded))

theorem serialize_deserialize_iff_bare :
    ∃ data, SecureContainer.deserialize (transparent (padTo 32)) data = .ok bareContainer ∧
      bareContainer.serialize (transparent (padTo 32)) = .ok data ∧
      SecureContainer.Whole data := by
  obtain ⟨body, written, bodySize, versioned⟩ := bareContainer_body
  have serialized : bareContainer.serialize (transparent (padTo 32)) =
      .ok (body ++ ((transparent (padTo 32)).sha256 body).1) :=
    bind_eq_ok.mpr ⟨body, written, rfl⟩
  have accepted := SecureContainer.deserialize_serialize serialized plainNonce.2 rfl
  refine ⟨_, accepted, serialized, ?_⟩
  have canonical := SecureContainer.serialize_deserialize_iff accepted
    (by rw [List.getElem?_append_left (by omega)]; exact versioned)
  exact canonical.1.mp serialized

end CryptoUsb
