import CryptoUsb.KeyWrapping

/-!
# Encrypted containers

`EncryptedContainer` is the envelope of one encrypted file: the wrapped key, the
nonce and the ciphertext, with its binary format.  `FileEncryptor` makes and
opens one.
-/

namespace CryptoUsb

open ByteString

/-! ## Reading and writing binary fields -/

/-- `data[offset]`. -/
def byteAt (data : Bytes) (offset : Nat) : Raises UInt8 :=
  match data[offset]? with
  | some byte => .ok byte
  | none => raise .indexError "index out of range"

/-- `number.to_bytes(width, "big")`. -/
def toBytes (width : Nat) (number : Int) : Raises Bytes :=
  if number < 0 then raise .overflowError "can't convert negative int to unsigned"
  else if number < 256 ^ width then .ok (bigEndian width number.toNat)
  else raise .overflowError "int too big to convert"

/-- A field preceded by its length in `width` octets. -/
def lengthField (width : Nat) (field : Bytes) : Raises Bytes := do
  let length ← toBytes width field.length
  return length ++ field

/-- `text.encode("ascii")`. -/
def encodeAsciiText (text : String) : Raises Bytes :=
  match encodeAscii text with
  | some bytes => .ok bytes
  | none => raise .unicodeError "'ascii' codec can't encode characters: ordinal not in range(128)"

def decodeAsciiBytes (bytes : Bytes) : Raises String :=
  match decodeAscii bytes with
  | some text => .ok text
  | none => raise .unicodeError "'ascii' codec can't decode byte: ordinal not in range(128)"

/-- `bytes.decode("utf-8")`. -/
def decodeUtf8Bytes (bytes : Bytes) : Raises String :=
  match decodeUtf8 bytes with
  | some text => .ok text
  | none => raise .unicodeError "'utf-8' codec can't decode bytes"

theorem toBytes_eq_ok {width : Nat} {number : Int} {bytes : Bytes} :
    toBytes width number = .ok bytes ↔
      0 ≤ number ∧ number < 256 ^ width ∧ bytes = bigEndian width number.toNat := by
  unfold toBytes
  split_ifs with negative fits
  · simp [negative]
  · have positive : 0 ≤ number := by omega
    simp [fits, positive, eq_comm]
  · simp [fits]

theorem lengthField_eq_ok {width : Nat} {field bytes : Bytes} :
    lengthField width field = .ok bytes ↔
      field.length < 256 ^ width ∧ bytes = lengthPrefixed width field := by
  have cast : ((field.length : Int) < 256 ^ width) ↔ field.length < 256 ^ width := by
    exact_mod_cast Iff.rfl
  simp only [lengthField, bind_eq_ok, toBytes_eq_ok, cast]
  constructor
  · rintro ⟨_, ⟨-, fits, rfl⟩, written⟩
    exact ⟨fits, (Except.ok.inj written).symm⟩
  · rintro ⟨fits, rfl⟩
    exact ⟨_, ⟨Int.natCast_nonneg _, fits, rfl⟩, rfl⟩

@[simp]
theorem byteAt_zero (byte : UInt8) (rest : Bytes) : byteAt (byte :: rest) 0 = .ok byte :=
  rfl

@[simp]
theorem byteAt_succ (byte : UInt8) (rest : Bytes) (offset : Nat) :
    byteAt (byte :: rest) (offset + 1) = byteAt rest offset :=
  rfl

theorem byteAt_eq_ok {data : Bytes} {offset : Nat} {byte : UInt8} :
    byteAt data offset = .ok byte ↔ data[offset]? = some byte := by
  unfold byteAt
  cases data[offset]? with
  | none => simp
  | some found => simp

theorem header_of_read {data magic : Bytes} {version : UInt8} (marked : data.take 4 = magic)
    (versioned : data[4]? = some version) : data = magic ++ (version :: data.drop 5) := by
  obtain ⟨inRange, found⟩ := List.getElem?_eq_some_iff.mp versioned
  calc data = data.take 4 ++ data.drop 4 := (List.take_append_drop 4 data).symm
    _ = magic ++ (version :: data.drop 5) := by
      rw [marked, List.drop_eq_getElem_cons inRange, found]

theorem lengthPrefixed_one (field : Bytes) :
    lengthPrefixed 1 field = UInt8.ofNat field.length :: field := by
  simp [lengthPrefixed, bigEndian]

theorem toNat_length {field : Bytes} (short : field.length ≤ 255) :
    (UInt8.ofNat field.length).toNat = field.length := by
  simp only [UInt8.toNat_ofNat']
  omega

theorem readLengthPrefixed_of_byteAt {data : Bytes} {length : UInt8}
    (read : byteAt data 5 = .ok length) :
    readLengthPrefixed 1 (data.drop 5) =
      ((data.drop 6).take length.toNat, (data.drop 6).drop length.toNat) := by
  obtain ⟨inRange, found⟩ := List.getElem?_eq_some_iff.mp (byteAt_eq_ok.mp read)
  rw [List.drop_eq_getElem_cons inRange, found, readLengthPrefixed_one]

theorem decodeAsciiBytes_of_encode {text : String} {bytes : Bytes}
    (encoded : encodeAsciiText text = .ok bytes) : decodeAsciiBytes bytes = .ok text := by
  unfold encodeAsciiText at encoded
  split at encoded
  case h_1 ascii =>
    obtain rfl := Except.ok.inj encoded
    simp only [decodeAsciiBytes, decodeAscii_encodeAscii ascii]
  case h_2 => cases encoded

@[simp]
theorem decodeUtf8Bytes_encodeUtf8 (text : String) :
    decodeUtf8Bytes (encodeUtf8 text) = .ok text := by
  simp [decodeUtf8Bytes]

theorem encodeAsciiText_of_decode {text : String} {bytes : Bytes}
    (decoded : decodeAsciiBytes bytes = .ok text) : encodeAsciiText text = .ok bytes := by
  unfold decodeAsciiBytes at decoded
  split at decoded
  case h_1 ascii =>
    obtain rfl := Except.ok.inj decoded
    simp only [encodeAsciiText, encodeAscii_of_decodeAscii ascii]
  case h_2 => cases decoded

theorem encodeUtf8_of_decodeUtf8Bytes {text : String} {bytes : Bytes}
    (decoded : decodeUtf8Bytes bytes = .ok text) : encodeUtf8 text = bytes := by
  unfold decodeUtf8Bytes at decoded
  split at decoded
  case h_1 valid =>
    obtain rfl := Except.ok.inj decoded
    exact encodeUtf8_of_decodeUtf8 valid
  case h_2 => cases decoded

/-! ## The container format -/

@[ext]
structure EncryptedContainer where
  wrapAlgorithm : String
  wrappedKey : Bytes
  nonce : Bytes
  ciphertext : Bytes
  deriving DecidableEq

namespace EncryptedContainer

def magic : Bytes := encodeUtf8 "CUSB"

def formatVersion : UInt8 := 1

def serialize (container : EncryptedContainer) : Raises Bytes := do
  let algoBytes ← encodeAsciiText container.wrapAlgorithm
  if 255 < algoBytes.length then
    raise .encryptionError "wrap_algorithm name too long to serialize"
  else if 65535 < container.wrappedKey.length then
    raise .encryptionError "wrapped_key too large to serialize"
  else
    return magic ++ (formatVersion :: (lengthPrefixed 1 algoBytes ++
      (lengthPrefixed 2 container.wrappedKey ++ (container.nonce ++ container.ciphertext))))

def deserialize (data : Bytes) : Raises EncryptedContainer := do
  if data.take 4 ≠ magic then
    raise .decryptionError "Not a valid CUSB encrypted container (bad magic bytes)"
  else
    let version ← byteAt data 4
    if version ≠ formatVersion then
      raise .decryptionError s!"Unsupported container version: {version.toNat}"
    else
      let algoLength ← byteAt data 5
      let rest := data.drop 6
      let wrapAlgorithm ← decodeAsciiBytes (rest.take algoLength.toNat)
      let (wrappedKey, rest) := readLengthPrefixed 2 (rest.drop algoLength.toNat)
      return {
        wrapAlgorithm
        wrappedKey
        nonce := rest.take AesCipher.nonceSizeBytes
        ciphertext := rest.drop AesCipher.nonceSizeBytes }

theorem serialize_eq_ok {container : EncryptedContainer} {bytes : Bytes} :
    container.serialize = .ok bytes ↔
      ∃ algoBytes, encodeAsciiText container.wrapAlgorithm = .ok algoBytes ∧
        algoBytes.length ≤ 255 ∧ container.wrappedKey.length ≤ 65535 ∧
        bytes = magic ++ (formatVersion :: (lengthPrefixed 1 algoBytes ++
          (lengthPrefixed 2 container.wrappedKey ++
            (container.nonce ++ container.ciphertext)))) := by
  simp only [serialize, bind_eq_ok]
  refine exists_congr fun algoBytes => and_congr_right fun _ => ?_
  split_ifs with longName longKey
  · simp only [raise_ne_ok, false_iff]
    omega
  · simp only [raise_ne_ok, false_iff]
    omega
  · have bounds : algoBytes.length ≤ 255 ∧ container.wrappedKey.length ≤ 65535 := by omega
    simp [bounds, pure, Except.pure, eq_comm]

/-- The container with nonce and ciphertext split where a reader splits them. -/
def reread (container : EncryptedContainer) : EncryptedContainer :=
  { container with
    nonce := (container.nonce ++ container.ciphertext).take AesCipher.nonceSizeBytes
    ciphertext := (container.nonce ++ container.ciphertext).drop AesCipher.nonceSizeBytes }

theorem deserialize_serialize_reread {container : EncryptedContainer} {bytes : Bytes}
    (serialized : container.serialize = .ok bytes) : deserialize bytes = .ok container.reread := by
  obtain ⟨algoBytes, ascii, shortName, shortKey, rfl⟩ := serialize_eq_ok.mp serialized
  have header : magic ++ (formatVersion :: (lengthPrefixed 1 algoBytes ++
      (lengthPrefixed 2 container.wrappedKey ++ (container.nonce ++ container.ciphertext)))) =
      [67, 85, 83, 66, 1, UInt8.ofNat algoBytes.length] ++ (algoBytes ++
        (lengthPrefixed 2 container.wrappedKey ++
          (container.nonce ++ container.ciphertext))) := by
    rw [lengthPrefixed_one]
    rfl
  have keyFits : container.wrappedKey.length < 256 ^ 2 := by omega
  have keyField :=
    readLengthPrefixed_append keyFits (container.nonce ++ container.ciphertext)
  rw [header]
  simp only [deserialize]
  rw [if_neg (by simp; rfl)]
  simp only [List.cons_append, byteAt_succ, byteAt_zero, ok_bind, List.drop_succ_cons,
    List.drop_zero, List.nil_append, toNat_length shortName, List.take_left, List.drop_left,
    decodeAsciiBytes_of_encode ascii, keyField]
  rfl

/-- A reader splits a container as it was exactly when its nonce has the right size, or is
shorter with nothing after it. -/
theorem reread_eq_self_iff {container : EncryptedContainer} :
    container.reread = container ↔ container.nonce.length = AesCipher.nonceSizeBytes ∨
      container.nonce.length < AesCipher.nonceSizeBytes ∧ container.ciphertext = [] := by
  constructor
  · intro same
    have nonceSize := congrArg (fun file => file.nonce.length) same
    have ciphertextSize := congrArg (fun file => file.ciphertext.length) same
    simp only [reread, List.length_take, List.length_drop, List.length_append]
      at nonceSize ciphertextSize
    rw [← List.length_eq_zero_iff]
    omega
  · rintro (nonceSize | ⟨shortNonce, empty⟩)
    · simp only [reread, List.take_left' nonceSize, List.drop_left' nonceSize]
    · simp only [reread, empty, List.append_nil, List.take_of_length_le shortNonce.le,
        List.drop_of_length_le shortNonce.le]
      ext1 <;> simp [empty]

theorem reread_of_deserialize {container : EncryptedContainer} {bytes : Bytes}
    (accepted : deserialize bytes = .ok container) : container.reread = container := by
  unfold deserialize at accepted
  split_ifs at accepted
  · simp at accepted
  obtain ⟨version, -, accepted⟩ := bind_eq_ok.mp accepted
  split_ifs at accepted
  · simp at accepted
  obtain ⟨length, -, accepted⟩ := bind_eq_ok.mp accepted
  obtain ⟨name, -, accepted⟩ := bind_eq_ok.mp accepted
  obtain rfl := Except.ok.inj accepted
  simp only [reread, List.take_append_drop]

theorem deserialize_serialize {container : EncryptedContainer} {bytes : Bytes}
    (serialized : container.serialize = .ok bytes)
    (nonceSize : container.nonce.length = AesCipher.nonceSizeBytes) :
    deserialize bytes = .ok container := by
  have read := deserialize_serialize_reread serialized
  rwa [reread_eq_self_iff.mpr (.inl nonceSize)] at read

end EncryptedContainer

/-! ## Encrypting and decrypting files -/

/-- The random bytes `encrypt_bytes` draws. -/
structure EncryptEntropy where
  fek : BytesOf AesCipher.aesKeySizeBytes
  nonce : AesCipher.Nonce
  wrap : WrapEntropy

namespace FileEncryptor

variable (crypto : Cryptography)

def encryptBytes (entropy : EncryptEntropy) (plaintext : Bytes) (wrapper : KeyWrapper) :
    Raises EncryptedContainer := do
  let (nonce, ciphertext) ← AesCipher.encrypt crypto entropy.nonce plaintext entropy.fek.1
  let wrappedKey ← wrapper.wrap entropy.wrap entropy.fek.1
  return { wrapAlgorithm := wrapper.algorithm, wrappedKey, nonce, ciphertext }

def decryptBytes (container : EncryptedContainer) (wrapper : KeyWrapper) : Raises Bytes := do
  let fek ← wrapper.unwrap container.wrappedKey
  AesCipher.decrypt crypto container.nonce container.ciphertext fek

variable {crypto}

theorem encryptBytes_eq_ok {entropy : EncryptEntropy} {plaintext : Bytes} {wrapper : KeyWrapper}
    {container : EncryptedContainer} :
    encryptBytes crypto entropy plaintext wrapper = .ok container ↔
      container.wrapAlgorithm = wrapper.algorithm ∧
        wrapper.wrap entropy.wrap entropy.fek.1 = .ok container.wrappedKey ∧
        AesCipher.encrypt crypto entropy.nonce plaintext entropy.fek.1 =
          .ok (container.nonce, container.ciphertext) := by
  simp only [encryptBytes, bind_eq_ok, Prod.exists]
  constructor
  · rintro ⟨nonce, ciphertext, encrypted, wrappedKey, wrapped, written⟩
    obtain rfl := Except.ok.inj written
    exact ⟨rfl, wrapped, encrypted⟩
  · rintro ⟨algorithm, wrapped, encrypted⟩
    exact ⟨_, _, encrypted, _, wrapped, congrArg Except.ok (by ext1 <;> simp [algorithm])⟩

theorem decryptBytes_eq_ok {container : EncryptedContainer} {wrapper : KeyWrapper}
    {plaintext : Bytes} :
    decryptBytes crypto container wrapper = .ok plaintext ↔
      ∃ fek, wrapper.unwrap container.wrappedKey = .ok fek ∧
        AesCipher.decrypt crypto container.nonce container.ciphertext fek = .ok plaintext :=
  bind_eq_ok

theorem nonce_length_of_encryptBytes {entropy : EncryptEntropy} {plaintext : Bytes}
    {wrapper : KeyWrapper} {container : EncryptedContainer}
    (encrypted : encryptBytes crypto entropy plaintext wrapper = .ok container) :
    container.nonce.length = AesCipher.nonceSizeBytes := by
  obtain ⟨-, -, written⟩ := encryptBytes_eq_ok.mp encrypted
  rw [(AesCipher.encrypt_eq_ok.mp written).2.1]
  exact entropy.nonce.2

/-- Decryption undoes encryption under a wrapper whose unwrap undoes wrap. -/
theorem decryptBytes_encryptBytes (laws : crypto.AesGcmLaws) {entropy : EncryptEntropy}
    {plaintext : Bytes} {wrapper : KeyWrapper} {container : EncryptedContainer}
    (undoes : wrapper.UndoesWrap)
    (encrypted : encryptBytes crypto entropy plaintext wrapper = .ok container) :
    decryptBytes crypto container wrapper = .ok plaintext := by
  obtain ⟨-, wrapped, written⟩ := encryptBytes_eq_ok.mp encrypted
  exact decryptBytes_eq_ok.mpr ⟨entropy.fek.1, undoes _ _ _ wrapped,
    AesCipher.decrypt_of_encrypt laws written⟩

end FileEncryptor

end CryptoUsb
