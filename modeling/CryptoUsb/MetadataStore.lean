import CryptoUsb.StorageWriter

/-!
# Metadata repositories

The two stores of protected metadata: the local SQLite table, and the portable
section of one container file.  Both have a `load` and a `save`; a save may
fail.
-/

namespace CryptoUsb

open ByteString IsoDateTime

/-! ## The local repository -/

/-- A row of the `file_metadata` table, without its primary key. -/
structure MetadataRow where
  metadataVersion : Int
  nonce : Bytes
  ciphertext : Bytes
  hmacTag : Bytes
  deriving DecidableEq

structure MetadataRepository where
  rows : AList (fun _ : String => MetadataRow) := ∅

namespace MetadataRepository

def load (repository : MetadataRepository) (fileId : String) : Option ProtectedMetadata :=
  (repository.rows.lookup fileId).map fun row =>
    { fileId
      metadataVersion := row.metadataVersion
      nonce := row.nonce
      ciphertext := row.ciphertext
      hmacTag := row.hmacTag }

/-- Insert a row or replace the one with the same key. -/
def upsert (repository : MetadataRepository) (stored : ProtectedMetadata) :
    MetadataRepository where
  rows := repository.rows.insert stored.fileId
    { metadataVersion := stored.metadataVersion
      nonce := stored.nonce
      ciphertext := stored.ciphertext
      hmacTag := stored.hmacTag }

/-- A save that fails leaves the table as it was. -/
def save (repository : MetadataRepository) (stored : ProtectedMetadata)
    (fault : Option WriteFault) : MetadataRepository × Raises Unit :=
  match fault with
  | some fault => (repository, raise .sqliteError fault.text)
  | none => (repository.upsert stored, .ok ())

@[simp]
theorem load_upsert (repository : MetadataRepository) (stored : ProtectedMetadata) :
    (repository.upsert stored).load stored.fileId = some stored := by
  simp [load, upsert, AList.lookup_insert]

theorem load_upsert_other {repository : MetadataRepository} {stored : ProtectedMetadata}
    {fileId : String} (different : fileId ≠ stored.fileId) :
    (repository.upsert stored).load fileId = repository.load fileId := by
  simp [load, upsert, AList.lookup_insert_ne different]

theorem fileId_of_load {repository : MetadataRepository} {fileId : String}
    {stored : ProtectedMetadata} (loaded : repository.load fileId = some stored) :
    stored.fileId = fileId := by
  obtain ⟨row, -, rfl⟩ := Option.map_eq_some_iff.mp loaded
  rfl

end MetadataRepository

/-! ## The portable repository -/

/-- The portable section of one container file. -/
structure PortableMetadataRepository where
  container : SecureContainer
  path : DevicePath

namespace PortableMetadataRepository

def load (repository : PortableMetadataRepository) (fileId : String) :
    Option ProtectedMetadata :=
  match repository.container.portableMetadata with
  | none => none
  | some envelope =>
      if envelope.protectedMetadata.fileId ≠ fileId then none
      else some envelope.protectedMetadata

/-- The container with another record in its portable section. -/
def replaced (repository : PortableMetadataRepository) (existing : PortableMetadataEnvelope)
    (stored : ProtectedMetadata) : SecureContainer :=
  { repository.container with
    portableMetadata := some { salt := existing.salt, protectedMetadata := stored } }

/-- The container in memory is replaced before the file is rewritten, and stays
replaced when the rewrite fails. -/
def save (crypto : Cryptography) (disk : Disk) (repository : PortableMetadataRepository)
    (stored : ProtectedMetadata) (random : BytesOf 16) (fault : Option WriteFault) :
    Disk × PortableMetadataRepository × Raises Unit :=
  match repository.container.portableMetadata with
  | none => (disk, repository, raise .assertionError "")
  | some existing =>
      let container := repository.replaced existing stored
      match SecureStorageWriter.rewriteContainerInPlace crypto disk container repository.path
          random fault with
      | (disk, outcome) =>
          (disk, { repository with container }, outcome.map fun _ => ())

theorem load_eq_some {repository : PortableMetadataRepository} {fileId : String}
    {stored : ProtectedMetadata} :
    repository.load fileId = some stored ↔ stored.fileId = fileId ∧
      ∃ envelope, repository.container.portableMetadata = some envelope ∧
        envelope.protectedMetadata = stored := by
  unfold load
  cases repository.container.portableMetadata with
  | none => simp
  | some envelope =>
      by_cases same : envelope.protectedMetadata.fileId = fileId
      · simp only [same, ne_eq, not_true_eq_false, if_false, Option.some.injEq,
          exists_eq_left']
        exact ⟨fun equal => ⟨equal ▸ same, equal⟩, fun both => both.2⟩
      · simp only [ne_eq, same, not_false_eq_true, if_true, reduceCtorEq, Option.some.injEq,
          exists_eq_left', false_iff]
        rintro ⟨sameId, rfl⟩
        exact same sameId

end PortableMetadataRepository

/-! ## Either repository -/

/-- What the access code reads from and burns through: anything with a `load`
and a `save`. -/
inductive Repository
  | sqlite (repository : MetadataRepository)
  | portable (repository : PortableMetadataRepository)

/-- The state after a save, and whether it returned. -/
structure SaveResult where
  disk : Disk
  repository : Repository
  outcome : Raises Unit

namespace Repository

def load : Repository → String → Option ProtectedMetadata
  | .sqlite repository, fileId => repository.load fileId
  | .portable repository, fileId => repository.load fileId

def save (crypto : Cryptography) (disk : Disk) (repository : Repository)
    (stored : ProtectedMetadata) (random : BytesOf 16) (fault : Option WriteFault) :
    SaveResult :=
  match repository with
  | .sqlite repository =>
      let (repository, outcome) := repository.save stored fault
      ⟨disk, .sqlite repository, outcome⟩
  | .portable repository =>
      let (disk, repository, outcome) := repository.save crypto disk stored random fault
      ⟨disk, .portable repository, outcome⟩

variable {crypto : Cryptography} {disk : Disk} {repository : Repository}
  {stored : ProtectedMetadata} {random : BytesOf 16} {fault : Option WriteFault}

/-- After a save that returned, the record is the one loaded. -/
theorem load_save (returned : (repository.save crypto disk stored random fault).outcome = .ok ()) :
    (repository.save crypto disk stored random fault).repository.load stored.fileId =
      some stored := by
  match repository with
  | .sqlite repository =>
      cases fault with
      | some fault => simp [save, MetadataRepository.save] at returned
      | none => exact repository.load_upsert stored
  | .portable repository =>
      simp only [save, PortableMetadataRepository.save] at returned ⊢
      cases existing : repository.container.portableMetadata with
      | none => simp [existing] at returned
      | some envelope =>
          simp [load, PortableMetadataRepository.load, PortableMetadataRepository.replaced]

/-- The record fits where it is to be saved. -/
def CanStore (crypto : Cryptography) (stored : ProtectedMetadata) : Repository → Prop
  | .sqlite _ => True
  | .portable repository => ∃ envelope payload,
      repository.container.portableMetadata = some envelope ∧
        (repository.replaced envelope stored).serialize crypto = .ok payload

/-- A save returns exactly when the record fits and no operation fails. -/
theorem save_returns_iff :
    (repository.save crypto disk stored random fault).outcome = .ok () ↔
      repository.CanStore crypto stored ∧ fault = none := by
  match repository with
  | .sqlite repository =>
      cases fault <;> simp [save, MetadataRepository.save, CanStore]
  | .portable repository =>
      simp only [save, PortableMetadataRepository.save, CanStore]
      cases repository.container.portableMetadata with
      | none => simp
      | some envelope =>
          simp only [Option.some.injEq, exists_and_left, exists_eq_left']
          cases serialized : (repository.replaced envelope stored).serialize crypto with
          | error exc =>
              simp [SecureStorageWriter.rewriteContainerInPlace, serialized, Except.map]
          | ok payload =>
              cases fault with
              | none =>
                  simp [SecureStorageWriter.rewrite_without_fault serialized, Except.map]
              | some fault =>
                  simp [SecureStorageWriter.rewriteContainerInPlace, serialized, replaceFile,
                    Except.map, raise]

theorem save_sqlite_raises {table : MetadataRepository} {exc : PyError}
    (raised : ((Repository.sqlite table).save crypto disk stored random fault).outcome =
      .error exc) :
    ((Repository.sqlite table).save crypto disk stored random fault) =
      ⟨disk, .sqlite table, .error exc⟩ := by
  cases fault with
  | none => simp [save, MetadataRepository.save] at raised
  | some fault =>
      simp only [save, MetadataRepository.save] at raised ⊢
      rw [raised]

end Repository

/-! ## Structural validation -/

/-- Hexadecimal digits, with single underscores between them. -/
def isHexDigits : List Char → Bool
  | [] => false
  | [digit] => (hexDigitValue digit).isSome
  | digit :: '_' :: rest => (hexDigitValue digit).isSome && isHexDigits rest
  | digit :: rest => (hexDigitValue digit).isSome && isHexDigits rest

def isWhitespaceCharacter (character : Char) : Bool :=
  character = ' ' || (9 ≤ character.toNat && character.toNat ≤ 13)

def stripWhitespace (characters : List Char) : List Char :=
  ((characters.dropWhile isWhitespaceCharacter).reverse.dropWhile isWhitespaceCharacter).reverse

def dropSign : List Char → List Char
  | '+' :: rest => rest
  | '-' :: rest => rest
  | rest => rest

def dropHexPrefix : List Char → List Char
  | '0' :: 'x' :: '_' :: rest => rest
  | '0' :: 'X' :: '_' :: rest => rest
  | '0' :: 'x' :: rest => rest
  | '0' :: 'X' :: rest => rest
  | rest => rest

/-- The blanks outside ASCII. -/
def nonAsciiSpaces : List Nat :=
  [0x85, 0xA0, 0x1680, 0x2000, 0x2001, 0x2002, 0x2003, 0x2004, 0x2005, 0x2006, 0x2007, 0x2008,
   0x2009, 0x200A, 0x2028, 0x2029, 0x202F, 0x205F, 0x3000]

/-- What `int` reads for a character: a blank for any blank, an ASCII digit for any decimal
digit, and something that is no digit for everything else outside ASCII. -/
def decimalAndSpaceToASCII (character : Char) : Char :=
  if character.toNat < 127 then character
  else if nonAsciiSpaces.contains character.toNat then ' '
  else
    match decimalZeros.find? fun start =>
        start ≤ character.toNat && character.toNat < start + 10 with
    | some start => Char.ofNat ('0'.toNat + (character.toNat - start))
    | none => '?'

/-- `_is_hex`: whether `int(value, 16)` returns.  Blanks around the digits, a
sign and a `0x` prefix are allowed, and decimal digits of any script. -/
def isHex (value : String) : Bool :=
  isHexDigits (dropHexPrefix (dropSign (stripWhitespace
    (value.toList.map decimalAndSpaceToASCII))))

-- Full-width digits between an em space and a no-break space.
example : isHex (String.ofList ['\u2003', '\uFF10', 'x', '\uFF11', 'f', '\u00A0']) = true := by
  decide +kernel

namespace MetadataController

/-- `MetadataController.validate`. -/
def validate (metadata : FileMetadata) : Raises Unit :=
  if metadata.fileId = "" then raise .metadataValidationError "file_id must not be empty"
  else if metadata.ownerId = "" then
    raise .metadataValidationError "owner_id must not be empty"
  else if metadata.wrappedKey = [] then
    raise .metadataValidationError "wrapped_key must not be empty"
  else if metadata.wrapAlgorithm = "" then
    raise .metadataValidationError "wrap_algorithm must not be empty"
  else if metadata.integrityHash.length ≠ 64 ∨ isHex metadata.integrityHash = false then
    raise .metadataValidationError "integrity_hash must be a 64-character SHA-256 hex digest"
  else if metadata.accessCount < 0 then
    raise .metadataValidationError "access_count must not be negative"
  else if metadata.metadataVersion ≠ currentMetadataVersion then
    raise .metadataValidationError
      s!"Unsupported metadata_version: {metadata.metadataVersion} (expected {currentMetadataVersion})"
  else
    match metadata.lastAccessedAt with
    | none => .ok ()
    | some lastAccessedAt =>
        match lastAccessedAt.lessThan metadata.createdAt with
        | none => raise .typeError "can't compare offset-naive and offset-aware datetimes"
        | some true =>
            raise .metadataValidationError "last_accessed_at cannot be before created_at"
        | some false => .ok ()

theorem traces_of_validate {metadata : FileMetadata} (valid : validate metadata = .ok ()) :
    metadata.wrapAlgorithm ≠ "" ∧ metadata.wrappedKey ≠ [] := by
  unfold validate at valid
  split_ifs at valid with noFile noOwner empty unnamed
  all_goals first
    | exact absurd valid (raise_ne_ok _ _ _)
    | exact ⟨unnamed, empty⟩

end MetadataController

/-! ## Digests are valid hashes -/

private theorem hexDigit_table : ∀ number < 16,
    (hexDigitValue (hexDigit number)).isSome = true ∧
      isWhitespaceCharacter (hexDigit number) = false ∧ hexDigit number ≠ '+' ∧
      hexDigit number ≠ '-' ∧ hexDigit number ≠ '_' ∧ hexDigit number ≠ 'x' ∧
      hexDigit number ≠ 'X' ∧ decimalAndSpaceToASCII (hexDigit number) = hexDigit number := by
  decide +kernel

private theorem isHexDigits_of_all {characters : List Char} (nonempty : characters ≠ [])
    (digits : ∀ character ∈ characters, ∃ number < 16, character = hexDigit number) :
    isHexDigits characters = true := by
  induction characters with
  | nil => exact absurd rfl nonempty
  | cons head tail ih =>
      obtain ⟨number, small, rfl⟩ := digits head (by simp)
      have isDigit := (hexDigit_table number small).1
      have tailDigits : ∀ character ∈ tail, ∃ number < 16, character = hexDigit number :=
        fun character member => digits character (List.mem_cons_of_mem _ member)
      match tail, ih, tailDigits with
      | [], _, _ => simpa [isHexDigits] using isDigit
      | next :: rest, ih, tailDigits =>
          obtain ⟨other, otherSmall, rfl⟩ := tailDigits next (by simp)
          have notUnderscore := (hexDigit_table other otherSmall).2.2.2.2.1
          have tailOk := ih (by simp) tailDigits
          rw [isHexDigits.eq_def]
          split
          case h_1 equal => cases equal
          case h_2 equal => simp at equal
          case h_3 equal =>
            exact absurd (List.cons.inj (List.cons.inj equal).2).1 notUnderscore
          case h_4 equal =>
            obtain ⟨rfl, rfl⟩ := List.cons.inj equal
            simp [isDigit, tailOk]

private theorem stripWhitespace_of_all {characters : List Char}
    (digits : ∀ character ∈ characters, ∃ number < 16, character = hexDigit number) :
    stripWhitespace characters = characters := by
  have kept {word : List Char}
      (wordDigits : ∀ character ∈ word, ∃ number < 16, character = hexDigit number) :
      word.dropWhile isWhitespaceCharacter = word := by
    cases word with
    | nil => rfl
    | cons head tail =>
        obtain ⟨number, small, rfl⟩ := wordDigits head (by simp)
        simp [(hexDigit_table number small).2.1]
  rw [stripWhitespace, kept digits, kept (by simpa using digits), List.reverse_reverse]

private theorem dropPrefixes_of_all {characters : List Char}
    (digits : ∀ character ∈ characters, ∃ number < 16, character = hexDigit number) :
    dropHexPrefix (dropSign characters) = characters := by
  have notDigit (letter : Char) (member : letter ∈ characters) :
      letter ≠ '+' ∧ letter ≠ '-' ∧ letter ≠ 'x' ∧ letter ≠ 'X' := by
    obtain ⟨number, small, rfl⟩ := digits letter member
    have table := hexDigit_table number small
    exact ⟨table.2.2.1, table.2.2.2.1, table.2.2.2.2.2.1, table.2.2.2.2.2.2.1⟩
  have unsigned : dropSign characters = characters := by
    unfold dropSign
    split
    · exact absurd rfl (notDigit '+' (by simp)).1
    · exact absurd rfl (notDigit '-' (by simp)).2.1
    · rfl
  rw [unsigned]
  unfold dropHexPrefix
  split
  · exact absurd rfl (notDigit 'x' (by simp)).2.2.1
  · exact absurd rfl (notDigit 'X' (by simp)).2.2.2
  · exact absurd rfl (notDigit 'x' (by simp)).2.2.1
  · exact absurd rfl (notDigit 'X' (by simp)).2.2.2
  · rfl

theorem isHex_hexEncode {bytes : Bytes} (nonempty : bytes ≠ []) :
    isHex (hexEncode bytes) = true := by
  have digits : ∀ character ∈ hexChars bytes, ∃ number < 16, character = hexDigit number :=
    fun character member => mem_hexChars member
  have charactersNonempty : hexChars bytes ≠ [] := by
    intro empty
    have length := length_hexChars bytes
    rw [empty, List.length_nil] at length
    exact nonempty (List.eq_nil_of_length_eq_zero (by omega))
  have unchanged : (hexChars bytes).map decimalAndSpaceToASCII = hexChars bytes := by
    refine (List.map_congr_left fun character member => ?_).trans (List.map_id _)
    obtain ⟨number, small, rfl⟩ := digits character member
    exact (hexDigit_table number small).2.2.2.2.2.2.2
  rw [isHex, hexEncode, String.toList_ofList, unchanged, stripWhitespace_of_all digits,
    dropPrefixes_of_all digits]
  exact isHexDigits_of_all charactersNonempty digits

theorem computeIntegrityHash_valid (crypto : Cryptography) (data : Bytes) :
    (computeIntegrityHash crypto data).length = 64 ∧
      isHex (computeIntegrityHash crypto data) = true := by
  have size := (crypto.sha256 data).2
  refine ⟨?_, isHex_hexEncode ?_⟩
  · rw [computeIntegrityHash, length_hexEncode, size]
  · intro empty
    rw [empty] at size
    cases size

end CryptoUsb
