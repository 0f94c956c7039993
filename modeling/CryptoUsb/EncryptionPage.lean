import CryptoUsb.DeviceRebind

/-!
# The encryption page

What the page makes of a click on "write": a session key that is generated once,
a passphrase that is asked for at every write, and the arguments of `store_file`.
An export reuses the passphrase of the latest write, if one was given.
-/

namespace CryptoUsb

open ByteString

def localOwnerId : String := "local-user"

theorem localOwnerId_ne_empty : localOwnerId ≠ "" := by
  decide

/-- A signed-in user, as the pages see it.  Both dialogs sign in under
`localOwnerId`. -/
structure PageSession where
  ownerId : String
  isDecoy : Bool
  named : ownerId ≠ ""

/-- The state of the page; `privateKey` is the key pair behind `_key_wrapper`. -/
structure EncryptionPage where
  metadataRepository : Option MetadataRepository
  protectionKeys : Option MetadataProtectionKeys
  session : Option PageSession
  privateKey : Option RSAPrivateKey := none
  lastWritePassphrase : Option Bytes := none

/-- What the user has chosen when the write starts, and the answer to the passphrase
prompt: the text, or nothing where it was cancelled.  The target machine's fingerprint
is the text without surrounding blanks. -/
structure WriteChoice where
  source : Raises Bytes
  device : USBDevice
  overwrite : Bool := false
  bindDevice : Bool
  machineBinding : MachineBindingMode
  targetMachineFingerprint : String
  oneTimeAccess : Bool
  passphrase : Option String

/-- The random bytes of a write: the key pair, should none be there yet, the salt, and
what `store_file` draws. -/
structure WriteDraws where
  generated : RSAPrivateKey
  salt : BytesOf PasswordHasher.saltLenBytes
  store : StoreDraws

namespace EncryptionPage

/-- `_prompt_passphrase`: nothing for a prompt that was cancelled and for a text that is
too short. -/
def promptPassphrase (answer : Option String) : Option Bytes :=
  (answer.filter (PasswordHasher.minPasswordLength ≤ ·.length)).map encodeUtf8

def ownerId (page : EncryptionPage) : String :=
  match page.session with
  | none => localOwnerId
  | some session => session.ownerId

/-- `_get_key_wrapper`: the key pair of the session. -/
def sessionKey (page : EncryptionPage) (generated : RSAPrivateKey) : RSAPrivateKey :=
  page.privateKey.getD generated

/-- `_derive_portable_metadata_keys`, for the passphrase that was given. -/
def portableMetadataKeys (crypto : Cryptography) (privateKey : RSAPrivateKey)
    (passphrase salt : Bytes) : MetadataProtectionKeys :=
  deriveProtectionKeysFromKeyMaterial crypto privateKey.privateBytes passphrase salt

theorem length_portableMetadataKeys (crypto : Cryptography) (privateKey : RSAPrivateKey)
    (passphrase salt : Bytes) :
    (portableMetadataKeys crypto privateKey passphrase salt).encryptionKey.length =
      AesCipher.aesKeySizeBytes :=
  (crypto.hkdfExpandSha256 AesCipher.aesKeySizeBytes hkdfInfoEncryptionKey _).2

variable (crypto : Cryptography) (page : EncryptionPage) (choice : WriteChoice)
  (draws : WriteDraws)

/-- The arguments that `store_file` is called with. -/
def storeRequest : StoreRequest :=
  let privateKey := page.sessionKey draws.generated
  let passphrase := promptPassphrase choice.passphrase
  { source := choice.source
    device := choice.device
    keyWrapper := privateKey.keyWrapper
    ownerId := page.ownerId
    overwrite := choice.overwrite
    protectionKeys := page.protectionKeys
    usagePolicy := some { oneTimeAccess := choice.oneTimeAccess }
    bindDevice := choice.bindDevice
    machineBinding := choice.machineBinding
    targetMachineFingerprint :=
      (some choice.targetMachineFingerprint).filter (· ≠ "")
    portableMetadataKeys := passphrase.map fun passphrase =>
      portableMetadataKeys crypto privateKey passphrase draws.salt.1
    portableMetadataSalt := passphrase.map fun _ => draws.salt.1 }

/-- How a write ended: refused for want of a fingerprint, or as `store_file` did. -/
structure PageWrite where
  page : EncryptionPage
  disk : Disk
  outcome : Option (Raises SecureWriteResult)

/-- `_write_container`.  A confirmed overwrite is a further call, with a prompt of its
own. -/
def writeContainer (probes : HostProbes) (disk : Disk) : PageWrite :=
  if choice.machineBinding = .specific ∧ choice.targetMachineFingerprint = "" then
    ⟨page, disk, none⟩
  else
    let result := SecureStorageService.storeFile crypto probes (storeRequest crypto page choice
      draws) draws.store disk page.metadataRepository
    ⟨{ page with
        metadataRepository := result.repository
        privateKey := some (page.sessionKey draws.generated)
        lastWritePassphrase := promptPassphrase choice.passphrase },
      result.disk, some result.outcome⟩

/-- `_on_export_key_clicked` up to the file: the key pair, and the passphrase that its PEM
is encrypted under, if there is one. -/
def exportKey (generated : RSAPrivateKey) (answer : Option String) :
    EncryptionPage × Option (RSAPrivateKey × Bytes) :=
  let privateKey := page.sessionKey generated
  let passphrase := page.lastWritePassphrase.or (promptPassphrase answer)
  ({ page with privateKey := some privateKey }, passphrase.map fun passphrase =>
    (privateKey, passphrase))

/-! ## What a write leaves -/

section Writes

variable {crypto : Cryptography} {page : EncryptionPage} {choice : WriteChoice}
  {draws : WriteDraws} {probes : HostProbes} {disk : Disk}

theorem writeContainer_eq {outcome : Raises SecureWriteResult}
    (ended : (writeContainer crypto page choice draws probes disk).outcome = some outcome) :
    let result := SecureStorageService.storeFile crypto probes (storeRequest crypto page choice
      draws) draws.store disk page.metadataRepository
    result.outcome = outcome ∧
      (writeContainer crypto page choice draws probes disk).disk = result.disk ∧
      (writeContainer crypto page choice draws probes disk).page.metadataRepository =
        result.repository := by
  unfold writeContainer at ended ⊢
  split_ifs at ended ⊢
  exact ⟨Option.some.inj ended, rfl, rfl⟩

theorem ownerId_ne_empty (page : EncryptionPage) : page.ownerId ≠ "" := by
  unfold ownerId
  split
  · decide
  · exact PageSession.named _

theorem leavesTraces (oaep : (page.sessionKey draws.generated).OaepLaws) :
    SecureStorageService.LeavesTraces (storeRequest crypto page choice draws) where
  algorithm := by
    intro _
    show "RSA-OAEP" ≠ ""
    decide
  wrapped := by
    intro _ entropy keyMaterial
    exact oaep.wrap_ne_nil

theorem policyHolds {prepared : PreparedFile} {plaintext bytes : Bytes}
    (file : SecureStorageService.Prepared crypto probes (storeRequest crypto page choice draws)
      draws.store prepared plaintext bytes) (now : IsoDateTime.DateTime) :
    ValidationEngine.PolicyHolds now prepared.metadata :=
  file.policyHolds (fun _ limited => nomatch limited) (fun _ expires => nomatch expires)

/-- The portable section is there where a passphrase was given, under the keys derived
from it. -/
theorem portable_of_write {repository : Option MetadataRepository} {result : StoreResult}
    {written : SecureWriteResult} {prepared : PreparedFile}
    {portableMetadata : Option PortableMetadataEnvelope} {plaintext bytes : Bytes}
    (stored : SecureStorageService.Stored crypto probes (storeRequest crypto page choice draws)
      draws.store repository result written prepared portableMetadata plaintext bytes) :
    match promptPassphrase choice.passphrase with
    | none => portableMetadata = none
    | some passphrase => ∃ portableRecord,
        portableMetadata = some ⟨draws.salt.1, portableRecord⟩ ∧
        MetadataProtector.protect crypto (portableMetadataKeys crypto
          (page.sessionKey draws.generated) passphrase draws.salt.1) draws.store.portableNonce
            prepared.metadata = .ok portableRecord := by
  cases prompted : promptPassphrase choice.passphrase with
  | none =>
      have portable := stored.portable
      simp only [SecureStorageService.portableEnvelope, storeRequest, prompted,
        Option.map_none, Except.ok.injEq] at portable
      exact portable.symm
  | some passphrase =>
      have keysGiven : (storeRequest crypto page choice draws).portableMetadataKeys =
          some (portableMetadataKeys crypto (page.sessionKey draws.generated) passphrase
            draws.salt.1) := by
        simp only [storeRequest, prompted, Option.map_some]
      have saltGiven : (storeRequest crypto page choice draws).portableMetadataSalt =
          some draws.salt.1 := by
        simp only [storeRequest, prompted, Option.map_some]
      exact stored.portable_of_keys keysGiven saltGiven

end Writes

end EncryptionPage

/-!
## Pages with the transparent primitives

The page of a local user with a transparent key pair.  Two bytes are written to the plain device,
bound to it or not, on this machine or on any, with a portable section or without, to be viewed
once or at will; each of these writes returns.
-/

/-- A page of the local user whose records are protected with the plain keys. -/
structure PlainPage (page : EncryptionPage) : Prop where
  keys : page.protectionKeys = some plainKeys
  sessionKey : page.sessionKey transparentPrivateKey = transparentPrivateKey
  session : page.session = none

/-- What the user chooses for the two bytes. -/
def plainChoice (bindDevice onMachine oneTimeAccess : Bool) (passphrase : Option String) :
    WriteChoice where
  source := .ok [104, 105]
  device := plainDevice
  bindDevice := bindDevice
  machineBinding := if onMachine then .current else .none
  targetMachineFingerprint := ""
  oneTimeAccess := oneTimeAccess
  passphrase := passphrase

def plainWriteDraws (fileId : BytesOf 16) : WriteDraws where
  generated := transparentPrivateKey
  salt := padTo 16 [3]
  store := { plainStoreDraws with fileId }

/-- Where the file is written. -/
def plainPath (fileId : BytesOf 16) : DevicePath :=
  ⟨"E:", uuidText (uuid4 fileId) ++ ".cusc"⟩

section Write

variable {page : EncryptionPage} {bindDevice onMachine oneTimeAccess : Bool}
  {passphrase : Option String} {fileId : BytesOf 16} {disk : Disk} {bytes wrapped : Bytes}

abbrev plainPageRequest (page : EncryptionPage) (bindDevice onMachine oneTimeAccess : Bool)
    (passphrase : Option String) (fileId : BytesOf 16) : StoreRequest :=
  page.storeRequest storeCrypto (plainChoice bindDevice onMachine oneTimeAccess passphrase)
    (plainWriteDraws fileId)

abbrev plainPageWrapper (page : EncryptionPage) (bindDevice onMachine oneTimeAccess : Bool)
    (passphrase : Option String) (fileId : BytesOf 16) : KeyWrapper :=
  SecureStorageService.storeWrapper storeCrypto plainProbes
    (plainPageRequest page bindDevice onMachine oneTimeAccess passphrase fileId)

theorem PlainPage.wrapper (plain : PlainPage page) :
    plainPageWrapper page bindDevice onMachine oneTimeAccess passphrase fileId =
      if bindDevice = true ∧ onMachine = false then
        deviceBoundKeyWrapper storeCrypto transparentPrivateKey.keyWrapper
          (SecureStorageService.deviceKey storeCrypto plainProbes plainDevice)
      else transparentPrivateKey.keyWrapper := by
  have sameKey : page.sessionKey (plainWriteDraws fileId).generated = transparentPrivateKey :=
    plain.sessionKey
  simp only [SecureStorageService.storeWrapper, EncryptionPage.storeRequest, sameKey, plainChoice]
  cases bindDevice <;> cases onMachine <;> rfl

theorem PlainPage.algorithm (plain : PlainPage page) :
    ∃ algoBytes, encodeAsciiText
        (plainPageWrapper page bindDevice onMachine oneTimeAccess passphrase fileId).algorithm =
          .ok algoBytes ∧ algoBytes.length ≤ 255 ∧
        (plainPageWrapper page bindDevice onMachine oneTimeAccess passphrase
          fileId).algorithm.length ≤ 255 := by
  rw [plain.wrapper]
  split_ifs
  · show ∃ algoBytes, encodeAsciiText ("RSA-OAEP" ++ "+DEVICE-BOUND-AES-GCM") =
      .ok algoBytes ∧ algoBytes.length ≤ 255 ∧
        ("RSA-OAEP" ++ "+DEVICE-BOUND-AES-GCM").length ≤ 255
    exact ⟨encodeUtf8 "RSA-OAEP+DEVICE-BOUND-AES-GCM", by decide +kernel⟩
  · show ∃ algoBytes, encodeAsciiText "RSA-OAEP" = .ok algoBytes ∧ algoBytes.length ≤ 255 ∧
      "RSA-OAEP".length ≤ 255
    exact ⟨encodeUtf8 "RSA-OAEP", by decide +kernel⟩

theorem PlainPage.wraps (plain : PlainPage page) (entropy : WrapEntropy) {keyMaterial : Bytes}
    (size : keyMaterial.length = 32) :
    ∃ wrapped, (plainPageWrapper page bindDevice onMachine oneTimeAccess passphrase fileId).wrap
      entropy keyMaterial = .ok wrapped ∧ wrapped.length ≤ 1000 := by
  have seedSize := (padTo 4 entropy.paddingSeed).2
  rw [plain.wrapper]
  split_ifs
  · have keySize : (SecureStorageService.deviceKey storeCrypto plainProbes plainDevice).length =
        AesCipher.aesKeySizeBytes := length_deriveDeviceBindingKey ..
    refine ⟨entropy.deviceNonce.1 ++
      (SecureStorageService.deviceKey storeCrypto plainProbes plainDevice ++
        ((padTo 4 entropy.paddingSeed).1 ++ keyMaterial)),
      deviceBound_wrap_eq_ok.mpr ⟨(padTo 4 entropy.paddingSeed).1 ++ keyMaterial, _, rfl,
        AesCipher.encrypt_eq_ok.mpr ⟨keySize, rfl,
          transparent_encrypt.mpr ⟨⟨keySize, entropy.deviceNonce.2⟩, rfl⟩⟩, rfl⟩, ?_⟩
    rw [List.length_append, List.length_append, List.length_append, keySize, size, seedSize,
      entropy.deviceNonce.2]
    decide
  · refine ⟨(padTo 4 entropy.paddingSeed).1 ++ keyMaterial, rfl, ?_⟩
    rw [List.length_append, size, seedSize]
    decide

private theorem plainPageBinding_size :
    (SecureStorageService.storeBinding storeCrypto plainProbes
      (plainPageRequest page bindDevice onMachine oneTimeAccess passphrase fileId)).fieldSize ≤
        300 := by
  cases bindDevice <;> cases onMachine
  · exact Nat.zero_le _
  · show DeviceBinding.fieldSize
      { machineFingerprint := some (computeMachineFingerprint storeCrypto plainProbes) } ≤ 300
    decide +kernel
  · show (SecureStorageService.recordedDevice plainProbes plainDevice none).fieldSize ≤ 300
    decide +kernel
  · show (SecureStorageService.recordedDevice plainProbes plainDevice
      (some (computeMachineFingerprint storeCrypto plainProbes))).fieldSize ≤ 300
    decide +kernel

/-- What the page records of the two bytes. -/
def plainPageMetadata (page : EncryptionPage) (bindDevice onMachine oneTimeAccess : Bool)
    (passphrase : Option String) (fileId : BytesOf 16) (wrapped bytes : Bytes) :
    FileMetadata where
  fileId := uuidText (uuid4 fileId)
  ownerId := page.ownerId
  wrappedKey := wrapped
  wrapAlgorithm :=
    (plainPageWrapper page bindDevice onMachine oneTimeAccess passphrase fileId).algorithm
  integrityHash := computeIntegrityHash storeCrypto bytes
  createdAt := plainInstant.1
  deviceBinding := SecureStorageService.storeBinding storeCrypto plainProbes
    (plainPageRequest page bindDevice onMachine oneTimeAccess passphrase fileId)
  usagePolicy := { oneTimeAccess := oneTimeAccess }

private theorem plainPageMetadata_small (plain : PlainPage page)
    (shortKey : wrapped.length ≤ 1000) :
    (plainPageMetadata page bindDevice onMachine oneTimeAccess passphrase fileId wrapped
      bytes).fieldSize < 2 ^ 30 := by
  obtain ⟨_, -, -, shortText⟩ := @PlainPage.algorithm _ bindDevice onMachine oneTimeAccess
    passphrase fileId plain
  have idSize := length_uuidText_le fileId
  have ownerSize : page.ownerId.length = 10 := by
    rw [EncryptionPage.ownerId, plain.session]
    decide +kernel
  have keySize := Base64Text.length_b64encode_le wrapped
  have hashSize := (computeIntegrityHash_valid storeCrypto bytes).1
  have createdSize := plainInstant_size
  have bindingSize := @plainPageBinding_size page bindDevice onMachine oneTimeAccess passphrase
    fileId
  have versionSize : currentMetadataVersion.natAbs ≤ 100 := by decide
  simp only [FileMetadata.fieldSize, plainPageMetadata, hashSize, ownerSize, Option.map_none,
    optLength, Option.elim_none, Int.natAbs_zero]
  omega

/-- The two bytes are prepared. -/
theorem PlainPage.prepared (plain : PlainPage page)
    (wrote : (plainPageWrapper page bindDevice onMachine oneTimeAccess passphrase fileId).wrap
      plainStoreDraws.encrypt.wrap plainFek = .ok wrapped)
    (serialized : (plainStoreContainer (plainPageWrapper page bindDevice onMachine oneTimeAccess
      passphrase fileId).algorithm wrapped).serialize = .ok bytes) :
    ∃ stored, SecureStorageService.Prepared storeCrypto plainProbes
      (plainPageRequest page bindDevice onMachine oneTimeAccess passphrase fileId)
      (plainWriteDraws fileId).store
      { metadata := plainPageMetadata page bindDevice onMachine oneTimeAccess passphrase fileId
          wrapped bytes
        fileContainer := plainStoreContainer (plainPageWrapper page bindDevice onMachine
          oneTimeAccess passphrase fileId).algorithm wrapped
        keys := plainKeys
        protectedMetadata := stored } [104, 105] bytes := by
  have keySize : plainKeys.encryptionKey.length = AesCipher.aesKeySizeBytes := by decide
  obtain ⟨stored, recorded⟩ := @MetadataProtector.protect_total storeCrypto _
    transparent_encryptsAll keySize plainNonce (plainPageMetadata page bindDevice onMachine
      oneTimeAccess passphrase fileId wrapped bytes)
  refine ⟨stored, ?_, rfl, ?_, serialized, rfl, ?_, recorded⟩
  · cases onMachine <;> nofun
  · exact FileEncryptor.encryptBytes_eq_ok.mpr ⟨rfl, wrote, AesCipher.encrypt_eq_ok.mpr
      ⟨plainStoreDraws.encrypt.fek.2, rfl, transparent_encrypt.mpr
        ⟨⟨plainStoreDraws.encrypt.fek.2, plainStoreDraws.encrypt.nonce.2⟩, rfl⟩⟩⟩
  · show plainKeys = page.protectionKeys.getD _
    rw [plain.keys]
    rfl

/-- Whatever such a page prepares is small. -/
theorem PlainPage.prepared_small (plain : PlainPage page) {prepared : PreparedFile}
    {plaintext : Bytes} (file : SecureStorageService.Prepared storeCrypto plainProbes
      (plainPageRequest page bindDevice onMachine oneTimeAccess passphrase fileId)
      (plainWriteDraws fileId).store prepared plaintext bytes) :
    bytes.length < 2 ^ 61 ∧ prepared.metadata.fieldSize < 2 ^ 30 := by
  obtain ⟨wrapped, wrote, shortKey⟩ := @PlainPage.wraps _ bindDevice onMachine oneTimeAccess
    passphrase fileId plain plainStoreDraws.encrypt.wrap _ plainStoreDraws.encrypt.fek.2
  obtain ⟨algorithm, wrappedEq, encrypted⟩ := FileEncryptor.encryptBytes_eq_ok.mp file.encrypted
  obtain ⟨-, nonceEq, made⟩ := AesCipher.encrypt_eq_ok.mp encrypted
  obtain ⟨-, ciphertextEq⟩ := transparent_encrypt.mp made
  obtain rfl := Except.ok.inj file.source
  obtain rfl := Except.ok.inj (wrote.symm.trans wrappedEq)
  have container : prepared.fileContainer = plainStoreContainer (plainPageWrapper page bindDevice
      onMachine oneTimeAccess passphrase fileId).algorithm prepared.fileContainer.wrappedKey :=
    EncryptedContainer.ext algorithm rfl nonceEq ciphertextEq
  constructor
  · have serialized := file.serialized
    rw [container] at serialized
    exact plainContainer_small serialized
  · rw [file.metadata]
    exact plainPageMetadata_small plain shortKey

theorem plainPage_portable (metadata : FileMetadata) :
    ∃ portableMetadata, SecureStorageService.portableEnvelope storeCrypto
      (plainPageRequest page bindDevice onMachine oneTimeAccess passphrase fileId)
      (plainWriteDraws fileId).store metadata = .ok portableMetadata := by
  simp only [SecureStorageService.portableEnvelope, EncryptionPage.storeRequest, plainChoice]
  cases EncryptionPage.promptPassphrase passphrase with
  | none => exact ⟨none, rfl⟩
  | some given =>
      obtain ⟨stored, protectedRecord⟩ := @MetadataProtector.protect_total storeCrypto
        (EncryptionPage.portableMetadataKeys storeCrypto
          (page.sessionKey (plainWriteDraws fileId).generated) given (plainWriteDraws fileId).salt.1)
        transparent_encryptsAll (EncryptionPage.length_portableMetadataKeys ..)
        (plainWriteDraws fileId).store.portableNonce metadata
      exact ⟨_, bind_eq_ok.mpr ⟨stored, protectedRecord, rfl⟩⟩

/-- Every such write returns, where no file of this name is on the device. -/
theorem PlainPage.write_returns (plain : PlainPage page)
    (free : disk (plainPath fileId) = none) :
    ∃ written, (page.writeContainer storeCrypto
      (plainChoice bindDevice onMachine oneTimeAccess passphrase) (plainWriteDraws fileId)
        plainProbes disk).outcome = some (.ok written) := by
  obtain ⟨algoBytes, ascii, shortName, shortText⟩ := @PlainPage.algorithm _ bindDevice onMachine
    oneTimeAccess passphrase fileId plain
  obtain ⟨wrapped, wrote, shortKey⟩ := @PlainPage.wraps _ bindDevice onMachine oneTimeAccess
    passphrase fileId plain plainStoreDraws.encrypt.wrap _ plainStoreDraws.encrypt.fek.2
  obtain ⟨bytes, serialized⟩ : ∃ bytes, (plainStoreContainer (plainPageWrapper page bindDevice
      onMachine oneTimeAccess passphrase fileId).algorithm wrapped).serialize = .ok bytes :=
    ⟨_, EncryptedContainer.serialize_eq_ok.mpr
      ⟨algoBytes, ascii, shortName, shortKey.trans (by decide), rfl⟩⟩
  obtain ⟨stored, file⟩ := @PlainPage.prepared _ bindDevice onMachine oneTimeAccess passphrase
    fileId bytes wrapped plain wrote serialized
  obtain ⟨portableMetadata, portable⟩ := @plainPage_portable page bindDevice onMachine
    oneTimeAccess passphrase fileId (plainPageMetadata page bindDevice onMachine oneTimeAccess
      passphrase fileId wrapped bytes)
  obtain ⟨payload, payloadWritten, payloadSmall⟩ := file.serialize_containerOf
    (plainContainer_small serialized)
    ((plainPageMetadata_small plain shortKey).trans (by decide)) portable (by
      intro salt given
      obtain ⟨_, -, rfl⟩ := Option.map_eq_some_iff.mp given
      rw [(plainWriteDraws fileId).salt.2]
      decide)
  have together : (plainPageRequest page bindDevice onMachine oneTimeAccess passphrase
      fileId).portableMetadataKeys.isSome = (plainPageRequest page bindDevice onMachine
        oneTimeAccess passphrase fileId).portableMetadataSalt.isSome := by
    simp only [EncryptionPage.storeRequest, Option.isSome_map]
  obtain ⟨written, returned⟩ := @SecureStorageService.storeFile_total storeCrypto plainProbes
    _ (plainWriteDraws fileId).store disk page.metadataRepository _ _ _ _ _ together file portable
      payloadWritten (plainDevice_valid payloadSmall) free rfl rfl
  have targeted : ¬ ((plainChoice bindDevice onMachine oneTimeAccess passphrase).machineBinding =
      .specific ∧ (plainChoice bindDevice onMachine oneTimeAccess
        passphrase).targetMachineFingerprint = "") := by
    cases onMachine <;> simp [plainChoice]
  refine ⟨written, ?_⟩
  rw [EncryptionPage.writeContainer, if_neg targeted]
  exact congrArg some returned

end Write

end CryptoUsb
