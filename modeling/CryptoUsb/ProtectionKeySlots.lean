import CryptoUsb.CommitTraces
import CryptoUsb.LocalAccounts
import CryptoUsb.MetadataStore
import CryptoUsb.TamperEvidentLog

/-!
# Protection key slots

The local database and the keys in its `app_meta` table, each wrapped under
another key.  The Vault Master Key has a password slot and a recovery slot; it
wraps the protection keys of the metadata and of the usage log.  A slot opens
under the key that it was wrapped with and under no other.
-/

namespace CryptoUsb

open ByteString CommitTraces

/-- One row of `deception_events`. -/
structure DeceptionEventRow where
  trigger : String
  contentType : String
  fileId : Option String
  generatedAt : String
  usbSerial : Option String
  vendorId : Option String
  productId : Option String
  hardwareSerial : Option String
  mountPoint : Option String
  label : Option String
  deriving DecidableEq

abbrev DeceptionEventRepository :=
  List DeceptionEventRow

def DeceptionEventRepository.clear (_ : DeceptionEventRepository) : DeceptionEventRepository :=
  []

/-- The tables of the local database. -/
structure Database where
  accounts : AccountRepository := {}
  appMeta : AList (fun _ : String => String) := ∅
  fileMetadata : MetadataRepository := {}
  usageLog : TrackingRepository := []
  deceptionEvents : DeceptionEventRepository := []

/-- Code against the local database. -/
abbrev Transaction := Committing Database PyError

namespace ProtectionKeys

variable (crypto : Cryptography)

def metadataEncryptionKey : String := "metadata_protection_encryption_key"

def metadataHmacKey : String := "metadata_protection_hmac_key"

def trackingEncryptionKey : String := "tracking_protection_encryption_key"

def trackingHmacKey : String := "tracking_protection_hmac_key"

def vaultMasterKeyPasswordSlot : String := "vault_master_key_password_slot"

def vaultMasterKeyRecoverySlot : String := "vault_master_key_recovery_slot"

def vaultMasterKeySizeBytes : Nat := 32

def nonceRow (key : String) : String := key ++ "_nonce"

def ciphertextRow (key : String) : String := key ++ "_ciphertext"

/-- `_load_wrapped`: nothing where a row is missing or the key does not open it. -/
def loadWrapped (appMeta : AList (fun _ : String => String)) (key : String) (vaultKey : Bytes) :
    Raises (Option Bytes) :=
  match appMeta.lookup (nonceRow key), appMeta.lookup (ciphertextRow key) with
  | some nonceText, some ciphertextText => do
      let nonce ← asBase64 (.str nonceText)
      let ciphertext ← asBase64 (.str ciphertextText)
      match AesCipher.decrypt crypto nonce ciphertext vaultKey with
      | .ok value => return some value
      | .error exc => if exc.kind = .decryptionError then return none else .error exc
  | _, _ => .ok none

/-- Both rows of a slot. -/
def storeRows (key : String) (nonce ciphertext : Bytes) (database : Database) : Database :=
  { database with
    appMeta := (database.appMeta.insert (nonceRow key) (Base64Text.b64encode nonce)).insert
      (ciphertextRow key) (Base64Text.b64encode ciphertext) }

/-- `_save_wrapped`: both rows in one commit. -/
def saveWrapped (drawn : AesCipher.Nonce) (key : String) (value vaultKey : Bytes) :
    Transaction Unit := do
  let (nonce, ciphertext) ← .lift (AesCipher.encrypt crypto drawn value vaultKey)
  .commit (storeRows key nonce ciphertext)

/-- What is drawn where a Vault Master Key may be created. -/
structure VaultDraws where
  vmk : BytesOf vaultMasterKeySizeBytes
  nonce : AesCipher.Nonce

def loadOrCreateVaultMasterKey (draws : VaultDraws) (vaultKey : Bytes) : Transaction Bytes := do
  let found ← .read fun database =>
    loadWrapped crypto database.appMeta vaultMasterKeyPasswordSlot vaultKey
  match found with
  | some existing => return existing
  | none => do
      saveWrapped crypto draws.nonce vaultMasterKeyPasswordSlot draws.vmk.1 vaultKey
      return draws.vmk.1

def unwrapVaultMasterKeyViaPassword (vaultKey : Bytes) : Transaction (Option Bytes) :=
  .read fun database => loadWrapped crypto database.appMeta vaultMasterKeyPasswordSlot vaultKey

def unwrapVaultMasterKeyViaRecovery (recoveryKey : Bytes) : Transaction (Option Bytes) :=
  .read fun database => loadWrapped crypto database.appMeta vaultMasterKeyRecoverySlot recoveryKey

def wrapVaultMasterKeyForPassword (nonce : AesCipher.Nonce) (vmk vaultKey : Bytes) :
    Transaction Unit :=
  saveWrapped crypto nonce vaultMasterKeyPasswordSlot vmk vaultKey

def wrapVaultMasterKeyForRecovery (nonce : AesCipher.Nonce) (vmk recoveryKey : Bytes) :
    Transaction Unit :=
  saveWrapped crypto nonce vaultMasterKeyRecoverySlot vmk recoveryKey

def establishVaultMasterKey (draws : VaultDraws) (recoveryNonce : AesCipher.Nonce)
    (vaultKey recoveryKey : Bytes) : Transaction Bytes := do
  let vmk ← loadOrCreateVaultMasterKey crypto draws vaultKey
  wrapVaultMasterKeyForRecovery crypto recoveryNonce vmk recoveryKey
  return vmk

/-- What is drawn where protection keys may be created. -/
structure ProtectionKeyDraws where
  vault : VaultDraws
  entropy : ProtectionKeyEntropy
  encryptionNonce : AesCipher.Nonce
  hmacNonce : AesCipher.Nonce

/-- The two keys of these names, or fresh ones where either is missing. -/
def loadOrCreateKeys (encryptionName hmacName : String) (draws : ProtectionKeyDraws)
    (vaultKey : Bytes) : Transaction (Bytes × Bytes) := do
  let vmk ← loadOrCreateVaultMasterKey crypto draws.vault vaultKey
  let encryptionKey ← .read fun database =>
    loadWrapped crypto database.appMeta encryptionName vmk
  let hmacKey ← .read fun database => loadWrapped crypto database.appMeta hmacName vmk
  match encryptionKey, hmacKey with
  | some encryptionKey, some hmacKey => return (encryptionKey, hmacKey)
  | _, _ => do
      saveWrapped crypto draws.encryptionNonce encryptionName draws.entropy.encryptionKey.1 vmk
      saveWrapped crypto draws.hmacNonce hmacName draws.entropy.hmacKey.1 vmk
      return (draws.entropy.encryptionKey.1, draws.entropy.hmacKey.1)

def loadOrCreateMetadataProtectionKeys (draws : ProtectionKeyDraws) (vaultKey : Bytes) :
    Transaction MetadataProtectionKeys := do
  let (encryptionKey, hmacKey) ←
    loadOrCreateKeys crypto metadataEncryptionKey metadataHmacKey draws vaultKey
  return { encryptionKey, hmacKey }

def loadOrCreateTrackingProtectionKeys (draws : ProtectionKeyDraws) (vaultKey : Bytes) :
    Transaction TrackingProtectionKeys := do
  let (encryptionKey, hmacKey) ←
    loadOrCreateKeys crypto trackingEncryptionKey trackingHmacKey draws vaultKey
  return { encryptionKey, hmacKey }

/-! ## Slots -/

/-- The slot holds this key, wrapped under the other one. -/
def Wraps (database : Database) (key : String) (vaultKey value : Bytes) : Prop :=
  value.length = AesCipher.aesKeySizeBytes ∧
  ∃ (drawn : AesCipher.Nonce) (nonce ciphertext : Bytes),
    AesCipher.encrypt crypto drawn value vaultKey = .ok (nonce, ciphertext) ∧
      database.appMeta.lookup (nonceRow key) = some (Base64Text.b64encode nonce) ∧
      database.appMeta.lookup (ciphertextRow key) = some (Base64Text.b64encode ciphertext)

/-- The slot holds the same in both databases. -/
def SameSlot (first second : Database) (key : String) : Prop :=
  first.appMeta.lookup (nonceRow key) = second.appMeta.lookup (nonceRow key) ∧
    first.appMeta.lookup (ciphertextRow key) = second.appMeta.lookup (ciphertextRow key)

/-- The slot is empty, or it holds a key. -/
def SlotWellFormed (database : Database) (key : String) : Prop :=
  database.appMeta.lookup (nonceRow key) = none ∨
    ∃ vaultKey value : Bytes, Wraps crypto database key vaultKey value

variable {crypto : Cryptography} {database first second : Database} {key : String}
  {vaultKey value : Bytes}

theorem nonceRow_injective : Function.Injective nonceRow :=
  fun _ _ same => (String.append_left_inj _).mp same

theorem ciphertextRow_injective : Function.Injective ciphertextRow :=
  fun _ _ same => (String.append_left_inj _).mp same

theorem nonceRow_ne_ciphertextRow (key other : String) : nonceRow key ≠ ciphertextRow other := by
  intro same
  have last := congrArg (fun text => text.toList.getLast?) same
  simp [nonceRow, ciphertextRow] at last

theorem sameSlot_storeRows {stored : String} (different : key ≠ stored) (nonce ciphertext : Bytes)
    (database : Database) :
    SameSlot (storeRows stored nonce ciphertext database) database key := by
  have nonceRows := nonceRow_injective.ne different
  have ciphertextRows := ciphertextRow_injective.ne different
  constructor
  · simp only [storeRows]
    rw [AList.lookup_insert_ne (nonceRow_ne_ciphertextRow _ _), AList.lookup_insert_ne nonceRows]
  · simp only [storeRows]
    rw [AList.lookup_insert_ne ciphertextRows,
      AList.lookup_insert_ne (nonceRow_ne_ciphertextRow _ _).symm]

theorem SameSlot.wraps (same : SameSlot first second key) :
    Wraps crypto first key vaultKey value ↔ Wraps crypto second key vaultKey value := by
  simp only [Wraps, same.1, same.2]

theorem SameSlot.wellFormed (same : SameSlot first second key) :
    SlotWellFormed crypto first key ↔ SlotWellFormed crypto second key := by
  simp only [SlotWellFormed, same.wraps, same.1]

theorem Wraps.load (laws : crypto.AesGcmLaws) (wraps : Wraps crypto database key vaultKey value) :
    loadWrapped crypto database.appMeta key vaultKey = .ok (some value) := by
  obtain ⟨-, drawn, nonce, ciphertext, encrypted, nonceStored, ciphertextStored⟩ := wraps
  have decrypted := AesCipher.decrypt_of_encrypt laws encrypted
  simp [loadWrapped, nonceStored, ciphertextStored, decrypted, pure, Except.pure]

theorem Wraps.load_other (laws : crypto.AesGcmLaws)
    (wraps : Wraps crypto database key vaultKey value) {otherKey : Bytes}
    (different : otherKey ≠ vaultKey) :
    loadWrapped crypto database.appMeta key otherKey = .ok none := by
  obtain ⟨-, drawn, nonce, ciphertext, encrypted, nonceStored, ciphertextStored⟩ := wraps
  cases decrypted : AesCipher.decrypt crypto nonce ciphertext otherKey with
  | ok opened => exact absurd (AesCipher.key_eq_of_decrypt laws encrypted decrypted) different
  | error exc =>
      have raised := AesCipher.decrypt_error decrypted
      simp [loadWrapped, nonceStored, ciphertextStored, decrypted, raised, pure, Except.pure]

theorem SlotWellFormed.load (laws : crypto.AesGcmLaws)
    (wellFormed : SlotWellFormed crypto database key) (vaultKey : Bytes) :
    loadWrapped crypto database.appMeta key vaultKey = .ok none ∨
      ∃ value, loadWrapped crypto database.appMeta key vaultKey = .ok (some value) ∧
        Wraps crypto database key vaultKey value := by
  rcases wellFormed with empty | ⟨held, value, wraps⟩
  · left
    simp [loadWrapped, empty]
  · by_cases same : vaultKey = held
    · subst same
      exact .inr ⟨value, wraps.load laws, wraps⟩
    · exact .inl (wraps.load_other laws same)

theorem Wraps.value_unique (laws : crypto.AesGcmLaws) {other : Bytes}
    (wraps : Wraps crypto database key vaultKey value)
    (otherWraps : Wraps crypto database key vaultKey other) : value = other :=
  Option.some.inj (Except.ok.inj ((wraps.load laws).symm.trans (otherWraps.load laws)))

theorem Wraps.key_unique (laws : crypto.AesGcmLaws) {otherKey other : Bytes}
    (wraps : Wraps crypto database key vaultKey value)
    (otherWraps : Wraps crypto database key otherKey other) : otherKey = vaultKey := by
  by_contra different
  have opened := otherWraps.load laws
  rw [wraps.load_other laws different] at opened
  cases opened

theorem wraps_storeRows {drawn : AesCipher.Nonce} {nonce ciphertext : Bytes}
    (valueSize : value.length = AesCipher.aesKeySizeBytes)
    (encrypted : AesCipher.encrypt crypto drawn value vaultKey = .ok (nonce, ciphertext))
    (database : Database) :
    Wraps crypto (storeRows key nonce ciphertext database) key vaultKey value := by
  refine ⟨valueSize, drawn, nonce, ciphertext, encrypted, ?_, ?_⟩
  · simp only [storeRows]
    rw [AList.lookup_insert_ne (nonceRow_ne_ciphertextRow _ _), AList.lookup_insert]
  · exact AList.lookup_insert _

/-- Both databases hold the same but for the accounts and these slots. -/
structure SameBut (keys : List String) (first second : Database) : Prop where
  fileMetadata : second.fileMetadata = first.fileMetadata
  usageLog : second.usageLog = first.usageLog
  slots : ∀ key, key ∉ keys → SameSlot second first key

theorem SameBut.refl (keys : List String) (database : Database) : SameBut keys database database :=
  ⟨rfl, rfl, fun _ _ => ⟨rfl, rfl⟩⟩

theorem SameBut.trans {keys : List String} {first second third : Database}
    (earlier : SameBut keys first second) (later : SameBut keys second third) :
    SameBut keys first third where
  fileMetadata := later.fileMetadata.trans earlier.fileMetadata
  usageLog := later.usageLog.trans earlier.usageLog
  slots key outside :=
    ⟨(later.slots key outside).1.trans (earlier.slots key outside).1,
      (later.slots key outside).2.trans (earlier.slots key outside).2⟩

theorem SameBut.mono {keys more : List String} {first second : Database}
    (same : SameBut keys first second) (subset : keys ⊆ more) : SameBut more first second :=
  ⟨same.fileMetadata, same.usageLog,
    fun key outside => same.slots key fun inside => outside (subset inside)⟩

theorem saveWrapped_run (total : crypto.EncryptsAll) (drawn : AesCipher.Nonce) (key : String)
    (size : vaultKey.length = AesCipher.aesKeySizeBytes)
    (valueSize : value.length = AesCipher.aesKeySizeBytes) (database : Database) :
    ∃ after, (saveWrapped crypto drawn key value vaultKey).run database = ⟨[after], .ok ()⟩ ∧
      Wraps crypto after key vaultKey value ∧ after.accounts = database.accounts ∧
        SameBut [key] database after := by
  obtain ⟨ciphertext, encrypted⟩ := AesCipher.encrypt_total total drawn value size
  refine ⟨storeRows key drawn.1 ciphertext database, ?_,
    wraps_storeRows valueSize encrypted database, rfl, rfl, rfl, fun other outside => ?_⟩
  · rw [saveWrapped, Committing.run_bind_ok (by rw [Committing.run_lift, encrypted])]
    rfl
  · exact sameSlot_storeRows (by simpa using outside) _ _ _

theorem loadOrCreateVaultMasterKey_held (laws : crypto.AesGcmLaws) (draws : VaultDraws)
    (wraps : Wraps crypto database vaultMasterKeyPasswordSlot vaultKey value) :
    (loadOrCreateVaultMasterKey crypto draws vaultKey).run database = ⟨[], .ok value⟩ := by
  rw [loadOrCreateVaultMasterKey,
    Committing.run_bind_ok (by rw [Committing.run_read, wraps.load laws])]
  rfl

/-- A password slot that does not open is filled anew. -/
theorem loadOrCreateVaultMasterKey_new (total : crypto.EncryptsAll) (draws : VaultDraws)
    (size : vaultKey.length = AesCipher.aesKeySizeBytes)
    (closed : loadWrapped crypto database.appMeta vaultMasterKeyPasswordSlot vaultKey = .ok none) :
    ∃ after, (loadOrCreateVaultMasterKey crypto draws vaultKey).run database =
        ⟨[after], .ok draws.vmk.1⟩ ∧
      Wraps crypto after vaultMasterKeyPasswordSlot vaultKey draws.vmk.1 ∧
      after.accounts = database.accounts ∧
      SameBut [vaultMasterKeyPasswordSlot] database after := by
  obtain ⟨after, ran, wraps, accounts, same⟩ := saveWrapped_run total draws.nonce
    vaultMasterKeyPasswordSlot size draws.vmk.2 database
  refine ⟨after, ?_, wraps, accounts, same⟩
  rw [loadOrCreateVaultMasterKey,
    Committing.run_bind_ok (by rw [Committing.run_read, closed])]
  dsimp only
  rw [Committing.run_bind_commit ran]
  rfl

/-- Both slots of these names hold the keys under the Vault Master Key. -/
structure HoldsKeys (crypto : Cryptography) (database : Database)
    (encryptionName hmacName : String) (vmk : Bytes) (keys : Bytes × Bytes) : Prop where
  encryptionKey : Wraps crypto database encryptionName vmk keys.1
  hmacKey : Wraps crypto database hmacName vmk keys.2

theorem HoldsKeys.unique (laws : crypto.AesGcmLaws) {encryptionName hmacName : String}
    {vmk : Bytes} {keys others : Bytes × Bytes}
    (holds : HoldsKeys crypto database encryptionName hmacName vmk keys)
    (othersHold : HoldsKeys crypto database encryptionName hmacName vmk others) : keys = others :=
  Prod.ext (holds.encryptionKey.value_unique laws othersHold.encryptionKey)
    (holds.hmacKey.value_unique laws othersHold.hmacKey)

theorem SameBut.holdsKeys {keys : List String} (same : SameBut keys first second)
    {encryptionName hmacName : String} (encryptionOutside : encryptionName ∉ keys)
    (hmacOutside : hmacName ∉ keys) {vmk : Bytes} {held : Bytes × Bytes} :
    HoldsKeys crypto second encryptionName hmacName vmk held ↔
      HoldsKeys crypto first encryptionName hmacName vmk held := by
  exact ⟨fun holds => ⟨(same.slots _ encryptionOutside).wraps.mp holds.1,
      (same.slots _ hmacOutside).wraps.mp holds.2⟩,
    fun holds => ⟨(same.slots _ encryptionOutside).wraps.mpr holds.1,
      (same.slots _ hmacOutside).wraps.mpr holds.2⟩⟩

section Loaders

variable {encryptionName hmacName : String} {vmk : Bytes}

theorem loadOrCreateKeys_held (laws : crypto.AesGcmLaws) (draws : ProtectionKeyDraws)
    (opens : Wraps crypto database vaultMasterKeyPasswordSlot vaultKey vmk)
    {keys : Bytes × Bytes} (holds : HoldsKeys crypto database encryptionName hmacName vmk keys) :
    (loadOrCreateKeys crypto encryptionName hmacName draws vaultKey).run database =
      ⟨[], .ok keys⟩ := by
  rw [loadOrCreateKeys,
    Committing.run_bind_ok (loadOrCreateVaultMasterKey_held laws draws.vault opens),
    Committing.run_bind_ok (by rw [Committing.run_read, holds.encryptionKey.load laws]),
    Committing.run_bind_ok (by rw [Committing.run_read, holds.hmacKey.load laws])]
  rfl

/-- Where one of the keys does not open, both are drawn and stored. -/
theorem loadOrCreateKeys_new (laws : crypto.AesGcmLaws) (total : crypto.EncryptsAll)
    (distinct : encryptionName ≠ hmacName) (draws : ProtectionKeyDraws)
    (opens : Wraps crypto database vaultMasterKeyPasswordSlot vaultKey vmk)
    {encryptionKey hmacKey : Option Bytes}
    (encryptionLoaded : loadWrapped crypto database.appMeta encryptionName vmk = .ok encryptionKey)
    (hmacLoaded : loadWrapped crypto database.appMeta hmacName vmk = .ok hmacKey)
    (missing : encryptionKey = none ∨ hmacKey = none) :
    ∃ between after,
      (loadOrCreateKeys crypto encryptionName hmacName draws vaultKey).run database =
          ⟨[between, after],
            .ok (draws.entropy.encryptionKey.1, draws.entropy.hmacKey.1)⟩ ∧
        HoldsKeys crypto after encryptionName hmacName vmk
          (draws.entropy.encryptionKey.1, draws.entropy.hmacKey.1) ∧
        after.accounts = database.accounts ∧
        SameBut [encryptionName, hmacName] database after := by
  obtain ⟨between, firstRan, firstWraps, firstAccounts, firstSame⟩ := saveWrapped_run total
    draws.encryptionNonce encryptionName opens.1 draws.entropy.encryptionKey.2 database
  obtain ⟨after, secondRan, secondWraps, secondAccounts, secondSame⟩ := saveWrapped_run total
    draws.hmacNonce hmacName opens.1 draws.entropy.hmacKey.2 between
  refine ⟨between, after, ?_, ⟨?_, secondWraps⟩, secondAccounts.trans firstAccounts, ?_⟩
  · rw [loadOrCreateKeys,
      Committing.run_bind_ok (loadOrCreateVaultMasterKey_held laws draws.vault opens),
      Committing.run_bind_ok (by rw [Committing.run_read, encryptionLoaded]),
      Committing.run_bind_ok (by rw [Committing.run_read, hmacLoaded])]
    have saved {result : Bytes × Bytes} : (do
        saveWrapped crypto draws.encryptionNonce encryptionName draws.entropy.encryptionKey.1 vmk
        saveWrapped crypto draws.hmacNonce hmacName draws.entropy.hmacKey.1 vmk
        return result : Transaction (Bytes × Bytes)).run database =
          ⟨[between, after], .ok result⟩ := by
      rw [Committing.run_bind_commit firstRan, Committing.run_bind_commit secondRan]
      rfl
    rcases missing with rfl | rfl
    · exact saved
    · cases encryptionKey <;> exact saved
  · exact (secondSame.slots _ (by simpa using distinct)).wraps.mpr firstWraps
  · exact (firstSame.mono (by simp)).trans (secondSame.mono (by simp))

/-- With the key that opens the password slot, the protection keys are the stored
ones, or fresh ones that are stored from now on. -/
theorem loadOrCreateKeys_run (laws : crypto.AesGcmLaws) (total : crypto.EncryptsAll)
    (distinct : encryptionName ≠ hmacName) (draws : ProtectionKeyDraws)
    (opens : Wraps crypto database vaultMasterKeyPasswordSlot vaultKey vmk)
    (encryptionSlot : SlotWellFormed crypto database encryptionName)
    (hmacSlot : SlotWellFormed crypto database hmacName) :
    ∃ keys commits after,
      (loadOrCreateKeys crypto encryptionName hmacName draws vaultKey).run database =
          ⟨commits, .ok keys⟩ ∧
        commits.getLast?.getD database = after ∧
        HoldsKeys crypto after encryptionName hmacName vmk keys ∧
        after.accounts = database.accounts ∧
        SameBut [encryptionName, hmacName] database after ∧
        ∀ held, HoldsKeys crypto database encryptionName hmacName vmk held → keys = held := by
  have renewed {encryptionKey hmacKey : Option Bytes}
      (encryptionLoaded :
        loadWrapped crypto database.appMeta encryptionName vmk = .ok encryptionKey)
      (hmacLoaded : loadWrapped crypto database.appMeta hmacName vmk = .ok hmacKey)
      (missing : encryptionKey = none ∨ hmacKey = none) :
      ∃ keys commits after,
        (loadOrCreateKeys crypto encryptionName hmacName draws vaultKey).run database =
            ⟨commits, .ok keys⟩ ∧
          commits.getLast?.getD database = after ∧
          HoldsKeys crypto after encryptionName hmacName vmk keys ∧
          after.accounts = database.accounts ∧
          SameBut [encryptionName, hmacName] database after ∧
          ∀ held, HoldsKeys crypto database encryptionName hmacName vmk held → keys = held := by
    obtain ⟨between, after, ran, holds, accounts, same⟩ :=
      loadOrCreateKeys_new laws total distinct draws opens encryptionLoaded hmacLoaded missing
    refine ⟨_, _, after, ran, rfl, holds, accounts, same, fun held heldBefore => ?_⟩
    -- A slot that gave nothing held nothing.
    rw [heldBefore.encryptionKey.load laws] at encryptionLoaded
    rw [heldBefore.hmacKey.load laws] at hmacLoaded
    rcases missing with rfl | rfl
    · cases encryptionLoaded
    · cases hmacLoaded
  rcases encryptionSlot.load laws vmk with closed | ⟨encryptionKey, loaded, wraps⟩
  · rcases hmacSlot.load laws vmk with hmacClosed | ⟨hmacKey, hmacLoaded, -⟩
    · exact renewed closed hmacClosed (.inl rfl)
    · exact renewed closed hmacLoaded (.inl rfl)
  · rcases hmacSlot.load laws vmk with hmacClosed | ⟨hmacKey, hmacLoaded, hmacWraps⟩
    · exact renewed loaded hmacClosed (.inr rfl)
    · have holds : HoldsKeys crypto database encryptionName hmacName vmk
          (encryptionKey, hmacKey) := ⟨wraps, hmacWraps⟩
      exact ⟨_, [], database, loadOrCreateKeys_held laws draws opens holds, rfl, holds, rfl,
        SameBut.refl _ _, fun held others => holds.unique laws others⟩

/-- The keys are loaded with this vault key: it opens the password slot to a Vault
Master Key that both keys are stored under.  What it opened before, it keeps. -/
structure LoadsKeys (crypto : Cryptography) (encryptionName hmacName : String) (vaultKey : Bytes)
    (before after : Database) (keys : Bytes × Bytes) : Prop where
  opens : ∃ vmk, Wraps crypto after vaultMasterKeyPasswordSlot vaultKey vmk ∧
    HoldsKeys crypto after encryptionName hmacName vmk keys
  accounts : after.accounts = before.accounts
  same : SameBut [vaultMasterKeyPasswordSlot, encryptionName, hmacName] before after
  kept : ∀ vmk, Wraps crypto before vaultMasterKeyPasswordSlot vaultKey vmk →
    SameBut [encryptionName, hmacName] before after ∧
      ∀ held, HoldsKeys crypto before encryptionName hmacName vmk held → keys = held

/-- With any vault key the protection keys are loaded.  One that does not open the
password slot fills it anew. -/
theorem loadOrCreateKeys_loads (laws : crypto.AesGcmLaws) (total : crypto.EncryptsAll)
    (distinct : encryptionName ≠ hmacName)
    (apart : vaultMasterKeyPasswordSlot ∉ [encryptionName, hmacName])
    (draws : ProtectionKeyDraws) (size : vaultKey.length = AesCipher.aesKeySizeBytes)
    (passwordSlot : SlotWellFormed crypto database vaultMasterKeyPasswordSlot)
    (encryptionSlot : SlotWellFormed crypto database encryptionName)
    (hmacSlot : SlotWellFormed crypto database hmacName) :
    ∃ keys commits after,
      (loadOrCreateKeys crypto encryptionName hmacName draws vaultKey).run database =
          ⟨commits, .ok keys⟩ ∧
        commits.getLast?.getD database = after ∧
        LoadsKeys crypto encryptionName hmacName vaultKey database after keys := by
  rcases passwordSlot.load laws vaultKey with closed | ⟨vmk, -, wraps⟩
  · obtain ⟨slot, created, wraps, slotAccounts, slotSame⟩ :=
      loadOrCreateVaultMasterKey_new total draws.vault size closed
    have outside := apart
    simp only [List.mem_cons, List.not_mem_nil, or_false, not_or] at outside
    have encryptionSame := slotSame.slots encryptionName (by simpa using Ne.symm outside.1)
    have hmacSame := slotSame.slots hmacName (by simpa using Ne.symm outside.2)
    obtain ⟨keys, commits, after, ran, final, holds, accounts, same, -⟩ := loadOrCreateKeys_run
      laws total distinct draws wraps (encryptionSame.wellFormed.mpr encryptionSlot)
      (hmacSame.wellFormed.mpr hmacSlot)
    have reopened := loadOrCreateVaultMasterKey_held laws draws.vault wraps
    rw [loadOrCreateKeys, Committing.run_bind_ok reopened] at ran
    refine ⟨keys, slot :: commits, after, ?_, ?_, ?_⟩
    · rw [loadOrCreateKeys, Committing.run_bind_commit created, ran]
      rfl
    · rw [← final, List.getLast?_cons]
      rfl
    · exact {
        opens := ⟨_, (same.slots _ apart).wraps.mpr wraps, holds⟩
        accounts := accounts.trans slotAccounts
        same := (slotSame.mono (by simp)).trans (same.mono (by simp))
        kept := fun _ opened => nomatch (opened.load laws).symm.trans closed }
  · obtain ⟨keys, commits, after, ran, final, holds, accounts, same, unique⟩ :=
      loadOrCreateKeys_run laws total distinct draws wraps encryptionSlot hmacSlot
    refine ⟨keys, commits, after, ran, final, ⟨vmk, (same.slots _ apart).wraps.mpr wraps, holds⟩,
      accounts, same.mono (by simp), fun other opened => ⟨same, ?_⟩⟩
    obtain rfl := wraps.value_unique laws opened
    exact unique

end Loaders

end ProtectionKeys

end CryptoUsb
