import CryptoUsb.DeviceRebind
import CryptoUsb.ScopedHandles
import CryptoUsb.SecureAccess

/-!
# The lifetimes of keys and plaintext buffers

`SecureBytes` and `ManagedKey` objects live on a heap, and the operations that create them are
run step by step.  Each of them ends as its model without a heap does, and when it has ended
every object it created is destroyed and zeroed.
-/

namespace CryptoUsb

open ByteString ScopedHandles

/-! ## The objects -/

/-- A buffer that was destroyed holds nothing but zeros. -/
structure SecureBytes where
  buffer : Bytes
  isDestroyed : Bool
  zeroed : isDestroyed = true → ∀ byte ∈ buffer, byte = 0

namespace SecureBytes

/-- `SecureBytes(data)`. -/
def new (data : Bytes) : SecureBytes :=
  ⟨data, false, nofun⟩

/-- `bytes(secure)`. -/
def bytes (secure : SecureBytes) : Raises Bytes :=
  if secure.isDestroyed then
    raise .keyDestroyedError "Key material has already been destroyed"
  else .ok secure.buffer

/-- `destroy`: every byte is overwritten. -/
def destroy (secure : SecureBytes) : SecureBytes :=
  if secure.isDestroyed then secure
  else ⟨secure.buffer.map fun _ => 0, true, by simp⟩

theorem isDestroyed_destroy (secure : SecureBytes) : secure.destroy.isDestroyed = true := by
  unfold destroy
  split_ifs with already
  · exact already
  · rfl

theorem destroy_of_isDestroyed {secure : SecureBytes} (already : secure.isDestroyed = true) :
    secure.destroy = secure :=
  if_pos already

end SecureBytes

inductive KeyState
  | active
  | destroyed
  deriving DecidableEq, Repr

/-- A key that was destroyed has destroyed its buffer. -/
structure ManagedKey where
  secure : SecureBytes
  state : KeyState
  coherent : state = .destroyed → secure.isDestroyed = true

namespace ManagedKey

/-- `ManagedKey(key_material)`. -/
def new (keyMaterial : Bytes) : ManagedKey :=
  ⟨.new keyMaterial, .active, nofun⟩

def material (key : ManagedKey) : Raises Bytes :=
  match key.state with
  | .destroyed => raise .keyDestroyedError "Cannot access destroyed key material"
  | .active => key.secure.bytes

def destroy (key : ManagedKey) : ManagedKey :=
  match key.state with
  | .destroyed => key
  | .active => ⟨key.secure.destroy, .destroyed, fun _ => key.secure.isDestroyed_destroy⟩

theorem state_destroy (key : ManagedKey) : key.destroy.state = .destroyed := by
  unfold destroy
  split
  next already => exact already
  next => rfl

theorem destroy_of_destroyed {key : ManagedKey} (already : key.state = .destroyed) :
    key.destroy = key := by
  unfold destroy
  rw [already]

end ManagedKey

/-- What an operation keeps secrets in; the buffer of a deep verification is a `bytearray`. -/
inductive Secret
  | secureBytes (secure : SecureBytes)
  | managedKey (key : ManagedKey)
  | bytearray (buffer : Bytes)

namespace Secret

/-- `destroy()`, or the loop that overwrites a `bytearray`. -/
def clear : Secret → Secret
  | .secureBytes secure => .secureBytes secure.destroy
  | .managedKey key => .managedKey key.destroy
  | .bytearray buffer => .bytearray (buffer.map fun _ => 0)

def Destroyed : Secret → Prop
  | .secureBytes secure => secure.isDestroyed = true ∧ ∀ byte ∈ secure.buffer, byte = 0
  | .managedKey key => key.state = .destroyed ∧ key.secure.isDestroyed = true ∧
      ∀ byte ∈ key.secure.buffer, byte = 0
  | .bytearray buffer => ∀ byte ∈ buffer, byte = 0

theorem destroyed_clear (secret : Secret) : secret.clear.Destroyed := by
  cases secret with
  | secureBytes secure =>
      have destroyed := secure.isDestroyed_destroy
      exact ⟨destroyed, secure.destroy.zeroed destroyed⟩
  | managedKey key =>
      have destroyed := key.destroy.coherent key.state_destroy
      exact ⟨key.state_destroy, destroyed, key.destroy.secure.zeroed destroyed⟩
  | bytearray buffer => simp [clear, Destroyed]

theorem clear_of_destroyed (secret : Secret) (destroyed : secret.Destroyed) :
    secret.clear = secret := by
  cases secret with
  | secureBytes secure => rw [clear, SecureBytes.destroy_of_isDestroyed destroyed.1]
  | managedKey key => rw [clear, ManagedKey.destroy_of_destroyed destroyed.1]
  | bytearray buffer =>
      rw [clear, List.map_congr_left (g := id) fun byte member => (destroyed byte member).symm,
        List.map_id]

def isLive : Secret → Bool
  | .secureBytes secure => !secure.isDestroyed
  | .managedKey key => key.state = .active && !key.secure.isDestroyed
  | .bytearray _ => true

def disposal : Disposal Secret where
  clear := clear
  Cleared := Destroyed
  cleared_clear := destroyed_clear
  clear_of_cleared := clear_of_destroyed

end Secret

abbrev SecretCode (α : Type) := HandleCode Secret PyError α

/-- Code of a caller that is handed a buffer: it uses the objects through their methods. -/
abbrev SecretClient (α : Type) :=
  @ClientCode Secret Secret.disposal PyError α

/-! ## The operations on the heap -/

namespace SecretCode

/-- `key.material()`. -/
def material (key : Nat) : SecretCode Bytes :=
  .read key Secret.isLive fun
    | some (.managedKey key) => key.material
    | _ => raise .attributeError "material"

/-- `destroy()`. -/
def destroy (handle : Nat) : SecretCode Unit :=
  .change handle Secret.clear

/-- `KeyManager.generate_fek`. -/
def generateFek (fek : BytesOf AesCipher.aesKeySizeBytes) : SecretCode Nat :=
  .create .operation (.managedKey (.new fek.1))

/-- `KeyManager.wrap_key`. -/
def wrapKey (fek : Nat) (wrapper : KeyWrapper) (entropy : WrapEntropy) : SecretCode Bytes := do
  let keyMaterial ← material fek
  .lift (wrapper.wrap entropy keyMaterial)

/-- `KeyManager.unwrap_key`. -/
def unwrapKey (wrapped : Bytes) (wrapper : KeyWrapper) : SecretCode Nat := do
  let keyMaterial ← .lift (wrapper.unwrap wrapped)
  .create .operation (.managedKey (.new keyMaterial))

/-- `FileEncryptor.encrypt_bytes`. -/
def encryptBytes (crypto : Cryptography) (entropy : EncryptEntropy) (plaintext : Bytes)
    (wrapper : KeyWrapper) : SecretCode EncryptedContainer := do
  let fek ← generateFek entropy.fek
  let (nonce, ciphertext, wrappedKey) ← .ensuring
    (do
      let keyMaterial ← material fek
      let (nonce, ciphertext) ← .lift (AesCipher.encrypt crypto entropy.nonce plaintext keyMaterial)
      let wrappedKey ← wrapKey fek wrapper entropy.wrap
      return (nonce, ciphertext, wrappedKey))
    (destroy fek)
  return { wrapAlgorithm := wrapper.algorithm, wrappedKey, nonce, ciphertext }

/-- `FileEncryptor.decrypt_bytes`. -/
def decryptBytes (crypto : Cryptography) (container : EncryptedContainer) (wrapper : KeyWrapper) :
    SecretCode Bytes := do
  let fek ← unwrapKey container.wrappedKey wrapper
  .ensuring
    (do
      let keyMaterial ← material fek
      .lift (AesCipher.decrypt crypto container.nonce container.ciphertext keyMaterial))
    (destroy fek)

/-- The `with` block of `open_decrypted`: its body receives the buffer. -/
def withBuffer {α : Type} (plaintext : Bytes) (body : Nat → SecretClient α) : SecretCode α := do
  let buffer ← .create .operation (.secureBytes (.new plaintext))
  .ensuring (body buffer).code (destroy buffer)

/-- `SecureDecryptor.open_decrypted`, with the body of its `with` block. -/
def openDecrypted {α : Type} (crypto : Cryptography) (container : EncryptedContainer)
    (wrapper : KeyWrapper) (body : Nat → SecretClient α) : SecretCode α := do
  let plaintext ← decryptBytes crypto container wrapper
  withBuffer plaintext body

/-- `SecureBytes(data).destroy()`. -/
def wipe (data : Bytes) : SecretCode Unit := do
  let secure ← .create .operation (.secureBytes (.new data))
  destroy secure

/-- The record that a burn writes; the session's keys are wiped on the way. -/
def burnedRecord (crypto : Cryptography) (metadata : FileMetadata) (keyWrapper : KeyWrapper)
    (sessionKeys : MetadataProtectionKeys) (entropy : BurnEntropy) :
    SecretCode ProtectedMetadata := do
  if !metadata.usagePolicy.oneTimeAccess then
    .lift (raise .valueError
      s!"file_id={metadata.fileId} is not marked for one-time access; refusing to burn it")
  else
    let decoyFek ← generateFek entropy.decoyFek
    let decoyWrapped ← .ensuring (wrapKey decoyFek keyWrapper entropy.wrap) (destroy decoyFek)
    wipe sessionKeys.encryptionKey
    wipe sessionKeys.hmacKey
    .lift (MetadataProtector.protect crypto (generateProtectionKeys entropy.keys) entropy.nonce
      (OneTimeAccessEnforcer.burned metadata decoyWrapped))

/-- `OneTimeAccessEnforcer.burn`; its result says what it raised. -/
def burn (crypto : Cryptography) (disk : Disk) (repositories : List Repository)
    (metadata : FileMetadata) (keyWrapper : KeyWrapper) (sessionKeys : MetadataProtectionKeys)
    (entropy : BurnEntropy) (faults : SaveFaults) :
    SecretCode OneTimeAccessEnforcer.BurnResult := do
  let made ← (burnedRecord crypto metadata keyWrapper sessionKeys entropy).reify
  match made with
  | .error exc => return ⟨disk, repositories, [], .error exc⟩
  | .ok stored =>
      let saved := OneTimeAccessEnforcer.saveAll crypto stored entropy.temporary faults 0 disk
        repositories
      return ⟨saved.disk, saved.repositories, saved.saves,
        saved.outcome.map fun _ => generateProtectionKeys entropy.keys⟩

section Rebind

variable (crypto : Cryptography) (serialization : KeySerialization RSAPrivateKey RSAPublicKey)
  (probes : HostProbes) (request : RebindRequest) (entropy : RebindEntropy)

/-- The key wrapped for the new device. -/
def rewrappedKey : SecretCode Bytes := do
  let metadata := request.metadata
  if !metadata.deviceBinding.bound then
    .lift (raise .valueError
      s!"file_id={metadata.fileId} is not bound to any device; nothing to rebind")
  else
    let privateKey ← .lift (KeyAuthenticator.loadPrivateKey serialization request.privateKeyPem
      request.passphrase)
    let keyWrapper := privateKey.keyWrapper
    let effectiveWrapper ← .lift
      (DeviceRebindService.effectiveWrapper crypto probes request keyWrapper)
    let fek ← unwrapKey metadata.wrappedKey effectiveWrapper
    .ensuring
      (wrapKey fek (deviceWrapper crypto probes request.newDevice
        metadata.deviceBinding.machineFingerprint keyWrapper) entropy.wrap)
      (destroy fek)

/-- `DeviceRebindService.rebind`; its result says what it raised. -/
def rebind (disk : Disk) (repositories : List Repository) (faults : SaveFaults) :
    SecretCode RebindResult := do
  let rewrapped ← (rewrappedKey crypto serialization probes request entropy).reify
  match rewrapped with
  | .error exc => return ⟨request.metadata, disk, repositories, [], .error exc⟩
  | .ok wrappedKey =>
      let metadata := DeviceRebindService.rebound probes request wrappedKey
      match MetadataProtector.protect crypto request.protectionKeys entropy.nonce metadata with
      | .error exc => return ⟨metadata, disk, repositories, [], .error exc⟩
      | .ok stored =>
          let saved := OneTimeAccessEnforcer.saveAll crypto stored entropy.temporary faults 0
            disk repositories
          return ⟨metadata, saved.disk, saved.repositories, saved.saves, saved.outcome⟩

end Rebind

/-- `try: ... except caught as exc: raise raised(text + exc)`. -/
def reraisingAs {α : Type} (caught raised : ErrorClass) (text : String) (code : SecretCode α) :
    SecretCode α :=
  code.rescue fun exc =>
    .lift (if exc.kind = caught then raise raised (text ++ exc.message) else .error exc)

/-- The `with` block of a deep verification: the plaintext in a `bytearray` that outlives the
key. -/
def decryptToArray (crypto : Cryptography) (container : EncryptedContainer) (fek : Nat) :
    SecretCode Nat :=
  .ensuring
    (do
      let keyMaterial ← material fek
      let plaintext ←
        .lift (AesCipher.decrypt crypto container.nonce container.ciphertext keyMaterial)
      .create .operation (.bytearray plaintext))
    (destroy fek)

/-- `verify_container_deep`. -/
def verifyContainerDeep (crypto : Cryptography) (container : SecureContainer)
    (keyWrapper : KeyWrapper) (keys : MetadataProtectionKeys) : SecretCode Bool := do
  let fek ← reraisingAs .keyUnwrappingError .containerVerificationError
    "Deep verification failed: could not unwrap key: "
    (unwrapKey container.fileContainer.wrappedKey keyWrapper)
  let plaintext ← reraisingAs .decryptionError .containerVerificationError
    "Deep verification failed: file ciphertext did not decrypt/authenticate: "
    (decryptToArray crypto container.fileContainer fek)
  destroy plaintext
  let _ ← .lift (reraiseAs .metadataTamperError .containerVerificationError
    "Deep verification failed: metadata tamper check failed: "
    (MetadataProtector.unprotect crypto keys container.protectedMetadata))
  return true

section Attempt

open SecureAccessService

variable (crypto : Cryptography) (service : SecureAccessService) (disk : Disk)
  (request : AccessRequest) (draws : AccessDraws)

/-- What follows a view that returned. -/
def finished (metadata : FileMetadata) (wrapper : KeyWrapper) (view : View)
    (session : Option UsageRecord) : SecretCode AccessResult := do
  let granted (keys : MetadataProtectionKeys) : AccessOutcome :=
    { granted := true, fileId := request.fileId, protectionKeys := some keys, session }
  if metadata.usagePolicy.oneTimeAccess then
    let burn ← burn crypto disk service.repositories metadata wrapper request.protectionKeys
      draws.burn draws.saveFaults
    match burn.outcome with
    | .error exc =>
        return {
          outcome := .error exc
          repositories := burn.repositories
          throttle := service.throttle
          disk := burn.disk
          deceptions := []
          views := [view]
          saves := burn.saves }
    | .ok newKeys =>
        return {
          outcome := .ok (granted newKeys)
          repositories := burn.repositories
          throttle := service.throttle
          disk := deleteContainer request draws burn.disk
          deceptions := []
          views := [view]
          saves := burn.saves }
  else
    return { settled service disk (.ok (granted request.protectionKeys)) with views := [view] }

/-- The view of a decrypted buffer by `on_granted`. -/
def viewed (onGranted : Nat → FileMetadata → SecretClient Unit) (metadata : FileMetadata)
    (wrapper : KeyWrapper) (plaintext : Bytes) (session : Option UsageRecord) :
    SecretCode AccessResult := do
  let returned ← (withBuffer plaintext fun buffer => onGranted buffer metadata).reify
  let view : View := ⟨plaintext, metadata, returned⟩
  match returned with
  | .ok () => finished crypto service disk request draws metadata wrapper view session
  | .error exc =>
      if exc.isDecryptFailure then
        return { deceived service disk request .accessAlreadyUsed session with views := [view] }
      else return { settled service disk (.error exc) with views := [view] }

/-- What follows a validation that passed. -/
def admitted (onGranted : Nat → FileMetadata → SecretClient Unit) (metadata : FileMetadata)
    (session : Option UsageRecord) : SecretCode AccessResult :=
  match EncryptedContainer.deserialize request.encryptedFileBytes with
  | .error exc => return settled service disk (.error exc)
  | .ok container => do
      let wrapper := effectiveWrapper crypto request.keyWrapper metadata.deviceBinding
        request.identity
      let session := session.map fun record => { record with openTime := some draws.openClock.1 }
      let decrypted ← (decryptBytes crypto
        { container with wrappedKey := metadata.wrappedKey } wrapper).reify
      match decrypted with
      | .error exc =>
          if exc.isDecryptFailure then
            return deceived service disk request .accessAlreadyUsed session
          else return settled service disk (.error exc)
      | .ok plaintext =>
          viewed crypto service disk request draws onGranted metadata wrapper plaintext session

/-- An attempt on a file that is not throttled. -/
def validated (onGranted : Nat → FileMetadata → SecretClient Unit) : SecretCode AccessResult :=
  let session := startSession service request draws
  match service.repository with
  | none => do
      return settled service disk (raise .attributeError "'NoneType' object has no attribute 'load'")
  | some repository =>
      match ValidationEngine.validate crypto repository request.protectionKeys
          draws.validationClock.1 request.fileId request.encryptedFileBytes request.identity with
      | .error exc => return settled service disk (.error exc)
      | .ok report =>
          if report.report.ok = false then
            return rejected service disk request draws report.report session
          else
            let service := admittedService service request
            match report.metadata with
            | none => return settled service disk (raise .assertionError "")
            | some metadata =>
                admitted crypto service disk request draws onGranted metadata
                  (session.map fun record => { record with validationResult := some true })

/-- `SecureAccessService.attempt_access`, with `on_granted` in place of the request's; its
result says what it raised. -/
def attemptAccess (onGranted : Nat → FileMetadata → SecretClient Unit) :
    SecretCode AccessResult :=
  if request.forceDeception then
    return deceived service disk request .wrongCredentials none
  else if service.throttle.isLocked draws.throttleClock request.fileId then
    return deceived service disk request .deviceMismatch none
  else validated crypto service disk request draws onGranted

end Attempt

/-! ## Every operation ends as its model does, and tidily -/

section Rules

variable {Value Result : Type} {heap : Heap Secret} {next : Bytes → SecretCode Result}
  {result : Raises Result} {pending : Set Nat}

theorem runs_material_bind {handle : Nat} {keyMaterial : Bytes}
    (found : heap.entries[handle]? = some ⟨.operation, .managedKey (.new keyMaterial)⟩)
    (rest : ∀ after, after.entries = heap.entries →
      Runs Secret.disposal (next keyMaterial) after result pending) :
    Runs Secret.disposal (material handle >>= next) heap result pending :=
  .read_bind found rfl rfl rest

theorem runs_wrapKey {handle : Nat} {keyMaterial : Bytes}
    (found : heap.entries[handle]? = some ⟨.operation, .managedKey (.new keyMaterial)⟩)
    (wrapper : KeyWrapper) (entropy : WrapEntropy) :
    Runs Secret.disposal (wrapKey handle wrapper entropy) heap (wrapper.wrap entropy keyMaterial)
      ∅ :=
  runs_material_bind found fun after _ => .lift _ after

theorem key_found (heap : Heap Secret) (keyMaterial : Bytes) :
    (heap.push .operation (.managedKey (.new keyMaterial))).entries[heap.entries.length]? =
      some ⟨.operation, .managedKey (.new keyMaterial)⟩ :=
  heap.push_self _ _

theorem runs_unwrapped {wrapped : Bytes} {wrapper : KeyWrapper} {body : Nat → SecretCode Value}
    {outcome : Bytes → Raises Value}
    (inside : ∀ keyMaterial, wrapper.unwrap wrapped = .ok keyMaterial →
      Runs Secret.disposal (body heap.entries.length)
        (heap.push .operation (.managedKey (.new keyMaterial))) (outcome keyMaterial) ∅) :
    Runs Secret.disposal (do
      let fek ← unwrapKey wrapped wrapper
      .ensuring (body fek) (destroy fek)) heap (wrapper.unwrap wrapped >>= outcome) ∅ := by
  rw [unwrapKey, HandleCode.bind_assoc]
  exact .lift_bind fun keyMaterial unwrapped => .scope (inside keyMaterial unwrapped)

end Rules

theorem encryptBytes_runs (crypto : Cryptography) (entropy : EncryptEntropy) (plaintext : Bytes)
    (wrapper : KeyWrapper) (heap : Heap Secret) :
    Runs Secret.disposal (encryptBytes crypto entropy plaintext wrapper) heap
      (FileEncryptor.encryptBytes crypto entropy plaintext wrapper) ∅ := by
  have encrypted : Runs Secret.disposal
      (do
        let fek ← generateFek entropy.fek
        .ensuring
          (do
            let keyMaterial ← material fek
            let (nonce, ciphertext) ←
              .lift (AesCipher.encrypt crypto entropy.nonce plaintext keyMaterial)
            let wrappedKey ← wrapKey fek wrapper entropy.wrap
            return (nonce, ciphertext, wrappedKey))
          (destroy fek)) heap
      (do
        let (nonce, ciphertext) ← AesCipher.encrypt crypto entropy.nonce plaintext entropy.fek.1
        let wrappedKey ← wrapper.wrap entropy.wrap entropy.fek.1
        return (nonce, ciphertext, wrappedKey)) ∅ := by
    refine .scope (runs_material_bind (key_found heap entropy.fek.1) fun after sameEntries => ?_)
    refine .lift_bind fun written _ => .bind (runs_wrapKey ?_ wrapper entropy.wrap) ?_
    · rw [sameEntries]
      exact key_found heap entropy.fek.1
    · intro wrappedKey _ last _
      exact .pure _ last
  have outcome : FileEncryptor.encryptBytes crypto entropy plaintext wrapper = (do
      let (nonce, ciphertext) ← AesCipher.encrypt crypto entropy.nonce plaintext entropy.fek.1
      let wrappedKey ← wrapper.wrap entropy.wrap entropy.fek.1
      return (nonce, ciphertext, wrappedKey)) >>= fun (nonce, ciphertext, wrappedKey) =>
        .ok { wrapAlgorithm := wrapper.algorithm, wrappedKey, nonce, ciphertext } := by
    simp only [FileEncryptor.encryptBytes, bind_assoc, pure_bind]
    rfl
  rw [outcome, encryptBytes, ← HandleCode.bind_assoc]
  exact encrypted.bind fun written _ after _ => .pure _ after

theorem decryptBytes_runs (crypto : Cryptography) (container : EncryptedContainer)
    (wrapper : KeyWrapper) (heap : Heap Secret) :
    Runs Secret.disposal (decryptBytes crypto container wrapper) heap
      (FileEncryptor.decryptBytes crypto container wrapper) ∅ :=
  runs_unwrapped fun keyMaterial _ =>
    runs_material_bind (key_found heap keyMaterial) fun after _ => .lift _ after

theorem withBuffer_runs {α : Type} (plaintext : Bytes) (body : Nat → SecretClient α)
    (heap : Heap Secret) :
    ∃ returned, Runs Secret.disposal (withBuffer plaintext body) heap returned ∅ :=
  ⟨_, .scope (.client (body heap.entries.length) _)⟩

theorem openDecrypted_runs {α : Type} (crypto : Cryptography) (container : EncryptedContainer)
    (wrapper : KeyWrapper) (body : Nat → SecretClient α) (heap : Heap Secret) :
    ∃ returned : Raises α, Runs Secret.disposal (openDecrypted crypto container wrapper body) heap
      (FileEncryptor.decryptBytes crypto container wrapper >>= fun _ => returned) ∅ := by
  have decrypted := decryptBytes_runs crypto container wrapper heap
  cases outcome : FileEncryptor.decryptBytes crypto container wrapper with
  | error exc =>
      rw [outcome] at decrypted
      exact ⟨.error exc, decrypted.bind_error⟩
  | ok plaintext =>
      rw [outcome] at decrypted
      exact decrypted.bind_exists fun after => withBuffer_runs plaintext body after

theorem wipe_runs (data : Bytes) (heap : Heap Secret) :
    Runs Secret.disposal (wipe data) heap (.ok ()) ∅ :=
  .bind_clear (.create heap _) fun after _ => .pure () after

theorem burnedRecord_runs (crypto : Cryptography) (metadata : FileMetadata)
    (keyWrapper : KeyWrapper) (sessionKeys : MetadataProtectionKeys) (entropy : BurnEntropy)
    (heap : Heap Secret) :
    Runs Secret.disposal (burnedRecord crypto metadata keyWrapper sessionKeys entropy) heap
      (OneTimeAccessEnforcer.burnedRecord crypto metadata keyWrapper entropy) ∅ := by
  unfold burnedRecord OneTimeAccessEnforcer.burnedRecord
  split_ifs
  · exact .lift _ heap
  · rw [← HandleCode.bind_assoc]
    refine .bind (.scope (runs_wrapKey (key_found heap _) keyWrapper entropy.wrap)) ?_
    intro decoyWrapped _ after _
    exact (wipe_runs _ after).bind_ok fun _ => (wipe_runs _ _).bind_ok fun last => .lift _ last

theorem burn_runs (crypto : Cryptography) (disk : Disk) (repositories : List Repository)
    (metadata : FileMetadata) (keyWrapper : KeyWrapper) (sessionKeys : MetadataProtectionKeys)
    (entropy : BurnEntropy) (faults : SaveFaults) (heap : Heap Secret) :
    Runs Secret.disposal
      (burn crypto disk repositories metadata keyWrapper sessionKeys entropy faults) heap
      (.ok (OneTimeAccessEnforcer.burn crypto disk repositories metadata keyWrapper entropy
        faults)) ∅ := by
  have made := (burnedRecord_runs crypto metadata keyWrapper sessionKeys entropy heap).reify
  refine made.bind_ok fun after => ?_
  unfold OneTimeAccessEnforcer.burn
  cases OneTimeAccessEnforcer.burnedRecord crypto metadata keyWrapper entropy with
  | error exc => exact .pure _ after
  | ok stored => exact .pure _ after

section Rebind

variable (crypto : Cryptography) (serialization : KeySerialization RSAPrivateKey RSAPublicKey)
  (probes : HostProbes) (request : RebindRequest) (entropy : RebindEntropy)

theorem rewrappedKey_runs (heap : Heap Secret) :
    Runs Secret.disposal (rewrappedKey crypto serialization probes request entropy) heap
      (DeviceRebindService.rewrappedKey crypto serialization probes request entropy) ∅ := by
  unfold rewrappedKey DeviceRebindService.rewrappedKey
  dsimp only
  split_ifs
  · exact .lift _ heap
  · refine .lift_bind fun privateKey _ => .lift_bind fun wrapper _ => ?_
    exact runs_unwrapped fun keyMaterial _ =>
      runs_wrapKey (key_found heap keyMaterial) _ entropy.wrap

theorem rebind_runs (disk : Disk) (repositories : List Repository) (faults : SaveFaults)
    (heap : Heap Secret) :
    Runs Secret.disposal
      (rebind crypto serialization probes request entropy disk repositories faults) heap
      (.ok (DeviceRebindService.rebind crypto serialization probes request entropy disk
        repositories faults)) ∅ := by
  have rewrapped := (rewrappedKey_runs crypto serialization probes request entropy heap).reify
  refine rewrapped.bind_ok fun after => ?_
  unfold DeviceRebindService.rebind
  cases DeviceRebindService.rewrappedKey crypto serialization probes request entropy with
  | error exc => exact .pure _ after
  | ok wrappedKey =>
      dsimp only
      cases MetadataProtector.protect crypto request.protectionKeys entropy.nonce
          (DeviceRebindService.rebound probes request wrappedKey) with
      | error exc => exact .pure _ after
      | ok stored => exact .pure _ after

end Rebind

theorem reraiseAs_error {α : Type} (caught raised : ErrorClass) (text : String) (exc : PyError) :
    reraiseAs caught raised text (.error exc : Raises α) =
      .error (if exc.kind = caught then ⟨raised, text ++ exc.message⟩ else exc) := by
  by_cases same : exc.kind = caught <;> simp [reraiseAs, raise, same]

theorem reraisingAs_runs {α : Type} {code : SecretCode α} {heap : Heap Secret}
    {outcome : Raises α} {pending : Set Nat} (caught raised : ErrorClass) (text : String)
    (ended : Runs Secret.disposal code heap outcome pending) :
    Runs Secret.disposal (reraisingAs caught raised text code) heap
      (reraiseAs caught raised text outcome) pending := by
  have handled := ended.rescue fun exc =>
    if exc.kind = caught then raise raised (text ++ exc.message) else .error exc
  cases outcome with
  | ok value => exact handled
  | error exc => exact handled

/-- A block that raises leaves nothing; one that returns leaves its `bytearray` to be
cleared. -/
theorem decryptToArray_runs (crypto : Cryptography) (container : EncryptedContainer)
    (keyMaterial : Bytes) (heap : Heap Secret) :
    let block : SecretCode Nat := do
      let fek ← .create .operation (.managedKey (.new keyMaterial))
      decryptToArray crypto container fek
    match AesCipher.decrypt crypto container.nonce container.ciphertext keyMaterial with
    | .error exc => Runs Secret.disposal block heap (.error exc) ∅
    | .ok _ => ∃ handle, Runs Secret.disposal block heap (.ok handle) {handle} := by
  dsimp only
  cases decrypted :
      AesCipher.decrypt crypto container.nonce container.ciphertext keyMaterial with
  | error exc =>
      refine .scope (runs_material_bind (key_found heap keyMaterial) fun after _ => ?_)
      rw [decrypted]
      exact (Runs.lift _ after).bind_error
  | ok plaintext =>
      refine ⟨heap.entries.length + 1,
        .scope (runs_material_bind (key_found heap keyMaterial) fun after sameEntries => ?_)⟩
      have size : after.entries.length = heap.entries.length + 1 := by
        rw [sameEntries, Heap.length_push]
      rw [decrypted, ← size]
      exact .create after (.bytearray plaintext)

theorem verifyContainerDeep_runs (crypto : Cryptography) (container : SecureContainer)
    (keyWrapper : KeyWrapper) (keys : MetadataProtectionKeys) (heap : Heap Secret) :
    Runs Secret.disposal (verifyContainerDeep crypto container keyWrapper keys) heap
      (CryptoUsb.verifyContainerDeep crypto container keyWrapper keys) ∅ := by
  unfold CryptoUsb.verifyContainerDeep
  cases unwrapped : keyWrapper.unwrap container.fileContainer.wrappedKey with
  | error exc =>
      have refused : Runs Secret.disposal
          (unwrapKey container.fileContainer.wrappedKey keyWrapper) heap (.error exc) ∅ := by
        rw [unwrapKey, unwrapped]
        exact (Runs.lift _ heap).bind_error
      have named := reraisingAs_runs .keyUnwrappingError .containerVerificationError
        "Deep verification failed: could not unwrap key: " refused
      rw [reraiseAs_error] at named ⊢
      exact named.bind_error
  | ok keyMaterial =>
      have block := decryptToArray_runs crypto container.fileContainer keyMaterial heap
      -- The key is created in the first statement and destroyed by the block in the second.
      have opened : (verifyContainerDeep crypto container keyWrapper keys).run heap = (do
          let plaintext ← reraisingAs .decryptionError .containerVerificationError
            "Deep verification failed: file ciphertext did not decrypt/authenticate: "
            (do
              let fek ← .create .operation (.managedKey (.new keyMaterial))
              decryptToArray crypto container.fileContainer fek)
          destroy plaintext
          let _ ← .lift (reraiseAs .metadataTamperError .containerVerificationError
            "Deep verification failed: metadata tamper check failed: "
            (MetadataProtector.unprotect crypto keys container.protectedMetadata))
          return true : SecretCode Bool).run heap := by
        unfold verifyContainerDeep unwrapKey
        rw [unwrapped]
        rfl
      unfold Runs
      rw [opened, reraiseAs_ok, ok_bind]
      cases decrypted : AesCipher.decrypt crypto container.fileContainer.nonce
          container.fileContainer.ciphertext keyMaterial with
      | error exc =>
          rw [decrypted] at block
          have named := reraisingAs_runs .decryptionError .containerVerificationError
            "Deep verification failed: file ciphertext did not decrypt/authenticate: " block
          rw [reraiseAs_error] at named ⊢
          exact named.bind_error
      | ok plaintext =>
          rw [decrypted] at block
          obtain ⟨handle, returned⟩ := block
          have named := reraisingAs_runs .decryptionError .containerVerificationError
            "Deep verification failed: file ciphertext did not decrypt/authenticate: " returned
          rw [reraiseAs_ok] at named ⊢
          exact named.bind_clear fun after _ => .lift_bind fun _ _ => .pure true after

section Attempt

variable (crypto : Cryptography) (service : SecureAccessService) (disk : Disk)
  (request : AccessRequest) (draws : AccessDraws)
  (onGranted : Nat → FileMetadata → SecretClient Unit) (metadata : FileMetadata)

theorem finished_runs (wrapper : KeyWrapper) (view : View) (session : Option UsageRecord)
    (heap : Heap Secret) :
    Runs Secret.disposal
      (finished crypto service disk request draws metadata wrapper view session) heap
      (.ok (SecureAccessService.finished crypto service disk request draws metadata wrapper view
        session)) ∅ := by
  unfold finished SecureAccessService.finished
  dsimp only
  split_ifs
  · refine (burn_runs crypto disk service.repositories metadata wrapper request.protectionKeys
      draws.burn draws.saveFaults heap).bind_ok fun after => ?_
    cases (OneTimeAccessEnforcer.burn crypto disk service.repositories metadata wrapper draws.burn
        draws.saveFaults).outcome with
    | error exc => exact .pure _ after
    | ok newKeys => exact .pure _ after
  · exact .pure _ heap

/-- A view is one of the model without a heap, whose `on_granted` ends as this one does. -/
theorem viewed_runs (wrapper : KeyWrapper) (plaintext : Bytes) (session : Option UsageRecord)
    (heap : Heap Secret) :
    ∃ returned, Runs Secret.disposal
      (viewed crypto service disk request draws onGranted metadata wrapper plaintext session) heap
      (.ok (SecureAccessService.viewed crypto service disk
        { request with onGranted := fun _ _ => returned } draws metadata wrapper plaintext
        session)) ∅ := by
  obtain ⟨returned, ran⟩ :=
    withBuffer_runs plaintext (fun buffer => onGranted buffer metadata) heap
  refine ⟨returned, ran.reify.bind_ok fun after => ?_⟩
  unfold SecureAccessService.viewed
  dsimp only
  cases returned with
  | ok value =>
      exact finished_runs crypto service disk { request with onGranted := fun _ _ => .ok value }
        draws metadata wrapper _ session after
  | error exc =>
      dsimp only
      split_ifs
      · exact .pure _ after
      · exact .pure _ after

theorem admitted_runs (session : Option UsageRecord) (heap : Heap Secret) :
    ∃ returned, Runs Secret.disposal
      (admitted crypto service disk request draws onGranted metadata session) heap
      (.ok (SecureAccessService.admitted crypto service disk
        { request with onGranted := fun _ _ => returned } draws metadata session)) ∅ := by
  unfold admitted SecureAccessService.admitted
  dsimp only
  cases EncryptedContainer.deserialize request.encryptedFileBytes with
  | error exc => exact ⟨.ok (), .pure _ heap⟩
  | ok container =>
      dsimp only
      refine (decryptBytes_runs crypto { container with wrappedKey := metadata.wrappedKey } _
        heap).reify.bind_exists fun after => ?_
      cases FileEncryptor.decryptBytes crypto { container with wrappedKey := metadata.wrappedKey }
          (SecureAccessService.effectiveWrapper crypto request.keyWrapper metadata.deviceBinding
            request.identity) with
      | error exc =>
          refine ⟨.ok (), ?_⟩
          dsimp only
          split_ifs
          · exact .pure _ after
          · exact .pure _ after
      | ok plaintext =>
          exact viewed_runs crypto service disk request draws onGranted metadata _ plaintext _
            after

theorem validated_runs (heap : Heap Secret) :
    ∃ returned, Runs Secret.disposal (validated crypto service disk request draws onGranted) heap
      (.ok (SecureAccessService.validated crypto service disk
        { request with onGranted := fun _ _ => returned } draws)) ∅ := by
  unfold validated SecureAccessService.validated
  dsimp only
  cases service.repository with
  | none => exact ⟨.ok (), .pure _ heap⟩
  | some repository =>
      dsimp only
      cases ValidationEngine.validate crypto repository request.protectionKeys
          draws.validationClock.1 request.fileId request.encryptedFileBytes request.identity with
      | error exc => exact ⟨.ok (), .pure _ heap⟩
      | ok report =>
          dsimp only
          split_ifs
          · exact ⟨.ok (), .pure _ heap⟩
          · cases report.metadata with
            | none => exact ⟨.ok (), .pure _ heap⟩
            | some metadata =>
                exact admitted_runs crypto _ disk request draws onGranted metadata _ heap

theorem attemptAccess_runs (heap : Heap Secret) :
    ∃ returned, Runs Secret.disposal
      (attemptAccess crypto service disk request draws onGranted) heap
      (.ok (SecureAccessService.attemptAccess crypto service disk
        { request with onGranted := fun _ _ => returned } draws)) ∅ := by
  unfold attemptAccess SecureAccessService.attemptAccess
  split_ifs
  · exact ⟨.ok (), .pure _ heap⟩
  · exact ⟨.ok (), .pure _ heap⟩
  · exact validated_runs crypto service disk request draws onGranted heap

end Attempt

end SecretCode

/-! ## No secret outlives its operation -/

/-- A call of one of the operations that handle secrets. -/
inductive SecretCall : Type 1
  | encryptBytes (crypto : Cryptography) (entropy : EncryptEntropy) (plaintext : Bytes)
      (wrapper : KeyWrapper)
  | decryptBytes (crypto : Cryptography) (container : EncryptedContainer) (wrapper : KeyWrapper)
  | openDecrypted {α : Type} (crypto : Cryptography) (container : EncryptedContainer)
      (wrapper : KeyWrapper) (body : Nat → SecretClient α)
  | burn (crypto : Cryptography) (disk : Disk) (repositories : List Repository)
      (metadata : FileMetadata) (keyWrapper : KeyWrapper) (sessionKeys : MetadataProtectionKeys)
      (entropy : BurnEntropy) (faults : SaveFaults)
  | rebind (crypto : Cryptography) (serialization : KeySerialization RSAPrivateKey RSAPublicKey)
      (probes : HostProbes) (request : RebindRequest) (entropy : RebindEntropy) (disk : Disk)
      (repositories : List Repository) (faults : SaveFaults)
  | verifyContainerDeep (crypto : Cryptography) (container : SecureContainer)
      (keyWrapper : KeyWrapper) (keys : MetadataProtectionKeys)
  | attemptAccess (crypto : Cryptography) (service : SecureAccessService) (disk : Disk)
      (request : AccessRequest) (draws : AccessDraws)
      (onGranted : Nat → FileMetadata → SecretClient Unit)

/-- The heap when the call has returned or raised. -/
def SecretCall.after (heap : Heap Secret) : SecretCall → Heap Secret
  | .encryptBytes crypto entropy plaintext wrapper =>
      ((SecretCode.encryptBytes crypto entropy plaintext wrapper).run heap).2
  | .decryptBytes crypto container wrapper =>
      ((SecretCode.decryptBytes crypto container wrapper).run heap).2
  | .openDecrypted crypto container wrapper body =>
      ((SecretCode.openDecrypted crypto container wrapper body).run heap).2
  | .burn crypto disk repositories metadata keyWrapper sessionKeys entropy faults =>
      ((SecretCode.burn crypto disk repositories metadata keyWrapper sessionKeys entropy
        faults).run heap).2
  | .rebind crypto serialization probes request entropy disk repositories faults =>
      ((SecretCode.rebind crypto serialization probes request entropy disk repositories
        faults).run heap).2
  | .verifyContainerDeep crypto container keyWrapper keys =>
      ((SecretCode.verifyContainerDeep crypto container keyWrapper keys).run heap).2
  | .attemptAccess crypto service disk request draws onGranted =>
      ((SecretCode.attemptAccess crypto service disk request draws onGranted).run heap).2

theorem tidy_of_runs {Value : Type} {code : SecretCode Value} {heap : Heap Secret}
    {outcome : Raises Value} (runs : Runs Secret.disposal code heap outcome ∅) :
    Tidy Secret.disposal ∅ heap (code.run heap).2 := by
  obtain ⟨after, ran, tidy⟩ := runs
  rw [ran]
  exact tidy

theorem tidy_after (call : SecretCall) (heap : Heap Secret) :
    Tidy Secret.disposal ∅ heap (call.after heap) := by
  cases call with
  | encryptBytes crypto entropy plaintext wrapper =>
      exact tidy_of_runs (SecretCode.encryptBytes_runs crypto entropy plaintext wrapper heap)
  | decryptBytes crypto container wrapper =>
      exact tidy_of_runs (SecretCode.decryptBytes_runs crypto container wrapper heap)
  | openDecrypted crypto container wrapper body =>
      obtain ⟨returned, runs⟩ :=
        SecretCode.openDecrypted_runs crypto container wrapper body heap
      exact tidy_of_runs runs
  | burn crypto disk repositories metadata keyWrapper sessionKeys entropy faults =>
      exact tidy_of_runs (SecretCode.burn_runs crypto disk repositories metadata keyWrapper
        sessionKeys entropy faults heap)
  | rebind crypto serialization probes request entropy disk repositories faults =>
      exact tidy_of_runs (SecretCode.rebind_runs crypto serialization probes request entropy disk
        repositories faults heap)
  | verifyContainerDeep crypto container keyWrapper keys =>
      exact tidy_of_runs (SecretCode.verifyContainerDeep_runs crypto container keyWrapper keys
        heap)
  | attemptAccess crypto service disk request draws onGranted =>
      obtain ⟨returned, runs⟩ :=
        SecretCode.attemptAccess_runs crypto service disk request draws onGranted heap
      exact tidy_of_runs runs

/-- When a call has returned or raised, every object that it created is destroyed and holds
nothing but zeros, and it has read no object after its destruction. -/
theorem secrets_destroyed (call : SecretCall) (heap : Heap Secret) :
    (∀ (handle : Nat) (entry : Entry Secret), heap.entries.length ≤ handle →
      (call.after heap).entries[handle]? = some entry → entry.owner = .operation →
        entry.cell.Destroyed) ∧
      ∃ reads, (call.after heap).reads = heap.reads ++ reads ∧ ∀ live ∈ reads, live = true := by
  have tidy := tidy_after call heap
  constructor
  · intro handle entry created found isOperation
    exact tidy.fresh handle entry created found isOperation (Set.notMem_empty handle)
  · exact tidy.reads

end CryptoUsb
