import CryptoUsb.AuthController
import CryptoUsb.StoreViewRoundTrip

/-!
# Rebinding a file to another device

The wrapped key of a bound file is opened with the private key, and with the
device that is enrolled where the file is bound to no machine, and wrapped again
for the new device.  The record is changed in place, in two steps, and then saved
under the given keys to the repository and to every mirror in turn.
-/

namespace CryptoUsb

open ByteString

/-- The arguments of `rebind`. -/
structure RebindRequest where
  metadata : FileMetadata
  privateKeyPem : Bytes
  passphrase : Bytes
  protectionKeys : MetadataProtectionKeys
  newDevice : USBDevice
  oldDevice : Option USBDevice := none

/-- The random bytes a rebind draws; `temporary` names the temporary file of each
save. -/
structure RebindEntropy where
  wrap : WrapEntropy
  nonce : AesCipher.Nonce
  temporary : Nat → BytesOf 16

/-- `metadata` is the caller's object as it is left. -/
structure RebindResult where
  metadata : FileMetadata
  disk : Disk
  repositories : List Repository
  saves : List (Raises Unit)
  outcome : Raises Unit

/-- `RSAOAEPKeyWrapper(private_key.public_key(), private_key)`. -/
def RSAPrivateKey.keyWrapper (privateKey : RSAPrivateKey) : KeyWrapper :=
  rsaOaepKeyWrapper ⟨privateKey.publicKey, some privateKey⟩

/-- The wrapper of a bound file on one device: the layer of the device is there when
the file is bound to no machine. -/
def deviceWrapper (crypto : Cryptography) (probes : HostProbes) (device : USBDevice)
    (machineFingerprint : Option String) (keyWrapper : KeyWrapper) : KeyWrapper :=
  if machineFingerprint = none then
    deviceBoundKeyWrapper crypto keyWrapper (SecureStorageService.deviceKey crypto probes device)
  else keyWrapper

namespace DeviceRebindService

section Rebind

variable (crypto : Cryptography) (serialization : KeySerialization RSAPrivateKey RSAPublicKey)
  (probes : HostProbes) (request : RebindRequest) (entropy : RebindEntropy)

/-- The wrapper that opens the recorded key: the enrolled device must be presented
where its layer is there. -/
def effectiveWrapper (keyWrapper : KeyWrapper) : Raises KeyWrapper :=
  match request.metadata.deviceBinding.machineFingerprint, request.oldDevice with
  | some _, _ => .ok keyWrapper
  | none, none => raise .valueError "old_device is required to rebind a device-only-bound file"
  | none, some oldDevice => .ok (deviceBoundKeyWrapper crypto keyWrapper
      (SecureStorageService.deviceKey crypto probes oldDevice))

/-- The key wrapped for the new device, or what keeps it from being made. -/
def rewrappedKey : Raises Bytes := do
  let metadata := request.metadata
  if !metadata.deviceBinding.bound then
    raise .valueError s!"file_id={metadata.fileId} is not bound to any device; nothing to rebind"
  else
    let privateKey ← KeyAuthenticator.loadPrivateKey serialization request.privateKeyPem
      request.passphrase
    let keyWrapper := privateKey.keyWrapper
    let effectiveWrapper ← effectiveWrapper crypto probes request keyWrapper
    let fek ← effectiveWrapper.unwrap metadata.wrappedKey
    (deviceWrapper crypto probes request.newDevice metadata.deviceBinding.machineFingerprint
      keyWrapper).wrap entropy.wrap fek

/-- The record of the file on the new device. -/
def rebound (wrappedKey : Bytes) : FileMetadata :=
  { request.metadata with
    wrappedKey
    deviceBinding := SecureStorageService.recordedDevice probes request.newDevice
      request.metadata.deviceBinding.machineFingerprint }

/-- `DeviceRebindService.rebind` on a repository and its mirrors. -/
def rebind (disk : Disk) (repositories : List Repository) (faults : SaveFaults) : RebindResult :=
  match rewrappedKey crypto serialization probes request entropy with
  | .error exc => ⟨request.metadata, disk, repositories, [], .error exc⟩
  | .ok wrappedKey =>
      -- From here on the caller's object is changed.
      let metadata := rebound probes request wrappedKey
      match MetadataProtector.protect crypto request.protectionKeys entropy.nonce metadata with
      | .error exc => ⟨metadata, disk, repositories, [], .error exc⟩
      | .ok stored =>
          let saved := OneTimeAccessEnforcer.saveAll crypto stored entropy.temporary faults 0
            disk repositories
          ⟨metadata, saved.disk, saved.repositories, saved.saves, saved.outcome⟩

end Rebind

/-- All that a key that was wrapped again went through. -/
structure Rewraps (crypto : Cryptography)
    (serialization : KeySerialization RSAPrivateKey RSAPublicKey) (probes : HostProbes)
    (request : RebindRequest) (entropy : RebindEntropy) (privateKey : RSAPrivateKey)
    (fek wrappedKey : Bytes) : Prop where
  bound : request.metadata.deviceBinding.bound = true
  loaded : KeyAuthenticator.loadPrivateKey serialization request.privateKeyPem
    request.passphrase = .ok privateKey
  opened : ∃ wrapper, effectiveWrapper crypto probes request privateKey.keyWrapper = .ok wrapper ∧
    wrapper.unwrap request.metadata.wrappedKey = .ok fek
  wrapped : (deviceWrapper crypto probes request.newDevice
    request.metadata.deviceBinding.machineFingerprint privateKey.keyWrapper).wrap entropy.wrap
      fek = .ok wrappedKey

variable {crypto : Cryptography} {serialization : KeySerialization RSAPrivateKey RSAPublicKey}
  {probes : HostProbes} {request : RebindRequest} {entropy : RebindEntropy} {disk : Disk}
  {repositories : List Repository} {faults : SaveFaults}

theorem rewrappedKey_eq_ok {wrappedKey : Bytes} :
    rewrappedKey crypto serialization probes request entropy = .ok wrappedKey ↔
      ∃ privateKey fek,
        Rewraps crypto serialization probes request entropy privateKey fek wrappedKey := by
  simp only [rewrappedKey]
  split_ifs with unbound
  · simp only [raise_ne_ok, false_iff]
    rintro ⟨privateKey, fek, rewraps⟩
    simp [rewraps.bound] at unbound
  · have bound : request.metadata.deviceBinding.bound = true := by simpa using unbound
    simp only [bind_eq_ok]
    constructor
    · rintro ⟨privateKey, loaded, wrapper, effective, fek, opened, wrapped⟩
      exact ⟨privateKey, fek, bound, loaded, ⟨wrapper, effective, opened⟩, wrapped⟩
    · rintro ⟨privateKey, fek, -, loaded, ⟨wrapper, effective, opened⟩, wrapped⟩
      exact ⟨privateKey, loaded, wrapper, effective, fek, opened, wrapped⟩

/-- A rebind that returns has made its record and saved it everywhere. -/
theorem rebind_returns
    (returned : (rebind crypto serialization probes request entropy disk repositories
      faults).outcome = .ok ()) :
    ∃ privateKey fek wrappedKey stored,
      Rewraps crypto serialization probes request entropy privateKey fek wrappedKey ∧
      MetadataProtector.protect crypto request.protectionKeys entropy.nonce
        (rebound probes request wrappedKey) = .ok stored ∧
      (rebind crypto serialization probes request entropy disk repositories faults).metadata =
        rebound probes request wrappedKey ∧
      ∀ repository ∈ (rebind crypto serialization probes request entropy disk repositories
        faults).repositories, repository.load request.metadata.fileId = some stored := by
  unfold rebind at returned ⊢
  cases rewrapped : rewrappedKey crypto serialization probes request entropy with
  | error exc => simp [rewrapped] at returned
  | ok wrappedKey =>
      obtain ⟨privateKey, fek, rewraps⟩ := rewrappedKey_eq_ok.mp rewrapped
      simp only [rewrapped] at returned ⊢
      cases written : MetadataProtector.protect crypto request.protectionKeys entropy.nonce
          (rebound probes request wrappedKey) with
      | error exc => simp [written] at returned
      | ok stored =>
          simp only [written] at returned ⊢
          have sameId : stored.fileId = request.metadata.fileId :=
            (MetadataProtector.protect_eq_ok.mp written).2.1
          obtain ⟨-, held⟩ := OneTimeAccessEnforcer.saveAll_holds
            (OneTimeAccessEnforcer.saves_of_saveAll returned)
          rw [sameId] at held
          exact ⟨privateKey, fek, wrappedKey, stored, rewraps, written, rfl, held⟩

theorem rebind_of_rewrapped {wrappedKey : Bytes} {stored : ProtectedMetadata}
    (rewrapped : rewrappedKey crypto serialization probes request entropy = .ok wrappedKey)
    (written : MetadataProtector.protect crypto request.protectionKeys entropy.nonce
      (rebound probes request wrappedKey) = .ok stored) :
    let saved := OneTimeAccessEnforcer.saveAll crypto stored entropy.temporary faults 0 disk
      repositories
    rebind crypto serialization probes request entropy disk repositories faults =
      ⟨rebound probes request wrappedKey, saved.disk, saved.repositories, saved.saves,
        saved.outcome⟩ := by
  simp only [rebind, rewrapped, written]

theorem rebind_table {table : MetadataRepository} {wrappedKey : Bytes}
    {stored : ProtectedMetadata}
    (rewrapped : rewrappedKey crypto serialization probes request entropy = .ok wrappedKey)
    (written : MetadataProtector.protect crypto request.protectionKeys entropy.nonce
      (rebound probes request wrappedKey) = .ok stored)
    (spared : faults 0 = none) :
    rebind crypto serialization probes request entropy disk [.sqlite table] faults =
      ⟨rebound probes request wrappedKey, disk, [.sqlite (table.upsert stored)], [.ok ()],
        .ok ()⟩ := by
  simp only [rebind, rewrapped, written, OneTimeAccessEnforcer.saveAll, Repository.save,
    MetadataRepository.save, spared]

/-! ## What a failed rebind leaves -/

/-- If the rebind raised, the caller's object, the device and every repository are
what they were. -/
def LeavesUntouched (request : RebindRequest) (disk : Disk) (repositories : List Repository)
    (result : RebindResult) : Prop :=
  ∀ exc, result.outcome = .error exc →
    result.metadata = request.metadata ∧ result.disk = disk ∧ result.repositories = repositories

/-- The record of a rewrapped key can be protected, fits everywhere, and no save fails. -/
structure Persists (crypto : Cryptography) (probes : HostProbes) (request : RebindRequest)
    (entropy : RebindEntropy) (repositories : List Repository) (faults : SaveFaults)
    (wrappedKey : Bytes) : Prop where
  keySize : request.protectionKeys.encryptionKey.length = AesCipher.aesKeySizeBytes
  fits : ∀ stored, MetadataProtector.protect crypto request.protectionKeys entropy.nonce
    (rebound probes request wrappedKey) = .ok stored →
      ∀ repository ∈ repositories, repository.CanStore crypto stored
  spared : ∀ save < repositories.length, faults save = none

theorem persists_iff_returns (total : crypto.EncryptsAll) {wrappedKey : Bytes}
    (rewrapped : rewrappedKey crypto serialization probes request entropy = .ok wrappedKey) :
    Persists crypto probes request entropy repositories faults wrappedKey ↔
      (rebind crypto serialization probes request entropy disk repositories faults).outcome =
        .ok () := by
  constructor
  · intro persists
    obtain ⟨stored, written⟩ := MetadataProtector.protect_total total persists.keySize
      entropy.nonce (rebound probes request wrappedKey)
    rw [rebind_of_rewrapped rewrapped written]
    have spared : ∀ save < repositories.length, faults (0 + save) = none := by
      simpa using persists.spared
    exact (OneTimeAccessEnforcer.saveAll_holds (OneTimeAccessEnforcer.saveAll_returns
      (persists.fits stored written) spared)).1
  · intro returned
    cases written : MetadataProtector.protect crypto request.protectionKeys entropy.nonce
        (rebound probes request wrappedKey) with
    | error exc => simp [rebind, rewrapped, written] at returned
    | ok stored =>
        rw [rebind_of_rewrapped rewrapped written] at returned
        constructor
        case keySize =>
          exact (AesCipher.encrypt_eq_ok.mp (MetadataProtector.protect_eq_ok.mp written).1).1
        case fits =>
          intro other otherWritten
          obtain rfl := Except.ok.inj (written.symm.trans otherWritten)
          exact OneTimeAccessEnforcer.fits_of_saveAll returned
        case spared =>
          intro save inRound
          simpa using OneTimeAccessEnforcer.spared_of_saveAll returned inRound

/-- A rebind that would change the record is all or nothing exactly when what stops
it, if anything does, comes before the key is wrapped again: from then on nothing must
fail. -/
theorem rebind_untouched_iff (total : crypto.EncryptsAll)
    (changes : ∀ wrappedKey, rewrappedKey crypto serialization probes request entropy =
      .ok wrappedKey → rebound probes request wrappedKey ≠ request.metadata) :
    LeavesUntouched request disk repositories
        (rebind crypto serialization probes request entropy disk repositories faults) ↔
      ∀ privateKey fek wrappedKey,
        Rewraps crypto serialization probes request entropy privateKey fek wrappedKey →
          Persists crypto probes request entropy repositories faults wrappedKey := by
  constructor
  · intro untouched privateKey fek wrappedKey rewraps
    have rewrapped := rewrappedKey_eq_ok.mpr ⟨privateKey, fek, rewraps⟩
    refine (@persists_iff_returns _ _ _ _ _ disk _ _ total _ rewrapped).mpr ?_
    cases outcome : (rebind crypto serialization probes request entropy disk repositories
        faults).outcome with
    | ok _ => rfl
    | error exc =>
        have same := (untouched exc outcome).1
        have changed : (rebind crypto serialization probes request entropy disk repositories
            faults).metadata = rebound probes request wrappedKey := by
          simp only [rebind, rewrapped]
          split <;> rfl
        exact absurd (changed.symm.trans same) (changes wrappedKey rewrapped)
  · intro persists exc raised
    cases rewrapped : rewrappedKey crypto serialization probes request entropy with
    | error exc => simp [rebind, rewrapped]
    | ok wrappedKey =>
        obtain ⟨privateKey, fek, rewraps⟩ := rewrappedKey_eq_ok.mp rewrapped
        have returned := (@persists_iff_returns _ _ _ _ _ disk _ _ total _ rewrapped).mp
          (persists privateKey fek wrappedKey rewraps)
        rw [returned] at raised
        cases raised

/-! ## Which copies stay readable -/

/-- The copy's record opens under these keys, and its binding accepts the identity. -/
def Accepts (crypto : Cryptography) (fileId : String) (identity : PresentedIdentity)
    (repository : Repository) (keys : MetadataProtectionKeys) : Prop :=
  ∃ stored metadata, repository.load fileId = some stored ∧
    MetadataProtector.unprotect crypto keys stored = .ok metadata ∧
    (DeviceBindingValidator.validate metadata.deviceBinding identity).ok = true

theorem rebound_accepts {wrappedKey : Bytes} {machineFingerprint : Option String}
    (machine : ∀ fingerprint, request.metadata.deviceBinding.machineFingerprint =
      some fingerprint → machineFingerprint = some fingerprint) :
    (DeviceBindingValidator.validate (rebound probes request wrappedKey).deviceBinding
      (SecureStorageService.enrolledIdentity probes request.newDevice machineFingerprint)).ok =
        true := by
  refine (DeviceBindingValidator.validate_ok _ _).mpr
    ⟨fun _ => SecureStorageService.recordedDevice_matches .., fun recorded => ?_⟩
  obtain ⟨fingerprint, given⟩ := Option.ne_none_iff_exists'.mp recorded
  exact given.trans (machine fingerprint given).symm

private theorem forall₂_iff {α β : Type} {related : α → β → Prop} {holds : β → Prop}
    {first : List α} {second : List β} (sameLength : first.length = second.length)
    (pointwise : ∀ left ∈ first, ∀ right ∈ second, related left right ↔ holds right) :
    List.Forall₂ related first second ↔ ∀ right ∈ second, holds right := by
  induction second generalizing first with
  | nil =>
      rw [List.length_nil, List.length_eq_zero_iff] at sameLength
      simp [sameLength]
  | cons right second ih =>
      obtain ⟨left, first, rfl⟩ : ∃ left rest, first = left :: rest :=
        List.exists_cons_of_length_eq_add_one sameLength
      have rest := @ih first (by simpa using sameLength) fun other inFirst next inSecond =>
        pointwise other (List.mem_cons_of_mem _ inFirst) next (List.mem_cons_of_mem _ inSecond)
      rw [List.forall₂_cons, List.forall_mem_cons, rest, pointwise left (by simp) right (by simp)]

theorem length_rebind :
    (rebind crypto serialization probes request entropy disk repositories
      faults).repositories.length = repositories.length := by
  unfold rebind
  split
  · rfl
  · dsimp only
    split
    · rfl
    · exact OneTimeAccessEnforcer.length_saveAll ..

/-- After a rebind, a copy opens only under the encryption key that the rebind was
given, and its tag is the one under the given HMAC key. -/
theorem keys_of_accepts (laws : crypto.AesGcmLaws)
    (returned : (rebind crypto serialization probes request entropy disk repositories
      faults).outcome = .ok ())
    {repository : Repository} (inResult : repository ∈
      (rebind crypto serialization probes request entropy disk repositories faults).repositories)
    {identity : PresentedIdentity} {keys : MetadataProtectionKeys}
    (accepts : Accepts crypto request.metadata.fileId identity repository keys) :
    keys.encryptionKey = request.protectionKeys.encryptionKey ∧
      ∃ data, HmacUtil.computeHmac crypto keys.hmacKey data =
        HmacUtil.computeHmac crypto request.protectionKeys.hmacKey data := by
  obtain ⟨_, _, wrappedKey, stored, -, written, -, held⟩ := rebind_returns returned
  obtain ⟨record, metadata, loaded, unprotected, -⟩ := accepts
  obtain rfl := Option.some.inj ((held repository inResult).symm.trans loaded)
  obtain ⟨verified, payload, decrypted, -⟩ := MetadataProtector.unprotect_eq_ok.mp unprotected
  obtain ⟨encrypted, -, -, tag⟩ := MetadataProtector.protect_eq_ok.mp written
  exact ⟨AesCipher.key_eq_of_decrypt laws encrypted decrypted, _,
    (of_decide_eq_true verified).trans tag⟩

/-- Of the copies that a rebind saved, exactly the ones whose own keys are the keys it
was given can be read on the new device. -/
theorem rebind_accepts_iff (laws : crypto.AesGcmLaws)
    {copies : List (Repository × MetadataProtectionKeys)}
    (hmac : ∀ copy ∈ copies, ∀ data, HmacUtil.computeHmac crypto copy.2.hmacKey data =
      HmacUtil.computeHmac crypto request.protectionKeys.hmacKey data →
        copy.2.hmacKey = request.protectionKeys.hmacKey)
    (returned : (rebind crypto serialization probes request entropy disk (copies.map Prod.fst)
      faults).outcome = .ok ())
    {machineFingerprint : Option String}
    (machine : ∀ fingerprint, request.metadata.deviceBinding.machineFingerprint =
      some fingerprint → machineFingerprint = some fingerprint) :
    List.Forall₂ (Accepts crypto request.metadata.fileId (SecureStorageService.enrolledIdentity
        probes request.newDevice machineFingerprint))
      (rebind crypto serialization probes request entropy disk (copies.map Prod.fst)
        faults).repositories (copies.map Prod.snd) ↔
      ∀ copy ∈ copies, copy.2 = request.protectionKeys := by
  obtain ⟨_, _, wrappedKey, stored, -, written, -, held⟩ := rebind_returns returned
  rw [← List.forall_mem_map (f := Prod.snd) (P := (· = request.protectionKeys))]
  refine forall₂_iff (by rw [length_rebind, List.length_map, List.length_map]) ?_
  intro repository inResult keys inCopies
  obtain ⟨copy, member, rfl⟩ := List.mem_map.mp inCopies
  constructor
  · intro accepts
    obtain ⟨sameKey, data, sameTag⟩ := keys_of_accepts laws returned inResult accepts
    exact MetadataProtectionKeys.ext sameKey (hmac copy member data sameTag)
  · intro sameKeys
    refine ⟨stored, rebound probes request wrappedKey, held repository inResult, ?_,
      rebound_accepts machine⟩
    rw [sameKeys]
    exact MetadataProtector.unprotect_protect laws written

end DeviceRebindService

/-! ## A transparent private key -/

/-- What is relied on of RSA-OAEP: decryption undoes encryption, and no ciphertext is
empty. -/
structure RSAPrivateKey.OaepLaws (privateKey : RSAPrivateKey) : Prop where
  decrypt_encrypt : ∀ seed keyMaterial wrapped,
    privateKey.publicKey.encrypt seed keyMaterial = .ok wrapped →
      privateKey.decrypt wrapped = .ok keyMaterial
  nonempty : ∀ seed keyMaterial, privateKey.publicKey.encrypt seed keyMaterial ≠ .ok []

theorem RSAPrivateKey.OaepLaws.unwrap_wrap {privateKey : RSAPrivateKey}
    (laws : privateKey.OaepLaws) {held : Option RSAPrivateKey} {entropy : WrapEntropy}
    {keyMaterial wrapped : Bytes}
    (wrote : (rsaOaepKeyWrapper ⟨privateKey.publicKey, held⟩).wrap entropy keyMaterial =
      .ok wrapped) : privateKey.keyWrapper.unwrap wrapped = .ok keyMaterial := by
  simp only [rsaOaepKeyWrapper] at wrote
  cases encrypted : privateKey.publicKey.encrypt entropy.paddingSeed keyMaterial with
  | error exc => simp [encrypted] at wrote
  | ok ciphertext =>
      simp only [encrypted, Except.ok.injEq] at wrote
      subst wrote
      simp only [RSAPrivateKey.keyWrapper, rsaOaepKeyWrapper,
        laws.decrypt_encrypt _ _ _ encrypted]

theorem RSAPrivateKey.OaepLaws.undoesWrap {privateKey : RSAPrivateKey}
    (laws : privateKey.OaepLaws) : privateKey.keyWrapper.UndoesWrap :=
  fun _ _ _ wrote => laws.unwrap_wrap wrote

theorem RSAPrivateKey.OaepLaws.wrap_ne_nil {privateKey : RSAPrivateKey}
    (laws : privateKey.OaepLaws) {entropy : WrapEntropy} {keyMaterial : Bytes} :
    privateKey.keyWrapper.wrap entropy keyMaterial ≠ .ok [] := by
  intro wrapped
  simp only [RSAPrivateKey.keyWrapper, rsaOaepKeyWrapper] at wrapped
  cases encrypted : privateKey.publicKey.encrypt entropy.paddingSeed keyMaterial with
  | error exc => simp [encrypted] at wrapped
  | ok ciphertext =>
      simp only [encrypted, Except.ok.injEq] at wrapped
      exact laws.nonempty _ _ (wrapped ▸ encrypted)

/-- A key pair that puts the beginning of the seed before what it encrypts. -/
def transparentPrivateKey : RSAPrivateKey where
  decrypt wrapped := if wrapped.length < 4 then .error "too short" else .ok (wrapped.drop 4)
  publicKey := ⟨fun seed keyMaterial => .ok ((padTo 4 seed).1 ++ keyMaterial)⟩
  privateBytes := [1]

theorem transparentPrivateKey_laws : transparentPrivateKey.OaepLaws where
  decrypt_encrypt := by
    intro seed keyMaterial wrapped encrypted
    obtain rfl := Except.ok.inj encrypted
    have seedSize := (padTo 4 seed).2
    simp only [transparentPrivateKey, List.length_append, seedSize, List.drop_left' seedSize]
    rw [if_neg (by omega)]
  nonempty := by
    intro seed keyMaterial encrypted
    have lengths := congrArg List.length (Except.ok.inj encrypted)
    rw [List.length_append, (padTo 4 seed).2] at lengths
    simp at lengths

/-- A PEM that one passphrase opens. -/
def rsaSerialization : KeySerialization RSAPrivateKey RSAPublicKey where
  loadPemPrivateKey _ passphrase :=
    if passphrase = [112] then .ok transparentPrivateKey
    else raise .valueError "Bad decrypt. Incorrect password?"
  loadPemPublicKey _ := .ok transparentPrivateKey.publicKey
  sign _ _ challenge := .ok challenge
  verify _ signature challenge := .ok (signature = challenge)

/-- Another device than the plain one. -/
def otherDevice : USBDevice :=
  { plainDevice with deviceId := "F:", mountPoint := "F:", totalBytes := 2 ^ 81 }

/-- The key of the plain file as it is wrapped for the plain device. -/
def deviceBoundKey : Bytes :=
  plainNonce.1 ++ (SecureStorageService.deviceKey storeCrypto plainProbes plainDevice ++
    ((padTo 4 []).1 ++ plainFek))

/-- A record that is bound to the plain device and to no machine. -/
def deviceBoundMetadata : FileMetadata :=
  { plainMetadata [104, 105] {} {} with
    wrappedKey := deviceBoundKey
    deviceBinding := SecureStorageService.recordedDevice plainProbes plainDevice none }

/-- A request to rebind it to the other device. -/
def plainRebindRequest : RebindRequest where
  metadata := deviceBoundMetadata
  privateKeyPem := []
  passphrase := [112]
  protectionKeys := plainKeys
  newDevice := otherDevice
  oldDevice := some plainDevice

def plainRebindEntropy : RebindEntropy where
  wrap := ⟨[], plainNonce⟩
  nonce := plainNonce
  temporary := fun _ => padTo 16 []

/-- Its key is wrapped for the other device. -/
theorem tableRebind_rewraps : ∃ wrappedKey,
    DeviceRebindService.Rewraps storeCrypto rsaSerialization plainProbes
      plainRebindRequest plainRebindEntropy transparentPrivateKey plainFek wrappedKey := by
  have keySize (device : USBDevice) :
      (SecureStorageService.deviceKey storeCrypto plainProbes device).length =
        AesCipher.aesKeySizeBytes := length_deriveDeviceBindingKey ..
  have wrapped (device : USBDevice) :
      (deviceBoundKeyWrapper storeCrypto transparentPrivateKey.keyWrapper
        (SecureStorageService.deviceKey storeCrypto plainProbes device)).wrap ⟨[], plainNonce⟩
          plainFek = .ok (plainNonce.1 ++
            (SecureStorageService.deviceKey storeCrypto plainProbes device ++
              ((padTo 4 []).1 ++ plainFek))) :=
    deviceBound_wrap_eq_ok.mpr ⟨(padTo 4 []).1 ++ plainFek, _, rfl, AesCipher.encrypt_eq_ok.mpr
      ⟨keySize device, rfl, transparent_encrypt.mpr ⟨⟨keySize device, plainNonce.2⟩, rfl⟩⟩, rfl⟩
  exact ⟨_, rfl, rfl, ⟨_, rfl, deviceBound_undoesWrap transparent_aesGcmLaws
    transparentPrivateKey_laws.undoesWrap _ _ _ (wrapped plainDevice)⟩, wrapped otherDevice⟩

theorem tableRebind_changes (wrappedKey : Bytes) :
    DeviceRebindService.rebound plainProbes plainRebindRequest wrappedKey ≠
      plainRebindRequest.metadata := by
  intro same
  have sameDevice := congrArg (fun metadata => metadata.deviceBinding.deviceId) same
  exact absurd sameDevice (by decide : some "F:" ≠ some "E:")

/-- A local table with the record, under the plain keys. -/
abbrev boundTable : Repository :=
  plainRepository storeCrypto deviceBoundMetadata

abbrev tableRebind (repositories : List Repository) (faults : SaveFaults) : RebindResult :=
  DeviceRebindService.rebind storeCrypto rsaSerialization plainProbes plainRebindRequest
    plainRebindEntropy (fun _ => none) repositories faults

private theorem tableRebind_persists {tables : List MetadataRepository} (wrappedKey : Bytes) :
    DeviceRebindService.Persists storeCrypto plainProbes plainRebindRequest plainRebindEntropy
      (tables.map .sqlite) (fun _ => none) wrappedKey where
  keySize := by decide
  fits := by
    intro stored _ repository member
    obtain ⟨table, -, rfl⟩ := List.mem_map.mp member
    trivial
  spared := fun _ _ => rfl

theorem tableRebind_returns (tables : List MetadataRepository) :
    (tableRebind (tables.map .sqlite) fun _ => none).outcome = .ok () := by
  obtain ⟨wrappedKey, rewraps⟩ := tableRebind_rewraps
  exact (DeviceRebindService.persists_iff_returns transparent_encryptsAll
    (DeviceRebindService.rewrappedKey_eq_ok.mpr ⟨_, _, rewraps⟩)).mp
      (tableRebind_persists wrappedKey)

/-- The second save fails: the object and the first table are rebound, the second
table is not. -/
theorem half_rebound :
    let faults : SaveFaults := fun save =>
      if save = 1 then some ⟨.open, "database is locked", false⟩ else none
    let result := tableRebind [boundTable, boundTable] faults
    result.outcome = raise .sqliteError "database is locked" ∧
      result.metadata ≠ plainRebindRequest.metadata ∧
      (∃ first stored, result.repositories = [first, boundTable] ∧
        first.load "f" = some stored ∧ boundTable.load "f" ≠ some stored) ∧
      ¬ DeviceRebindService.LeavesUntouched plainRebindRequest (fun _ => none)
        [boundTable, boundTable] result := by
  intro faults result
  obtain ⟨wrappedKey, rewraps⟩ := tableRebind_rewraps
  have rewrapped := DeviceRebindService.rewrappedKey_eq_ok.mpr ⟨_, _, rewraps⟩
  have keySize : plainKeys.encryptionKey.length = AesCipher.aesKeySizeBytes := by decide
  obtain ⟨stored, written⟩ := MetadataProtector.protect_total transparent_encryptsAll keySize
    plainNonce (DeviceRebindService.rebound plainProbes plainRebindRequest wrappedKey)
  have ended : result = ⟨DeviceRebindService.rebound plainProbes plainRebindRequest wrappedKey,
      fun _ => none, [.sqlite ((({} : MetadataRepository).upsert
        (plainStored storeCrypto deviceBoundMetadata)).upsert stored), boundTable],
      [.ok (), raise .sqliteError "database is locked"],
      raise .sqliteError "database is locked"⟩ :=
    DeviceRebindService.rebind_of_rewrapped rewrapped written
  have sameId : stored.fileId = "f" := (MetadataProtector.protect_eq_ok.mp written).2.1
  have outcome : result.outcome = raise .sqliteError "database is locked" := by rw [ended]
  have changed : result.metadata ≠ plainRebindRequest.metadata := by
    rw [ended]
    exact tableRebind_changes wrappedKey
  refine ⟨outcome, changed, ⟨_, stored, by rw [ended], ?_, ?_⟩, ?_⟩
  · rw [← sameId]
    exact MetadataRepository.load_upsert ..
  · intro loaded
    have before := load_plainRepository storeCrypto deviceBoundMetadata
    obtain rfl := Option.some.inj (before.symm.trans loaded)
    exact tableRebind_changes wrappedKey (MetadataProtector.eq_of_unprotect_protect
      transparent_aesGcmLaws (protect_plainStored _)
      (MetadataProtector.unprotect_protect transparent_aesGcmLaws written))
  · intro untouched
    exact changed (untouched _ outcome).1

theorem rebind_untouched_plain :
    DeviceRebindService.LeavesUntouched plainRebindRequest (fun _ => none) [boundTable]
      (tableRebind [boundTable] fun _ => none) :=
  (DeviceRebindService.rebind_untouched_iff transparent_encryptsAll
    fun wrappedKey _ => tableRebind_changes wrappedKey).mpr
      fun _ _ wrappedKey _ => @tableRebind_persists [_] wrappedKey

/-- Keys of another copy. -/
def mirrorKeys : MetadataProtectionKeys where
  encryptionKey := List.replicate 32 8
  hmacKey := List.replicate 32 9

/-- A mirror that was protected under keys of its own no longer opens under them. -/
theorem mirror_shut :
    ∃ mirrored, MetadataProtector.protect storeCrypto mirrorKeys plainNonce
        deviceBoundMetadata = .ok mirrored ∧
      let mirror := Repository.sqlite (({} : MetadataRepository).upsert mirrored)
      let result := tableRebind [boundTable, mirror] fun _ => none
      mirror.load "f" = some mirrored ∧
      MetadataProtector.unprotect storeCrypto mirrorKeys mirrored = .ok deviceBoundMetadata ∧
      result.outcome = .ok () ∧
      ¬ List.Forall₂ (DeviceRebindService.Accepts storeCrypto "f"
          (SecureStorageService.enrolledIdentity plainProbes otherDevice none))
        result.repositories [plainKeys, mirrorKeys] := by
  have keySize : mirrorKeys.encryptionKey.length = AesCipher.aesKeySizeBytes := by decide
  obtain ⟨mirrored, written⟩ := MetadataProtector.protect_total transparent_encryptsAll keySize
    plainNonce deviceBoundMetadata
  have sameId : mirrored.fileId = "f" := (MetadataProtector.protect_eq_ok.mp written).2.1
  have returned := tableRebind_returns [({} : MetadataRepository).upsert
    (plainStored storeCrypto deviceBoundMetadata), ({} : MetadataRepository).upsert mirrored]
  refine ⟨mirrored, written, ?_, MetadataProtector.unprotect_protect transparent_aesGcmLaws
    written, returned, ?_⟩
  · rw [← sameId]
    exact MetadataRepository.load_upsert ..
  · intro accepted
    obtain ⟨first, rest, -, mirrorAccepts, ended⟩ := List.forall₂_cons_right_iff.mp accepted
    obtain ⟨second, _, secondAccepts, -, rfl⟩ := List.forall₂_cons_right_iff.mp mirrorAccepts
    have inResult : second ∈ (tableRebind [boundTable, .sqlite (({} : MetadataRepository).upsert
        mirrored)] fun _ => none).repositories := by
      rw [ended]
      simp
    obtain ⟨sameKey, -⟩ := DeviceRebindService.keys_of_accepts transparent_aesGcmLaws returned
      inResult secondAccepts
    exact absurd sameKey (by decide)

theorem rebind_accepts_plain :
    List.Forall₂ (DeviceRebindService.Accepts storeCrypto "f"
        (SecureStorageService.enrolledIdentity plainProbes otherDevice none))
      (tableRebind [boundTable, boundTable] fun _ => none).repositories
      [plainKeys, plainKeys] := by
  have sameKeys : ∀ copy ∈ [(boundTable, plainKeys), (boundTable, plainKeys)],
      copy.2 = plainKeys := by simp
  have unbound : ∀ fingerprint, plainRebindRequest.metadata.deviceBinding.machineFingerprint =
      some fingerprint → (none : Option String) = some fingerprint := by
    intro fingerprint given
    cases given
  have returned := tableRebind_returns [({} : MetadataRepository).upsert
    (plainStored storeCrypto deviceBoundMetadata), ({} : MetadataRepository).upsert
      (plainStored storeCrypto deviceBoundMetadata)]
  refine (@DeviceRebindService.rebind_accepts_iff _ _ _ _ _ _ _ transparent_aesGcmLaws
    [(boundTable, plainKeys), (boundTable, plainKeys)] ?_ returned none unbound).mpr sameKeys
  intro copy member _ _
  rw [sameKeys copy member]
  rfl

end CryptoUsb
