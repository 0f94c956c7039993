import CryptoUsb.DecryptionPage

/-!
# Rebinding through the page

The page presents the selected device both as the old and as the new one, and rebinds
the local record alone.  A file that was written for another device is rebound and then
viewed on the selected one exactly when it is bound to a machine, or both devices have
one device key, and no portable section keeps the old binding.
-/

namespace CryptoUsb

open ByteString

namespace DecryptionPage

/-- RSA-OAEP of the key size in use takes the key of a file. -/
def WrapsFileKeys (privateKey : RSAPrivateKey) : Prop :=
  ∀ entropy fek, fek.length = AesCipher.aesKeySizeBytes →
    ∃ wrapped, privateKey.keyWrapper.wrap entropy fek = .ok wrapped

/-- The user chose the file of the private key and confirmed its passphrase. -/
structure Confirms (serialization : KeySerialization RSAPrivateKey RSAPublicKey)
    (privateKey : RSAPrivateKey) (page : DecryptionPage) (answer : RebindAnswer) : Prop where
  keyPath : page.keyPath ≠ "" ∧ page.keyPath ≠ "No private key loaded."
  opens : ∃ passphrase pem, answer.passphrase = some passphrase ∧ passphrase ≠ "" ∧
    answer.privatePem = .ok pem ∧
    KeyAuthenticator.loadPrivateKey serialization pem (encodeUtf8 passphrase) = .ok privateKey

/-- The rebind succeeds, and the view that follows hands over the plaintext. -/
def RebindsAndShows (crypto : Cryptography) (probes : HostProbes)
    (serialization : KeySerialization RSAPrivateKey RSAPublicKey) (page : DecryptionPage)
    (display : Bytes → Raises Unit) (disk : Disk) (answer : RebindAnswer) (draws : AccessDraws)
    (plaintext : Bytes) : Prop :=
  let rebound := onRebindClicked crypto probes page serialization disk answer
  (∃ tracked, rebound.tracked = .ok tracked) ∧
    ShowsFile crypto probes rebound.page display rebound.disk draws plaintext

/-- The device that a file was written for, as far as a rebind through the page and a view
are concerned, is the presented one. -/
structure Reachable (crypto : Cryptography) (encryption : EncryptionPage) (choice : WriteChoice)
    (draws : WriteDraws) (writeProbes probes : HostProbes) (page : DecryptionPage)
    (device : USBDevice) : Prop where
  opened : choice.machineBinding = .none → SecureStorageService.deviceKey crypto probes device =
    SecureStorageService.deviceKey crypto writeProbes choice.device
  accepted : EncryptionPage.promptPassphrase choice.passphrase ≠ none →
    (DeviceBindingValidator.validate (SecureStorageService.storeBinding crypto writeProbes
      (encryption.storeRequest crypto choice draws)) (presentedIdentity crypto probes page)).ok =
        true

section Rebind

variable {crypto : Cryptography} {serialization : KeySerialization RSAPrivateKey RSAPublicKey}
  {privateKey : RSAPrivateKey} {encryption : EncryptionPage} {choice : WriteChoice}
  {draws : WriteDraws} {writeProbes probes : HostProbes} {page : DecryptionPage} {disk : Disk}
  {device : USBDevice} {path : DevicePath} {passphrase : Bytes} {prepared : PreparedFile}
  {portableMetadata : Option PortableMetadataEnvelope} {plaintext bytes : Bytes}
  {answer : RebindAnswer} {display : Bytes → Raises Unit} {viewDraws : AccessDraws}

/-- The rebind is asked for the record as it was written. -/
theorem Ready.prepareRebind_eq (laws : crypto.AesGcmLaws)
    (ready : page.Ready privateKey passphrase device path)
    (found : FoundFile crypto encryption choice draws writeProbes page disk path prepared
      portableMetadata plaintext bytes)
    (bound : choice.bindDevice = true)
    (confirms : Confirms serialization privateKey page answer) :
    ∃ table pem text, page.metadataRepository = some table ∧
      KeyAuthenticator.loadPrivateKey serialization pem (encodeUtf8 text) = .ok privateKey ∧
      prepareRebind crypto page disk answer =
        .ok (table, rebindRequest page prepared.metadata device pem (encodeUtf8 text)) := by
  obtain ⟨session, signedIn, -⟩ := ready.session
  obtain ⟨text, pem, confirmed, nonempty, pemRead, loads⟩ := confirms.opens
  obtain ⟨table, tableEq, loaded⟩ := found.recorded
  have unprotected := MetadataProtector.unprotect_protect laws found.file.written
  rw [found.keys] at unprotected
  have isBound : prepared.metadata.deviceBinding.bound = true := by
    rw [found.file.metadata]
    simp [SecureStorageService.storeBinding, EncryptionPage.storeRequest, bound,
      SecureStorageService.recordedDevice]
  have record : boundRecord crypto page table prepared.metadata.fileId = .ok prepared.metadata := by
    simp only [boundRecord, loaded, given, unprotected, answered, Except.mapError, bind,
      Except.bind, isBound, if_true]
  have readBytes : readSelected crypto disk path = .ok (prepared.metadata.fileId, bytes) :=
    readSelected_eq found.read found.file.serialized
  have chosen : ((some page.keyPath).filter fun path =>
      path ≠ "" ∧ path ≠ "No private key loaded.") = some page.keyPath := by
    simp [Option.filter, confirms.keyPath]
  have typed : answer.passphrase.filter (· ≠ "") = some text := by
    simp [confirmed, nonempty]
  refine ⟨table, pem, text, tableEq, loads, ?_⟩
  unfold prepareRebind
  rw [ready.selectedContainer, ready.selectedDevice, signedIn, tableEq, chosen, typed]
  simp only [given, readBytes, record, pemRead, answered, Except.mapError, bind, Except.bind]
  rfl

theorem mapError_eq_ok {α : Type} {outcome : Raises α} {words : PyError → ClickEnd} {value : α} :
    outcome.mapError words = .ok value ↔ outcome = .ok value := by
  cases outcome <;> simp [Except.mapError]

/-- A rebind of the page that succeeded has made a new record and saved it to the table. -/
theorem onRebindClicked_returns {table : MetadataRepository} {request : RebindRequest}
    (asked : prepareRebind crypto page disk answer = .ok (table, request))
    (spared : answer.faults 0 = none)
    {tracked : Option (Option String × Option String)}
    (succeeded : (onRebindClicked crypto probes page serialization disk answer).tracked =
      .ok tracked) :
    ∃ usedKey fek wrappedKey stored,
      DeviceRebindService.Rewraps crypto serialization probes request answer.entropy usedKey fek
        wrappedKey ∧
      MetadataProtector.protect crypto request.protectionKeys answer.entropy.nonce
        (DeviceRebindService.rebound probes request wrappedKey) = .ok stored ∧
      (onRebindClicked crypto probes page serialization disk answer).page =
        { page with metadataRepository := some (table.upsert stored) } ∧
      (onRebindClicked crypto probes page serialization disk answer).disk = disk := by
  simp only [onRebindClicked, asked] at succeeded ⊢
  have returned : (DeviceRebindService.rebind crypto serialization probes request answer.entropy
      disk [.sqlite table] answer.faults).outcome = .ok () := by
    cases outcome : rebindOutcome (DeviceRebindService.rebind crypto serialization probes request
        answer.entropy disk [.sqlite table] answer.faults).outcome with
    | error ended =>
        rw [outcome] at succeeded
        cases succeeded
    | ok _ => exact mapError_eq_ok.mp outcome
  obtain ⟨usedKey, fek, wrappedKey, stored, rewraps, written, -, -⟩ :=
    DeviceRebindService.rebind_returns returned
  have rewrapped := DeviceRebindService.rewrappedKey_eq_ok.mpr ⟨usedKey, fek, rewraps⟩
  rw [DeviceRebindService.rebind_table rewrapped written spared]
  exact ⟨usedKey, fek, wrappedKey, stored, rewraps, written, rfl, rfl⟩

/-- A rebind of the page whose key is wrapped again succeeds. -/
theorem onRebindClicked_of_rewraps (total : crypto.EncryptsAll) {table : MetadataRepository}
    {request : RebindRequest}
    (asked : prepareRebind crypto page disk answer = .ok (table, request))
    (spared : answer.faults 0 = none)
    (keySize : request.protectionKeys.encryptionKey.length = AesCipher.aesKeySizeBytes)
    {usedKey : RSAPrivateKey} {fek wrappedKey : Bytes}
    (rewraps : DeviceRebindService.Rewraps crypto serialization probes request answer.entropy
      usedKey fek wrappedKey) :
    ∃ stored tracked, MetadataProtector.protect crypto request.protectionKeys answer.entropy.nonce
        (DeviceRebindService.rebound probes request wrappedKey) = .ok stored ∧
      onRebindClicked crypto probes page serialization disk answer =
        ⟨{ page with metadataRepository := some (table.upsert stored) }, disk, .ok tracked⟩ := by
  obtain ⟨stored, written⟩ := MetadataProtector.protect_total total keySize answer.entropy.nonce
    (DeviceRebindService.rebound probes request wrappedKey)
  have rewrapped := DeviceRebindService.rewrappedKey_eq_ok.mpr ⟨usedKey, fek, rewraps⟩
  simp only [onRebindClicked, asked]
  rw [DeviceRebindService.rebind_table rewrapped written spared]
  exact ⟨stored, _, written, rfl⟩

theorem Ready.withTable (ready : page.Ready privateKey passphrase device path)
    (table : MetadataRepository) :
    ({ page with metadataRepository := some table } : DecryptionPage).Ready privateKey passphrase
      device path :=
  ⟨ready.session, ready.keyWrapper, ready.loadedKeyPassphrase, ready.selectedDevice,
    ready.selectedContainer⟩

theorem FoundFile.boundTo
    (found : FoundFile crypto encryption choice draws writeProbes page disk path prepared
      portableMetadata plaintext bytes)
    (sessionKey : encryption.sessionKey draws.generated = privateKey)
    (bound : choice.bindDevice = true) :
    BoundTo crypto privateKey prepared.metadata draws.store.encrypt.fek.1
      ⟨writeProbes, choice.device⟩ prepared.metadata := by
  have keyWrapper : (encryption.storeRequest crypto choice draws).keyWrapper =
      rsaOaepKeyWrapper ⟨privateKey.publicKey, some privateKey⟩ := by
    rw [← sessionKey]
    rfl
  exact found.file.boundTo bound keyWrapper

/-- No machine is recorded exactly in the mode that binds to the device alone. -/
theorem FoundFile.machineFree_iff
    (found : FoundFile crypto encryption choice draws writeProbes page disk path prepared
      portableMetadata plaintext bytes) :
    prepared.metadata.deviceBinding.machineFingerprint = none ↔
      choice.machineBinding = .none := by
  have machine : prepared.metadata.deviceBinding.machineFingerprint =
      SecureStorageService.recordedMachine crypto writeProbes choice.machineBinding
        (encryption.storeRequest crypto choice draws).targetMachineFingerprint := by
    rw [found.file.metadata]
    simp only [SecureStorageService.storeBinding]
    split_ifs <;> rfl
  rw [machine]
  cases binding : choice.machineBinding with
  | none => simp [SecureStorageService.recordedMachine]
  | current => simp [SecureStorageService.recordedMachine]
  | specific => simpa [SecureStorageService.recordedMachine] using found.file.targeted binding

/-- The rebind through the page succeeds exactly when the selected device has the key of the
device that the file was written for, where that is needed. -/
theorem rebind_succeeds_iff (laws : crypto.AesGcmLaws) (oaep : privateKey.OaepLaws)
    (wraps : WrapsFileKeys privateKey) (total : crypto.EncryptsAll)
    (ready : page.Ready privateKey passphrase device path)
    (found : FoundFile crypto encryption choice draws writeProbes page disk path prepared
      portableMetadata plaintext bytes)
    (sessionKey : encryption.sessionKey draws.generated = privateKey)
    (bound : choice.bindDevice = true)
    (confirms : Confirms serialization privateKey page answer)
    (spared : answer.faults 0 = none) :
    (∃ tracked, (onRebindClicked crypto probes page serialization disk answer).tracked =
        .ok tracked) ↔
      (choice.machineBinding = .none → SecureStorageService.deviceKey crypto probes device =
        SecureStorageService.deviceKey crypto writeProbes choice.device) := by
  obtain ⟨table, pem, text, tableEq, loads, asked⟩ :=
    ready.prepareRebind_eq laws found bound confirms
  have boundTo := found.boundTo sessionKey bound
  constructor
  · rintro ⟨tracked, succeeded⟩ deviceOnly
    obtain ⟨usedKey, fek, wrappedKey, stored, rewraps, -, -, -⟩ :=
      onRebindClicked_returns asked spared succeeded
    obtain ⟨wrapper, effective, unwrapped⟩ := rewraps.opened
    obtain ⟨wrapEntropy, wrapped⟩ := boundTo.wrapped
    have machineFree := found.machineFree_iff.mpr deviceOnly
    rw [deviceWrapper, if_pos machineFree] at wrapped
    simp only [DeviceRebindService.effectiveWrapper, rebindRequest, machineFree,
      Except.ok.injEq] at effective
    subst effective
    exact deviceKey_eq_of_unwrap laws wrapped unwrapped
  · intro sameKey
    have keySize : page.protectionKeys.encryptionKey.length = AesCipher.aesKeySizeBytes := by
      rw [← found.keys]
      exact (AesCipher.encrypt_eq_ok.mp (MetadataProtector.protect_eq_ok.mp
        found.file.written).1).1
    obtain ⟨wrappedKey, rewraps⟩ := @BoundTo.rewraps _ serialization _ _ _ _ laws oaep total
      (fun entropy => wraps entropy _ draws.store.encrypt.fek.2) probes
      (rebindRequest page prepared.metadata device pem (encodeUtf8 text)) answer.entropy boundTo
      loads fun machineFree =>
        ⟨device, rfl, sameKey (found.machineFree_iff.mp machineFree)⟩
    obtain ⟨stored, tracked, -, rebound⟩ := onRebindClicked_of_rewraps total asked spared keySize
      rewraps
    rw [rebound]
    exact ⟨tracked, rfl⟩

/-- On a device with the same key, and the recorded machine, the record unwraps. -/
theorem FoundFile.unwraps (laws : crypto.AesGcmLaws) (oaep : privateKey.OaepLaws)
    (found : FoundFile crypto encryption choice draws writeProbes page disk path prepared
      portableMetadata plaintext bytes)
    (sessionKey : encryption.sessionKey draws.generated = privateKey)
    (bound : choice.bindDevice = true)
    (sameKey : choice.machineBinding = .none → SecureStorageService.deviceKey crypto probes device =
      SecureStorageService.deviceKey crypto writeProbes choice.device)
    (machineFingerprint : Option String) :
    (SecureAccessService.effectiveWrapper crypto privateKey.keyWrapper
      prepared.metadata.deviceBinding (SecureStorageService.enrolledIdentity probes device
        machineFingerprint)).unwrap prepared.metadata.wrappedKey =
          .ok draws.store.encrypt.fek.1 := by
  have boundTo := found.boundTo sessionKey bound
  rw [← boundTo.unwrap laws oaep machineFingerprint]
  cases machine : prepared.metadata.deviceBinding.machineFingerprint with
  | some fingerprint =>
      simp [SecureAccessService.effectiveWrapper, machine]
  | none =>
      have same := sameKey (found.machineFree_iff.mp machine)
      simp only [SecureStorageService.deviceKey] at same
      simp only [SecureAccessService.effectiveWrapper, machine, SecureStorageService.enrolledIdentity,
        same]

/-- The record of the selected device, made by a rebind, is viewed through the table. -/
theorem FoundFile.shows_rebound (laws : crypto.AesGcmLaws) (oaep : privateKey.OaepLaws)
    (ready : page.Ready privateKey passphrase device path)
    (found : FoundFile crypto encryption choice draws writeProbes page disk path prepared
      portableMetadata plaintext bytes)
    (sessionKey : encryption.sessionKey draws.generated = privateKey)
    (unembedded : portableMetadata = none)
    (satisfied : ∀ fingerprint, prepared.metadata.deviceBinding.machineFingerprint =
      some fingerprint → computeMachineFingerprint crypto probes = fingerprint)
    (notThrottled : page.throttle.isLocked viewDraws.throttleClock prepared.metadata.fileId = false)
    {pem confirmed wrappedKey : Bytes} {entropy : RebindEntropy}
    (rewraps : DeviceRebindService.Rewraps crypto serialization probes
      (rebindRequest page prepared.metadata device pem confirmed) entropy privateKey
        draws.store.encrypt.fek.1 wrappedKey)
    {stored : ProtectedMetadata} {nonce : AesCipher.Nonce}
    (written : MetadataProtector.protect crypto page.protectionKeys nonce
      (DeviceRebindService.rebound probes (rebindRequest page prepared.metadata device pem
        confirmed) wrappedKey) = .ok stored) (table : MetadataRepository) :
    ShowsFile crypto probes { page with metadataRepository := some (table.upsert stored) } display
      disk viewDraws plaintext := by
  have readyAfter := ready.withTable (table.upsert stored)
  have sameId : stored.fileId = prepared.metadata.fileId :=
    (MetadataProtector.protect_eq_ok.mp written).2.1
  have loaded : (Repository.sqlite (table.upsert stored)).load prepared.metadata.fileId =
      some stored := sameId ▸ MetadataRepository.load_upsert table stored
  have boundTo : BoundTo crypto privateKey prepared.metadata draws.store.encrypt.fek.1
      ⟨probes, device⟩ (DeviceRebindService.rebound probes (rebindRequest page prepared.metadata
        device pem confirmed) wrappedKey) := ⟨rfl, _, rewraps.wrapped⟩
  have chosen := @chosenSource_none crypto { page with
    metadataRepository := some (table.upsert stored) } privateKey passphrase path
      (SecureStorageService.containerOf prepared portableMetadata) unembedded
  obtain ⟨session, genuine, started⟩ := @Ready.prepareView_eq crypto probes _ privateKey
    passphrase device path display disk _ readyAfter found.read bytes found.file.serialized
    (by rw [chosen]; nofun)
  rw [chosen] at started
  let state : RebindState := ⟨disk, .sqlite (table.upsert stored), ⟨probes, device⟩⟩
  refine ⟨_, _, _, started, .of_grant disk (@BoundTo.grant _ _ _ _ _ laws oaep found.file.file
    found.file.describes state boundTo _ _ loaded written _ _ _ ?_)⟩
  exact {
    repository := rfl
    fileId := rfl
    bytes := rfl
    keyWrapper := rfl
    keys := rfl
    notForced := genuine
    notThrottled := notThrottled
    identity := ⟨_, readyAfter.presentedIdentity_eq, fun fingerprint machine =>
      congrArg some (satisfied fingerprint machine)⟩
    valid := found.file.valid encryption.ownerId_ne_empty
      (EncryptionPage.leavesTraces (sessionKey ▸ oaep))
    policy := EncryptionPage.policyHolds found.file _ }

/-- After a rebind through the page, a device-bound file is viewed on the selected device
exactly when a view can reach the device that the file was written for. -/
theorem rebind_then_view_iff (laws : crypto.AesGcmLaws) (oaep : privateKey.OaepLaws)
    (wraps : WrapsFileKeys privateKey) (total : crypto.EncryptsAll) {before : Disk}
    {written : SecureWriteResult}
    (finds : FindsFile crypto encryption choice draws writeProbes before written page disk path)
    (sessionKey : encryption.sessionKey draws.generated = privateKey)
    (bound : choice.bindDevice = true)
    (satisfied : ∀ fingerprint, SecureStorageService.recordedMachine crypto writeProbes
      choice.machineBinding (encryption.storeRequest crypto choice draws).targetMachineFingerprint =
        some fingerprint → computeMachineFingerprint crypto probes = fingerprint)
    (ready : page.Ready privateKey passphrase device path)
    (samePassphrase : ∀ given, EncryptionPage.promptPassphrase choice.passphrase = some given →
      given = passphrase)
    (confirms : Confirms serialization privateKey page answer) (spared : answer.faults 0 = none)
    (notThrottled : page.throttle.isLocked viewDraws.throttleClock written.fileId = false) :
    ∃ plaintext, choice.source = .ok plaintext ∧
      (RebindsAndShows crypto probes serialization page display disk answer viewDraws plaintext ↔
        Reachable crypto encryption choice draws writeProbes probes page device) := by
  obtain ⟨prepared, portableMetadata, plaintext, bytes, source, sameId, found⟩ := finds.found
  rw [sameId] at notThrottled
  have boundTo := found.boundTo sessionKey bound
  have binding : prepared.metadata.deviceBinding = SecureStorageService.storeBinding crypto
      writeProbes (encryption.storeRequest crypto choice draws) := by
    rw [found.file.metadata]
  have satisfiedRecord : ∀ fingerprint, prepared.metadata.deviceBinding.machineFingerprint =
      some fingerprint → computeMachineFingerprint crypto probes = fingerprint := by
    intro fingerprint recorded
    refine satisfied fingerprint ?_
    rw [← recorded, binding]
    simp only [SecureStorageService.storeBinding]
    split_ifs <;> rfl
  obtain ⟨table, pem, text, tableEq, loads, asked⟩ :=
    ready.prepareRebind_eq laws found bound confirms
  refine ⟨plaintext, source, ?_, ?_⟩
  · rintro ⟨⟨tracked, succeeded⟩, shows⟩
    constructor
    · exact (rebind_succeeds_iff laws oaep wraps total ready found sessionKey bound confirms
        spared).mp ⟨tracked, succeeded⟩
    · intro prompted
      obtain ⟨given, givenEq⟩ := Option.ne_none_iff_exists'.mp prompted
      obtain rfl := samePassphrase given givenEq
      obtain ⟨usedKey, fek, wrappedKey, stored, -, -, pageEq, diskEq⟩ :=
        onRebindClicked_returns asked spared succeeded
      obtain ⟨service, request, metadata, opened, started, grant⟩ := shows.granted
      rw [pageEq, diskEq] at started
      obtain ⟨service', request', started', identity, -, reads, -⟩ :=
        @WrittenFile.portable_grant crypto privateKey encryption choice draws writeProbes probes _
          disk device path given prepared portableMetadata plaintext bytes display viewDraws laws
          oaep found.toWrittenFile sessionKey (ready.withTable (table.upsert stored)) _ givenEq
      obtain ⟨rfl, rfl⟩ := Prod.mk.inj (Except.ok.inj (started.symm.trans started'))
      obtain ⟨rfl, -⟩ := reads metadata opened grant
      have accepted := grant.accepted.binding
      rw [identity, binding] at accepted
      exact accepted
  · intro reachable
    obtain ⟨tracked, succeeded⟩ := (rebind_succeeds_iff laws oaep wraps total ready found
      sessionKey bound confirms spared).mpr reachable.opened
    refine ⟨⟨tracked, succeeded⟩, ?_⟩
    obtain ⟨usedKey, fek, wrappedKey, stored, rewraps, protectedNew, pageEq, diskEq⟩ :=
      onRebindClicked_returns asked spared succeeded
    obtain rfl := Except.ok.inj (loads.symm.trans rewraps.loaded)
    obtain ⟨wrapper, effective, unwrapped⟩ := rewraps.opened
    obtain rfl := boundTo.opened laws oaep effective unwrapped
    rw [pageEq, diskEq]
    cases prompted : EncryptionPage.promptPassphrase choice.passphrase with
    | none =>
        have portable := found.portable
        rw [prompted] at portable
        exact found.shows_rebound laws oaep ready sessionKey portable satisfiedRecord notThrottled
          rewraps protectedNew table
    | some given =>
        obtain rfl := samePassphrase given prompted
        obtain ⟨service, request, started, -, -, -, grants⟩ :=
          @WrittenFile.portable_grant crypto privateKey encryption choice draws writeProbes probes
            _ disk device path given prepared portableMetadata plaintext bytes display viewDraws
            laws oaep found.toWrittenFile sessionKey (ready.withTable (table.upsert stored)) _
            prompted
        have identity := @Ready.presentedIdentity_eq crypto probes _ _ _ _ _
          (ready.withTable (table.upsert stored))
        have accepted := reachable.accepted (by simp [prompted])
        rw [← binding] at accepted
        refine ⟨service, request, _, started, .of_grant disk (grants rfl notThrottled accepted ?_)⟩
        rw [identity]
        exact found.unwraps laws oaep sessionKey bound reachable.opened _

end Rebind

end DecryptionPage

/-! ## A file that is bound to its device alone -/

/-- The user confirms the passphrase of the key, and nothing fails. -/
def plainRebindAnswer : DecryptionPage.RebindAnswer where
  passphrase := some "p"
  privatePem := .ok []
  entropy := plainRebindEntropy
  faults := fun _ => none

/-- The page with the file of another device. -/
def strangerPage (onMachine : Bool) : DecryptionPage :=
  plainDecryptionPage (plainPageWrite true onMachine false none) "p" otherDevice ⟨"F:", "f.cusc"⟩

theorem strangerPage_confirms (onMachine : Bool) : DecryptionPage.Confirms rsaSerialization
    transparentPrivateKey (strangerPage onMachine) plainRebindAnswer where
  keyPath := by
    show "file_wrapping_key.pem" ≠ "" ∧ "file_wrapping_key.pem" ≠ "No private key loaded."
    decide
  opens := by
    have utf8 : encodeUtf8 "p" = [112] := by decide
    refine ⟨"p", [], rfl, by decide, rfl, ?_⟩
    rw [utf8]
    rfl

theorem transparentPrivateKey_wraps : DecryptionPage.WrapsFileKeys transparentPrivateKey :=
  fun _ _ _ => ⟨_, rfl⟩

/-- The file was written for the plain device, and the other one is presented as the old and
as the new device: its layer of the key does not open. -/
theorem rebind_to_other_device :
    ∃ written, DecryptionPage.FindsFile storeCrypto plainEncryptionPage
        (plainChoice true false false none) (plainWriteDraws (padTo 16 [])) plainProbes
        (fun _ => none) written (strangerPage false)
        (copyOf ((plainPageWrite true false false none).disk written.destination)
          ⟨"F:", "f.cusc"⟩) ⟨"F:", "f.cusc"⟩ ∧
      (strangerPage false).Ready transparentPrivateKey (encodeUtf8 "p") otherDevice
        ⟨"F:", "f.cusc"⟩ ∧
      DecryptionPage.Confirms rsaSerialization transparentPrivateKey (strangerPage false)
        plainRebindAnswer ∧
      ¬ DecryptionPage.RebindsAndShows storeCrypto plainProbes rsaSerialization
        (strangerPage false) (fun _ => .ok ())
        (copyOf ((plainPageWrite true false false none).disk written.destination)
          ⟨"F:", "f.cusc"⟩) plainRebindAnswer plainDraws [104, 105] := by
  obtain ⟨written, finds⟩ := plainPageWrite_found true false false none "p" otherDevice
    ⟨"F:", "f.cusc"⟩
  have ready := plainDecryptionPage_ready (plainPageWrite true false false none) "p" otherDevice
    ⟨"F:", "f.cusc"⟩
  refine ⟨written, finds, ready, strangerPage_confirms false, ?_⟩
  rintro ⟨succeeded, -⟩
  obtain ⟨prepared, portableMetadata, plaintext, bytes, -, -, found⟩ := finds.found
  have sameKey := (DecryptionPage.rebind_succeeds_iff transparent_aesGcmLaws
    transparentPrivateKey_laws transparentPrivateKey_wraps transparent_encryptsAll ready found rfl
    rfl (strangerPage_confirms false) rfl).mp succeeded rfl
  exact absurd sameKey (by decide +kernel)

/-- A file that is bound to this machine as well. -/
theorem rebind_then_view_plain : ∃ (written : SecureWriteResult) (plaintext : Bytes),
    Except.ok plaintext = (plainChoice true true false none).source ∧
      (DecryptionPage.RebindsAndShows storeCrypto plainProbes rsaSerialization
          (strangerPage true) (fun _ => .ok ())
          (copyOf ((plainPageWrite true true false none).disk written.destination)
            ⟨"F:", "f.cusc"⟩) plainRebindAnswer plainDraws plaintext ↔
        DecryptionPage.Reachable storeCrypto plainEncryptionPage
          (plainChoice true true false none) (plainWriteDraws (padTo 16 [])) plainProbes
          plainProbes (strangerPage true) otherDevice) := by
  obtain ⟨written, finds⟩ := plainPageWrite_found true true false none "p" otherDevice
    ⟨"F:", "f.cusc"⟩
  have ready := plainDecryptionPage_ready (plainPageWrite true true false none) "p" otherDevice
    ⟨"F:", "f.cusc"⟩
  obtain ⟨plaintext, source, shown⟩ := @DecryptionPage.rebind_then_view_iff storeCrypto
    rsaSerialization _ _ _ _ _ plainProbes _ _ _ _ _ plainRebindAnswer (fun _ => .ok ())
    plainDraws transparent_aesGcmLaws transparentPrivateKey_laws transparentPrivateKey_wraps
    transparent_encryptsAll _ written finds rfl rfl (fun _ machine => Option.some.inj machine)
    ready (fun _ prompted => nomatch prompted) (strangerPage_confirms true) rfl rfl
  exact ⟨written, plaintext, source.symm, shown⟩

end CryptoUsb
