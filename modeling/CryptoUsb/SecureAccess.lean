import CryptoUsb.AttemptThrottle
import CryptoUsb.OneTimeBurn
import CryptoUsb.UsageRecords

/-!
# The secure access service

One attempt to view a file: throttling, validation, decryption, the view itself
and, for a one-time file, the burn.  Every expected failure is answered by a
deception.  `attemptAccess_cases` says all that an attempt can do.
-/

namespace CryptoUsb

open ByteString IsoDateTime

inductive DeceptionTrigger
  | wrongCredentials
  | accessAlreadyUsed
  | deviceMismatch
  | metadataTampering
  | integrityFailure
  deriving DecidableEq, Repr

structure PresentedDeviceInfo where
  usbSerial : Option String
  vendorId : Option String
  productId : Option String
  hardwareSerial : Option String
  mountPoint : Option String
  label : Option String
  deriving DecidableEq, Repr

/-- One activation of the deception engine, without its fabricated content. -/
structure DeceptionEvent where
  trigger : DeceptionTrigger
  fileId : String
  deviceInfo : PresentedDeviceInfo
  deriving DecidableEq, Repr

/-- The arguments of `attempt_access`. -/
structure AccessRequest where
  fileId : String
  encryptedFileBytes : Bytes
  keyWrapper : KeyWrapper
  protectionKeys : MetadataProtectionKeys
  onGranted : Bytes → FileMetadata → Raises Unit
  identity : PresentedIdentity := {}
  user : Option String := none
  forceDeception : Bool := false
  containerPath : Option DevicePath := none

/-- What one attempt draws from outside: the clock at each reading, random bytes,
and the failures of storage operations. -/
structure AccessDraws where
  throttleClock : UtcInstant
  loginClock : UtcInstant
  validationClock : UtcInstant
  mismatchClock : UtcInstant
  openClock : UtcInstant
  sessionId : BytesOf 16
  burn : BurnEntropy
  saveFaults : SaveFaults
  unlinkFault : Option String

structure SecureAccessService where
  repository : Option Repository
  mirrorRepositories : List Repository
  throttle : DeviceMismatchThrottle
  tracksUsage : Bool

def SecureAccessService.repositories (service : SecureAccessService) : List Repository :=
  service.repository.toList ++ service.mirrorRepositories

/-- One call of `on_granted`: the buffer and metadata it received, and whether it
returned. -/
structure View where
  buffer : Bytes
  metadata : FileMetadata
  returned : Raises Unit

/-- `session` stands for the two callbacks, which close over it. -/
structure AccessOutcome where
  granted : Bool
  fileId : String
  deception : Option DeceptionTrigger := none
  protectionKeys : Option MetadataProtectionKeys := none
  session : Option UsageRecord := none

/-- What an attempt returned or raised, and all it did. -/
structure AccessResult where
  outcome : Raises AccessOutcome
  repositories : List Repository
  throttle : DeviceMismatchThrottle
  disk : Disk
  deceptions : List DeceptionEvent
  views : List View
  saves : List (Raises Unit)

/-- No view, and nothing stored was touched. -/
structure AccessResult.Idle (result : AccessResult) (service : SecureAccessService)
    (disk : Disk) : Prop where
  views : result.views = []
  repositories : result.repositories = service.repositories
  disk : result.disk = disk
  saves : result.saves = []

namespace SecureAccessService

def presentedDeviceInfo (identity : PresentedIdentity) : PresentedDeviceInfo :=
  let descriptor := identity.hardwareDescriptor.getD {}
  { usbSerial := identity.usbIdentifier
    vendorId := descriptor.vendorId
    productId := descriptor.productId
    hardwareSerial := descriptor.hardwareSerial
    mountPoint := identity.device.map USBDevice.mountPoint
    label := identity.device.map USBDevice.label }

def deviceCheckNames : List CheckName :=
  [.deviceBinding, .unauthorizedDevice, .clonedUsb, .usbIdentifier, .machineFingerprint,
    .hardwareDescriptor]

/-- `_map_validation_failure_to_trigger`, the most specific trigger first. -/
def mapValidationFailureToTrigger (report : CheckReport) : DeceptionTrigger :=
  if report.failed .metadataPresent || report.failed .hmac || report.failed .metadataIntegrity then
    .metadataTampering
  else if report.failed .fileIntegrity then .integrityFailure
  else if report.failed .expiry || report.failed .accessCount || report.failed .reusedAccess then
    .accessAlreadyUsed
  else if deviceCheckNames.any report.failed then .deviceMismatch
  else .integrityFailure

/-- The key wrapper with the device layer of a file that is bound to its device
and to no machine. -/
def effectiveWrapper (crypto : Cryptography) (keyWrapper : KeyWrapper)
    (binding : DeviceBinding) (identity : PresentedIdentity) : KeyWrapper :=
  if binding.bound && binding.machineFingerprint = none then
    deviceBoundKeyWrapper crypto keyWrapper (deriveDeviceBindingKey crypto
      (deviceFingerprintMaterial identity.usbIdentifier identity.hardwareDescriptor))
  else keyWrapper

section Attempt

variable (crypto : Cryptography) (service : SecureAccessService) (disk : Disk)
  (request : AccessRequest) (draws : AccessDraws)

/-- An attempt that ends without touching a repository. -/
def settled (outcome : Raises AccessOutcome) : AccessResult where
  outcome := outcome
  repositories := service.repositories
  throttle := service.throttle
  disk := disk
  deceptions := []
  views := []
  saves := []

/-- Activate the deception engine and report no access. -/
def deceived (trigger : DeceptionTrigger) (session : Option UsageRecord) : AccessResult :=
  { settled service disk (.ok {
      granted := false
      fileId := request.fileId
      deception := some trigger
      session }) with
    deceptions := [⟨trigger, request.fileId, presentedDeviceInfo request.identity⟩] }

/-- The session of a service that tracks usage. -/
def startSession : Option UsageRecord :=
  if service.tracksUsage then
    some {
      sessionId := uuidText (uuid4 draws.sessionId)
      user := (request.user.filter (· ≠ "")).getD "unknown"
      machineId := (request.identity.machineFingerprint.filter (· ≠ "")).getD "unknown"
      fileId := request.fileId
      usbId := request.identity.usbIdentifier
      loginTime := some draws.loginClock.1
      authenticationResult := some true }
  else none

/-- A failed validation, and whether it looks like tampering, in the session. -/
def rejectedRecord (trigger : DeceptionTrigger) (record : UsageRecord) : UsageRecord :=
  { record with
    validationResult := some false
    tamperingEvents :=
      if trigger = .metadataTampering ∨ trigger = .integrityFailure then
        record.tamperingEvents + 1
      else record.tamperingEvents }

/-- What follows a failed validation. -/
def rejected (report : CheckReport) (session : Option UsageRecord) : AccessResult :=
  let trigger := mapValidationFailureToTrigger report
  let session := session.map (rejectedRecord trigger)
  if trigger = .deviceMismatch then
    match service.throttle.registerMismatch draws.mismatchClock request.fileId with
    | (throttle, .error exc) => { settled service disk (.error exc) with throttle }
    | (throttle, .ok ()) => { deceived service disk request trigger session with throttle }
  else deceived service disk request trigger session

/-- `Path(container_path).unlink()`, best effort. -/
def deleteContainer (disk : Disk) : Disk :=
  match request.containerPath with
  | none => disk
  | some path => if draws.unlinkFault.isSome then disk else disk.remove path

/-- What follows a view that returned. -/
def finished (metadata : FileMetadata) (wrapper : KeyWrapper) (view : View)
    (session : Option UsageRecord) : AccessResult :=
  let granted (keys : MetadataProtectionKeys) : AccessOutcome :=
    { granted := true, fileId := request.fileId, protectionKeys := some keys, session }
  if metadata.usagePolicy.oneTimeAccess then
    let burn := OneTimeAccessEnforcer.burn crypto disk service.repositories metadata wrapper
      draws.burn draws.saveFaults
    match burn.outcome with
    | .error exc =>
        { outcome := .error exc
          repositories := burn.repositories
          throttle := service.throttle
          disk := burn.disk
          deceptions := []
          views := [view]
          saves := burn.saves }
    | .ok newKeys =>
        { outcome := .ok (granted newKeys)
          repositories := burn.repositories
          throttle := service.throttle
          disk := deleteContainer request draws burn.disk
          deceptions := []
          views := [view]
          saves := burn.saves }
  else
    { settled service disk (.ok (granted request.protectionKeys)) with views := [view] }

/-- The view of a decrypted buffer. -/
def viewed (metadata : FileMetadata) (wrapper : KeyWrapper) (plaintext : Bytes)
    (session : Option UsageRecord) : AccessResult :=
  let returned := request.onGranted plaintext metadata
  let view : View := ⟨plaintext, metadata, returned⟩
  match returned with
  | .ok () => finished crypto service disk request draws metadata wrapper view session
  | .error exc =>
      if exc.isDecryptFailure then
        { deceived service disk request .accessAlreadyUsed session with views := [view] }
      else { settled service disk (.error exc) with views := [view] }

/-- What follows a validation that passed. -/
def admitted (metadata : FileMetadata) (session : Option UsageRecord) : AccessResult :=
  match EncryptedContainer.deserialize request.encryptedFileBytes with
  | .error exc => settled service disk (.error exc)
  | .ok container =>
      let wrapper := effectiveWrapper crypto request.keyWrapper metadata.deviceBinding
        request.identity
      let session := session.map fun record => { record with openTime := some draws.openClock.1 }
      -- The metadata's wrapped key, not the container's, is authoritative.
      match FileEncryptor.decryptBytes crypto
          { container with wrappedKey := metadata.wrappedKey } wrapper with
      | .error exc =>
          if exc.isDecryptFailure then
            deceived service disk request .accessAlreadyUsed session
          else settled service disk (.error exc)
      | .ok plaintext => viewed crypto service disk request draws metadata wrapper plaintext session

/-- The service after a passed validation. -/
def admittedService : SecureAccessService :=
  { service with throttle := service.throttle.registerSuccess request.fileId }

/-- An attempt on a file that is not throttled. -/
def validated : AccessResult :=
  let session := startSession service request draws
  match service.repository with
  | none =>
      settled service disk (raise .attributeError "'NoneType' object has no attribute 'load'")
  | some repository =>
      match ValidationEngine.validate crypto repository request.protectionKeys
          draws.validationClock.1 request.fileId request.encryptedFileBytes request.identity with
      | .error exc => settled service disk (.error exc)
      | .ok report =>
          if report.report.ok = false then
            rejected service disk request draws report.report session
          else
            let service := admittedService service request
            match report.metadata with
            | none => settled service disk (raise .assertionError "")
            | some metadata =>
                admitted crypto service disk request draws metadata
                  (session.map fun record => { record with validationResult := some true })

/-- The session of an attempt at the moment of its view. -/
def viewSession : Option UsageRecord :=
  ((startSession service request draws).map fun record =>
    { record with validationResult := some true }).map fun record =>
      { record with openTime := some draws.openClock.1 }

/-- `SecureAccessService.attempt_access`. -/
def attemptAccess : AccessResult :=
  if request.forceDeception then deceived service disk request .wrongCredentials none
  else if service.throttle.isLocked draws.throttleClock request.fileId then
    deceived service disk request .deviceMismatch none
  else validated crypto service disk request draws

end Attempt

/-! ## What an attempt can do -/

/-- Everything that must hold for `on_granted` to be called with this buffer and
this metadata. -/
structure Grant (crypto : Cryptography) (service : SecureAccessService) (request : AccessRequest)
    (draws : AccessDraws) (metadata : FileMetadata) (plaintext : Bytes) : Prop where
  notForced : request.forceDeception = false
  notThrottled : service.throttle.isLocked draws.throttleClock request.fileId = false
  recorded : ∃ repository stored, service.repository = some repository ∧
    repository.load request.fileId = some stored ∧
    MetadataProtector.unprotect crypto request.protectionKeys stored = .ok metadata
  accepted : ValidationEngine.RecordAccepted crypto draws.validationClock.1 metadata
    request.encryptedFileBytes request.identity
  decrypted : ∃ container, EncryptedContainer.deserialize request.encryptedFileBytes =
      .ok container ∧
    FileEncryptor.decryptBytes crypto { container with wrappedKey := metadata.wrappedKey }
      (effectiveWrapper crypto request.keyWrapper metadata.deviceBinding request.identity) =
        .ok plaintext

section Cases

variable {crypto : Cryptography} {service : SecureAccessService} {disk : Disk}
  {request : AccessRequest} {draws : AccessDraws} {metadata : FileMetadata}
  {wrapper : KeyWrapper} {plaintext : Bytes} {session : Option UsageRecord}

theorem settled_idle (outcome : Raises AccessOutcome) :
    (settled service disk outcome).Idle service disk :=
  ⟨rfl, rfl, rfl, rfl⟩

theorem deceived_idle (trigger : DeceptionTrigger) (session : Option UsageRecord) :
    (deceived service disk request trigger session).Idle service disk :=
  ⟨rfl, rfl, rfl, rfl⟩

theorem rejected_idle (report : CheckReport) (session : Option UsageRecord) :
    (rejected service disk request draws report session).Idle service disk := by
  unfold rejected
  dsimp only
  split_ifs
  · split <;> exact ⟨rfl, rfl, rfl, rfl⟩
  · exact deceived_idle ..

/-- An attempt either is a granted view or changes nothing. -/
theorem attemptAccess_cases (crypto : Cryptography) (service : SecureAccessService) (disk : Disk)
    (request : AccessRequest) (draws : AccessDraws) :
    (∃ metadata plaintext, Grant crypto service request draws metadata plaintext ∧
      attemptAccess crypto service disk request draws =
        viewed crypto (admittedService service request) disk request draws metadata
          (effectiveWrapper crypto request.keyWrapper metadata.deviceBinding request.identity)
          plaintext (viewSession service request draws)) ∨
      (attemptAccess crypto service disk request draws).Idle service disk := by
  unfold attemptAccess
  split_ifs with forced throttled
  · exact .inr (deceived_idle ..)
  · exact .inr (deceived_idle ..)
  · unfold validated
    dsimp only
    cases recorded : service.repository with
    | none => exact .inr (settled_idle ..)
    | some repository =>
        dsimp only
        cases checked : ValidationEngine.validate crypto repository request.protectionKeys
            draws.validationClock.1 request.fileId request.encryptedFileBytes
            request.identity with
        | error exc => exact .inr (settled_idle ..)
        | ok report =>
            dsimp only
            split_ifs with failed
            · exact .inr (rejected_idle ..)
            · have ok := Bool.eq_true_of_not_eq_false failed
              obtain ⟨metadata, reported⟩ := ValidationEngine.metadata_of_ok checked ok
              obtain ⟨stored, loaded, unprotected, accepted⟩ :=
                ValidationEngine.validate_ok.mp ⟨report, checked, ok, reported⟩
              simp only [reported]
              unfold admitted
              cases read : EncryptedContainer.deserialize request.encryptedFileBytes with
              | error exc =>
                  exact .inr ⟨rfl, by simp [settled, repositories, admittedService], rfl, rfl⟩
              | ok container =>
                  dsimp only
                  cases opened : FileEncryptor.decryptBytes crypto
                      { container with wrappedKey := metadata.wrappedKey }
                      (effectiveWrapper crypto request.keyWrapper metadata.deviceBinding
                        request.identity) with
                  | error exc =>
                      dsimp only
                      split_ifs
                      · exact .inr
                          ⟨rfl, by simp [deceived, settled, repositories, admittedService], rfl, rfl⟩
                      · exact .inr ⟨rfl, by simp [settled, repositories, admittedService], rfl, rfl⟩
                  | ok plaintext =>
                      refine .inl ⟨metadata, plaintext, ⟨by simpa using forced,
                        by simpa using throttled, ⟨repository, stored, recorded, loaded,
                          unprotected⟩, accepted, ⟨container, read, opened⟩⟩, rfl⟩

theorem attemptAccess_of_grant
    (grant : Grant crypto service request draws metadata plaintext) :
    attemptAccess crypto service disk request draws =
      viewed crypto (admittedService service request) disk request draws metadata
        (effectiveWrapper crypto request.keyWrapper metadata.deviceBinding request.identity)
        plaintext (viewSession service request draws) := by
  obtain ⟨repository, stored, recorded, loaded, unprotected⟩ := grant.recorded
  obtain ⟨container, read, opened⟩ := grant.decrypted
  obtain ⟨report, checked, ok, reported⟩ := ValidationEngine.validate_ok.mpr
    ⟨stored, loaded, unprotected, grant.accepted⟩
  simp only [attemptAccess, grant.notForced, grant.notThrottled, validated, recorded, checked, ok,
    reported, admitted, read, opened, if_false, reduceCtorEq, Bool.false_eq_true]
  rfl

@[simp]
theorem viewed_views :
    (viewed crypto service disk request draws metadata wrapper plaintext session).views =
      [⟨plaintext, metadata, request.onGranted plaintext metadata⟩] := by
  unfold viewed
  cases returned : request.onGranted plaintext metadata with
  | error exc =>
      dsimp only
      split_ifs <;> rfl
  | ok _ =>
      unfold finished
      dsimp only
      split_ifs
      · split <;> rfl
      · rfl

/-- A view that raises, or of a reusable file, touches no repository. -/
theorem viewed_keeps
    (noBurn : ¬ Returns (request.onGranted plaintext metadata) ∨
      metadata.usagePolicy.oneTimeAccess = false) :
    (viewed crypto service disk request draws metadata wrapper plaintext session).repositories =
        service.repositories ∧
      (viewed crypto service disk request draws metadata wrapper plaintext session).disk = disk ∧
      (viewed crypto service disk request draws metadata wrapper plaintext session).saves = [] := by
  unfold viewed
  cases returned : request.onGranted plaintext metadata with
  | error exc =>
      dsimp only
      split_ifs <;> exact ⟨rfl, rfl, rfl⟩
  | ok _ =>
      have reusable : metadata.usagePolicy.oneTimeAccess = false := by
        simpa [returned] using noBurn
      simp [finished, reusable, settled]

/-- A view of a one-time file that returns is followed by a burn, and a burn that
returns by the deletion of the container. -/
theorem viewed_burns (returned : Returns (request.onGranted plaintext metadata))
    (oneTime : metadata.usagePolicy.oneTimeAccess = true) :
    let result := viewed crypto service disk request draws metadata wrapper plaintext session
    let burn := OneTimeAccessEnforcer.burn crypto disk service.repositories metadata wrapper
      draws.burn draws.saveFaults
    result.repositories = burn.repositories ∧ result.saves = burn.saves ∧
      result.disk =
        if Returns burn.outcome then deleteContainer request draws burn.disk else burn.disk := by
  obtain ⟨value, returnedEq⟩ := returned
  simp only [viewed, returnedEq, finished, oneTime, if_true]
  cases outcome : (OneTimeAccessEnforcer.burn crypto disk service.repositories metadata wrapper
      draws.burn draws.saveFaults).outcome with
  | error exc => simp
  | ok newKeys => simp

theorem attemptAccess_burns (disk : Disk)
    (grant : Grant crypto service request draws metadata plaintext)
    (returned : Returns (request.onGranted plaintext metadata))
    (oneTime : metadata.usagePolicy.oneTimeAccess = true) :
    let result := attemptAccess crypto service disk request draws
    let burn := OneTimeAccessEnforcer.burn crypto disk service.repositories metadata
      (effectiveWrapper crypto request.keyWrapper metadata.deviceBinding request.identity)
      draws.burn draws.saveFaults
    result.repositories = burn.repositories ∧ result.saves = burn.saves ∧
      result.disk =
        if Returns burn.outcome then deleteContainer request draws burn.disk else burn.disk := by
  rw [attemptAccess_of_grant grant]
  exact viewed_burns returned oneTime

/-- An attempt loses no repository. -/
theorem length_repositories_attemptAccess (crypto : Cryptography) (service : SecureAccessService)
    (disk : Disk) (request : AccessRequest) (draws : AccessDraws) :
    (attemptAccess crypto service disk request draws).repositories.length =
      service.repositories.length := by
  rcases attemptAccess_cases crypto service disk request draws with
    ⟨metadata, plaintext, -, attempted⟩ | idle
  · rw [attempted]
    by_cases burns : Returns (request.onGranted plaintext metadata) ∧
        metadata.usagePolicy.oneTimeAccess = true
    · rw [(viewed_burns burns.1 burns.2).1, OneTimeAccessEnforcer.length_burn]
      rfl
    · have noBurn := (not_and_or.mp burns).imp_right Bool.eq_false_of_not_eq_true
      rw [(viewed_keeps noBurn).1]
      rfl
  · rw [idle.repositories]

theorem viewed_granted (returned : Returns (request.onGranted plaintext metadata))
    (reusable : metadata.usagePolicy.oneTimeAccess = false ∨
      Returns (OneTimeAccessEnforcer.burn crypto disk service.repositories metadata wrapper
        draws.burn draws.saveFaults).outcome) :
    ∃ outcome, (viewed crypto service disk request draws metadata wrapper plaintext
      session).outcome = .ok outcome ∧ outcome.granted = true := by
  obtain ⟨value, returnedEq⟩ := returned
  simp only [viewed, returnedEq, finished]
  rcases reusable with reusable | ⟨newKeys, burned⟩
  · simp [reusable, settled]
  · split_ifs
    · simp [burned]
    · simp [settled]

/-! ### What an attempt reports -/

/-- A session that is there or not, and was opened, if ever, at a time of the clock. -/
structure SessionOf (tracked : Bool) (session : Option UsageRecord) : Prop where
  isSome : session.isSome = tracked
  opened : ∀ record ∈ session, ∀ openTime ∈ record.openTime, openTime.IsAware

theorem SessionOf.absent : SessionOf false none where
  isSome := rfl
  opened := by
    intro record given
    cases given

theorem SessionOf.map {tracked : Bool} {session : Option UsageRecord}
    (held : SessionOf tracked session) {change : UsageRecord → UsageRecord}
    (keeps : ∀ record, (∀ openTime ∈ record.openTime, openTime.IsAware) →
      ∀ openTime ∈ (change record).openTime, openTime.IsAware) :
    SessionOf tracked (session.map change) where
  isSome := by
    rw [Option.isSome_map]
    exact held.isSome
  opened := by
    intro record changed
    obtain ⟨before, given, rfl⟩ := Option.mem_map.mp changed
    exact keeps before (held.opened before given)

theorem startSession_sessionOf (service : SecureAccessService) (request : AccessRequest)
    (draws : AccessDraws) :
    SessionOf service.tracksUsage (startSession service request draws) := by
  unfold startSession
  split_ifs with tracks
  · refine ⟨tracks.symm, ?_⟩
    intro record given openTime opened
    obtain rfl := Option.some.inj given
    cases opened
  · rw [Bool.not_eq_true] at tracks
    rw [tracks]
    exact .absent

/-- If the attempt returned, it reports a grant only after a view, and it has a session
or not. -/
structure Reports (tracked : Bool) (result : AccessResult) : Prop where
  granted : ∀ outcome, result.outcome = .ok outcome → outcome.granted = true → result.views ≠ []
  session : ∀ outcome, result.outcome = .ok outcome → SessionOf tracked outcome.session

theorem reports_of_raised {result : AccessResult} {exc : PyError}
    (raised : result.outcome = .error exc) (tracked : Bool) : Reports tracked result where
  granted := by
    intro outcome returned
    cases raised.symm.trans returned
  session := by
    intro outcome returned
    cases raised.symm.trans returned

variable {tracked : Bool}

theorem deceived_reports (held : SessionOf tracked session) (trigger : DeceptionTrigger) :
    Reports tracked (deceived service disk request trigger session) where
  granted := by
    intro outcome returned granted
    obtain rfl := Except.ok.inj returned
    cases granted
  session := by
    intro outcome returned
    obtain rfl := Except.ok.inj returned
    exact held

theorem rejected_reports (held : SessionOf tracked session) (report : CheckReport) :
    Reports tracked (rejected service disk request draws report session) := by
  have deceives := @deceived_reports service disk request _ tracked
    (@SessionOf.map _ _ held (rejectedRecord (mapValidationFailureToTrigger report))
      fun _ aware => aware) (mapValidationFailureToTrigger report)
  unfold rejected
  dsimp only
  split_ifs
  · split
    · exact reports_of_raised rfl _
    · exact ⟨deceives.granted, deceives.session⟩
  · exact deceives

theorem viewed_reports (held : SessionOf tracked session) :
    Reports tracked
      (viewed crypto service disk request draws metadata wrapper plaintext session) where
  granted := by
    intro _ _ _
    simp
  session := by
    intro outcome returned
    simp only [viewed] at returned
    split at returned
    · simp only [finished] at returned
      split_ifs at returned
      · split at returned
        · cases returned
        · obtain rfl := Except.ok.inj returned
          exact held
      · obtain rfl := Except.ok.inj returned
        exact held
    · split_ifs at returned
      · obtain rfl := Except.ok.inj returned
        exact held
      · cases returned

theorem admitted_reports (held : SessionOf tracked session) :
    Reports tracked (admitted crypto service disk request draws metadata session) := by
  have opened : SessionOf tracked (session.map fun record =>
      { record with openTime := some draws.openClock.1 }) := by
    refine held.map ?_
    intro record _ openTime now
    obtain rfl := Option.some.inj now
    exact draws.openClock.isAware
  unfold admitted
  split
  · exact reports_of_raised rfl _
  · dsimp only
    split
    · split_ifs
      · exact deceived_reports opened _
      · exact reports_of_raised rfl _
    · exact viewed_reports opened

theorem validated_reports :
    Reports service.tracksUsage (validated crypto service disk request draws) := by
  have started := startSession_sessionOf service request draws
  unfold validated
  dsimp only
  split
  · exact reports_of_raised rfl _
  · split
    · exact reports_of_raised rfl _
    · split_ifs
      · exact rejected_reports started _
      · split
        · exact reports_of_raised rfl _
        · exact admitted_reports (started.map fun _ aware => aware)

/-- The attempt comes to a session of its own. -/
def OpensSession (service : SecureAccessService) (request : AccessRequest)
    (draws : AccessDraws) : Bool :=
  !request.forceDeception && !service.throttle.isLocked draws.throttleClock request.fileId &&
    service.tracksUsage

theorem attemptAccess_reports (crypto : Cryptography) (service : SecureAccessService)
    (disk : Disk) (request : AccessRequest) (draws : AccessDraws) :
    Reports (OpensSession service request draws)
      (attemptAccess crypto service disk request draws) := by
  unfold attemptAccess OpensSession
  split_ifs with forced throttled
  · simpa [forced] using @deceived_reports service disk request none _ .absent .wrongCredentials
  · simpa [throttled] using @deceived_reports service disk request none _ .absent .deviceMismatch
  · simpa [forced, throttled] using @validated_reports crypto service disk request draws

end Cases

end SecureAccessService

end CryptoUsb
