import CryptoUsb.TransitionRuns
import CryptoUsb.TransparentPrimitives

/-!
# Runs of attempts on a one-time file

A one-time file has records in several repositories.  Each attempt goes through
one of them, with the others as mirrors.  As long as the burn wraps its decoy and
its saves return, the file is viewed at most once: the burn leaves the same record
everywhere, and its key is a decoy.
-/

namespace CryptoUsb

open ByteString TransitionRuns

section Records

variable {crypto : Cryptography} (family : KeyWrapper → Prop) (file : EncryptedFile crypto)

/-- A record of the file that still allows its single view. -/
def EncryptedFile.LiveRecord (stored : ProtectedMetadata) : Prop :=
  ∃ metadata, file.Records stored metadata ∧ metadata.usagePolicy.oneTimeAccess = true

/-- A record of the file whose key no wrapper turns into the key of the file, on
whatever device. -/
def EncryptedFile.SpentRecord (stored : ProtectedMetadata) : Prop :=
  ∃ metadata, file.Records stored metadata ∧ ∀ wrapper, family wrapper → ∀ identity,
    (SecureAccessService.effectiveWrapper crypto wrapper metadata.deviceBinding
      identity).unwrap metadata.wrappedKey ≠ .ok file.fek

variable {family file}

/-- A spent record grants nothing on the bytes of the file. -/
theorem EncryptedFile.SpentRecord.not_opened (laws : crypto.AesGcmLaws)
    {stored : ProtectedMetadata} (spent : file.SpentRecord family stored)
    {service : SecureAccessService} {request : AccessRequest} {draws : AccessDraws}
    {repository : Repository} (primary : service.repository = some repository)
    (loaded : repository.load request.fileId = some stored)
    (member : family request.keyWrapper) (presented : request.encryptedFileBytes = file.bytes)
    {metadata : FileMetadata} {plaintext : Bytes} :
    ¬ SecureAccessService.Grant crypto service request draws metadata plaintext := by
  intro grant
  obtain ⟨recorded, records, decoy⟩ := spent
  obtain ⟨_, _, primaryEq, loadedEq, unprotected⟩ := grant.recorded
  obtain rfl := Option.some.inj (primary.symm.trans primaryEq)
  obtain rfl := Option.some.inj (loaded.symm.trans loadedEq)
  obtain rfl := EncryptedFile.unprotect_records laws records unprotected
  obtain ⟨unwrapped, -⟩ := EncryptedFile.opens_of_grant laws presented grant
  exact decoy request.keyWrapper member request.identity unwrapped

/-- A spent record grants nothing. -/
theorem EncryptedFile.SpentRecord.not_grant (trusted : TrustedPrimitives crypto family file.bytes)
    {stored : ProtectedMetadata} (spent : file.SpentRecord family stored)
    {service : SecureAccessService} {request : AccessRequest} {draws : AccessDraws}
    {repository : Repository} (primary : service.repository = some repository)
    (loaded : repository.load request.fileId = some stored)
    (member : family request.keyWrapper) {metadata : FileMetadata} {plaintext : Bytes} :
    ¬ SecureAccessService.Grant crypto service request draws metadata plaintext := by
  intro grant
  have ⟨recorded, records, _⟩ := spent
  obtain ⟨_, _, primaryEq, loadedEq, unprotected⟩ := grant.recorded
  obtain rfl := Option.some.inj (primary.symm.trans primaryEq)
  obtain rfl := Option.some.inj (loaded.symm.trans loadedEq)
  obtain rfl := EncryptedFile.unprotect_records trusted.aesGcm records unprotected
  have presented := EncryptedFile.bytes_eq_of_verified trusted.noSecondPreimage records.describes
    grant.accepted.intact
  exact spent.not_opened trusted.aesGcm primary loaded member presented grant

/-- The record that burns a file is spent. -/
theorem OneTimeAccessEnforcer.spent_of_burnedRecord (laws : crypto.AesGcmLaws)
    (genuine : GenuineWrappers family) {metadata : FileMetadata}
    (describes : file.Describes metadata) {wrapper : KeyWrapper} (member : family wrapper)
    {identity : PresentedIdentity} {entropy : BurnEntropy} {stored : ProtectedMetadata}
    (made : burnedRecord crypto metadata
      (SecureAccessService.effectiveWrapper crypto wrapper metadata.deviceBinding identity)
      entropy = .ok stored) (decoy : entropy.decoyFek.1 ≠ file.fek) :
    stored.fileId = file.fileId ∧ file.SpentRecord family stored := by
  obtain ⟨-, decoyWrapped, wrapped, written⟩ := burnedRecord_eq_ok.mp made
  refine ⟨(fileId_burnedRecord made).trans describes.fileId, burned metadata decoyWrapped,
    ⟨⟨describes.fileId, describes.hash⟩, ⟨_, _, written⟩⟩, ?_⟩
  intro other otherMember otherIdentity unwrapped
  have same := SecureAccessService.effectiveWrapper_genuine laws genuine member otherMember
    wrapped unwrapped
  exact decoy same.symm

/-- Burning a one-time file makes a record that is spent, once its decoy is wrapped. -/
theorem OneTimeAccessEnforcer.burnedRecord_spent
    (trusted : TrustedPrimitives crypto family file.bytes) {metadata : FileMetadata}
    (describes : file.Describes metadata) (oneTime : metadata.usagePolicy.oneTimeAccess = true)
    {wrapper : KeyWrapper} (member : family wrapper) (identity : PresentedIdentity)
    {entropy : BurnEntropy} (decoy : entropy.decoyFek.1 ≠ file.fek)
    (wraps : Returns (wrapper.wrap entropy.wrap entropy.decoyFek.1)) :
    ∃ stored, burnedRecord crypto metadata
        (SecureAccessService.effectiveWrapper crypto wrapper metadata.deviceBinding identity)
        entropy = .ok stored ∧ stored.fileId = file.fileId ∧ file.SpentRecord family stored := by
  obtain ⟨decoyWrapped, wrapped⟩ :=
    (SecureAccessService.effectiveWrapper_wrap_returns trusted.encryptsAll).mpr wraps
  have keySize : (generateProtectionKeys entropy.keys).encryptionKey.length =
      AesCipher.aesKeySizeBytes := entropy.keys.encryptionKey.2
  obtain ⟨stored, written⟩ := MetadataProtector.protect_total trusted.encryptsAll keySize
    entropy.nonce (burned metadata decoyWrapped)
  have made := burnedRecord_eq_ok.mpr ⟨oneTime, decoyWrapped, wrapped, written⟩
  exact ⟨stored, made, spent_of_burnedRecord trusted.aesGcm trusted.genuine describes member made
    decoy⟩

end Records

/-! ## Attempts that burn without a fault -/

section Attempts

variable {crypto : Cryptography} (family : KeyWrapper → Prop) (file : EncryptedFile crypto)

/-- A call of `attempt_access`, with all that it meets. -/
structure FileAttempt where
  service : SecureAccessService
  disk : Disk
  request : AccessRequest
  draws : AccessDraws

namespace FileAttempt

variable (crypto) (attempt : FileAttempt)

def result : AccessResult :=
  SecureAccessService.attemptAccess crypto attempt.service attempt.disk attempt.request
    attempt.draws

/-- A view has returned, and its burn begins. -/
def Burns : Prop :=
  ∃ view ∈ (attempt.result crypto).views, Returns view.returned

/-- The wrapper of the request wraps the 32 bytes that a burn draws. -/
def WrapsDecoy : Prop :=
  Returns (attempt.request.keyWrapper.wrap attempt.draws.burn.wrap attempt.draws.burn.decoyFek.1)

end FileAttempt

/-- An attempt on the file through any of its copies, mirrored to the others, with
any other arguments, in which every save returns. -/
structure AttemptStep (copies : List Repository) (attempt : FileAttempt)
    (after : List Repository) : Prop where
  copies : copies.Perm attempt.service.repositories
  fileId : attempt.request.fileId = file.fileId
  keyWrapper : family attempt.request.keyWrapper
  decoy : attempt.draws.burn.decoyFek.1 ≠ file.fek
  saves : ∀ saved ∈ (attempt.result crypto).saves, Returns saved
  after : after = (attempt.result crypto).repositories

/-- How often an attempt handed over the plaintext to a view that returned. -/
def completedViews (attempt : FileAttempt) : Nat :=
  (attempt.result crypto).views.countP fun view =>
    view.buffer = file.plaintext && decide (Returns view.returned)

/-- Every copy still allows the single view. -/
def AllLive (copies : List Repository) : Prop :=
  ∀ repository ∈ copies, ∃ stored, repository.load file.fileId = some stored ∧
    file.LiveRecord stored

/-- Every copy holds the same spent record. -/
def AllSpent (copies : List Repository) : Prop :=
  ∃ stored, file.SpentRecord family stored ∧
    ∀ repository ∈ copies, repository.load file.fileId = some stored

variable {family file}

theorem completedViews_idle {attempt : FileAttempt}
    (idle : (attempt.result crypto).Idle attempt.service attempt.disk) :
    completedViews file attempt = 0 := by
  simp [completedViews, idle.views]

theorem views_of_grant {attempt : FileAttempt} {metadata : FileMetadata} {plaintext : Bytes}
    (grant : SecureAccessService.Grant crypto attempt.service attempt.request attempt.draws
      metadata plaintext) : (attempt.result crypto).views =
        [⟨plaintext, metadata, attempt.request.onGranted plaintext metadata⟩] := by
  rw [FileAttempt.result, SecureAccessService.attemptAccess_of_grant grant,
    SecureAccessService.viewed_views]

theorem completedViews_of_grant {attempt : FileAttempt} {metadata : FileMetadata}
    (grant : SecureAccessService.Grant crypto attempt.service attempt.request attempt.draws
      metadata file.plaintext)
    (returned : Returns (attempt.request.onGranted file.plaintext metadata)) :
    completedViews file attempt = 1 := by
  simp [completedViews, views_of_grant grant, returned]

/-- An attempt on a live file leaves it live, or makes its view and spends it. -/
theorem attempt_live (trusted : TrustedPrimitives crypto family file.bytes)
    {copies after : List Repository} {attempt : FileAttempt} (live : AllLive file copies)
    (step : AttemptStep family file copies attempt after)
    (wraps : attempt.Burns crypto → attempt.WrapsDecoy) :
    completedViews file attempt = 0 ∧ AllLive file after ∨
      completedViews file attempt = 1 ∧ AllSpent family file after := by
  have returned := step.saves
  rw [step.after]
  have serviceLive : AllLive file attempt.service.repositories :=
    fun repository inService => live repository (step.copies.mem_iff.mpr inService)
  rcases SecureAccessService.attemptAccess_cases crypto attempt.service attempt.disk
    attempt.request attempt.draws with ⟨metadata, plaintext, grant, attempted⟩ | idle
  · obtain ⟨repository, stored, primary, loaded, unprotected⟩ := grant.recorded
    have inService : repository ∈ attempt.service.repositories := by
      simp [SecureAccessService.repositories, primary]
    obtain ⟨liveStored, liveLoaded, recorded, records, oneTime⟩ :=
      serviceLive repository inService
    obtain rfl : stored = liveStored :=
      Option.some.inj (loaded.symm.trans (step.fileId ▸ liveLoaded))
    obtain rfl := EncryptedFile.unprotect_records trusted.aesGcm records unprotected
    obtain ⟨-, rfl⟩ :=
      EncryptedFile.of_grant trusted.aesGcm trusted.noSecondPreimage records.describes grant
    by_cases viewReturned : Returns (attempt.request.onGranted file.plaintext metadata)
    · right
      refine ⟨completedViews_of_grant grant viewReturned, ?_⟩
      have burns : attempt.Burns crypto :=
        ⟨_, views_of_grant grant ▸ List.mem_singleton_self _, viewReturned⟩
      obtain ⟨burnedStored, made, burnedId, spent⟩ := OneTimeAccessEnforcer.burnedRecord_spent
        trusted records.describes oneTime step.keyWrapper attempt.request.identity step.decoy
        (wraps burns)
      obtain ⟨repositories, saves, -⟩ :=
        SecureAccessService.attemptAccess_burns attempt.disk grant viewReturned oneTime
      rw [FileAttempt.result, saves] at returned
      rw [FileAttempt.result, repositories]
      simp only [OneTimeAccessEnforcer.burn, made] at returned ⊢
      refine ⟨burnedStored, spent, ?_⟩
      rw [← burnedId]
      exact (OneTimeAccessEnforcer.saveAll_holds returned).2
    · left
      refine ⟨by simp [completedViews, views_of_grant grant, viewReturned], ?_⟩
      rw [FileAttempt.result, attempted,
        (SecureAccessService.viewed_keeps (.inl viewReturned)).1]
      exact serviceLive
  · left
    rw [FileAttempt.result, idle.repositories]
    exact ⟨completedViews_idle idle, serviceLive⟩

/-- An attempt on a spent file makes no view and changes no copy. -/
theorem attempt_spent (trusted : TrustedPrimitives crypto family file.bytes)
    {copies after : List Repository} {attempt : FileAttempt} (spent : AllSpent family file copies)
    (step : AttemptStep family file copies attempt after) :
    completedViews file attempt = 0 ∧ AllSpent family file after := by
  obtain ⟨stored, spentRecord, holds⟩ := spent
  have serviceHolds : ∀ repository ∈ attempt.service.repositories,
      repository.load file.fileId = some stored :=
    fun repository inService => holds repository (step.copies.mem_iff.mpr inService)
  rcases SecureAccessService.attemptAccess_cases crypto attempt.service attempt.disk
    attempt.request attempt.draws with ⟨metadata, plaintext, grant, -⟩ | idle
  · obtain ⟨repository, _, primary, -, -⟩ := grant.recorded
    have loaded := serviceHolds repository (by simp [SecureAccessService.repositories, primary])
    rw [← step.fileId] at loaded
    exact absurd grant (spentRecord.not_grant trusted primary loaded step.keyWrapper)
  · rw [step.after, FileAttempt.result, idle.repositories]
    exact ⟨completedViews_idle idle, stored, spentRecord, serviceHolds⟩

theorem oneTime_oneShot (trusted : TrustedPrimitives crypto family file.bytes) :
    OneShot (fun copies attempt after => AttemptStep family file copies attempt after ∧
        (attempt.Burns crypto → attempt.WrapsDecoy))
      (completedViews file) (AllLive file) (AllSpent family file) where
  fresh_step live step := attempt_live trusted live step.1 step.2
  spent_step spent step := attempt_spent trusted spent step.1

theorem length_attemptStep {copies after : List Repository} {attempt : FileAttempt}
    (step : AttemptStep family file copies attempt after) : after.length = copies.length := by
  rw [step.after, FileAttempt.result, SecureAccessService.length_repositories_attemptAccess,
    step.copies.length_eq]

/-- Along every run of attempts on a one-time file whose burns wrap their decoys, its
plaintext is viewed at most once, and after the view every copy holds the same spent
record. -/
theorem oneTime_run (trusted : TrustedPrimitives crypto family file.bytes)
    {copies after : List Repository} {attempts : List FileAttempt} (live : AllLive file copies)
    (run : Run (AttemptStep family file) copies attempts after)
    (wraps : ∀ attempt ∈ attempts, attempt.Burns crypto → attempt.WrapsDecoy) :
    (attempts.map (completedViews file)).sum ≤ 1 ∧ after.length = copies.length ∧
      ((attempts.map (completedViews file)).sum ≠ 0 → AllSpent family file after) := by
  have sameNumber : after.length = copies.length :=
    run.invariant (fun reached => reached.length = copies.length)
      (fun before attempt => (length_attemptStep attempt).trans before) rfl
  rcases (oneTime_oneShot trusted).run (run.restrict wraps) live with ⟨total, -⟩ | ⟨total, spent⟩
  · exact ⟨by omega, sameNumber, fun viewed => absurd total viewed⟩
  · exact ⟨by omega, sameNumber, fun _ => spent⟩

end Attempts

/-! ## A run with its view -/

/-- The record of a plain file that may be viewed once. -/
def plainOneTime (plaintext : Bytes) : FileMetadata :=
  plainMetadata plaintext {} { oneTimeAccess := true }

def plainOneTimeAttempt (plaintext : Bytes) : FileAttempt where
  service := plainService (plainCrypto plaintext) (plainOneTime plaintext)
  disk := fun _ => none
  request := plainRequest plaintext
  draws := plainDraws

theorem plainOneTime_live (plaintext : Bytes) :
    AllLive (plainFile plaintext)
      [plainRepository (plainCrypto plaintext) (plainOneTime plaintext)] := by
  intro repository member
  obtain rfl := List.mem_singleton.mp member
  exact ⟨_, load_plainRepository _ (plainOneTime plaintext), _,
    ⟨plainMetadata_describes .., _, _, protect_plainStored _⟩, rfl⟩

theorem plainOneTime_holds (plaintext : Bytes) :
    ValidationEngine.PolicyHolds plainInstant.1 (plainOneTime plaintext) where
  notExpired := by
    intro expiresAt expires
    cases expires
  withinCount := by
    intro maxAccessCount limited
    cases limited
  unused := fun _ => Int.zero_lt_one

theorem plainOneTime_grant (plaintext : Bytes) :
    SecureAccessService.Grant (plainCrypto plaintext)
      (plainService (plainCrypto plaintext) (plainOneTime plaintext)) (plainRequest plaintext)
      plainDraws (plainOneTime plaintext) plaintext :=
  plainGrant plaintext (plainOneTime_holds plaintext)

theorem plainOneTime_saves (plaintext : Bytes) :
    ∀ saved ∈ ((plainOneTimeAttempt plaintext).result (plainCrypto plaintext)).saves,
      Returns saved := by
  have saves : ((plainOneTimeAttempt plaintext).result (plainCrypto plaintext)).saves = _ :=
    (SecureAccessService.attemptAccess_burns (fun _ => none) (plainOneTime_grant plaintext)
      ⟨(), rfl⟩ rfl).2.1
  rw [saves]
  unfold OneTimeAccessEnforcer.burn
  split
  · simp
  · exact OneTimeAccessEnforcer.saveAll_returns (by
      simp [SecureAccessService.repositories, plainService, plainRepository,
        Repository.CanStore]) fun _ _ => rfl

theorem plainOneTimeAttempt_step (plaintext : Bytes) :
    AttemptStep IsTransparentWrapper (plainFile plaintext)
      [plainRepository (plainCrypto plaintext) (plainOneTime plaintext)]
      (plainOneTimeAttempt plaintext)
      ((plainOneTimeAttempt plaintext).result (plainCrypto plaintext)).repositories :=
  ⟨.refl _, rfl, ⟨1, rfl⟩, plainDecoy_ne, plainOneTime_saves plaintext, rfl⟩

theorem plainOneTimeAttempt_views (plaintext : Bytes) :
    completedViews (plainFile plaintext) (plainOneTimeAttempt plaintext) = 1 :=
  @completedViews_of_grant _ _ (plainOneTimeAttempt plaintext) _ (plainOneTime_grant plaintext)
    ⟨(), rfl⟩

/-- A plain file is viewed, and its burn leaves a spent record. -/
theorem oneTime_run_plain : ∃ attempt after,
    completedViews (plainFile [104, 105]) attempt = 1 ∧
      Run (AttemptStep IsTransparentWrapper (plainFile [104, 105]))
        [plainRepository (plainCrypto [104, 105]) (plainOneTime [104, 105])] [attempt] after ∧
      after.length = 1 ∧ AllSpent IsTransparentWrapper (plainFile [104, 105]) after := by
  have run := Run.single (plainOneTimeAttempt_step [104, 105])
  obtain ⟨-, sameNumber, spent⟩ := oneTime_run (transparent_trusted _)
    (plainOneTime_live [104, 105]) run (by simp [plainOneTimeAttempt, FileAttempt.WrapsDecoy,
      plainRequest, transparentWrapper])
  have viewed := plainOneTimeAttempt_views [104, 105]
  refine ⟨_, _, viewed, run, sameNumber, spent ?_⟩
  rw [List.map_singleton, List.sum_singleton, viewed]
  exact Nat.one_ne_zero

/-! ## A wrapper that unwraps only -/

/-- The private key of a pair beside a public key that is too short for OAEP. -/
def unwrapOnly : KeyWrapper :=
  { transparentWrapper 1 with
    wrap := fun _ _ => raise .keyWrappingError "RSA-OAEP key wrapping failed: Encryption failed" }

def OpensTransparently (wrapper : KeyWrapper) : Prop :=
  IsTransparentWrapper wrapper ∨ wrapper = unwrapOnly

theorem opensTransparently_trusted (bytes : Bytes) :
    TrustedPrimitives (transparent (markingDigest bytes)) OpensTransparently bytes where
  aesGcm := transparent_aesGcmLaws
  encryptsAll := transparent_encryptsAll
  genuine := by
    rintro first second (firstMember | rfl) secondMember entropy keyMaterial wrapped unwrapped
      wrote read
    · rcases secondMember with secondMember | rfl
      · exact transparentWrappers_genuine _ _ firstMember secondMember _ _ _ _ wrote read
      · exact transparentWrappers_genuine _ (transparentWrapper 1) firstMember ⟨1, rfl⟩ _ _ _ _
          wrote read
    · exact absurd wrote (raise_ne_ok _ _ _)
  noSecondPreimage := markingDigest_noSecondPreimage bytes

def unwrapOnlyAttempt (plaintext : Bytes) : FileAttempt :=
  { plainOneTimeAttempt plaintext with
    request := { plainRequest plaintext with keyWrapper := unwrapOnly } }

theorem unwrapOnly_grant (plaintext : Bytes) :
    SecureAccessService.Grant (plainCrypto plaintext)
      (plainService (plainCrypto plaintext) (plainOneTime plaintext))
      { plainRequest plaintext with keyWrapper := unwrapOnly } plainDraws (plainOneTime plaintext)
      plaintext :=
  (plainFile plaintext).grant_of_record transparent_aesGcmLaws rfl rfl rfl
    (load_plainRepository _ _) (protect_plainStored _) rfl
    (plainOneTime_grant plaintext).accepted rfl

theorem unwrapOnly_burns (plaintext : Bytes) :
    ((unwrapOnlyAttempt plaintext).result (plainCrypto plaintext)).repositories =
        [plainRepository (plainCrypto plaintext) (plainOneTime plaintext)] ∧
      ((unwrapOnlyAttempt plaintext).result (plainCrypto plaintext)).saves = [] := by
  obtain ⟨repositories, saves, -⟩ := SecureAccessService.attemptAccess_burns (fun _ => none)
    (unwrapOnly_grant plaintext) ⟨(), rfl⟩ rfl
  exact ⟨repositories, saves⟩

theorem unwrapOnlyAttempt_step (plaintext : Bytes) :
    AttemptStep OpensTransparently (plainFile plaintext)
      [plainRepository (plainCrypto plaintext) (plainOneTime plaintext)]
      (unwrapOnlyAttempt plaintext)
      [plainRepository (plainCrypto plaintext) (plainOneTime plaintext)] where
  copies := .refl _
  fileId := rfl
  keyWrapper := .inr rfl
  decoy := plainDecoy_ne
  saves := by
    rw [(unwrapOnly_burns plaintext).2]
    exact List.forall_mem_nil _
  after := (unwrapOnly_burns plaintext).1.symm

theorem unwrapOnlyAttempt_views (plaintext : Bytes) :
    completedViews (plainFile plaintext) (unwrapOnlyAttempt plaintext) = 1 :=
  @completedViews_of_grant _ _ (unwrapOnlyAttempt plaintext) _ (unwrapOnly_grant plaintext)
    ⟨(), rfl⟩

/-- With such a wrapper every save of every burn returns, for there is none, and the
plaintext is viewed twice. -/
theorem viewed_twice_without_decoy : ∃ copies attempts after,
    TrustedPrimitives (plainCrypto [104, 105]) OpensTransparently (plainFile [104, 105]).bytes ∧
      AllLive (plainFile [104, 105]) copies ∧
      Run (AttemptStep OpensTransparently (plainFile [104, 105])) copies attempts after ∧
      (attempts.map (completedViews (plainFile [104, 105]))).sum = 2 := by
  have step := unwrapOnlyAttempt_step [104, 105]
  refine ⟨_, _, _, opensTransparently_trusted _, plainOneTime_live [104, 105],
    (Run.single step).tail step, ?_⟩
  simp [unwrapOnlyAttempt_views]

end CryptoUsb
