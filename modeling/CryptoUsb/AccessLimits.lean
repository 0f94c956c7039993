import CryptoUsb.TransitionRuns
import CryptoUsb.TransparentPrimitives

/-!
# Access limits over runs

The count of accesses is compared with its limit at every attempt, but no
attempt writes it.  A run of valid attempts therefore makes a view at each of
them that comes in time, unless the limit is zero.
-/

namespace CryptoUsb

open ByteString TransitionRuns

/-- One call of the service with all it depends on. -/
structure ServiceCall where
  service : SecureAccessService
  disk : Disk
  request : AccessRequest
  draws : AccessDraws

def ServiceCall.result (crypto : Cryptography) (call : ServiceCall) : AccessResult :=
  SecureAccessService.attemptAccess crypto call.service call.disk call.request call.draws

/-- The file is not throttled and has not expired at the call. -/
def ServiceCall.inTime (call : ServiceCall) (rules : ExpiryRules) : Bool :=
  !call.service.throttle.isLocked call.draws.throttleClock call.request.fileId &&
    rules.expiresAt.all fun expiresAt =>
      expiresAt.lessThan call.draws.validationClock.1 = some false

section Limits

variable {crypto : Cryptography} (file : EncryptedFile crypto) (metadata : FileMetadata)

/-- A reusable file as it is stored with a limit on its accesses. -/
structure LimitedFile (limit : Nat) : Prop where
  describes : file.Describes metadata
  valid : MetadataController.validate metadata = .ok ()
  reusable : metadata.usagePolicy.oneTimeAccess = false
  limited : metadata.expiryRules.maxAccessCount = some (limit : Int)
  notAccessed : metadata.accessCount = 0

/-- A call through any of the copies with valid keys, device and bytes. -/
structure ValidCall (copies : List Repository) (call : ServiceCall) : Prop where
  copies : copies.Perm call.service.repositories
  fileId : call.request.fileId = file.fileId
  notForced : call.request.forceDeception = false
  keys : ∃ repository nonce stored, call.service.repository = some repository ∧
    repository.load file.fileId = some stored ∧
    MetadataProtector.protect crypto call.request.protectionKeys nonce metadata = .ok stored
  presented : call.request.encryptedFileBytes = file.bytes
  binding : (DeviceBindingValidator.validate metadata.deviceBinding call.request.identity).ok =
    true
  unwraps : (SecureAccessService.effectiveWrapper crypto call.request.keyWrapper
    metadata.deviceBinding call.request.identity).unwrap metadata.wrappedKey = .ok file.fek

def ValidCallStep (copies : List Repository) (call : ServiceCall) (after : List Repository) :
    Prop :=
  ValidCall file metadata copies call ∧ after = (call.result crypto).repositories

variable {file metadata} {limit : Nat}

theorem LimitedFile.policyHolds_iff (limited : LimitedFile file metadata limit)
    (now : IsoDateTime.DateTime) :
    ValidationEngine.PolicyHolds now metadata ↔ 0 < limit ∧
      metadata.expiryRules.expiresAt.all (fun expiresAt => expiresAt.lessThan now = some false) =
        true := by
  have unexpired : (∀ expiresAt, metadata.expiryRules.expiresAt = some expiresAt →
      expiresAt.lessThan now = some false) ↔ metadata.expiryRules.expiresAt.all
        (fun expiresAt => expiresAt.lessThan now = some false) = true := by
    cases metadata.expiryRules.expiresAt <;> simp
  constructor
  · intro holds
    have within := holds.withinCount limit limited.limited
    rw [limited.notAccessed] at within
    refine ⟨by exact_mod_cast within, ?_⟩
    exact unexpired.mp holds.notExpired
  · rintro ⟨positive, notExpired⟩
    refine ⟨unexpired.mpr notExpired, ?_, ?_⟩
    · intro maxAccessCount isLimit
      rw [limited.limited] at isLimit
      obtain rfl := Option.some.inj isLimit
      rw [limited.notAccessed]
      exact_mod_cast positive
    · intro oneTime
      simp [limited.reusable] at oneTime

/-- A valid call makes a view exactly when it comes in time and the limit is not
zero, and changes no copy. -/
theorem LimitedFile.validCall (laws : crypto.AesGcmLaws)
    (limited : LimitedFile file metadata limit) {copies : List Repository} {call : ServiceCall}
    (valid : ValidCall file metadata copies call) :
    (call.result crypto).views.length =
        (if 0 < limit ∧ call.inTime metadata.expiryRules = true then 1 else 0) ∧
      (call.result crypto).repositories = call.service.repositories := by
  obtain ⟨repository, nonce, stored, primary, loaded, written⟩ := valid.keys
  rw [← valid.fileId] at loaded
  have readsMetadata {metadata' plaintext}
      (grant : SecureAccessService.Grant crypto call.service call.request call.draws metadata'
        plaintext) : metadata' = metadata := by
    obtain ⟨_, _, primaryEq, loadedEq, unprotected⟩ := grant.recorded
    obtain rfl := Option.some.inj (primary.symm.trans primaryEq)
    obtain rfl := Option.some.inj (loaded.symm.trans loadedEq)
    exact MetadataProtector.eq_of_unprotect_protect laws written unprotected
  unfold ServiceCall.result
  by_cases allowed : 0 < limit ∧ call.inTime metadata.expiryRules = true
  · obtain ⟨positive, inTime⟩ := allowed
    simp only [ServiceCall.inTime, Bool.and_eq_true, Bool.not_eq_true'] at inTime
    have policy := (limited.policyHolds_iff call.draws.validationClock.1).mpr ⟨positive, inTime.2⟩
    have grant := file.grant_of_record laws valid.notForced inTime.1 primary loaded written
      valid.presented ⟨limited.valid, limited.describes.hash, policy, valid.binding⟩ valid.unwraps
    rw [SecureAccessService.attemptAccess_of_grant grant, SecureAccessService.viewed_views]
    refine ⟨by simp [positive, ServiceCall.inTime, inTime], ?_⟩
    exact (SecureAccessService.viewed_keeps (.inr limited.reusable)).1
  · rw [if_neg allowed]
    rcases SecureAccessService.attemptAccess_cases crypto call.service call.disk call.request
        call.draws with ⟨metadata', plaintext, grant, -⟩ | idle
    · exfalso
      obtain rfl := readsMetadata grant
      obtain ⟨positive, notExpired⟩ := (limited.policyHolds_iff _).mp grant.accepted.policy
      exact allowed ⟨positive, by simp [ServiceCall.inTime, grant.notThrottled, notExpired]⟩
    · exact ⟨by rw [idle.views]; rfl, idle.repositories⟩

/-- A run of valid calls makes as many views as it has calls in time, or none
where the limit is zero. -/
theorem LimitedFile.views_of_run (laws : crypto.AesGcmLaws)
    (limited : LimitedFile file metadata limit) {copies after : List Repository}
    {calls : List ServiceCall} (run : Run (ValidCallStep file metadata) copies calls after) :
    (calls.map fun call => (call.result crypto).views.length).sum =
      if 0 < limit then calls.countP (fun call => call.inTime metadata.expiryRules) else 0 := by
  induction run with
  | refl => simp
  | tail _ stepped ih =>
      obtain ⟨views, -⟩ := limited.validCall laws stepped.1
      simp only [List.map_append, List.map_cons, List.map_nil, List.sum_append, List.sum_cons,
        List.sum_nil, ih, views, List.countP_append, List.countP_singleton]
      by_cases positive : 0 < limit <;> simp [positive]

/-- The limit is kept by a run of valid calls exactly when it is zero or no more
calls than the limit come in time. -/
theorem views_le_limit_iff (laws : crypto.AesGcmLaws)
    (limited : LimitedFile file metadata limit) {copies after : List Repository}
    {calls : List ServiceCall} (run : Run (ValidCallStep file metadata) copies calls after) :
    (calls.map fun call => (call.result crypto).views.length).sum ≤ limit ↔
      limit = 0 ∨ calls.countP (fun call => call.inTime metadata.expiryRules) ≤ limit := by
  rw [limited.views_of_run laws run]
  by_cases positive : 0 < limit
  · have nonzero : limit ≠ 0 := by omega
    simp [positive, nonzero]
  · have zero : limit = 0 := by omega
    simp [zero]

end Limits

/-! ## Two accesses of a file limited to one -/

def plainLimited (plaintext : Bytes) (limit : Nat) : FileMetadata :=
  plainMetadata plaintext { maxAccessCount := some (limit : Int) } {}

def plainCall (plaintext : Bytes) (limit : Nat) : ServiceCall where
  service := plainService (plainCrypto plaintext) (plainLimited plaintext limit)
  disk := fun _ => none
  request := plainRequest plaintext
  draws := plainDraws

theorem plainLimited_limitedFile (plaintext : Bytes) (limit : Nat) :
    LimitedFile (plainFile plaintext) (plainLimited plaintext limit) limit :=
  ⟨plainMetadata_describes .., plainMetadata_valid .., rfl, rfl, rfl⟩

theorem plainCall_valid (plaintext : Bytes) (limit : Nat) :
    ValidCall (plainFile plaintext) (plainLimited plaintext limit)
      [plainRepository (plainCrypto plaintext) (plainLimited plaintext limit)]
      (plainCall plaintext limit) where
  copies := .refl _
  fileId := rfl
  notForced := rfl
  keys := ⟨_, plainNonce, _, rfl, load_plainRepository _ (plainLimited plaintext limit),
    protect_plainStored _⟩
  presented := rfl
  binding := (DeviceBindingValidator.validate_ok _ _).mpr ⟨nofun, nofun⟩
  unwraps := rfl

/-- The same valid call made twice. -/
theorem plainCall_run (plaintext : Bytes) (limit : Nat) :
    Run (ValidCallStep (plainFile plaintext) (plainLimited plaintext limit))
      [plainRepository (plainCrypto plaintext) (plainLimited plaintext limit)]
      [plainCall plaintext limit, plainCall plaintext limit]
      [plainRepository (plainCrypto plaintext) (plainLimited plaintext limit)] := by
  have unchanged : ((plainCall plaintext limit).result (plainCrypto plaintext)).repositories =
      [plainRepository (plainCrypto plaintext) (plainLimited plaintext limit)] :=
    ((plainLimited_limitedFile plaintext limit).validCall transparent_aesGcmLaws
      (plainCall_valid plaintext limit)).2
  have step : ValidCallStep (plainFile plaintext) (plainLimited plaintext limit)
      [plainRepository (plainCrypto plaintext) (plainLimited plaintext limit)]
      (plainCall plaintext limit)
      [plainRepository (plainCrypto plaintext) (plainLimited plaintext limit)] :=
    ⟨plainCall_valid plaintext limit, unchanged.symm⟩
  exact .tail (.single step) step

/-- A file limited to one access is viewed twice. -/
theorem viewed_past_limit :
    Run (ValidCallStep (plainFile [104, 105]) (plainLimited [104, 105] 1))
        [plainRepository (plainCrypto [104, 105]) (plainLimited [104, 105] 1)]
        [plainCall [104, 105] 1, plainCall [104, 105] 1]
        [plainRepository (plainCrypto [104, 105]) (plainLimited [104, 105] 1)] ∧
      ¬ ([plainCall [104, 105] 1, plainCall [104, 105] 1].map fun call =>
        (call.result (plainCrypto [104, 105])).views.length).sum ≤ 1 := by
  refine ⟨plainCall_run [104, 105] 1, ?_⟩
  rw [(plainLimited_limitedFile [104, 105] 1).views_of_run transparent_aesGcmLaws
    (plainCall_run [104, 105] 1)]
  have inTime : (plainCall [104, 105] 1).inTime (plainLimited [104, 105] 1).expiryRules = true :=
    rfl
  simp [inTime]

theorem views_le_limit_iff_plain :
    ([plainCall [104, 105] 1, plainCall [104, 105] 1].map fun call =>
        (call.result (plainCrypto [104, 105])).views.length).sum ≤ 1 ↔
      1 = 0 ∨ [plainCall [104, 105] 1, plainCall [104, 105] 1].countP
        (fun call => call.inTime (plainLimited [104, 105] 1).expiryRules) ≤ 1 :=
  views_le_limit_iff transparent_aesGcmLaws (plainLimited_limitedFile [104, 105] 1)
    (plainCall_run [104, 105] 1)

end CryptoUsb
