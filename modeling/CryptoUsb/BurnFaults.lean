import CryptoUsb.PersistentCopies

/-!
# Burns whose saves fail

The view of a one-time file comes before its burn, and the burn saves to one
copy after another.  A burn that cannot wrap its decoy, or a save that fails,
leaves a copy as it was, and a later attempt views the file again through it: the
file stays viewed once exactly when the decoy is wrapped and no save fails.
-/

namespace CryptoUsb

open ByteString TransitionRuns

/-- The device and the copies that persist between attempts. -/
structure StoreState where
  disk : Disk
  copies : List Repository

/-- The copies that can be opened. -/
def StoreState.opened (crypto : Cryptography) (state : StoreState) : List Repository :=
  state.copies.filterMap fun copy => (copy.reopen crypto state.disk).toOption

theorem StoreState.mem_opened {crypto : Cryptography} {state : StoreState}
    {repository : Repository} : repository ∈ state.opened crypto ↔
      ∃ copy ∈ state.copies, copy.reopen crypto state.disk = .ok repository := by
  simp only [opened, List.mem_filterMap]
  refine exists_congr fun copy => and_congr_right fun _ => ?_
  cases copy.reopen crypto state.disk <;> simp [Except.toOption]

section Later

variable {crypto : Cryptography} (family : KeyWrapper → Prop) (file : EncryptedFile crypto)

/-- A later attempt on the file through any copy that can be opened, mirrored to
the others, with any other arguments. -/
def LaterStep (state : StoreState) (result : AccessResult) (after : StoreState) : Prop :=
  ∃ service request draws,
    (state.opened crypto).Perm (SecureAccessService.repositories service) ∧
      request.fileId = file.fileId ∧ family request.keyWrapper ∧
      result = SecureAccessService.attemptAccess crypto service state.disk request draws ∧
      after = ⟨result.disk, result.repositories⟩

/-- No later attempt hands over the plaintext of the file. -/
def NeverViewedFrom (state : StoreState) : Prop :=
  ∀ results after, Run (LaterStep family file) state results after →
    ∀ result ∈ results, ∀ view ∈ result.views, view.buffer ≠ file.plaintext

/-- Every copy that can be opened holds one spent record. -/
def OpenedSpent (state : StoreState) : Prop :=
  ∃ stored, file.SpentRecord family stored ∧
    ∀ repository ∈ state.opened crypto, repository.load file.fileId = some stored

variable {family file}

/-- A later attempt on spent copies makes no view and leaves them spent. -/
theorem later_spent (trusted : TrustedPrimitives crypto family file.bytes)
    {state after : StoreState} {result : AccessResult} (spent : OpenedSpent family file state)
    (later : LaterStep family file state result after) :
    (∀ view ∈ result.views, view.buffer ≠ file.plaintext) ∧ OpenedSpent family file after := by
  obtain ⟨service, request, draws, copies, sameId, member, rfl, rfl⟩ := later
  obtain ⟨stored, spentRecord, holds⟩ := spent
  rcases SecureAccessService.attemptAccess_cases crypto service state.disk request draws with
    ⟨metadata, plaintext, grant, -⟩ | idle
  · obtain ⟨repository, _, primary, -, -⟩ := grant.recorded
    have inService : repository ∈ service.repositories := by
      simp [SecureAccessService.repositories, primary]
    have loaded := holds repository (copies.mem_iff.mpr inService)
    rw [← sameId] at loaded
    exact absurd grant (spentRecord.not_grant trusted primary loaded member)
  · refine ⟨by simp [idle.views], stored, spentRecord, fun repository opened => ?_⟩
    obtain ⟨copy, inResult, reopened⟩ := StoreState.mem_opened.mp opened
    rw [idle.repositories] at inResult
    rw [idle.disk] at reopened
    have wasOpened := copies.mem_iff.mpr inResult
    obtain ⟨_, -, openedBefore⟩ := StoreState.mem_opened.mp wasOpened
    obtain rfl := Except.ok.inj (reopened.symm.trans (Repository.reopen_idem openedBefore))
    exact holds repository wasOpened

theorem neverViewed_of_spent (trusted : TrustedPrimitives crypto family file.bytes)
    {state : StoreState} (spent : OpenedSpent family file state) :
    NeverViewedFrom family file state :=
  fun _ _ run => (run.forall_events (OpenedSpent family file) (later_spent trusted) spent).1

end Later

/-! ## The burn of a mirrored file -/

section Mirrored

variable {crypto : Cryptography} (file : EncryptedFile crypto) (metadata : FileMetadata)

/-- Every repository holds the same description of a one-time file, under keys of
its own, and is as it persists. -/
structure MirroredFile (disk : Disk) (repositories : List Repository) : Prop where
  describes : file.Describes metadata
  oneTime : metadata.usagePolicy.oneTimeAccess = true
  recorded : ∀ repository ∈ repositories, ∃ keys nonce stored,
    repository.load file.fileId = some stored ∧
      MetadataProtector.protect crypto keys nonce metadata = .ok stored
  separate : repositories.Pairwise Repository.Separate
  wellFormed : ∀ repository ∈ repositories, repository.WellFormed
  persisted : ∀ repository ∈ repositories, repository.reopen crypto disk = .ok repository

variable {file metadata} {family : KeyWrapper → Prop} {service : SecureAccessService}
  {disk : Disk} {request : AccessRequest} {draws : AccessDraws}

/-- A view of a mirrored file is a grant on its one description. -/
theorem MirroredFile.grant (trusted : TrustedPrimitives crypto family file.bytes)
    (mirrored : MirroredFile file metadata disk service.repositories)
    (sameId : request.fileId = file.fileId) {view : View}
    (viewed : view ∈ (SecureAccessService.attemptAccess crypto service disk request draws).views) :
    SecureAccessService.Grant crypto service request draws metadata file.plaintext ∧
      view.returned = request.onGranted file.plaintext metadata := by
  rcases SecureAccessService.attemptAccess_cases crypto service disk request draws with
    ⟨read, plaintext, grant, attempted⟩ | idle
  · rw [attempted, SecureAccessService.viewed_views, List.mem_singleton] at viewed
    obtain ⟨repository, stored, primary, loaded, unprotected⟩ := grant.recorded
    obtain ⟨keys, nonce, written, loadedEq, protectedEq⟩ := mirrored.recorded repository
      (by simp [SecureAccessService.repositories, primary])
    obtain rfl := Option.some.inj (loaded.symm.trans (sameId ▸ loadedEq))
    obtain rfl := MetadataProtector.eq_of_unprotect_protect trusted.aesGcm protectedEq unprotected
    obtain ⟨-, rfl⟩ :=
      EncryptedFile.of_grant trusted.aesGcm trusted.noSecondPreimage mirrored.describes grant
    exact ⟨grant, by rw [viewed]⟩
  · simp [idle.views] at viewed

/-- Through a copy that is as it was, the granted request is granted again, with
the keys of that copy. -/
theorem MirroredFile.viewed_again (trusted : TrustedPrimitives crypto family file.bytes)
    (mirrored : MirroredFile file metadata disk service.repositories)
    (sameId : request.fileId = file.fileId) (member : family request.keyWrapper)
    (grant : SecureAccessService.Grant crypto service request draws metadata file.plaintext)
    {state : StoreState} {repository : Repository} (inService : repository ∈ service.repositories)
    (opened : repository ∈ state.opened crypto) : ¬ NeverViewedFrom family file state := by
  intro never
  obtain ⟨keys, nonce, stored, loaded, written⟩ := mirrored.recorded repository inService
  obtain ⟨before, rest, split⟩ := List.append_of_mem opened
  let later : SecureAccessService := ⟨some repository, before ++ rest, {}, false⟩
  let again : AccessRequest := { request with protectionKeys := keys }
  have presented : request.encryptedFileBytes = file.bytes :=
    EncryptedFile.bytes_eq_of_verified trusted.noSecondPreimage mirrored.describes
      grant.accepted.intact
  have grantedAgain : SecureAccessService.Grant crypto later again draws metadata
      file.plaintext :=
    file.grant_of_record trusted.aesGcm grant.notForced rfl rfl (sameId ▸ loaded) written presented
      (presented ▸ grant.accepted)
      (EncryptedFile.of_grant trusted.aesGcm trusted.noSecondPreimage mirrored.describes grant).1
  have copies : (state.opened crypto).Perm later.repositories := by
    rw [split]
    exact List.perm_middle
  have viewed : (SecureAccessService.attemptAccess crypto later state.disk again draws).views =
      [⟨file.plaintext, metadata, request.onGranted file.plaintext metadata⟩] := by
    rw [SecureAccessService.attemptAccess_of_grant grantedAgain, SecureAccessService.viewed_views]
  exact never _ _ (.single ⟨later, again, draws, copies, sameId, member, rfl, rfl⟩) _
    (List.mem_singleton.mpr rfl) _ (viewed ▸ List.mem_singleton.mpr rfl) rfl

/-- When no save fails, the burn leaves every copy that can be opened spent. -/
theorem MirroredFile.spent_of_spared (trusted : TrustedPrimitives crypto family file.bytes)
    (mirrored : MirroredFile file metadata disk service.repositories)
    (member : family request.keyWrapper) (decoy : draws.burn.decoyFek.1 ≠ file.fek)
    (wraps : Returns (request.keyWrapper.wrap draws.burn.wrap draws.burn.decoyFek.1))
    (fits : ∀ stored, OneTimeAccessEnforcer.burnedRecord crypto metadata
      (SecureAccessService.effectiveWrapper crypto request.keyWrapper metadata.deviceBinding
        request.identity) draws.burn = .ok stored →
      ∀ repository ∈ service.repositories, repository.CanStore crypto stored)
    (grant : SecureAccessService.Grant crypto service request draws metadata file.plaintext)
    (returned : Returns (request.onGranted file.plaintext metadata))
    (spared : ∀ save < service.repositories.length, draws.saveFaults save = none) :
    OpenedSpent family file
      ⟨(SecureAccessService.attemptAccess crypto service disk request draws).disk,
        (SecureAccessService.attemptAccess crypto service disk request draws).repositories⟩ := by
  obtain ⟨stored, made, storedId, spent⟩ := OneTimeAccessEnforcer.burnedRecord_spent trusted
    mirrored.describes mirrored.oneTime member request.identity decoy wraps
  obtain ⟨repositories, -, diskEq⟩ := SecureAccessService.attemptAccess_burns disk grant returned
    mirrored.oneTime
  simp only [OneTimeAccessEnforcer.burn, made] at repositories diskEq
  have saved : ∀ save ∈ (OneTimeAccessEnforcer.saveAll crypto stored draws.burn.temporary
      draws.saveFaults 0 disk service.repositories).saves, Returns save :=
    OneTimeAccessEnforcer.saveAll_returns (fits stored made) (by simpa using spared)
  obtain ⟨-, held⟩ := OneTimeAccessEnforcer.saveAll_holds saved
  have persists := OneTimeAccessEnforcer.saveAll_persists mirrored.separate mirrored.wellFormed
    saved
  refine ⟨stored, spent, fun repository opened => ?_⟩
  obtain ⟨copy, inResult, reopened⟩ := StoreState.mem_opened.mp opened
  rw [repositories] at inResult
  have openedAfterSaves : copy.reopen crypto (OneTimeAccessEnforcer.saveAll crypto stored
      draws.burn.temporary draws.saveFaults 0 disk service.repositories).disk =
        .ok repository := by
    rw [diskEq] at reopened
    split_ifs at reopened
    · exact Repository.reopen_of_deleteContainer reopened
    · exact reopened
  obtain rfl := Except.ok.inj ((persists copy inResult).symm.trans openedAfterSaves)
  rw [← storedId]
  exact held copy inResult

/-- When the decoy is not wrapped, the burn leaves every copy as it was. -/
theorem MirroredFile.viewed_again_of_unwrapped
    (trusted : TrustedPrimitives crypto family file.bytes)
    (mirrored : MirroredFile file metadata disk service.repositories)
    (sameId : request.fileId = file.fileId) (member : family request.keyWrapper)
    (grant : SecureAccessService.Grant crypto service request draws metadata file.plaintext)
    (returned : Returns (request.onGranted file.plaintext metadata))
    (raises : ¬ Returns (request.keyWrapper.wrap draws.burn.wrap draws.burn.decoyFek.1)) :
    ¬ NeverViewedFrom family file
      ⟨(SecureAccessService.attemptAccess crypto service disk request draws).disk,
        (SecureAccessService.attemptAccess crypto service disk request draws).repositories⟩ := by
  obtain ⟨repositories, -, diskEq⟩ := SecureAccessService.attemptAccess_burns disk grant returned
    mirrored.oneTime
  cases made : OneTimeAccessEnforcer.burnedRecord crypto metadata
      (SecureAccessService.effectiveWrapper crypto request.keyWrapper metadata.deviceBinding
        request.identity) draws.burn with
  | ok stored =>
      obtain ⟨-, decoyWrapped, wrapped, -⟩ := OneTimeAccessEnforcer.burnedRecord_eq_ok.mp made
      exact absurd ((SecureAccessService.effectiveWrapper_wrap_returns trusted.encryptsAll).mp
        ⟨decoyWrapped, wrapped⟩) raises
  | error exc =>
      simp only [OneTimeAccessEnforcer.burn, made, not_returns_error, if_false]
        at repositories diskEq
      obtain ⟨repository, _, primary, -, -⟩ := grant.recorded
      have inService : repository ∈ service.repositories := by
        simp [SecureAccessService.repositories, primary]
      apply mirrored.viewed_again trusted sameId member grant inService
      rw [repositories, diskEq]
      exact StoreState.mem_opened.mpr ⟨repository, inService, mirrored.persisted _ inService⟩

/-- When a save fails, the burn leaves a copy through which the file is viewed
again. -/
theorem MirroredFile.viewed_again_of_fault (trusted : TrustedPrimitives crypto family file.bytes)
    (mirrored : MirroredFile file metadata disk service.repositories)
    (sameId : request.fileId = file.fileId) (member : family request.keyWrapper)
    (decoy : draws.burn.decoyFek.1 ≠ file.fek)
    (wraps : Returns (request.keyWrapper.wrap draws.burn.wrap draws.burn.decoyFek.1))
    (grant : SecureAccessService.Grant crypto service request draws metadata file.plaintext)
    (returned : Returns (request.onGranted file.plaintext metadata))
    {save : Nat} (inRound : save < service.repositories.length)
    (failing : draws.saveFaults save ≠ none) :
    ¬ NeverViewedFrom family file
      ⟨(SecureAccessService.attemptAccess crypto service disk request draws).disk,
        (SecureAccessService.attemptAccess crypto service disk request draws).repositories⟩ := by
  obtain ⟨stored, made, -, -⟩ := OneTimeAccessEnforcer.burnedRecord_spent trusted
    mirrored.describes mirrored.oneTime member request.identity decoy wraps
  obtain ⟨repositories, -, diskEq⟩ := SecureAccessService.attemptAccess_burns disk grant returned
    mirrored.oneTime
  simp only [OneTimeAccessEnforcer.burn, made] at repositories diskEq
  have burnRaises : ¬ Returns ((OneTimeAccessEnforcer.saveAll crypto stored draws.burn.temporary
      draws.saveFaults 0 disk service.repositories).outcome.map fun _ =>
        generateProtectionKeys draws.burn.keys) := by
    intro burnReturns
    obtain ⟨_, saved⟩ := returns_map.mp burnReturns
    have spared := OneTimeAccessEnforcer.spared_of_saveAll saved inRound
    rw [Nat.zero_add] at spared
    exact failing spared
  rw [if_neg burnRaises] at diskEq
  have failingFromZero : draws.saveFaults (0 + save) ≠ none := by simpa using failing
  obtain ⟨repository, inService, saved, inResult, opened⟩ :=
    OneTimeAccessEnforcer.saveAll_leaves stored draws.burn.temporary mirrored.separate
      mirrored.persisted inRound failingFromZero
  refine mirrored.viewed_again trusted sameId member grant inService
    (StoreState.mem_opened.mpr ⟨saved, ?_, ?_⟩)
  · rw [repositories]
    exact inResult
  · rw [diskEq]
    exact opened

/-- After the view of a one-time file has returned, no later attempt views it
exactly when its burn wraps the decoy and no save of it fails. -/
theorem neverViewed_iff_spared (trusted : TrustedPrimitives crypto family file.bytes)
    (mirrored : MirroredFile file metadata disk service.repositories)
    (sameId : request.fileId = file.fileId) (member : family request.keyWrapper)
    (decoy : draws.burn.decoyFek.1 ≠ file.fek)
    (fits : ∀ stored, OneTimeAccessEnforcer.burnedRecord crypto metadata
      (SecureAccessService.effectiveWrapper crypto request.keyWrapper metadata.deviceBinding
        request.identity) draws.burn = .ok stored →
      ∀ repository ∈ service.repositories, repository.CanStore crypto stored)
    (viewed : ∃ view ∈ (SecureAccessService.attemptAccess crypto service disk request draws).views,
      Returns view.returned) :
    NeverViewedFrom family file
        ⟨(SecureAccessService.attemptAccess crypto service disk request draws).disk,
          (SecureAccessService.attemptAccess crypto service disk request draws).repositories⟩ ↔
      Returns (request.keyWrapper.wrap draws.burn.wrap draws.burn.decoyFek.1) ∧
        ∀ save < service.repositories.length, draws.saveFaults save = none := by
  obtain ⟨view, inViews, viewReturned⟩ := viewed
  obtain ⟨grant, returnedEq⟩ := mirrored.grant trusted sameId inViews
  rw [returnedEq] at viewReturned
  constructor
  · intro never
    have wraps : Returns (request.keyWrapper.wrap draws.burn.wrap draws.burn.decoyFek.1) := by
      by_contra raises
      exact mirrored.viewed_again_of_unwrapped trusted sameId member grant viewReturned raises
        never
    refine ⟨wraps, fun save inRound => ?_⟩
    by_contra failing
    exact mirrored.viewed_again_of_fault trusted sameId member decoy wraps grant viewReturned
      inRound failing never
  · rintro ⟨wraps, spared⟩
    exact neverViewed_of_spent trusted
      (mirrored.spent_of_spared trusted member decoy wraps fits grant viewReturned spared)

end Mirrored

/-! ## One copy, with and without a fault -/

def plainOneTimeService (plaintext : Bytes) : SecureAccessService :=
  plainService (plainCrypto plaintext) (plainOneTime plaintext)

/-- Draws whose saves fail in these ways. -/
def plainDrawsWith (faults : SaveFaults) : AccessDraws :=
  { plainDraws with saveFaults := faults }

def plainAttemptWith (plaintext : Bytes) (faults : SaveFaults) : AccessResult :=
  SecureAccessService.attemptAccess (plainCrypto plaintext) (plainOneTimeService plaintext)
    (fun _ => none) (plainRequest plaintext) (plainDrawsWith faults)

theorem plainOneTime_mirrored (plaintext : Bytes) :
    MirroredFile (plainFile plaintext) (plainOneTime plaintext) (fun _ => none)
      (plainOneTimeService plaintext).repositories where
  describes := plainMetadata_describes ..
  oneTime := rfl
  recorded := by
    intro repository member
    obtain rfl := List.mem_singleton.mp member
    exact ⟨plainKeys, plainNonce, _, load_plainRepository _ (plainOneTime plaintext),
      protect_plainStored _⟩
  separate := List.pairwise_singleton ..
  wellFormed := by
    intro repository member
    obtain rfl := List.mem_singleton.mp member
    trivial
  persisted := by
    intro repository member
    obtain rfl := List.mem_singleton.mp member
    rfl

theorem plainOneTime_grantWith (plaintext : Bytes) (faults : SaveFaults) :
    SecureAccessService.Grant (plainCrypto plaintext) (plainOneTimeService plaintext)
      (plainRequest plaintext) (plainDrawsWith faults) (plainOneTime plaintext) plaintext :=
  ⟨rfl, rfl, (plainOneTime_grant plaintext).recorded, (plainOneTime_grant plaintext).accepted,
    (plainOneTime_grant plaintext).decrypted⟩

theorem plainAttemptWith_views (plaintext : Bytes) (faults : SaveFaults) :
    (plainAttemptWith plaintext faults).views =
      [⟨plaintext, plainOneTime plaintext, .ok ()⟩] := by
  rw [plainAttemptWith, SecureAccessService.attemptAccess_of_grant
    (plainOneTime_grantWith plaintext faults), SecureAccessService.viewed_views]
  rfl

/-- The only save fails: the view has returned, and the file is viewed again. -/
theorem viewed_again_after_failed_save :
    let result := plainAttemptWith [104, 105] fun _ => some ⟨.open, "disk I/O error", false⟩
    result.views = [⟨[104, 105], plainOneTime [104, 105], .ok ()⟩] ∧
      ¬ NeverViewedFrom IsTransparentWrapper (plainFile [104, 105])
        ⟨result.disk, result.repositories⟩ :=
  ⟨plainAttemptWith_views .., (plainOneTime_mirrored [104, 105]).viewed_again_of_fault
    (transparent_trusted _) rfl ⟨1, rfl⟩ plainDecoy_ne ⟨_, rfl⟩ (plainOneTime_grantWith ..)
    ⟨(), rfl⟩ Nat.zero_lt_one (by simp [plainDrawsWith])⟩

theorem neverViewed_iff_spared_plain :
    let result := plainAttemptWith [104, 105] fun _ => none
    NeverViewedFrom IsTransparentWrapper (plainFile [104, 105])
        ⟨result.disk, result.repositories⟩ ↔
      Returns ((plainRequest [104, 105]).keyWrapper.wrap plainDraws.burn.wrap
          plainDraws.burn.decoyFek.1) ∧
        ∀ save < (plainOneTimeService [104, 105]).repositories.length,
          (plainDrawsWith fun _ => none).saveFaults save = none :=
  neverViewed_iff_spared (transparent_trusted _) (plainOneTime_mirrored [104, 105]) rfl ⟨1, rfl⟩
    plainDecoy_ne (by
      intro stored made repository member
      obtain rfl := List.mem_singleton.mp member
      trivial)
    ⟨_, by
      rw [show SecureAccessService.attemptAccess _ _ _ _ _ = plainAttemptWith [104, 105] _ from rfl,
        plainAttemptWith_views]
      exact List.mem_singleton.mpr rfl, ⟨(), rfl⟩⟩

end CryptoUsb
