import CryptoUsb.PolicyAgreement

/-!
# Validating an accepted record

A record that `create` accepted is read back by every later validation.  The one comparison
that can raise is that of the clock with the expiry date: a validation returns a report
exactly when the expiry date, if there is one, has a timezone.
-/

namespace CryptoUsb

open ByteString IsoDateTime

/-- The order of a date-time and a reading of the clock is there only for an aware one. -/
theorem DateTime.lessThan_clock_isSome {dateTime : DateTime} {clock : UtcInstant} :
    (∃ answer, dateTime.lessThan clock.1 = some answer) ↔ dateTime.IsAware := by
  constructor
  · rintro ⟨answer, compared⟩
    cases offset : dateTime.utcoffset with
    | none => simp [DateTime.lessThan, offset, clock.2] at compared
    | some value => exact Option.isSome_iff_exists.mpr ⟨value, offset⟩
  · intro aware
    exact DateTime.lessThan_isSome aware clock.isAware

namespace ValidationEngine

variable {crypto : Cryptography} {keys : MetadataProtectionKeys} {clock : UtcInstant}
  {report : CheckReport} {metadata : FileMetadata} {encryptedFileBytes : Bytes}
  {identity : PresentedIdentity}

theorem checkExpiry_returns_iff {rules : ExpiryRules} :
    Returns (checkExpiry clock.1 report rules) ↔
      ∀ expiresAt, rules.expiresAt = some expiresAt → expiresAt.IsAware := by
  unfold checkExpiry
  cases rules.expiresAt with
  | none => simp
  | some expiresAt =>
      simp only [Option.some.injEq, forall_eq', ← @DateTime.lessThan_clock_isSome _ clock]
      cases expiresAt.lessThan clock.1 with
      | none => simp [Returns]
      | some answer => simp

theorem validatePolicy_returns_iff :
    Returns (validatePolicy clock.1 report metadata) ↔
      ∀ expiresAt, metadata.expiryRules.expiresAt = some expiresAt → expiresAt.IsAware := by
  rw [← @checkExpiry_returns_iff clock report]
  constructor
  · rintro ⟨result, validated⟩
    obtain ⟨checked, checkedEq, -⟩ := bind_eq_ok.mp validated
    exact ⟨checked, checkedEq⟩
  · rintro ⟨checked, checkedEq⟩
    exact ⟨_, bind_eq_ok.mpr ⟨checked, checkedEq, rfl⟩⟩

theorem checkRecord_returns_iff (valid : MetadataController.validate metadata = .ok ()) :
    Returns (checkRecord crypto clock.1 report metadata encryptedFileBytes identity) ↔
      ∀ expiresAt, metadata.expiryRules.expiresAt = some expiresAt → expiresAt.IsAware := by
  have structured : checkStructure report metadata = .ok (report.add .metadataIntegrity true) := by
    rw [checkStructure, valid]
  constructor
  · rintro ⟨result, checked⟩
    obtain ⟨_, -, rest⟩ := bind_eq_ok.mp checked
    obtain ⟨policy, policyChecked, -⟩ := bind_eq_ok.mp rest
    exact validatePolicy_returns_iff.mp ⟨policy, policyChecked⟩
  · intro aware
    obtain ⟨policy, policyChecked⟩ := validatePolicy_returns_iff.mpr aware
    exact ⟨_, bind_eq_ok.mpr ⟨_, structured, bind_eq_ok.mpr ⟨policy, policyChecked, rfl⟩⟩⟩

theorem validate_of_unprotected {repository : Repository} {fileId : String}
    {stored : ProtectedMetadata} (loaded : repository.load fileId = some stored)
    (unprotected : MetadataProtector.unprotect crypto keys stored = .ok metadata) :
    validate crypto repository keys clock.1 fileId encryptedFileBytes identity = (do
      let report ← checkRecord crypto clock.1
        ((CheckReport.empty.add .metadataPresent true).add .hmac true) metadata encryptedFileBytes
          identity
      return { fileId, report, metadata := some metadata }) := by
  simp only [validate, loaded, unprotected]

end ValidationEngine

namespace MetadataController

variable {crypto : Cryptography} {keys : MetadataProtectionKeys} {draws : ControllerDraws}
  {repository later : MetadataRepository} {request : CreateRequest} {now : UtcInstant}
  {metadata : FileMetadata}

/-- What a `create` that returned has left in the table. -/
theorem create_returns
    (created : (create crypto keys draws repository request now).2 = .ok metadata) :
    metadata = newRecord request now ∧ validate metadata = .ok () ∧
      ∃ stored, MetadataProtector.protect crypto keys draws.nonce metadata = .ok stored ∧
        (create crypto keys draws repository request now).1 = repository.upsert stored ∧
        (create crypto keys draws repository request now).1.load request.fileId =
          some stored := by
  unfold create at created ⊢
  rcases store_cases crypto keys draws repository (newRecord request now) with
    ⟨stored, valid, -, written, saved⟩ | ⟨exc, raised⟩
  · rw [saved] at created ⊢
    obtain rfl := Except.ok.inj created
    refine ⟨rfl, valid, stored, written, rfl, ?_⟩
    have sameId : stored.fileId = request.fileId := (MetadataProtector.protect_eq_ok.mp written).2.1
    rw [← sameId]
    exact repository.load_upsert stored
  · rw [raised] at created
    cases created

/-- A validation of a record that `create` accepted returns a report exactly when its expiry
date, if it has one, has a timezone. -/
theorem validate_accepted_returns_iff (laws : crypto.AesGcmLaws)
    (created : (create crypto keys draws repository request now).2 = .ok metadata)
    (kept : later.load request.fileId =
      (create crypto keys draws repository request now).1.load request.fileId)
    (clock : UtcInstant) (encryptedFileBytes : Bytes) (identity : PresentedIdentity) :
    (∃ report, ValidationEngine.validate crypto (.sqlite later) keys clock.1 request.fileId
        encryptedFileBytes identity = .ok report) ↔
      ∀ expiresAt, (request.expiryRules.getD {}).expiresAt = some expiresAt →
        expiresAt.IsAware := by
  obtain ⟨rfl, valid, stored, written, -, loaded⟩ := create_returns created
  have found : (Repository.sqlite later).load request.fileId = some stored := kept.trans loaded
  have unprotected := MetadataProtector.unprotect_protect laws written
  rw [ValidationEngine.validate_of_unprotected found unprotected]
  have checks := @ValidationEngine.checkRecord_returns_iff crypto clock
    ((CheckReport.empty.add .metadataPresent true).add .hmac true) (newRecord request now)
    encryptedFileBytes identity valid
  refine Iff.trans ?_ checks
  constructor
  · rintro ⟨report, validated⟩
    obtain ⟨checked, checkedEq, -⟩ := bind_eq_ok.mp validated
    exact ⟨checked, checkedEq⟩
  · rintro ⟨checked, checkedEq⟩
    exact ⟨_, bind_eq_ok.mpr ⟨checked, checkedEq, rfl⟩⟩

end MetadataController

/-! ## An expiry date without a timezone -/

def naiveInstant : DateTime :=
  ⟨0, plainInstant.1.inRange, none⟩

/-- A file that expires at this instant. -/
def expiringRequest (expiresAt : DateTime) : CreateRequest where
  fileId := "f"
  ownerId := "owner"
  wrappedKey := [1]
  wrapAlgorithm := "RSA-OAEP"
  integrityHash := computeIntegrityHash (transparent (padTo 32)) []
  expiryRules := some { expiresAt := some expiresAt }

def plainControllerDraws : ControllerDraws where
  nonce := plainNonce

theorem expiringRequest_created (expiresAt : DateTime) :
    ∃ metadata, (MetadataController.create (transparent (padTo 32)) plainKeys plainControllerDraws {}
      (expiringRequest expiresAt) plainInstant).2 = .ok metadata := by
  have valid : MetadataController.validate
      (MetadataController.newRecord (expiringRequest expiresAt) plainInstant) = .ok () := by
    obtain ⟨length, hex⟩ := computeIntegrityHash_valid (transparent (padTo 32)) []
    simp [MetadataController.validate, MetadataController.newRecord, expiringRequest, length, hex]
  obtain ⟨stored, written⟩ := @MetadataProtector.protect_total (transparent (padTo 32)) plainKeys
    transparent_encryptsAll (by decide) plainNonce
    (MetadataController.newRecord (expiringRequest expiresAt) plainInstant)
  refine ⟨MetadataController.newRecord (expiringRequest expiresAt) plainInstant, ?_⟩
  simp only [MetadataController.create, MetadataController.store, valid, plainControllerDraws,
    written]
  rfl

/-- A record with a naive expiry date is accepted, and its validation raises. -/
theorem naive_expiry_raises :
    ∃ metadata, (MetadataController.create (transparent (padTo 32)) plainKeys plainControllerDraws {}
        (expiringRequest naiveInstant) plainInstant).2 = .ok metadata ∧
      ¬ ∃ report, ValidationEngine.validate (transparent (padTo 32))
        (.sqlite (MetadataController.create (transparent (padTo 32)) plainKeys plainControllerDraws
          {} (expiringRequest naiveInstant) plainInstant).1) plainKeys plainInstant.1 "f" [] {} =
          .ok report := by
  obtain ⟨metadata, created⟩ := expiringRequest_created naiveInstant
  refine ⟨metadata, created, ?_⟩
  rintro ⟨report, validated⟩
  obtain ⟨rfl, valid, stored, written, -, loaded⟩ := MetadataController.create_returns created
  have found : (Repository.sqlite (MetadataController.create (transparent (padTo 32)) plainKeys
      plainControllerDraws {} (expiringRequest naiveInstant) plainInstant).1).load "f" =
      some stored := loaded
  have unprotected := MetadataProtector.unprotect_protect transparent_aesGcmLaws written
  rw [ValidationEngine.validate_of_unprotected found unprotected] at validated
  obtain ⟨checked, checkedEq, -⟩ := bind_eq_ok.mp validated
  have aware := (ValidationEngine.checkRecord_returns_iff valid).mp ⟨checked, checkedEq⟩
    naiveInstant rfl
  simp [DateTime.IsAware, naiveInstant] at aware

theorem validate_accepted_returns_iff_aware :
    ∃ metadata, (MetadataController.create (transparent (padTo 32)) plainKeys plainControllerDraws {}
        (expiringRequest plainInstant.1) plainInstant).2 = .ok metadata ∧
      ∃ report, ValidationEngine.validate (transparent (padTo 32))
        (.sqlite (MetadataController.create (transparent (padTo 32)) plainKeys plainControllerDraws
          {} (expiringRequest plainInstant.1) plainInstant).1) plainKeys plainInstant.1 "f" [] {} =
          .ok report := by
  obtain ⟨metadata, created⟩ := expiringRequest_created plainInstant.1
  have aware : ∀ expiresAt, ((expiringRequest plainInstant.1).expiryRules.getD {}).expiresAt =
      some expiresAt → expiresAt.IsAware := by
    intro expiresAt expires
    obtain rfl := Option.some.inj expires
    exact plainInstant.isAware
  exact ⟨metadata, created, (MetadataController.validate_accepted_returns_iff
    transparent_aesGcmLaws created rfl plainInstant [] {}).mpr aware⟩

end CryptoUsb
