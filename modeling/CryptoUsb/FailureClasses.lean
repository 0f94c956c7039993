import CryptoUsb.AcceptedRecords
import CryptoUsb.SecureAccess

/-!
# Classes of failed validations

A validation that fails has recorded a check that failed, and the trigger that it is mapped to
is determined by what went wrong: the first of four classes that applies.  The names under
which checks are recorded never hide one another.
-/

namespace CryptoUsb

open ByteString IsoDateTime

/-! ## Checks that failed -/

namespace CheckReport

theorem lookup_add (report : CheckReport) (name other : CheckName) (passed : Bool)
    (reason : Option String) : (report.add name passed reason).checks.lookup other =
      if other = name then some passed else report.checks.lookup other := by
  change (report.checks.insert name passed).lookup other = _
  split_ifs with same
  · rw [same, AList.lookup_insert]
  · exact AList.lookup_insert_ne same

theorem failed_add (report : CheckReport) (name other : CheckName) (passed : Bool)
    (reason : Option String) : (report.add name passed reason).failed other =
      if other = name then !passed else report.failed other := by
  unfold failed
  rw [lookup_add]
  split_ifs with same
  · cases passed <;> rfl
  · rfl

/-- The checks of another report take the place of those of the same name. -/
theorem lookup_addAll (report : CheckReport) {entries : List (Sigma fun _ : CheckName => Bool)}
    (distinct : entries.NodupKeys) (name : CheckName) :
    (report.addAll entries).checks.lookup name =
      (entries.dlookup name).or (report.checks.lookup name) := by
  induction entries generalizing report with
  | nil => rfl
  | cons entry entries ih =>
      obtain ⟨fresh, rest⟩ := List.nodupKeys_cons.mp distinct
      rw [addAll, List.foldl_cons, ← addAll, ih _ rest, lookup_add]
      obtain ⟨key, passed⟩ := entry
      by_cases same : name = key
      · subst same
        rw [List.dlookup_eq_none.mpr fresh, List.dlookup_cons_eq]
        simp
      · rw [List.dlookup_cons_ne _ _ same]
        simp [same]

/-- All checks of a report are of these names. -/
def NamesIn (names : List CheckName) (report : CheckReport) : Prop :=
  ∀ name, (report.checks.lookup name).isSome → name ∈ names

theorem NamesIn.empty (names : List CheckName) : NamesIn names .empty := by
  intro name recorded
  simp [CheckReport.empty] at recorded

theorem NamesIn.add {names : List CheckName} {report : CheckReport} (named : NamesIn names report)
    (name : CheckName) (member : name ∈ names) (passed : Bool) (reason : Option String) :
    NamesIn names (report.add name passed reason) := by
  intro other recorded
  rw [lookup_add] at recorded
  split_ifs at recorded with same
  · rwa [same]
  · exact named other recorded

end CheckReport

/-! ## The checks of a device binding -/

namespace SecureAccessService

open DeviceBindingValidator

section Binding

variable {report : CheckReport} {binding : DeviceBinding} {identity : PresentedIdentity}

theorem checkSerial_names (named : report.NamesIn deviceCheckNames) (device : Option USBDevice)
    (serial presented : String) :
    (checkSerial report binding device serial presented).NamesIn deviceCheckNames := by
  have identified := fun passed reason => named.add .usbIdentifier (by decide) passed reason
  unfold checkSerial
  dsimp only
  split_ifs
  · exact identified true none
  · exact (identified false _).add .clonedUsb (by decide) _ _
  · exact (identified false _).add .unauthorizedDevice (by decide) _ _

theorem checkDevice_names (named : report.NamesIn deviceCheckNames) :
    (checkDevice report binding identity).NamesIn deviceCheckNames := by
  unfold checkDevice
  split
  · exact named.add .unauthorizedDevice (by decide) _ _
  · split
    · have identified := fun passed reason => named.add .usbIdentifier (by decide) passed reason
      dsimp only
      split_ifs
      · exact identified _ _
      · exact (identified _ _).add .unauthorizedDevice (by decide) _ _
    · have serial := @checkSerial_names report binding named identity.device
      unfold checkDescriptor
      split_ifs
      · exact (serial _ _).add .hardwareDescriptor (by decide) _ _
      · exact serial _ _

theorem checkMachine_names (named : report.NamesIn deviceCheckNames) :
    (checkMachine report binding identity).NamesIn deviceCheckNames := by
  unfold checkMachine
  split
  · exact named
  · exact named.add .machineFingerprint (by decide) _ _

theorem binding_names (binding : DeviceBinding) (identity : PresentedIdentity) :
    (DeviceBindingValidator.validate binding identity).NamesIn deviceCheckNames := by
  have empty := CheckReport.NamesIn.empty deviceCheckNames
  unfold DeviceBindingValidator.validate
  refine CheckReport.NamesIn.add (checkMachine_names ?_) .deviceBinding (by decide) _ _
  split_ifs
  · exact checkDevice_names empty
  · exact empty

theorem failed_mergeBinding (report : CheckReport) (binding : DeviceBinding)
    (identity : PresentedIdentity) (name : CheckName) :
    (ValidationEngine.mergeBinding report
        (DeviceBindingValidator.validate binding identity)).failed name =
      match (DeviceBindingValidator.validate binding identity).checks.lookup name with
      | some passed => !passed
      | none => report.failed name := by
  have merged : (ValidationEngine.mergeBinding report
      (DeviceBindingValidator.validate binding identity)).checks.lookup name =
        ((DeviceBindingValidator.validate binding identity).checks.lookup name).or
          (report.checks.lookup name) :=
    report.lookup_addAll (DeviceBindingValidator.validate binding identity).checks.nodupKeys name
  unfold CheckReport.failed
  simp only [merged]
  cases found : (DeviceBindingValidator.validate binding identity).checks.lookup name with
  | none => rfl
  | some passed => cases passed <;> rfl

theorem failed_mergeBinding_other {name : CheckName} (other : name ∉ deviceCheckNames) :
    (ValidationEngine.mergeBinding report
      (DeviceBindingValidator.validate binding identity)).failed name = report.failed name := by
  have absent : (DeviceBindingValidator.validate binding identity).checks.lookup name = none := by
    cases found : (DeviceBindingValidator.validate binding identity).checks.lookup name with
    | none => rfl
    | some passed => exact absurd (binding_names binding identity name (by simp [found])) other
  rw [failed_mergeBinding, absent]

/-- With the checks of a binding merged into a report that had none of them, one of their names
failed exactly when the binding was refused. -/
theorem deviceChecks_failed (fresh : ∀ name ∈ deviceCheckNames, report.failed name = false) :
    deviceCheckNames.any (ValidationEngine.mergeBinding report
        (DeviceBindingValidator.validate binding identity)).failed = true ↔
      (DeviceBindingValidator.validate binding identity).ok = false := by
  rw [List.any_eq_true]
  constructor
  · rintro ⟨name, member, failed⟩
    rw [failed_mergeBinding] at failed
    cases found : (DeviceBindingValidator.validate binding identity).checks.lookup name with
    | none => simp [found, fresh name member] at failed
    | some passed =>
        rw [found, Bool.not_eq_true'] at failed
        subst failed
        by_contra accepted
        have passed := (DeviceBindingValidator.validate binding identity).consistent
          (Bool.eq_true_of_not_eq_false accepted) name false found
        cases passed
  · intro refused
    refine ⟨.deviceBinding, by decide, ?_⟩
    have recorded : (DeviceBindingValidator.validate binding identity).checks.lookup
        .deviceBinding = some (DeviceBindingValidator.validate binding identity).ok := by
      simp [DeviceBindingValidator.validate, CheckReport.add]
    rw [failed_mergeBinding, recorded, refused]
    rfl

end Binding

end SecureAccessService

/-! ## The checks of a record -/

namespace ValidationEngine

variable {crypto : Cryptography} {now : UtcInstant} {report result : CheckReport}
  {metadata : FileMetadata} {encryptedFileBytes : Bytes} {identity : PresentedIdentity}

theorem policyHolds_iff_satisfied : PolicyHolds now.1 metadata ↔
    ∀ rule : MetadataController.PolicyRule, rule.satisfied now metadata = true := by
  constructor
  · intro holds rule
    cases rule with
    | expiry => simpa [MetadataController.PolicyRule.satisfied, Option.all_eq_true] using
        holds.notExpired
    | accessCount => simpa [MetadataController.PolicyRule.satisfied, Option.all_eq_true] using
        holds.withinCount
    | reusedAccess =>
        cases oneTime : metadata.usagePolicy.oneTimeAccess with
        | false => simp [MetadataController.PolicyRule.satisfied, oneTime]
        | true => simpa [MetadataController.PolicyRule.satisfied, oneTime] using holds.unused oneTime
  · intro satisfied
    have expiry := satisfied .expiry
    have accessCount := satisfied .accessCount
    have reusedAccess := satisfied .reusedAccess
    simp only [MetadataController.PolicyRule.satisfied, Option.all_eq_true, decide_eq_true_eq,
      Bool.or_eq_true, Bool.not_eq_true'] at expiry accessCount reusedAccess
    refine ⟨expiry, accessCount, fun oneTime => ?_⟩
    rcases reusedAccess with reusable | unused
    · rw [reusable] at oneTime
      cases oneTime
    · exact unused

def policyCheckNames : List CheckName :=
  MetadataController.policyRules.map MetadataController.PolicyRule.checkName

theorem validatePolicy_keeps (validated : validatePolicy now.1 report metadata = .ok result)
    {name : CheckName} (other : name ∉ policyCheckNames) :
    result.failed name = report.failed name := by
  have different : name ≠ .expiry ∧ name ≠ .accessCount ∧ name ≠ .reusedAccess := by
    simpa [policyCheckNames, MetadataController.policyRules,
      MetadataController.PolicyRule.checkName] using other
  obtain ⟨afterExpiry, checked, written⟩ := bind_eq_ok.mp validated
  obtain rfl := Except.ok.inj written
  have expiry : afterExpiry.failed name = report.failed name := by
    unfold checkExpiry at checked
    split at checked
    · obtain rfl := Except.ok.inj checked
      rw [CheckReport.failed_add, if_neg different.1]
    · split at checked
      · cases checked
      · obtain rfl := Except.ok.inj checked
        rw [CheckReport.failed_add, if_neg different.1]
  have count : (checkAccessCount afterExpiry metadata).failed name = afterExpiry.failed name := by
    unfold checkAccessCount
    split <;> rw [CheckReport.failed_add, if_neg different.2.1]
  unfold checkReuse
  split_ifs <;> rw [CheckReport.failed_add, if_neg different.2.2, count, expiry]

/-- A check of the usage rules failed exactly when they do not hold. -/
theorem policyChecks_failed (validated : validatePolicy now.1 report metadata = .ok result) :
    policyCheckNames.any result.failed = true ↔ ¬ PolicyHolds now.1 metadata := by
  have aware := validatePolicy_returns_iff.mp ⟨result, validated⟩
  obtain ⟨other, same, recorded⟩ := MetadataController.validatePolicy_records aware report
  obtain rfl := Except.ok.inj (validated.symm.trans same)
  have failed (rule : MetadataController.PolicyRule) :
      result.failed rule.checkName = !rule.satisfied now metadata := by
    rw [CheckReport.failed, recorded rule]
    cases rule.satisfied now metadata <;> rfl
  rw [policyHolds_iff_satisfied, policyCheckNames, List.any_map, List.any_eq_true]
  constructor
  · rintro ⟨rule, -, broken⟩ satisfied
    simp [failed, satisfied rule] at broken
  · intro broken
    obtain ⟨rule, unsatisfied⟩ := not_forall.mp broken
    refine ⟨rule, by cases rule <;> decide, ?_⟩
    simp [failed, unsatisfied]

theorem checkStructure_failed (checked : checkStructure report metadata = .ok result) :
    (result.failed .metadataIntegrity = true ↔ MetadataController.validate metadata ≠ .ok ()) ∧
      ∀ name ≠ .metadataIntegrity, result.failed name = report.failed name := by
  unfold checkStructure at checked
  split at checked
  case h_1 valid =>
    obtain rfl := Except.ok.inj checked
    refine ⟨?_, fun name other => by rw [CheckReport.failed_add, if_neg other]⟩
    simp [CheckReport.failed_add, valid]
  case h_2 exc invalid =>
    split_ifs at checked
    obtain rfl := Except.ok.inj checked
    refine ⟨?_, fun name other => by rw [CheckReport.failed_add, if_neg other]⟩
    simp [CheckReport.failed_add, invalid]

/-- Which checks of a record failed. -/
structure RecordFailures (crypto : Cryptography) (now : UtcInstant) (report result : CheckReport)
    (metadata : FileMetadata) (encryptedFileBytes : Bytes) (identity : PresentedIdentity) :
    Prop where
  earlier : ∀ name ∈ [CheckName.metadataPresent, .hmac], result.failed name = report.failed name
  structured : result.failed .metadataIntegrity = true ↔
    MetadataController.validate metadata ≠ .ok ()
  intact : result.failed .fileIntegrity =
    !verifyIntegrityHash crypto encryptedFileBytes metadata.integrityHash
  policy : policyCheckNames.any result.failed = true ↔ ¬ PolicyHolds now.1 metadata
  binding : SecureAccessService.deviceCheckNames.any result.failed = true ↔
    (DeviceBindingValidator.validate metadata.deviceBinding identity).ok = false

theorem checkRecord_failures
    (fresh : ∀ name ∈ SecureAccessService.deviceCheckNames, report.failed name = false)
    (checked : checkRecord crypto now.1 report metadata encryptedFileBytes identity = .ok result) :
    RecordFailures crypto now report result metadata encryptedFileBytes identity := by
  obtain ⟨afterStructure, structureChecked, rest⟩ := bind_eq_ok.mp checked
  obtain ⟨afterPolicy, policyChecked, written⟩ := bind_eq_ok.mp rest
  obtain rfl := Except.ok.inj written
  obtain ⟨structured, structureKeeps⟩ := checkStructure_failed structureChecked
  have merged {name : CheckName} := @SecureAccessService.failed_mergeBinding_other afterPolicy
    metadata.deviceBinding identity name
  have policyKeeps {name : CheckName} := @validatePolicy_keeps now _ _ metadata policyChecked name
  have earlier (name : CheckName) (notDevice : name ∉ SecureAccessService.deviceCheckNames)
      (notPolicy : name ∉ policyCheckNames) : (mergeBinding afterPolicy
        (DeviceBindingValidator.validate metadata.deviceBinding identity)).failed name =
        if name = .fileIntegrity then
          !verifyIntegrityHash crypto encryptedFileBytes metadata.integrityHash
        else afterStructure.failed name := by
    rw [merged notDevice, policyKeeps notPolicy, CheckReport.failed_add]
  constructor
  case earlier =>
    intro name member
    rcases List.mem_pair.mp member with rfl | rfl
    all_goals
      rw [earlier _ (by decide) (by decide), if_neg (by decide), structureKeeps _ (by decide)]
  case structured =>
    rw [earlier _ (by decide) (by decide), if_neg (by decide)]
    exact structured
  case intact => rw [earlier _ (by decide) (by decide), if_pos rfl]
  case policy =>
    rw [← policyChecks_failed policyChecked]
    have notDevice : ∀ name ∈ policyCheckNames, name ∉ SecureAccessService.deviceCheckNames := by
      decide
    rw [List.any_eq_true, List.any_eq_true]
    refine exists_congr fun name => and_congr_right fun member => ?_
    rw [merged (notDevice name member)]
  case binding =>
    apply SecureAccessService.deviceChecks_failed
    intro name member
    have notPolicy : ∀ name ∈ SecureAccessService.deviceCheckNames, name ∉ policyCheckNames ∧
        name ≠ .fileIntegrity ∧ name ≠ .metadataIntegrity := by
      decide
    obtain ⟨notRule, notHash, notStructure⟩ := notPolicy name member
    rw [policyKeeps notRule, CheckReport.failed_add, if_neg notHash, structureKeeps name notStructure]
    exact fresh name member

end ValidationEngine

/-! ## The class of a failure -/

/-- The arguments of one validation, and its instant. -/
structure ValidationCall where
  repository : Repository
  keys : MetadataProtectionKeys
  now : UtcInstant
  fileId : String
  encryptedFileBytes : Bytes
  identity : PresentedIdentity

namespace ValidationCall

section Classes

variable (crypto : Cryptography) (call : ValidationCall)

def result : Raises ValidationReport :=
  ValidationEngine.validate crypto call.repository call.keys call.now.1 call.fileId
    call.encryptedFileBytes call.identity

/-- The record is there, authentic and structurally valid. -/
def Reads (metadata : FileMetadata) : Prop :=
  ∃ stored, call.repository.load call.fileId = some stored ∧
    MetadataProtector.unprotect crypto call.keys stored = .ok metadata ∧
    MetadataController.validate metadata = .ok ()

/-- What is wrong with a validation, the first of these that applies. -/
inductive FailsAs : DeceptionTrigger → Prop
  | metadataTampering (unread : ∀ metadata, ¬ call.Reads crypto metadata) :
      FailsAs .metadataTampering
  | integrityFailure {metadata : FileMetadata} (reads : call.Reads crypto metadata)
      (mismatch : verifyIntegrityHash crypto call.encryptedFileBytes metadata.integrityHash =
        false) :
      FailsAs .integrityFailure
  | accessAlreadyUsed {metadata : FileMetadata} (reads : call.Reads crypto metadata)
      (intact : verifyIntegrityHash crypto call.encryptedFileBytes metadata.integrityHash = true)
      (broken : ¬ ValidationEngine.PolicyHolds call.now.1 metadata) :
      FailsAs .accessAlreadyUsed
  | deviceMismatch {metadata : FileMetadata} (reads : call.Reads crypto metadata)
      (intact : verifyIntegrityHash crypto call.encryptedFileBytes metadata.integrityHash = true)
      (holds : ValidationEngine.PolicyHolds call.now.1 metadata)
      (refused : (DeviceBindingValidator.validate metadata.deviceBinding call.identity).ok =
        false) :
      FailsAs .deviceMismatch

end Classes

variable {crypto : Cryptography} {call : ValidationCall} {report : ValidationReport}

theorem Reads.unique {metadata other : FileMetadata} (reads : call.Reads crypto metadata)
    (otherReads : call.Reads crypto other) : metadata = other := by
  obtain ⟨stored, loaded, unprotected, -⟩ := reads
  obtain ⟨otherStored, otherLoaded, otherUnprotected, -⟩ := otherReads
  obtain rfl := Option.some.inj (loaded.symm.trans otherLoaded)
  exact Except.ok.inj (unprotected.symm.trans otherUnprotected)

/-- At most one class applies. -/
theorem FailsAs.unique {trigger other : DeceptionTrigger} (fails : call.FailsAs crypto trigger)
    (otherFails : call.FailsAs crypto other) : trigger = other := by
  cases fails with
  | metadataTampering unread =>
      cases otherFails with
      | metadataTampering => rfl
      | integrityFailure reads => exact absurd reads (unread _)
      | accessAlreadyUsed reads => exact absurd reads (unread _)
      | deviceMismatch reads => exact absurd reads (unread _)
  | integrityFailure reads mismatch =>
      cases otherFails with
      | metadataTampering unread => exact absurd reads (unread _)
      | integrityFailure => rfl
      | accessAlreadyUsed otherReads intact =>
          simp [reads.unique otherReads, intact] at mismatch
      | deviceMismatch otherReads intact =>
          simp [reads.unique otherReads, intact] at mismatch
  | accessAlreadyUsed reads intact broken =>
      cases otherFails with
      | metadataTampering unread => exact absurd reads (unread _)
      | integrityFailure otherReads mismatch =>
          simp [otherReads.unique reads, intact] at mismatch
      | accessAlreadyUsed => rfl
      | deviceMismatch otherReads _ holds =>
          rw [otherReads.unique reads] at holds
          exact absurd holds broken
  | deviceMismatch reads intact holds =>
      cases otherFails with
      | metadataTampering unread => exact absurd reads (unread _)
      | integrityFailure otherReads mismatch =>
          simp [otherReads.unique reads, intact] at mismatch
      | accessAlreadyUsed otherReads _ broken =>
          rw [otherReads.unique reads] at broken
          exact absurd holds broken
      | deviceMismatch => rfl

/-- The checks that the mapping looks at before its last return. -/
def mappedChecks : List CheckName :=
  [.metadataPresent, .hmac, .metadataIntegrity, .fileIntegrity] ++
    ValidationEngine.policyCheckNames ++ SecureAccessService.deviceCheckNames

theorem map_eq (report : CheckReport) :
    SecureAccessService.mapValidationFailureToTrigger report =
      if report.failed .metadataPresent || report.failed .hmac ||
          report.failed .metadataIntegrity then
        .metadataTampering
      else if report.failed .fileIntegrity then .integrityFailure
      else if ValidationEngine.policyCheckNames.any report.failed then .accessAlreadyUsed
      else if SecureAccessService.deviceCheckNames.any report.failed then .deviceMismatch
      else .integrityFailure := by
  unfold SecureAccessService.mapValidationFailureToTrigger
  simp [ValidationEngine.policyCheckNames, MetadataController.policyRules,
    MetadataController.PolicyRule.checkName, or_assoc]

/-- A failed validation is mapped to its class by a check that failed. -/
structure Classified (crypto : Cryptography) (call : ValidationCall) (report : CheckReport) :
    Prop where
  recorded : ∃ name ∈ mappedChecks, report.failed name = true
  fails : call.FailsAs crypto (SecureAccessService.mapValidationFailureToTrigger report)

/-- Without a valid record, one of the first three checks failed. -/
theorem Classified.of_unread {report : CheckReport} {name : CheckName}
    (member : name ∈ [CheckName.metadataPresent, .hmac, .metadataIntegrity])
    (failed : report.failed name = true) (unread : ∀ metadata, ¬ call.Reads crypto metadata) :
    Classified crypto call report where
  recorded := by
    have mapped : ∀ name ∈ [CheckName.metadataPresent, .hmac, .metadataIntegrity],
        name ∈ mappedChecks := by
      decide
    exact ⟨name, mapped name member, failed⟩
  fails := by
    have first : (report.failed .metadataPresent || report.failed .hmac ||
        report.failed .metadataIntegrity) = true := by
      simp only [List.mem_cons, List.not_mem_nil, or_false] at member
      rcases member with rfl | rfl | rfl <;> simp [failed]
    rw [map_eq, if_pos first]
    exact .metadataTampering unread

theorem Classified.of_record {stored : ProtectedMetadata} {metadata : FileMetadata}
    {result : CheckReport} (loaded : call.repository.load call.fileId = some stored)
    (unprotected : MetadataProtector.unprotect crypto call.keys stored = .ok metadata)
    (checked : ValidationEngine.checkRecord crypto call.now.1
      ((CheckReport.empty.add .metadataPresent true).add .hmac true) metadata
      call.encryptedFileBytes call.identity = .ok result) (failed : result.ok = false) :
    Classified crypto call result := by
  have failures := ValidationEngine.checkRecord_failures (by decide) checked
  have present : result.failed .metadataPresent = false := failures.earlier _ (by decide)
  have authentic : result.failed .hmac = false := failures.earlier _ (by decide)
  by_cases valid : MetadataController.validate metadata = .ok ()
  · have reads : call.Reads crypto metadata := ⟨stored, loaded, unprotected, valid⟩
    have structured : result.failed .metadataIntegrity = false := by
      rw [← Bool.not_eq_true, failures.structured]
      exact not_not.mpr valid
    cases hash : verifyIntegrityHash crypto call.encryptedFileBytes metadata.integrityHash with
    | false =>
        have mismatch : result.failed .fileIntegrity = true := by
          rw [failures.intact, hash]
          rfl
        refine ⟨⟨.fileIntegrity, by decide, mismatch⟩, ?_⟩
        rw [map_eq, present, authentic, structured, mismatch]
        exact .integrityFailure reads hash
    | true =>
        have intact : result.failed .fileIntegrity = false := by
          rw [failures.intact, hash]
          rfl
        by_cases holds : ValidationEngine.PolicyHolds call.now.1 metadata
        · have policy : ValidationEngine.policyCheckNames.any result.failed = false := by
            rw [← Bool.not_eq_true, failures.policy]
            exact not_not.mpr holds
          have refused : (DeviceBindingValidator.validate metadata.deviceBinding
              call.identity).ok = false := by
            by_contra accepted
            have reportOk : ((CheckReport.empty.add .metadataPresent true).add .hmac true).ok =
              true := rfl
            obtain ⟨other, same, ok⟩ := ValidationEngine.checkRecord_ok.mpr ⟨reportOk, valid, hash,
              holds, Bool.eq_true_of_not_eq_false accepted⟩
            obtain rfl := Except.ok.inj (checked.symm.trans same)
            rw [failed] at ok
            cases ok
          have device := failures.binding.mpr refused
          obtain ⟨name, member, deviceFailed⟩ := List.any_eq_true.mp device
          refine ⟨⟨name, List.mem_append_right _ member, deviceFailed⟩, ?_⟩
          rw [map_eq, present, authentic, structured, intact, policy, device]
          exact .deviceMismatch reads hash holds refused
        · have policy := failures.policy.mpr holds
          obtain ⟨name, member, policyFailed⟩ := List.any_eq_true.mp policy
          refine ⟨⟨name, List.mem_append_left _ (List.mem_append_right _ member), policyFailed⟩, ?_⟩
          rw [map_eq, present, authentic, structured, intact, policy]
          exact .accessAlreadyUsed reads hash holds
  · have structured := failures.structured.mpr valid
    refine .of_unread (by decide) structured fun other reads => ?_
    obtain ⟨otherStored, otherLoaded, otherUnprotected, otherValid⟩ := reads
    obtain rfl := Option.some.inj (loaded.symm.trans otherLoaded)
    obtain rfl := Except.ok.inj (unprotected.symm.trans otherUnprotected)
    exact valid otherValid

/-- Every report that is not in order is classified. -/
theorem classified (validated : call.result crypto = .ok report)
    (failed : report.report.ok = false) : Classified crypto call report.report := by
  unfold result ValidationEngine.validate at validated
  cases loaded : call.repository.load call.fileId with
  | none =>
      rw [loaded] at validated
      obtain rfl := Except.ok.inj validated
      refine .of_unread (.head _) (by simp [CheckReport.failed_add]) fun metadata reads => ?_
      obtain ⟨stored, found, -⟩ := reads
      cases loaded.symm.trans found
  | some stored =>
      simp only [loaded] at validated
      cases unprotected : MetadataProtector.unprotect crypto call.keys stored with
      | error exc =>
          simp only [unprotected] at validated
          split_ifs at validated
          obtain rfl := Except.ok.inj validated
          refine .of_unread (.tail _ (.head _)) (by simp [CheckReport.failed_add])
            fun metadata reads => ?_
          obtain ⟨other, found, opened, -⟩ := reads
          obtain rfl := Option.some.inj (loaded.symm.trans found)
          cases unprotected.symm.trans opened
      | ok metadata =>
          simp only [unprotected] at validated
          obtain ⟨checked, checkedEq, returned⟩ := bind_eq_ok.mp validated
          obtain rfl := Except.ok.inj returned
          exact .of_record loaded unprotected checkedEq failed

end ValidationCall

/-! ## What a rejected attempt records -/

/-- An attempt that validates with these arguments. -/
structure ValidationCall.MadeBy (call : ValidationCall) (service : SecureAccessService)
    (request : AccessRequest) (draws : AccessDraws) : Prop where
  notForced : request.forceDeception = false
  notThrottled : service.throttle.isLocked draws.throttleClock request.fileId = false
  primary : service.repository = some call.repository
  arguments : call =
    { repository := call.repository
      keys := request.protectionKeys
      now := draws.validationClock
      fileId := request.fileId
      encryptedFileBytes := request.encryptedFileBytes
      identity := request.identity }

/-- A rejection counts a mismatch for one class of failures, and a tampering event for two. -/
structure AccessResult.Records (result : AccessResult) (service : SecureAccessService)
    (request : AccessRequest) (draws : AccessDraws) (trigger : DeceptionTrigger) : Prop where
  throttle : result.throttle =
    if trigger = .deviceMismatch then
      (service.throttle.registerMismatch draws.mismatchClock request.fileId).1
    else service.throttle
  session : ∀ outcome, result.outcome = .ok outcome →
    outcome.deception = some trigger ∧ outcome.session.isSome = service.tracksUsage ∧
      ∀ record ∈ outcome.session, record.tamperingEvents =
        if trigger = .metadataTampering ∨ trigger = .integrityFailure then 1 else 0
  raised : ∀ exc, result.outcome = .error exc → trigger = .deviceMismatch

namespace SecureAccessService

section Rejections

variable {crypto : Cryptography} {service : SecureAccessService} {disk : Disk}
  {request : AccessRequest} {draws : AccessDraws} {call : ValidationCall}
  {report : ValidationReport}

theorem attemptAccess_rejected (made : call.MadeBy service request draws)
    (validated : call.result crypto = .ok report) (failed : report.report.ok = false) :
    attemptAccess crypto service disk request draws =
      rejected service disk request draws report.report (startSession service request draws) := by
  rw [ValidationCall.result, made.arguments] at validated
  simp only [attemptAccess, made.notForced, made.notThrottled, SecureAccessService.validated,
    made.primary, validated, failed, if_true, Bool.false_eq_true, if_false]

theorem rejectedSession_tampering (trigger : DeceptionTrigger) :
    ∀ record ∈ (startSession service request draws).map (rejectedRecord trigger),
      record.tamperingEvents =
        if trigger = .metadataTampering ∨ trigger = .integrityFailure then 1 else 0 := by
  intro record recorded
  obtain ⟨started, start, rfl⟩ := Option.mem_map.mp recorded
  unfold startSession at start
  split_ifs at start
  · obtain rfl := Option.some.inj start
    rfl
  · cases start

theorem rejected_records (report : CheckReport) :
    (rejected service disk request draws report (startSession service request draws)).Records
      service request draws (mapValidationFailureToTrigger report) := by
  have session : ((startSession service request draws).map
      (rejectedRecord (mapValidationFailureToTrigger report))).isSome = service.tracksUsage := by
    rw [Option.isSome_map]
    exact (startSession_sessionOf service request draws).isSome
  have tampering := @rejectedSession_tampering service request draws
    (mapValidationFailureToTrigger report)
  unfold rejected
  dsimp only
  by_cases mismatch : mapValidationFailureToTrigger report = .deviceMismatch
  · rw [if_pos mismatch]
    rcases counted : service.throttle.registerMismatch draws.mismatchClock request.fileId with
      ⟨throttle, exc | _⟩
    · refine ⟨by rw [if_pos mismatch, counted], fun outcome returned => ?_, fun _ _ => mismatch⟩
      cases returned
    · refine ⟨by rw [if_pos mismatch, counted], fun outcome returned => ?_, fun _ _ => mismatch⟩
      obtain rfl := Except.ok.inj returned
      exact ⟨rfl, session, tampering⟩
  · rw [if_neg mismatch]
    refine ⟨by rw [if_neg mismatch]; rfl, fun outcome returned => ?_, fun exc raised => ?_⟩
    · obtain rfl := Except.ok.inj returned
      exact ⟨rfl, session, tampering⟩
    · cases raised

end Rejections

end SecureAccessService

/-- Every report says whether all its checks passed.  One that says no has a check that failed
among those that are mapped, is mapped to its class, and an attempt records it by this class. -/
theorem failures_classified {crypto : Cryptography} {call : ValidationCall}
    {report : ValidationReport} (validated : call.result crypto = .ok report) :
    (report.report.ok = true ↔
      ∀ name passed, report.report.checks.lookup name = some passed → passed = true) ∧
    (report.report.ok = false →
      (∃ name ∈ ValidationCall.mappedChecks, report.report.failed name = true) ∧
      (∀ trigger, SecureAccessService.mapValidationFailureToTrigger report.report = trigger ↔
        call.FailsAs crypto trigger) ∧
      ∀ service disk request draws, call.MadeBy service request draws →
        (SecureAccessService.attemptAccess crypto service disk request draws).Records service
          request draws (SecureAccessService.mapValidationFailureToTrigger report.report)) := by
  constructor
  · constructor
    · exact report.report.consistent
    · intro passed
      by_contra failed
      obtain ⟨name, -, failedName⟩ :=
        (ValidationCall.classified validated (Bool.eq_false_of_not_eq_true failed)).recorded
      have recorded := passed name false (by simpa [CheckReport.failed] using failedName)
      cases recorded
  · intro failed
    obtain ⟨recorded, fails⟩ := ValidationCall.classified validated failed
    refine ⟨recorded, fun trigger => ⟨?_, fails.unique⟩, fun service disk request draws made => ?_⟩
    · rintro rfl
      exact fails
    · rw [SecureAccessService.attemptAccess_rejected made validated failed]
      exact SecureAccessService.rejected_records report.report

/-! ## A validation with several failures -/

/-- A record of the plain file that is bound to a device and may not be viewed at all. -/
def exhaustedMetadata : FileMetadata :=
  { plainMetadata [104, 105] { maxAccessCount := some 0 } {} with
    deviceBinding := { bound := true, usbSerial := some "serial" } }

/-- Its service, which tracks its sessions. -/
def exhaustedService : SecureAccessService :=
  { plainService (plainCrypto [104, 105]) exhaustedMetadata with tracksUsage := true }

/-- No device is presented, and other bytes than those of the file. -/
def exhaustedRequest : AccessRequest :=
  { plainRequest [104, 105] with encryptedFileBytes := [] }

def exhaustedCall : ValidationCall where
  repository := plainRepository (plainCrypto [104, 105]) exhaustedMetadata
  keys := plainKeys
  now := plainInstant
  fileId := "f"
  encryptedFileBytes := []
  identity := {}

theorem exhausted_valid : MetadataController.validate exhaustedMetadata = .ok () := by
  obtain ⟨length, hex⟩ :=
    computeIntegrityHash_valid (plainCrypto [104, 105]) (plainBytes [104, 105])
  simp [MetadataController.validate, exhaustedMetadata, plainMetadata, length, hex]

theorem exhausted_mismatch :
    verifyIntegrityHash (plainCrypto [104, 105]) [] exhaustedMetadata.integrityHash = false := by
  by_contra verified
  have same := EncryptedFile.bytes_eq_of_verified (markingDigest_noSecondPreimage _)
    (plainMetadata_describes [104, 105] {} {}) (Bool.eq_true_of_not_eq_false verified)
  cases same

theorem exhausted_refused :
    (DeviceBindingValidator.validate exhaustedMetadata.deviceBinding {}).ok = false := by
  by_contra accepted
  obtain ⟨serial, presented, -⟩ := ((DeviceBindingValidator.validate_ok _ _).mp
    (Bool.eq_true_of_not_eq_false accepted)).1 rfl
  cases presented

/-- The bytes, the use count and the device are refused by one validation. -/
theorem exhausted_validated : ∃ report,
    exhaustedCall.result (plainCrypto [104, 105]) = .ok report ∧
      report.report.failed .fileIntegrity = true ∧
      ValidationEngine.policyCheckNames.any report.report.failed = true ∧
      SecureAccessService.deviceCheckNames.any report.report.failed = true := by
  obtain ⟨report, checked⟩ := (@ValidationEngine.checkRecord_returns_iff (plainCrypto [104, 105])
    plainInstant ((CheckReport.empty.add .metadataPresent true).add .hmac true)
    exhaustedMetadata [] {} exhausted_valid).mpr fun _ expires => by cases expires
  have loaded := load_plainRepository (plainCrypto [104, 105]) exhaustedMetadata
  have unprotected := MetadataProtector.unprotect_protect transparent_aesGcmLaws
    (@protect_plainStored (markingDigest (plainBytes [104, 105])) exhaustedMetadata)
  have failures := ValidationEngine.checkRecord_failures (by decide) checked
  refine ⟨⟨"f", report, some exhaustedMetadata⟩, ?_, ?_, ?_, failures.binding.mpr
    exhausted_refused⟩
  · exact (ValidationEngine.validate_of_unprotected loaded unprotected).trans
      (bind_eq_ok.mpr ⟨report, checked, rfl⟩)
  · rw [failures.intact, exhausted_mismatch]
    rfl
  · refine failures.policy.mpr fun holds => ?_
    exact absurd (holds.withinCount 0 rfl) (by decide)

/-- The bytes come first, and the attempt that makes this validation records a tampering event
and no mismatch. -/
theorem failures_classified_exhausted : ∃ report outcome record,
    exhaustedCall.result (plainCrypto [104, 105]) = .ok report ∧
      ValidationEngine.policyCheckNames.any report.report.failed = true ∧
      SecureAccessService.deviceCheckNames.any report.report.failed = true ∧
      SecureAccessService.mapValidationFailureToTrigger report.report = .integrityFailure ∧
      (SecureAccessService.attemptAccess (plainCrypto [104, 105]) exhaustedService
        (fun _ => none) exhaustedRequest plainDraws).outcome = .ok outcome ∧
      outcome.deception = some .integrityFailure ∧ outcome.session = some record ∧
      record.tamperingEvents = 1 ∧
      (SecureAccessService.attemptAccess (plainCrypto [104, 105]) exhaustedService
        (fun _ => none) exhaustedRequest plainDraws).throttle = exhaustedService.throttle := by
  obtain ⟨report, validated, mismatch, policy, device⟩ := exhausted_validated
  obtain ⟨passed, failed⟩ := failures_classified validated
  have rejected : report.report.ok = false := by
    by_contra accepted
    have integrity : report.report.checks.lookup .fileIntegrity = some false := by
      simpa [CheckReport.failed] using mismatch
    cases passed.mp (Bool.eq_true_of_not_eq_false accepted) _ _ integrity
  obtain ⟨-, classes, records⟩ := failed rejected
  have reads : exhaustedCall.Reads (plainCrypto [104, 105]) exhaustedMetadata :=
    ⟨_, load_plainRepository _ exhaustedMetadata, MetadataProtector.unprotect_protect
      transparent_aesGcmLaws (protect_plainStored _), exhausted_valid⟩
  have first := (classes _).mpr (.integrityFailure reads exhausted_mismatch)
  have recorded := records exhaustedService (fun _ => none) exhaustedRequest plainDraws
    ⟨rfl, rfl, rfl, rfl⟩
  rw [first] at recorded
  cases ended : (SecureAccessService.attemptAccess (plainCrypto [104, 105]) exhaustedService
      (fun _ => none) exhaustedRequest plainDraws).outcome with
  | error exc => cases recorded.raised exc ended
  | ok outcome =>
      obtain ⟨deception, tracked, tampering⟩ := recorded.session outcome ended
      obtain ⟨record, session⟩ := Option.isSome_iff_exists.mp tracked
      exact ⟨report, outcome, record, validated, policy, device, first, rfl, deception, session,
        tampering record session, recorded.throttle⟩

end CryptoUsb
