import CryptoUsb.MetadataController
import CryptoUsb.TransparentPrimitives

/-!
# The two policy implementations

The usage rules are written twice: a validation records one check for each of them, and the
controller raises for the first that is not satisfied.  Both say the same at every instant.
-/

namespace CryptoUsb

open IsoDateTime

namespace MetadataController

/-- The three usage rules, in the order in which they are enforced. -/
inductive PolicyRule
  | expiry
  | accessCount
  | reusedAccess
  deriving DecidableEq, Repr

def policyRules : List PolicyRule :=
  [.expiry, .accessCount, .reusedAccess]

/-- The name under which a validation records the rule. -/
def PolicyRule.checkName : PolicyRule → CheckName
  | .expiry => .expiry
  | .accessCount => .accessCount
  | .reusedAccess => .reusedAccess

/-- `str` of a value that may be missing. -/
def textOrNone (text : Option String) : String :=
  text.getD "None"

/-- What `enforce_policy` raises for the rule. -/
def PolicyRule.violation (metadata : FileMetadata) (rule : PolicyRule) : PyError where
  kind := .policyViolationError
  message :=
    match rule with
    | .expiry =>
        let expiresAt := textOrNone (metadata.expiryRules.expiresAt.map DateTime.text)
        s!"File {metadata.fileId} expired at {expiresAt}"
    | .accessCount =>
        let maxAccessCount := textOrNone (metadata.expiryRules.maxAccessCount.map toString)
        s!"File {metadata.fileId} reached its maximum access count ({maxAccessCount})"
    | .reusedAccess =>
        s!"File {metadata.fileId} allows only one-time access and has already been accessed"

/-- Whether a record satisfies the rule at an instant. -/
def PolicyRule.satisfied (now : UtcInstant) (metadata : FileMetadata) : PolicyRule → Bool
  | .expiry => metadata.expiryRules.expiresAt.all fun expiresAt =>
      expiresAt.lessThan now.1 = some false
  | .accessCount => metadata.expiryRules.maxAccessCount.all (metadata.accessCount < ·)
  | .reusedAccess => !metadata.usagePolicy.oneTimeAccess || metadata.accessCount < 1

section Rules

variable {now : UtcInstant} {metadata : FileMetadata}

/-- The outcome of a rule that is enforced. -/
def PolicyRule.enforced (now : UtcInstant) (metadata : FileMetadata) (rule : PolicyRule) :
    Raises Unit :=
  if rule.satisfied now metadata then .ok () else .error (rule.violation metadata)

theorem enforceExpiry_eq
    (aware : ∀ expiresAt, metadata.expiryRules.expiresAt = some expiresAt → expiresAt.IsAware) :
    enforceExpiry now metadata = PolicyRule.expiry.enforced now metadata := by
  unfold enforceExpiry PolicyRule.enforced PolicyRule.satisfied PolicyRule.violation
  cases expires : metadata.expiryRules.expiresAt with
  | none => rfl
  | some expiresAt =>
      obtain ⟨answer, compared⟩ := DateTime.lessThan_isSome (aware expiresAt expires) now.isAware
      cases answer <;> simp [compared, raise, textOrNone]

theorem enforceAccessCount_eq :
    enforceAccessCount metadata = PolicyRule.accessCount.enforced now metadata := by
  unfold enforceAccessCount PolicyRule.enforced PolicyRule.satisfied PolicyRule.violation
  cases metadata.expiryRules.maxAccessCount with
  | none => rfl
  | some maxAccessCount =>
      by_cases reached : maxAccessCount ≤ metadata.accessCount
      · simp [reached, raise, textOrNone, Int.not_lt.mpr reached]
        rfl
      · simp [reached, Int.not_le.mp reached]

theorem enforceReuse_eq :
    enforceReuse metadata = PolicyRule.reusedAccess.enforced now metadata := by
  unfold enforceReuse PolicyRule.enforced PolicyRule.satisfied PolicyRule.violation
  cases metadata.usagePolicy.oneTimeAccess with
  | false => rfl
  | true =>
      by_cases used : 1 ≤ metadata.accessCount
      · simp [used, raise, Int.not_lt.mpr used]
      · simp [used, Int.not_le.mp used]

/-- The policy raises for the first rule that is not satisfied. -/
theorem enforcePolicy_eq
    (aware : ∀ expiresAt, metadata.expiryRules.expiresAt = some expiresAt → expiresAt.IsAware) :
    enforcePolicy now metadata =
      match policyRules.find? (!·.satisfied now metadata) with
      | none => .ok ()
      | some rule => .error (rule.violation metadata) := by
  unfold enforcePolicy policyRules
  rw [enforceExpiry_eq aware, @enforceAccessCount_eq now, @enforceReuse_eq now]
  simp only [PolicyRule.enforced, List.find?_cons, List.find?_nil]
  cases PolicyRule.expiry.satisfied now metadata
  · rfl
  cases PolicyRule.accessCount.satisfied now metadata
  · rfl
  cases PolicyRule.reusedAccess.satisfied now metadata <;> rfl

/-- A validation records each rule under its name, as it is satisfied. -/
theorem validatePolicy_records
    (aware : ∀ expiresAt, metadata.expiryRules.expiresAt = some expiresAt → expiresAt.IsAware)
    (report : CheckReport) :
    ∃ result, ValidationEngine.validatePolicy now.1 report metadata = .ok result ∧
      ∀ rule : PolicyRule, result.checks.lookup rule.checkName =
        some (rule.satisfied now metadata) := by
  have expiry : ∃ checked, ValidationEngine.checkExpiry now.1 report metadata.expiryRules =
      .ok checked ∧ checked.checks.lookup .expiry =
        some (PolicyRule.expiry.satisfied now metadata) := by
    unfold ValidationEngine.checkExpiry PolicyRule.satisfied
    cases expires : metadata.expiryRules.expiresAt with
    | none => exact ⟨_, rfl, by simp [CheckReport.add]⟩
    | some expiresAt =>
        obtain ⟨answer, compared⟩ := DateTime.lessThan_isSome (aware expiresAt expires) now.isAware
        cases answer <;> simp [compared, CheckReport.add]
  obtain ⟨checked, checkedEq, expiryRecorded⟩ := expiry
  have countRecorded : (ValidationEngine.checkAccessCount checked metadata).checks.lookup
      .accessCount = some (PolicyRule.accessCount.satisfied now metadata) := by
    unfold ValidationEngine.checkAccessCount PolicyRule.satisfied
    cases metadata.expiryRules.maxAccessCount <;> simp [CheckReport.add]
  have countKeeps : (ValidationEngine.checkAccessCount checked metadata).checks.lookup .expiry =
      checked.checks.lookup .expiry := by
    unfold ValidationEngine.checkAccessCount
    cases metadata.expiryRules.maxAccessCount <;> simp [CheckReport.add]
  refine ⟨_, bind_eq_ok.mpr ⟨checked, checkedEq, rfl⟩, fun rule => ?_⟩
  have reuse : ∃ passed reason, ValidationEngine.checkReuse
      (ValidationEngine.checkAccessCount checked metadata) metadata =
        (ValidationEngine.checkAccessCount checked metadata).add .reusedAccess passed reason ∧
      passed = PolicyRule.reusedAccess.satisfied now metadata := by
    unfold ValidationEngine.checkReuse PolicyRule.satisfied
    cases metadata.usagePolicy.oneTimeAccess <;> exact ⟨_, _, rfl, by simp⟩
  obtain ⟨passed, reason, added, rfl⟩ := reuse
  rw [added]
  cases rule with
  | expiry => simp [CheckReport.add, PolicyRule.checkName, countKeeps, expiryRecorded]
  | accessCount => simp [CheckReport.add, PolicyRule.checkName, countRecorded]
  | reusedAccess => simp [CheckReport.add, PolicyRule.checkName]

/-- The checks that a validation records for the usage rules pass exactly when the policy does
not raise, and it raises for the first of them that failed. -/
theorem policies_agree
    (aware : ∀ expiresAt, metadata.expiryRules.expiresAt = some expiresAt → expiresAt.IsAware)
    (report : CheckReport) :
    ∃ result, ValidationEngine.validatePolicy now.1 report metadata = .ok result ∧
      ((∀ rule ∈ policyRules, result.checks.lookup rule.checkName = some true) ↔
        ∀ exc, enforcePolicy now metadata = .error exc → exc.kind ≠ .policyViolationError) ∧
      enforcePolicy now metadata =
        match policyRules.find? fun rule => result.failed rule.checkName with
        | none => .ok ()
        | some rule => .error (rule.violation metadata) := by
  obtain ⟨result, validated, recorded⟩ := @validatePolicy_records now metadata aware report
  have failing : (fun rule : PolicyRule => result.failed rule.checkName) =
      (!·.satisfied now metadata) := by
    funext rule
    rw [CheckReport.failed, recorded rule]
    cases rule.satisfied now metadata <;> rfl
  have enforced := @enforcePolicy_eq now metadata aware
  refine ⟨result, validated, ?_, by rw [failing, enforced]⟩
  rw [enforced]
  constructor
  · intro passed exc raised
    have noneFails : policyRules.find? (!·.satisfied now metadata) = none := by
      refine List.find?_eq_none.mpr fun rule member => ?_
      have satisfied := Option.some.inj ((recorded rule).symm.trans (passed rule member))
      simp [satisfied]
    rw [noneFails] at raised
    cases raised
  · intro allowed rule member
    rw [recorded rule]
    cases first : policyRules.find? (!·.satisfied now metadata) with
    | none =>
        have satisfied := List.find?_eq_none.mp first rule member
        simpa using satisfied
    | some broken =>
        rw [first] at allowed
        exact absurd rfl (allowed _ rfl)

end Rules

end MetadataController

/-- A file with a limit of zero that may be viewed once: the limit is what is raised for. -/
theorem policies_agree_limit_zero :
    ∃ result, ValidationEngine.validatePolicy plainInstant.1 .empty
        (plainMetadata [] ⟨some plainInstant.1, some 0⟩ { oneTimeAccess := true }) = .ok result ∧
      ((∀ rule ∈ MetadataController.policyRules,
          result.checks.lookup rule.checkName = some true) ↔
        ∀ exc, MetadataController.enforcePolicy plainInstant
          (plainMetadata [] ⟨some plainInstant.1, some 0⟩ { oneTimeAccess := true }) =
            .error exc → exc.kind ≠ .policyViolationError) ∧
      MetadataController.enforcePolicy plainInstant
          (plainMetadata [] ⟨some plainInstant.1, some 0⟩ { oneTimeAccess := true }) =
        match MetadataController.policyRules.find? fun rule => result.failed rule.checkName with
        | none => .ok ()
        | some rule => .error (rule.violation
            (plainMetadata [] ⟨some plainInstant.1, some 0⟩ { oneTimeAccess := true })) := by
  have aware : ∀ expiresAt, (plainMetadata [] ⟨some plainInstant.1, some 0⟩
      { oneTimeAccess := true }).expiryRules.expiresAt = some expiresAt → expiresAt.IsAware := by
    intro expiresAt expires
    obtain rfl := Option.some.inj expires
    exact plainInstant.isAware
  exact MetadataController.policies_agree aware .empty

end CryptoUsb
