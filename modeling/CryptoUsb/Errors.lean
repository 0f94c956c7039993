import Mathlib.Logic.Basic

/-!
# Errors raised by the program

The exception classes of the packages, and the built-in ones that the modelled
code lets through, each with the message it carries.
-/

namespace CryptoUsb

inductive ErrorClass
  | cryptoError
  | encryptionError
  | decryptionError
  | keyWrappingError
  | keyUnwrappingError
  | keyDestroyedError
  | metadataTamperError
  | metadataNotFoundError
  | metadataValidationError
  | policyViolationError
  | deviceValidationError
  | containerOverwriteError
  | containerWriteError
  | containerVerificationError
  | accountNotFoundError
  | accountAlreadyExistsError
  | invalidCredentialsError
  | accountLockedError
  | weakPasswordError
  | trackingTamperError
  | assertionError
  | attributeError
  | indexError
  | keyError
  | osError
  | overflowError
  | sqliteError
  | typeError
  | unicodeError
  | valueError
  deriving DecidableEq, Repr

structure PyError where
  kind : ErrorClass
  message : String
  deriving DecidableEq, Repr

/-- `usb.exceptions.USBError` and its subclasses. -/
def PyError.isUSBError (error : PyError) : Bool :=
  error.kind ∈ [ErrorClass.deviceValidationError, .containerOverwriteError,
    .containerWriteError, .containerVerificationError]

/-- What the access service catches around a view. -/
def PyError.isDecryptFailure (error : PyError) : Bool :=
  error.kind ∈ [ErrorClass.keyUnwrappingError, .decryptionError]

/-- The outcome of code that may raise. -/
abbrev Raises (α : Type) := Except PyError α

def raise {α : Type} (kind : ErrorClass) (message : String) : Raises α :=
  .error ⟨kind, message⟩

def Returns {α : Type} (outcome : Raises α) : Prop :=
  ∃ value, outcome = .ok value

instance {α : Type} (outcome : Raises α) : Decidable (Returns outcome) :=
  match outcome with
  | .ok value => .isTrue ⟨value, rfl⟩
  | .error _ => .isFalse fun ⟨_, equal⟩ => nomatch equal

@[simp]
theorem returns_ok {α : Type} (value : α) : Returns (.ok value) :=
  ⟨value, rfl⟩

@[simp]
theorem not_returns_error {α : Type} (error : PyError) :
    ¬ Returns (.error error : Raises α) :=
  fun ⟨_, equal⟩ => nomatch equal

@[simp]
theorem raise_ne_ok {α : Type} (kind : ErrorClass) (message : String) (value : α) :
    raise kind message ≠ .ok value :=
  fun equal => nomatch equal

@[simp]
theorem ok_bind {α β : Type} (value : α) (next : α → Raises β) :
    ((.ok value : Raises α) >>= next) = next value :=
  rfl

@[simp]
theorem error_bind {α β : Type} (error : PyError) (next : α → Raises β) :
    ((.error error : Raises α) >>= next) = .error error :=
  rfl

theorem bind_eq_ok {α β : Type} {first : Raises α} {next : α → Raises β} {value : β} :
    (first >>= next) = .ok value ↔ ∃ result, first = .ok result ∧ next result = .ok value := by
  cases first with
  | error error => simp
  | ok result => simp

theorem pure_eq_ok {α : Type} {result value : α} :
    (pure result : Raises α) = .ok value ↔ value = result :=
  ⟨fun equal => (Except.ok.inj equal).symm, fun equal => congrArg Except.ok equal.symm⟩

@[simp]
theorem returns_map {α β : Type} {outcome : Raises α} {change : α → β} :
    Returns (outcome.map change) ↔ Returns outcome := by
  cases outcome <;> simp [Except.map]

/-- No class of error but the one is raised. -/
def RaisesOnly {α : Type} (kind : ErrorClass) (outcome : Raises α) : Prop :=
  ∀ error, outcome = .error error → error.kind = kind

@[simp]
theorem raisesOnly_ok {α : Type} (kind : ErrorClass) (value : α) :
    RaisesOnly kind (.ok value : Raises α) :=
  fun _ raised => nomatch raised

@[simp]
theorem raisesOnly_raise {α : Type} {kind raised : ErrorClass} {message : String} :
    RaisesOnly kind (raise raised message : Raises α) ↔ raised = kind := by
  simp [RaisesOnly, raise]

end CryptoUsb
