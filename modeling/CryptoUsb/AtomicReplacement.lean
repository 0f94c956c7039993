import CryptoUsb.CommitTraces
import CryptoUsb.TransparentPrimitives

/-!
# Atomic replacement, step by step

A container is written to a temporary file, flushed, and moved over its destination.  Here
every system call is a step of its own, so that a write can be stopped between any two of
them.
-/

namespace CryptoUsb

open ByteString CommitTraces

/-- `os.replace(source, destination)`. -/
def Disk.rename (disk : Disk) (source destination : DevicePath) : Disk :=
  match disk source with
  | some contents => (disk.remove source).write destination contents
  | none => disk

@[simp]
theorem Disk.write_write (disk : Disk) (path : DevicePath) (first second : Bytes) :
    (disk.write path first).write path second = disk.write path second :=
  Function.update_idem ..

@[simp]
theorem Disk.remove_write (disk : Disk) (path : DevicePath) (contents : Bytes) :
    (disk.write path contents).remove path = disk.remove path :=
  Function.update_idem ..

theorem Disk.rename_write (disk : Disk) (source destination : DevicePath) (contents : Bytes) :
    (disk.write source contents).rename source destination =
      (disk.remove source).write destination contents := by
  simp [rename]

/-- The files other than this one are the same. -/
def Disk.SameBut (path : DevicePath) (before after : Disk) : Prop :=
  ∀ other ≠ path, after other = before other

namespace Disk.SameBut

variable {path : DevicePath} {before after : Disk}

theorem refl (path : DevicePath) (disk : Disk) : SameBut path disk disk :=
  fun _ _ => rfl

theorem write (same : SameBut path before after) (contents : Bytes) :
    SameBut path before (after.write path contents) :=
  fun other different => (write_other different).trans (same other different)

theorem remove (same : SameBut path before after) : SameBut path before (after.remove path) :=
  fun other different => (remove_other different).trans (same other different)

end Disk.SameBut

/-- A container that a reader gets back as it was written. -/
def SecureContainer.ReadsBack (container : SecureContainer) : Prop :=
  container.protectedMetadata.fileId = container.fileId ∧
    (container.fileContainer.nonce.length = AesCipher.nonceSizeBytes ∨
      container.fileContainer.nonce.length < AesCipher.nonceSizeBytes ∧
        container.fileContainer.ciphertext = [])

theorem SecureContainer.deserialize_serialize_iff {crypto : Cryptography}
    {container : SecureContainer} {payload : Bytes}
    (serialized : container.serialize crypto = .ok payload) :
    deserialize crypto payload = .ok container ↔ container.ReadsBack := by
  rw [deserialize_serialize_reread serialized, Except.ok.injEq, reread_eq_self_iff,
    EncryptedContainer.reread_eq_self_iff]
  exact and_comm

/-! ## The calls and their steps -/

namespace WriteFault

/-- `open(temp_path, "wb")`. -/
def openTemporary (fault : Option WriteFault) (temporary : DevicePath) :
    Committing Disk String Unit :=
  match fault with
  | some ⟨.open, text, _⟩ => .lift (.error text)
  | _ => .commit (·.write temporary [])

/-- `fh.write(payload)`: a write that fails has written the start of it. -/
def writePayload (fault : Option WriteFault) (temporary : DevicePath) (payload : Bytes) :
    Committing Disk String Unit :=
  match fault with
  | some ⟨.write written, text, _⟩ => do
      .commit (·.write temporary (payload.take written))
      .lift (.error text)
  | _ => .commit (·.write temporary payload)

/-- `fh.flush()`. -/
def flush (fault : Option WriteFault) : Committing Disk String Unit :=
  match fault with
  | some ⟨.flush, text, _⟩ => .lift (.error text)
  | _ => .lift (.ok ())

/-- `os.fsync(fh.fileno())`. -/
def fsync (fault : Option WriteFault) : Committing Disk String Unit :=
  match fault with
  | some ⟨.fsync, text, _⟩ => .lift (.error text)
  | _ => .lift (.ok ())

/-- `os.replace(temp_path, destination)`. -/
def replace (fault : Option WriteFault) (temporary destination : DevicePath) :
    Committing Disk String Unit :=
  match fault with
  | some ⟨.replace, text, _⟩ => .lift (.error text)
  | _ => .commit (·.rename temporary destination)

/-- `_cleanup`. -/
def cleanup (fault : Option WriteFault) (temporary : DevicePath) :
    Committing Disk PyError Unit :=
  match fault with
  | some ⟨_, _, true⟩ => pure ()
  | _ => .commit (·.remove temporary)

end WriteFault

namespace SecureStorageWriter

/-- The body of the `try` statement that both methods share. -/
def attemptSteps (temporary destination : DevicePath) (payload : Bytes)
    (fault : Option WriteFault) : Committing Disk String Unit := do
  WriteFault.openTemporary fault temporary
  WriteFault.writePayload fault temporary payload
  WriteFault.flush fault
  WriteFault.fsync fault
  WriteFault.replace fault temporary destination

/-- The `try` statement. -/
def replaceSteps (temporary destination : DevicePath) (payload : Bytes)
    (fault : Option WriteFault) (raised : String → PyError) : Committing Disk PyError Unit :=
  (attemptSteps temporary destination payload fault).handle fun text => do
    WriteFault.cleanup fault temporary
    .lift (.error (raised text))

def rewriteContainerInPlaceSteps (crypto : Cryptography) (container : SecureContainer)
    (destination : DevicePath) (random : BytesOf 16) (fault : Option WriteFault) :
    Committing Disk PyError DevicePath := do
  let payload ← .lift (container.serialize crypto)
  replaceSteps (temporaryPath destination random) destination payload fault fun text =>
    ⟨.containerWriteError, s!"Failed to rewrite container at {destination.text}: {text}"⟩
  return destination

/-- The path that `write_container` writes to. -/
def destinationPath (container : SecureContainer) (device : USBDevice)
    (filename : Option String) : DevicePath :=
  ⟨device.mountPoint,
    (filename.filter (· ≠ "")).getD (container.fileId ++ containerExtension)⟩

def writeContainerSteps (crypto : Cryptography) (probes : HostProbes)
    (container : SecureContainer) (device : USBDevice) (filename : Option String)
    (overwrite : Bool) (random : BytesOf 16) (fault : Option WriteFault) :
    Committing Disk PyError DevicePath := do
  let payload ← .lift (container.serialize crypto)
  let validation := validateDevice probes device payload.length
  if !validation.ok then
    let reasons := String.intercalate "; " validation.reasons
    .lift (raise .deviceValidationError
      s!"Device {device.deviceId} failed validation: {reasons}")
  else
    let destination := destinationPath container device filename
    if !isPlainName destination.name then
      .lift (raise .containerWriteError
        s!"Invalid container filename '{destination.name}': must not contain a path")
    else
      let present ← .read fun disk => .ok (disk destination).isSome
      if present && !overwrite then
        .lift (raise .containerOverwriteError
          s!"Refusing to overwrite existing container at {destination.text}. Pass overwrite=True to replace it explicitly.")
      else
        replaceSteps (temporaryPath destination random) destination payload fault fun text =>
          ⟨.containerWriteError, s!"Failed to write container to {destination.text}: {text}"⟩
        let _ ← .read fun disk => verifyContainer crypto disk destination (some payload)
        return destination

/-! ## What the steps leave -/

section Steps

variable {crypto : Cryptography} {probes : HostProbes} {container : SecureContainer}
  {device : USBDevice} {filename : Option String} {overwrite : Bool} {random : BytesOf 16}
  {temporary destination : DevicePath} {payload : Bytes} {raised : String → PyError}
  {disk : Disk}

/-- A replacement that goes through moves the payload last, and touches only the temporary
file before. -/
theorem replaceSteps_none :
    (replaceSteps temporary destination payload none raised).run disk =
      ⟨[disk.write temporary [], disk.write temporary payload,
        (disk.remove temporary).write destination payload], .ok ()⟩ := by
  have ran : (replaceSteps temporary destination payload none raised).run disk =
      ⟨[disk.write temporary [], (disk.write temporary []).write temporary payload,
        ((disk.write temporary []).write temporary payload).rename temporary destination],
        .ok ()⟩ := rfl
  rw [ran, Disk.write_write, Disk.rename_write]

theorem attemptSteps_some (fault : WriteFault) :
    ∃ states,
      (attemptSteps temporary destination payload (some fault)).run disk =
          ⟨states, .error fault.text⟩ ∧
        (∀ state ∈ states, disk.SameBut temporary state) ∧
        states.getLast?.getD disk =
          Function.update disk temporary (fault.step.leaves (disk temporary) payload) := by
  have created := (Disk.SameBut.refl temporary disk).write []
  obtain ⟨step, text, cleanupFails⟩ := fault
  cases step with
  | «open» => exact ⟨[], rfl, by simp, by simp [WriteStep.leaves]⟩
  | write written =>
      refine ⟨[disk.write temporary [],
        (disk.write temporary []).write temporary (payload.take written)], rfl, ?_, ?_⟩
      · simp [created, created.write, -Disk.write_write]
      · simp [WriteStep.leaves, Disk.write]
  | flush | fsync | replace =>
      refine ⟨[disk.write temporary [], (disk.write temporary []).write temporary payload], rfl,
        ?_, ?_⟩
      · simp [created, created.write, -Disk.write_write]
      · simp [WriteStep.leaves, Disk.write]

/-- A replacement that fails touches only the temporary file, and removes it unless that
fails as well. -/
theorem replaceSteps_some (fault : WriteFault) :
    ∃ states,
      (replaceSteps temporary destination payload (some fault) raised).run disk =
          ⟨states, .error (raised fault.text)⟩ ∧
        (∀ state ∈ states, disk.SameBut temporary state) ∧
        states.getLast?.getD disk =
          if fault.cleanupFails then
            Function.update disk temporary (fault.step.leaves (disk temporary) payload)
          else disk.remove temporary := by
  obtain ⟨states, ran, same, final⟩ :=
    @attemptSteps_some temporary destination payload disk fault
  obtain ⟨step, text, cleanupFails⟩ := fault
  have left : disk.SameBut temporary
      (Function.update disk temporary (step.leaves (disk temporary) payload)) :=
    fun other different => Function.update_of_ne different ..
  simp only [replaceSteps, Committing.handle, ran, final]
  cases cleanupFails with
  | true => exact ⟨states, by simp [WriteFault.cleanup, Committing.run_bind], same, final⟩
  | false =>
      refine ⟨states ++ [disk.remove temporary], ?_, ?_, by simp⟩
      · simp [WriteFault.cleanup, Committing.run_bind, Disk.remove]
      · intro state member
        rcases List.mem_append.mp member with earlier | last
        · exact same state earlier
        · obtain rfl := List.mem_singleton.mp last
          exact (Disk.SameBut.refl temporary disk).remove

/-! ## What a call promises -/

/-- The temporary file could not be removed. -/
def RemovalFails (fault : Option WriteFault) : Prop :=
  ∃ failed, fault = some failed ∧ failed.cleanupFails = true

/-- A write that may raise at any step, and may be stopped after any. -/
structure AtomicWrite (crypto : Cryptography) (container : SecureContainer)
    (temporary destination : DevicePath) (fault : Option WriteFault) (disk : Disk)
    (trace : Trace Disk PyError DevicePath) : Prop where
  raised : ∀ exc, trace.outcome = .error exc →
    trace.finalState disk destination = disk destination
  returned : ∀ path, trace.outcome = .ok path → path = destination ∧
    ∃ payload, container.serialize crypto = .ok payload ∧
      trace.finalState disk destination = some payload ∧
      (SecureContainer.deserialize crypto payload = .ok container ↔ container.ReadsBack)
  stopped : ∀ count, trace.stateAt disk count destination = disk destination ∨
    ∃ payload, container.serialize crypto = .ok payload ∧
      trace.stateAt disk count destination = some payload
  othersKept : ∀ count path, path ≠ destination → path ≠ temporary →
    trace.stateAt disk count path = disk path
  temporaryGone : trace.commits ≠ [] → ¬ RemovalFails fault →
    trace.finalState disk temporary = none

theorem atomicWrite_of_refused {exc : PyError} (fault : Option WriteFault) :
    AtomicWrite crypto container temporary destination fault disk ⟨[], .error exc⟩ where
  raised _ _ := rfl
  returned _ returned := nomatch returned
  stopped _ := .inl (by simp [Trace.stateAt])
  othersKept _ _ _ _ := by simp [Trace.stateAt]
  temporaryGone wrote := absurd rfl wrote

/-- A call whose replacement goes through. -/
theorem atomicWrite_of_replaced (fault : Option WriteFault) (different : temporary ≠ destination)
    (serialized : container.serialize crypto = .ok payload) :
    AtomicWrite crypto container temporary destination fault disk
      ⟨[disk.write temporary [], disk.write temporary payload,
        (disk.remove temporary).write destination payload], .ok destination⟩ := by
  have untouched := Disk.SameBut.refl temporary disk
  -- The payload replaces the destination in the last of the three states.
  have reached (count : Nat) {state : Disk} (isState : state = Trace.stateAt
      (⟨[disk.write temporary [], disk.write temporary payload,
        (disk.remove temporary).write destination payload], .ok destination⟩ :
          Trace Disk PyError DevicePath) disk count) :
      disk.SameBut temporary state ∨
        state = (disk.remove temporary).write destination payload := by
    rcases Trace.stateAt_mem _ disk count with atStart | member
    · rw [isState, atStart]
      exact .inl untouched
    · rw [← isState] at member
      simp only [List.mem_cons, List.not_mem_nil, or_false] at member
      rcases member with rfl | rfl | rfl
      · exact .inl (untouched.write [])
      · exact .inl (untouched.write payload)
      · exact .inr rfl
  constructor
  case raised => intro exc failed; exact nomatch failed
  case returned =>
    rintro path ⟨⟩
    refine ⟨rfl, payload, serialized, ?_, SecureContainer.deserialize_serialize_iff serialized⟩
    simp [Trace.finalState]
  case stopped =>
    intro count
    rcases reached count rfl with same | moved
    · exact .inl (same destination different.symm)
    · exact .inr ⟨payload, serialized, by rw [moved, Disk.write_self]⟩
  case othersKept =>
    intro count path notDestination notTemporary
    rcases reached count rfl with same | moved
    · exact same path notTemporary
    · rw [moved, Disk.write_other notDestination, Disk.remove_other notTemporary]
  case temporaryGone =>
    intro _ _
    simp [Trace.finalState, Disk.write_other different]

/-- A call whose replacement fails. -/
theorem atomicWrite_of_failed {failed : WriteFault} {states : List Disk} {exc : PyError}
    (different : temporary ≠ destination)
    (same : ∀ state ∈ states, disk.SameBut temporary state)
    (final : states.getLast?.getD disk =
      if failed.cleanupFails then
        Function.update disk temporary (failed.step.leaves (disk temporary) payload)
      else disk.remove temporary) :
    AtomicWrite crypto container temporary destination (some failed) disk
      ⟨states, .error exc⟩ := by
  have keeps (count : Nat) : disk.SameBut temporary
      (Trace.stateAt (⟨states, .error exc⟩ : Trace Disk PyError DevicePath) disk count) := by
    rcases Trace.stateAt_mem _ disk count with atStart | member
    · rw [atStart]
      exact .refl temporary disk
    · exact same _ member
  constructor
  case raised =>
    intro _ _
    rw [← Trace.stateAt_of_length_le _ disk le_rfl]
    exact keeps _ destination different.symm
  case returned => intro path returned; exact nomatch returned
  case stopped => intro count; exact .inl (keeps count destination different.symm)
  case othersKept => intro count path _ notTemporary; exact keeps count path notTemporary
  case temporaryGone =>
    intro _ removable
    have removes : failed.cleanupFails = false :=
      Bool.eq_false_iff.mpr fun fails => removable ⟨failed, rfl, fails⟩
    rw [Trace.finalState, final, removes]
    simp

/-! ## The two methods -/

section Methods

variable {next : Unit → Committing Disk PyError DevicePath}

theorem replaceSteps_bind_none
    (verified : (next ()).run ((disk.remove temporary).write destination payload) =
      ⟨[], .ok destination⟩) :
    (replaceSteps temporary destination payload none raised >>= next).run disk =
      ⟨[disk.write temporary [], disk.write temporary payload,
        (disk.remove temporary).write destination payload], .ok destination⟩ := by
  rw [Committing.run_bind_returned replaceSteps_none rfl]
  exact congrArg _ verified

/-- A replacement whose result is verified and returned. -/
theorem atomicWrite_of_replaceSteps (different : temporary ≠ destination)
    (serialized : container.serialize crypto = .ok payload)
    (verified : (next ()).run ((disk.remove temporary).write destination payload) =
      ⟨[], .ok destination⟩) (fault : Option WriteFault) :
    AtomicWrite crypto container temporary destination fault disk
      ((replaceSteps temporary destination payload fault raised >>= next).run disk) := by
  cases fault with
  | none =>
      rw [replaceSteps_bind_none verified]
      exact atomicWrite_of_replaced none different serialized
  | some failed =>
      obtain ⟨states, failing, same, final⟩ :=
        @replaceSteps_some temporary destination payload raised disk failed
      rw [Committing.run_bind_error failing]
      exact atomicWrite_of_failed different same final

/-- The steps amount to `replaceFile`. -/
theorem replaceSteps_eq_replaceFile
    (verified : (next ()).run ((disk.remove temporary).write destination payload) =
      ⟨[], .ok destination⟩) (fault : Option WriteFault) :
    let trace := (replaceSteps temporary destination payload fault raised >>= next).run disk
    (trace.finalState disk, trace.outcome) =
      match replaceFile disk temporary destination payload fault with
      | (after, .ok ()) => (after, .ok destination)
      | (after, .error text) => (after, .error (raised text)) := by
  cases fault with
  | none =>
      rw [replaceSteps_bind_none verified]
      rfl
  | some failed =>
      obtain ⟨states, failing, -, final⟩ :=
        @replaceSteps_some temporary destination payload raised disk failed
      rw [Committing.run_bind_error failing]
      simp only [Trace.finalState, final, replaceFile]

end Methods

theorem rewriteSteps_atomic (crypto : Cryptography) (container : SecureContainer)
    (destination : DevicePath) (random : BytesOf 16) (fault : Option WriteFault) (disk : Disk) :
    AtomicWrite crypto container (temporaryPath destination random) destination fault disk
      ((rewriteContainerInPlaceSteps crypto container destination random fault).run disk) := by
  unfold rewriteContainerInPlaceSteps
  cases serialized : container.serialize crypto with
  | error exc => exact atomicWrite_of_refused fault
  | ok payload =>
      exact atomicWrite_of_replaceSteps (temporaryPath_ne destination random) serialized rfl fault

theorem rewriteSteps_refine (crypto : Cryptography) (container : SecureContainer)
    (destination : DevicePath) (random : BytesOf 16) (fault : Option WriteFault) (disk : Disk) :
    let trace := (rewriteContainerInPlaceSteps crypto container destination random fault).run disk
    (trace.finalState disk, trace.outcome) =
      rewriteContainerInPlace crypto disk container destination random fault := by
  unfold rewriteContainerInPlaceSteps rewriteContainerInPlace
  cases serialized : container.serialize crypto with
  | error exc => rfl
  | ok payload =>
      exact replaceSteps_eq_replaceFile rfl fault

theorem verifyContainer_written (serialized : container.serialize crypto = .ok payload) :
    verifyContainer crypto (disk.write destination payload) destination (some payload) =
      .ok true := by
  have read := SecureContainer.deserialize_serialize_reread serialized
  simp [verifyContainer, read, pure, Except.pure]

/-- A write is refused before its first step, or replaces a destination that it may replace. -/
theorem writeSteps_cases (crypto : Cryptography) (probes : HostProbes)
    (container : SecureContainer) (device : USBDevice) (filename : Option String)
    (overwrite : Bool) (random : BytesOf 16) (fault : Option WriteFault) (disk : Disk) :
    let destination := destinationPath container device filename
    let trace := (writeContainerSteps crypto probes container device filename overwrite random
      fault).run disk
    let written :=
      writeContainer crypto probes disk container device filename overwrite random fault
    (∃ exc, trace = ⟨[], .error exc⟩ ∧ written = (disk, .error exc)) ∨
      ((disk destination).isSome = true → overwrite = true) ∧ ∃ payload raised,
        container.serialize crypto = .ok payload ∧
        trace = (replaceSteps (temporaryPath destination random) destination payload fault
            raised >>= fun _ => do
          let _ ← .read fun disk => verifyContainer crypto disk destination (some payload)
          return destination).run disk ∧
        written = match replaceFile disk (temporaryPath destination random) destination payload
            fault with
          | (after, .ok ()) => (after, .ok destination)
          | (after, .error text) => (after, .error (raised text)) := by
  intro destination trace written
  have isTrace : trace = (writeContainerSteps crypto probes container device filename overwrite
    random fault).run disk := rfl
  have isWritten : written = writeContainer crypto probes disk container device filename
    overwrite random fault := rfl
  unfold writeContainerSteps at isTrace
  unfold writeContainer at isWritten
  cases serialized : container.serialize crypto with
  | error exc =>
      rw [serialized] at isTrace isWritten
      exact .inl ⟨exc, isTrace, isWritten⟩
  | ok payload =>
      rw [serialized] at isTrace isWritten
      rw [Committing.run_bind_ok rfl] at isTrace
      dsimp only at isTrace isWritten
      split at isTrace
      next invalid =>
        rw [if_pos invalid] at isWritten
        exact .inl ⟨_, isTrace, isWritten⟩
      next valid =>
        rw [if_neg valid] at isWritten
        split at isTrace
        next improper => exact .inl ⟨_, isTrace, isWritten.trans (if_pos improper)⟩
        next proper =>
          replace isWritten := isWritten.trans (if_neg proper)
          rw [Committing.run_bind_ok rfl] at isTrace
          split at isTrace
          next taken => exact .inl ⟨_, isTrace, isWritten.trans (if_pos taken)⟩
          next free =>
            replace isWritten := isWritten.trans (if_neg free)
            refine .inr ⟨?_, payload, _, rfl, isTrace, ?_⟩
            · intro present
              simpa [destination, present] using free
            · rw [isWritten]
              cases fault with
              | none =>
                  have verified := @verifyContainer_written crypto container destination payload
                    (disk.remove (temporaryPath destination random)) serialized
                  simp only [destination, destinationPath] at verified
                  simp only [replaceFile, verified]
                  rfl
              | some failed => rfl

theorem verification_returns (serialized : container.serialize crypto = .ok payload) :
    ((fun _ => do
      let _ ← .read fun disk => verifyContainer crypto disk destination (some payload)
      return destination : Unit → Committing Disk PyError DevicePath) ()).run
        ((disk.remove temporary).write destination payload) = ⟨[], .ok destination⟩ := by
  have verified := @verifyContainer_written crypto container destination payload
    (disk.remove temporary) serialized
  simp [Committing.run_bind, verified]

theorem writeSteps_atomic (crypto : Cryptography) (probes : HostProbes)
    (container : SecureContainer) (device : USBDevice) (filename : Option String)
    (overwrite : Bool) (random : BytesOf 16) (fault : Option WriteFault) (disk : Disk) :
    let destination := destinationPath container device filename
    AtomicWrite crypto container (temporaryPath destination random) destination fault disk
      ((writeContainerSteps crypto probes container device filename overwrite random
        fault).run disk) := by
  intro destination
  rcases writeSteps_cases crypto probes container device filename overwrite random fault disk with
    ⟨exc, refused, -⟩ | ⟨-, payload, raised, serialized, ran, -⟩
  · rw [refused]
    exact atomicWrite_of_refused fault
  · rw [ran]
    exact atomicWrite_of_replaceSteps (temporaryPath_ne destination random) serialized
      (verification_returns serialized) fault

theorem writeSteps_refine (crypto : Cryptography) (probes : HostProbes)
    (container : SecureContainer) (device : USBDevice) (filename : Option String)
    (overwrite : Bool) (random : BytesOf 16) (fault : Option WriteFault) (disk : Disk) :
    let trace := (writeContainerSteps crypto probes container device filename overwrite random
      fault).run disk
    (trace.finalState disk, trace.outcome) =
      writeContainer crypto probes disk container device filename overwrite random fault := by
  rcases writeSteps_cases crypto probes container device filename overwrite random fault disk with
    ⟨exc, refused, written⟩ | ⟨-, payload, raised, serialized, ran, written⟩
  · rw [refused, written]
    rfl
  · rw [ran, written]
    exact replaceSteps_eq_replaceFile (verification_returns serialized) fault

/-- Both methods replace a container atomically, and a write that may not overwrite leaves a
device with a file at its destination as it was. -/
theorem container_replacement_atomic (crypto : Cryptography) (container : SecureContainer)
    (random : BytesOf 16) (fault : Option WriteFault) (disk : Disk) :
    (∀ destination, AtomicWrite crypto container (temporaryPath destination random) destination
        fault disk
      ((rewriteContainerInPlaceSteps crypto container destination random fault).run disk)) ∧
    ∀ probes device filename overwrite,
      let destination := destinationPath container device filename
      let trace := (writeContainerSteps crypto probes container device filename overwrite random
        fault).run disk
      AtomicWrite crypto container (temporaryPath destination random) destination fault disk
          trace ∧
        (overwrite = false → (disk destination).isSome = true →
          ∀ count, trace.stateAt disk count = disk) := by
  constructor
  · intro destination
    exact rewriteSteps_atomic crypto container destination random fault disk
  · intro probes device filename overwrite destination trace
    refine ⟨writeSteps_atomic crypto probes container device filename overwrite random fault disk,
      ?_⟩
    intro keeps present count
    rcases writeSteps_cases crypto probes container device filename overwrite random fault disk
      with ⟨exc, refused, -⟩ | ⟨mayOverwrite, -⟩
    · rw [show trace = ⟨[], .error exc⟩ from refused]
      simp [Trace.stateAt]
    · rw [mayOverwrite present] at keeps
      cases keeps

end Steps

/-! ## A container that reads back as another -/

/-- Its metadata is that of another file. -/
def mislabelledContainer : SecureContainer where
  fileId := "file"
  fileContainer := plainContainer []
  protectedMetadata :=
    { fileId := "other", metadataVersion := 1, nonce := [], ciphertext := [], hmacTag := [] }

/-- It is written, but the payload does not deserialize to it. -/
theorem mislabelled_container_changes :
    ¬ ∀ path, ((rewriteContainerInPlaceSteps (plainCrypto []) mislabelledContainer ⟨"usb", "file"⟩
        (padTo 16 []) none).run fun _ => none).outcome = .ok path →
      ∃ payload, mislabelledContainer.serialize (plainCrypto []) = .ok payload ∧
        SecureContainer.deserialize (plainCrypto []) payload = .ok mislabelledContainer := by
  have small : mislabelledContainer.protectedMetadata.Small :=
    ⟨by decide, by decide, by decide, by decide, by decide⟩
  obtain ⟨payload, serialized, -⟩ := SecureContainer.serialize_total (plainCrypto [])
    (by decide) (plainContainer_serialize []) (by decide) small nofun
  have ran := rewriteSteps_refine (plainCrypto []) mislabelledContainer ⟨"usb", "file"⟩
    (padTo 16 []) none fun _ => none
  rw [rewrite_without_fault serialized] at ran
  intro readsBack
  obtain ⟨written, serializedAgain, read⟩ := readsBack _ (congrArg Prod.snd ran)
  have sameId := ((SecureContainer.deserialize_serialize_iff serializedAgain).mp read).1
  exact absurd sameId (by decide)

end SecureStorageWriter

end CryptoUsb
