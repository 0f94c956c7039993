import CryptoUsb.ContainerFormat
import CryptoUsb.UsbDevices

/-!
# Writing containers to a device

The device is a map from paths to file contents.  A container is written to a
temporary file that then replaces the destination; every operating system call
on the way may fail.  A write that fails leaves the destination as it was.
-/

namespace CryptoUsb

open ByteString

@[ext]
structure DevicePath where
  directory : String
  name : String
  deriving DecidableEq, Repr

/-- `str(path)`. -/
def DevicePath.text (path : DevicePath) : String :=
  if path.directory.endsWith "\\" || path.directory.endsWith "/" then
    path.directory ++ path.name
  else s!"{path.directory}/{path.name}"

/-- The contents of the files of a device. -/
abbrev Disk := DevicePath → Option Bytes

namespace Disk

def write (disk : Disk) (path : DevicePath) (contents : Bytes) : Disk :=
  Function.update disk path (some contents)

def remove (disk : Disk) (path : DevicePath) : Disk :=
  Function.update disk path none

@[simp]
theorem write_self (disk : Disk) (path : DevicePath) (contents : Bytes) :
    disk.write path contents path = some contents :=
  Function.update_self ..

@[simp]
theorem remove_self (disk : Disk) (path : DevicePath) : disk.remove path path = none :=
  Function.update_self ..

theorem write_other {disk : Disk} {path other : DevicePath} {contents : Bytes}
    (different : other ≠ path) : disk.write path contents other = disk other :=
  Function.update_of_ne different ..

theorem remove_other {disk : Disk} {path other : DevicePath} (different : other ≠ path) :
    disk.remove path other = disk other :=
  Function.update_of_ne different ..

end Disk

/-! ## Random identifiers -/

/-- The sixteen bytes of `uuid.uuid4()`: version and variant bits are fixed. -/
def uuid4 (random : BytesOf 16) : Bytes :=
  (random.1.modify 6 fun byte => byte &&& 0x0f ||| 0x40).modify 8 fun byte =>
    byte &&& 0x3f ||| 0x80

/-- `str(uuid)`. -/
def uuidText (uuid : Bytes) : String :=
  let digits := hexChars uuid
  String.ofList (digits.take 8 ++ '-' :: ((digits.drop 8).take 4 ++ '-' ::
    ((digits.drop 12).take 4 ++ '-' :: ((digits.drop 16).take 4 ++ '-' :: digits.drop 20))))

theorem uuidText_ne_empty (uuid : Bytes) : uuidText uuid ≠ "" := by
  intro empty
  have characters := congrArg String.toList empty
  simp [uuidText] at characters

/-- The characters of an identifier are digits and hyphens. -/
theorem mem_uuidText {uuid : Bytes} {character : Char}
    (member : character ∈ (uuidText uuid).toList) :
    character = '-' ∨ ∃ number < 16, character = hexDigit number := by
  simp only [uuidText, String.toList_ofList, List.mem_append, List.mem_cons] at member
  rcases member with inFirst | rfl | inSecond | rfl | inThird | rfl | inFourth | rfl | inLast
  · exact .inr (mem_hexChars (List.mem_of_mem_take inFirst))
  · exact .inl rfl
  · exact .inr (mem_hexChars (List.mem_of_mem_drop (List.mem_of_mem_take inSecond)))
  · exact .inl rfl
  · exact .inr (mem_hexChars (List.mem_of_mem_drop (List.mem_of_mem_take inThird)))
  · exact .inl rfl
  · exact .inr (mem_hexChars (List.mem_of_mem_drop (List.mem_of_mem_take inFourth)))
  · exact .inl rfl
  · exact .inr (mem_hexChars (List.mem_of_mem_drop inLast))

theorem length_encodeUtf8_uuidText (random : BytesOf 16) :
    (encodeUtf8 (uuidText (uuid4 random))).length ≤ 255 := by
  have size : (uuid4 random).length = 16 := by simp [uuid4, random.2]
  refine (length_encodeUtf8_ofList _).trans ?_
  simp only [List.length_append, List.length_cons, List.length_take, List.length_drop,
    length_hexChars, size]
  omega

/-! ## Atomic replacement -/

/-- The operating system call that fails, and what was written by then. -/
inductive WriteStep
  | open
  | write (written : Nat)
  | flush
  | fsync
  | replace
  deriving DecidableEq, Repr

structure WriteFault where
  step : WriteStep
  text : String
  cleanupFails : Bool := false
  deriving DecidableEq, Repr

/-- What the temporary file holds when a step fails. -/
def WriteStep.leaves (step : WriteStep) (before : Option Bytes) (payload : Bytes) :
    Option Bytes :=
  match step with
  | .open => before
  | .write written => some (payload.take written)
  | .flush => some payload
  | .fsync => some payload
  | .replace => some payload

/-- Write a temporary file and move it over the destination. -/
def replaceFile (disk : Disk) (temporary destination : DevicePath) (payload : Bytes)
    (fault : Option WriteFault) : Disk × Except String Unit :=
  match fault with
  | none => ((disk.remove temporary).write destination payload, .ok ())
  | some fault =>
      let left := fault.step.leaves (disk temporary) payload
      (if fault.cleanupFails then Function.update disk temporary left
        else disk.remove temporary,
        .error fault.text)

/-- `destination.with_name(f".{destination.name}.{uuid}.tmp")`. -/
def temporaryPath (destination : DevicePath) (random : BytesOf 16) : DevicePath :=
  { destination with name := s!".{destination.name}.{hexEncode (uuid4 random)}.tmp" }

theorem temporaryPath_ne (destination : DevicePath) (random : BytesOf 16) :
    temporaryPath destination random ≠ destination := by
  intro equal
  have names := congrArg (fun path => path.name.length) equal
  have dot : ("." : String).length = 1 := rfl
  simp only [temporaryPath, String.length_append, toString] at names
  omega

namespace SecureStorageWriter

def containerExtension : String := ".cusc"

/-- `name == Path(name).name` and `name` is not a directory reference, with the
separators and the drive prefix of Windows paths. -/
def isPlainName (name : String) : Bool :=
  let characters := name.toList
  name ≠ "." && name ≠ ".." && !characters.contains '/' && !characters.contains '\\' &&
    characters[1]? ≠ some ':'

/-- `rewrite_container_in_place`. -/
def rewriteContainerInPlace (crypto : Cryptography) (disk : Disk) (container : SecureContainer)
    (destination : DevicePath) (random : BytesOf 16) (fault : Option WriteFault) :
    Disk × Raises DevicePath :=
  match container.serialize crypto with
  | .error exc => (disk, .error exc)
  | .ok payload =>
      match replaceFile disk (temporaryPath destination random) destination payload fault with
      | (disk, .ok ()) => (disk, .ok destination)
      | (disk, .error exc) =>
          (disk, raise .containerWriteError
            s!"Failed to rewrite container at {destination.text}: {exc}")

/-- `read_container`. -/
def readContainer (crypto : Cryptography) (disk : Disk) (path : DevicePath) :
    Raises SecureContainer :=
  match disk path with
  | none => raise .osError s!"No such file or directory: '{path.text}'"
  | some data => SecureContainer.deserialize crypto data

/-- `verify_container`. -/
def verifyContainer (crypto : Cryptography) (disk : Disk) (path : DevicePath)
    (expectedPayload : Option Bytes) : Raises Bool :=
  match disk path with
  | none => raise .containerVerificationError s!"No container found at {path.text}"
  | some data =>
      if expectedPayload.any (data ≠ ·) then
        raise .containerVerificationError
          s!"On-disk container at {path.text} does not match the data that was written"
      else do
        let _ ← SecureContainer.deserialize crypto data
        return true

/-- `write_container`: validate the device, write atomically, verify. -/
def writeContainer (crypto : Cryptography) (probes : HostProbes) (disk : Disk)
    (container : SecureContainer) (device : USBDevice) (filename : Option String)
    (overwrite : Bool) (random : BytesOf 16) (fault : Option WriteFault) :
    Disk × Raises DevicePath :=
  match container.serialize crypto with
  | .error exc => (disk, .error exc)
  | .ok payload =>
      let validation := validateDevice probes device payload.length
      if !validation.ok then
        let reasons := String.intercalate "; " validation.reasons
        (disk, raise .deviceValidationError
          s!"Device {device.deviceId} failed validation: {reasons}")
      else
        let name := (filename.filter (· ≠ "")).getD (container.fileId ++ containerExtension)
        if !isPlainName name then
          (disk, raise .containerWriteError
            s!"Invalid container filename '{name}': must not contain a path")
        else
          let destination : DevicePath := ⟨device.mountPoint, name⟩
          if (disk destination).isSome && !overwrite then
            (disk, raise .containerOverwriteError
              s!"Refusing to overwrite existing container at {destination.text}. Pass overwrite=True to replace it explicitly.")
          else
            match replaceFile disk (temporaryPath destination random) destination payload
                fault with
            | (disk, .error exc) =>
                (disk, raise .containerWriteError s!"Failed to write container to {destination.text}: {exc}")
            | (disk, .ok ()) =>
                match verifyContainer crypto disk destination (some payload) with
                | .error exc => (disk, .error exc)
                | .ok _ => (disk, .ok destination)

variable {crypto : Cryptography} {probes : HostProbes} {disk : Disk} {container : SecureContainer}
  {destination : DevicePath} {random : BytesOf 16}

theorem readContainer_eq_ok {path : DevicePath} :
    readContainer crypto disk path = .ok container ↔
      ∃ data, disk path = some data ∧ SecureContainer.deserialize crypto data = .ok container := by
  unfold readContainer
  cases disk path with
  | none => simp
  | some data => simp

private theorem hexDigit_plain : ∀ number < 16, hexDigit number ≠ '/' ∧
    hexDigit number ≠ '\\' ∧ hexDigit number ≠ ':' := by
  decide +kernel

/-- The file name made of an identifier names no other directory. -/
theorem isPlainName_uuid (uuid : Bytes) :
    isPlainName (uuidText uuid ++ ".cusc") = true := by
  have characters : (uuidText uuid ++ ".cusc").toList =
      (uuidText uuid).toList ++ ['.', 'c', 'u', 's', 'c'] := by
    rw [String.toList_append]
    rfl
  have plain : ∀ character ∈ (uuidText uuid ++ ".cusc").toList,
      character ≠ '/' ∧ character ≠ '\\' ∧ character ≠ ':' := by
    intro character member
    rw [characters, List.mem_append] at member
    rcases member with inId | inExtension
    · rcases mem_uuidText inId with rfl | ⟨number, small, rfl⟩
      · decide
      · exact hexDigit_plain number small
    · simp only [List.mem_cons, List.not_mem_nil, or_false] at inExtension
      rcases inExtension with rfl | rfl | rfl | rfl | rfl <;> decide
  have long : 5 ≤ (uuidText uuid ++ ".cusc").toList.length := by
    rw [characters, List.length_append]
    exact Nat.le_add_left 5 _
  have notShort {name : String} (short : name.toList.length < 5) :
      uuidText uuid ++ ".cusc" ≠ name := by
    intro same
    rw [same] at long
    omega
  have noSlash : '/' ∉ (uuidText uuid ++ ".cusc").toList :=
    fun member => (plain _ member).1 rfl
  have noBackslash : '\\' ∉ (uuidText uuid ++ ".cusc").toList :=
    fun member => (plain _ member).2.1 rfl
  have noDrive : (uuidText uuid ++ ".cusc").toList[1]? ≠ some ':' :=
    fun drive => (plain _ (List.mem_of_getElem? drive)).2.2 rfl
  have notDot : uuidText uuid ++ ".cusc" ≠ "." := notShort (by decide)
  have notDots : uuidText uuid ++ ".cusc" ≠ ".." := notShort (by decide)
  simp only [isPlainName, Bool.and_eq_true, decide_eq_true_eq, Bool.not_eq_true',
    List.contains_eq_mem, decide_eq_false_iff_not]
  exact ⟨⟨⟨⟨notDot, notDots⟩, noSlash⟩, noBackslash⟩, noDrive⟩

theorem readContainer_congr {other : Disk} {path : DevicePath} (same : disk path = other path) :
    readContainer crypto disk path = readContainer crypto other path := by
  simp only [readContainer, same]

theorem rewrite_without_fault {payload : Bytes}
    (serialized : container.serialize crypto = .ok payload) :
    rewriteContainerInPlace crypto disk container destination random none =
      ((disk.remove (temporaryPath destination random)).write destination payload,
        .ok destination) := by
  simp [rewriteContainerInPlace, serialized, replaceFile]

/-- A rewrite touches only its destination and the temporary file. -/
theorem rewrite_other (fault : Option WriteFault) {path : DevicePath}
    (different : path ≠ destination) (notTemporary : path ≠ temporaryPath destination random) :
    (rewriteContainerInPlace crypto disk container destination random fault).1 path =
      disk path := by
  unfold rewriteContainerInPlace
  cases container.serialize crypto with
  | error raised => rfl
  | ok payload =>
      cases fault with
      | none =>
          simp only [replaceFile]
          rw [Disk.write_other different, Disk.remove_other notTemporary]
      | some fault =>
          simp only [replaceFile]
          split_ifs
          · exact Function.update_of_ne notTemporary ..
          · exact Disk.remove_other notTemporary

/-- A rewrite that raises leaves its destination as it was. -/
theorem rewrite_raises {fault : Option WriteFault} {exc : PyError}
    (raised : (rewriteContainerInPlace crypto disk container destination random fault).2 =
      .error exc) :
    (rewriteContainerInPlace crypto disk container destination random fault).1 destination =
      disk destination := by
  unfold rewriteContainerInPlace at raised ⊢
  cases serialized : container.serialize crypto with
  | error raised => rfl
  | ok payload =>
      cases fault with
      | none => simp [serialized, replaceFile] at raised
      | some fault =>
          have notTemporary := (temporaryPath_ne destination random).symm
          simp only [replaceFile]
          split_ifs
          · exact Function.update_of_ne notTemporary ..
          · exact Disk.remove_other notTemporary

/-- A container that reads back is written under a plain name that is free. -/
theorem writeContainer_total (overwrite : Bool) (random : BytesOf 16) {device : USBDevice}
    {filename : String} {payload : Bytes} (serialized : container.serialize crypto = .ok payload)
    (deserialized : SecureContainer.deserialize crypto payload = .ok container)
    (valid : (validateDevice probes device payload.length).ok = true)
    (named : filename ≠ "") (plain : isPlainName filename = true)
    (free : disk ⟨device.mountPoint, filename⟩ = none) :
    ∃ written, writeContainer crypto probes disk container device (some filename) overwrite
      random none = (written, .ok ⟨device.mountPoint, filename⟩) := by
  have name : ((some filename).filter (· ≠ "")).getD (container.fileId ++ containerExtension) =
      filename := by
    simp [Option.filter, named]
  unfold writeContainer
  simp only [serialized, valid, name]
  simp [plain, free, replaceFile, verifyContainer, deserialized, pure, Except.pure]

/-- What a successful write leaves behind. -/
theorem writeContainer_returns {device : USBDevice} {filename : Option String}
    {overwrite : Bool} {fault : Option WriteFault} {written : Disk} {path : DevicePath}
    (wrote : writeContainer crypto probes disk container device filename overwrite random fault =
      (written, .ok path)) :
    ∃ payload, container.serialize crypto = .ok payload ∧ written path = some payload ∧
      path = ⟨device.mountPoint,
        (filename.filter (· ≠ "")).getD (container.fileId ++ containerExtension)⟩ := by
  unfold writeContainer at wrote
  cases serialized : container.serialize crypto with
  | error exc => simp [serialized] at wrote
  | ok payload =>
      simp only [serialized] at wrote
      split at wrote
      · simp [raise] at wrote
      split at wrote
      · simp [raise] at wrote
      split at wrote
      · simp [raise] at wrote
      cases fault with
      | some fault => simp [replaceFile, raise] at wrote
      | none =>
          simp only [replaceFile] at wrote
          split at wrote
          · simp at wrote
          · simp only [Prod.mk.injEq, Except.ok.injEq] at wrote
            obtain ⟨rfl, rfl⟩ := wrote
            exact ⟨payload, rfl, Disk.write_self .., rfl⟩

end SecureStorageWriter

end CryptoUsb
