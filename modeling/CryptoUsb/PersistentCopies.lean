import CryptoUsb.OneTimeRuns

/-!
# Copies as they persist

A later attempt finds the local table as it is, and a portable section as the
file on the device holds it.  A round of saves that ends early has replaced the
copies it reached and left the others as they were.
-/

namespace CryptoUsb

open ByteString

namespace Repository

/-- The repository as it is opened again later. -/
def reopen (crypto : Cryptography) (disk : Disk) : Repository → Raises Repository
  | .sqlite table => .ok (.sqlite table)
  | .portable repository => do
      let container ← SecureStorageWriter.readContainer crypto disk repository.path
      return .portable { repository with container }

/-- The file that a save rewrites. -/
def file : Repository → Option DevicePath
  | .sqlite _ => none
  | .portable repository => some repository.path

/-- What rewrites one of the repositories does not touch the file of the other. -/
def Separate (first second : Repository) : Prop :=
  ∀ firstPath secondPath, first.file = some firstPath → second.file = some secondPath →
    firstPath ≠ secondPath ∧ (∀ random, firstPath ≠ temporaryPath secondPath random) ∧
      ∀ random, secondPath ≠ temporaryPath firstPath random

/-- The container of a portable repository reads back once it is written. -/
def WellFormed : Repository → Prop
  | .sqlite _ => True
  | .portable repository =>
      repository.container.fileContainer.nonce.length = AesCipher.nonceSizeBytes ∧
        repository.container.protectedMetadata.fileId = repository.container.fileId

variable {crypto : Cryptography} {disk : Disk} {repository other : Repository}
  {stored : ProtectedMetadata} {random : BytesOf 16} {fault : Option WriteFault}

theorem Separate.symm (separate : repository.Separate other) : other.Separate repository := by
  intro firstPath secondPath first second
  obtain ⟨different, notFirst, notSecond⟩ := separate secondPath firstPath second first
  exact ⟨different.symm, notSecond, notFirst⟩

theorem reopen_portable {container opened : SecureContainer} {path : DevicePath} :
    (Repository.portable ⟨container, path⟩).reopen crypto disk = .ok (.portable ⟨opened, path⟩) ↔
      SecureStorageWriter.readContainer crypto disk path = .ok opened := by
  simp only [reopen, bind_eq_ok]
  constructor
  · rintro ⟨read, readEq, made⟩
    obtain ⟨rfl⟩ := Except.ok.inj made
    exact readEq
  · intro read
    exact ⟨opened, read, rfl⟩

theorem reopen_idem (opened : repository.reopen crypto disk = .ok other) :
    other.reopen crypto disk = .ok other := by
  match repository with
  | .sqlite table =>
      obtain rfl := Except.ok.inj opened
      rfl
  | .portable repository =>
      obtain ⟨container, read, made⟩ := bind_eq_ok.mp opened
      obtain rfl := Except.ok.inj made
      exact bind_eq_ok.mpr ⟨container, read, rfl⟩

theorem reopen_of_remove {path : DevicePath}
    (opened : repository.reopen crypto (disk.remove path) = .ok other) :
    repository.reopen crypto disk = .ok other := by
  match repository with
  | .sqlite table => exact opened
  | .portable repository =>
      obtain ⟨container, read, made⟩ := bind_eq_ok.mp opened
      refine bind_eq_ok.mpr ⟨container, ?_, made⟩
      by_cases same : repository.path = path
      · simp [SecureStorageWriter.readContainer, same] at read
      · simpa only [SecureStorageWriter.readContainer, Disk.remove_other same] using read

theorem reopen_of_deleteContainer {request : AccessRequest} {draws : AccessDraws}
    (opened : repository.reopen crypto
      (SecureAccessService.deleteContainer request draws disk) = .ok other) :
    repository.reopen crypto disk = .ok other := by
  unfold SecureAccessService.deleteContainer at opened
  split at opened
  · exact opened
  · split_ifs at opened
    · exact opened
    · exact reopen_of_remove opened

theorem file_save :
    (repository.save crypto disk stored random fault).repository.file = repository.file := by
  match repository with
  | .sqlite table =>
      cases fault <;> rfl
  | .portable repository =>
      simp only [save, PortableMetadataRepository.save]
      cases repository.container.portableMetadata <;> rfl

theorem save_portable {portable : PortableMetadataRepository}
    {existing : PortableMetadataEnvelope}
    (embedded : portable.container.portableMetadata = some existing) :
    ((Repository.portable portable).save crypto disk stored random fault).repository =
      .portable { portable with container := portable.replaced existing stored } := by
  simp [save, PortableMetadataRepository.save, embedded]

/-- A save does not change what is opened of a separate repository. -/
theorem reopen_save_separate (separate : repository.Separate other) :
    other.reopen crypto (repository.save crypto disk stored random fault).disk =
      other.reopen crypto disk := by
  match repository, other with
  | _, .sqlite _ => rfl
  | .sqlite table, .portable second =>
      cases fault <;> rfl
  | .portable first, .portable second =>
      obtain ⟨different, -, notTemporary⟩ := separate first.path second.path rfl rfl
      simp only [save, PortableMetadataRepository.save]
      cases first.container.portableMetadata with
      | none => rfl
      | some envelope =>
          simp only [reopen, SecureStorageWriter.readContainer,
            SecureStorageWriter.rewrite_other fault different.symm (notTemporary random)]

/-- What a save that returned has put in place is what is opened later. -/
theorem reopen_save_returned (wellFormed : repository.WellFormed)
    (returned : (repository.save crypto disk stored random fault).outcome = .ok ()) :
    (repository.save crypto disk stored random fault).repository.reopen crypto
        (repository.save crypto disk stored random fault).disk =
      .ok (repository.save crypto disk stored random fault).repository := by
  match repository, wellFormed with
  | .sqlite table, _ => rfl
  | .portable repository, ⟨nonceSize, sameId⟩ =>
      obtain ⟨⟨envelope, payload, existing, serialized⟩, rfl⟩ := save_returns_iff.mp returned
      have read : SecureContainer.deserialize crypto payload =
          .ok (repository.replaced envelope stored) :=
        SecureContainer.deserialize_serialize serialized nonceSize sameId
      simp only [save, PortableMetadataRepository.save, existing,
        SecureStorageWriter.rewrite_without_fault serialized, reopen,
        SecureStorageWriter.readContainer, Disk.write_self, read]
      rfl

/-- A save that raised left in place what was there. -/
theorem reopen_save_raised {exc : PyError} (persisted : repository.reopen crypto disk =
      .ok repository)
    (raised : (repository.save crypto disk stored random fault).outcome = .error exc) :
    (repository.save crypto disk stored random fault).repository.reopen crypto
      (repository.save crypto disk stored random fault).disk = .ok repository := by
  match repository with
  | .sqlite table =>
      rw [save_sqlite_raises raised]
      rfl
  | .portable repository =>
      rw [← persisted]
      simp only [save, PortableMetadataRepository.save] at raised ⊢
      cases existing : repository.container.portableMetadata with
      | none => simp [reopen]
      | some envelope =>
          simp only [existing] at raised
          have rewriteRaised : (SecureStorageWriter.rewriteContainerInPlace crypto disk
              (repository.replaced envelope stored) repository.path random fault).2 =
                .error exc := by
            revert raised
            cases (SecureStorageWriter.rewriteContainerInPlace crypto disk
              (repository.replaced envelope stored) repository.path random fault).2 with
            | ok _ => simp [Except.map]
            | error raisedExc => simp [Except.map]
          simp only [reopen, SecureStorageWriter.readContainer,
            SecureStorageWriter.rewrite_raises rewriteRaised]

end Repository

/-! ## A round of saves -/

namespace OneTimeAccessEnforcer

variable {crypto : Cryptography} {stored : ProtectedMetadata} {temporary : Nat → BytesOf 16}
  {faults : SaveFaults}

theorem reopen_saveAll_separate {other : Repository} {index : Nat} {disk : Disk}
    {repositories : List Repository}
    (separate : ∀ repository ∈ repositories, repository.Separate other) :
    other.reopen crypto (saveAll crypto stored temporary faults index disk repositories).disk =
      other.reopen crypto disk := by
  induction repositories generalizing index disk with
  | nil => rfl
  | cons repository rest ih =>
      have afterFirst : other.reopen crypto
          (repository.save crypto disk stored (temporary index) (faults index)).disk =
            other.reopen crypto disk :=
        Repository.reopen_save_separate (separate repository (by simp))
      rw [saveAll]
      cases (repository.save crypto disk stored (temporary index) (faults index)).outcome with
      | error exc => exact afterFirst
      | ok _ =>
          rw [← afterFirst]
          exact ih fun later member => separate later (List.mem_cons_of_mem _ member)

/-- After a round in which every save returned, the new copies are what is opened
later. -/
theorem saveAll_persists {index : Nat} {disk : Disk} {repositories : List Repository}
    (separate : repositories.Pairwise Repository.Separate)
    (wellFormed : ∀ repository ∈ repositories, repository.WellFormed)
    (returned : ∀ saved ∈ (saveAll crypto stored temporary faults index disk repositories).saves,
      Returns saved) :
    ∀ saved ∈ (saveAll crypto stored temporary faults index disk repositories).repositories,
      saved.reopen crypto
        (saveAll crypto stored temporary faults index disk repositories).disk = .ok saved := by
  replace returned := outcome_of_saves returned
  induction repositories generalizing index disk with
  | nil => simp [saveAll]
  | cons repository rest ih =>
      obtain ⟨headSeparate, restSeparate⟩ := List.pairwise_cons.mp separate
      obtain ⟨headWellFormed, restWellFormed⟩ := List.forall_mem_cons.mp wellFormed
      have saved := first_of_saveAll returned
      rw [saveAll_cons saved] at returned ⊢
      refine List.forall_mem_cons.mpr ⟨?_, ih restSeparate restWellFormed returned⟩
      rw [reopen_saveAll_separate]
      · exact Repository.reopen_save_returned headWellFormed saved
      · intro later member firstPath secondPath first second
        rw [Repository.file_save] at second
        exact (headSeparate later member).symm firstPath secondPath first second

/-- A round that returns rewrites a container, if at all, in its portable section
only. -/
theorem readContainer_saveAll {container : SecureContainer} {path : DevicePath} {index : Nat}
    {disk : Disk} {repositories : List Repository}
    (separate : repositories.Pairwise Repository.Separate)
    (wellFormed : (Repository.portable ⟨container, path⟩).WellFormed)
    (listed : ∀ repository ∈ repositories, repository = .portable ⟨container, path⟩ ∨
      repository.Separate (.portable ⟨container, path⟩))
    (returned : (saveAll crypto stored temporary faults index disk repositories).outcome = .ok ())
    (read : SecureStorageWriter.readContainer crypto disk path = .ok container) :
    ∃ portableMetadata, SecureStorageWriter.readContainer crypto
      (saveAll crypto stored temporary faults index disk repositories).disk path =
        .ok { container with portableMetadata } := by
  induction repositories generalizing index disk with
  | nil => exact ⟨container.portableMetadata, read⟩
  | cons repository rest ih =>
      obtain ⟨headSeparate, restSeparate⟩ := List.pairwise_cons.mp separate
      have first := first_of_saveAll returned
      rw [saveAll_cons first] at returned ⊢
      rcases listed repository (by simp) with rfl | apart
      · have saved := Repository.reopen_save_returned wellFormed first
        obtain ⟨⟨envelope, payload, existing, -⟩, -⟩ := Repository.save_returns_iff.mp first
        simp only [Repository.save_portable existing] at saved headSeparate ⊢
        have apart : ∀ later ∈ rest, later.Separate
            (.portable ⟨PortableMetadataRepository.replaced ⟨container, path⟩ envelope stored,
              path⟩) := by
          intro later member firstPath secondPath first second
          exact (headSeparate later member).symm firstPath secondPath first second
        exact ⟨_, Repository.reopen_portable.mp ((reopen_saveAll_separate apart).trans saved)⟩
      · have readAfter : SecureStorageWriter.readContainer crypto
            (repository.save crypto disk stored (temporary index) (faults index)).disk path =
              .ok container := by
          rw [← Repository.reopen_portable, Repository.reopen_save_separate apart]
          exact Repository.reopen_portable.mpr read
        exact ih restSeparate (fun later member =>
          listed later (List.mem_cons_of_mem _ member)) returned readAfter

/-- When one of the saves fails, one of the copies is later opened as it was. -/
theorem saveAll_leaves (stored : ProtectedMetadata) (temporary : Nat → BytesOf 16) {index : Nat}
    {disk : Disk} {repositories : List Repository}
    (separate : repositories.Pairwise Repository.Separate)
    (persisted : ∀ repository ∈ repositories, repository.reopen crypto disk = .ok repository)
    {save : Nat} (inRound : save < repositories.length) (failing : faults (index + save) ≠ none) :
    ∃ repository ∈ repositories,
      ∃ saved ∈ (saveAll crypto stored temporary faults index disk repositories).repositories,
        saved.reopen crypto
          (saveAll crypto stored temporary faults index disk repositories).disk =
            .ok repository := by
  induction repositories generalizing index disk save with
  | nil => simp at inRound
  | cons repository rest ih =>
      obtain ⟨headSeparate, restSeparate⟩ := List.pairwise_cons.mp separate
      rw [saveAll]
      cases outcome : (repository.save crypto disk stored (temporary index)
          (faults index)).outcome with
      | error exc =>
          exact ⟨repository, by simp, _, List.mem_cons_self,
            Repository.reopen_save_raised (persisted repository (by simp)) outcome⟩
      | ok _ =>
          have spared : faults index = none := (Repository.save_returns_iff.mp outcome).2
          cases save with
          | zero => exact absurd spared failing
          | succ save =>
              have restPersisted : ∀ later ∈ rest, later.reopen crypto
                  (repository.save crypto disk stored (temporary index) (faults index)).disk =
                    .ok later := by
                intro later member
                rw [Repository.reopen_save_separate (headSeparate later member)]
                exact persisted later (List.mem_cons_of_mem _ member)
              rw [show index + (save + 1) = index + 1 + save by omega] at failing
              obtain ⟨old, oldMember, saved, savedMember, opened⟩ :=
                ih restSeparate restPersisted (by simpa using inRound) failing
              exact ⟨old, List.mem_cons_of_mem _ oldMember, saved,
                List.mem_cons_of_mem _ savedMember, opened⟩

end OneTimeAccessEnforcer

end CryptoUsb
