import CryptoUsb.AccessValidation

/-!
# Burning a one-time file

After its single view the wrapped key in a file's metadata is replaced by a
decoy, and the new record is saved under fresh protection keys to every
repository that holds a copy, one after the other.
-/

namespace CryptoUsb

open ByteString

/-- The random bytes a burn draws; `temporary` names the temporary file of each
save. -/
structure BurnEntropy where
  decoyFek : BytesOf AesCipher.aesKeySizeBytes
  wrap : WrapEntropy
  keys : ProtectionKeyEntropy
  nonce : AesCipher.Nonce
  temporary : Nat → BytesOf 16

/-- For each save, in order, whether and how it fails. -/
abbrev SaveFaults := Nat → Option WriteFault

/-- The repositories after a round of saves and what each save did. -/
structure SaveAllResult where
  disk : Disk
  repositories : List Repository
  saves : List (Raises Unit)
  outcome : Raises Unit

namespace OneTimeAccessEnforcer

/-- Save to the repositories in turn; the first save that raises ends it. -/
def saveAll (crypto : Cryptography) (stored : ProtectedMetadata) (temporary : Nat → BytesOf 16)
    (faults : SaveFaults) : Nat → Disk → List Repository → SaveAllResult
  | _, disk, [] => ⟨disk, [], [], .ok ()⟩
  | index, disk, repository :: rest =>
      let saved := repository.save crypto disk stored (temporary index) (faults index)
      match saved.outcome with
      | .error exc => ⟨saved.disk, saved.repository :: rest, [.error exc], .error exc⟩
      | .ok () =>
          let after := saveAll crypto stored temporary faults (index + 1) saved.disk rest
          ⟨after.disk, saved.repository :: after.repositories, .ok () :: after.saves,
            after.outcome⟩

/-- The record of a consumed file. -/
def burned (metadata : FileMetadata) (decoyWrapped : Bytes) : FileMetadata :=
  { metadata with wrappedKey := decoyWrapped, accessCount := 0 }

structure BurnResult where
  disk : Disk
  repositories : List Repository
  saves : List (Raises Unit)
  outcome : Raises MetadataProtectionKeys

/-- The record that a burn writes, or what keeps it from being made. -/
def burnedRecord (crypto : Cryptography) (metadata : FileMetadata) (keyWrapper : KeyWrapper)
    (entropy : BurnEntropy) : Raises ProtectedMetadata := do
  if !metadata.usagePolicy.oneTimeAccess then
    raise .valueError
      s!"file_id={metadata.fileId} is not marked for one-time access; refusing to burn it"
  else
    let decoyWrapped ← keyWrapper.wrap entropy.wrap entropy.decoyFek.1
    MetadataProtector.protect crypto (generateProtectionKeys entropy.keys) entropy.nonce
      (burned metadata decoyWrapped)

/-- `OneTimeAccessEnforcer.burn` on a repository and its mirrors. -/
def burn (crypto : Cryptography) (disk : Disk) (repositories : List Repository)
    (metadata : FileMetadata) (keyWrapper : KeyWrapper) (entropy : BurnEntropy)
    (faults : SaveFaults) : BurnResult :=
  match burnedRecord crypto metadata keyWrapper entropy with
  | .error exc => ⟨disk, repositories, [], .error exc⟩
  | .ok stored =>
      let saved := saveAll crypto stored entropy.temporary faults 0 disk repositories
      ⟨saved.disk, saved.repositories, saved.saves,
        saved.outcome.map fun _ => generateProtectionKeys entropy.keys⟩

variable {crypto : Cryptography} {stored : ProtectedMetadata} {temporary : Nat → BytesOf 16}
  {faults : SaveFaults} {metadata : FileMetadata} {keyWrapper : KeyWrapper}
  {entropy : BurnEntropy}

theorem burnedRecord_eq_ok :
    burnedRecord crypto metadata keyWrapper entropy = .ok stored ↔
      metadata.usagePolicy.oneTimeAccess = true ∧ ∃ decoyWrapped,
        keyWrapper.wrap entropy.wrap entropy.decoyFek.1 = .ok decoyWrapped ∧
        MetadataProtector.protect crypto (generateProtectionKeys entropy.keys) entropy.nonce
          (burned metadata decoyWrapped) = .ok stored := by
  unfold burnedRecord
  cases metadata.usagePolicy.oneTimeAccess <;> simp [bind_eq_ok]

theorem fileId_burnedRecord
    (written : burnedRecord crypto metadata keyWrapper entropy = .ok stored) :
    stored.fileId = metadata.fileId := by
  obtain ⟨-, decoyWrapped, -, wrote⟩ := burnedRecord_eq_ok.mp written
  exact (MetadataProtector.protect_eq_ok.mp wrote).2.1

theorem saveAll_cons {index : Nat} {disk : Disk} {repository : Repository} {rest : List Repository}
    (first : (repository.save crypto disk stored (temporary index) (faults index)).outcome =
      .ok ()) :
    let saved := repository.save crypto disk stored (temporary index) (faults index)
    let after := saveAll crypto stored temporary faults (index + 1) saved.disk rest
    saveAll crypto stored temporary faults index disk (repository :: rest) =
      ⟨after.disk, saved.repository :: after.repositories, .ok () :: after.saves,
        after.outcome⟩ := by
  simp only [saveAll, first]

theorem first_of_saveAll {index : Nat} {disk : Disk} {repository : Repository}
    {rest : List Repository}
    (returned : (saveAll crypto stored temporary faults index disk (repository :: rest)).outcome =
      .ok ()) :
    (repository.save crypto disk stored (temporary index) (faults index)).outcome = .ok () := by
  rw [saveAll] at returned
  cases outcome : (repository.save crypto disk stored (temporary index) (faults index)).outcome with
  | error exc => simp [outcome] at returned
  | ok _ => rfl

/-- When every save returns, so does the round. -/
theorem outcome_of_saves {index : Nat} {disk : Disk} {repositories : List Repository}
    (returned : ∀ saved ∈ (saveAll crypto stored temporary faults index disk repositories).saves,
      Returns saved) :
    (saveAll crypto stored temporary faults index disk repositories).outcome = .ok () := by
  induction repositories generalizing index disk with
  | nil => rfl
  | cons repository rest ih =>
      rw [saveAll] at returned ⊢
      cases outcome : (repository.save crypto disk stored (temporary index)
          (faults index)).outcome with
      | error exc => simp [outcome] at returned
      | ok _ =>
          simp only [outcome, List.mem_cons, forall_eq_or_imp] at returned ⊢
          exact ih returned.2

/-- When every save returns, every repository holds the record. -/
theorem saveAll_holds {index : Nat} {disk : Disk} {repositories : List Repository}
    (returned : ∀ saved ∈ (saveAll crypto stored temporary faults index disk repositories).saves,
      Returns saved) :
    (saveAll crypto stored temporary faults index disk repositories).outcome = .ok () ∧
      ∀ repository ∈ (saveAll crypto stored temporary faults index disk repositories).repositories,
        repository.load stored.fileId = some stored := by
  refine ⟨outcome_of_saves returned, ?_⟩
  replace returned := outcome_of_saves returned
  induction repositories generalizing index disk with
  | nil => simp [saveAll]
  | cons repository rest ih =>
      have first := first_of_saveAll returned
      rw [saveAll_cons first] at returned ⊢
      exact List.forall_mem_cons.mpr ⟨Repository.load_save first, ih returned⟩

/-- When every record fits and no operation fails, every save returns. -/
theorem saveAll_returns {index : Nat} {disk : Disk} {repositories : List Repository}
    (fits : ∀ repository ∈ repositories, repository.CanStore crypto stored)
    (spared : ∀ save < repositories.length, faults (index + save) = none) :
    ∀ saved ∈ (saveAll crypto stored temporary faults index disk repositories).saves,
      Returns saved := by
  induction repositories generalizing index disk with
  | nil => simp [saveAll]
  | cons repository rest ih =>
      have first : (repository.save crypto disk stored (temporary index)
          (faults index)).outcome = .ok () :=
        Repository.save_returns_iff.mpr ⟨fits repository (by simp), spared 0 (by simp)⟩
      have sparedRest : ∀ save < rest.length, faults (index + 1 + save) = none := by
        intro save small
        have sparedNext := spared (save + 1) (by simpa using small)
        rwa [show index + (save + 1) = index + 1 + save by omega] at sparedNext
      have others := @ih (index + 1)
        (repository.save crypto disk stored (temporary index) (faults index)).disk
        (fun other member => fits other (List.mem_cons_of_mem _ member)) sparedRest
      simpa [saveAll, first] using others

theorem saves_of_saveAll {index : Nat} {disk : Disk} {repositories : List Repository}
    (returned : (saveAll crypto stored temporary faults index disk repositories).outcome =
      .ok ()) :
    ∀ saved ∈ (saveAll crypto stored temporary faults index disk repositories).saves,
      Returns saved := by
  induction repositories generalizing index disk with
  | nil => simp [saveAll]
  | cons repository rest ih =>
      have first := first_of_saveAll returned
      rw [saveAll_cons first] at returned ⊢
      exact List.forall_mem_cons.mpr ⟨returns_ok (), ih returned⟩

theorem spared_of_saveAll {index : Nat} {disk : Disk} {repositories : List Repository}
    (returned : (saveAll crypto stored temporary faults index disk repositories).outcome = .ok ())
    {save : Nat} (inRound : save < repositories.length) : faults (index + save) = none := by
  induction repositories generalizing index disk save with
  | nil => simp at inRound
  | cons repository rest ih =>
      have first := first_of_saveAll returned
      rw [saveAll_cons first] at returned
      cases save with
      | zero => exact (Repository.save_returns_iff.mp first).2
      | succ save =>
          rw [show index + (save + 1) = index + 1 + save by omega]
          exact ih returned (by simpa using inRound)

theorem fits_of_saveAll {index : Nat} {disk : Disk} {repositories : List Repository}
    (returned : (saveAll crypto stored temporary faults index disk repositories).outcome =
      .ok ()) : ∀ repository ∈ repositories, repository.CanStore crypto stored := by
  induction repositories generalizing index disk with
  | nil => simp
  | cons repository rest ih =>
      have first := first_of_saveAll returned
      rw [saveAll_cons first] at returned
      exact List.forall_mem_cons.mpr ⟨(Repository.save_returns_iff.mp first).1, ih returned⟩

/-- A burn that returns has made its record and saved it everywhere. -/
theorem burn_returns {disk : Disk} {repositories : List Repository}
    {newKeys : MetadataProtectionKeys}
    (returned : (burn crypto disk repositories metadata keyWrapper entropy faults).outcome =
      .ok newKeys) :
    ∃ stored, burnedRecord crypto metadata keyWrapper entropy = .ok stored ∧
      (saveAll crypto stored entropy.temporary faults 0 disk repositories).outcome = .ok () ∧
      burn crypto disk repositories metadata keyWrapper entropy faults =
        ⟨(saveAll crypto stored entropy.temporary faults 0 disk repositories).disk,
          (saveAll crypto stored entropy.temporary faults 0 disk repositories).repositories,
          (saveAll crypto stored entropy.temporary faults 0 disk repositories).saves,
          .ok (generateProtectionKeys entropy.keys)⟩ := by
  unfold burn at returned ⊢
  cases made : burnedRecord crypto metadata keyWrapper entropy with
  | error exc => simp [made] at returned
  | ok stored =>
      simp only [made] at returned ⊢
      cases outcome : (saveAll crypto stored entropy.temporary faults 0 disk
          repositories).outcome with
      | error exc => simp [outcome, Except.map] at returned
      | ok _ => exact ⟨stored, rfl, outcome, rfl⟩

theorem burn_of_saved {disk : Disk} {repositories : List Repository}
    (made : burnedRecord crypto metadata keyWrapper entropy = .ok stored)
    (fits : ∀ repository ∈ repositories, repository.CanStore crypto stored)
    (spared : ∀ save < repositories.length, faults save = none) :
    Returns (burn crypto disk repositories metadata keyWrapper entropy faults).outcome := by
  have saved := @saveAll_returns crypto stored entropy.temporary faults 0 disk repositories fits
    (by simpa using spared)
  simp only [burn, made]
  exact returns_map.mpr ⟨(), outcome_of_saves saved⟩

theorem length_saveAll (index : Nat) (disk : Disk) (repositories : List Repository) :
    (saveAll crypto stored temporary faults index disk repositories).repositories.length =
      repositories.length := by
  induction repositories generalizing index disk with
  | nil => rfl
  | cons repository rest ih =>
      rw [saveAll]
      cases (repository.save crypto disk stored (temporary index) (faults index)).outcome with
      | error exc => simp
      | ok _ => simp [ih]

theorem length_burn {disk : Disk} {repositories : List Repository} :
    (burn crypto disk repositories metadata keyWrapper entropy faults).repositories.length =
      repositories.length := by
  unfold burn
  cases burnedRecord crypto metadata keyWrapper entropy with
  | error exc => rfl
  | ok stored => exact length_saveAll ..

end OneTimeAccessEnforcer

end CryptoUsb
