import CryptoUsb.MetadataStore

/-!
# The metadata page

A read-only view of the local repository: the records that open under the keys of the
installation, and the number of those that fail their integrity check.  The page polls,
and leaves what it shows alone while a poll finds nothing new.
-/

namespace CryptoUsb

open IsoDateTime

/-! ## Equal records -/

/-- `first == second`; the offsets may differ. -/
def sameMoment : Option DateTime → Option DateTime → Bool
  | none, none => true
  | some first, some second => first.subtract second = some 0
  | _, _ => false

/-- `first == second` on records. -/
def FileMetadata.equals (first second : FileMetadata) : Bool :=
  sameMoment first.createdAt second.createdAt &&
    sameMoment first.lastAccessedAt second.lastAccessedAt &&
    sameMoment first.expiryRules.expiresAt second.expiryRules.expiresAt &&
    first = { second with
      createdAt := first.createdAt
      lastAccessedAt := first.lastAccessedAt
      expiryRules := { second.expiryRules with expiresAt := first.expiryRules.expiresAt } }

/-! ## Reading the records -/

/-- The file ids in the order in which their records were last saved. -/
def MetadataRepository.listFileIds (repository : MetadataRepository) : List String :=
  repository.rows.keys.reverse

theorem MetadataRepository.mem_listFileIds {repository : MetadataRepository} {fileId : String} :
    fileId ∈ repository.listFileIds ↔ (repository.load fileId).isSome = true := by
  simp [listFileIds, load, AList.lookup_isSome, AList.mem_keys]

/-- The records that a poll could read, and the number of those that failed. -/
structure RecordListing where
  records : List FileMetadata := []
  tampered : Nat := 0

/-- The state of the page: what the latest rebuild was made from, the rows of the table and
the summary above it. -/
structure MetadataPage where
  metadataRepository : Option MetadataRepository
  protectionKeys : Option MetadataProtectionKeys
  lastRecords : Option (List FileMetadata) := none
  lastTampered : Int := -1
  rows : List FileMetadata := []
  summary : String := ""

namespace MetadataPage

section Reading

variable (crypto : Cryptography) (protectionKeys : MetadataProtectionKeys)
  (repository : MetadataRepository)

/-- One round of the loop of `refresh`. -/
def readRecord (listing : RecordListing) (fileId : String) : Raises RecordListing :=
  match repository.load fileId with
  | none => .ok listing
  | some stored =>
      match MetadataProtector.unprotect crypto protectionKeys stored with
      | .ok metadata => .ok { listing with records := listing.records ++ [metadata] }
      | .error exc =>
          if exc.kind = .metadataTamperError then
            .ok { listing with tampered := listing.tampered + 1 }
          else .error exc

def readRecords : Raises RecordListing :=
  repository.listFileIds.foldlM (readRecord crypto protectionKeys repository) {}

end Reading

def summaryText (listing : RecordListing) : String :=
  s!"{listing.records.length} record(s)" ++
    if listing.tampered = 0 then "" else s!" · {listing.tampered} failed integrity check"

/-- A poll found what the latest rebuild was made from. -/
def unchanged (page : MetadataPage) (listing : RecordListing) : Bool :=
  match page.lastRecords with
  | none => false
  | some lastRecords =>
      listing.records.isEqv lastRecords FileMetadata.equals && page.lastTampered = listing.tampered

/-- `MetadataPage.refresh`. -/
def refresh (crypto : Cryptography) (page : MetadataPage) : Raises MetadataPage :=
  match page.metadataRepository, page.protectionKeys with
  | some repository, some protectionKeys => do
      let listing ← readRecords crypto protectionKeys repository
      if page.unchanged listing then return page
      else return { page with
        lastRecords := some listing.records
        lastTampered := listing.tampered
        rows := listing.records
        summary := summaryText listing }
  | _, _ => .ok { page with
      rows := []
      summary := "No metadata repository is available in this session." }

/-! ## What a refresh counts -/

/-- The record of this file fails its integrity check. -/
def failsCheck (crypto : Cryptography) (protectionKeys : MetadataProtectionKeys)
    (repository : MetadataRepository) (fileId : String) : Bool :=
  match repository.load fileId with
  | none => false
  | some stored =>
      match MetadataProtector.unprotect crypto protectionKeys stored with
      | .ok _ => false
      | .error exc => exc.kind = .metadataTamperError

/-- Every record opens or fails its integrity check; the rest would end the poll. -/
def Checkable (crypto : Cryptography) (protectionKeys : MetadataProtectionKeys)
    (repository : MetadataRepository) : Prop :=
  ∀ fileId stored, repository.load fileId = some stored →
    failsCheck crypto protectionKeys repository fileId = true ∨
      Returns (MetadataProtector.unprotect crypto protectionKeys stored)

variable {crypto : Cryptography} {protectionKeys : MetadataProtectionKeys}
  {repository : MetadataRepository}

/-- A round counts a record that fails. -/
theorem tampered_readRecord {listing after : RecordListing} {fileId : String}
    (read : readRecord crypto protectionKeys repository listing fileId = .ok after) :
    after.tampered = listing.tampered +
      if failsCheck crypto protectionKeys repository fileId then 1 else 0 := by
  unfold readRecord at read
  unfold failsCheck
  cases loaded : repository.load fileId with
  | none =>
      rw [loaded] at read
      cases read
      rfl
  | some stored =>
      rw [loaded] at read
      cases opened : MetadataProtector.unprotect crypto protectionKeys stored with
      | ok metadata =>
          simp only [opened] at read
          cases read
          simp only [opened]
          rfl
      | error exc =>
          simp only [opened] at read
          split_ifs at read with tampered
          cases read
          simp [opened, tampered]

theorem readRecord_returns (checkable : Checkable crypto protectionKeys repository)
    (listing : RecordListing) (fileId : String) :
    ∃ after, readRecord crypto protectionKeys repository listing fileId = .ok after := by
  unfold readRecord
  cases loaded : repository.load fileId with
  | none => exact ⟨_, rfl⟩
  | some stored =>
      rcases checkable fileId stored loaded with fails | ⟨metadata, opened⟩
      · simp only [failsCheck, loaded] at fails
        cases opened : MetadataProtector.unprotect crypto protectionKeys stored with
        | ok metadata =>
            simp only [opened]
            exact ⟨_, rfl⟩
        | error exc =>
            simp only [opened, decide_eq_true_eq] at fails
            simp only [opened, fails, if_true]
            exact ⟨_, rfl⟩
      · simp only [opened]
        exact ⟨_, rfl⟩

theorem tampered_foldlM {fileIds : List String} {listing after : RecordListing}
    (read : fileIds.foldlM (readRecord crypto protectionKeys repository) listing = .ok after) :
    after.tampered = listing.tampered +
      fileIds.countP (failsCheck crypto protectionKeys repository) := by
  induction fileIds generalizing listing with
  | nil =>
      cases read
      rfl
  | cons fileId rest ih =>
      rw [List.foldlM_cons] at read
      obtain ⟨middle, first, others⟩ := bind_eq_ok.mp read
      rw [ih others, tampered_readRecord first, List.countP_cons]
      omega

theorem foldlM_returns (checkable : Checkable crypto protectionKeys repository)
    (fileIds : List String) (listing : RecordListing) :
    ∃ after, fileIds.foldlM (readRecord crypto protectionKeys repository) listing = .ok after := by
  induction fileIds generalizing listing with
  | nil => exact ⟨listing, rfl⟩
  | cons fileId rest ih =>
      obtain ⟨middle, first⟩ := readRecord_returns checkable listing fileId
      obtain ⟨after, others⟩ := ih middle
      exact ⟨after, by rw [List.foldlM_cons, first]; exact others⟩

/-- The number of records of a repository that fail their integrity check. -/
def failures (crypto : Cryptography) (protectionKeys : MetadataProtectionKeys)
    (repository : MetadataRepository) : Nat :=
  repository.listFileIds.countP (failsCheck crypto protectionKeys repository)

variable {page : MetadataPage}

/-- A refresh that returns has counted the records that fail. -/
theorem lastTampered_refresh (reads : page.metadataRepository = some repository)
    (keyed : page.protectionKeys = some protectionKeys) {after : MetadataPage}
    (refreshed : refresh crypto page = .ok after) :
    after.lastTampered = failures crypto protectionKeys repository := by
  simp only [refresh, reads, keyed] at refreshed
  obtain ⟨listing, read, shown⟩ := bind_eq_ok.mp refreshed
  have counted := tampered_foldlM read
  rw [Nat.zero_add] at counted
  rw [failures, ← counted]
  split_ifs at shown with same
  · cases shown
    unfold unchanged at same
    split at same
    · cases same
    · simp only [Bool.and_eq_true, decide_eq_true_eq] at same
      exact same.2
  · cases shown
    rfl

theorem refresh_returns (checkable : Checkable crypto protectionKeys repository)
    (reads : page.metadataRepository = some repository)
    (keyed : page.protectionKeys = some protectionKeys) :
    ∃ after, refresh crypto page = .ok after := by
  obtain ⟨listing, read⟩ := foldlM_returns checkable repository.listFileIds {}
  simp only [refresh, reads, keyed]
  rw [readRecords, read]
  show ∃ after, (if page.unchanged listing = true then _ else _) = _
  split_ifs
  · exact ⟨page, rfl⟩
  · exact ⟨_, rfl⟩

/-- The table and the summary are those of the latest rebuild. -/
structure Displays (page : MetadataPage) (listing : RecordListing) : Prop where
  lastRecords : page.lastRecords = some listing.records
  lastTampered : page.lastTampered = listing.tampered
  rows : page.rows = listing.records
  summary : page.summary = summaryText listing

/-- A page that has been rebuilt, or has just been constructed, displays its count. -/
theorem refresh_displays (reads : page.metadataRepository = some repository)
    (keyed : page.protectionKeys = some protectionKeys)
    (displayed : page.lastRecords = none ∨ ∃ listing, page.Displays listing)
    {after : MetadataPage} (refreshed : refresh crypto page = .ok after) :
    ∃ listing, after.Displays listing ∧
      listing.tampered = failures crypto protectionKeys repository := by
  have counted := lastTampered_refresh reads keyed refreshed
  simp only [refresh, reads, keyed] at refreshed
  obtain ⟨listing, read, shown⟩ := bind_eq_ok.mp refreshed
  split_ifs at shown with same
  · obtain rfl : page = after := Except.ok.inj shown
    rcases displayed with fresh | ⟨shownBefore, displays⟩
    · simp [unchanged, fresh] at same
    · exact ⟨shownBefore, displays, by exact_mod_cast displays.lastTampered.symm.trans counted⟩
  · cases shown
    exact ⟨listing, ⟨rfl, rfl, rfl, rfl⟩, Int.ofNat.inj counted⟩

theorem failures_eq_zero_iff : failures crypto protectionKeys repository = 0 ↔
    ∀ fileId, failsCheck crypto protectionKeys repository fileId = false := by
  rw [failures, List.countP_eq_zero]
  constructor
  · intro passed fileId
    by_contra fails
    have listed : fileId ∈ repository.listFileIds := by
      rw [MetadataRepository.mem_listFileIds]
      cases loaded : repository.load fileId with
      | none => simp [failsCheck, loaded] at fails
      | some _ => rfl
    exact passed fileId listed (Bool.eq_true_of_not_eq_false fails)
  · intro passed fileId _
    simp [passed fileId]

end MetadataPage

end CryptoUsb
