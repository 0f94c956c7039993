import CryptoUsb.CopiedContainers
import CryptoUsb.MetadataPage
import CryptoUsb.StoreFailures

/-!
# Ordinary use of the local repository

Writes, views and rebinds through the pages, which share one repository and the protection
keys of the installation.  Each saves its records under these keys, so that the metadata page
counts no failure.  The burn of a record of the repository is the exception: it saves under
fresh keys, and the page that asked for it drops them.
-/

namespace CryptoUsb

open ByteString DecryptionPage TransitionRuns

/-! ## Records that open -/

/-- Every record of the repository opens under these keys. -/
def AllOpen (crypto : Cryptography) (keys : MetadataProtectionKeys) (table : MetadataRepository) :
    Prop :=
  ∀ fileId stored, table.load fileId = some stored →
    Returns (MetadataProtector.unprotect crypto keys stored)

/-- The repository, or the repository with one more record that is protected under these keys. -/
def SavesUnder (crypto : Cryptography) (keys : MetadataProtectionKeys)
    (before after : MetadataRepository) : Prop :=
  after = before ∨ ∃ nonce metadata stored,
    MetadataProtector.protect crypto keys nonce metadata = .ok stored ∧
      after = before.upsert stored

/-- A refresh of the metadata page with these keys returns and counts so many failures. -/
def CountsTampered (crypto : Cryptography) (keys : MetadataProtectionKeys)
    (table : MetadataRepository) (tampered : Nat) : Prop :=
  ∀ page : MetadataPage, page.metadataRepository = some table → page.protectionKeys = some keys →
    ∃ after, page.refresh crypto = .ok after ∧ after.lastTampered = tampered

section Opening

variable {crypto : Cryptography} {keys otherKeys : MetadataProtectionKeys}
  {table : MetadataRepository} {nonce : AesCipher.Nonce} {metadata : FileMetadata}
  {stored : ProtectedMetadata}

theorem allOpen_empty : AllOpen crypto keys {} := by
  intro fileId stored loaded
  cases loaded

theorem AllOpen.passes (allOpen : AllOpen crypto keys table) (fileId : String) :
    MetadataPage.failsCheck crypto keys table fileId = false := by
  unfold MetadataPage.failsCheck
  cases loaded : table.load fileId with
  | none => rfl
  | some stored =>
      obtain ⟨metadata, opened⟩ := allOpen fileId stored loaded
      simp only [opened]

theorem AllOpen.upsert (laws : crypto.AesGcmLaws) (allOpen : AllOpen crypto keys table)
    (written : MetadataProtector.protect crypto keys nonce metadata = .ok stored) :
    AllOpen crypto keys (table.upsert stored) := by
  intro fileId found loaded
  by_cases same : fileId = stored.fileId
  · rw [same, MetadataRepository.load_upsert] at loaded
    cases loaded
    exact ⟨metadata, MetadataProtector.unprotect_protect laws written⟩
  · rw [MetadataRepository.load_upsert_other same] at loaded
    exact allOpen fileId found loaded

theorem AllOpen.saves (laws : crypto.AesGcmLaws) (allOpen : AllOpen crypto keys table)
    {after : MetadataRepository} (saves : SavesUnder crypto keys table after) :
    AllOpen crypto keys after := by
  rcases saves with rfl | ⟨nonce, metadata, stored, written, rfl⟩
  · exact allOpen
  · exact allOpen.upsert laws written

/-- Under another key the record of a file fails as a tampered one does. -/
theorem unprotect_foreign (laws : crypto.AesGcmLaws)
    (written : MetadataProtector.protect crypto otherKeys nonce metadata = .ok stored)
    (foreign : otherKeys.encryptionKey ≠ keys.encryptionKey) :
    ∃ message, MetadataProtector.unprotect crypto keys stored =
      .error ⟨.metadataTamperError, message⟩ := by
  obtain ⟨encrypted, -, -, -⟩ := MetadataProtector.protect_eq_ok.mp written
  unfold MetadataProtector.unprotect
  simp only
  split_ifs with invalid
  · exact ⟨_, rfl⟩
  · cases decrypted : AesCipher.decrypt crypto stored.nonce stored.ciphertext
        keys.encryptionKey with
    | error exc => exact ⟨_, rfl⟩
    | ok payload =>
        exact absurd (AesCipher.key_eq_of_decrypt laws encrypted decrypted).symm foreign

theorem AllOpen.failsCheck_foreign (laws : crypto.AesGcmLaws) (allOpen : AllOpen crypto keys table)
    (written : MetadataProtector.protect crypto otherKeys nonce metadata = .ok stored)
    (foreign : otherKeys.encryptionKey ≠ keys.encryptionKey) (fileId : String) :
    MetadataPage.failsCheck crypto keys (table.upsert stored) fileId =
      (fileId == stored.fileId) := by
  by_cases same : fileId = stored.fileId
  · obtain ⟨message, failed⟩ := unprotect_foreign laws written foreign
    simp [MetadataPage.failsCheck, same, failed]
  · have passes := allOpen.passes fileId
    rw [MetadataPage.failsCheck] at passes ⊢
    rw [MetadataRepository.load_upsert_other same, passes]
    simp [same]

theorem countsTampered_of_checkable (checkable : MetadataPage.Checkable crypto keys table) :
    CountsTampered crypto keys table (MetadataPage.failures crypto keys table) := by
  intro page reads keyed
  obtain ⟨after, refreshed⟩ := MetadataPage.refresh_returns checkable reads keyed
  exact ⟨after, refreshed, MetadataPage.lastTampered_refresh reads keyed refreshed⟩

theorem CountsTampered.unique {tampered other : Nat}
    (counts : CountsTampered crypto keys table tampered)
    (alsoCounts : CountsTampered crypto keys table other) : tampered = other := by
  obtain ⟨after, refreshed, counted⟩ := counts ⟨some table, some keys, none, -1, [], ""⟩ rfl rfl
  obtain ⟨again, refreshedToo, countedToo⟩ :=
    alsoCounts ⟨some table, some keys, none, -1, [], ""⟩ rfl rfl
  obtain rfl := Except.ok.inj (refreshed.symm.trans refreshedToo)
  exact Int.ofNat.inj (counted.symm.trans countedToo)

theorem AllOpen.counts_none (allOpen : AllOpen crypto keys table) :
    CountsTampered crypto keys table 0 := by
  have none : MetadataPage.failures crypto keys table = 0 :=
    MetadataPage.failures_eq_zero_iff.mpr allOpen.passes
  rw [← none]
  exact countsTampered_of_checkable fun fileId stored loaded => .inr (allOpen fileId stored loaded)

theorem AllOpen.counts_foreign (laws : crypto.AesGcmLaws) (allOpen : AllOpen crypto keys table)
    (written : MetadataProtector.protect crypto otherKeys nonce metadata = .ok stored)
    (foreign : otherKeys.encryptionKey ≠ keys.encryptionKey) :
    CountsTampered crypto keys (table.upsert stored) 1 := by
  have fails := allOpen.failsCheck_foreign laws written foreign
  have listed : stored.fileId ∈ (table.upsert stored).listFileIds := by
    rw [MetadataRepository.mem_listFileIds, MetadataRepository.load_upsert]
    rfl
  have apart : (table.upsert stored).listFileIds.Nodup :=
    List.nodup_reverse.mpr (table.upsert stored).rows.nodupKeys
  have one : MetadataPage.failures crypto keys (table.upsert stored) = 1 := by
    rw [MetadataPage.failures, funext fails]
    exact List.count_eq_one_of_mem apart listed
  rw [← one]
  apply countsTampered_of_checkable
  intro fileId found loaded
  by_cases same : fileId = stored.fileId
  · exact .inl (by rw [fails, same, beq_self_eq_true])
  · rw [MetadataRepository.load_upsert_other same] at loaded
    exact .inr (allOpen fileId found loaded)

end Opening

/-! ## Steps -/

/-- The local repository of an installation, and the devices. -/
structure Installation where
  table : MetadataRepository
  disk : Disk

/-- A click on "write", "view" or "rebind", with the page as the user left it. -/
inductive PageUse
  | wrote (page : EncryptionPage) (choice : WriteChoice) (draws : WriteDraws)
    (probes : HostProbes)
  | viewed (click : ViewClick)
  | rebound (page : DecryptionPage) (answer : RebindAnswer) (probes : HostProbes)

/-- The pages share the repository and the protection keys of the installation. -/
inductive UseStep (crypto : Cryptography)
    (serialization : KeySerialization RSAPrivateKey RSAPublicKey) (keys : MetadataProtectionKeys) :
    Installation → PageUse → Installation → Prop
  | wrote {state : Installation} {page : EncryptionPage} {choice : WriteChoice}
      {draws : WriteDraws} {probes : HostProbes} {table : MetadataRepository}
      (shared : page.metadataRepository = some state.table)
      (keyed : page.protectionKeys = some keys)
      (left : (page.writeContainer crypto choice draws probes
        state.disk).page.metadataRepository = some table) :
      UseStep crypto serialization keys state (.wrote page choice draws probes)
        ⟨table, (page.writeContainer crypto choice draws probes state.disk).disk⟩
  | viewed {state : Installation} {click : ViewClick} {table : MetadataRepository}
      (shared : click.page.metadataRepository = some state.table)
      (keyed : click.page.protectionKeys = keys)
      (left : (click.clicked crypto state.disk).page.metadataRepository = some table) :
      UseStep crypto serialization keys state (.viewed click)
        ⟨table, (click.clicked crypto state.disk).disk⟩
  | rebound {state : Installation} {page : DecryptionPage} {answer : RebindAnswer}
      {probes : HostProbes} {table : MetadataRepository}
      (shared : page.metadataRepository = some state.table)
      (keyed : page.protectionKeys = keys)
      (left : (onRebindClicked crypto probes page serialization state.disk
        answer).page.metadataRepository = some table) :
      UseStep crypto serialization keys state (.rebound page answer probes)
        ⟨table, (onRebindClicked crypto probes page serialization state.disk answer).disk⟩

/-- The saves of a round come to the local repository behind the others: the record fits into
these, and no save up to that of the local repository fails. -/
structure ReachesTable (crypto : Cryptography) (stored : ProtectedMetadata) (faults : SaveFaults)
    (before : List Repository) : Prop where
  fits : ∀ repository ∈ before, repository.CanStore crypto stored
  spared : ∀ save ≤ before.length, faults save = none

/-- The view is granted, the viewer shows the file, which may be viewed once, and the burn that
follows comes to the local repository. -/
structure LocalBurn (crypto : Cryptography) (state : Installation) (click : ViewClick)
    (service : SecureAccessService) (request : AccessRequest) (metadata : FileMetadata)
    (plaintext : Bytes) (stored : ProtectedMetadata) (before : List Repository) : Prop where
  started : prepareView crypto click.probes click.page click.display state.disk =
    .ok (service, request)
  granted : SecureAccessService.Grant crypto service request click.draws metadata plaintext
  shown : Returns (click.display plaintext)
  made : OneTimeAccessEnforcer.burnedRecord crypto metadata
    (SecureAccessService.effectiveWrapper crypto request.keyWrapper metadata.deviceBinding
      request.identity) click.draws.burn = .ok stored
  repositories : service.repositories = before ++ [.sqlite state.table]
  reaches : ReachesTable crypto stored click.draws.saveFaults before

/-- A view that burns a record of the local repository. -/
def PageUse.BurnsRecord (crypto : Cryptography) (state : Installation) : PageUse → Prop
  | .viewed click => ∃ service request metadata plaintext stored before,
      LocalBurn crypto state click service request metadata plaintext stored before
  | _ => False

/-- The keys that a burn would draw are not those of the installation. -/
def PageUse.DrawsOtherKey (keys : MetadataProtectionKeys) : PageUse → Prop
  | .viewed click =>
      (generateProtectionKeys click.draws.burn.keys).encryptionKey ≠ keys.encryptionKey
  | _ => True

/-- A step that burns no record of the local repository. -/
def KeepingStep (crypto : Cryptography)
    (serialization : KeySerialization RSAPrivateKey RSAPublicKey) (keys : MetadataProtectionKeys)
    (state : Installation) (use : PageUse) (next : Installation) : Prop :=
  UseStep crypto serialization keys state use next ∧ ¬ use.BurnsRecord crypto state

/-! ## Rounds of saves that end in the local repository -/

section Rounds

variable {crypto : Cryptography} {stored : ProtectedMetadata} {temporary : Nat → BytesOf 16}
  {faults : SaveFaults} {table : MetadataRepository}

theorem table?_save {disk : Disk} {repository : Repository} {random : BytesOf 16}
    {fault : Option WriteFault} (portable : repository.table? = none) :
    (repository.save crypto disk stored random fault).repository.table? = none := by
  cases repository with
  | sqlite table => cases portable
  | portable repository => rfl

theorem saveAll_portable {before : List Repository}
    (portable : ∀ repository ∈ before, repository.table? = none) (index : Nat) (disk : Disk) :
    ∀ repository ∈ (OneTimeAccessEnforcer.saveAll crypto stored temporary faults index disk
      before).repositories, repository.table? = none := by
  induction before generalizing index disk with
  | nil => nofun
  | cons repository rest ih =>
      obtain ⟨first, others⟩ := List.forall_mem_cons.mp portable
      have kept := @table?_save crypto stored disk repository (temporary index) (faults index) first
      rw [OneTimeAccessEnforcer.saveAll]
      cases (repository.save crypto disk stored (temporary index) (faults index)).outcome with
      | error exc => exact List.forall_mem_cons.mpr ⟨kept, others⟩
      | ok _ => exact List.forall_mem_cons.mpr ⟨kept, ih others _ _⟩

theorem findTable_append {before : List Repository}
    (portable : ∀ repository ∈ before, repository.table? = none) :
    (before ++ [Repository.sqlite table]).findSome? Repository.table? = some table := by
  rw [List.findSome?_append, List.findSome?_eq_none_iff.mpr portable]
  rfl

theorem reachesTable_cons {repository : Repository} {rest : List Repository} :
    ReachesTable crypto stored faults (repository :: rest) ↔
      (repository.CanStore crypto stored ∧ faults 0 = none) ∧
        ReachesTable crypto stored (fun save => faults (1 + save)) rest := by
  constructor
  · intro reaches
    refine ⟨⟨reaches.fits repository List.mem_cons_self, reaches.spared 0 (Nat.zero_le _)⟩,
      fun other member => reaches.fits other (List.mem_cons_of_mem _ member), ?_⟩
    intro save inRound
    exact reaches.spared (1 + save) (by simpa [Nat.add_comm] using inRound)
  · rintro ⟨⟨fits, spared⟩, rest⟩
    refine ⟨List.forall_mem_cons.mpr ⟨fits, rest.fits⟩, ?_⟩
    intro save inRound
    cases save with
    | zero => exact spared
    | succ save =>
        rw [Nat.add_comm]
        exact rest.spared save (by simpa using inRound)

/-- The local repository holds the record when the round comes to it, and is as it was when it
does not. -/
theorem saveAll_table {before : List Repository}
    (portable : ∀ repository ∈ before, repository.table? = none) (index : Nat) (disk : Disk) :
    let saved := OneTimeAccessEnforcer.saveAll crypto stored temporary faults index disk
      (before ++ [.sqlite table])
    ReachesTable crypto stored (fun save => faults (index + save)) before ∧
        saved.repositories.findSome? Repository.table? = some (table.upsert stored) ∨
      ¬ ReachesTable crypto stored (fun save => faults (index + save)) before ∧
        saved.repositories.findSome? Repository.table? = some table := by
  induction before generalizing index disk with
  | nil =>
      cases spared : faults index with
      | none =>
          refine .inl ⟨⟨by simp, fun save inRound => ?_⟩, ?_⟩
          · obtain rfl : save = 0 := Nat.le_zero.mp inRound
            exact spared
          · simp [OneTimeAccessEnforcer.saveAll, Repository.save, MetadataRepository.save, spared,
              Repository.table?]
      | some fault =>
          refine .inr ⟨fun reaches => ?_, ?_⟩
          · cases spared.symm.trans (reaches.spared 0 (Nat.zero_le _))
          · simp [OneTimeAccessEnforcer.saveAll, Repository.save, MetadataRepository.save, spared,
              Repository.table?, raise]
  | cons repository rest ih =>
      obtain ⟨first, others⟩ := List.forall_mem_cons.mp portable
      have kept := @table?_save crypto stored disk repository (temporary index) (faults index) first
      rw [reachesTable_cons, List.cons_append, OneTimeAccessEnforcer.saveAll]
      cases outcome : (repository.save crypto disk stored (temporary index)
          (faults index)).outcome with
      | error exc =>
          refine .inr ⟨fun reaches => ?_, ?_⟩
          · cases outcome.symm.trans (Repository.save_returns_iff.mpr reaches.1)
          · simp only [List.findSome?_cons, kept]
            exact findTable_append others
      | ok _ =>
          have returns := Repository.save_returns_iff.mp outcome
          have shifted : (fun save => faults (index + (1 + save))) =
              fun save => faults (index + 1 + save) := by
            funext save
            rw [Nat.add_assoc]
          simp only [List.findSome?_cons, kept, shifted]
          rcases ih others (index + 1) (repository.save crypto disk stored (temporary index)
              (faults index)).disk with ⟨reaches, saved⟩ | ⟨short, saved⟩
          · exact .inl ⟨⟨returns, reaches⟩, saved⟩
          · exact .inr ⟨fun reaches => short reaches.2, saved⟩

end Rounds

/-! ## What the pages leave in the local repository -/

section Uses

variable {crypto : Cryptography} {serialization : KeySerialization RSAPrivateKey RSAPublicKey}
  {keys : MetadataProtectionKeys} {state next : Installation} {table : MetadataRepository}

/-- A source is the local repository, or the portable section of a container. -/
theorem viewSource_cases {page : DecryptionPage} {disk : Disk} {session : PageSession}
    {path : DevicePath} {keyWrapper : RSAOAEPKeyWrapper} {source : MetadataSource}
    (chosen : viewSource crypto page disk session path keyWrapper = .ok source) :
    source = localSource page ∨
      source.portable = true ∧ ∃ repository, source.repository = some (.portable repository) := by
  unfold viewSource at chosen
  cases portable : (if session.isDecoy then (.ok none : Raises (Option MetadataSource))
      else portableSource crypto page disk path keyWrapper) with
  | error exc =>
      rw [portable] at chosen
      cases chosen
  | ok found =>
      rw [portable] at chosen
      simp only [Except.mapError, bind, Except.bind] at chosen
      split_ifs at chosen with unavailable
      obtain rfl := Except.ok.inj chosen
      cases found with
      | none => exact .inl rfl
      | some source =>
          split_ifs at portable with decoy
          · cases portable
          · unfold portableSource at portable
            split at portable
            · split at portable
              · split_ifs at portable
                cases portable
              · obtain ⟨envelope, -, rfl⟩ := Option.map_eq_some_iff.mp (Except.ok.inj portable)
                exact .inr ⟨rfl, _, rfl⟩
            · cases portable

private theorem click_bind_eq_ok {α β : Type} {first : Except ClickEnd α}
    {next : α → Except ClickEnd β} {value : β} :
    (first >>= next) = .ok value ↔ ∃ result, first = .ok result ∧ next result = .ok value := by
  cases first with
  | error ended => simp [bind, Except.bind]
  | ok result => simp [bind, Except.bind]

/-- What a view that comes to an attempt is made of. -/
theorem of_prepareView {probes : HostProbes} {page : DecryptionPage}
    {display : Bytes → Raises Unit} {disk : Disk} {service : SecureAccessService}
    {request : AccessRequest}
    (started : prepareView crypto probes page display disk = .ok (service, request)) :
    ∃ path keyWrapper session source, ∃ file : String × Bytes,
      viewSource crypto page disk session path keyWrapper = .ok source ∧
        service = accessService page source file.1 ∧
        request = accessRequest crypto probes page display session keyWrapper path source file.1
          file.2 := by
  unfold prepareView at started
  obtain ⟨path, -, started⟩ := click_bind_eq_ok.mp started
  obtain ⟨keyWrapper, -, started⟩ := click_bind_eq_ok.mp started
  obtain ⟨session, -, started⟩ := click_bind_eq_ok.mp started
  obtain ⟨source, chosen, started⟩ := click_bind_eq_ok.mp started
  obtain ⟨file, -, made⟩ := click_bind_eq_ok.mp started
  obtain ⟨rfl, rfl⟩ := Prod.mk.inj (Except.ok.inj made)
  exact ⟨path, keyWrapper, session, source, file, chosen, rfl, rfl⟩

/-- The local repository is the last one that a view saves to, if it is one of them. -/
theorem repositories_of_prepareView {probes : HostProbes} {page : DecryptionPage}
    {display : Bytes → Raises Unit} {disk : Disk} {service : SecureAccessService}
    {request : AccessRequest}
    (started : prepareView crypto probes page display disk = .ok (service, request))
    (shared : page.metadataRepository = some table) :
    ∃ before, (∀ repository ∈ before, repository.table? = none) ∧
      (service.repositories = before ++ [.sqlite table] ∨ service.repositories = before) := by
  obtain ⟨path, keyWrapper, session, source, file, chosen, rfl, -⟩ := of_prepareView started
  rcases viewSource_cases chosen with rfl | ⟨portable, repository, primary⟩
  · refine ⟨[], nofun, .inl ?_⟩
    simp [SecureAccessService.repositories, accessService, localSource, mirrors, shared]
  · refine ⟨[.portable repository], ?_, ?_⟩
    · intro other member
      rw [List.mem_singleton.mp member]
      rfl
    · by_cases recorded : (table.load file.1).isSome = true
      · left
        simp [SecureAccessService.repositories, accessService, mirrors, shared, primary, portable,
          recorded]
      · right
        simp [SecureAccessService.repositories, accessService, mirrors, shared, primary, portable,
          recorded]

theorem onGranted_of_prepareView {probes : HostProbes} {page : DecryptionPage}
    {display : Bytes → Raises Unit} {disk : Disk} {service : SecureAccessService}
    {request : AccessRequest}
    (started : prepareView crypto probes page display disk = .ok (service, request))
    (plaintext : Bytes) (metadata : FileMetadata) :
    request.onGranted plaintext metadata = display plaintext := by
  obtain ⟨path, keyWrapper, session, source, file, -, -, rfl⟩ := of_prepareView started
  rfl

theorem localAfter_eq {page : DecryptionPage} {before repositories : List Repository}
    (portable : ∀ repository ∈ before, repository.table? = none)
    (shape : repositories = before ++ [.sqlite table] ∨ repositories = before)
    (shared : page.metadataRepository = some table) :
    localAfter page repositories = some table := by
  unfold localAfter
  rcases shape with rfl | rfl
  · rw [findTable_append portable, Option.some_or]
  · rw [List.findSome?_eq_none_iff.mpr portable, Option.none_or, shared]

/-- The burn of a record of the local repository replaces it. -/
theorem LocalBurn.table_eq {click : ViewClick} {service : SecureAccessService}
    {request : AccessRequest} {metadata : FileMetadata} {plaintext : Bytes}
    {stored : ProtectedMetadata} {before : List Repository}
    (burn : LocalBurn crypto state click service request metadata plaintext stored before)
    (shared : click.page.metadataRepository = some state.table)
    (left : (click.clicked crypto state.disk).page.metadataRepository = some table) :
    table = state.table.upsert stored := by
  obtain ⟨others, portable, shape⟩ := repositories_of_prepareView burn.started shared
  obtain rfl : before = others := by
    rcases shape with withLocal | noLocal
    · exact List.append_inj_left' (burn.repositories.symm.trans withLocal) rfl
    · have member : Repository.sqlite state.table ∈ others := by
        rw [← noLocal, burn.repositories]
        exact List.mem_append_right _ (List.mem_singleton.mpr rfl)
      cases portable _ member
  have shown : Returns (request.onGranted plaintext metadata) := by
    rw [onGranted_of_prepareView burn.started]
    exact burn.shown
  have oneTime := (OneTimeAccessEnforcer.burnedRecord_eq_ok.mp burn.made).1
  obtain ⟨repositories, -, -⟩ :=
    SecureAccessService.attemptAccess_burns state.disk burn.granted shown oneTime
  simp only [OneTimeAccessEnforcer.burn, burn.made, burn.repositories] at repositories
  have saved : (SecureAccessService.attemptAccess crypto service state.disk request
      click.draws).repositories.findSome? Repository.table? =
        some (state.table.upsert stored) := by
    rw [repositories]
    rcases @saveAll_table crypto stored click.draws.burn.temporary click.draws.saveFaults
      state.table _ portable 0 state.disk with ⟨-, saved⟩ | ⟨short, -⟩
    · exact saved
    · exact absurd (by simpa using burn.reaches) short
  simp only [ViewClick.clicked, onViewClicked, burn.started, localAfter, saved, Option.some_or,
    Option.some.injEq] at left
  exact left.symm

/-- A burn that does not come to the local repository leaves it alone. -/
theorem localAfter_burn {page : DecryptionPage} {disk : Disk} {before repositories : List Repository}
    (portable : ∀ repository ∈ before, repository.table? = none)
    (shape : repositories = before ++ [.sqlite table] ∨ repositories = before)
    (shared : page.metadataRepository = some table) {metadata : FileMetadata}
    {wrapper : KeyWrapper} {entropy : BurnEntropy} {faults : SaveFaults}
    (short : ∀ stored, OneTimeAccessEnforcer.burnedRecord crypto metadata wrapper entropy =
      .ok stored → repositories = before ++ [.sqlite table] →
        ¬ ReachesTable crypto stored faults before) :
    localAfter page (OneTimeAccessEnforcer.burn crypto disk repositories metadata wrapper entropy
      faults).repositories = some table := by
  unfold OneTimeAccessEnforcer.burn
  cases made : OneTimeAccessEnforcer.burnedRecord crypto metadata wrapper entropy with
  | error exc => exact localAfter_eq portable shape shared
  | ok stored =>
      simp only
      rcases shape with withLocal | noLocal
      · rcases @saveAll_table crypto stored entropy.temporary faults table before portable 0 disk
          with ⟨reaches, -⟩ | ⟨-, saved⟩
        · exact absurd (by simpa using reaches) (short stored made withLocal)
        · rw [withLocal, localAfter, saved, Option.some_or]
      · rw [noLocal, localAfter, List.findSome?_eq_none_iff.mpr (saveAll_portable portable 0 disk),
          Option.none_or, shared]

/-- A view that burns no record of the local repository leaves it alone. -/
theorem table_eq_of_keeping {click : ViewClick}
    (shared : click.page.metadataRepository = some state.table)
    (keeping : ¬ (PageUse.viewed click).BurnsRecord crypto state)
    (left : (click.clicked crypto state.disk).page.metadataRepository = some table) :
    table = state.table := by
  unfold ViewClick.clicked onViewClicked at left
  cases started : prepareView crypto click.probes click.page click.display state.disk with
  | error ended =>
      rw [started] at left
      exact Option.some.inj (left.symm.trans shared)
  | ok asked =>
      obtain ⟨service, request⟩ := asked
      obtain ⟨before, portable, shape⟩ := repositories_of_prepareView started shared
      simp only [started] at left
      refine Option.some.inj (left.symm.trans ?_)
      rcases SecureAccessService.attemptAccess_cases crypto service state.disk request click.draws
        with ⟨metadata, plaintext, grant, attempted⟩ | idle
      · by_cases burns : Returns (request.onGranted plaintext metadata) ∧
            metadata.usagePolicy.oneTimeAccess = true
        · obtain ⟨repositories, -, -⟩ :=
            SecureAccessService.attemptAccess_burns state.disk grant burns.1 burns.2
          rw [repositories]
          refine localAfter_burn portable shape shared fun stored made withLocal reaches => ?_
          have shown := burns.1
          rw [onGranted_of_prepareView started] at shown
          exact keeping ⟨service, request, metadata, plaintext, stored, before,
            started, grant, shown, made, withLocal, reaches⟩
        · have noBurn := (not_and_or.mp burns).imp_right Bool.eq_false_of_not_eq_true
          rw [attempted, (SecureAccessService.viewed_keeps noBurn).1]
          exact localAfter_eq portable shape shared
      · rw [idle.repositories]
        exact localAfter_eq portable shape shared

theorem given_eq_ok {α : Type} {value : Option α} {otherwise : ClickEnd} {found : α} :
    given value otherwise = .ok found ↔ value = some found := by
  cases value <;> simp [given]

/-- A rebind through the page is about the local repository and the keys of the page. -/
theorem of_prepareRebind {page : DecryptionPage} {disk : Disk} {answer : RebindAnswer}
    {request : RebindRequest}
    (asked : prepareRebind crypto page disk answer = .ok (table, request)) :
    page.metadataRepository = some table ∧ request.protectionKeys = page.protectionKeys := by
  unfold prepareRebind at asked
  obtain ⟨path, -, asked⟩ := click_bind_eq_ok.mp asked
  obtain ⟨device, -, asked⟩ := click_bind_eq_ok.mp asked
  obtain ⟨session, -, asked⟩ := click_bind_eq_ok.mp asked
  obtain ⟨keyPath, -, asked⟩ := click_bind_eq_ok.mp asked
  obtain ⟨found, shared, asked⟩ := click_bind_eq_ok.mp asked
  obtain ⟨passphrase, -, asked⟩ := click_bind_eq_ok.mp asked
  obtain ⟨file, -, asked⟩ := click_bind_eq_ok.mp asked
  obtain ⟨metadata, -, asked⟩ := click_bind_eq_ok.mp asked
  obtain ⟨pem, -, made⟩ := click_bind_eq_ok.mp asked
  obtain ⟨rfl, rfl⟩ := Prod.mk.inj (Except.ok.inj made)
  exact ⟨given_eq_ok.mp shared, rfl⟩

/-- A rebind of a record of one table saves it under the keys of the request, if it saves at
all. -/
theorem rebind_sqlite {probes : HostProbes} {request : RebindRequest} {entropy : RebindEntropy}
    {disk : Disk} {faults : SaveFaults} :
    ∃ after, (DeviceRebindService.rebind crypto serialization probes request entropy disk
        [.sqlite table] faults).repositories = [.sqlite after] ∧
      SavesUnder crypto request.protectionKeys table after := by
  unfold DeviceRebindService.rebind
  cases DeviceRebindService.rewrappedKey crypto serialization probes request entropy with
  | error exc => exact ⟨table, rfl, .inl rfl⟩
  | ok wrappedKey =>
      simp only
      cases written : MetadataProtector.protect crypto request.protectionKeys entropy.nonce
          (DeviceRebindService.rebound probes request wrappedKey) with
      | error exc => exact ⟨table, rfl, .inl rfl⟩
      | ok stored =>
          cases spared : faults 0 with
          | some fault =>
              refine ⟨table, ?_, .inl rfl⟩
              simp [OneTimeAccessEnforcer.saveAll, Repository.save, MetadataRepository.save,
                spared, raise]
          | none =>
              refine ⟨table.upsert stored, ?_, .inr ⟨_, _, stored, written, rfl⟩⟩
              simp [OneTimeAccessEnforcer.saveAll, Repository.save, MetadataRepository.save,
                spared]

/-- A rebind through the page saves under the keys of the page, if it saves at all. -/
theorem rebound_table {page : DecryptionPage} {answer : RebindAnswer} {probes : HostProbes}
    {disk : Disk} (shared : page.metadataRepository = some state.table)
    (left : (onRebindClicked crypto probes page serialization disk
      answer).page.metadataRepository = some table) :
    SavesUnder crypto page.protectionKeys state.table table := by
  unfold onRebindClicked at left
  cases asked : prepareRebind crypto page disk answer with
  | error ended =>
      rw [asked] at left
      exact .inl (Option.some.inj (left.symm.trans shared))
  | ok pair =>
      obtain ⟨found, request⟩ := pair
      obtain ⟨sharedToo, keyed⟩ := of_prepareRebind asked
      obtain rfl := Option.some.inj (shared.symm.trans sharedToo)
      simp only [asked] at left
      obtain ⟨after, repositories, saves⟩ := @rebind_sqlite crypto serialization state.table probes
        request answer.entropy disk answer.faults
      rw [repositories] at left
      obtain rfl : after = table := Option.some.inj left
      rwa [keyed] at saves

/-- A write through the page saves under the keys of the page, if it saves at all. -/
theorem wrote_table {page : EncryptionPage} {choice : WriteChoice} {draws : WriteDraws}
    {probes : HostProbes} {disk : Disk} (shared : page.metadataRepository = some state.table)
    (keyed : page.protectionKeys = some keys)
    (left : (page.writeContainer crypto choice draws probes disk).page.metadataRepository =
      some table) :
    SavesUnder crypto keys state.table table := by
  unfold EncryptionPage.writeContainer at left
  split_ifs at left
  · exact .inl (Option.some.inj (left.symm.trans shared))
  · simp only [shared] at left
    rcases SecureStorageService.storeFile_repository crypto probes
      (page.storeRequest crypto choice draws) draws.store disk state.table with
      ⟨stored, saves, repository⟩ | ⟨-, repository⟩
    · obtain ⟨prepared, plaintext, bytes, file, rfl⟩ := saves.made
      have written := file.written
      rw [file.keys, EncryptionPage.storeRequest, keyed] at written
      exact .inr ⟨_, _, _, written, Option.some.inj (left.symm.trans repository)⟩
    · exact .inl (Option.some.inj (left.symm.trans repository))

theorem KeepingStep.saves {use : PageUse}
    (step : KeepingStep crypto serialization keys state use next) :
    SavesUnder crypto keys state.table next.table := by
  obtain ⟨stepped, keeping⟩ := step
  cases stepped with
  | wrote shared keyed left => exact wrote_table shared keyed left
  | viewed shared _ left => exact .inl (table_eq_of_keeping shared keeping left)
  | rebound shared keyed left => exact keyed ▸ rebound_table shared left

theorem UseStep.burned {use : PageUse} (step : UseStep crypto serialization keys state use next)
    (burns : use.BurnsRecord crypto state) (other : use.DrawsOtherKey keys) :
    ∃ otherKeys nonce metadata stored,
      MetadataProtector.protect crypto otherKeys nonce metadata = .ok stored ∧
        otherKeys.encryptionKey ≠ keys.encryptionKey ∧ next.table = state.table.upsert stored := by
  cases step with
  | wrote => exact burns.elim
  | rebound => exact burns.elim
  | viewed shared _ left =>
      obtain ⟨service, request, metadata, plaintext, stored, before, burn⟩ := burns
      obtain ⟨-, decoyWrapped, -, written⟩ :=
        OneTimeAccessEnforcer.burnedRecord_eq_ok.mp burn.made
      exact ⟨_, _, _, stored, written, other, burn.table_eq shared left⟩

/-- What is left by a run that burns no record of the local repository opens under the keys of
the installation, and the metadata page counts no failure.  The next step that burns one is
counted, if it draws another key. -/
theorem ordinary_use_counts_none (laws : crypto.AesGcmLaws) {disk : Disk} {uses : List PageUse}
    (run : Run (KeepingStep crypto serialization keys) ⟨{}, disk⟩ uses state) :
    AllOpen crypto keys state.table ∧ CountsTampered crypto keys state.table 0 ∧
      ∀ use next, UseStep crypto serialization keys state use next → use.DrawsOtherKey keys →
        (CountsTampered crypto keys next.table 0 ↔ ¬ use.BurnsRecord crypto state) := by
  have allOpen := run.invariant (fun state => AllOpen crypto keys state.table)
    (fun opens step => opens.saves laws step.saves) allOpen_empty
  refine ⟨allOpen, allOpen.counts_none, fun use next step other => ⟨?_, ?_⟩⟩
  · intro none burns
    obtain ⟨otherKeys, nonce, metadata, stored, written, foreign, tableEq⟩ :=
      step.burned burns other
    have one := allOpen.counts_foreign laws written foreign
    rw [← tableEq] at one
    exact absurd (none.unique one) Nat.zero_ne_one
  · intro keeping
    have step : KeepingStep crypto serialization keys state use next := ⟨step, keeping⟩
    exact (allOpen.saves laws step.saves).counts_none

end Uses

/-! ## Two bytes that are viewed once -/

/-- The write of the two bytes. -/
abbrev copiedUse : PageUse :=
  .wrote plainEncryptionPage copiedChoice (plainWriteDraws (padTo 16 [])) plainProbes

theorem useStep_wrote {table : MetadataRepository}
    (saved : copiedWrite.page.metadataRepository = some table) :
    UseStep storeCrypto rsaSerialization plainKeys ⟨{}, fun _ => none⟩ copiedUse
      ⟨table, copiedWrite.disk⟩ := by
  rw [copiedWrite_eq] at saved ⊢
  exact .wrote rfl rfl saved

theorem useStep_viewed {table next : MetadataRepository} {disk : Disk} {path : DevicePath}
    (left : ((copiedClick table path).clicked storeCrypto disk).page.metadataRepository =
      some next) :
    UseStep storeCrypto rsaSerialization plainKeys ⟨table, disk⟩ (.viewed (copiedClick table path))
      ⟨next, ((copiedClick table path).clicked storeCrypto disk).disk⟩ :=
  .viewed rfl rfl left

theorem copiedClick_drawsOtherKey (table : MetadataRepository) (path : DevicePath) :
    (PageUse.viewed (copiedClick table path)).DrawsOtherKey plainKeys := by
  show (generateProtectionKeys plainDraws.burn.keys).encryptionKey ≠ plainKeys.encryptionKey
  decide

/-- A view of a copy that is as it was written burns the record in the local repository. -/
theorem CopiedOriginal.burnsRecord {written : SecureWriteResult} {table : MetadataRepository}
    {prepared : PreparedFile} {file : EncryptedFile storeCrypto}
    {portableRecord : ProtectedMetadata} {contents : Bytes} {current : MetadataRepository}
    {disk : Disk} {path : DevicePath}
    (left : CopiedOriginal written table prepared file portableRecord contents)
    (present : disk path = some contents)
    (recorded : (current.load prepared.metadata.fileId).isSome = true) :
    (PageUse.viewed (copiedClick current path)).BurnsRecord storeCrypto ⟨current, disk⟩ := by
  obtain ⟨service, request, reaches, grant⟩ := @CopiedOriginal.reaches_grant _ _ _ _ _ _
    ⟨current, disk, [path]⟩ path left present recorded
  obtain ⟨bytes, prepares⟩ := left.prepares
  have burns := @copiedClick_burns prepared bytes contents current path disk prepares
    portableRecord present left.original.reads
  obtain ⟨stored, made⟩ := burnedRecord_total transparentPrivateKey_wraps
    transparent_encryptsAll left.original.oneTime
    (presentedIdentity storeCrypto plainProbes (copiedClick current path).page)
    plainDraws.burn
  refine ⟨service, request, prepared.metadata, [104, 105], stored,
    [.portable ⟨copyWith prepared (plainWriteDraws (padTo 16 [])).salt.1 portableRecord, path⟩],
    reaches.started, grant, ⟨(), rfl⟩, ?_, reaches.repositories, ?_,
    fun save _ => burns.spared save⟩
  · rw [reaches.keyWrapper, reaches.identity]
    exact made
  · intro repository member
    rw [List.mem_singleton.mp member]
    exact burns.fits path _ stored rfl
      (SecureStorageWriter.readContainer_eq_ok.mpr ⟨contents, present, left.original.reads⟩) made

/-- A file is written and viewed once, as it may be: the metadata page counts one record that
failed its integrity check. -/
theorem burned_record_counted : ∃ written table last,
    copiedWrite.outcome = some (.ok written) ∧
      Run (UseStep storeCrypto rsaSerialization plainKeys) ⟨{}, fun _ => none⟩
        [copiedUse, .viewed (copiedClick table written.destination)] last ∧
      CountsTampered storeCrypto plainKeys last.table 1 := by
  obtain ⟨written, table, prepared, file, portableRecord, contents, left⟩ := copiedWrite_original
  have wrote := useStep_wrote left.saved
  have recorded : (table.load prepared.metadata.fileId).isSome = true := by
    rw [left.loaded]
    rfl
  obtain ⟨next, tableLeft⟩ := @table_left (copiedClick table written.destination) storeCrypto
    copiedWrite.disk table rfl
  have viewed := useStep_viewed tableLeft
  obtain ⟨otherKeys, nonce, metadata, stored, saved, foreign, tableEq⟩ := viewed.burned
    (@CopiedOriginal.burnsRecord _ _ _ _ _ _ table copiedWrite.disk written.destination left
      left.onDisk recorded)
    (copiedClick_drawsOtherKey table written.destination)
  have keeping : KeepingStep storeCrypto rsaSerialization plainKeys ⟨{}, fun _ => none⟩ copiedUse
    ⟨table, copiedWrite.disk⟩ := ⟨wrote, id⟩
  have allOpen : AllOpen storeCrypto plainKeys table :=
    allOpen_empty.saves transparent_aesGcmLaws keeping.saves
  have counted := allOpen.counts_foreign transparent_aesGcmLaws saved foreign
  rw [← tableEq] at counted
  exact ⟨written, table, _, left.wrote, (Run.single wrote).tail viewed, counted⟩

/-- A run of one write; the view that may follow it is the step that is counted. -/
theorem ordinary_use_counts_none_plain : ∃ written table,
    copiedWrite.outcome = some (.ok written) ∧
      AllOpen storeCrypto plainKeys table ∧ CountsTampered storeCrypto plainKeys table 0 ∧
      ∀ use next, UseStep storeCrypto rsaSerialization plainKeys ⟨table, copiedWrite.disk⟩ use
          next → use.DrawsOtherKey plainKeys →
        (CountsTampered storeCrypto plainKeys next.table 0 ↔
          ¬ use.BurnsRecord storeCrypto ⟨table, copiedWrite.disk⟩) := by
  obtain ⟨written, table, prepared, file, portableRecord, contents, left⟩ := copiedWrite_original
  have keeping : KeepingStep storeCrypto rsaSerialization plainKeys ⟨{}, fun _ => none⟩ copiedUse
    ⟨table, copiedWrite.disk⟩ := ⟨useStep_wrote left.saved, id⟩
  exact ⟨written, table, left.wrote,
    ordinary_use_counts_none transparent_aesGcmLaws (Run.single keeping)⟩

end CryptoUsb
