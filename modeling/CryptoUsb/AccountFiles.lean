import CryptoUsb.AccountFrames
import CryptoUsb.ExportedKeys
import CryptoUsb.OrdinaryUse
import CryptoUsb.VaultContinuity

/-!
# The files of an account

An account is signed in to, and its credentials are changed, while its files are written,
viewed and rebound.  Every sign-in loads the protection keys from the vault again.  They are
always the same, so that a file is viewed under the credentials of the day as it was under
those it was written with.
-/

namespace CryptoUsb

open ByteString CommitTraces DecryptionPage ProtectionKeys TransitionRuns

/-! ## The account and its files -/

/-- The account with its database, the devices, and the protection keys that the sign-ins so
far have loaded. -/
structure FileLife where
  life : AccountLife
  disk : Disk
  loaded : List MetadataProtectionKeys := []

namespace FileLife

def installation (state : FileLife) : Installation :=
  ⟨state.life.database.fileMetadata, state.disk⟩

/-- The pages leave another table and other devices. -/
def left (state : FileLife) (next : Installation) : FileLife :=
  { state with
    life := { state.life with
      database := { state.life.database with fileMetadata := next.table } }
    disk := next.disk }

/-- After a call on the account; a loader hands its keys to the pages. -/
def called (state : FileLife) (event : AccountEvent) (life : AccountLife) : FileLife :=
  { state with life, loaded := event.metadataKeys?.toList ++ state.loaded }

@[simp] theorem disk_called (state : FileLife) (event : AccountEvent) (life : AccountLife) :
    (state.called event life).disk = state.disk :=
  rfl

end FileLife

/-- A call on the account, or a click on one of the pages. -/
inductive FileLifeEvent
  | called (event : AccountEvent)
  | used (use : PageUse)

def FileLifeEvent.call? : FileLifeEvent → Option AccountEvent
  | .called event => some event
  | .used _ => none

/-- The pages work on the table of the database, with keys that a sign-in loaded. -/
inductive FileLifeStep (crypto : Cryptography) {PrivateKey PublicKey : Type}
    (serialization : KeySerialization PrivateKey PublicKey)
    (pemSerialization : KeySerialization RSAPrivateKey RSAPublicKey) (ownerId : String)
    (secrets salts : Set Bytes) : FileLife → FileLifeEvent → FileLife → Prop
  | called {state : FileLife} {event : AccountEvent} {life : AccountLife}
      (stepped : AccountStep crypto serialization ownerId secrets salts AccountLife.current
        state.life event life) :
      FileLifeStep crypto serialization pemSerialization ownerId secrets salts state
        (.called event) (state.called event life)
  | used {state : FileLife} {keys : MetadataProtectionKeys} {use : PageUse} {next : Installation}
      (loaded : keys ∈ state.loaded)
      (stepped : UseStep crypto pemSerialization keys state.installation use next) :
      FileLifeStep crypto serialization pemSerialization ownerId secrets salts state
        (.used use) (state.left next)

/-! ## The device of the write -/

namespace DecryptionPage

/-- On the device and the machine of the write, with the key pair and the passphrase of the
write, a file that may be viewed again is shown. -/
theorem FindsFile.grantsFile {crypto : Cryptography} {privateKey : RSAPrivateKey}
    {encryption : EncryptionPage} {choice : WriteChoice} {draws : WriteDraws} {probes : HostProbes}
    {before disk : Disk} {written : SecureWriteResult} {page : DecryptionPage} {path : DevicePath}
    {passphrase : Bytes} {display : Bytes → Raises Unit} {viewDraws : AccessDraws}
    (laws : crypto.AesGcmLaws) (oaep : privateKey.OaepLaws)
    (finds : FindsFile crypto encryption choice draws probes before written page disk path)
    (sessionKey : encryption.sessionKey draws.generated = privateKey)
    (ready : page.Ready privateKey passphrase choice.device path)
    (typed : ∀ given, EncryptionPage.promptPassphrase choice.passphrase = some given →
      passphrase = given)
    (satisfied : choice.machineBinding = .specific →
      choice.targetMachineFingerprint = computeMachineFingerprint crypto probes)
    (reusable : choice.oneTimeAccess = false)
    (notThrottled : page.throttle.isLocked viewDraws.throttleClock written.fileId = false)
    (shown : ∀ plaintext, Returns (display plaintext)) :
    ∃ plaintext, choice.source = .ok plaintext ∧
      GrantsFile crypto probes page display disk viewDraws plaintext := by
  obtain ⟨prepared, portableMetadata, plaintext, bytes, source, sameId, found⟩ := finds.found
  rw [sameId] at notThrottled
  have reusableRecord : prepared.metadata.usagePolicy.oneTimeAccess = false := by
    rw [found.file.metadata]
    exact reusable
  refine ⟨plaintext, source, ?_⟩
  cases prompted : EncryptionPage.promptPassphrase choice.passphrase with
  | none =>
      have unembedded := found.portable
      rw [prompted] at unembedded
      obtain ⟨service, request, started, shows, grant⟩ := found.local_grant laws oaep sessionKey
        ready unembedded satisfied notThrottled
      exact .of_grant started grant (shows ▸ shown plaintext) reusableRecord
  | some given =>
      obtain ⟨-, accepted, unwrapped⟩ := found.toWrittenFile.atHome laws oaep sessionKey ready
        satisfied
      obtain ⟨service, request, started, -, shows, -, grants⟩ :=
        @WrittenFile.portable_grant crypto privateKey encryption choice draws probes probes page disk
          choice.device path passphrase prepared portableMetadata plaintext bytes display viewDraws
          laws oaep found.toWrittenFile sessionKey ready given prompted
      have grant := grants (by rw [typed given prompted]) notThrottled accepted unwrapped
      exact .of_grant started grant (shows ▸ shown plaintext) reusableRecord

end DecryptionPage

/-! ## Uses of other files -/

/-- What the use saves in the local repository is not for this file. -/
def PageUse.Spares (crypto : Cryptography) (fileId : String) (state : Installation) :
    PageUse → Prop
  | .wrote _ _ draws _ => uuidText (uuid4 draws.store.fileId) ≠ fileId
  | .viewed click => ∀ service request metadata plaintext stored before,
      LocalBurn crypto state click service request metadata plaintext stored before →
        metadata.fileId ≠ fileId
  | .rebound page answer _ => ∀ table request,
      prepareRebind crypto page state.disk answer = .ok (table, request) →
        request.metadata.fileId ≠ fileId

section Sparing

variable {crypto : Cryptography} {pemSerialization : KeySerialization RSAPrivateKey RSAPublicKey}
  {keys : MetadataProtectionKeys} {state next : Installation} {fileId : String}

/-- A write saves a record with the id that it draws, if it saves at all. -/
theorem wrote_spares {page : EncryptionPage} {choice : WriteChoice} {draws : WriteDraws}
    {probes : HostProbes} {disk : Disk} {before table : MetadataRepository}
    (shared : page.metadataRepository = some before)
    (left : (page.writeContainer crypto choice draws probes disk).page.metadataRepository =
      some table)
    (other : uuidText (uuid4 draws.store.fileId) ≠ fileId) :
    table.load fileId = before.load fileId := by
  unfold EncryptionPage.writeContainer at left
  split_ifs at left
  · obtain rfl := Option.some.inj (left.symm.trans shared)
    rfl
  · simp only [shared] at left
    rcases SecureStorageService.storeFile_repository crypto probes
      (page.storeRequest crypto choice draws) draws.store disk before with
      ⟨stored, saves, repository⟩ | ⟨-, repository⟩
    · obtain ⟨prepared, plaintext, bytes, file, rfl⟩ := saves.made
      obtain rfl := Option.some.inj (left.symm.trans repository)
      apply MetadataRepository.load_upsert_other
      rw [file.fileId_protectedMetadata, file.metadata]
      exact other.symm
    · obtain rfl := Option.some.inj (left.symm.trans repository)
      rfl

theorem viewed_spares {click : ViewClick} {table : MetadataRepository}
    (shared : click.page.metadataRepository = some state.table)
    (left : (click.clicked crypto state.disk).page.metadataRepository = some table)
    (spares : (PageUse.viewed click).Spares crypto fileId state) :
    table.load fileId = state.table.load fileId := by
  by_cases burns : (PageUse.viewed click).BurnsRecord crypto state
  · obtain ⟨service, request, metadata, plaintext, stored, before, burn⟩ := burns
    rw [burn.table_eq shared left]
    apply MetadataRepository.load_upsert_other
    rw [OneTimeAccessEnforcer.fileId_burnedRecord burn.made]
    exact (spares _ _ _ _ _ _ burn).symm
  · rw [table_eq_of_keeping shared burns left]

/-- A rebind on one table leaves the rows of other files alone. -/
theorem rebind_sqlite_other {table : MetadataRepository} {probes : HostProbes}
    {request : RebindRequest} {entropy : RebindEntropy} {disk : Disk} {faults : SaveFaults}
    (other : request.metadata.fileId ≠ fileId) :
    ∃ after, (DeviceRebindService.rebind crypto pemSerialization probes request entropy disk
        [.sqlite table] faults).repositories = [.sqlite after] ∧
      after.load fileId = table.load fileId := by
  unfold DeviceRebindService.rebind
  cases DeviceRebindService.rewrappedKey crypto pemSerialization probes request entropy with
  | error exc => exact ⟨table, rfl, rfl⟩
  | ok wrappedKey =>
      simp only
      cases written : MetadataProtector.protect crypto request.protectionKeys entropy.nonce
          (DeviceRebindService.rebound probes request wrappedKey) with
      | error exc => exact ⟨table, rfl, rfl⟩
      | ok stored =>
          cases spared : faults 0 with
          | some fault =>
              refine ⟨table, ?_, rfl⟩
              simp [OneTimeAccessEnforcer.saveAll, Repository.save, MetadataRepository.save,
                spared, raise]
          | none =>
              refine ⟨table.upsert stored, ?_, ?_⟩
              · simp [OneTimeAccessEnforcer.saveAll, Repository.save, MetadataRepository.save,
                  spared]
              · apply MetadataRepository.load_upsert_other
                rw [(MetadataProtector.protect_eq_ok.mp written).2.1]
                exact other.symm

theorem rebound_spares {page : DecryptionPage} {answer : RebindAnswer} {probes : HostProbes}
    {table : MetadataRepository} (shared : page.metadataRepository = some state.table)
    (left : (onRebindClicked crypto probes page pemSerialization state.disk
      answer).page.metadataRepository = some table)
    (spares : (PageUse.rebound page answer probes).Spares crypto fileId state) :
    table.load fileId = state.table.load fileId := by
  unfold onRebindClicked at left
  cases asked : prepareRebind crypto page state.disk answer with
  | error ended =>
      rw [asked] at left
      rw [Option.some.inj (left.symm.trans shared)]
  | ok pair =>
      obtain ⟨found, request⟩ := pair
      obtain ⟨sharedToo, -⟩ := of_prepareRebind asked
      obtain rfl := Option.some.inj (shared.symm.trans sharedToo)
      simp only [asked] at left
      obtain ⟨after, repositories, kept⟩ := @rebind_sqlite_other crypto pemSerialization fileId
        state.table probes request answer.entropy state.disk answer.faults
        (spares _ _ asked)
      rw [repositories] at left
      obtain rfl : after = table := Option.some.inj left
      exact kept

theorem UseStep.spares {use : PageUse}
    (step : UseStep crypto pemSerialization keys state use next)
    (spares : use.Spares crypto fileId state) :
    next.table.load fileId = state.table.load fileId := by
  cases step with
  | wrote shared _ left => exact wrote_spares shared left spares
  | viewed shared _ left => exact viewed_spares shared left spares
  | rebound shared _ left => exact rebound_spares shared left spares

end Sparing

/-- A step that spares the file. -/
def SparingStep (crypto : Cryptography) {PrivateKey PublicKey : Type}
    (serialization : KeySerialization PrivateKey PublicKey)
    (pemSerialization : KeySerialization RSAPrivateKey RSAPublicKey) (ownerId : String)
    (secrets salts : Set Bytes) (fileId : String) (state : FileLife) (event : FileLifeEvent)
    (next : FileLife) : Prop :=
  FileLifeStep crypto serialization pemSerialization ownerId secrets salts state event next ∧
    ∀ use, event = .used use → use.Spares crypto fileId state.installation

/-! ## Along a run -/

/-- The account continues what the run has shown, if there is one yet, and the keys that the
pages work with were shown by its loaders. -/
structure FileLife.Sound (crypto : Cryptography) (ownerId : String) (secrets salts : Set Bytes)
    (events : List FileLifeEvent) (state : FileLife) : Prop where
  account : NotRegistered ownerId (events.filterMap FileLifeEvent.call?) state.life ∨
    ∃ credentials vmk, Continued crypto ownerId secrets salts credentials vmk
      (events.filterMap FileLifeEvent.call?) state.life
  loaded : ∀ keys ∈ state.loaded,
    keys ∈ (events.filterMap FileLifeEvent.call?).filterMap AccountEvent.metadataKeys?

section Runs

variable {crypto : Cryptography} {PrivateKey PublicKey : Type}
  {serialization : KeySerialization PrivateKey PublicKey}
  {pemSerialization : KeySerialization RSAPrivateKey RSAPublicKey} {ownerId : String}
  {secrets salts : Set Bytes} {credentials : Credentials} {vmk : Bytes}
  {state next start finish : FileLife} {event : FileLifeEvent} {events : List FileLifeEvent}
  {fileId : String}

/-- Nothing of the account is in the table of the records. -/
theorem Continued.left {calls : List AccountEvent}
    (continued : Continued crypto ownerId secrets salts credentials vmk calls state.life)
    (installation : Installation) :
    Continued crypto ownerId secrets salts credentials vmk calls
      (state.left installation).life where
  opened :=
    { known := continued.opened.known
      vault := ⟨continued.opened.vault.account, continued.opened.vault.passwordSlot,
        continued.opened.vault.recoverySlot⟩
      slots := continued.opened.slots
      current := continued.opened.current }
  current := continued.current
  created := continued.created
  metadata keys shown :=
    ⟨(continued.metadata keys shown).encryptionKey, (continued.metadata keys shown).hmacKey⟩
  tracking keys shown :=
    ⟨(continued.tracking keys shown).encryptionKey, (continued.tracking keys shown).hmacKey⟩
  returned := continued.returned

theorem NotRegistered.left {calls : List AccountEvent}
    (notRegistered : NotRegistered ownerId calls state.life) (installation : Installation) :
    NotRegistered ownerId calls (state.left installation).life :=
  ⟨⟨notRegistered.fresh.isNew, notRegistered.fresh.slots⟩, notRegistered.current,
    notRegistered.raised⟩

theorem FileLife.Sound.step (laws : crypto.AesGcmLaws) (total : crypto.EncryptsAll)
    (separates : crypto.ScryptSeparates secrets salts)
    (sound : state.Sound crypto ownerId secrets salts events)
    (stepped : FileLifeStep crypto serialization pemSerialization ownerId secrets salts state
      event next) : next.Sound crypto ownerId secrets salts (events ++ [event]) := by
  cases stepped with
  | called stepped =>
      rename_i event life
      have shown : (events ++ [FileLifeEvent.called event]).filterMap FileLifeEvent.call? =
          events.filterMap FileLifeEvent.call? ++ [event] := by
        simp [FileLifeEvent.call?]
      refine ⟨?_, ?_⟩
      · rw [shown]
        rcases sound.account with notRegistered | ⟨credentials, vmk, continued⟩
        · exact (notRegistered.step laws total stepped).imp_right id
        · obtain ⟨after, continues⟩ := continued.step laws total separates stepped
          exact .inr ⟨after, vmk, continues⟩
      · intro keys member
        rw [shown, filterMap_concat]
        rcases List.mem_append.mp member with now | before
        · exact List.mem_append_right _ now
        · exact List.mem_append_left _ (sound.loaded keys before)
  | used loaded stepped =>
      rename_i keys use next
      have shown : (events ++ [FileLifeEvent.used use]).filterMap FileLifeEvent.call? =
          events.filterMap FileLifeEvent.call? := by
        simp [FileLifeEvent.call?]
      refine ⟨?_, ?_⟩
      · rw [shown]
        rcases sound.account with notRegistered | ⟨credentials, vmk, continued⟩
        · exact .inl (notRegistered.left next)
        · exact .inr ⟨credentials, vmk, continued.left next⟩
      · rw [shown]
        exact sound.loaded

theorem FileLife.Sound.unique (laws : crypto.AesGcmLaws)
    (sound : state.Sound crypto ownerId secrets salts events) {first second : MetadataProtectionKeys}
    (isFirst : first ∈ state.loaded) (isSecond : second ∈ state.loaded) : first = second := by
  rcases sound.account with notRegistered | ⟨credentials, vmk, continued⟩
  · have none : (events.filterMap FileLifeEvent.call?).filterMap AccountEvent.metadataKeys? = [] :=
      notRegistered.filterMap_eq_nil fun _ _ => rfl
    have shown := sound.loaded first isFirst
    rw [none] at shown
    cases shown
  · have same := (continued.metadata first (sound.loaded first isFirst)).unique laws
      (continued.metadata second (sound.loaded second isSecond))
    exact MetadataProtectionKeys.ext (congrArg Prod.fst same) (congrArg Prod.snd same)

theorem FileLife.sound_of_run (laws : crypto.AesGcmLaws) (total : crypto.EncryptsAll)
    (separates : crypto.ScryptSeparates secrets salts) {database : Database} {disk : Disk}
    (fresh : FreshInstallation ownerId database)
    (run : Run (FileLifeStep crypto serialization pemSerialization ownerId secrets salts)
      { life := { database }, disk } events state) :
    state.Sound crypto ownerId secrets salts events :=
  run.history (fun events state => state.Sound crypto ownerId secrets salts events)
    (fun sound stepped => sound.step laws total separates stepped)
    ⟨.inl ⟨fresh, rfl, by simp⟩, by simp⟩

/-- What a run of sparing steps keeps: the row of the file, and the keys that were loaded. -/
theorem kept_of_sparing
    (run : Run (SparingStep crypto serialization pemSerialization ownerId secrets salts fileId)
      start events finish) :
    finish.life.database.fileMetadata.load fileId =
        start.life.database.fileMetadata.load fileId ∧ start.loaded ⊆ finish.loaded := by
  refine run.invariant (fun state =>
    state.life.database.fileMetadata.load fileId =
      start.life.database.fileMetadata.load fileId ∧ start.loaded ⊆ state.loaded) ?_
    ⟨rfl, List.Subset.refl _⟩
  intro state event next kept step
  obtain ⟨stepped, spares⟩ := step
  cases stepped with
  | called stepped =>
      rename_i called life
      refine ⟨?_, List.Subset.trans kept.2 (List.subset_append_right _ _)⟩
      have same := (@AccountCall.keepsData crypto state.life.database PrivateKey PublicKey
        serialization ownerId called.call).finalState ⟨rfl, rfl, rfl⟩
      rw [← kept.1, ← same.fileMetadata]
      show life.database.fileMetadata.load fileId = _
      rw [stepped.next]
      rfl
  | used loaded stepped => exact ⟨(stepped.spares (spares _ rfl)).trans kept.1, kept.2⟩

/-- Every sign-in loads the keys of the sign-ins before it. -/
theorem mem_loaded_unique (laws : crypto.AesGcmLaws) (total : crypto.EncryptsAll)
    (separates : crypto.ScryptSeparates secrets salts)
    (sound : start.Sound crypto ownerId secrets salts events)
    {more : List FileLifeEvent}
    (run : Run (SparingStep crypto serialization pemSerialization ownerId secrets salts fileId)
      start more finish) {first second : MetadataProtectionKeys}
    (isFirst : first ∈ start.loaded) (isSecond : second ∈ finish.loaded) : first = second := by
  have reached : finish.Sound crypto ownerId secrets salts (events ++ more) :=
    run.history (fun more state => state.Sound crypto ownerId secrets salts (events ++ more))
      (fun sound stepped => by
        rw [← List.append_assoc]
        exact sound.step laws total separates stepped.1)
      (by rwa [List.append_nil])
  exact reached.unique laws ((kept_of_sparing run).2 isFirst) isSecond

/-- A file that was written in one sign-in, after any changes and resets of the password, other
sign-ins and uses of other files: whatever keys a sign-in has loaded, they are those of the write;
the row of the file is as it was written; and the page of the day shows the plaintext of every
copy of the container. -/
theorem file_viewed_after_rotations {privateKey : RSAPrivateKey} (laws : crypto.AesGcmLaws)
    (total : crypto.EncryptsAll) (separates : crypto.ScryptSeparates secrets salts)
    (oaep : privateKey.OaepLaws) {database : Database} {disk : Disk}
    (fresh : FreshInstallation ownerId database) {before : List FileLifeEvent}
    {state saved : FileLife}
    (signedIn : Run (FileLifeStep crypto serialization pemSerialization ownerId secrets salts)
      { life := { database }, disk } before state)
    {encryption : EncryptionPage} {choice : WriteChoice} {draws : WriteDraws} {probes : HostProbes}
    {written : SecureWriteResult}
    (writes : FileLifeStep crypto serialization pemSerialization ownerId secrets salts state
      (.used (.wrote encryption choice draws probes)) saved)
    (wrote : (encryption.writeContainer crypto choice draws probes state.disk).outcome =
      some (.ok written))
    (sessionKey : encryption.sessionKey draws.generated = privateKey)
    (reusable : choice.oneTimeAccess = false)
    (rotations : Run (SparingStep crypto serialization pemSerialization ownerId secrets salts
      written.fileId) saved events finish) :
    (∀ keys ∈ finish.loaded, encryption.protectionKeys = some keys) ∧
      finish.life.database.fileMetadata.load written.fileId =
        saved.life.database.fileMetadata.load written.fileId ∧
      ∀ (page : DecryptionPage) (path : DevicePath) (passphrase : Bytes)
        (display : Bytes → Raises Unit) (viewDraws : AccessDraws),
        page.metadataRepository = some finish.life.database.fileMetadata →
        page.protectionKeys ∈ finish.loaded →
        finish.disk path = saved.disk written.destination →
        page.Ready privateKey passphrase choice.device path →
        (∀ given, EncryptionPage.promptPassphrase choice.passphrase = some given →
          passphrase = given) →
        (choice.machineBinding = .specific →
          choice.targetMachineFingerprint = computeMachineFingerprint crypto probes) →
        page.throttle.isLocked viewDraws.throttleClock written.fileId = false →
        (∀ plaintext, Returns (display plaintext)) →
          ∃ plaintext, choice.source = .ok plaintext ∧
            GrantsFile crypto probes page display finish.disk viewDraws plaintext := by
  have sound := FileLife.sound_of_run laws total separates fresh signedIn
  have soundSaved := sound.step laws total separates writes
  cases writes with
  | used loaded stepped =>
      rename_i keys next
      have sameKeys {other : MetadataProtectionKeys} (keyed : other ∈ finish.loaded) :
          keys = other :=
        mem_loaded_unique laws total separates soundSaved rotations loaded keyed
      cases stepped with
      | wrote sharedThen keyedThen left =>
          refine ⟨fun other keyed => keyedThen.trans (congrArg some (sameKeys keyed)),
            (kept_of_sparing rotations).1, ?_⟩
          intro page path passphrase display viewDraws shared keyed copied ready typed satisfied
            notThrottled shown
          have finds : FindsFile crypto encryption choice draws probes state.disk written page
              finish.disk path :=
            { wrote
              copied
              recorded := ⟨_, _, shared, left, (kept_of_sparing rotations).1⟩
              keys := keyedThen.trans (congrArg some (sameKeys keyed)) }
          exact finds.grantsFile laws oaep sessionKey ready typed satisfied reusable notThrottled
            shown

theorem SparingStep.called {life : AccountLife} {call : AccountEvent}
    (stepped : AccountStep crypto serialization ownerId secrets salts AccountLife.current state.life
      call life) :
    SparingStep crypto serialization pemSerialization ownerId secrets salts fileId state
      (.called call) (state.called call life) := by
  refine ⟨.called stepped, ?_⟩
  intro use isUse
  cases isUse

theorem FileLife.run_called {life : AccountLife} {call : AccountEvent}
    (run : Run (FileLifeStep crypto serialization pemSerialization ownerId secrets salts) start
      events state)
    (stepped : AccountStep crypto serialization ownerId secrets salts AccountLife.current state.life
      call life) :
    Run (FileLifeStep crypto serialization pemSerialization ownerId secrets salts) start
      (events ++ [.called call]) (state.called call life) :=
  run.tail (.called stepped)

variable (serialization) in
/-- Where the slots do not open, a load with a current vault key draws the keys. -/
theorem AccountOpen.draws_metadataKeys (laws : crypto.AesGcmLaws) (total : crypto.EncryptsAll)
    (separates : crypto.ScryptSeparates secrets salts) {life : AccountLife}
    (opened : AccountOpen crypto ownerId secrets salts credentials vmk life)
    (draws : ProtectionKeyDraws) (isCurrent : credentials.vaultKey crypto ∈ life.current)
    (closed : loadWrapped crypto life.database.appMeta metadataEncryptionKey vmk = .ok none) :
    ∃ event account,
      AccountStep crypto serialization ownerId secrets salts AccountLife.current life event
          account ∧
        event.metadataKeys? = some (generateProtectionKeys draws.entropy) ∧
        AccountOpen crypto ownerId secrets salts credentials vmk account := by
  obtain ⟨hmacKey, hmacLoaded⟩ : ∃ hmacKey,
      loadWrapped crypto life.database.appMeta metadataHmacKey vmk = .ok hmacKey := by
    rcases (opened.slots metadataHmacKey (by decide)).load laws vmk with closed | ⟨key, found, -⟩
    · exact ⟨_, closed⟩
    · exact ⟨_, found⟩
  obtain ⟨between, after, ran, -⟩ := loadOrCreateKeys_new laws total (by decide) draws
    opened.vault.passwordSlot closed hmacLoaded (.inl rfl)
  have called : ((AccountCall.loadMetadataKeys draws (credentials.vaultKey crypto)).transaction
      crypto serialization ownerId).run life.database =
        ⟨[between, after], .ok (.metadataKeys (generateProtectionKeys draws.entropy))⟩ := by
    rw [AccountCall.transaction, Committing.run_bind_pure, loadOrCreateMetadataProtectionKeys,
      Committing.run_bind_pure, ran]
    rfl
  have stepped := @AccountStep.of_load crypto PrivateKey PublicKey serialization ownerId secrets
    salts life AccountLife.current draws _ isCurrent
  rw [called] at stepped
  cases opened.step laws total separates stepped with
  | kept isNotLoader => cases isNotLoader
  | loadedMetadata _ _ stillOpen => exact ⟨_, _, stepped, rfl, stillOpen⟩

end Runs

/-! ## A file that survives a change of the password -/

/-- Calls and uses around the account of the plain values. -/
abbrev PlainFileStep : FileLife → FileLifeEvent → FileLife → Prop :=
  FileLifeStep storeCrypto plainSerialization spelledSerialization "owner"
    { secret | secret ∈ plainSecrets } { salt | salt ∈ plainSalts }

/-- The account of the plain values is open under the first password. -/
abbrev OpenAtFirst (vmk : Bytes) (life : AccountLife) : Prop :=
  AccountOpen storeCrypto "owner" { secret | secret ∈ plainSecrets } { salt | salt ∈ plainSalts }
    (.drawn firstDraws firstPassword) vmk life

def plainFilesStart : FileLife :=
  { life := { database := {} }, disk := fun _ => none }

/-- The draws of a load that makes the plain keys. -/
def plainFileKeyDraws : ProtectionKeyDraws :=
  { plainKeyDraws with entropy := ⟨⟨plainKeys.encryptionKey, rfl⟩, ⟨plainKeys.hmacKey, rfl⟩⟩ }

/-- Register, sign in and load the keys. -/
theorem plainFiles_signedIn : ∃ events state vmk,
    Run PlainFileStep plainFilesStart events state ∧ plainKeys ∈ state.loaded ∧
      state.disk = (fun _ => none) ∧ OpenAtFirst vmk state.life := by
  have absent : AccountAbsent storeCrypto "owner" { database := {} } := freshDatabase.absent
  obtain ⟨vmk, registered, registerStep, opened, same, -⟩ := absent.register_exists
    plainSerialization vaultCrypto_aesGcmLaws vaultCrypto_encryptsAll AccountLife.current
    plainInstant firstDraws_within firstPassword_acceptable
  obtain ⟨clocks, signedIn, signInStep, signedInOpen, isCurrent, -⟩ := opened.signIn_exists
    plainSerialization vaultCrypto_separates AccountLife.current (numberedSalt 0) plainInstant
  have closed : loadWrapped storeCrypto signedIn.database.appMeta metadataEncryptionKey vmk =
      .ok none := by
    have emptySlot := freshDatabase.slots metadataEncryptionKey (by decide)
    rw [← (same.slots metadataEncryptionKey (by decide)).1] at emptySlot
    cases opened.step vaultCrypto_aesGcmLaws vaultCrypto_encryptsAll vaultCrypto_separates
      signInStep with
    | kept _ _ _ _ _ unchanged =>
        rw [← (unchanged.slots metadataEncryptionKey (by simp)).1] at emptySlot
        simp [loadWrapped, emptySlot]
  obtain ⟨event, account, loadStep, loaded, loadedOpen⟩ := signedInOpen.draws_metadataKeys
    plainSerialization vaultCrypto_aesGcmLaws vaultCrypto_encryptsAll vaultCrypto_separates
    plainFileKeyDraws isCurrent closed
  have first : Run PlainFileStep plainFilesStart _ _ :=
    FileLife.run_called (Run.refl plainFilesStart) registerStep
  have second : Run PlainFileStep plainFilesStart _ _ := FileLife.run_called first signInStep
  have third : Run PlainFileStep plainFilesStart _ _ := FileLife.run_called second loadStep
  refine ⟨_, _, vmk, third, ?_, rfl, loadedOpen⟩
  exact List.mem_append_left _ (by rw [loaded]; exact List.mem_singleton_self _)

/-- The page of the first sign-in. -/
def plainFilesEncryption (state : FileLife) : EncryptionPage where
  metadataRepository := some state.life.database.fileMetadata
  protectionKeys := some plainKeys
  session := none

/-- The page after the change. -/
def plainFilesDecryption (state : FileLife) (path : DevicePath) : DecryptionPage where
  metadataRepository := some state.life.database.fileMetadata
  protectionKeys := plainKeys
  session := some ⟨localOwnerId, false, localOwnerId_ne_empty⟩
  selectedDevice := some plainDevice
  selectedContainer := some path
  keyWrapper := some ⟨transparentPrivateKey.publicKey, some transparentPrivateKey⟩
  loadedKeyPassphrase := some []
  keyPath := "file_wrapping_key.pem"

/-- The two bytes are written under the first password and viewed under the second. -/
theorem file_viewed_after_rotations_plain : ∃ events state path,
    Run PlainFileStep plainFilesStart events state ∧
      currentCredentials (events.filterMap FileLifeEvent.call?) =
        some (secondPassword, secondCode.1) ∧
      GrantsFile storeCrypto plainProbes (plainFilesDecryption state path) (fun _ => .ok ())
        state.disk plainDraws [104, 105] := by
  obtain ⟨events, state, vmk, signedIn, loaded, empty, opened⟩ := plainFiles_signedIn
  let choice := plainChoice true false false none
  let write := (plainFilesEncryption state).writeContainer storeCrypto choice
    (plainWriteDraws (padTo 16 [])) plainProbes state.disk
  obtain ⟨written, wrote⟩ := @PlainPage.write_returns (plainFilesEncryption state) true false false
    none (padTo 16 []) state.disk ⟨rfl, rfl, rfl⟩ (by rw [empty])
  obtain ⟨returned, -, repositoryEq⟩ := EncryptionPage.writeContainer_eq wrote
  obtain ⟨prepared, portableMetadata, plaintext, bytes, stored⟩ :=
    SecureStorageService.storeFile_returns returned
  obtain ⟨table, tableEq, -⟩ := stored.load rfl
  let saved := state.left ⟨table, write.disk⟩
  have writes : PlainFileStep state (.used (.wrote (plainFilesEncryption state) choice
      (plainWriteDraws (padTo 16 [])) plainProbes)) saved :=
    .used loaded (.wrote rfl rfl (repositoryEq.trans tableEq))
  have savedOpen : OpenAtFirst vmk saved.life :=
    { opened with vault := ⟨opened.vault.account, opened.vault.passwordSlot,
        opened.vault.recoverySlot⟩ }
  obtain ⟨clocks, changed, changeStep, changedOpen, -⟩ := savedOpen.change_exists
    plainSerialization vaultCrypto_aesGcmLaws vaultCrypto_encryptsAll
    vaultCrypto_separates AccountLife.current plainInstant secondDraws_within
    secondPassword_acceptable
  let change : AccountEvent := ⟨.change secondDraws clocks firstPassword secondPassword,
    .ok (.credentials secondDraws.recoveryCode.1)⟩
  let finish := saved.called change changed
  have changes : PlainFileStep saved (.called change) finish := .called changeStep
  have rotations : Run (SparingStep storeCrypto plainSerialization spelledSerialization "owner"
      { secret | secret ∈ plainSecrets } { salt | salt ∈ plainSalts } written.fileId) saved
        [.called change] finish :=
    .single (.called changeStep)
  have wholeRun : Run PlainFileStep plainFilesStart _ finish :=
    (signedIn.tail writes).tail changes
  refine ⟨_, finish, written.destination, wholeRun, ?_, ?_⟩
  · rw [List.filterMap_append]
    show currentCredentials (_ ++ [change]) = _
    rw [currentCredentials_concat]
    rfl
  · have unprompted : EncryptionPage.promptPassphrase choice.passphrase = none := rfl
    have onAnyMachine : choice.machineBinding ≠ .specific := nofun
    let page := plainFilesDecryption finish written.destination
    have ready : page.Ready transparentPrivateKey [] plainDevice written.destination :=
      ⟨⟨_, rfl, rfl⟩, rfl, rfl, rfl, rfl⟩
    have keyed : plainKeys ∈ finish.loaded := (kept_of_sparing rotations).2 loaded
    obtain ⟨-, -, views⟩ := @file_viewed_after_rotations storeCrypto Bytes Bytes
      plainSerialization spelledSerialization "owner" _ _ finish _ transparentPrivateKey
      transparent_aesGcmLaws transparent_encryptsAll vaultCrypto_separates
      transparentPrivateKey_laws _ _ freshDatabase events state saved signedIn
      (plainFilesEncryption state) choice (plainWriteDraws (padTo 16 [])) plainProbes written writes
      wrote rfl rfl rotations
    obtain ⟨plaintext, source, grants⟩ := views page written.destination [] (fun _ => .ok ())
      plainDraws rfl keyed (congrFun (saved.disk_called change changed) _) ready
      (fun _ given => absurd (unprompted.symm.trans given) (by simp))
      (fun specific => absurd specific onAnyMachine) rfl fun _ => ⟨(), rfl⟩
    obtain rfl := Except.ok.inj source
    exact grants

end CryptoUsb
