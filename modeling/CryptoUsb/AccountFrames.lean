import CryptoUsb.AccountRuns

/-!
# What the calls on an account leave alone

Every call on the controller but a deletion, and both loaders of protection keys, commit states
that differ from the one before in the row of an account and in the slots of `app_meta` alone:
metadata, usage log and deception events are the same after every commit, and so wherever the
call is cut short.
-/

namespace CryptoUsb

open ByteString CommitTraces ProtectionKeys

/-- Metadata, usage log and deception events are those of the other database. -/
structure SameData (before after : Database) : Prop where
  fileMetadata : after.fileMetadata = before.fileMetadata
  usageLog : after.usageLog = before.usageLog
  deceptionEvents : after.deceptionEvents = before.deceptionEvents

/-- The code commits no other metadata, usage log or deception events. -/
abbrev KeepsData {Value : Type} (before : Database) (code : Transaction Value) : Prop :=
  Keeps code (SameData before)

section Frames

variable {crypto : Cryptography} {before : Database}

/-! ## Slots -/

theorem keepsData_storeRows (key : String) (nonce ciphertext : Bytes) :
    KeepsData before (.commit (storeRows key nonce ciphertext)) :=
  .commit fun _ same => ⟨same.fileMetadata, same.usageLog, same.deceptionEvents⟩

theorem keepsData_saveWrapped (drawn : AesCipher.Nonce) (key : String) (value vaultKey : Bytes) :
    KeepsData before (saveWrapped crypto drawn key value vaultKey) :=
  .bind (.lift _) fun _ => keepsData_storeRows _ _ _

theorem keepsData_loadOrCreateVaultMasterKey (draws : VaultDraws) (vaultKey : Bytes) :
    KeepsData before (loadOrCreateVaultMasterKey crypto draws vaultKey) := by
  refine .bind (.read _) fun found => ?_
  cases found with
  | some existing => exact .pure existing
  | none => exact .bind (keepsData_saveWrapped _ _ _ _) fun _ => .pure _

theorem keepsData_loadOrCreateKeys (encryptionName hmacName : String) (draws : ProtectionKeyDraws)
    (vaultKey : Bytes) :
    KeepsData before (loadOrCreateKeys crypto encryptionName hmacName draws vaultKey) := by
  refine .bind (keepsData_loadOrCreateVaultMasterKey _ _) fun vmk => ?_
  refine .bind (.read _) fun encryptionKey => .bind (.read _) fun hmacKey => ?_
  split
  · exact .pure _
  · apply Keeps.bind (keepsData_saveWrapped _ _ _ _)
    intro _
    apply Keeps.bind (keepsData_saveWrapped _ _ _ _)
    intro _
    exact .pure _

/-! ## The controller -/

namespace AuthController

theorem keepsData_saveAccount (account : UserAccount) : KeepsData before (saveAccount account) :=
  .commit fun _ same => ⟨same.fileMetadata, same.usageLog, same.deceptionEvents⟩

theorem keepsData_getAccount (ownerId : String) : KeepsData before (getAccount ownerId) := by
  refine .bind (.read _) fun account => ?_
  cases account with
  | none => exact .lift _
  | some account => exact .pure account

theorem keepsData_fail (clock : IsoDateTime.UtcInstant) (account : UserAccount) :
    KeepsData before (fail clock account) :=
  .bind (.lift _) fun account => keepsData_saveAccount account

theorem keepsData_succeed (clocks : CallClocks) (account : UserAccount)
    (vaultKey : Option Bytes) : KeepsData before (succeed clocks account vaultKey) :=
  .bind (keepsData_saveAccount _) fun _ => .pure _

theorem keepsData_requireUnlockedAccount (clocks : CallClocks) (ownerId : String)
    (expectedMethod : AuthMethod) :
    KeepsData before (requireUnlockedAccount clocks ownerId expectedMethod) := by
  refine .bind (keepsData_getAccount ownerId) fun account => .bind (.lift _) fun locked => ?_
  split_ifs
  · exact .bind (.lift _) fun _ => .lift _
  · exact .bind (keepsData_fail _ _) fun _ => .lift _
  · exact .pure account

theorem keepsData_rewrapVaultMasterKey (controller : AuthController) (draws : CredentialDraws)
    (oldVmk : Option Bytes) (newCredential : PasswordCredential) (newPassword : String)
    (newRecoveryCodeHash : PasswordCredential) (newRecoveryCode : String) :
    KeepsData before (rewrapVaultMasterKey crypto controller draws oldVmk newCredential newPassword
      newRecoveryCodeHash newRecoveryCode) := by
  unfold rewrapVaultMasterKey
  split_ifs
  · split
    · dsimp only
      cases oldVmk with
      | some oldVmk =>
          exact .bind (keepsData_saveWrapped _ _ _ _) fun _ => keepsData_saveWrapped _ _ _ _
      | none =>
          refine .bind (.bind (keepsData_loadOrCreateVaultMasterKey _ _) fun vmk => ?_) fun _ =>
            .pure _
          exact .bind (keepsData_saveWrapped _ _ _ _) fun _ => .pure _
    · exact .lift _
  · exact .pure _

theorem keepsData_rotateCredentials (controller : AuthController) (draws : CredentialDraws)
    (clock : IsoDateTime.UtcInstant) (account : UserAccount) (oldVmk : Option Bytes)
    (newPassword : String) :
    KeepsData before (rotateCredentials crypto controller draws clock account oldVmk
      newPassword) := by
  refine .bind (.lift _) fun credential => .bind (keepsData_saveAccount _) fun _ => ?_
  exact .bind (keepsData_rewrapVaultMasterKey _ _ _ _ _ _ _) fun _ => .pure _

theorem keepsData_failed {Value : Type} {answer : Transaction Value}
    (clock : IsoDateTime.UtcInstant) (account : UserAccount) (keeps : KeepsData before answer) :
    KeepsData before (do fail clock account; answer) :=
  .bind (keepsData_fail clock account) fun _ => keeps

theorem keepsData_registerPasswordAccount (controller : AuthController) (draws : CredentialDraws)
    (clock : IsoDateTime.UtcInstant) (ownerId password : String) :
    KeepsData before (registerPasswordAccount crypto controller draws clock ownerId password) := by
  refine .bind (.read _) fun isRegistered => ?_
  split_ifs
  · exact .lift _
  · refine .bind (.lift _) fun credential => .bind (keepsData_saveAccount _) fun _ => ?_
    exact .bind (keepsData_rewrapVaultMasterKey _ _ _ _ _ _ _) fun _ => .pure _

theorem keepsData_authenticatePassword (salt : BytesOf PasswordHasher.saltLenBytes)
    (clocks : CallClocks) (ownerId password : String) :
    KeepsData before (authenticatePassword crypto salt clocks ownerId password) := by
  refine .bind (keepsData_requireUnlockedAccount _ _ _) fun account => ?_
  split
  · exact .lift _
  · split_ifs
    · split
      · exact keepsData_succeed _ _ _
      · exact .bind (keepsData_saveAccount _) fun _ => keepsData_succeed _ _ _
    · exact keepsData_failed _ _ (.pure _)

theorem keepsData_authenticatePrivateKey {PrivateKey PublicKey : Type}
    (serialization : KeySerialization PrivateKey PublicKey)
    (draws : KeyAuthenticator.ChallengeDraws) (salt : BytesOf PasswordHasher.saltLenBytes)
    (clocks : CallClocks) (ownerId : String) (privateKeyPem passphrase : Bytes) :
    KeepsData before (authenticatePrivateKey crypto serialization draws salt clocks ownerId
      privateKeyPem passphrase) := by
  refine .bind (keepsData_requireUnlockedAccount _ _ _) fun account => ?_
  split
  · exact .lift _
  · refine .bind (.lift _) fun verified => ?_
    dsimp only
    split_ifs
    · split
      · exact keepsData_succeed _ _ _
      · exact .bind (keepsData_saveAccount _) fun _ => keepsData_succeed _ _ _
    · exact keepsData_failed _ _ (.pure _)

theorem keepsData_changePassword (controller : AuthController) (draws : CredentialDraws)
    (clocks : CallClocks) (ownerId currentPassword newPassword : String) :
    KeepsData before (changePassword crypto controller draws clocks ownerId currentPassword
      newPassword) := by
  refine .bind (keepsData_requireUnlockedAccount _ _ _) fun account => ?_
  split
  · exact .lift _
  · split_ifs
    · refine .bind ?_ fun oldVmk => keepsData_rotateCredentials _ _ _ _ _ _
      unfold unwrapVmkViaPassword
      split_ifs
      · split
        · exact .pure _
        · exact .read _
      · exact .pure _
    · exact keepsData_failed _ _ (.lift _)

theorem keepsData_verifyPassword (clocks : CallClocks) (ownerId currentPassword : String) :
    KeepsData before (verifyPassword crypto clocks ownerId currentPassword) := by
  refine .bind (keepsData_requireUnlockedAccount _ _ _) fun account => ?_
  split
  · exact .lift _
  · split_ifs
    · exact keepsData_saveAccount _
    · exact keepsData_failed _ _ (.lift _)

theorem keepsData_resetPasswordWithRecoveryCode (controller : AuthController)
    (draws : CredentialDraws) (clocks : CallClocks) (ownerId recoveryCode newPassword : String) :
    KeepsData before (resetPasswordWithRecoveryCode crypto controller draws clocks ownerId
      recoveryCode newPassword) := by
  refine .bind (keepsData_requireUnlockedAccount _ _ _) fun account => ?_
  split
  · exact .lift _
  · split
    · refine .bind ?_ fun oldVmk => keepsData_rotateCredentials _ _ _ _ _ _
      unfold unwrapVmkViaRecovery
      split_ifs
      · split
        · exact .pure _
        · exact .read _
      · exact .pure _
    · exact keepsData_failed _ _ (.lift _)

end AuthController

/-! ## Calls -/

/-- Whatever a call commits, the protected data is as it was before. -/
theorem AccountCall.keepsData {PrivateKey PublicKey : Type}
    (serialization : KeySerialization PrivateKey PublicKey) (ownerId : String)
    (call : AccountCall) :
    KeepsData before (call.transaction crypto serialization ownerId) := by
  cases call with
  | register draws clock password =>
      exact .bind (AuthController.keepsData_registerPasswordAccount _ _ _ _ _) fun _ => .pure _
  | authenticate salt clocks password =>
      exact .bind (AuthController.keepsData_authenticatePassword _ _ _ _) fun _ => .pure _
  | authenticatePrivateKey draws salt clocks privateKeyPem passphrase =>
      exact .bind (AuthController.keepsData_authenticatePrivateKey _ _ _ _ _ _ _) fun _ => .pure _
  | verify clocks password =>
      exact .bind (AuthController.keepsData_verifyPassword _ _ _) fun _ => .pure _
  | change draws clocks currentPassword newPassword =>
      exact .bind (AuthController.keepsData_changePassword _ _ _ _ _ _) fun _ => .pure _
  | reset draws clocks recoveryCode newPassword =>
      exact .bind (AuthController.keepsData_resetPasswordWithRecoveryCode _ _ _ _ _ _)
        fun _ => .pure _
  | loadMetadataKeys draws vaultKey =>
      exact .bind (.bind (keepsData_loadOrCreateKeys _ _ _ _) fun _ => .pure _) fun _ => .pure _
  | loadTrackingKeys draws vaultKey =>
      exact .bind (.bind (keepsData_loadOrCreateKeys _ _ _ _) fun _ => .pure _) fun _ => .pure _

end Frames

end CryptoUsb
