import CryptoUsb.AcceptedRecords
import CryptoUsb.AccessCounting
import CryptoUsb.AccessLimits
import CryptoUsb.AccessValidation
import CryptoUsb.AccountDeletion
import CryptoUsb.AccountFiles
import CryptoUsb.AccountFrames
import CryptoUsb.AccountLifeCycle
import CryptoUsb.AccountRuns
import CryptoUsb.AccountVault
import CryptoUsb.AppConfig
import CryptoUsb.AtomicReplacement
import CryptoUsb.AttemptThrottle
import CryptoUsb.AuditTrail
import CryptoUsb.AuthController
import CryptoUsb.Base64Text
import CryptoUsb.BurnFaults
import CryptoUsb.ByteStrings
import CryptoUsb.CanonicalContainers
import CryptoUsb.ChosenDevices
import CryptoUsb.CommitTraces
import CryptoUsb.ContainerFormat
import CryptoUsb.ContainerParsing
import CryptoUsb.ContentGenerators
import CryptoUsb.ContentTypes
import CryptoUsb.CopiedContainers
import CryptoUsb.CredentialRotation
import CryptoUsb.CryptoPrimitives
import CryptoUsb.CryptoShredding
import CryptoUsb.DeceptionEngine
import CryptoUsb.DeceptionEvents
import CryptoUsb.DecoyDisplay
import CryptoUsb.DecoyPdf
import CryptoUsb.DecryptionPage
import CryptoUsb.DeepVerification
import CryptoUsb.DeviceDetection
import CryptoUsb.DeviceFingerprints
import CryptoUsb.DeviceKeyAgreement
import CryptoUsb.DeviceProbing
import CryptoUsb.DeviceRebind
import CryptoUsb.DirectoryFrames
import CryptoUsb.EncryptedContainers
import CryptoUsb.EncryptionPage
import CryptoUsb.Errors
import CryptoUsb.ExportedKeys
import CryptoUsb.FailureBackoff
import CryptoUsb.FailureClasses
import CryptoUsb.FakeMetadata
import CryptoUsb.FileMetadataModel
import CryptoUsb.GrantSoundness
import CryptoUsb.GuessingLimits
import CryptoUsb.HashChains
import CryptoUsb.IndentedJson
import CryptoUsb.IsoDateTime
import CryptoUsb.JsonFields
import CryptoUsb.JsonPrefixes
import CryptoUsb.JsonText
import CryptoUsb.KeyWrapping
import CryptoUsb.LocalAccounts
import CryptoUsb.LogTampering
import CryptoUsb.MetadataAuthenticity
import CryptoUsb.MetadataController
import CryptoUsb.MetadataPage
import CryptoUsb.MetadataProtection
import CryptoUsb.MetadataStore
import CryptoUsb.MetadataUpdate
import CryptoUsb.OneTimeBurn
import CryptoUsb.OneTimeRuns
import CryptoUsb.OrdinaryUse
import CryptoUsb.PageRebind
import CryptoUsb.PageTables
import CryptoUsb.PasswordHashing
import CryptoUsb.PdfSyntax
import CryptoUsb.PersistentCopies
import CryptoUsb.PlainRecords
import CryptoUsb.PngImages
import CryptoUsb.PnpDeviceIds
import CryptoUsb.PolicyAgreement
import CryptoUsb.PolledPickers
import CryptoUsb.PortableSaves
import CryptoUsb.PrivateKeyVault
import CryptoUsb.ProtectionKeySlots
import CryptoUsb.RandomDraws
import CryptoUsb.RebindChains
import CryptoUsb.RotationInterruption
import CryptoUsb.ScreenCapture
import CryptoUsb.SecretLifetimes
import CryptoUsb.SecureAccess
import CryptoUsb.SecureStorage
import CryptoUsb.SecureViewer
import CryptoUsb.SeparatedFields
import CryptoUsb.Simulations
import CryptoUsb.StorageWriter
import CryptoUsb.StoreFailures
import CryptoUsb.StoreViewRoundTrip
import CryptoUsb.StoredFiles
import CryptoUsb.TamperEvidentLog
import CryptoUsb.TrackedSessions
import CryptoUsb.TransitionRuns
import CryptoUsb.TransparentPrimitives
import CryptoUsb.UsageRecords
import CryptoUsb.UsageTracking
import CryptoUsb.UsbDevices
import CryptoUsb.VaultContinuity
import CryptoUsb.ViewerDesk
import CryptoUsb.ViewerLifecycle
import CryptoUsb.ViewingSessions
