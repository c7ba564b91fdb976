import Keyring.Context
import Keyring.Failure.Kind
import Keyring.Settings.Environment
import Keyring.Proofs.KeyPool
import Keyring.Proofs.KeyTable
import Keyring.Proofs.Outcomes
import Keyring.Proofs.BatchResult
import Keyring.Proofs.StoreCalls
import Keyring.Proofs.StoreEntries
import Keyring.Proofs.StoreChanges
import Keyring.Proofs.HandleLifetime
import Keyring.Proofs.StoreHistory
import Keyring.Proofs.Replacement
import Keyring.Proofs.HandleOwners
import Keyring.Proofs.DispatchTrace
import Keyring.Proofs.ContextCalls
import Keyring.Proofs.Lifecycle
import Keyring.Proofs.Credentials
import Keyring.Proofs.TableGrammar
import Keyring.Proofs.TextLines
import Keyring.Proofs.TableImage
import Keyring.Proofs.TableLines
import Keyring.Proofs.SourceFiles
import Keyring.Proofs.KeyImport
import Keyring.Proofs.BoundedReading
import Keyring.Proofs.OneLine
import Keyring.Proofs.ReportLines
import Keyring.Proofs.HexSpelling
import Keyring.Proofs.StoreLookups
import Keyring.Proofs.SourceOrder
import Keyring.Proofs.LargerLimits
import Keyring.Proofs.HexText
import Keyring.Proofs.HashBytes
import Keyring.Proofs.SpelledKeys
import Keyring.Proofs.Encryption
import Keyring.Proofs.ConsistentKeys
import Keyring.Proofs.Decryption
import Keyring.Proofs.ArrayItems
import Keyring.Proofs.ReloadLog
import Keyring.Proofs.IntegerLiterals
import Keyring.Proofs.EnvironmentSettings
import Keyring.Proofs.TypeMembership
