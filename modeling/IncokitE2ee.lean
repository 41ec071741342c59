import IncokitE2ee.SealedWire
import IncokitE2ee.NamespaceInfo
import IncokitE2ee.Entity
import IncokitE2ee.Transition
import IncokitE2ee.EntityIsolation
import IncokitE2ee.ReferenceHkdf
import IncokitE2ee.KeyWrapping
import IncokitE2ee.Sharing
import IncokitE2ee.Framing
import IncokitE2ee.Oprf
import IncokitE2ee.SharingRun
import IncokitE2ee.Hex
import IncokitE2ee.RecoveryKey
import IncokitE2ee.Recovery
import IncokitE2ee.BTreeMap
import IncokitE2ee.JsonValue
import IncokitE2ee.JsonRoundTrip
import IncokitE2ee.JsonDepth
import IncokitE2ee.SealedJson
import IncokitE2ee.FallibleMap
import IncokitE2ee.Keychain
import IncokitE2ee.ReferenceKeyring
import IncokitE2ee.KeychainMap
import IncokitE2ee.KeychainPlatforms
import IncokitE2ee.KeychainPresence
import IncokitE2ee.Panicking
import IncokitE2ee.KeyUnwrapping
import IncokitE2ee.Truncation
import IncokitE2ee.RecoveryLanguage
import IncokitE2ee.Migration
import IncokitE2ee.JsonGrammar
import IncokitE2ee.JsonSound
import IncokitE2ee.LegacyJson
import IncokitE2ee.CallErrors
import IncokitE2ee.CallPanics
import IncokitE2ee.Vault
import IncokitE2ee.DomainSeparation
import IncokitE2ee.Drawing
import IncokitE2ee.NonceDiscipline
import IncokitE2ee.KeyDistribution
import IncokitE2ee.JsonMigration
import IncokitE2ee.Unlock
import IncokitE2ee.FullFlow
import IncokitE2ee.Device
import IncokitE2ee.Compromise
import IncokitE2ee.ErrorTexts
import IncokitE2ee.Failures
import IncokitE2ee.Account
