import KeyCustody.Call
import KeyCustody.Custodian.Assembly
import KeyCustody.Database.Disk
import KeyCustody.Holdings
import KeyCustody.Json.Writer
import KeyCustody.Logging.Filter
import KeyCustody.Settings.Load
import KeyCustody.Proofs.Run
import KeyCustody.Proofs.World
import KeyCustody.Proofs.Keyed
import KeyCustody.Proofs.Retry
import KeyCustody.Proofs.Ledger
import KeyCustody.Proofs.Counting
import KeyCustody.Proofs.SingleFault
import KeyCustody.Proofs.Registry.Lookup
import KeyCustody.Proofs.Registry.Agreement
import KeyCustody.Proofs.Custodian.Undoing
import KeyCustody.Proofs.Custodian.Consistency
import KeyCustody.Proofs.Registry.Replay
import KeyCustody.Proofs.Keystore.History
import KeyCustody.Proofs.Keystore.Lawful
import KeyCustody.Proofs.Keystore.Promotion
import KeyCustody.Proofs.Keystore.Reading
import KeyCustody.Proofs.Lifecycle
import KeyCustody.Proofs.Lifecycle.Settlement
import KeyCustody.Proofs.Lifecycle.Transitions
import KeyCustody.Proofs.Lifecycle.Convergence
import KeyCustody.Proofs.Lifecycle.Pages
import KeyCustody.Proofs.Custodian.Release
import KeyCustody.Proofs.Beside
import KeyCustody.Proofs.Custodian.Beside
import KeyCustody.Proofs.Custodian.Secrecy
import KeyCustody.Proofs.Custodian.StandIn
import KeyCustody.Proofs.Interleaving
import KeyCustody.Proofs.Custodian.Reading
import KeyCustody.Proofs.Custodian.Terminal
import KeyCustody.Proofs.Custodian.Expiry
import KeyCustody.Proofs.Custodian.Generation
import KeyCustody.Proofs.Keystore.Availability
import KeyCustody.Proofs.Plant
import KeyCustody.Proofs.Keystore.Removal
import KeyCustody.Proofs.Custodian.Repetition
import KeyCustody.Proofs.Path
import KeyCustody.Proofs.Keystore.Overtaking
import KeyCustody.Proofs.Keystore.Deletion
import KeyCustody.Proofs.Keystore.Counting
import KeyCustody.Proofs.Keystore.Accounts
import KeyCustody.Proofs.Reconciliation
import KeyCustody.Proofs.Pool
import KeyCustody.Proofs.Registry.Contention
import KeyCustody.Proofs.Registry.Standing
import KeyCustody.Proofs.Registry.Drawing
import KeyCustody.Proofs.Stock
import KeyCustody.Proofs.Custodian.Frame
import KeyCustody.Proofs.Keystore.Stocking
import KeyCustody.Proofs.Custodian.Stocking
import KeyCustody.Proofs.Custodian.InStep
import KeyCustody.Proofs.Custodian.Settling
import KeyCustody.Proofs.Lifecycle.Outcome
import KeyCustody.Proofs.Custodian.Finality
import KeyCustody.Proofs.Catalog.Listing
import KeyCustody.Proofs.Catalog.Paging
import KeyCustody.Proofs.Custodian.RoundTrip
import KeyCustody.Proofs.Custodian.History
import KeyCustody.Proofs.Custodian.Tenancy
import KeyCustody.Proofs.Custodian.Visibility
import KeyCustody.Proofs.Custodian.Alike
import KeyCustody.Proofs.Custodian.Showing
import KeyCustody.Proofs.Custodian.Counting
import KeyCustody.Proofs.Custodian.Accounts
import KeyCustody.Proofs.Tenancy
import KeyCustody.Proofs.Custodian.Bracketing
import KeyCustody.Proofs.Custodian.Departure
import KeyCustody.Proofs.Secret.Limits
import KeyCustody.Proofs.Text.Number
import KeyCustody.Proofs.Text.Base64
import KeyCustody.Proofs.Secret.Defaults
import KeyCustody.Proofs.Keystore.Filling
import KeyCustody.Proofs.Keystore.KeyLength
import KeyCustody.Proofs.Custodian.Filing
import KeyCustody.Proofs.Custodian.Admission
import KeyCustody.Proofs.Trusting
import KeyCustody.Proofs.Commuting
import KeyCustody.Proofs.Violation
import KeyCustody.Proofs.Secret.Violations
import KeyCustody.Proofs.Secret.Wire
import KeyCustody.Proofs.Barbican.Replies
import KeyCustody.Proofs.Barbican.References
import KeyCustody.Proofs.Custodian.Trusting
import KeyCustody.Proofs.Separation
import KeyCustody.Proofs.Custodian.Commuting
import KeyCustody.Proofs.Barbican.Payloads
import KeyCustody.Proofs.Settings.Validation
import KeyCustody.Proofs.Settings.Loading
import KeyCustody.Proofs.Database.Sharing
