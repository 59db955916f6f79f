import Storekeeper.Text.Alphanumeric
import Storekeeper.Text.Numeral
import Storekeeper.Json.Reader
import Storekeeper.Json.Writer
import Storekeeper.Transaction.Options
import Storekeeper.Retry
import Storekeeper.Url.Basic
import Storekeeper.Settings.EnvFile
import Storekeeper.Time.Reading
import Storekeeper.Record.Defaults
import Storekeeper.Health
import Storekeeper.Mongo.Document
import Storekeeper.Main
import Storekeeper.Decode.Names
import Storekeeper.Proofs.Store.Interleaving
import Storekeeper.Proofs.Store.SerialReplay
import Storekeeper.Proofs.Store.WriteConflicts
import Storekeeper.Proofs.Manager.Disconnection
import Storekeeper.Proofs.Manager.Health
import Storekeeper.Proofs.Manager.Runs
import Storekeeper.Proofs.Manager.Attempts
import Storekeeper.Proofs.Manager.Sharing
import Storekeeper.Proofs.Manager.Cleanup
import Storekeeper.Proofs.Manager.Quiet
import Storekeeper.Proofs.Manager.OneLoop
import Storekeeper.Proofs.Manager.Lifecycle
import Storekeeper.Proofs.Manager.Accounting
import Storekeeper.Proofs.Manager.Discretion
import Storekeeper.Proofs.Manager.Resetting
import Storekeeper.Proofs.Manager.Seeding
import Storekeeper.Proofs.Url.Reading
import Storekeeper.Proofs.Settings.SeedList
import Storekeeper.Proofs.Manager.Reporting
import Storekeeper.Proofs.Redaction.Residue
import Storekeeper.Proofs.Manager.Verdicts
import Storekeeper.Proofs.Manager.Sequence
import Storekeeper.Proofs.Store.DocumentMap
import Storekeeper.Proofs.Manager.Maintaining
import Storekeeper.Proofs.Settings.StoreSelection
import Storekeeper.Proofs.Settings.Disclosure
import Storekeeper.Proofs.Mongo.Classification
import Storekeeper.Proofs.Mongo.Documents
import Storekeeper.Proofs.Settings.RoundTrip
import Storekeeper.Proofs.Record.RoundTrip
import Storekeeper.Proofs.Time.RoundTrip
