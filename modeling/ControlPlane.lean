import ControlPlane.Access
import ControlPlane.CommandLine
import ControlPlane.CommandLine.Options
import ControlPlane.Configuration
import ControlPlane.Configuration.Decode
import ControlPlane.Configuration.Load
import ControlPlane.Configuration.Variable
import ControlPlane.Context
import ControlPlane.Deployment
import ControlPlane.Dictionary
import ControlPlane.Digest.Sha256
import ControlPlane.Document.Configuration
import ControlPlane.Document.Entity
import ControlPlane.Document.Key
import ControlPlane.Document.Operation
import ControlPlane.Document.Reply
import ControlPlane.Document.Request
import ControlPlane.Document.Settings
import ControlPlane.Document.Value
import ControlPlane.Entity
import ControlPlane.Entity.Hydration
import ControlPlane.Entity.Key
import ControlPlane.Entity.Kind
import ControlPlane.Entity.Lookup
import ControlPlane.Entity.Settings
import ControlPlane.Identity.Name
import ControlPlane.Json
import ControlPlane.Json.Decode
import ControlPlane.Json.Printer
import ControlPlane.Json.Reader
import ControlPlane.Life
import ControlPlane.Main
import ControlPlane.Merge
import ControlPlane.Number
import ControlPlane.Number.Binary64
import ControlPlane.Number.Word
import ControlPlane.Preload
import ControlPlane.Proofs.Absence
import ControlPlane.Proofs.Absorption
import ControlPlane.Proofs.Accounting
import ControlPlane.Proofs.Addition
import ControlPlane.Proofs.Admission
import ControlPlane.Proofs.Answers
import ControlPlane.Proofs.Associations
import ControlPlane.Proofs.Atomicity
import ControlPlane.Proofs.Blindness
import ControlPlane.Proofs.Calendar
import ControlPlane.Proofs.Cancellation
import ControlPlane.Proofs.Cascade
import ControlPlane.Proofs.Conflicts
import ControlPlane.Proofs.Consistency
import ControlPlane.Proofs.Constraints
import ControlPlane.Proofs.Counting
import ControlPlane.Proofs.Creation
import ControlPlane.Proofs.Deletion
import ControlPlane.Proofs.Delimiters
import ControlPlane.Proofs.Dependants
import ControlPlane.Proofs.Directions
import ControlPlane.Proofs.DistinctNames
import ControlPlane.Proofs.Documents
import ControlPlane.Proofs.Duplicates
import ControlPlane.Proofs.Evolution
import ControlPlane.Proofs.Execution
import ControlPlane.Proofs.Failures
import ControlPlane.Proofs.Footprint
import ControlPlane.Proofs.GrantHistory
import ControlPlane.Proofs.GrantMap
import ControlPlane.Proofs.GrantRuns
import ControlPlane.Proofs.Granting
import ControlPlane.Proofs.Hydration
import ControlPlane.Proofs.Integrity
import ControlPlane.Proofs.Interchange
import ControlPlane.Proofs.Inventories
import ControlPlane.Proofs.Inversion
import ControlPlane.Proofs.Isolation
import ControlPlane.Proofs.Iteration
import ControlPlane.Proofs.Keys
import ControlPlane.Proofs.Lifecycle
import ControlPlane.Proofs.Listings
import ControlPlane.Proofs.Mirrors
import ControlPlane.Proofs.Naming
import ControlPlane.Proofs.NaturalKeys
import ControlPlane.Proofs.NormalForm
import ControlPlane.Proofs.Order
import ControlPlane.Proofs.Overwriting
import ControlPlane.Proofs.Paging
import ControlPlane.Proofs.Patches
import ControlPlane.Proofs.Portions
import ControlPlane.Proofs.Priorities
import ControlPlane.Proofs.Provisioning
import ControlPlane.Proofs.Readability
import ControlPlane.Proofs.Reconciliation
import ControlPlane.Proofs.Referents
import ControlPlane.Proofs.Refinement
import ControlPlane.Proofs.Refusals
import ControlPlane.Proofs.Renewal
import ControlPlane.Proofs.Repetition
import ControlPlane.Proofs.Reports
import ControlPlane.Proofs.Rereading
import ControlPlane.Proofs.Retrieval
import ControlPlane.Proofs.Revision
import ControlPlane.Proofs.SafeNames
import ControlPlane.Proofs.Seniority
import ControlPlane.Proofs.Sequencing
import ControlPlane.Proofs.Session
import ControlPlane.Proofs.Storable
import ControlPlane.Proofs.StoredForm
import ControlPlane.Proofs.Subgraphs
import ControlPlane.Proofs.Timestamps
import ControlPlane.Proofs.Unfolding
import ControlPlane.Proofs.Updating
import ControlPlane.Proofs.WrittenForm
import ControlPlane.Request
import ControlPlane.Storage.Database
import ControlPlane.Storage.Failure
import ControlPlane.Storage.Order
import ControlPlane.Storage.Relation
import ControlPlane.Storage.Schema
import ControlPlane.Storage.Script
import ControlPlane.Storage.Storable
import ControlPlane.Store.Addressing
import ControlPlane.Store.Clouds
import ControlPlane.Store.Controllers
import ControlPlane.Store.Credentials
import ControlPlane.Store.Gate
import ControlPlane.Store.Grants
import ControlPlane.Store.Identities
import ControlPlane.Store.Iteration
import ControlPlane.Store.Links
import ControlPlane.Store.Metrics
import ControlPlane.Store.Migration
import ControlPlane.Store.Models
import ControlPlane.Store.Operation
import ControlPlane.Store.Paging
import ControlPlane.Store.Readiness
import ControlPlane.Store.Regions
import ControlPlane.StoreError
import ControlPlane.Subject
import ControlPlane.Telemetry
import ControlPlane.Text.Blank
import ControlPlane.Text.Digits
import ControlPlane.Text.Escape
import ControlPlane.Text.Hidden
import ControlPlane.Text.Numeral
import ControlPlane.Text.Quoted
import ControlPlane.Text.Search
import ControlPlane.Time.Calendar
import ControlPlane.Time.Reader
import ControlPlane.Time.Timestamp
import ControlPlane.Tree
import ControlPlane.Uuid
import ControlPlane.Yaml.BlockScalar
import ControlPlane.Yaml.Line
import ControlPlane.Yaml.Plain
import ControlPlane.Yaml.Quoted
import ControlPlane.Yaml.Reader
import ControlPlane.Yaml.Scalar
