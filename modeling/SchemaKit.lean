import SchemaKit.Connection.Settings
import SchemaKit.Database
import SchemaKit.FileTree
import SchemaKit.Migration.Migrator
import SchemaKit.Proofs.Ledger
import SchemaKit.Proofs.Progress
import SchemaKit.Proofs.Reading
import SchemaKit.Proofs.WorkRules
import SchemaKit.Record
import SchemaKit.Sql.Literal
import SchemaKit.Store.Run
import SchemaKit.Proofs.Migrate
import SchemaKit.Proofs.Rollback
import SchemaKit.Proofs.Firsts
import SchemaKit.Proofs.InitialSegment
import SchemaKit.Proofs.Session
import SchemaKit.Proofs.History
import SchemaKit.Proofs.Acceptance
import SchemaKit.Proofs.Resume
import SchemaKit.Proofs.Completeness
import SchemaKit.Proofs.Inverse
import SchemaKit.Proofs.Listing
import SchemaKit.Proofs.Provenance
import SchemaKit.Proofs.Targets
import SchemaKit.Proofs.Moments
import SchemaKit.Proofs.Undisturbed
import SchemaKit.Proofs.Conflicts
import SchemaKit.Proofs.Meanwhile
import SchemaKit.Store.Crowd
import SchemaKit.Proofs.Recording
import SchemaKit.Proofs.Turns
import SchemaKit.Proofs.Concurrent
import SchemaKit.Proofs.TableMap
import SchemaKit.Proofs.Building
import SchemaKit.Proofs.Marks
import SchemaKit.Proofs.Built
import SchemaKit.Proofs.Placeholders
import SchemaKit.Proofs.Everyday
import SchemaKit.Proofs.Untracked
import SchemaKit.Proofs.Rows
import SchemaKit.Proofs.Escapes
import SchemaKit.Proofs.Records
import SchemaKit.Proofs.WrittenUrl
import SchemaKit.Proofs.SettingsUrl
import SchemaKit.Proofs.Addresses
import SchemaKit.Proofs.Unescaped
import SchemaKit.Proofs.ReadSettings
import SchemaKit.Proofs.Definitions
import SchemaKit.Proofs.Drafts
import SchemaKit.Proofs.Trees
import SchemaKit.Proofs.Creating
import SchemaKit.Proofs.Chunking
import SchemaKit.Proofs.Discovery
import SchemaKit.Proofs.Unambiguous
import SchemaKit.Proofs.Spellings
import SchemaKit.Proofs.Intervals
import SchemaKit.Proofs.Orders
import SchemaKit.Proofs.IndexNames
import SchemaKit.Proofs.VersionRange
import SchemaKit.Proofs.CurrentVersion
import SchemaKit.Proofs.Literals
import SchemaKit.Proofs.OrderedRows
import SchemaKit.Proofs.Deriving
