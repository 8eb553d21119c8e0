import NarIndex.Compression
import NarIndex.Configuration
import NarIndex.Error
import NarIndex.Opening
import NarIndex.Proofs.Catalog.Arrival
import NarIndex.Proofs.Catalog.Assembly
import NarIndex.Proofs.Catalog.Attachment
import NarIndex.Proofs.Catalog.Errand
import NarIndex.Proofs.Catalog.Listing
import NarIndex.Proofs.Catalog.Relation
import NarIndex.Proofs.Error.Kind
import NarIndex.Proofs.Opening.Sqlite
import NarIndex.Proofs.Sql.Schema
import NarIndex.Proofs.Store.Access
import NarIndex.Proofs.Store.Account
import NarIndex.Proofs.Store.Arrival
import NarIndex.Proofs.Store.Assembly
import NarIndex.Proofs.Store.Attachments
import NarIndex.Proofs.Store.Batch
import NarIndex.Proofs.Store.Binding
import NarIndex.Proofs.Store.ChunkLinks
import NarIndex.Proofs.Store.Contention
import NarIndex.Proofs.Store.Creation
import NarIndex.Proofs.Store.Engine
import NarIndex.Proofs.Store.Errand
import NarIndex.Proofs.Store.Eviction
import NarIndex.Proofs.Store.Failure
import NarIndex.Proofs.Store.Filling
import NarIndex.Proofs.Store.FirstUrl
import NarIndex.Proofs.Store.Joined
import NarIndex.Proofs.Store.Lifecycle
import NarIndex.Proofs.Store.Lookup
import NarIndex.Proofs.Store.Migration
import NarIndex.Proofs.Store.Paging
import NarIndex.Proofs.Store.Places
import NarIndex.Proofs.Store.Queue
import NarIndex.Proofs.Store.Reading
import NarIndex.Proofs.Store.Scope
import NarIndex.Proofs.Store.Settings
import NarIndex.Proofs.Store.Sizes
import NarIndex.Proofs.Store.Sweep
import NarIndex.Proofs.Store.Touching
import NarIndex.Proofs.Store.Transaction
import NarIndex.Proofs.Target.Redaction
import NarIndex.Proofs.Target.Shown
import NarIndex.Proofs.Target.Socket
import NarIndex.Proofs.Text.Order
import NarIndex.Proofs.Text.Search
import NarIndex.Proofs.Text.Split
import NarIndex.Proofs.Time.Timestamp
import NarIndex.Proofs.Url.Login
import NarIndex.Sql.Schema
import NarIndex.Sql.Statement
import NarIndex.Store.History
import NarIndex.Target
