import Quarry.Account
import Quarry.AuditInfo
import Quarry.Config
import Quarry.Customer.Service
import Quarry.Json.Reader
import Quarry.LogFormat
import Quarry.Repository.Document
import Quarry.Repository.Memory
import Quarry.Specification.Flag
import Quarry.Specification.Paged
import Quarry.Sql.Repository
import Quarry.Validation
import Quarry.Proofs.Customer.Queries
import Quarry.Proofs.UnitOfWork.Accounting
import Quarry.Proofs.UnitOfWork.Writing
import Quarry.Proofs.Repository.Replies
import Quarry.Proofs.Repository.Versions
import Quarry.Proofs.Repository.Circulation
import Quarry.Proofs.UnitOfWork.Deduplication
import Quarry.Proofs.Value.Sorting
import Quarry.Proofs.Filter.Json
import Quarry.Proofs.Sql.Placeholders
import Quarry.Proofs.Sql.Independence
import Quarry.Proofs.Sql.TableMapping
import Quarry.Proofs.Text.Search
import Quarry.Proofs.Sql.Fields
import Quarry.Proofs.Sql.Wording
import Quarry.Proofs.Specification.Construction
import Quarry.Proofs.Ordering
import Quarry.Proofs.Specification.Paged
import Quarry.Proofs.Repository.Paging
import Quarry.Proofs.Specification.Evaluation
import Quarry.Repository.InPlace
import Quarry.Proofs.Repository.InPlace
import Quarry.Proofs.Repository.Bookkeeping
import Quarry.Proofs.Customer.ReadBack
import Quarry.Proofs.Record
import Quarry.Proofs.Filter.Typed
import Quarry.Proofs.Event.Channels
import Quarry.Proofs.UnitOfWork.Batching
import Quarry.UnitOfWork.InPlace
import Quarry.Proofs.Sql.Sorting
import Quarry.Proofs.Sql.Paging
import Quarry.Proofs.Customer.Event
import Quarry.Proofs.Event.Dispatch
import Quarry.Proofs.UnitOfWork.Retrying
import Quarry.Proofs.UnitOfWork.Changes
import Quarry.Proofs.Sql.Acceptance
import Quarry.Proofs.Value.Numbers
import Quarry.Proofs.Value.Agreement
import Quarry.Proofs.Ordering.Places
import Quarry.Proofs.Specification.Acceptance
import Quarry.Proofs.Filter.Fields
import Quarry.Proofs.Filter.Stored
import Quarry.Proofs.Specification.Laws
import Quarry.Proofs.Value.Comparing
import Quarry.Proofs.Criterion.Coherence
import Quarry.Proofs.Value.Readings
import Quarry.Proofs.Validation
import Quarry.Proofs.Config
import Quarry.Proofs.Repository.Counting
import Quarry.Proofs.Repository.Collections
import Quarry.Proofs.Repository.IdentifierOrder
import Quarry.Proofs.Sql.LastResorts
