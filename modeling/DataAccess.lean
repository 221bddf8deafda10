import DataAccess.Criteria.Tagged
import DataAccess.Dao.Delete
import DataAccess.Dao.Load
import DataAccess.Dao.Planned
import DataAccess.Dao.Save
import DataAccess.Database.Connect
import DataAccess.Database.Raw
import DataAccess.Database.Shared
import DataAccess.Record
import DataAccess.Source.Log
import DataAccess.Source.Scripted
import DataAccess.Value.Target
import DataAccess.Proofs.Criteria.JoinTree
import DataAccess.Proofs.Criteria.FetchPath
import DataAccess.Proofs.Database.Leases
import DataAccess.Proofs.Dao.Program
import DataAccess.Proofs.Sql.Placeholders
import DataAccess.Proofs.Sql.Literals
import DataAccess.Proofs.Sql.Filled
import DataAccess.Proofs.Database.Units
import DataAccess.Proofs.Database.UnitTree
import DataAccess.Proofs.Database.Tracked
import DataAccess.Proofs.Dao.FailedWrite
import DataAccess.Proofs.Criteria.Reference
import DataAccess.Proofs.Sql.Declared
import DataAccess.Proofs.Mapping.Labels
import DataAccess.Proofs.Mapping.Graph
import DataAccess.Proofs.Mapping.Rebuilt
import DataAccess.Proofs.Dao.Closure
import DataAccess.Proofs.Dao.Relational
import DataAccess.Proofs.Dao.Cascade
import DataAccess.Proofs.Dao.Course
import DataAccess.Proofs.Dao.Protocol
import DataAccess.Proofs.Criteria.Exchange
import DataAccess.Proofs.Sql.Exchange
import DataAccess.Proofs.Dao.FailedInsert
import DataAccess.Proofs.Criteria.KnownTotal
import DataAccess.Proofs.Dao.Counting
import DataAccess.Proofs.Dao.PageTurn
import DataAccess.Proofs.Dao.PageRun
import DataAccess.Proofs.Dao.CachedTotal
import DataAccess.Proofs.Criteria.FieldResolution
import DataAccess.Proofs.Criteria.FetchOrder
import DataAccess.Proofs.Dao.RootRows
import DataAccess.Proofs.Dao.CascadeBound
import DataAccess.Proofs.Criteria.TemplateGrammar
import DataAccess.Proofs.Criteria.TemplateField
import DataAccess.Proofs.Dao.Loan
import DataAccess.Proofs.Dao.Projection
import DataAccess.Proofs.Dao.BulkWrite
import DataAccess.Proofs.Memory.Storage
import DataAccess.Proofs.Value.Documents
import DataAccess.Proofs.Row.Views
import DataAccess.Proofs.Paging.Windows
import DataAccess.Proofs.Dao.Assignments
import DataAccess.Proofs.Dao.CascadeCount
import DataAccess.Proofs.Schema.Usable
import DataAccess.Proofs.Sql.FindLabels
