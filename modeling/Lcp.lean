import Lcp.Invariants.RetryBudget
import Lcp.Invariants.SlotAccounting
import Lcp.Invariants.LeaseOwnership
import Lcp.Theory.Distinguishing
import Lcp.Db.Rls
import Lcp.Db.RlsIsolation
import Lcp.Services.Emission
import Lcp.Services.LifecyclePlannerService
import Lcp.DataPlane.LanceIo
import Lcp.Services.IndexWatcherService
import Lcp.Theory.KeyText
import Lcp.Workers.Executors
import Lcp.Workers.LifecycleWorkerService
import Lcp.Services.IndexWatcherPass
import Lcp.Invariants.Confinement
import Lcp.Workers.OptimizeRuns
import Lcp.Invariants.WatcherQuiescence
import Lcp.Sessions.Model
import Lcp.Sessions.Locking
import Lcp.Theory.History
import Lcp.Sessions.AtMostOnce
import Lcp.Sessions.CopyCurrency
import Lcp.Sessions.LostUpdates
import Lcp.Sessions.CancelFinal
import Lcp.Sessions.WorkerRows
import Lcp.Sessions.DeadWorkers
import Lcp.Sessions.Capacity
import Lcp.Invariants.StickyDrain
import Lcp.Invariants.LeaseFencing
import Lcp.Invariants.TaskRows
import Lcp.Services.DatasetService
import Lcp.Services.IndexService
import Lcp.Services.PlannerDue
import Lcp.Services.VectorizationService
import Lcp.Invariants.DeletedDatasets
import Lcp.DataPlane.IndexMap
import Lcp.Invariants.IndexCatalog
import Lcp.Invariants.TransientIndexes
import Lcp.Sessions.IndexRows
import Lcp.Sessions.DroppedIndexes
import Lcp.Sessions.DurableEmissions
import Lcp.Sessions.PlannerAlone
import Lcp.Sessions.Submitters
import Lcp.Sessions.IdempotentSubmissions
import Lcp.Core.Security
import Lcp.Invariants.KeyScoping
import Lcp.Core.Calendar
import Lcp.Services.PlannerPass
import Lcp.Invariants.Producers
import Lcp.Invariants.KeyRanges
import Lcp.Invariants.PlannedOnce
import Lcp.Services.LifecycleService
import Lcp.Invariants.ChildTables
import Lcp.Theory.Restriction
import Lcp.Db.RlsJoins
import Lcp.Db.RlsWrites
import Lcp.Db.RlsCollation
import Lcp.Invariants.OneTrigger
import Lcp.Sessions.Watchers
import Lcp.Sessions.DurableReports
import Lcp.Invariants.FaultIsolation
import Lcp.Invariants.RecordedRuns
import Lcp.Invariants.VectorizedRules
import Lcp.Workers.VectorizeContract
import Lcp.Invariants.SeenVersions
import Lcp.Invariants.BuiltDefinitions
import Lcp.Theory.UnitOfWork
import Lcp.Workers.ExecutorSessions
import Lcp.Security.Jwks
import Lcp.Security.JwksBounds
import Lcp.Security.SingleFlight
import Lcp.Security.OidcTokens
import Lcp.Security.Replay
import Lcp.Invariants.QueueDrain
import Lcp.Invariants.OrphanRequeue
import Lcp.Sessions.Reapers
import Lcp.Theory.Chunks
import Lcp.Workers.VectorizeSync
import Lcp.Workers.EmbeddingAlignment
import Lcp.Workers.EncodedTexts
import Lcp.Workers.VectorizeReport
import Lcp.Invariants.KeyLengths
import Lcp.Invariants.VectorizeNow
import Lcp.Services.SubmissionFailures
import Lcp.Invariants.StaleFallback
import Lcp.Sessions.Optimizers
import Lcp.Sessions.ExclusiveOptimize
import Lcp.Security.Certificates
import Lcp.Integrations.Gravitino
import Lcp.Services.MetaSyncService
import Lcp.Services.PatchedRows
import Lcp.Services.MetaSyncPasses
import Lcp.Invariants.CatalogConvergence
import Lcp.Invariants.Registrations
import Lcp.Invariants.SyncFailures
import Lcp.Security.Provider
import Lcp.Security.ProviderFailures
import Lcp.Core.Isoformat
import Lcp.Workers.TtlDeletes
import Lcp.Services.Listings
import Lcp.Embeddings.MockModel
import Lcp.Integrations.Properties
import Lcp.Workers.AutoIndexBuild
import Lcp.Sessions.AttendedTasks
import Lcp.Sessions.Heartbeats
import Lcp.Workers.HeartbeatTiming
import Lcp.Invariants.PrivateRuns
import Lcp.Sessions.Serializable
import Lcp.Theory.DynamicScope
import Lcp.Api.RequestIsolation
import Lcp.Sessions.Leases
import Lcp.Invariants.DeliveredOnce
import Lcp.Invariants.TaskAccounts
