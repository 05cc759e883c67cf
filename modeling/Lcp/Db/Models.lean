/-
# Db.Models -- the tables of the state schema

One structure per ORM model, with the columns that some modelled function reads
or writes.  The string enumerations of the schema are inductive types.  Every
table is keyed by the column its rows are looked up by, and that column's UNIQUE
key is the `nodup` field of `Theory.Table`.

Names, ids and keys compare exactly, character by character.  The collation of a
column is a parameter where it is the subject: in `Db.RlsCollation`, in
`Services.Listings`, and in the modules of the private deployments
(`Invariants.TenantViews`, `TenantRequests`, `PrivateRuns` and `DeliveredOnce`).
The limits of VARCHAR columns and the precision of DATETIME(3) are not enforced
outside `Invariants.KeyLengths` and `Db.RlsCollation`.
-/
import Lcp.Core.Json
import Lcp.Core.Time
import Lcp.Theory.Table

namespace Lcp

open Theory

set_option autoImplicit false

/-! ## Enumerations -/

inductive DatasetStatus where
  | active
  | paused
  | archived
  | deleted
deriving DecidableEq, Repr

inductive TaskType where
  | vectorize
  | compaction
  | ttlDelete
  | indexBuild
  | indexOptimize
  | indexCleanup
  | lifecycleRecycle
deriving DecidableEq, Repr

/-- The stored spelling of a task type. -/
def TaskType.toString : TaskType → String
  | .vectorize => "VECTORIZE"
  | .compaction => "COMPACTION"
  | .ttlDelete => "TTL_DELETE"
  | .indexBuild => "INDEX_BUILD"
  | .indexOptimize => "INDEX_OPTIMIZE"
  | .indexCleanup => "INDEX_CLEANUP"
  | .lifecycleRecycle => "LIFECYCLE_RECYCLE"

inductive TaskStatus where
  | pending
  | queued
  | running
  | succeeded
  | failed
  | cancelled
deriving DecidableEq, Repr

inductive IndexStatus where
  | building
  | ready
  | optimizing
  | merging
  | failed
  | dropped
deriving DecidableEq, Repr

inductive WorkerStatus where
  | alive
  | draining
  | dead
deriving DecidableEq, Repr

/-! ## Rows -/

structure Dataset where
  datasetUuid : String
  catalog : String
  dbSchema : String
  tableName : String
  storageUri : String
  tenantId : String
  owner : Option String := none
  description : Option String := none
  status : DatasetStatus := .active
deriving DecidableEq

structure Task where
  taskUuid : String
  taskType : TaskType
  datasetUuid : String
  tenantId : String
  status : TaskStatus := .pending
  priority : Nat := 5
  attempt : Nat := 0
  maxAttempts : Nat := 3
  workerId : Option String := none
  idempotencyKey : Option String := none
  params : Option JsonDict := none
  result : Option JsonDict := none
  errorCode : Option String := none
  errorMessage : Option String := none
  startedAt : Option DateTime := none
  finishedAt : Option DateTime := none
  createdAt : DateTime
deriving DecidableEq

structure Index where
  id : Nat
  datasetUuid : String
  indexName : String
  columnName : String
  indexType : String
  params : Option JsonDict := none
  status : IndexStatus := .building
  deltaCount : Nat := 0
  lastOptimizedAt : Option DateTime := none
  lastMergedAt : Option DateTime := none
  lastSeenVersion : Option Int := none
  errorMessage : Option String := none
deriving DecidableEq

structure LifecyclePolicy where
  id : Nat
  datasetUuid : String
  policyName : String
  tierRules : Option JsonDict := none
  ttlDays : Option Nat := none
  compactionThreshold : Option JsonDict := none
  indexOptimizeCron : Option String := none
  indexWatchEnabled : Bool := false
  indexWatchMinUnindexedRows : Option Nat := some 1000
  indexWatchMinVersionDrift : Option Nat := some 1
  indexWatchStaleMinutes : Option Nat := some 30
  enabled : Bool := true
  lastRunAt : Option DateTime := none
deriving DecidableEq

structure VectorizationRule where
  id : Nat
  datasetUuid : String
  targetColumn : String
  /-- A JSON array; a PATCH can leave a JSON `null`. -/
  sourceColumns : Option (List String)
  modelName : String
  modelVersion : String
  modelEndpoint : Option String := none
  batchSize : Nat := 64
  triggerType : String := "ON_INSERT"
  cronExpr : Option String := none
  enabled : Bool := true
  extra : Option JsonDict := none
deriving DecidableEq

structure WorkerRegistry where
  workerId : String
  workerType : String
  host : Option String := none
  leaseId : String
  capacity : Nat := 1
  inFlight : Nat := 0
  labels : Option JsonDict := none
  status : WorkerStatus := .alive
  lastHeartbeatAt : DateTime
deriving DecidableEq

/-! ## The database -/

structure Database where
  dataset : Table Dataset Dataset.datasetUuid := .empty
  task : Table Task Task.taskUuid := .empty
  vectorIndex : Table Index Index.id := .empty
  lifecyclePolicy : Table LifecyclePolicy LifecyclePolicy.id := .empty
  vectorizationRule : Table VectorizationRule VectorizationRule.id := .empty
  workerRegistry : Table WorkerRegistry WorkerRegistry.workerId := .empty

namespace Task

/-- Owned by `workerId` and RUNNING: the rows a worker's `in_flight` counts. -/
def runningOn (workerId : String) (task : Task) : Bool :=
  task.status = .running ∧ task.workerId = some workerId

theorem runningOn_iff {workerId : String} {task : Task} :
    task.runningOn workerId = true ↔ task.status = .running ∧ task.workerId = some workerId := by
  simp [runningOn]

end Task

end Lcp
