/-
# Invariants.TenantRequests -- the requests of a tenant, and its part of the database

`respond` is the tenant-facing service layer as one function: what a request answers, and
the rows it leaves.  `view` is the database as if one tenant were alone in it: its datasets,
its tasks, and the rows under its datasets; the workers are not the tenants'.

A request that a row of another tenant is in the way of, at a UNIQUE key, is not `Clear`.
-/
import Lcp.Invariants.ChildTables
import Lcp.Services.Listings
import Lcp.Theory.Selections

namespace Lcp.TenantRequests

open Theory
open ChildTables (Call)
open Rls (Collation)

set_option autoImplicit false

/-! ## Requests -/

/-- A call of the tenant-facing services, with what it draws from outside. -/
inductive Request where
  | createDataset (datasetUuid : String) (payload : DatasetRegisterRequest)
  | getDataset (datasetUuid : String)
  | listDatasets (createdAt : Dataset → DateTime) (arrangement : Arrangement createdAt)
      (filters : DatasetService.DatasetFilters) (page pageSize : Int)
  | deleteDataset (datasetUuid : String)
  | submitTask (now : DateTime) (taskUuid : String) (request : TaskSubmitRequest)
  | getTask (taskUuid : String)
  | listTasks (arrangement : Arrangement Task.createdAt) (filters : TaskService.TaskFilters)
      (page pageSize : Int)
  | cancelTask (now : DateTime) (taskUuid : String)
  | retryTask (taskUuid : String)
  | child (call : Call)

/-- What a request answers. -/
inductive Answer where
  | dataset (result : Except DatasetError Dataset)
  | datasets (result : Except DatasetError (List Dataset × Nat))
  | datasetDone (result : Except DatasetError Unit)
  | task (result : Except TaskError Task)
  | submitted (result : Except TaskError (Task × Bool))
  | tasks (result : Except TaskError (List Task × Nat))
  | index (result : Except IndexError Index)
  | indexes (result : Except IndexError (List Index × Nat))
  | indexDone (result : Except IndexError Unit)
  | policy (result : Except PolicyError LifecyclePolicy)
  | policies (result : Except PolicyError (List LifecyclePolicy × Nat))
  | policyDone (result : Except PolicyError Unit)
  | rule (result : Except RuleError VectorizationRule)
  | rules (result : Except RuleError (List VectorizationRule × Nat))
  | ruleDone (result : Except RuleError Unit)
  | vectorize (result : Except RuleError (Task × Bool))

/-- The answer of a call with a result, and the rows. -/
def answered {ε α : Type} (wrap : Except ε α → Answer) (db : Database)
    (ran : Except ε (α × Database)) : Answer × Database :=
  match ran with
  | .ok (result, after) => (wrap (.ok result), after)
  | .error e => (wrap (.error e), db)

/-- The answer of a call without a result, and the rows. -/
def done {ε : Type} (wrap : Except ε Unit → Answer) (db : Database) (ran : Except ε Database) :
    Answer × Database :=
  answered wrap db (ran.map fun after => ((), after))

/-- The operations under a dataset. -/
def respondChild (principal : Option TenantPrincipal) (db : Database) : Call → Answer × Database
  | .createIndex draws newId args =>
      let ran := IndexService.createIndex principal draws newId args db
      (.index ran.1, ran.2)
  | .getIndex datasetUuid indexName =>
      (.index (IndexService.getIndex principal datasetUuid indexName db), db)
  | .listIndexes createdAt datasetUuid =>
      (.indexes (IndexService.listIndexes principal createdAt datasetUuid db), db)
  | .dropIndex datasetUuid indexName =>
      done .indexDone db (IndexService.dropIndex principal datasetUuid indexName db)
  | .optimizeIndex draws datasetUuid indexName =>
      let ran := IndexService.optimizeIndex principal draws datasetUuid indexName db
      (.index ran.1, ran.2)
  | .mergeIndex now datasetUuid indexName =>
      done .indexDone db (IndexService.mergeIndex principal now datasetUuid indexName db)
  | .createPolicy newId datasetUuid payload =>
      answered .policy db (LifecycleService.createPolicy principal newId datasetUuid payload db)
  | .getPolicy datasetUuid policyName =>
      (.policy (LifecycleService.getPolicy principal datasetUuid policyName db), db)
  | .listPolicies createdAt datasetUuid =>
      (.policies (LifecycleService.listPolicies principal createdAt datasetUuid db), db)
  | .updatePolicy datasetUuid policyName payload =>
      answered .policy db
        (LifecycleService.updatePolicy principal datasetUuid policyName payload db)
  | .deletePolicy datasetUuid policyName =>
      done .policyDone db (LifecycleService.deletePolicy principal datasetUuid policyName db)
  | .setPolicyEnabled datasetUuid policyName enabled =>
      answered .policy db (LifecycleService.setEnabled principal datasetUuid policyName enabled db)
  | .createRule newId datasetUuid payload =>
      answered .rule db (VectorizationService.createRule principal newId datasetUuid payload db)
  | .getRule datasetUuid targetColumn =>
      (.rule (VectorizationService.getRule principal datasetUuid targetColumn db), db)
  | .listRules createdAt datasetUuid =>
      (.rules (VectorizationService.listRules principal createdAt datasetUuid db), db)
  | .updateRule datasetUuid targetColumn payload =>
      answered .rule db
        (VectorizationService.updateRule principal datasetUuid targetColumn payload db)
  | .deleteRule datasetUuid targetColumn =>
      done .ruleDone db (VectorizationService.deleteRule principal datasetUuid targetColumn db)
  | .setRuleEnabled datasetUuid targetColumn enabled =>
      answered .rule db
        (VectorizationService.setEnabled principal datasetUuid targetColumn enabled db)
  | .submitVectorizeTask now taskUuid datasetUuid targetColumn =>
      answered .vectorize db
        (VectorizationService.submitVectorizeTask principal now taskUuid datasetUuid targetColumn
          db)

/-- The service layer: what a request answers, and the rows after it. -/
def respond (collation : Collation) (principal : Option TenantPrincipal) (db : Database) :
    Request → Answer × Database
  | .createDataset datasetUuid payload =>
      answered .dataset db (DatasetService.createDataset principal datasetUuid payload db)
  | .getDataset datasetUuid =>
      (.dataset (DatasetService.getDataset principal datasetUuid db), db)
  | .listDatasets _ arrangement filters page pageSize =>
      (.datasets (DatasetService.listDatasets collation principal filters page pageSize arrangement
        db), db)
  | .deleteDataset datasetUuid =>
      done .datasetDone db (DatasetService.deleteDataset principal datasetUuid db)
  | .submitTask now taskUuid request =>
      answered .submitted db
        (TaskService.submitTask principal now taskUuid (TaskService.routerSubmission request) db)
  | .getTask taskUuid => (.task (TaskService.getTask principal taskUuid db), db)
  | .listTasks arrangement filters page pageSize =>
      (.tasks (TaskService.listTasks collation principal filters page pageSize arrangement db), db)
  | .cancelTask now taskUuid =>
      answered .task db (TaskService.cancelTask principal now taskUuid db)
  | .retryTask taskUuid => answered .task db (TaskService.retryTask principal taskUuid db)
  | .child call => respondChild principal db call

/-! ## One tenant's part -/

/-- The tenant has a dataset of this uuid, DELETED or not. -/
def owns (tenantId : String) (db : Database) (datasetUuid : String) : Bool :=
  db.dataset.rows.any fun dataset => dataset.datasetUuid = datasetUuid ∧ dataset.tenantId = tenantId

/-- The database as if the tenant were alone in it. -/
def view (tenantId : String) (db : Database) : Database where
  dataset := db.dataset.only fun dataset => dataset.tenantId = tenantId
  task := db.task.only fun task => task.tenantId = tenantId
  vectorIndex := db.vectorIndex.only fun index => owns tenantId db index.datasetUuid
  lifecyclePolicy := db.lifecyclePolicy.only fun policy => owns tenantId db policy.datasetUuid
  vectorizationRule := db.vectorizationRule.only fun rule => owns tenantId db rule.datasetUuid

/-- A result and the rows after it, as the tenant sees them. -/
def seen {α : Type} (tenantId : String) (ran : α × Database) : α × Database :=
  (ran.1, view tenantId ran.2)

/-! ## What can be in the way -/

/-- The uuid and the idempotency key of the task that a request inserts. -/
def newTask (caller : TenantPrincipal) (db : Database) : Request → Option (String × Option String)
  | .submitTask _ taskUuid request =>
      some (taskUuid, TaskService.scopedKey caller request.idempotencyKey)
  | .child (.createIndex draws newId args) =>
      some (draws.taskUuid, TaskService.scopedKey caller (args.submission newId).idempotencyKey)
  | .child (.optimizeIndex draws datasetUuid indexName) =>
      (IndexService.maybeGetIndex datasetUuid indexName db).map fun index =>
        (draws.taskUuid, TaskService.scopedKey caller
          (IndexService.optimizeSubmission datasetUuid indexName index.id draws.now).idempotencyKey)
  | .child (.submitVectorizeTask _ taskUuid datasetUuid targetColumn) =>
      (VectorizationService.maybeGetRule datasetUuid targetColumn db).map fun rule =>
        (taskUuid, TaskService.scopedKey caller
          (VectorizationService.vectorizeSubmission datasetUuid targetColumn rule).idempotencyKey)
  | _ => none

/-- The uuid and the name of the dataset that a request inserts. -/
def newDataset : Request → Option (String × DatasetRegisterRequest)
  | .createDataset datasetUuid payload => some (datasetUuid, payload)
  | _ => none

/-- The id that AUTO_INCREMENT gives to the index row that a request inserts. -/
def newIndex : Request → Option Nat
  | .child (.createIndex _ newId _) => some newId
  | _ => none

/-- The id that AUTO_INCREMENT gives to the policy row that a request inserts. -/
def newPolicy : Request → Option Nat
  | .child (.createPolicy newId ..) => some newId
  | _ => none

/-- The id that AUTO_INCREMENT gives to the rule row that a request inserts. -/
def newRule : Request → Option Nat
  | .child (.createRule newId ..) => some newId
  | _ => none

/-- No row of another tenant has the keys of the task. -/
def ClearTask (tenantId : String) (db : Database) (row : String × Option String) : Prop :=
  ∀ other ∈ db.task.rows, (other.taskUuid = row.1 ∨
    (row.2.isSome = true ∧ other.idempotencyKey = row.2)) → other.tenantId = tenantId

/-- No row of another tenant has the keys of the dataset, and no row is under it already. -/
def ClearDataset (tenantId : String) (db : Database) (row : String × DatasetRegisterRequest) :
    Prop :=
  (∀ other ∈ db.dataset.rows, (other.datasetUuid = row.1 ∨
    (other.catalog, other.dbSchema, other.tableName) =
      (row.2.catalog, row.2.dbSchema, row.2.tableName)) → other.tenantId = tenantId) ∧
    (∀ index ∈ db.vectorIndex.rows, index.datasetUuid = row.1 → owns tenantId db row.1 = true) ∧
    (∀ policy ∈ db.lifecyclePolicy.rows, policy.datasetUuid = row.1 →
      owns tenantId db row.1 = true) ∧
    ∀ rule ∈ db.vectorizationRule.rows, rule.datasetUuid = row.1 → owns tenantId db row.1 = true

/-- No index row of another tenant has the id. -/
def ClearIndex (tenantId : String) (db : Database) (newId : Nat) : Prop :=
  ∀ index ∈ db.vectorIndex.rows, index.id = newId → owns tenantId db index.datasetUuid = true

/-- No policy row of another tenant has the id. -/
def ClearPolicy (tenantId : String) (db : Database) (newId : Nat) : Prop :=
  ∀ policy ∈ db.lifecyclePolicy.rows, policy.id = newId → owns tenantId db policy.datasetUuid = true

/-- No rule row of another tenant has the id. -/
def ClearRule (tenantId : String) (db : Database) (newId : Nat) : Prop :=
  ∀ rule ∈ db.vectorizationRule.rows, rule.id = newId → owns tenantId db rule.datasetUuid = true

/-- No tenant of a row is the tenant to the collation only. -/
def Apart (collation : Collation) (tenantId : String) (db : Database) : Prop :=
  (∀ dataset ∈ db.dataset.rows, collation.same dataset.tenantId tenantId = true →
    dataset.tenantId = tenantId) ∧
    ∀ task ∈ db.task.rows, collation.same task.tenantId tenantId = true → task.tenantId = tenantId

/-- Nothing of another tenant is in the way of the request. -/
structure Clear (collation : Collation) (caller : TenantPrincipal) (db : Database)
    (request : Request) : Prop where
  apart : Apart collation caller.tenantId db
  task : ∀ row ∈ newTask caller db request, ClearTask caller.tenantId db row
  dataset : ∀ row ∈ newDataset request, ClearDataset caller.tenantId db row
  index : ∀ newId ∈ newIndex request, ClearIndex caller.tenantId db newId
  policy : ∀ newId ∈ newPolicy request, ClearPolicy caller.tenantId db newId
  rule : ∀ newId ∈ newRule request, ClearRule caller.tenantId db newId

instance (tenantId : String) (db : Database) : DecidablePred (ClearTask tenantId db) := fun row =>
  inferInstanceAs (Decidable (∀ other ∈ db.task.rows, (other.taskUuid = row.1 ∨
    (row.2.isSome = true ∧ other.idempotencyKey = row.2)) → other.tenantId = tenantId))

instance (tenantId : String) (db : Database) : DecidablePred (ClearDataset tenantId db) := fun _ =>
  instDecidableAnd

instance (tenantId : String) (db : Database) : DecidablePred (ClearIndex tenantId db) :=
  fun newId => inferInstanceAs (Decidable (∀ index ∈ db.vectorIndex.rows, index.id = newId →
    owns tenantId db index.datasetUuid = true))

instance (tenantId : String) (db : Database) : DecidablePred (ClearPolicy tenantId db) :=
  fun newId => inferInstanceAs (Decidable (∀ policy ∈ db.lifecyclePolicy.rows, policy.id = newId →
    owns tenantId db policy.datasetUuid = true))

instance (tenantId : String) (db : Database) : DecidablePred (ClearRule tenantId db) :=
  fun newId => inferInstanceAs (Decidable (∀ rule ∈ db.vectorizationRule.rows, rule.id = newId →
    owns tenantId db rule.datasetUuid = true))

instance (collation : Collation) (tenantId : String) : DecidablePred (Apart collation tenantId) :=
  fun _ => instDecidableAnd

instance (collation : Collation) (caller : TenantPrincipal) (db : Database) (request : Request) :
    Decidable (Clear collation caller db request) :=
  decidable_of_iff
    (Apart collation caller.tenantId db ∧
      (∀ row ∈ newTask caller db request, ClearTask caller.tenantId db row) ∧
        (∀ row ∈ newDataset request, ClearDataset caller.tenantId db row) ∧
          (∀ newId ∈ newIndex request, ClearIndex caller.tenantId db newId) ∧
            (∀ newId ∈ newPolicy request, ClearPolicy caller.tenantId db newId) ∧
              ∀ newId ∈ newRule request, ClearRule caller.tenantId db newId)
    ⟨fun ⟨apart, task, dataset, index, policy, rule⟩ => ⟨apart, task, dataset, index, policy, rule⟩,
      fun clear => ⟨clear.apart, clear.task, clear.dataset, clear.index, clear.policy, clear.rule⟩⟩

end Lcp.TenantRequests
