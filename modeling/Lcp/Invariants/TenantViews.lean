/-
# Invariants.TenantViews -- one operation, and one tenant's part

Each operation of the tenant-facing services commutes with `view`: run by the tenant on its
part of the database, it returns what it returns on the whole, and leaves the part of what
it leaves there.  What an operation reads is behind its guard, and inside; what it inserts is
`Clear`.
-/
import Lcp.Invariants.TenantRequests

namespace Lcp.TenantRequests

open Theory
open Rls (Collation)

set_option autoImplicit false

/-! ## Guards and look-ups -/

section Views

variable {tenantId : String} {db : Database}

/-- Rows of a dataset that the tenant has are inside. -/
theorem owns_of_same {datasetUuid k : String} (owned : owns tenantId db datasetUuid = true)
    (same : k = datasetUuid) : owns tenantId db k = true := same ▸ owned

@[simp] theorem view_task (tasks : Table Task Task.taskUuid) :
    view tenantId { db with task := tasks } =
      { view tenantId db with task := tasks.only fun task => task.tenantId = tenantId } := rfl

@[simp] theorem view_vectorIndex (table : Table Index Index.id) :
    view tenantId { db with vectorIndex := table } =
      { view tenantId db with
        vectorIndex := table.only fun index => owns tenantId db index.datasetUuid } := rfl

@[simp] theorem view_lifecyclePolicy (table : Table LifecyclePolicy LifecyclePolicy.id) :
    view tenantId { db with lifecyclePolicy := table } =
      { view tenantId db with
        lifecyclePolicy := table.only fun policy => owns tenantId db policy.datasetUuid } := rfl

@[simp] theorem view_vectorizationRule (table : Table VectorizationRule VectorizationRule.id) :
    view tenantId { db with vectorizationRule := table } =
      { view tenantId db with
        vectorizationRule := table.only fun rule => owns tenantId db rule.datasetUuid } := rfl

@[simp] theorem view_workerRegistry (table : Table WorkerRegistry WorkerRegistry.workerId) :
    view tenantId { db with workerRegistry := table } = view tenantId db := rfl

end Views

section Own

variable {caller : TenantPrincipal} {db : Database}

theorem sees_iff (tenant : caller.isSystem = false) (tenantId : String) :
    caller.sees tenantId = true ↔ tenantId = caller.tenantId := by
  simp [TenantPrincipal.sees, tenant]

/-- **The guard** sees its tenant's datasets only. -/
theorem getDataset_view (tenant : caller.isSystem = false) (datasetUuid : String) :
    DatasetService.getDataset (some caller) datasetUuid (view caller.tenantId db) =
      DatasetService.getDataset (some caller) datasetUuid db := by
  have lookup := Table.get_only db.dataset (fun dataset => dataset.tenantId = caller.tenantId)
    datasetUuid
  simp only [DatasetService.getDataset, view, lookup]
  cases db.dataset.get datasetUuid with
  | none => rfl
  | some dataset =>
      by_cases own : dataset.tenantId = caller.tenantId
      · simp [Option.filter, own]
      · have hidden : ¬ caller.sees dataset.tenantId = true := fun sees =>
          own ((sees_iff tenant _).1 sees)
        simp [Option.filter, own, hidden]

theorem owns_of_getDataset (tenant : caller.isSystem = false) {datasetUuid : String}
    {dataset : Dataset}
    (got : DatasetService.getDataset (some caller) datasetUuid db = .ok dataset) :
    owns caller.tenantId db datasetUuid = true := by
  obtain ⟨found, -, other, same, sees⟩ := DatasetService.getDataset_eq_ok got
  obtain rfl := Option.some.inj same
  obtain ⟨member, uuid⟩ := Table.get_eq_some.1 found
  exact List.any_eq_true.2 ⟨dataset, member, decide_eq_true ⟨uuid, (sees_iff tenant _).1 sees⟩⟩

theorem getTask_view (tenant : caller.isSystem = false) (taskUuid : String) :
    TaskService.getTask (some caller) taskUuid (view caller.tenantId db) =
      TaskService.getTask (some caller) taskUuid db := by
  have lookup := Table.get_only db.task (fun task => task.tenantId = caller.tenantId) taskUuid
  simp only [TaskService.getTask, view, lookup]
  cases db.task.get taskUuid with
  | none => rfl
  | some task =>
      by_cases own : task.tenantId = caller.tenantId
      · simp [Option.filter, own]
      · have hidden : ¬ caller.sees task.tenantId = true := fun sees =>
          own ((sees_iff tenant _).1 sees)
        simp [Option.filter, own, hidden]

theorem tenantId_of_getTask (tenant : caller.isSystem = false) {taskUuid : String} {task : Task}
    (got : TaskService.getTask (some caller) taskUuid db = .ok task) :
    db.task.get taskUuid = some task ∧ task.tenantId = caller.tenantId := by
  obtain ⟨found, other, same, sees⟩ := TaskService.getTask_eq_ok got
  obtain rfl := Option.some.inj same
  exact ⟨found, (sees_iff tenant _).1 sees⟩

theorem findByKey_view (tenant : caller.isSystem = false) (key : String) :
    TaskService.findByKey caller key (view caller.tenantId db) =
      TaskService.findByKey caller key db :=
  Table.find?_only fun _ _ held =>
    decide_eq_true ((sees_iff tenant _).1 (Bool.and_eq_true_iff.1 held).1)

/-! ## Tasks -/

/-- The rows of a task of the tenant's: an insert on the view and on the whole. -/
theorem insertTask_view {task : Task} (own : task.tenantId = caller.tenantId)
    (clear : ClearTask caller.tenantId db (task.taskUuid, task.idempotencyKey)) :
    TaskService.insertTask task (view caller.tenantId db) =
      (TaskService.insertTask task db).map (view caller.tenantId) := by
  have keys : (task.idempotencyKey.isSome = true ∧
        task.idempotencyKey ∈ (view caller.tenantId db).task.rows.map Task.idempotencyKey) ↔
      (task.idempotencyKey.isSome = true ∧
        task.idempotencyKey ∈ db.task.rows.map Task.idempotencyKey) := by
    refine and_congr_right fun keyed => ?_
    rw [List.mem_map, List.mem_map]
    constructor
    · rintro ⟨other, member, same⟩
      exact ⟨other, (Table.mem_only.1 member).1, same⟩
    · rintro ⟨other, member, same⟩
      have mine := clear other member (.inr ⟨keyed, same⟩)
      exact ⟨other, Table.mem_only.2 ⟨member, decide_eq_true mine⟩, same⟩
  have insert : (view caller.tenantId db).task.insert? task =
      (db.task.insert? task).map (Table.only · fun row => row.tenantId = caller.tenantId) :=
    Table.insert?_only (decide_eq_true own) fun other member same =>
      decide_eq_true (clear other member (.inl same))
  unfold TaskService.insertTask
  by_cases taken : task.idempotencyKey.isSome = true ∧
      task.idempotencyKey ∈ db.task.rows.map Task.idempotencyKey
  · rw [if_pos taken, if_pos (keys.2 taken), Option.map_none]
  · rw [if_neg taken, if_neg fun held => taken (keys.1 held), insert]
    cases db.task.insert? task with
    | none => rfl
    | some table => rfl

theorem submitTask_view (tenant : caller.isSystem = false) {now : DateTime} {taskUuid : String}
    {args : TaskService.Submission}
    (clear : ClearTask caller.tenantId db
      (taskUuid, TaskService.scopedKey caller args.idempotencyKey)) :
    TaskService.submitTask (some caller) now taskUuid args (view caller.tenantId db) =
      (TaskService.submitTask (some caller) now taskUuid args db).map
        (seen caller.tenantId) := by
  have found : ((TaskService.scopedKey caller args.idempotencyKey).bind fun key =>
        TaskService.findByKey caller key (view caller.tenantId db)) =
      (TaskService.scopedKey caller args.idempotencyKey).bind fun key =>
        TaskService.findByKey caller key db := by
    cases TaskService.scopedKey caller args.idempotencyKey with
    | none => rfl
    | some key => exact findByKey_view tenant key
  have inserted : TaskService.insertTask (args.row caller taskUuid now)
      (view caller.tenantId db) =
        (TaskService.insertTask (args.row caller taskUuid now) db).map (view caller.tenantId) :=
    insertTask_view rfl clear
  simp only [TaskService.submitTask, found, inserted]
  cases (TaskService.scopedKey caller args.idempotencyKey).bind fun key =>
      TaskService.findByKey caller key db with
  | some existing => rfl
  | none =>
      cases TaskService.insertTask (args.row caller taskUuid now) db with
      | some after => rfl
      | none => rfl

/-- A rewrite of a task of the tenant's. -/
theorem updateTask_view (tenantId taskUuid : String) (db : Database) {f : Task → Task}
    (keeps : ∀ task, (f task).taskUuid = task.taskUuid)
    (stays : ∀ task, (f task).tenantId = task.tenantId) :
    view tenantId { db with task := db.task.update taskUuid f keeps } =
      { view tenantId db with task := (view tenantId db).task.update taskUuid f keeps } := by
  have inside : ∀ task ∈ db.task.rows, task.taskUuid = taskUuid →
      decide ((f task).tenantId = tenantId) = decide (task.tenantId = tenantId) :=
    fun _ _ _ => by rw [stays]
  rw [view_task, Table.only_update keeps inside]
  rfl

theorem cancelTask_view (tenant : caller.isSystem = false) (now : DateTime) (taskUuid : String) :
    TaskService.cancelTask (some caller) now taskUuid (view caller.tenantId db) =
      (TaskService.cancelTask (some caller) now taskUuid db).map
        (seen caller.tenantId) := by
  unfold TaskService.cancelTask
  rw [getTask_view tenant]
  cases got : TaskService.getTask (some caller) taskUuid db with
  | error e => rfl
  | ok task =>
      show (if task.status = .cancelled then _ else _) = Except.map _ (if _ then _ else _)
      by_cases cancelled : task.status = .cancelled
      · rw [if_pos cancelled, if_pos cancelled]
        rfl
      · rw [if_neg cancelled, if_neg cancelled]
        cases able : task.cancellable with
        | false => rfl
        | true =>
            have moved := updateTask_view caller.tenantId taskUuid db (Task.taskUuid_cancel now)
              fun _ => rfl
            refine congrArg (fun after => Except.ok (task.cancel now, after)) ?_
            cases task.slotOwner with
            | none => exact moved.symm
            | some workerId => exact moved.symm

theorem retryTask_view (tenant : caller.isSystem = false) (taskUuid : String) :
    TaskService.retryTask (some caller) taskUuid (view caller.tenantId db) =
      (TaskService.retryTask (some caller) taskUuid db).map
        (seen caller.tenantId) := by
  unfold TaskService.retryTask
  rw [getTask_view tenant]
  cases TaskService.getTask (some caller) taskUuid db with
  | error e => rfl
  | ok task =>
      show (task.checkRetry.bind fun _ => _) = Except.map _ (task.checkRetry.bind fun _ => _)
      cases task.checkRetry with
      | error e => rfl
      | ok checked =>
          have moved := updateTask_view caller.tenantId taskUuid db Task.taskUuid_retry fun _ => rfl
          exact congrArg (fun after => Except.ok (task.retry, after)) moved.symm

theorem listTasks_view (tenant : caller.isSystem = false) {collation : Collation}
    (apart : Apart collation caller.tenantId db) (arrangement : Arrangement Task.createdAt)
    (filters : TaskService.TaskFilters) (page pageSize : Int) :
    TaskService.listTasks collation (some caller) filters page pageSize arrangement
        (view caller.tenantId db) =
      TaskService.listTasks collation (some caller) filters page pageSize arrangement db := by
  have matching : TaskService.matching collation caller filters (view caller.tenantId db) =
      TaskService.matching collation caller filters db := by
    refine Table.filter_only fun task member held => decide_eq_true (apart.2 task member ?_)
    simpa [Collation.shows, tenant] using (Bool.and_eq_true_iff.1 held).1
  simp only [TaskService.listTasks, matching]

/-! ## Datasets -/

theorem listDatasets_view (tenant : caller.isSystem = false) {collation : Collation}
    (apart : Apart collation caller.tenantId db) {createdAt : Dataset → DateTime}
    (arrangement : Arrangement createdAt) (filters : DatasetService.DatasetFilters)
    (page pageSize : Int) :
    DatasetService.listDatasets collation (some caller) filters page pageSize arrangement
        (view caller.tenantId db) =
      DatasetService.listDatasets collation (some caller) filters page pageSize arrangement db := by
  have matching : DatasetService.matching collation caller filters (view caller.tenantId db) =
      DatasetService.matching collation caller filters db := by
    refine Table.filter_only fun dataset member held => decide_eq_true (apart.1 dataset member ?_)
    simpa [Collation.shows, tenant] using (Bool.and_eq_true_iff.1 held).1
  simp only [DatasetService.listDatasets, matching]

/-- A change of the dataset table that gives the tenant no rows under a dataset, nor takes any. -/
theorem view_dataset {tenantId : String} {table : Table Dataset Dataset.datasetUuid}
    (indexes : ∀ index ∈ db.vectorIndex.rows,
      owns tenantId { db with dataset := table } index.datasetUuid =
        owns tenantId db index.datasetUuid)
    (policies : ∀ policy ∈ db.lifecyclePolicy.rows,
      owns tenantId { db with dataset := table } policy.datasetUuid =
        owns tenantId db policy.datasetUuid)
    (rules : ∀ rule ∈ db.vectorizationRule.rows,
      owns tenantId { db with dataset := table } rule.datasetUuid =
        owns tenantId db rule.datasetUuid) :
    view tenantId { db with dataset := table } =
      { view tenantId db with
        dataset := table.only fun dataset => dataset.tenantId = tenantId } := by
  unfold view
  simp only
  rw [Table.only_congr indexes, Table.only_congr policies, Table.only_congr rules]

theorem owns_insert {tenantId k : String} {row : Dataset}
    {table : Table Dataset Dataset.datasetUuid} (inserted : db.dataset.insert? row = some table) :
    owns tenantId { db with dataset := table } k =
      (owns tenantId db k || decide (row.datasetUuid = k ∧ row.tenantId = tenantId)) := by
  show table.rows.any _ = _
  rw [(Table.insert?_eq_some inserted).1, List.any_append]
  simp [owns]

theorem insertDataset_view {row : Dataset} (own : row.tenantId = caller.tenantId)
    (datasets : ∀ other ∈ db.dataset.rows, (other.datasetUuid = row.datasetUuid ∨
      (other.catalog, other.dbSchema, other.tableName) =
        (row.catalog, row.dbSchema, row.tableName)) → other.tenantId = caller.tenantId)
    (indexes : ∀ index ∈ db.vectorIndex.rows, index.datasetUuid = row.datasetUuid →
      owns caller.tenantId db row.datasetUuid = true)
    (policies : ∀ policy ∈ db.lifecyclePolicy.rows, policy.datasetUuid = row.datasetUuid →
      owns caller.tenantId db row.datasetUuid = true)
    (rules : ∀ rule ∈ db.vectorizationRule.rows, rule.datasetUuid = row.datasetUuid →
      owns caller.tenantId db row.datasetUuid = true) :
    DatasetService.insertDataset row (view caller.tenantId db) =
      (DatasetService.insertDataset row db).map (view caller.tenantId) := by
  have insert : (view caller.tenantId db).dataset.insert? row = (db.dataset.insert? row).map
      (Table.only · fun dataset => dataset.tenantId = caller.tenantId) :=
    Table.insert?_only (decide_eq_true own) fun other member same =>
      decide_eq_true (datasets other member (.inl same))
  have names : ((view caller.tenantId db).dataset.rows.any fun other =>
        (other.catalog, other.dbSchema, other.tableName) =
          (row.catalog, row.dbSchema, row.tableName)) =
      db.dataset.rows.any fun other =>
        (other.catalog, other.dbSchema, other.tableName) =
          (row.catalog, row.dbSchema, row.tableName) :=
    Table.any_only fun other member same =>
      decide_eq_true (datasets other member (.inr (of_decide_eq_true same)))
  unfold DatasetService.insertDataset
  rw [names, insert]
  split
  · rfl
  · cases inserted : db.dataset.insert? row with
    | none => rfl
    | some table =>
        have same : ∀ k, (k = row.datasetUuid → owns caller.tenantId db row.datasetUuid = true) →
            owns caller.tenantId { db with dataset := table } k = owns caller.tenantId db k := by
          intro k under
          rw [owns_insert inserted]
          by_cases here : k = row.datasetUuid
          · simp [here, under here]
          · have other : ¬ row.datasetUuid = k := fun same => here same.symm
            simp [other]
        simp only [Option.map_some]
        rw [view_dataset (fun index member => same _ (indexes index member))
          (fun policy member => same _ (policies policy member))
          (fun rule member => same _ (rules rule member))]

theorem createDataset_view {datasetUuid : String} {payload : DatasetRegisterRequest}
    (clear : ClearDataset caller.tenantId db (datasetUuid, payload)) :
    DatasetService.createDataset (some caller) datasetUuid payload (view caller.tenantId db) =
      (DatasetService.createDataset (some caller) datasetUuid payload db).map
        (seen caller.tenantId) := by
  obtain ⟨datasets, indexes, policies, rules⟩ := clear
  have inserted : DatasetService.insertDataset (DatasetService.row payload caller datasetUuid)
      (view caller.tenantId db) = _ := insertDataset_view rfl datasets indexes policies rules
  simp only [DatasetService.createDataset, inserted]
  cases DatasetService.insertDataset (DatasetService.row payload caller datasetUuid) db with
  | some after => rfl
  | none => rfl

theorem owns_softDelete (tenantId k datasetUuid : String) (db : Database) :
    owns tenantId { db with
        dataset := db.dataset.update datasetUuid Dataset.softDelete
          Dataset.datasetUuid_softDelete } k = owns tenantId db k := by
  show (db.dataset.rows.map fun dataset =>
    if dataset.datasetUuid = datasetUuid then dataset.softDelete else dataset).any _ = _
  rw [List.any_map]
  refine congrArg (fun p => db.dataset.rows.any p) (funext fun dataset => ?_)
  by_cases hit : dataset.datasetUuid = datasetUuid
  · simp [hit, Dataset.softDelete]
  · simp [hit]

theorem softDelete_view (tenantId datasetUuid : String) (db : Database) :
    view tenantId { db with
        dataset := db.dataset.update datasetUuid Dataset.softDelete
          Dataset.datasetUuid_softDelete } =
      { view tenantId db with
        dataset := (view tenantId db).dataset.update datasetUuid Dataset.softDelete
          Dataset.datasetUuid_softDelete } := by
  have inside : ∀ dataset ∈ db.dataset.rows, dataset.datasetUuid = datasetUuid →
      decide (dataset.softDelete.tenantId = tenantId) = decide (dataset.tenantId = tenantId) :=
    fun _ _ _ => rfl
  rw [view_dataset (fun _ _ => owns_softDelete ..) (fun _ _ => owns_softDelete ..)
    (fun _ _ => owns_softDelete ..), Table.only_update Dataset.datasetUuid_softDelete inside]
  rfl

theorem deleteDataset_view (tenant : caller.isSystem = false) (datasetUuid : String) :
    DatasetService.deleteDataset (some caller) datasetUuid (view caller.tenantId db) =
      (DatasetService.deleteDataset (some caller) datasetUuid db).map (view caller.tenantId) := by
  unfold DatasetService.deleteDataset
  rw [getDataset_view tenant]
  cases DatasetService.getDataset (some caller) datasetUuid db with
  | error e => rfl
  | ok dataset =>
      exact congrArg Except.ok (softDelete_view caller.tenantId datasetUuid db).symm

/-! ## Indexes -/

section Owned

variable {datasetUuid : String} (owned : owns caller.tenantId db datasetUuid = true)

include owned

theorem maybeGetIndex_view (indexName : String) :
    IndexService.maybeGetIndex datasetUuid indexName (view caller.tenantId db) =
      IndexService.maybeGetIndex datasetUuid indexName db :=
  Table.find?_only fun _ _ named => owns_of_same owned (of_decide_eq_true named).1

theorem maybeGetPolicy_view (policyName : String) :
    LifecycleService.maybeGetPolicy datasetUuid policyName (view caller.tenantId db) =
      LifecycleService.maybeGetPolicy datasetUuid policyName db :=
  Table.find?_only fun _ _ named => owns_of_same owned (of_decide_eq_true named).1

theorem maybeGetRule_view (targetColumn : String) :
    VectorizationService.maybeGetRule datasetUuid targetColumn (view caller.tenantId db) =
      VectorizationService.maybeGetRule datasetUuid targetColumn db :=
  Table.find?_only fun _ _ named => owns_of_same owned (of_decide_eq_true named).1

end Owned

theorem getIndex_view (tenant : caller.isSystem = false) (datasetUuid indexName : String) :
    IndexService.getIndex (some caller) datasetUuid indexName (view caller.tenantId db) =
      IndexService.getIndex (some caller) datasetUuid indexName db := by
  simp only [IndexService.getIndex, getDataset_view tenant]
  cases got : DatasetService.getDataset (some caller) datasetUuid db with
  | error e => rfl
  | ok dataset => rw [maybeGetIndex_view (owns_of_getDataset tenant got)]

theorem listIndexes_view (tenant : caller.isSystem = false) (createdAt : Nat → DateTime)
    (datasetUuid : String) :
    IndexService.listIndexes (some caller) createdAt datasetUuid (view caller.tenantId db) =
      IndexService.listIndexes (some caller) createdAt datasetUuid db := by
  simp only [IndexService.listIndexes, getDataset_view tenant]
  cases got : DatasetService.getDataset (some caller) datasetUuid db with
  | error e => rfl
  | ok dataset =>
      have owned := owns_of_getDataset tenant got
      have rows : ((view caller.tenantId db).vectorIndex.rows.filter fun index =>
          index.datasetUuid = datasetUuid) =
            db.vectorIndex.rows.filter fun index => index.datasetUuid = datasetUuid :=
        Table.filter_only fun _ _ same => owns_of_same owned (of_decide_eq_true same)
      simp only [rows]

theorem updateIndex_view (tenantId : String) (id : Nat) (db : Database) {assign : Index → Index}
    (keeps : ∀ index, (assign index).id = index.id)
    (stays : ∀ index, (assign index).datasetUuid = index.datasetUuid) :
    view tenantId (IndexService.updateIndex id assign keeps db) =
      IndexService.updateIndex id assign keeps (view tenantId db) := by
  have inside : ∀ index ∈ db.vectorIndex.rows, index.id = id →
      owns tenantId db (assign index).datasetUuid = owns tenantId db index.datasetUuid :=
    fun _ _ _ => by rw [stays]
  rw [IndexService.updateIndex, view_vectorIndex, Table.only_update keeps inside]
  rfl

theorem clearName_view {args : IndexService.Creation}
    (owned : owns caller.tenantId db args.datasetUuid = true) :
    IndexService.clearName args (view caller.tenantId db) =
      view caller.tenantId (IndexService.clearName args db) := by
  unfold IndexService.clearName
  rw [maybeGetIndex_view owned]
  split
  · cases IndexService.maybeGetIndex args.datasetUuid args.indexName db with
    | none => rfl
    | some existing =>
        exact (congrArg (fun table => { view caller.tenantId db with vectorIndex := table })
          (Table.only_delete db.vectorIndex _ _)).symm
  · rfl

theorem insertIndex_view {index : Index}
    (owned : owns caller.tenantId db index.datasetUuid = true)
    (clear : ∀ other ∈ db.vectorIndex.rows, other.id = index.id →
      owns caller.tenantId db other.datasetUuid = true) :
    IndexService.insertIndex index (view caller.tenantId db) =
      (IndexService.insertIndex index db).map (view caller.tenantId) := by
  have insert : (view caller.tenantId db).vectorIndex.insert? index =
      (db.vectorIndex.insert? index).map
        (Table.only · fun row => owns caller.tenantId db row.datasetUuid) :=
    Table.insert?_only owned clear
  have names : (view caller.tenantId db).vectorIndex.rows.any
        (Index.named index.datasetUuid index.indexName) =
      db.vectorIndex.rows.any (Index.named index.datasetUuid index.indexName) :=
    Table.any_only fun _ _ named => owns_of_same owned (of_decide_eq_true named).1
  unfold IndexService.insertIndex
  rw [names, insert]
  split
  · rfl
  · cases db.vectorIndex.insert? index with
    | none => rfl
    | some table => rfl

theorem createIndex_view (tenant : caller.isSystem = false) {draws : IndexService.Draws}
    {newId : Nat} {args : IndexService.Creation}
    (task : ClearTask caller.tenantId db
      (draws.taskUuid, TaskService.scopedKey caller (args.submission newId).idempotencyKey))
    (row : ClearIndex caller.tenantId db newId) :
    IndexService.createIndex (some caller) draws newId args (view caller.tenantId db) =
      seen caller.tenantId (IndexService.createIndex (some caller) draws newId args db) := by
  simp only [IndexService.createIndex, getDataset_view tenant]
  cases got : DatasetService.getDataset (some caller) args.datasetUuid db with
  | error e => rfl
  | ok dataset =>
      have owned := owns_of_getDataset tenant got
      have cleared : owns caller.tenantId (IndexService.clearName args db) args.datasetUuid =
          true := by
        unfold owns
        rw [IndexService.dataset_clearName]
        exact owned
      have ids : ∀ other ∈ (IndexService.clearName args db).vectorIndex.rows,
          other.id = (args.row newId).id →
            owns caller.tenantId (IndexService.clearName args db) other.datasetUuid = true := by
        intro other member same
        have mine := row other (IndexService.mem_of_clearName member) same
        unfold owns at mine ⊢
        rw [IndexService.dataset_clearName]
        exact mine
      have inserted : IndexService.insertIndex (args.row newId)
          (view caller.tenantId (IndexService.clearName args db)) = _ :=
        insertIndex_view cleared ids
      simp only [clearName_view owned, inserted]
      cases added : IndexService.insertIndex (args.row newId) (IndexService.clearName args db) with
      | none => rfl
      | some after =>
          have tasks : after.task = db.task :=
            (IndexService.insertIndex_task added).trans (IndexService.task_clearName args db)
          have clear : ClearTask caller.tenantId after
              (draws.taskUuid,
                TaskService.scopedKey caller (args.submission newId).idempotencyKey) := by
            unfold ClearTask
            rw [tasks]
            exact task
          simp only [Option.map_some, submitTask_view tenant clear]
          cases TaskService.submitTask (some caller) draws.now draws.taskUuid
              (args.submission newId) after with
          | ok ran => rfl
          | error e =>
              exact congrArg (fun rows => (Except.error (IndexError.submission e), rows))
                (updateIndex_view caller.tenantId newId after
                  (Index.id_giveUp .failed (draws.cause e)) fun _ => rfl).symm

theorem dropIndex_view (tenant : caller.isSystem = false) (datasetUuid indexName : String) :
    IndexService.dropIndex (some caller) datasetUuid indexName (view caller.tenantId db) =
      (IndexService.dropIndex (some caller) datasetUuid indexName db).map
        (view caller.tenantId) := by
  unfold IndexService.dropIndex
  rw [getIndex_view tenant]
  cases IndexService.getIndex (some caller) datasetUuid indexName db with
  | error e => rfl
  | ok index =>
      show (if index.status = .dropped then _ else _) = Except.map _ (if _ then _ else _)
      split
      · rfl
      · exact congrArg Except.ok
          (updateIndex_view caller.tenantId index.id db Index.id_drop fun _ => rfl).symm

theorem optimizeIndex_view (tenant : caller.isSystem = false) {draws : IndexService.Draws}
    {datasetUuid indexName : String}
    (task : ∀ index, IndexService.maybeGetIndex datasetUuid indexName db = some index →
      ClearTask caller.tenantId db (draws.taskUuid, TaskService.scopedKey caller
        (IndexService.optimizeSubmission datasetUuid indexName index.id
          draws.now).idempotencyKey)) :
    IndexService.optimizeIndex (some caller) draws datasetUuid indexName (view caller.tenantId db) =
      seen caller.tenantId
        (IndexService.optimizeIndex (some caller) draws datasetUuid indexName db) := by
  simp only [IndexService.optimizeIndex, getIndex_view tenant]
  cases got : IndexService.getIndex (some caller) datasetUuid indexName db with
  | error e => rfl
  | ok index =>
      simp only
      split
      · rfl
      · have clear := task index (IndexService.getIndex_eq_ok got).2
        have flipped := updateIndex_view caller.tenantId index.id db
          (Index.id_startOptimize draws.now) fun _ => rfl
        have submitted : TaskService.submitTask (some caller) draws.now draws.taskUuid
            (IndexService.optimizeSubmission datasetUuid indexName index.id draws.now)
            (view caller.tenantId (IndexService.updateIndex index.id
              (Index.startOptimize draws.now) (Index.id_startOptimize draws.now) db)) = _ :=
          submitTask_view tenant clear
        rw [flipped] at submitted
        rw [submitted]
        cases TaskService.submitTask (some caller) draws.now draws.taskUuid
            (IndexService.optimizeSubmission datasetUuid indexName index.id draws.now)
            (IndexService.updateIndex index.id (Index.startOptimize draws.now)
              (Index.id_startOptimize draws.now) db) with
        | ok ran => rfl
        | error e =>
            refine congrArg (fun rows => (Except.error (IndexError.submission e), rows)) ?_
            rw [← flipped]
            exact (updateIndex_view caller.tenantId index.id _
              (Index.id_giveUp .ready (draws.cause e)) fun _ => rfl).symm

theorem mergeIndex_view (tenant : caller.isSystem = false) (now : DateTime)
    (datasetUuid indexName : String) :
    IndexService.mergeIndex (some caller) now datasetUuid indexName (view caller.tenantId db) =
      (IndexService.mergeIndex (some caller) now datasetUuid indexName db).map
        (view caller.tenantId) := by
  unfold IndexService.mergeIndex
  rw [getIndex_view tenant]
  cases IndexService.getIndex (some caller) datasetUuid indexName db with
  | error e => rfl
  | ok index =>
      show (if index.status ≠ .ready then _ else _) = Except.map _ (if _ then _ else _)
      split
      · rfl
      · exact congrArg Except.ok
          (updateIndex_view caller.tenantId index.id db (Index.id_startMerge now) fun _ => rfl).symm

/-! ## Policies -/

theorem getPolicy_view (tenant : caller.isSystem = false) (datasetUuid policyName : String) :
    LifecycleService.getPolicy (some caller) datasetUuid policyName (view caller.tenantId db) =
      LifecycleService.getPolicy (some caller) datasetUuid policyName db := by
  simp only [LifecycleService.getPolicy, getDataset_view tenant]
  cases got : DatasetService.getDataset (some caller) datasetUuid db with
  | error e => rfl
  | ok dataset => rw [maybeGetPolicy_view (owns_of_getDataset tenant got)]

theorem listPolicies_view (tenant : caller.isSystem = false) (createdAt : Nat → DateTime)
    (datasetUuid : String) :
    LifecycleService.listPolicies (some caller) createdAt datasetUuid (view caller.tenantId db) =
      LifecycleService.listPolicies (some caller) createdAt datasetUuid db := by
  simp only [LifecycleService.listPolicies, getDataset_view tenant]
  cases got : DatasetService.getDataset (some caller) datasetUuid db with
  | error e => rfl
  | ok dataset =>
      have owned := owns_of_getDataset tenant got
      have rows : ((view caller.tenantId db).lifecyclePolicy.rows.filter fun policy =>
          policy.datasetUuid = datasetUuid) =
            db.lifecyclePolicy.rows.filter fun policy => policy.datasetUuid = datasetUuid :=
        Table.filter_only fun _ _ same => owns_of_same owned (of_decide_eq_true same)
      simp only [rows]

theorem updatePolicyRow_view (tenantId : String) (id : Nat) (db : Database)
    {assign : LifecyclePolicy → LifecyclePolicy} (keeps : ∀ policy, (assign policy).id = policy.id)
    (stays : ∀ policy, (assign policy).datasetUuid = policy.datasetUuid) :
    view tenantId { db with lifecyclePolicy := db.lifecyclePolicy.update id assign keeps } =
      { view tenantId db with
        lifecyclePolicy := (view tenantId db).lifecyclePolicy.update id assign keeps } := by
  have inside : ∀ policy ∈ db.lifecyclePolicy.rows, policy.id = id →
      owns tenantId db (assign policy).datasetUuid = owns tenantId db policy.datasetUuid :=
    fun _ _ _ => by rw [stays]
  rw [view_lifecyclePolicy, Table.only_update keeps inside]
  rfl

theorem insertPolicy_view {policy : LifecyclePolicy}
    (owned : owns caller.tenantId db policy.datasetUuid = true)
    (clear : ∀ other ∈ db.lifecyclePolicy.rows, other.id = policy.id →
      owns caller.tenantId db other.datasetUuid = true) :
    LifecycleService.insertPolicy policy (view caller.tenantId db) =
      (LifecycleService.insertPolicy policy db).map (view caller.tenantId) := by
  have insert : (view caller.tenantId db).lifecyclePolicy.insert? policy =
      (db.lifecyclePolicy.insert? policy).map
        (Table.only · fun row => owns caller.tenantId db row.datasetUuid) :=
    Table.insert?_only owned clear
  have names : (view caller.tenantId db).lifecyclePolicy.rows.any
        (LifecyclePolicy.named policy.datasetUuid policy.policyName) =
      db.lifecyclePolicy.rows.any (LifecyclePolicy.named policy.datasetUuid policy.policyName) :=
    Table.any_only fun _ _ named => owns_of_same owned (of_decide_eq_true named).1
  unfold LifecycleService.insertPolicy
  rw [names, insert]
  split
  · rfl
  · cases db.lifecyclePolicy.insert? policy with
    | none => rfl
    | some table => rfl

theorem createPolicy_view (tenant : caller.isSystem = false) {newId : Nat} {datasetUuid : String}
    {payload : PolicyCreateRequest} (row : ClearPolicy caller.tenantId db newId) :
    LifecycleService.createPolicy (some caller) newId datasetUuid payload
        (view caller.tenantId db) =
      (LifecycleService.createPolicy (some caller) newId datasetUuid payload db).map
        (seen caller.tenantId) := by
  simp only [LifecycleService.createPolicy, getDataset_view tenant]
  cases got : DatasetService.getDataset (some caller) datasetUuid db with
  | error e => rfl
  | ok dataset =>
      have owned := owns_of_getDataset tenant got
      have inserted : LifecycleService.insertPolicy
          (LifecycleService.insertedRow datasetUuid payload newId) (view caller.tenantId db) = _ :=
        insertPolicy_view owned row
      simp only [inserted]
      cases LifecycleService.insertPolicy
          (LifecycleService.insertedRow datasetUuid payload newId) db with
      | none => rfl
      | some after => rfl

theorem updatePolicy_view (tenant : caller.isSystem = false) (datasetUuid policyName : String)
    (payload : PolicyUpdateRequest) :
    LifecycleService.updatePolicy (some caller) datasetUuid policyName payload
        (view caller.tenantId db) =
      (LifecycleService.updatePolicy (some caller) datasetUuid policyName payload db).map
        (seen caller.tenantId) := by
  simp only [LifecycleService.updatePolicy, getPolicy_view tenant]
  cases LifecycleService.getPolicy (some caller) datasetUuid policyName db with
  | error e => rfl
  | ok policy =>
      simp only
      cases policy.patch payload with
      | none => rfl
      | some patched =>
          refine congrArg (fun after => Except.ok (patched, after))
            (updatePolicyRow_view caller.tenantId policy.id db (LifecyclePolicy.id_patch payload)
              fun row => ?_).symm
          cases assigned : row.patch payload with
          | none => rfl
          | some other => exact (LifecyclePolicy.patch_eq_some assigned).2

theorem deletePolicy_view (tenant : caller.isSystem = false) (datasetUuid policyName : String) :
    LifecycleService.deletePolicy (some caller) datasetUuid policyName (view caller.tenantId db) =
      (LifecycleService.deletePolicy (some caller) datasetUuid policyName db).map
        (view caller.tenantId) := by
  simp only [LifecycleService.deletePolicy, getPolicy_view tenant]
  cases LifecycleService.getPolicy (some caller) datasetUuid policyName db with
  | error e => rfl
  | ok policy =>
      exact congrArg
        (fun table => Except.ok { view caller.tenantId db with lifecyclePolicy := table })
        (Table.only_delete db.lifecyclePolicy _ _).symm

theorem setPolicyEnabled_view (tenant : caller.isSystem = false) (datasetUuid policyName : String)
    (enabled : Bool) :
    LifecycleService.setEnabled (some caller) datasetUuid policyName enabled
        (view caller.tenantId db) =
      (LifecycleService.setEnabled (some caller) datasetUuid policyName enabled db).map
        (seen caller.tenantId) := by
  simp only [LifecycleService.setEnabled, getPolicy_view tenant]
  cases LifecycleService.getPolicy (some caller) datasetUuid policyName db with
  | error e => rfl
  | ok policy =>
      simp only
      split
      · exact congrArg (fun after => Except.ok (policy.setEnabled enabled, after))
          (updatePolicyRow_view caller.tenantId policy.id db (LifecyclePolicy.id_setEnabled enabled)
            fun _ => rfl).symm
      · rfl

/-! ## Rules -/

theorem getRule_view (tenant : caller.isSystem = false) (datasetUuid targetColumn : String) :
    VectorizationService.getRule (some caller) datasetUuid targetColumn
        (view caller.tenantId db) =
      VectorizationService.getRule (some caller) datasetUuid targetColumn db := by
  simp only [VectorizationService.getRule, getDataset_view tenant]
  cases got : DatasetService.getDataset (some caller) datasetUuid db with
  | error e => rfl
  | ok dataset => rw [maybeGetRule_view (owns_of_getDataset tenant got)]

theorem listRules_view (tenant : caller.isSystem = false) (createdAt : Nat → DateTime)
    (datasetUuid : String) :
    VectorizationService.listRules (some caller) createdAt datasetUuid (view caller.tenantId db) =
      VectorizationService.listRules (some caller) createdAt datasetUuid db := by
  simp only [VectorizationService.listRules, getDataset_view tenant]
  cases got : DatasetService.getDataset (some caller) datasetUuid db with
  | error e => rfl
  | ok dataset =>
      have owned := owns_of_getDataset tenant got
      have rows : ((view caller.tenantId db).vectorizationRule.rows.filter fun rule =>
          rule.datasetUuid = datasetUuid) =
            db.vectorizationRule.rows.filter fun rule => rule.datasetUuid = datasetUuid :=
        Table.filter_only fun _ _ same => owns_of_same owned (of_decide_eq_true same)
      simp only [rows]

theorem updateRuleRow_view (tenantId : String) (id : Nat) (db : Database)
    {assign : VectorizationRule → VectorizationRule} (keeps : ∀ rule, (assign rule).id = rule.id)
    (stays : ∀ rule, (assign rule).datasetUuid = rule.datasetUuid) :
    view tenantId { db with vectorizationRule := db.vectorizationRule.update id assign keeps } =
      { view tenantId db with
        vectorizationRule := (view tenantId db).vectorizationRule.update id assign keeps } := by
  have inside : ∀ rule ∈ db.vectorizationRule.rows, rule.id = id →
      owns tenantId db (assign rule).datasetUuid = owns tenantId db rule.datasetUuid :=
    fun _ _ _ => by rw [stays]
  rw [view_vectorizationRule, Table.only_update keeps inside]
  rfl

theorem insertRule_view {rule : VectorizationRule}
    (owned : owns caller.tenantId db rule.datasetUuid = true)
    (clear : ∀ other ∈ db.vectorizationRule.rows, other.id = rule.id →
      owns caller.tenantId db other.datasetUuid = true) :
    VectorizationService.insertRule rule (view caller.tenantId db) =
      (VectorizationService.insertRule rule db).map (view caller.tenantId) := by
  have insert : (view caller.tenantId db).vectorizationRule.insert? rule =
      (db.vectorizationRule.insert? rule).map
        (Table.only · fun row => owns caller.tenantId db row.datasetUuid) :=
    Table.insert?_only owned clear
  have names : (view caller.tenantId db).vectorizationRule.rows.any
        (VectorizationRule.named rule.datasetUuid rule.targetColumn) =
      db.vectorizationRule.rows.any (VectorizationRule.named rule.datasetUuid rule.targetColumn) :=
    Table.any_only fun _ _ named => owns_of_same owned (of_decide_eq_true named).1
  unfold VectorizationService.insertRule
  rw [names, insert]
  split
  · rfl
  · cases db.vectorizationRule.insert? rule with
    | none => rfl
    | some table => rfl

theorem createRule_view (tenant : caller.isSystem = false) {newId : Nat} {datasetUuid : String}
    {payload : RuleCreateRequest} (row : ClearRule caller.tenantId db newId) :
    VectorizationService.createRule (some caller) newId datasetUuid payload
        (view caller.tenantId db) =
      (VectorizationService.createRule (some caller) newId datasetUuid payload db).map
        (seen caller.tenantId) := by
  simp only [VectorizationService.createRule, getDataset_view tenant]
  cases got : DatasetService.getDataset (some caller) datasetUuid db with
  | error e => rfl
  | ok dataset =>
      have owned := owns_of_getDataset tenant got
      have inserted : VectorizationService.insertRule
          (VectorizationService.row datasetUuid payload newId) (view caller.tenantId db) = _ :=
        insertRule_view owned row
      simp only [inserted]
      cases VectorizationService.insertRule (VectorizationService.row datasetUuid payload newId)
          db with
      | none => rfl
      | some after => rfl

theorem updateRule_view (tenant : caller.isSystem = false) (datasetUuid targetColumn : String)
    (payload : RuleUpdateRequest) :
    VectorizationService.updateRule (some caller) datasetUuid targetColumn payload
        (view caller.tenantId db) =
      (VectorizationService.updateRule (some caller) datasetUuid targetColumn payload db).map
        (seen caller.tenantId) := by
  simp only [VectorizationService.updateRule, getRule_view tenant]
  cases VectorizationService.getRule (some caller) datasetUuid targetColumn db with
  | error e => rfl
  | ok rule =>
      simp only
      split
      · rfl
      · cases rule.patch payload with
        | none => rfl
        | some patched =>
            refine congrArg (fun after => Except.ok (patched, after))
              (updateRuleRow_view caller.tenantId rule.id db (VectorizationRule.id_patch payload)
                fun row => ?_).symm
            cases assigned : row.patch payload with
            | none => rfl
            | some other => exact (VectorizationRule.patch_eq_some assigned).2

theorem deleteRule_view (tenant : caller.isSystem = false) (datasetUuid targetColumn : String) :
    VectorizationService.deleteRule (some caller) datasetUuid targetColumn
        (view caller.tenantId db) =
      (VectorizationService.deleteRule (some caller) datasetUuid targetColumn db).map
        (view caller.tenantId) := by
  simp only [VectorizationService.deleteRule, getRule_view tenant]
  cases VectorizationService.getRule (some caller) datasetUuid targetColumn db with
  | error e => rfl
  | ok rule =>
      exact congrArg
        (fun table => Except.ok { view caller.tenantId db with vectorizationRule := table })
        (Table.only_delete db.vectorizationRule _ _).symm

theorem setRuleEnabled_view (tenant : caller.isSystem = false) (datasetUuid targetColumn : String)
    (enabled : Bool) :
    VectorizationService.setEnabled (some caller) datasetUuid targetColumn enabled
        (view caller.tenantId db) =
      (VectorizationService.setEnabled (some caller) datasetUuid targetColumn enabled db).map
        (seen caller.tenantId) := by
  simp only [VectorizationService.setEnabled, getRule_view tenant]
  cases VectorizationService.getRule (some caller) datasetUuid targetColumn db with
  | error e => rfl
  | ok rule =>
      simp only
      split
      · exact congrArg (fun after => Except.ok (rule.setEnabled enabled, after))
          (updateRuleRow_view caller.tenantId rule.id db (VectorizationRule.id_setEnabled enabled)
            fun _ => rfl).symm
      · rfl

theorem maybeGetRule_of_getRule {datasetUuid targetColumn : String} {rule : VectorizationRule}
    (got : VectorizationService.getRule (some caller) datasetUuid targetColumn db = .ok rule) :
    VectorizationService.maybeGetRule datasetUuid targetColumn db = some rule := by
  unfold VectorizationService.getRule at got
  split at got
  · cases got
  · split at got
    · cases got
    · rename_i found
      cases got
      exact found

theorem submitVectorizeTask_view (tenant : caller.isSystem = false) {now : DateTime}
    {taskUuid datasetUuid targetColumn : String}
    (task : ∀ rule, VectorizationService.maybeGetRule datasetUuid targetColumn db = some rule →
      ClearTask caller.tenantId db (taskUuid, TaskService.scopedKey caller
        (VectorizationService.vectorizeSubmission datasetUuid targetColumn rule).idempotencyKey)) :
    VectorizationService.submitVectorizeTask (some caller) now taskUuid datasetUuid targetColumn
        (view caller.tenantId db) =
      (VectorizationService.submitVectorizeTask (some caller) now taskUuid datasetUuid targetColumn
        db).map (seen caller.tenantId) := by
  simp only [VectorizationService.submitVectorizeTask, getRule_view tenant]
  cases got : VectorizationService.getRule (some caller) datasetUuid targetColumn db with
  | error e => rfl
  | ok rule =>
      simp only
      split
      · rfl
      · have clear := task rule (maybeGetRule_of_getRule got)
        rw [submitTask_view tenant clear]
        cases TaskService.submitTask (some caller) now taskUuid
            (VectorizationService.vectorizeSubmission datasetUuid targetColumn rule) db with
        | ok ran => rfl
        | error e => rfl

end Own

end Lcp.TenantRequests
