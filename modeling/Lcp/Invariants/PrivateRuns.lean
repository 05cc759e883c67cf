/-
# Invariants.PrivateRuns -- a tenant in a shared deployment

Many tenants send requests to one deployment over one database.  What a tenant learns from
the answers to its own requests should not depend on the others, not on their rows and not
on what they do.

* `separates`: a tenant's request answers on its own part of the database as on the whole;
  another tenant's request leaves that part alone.
* `private_deployment`: so in every run, in every order of the requests, a tenant receives
  the answers that a deployment of its own would give it, and its part of the shared
  database is the database of that deployment.

The condition is that no request runs into a UNIQUE key that a row of another tenant has.
`name_taken` shows that this is needed: dataset names are UNIQUE across tenants, so a
tenant can ask for the names of the others.
-/
import Lcp.Invariants.TenantViews
import Lcp.Theory.Noninterference

namespace Lcp.TenantRequests

open Theory
open ChildTables (Call Confined Owns)
open Rls (Collation)

set_option autoImplicit false

/-! ## A tenant's own requests -/

section Own

variable {caller : TenantPrincipal} {db : Database} {ε α : Type}

theorem answered_view (wrap : Except ε α → Answer) (tenantId : String)
    (ran : Except ε (α × Database)) :
    answered wrap (view tenantId db) (ran.map (seen tenantId)) =
      seen tenantId (answered wrap db ran) := by
  cases ran <;> rfl

theorem done_view (wrap : Except ε Unit → Answer) (tenantId : String) (ran : Except ε Database) :
    done wrap (view tenantId db) (ran.map (view tenantId)) = seen tenantId (done wrap db ran) := by
  cases ran <;> rfl

theorem respondChild_view (tenant : caller.isSystem = false) {collation : Collation} {call : Call}
    (clear : Clear collation caller db (.child call)) :
    respondChild (some caller) (view caller.tenantId db) call =
      seen caller.tenantId (respondChild (some caller) db call) := by
  cases call with
  | createIndex draws newId args =>
      simp only [respondChild, createIndex_view tenant (clear.task _ rfl) (clear.index _ rfl)]
      rfl
  | getIndex datasetUuid indexName =>
      simp only [respondChild, getIndex_view tenant]
      rfl
  | listIndexes createdAt datasetUuid =>
      simp only [respondChild, listIndexes_view tenant]
      rfl
  | dropIndex datasetUuid indexName =>
      simp only [respondChild, dropIndex_view tenant, done_view]
  | optimizeIndex draws datasetUuid indexName =>
      have task : ∀ index, IndexService.maybeGetIndex datasetUuid indexName db = some index →
          ClearTask caller.tenantId db (draws.taskUuid, TaskService.scopedKey caller
            (IndexService.optimizeSubmission datasetUuid indexName index.id
              draws.now).idempotencyKey) := by
        intro index found
        refine clear.task _ ?_
        simp [newTask, found]
      simp only [respondChild, optimizeIndex_view tenant task]
      rfl
  | mergeIndex now datasetUuid indexName =>
      simp only [respondChild, mergeIndex_view tenant, done_view]
  | createPolicy newId datasetUuid payload =>
      simp only [respondChild, createPolicy_view tenant (clear.policy _ rfl), answered_view]
  | getPolicy datasetUuid policyName =>
      simp only [respondChild, getPolicy_view tenant]
      rfl
  | listPolicies createdAt datasetUuid =>
      simp only [respondChild, listPolicies_view tenant]
      rfl
  | updatePolicy datasetUuid policyName payload =>
      simp only [respondChild, updatePolicy_view tenant, answered_view]
  | deletePolicy datasetUuid policyName =>
      simp only [respondChild, deletePolicy_view tenant, done_view]
  | setPolicyEnabled datasetUuid policyName enabled =>
      simp only [respondChild, setPolicyEnabled_view tenant, answered_view]
  | createRule newId datasetUuid payload =>
      simp only [respondChild, createRule_view tenant (clear.rule _ rfl), answered_view]
  | getRule datasetUuid targetColumn =>
      simp only [respondChild, getRule_view tenant]
      rfl
  | listRules createdAt datasetUuid =>
      simp only [respondChild, listRules_view tenant]
      rfl
  | updateRule datasetUuid targetColumn payload =>
      simp only [respondChild, updateRule_view tenant, answered_view]
  | deleteRule datasetUuid targetColumn =>
      simp only [respondChild, deleteRule_view tenant, done_view]
  | setRuleEnabled datasetUuid targetColumn enabled =>
      simp only [respondChild, setRuleEnabled_view tenant, answered_view]
  | submitVectorizeTask now taskUuid datasetUuid targetColumn =>
      have task : ∀ rule,
          VectorizationService.maybeGetRule datasetUuid targetColumn db = some rule →
          ClearTask caller.tenantId db (taskUuid, TaskService.scopedKey caller
            (VectorizationService.vectorizeSubmission datasetUuid targetColumn
              rule).idempotencyKey) := by
        intro rule found
        refine clear.task _ ?_
        simp [newTask, found]
      simp only [respondChild, submitVectorizeTask_view tenant task, answered_view]

/-- **A tenant's request answers on its part of the database as on the whole.** -/
theorem respond_view (tenant : caller.isSystem = false) {collation : Collation} {request : Request}
    (clear : Clear collation caller db request) :
    respond collation (some caller) (view caller.tenantId db) request =
      seen caller.tenantId (respond collation (some caller) db request) := by
  cases request with
  | createDataset datasetUuid payload =>
      simp only [respond, createDataset_view (clear.dataset _ rfl), answered_view]
  | getDataset datasetUuid =>
      simp only [respond, getDataset_view tenant]
      rfl
  | listDatasets createdAt arrangement filters page pageSize =>
      simp only [respond, listDatasets_view tenant clear.apart]
      rfl
  | deleteDataset datasetUuid => simp only [respond, deleteDataset_view tenant, done_view]
  | submitTask now taskUuid request =>
      have task : ClearTask caller.tenantId db (taskUuid, TaskService.scopedKey caller
          (TaskService.routerSubmission request).idempotencyKey) := clear.task _ rfl
      simp only [respond, submitTask_view tenant task, answered_view]
  | getTask taskUuid =>
      simp only [respond, getTask_view tenant]
      rfl
  | listTasks arrangement filters page pageSize =>
      simp only [respond, listTasks_view tenant clear.apart]
      rfl
  | cancelTask now taskUuid => simp only [respond, cancelTask_view tenant, answered_view]
  | retryTask taskUuid => simp only [respond, retryTask_view tenant, answered_view]
  | child call => exact respondChild_view tenant clear

end Own

/-! ## The requests of others -/

section Others

variable {caller : TenantPrincipal} {tenantId : String} {db after : Database}

theorem createDataset_outside (other : caller.tenantId ≠ tenantId) {datasetUuid : String}
    {payload : DatasetRegisterRequest} {answer : Dataset}
    (ran : DatasetService.createDataset (some caller) datasetUuid payload db =
      .ok (answer, after)) : view tenantId after = view tenantId db := by
  obtain ⟨_, table, same, rfl, inserted, rfl⟩ := DatasetService.createDataset_cases ran
  obtain rfl := Option.some.inj same
  have foreign : ¬ (DatasetService.row payload caller datasetUuid).tenantId = tenantId := other
  have kept : ∀ k, owns tenantId { db with dataset := table } k = owns tenantId db k := by
    intro k
    rw [owns_insert inserted]
    simp [foreign]
  rw [view_dataset (fun _ _ => kept _) (fun _ _ => kept _) (fun _ _ => kept _),
    Table.only_insert?_outside inserted (decide_eq_false foreign)]
  rfl

theorem deleteDataset_outside (tenant : caller.isSystem = false)
    (other : caller.tenantId ≠ tenantId) {datasetUuid : String}
    (ran : DatasetService.deleteDataset (some caller) datasetUuid db = .ok after) :
    view tenantId after = view tenantId db := by
  obtain ⟨dataset, got, rfl⟩ := DatasetService.deleteDataset_cases ran
  obtain ⟨found, -, _, same, sees⟩ := DatasetService.getDataset_eq_ok got
  obtain rfl := Option.some.inj same
  obtain ⟨member, uuid⟩ := Table.get_eq_some.1 found
  have foreign : ∀ row ∈ db.dataset.rows, row.datasetUuid = datasetUuid →
      ¬ row.tenantId = tenantId := by
    intro row inTable hit
    obtain rfl := Table.eq_of_key_eq inTable member (hit.trans uuid.symm)
    rw [(sees_iff tenant _).1 sees]
    exact other
  rw [view_dataset (fun _ _ => owns_softDelete ..) (fun _ _ => owns_softDelete ..)
    (fun _ _ => owns_softDelete ..), Table.only_update_outside Dataset.datasetUuid_softDelete
    fun row inTable hit => ⟨decide_eq_false (foreign row inTable hit),
      decide_eq_false (foreign row inTable hit)⟩]
  rfl

/-- A rewrite of a task that is not the tenant's. -/
theorem updateTask_outside {taskUuid : String} {task : Task} {f : Task → Task}
    (keeps : ∀ task, (f task).taskUuid = task.taskUuid)
    (stays : ∀ task, (f task).tenantId = task.tenantId)
    (found : db.task.get taskUuid = some task) (foreign : ¬ task.tenantId = tenantId) :
    view tenantId { db with task := db.task.update taskUuid f keeps } = view tenantId db := by
  obtain ⟨member, uuid⟩ := Table.get_eq_some.1 found
  rw [view_task, Table.only_update_outside keeps]
  · rfl
  · intro row inTable hit
    obtain rfl := Table.eq_of_key_eq inTable member (hit.trans uuid.symm)
    exact ⟨decide_eq_false foreign, decide_eq_false fun same => foreign (stays row ▸ same)⟩

theorem submitTask_outside (other : caller.tenantId ≠ tenantId) {now : DateTime}
    {taskUuid : String} {args : TaskService.Submission} {answer : Task × Bool}
    (ran : TaskService.submitTask (some caller) now taskUuid args db = .ok (answer, after)) :
    view tenantId after = view tenantId db := by
  obtain ⟨_, same, ⟨-, rfl, -⟩ | ⟨-, -, inserted⟩⟩ := TaskService.submitTask_cases ran
  · rfl
  · obtain rfl := Option.some.inj same
    obtain ⟨table, added, rfl, -⟩ := TaskService.insertTask_eq_some inserted
    rw [view_task, Table.only_insert?_outside added (decide_eq_false other)]
    rfl

theorem cancelTask_outside (tenant : caller.isSystem = false) (other : caller.tenantId ≠ tenantId)
    {now : DateTime} {taskUuid : String} {answer : Task}
    (ran : TaskService.cancelTask (some caller) now taskUuid db = .ok (answer, after)) :
    view tenantId after = view tenantId db := by
  obtain ⟨task, got, ⟨-, rfl⟩ | ⟨-, rfl⟩⟩ := TaskService.cancelTask_cases ran
  · rfl
  · obtain ⟨found, own⟩ := tenantId_of_getTask tenant got
    exact updateTask_outside (Task.taskUuid_cancel now) (fun _ => rfl) found (own ▸ other)

theorem retryTask_outside (tenant : caller.isSystem = false) (other : caller.tenantId ≠ tenantId)
    {taskUuid : String} {answer : Task}
    (ran : TaskService.retryTask (some caller) taskUuid db = .ok (answer, after)) :
    view tenantId after = view tenantId db := by
  obtain ⟨task, got, -, -, rfl⟩ := TaskService.retryTask_cases ran
  obtain ⟨found, own⟩ := tenantId_of_getTask tenant got
  exact updateTask_outside Task.taskUuid_retry (fun _ => rfl) found (own ▸ other)

/-- Under the datasets of others, and in their tasks. -/
theorem view_of_confined {datasetUuid : String} (other : caller.tenantId ≠ tenantId)
    (owner : Owns caller.tenantId datasetUuid db)
    (confined : Confined caller.tenantId datasetUuid db after) :
    view tenantId after = view tenantId db := by
  have owned : ∀ k, owns tenantId after k = owns tenantId db k := fun k => by
    unfold owns
    rw [confined.dataset]
  have apart : ∀ k, owns tenantId db k = true → decide (k ≠ datasetUuid) = true := by
    intro k mine
    obtain ⟨row, inTable, held⟩ := List.any_eq_true.1 mine
    obtain ⟨hit, tenant⟩ := of_decide_eq_true held
    obtain ⟨dataset, member, uuid, theirs, -⟩ := owner
    refine decide_eq_true fun same => other ?_
    obtain rfl := Table.eq_of_key_eq inTable member (hit.trans (same.trans uuid.symm))
    exact theirs.symm.trans tenant
  have tasks : ∀ task : Task, decide (task.tenantId = tenantId) = true →
      decide (task.tenantId ≠ caller.tenantId) = true := by
    intro task mine
    exact decide_eq_true fun theirs => other (theirs.symm.trans (of_decide_eq_true mine))
  unfold view
  simp only [owned]
  rw [confined.dataset, Table.only_eq_of_filter tasks confined.task,
    Table.only_eq_of_filter (fun _ => apart _) confined.vectorIndex,
    Table.only_eq_of_filter (fun _ => apart _) confined.lifecyclePolicy,
    Table.only_eq_of_filter (fun _ => apart _) confined.vectorizationRule]

theorem answered_outside {ε α : Type} {wrap : Except ε α → Answer} {ran : Except ε (α × Database)}
    (kept : ∀ answer after, ran = .ok (answer, after) → view tenantId after = view tenantId db) :
    view tenantId (answered wrap db ran).2 = view tenantId db := by
  cases ran with
  | error e => rfl
  | ok result => exact kept _ _ rfl

theorem done_outside {ε : Type} {wrap : Except ε Unit → Answer} {ran : Except ε Database}
    (kept : ∀ after, ran = .ok after → view tenantId after = view tenantId db) :
    view tenantId (done wrap db ran).2 = view tenantId db := by
  cases ran with
  | error e => rfl
  | ok after => exact kept _ rfl

theorem respondChild_rows (principal : Option TenantPrincipal) (db : Database) (call : Call) :
    (respondChild principal db call).2 = (call.run principal db).2 := by
  have plain : ∀ {ε α : Type} (wrap : Except ε α → Answer) (error : ε → ChildTables.ServiceError)
      (ran : Except ε (α × Database)),
      (answered wrap db ran).2 = (Call.commit error db (ran.map (·.2))).2 := by
    intro ε α wrap error ran
    cases ran <;> rfl
  have quiet : ∀ {ε : Type} (wrap : Except ε Unit → Answer) (error : ε → ChildTables.ServiceError)
      (ran : Except ε Database), (done wrap db ran).2 = (Call.commit error db ran).2 := by
    intro ε wrap error ran
    cases ran <;> rfl
  have reads : ∀ {ε α : Type} (error : ε → ChildTables.ServiceError) (ran : Except ε α),
      db = (Call.read error db ran).2 := by
    intro ε α error ran
    cases ran <;> rfl
  cases call
  case createIndex | optimizeIndex => rfl
  case getIndex | listIndexes | getPolicy | listPolicies | getRule | listRules => exact reads ..
  case dropIndex | mergeIndex | deletePolicy | deleteRule => exact quiet ..
  all_goals exact plain ..

/-- **Another tenant's request leaves the tenant's part alone.** -/
theorem respond_outside (tenant : caller.isSystem = false) (other : caller.tenantId ≠ tenantId)
    (collation : Collation) (request : Request) :
    view tenantId (respond collation (some caller) db request).2 = view tenantId db := by
  cases request with
  | createDataset datasetUuid payload =>
      exact answered_outside fun _ _ ran => createDataset_outside other ran
  | getDataset datasetUuid => rfl
  | listDatasets createdAt arrangement filters page pageSize => rfl
  | deleteDataset datasetUuid =>
      exact done_outside fun _ ran => deleteDataset_outside tenant other ran
  | submitTask now taskUuid request =>
      exact answered_outside fun _ _ ran => submitTask_outside other ran
  | getTask taskUuid => rfl
  | listTasks arrangement filters page pageSize => rfl
  | cancelTask now taskUuid =>
      exact answered_outside fun _ _ ran => cancelTask_outside tenant other ran
  | retryTask taskUuid => exact answered_outside fun _ _ ran => retryTask_outside tenant other ran
  | child call =>
      show view tenantId (respondChild (some caller) db call).2 = _
      rw [respondChild_rows]
      by_cases owner : Owns caller.tenantId call.datasetUuid db
      · exact view_of_confined other owner (ChildTables.confined caller call db)
      · obtain ⟨e, refused, -⟩ := ChildTables.refused tenant call owner
        rw [refused]

end Others

/-! ## Runs -/

/-- The deployment: requests under the principals of their tokens. -/
def deployment (collation : Collation) : Service Database (TenantPrincipal × Request) Answer where
  call db sent := respond collation (some sent.1) db sent.2

/-- No system caller, and nothing in the way. -/
def Admitted (collation : Collation) (db : Database) (sent : TenantPrincipal × Request) : Prop :=
  sent.1.isSystem = false ∧ Clear collation sent.1 db sent.2

instance (collation : Collation) (db : Database) (sent : TenantPrincipal × Request) :
    Decidable (Admitted collation db sent) := instDecidableAnd

/-- The requests of a tenant. -/
def sentBy (tenantId : String) (sent : TenantPrincipal × Request) : Bool :=
  sent.1.tenantId = tenantId

theorem separates (collation : Collation) (tenantId : String) :
    (deployment collation).Separates (sentBy tenantId) (view tenantId) (Admitted collation) where
  own db sent admitted mine := by
    obtain ⟨tenant, clear⟩ := admitted
    have same : sent.1.tenantId = tenantId := of_decide_eq_true mine
    subst same
    exact respond_view tenant clear
  others db sent admitted theirs :=
    respond_outside admitted.1 (of_decide_eq_false theirs) collation sent.2

/-- **A tenant in a shared deployment** receives the answers of a deployment of its own over
its part of the database, and its part stays the database of that deployment. -/
theorem private_deployment (collation : Collation) (tenantId : String) (db : Database)
    (requests : List (TenantPrincipal × Request))
    (admitted : (deployment collation).Meets (Admitted collation) db requests) :
    (deployment collation).answers (sentBy tenantId) db requests =
        (deployment collation).answers (fun _ => true) (view tenantId db)
          (requests.filter (sentBy tenantId)) ∧
      view tenantId ((deployment collation).final db requests) =
        (deployment collation).final (view tenantId db) (requests.filter (sentBy tenantId)) :=
  Service.private_run (separates collation tenantId) admitted

section Examples

/-- `acme` and `globex` register a dataset each, `globex` looks for the one of `acme` and
creates an index, `acme` looks for it and submits a task. -/
private def shared : List (TenantPrincipal × Request) :=
  [(sdkOf "acme", .createDataset "d1"
      { catalog := "lake", dbSchema := "acme", tableName := "events", storageUri := "s3://a" }),
    (sdkOf "globex", .createDataset "d2"
      { catalog := "lake", dbSchema := "globex", tableName := "events", storageUri := "s3://g" }),
    (sdkOf "globex", .getDataset "d1"),
    (sdkOf "globex", .child (.createIndex { now := 0, taskUuid := "t2" } 1
      { datasetUuid := "d2", indexName := "ann", columnName := "vector", indexType := "IVF_PQ" })),
    (sdkOf "acme", .child (.getIndex "d2" "ann")),
    (sdkOf "acme", .submitTask 0 "t1" .compaction)]

theorem private_deployment_shared :
    (deployment .binary).answers (sentBy "acme") {} shared =
        (deployment .binary).answers (fun _ => true) (view "acme" {})
          (shared.filter (sentBy "acme")) ∧
      view "acme" ((deployment .binary).final {} shared) =
        (deployment .binary).final (view "acme" {}) (shared.filter (sentBy "acme")) :=
  private_deployment .binary "acme" {} shared (by decide)

end Examples

/-! ## What is in the way -/

/-- **A name that another tenant has** is refused on the whole, and free on the tenant's part:
the answer tells of a row that the tenant cannot read. -/
theorem name_taken {caller : TenantPrincipal} {db : Database} {dataset : Dataset}
    {datasetUuid : String} {payload : DatasetRegisterRequest} (member : dataset ∈ db.dataset.rows)
    (named : (dataset.catalog, dataset.dbSchema, dataset.tableName) =
      (payload.catalog, payload.dbSchema, payload.tableName))
    (unused : ∀ own ∈ (view caller.tenantId db).dataset.rows, own.datasetUuid ≠ datasetUuid ∧
      (own.catalog, own.dbSchema, own.tableName) ≠
        (payload.catalog, payload.dbSchema, payload.tableName)) :
    (∃ message, DatasetService.createDataset (some caller) datasetUuid payload db =
      .error (.alreadyExists message)) ∧
    ∃ answer, DatasetService.createDataset (some caller) datasetUuid payload
      (view caller.tenantId db) = .ok answer := by
  constructor
  · have taken : DatasetService.insertDataset (DatasetService.row payload caller datasetUuid) db =
        none := by
      refine if_pos (List.any_eq_true.2 ⟨dataset, member, ?_⟩)
      simpa [DatasetService.row] using named
    simp only [DatasetService.createDataset, taken]
    exact ⟨_, rfl⟩
  · have free : (view caller.tenantId db).dataset.get datasetUuid = none :=
      Table.get_eq_none.2 fun own inside => (unused own inside).1
    have fresh : ¬ ((view caller.tenantId db).dataset.rows.any fun other =>
        (other.catalog, other.dbSchema, other.tableName) =
          (payload.catalog, payload.dbSchema, payload.tableName)) = true := by
      intro held
      obtain ⟨own, inside, same⟩ := List.any_eq_true.1 held
      exact (unused own inside).2 (of_decide_eq_true same)
    obtain ⟨table, inserted, -⟩ := Table.insert?_of_get_eq_none
      (r := DatasetService.row payload caller datasetUuid) free
    have added : DatasetService.insertDataset (DatasetService.row payload caller datasetUuid)
        (view caller.tenantId db) =
          some { view caller.tenantId db with dataset := table } := by
      refine (if_neg fresh).trans ?_
      rw [inserted]
      rfl
    simp only [DatasetService.createDataset, added]
    exact ⟨_, rfl⟩

end Lcp.TenantRequests
