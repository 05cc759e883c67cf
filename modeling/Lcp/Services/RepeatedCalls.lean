/-
# Services.RepeatedCalls -- an operation that is called twice

A client whose connection breaks does not know whether its request arrived, and sends it
again.  The second call draws its own uuid, id and clock reading.  For each operation of the
tenant-facing services there are two lemmas about it, or one where a call draws nothing:

* `_refused`: what refused the first call refuses the second, as the drawn uuid or id of the
  first was not what refused it;
* `_again`: after a call that went through, the second leaves the rows as they are.

The exceptions are a submission without an idempotency key, which inserts again
(`submitTask_unkeyed`), and a `create_index` with `replace_if_exists`.
-/
import Lcp.Services.IndexService
import Lcp.Services.PatchedRows

namespace Lcp

open Theory

set_option autoImplicit false

/-! ## Datasets -/

namespace DatasetService

variable {principal : Option TenantPrincipal} {datasetUuid other : String}
  {payload : DatasetRegisterRequest} {db after : Database}

/-- A row has the name. -/
def taken (payload : DatasetRegisterRequest) (db : Database) : Bool :=
  db.dataset.rows.any fun other =>
    (other.catalog, other.dbSchema, other.tableName) =
      (payload.catalog, payload.dbSchema, payload.tableName)

theorem insertDataset_eq_none {caller : TenantPrincipal} :
    insertDataset (row payload caller datasetUuid) db = none ↔
      taken payload db = true ∨ datasetUuid ∈ db.dataset.keys :=
  Table.insertUnless_eq_none

theorem createDataset_taken (held : taken payload db = true) :
    ∃ e, createDataset principal datasetUuid payload db = .error e := by
  cases principal with
  | none => exact ⟨_, rfl⟩
  | some caller =>
      have refused : insertDataset (row payload caller datasetUuid) db = none :=
        insertDataset_eq_none.2 (.inl held)
      simp only [createDataset, refused]
      exact ⟨_, rfl⟩

theorem createDataset_refused (fresh : datasetUuid ∉ db.dataset.keys) {e : DatasetError}
    (ran : createDataset principal datasetUuid payload db = .error e) :
    ∃ e, createDataset principal other payload db = .error e := by
  cases principal with
  | none => exact ⟨_, rfl⟩
  | some caller =>
      cases inserted : insertDataset (row payload caller datasetUuid) db with
      | none =>
          exact createDataset_taken ((insertDataset_eq_none.1 inserted).resolve_right fresh)
      | some after =>
          simp only [createDataset, inserted] at ran
          cases ran

theorem createDataset_again {answer : Dataset}
    (ran : createDataset principal datasetUuid payload db = .ok (answer, after)) :
    ∃ e, createDataset principal other payload after = .error e := by
  obtain ⟨caller, table, -, rfl, inserted, rfl⟩ := createDataset_cases ran
  refine createDataset_taken (List.any_eq_true.2 ⟨row payload caller datasetUuid, ?_, ?_⟩)
  · exact (Table.mem_insert? inserted).2 (.inr rfl)
  · simp [row]

theorem deleteDataset_again
    (ran : deleteDataset principal datasetUuid db = .ok after) :
    ∃ e, deleteDataset principal datasetUuid after = .error e := by
  obtain ⟨dataset, got, rfl⟩ := deleteDataset_cases ran
  obtain ⟨found, -, caller, rfl, -⟩ := getDataset_eq_ok got
  have lookup : (db.dataset.update datasetUuid Dataset.softDelete
      Dataset.datasetUuid_softDelete).get datasetUuid = some dataset.softDelete := by
    rw [Table.get_update, if_pos rfl, found, Option.map_some]
  simp only [deleteDataset, getDataset, lookup]
  exact ⟨.notFound datasetUuid, by simp [Dataset.softDelete, bind, Except.bind]⟩

end DatasetService

/-! ## Tasks -/

namespace TaskService

variable {principal : Option TenantPrincipal} {caller : TenantPrincipal} {now later : DateTime}
  {taskUuid other : String} {args : Submission} {db after : Database}

theorem insertTask_eq_none {task : Task} :
    insertTask task db = none ↔
      (task.idempotencyKey.isSome = true ∧
        task.idempotencyKey ∈ db.task.rows.map Task.idempotencyKey) ∨
          task.taskUuid ∈ db.task.keys := by
  unfold insertTask
  by_cases keyed : task.idempotencyKey.isSome = true ∧
      task.idempotencyKey ∈ db.task.rows.map Task.idempotencyKey
  · simp [keyed]
  · by_cases present : task.taskUuid ∈ db.task.rows.map Task.taskUuid <;>
      simp [Table.insert?, Table.keys, present]

/-- The search for the key of a submission. -/
def holder (caller : TenantPrincipal) (args : Submission) (db : Database) : Option Task :=
  (scopedKey caller args.idempotencyKey).bind fun key => findByKey caller key db

theorem submitTask_of_holder {existing : Task} (held : holder caller args db = some existing) :
    submitTask (some caller) now taskUuid args db = .ok ((existing, false), db) := by
  unfold holder at held
  simp only [submitTask, held]

theorem submitTask_of_insert (absent : holder caller args db = none)
    (inserted : insertTask (args.row caller taskUuid now) db = some after) :
    submitTask (some caller) now taskUuid args db =
      .ok ((args.row caller taskUuid now, true), after) := by
  unfold holder at absent
  simp only [submitTask, absent, inserted]

theorem submitTask_refused (fresh : taskUuid ∉ db.task.keys) {e : TaskError}
    (ran : submitTask principal now taskUuid args db = .error e) :
    ∃ e, submitTask principal later other args db = .error e := by
  cases principal with
  | none => exact ⟨_, rfl⟩
  | some caller =>
      cases held : holder caller args db with
      | some existing =>
          rw [submitTask_of_holder held] at ran
          cases ran
      | none =>
          cases inserted : insertTask (args.row caller taskUuid now) db with
          | some after =>
              rw [submitTask_of_insert held inserted] at ran
              cases ran
          | none =>
              have keyed := (insertTask_eq_none.1 inserted).resolve_right fresh
              have refused : insertTask (args.row caller other later) db = none :=
                insertTask_eq_none.2 (.inl keyed)
              unfold holder at held
              simp only [submitTask, held, refused]
              exact ⟨_, rfl⟩

/-- **A submission with a key** is found by the next one. -/
theorem submitTask_again (keyed : args.idempotencyKey.isSome = true) {answer : Task × Bool}
    (ran : submitTask principal now taskUuid args db = .ok (answer, after)) :
    ∃ existing, submitTask principal later other args after = .ok ((existing, false), after) := by
  obtain ⟨caller, rfl, ⟨-, rfl, key, stored, found⟩ | ⟨-, -, inserted⟩⟩ := submitTask_cases ran
  · refine ⟨answer.1, submitTask_of_holder ?_⟩
    rw [holder, stored]
    exact found
  · obtain ⟨table, added, rfl, -⟩ := insertTask_eq_some inserted
    obtain ⟨key, given⟩ := Option.isSome_iff_exists.1 keyed
    have present : args.row caller taskUuid now ∈ table.rows :=
      (Table.mem_insert? added).2 (.inr rfl)
    have stored : scopedKey caller args.idempotencyKey = some (caller.tenantId ++ ":" ++ key) := by
      rw [given]
      rfl
    cases found : findByKey caller (caller.tenantId ++ ":" ++ key) { db with task := table } with
    | none =>
        have missed := List.find?_eq_none.1 found _ present
        simp [Submission.row, stored, TenantPrincipal.sees] at missed
    | some existing =>
        refine ⟨existing, submitTask_of_holder ?_⟩
        rw [holder, stored]
        exact found

/-- A submission goes through unless a row that the caller cannot see is in its way. -/
theorem submitTask_ok (fresh : taskUuid ∉ db.task.keys)
    (visible : ∀ task ∈ db.task.rows, caller.sees task.tenantId = true) :
    ∃ answer after, submitTask (some caller) now taskUuid args db = .ok (answer, after) := by
  cases held : holder caller args db with
  | some existing => exact ⟨_, _, submitTask_of_holder held⟩
  | none =>
      cases inserted : insertTask (args.row caller taskUuid now) db with
      | some after => exact ⟨_, after, submitTask_of_insert held inserted⟩
      | none =>
          obtain ⟨keyed, member⟩ := (insertTask_eq_none.1 inserted).resolve_right fresh
          obtain ⟨key, stored⟩ := Option.isSome_iff_exists.1 keyed
          obtain ⟨task, inTable, same⟩ := List.mem_map.1 member
          have searched : scopedKey caller args.idempotencyKey = some key := stored
          rw [holder, searched] at held
          have missed := List.find?_eq_none.1 held task inTable
          simp [visible task inTable, same.trans stored] at missed

/-- **A submission without a key** inserts a row each time. -/
theorem submitTask_unkeyed (unkeyed : args.idempotencyKey = none)
    (fresh : taskUuid ∉ db.task.keys) :
    ∃ after, submitTask (some caller) now taskUuid args db =
        .ok ((args.row caller taskUuid now, true), after) ∧
      after.task.rows = db.task.rows ++ [args.row caller taskUuid now] := by
  have held : holder caller args db = none := by simp [holder, scopedKey, unkeyed]
  cases inserted : insertTask (args.row caller taskUuid now) db with
  | none =>
      obtain ⟨keyed, -⟩ := (insertTask_eq_none.1 inserted).resolve_right fresh
      simp [Submission.row, scopedKey, unkeyed] at keyed
  | some after =>
      obtain ⟨table, added, rfl, -⟩ := insertTask_eq_some inserted
      exact ⟨_, submitTask_of_insert held inserted, (Table.insert?_eq_some added).1⟩

theorem cancelTask_refused {e : TaskError}
    (ran : cancelTask principal now taskUuid db = .error e) :
    ∃ e, cancelTask principal later taskUuid db = .error e := by
  cases again : cancelTask principal later taskUuid db with
  | error e => exact ⟨e, rfl⟩
  | ok result =>
      obtain ⟨task, got, ⟨cancelled, -⟩ | ⟨cancellable, -⟩⟩ := cancelTask_cases again
      · simp [cancelTask, got, cancelled, bind, Except.bind, pure, Except.pure] at ran
      · by_cases cancelled : task.status = .cancelled <;>
          simp [cancelTask, got, cancelled, cancellable, bind, Except.bind, pure,
            Except.pure] at ran

/-- A task that is CANCELLED is returned as it is. -/
theorem cancelTask_again {answer : Task}
    (ran : cancelTask principal now taskUuid db = .ok (answer, after)) :
    ∃ task, cancelTask principal later taskUuid after = .ok (task, after) := by
  obtain ⟨task, got, ⟨cancelled, rfl⟩ | ⟨-, rfl⟩⟩ := cancelTask_cases ran
  · exact ⟨task, by simp [cancelTask, got, cancelled, bind, Except.bind, pure, Except.pure]⟩
  · obtain ⟨found, caller, rfl, sees⟩ := getTask_eq_ok got
    have lookup : (db.task.update taskUuid (Task.cancel now) (Task.taskUuid_cancel now)).get
        taskUuid = some (task.cancel now) := by
      rw [Table.get_update, if_pos rfl, found, Option.map_some]
    have visible : caller.sees (task.cancel now).tenantId = true := sees
    refine ⟨task.cancel now, ?_⟩
    simp only [cancelTask, getTask, lookup, visible, if_true]
    rfl

theorem retryTask_again {answer : Task}
    (ran : retryTask principal taskUuid db = .ok (answer, after)) :
    ∃ e, retryTask principal taskUuid after = .error e := by
  obtain ⟨task, got, -, -, rfl⟩ := retryTask_cases ran
  obtain ⟨found, caller, rfl, sees⟩ := getTask_eq_ok got
  have lookup : (db.task.update taskUuid Task.retry Task.taskUuid_retry).get taskUuid =
      some task.retry := by
    rw [Table.get_update, if_pos rfl, found, Option.map_some]
  have visible : caller.sees task.retry.tenantId = true := sees
  simp only [retryTask, getTask, lookup, visible, if_true]
  exact ⟨_, rfl⟩

end TaskService

/-! ## Indexes -/

namespace IndexService

variable {principal : Option TenantPrincipal} {draws redrawn : Draws} {newId other : Nat}
  {args : Creation} {now later : DateTime} {datasetUuid indexName : String} {db after : Database}

/-- A row has the name. -/
def taken (args : Creation) (db : Database) : Bool :=
  db.vectorIndex.rows.any (Index.named args.datasetUuid args.indexName)

theorem insertIndex_eq_none :
    insertIndex (args.row newId) db = none ↔
      taken args db = true ∨ newId ∈ db.vectorIndex.keys :=
  Table.insertUnless_eq_none

theorem clearName_keep (keep : args.replaceIfExists = false) : clearName args db = db := by
  simp [clearName, keep]

theorem createIndex_taken (keep : args.replaceIfExists = false) (held : taken args db = true) :
    (createIndex principal draws newId args db).2 = db := by
  have refused : insertIndex (args.row newId) (clearName args db) = none := by
    rw [clearName_keep keep]
    exact insertIndex_eq_none.2 (.inl held)
  cases guard : DatasetService.getDataset principal args.datasetUuid db with
  | error e => simp only [createIndex, guard]
  | ok dataset => simp only [createIndex, guard, refused]

theorem taken_of_insertIndex (inserted : insertIndex (args.row newId) db = some after) :
    taken args after = true := by
  obtain ⟨-, table, added, rfl⟩ := insertIndex_eq_some inserted
  refine List.any_eq_true.2 ⟨args.row newId, (Table.mem_insert? added).2 (.inr rfl), ?_⟩
  simp [Index.named, Creation.row]

/-- A row of a failed submission has the name all the same. -/
theorem taken_updateIndex {id : Nat} {assign : Index → Index}
    {keeps : ∀ index, (assign index).id = index.id}
    (stays : ∀ index, Index.named args.datasetUuid args.indexName (assign index) =
      Index.named args.datasetUuid args.indexName index) (held : taken args db = true) :
    taken args (updateIndex id assign keeps db) = true := by
  obtain ⟨index, member, named⟩ := List.any_eq_true.1 held
  refine List.any_eq_true.2 ⟨if index.id = id then assign index else index,
    List.mem_map_of_mem member, ?_⟩
  split
  · rw [stays, named]
  · exact named

/-- **A creation** that replaces nothing runs into its own row. -/
theorem createIndex_again (keep : args.replaceIfExists = false)
    (fresh : newId ∉ db.vectorIndex.keys) :
    (createIndex principal redrawn other args (createIndex principal draws newId args db).2).2 =
      (createIndex principal draws newId args db).2 := by
  cases guard : DatasetService.getDataset principal args.datasetUuid db with
  | error e => simp only [createIndex, guard]
  | ok dataset =>
      cases inserted : insertIndex (args.row newId) (clearName args db) with
      | none =>
          have refused := inserted
          rw [clearName_keep keep] at refused
          have held : taken args db = true := (insertIndex_eq_none.1 refused).resolve_right fresh
          have first : (createIndex principal draws newId args db).2 = db := by
            simp only [createIndex, guard, inserted]
          rw [first]
          exact createIndex_taken keep held
      | some row =>
          have held := taken_of_insertIndex inserted
          refine createIndex_taken keep ?_
          cases submitted : TaskService.submitTask principal draws.now draws.taskUuid
              (args.submission newId) row with
          | ok answer =>
              obtain ⟨task, after⟩ := answer
              simp only [createIndex, guard, inserted, submitted]
              rw [TaskService.submitTask_frame submitted]
              exact held
          | error e =>
              simp only [createIndex, guard, inserted, submitted]
              exact taken_updateIndex (fun _ => rfl) held

/-- A look-up finds the index row after an assignment to it. -/
theorem getIndex_assigned {index : Index}
    (got : getIndex principal datasetUuid indexName db = .ok index) {assign : Index → Index}
    (keeps : ∀ index, (assign index).id = index.id)
    (stays : ∀ index, Index.named datasetUuid indexName (assign index) =
      Index.named datasetUuid indexName index) :
    getIndex principal datasetUuid indexName (updateIndex index.id assign keeps db) =
      .ok (assign index) := by
  obtain ⟨⟨dataset, guard⟩, found⟩ := getIndex_eq_ok got
  have lookup : maybeGetIndex datasetUuid indexName (updateIndex index.id assign keeps db) =
      (maybeGetIndex datasetUuid indexName db).map fun row =>
        if row.id = index.id then assign row else row :=
    Table.find?_update db.vectorIndex index.id stays
  have open_ : DatasetService.getDataset principal datasetUuid
      (updateIndex index.id assign keeps db) = .ok dataset := guard
  simp only [getIndex, open_, lookup, found, Option.map_some, if_true]

theorem dropIndex_again (ran : dropIndex principal datasetUuid indexName db = .ok after) :
    dropIndex principal datasetUuid indexName after = .ok after := by
  obtain ⟨index, got, ⟨dropped, rfl⟩ | rfl⟩ := dropIndex_cases ran
  · exact ran
  · have again : getIndex principal datasetUuid indexName
        (updateIndex index.id Index.drop Index.id_drop db) = .ok index.drop := by
      exact getIndex_assigned got _ fun _ => rfl
    simp [dropIndex, again, bind, Except.bind, Index.drop, pure, Except.pure]

/-- **An optimization** finds the row OPTIMIZING, as its submission went through. -/
theorem optimizeIndex_again {caller : TenantPrincipal}
    (fresh : draws.taskUuid ∉ db.task.keys)
    (visible : ∀ task ∈ db.task.rows, caller.sees task.tenantId = true) :
    (optimizeIndex (some caller) redrawn datasetUuid indexName
        (optimizeIndex (some caller) draws datasetUuid indexName db).2).2 =
      (optimizeIndex (some caller) draws datasetUuid indexName db).2 := by
  cases got : getIndex (some caller) datasetUuid indexName db with
  | error e => simp only [optimizeIndex, got]
  | ok index =>
      by_cases ready : index.status = .ready
      · obtain ⟨answer, after, submitted⟩ : ∃ answer after, TaskService.submitTask (some caller)
            draws.now draws.taskUuid (optimizeSubmission datasetUuid indexName index.id draws.now)
            (updateIndex index.id (Index.startOptimize draws.now)
              (Index.id_startOptimize draws.now) db) = .ok (answer, after) :=
          TaskService.submitTask_ok fresh visible
        have first : (optimizeIndex (some caller) draws datasetUuid indexName db).2 = after := by
          simp only [optimizeIndex, got, ready, ne_eq, not_true_eq_false, if_false, submitted]
        have rows := TaskService.submitTask_frame submitted
        have again : getIndex (some caller) datasetUuid indexName after =
            .ok (index.startOptimize draws.now) := by
          rw [rows]
          exact getIndex_assigned got (Index.id_startOptimize draws.now) fun _ => rfl
        have moved : (index.startOptimize draws.now).status ≠ .ready := by
          simp [Index.startOptimize]
        rw [first]
        simp only [optimizeIndex, again, moved, ne_eq, not_false_eq_true, if_true]
      · simp only [optimizeIndex, got, ready, ne_eq, not_false_eq_true, if_true]

theorem mergeIndex_again (ran : mergeIndex principal now datasetUuid indexName db = .ok after) :
    ∃ e, mergeIndex principal later datasetUuid indexName after = .error e := by
  obtain ⟨index, got, -, rfl⟩ := mergeIndex_cases ran
  have again : getIndex principal datasetUuid indexName
      (updateIndex index.id (Index.startMerge now) (Index.id_startMerge now) db) =
        .ok (index.startMerge now) := by
    exact getIndex_assigned got _ fun _ => rfl
  exact ⟨_, by simp [mergeIndex, again, bind, Except.bind, Index.startMerge]; rfl⟩

theorem mergeIndex_refused {e : IndexError}
    (ran : mergeIndex principal now datasetUuid indexName db = .error e) :
    ∃ e, mergeIndex principal later datasetUuid indexName db = .error e := by
  cases again : mergeIndex principal later datasetUuid indexName db with
  | error e => exact ⟨e, rfl⟩
  | ok after =>
      obtain ⟨index, got, ready, -⟩ := mergeIndex_cases again
      simp [mergeIndex, got, ready, bind, Except.bind, pure, Except.pure] at ran

end IndexService

/-! ## Policies -/

/-- A field that is assigned twice. -/
theorem Patched.getD_again {α : Type} (field : Option α) (old : α) :
    field.getD (field.getD old) = field.getD old := by
  cases field <;> rfl

/-- The merged row takes the same body again. -/
theorem LifecyclePolicy.patch_again {payload : PolicyUpdateRequest}
    {policy patched : LifecyclePolicy} (assigned : policy.patch payload = some patched) :
    patched.patch payload = some patched := by
  obtain ⟨notNull, rfl⟩ := patch_eq_some_iff.1 assigned
  refine patch_eq_some_iff.2 ⟨notNull, ?_⟩
  simp [LifecyclePolicy.patched, Patched.onto, Patched.getD_again]

namespace LifecycleService

variable {principal : Option TenantPrincipal} {newId other : Nat}
  {datasetUuid policyName : String} {db after : Database}

/-- No two policies have one name, as `uk_dataset_policy` keeps it. -/
def UniqueNames (db : Database) : Prop :=
  db.lifecyclePolicy.UniqueBy fun policy => (policy.datasetUuid, policy.policyName)

theorem insertPolicy_eq_none {payload : PolicyCreateRequest} :
    insertPolicy (insertedRow datasetUuid payload newId) db = none ↔
      db.lifecyclePolicy.rows.any (LifecyclePolicy.named datasetUuid payload.policyName) = true ∨
        newId ∈ db.lifecyclePolicy.keys :=
  Table.insertUnless_eq_none

theorem createPolicy_taken {payload : PolicyCreateRequest}
    (held : db.lifecyclePolicy.rows.any
      (LifecyclePolicy.named datasetUuid payload.policyName) = true) :
    ∃ e, createPolicy principal newId datasetUuid payload db = .error e := by
  have refused : insertPolicy (insertedRow datasetUuid payload newId) db = none :=
    insertPolicy_eq_none.2 (.inl held)
  unfold createPolicy
  split
  · exact ⟨_, rfl⟩
  · rw [refused]
    exact ⟨_, rfl⟩

theorem createPolicy_refused {payload : PolicyCreateRequest}
    (fresh : newId ∉ db.lifecyclePolicy.keys) {e : PolicyError}
    (ran : createPolicy principal newId datasetUuid payload db = .error e) :
    ∃ e, createPolicy principal other datasetUuid payload db = .error e := by
  cases guard : DatasetService.getDataset principal datasetUuid db with
  | error e =>
      simp only [createPolicy, guard]
      exact ⟨_, rfl⟩
  | ok dataset =>
      cases inserted : insertPolicy (insertedRow datasetUuid payload newId) db with
      | none => exact createPolicy_taken ((insertPolicy_eq_none.1 inserted).resolve_right fresh)
      | some after =>
          simp only [createPolicy, guard, inserted] at ran
          cases ran

theorem createPolicy_again {payload : PolicyCreateRequest} {answer : LifecyclePolicy}
    (ran : createPolicy principal newId datasetUuid payload db = .ok (answer, after)) :
    ∃ e, createPolicy principal other datasetUuid payload after = .error e := by
  unfold createPolicy at ran
  split at ran
  · cases ran
  · split at ran
    · rename_i inserted
      cases ran
      obtain ⟨table, added, rfl⟩ := insertPolicy_eq_some inserted
      refine createPolicy_taken (List.any_eq_true.2 ⟨insertedRow datasetUuid payload newId, ?_, ?_⟩)
      · exact (Table.mem_insert? added).2 (.inr rfl)
      · simp [LifecyclePolicy.named, insertedRow, row]
    · cases ran

theorem found_of_getPolicy {policy : LifecyclePolicy}
    (got : getPolicy principal datasetUuid policyName db = .ok policy) :
    (∃ dataset, DatasetService.getDataset principal datasetUuid db = .ok dataset) ∧
      maybeGetPolicy datasetUuid policyName db = some policy := by
  unfold getPolicy at got
  split at got
  · cases got
  · rename_i dataset guard
    split at got
    · cases got
    · rename_i found
      cases got
      exact ⟨⟨dataset, guard⟩, found⟩

/-- A look-up finds the policy after an assignment to it. -/
theorem getPolicy_assigned {policy : LifecyclePolicy}
    (got : getPolicy principal datasetUuid policyName db = .ok policy)
    {assign : LifecyclePolicy → LifecyclePolicy} (keeps : ∀ policy, (assign policy).id = policy.id)
    (stays : ∀ policy, LifecyclePolicy.named datasetUuid policyName (assign policy) =
      LifecyclePolicy.named datasetUuid policyName policy) :
    getPolicy principal datasetUuid policyName { db with
      lifecyclePolicy := db.lifecyclePolicy.update policy.id assign keeps } =
        .ok (assign policy) := by
  obtain ⟨⟨dataset, guard⟩, found⟩ := found_of_getPolicy got
  have lookup : maybeGetPolicy datasetUuid policyName { db with
      lifecyclePolicy := db.lifecyclePolicy.update policy.id assign keeps } =
      (maybeGetPolicy datasetUuid policyName db).map fun row =>
        if row.id = policy.id then assign row else row :=
    Table.find?_update db.lifecyclePolicy policy.id stays
  have open_ : DatasetService.getDataset principal datasetUuid { db with
      lifecyclePolicy := db.lifecyclePolicy.update policy.id assign keeps } = .ok dataset := guard
  simp only [getPolicy, open_, lookup, found, Option.map_some, if_true]

theorem updatePolicy_cases {payload : PolicyUpdateRequest} {answer : LifecyclePolicy}
    (ran : updatePolicy principal datasetUuid policyName payload db = .ok (answer, after)) :
    ∃ policy, getPolicy principal datasetUuid policyName db = .ok policy ∧
      policy.patch payload = some answer ∧ after = { db with
        lifecyclePolicy := db.lifecyclePolicy.update policy.id
          (fun row => (row.patch payload).getD row) (LifecyclePolicy.id_patch payload) } := by
  unfold updatePolicy at ran
  split at ran
  · cases ran
  · rename_i policy got
    split at ran
    · cases ran
    · rename_i patched assigned
      cases ran
      exact ⟨policy, got, assigned, rfl⟩

theorem named_patch (payload : PolicyUpdateRequest) (policy : LifecyclePolicy) :
    LifecyclePolicy.named datasetUuid policyName ((policy.patch payload).getD policy) =
      LifecyclePolicy.named datasetUuid policyName policy := by
  cases assigned : policy.patch payload with
  | none => rfl
  | some patched =>
      obtain ⟨-, rfl⟩ := LifecyclePolicy.patch_eq_some_iff.1 assigned
      rfl

/-- **A PATCH** assigns what is there already. -/
theorem updatePolicy_again {payload : PolicyUpdateRequest} {answer : LifecyclePolicy}
    (ran : updatePolicy principal datasetUuid policyName payload db = .ok (answer, after)) :
    updatePolicy principal datasetUuid policyName payload after = .ok (answer, after) := by
  obtain ⟨policy, got, assigned, rfl⟩ := updatePolicy_cases ran
  have again := getPolicy_assigned got (LifecyclePolicy.id_patch payload) (named_patch payload)
  simp only [assigned, Option.getD_some] at again
  have reassigned := LifecyclePolicy.patch_again assigned
  have same : answer.id = policy.id := (LifecyclePolicy.patch_eq_some assigned).1
  obtain ⟨member, -⟩ := getPolicy_eq_ok got
  have fixed : (db.lifecyclePolicy.update policy.id (fun row => (row.patch payload).getD row)
      (LifecyclePolicy.id_patch payload)).update answer.id
        (fun row => (row.patch payload).getD row) (LifecyclePolicy.id_patch payload) =
      db.lifecyclePolicy.update policy.id (fun row => (row.patch payload).getD row)
        (LifecyclePolicy.id_patch payload) := by
    refine Table.update_eq_self _ fun row found => ?_
    rw [same, Table.get_update, if_pos rfl, Table.get_of_mem member, Option.map_some, assigned,
      Option.getD_some] at found
    obtain rfl := Option.some.inj found
    rw [reassigned, Option.getD_some]
  simp only [updatePolicy, again, reassigned, fixed]

theorem deletePolicy_again (unique : UniqueNames db)
    (ran : deletePolicy principal datasetUuid policyName db = .ok after) :
    ∃ e, deletePolicy principal datasetUuid policyName after = .error e := by
  unfold deletePolicy at ran
  split at ran
  · cases ran
  · rename_i policy got
    cases ran
    obtain ⟨⟨dataset, guard⟩, found⟩ := found_of_getPolicy got
    have named := List.find?_some found
    have gone : maybeGetPolicy datasetUuid policyName { db with
        lifecyclePolicy := db.lifecyclePolicy.delete fun row => row.id = policy.id } = none := by
      refine List.find?_eq_none.2 fun row left hit => ?_
      obtain ⟨member, kept⟩ := Table.mem_delete.1 left
      simp only [LifecyclePolicy.named, decide_eq_true_eq] at named hit
      have same := unique row member policy (List.mem_of_find?_eq_some found)
        (Prod.ext (hit.1.trans named.1.symm) (hit.2.trans named.2.symm))
      simp [same] at kept
    have open_ : DatasetService.getDataset principal datasetUuid { db with
        lifecyclePolicy := db.lifecyclePolicy.delete fun row => row.id = policy.id } =
          .ok dataset := guard
    simp only [deletePolicy, getPolicy, open_, gone]
    exact ⟨_, rfl⟩

theorem setEnabled_again {enabled : Bool} {answer : LifecyclePolicy}
    (ran : setEnabled principal datasetUuid policyName enabled db = .ok (answer, after)) :
    ∃ policy, setEnabled principal datasetUuid policyName enabled after = .ok (policy, after) := by
  have ran_ := ran
  unfold setEnabled at ran
  split at ran
  · cases ran
  · rename_i policy got
    split at ran
    · cases ran
      have again := getPolicy_assigned got (LifecyclePolicy.id_setEnabled enabled) fun _ => rfl
      refine ⟨policy.setEnabled enabled, ?_⟩
      simp [setEnabled, again, LifecyclePolicy.setEnabled]
    · cases ran
      exact ⟨_, ran_⟩

end LifecycleService

/-! ## Rules -/

namespace VectorizationRule

variable {payload : RuleUpdateRequest} {rule patched : VectorizationRule}

/-- The merged row takes the same body again. -/
theorem patch_again (assigned : rule.patch payload = some patched) :
    patched.patch payload = some patched := by
  obtain ⟨notNull, rfl⟩ := patch_eq_some_iff.1 assigned
  refine patch_eq_some_iff.2 ⟨notNull, ?_⟩
  simp [VectorizationRule.patched, Patched.onto, Patched.getD_again]

/-- The check of a merged row reads what is there already. -/
theorem checked_again (assigned : rule.patch payload = some patched) :
    validateCronRequiredWhenScheduled
        (Patched.onto (payload.triggerType.map (·.map TriggerType.toString)) patched.triggerType)
        (payload.cronExpr.onto patched.cronExpr) =
      validateCronRequiredWhenScheduled
        (Patched.onto (payload.triggerType.map (·.map TriggerType.toString)) rule.triggerType)
        (payload.cronExpr.onto rule.cronExpr) := by
  obtain ⟨notNull, rfl⟩ := patch_eq_some_iff.1 assigned
  rw [onto_triggerType notNull, onto_triggerType notNull]
  simp [VectorizationRule.patched, Patched.onto, Patched.getD_again]

end VectorizationRule

namespace VectorizationService

variable {principal : Option TenantPrincipal} {newId other : Nat} {now later : DateTime}
  {taskUuid redrawn datasetUuid targetColumn : String} {db after : Database}

/-- No two rules have one column, as `uk_dataset_target` keeps it. -/
def UniqueColumns (db : Database) : Prop :=
  db.vectorizationRule.UniqueBy fun rule => (rule.datasetUuid, rule.targetColumn)

theorem insertRule_eq_none {payload : RuleCreateRequest} :
    insertRule (row datasetUuid payload newId) db = none ↔
      db.vectorizationRule.rows.any
          (VectorizationRule.named datasetUuid payload.targetColumn) = true ∨
        newId ∈ db.vectorizationRule.keys :=
  Table.insertUnless_eq_none

theorem createRule_taken {payload : RuleCreateRequest}
    (held : db.vectorizationRule.rows.any
      (VectorizationRule.named datasetUuid payload.targetColumn) = true) :
    ∃ e, createRule principal newId datasetUuid payload db = .error e := by
  have refused : insertRule (row datasetUuid payload newId) db = none :=
    insertRule_eq_none.2 (.inl held)
  unfold createRule
  split
  · exact ⟨_, rfl⟩
  · rw [refused]
    exact ⟨_, rfl⟩

theorem createRule_refused {payload : RuleCreateRequest}
    (fresh : newId ∉ db.vectorizationRule.keys) {e : RuleError}
    (ran : createRule principal newId datasetUuid payload db = .error e) :
    ∃ e, createRule principal other datasetUuid payload db = .error e := by
  cases guard : DatasetService.getDataset principal datasetUuid db with
  | error e =>
      simp only [createRule, guard]
      exact ⟨_, rfl⟩
  | ok dataset =>
      cases inserted : insertRule (row datasetUuid payload newId) db with
      | none => exact createRule_taken ((insertRule_eq_none.1 inserted).resolve_right fresh)
      | some after =>
          simp only [createRule, guard, inserted] at ran
          cases ran

theorem createRule_again {payload : RuleCreateRequest} {answer : VectorizationRule}
    (ran : createRule principal newId datasetUuid payload db = .ok (answer, after)) :
    ∃ e, createRule principal other datasetUuid payload after = .error e := by
  unfold createRule at ran
  split at ran
  · cases ran
  · split at ran
    · rename_i inserted
      cases ran
      obtain ⟨table, added, rfl⟩ := insertRule_eq_some inserted
      refine createRule_taken (List.any_eq_true.2 ⟨row datasetUuid payload newId, ?_, ?_⟩)
      · exact (Table.mem_insert? added).2 (.inr rfl)
      · simp [VectorizationRule.named, row]
    · cases ran

theorem found_of_getRule {rule : VectorizationRule}
    (got : getRule principal datasetUuid targetColumn db = .ok rule) :
    (∃ dataset, DatasetService.getDataset principal datasetUuid db = .ok dataset) ∧
      maybeGetRule datasetUuid targetColumn db = some rule := by
  unfold getRule at got
  split at got
  · cases got
  · rename_i dataset guard
    split at got
    · cases got
    · rename_i found
      cases got
      exact ⟨⟨dataset, guard⟩, found⟩

/-- A look-up finds the rule after an assignment to it. -/
theorem getRule_assigned {rule : VectorizationRule}
    (got : getRule principal datasetUuid targetColumn db = .ok rule)
    {assign : VectorizationRule → VectorizationRule} (keeps : ∀ rule, (assign rule).id = rule.id)
    (stays : ∀ rule, VectorizationRule.named datasetUuid targetColumn (assign rule) =
      VectorizationRule.named datasetUuid targetColumn rule) :
    getRule principal datasetUuid targetColumn { db with
      vectorizationRule := db.vectorizationRule.update rule.id assign keeps } =
        .ok (assign rule) := by
  obtain ⟨⟨dataset, guard⟩, found⟩ := found_of_getRule got
  have lookup : maybeGetRule datasetUuid targetColumn { db with
      vectorizationRule := db.vectorizationRule.update rule.id assign keeps } =
      (maybeGetRule datasetUuid targetColumn db).map fun row =>
        if row.id = rule.id then assign row else row :=
    Table.find?_update db.vectorizationRule rule.id stays
  have open_ : DatasetService.getDataset principal datasetUuid { db with
      vectorizationRule := db.vectorizationRule.update rule.id assign keeps } = .ok dataset := guard
  simp only [getRule, open_, lookup, found, Option.map_some, if_true]

theorem updateRule_cases {payload : RuleUpdateRequest} {answer : VectorizationRule}
    (ran : updateRule principal datasetUuid targetColumn payload db = .ok (answer, after)) :
    ∃ rule, getRule principal datasetUuid targetColumn db = .ok rule ∧
      validateCronRequiredWhenScheduled
          (Patched.onto (payload.triggerType.map (·.map TriggerType.toString)) rule.triggerType)
          (payload.cronExpr.onto rule.cronExpr) = .ok () ∧
      rule.patch payload = some answer ∧ after = { db with
        vectorizationRule := db.vectorizationRule.update rule.id
          (fun row => (row.patch payload).getD row) (VectorizationRule.id_patch payload) } := by
  unfold updateRule at ran
  split at ran
  · cases ran
  · rename_i rule got
    simp only at ran
    split at ran
    · cases ran
    · rename_i checked
      split at ran
      · cases ran
      · rename_i patched assigned
        cases ran
        exact ⟨rule, got, checked, assigned, rfl⟩

theorem named_patch (payload : RuleUpdateRequest) (rule : VectorizationRule) :
    VectorizationRule.named datasetUuid targetColumn ((rule.patch payload).getD rule) =
      VectorizationRule.named datasetUuid targetColumn rule := by
  cases assigned : rule.patch payload with
  | none => rfl
  | some patched =>
      obtain ⟨-, rfl⟩ := VectorizationRule.patch_eq_some_iff.1 assigned
      rfl

/-- **A PATCH** assigns what is there already. -/
theorem updateRule_again {payload : RuleUpdateRequest} {answer : VectorizationRule}
    (ran : updateRule principal datasetUuid targetColumn payload db = .ok (answer, after)) :
    updateRule principal datasetUuid targetColumn payload after = .ok (answer, after) := by
  obtain ⟨rule, got, checked, assigned, rfl⟩ := updateRule_cases ran
  have again := getRule_assigned got (VectorizationRule.id_patch payload) (named_patch payload)
  simp only [assigned, Option.getD_some] at again
  have reassigned := VectorizationRule.patch_again assigned
  have rechecked := (VectorizationRule.checked_again assigned).trans checked
  have same : answer.id = rule.id := (VectorizationRule.patch_eq_some assigned).1
  obtain ⟨member, -⟩ := getRule_eq_ok got
  have fixed : (db.vectorizationRule.update rule.id (fun row => (row.patch payload).getD row)
      (VectorizationRule.id_patch payload)).update answer.id
        (fun row => (row.patch payload).getD row) (VectorizationRule.id_patch payload) =
      db.vectorizationRule.update rule.id (fun row => (row.patch payload).getD row)
        (VectorizationRule.id_patch payload) := by
    refine Table.update_eq_self _ fun row found => ?_
    rw [same, Table.get_update, if_pos rfl, Table.get_of_mem member, Option.map_some, assigned,
      Option.getD_some] at found
    obtain rfl := Option.some.inj found
    rw [reassigned, Option.getD_some]
  simp only [updateRule, again, rechecked, reassigned, fixed]

theorem deleteRule_again (unique : UniqueColumns db)
    (ran : deleteRule principal datasetUuid targetColumn db = .ok after) :
    ∃ e, deleteRule principal datasetUuid targetColumn after = .error e := by
  unfold deleteRule at ran
  split at ran
  · cases ran
  · rename_i rule got
    cases ran
    obtain ⟨⟨dataset, guard⟩, found⟩ := found_of_getRule got
    have named := List.find?_some found
    have gone : maybeGetRule datasetUuid targetColumn { db with
        vectorizationRule := db.vectorizationRule.delete fun row => row.id = rule.id } = none := by
      refine List.find?_eq_none.2 fun row left hit => ?_
      obtain ⟨member, kept⟩ := Table.mem_delete.1 left
      simp only [VectorizationRule.named, decide_eq_true_eq] at named hit
      have same := unique row member rule (List.mem_of_find?_eq_some found)
        (Prod.ext (hit.1.trans named.1.symm) (hit.2.trans named.2.symm))
      simp [same] at kept
    have open_ : DatasetService.getDataset principal datasetUuid { db with
        vectorizationRule := db.vectorizationRule.delete fun row => row.id = rule.id } =
          .ok dataset := guard
    simp only [deleteRule, getRule, open_, gone]
    exact ⟨_, rfl⟩

theorem setEnabled_again {enabled : Bool} {answer : VectorizationRule}
    (ran : setEnabled principal datasetUuid targetColumn enabled db = .ok (answer, after)) :
    ∃ rule, setEnabled principal datasetUuid targetColumn enabled after = .ok (rule, after) := by
  have ran_ := ran
  unfold setEnabled at ran
  split at ran
  · cases ran
  · rename_i rule got
    split at ran
    · cases ran
      have again := getRule_assigned got (VectorizationRule.id_setEnabled enabled) fun _ => rfl
      refine ⟨rule.setEnabled enabled, ?_⟩
      simp [setEnabled, again, VectorizationRule.setEnabled]
    · cases ran
      exact ⟨_, ran_⟩

theorem submitVectorizeTask_refused (fresh : taskUuid ∉ db.task.keys) {e : RuleError}
    (ran : submitVectorizeTask principal now taskUuid datasetUuid targetColumn db = .error e) :
    ∃ e, submitVectorizeTask principal later redrawn datasetUuid targetColumn db = .error e := by
  cases got : getRule principal datasetUuid targetColumn db with
  | error e =>
      simp only [submitVectorizeTask, got]
      exact ⟨_, rfl⟩
  | ok rule =>
      cases enabled : rule.enabled with
      | false =>
          simp only [submitVectorizeTask, got, enabled, Bool.not_false, if_true]
          exact ⟨_, rfl⟩
      | true =>
          cases submitted : TaskService.submitTask principal now taskUuid
              (vectorizeSubmission datasetUuid targetColumn rule) db with
          | ok answer => simp [submitVectorizeTask, got, enabled, submitted] at ran
          | error e =>
              obtain ⟨e, refused⟩ : ∃ e, TaskService.submitTask principal later redrawn
                  (vectorizeSubmission datasetUuid targetColumn rule) db = .error e :=
                TaskService.submitTask_refused fresh submitted
              exact ⟨.submission e, by simp [submitVectorizeTask, got, enabled, refused]⟩

/-- **A vectorize-now** is found under the key of its rule. -/
theorem submitVectorizeTask_again {answer : Task × Bool}
    (ran : submitVectorizeTask principal now taskUuid datasetUuid targetColumn db =
      .ok (answer, after)) :
    ∃ existing, submitVectorizeTask principal later redrawn datasetUuid targetColumn after =
      .ok ((existing, false), after) := by
  obtain ⟨dataset, rule, guard, found, enabled, submitted⟩ := submitVectorizeTask_cases ran
  obtain ⟨existing, again⟩ : ∃ existing, TaskService.submitTask principal later redrawn
      (vectorizeSubmission datasetUuid targetColumn rule) after = .ok ((existing, false), after) :=
    TaskService.submitTask_again rfl submitted
  have rows := TaskService.submitTask_frame submitted
  have got : getRule principal datasetUuid targetColumn after = .ok rule := by
    have guarded : DatasetService.getDataset principal datasetUuid after = .ok dataset := by
      rw [rows]
      exact guard
    have looked : maybeGetRule datasetUuid targetColumn after = some rule := by
      rw [rows]
      exact found
    simp only [getRule, guarded, looked]
  exact ⟨existing, by simp [submitVectorizeTask, got, enabled, again]⟩

end VectorizationService

end Lcp
