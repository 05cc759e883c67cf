/-
# Invariants.ChildTables -- tables without a tenant column

`vector_index`, `lifecycle_policy` and `vectorization_rule` are not in the RLS
registry.  What keeps a tenant out of another one's rows there is that each of the
nineteen operations of their services fetches the parent dataset first, and that
everything it writes has the uuid of that dataset.

`Confined` is the frame of a call: outside one dataset and one tenant's tasks,
nothing changes.  `children_isolated` gives it to every operation, and to those that
the guard refuses the empty one.
-/
import Lcp.Services.IndexService
import Lcp.Services.LifecycleService
import Lcp.Services.VectorizationService

namespace Lcp.ChildTables

open Theory

set_option autoImplicit false

/-! ## The operations -/

inductive ServiceError where
  | index (error : IndexError)
  | policy (error : PolicyError)
  | rule (error : RuleError)
deriving DecidableEq, Repr

/-- The exception is `DatasetNotFoundError(dataset_uuid)`. -/
def ServiceError.isDatasetNotFound (datasetUuid : String) : ServiceError → Bool
  | .index error => error = .dataset (.notFound datasetUuid)
  | .policy error => error = .dataset (.notFound datasetUuid)
  | .rule error => error = .dataset (.notFound datasetUuid)

/-- A call of one of the three services, with what it draws from outside. -/
inductive Call where
  | createIndex (draws : IndexService.Draws) (newId : Nat) (args : IndexService.Creation)
  | getIndex (datasetUuid indexName : String)
  | listIndexes (createdAt : Nat → DateTime) (datasetUuid : String)
  | dropIndex (datasetUuid indexName : String)
  | optimizeIndex (draws : IndexService.Draws) (datasetUuid indexName : String)
  | mergeIndex (now : DateTime) (datasetUuid indexName : String)
  | createPolicy (newId : Nat) (datasetUuid : String) (payload : PolicyCreateRequest)
  | getPolicy (datasetUuid policyName : String)
  | listPolicies (createdAt : Nat → DateTime) (datasetUuid : String)
  | updatePolicy (datasetUuid policyName : String) (payload : PolicyUpdateRequest)
  | deletePolicy (datasetUuid policyName : String)
  | setPolicyEnabled (datasetUuid policyName : String) (enabled : Bool)
  | createRule (newId : Nat) (datasetUuid : String) (payload : RuleCreateRequest)
  | getRule (datasetUuid targetColumn : String)
  | listRules (createdAt : Nat → DateTime) (datasetUuid : String)
  | updateRule (datasetUuid targetColumn : String) (payload : RuleUpdateRequest)
  | deleteRule (datasetUuid targetColumn : String)
  | setRuleEnabled (datasetUuid targetColumn : String) (enabled : Bool)
  | submitVectorizeTask (now : DateTime) (taskUuid datasetUuid targetColumn : String)

namespace Call

/-- The argument `dataset_uuid`. -/
def datasetUuid : Call → String
  | createIndex _ _ args => args.datasetUuid
  | getIndex datasetUuid _ => datasetUuid
  | listIndexes _ datasetUuid => datasetUuid
  | dropIndex datasetUuid _ => datasetUuid
  | optimizeIndex _ datasetUuid _ => datasetUuid
  | mergeIndex _ datasetUuid _ => datasetUuid
  | createPolicy _ datasetUuid _ => datasetUuid
  | getPolicy datasetUuid _ => datasetUuid
  | listPolicies _ datasetUuid => datasetUuid
  | updatePolicy datasetUuid _ _ => datasetUuid
  | deletePolicy datasetUuid _ => datasetUuid
  | setPolicyEnabled datasetUuid _ _ => datasetUuid
  | createRule _ datasetUuid _ => datasetUuid
  | getRule datasetUuid _ => datasetUuid
  | listRules _ datasetUuid => datasetUuid
  | updateRule datasetUuid _ _ => datasetUuid
  | deleteRule datasetUuid _ => datasetUuid
  | setRuleEnabled datasetUuid _ _ => datasetUuid
  | submitVectorizeTask _ _ datasetUuid _ => datasetUuid

section Running

variable {ε α : Type} (wrap : ε → ServiceError) (db : Database)

/-- A call that reads. -/
def read : Except ε α → Except ServiceError Unit × Database
  | .ok _ => (.ok (), db)
  | .error e => (.error (wrap e), db)

/-- A call that commits once; one that raises commits nothing. -/
def commit : Except ε Database → Except ServiceError Unit × Database
  | .ok after => (.ok (), after)
  | .error e => (.error (wrap e), db)

/-- A call that answers with its rows in either case. -/
def commitEither (result : Except ε α × Database) : Except ServiceError Unit × Database :=
  ((result.1.map fun _ => ()).mapError wrap, result.2)

end Running

/-- The call under a principal: whether it returns, and the committed rows. -/
def run (principal : Option TenantPrincipal) (db : Database) :
    Call → Except ServiceError Unit × Database
  | createIndex draws newId args =>
      commitEither .index (IndexService.createIndex principal draws newId args db)
  | getIndex datasetUuid indexName =>
      read .index db (IndexService.getIndex principal datasetUuid indexName db)
  | listIndexes createdAt datasetUuid =>
      read .index db (IndexService.listIndexes principal createdAt datasetUuid db)
  | dropIndex datasetUuid indexName =>
      commit .index db (IndexService.dropIndex principal datasetUuid indexName db)
  | optimizeIndex draws datasetUuid indexName =>
      commitEither .index (IndexService.optimizeIndex principal draws datasetUuid indexName db)
  | mergeIndex now datasetUuid indexName =>
      commit .index db (IndexService.mergeIndex principal now datasetUuid indexName db)
  | createPolicy newId datasetUuid payload =>
      commit .policy db
        ((LifecycleService.createPolicy principal newId datasetUuid payload db).map (·.2))
  | getPolicy datasetUuid policyName =>
      read .policy db (LifecycleService.getPolicy principal datasetUuid policyName db)
  | listPolicies createdAt datasetUuid =>
      read .policy db (LifecycleService.listPolicies principal createdAt datasetUuid db)
  | updatePolicy datasetUuid policyName payload =>
      commit .policy db
        ((LifecycleService.updatePolicy principal datasetUuid policyName payload db).map (·.2))
  | deletePolicy datasetUuid policyName =>
      commit .policy db (LifecycleService.deletePolicy principal datasetUuid policyName db)
  | setPolicyEnabled datasetUuid policyName enabled =>
      commit .policy db
        ((LifecycleService.setEnabled principal datasetUuid policyName enabled db).map (·.2))
  | createRule newId datasetUuid payload =>
      commit .rule db
        ((VectorizationService.createRule principal newId datasetUuid payload db).map (·.2))
  | getRule datasetUuid targetColumn =>
      read .rule db (VectorizationService.getRule principal datasetUuid targetColumn db)
  | listRules createdAt datasetUuid =>
      read .rule db (VectorizationService.listRules principal createdAt datasetUuid db)
  | updateRule datasetUuid targetColumn payload =>
      commit .rule db
        ((VectorizationService.updateRule principal datasetUuid targetColumn payload db).map (·.2))
  | deleteRule datasetUuid targetColumn =>
      commit .rule db (VectorizationService.deleteRule principal datasetUuid targetColumn db)
  | setRuleEnabled datasetUuid targetColumn enabled =>
      commit .rule db
        ((VectorizationService.setEnabled principal datasetUuid targetColumn enabled db).map (·.2))
  | submitVectorizeTask now taskUuid datasetUuid targetColumn =>
      commit .rule db
        ((VectorizationService.submitVectorizeTask principal now taskUuid datasetUuid targetColumn
          db).map (·.2))

end Call

/-! ## Behind a closed guard -/

/-- The tenant has a dataset of this uuid that is not DELETED. -/
def Owns (tenantId datasetUuid : String) (db : Database) : Prop :=
  ∃ dataset ∈ db.dataset.rows, dataset.datasetUuid = datasetUuid ∧ dataset.tenantId = tenantId ∧
    dataset.status ≠ .deleted

instance (tenantId datasetUuid : String) : DecidablePred (Owns tenantId datasetUuid) := fun db =>
  inferInstanceAs (Decidable (∃ dataset ∈ db.dataset.rows, _))

section Guard

variable {caller : TenantPrincipal} {db : Database}

theorem getDataset_hidden {datasetUuid : String} (tenant : caller.isSystem = false)
    (foreign : ¬ Owns caller.tenantId datasetUuid db) :
    DatasetService.getDataset (some caller) datasetUuid db = .error (.notFound datasetUuid) := by
  unfold DatasetService.getDataset
  simp only
  cases found : db.dataset.get datasetUuid with
  | none => rfl
  | some dataset =>
      obtain ⟨member, uuid⟩ := Table.get_eq_some.1 found
      refine if_neg fun visible => foreign ⟨dataset, member, uuid, ?_, visible.2⟩
      simpa [TenantPrincipal.sees, tenant] using visible.1

/-- **The guard refuses** every operation on a dataset the tenant does not have. -/
theorem refused (tenant : caller.isSystem = false) (call : Call)
    (foreign : ¬ Owns caller.tenantId call.datasetUuid db) :
    ∃ e, call.run (some caller) db = (.error e, db) ∧
      e.isDatasetNotFound call.datasetUuid = true := by
  have hidden := getDataset_hidden tenant foreign
  cases call <;> simp only [Call.datasetUuid] at hidden ⊢
  case createIndex draws newId args =>
      refine ⟨.index (.dataset (.notFound args.datasetUuid)), ?_, decide_eq_true rfl⟩
      simp only [Call.run, IndexService.createIndex, hidden, Call.commitEither]
      rfl
  case optimizeIndex draws datasetUuid indexName =>
      refine ⟨.index (.dataset (.notFound datasetUuid)), ?_, decide_eq_true rfl⟩
      simp only [Call.run, IndexService.optimizeIndex, IndexService.getIndex, hidden,
        Call.commitEither]
      rfl
  case getIndex | listIndexes | dropIndex | mergeIndex =>
      refine ⟨.index (.dataset (.notFound _)), ?_, decide_eq_true rfl⟩
      simp only [Call.run, IndexService.getIndex, IndexService.listIndexes,
        IndexService.dropIndex, IndexService.mergeIndex, hidden]
      rfl
  case createPolicy | getPolicy | listPolicies | updatePolicy | deletePolicy
      | setPolicyEnabled =>
      refine ⟨.policy (.dataset (.notFound _)), ?_, decide_eq_true rfl⟩
      simp only [Call.run, LifecycleService.createPolicy, LifecycleService.getPolicy,
        LifecycleService.listPolicies, LifecycleService.updatePolicy,
        LifecycleService.deletePolicy, LifecycleService.setEnabled, hidden]
      rfl
  case createRule | getRule | listRules | updateRule | deleteRule | setRuleEnabled
      | submitVectorizeTask =>
      refine ⟨.rule (.dataset (.notFound _)), ?_, decide_eq_true rfl⟩
      simp only [Call.run, VectorizationService.createRule, VectorizationService.getRule,
        VectorizationService.listRules, VectorizationService.updateRule,
        VectorizationService.deleteRule, VectorizationService.setEnabled,
        VectorizationService.submitVectorizeTask, hidden]
      rfl

end Guard

/-! ## Behind an open guard -/

/-- Nothing changes but child rows of one dataset and tasks of one tenant. -/
structure Confined (tenantId datasetUuid : String) (before after : Database) : Prop where
  dataset : after.dataset = before.dataset
  workerRegistry : after.workerRegistry = before.workerRegistry
  task : after.task.rows.filter (·.tenantId ≠ tenantId) =
    before.task.rows.filter (·.tenantId ≠ tenantId)
  vectorIndex : after.vectorIndex.rows.filter (·.datasetUuid ≠ datasetUuid) =
    before.vectorIndex.rows.filter (·.datasetUuid ≠ datasetUuid)
  lifecyclePolicy : after.lifecyclePolicy.rows.filter (·.datasetUuid ≠ datasetUuid) =
    before.lifecyclePolicy.rows.filter (·.datasetUuid ≠ datasetUuid)
  vectorizationRule : after.vectorizationRule.rows.filter (·.datasetUuid ≠ datasetUuid) =
    before.vectorizationRule.rows.filter (·.datasetUuid ≠ datasetUuid)

namespace Confined

variable {tenantId datasetUuid : String} {a b c : Database}

theorem refl (a : Database) : Confined tenantId datasetUuid a a := ⟨rfl, rfl, rfl, rfl, rfl, rfl⟩

theorem trans (first : Confined tenantId datasetUuid a b)
    (second : Confined tenantId datasetUuid b c) : Confined tenantId datasetUuid a c :=
  ⟨second.dataset.trans first.dataset, second.workerRegistry.trans first.workerRegistry,
    second.task.trans first.task, second.vectorIndex.trans first.vectorIndex,
    second.lifecyclePolicy.trans first.lifecyclePolicy,
    second.vectorizationRule.trans first.vectorizationRule⟩

/-- A submission inserts a task of the caller's tenant. -/
theorem submitTask {caller : TenantPrincipal} {now : DateTime} {taskUuid : String}
    {args : TaskService.Submission} {answer : Task × Bool}
    (ran : TaskService.submitTask (some caller) now taskUuid args a = .ok (answer, b)) :
    Confined caller.tenantId datasetUuid a b := by
  obtain ⟨_, same, ⟨-, rfl, -⟩ | ⟨-, -, inserted⟩⟩ := TaskService.submitTask_cases ran
  · exact refl _
  · obtain rfl := Option.some.inj same
    obtain ⟨table, added, rfl, -⟩ := TaskService.insertTask_eq_some inserted
    refine ⟨rfl, rfl, ?_, rfl, rfl, rfl⟩
    exact Table.filter_insert? added (by simp [TaskService.Submission.row])

/-- An assignment to an index row of the dataset that keeps its dataset. -/
theorem updateIndex {id : Nat} {assign : Index → Index} (keeps : ∀ row, (assign row).id = row.id)
    (mine : ∀ row ∈ a.vectorIndex.rows, row.id = id → row.datasetUuid = datasetUuid)
    (stays : ∀ row, (assign row).datasetUuid = row.datasetUuid) :
    Confined tenantId datasetUuid a (IndexService.updateIndex id assign keeps a) := by
  refine ⟨rfl, rfl, rfl, ?_, rfl, rfl⟩
  refine Table.filter_update keeps fun row inTable same => ?_
  simp [stays, mine row inTable same]

theorem updatePolicy {policy : LifecyclePolicy} {assign : LifecyclePolicy → LifecyclePolicy}
    (keeps : ∀ row, (assign row).id = row.id) (member : policy ∈ a.lifecyclePolicy.rows)
    (mine : policy.datasetUuid = datasetUuid)
    (stays : (assign policy).datasetUuid = policy.datasetUuid) :
    Confined tenantId datasetUuid a { a with
      lifecyclePolicy := a.lifecyclePolicy.update policy.id assign keeps } := by
  refine ⟨rfl, rfl, rfl, rfl, ?_, rfl⟩
  refine Table.filter_update keeps fun row inTable same => ?_
  obtain rfl := Table.eq_of_key_eq inTable member same
  simp [stays, mine]

theorem updateRule {rule : VectorizationRule} {assign : VectorizationRule → VectorizationRule}
    (keeps : ∀ row, (assign row).id = row.id) (member : rule ∈ a.vectorizationRule.rows)
    (mine : rule.datasetUuid = datasetUuid)
    (stays : (assign rule).datasetUuid = rule.datasetUuid) :
    Confined tenantId datasetUuid a { a with
      vectorizationRule := a.vectorizationRule.update rule.id assign keeps } := by
  refine ⟨rfl, rfl, rfl, rfl, rfl, ?_⟩
  refine Table.filter_update keeps fun row inTable same => ?_
  obtain rfl := Table.eq_of_key_eq inTable member same
  simp [stays, mine]

end Confined

section Operations

variable {caller : TenantPrincipal} {db after : Database}

theorem confined_insertIndex {args : IndexService.Creation} {newId : Nat}
    (inserted : IndexService.insertIndex (args.row newId) (IndexService.clearName args db) =
      some after) : Confined caller.tenantId args.datasetUuid db after := by
  have cleared : Confined caller.tenantId args.datasetUuid db (IndexService.clearName args db) := by
    unfold IndexService.clearName
    split
    · split
      · exact .refl db
      · rename_i existing found
        obtain ⟨member, mine, -⟩ := IndexService.maybeGetIndex_eq_some found
        refine ⟨rfl, rfl, rfl, ?_, rfl, rfl⟩
        refine Table.filter_delete fun row inTable deleted => ?_
        obtain rfl := Table.eq_of_key_eq inTable member (of_decide_eq_true deleted)
        simp [mine]
    · exact .refl db
  obtain ⟨-, table, added, rfl⟩ := IndexService.insertIndex_eq_some inserted
  refine cleared.trans ⟨rfl, rfl, rfl, ?_, rfl, rfl⟩
  exact Table.filter_insert? added (by simp [IndexService.Creation.row])

theorem confined_createIndex {draws : IndexService.Draws} {newId : Nat}
    {args : IndexService.Creation} {answer : Except IndexError Index}
    (ran : IndexService.createIndex (some caller) draws newId args db = (answer, after)) :
    Confined caller.tenantId args.datasetUuid db after := by
  cases IndexService.createIndex_effect ran with
  | nothing e => exact .refl db
  | created guard row submitted => exact (confined_insertIndex row).trans (.submitTask submitted)
  | @failed dataset inserted e guard row submitted =>
      refine (confined_insertIndex row).trans (.updateIndex _ (fun other inTable same => ?_)
        fun _ => rfl)
      have newRow : args.row newId ∈ inserted.vectorIndex.rows := by
        obtain ⟨-, table, added, rfl⟩ := IndexService.insertIndex_eq_some row
        exact (Table.mem_insert? added).2 (.inr rfl)
      rw [Table.eq_of_key_eq inTable newRow same]
      rfl

/-- The rows with the id of an index that a call fetched. -/
theorem mine_of_getIndex {datasetUuid indexName : String} {index : Index}
    (got : IndexService.getIndex (some caller) datasetUuid indexName db = .ok index) :
    ∀ row ∈ db.vectorIndex.rows, row.id = index.id → row.datasetUuid = datasetUuid := by
  intro row inTable same
  obtain ⟨member, mine, -⟩ :=
    IndexService.maybeGetIndex_eq_some (IndexService.getIndex_eq_ok got).2
  rw [Table.eq_of_key_eq inTable member same]
  exact mine

theorem confined_optimizeIndex {draws : IndexService.Draws} {datasetUuid indexName : String}
    {answer : Except IndexError Index}
    (ran : IndexService.optimizeIndex (some caller) draws datasetUuid indexName db =
      (answer, after)) : Confined caller.tenantId datasetUuid db after := by
  cases IndexService.optimizeIndex_effect ran with
  | nothing e => exact .refl db
  | started got ready submitted =>
      exact (Confined.updateIndex (Index.id_startOptimize draws.now) (mine_of_getIndex got)
        fun _ => rfl).trans
        (.submitTask submitted)
  | failed got ready =>
      refine (Confined.updateIndex (Index.id_startOptimize draws.now) (mine_of_getIndex got)
        fun _ => rfl).trans
        (.updateIndex _ (fun row inTable same => ?_) fun _ => rfl)
      rcases Table.of_mem_update inTable with ⟨old, inOld, sameId, rfl⟩ | ⟨inOld, -⟩
      · exact mine_of_getIndex got old inOld sameId
      · exact mine_of_getIndex got row inOld same

theorem confined_dropIndex {datasetUuid indexName : String}
    (ran : IndexService.dropIndex (some caller) datasetUuid indexName db = .ok after) :
    Confined caller.tenantId datasetUuid db after := by
  obtain ⟨index, got, ⟨-, rfl⟩ | rfl⟩ := IndexService.dropIndex_cases ran
  · exact .refl after
  · exact .updateIndex _ (mine_of_getIndex got) fun _ => rfl

theorem confined_mergeIndex {now : DateTime} {datasetUuid indexName : String}
    (ran : IndexService.mergeIndex (some caller) now datasetUuid indexName db = .ok after) :
    Confined caller.tenantId datasetUuid db after := by
  obtain ⟨index, got, -, rfl⟩ := IndexService.mergeIndex_cases ran
  exact .updateIndex _ (mine_of_getIndex got) fun _ => rfl

theorem confined_createPolicy {newId : Nat} {datasetUuid : String} {payload : PolicyCreateRequest}
    {answer : LifecyclePolicy}
    (ran : LifecycleService.createPolicy (some caller) newId datasetUuid payload db =
      .ok (answer, after)) : Confined caller.tenantId datasetUuid db after := by
  unfold LifecycleService.createPolicy at ran
  split at ran
  · cases ran
  · split at ran
    · rename_i inserted
      cases ran
      obtain ⟨table, added, rfl⟩ := LifecycleService.insertPolicy_eq_some inserted
      refine ⟨rfl, rfl, rfl, rfl, ?_, rfl⟩
      exact Table.filter_insert? added
        (by simp [LifecycleService.insertedRow, LifecycleService.row])
    · cases ran

theorem confined_updatePolicy {datasetUuid policyName : String} {payload : PolicyUpdateRequest}
    {answer : LifecyclePolicy}
    (ran : LifecycleService.updatePolicy (some caller) datasetUuid policyName payload db =
      .ok (answer, after)) : Confined caller.tenantId datasetUuid db after := by
  unfold LifecycleService.updatePolicy at ran
  split at ran
  · cases ran
  · rename_i policy got
    obtain ⟨member, mine⟩ := LifecycleService.getPolicy_eq_ok got
    split at ran
    · cases ran
    · rename_i patched assigned
      cases ran
      refine .updatePolicy _ member mine ?_
      rw [assigned]
      exact (LifecyclePolicy.patch_eq_some assigned).2

theorem confined_deletePolicy {datasetUuid policyName : String}
    (ran : LifecycleService.deletePolicy (some caller) datasetUuid policyName db = .ok after) :
    Confined caller.tenantId datasetUuid db after := by
  unfold LifecycleService.deletePolicy at ran
  split at ran
  · cases ran
  · rename_i policy got
    obtain ⟨member, mine⟩ := LifecycleService.getPolicy_eq_ok got
    cases ran
    refine ⟨rfl, rfl, rfl, rfl, ?_, rfl⟩
    refine Table.filter_delete fun row inTable deleted => ?_
    obtain rfl := Table.eq_of_key_eq inTable member (of_decide_eq_true deleted)
    simp [mine]

theorem confined_setPolicyEnabled {datasetUuid policyName : String} {enabled : Bool}
    {answer : LifecyclePolicy}
    (ran : LifecycleService.setEnabled (some caller) datasetUuid policyName enabled db =
      .ok (answer, after)) : Confined caller.tenantId datasetUuid db after := by
  unfold LifecycleService.setEnabled at ran
  split at ran
  · cases ran
  · rename_i policy got
    obtain ⟨member, mine⟩ := LifecycleService.getPolicy_eq_ok got
    split at ran
    · cases ran
      exact .updatePolicy _ member mine rfl
    · cases ran
      exact .refl _

theorem confined_createRule {newId : Nat} {datasetUuid : String} {payload : RuleCreateRequest}
    {answer : VectorizationRule}
    (ran : VectorizationService.createRule (some caller) newId datasetUuid payload db =
      .ok (answer, after)) : Confined caller.tenantId datasetUuid db after := by
  unfold VectorizationService.createRule at ran
  split at ran
  · cases ran
  · split at ran
    · rename_i inserted
      cases ran
      obtain ⟨table, added, rfl⟩ := VectorizationService.insertRule_eq_some inserted
      refine ⟨rfl, rfl, rfl, rfl, rfl, ?_⟩
      exact Table.filter_insert? added (by simp [VectorizationService.row])
    · cases ran

theorem confined_updateRule {datasetUuid targetColumn : String} {payload : RuleUpdateRequest}
    {answer : VectorizationRule}
    (ran : VectorizationService.updateRule (some caller) datasetUuid targetColumn payload db =
      .ok (answer, after)) : Confined caller.tenantId datasetUuid db after := by
  unfold VectorizationService.updateRule at ran
  split at ran
  · cases ran
  · rename_i rule got
    obtain ⟨member, mine⟩ := VectorizationService.getRule_eq_ok got
    simp only at ran
    split at ran
    · cases ran
    · split at ran
      · cases ran
      · rename_i patched assigned
        cases ran
        refine .updateRule _ member mine ?_
        rw [assigned]
        exact (VectorizationRule.patch_eq_some assigned).2

theorem confined_deleteRule {datasetUuid targetColumn : String}
    (ran : VectorizationService.deleteRule (some caller) datasetUuid targetColumn db = .ok after) :
    Confined caller.tenantId datasetUuid db after := by
  unfold VectorizationService.deleteRule at ran
  split at ran
  · cases ran
  · rename_i rule got
    obtain ⟨member, mine⟩ := VectorizationService.getRule_eq_ok got
    cases ran
    refine ⟨rfl, rfl, rfl, rfl, rfl, ?_⟩
    refine Table.filter_delete fun row inTable deleted => ?_
    obtain rfl := Table.eq_of_key_eq inTable member (of_decide_eq_true deleted)
    simp [mine]

theorem confined_setRuleEnabled {datasetUuid targetColumn : String} {enabled : Bool}
    {answer : VectorizationRule}
    (ran : VectorizationService.setEnabled (some caller) datasetUuid targetColumn enabled db =
      .ok (answer, after)) : Confined caller.tenantId datasetUuid db after := by
  unfold VectorizationService.setEnabled at ran
  split at ran
  · cases ran
  · rename_i rule got
    obtain ⟨member, mine⟩ := VectorizationService.getRule_eq_ok got
    split at ran
    · cases ran
      exact .updateRule _ member mine rfl
    · cases ran
      exact .refl _

end Operations

section Frame

variable {ε α : Type} {wrap : ε → ServiceError} {tenantId datasetUuid : String} {db : Database}

theorem confined_read {result : Except ε α} :
    Confined tenantId datasetUuid db (Call.read wrap db result).2 := by
  cases result with
  | ok answer => exact .refl db
  | error e => exact .refl db

theorem confined_commit {result : Except ε Database}
    (confined : ∀ after, result = .ok after → Confined tenantId datasetUuid db after) :
    Confined tenantId datasetUuid db (Call.commit wrap db result).2 := by
  cases result with
  | ok after => exact confined after rfl
  | error e => exact .refl db

theorem confined_commit_map {result : Except ε (α × Database)}
    (confined : ∀ answer after, result = .ok (answer, after) →
      Confined tenantId datasetUuid db after) :
    Confined tenantId datasetUuid db (Call.commit wrap db (result.map (·.2))).2 := by
  cases result with
  | ok pair => exact confined pair.1 pair.2 rfl
  | error e => exact .refl db

end Frame

/-- **Every operation keeps to its dataset** and to the caller's tasks. -/
theorem confined (caller : TenantPrincipal) (call : Call) (db : Database) :
    Confined caller.tenantId call.datasetUuid db (call.run (some caller) db).2 := by
  cases call with
  | createIndex draws newId args => exact confined_createIndex rfl
  | getIndex => exact confined_read
  | listIndexes => exact confined_read
  | dropIndex => exact confined_commit fun _ => confined_dropIndex
  | optimizeIndex => exact confined_optimizeIndex rfl
  | mergeIndex => exact confined_commit fun _ => confined_mergeIndex
  | createPolicy => exact confined_commit_map fun _ _ => confined_createPolicy
  | getPolicy => exact confined_read
  | listPolicies => exact confined_read
  | updatePolicy => exact confined_commit_map fun _ _ => confined_updatePolicy
  | deletePolicy => exact confined_commit fun _ => confined_deletePolicy
  | setPolicyEnabled => exact confined_commit_map fun _ _ => confined_setPolicyEnabled
  | createRule => exact confined_commit_map fun _ _ => confined_createRule
  | getRule => exact confined_read
  | listRules => exact confined_read
  | updateRule => exact confined_commit_map fun _ _ => confined_updateRule
  | deleteRule => exact confined_commit fun _ => confined_deleteRule
  | setRuleEnabled => exact confined_commit_map fun _ _ => confined_setRuleEnabled
  | submitVectorizeTask now taskUuid datasetUuid targetColumn =>
      refine confined_commit_map fun answer after ran => ?_
      obtain ⟨_, _, -, -, -, submitted⟩ := VectorizationService.submitVectorizeTask_cases ran
      exact .submitTask submitted

/-- **Child tables inherit the isolation of their datasets.**  A tenant that does not have the
dataset gets `DatasetNotFoundError` and changes nothing; one that has it changes child rows of
that dataset and tasks of its own. -/
theorem children_isolated (caller : TenantPrincipal) (tenant : caller.isSystem = false)
    (call : Call) (db : Database) :
    (¬ Owns caller.tenantId call.datasetUuid db →
      ∃ e, call.run (some caller) db = (.error e, db) ∧
        e.isDatasetNotFound call.datasetUuid = true) ∧
    (Owns caller.tenantId call.datasetUuid db →
      Confined caller.tenantId call.datasetUuid db (call.run (some caller) db).2) :=
  ⟨refused tenant call, fun _ => confined caller call db⟩

section Examples

/-- The dataset `d1` of `acme`, with a policy and a rule. -/
private def owned : Database where
  dataset :=
    .single
      { datasetUuid := "d1", catalog := "lake", dbSchema := "acme", tableName := "events",
        storageUri := "s3://acme/events", tenantId := "acme" }
  lifecyclePolicy :=
    .single
      { id := 1, datasetUuid := "d1", policyName := "p", ttlDays := some 30 }
  vectorizationRule :=
    .single
      { id := 1, datasetUuid := "d1", targetColumn := "emb", sourceColumns := some ["body"],
        modelName := "bge", modelVersion := "1" }

/-- `globex` cannot delete the policy, `acme` can clear its `ttl_days`. -/
theorem children_isolated_owned :
    (∃ e, (Call.deletePolicy "d1" "p").run (some (sdkOf "globex")) owned = (.error e, owned) ∧
      e.isDatasetNotFound "d1" = true) ∧
    Confined "acme" "d1" owned
      ((Call.updatePolicy "d1" "p" { ttlDays := some none }).run acmeSdk
        owned).2 :=
  ⟨(children_isolated (sdkOf "globex") rfl (.deletePolicy "d1" "p") owned).1 (by decide),
    (children_isolated (sdkOf "acme") rfl (.updatePolicy "d1" "p" { ttlDays := some none })
      owned).2 (by decide)⟩

end Examples

end Lcp.ChildTables
