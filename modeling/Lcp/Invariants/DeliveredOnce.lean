/-
# Invariants.DeliveredOnce -- requests that arrive more than once

A client that does not see the answer to its request sends it again, and each of the requests
may have arrived.  `SentAgain` is the same request with what the server draws drawn anew; only
a submission without a key and a creation that replaces are not `repeatable`.

* `respond_again`: by a tenant that is alone, a repeatable request that arrives again leaves
  the rows as they are;
* `respond_keyed`: what this takes of the rows, the UNIQUE names of policies and rules, every
  request keeps;
* `delivered_once`: so in a deployment of many tenants, whatever the others do between a
  request and its repetitions, a tenant's part of the database is the database of a deployment
  of its own to which each of its requests came once, and each is answered as there.
-/
import Lcp.Invariants.PrivateRuns
import Lcp.Services.RepeatedCalls
import Lcp.Theory.Redelivery

namespace Lcp.TenantRequests

open Theory
open ChildTables (Call)
open Rls (Collation)

set_option autoImplicit false

/-! ## Repetitions -/

/-- What the server draws for a request. -/
structure Redraw where
  now : DateTime
  uuid : String
  newId : Nat
  cause : TaskError → String := fun _ => ""

/-- The draws of a call of the index service. -/
def Redraw.draws (anew : Redraw) : IndexService.Draws :=
  { now := anew.now, taskUuid := anew.uuid, cause := anew.cause }

/-- The same call, with other draws. -/
def redrawnCall (anew : Redraw) : Call → Call
  | .createIndex _ _ args => .createIndex anew.draws anew.newId args
  | .optimizeIndex _ datasetUuid indexName => .optimizeIndex anew.draws datasetUuid indexName
  | .mergeIndex _ datasetUuid indexName => .mergeIndex anew.now datasetUuid indexName
  | .createPolicy _ datasetUuid payload => .createPolicy anew.newId datasetUuid payload
  | .createRule _ datasetUuid payload => .createRule anew.newId datasetUuid payload
  | .submitVectorizeTask _ _ datasetUuid targetColumn =>
      .submitVectorizeTask anew.now anew.uuid datasetUuid targetColumn
  | call => call

/-- The same request, with other draws. -/
def redrawn (anew : Redraw) : Request → Request
  | .createDataset _ payload => .createDataset anew.uuid payload
  | .submitTask _ _ request => .submitTask anew.now anew.uuid request
  | .cancelTask _ taskUuid => .cancelTask anew.now taskUuid
  | .child call => .child (redrawnCall anew call)
  | request => request

/-- The second request is the first one, sent again; a listing may be arranged otherwise. -/
inductive SentAgain : Request → Request → Prop where
  | redrawn (anew : Redraw) (request : Request) : SentAgain request (redrawn anew request)
  | listDatasets {createdAt : Dataset → DateTime} (arrangement anew : Arrangement createdAt)
      (filters : DatasetService.DatasetFilters) (page pageSize : Int) :
      SentAgain (.listDatasets createdAt arrangement filters page pageSize)
        (.listDatasets createdAt anew filters page pageSize)
  | listTasks (arrangement anew : Arrangement Task.createdAt) (filters : TaskService.TaskFilters)
      (page pageSize : Int) :
      SentAgain (.listTasks arrangement filters page pageSize)
        (.listTasks anew filters page pageSize)

/-- A submission without a key and a creation that replaces have their effect each time. -/
def repeatable : Request → Bool
  | .submitTask _ _ request => request.idempotencyKey.isSome
  | .child (.createIndex _ _ args) => !args.replaceIfExists
  | _ => true

/-- The uuid that is drawn for the task of a request. -/
def drawnTask : Request → Option String
  | .submitTask _ taskUuid _ => some taskUuid
  | .child (.createIndex draws ..) | .child (.optimizeIndex draws ..) => some draws.taskUuid
  | .child (.submitVectorizeTask _ taskUuid ..) => some taskUuid
  | _ => none

/-- No row has what is drawn for the request. -/
structure Drawn (db : Database) (request : Request) : Prop where
  task : ∀ taskUuid ∈ drawnTask request, taskUuid ∉ db.task.keys
  dataset : ∀ row ∈ newDataset request, row.1 ∉ db.dataset.keys
  index : ∀ newId ∈ newIndex request, newId ∉ db.vectorIndex.keys
  policy : ∀ newId ∈ newPolicy request, newId ∉ db.lifecyclePolicy.keys
  rule : ∀ newId ∈ newRule request, newId ∉ db.vectorizationRule.keys

instance (db : Database) (request : Request) : Decidable (Drawn db request) :=
  decidable_of_iff
    ((∀ taskUuid ∈ drawnTask request, taskUuid ∉ db.task.keys) ∧
      (∀ row ∈ newDataset request, row.1 ∉ db.dataset.keys) ∧
        (∀ newId ∈ newIndex request, newId ∉ db.vectorIndex.keys) ∧
          (∀ newId ∈ newPolicy request, newId ∉ db.lifecyclePolicy.keys) ∧
            ∀ newId ∈ newRule request, newId ∉ db.vectorizationRule.keys)
    ⟨fun ⟨task, dataset, index, policy, rule⟩ => ⟨task, dataset, index, policy, rule⟩,
      fun drawn => ⟨drawn.task, drawn.dataset, drawn.index, drawn.policy, drawn.rule⟩⟩

/-- The names of policies and rules are UNIQUE. -/
structure Keyed (db : Database) : Prop where
  names : LifecycleService.UniqueNames db
  columns : VectorizationService.UniqueColumns db

/-! ## A request that arrives again -/

section Again

variable {ε α : Type} {db : Database} {wrap : Except ε α → Answer}

theorem answered_again {op repeated : Database → Except ε (α × Database)}
    (refused : ∀ e, op db = .error e → ∃ e, repeated db = .error e)
    (ran : ∀ answer after, op db = .ok (answer, after) →
      (∃ e, repeated after = .error e) ∨ ∃ answer, repeated after = .ok (answer, after)) :
    (answered wrap (answered wrap db (op db)).2 (repeated (answered wrap db (op db)).2)).2 =
      (answered wrap db (op db)).2 := by
  cases first : op db with
  | error e =>
      obtain ⟨e, second⟩ := refused e first
      simp only [answered, second]
  | ok result =>
      obtain ⟨answer, after⟩ := result
      obtain ⟨e, second⟩ | ⟨answer, second⟩ := ran answer after first <;>
        simp only [answered, second]

theorem done_again {wrap : Except ε Unit → Answer} {op repeated : Database → Except ε Database}
    (refused : ∀ e, op db = .error e → ∃ e, repeated db = .error e)
    (ran : ∀ after, op db = .ok after →
      (∃ e, repeated after = .error e) ∨ repeated after = .ok after) :
    (done wrap (done wrap db (op db)).2 (repeated (done wrap db (op db)).2)).2 =
      (done wrap db (op db)).2 := by
  cases first : op db with
  | error e =>
      obtain ⟨e, second⟩ := refused e first
      simp only [done, answered, Except.map, second]
  | ok after =>
      obtain ⟨e, second⟩ | second := ran after first <;>
        simp only [done, answered, Except.map, second]

end Again

section Alone

variable {caller : TenantPrincipal} {db : Database}

/-- The tenant is alone, its request is repeatable, and nothing has what is drawn for it. -/
structure Settles (caller : TenantPrincipal) (db : Database) (request : Request) : Prop where
  repeatable : repeatable request = true
  drawn : Drawn db request
  keyed : Keyed db
  visible : ∀ task ∈ db.task.rows, caller.sees task.tenantId = true

theorem respondChild_again {call : Call} (settles : Settles caller db (.child call))
    (anew : Redraw) :
    (respondChild (some caller) (respondChild (some caller) db call).2 (redrawnCall anew call)).2 =
      (respondChild (some caller) db call).2 := by
  obtain ⟨repeatable, drawn, keyed, visible⟩ := settles
  cases call with
  | createIndex draws newId args =>
      have keep : args.replaceIfExists = false := by
        simpa [TenantRequests.repeatable] using repeatable
      exact IndexService.createIndex_again keep (drawn.index _ rfl)
  | optimizeIndex draws datasetUuid indexName =>
      exact IndexService.optimizeIndex_again (drawn.task _ rfl) visible
  | getIndex | listIndexes | getPolicy | listPolicies | getRule | listRules => rfl
  | dropIndex datasetUuid indexName =>
      exact done_again (fun e ran => ⟨e, ran⟩) fun _ ran => .inr (IndexService.dropIndex_again ran)
  | mergeIndex now datasetUuid indexName =>
      exact done_again (fun _ ran => IndexService.mergeIndex_refused ran)
        fun _ ran => .inl (IndexService.mergeIndex_again ran)
  | createPolicy newId datasetUuid payload =>
      exact answered_again
        (fun _ ran => LifecycleService.createPolicy_refused (drawn.policy _ rfl) ran)
        fun _ _ ran => .inl (LifecycleService.createPolicy_again ran)
  | updatePolicy datasetUuid policyName payload =>
      exact answered_again (fun e ran => ⟨e, ran⟩)
        fun _ _ ran => .inr ⟨_, LifecycleService.updatePolicy_again ran⟩
  | deletePolicy datasetUuid policyName =>
      exact done_again (fun e ran => ⟨e, ran⟩)
        fun _ ran => .inl (LifecycleService.deletePolicy_again keyed.names ran)
  | setPolicyEnabled datasetUuid policyName enabled =>
      exact answered_again (fun e ran => ⟨e, ran⟩)
        fun _ _ ran => .inr (LifecycleService.setEnabled_again ran)
  | createRule newId datasetUuid payload =>
      exact answered_again
        (fun _ ran => VectorizationService.createRule_refused (drawn.rule _ rfl) ran)
        fun _ _ ran => .inl (VectorizationService.createRule_again ran)
  | updateRule datasetUuid targetColumn payload =>
      exact answered_again (fun e ran => ⟨e, ran⟩)
        fun _ _ ran => .inr ⟨_, VectorizationService.updateRule_again ran⟩
  | deleteRule datasetUuid targetColumn =>
      exact done_again (fun e ran => ⟨e, ran⟩)
        fun _ ran => .inl (VectorizationService.deleteRule_again keyed.columns ran)
  | setRuleEnabled datasetUuid targetColumn enabled =>
      exact answered_again (fun e ran => ⟨e, ran⟩)
        fun _ _ ran => .inr (VectorizationService.setEnabled_again ran)
  | submitVectorizeTask now taskUuid datasetUuid targetColumn =>
      refine answered_again
        (fun _ ran => VectorizationService.submitVectorizeTask_refused (drawn.task _ rfl) ran)
        fun _ _ ran => .inr ?_
      obtain ⟨existing, again⟩ := VectorizationService.submitVectorizeTask_again ran
      exact ⟨_, again⟩

/-- **A request that arrives again** leaves the rows as they are. -/
theorem respond_again (collation : Collation) {request repetition : Request}
    (settles : Settles caller db request) (again : SentAgain request repetition) :
    (respond collation (some caller) (respond collation (some caller) db request).2
        repetition).2 =
      (respond collation (some caller) db request).2 := by
  cases again with
  | listDatasets | listTasks => rfl
  | redrawn anew =>
      have drawn := settles.drawn
      cases request with
      | createDataset datasetUuid payload =>
          exact answered_again
            (fun _ ran => DatasetService.createDataset_refused (drawn.dataset _ rfl) ran)
            fun _ _ ran => .inl (DatasetService.createDataset_again ran)
      | getDataset | listDatasets | getTask | listTasks => rfl
      | deleteDataset datasetUuid =>
          exact done_again (fun e ran => ⟨e, ran⟩)
            fun _ ran => .inl (DatasetService.deleteDataset_again ran)
      | submitTask now taskUuid request =>
          have keyed : (TaskService.routerSubmission request).idempotencyKey.isSome = true :=
            settles.repeatable
          refine answered_again
            (fun _ ran => TaskService.submitTask_refused (drawn.task _ rfl) ran)
            fun _ _ ran => .inr ?_
          obtain ⟨existing, again⟩ := TaskService.submitTask_again keyed ran
          exact ⟨_, again⟩
      | cancelTask now taskUuid =>
          exact answered_again (fun _ ran => TaskService.cancelTask_refused ran)
            fun _ _ ran => .inr (TaskService.cancelTask_again ran)
      | retryTask taskUuid =>
          exact answered_again (fun e ran => ⟨e, ran⟩)
            fun _ _ ran => .inl (TaskService.retryTask_again ran)
      | child call => exact respondChild_again settles anew

end Alone

/-! ## UNIQUE names -/

section Names

variable {principal : Option TenantPrincipal} {db after : Database} {ε α : Type}

theorem Keyed.frame (keyed : Keyed db) (policies : after.lifecyclePolicy = db.lifecyclePolicy)
    (rules : after.vectorizationRule = db.vectorizationRule) : Keyed after := by
  obtain ⟨names, columns⟩ := keyed
  refine ⟨?_, ?_⟩
  · rw [LifecycleService.UniqueNames, policies]
    exact names
  · rw [VectorizationService.UniqueColumns, rules]
    exact columns

theorem answered_keyed {wrap : Except ε α → Answer} {ran : Except ε (α × Database)}
    (keyed : Keyed db) (kept : ∀ answer after, ran = .ok (answer, after) → Keyed after) :
    Keyed (answered wrap db ran).2 := by
  cases ran with
  | error e => exact keyed
  | ok result => exact kept _ _ rfl

theorem done_keyed {wrap : Except ε Unit → Answer} {ran : Except ε Database} (keyed : Keyed db)
    (kept : ∀ after, ran = .ok after → Keyed after) : Keyed (done wrap db ran).2 := by
  cases ran with
  | error e => exact keyed
  | ok after => exact kept _ rfl

theorem Keyed.submitTask (keyed : Keyed db) {now : DateTime} {taskUuid : String}
    {args : TaskService.Submission} {answer : Task × Bool}
    (ran : TaskService.submitTask principal now taskUuid args db = .ok (answer, after)) :
    Keyed after := by
  rw [TaskService.submitTask_frame ran]
  exact keyed.frame rfl rfl

theorem Keyed.insertIndex (keyed : Keyed db) {args : IndexService.Creation} {index : Index}
    (inserted : IndexService.insertIndex index (IndexService.clearName args db) = some after) :
    Keyed after := by
  have cleared : Keyed (IndexService.clearName args db) := by
    unfold IndexService.clearName
    split
    · split
      · exact keyed
      · exact keyed.frame rfl rfl
    · exact keyed
  obtain ⟨-, table, -, rfl⟩ := IndexService.insertIndex_eq_some inserted
  exact cleared.frame rfl rfl

theorem Keyed.createIndex (keyed : Keyed db) {draws : IndexService.Draws} {newId : Nat}
    {args : IndexService.Creation} :
    Keyed (IndexService.createIndex principal draws newId args db).2 := by
  cases ran : IndexService.createIndex principal draws newId args db with
  | mk answer after =>
      cases IndexService.createIndex_effect ran with
      | nothing e => exact keyed
      | created guard row submitted => exact (keyed.insertIndex row).submitTask submitted
      | failed guard row submitted => exact (keyed.insertIndex row).frame rfl rfl

theorem Keyed.optimizeIndex (keyed : Keyed db) {draws : IndexService.Draws}
    {datasetUuid indexName : String} :
    Keyed (IndexService.optimizeIndex principal draws datasetUuid indexName db).2 := by
  cases ran : IndexService.optimizeIndex principal draws datasetUuid indexName db with
  | mk answer after =>
      cases IndexService.optimizeIndex_effect ran with
      | nothing e => exact keyed
      | @started index after answer got ready submitted =>
          have flipped : Keyed (IndexService.updateIndex index.id (Index.startOptimize draws.now)
              (Index.id_startOptimize draws.now) db) := keyed.frame rfl rfl
          exact flipped.submitTask submitted
      | failed got ready => exact keyed.frame rfl rfl

theorem Keyed.createPolicy (keyed : Keyed db) {newId : Nat} {datasetUuid : String}
    {payload : PolicyCreateRequest} {answer : LifecyclePolicy}
    (ran : LifecycleService.createPolicy principal newId datasetUuid payload db =
      .ok (answer, after)) : Keyed after := by
  unfold LifecycleService.createPolicy at ran
  split at ran
  · cases ran
  · split at ran
    · rename_i inserted
      cases ran
      obtain ⟨table, added, rfl⟩ := LifecycleService.insertPolicy_eq_some inserted
      refine ⟨keyed.names.insert? added fun policy member same => ?_, keyed.columns⟩
      obtain ⟨dataset, name⟩ := Prod.mk.inj same
      have refused : LifecycleService.insertPolicy
          (LifecycleService.insertedRow datasetUuid payload newId) db = none :=
        LifecycleService.insertPolicy_eq_none.2 (.inl (List.any_eq_true.2
          ⟨policy, member, decide_eq_true ⟨dataset, name⟩⟩))
      rw [refused] at inserted
      cases inserted
    · cases ran

theorem Keyed.createRule (keyed : Keyed db) {newId : Nat} {datasetUuid : String}
    {payload : RuleCreateRequest} {answer : VectorizationRule}
    (ran : VectorizationService.createRule principal newId datasetUuid payload db =
      .ok (answer, after)) : Keyed after := by
  unfold VectorizationService.createRule at ran
  split at ran
  · cases ran
  · split at ran
    · rename_i inserted
      cases ran
      obtain ⟨table, added, rfl⟩ := VectorizationService.insertRule_eq_some inserted
      refine ⟨keyed.names, keyed.columns.insert? added fun rule member same => ?_⟩
      obtain ⟨dataset, column⟩ := Prod.mk.inj same
      have refused : VectorizationService.insertRule
          (VectorizationService.row datasetUuid payload newId) db = none :=
        VectorizationService.insertRule_eq_none.2 (.inl (List.any_eq_true.2
          ⟨rule, member, decide_eq_true ⟨dataset, column⟩⟩))
      rw [refused] at inserted
      cases inserted
    · cases ran

/-- An assignment to a policy that keeps its name. -/
theorem Keyed.updatePolicy (keyed : Keyed db) {id : Nat}
    {assign : LifecyclePolicy → LifecyclePolicy}
    (keeps : ∀ policy, (assign policy).id = policy.id)
    (stays : ∀ policy, ((assign policy).datasetUuid, (assign policy).policyName) =
      (policy.datasetUuid, policy.policyName)) :
    Keyed { db with lifecyclePolicy := db.lifecyclePolicy.update id assign keeps } :=
  ⟨keyed.names.update keeps stays, keyed.columns⟩

/-- An assignment to a rule that keeps its column. -/
theorem Keyed.updateRule (keyed : Keyed db) {id : Nat}
    {assign : VectorizationRule → VectorizationRule}
    (keeps : ∀ rule, (assign rule).id = rule.id)
    (stays : ∀ rule, ((assign rule).datasetUuid, (assign rule).targetColumn) =
      (rule.datasetUuid, rule.targetColumn)) :
    Keyed { db with vectorizationRule := db.vectorizationRule.update id assign keeps } :=
  ⟨keyed.names, keyed.columns.update keeps stays⟩

theorem respondChild_keyed (keyed : Keyed db) (call : Call) :
    Keyed (respondChild principal db call).2 := by
  cases call with
  | createIndex draws newId args => exact keyed.createIndex
  | optimizeIndex draws datasetUuid indexName => exact keyed.optimizeIndex
  | getIndex | listIndexes | getPolicy | listPolicies | getRule | listRules => exact keyed
  | dropIndex datasetUuid indexName =>
      refine done_keyed keyed fun after ran => ?_
      obtain ⟨index, -, ⟨-, rfl⟩ | rfl⟩ := IndexService.dropIndex_cases ran
      · exact keyed
      · exact keyed.frame rfl rfl
  | mergeIndex now datasetUuid indexName =>
      refine done_keyed keyed fun after ran => ?_
      obtain ⟨index, -, -, rfl⟩ := IndexService.mergeIndex_cases ran
      exact keyed.frame rfl rfl
  | createPolicy newId datasetUuid payload =>
      exact answered_keyed keyed fun _ _ ran => keyed.createPolicy ran
  | updatePolicy datasetUuid policyName payload =>
      refine answered_keyed keyed fun answer after ran => ?_
      obtain ⟨policy, -, -, rfl⟩ := LifecycleService.updatePolicy_cases ran
      refine keyed.updatePolicy _ fun row => ?_
      cases assigned : row.patch payload with
      | none => rfl
      | some patched =>
          obtain ⟨-, rfl⟩ := LifecyclePolicy.patch_eq_some_iff.1 assigned
          rfl
  | deletePolicy datasetUuid policyName =>
      refine done_keyed keyed fun after ran => ?_
      unfold LifecycleService.deletePolicy at ran
      split at ran
      · cases ran
      · cases ran
        exact ⟨keyed.names.of_subset fun _ left => (Table.mem_delete.1 left).1, keyed.columns⟩
  | setPolicyEnabled datasetUuid policyName enabled =>
      refine answered_keyed keyed fun answer after ran => ?_
      unfold LifecycleService.setEnabled at ran
      split at ran
      · cases ran
      · split at ran
        · cases ran
          exact keyed.updatePolicy _ fun _ => rfl
        · cases ran
          exact keyed
  | createRule newId datasetUuid payload =>
      exact answered_keyed keyed fun _ _ ran => keyed.createRule ran
  | updateRule datasetUuid targetColumn payload =>
      refine answered_keyed keyed fun answer after ran => ?_
      obtain ⟨rule, -, -, -, rfl⟩ := VectorizationService.updateRule_cases ran
      refine keyed.updateRule _ fun row => ?_
      cases assigned : row.patch payload with
      | none => rfl
      | some patched =>
          obtain ⟨-, rfl⟩ := VectorizationRule.patch_eq_some_iff.1 assigned
          rfl
  | deleteRule datasetUuid targetColumn =>
      refine done_keyed keyed fun after ran => ?_
      unfold VectorizationService.deleteRule at ran
      split at ran
      · cases ran
      · cases ran
        exact ⟨keyed.names, keyed.columns.of_subset fun _ left => (Table.mem_delete.1 left).1⟩
  | setRuleEnabled datasetUuid targetColumn enabled =>
      refine answered_keyed keyed fun answer after ran => ?_
      unfold VectorizationService.setEnabled at ran
      split at ran
      · cases ran
      · split at ran
        · cases ran
          exact keyed.updateRule _ fun _ => rfl
        · cases ran
          exact keyed
  | submitVectorizeTask now taskUuid datasetUuid targetColumn =>
      refine answered_keyed keyed fun answer after ran => ?_
      obtain ⟨_, _, -, -, -, submitted⟩ := VectorizationService.submitVectorizeTask_cases ran
      exact keyed.submitTask submitted

/-- **Names stay UNIQUE** under every request. -/
theorem respond_keyed (collation : Collation) (keyed : Keyed db) (request : Request) :
    Keyed (respond collation principal db request).2 := by
  cases request with
  | createDataset datasetUuid payload =>
      refine answered_keyed keyed fun answer after ran => ?_
      obtain ⟨_, table, -, -, -, rfl⟩ := DatasetService.createDataset_cases ran
      exact keyed.frame rfl rfl
  | getDataset | listDatasets | getTask | listTasks => exact keyed
  | deleteDataset datasetUuid =>
      refine done_keyed keyed fun after ran => ?_
      obtain ⟨_, -, rfl⟩ := DatasetService.deleteDataset_cases ran
      exact keyed.frame rfl rfl
  | submitTask now taskUuid request =>
      exact answered_keyed keyed fun _ _ ran => keyed.submitTask ran
  | cancelTask now taskUuid =>
      refine answered_keyed keyed fun answer after ran => ?_
      obtain ⟨task, -, ⟨-, rfl⟩ | ⟨-, rfl⟩⟩ := TaskService.cancelTask_cases ran
      · exact keyed
      · exact keyed.frame rfl rfl
  | retryTask taskUuid =>
      refine answered_keyed keyed fun answer after ran => ?_
      obtain ⟨task, -, -, -, rfl⟩ := TaskService.retryTask_cases ran
      exact keyed.frame rfl rfl
  | child call => exact respondChild_keyed keyed call

end Names

/-! ## Runs -/

section View

variable {tenantId : String} {db : Database}

theorem Keyed.view (keyed : Keyed db) : Keyed (view tenantId db) :=
  ⟨keyed.names.of_subset fun _ inside => (Table.mem_only.1 inside).1,
    keyed.columns.of_subset fun _ inside => (Table.mem_only.1 inside).1⟩

/-- Nothing on the whole has what is drawn, so nothing of the tenant's has. -/
theorem Drawn.view {request : Request} (drawn : Drawn db request) :
    Drawn (view tenantId db) request := by
  have fewer : ∀ {ρ κ : Type} {key : ρ → κ} (T : Table ρ key) (p : ρ → Bool) (k : κ),
      k ∉ T.keys → k ∉ (T.only p).keys := by
    intro ρ κ key T p k absent present
    obtain ⟨row, inside, same⟩ := List.mem_map.1 present
    exact absent (List.mem_map.2 ⟨row, (Table.mem_only.1 inside).1, same⟩)
  exact ⟨fun uuid member => fewer _ _ _ (drawn.task uuid member),
    fun row member => fewer _ _ _ (drawn.dataset row member),
    fun newId member => fewer _ _ _ (drawn.index newId member),
    fun newId member => fewer _ _ _ (drawn.policy newId member),
    fun newId member => fewer _ _ _ (drawn.rule newId member)⟩

end View

/-- The same request under the same principal. -/
def Repetition (original sent : TenantPrincipal × Request) : Prop :=
  original.1 = sent.1 ∧ SentAgain original.2 sent.2

/-- The first time that a request arrives: it is repeatable, and what is drawn for it is new. -/
def Original (db : Database) (sent : TenantPrincipal × Request) : Prop :=
  repeatable sent.2 = true ∧ Drawn db sent.2

instance (db : Database) (sent : TenantPrincipal × Request) : Decidable (Original db sent) :=
  instDecidableAnd

theorem absorbs (collation : Collation) :
    (deployment collation).Absorbs Repetition fun db sent => Settles sent.1 db sent.2 := by
  rintro db ⟨caller, request⟩ ⟨_, repetition⟩ settles ⟨rfl, again⟩
  exact respond_again collation settles again

/-- **Each request counts once.**  A tenant in a shared deployment, whose requests arrive once
or more, receives for each the answer of a deployment of its own to which it came once, and
its part of the database is the database of that deployment. -/
theorem delivered_once (collation : Collation) (tenantId : String) (db : Database)
    (deliveries : List (Delivery (TenantPrincipal × Request))) (keyed : Keyed db)
    (admitted : (deployment collation).delivering.Meets
      (fun db delivery => Admitted collation db delivery.sent) db deliveries)
    (originals : (deployment collation).delivering.Meets
      (fun db delivery => delivery.isFirst = true → sentBy tenantId delivery.sent = true →
        Original db delivery.sent) db deliveries)
    (repeated : Delivery.Repeats Repetition (sentBy tenantId) none deliveries) :
    (deployment collation).delivering.answers
        (fun delivery => delivery.isFirst && sentBy tenantId delivery.sent) db deliveries =
        (deployment collation).answers (fun _ => true) (view tenantId db)
          (Delivery.meant (sentBy tenantId) deliveries) ∧
      view tenantId ((deployment collation).delivering.final db deliveries) =
        (deployment collation).final (view tenantId db)
          (Delivery.meant (sentBy tenantId) deliveries) := by
  have always := originals.along (I := Keyed)
    (fun db delivery _ keyed => respond_keyed collation keyed delivery.sent.2) keyed
  refine Service.exactly_once (separates collation tenantId) (absorbs collation) admitted
    (always.mono ?_) repeated
  intro db delivery ⟨original, keyed⟩ isFirst mine
  obtain ⟨repeatable, drawn⟩ := original isFirst mine
  refine ⟨repeatable, drawn.view, keyed.view, fun task inside => ?_⟩
  have own : task.tenantId = tenantId := of_decide_eq_true (Table.mem_only.1 inside).2
  have sender : delivery.sent.1.tenantId = tenantId := of_decide_eq_true mine
  simp [TenantPrincipal.sees, own, sender]

section Examples

private def registration (dbSchema : String) : DatasetRegisterRequest :=
  { catalog := "lake", dbSchema, tableName := "events", storageUri := "s3://lake" }

private def creation : IndexService.Creation :=
  { datasetUuid := "d1", indexName := "ann", columnName := "vector", indexType := "IVF_PQ" }

/-- The connection of `acme` breaks twice: it registers its dataset again after `globex`
registered one, and creates its index again. -/
private def brokenConnection : List (Delivery (TenantPrincipal × Request)) :=
  [.first (sdkOf "acme", .createDataset "d1" (registration "acme")),
    .first (sdkOf "globex", .createDataset "d2" (registration "globex")),
    .again (sdkOf "acme", .createDataset "d3" (registration "acme")),
    .first (sdkOf "acme", .child (.createIndex { now := 1, taskUuid := "t1" } 1 creation)),
    .again (sdkOf "acme", .child (.createIndex { now := 2, taskUuid := "t2" } 2 creation)),
    .first (sdkOf "globex", .getDataset "d2")]

private theorem brokenConnection_repeats :
    Delivery.Repeats Repetition (sentBy "acme") none brokenConnection := by
  have dataset : Repetition (sdkOf "acme", .createDataset "d1" (registration "acme"))
      (sdkOf "acme", .createDataset "d3" (registration "acme")) :=
    ⟨rfl, .redrawn { now := 0, uuid := "d3", newId := 0 } _⟩
  have index : Repetition
      (sdkOf "acme", .child (.createIndex { now := 1, taskUuid := "t1" } 1 creation))
      (sdkOf "acme", .child (.createIndex { now := 2, taskUuid := "t2" } 2 creation)) :=
    ⟨rfl, .redrawn { now := 2, uuid := "t2", newId := 2 } _⟩
  exact ⟨fun _ => ⟨_, rfl, dataset⟩, fun _ => ⟨_, rfl, index⟩, trivial⟩

theorem delivered_once_brokenConnection :
    (deployment .binary).delivering.answers
        (fun delivery => delivery.isFirst && sentBy "acme" delivery.sent) {} brokenConnection =
        (deployment .binary).answers (fun _ => true) (view "acme" {})
          (Delivery.meant (sentBy "acme") brokenConnection) ∧
      view "acme" ((deployment .binary).delivering.final {} brokenConnection) =
        (deployment .binary).final (view "acme" {})
          (Delivery.meant (sentBy "acme") brokenConnection) :=
  delivered_once .binary "acme" {} brokenConnection
    ⟨by simp [LifecycleService.UniqueNames, Table.UniqueBy],
      by simp [VectorizationService.UniqueColumns, Table.UniqueBy]⟩
    (by decide) (by decide) brokenConnection_repeats

end Examples

/-! ## What is not repeatable -/

/-- **A submission without a key** counts each time it arrives. -/
theorem unkeyed_twice {collation : Collation} {caller : TenantPrincipal} {db : Database}
    {now later : DateTime} {taskUuid redrawn : String} {request : TaskSubmitRequest}
    (unkeyed : request.idempotencyKey = none) (fresh : taskUuid ∉ db.task.keys)
    (other : redrawn ∉ db.task.keys) (apart : redrawn ≠ taskUuid) :
    (respond collation (some caller)
        (respond collation (some caller) db (.submitTask now taskUuid request)).2
        (.submitTask later redrawn request)).2.task.rows.length = db.task.rows.length + 2 := by
  obtain ⟨once, first, rows⟩ : ∃ after, TaskService.submitTask (some caller) now taskUuid
        (TaskService.routerSubmission request) db =
          .ok (((TaskService.routerSubmission request).row caller taskUuid now, true), after) ∧
      after.task.rows =
        db.task.rows ++ [(TaskService.routerSubmission request).row caller taskUuid now] :=
    TaskService.submitTask_unkeyed unkeyed fresh
  have stillFree : redrawn ∉ once.task.keys := by
    rw [Table.keys, rows, List.map_append, List.mem_append, not_or]
    exact ⟨other, by simpa [TaskService.Submission.row] using apart⟩
  obtain ⟨twice, second, more⟩ : ∃ after, TaskService.submitTask (some caller) later redrawn
        (TaskService.routerSubmission request) once =
          .ok (((TaskService.routerSubmission request).row caller redrawn later, true), after) ∧
      after.task.rows =
        once.task.rows ++ [(TaskService.routerSubmission request).row caller redrawn later] :=
    TaskService.submitTask_unkeyed unkeyed stillFree
  simp only [respond, first, answered, second, more, rows, List.length_append, List.length_cons,
    List.length_nil]

end Lcp.TenantRequests
