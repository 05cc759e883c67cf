/-
# Services.PlannerDue -- what a planner pass wants to insert

The four stages of `_plan_for_policy` differ in when they want a task and in its
parameters.  `dues` is the list of the inserts they want for one policy, in
order; `planForPolicy_eq` says that planning a policy is trying them one after
the other and recording the pass.
-/
import Lcp.Services.LifecyclePlannerService

namespace Lcp

open Theory Emission

set_option autoImplicit false

/-- One insert that a pass wants to make. -/
structure Due where
  dataset : Dataset
  taskType : TaskType
  key : String
  params : JsonDict

namespace Due

variable (draw : Nat → String) (now : DateTime)

/-- Look the key up and insert the task when it is free. -/
def emit (due : Due) (tick : Tick) : Except PassError Tick :=
  tryEmit draw now due.dataset due.taskType due.key due.params tick

def emitAll (dues : List Due) (tick : Tick) : Except PassError Tick :=
  dues.foldlM (fun tick due => due.emit draw now tick) tick

variable {draw now}

theorem emitAll_append (first second : List Due) (tick : Tick) :
    emitAll draw now (first ++ second) tick =
      emitAll draw now first tick >>= emitAll draw now second := by
  unfold emitAll
  exact List.foldlM_append

@[simp] theorem emitAll_nil (tick : Tick) : emitAll draw now [] tick = .ok tick := rfl

@[simp] theorem emitAll_singleton (due : Due) (tick : Tick) :
    emitAll draw now [due] tick = due.emit draw now tick := by
  unfold emitAll
  rw [List.foldlM_cons]
  cases due.emit draw now tick <;> rfl

/-- What inserting tasks leaves alone. -/
theorem emitAll_frame {dues : List Due} {tick after : Tick}
    (ran : emitAll draw now dues tick = .ok after) :
    after.db = { tick.db with task := after.db.task } := by
  have frame : Keeps (fun db => db = { tick.db with task := db.task })
      fun next => dues.foldlM (fun tick due => due.emit draw now tick) next := by
    refine Keeps.loop fun due _ next last same emitted => ?_
    obtain ⟨-, kept⟩ | ⟨-, -, inserted⟩ := tryEmit_cases emitted
    · exact kept ▸ same
    · obtain ⟨table, -, rows, -⟩ := TaskService.insertTask_eq_some inserted
      rw [rows, same]
  exact frame rfl ran

end Due

namespace LifecyclePlannerService

variable (now : DateTime)

/-- The insert that `_try_emit_task` is asked for. -/
def policyDue (policy : LifecyclePolicy) (dataset : Dataset) (taskType : TaskType)
    (bucket : String) (params : JsonDict) : Due :=
  { dataset, taskType, params
    key := idempotencyKey policy.id taskType bucket dataset.tenantId }

def ttlDue (policy : LifecyclePolicy) (dataset : Dataset) : List Due :=
  match policy.ttlDays with
  | none => []
  | some days =>
      [policyDue policy dataset .ttlDelete (dayBucket now)
        [("ttl_days", .int days), ("policy_name", .str policy.policyName)]]

def compactionDue (policy : LifecyclePolicy) (dataset : Dataset) : List Due :=
  match policy.compactionThreshold with
  | none | some [] => []
  | some threshold =>
      [policyDue policy dataset .compaction (dayBucket now)
        [("threshold", .dict threshold), ("policy_name", .str policy.policyName)]]

/-- The automatic trigger for one hot index. -/
def autoOptimizeDue (policy : LifecyclePolicy) (dataset : Dataset) (index : Index) : Due :=
  { dataset
    taskType := .indexOptimize
    key := dataset.tenantId ++ ":auto-optimize:" ++ dataset.datasetUuid ++ "/" ++
      index.indexName ++ ":" ++ hourBucket now
    params :=
      [ ("index_name", .str index.indexName),
        ("policy_name", .str policy.policyName),
        ("trigger", .str "delta_threshold"),
        ("delta_count", .int index.deltaCount) ] }

def indexOptimizeDue (policy : LifecyclePolicy) (dataset : Dataset) (db : Database) : List Due :=
  match policy.indexOptimizeCron.filter (· ≠ "") with
  | some cron =>
      [policyDue policy dataset .indexOptimize (hourBucket now)
        [("cron", .str cron), ("policy_name", .str policy.policyName)]]
  | none => (hotIndexes dataset db).map (autoOptimizeDue now policy dataset)

def vectorizeDue (policy : LifecyclePolicy) (dataset : Dataset) (rule : VectorizationRule) :
    Due :=
  policyDue policy dataset .vectorize (hourBucket now)
    [ ("target_column", .str rule.targetColumn),
      ("source_columns", match rule.sourceColumns with
        | some columns => .list (columns.map .str)
        | none => .null),
      ("model_name", .str rule.modelName),
      ("model_version", .str rule.modelVersion),
      ("model_endpoint", .str (rule.modelEndpoint.getD "")),
      ("batch_size", .int rule.batchSize),
      ("policy_name", .str policy.policyName),
      ("rule_id", .int rule.id) ]

/-- The inserts that planning the policy wants, in order. -/
def dues (policy : LifecyclePolicy) (dataset : Dataset) (db : Database) : List Due :=
  ttlDue now policy dataset ++ compactionDue now policy dataset ++
    indexOptimizeDue now policy dataset db ++
    (enabledRules dataset db).map (vectorizeDue now policy dataset)

/-- The assignment that ends the planning of a policy. -/
def recordRun (policy : LifecyclePolicy) (tick : Tick) : Tick :=
  { tick with
    db := { tick.db with
      lifecyclePolicy := tick.db.lifecyclePolicy.update policy.id
        (LifecyclePolicy.recordRun now) (LifecyclePolicy.id_recordRun now) } }

variable {now} {draw : Nat → String}

/-- The dues depend on the policy, the dataset, its indexes and its rules. -/
theorem dues_congr {one two : Database} (index : one.vectorIndex = two.vectorIndex)
    (rule : one.vectorizationRule = two.vectorizationRule) (policy : LifecyclePolicy)
    (dataset : Dataset) : dues now policy dataset one = dues now policy dataset two := by
  unfold dues indexOptimizeDue hotIndexes enabledRules
  rw [index, rule]

theorem dataset_of_mem_dues {policy : LifecyclePolicy} {dataset : Dataset} {db : Database}
    {due : Due} (member : due ∈ dues now policy dataset db) : due.dataset = dataset := by
  simp only [dues, List.mem_append, List.mem_map] at member
  rcases member with ((inTtl | inCompaction) | inOptimize) | ⟨rule, -, rfl⟩
  · unfold ttlDue at inTtl
    split at inTtl
    · simp at inTtl
    · rw [List.mem_singleton.1 inTtl]
      rfl
  · unfold compactionDue at inCompaction
    split at inCompaction
    · simp at inCompaction
    · simp at inCompaction
    · rw [List.mem_singleton.1 inCompaction]
      rfl
  · unfold indexOptimizeDue at inOptimize
    split at inOptimize
    · rw [List.mem_singleton.1 inOptimize]
      rfl
    · obtain ⟨index, -, rfl⟩ := List.mem_map.1 inOptimize
      rfl
  · rfl

/-! ## Planning a policy is trying its dues -/

theorem emitTtlDelete_eq (policy : LifecyclePolicy) (dataset : Dataset) (tick : Tick) :
    emitTtlDelete draw now policy dataset tick =
      Due.emitAll draw now (ttlDue now policy dataset) tick := by
  cases days : policy.ttlDays <;>
    simp [emitTtlDelete, ttlDue, days, Due.emit, policyDue, tryEmitTask]

theorem emitCompaction_eq (policy : LifecyclePolicy) (dataset : Dataset) (tick : Tick) :
    emitCompaction draw now policy dataset tick =
      Due.emitAll draw now (compactionDue now policy dataset) tick := by
  rcases threshold : policy.compactionThreshold with _ | _ | ⟨entry, rest⟩ <;>
    simp [emitCompaction, compactionDue, threshold, Due.emit, policyDue, tryEmitTask]

theorem emitIndexOptimize_eq (policy : LifecyclePolicy) (dataset : Dataset) (tick : Tick) :
    emitIndexOptimize draw now policy dataset tick =
      Due.emitAll draw now (indexOptimizeDue now policy dataset tick.db) tick := by
  cases cron : policy.indexOptimizeCron.filter (· ≠ "") with
  | some expression =>
      simp only [emitIndexOptimize, indexOptimizeDue, cron, Due.emitAll_singleton]
      rfl
  | none =>
      simp only [emitIndexOptimize, indexOptimizeDue, cron, Due.emitAll, List.foldlM_map]
      rfl

/-- Continuations that agree on what the first part can return. -/
theorem bind_congr_ok {ε α β : Type} {first : Except ε α} {one two : α → Except ε β}
    (agree : ∀ a, first = .ok a → one a = two a) : first >>= one = first >>= two := by
  cases first with
  | error e => rfl
  | ok a => exact agree a rfl

/-- **Planning a policy** tries its dues in order and records the pass. -/
theorem planForPolicy_eq (policy : LifecyclePolicy) (dataset : Dataset) (tick : Tick) :
    planForPolicy draw now policy dataset tick =
      Due.emitAll draw now (dues now policy dataset tick.db) tick >>= fun next =>
        .ok (recordRun now policy next) := by
  have vectorize : ∀ next : Tick, (enabledRules dataset next.db).foldlM
      (fun tick rule => emitVectorize draw now policy dataset rule tick) next =
        Due.emitAll draw now ((enabledRules dataset next.db).map (vectorizeDue now policy dataset))
          next := by
    intro next
    rw [Due.emitAll, List.foldlM_map]
    rfl
  simp only [planForPolicy, emitTtlDelete_eq, emitCompaction_eq, emitIndexOptimize_eq, vectorize,
    dues, Due.emitAll_append, bind_assoc]
  refine bind_congr_ok fun one ranOne => bind_congr_ok fun two ranTwo => ?_
  have same : two.db = { tick.db with task := two.db.task } := by
    rw [Due.emitAll_frame ranTwo, Due.emitAll_frame ranOne]
  have hot : indexOptimizeDue now policy dataset two.db =
      indexOptimizeDue now policy dataset tick.db := by
    rw [same]
    rfl
  rw [hot]
  refine bind_congr_ok fun three ranThree => ?_
  have rules : enabledRules dataset three.db = enabledRules dataset tick.db := by
    rw [Due.emitAll_frame ranThree, same]
    rfl
  rw [rules]
  rfl

end LifecyclePlannerService

end Lcp
