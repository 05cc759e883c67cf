/-
# Workers.VectorizeContract -- what the producers of VECTORIZE write and what its executor reads

The executor resolves its arguments from `task.params` alone, and a key that is not there
gets a default.  `plan_once` writes the columns, the model and the batch size of a rule, but
not its `extra`.  `submit_vectorize_task` writes the id of the rule, which the executor does
not look up: it reads no source columns and returns without embedding anything.
-/
import Lcp.Services.PlannerPass
import Lcp.Services.VectorizationService
import Lcp.Workers.LifecycleWorkerService

namespace Lcp.VectorizeContract

open Theory LifecyclePlannerService

set_option autoImplicit false

/-- Who emits VECTORIZE tasks. -/
inductive Producer where
  | planOnce
  | submitVectorizeTask
deriving DecidableEq

/-- The producer emits the task for the rule of the dataset. -/
inductive Emits (db : Database) (dataset : Dataset) (rule : VectorizationRule) (task : Task) :
    Producer → Prop
  | planOnce {draw : Nat → String} {now : DateTime} {principal : Option TenantPrincipal}
      {report : PlannerTick} {after : Database}
      (ran : LifecyclePlannerService.planOnce draw now principal db = .ok (report, after))
      (member : task ∈ after.task.rows) (emitted : task.taskUuid ∈ report.emittedTasks)
      (taskType : task.taskType = .vectorize)
      (ruled : Json.get? (task.params.getD []) "rule_id" = some (.int rule.id)) :
      Emits db dataset rule task .planOnce
  | submitVectorizeTask {principal : Option TenantPrincipal} {now : DateTime} {taskUuid : String}
      {after : Database}
      (ran : VectorizationService.submitVectorizeTask principal now taskUuid dataset.datasetUuid
        rule.targetColumn db = .ok ((task, true), after)) :
      Emits db dataset rule task .submitVectorizeTask

/-- The value that a rule's `extra` sets, if it is a truthy one. -/
def extraValue (rule : VectorizationRule) (key : String) : Option Json :=
  (Json.get? (rule.extra.getD []) key).filter Json.truthy

/-- The arguments are those of the rule. -/
structure Serves (rule : VectorizationRule) (call : VectorizeCall) : Prop where
  targetColumn : call.targetColumn = .str rule.targetColumn
  sourceColumns :
    rule.sourceColumns.map (fun columns => .list (columns.map .str)) = some call.sourceColumns
  modelName : call.modelName = .str rule.modelName
  batchSize : call.batchSize = rule.batchSize
  endpoint : ∀ endpoint ∈ rule.modelEndpoint, endpoint ≠ "" → call.endpoint = .str endpoint
  apiKey : ∀ key ∈ extraValue rule "api_key", call.apiKey = key
  apiKeyHeader : ∀ header ∈ extraValue rule "api_key_header", call.apiKeyHeader = header

/-- Whatever `_vectorize_sync` does, running the task is calling it with these arguments. -/
def Calls {Disk : Type} (executor : LifecycleExecutor Disk) (context : ExecutorContext)
    (task : Task) (dataset : Dataset) (rows : Database) (disk : Disk) (call : VectorizeCall) :
    Prop :=
  ∀ sync : VectorizeCall → Except PyException JsonDict,
    executor.execute { context with vectorizeSync := sync } task dataset rows disk =
      ((sync call).map fun payload => (payload, rows), disk)

/-- The keys that the rule's `extra` sets are those of the settings. -/
def KeysOfSettings (context : ExecutorContext) (rule : VectorizationRule) : Prop :=
  (∀ key ∈ extraValue rule "api_key", key = .str context.embeddingApiKey) ∧
    ∀ header ∈ extraValue rule "api_key_header", header = .str context.embeddingApiKeyHeader

/-! ## The tasks -/

section Tasks

variable {db : Database} {dataset : Dataset} {rule : VectorizationRule} {task : Task}

/-- A task of `plan_once` that carries a rule's id carries that rule. -/
theorem params_of_planOnce {draw : Nat → String} {now : DateTime}
    {principal : Option TenantPrincipal} {report : PlannerTick} {after : Database}
    (inRules : rule ∈ db.vectorizationRule.rows)
    (ran : planOnce draw now principal db = .ok (report, after))
    (member : task ∈ after.task.rows) (emitted : task.taskUuid ∈ report.emittedTasks)
    (taskType : task.taskType = .vectorize)
    (ruled : Json.get? (task.params.getD []) "rule_id" = some (.int rule.id)) :
    ∃ policy parent, task.params = some (vectorizeDue now policy parent rule).params := by
  obtain ⟨tick, tried, table, listed, -⟩ := planOnce_tried ran
  obtain ⟨fresh, rows, uuids, dueOf, -⟩ := tried.rows
  rw [listed, uuids] at emitted
  obtain ⟨own, inFresh, uuid⟩ := List.mem_map.1 (by simpa using emitted)
  have same : own = task :=
    Table.eq_of_key_eq (by rw [table, rows]; exact List.mem_append_right _ inFresh) member uuid
  obtain ⟨due, first, row, -⟩ := dueOf own inFresh
  rw [same] at row
  have type : due.taskType = .vectorize := by
    rw [row] at taskType
    exact taskType
  obtain ⟨policy, -, parent, -, other, enabled, rfl⟩ :=
    vectorize_of_mem_passDues (List.mem_of_find?_eq_some first) type
  have params : task.params = some (vectorizeDue now policy parent other).params := by
    rw [row]
    rfl
  have id : Json.get? (vectorizeDue now policy parent other).params "rule_id" =
      some (.int other.id) := rfl
  rw [params, Option.getD_some, id, Option.some.injEq, Json.int.injEq, Int.natCast_inj] at ruled
  obtain rfl := Table.eq_of_key_eq (List.mem_of_mem_filter enabled) inRules ruled
  exact ⟨policy, parent, params⟩

/-- A new task of `submit_vectorize_task` names a rule by its id and carries nothing else. -/
theorem params_of_submitVectorizeTask {principal : Option TenantPrincipal} {now : DateTime}
    {taskUuid datasetUuid targetColumn : String} {after : Database}
    (ran : VectorizationService.submitVectorizeTask principal now taskUuid datasetUuid targetColumn
      db = .ok ((task, true), after)) :
    ∃ ruleId, task.params = some [("vectorization_rule_id", .int ruleId)] := by
  obtain ⟨parent, found, -, -, -, submitted⟩ := VectorizationService.submitVectorizeTask_cases ran
  obtain ⟨caller, -, ⟨replayed, -⟩ | ⟨created, -, -⟩⟩ := TaskService.submitTask_cases submitted
  · cases replayed
  · obtain ⟨rfl, -⟩ := Prod.mk.inj created
    exact ⟨_, rfl⟩

end Tasks

/-! ## The executor on them -/

section Executor

variable {context : ExecutorContext} {dataset parent : Dataset} {rule : VectorizationRule}
  {task : Task}

/-- The call of a task of `plan_once`: the rule's arguments, with the keys of the settings. -/
def plannedCall (context : ExecutorContext) (dataset : Dataset) (rule : VectorizationRule)
    (columns : List String) : VectorizeCall where
  uri := dataset.storageUri
  targetColumn := .str rule.targetColumn
  sourceColumns := .list (columns.map .str)
  modelName := .str rule.modelName
  endpoint := VectorizationExecutor.orDefault (.str (rule.modelEndpoint.getD ""))
    context.embeddingDefaultEndpoint
  batchSize := rule.batchSize
  timeout := context.embeddingRequestTimeoutSeconds
  apiKey := .str context.embeddingApiKey
  apiKeyHeader := .str context.embeddingApiKeyHeader

theorem plan_of_planned {now : DateTime} {policy : LifecyclePolicy} {columns : List String}
    (source : rule.sourceColumns = some columns) (nonempty : columns ≠ [])
    (configured : context.embeddingDefaultEndpoint ≠ "" ∨ rule.modelEndpoint.getD "" ≠ "")
    (params : task.params = some (vectorizeDue now policy parent rule).params) :
    VectorizationExecutor.plan context task dataset = .ok (.embed
      (plannedCall context dataset rule columns)) := by
  have endpoint : (VectorizationExecutor.orDefault (.str (rule.modelEndpoint.getD ""))
      context.embeddingDefaultEndpoint).truthy = true := by
    unfold VectorizationExecutor.orDefault
    by_cases set_ : rule.modelEndpoint.getD "" = ""
    · have default_ := configured.resolve_right (not_not.2 set_)
      simp [set_, Json.truthy, default_]
    · simp [set_, Json.truthy]
  have listed : (Json.list (columns.map .str)).truthy = true := by
    simp [Json.truthy, nonempty]
  have target : Json.getOr (vectorizeDue now policy parent rule).params "target_column"
      (.str "vector") = .str rule.targetColumn := rfl
  have sources : Json.getOr (vectorizeDue now policy parent rule).params "source_columns"
      (.list []) = .list (columns.map .str) := by
    simp only [vectorizeDue, source]
    rfl
  have model : Json.getOr (vectorizeDue now policy parent rule).params "model_name"
      (.str "default") = .str rule.modelName := rfl
  have service : Json.getOr (vectorizeDue now policy parent rule).params "model_endpoint"
      (.str "") = .str (rule.modelEndpoint.getD "") := rfl
  have batch : (Json.getOr (vectorizeDue now policy parent rule).params "batch_size"
      (.int 64)).toInt = .ok (rule.batchSize : Int) := rfl
  -- The planner leaves `extra` out.
  have extra : VectorizationExecutor.ruleExtra (vectorizeDue now policy parent rule).params =
      .ok [] := rfl
  simp only [VectorizationExecutor.plan, params, Option.getD_some, target, sources, model, service,
    batch, extra, listed, endpoint, bind, Except.bind, pure, Except.pure, Bool.not_true,
    Bool.false_eq_true, if_false]
  rfl

/-- A task of `submit_vectorize_task` is none. -/
theorem plan_of_submitted {ruleId : Int}
    (params : task.params = some [("vectorization_rule_id", .int ruleId)]) :
    VectorizationExecutor.plan context task dataset = .ok (.finished
      [("error", .str "no source_columns specified"), ("rows_processed", .int 0)]) := by
  unfold VectorizationExecutor.plan
  rw [params]
  rfl

/-- A plan that embeds is a call. -/
theorem calls_of_plan {Disk : Type} {rows : Database} {disk : Disk} {call : VectorizeCall}
    (planned : VectorizationExecutor.plan context task dataset = .ok (.embed call)) :
    Calls vectorizationExecutor context task dataset rows disk call := by
  intro sync
  show VectorizationExecutor.execute _ task dataset rows disk = _
  have same : VectorizationExecutor.plan { context with vectorizeSync := sync } task dataset =
      VectorizationExecutor.plan context task dataset := rfl
  unfold VectorizationExecutor.execute
  rw [same, planned]

/-- A run has one call at most: ask a service that answers the first one and refuses the others. -/
theorem Calls.unique {Disk : Type} {executor : LifecycleExecutor Disk} {rows : Database}
    {disk : Disk} {one two : VectorizeCall}
    (first : Calls executor context task dataset rows disk one)
    (second : Calls executor context task dataset rows disk two) : one = two := by
  by_contra differ
  have same := (first fun call => if call = one then .ok [] else .error ⟨"", ""⟩).symm.trans
    (second fun call => if call = one then .ok [] else .error ⟨"", ""⟩)
  simp [Ne.symm differ, Except.map] at same

/-- A plan with a payload of its own is no call. -/
theorem not_calls_of_finished {Disk : Type} {rows : Database} {disk : Disk} {payload : JsonDict}
    (planned : VectorizationExecutor.plan context task dataset = .ok (.finished payload))
    (call : VectorizeCall) : ¬ Calls vectorizationExecutor context task dataset rows disk call := by
  intro called
  have refused : VectorizationExecutor.execute
      { context with vectorizeSync := fun _ => .error ⟨"", ""⟩ } task dataset rows disk =
        (.error ⟨"", ""⟩, disk) := called fun _ => .error ⟨"", ""⟩
  have same : VectorizationExecutor.plan
      { context with vectorizeSync := fun _ => .error ⟨"", ""⟩ } task dataset =
        VectorizationExecutor.plan context task dataset := rfl
  unfold VectorizationExecutor.execute at refused
  rw [same, planned] at refused
  cases refused

/-- The call of a task of `plan_once` serves its rule when the settings have the rule's keys. -/
theorem serves_planned_iff {columns : List String}
    (source : rule.sourceColumns = some columns) :
    Serves rule (plannedCall context dataset rule columns) ↔ KeysOfSettings context rule := by
  constructor
  · intro serves
    exact ⟨fun key set_ => (serves.apiKey key set_).symm,
      fun header set_ => (serves.apiKeyHeader header set_).symm⟩
  · rintro ⟨keys, headers⟩
    refine ⟨rfl, by rw [source]; rfl, rfl, rfl, fun endpoint set_ text => ?_,
      fun key set_ => (keys key set_).symm, fun header set_ => (headers header set_).symm⟩
    simp [plannedCall, Option.mem_def.1 set_, VectorizationExecutor.orDefault, Json.truthy, text]

/-- **When a producer satisfies the executor.**  For a rule with source columns and an endpoint,
the registered executor runs an emitted task by one call with the rule's arguments exactly when
`plan_once` emitted it and the rule's `extra` sets no other keys than the settings. -/
theorem contract_iff {Disk : Type} {lance : Pylance Disk} {executor : LifecycleExecutor Disk}
    {db rows : Database} {disk : Disk} {producer : Producer} {columns : List String}
    (registered : buildDefaultRegistry lance .vectorize = some executor)
    (inRules : rule ∈ db.vectorizationRule.rows) (source : rule.sourceColumns = some columns)
    (nonempty : columns ≠ [])
    (configured : context.embeddingDefaultEndpoint ≠ "" ∨ rule.modelEndpoint.getD "" ≠ "")
    (emitted : Emits db dataset rule task producer) :
    (∃ call, Calls executor context task dataset rows disk call ∧ Serves rule call) ↔
      producer = .planOnce ∧ KeysOfSettings context rule := by
  obtain rfl : vectorizationExecutor = executor := Option.some.inj registered
  cases emitted with
  | planOnce ran member emitted taskType ruled =>
      obtain ⟨policy, parent, params⟩ :=
        params_of_planOnce inRules ran member emitted taskType ruled
      have called : Calls vectorizationExecutor context task dataset rows disk
          (plannedCall context dataset rule columns) :=
        calls_of_plan (plan_of_planned source nonempty configured params)
      constructor
      · rintro ⟨call, calls, serves⟩
        obtain rfl := called.unique calls
        exact ⟨rfl, (serves_planned_iff source).1 serves⟩
      · rintro ⟨-, keys⟩
        exact ⟨_, called, (serves_planned_iff source).2 keys⟩
  | submitVectorizeTask ran =>
      obtain ⟨ruleId, params⟩ := params_of_submitVectorizeTask ran
      refine iff_of_false ?_ (by simp)
      rintro ⟨call, calls, -⟩
      exact not_calls_of_finished (plan_of_submitted params) call calls

end Executor

section Examples

private def service : ExecutorContext where
  now := 0
  embeddingDefaultEndpoint := "http://embedding:8000/v1/embeddings"
  vectorizeSync := fun _ => .error ⟨"OSError", "unreachable"⟩

private def articles : Dataset where
  datasetUuid := "d1"
  catalog := "lake"
  dbSchema := "acme"
  tableName := "articles"
  storageUri := "s3://acme/articles"
  tenantId := "acme"

private def titleRule (extra : Option JsonDict) : VectorizationRule where
  extra
  id := 1
  datasetUuid := "d1"
  targetColumn := "title_vec"
  sourceColumns := some ["title"]
  modelName := "bge"
  modelVersion := "v1"

/-- The rule, a policy of its dataset and a worker with a free slot. -/
private def ruled (extra : Option JsonDict) : Database where
  dataset := .single articles
  lifecyclePolicy := .single { id := 1, datasetUuid := "d1", policyName := "p" }
  vectorizationRule := .single (titleRule extra)
  workerRegistry :=
    .single { workerId := "w1", workerType := "embedding", leaseId := "l1", lastHeartbeatAt := 0 }

private def noLance : Pylance Unit where
  latestVersion _ _ := .ok 1
  indexStatistics _ _ _ := none
  listIndices _ _ := []
  optimizeIndices _ _ := .ok ()
  delete _ _ _ := .ok ()
  countRows _ _ := 0
  createIndex _ _ _ _ _ _ := .ok ()

private def plannedAt : DateTime := DateTime.start2026

/-- A vectorize-now task ends as SUCCEEDED where every embedding would fail, and a task of
`plan_once` goes out without the key of its rule. -/
theorem keys_and_rules_lost :
    (∃ task after, VectorizationService.submitVectorizeTask acmeSdk plannedAt "t1" "d1" "title_vec"
        (ruled none) = .ok ((task, true), after) ∧
      (LifecycleWorkerService.runIteration daemonContext service (plannedAt + 2) (plannedAt + 1)
        (buildDefaultRegistry noLance)
        { workerId := "w1", leaseId := "l1" } after ()).outcome =
          .ok { claimed := true, taskUuid := some "t1", taskType := some .vectorize,
                finalStatus := some .succeeded }) ∧
    ∃ report after task, planOnce (fun n => toString n) plannedAt daemonContext
        (ruled (some [("api_key", .str "secret")])) = .ok (report, after) ∧
      after.task.rows = [task] ∧
      ∀ rows call, Calls vectorizationExecutor service task articles rows () call →
        ¬ Serves (titleRule (some [("api_key", .str "secret")])) call := by
  constructor
  · exact ⟨_, _, rfl, by decide +kernel⟩
  · obtain ⟨report, after, task, ran, one, params⟩ : ∃ report after task,
        planOnce (fun n => toString n) plannedAt daemonContext
            (ruled (some [("api_key", .str "secret")])) =
          .ok (report, after) ∧ after.task.rows = [task] ∧
        task.params = some (vectorizeDue plannedAt
          { id := 1, datasetUuid := "d1", policyName := "p" } articles
          (titleRule (some [("api_key", .str "secret")]))).params :=
      ⟨_, _, _, rfl, rfl, rfl⟩
    refine ⟨report, after, task, ran, one, fun rows call called serves => ?_⟩
    have planned : Calls vectorizationExecutor service task articles rows () (plannedCall service
        articles (titleRule (some [("api_key", .str "secret")])) ["title"]) :=
      calls_of_plan (plan_of_planned rfl (List.cons_ne_nil _ _) (.inl (by decide)) params)
    obtain rfl := planned.unique called
    exact absurd (serves.apiKey (.str "secret") rfl) (by decide)

/-- A rule without keys of its own is served by the task of `plan_once`. -/
theorem plain_rule_served :
    ∃ report after task, planOnce (fun n => toString n) plannedAt daemonContext (ruled none) =
        .ok (report, after) ∧
      task ∈ after.task.rows ∧
      ∃ call, Calls vectorizationExecutor service task articles after () call ∧
        Serves (titleRule none) call := by
  obtain ⟨report, after, task, ran, rows, emitted, type, id⟩ :
      ∃ report after task, planOnce (fun n => toString n) plannedAt daemonContext (ruled none) =
          .ok (report, after) ∧ after.task.rows = [task] ∧
        report.emittedTasks = [task.taskUuid] ∧ task.taskType = .vectorize ∧
        Json.get? (task.params.getD []) "rule_id" = some (.int 1) :=
    ⟨_, _, _, rfl, rfl, rfl, rfl, rfl⟩
  have member : task ∈ after.task.rows := rows ▸ List.mem_singleton_self _
  have emits : Emits (ruled none) articles (titleRule none) task .planOnce :=
    .planOnce ran member (emitted ▸ List.mem_singleton_self _) type id
  have keys : KeysOfSettings service (titleRule none) := ⟨nofun, nofun⟩
  exact ⟨report, after, task, ran, member, (@contract_iff _ _ _ _ Unit noLance _ _ _ _ _ _ rfl
    (List.mem_singleton_self _) rfl (List.cons_ne_nil _ _) (.inl (by decide)) emits).2
      ⟨rfl, keys⟩⟩

end Examples

end Lcp.VectorizeContract
