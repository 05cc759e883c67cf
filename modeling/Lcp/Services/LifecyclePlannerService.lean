/-
# Services.LifecyclePlannerService -- enabled policies become tasks

`plan_once` scans the enabled policies in order of their row id.  For each one
whose dataset is there it emits at most one task per kind of work, under a key
that carries the policy, the kind and a time bucket.

A pass runs alone on its session.  Under that assumption the key of an insert
has just been looked up, so the only `IntegrityError` left is a collision of
`uuid4` draws, which `Emission.tryEmit` lets the pass die of.
-/
import Mathlib.Data.List.Sort
import Lcp.Services.Emission

namespace Lcp

open Theory Emission

set_option autoImplicit false

/-- `policy.last_run_at = now`. -/
def LifecyclePolicy.recordRun (now : DateTime) (policy : LifecyclePolicy) : LifecyclePolicy :=
  { policy with lastRunAt := some now }

theorem LifecyclePolicy.id_recordRun (now : DateTime) (policy : LifecyclePolicy) :
    (policy.recordRun now).id = policy.id := rfl

namespace LifecyclePlannerService

/-- Outcome of one `plan_once`. -/
structure PlannerTick where
  scannedPolicies : Nat
  emittedTasks : List String
  skippedDuplicates : Nat
deriving DecidableEq, Repr

/-- Deltas after which an index is optimized without a cron rule. -/
def DEFAULT_DELTA_THRESHOLD : Nat := 10

def dayBucket (now : DateTime) : String := DateTime.strftimeYmd now

def hourBucket (now : DateTime) : String := DateTime.strftimeYmdH now

/-- The format `<tenant_id>:lifecycle:<policy_id>:<task_type>:<bucket>`. -/
def idempotencyKey (policyId : Nat) (taskType : TaskType) (bucket tenantId : String) : String :=
  tenantId ++ ":lifecycle:" ++ toString policyId ++ ":" ++ taskType.toString ++ ":" ++ bucket

section Pass

variable (draw : Nat → String) (now : DateTime)

def tryEmitTask (policy : LifecyclePolicy) (dataset : Dataset) (taskType : TaskType)
    (bucket : String) (params : JsonDict) (tick : Tick) : Except PassError Tick :=
  tryEmit draw now dataset taskType (idempotencyKey policy.id taskType bucket dataset.tenantId)
    params tick

/-- READY indexes of the dataset with at least `_DEFAULT_DELTA_THRESHOLD` deltas. -/
def hotIndexes (dataset : Dataset) (db : Database) : List Index :=
  db.vectorIndex.rows.filter fun index =>
    index.datasetUuid = dataset.datasetUuid ∧ index.status = .ready ∧
      index.deltaCount ≥ DEFAULT_DELTA_THRESHOLD

/-- The automatic trigger for one hot index. -/
def emitAutoOptimize (policy : LifecyclePolicy) (dataset : Dataset) (index : Index)
    (tick : Tick) : Except PassError Tick :=
  tryEmit draw now dataset .indexOptimize
    (dataset.tenantId ++ ":auto-optimize:" ++ dataset.datasetUuid ++ "/" ++ index.indexName ++
      ":" ++ hourBucket now)
    [ ("index_name", .str index.indexName),
      ("policy_name", .str policy.policyName),
      ("trigger", .str "delta_threshold"),
      ("delta_count", .int index.deltaCount) ]
    tick

/-- Enabled vectorization rules of the dataset.  The query has no ORDER BY: the database may
return them in any order, of which this one is the order of the table. -/
def enabledRules (dataset : Dataset) (db : Database) : List VectorizationRule :=
  db.vectorizationRule.rows.filter fun rule =>
    rule.datasetUuid = dataset.datasetUuid ∧ rule.enabled = true

def emitVectorize (policy : LifecyclePolicy) (dataset : Dataset) (rule : VectorizationRule)
    (tick : Tick) : Except PassError Tick :=
  tryEmitTask draw now policy dataset .vectorize (hourBucket now)
    [ ("target_column", .str rule.targetColumn),
      ("source_columns", match rule.sourceColumns with
        | some columns => .list (columns.map .str)
        | none => .null),
      ("model_name", .str rule.modelName),
      ("model_version", .str rule.modelVersion),
      ("model_endpoint", .str (rule.modelEndpoint.getD "")),
      ("batch_size", .int rule.batchSize),
      ("policy_name", .str policy.policyName),
      ("rule_id", .int rule.id) ]
    tick

/-- Only if the user opted in by setting `ttl_days`. -/
def emitTtlDelete (policy : LifecyclePolicy) (dataset : Dataset) (tick : Tick) :
    Except PassError Tick :=
  match policy.ttlDays with
  | none => .ok tick
  | some days =>
      tryEmitTask draw now policy dataset .ttlDelete (dayBucket now)
        [("ttl_days", .int days), ("policy_name", .str policy.policyName)] tick

/-- Only if `compaction_threshold` is configured; an empty dictionary is falsy. -/
def emitCompaction (policy : LifecyclePolicy) (dataset : Dataset) (tick : Tick) :
    Except PassError Tick :=
  match policy.compactionThreshold with
  | none | some [] => .ok tick
  | some threshold =>
      tryEmitTask draw now policy dataset .compaction (dayBucket now)
        [("threshold", .dict threshold), ("policy_name", .str policy.policyName)] tick

/-- `index_optimize_cron` as a presence flag; without it, the delta threshold. -/
def emitIndexOptimize (policy : LifecyclePolicy) (dataset : Dataset) (tick : Tick) :
    Except PassError Tick :=
  match policy.indexOptimizeCron.filter (· ≠ "") with
  | some cron =>
      tryEmitTask draw now policy dataset .indexOptimize (hourBucket now)
        [("cron", .str cron), ("policy_name", .str policy.policyName)] tick
  | none =>
      (hotIndexes dataset tick.db).foldlM
        (fun tick index => emitAutoOptimize draw now policy dataset index tick) tick

/-- Emit zero or more tasks for one policy and record the pass. -/
def planForPolicy (policy : LifecyclePolicy) (dataset : Dataset) (tick : Tick) :
    Except PassError Tick := do
  let tick ← emitTtlDelete draw now policy dataset tick
  let tick ← emitCompaction draw now policy dataset tick
  let tick ← emitIndexOptimize draw now policy dataset tick
  let tick ← (enabledRules dataset tick.db).foldlM
    (fun tick rule => emitVectorize draw now policy dataset rule tick) tick
  return { tick with
    db := { tick.db with
      lifecyclePolicy := tick.db.lifecyclePolicy.update policy.id
        (LifecyclePolicy.recordRun now) (LifecyclePolicy.id_recordRun now) } }

/-- The loop body of `plan_once`; an orphaned policy is skipped. -/
def planPolicy (tick : Tick) (policy : LifecyclePolicy) : Except PassError Tick :=
  match tick.db.dataset.get policy.datasetUuid with
  | none => .ok tick
  | some dataset => planForPolicy draw now policy dataset tick

/-- Every enabled policy across all tenants, by row id. -/
def fetchEnabledPolicies (db : Database) : List LifecyclePolicy :=
  (db.lifecyclePolicy.rows.filter fun policy => policy.enabled).insertionSort
    fun a b => a.id ≤ b.id

/-- Scan all enabled policies and emit the tasks that are due. -/
def planOnce (principal : Option TenantPrincipal) (db : Database) :
    Except PassError (PlannerTick × Database) :=
  if !requireSystemContext principal then
    .error (.notSystem "lifecycle planner must run under with_system_context()")
  else do
    let policies := fetchEnabledPolicies db
    let tick ← policies.foldlM (planPolicy draw now) { db }
    return (
      { scannedPolicies := policies.length
        emittedTasks := tick.emitted
        skippedDuplicates := tick.skipped },
      -- Without an emission or a duplicate nothing is committed.
      if tick.emitted ≠ [] ∨ tick.skipped > 0 then tick.db else db)

end Pass

/-! ## What a pass keeps -/

section Keeping

variable {held : Database → Prop} {draw : Nat → String} {now : DateTime}
  {policy : LifecyclePolicy} {dataset : Dataset}

theorem emitTtlDelete_keeps (admits : Admits held) :
    Keeps (fun db => held db ∧ dataset ∈ db.dataset.rows)
      (emitTtlDelete draw now policy dataset) := by
  intro tick after both ran
  unfold emitTtlDelete at ran
  split at ran
  · cases ran
    exact both
  · exact tryEmit_keeps admits both ran

theorem emitCompaction_keeps (admits : Admits held) :
    Keeps (fun db => held db ∧ dataset ∈ db.dataset.rows)
      (emitCompaction draw now policy dataset) := by
  intro tick after both ran
  unfold emitCompaction at ran
  split at ran
  · cases ran
    exact both
  · cases ran
    exact both
  · exact tryEmit_keeps admits both ran

theorem emitIndexOptimize_keeps (admits : Admits held) :
    Keeps (fun db => held db ∧ dataset ∈ db.dataset.rows)
      (emitIndexOptimize draw now policy dataset) := by
  intro tick after both ran
  unfold emitIndexOptimize at ran
  split at ran
  · exact tryEmit_keeps admits both ran
  · exact Keeps.foldlM (fun tick => hotIndexes dataset tick.db)
      (fun index => tryEmit_keeps admits) both ran

/-- Beside its emissions a pass only records itself in the policy. -/
theorem planForPolicy_keeps (admits : Admits held)
    (records : ∀ db policies, held db → held { db with lifecyclePolicy := policies }) :
    Keeps (fun db => held db ∧ dataset ∈ db.dataset.rows)
      (planForPolicy draw now policy dataset) := by
  have recordRun : Keeps (fun db => held db ∧ dataset ∈ db.dataset.rows)
      fun tick => Except.ok { tick with
        db := { tick.db with
          lifecyclePolicy := tick.db.lifecyclePolicy.update policy.id
            (LifecyclePolicy.recordRun now) (LifecyclePolicy.id_recordRun now) } } := by
    intro tick after both ran
    cases ran
    exact ⟨records _ _ both.1, both.2⟩
  have vectorize : Keeps (fun db => held db ∧ dataset ∈ db.dataset.rows)
      fun tick => (enabledRules dataset tick.db).foldlM
        (fun tick rule => emitVectorize draw now policy dataset rule tick) tick :=
    Keeps.foldlM (fun tick => enabledRules dataset tick.db)
      fun rule => tryEmit_keeps admits
  exact Keeps.bind (emitTtlDelete_keeps admits) <|
    Keeps.bind (emitCompaction_keeps admits) <|
      Keeps.bind (emitIndexOptimize_keeps admits) <| Keeps.bind vectorize recordRun

theorem planPolicy_keeps (admits : Admits held)
    (records : ∀ db policies, held db → held { db with lifecyclePolicy := policies })
    (policy : LifecyclePolicy) : Keeps held fun tick => planPolicy draw now tick policy := by
  intro tick after before ran
  simp only [planPolicy] at ran
  split at ran
  · cases ran
    exact before
  · rename_i dataset found
    exact (planForPolicy_keeps admits records ⟨before, Table.mem_of_get found⟩ ran).1

/-- A pass that returns ran under a system principal, swept the enabled policies, and
committed its rows unless it neither emitted nor skipped a task. -/
theorem planOnce_eq_ok {principal : Option TenantPrincipal} {db after : Database}
    {report : PlannerTick} (ran : planOnce draw now principal db = .ok (report, after)) :
    requireSystemContext principal = true ∧ ∃ tick,
      (fetchEnabledPolicies db).foldlM (planPolicy draw now) { db } = .ok tick ∧
        report.emittedTasks = tick.emitted ∧ report.skippedDuplicates = tick.skipped ∧
        after = if tick.emitted ≠ [] ∨ tick.skipped > 0 then tick.db else db := by
  unfold planOnce at ran
  split at ran
  · cases ran
  · rename_i system
    refine ⟨by simpa using system, ?_⟩
    obtain ⟨tick, looped, ran⟩ := bind_eq_ok ran
    simp only [pure, Except.pure, Except.ok.injEq, Prod.mk.injEq] at ran
    obtain ⟨rfl, rfl⟩ := ran
    exact ⟨tick, looped, rfl, rfl, rfl⟩

/-- **What emissions and `last_run_at` leave alone, a planner pass leaves alone.** -/
theorem planOnce_keeps (admits : Admits held)
    (records : ∀ db policies, held db → held { db with lifecyclePolicy := policies })
    {principal : Option TenantPrincipal} {db after : Database} {report : PlannerTick}
    (before : held db) (ran : planOnce draw now principal db = .ok (report, after)) :
    held after := by
  obtain ⟨-, tick, looped, -, -, rfl⟩ := planOnce_eq_ok ran
  have kept : held tick.db :=
    Keeps.foldlM (fun _ => fetchEnabledPolicies db)
      (fun policy => planPolicy_keeps admits records policy) before looped
  split
  · exact kept
  · exact before

/-- Every task that a planner pass leaves carries the tenant of its dataset, or was there. -/
theorem planOnce_stamped {principal : Option TenantPrincipal} {db after : Database}
    {report : PlannerTick} (ran : planOnce draw now principal db = .ok (report, after)) :
    Stamped db after :=
  planOnce_keeps (stamped_admits db) (fun _ _ held => ⟨held.dataset, held.task⟩)
    (Stamped.refl db) ran

end Keeping

end LifecyclePlannerService

end Lcp
