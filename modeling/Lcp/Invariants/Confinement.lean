/-
# Invariants.Confinement -- which datasets a tenant's task can reach

A run mixes the calls of the services with planner passes, watcher passes and
worker iterations.  The state keeps, beside rows and tables, every pair of task
and dataset that an executor was given.

The dispatcher looks the dataset up by `task.dataset_uuid` under the system
principal and compares no tenants, so confinement rests on the producers.  The
planner, the watcher and the executors stamp a task with the tenant of its
dataset; `submit_task` stamps the tenant of its caller and takes the dataset
from the request.  So a run is confined when each submission names a dataset of
its own tenant, or none.
-/
import Lcp.Services.IndexWatcherPass
import Lcp.Services.LifecyclePlannerService
import Lcp.Services.Operations
import Lcp.Workers.LifecycleWorkerService

namespace Lcp.Confinement

open Theory

set_option autoImplicit false

/-- Rows, lance tables, and the pairs that executors were given so far. -/
structure Platform (Disk : Type) where
  db : Database
  disk : Disk
  handed : List (Task × Dataset) := []

inductive Action where
  | call (op : Operation)
  | planOnce (principal : Option TenantPrincipal) (draw : Nat → String) (now : DateTime)
  | runWatchPass (principal : Option TenantPrincipal) (draw : Nat → String) (now : DateTime)
  | runIteration (principal : Option TenantPrincipal) (claimedAt finishedAt : DateTime)
      (context : ExecutorContext) (config : LifecycleWorkerService.WorkerConfig)

section Runs

variable {Disk : Type} (lance : Pylance Disk) (executors : ExecutorRegistry Disk)

/-- The state after an action; one that raises leaves the rows alone. -/
def act (p : Platform Disk) : Action → Platform Disk
  | .call op => { p with db := op.apply p.db }
  | .planOnce principal draw now =>
      match LifecyclePlannerService.planOnce draw now principal p.db with
      | .ok (_, after) => { p with db := after }
      | .error _ => p
  | .runWatchPass principal draw now =>
      match IndexWatcherService.runWatchPass lance draw now principal p.db p.disk with
      | .ok (_, after) => { p with db := after }
      | .error _ => p
  | .runIteration principal claimedAt finishedAt context config =>
      let iteration := LifecycleWorkerService.runIteration principal context finishedAt claimedAt
        executors config p.db p.disk
      { db := iteration.db
        disk := iteration.disk
        handed := p.handed ++ iteration.handed.toList }

/-- Runs of the services and the daemons. -/
def platform : Machine (Platform Disk) Action where
  step p action := some (act lance executors p action)

end Runs

/-- Every executor was given a dataset of the task's tenant. -/
def Confined {Disk : Type} (p : Platform Disk) : Prop :=
  ∀ pair ∈ p.handed, pair.1.tenantId = pair.2.tenantId

instance {Disk : Type} (p : Platform Disk) : Decidable (Confined p) :=
  inferInstanceAs (Decidable (∀ pair ∈ p.handed, pair.1.tenantId = pair.2.tenantId))

/-- A submission that is not a replay names no dataset of another tenant. -/
def NamesOwn {Disk : Type} (p : Platform Disk) : Action → Prop
  | .call (.submitTask principal _ _ request) => ∀ caller ∈ principal,
      ((TaskService.scopedKey caller request.idempotencyKey).bind fun key =>
        TaskService.findByKey caller key p.db) = none →
      ∀ dataset ∈ p.db.dataset.rows, request.datasetUuid = dataset.datasetUuid →
        caller.tenantId = dataset.tenantId
  | _ => True

instance {Disk : Type} (p : Platform Disk) : (action : Action) → Decidable (NamesOwn p action)
  | .call (.submitTask principal _ _ request) =>
      inferInstanceAs (Decidable (∀ caller ∈ principal,
        ((TaskService.scopedKey caller request.idempotencyKey).bind fun key =>
          TaskService.findByKey caller key p.db) = none →
        ∀ dataset ∈ p.db.dataset.rows, request.datasetUuid = dataset.datasetUuid →
          caller.tenantId = dataset.tenantId))
  | .call (.cancelTask ..) | .call (.retryTask ..) | .call (.registerWorker ..)
  | .call (.heartbeat ..) | .call (.drainWorker ..) | .call (.claimNextTask ..)
  | .call (.completeTask ..) | .call (.failTask ..) | .call (.reapDeadWorkers ..)
  | .planOnce .. | .runWatchPass .. | .runIteration .. => isTrue trivial

/-! ## The invariant -/

/-- Every task row carries the tenant of the dataset it names. -/
def Matched (db : Database) : Prop :=
  ∀ task ∈ db.task.rows, ∀ dataset ∈ db.dataset.rows,
    task.datasetUuid = dataset.datasetUuid → task.tenantId = dataset.tenantId

instance (db : Database) : Decidable (Matched db) :=
  inferInstanceAs (Decidable (∀ task ∈ db.task.rows, ∀ dataset ∈ db.dataset.rows,
    task.datasetUuid = dataset.datasetUuid → task.tenantId = dataset.tenantId))

/-- Stamping producers keep it. -/
theorem Matched.stamped {before after : Database} (matched : Matched before)
    (stamped : Stamped before after) : Matched after := by
  intro task member dataset inRows names
  rw [stamped.dataset] at inRows
  rcases stamped.task task member with ⟨old, wasThere, tenant, uuid⟩ | ⟨parent, inTable, owner⟩
  · rw [tenant]
    exact matched old wasThere dataset inRows (uuid ▸ names)
  · have same : parent = dataset :=
      Table.eq_of_key_eq inTable inRows (owner.1.symm.trans names)
    rw [owner.2, same]

/-- A pass of the reaper over some workers. -/
theorem stamped_reap (stale : List WorkerRegistry) (db : Database) :
    Stamped db (stale.foldl (fun db worker => SchedulerService.reapWorker worker db) db) := by
  have dataset : (stale.foldl (fun db worker => SchedulerService.reapWorker worker db)
      db).dataset = db.dataset := by
    induction stale generalizing db with
    | nil => rfl
    | cons worker rest ih => exact ih (SchedulerService.reapWorker worker db)
  refine Stamped.of_rewrite dataset fun task member => ?_
  rw [SchedulerService.reap_task_rows] at member
  obtain ⟨old, wasThere, rfl⟩ := List.mem_map.1 member
  refine ⟨old, wasThere, ?_⟩
  unfold Task.requeueFrom
  split <;> exact ⟨rfl, rfl⟩

/-- Every call but a submission stamps; a submission stamps its caller's tenant. -/
theorem Matched.effect {Disk : Type} {p : Platform Disk} {op : Operation} {after : Database}
    (matched : Matched p.db) (own : NamesOwn p (.call op)) (effect : Effect p.db op after) :
    Matched after := by
  cases effect with
  | nothing => exact matched
  | submitted bound inserted first =>
      obtain ⟨table, added, rfl, -⟩ := TaskService.insertTask_eq_some inserted
      intro task member dataset inRows names
      rcases (Table.mem_insert? added).1 member with old | rfl
      · exact matched task old dataset inRows names
      · exact own _ bound first dataset inRows names
  | cancelled =>
      exact matched.stamped <|
        Stamped.update (Task.taskUuid_cancel _) (fun _ => rfl) fun _ => rfl
  | retried =>
      exact matched.stamped <| Stamped.update Task.taskUuid_retry (fun _ => rfl) fun _ => rfl
  | registered | reregistered | beat | drained => exact matched
  | claimed =>
      exact matched.stamped <|
        Stamped.update (Task.taskUuid_claim _ _) (fun _ => rfl) fun _ => rfl
  | completed =>
      exact matched.stamped <|
        Stamped.update (Task.taskUuid_complete _ _) (fun _ => rfl) fun _ => rfl
  | failed =>
      exact matched.stamped <|
        Stamped.update (Task.taskUuid_fail _ _ _) (fun _ => rfl) fun _ => rfl
  | reaped => exact matched.stamped (stamped_reap _ _)

/-- An iteration keeps the match, and what it hands over is matched. -/
theorem Matched.runIteration {Disk : Type} {principal : Option TenantPrincipal}
    {context : ExecutorContext} {claimedAt finishedAt : DateTime}
    {executors : ExecutorRegistry Disk} {config : LifecycleWorkerService.WorkerConfig}
    {db : Database} {disk : Disk} {iteration : LifecycleWorkerService.Iteration Disk}
    (matched : Matched db)
    (ran : LifecycleWorkerService.runIteration principal context finishedAt claimedAt executors
      config db disk = iteration) :
    Matched iteration.db ∧
      ∀ pair ∈ iteration.handed, pair.1.tenantId = pair.2.tenantId := by
  subst ran
  unfold LifecycleWorkerService.runIteration
  split
  · exact ⟨matched, by simp⟩
  · rename_i after claimed
    obtain ⟨-, rfl⟩ | ⟨worker, task, -, -, -, -, answer, -⟩ :=
      SchedulerService.claimNextTask_cases claimed
    · exact ⟨matched, by simp⟩
    · cases answer
  · rename_i claimedTask after claimed
    obtain ⟨answer, -⟩ | ⟨worker, task, -, -, member, -, answer, rfl⟩ :=
      SchedulerService.claimNextTask_cases claimed
    · cases answer
    · obtain rfl := Option.some.inj answer
      have afterClaim : Matched
          (SchedulerService.claimTask claimedAt config.workerId worker task db) :=
        matched.stamped <| Stamped.update (Task.taskUuid_claim _ _) (fun _ => rfl) fun _ => rfl
      refine ⟨afterClaim.stamped LifecycleWorkerService.dispatchAndFinalize_stamped, ?_⟩
      rintro ⟨given, dataset⟩ handed
      obtain ⟨rfl, found⟩ := LifecycleWorkerService.dispatchAndFinalize_handed handed
      exact matched task member dataset (Table.mem_of_get found) (Table.key_of_get found).symm

/-- **A run in which every submission names a dataset of its own tenant is confined.**
Whatever executors are registered and however lance behaves. -/
theorem confined_of_namesOwn {Disk : Type} (lance : Pylance Disk)
    (executors : ExecutorRegistry Disk) {start : Platform Disk} (matched : Matched start.db)
    (confined : Confined start) {actions : List Action}
    (own : (platform lance executors).Guarded NamesOwn start actions) :
    (platform lance executors).Always Confined start actions := by
  have both := Machine.always_of_inv (M := platform lance executors)
    (I := fun p => Matched p.db ∧ Confined p) (C := NamesOwn) ?_ ⟨matched, confined⟩ own
  · exact both.mono fun _ => And.right
  rintro p action after ⟨matched, confined⟩ own stepped
  obtain rfl : act lance executors p action = after := Option.some.inj stepped
  cases action with
  | call op => exact ⟨matched.effect own (effect_of_apply p.db op), confined⟩
  | planOnce principal draw now =>
      simp only [act]
      split
      · rename_i planned
        exact ⟨matched.stamped (LifecyclePlannerService.planOnce_stamped planned), confined⟩
      · exact ⟨matched, confined⟩
  | runWatchPass principal draw now =>
      simp only [act]
      split
      · rename_i watched
        exact ⟨matched.stamped (IndexWatcherService.runWatchPass_stamped watched), confined⟩
      · exact ⟨matched, confined⟩
  | runIteration principal claimedAt finishedAt context config =>
      obtain ⟨after, handed⟩ := matched.runIteration (rfl :
        LifecycleWorkerService.runIteration principal context finishedAt claimedAt executors
          config p.db p.disk = _)
      refine ⟨after, fun pair member => ?_⟩
      rcases List.mem_append.1 member with before | now_
      · exact confined pair before
      · exact handed pair (Option.mem_toList.1 now_)

section CrossTenant

/-- A lake with a table at every URI; its state is the list of deletes. -/
def deleteLog : Pylance (List String) where
  latestVersion _ _ := .ok 1
  indexStatistics _ _ _ := none
  listIndices _ _ := []
  optimizeIndices disk _ := .ok disk
  delete disk uri _ := .ok (disk ++ [uri])
  countRows _ _ := 0
  createIndex disk _ _ _ _ _ := .ok disk

/-- One dataset of each of two tenants, no tasks. -/
def twoTenants : Platform (List String) where
  db :=
    { dataset :=
        ⟨[{ datasetUuid := "d-acme", catalog := "lake", dbSchema := "acme", tableName := "events",
            storageUri := "s3://acme/events", tenantId := "acme" },
          { datasetUuid := "d-globex", catalog := "lake", dbSchema := "globex",
            tableName := "events", storageUri := "s3://globex/events", tenantId := "globex" }],
          by decide⟩ }
  disk := []

/-- A tenant submits TTL_DELETE with `ttl_days` 0 and a worker runs one iteration. -/
def ttlDeleteOf (datasetUuid : String) (length : 1 ≤ datasetUuid.length ∧
    datasetUuid.length ≤ 64) : List Action :=
  [ .call (.submitTask acmeSdk 0 "t1"
      (.plain .ttlDelete datasetUuid length (some [("ttl_days", .int 0)]))),
    .call (.registerWorker daemonContext 0 "lease1"
      { workerId := "w1", workerType := "lifecycle" }),
    .runIteration daemonContext 1 2 { lanceStorageEndpoint := "http://minio", now := 1 }
      { workerId := "w1", leaseId := "lease1" } ]

/-- The rows of the other tenant's table are deleted. -/
theorem ttlDelete_crosses_tenants :
    ¬ (platform deleteLog (buildDefaultRegistry deleteLog)).Always Confined twoTenants
        (ttlDeleteOf "d-globex" (by decide)) ∧
      ((platform deleteLog (buildDefaultRegistry deleteLog)).run twoTenants
        (ttlDeleteOf "d-globex" (by decide))).map Platform.disk = some ["s3://globex/events"] :=
  ⟨Machine.not_always_of_run rfl (by decide), by decide⟩

theorem confined_own_ttlDelete :
    (platform deleteLog (buildDefaultRegistry deleteLog)).Always Confined twoTenants
      (ttlDeleteOf "d-acme" (by decide)) :=
  confined_of_namesOwn deleteLog (buildDefaultRegistry deleteLog) (by decide) (by decide)
    (by decide)

end CrossTenant

end Lcp.Confinement
