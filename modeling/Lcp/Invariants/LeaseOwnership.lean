/-
# Invariants.LeaseOwnership -- RUNNING tasks and the lease they were claimed under

A task row stores its owner's `worker_id` but not the `lease_id` the claim was
made with, so a run is replayed here beside a ghost map from tasks to the lease
of their last claim.  A registration under an existing `worker_id` rotates the
lease and leaves the RUNNING tasks of the previous incarnation where they are:
nobody executes them, and the reaper sees a fresh worker.
`underCurrentLease_iff` says that no other call does this.
-/
import Lcp.Invariants.SlotAccounting

namespace Lcp.LeaseOwnership

open Theory SlotAccounting

set_option autoImplicit false

/-- The rows, and for each task the lease its last claim was made under. -/
structure History where
  db : Database
  claimLease : String → Option String := fun _ => none

/-- What a call adds to the history: a successful claim records its lease. -/
def record (db : Database) (op : Operation) (claimLease : String → Option String) :
    String → Option String :=
  match op with
  | .claimNextTask principal now workerId leaseId taskType =>
      match SchedulerService.claimNextTask principal now workerId leaseId taskType db with
      | .ok (some task, _) => Function.update claimLease task.taskUuid (some leaseId)
      | _ => claimLease
  | _ => claimLease

/-- Runs of the services beside their history of claims. -/
def controlPlaneHistory : Machine History Operation where
  step s op := some { db := op.apply s.db, claimLease := record s.db op s.claimLease }

/-- Every RUNNING task was claimed under the lease its owner holds now. -/
def UnderCurrentLease (s : History) : Prop :=
  ∀ task ∈ s.db.task.rows, task.status = .running →
    ∃ worker ∈ s.db.workerRegistry.rows,
      task.workerId = some worker.workerId ∧ s.claimLease task.taskUuid = some worker.leaseId

instance (s : History) : Decidable (UnderCurrentLease s) :=
  decidable_of_iff
    (∀ task ∈ s.db.task.rows, task.status = .running →
      ∃ worker, worker ∈ s.db.workerRegistry.rows ∧
        (task.workerId = some worker.workerId ∧
          s.claimLease task.taskUuid = some worker.leaseId))
    (by simp [UnderCurrentLease])

/-- A registration does not rotate the lease of a RUNNING task's owner. -/
def KeepsLeases (s : History) : Operation → Prop
  | .registerWorker principal _ newLease args =>
      requireSystemContext principal = true →
        ∀ task ∈ s.db.task.rows, task.runningOn args.workerId = true →
          s.claimLease task.taskUuid = some newLease
  | _ => True

instance (s : History) (op : Operation) : Decidable (KeepsLeases s op) :=
  match op with
  | .registerWorker .. => by
      unfold KeepsLeases
      infer_instance
  | .submitTask .. | .cancelTask .. | .retryTask .. | .heartbeat .. | .drainWorker ..
  | .claimNextTask .. | .completeTask .. | .failTask .. | .reapDeadWorkers .. => isTrue trivial

/-- A call that starts no task and keeps every worker's lease. -/
theorem UnderCurrentLease.mono {s : History} (held : UnderCurrentLease s) {after : Database}
    (running : ∀ task ∈ after.task.rows, task.status = .running → task ∈ s.db.task.rows)
    (workers : ∀ worker ∈ s.db.workerRegistry.rows, ∃ later ∈ after.workerRegistry.rows,
      later.workerId = worker.workerId ∧ later.leaseId = worker.leaseId) :
    UnderCurrentLease { s with db := after } := by
  intro task member status
  obtain ⟨worker, inTable, owner, lease⟩ := held task (running task member status) status
  obtain ⟨later, inAfter, sameId, sameLease⟩ := workers worker inTable
  exact ⟨later, inAfter, by rw [owner, sameId], by rw [← sameLease] at lease; exact lease⟩

/-- A row of an updated registry, found from the row before. -/
theorem later_of_update {workers : Table WorkerRegistry WorkerRegistry.workerId}
    (workerId : String) (assign : WorkerRegistry → WorkerRegistry)
    (keeps : ∀ worker, (assign worker).workerId = worker.workerId)
    (sameLease : ∀ worker, (assign worker).leaseId = worker.leaseId) {worker : WorkerRegistry}
    (member : worker ∈ workers.rows) :
    ∃ later ∈ (workers.update workerId assign keeps).rows,
      later.workerId = worker.workerId ∧ later.leaseId = worker.leaseId := by
  by_cases hit : worker.workerId = workerId
  · exact ⟨assign worker, Table.mem_update_self member hit, keeps worker,
      sameLease worker⟩
  · exact ⟨worker, Table.mem_update_of_ne member hit, rfl, rfl⟩

/-- A claim starts one task, under the lease the claimer presented. -/
theorem UnderCurrentLease.claim {s : History} (held : UnderCurrentLease s) {now : DateTime}
    {workerId leaseId : String} {worker : WorkerRegistry} (task : Task)
    (found : s.db.workerRegistry.get workerId = some worker)
    (admitted : worker.mayClaim leaseId = .ok true) :
    UnderCurrentLease
      { db := SchedulerService.claimTask now workerId worker task s.db
        claimLease := Function.update s.claimLease task.taskUuid (some leaseId) } := by
  have lease : worker.leaseId = leaseId := (WorkerRegistry.mayClaim_eq_true.1 admitted).1
  intro row member status
  rcases Table.of_mem_update member with ⟨before, -, same, rfl⟩ | ⟨inTable, other⟩
  · obtain ⟨later, inAfter, sameId, sameLease⟩ := later_of_update workerId
      (WorkerRegistry.setInFlight (worker.inFlight + 1)) (WorkerRegistry.workerId_setInFlight _)
      (fun _ => rfl) (Table.mem_of_get found)
    refine ⟨later, inAfter, ?_, ?_⟩
    · rw [sameId, Table.key_of_get found]
      rfl
    · show Function.update s.claimLease task.taskUuid (some leaseId) before.taskUuid = _
      rw [same, Function.update_self, sameLease, lease]
  · obtain ⟨owner, inOwners, owned, claimedUnder⟩ := held row inTable status
    obtain ⟨later, inAfter, sameId, sameLease⟩ := later_of_update workerId
      (WorkerRegistry.setInFlight (worker.inFlight + 1)) (WorkerRegistry.workerId_setInFlight _)
      (fun _ => rfl) inOwners
    refine ⟨later, inAfter, by rw [owned, sameId], ?_⟩
    show Function.update s.claimLease task.taskUuid (some leaseId) row.taskUuid = _
    rw [Function.update_of_ne other, sameLease, claimedUnder]

theorem UnderCurrentLease.reap {s : History} (held : UnderCurrentLease s)
    (stale : List WorkerRegistry) :
    UnderCurrentLease { s with
      db := stale.foldl (fun db worker => SchedulerService.reapWorker worker db) s.db } := by
  refine held.mono (fun task member status => ?_) fun worker inTable => ?_
  · rw [SchedulerService.reap_task_rows, List.mem_map] at member
    obtain ⟨row, inRows, rfl⟩ := member
    unfold Task.requeueFrom at status ⊢
    split at status
    · cases status
    · rename_i free
      rwa [if_neg free]
  · rw [SchedulerService.reap_worker_rows]
    refine ⟨_, List.mem_map_of_mem inTable, ?_, ?_⟩ <;> split <;> rfl

/-- Only a claim writes the history. -/
theorem step_of_not_claim {s t : History} {op : Operation}
    (stepped : controlPlaneHistory.step s op = some t)
    (other : ∀ principal now workerId leaseId taskType,
      op ≠ .claimNextTask principal now workerId leaseId taskType) :
    t = { s with db := op.apply s.db } := by
  have same : record s.db op s.claimLease = s.claimLease := by
    cases op with
    | claimNextTask principal now workerId leaseId taskType =>
        exact absurd rfl (other principal now workerId leaseId taskType)
    | _ => rfl
  obtain rfl := Option.some.inj stepped
  rw [same]

theorem step_of_claim {s t : History} {principal : Option TenantPrincipal} {now : DateTime}
    {workerId leaseId : String} {taskType : Option TaskType}
    (stepped : controlPlaneHistory.step s
      (.claimNextTask principal now workerId leaseId taskType) = some t) :
    t = s ∨ ∃ worker task, s.db.workerRegistry.get workerId = some worker ∧
      worker.mayClaim leaseId = .ok true ∧
      t = { db := SchedulerService.claimTask now workerId worker task s.db
            claimLease := Function.update s.claimLease task.taskUuid (some leaseId) } := by
  obtain rfl := Option.some.inj stepped
  cases ran : SchedulerService.claimNextTask principal now workerId leaseId taskType s.db with
  | error e =>
      left
      simp [Operation.apply, Operation.exec, record, ran, Except.toOption]
  | ok answer =>
      obtain ⟨claimed, after⟩ := answer
      obtain ⟨rfl, rfl⟩ | ⟨worker, task, found, admitted, -, -, rfl, rfl⟩ :=
        SchedulerService.claimNextTask_cases ran
      · left
        simp [Operation.apply, Operation.exec, record, ran, Except.toOption]
      · refine .inr ⟨worker, task, found, admitted, ?_⟩
        simp [Operation.apply, Operation.exec, record, ran, Except.toOption, Task.taskUuid_claim]

/-- One call that rotates no lease under a RUNNING task. -/
theorem step_keeps {s t : History} {op : Operation} (held : UnderCurrentLease s)
    (keeps : KeepsLeases s op) (stepped : controlPlaneHistory.step s op = some t) :
    UnderCurrentLease t := by
  by_cases claim : ∃ principal now workerId leaseId taskType,
      op = .claimNextTask principal now workerId leaseId taskType
  · obtain ⟨principal, now, workerId, leaseId, taskType, rfl⟩ := claim
    obtain rfl | ⟨worker, task, found, admitted, rfl⟩ := step_of_claim stepped
    · exact held
    · exact held.claim task found admitted
  · rw [step_of_not_claim stepped fun principal now workerId leaseId taskType same =>
      claim ⟨principal, now, workerId, leaseId, taskType, same⟩]
    have effect := effect_of_apply s.db op
    generalize op.apply s.db = after at effect ⊢
    cases effect with
    | nothing => exact held
    | submitted bound inserted =>
        obtain ⟨table, added, rfl, -⟩ := TaskService.insertTask_eq_some inserted
        refine held.mono (fun task member status => ?_) fun worker member =>
          ⟨worker, member, rfl, rfl⟩
        rcases (Table.mem_insert? added).1 member with old | rfl
        · exact old
        · cases status
    | @cancelled principal now taskUuid task got cancellable =>
        refine held.mono (fun task => running_of_update (Task.cancel now)
          (Task.taskUuid_cancel now) (by simp [Task.cancel])) fun worker member => ?_
        cases owner : task.slotOwner with
        | none => exact ⟨worker, member, rfl, rfl⟩
        | some workerId =>
            exact later_of_update workerId WorkerRegistry.decrementInFlight
              WorkerRegistry.workerId_decrementInFlight (fun _ => rfl) member
    | retried =>
        exact held.mono (fun task => running_of_update Task.retry Task.taskUuid_retry
          (by simp [Task.retry])) fun worker member => ⟨worker, member, rfl, rfl⟩
    | registered absent inserted =>
        exact held.mono (fun _ member _ => member) fun worker member =>
          ⟨worker, (Table.mem_insert? inserted).2 (.inl member), rfl, rfl⟩
    | @reregistered principal now newLease args existing system found =>
        intro task member status
        obtain ⟨worker, inTable, owner, lease⟩ := held task member status
        by_cases hit : worker.workerId = args.workerId
        · refine ⟨args.refresh newLease now worker, Table.mem_update_self inTable hit, owner, ?_⟩
          exact keeps system task member (Task.runningOn_iff.2 ⟨status, hit ▸ owner⟩)
        · exact ⟨worker, Table.mem_update_of_ne inTable hit, owner, lease⟩
    | @beat principal now workerId =>
        exact held.mono (fun _ member _ => member) fun worker =>
          later_of_update workerId (WorkerRegistry.beat now) (WorkerRegistry.workerId_beat now)
            fun _ => rfl
    | @drained principal workerId =>
        exact held.mono (fun _ member _ => member) fun worker =>
          later_of_update workerId WorkerRegistry.drain WorkerRegistry.workerId_drain fun _ => rfl
    | @claimed principal now workerId leaseId taskType =>
        exact absurd ⟨principal, now, workerId, leaseId, taskType, rfl⟩ claim
    | @completed principal now workerId taskUuid result =>
        exact held.mono (fun task => running_of_update (Task.complete now result)
          (Task.taskUuid_complete now result) (by simp [Task.complete])) fun worker =>
            later_of_update workerId WorkerRegistry.decrementInFlight
              WorkerRegistry.workerId_decrementInFlight fun _ => rfl
    | @failed principal now workerId taskUuid errorCode errorMessage =>
        exact held.mono (fun task => running_of_update (Task.fail now errorCode errorMessage)
          (Task.taskUuid_fail now errorCode errorMessage) (by simp [Task.fail])) fun worker =>
            later_of_update workerId WorkerRegistry.decrementInFlight
              WorkerRegistry.workerId_decrementInFlight fun _ => rfl
    | reaped => exact held.reap _

/-- One call that rotates a lease under a RUNNING task orphans it. -/
theorem keeps_of_step {s t : History} {op : Operation} (held : UnderCurrentLease s)
    (after : UnderCurrentLease t) (stepped : controlPlaneHistory.step s op = some t) :
    KeepsLeases s op := by
  cases op with
  | registerWorker principal now newLease args =>
      intro system task member running
      obtain ⟨status, owner⟩ := Task.runningOn_iff.1 running
      obtain ⟨worker, inTable, sameOwner, -⟩ := held task member status
      have hit : worker.workerId = args.workerId :=
        Option.some.inj (sameOwner.symm.trans owner)
      have found : s.db.workerRegistry.get args.workerId = some worker :=
        Table.get_eq_some.2 ⟨inTable, hit⟩
      rw [step_of_not_claim stepped nofun, apply_registerWorker_of_get system found] at after
      obtain ⟨later, inAfter, laterOwner, lease⟩ := after task member status
      rcases Table.of_mem_update inAfter with ⟨before, -, -, rfl⟩ | ⟨-, other⟩
      · exact lease
      · exact absurd (Option.some.inj (laterOwner.symm.trans owner)) other
  | _ => trivial

/-- **Every RUNNING task stays under its owner's lease exactly when no
registration rotates it away.**  Over every run of the services. -/
theorem underCurrentLease_iff {s : History} (start : UnderCurrentLease s)
    (ops : List Operation) :
    controlPlaneHistory.Always UnderCurrentLease s ops ↔
      controlPlaneHistory.Guarded KeepsLeases s ops := by
  refine Machine.always_iff_guarded (J := fun _ => True) (fun _ _ _ _ _ => trivial) ?_ trivial
    start
  rintro s op t - held stepped
  constructor
  · intro after
    exact keeps_of_step held after stepped
  · intro keeps
    exact step_keeps held keeps stepped

section Runs

/-- A worker claims a task, restarts under its own name and keeps sending heartbeats
under the new lease; the reaper passes. -/
def restartedWhileRunning : List Operation :=
  [ .submitTask acmeSdk 0 "t1" .compaction,
    .registerWorker daemonContext 0 "lease1" { workerId := "w1", workerType := "lifecycle" },
    .claimNextTask daemonContext 1 "w1" "lease1" none,
    .registerWorker daemonContext 2 "lease2" { workerId := "w1", workerType := "lifecycle" },
    .heartbeat daemonContext 60 "w1" "lease2",
    .reapDeadWorkers daemonContext 61 30 ]

/-- The reaper finds a fresh worker, so the task of the first incarnation stays
RUNNING under a lease nobody holds. -/
theorem running_task_orphaned :
    ¬ controlPlaneHistory.Always UnderCurrentLease { db := {} } restartedWhileRunning :=
  Machine.not_always_of_run rfl (by decide)

/-- A restart after the task is done orphans nothing. -/
theorem underCurrentLease_restarted_idle :
    controlPlaneHistory.Always UnderCurrentLease { db := {} }
      [ .submitTask acmeSdk 0 "t1" { taskType := .compaction, datasetUuid := "d1" },
        .registerWorker daemonContext 0 "lease1" { workerId := "w1", workerType := "lifecycle" },
        .claimNextTask daemonContext 1 "w1" "lease1" none,
        .completeTask daemonContext 2 "w1" "t1" none,
        .registerWorker daemonContext 3 "lease2"
          { workerId := "w1", workerType := "lifecycle" } ] :=
  (underCurrentLease_iff (by decide) _).2 (by decide)

end Runs

end Lcp.LeaseOwnership
