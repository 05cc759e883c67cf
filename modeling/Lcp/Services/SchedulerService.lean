/-
# Services.SchedulerService -- worker registration and task dispatch

The primitives of `scheduler_service.py`.  What a function assigns to the ORM
object of a row is a function on that row (`Task.claim`, `Task.complete`, ...),
and what it checks before is a function of its own (`WorkerRegistry.mayClaim`,
`Task.checkOwned`): the atomic operations below and the statement-level sessions
are both written with these, so there is one copy of each.

An operation here runs alone on a fresh session, so a row it loaded is the row
that is committed.  `Except.error` is a raised exception; it leaves the database
as it was, since nothing was committed.
-/
import Lcp.Core.Python
import Lcp.Core.Tenant
import Lcp.Db.Models

namespace Lcp

open Theory

set_option autoImplicit false

/-- The stored spelling of a task status. -/
def TaskStatus.toString : TaskStatus → String
  | .pending => "PENDING"
  | .queued => "QUEUED"
  | .running => "RUNNING"
  | .succeeded => "SUCCEEDED"
  | .failed => "FAILED"
  | .cancelled => "CANCELLED"

inductive SchedulerError where
  | notSystem
  | workerNotFound (workerId : String)
  | workerLeaseMismatch (message : String)
  | taskTransition (message : String)
deriving DecidableEq, Repr

/-! ## Rows: what is checked and what is assigned -/

namespace Task

/-- The rows `claim_next_task` may hand out: fresh or queued ones with retry
budget left, of the worker's task type when it has one. -/
def dispatchable (taskType : Option TaskType) (task : Task) : Bool :=
  (task.status = .pending ∨ task.status = .queued) ∧ task.attempt < task.maxAttempts ∧
    ∀ wanted ∈ taskType, task.taskType = wanted

/-- `ORDER BY priority ASC, created_at ASC`. -/
def before (a b : Task) : Bool :=
  a.priority < b.priority ∨ (a.priority = b.priority ∧ a.createdAt < b.createdAt)

/-- `claim_next_task`'s assignments to the task it selected. -/
def claim (workerId : String) (now : DateTime) (task : Task) : Task :=
  { task with
    status := .running
    workerId := some workerId
    startedAt := some now
    attempt := if task.attempt = 0 then 1 else task.attempt }

/-- The ownership and status test of `complete_task` and `fail_task`. -/
def checkOwned (workerId : String) (task : Task) : Except SchedulerError Unit :=
  if task.workerId ≠ some workerId then
    .error (.taskTransition ("task " ++ task.taskUuid ++ " is owned by " ++
      pyReprOption task.workerId ++ ", not " ++ pyRepr workerId))
  else if task.status ≠ .running then
    .error (.taskTransition ("task " ++ task.taskUuid ++ " is in state " ++
      pyRepr task.status.toString ++ "; expected RUNNING"))
  else .ok ()

/-- `complete_task`'s assignments. -/
def complete (now : DateTime) (result : Option JsonDict) (task : Task) : Task :=
  { task with
    status := .succeeded
    finishedAt := some now
    result := result
    errorCode := none
    errorMessage := none }

/-- `fail_task`'s assignments. -/
def fail (now : DateTime) (errorCode errorMessage : String) (task : Task) : Task :=
  { task with
    status := .failed
    finishedAt := some now
    errorCode := some errorCode
    errorMessage := some errorMessage }

/-- The reaper's assignments to an orphan. -/
def requeue (task : Task) : Task :=
  { task with status := .pending, workerId := none, startedAt := none }

theorem taskUuid_claim (workerId : String) (now : DateTime) (task : Task) :
    (task.claim workerId now).taskUuid = task.taskUuid := rfl

theorem taskUuid_complete (now : DateTime) (result : Option JsonDict) (task : Task) :
    (task.complete now result).taskUuid = task.taskUuid := rfl

theorem taskUuid_fail (now : DateTime) (errorCode errorMessage : String) (task : Task) :
    (task.fail now errorCode errorMessage).taskUuid = task.taskUuid := rfl

theorem checkOwned_eq_ok {workerId : String} {task : Task} :
    task.checkOwned workerId = .ok () ↔ task.runningOn workerId = true := by
  unfold checkOwned runningOn
  by_cases owned : task.workerId = some workerId <;> by_cases running : task.status = .running <;>
    simp [owned, running]

/-- What a whole pass over the stale workers does to a task. -/
def requeueFrom (stale : List WorkerRegistry) (task : Task) : Task :=
  if stale.any fun worker => task.runningOn worker.workerId then task.requeue else task

theorem requeue_not_runningOn (task : Task) (workerId : String) :
    task.requeue.runningOn workerId = false := by
  simp [requeue, runningOn]

theorem dispatchable_iff {taskType : Option TaskType} {task : Task} :
    task.dispatchable taskType = true ↔
      (task.status = .pending ∨ task.status = .queued) ∧ task.attempt < task.maxAttempts ∧
        ∀ wanted ∈ taskType, task.taskType = wanted := by
  simp [dispatchable]

end Task

namespace WorkerRegistry

/-- The validation that opens `claim_next_task`: `true` goes on to the select,
`false` returns `None`. -/
def mayClaim (leaseId : String) (worker : WorkerRegistry) : Except SchedulerError Bool :=
  if worker.leaseId ≠ leaseId then
    .error (.workerLeaseMismatch ("worker " ++ pyRepr worker.workerId ++ " lease mismatch"))
  else if worker.status ≠ .alive then .ok false
  else if worker.inFlight ≥ worker.capacity then .ok false
  else .ok true

/-- `claim_next_task`'s write-back of the counter it computed from the row it
read. -/
def setInFlight (inFlight : Nat) (worker : WorkerRegistry) : WorkerRegistry :=
  { worker with inFlight }

/-- `heartbeat`'s assignments: a DEAD worker becomes ALIVE again. -/
def beat (now : DateTime) (worker : WorkerRegistry) : WorkerRegistry :=
  { worker with
    lastHeartbeatAt := now
    status := if worker.status = .dead then .alive else worker.status }

/-- `drain_worker`'s assignment. -/
def drain (worker : WorkerRegistry) : WorkerRegistry := { worker with status := .draining }

/-- The `CASE WHEN in_flight > 0` update of `_decrement_in_flight`. -/
def decrementInFlight (worker : WorkerRegistry) : WorkerRegistry :=
  { worker with inFlight := if worker.inFlight > 0 then worker.inFlight - 1 else 0 }

/-- ALIVE or DRAINING with a heartbeat older than the cutoff. -/
def stale (now : DateTime) (timeout : TimeDelta) (worker : WorkerRegistry) : Bool :=
  worker.status ≠ .dead ∧ worker.lastHeartbeatAt < now - timeout

/-- The reaper's assignments to a stale worker. -/
def bury (worker : WorkerRegistry) : WorkerRegistry :=
  { worker with status := .dead, inFlight := 0 }

theorem workerId_setInFlight (inFlight : Nat) (worker : WorkerRegistry) :
    (worker.setInFlight inFlight).workerId = worker.workerId := rfl

theorem workerId_beat (now : DateTime) (worker : WorkerRegistry) :
    (worker.beat now).workerId = worker.workerId := rfl

theorem workerId_drain (worker : WorkerRegistry) : worker.drain.workerId = worker.workerId := rfl

theorem workerId_decrementInFlight (worker : WorkerRegistry) :
    worker.decrementInFlight.workerId = worker.workerId := rfl

theorem workerId_bury (worker : WorkerRegistry) : worker.bury.workerId = worker.workerId := rfl

theorem mayClaim_eq_true {leaseId : String} {worker : WorkerRegistry} :
    worker.mayClaim leaseId = .ok true ↔
      worker.leaseId = leaseId ∧ worker.status = .alive ∧ worker.inFlight < worker.capacity := by
  unfold mayClaim
  by_cases lease : worker.leaseId = leaseId <;> by_cases alive : worker.status = .alive <;>
    by_cases room : worker.capacity ≤ worker.inFlight <;> simp [lease, alive, room]; omega

end WorkerRegistry

/-! ## Operations -/

namespace SchedulerService

variable (principal : Option TenantPrincipal) (now : DateTime)

/-- The arguments of `register_worker`. -/
structure Registration where
  workerId : String
  workerType : String
  host : Option String := none
  capacity : Nat := 1
  labels : Option JsonDict := none

/-- The row a first registration inserts. -/
def Registration.row (args : Registration) (newLease : String) (now : DateTime) :
    WorkerRegistry :=
  { workerId := args.workerId
    workerType := args.workerType
    host := args.host
    leaseId := newLease
    capacity := args.capacity
    labels := args.labels
    status := .alive
    lastHeartbeatAt := now }

/-- A repeated registration's assignments to the row it found. -/
def Registration.refresh (args : Registration) (newLease : String) (now : DateTime)
    (existing : WorkerRegistry) : WorkerRegistry :=
  { existing with
    workerType := args.workerType
    host := args.host
    leaseId := newLease
    capacity := args.capacity
    labels := args.labels
    inFlight := 0
    status := .alive
    lastHeartbeatAt := now }

theorem Registration.workerId_refresh (args : Registration) (newLease : String) (now : DateTime)
    (existing : WorkerRegistry) :
    (args.refresh newLease now existing).workerId = existing.workerId := rfl

/-- Insert or refresh a worker row; `newLease` is the drawn `uuid4`. -/
def registerWorker (newLease : String) (args : Registration) (db : Database) :
    Except SchedulerError Database :=
  if !requireSystemContext principal then .error .notSystem
  else
    match db.workerRegistry.get args.workerId with
    | some _ =>
        .ok { db with
          workerRegistry :=
            db.workerRegistry.update args.workerId (args.refresh newLease now)
              (args.workerId_refresh newLease now) }
    | none =>
        .ok { db with workerRegistry := db.workerRegistry.insert (args.row newLease now) }

/-- Refresh the heartbeat timestamp; rejects stale leases. -/
def heartbeat (workerId leaseId : String) (db : Database) : Except SchedulerError Database :=
  if !requireSystemContext principal then .error .notSystem
  else
    match db.workerRegistry.get workerId with
    | none => .error (.workerNotFound workerId)
    | some worker =>
        if worker.leaseId ≠ leaseId then
          .error (.workerLeaseMismatch ("worker " ++ pyRepr workerId ++
            " lease mismatch (expected " ++ pyRepr worker.leaseId ++ ")"))
        else
          .ok { db with
            workerRegistry := db.workerRegistry.update workerId (WorkerRegistry.beat now)
              (WorkerRegistry.workerId_beat now) }

/-- Mark a worker DRAINING unless the reaper already buried it. -/
def drainWorker (workerId : String) (db : Database) : Except SchedulerError Database :=
  if !requireSystemContext principal then .error .notSystem
  else
    match db.workerRegistry.get workerId with
    | none => .error (.workerNotFound workerId)
    | some worker =>
        if worker.status ≠ .dead then
          .ok { db with
            workerRegistry := db.workerRegistry.update workerId WorkerRegistry.drain
              WorkerRegistry.workerId_drain }
        else .ok db

/-- The `UPDATE worker_registry` of `_decrement_in_flight`. -/
def decrementInFlight (workerId : String) (db : Database) : Database :=
  { db with
    workerRegistry :=
      db.workerRegistry.update workerId WorkerRegistry.decrementInFlight
        WorkerRegistry.workerId_decrementInFlight }

/-- The rows a successful claim of `task` writes. -/
def claimTask (workerId : String) (worker : WorkerRegistry) (task : Task) (db : Database) :
    Database :=
  { db with
    task := db.task.update task.taskUuid (Task.claim workerId now)
      (Task.taskUuid_claim workerId now)
    workerRegistry := db.workerRegistry.update workerId
      (WorkerRegistry.setInFlight (worker.inFlight + 1))
      (WorkerRegistry.workerId_setInFlight (worker.inFlight + 1)) }

/-- Pull the next dispatchable task for `workerId`. -/
def claimNextTask (workerId leaseId : String) (taskType : Option TaskType) (db : Database) :
    Except SchedulerError (Option Task × Database) :=
  if !requireSystemContext principal then .error .notSystem
  else
    match db.workerRegistry.get workerId with
    | none => .error (.workerNotFound workerId)
    | some worker => do
        if ← worker.mayClaim leaseId then
          match db.task.first (Task.dispatchable taskType) Task.before with
          | none => return (none, db)
          | some task =>
              return (some (task.claim workerId now), claimTask now workerId worker task db)
        else return (none, db)

/-- The row `_get_task` returns. -/
def getTask (taskUuid : String) (db : Database) : Except SchedulerError Task :=
  match db.task.get taskUuid with
  | none => .error (.taskTransition ("task " ++ taskUuid ++ " not found"))
  | some task => .ok task

/-- A worker-side transition: the owner moves its RUNNING task by `assign` and
gives its slot back. -/
def finishTask (workerId taskUuid : String) (assign : Task → Task)
    (keeps : ∀ task, (assign task).taskUuid = task.taskUuid) (db : Database) :
    Except SchedulerError Database :=
  if !requireSystemContext principal then .error .notSystem
  else do
    let task ← getTask taskUuid db
    task.checkOwned workerId
    return decrementInFlight workerId { db with task := db.task.update taskUuid assign keeps }

/-- Mark a RUNNING task as SUCCEEDED. -/
def completeTask (workerId taskUuid : String) (result : Option JsonDict) (db : Database) :
    Except SchedulerError Database :=
  finishTask principal workerId taskUuid (Task.complete now result)
    (Task.taskUuid_complete now result) db

/-- Mark a RUNNING task as FAILED. -/
def failTask (workerId taskUuid errorCode errorMessage : String) (db : Database) :
    Except SchedulerError Database :=
  finishTask principal workerId taskUuid (Task.fail now errorCode errorMessage)
    (Task.taskUuid_fail now errorCode errorMessage) db

/-- One pass of the reaper's loop body: requeue the RUNNING tasks of one stale
worker and bury it. -/
def reapWorker (worker : WorkerRegistry) (db : Database) : Database :=
  { db with
    task := db.task.modify
      (fun task => if task.runningOn worker.workerId then task.requeue else task)
      (fun task => by split <;> rfl)
    workerRegistry := db.workerRegistry.update worker.workerId WorkerRegistry.bury
      WorkerRegistry.workerId_bury }

/-- What the reaper accumulates: `reaped_ids`, `requeued` and the rows. -/
structure Reaping where
  reapedIds : List String := []
  requeued : List String := []
  db : Database

/-- The reaper's loop over the stale workers it selected. -/
def reapLoop : List WorkerRegistry → Reaping → Reaping
  | [], acc => acc
  | worker :: rest, acc =>
      let runningTasks := acc.db.task.rows.filter (Task.runningOn worker.workerId)
      reapLoop rest
        { reapedIds := acc.reapedIds ++ [worker.workerId]
          requeued := acc.requeued ++ runningTasks.map Task.taskUuid
          db := reapWorker worker acc.db }

/-- `DEFAULT_HEARTBEAT_TIMEOUT`, half a minute. -/
def defaultHeartbeatTimeout : TimeDelta := 30000000

/-- Mark stale workers DEAD and requeue their RUNNING tasks. -/
def reapDeadWorkers (timeout : TimeDelta) (db : Database) :
    Except SchedulerError ((List String × List String) × Database) :=
  if !requireSystemContext principal then .error .notSystem
  else
    let stale := db.workerRegistry.rows.filter (WorkerRegistry.stale now timeout)
    let acc := reapLoop stale { db }
    .ok ((acc.reapedIds, acc.requeued), acc.db)

/-! ## What each operation can do -/

variable {principal now}

theorem registerWorker_cases {newLease : String} {args : Registration} {db after : Database}
    (ran : registerWorker principal now newLease args db = .ok after) :
    (db.workerRegistry.get args.workerId = none ∧
      ∃ registry, db.workerRegistry.insert? (args.row newLease now) = some registry ∧
        after = { db with workerRegistry := registry }) ∨
    ∃ existing, db.workerRegistry.get args.workerId = some existing ∧
      after = { db with
        workerRegistry :=
          db.workerRegistry.update args.workerId (args.refresh newLease now)
            (args.workerId_refresh newLease now) } := by
  unfold registerWorker at ran
  split at ran
  · cases ran
  · split at ran
    · rename_i existing found
      cases ran
      exact .inr ⟨existing, found, rfl⟩
    · rename_i absent
      cases ran
      obtain ⟨registry, inserted, same⟩ :=
        Table.insert?_of_get_eq_none (r := args.row newLease now) absent
      exact .inl ⟨absent, registry, inserted, by rw [same]⟩

theorem heartbeat_cases {workerId leaseId : String} {db after : Database}
    (ran : heartbeat principal now workerId leaseId db = .ok after) :
    ∃ worker, db.workerRegistry.get workerId = some worker ∧ worker.leaseId = leaseId ∧
      after = { db with
        workerRegistry := db.workerRegistry.update workerId (WorkerRegistry.beat now)
          (WorkerRegistry.workerId_beat now) } := by
  unfold heartbeat at ran
  split at ran
  · cases ran
  · split at ran
    · cases ran
    · rename_i worker found
      split at ran
      · cases ran
      · rename_i lease
        cases ran
        exact ⟨worker, found, not_not.1 lease, rfl⟩

theorem drainWorker_cases {workerId : String} {db after : Database}
    (ran : drainWorker principal workerId db = .ok after) :
    after = db ∨ after = { db with
      workerRegistry := db.workerRegistry.update workerId WorkerRegistry.drain
        WorkerRegistry.workerId_drain } := by
  unfold drainWorker at ran
  split at ran
  · cases ran
  · split at ran
    · cases ran
    · split at ran <;> cases ran
      · exact .inr rfl
      · exact .inl rfl

theorem claimNextTask_cases {workerId leaseId : String} {taskType : Option TaskType}
    {db after : Database} {claimed : Option Task}
    (ran : claimNextTask principal now workerId leaseId taskType db = .ok (claimed, after)) :
    (claimed = none ∧ after = db) ∨
      ∃ worker task, db.workerRegistry.get workerId = some worker ∧
        worker.mayClaim leaseId = .ok true ∧
        task ∈ db.task.rows ∧ task.dispatchable taskType = true ∧
        claimed = some (task.claim workerId now) ∧
        after = claimTask now workerId worker task db := by
  unfold claimNextTask at ran
  split at ran
  · cases ran
  · split at ran
    · cases ran
    · rename_i worker found
      obtain ⟨room, admitted, ran⟩ := bind_eq_ok ran
      cases room with
      | false =>
          simp only [pure, Except.pure, Bool.false_eq_true, if_false, Except.ok.injEq,
            Prod.mk.injEq] at ran
          exact .inl ⟨ran.1.symm, ran.2.symm⟩
      | true =>
          simp only [pure, Except.pure, if_true] at ran
          split at ran
          · cases ran
            exact .inl ⟨rfl, rfl⟩
          · rename_i task selected
            cases ran
            obtain ⟨member, wanted⟩ := Table.first_spec selected
            exact .inr ⟨worker, task, found, admitted, member, wanted, rfl, rfl⟩

theorem system_of_claimNextTask {workerId leaseId : String} {taskType : Option TaskType}
    {db after : Database} {claimed : Option Task}
    (ran : claimNextTask principal now workerId leaseId taskType db = .ok (claimed, after)) :
    requireSystemContext principal = true := by
  unfold claimNextTask at ran
  split at ran
  · cases ran
  · rename_i inside
    simpa using inside

theorem finishTask_cases {workerId taskUuid : String} {assign : Task → Task}
    {keeps : ∀ task, (assign task).taskUuid = task.taskUuid} {db after : Database}
    (ran : finishTask principal workerId taskUuid assign keeps db = .ok after) :
    ∃ task, db.task.get taskUuid = some task ∧ task.runningOn workerId = true ∧
      after =
        decrementInFlight workerId { db with task := db.task.update taskUuid assign keeps } := by
  unfold finishTask getTask at ran
  split at ran
  · cases ran
  · cases found : db.task.get taskUuid with
    | none => simp [found, bind, Except.bind] at ran
    | some task =>
        simp only [found, bind, Except.bind] at ran
        split at ran
        · cases ran
        · rename_i owned
          cases ran
          exact ⟨task, rfl, Task.checkOwned_eq_ok.1 owned, rfl⟩

theorem finishTask_of_owned {workerId taskUuid : String} {assign : Task → Task}
    {keeps : ∀ task, (assign task).taskUuid = task.taskUuid} {db : Database} {task : Task}
    (system : requireSystemContext principal = true) (got : db.task.get taskUuid = some task)
    (owned : task.runningOn workerId = true) :
    finishTask principal workerId taskUuid assign keeps db =
      .ok (decrementInFlight workerId
        { db with task := db.task.update taskUuid assign keeps }) := by
  have checked : task.checkOwned workerId = .ok () := Task.checkOwned_eq_ok.2 owned
  simp [finishTask, system, getTask, got, checked, bind, Except.bind, pure, Except.pure]

theorem system_of_finishTask {workerId taskUuid : String} {assign : Task → Task}
    {keeps : ∀ task, (assign task).taskUuid = task.taskUuid} {db after : Database}
    (ran : finishTask principal workerId taskUuid assign keeps db = .ok after) :
    requireSystemContext principal = true := by
  unfold finishTask at ran
  split at ran
  · cases ran
  · rename_i inside
    simpa using inside

/-- The rows of the loop, without its report. -/
theorem reapLoop_db (stale : List WorkerRegistry) (acc : Reaping) :
    (reapLoop stale acc).db = stale.foldl (fun db worker => reapWorker worker db) acc.db := by
  induction stale generalizing acc with
  | nil => rfl
  | cons worker rest ih => exact ih _

/-- A pass of the loop, as one rewrite of the task table. -/
theorem reap_task_rows (stale : List WorkerRegistry) (db : Database) :
    (stale.foldl (fun db worker => reapWorker worker db) db).task.rows =
      db.task.rows.map (Task.requeueFrom stale) := by
  induction stale generalizing db with
  | nil =>
      have same : Task.requeueFrom [] = id := funext fun task => by simp [Task.requeueFrom]
      simp [same]
  | cons worker rest ih =>
      rw [List.foldl_cons, ih, reapWorker, Table.rows_modify, List.map_map]
      refine List.map_congr_left fun task _ => ?_
      by_cases owned : task.runningOn worker.workerId = true
      · simp [Task.requeueFrom, owned, Task.requeue_not_runningOn]
      · simp [Task.requeueFrom, owned]

theorem reap_vectorIndex (stale : List WorkerRegistry) (db : Database) :
    (stale.foldl (fun db worker => reapWorker worker db) db).vectorIndex = db.vectorIndex := by
  induction stale generalizing db with
  | nil => rfl
  | cons worker rest ih => exact ih _

theorem reap_dataset (stale : List WorkerRegistry) (db : Database) :
    (stale.foldl (fun db worker => reapWorker worker db) db).dataset = db.dataset := by
  induction stale generalizing db with
  | nil => rfl
  | cons worker rest ih => exact ih _

theorem reap_vectorizationRule (stale : List WorkerRegistry) (db : Database) :
    (stale.foldl (fun db worker => reapWorker worker db) db).vectorizationRule =
      db.vectorizationRule := by
  induction stale generalizing db with
  | nil => rfl
  | cons worker rest ih => exact ih _

/-- A pass of the loop, as one rewrite of the worker table. -/
theorem reap_worker_rows (stale : List WorkerRegistry) (db : Database) :
    (stale.foldl (fun db worker => reapWorker worker db) db).workerRegistry.rows =
      db.workerRegistry.rows.map fun worker =>
        if worker.workerId ∈ stale.map WorkerRegistry.workerId then worker.bury else worker := by
  induction stale generalizing db with
  | nil => simp
  | cons head rest ih =>
      have buried : (reapWorker head db).workerRegistry.rows = db.workerRegistry.rows.map
          fun worker => if worker.workerId = head.workerId then worker.bury else worker :=
        Table.rows_update db.workerRegistry head.workerId WorkerRegistry.bury
          WorkerRegistry.workerId_bury
      rw [List.foldl_cons, ih, buried, List.map_map]
      refine List.map_congr_left fun worker _ => ?_
      by_cases same : worker.workerId = head.workerId
      · simp [same, WorkerRegistry.bury]
      · simp [same]

theorem reapDeadWorkers_cases {timeout : TimeDelta} {db after : Database}
    {report : List String × List String}
    (ran : reapDeadWorkers principal now timeout db = .ok (report, after)) :
    after = (db.workerRegistry.rows.filter (WorkerRegistry.stale now timeout)).foldl
      (fun db worker => reapWorker worker db) db := by
  unfold reapDeadWorkers at ran
  split at ran
  · cases ran
  · cases ran
    exact reapLoop_db _ _

end SchedulerService

end Lcp
