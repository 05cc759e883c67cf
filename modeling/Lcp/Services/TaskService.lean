/-
# Services.TaskService -- submit, cancel and retry

The tenant-facing operations on the `task` table.  Every select of this module
is on that table alone, so what the RLS hook leaves visible of it is
`TenantPrincipal.sees`; with no principal bound the hook raises.
-/
import Lcp.Services.SchedulerService

namespace Lcp

open Theory

set_option autoImplicit false

inductive TaskError where
  | noPrincipal
  | permission
  | notFound (taskUuid : String)
  | transition (message : String)
  | integrity
deriving DecidableEq, Repr

/-- The body of `POST /v1/tasks`, with the bounds its schema enforces. -/
structure TaskSubmitRequest where
  taskType : TaskType
  datasetUuid : String
  priority : Nat := 5
  params : Option JsonDict := none
  idempotencyKey : Option String := none
  maxAttempts : Nat := 3
  datasetUuid_length : 1 ≤ datasetUuid.length ∧ datasetUuid.length ≤ 64 := by decide
  priority_le : priority ≤ 9 := by decide
  idempotencyKey_length : ∀ key ∈ idempotencyKey, key.length ≤ 128 := by decide
  maxAttempts_bounds : 1 ≤ maxAttempts ∧ maxAttempts ≤ 20 := by decide

/-- The request that leaves out what a client can, `params` apart. -/
def TaskSubmitRequest.plain (taskType : TaskType) (datasetUuid : String)
    (datasetUuid_length : 1 ≤ datasetUuid.length ∧ datasetUuid.length ≤ 64)
    (params : Option JsonDict) : TaskSubmitRequest :=
  { taskType, datasetUuid, params, datasetUuid_length }

/-- A COMPACTION of dataset `d1`. -/
def TaskSubmitRequest.compaction : TaskSubmitRequest :=
  .plain .compaction "d1" (by decide) none

namespace Task

/-- The states `_CANCELLABLE_STATES`. -/
def cancellable (task : Task) : Bool :=
  task.status = .pending ∨ task.status = .queued ∨ task.status = .running

/-- `cancel_task`'s assignments. -/
def cancel (now : DateTime) (task : Task) : Task :=
  { task with status := .cancelled, finishedAt := some now }

/-- The worker whose slot `cancel_task` releases; an empty `worker_id` is falsy
and releases nothing. -/
def slotOwner (task : Task) : Option String :=
  if task.status = .running then task.workerId.filter (· ≠ "") else none

/-- The two tests of `retry_task`. -/
def checkRetry (task : Task) : Except TaskError Unit :=
  if task.status ≠ .failed then
    .error (.transition ("task " ++ task.taskUuid ++ " is in state " ++
      pyRepr task.status.toString ++ "; only FAILED tasks can be retried"))
  else if task.attempt ≥ task.maxAttempts then
    .error (.transition ("task " ++ task.taskUuid ++ " has exhausted retries (" ++
      ToString.toString task.attempt ++ "/" ++ ToString.toString task.maxAttempts ++ ")"))
  else .ok ()

/-- `retry_task`'s assignments. -/
def retry (task : Task) : Task :=
  { task with
    status := .pending
    attempt := task.attempt + 1
    errorCode := none
    errorMessage := none
    startedAt := none
    finishedAt := none }

theorem taskUuid_cancel (now : DateTime) (task : Task) :
    (task.cancel now).taskUuid = task.taskUuid := rfl

theorem taskUuid_retry (task : Task) : task.retry.taskUuid = task.taskUuid := rfl

theorem checkRetry_eq_ok {task : Task} :
    task.checkRetry = .ok () ↔ task.status = .failed ∧ task.attempt < task.maxAttempts := by
  unfold checkRetry
  by_cases failed : task.status = .failed <;>
    by_cases spent : task.maxAttempts ≤ task.attempt <;> simp [failed, spent]; omega

theorem slotOwner_eq_some {task : Task} {workerId : String} :
    task.slotOwner = some workerId ↔ task.runningOn workerId = true ∧ workerId ≠ "" := by
  unfold slotOwner runningOn
  by_cases running : task.status = .running
  · simp [running, Option.filter_eq_some_iff]
  · simp [running]

end Task

namespace TaskService

variable (principal : Option TenantPrincipal) (now : DateTime)

/-- The stored form `<tenant_id>:<key>` of a client's idempotency key. -/
def scopedKey (principal : TenantPrincipal) (idempotencyKey : Option String) : Option String :=
  idempotencyKey.map fun key => principal.tenantId ++ ":" ++ key

/-- The visible row that holds an idempotency key. -/
def findByKey (principal : TenantPrincipal) (key : String) (db : Database) : Option Task :=
  db.task.rows.find? fun task => principal.sees task.tenantId && task.idempotencyKey = some key

/-- Insert under the two UNIQUE keys of the `task` table; `none` is the
`IntegrityError` of the flush. -/
def insertTask (task : Task) (db : Database) : Option Database :=
  if task.idempotencyKey.isSome ∧ task.idempotencyKey ∈ db.task.rows.map Task.idempotencyKey then
    none
  else (db.task.insert? task).map fun table => { db with task := table }

/-- The arguments of `submit_task`. -/
structure Submission where
  taskType : TaskType
  datasetUuid : String
  priority : Nat := 5
  params : Option JsonDict := none
  idempotencyKey : Option String := none
  maxAttempts : Nat := 3

/-- The row `submit_task` inserts; `taskUuid` is the drawn `uuid4`. -/
def Submission.row (args : Submission) (principal : TenantPrincipal) (taskUuid : String)
    (now : DateTime) : Task :=
  { taskUuid
    taskType := args.taskType
    datasetUuid := args.datasetUuid
    tenantId := principal.tenantId
    status := .pending
    priority := args.priority
    params := args.params
    idempotencyKey := scopedKey principal args.idempotencyKey
    maxAttempts := args.maxAttempts
    createdAt := now }

/-- Insert a new task in PENDING state, or return the row that holds its key. -/
def submitTask (taskUuid : String) (args : Submission) (db : Database) :
    Except TaskError ((Task × Bool) × Database) :=
  match principal with
  | none => .error .noPrincipal
  | some principal =>
      match (scopedKey principal args.idempotencyKey).bind fun key =>
          findByKey principal key db with
      | some existing => .ok ((existing, false), db)
      | none =>
          match insertTask (args.row principal taskUuid now) db with
          | some after => .ok ((args.row principal taskUuid now, true), after)
          | none =>
              -- The re-select after the rollback: the same rows are still there.
              match (scopedKey principal args.idempotencyKey).bind fun key =>
                  findByKey principal key db with
              | some winner => .ok ((winner, false), db)
              | none => .error .integrity

/-- The arguments the REST router forwards of a request body. -/
def routerSubmission (request : TaskSubmitRequest) : Submission :=
  { taskType := request.taskType
    datasetUuid := request.datasetUuid
    priority := request.priority
    params := request.params
    idempotencyKey := request.idempotencyKey
    maxAttempts := request.maxAttempts }

/-- Return a single task; the RLS hook adds the tenant predicate. -/
def getTask (taskUuid : String) (db : Database) : Except TaskError Task :=
  match principal with
  | none => .error .permission
  | some principal =>
      match db.task.get taskUuid with
      | none => .error (.notFound taskUuid)
      | some task =>
          if principal.sees task.tenantId then .ok task else .error (.notFound taskUuid)

/-- Move a non-terminal task to CANCELLED and release its worker's slot. -/
def cancelTask (taskUuid : String) (db : Database) : Except TaskError (Task × Database) := do
  let task ← getTask principal taskUuid db
  if task.status = .cancelled then return (task, db)
  else if !task.cancellable then
    .error (.transition ("task " ++ taskUuid ++ " is in terminal state " ++
      pyRepr task.status.toString ++ " and cannot be cancelled"))
  else
    let released :=
      match task.slotOwner with
      | some workerId => SchedulerService.decrementInFlight workerId db
      | none => db
    return (task.cancel now,
      { released with
        task := released.task.update taskUuid (Task.cancel now) (Task.taskUuid_cancel now) })

/-- Requeue a FAILED task as PENDING. -/
def retryTask (taskUuid : String) (db : Database) : Except TaskError (Task × Database) := do
  let task ← getTask principal taskUuid db
  task.checkRetry
  return (task.retry, { db with task := db.task.update taskUuid Task.retry Task.taskUuid_retry })

/-! ## What each operation can do -/

variable {principal now}

theorem insertTask_eq_some {task : Task} {db after : Database}
    (inserted : insertTask task db = some after) :
    ∃ table, db.task.insert? task = some table ∧ after = { db with task := table } ∧
      ∀ row ∈ db.task.rows, task.idempotencyKey.isSome →
        row.idempotencyKey ≠ task.idempotencyKey := by
  unfold insertTask at inserted
  split at inserted
  · cases inserted
  · rename_i fresh
    simp only [Option.map_eq_some_iff] at inserted
    obtain ⟨table, ok, rfl⟩ := inserted
    refine ⟨table, ok, rfl, fun row member keyed same => fresh ⟨keyed, ?_⟩⟩
    exact same ▸ List.mem_map_of_mem member

/-- A submission returns a row that is there, or inserts its own. -/
theorem submitTask_cases {taskUuid : String} {args : Submission} {db after : Database}
    {answer : Task × Bool}
    (ran : submitTask principal now taskUuid args db = .ok (answer, after)) :
    ∃ caller, principal = some caller ∧
      ((answer.2 = false ∧ after = db ∧
          ∃ key, scopedKey caller args.idempotencyKey = some key ∧
            findByKey caller key db = some answer.1) ∨
        (answer = (args.row caller taskUuid now, true) ∧
          ((scopedKey caller args.idempotencyKey).bind fun key => findByKey caller key db) = none ∧
          insertTask (args.row caller taskUuid now) db = some after)) := by
  unfold submitTask at ran
  split at ran
  · cases ran
  · rename_i caller
    refine ⟨caller, rfl, ?_⟩
    split at ran
    · rename_i existing found
      cases ran
      exact .inl ⟨rfl, rfl, Option.bind_eq_some_iff.1 found⟩
    · rename_i absent
      split at ran
      · rename_i inserted ok
        cases ran
        exact .inr ⟨rfl, absent, ok⟩
      · cases ran

/-- A submission writes the task table alone. -/
theorem submitTask_frame {taskUuid : String} {args : Submission} {db after : Database}
    {answer : Task × Bool}
    (ran : submitTask principal now taskUuid args db = .ok (answer, after)) :
    after = { db with task := after.task } := by
  obtain ⟨caller, -, ⟨-, rfl, -⟩ | ⟨-, -, inserted⟩⟩ := submitTask_cases ran
  · rfl
  · obtain ⟨table, -, rows, -⟩ := insertTask_eq_some inserted
    rw [rows]

theorem getTask_eq_ok {taskUuid : String} {db : Database} {task : Task}
    (ran : getTask principal taskUuid db = .ok task) :
    db.task.get taskUuid = some task ∧ ∃ caller, principal = some caller ∧
      caller.sees task.tenantId = true := by
  unfold getTask at ran
  split at ran
  · cases ran
  · rename_i caller
    split at ran
    · cases ran
    · rename_i found
      split at ran
      · rename_i visible
        cases ran
        exact ⟨found, caller, rfl, visible⟩
      · cases ran

theorem cancelTask_cases {taskUuid : String} {db after : Database} {answer : Task}
    (ran : cancelTask principal now taskUuid db = .ok (answer, after)) :
    ∃ task, getTask principal taskUuid db = .ok task ∧
      ((task.status = .cancelled ∧ after = db) ∨
        (task.cancellable = true ∧
          after = { db with
            task := db.task.update taskUuid (Task.cancel now) (Task.taskUuid_cancel now)
            workerRegistry :=
              match task.slotOwner with
              | some workerId =>
                  db.workerRegistry.update workerId WorkerRegistry.decrementInFlight
                    WorkerRegistry.workerId_decrementInFlight
              | none => db.workerRegistry })) := by
  unfold cancelTask at ran
  obtain ⟨task, got, ran⟩ := bind_eq_ok ran
  refine ⟨task, got, ?_⟩
  split at ran
  · rename_i cancelled
    cases ran
    exact .inl ⟨cancelled, rfl⟩
  · split at ran
    · cases ran
    · rename_i cancellable
      refine .inr ⟨by simpa using cancellable, ?_⟩
      cases owner : task.slotOwner with
      | none =>
          simp only [owner] at ran
          cases ran
          rfl
      | some workerId =>
          simp only [owner] at ran
          cases ran
          rfl

theorem retryTask_cases {taskUuid : String} {db after : Database} {answer : Task}
    (ran : retryTask principal taskUuid db = .ok (answer, after)) :
    ∃ task, getTask principal taskUuid db = .ok task ∧ task.status = .failed ∧
      task.attempt < task.maxAttempts ∧
      after = { db with task := db.task.update taskUuid Task.retry Task.taskUuid_retry } := by
  unfold retryTask at ran
  obtain ⟨task, got, ran⟩ := bind_eq_ok ran
  obtain ⟨⟨⟩, checked, ran⟩ := bind_eq_ok ran
  obtain ⟨failed, budget⟩ := Task.checkRetry_eq_ok.1 checked
  cases ran
  exact ⟨task, got, failed, budget, rfl⟩

end TaskService

end Lcp
