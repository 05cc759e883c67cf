/-
# Services.Operations -- the scheduler and task operations as one machine

Each call of the task and scheduler services is a label, with the principal it
runs under and the values it draws from outside (the clock, a fresh uuid).  A
call is one atomic step; a call that raises leaves the database as it was.

`effect_of_exec` says once what a step can do.  An invariant of the runs is then
a case analysis over `Effect`, with no operation unfolded again.
-/
import Lcp.Services.TaskService
import Lcp.Theory.Machine

namespace Lcp

open Theory

set_option autoImplicit false

/-- One call of a public function of the two services. -/
inductive Operation where
  | submitTask (principal : Option TenantPrincipal) (now : DateTime) (taskUuid : String)
      (request : TaskSubmitRequest)
  | cancelTask (principal : Option TenantPrincipal) (now : DateTime) (taskUuid : String)
  | retryTask (principal : Option TenantPrincipal) (taskUuid : String)
  | registerWorker (principal : Option TenantPrincipal) (now : DateTime) (newLease : String)
      (args : SchedulerService.Registration)
  | heartbeat (principal : Option TenantPrincipal) (now : DateTime) (workerId leaseId : String)
  | drainWorker (principal : Option TenantPrincipal) (workerId : String)
  | claimNextTask (principal : Option TenantPrincipal) (now : DateTime)
      (workerId leaseId : String) (taskType : Option TaskType)
  | completeTask (principal : Option TenantPrincipal) (now : DateTime)
      (workerId taskUuid : String) (result : Option JsonDict)
  | failTask (principal : Option TenantPrincipal) (now : DateTime)
      (workerId taskUuid errorCode errorMessage : String)
  | reapDeadWorkers (principal : Option TenantPrincipal) (now : DateTime) (timeout : TimeDelta)

namespace Operation

/-- The committed rows after the call; `none` when it raised. -/
def exec (db : Database) : Operation → Option Database
  | .submitTask principal now taskUuid request =>
      (TaskService.submitTask principal now taskUuid (TaskService.routerSubmission request)
        db).toOption.map (·.2)
  | .cancelTask principal now taskUuid =>
      (TaskService.cancelTask principal now taskUuid db).toOption.map (·.2)
  | .retryTask principal taskUuid =>
      (TaskService.retryTask principal taskUuid db).toOption.map (·.2)
  | .registerWorker principal now newLease args =>
      (SchedulerService.registerWorker principal now newLease args db).toOption
  | .heartbeat principal now workerId leaseId =>
      (SchedulerService.heartbeat principal now workerId leaseId db).toOption
  | .drainWorker principal workerId =>
      (SchedulerService.drainWorker principal workerId db).toOption
  | .claimNextTask principal now workerId leaseId taskType =>
      (SchedulerService.claimNextTask principal now workerId leaseId taskType
        db).toOption.map (·.2)
  | .completeTask principal now workerId taskUuid result =>
      (SchedulerService.completeTask principal now workerId taskUuid result db).toOption
  | .failTask principal now workerId taskUuid errorCode errorMessage =>
      (SchedulerService.failTask principal now workerId taskUuid errorCode errorMessage
        db).toOption
  | .reapDeadWorkers principal now timeout =>
      (SchedulerService.reapDeadWorkers principal now timeout db).toOption.map (·.2)

/-- The rows after a call that may raise. -/
def apply (db : Database) (op : Operation) : Database := (op.exec db).getD db

end Operation

/-- Runs of the services, one call at a time. -/
def controlPlane : Machine Database Operation where
  step db op := some (op.apply db)

@[simp] theorem controlPlane_step (db : Database) (op : Operation) :
    controlPlane.step db op = some (op.apply db) := rfl

/-! ## What a step can do -/

/-- The ways a call changes the rows, with what it found before. -/
inductive Effect (db : Database) : Operation → Database → Prop
  | nothing (op : Operation) : Effect db op db
  | submitted {principal now taskUuid request} {caller : TenantPrincipal} {after : Database}
      (bound : principal = some caller)
      (inserted : TaskService.insertTask
        ((TaskService.routerSubmission request).row caller taskUuid now) db = some after)
      (first : ((TaskService.scopedKey caller request.idempotencyKey).bind fun key =>
        TaskService.findByKey caller key db) = none) :
      Effect db (.submitTask principal now taskUuid request) after
  | cancelled {principal now taskUuid} {task : Task}
      (got : TaskService.getTask principal taskUuid db = .ok task)
      (cancellable : task.cancellable = true) :
      Effect db (.cancelTask principal now taskUuid)
        { db with
          task := db.task.update taskUuid (Task.cancel now) (Task.taskUuid_cancel now)
          workerRegistry :=
            match task.slotOwner with
            | some workerId =>
                db.workerRegistry.update workerId WorkerRegistry.decrementInFlight
                  WorkerRegistry.workerId_decrementInFlight
            | none => db.workerRegistry }
  | retried {principal taskUuid} {task : Task}
      (got : TaskService.getTask principal taskUuid db = .ok task)
      (failed : task.status = .failed) (budget : task.attempt < task.maxAttempts) :
      Effect db (.retryTask principal taskUuid)
        { db with task := db.task.update taskUuid Task.retry Task.taskUuid_retry }
  | registered {principal now newLease args registry}
      (absent : db.workerRegistry.get args.workerId = none)
      (inserted : db.workerRegistry.insert? (args.row newLease now) = some registry) :
      Effect db (.registerWorker principal now newLease args)
        { db with workerRegistry := registry }
  | reregistered {principal now newLease args existing}
      (system : requireSystemContext principal = true)
      (found : db.workerRegistry.get args.workerId = some existing) :
      Effect db (.registerWorker principal now newLease args)
        { db with
          workerRegistry :=
            db.workerRegistry.update args.workerId (args.refresh newLease now)
              (args.workerId_refresh newLease now) }
  | beat {principal now workerId leaseId} {worker : WorkerRegistry}
      (found : db.workerRegistry.get workerId = some worker) (lease : worker.leaseId = leaseId) :
      Effect db (.heartbeat principal now workerId leaseId)
        { db with
          workerRegistry := db.workerRegistry.update workerId (WorkerRegistry.beat now)
            (WorkerRegistry.workerId_beat now) }
  | drained {principal workerId} :
      Effect db (.drainWorker principal workerId)
        { db with
          workerRegistry := db.workerRegistry.update workerId WorkerRegistry.drain
            WorkerRegistry.workerId_drain }
  | claimed {principal now workerId leaseId taskType} {worker : WorkerRegistry} {task : Task}
      (found : db.workerRegistry.get workerId = some worker)
      (admitted : worker.mayClaim leaseId = .ok true)
      (member : task ∈ db.task.rows) (wanted : task.dispatchable taskType = true) :
      Effect db (.claimNextTask principal now workerId leaseId taskType)
        (SchedulerService.claimTask now workerId worker task db)
  | completed {principal now workerId taskUuid result} {task : Task}
      (found : db.task.get taskUuid = some task) (owned : task.runningOn workerId = true) :
      Effect db (.completeTask principal now workerId taskUuid result)
        (SchedulerService.decrementInFlight workerId
          { db with
            task := db.task.update taskUuid (Task.complete now result)
              (Task.taskUuid_complete now result) })
  | failed {principal now workerId taskUuid errorCode errorMessage} {task : Task}
      (found : db.task.get taskUuid = some task) (owned : task.runningOn workerId = true) :
      Effect db (.failTask principal now workerId taskUuid errorCode errorMessage)
        (SchedulerService.decrementInFlight workerId
          { db with
            task := db.task.update taskUuid (Task.fail now errorCode errorMessage)
              (Task.taskUuid_fail now errorCode errorMessage) })
  | reaped {principal now timeout} (system : requireSystemContext principal = true) :
      Effect db (.reapDeadWorkers principal now timeout)
        ((db.workerRegistry.rows.filter (WorkerRegistry.stale now timeout)).foldl
          (fun db worker => SchedulerService.reapWorker worker db) db)

theorem requireSystem_of_register {principal : Option TenantPrincipal} {now : DateTime}
    {newLease : String} {args : SchedulerService.Registration} {db after : Database}
    (ran : SchedulerService.registerWorker principal now newLease args db = .ok after) :
    requireSystemContext principal = true := by
  unfold SchedulerService.registerWorker at ran
  split at ran
  · cases ran
  · rename_i system
    simpa using system

theorem requireSystem_of_reap {principal : Option TenantPrincipal} {now : DateTime}
    {timeout : TimeDelta} {db : Database} {answer : (List String × List String) × Database}
    (ran : SchedulerService.reapDeadWorkers principal now timeout db = .ok answer) :
    requireSystemContext principal = true := by
  unfold SchedulerService.reapDeadWorkers at ran
  split at ran
  · cases ran
  · rename_i system
    simpa using system

theorem effect_of_exec {db after : Database} {op : Operation} (ran : op.exec db = some after) :
    Effect db op after := by
  cases op with
  | submitTask principal now taskUuid request =>
      simp only [Operation.exec, Option.map_eq_some_iff] at ran
      obtain ⟨⟨answer, _⟩, ok, rfl⟩ := ran
      obtain ⟨caller, bound, ⟨-, rfl, -⟩ | ⟨-, first, inserted⟩⟩ :=
        TaskService.submitTask_cases (eq_ok_of_toOption ok)
      · exact .nothing _
      · exact .submitted bound inserted first
  | cancelTask principal now taskUuid =>
      simp only [Operation.exec, Option.map_eq_some_iff] at ran
      obtain ⟨⟨answer, _⟩, ok, rfl⟩ := ran
      obtain ⟨task, got, ⟨-, rfl⟩ | ⟨cancellable, rfl⟩⟩ :=
        TaskService.cancelTask_cases (eq_ok_of_toOption ok)
      · exact .nothing _
      · exact .cancelled got cancellable
  | retryTask principal taskUuid =>
      simp only [Operation.exec, Option.map_eq_some_iff] at ran
      obtain ⟨⟨answer, _⟩, ok, rfl⟩ := ran
      obtain ⟨task, got, failed, budget, rfl⟩ :=
        TaskService.retryTask_cases (eq_ok_of_toOption ok)
      exact .retried got failed budget
  | registerWorker principal now newLease args =>
      have ok := eq_ok_of_toOption ran
      obtain ⟨absent, registry, inserted, rfl⟩ | ⟨existing, found, rfl⟩ :=
        SchedulerService.registerWorker_cases ok
      · exact .registered absent inserted
      · exact .reregistered (requireSystem_of_register ok) found
  | heartbeat principal now workerId leaseId =>
      obtain ⟨worker, found, lease, rfl⟩ :=
        SchedulerService.heartbeat_cases (eq_ok_of_toOption ran)
      exact .beat found lease
  | drainWorker principal workerId =>
      obtain rfl | rfl := SchedulerService.drainWorker_cases (eq_ok_of_toOption ran)
      · exact .nothing _
      · exact .drained
  | claimNextTask principal now workerId leaseId taskType =>
      simp only [Operation.exec, Option.map_eq_some_iff] at ran
      obtain ⟨⟨answer, _⟩, ok, rfl⟩ := ran
      obtain ⟨-, rfl⟩ | ⟨worker, task, found, admitted, member, wanted, -, rfl⟩ :=
        SchedulerService.claimNextTask_cases (eq_ok_of_toOption ok)
      · exact .nothing _
      · exact .claimed found admitted member wanted
  | completeTask principal now workerId taskUuid result =>
      obtain ⟨task, found, owned, rfl⟩ :=
        SchedulerService.finishTask_cases (eq_ok_of_toOption ran)
      exact .completed found owned
  | failTask principal now workerId taskUuid errorCode errorMessage =>
      obtain ⟨task, found, owned, rfl⟩ :=
        SchedulerService.finishTask_cases (eq_ok_of_toOption ran)
      exact .failed found owned
  | reapDeadWorkers principal now timeout =>
      simp only [Operation.exec, Option.map_eq_some_iff] at ran
      obtain ⟨⟨report, _⟩, ok, rfl⟩ := ran
      have reaped := SchedulerService.reapDeadWorkers_cases (eq_ok_of_toOption ok)
      simp only [reaped]
      exact .reaped (requireSystem_of_reap (eq_ok_of_toOption ok))

theorem effect_of_apply (db : Database) (op : Operation) : Effect db op (op.apply db) := by
  unfold Operation.apply
  cases ran : op.exec db with
  | none => exact .nothing op
  | some after => exact effect_of_exec ran

/-! ## What calls leave alone -/

/-- The calls that can insert a task. -/
def Operation.submits : Operation → Bool
  | .submitTask .. => true
  | _ => false

/-- The columns of a task that decide what an executor does for it. -/
def Task.request (task : Task) : String × TaskType × String × Option JsonDict :=
  (task.taskUuid, task.taskType, task.datasetUuid, task.params)

theorem Effect.dataset {db after : Database} {op : Operation} (effect : Effect db op after) :
    after.dataset = db.dataset := by
  cases effect with
  | submitted bound inserted first =>
      obtain ⟨table, -, rfl, -⟩ := TaskService.insertTask_eq_some inserted
      rfl
  | reaped => exact SchedulerService.reap_dataset _ db
  | _ => rfl

theorem Effect.vectorIndex {db after : Database} {op : Operation} (effect : Effect db op after) :
    after.vectorIndex = db.vectorIndex := by
  cases effect with
  | submitted bound inserted first =>
      obtain ⟨table, -, rfl, -⟩ := TaskService.insertTask_eq_some inserted
      rfl
  | reaped => exact SchedulerService.reap_vectorIndex _ db
  | _ => rfl

theorem Effect.vectorizationRule {db after : Database} {op : Operation}
    (effect : Effect db op after) : after.vectorizationRule = db.vectorizationRule := by
  cases effect with
  | submitted bound inserted first =>
      obtain ⟨table, -, rfl, -⟩ := TaskService.insertTask_eq_some inserted
      rfl
  | reaped => exact SchedulerService.reap_vectorizationRule _ db
  | _ => rfl

/-- A column of a task, or several, that no call rewrites. -/
structure Task.Fixed {α : Type} (column : Task → α) : Prop where
  cancel : ∀ now task, column (task.cancel now) = column task
  retry : ∀ task, column task.retry = column task
  claim : ∀ workerId now task, column (task.claim workerId now) = column task
  complete : ∀ now result task, column (task.complete now result) = column task
  fail : ∀ now errorCode errorMessage task,
    column (task.fail now errorCode errorMessage) = column task
  requeue : ∀ task, column task.requeue = column task

theorem Task.fixed_request : Task.Fixed Task.request :=
  ⟨fun _ _ => rfl, fun _ => rfl, fun _ _ _ => rfl, fun _ _ _ => rfl, fun _ _ _ _ => rfl,
    fun _ => rfl⟩

theorem column_update {α : Type} {column : Task → α} {db : Database} {taskUuid : String}
    {assign : Task → Task} (keeps : ∀ task, (assign task).taskUuid = task.taskUuid)
    (same : ∀ task, column (assign task) = column task) :
    (db.task.update taskUuid assign keeps).rows.map column = db.task.rows.map column := by
  rw [Table.rows_update, List.map_map]
  refine List.map_congr_left fun task _ => ?_
  simp only [Function.comp]
  split
  · exact same task
  · rfl

/-- What finishing a task leaves. -/
theorem column_finishTask {α : Type} {column : Task → α} {principal : Option TenantPrincipal}
    {workerId taskUuid : String} {assign : Task → Task}
    {keeps : ∀ task, (assign task).taskUuid = task.taskUuid} {written after : Database}
    (ran : SchedulerService.finishTask principal workerId taskUuid assign keeps written =
      .ok after) (same : ∀ task, column (assign task) = column task) :
    after.dataset = written.dataset ∧ after.vectorIndex = written.vectorIndex ∧
      after.task.rows.map column = written.task.rows.map column := by
  obtain ⟨row, -, -, rfl⟩ := SchedulerService.finishTask_cases ran
  exact ⟨rfl, rfl, column_update keeps same⟩

theorem requests_finishTask {principal : Option TenantPrincipal} {workerId taskUuid : String}
    {assign : Task → Task} {keeps : ∀ task, (assign task).taskUuid = task.taskUuid}
    {written after : Database}
    (ran : SchedulerService.finishTask principal workerId taskUuid assign keeps written =
      .ok after) (same : ∀ task, (assign task).request = task.request) :
    after.dataset = written.dataset ∧ after.vectorIndex = written.vectorIndex ∧
      after.task.rows.map Task.request = written.task.rows.map Task.request :=
  column_finishTask ran same

/-- A call that submits nothing keeps a fixed column of all tasks. -/
theorem Effect.column {α : Type} {column : Task → α} {db after : Database} {op : Operation}
    (effect : Effect db op after) (silent : op.submits = false) (fixed : Task.Fixed column) :
    after.task.rows.map column = db.task.rows.map column := by
  cases effect with
  | nothing | registered | reregistered | beat | drained => rfl
  | submitted => cases silent
  | cancelled => exact column_update (Task.taskUuid_cancel _) (fixed.cancel _)
  | retried => exact column_update Task.taskUuid_retry fixed.retry
  | claimed => exact column_update (Task.taskUuid_claim _ _) (fixed.claim _ _)
  | completed => exact column_update (Task.taskUuid_complete _ _) (fixed.complete _ _)
  | failed => exact column_update (Task.taskUuid_fail _ _ _) (fixed.fail _ _ _)
  | reaped =>
      rw [SchedulerService.reap_task_rows, List.map_map]
      refine List.map_congr_left fun task _ => ?_
      simp only [Function.comp, Task.requeueFrom]
      split
      · exact fixed.requeue task
      · rfl

theorem Effect.requests {db after : Database} {op : Operation} (effect : Effect db op after)
    (silent : op.submits = false) :
    after.task.rows.map Task.request = db.task.rows.map Task.request :=
  effect.column silent Task.fixed_request

/-! ## Where worker rows come from -/

/-- A worker row after a call: one from before that is ALIVE only if it was, one that
sent a heartbeat, or one that registered. -/
inductive WorkerOrigin (db : Database) (worker : WorkerRegistry) : Operation → Prop
  | kept {op : Operation} {before : WorkerRegistry} (member : before ∈ db.workerRegistry.rows)
      (workerId : worker.workerId = before.workerId) (leaseId : worker.leaseId = before.leaseId)
      (alive : worker.status = .alive → before.status = .alive) : WorkerOrigin db worker op
  | beat {principal now workerId leaseId} {before : WorkerRegistry}
      (found : db.workerRegistry.get workerId = some before) (same : worker = before.beat now) :
      WorkerOrigin db worker (.heartbeat principal now workerId leaseId)
  | registered {principal now newLease args} (workerId : worker.workerId = args.workerId)
      (leaseId : worker.leaseId = newLease) :
      WorkerOrigin db worker (.registerWorker principal now newLease args)

/-- A row of a table in which one worker was given assignments that make it no more
ALIVE and keep its lease. -/
theorem worker_of_update {db : Database} {op : Operation} {worker : WorkerRegistry}
    (workerId : String) (assign : WorkerRegistry → WorkerRegistry)
    (keeps : ∀ worker, (assign worker).workerId = worker.workerId)
    (lease : ∀ worker, (assign worker).leaseId = worker.leaseId)
    (alive : ∀ worker, (assign worker).status = .alive → worker.status = .alive)
    (member : worker ∈ (db.workerRegistry.update workerId assign keeps).rows) :
    WorkerOrigin db worker op := by
  rcases Table.of_mem_update member with ⟨before, inTable, -, rfl⟩ | ⟨inTable, -⟩
  · exact .kept inTable (keeps before) (lease before) (alive before)
  · exact .kept inTable rfl rfl id

theorem Effect.worker_origin {db after : Database} {op : Operation} (effect : Effect db op after)
    {worker : WorkerRegistry} (member : worker ∈ after.workerRegistry.rows) :
    WorkerOrigin db worker op := by
  cases effect with
  | nothing | retried => exact .kept member rfl rfl id
  | submitted bound inserted =>
      obtain ⟨table, -, rfl, -⟩ := TaskService.insertTask_eq_some inserted
      exact .kept member rfl rfl id
  | @cancelled principal now taskUuid task got cancellable =>
      cases owner : task.slotOwner with
      | none =>
          simp only [owner] at member
          exact .kept member rfl rfl id
      | some workerId =>
          simp only [owner] at member
          exact worker_of_update workerId WorkerRegistry.decrementInFlight
            WorkerRegistry.workerId_decrementInFlight (fun _ => rfl) (fun _ => id) member
  | registered absent inserted =>
      rcases (Table.mem_insert? inserted).1 member with old | rfl
      · exact .kept old rfl rfl id
      · exact .registered rfl rfl
  | @reregistered principal now newLease args existing system found =>
      rcases Table.of_mem_update member with ⟨before, -, same, rfl⟩ | ⟨inTable, -⟩
      · exact .registered same rfl
      · exact .kept inTable rfl rfl id
  | @beat principal now workerId leaseId before found =>
      rcases Table.of_mem_update member with ⟨row, inTable, same, rfl⟩ | ⟨inTable, -⟩
      · exact .beat (Table.get_eq_some.2 ⟨inTable, same⟩) rfl
      · exact .kept inTable rfl rfl id
  | @drained principal workerId =>
      exact worker_of_update workerId WorkerRegistry.drain WorkerRegistry.workerId_drain
        (fun _ => rfl) (fun _ alive => by cases alive) member
  | @claimed principal now workerId leaseId taskType before =>
      exact worker_of_update workerId (WorkerRegistry.setInFlight (before.inFlight + 1))
        (WorkerRegistry.workerId_setInFlight _) (fun _ => rfl) (fun _ => id) member
  | @completed principal now workerId | @failed principal now workerId =>
      exact worker_of_update workerId WorkerRegistry.decrementInFlight
        WorkerRegistry.workerId_decrementInFlight (fun _ => rfl) (fun _ => id) member
  | reaped =>
      rw [SchedulerService.reap_worker_rows, List.mem_map] at member
      obtain ⟨before, inTable, rfl⟩ := member
      split
      · exact .kept inTable rfl rfl fun alive => by cases alive
      · exact .kept inTable rfl rfl id

/-! ## Calls that are accepted -/

theorem apply_retryTask {principal : Option TenantPrincipal} {taskUuid : String} {db : Database}
    {task : Task} (got : TaskService.getTask principal taskUuid db = .ok task)
    (checked : task.checkRetry = .ok ()) :
    (Operation.retryTask principal taskUuid).apply db =
      { db with task := db.task.update taskUuid Task.retry Task.taskUuid_retry } := by
  simp [Operation.apply, Operation.exec, TaskService.retryTask, got, checked, bind, Except.bind,
    pure, Except.pure, Except.toOption]

/-- A cancel that is accepted rewrites the task and, at most, a worker. -/
theorem apply_cancelTask {principal : Option TenantPrincipal} {now : DateTime}
    {taskUuid : String} {db : Database} {task : Task}
    (got : TaskService.getTask principal taskUuid db = .ok task)
    (cancellable : task.cancellable = true) :
    ∃ registry, (Operation.cancelTask principal now taskUuid).apply db =
      { db with
        task := db.task.update taskUuid (Task.cancel now) (Task.taskUuid_cancel now)
        workerRegistry := registry } := by
  have open_ : task.status ≠ .cancelled := by
    intro closed
    simp [Task.cancellable, closed] at cancellable
  cases owner : task.slotOwner <;>
    simp [Operation.apply, Operation.exec, TaskService.cancelTask, got, open_, cancellable, owner,
      SchedulerService.decrementInFlight, bind, Except.bind, pure, Except.pure, Except.toOption]

/-- A cancel that finds no slot to release. -/
theorem apply_cancelTask_of_no_slot {principal : Option TenantPrincipal} {now : DateTime}
    {taskUuid : String} {db : Database} {task : Task}
    (got : TaskService.getTask principal taskUuid db = .ok task)
    (cancellable : task.cancellable = true) (noSlot : task.slotOwner = none) :
    (Operation.cancelTask principal now taskUuid).apply db =
      { db with
        task := db.task.update taskUuid (Task.cancel now) (Task.taskUuid_cancel now) } := by
  have open_ : task.status ≠ .cancelled := by
    intro closed
    simp [Task.cancellable, closed] at cancellable
  simp [Operation.apply, Operation.exec, TaskService.cancelTask, got, open_, cancellable, noSlot,
    bind, Except.bind, pure, Except.pure, Except.toOption]

theorem apply_registerWorker_of_get {principal : Option TenantPrincipal} {now : DateTime}
    {newLease : String} {args : SchedulerService.Registration} {db : Database}
    {existing : WorkerRegistry} (system : requireSystemContext principal = true)
    (found : db.workerRegistry.get args.workerId = some existing) :
    (Operation.registerWorker principal now newLease args).apply db =
      { db with
        workerRegistry :=
          db.workerRegistry.update args.workerId (args.refresh newLease now)
            (args.workerId_refresh newLease now) } := by
  simp [Operation.apply, Operation.exec, SchedulerService.registerWorker, system, found,
    Except.toOption]

theorem apply_reapDeadWorkers {principal : Option TenantPrincipal} {now : DateTime}
    {timeout : TimeDelta} {db : Database} (system : requireSystemContext principal = true) :
    (Operation.reapDeadWorkers principal now timeout).apply db =
      (db.workerRegistry.rows.filter (WorkerRegistry.stale now timeout)).foldl
        (fun db worker => SchedulerService.reapWorker worker db) db := by
  simp [Operation.apply, Operation.exec, SchedulerService.reapDeadWorkers, system,
    Except.toOption, SchedulerService.reapLoop_db]

end Lcp
