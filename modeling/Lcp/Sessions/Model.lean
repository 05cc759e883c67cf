/-
# Sessions.Model -- the services at the level of statements and commits

Every call runs in a session of its own, and the sessions of many callers
interleave statement by statement.

* A plain SELECT copies a committed row into the session.  The copy is what the
  code tests and modifies; a later SELECT of the same row returns the copy again
  (`expire_on_commit=False`, an identity map).  Only `refresh` and a SELECT after
  a rollback read the row anew.
* SELECT ... FOR UPDATE reads and locks committed rows; with SKIP LOCKED it passes
  over the rows that another session holds, without it the statement waits.
* An UPDATE takes the lock of its row, waiting while another session holds it.  A
  flush writes the columns in which the modified copy differs from the loaded one
  and leaves the others as they are.
* A commit makes the session's updates visible and gives back its locks.  A
  session may end without one at any point (`close`), which undoes it.

The log is a ghost: for every committed change of a task row, what changed it and
the committed row before and after.

Worker-side calls run under the system principal.
-/
import Lcp.Services.TaskService
import Lcp.Theory.Machine
import Lcp.Theory.RowLocks

namespace Lcp

open Theory

set_option autoImplicit false

/-! ## Flushes -/

/-- What an UPDATE writes to one column: the new value, unless it is the loaded one. -/
def flushed {α : Type} [DecidableEq α] (loaded modified current : α) : α :=
  if modified = loaded then current else modified

/-- The UPDATE of a task row from a loaded and a modified copy. -/
def Task.flush (loaded modified row : Task) : Task :=
  { row with
    status := flushed loaded.status modified.status row.status
    attempt := flushed loaded.attempt modified.attempt row.attempt
    workerId := flushed loaded.workerId modified.workerId row.workerId
    result := flushed loaded.result modified.result row.result
    errorCode := flushed loaded.errorCode modified.errorCode row.errorCode
    errorMessage := flushed loaded.errorMessage modified.errorMessage row.errorMessage
    startedAt := flushed loaded.startedAt modified.startedAt row.startedAt
    finishedAt := flushed loaded.finishedAt modified.finishedAt row.finishedAt }

/-- The UPDATE of a worker row from a loaded and a modified copy. -/
def WorkerRegistry.flush (loaded modified row : WorkerRegistry) : WorkerRegistry :=
  { row with
    status := flushed loaded.status modified.status row.status
    inFlight := flushed loaded.inFlight modified.inFlight row.inFlight
    lastHeartbeatAt :=
      flushed loaded.lastHeartbeatAt modified.lastHeartbeatAt row.lastHeartbeatAt }

theorem Task.taskUuid_flush (loaded modified row : Task) :
    (Task.flush loaded modified row).taskUuid = row.taskUuid := rfl

theorem WorkerRegistry.workerId_flush (loaded modified row : WorkerRegistry) :
    (WorkerRegistry.flush loaded modified row).workerId = row.workerId := rfl

@[simp] theorem flushed_loaded {α : Type} [DecidableEq α] (loaded modified : α) :
    flushed loaded modified loaded = modified := by
  unfold flushed
  split
  · rename_i unchanged
    exact unchanged.symm
  · rfl

/-- A column the call left alone is not written. -/
@[simp] theorem flushed_same {α : Type} [DecidableEq α] (loaded current : α) :
    flushed loaded loaded current = current := if_pos rfl

/-- A column the call changed is written over whatever the row holds. -/
theorem flushed_of_ne {α : Type} [DecidableEq α] {loaded modified : α} (current : α)
    (changed : modified ≠ loaded) : flushed loaded modified current = modified :=
  if_neg changed

namespace Sessions

/-! ## Calls -/

/-- How a worker ends its task. -/
inductive Outcome where
  | complete (result : Option JsonDict)
  | fail (errorCode errorMessage : String)

def Outcome.assign (now : DateTime) : Outcome → Task → Task
  | .complete result => Task.complete now result
  | .fail errorCode errorMessage => Task.fail now errorCode errorMessage

/-- A call that passed its checks, with the copies it made them on. -/
inductive Call where
  | claim (worker : WorkerRegistry) (task : Task) (now : DateTime)
  | finish (workerId : String) (task : Task) (outcome : Outcome) (now : DateTime)
  | cancel (task : Task) (now : DateTime)
  | retry (task : Task)

/-- One UPDATE. -/
inductive Statement where
  | task (loaded modified : Task)
  | worker (loaded modified : WorkerRegistry)
  | decrement (workerId : String)

namespace Call

/-- The loaded copy of the task. -/
def task : Call → Task
  | .claim _ task _ | .finish _ task _ _ | .cancel task _ | .retry task => task

/-- The copy after the call's assignments. -/
def modified : Call → Task
  | .claim worker task now => task.claim worker.workerId now
  | .finish _ task outcome now => outcome.assign now task
  | .cancel task now => task.cancel now
  | .retry task => task.retry

/-- The UPDATEs of the call, in the order the session issues them. -/
def statements (call : Call) : List Statement :=
  match call with
  | .claim worker _ _ =>
      [.task call.task call.modified, .worker worker (worker.setInFlight (worker.inFlight + 1))]
  | .finish workerId _ _ _ => [.task call.task call.modified, .decrement workerId]
  | .cancel task _ =>
      (task.slotOwner.map Statement.decrement).toList ++ [.task call.task call.modified]
  | .retry _ => [.task call.task call.modified]

end Call

/-- The rows after an UPDATE. -/
def Statement.apply (db : Database) : Statement → Database
  | .task loaded modified =>
      { db with
        task := db.task.update loaded.taskUuid (Task.flush loaded modified)
          (Task.taskUuid_flush loaded modified) }
  | .worker loaded modified =>
      { db with
        workerRegistry := db.workerRegistry.update loaded.workerId
          (WorkerRegistry.flush loaded modified)
          (WorkerRegistry.workerId_flush loaded modified) }
  | .decrement workerId => SchedulerService.decrementInFlight workerId db

/-! ## Sessions -/

/-- Where a session is. -/
inductive Session where
  | idle
  /-- `claim_next_task` validated the worker. -/
  | validated (worker : WorkerRegistry) (taskType : Option TaskType)
  /-- The checks passed; so many UPDATEs are issued. -/
  | writing (call : Call) (issued : Nat)
  /-- The claim is committed, its refresh is not done. -/
  | claimed (workerId taskUuid : String)
  /-- The executor runs; the session holds its copy of the task. -/
  | running (workerId : String) (copy : Task)
  /-- `reap_dead_workers` holds the stale workers, and the RUNNING tasks of some. -/
  | reaping (stale : List WorkerRegistry) (done : List (WorkerRegistry × List Task))
  /-- `heartbeat` or `drain_worker` passed its checks; its UPDATE is issued or not. -/
  | tending (loaded modified : WorkerRegistry) (issued : Bool)
  | raised (error : SchedulerError)
  | rejected (error : TaskError)

/-- What a committed transaction did to a task row. -/
inductive Deed where
  | claimed (workerId : String)
  | finished (workerId : String) (outcome : Outcome)
  | cancelled (released : Option String)
  | retried
  | requeued (workerId : String)

def Call.deed : Call → Deed
  | .claim worker _ _ => .claimed worker.workerId
  | .finish workerId _ outcome _ => .finished workerId outcome
  | .cancel task _ => .cancelled task.slotOwner
  | .retry _ => .retried

/-- A committed change of a task row. -/
structure Event where
  deed : Deed
  before : Task
  after : Task

/-- Committed rows, row locks, sessions and the ghost log. -/
structure World where
  db : Database
  taskLock : RowLocks String Nat := .none_
  workerLock : RowLocks String Nat := .none_
  session : Nat → Session := fun _ => .idle
  log : List Event := []

/-- A statement or a commit of session `i`, with the arguments of the call that it
begins and the clock readings it makes. -/
inductive Action where
  | claim (i : Nat) (workerId leaseId : String) (taskType : Option TaskType)
  | lockTask (i : Nat) (taskUuid : String) (now : DateTime)
  | update (i : Nat)
  | commit (i : Nat)
  | refresh (i : Nat)
  | finalize (i : Nat) (outcome : Outcome) (now : DateTime)
  | executorRaised (i : Nat) (errorCode errorMessage : String) (now : DateTime)
  | finish (i : Nat) (workerId taskUuid : String) (outcome : Outcome) (now : DateTime)
  | cancel (i : Nat) (principal : Option TenantPrincipal) (taskUuid : String) (now : DateTime)
  | retry (i : Nat) (principal : Option TenantPrincipal) (taskUuid : String)
  | reap (i : Nat) (now : DateTime) (timeout : TimeDelta)
  | reapWorker (i : Nat)
  | heartbeat (i : Nat) (workerId leaseId : String) (now : DateTime)
  | drain (i : Nat) (workerId : String)
  | close (i : Nat)

/-! ## What the checks lead to -/

/-- The SELECT of the worker row and the tests of `claim_next_task`. -/
def beginClaim (db : Database) (workerId leaseId : String) (taskType : Option TaskType) :
    Session :=
  match db.workerRegistry.get workerId with
  | none => .raised (.workerNotFound workerId)
  | some worker =>
      match worker.mayClaim leaseId with
      | .error e => .raised e
      | .ok false => .idle
      | .ok true => .validated worker taskType

/-- The tests of `complete_task` and `fail_task` on a copy. -/
def checkFinish (workerId : String) (copy : Task) (outcome : Outcome) (now : DateTime) :
    Session :=
  match copy.checkOwned workerId with
  | .error e => .raised e
  | .ok () => .writing (.finish workerId copy outcome now) 0

/-- `complete_task` or `fail_task` in a session that has to load the row. -/
def beginFinish (db : Database) (workerId taskUuid : String) (outcome : Outcome)
    (now : DateTime) : Session :=
  match SchedulerService.getTask taskUuid db with
  | .error e => .raised e
  | .ok copy => checkFinish workerId copy outcome now

/-- The SELECT and the tests of `cancel_task`. -/
def beginCancel (db : Database) (principal : Option TenantPrincipal) (taskUuid : String)
    (now : DateTime) : Session :=
  match TaskService.getTask principal taskUuid db with
  | .error e => .rejected e
  | .ok copy =>
      if copy.status = .cancelled then .idle
      else if !copy.cancellable then
        .rejected (.transition ("task " ++ taskUuid ++ " is in terminal state " ++
          pyRepr copy.status.toString ++ " and cannot be cancelled"))
      else .writing (.cancel copy now) 0

/-- The SELECT and the tests of `retry_task`. -/
def beginRetry (db : Database) (principal : Option TenantPrincipal) (taskUuid : String) :
    Session :=
  match TaskService.getTask principal taskUuid db with
  | .error e => .rejected e
  | .ok copy =>
      match copy.checkRetry with
      | .error e => .rejected e
      | .ok () => .writing (.retry copy) 0

/-- The SELECT and the test of `heartbeat`. -/
def beginHeartbeat (db : Database) (workerId leaseId : String) (now : DateTime) : Session :=
  match db.workerRegistry.get workerId with
  | none => .raised (.workerNotFound workerId)
  | some worker =>
      if worker.leaseId ≠ leaseId then
        .raised (.workerLeaseMismatch ("worker " ++ pyRepr workerId ++
          " lease mismatch (expected " ++ pyRepr worker.leaseId ++ ")"))
      else .tending worker (worker.beat now) false

/-- The SELECT and the test of `drain_worker`. -/
def beginDrain (db : Database) (workerId : String) : Session :=
  match db.workerRegistry.get workerId with
  | none => .raised (.workerNotFound workerId)
  | some worker =>
      if worker.status ≠ .dead then .tending worker worker.drain false else .idle

/-- Where a session goes on after the commit of a call. -/
def Call.next : Call → Session
  | .claim worker task _ => .claimed worker.workerId task.taskUuid
  | _ => .idle

/-! ## Steps -/

namespace World

/-- Move session `i`. -/
def set (s : World) (i : Nat) (session : Session) : World :=
  { s with session := Function.update s.session i session }

/-- Give back the locks of session `i` and move it. -/
def leave (s : World) (i : Nat) (session : Session) : World :=
  { s with
    taskLock := s.taskLock.release i
    workerLock := s.workerLock.release i
    session := Function.update s.session i session }

/-- The rows that FOR UPDATE SKIP LOCKED may pick a task from. -/
def selectable (s : World) (taskType : Option TaskType) (task : Task) : Bool :=
  task.dispatchable taskType && (s.taskLock task.taskUuid).isNone

/-- Nothing keeps session `i` from the row of the UPDATE. -/
def openFor (s : World) (i : Nat) : Statement → Bool
  | .task loaded _ => s.taskLock.openTo i loaded.taskUuid
  | .worker loaded _ => s.workerLock.openTo i loaded.workerId
  | .decrement workerId => s.workerLock.openTo i workerId

/-- Session `i` takes the row of the UPDATE. -/
def lockFor (s : World) (i : Nat) : Statement → World
  | .task loaded _ => { s with taskLock := s.taskLock.acquire i [loaded.taskUuid] }
  | .worker loaded _ => { s with workerLock := s.workerLock.acquire i [loaded.workerId] }
  | .decrement workerId => { s with workerLock := s.workerLock.acquire i [workerId] }

/-- The log entry of a committed flush; the row before it is the committed one. -/
def event (s : World) (deed : Deed) (loaded modified : Task) : Option Event :=
  (s.db.task.get loaded.taskUuid).map fun row =>
    { deed, before := row, after := Task.flush loaded modified row }

/-- The rows after all UPDATEs of a call. -/
def callRows (s : World) (call : Call) : Database := call.statements.foldl Statement.apply s.db

/-- Stale workers that no other session holds. -/
def staleWorkers (s : World) (now : DateTime) (timeout : TimeDelta) : List WorkerRegistry :=
  s.db.workerRegistry.rows.filter fun worker =>
    worker.stale now timeout && (s.workerLock worker.workerId).isNone

/-- The RUNNING tasks of a worker. -/
def runningTasks (s : World) (worker : WorkerRegistry) : List Task :=
  s.db.task.rows.filter (Task.runningOn worker.workerId)

/-- The UPDATEs of the reaper for one worker. -/
def reapStatements (entry : WorkerRegistry × List Task) : List Statement :=
  entry.2.map (fun task => .task task task.requeue) ++ [.worker entry.1 entry.1.bury]

/-- The rows after all UPDATEs of a reaper. -/
def reapRows (s : World) (done : List (WorkerRegistry × List Task)) : Database :=
  (done.flatMap reapStatements).foldl Statement.apply s.db

def reapEvents (s : World) (done : List (WorkerRegistry × List Task)) : List Event :=
  done.flatMap fun entry =>
    entry.2.filterMap fun task => s.event (.requeued entry.1.workerId) task task.requeue

end World

open World

/-- One statement or commit; `none` when the session is not there or has to wait. -/
def step (s : World) : Action → Option World
  | .claim i workerId leaseId taskType =>
      match s.session i with
      | .idle => some (s.set i (beginClaim s.db workerId leaseId taskType))
      | _ => none
  | .lockTask i taskUuid now =>
      match s.session i, s.db.task.get taskUuid with
      | .validated worker taskType, some task =>
          if s.selectable taskType task = true ∧ ∀ other ∈ s.db.task.rows,
              s.selectable taskType other = true → other.before task = false then
            some ({ s with taskLock := s.taskLock.acquire i [taskUuid] }.set i
              (.writing (.claim worker task now) 0))
          else none
      | _, _ => none
  | .update i =>
      match s.session i with
      | .writing call issued =>
          match call.statements[issued]? with
          | some statement =>
              if s.openFor i statement = true then
                some ((s.lockFor i statement).set i (.writing call (issued + 1)))
              else none
          | none => none
      | .tending loaded modified false =>
          if s.openFor i (.worker loaded modified) = true then
            some ((s.lockFor i (.worker loaded modified)).set i (.tending loaded modified true))
          else none
      | _ => none
  | .commit i =>
      match s.session i with
      | .writing call issued =>
          if issued = call.statements.length then
            some ({ s with
              db := s.callRows call
              log := s.log ++ (s.event call.deed call.task call.modified).toList }.leave i
                call.next)
          else none
      | .reaping [] done =>
          some ({ s with db := s.reapRows done, log := s.log ++ s.reapEvents done }.leave i .idle)
      | .tending loaded modified true =>
          some ({ s with db := Statement.apply s.db (.worker loaded modified) }.leave i .idle)
      | _ => none
  | .refresh i =>
      match s.session i with
      | .claimed workerId taskUuid =>
          match s.db.task.get taskUuid with
          | some row => some (s.set i (.running workerId row))
          | none => none
      | _ => none
  | .finalize i outcome now =>
      match s.session i with
      | .running workerId copy => some (s.set i (checkFinish workerId copy outcome now))
      | _ => none
  | .executorRaised i errorCode errorMessage now =>
      match s.session i with
      | .running workerId copy =>
          some (s.set i
            (beginFinish s.db workerId copy.taskUuid (.fail errorCode errorMessage) now))
      | _ => none
  | .finish i workerId taskUuid outcome now =>
      match s.session i with
      | .idle => some (s.set i (beginFinish s.db workerId taskUuid outcome now))
      | _ => none
  | .cancel i principal taskUuid now =>
      match s.session i with
      | .idle => some (s.set i (beginCancel s.db principal taskUuid now))
      | _ => none
  | .retry i principal taskUuid =>
      match s.session i with
      | .idle => some (s.set i (beginRetry s.db principal taskUuid))
      | _ => none
  | .reap i now timeout =>
      match s.session i with
      | .idle =>
          let stale := s.staleWorkers now timeout
          some ({ s with
            workerLock := s.workerLock.acquire i (stale.map WorkerRegistry.workerId) }.set i
              (.reaping stale []))
      | _ => none
  | .reapWorker i =>
      match s.session i with
      | .reaping (worker :: stale) done =>
          let tasks := s.runningTasks worker
          if ∀ task ∈ tasks, s.taskLock.openTo i task.taskUuid = true then
            some ({ s with
              taskLock := s.taskLock.acquire i (tasks.map Task.taskUuid) }.set i
                (.reaping stale (done ++ [(worker, tasks)])))
          else none
      | _ => none
  | .heartbeat i workerId leaseId now =>
      match s.session i with
      | .idle => some (s.set i (beginHeartbeat s.db workerId leaseId now))
      | _ => none
  | .drain i workerId =>
      match s.session i with
      | .idle => some (s.set i (beginDrain s.db workerId))
      | _ => none
  | .close i => some (s.leave i .idle)

/-- Runs of the sessions, in every interleaving. -/
def sessions : Machine World Action where
  step := step

/-- Rows at rest: no session has begun, no row is locked, nothing is logged. -/
def atRest (db : Database) : World := { db }

end Sessions

end Lcp
