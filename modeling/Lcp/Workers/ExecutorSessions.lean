/-
# Workers.ExecutorSessions -- `run_iteration` and the session it shares with executors

An executor writes through the session of its iteration, and the worker finalizes the
task in that session: `complete_task` commits the executor's writes with the task,
the handler of an exception rolls them back first.

Two things are in the way.  A refused flush expires the copy of the task, so the
handler's own read of `task.task_uuid` raises before the rollback; and what the
executor has not flushed is sent by `complete_task`, which no handler covers.
`finalized_iff` says when an iteration is all or nothing.
-/
import Lcp.Theory.UnitOfWork
import Lcp.Workers.LifecycleWorkerService

namespace Lcp.ExecutorSessions

open Theory LifecycleWorkerService

set_option autoImplicit false

/-- How an execution ends: with a payload, which `json.dumps` may refuse, or an exception. -/
inductive Ending where
  | returned (payload : Except PyException JsonDict)
  | raised (exc : PyException)

/-- What an executor does with the session. -/
structure Program where
  body : List (Instruction Database PyException)
  ending : Ending

/-- An executor, given its arguments and the rows that it can read. -/
abbrev SessionExecutor := Task → Dataset → Database → Program

abbrev SessionRegistry := TaskType → Option SessionExecutor

abbrev Session := UnitOfWork Database PyException

inductive IterationError where
  | scheduler (e : SchedulerError)
  | python (exc : PyException)

/-- What an iteration answers or raises, and the rows that are committed after it. -/
structure Iteration where
  outcome : Except IterationError TickOutcome
  db : Database

/-! ## The iteration -/

section Iterations

-- `strict`: the database refuses a text that is too long for its column
variable (strict : Bool) (principal : Option TenantPrincipal) (finishedAt : DateTime)

/-- The `VARCHAR(64)` of `task.error_code`. -/
def errorCodeFits (errorCode : String) : Bool := !strict || errorCode.length ≤ 64

/-- A read of a column of the claimed task. -/
def loadedTask (session : Session) : Except PyException Unit :=
  if !session.expired then .ok ()
  else if session.inactive then
    .error ⟨"PendingRollbackError", "This Session's transaction has been rolled back due to a " ++
      "previous exception during flush."⟩
  else
    .error ⟨"MissingGreenlet", "greenlet_spawn has not been called; can't call await_only() here."⟩

/-- The session half of `complete_task` and `fail_task`: the SELECT of the task sends what is
pending, and the commit sends the assignments. -/
def finish (call : Database → Except SchedulerError Database) (bound : Except PyException Unit)
    (session : Session) : Except IterationError Unit × Session :=
  match session.flush with
  | (.error e, session) => (.error (.python e), session)
  | (.ok (), session) =>
      match call session.flushed with
      | .error e => (.error (.scheduler e), session)
      | .ok after =>
          match (session.add fun _ => bound.map fun _ => after).commit with
          | (.error e, session) => (.error (.python e), session)
          | (.ok (), session) => (.ok (), session)

/-- Fail the task; the session closes without a commit when that raises. -/
def failed (workerId : String) (task : Task) (errorCode errorMessage : String)
    (session : Session) : Iteration :=
  let bound : Except PyException Unit :=
    if errorCodeFits strict errorCode then .ok ()
    else .error ⟨"DataError", "Data too long for column 'error_code' at row 1"⟩
  match finish (SchedulerService.failTask principal finishedAt workerId task.taskUuid errorCode
      errorMessage) bound session with
  | (.error e, session) => { outcome := .error e, db := session.committed }
  | (.ok (), session) =>
      { outcome := .ok
          { claimed := true
            taskUuid := some task.taskUuid
            taskType := some task.taskType
            finalStatus := some .failed
            error := some errorCode }
        db := session.committed }

/-- The handler of what the executor raised: snapshot the identifiers, roll back, fail. -/
def caught (workerId : String) (task : Task) (exc : PyException) (session : Session) :
    Iteration :=
  match loadedTask session with
  | .error e => { outcome := .error (.python e), db := session.committed }
  | .ok () =>
      failed strict principal finishedAt workerId task exc.className
        (String.ofList (exc.message.toList.take 2048)) session.rollback

def completed (workerId : String) (task : Task) (payload : Except PyException JsonDict)
    (session : Session) : Iteration :=
  match finish (SchedulerService.completeTask principal finishedAt workerId task.taskUuid
      payload.toOption) (payload.map fun _ => ()) session with
  | (.error e, session) => { outcome := .error e, db := session.committed }
  | (.ok (), session) =>
      { outcome := .ok
          { claimed := true
            taskUuid := some task.taskUuid
            taskType := some task.taskType
            finalStatus := some .succeeded }
        db := session.committed }

/-- Dispatch one already claimed task. -/
def dispatchAndFinalize (registry : SessionRegistry) (workerId : String) (task : Task)
    (session : Session) : Iteration :=
  match session.flushed.dataset.get task.datasetUuid with
  | none =>
      failed strict principal finishedAt workerId task "DatasetMissing"
        ("dataset " ++ task.datasetUuid ++ " no longer exists; task is orphaned") session
  | some dataset =>
      match registry task.taskType with
      | none =>
          failed strict principal finishedAt workerId task "UnknownTaskType"
            ("no executor registered for " ++ pyRepr task.taskType.toString) session
      | some executor =>
          let program := executor task dataset session.flushed
          match session.perform program.body with
          | (.error exc, session) => caught strict principal finishedAt workerId task exc session
          | (.ok (), session) =>
              match program.ending with
              | .raised exc => caught strict principal finishedAt workerId task exc session
              | .returned payload => completed principal finishedAt workerId task payload session

/-- Run one claim/execute/complete cycle. -/
def runIteration (claimedAt : DateTime) (registry : SessionRegistry) (config : WorkerConfig)
    (db : Database) : Iteration :=
  match SchedulerService.claimNextTask principal claimedAt config.workerId config.leaseId
      config.taskType db with
  | .error e => { outcome := .error (.scheduler e), db }
  | .ok (none, after) => { outcome := .ok { claimed := false }, db := after }
  | .ok (some task, held) =>
      dispatchAndFinalize strict principal finishedAt registry config.workerId task (.begin held)

end Iterations

/-! ## What the claimed task is due -/

/-- Every row but the claimed task's and the worker's is the same. -/
structure SameRest (taskUuid workerId : String) (db after : Database) : Prop where
  dataset : after.dataset = db.dataset
  vectorIndex : after.vectorIndex = db.vectorIndex
  lifecyclePolicy : after.lifecyclePolicy = db.lifecyclePolicy
  vectorizationRule : after.vectorizationRule = db.vectorizationRule
  task : ∀ uuid, uuid ≠ taskUuid → after.task.get uuid = db.task.get uuid
  workerRegistry : ∀ id, id ≠ workerId → after.workerRegistry.get id = db.workerRegistry.get id

/-- The execution that a claimed task is dispatched to. -/
def dispatched (registry : SessionRegistry) (task : Task) (held : Database) : Option Program :=
  (held.dataset.get task.datasetUuid).bind fun dataset =>
    (registry task.taskType).map fun executor => executor task dataset held

/-- SUCCEEDED with the payload, and every write of the execution is committed. -/
def Succeeded (registry : SessionRegistry) (workerId : String) (task : Task)
    (held after : Database) : Prop :=
  ∃ program ∈ dispatched registry task held, ∃ payload, program.ending = .returned (.ok payload) ∧
    ∃ written, applyAll (writesOf program.body) held = .ok written ∧
      SameRest task.taskUuid workerId written after ∧
      ∃ row ∈ after.task.get task.taskUuid, row.status = .succeeded ∧ row.result = some payload

/-- FAILED with an error code, and none of them is. -/
def Failed (workerId : String) (task : Task) (held after : Database) : Prop :=
  SameRest task.taskUuid workerId held after ∧
    ∃ row ∈ after.task.get task.taskUuid, row.status = .failed ∧ row.errorCode.isSome

/-- The iteration answers, all or nothing is committed, and the slot is back. -/
def Finalized (registry : SessionRegistry) (workerId : String) (task : Task)
    (db held : Database) (iteration : Iteration) : Prop :=
  (∃ tick, iteration.outcome = .ok tick) ∧
    (Succeeded registry workerId task held iteration.db ∨ Failed workerId task held iteration.db) ∧
    (iteration.db.workerRegistry.get workerId).map WorkerRegistry.inFlight =
      (db.workerRegistry.get workerId).map WorkerRegistry.inFlight

/-- The database takes the writes of the execution whenever they are sent, and what it ends
with fits into the task's row. -/
def Accepted (strict : Bool) (held : Database) (program : Program) : Prop :=
  UnitOfWork.FlushesAccepted program.body (.begin held) ∧
    match program.ending with
    | .raised exc => errorCodeFits strict exc.className = true
    | .returned payload =>
        (∃ written, applyAll (writesOf program.body) held = .ok written) ∧
          ∃ json, payload = .ok json

/-- The write leaves the claimed task's row and the worker's row alone. -/
def Leaves (taskUuid workerId : String) (write : Write Database PyException) : Prop :=
  ∀ db after, write db = .ok after →
    after.task.get taskUuid = db.task.get taskUuid ∧
      after.workerRegistry.get workerId = db.workerRegistry.get workerId

theorem SameRest.refl {taskUuid workerId : String} (db : Database) :
    SameRest taskUuid workerId db db :=
  ⟨rfl, rfl, rfl, rfl, fun _ _ => rfl, fun _ _ => rfl⟩

section Sessions

variable {principal : Option TenantPrincipal} {finishedAt : DateTime} {workerId : String}
  {task : Task}

theorem leaves_applyAll {taskUuid : String} {writes : List (Write Database PyException)}
    (leave : ∀ write ∈ writes, Leaves taskUuid workerId write) {db after : Database}
    (applied : applyAll writes db = .ok after) :
    after.task.get taskUuid = db.task.get taskUuid ∧
      after.workerRegistry.get workerId = db.workerRegistry.get workerId := by
  induction writes generalizing db with
  | nil =>
      obtain rfl := Except.ok.inj applied
      exact ⟨rfl, rfl⟩
  | cons write rest ih =>
      obtain ⟨next, first, later⟩ := UnitOfWork.applyAll_cons_ok applied
      obtain ⟨task, worker⟩ := leave write List.mem_cons_self db next first
      obtain ⟨laterTask, laterWorker⟩ := ih (fun other member =>
        leave other (List.mem_cons_of_mem _ member)) later
      exact ⟨laterTask.trans task, laterWorker.trans worker⟩

/-- Finishing a task writes its row and gives the slot back. -/
theorem finishTask_written {taskUuid : String} {assign : Task → Task}
    {keeps : ∀ task, (assign task).taskUuid = task.taskUuid} {db after : Database}
    (ran : SchedulerService.finishTask principal workerId taskUuid assign keeps db = .ok after) :
    SameRest taskUuid workerId db after ∧
      after.task.get taskUuid = (db.task.get taskUuid).map assign ∧
      after.workerRegistry.get workerId =
        (db.workerRegistry.get workerId).map WorkerRegistry.decrementInFlight := by
  obtain ⟨row, -, -, rfl⟩ := SchedulerService.finishTask_cases ran
  refine ⟨⟨rfl, rfl, rfl, rfl, fun uuid other => ?_, fun id other => ?_⟩, ?_, ?_⟩
  · simp only [SchedulerService.decrementInFlight, Table.get_update, if_neg other]
  · simp only [SchedulerService.decrementInFlight, Table.get_update, if_neg other]
  · simp only [SchedulerService.decrementInFlight, Table.get_update, if_pos]
  · simp only [SchedulerService.decrementInFlight, Table.get_update, if_pos]

theorem finish_eq_ok {call : Database → Except SchedulerError Database}
    {bound : Except PyException Unit} {session after : Session}
    (ran : finish call bound session = (.ok (), after)) :
    ∃ written, session.applied = .ok written ∧ call written = .ok after.committed ∧
      bound = .ok () := by
  unfold finish at ran
  split at ran
  · cases ran
  · rename_i flushed
    obtain ⟨written, applied, rfl⟩ := UnitOfWork.flush_eq_ok flushed
    refine ⟨written, applied, ?_⟩
    split at ran
    · cases ran
    · rename_i rows called
      cases bound with
      | error e => cases ran
      | ok =>
          obtain ⟨-, rfl⟩ := Prod.mk.inj ran
          exact ⟨called, rfl⟩

theorem finish_of_ok {call : Database → Except SchedulerError Database} {session : Session}
    {written after : Database} (applied : session.applied = .ok written)
    (called : call written = .ok after) :
    ∃ final : Session, finish call (.ok ()) session = (.ok (), final) ∧
      final.committed = after := by
  unfold finish
  rw [UnitOfWork.flush_of_applied applied]
  simp only [called]
  exact ⟨_, rfl, rfl⟩

/-- A finish that raises commits nothing. -/
theorem finish_eq_error {call : Database → Except SchedulerError Database}
    {bound : Except PyException Unit} {session after : Session} {e : IterationError}
    (ran : finish call bound session = (.error e, after)) :
    after.committed = session.committed := by
  unfold finish at ran
  split at ran
  · rename_i refused
    obtain ⟨-, rfl⟩ := Prod.mk.inj ran
    exact (UnitOfWork.flush_eq_error refused).2.1
  · rename_i flushed
    obtain ⟨written, -, rfl⟩ := UnitOfWork.flush_eq_ok flushed
    split at ran
    · obtain ⟨-, rfl⟩ := Prod.mk.inj ran
      rfl
    · split at ran
      · rename_i refused
        obtain ⟨-, rfl⟩ := Prod.mk.inj ran
        have kept := UnitOfWork.commit_eq_error refused
        exact kept
      · cases ran

/-- What a claim leaves: the task is the worker's, with a slot taken for it. -/
structure Held (workerId : String) (task : Task) (db held : Database) : Prop where
  got : held.task.get task.taskUuid = some task
  owned : task.runningOn workerId = true
  slot : ((held.workerRegistry.get workerId).map WorkerRegistry.decrementInFlight).map
      WorkerRegistry.inFlight = (db.workerRegistry.get workerId).map WorkerRegistry.inFlight

theorem held_of_claim {claimedAt : DateTime} {leaseId : String} {taskType : Option TaskType}
    {db held : Database}
    (claimed : SchedulerService.claimNextTask principal claimedAt workerId leaseId taskType db =
      .ok (some task, held)) : Held workerId task db held := by
  obtain ⟨nothing, -⟩ | ⟨worker, row, registered, -, member, -, isTask, rfl⟩ :=
    SchedulerService.claimNextTask_cases claimed
  · cases nothing
  · obtain rfl := Option.some.inj isTask
    refine ⟨?_, ?_, ?_⟩
    · have found : db.task.get row.taskUuid = some row := Table.get_of_mem member
      simp only [SchedulerService.claimTask, Task.taskUuid_claim, Table.get_update, if_pos, found,
        Option.map_some]
    · simp [Task.runningOn, Task.claim]
    · simp [SchedulerService.claimTask, Table.get_update, registered, WorkerRegistry.setInFlight,
        WorkerRegistry.decrementInFlight]

section Finishing

variable {strict : Bool} {db held : Database} {session : Session}

theorem errorCodeFits_of_short {errorCode : String} (short : errorCode.length ≤ 64) :
    errorCodeFits strict errorCode = true := by
  simp [errorCodeFits, short]

/-- A clean session fails the task, if the code fits. -/
theorem failed_of_fits (system : requireSystemContext principal = true)
    (claim : Held workerId task db held) (clean : session.applied = .ok held)
    {errorCode errorMessage : String} (fits : errorCodeFits strict errorCode = true) :
    ∃ tick after, failed strict principal finishedAt workerId task errorCode errorMessage session =
        ⟨.ok tick, after⟩ ∧
      SchedulerService.failTask principal finishedAt workerId task.taskUuid errorCode errorMessage
        held = .ok after := by
  obtain ⟨after, called⟩ : ∃ after, SchedulerService.failTask principal finishedAt workerId
      task.taskUuid errorCode errorMessage held = .ok after :=
    ⟨_, SchedulerService.finishTask_of_owned system claim.got claim.owned⟩
  obtain ⟨final, ran, rfl⟩ := finish_of_ok clean called
  have answered : ∃ tick, failed strict principal finishedAt workerId task errorCode errorMessage
      session = ⟨.ok tick, final.committed⟩ := by
    unfold failed
    simp only [fits, if_true, ran]
    exact ⟨_, rfl⟩
  obtain ⟨tick, answered⟩ := answered
  exact ⟨tick, final.committed, answered, called⟩

theorem failed_of_long {errorCode errorMessage : String}
    (long : errorCodeFits strict errorCode = false) :
    ∃ e after, failed strict principal finishedAt workerId task errorCode errorMessage session =
      ⟨.error e, after⟩ := by
  unfold failed
  simp only [long, Bool.false_eq_true, if_false]
  split
  · exact ⟨_, _, rfl⟩
  · rename_i ran
    obtain ⟨-, -, -, bound⟩ := finish_eq_ok ran
    cases bound

/-- The handler of an exception touches the task and the worker, or nothing. -/
theorem caught_sameRest {exc : PyException} (kept : session.committed = held) :
    SameRest task.taskUuid workerId held
      (caught strict principal finishedAt workerId task exc session).db := by
  unfold caught
  split
  · rw [kept]
    exact SameRest.refl held
  · have clean : session.rollback.applied = .ok held := by
      rw [← kept]
      rfl
    unfold failed
    simp only
    split
    · rename_i raised
      rw [finish_eq_error raised, UnitOfWork.committed_rollback, kept]
      exact SameRest.refl held
    · rename_i ran
      obtain ⟨written, applied, called, -⟩ := finish_eq_ok ran
      obtain rfl := Except.ok.inj (clean.symm.trans applied)
      exact (finishTask_written called).1

theorem finalStatus_of_completed {payload : Except PyException JsonDict} {tick : TickOutcome}
    (answered : (completed principal finishedAt workerId task payload session).outcome = .ok tick) :
    tick.finalStatus = some .succeeded := by
  unfold completed at answered
  split at answered
  · cases answered
  · obtain rfl := Except.ok.inj answered
    rfl

theorem not_finalized_of_error {registry : SessionRegistry} {e : IterationError}
    {after : Database} : ¬ Finalized registry workerId task db held ⟨.error e, after⟩ := by
  rintro ⟨⟨tick, answered⟩, -⟩
  cases answered

/-- A clean session fails the task if its code fits, and raises otherwise. -/
theorem failed_finalized (system : requireSystemContext principal = true)
    (claim : Held workerId task db held) (registry : SessionRegistry)
    (clean : session.applied = .ok held) {errorCode errorMessage : String} :
    Finalized registry workerId task db held
        (failed strict principal finishedAt workerId task errorCode errorMessage session) ↔
      errorCodeFits strict errorCode = true := by
  cases fits : errorCodeFits strict errorCode with
  | false =>
      obtain ⟨e, after, raised⟩ := @failed_of_long principal finishedAt workerId task strict session
        errorCode errorMessage fits
      rw [raised]
      exact iff_of_false not_finalized_of_error nofun
  | true =>
      obtain ⟨tick, after, answered, called⟩ :=
        @failed_of_fits principal finishedAt workerId task strict db held session system claim clean
          errorCode errorMessage fits
      obtain ⟨rest, row, slot⟩ := finishTask_written called
      rw [claim.got] at row
      rw [answered]
      refine iff_of_true ⟨⟨tick, rfl⟩, .inr ⟨rest, _, row, rfl, rfl⟩, ?_⟩ rfl
      rw [← claim.slot, ← slot]

theorem loadedTask_of_expired (expired : session.expired = true) :
    ∃ e, loadedTask session = .error e := by
  unfold loadedTask
  simp only [expired, Bool.not_true, Bool.false_eq_true, if_false]
  split <;> exact ⟨_, rfl⟩

/-- The handler fails the task unless the copy of the task has expired. -/
theorem caught_finalized (system : requireSystemContext principal = true)
    (claim : Held workerId task db held) (registry : SessionRegistry)
    (kept : session.committed = held) {exc : PyException} :
    Finalized registry workerId task db held
        (caught strict principal finishedAt workerId task exc session) ↔
      session.expired = false ∧ errorCodeFits strict exc.className = true := by
  unfold caught
  cases expired : session.expired with
  | true =>
      obtain ⟨e, raised⟩ := loadedTask_of_expired expired
      rw [raised]
      exact iff_of_false not_finalized_of_error nofun
  | false =>
      have loaded : loadedTask session = .ok () := by simp only [loadedTask, expired]; rfl
      have clean : session.rollback.applied = .ok held := by
        rw [← kept]
        rfl
      rw [loaded]
      exact (failed_finalized system claim registry clean).trans (and_iff_right rfl).symm

/-- A session that can send what is pending completes the task, with a payload that can be
stored. -/
theorem completed_of_applied (system : requireSystemContext principal = true) {written : Database}
    (got : written.task.get task.taskUuid = some task) (owned : task.runningOn workerId = true)
    (applied : session.applied = .ok written) {json : JsonDict} :
    ∃ tick after, completed principal finishedAt workerId task (.ok json) session =
        ⟨.ok tick, after⟩ ∧
      SchedulerService.completeTask principal finishedAt workerId task.taskUuid (some json)
        written = .ok after := by
  obtain ⟨after, called⟩ : ∃ after, SchedulerService.completeTask principal finishedAt workerId
      task.taskUuid (some json) written = .ok after :=
    ⟨_, SchedulerService.finishTask_of_owned system got owned⟩
  obtain ⟨final, ran, rfl⟩ := finish_of_ok applied called
  have answered : ∃ tick, completed principal finishedAt workerId task (.ok json) session =
      ⟨.ok tick, final.committed⟩ := by
    unfold completed
    simp only [Except.toOption, Except.map, ran]
    exact ⟨_, rfl⟩
  obtain ⟨tick, answered⟩ := answered
  exact ⟨tick, final.committed, answered, called⟩

/-- A session completes the task if the database takes what is pending, and the payload. -/
theorem completed_finalized (system : requireSystemContext principal = true)
    (claim : Held workerId task db held) {registry : SessionRegistry} {program : Program}
    (dispatch : program ∈ dispatched registry task held)
    (leave : ∀ write ∈ writesOf program.body, Leaves task.taskUuid workerId write)
    (applied : session.applied = applyAll (writesOf program.body) held)
    {payload : Except PyException JsonDict} (ending : program.ending = .returned payload) :
    Finalized registry workerId task db held
        (completed principal finishedAt workerId task payload session) ↔
      (∃ written, applyAll (writesOf program.body) held = .ok written) ∧
        ∃ json, payload = .ok json := by
  constructor
  · rintro ⟨⟨tick, answered⟩, -⟩
    unfold completed at answered
    split at answered
    · cases answered
    · rename_i ran
      obtain ⟨written, sent, -, bound⟩ := finish_eq_ok ran
      refine ⟨⟨written, applied ▸ sent⟩, ?_⟩
      cases payload with
      | error e => cases bound
      | ok json => exact ⟨json, rfl⟩
  · rintro ⟨⟨written, sent⟩, json, rfl⟩
    obtain ⟨sameTask, sameWorker⟩ := leaves_applyAll leave sent
    have got : written.task.get task.taskUuid = some task := sameTask.trans claim.got
    obtain ⟨tick, after, answered, called⟩ :=
      @completed_of_applied principal finishedAt workerId task session system written got
        claim.owned (applied.trans sent) json
    obtain ⟨rest, row, slot⟩ := finishTask_written called
    rw [got] at row
    rw [answered]
    refine ⟨⟨tick, rfl⟩,
      .inl ⟨program, dispatch, json, ending, written, sent, rest, _, row, rfl, rfl⟩, ?_⟩
    rw [← claim.slot, ← sameWorker, ← slot]

/-- The end of an execution, after all its flushes. -/
theorem ended_finalized (system : requireSystemContext principal = true)
    (claim : Held workerId task db held) {registry : SessionRegistry} {dataset : Dataset}
    {executor : SessionExecutor} (found : held.dataset.get task.datasetUuid = some dataset)
    (registered : registry task.taskType = some executor)
    (leave : ∀ write ∈ writesOf (executor task dataset held).body,
      Leaves task.taskUuid workerId write) :
    Finalized registry workerId task db held
        (dispatchAndFinalize strict principal finishedAt registry workerId task (.begin held)) ↔
      Accepted strict held (executor task dataset held) := by
  have dispatch : executor task dataset held ∈ dispatched registry task held := by
    simp [dispatched, found, registered]
  unfold dispatchAndFinalize Accepted
  simp only [UnitOfWork.begin, found, registered]
  rw [← UnitOfWork.perform_ok_iff]
  split
  · rename_i exc final ran
    obtain ⟨kept, -, expired⟩ := UnitOfWork.perform_eq_error ran
    refine iff_of_false (fun finalized => ?_) fun accepted => ?_
    · have loaded := ((caught_finalized system claim registry kept).1 finalized).1
      rw [expired] at loaded
      cases loaded
    · obtain ⟨⟨other, ended⟩, -⟩ := accepted
      cases ran.symm.trans ended
  · rename_i final ran
    obtain ⟨kept, -, expired, applied⟩ := UnitOfWork.perform_eq_ok ran
    refine Iff.trans ?_ (and_iff_right ⟨final, ran⟩).symm
    split
    · exact (caught_finalized system claim registry kept).trans (and_iff_right expired)
    · rename_i payload ending
      exact completed_finalized system claim dispatch leave applied ending

end Finishing

end Sessions

/-- **An iteration that claims a task is all or nothing** if and only if the database accepts what
the execution writes, and what it ends with. -/
theorem finalized_iff {strict : Bool} {principal : Option TenantPrincipal}
    {finishedAt claimedAt : DateTime} {registry : SessionRegistry} {config : WorkerConfig}
    {task : Task} {db held : Database}
    (claimed : SchedulerService.claimNextTask principal claimedAt config.workerId config.leaseId
      config.taskType db = .ok (some task, held))
    (leave : ∀ program ∈ dispatched registry task held, ∀ write ∈ writesOf program.body,
      Leaves task.taskUuid config.workerId write) :
    Finalized registry config.workerId task db held
        (runIteration strict principal finishedAt claimedAt registry config db) ↔
      ∀ program ∈ dispatched registry task held, Accepted strict held program := by
  have system := SchedulerService.system_of_claimNextTask claimed
  have claim := held_of_claim claimed
  unfold runIteration
  simp only [claimed]
  cases found : held.dataset.get task.datasetUuid with
  | none =>
      refine iff_of_true ?_ (by simp [dispatched, found])
      unfold dispatchAndFinalize
      simp only [UnitOfWork.begin, found]
      exact (failed_finalized system claim registry rfl).2 (errorCodeFits_of_short (by decide))
  | some dataset =>
      cases registered : registry task.taskType with
      | none =>
          refine iff_of_true ?_ (by simp [dispatched, found, registered])
          unfold dispatchAndFinalize
          simp only [UnitOfWork.begin, found, registered]
          exact (failed_finalized system claim registry rfl).2 (errorCodeFits_of_short (by decide))
      | some executor =>
          have only : dispatched registry task held = some (executor task dataset held) := by
            simp [dispatched, found, registered]
          rw [only] at leave ⊢
          refine (ended_finalized system claim found registered (leave _ rfl)).trans ?_
          exact ⟨fun accepted program same => Option.some.inj same ▸ accepted,
            fun all => all _ rfl⟩

section Examples

private def builtIndex (id : Nat) : Index where
  id
  datasetUuid := "d1"
  indexName := "emb_idx"
  columnName := "emb"
  indexType := "IVF_PQ"

/-- A pending task of a dataset with one index, and an idle worker. -/
private def onePending : Database where
  dataset :=
    .single
      { datasetUuid := "d1", catalog := "lake", dbSchema := "acme", tableName := "events",
        storageUri := "s3://acme/events", tenantId := "acme" }
  task :=
    .single
      { taskUuid := "t1", taskType := .ttlDelete, datasetUuid := "d1", tenantId := "acme",
        createdAt := 0 }
  vectorIndex := .single (builtIndex 1)
  workerRegistry :=
    .single
      { workerId := "w1", workerType := "lifecycle", leaseId := "l1", lastHeartbeatAt := 0 }

private def onlyWorker : WorkerConfig where
  workerId := "w1"
  leaseId := "l1"

/-- An INSERT into `vector_index`. -/
private def insertRow (index : Index) : Write Database PyException := fun db =>
  match IndexService.insertIndex index db with
  | none => .error ⟨"IntegrityError", "Duplicate entry for key 'uk_dataset_index_name'"⟩
  | some after => .ok after

private def promoteFirst : Write Database PyException := fun db =>
  .ok (IndexBuildExecutor.promoteRow 5 (builtIndex 1) db)

/-- The executor of every task. -/
private def always (body : List (Instruction Database PyException)) : SessionRegistry :=
  fun _ => some fun _ _ _ => { body, ending := .returned (.ok [("deleted_rows", .int 3)]) }

private def iterate (registry : SessionRegistry) : Iteration :=
  runIteration true daemonContext 9 8 registry onlyWorker onePending

/-- A flushed write and one that `complete_task` sends are committed with the task. -/
theorem promotion_finalized : ∃ task held,
    SchedulerService.claimNextTask daemonContext 8 "w1" "l1" none onePending =
        .ok (some task, held) ∧
      Finalized (always [.write promoteFirst, .flush, .write promoteFirst]) "w1" task onePending
        held
        (iterate (always [.write promoteFirst, .flush, .write promoteFirst])) := by
  refine ⟨_, _, rfl, (@finalized_iff true daemonContext 9 8
    (always [.write promoteFirst, .flush, .write promoteFirst]) onlyWorker _ onePending _ rfl
    ?_).2 ?_⟩
  · intro program same write member
    obtain rfl := Option.some.inj same
    simp only [writesOf, List.mem_cons, List.not_mem_nil, or_false, or_self] at member
    subst member
    intro db after wrote
    obtain rfl := Except.ok.inj wrote
    exact ⟨rfl, rfl⟩
  · intro program same
    obtain rfl := Option.some.inj same
    refine ⟨UnitOfWork.perform_ok_iff.1 ⟨_, rfl⟩, ⟨_, rfl⟩, _, rfl⟩

/-- A duplicate row is refused by the flush of the executor: the iteration raises, the task stays
RUNNING and its slot is not given back. -/
theorem duplicate_strands_task : ∃ task held,
    SchedulerService.claimNextTask daemonContext 8 "w1" "l1" none onePending =
        .ok (some task, held) ∧
      ¬ Finalized (always [.write (insertRow (builtIndex 2)), .flush]) "w1" task onePending held
        (iterate (always [.write (insertRow (builtIndex 2)), .flush])) := by
  refine ⟨_, _, rfl, ?_⟩
  rintro ⟨⟨tick, answered⟩, -⟩
  have raised :
      (iterate (always [.write (insertRow (builtIndex 2)), .flush])).outcome.toOption.isNone =
        true := by
    decide +kernel
  rw [answered] at raised
  cases raised

example : (iterate (always [.write (insertRow (builtIndex 2)), .flush])).db.task.rows.map
      (fun task => task.status) = [.running] ∧
    (iterate (always [.write (insertRow (builtIndex 2)), .flush])).db.workerRegistry.rows.map
      (fun worker => worker.inFlight) = [1] := by
  decide +kernel

end Examples

/-! ## Executors without a session -/

/-- An executor, seen from its rows and answer, does what the program does to the session. -/
def Realizes {Disk : Type} (execution : Execution Disk) (program : Program) (held : Database) :
    Prop :=
  match program.ending with
  | .raised exc => execution.1 = .error exc
  | .returned payload => ∀ json ∈ payload.toOption,
      ∀ written ∈ (applyAll (writesOf program.body) held).toOption,
        execution.1 = .ok (json, written)

/-- Both iterations fail the task in the rows of the claim. -/
theorem failed_db {Disk : Type} {strict : Bool} {principal : Option TenantPrincipal}
    {finishedAt : DateTime} {workerId errorCode errorMessage : String} {task : Task}
    {db held : Database} {session : Session} {disk : Disk} {handed : Option (Task × Dataset)}
    (system : requireSystemContext principal = true) (claim : Held workerId task db held)
    (clean : session.applied = .ok held) (fits : errorCodeFits strict errorCode = true) :
    (failed strict principal finishedAt workerId task errorCode errorMessage session).db =
      (LifecycleWorkerService.failed principal finishedAt workerId task errorCode errorMessage held
        disk handed).db := by
  obtain ⟨tick, after, answered, called⟩ :=
    @failed_of_fits principal finishedAt workerId task strict db held session system claim clean
      errorCode errorMessage fits
  rw [answered, LifecycleWorkerService.failed, called]

/-- An accepted iteration commits what an iteration over `LifecycleExecutor`s leaves. -/
theorem runIteration_realizes {Disk : Type} {strict : Bool} {principal : Option TenantPrincipal}
    {finishedAt claimedAt : DateTime} {context : ExecutorContext} {registry : SessionRegistry}
    {executors : ExecutorRegistry Disk} {config : WorkerConfig} {task : Task} {db held : Database}
    {disk : Disk}
    (claimed : SchedulerService.claimNextTask principal claimedAt config.workerId config.leaseId
      config.taskType db = .ok (some task, held))
    (leave : ∀ program ∈ dispatched registry task held, ∀ write ∈ writesOf program.body,
      Leaves task.taskUuid config.workerId write)
    (accepted : ∀ program ∈ dispatched registry task held, Accepted strict held program)
    (registered : (executors task.taskType).isSome = (registry task.taskType).isSome)
    (realizes : ∀ executor ∈ executors task.taskType, ∀ session ∈ registry task.taskType,
      ∀ dataset, Realizes (executor.execute context task dataset held disk)
        (session task dataset held) held) :
    (runIteration strict principal finishedAt claimedAt registry config db).db =
      (LifecycleWorkerService.runIteration principal context finishedAt claimedAt executors config
        db disk).db := by
  have system := SchedulerService.system_of_claimNextTask claimed
  have claim := held_of_claim claimed
  unfold runIteration LifecycleWorkerService.runIteration
  simp only [claimed]
  unfold dispatchAndFinalize LifecycleWorkerService.dispatchAndFinalize
  simp only [UnitOfWork.begin]
  cases found : held.dataset.get task.datasetUuid with
  | none => exact failed_db system claim rfl (errorCodeFits_of_short (by decide))
  | some dataset =>
      simp only
      cases inRegistry : registry task.taskType with
      | none =>
          rw [inRegistry, Option.isSome_none, Option.isSome_eq_false_iff,
            Option.isNone_iff_eq_none] at registered
          rw [registered]
          exact failed_db system claim rfl (errorCodeFits_of_short (by decide))
      | some session =>
          rw [inRegistry] at registered
          obtain ⟨executor, inExecutors⟩ := Option.isSome_iff_exists.1 registered
          have dispatch : session task dataset held ∈ dispatched registry task held := by
            simp [dispatched, found, inRegistry]
          have realized := realizes executor inExecutors session inRegistry dataset
          obtain ⟨flushes, ends⟩ := accepted _ dispatch
          obtain ⟨final, ran⟩ := UnitOfWork.perform_ok_iff.2 flushes
          obtain ⟨kept, -, expired, applied⟩ := UnitOfWork.perform_eq_ok ran
          have performed : UnitOfWork.perform (session task dataset held).body
              { committed := held, flushed := held } = (.ok (), final) := ran
          simp only [inExecutors, performed]
          unfold Realizes at realized
          split at ends <;> rename_i ending
          · rename_i exc
            rw [ending] at realized
            rcases executed : executor.execute context task dataset held disk with ⟨answer, disk'⟩
            rw [executed] at realized
            obtain rfl := realized
            have loaded : loadedTask final = .ok () := by
              simp only [loadedTask, expired, UnitOfWork.begin]
              rfl
            unfold caught
            rw [loaded]
            exact failed_db system claim (by rw [← show final.committed = held from kept]; rfl) ends
          · rename_i payload
            obtain ⟨⟨written, sent⟩, json, rfl⟩ := ends
            rw [ending] at realized
            rcases executed : executor.execute context task dataset held disk with ⟨answer, disk'⟩
            rw [executed] at realized
            obtain rfl := realized json rfl written (by rw [sent]; rfl)
            have got : written.task.get task.taskUuid = some task :=
              (leaves_applyAll (leave _ dispatch) sent).1.trans claim.got
            obtain ⟨tick, after, answered, called⟩ :=
              @completed_of_applied principal finishedAt config.workerId task final system written
                got claim.owned (applied.trans sent) json
            rw [answered]
            simp only [LifecycleWorkerService.succeeded, called]

end Lcp.ExecutorSessions
