/-
# Workers.LifecycleWorkerService -- claim, execute, finalize

`run_iteration` claims one task, looks its dataset up under the system
principal, hands both to the executor of the task's type and completes or fails
the task.  The claim is a commit of its own.  What the executor wrote to rows is
committed by `complete_task` and rolled back before `fail_task`; what it wrote to
lance tables stays.

An iteration here runs without other sessions in between.
-/
import Lcp.Services.Operations
import Lcp.Workers.Executors

namespace Lcp

open Theory

set_option autoImplicit false

/-- The map from task types to executors. -/
abbrev ExecutorRegistry (Disk : Type) := TaskType → Option (LifecycleExecutor Disk)

/-- The entries of the default registry for the embedded executors. -/
def buildDefaultRegistry {Disk : Type} (lance : Pylance Disk) : ExecutorRegistry Disk
  | .ttlDelete => some (ttlDeleteExecutor lance)
  | .compaction => some (compactionExecutor lance)
  | .indexOptimize => some (indexOptimizeExecutor lance)
  | .indexBuild => some (indexBuildExecutor lance)
  | .vectorize => some vectorizationExecutor
  | _ => none

/-- What an execution under the default registry that returned did to the rows. -/
inductive Executed (context : ExecutorContext) (task : Task) (dataset : Dataset)
    (db : Database) : Database → Prop
  | ttlDelete (taskType : task.taskType = .ttlDelete) : Executed context task dataset db db
  | compaction (taskType : task.taskType = .compaction) : Executed context task dataset db db
  | indexOptimize (taskType : task.taskType = .indexOptimize) (seenVersion : Option Int) :
      Executed context task dataset db
        (IndexOptimizeExecutor.promoteAll context.now seenVersion dataset db)
  | indexBuild (taskType : task.taskType = .indexBuild) {args : IndexBuildExecutor.Build}
      {row : Index} (parsed : IndexBuildExecutor.parse task = .ok args)
      (named : IndexBuildExecutor.find context dataset args.indexName db = .ok (some row)) :
      Executed context task dataset db (IndexBuildExecutor.promoteRow context.now row db)
  | vectorize (taskType : task.taskType = .vectorize) : Executed context task dataset db db

theorem executed_of_registered {Disk : Type} {lance : Pylance Disk} {context : ExecutorContext}
    {task : Task} {dataset : Dataset} {executor : LifecycleExecutor Disk}
    {db written : Database} {disk disk' : Disk} {payload : JsonDict}
    (registered : buildDefaultRegistry lance task.taskType = some executor)
    (executed : executor.execute context task dataset db disk = (.ok (payload, written), disk')) :
    Executed context task dataset db written := by
  cases taskType : task.taskType with
  | ttlDelete =>
      rw [taskType] at registered
      obtain rfl := Option.some.inj registered
      obtain rfl := TtlDeleteExecutor.execute_rows lance executed
      exact .ttlDelete taskType
  | compaction =>
      rw [taskType] at registered
      obtain rfl := Option.some.inj registered
      obtain rfl := CompactionExecutor.execute_rows lance executed
      exact .compaction taskType
  | indexOptimize =>
      rw [taskType] at registered
      obtain rfl := Option.some.inj registered
      obtain ⟨optimized, rfl⟩ := IndexOptimizeExecutor.execute_rows lance executed
      exact .indexOptimize taskType _
  | indexBuild =>
      rw [taskType] at registered
      obtain rfl := Option.some.inj registered
      obtain ⟨args, row, parsed, named, rfl, -⟩ := IndexBuildExecutor.execute_eq_ok lance executed
      exact .indexBuild taskType parsed named
  | vectorize =>
      rw [taskType] at registered
      obtain rfl := Option.some.inj registered
      obtain rfl := VectorizationExecutor.execute_rows executed
      exact .vectorize taskType
  | indexCleanup | lifecycleRecycle =>
      rw [taskType] at registered
      cases registered

namespace LifecycleWorkerService

/-- Static config of one worker. -/
structure WorkerConfig where
  workerId : String
  leaseId : String
  taskType : Option TaskType := none

/-- Return value of one iteration. -/
structure TickOutcome where
  claimed : Bool
  taskUuid : Option String := none
  taskType : Option TaskType := none
  finalStatus : Option TaskStatus := none
  error : Option String := none
deriving DecidableEq, Repr

/-- One iteration: its answer or what it raised, what it left behind, and the
pair it handed to an executor. -/
structure Iteration (Disk : Type) where
  outcome : Except SchedulerError TickOutcome
  db : Database
  disk : Disk
  handed : Option (Task × Dataset) := none

variable {Disk : Type} (principal : Option TenantPrincipal) (context : ExecutorContext)
  (finishedAt : DateTime)

/-- Fail the task on a clean session. -/
def failed (workerId : String) (task : Task) (errorCode errorMessage : String) (db : Database)
    (disk : Disk) (handed : Option (Task × Dataset)) : Iteration Disk :=
  match SchedulerService.failTask principal finishedAt workerId task.taskUuid errorCode
      errorMessage db with
  | .error e => { outcome := .error e, db, disk, handed }
  | .ok after =>
      { outcome := .ok
          { claimed := true
            taskUuid := some task.taskUuid
            taskType := some task.taskType
            finalStatus := some .failed
            error := some errorCode }
        db := after, disk, handed }

/-- Complete the task in the session that holds the executor's writes. -/
def succeeded (workerId : String) (task : Task) (payload : JsonDict) (written db : Database)
    (disk : Disk) (handed : Option (Task × Dataset)) : Iteration Disk :=
  match SchedulerService.completeTask principal finishedAt workerId task.taskUuid
      (some payload) written with
  -- The session closes without a commit, so the executor's rows are gone.
  | .error e => { outcome := .error e, db, disk, handed }
  | .ok after =>
      { outcome := .ok
          { claimed := true
            taskUuid := some task.taskUuid
            taskType := some task.taskType
            finalStatus := some .succeeded }
        db := after, disk, handed }

/-- Dispatch one already claimed task; always finalize via the scheduler. -/
def dispatchAndFinalize (executors : ExecutorRegistry Disk) (workerId : String) (task : Task)
    (db : Database) (disk : Disk) : Iteration Disk :=
  match db.dataset.get task.datasetUuid with
  | none =>
      failed principal finishedAt workerId task "DatasetMissing"
        ("dataset " ++ task.datasetUuid ++ " no longer exists; task is orphaned") db disk none
  | some dataset =>
      match executors task.taskType with
      | none =>
          failed principal finishedAt workerId task "UnknownTaskType"
            ("no executor registered for " ++ pyRepr task.taskType.toString) db disk none
      | some executor =>
          match executor.execute context task dataset db disk with
          | (.error exc, disk) =>
              failed principal finishedAt workerId task exc.className
                (String.ofList (exc.message.toList.take 2048)) db disk (some (task, dataset))
          | (.ok (payload, written), disk) =>
              succeeded principal finishedAt workerId task payload written db disk
                (some (task, dataset))

/-- Run one claim/execute/complete cycle. -/
def runIteration (claimedAt : DateTime) (executors : ExecutorRegistry Disk)
    (config : WorkerConfig) (db : Database) (disk : Disk) : Iteration Disk :=
  match SchedulerService.claimNextTask principal claimedAt config.workerId config.leaseId
      config.taskType db with
  | .error e => { outcome := .error e, db, disk }
  | .ok (none, after) => { outcome := .ok { claimed := false }, db := after, disk }
  | .ok (some task, after) =>
      dispatchAndFinalize principal context finishedAt executors config.workerId task after disk

/-! ## What an iteration can do -/

variable {principal context finishedAt}

theorem stamped_finishTask {workerId taskUuid : String} {assign : Task → Task}
    {keeps : ∀ task, (assign task).taskUuid = task.taskUuid} {db after : Database}
    (ran : SchedulerService.finishTask principal workerId taskUuid assign keeps db = .ok after)
    (tenant : ∀ task, (assign task).tenantId = task.tenantId)
    (dataset : ∀ task, (assign task).datasetUuid = task.datasetUuid) : Stamped db after := by
  obtain ⟨task, -, -, rfl⟩ := SchedulerService.finishTask_cases ran
  exact Stamped.update keeps tenant dataset

theorem failed_stamped {workerId : String} {task : Task} {errorCode errorMessage : String}
    {db : Database} {disk : Disk} {handed : Option (Task × Dataset)} :
    Stamped db (failed principal finishedAt workerId task errorCode errorMessage db disk
      handed).db := by
  unfold failed
  split
  · exact Stamped.refl db
  · rename_i ran
    exact stamped_finishTask ran (fun _ => rfl) fun _ => rfl

theorem succeeded_stamped {workerId : String} {task : Task} {payload : JsonDict}
    {written db : Database} {disk : Disk} {handed : Option (Task × Dataset)}
    (stamped : Stamped db written) :
    Stamped db (succeeded principal finishedAt workerId task payload written db disk
      handed).db := by
  unfold succeeded
  split
  · exact Stamped.refl db
  · rename_i ran
    exact stamped.trans (stamped_finishTask ran (fun _ => rfl) fun _ => rfl)

@[simp] theorem failed_handed {workerId : String} {task : Task} {errorCode errorMessage : String}
    {db : Database} {disk : Disk} {handed : Option (Task × Dataset)} :
    (failed principal finishedAt workerId task errorCode errorMessage db disk handed).handed =
      handed := by
  unfold failed
  split <;> rfl

@[simp] theorem succeeded_handed {workerId : String} {task : Task} {payload : JsonDict}
    {written db : Database} {disk : Disk} {handed : Option (Task × Dataset)} :
    (succeeded principal finishedAt workerId task payload written db disk handed).handed =
      handed := by
  unfold succeeded
  split <;> rfl

/-- Executors get the claimed task and the row its `dataset_uuid` names. -/
theorem dispatchAndFinalize_handed {executors : ExecutorRegistry Disk} {workerId : String}
    {task task' : Task} {dataset : Dataset} {db : Database} {disk : Disk}
    (handed : (dispatchAndFinalize principal context finishedAt executors workerId task db
      disk).handed = some (task', dataset)) :
    task' = task ∧ db.dataset.get task.datasetUuid = some dataset := by
  unfold dispatchAndFinalize at handed
  split at handed
  · simp at handed
  · rename_i found
    split at handed
    · simp at handed
    · split at handed
      · simp only [failed_handed, Option.some.injEq, Prod.mk.injEq] at handed
        exact ⟨handed.1.symm, handed.2 ▸ found⟩
      · simp only [succeeded_handed, Option.some.injEq, Prod.mk.injEq] at handed
        exact ⟨handed.1.symm, handed.2 ▸ found⟩

theorem dispatchAndFinalize_stamped {executors : ExecutorRegistry Disk} {workerId : String}
    {task : Task} {db : Database} {disk : Disk} :
    Stamped db (dispatchAndFinalize principal context finishedAt executors workerId task db
      disk).db := by
  unfold dispatchAndFinalize
  split
  · exact failed_stamped
  · rename_i dataset found
    split
    · exact failed_stamped
    · rename_i executor _
      split
      · exact failed_stamped
      · rename_i ran
        exact succeeded_stamped (executor.stamped (Table.mem_of_get found) ran)

/-- What the dispatch of a task can leave: the rows it found, the failure, or the executor's rows
and the completion. -/
inductive DispatchEffect (principal : Option TenantPrincipal) (context : ExecutorContext)
    (finishedAt : DateTime) (executors : ExecutorRegistry Disk) (workerId : String) (task : Task)
    (db : Database) (disk : Disk) : Database → Disk → Prop
  | nothing (disk' : Disk) :
      DispatchEffect principal context finishedAt executors workerId task db disk db disk'
  | failed {after : Database} {errorCode errorMessage : String} (disk' : Disk)
      (finished : SchedulerService.failTask principal finishedAt workerId task.taskUuid
        errorCode errorMessage db = .ok after) :
      DispatchEffect principal context finishedAt executors workerId task db disk after disk'
  | succeeded {written after : Database} {dataset : Dataset} {executor : LifecycleExecutor Disk}
      {payload : JsonDict} {disk' : Disk}
      (found : db.dataset.get task.datasetUuid = some dataset)
      (registered : executors task.taskType = some executor)
      (executed : executor.execute context task dataset db disk = (.ok (payload, written), disk'))
      (finished : SchedulerService.completeTask principal finishedAt workerId task.taskUuid
        (some payload) written = .ok after) :
      DispatchEffect principal context finishedAt executors workerId task db disk after disk'

theorem dispatchAndFinalize_effect {executors : ExecutorRegistry Disk} {workerId : String}
    {task : Task} {db : Database} {disk : Disk} {iteration : Iteration Disk}
    (ran : dispatchAndFinalize principal context finishedAt executors workerId task db disk =
      iteration) :
    DispatchEffect principal context finishedAt executors workerId task db disk iteration.db
      iteration.disk := by
  have ofFailed : ∀ {errorCode errorMessage : String} {disk' : Disk}
      {handed : Option (Task × Dataset)},
      failed principal finishedAt workerId task errorCode errorMessage db disk' handed =
          iteration →
        DispatchEffect principal context finishedAt executors workerId task db disk iteration.db
          iteration.disk := by
    intro errorCode errorMessage disk' handed gave
    unfold failed at gave
    split at gave <;> subst gave
    · exact .nothing _
    · rename_i finished
      exact .failed _ finished
  unfold dispatchAndFinalize at ran
  split at ran
  · exact ofFailed ran
  · rename_i dataset found
    split at ran
    · exact ofFailed ran
    · rename_i executor registered
      split at ran
      · exact ofFailed ran
      · rename_i payload written disk' executed
        unfold succeeded at ran
        split at ran <;> subst ran
        · exact .nothing _
        · rename_i finished
          exact .succeeded found registered executed finished

/-- What an iteration can leave: the rows it found, its claim alone, its claim and the
failure, or its claim, the executor's rows and the completion. -/
inductive IterationEffect (principal : Option TenantPrincipal) (context : ExecutorContext)
    (finishedAt claimedAt : DateTime) (executors : ExecutorRegistry Disk) (config : WorkerConfig)
    (db : Database) (disk : Disk) : Database → Prop
  | nothing : IterationEffect principal context finishedAt claimedAt executors config db disk db
  | claimed {task : Task} {held : Database}
      (ran : SchedulerService.claimNextTask principal claimedAt config.workerId config.leaseId
        config.taskType db = .ok (some task, held)) :
      IterationEffect principal context finishedAt claimedAt executors config db disk held
  | failed {task : Task} {held after : Database} {errorCode errorMessage : String}
      (ran : SchedulerService.claimNextTask principal claimedAt config.workerId config.leaseId
        config.taskType db = .ok (some task, held))
      (finished : SchedulerService.failTask principal finishedAt config.workerId task.taskUuid
        errorCode errorMessage held = .ok after) :
      IterationEffect principal context finishedAt claimedAt executors config db disk after
  | succeeded {task : Task} {held written after : Database} {dataset : Dataset}
      {executor : LifecycleExecutor Disk} {payload : JsonDict} {disk' : Disk}
      (ran : SchedulerService.claimNextTask principal claimedAt config.workerId config.leaseId
        config.taskType db = .ok (some task, held))
      (found : held.dataset.get task.datasetUuid = some dataset)
      (registered : executors task.taskType = some executor)
      (executed : executor.execute context task dataset held disk =
        (.ok (payload, written), disk'))
      (finished : SchedulerService.completeTask principal finishedAt config.workerId
        task.taskUuid (some payload) written = .ok after) :
      IterationEffect principal context finishedAt claimedAt executors config db disk after

theorem runIteration_effect {claimedAt : DateTime} {executors : ExecutorRegistry Disk}
    {config : WorkerConfig} {db : Database} {disk : Disk} :
    IterationEffect principal context finishedAt claimedAt executors config db disk
      (runIteration principal context finishedAt claimedAt executors config db disk).db := by
  unfold runIteration
  split
  · exact .nothing
  · rename_i after ran
    obtain ⟨-, rfl⟩ | ⟨worker, task, -, -, -, -, isTask, -⟩ :=
      SchedulerService.claimNextTask_cases ran
    · exact .nothing
    · cases isTask
  · rename_i task held ran
    rcases dispatched : dispatchAndFinalize principal context finishedAt executors config.workerId
      task held disk with ⟨outcome, after, disk', handed⟩
    cases dispatchAndFinalize_effect dispatched with
    | nothing => exact .claimed ran
    | failed disk' finished => exact .failed ran finished
    | succeeded found registered executed finished =>
        exact .succeeded ran found registered executed finished

theorem column_claimNextTask {α : Type} {column : Task → α} (fixed : Task.Fixed column)
    {claimedAt : DateTime} {workerId leaseId : String} {taskType : Option TaskType}
    {db after : Database} {answer : Option Task}
    (ran : SchedulerService.claimNextTask principal claimedAt workerId leaseId taskType db =
      .ok (answer, after)) :
    after.vectorizationRule = db.vectorizationRule ∧
      after.task.rows.map column = db.task.rows.map column := by
  obtain ⟨-, rfl⟩ | ⟨worker, row, -, -, -, -, -, rfl⟩ := SchedulerService.claimNextTask_cases ran
  · exact ⟨rfl, rfl⟩
  · exact ⟨rfl, column_update (Task.taskUuid_claim _ _) (fixed.claim _ _)⟩

/-- An iteration under the default registry rewrites no rule, and no fixed column of a task. -/
theorem IterationEffect.column {lance : Pylance Disk} {α : Type} {column : Task → α}
    {claimedAt : DateTime} {config : WorkerConfig} {db after : Database} {disk : Disk}
    (effect : IterationEffect principal context finishedAt claimedAt (buildDefaultRegistry lance)
      config db disk after) (fixed : Task.Fixed column) :
    after.vectorizationRule = db.vectorizationRule ∧
      after.task.rows.map column = db.task.rows.map column := by
  have finish : ∀ {taskUuid : String} {assign : Task → Task}
      {keeps : ∀ task, (assign task).taskUuid = task.taskUuid} {before : Database},
      SchedulerService.finishTask principal config.workerId taskUuid assign keeps before =
          .ok after →
        (∀ task, column (assign task) = column task) →
        after.vectorizationRule = before.vectorizationRule ∧
          after.task.rows.map column = before.task.rows.map column := by
    intro taskUuid assign keeps before ran same
    obtain ⟨row, -, -, rfl⟩ := SchedulerService.finishTask_cases ran
    exact ⟨rfl, column_update keeps same⟩
  cases effect with
  | nothing => exact ⟨rfl, rfl⟩
  | claimed ran => exact column_claimNextTask fixed ran
  | failed ran finished =>
      obtain ⟨rules, columns⟩ := column_claimNextTask fixed ran
      obtain ⟨rules', columns'⟩ := finish finished (fixed.fail _ _ _)
      exact ⟨rules'.trans rules, columns'.trans columns⟩
  | @succeeded task held written _ dataset executor payload disk' ran found registered executed
      finished =>
      obtain ⟨rules, columns⟩ := column_claimNextTask fixed ran
      obtain ⟨rules', columns'⟩ := finish finished (fixed.complete _ _)
      -- executors write index rows, if any
      have wrote : written.vectorizationRule = held.vectorizationRule ∧
          written.task = held.task := by
        cases executed_of_registered registered executed with
        | ttlDelete | compaction | indexOptimize | indexBuild | vectorize => exact ⟨rfl, rfl⟩
      rw [wrote.1] at rules'
      rw [wrote.2] at columns'
      exact ⟨rules'.trans rules, columns'.trans columns⟩

end LifecycleWorkerService

end Lcp
