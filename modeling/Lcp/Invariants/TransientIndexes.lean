/-
# Invariants.TransientIndexes -- who moves an index out of a transient state

A row in BUILDING waits for an INDEX_BUILD task of its dataset and name, a row in
OPTIMIZING for an INDEX_OPTIMIZE task of its dataset.  Row and task are two state
machines that only convention couples: the row is flipped when the task is
submitted or emitted, and promoted when an executor succeeds.

A failed execution leaves the task with retry budget, so it keeps the row
attended.  What loses a row is a task that is cancelled, or a submission that is
answered with a task that is over.
-/
import Lcp.Services.IndexWatcherPass
import Lcp.Services.Operations
import Lcp.Workers.LifecycleWorkerService

namespace Lcp.TransientIndexes

open Theory

set_option autoImplicit false

/-- In a state that only an executor ends. -/
def transient (index : Index) : Bool := index.status = .building ∨ index.status = .optimizing

/-- The success of the task would promote the index. -/
def moves (index : Index) (task : Task) : Bool :=
  task.datasetUuid = index.datasetUuid ∧
    ((index.status = .building ∧ task.taskType = .indexBuild ∧
        Json.get? (task.params.getD []) "index_name" = some (.str index.indexName)) ∨
      (index.status = .optimizing ∧ task.taskType = .indexOptimize))

/-- PENDING, QUEUED or RUNNING, or FAILED with retry budget. -/
def live (task : Task) : Bool :=
  task.status = .pending ∨ task.status = .queued ∨ task.status = .running ∨
    (task.status = .failed ∧ task.attempt < task.maxAttempts)

/-- Every index in a transient state has a live task that moves it. -/
def Attended (db : Database) : Prop :=
  ∀ index ∈ db.vectorIndex.rows, transient index = true →
    ∃ task ∈ db.task.rows, moves index task = true ∧ live task = true

/-- The same without the help of one task. -/
def AttendedWithout (taskUuid : String) (db : Database) : Prop :=
  ∀ index ∈ db.vectorIndex.rows, transient index = true →
    ∃ task ∈ db.task.rows, task.taskUuid ≠ taskUuid ∧ moves index task = true ∧ live task = true

instance (db : Database) : Decidable (Attended db) :=
  inferInstanceAs (Decidable (∀ index ∈ db.vectorIndex.rows, transient index = true →
    ∃ task ∈ db.task.rows, moves index task = true ∧ live task = true))

instance (taskUuid : String) (db : Database) : Decidable (AttendedWithout taskUuid db) :=
  inferInstanceAs (Decidable (∀ index ∈ db.vectorIndex.rows, transient index = true →
    ∃ task ∈ db.task.rows, task.taskUuid ≠ taskUuid ∧ moves index task = true ∧
      live task = true))

/-- A task on an index has a second attempt, and has not used it up while it runs. -/
def Budgeted (task : Task) : Prop :=
  task.taskType = .indexBuild ∨ task.taskType = .indexOptimize →
    2 ≤ task.maxAttempts ∧ (task.status = .running → task.attempt < task.maxAttempts)

/-- The UNIQUE key `(dataset_uuid, index_name)`. -/
def UniqueNames (rows : List Index) : Prop :=
  ∀ index ∈ rows, ∀ other ∈ rows,
    index.datasetUuid = other.datasetUuid → index.indexName = other.indexName → index = other

/-- What the schema and the producers keep. -/
structure Sound (db : Database) : Prop where
  names : UniqueNames db.vectorIndex.rows
  budgets : ∀ task ∈ db.task.rows, Budgeted task

/-! ## Runs -/

inductive Action (Disk : Type) where
  | createIndex (principal : Option TenantPrincipal) (draws : IndexService.Draws) (newId : Nat)
      (args : IndexService.Creation)
  | optimizeIndex (principal : Option TenantPrincipal) (draws : IndexService.Draws)
      (datasetUuid indexName : String)
  | runWatchPass (principal : Option TenantPrincipal) (draw : Nat → String) (now : DateTime)
      (disk : Disk)
  /-- A claim, a cancel or a retry, or a call about workers. -/
  | call (op : Operation)
  /-- An iteration of a worker, with any tables for its executor. -/
  | runIteration (principal : Option TenantPrincipal) (context : ExecutorContext)
      (claimedAt finishedAt : DateTime) (config : LifecycleWorkerService.WorkerConfig)
      (disk : Disk)
  /-- The rest of the control plane: whatever it writes, it writes other tables. -/
  | elsewhere (others : Database)

/-- Calls that only `run_iteration` makes, or that submit a task by itself. -/
def apart : Operation → Bool
  | .submitTask .. | .completeTask .. | .failTask .. => true
  | _ => false

section Runs

variable {Disk : Type} (lance : Pylance Disk)

def step (db : Database) : Action Disk → Option Database
  | .createIndex principal draws newId args =>
      some (IndexService.createIndex principal draws newId args db).2
  | .optimizeIndex principal draws datasetUuid indexName =>
      some (IndexService.optimizeIndex principal draws datasetUuid indexName db).2
  | .runWatchPass principal draw now disk =>
      match IndexWatcherService.runWatchPass lance draw now principal db disk with
      | .ok (_, after) => some after
      | .error _ => some db
  | .call op => if apart op then none else some (op.apply db)
  | .runIteration principal context claimedAt finishedAt config disk =>
      some (LifecycleWorkerService.runIteration principal context finishedAt claimedAt
        (buildDefaultRegistry lance) config db disk).db
  | .elsewhere others => some { others with task := db.task, vectorIndex := db.vectorIndex }

/-- Runs of what moves index rows and their tasks. -/
def indexing : Machine Database (Action Disk) where
  step := step lance

end Runs

/-- A task holds the key of the submission, so `submit_task` returns it. -/
def answered (principal : Option TenantPrincipal) (args : TaskService.Submission)
    (db : Database) : Bool :=
  principal.any fun caller => ((TaskService.scopedKey caller args.idempotencyKey).bind fun key =>
    TaskService.findByKey caller key db).isSome

/-- A submission that is answered with an old task finds a live one that moves its row, and
a cancel leaves every waiting row another one. -/
def Careful {Disk : Type} (db : Database) : Action Disk → Prop
  | .createIndex principal _ newId args =>
      (DatasetService.getDataset principal args.datasetUuid db).toOption.isSome = true →
        (IndexService.insertIndex (args.row newId) (IndexService.clearName args db)).isSome =
          true →
        answered principal (args.submission newId) db = true →
          ∃ task ∈ db.task.rows, moves (args.row newId) task = true ∧ live task = true
  | .optimizeIndex principal draws datasetUuid indexName =>
      ∀ index ∈ (IndexService.getIndex principal datasetUuid indexName db).toOption,
        index.status = .ready →
          answered principal (IndexService.optimizeSubmission datasetUuid indexName index.id
            draws.now) db = true →
          ∃ task ∈ db.task.rows,
            moves (index.startOptimize draws.now) task = true ∧ live task = true
  | .call (.cancelTask principal _ taskUuid) =>
      ∀ task ∈ (TaskService.getTask principal taskUuid db).toOption, task.cancellable = true →
        AttendedWithout taskUuid db
  | _ => True

instance {Disk : Type} (db : Database) : (action : Action Disk) → Decidable (Careful db action)
  | .createIndex principal _ newId args =>
      inferInstanceAs (Decidable
        ((DatasetService.getDataset principal args.datasetUuid db).toOption.isSome = true →
          (IndexService.insertIndex (args.row newId) (IndexService.clearName args db)).isSome =
            true →
          answered principal (args.submission newId) db = true →
            ∃ task ∈ db.task.rows, moves (args.row newId) task = true ∧ live task = true))
  | .optimizeIndex principal draws datasetUuid indexName =>
      inferInstanceAs (Decidable
        (∀ index ∈ (IndexService.getIndex principal datasetUuid indexName db).toOption,
          index.status = .ready →
            answered principal (IndexService.optimizeSubmission datasetUuid indexName index.id
              draws.now) db = true →
            ∃ task ∈ db.task.rows,
              moves (index.startOptimize draws.now) task = true ∧ live task = true))
  | .call (.cancelTask principal _ taskUuid) =>
      inferInstanceAs (Decidable
        (∀ task ∈ (TaskService.getTask principal taskUuid db).toOption,
          task.cancellable = true → AttendedWithout taskUuid db))
  | .call (.submitTask ..) | .call (.retryTask ..) | .call (.registerWorker ..)
  | .call (.heartbeat ..) | .call (.drainWorker ..) | .call (.claimNextTask ..)
  | .call (.completeTask ..) | .call (.failTask ..) | .call (.reapDeadWorkers ..)
  | .runWatchPass .. | .runIteration .. | .elsewhere .. => isTrue trivial

/-! ## Tasks and indexes -/

theorem moves_iff {index : Index} {task : Task} :
    moves index task = true ↔ task.datasetUuid = index.datasetUuid ∧
      ((index.status = .building ∧ task.taskType = .indexBuild ∧
          Json.get? (task.params.getD []) "index_name" = some (.str index.indexName)) ∨
        (index.status = .optimizing ∧ task.taskType = .indexOptimize)) := by
  simp [moves]

/-- What `moves` reads of a task. -/
theorem moves_congr {index : Index} {task other : Task}
    (dataset : other.datasetUuid = task.datasetUuid) (taskType : other.taskType = task.taskType)
    (params : other.params = task.params) : moves index other = moves index task := by
  simp [moves, dataset, taskType, params]

theorem Budgeted.of_moves {index : Index} {task : Task} (budgeted : Budgeted task)
    (moving : moves index task = true) :
    2 ≤ task.maxAttempts ∧ (task.status = .running → task.attempt < task.maxAttempts) := by
  refine budgeted ?_
  obtain ⟨-, ⟨-, build, -⟩ | ⟨-, optimize⟩⟩ := moves_iff.1 moving
  · exact .inl build
  · exact .inr optimize

theorem live_of_pending {task : Task} (pending : task.status = .pending) : live task = true := by
  simp [live, pending]

theorem live_of_running {task : Task} (running : task.status = .running) : live task = true := by
  simp [live, running]

theorem AttendedWithout.attended {taskUuid : String} {db : Database}
    (without : AttendedWithout taskUuid db) : Attended db := by
  intro index member waits
  obtain ⟨task, inTable, -, moving, alive⟩ := without index member waits
  exact ⟨task, inTable, moving, alive⟩

/-- Tasks that are rewritten, each keeping what it is counted on for. -/
theorem Attended.rewrite {db after : Database} {f : Task → Task} (attended : Attended db)
    (index : after.vectorIndex = db.vectorIndex)
    (rows : ∀ task ∈ db.task.rows, f task ∈ after.task.rows)
    (stays : ∀ task ∈ db.task.rows, ∀ index, moves index task = true → live task = true →
      moves index (f task) = true ∧ live (f task) = true) : Attended after := by
  intro waiting member waits
  obtain ⟨task, inTable, moving, alive⟩ := attended waiting (index ▸ member) waits
  exact ⟨f task, rows task inTable, stays task inTable waiting moving alive⟩

theorem Attended.update {db : Database} {taskUuid : String} {assign : Task → Task}
    {registry : Table WorkerRegistry WorkerRegistry.workerId} {task : Task}
    (attended : Attended db)
    (keeps : ∀ task, (assign task).taskUuid = task.taskUuid)
    (found : db.task.get taskUuid = some task)
    (stays : ∀ index, moves index task = true → live task = true →
      moves index (assign task) = true ∧ live (assign task) = true) :
    Attended { db with
      task := db.task.update taskUuid assign keeps, workerRegistry := registry } := by
  refine attended.rewrite (f := fun row => if row.taskUuid = taskUuid then assign row else row) rfl
    (fun row member => List.mem_map_of_mem member) fun row member index moving alive => ?_
  show moves index (if row.taskUuid = taskUuid then assign row else row) = true ∧ _
  split
  · rename_i same
    obtain rfl : row = task := Table.eq_of_key_eq member (Table.mem_of_get found)
      (same.trans (Table.key_of_get found).symm)
    exact stays index moving alive
  · exact ⟨moving, alive⟩

/-- Whatever becomes of a task that no row waits for alone. -/
theorem AttendedWithout.update {db : Database} {taskUuid : String} {assign : Task → Task}
    {registry : Table WorkerRegistry WorkerRegistry.workerId}
    (without : AttendedWithout taskUuid db)
    (keeps : ∀ task, (assign task).taskUuid = task.taskUuid) :
    Attended { db with
      task := db.task.update taskUuid assign keeps, workerRegistry := registry } := by
  intro index member waits
  obtain ⟨task, inTable, other, moving, alive⟩ := without index member waits
  exact ⟨task, Table.mem_update_of_ne inTable other, moving, alive⟩

/-- A task that is ended after its rewrite was not the last one of any row. -/
theorem attendedWithout_of_update {db : Database} {taskUuid : String} {assign : Task → Task}
    {keeps : ∀ task, (assign task).taskUuid = task.taskUuid}
    {registry : Table WorkerRegistry WorkerRegistry.workerId}
    (ended : ∀ task, live (assign task) = false)
    (attended : Attended { db with
      task := db.task.update taskUuid assign keeps, workerRegistry := registry }) :
    AttendedWithout taskUuid db := by
  intro index member waits
  obtain ⟨task, inTable, moving, alive⟩ := attended index member waits
  rcases Table.of_mem_update inTable with ⟨before, -, -, rfl⟩ | ⟨old, other⟩
  · rw [ended before] at alive
    cases alive
  · exact ⟨task, old, other, moving, alive⟩

theorem Sound.rewrite {db after : Database} {f : Task → Task} (sound : Sound db)
    (index : after.vectorIndex = db.vectorIndex) (rows : after.task.rows = db.task.rows.map f)
    (budgeted : ∀ task ∈ db.task.rows, Budgeted (f task)) : Sound after := by
  refine ⟨index ▸ sound.names, fun task member => ?_⟩
  rw [rows] at member
  obtain ⟨before, inTable, rfl⟩ := List.mem_map.1 member
  exact budgeted before inTable

theorem Sound.update {db : Database} {taskUuid : String} {assign : Task → Task}
    {registry : Table WorkerRegistry WorkerRegistry.workerId} {task : Task} (sound : Sound db)
    (keeps : ∀ task, (assign task).taskUuid = task.taskUuid)
    (found : db.task.get taskUuid = some task) (budgeted : Budgeted (assign task)) :
    Sound { db with
      task := db.task.update taskUuid assign keeps, workerRegistry := registry } := by
  refine sound.rewrite rfl rfl fun row member => ?_
  show Budgeted (if row.taskUuid = taskUuid then assign row else row)
  split
  · rename_i same
    obtain rfl : row = task := Table.eq_of_key_eq member (Table.mem_of_get found)
      (same.trans (Table.key_of_get found).symm)
    exact budgeted
  · exact sound.budgets row member

/-- A task that is inserted is one more to count on. -/
theorem Attended.insert {db after : Database} {row : Task} (attended : Attended db)
    (inserted : TaskService.insertTask row db = some after) : Attended after := by
  obtain ⟨table, added, rfl, -⟩ := TaskService.insertTask_eq_some inserted
  exact attended.rewrite (f := id) rfl
    (fun task member => (Table.mem_insert? added).2 (.inl member))
    fun _ _ _ moving alive => ⟨moving, alive⟩

theorem Sound.insert {db after : Database} {row : Task} (sound : Sound db)
    (budgeted : Budgeted row) (inserted : TaskService.insertTask row db = some after) :
    Sound after := by
  obtain ⟨table, added, rfl, -⟩ := TaskService.insertTask_eq_some inserted
  refine ⟨sound.names, fun task member => ?_⟩
  rcases (Table.mem_insert? added).1 member with old | rfl
  · exact sound.budgets task old
  · exact budgeted

/-! ## The name of an index -/

theorem UniqueNames.subset {rows fewer : List Index} (names : UniqueNames rows)
    (subset : ∀ index ∈ fewer, index ∈ rows) : UniqueNames fewer :=
  fun index member other inRows =>
    names index (subset index member) other (subset other inRows)

theorem UniqueNames.map {rows : List Index} {f : Index → Index} (names : UniqueNames rows)
    (dataset : ∀ index, (f index).datasetUuid = index.datasetUuid)
    (name : ∀ index, (f index).indexName = index.indexName) : UniqueNames (rows.map f) := by
  intro index member other inRows sameDataset sameName
  obtain ⟨index, inTable, rfl⟩ := List.mem_map.1 member
  obtain ⟨other, otherInTable, rfl⟩ := List.mem_map.1 inRows
  rw [dataset, dataset] at sameDataset
  rw [name, name] at sameName
  rw [names index inTable other otherInTable sameDataset sameName]

theorem UniqueNames.update {db : Database} {id : Nat} {assign : Index → Index}
    {keeps : ∀ index, (assign index).id = index.id} (names : UniqueNames db.vectorIndex.rows)
    (dataset : ∀ index, (assign index).datasetUuid = index.datasetUuid)
    (name : ∀ index, (assign index).indexName = index.indexName) :
    UniqueNames (IndexService.updateIndex id assign keeps db).vectorIndex.rows := by
  refine names.map (fun index => ?_) fun index => ?_
  · split <;> simp [dataset]
  · split <;> simp [name]

theorem UniqueNames.insert {db after : Database} {row : Index}
    (names : UniqueNames db.vectorIndex.rows)
    (inserted : IndexService.insertIndex row db = some after) :
    UniqueNames after.vectorIndex.rows := by
  obtain ⟨fresh, table, added, rfl⟩ := IndexService.insertIndex_eq_some inserted
  have differ : ∀ other ∈ db.vectorIndex.rows, row.datasetUuid = other.datasetUuid →
      row.indexName ≠ other.indexName := by
    intro other member sameDataset sameName
    have held := fresh other member
    simp [Index.named, sameDataset, sameName] at held
  intro index member other inRows sameDataset sameName
  rcases (Table.mem_insert? added).1 member with old | rfl
  · rcases (Table.mem_insert? added).1 inRows with otherOld | rfl
    · exact names index old other otherOld sameDataset sameName
    · exact absurd sameName.symm (differ index old sameDataset.symm)
  · rcases (Table.mem_insert? added).1 inRows with otherOld | rfl
    · exact absurd sameName (differ other otherOld sameDataset)
    · rfl

/-! ## Calls -/

/-- A claim takes a task below its budget, and leaves it there. -/
theorem budgeted_claim {task : Task} {taskType : Option TaskType} (budgeted : Budgeted task)
    (wanted : task.dispatchable taskType = true) (workerId : String) (now : DateTime) :
    Budgeted (task.claim workerId now) := by
  obtain ⟨-, below, -⟩ := Task.dispatchable_iff.1 wanted
  intro indexing
  obtain ⟨two, -⟩ := budgeted indexing
  refine ⟨two, fun _ => ?_⟩
  show (if task.attempt = 0 then 1 else task.attempt) < task.maxAttempts
  split <;> omega

/-- A failed execution leaves a task that can be retried. -/
theorem moves_fail {index : Index} {task : Task} (budgeted : Budgeted task)
    (running : task.status = .running) (now : DateTime) (errorCode errorMessage : String)
    (moving : moves index task = true) :
    moves index (task.fail now errorCode errorMessage) = true ∧
      live (task.fail now errorCode errorMessage) = true := by
  obtain ⟨-, below⟩ := budgeted.of_moves moving
  refine ⟨(moves_congr rfl rfl rfl).trans moving, ?_⟩
  simp [live, Task.fail, below running]

theorem budgeted_of_not_running {task other : Task} (budgeted : Budgeted task)
    (taskType : other.taskType = task.taskType) (maxAttempts : other.maxAttempts = task.maxAttempts)
    (still : other.status ≠ .running) : Budgeted other := by
  intro indexing
  rw [taskType] at indexing
  exact ⟨maxAttempts ▸ (budgeted indexing).1, fun running => absurd running still⟩

/-- The rewrite of a reaper pass keeps a task where it is or makes it PENDING. -/
theorem requeueFrom_cases (stale : List WorkerRegistry) (task : Task) :
    Task.requeueFrom stale task = task ∨ Task.requeueFrom stale task = task.requeue := by
  unfold Task.requeueFrom
  split
  · exact .inr rfl
  · exact .inl rfl

theorem attended_reap {db : Database} (attended : Attended db) (stale : List WorkerRegistry) :
    Attended (stale.foldl (fun db worker => SchedulerService.reapWorker worker db) db) := by
  refine attended.rewrite (f := Task.requeueFrom stale) (SchedulerService.reap_vectorIndex _ db)
    (fun task member => ?_) fun task _ index moving alive => ?_
  · rw [SchedulerService.reap_task_rows]
    exact List.mem_map_of_mem member
  · rcases requeueFrom_cases stale task with same | requeued
    · rw [same]
      exact ⟨moving, alive⟩
    · rw [requeued]
      exact ⟨(moves_congr rfl rfl rfl).trans moving, live_of_pending rfl⟩

theorem sound_call {db after : Database} {op : Operation} (sound : Sound db)
    (inside : apart op = false) (effect : Effect db op after) : Sound after := by
  cases effect with
  | nothing | registered | reregistered | beat | drained => exact ⟨sound.names, sound.budgets⟩
  | submitted => cases inside
  | completed => cases inside
  | failed => cases inside
  | cancelled got cancellable =>
      have found := (TaskService.getTask_eq_ok got).1
      refine sound.update (Task.taskUuid_cancel _) found ?_
      exact budgeted_of_not_running (sound.budgets _ (Table.mem_of_get found)) rfl rfl nofun
  | retried got failed budget =>
      have found := (TaskService.getTask_eq_ok got).1
      refine sound.update Task.taskUuid_retry found ?_
      exact budgeted_of_not_running (sound.budgets _ (Table.mem_of_get found)) rfl rfl nofun
  | claimed found admitted member wanted =>
      exact sound.update (Task.taskUuid_claim _ _) (Table.get_of_mem member)
        (budgeted_claim (sound.budgets _ member) wanted _ _)
  | reaped =>
      refine sound.rewrite (SchedulerService.reap_vectorIndex _ db)
        (SchedulerService.reap_task_rows _ db) fun task member => ?_
      have budgeted := sound.budgets task member
      rcases requeueFrom_cases _ task with same | requeued
      · rw [same]
        exact budgeted
      · rw [requeued]
        exact budgeted_of_not_running budgeted rfl rfl nofun

/-- A claimed task is RUNNING. -/
theorem attended_claim {db : Database} {task : Task} (attended : Attended db)
    (member : task ∈ db.task.rows) (workerId : String) (now : DateTime)
    (worker : WorkerRegistry) :
    Attended (SchedulerService.claimTask now workerId worker task db) :=
  attended.update (Task.taskUuid_claim _ _) (Table.get_of_mem member) fun _ moving _ =>
    ⟨(moves_congr rfl rfl rfl).trans moving, live_of_running rfl⟩

/-- Every call but a cancel keeps each live task live. -/
theorem attended_call {db after : Database} {op : Operation} (attended : Attended db)
    (inside : apart op = false) (effect : Effect db op after)
    (careful : ∀ principal now taskUuid, op = .cancelTask principal now taskUuid →
      ∀ task, TaskService.getTask principal taskUuid db = .ok task → task.cancellable = true →
        AttendedWithout taskUuid db) : Attended after := by
  cases effect with
  | nothing | registered | reregistered | beat | drained => exact attended
  | submitted => cases inside
  | completed => cases inside
  | failed => cases inside
  | cancelled got cancellable =>
      exact (careful _ _ _ rfl _ got cancellable).update (Task.taskUuid_cancel _)
  | retried got failed budget =>
      exact attended.update Task.taskUuid_retry (TaskService.getTask_eq_ok got).1 fun _ moving _ =>
        ⟨(moves_congr rfl rfl rfl).trans moving, live_of_pending rfl⟩
  | claimed found admitted member wanted => exact attended_claim attended member _ _ _
  | reaped => exact attended_reap attended _

theorem attended_call_iff {Disk : Type} {db : Database} {op : Operation} (attended : Attended db)
    (inside : apart op = false) :
    Attended (op.apply db) ↔ @Careful Disk db (.call op) := by
  cases op with
  | cancelTask principal now taskUuid =>
      constructor
      · intro after task got cancellable
        have got := eq_ok_of_toOption got
        obtain ⟨registry, rows⟩ := @apply_cancelTask principal now taskUuid db task got cancellable
        rw [rows] at after
        exact attendedWithout_of_update (fun task => by simp [live, Task.cancel]) after
      · intro careful
        refine attended_call attended inside (effect_of_apply db _) ?_
        rintro _ _ _ ⟨rfl, rfl, rfl⟩ task got cancellable
        exact careful task (by simp [got, Except.toOption]) cancellable
  | submitTask | completeTask | failTask => cases inside
  | retryTask | registerWorker | heartbeat | drainWorker | claimNextTask | reapDeadWorkers =>
      refine iff_of_true (attended_call attended inside (effect_of_apply db _) ?_) trivial
      intro _ _ _ same
      cases same

/-! ## Submissions -/

/-- A submission returns the task that holds its key, raises, or inserts its own. -/
theorem submitTask_trichotomy (principal : Option TenantPrincipal) (now : DateTime)
    (taskUuid : String) (args : TaskService.Submission) (db : Database) :
    (answered principal args db = true ∧ ∃ existing,
        TaskService.submitTask principal now taskUuid args db = .ok ((existing, false), db)) ∨
      (answered principal args db = false ∧
        ((∃ e, TaskService.submitTask principal now taskUuid args db = .error e) ∨
          ∃ caller after, principal = some caller ∧
            TaskService.submitTask principal now taskUuid args db =
              .ok ((args.row caller taskUuid now, true), after) ∧
            TaskService.insertTask (args.row caller taskUuid now) db = some after)) := by
  cases principal with
  | none => exact .inr ⟨rfl, .inl ⟨_, rfl⟩⟩
  | some caller =>
      unfold TaskService.submitTask answered
      cases held : (TaskService.scopedKey caller args.idempotencyKey).bind fun key =>
          TaskService.findByKey caller key db with
      | some existing => exact .inl ⟨by simp [held], existing, by simp [held]⟩
      | none =>
          refine .inr ⟨by simp [held], ?_⟩
          cases inserted : TaskService.insertTask (args.row caller taskUuid now) db with
          | none => exact .inl ⟨.integrity, by simp [held, inserted]⟩
          | some after => exact .inr ⟨caller, after, rfl, by simp [held, inserted], inserted⟩

theorem answered_congr {db other : Database} (same : other.task = db.task)
    (principal : Option TenantPrincipal) (args : TaskService.Submission) :
    answered principal args other = answered principal args db := by
  unfold answered TaskService.findByKey
  rw [same]

theorem sound_submit {principal : Option TenantPrincipal} {now : DateTime} {taskUuid : String}
    {args : TaskService.Submission} {db after : Database} {answer : Task × Bool}
    (sound : Sound db) (two : 2 ≤ args.maxAttempts)
    (ran : TaskService.submitTask principal now taskUuid args db = .ok (answer, after)) :
    Sound after := by
  obtain ⟨caller, -, ⟨-, rfl, -⟩ | ⟨-, -, inserted⟩⟩ := TaskService.submitTask_cases ran
  · exact sound
  · exact sound.insert (fun _ => ⟨two, fun running => by cases running⟩) inserted

/-- Rows that are attended, with one that has a task of its own. -/
theorem attended_of_one {before db : Database} {row : Index} (attended : Attended before)
    (tasks : ∀ task ∈ before.task.rows, task ∈ db.task.rows)
    (others : ∀ index ∈ db.vectorIndex.rows, transient index = true →
      index = row ∨ index ∈ before.vectorIndex.rows)
    (waits : transient row = true → row ∈ db.vectorIndex.rows →
      ∃ task ∈ db.task.rows, moves row task = true ∧ live task = true) : Attended db := by
  intro index member isTransient
  rcases others index member isTransient with rfl | old
  · exact waits isTransient member
  · obtain ⟨task, inTable, moving⟩ := attended index old isTransient
    exact ⟨task, tasks task inTable, moving⟩

/-- The row of a submission that failed waits for nothing. -/
theorem attended_giveUp {before db : Database} {status : IndexStatus} {cause : String}
    (attended : Attended before) (row : Index) (task : db.task = before.task)
    (others : ∀ index ∈ db.vectorIndex.rows, index = row ∨ index ∈ before.vectorIndex.rows)
    (ended : transient (row.giveUp status cause) = false) :
    Attended (IndexService.updateIndex row.id (Index.giveUp status cause)
      (Index.id_giveUp status cause) db) := by
  intro index member isTransient
  rcases Table.of_mem_update member with ⟨before, -, -, rfl⟩ | ⟨old, apart⟩
  · have same : transient (before.giveUp status cause) = transient (row.giveUp status cause) := rfl
    rw [same, ended] at isTransient
    cases isTransient
  · rcases others index old with rfl | inBefore
    · exact absurd rfl apart
    · show ∃ one ∈ db.task.rows, _
      rw [task]
      exact attended index inBefore isTransient

/-! ## The services -/

section Services

variable {principal : Option TenantPrincipal} {draws : IndexService.Draws}

theorem sound_createIndex {newId : Nat} {args : IndexService.Creation} {db after : Database}
    {answer : Except IndexError Index} (sound : Sound db)
    (ran : IndexService.createIndex principal draws newId args db = (answer, after)) :
    Sound after := by
  have ofInserted : ∀ {inserted : Database}, IndexService.insertIndex (args.row newId)
      (IndexService.clearName args db) = some inserted → Sound inserted := by
    intro inserted row
    have names := (sound.names.subset fun _ => IndexService.mem_of_clearName).insert row
    refine ⟨names, ?_⟩
    rw [IndexService.insertIndex_task row, IndexService.task_clearName]
    exact sound.budgets
  cases IndexService.createIndex_effect ran with
  | nothing e => exact sound
  | created guard row submitted =>
      exact sound_submit (ofInserted row) (show 2 ≤ 3 by omega) submitted
  | failed guard row submitted =>
      exact ⟨(ofInserted row).names.update (fun _ => rfl) fun _ => rfl, (ofInserted row).budgets⟩

theorem attended_createIndex_iff {Disk : Type} {newId : Nat} {args : IndexService.Creation}
    {db : Database} (attended : Attended db) :
    Attended (IndexService.createIndex principal draws newId args db).2 ↔
      @Careful Disk db (.createIndex principal draws newId args) := by
  simp only [IndexService.createIndex, Careful]
  cases guard : DatasetService.getDataset principal args.datasetUuid db with
  | error e => exact iff_of_true attended fun passed => by simp [Except.toOption] at passed
  | ok dataset =>
      cases row : IndexService.insertIndex (args.row newId) (IndexService.clearName args db) with
      | none => exact iff_of_true attended fun _ inserted => by simp at inserted
      | some inserted =>
          obtain ⟨-, table, added, rows⟩ := IndexService.insertIndex_eq_some row
          have sameTask : inserted.task = db.task :=
            (IndexService.insertIndex_task row).trans (IndexService.task_clearName args db)
          have others : ∀ index ∈ inserted.vectorIndex.rows,
              index = args.row newId ∨ index ∈ db.vectorIndex.rows := by
            rw [rows]
            intro index member
            rcases (Table.mem_insert? added).1 member with old | isNew
            · exact .inr (IndexService.mem_of_clearName old)
            · exact .inl isNew
          have isThere : args.row newId ∈ inserted.vectorIndex.rows := by
            rw [rows]
            exact (Table.mem_insert? added).2 (.inr rfl)
          have sameAnswer := answered_congr sameTask principal (args.submission newId)
          obtain ⟨held, existing, ran⟩ | ⟨free, ⟨e, ran⟩ | ⟨caller, after, -, ran, taken⟩⟩ :=
            submitTask_trichotomy principal draws.now draws.taskUuid (args.submission newId)
              inserted
          · simp only [ran, Except.toOption, Option.isSome_some, forall_const, ← sameAnswer, held]
            constructor
            · intro after
              rw [← sameTask]
              exact after _ isThere rfl
            · intro careful
              refine attended_of_one attended (fun task member => sameTask ▸ member)
                (fun index member _ => others index member) fun _ _ => ?_
              rw [sameTask]
              exact careful
          · simp only [ran]
            refine iff_of_true ?_ fun _ _ held => by simp [← sameAnswer, free] at held
            exact attended_giveUp attended (args.row newId) sameTask others rfl
          · simp only [ran]
            refine iff_of_true ?_ fun _ _ held => by simp [← sameAnswer, free] at held
            obtain ⟨tasks, addedTask, rfl, -⟩ := TaskService.insertTask_eq_some taken
            refine attended_of_one attended
              (fun task member => (Table.mem_insert? addedTask).2 (.inl (sameTask ▸ member)))
              (fun index member _ => others index member) fun _ _ => ?_
            refine ⟨_, (Table.mem_insert? addedTask).2 (.inr rfl), ?_, live_of_pending rfl⟩
            exact moves_iff.2 ⟨rfl, .inl ⟨rfl, rfl, rfl⟩⟩

theorem sound_optimizeIndex {datasetUuid indexName : String} {db after : Database}
    {answer : Except IndexError Index} (sound : Sound db)
    (ran : IndexService.optimizeIndex principal draws datasetUuid indexName db =
      (answer, after)) : Sound after := by
  have flipped : ∀ index : Index, Sound (IndexService.updateIndex index.id
      (Index.startOptimize draws.now) (Index.id_startOptimize draws.now) db) := fun index =>
    ⟨sound.names.update (fun _ => rfl) fun _ => rfl, sound.budgets⟩
  cases IndexService.optimizeIndex_effect ran with
  | nothing e => exact sound
  | started got ready submitted =>
      exact sound_submit (flipped _) (show 2 ≤ 3 by omega) submitted
  | failed got ready =>
      exact ⟨(flipped _).names.update (fun _ => rfl) fun _ => rfl, sound.budgets⟩

theorem attended_optimizeIndex_iff {Disk : Type} {datasetUuid indexName : String} {db : Database}
    (attended : Attended db) :
    Attended (IndexService.optimizeIndex principal draws datasetUuid indexName db).2 ↔
      @Careful Disk db (.optimizeIndex principal draws datasetUuid indexName) := by
  simp only [IndexService.optimizeIndex, Careful]
  cases got : IndexService.getIndex principal datasetUuid indexName db with
  | error e => exact iff_of_true attended fun index passed => by simp [Except.toOption] at passed
  | ok index =>
      obtain ⟨-, found⟩ := IndexService.getIndex_eq_ok got
      obtain ⟨inTable, owner, -⟩ := IndexService.maybeGetIndex_eq_some found
      by_cases ready : index.status = .ready
      · have others : ∀ other ∈ (IndexService.updateIndex index.id
            (Index.startOptimize draws.now) (Index.id_startOptimize draws.now) db).vectorIndex.rows,
            other = index.startOptimize draws.now ∨ other ∈ db.vectorIndex.rows := by
          intro other member
          rcases Table.of_mem_update member with ⟨before, inRows, same, rfl⟩ | ⟨old, -⟩
          · rw [Table.eq_of_key_eq inRows inTable same]
            exact .inl rfl
          · exact .inr old
        have isThere := Table.mem_update_self (f := Index.startOptimize draws.now) inTable rfl
        have sameAnswer : answered principal
              (IndexService.optimizeSubmission datasetUuid indexName index.id draws.now)
              (IndexService.updateIndex index.id (Index.startOptimize draws.now)
                (Index.id_startOptimize draws.now) db) =
            answered principal
              (IndexService.optimizeSubmission datasetUuid indexName index.id draws.now) db :=
          answered_congr rfl _ _
        simp only [Except.toOption, Option.mem_def, Option.some.injEq, forall_eq', ready, ne_eq,
          not_true_eq_false, if_false, forall_const]
        obtain ⟨held, existing, ran⟩ | ⟨free, ⟨e, ran⟩ | ⟨caller, after, -, ran, taken⟩⟩ :=
          submitTask_trichotomy principal draws.now draws.taskUuid
            (IndexService.optimizeSubmission datasetUuid indexName index.id draws.now)
            (IndexService.updateIndex index.id (Index.startOptimize draws.now)
              (Index.id_startOptimize draws.now) db)
        · rw [sameAnswer] at held
          simp only [ran]
          constructor
          · intro after _
            exact after _ isThere rfl
          · intro careful
            exact attended_of_one attended (fun _ member => member)
              (fun other member _ => others other member) fun _ _ => careful held
        · simp only [ran]
          refine iff_of_true ?_ fun held => by simp [← sameAnswer, free] at held
          exact attended_giveUp attended (index.startOptimize draws.now) rfl others rfl
        · simp only [ran]
          refine iff_of_true ?_ fun held => by simp [← sameAnswer, free] at held
          obtain ⟨tasks, addedTask, rfl, -⟩ := TaskService.insertTask_eq_some taken
          refine attended_of_one attended
            (fun task member => (Table.mem_insert? addedTask).2 (.inl member))
            (fun other member _ => others other member) fun _ _ => ?_
          refine ⟨_, (Table.mem_insert? addedTask).2 (.inr rfl), ?_, live_of_pending rfl⟩
          exact moves_iff.2 ⟨owner.symm, .inr ⟨rfl, rfl⟩⟩
      · refine iff_of_true (by simpa [ready] using attended) fun other passed isReady => ?_
        simp only [Except.toOption, Option.mem_def, Option.some.injEq] at passed
        exact absurd (passed ▸ isReady) ready

end Services

/-! ## The watcher and the workers -/

section Passes

variable {Disk : Type} {lance : Pylance Disk}

theorem sound_emit {before next : Database} {now : DateTime}
    {candidate : IndexWatcherService.Candidate} {key taskUuid : String} (sound : Sound before)
    (emitted : IndexWatcherService.Emitted now candidate key taskUuid before next) :
    Sound next := by
  obtain ⟨params, inserted⟩ := emitted
  have flipped : Sound (IndexWatcherService.flipIndex now candidate.index.id before) :=
    ⟨sound.names.update (fun _ => rfl) fun _ => rfl, sound.budgets⟩
  refine flipped.insert (fun _ => ⟨show 2 ≤ 3 by omega, fun running => ?_⟩) inserted
  cases running

/-- What a watch pass keeps beside. -/
structure Watched (start db : Database) : Prop where
  attended : Attended db
  parents : ∀ id, (db.vectorIndex.get id).map Index.datasetUuid =
    (start.vectorIndex.get id).map Index.datasetUuid

/-- An emission flips an index and inserts a task of the index's dataset. -/
theorem Watched.emit {start before next : Database} {now : DateTime}
    {candidate : IndexWatcherService.Candidate} {key taskUuid : String}
    (watched : Watched start before)
    (member : candidate ∈ IndexWatcherService.fetchCandidates start)
    (emitted : IndexWatcherService.Emitted now candidate key taskUuid before next) :
    Watched start next := by
  have homes := emitted.map_vectorIndex Index.datasetUuid fun _ => rfl
  obtain ⟨params, inserted⟩ := emitted
  obtain ⟨inTable, -⟩ := IndexWatcherService.mem_fetchCandidates.1 member
  have owner := IndexWatcherService.datasetUuid_of_mem member
  obtain ⟨table, added, rfl, -⟩ := TaskService.insertTask_eq_some inserted
  refine ⟨fun index inRows waits => ?_, fun id => ?_⟩
  · rcases Table.of_mem_update inRows with ⟨old, oldRow, same, rfl⟩ | ⟨old, -⟩
    · have parent := watched.parents old.id
      rw [Table.get_of_mem oldRow, same, Table.get_of_mem inTable] at parent
      have home : candidate.dataset.datasetUuid = old.datasetUuid :=
        owner.trans (Option.some.inj parent).symm
      refine ⟨_, (Table.mem_insert? added).2 (.inr rfl), ?_, live_of_pending rfl⟩
      exact moves_iff.2 ⟨home, .inr ⟨rfl, rfl⟩⟩
    · obtain ⟨task, inTasks, moving⟩ := watched.attended index old waits
      exact ⟨task, (Table.mem_insert? added).2 (.inl inTasks), moving⟩
  · exact (homes id).trans (watched.parents id)

theorem attended_runWatchPass {draw : Nat → String} {now : DateTime} {disk : Disk}
    {principal : Option TenantPrincipal} {db after : Database}
    {report : IndexWatcherService.WatchPassReport} (attended : Attended db)
    (ran : IndexWatcherService.runWatchPass lance draw now principal db disk =
      .ok (report, after)) : Attended after := by
  have start : Watched db db := ⟨attended, fun _ => rfl⟩
  exact (IndexWatcherService.runWatchPass_keeps
    (fun candidate member key taskUuid before next watched _ _ emitted =>
      watched.emit member emitted) start ran).attended

section Finalization

variable {principal : Option TenantPrincipal} {now : DateTime}
  {workerId leaseId taskUuid : String} {taskType : Option TaskType}

theorem sound_claimNextTask {db held : Database} {task : Task} (sound : Sound db)
    (ran : SchedulerService.claimNextTask principal now workerId leaseId taskType db =
      .ok (some task, held)) : Sound held := by
  obtain ⟨none_, -⟩ | ⟨worker, free, -, -, member, wanted, -, rfl⟩ :=
    SchedulerService.claimNextTask_cases ran
  · cases none_
  · exact sound.update (Task.taskUuid_claim _ _) (Table.get_of_mem member)
      (budgeted_claim (sound.budgets _ member) wanted _ _)

theorem attended_claimNextTask {db held : Database} {task : Task} (attended : Attended db)
    (ran : SchedulerService.claimNextTask principal now workerId leaseId taskType db =
      .ok (some task, held)) : Attended held ∧ task ∈ held.task.rows := by
  obtain ⟨none_, -⟩ | ⟨worker, free, -, -, member, -, claimed, rfl⟩ :=
    SchedulerService.claimNextTask_cases ran
  · cases none_
  · obtain rfl := Option.some.inj claimed
    exact ⟨attended_claim attended member _ _ _, Table.mem_update_self member rfl⟩

theorem sound_finishTask {assign : Task → Task}
    {keeps : ∀ task, (assign task).taskUuid = task.taskUuid} {db after : Database}
    (sound : Sound db) (budgeted : ∀ task, Budgeted task → Budgeted (assign task))
    (ran : SchedulerService.finishTask principal workerId taskUuid assign keeps db = .ok after) :
    Sound after := by
  obtain ⟨task, found, -, rfl⟩ := SchedulerService.finishTask_cases ran
  exact sound.update keeps found (budgeted task (sound.budgets task (Table.mem_of_get found)))

theorem attended_failTask {errorCode errorMessage : String} {db after : Database}
    (sound : Sound db) (attended : Attended db)
    (ran : SchedulerService.failTask principal now workerId taskUuid errorCode errorMessage db =
      .ok after) : Attended after := by
  obtain ⟨task, found, owned, rfl⟩ := SchedulerService.finishTask_cases ran
  refine attended.update (Task.taskUuid_fail _ _ _) found fun index moving _ => ?_
  exact moves_fail (sound.budgets task (Table.mem_of_get found)) (Task.runningOn_iff.1 owned).1
    now errorCode errorMessage moving

theorem attended_completeTask {result : Option JsonDict} {db after : Database}
    (without : AttendedWithout taskUuid db)
    (ran : SchedulerService.completeTask principal now workerId taskUuid result db = .ok after) :
    Attended after := by
  obtain ⟨task, -, -, rfl⟩ := SchedulerService.finishTask_cases ran
  exact without.update (Task.taskUuid_complete _ _)

end Finalization

/-- Rows that still wait after a promotion have another task than the one that promoted. -/
theorem attendedWithout_promoted {db written : Database} {task : Task} (attended : Attended db)
    (inTable : task ∈ db.task.rows) (same : written.task = db.task)
    (others : ∀ index ∈ written.vectorIndex.rows, transient index = true →
      index ∈ db.vectorIndex.rows ∧ moves index task = false) :
    AttendedWithout task.taskUuid written := by
  intro index member waits
  obtain ⟨old, unmoved⟩ := others index member waits
  obtain ⟨other, inRows, moving, alive⟩ := attended index old waits
  refine ⟨other, same ▸ inRows, fun sameKey => ?_, moving, alive⟩
  obtain rfl : other = task := Table.eq_of_key_eq inRows inTable sameKey
  rw [moving] at unmoved
  cases unmoved

theorem promoted_optimize {task : Task} {dataset : Dataset} {db : Database} {now : DateTime}
    {seenVersion : Option Int} (home : dataset.datasetUuid = task.datasetUuid)
    (taskType : task.taskType = .indexOptimize) {index : Index}
    (member : index ∈
      (IndexOptimizeExecutor.promoteAll now seenVersion dataset db).vectorIndex.rows)
    (waits : transient index = true) :
    index ∈ db.vectorIndex.rows ∧ moves index task = false := by
  obtain ⟨old, inTable, rfl⟩ := List.mem_map.1 member
  by_cases awaits : IndexOptimizeExecutor.awaiting dataset old = true
  · simp [awaits, transient, IndexOptimizeExecutor.promote] at waits
  · simp only [awaits] at waits ⊢
    refine ⟨inTable, Bool.eq_false_iff.2 fun moving => awaits ?_⟩
    obtain ⟨sameDataset, ⟨-, build, -⟩ | ⟨optimizing, -⟩⟩ := moves_iff.1 moving
    · rw [taskType] at build
      cases build
    · simpa [IndexOptimizeExecutor.awaiting, home, sameDataset] using optimizing

theorem promoted_build {task : Task} {dataset : Dataset} {db : Database}
    {context : ExecutorContext} {args : IndexBuildExecutor.Build} {row : Index}
    (names : UniqueNames db.vectorIndex.rows)
    (home : dataset.datasetUuid = task.datasetUuid) (taskType : task.taskType = .indexBuild)
    (parsed : IndexBuildExecutor.parse task = .ok args)
    (found : IndexBuildExecutor.find context dataset args.indexName db = .ok (some row))
    {index : Index}
    (member : index ∈ (IndexBuildExecutor.promoteRow context.now row db).vectorIndex.rows)
    (waits : transient index = true) :
    index ∈ db.vectorIndex.rows ∧ moves index task = false := by
  obtain ⟨rowMember, owner, name⟩ := IndexBuildExecutor.find_eq_some found
  rcases Table.of_mem_update member with ⟨old, -, -, rfl⟩ | ⟨old, apart⟩
  · simp [transient, IndexBuildExecutor.promote] at waits
  · refine ⟨old, Bool.eq_false_iff.2 fun moving => apart ?_⟩
    obtain ⟨sameDataset, ⟨-, -, named⟩ | ⟨-, optimize⟩⟩ := moves_iff.1 moving
    · have asked := IndexBuildExecutor.indexName_of_parse parsed
      rw [named, Option.getD_some] at asked
      rw [names index old row rowMember ((owner.trans home).trans sameDataset).symm
        (name index.indexName asked).symm]
    · rw [taskType] at optimize
      cases optimize

/-- Executors keep names apart and leave tasks alone. -/
theorem sound_executed {context : ExecutorContext} {task : Task} {dataset : Dataset}
    {executor : LifecycleExecutor Disk} {db written : Database} {disk disk' : Disk}
    {payload : JsonDict} (sound : Sound db)
    (registered : buildDefaultRegistry lance task.taskType = some executor)
    (executed : executor.execute context task dataset db disk = (.ok (payload, written), disk')) :
    Sound written := by
  cases executed_of_registered registered executed with
  | ttlDelete taskType | compaction taskType => exact sound
  | indexOptimize taskType seenVersion =>
      refine ⟨sound.names.map (fun index => ?_) fun index => ?_, sound.budgets⟩
      · split <;> rfl
      · split <;> rfl
  | indexBuild taskType parsed named =>
      exact ⟨sound.names.update (fun _ => rfl) fun _ => rfl, sound.budgets⟩
  | vectorize taskType => exact sound

/-- After an execution that returned, no row still waits for its task alone. -/
theorem attended_executed {context : ExecutorContext} {task : Task} {dataset : Dataset}
    {executor : LifecycleExecutor Disk} {db written : Database} {disk disk' : Disk}
    {payload : JsonDict} (sound : Sound db) (attended : Attended db)
    (inTable : task ∈ db.task.rows)
    (found : db.dataset.get task.datasetUuid = some dataset)
    (registered : buildDefaultRegistry lance task.taskType = some executor)
    (executed : executor.execute context task dataset db disk = (.ok (payload, written), disk')) :
    AttendedWithout task.taskUuid written := by
  have home := Table.key_of_get found
  cases executed_of_registered registered executed with
  | ttlDelete taskType | compaction taskType | vectorize taskType =>
      refine attendedWithout_promoted attended inTable rfl fun index member _ => ?_
      exact ⟨member, by simp [moves, taskType]⟩
  | indexOptimize taskType seenVersion =>
      exact attendedWithout_promoted attended inTable rfl fun index member waits =>
        promoted_optimize home taskType member waits
  | indexBuild taskType parsed named =>
      exact attendedWithout_promoted attended inTable rfl fun index member waits =>
        promoted_build sound.names home taskType parsed named member waits

section Iterations

variable {principal : Option TenantPrincipal} {context : ExecutorContext}
  {claimedAt finishedAt : DateTime} {config : LifecycleWorkerService.WorkerConfig}
  {db after : Database} {disk : Disk}

theorem sound_iteration (sound : Sound db)
    (effect : LifecycleWorkerService.IterationEffect principal context finishedAt claimedAt
      (buildDefaultRegistry lance) config db disk after) : Sound after := by
  cases effect with
  | nothing => exact sound
  | claimed ran => exact sound_claimNextTask sound ran
  | failed ran finished =>
      refine sound_finishTask (sound_claimNextTask sound ran) (fun task budgeted => ?_) finished
      exact budgeted_of_not_running budgeted rfl rfl nofun
  | succeeded ran found registered executed finished =>
      have written := sound_executed (sound_claimNextTask sound ran) registered executed
      refine sound_finishTask written (fun task budgeted => ?_) finished
      exact budgeted_of_not_running budgeted rfl rfl nofun

theorem attended_iteration (sound : Sound db) (attended : Attended db)
    (effect : LifecycleWorkerService.IterationEffect principal context finishedAt claimedAt
      (buildDefaultRegistry lance) config db disk after) : Attended after := by
  cases effect with
  | nothing => exact attended
  | claimed ran => exact (attended_claimNextTask attended ran).1
  | failed ran finished =>
      exact attended_failTask (sound_claimNextTask sound ran)
        (attended_claimNextTask attended ran).1 finished
  | succeeded ran found registered executed finished =>
      obtain ⟨held, inTable⟩ := attended_claimNextTask attended ran
      have without := attended_executed (sound_claimNextTask sound ran) held inTable found
        registered executed
      exact attended_completeTask without finished

end Iterations

/-! ## Whole runs -/

theorem sound_step {db after : Database} {action : Action Disk} (sound : Sound db)
    (stepped : step lance db action = some after) : Sound after := by
  cases action with
  | createIndex principal draws newId args =>
      obtain rfl := Option.some.inj stepped
      exact sound_createIndex sound rfl
  | optimizeIndex principal draws datasetUuid indexName =>
      obtain rfl := Option.some.inj stepped
      exact sound_optimizeIndex sound rfl
  | runWatchPass principal draw now disk =>
      simp only [step] at stepped
      split at stepped
      · rename_i report _ ran
        obtain rfl := Option.some.inj stepped
        exact IndexWatcherService.runWatchPass_keeps
          (fun _ _ _ _ _ _ held _ _ emitted => sound_emit held emitted) sound ran
      · obtain rfl := Option.some.inj stepped
        exact sound
  | call op =>
      simp only [step] at stepped
      split at stepped
      · cases stepped
      · rename_i inside
        obtain rfl := Option.some.inj stepped
        exact sound_call sound (by simpa using inside) (effect_of_apply db op)
  | runIteration principal context claimedAt finishedAt config disk =>
      obtain rfl := Option.some.inj stepped
      exact sound_iteration sound LifecycleWorkerService.runIteration_effect
  | elsewhere others =>
      obtain rfl := Option.some.inj stepped
      exact ⟨sound.names, sound.budgets⟩

/-- One step keeps every transient row attended exactly when it is careful. -/
theorem attended_step_iff {db after : Database} {action : Action Disk} (sound : Sound db)
    (attended : Attended db) (stepped : step lance db action = some after) :
    Attended after ↔ Careful db action := by
  cases action with
  | createIndex principal draws newId args =>
      obtain rfl := Option.some.inj stepped
      exact attended_createIndex_iff attended
  | optimizeIndex principal draws datasetUuid indexName =>
      obtain rfl := Option.some.inj stepped
      exact attended_optimizeIndex_iff attended
  | runWatchPass principal draw now disk =>
      refine iff_of_true ?_ trivial
      simp only [step] at stepped
      split at stepped
      · rename_i report _ ran
        obtain rfl := Option.some.inj stepped
        exact attended_runWatchPass attended ran
      · obtain rfl := Option.some.inj stepped
        exact attended
  | call op =>
      simp only [step] at stepped
      split at stepped
      · cases stepped
      · rename_i inside
        obtain rfl := Option.some.inj stepped
        exact attended_call_iff attended (by simpa using inside)
  | runIteration principal context claimedAt finishedAt config disk =>
      obtain rfl := Option.some.inj stepped
      exact iff_of_true (attended_iteration sound attended
        LifecycleWorkerService.runIteration_effect) trivial
  | elsewhere others =>
      obtain rfl := Option.some.inj stepped
      exact iff_of_true attended trivial

/-- **Transient states are attended** in every state of a run exactly when each step of the
run is careful. -/
theorem transient_attended_iff {db : Database} {actions : List (Action Disk)} (sound : Sound db)
    (attended : Attended db) :
    (indexing lance).Always Attended db actions ↔ (indexing lance).Guarded Careful db actions :=
  Machine.always_iff_guarded (fun _ _ _ held stepped => sound_step held stepped)
    (fun _ _ _ held ok stepped => attended_step_iff held ok stepped) sound attended

end Passes

section Examples

/-- A dataset without indexes, and a worker. -/
def oneWorker : Database where
  dataset :=
    .single
      { datasetUuid := "d1", catalog := "lake", dbSchema := "acme", tableName := "events",
        storageUri := "s3://acme/events", tenantId := "acme" }
  workerRegistry :=
    .single
      { workerId := "w1", workerType := "lifecycle", leaseId := "l1", lastHeartbeatAt := 0 }

def create : Action Unit :=
  .createIndex acmeSdk { now := 1, taskUuid := "t1" } 1
    { datasetUuid := "d1", indexName := "emb_idx", columnName := "emb", indexType := "IVF_PQ" }

def iterate : Action Unit :=
  .runIteration daemonContext { now := 2 } 2 3 { workerId := "w1", leaseId := "l1" } ()

def optimize (now : DateTime) (taskUuid : String) : Action Unit :=
  .optimizeIndex acmeSdk { now, taskUuid } "d1" "emb_idx"

def cancel (taskUuid : String) : Action Unit := .call (.cancelTask acmeSdk 9 taskUuid)

theorem sound_oneWorker : Sound oneWorker :=
  ⟨by simp [UniqueNames, oneWorker], by simp [oneWorker]⟩

/-- A cancel strands a row in BUILDING, or in OPTIMIZING; and so does a second optimize under
the clock reading of the first. -/
theorem transient_index_abandoned :
    ¬ (indexing noTables).Always Attended oneWorker [create, cancel "t1"] ∧
      ¬ (indexing noTables).Always Attended oneWorker
        [create, iterate, optimize 5 "t2", cancel "t2"] ∧
      ¬ (indexing noTables).Always Attended oneWorker
        [create, iterate, optimize 5 "t2", iterate, optimize 5 "t3"] :=
  ⟨Machine.not_always_of_ends (by decide), Machine.not_always_of_ends (by decide),
    Machine.not_always_of_ends (by decide)⟩

/-- Two rounds that are not disturbed, and a cancel of a task that is over. -/
theorem transient_attended_rounds :
    (indexing noTables).Always Attended oneWorker
      [create, iterate, optimize 5 "t2", iterate, optimize 6 "t3", cancel "t2"] :=
  (transient_attended_iff sound_oneWorker (by decide)).2 (by decide)

end Examples

end Lcp.TransientIndexes
