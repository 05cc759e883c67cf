/-
# Invariants.TaskRows -- the life of a task row

Submission, emission, dispatch, completion, failure, cancellation, retry and the
reaper write overlapping columns of a task, and no one function owns its status.
Still each of them does one thing to the whole table: it maps every row by a
step that is `Legal` and appends rows that are `Fresh`.  That is `Evolves`; the
run results are inductions over it.
-/
import Lcp.Services.IndexWatcherPass
import Lcp.Services.LifecyclePlannerService
import Lcp.Services.Operations

namespace Lcp.TaskRows

open Theory

set_option autoImplicit false

/-! ## One row -/

/-- The status changes a task can go through. -/
def TaskStatus.mayBecome : TaskStatus → TaskStatus → Bool
  | .pending, .running | .queued, .running => true
  | .running, .succeeded | .running, .failed | .running, .pending => true
  | .failed, .pending => true
  | .pending, .cancelled | .queued, .cancelled | .running, .cancelled => true
  | _, _ => false

/-- The columns that make up the request. -/
def identity (task : Task) :
    String × String × String × TaskType × Option JsonDict × Nat × Option String :=
  (task.taskUuid, task.tenantId, task.datasetUuid, task.taskType, task.params, task.priority,
    task.idempotencyKey)

/-- `after` is the same task, no or one status change later. -/
structure Moves (before after : Task) : Prop where
  identity : identity after = identity before
  attempt : before.attempt ≤ after.attempt
  status : after.status = before.status ∨ TaskStatus.mayBecome before.status after.status = true

/-- `after` is the same task at some later time. -/
structure Follows (before after : Task) : Prop where
  identity : identity after = identity before
  attempt : before.attempt ≤ after.attempt
  succeeded : before.status = .succeeded → after.status = .succeeded
  cancelled : before.status = .cancelled → after.status = .cancelled

/-- How the columns of a row go together. -/
structure WellFormed (task : Task) : Prop where
  running : task.status = .running → task.workerId.isSome ∧ task.startedAt.isSome ∧
    1 ≤ task.attempt ∧ task.attempt ≤ task.maxAttempts
  finished : task.finishedAt.isSome ↔
    task.status = .succeeded ∨ task.status = .failed ∨ task.status = .cancelled
  error : task.errorCode.isSome ↔ task.status = .failed
  result : task.result.isSome → task.status = .succeeded
  waiting : task.status = .pending ∨ task.status = .queued → task.startedAt = none

/-- A row as it is inserted. -/
def Fresh (task : Task) : Prop :=
  task.status = .pending ∧ task.attempt = 0 ∧ task.workerId = none ∧ task.startedAt = none ∧
    task.finishedAt = none ∧ task.errorCode = none ∧ task.result = none

/-- The step is one that a task can take, and it keeps the columns together. -/
def Legal (before after : Task) : Prop :=
  Moves before after ∧ (WellFormed before → WellFormed after)

theorem Fresh.wellFormed {task : Task} (fresh : Fresh task) : WellFormed task := by
  obtain ⟨status, -, -, started, finished, error, result⟩ := fresh
  constructor <;> simp [status, started, finished, error, result]

theorem Moves.rfl {task : Task} : Moves task task := ⟨.refl _, Nat.le_refl _, .inl (.refl _)⟩

theorem Legal.rfl {task : Task} : Legal task task := ⟨.rfl, id⟩

theorem Follows.rfl {task : Task} : Follows task task := ⟨.refl _, Nat.le_refl _, id, id⟩

theorem Follows.trans {a b c : Task} (first : Follows a b) (second : Follows b c) :
    Follows a c where
  identity := second.identity.trans first.identity
  attempt := Nat.le_trans first.attempt second.attempt
  succeeded status := second.succeeded (first.succeeded status)
  cancelled status := second.cancelled (first.cancelled status)

/-- SUCCEEDED and CANCELLED lead nowhere. -/
theorem Moves.follows {before after : Task} (moves : Moves before after) :
    Follows before after where
  identity := moves.identity
  attempt := moves.attempt
  succeeded status := by
    rcases moves.status with same | moved
    · exact same.trans status
    · simp [status, TaskStatus.mayBecome] at moved
  cancelled status := by
    rcases moves.status with same | moved
    · exact same.trans status
    · simp [status, TaskStatus.mayBecome] at moved

/-! ## The assignments -/

theorem legal_claim {task : Task} {taskType : Option TaskType}
    (wanted : task.dispatchable taskType = true) (workerId : String) (now : DateTime) :
    Legal task (task.claim workerId now) := by
  obtain ⟨waits, budget, -⟩ := Task.dispatchable_iff.1 wanted
  refine ⟨⟨.refl _, ?_, .inr ?_⟩, fun formed => ⟨fun _ => ⟨rfl, rfl, ?_, ?_⟩, ?_, ?_, ?_, ?_⟩⟩
  · show task.attempt ≤ if task.attempt = 0 then 1 else task.attempt
    split <;> omega
  · rcases waits with status | status <;> simp [status, Task.claim, TaskStatus.mayBecome]
  · show 1 ≤ if task.attempt = 0 then 1 else task.attempt
    split <;> omega
  · show (if task.attempt = 0 then 1 else task.attempt) ≤ task.maxAttempts
    split <;> omega
  · have finished := formed.finished
    rcases waits with status | status <;> simp_all [Task.claim]
  · have error := formed.error
    rcases waits with status | status <;> simp_all [Task.claim]
  · have result := formed.result
    rcases waits with status | status <;> simp_all [Task.claim]
  · simp [Task.claim]

theorem legal_complete {task : Task} (running : task.status = .running) (now : DateTime)
    (result : Option JsonDict) : Legal task (task.complete now result) := by
  refine ⟨⟨.refl _, Nat.le_refl _, .inr ?_⟩, fun _ => ?_⟩
  · simp [running, Task.complete, TaskStatus.mayBecome]
  · constructor <;> simp [Task.complete]

theorem legal_fail {task : Task} (running : task.status = .running) (now : DateTime)
    (errorCode errorMessage : String) : Legal task (task.fail now errorCode errorMessage) := by
  refine ⟨⟨.refl _, Nat.le_refl _, .inr ?_⟩, fun formed => ?_⟩
  · simp [running, Task.fail, TaskStatus.mayBecome]
  · have result := formed.result
    constructor <;> simp_all [Task.fail]

theorem legal_requeue {task : Task} (running : task.status = .running) :
    Legal task task.requeue := by
  refine ⟨⟨.refl _, Nat.le_refl _, .inr ?_⟩, fun formed => ?_⟩
  · simp [running, Task.requeue, TaskStatus.mayBecome]
  · have finished := formed.finished
    have error := formed.error
    have result := formed.result
    constructor <;> simp_all [Task.requeue]

theorem legal_cancel {task : Task} (cancellable : task.cancellable = true) (now : DateTime) :
    Legal task (task.cancel now) := by
  have waits : task.status = .pending ∨ task.status = .queued ∨ task.status = .running := by
    simpa [Task.cancellable] using cancellable
  refine ⟨⟨.refl _, Nat.le_refl _, .inr ?_⟩, fun formed => ?_⟩
  · rcases waits with status | status | status <;>
      simp [status, Task.cancel, TaskStatus.mayBecome]
  · have error := formed.error
    have result := formed.result
    rcases waits with status | status | status <;> constructor <;> simp_all [Task.cancel]

theorem legal_retry {task : Task} (failed : task.status = .failed) : Legal task task.retry := by
  refine ⟨⟨.refl _, Nat.le_succ _, .inr ?_⟩, fun formed => ?_⟩
  · simp [failed, Task.retry, TaskStatus.mayBecome]
  · have result := formed.result
    constructor <;> simp_all [Task.retry]

/-! ## The whole table -/

/-- Every row takes a legal step, and fresh rows are appended. -/
def Evolves (before after : Database) : Prop :=
  ∃ (step : Task → Task) (fresh : List Task),
    after.task.rows = before.task.rows.map step ++ fresh ∧
      (∀ task ∈ before.task.rows, Legal task (step task)) ∧ ∀ task ∈ fresh, Fresh task

/-- Fresh rows are appended. -/
def Grows (before after : Database) : Prop :=
  ∃ fresh, after.task.rows = before.task.rows ++ fresh ∧ ∀ task ∈ fresh, Fresh task

theorem Grows.of_same {before after : Database} (same : after.task = before.task) :
    Grows before after := ⟨[], by simp [same], by simp⟩

theorem Grows.insert {start before after : Database} {row : Task} (grown : Grows start before)
    (fresh : Fresh row) (inserted : TaskService.insertTask row before = some after) :
    Grows start after := by
  obtain ⟨table, added, rfl, -⟩ := TaskService.insertTask_eq_some inserted
  obtain ⟨rows, appended, allFresh⟩ := grown
  refine ⟨rows ++ [row], ?_, fun task member => ?_⟩
  · rw [(Table.insert?_eq_some added).1, appended, List.append_assoc]
  · rcases List.mem_append.1 member with old | new
    · exact allFresh task old
    · rw [List.mem_singleton.1 new]
      exact fresh

theorem Grows.evolves {before after : Database} (grown : Grows before after) :
    Evolves before after := by
  obtain ⟨fresh, rows, allFresh⟩ := grown
  exact ⟨id, fresh, by simpa using rows, fun _ _ => Legal.rfl, allFresh⟩

theorem Evolves.refl (db : Database) : Evolves db db := (Grows.of_same rfl).evolves

theorem evolves_update {db : Database} {taskUuid : String} {assign : Task → Task}
    (keeps : ∀ task, (assign task).taskUuid = task.taskUuid)
    {registry : Table WorkerRegistry WorkerRegistry.workerId} {task : Task}
    (found : db.task.get taskUuid = some task) (legal : Legal task (assign task)) :
    Evolves db { db with
      task := db.task.update taskUuid assign keeps, workerRegistry := registry } := by
  refine ⟨fun row => if row.taskUuid = taskUuid then assign row else row, [], by simp,
    fun row inTable => ?_, by simp⟩
  show Legal row (if row.taskUuid = taskUuid then assign row else row)
  split
  · rename_i same
    obtain rfl : row = task := Table.eq_of_key_eq inTable (Table.mem_of_get found)
      (same.trans (Table.key_of_get found).symm)
    exact legal
  · exact Legal.rfl

theorem evolves_reap (stale : List WorkerRegistry) (db : Database) :
    Evolves db (stale.foldl (fun db worker => SchedulerService.reapWorker worker db) db) := by
  refine ⟨Task.requeueFrom stale, [], by simp [SchedulerService.reap_task_rows],
    fun task _ => ?_, by simp⟩
  unfold Task.requeueFrom
  split
  · rename_i owned
    obtain ⟨worker, -, running⟩ := List.any_eq_true.1 owned
    exact legal_requeue (Task.runningOn_iff.1 running).1
  · exact Legal.rfl

/-! ## Runs -/

inductive Action (Disk : Type) where
  | call (op : Operation)
  /-- `submit_task` as the other services call it, with no request schema before it. -/
  | submitTask (principal : Option TenantPrincipal) (now : DateTime) (taskUuid : String)
      (args : TaskService.Submission)
  | planOnce (principal : Option TenantPrincipal) (draw : Nat → String) (now : DateTime)
  | runWatchPass (principal : Option TenantPrincipal) (draw : Nat → String) (now : DateTime)
      (disk : Disk)
  /-- The rest of the control plane: whatever it writes, it writes other tables. -/
  | elsewhere (others : Database)

section Runs

variable {Disk : Type} (lance : Pylance Disk)

/-- The rows after an action; one that raises leaves them alone. -/
def act (db : Database) : Action Disk → Database
  | .call op => op.apply db
  | .submitTask principal now taskUuid args =>
      match TaskService.submitTask principal now taskUuid args db with
      | .ok (_, after) => after
      | .error _ => db
  | .planOnce principal draw now =>
      match LifecyclePlannerService.planOnce draw now principal db with
      | .ok (_, after) => after
      | .error _ => db
  | .runWatchPass principal draw now disk =>
      match IndexWatcherService.runWatchPass lance draw now principal db disk with
      | .ok (_, after) => after
      | .error _ => db
  | .elsewhere others => { others with task := db.task }

/-- Runs of everything that writes task rows. -/
def taskWriters : Machine Database (Action Disk) where
  step db action := some (act lance db action)

end Runs

/-! ## One action -/

theorem fresh_taskRow (dataset : Dataset) (now : DateTime) (taskUuid : String)
    (taskType : TaskType) (key : String) (params : JsonDict) :
    Fresh (Emission.taskRow dataset now taskUuid taskType key params) := by
  simp [Fresh, Emission.taskRow]

theorem evolves_of_effect {db after : Database} {op : Operation} (effect : Effect db op after) :
    Evolves db after := by
  cases effect with
  | nothing | registered | reregistered | beat | drained => exact (Grows.of_same rfl).evolves
  | submitted bound inserted first =>
      exact ((Grows.of_same rfl).insert (by simp [Fresh, TaskService.Submission.row])
        inserted).evolves
  | cancelled got cancellable =>
      exact evolves_update (Task.taskUuid_cancel _) (TaskService.getTask_eq_ok got).1
        (legal_cancel cancellable _)
  | retried got failed budget =>
      exact evolves_update Task.taskUuid_retry (TaskService.getTask_eq_ok got).1
        (legal_retry failed)
  | claimed found admitted member wanted =>
      exact evolves_update (Task.taskUuid_claim _ _) (Table.get_of_mem member)
        (legal_claim wanted _ _)
  | completed found owned =>
      exact evolves_update (Task.taskUuid_complete _ _) found
        (legal_complete (Task.runningOn_iff.1 owned).1 _ _)
  | failed found owned =>
      exact evolves_update (Task.taskUuid_fail _ _ _) found
        (legal_fail (Task.runningOn_iff.1 owned).1 _ _ _)
  | reaped => exact evolves_reap _ db

section Steps

variable {Disk : Type} {lance : Pylance Disk}

theorem evolves_act (db : Database) (action : Action Disk) : Evolves db (act lance db action) := by
  have grown : Grows db db := .of_same rfl
  cases action with
  | call op => exact evolves_of_effect (effect_of_apply db op)
  | submitTask principal now taskUuid args =>
      simp only [act]
      split
      · rename_i answer after ran
        obtain ⟨caller, -, ⟨-, rfl, -⟩ | ⟨-, -, inserted⟩⟩ := TaskService.submitTask_cases ran
        · exact .refl _
        · exact (grown.insert (by simp [Fresh, TaskService.Submission.row]) inserted).evolves
      · exact .refl db
  | planOnce principal draw now =>
      simp only [act]
      split
      · rename_i report after ran
        have admits : Emission.Admits (Grows db) :=
          fun _ _ _ _ _ _ _ _ held _ inserted =>
            held.insert (fresh_taskRow _ _ _ _ _ _) inserted
        exact (LifecyclePlannerService.planOnce_keeps admits (fun _ _ held => held) grown
          ran).evolves
      · exact .refl db
  | runWatchPass principal draw now disk =>
      simp only [act]
      split
      · rename_i report after ran
        refine (IndexWatcherService.runWatchPass_keeps
          (fun candidate _ key taskUuid before next held parent _ emitted => ?_) grown ran).evolves
        obtain ⟨params, inserted⟩ := emitted
        have flipped : Grows db (IndexWatcherService.flipIndex now candidate.index.id before) :=
          held
        exact flipped.insert (fresh_taskRow _ _ _ _ _ _) inserted
      · exact .refl db
  | elsewhere others => exact (Grows.of_same rfl).evolves

/-! ## Whole runs -/

/-- Every row is well formed. -/
def AllWellFormed (db : Database) : Prop := ∀ task ∈ db.task.rows, WellFormed task

/-- Each task that is there stays there, and `related` to what it was. -/
def Carries (related : Task → Task → Prop) (before after : Database) : Prop :=
  ∀ taskUuid task, before.task.get taskUuid = some task →
    ∃ later, after.task.get taskUuid = some later ∧ related task later

theorem Evolves.allWellFormed {before after : Database} (evolves : Evolves before after)
    (formed : AllWellFormed before) : AllWellFormed after := by
  obtain ⟨step, fresh, rows, legal, allFresh⟩ := evolves
  intro task member
  rw [rows] at member
  rcases List.mem_append.1 member with moved | new
  · obtain ⟨old, inTable, rfl⟩ := List.mem_map.1 moved
    exact (legal old inTable).2 (formed old inTable)
  · exact (allFresh task new).wellFormed

theorem Evolves.carries {before after : Database} (evolves : Evolves before after) :
    Carries Moves before after := by
  obtain ⟨step, fresh, rows, legal, -⟩ := evolves
  intro taskUuid task found
  have moves := (legal task (Table.mem_of_get found)).1
  have member : step task ∈ after.task.rows := by
    rw [rows]
    exact List.mem_append_left _ (List.mem_map_of_mem (Table.mem_of_get found))
  have same : (step task).taskUuid = task.taskUuid := congrArg Prod.fst moves.identity
  exact ⟨step task, Table.get_eq_some.2 ⟨member, same.trans (Table.key_of_get found)⟩, moves⟩

theorem carries_run {db after : Database} {actions : List (Action Disk)}
    (ran : (taskWriters lance).run db actions = some after) : Carries Follows db after := by
  induction actions generalizing db with
  | nil =>
      obtain rfl : db = after := by simpa using ran
      exact fun _ task found => ⟨task, found, .rfl⟩
  | cons action rest ih =>
      have later : (taskWriters lance).run (act lance db action) rest = some after := ran
      have evolves : Evolves db (act lance db action) := evolves_act db action
      intro taskUuid task found
      obtain ⟨next, foundNext, moves⟩ := evolves.carries taskUuid task found
      obtain ⟨last, foundLast, follows⟩ := ih later taskUuid next foundNext
      exact ⟨last, foundLast, moves.follows.trans follows⟩

/-- **The life of a task row.**  In every run from well-formed rows all rows are well
formed, each action moves each task by at most one allowed status change, and over the
whole run its request stays, its attempts do not decrease and an end stays an end. -/
theorem task_rows_sound {db : Database} (formed : AllWellFormed db)
    (actions : List (Action Disk)) :
    (taskWriters lance).Always AllWellFormed db actions ∧
      (taskWriters lance).Along (fun before _ after => Carries Moves before after) db actions ∧
      ∀ after, (taskWriters lance).run db actions = some after → Carries Follows db after := by
  refine ⟨⟨formed, Machine.along_of_step (fun before action after held stepped => ?_) formed _⟩,
    Machine.along_of_step (fun before action after held stepped => ?_) formed _,
    fun after ran => carries_run ran⟩
  · obtain rfl := Option.some.inj stepped
    have evolves : Evolves before (act lance before action) := evolves_act before action
    exact ⟨evolves.allWellFormed held, evolves.allWellFormed held⟩
  · obtain rfl := Option.some.inj stepped
    have evolves : Evolves before (act lance before action) := evolves_act before action
    exact ⟨evolves.allWellFormed held, evolves.carries⟩

end Steps

section Examples

/-- A task fails once, is retried, loses its worker and succeeds on its second claim. -/
def failedOnce : List (Action Unit) :=
  [ .call (.submitTask acmeSdk 0 "t1" .compaction),
    .call (.registerWorker daemonContext 0 "l1" { workerId := "w1", workerType := "lifecycle" }),
    .call (.claimNextTask daemonContext 1 "w1" "l1" none),
    .call (.failTask daemonContext 2 "w1" "t1" "RuntimeError" "boom"),
    .call (.retryTask acmeSdk "t1"),
    .call (.claimNextTask daemonContext 3 "w1" "l1" none),
    .call (.reapDeadWorkers daemonContext 60 30),
    .call (.heartbeat daemonContext 61 "w1" "l1"),
    .call (.claimNextTask daemonContext 62 "w1" "l1" none),
    .call (.completeTask daemonContext 63 "w1" "t1" none) ]

example : ((taskWriters noTables).run {} failedOnce).map
    (fun db => db.task.rows.map fun task => (task.status, task.attempt)) =
      some [(.succeeded, 2)] := by
  decide

theorem task_rows_sound_failedOnce :
    (taskWriters noTables).Always AllWellFormed {} failedOnce ∧
      (taskWriters noTables).Along (fun before _ after => Carries Moves before after) {}
        failedOnce ∧
      ∀ after, (taskWriters noTables).run {} failedOnce = some after → Carries Follows {} after :=
  task_rows_sound (by simp [AllWellFormed]) failedOnce

end Examples

end Lcp.TaskRows
