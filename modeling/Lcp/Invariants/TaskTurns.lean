/-
# Invariants.TaskTurns -- what one action does to one task

`Evolves` says which changes of a row are allowed.  Counting needs more: which assignments of
the source a row went through.  A `Turn` names them, one constructor for each function that
writes a task, with the test that the function makes first.

* `turned_act`: every action gives every row at most one turn and appends fresh rows.
* `Turned.row`: the same, of the row of one uuid.
-/
import Lcp.Invariants.TaskRows

namespace Lcp.TaskRows

open Theory

set_option autoImplicit false

/-- The row after one action: as it was, or through the assignments of one function. -/
inductive Turn (task : Task) : Task → Prop
  | idle : Turn task task
  | claimed {taskType : Option TaskType} (wanted : task.dispatchable taskType = true)
      (workerId : String) (now : DateTime) : Turn task (task.claim workerId now)
  | succeeded (running : task.status = .running) (now : DateTime) (result : Option JsonDict) :
      Turn task (task.complete now result)
  | failed (running : task.status = .running) (now : DateTime) (errorCode errorMessage : String) :
      Turn task (task.fail now errorCode errorMessage)
  | requeued (running : task.status = .running) : Turn task task.requeue
  | cancelled (cancellable : task.cancellable = true) (now : DateTime) :
      Turn task (task.cancel now)
  | retried (failed : task.status = .failed) (budget : task.attempt < task.maxAttempts) :
      Turn task task.retry

theorem Turn.taskUuid {before after : Task} (turn : Turn before after) :
    after.taskUuid = before.taskUuid := by
  cases turn <;> rfl

/-- Every row takes its turn, and fresh rows are appended. -/
def Turned (before after : Database) : Prop :=
  ∃ (step : Task → Task) (fresh : List Task),
    after.task.rows = before.task.rows.map step ++ fresh ∧
      (∀ task ∈ before.task.rows, Turn task (step task)) ∧ ∀ task ∈ fresh, Fresh task

theorem Grows.turned {before after : Database} (grown : Grows before after) :
    Turned before after := by
  obtain ⟨fresh, rows, allFresh⟩ := grown
  exact ⟨id, fresh, by simpa using rows, fun _ _ => .idle, allFresh⟩

theorem Turned.refl (db : Database) : Turned db db := (Grows.of_same rfl).turned

theorem turned_update {db : Database} {taskUuid : String} {assign : Task → Task}
    (keeps : ∀ task, (assign task).taskUuid = task.taskUuid)
    {registry : Table WorkerRegistry WorkerRegistry.workerId} {task : Task}
    (found : db.task.get taskUuid = some task) (turn : Turn task (assign task)) :
    Turned db { db with
      task := db.task.update taskUuid assign keeps, workerRegistry := registry } := by
  refine ⟨fun row => if row.taskUuid = taskUuid then assign row else row, [], by simp,
    fun row inTable => ?_, by simp⟩
  show Turn row (if row.taskUuid = taskUuid then assign row else row)
  split
  · rename_i same
    obtain rfl : row = task := Table.eq_of_key_eq inTable (Table.mem_of_get found)
      (same.trans (Table.key_of_get found).symm)
    exact turn
  · exact .idle

theorem turned_reap (stale : List WorkerRegistry) (db : Database) :
    Turned db (stale.foldl (fun db worker => SchedulerService.reapWorker worker db) db) := by
  refine ⟨Task.requeueFrom stale, [], by simp [SchedulerService.reap_task_rows],
    fun task _ => ?_, by simp⟩
  unfold Task.requeueFrom
  split
  · rename_i owned
    obtain ⟨worker, -, running⟩ := List.any_eq_true.1 owned
    exact .requeued (Task.runningOn_iff.1 running).1
  · exact .idle

theorem turned_of_effect {db after : Database} {op : Operation} (effect : Effect db op after) :
    Turned db after := by
  cases effect with
  | nothing | registered | reregistered | beat | drained => exact (Grows.of_same rfl).turned
  | submitted bound inserted first =>
      exact ((Grows.of_same rfl).insert (by simp [Fresh, TaskService.Submission.row])
        inserted).turned
  | cancelled got cancellable =>
      exact turned_update (Task.taskUuid_cancel _) (TaskService.getTask_eq_ok got).1
        (.cancelled cancellable _)
  | retried got failed budget =>
      exact turned_update Task.taskUuid_retry (TaskService.getTask_eq_ok got).1
        (.retried failed budget)
  | claimed found admitted member wanted =>
      exact turned_update (Task.taskUuid_claim _ _) (Table.get_of_mem member)
        (.claimed wanted _ _)
  | completed found owned =>
      exact turned_update (Task.taskUuid_complete _ _) found
        (.succeeded (Task.runningOn_iff.1 owned).1 _ _)
  | failed found owned =>
      exact turned_update (Task.taskUuid_fail _ _ _) found
        (.failed (Task.runningOn_iff.1 owned).1 _ _ _)
  | reaped => exact turned_reap _ db

section Steps

variable {Disk : Type} {lance : Pylance Disk}

/-- Outside the task and scheduler services an action only appends rows. -/
theorem grows_act {db : Database} {action : Action Disk} (emits : ∀ op, action ≠ .call op) :
    Grows db (act lance db action) := by
  have grown : Grows db db := .of_same rfl
  cases action with
  | call op => exact absurd rfl (emits op)
  | submitTask principal now taskUuid args =>
      simp only [act]
      split
      · rename_i answer after ran
        obtain ⟨caller, -, ⟨-, rfl, -⟩ | ⟨-, -, inserted⟩⟩ := TaskService.submitTask_cases ran
        · exact grown
        · exact grown.insert (by simp [Fresh, TaskService.Submission.row]) inserted
      · exact grown
  | planOnce principal draw now =>
      simp only [act]
      split
      · rename_i report after ran
        have admits : Emission.Admits (Grows db) :=
          fun _ _ _ _ _ _ _ _ held _ inserted =>
            held.insert (fresh_taskRow _ _ _ _ _ _) inserted
        exact LifecyclePlannerService.planOnce_keeps admits (fun _ _ held => held) grown ran
      · exact grown
  | runWatchPass principal draw now disk =>
      simp only [act]
      split
      · rename_i report after ran
        refine IndexWatcherService.runWatchPass_keeps
          (fun candidate _ key taskUuid before next held parent _ emitted => ?_) grown ran
        obtain ⟨params, inserted⟩ := emitted
        have flipped : Grows db (IndexWatcherService.flipIndex now candidate.index.id before) :=
          held
        exact flipped.insert (fresh_taskRow _ _ _ _ _ _) inserted
      · exact grown
  | elsewhere others => exact Grows.of_same rfl

theorem turned_act (db : Database) (action : Action Disk) : Turned db (act lance db action) := by
  by_cases call : ∃ op, action = .call op
  · obtain ⟨op, rfl⟩ := call
    exact turned_of_effect (effect_of_apply db op)
  · exact (grows_act fun op same => call ⟨op, same⟩).turned

end Steps

/-! ## The row of one uuid -/

/-- What an action does to one task that there may be. -/
inductive RowTurn : Option Task → Option Task → Prop
  | absent : RowTurn none none
  | inserted {task : Task} (fresh : Fresh task) : RowTurn none (some task)
  | turned {before after : Task} (turn : Turn before after) : RowTurn (some before) (some after)

theorem Turned.row {before after : Database} (turned : Turned before after) (taskUuid : String) :
    RowTurn (before.task.get taskUuid) (after.task.get taskUuid) := by
  obtain ⟨step, fresh, rows, turns, allFresh⟩ := turned
  cases found : before.task.get taskUuid with
  | some task =>
      have turn := turns task (Table.mem_of_get found)
      have member : step task ∈ after.task.rows := by
        rw [rows]
        exact List.mem_append_left _ (List.mem_map_of_mem (Table.mem_of_get found))
      have later : after.task.get taskUuid = some (step task) :=
        Table.get_eq_some.2 ⟨member, turn.taskUuid.trans (Table.key_of_get found)⟩
      rw [later]
      exact .turned turn
  | none =>
      cases appeared : after.task.get taskUuid with
      | none => exact .absent
      | some task =>
          have member := Table.mem_of_get appeared
          rw [rows] at member
          rcases List.mem_append.1 member with moved | new
          · obtain ⟨old, inTable, rfl⟩ := List.mem_map.1 moved
            have same : old.taskUuid = taskUuid :=
              (turns old inTable).taskUuid.symm.trans (Table.key_of_get appeared)
            exact absurd same (Table.get_eq_none.1 found old inTable)
          · exact .inserted (allFresh task new)

end Lcp.TaskRows
