/-
# Invariants.RetryBudget -- when a waiting task can still be claimed

`claim_next_task` hands out a waiting task only while `attempt < max_attempts`.
A claim sets `attempt` to 1, a retry adds one to it, and the reaper leaves it
alone, so a task can come back to PENDING with its budget already spent: then no
worker ever picks it up.  `noStuckBacklog_iff` says exactly which runs avoid it.
-/
import Lcp.Services.Operations

namespace Lcp.RetryBudget

open Theory

set_option autoImplicit false

/-- Every task that waits for a worker passes the dispatch predicate. -/
def NoStuckBacklog (db : Database) : Prop :=
  ∀ task ∈ db.task.rows, task.status = .pending ∨ task.status = .queued →
    task.dispatchable none = true

instance (db : Database) : Decidable (NoStuckBacklog db) := by
  unfold NoStuckBacklog; infer_instance

/-- The call requeues only tasks whose budget the requeued attempt leaves open:
an accepted retry must not use up the last attempt, and a stale worker must not
own a RUNNING task that is on its last attempt. -/
def RequeuesWithinBudget (db : Database) : Operation → Prop
  | .retryTask principal taskUuid =>
      ∀ task, TaskService.getTask principal taskUuid db = .ok task →
        task.checkRetry = .ok () → task.attempt + 1 < task.maxAttempts
  | .reapDeadWorkers principal now timeout =>
      requireSystemContext principal = true →
        ∀ worker ∈ db.workerRegistry.rows, worker.stale now timeout = true →
          ∀ task ∈ db.task.rows, task.runningOn worker.workerId = true →
            task.attempt < task.maxAttempts
  | _ => True

instance (db : Database) (op : Operation) : Decidable (RequeuesWithinBudget db op) :=
  match op with
  | .retryTask principal taskUuid =>
      match got : TaskService.getTask principal taskUuid db with
      | .error _ => isTrue fun task other => by simp [got] at other
      | .ok task =>
          decidable_of_iff (task.checkRetry = .ok () → task.attempt + 1 < task.maxAttempts)
            ⟨fun within other same => by
              obtain rfl := Except.ok.inj (got.symm.trans same)
              exact within, fun within => within task got⟩
  | .reapDeadWorkers principal now timeout => by
      unfold RequeuesWithinBudget
      infer_instance
  | .submitTask .. | .cancelTask .. | .registerWorker .. | .heartbeat .. | .drainWorker ..
  | .claimNextTask .. | .completeTask .. | .failTask .. => isTrue trivial

/-- Rewriting one row by an assignment whose result can be claimed, or does not
wait, keeps the backlog claimable. -/
theorem update_keeps {db : Database} (held : NoStuckBacklog db) {taskUuid : String}
    (assign : Task → Task) (keeps : ∀ task, (assign task).taskUuid = task.taskUuid)
    (ok : ∀ task ∈ db.task.rows, task.taskUuid = taskUuid →
      (assign task).status = .pending ∨ (assign task).status = .queued →
        (assign task).dispatchable none = true)
    {registry : Table WorkerRegistry WorkerRegistry.workerId} :
    NoStuckBacklog { db with
      task := db.task.update taskUuid assign keeps, workerRegistry := registry } := by
  intro task member waiting
  rcases Table.of_mem_update member with ⟨row, inTable, same, rfl⟩ | ⟨inTable, -⟩
  · exact ok row inTable same waiting
  · exact held task inTable waiting

theorem insert_keeps {db after : Database} (held : NoStuckBacklog db) {row : Task}
    (inserted : TaskService.insertTask row db = some after)
    (budget : row.attempt < row.maxAttempts) : NoStuckBacklog after := by
  obtain ⟨table, added, rfl, -⟩ := TaskService.insertTask_eq_some inserted
  intro task member waiting
  rcases (Table.mem_insert? added).1 member with old | rfl
  · exact held task old waiting
  · exact Task.dispatchable_iff.2 ⟨waiting, budget, by simp⟩

theorem reap_keeps {db : Database} (held : NoStuckBacklog db) (stale : List WorkerRegistry)
    (within : ∀ worker ∈ stale, ∀ task ∈ db.task.rows,
      task.runningOn worker.workerId = true → task.attempt < task.maxAttempts) :
    NoStuckBacklog (stale.foldl (fun db worker => SchedulerService.reapWorker worker db) db) := by
  intro task member waiting
  rw [SchedulerService.reap_task_rows, List.mem_map] at member
  obtain ⟨row, inTable, rfl⟩ := member
  unfold Task.requeueFrom at waiting ⊢
  split at waiting
  · rename_i owned
    obtain ⟨worker, isStale, running⟩ := List.any_eq_true.1 owned
    rw [if_pos owned]
    exact Task.dispatchable_iff.2 ⟨waiting, within worker isStale row inTable running, by simp⟩
  · rename_i free
    rw [if_neg free]
    exact held row inTable waiting

/-- One call: within budget, the backlog stays claimable. -/
theorem apply_keeps {db : Database} {op : Operation} (held : NoStuckBacklog db)
    (within : RequeuesWithinBudget db op) : NoStuckBacklog (op.apply db) := by
  unfold Operation.apply
  cases ran : op.exec db with
  | none => exact held
  | some after =>
      cases effect_of_exec ran with
      | nothing => exact held
      | @submitted principal now taskUuid request caller after bound inserted =>
          exact insert_keeps held inserted request.maxAttempts_bounds.1
      | @cancelled _ now =>
          exact update_keeps held (Task.cancel now) (Task.taskUuid_cancel now)
            (by simp [Task.cancel])
      | @retried principal taskUuid task got failed budget =>
          have found := (TaskService.getTask_eq_ok got).1
          refine update_keeps held Task.retry Task.taskUuid_retry fun row inTable same _ => ?_
          obtain rfl : row = task := Table.eq_of_key_eq inTable (Table.mem_of_get found)
            (same.trans (Table.key_of_get found).symm)
          exact Task.dispatchable_iff.2 ⟨.inl rfl,
            within row got (Task.checkRetry_eq_ok.2 ⟨failed, budget⟩), by simp⟩
      | registered => exact held
      | reregistered => exact held
      | beat => exact held
      | drained => exact held
      | @claimed _ now workerId =>
          exact update_keeps held (Task.claim workerId now)
            (Task.taskUuid_claim workerId now) (by simp [Task.claim])
      | @completed _ now _ _ result =>
          exact update_keeps held (Task.complete now result)
            (Task.taskUuid_complete now result) (by simp [Task.complete])
      | @failed _ now _ _ errorCode errorMessage =>
          exact update_keeps held (Task.fail now errorCode errorMessage)
            (Task.taskUuid_fail now errorCode errorMessage) (by simp [Task.fail])
      | reaped system =>
          refine reap_keeps held _ fun worker isStale => ?_
          obtain ⟨inTable, old⟩ := List.mem_filter.1 isStale
          exact within system worker inTable old

/-- One call: outside the budget, the requeued row is stuck. -/
theorem within_of_apply {db : Database} {op : Operation} (after : NoStuckBacklog (op.apply db)) :
    RequeuesWithinBudget db op := by
  cases op with
  | retryTask principal taskUuid =>
      intro task got checked
      have found := (TaskService.getTask_eq_ok got).1
      rw [apply_retryTask got checked] at after
      have member : task.retry ∈ (db.task.update taskUuid Task.retry Task.taskUuid_retry).rows :=
        Table.mem_update_self (Table.mem_of_get found) (Table.key_of_get found)
      exact (Task.dispatchable_iff.1 (after _ member (.inl rfl))).2.1
  | reapDeadWorkers principal now timeout =>
      intro system worker inTable old task member running
      rw [apply_reapDeadWorkers system] at after
      have owned : (db.workerRegistry.rows.filter (WorkerRegistry.stale now timeout)).any
          (fun worker => task.runningOn worker.workerId) = true :=
        List.any_eq_true.2 ⟨worker, List.mem_filter.2 ⟨inTable, old⟩, running⟩
      have requeued : task.requeue ∈ ((db.workerRegistry.rows.filter
          (WorkerRegistry.stale now timeout)).foldl
            (fun db worker => SchedulerService.reapWorker worker db) db).task.rows := by
        rw [SchedulerService.reap_task_rows, List.mem_map]
        exact ⟨task, member, by simp [Task.requeueFrom, owned]⟩
      exact (Task.dispatchable_iff.1 (after _ requeued (.inl rfl))).2.1
  | _ => trivial

/-- **The backlog stays claimable exactly when every requeue is within budget.**
Over every run of the services from any claimable backlog. -/
theorem noStuckBacklog_iff {db : Database} (start : NoStuckBacklog db) (ops : List Operation) :
    controlPlane.Always NoStuckBacklog db ops ↔
      controlPlane.Guarded RequeuesWithinBudget db ops := by
  refine Machine.always_iff_guarded (J := fun _ => True) (fun _ _ _ _ _ => trivial) ?_ trivial
    start
  rintro db op after - held stepped
  obtain rfl : op.apply db = after := by simpa using stepped
  exact ⟨within_of_apply, apply_keeps held⟩

section Runs

/-- A tenant submits one task, a worker registers and claims it. -/
def claimedOnce (maxAttempts : Nat) (bounds : 1 ≤ maxAttempts ∧ maxAttempts ≤ 20) :
    List Operation :=
  [ .submitTask acmeSdk 0 "t1"
      { TaskSubmitRequest.compaction with maxAttempts, maxAttempts_bounds := bounds },
    .registerWorker daemonContext 0 "lease1" { workerId := "w1", workerType := "lifecycle" },
    .claimNextTask daemonContext 1 "w1" "lease1" none ]

/-- The worker of a task with one attempt dies and the reaper requeues the task. -/
def reapedOnLastAttempt : List Operation :=
  claimedOnce 1 (by decide) ++ [.reapDeadWorkers daemonContext 60 30]

/-- The first attempt of two fails and the tenant asks for the second one. -/
def retriedToLastAttempt : List Operation :=
  claimedOnce 2 (by decide) ++
    [.failTask daemonContext 2 "w1" "t1" "DATASET_NOT_FOUND" "no such dataset",
      .retryTask acmeSdk "t1"]

/-- Both requeues leave a PENDING task that no claim ever selects. -/
theorem backlog_stuck :
    ¬ controlPlane.Always NoStuckBacklog {} reapedOnLastAttempt ∧
      ¬ controlPlane.Always NoStuckBacklog {} retriedToLastAttempt :=
  ⟨Machine.not_always_of_run rfl (by decide), Machine.not_always_of_run rfl (by decide)⟩

/-- With three attempts the same requeues stay claimable. -/
theorem noStuckBacklog_within :
    controlPlane.Always NoStuckBacklog {} (claimedOnce 3 (by decide) ++
      [.failTask daemonContext 2 "w1" "t1" "DATASET_NOT_FOUND" "no such dataset",
        .retryTask acmeSdk "t1", .claimNextTask daemonContext 3 "w1" "lease1" none,
        .reapDeadWorkers daemonContext 60 30]) :=
  (noStuckBacklog_iff (by decide) _).2 (by decide)

end Runs

end Lcp.RetryBudget
