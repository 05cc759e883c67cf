/-
# Invariants.TaskAccounts -- the books of one task

What happened to a task in a run is read off its status before and after each action
(`observe`), and `times` counts each kind of event.  The counters are in no column; the row
carries one of them only, `attempt`.

* `task_accounts`: from a database without the task the books balance in every run: a claim is
  settled by exactly one success, failure, requeue or cancellation unless the task still runs, and
  a task waits once for its submission, once for each requeue and once for each retry.  `attempt`
  counts the retries and the first claim, and no claim after a requeue.
* `Balanced.failed_le`: so `max_attempts` bounds the failures, by one less than it says from 2 on.
* `crash_loop`: it does not bound the claims.  A task that kills each worker it is given to is
  handed out for as long as workers register.
-/
import Lcp.Invariants.TaskTurns
import Lcp.Theory.Tallies

namespace Lcp.TaskRows

open Theory

set_option autoImplicit false

/-- What can happen to a task. -/
inductive Event where
  | submitted
  | claimed
  | succeeded
  | failed
  | requeued
  | retried
  /-- Cancelled while it waited. -/
  | withdrawn
  /-- Cancelled while it ran. -/
  | cancelled
  deriving DecidableEq, Repr

/-- What happened between two readings of a row. -/
def observe (before after : Option Task) : Option Event :=
  match before.map Task.status, after.map Task.status with
  | none, some _ => some .submitted
  | some .pending, some .running | some .queued, some .running => some .claimed
  | some .running, some .succeeded => some .succeeded
  | some .running, some .failed => some .failed
  | some .running, some .pending => some .requeued
  | some .failed, some .pending => some .retried
  | some .pending, some .cancelled | some .queued, some .cancelled => some .withdrawn
  | some .running, some .cancelled => some .cancelled
  | _, _ => none

/-- 1 if the event happened to the task. -/
def occurs (taskUuid : String) (event : Event) (before after : Database) : Nat :=
  if observe (before.task.get taskUuid) (after.task.get taskUuid) = some event then 1 else 0

/-- How often an event happened to a task in a run. -/
def times {Disk : Type} (lance : Pylance Disk) (taskUuid : String) (event : Event)
    (db : Database) (actions : List (Action Disk)) : Nat :=
  (taskWriters lance).tally (fun before _ after => occurs taskUuid event before after) db actions

/-- The books of a task that is there. -/
structure Balanced (count : Event → Nat) (task : Task) : Prop where
  submitted : count .submitted = 1
  /-- Each claim has one outcome, or the task runs. -/
  claims : count .claimed = count .succeeded + count .failed + count .requeued +
    count .cancelled + if task.status = .running then 1 else 0
  /-- Each wait ends with a claim or a withdrawal, or the task waits. -/
  waits : count .submitted + count .requeued + count .retried = count .claimed +
    count .withdrawn + if task.status = .pending ∨ task.status = .queued then 1 else 0
  /-- Each failure is retried, or the task is FAILED. -/
  failures : count .failed = count .retried + if task.status = .failed then 1 else 0
  /-- An end comes once. -/
  ends : count .succeeded + count .cancelled + count .withdrawn =
    if task.status = .succeeded ∨ task.status = .cancelled then 1 else 0
  attempt : task.attempt = count .retried + min (count .claimed) 1
  /-- `max_attempts` bounds the claims that no requeue undid. -/
  budget : count .claimed ≤ max 1 (task.maxAttempts - 1) + count .requeued

/-- The books of a task that may not be there yet. -/
def Accounts (count : Event → Nat) : Option Task → Prop
  | none => ∀ event, count event = 0
  | some task => Balanced count task

/-- **At most `max_attempts - 1` failures**, or one where `max_attempts` is 1. -/
theorem Balanced.failed_le {count : Event → Nat} {task : Task} (books : Balanced count task) :
    count .failed ≤ max 1 (task.maxAttempts - 1) := by
  have claims := books.claims
  have budget := books.budget
  omega

/-! ## One action -/

theorem observe_of_status {before after : Task} (same : after.status = before.status) :
    observe (some before) (some after) = none := by
  cases status : before.status <;> simp [observe, same, status]

theorem Balanced.turn {count : Event → Nat} {before after : Task} (books : Balanced count before)
    (turn : Turn before after) :
    Balanced (fun event => count event +
      if observe (some before) (some after) = some event then 1 else 0) after := by
  have submitted := books.submitted
  have claims := books.claims
  have waits := books.waits
  have failures := books.failures
  have ends := books.ends
  have attempt := books.attempt
  have budget := books.budget
  cases turn with
  | idle => simpa [observe_of_status] using books
  | claimed wanted workerId now =>
      obtain ⟨waiting, room, -⟩ := Task.dispatchable_iff.1 wanted
      have seen : observe (some before) (some (before.claim workerId now)) = some .claimed := by
        rcases waiting with status | status <;> simp [observe, status, Task.claim]
      have idle : before.status ≠ .running ∧ before.status ≠ .failed ∧
          before.status ≠ .succeeded ∧ before.status ≠ .cancelled := by
        rcases waiting with status | status <;> simp [status]
      simp only [waiting, idle, if_true, if_false, or_self] at claims waits failures ends
      -- the first claim counts as an attempt, and the budget is tested before it is spent
      have first : (if before.attempt = 0 then 1 else before.attempt) = count .retried + 1 := by
        split <;> omega
      simp only [seen]
      constructor <;> simp [Task.claim, first] <;> omega
  | succeeded running now result =>
      have seen : observe (some before) (some (before.complete now result)) = some .succeeded := by
        simp [observe, running, Task.complete]
      simp only [running, reduceCtorEq, or_self, if_true, if_false] at claims waits failures ends
      simp only [seen]
      constructor <;> simp [Task.complete] <;> omega
  | failed running now errorCode errorMessage =>
      have seen : observe (some before) (some (before.fail now errorCode errorMessage)) =
          some .failed := by simp [observe, running, Task.fail]
      simp only [running, reduceCtorEq, or_self, if_true, if_false] at claims waits failures ends
      simp only [seen]
      constructor <;> simp [Task.fail] <;> omega
  | requeued running =>
      have seen : observe (some before) (some before.requeue) = some .requeued := by
        simp [observe, running, Task.requeue]
      simp only [running, reduceCtorEq, or_self, if_true, if_false] at claims waits failures ends
      simp only [seen]
      constructor <;> simp [Task.requeue] <;> omega
  | cancelled cancellable now =>
      have waiting : before.status = .pending ∨ before.status = .queued ∨
          before.status = .running := by simpa [Task.cancellable] using cancellable
      rcases waiting with status | status | status
      all_goals
        simp only [status, reduceCtorEq, or_self, or_false, false_or, if_true, if_false]
          at claims waits failures ends
        constructor <;> simp [observe, status, Task.cancel] <;> omega
  | retried failed room =>
      have seen : observe (some before) (some before.retry) = some .retried := by
        simp [observe, failed, Task.retry]
      simp only [failed, reduceCtorEq, or_self, if_true, if_false] at claims waits failures ends
      simp only [seen]
      constructor <;> simp [Task.retry] <;> omega

theorem accounts_turn {count : Event → Nat} {before after : Option Task}
    (books : Accounts count before) (turn : RowTurn before after) :
    Accounts (fun event => count event +
      if observe before after = some event then 1 else 0) after := by
  cases turn with
  | absent =>
      intro event
      simp [books event, observe]
  | @inserted task fresh =>
      obtain ⟨status, attempt, -⟩ := fresh
      have seen : observe none (some task) = some .submitted := rfl
      constructor <;> simp [seen, books _, status, attempt]
  | turned turn => exact Balanced.turn books turn

/-! ## Whole runs -/

section Runs

variable {Disk : Type} {lance : Pylance Disk}

/-- **The books balance.**  From a database that does not have the task, in every run of
everything that writes task rows. -/
theorem task_accounts {db after : Database} {taskUuid : String} {actions : List (Action Disk)}
    (absent : db.task.get taskUuid = none) (ran : (taskWriters lance).run db actions = some after) :
    Accounts (fun event => times lance taskUuid event db actions) (after.task.get taskUuid) ∧
      ∀ task, after.task.get taskUuid = some task →
        times lance taskUuid .failed db actions ≤ max 1 (task.maxAttempts - 1) := by
  have books : Accounts (fun event => times lance taskUuid event db actions)
      (after.task.get taskUuid) := by
    have always : (taskWriters lance).Along (fun _ _ _ => True) db actions :=
      Machine.along_of_step (I := fun _ => True) (fun _ _ _ _ _ => ⟨trivial, trivial⟩) trivial _
    have start : Accounts (fun _ => 0) (db.task.get taskUuid) := by
      rw [absent]
      exact fun _ => rfl
    have closed := Machine.inv_tally (I := fun count db => Accounts count (db.task.get taskUuid))
      (w := fun event before _ after => occurs taskUuid event before after)
      (fun count before action next held _ stepped => by
        obtain rfl := Option.some.inj stepped
        exact accounts_turn held ((turned_act before action).row taskUuid)) start always ran
    simp only [Nat.zero_add] at closed
    exact closed
  refine ⟨books, fun task found => ?_⟩
  rw [found] at books
  exact Balanced.failed_le books

end Runs

section Poles

/-- The task of `failedOnce` fails once, is requeued once and claimed three times. -/
theorem task_accounts_failedOnce :
    ∃ after, (taskWriters noTables).run {} failedOnce = some after ∧
      Accounts (fun event => times noTables "t1" event {} failedOnce) (after.task.get "t1") ∧
      times noTables "t1" .failed {} failedOnce = 1 ∧
      times noTables "t1" .requeued {} failedOnce = 1 ∧
      times noTables "t1" .claimed {} failedOnce = 3 :=
  ⟨_, rfl, (task_accounts rfl rfl).1, by decide +kernel, by decide +kernel, by decide +kernel⟩

/-! ### A task that kills its workers -/

def poison : Task :=
  { taskUuid := "t1", taskType := .compaction, datasetUuid := "d1", tenantId := "acme",
    attempt := 1, createdAt := 0 }

def victim (status : WorkerStatus) (inFlight : Nat) (beat : DateTime) : WorkerRegistry :=
  { workerId := "w1", workerType := "lifecycle", leaseId := "l1", status, inFlight,
    lastHeartbeatAt := beat }

/-- The worker was buried and the task waits. -/
def crashed (beat : DateTime) : Database :=
  { task := Table.single poison, workerRegistry := Table.single (victim .dead 0 beat) }

/-- The worker is up again. -/
def restarted (now : DateTime) : Database :=
  { task := Table.single poison, workerRegistry := Table.single (victim .alive 0 now) }

/-- It has claimed the task. -/
def doomed (now : DateTime) : Database :=
  { task := Table.single (poison.claim "w1" now)
    workerRegistry := Table.single (victim .alive 1 now) }

/-- The worker comes up, claims, and is not heard of again. -/
def crash (now : DateTime) : List (Action Unit) :=
  [ .call (.registerWorker daemonContext now "l1" { workerId := "w1", workerType := "lifecycle" }),
    .call (.claimNextTask daemonContext now "w1" "l1" none),
    .call (.reapDeadWorkers daemonContext (now + 60) 30) ]

theorem act_reap (now : DateTime) :
    act noTables (doomed now) (.call (.reapDeadWorkers daemonContext (now + 60) 30)) =
      crashed now := by
  have late : (victim .alive 1 now).stale (now + 60) 30 = true := by
    have later : ∀ t : Int, t < t + 60 - 30 := fun t => by omega
    simpa [WorkerRegistry.stale, victim] using later now
  have stale : [victim .alive 1 now].filter (WorkerRegistry.stale (now + 60) 30) =
      [victim .alive 1 now] := by simp [late]
  have system : requireSystemContext daemonContext = true := rfl
  simp only [act, Operation.apply, Operation.exec, SchedulerService.reapDeadWorkers, system]
  simp [doomed, Table.single, stale]
  rfl

/-- A crash leads from one crash to the next. -/
theorem run_crash (beat now : DateTime) (rest : List (Action Unit)) :
    (taskWriters noTables).run (crashed beat) (crash now ++ rest) =
      (taskWriters noTables).run (crashed now) rest := by
  rw [← act_reap now]
  rfl

/-- It is one claim and one requeue. -/
theorem times_crash (beat now : DateTime) (rest : List (Action Unit)) (event : Event) :
    times noTables "t1" event (crashed beat) (crash now ++ rest) =
      (if event = .claimed ∨ event = .requeued then 1 else 0) +
        times noTables "t1" event (crashed now) rest := by
  have registers : occurs "t1" event (crashed beat) (restarted now) = 0 := by
    cases event <;> rfl
  have claims : occurs "t1" event (restarted now) (doomed now) =
      if event = .claimed then 1 else 0 := by
    cases event <;> rfl
  have requeues : occurs "t1" event (doomed now) (crashed now) =
      if event = .requeued then 1 else 0 := by
    cases event <;> rfl
  have taken : times noTables "t1" event (crashed beat) (crash now ++ rest) =
      occurs "t1" event (crashed beat) (restarted now) +
        (occurs "t1" event (restarted now) (doomed now) +
          (occurs "t1" event (doomed now) (crashed now) +
            times noTables "t1" event (crashed now) rest)) := by
    rw [← act_reap now]
    rfl
  rw [taken, registers, claims, requeues]
  cases event <;> simp

/-- **The crash loop.**  The reaper spends no attempt: after any number of workers that died of it
the task has not failed once, counts one attempt and is handed out again. -/
theorem crash_loop (clocks : List DateTime) (beat : DateTime) :
    (taskWriters noTables).run (crashed beat) (clocks.flatMap crash) =
        some (crashed (clocks.getLastD beat)) ∧
      times noTables "t1" .claimed (crashed beat) (clocks.flatMap crash) = clocks.length ∧
      times noTables "t1" .failed (crashed beat) (clocks.flatMap crash) = 0 := by
  induction clocks generalizing beat with
  | nil => exact ⟨rfl, rfl, rfl⟩
  | cons now later ih =>
      obtain ⟨ran, claimed, failed⟩ := ih now
      rw [List.flatMap_cons, run_crash, times_crash, times_crash]
      refine ⟨?_, ?_, by simpa using failed⟩
      · rw [List.getLastD_cons]
        exact ran
      · simp [claimed]
        omega

/-- The loop is reached from an empty database. -/
example : (taskWriters noTables).run {}
    (.call (.submitTask acmeSdk 0 "t1" .compaction) :: crash 0) =
    some (crashed 0) := rfl

end Poles

end Lcp.TaskRows
