/-
# Sessions.AttendedTasks -- who is going to finish a RUNNING task

A worker's session claims a task, runs its executor and finishes it.  In between other
sessions may cancel the task, requeue it, hand it to another worker and finish it
there; the session works from its copy throughout.

* `attended_step`: a step keeps every task that is RUNNING on a worker attended by a
  session of `who`, as long as only these sessions claim for the worker and none of them is
  closed over its task.
* `running_attended`: so it is in every interleaving, for any number of sessions.

What is RUNNING on a worker without a session that will finish it was claimed by a
session that was killed.
-/
import Lcp.Sessions.LostUpdates
import Lcp.Sessions.WorkerRows

namespace Lcp.Sessions

open Theory World

set_option autoImplicit false

/-! ## Sessions that will finish a task -/

/-- The session holds the task under the worker's name and goes on to finish it. -/
def Session.attends (workerId taskUuid : String) : Session → Bool
  | .claimed owner uuid => owner = workerId ∧ uuid = taskUuid
  | .running owner copy =>
      owner = workerId ∧ copy.taskUuid = taskUuid ∧ copy.runningOn workerId = true
  | .writing (.finish owner copy _ _) _ => owner = workerId ∧ copy.taskUuid = taskUuid
  | _ => false

/-- Every task RUNNING on the worker has a session of `who` that will finish it. -/
def AttendedBy (who : Nat → Bool) (workerId : String) (s : World) : Prop :=
  ∀ task ∈ s.db.task.rows, task.runningOn workerId = true →
    ∃ i, who i = true ∧ (s.session i).attends workerId task.taskUuid = true

/-- Only sessions of `who` claim for the worker, and none of them is closed over a task that
is RUNNING on it. -/
def spares (who : Nat → Bool) (workerId : String) (s : World) : Action → Bool
  | .close i =>
      !who i || s.db.task.rows.all fun task =>
        !(task.runningOn workerId && (s.session i).attends workerId task.taskUuid)
  | .commit i =>
      match s.session i with
      | .writing (.claim worker _ _) _ => worker.workerId ≠ workerId || who i
      | _ => true
  | _ => true

/-! ## One step of an attending session -/

section Own

variable {s t : World} {i : Nat} {workerId : String} {task : Task}

theorem attends_checkFinish {outcome : Outcome} {now : DateTime}
    (runs : task.runningOn workerId = true) :
    (checkFinish workerId task outcome now).attends workerId task.taskUuid = true := by
  unfold checkFinish
  rw [Task.checkOwned_eq_ok.2 runs]
  simp [Session.attends]

theorem attends_beginFinish {db : Database} {outcome : Outcome} {now : DateTime}
    (inRows : task ∈ db.task.rows) (runs : task.runningOn workerId = true) :
    (beginFinish db workerId task.taskUuid outcome now).attends workerId task.taskUuid = true := by
  have found : SchedulerService.getTask task.taskUuid db = .ok task := by
    simp [SchedulerService.getTask, Table.get_of_mem inRows]
  unfold beginFinish
  rw [found]
  exact attends_checkFinish runs

/-- A finished row is not RUNNING. -/
theorem stopped_of_finish {owner : String} {copy : Task} {outcome : Outcome} {now : DateTime}
    (sound : Sound s) (was : s.session i = .writing (.finish owner copy outcome now) 2)
    (inRows : task ∈ (s.committed i (.finish owner copy outcome now)).db.task.rows)
    (same : copy.taskUuid = task.taskUuid) : task.status ≠ .running := by
  have upheld := sound i
  rw [was] at upheld
  have table : (s.committed i (.finish owner copy outcome now)).db.task =
      s.db.task.update copy.taskUuid (Task.flush copy (outcome.assign now copy))
        (Task.taskUuid_flush copy (outcome.assign now copy)) := rfl
  rw [table] at inRows
  rcases Table.mem_update.1 inRows with ⟨row, -, -, rfl⟩ | ⟨-, other⟩
  · have wrote : (Task.flush copy (outcome.assign now copy) row).status = outcome.status :=
      wrote_finish outcome now upheld.1
    rw [wrote]
    cases outcome <;> simp [Outcome.status]
  · exact absurd same.symm other

/-- **An attending session attends until its task has stopped**, unless it is closed. -/
theorem attends_step {who : Nat → Bool} (sound : Sound s) {a : Action}
    (stepped : sessions.step s a = some t) (guard : spares who workerId s a = true)
    (mine : who a.session = true)
    (before : task ∈ s.db.task.rows) (after : task ∈ t.db.task.rows)
    (runs : task.runningOn workerId = true)
    (attending : (s.session a.session).attends workerId task.taskUuid = true) :
    (t.session a.session).attends workerId task.taskUuid = true := by
  change step s a = some t at stepped
  have unclosed : ∀ i, a = .close i →
      (s.session i).attends workerId task.taskUuid = true → False := by
    rintro i rfl attending
    have listed : who i = true := mine
    simp only [spares, listed, Bool.not_true, Bool.false_or, List.all_eq_true] at guard
    have spared := guard task before
    simp [runs, attending] at spared
  cases was : s.session a.session with
  | claimed owner uuid =>
      have held := attending
      rw [was] at held
      simp only [Session.attends, decide_eq_true_eq] at held
      obtain ⟨rfl, rfl⟩ := held
      cases a <;> simp only [Action.session] at was attending ⊢ <;>
        simp only [step, was] at stepped
      case refresh i =>
          rw [Table.get_of_mem before] at stepped
          cases stepped
          simp [Session.attends, runs]
      case close i => exact (unclosed i rfl attending).elim
      all_goals cases stepped
  | running owner copy =>
      have held := attending
      rw [was] at held
      simp only [Session.attends, decide_eq_true_eq] at held
      obtain ⟨rfl, same, copyRuns⟩ := held
      cases a <;> simp only [Action.session] at was attending ⊢ <;>
        simp only [step, was] at stepped
      case finalize i outcome now =>
          cases stepped
          rw [session_set, ← same]
          exact attends_checkFinish copyRuns
      case executorRaised i errorCode errorMessage now =>
          cases stepped
          rw [session_set, same]
          exact attends_beginFinish before runs
      case close i => exact (unclosed i rfl attending).elim
      all_goals cases stepped
  | writing call issued =>
      cases call with
      | finish owner copy outcome now =>
          have held := attending
          rw [was] at held
          simp only [Session.attends, decide_eq_true_eq] at held
          obtain ⟨rfl, same⟩ := held
          cases a <;> simp only [Action.session] at was attending ⊢ <;>
            simp only [step, was] at stepped
          case update i =>
              split at stepped
              · split at stepped
                · cases stepped
                  simp [Session.attends, same]
                · cases stepped
              · cases stepped
          case commit i =>
              split at stepped
              · rename_i all
                cases stepped
                rw [all] at was
                have stopped := stopped_of_finish sound was after same
                exact absurd (Task.runningOn_iff.1 runs).1 stopped
              · cases stepped
          case close i => exact (unclosed i rfl attending).elim
          all_goals cases stepped
      | claim | cancel | retry =>
          rw [was] at attending
          cases attending
  | idle | validated | reaping | tending | raised | rejected =>
      rw [was] at attending
      cases attending

end Own

/-! ## Every step, every run -/

/-- **A step leaves no task without a session to finish it.** -/
theorem attended_step {who : Nat → Bool} {workerId : String} {s t : World} {a : Action}
    (sound : Sound s) (attended : AttendedBy who workerId s)
    (guard : spares who workerId s a = true) (stepped : sessions.step s a = some t) :
    AttendedBy who workerId t := by
  have moved := step_move stepped
  intro task member runs
  rcases moved.running_origin sound member (Task.runningOn_iff.1 runs).1 with before | claim
  · obtain ⟨i, mine, attending⟩ := attended task before runs
    refine ⟨i, mine, ?_⟩
    by_cases other : i ≠ a.session
    · rwa [moved.session_other other]
    · obtain rfl : i = a.session := not_not.1 other
      exact attends_step sound stepped guard mine before member runs attending
  · -- A claim's session is the first that attends its task.
    obtain ⟨i, worker, copy, now, rfl, was, rfl, rfl⟩ := claim
    have owner : worker.workerId = workerId := Option.some.inj (Task.runningOn_iff.1 runs).2
    refine ⟨i, ?_, ?_⟩
    · simpa [spares, was, owner] using guard
    · simp [Call.next, Session.attends, owner, Task.taskUuid_claim]

/-- What the proof carries along a run. -/
structure Attending (who : Nat → Bool) (workerId : String) (s : World) : Prop where
  sound : Sound s
  attended : AttendedBy who workerId s

theorem Attending.step {who : Nat → Bool} {workerId : String} {s t : World} {a : Action}
    (inv : Attending who workerId s) (guard : spares who workerId s a = true)
    (stepped : sessions.step s a = some t) : Attending who workerId t :=
  ⟨(step_move stepped).sound inv.sound, attended_step inv.sound inv.attended guard stepped⟩

/-- **Every RUNNING task of a worker is attended**, in every interleaving in which no session
of the worker is killed over a task that is still RUNNING on it. -/
theorem running_attended {db : Database} {workerId : String} {as : List Action}
    (none_ : ∀ task ∈ db.task.rows, task.runningOn workerId = false)
    (guarded : sessions.Guarded (fun s a => spares (fun _ => true) workerId s a = true)
      (atRest db) as) :
    sessions.Always (AttendedBy (fun _ => true) workerId) (atRest db) as := by
  have start : Attending (fun _ => true) workerId (atRest db) := by
    refine ⟨sound_atRest db, fun task member runs => ?_⟩
    have idle : task.runningOn workerId = false := none_ task member
    rw [idle] at runs
    cases runs
  exact (Machine.always_of_inv (fun s a t before ok stepped => before.step ok stepped)
    start guarded).mono fun s inv => inv.attended

/-- The reaper hands the task of a slow worker to the other; the slow session is closed late. -/
theorem running_attended_reaped :
    sessions.Always (AttendedBy (fun _ => true) "a") (atRest (twoWorkers .pending 0))
      (claimed 0 "a" "lease-a" 100 ++ reapedOne 1 100 ++ claimed 2 "b" "lease-b" 101 ++
        completed 2 102 ++ [.close 0]) :=
  running_attended (by decide) (by decide)

end Lcp.Sessions
