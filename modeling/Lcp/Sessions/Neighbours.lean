/-
# Sessions.Neighbours -- a process among the sessions of others

A process owns a few sessions and uses a worker id that no other process uses.  What it
can count on, whatever the others do:

* `Rested`: a session it is not using stays idle and without locks;
* `Fenced`: no other session comes to claim under its worker id;
* `Grown`: where another process inserts waiting tasks, no row that a session relies on
  changes, so the sessions stay sound.
-/
import Lcp.Services.PlannerPass
import Lcp.Sessions.AttendedTasks
import Lcp.Sessions.Capacity

namespace Lcp.Sessions

open Theory World

set_option autoImplicit false

/-! ## Sessions at rest -/

/-- Session `i` is idle and holds no row. -/
structure Rested (i : Nat) (s : World) : Prop where
  idle : s.session i = .idle
  taskLock : ∀ k, ¬ s.taskLock.Held i k
  workerLock : ∀ k, ¬ s.workerLock.Held i k

namespace Rested

variable {i j : Nat} {s t : World}

theorem leave (s : World) (i : Nat) : Rested i (s.leave i .idle) where
  idle := session_leave s i .idle
  taskLock := RowLocks.not_held_release s.taskLock i
  workerLock := RowLocks.not_held_release s.workerLock i

/-- A step gives rows to the session that takes it only. -/
theorem locks_other {a : Action} (moved : Move s a t) (other : i ≠ a.session) :
    (∀ k, t.taskLock.Held i k → s.taskLock.Held i k) ∧
      ∀ k, t.workerLock.Held i k → s.workerLock.Held i k := by
  cases moved with
  | update was next isOpen =>
      rename_i j call issued statement
      cases statement with
      | task => exact ⟨fun _ held => held.of_acquire other, fun _ held => held⟩
      | worker | decrement => exact ⟨fun _ held => held, fun _ held => held.of_acquire other⟩
  | lockTask | reapWorker => exact ⟨fun _ held => held.of_acquire other, fun _ held => held⟩
  | reap | tend => exact ⟨fun _ held => held, fun _ held => held.of_acquire other⟩
  | commit | reaped | tended | close =>
      exact ⟨fun _ held => held.of_release, fun _ held => held.of_release⟩
  | read => exact ⟨fun _ held => held, fun _ held => held⟩

theorem step {a : Action} (rested : Rested i s) (moved : Move s a t) (other : i ≠ a.session) :
    Rested i t where
  idle := (moved.session_other other).trans rested.idle
  taskLock k held := rested.taskLock k ((locks_other moved other).1 k held)
  workerLock k held := rested.workerLock k ((locks_other moved other).2 k held)

theorem leave_other (rested : Rested i s) (other : i ≠ j) : Rested i (s.leave j .idle) :=
  rested.step (Move.close (i := j)) other

theorem withRows (rested : Rested i s) (db : Database) : Rested i { s with db } :=
  ⟨rested.idle, rested.taskLock, rested.workerLock⟩

end Rested

/-! ## Claims under a worker id -/

/-- No session but those of `who` is about to claim under the worker id. -/
def Fenced (who : Nat → Bool) (workerId : String) (s : World) : Prop :=
  ∀ i, who i = false → ∀ worker, (s.session i).claimant = some worker →
    worker.workerId ≠ workerId

section Readers

variable (db : Database) (workerId taskUuid : String) (outcome : Outcome) (now : DateTime)
  (principal : Option TenantPrincipal)

@[simp] theorem claimant_checkFinish (copy : Task) :
    (checkFinish workerId copy outcome now).claimant = none := by
  unfold checkFinish
  split <;> rfl

@[simp] theorem claimant_beginFinish :
    (beginFinish db workerId taskUuid outcome now).claimant = none := by
  unfold beginFinish
  split
  · rfl
  · exact claimant_checkFinish ..

@[simp] theorem claimant_beginCancel : (beginCancel db principal taskUuid now).claimant = none := by
  unfold beginCancel
  split
  · rfl
  · split
    · rfl
    · split <;> rfl

@[simp] theorem claimant_beginRetry : (beginRetry db principal taskUuid).claimant = none := by
  unfold beginRetry
  split
  · rfl
  · split <;> rfl

@[simp] theorem claimant_beginHeartbeat (leaseId : String) :
    (beginHeartbeat db workerId leaseId now).claimant = none := by
  unfold beginHeartbeat
  split
  · rfl
  · split <;> rfl

@[simp] theorem claimant_beginDrain : (beginDrain db workerId).claimant = none := by
  unfold beginDrain
  split
  · rfl
  · split <;> rfl

theorem claimant_beginClaim {leaseId : String} {taskType : Option TaskType}
    {worker : WorkerRegistry}
    (claims : (beginClaim db workerId leaseId taskType).claimant = some worker) :
    worker.workerId = workerId := by
  unfold beginClaim at claims
  split at claims
  · cases claims
  · rename_i row found
    split at claims <;> cases claims
    exact Table.key_of_get found

end Readers

/-- A read that leads to a claim is the first one of `claim_next_task`. -/
theorem claimant_read {s t : World} {a : Action} {worker : WorkerRegistry}
    (stepped : step s a = some t) (reads : a.reads = true)
    (claims : (t.session a.session).claimant = some worker) :
    ∃ i leaseId taskType, a = .claim i worker.workerId leaseId taskType := by
  cases a with
  | claim i workerId leaseId taskType =>
      simp only [step] at stepped
      split at stepped <;> cases stepped
      rw [Action.session, session_set] at claims
      exact ⟨i, leaseId, taskType, by rw [claimant_beginClaim _ _ claims]⟩
  | refresh i =>
      simp only [step] at stepped
      split at stepped
      · split at stepped <;> cases stepped
        rw [Action.session, session_set] at claims
        cases claims
      · cases stepped
  | finalize | executorRaised | finish | cancel | retry | heartbeat | drain =>
      simp only [step] at stepped
      split at stepped <;> cases stepped
      simp [Action.session] at claims
  | lockTask | update | commit | reap | reapWorker | close => cases reads

/-- A session that is about to claim was so before, or began to under that id. -/
theorem claimant_step {s t : World} {a : Action} {worker : WorkerRegistry}
    (stepped : sessions.step s a = some t)
    (claims : (t.session a.session).claimant = some worker) :
    (s.session a.session).claimant = some worker ∨
      ∃ i leaseId taskType, a = .claim i worker.workerId leaseId taskType := by
  cases step_move stepped with
  | read reads begun => exact .inr (claimant_read stepped reads claims)
  | lockTask was found free =>
      rw [Action.session, session_selected] at claims
      rw [Action.session, was]
      exact .inl claims
  | update was next isOpen =>
      rename_i i call n statement
      rw [Action.session, session_set] at claims
      rw [Action.session, was]
      exact .inl (by cases call <;> exact claims)
  | commit was =>
      rename_i i call
      rw [Action.session, session_committed] at claims
      cases call <;> cases claims
  | reaped | reap | reapWorker | tend | tended | close =>
      rw [Action.session] at claims
      simp only [session_reaped, session_reapBegun, session_collected, session_set,
        session_tended, session_leave] at claims
      cases claims

theorem Fenced.step {who : Nat → Bool} {workerId : String} {s t : World} {a : Action}
    (fenced : Fenced who workerId s) (stepped : sessions.step s a = some t)
    (elsewhere : who a.session = false →
      ∀ i leaseId taskType, a ≠ .claim i workerId leaseId taskType) :
    Fenced who workerId t := by
  intro i outsider worker claims same
  by_cases other : i ≠ a.session
  · rw [(step_move stepped).session_other other] at claims
    exact fenced i outsider worker claims same
  · obtain rfl : i = a.session := not_not.1 other
    rcases claimant_step stepped claims with before | ⟨i, leaseId, taskType, rfl⟩
    · exact fenced _ outsider worker before same
    · exact elsewhere outsider i leaseId taskType (same ▸ rfl)

/-- So no other session commits a claim under it. -/
theorem Fenced.spares {who : Nat → Bool} {workerId : String} {s : World} {a : Action}
    (fenced : Fenced who workerId s) (unclosed : ∀ i, a = .close i → who i = false) :
    spares who workerId s a = true := by
  cases a with
  | close i => simp [Sessions.spares, unclosed i rfl]
  | commit i =>
      simp only [Sessions.spares]
      split
      · rename_i worker task now issued was
        cases mine : who i with
        | true => simp
        | false =>
            have claims : (s.session i).claimant = some worker := by
              rw [was]
              rfl
            simpa using fenced i mine worker claims
      · rfl
  | _ => rfl

/-! ## Inserts of other processes -/

/-- Waiting tasks were inserted; every other row that a session can rely on is there. -/
structure Grown (before after : Database) : Prop where
  workerRegistry : after.workerRegistry = before.workerRegistry
  kept : ∀ k task, before.task.get k = some task → after.task.get k = some task
  rows : ∀ task ∈ after.task.rows, task ∈ before.task.rows ∨ task.status = .pending

namespace Grown

variable {a b c : Database}

theorem refl (a : Database) : Grown a a := ⟨rfl, fun _ _ => id, fun _ => .inl⟩

theorem trans (first : Grown a b) (second : Grown b c) : Grown a c where
  workerRegistry := second.workerRegistry.trans first.workerRegistry
  kept k task found := second.kept k task (first.kept k task found)
  rows task member := (second.rows task member).elim (first.rows task) .inr

theorem insertTask {row : Task} (waiting : row.status = .pending)
    (inserted : TaskService.insertTask row a = some b) : Grown a b := by
  obtain ⟨table, added, rfl, -⟩ := TaskService.insertTask_eq_some inserted
  refine ⟨rfl, fun k task found => ?_, fun task member => ?_⟩
  · by_cases same : k = row.taskUuid
    · have fresh := (Table.insert?_eq_some added).2 task (Table.mem_of_get found)
      exact absurd ((Table.key_of_get found).trans same) fresh
    · exact (Table.get_insert?_of_ne added same).trans found
  · rcases (Table.mem_insert? added).1 member with before | rfl
    · exact .inl before
    · exact .inr waiting

/-- A planner pass inserts waiting tasks, and records itself in the policies. -/
theorem planOnce {draw : Nat → String} {now : DateTime} {principal : Option TenantPrincipal}
    {report : LifecyclePlannerService.PlannerTick}
    (ran : LifecyclePlannerService.planOnce draw now principal a = .ok (report, b)) :
    Grown a b := by
  have admits : Emission.Admits (Grown a) := by
    intro db after dataset now taskUuid taskType key params held member inserted
    exact held.trans (insertTask rfl inserted)
  exact LifecyclePlannerService.planOnce_keeps admits
    (fun db policies held => ⟨held.workerRegistry, held.kept, held.rows⟩) (refl a) ran

end Grown

/-- The sessions rely on task rows that are there and on worker rows that they hold. -/
theorem Sound.withRows {s : World} {db : Database} (sound : Sound s)
    (tasks : ∀ k task, s.db.task.get k = some task → db.task.get k = some task)
    (workers : ∀ i k, s.workerLock.Held i k →
      db.workerRegistry.get k = s.db.workerRegistry.get k) : Sound { s with db } := by
  intro i
  have holdsTask : ∀ {task : Task}, s.HoldsTask i task → HoldsTask { s with db } i task :=
    fun held => ⟨held.1, tasks _ _ held.2⟩
  have holdsWorker : ∀ {worker : WorkerRegistry}, s.HoldsWorker i worker →
      HoldsWorker { s with db } i worker :=
    fun held => ⟨held.1, (workers i _ held.1).trans held.2⟩
  have upheld := sound i
  show Upheld { s with db } i (s.session i)
  cases was : s.session i with
  | writing call issued =>
      rw [was] at upheld
      obtain ⟨checked, selected, held⟩ := upheld
      refine ⟨checked, ?_, held⟩
      cases call with
      | claim worker task now => exact holdsTask selected
      | finish | cancel | retry => trivial
  | reaping stale done =>
      rw [was] at upheld
      obtain ⟨mine, distinct, collected⟩ := upheld
      refine ⟨fun worker member => holdsWorker (mine worker member), distinct, ?_⟩
      intro entry member
      obtain ⟨nodup, running⟩ := collected entry member
      exact ⟨nodup, fun task inEntry =>
        ⟨holdsTask (running task inEntry).1, (running task inEntry).2⟩⟩
  | validated | tending =>
      rw [was] at upheld
      exact upheld
  | idle | claimed | running | raised | rejected => trivial

theorem Sound.grow {s : World} {db : Database} (sound : Sound s) (grown : Grown s.db db) :
    Sound { s with db } :=
  sound.withRows grown.kept fun _ _ _ => by rw [grown.workerRegistry]

theorem AttendedBy.grow {who : Nat → Bool} {workerId : String} {s : World} {db : Database}
    (attended : AttendedBy who workerId s) (grown : Grown s.db db) :
    AttendedBy who workerId { s with db } := by
  intro task member runs
  rcases grown.rows task member with before | waiting
  · exact attended task before runs
  · rw [(Task.runningOn_iff.1 runs).1] at waiting
    cases waiting

end Lcp.Sessions
