/-
# Sessions.DeadWorkers -- the race of a claim with the reaper

The reaper requeues what it finds RUNNING on a stale worker and buries the worker; a
claim that validated the worker before that can still commit after it.  The reaper
passes over DEAD workers, so the task it hands out then is out of its reach.
`none_on_dead` is for every run in which the worker is not DEAD when the claim comes
to write the worker's row.
-/
import Lcp.Sessions.LostUpdates
import Lcp.Sessions.WorkerRows

namespace Lcp.Sessions

open Theory World

set_option autoImplicit false

/-- No task is RUNNING on a DEAD worker. -/
def NoneOnDead (s : World) : Prop :=
  ∀ worker ∈ s.db.workerRegistry.rows, worker.status = .dead →
    ∀ task ∈ s.db.task.rows, task.runningOn worker.workerId = false

instance : DecidablePred NoneOnDead := fun s =>
  inferInstanceAs (Decidable (∀ worker ∈ s.db.workerRegistry.rows, worker.status = .dead →
    ∀ task ∈ s.db.task.rows, task.runningOn worker.workerId = false))

/-- The committed row of a claim's worker is not DEAD. -/
def awake (row _copy : WorkerRegistry) : Bool := row.status ≠ .dead

theorem status_flush_tends {loaded modified row : WorkerRegistry} (tends : Tends loaded modified)
    (dead : (WorkerRegistry.flush loaded modified row).status = .dead) : row.status = .dead := by
  have status : flushed loaded.status modified.status row.status = .dead := dead
  by_cases same : modified.status = loaded.status
  · rwa [flushed, if_pos same] at status
  · rw [flushed_of_ne _ same] at status
    rcases tends with ⟨now, rfl⟩ | ⟨-, rfl⟩
    · simp only [WorkerRegistry.beat] at status
      split at status
      · cases status
      · rename_i alive
        exact absurd status alive
    · cases status

/-- A worker that is DEAD after a step was DEAD before, or the step buried it. -/
theorem WorkerChange.dead {s t : World} {a : Action} {workerId : String} {worker : WorkerRegistry}
    (change : WorkerChange s workerId a t)
    (found : t.db.workerRegistry.get workerId = some worker) (dead : worker.status = .dead) :
    (∃ row, s.db.workerRegistry.get workerId = some row ∧ row.status = .dead) ∨
      ∀ task ∈ t.db.task.rows, task.runningOn workerId = false := by
  cases change with
  | same unclaimed row => exact .inl ⟨worker, row.symm.trans found, dead⟩
  | claimed was owner row =>
      rename_i i copy task now
      rw [found, eq_comm, Option.map_eq_some_iff] at row
      obtain ⟨before, here, rfl⟩ := row
      have kept : flushed copy.status copy.status before.status = .dead := dead
      rw [flushed_same] at kept
      exact .inl ⟨before, here, kept⟩
  | released was takes releases row =>
      rw [found, eq_comm, Option.map_eq_some_iff] at row
      obtain ⟨before, here, rfl⟩ := row
      exact .inl ⟨before, here, dead⟩
  | tended tends row =>
      rw [found, eq_comm, Option.map_eq_some_iff] at row
      obtain ⟨before, here, rfl⟩ := row
      exact .inl ⟨before, here, status_flush_tends tends dead⟩
  | buried before after idle => exact .inr idle

/-- What the proof carries along a run. -/
structure Recoverable (s : World) : Prop where
  sound : Sound s
  collected : Collected s
  writes : WritesWith awake s
  none_ : NoneOnDead s

theorem Recoverable.step {s t : World} {a : Action} (inv : Recoverable s)
    (guard : claimsWith awake s a = true) (stepped : sessions.step s a = some t) :
    Recoverable t := by
  have moved := step_move stepped
  refine ⟨moved.sound inv.sound, moved.collects inv.sound inv.collected,
    moved.writesWith inv.sound inv.writes guard, ?_⟩
  intro worker member dead task inRows
  have change := moved.workerChange inv.sound inv.collected worker.workerId
  rcases change.dead (Table.get_of_mem member) dead with ⟨row, found, wasDead⟩ | idle
  · have key := Table.key_of_get found
    by_contra runs
    rw [Bool.not_eq_false] at runs
    obtain ⟨running, named⟩ := Task.runningOn_iff.1 runs
    rcases moved.running_origin inv.sound inRows running with before | claim
    · have none_ := inv.none_ row (Table.mem_of_get found) wasDead task before
      rw [key, runs] at none_
      cases none_
    · obtain ⟨i, claimer, copy, now, rfl, was, -, rfl⟩ := claim
      have owner : claimer.workerId = worker.workerId := Option.some.inj named
      have isAwake := inv.writes i claimer copy now 2 was (Nat.le_refl 2)
      rw [owner, found] at isAwake
      simp [awake, wasDead] at isAwake
  · exact idle task inRows

/-- **No task is left RUNNING on a DEAD worker** in every run in which a claim's worker
is not DEAD when the claim issues the UPDATE of its row. -/
theorem none_on_dead {db : Database} {as : List Action} (start : NoneOnDead (atRest db))
    (guarded : sessions.Guarded (fun s a => claimsWith awake s a = true) (atRest db) as) :
    sessions.Always NoneOnDead (atRest db) as := by
  have begin_ : Recoverable (atRest db) :=
    { sound := sound_atRest db
      collected := fun i stale done reaping => by cases reaping
      writes := fun i worker task now issued writing => by cases writing
      none_ := start }
  have holds := Machine.always_of_inv (fun s a t before ok stepped => before.step ok stepped)
    begin_ guarded
  exact holds.mono fun s inv => inv.none_

section Runs

/-- A worker is validated, declared dead, and handed a task. -/
def claimedWhenDead : List Action :=
  [.claim 0 "a" "lease-a" none] ++ reapedOne 1 100 ++
    [.lockTask 0 "t" 101, .update 0, .update 0, .commit 0]

theorem running_on_dead_worker :
    ¬ sessions.Always NoneOnDead (atRest (twoWorkers .pending 0)) claimedWhenDead :=
  Machine.not_always_of_ends (by decide)

/-- The worker's heartbeat arrives before its claim writes the row. -/
theorem none_on_dead_revived :
    sessions.Always NoneOnDead (atRest (twoWorkers .pending 0))
      ([.claim 0 "a" "lease-a" none] ++ reapedOne 1 100 ++
        [.heartbeat 2 "a" "lease-a" 101, .update 2, .commit 2, .lockTask 0 "t" 102, .update 0,
          .update 0, .commit 0]) :=
  none_on_dead (by decide) (by decide)

end Runs

end Lcp.Sessions
