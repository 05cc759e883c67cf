/-
# Sessions.Heartbeats -- who writes the heartbeat column

`last_heartbeat_at` is what the reaper judges a worker by.  Where one session sends all
heartbeats of a worker, the column changes with that session's commits and with no other:

* `Silent`: no other session is about to write the column;
* `Spared`: no reaper holds the worker;
* `worker_step`: what a step then does to the worker's row;
* `log_step`: no task is requeued from the worker.
-/
import Lcp.Sessions.DeadWorkers
import Lcp.Sessions.Neighbours

namespace Lcp.Sessions

open Theory World

set_option autoImplicit false

/-! ## Sessions that tend a worker -/

/-- No session but `who` has a heartbeat of the worker to write. -/
def Silent (who : Nat) (workerId : String) (s : World) : Prop :=
  ∀ i, i ≠ who → ∀ loaded modified issued, s.session i = .tending loaded modified issued →
    loaded.workerId = workerId → modified.lastHeartbeatAt = loaded.lastHeartbeatAt

/-- What a session that tends a worker read and assigned. -/
inductive Tending (s : World) (loaded modified : WorkerRegistry) : Action → Prop
  | before {a : Action} {issued : Bool}
      (was : s.session a.session = .tending loaded modified issued) : Tending s loaded modified a
  | beats {i : Nat} {workerId leaseId : String} {now : DateTime}
      (found : s.db.workerRegistry.get workerId = some loaded) (lease : loaded.leaseId = leaseId)
      (assigned : modified = loaded.beat now) :
      Tending s loaded modified (.heartbeat i workerId leaseId now)
  | drains {i : Nat} {workerId : String} (assigned : modified = loaded.drain) :
      Tending s loaded modified (.drain i workerId)

section Readers

variable {db : Database} {workerId taskUuid leaseId : String} {outcome : Outcome} {now : DateTime}
  {principal : Option TenantPrincipal} {loaded modified : WorkerRegistry} {issued : Bool}

theorem checkFinish_not_tending {copy : Task} :
    checkFinish workerId copy outcome now ≠ .tending loaded modified issued := by
  unfold checkFinish
  split <;> nofun

theorem beginFinish_not_tending :
    beginFinish db workerId taskUuid outcome now ≠ .tending loaded modified issued := by
  unfold beginFinish
  split
  · nofun
  · exact checkFinish_not_tending

theorem beginCancel_not_tending :
    beginCancel db principal taskUuid now ≠ .tending loaded modified issued := by
  unfold beginCancel
  split
  · nofun
  · split
    · nofun
    · split <;> nofun

theorem beginRetry_not_tending :
    beginRetry db principal taskUuid ≠ .tending loaded modified issued := by
  unfold beginRetry
  split
  · nofun
  · split <;> nofun

theorem beginClaim_not_tending {taskType : Option TaskType} :
    beginClaim db workerId leaseId taskType ≠ .tending loaded modified issued := by
  unfold beginClaim
  split
  · nofun
  · split <;> nofun

end Readers

/-- A session that tends a worker did so before, or its first statement says what it tends. -/
theorem tending_step {s t : World} {a : Action} {loaded modified : WorkerRegistry} {issued : Bool}
    (stepped : sessions.step s a = some t)
    (tends : t.session a.session = .tending loaded modified issued) :
    Tending s loaded modified a := by
  have moved := step_move stepped
  change step s a = some t at stepped
  cases a with
  | heartbeat i workerId leaseId now =>
      simp only [step] at stepped
      split at stepped <;> cases stepped
      rw [Action.session, session_set] at tends
      unfold beginHeartbeat at tends
      split at tends
      · cases tends
      · rename_i row found
        split at tends
        · cases tends
        · rename_i same
          cases tends
          exact .beats found (not_not.1 same) rfl
  | drain i workerId =>
      simp only [step] at stepped
      split at stepped <;> cases stepped
      rw [Action.session, session_set] at tends
      unfold beginDrain at tends
      split at tends
      · cases tends
      · split at tends <;> cases tends
        exact .drains rfl
  | update i =>
      cases moved with
      | read reads => cases reads
      | update was next isOpen =>
          rw [Action.session, session_set] at tends
          cases tends
      | tend was isOpen =>
          rw [Action.session, session_set] at tends
          cases tends
          exact .before was
  | commit i =>
      cases moved with
      | read reads => cases reads
      | @commit i call was =>
          rw [Action.session, session_committed] at tends
          cases call <;> cases tends
      | reaped | tended =>
          rw [Action.session] at tends
          simp only [session_reaped, session_tended] at tends
          cases tends
  | claim i workerId leaseId taskType =>
      simp only [step] at stepped
      split at stepped <;> cases stepped
      rw [Action.session, session_set] at tends
      exact absurd tends beginClaim_not_tending
  | refresh i =>
      simp only [step] at stepped
      split at stepped
      · split at stepped <;> cases stepped
        rw [Action.session, session_set] at tends
        cases tends
      · cases stepped
  | finalize i outcome now =>
      simp only [step] at stepped
      split at stepped <;> cases stepped
      rw [Action.session, session_set] at tends
      exact absurd tends checkFinish_not_tending
  | executorRaised i errorCode errorMessage now =>
      simp only [step] at stepped
      split at stepped <;> cases stepped
      rw [Action.session, session_set] at tends
      exact absurd tends beginFinish_not_tending
  | finish i workerId taskUuid outcome now =>
      simp only [step] at stepped
      split at stepped <;> cases stepped
      rw [Action.session, session_set] at tends
      exact absurd tends beginFinish_not_tending
  | cancel i principal taskUuid now =>
      simp only [step] at stepped
      split at stepped <;> cases stepped
      rw [Action.session, session_set] at tends
      exact absurd tends beginCancel_not_tending
  | retry i principal taskUuid =>
      simp only [step] at stepped
      split at stepped <;> cases stepped
      rw [Action.session, session_set] at tends
      exact absurd tends beginRetry_not_tending
  | lockTask | reap | reapWorker | close =>
      rcases moved with reads | _ | _ | _ | _ | _ | _ | _ | _ | _
      · cases reads
      · rw [Action.session] at tends
        simp only [session_selected, session_reapBegun, session_collected, session_leave] at tends
        cases tends

/-- The column stays with one session where no other sends a heartbeat of the worker. -/
theorem Silent.step {who : Nat} {workerId : String} {s t : World} {a : Action}
    (silent : Silent who workerId s) (stepped : sessions.step s a = some t)
    (elsewhere : a.session ≠ who → ∀ i leaseId now, a ≠ .heartbeat i workerId leaseId now) :
    Silent who workerId t := by
  intro i outsider loaded modified issued tends same
  by_cases other : i ≠ a.session
  · rw [(step_move stepped).session_other other] at tends
    exact silent i outsider loaded modified issued tends same
  · obtain rfl : i = a.session := not_not.1 other
    cases tending_step stepped tends with
    | before was => exact silent _ outsider loaded modified _ was same
    | @beats i _ leaseId now found =>
        have key := (Table.key_of_get found).symm.trans same
        exact absurd (key ▸ rfl) (elsewhere outsider i leaseId now)
    | drains assigned =>
        rw [assigned]
        rfl

/-! ## Reapers -/

/-- The session reaps the worker. -/
def Session.reaps (workerId : String) : Session → Bool
  | .reaping stale done =>
      (done.map Prod.fst ++ stale).any fun worker => worker.workerId = workerId
  | _ => false

/-- No reaper holds the worker. -/
def Spared (workerId : String) (s : World) : Prop :=
  ∀ i, (s.session i).reaps workerId = false

/-- A reaper holds the row of a worker that it reaps. -/
theorem spared_of_free {workerId : String} {s : World} (sound : Sound s)
    (free : s.workerLock workerId = none) : Spared workerId s := by
  intro i
  by_contra reaps
  rw [Bool.not_eq_false] at reaps
  cases was : s.session i with
  | reaping stale done =>
      rw [was] at reaps
      have upheld := sound i
      rw [was] at upheld
      obtain ⟨worker, member, same⟩ := List.any_eq_true.1 reaps
      obtain rfl := of_decide_eq_true same
      have held : s.workerLock worker.workerId = some i := (upheld.1 worker member).1
      rw [free] at held
      cases held
  | idle | validated | writing | claimed | running | tending | raised | rejected =>
      rw [was] at reaps
      cases reaps

theorem Spared.step {workerId : String} {s t : World} {a : Action} (spared : Spared workerId s)
    (moved : Move s a t)
    (fresh : ∀ i now timeout, a = .reap i now timeout →
      ∀ row, s.db.workerRegistry.get workerId = some row → row.stale now timeout = false) :
    Spared workerId t := by
  intro i
  by_cases other : i ≠ a.session
  · rw [moved.session_other other]
    exact spared i
  obtain rfl : i = a.session := not_not.1 other
  by_contra reaps
  rw [Bool.not_eq_false] at reaps
  cases moved with
  | @read _ session reads begun =>
      rw [session_set] at reaps
      cases session with
      | reaping => exact begun.elim
      | idle | validated | writing | claimed | running | tending | raised | rejected => cases reaps
  | @reap i now timeout =>
      rw [Action.session, session_reapBegun] at reaps
      obtain ⟨worker, member, same⟩ := List.any_eq_true.1 reaps
      obtain rfl := of_decide_eq_true same
      obtain ⟨inRows, isStale⟩ := List.mem_filter.1 member
      have judged := fresh i now timeout rfl worker (Table.get_of_mem inRows)
      rw [judged] at isStale
      cases isStale
  | @reapWorker i worker stale done was isOpen =>
      rw [Action.session, session_collected] at reaps
      have before := spared i
      rw [was] at before
      have same :
          (Session.reaping stale (done ++ [(worker, s.runningTasks worker)])).reaps workerId =
            (Session.reaping (worker :: stale) done).reaps workerId := by
        simp [Session.reaps]
      rw [same, before] at reaps
      cases reaps
  | @commit i call was =>
      rw [Action.session, session_committed] at reaps
      cases call <;> cases reaps
  | lockTask | update | reaped | tend | tended | close =>
      rw [Action.session] at reaps
      simp only [session_selected, session_set, session_reaped, session_tended,
        session_leave] at reaps
      cases reaps

/-! ## One step and one worker row -/

/-- **What a step does to the row of a worker that no reaper holds**: the heartbeat column
changes with the commit of a session that tends the worker. -/
theorem worker_step {workerId : String} {s t : World} {a : Action} (moved : Move s a t)
    (sound : Sound s) (spared : Spared workerId s) {row : WorkerRegistry}
    (found : s.db.workerRegistry.get workerId = some row) :
    ∃ after, t.db.workerRegistry.get workerId = some after ∧
      (row.status ≠ .dead → after.status ≠ .dead) ∧
      (after.lastHeartbeatAt = row.lastHeartbeatAt ∨
        ∃ i loaded modified, a = .commit i ∧ s.session i = .tending loaded modified true ∧
          loaded.workerId = workerId ∧ after.lastHeartbeatAt =
            flushed loaded.lastHeartbeatAt modified.lastHeartbeatAt row.lastHeartbeatAt) := by
  have unchanged : t.db.workerRegistry.get workerId = s.db.workerRegistry.get workerId →
      ∃ after, t.db.workerRegistry.get workerId = some after ∧
        (row.status ≠ .dead → after.status ≠ .dead) ∧
        (after.lastHeartbeatAt = row.lastHeartbeatAt ∨
          ∃ i loaded modified, a = .commit i ∧ s.session i = .tending loaded modified true ∧
            loaded.workerId = workerId ∧ after.lastHeartbeatAt =
              flushed loaded.lastHeartbeatAt modified.lastHeartbeatAt row.lastHeartbeatAt) :=
    fun same => ⟨row, same.trans found, id, .inl rfl⟩
  cases moved with
  | @commit i call was =>
      by_cases claims : ∃ worker task now, call = .claim worker task now
      · obtain ⟨worker, task, now, rfl⟩ := claims
        have lookup := Table.get_update s.db.workerRegistry worker.workerId workerId
          (WorkerRegistry.flush worker (worker.setInFlight (worker.inFlight + 1)))
          (WorkerRegistry.workerId_flush worker (worker.setInFlight (worker.inFlight + 1)))
        by_cases owner : workerId = worker.workerId
        · rw [if_pos owner, found] at lookup
          refine ⟨_, lookup, fun alive => ?_, .inl (flushed_same ..)⟩
          show flushed worker.status worker.status row.status ≠ .dead
          rwa [flushed_same]
        · rw [if_neg owner] at lookup
          exact unchanged lookup
      · have takes : call.deed.takes = none := by
          cases call with
          | claim worker task now => exact absurd ⟨worker, task, now, rfl⟩ claims
          | finish | cancel | retry => rfl
        have lookup := get_worker_callRows s call takes workerId
        split at lookup
        · rw [found] at lookup
          exact ⟨_, lookup, id, .inl rfl⟩
        · exact unchanged lookup
  | @reaped i done was =>
      refine unchanged (get_worker_reap_other fun entry member same => ?_)
      have held := spared i
      rw [was] at held
      have reaps : (Session.reaping [] done).reaps workerId = true :=
        List.any_eq_true.2 ⟨entry.1, by simpa using ⟨entry.2, member⟩, decide_eq_true same⟩
      rw [reaps] at held
      cases held
  | @tended i loaded modified was =>
      have upheld := sound i
      rw [was] at upheld
      have lookup := Table.get_update s.db.workerRegistry loaded.workerId workerId
        (WorkerRegistry.flush loaded modified) (WorkerRegistry.workerId_flush loaded modified)
      by_cases here : workerId = loaded.workerId
      · rw [if_pos here, found] at lookup
        exact ⟨_, lookup, fun alive dead => alive (status_flush_tends upheld.1 dead),
          .inr ⟨i, loaded, modified, rfl, was, here.symm, rfl⟩⟩
      · rw [if_neg here] at lookup
        exact unchanged lookup
  | @update i call issued statement was next isOpen => cases statement <;> exact unchanged rfl
  | read | lockTask | reap | reapWorker | tend | close => exact unchanged rfl

/-- **No task is requeued** from a worker that no reaper holds. -/
theorem log_step {workerId : String} {s t : World} {a : Action} (moved : Move s a t)
    (spared : Spared workerId s) :
    ∃ events, t.log = s.log ++ events ∧ ∀ e ∈ events, e.deed ≠ .requeued workerId := by
  cases moved with
  | @commit i call was =>
      refine ⟨_, rfl, fun e member requeued => ?_⟩
      rw [Option.mem_toList, event, Option.map_eq_some_iff] at member
      obtain ⟨row, -, rfl⟩ := member
      cases call <;> cases requeued
  | @reaped i done was =>
      refine ⟨_, rfl, fun e member requeued => ?_⟩
      obtain ⟨entry, inDone, inEntry⟩ := List.mem_flatMap.1 member
      obtain ⟨task, -, logged⟩ := List.mem_filterMap.1 inEntry
      rw [event, Option.map_eq_some_iff] at logged
      obtain ⟨row, -, rfl⟩ := logged
      have held := spared i
      rw [was] at held
      have same : entry.1.workerId = workerId := Deed.requeued.inj requeued
      have reaps : (Session.reaping [] done).reaps workerId = true :=
        List.any_eq_true.2 ⟨entry.1, by simpa using ⟨entry.2, inDone⟩, decide_eq_true same⟩
      rw [reaps] at held
      cases held
  | @update i call issued statement was next isOpen =>
      refine ⟨[], ?_, by simp⟩
      cases statement <;> simp [lockFor, World.set]
  | read | lockTask | reap | reapWorker | tend | tended | close =>
      exact ⟨[], (List.append_nil s.log).symm, by simp⟩

end Lcp.Sessions
