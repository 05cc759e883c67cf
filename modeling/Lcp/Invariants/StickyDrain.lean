/-
# Invariants.StickyDrain -- what a drained worker is handed

`drain_worker` writes DRAINING into the column that the reaper and the heartbeat
write too.  The reaper takes a DRAINING worker to DEAD, and a heartbeat takes a DEAD
one to ALIVE, so the request to drain is lost on the way; a drain of a DEAD worker is
never written down at all.  `drained_gets_nothing` is for every run in which no
heartbeat finds a drained worker DEAD.
-/
import Lcp.Services.Operations

namespace Lcp.StickyDrain

open Theory

set_option autoImplicit false

/-- The rows, and the workers that were drained since their last registration. -/
structure History where
  db : Database
  drained : String → Bool := fun _ => false

/-- What a call that returns adds to the history. -/
def record (db : Database) (op : Operation) (drained : String → Bool) : String → Bool :=
  match op with
  | .drainWorker _ workerId =>
      if (op.exec db).isSome then Function.update drained workerId true else drained
  | .registerWorker _ _ _ args =>
      if (op.exec db).isSome then Function.update drained args.workerId false else drained
  | _ => drained

/-- Runs of the services beside their history of drains. -/
def drainHistory : Machine History Operation where
  step s op := some { db := op.apply s.db, drained := record s.db op s.drained }

/-- The call hands a task to a drained worker. -/
def handsOut (s : History) : Operation → Bool
  | .claimNextTask principal now workerId leaseId taskType =>
      s.drained workerId &&
        match SchedulerService.claimNextTask principal now workerId leaseId taskType s.db with
        | .ok (some _, _) => true
        | _ => false
  | _ => false

/-- The call is a heartbeat that is accepted from a drained worker whose row is DEAD. -/
def revives (s : History) : Operation → Bool
  | .heartbeat principal now workerId leaseId =>
      s.drained workerId &&
        ((Operation.heartbeat principal now workerId leaseId).exec s.db).isSome &&
        (s.db.workerRegistry.get workerId).any fun worker => worker.status = .dead
  | _ => false

/-- No drained worker is ALIVE. -/
def Sticky (s : History) : Prop :=
  ∀ worker ∈ s.db.workerRegistry.rows, s.drained worker.workerId = true → worker.status ≠ .alive

theorem handsOut_eq_false {s : History} (held : Sticky s) (op : Operation) :
    handsOut s op = false := by
  cases op with
  | claimNextTask principal now workerId leaseId taskType =>
      cases isDrained : s.drained workerId with
      | false => simp [handsOut, isDrained]
      | true =>
          simp only [handsOut, isDrained, Bool.true_and]
          split
          · rename_i task after ran
            obtain ⟨none_, -⟩ | ⟨worker, -, found, admitted, -⟩ :=
              SchedulerService.claimNextTask_cases ran
            · cases none_
            · obtain ⟨-, alive, -⟩ := WorkerRegistry.mayClaim_eq_true.1 admitted
              obtain ⟨inTable, rfl⟩ := Table.get_eq_some.1 found
              exact absurd alive (held worker inTable isDrained)
          · rfl
  | _ => rfl

/-- A call that is neither a drain nor a registration of the worker keeps its flag. -/
theorem drained_before {s : History} {op : Operation} {workerId : String}
    (other : ∀ principal, op ≠ .drainWorker principal workerId)
    (isDrained : record s.db op s.drained workerId = true) : s.drained workerId = true := by
  cases op with
  | drainWorker principal drainedId =>
      have ne : workerId ≠ drainedId := by
        rintro rfl
        exact other principal rfl
      simp only [record] at isDrained
      split at isDrained
      · rwa [Function.update_of_ne ne] at isDrained
      · exact isDrained
  | registerWorker principal now newLease args =>
      simp only [record] at isDrained
      split at isDrained
      · by_cases same : workerId = args.workerId
        · rw [same, Function.update_self] at isDrained
          cases isDrained
        · rwa [Function.update_of_ne same] at isDrained
      · exact isDrained
  | _ => exact isDrained

/-- After a drain that returns, the worker is not ALIVE. -/
theorem drained_not_alive {db after : Database} {principal : Option TenantPrincipal}
    {workerId : String} (ran : (Operation.drainWorker principal workerId).exec db = some after)
    {worker : WorkerRegistry} (member : worker ∈ after.workerRegistry.rows)
    (key : worker.workerId = workerId) : worker.status ≠ .alive := by
  simp only [Operation.exec, SchedulerService.drainWorker] at ran
  split at ran
  · cases ran
  · split at ran
    · cases ran
    · rename_i found
      split at ran <;> cases ran
      · rcases Table.of_mem_update member with ⟨before, -, -, rfl⟩ | ⟨-, other⟩
        · simp [WorkerRegistry.drain]
        · exact absurd key other
      · rename_i before dead
        have same := Table.eq_of_key_eq member (Table.mem_of_get found)
          (key.trans (Table.key_of_get found).symm)
        rw [same, not_not.1 dead]
        simp

theorem step_sticky {s t : History} {op : Operation} (held : Sticky s)
    (quiet : revives s op = false) (stepped : drainHistory.step s op = some t) : Sticky t := by
  obtain rfl := Option.some.inj stepped
  intro worker member isDrained
  by_cases drains : ∃ principal, op = .drainWorker principal worker.workerId
  · obtain ⟨principal, rfl⟩ := drains
    cases ran : (Operation.drainWorker principal worker.workerId).exec s.db with
    | none =>
        simp only [record, ran, Option.isSome_none] at isDrained
        simp only [Operation.apply, ran, Option.getD_none] at member
        exact held worker member isDrained
    | some after =>
        simp only [Operation.apply, ran, Option.getD_some] at member
        exact drained_not_alive ran member rfl
  · have before := drained_before (fun principal same => drains ⟨principal, same⟩) isDrained
    cases ran : op.exec s.db with
    | none =>
        simp only [Operation.apply, ran, Option.getD_none] at member
        exact held worker member before
    | some after =>
        simp only [Operation.apply, ran, Option.getD_some] at member
        intro alive
        cases (effect_of_exec ran).worker_origin member with
        | kept inTable workerId leaseId wasAlive =>
            exact held _ inTable (workerId ▸ before) (wasAlive alive)
        | beat found same =>
            rename_i principal now workerId leaseId row
            have key : worker.workerId = workerId := by
              rw [same]
              exact (WorkerRegistry.workerId_beat now row).trans (Table.key_of_get found)
            rw [key] at before
            by_cases dead : row.status = .dead
            · simp [revives, before, ran, found, dead] at quiet
            · have status : row.status = .alive := by
                simpa [same, WorkerRegistry.beat, dead] using alive
              exact held row (Table.mem_of_get found)
                (by rw [Table.key_of_get found]; exact before) status
        | registered workerId leaseId =>
            rename_i principal now newLease args
            simp [record, ran, workerId] at isDrained

/-- **A drained worker gets nothing** in every run in which no heartbeat finds a
drained worker DEAD. -/
theorem drained_gets_nothing {db : Database} {ops : List Operation}
    (guarded : drainHistory.Guarded (fun s op => revives s op = false) { db } ops) :
    drainHistory.Guarded (fun s op => handsOut s op = false) { db } ops := by
  have start : Sticky { db } := fun _ _ isDrained => by cases isDrained
  refine Machine.along_of_inv (fun s op t held quiet stepped => ?_) start guarded
  exact ⟨step_sticky held quiet stepped, handsOut_eq_false held op⟩

section Runs

/-- A worker is drained, misses its heartbeats, is declared dead and comes back. -/
def drainedThenReaped : List Operation :=
  [ .submitTask acmeSdk 0 "t1" .compaction,
    .registerWorker daemonContext 0 "lease1" { workerId := "w1", workerType := "lifecycle" },
    .drainWorker daemonContext "w1",
    .reapDeadWorkers daemonContext 60 30,
    .heartbeat daemonContext 61 "w1" "lease1",
    .claimNextTask daemonContext 62 "w1" "lease1" none ]

theorem drained_worker_claims :
    ¬ drainHistory.Guarded (fun s op => handsOut s op = false) { db := {} } drainedThenReaped := by
  decide

/-- A drained worker that keeps sending heartbeats gets nothing until it registers. -/
theorem drained_gets_nothing_alive :
    drainHistory.Guarded (fun s op => handsOut s op = false) { db := {} }
      [ .submitTask acmeSdk 0 "t1" { taskType := .compaction, datasetUuid := "d1" },
        .registerWorker daemonContext 0 "lease1" { workerId := "w1", workerType := "lifecycle" },
        .drainWorker daemonContext "w1",
        .heartbeat daemonContext 20 "w1" "lease1",
        .claimNextTask daemonContext 21 "w1" "lease1" none,
        .registerWorker daemonContext 22 "lease2" { workerId := "w1", workerType := "lifecycle" },
        .claimNextTask daemonContext 23 "w1" "lease2" none ] :=
  drained_gets_nothing (by decide)

end Runs

end Lcp.StickyDrain
