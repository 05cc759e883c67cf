/-
# Invariants.LeaseFencing -- whose claim a finishing call ends

`complete_task` and `fail_task` name a `worker_id` and no lease: what they compare is
the owner of the RUNNING row.  So a run is replayed beside the incarnations that
registered and the incarnation of each task's last claim, and every call is labelled
with the lease of the incarnation that issues it, which the code never sees.

`finished_by_worker` is what the comparison is good for: the claim that a call ends was
made by an incarnation of the same worker.
-/
import Lcp.Invariants.SlotAccounting

namespace Lcp.LeaseFencing

open Theory SlotAccounting

set_option autoImplicit false

/-- One registration of a worker. -/
structure Incarnation where
  workerId : String
  leaseId : String
deriving DecidableEq

/-- A call and the lease of the incarnation that issues it. -/
structure Call where
  op : Operation
  lease : String

/-- The rows, the incarnations so far, and the incarnation of each task's last claim. -/
structure History where
  db : Database
  incarnations : List Incarnation := []
  claimedBy : String → Option Incarnation := fun _ => none

/-- The incarnations after a call. -/
def recordIncarnation (db : Database) (op : Operation) (incarnations : List Incarnation) :
    List Incarnation :=
  match op with
  | .registerWorker _ _ newLease args =>
      if (op.exec db).isSome then incarnations ++ [⟨args.workerId, newLease⟩] else incarnations
  | _ => incarnations

/-- The claims after a call. -/
def recordClaim (db : Database) (op : Operation) (claimedBy : String → Option Incarnation) :
    String → Option Incarnation :=
  match op with
  | .claimNextTask principal now workerId leaseId taskType =>
      match SchedulerService.claimNextTask principal now workerId leaseId taskType db with
      | .ok (some task, _) => Function.update claimedBy task.taskUuid (some ⟨workerId, leaseId⟩)
      | _ => claimedBy
  | _ => claimedBy

/-- Runs of the services beside their history of incarnations and claims. -/
def incarnationHistory : Machine History Call where
  step s call := some
    { db := call.op.apply s.db
      incarnations := recordIncarnation s.db call.op s.incarnations
      claimedBy := recordClaim s.db call.op s.claimedBy }

/-- The worker and the task of a `complete_task` or `fail_task` that is accepted. -/
def finishes (db : Database) (op : Operation) : Option (String × String) :=
  match op with
  | .completeTask _ _ workerId taskUuid _ | .failTask _ _ workerId taskUuid _ _ =>
      if (op.exec db).isSome then some (workerId, taskUuid) else none
  | _ => none

/-- The task that the call finishes is RUNNING under a claim of the issuing incarnation. -/
def fenced (s : History) (call : Call) : Bool :=
  (finishes s.db call.op).all fun (workerId, taskUuid) =>
    (s.db.task.get taskUuid).any (fun task => task.status = .running) &&
      s.claimedBy taskUuid = some ⟨workerId, call.lease⟩

/-- The task that the call finishes is RUNNING under a claim of some incarnation of the
worker that the call names. -/
def FinishedByWorker (s : History) (call : Call) (_after : History) : Prop :=
  ∀ workerId taskUuid, finishes s.db call.op = some (workerId, taskUuid) →
    (∃ task, s.db.task.get taskUuid = some task ∧ task.runningOn workerId = true) ∧
      ∃ leaseId, s.claimedBy taskUuid = some ⟨workerId, leaseId⟩ ∧
        (⟨workerId, leaseId⟩ : Incarnation) ∈ s.incarnations

/-- Every worker row is that of an incarnation, and so is the claim of every RUNNING task. -/
structure Attributed (s : History) : Prop where
  worker : ∀ worker ∈ s.db.workerRegistry.rows,
    (⟨worker.workerId, worker.leaseId⟩ : Incarnation) ∈ s.incarnations
  task : ∀ task ∈ s.db.task.rows, task.status = .running →
    ∃ by_ ∈ s.incarnations, s.claimedBy task.taskUuid = some by_ ∧
      task.workerId = some by_.workerId

/-! ## One call -/

theorem mem_recordIncarnation {s : History} {by_ : Incarnation} (op : Operation)
    (before : by_ ∈ s.incarnations) : by_ ∈ recordIncarnation s.db op s.incarnations := by
  unfold recordIncarnation
  split
  · split
    · exact List.mem_append_left _ before
    · exact before
  · exact before

theorem attributed_worker {s t : History} {call : Call} (held : Attributed s)
    (stepped : incarnationHistory.step s call = some t) :
    ∀ worker ∈ t.db.workerRegistry.rows,
      (⟨worker.workerId, worker.leaseId⟩ : Incarnation) ∈ t.incarnations := by
  obtain ⟨op, lease⟩ := call
  obtain rfl := Option.some.inj stepped
  intro worker member
  cases ran : op.exec s.db with
  | none =>
      simp only [Operation.apply, ran, Option.getD_none] at member
      exact mem_recordIncarnation op (held.worker worker member)
  | some after =>
      simp only [Operation.apply, ran, Option.getD_some] at member
      cases (effect_of_exec ran).worker_origin member with
      | kept inTable workerId leaseId alive =>
          have before := held.worker _ inTable
          rw [← workerId, ← leaseId] at before
          exact mem_recordIncarnation _ before
      | @beat principal now workerId leaseId before found same =>
          have inBefore := held.worker before (Table.mem_of_get found)
          have kept : (⟨worker.workerId, worker.leaseId⟩ : Incarnation) ∈ s.incarnations := by
            rw [same]
            exact inBefore
          exact mem_recordIncarnation (.heartbeat principal now workerId leaseId) kept
      | registered workerId leaseId =>
          simp [recordIncarnation, ran, workerId, leaseId]

theorem attributed_claim {s : History} (held : Attributed s) {principal : Option TenantPrincipal}
    {now : DateTime} {workerId leaseId lease : String} {taskType : Option TaskType} {t : History}
    (stepped : incarnationHistory.step s
      ⟨.claimNextTask principal now workerId leaseId taskType, lease⟩ = some t) :
    ∀ task ∈ t.db.task.rows, task.status = .running →
      ∃ by_ ∈ t.incarnations, t.claimedBy task.taskUuid = some by_ ∧
        task.workerId = some by_.workerId := by
  obtain rfl := Option.some.inj stepped
  intro task member running
  cases ran : SchedulerService.claimNextTask principal now workerId leaseId taskType s.db with
  | error e =>
      simp only [Operation.apply, Operation.exec, ran, Except.toOption, Option.map_none,
        Option.getD_none] at member
      simpa [recordClaim, recordIncarnation, ran] using held.task task member running
  | ok answer =>
      obtain ⟨claimed, after⟩ := answer
      simp only [Operation.apply, Operation.exec, ran, Except.toOption, Option.map_some,
        Option.getD_some] at member
      obtain ⟨rfl, rfl⟩ | ⟨worker, row, found, admitted, -, -, rfl, rfl⟩ :=
        SchedulerService.claimNextTask_cases ran
      · simpa [recordClaim, recordIncarnation, ran] using held.task task member running
      · have lease : worker.leaseId = leaseId := (WorkerRegistry.mayClaim_eq_true.1 admitted).1
        have mine := held.worker worker (Table.mem_of_get found)
        rw [Table.key_of_get found, lease] at mine
        rcases Table.of_mem_update member with ⟨before, -, same, rfl⟩ | ⟨inTable, other⟩
        · refine ⟨⟨workerId, leaseId⟩, mine, ?_, rfl⟩
          simp [recordClaim, ran, Task.taskUuid_claim, same]
        · obtain ⟨by_, inBefore, claimedBy, owner⟩ := held.task task inTable running
          refine ⟨by_, inBefore, ?_, owner⟩
          simpa [recordClaim, ran, Task.taskUuid_claim, Function.update_of_ne other] using claimedBy

theorem step_attributed {s t : History} {call : Call} (held : Attributed s)
    (stepped : incarnationHistory.step s call = some t) : Attributed t where
  worker := attributed_worker held stepped
  task := by
    obtain ⟨op, lease⟩ := call
    by_cases claim : ∃ principal now workerId leaseId taskType,
        op = .claimNextTask principal now workerId leaseId taskType
    · obtain ⟨principal, now, workerId, leaseId, taskType, rfl⟩ := claim
      exact attributed_claim held stepped
    · obtain rfl := Option.some.inj stepped
      intro task member running
      have other : ∀ principal now workerId leaseId taskType,
          op ≠ .claimNextTask principal now workerId leaseId taskType :=
        fun principal now workerId leaseId taskType same =>
          claim ⟨principal, now, workerId, leaseId, taskType, same⟩
      have before := running_before (effect_of_apply s.db op) other member running
      obtain ⟨by_, inBefore, claimedBy, owner⟩ := held.task task before running
      refine ⟨by_, mem_recordIncarnation op inBefore, ?_, owner⟩
      cases op with
      | claimNextTask principal now workerId leaseId taskType =>
          exact absurd rfl (other principal now workerId leaseId taskType)
      | _ => exact claimedBy

/-- Who finishes a task is its owner, and it is RUNNING. -/
theorem runs_of_finishTask {principal : Option TenantPrincipal} {workerId taskUuid : String}
    {assign : Task → Task} {keeps : ∀ task, (assign task).taskUuid = task.taskUuid}
    {db : Database}
    (isOk : (SchedulerService.finishTask principal workerId taskUuid assign keeps
      db).toOption.isSome = true) :
    ∃ task, db.task.get taskUuid = some task ∧ task.runningOn workerId = true := by
  obtain ⟨after, ran⟩ := Option.isSome_iff_exists.1 isOk
  obtain ⟨task, found, owned, -⟩ := SchedulerService.finishTask_cases (eq_ok_of_toOption ran)
  exact ⟨task, found, owned⟩

/-- A finishing call that is accepted names the owner of a RUNNING task. -/
theorem runs_of_finishes {db : Database} {op : Operation} {workerId taskUuid : String}
    (accepted : finishes db op = some (workerId, taskUuid)) :
    ∃ task, db.task.get taskUuid = some task ∧ task.runningOn workerId = true := by
  cases op with
  | completeTask principal now worker uuid result =>
      simp only [finishes] at accepted
      split at accepted
      · rename_i isOk
        cases accepted
        exact runs_of_finishTask isOk
      · cases accepted
  | failTask principal now worker uuid errorCode errorMessage =>
      simp only [finishes] at accepted
      split at accepted
      · rename_i isOk
        cases accepted
        exact runs_of_finishTask isOk
      · cases accepted
  | _ => cases accepted

theorem finishedByWorker {s t : History} {call : Call} (held : Attributed s) :
    FinishedByWorker s call t := by
  intro workerId taskUuid accepted
  obtain ⟨task, found, runs⟩ := runs_of_finishes accepted
  refine ⟨⟨task, found, runs⟩, ?_⟩
  obtain ⟨running, owner⟩ := Task.runningOn_iff.1 runs
  obtain ⟨by_, inBefore, claimedBy, same⟩ := held.task task (Table.mem_of_get found) running
  rw [Table.key_of_get found] at claimedBy
  obtain rfl : by_.workerId = workerId := Option.some.inj (same.symm.trans owner)
  exact ⟨by_.leaseId, claimedBy, inBefore⟩

/-- **A finishing call ends a claim of the worker it names.**  Over every run of the
services, with any number of incarnations of any worker. -/
theorem finished_by_worker {s : History} (start : Attributed s) (calls : List Call) :
    incarnationHistory.Along FinishedByWorker s calls :=
  Machine.along_of_step (fun _ _ _ held stepped =>
    ⟨step_attributed held stepped, finishedByWorker held⟩) start calls

section Runs

/-- The first incarnation of `w1` loses its task to the reaper, the second one claims
it, and the first one completes it. -/
def completedByOldIncarnation : List Call :=
  [ ⟨.submitTask acmeSdk 0 "t1" .compaction, ""⟩,
    ⟨.registerWorker daemonContext 0 "lease1" { workerId := "w1", workerType := "lifecycle" },
      "lease1"⟩,
    ⟨.claimNextTask daemonContext 1 "w1" "lease1" none, "lease1"⟩,
    ⟨.reapDeadWorkers daemonContext 60 30, ""⟩,
    ⟨.registerWorker daemonContext 61 "lease2" { workerId := "w1", workerType := "lifecycle" },
      "lease2"⟩,
    ⟨.claimNextTask daemonContext 62 "w1" "lease2" none, "lease2"⟩,
    ⟨.completeTask daemonContext 63 "w1" "t1" none, "lease1"⟩ ]

theorem old_incarnation_completes :
    ¬ incarnationHistory.Guarded (fun s call => fenced s call = true) { db := {} }
      completedByOldIncarnation := by
  decide

theorem finished_by_worker_empty :
    incarnationHistory.Along FinishedByWorker { db := {} } completedByOldIncarnation :=
  finished_by_worker ⟨by simp, by simp⟩ _

end Runs

end Lcp.LeaseFencing
