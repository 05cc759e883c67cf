/-
# Invariants.SlotAccounting -- when `in_flight` counts the RUNNING tasks

`claim_next_task` takes a slot, `complete_task`, `fail_task`, `cancel_task` and
the reaper give it back.  Two calls break the count: a repeated registration
zeroes `in_flight` without touching the tasks the worker still runs, and a cancel
of a RUNNING task whose owner is the empty string releases nothing, since the
guard on `task.worker_id` is a truth test.  `slotsBalanced_iff` says that these
are the only ones.

* `Staffed` is the standing invariant: a RUNNING task has a registered owner.
* `Balanced` is the equation for one worker; `SlotsBalanced` for all of them.
-/
import Lcp.Services.Operations

namespace Lcp.SlotAccounting

open Theory

set_option autoImplicit false

/-! ## Every RUNNING task has a registered owner -/

/-- The owner of a RUNNING task has a row in the registry. -/
def Staffed (db : Database) : Prop :=
  ∀ task ∈ db.task.rows, task.status = .running →
    ∃ workerId ∈ db.workerRegistry.keys, task.workerId = some workerId

instance (db : Database) : Decidable (Staffed db) :=
  decidable_of_iff
    (∀ task ∈ db.task.rows, task.status = .running →
      ∃ workerId, workerId ∈ db.workerRegistry.keys ∧ task.workerId = some workerId)
    (by simp [Staffed])

/-- RUNNING rows that were there before keep their owner while no worker row is
deleted. -/
theorem Staffed.mono {db after : Database} (held : Staffed db)
    (running : ∀ task ∈ after.task.rows, task.status = .running → task ∈ db.task.rows)
    (workers : ∀ workerId ∈ db.workerRegistry.keys, workerId ∈ after.workerRegistry.keys) :
    Staffed after := by
  intro task member status
  obtain ⟨workerId, registered, owner⟩ := held task (running task member status) status
  exact ⟨workerId, workers workerId registered, owner⟩

/-- Moving a row to a state other than RUNNING. -/
theorem running_of_update {tasks : Table Task Task.taskUuid} {taskUuid : String}
    (assign : Task → Task) (keeps : ∀ task, (assign task).taskUuid = task.taskUuid)
    (stopped : ∀ task, (assign task).status ≠ .running) {task : Task}
    (member : task ∈ (tasks.update taskUuid assign keeps).rows) (status : task.status = .running) :
    task ∈ tasks.rows := by
  rcases Table.of_mem_update member with ⟨row, -, -, rfl⟩ | ⟨inTable, -⟩
  · exact absurd status (stopped row)
  · exact inTable

/-- Only a claim starts a task. -/
theorem running_before {db after : Database} {op : Operation} (effect : Effect db op after)
    (other : ∀ principal now workerId leaseId taskType,
      op ≠ .claimNextTask principal now workerId leaseId taskType) {task : Task}
    (member : task ∈ after.task.rows) (running : task.status = .running) :
    task ∈ db.task.rows := by
  cases effect with
  | nothing | registered | reregistered | beat | drained => exact member
  | submitted bound inserted =>
      obtain ⟨table, added, rfl, -⟩ := TaskService.insertTask_eq_some inserted
      rcases (Table.mem_insert? added).1 member with old | rfl
      · exact old
      · cases running
  | @cancelled principal now =>
      exact running_of_update (Task.cancel now) (Task.taskUuid_cancel now) (by simp [Task.cancel])
        member running
  | retried =>
      exact running_of_update Task.retry Task.taskUuid_retry (by simp [Task.retry]) member running
  | @claimed principal now workerId leaseId taskType =>
      exact absurd rfl (other principal now workerId leaseId taskType)
  | @completed principal now workerId taskUuid result =>
      exact running_of_update (Task.complete now result) (Task.taskUuid_complete now result)
        (by simp [Task.complete]) member running
  | @failed principal now workerId taskUuid errorCode errorMessage =>
      exact running_of_update (Task.fail now errorCode errorMessage)
        (Task.taskUuid_fail now errorCode errorMessage) (by simp [Task.fail]) member running
  | reaped =>
      rw [SchedulerService.reap_task_rows, List.mem_map] at member
      obtain ⟨row, inTable, rfl⟩ := member
      unfold Task.requeueFrom at running ⊢
      split at running
      · cases running
      · rename_i free
        rwa [if_neg free]

theorem Staffed.claim {db : Database} (held : Staffed db) {now : DateTime} {workerId : String}
    {worker : WorkerRegistry} (task : Task)
    (found : db.workerRegistry.get workerId = some worker) :
    Staffed (SchedulerService.claimTask now workerId worker task db) := by
  intro row member status
  have keys : (SchedulerService.claimTask now workerId worker task db).workerRegistry.keys =
      db.workerRegistry.keys :=
    Table.keys_update db.workerRegistry workerId
      (WorkerRegistry.setInFlight (worker.inFlight + 1)) (WorkerRegistry.workerId_setInFlight _)
  rw [keys]
  rcases Table.of_mem_update member with ⟨before, -, -, rfl⟩ | ⟨inTable, -⟩
  · exact ⟨workerId, Table.mem_keys_of_get found, rfl⟩
  · exact held row inTable status

theorem Staffed.reap {db : Database} (held : Staffed db) (stale : List WorkerRegistry) :
    Staffed (stale.foldl (fun db worker => SchedulerService.reapWorker worker db) db) := by
  refine held.mono ?_ ?_
  · intro task member status
    rw [SchedulerService.reap_task_rows, List.mem_map] at member
    obtain ⟨row, inTable, rfl⟩ := member
    unfold Task.requeueFrom at status ⊢
    split at status
    · cases status
    · rename_i free
      rwa [if_neg free]
  · intro workerId registered
    obtain ⟨worker, inTable, rfl⟩ := List.mem_map.1 registered
    rw [Table.keys, SchedulerService.reap_worker_rows, List.map_map]
    refine List.mem_map.2 ⟨worker, inTable, ?_⟩
    show (if _ then worker.bury else worker).workerId = worker.workerId
    split <;> rfl

/-- Every call keeps the RUNNING tasks staffed. -/
theorem Staffed.apply {db : Database} (held : Staffed db) (op : Operation) :
    Staffed (op.apply db) := by
  have effect := effect_of_apply db op
  generalize op.apply db = after at effect ⊢
  cases effect with
  | nothing => exact held
  | submitted bound inserted =>
      obtain ⟨table, added, rfl, -⟩ := TaskService.insertTask_eq_some inserted
      refine held.mono (fun task member status => ?_) fun _ => id
      rcases (Table.mem_insert? added).1 member with old | rfl
      · exact old
      · cases status
  | @cancelled principal now taskUuid task got cancellable =>
      refine held.mono (fun task =>
        running_of_update (Task.cancel now) (Task.taskUuid_cancel now) (by simp [Task.cancel])) ?_
      intro workerId registered
      cases owner : task.slotOwner with
      | none => simpa [owner] using registered
      | some released => simpa [owner] using registered
  | retried =>
      exact held.mono (fun task =>
        running_of_update Task.retry Task.taskUuid_retry (by simp [Task.retry])) fun _ => id
  | registered absent inserted =>
      refine held.mono (fun task member _ => member) fun workerId registered => ?_
      rw [Table.keys_insert? inserted]
      exact List.mem_append_left _ registered
  | reregistered => exact held.mono (fun task member _ => member) (by simp)
  | beat => exact held.mono (fun task member _ => member) (by simp)
  | drained => exact held.mono (fun task member _ => member) (by simp)
  | @claimed principal now workerId leaseId taskType worker task found =>
      exact held.claim task found
  | @completed principal now workerId taskUuid result =>
      refine held.mono (fun task =>
        running_of_update (Task.complete now result)
          (Task.taskUuid_complete now result) (by simp [Task.complete])) ?_
      simp [SchedulerService.decrementInFlight]
  | @failed principal now workerId taskUuid errorCode errorMessage =>
      refine held.mono (fun task => running_of_update (Task.fail now errorCode errorMessage)
        (Task.taskUuid_fail now errorCode errorMessage) (by simp [Task.fail])) ?_
      simp [SchedulerService.decrementInFlight]
  | reaped => exact held.reap _

/-! ## The count -/

/-- The slots a worker has handed out are its RUNNING tasks. -/
def Balanced (tasks : Table Task Task.taskUuid) (worker : WorkerRegistry) : Prop :=
  worker.inFlight = tasks.count (Task.runningOn worker.workerId)

def SlotsBalanced (db : Database) : Prop :=
  ∀ worker ∈ db.workerRegistry.rows, Balanced db.task worker

instance (db : Database) : Decidable (SlotsBalanced db) := by
  unfold SlotsBalanced Balanced; infer_instance

/-- The call does not zero the counter of a worker that still runs something, and
does not cancel a RUNNING task whose owner reads as false. -/
def KeepsSlots (db : Database) : Operation → Prop
  | .registerWorker principal _ _ args =>
      requireSystemContext principal = true →
        ∀ task ∈ db.task.rows, task.runningOn args.workerId = false
  | .cancelTask principal _ taskUuid =>
      ∀ task, TaskService.getTask principal taskUuid db = .ok task → task.runningOn "" = false
  | _ => True

instance (db : Database) (op : Operation) : Decidable (KeepsSlots db op) :=
  match op with
  | .cancelTask principal _ taskUuid =>
      match got : TaskService.getTask principal taskUuid db with
      | .error _ => isTrue fun task other => by simp [got] at other
      | .ok task =>
          decidable_of_iff (task.runningOn "" = false)
            ⟨fun free other same => by
              obtain rfl := Except.ok.inj (got.symm.trans same)
              exact free, fun free => free task got⟩
  | .registerWorker .. => by
      unfold KeepsSlots
      infer_instance
  | .submitTask .. | .retryTask .. | .heartbeat .. | .drainWorker .. | .claimNextTask ..
  | .completeTask .. | .failTask .. | .reapDeadWorkers .. => isTrue trivial

/-- A call that moves no task into or out of RUNNING and no counter. -/
theorem SlotsBalanced.mono {db after : Database} (held : SlotsBalanced db)
    (counts : ∀ workerId, after.task.count (Task.runningOn workerId) =
      db.task.count (Task.runningOn workerId))
    (workers : ∀ worker ∈ after.workerRegistry.rows, ∃ before ∈ db.workerRegistry.rows,
      before.workerId = worker.workerId ∧ before.inFlight = worker.inFlight) :
    SlotsBalanced after := by
  intro worker member
  obtain ⟨before, inTable, sameId, sameSlots⟩ := workers worker member
  rw [Balanced, counts, ← sameId, ← sameSlots]
  exact held before inTable

/-- Rewriting a row that is not RUNNING into one that is not moves no count. -/
theorem count_of_idle_update {tasks : Table Task Task.taskUuid} {taskUuid : String}
    (assign : Task → Task) (keeps : ∀ task, (assign task).taskUuid = task.taskUuid) {task : Task}
    (found : tasks.get taskUuid = some task) (workerId : String)
    (idle : task.runningOn workerId = false) (stopped : (assign task).status ≠ .running) :
    (tasks.update taskUuid assign keeps).count (Task.runningOn workerId) =
      tasks.count (Task.runningOn workerId) := by
  have still : (assign task).runningOn workerId = false := by simp [Task.runningOn, stopped]
  have moved := Table.count_update found assign keeps (Task.runningOn workerId)
  simpa [idle, still] using moved

/-- The owner of a RUNNING task is the only worker that counts it. -/
theorem runningOn_other {task : Task} {owner workerId : String}
    (owned : task.runningOn owner = true) (other : workerId ≠ owner) :
    task.runningOn workerId = false := by
  obtain ⟨-, owner_⟩ := Task.runningOn_iff.1 owned
  simp [Task.runningOn, owner_, other.symm]

/-- A RUNNING task stops and its owner's slot is released. -/
theorem SlotsBalanced.release {db : Database} (held : SlotsBalanced db) {taskUuid owner : String}
    {task : Task} (found : db.task.get taskUuid = some task)
    (owned : task.runningOn owner = true) (assign : Task → Task)
    (keeps : ∀ task, (assign task).taskUuid = task.taskUuid)
    (stopped : (assign task).status ≠ .running) :
    SlotsBalanced (SchedulerService.decrementInFlight owner
      { db with task := db.task.update taskUuid assign keeps }) := by
  intro worker member
  show worker.inFlight = (db.task.update taskUuid assign keeps).count _
  have moved := Table.count_update found assign keeps (Task.runningOn owner)
  have still : (assign task).runningOn owner = false := by simp [Task.runningOn, stopped]
  rw [if_pos owned, still] at moved
  rcases Table.of_mem_update member with ⟨before, inTable, same, rfl⟩ | ⟨inTable, other⟩
  · have balanced : before.inFlight = db.task.count (Task.runningOn before.workerId) :=
      held before inTable
    rw [same] at balanced
    rw [WorkerRegistry.workerId_decrementInFlight, same]
    simp only [WorkerRegistry.decrementInFlight]
    split <;> simp at moved <;> omega
  · rw [count_of_idle_update assign keeps found _ (runningOn_other owned other) stopped]
    exact held worker inTable

/-- A dispatchable task starts and the claimer's slot is taken. -/
theorem SlotsBalanced.claim {db : Database} (held : SlotsBalanced db) {now : DateTime}
    {workerId : String} {worker : WorkerRegistry} {task : Task} {taskType : Option TaskType}
    (found : db.workerRegistry.get workerId = some worker) (member : task ∈ db.task.rows)
    (wanted : task.dispatchable taskType = true) :
    SlotsBalanced (SchedulerService.claimTask now workerId worker task db) := by
  have waiting : task.status ≠ .running := by
    rcases (Task.dispatchable_iff.1 wanted).1 with status | status <;> simp [status]
  have moved := fun id => Table.count_update (Table.get_of_mem member) (Task.claim workerId now)
    (Task.taskUuid_claim workerId now) (Task.runningOn id)
  have idle : ∀ id, task.runningOn id = false := fun id => by simp [Task.runningOn, waiting]
  intro row rowMember
  show row.inFlight = (db.task.update task.taskUuid (Task.claim workerId now)
    (Task.taskUuid_claim workerId now)).count (Task.runningOn row.workerId)
  rcases Table.of_mem_update rowMember with ⟨before, inTable, same, rfl⟩ | ⟨inTable, other⟩
  · obtain rfl : before = worker := Table.eq_of_key_eq inTable (Table.mem_of_get found)
      (same.trans (Table.key_of_get found).symm)
    have balanced : before.inFlight = db.task.count (Task.runningOn before.workerId) :=
      held before inTable
    have taken := moved before.workerId
    have runs : (task.claim workerId now).runningOn before.workerId = true := by
      simp [Task.runningOn, Task.claim, same]
    rw [idle, runs] at taken
    simp at taken
    show before.inFlight + 1 = (db.task.update task.taskUuid (Task.claim workerId now)
      (Task.taskUuid_claim workerId now)).count (Task.runningOn before.workerId)
    omega
  · have elsewhere : (task.claim workerId now).runningOn row.workerId = false := by
      simp [Task.runningOn, Task.claim, Ne.symm other]
    have same := moved row.workerId
    rw [idle, elsewhere] at same
    simp at same
    rw [same]
    exact held row inTable

/-- The reaper zeroes a stale worker and requeues everything it ran. -/
theorem SlotsBalanced.reap {db : Database} (held : SlotsBalanced db)
    (stale : List WorkerRegistry) :
    SlotsBalanced (stale.foldl (fun db worker => SchedulerService.reapWorker worker db) db) := by
  intro row member
  rw [SchedulerService.reap_worker_rows, List.mem_map] at member
  obtain ⟨worker, inTable, rfl⟩ := member
  have keep : worker.inFlight = db.task.count (Task.runningOn worker.workerId) :=
    held worker inTable
  unfold Balanced Table.count
  rw [SchedulerService.reap_task_rows, List.countP_map]
  by_cases buried : worker.workerId ∈ stale.map WorkerRegistry.workerId
  · rw [if_pos buried]
    show 0 = _
    symm
    rw [List.countP_eq_zero]
    intro task _
    obtain ⟨other, isStale, same⟩ := List.mem_map.1 buried
    show ¬ (task.requeueFrom stale).runningOn worker.workerId = true
    unfold Task.requeueFrom
    split
    · simp [Task.requeue_not_runningOn]
    · rename_i free
      intro running
      exact free (List.any_eq_true.2 ⟨other, isStale, same ▸ running⟩)
  · rw [if_neg buried, keep]
    refine List.countP_congr fun task _ => ?_
    show _ ↔ (task.requeueFrom stale).runningOn worker.workerId = true
    unfold Task.requeueFrom
    split
    · rename_i orphan
      obtain ⟨other, isStale, running⟩ := List.any_eq_true.1 orphan
      have different : worker.workerId ≠ other.workerId := fun same =>
        buried (same ▸ List.mem_map_of_mem isStale)
      simp [runningOn_other running different, Task.requeue_not_runningOn]
    · rfl

/-- A row of an updated registry whose counter the update leaves alone. -/
theorem before_of_update {workers : Table WorkerRegistry WorkerRegistry.workerId}
    {workerId : String} (assign : WorkerRegistry → WorkerRegistry)
    (keeps : ∀ worker, (assign worker).workerId = worker.workerId)
    (sameSlots : ∀ worker, (assign worker).inFlight = worker.inFlight) {worker : WorkerRegistry}
    (member : worker ∈ (workers.update workerId assign keeps).rows) :
    ∃ before ∈ workers.rows, before.workerId = worker.workerId ∧
      before.inFlight = worker.inFlight := by
  rcases Table.of_mem_update member with ⟨before, inTable, -, rfl⟩ | ⟨inTable, -⟩
  · exact ⟨before, inTable, (keeps before).symm, (sameSlots before).symm⟩
  · exact ⟨worker, inTable, rfl, rfl⟩

/-- Nothing runs on a worker that has no row. -/
theorem Staffed.idle {db : Database} (staffed : Staffed db) {workerId : String}
    (absent : db.workerRegistry.get workerId = none) {task : Task} (member : task ∈ db.task.rows) :
    task.runningOn workerId = false := by
  by_contra running
  obtain ⟨status, owner⟩ := Task.runningOn_iff.1 (by simpa using running)
  obtain ⟨registered, inKeys, same⟩ := staffed task member status
  obtain rfl : workerId = registered := Option.some.inj (owner.symm.trans same)
  obtain ⟨worker, inTable, hit⟩ := List.mem_map.1 inKeys
  exact Table.get_eq_none.1 absent worker inTable hit

/-- One call that keeps the slots keeps the equation. -/
theorem apply_keeps {db : Database} {op : Operation} (staffed : Staffed db)
    (held : SlotsBalanced db) (keeps : KeepsSlots db op) : SlotsBalanced (op.apply db) := by
  have effect := effect_of_apply db op
  generalize op.apply db = after at effect ⊢
  cases effect with
  | nothing => exact held
  | submitted bound inserted =>
      obtain ⟨table, added, rfl, -⟩ := TaskService.insertTask_eq_some inserted
      refine held.mono (fun workerId => ?_) fun worker member => ⟨worker, member, rfl, rfl⟩
      show table.count _ = _
      rw [Table.count_insert? added]
      rfl
  | @cancelled principal now taskUuid task got cancellable =>
      have found := (TaskService.getTask_eq_ok got).1
      cases owner : task.slotOwner with
      | some workerId =>
          exact held.release found (Task.slotOwner_eq_some.1 owner).1 (Task.cancel now)
            (Task.taskUuid_cancel now) (by simp [Task.cancel])
      | none =>
          have idle : ∀ workerId, task.runningOn workerId = false := by
            intro workerId
            by_contra running
            have running : task.runningOn workerId = true := by simpa using running
            by_cases empty : workerId = ""
            · have free : task.runningOn "" = false := keeps task got
              rw [← empty, running] at free
              cases free
            · have slot := Task.slotOwner_eq_some.2 ⟨running, empty⟩
              rw [owner] at slot
              cases slot
          exact held.mono (fun workerId => count_of_idle_update (Task.cancel now)
            (Task.taskUuid_cancel now) found workerId (idle workerId) (by simp [Task.cancel]))
            fun worker member => ⟨worker, member, rfl, rfl⟩
  | @retried principal taskUuid task got failed budget =>
      have idle : ∀ workerId, task.runningOn workerId = false := by
        simp [Task.runningOn, failed]
      exact held.mono (fun workerId => count_of_idle_update Task.retry Task.taskUuid_retry
        (TaskService.getTask_eq_ok got).1 workerId (idle workerId) (by simp [Task.retry]))
        fun worker member => ⟨worker, member, rfl, rfl⟩
  | @registered principal now newLease args registry absent inserted =>
      intro worker member
      rcases (Table.mem_insert? inserted).1 member with old | rfl
      · exact held worker old
      · have idle : db.task.count (Task.runningOn args.workerId) = 0 :=
          Table.count_eq_zero.2 fun task inTable => staffed.idle absent inTable
        exact idle.symm
  | @reregistered principal now newLease args existing system found =>
      intro worker member
      rcases Table.of_mem_update member with ⟨before, inTable, same, rfl⟩ | ⟨inTable, -⟩
      · have idle : db.task.count (Task.runningOn before.workerId) = 0 :=
          Table.count_eq_zero.2 fun task inTasks => same ▸ keeps system task inTasks
        exact idle.symm
      · exact held worker inTable
  | @beat principal now =>
      exact held.mono (fun _ => rfl) fun worker member =>
        before_of_update (WorkerRegistry.beat now) (WorkerRegistry.workerId_beat now)
          (fun _ => rfl) member
  | drained =>
      exact held.mono (fun _ => rfl) fun worker member =>
        before_of_update WorkerRegistry.drain WorkerRegistry.workerId_drain (fun _ => rfl) member
  | claimed found admitted member wanted => exact held.claim found member wanted
  | @completed principal now workerId taskUuid result task found owned =>
      exact held.release found owned (Task.complete now result)
        (Task.taskUuid_complete now result) (by simp [Task.complete])
  | @failed principal now workerId taskUuid errorCode errorMessage task found owned =>
      exact held.release found owned (Task.fail now errorCode errorMessage)
        (Task.taskUuid_fail now errorCode errorMessage) (by simp [Task.fail])
  | reaped => exact held.reap _

/-- One call that does not keep the slots breaks the equation. -/
theorem keeps_of_apply {db : Database} {op : Operation} (staffed : Staffed db)
    (held : SlotsBalanced db) (after : SlotsBalanced (op.apply db)) : KeepsSlots db op := by
  cases op with
  | registerWorker principal now newLease args =>
      intro system
      cases found : db.workerRegistry.get args.workerId with
      | none => exact fun task member => staffed.idle found member
      | some existing =>
          rw [apply_registerWorker_of_get system found] at after
          have refreshed : args.refresh newLease now existing ∈
              (db.workerRegistry.update args.workerId (args.refresh newLease now)
                (args.workerId_refresh newLease now)).rows :=
            Table.mem_update_self (Table.mem_of_get found) (Table.key_of_get found)
          have zero : 0 = db.task.count (Task.runningOn existing.workerId) := after _ refreshed
          rw [Table.key_of_get found] at zero
          exact Table.count_eq_zero.1 zero.symm
  | cancelTask principal now taskUuid =>
      intro task got
      by_contra running
      have running : task.runningOn "" = true := by simpa using running
      obtain ⟨status, owner⟩ := Task.runningOn_iff.1 running
      have found := (TaskService.getTask_eq_ok got).1
      have noSlot : task.slotOwner = none := by simp [Task.slotOwner, status, owner]
      rw [apply_cancelTask_of_no_slot got (by simp [Task.cancellable, status]) noSlot] at after
      obtain ⟨workerId, inKeys, same⟩ := staffed task (Table.mem_of_get found) status
      obtain rfl : "" = workerId := Option.some.inj (owner.symm.trans same)
      obtain ⟨worker, inTable, hit⟩ := List.mem_map.1 inKeys
      have before : worker.inFlight = db.task.count (Task.runningOn worker.workerId) :=
        held worker inTable
      have now_ : worker.inFlight = (db.task.update taskUuid (Task.cancel now)
          (Task.taskUuid_cancel now)).count (Task.runningOn worker.workerId) := after worker inTable
      have moved := Table.count_update found (Task.cancel now) (Task.taskUuid_cancel now)
        (Task.runningOn worker.workerId)
      have still : (task.cancel now).runningOn worker.workerId = false := by
        simp [Task.runningOn, Task.cancel]
      rw [still, hit, if_pos running] at moved
      rw [hit] at before now_
      simp at moved
      omega
  | _ => trivial

/-- **Slots are balanced exactly when every call keeps them.**  Over every run of
the services from balanced and staffed rows. -/
theorem slotsBalanced_iff {db : Database} (staffed : Staffed db) (start : SlotsBalanced db)
    (ops : List Operation) :
    controlPlane.Always SlotsBalanced db ops ↔ controlPlane.Guarded KeepsSlots db ops := by
  refine Machine.always_iff_guarded (J := Staffed) ?_ ?_ staffed start
  · rintro db op after staffed stepped
    obtain rfl : op.apply db = after := by simpa using stepped
    exact staffed.apply op
  · rintro db op after staffed held stepped
    obtain rfl : op.apply db = after := by simpa using stepped
    exact ⟨keeps_of_apply staffed held, apply_keeps staffed held⟩

section Runs

/-- A tenant submits one task, `workerId` registers and claims it. -/
def claimedBy (workerId : String) : List Operation :=
  [ .submitTask acmeSdk 0 "t1" .compaction,
    .registerWorker daemonContext 0 "lease1" { workerId, workerType := "lifecycle" },
    .claimNextTask daemonContext 1 workerId "lease1" none ]

/-- The worker restarts and registers again while its task is RUNNING. -/
def registeredTwice : List Operation :=
  claimedBy "w1" ++
    [.registerWorker daemonContext 2 "lease2" { workerId := "w1", workerType := "lifecycle" }]

/-- A RUNNING task of the worker with the empty name is cancelled. -/
def cancelledUnnamed : List Operation := claimedBy "" ++ [.cancelTask acmeSdk 2 "t1"]

theorem slots_drift :
    ¬ controlPlane.Always SlotsBalanced {} registeredTwice ∧
      ¬ controlPlane.Always SlotsBalanced {} cancelledUnnamed :=
  ⟨Machine.not_always_of_run rfl (by decide), Machine.not_always_of_run rfl (by decide)⟩

/-- A cancel of a named worker's task and a registration after it keep the count. -/
theorem slotsBalanced_idle_restart :
    controlPlane.Always SlotsBalanced {} (claimedBy "w1" ++
      [.cancelTask acmeSdk 2 "t1",
        .registerWorker daemonContext 3 "lease2"
          { workerId := "w1", workerType := "lifecycle" }]) :=
  (slotsBalanced_iff (by decide) (by decide) _).2 (by decide)

end Runs

end Lcp.SlotAccounting
