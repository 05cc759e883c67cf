/-
# Sessions.Serializable -- the sessions refine the operations

The operations of the two services were verified as atomic steps; what runs are sessions
that interleave.  `serializable` relates the two: in every interleaving in which no UPDATE
overwrites a row that changed since its session read it, the committed rows come from the
calls of the ledger one after the other, in the order of their commits, with the arguments
that their callers gave.

Each of these is the service call run alone, but for the two that read with SKIP LOCKED: a
claim that passed over locked rows takes some dispatchable task and not always the first one
of the queue (`Atomic.claimed`), and such a reaper buries some of the stale workers
(`Atomic.reaped`).

The lock that an UPDATE takes keeps its copy exact until the commit (`Exact`).  For the tasks
of claims and for what a reaper collects the SELECT ... FOR UPDATE has done so already.

So an invariant of the operations holds in these interleavings; `slots_kept` is the slot
accounting.
-/
import Lcp.Invariants.SlotAccounting
import Lcp.Sessions.Capacity
import Lcp.Sessions.CopyCurrency
import Lcp.Sessions.WorkerRows
import Lcp.Theory.Refinement

namespace Lcp.Sessions

open Theory World

set_option autoImplicit false

/-! ## The rows of a commit from exact copies -/

/-- The committed row is the copy that the UPDATE was computed from. -/
def Statement.exact (db : Database) : Statement → Bool
  | .task loaded _ => db.task.get loaded.taskUuid = some loaded
  | .worker loaded _ => db.workerRegistry.get loaded.workerId = some loaded
  | .decrement _ => true

section Rows

variable {db : Database}

/-- An UPDATE of an exact copy is the assignment itself. -/
theorem apply_task {loaded : Task} (assign : Task → Task)
    (keeps : ∀ task, (assign task).taskUuid = task.taskUuid)
    (flush : Task.flush loaded (assign loaded) loaded = assign loaded)
    (exact : db.task.get loaded.taskUuid = some loaded) :
    (Statement.task loaded (assign loaded)).apply db =
      { db with task := db.task.update loaded.taskUuid assign keeps } := by
  have same : db.task.update loaded.taskUuid (Task.flush loaded (assign loaded))
      (Task.taskUuid_flush loaded (assign loaded)) =
        db.task.update loaded.taskUuid assign keeps := by
    refine Table.update_congr _ keeps fun row found => ?_
    obtain rfl := Option.some.inj (exact.symm.trans found)
    exact flush
  rw [Statement.apply, same]

theorem apply_worker {loaded : WorkerRegistry} (assign : WorkerRegistry → WorkerRegistry)
    (keeps : ∀ worker, (assign worker).workerId = worker.workerId)
    (flush : WorkerRegistry.flush loaded (assign loaded) loaded = assign loaded)
    (exact : db.workerRegistry.get loaded.workerId = some loaded) :
    (Statement.worker loaded (assign loaded)).apply db =
      { db with workerRegistry := db.workerRegistry.update loaded.workerId assign keeps } := by
  have same : db.workerRegistry.update loaded.workerId
      (WorkerRegistry.flush loaded (assign loaded))
      (WorkerRegistry.workerId_flush loaded (assign loaded)) =
        db.workerRegistry.update loaded.workerId assign keeps := by
    refine Table.update_congr _ keeps fun row found => ?_
    obtain rfl := Option.some.inj (exact.symm.trans found)
    exact flush
  rw [Statement.apply, same]

/-- The UPDATEs that requeue the collected tasks, as one rewrite. -/
theorem foldl_requeues {tasks : List Task} (distinct : (tasks.map Task.taskUuid).Nodup)
    (exact : ∀ task ∈ tasks, db.task.get task.taskUuid = some task) :
    (tasks.map fun task => Statement.task task task.requeue).foldl Statement.apply db =
      { db with
        task := db.task.modify (fun row => if row ∈ tasks then row.requeue else row)
          (fun row => by split <;> rfl) } := by
  induction tasks generalizing db with
  | nil =>
      have same : db.task.modify (fun row => if row ∈ ([] : List Task) then row.requeue else row)
          (fun row => by split <;> rfl) = db.task := Table.ext (by simp)
      rw [same]
      rfl
  | cons head rest ih =>
      obtain ⟨fresh, later⟩ := List.nodup_cons.1 distinct
      have others : ∀ task ∈ rest, task.taskUuid ≠ head.taskUuid := fun task member same =>
        fresh (List.mem_map.2 ⟨task, member, same⟩)
      have step := apply_task Task.requeue (fun _ => rfl) (flush_requeue head)
        (exact head List.mem_cons_self)
      rw [List.map_cons, List.foldl_cons, step, ih later]
      · congr 1
        refine Table.ext ?_
        show (db.task.rows.map fun row =>
          if row.taskUuid = head.taskUuid then row.requeue else row).map _ = db.task.rows.map _
        rw [List.map_map]
        refine List.map_congr_left fun row inTable => ?_
        show (if (if row.taskUuid = head.taskUuid then row.requeue else row) ∈ rest then _ else _) =
          if row ∈ head :: rest then row.requeue else row
        by_cases hit : row.taskUuid = head.taskUuid
        · have here := exact head List.mem_cons_self
          rw [← hit, Table.get_of_mem inTable] at here
          obtain rfl := Option.some.inj here
          have gone : row.requeue ∉ rest := fun member => others _ member rfl
          simp [gone]
        · have ne : row ≠ head := fun same => hit (congrArg Task.taskUuid same)
          simp [hit, ne]
      · intro task member
        refine (Table.get_update db.task head.taskUuid task.taskUuid Task.requeue
          fun _ => rfl).trans ?_
        rw [if_neg (others task member)]
        exact exact task (List.mem_cons_of_mem _ member)

/-- The UPDATEs of a reaper for a worker whose RUNNING tasks it has. -/
theorem foldl_reapStatements {entry : WorkerRegistry × List Task}
    (worker : db.workerRegistry.get entry.1.workerId = some entry.1)
    (distinct : (entry.2.map Task.taskUuid).Nodup)
    (exact : ∀ task ∈ entry.2, db.task.get task.taskUuid = some task)
    (running : ∀ task ∈ db.task.rows, task ∈ entry.2 ↔ task.runningOn entry.1.workerId = true) :
    (reapStatements entry).foldl Statement.apply db = SchedulerService.reapWorker entry.1 db := by
  have here : ((entry.2.map fun task => Statement.task task task.requeue).foldl Statement.apply
      db).workerRegistry.get entry.1.workerId = some entry.1 := by
    rw [foldl_requeues distinct exact]
    exact worker
  have buried := apply_worker WorkerRegistry.bury WorkerRegistry.workerId_bury
    (flush_bury entry.1) here
  rw [reapStatements, List.foldl_append]
  refine buried.trans ?_
  rw [foldl_requeues distinct exact]
  unfold SchedulerService.reapWorker
  congr 1
  refine Table.ext (List.map_congr_left fun row inTable => ?_)
  simp only [running row inTable]

/-- The UPDATEs of a reaper for all of its workers. -/
theorem foldl_reaping {done : List (WorkerRegistry × List Task)}
    (distinct : (done.map fun entry => entry.1.workerId).Nodup)
    (workers : ∀ entry ∈ done, db.workerRegistry.get entry.1.workerId = some entry.1)
    (tasks : ∀ entry ∈ done, (entry.2.map Task.taskUuid).Nodup ∧ ∀ task ∈ entry.2,
      db.task.get task.taskUuid = some task ∧ task.runningOn entry.1.workerId = true)
    (collected : ∀ entry ∈ done, ∀ task ∈ db.task.rows,
      task.runningOn entry.1.workerId = true → task ∈ entry.2) :
    (done.flatMap reapStatements).foldl Statement.apply db =
      (done.map Prod.fst).foldl (fun db worker => SchedulerService.reapWorker worker db) db := by
  induction done generalizing db with
  | nil => rfl
  | cons entry rest ih =>
      obtain ⟨fresh, later⟩ := List.nodup_cons.1 distinct
      have others : ∀ other ∈ rest, other.1.workerId ≠ entry.1.workerId :=
        fun other member same => fresh (List.mem_map.2 ⟨other, member, same⟩)
      obtain ⟨nodup, mine⟩ := tasks entry List.mem_cons_self
      have first := foldl_reapStatements (workers entry List.mem_cons_self) nodup
        (fun task member => (mine task member).1) fun task inTable =>
          ⟨fun member => (mine task member).2, collected entry List.mem_cons_self task inTable⟩
      rw [List.flatMap_cons, List.foldl_append, first, List.map_cons, List.foldl_cons]
      -- The pass over one worker leaves the rows of the other workers' tasks alone.
      have untouched : ∀ other ∈ rest, ∀ task : Task, task.runningOn other.1.workerId = true →
          task.runningOn entry.1.workerId = false := by
        intro other member task runs
        obtain ⟨status, owner⟩ := Task.runningOn_iff.1 runs
        by_contra both
        have again := (Task.runningOn_iff.1 (Bool.eq_true_of_not_eq_false both)).2
        exact others other member (Option.some.inj (owner.symm.trans again))
      refine ih later ?_ ?_ ?_
      · intro other member
        refine (Table.get_update _ _ _ _ WorkerRegistry.workerId_bury).trans ?_
        rw [if_neg (others other member)]
        exact workers other (List.mem_cons_of_mem _ member)
      · intro other member
        obtain ⟨distinctTasks, held⟩ := tasks other (List.mem_cons_of_mem _ member)
        refine ⟨distinctTasks, fun task inEntry => ?_⟩
        obtain ⟨found, runs⟩ := held task inEntry
        refine ⟨?_, runs⟩
        refine (Table.get_modify db.task
          (fun task => if task.runningOn entry.1.workerId then task.requeue else task)
          (fun task => by split <;> rfl) task.taskUuid).trans ?_
        rw [found, Option.map_some, if_neg (by simp [untouched other member task runs])]
      · intro other member task inTable runs
        obtain ⟨row, before, rfl⟩ := List.mem_map.1 inTable
        by_cases hit : row.runningOn entry.1.workerId = true
        · rw [if_pos hit, Task.requeue_not_runningOn] at runs
          cases runs
        · rw [if_neg hit] at runs ⊢
          exact collected other (List.mem_cons_of_mem _ member) row before runs

end Rows

/-! ## One operation at a time -/

/-- The principal that worker-side calls run under. -/
def system : Option TenantPrincipal := some (systemPrincipal "scheduler")

/-- The operations that the sessions run. -/
def runsInSessions : Operation → Bool
  | .submitTask .. | .registerWorker .. => false
  | _ => true

/-- **What one call does alone**: it returns and leaves these rows, except that a claim may be
of another dispatchable task than the first, and a reaper may pass over stale workers, when
sessions that have since ended held their rows. -/
inductive Atomic (db : Database) : Operation → Database → Prop
  | alone {op : Operation} {after : Database} (ours : runsInSessions op = true)
      (ran : op.exec db = some after) : Atomic db op after
  | claimed {now : DateTime} {workerId leaseId : String} {taskType : Option TaskType}
      {worker : WorkerRegistry} {task : Task} (found : db.workerRegistry.get workerId = some worker)
      (admitted : worker.mayClaim leaseId = .ok true) (member : task ∈ db.task.rows)
      (wanted : task.dispatchable taskType = true) :
      Atomic db (.claimNextTask system now workerId leaseId taskType)
        (SchedulerService.claimTask now workerId worker task db)
  | reaped {now : DateTime} {timeout : TimeDelta} {stale : List WorkerRegistry}
      (distinct : (stale.map WorkerRegistry.workerId).Nodup)
      (members : ∀ worker ∈ stale, worker ∈ db.workerRegistry.rows ∧
        worker.stale now timeout = true) :
      Atomic db (.reapDeadWorkers system now timeout)
        (stale.foldl (fun db worker => SchedulerService.reapWorker worker db) db)

/-- The operation of `complete_task` or `fail_task`. -/
def Outcome.operation (workerId taskUuid : String) (now : DateTime) : Outcome → Operation
  | .complete result => .completeTask system now workerId taskUuid result
  | .fail errorCode errorMessage => .failTask system now workerId taskUuid errorCode errorMessage

/-- The call is the operation past its tests. -/
def Call.Of (op : Operation) : Call → Prop
  | .claim worker task now =>
      ∃ taskType, op = .claimNextTask system now worker.workerId worker.leaseId taskType ∧
        worker.mayClaim worker.leaseId = .ok true ∧ task.dispatchable taskType = true
  | .finish workerId task outcome now =>
      op = outcome.operation workerId task.taskUuid now ∧ task.runningOn workerId = true
  | .cancel task now =>
      ∃ caller : TenantPrincipal, op = .cancelTask (some caller) now task.taskUuid ∧
        caller.sees task.tenantId = true ∧ task.cancellable = true
  | .retry task =>
      ∃ caller : TenantPrincipal, op = .retryTask (some caller) task.taskUuid ∧
        caller.sees task.tenantId = true ∧ task.checkRetry = .ok ()

/-- The assignment is that of the operation, past its test. -/
def TendOf (loaded modified : WorkerRegistry) (op : Operation) : Prop :=
  (∃ now, op = .heartbeat system now loaded.workerId loaded.leaseId ∧
    modified = loaded.beat now) ∨
  (op = .drainWorker system loaded.workerId ∧ loaded.status ≠ .dead ∧ modified = loaded.drain)

section Commits

variable {db : Database} {op : Operation}

theorem getTask_of_get {caller : TenantPrincipal} {task : Task}
    (found : db.task.get task.taskUuid = some task) (sees : caller.sees task.tenantId = true) :
    TaskService.getTask (some caller) task.taskUuid db = .ok task := by
  simp [TaskService.getTask, found, sees]

theorem atomic_claim {worker : WorkerRegistry} {task : Task} {now : DateTime}
    (of : (Call.claim worker task now).Of op)
    (exact : ∀ statement ∈ (Call.claim worker task now).statements, statement.exact db = true) :
    Atomic db op ((Call.claim worker task now).statements.foldl Statement.apply db) := by
  obtain ⟨taskType, rfl, admitted, wanted⟩ := of
  have taskRow : db.task.get task.taskUuid = some task :=
    of_decide_eq_true (exact (.task task (task.claim worker.workerId now)) (by
      simp [Call.statements, Call.task, Call.modified]))
  have workerRow : db.workerRegistry.get worker.workerId = some worker :=
    of_decide_eq_true (exact (.worker worker (worker.setInFlight (worker.inFlight + 1))) (by
      simp [Call.statements]))
  have first := apply_task (Task.claim worker.workerId now)
    (Task.taskUuid_claim worker.workerId now) (flush_claim task worker.workerId now) taskRow
  have still : ((Statement.task task (task.claim worker.workerId now)).apply
      db).workerRegistry.get worker.workerId = some worker := workerRow
  have second := apply_worker (WorkerRegistry.setInFlight (worker.inFlight + 1))
    (WorkerRegistry.workerId_setInFlight _) (by
      simp only [WorkerRegistry.flush, flushed_loaded]
      rfl) still
  have rows : (Call.claim worker task now).statements.foldl Statement.apply db =
      SchedulerService.claimTask now worker.workerId worker task db := by
    refine second.trans ?_
    rw [first]
    rfl
  rw [rows]
  exact .claimed workerRow admitted (Table.mem_of_get taskRow) wanted

theorem atomic_finish {workerId : String} {task : Task} {outcome : Outcome} {now : DateTime}
    (of : (Call.finish workerId task outcome now).Of op)
    (taskRow : db.task.get task.taskUuid = some task) :
    Atomic db op ((Call.finish workerId task outcome now).statements.foldl Statement.apply db) := by
  obtain ⟨rfl, owned⟩ := of
  cases outcome with
  | complete result =>
      have assigned := apply_task (Task.complete now result) (Task.taskUuid_complete now result)
        (by
          simp only [Task.flush, flushed_loaded]
          rfl) taskRow
      have rows : (Call.finish workerId task (.complete result) now).statements.foldl
          Statement.apply db = SchedulerService.decrementInFlight workerId _ :=
        congrArg (SchedulerService.decrementInFlight workerId) assigned
      rw [rows]
      exact .alone rfl
        (congrArg Except.toOption (SchedulerService.finishTask_of_owned rfl taskRow owned))
  | fail errorCode errorMessage =>
      have assigned := apply_task (Task.fail now errorCode errorMessage)
        (Task.taskUuid_fail now errorCode errorMessage)
        (by
          simp only [Task.flush, flushed_loaded]
          rfl) taskRow
      have rows : (Call.finish workerId task (.fail errorCode errorMessage) now).statements.foldl
          Statement.apply db = SchedulerService.decrementInFlight workerId _ :=
        congrArg (SchedulerService.decrementInFlight workerId) assigned
      rw [rows]
      exact .alone rfl
        (congrArg Except.toOption (SchedulerService.finishTask_of_owned rfl taskRow owned))

theorem atomic_cancel {task : Task} {now : DateTime} (of : (Call.cancel task now).Of op)
    (taskRow : db.task.get task.taskUuid = some task) :
    Atomic db op ((Call.cancel task now).statements.foldl Statement.apply db) := by
  obtain ⟨caller, rfl, sees, cancellable⟩ := of
  have got := getTask_of_get taskRow sees
  have open_ : task.status ≠ .cancelled := by
    intro closed
    simp [Task.cancellable, closed] at cancellable
  have flush : Task.flush task (task.cancel now) task = task.cancel now := by
    simp only [Task.flush, flushed_loaded]
    rfl
  refine .alone rfl ?_
  show (TaskService.cancelTask (some caller) now task.taskUuid db).toOption.map (·.2) =
    some (((task.slotOwner.map Statement.decrement).toList ++
      [Statement.task task (task.cancel now)]).foldl Statement.apply db)
  cases owner : task.slotOwner with
  | none =>
      have rows := apply_task (Task.cancel now) (Task.taskUuid_cancel now) flush taskRow
      refine Eq.trans ?_ (congrArg some rows.symm)
      simp [TaskService.cancelTask, got, open_, cancellable, owner, bind, Except.bind, pure,
        Except.pure, Except.toOption]
  | some workerId =>
      have still : (SchedulerService.decrementInFlight workerId db).task.get task.taskUuid =
        some task := taskRow
      have rows := apply_task (Task.cancel now) (Task.taskUuid_cancel now) flush still
      refine Eq.trans ?_ (congrArg some rows.symm)
      simp [TaskService.cancelTask, got, open_, cancellable, owner, bind, Except.bind, pure,
        Except.pure, Except.toOption, SchedulerService.decrementInFlight]

theorem atomic_retry {task : Task} (of : (Call.retry task).Of op)
    (taskRow : db.task.get task.taskUuid = some task) :
    Atomic db op ((Call.retry task).statements.foldl Statement.apply db) := by
  obtain ⟨caller, rfl, sees, checked⟩ := of
  have got := getTask_of_get taskRow sees
  have rows := apply_task Task.retry Task.taskUuid_retry (by
    simp only [Task.flush, flushed_loaded]
    rfl) taskRow
  refine .alone rfl (Eq.trans ?_ (congrArg some rows.symm))
  simp [Operation.exec, TaskService.retryTask, got, checked, bind, Except.bind, pure, Except.pure,
    Except.toOption]

/-- **A commit from exact copies** is the operation. -/
theorem atomic_call {call : Call} (of : call.Of op)
    (exact : ∀ statement ∈ call.statements, statement.exact db = true) :
    Atomic db op (call.statements.foldl Statement.apply db) := by
  have taskRow : db.task.get call.task.taskUuid = some call.task :=
    of_decide_eq_true (exact _ (task_mem_statements call))
  cases call with
  | claim worker task now => exact atomic_claim of exact
  | finish workerId task outcome now => exact atomic_finish of taskRow
  | cancel task now => exact atomic_cancel of taskRow
  | retry task => exact atomic_retry of taskRow

theorem atomic_tend {loaded modified : WorkerRegistry} (of : TendOf loaded modified op)
    (exact : db.workerRegistry.get loaded.workerId = some loaded) :
    Atomic db op ((Statement.worker loaded modified).apply db) := by
  rcases of with ⟨now, rfl, rfl⟩ | ⟨rfl, awake, rfl⟩
  · have rows := apply_worker (WorkerRegistry.beat now) (WorkerRegistry.workerId_beat now) (by
      simp only [WorkerRegistry.flush, flushed_loaded]
      rfl) exact
    refine .alone rfl (Eq.trans ?_ (congrArg some rows.symm))
    simp [Operation.exec, SchedulerService.heartbeat, system, exact, Except.toOption]
  · have rows := apply_worker WorkerRegistry.drain WorkerRegistry.workerId_drain (by
      simp only [WorkerRegistry.flush, flushed_loaded]
      rfl) exact
    refine .alone rfl (Eq.trans ?_ (congrArg some rows.symm))
    simp [Operation.exec, SchedulerService.drainWorker, system, exact, awake, Except.toOption]

end Commits

/-! ## The ledger -/

/-- The operation that the action has a session work on, with its caller's arguments. -/
def begins (s : World) : Action → Option Operation
  | .lockTask i _ now =>
      match s.session i with
      | .validated worker taskType =>
          some (.claimNextTask system now worker.workerId worker.leaseId taskType)
      | _ => none
  | .finalize i outcome now =>
      match s.session i with
      | .running workerId copy => some (outcome.operation workerId copy.taskUuid now)
      | _ => none
  | .executorRaised i errorCode errorMessage now =>
      match s.session i with
      | .running workerId copy =>
          some (.failTask system now workerId copy.taskUuid errorCode errorMessage)
      | _ => none
  | .finish _ workerId taskUuid outcome now => some (outcome.operation workerId taskUuid now)
  | .cancel _ principal taskUuid now => some (.cancelTask principal now taskUuid)
  | .retry _ principal taskUuid => some (.retryTask principal taskUuid)
  | .reap _ now timeout => some (.reapDeadWorkers system now timeout)
  | .heartbeat _ workerId leaseId now => some (.heartbeat system now workerId leaseId)
  | .drain _ workerId => some (.drainWorker system workerId)
  | .claim .. | .update _ | .commit _ | .refresh _ | .reapWorker _ | .close _ => none

def Action.commits : Action → Bool
  | .commit _ => true
  | _ => false

theorem Action.not_commits_of_reads {a : Action} (reads : a.reads = true) : a.commits = false := by
  cases a <;> first | rfl | cases reads

/-- The sessions, the operation that each works on, and the operations that committed. -/
structure Ledger where
  world : World
  calls : Nat → Option Operation := fun _ => none
  done : List Operation := []

/-- The machine of the sessions with the ledger beside it. -/
def ledgers : Machine Ledger Action where
  step r a := (sessions.step r.world a).map fun t =>
    { world := t
      calls := Function.update r.calls a.session
        ((begins r.world a).or (r.calls a.session))
      done := if a.commits then r.done ++ (r.calls a.session).toList else r.done }

/-- No session has begun, and nothing is committed. -/
def opened (db : Database) : Ledger := { world := atRest db }

/-- What the ledger has of a session. -/
def Working (op : Option Operation) : Session → Prop
  | .validated worker _ => worker.mayClaim worker.leaseId = .ok true
  | .writing call _ => ∃ o, op = some o ∧ call.Of o
  | .reaping stale done =>
      ∃ now timeout, op = some (.reapDeadWorkers system now timeout) ∧
        ∀ worker ∈ done.map Prod.fst ++ stale, worker.stale now timeout = true
  | .tending loaded modified _ => ∃ o, op = some o ∧ TendOf loaded modified o
  | _ => True

section Beginnings

variable (db : Database) (old : Option Operation)

theorem working_beginClaim (workerId leaseId : String) (taskType : Option TaskType) :
    Working old (beginClaim db workerId leaseId taskType) := by
  unfold beginClaim
  split
  · trivial
  · rename_i worker found
    split
    · trivial
    · trivial
    · rename_i admitted
      obtain ⟨rfl, -, -⟩ := WorkerRegistry.mayClaim_eq_true.1 admitted
      exact admitted

theorem working_checkFinish (workerId : String) (copy : Task) (outcome : Outcome)
    (now : DateTime) :
    Working (some (outcome.operation workerId copy.taskUuid now))
      (checkFinish workerId copy outcome now) := by
  unfold checkFinish
  split
  · trivial
  · rename_i checked
    exact ⟨_, rfl, rfl, Task.checkOwned_eq_ok.1 checked⟩

theorem working_beginFinish (workerId taskUuid : String) (outcome : Outcome) (now : DateTime) :
    Working (some (outcome.operation workerId taskUuid now))
      (beginFinish db workerId taskUuid outcome now) := by
  unfold beginFinish SchedulerService.getTask
  cases found : db.task.get taskUuid with
  | none => trivial
  | some copy =>
      obtain rfl := Table.key_of_get found
      exact working_checkFinish workerId copy outcome now

theorem working_beginCancel (principal : Option TenantPrincipal) (taskUuid : String)
    (now : DateTime) :
    Working (some (.cancelTask principal now taskUuid))
      (beginCancel db principal taskUuid now) := by
  unfold beginCancel
  cases got : TaskService.getTask principal taskUuid db with
  | error e => trivial
  | ok copy =>
      obtain ⟨found, caller, rfl, sees⟩ := TaskService.getTask_eq_ok got
      obtain rfl := Table.key_of_get found
      simp only
      split
      · trivial
      · split
        · trivial
        · rename_i able
          exact ⟨_, rfl, caller, rfl, sees, by simpa using able⟩

theorem working_beginRetry (principal : Option TenantPrincipal) (taskUuid : String) :
    Working (some (.retryTask principal taskUuid)) (beginRetry db principal taskUuid) := by
  unfold beginRetry
  cases got : TaskService.getTask principal taskUuid db with
  | error e => trivial
  | ok copy =>
      obtain ⟨found, caller, rfl, sees⟩ := TaskService.getTask_eq_ok got
      obtain rfl := Table.key_of_get found
      simp only
      split
      · trivial
      · rename_i checked
        exact ⟨_, rfl, caller, rfl, sees, checked⟩

theorem working_beginHeartbeat (workerId leaseId : String) (now : DateTime) :
    Working (some (.heartbeat system now workerId leaseId))
      (beginHeartbeat db workerId leaseId now) := by
  unfold beginHeartbeat
  cases found : db.workerRegistry.get workerId with
  | none => trivial
  | some worker =>
      obtain rfl := Table.key_of_get found
      simp only
      split
      · trivial
      · rename_i lease
        obtain rfl : worker.leaseId = leaseId := not_not.1 lease
        exact ⟨_, rfl, .inl ⟨now, rfl, rfl⟩⟩

theorem working_beginDrain (workerId : String) :
    Working (some (.drainWorker system workerId)) (beginDrain db workerId) := by
  unfold beginDrain
  cases found : db.workerRegistry.get workerId with
  | none => trivial
  | some worker =>
      obtain rfl := Table.key_of_get found
      simp only
      split
      · rename_i awake
        exact ⟨_, rfl, .inr ⟨rfl, awake, rfl⟩⟩
      · trivial

end Beginnings

/-- The ledger has what the session that moves works on. -/
theorem working_step {s t : World} {a : Action} {op : Option Operation}
    (stepped : sessions.step s a = some t) (before : Working op (s.session a.session)) :
    Working ((begins s a).or op) (t.session a.session) := by
  change step s a = some t at stepped
  cases a with
  | claim i workerId leaseId taskType =>
      simp only [step] at stepped
      split at stepped <;> cases stepped
      show Working _ ((s.set i _).session i)
      rw [session_set]
      exact working_beginClaim s.db _ workerId leaseId taskType
  | lockTask i taskUuid now =>
      simp only [step] at stepped
      split at stepped
      · rename_i worker taskType task was found
        split at stepped
        · rename_i chosen
          cases stepped
          show Working _ ((s.selected i worker task now).session i)
          rw [session_selected]
          change Working op (s.session i) at before
          rw [was] at before
          have wanted := (Bool.and_eq_true_iff.1 chosen.1).1
          simp only [begins, was]
          exact ⟨_, rfl, taskType, rfl, before, wanted⟩
        · cases stepped
      · cases stepped
  | update i =>
      change Working op (s.session i) at before
      simp only [step] at stepped
      split at stepped
      · rename_i call issued was
        rw [was] at before
        split at stepped
        · split at stepped
          · cases stepped
            show Working _ ((World.set _ i _).session i)
            rw [session_set]
            exact before
          · cases stepped
        · cases stepped
      · rename_i loaded modified was
        rw [was] at before
        split at stepped
        · cases stepped
          show Working _ ((World.set _ i _).session i)
          rw [session_set]
          exact before
        · cases stepped
      · cases stepped
  | commit i =>
      simp only [step] at stepped
      split at stepped
      · rename_i call issued was
        split at stepped
        · cases stepped
          show Working _ ((World.leave _ i _).session i)
          rw [session_leave]
          cases call <;> trivial
        · cases stepped
      · cases stepped
        show Working _ ((World.leave _ i _).session i)
        rw [session_leave]
        trivial
      · cases stepped
        show Working _ ((World.leave _ i _).session i)
        rw [session_leave]
        trivial
      · cases stepped
  | refresh i =>
      simp only [step] at stepped
      split at stepped
      · split at stepped <;> cases stepped
        show Working _ ((s.set i _).session i)
        rw [session_set]
        trivial
      · cases stepped
  | finalize i outcome now =>
      simp only [step] at stepped
      split at stepped <;> cases stepped
      rename_i workerId copy was
      show Working _ ((s.set i _).session i)
      rw [session_set]
      simp only [begins, was]
      exact working_checkFinish workerId copy outcome now
  | executorRaised i errorCode errorMessage now =>
      simp only [step] at stepped
      split at stepped <;> cases stepped
      rename_i workerId copy was
      show Working _ ((s.set i _).session i)
      rw [session_set]
      simp only [begins, was]
      exact working_beginFinish s.db workerId copy.taskUuid (.fail errorCode errorMessage) now
  | finish i workerId taskUuid outcome now =>
      simp only [step] at stepped
      split at stepped <;> cases stepped
      show Working _ ((s.set i _).session i)
      rw [session_set]
      exact working_beginFinish s.db workerId taskUuid outcome now
  | cancel i principal taskUuid now =>
      simp only [step] at stepped
      split at stepped <;> cases stepped
      show Working _ ((s.set i _).session i)
      rw [session_set]
      exact working_beginCancel s.db principal taskUuid now
  | retry i principal taskUuid =>
      simp only [step] at stepped
      split at stepped <;> cases stepped
      show Working _ ((s.set i _).session i)
      rw [session_set]
      exact working_beginRetry s.db principal taskUuid
  | reap i now timeout =>
      simp only [step] at stepped
      split at stepped <;> cases stepped
      show Working _ ((s.reapBegun i (s.staleWorkers now timeout)).session i)
      rw [session_reapBegun]
      refine ⟨now, timeout, rfl, fun worker member => ?_⟩
      exact (Bool.and_eq_true_iff.1 (List.mem_filter.1 member).2).1
  | reapWorker i =>
      simp only [step] at stepped
      split at stepped
      · rename_i worker stale done was
        split at stepped
        · cases stepped
          show Working _ ((s.collected i worker stale done).session i)
          rw [session_collected]
          change Working op (s.session i) at before
          rw [was] at before
          obtain ⟨now, timeout, rfl, members⟩ := before
          refine ⟨now, timeout, rfl, ?_⟩
          simpa using members
        · cases stepped
      · cases stepped
  | heartbeat i workerId leaseId now =>
      simp only [step] at stepped
      split at stepped <;> cases stepped
      show Working _ ((s.set i _).session i)
      rw [session_set]
      exact working_beginHeartbeat s.db workerId leaseId now
  | drain i workerId =>
      simp only [step] at stepped
      split at stepped <;> cases stepped
      show Working _ ((s.set i _).session i)
      rw [session_set]
      exact working_beginDrain s.db workerId
  | close i =>
      cases stepped
      show Working _ ((s.leave i .idle).session i)
      rw [session_leave]
      trivial

/-! ## Exact copies stay exact -/

/-- The UPDATE is issued from a copy that is still the committed row. -/
def updatesExact (s : World) : Action → Bool
  | .update i =>
      match s.session i with
      | .writing call issued => call.statements[issued]?.all fun statement => statement.exact s.db
      | .tending loaded modified false => (Statement.worker loaded modified).exact s.db
      | _ => true
  | _ => true

/-- The copies behind the UPDATEs that a session issued. -/
def ExactIn (db : Database) : Session → Prop
  | .writing call issued => ∀ statement ∈ call.statements.take issued, statement.exact db = true
  | .tending loaded modified true => (Statement.worker loaded modified).exact db = true
  | _ => True

/-- The lock of an UPDATE keeps its copy exact. -/
theorem Keeps.exact {j : Nat} {s t : World} (keeps : Keeps j s t) {statement : Statement}
    (held : s.Holds j statement) (exact : statement.exact s.db = true) :
    statement.exact t.db = true := by
  cases statement with
  | task loaded modified =>
      refine decide_eq_true ?_
      rw [keeps.task _ (held.1 _ rfl)]
      exact of_decide_eq_true exact
  | worker loaded modified =>
      refine decide_eq_true ?_
      rw [keeps.worker _ (held.2 _ rfl)]
      exact of_decide_eq_true exact
  | decrement workerId => rfl

theorem Keeps.exactIn {j : Nat} {s t : World} (keeps : Keeps j s t) {session : Session}
    (upheld : Upheld s j session) (exact : ExactIn s.db session) : ExactIn t.db session := by
  cases session with
  | writing call issued =>
      intro statement member
      exact keeps.exact (upheld.2.2 statement member) (exact statement member)
  | tending loaded modified issued =>
      cases issued with
      | false => trivial
      | true => exact keeps.exact (upheld.2 rfl) exact
  | idle | validated | claimed | running | reaping | raised | rejected => trivial

theorem db_lockFor (s : World) (i : Nat) (statement : Statement) :
    (s.lockFor i statement).db = s.db := by
  cases statement <;> rfl

theorem exactIn_begun {db : Database} {session : Session} (begun : Begun db session) :
    ExactIn db session := by
  cases session with
  | writing call issued =>
      cases call with
      | claim worker task now => exact begun.elim
      | finish workerId task outcome now =>
          obtain ⟨rfl, -⟩ := begun
          simp [ExactIn]
      | cancel task now =>
          obtain ⟨rfl, -⟩ := begun
          simp [ExactIn]
      | retry task =>
          obtain ⟨rfl, -⟩ := begun
          simp [ExactIn]
  | tending loaded modified issued =>
      obtain ⟨rfl, -⟩ := begun
      trivial
  | idle | validated | claimed | running | reaping | raised | rejected => trivial

/-- The session that moves has exact copies where it had, and where the guard gives them. -/
theorem Move.exactIn {s t : World} {a : Action} (moved : Move s a t)
    (before : ExactIn s.db (s.session a.session)) (guard : updatesExact s a = true) :
    ExactIn t.db (t.session a.session) := by
  cases moved with
  | read reads begun =>
      rw [session_set]
      exact exactIn_begun begun
  | lockTask was found free =>
      rename_i i worker taskType task now
      show ExactIn _ ((s.selected i worker task now).session i)
      rw [session_selected]
      simp [ExactIn]
  | update was next isOpen =>
      rename_i i call issued statement
      show ExactIn _ (((s.lockFor i statement).set i (.writing call (issued + 1))).session i)
      rw [session_set]
      change ExactIn s.db (s.session i) at before
      rw [was] at before
      intro earlier member
      have rows : ((s.lockFor i statement).set i (.writing call (issued + 1))).db = s.db :=
        db_lockFor s i statement
      rw [rows]
      rw [List.take_add_one, next] at member
      rcases List.mem_append.1 member with old | latest
      · exact before earlier old
      · obtain rfl : earlier = statement := by simpa using latest
        simpa [updatesExact, was, next] using guard
  | commit was =>
      rename_i i call
      show ExactIn _ ((s.committed i call).session i)
      rw [session_committed]
      cases call <;> trivial
  | reaped was =>
      rename_i i done
      show ExactIn _ ((s.reaped i done).session i)
      rw [session_reaped]
      trivial
  | reap =>
      rename_i i now timeout
      show ExactIn _ ((s.reapBegun i (s.staleWorkers now timeout)).session i)
      rw [session_reapBegun]
      trivial
  | reapWorker was isOpen =>
      rename_i i worker stale done
      show ExactIn _ ((s.collected i worker stale done).session i)
      rw [session_collected]
      trivial
  | tend was isOpen =>
      rename_i i loaded modified
      show ExactIn _ (((s.lockFor i (.worker loaded modified)).set i
        (.tending loaded modified true)).session i)
      rw [session_set]
      have exact : (Statement.worker loaded modified).exact s.db = true := by
        simpa [updatesExact, was] using guard
      exact exact
  | tended was =>
      rename_i i loaded modified
      show ExactIn _ ((s.tended i loaded modified).session i)
      rw [session_tended]
      trivial
  | close =>
      rename_i i
      show ExactIn _ ((s.leave i .idle).session i)
      rw [session_leave]
      trivial

/-! ## The refinement -/

/-- What every step keeps. -/
structure Ledger.Kept (r : Ledger) : Prop where
  sound : Sound r.world
  collected : Collected r.world
  exact : ∀ i, ExactIn r.world.db (r.world.session i)
  working : ∀ i, Working (r.calls i) (r.world.session i)

theorem kept_opened (db : Database) : (opened db).Kept where
  sound := sound_atRest db
  collected _ _ _ reaping := by cases reaping
  exact _ := trivial
  working _ := trivial

theorem Ledger.Kept.step {r : Ledger} {a : Action} {t : World} (kept : r.Kept)
    (guard : updatesExact r.world a = true) (stepped : sessions.step r.world a = some t) :
    Ledger.Kept
      { world := t
        calls := Function.update r.calls a.session ((begins r.world a).or (r.calls a.session))
        done := if a.commits then r.done ++ (r.calls a.session).toList else r.done } where
  sound := (step_move stepped).sound kept.sound
  collected := (step_move stepped).collects kept.sound kept.collected
  exact i := by
    show ExactIn t.db (t.session i)
    have moved := step_move stepped
    by_cases other : i ≠ a.session
    · rw [moved.session_other other]
      exact (moved.keeps kept.sound other).exactIn (kept.sound i) (kept.exact i)
    · obtain rfl : i = a.session := not_not.1 other
      exact moved.exactIn (kept.exact a.session) guard
  working i := by
    show Working (Function.update r.calls a.session _ i) (t.session i)
    by_cases other : i ≠ a.session
    · rw [Function.update_of_ne other, (step_move stepped).session_other other]
      exact kept.working i
    · obtain rfl : i = a.session := not_not.1 other
      rw [Function.update_self]
      exact working_step stepped (kept.working a.session)

/-- The commit of a reaper, as a pass over the workers it has. -/
theorem Ledger.Kept.reaped {r : Ledger} {i : Nat} {done : List (WorkerRegistry × List Task)}
    (kept : r.Kept) (was : r.world.session i = .reaping [] done) :
    ∃ op, r.calls i = some op ∧ Atomic r.world.db op (r.world.reapRows done) := by
  have upheld := kept.sound i
  have working := kept.working i
  rw [was] at upheld working
  obtain ⟨workers, distinct, tasks⟩ := upheld
  obtain ⟨now, timeout, isReap, members⟩ := working
  rw [List.append_nil] at workers distinct members
  have rows : r.world.reapRows done = (done.map Prod.fst).foldl
      (fun db worker => SchedulerService.reapWorker worker db) r.world.db := by
    refine foldl_reaping ?_ (fun entry member => ?_) (fun entry member => ?_) ?_
    · simpa [List.map_map, Function.comp_def] using distinct
    · exact (workers entry.1 (List.mem_map_of_mem member)).2
    · obtain ⟨nodup, mine⟩ := tasks entry member
      exact ⟨nodup, fun task inEntry => ⟨(mine task inEntry).1.2, (mine task inEntry).2⟩⟩
    · exact kept.collected i [] done was
  refine ⟨_, isReap, ?_⟩
  rw [rows]
  refine .reaped distinct fun worker member => ⟨?_, members worker member⟩
  exact Table.mem_of_get (workers worker member).2

/-- A step commits one operation, or nothing. -/
theorem Ledger.Kept.advances {r : Ledger} {a : Action} {t : World} (kept : r.Kept)
    (moved : Move r.world a t) (calls : Nat → Option Operation) :
    Advances Atomic (fun r : Ledger => r.world.db) Ledger.done r
      { world := t
        calls
        done := if a.commits then r.done ++ (r.calls a.session).toList else r.done } := by
  cases moved with
  | read reads begun =>
      exact .silent rfl (if_neg (by simp [Action.not_commits_of_reads reads]))
  | lockTask | reap | reapWorker | tend | close => exact .silent rfl rfl
  | update was next isOpen =>
      rename_i i call issued statement
      exact .silent (db_lockFor r.world i statement) rfl
  | commit was =>
      rename_i i call
      have working := kept.working i
      have exact := kept.exact i
      rw [was] at working exact
      obtain ⟨op, worksOn, of⟩ := working
      have noted : r.done ++ (r.calls i).toList = r.done ++ [op] := by rw [worksOn, Option.toList]
      refine .one noted (atomic_call of ?_)
      simpa [ExactIn] using exact
  | reaped was =>
      rename_i i done
      obtain ⟨op, worksOn, atomic⟩ := kept.reaped was
      have noted : r.done ++ (r.calls i).toList = r.done ++ [op] := by rw [worksOn, Option.toList]
      exact .one noted atomic
  | tended was =>
      rename_i i loaded modified
      have working := kept.working i
      have exact := kept.exact i
      rw [was] at working exact
      obtain ⟨op, worksOn, of⟩ := working
      have noted : r.done ++ (r.calls i).toList = r.done ++ [op] := by rw [worksOn, Option.toList]
      exact .one noted (atomic_tend of (of_decide_eq_true exact))

/-- A step keeps the ledger, and what it commits is the operation it notes. -/
theorem ledger_step (r : Ledger) (a : Action) (r' : Ledger) (kept : r.Kept)
    (exact : updatesExact r.world a = true) (stepped : ledgers.step r a = some r') :
    r'.Kept ∧ Advances Atomic (fun r : Ledger => r.world.db) Ledger.done r r' := by
  obtain ⟨t, moved, rfl⟩ := Option.map_eq_some_iff.1 stepped
  exact ⟨kept.step exact moved, kept.advances (step_move moved) _⟩

/-- **Serializability.**  In every interleaving in which each UPDATE is issued from a copy that
is still the committed row, the committed rows come from the ledger's operations one after the
other, each as it runs alone, but for what a claim or a reaper passes over. -/
theorem serializable {db : Database} {as : List Action}
    (exact : ledgers.Guarded (fun r a => updatesExact r.world a = true) (opened db) as) :
    ledgers.Always (fun r => Serially Atomic db r.done r.world.db) (opened db) as :=
  serially_of_run ledger_step (kept_opened db) rfl exact

/-! ## The slot accounting -/

open SlotAccounting

theorem keys_foldl_reapWorker (stale : List WorkerRegistry) (db : Database) :
    (stale.foldl (fun db worker => SchedulerService.reapWorker worker db)
      db).workerRegistry.keys = db.workerRegistry.keys := by
  induction stale generalizing db with
  | nil => rfl
  | cons worker rest ih =>
      rw [List.foldl_cons, ih]
      exact Table.keys_update db.workerRegistry worker.workerId WorkerRegistry.bury
        WorkerRegistry.workerId_bury

/-- No session registers a worker. -/
theorem Atomic.keys {db after : Database} {op : Operation} (atomic : Atomic db op after) :
    after.workerRegistry.keys = db.workerRegistry.keys := by
  have assigned : ∀ (workerId : String) (assign : WorkerRegistry → WorkerRegistry)
      (keeps : ∀ worker, (assign worker).workerId = worker.workerId),
      (db.workerRegistry.update workerId assign keeps).keys = db.workerRegistry.keys :=
    fun workerId assign keeps => Table.keys_update db.workerRegistry workerId assign keeps
  cases atomic with
  | claimed =>
      exact assigned _ (WorkerRegistry.setInFlight _) (WorkerRegistry.workerId_setInFlight _)
  | reaped => exact keys_foldl_reapWorker _ db
  | alone ours ran =>
      cases effect_of_exec ran with
      | nothing | retried => rfl
      | submitted | registered | reregistered => cases ours
      | @cancelled principal now taskUuid task got cancellable =>
          dsimp only
          split
          · exact assigned _ WorkerRegistry.decrementInFlight
              WorkerRegistry.workerId_decrementInFlight
          · rfl
      | @beat principal now =>
          exact assigned _ (WorkerRegistry.beat now) (WorkerRegistry.workerId_beat now)
      | drained => exact assigned _ WorkerRegistry.drain WorkerRegistry.workerId_drain
      | claimed =>
          exact assigned _ (WorkerRegistry.setInFlight _) (WorkerRegistry.workerId_setInFlight _)
      | completed | failed =>
          exact assigned _ WorkerRegistry.decrementInFlight
            WorkerRegistry.workerId_decrementInFlight
      | reaped => exact keys_foldl_reapWorker _ db

/-- Balanced slots, RUNNING tasks on registered workers, and no worker of the empty name. -/
structure Accounted (db : Database) : Prop where
  staffed : Staffed db
  balanced : SlotsBalanced db
  named : "" ∉ db.workerRegistry.keys

theorem Accounted.atomic {db after : Database} {op : Operation} (accounted : Accounted db)
    (atomic : Atomic db op after) : Accounted after := by
  have named : "" ∉ after.workerRegistry.keys := by
    rw [atomic.keys]
    exact accounted.named
  cases atomic with
  | claimed found admitted member wanted =>
      exact ⟨accounted.staffed.claim _ found, accounted.balanced.claim found member wanted, named⟩
  | reaped => exact ⟨accounted.staffed.reap _, accounted.balanced.reap _, named⟩
  | alone ours ran =>
      have applied : op.apply db = after := by rw [Operation.apply, ran, Option.getD_some]
      have unnamed : ∀ task ∈ db.task.rows, task.runningOn "" = false := by
        intro task member
        by_contra running
        obtain ⟨status, owner⟩ := Task.runningOn_iff.1 (Bool.eq_true_of_not_eq_false running)
        obtain ⟨workerId, registered, same⟩ := accounted.staffed task member status
        obtain rfl := Option.some.inj (owner.symm.trans same)
        exact accounted.named registered
      have keeps : KeepsSlots db op := by
        cases op with
        | registerWorker => cases ours
        | cancelTask principal now taskUuid =>
            intro task got
            exact unnamed task (Table.mem_of_get (TaskService.getTask_eq_ok got).1)
        | _ => trivial
      rw [← applied] at named ⊢
      exact ⟨accounted.staffed.apply op, apply_keeps accounted.staffed accounted.balanced keeps,
        named⟩

/-- **No slot is lost or left behind.**  In every interleaving in which each UPDATE is issued
from a copy that is still the committed row, every worker's `in_flight` is the number of tasks
RUNNING on it, after every commit. -/
theorem slots_kept {db : Database} {as : List Action} (staffed : Staffed db)
    (balanced : SlotsBalanced db) (named : "" ∉ db.workerRegistry.keys)
    (exact : sessions.Guarded (fun s a => updatesExact s a = true) (atRest db) as) :
    sessions.Always (fun s => SlotsBalanced s.db) (atRest db) as := by
  have ghost : ∀ (r : Ledger) (a : Action),
      (ledgers.step r a).map Ledger.world = sessions.step r.world a := by
    intro r a
    show ((sessions.step r.world a).map _).map _ = _
    cases sessions.step r.world a <;> rfl
  have serial : ledgers.Always (fun r => Serially Atomic db r.done r.world.db) (opened db) as :=
    serially_of_run ledger_step (kept_opened db) rfl
      ((along_iff_of_ghost ghost (r := opened db)).2 exact)
  refine ⟨balanced, (along_iff_of_ghost ghost (r := opened db)).1 (serial.2.mono ?_)⟩
  intro r a r' serially
  exact (Serially.inv (I := Accounted) (fun _ _ _ held atomic => held.atomic atomic)
    ⟨staffed, balanced, named⟩ serially).balanced

section Runs

/-- Two workers with room for one task each, and two PENDING tasks. -/
private def twoSlots : Database :=
  { oneSlot with
    workerRegistry := oneSlot.workerRegistry.insert
      { workerId := "b", workerType := "lifecycle", leaseId := "lease-b", lastHeartbeatAt := 0 } }

/-- Two claims overlap; one of the tasks is cancelled while the other one's worker fails it and
beats, and a reaper that found nothing stale commits last. -/
private def overlappingCalls : List Action :=
  [.claim 0 "a" "lease-a" none, .claim 1 "b" "lease-b" none,
    .lockTask 0 "t1" 1, .lockTask 1 "t2" 1, .update 1, .update 0, .update 1, .commit 1, .update 0,
    .commit 0, .refresh 0, .refresh 1,
    .cancel 2 (some (systemPrincipal "ops")) "t1" 2, .finalize 1 (.fail "E" "boom") 2,
    .update 2, .update 1, .update 2, .update 1, .reap 3 3 30, .commit 1, .commit 2,
    .heartbeat 4 "b" "lease-b" 4, .update 4, .commit 4, .commit 3]

theorem serializable_overlapping :
    ledgers.Always (fun r => Serially Atomic twoSlots r.done r.world.db) (opened twoSlots)
      overlappingCalls :=
  serializable (by decide)

theorem slots_kept_overlapping :
    sessions.Always (fun s => SlotsBalanced s.db) (atRest twoSlots) overlappingCalls :=
  slots_kept (by decide) (by decide) (by decide) (by decide)

end Runs

end Lcp.Sessions
