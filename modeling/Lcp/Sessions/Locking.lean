/-
# Sessions.Locking -- what a lock is good for

`Move` says once what a step can do; every invariant of the sessions is proved by
its eight cases.

The invariant of this file is `Upheld`: a session that issued an UPDATE holds the
row of it, a claim holds the committed row it selected, and a reaper holds the
committed rows it collected.  It survives the other sessions because of `Keeps`: a
step of one session changes no lock that another holds, and no committed row under
such a lock.
-/
import Lcp.Sessions.Model

namespace Lcp.Sessions

open Theory World

set_option autoImplicit false

/-! ## The rows an UPDATE writes -/

namespace Statement

def taskKey : Statement → Option String
  | .task loaded _ => some loaded.taskUuid
  | .worker .. | .decrement _ => none

def workerKey : Statement → Option String
  | .task .. => none
  | .worker loaded _ => some loaded.workerId
  | .decrement workerId => some workerId

theorem get_task_apply {statement : Statement} {db : Database} {k : String}
    (other : statement.taskKey ≠ some k) : (statement.apply db).task.get k = db.task.get k := by
  cases statement with
  | task loaded modified =>
      have ne : ¬ k = loaded.taskUuid := fun same => other (congrArg some same.symm)
      exact (Table.get_update _ _ _ _ (Task.taskUuid_flush loaded modified)).trans (if_neg ne)
  | worker loaded modified => rfl
  | decrement workerId => rfl

theorem get_worker_apply {statement : Statement} {db : Database} {k : String}
    (other : statement.workerKey ≠ some k) :
    (statement.apply db).workerRegistry.get k = db.workerRegistry.get k := by
  cases statement with
  | task loaded modified => rfl
  | worker loaded modified =>
      have ne : ¬ k = loaded.workerId := fun same => other (congrArg some same.symm)
      exact (Table.get_update _ _ _ _ (WorkerRegistry.workerId_flush loaded modified)).trans
        (if_neg ne)
  | decrement workerId =>
      have ne : ¬ k = workerId := fun same => other (congrArg some same.symm)
      exact (Table.get_update _ _ _ _ WorkerRegistry.workerId_decrementInFlight).trans (if_neg ne)

theorem get_task_foldl {statements : List Statement} {db : Database} {k : String}
    (others : ∀ statement ∈ statements, statement.taskKey ≠ some k) :
    (statements.foldl apply db).task.get k = db.task.get k := by
  induction statements generalizing db with
  | nil => rfl
  | cons statement rest ih =>
      rw [List.foldl_cons, ih fun later member => others later (List.mem_cons_of_mem _ member)]
      exact get_task_apply (others statement (by simp))

theorem get_worker_foldl {statements : List Statement} {db : Database} {k : String}
    (others : ∀ statement ∈ statements, statement.workerKey ≠ some k) :
    (statements.foldl apply db).workerRegistry.get k = db.workerRegistry.get k := by
  induction statements generalizing db with
  | nil => rfl
  | cons statement rest ih =>
      rw [List.foldl_cons, ih fun later member => others later (List.mem_cons_of_mem _ member)]
      exact get_worker_apply (others statement (by simp))

end Statement

/-! ## What a step can do -/

def Action.session : Action → Nat
  | .claim i .. | .lockTask i .. | .update i | .commit i | .refresh i | .finalize i .. |
    .executorRaised i .. | .finish i .. | .cancel i .. | .retry i .. | .reap i .. |
    .reapWorker i | .heartbeat i .. | .drain i _ | .close i => i

/-- The actions that only read. -/
def Action.reads : Action → Bool
  | .claim .. | .refresh _ | .finalize .. | .executorRaised .. | .finish .. | .cancel .. |
    .retry .. | .heartbeat .. | .drain .. => true
  | .lockTask .. | .update _ | .commit _ | .reap .. | .reapWorker _ | .close _ => false

/-- What the tests of a call established on its copies. -/
def Call.Checked : Call → Prop
  | .claim worker task _ =>
      worker.inFlight < worker.capacity ∧ (task.status = .pending ∨ task.status = .queued) ∧
        task.attempt < task.maxAttempts
  | .finish workerId task _ _ => task.runningOn workerId = true
  | .cancel task _ => task.cancellable = true
  | .retry task => task.status = .failed ∧ task.attempt < task.maxAttempts

/-- What `heartbeat` and `drain_worker` assign. -/
def Tends (loaded modified : WorkerRegistry) : Prop :=
  (∃ now, modified = loaded.beat now) ∨ (loaded.status ≠ .dead ∧ modified = loaded.drain)

/-- What a session can be after a plain read: it wrote nothing and locked nothing. -/
def Begun (db : Database) : Session → Prop
  | .validated worker _ =>
      db.workerRegistry.get worker.workerId = some worker ∧ worker.inFlight < worker.capacity
  | .writing (.claim ..) _ | .claimed .. | .reaping .. => False
  | .writing call issued => issued = 0 ∧ call.Checked
  | .tending loaded modified issued => issued = false ∧ Tends loaded modified
  | _ => True

/-- Session `i` at the end of its SELECT ... FOR UPDATE SKIP LOCKED on the tasks. -/
def World.selected (s : World) (i : Nat) (worker : WorkerRegistry) (task : Task)
    (now : DateTime) : World :=
  { s with taskLock := s.taskLock.acquire i [task.taskUuid] }.set i
    (.writing (.claim worker task now) 0)

/-- Session `i` after the commit of a call. -/
def World.committed (s : World) (i : Nat) (call : Call) : World :=
  { s with
    db := s.callRows call
    log := s.log ++ (s.event call.deed call.task call.modified).toList }.leave i call.next

/-- Session `i` after the commit of a reaper. -/
def World.reaped (s : World) (i : Nat) (done : List (WorkerRegistry × List Task)) : World :=
  { s with db := s.reapRows done, log := s.log ++ s.reapEvents done }.leave i .idle

/-- Session `i` with the stale workers locked. -/
def World.reapBegun (s : World) (i : Nat) (stale : List WorkerRegistry) : World :=
  { s with workerLock := s.workerLock.acquire i (stale.map WorkerRegistry.workerId) }.set i
    (.reaping stale [])

/-- Session `i` with the RUNNING tasks of one more stale worker locked. -/
def World.collected (s : World) (i : Nat) (worker : WorkerRegistry)
    (stale : List WorkerRegistry) (done : List (WorkerRegistry × List Task)) : World :=
  { s with
    taskLock := s.taskLock.acquire i ((s.runningTasks worker).map Task.taskUuid) }.set i
      (.reaping stale (done ++ [(worker, s.runningTasks worker)]))

/-- Session `i` after the commit of a heartbeat or a drain. -/
def World.tended (s : World) (i : Nat) (loaded modified : WorkerRegistry) : World :=
  { s with db := Statement.apply s.db (.worker loaded modified) }.leave i .idle

namespace World

variable (s : World) (i : Nat)

@[simp] theorem session_set (session : Session) : (s.set i session).session i = session :=
  Function.update_self ..

@[simp] theorem session_leave (session : Session) : (s.leave i session).session i = session :=
  Function.update_self ..

@[simp] theorem session_selected (worker : WorkerRegistry) (task : Task) (now : DateTime) :
    (s.selected i worker task now).session i = .writing (.claim worker task now) 0 :=
  Function.update_self ..

@[simp] theorem session_committed (call : Call) : (s.committed i call).session i = call.next :=
  Function.update_self ..

@[simp] theorem session_reaped (done : List (WorkerRegistry × List Task)) :
    (s.reaped i done).session i = .idle :=
  Function.update_self ..

@[simp] theorem session_reapBegun (stale : List WorkerRegistry) :
    (s.reapBegun i stale).session i = .reaping stale [] :=
  Function.update_self ..

@[simp] theorem session_collected (worker : WorkerRegistry) (stale : List WorkerRegistry)
    (done : List (WorkerRegistry × List Task)) :
    (s.collected i worker stale done).session i =
      .reaping stale (done ++ [(worker, s.runningTasks worker)]) :=
  Function.update_self ..

@[simp] theorem session_tended (loaded modified : WorkerRegistry) :
    (s.tended i loaded modified).session i = .idle :=
  Function.update_self ..

end World

/-- **What a step can do.** -/
inductive Move (s : World) : Action → World → Prop
  | read {a : Action} {session : Session} (reads : a.reads = true)
      (begun : Begun s.db session) : Move s a (s.set a.session session)
  | lockTask {i : Nat} {worker : WorkerRegistry} {taskType : Option TaskType} {task : Task}
      {now : DateTime} (was : s.session i = .validated worker taskType)
      (found : s.db.task.get task.taskUuid = some task)
      (free : s.selectable taskType task = true) :
      Move s (.lockTask i task.taskUuid now) (s.selected i worker task now)
  | update {i : Nat} {call : Call} {issued : Nat} {statement : Statement}
      (was : s.session i = .writing call issued) (next : call.statements[issued]? = some statement)
      (isOpen : s.openFor i statement = true) :
      Move s (.update i) ((s.lockFor i statement).set i (.writing call (issued + 1)))
  | commit {i : Nat} {call : Call} (was : s.session i = .writing call call.statements.length) :
      Move s (.commit i) (s.committed i call)
  | reaped {i : Nat} {done : List (WorkerRegistry × List Task)}
      (was : s.session i = .reaping [] done) : Move s (.commit i) (s.reaped i done)
  | reap {i : Nat} {now : DateTime} {timeout : TimeDelta} :
      Move s (.reap i now timeout) (s.reapBegun i (s.staleWorkers now timeout))
  | reapWorker {i : Nat} {worker : WorkerRegistry} {stale : List WorkerRegistry}
      {done : List (WorkerRegistry × List Task)}
      (was : s.session i = .reaping (worker :: stale) done)
      (isOpen : ∀ task ∈ s.runningTasks worker, s.taskLock.openTo i task.taskUuid = true) :
      Move s (.reapWorker i) (s.collected i worker stale done)
  | tend {i : Nat} {loaded modified : WorkerRegistry}
      (was : s.session i = .tending loaded modified false)
      (isOpen : s.openFor i (.worker loaded modified) = true) :
      Move s (.update i)
        ((s.lockFor i (.worker loaded modified)).set i (.tending loaded modified true))
  | tended {i : Nat} {loaded modified : WorkerRegistry}
      (was : s.session i = .tending loaded modified true) :
      Move s (.commit i) (s.tended i loaded modified)
  | close {i : Nat} : Move s (.close i) (s.leave i .idle)

/-- The session neither claims, writes nor reaps. -/
def Session.rests : Session → Bool
  | .validated .. | .writing .. | .reaping .. => false
  | _ => true

/-- Where a step leaves the session that took it. -/
inductive Landing (s t : World) : Action → Session → Prop
  | read {a : Action} {session : Session} (begun : Begun s.db session)
      (moved : t = s.set a.session session) : Landing s t a session
  | claims {i : Nat} {worker : WorkerRegistry} {taskType : Option TaskType} {task : Task}
      {now : DateTime} (was : s.session i = .validated worker taskType) :
      Landing s t (.lockTask i task.taskUuid now) (.writing (.claim worker task now) 0)
  | issues {i : Nat} {call : Call} {n : Nat} {statement : Statement}
      (was : s.session i = .writing call n) (next : call.statements[n]? = some statement)
      (moved : t = (s.lockFor i statement).set i (.writing call (n + 1))) :
      Landing s t (.update i) (.writing call (n + 1))
  | reaps {a : Action} {stale : List WorkerRegistry} : Landing s t a (.reaping stale [])
  | collects {i : Nat} {worker : WorkerRegistry} {stale : List WorkerRegistry}
      {done : List (WorkerRegistry × List Task)}
      (was : s.session i = .reaping (worker :: stale) done)
      (moved : t = s.collected i worker stale done) :
      Landing s t (.reapWorker i) (.reaping stale (done ++ [(worker, s.runningTasks worker)]))
  | rests {a : Action} {session : Session} (quiet : session.rests = true) : Landing s t a session

theorem Call.rests_next (call : Call) : call.next.rests = true := by
  cases call <;> rfl

theorem Move.landing {s t : World} {a : Action} (moved : Move s a t) :
    Landing s t a (t.session a.session) := by
  cases moved with
  | read reads begun =>
      rw [session_set]
      exact .read begun rfl
  | lockTask was found free =>
      rename_i i worker taskType task now
      show Landing s _ _ ((s.selected i worker task now).session i)
      rw [session_selected]
      exact .claims was
  | update was next isOpen =>
      rename_i i call n statement
      show Landing s _ _ (((s.lockFor i statement).set i (.writing call (n + 1))).session i)
      rw [session_set]
      exact .issues was next rfl
  | commit was =>
      rename_i i call
      show Landing s _ _ ((s.committed i call).session i)
      rw [session_committed]
      exact .rests call.rests_next
  | reaped was =>
      rename_i i done
      show Landing s _ _ ((s.reaped i done).session i)
      rw [session_reaped]
      exact .rests rfl
  | reap =>
      rename_i i now timeout
      show Landing s _ _ ((s.reapBegun i (s.staleWorkers now timeout)).session i)
      rw [session_reapBegun]
      exact .reaps
  | reapWorker was isOpen =>
      rename_i i worker stale done
      show Landing s _ _ ((s.collected i worker stale done).session i)
      rw [session_collected]
      exact .collects was rfl
  | tend was isOpen =>
      rename_i i loaded modified
      show Landing s _ _ (((s.lockFor i (.worker loaded modified)).set i
        (.tending loaded modified true)).session i)
      rw [session_set]
      exact .rests rfl
  | tended was =>
      rename_i i loaded modified
      show Landing s _ _ ((s.tended i loaded modified).session i)
      rw [session_tended]
      exact .rests rfl
  | close =>
      rename_i i
      show Landing s _ _ ((s.leave i .idle).session i)
      rw [session_leave]
      exact .rests rfl

/-- A session that writes began to, or issued its next UPDATE. -/
theorem Move.writing {s t : World} {a : Action} {call : Call} {issued : Nat}
    (moved : Move s a t) (writing : t.session a.session = .writing call issued) :
    issued = 0 ∨ ∃ i n statement, a = .update i ∧ issued = n + 1 ∧
      s.session i = .writing call n ∧ call.statements[n]? = some statement ∧
      t = (s.lockFor i statement).set i (.writing call (n + 1)) := by
  have landing := moved.landing
  rw [writing] at landing
  cases landing with
  | read begun moved =>
      cases call with
      | claim worker task now => exact begun.elim
      | finish | cancel | retry => exact .inl begun.1
  | claims was => exact .inl rfl
  | issues was next moved => exact .inr ⟨_, _, _, rfl, rfl, was, next, moved⟩
  | rests quiet => cases quiet

theorem begun_beginClaim (db : Database) (workerId leaseId : String)
    (taskType : Option TaskType) : Begun db (beginClaim db workerId leaseId taskType) := by
  unfold beginClaim
  split
  · trivial
  · rename_i worker found
    split
    · trivial
    · trivial
    · rename_i admitted
      obtain ⟨-, -, room⟩ := WorkerRegistry.mayClaim_eq_true.1 admitted
      exact ⟨(Table.key_of_get found).symm ▸ found, room⟩

theorem begun_checkFinish (db : Database) (workerId : String) (copy : Task) (outcome : Outcome)
    (now : DateTime) : Begun db (checkFinish workerId copy outcome now) := by
  unfold checkFinish
  split
  · trivial
  · rename_i checked
    exact ⟨rfl, Task.checkOwned_eq_ok.1 checked⟩

theorem begun_beginFinish (db : Database) (workerId taskUuid : String) (outcome : Outcome)
    (now : DateTime) : Begun db (beginFinish db workerId taskUuid outcome now) := by
  unfold beginFinish
  split
  · trivial
  · exact begun_checkFinish db workerId _ outcome now

theorem begun_beginCancel (db : Database) (principal : Option TenantPrincipal)
    (taskUuid : String) (now : DateTime) : Begun db (beginCancel db principal taskUuid now) := by
  unfold beginCancel
  split
  · trivial
  · split
    · trivial
    · split
      · trivial
      · rename_i cancellable
        exact ⟨rfl, by simpa [Call.Checked] using cancellable⟩

theorem begun_beginRetry (db : Database) (principal : Option TenantPrincipal)
    (taskUuid : String) : Begun db (beginRetry db principal taskUuid) := by
  unfold beginRetry
  split
  · trivial
  · split
    · trivial
    · rename_i checked
      exact ⟨rfl, Task.checkRetry_eq_ok.1 checked⟩

theorem begun_beginHeartbeat (db : Database) (workerId leaseId : String) (now : DateTime) :
    Begun db (beginHeartbeat db workerId leaseId now) := by
  unfold beginHeartbeat
  split
  · trivial
  · split
    · trivial
    · exact ⟨rfl, .inl ⟨now, rfl⟩⟩

theorem begun_beginDrain (db : Database) (workerId : String) :
    Begun db (beginDrain db workerId) := by
  unfold beginDrain
  split
  · trivial
  · split
    · rename_i awake
      exact ⟨rfl, .inr ⟨awake, rfl⟩⟩
    · trivial

theorem step_move {s t : World} {a : Action} (stepped : sessions.step s a = some t) :
    Move s a t := by
  change step s a = some t at stepped
  cases a with
  | claim i workerId leaseId taskType =>
      simp only [step] at stepped
      split at stepped <;> cases stepped
      exact .read rfl (begun_beginClaim ..)
  | lockTask i taskUuid now =>
      simp only [step] at stepped
      split at stepped
      · rename_i worker taskType task was found
        split at stepped
        · rename_i chosen
          cases stepped
          obtain rfl := Table.key_of_get found
          exact .lockTask was found chosen.1
        · cases stepped
      · cases stepped
  | update i =>
      simp only [step] at stepped
      split at stepped
      · rename_i call issued was
        split at stepped
        · rename_i statement next
          split at stepped
          · rename_i isOpen
            cases stepped
            exact .update was next isOpen
          · cases stepped
        · cases stepped
      · rename_i loaded modified was
        split at stepped
        · rename_i isOpen
          cases stepped
          exact .tend was isOpen
        · cases stepped
      · cases stepped
  | commit i =>
      simp only [step] at stepped
      split at stepped
      · rename_i call issued was
        split at stepped
        · rename_i all
          cases stepped
          exact .commit (all ▸ was)
        · cases stepped
      · rename_i done was
        cases stepped
        exact .reaped was
      · rename_i loaded modified was
        cases stepped
        exact .tended was
      · cases stepped
  | refresh i =>
      simp only [step] at stepped
      split at stepped
      · split at stepped <;> cases stepped
        exact .read rfl trivial
      · cases stepped
  | finalize i outcome now =>
      simp only [step] at stepped
      split at stepped <;> cases stepped
      exact .read rfl (begun_checkFinish ..)
  | executorRaised i errorCode errorMessage now =>
      simp only [step] at stepped
      split at stepped <;> cases stepped
      exact .read rfl (begun_beginFinish ..)
  | finish i workerId taskUuid outcome now =>
      simp only [step] at stepped
      split at stepped <;> cases stepped
      exact .read rfl (begun_beginFinish ..)
  | cancel i principal taskUuid now =>
      simp only [step] at stepped
      split at stepped <;> cases stepped
      exact .read rfl (begun_beginCancel ..)
  | retry i principal taskUuid =>
      simp only [step] at stepped
      split at stepped <;> cases stepped
      exact .read rfl (begun_beginRetry ..)
  | reap i now timeout =>
      simp only [step] at stepped
      split at stepped <;> cases stepped
      exact .reap
  | reapWorker i =>
      simp only [step] at stepped
      split at stepped
      · rename_i worker stale done was
        split at stepped
        · rename_i isOpen
          cases stepped
          exact .reapWorker was isOpen
        · cases stepped
      · cases stepped
  | heartbeat i workerId leaseId now =>
      simp only [step] at stepped
      split at stepped <;> cases stepped
      exact .read rfl (begun_beginHeartbeat ..)
  | drain i workerId =>
      simp only [step] at stepped
      split at stepped <;> cases stepped
      exact .read rfl (begun_beginDrain ..)
  | close i =>
      cases stepped
      exact .close

/-! ## What a session holds -/

/-- Session `i` holds the rows of the UPDATE. -/
def World.Holds (s : World) (i : Nat) (statement : Statement) : Prop :=
  (∀ k, statement.taskKey = some k → s.taskLock.Held i k) ∧
    ∀ k, statement.workerKey = some k → s.workerLock.Held i k

/-- Session `i` holds the task row, and its copy is the committed row. -/
def World.HoldsTask (s : World) (i : Nat) (task : Task) : Prop :=
  s.taskLock.Held i task.taskUuid ∧ s.db.task.get task.taskUuid = some task

/-- Session `i` holds the worker row, and its copy is the committed row. -/
def World.HoldsWorker (s : World) (i : Nat) (worker : WorkerRegistry) : Prop :=
  s.workerLock.Held i worker.workerId ∧ s.db.workerRegistry.get worker.workerId = some worker

/-- Only a claim selects its task FOR UPDATE. -/
def World.HoldsSelected (s : World) (i : Nat) : Call → Prop
  | .claim _ task _ => s.HoldsTask i task
  | .finish .. | .cancel .. | .retry _ => True

/-- What session `i` relies on. -/
def Upheld (s : World) (i : Nat) : Session → Prop
  | .writing call issued =>
      call.Checked ∧ s.HoldsSelected i call ∧
        ∀ statement ∈ call.statements.take issued, s.Holds i statement
  | .reaping stale done =>
      (∀ worker ∈ done.map Prod.fst ++ stale, s.HoldsWorker i worker) ∧
        ((done.map Prod.fst ++ stale).map WorkerRegistry.workerId).Nodup ∧
        ∀ entry ∈ done, (entry.2.map Task.taskUuid).Nodup ∧ ∀ task ∈ entry.2,
          s.HoldsTask i task ∧ task.runningOn entry.1.workerId = true
  | .validated worker _ => worker.inFlight < worker.capacity
  | .tending loaded modified issued =>
      Tends loaded modified ∧ (issued = true → s.Holds i (.worker loaded modified))
  | _ => True

/-- Every session has what it relies on. -/
def Sound (s : World) : Prop := ∀ i, Upheld s i (s.session i)

/-- The locks of session `j` and the committed rows under them are as they were. -/
structure Keeps (j : Nat) (s t : World) : Prop where
  taskLock : ∀ k, s.taskLock.Held j k → t.taskLock.Held j k
  workerLock : ∀ k, s.workerLock.Held j k → t.workerLock.Held j k
  task : ∀ k, s.taskLock.Held j k → t.db.task.get k = s.db.task.get k
  worker : ∀ k, s.workerLock.Held j k → t.db.workerRegistry.get k = s.db.workerRegistry.get k

namespace Keeps

variable {j : Nat} {s t : World}

theorem holds (keeps : Keeps j s t) {statement : Statement} (held : s.Holds j statement) :
    t.Holds j statement :=
  ⟨fun k key => keeps.taskLock k (held.1 k key), fun k key => keeps.workerLock k (held.2 k key)⟩

theorem holdsTask (keeps : Keeps j s t) {task : Task} (held : s.HoldsTask j task) :
    t.HoldsTask j task :=
  ⟨keeps.taskLock _ held.1, (keeps.task _ held.1).trans held.2⟩

theorem holdsWorker (keeps : Keeps j s t) {worker : WorkerRegistry}
    (held : s.HoldsWorker j worker) : t.HoldsWorker j worker :=
  ⟨keeps.workerLock _ held.1, (keeps.worker _ held.1).trans held.2⟩

theorem holdsSelected (keeps : Keeps j s t) {call : Call} (held : s.HoldsSelected j call) :
    t.HoldsSelected j call := by
  cases call with
  | claim worker task now => exact keeps.holdsTask held
  | finish workerId task outcome now => trivial
  | cancel task now => trivial
  | retry task => trivial

theorem upheld (keeps : Keeps j s t) {session : Session} (upheld : Upheld s j session) :
    Upheld t j session := by
  cases session with
  | writing call issued =>
      obtain ⟨checked, selected, held⟩ := upheld
      exact ⟨checked, keeps.holdsSelected selected,
        fun statement member => keeps.holds (held statement member)⟩
  | reaping stale done =>
      obtain ⟨workers, distinct, tasks⟩ := upheld
      refine ⟨fun worker member => keeps.holdsWorker (workers worker member), distinct, ?_⟩
      intro entry member
      obtain ⟨nodup, mine⟩ := tasks entry member
      refine ⟨nodup, fun task inEntry => ?_⟩
      obtain ⟨held, running⟩ := mine task inEntry
      exact ⟨keeps.holdsTask held, running⟩
  | validated worker taskType => exact upheld
  | tending loaded modified issued =>
      exact ⟨upheld.1, fun isIssued => keeps.holds (upheld.2 isIssued)⟩
  | idle | claimed | running | raised | rejected => trivial

end Keeps

/-! ## A step leaves the other sessions alone -/

/-- The rows under the locks of `j` stay when `i` commits UPDATEs of rows it holds. -/
theorem keeps_of_transaction {s t : World} {i j : Nat} (other : j ≠ i)
    (statements : List Statement) (held : ∀ statement ∈ statements, s.Holds i statement)
    (rows : t.db = statements.foldl Statement.apply s.db)
    (taskLock : t.taskLock = s.taskLock.release i)
    (workerLock : t.workerLock = s.workerLock.release i) : Keeps j s t where
  taskLock k mine := by
    rw [taskLock]
    exact RowLocks.release_other other mine
  workerLock k mine := by
    rw [workerLock]
    exact RowLocks.release_other other mine
  task k mine := by
    rw [rows]
    refine Statement.get_task_foldl fun statement member key => other ?_
    exact mine.unique ((held statement member).1 k key)
  worker k mine := by
    rw [rows]
    refine Statement.get_worker_foldl fun statement member key => other ?_
    exact mine.unique ((held statement member).2 k key)

theorem holds_reapStatements {s : World} {i : Nat} {stale : List WorkerRegistry}
    {done : List (WorkerRegistry × List Task)} (upheld : Upheld s i (.reaping stale done)) :
    ∀ statement ∈ done.flatMap reapStatements, s.Holds i statement := by
  intro statement member
  obtain ⟨entry, inDone, issued⟩ := List.mem_flatMap.1 member
  obtain ⟨workers, -, tasks⟩ := upheld
  rcases List.mem_append.1 issued with requeued | buried
  · obtain ⟨task, inEntry, rfl⟩ := List.mem_map.1 requeued
    obtain ⟨held, -⟩ := (tasks entry inDone).2 task inEntry
    refine ⟨fun k key => ?_, nofun⟩
    cases key
    exact held.1
  · obtain rfl := List.mem_singleton.1 buried
    have held := workers entry.1 (List.mem_append_left _ (List.mem_map_of_mem inDone))
    refine ⟨nofun, fun k key => ?_⟩
    cases key
    exact held.1

theorem holds_all {s : World} {i : Nat} {call : Call}
    (upheld : Upheld s i (.writing call call.statements.length)) :
    ∀ statement ∈ call.statements, s.Holds i statement := by
  obtain ⟨-, -, held⟩ := upheld
  rwa [List.take_length] at held

/-- Taking an open row takes none from another session. -/
theorem keeps_lockFor_other {s : World} {i j : Nat} {statement : Statement} (other : j ≠ i)
    (isOpen : s.openFor i statement = true) : Keeps j s (s.lockFor i statement) := by
  cases statement with
  | task loaded modified =>
      refine ⟨fun k mine => ?_, fun _ => id, fun _ _ => rfl, fun _ _ => rfl⟩
      refine RowLocks.acquire_other other (fun row member => ?_) mine
      obtain rfl := List.mem_singleton.1 member
      exact isOpen
  | worker loaded modified =>
      refine ⟨fun _ => id, fun k mine => ?_, fun _ _ => rfl, fun _ _ => rfl⟩
      refine RowLocks.acquire_other other (fun row member => ?_) mine
      obtain rfl := List.mem_singleton.1 member
      exact isOpen
  | decrement workerId =>
      refine ⟨fun _ => id, fun k mine => ?_, fun _ _ => rfl, fun _ _ => rfl⟩
      refine RowLocks.acquire_other other (fun row member => ?_) mine
      obtain rfl := List.mem_singleton.1 member
      exact isOpen

theorem Keeps.set {s t : World} {i j : Nat} {session : Session} (keeps : Keeps j s t) :
    Keeps j s (t.set i session) :=
  ⟨keeps.taskLock, keeps.workerLock, keeps.task, keeps.worker⟩

/-- **A step of one session keeps what the others rely on.** -/
theorem Move.keeps {s t : World} {a : Action} (moved : Move s a t) (sound : Sound s) {j : Nat}
    (other : j ≠ a.session) : Keeps j s t := by
  cases moved with
  | read reads begun => exact ⟨fun _ => id, fun _ => id, fun _ _ => rfl, fun _ _ => rfl⟩
  | lockTask was found free =>
      refine ⟨fun k mine => ?_, fun _ => id, fun _ _ => rfl, fun _ _ => rfl⟩
      refine RowLocks.acquire_other other (fun row member => ?_) mine
      obtain rfl := List.mem_singleton.1 member
      have free' := (Bool.and_eq_true_iff.1 free).2
      simp [RowLocks.openTo, Option.isNone_iff_eq_none.1 free']
  | update was next isOpen => exact (keeps_lockFor_other other isOpen).set
  | tend was isOpen => exact (keeps_lockFor_other other isOpen).set
  | tended was =>
      rename_i i loaded modified
      have mine : Upheld s i (.tending loaded modified true) := was ▸ sound i
      refine keeps_of_transaction other [.worker loaded modified] ?_ rfl rfl rfl
      intro statement member
      obtain rfl := List.mem_singleton.1 member
      exact mine.2 rfl
  | commit was =>
      rename_i i call
      have mine : Upheld s i (.writing call call.statements.length) := was ▸ sound i
      exact keeps_of_transaction other _ (holds_all mine) rfl rfl rfl
  | reaped was =>
      rename_i i done
      have mine : Upheld s i (.reaping [] done) := was ▸ sound i
      exact keeps_of_transaction other _ (holds_reapStatements mine) rfl rfl rfl
  | reap =>
      refine ⟨fun _ => id, fun k mine => ?_, fun _ _ => rfl, fun _ _ => rfl⟩
      refine RowLocks.acquire_other other (fun row member => ?_) mine
      obtain ⟨worker, inStale, rfl⟩ := List.mem_map.1 member
      have free := (Bool.and_eq_true_iff.1 (List.mem_filter.1 inStale).2).2
      simp [RowLocks.openTo, Option.isNone_iff_eq_none.1 free]
  | reapWorker was isOpen =>
      refine ⟨fun k mine => ?_, fun _ => id, fun _ _ => rfl, fun _ _ => rfl⟩
      refine RowLocks.acquire_other other (fun row member => ?_) mine
      obtain ⟨task, inTasks, rfl⟩ := List.mem_map.1 member
      exact isOpen task inTasks
  | close =>
      exact ⟨fun _ => RowLocks.release_other other, fun _ => RowLocks.release_other other,
        fun _ _ => rfl, fun _ _ => rfl⟩

theorem Move.session_other {s t : World} {a : Action} (moved : Move s a t) {j : Nat}
    (other : j ≠ a.session) : t.session j = s.session j := by
  cases moved with
  | update was next isOpen =>
      rename_i i call issued statement
      cases statement <;> exact Function.update_of_ne other _ _
  | read | lockTask | commit | reaped | reap | reapWorker | tend | tended | close =>
      exact Function.update_of_ne other _ _

/-! ## Every session has what it relies on -/

theorem upheld_begun {s : World} {i : Nat} {session : Session} (begun : Begun s.db session) :
    Upheld (s.set i session) i session := by
  cases session with
  | validated worker taskType => exact begun.2
  | writing call issued =>
      cases call with
      | claim worker task now => exact begun.elim
      | finish workerId task outcome now =>
          obtain ⟨rfl, checked⟩ := begun
          exact ⟨checked, trivial, by simp⟩
      | cancel task now =>
          obtain ⟨rfl, checked⟩ := begun
          exact ⟨checked, trivial, by simp⟩
      | retry task =>
          obtain ⟨rfl, checked⟩ := begun
          exact ⟨checked, trivial, by simp⟩
  | reaping stale done => exact begun.elim
  | tending loaded modified issued =>
      obtain ⟨rfl, tends⟩ := begun
      exact ⟨tends, nofun⟩
  | idle | claimed | running | raised | rejected => trivial

theorem holds_lockFor (s : World) (i : Nat) (statement : Statement) :
    (s.lockFor i statement).Holds i statement := by
  cases statement with
  | task loaded modified =>
      refine ⟨fun k key => ?_, nofun⟩
      cases key
      exact RowLocks.held_acquire (List.mem_singleton.2 rfl)
  | worker loaded modified =>
      refine ⟨nofun, fun k key => ?_⟩
      cases key
      exact RowLocks.held_acquire (List.mem_singleton.2 rfl)
  | decrement workerId =>
      refine ⟨nofun, fun k key => ?_⟩
      cases key
      exact RowLocks.held_acquire (List.mem_singleton.2 rfl)

theorem keeps_lockFor (s : World) (i : Nat) (statement : Statement) :
    Keeps i s (s.lockFor i statement) := by
  cases statement with
  | task loaded modified =>
      exact ⟨fun _ mine => mine.acquire _, fun _ => id, fun _ _ => rfl, fun _ _ => rfl⟩
  | worker loaded modified =>
      exact ⟨fun _ => id, fun _ mine => mine.acquire _, fun _ _ => rfl, fun _ _ => rfl⟩
  | decrement workerId =>
      exact ⟨fun _ => id, fun _ mine => mine.acquire _, fun _ _ => rfl, fun _ _ => rfl⟩

theorem upheld_update {s : World} {i : Nat} {call : Call} {issued : Nat} {statement : Statement}
    (upheld : Upheld s i (.writing call issued))
    (next : call.statements[issued]? = some statement) :
    Upheld (s.lockFor i statement) i (.writing call (issued + 1)) := by
  have keeps := keeps_lockFor s i statement
  obtain ⟨checked, selected, held⟩ := upheld
  refine ⟨checked, keeps.holdsSelected selected, fun issuedOne member => ?_⟩
  rw [List.take_add_one, next] at member
  rcases List.mem_append.1 member with earlier | latest
  · exact keeps.holds (held issuedOne earlier)
  · obtain rfl : issuedOne = statement := by simpa using latest
    exact holds_lockFor s i issuedOne

theorem upheld_lockTask {s : World} {i : Nat} {worker : WorkerRegistry}
    {taskType : Option TaskType} {task : Task} (now : DateTime)
    (room : worker.inFlight < worker.capacity) (found : s.db.task.get task.taskUuid = some task)
    (free : s.selectable taskType task = true) :
    Upheld (s.selected i worker task now) i (.writing (.claim worker task now) 0) := by
  have dispatchable := (Bool.and_eq_true_iff.1 free).1
  obtain ⟨waiting, budget, -⟩ := Task.dispatchable_iff.1 dispatchable
  refine ⟨⟨room, waiting, budget⟩, ⟨?_, found⟩, by simp⟩
  exact RowLocks.held_acquire (List.mem_singleton.2 rfl)

theorem upheld_reapBegun (s : World) (i : Nat) (now : DateTime) (timeout : TimeDelta) :
    Upheld (s.reapBegun i (s.staleWorkers now timeout)) i
      (.reaping (s.staleWorkers now timeout) []) := by
  refine ⟨fun worker member => ⟨?_, ?_⟩, ?_, by simp⟩
  · exact RowLocks.held_acquire (List.mem_map_of_mem member)
  · exact Table.get_of_mem (List.mem_filter.1 member).1
  · exact (List.Sublist.map _ List.filter_sublist).nodup s.db.workerRegistry.nodup

theorem upheld_collected {s : World} {i : Nat} {worker : WorkerRegistry}
    {stale : List WorkerRegistry} {done : List (WorkerRegistry × List Task)}
    (upheld : Upheld s i (.reaping (worker :: stale) done)) :
    Upheld (s.collected i worker stale done) i
      (.reaping stale (done ++ [(worker, s.runningTasks worker)])) := by
  have keeps : Keeps i s (s.collected i worker stale done) :=
    ⟨fun _ mine => mine.acquire _, fun _ => id, fun _ _ => rfl, fun _ _ => rfl⟩
  obtain ⟨workers, distinct, tasks⟩ := upheld
  have order : (done ++ [(worker, s.runningTasks worker)]).map Prod.fst ++ stale =
      done.map Prod.fst ++ worker :: stale := by simp
  refine ⟨fun w member => ?_, ?_, fun entry member => ?_⟩
  · rw [order] at member
    exact keeps.holdsWorker (workers w member)
  · rw [order]
    exact distinct
  · rcases List.mem_append.1 member with earlier | latest
    · obtain ⟨nodup, mine⟩ := tasks entry earlier
      refine ⟨nodup, fun task inEntry => ?_⟩
      obtain ⟨held, running⟩ := mine task inEntry
      exact ⟨keeps.holdsTask held, running⟩
    · obtain rfl := List.mem_singleton.1 latest
      refine ⟨(List.Sublist.map _ List.filter_sublist).nodup s.db.task.nodup, ?_⟩
      intro task inEntry
      obtain ⟨inTable, running⟩ := List.mem_filter.1 inEntry
      refine ⟨⟨?_, Table.get_of_mem inTable⟩, running⟩
      exact RowLocks.held_acquire (List.mem_map_of_mem inEntry)

/-- **Every step keeps every session sound.** -/
theorem Move.sound {s t : World} {a : Action} (moved : Move s a t) (sound : Sound s) :
    Sound t := by
  intro j
  by_cases other : j ≠ a.session
  · rw [moved.session_other other]
    exact (moved.keeps sound other).upheld (sound j)
  · obtain rfl : j = a.session := not_not.1 other
    have before := sound a.session
    suffices ∃ session, t.session a.session = session ∧ Upheld t a.session session by
      obtain ⟨session, now, upheld⟩ := this
      exact now ▸ upheld
    cases moved with
    | read reads begun => exact ⟨_, Function.update_self .., upheld_begun begun⟩
    | lockTask was found free =>
        rename_i i worker taskType task now
        have room : worker.inFlight < worker.capacity := by
          change Upheld s i (s.session i) at before
          rw [was] at before
          exact before
        exact ⟨_, Function.update_self .., upheld_lockTask now room found free⟩
    | update was next isOpen =>
        rename_i i call issued statement
        change Upheld s i (s.session i) at before
        rw [was] at before
        exact ⟨_, Function.update_self .., upheld_update before next⟩
    | commit was =>
        rename_i i call
        refine ⟨_, Function.update_self .., ?_⟩
        cases call <;> trivial
    | reaped was => exact ⟨_, Function.update_self .., trivial⟩
    | reap => exact ⟨_, Function.update_self .., upheld_reapBegun ..⟩
    | reapWorker was isOpen =>
        rename_i i worker stale done
        change Upheld s i (s.session i) at before
        rw [was] at before
        exact ⟨_, Function.update_self .., upheld_collected before⟩
    | tend was isOpen =>
        rename_i i loaded modified
        change Upheld s i (s.session i) at before
        rw [was] at before
        exact ⟨_, Function.update_self .., before.1, fun _ => holds_lockFor s i _⟩
    | tended was => exact ⟨_, Function.update_self .., trivial⟩
    | close => exact ⟨_, Function.update_self .., trivial⟩

theorem sound_atRest (db : Database) : Sound (atRest db) := fun _ => trivial

end Lcp.Sessions
