/-
# Sessions.CopyCurrency -- commits from copies that are still current

`complete_task`, `fail_task`, `cancel_task` and `retry_task` test a copy that they
read without a lock, and `complete_task` at the end of an iteration tests the copy
that the claim's refresh left in the identity map.  The UPDATE is on the primary key
alone, so nothing tests the row again.

A copy is `current` while the committed row has its status and, when it is RUNNING,
its owner.  The lock that an UPDATE takes keeps it so until the commit; hence a copy
that is current at the UPDATE makes an event that the call would have made running
alone (`Event.Serial`).
-/
import Lcp.Sessions.RowHistory

namespace Lcp

set_option autoImplicit false

theorem Task.checkOwned_eq_error {workerId : String} {task : Task}
    (lost : ¬ task.runningOn workerId = true) :
    ∃ message, task.checkOwned workerId = .error (.taskTransition message) := by
  unfold Task.checkOwned
  by_cases owned : task.workerId = some workerId
  · have stopped : task.status ≠ .running := fun running =>
      lost (Task.runningOn_iff.2 ⟨running, owned⟩)
    exact ⟨_, (if_neg (not_not.2 owned)).trans (if_pos stopped)⟩
  · exact ⟨_, if_pos owned⟩

namespace Sessions

open Theory World History

/-! ## Current copies -/

/-- The committed row has the status of the copy and, where that is RUNNING, its owner. -/
def current (db : Database) (copy : Task) : Bool :=
  (db.task.get copy.taskUuid).any fun row =>
    row.status = copy.status ∧ (copy.status = .running → row.workerId = copy.workerId)

theorem current_iff {db : Database} {copy : Task} :
    current db copy = true ↔ ∃ row, db.task.get copy.taskUuid = some row ∧
      row.status = copy.status ∧ (copy.status = .running → row.workerId = copy.workerId) := by
  simp [current, Option.any_eq_true, imp_iff_not_or]

/-- A call whose deed is one of `which` issues the UPDATE of its task from a current
copy. -/
def updatesCurrent (which : Deed → Bool) (s : World) : Action → Bool
  | .update i =>
      match s.session i with
      | .writing call issued =>
          !which call.deed || !(call.statements[issued]?.any fun statement =>
            statement.taskKey.isSome) || current s.db call.task
      | _ => true
  | _ => true

/-- `complete_task` at the end of an iteration tests a current copy. -/
def finalizesCurrent (s : World) : Action → Bool
  | .finalize i (.complete _) _ =>
      match s.session i with
      | .running _ copy => current s.db copy
      | _ => true
  | _ => true

theorem taskKey_of_mem {call : Call} {statement : Statement} {k : String}
    (member : statement ∈ call.statements) (key : statement.taskKey = some k) :
    k = call.task.taskUuid := by
  cases call with
  | claim worker task now | finish workerId task outcome now =>
      simp only [Call.statements, List.mem_cons, List.not_mem_nil, or_false] at member
      rcases member with rfl | rfl <;> cases key
      rfl
  | cancel task now =>
      rcases List.mem_append.1 member with released | assigned
      · obtain ⟨workerId, -, rfl⟩ := Option.map_eq_some_iff.1 (Option.mem_toList.1 released)
        cases key
      · obtain rfl := List.mem_singleton.1 assigned
        cases key
        rfl
  | retry task =>
      obtain rfl := List.mem_singleton.1 member
      cases key
      rfl

theorem task_mem_statements (call : Call) :
    Statement.task call.task call.modified ∈ call.statements := by
  cases call <;> simp [Call.statements]

/-- A call that issued the UPDATE of its task has a current copy. -/
def Fresh (which : Deed → Bool) (s : World) : Prop :=
  ∀ i call issued, s.session i = .writing call issued → which call.deed = true →
    (∃ statement ∈ call.statements.take issued, statement.taskKey.isSome) →
      current s.db call.task = true

/-- A current copy stays current under the lock of its row. -/
theorem Keeps.current {j : Nat} {s t : World} (keeps : Keeps j s t) {copy : Task}
    (held : s.taskLock.Held j copy.taskUuid) (fresh : current s.db copy = true) :
    current t.db copy = true := by
  obtain ⟨row, found, same⟩ := current_iff.1 fresh
  exact current_iff.2 ⟨row, (keeps.task _ held).trans found, same⟩

theorem Move.fresh {which : Deed → Bool} {s t : World} {a : Action} (moved : Move s a t)
    (sound : Sound s) (fresh : Fresh which s) (guard : updatesCurrent which s a = true) :
    Fresh which t := by
  intro i call issued writing wanted ⟨statement, member, key⟩
  by_cases other : i ≠ a.session
  · rw [moved.session_other other] at writing
    have upheld := sound i
    rw [writing] at upheld
    have held := (upheld.2.2 statement member).1
    obtain ⟨k, isKey⟩ := Option.isSome_iff_exists.1 key
    have mine := held k isKey
    rw [taskKey_of_mem (List.mem_of_mem_take member) isKey] at mine
    exact (moved.keeps sound other).current mine
      (fresh i call issued writing wanted ⟨statement, member, key⟩)
  · obtain rfl : i = a.session := not_not.1 other
    rcases moved.writing writing with rfl | ⟨j, n, latest, rfl, rfl, was, next, rfl⟩
    · simp at member
    · have keeps : Keeps j s ((s.lockFor j latest).set j (.writing call (n + 1))) :=
        (keeps_lockFor s j latest).set
      have upheld := sound j
      rw [was] at upheld
      rw [List.take_add_one, next] at member
      rcases List.mem_append.1 member with earlier | now
      · have held := (upheld.2.2 statement earlier).1
        obtain ⟨k, isKey⟩ := Option.isSome_iff_exists.1 key
        have mine := held k isKey
        rw [taskKey_of_mem (List.mem_of_mem_take earlier) isKey] at mine
        exact keeps.current mine (fresh j call n was wanted ⟨statement, earlier, key⟩)
      · obtain rfl : statement = latest := by simpa using now
        have here : current s.db call.task = true := by
          simpa [updatesCurrent, was, next, wanted, key] using guard
        have same : ((s.lockFor j statement).set j (.writing call (n + 1))).db = s.db := by
          cases statement <;> rfl
        rw [same]
        exact here

/-! ## Events of current copies -/

/-- The call would have made the event running alone: the row before it passes the
tests of the call, and the slot released is the row's. -/
def Event.Serial (e : Event) : Prop :=
  match e.deed with
  | .claimed _ | .requeued _ => True
  | .finished workerId _ => e.before.runningOn workerId = true
  | .cancelled released => e.before.cancellable = true ∧ released = e.before.slotOwner
  | .retried => e.before.status = .failed

theorem runningOn_of_current {copy row : Task} {workerId : String}
    (status : row.status = copy.status)
    (owner : copy.status = .running → row.workerId = copy.workerId) :
    row.runningOn workerId = copy.runningOn workerId := by
  unfold Task.runningOn
  by_cases running : copy.status = .running
  · rw [status, owner running]
  · simp [status, running]

theorem serial_call {db : Database} {call : Call} {row : Task} (checked : call.Checked)
    (found : db.task.get call.task.taskUuid = some row) (fresh : current db call.task = true) :
    Event.Serial ⟨call.deed, row, Task.flush call.task call.modified row⟩ := by
  obtain ⟨again, foundAgain, status, owner⟩ := current_iff.1 fresh
  obtain rfl : row = again := Option.some.inj (found.symm.trans foundAgain)
  cases call with
  | claim worker task now => trivial
  | finish workerId task outcome now =>
      exact (runningOn_of_current status owner).trans checked
  | cancel task now =>
      refine ⟨?_, ?_⟩
      · have cancellable : task.cancellable = true := checked
        unfold Task.cancellable at cancellable ⊢
        rwa [status]
      · show task.slotOwner = row.slotOwner
        unfold Task.slotOwner
        rw [status]
        by_cases running : task.status = .running
        · rw [owner running]
          rfl
        · simp [Call.task, running]
  | retry task => exact status.trans checked.1

/-- The log accounts for the rows, and the events of `which` come from current copies. -/
structure Settled (which : Deed → Bool) (db : Database) (s : World) : Prop where
  chronicle : Chronicle db s
  fresh : Fresh which s
  serial : ∀ e ∈ s.log, which e.deed = true → e.Serial

theorem settled_atRest (which : Deed → Bool) (db : Database) : Settled which db (atRest db) where
  chronicle := chronicle_atRest db
  fresh i call issued writing := by cases writing
  serial := by simp [atRest]

/-- What a step adds to the log comes from current copies. -/
theorem Move.serial {which : Deed → Bool} {s t : World} {a : Action} (moved : Move s a t)
    (sound : Sound s) (fresh : Fresh which s) :
    ∀ e ∈ t.log, e ∈ s.log ∨ (which e.deed = true → e.Serial) := by
  intro e member
  cases moved with
  | commit was =>
      rename_i i call
      rcases List.mem_append.1 member with earlier | latest
      · exact .inl earlier
      · right
        intro wanted
        rw [Option.mem_toList, event, Option.map_eq_some_iff] at latest
        obtain ⟨row, found, rfl⟩ := latest
        have upheld := sound i
        rw [was] at upheld
        refine serial_call upheld.1 found (fresh i call _ was wanted ?_)
        rw [List.take_length]
        exact ⟨_, task_mem_statements call, rfl⟩
  | reaped was =>
      rename_i i done
      rcases List.mem_append.1 member with earlier | latest
      · exact .inl earlier
      · right
        intro _
        obtain ⟨entry, -, inEntry⟩ := List.mem_flatMap.1 latest
        obtain ⟨task, -, made⟩ := List.mem_filterMap.1 inEntry
        obtain ⟨row, -, rfl⟩ := Option.map_eq_some_iff.1 made
        trivial
  | update was next isOpen =>
      rename_i i call issued statement
      cases statement <;> exact .inl member
  | read | lockTask | reap | reapWorker | tend | tended | close => exact .inl member

theorem settled_step {which : Deed → Bool} {db : Database} {s t : World} {a : Action}
    (before : Settled which db s) (guard : updatesCurrent which s a = true)
    (stepped : sessions.step s a = some t) : Settled which db t where
  chronicle := chronicle_step before.chronicle stepped
  fresh := (step_move stepped).fresh before.chronicle.sound before.fresh guard
  serial e member wanted := by
    rcases (step_move stepped).serial before.chronicle.sound before.fresh e member with
      earlier | serial
    · exact before.serial e earlier wanted
    · exact serial wanted

/-- A call that is about to commit has a current copy. -/
theorem Settled.committing {which : Deed → Bool} {db : Database} {s t : World} {i : Nat}
    {call : Call} {issued : Nat} (settled : Settled which db s)
    (stepped : sessions.step s (.commit i) = some t) (writing : s.session i = .writing call issued)
    (wanted : which call.deed = true) : current s.db call.task = true := by
  cases step_move stepped with
  | read reads begun => cases reads
  | reaped was | tended was =>
      rw [writing] at was
      cases was
  | commit was =>
      rw [writing] at was
      cases was
      refine settled.fresh i _ _ writing wanted ?_
      rw [List.take_length]
      exact ⟨_, task_mem_statements _, rfl⟩

/-! ## Completions -/

/-- The task is RUNNING on the worker, as committed. -/
def RunsOn (db : Database) (taskUuid workerId : String) : Prop :=
  ∃ row, db.task.get taskUuid = some row ∧ row.runningOn workerId = true

/-- The step is the `complete_task` of session `i`: at the end of its iteration, or in a
session of its own. -/
def Completes (s : World) (i : Nat) (workerId taskUuid : String) : Action → Prop
  | .finalize j (.complete _) _ =>
      j = i ∧ ∃ copy, s.session i = .running workerId copy ∧ copy.taskUuid = taskUuid
  | .finish j worker task (.complete _) _ => j = i ∧ worker = workerId ∧ task = taskUuid
  | _ => False

theorem checkFinish_raised {workerId : String} {copy : Task} (outcome : Outcome)
    (now : DateTime) (lost : ¬ copy.runningOn workerId = true) :
    ∃ message, checkFinish workerId copy outcome now = .raised (.taskTransition message) := by
  obtain ⟨message, error⟩ := Task.checkOwned_eq_error lost
  exact ⟨message, by rw [checkFinish, error]⟩

theorem beginFinish_raised {db : Database} {workerId taskUuid : String} (outcome : Outcome)
    (now : DateTime) (lost : ¬ RunsOn db taskUuid workerId) :
    ∃ message, beginFinish db workerId taskUuid outcome now =
      .raised (.taskTransition message) := by
  unfold beginFinish SchedulerService.getTask
  cases found : db.task.get taskUuid with
  | none => exact ⟨_, rfl⟩
  | some row => exact checkFinish_raised outcome now fun runs => lost ⟨row, found, runs⟩

/-- `complete_task` of a task that is lost raises, and changes no row. -/
theorem completes_raised {s t : World} {a : Action} {i : Nat} {workerId taskUuid : String}
    (stepped : sessions.step s a = some t) (completes : Completes s i workerId taskUuid a)
    (guard : finalizesCurrent s a = true) (lost : ¬ RunsOn s.db taskUuid workerId) :
    (∃ message, t.session i = .raised (.taskTransition message)) ∧ t.db = s.db := by
  change step s a = some t at stepped
  cases a with
  | finalize j outcome now =>
      cases outcome with
      | fail errorCode errorMessage => exact completes.elim
      | complete result =>
          obtain ⟨rfl, copy, running, rfl⟩ := completes
          simp only [step, running] at stepped
          cases stepped
          simp only [finalizesCurrent, running] at guard
          obtain ⟨row, found, status, owner⟩ := current_iff.1 guard
          have stale : ¬ copy.runningOn workerId = true := by
            rw [← runningOn_of_current status owner]
            exact fun runs => lost ⟨row, found, runs⟩
          obtain ⟨message, raised⟩ := checkFinish_raised (.complete result) now stale
          exact ⟨⟨message, by rw [session_set, raised]⟩, rfl⟩
  | finish j worker task outcome now =>
      cases outcome with
      | fail errorCode errorMessage => exact completes.elim
      | complete result =>
          obtain ⟨rfl, rfl, rfl⟩ := completes
          simp only [step] at stepped
          split at stepped <;> cases stepped
          obtain ⟨message, raised⟩ := beginFinish_raised (.complete result) now lost
          exact ⟨⟨message, by rw [session_set, raised]⟩, rfl⟩
  | claim | lockTask | update | commit | refresh | executorRaised | cancel | retry | reap |
    reapWorker | heartbeat | drain | close => exact completes.elim

end Sessions

end Lcp
