/-
# Sessions.CancelFinal -- cancellation against the worker's iteration

`cancellation_final` is for every run in which the UPDATEs of task rows come from
current copies: no event leads out of CANCELLED, every slot that a claim took for the
task was released once, and a `complete_task` after the cancel raises.

Slots are counted over the history of one row: an event that starts on a RUNNING row
of a worker gives the worker's slot back, a claim takes one, and the others move
neither (`conserves`).
-/
import Lcp.Sessions.LostUpdates

namespace Lcp.Sessions

open Theory World History

set_option autoImplicit false

/-! ## What cancellation promises -/

def Deed.cancels : Deed → Bool
  | .cancelled _ => true
  | .claimed _ | .finished .. | .retried | .requeued _ => false

/-- A task whose cancellation was committed is CANCELLED. -/
def StaysCancelled (s : World) : Prop :=
  ∀ e ∈ s.log, e.deed.cancels = true →
    (s.db.task.get e.before.taskUuid).any (fun row => row.status = .cancelled) = true

instance : DecidablePred StaysCancelled := fun s =>
  inferInstanceAs (Decidable (∀ e ∈ s.log, e.deed.cancels = true →
    (s.db.task.get e.before.taskUuid).any (fun row => row.status = .cancelled) = true))

/-- Every slot that was ever held for a cancelled task, by a claim or from the start,
was released once. -/
def ReleasedOnce (db : Database) (s : World) : Prop :=
  ∀ e ∈ s.log, e.deed.cancels = true → ∀ workerId,
    (changes e.before.taskUuid s.log).countP (fun e => e.deed.releases = some workerId) =
      (changes e.before.taskUuid s.log).countP (fun e => e.deed.takes = some workerId) +
        if (db.task.get e.before.taskUuid).any (Task.runningOn workerId) then 1 else 0

/-- What one step does about cancelled tasks and about slots. -/
structure CancelStep (s : World) (a : Action) (t : World) : Prop where
  /-- `complete_task` of a cancelled task raises, and changes no row. -/
  rejects : ∀ i workerId taskUuid row, Completes s i workerId taskUuid a →
    s.db.task.get taskUuid = some row → row.status = .cancelled →
      (∃ message, t.session i = .raised (.taskTransition message)) ∧ t.db = s.db
  /-- A call that releases a slot takes one from the counter of that worker, and the
  other calls but claims leave the counters alone. -/
  counters : ∀ i call issued workerId, a = .commit i → s.session i = .writing call issued →
    call.deed.takes = none →
      t.db.workerRegistry.get workerId =
        if call.deed.releases = some workerId then
          (s.db.workerRegistry.get workerId).map WorkerRegistry.decrementInFlight
        else s.db.workerRegistry.get workerId

/-- `cancel_task` does not reach a RUNNING task of the worker with the empty name. -/
def cancelsNamed (s : World) : Action → Bool
  | .commit i =>
      match s.session i with
      | .writing (.cancel task _) _ => !task.runningOn ""
      | _ => true
  | _ => true

/-- What a run must keep to for its cancellations to be final. -/
def CancelGuard (s : World) (a : Action) : Prop :=
  updatesCurrent (fun _ => true) s a = true ∧ finalizesCurrent s a = true ∧
    cancelsNamed s a = true

instance (s : World) (a : Action) : Decidable (CancelGuard s a) :=
  inferInstanceAs (Decidable (_ ∧ _ ∧ _))

/-! ## Events -/

/-- Nothing that a call does running alone starts on a CANCELLED row. -/
theorem Event.not_cancelled {e : Event} (wrote : e.Wrote) (serial : e.Serial) :
    e.before.status ≠ .cancelled := by
  intro status
  obtain ⟨deed, before, after⟩ := e
  cases deed with
  | claimed workerId => simp [Event.Wrote, show before.status = .cancelled from status] at wrote
  | finished workerId outcome =>
      have runs := (Task.runningOn_iff.1 serial).1
      simp [show before.status = .cancelled from status] at runs
  | cancelled released =>
      have cancellable : before.cancellable = true := serial.1
      simp [Task.cancellable, show before.status = .cancelled from status] at cancellable
  | retried => simp [Event.Serial, show before.status = .cancelled from status] at serial
  | requeued workerId =>
      have runs := (Task.runningOn_iff.1 wrote.1).1
      simp [show before.status = .cancelled from status] at runs

/-- The slots a row holds. -/
private def holding (workerId : String) (row : Option Task) : Nat :=
  if row.any (Task.runningOn workerId) then 1 else 0

private theorem holding_of_not_running {workerId : String} {task : Task}
    (idle : task.status ≠ .running) : holding workerId (some task) = 0 := by
  simp [holding, Task.runningOn, idle]

private theorem holding_of_runningOn {workerId owner : String} {task : Task}
    (runs : task.runningOn owner = true) :
    holding workerId (some task) = if owner = workerId then 1 else 0 := by
  obtain ⟨status, named⟩ := Task.runningOn_iff.1 runs
  simp [holding, Task.runningOn, status, named]

/-- What an event leaves on its row, and what it takes and gives, add up. -/
theorem Event.conserves {e : Event} (wrote : e.Wrote) (serial : e.Serial)
    (named : e.deed.cancels = true → e.before.runningOn "" = false) (workerId : String) :
    holding workerId e.start + (if decide (e.deed.takes = some workerId) then 1 else 0) =
      holding workerId e.result +
        if decide (e.deed.releases = some workerId) then 1 else 0 := by
  obtain ⟨deed, before, after⟩ := e
  cases deed with
  | claimed owner =>
      obtain ⟨waiting, -, now, claim⟩ := wrote
      have idle : before.status ≠ .running := by
        rintro running
        simp [show before.status = .running from running] at waiting
      have runs : after.runningOn owner = true := by
        rw [show after = before.claim owner now from claim]
        simp [Task.runningOn, Task.claim]
      simp [Event.start, Event.result, holding_of_not_running idle, holding_of_runningOn runs,
        Deed.takes, Deed.releases]
  | finished owner outcome =>
      have runs : before.runningOn owner = true := serial
      have idle : after.status ≠ .running := by
        rw [show after.status = outcome.status from wrote]
        cases outcome <;> simp [Outcome.status]
      simp [Event.start, Event.result, holding_of_not_running idle, holding_of_runningOn runs,
        Deed.takes, Deed.releases]
  | cancelled released =>
      have idle : after.status ≠ .running := by
        rw [show after.status = .cancelled from wrote]
        simp
      have noEmpty : before.runningOn "" = false := named rfl
      have slot : released = before.slotOwner := serial.2
      have same : before.runningOn workerId = decide (released = some workerId) := by
        rw [Bool.eq_iff_iff, slot, decide_eq_true_eq, Task.slotOwner_eq_some]
        constructor
        · intro runs
          refine ⟨runs, ?_⟩
          rintro rfl
          simp [runs] at noEmpty
        · exact And.left
      have held : holding workerId (some before) = if released = some workerId then 1 else 0 := by
        simp [holding, same]
      by_cases gives : released = some workerId <;>
        simp [Event.start, Event.result, holding_of_not_running idle, held, Deed.takes,
          Deed.releases, gives]
  | retried =>
      have failed : before.status = .failed := serial
      have idle : after.status ≠ .running := by
        rw [show after.status = .pending from wrote]
        simp
      have idleBefore : before.status ≠ .running := by simp [failed]
      simp [Event.start, Event.result, holding_of_not_running idle,
        holding_of_not_running idleBefore, Deed.takes, Deed.releases]
  | requeued owner =>
      have runs : before.runningOn owner = true := wrote.1
      have idle : after.status ≠ .running := by
        rw [show after = before.requeue from wrote.2]
        simp [Task.requeue]
      simp [Event.start, Event.result, holding_of_not_running idle, holding_of_runningOn runs,
        Deed.takes, Deed.releases]

/-! ## Runs -/

/-- Everything in the log is as if alone, and no cancel was of the nameless worker. -/
structure Cancellable (db : Database) (s : World) : Prop where
  settled : Settled (fun _ => true) db s
  named : ∀ e ∈ s.log, e.deed.cancels = true → e.before.runningOn "" = false

namespace Cancellable

variable {db : Database} {s t : World} {a : Action}

theorem serial (inv : Cancellable db s) {e : Event} (member : e ∈ s.log) : e.Serial :=
  inv.settled.serial e member rfl

theorem wrote (inv : Cancellable db s) {e : Event} (member : e ∈ s.log) : e.Wrote :=
  inv.settled.chronicle.wrote e member

theorem stays (inv : Cancellable db s) : StaysCancelled s := by
  intro e member cancels
  obtain ⟨earlier, later, log⟩ := List.append_of_mem member
  have linked := inv.settled.chronicle.recorded.linked e.before.taskUuid
  have final := inv.settled.chronicle.recorded.final e.before.taskUuid
  have here : changes e.before.taskUuid (e :: later) =
      e :: changes e.before.taskUuid later := by simp [changes]
  rw [log, changes_append, here, linked_append, linked_cons] at linked
  rw [log, changes_append, here, final_append, final_cons] at final
  rw [final]
  refine linked.2.2.stays (P := fun row => row.any (fun task => task.status = .cancelled) = true)
    ?_ fun change inLater starts => ?_
  · have wrote := inv.wrote member
    obtain ⟨deed, before, after⟩ := e
    cases deed with
    | cancelled released =>
        have status : after.status = .cancelled := wrote
        simp [Event.result, status]
    | claimed | finished | retried | requeued => cases cancels
  · have inLog : change ∈ s.log := by
      rw [log]
      simp [(mem_changes.1 inLater).1]
    have other := Event.not_cancelled (inv.wrote inLog) (inv.serial inLog)
    simp [Event.start, other] at starts

theorem released (inv : Cancellable db s) : ReleasedOnce db s := by
  intro e member cancels workerId
  have linked := inv.settled.chronicle.recorded.linked e.before.taskUuid
  have final := inv.settled.chronicle.recorded.final e.before.taskUuid
  have balance := linked.balance (holding workerId) (fun e => e.deed.takes = some workerId)
    (fun e => e.deed.releases = some workerId) fun change inChanges => by
      have inLog := (mem_changes.1 inChanges).1
      exact Event.conserves (inv.wrote inLog) (inv.serial inLog) (inv.named change inLog) workerId
  have stays := inv.stays e member cancels
  have empty : holding workerId (s.db.task.get e.before.taskUuid) = 0 := by
    obtain ⟨row, found, status⟩ := (Option.any_eq_true _ _).1 stays
    rw [found]
    exact holding_of_not_running (by simp [show row.status = .cancelled by simpa using status])
  rw [← final, empty] at balance
  simp only [holding] at balance
  omega

/-- What a step adds to the log was not a cancel of the nameless worker's task. -/
theorem named_step (inv : Cancellable db s) (guard : cancelsNamed s a = true)
    (stepped : sessions.step s a = some t) :
    ∀ e ∈ t.log, e.deed.cancels = true → e.before.runningOn "" = false := by
  intro e member cancels
  cases step_move stepped with
  | commit was =>
      rename_i i call
      rcases List.mem_append.1 member with earlier | latest
      · exact inv.named e earlier cancels
      · have fresh := inv.settled.committing stepped was rfl
        rw [Option.mem_toList, event, Option.map_eq_some_iff] at latest
        obtain ⟨row, found, rfl⟩ := latest
        obtain ⟨again, foundAgain, status, owner⟩ := current_iff.1 fresh
        obtain rfl : row = again := Option.some.inj (found.symm.trans foundAgain)
        cases call with
        | cancel task now =>
            have named : task.runningOn "" = false := by simpa [cancelsNamed, was] using guard
            exact (runningOn_of_current status owner).trans named
        | claim | finish | retry => cases cancels
  | reaped was =>
      rename_i i done
      rcases List.mem_append.1 member with earlier | latest
      · exact inv.named e earlier cancels
      · obtain ⟨entry, -, inEntry⟩ := List.mem_flatMap.1 latest
        obtain ⟨task, -, made⟩ := List.mem_filterMap.1 inEntry
        obtain ⟨row, -, rfl⟩ := Option.map_eq_some_iff.1 made
        cases cancels
  | update was next isOpen =>
      rename_i i call issued statement
      cases statement <;> exact inv.named e member cancels
  | read | lockTask | reap | reapWorker | tend | tended | close =>
      exact inv.named e member cancels

theorem step (inv : Cancellable db s) (guard : CancelGuard s a)
    (stepped : sessions.step s a = some t) : Cancellable db t where
  settled := settled_step inv.settled guard.1 stepped
  named := inv.named_step guard.2.2 stepped

theorem holds (inv : Cancellable db s) : StaysCancelled s ∧ ReleasedOnce db s :=
  ⟨inv.stays, inv.released⟩

end Cancellable

theorem cancellable_atRest (db : Database) : Cancellable db (atRest db) where
  settled := settled_atRest _ db
  named := by simp [atRest]

theorem cancelStep {s t : World} {a : Action} (guard : finalizesCurrent s a = true)
    (stepped : sessions.step s a = some t) : CancelStep s a t where
  rejects i workerId taskUuid row completes found status := by
    refine completes_raised stepped completes guard ?_
    rintro ⟨again, foundAgain, runs⟩
    obtain rfl : row = again := Option.some.inj (found.symm.trans foundAgain)
    have running := (Task.runningOn_iff.1 runs).1
    simp [status] at running
  counters i call issued workerId act writing takes := by
    subst act
    cases step_move stepped with
    | read reads begun => cases reads
    | reaped was | tended was =>
        rw [writing] at was
        cases was
    | commit was =>
        rw [writing] at was
        cases was
        exact get_worker_callRows s _ takes workerId

/-- **Cancellation is final** in every run in which the UPDATEs of task rows, and the
check of `complete_task`, come from current copies. -/
theorem cancellation_final {db : Database} {as : List Action}
    (guarded : sessions.Guarded CancelGuard (atRest db) as) :
    sessions.Always (fun s => StaysCancelled s ∧ ReleasedOnce db s) (atRest db) as ∧
      sessions.Along CancelStep (atRest db) as := by
  have start := cancellable_atRest db
  refine ⟨⟨start.holds, ?_⟩, ?_⟩
  · refine Machine.along_of_inv (fun s a t before ok stepped => ?_) start guarded
    exact ⟨before.step ok stepped, (before.step ok stepped).holds⟩
  · refine Machine.along_of_inv (fun s a t before ok stepped => ?_) start guarded
    exact ⟨before.step ok stepped, cancelStep ok.2.1 stepped⟩

section Runs

/-- A cancel from its check to its commit. -/
def cancelled (i : Nat) (now : DateTime) : List Action :=
  [.cancel i acmeSdk "t" now, .update i, .update i, .commit i]

/-- The task is cancelled while its executor runs; then the worker completes it. -/
def cancelledWhileRunning : List Action :=
  claimed 0 "b" "lease-b" 101 ++ cancelled 1 102 ++ completed 0 103

theorem cancelled_task_succeeds :
    ¬ sessions.Always (fun s => StaysCancelled s ∧ ReleasedOnce (twoWorkers .pending 0) s)
      (atRest (twoWorkers .pending 0)) cancelledWhileRunning := by
  intro always
  have stays : sessions.Always StaysCancelled (atRest (twoWorkers .pending 0))
      cancelledWhileRunning := always.mono fun _ => And.left
  exact Machine.not_always_of_ends (by decide) stays

/-- The task is cancelled while its executor runs, and the executor raises: the
rollback expires the copy, and the worker learns that it lost the task. -/
theorem cancellation_final_raised :
    sessions.Always (fun s => StaysCancelled s ∧ ReleasedOnce (twoWorkers .pending 0) s)
        (atRest (twoWorkers .pending 0))
        (claimed 0 "b" "lease-b" 101 ++ cancelled 1 102 ++
          [.executorRaised 0 "OSError" "disk" 103, .finish 2 "b" "t" (.complete none) 104]) ∧
      sessions.Along CancelStep (atRest (twoWorkers .pending 0))
        (claimed 0 "b" "lease-b" 101 ++ cancelled 1 102 ++
          [.executorRaised 0 "OSError" "disk" 103, .finish 2 "b" "t" (.complete none) 104]) :=
  cancellation_final (by decide)

end Runs

end Lcp.Sessions
