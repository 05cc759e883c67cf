/-
# Sessions.RowHistory -- the log is the life of every task row

`History.Linked` is the point: the events of one row, in the order of their
commits, start each from the row that the one before it left, and the last one left
the committed row (`Chronicle`).  This holds in every interleaving, since a commit
reads the row under its lock.

`Event.Wrote` is what every event has done whatever its session had read before:
the claims and requeues, whose rows were selected FOR UPDATE, are as if alone; the
others are known by what they wrote only.
-/
import Lcp.Sessions.Locking
import Lcp.Theory.History

namespace Lcp.Sessions

open Theory World History

set_option autoImplicit false

/-! ## The events of one row -/

namespace Event

def start (e : Event) : Option Task := some e.before

def result (e : Event) : Option Task := some e.after

end Event

/-- The events of the row `taskUuid`. -/
def changes (taskUuid : String) (events : List Event) : List Event :=
  events.filter fun e => e.before.taskUuid = taskUuid

@[simp] theorem changes_nil (taskUuid : String) : changes taskUuid [] = [] := rfl

@[simp] theorem changes_append (taskUuid : String) (events more : List Event) :
    changes taskUuid (events ++ more) = changes taskUuid events ++ changes taskUuid more :=
  List.filter_append ..

theorem mem_changes {taskUuid : String} {events : List Event} {e : Event} :
    e ∈ changes taskUuid events ↔ e ∈ events ∧ e.before.taskUuid = taskUuid := by
  simp [changes]

/-- The events lead from the task rows of one database to those of another. -/
structure Recorded (db after : Database) (events : List Event) : Prop where
  linked : ∀ k, Linked Event.start Event.result (db.task.get k) (changes k events)
  final : ∀ k, after.task.get k = final Event.result (db.task.get k) (changes k events)

namespace Recorded

variable {db mid after : Database} {events more : List Event}

theorem nothing (same : after.task = db.task) : Recorded db after [] where
  linked _ := trivial
  final _ := by rw [same]; rfl

theorem append (first : Recorded db mid events) (second : Recorded mid after more) :
    Recorded db after (events ++ more) where
  linked k := by
    rw [changes_append, linked_append, ← first.final k]
    exact ⟨first.linked k, second.linked k⟩
  final k := by
    rw [changes_append, final_append, ← first.final k]
    exact second.final k

theorem congr (recorded : Recorded db mid events) (same : after.task = mid.task) :
    Recorded db after events where
  linked := recorded.linked
  final k := by
    rw [same]
    exact recorded.final k

/-- A row without events is as it was. -/
theorem untouched (recorded : Recorded db after events) {k : String}
    (elsewhere : ∀ e ∈ events, e.before.taskUuid ≠ k) : after.task.get k = db.task.get k := by
  have none_ : changes k events = [] := by
    rw [changes, List.filter_eq_nil_iff]
    intro e member
    simpa using elsewhere e member
  rw [recorded.final k, none_]
  rfl

/-- The UPDATE of a row that is there. -/
theorem flush {loaded modified row : Task} (deed : Deed)
    (found : db.task.get loaded.taskUuid = some row) :
    Recorded db ((Statement.task loaded modified).apply db)
      [⟨deed, row, Task.flush loaded modified row⟩] where
  linked k := by
    by_cases here : row.taskUuid = k
    · have key : loaded.taskUuid = k := (Table.key_of_get found).symm.trans here
      simp [changes, here, Event.start, ← key, found]
    · simp [changes, here]
  final k := by
    have lookup := Table.get_update db.task loaded.taskUuid k (Task.flush loaded modified)
      (Task.taskUuid_flush loaded modified)
    have hk := Table.key_of_get found
    refine (show _ = _ from lookup).trans ?_
    by_cases here : row.taskUuid = k
    · have key : loaded.taskUuid = k := hk.symm.trans here
      rw [if_pos key.symm, ← key, found]
      simp [changes, here, Event.result, key]
    · have key : ¬ k = loaded.taskUuid := fun same => here (hk.trans same.symm)
      rw [if_neg key]
      simp [changes, here]

end Recorded

/-! ## What an event wrote -/

/-- The state in which an outcome leaves the task. -/
def Outcome.status : Outcome → TaskStatus
  | .complete _ => .succeeded
  | .fail .. => .failed

/-- What an event did to its row in any interleaving. -/
def Event.Wrote (e : Event) : Prop :=
  match e.deed with
  | .claimed workerId =>
      (e.before.status = .pending ∨ e.before.status = .queued) ∧
        e.before.attempt < e.before.maxAttempts ∧ ∃ now, e.after = e.before.claim workerId now
  | .finished _ outcome => e.after.status = outcome.status
  | .cancelled _ => e.after.status = .cancelled
  | .retried => e.after.status = .pending
  | .requeued workerId => e.before.runningOn workerId = true ∧ e.after = e.before.requeue

theorem flush_claim (task : Task) (workerId : String) (now : DateTime) :
    Task.flush task (task.claim workerId now) task = task.claim workerId now := by
  simp only [Task.flush, flushed_loaded]
  rfl

theorem flush_requeue (task : Task) : Task.flush task task.requeue task = task.requeue := by
  simp only [Task.flush, flushed_loaded]
  rfl

/-- A claim's event is the claim of the row it selected. -/
theorem event_claim {s : World} {i : Nat} {worker : WorkerRegistry} {task : Task}
    {now : DateTime} (held : s.HoldsTask i task) :
    s.event (.claimed worker.workerId) task (task.claim worker.workerId now) =
      some ⟨.claimed worker.workerId, task, task.claim worker.workerId now⟩ := by
  simp [event, held.2, flush_claim]

theorem wrote_finish {workerId : String} {task row : Task} (outcome : Outcome) (now : DateTime)
    (running : task.runningOn workerId = true) :
    Event.Wrote ⟨.finished workerId outcome, row,
      Task.flush task (outcome.assign now task) row⟩ := by
  obtain ⟨status, -⟩ := Task.runningOn_iff.1 running
  cases outcome with
  | complete result =>
      have changed : TaskStatus.succeeded ≠ task.status := by simp [status]
      exact flushed_of_ne row.status changed
  | fail errorCode errorMessage =>
      have changed : TaskStatus.failed ≠ task.status := by simp [status]
      exact flushed_of_ne row.status changed

theorem wrote_cancel {task row : Task} (released : Option String) (now : DateTime)
    (cancellable : task.cancellable = true) :
    Event.Wrote ⟨.cancelled released, row, Task.flush task (task.cancel now) row⟩ := by
  have changed : TaskStatus.cancelled ≠ task.status := by
    intro same
    simp [Task.cancellable, ← same] at cancellable
  exact flushed_of_ne row.status changed

theorem wrote_retry {task row : Task} (failed : task.status = .failed) :
    Event.Wrote ⟨.retried, row, Task.flush task task.retry row⟩ := by
  have changed : TaskStatus.pending ≠ task.status := by simp [failed]
  exact flushed_of_ne row.status changed

/-- The event of a call whose checks passed. -/
theorem wrote_call {s : World} {i : Nat} {call : Call} {row : Task} (checked : call.Checked)
    (selected : s.HoldsSelected i call) (found : s.db.task.get call.task.taskUuid = some row) :
    Event.Wrote ⟨call.deed, row, Task.flush call.task call.modified row⟩ := by
  cases call with
  | claim worker task now =>
      obtain ⟨-, waiting, budget⟩ := checked
      have here : s.db.task.get task.taskUuid = some task := selected.2
      obtain rfl : task = row := Option.some.inj (here.symm.trans found)
      exact ⟨waiting, budget, now, flush_claim task worker.workerId now⟩
  | finish workerId task outcome now => exact wrote_finish outcome now checked
  | cancel task now => exact wrote_cancel _ now checked
  | retry task => exact wrote_retry checked.1

/-! ## The slots of a commit -/

/-- The worker whose slot the transaction takes. -/
def Deed.takes : Deed → Option String
  | .claimed workerId => some workerId
  | .finished .. | .cancelled _ | .retried | .requeued _ => none

/-- The worker whose slot the transaction gives back. -/
def Deed.releases : Deed → Option String
  | .finished workerId _ | .requeued workerId => some workerId
  | .cancelled released => released
  | .claimed _ | .retried => none

/-- A call but a claim moves the counter of the worker whose slot it releases. -/
theorem get_worker_callRows (s : World) (call : Call) (idle : call.deed.takes = none)
    (workerId : String) :
    (s.callRows call).workerRegistry.get workerId =
      if call.deed.releases = some workerId then
        (s.db.workerRegistry.get workerId).map WorkerRegistry.decrementInFlight
      else s.db.workerRegistry.get workerId := by
  have decremented : ∀ owner, (s.db.workerRegistry.update owner WorkerRegistry.decrementInFlight
      WorkerRegistry.workerId_decrementInFlight).get workerId =
        if some owner = some workerId then
          (s.db.workerRegistry.get workerId).map WorkerRegistry.decrementInFlight
        else s.db.workerRegistry.get workerId := by
    intro owner
    rw [Table.get_update]
    by_cases same : workerId = owner
    · simp [same]
    · have other : owner ≠ workerId := Ne.symm same
      simp [same, other]
  cases call with
  | claim worker task now => cases idle
  | finish owner task outcome now => exact decremented owner
  | cancel task now =>
      show (((task.slotOwner.map Statement.decrement).toList ++
        [Statement.task task (task.cancel now)]).foldl Statement.apply s.db).workerRegistry.get
          workerId = if task.slotOwner = some workerId then _ else _
      cases task.slotOwner with
      | none => rfl
      | some owner => exact decremented owner
  | retry task => rfl

/-! ## The events of a commit -/

/-- Of the UPDATEs of a call one is on a task row. -/
theorem task_callRows (s : World) (call : Call) :
    (s.callRows call).task = ((Statement.task call.task call.modified).apply s.db).task := by
  cases call with
  | cancel task now =>
      show (((task.slotOwner.map Statement.decrement).toList ++
        [Statement.task task (task.cancel now)]).foldl Statement.apply s.db).task = _
      cases task.slotOwner <;> rfl
  | claim | finish | retry => rfl

theorem recorded_call (s : World) (call : Call) :
    Recorded s.db (s.callRows call) (s.event call.deed call.task call.modified).toList := by
  refine Recorded.congr ?_ (task_callRows s call)
  unfold event
  cases found : s.db.task.get call.task.taskUuid with
  | some row => exact Recorded.flush call.deed found
  | none =>
      refine ⟨fun _ => trivial, fun k => ?_⟩
      refine (Table.get_update s.db.task call.task.taskUuid k _
        (Task.taskUuid_flush call.task call.modified)).trans ?_
      by_cases here : k = call.task.taskUuid
      · simp [here, found]
      · simp [here]

/-- The event of one requeued orphan. -/
def requeueEvent (workerId : String) (task : Task) : Event :=
  ⟨.requeued workerId, task, task.requeue⟩

theorem recorded_requeues (workerId : String) {tasks : List Task} {db : Database}
    (distinct : (tasks.map Task.taskUuid).Nodup)
    (found : ∀ task ∈ tasks, db.task.get task.taskUuid = some task) :
    Recorded db ((tasks.map fun task => .task task task.requeue).foldl Statement.apply db)
      (tasks.map (requeueEvent workerId)) := by
  induction tasks generalizing db with
  | nil => exact Recorded.nothing rfl
  | cons task rest ih =>
      rw [List.map_cons, List.nodup_cons] at distinct
      have one : Recorded db (Statement.apply db (.task task task.requeue))
          [⟨.requeued workerId, task, Task.flush task task.requeue task⟩] :=
        Recorded.flush (.requeued workerId) (found task (by simp))
      rw [flush_requeue] at one
      refine one.append (ih distinct.2 fun later member => ?_)
      have other : ∀ e ∈ [requeueEvent workerId task], e.before.taskUuid ≠ later.taskUuid := by
        intro e only same
        obtain rfl := List.mem_singleton.1 only
        exact distinct.1 (List.mem_map.2 ⟨later, member, same.symm⟩)
      exact (one.untouched other).trans (found later (List.mem_cons_of_mem _ member))

theorem recorded_reap {done : List (WorkerRegistry × List Task)} {db : Database}
    (distinct : (done.flatMap fun entry => entry.2.map Task.taskUuid).Nodup)
    (found : ∀ entry ∈ done, ∀ task ∈ entry.2, db.task.get task.taskUuid = some task) :
    Recorded db ((done.flatMap reapStatements).foldl Statement.apply db)
      (done.flatMap fun entry => entry.2.map (requeueEvent entry.1.workerId)) := by
  induction done generalizing db with
  | nil => exact Recorded.nothing rfl
  | cons entry rest ih =>
      rw [List.flatMap_cons, List.nodup_append] at distinct
      obtain ⟨inside, later, apart⟩ := distinct
      have mine := recorded_requeues entry.1.workerId inside (found entry (by simp))
      rw [List.flatMap_cons, List.foldl_append, List.flatMap_cons]
      have buried : Recorded db ((reapStatements entry).foldl Statement.apply db)
          (entry.2.map (requeueEvent entry.1.workerId)) := by
        rw [reapStatements, List.foldl_append]
        exact mine.congr rfl
      refine buried.append (ih later fun other member task inOther => ?_)
      have elsewhere : ∀ e ∈ entry.2.map (requeueEvent entry.1.workerId),
          e.before.taskUuid ≠ task.taskUuid := by
        intro e inEvents
        obtain ⟨requeued, inEntry, rfl⟩ := List.mem_map.1 inEvents
        exact apart _ (List.mem_map_of_mem inEntry) _
          (List.mem_flatMap.2 ⟨other, member, List.mem_map_of_mem inOther⟩)
      exact (buried.untouched elsewhere).trans
        (found other (List.mem_cons_of_mem _ member) task inOther)

/-- A reaper collects no task twice: its workers differ, and a task has one owner. -/
theorem distinct_of_upheld {s : World} {i : Nat} {stale : List WorkerRegistry}
    {done : List (WorkerRegistry × List Task)} (upheld : Upheld s i (.reaping stale done)) :
    (done.flatMap fun entry => entry.2.map Task.taskUuid).Nodup := by
  obtain ⟨-, workers, tasks⟩ := upheld
  rw [List.map_append] at workers
  have owners := (List.nodup_append.1 workers).1
  rw [List.map_map, List.Nodup, List.pairwise_map] at owners
  refine List.nodup_flatMap.2 ⟨fun entry member => (tasks entry member).1, ?_⟩
  refine owners.imp_of_mem fun {a b} inA inB differ k hereA hereB => ?_
  obtain ⟨task, memberA, rfl⟩ := List.mem_map.1 hereA
  obtain ⟨again, memberB, same⟩ := List.mem_map.1 hereB
  obtain ⟨heldA, runsA⟩ := (tasks a inA).2 task memberA
  obtain ⟨heldB, runsB⟩ := (tasks b inB).2 again memberB
  have key := heldB.2
  rw [same, heldA.2] at key
  obtain rfl := Option.some.inj key
  refine differ ?_
  have ownerA := (Task.runningOn_iff.1 runsA).2
  have ownerB := (Task.runningOn_iff.1 runsB).2
  exact Option.some.inj (ownerA.symm.trans ownerB)

theorem reapEvents_eq {s : World} {i : Nat} {stale : List WorkerRegistry}
    {done : List (WorkerRegistry × List Task)} (upheld : Upheld s i (.reaping stale done)) :
    s.reapEvents done =
      done.flatMap fun entry => entry.2.map (requeueEvent entry.1.workerId) := by
  obtain ⟨-, -, tasks⟩ := upheld
  unfold reapEvents
  refine List.flatMap_congr fun entry member => ?_
  rw [← List.filterMap_eq_map]
  refine List.filterMap_congr fun task inEntry => ?_
  obtain ⟨held, -⟩ := (tasks entry member).2 task inEntry
  simp [event, held.2, flush_requeue, requeueEvent]

/-! ## The log of a run -/

/-- What a step adds to the log. -/
theorem Move.recorded {s t : World} {a : Action} (moved : Move s a t) (sound : Sound s) :
    ∃ events, t.log = s.log ++ events ∧ Recorded s.db t.db events ∧ ∀ e ∈ events, e.Wrote := by
  cases moved with
  | commit was =>
      rename_i i call
      have upheld : Upheld s i (.writing call call.statements.length) := was ▸ sound i
      obtain ⟨checked, selected, -⟩ := upheld
      refine ⟨_, rfl, recorded_call s call, fun e member => ?_⟩
      rw [Option.mem_toList, event, Option.map_eq_some_iff] at member
      obtain ⟨row, found, rfl⟩ := member
      exact wrote_call checked selected found
  | reaped was =>
      rename_i i done
      have upheld : Upheld s i (.reaping [] done) := was ▸ sound i
      have events := reapEvents_eq upheld
      refine ⟨_, rfl, ?_, fun e member => ?_⟩
      · rw [events]
        exact recorded_reap (distinct_of_upheld upheld) fun entry member task inEntry =>
          ((upheld.2.2 entry member).2 task inEntry).1.2
      · rw [events] at member
        obtain ⟨entry, inDone, inEvents⟩ := List.mem_flatMap.1 member
        obtain ⟨task, inEntry, rfl⟩ := List.mem_map.1 inEvents
        exact ⟨((upheld.2.2 entry inDone).2 task inEntry).2, rfl⟩
  | update was next isOpen =>
      rename_i i call issued statement
      refine ⟨[], ?_, Recorded.nothing ?_, by simp⟩ <;>
        cases statement <;> simp [lockFor, World.set]
  | read | lockTask | reap | reapWorker | tend | tended | close =>
      exact ⟨[], (List.append_nil _).symm, Recorded.nothing rfl, by simp⟩

/-- The log so far accounts for every task row. -/
structure Chronicle (db : Database) (s : World) : Prop where
  sound : Sound s
  recorded : Recorded db s.db s.log
  wrote : ∀ e ∈ s.log, e.Wrote

theorem chronicle_atRest (db : Database) : Chronicle db (atRest db) where
  sound := sound_atRest db
  recorded := Recorded.nothing rfl
  wrote := by simp [atRest]

theorem chronicle_step {db : Database} {s t : World} {a : Action} (before : Chronicle db s)
    (stepped : sessions.step s a = some t) : Chronicle db t := by
  have moved := step_move stepped
  obtain ⟨events, log, recorded, wrote⟩ := moved.recorded before.sound
  refine ⟨moved.sound before.sound, ?_, fun e member => ?_⟩
  · rw [log]
    exact before.recorded.append recorded
  · rw [log] at member
    rcases List.mem_append.1 member with earlier | latest
    · exact before.wrote e earlier
    · exact wrote e latest

end Lcp.Sessions
