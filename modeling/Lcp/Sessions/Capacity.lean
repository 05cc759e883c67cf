/-
# Sessions.Capacity -- the capacity test of a claim

A claim reads its worker's `in_flight` without a lock, compares it with the capacity
and writes back what it read plus one.  Two claims that overlap read the same counter,
and the second write is lost.  `capacity_kept` is for every run in which the counter
has not grown when the claim issues the UPDATE of its worker's row; the other calls
that move the counter must write from current copies, which says nothing in a run of
claims alone.
-/
import Lcp.Sessions.CancelFinal
import Lcp.Sessions.WorkerRows

namespace Lcp.Sessions

open Theory World

set_option autoImplicit false

/-- No more tasks are RUNNING on the worker than its capacity. -/
def UnderCapacity (workerId : String) (s : World) : Prop :=
  ∀ row ∈ s.db.workerRegistry.get workerId,
    s.db.task.count (Task.runningOn workerId) ≤ row.capacity

instance (workerId : String) : DecidablePred (UnderCapacity workerId) := fun s =>
  inferInstanceAs (Decidable (∀ row ∈ s.db.workerRegistry.get workerId,
    s.db.task.count (Task.runningOn workerId) ≤ row.capacity))

/-- The counter covers the RUNNING tasks of the worker, and its capacity the counter. -/
def Covered (workerId : String) (db : Database) : Prop :=
  ∀ row ∈ db.workerRegistry.get workerId,
    db.task.count (Task.runningOn workerId) ≤ row.inFlight ∧ row.inFlight ≤ row.capacity

instance (workerId : String) (db : Database) : Decidable (Covered workerId db) :=
  inferInstanceAs (Decidable (∀ row ∈ db.workerRegistry.get workerId,
    db.task.count (Task.runningOn workerId) ≤ row.inFlight ∧ row.inFlight ≤ row.capacity))

/-- The worker's counter has not grown since the claim read it. -/
def notGrown (workerId : String) (row copy : WorkerRegistry) : Bool :=
  row.workerId ≠ workerId ∨ row.inFlight ≤ copy.inFlight

/-- What a run must keep to for the worker's capacity to hold. -/
def CapacityGuard (workerId : String) (s : World) (a : Action) : Prop :=
  claimsWith (notGrown workerId) s a = true ∧
    updatesCurrent (fun deed => deed.releases = some workerId) s a = true

instance (workerId : String) (s : World) (a : Action) : Decidable (CapacityGuard workerId s a) :=
  inferInstanceAs (Decidable (_ ∧ _))

/-! ## Capacities do not change -/

theorem WorkerChange.capacity {s t : World} {a : Action} {workerId : String}
    {row : WorkerRegistry} (change : WorkerChange s workerId a t)
    (found : t.db.workerRegistry.get workerId = some row) :
    ∃ before, s.db.workerRegistry.get workerId = some before ∧ row.capacity = before.capacity := by
  cases change with
  | same unclaimed same => exact ⟨row, same.symm.trans found, rfl⟩
  | claimed was owner same | released was takes releases same | tended tends same =>
      rw [found, eq_comm, Option.map_eq_some_iff] at same
      obtain ⟨before, here, rfl⟩ := same
      exact ⟨before, here, rfl⟩
  | buried before after idle =>
      rename_i i done worker
      rw [found, Option.some.injEq] at after
      exact ⟨worker, before, by rw [after]; rfl⟩

/-- The worker copy that a session claims with. -/
def Session.claimant : Session → Option WorkerRegistry
  | .validated worker _ => some worker
  | .writing (.claim worker _ _) _ => some worker
  | _ => none

/-- A session that is about to claim was so before, or it read the row just now. -/
theorem Move.claimant {s t : World} {a : Action} {worker : WorkerRegistry} (moved : Move s a t)
    (claims : (t.session a.session).claimant = some worker) :
    (s.session a.session).claimant = some worker ∨
      s.db.workerRegistry.get worker.workerId = some worker ∧ t.db = s.db := by
  have landing := moved.landing
  generalize t.session a.session = session at landing claims
  cases landing with
  | read begun moved =>
      cases session with
      | validated copy taskType =>
          cases claims
          exact .inr ⟨begun.1, by rw [moved]; rfl⟩
      | writing call issued =>
          cases call with
          | claim copy task now => exact begun.elim
          | finish | cancel | retry => cases claims
      | idle | claimed | running | reaping | tending | raised | rejected => cases claims
  | @claims i copy taskType task now was =>
      refine .inl ?_
      rw [show (Action.lockTask i task.taskUuid now).session = i from rfl, was]
      exact claims
  | @issues i call n statement was next moved =>
      refine .inl ?_
      rw [show (Action.update i).session = i from rfl, was]
      cases call <;> exact claims
  | reaps => cases claims
  | collects was moved => cases claims
  | rests quiet =>
      cases session with
      | validated copy taskType => cases quiet
      | writing call issued => cases quiet
      | idle | claimed | running | reaping | tending | raised | rejected => cases claims

/-- The copies of the worker's row that claims are made with have its capacity. -/
def CopiesCapacity (workerId : String) (s : World) : Prop :=
  ∀ i worker, (s.session i).claimant = some worker → worker.workerId = workerId →
    ∀ row ∈ s.db.workerRegistry.get workerId, row.capacity = worker.capacity

theorem Move.copiesCapacity {s t : World} {a : Action} {workerId : String} (moved : Move s a t)
    (sound : Sound s) (collected : Collected s) (copies : CopiesCapacity workerId s) :
    CopiesCapacity workerId t := by
  intro i worker claims owner row found
  have fromBefore : (s.session i).claimant = some worker → row.capacity = worker.capacity := by
    intro before
    obtain ⟨earlier, here, same⟩ :=
      (moved.workerChange sound collected workerId).capacity found
    exact same.trans (copies i worker before owner earlier here)
  by_cases other : i ≠ a.session
  · rw [moved.session_other other] at claims
    exact fromBefore claims
  · obtain rfl : i = a.session := not_not.1 other
    rcases moved.claimant claims with before | ⟨here, rows⟩
    · exact fromBefore before
    · rw [rows, ← owner, Option.mem_def, here, Option.some.injEq] at found
      rw [found]

/-! ## One step -/

/-- What gives a slot back starts on a RUNNING row of the worker and ends its run. -/
theorem Event.gives {e : Event} {workerId : String} (wrote : e.Wrote) (serial : e.Serial)
    (releases : e.deed.releases = some workerId) :
    e.before.runningOn workerId = true ∧ e.after.status ≠ .running := by
  obtain ⟨deed, before, after⟩ := e
  cases deed with
  | claimed owner | retried => cases releases
  | finished owner outcome =>
      obtain rfl : owner = workerId := Option.some.inj releases
      refine ⟨serial, ?_⟩
      rw [show after.status = outcome.status from wrote]
      cases outcome <;> simp [Outcome.status]
  | cancelled released =>
      have slot : before.slotOwner = some workerId := serial.2.symm.trans releases
      refine ⟨(Task.slotOwner_eq_some.1 slot).1, ?_⟩
      rw [show after.status = .cancelled from wrote]
      simp
  | requeued owner =>
      obtain rfl : owner = workerId := Option.some.inj releases
      refine ⟨wrote.1, ?_⟩
      rw [show after = before.requeue from wrote.2]
      simp [Task.requeue]

theorem not_runningOn {task : Task} {workerId : String} (idle : task.status ≠ .running) :
    task.runningOn workerId = false := by
  simp [Task.runningOn, idle]

/-- What the proof carries along a run. -/
structure Counted (workerId : String) (db : Database) (s : World) : Prop where
  settled : Settled (fun deed => deed.releases = some workerId) db s
  collected : Collected s
  copies : CopiesCapacity workerId s
  writes : WritesWith (notGrown workerId) s
  covered : Covered workerId s.db

theorem inFlight_flush_tends {loaded modified row : WorkerRegistry}
    (tends : Tends loaded modified) :
    (WorkerRegistry.flush loaded modified row).inFlight = row.inFlight := by
  rcases tends with ⟨now, rfl⟩ | ⟨-, rfl⟩ <;> exact flushed_same ..

/-- A claim adds its task to the RUNNING ones of the worker. -/
theorem count_claimed {s : World} {i : Nat} {copy : WorkerRegistry} {task : Task} {now : DateTime}
    (upheld : Upheld s i (.writing (.claim copy task now) 2)) :
    (s.committed i (.claim copy task now)).db.task.count (Task.runningOn copy.workerId) =
      s.db.task.count (Task.runningOn copy.workerId) + 1 := by
  obtain ⟨⟨-, waiting, -⟩, selected, -⟩ := upheld
  have load := Table.count_update selected.2 (Task.flush task (task.claim copy.workerId now))
    (Task.taskUuid_flush task (task.claim copy.workerId now)) (Task.runningOn copy.workerId)
  have idle : task.runningOn copy.workerId = false := by
    simp only [Task.runningOn, decide_eq_false_iff_not]
    rintro ⟨running, -⟩
    simp [running] at waiting
  have runs : (task.claim copy.workerId now).runningOn copy.workerId = true := by
    simp [Task.runningOn, Task.claim]
  rw [flush_claim, idle, runs] at load
  simp only [Bool.false_eq_true, if_false, if_true, Nat.add_zero] at load
  exact load

/-- A call that gives a slot back takes a task from the RUNNING ones of the worker. -/
theorem count_released {s : World} {i : Nat} {call : Call} {workerId : String}
    (upheld : Upheld s i (.writing call call.statements.length))
    (releases : call.deed.releases = some workerId) (fresh : current s.db call.task = true) :
    (s.committed i call).db.task.count (Task.runningOn workerId) + 1 =
      s.db.task.count (Task.runningOn workerId) := by
  obtain ⟨task, inRows, -⟩ := current_iff.1 fresh
  obtain ⟨runs, stopped⟩ := Event.gives (wrote_call upheld.1 upheld.2.1 inRows)
    (serial_call upheld.1 inRows fresh) releases
  have load := Table.count_update inRows (Task.flush call.task call.modified)
    (Task.taskUuid_flush call.task call.modified) (Task.runningOn workerId)
  rw [not_runningOn stopped, runs] at load
  rw [show (s.committed i call).db.task = _ from task_callRows s call]
  simp only [Bool.false_eq_true, if_false, if_true, Nat.add_zero] at load
  exact load

theorem WorkerChange.covered {s t : World} {a : Action} {workerId : String} {db : Database}
    (change : WorkerChange s workerId a t) (inv : Counted workerId db s)
    (stepped : sessions.step s a = some t) : Covered workerId t.db := by
  intro row found
  have moved := step_move stepped
  have sound := inv.settled.chronicle.sound
  cases change with
  | same unclaimed same =>
      rw [same] at found
      have covered := inv.covered row found
      have load := moved.count_le sound unclaimed
      exact ⟨Nat.le_trans load covered.1, covered.2⟩
  | claimed was owner same =>
      rename_i i copy task now
      rw [Option.mem_def.1 found, eq_comm, Option.map_eq_some_iff] at same
      obtain ⟨before, here, rfl⟩ := same
      have covered := inv.covered before here
      have upheld := sound i
      rw [was] at upheld
      have room := upheld.1.1
      have grown := inv.writes i copy task now 2 was (Nat.le_refl 2)
      rw [owner, here] at grown
      have key := Table.key_of_get here
      have notGrown : before.inFlight ≤ copy.inFlight := by simpa [notGrown, key] using grown
      have capacity := inv.copies i copy (by rw [was]; rfl) owner before here
      have counter : (WorkerRegistry.flush copy (copy.setInFlight (copy.inFlight + 1))
          before).inFlight = copy.inFlight + 1 :=
        flushed_of_ne _ (by simp [WorkerRegistry.setInFlight])
      have size := count_claimed upheld
      rw [owner] at size
      refine ⟨?_, ?_⟩
      · rw [size, counter]
        omega
      · rw [counter, show (WorkerRegistry.flush copy _ before).capacity = before.capacity from rfl]
        omega
  | released was takes releases same =>
      rename_i i call
      rw [Option.mem_def.1 found, eq_comm, Option.map_eq_some_iff] at same
      obtain ⟨before, here, rfl⟩ := same
      have covered := inv.covered before here
      have upheld := sound i
      rw [was] at upheld
      have fresh := inv.settled.committing stepped was (by simpa using releases)
      have size := count_released upheld releases fresh
      have counter : before.decrementInFlight.inFlight = before.inFlight - 1 := by
        simp only [WorkerRegistry.decrementInFlight]
        split <;> omega
      have capacity : before.decrementInFlight.capacity = before.capacity := rfl
      rw [counter, capacity]
      omega
  | tended tends same =>
      rename_i i loaded modified
      rw [Option.mem_def.1 found, eq_comm, Option.map_eq_some_iff] at same
      obtain ⟨before, here, rfl⟩ := same
      rw [inFlight_flush_tends tends]
      exact inv.covered before here
  | buried before after idle =>
      rename_i i done worker
      rw [Option.mem_def.1 found, Option.some.injEq] at after
      rw [after, Table.count_eq_zero.2 idle]
      exact ⟨Nat.le_refl 0, Nat.zero_le _⟩

theorem Counted.step {s t : World} {a : Action} {workerId : String} {db : Database}
    (inv : Counted workerId db s) (guard : CapacityGuard workerId s a)
    (stepped : sessions.step s a = some t) : Counted workerId db t := by
  have moved := step_move stepped
  have sound := inv.settled.chronicle.sound
  exact
    { settled := settled_step inv.settled guard.2 stepped
      collected := moved.collects sound inv.collected
      copies := moved.copiesCapacity sound inv.collected inv.copies
      writes := moved.writesWith sound inv.writes guard.1
      covered := (moved.workerChange sound inv.collected workerId).covered inv stepped }

theorem Counted.underCapacity {s : World} {workerId : String} {db : Database}
    (inv : Counted workerId db s) : UnderCapacity workerId s := by
  intro row found
  have covered := inv.covered row found
  exact Nat.le_trans covered.1 covered.2

/-- **Capacity is kept** in every run in which the worker's counter has not grown when a
claim issues the UPDATE of the worker's row. -/
theorem capacity_kept {workerId : String} {db : Database} {as : List Action}
    (start : Covered workerId db)
    (guarded : sessions.Guarded (CapacityGuard workerId) (atRest db) as) :
    sessions.Always (UnderCapacity workerId) (atRest db) as := by
  have begin_ : Counted workerId db (atRest db) :=
    { settled := settled_atRest _ db
      collected := fun i stale done reaping => by cases reaping
      copies := fun i worker claims => by cases claims
      writes := fun i worker task now issued writing => by cases writing
      covered := start }
  have holds := Machine.always_of_inv (fun s a t before ok stepped => before.step ok stepped)
    begin_ guarded
  exact holds.mono fun s inv => inv.underCapacity

section Runs

/-- Two PENDING tasks and a worker with room for one. -/
def oneSlot : Database where
  task := (Table.empty.insert
    { taskUuid := "t1", taskType := .compaction, datasetUuid := "d", tenantId := "acme",
      createdAt := 0 }).insert
    { taskUuid := "t2", taskType := .compaction, datasetUuid := "d", tenantId := "acme",
      createdAt := 1 }
  workerRegistry := Table.empty.insert
    { workerId := "a", workerType := "lifecycle", leaseId := "lease-a", lastHeartbeatAt := 0 }

/-- Two claims of one worker read its row before either commits. -/
def claimedTwice : List Action :=
  [.claim 0 "a" "lease-a" none, .claim 1 "a" "lease-a" none,
    .lockTask 0 "t1" 1, .update 0, .update 0, .commit 0,
    .lockTask 1 "t2" 1, .update 1, .update 1, .commit 1]

theorem capacity_exceeded : ¬ sessions.Always (UnderCapacity "a") (atRest oneSlot) claimedTwice :=
  Machine.not_always_of_ends (by decide)

/-- The second claim reads the row after the first one's commit. -/
theorem capacity_kept_in_turn :
    sessions.Always (UnderCapacity "a") (atRest oneSlot)
      [.claim 0 "a" "lease-a" none, .lockTask 0 "t1" 1, .update 0, .update 0, .commit 0,
        .claim 1 "a" "lease-a" none, .refresh 0, .finalize 0 (.complete none) 2, .update 0,
        .update 0, .commit 0] :=
  capacity_kept (by decide) (by decide)

end Runs

end Lcp.Sessions
