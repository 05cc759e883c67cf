/-
# Sessions.WorkerRows -- claims and reapers on one worker row

A claim writes its worker's row at its end, when it has held its task for a while;
what it then finds there was not tested.  `claimsWith ok` says that the committed row
is as `ok` asks when that UPDATE is issued, and the lock keeps it so until the commit
(`WritesWith`).

A reaper holds the row of a stale worker from before it looks for the worker's tasks.
A claim cannot commit meanwhile, so at its commit the reaper has all of them
(`Collected`).
-/
import Lcp.Sessions.RowHistory

namespace Lcp.Sessions

open Theory World History

set_option autoImplicit false

/-! ## Where RUNNING rows come from -/

theorem Recorded.origin {db after : Database} {events : List Event}
    (recorded : Recorded db after events) (wrote : ∀ e ∈ events, e.Wrote) {task : Task}
    (member : task ∈ after.task.rows) (running : task.status = .running) :
    task ∈ db.task.rows ∨
      ∃ e ∈ events, e.after = task ∧ ∃ workerId, e.deed = .claimed workerId := by
  have found := Table.get_of_mem member
  rw [recorded.final] at found
  by_cases none_ : changes task.taskUuid events = []
  · rw [none_] at found
    exact .inl (Table.mem_of_get found)
  · obtain ⟨e, inChanges, same⟩ :=
      final_mem Event.result (db.task.get task.taskUuid) none_
    rw [same] at found
    have after_ : e.after = task := Option.some.inj found
    have inEvents := (mem_changes.1 inChanges).1
    refine .inr ⟨e, inEvents, after_, ?_⟩
    have here := wrote e inEvents
    obtain ⟨deed, before, row⟩ := e
    obtain rfl : row = task := after_
    cases deed with
    | claimed workerId => exact ⟨workerId, rfl⟩
    | finished workerId outcome =>
        have status : row.status = outcome.status := here
        cases outcome <;> simp [running, Outcome.status] at status
    | cancelled released =>
        have status : row.status = .cancelled := here
        simp [running] at status
    | retried =>
        have status : row.status = .pending := here
        simp [running] at status
    | requeued workerId =>
        have requeued : row = before.requeue := here.2
        simp [requeued, Task.requeue] at running

/-- A RUNNING row was there, or the step is the commit of its claim. -/
theorem Move.running_origin {s t : World} {a : Action} (moved : Move s a t) (sound : Sound s)
    {task : Task} (member : task ∈ t.db.task.rows) (running : task.status = .running) :
    task ∈ s.db.task.rows ∨ ∃ i worker copy now, a = .commit i ∧
      s.session i = .writing (.claim worker copy now) 2 ∧
      t = s.committed i (.claim worker copy now) ∧ task = copy.claim worker.workerId now := by
  cases moved with
  | commit was =>
      rename_i i call
      have upheld := sound i
      rw [was] at upheld
      have wrote : ∀ e ∈ (s.event call.deed call.task call.modified).toList, e.Wrote := by
        intro e member
        rw [Option.mem_toList, event, Option.map_eq_some_iff] at member
        obtain ⟨row, found, rfl⟩ := member
        exact wrote_call upheld.1 upheld.2.1 found
      rcases (recorded_call s call).origin wrote member running with before | claim
      · exact .inl before
      · obtain ⟨e, inEvents, after, workerId, deed⟩ := claim
        rw [Option.mem_toList] at inEvents
        cases call with
        | claim worker copy now =>
            have here : s.event (.claimed worker.workerId) copy (copy.claim worker.workerId now) =
              some e := inEvents
            rw [event_claim upheld.2.1] at here
            cases here
            exact .inr ⟨i, worker, copy, now, rfl, was, rfl, after.symm⟩
        | finish | cancel | retry =>
            rw [event, Option.map_eq_some_iff] at inEvents
            obtain ⟨row, -, rfl⟩ := inEvents
            cases deed
  | reaped was =>
      rename_i i done
      have upheld := sound i
      rw [was] at upheld
      obtain ⟨events, log, recorded, wrote⟩ := (Move.reaped was).recorded sound
      rcases recorded.origin wrote member running with before | ⟨e, inEvents, -, workerId, deed⟩
      · exact .inl before
      · have same : s.reapEvents done = events := List.append_cancel_left log
        rw [← same, reapEvents_eq upheld] at inEvents
        obtain ⟨entry, -, inEntry⟩ := List.mem_flatMap.1 inEvents
        obtain ⟨requeued, -, rfl⟩ := List.mem_map.1 inEntry
        cases deed
  | update was next isOpen =>
      rename_i i call issued statement
      cases statement <;> exact .inl member
  | read | lockTask | reap | reapWorker | tend | tended | close => exact .inl member

/-! ## The worker row of a claim -/

/-- A claim that issued both its UPDATEs holds its worker's row. -/
theorem Upheld.claim_worker {s : World} {i : Nat} {worker : WorkerRegistry} {task : Task}
    {now : DateTime} {issued : Nat}
    (upheld : Upheld s i (.writing (.claim worker task now) issued)) (both : 2 ≤ issued) :
    s.workerLock.Held i worker.workerId := by
  obtain ⟨-, -, held⟩ := upheld
  rw [List.take_of_length_le (by simpa [Call.statements] using both)] at held
  refine (held (.worker worker (worker.setInFlight (worker.inFlight + 1))) ?_).2 _ rfl
  simp [Call.statements]

/-- The worker row that a claim is about to write is as `ok` asks, given the copy. -/
def claimsWith (ok : WorkerRegistry → WorkerRegistry → Bool) (s : World) : Action → Bool
  | .update i =>
      match s.session i with
      | .writing (.claim worker _ _) 1 =>
          (s.db.workerRegistry.get worker.workerId).all fun row => ok row worker
      | _ => true
  | _ => true

/-- The worker row that a claim wrote is, as committed, as `ok` asks. -/
def WritesWith (ok : WorkerRegistry → WorkerRegistry → Bool) (s : World) : Prop :=
  ∀ i worker task now issued, s.session i = .writing (.claim worker task now) issued →
    2 ≤ issued → (s.db.workerRegistry.get worker.workerId).all (fun row => ok row worker) = true

theorem Move.writesWith {ok : WorkerRegistry → WorkerRegistry → Bool} {s t : World} {a : Action}
    (moved : Move s a t) (sound : Sound s) (writes : WritesWith ok s)
    (guard : claimsWith ok s a = true) : WritesWith ok t := by
  intro i worker task now issued writing both
  by_cases other : i ≠ a.session
  · rw [moved.session_other other] at writing
    have upheld := sound i
    rw [writing] at upheld
    rw [(moved.keeps sound other).worker _ (upheld.claim_worker both)]
    exact writes i worker task now issued writing both
  · obtain rfl : i = a.session := not_not.1 other
    rcases moved.writing writing with rfl | ⟨j, n, statement, rfl, rfl, was, next, rfl⟩
    · omega
    · have same : ((s.lockFor j statement).set j
          (.writing (.claim worker task now) (n + 1))).db = s.db := by
        cases statement <;> rfl
      rw [same]
      have last : n < 2 := (List.getElem?_eq_some_iff.1 next).1
      obtain rfl : n = 1 := by omega
      simpa [claimsWith, was] using guard

/-! ## What a reaper collected -/

/-- A reaper has every RUNNING task of the workers it went through. -/
def Collected (s : World) : Prop :=
  ∀ i stale done, s.session i = .reaping stale done → ∀ entry ∈ done,
    ∀ task ∈ s.db.task.rows, task.runningOn entry.1.workerId = true → task ∈ entry.2

/-- A session that reaps began to, or collected the tasks of its next worker. -/
theorem Move.reaping {s t : World} {a : Action} {stale : List WorkerRegistry}
    {done : List (WorkerRegistry × List Task)} (moved : Move s a t)
    (reaping : t.session a.session = .reaping stale done) :
    done = [] ∨ ∃ i worker earlier, s.session i = .reaping (worker :: stale) earlier ∧
      i = a.session ∧ done = earlier ++ [(worker, s.runningTasks worker)] ∧
      t = s.collected i worker stale earlier := by
  have landing := moved.landing
  rw [reaping] at landing
  cases landing with
  | read begun moved => exact begun.elim
  | reaps => exact .inl rfl
  | collects was moved => exact .inr ⟨_, _, _, was, rfl, rfl, moved⟩
  | rests quiet => cases quiet

theorem Move.collects {s t : World} {a : Action} (moved : Move s a t) (sound : Sound s)
    (collected : Collected s) : Collected t := by
  intro i stale done reaping entry inDone task member runs
  have running := (Task.runningOn_iff.1 runs).1
  by_cases other : i ≠ a.session
  · rw [moved.session_other other] at reaping
    rcases moved.running_origin sound member running with before | claim
    · exact collected i stale done reaping entry inDone task before runs
    · -- The claim's worker row is locked by the claim and by the reaper.
      obtain ⟨j, worker, copy, now, rfl, was, -, rfl⟩ := claim
      have reaper := sound i
      rw [reaping] at reaper
      have mine := (reaper.1 entry.1 (List.mem_append_left _ (List.mem_map_of_mem inDone))).1
      have claimer := sound j
      rw [was] at claimer
      have owner : worker.workerId = entry.1.workerId :=
        Option.some.inj (Task.runningOn_iff.1 runs).2
      have its := claimer.claim_worker (Nat.le_refl 2)
      rw [owner] at its
      exact absurd (mine.unique its) other
  · obtain rfl : i = a.session := not_not.1 other
    rcases moved.reaping reaping with rfl | ⟨i, worker, earlier, was, -, rfl, rfl⟩
    · simp at inDone
    · rcases List.mem_append.1 inDone with before | latest
      · exact collected i _ earlier was entry before task member runs
      · obtain rfl := List.mem_singleton.1 latest
        exact List.mem_filter.2 ⟨member, runs⟩

/-! ## The rows after a reaper -/

/-- The UPDATEs of a reaper leave the workers it did not collect alone. -/
theorem get_worker_reap_other {db : Database} {done : List (WorkerRegistry × List Task)}
    {workerId : String} (other : ∀ entry ∈ done, entry.1.workerId ≠ workerId) :
    ((done.flatMap reapStatements).foldl Statement.apply db).workerRegistry.get workerId =
      db.workerRegistry.get workerId := by
  refine Statement.get_worker_foldl fun statement member key => ?_
  obtain ⟨entry, inDone, issued⟩ := List.mem_flatMap.1 member
  rcases List.mem_append.1 issued with requeued | buried
  · obtain ⟨task, -, rfl⟩ := List.mem_map.1 requeued
    cases key
  · obtain rfl := List.mem_singleton.1 buried
    exact other entry inDone (Option.some.inj key)

theorem flush_bury (worker : WorkerRegistry) :
    WorkerRegistry.flush worker worker.bury worker = worker.bury := by
  simp only [WorkerRegistry.flush, flushed_loaded]
  rfl

/-- The UPDATEs of one stale worker bury it. -/
theorem get_worker_reap_one {db : Database} {entry : WorkerRegistry × List Task}
    (here : db.workerRegistry.get entry.1.workerId = some entry.1) :
    ((reapStatements entry).foldl Statement.apply db).workerRegistry.get entry.1.workerId =
      some entry.1.bury := by
  rw [reapStatements, List.foldl_append]
  refine (Table.get_update _ _ _ _ (WorkerRegistry.workerId_flush entry.1 entry.1.bury)).trans ?_
  rw [if_pos rfl, Statement.get_worker_foldl, here, Option.map_some,
    flush_bury]
  intro statement member key
  obtain ⟨task, -, rfl⟩ := List.mem_map.1 member
  cases key

/-- The UPDATEs of a reaper bury the workers it collected. -/
theorem get_worker_reap {done : List (WorkerRegistry × List Task)} {db : Database}
    (distinct : (done.map fun entry => entry.1.workerId).Nodup)
    (here : ∀ entry ∈ done, db.workerRegistry.get entry.1.workerId = some entry.1)
    {entry : WorkerRegistry × List Task} (inDone : entry ∈ done) :
    ((done.flatMap reapStatements).foldl Statement.apply db).workerRegistry.get
      entry.1.workerId = some entry.1.bury := by
  induction done generalizing db with
  | nil => simp at inDone
  | cons head rest ih =>
      rw [List.map_cons, List.nodup_cons] at distinct
      have apart : ∀ other ∈ rest, other.1.workerId ≠ head.1.workerId := fun other member same =>
        distinct.1 (same ▸ List.mem_map_of_mem member)
      rw [List.flatMap_cons, List.foldl_append]
      rcases List.mem_cons.1 inDone with rfl | inRest
      · rw [get_worker_reap_other apart]
        exact get_worker_reap_one (here entry (by simp))
      · refine ih distinct.2 (fun other member => ?_) inRest
        have single : (([head].flatMap reapStatements).foldl Statement.apply db).workerRegistry.get
            other.1.workerId = db.workerRegistry.get other.1.workerId := by
          refine get_worker_reap_other fun entry only => ?_
          obtain rfl := List.mem_singleton.1 only
          exact (apart other member).symm
        rw [List.flatMap_singleton] at single
        rw [single]
        exact here other (List.mem_cons_of_mem _ member)

section Reaped

variable {s : World} {i : Nat} {stale : List WorkerRegistry}
  {done : List (WorkerRegistry × List Task)}

theorem Upheld.get_buried (upheld : Upheld s i (.reaping stale done))
    {entry : WorkerRegistry × List Task} (inDone : entry ∈ done) :
    (s.reapRows done).workerRegistry.get entry.1.workerId = some entry.1.bury := by
  obtain ⟨workers, distinct, -⟩ := upheld
  rw [List.map_append] at distinct
  have owners := (List.nodup_append.1 distinct).1
  rw [List.map_map] at owners
  refine get_worker_reap owners (fun other member => ?_) inDone
  exact (workers other.1 (List.mem_append_left _ (List.mem_map_of_mem member))).2

/-- No task is RUNNING on a worker that a reaper buried. -/
theorem Upheld.buried_idle (upheld : Upheld s i (.reaping stale done))
    (collected : ∀ entry ∈ done, ∀ task ∈ s.db.task.rows,
      task.runningOn entry.1.workerId = true → task ∈ entry.2)
    {entry : WorkerRegistry × List Task} (inDone : entry ∈ done) {task : Task}
    (member : task ∈ (s.reapRows done).task.rows) :
    task.runningOn entry.1.workerId = false := by
  by_contra runs
  rw [Bool.not_eq_false] at runs
  have tasks := upheld.2.2
  have recorded : Recorded s.db (s.reapRows done) _ := recorded_reap (distinct_of_upheld upheld)
    fun entry member task inEntry => ((tasks entry member).2 task inEntry).1.2
  have found := Table.get_of_mem member
  rw [recorded.final] at found
  by_cases none_ : changes task.taskUuid
      (done.flatMap fun entry => entry.2.map (requeueEvent entry.1.workerId)) = []
  · rw [none_] at found
    have inEntry := collected entry inDone task (Table.mem_of_get found) runs
    have event : requeueEvent entry.1.workerId task ∈ changes task.taskUuid
        (done.flatMap fun entry => entry.2.map (requeueEvent entry.1.workerId)) :=
      mem_changes.2 ⟨List.mem_flatMap.2 ⟨entry, inDone, List.mem_map_of_mem inEntry⟩, rfl⟩
    rw [none_] at event
    cases event
  · obtain ⟨e, inChanges, same⟩ := final_mem Event.result (s.db.task.get task.taskUuid) none_
    rw [same] at found
    obtain ⟨other, -, inOther⟩ := List.mem_flatMap.1 (mem_changes.1 inChanges).1
    obtain ⟨requeued, -, rfl⟩ := List.mem_map.1 inOther
    have after : requeued.requeue = task := Option.some.inj found
    rw [← after, Task.requeue_not_runningOn] at runs
    cases runs

end Reaped

/-! ## What a step does to one worker row -/

/-- The step is not the commit of a claim by the worker. -/
def Unclaimed (s : World) (workerId : String) (a : Action) : Prop :=
  ∀ i worker task now, a = .commit i → s.session i = .writing (.claim worker task now) 2 →
    worker.workerId ≠ workerId

/-- **What a step can do to the row of a worker.** -/
inductive WorkerChange (s : World) (workerId : String) : Action → World → Prop
  | same {a : Action} {t : World} (unclaimed : Unclaimed s workerId a)
      (row : t.db.workerRegistry.get workerId = s.db.workerRegistry.get workerId) :
      WorkerChange s workerId a t
  | claimed {i : Nat} {worker : WorkerRegistry} {task : Task} {now : DateTime}
      (was : s.session i = .writing (.claim worker task now) 2)
      (owner : worker.workerId = workerId)
      (row : (s.committed i (.claim worker task now)).db.workerRegistry.get workerId =
        (s.db.workerRegistry.get workerId).map
          (WorkerRegistry.flush worker (worker.setInFlight (worker.inFlight + 1)))) :
      WorkerChange s workerId (.commit i) (s.committed i (.claim worker task now))
  | released {i : Nat} {call : Call} (was : s.session i = .writing call call.statements.length)
      (takes : call.deed.takes = none) (releases : call.deed.releases = some workerId)
      (row : (s.committed i call).db.workerRegistry.get workerId =
        (s.db.workerRegistry.get workerId).map WorkerRegistry.decrementInFlight) :
      WorkerChange s workerId (.commit i) (s.committed i call)
  | tended {i : Nat} {loaded modified : WorkerRegistry} (tends : Tends loaded modified)
      (row : (s.tended i loaded modified).db.workerRegistry.get workerId =
        (s.db.workerRegistry.get workerId).map (WorkerRegistry.flush loaded modified)) :
      WorkerChange s workerId (.commit i) (s.tended i loaded modified)
  | buried {i : Nat} {done : List (WorkerRegistry × List Task)} {worker : WorkerRegistry}
      (before : s.db.workerRegistry.get workerId = some worker)
      (after : (s.reaped i done).db.workerRegistry.get workerId = some worker.bury)
      (idle : ∀ task ∈ (s.reaped i done).db.task.rows, task.runningOn workerId = false) :
      WorkerChange s workerId (.commit i) (s.reaped i done)

theorem unclaimed_of_not_commit {s : World} {workerId : String} {a : Action}
    (other : ∀ i, a ≠ .commit i) : Unclaimed s workerId a :=
  fun i _ _ _ act => absurd act (other i)

theorem unclaimed_of_session {s : World} {workerId : String} {i : Nat}
    (other : ∀ worker task now, s.session i = .writing (.claim worker task now) 2 →
      worker.workerId ≠ workerId) : Unclaimed s workerId (.commit i) := by
  intro j worker task now act was
  cases act
  exact other worker task now was

/-- The commit of a call other than a claim. -/
theorem workerChange_release {s : World} {i : Nat} {call : Call}
    (was : s.session i = .writing call call.statements.length) (takes : call.deed.takes = none)
    (workerId : String) : WorkerChange s workerId (.commit i) (s.committed i call) := by
  have lookup := get_worker_callRows s call takes workerId
  by_cases releases : call.deed.releases = some workerId
  · rw [if_pos releases] at lookup
    exact .released was takes releases lookup
  · rw [if_neg releases] at lookup
    refine .same (unclaimed_of_session fun worker task now same => ?_) lookup
    rw [was] at same
    obtain ⟨rfl, -⟩ := Session.writing.inj same
    cases takes

theorem Move.workerChange {s t : World} {a : Action} (moved : Move s a t) (sound : Sound s)
    (collected : Collected s) (workerId : String) : WorkerChange s workerId a t := by
  cases moved with
  | commit was =>
      rename_i i call
      cases call with
      | claim worker task now =>
          have lookup := Table.get_update s.db.workerRegistry worker.workerId workerId
            (WorkerRegistry.flush worker (worker.setInFlight (worker.inFlight + 1)))
            (WorkerRegistry.workerId_flush worker (worker.setInFlight (worker.inFlight + 1)))
          by_cases owner : worker.workerId = workerId
          · rw [if_pos owner.symm] at lookup
            exact .claimed was owner lookup
          · rw [if_neg (Ne.symm owner)] at lookup
            refine .same (unclaimed_of_session fun other task' now' same => ?_) lookup
            rw [was] at same
            cases same
            exact owner
      | finish owner task outcome now => exact workerChange_release was rfl workerId
      | cancel task now => exact workerChange_release was rfl workerId
      | retry task => exact workerChange_release was rfl workerId
  | reaped was =>
      rename_i i done
      have upheld := sound i
      rw [was] at upheld
      by_cases inDone : ∃ entry ∈ done, entry.1.workerId = workerId
      · obtain ⟨entry, member, rfl⟩ := inDone
        have held := (upheld.1 entry.1 (List.mem_append_left _ (List.mem_map_of_mem member))).2
        refine .buried held (upheld.get_buried member) fun task inRows => ?_
        exact upheld.buried_idle (collected i [] done was) member inRows
      · refine .same (unclaimed_of_session fun other task now same => ?_) ?_
        · rw [was] at same
          cases same
        · exact get_worker_reap_other fun entry member same => inDone ⟨entry, member, same⟩
  | tended was =>
      rename_i i loaded modified
      have upheld := sound i
      rw [was] at upheld
      have lookup := Table.get_update s.db.workerRegistry loaded.workerId workerId
        (WorkerRegistry.flush loaded modified) (WorkerRegistry.workerId_flush loaded modified)
      by_cases here : workerId = loaded.workerId
      · rw [if_pos here] at lookup
        exact .tended upheld.1 lookup
      · rw [if_neg here] at lookup
        refine .same (unclaimed_of_session fun other task now same => ?_) lookup
        rw [was] at same
        cases same
  | update was next isOpen =>
      rename_i i call issued statement
      refine .same (unclaimed_of_not_commit (by simp)) ?_
      cases statement <;> rfl
  | read reads begun =>
      refine .same (unclaimed_of_not_commit ?_) rfl
      rintro i rfl
      cases reads
  | lockTask | reap | reapWorker | tend | close =>
      exact .same (unclaimed_of_not_commit (by simp)) rfl

/-- Only a claim by the worker makes more tasks RUNNING on it. -/
theorem Move.count_le {s t : World} {a : Action} (moved : Move s a t) (sound : Sound s)
    {workerId : String} (unclaimed : Unclaimed s workerId a) :
    t.db.task.count (Task.runningOn workerId) ≤ s.db.task.count (Task.runningOn workerId) := by
  refine Table.count_le_of_subset fun task member runs => ?_
  obtain ⟨running, named⟩ := Task.runningOn_iff.1 runs
  rcases moved.running_origin sound member running with before | claim
  · exact before
  · obtain ⟨i, worker, copy, now, act, was, -, rfl⟩ := claim
    exact absurd (Option.some.inj named) (unclaimed i worker copy now act was)

end Lcp.Sessions
