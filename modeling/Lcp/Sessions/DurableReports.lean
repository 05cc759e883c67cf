/-
# Sessions.DurableReports -- what a watch pass reports and what it committed

All emissions of a pass share one transaction, and a report counts them as they are
flushed.  A flush that loses its key rolls the whole transaction back: the tasks and
flips of the pass are gone, the counters are not.

* `Durable` -- the reported keys belong to committed tasks.
* `Accounted` -- the step that returns a report commits its tasks, all of them and no
  others, together with the flips of their indexes.
* `Kept` -- no step discards what a pass that goes on has flushed.

The three hold in the runs in which a flush that collides is the first of its pass
(`reports_durable`); for `Kept` that is exact at each collision (`keptBy_lost`).
-/
import Lcp.Invariants.OneTrigger
import Lcp.Sessions.Watchers

namespace Lcp.Watchers

open Theory Emission IndexWatcherService OneTrigger
open Planners (identity)

set_option autoImplicit false

/-! ## What reports promise -/

/-- The key belongs to a committed task. -/
def World.Committed (s : World) (key : String) : Prop :=
  ∃ task ∈ s.tasks.committed, task.idempotencyKey = some key

instance (s : World) : DecidablePred s.Committed := fun key =>
  inferInstanceAs (Decidable (∃ task ∈ s.tasks.committed, task.idempotencyKey = some key))

/-- Every key of every returned report belongs to a committed task. -/
def Durable (s : World) : Prop :=
  ∀ report ∈ s.returned, ∀ key ∈ report.emittedKeys, s.Committed key

instance : DecidablePred Durable := fun s =>
  inferInstanceAs (Decidable (∀ report ∈ s.returned, ∀ key ∈ report.emittedKeys, s.Committed key))

/-- The index of a watcher task is OPTIMIZING. -/
def World.Optimizing (s : World) (task : Task) : Prop :=
  ∃ index ∈ s.db.vectorIndex.rows, triggeredFor index.id task = true ∧ index.status = .optimizing

instance (s : World) : DecidablePred s.Optimizing := fun task =>
  inferInstanceAs (Decidable (∃ index ∈ s.db.vectorIndex.rows,
    triggeredFor index.id task = true ∧ index.status = .optimizing))

/-- The step commits, for each key of the report, a task and the OPTIMIZING of its index, and
as many tasks as the report counts. -/
def AccountsFor (s t : World) (report : WatchPassReport) : Prop :=
  (∀ key ∈ report.emittedKeys, ∃ task ∈ t.tasks.committed,
      task.idempotencyKey = some key ∧ task ∉ s.tasks.committed ∧ t.Optimizing task) ∧
    t.tasks.committed.length = s.tasks.committed.length + report.enqueuedTasks

instance (s t : World) : DecidablePred (AccountsFor s t) := fun _ =>
  inferInstanceAs (Decidable (_ ∧ _))

/-- A step that returns a report accounts for it. -/
def Accounted (s t : World) : Prop :=
  ∀ report ∈ t.returned.drop s.returned.length, AccountsFor s t report

instance (s t : World) : Decidable (Accounted s t) :=
  inferInstanceAs (Decidable (∀ report ∈ t.returned.drop s.returned.length,
    AccountsFor s t report))

/-- A pass of session `i` that goes on still has the tasks it has flushed. -/
def KeptBy (i : Nat) (s t : World) : Prop :=
  match s.session i, t.session i with
  | .watching _, .watching _ =>
      (s.tasks.uncommitted i).map Task.taskUuid <+: (t.tasks.uncommitted i).map Task.taskUuid
  | _, _ => True

instance (i : Nat) (s t : World) : Decidable (KeptBy i s t) := by
  unfold KeptBy
  split <;> infer_instance

/-- No step discards what a pass that goes on has flushed. -/
def Kept (s t : World) : Prop := ∀ i, KeptBy i s t

/-- The flush raises an `IntegrityError`. -/
def collides (s : World) (p : Watcher) (f : Fired) (taskUuid : String) : Bool :=
  (s.db.vectorIndex.get f.candidate.index.id).isSome &&
    (TaskService.insertTask (p.row f taskUuid) s.db).isNone

/-- A flush that collides finds its session without an uncommitted task. -/
def undisturbed (s : World) : Action → Bool
  | .advance i input =>
      match s.session i with
      | .idle => true
      | .watching p =>
          match p.agenda with
          | .insert f :: _ =>
              !collides s p f input.taskUuid || (s.tasks.uncommitted i).isEmpty
          | _ => true
  | _ => true

/-! ## What a step does -/

/-- The tasks of other sessions, the committed ones and the locked index rows stay. -/
structure Frame (i : Nat) (s t : World) : Prop where
  own : ∀ j, j ≠ i →
    (t.tasks.uncommitted j).map identity = (s.tasks.uncommitted j).map identity
  committed : s.tasks.committed.map identity ⊆ t.tasks.committed.map identity
  locked : ∀ j, j ≠ i → ∀ id, s.locks.Held j id → t.locks.Held j id ∧
    ((s.db.vectorIndex.get id).isSome = true → (t.db.vectorIndex.get id).isSome = true)

theorem get_writeFlips (p : Watcher) (indexes : Table Index Index.id) (id : Nat) :
    (p.writeFlips indexes).get id =
      if id ∈ p.flipped then (indexes.get id).map (startOptimize p.now) else indexes.get id := by
  unfold Watcher.writeFlips
  induction p.flipped generalizing indexes with
  | nil => simp
  | cons first rest ih =>
      rw [List.foldl_cons, ih, Table.get_update]
      by_cases here : id = first
      · have twice : startOptimize p.now ∘ startOptimize p.now = startOptimize p.now := rfl
        simp [here, Option.map_map, twice]
      · simp [here]

namespace Frame

variable {i j : Nat} {s t : World}

theorem goOn (s : World) (i : Nat) (p : Watcher) : Frame i s (s.goOn i p) :=
  ⟨fun _ _ => rfl, List.Subset.refl _, fun _ _ _ held => ⟨held, id⟩⟩

/-- The frame reads the rows and the locks alone. -/
theorem congr {u : World} (frame : Frame i s t) (db : u.db = t.db) (owner : u.owner = t.owner)
    (locks : u.locks = t.locks) : Frame i s u := by
  have tasks : u.tasks = t.tasks := by rw [World.tasks, World.tasks, db, owner]
  refine ⟨fun j other => ?_, ?_, fun j other id held => ?_⟩
  · rw [tasks]
    exact frame.own j other
  · rw [tasks]
    exact frame.committed
  · rw [locks, db]
    exact frame.locked j other id held

theorem rollback (s : World) (i : Nat) : Frame i s (s.rollback i) := by
  refine ⟨fun j other => ?_, ?_, fun j other id held => ⟨RowLocks.release_other other held, ?_⟩⟩
  · show ((s.tasks.rollback i).uncommitted j).map identity = _
    rw [OwnedRows.uncommitted_rollback, if_neg (Ne.symm other)]
  · show _ ⊆ (s.tasks.rollback i).committed.map identity
    rw [OwnedRows.committed_rollback]
    exact List.Subset.refl _
  · exact fun there => there

theorem commit (s : World) (i : Nat) (p : Watcher) : Frame i s (s.commit i p) := by
  refine ⟨fun j other => ?_, ?_, fun j other id held => ⟨RowLocks.release_other other held, ?_⟩⟩
  · show ((s.tasks.commit i).uncommitted j).map identity = _
    rw [OwnedRows.uncommitted_commit, if_neg (Ne.symm other)]
  · refine List.map_subset _ fun task member => ?_
    exact (OwnedRows.mem_committed_commit s.tasks i).2 (.inl member)
  · intro there
    show ((p.writeFlips s.db.vectorIndex).get id).isSome = true
    rw [get_writeFlips]
    split
    · rw [Option.isSome_map]
      exact there
    · exact there

theorem finish (s : World) (i : Nat) (p : Watcher) : Frame i s (s.finish i p) := by
  unfold World.finish
  split
  · exact (Frame.commit s i p).congr rfl rfl rfl
  · exact (Frame.rollback s i).congr rfl rfl rfl

theorem insert {row : Task} {indexId : Nat} {after : Database}
    (isOpen : s.locks.openTo i indexId = true)
    (inserted : TaskService.insertTask row s.db = some after) :
    Frame i s (s.wrote i indexId row.taskUuid after) := by
  obtain ⟨table, added, rfl, -⟩ := TaskService.insertTask_eq_some inserted
  refine ⟨fun j other => ?_, ?_, fun j other id held => ⟨?_, fun there => there⟩⟩
  · show ((s.tasks.wrote i row table).uncommitted j).map identity = _
    rw [OwnedRows.uncommitted_wrote added, if_neg (Ne.symm other), List.append_nil]
  · show _ ⊆ (s.tasks.wrote i row table).committed.map identity
    rw [OwnedRows.committed_wrote added]
    exact List.Subset.refl _
  · refine RowLocks.acquire_other other (fun id listed => ?_) held
    rw [List.mem_singleton.1 listed]
    exact isOpen

/-- A committed task stays committed. -/
theorem durable (frame : Frame i s t) {key : String} (there : s.Committed key) :
    t.Committed key := by
  obtain ⟨task, member, keyed⟩ := there
  obtain ⟨later, stays, same⟩ :=
    List.mem_map.1 (frame.committed (List.mem_map_of_mem member))
  exact ⟨later, stays, (congrArg Prod.snd same).trans keyed⟩

/-- Another session keeps the tasks it has flushed. -/
theorem column {α : Type} (frame : Frame i s t) (other : j ≠ i) (f : String × Option String → α) :
    (t.tasks.uncommitted j).map (f ∘ identity) = (s.tasks.uncommitted j).map (f ∘ identity) := by
  rw [← List.map_map, ← List.map_map, frame.own j other]

theorem kept (frame : Frame i s t) (other : j ≠ i) (session : t.session j = s.session j) :
    KeptBy j s t := by
  have uuids := frame.column other Prod.fst
  unfold KeptBy
  rw [session]
  cases s.session j with
  | idle => trivial
  | watching p => exact uuids ▸ List.prefix_refl _

end Frame

/-! ## The kinds of steps -/

/-- A job that does not follow a signal. -/
def Job.isCandidate : Job → Bool
  | .candidate _ => true
  | _ => false

/-- A pass that has scanned nothing has emitted nothing and looks nothing up. -/
def Watcher.Scanned (p : Watcher) : Prop :=
  p.report.scannedIndexes = 0 →
    p.report.emittedKeys = [] ∧ ∀ job ∈ p.agenda, job.isCandidate = true

/-- With a signal at hand, something was scanned. -/
theorem Watcher.Scanned.fired {p : Watcher} {job : Job} {rest : List Job} (scanned : p.Scanned)
    (agenda : p.agenda = job :: rest) (signal : job.isCandidate = false) :
    p.report.scannedIndexes ≠ 0 := by
  intro none_
  have head := (scanned none_).2 job (agenda ▸ List.mem_cons_self)
  rw [signal] at head
  cases head

inductive Effect (s : World) (a : Action) : World → Prop where
  | began (i : Nat) (p : Watcher) (idle : s.session i = .idle) (empty : p.report = {})
      (unflipped : p.flipped = []) (scanned : p.Scanned) : Effect s a (s.goOn i p)
  /-- A job that writes no row. -/
  | planned (i : Nat) (p q : Watcher) (here : s.session i = .watching p)
      (emitted : q.report.emittedKeys = p.report.emittedKeys)
      (enqueued : q.report.enqueuedTasks = p.report.enqueuedTasks)
      (flipped : q.flipped = p.flipped) (scanned : p.Scanned → q.Scanned) :
      Effect s a (s.goOn i q)
  | inserted (i : Nat) (p : Watcher) (f : Fired) (rest : List Job) (taskUuid : String)
      (after : Database) (here : s.session i = .watching p)
      (agenda : p.agenda = .insert f :: rest)
      (found : (s.db.vectorIndex.get f.candidate.index.id).isSome = true)
      (isOpen : s.locks.openTo i f.candidate.index.id = true)
      (inserted : TaskService.insertTask (p.row f taskUuid) s.db = some after) :
      Effect s a ((s.wrote i f.candidate.index.id taskUuid after).goOn i (p.emit f rest))
  | lost (i : Nat) (p : Watcher) (f : Fired) (rest : List Job) (input : Input)
      (here : s.session i = .watching p) (agenda : p.agenda = .insert f :: rest)
      (label : a = .advance i input) (collided : collides s p f input.taskUuid = true) :
      Effect s a ((s.rollback i).goOn i (p.rolledBack rest))
  | aborted (i : Nat) : Effect s a (s.abort i)
  | finished (i : Nat) (p : Watcher) (here : s.session i = .watching p) :
      Effect s a (s.finish i p)
  /-- Another producer, or the rest of the control plane. -/
  | outside (t : World) (session : t.session = s.session) (returned : t.returned = s.returned)
      (frame : ∀ i, Frame i s t) (grounded : s.tasks.Grounded → t.tasks.Grounded) : Effect s a t

theorem watch_report (p : Watcher) (candidate : Candidate) (rest : List Job)
    (stats : Except PyException (Option IndexLiveStats)) :
    let q := p.watch candidate rest stats
    q.report.emittedKeys = p.report.emittedKeys ∧
      q.report.enqueuedTasks = p.report.enqueuedTasks ∧ q.flipped = p.flipped ∧
      q.report.scannedIndexes = p.report.scannedIndexes + 1 := by
  unfold Watcher.watch
  cases stats with
  | error e => exact ⟨rfl, rfl, rfl, rfl⟩
  | ok found =>
      cases found with
      | none => exact ⟨rfl, rfl, rfl, rfl⟩
      | some live =>
          simp only
          split <;> exact ⟨rfl, rfl, rfl, rfl⟩

theorem effect_of_flush {s t : World} {i : Nat} {p : Watcher} {f : Fired} {rest : List Job}
    {input : Input} (here : s.session i = .watching p) (agenda : p.agenda = .insert f :: rest)
    (done : flush s i p rest f input.taskUuid = some t) : Effect s (.advance i input) t := by
  unfold flush at done
  split at done
  · cases done
  · rename_i free
    have isOpen : s.locks.openTo i f.candidate.index.id = true := by
      simp only [World.blocked, Bool.or_eq_true, Bool.not_eq_true', not_or,
        Bool.not_eq_false] at free
      exact free.1
    split at done
    · obtain rfl := Option.some.inj done
      exact .aborted i
    · rename_i index found
      split at done
      · rename_i after inserted
        obtain rfl := Option.some.inj done
        exact .inserted i p f rest input.taskUuid after here agenda (by simp [found]) isOpen
          inserted
      · rename_i refused
        obtain rfl := Option.some.inj done
        exact .lost i p f rest input here agenda rfl (by simp [collides, found, refused])

theorem effect_of_perform {s t : World} {i : Nat} {p : Watcher} {job : Job} {rest : List Job}
    {input : Input} (here : s.session i = .watching p) (agenda : p.agenda = job :: rest)
    (done : perform s i p rest input job = some t) : Effect s (.advance i input) t := by
  cases job with
  | candidate candidate =>
      obtain rfl := Option.some.inj done
      obtain ⟨emitted, enqueued, flipped, counted⟩ :=
        watch_report p candidate rest input.stats
      refine .planned i p _ here emitted enqueued flipped fun _ none_ => ?_
      rw [counted] at none_
      omega
  | lookup f =>
      simp only [perform] at done
      split at done
      · obtain rfl := Option.some.inj done
        refine .planned i p _ here rfl rfl rfl fun scanned none_ => ?_
        exact absurd none_ (scanned.fired agenda rfl)
      · obtain rfl := Option.some.inj done
        refine .planned i p _ here rfl rfl rfl fun scanned none_ => ?_
        exact absurd none_ (scanned.fired agenda rfl)
  | insert f => exact effect_of_flush here agenda done

/-- A committed row of another producer. -/
theorem effect_submitted {s : World} {a : Action} {task : Task} {after : Database}
    (grounded : s.tasks.Grounded) (inserted : TaskService.insertTask task s.db = some after) :
    Effect s a { s with db := after } := by
  obtain ⟨table, added, rfl, -⟩ := TaskService.insertTask_eq_some inserted
  refine .outside _ rfl rfl (fun i => ⟨fun j _ => ?_, ?_, fun _ _ _ held => ⟨held, id⟩⟩)
    fun _ => OwnedRows.grounded_insert grounded added
  · exact congrArg _ (OwnedRows.uncommitted_insert grounded added j)
  · refine List.map_subset _ fun row member => ?_
    obtain ⟨inRows, free⟩ := OwnedRows.mem_committed.1 member
    exact OwnedRows.mem_committed.2 ⟨(Table.mem_insert? added).2 (.inl inRows), free⟩

theorem effect_elsewhere {s : World} {a : Action} {others : Database} (leaves : Leaves s others) :
    Effect s a { s with db := others } := by
  have keyed : ∀ task : Task, (identity task).1 = task.taskUuid := fun _ => rfl
  refine .outside _ rfl rfl (fun i => ⟨fun j _ => ?_, ?_, fun j _ id held => ⟨held, ?_⟩⟩)
    fun grounded j k held => ?_
  · exact OwnedRows.map_filter_identity keyed leaves.1 fun k => s.owner k = some j
  · have same := OwnedRows.map_filter_identity keyed leaves.1 fun k => (s.owner k).isNone
    exact fun row member => same.symm ▸ member
  · intro there
    obtain ⟨index, found⟩ := Option.isSome_iff_exists.1 there
    have locked : s.locks index.id ≠ none := by
      rw [Table.key_of_get found, show s.locks id = some j from held]
      simp
    have kept := leaves.2 index (Table.mem_of_get found) locked
    rw [Table.key_of_get found] at kept
    show (others.vectorIndex.get id).isSome = true
    rw [kept]
    rfl
  · have same : others.task.keys = s.db.task.keys := by
      have firsts := congrArg (List.map Prod.fst) leaves.1
      rwa [List.map_map, List.map_map] at firsts
    exact same ▸ grounded j k held

/-- Every step is of one of the kinds. -/
theorem effect_of_step {s t : World} {a : Action} (grounded : s.tasks.Grounded)
    (taken : step s a = some t) : Effect s a t := by
  cases a with
  | scan i now =>
      simp only [step] at taken
      split at taken
      · rename_i idle
        obtain rfl := Option.some.inj taken
        refine .began i _ idle rfl rfl fun _ => ⟨rfl, fun job member => ?_⟩
        obtain ⟨candidate, -, rfl⟩ := List.mem_map.1 member
        rfl
      · cases taken
  | advance i input =>
      simp only [step] at taken
      split at taken
      · cases taken
      · rename_i p here
        split at taken
        · obtain rfl := Option.some.inj taken
          exact .finished i p here
        · rename_i job rest agenda
          split at taken
          · obtain rfl := Option.some.inj taken
            exact .aborted i
          · exact effect_of_perform here agenda taken
  | close i =>
      obtain rfl := Option.some.inj taken
      exact .aborted i
  | submitted task =>
      obtain ⟨after, inserted, rfl⟩ := Option.map_eq_some_iff.1 taken
      exact effect_submitted grounded inserted
  | elsewhere others =>
      simp only [step] at taken
      split at taken
      · rename_i leaves
        obtain rfl := Option.some.inj taken
        exact effect_elsewhere leaves
      · cases taken

/-! ## The invariant -/

/-- A pass that goes on has the tasks it has counted, and the rows of their indexes locked. -/
structure Backed (s : World) (i : Nat) (p : Watcher) : Prop where
  keys : (s.tasks.uncommitted i).map Task.idempotencyKey = p.report.emittedKeys.map some
  count : p.report.enqueuedTasks = p.report.emittedKeys.length
  flips : ∀ key ∈ p.report.emittedKeys, ∃ id ∈ p.flipped, ∃ version reason,
    key = triggerKey id version reason
  locked : ∀ id ∈ p.flipped,
    s.locks.Held i id ∧ (s.db.vectorIndex.get id).isSome = true
  scanned : p.Scanned

def Session.Holds (s : World) (i : Nat) : Session → Prop
  | .idle => s.tasks.uncommitted i = []
  | .watching p => Backed s i p

structure Inv (s : World) : Prop where
  session : ∀ i, (s.session i).Holds s i
  grounded : s.tasks.Grounded
  durable : Durable s

theorem inv_atRest (db : Database) : Inv (atRest db) where
  session i := List.filter_eq_nil_iff.2 fun task _ held =>
    RowLocks.not_held_none_ i task.taskUuid (of_decide_eq_true held)
  grounded i taskUuid held := absurd held (RowLocks.not_held_none_ i taskUuid)
  durable _ member := absurd member List.not_mem_nil

theorem Frame.holds {i j : Nat} {s t : World} (frame : Frame i s t) (other : j ≠ i)
    {session : Session} (holds : session.Holds s j) : session.Holds t j := by
  have keys := frame.column other Prod.snd
  cases session with
  | idle =>
      have none_ : s.tasks.uncommitted j = [] := holds
      rw [none_] at keys
      exact List.map_eq_nil_iff.1 keys
  | watching p =>
      refine ⟨keys.trans holds.keys, holds.count, holds.flips, fun id listed => ?_,
        holds.scanned⟩
      obtain ⟨held, there⟩ := holds.locked id listed
      obtain ⟨still, kept⟩ := frame.locked j other id held
      exact ⟨still, kept there⟩

/-- What is left to show of a step of session `i` is about session `i`. -/
theorem Inv.step_of_frame {i : Nat} {s t : World} (inv : Inv s) (frame : Frame i s t)
    {session : Session} (moved : t.session = Function.update s.session i session)
    (own : session.Holds t i) (grounded : t.tasks.Grounded) (durable : Durable t) : Inv t := by
  refine ⟨fun j => ?_, grounded, durable⟩
  rw [moved]
  by_cases here : j = i
  · rw [here, Function.update_self]
    exact own
  · rw [Function.update_of_ne here]
    exact frame.holds here (inv.session j)

theorem Inv.backed {s : World} {i : Nat} {p : Watcher} (inv : Inv s)
    (here : s.session i = .watching p) : Backed s i p := by
  have holds := inv.session i
  rwa [here] at holds

theorem Frame.durable_of {i : Nat} {s t : World} (frame : Frame i s t) (durable : Durable s)
    (returned : t.returned = s.returned) : Durable t := by
  intro report member key listed
  exact frame.durable (durable report (returned ▸ member) key listed)

/-- A step that writes no row. -/
theorem Inv.goOn {s : World} {i : Nat} {p : Watcher} (inv : Inv s) (backed : Backed s i p) :
    Inv (s.goOn i p) := by
  have frame := Frame.goOn s i p
  have own : (Session.watching p).Holds (s.goOn i p) i :=
    ⟨backed.keys, backed.count, backed.flips, backed.locked, backed.scanned⟩
  exact inv.step_of_frame frame rfl own inv.grounded (frame.durable_of inv.durable rfl)

theorem Inv.inserted {s : World} {i : Nat} {p : Watcher} {f : Fired} {rest : List Job}
    {taskUuid : String} {after : Database} (inv : Inv s) (here : s.session i = .watching p)
    (agenda : p.agenda = .insert f :: rest)
    (found : (s.db.vectorIndex.get f.candidate.index.id).isSome = true)
    (isOpen : s.locks.openTo i f.candidate.index.id = true)
    (inserted : TaskService.insertTask (p.row f taskUuid) s.db = some after) :
    Inv ((s.wrote i f.candidate.index.id taskUuid after).goOn i (p.emit f rest)) := by
  have backed := inv.backed here
  have frame : Frame i s ((s.wrote i f.candidate.index.id taskUuid after).goOn i
      (p.emit f rest)) := (Frame.insert isOpen inserted).congr rfl rfl rfl
  obtain ⟨table, added, rfl, -⟩ := TaskService.insertTask_eq_some inserted
  have uncommitted : (s.tasks.wrote i (p.row f taskUuid) table).uncommitted i =
      s.tasks.uncommitted i ++ [p.row f taskUuid] := by
    rw [OwnedRows.uncommitted_wrote added, if_pos rfl]
  refine inv.step_of_frame frame rfl ⟨?_, ?_, fun key listed => ?_, fun id listed => ?_, ?_⟩
    (OwnedRows.grounded_wrote inv.grounded added) (frame.durable_of inv.durable rfl)
  · show ((s.tasks.wrote i (p.row f taskUuid) table).uncommitted i).map Task.idempotencyKey =
      (p.report.emittedKeys ++ [f.key]).map some
    rw [uncommitted, List.map_append, List.map_append, backed.keys]
    rfl
  · show p.report.enqueuedTasks + 1 = (p.report.emittedKeys ++ [f.key]).length
    rw [List.length_append, backed.count]
    rfl
  · rcases List.mem_append.1 listed with old | new
    · obtain ⟨id, flipped, version, reason, same⟩ := backed.flips key old
      exact ⟨id, List.mem_append_left _ flipped, version, reason, same⟩
    · obtain rfl := List.mem_singleton.1 new
      exact ⟨_, List.mem_append_right _ (List.mem_singleton_self _), _, _, rfl⟩
  · rcases List.mem_append.1 listed with old | new
    · obtain ⟨held, there⟩ := backed.locked id old
      exact ⟨held.acquire _, there⟩
    · obtain rfl := List.mem_singleton.1 new
      exact ⟨RowLocks.held_acquire (List.mem_singleton_self _), found⟩
  · exact fun none_ => absurd none_ (backed.scanned.fired agenda rfl)

/-- A session without uncommitted tasks has nothing to lose. -/
theorem Inv.lost {s : World} {i : Nat} {p : Watcher} {f : Fired} {rest : List Job} (inv : Inv s)
    (here : s.session i = .watching p) (agenda : p.agenda = .insert f :: rest)
    (nothing : s.tasks.uncommitted i = []) :
    Inv ((s.rollback i).goOn i (p.rolledBack rest)) := by
  have backed := inv.backed here
  have frame : Frame i s ((s.rollback i).goOn i (p.rolledBack rest)) :=
    (Frame.rollback s i).congr rfl rfl rfl
  have unemitted : p.report.emittedKeys = [] := by
    have keys := backed.keys
    rw [nothing] at keys
    exact List.map_eq_nil_iff.1 keys.symm
  refine inv.step_of_frame frame rfl ⟨?_, backed.count, fun key listed => ?_,
    fun id listed => absurd listed List.not_mem_nil, ?_⟩
    (OwnedRows.grounded_rollback inv.grounded) (frame.durable_of inv.durable rfl)
  · show ((s.tasks.rollback i).uncommitted i).map Task.idempotencyKey =
      p.report.emittedKeys.map some
    rw [OwnedRows.uncommitted_rollback, if_pos rfl, unemitted]
    rfl
  · have old : key ∈ p.report.emittedKeys := listed
    rw [unemitted] at old
    cases old
  · exact fun none_ => absurd none_ (backed.scanned.fired agenda rfl)

theorem Inv.aborted {s : World} (inv : Inv s) (i : Nat) : Inv (s.abort i) := by
  have frame : Frame i s (s.abort i) := (Frame.rollback s i).congr rfl rfl rfl
  have none_ : Session.idle.Holds (s.abort i) i := by
    show (s.tasks.rollback i).uncommitted i = []
    rw [OwnedRows.uncommitted_rollback, if_pos rfl]
  exact inv.step_of_frame frame rfl none_ (OwnedRows.grounded_rollback inv.grounded)
    (frame.durable_of inv.durable rfl)

/-! ## The end of a pass -/

theorem session_finish (s : World) (i : Nat) (p : Watcher) :
    (s.finish i p).session = Function.update s.session i .idle := by
  unfold World.finish
  split <;> rfl

/-- The flip that the commit writes for a task. -/
theorem Backed.optimizing {s : World} {i : Nat} {p : Watcher} (backed : Backed s i p)
    {task : Task} {key : String} (listed : key ∈ p.report.emittedKeys)
    (keyed : task.idempotencyKey = some key) : (s.commit i p).Optimizing task := by
  obtain ⟨id, flipped, version, reason, rfl⟩ := backed.flips key listed
  obtain ⟨index, found⟩ := Option.isSome_iff_exists.1 (backed.locked id flipped).2
  have written : (p.writeFlips s.db.vectorIndex).get id = some (startOptimize p.now index) := by
    rw [get_writeFlips, if_pos flipped, found]
    rfl
  refine ⟨_, Table.mem_of_get written, ?_, rfl⟩
  rw [triggeredFor_triggerKey keyed, Table.key_of_get written]
  exact decide_eq_true rfl

/-- The end of a pass accounts for its report. -/
theorem Backed.accounts {s : World} {i : Nat} {p : Watcher} (backed : Backed s i p) :
    AccountsFor s (s.finish i p) p.report := by
  have lengths := congrArg List.length backed.keys
  rw [List.length_map, List.length_map] at lengths
  unfold World.finish
  split
  · refine ⟨fun key listed => ?_, ?_⟩
    · have inKeys : some key ∈ (s.tasks.uncommitted i).map Task.idempotencyKey := by
        rw [backed.keys]
        exact List.mem_map_of_mem listed
      obtain ⟨task, member, keyed⟩ := List.mem_map.1 inKeys
      refine ⟨task, (OwnedRows.mem_committed_commit s.tasks i).2 (.inr member), keyed, ?_,
        backed.optimizing listed keyed⟩
      intro before
      have unowned := (OwnedRows.mem_committed.1 before).2
      rw [(OwnedRows.mem_uncommitted.1 member).2] at unowned
      cases unowned
    · rw [backed.count, ← lengths]
      exact OwnedRows.length_committed_commit s.tasks i
  · rename_i nothing
    have unscanned : p.report.scannedIndexes = 0 := by simpa using nothing
    have unemitted := (backed.scanned unscanned).1
    refine ⟨fun key listed => ?_, ?_⟩
    · rw [unemitted] at listed
      cases listed
    · rw [backed.count, unemitted]
      exact congrArg List.length (OwnedRows.committed_rollback s.tasks i)

theorem Inv.finished {s : World} {i : Nat} {p : Watcher} (inv : Inv s)
    (here : s.session i = .watching p) : Inv (s.finish i p) := by
  have frame := Frame.finish s i p
  have accounts := (inv.backed here).accounts
  have ended : (s.finish i p).tasks.uncommitted i = [] ∧ (s.finish i p).tasks.Grounded := by
    unfold World.finish
    split
    · refine ⟨?_, OwnedRows.grounded_commit inv.grounded⟩
      exact (OwnedRows.uncommitted_commit s.tasks i i).trans (if_pos rfl)
    · refine ⟨?_, OwnedRows.grounded_rollback inv.grounded⟩
      exact (OwnedRows.uncommitted_rollback s.tasks i i).trans (if_pos rfl)
  have returned : (s.finish i p).returned = s.returned ++ [p.report] := rfl
  refine inv.step_of_frame frame (session_finish s i p) ended.1 ended.2 ?_
  intro report member key listed
  rw [returned] at member
  rcases List.mem_append.1 member with old | new
  · exact frame.durable (inv.durable report old key listed)
  · obtain rfl := List.mem_singleton.1 new
    obtain ⟨task, committed, keyed, -⟩ := accounts.1 key listed
    exact ⟨task, committed, keyed⟩

/-! ## Runs -/

/-- What the guard says of a flush that collides. -/
theorem undisturbed_insert {s : World} {i : Nat} {p : Watcher} {f : Fired} {rest : List Job}
    {input : Input} (guard : undisturbed s (.advance i input) = true)
    (here : s.session i = .watching p) (agenda : p.agenda = .insert f :: rest)
    (collided : collides s p f input.taskUuid = true) : s.tasks.uncommitted i = [] := by
  simp only [undisturbed, here, agenda, collided, Bool.not_true, Bool.false_or,
    List.isEmpty_iff] at guard
  exact guard

theorem inv_step {s t : World} {a : Action} (inv : Inv s) (guard : undisturbed s a = true)
    (effect : Effect s a t) : Inv t := by
  cases effect with
  | began i p idle empty unflipped scanned =>
      have none_ := inv.session i
      rw [idle] at none_
      have unwritten : s.tasks.uncommitted i = [] := none_
      refine inv.goOn ⟨?_, ?_, ?_, ?_, scanned⟩
      · rw [unwritten, empty]
        rfl
      · rw [empty]
        rfl
      · intro key listed
        rw [empty] at listed
        cases listed
      · intro id listed
        rw [unflipped] at listed
        cases listed
  | planned i p q here emitted enqueued flipped scanned =>
      have backed := inv.backed here
      refine inv.goOn ⟨?_, ?_, ?_, ?_, scanned backed.scanned⟩
      · rw [emitted]
        exact backed.keys
      · rw [emitted, enqueued]
        exact backed.count
      · rw [emitted, flipped]
        exact backed.flips
      · rw [flipped]
        exact backed.locked
  | inserted i p f rest taskUuid after here agenda found isOpen inserted =>
      exact inv.inserted here agenda found isOpen inserted
  | lost i p f rest input here agenda label collided =>
      subst label
      exact inv.lost here agenda (undisturbed_insert guard here agenda collided)
  | aborted i => exact inv.aborted i
  | finished i p here => exact inv.finished here
  | outside t session returned frame grounded =>
      refine ⟨fun j => ?_, grounded inv.grounded, (frame 0).durable_of inv.durable returned⟩
      rw [session]
      exact (frame (j + 1)).holds (by omega) (inv.session j)

/-- A step that returns nothing has nothing to account for. -/
theorem accounted_of_returned {s t : World} (same : t.returned = s.returned) :
    Accounted s t := by
  intro report member
  rw [same, List.drop_length] at member
  cases member

theorem accounted_step {s t : World} {a : Action} (inv : Inv s) (effect : Effect s a t) :
    Accounted s t := by
  cases effect with
  | began i p idle empty unflipped scanned => exact accounted_of_returned rfl
  | planned i p q here emitted enqueued flipped scanned => exact accounted_of_returned rfl
  | inserted i p f rest taskUuid after here agenda found isOpen inserted =>
      exact accounted_of_returned rfl
  | lost i p f rest input here agenda label collided => exact accounted_of_returned rfl
  | aborted i => exact accounted_of_returned rfl
  | finished i p here =>
      intro report member
      have returned : (s.finish i p).returned = s.returned ++ [p.report] := rfl
      rw [returned, List.drop_left] at member
      obtain rfl := List.mem_singleton.1 member
      exact (inv.backed here).accounts
  | outside t session returned frame grounded => exact accounted_of_returned returned

/-- A step that moves session `i` keeps what the others flushed. -/
theorem kept_of_frame {i : Nat} {s t : World} (frame : Frame i s t) {session : Session}
    (moved : t.session = Function.update s.session i session) (own : KeptBy i s t) : Kept s t := by
  intro j
  by_cases here : j = i
  · exact here ▸ own
  · refine frame.kept here ?_
    rw [moved, Function.update_of_ne here]

theorem keptBy_watching {i : Nat} {s t : World} {p q : Watcher}
    (before : s.session i = .watching p) (after : t.session i = .watching q) :
    KeptBy i s t ↔ (s.tasks.uncommitted i).map Task.taskUuid <+:
      (t.tasks.uncommitted i).map Task.taskUuid := by
  simp only [KeptBy, before, after]

theorem keptBy_idle {i : Nat} {s t : World} (ended : t.session i = .idle) : KeptBy i s t := by
  unfold KeptBy
  rw [ended]
  split <;> trivial

/-- The rollback of a flush that collides keeps what the pass has flushed exactly when that is
nothing. -/
theorem keptBy_lost {s : World} {i : Nat} {p : Watcher} (here : s.session i = .watching p)
    (rest : List Job) :
    KeptBy i s ((s.rollback i).goOn i (p.rolledBack rest)) ↔ s.tasks.uncommitted i = [] := by
  have gone : ((s.rollback i).goOn i (p.rolledBack rest)).tasks.uncommitted i = [] :=
    (OwnedRows.uncommitted_rollback s.tasks i i).trans (if_pos rfl)
  rw [keptBy_watching (q := p.rolledBack rest) here (Function.update_self ..), gone,
    List.map_nil, List.prefix_nil, List.map_eq_nil_iff]

theorem kept_step {s t : World} {a : Action} (guard : undisturbed s a = true)
    (effect : Effect s a t) : Kept s t := by
  cases effect with
  | began i p idle empty unflipped scanned =>
      refine kept_of_frame (Frame.goOn s i p) rfl ?_
      unfold KeptBy
      rw [idle]
      trivial
  | planned i p q here emitted enqueued flipped scanned =>
      refine kept_of_frame (Frame.goOn s i q) rfl ?_
      exact (keptBy_watching here (Function.update_self ..)).2 (List.prefix_refl _)
  | inserted i p f rest taskUuid after here agenda found isOpen inserted =>
      have frame : Frame i s ((s.wrote i f.candidate.index.id taskUuid after).goOn i
          (p.emit f rest)) := (Frame.insert isOpen inserted).congr rfl rfl rfl
      refine kept_of_frame frame rfl ?_
      refine (keptBy_watching (q := p.emit f rest) here (Function.update_self ..)).2 ?_
      obtain ⟨table, added, rfl, -⟩ := TaskService.insertTask_eq_some inserted
      show _ <+: ((s.tasks.wrote i (p.row f taskUuid) table).uncommitted i).map Task.taskUuid
      rw [OwnedRows.uncommitted_wrote added, List.map_append]
      exact List.prefix_append _ _
  | lost i p f rest input here agenda label collided =>
      subst label
      have frame : Frame i s ((s.rollback i).goOn i (p.rolledBack rest)) :=
        (Frame.rollback s i).congr rfl rfl rfl
      refine kept_of_frame frame rfl ((keptBy_lost here rest).2 ?_)
      exact undisturbed_insert guard here agenda collided
  | aborted i =>
      have frame : Frame i s (s.abort i) := (Frame.rollback s i).congr rfl rfl rfl
      exact kept_of_frame frame rfl (keptBy_idle (Function.update_self ..))
  | finished i p here =>
      have moved := session_finish s i p
      refine kept_of_frame (Frame.finish s i p) moved (keptBy_idle ?_)
      rw [moved, Function.update_self]
  | outside t session returned frame grounded =>
      intro j
      exact (frame (j + 1)).kept (by omega) (by rw [session])

/-- **Reports are durable** in every run in which a flush that collides finds its session
without an uncommitted task: reported keys belong to committed tasks; the step that returns a
report commits exactly its tasks, with their indexes OPTIMIZING; and no step discards what a
pass has flushed. -/
theorem reports_durable {db : Database} {actions : List Action}
    (guarded : watchers.Guarded (fun s a => undisturbed s a = true) (atRest db) actions) :
    watchers.Always Durable (atRest db) actions ∧
      watchers.Along (fun s _ t => Accounted s t) (atRest db) actions ∧
      watchers.Along (fun s _ t => Kept s t) (atRest db) actions := by
  have all : watchers.Along (fun s _ t => Durable t ∧ Accounted s t ∧ Kept s t) (atRest db)
      actions := by
    refine Machine.along_of_inv (fun s a t inv guard stepped => ?_) (inv_atRest db) guarded
    have effect := effect_of_step inv.grounded stepped
    have after := inv_step inv guard effect
    exact ⟨after, after.durable, accounted_step inv effect, kept_step guard effect⟩
  exact ⟨⟨(inv_atRest db).durable, all.mono fun _ _ _ => And.left⟩,
    all.mono fun _ _ _ both => both.2.1, all.mono fun _ _ _ both => both.2.2⟩

section Examples

/-- A dataset with two indexes that one policy watches; the first one is built or being built. -/
def watchedIndexes (first : IndexStatus) : Database where
  dataset :=
    .single
      { datasetUuid := "d1", catalog := "lake", dbSchema := "acme", tableName := "events",
        storageUri := "s3://acme/events", tenantId := "acme" }
  vectorIndex :=
    ⟨[{ id := 1, datasetUuid := "d1", indexName := "body", columnName := "body",
        indexType := "IVF_PQ", status := first },
      { id := 2, datasetUuid := "d1", indexName := "title", columnName := "title",
        indexType := "IVF_PQ", status := .ready }], by simp⟩
  lifecyclePolicy :=
    .single { id := 1, datasetUuid := "d1", policyName := "fleet", indexWatchEnabled := true }

/-- So many jobs of session `i`, on an index with 5000 unindexed rows at version 9. -/
def jobs (i : Nat) (count : Nat) (taskUuid : String) : List Action :=
  List.replicate count (.advance i
    { stats := .ok (some { latestVersion := 9, numUnindexedRows := some 5000 }), taskUuid })

/-- Session 1 scans, the first index becomes READY, session 0 scans and flushes its task; both
look the key of the second index up, session 1 inserts it and commits, session 0 loses it. -/
def lateLoss : List Action :=
  [.scan 1 0, .elsewhere (watchedIndexes .ready), .scan 0 0] ++ jobs 0 3 "u1" ++ jobs 0 2 "u3" ++
    jobs 1 4 "u2" ++ jobs 0 2 "u3"

/-- The lost key takes the first task and its flip with it; the report counts them. -/
theorem report_lost :
    ¬ watchers.Always Durable (atRest (watchedIndexes .building)) lateLoss ∧
      ¬ watchers.Along (fun s _ t => Accounted s t) (atRest (watchedIndexes .building))
        lateLoss ∧
      ¬ watchers.Along (fun s _ t => Kept s t) (atRest (watchedIndexes .building)) lateLoss := by
  refine ⟨Machine.not_always_of_ends (by decide +kernel), by decide +kernel, fun along => ?_⟩
  have keptBy := along.mono (R := fun s _ t => KeptBy 0 s t) fun s a t kept => kept 0
  exact absurd keptBy (by decide +kernel)

/-- A pass that emits one task, and one that loses the same key with its first flush. -/
theorem reports_durable_in_turn :
    let actions : List Action :=
      [.scan 1 0, .scan 0 0] ++ jobs 0 2 "u1" ++ jobs 1 4 "u2" ++ jobs 0 2 "u1"
    watchers.Always Durable (atRest (watchedIndexes .building)) actions ∧
      watchers.Along (fun s _ t => Accounted s t) (atRest (watchedIndexes .building)) actions ∧
      watchers.Along (fun s _ t => Kept s t) (atRest (watchedIndexes .building)) actions :=
  reports_durable (by decide +kernel)

end Examples

end Lcp.Watchers
