/-
# Sessions.OptimizeStages -- how far the flip of an index has come

While the row is READY whenever it is flipped (`Current`), one session at most is under way
with it.  `Stage` says which one and how far: a call claims the row, moves it, inserts its
task and commits that; a pass flushes both at once.

* `TasksAt`, `RowsAt` -- the tasks that name the index and the row itself at a stage.
* `Stage.Admits`, `Stage.Allows` -- where the calls and the passes can be.
* `Realizes` -- a world at a stage.
-/
import Lcp.Sessions.DurableReports
import Lcp.Sessions.Optimizers

namespace Lcp.Optimizers

open Theory IndexService

set_option autoImplicit false

/-! ## The condition -/

/-- The row is committed as READY. -/
def World.isReady (s : World) (index : Index) : Prop :=
  (s.base.db.vectorIndex.get index.id).map Index.status = some .ready

instance (s : World) (index : Index) : Decidable (s.isReady index) :=
  inferInstanceAs (Decidable (_ = _))

/-- An emission of a pass flips a row that is READY and that it has not flipped before. -/
def EmitsCurrent (index : Index) (s : World) (p : Watchers.Watcher) : Watchers.Job → Prop
  | .insert f =>
      f.candidate.index.id = index.id ∧ Emission.taken f.key s.base.db = false →
        s.isReady index ∧ index.id ∉ p.flipped
  | .candidate _ | .lookup _ => True

instance (index : Index) (s : World) (p : Watchers.Watcher) :
    DecidablePred (EmitsCurrent index s p)
  | .insert _ => inferInstanceAs (Decidable (_ → _))
  | .candidate _ | .lookup _ => inferInstanceAs (Decidable True)

/-- A submission finds its key free. -/
def KeyFree (s : World) (i : Nat) : Submitters.Session → Prop
  | .lookup c => ∀ key ∈ c.key, (s.submissions.selectKey i c key).isEmpty = true
  | .insert c => ∀ key ∈ c.key, Emission.taken key s.base.db = false
  | .commit .. | .refresh .. | .reselect _ | .returned .. | .raised => True

instance (s : World) (i : Nat) : DecidablePred (KeyFree s i)
  | .lookup c => inferInstanceAs (Decidable (∀ key ∈ c.key, _))
  | .insert c => inferInstanceAs (Decidable (∀ key ∈ c.key, _))
  | .commit .. | .refresh .. | .reselect _ | .returned .. | .raised =>
      inferInstanceAs (Decidable True)

/-- The index is READY when its row is flipped, and the key of a submission is free. -/
def Current (index : Index) (s : World) : Action → Prop
  | .flip _ _ => s.isReady index
  | .submit a =>
      match s.calls[a.session]? with
      | none => True
      | some call => KeyFree s a.session call.session
  | .watch (.advance i _) =>
      match s.base.session i with
      | .idle => True
      | .watching p => p.expired = false → ∀ job ∈ p.agenda.head?, EmitsCurrent index s p job
  | _ => True

instance (index : Index) (s : World) : DecidablePred (Current index s)
  | .flip _ _ => inferInstanceAs (Decidable (s.isReady index))
  | .submit a =>
      match is : s.calls[a.session]? with
      | none => isTrue (by simp [Current, is])
      | some call => decidable_of_iff (KeyFree s a.session call.session) (by simp [Current, is])
  | .watch (.advance i _) =>
      match is : s.base.session i with
      | .idle => isTrue (by simp [Current, is])
      | .watching p =>
          decidable_of_iff (p.expired = false → ∀ job ∈ p.agenda.head?, EmitsCurrent index s p job)
            (by simp [Current, is])
  | .read _ | .commit _ | .refresh _ | .giveUp .. | .elsewhere _ | .watch (.scan ..)
  | .watch (.close _) | .watch (.submitted _) | .watch (.elsewhere _) => isTrue trivial

/-- The calls are for the READY index, by callers that see its dataset. -/
structure Asks (db : Database) (index : Index) (request : Request) : Prop where
  dataset : request.datasetUuid = index.datasetUuid
  indexName : request.indexName = index.indexName
  seen : ∃ dataset,
    DatasetService.getDataset (some request.caller) index.datasetUuid db = .ok dataset

structure Begins (db : Database) (index : Index) (requests : List Request) : Prop where
  listed : index ∈ db.vectorIndex.rows
  ready : index.status = .ready
  /-- The UNIQUE key `(dataset_uuid, index_name)`. -/
  alone : ∀ row ∈ db.vectorIndex.rows,
    row.named index.datasetUuid index.indexName = true → row = index
  asks : ∀ request ∈ requests, Asks db index request

/-! ## The life of the flip -/

inductive Stage where
  | free
  /-- A call has issued its UPDATE. -/
  | claimed (i : Nat)
  /-- A pass has flushed its UPDATE and its INSERT. -/
  | emitting (i : Nat) (task : Task)
  /-- A call has committed its UPDATE. -/
  | moved (i : Nat)
  /-- A call has flushed its INSERT. -/
  | inserted (i : Nat) (task : Task)
  | settled (i : Nat) (task : Task)

namespace Stage

/-- The session whose flip it is. -/
def session : Stage → Option Nat
  | .free => none
  | .claimed i | .emitting i _ | .moved i | .inserted i _ | .settled i _ => some i

/-- The session that has committed the flip. -/
def mover : Stage → Option Nat
  | .moved i | .inserted i _ | .settled i _ => some i
  | .free | .claimed _ | .emitting .. => none

/-- The task of the flip. -/
def tasks : Stage → List Task
  | .emitting _ task | .inserted _ task | .settled _ task => [task]
  | .free | .claimed _ | .moved _ => []

/-- The session that has the task uncommitted. -/
def owner : Stage → Option Nat
  | .emitting i _ | .inserted i _ => some i
  | .free | .claimed _ | .moved _ | .settled .. => none

/-- The session that has the row locked. -/
def holder : Stage → Option Nat
  | .claimed i | .emitting i _ => some i
  | .free | .moved _ | .inserted .. | .settled .. => none

/-- The uncommitted flips of the index in pass `j`. -/
def flips (indexId j : Nat) : Stage → List Nat
  | .emitting i _ => if i = j then [indexId] else []
  | .free | .claimed _ | .moved _ | .inserted .. | .settled .. => []

/-- After a rollback of session `i`. -/
def rollback (i : Nat) : Stage → Stage
  | .emitting k task => if k = i then .free else .emitting k task
  | stage => stage

/-- After the commit of a pass on session `i`. -/
def commit (i : Nat) : Stage → Stage
  | .emitting k task => if k = i then .settled k task else .emitting k task
  | stage => stage

/-- The end of a pass matters to the stage of its own emission alone. -/
theorem rollback_cases (stage : Stage) (i : Nat) :
    (∃ task, stage = .emitting i task ∧ stage.rollback i = .free ∧
        stage.commit i = .settled i task) ∨
      (∀ task, stage ≠ .emitting i task) ∧ stage.rollback i = stage ∧ stage.commit i = stage := by
  cases stage with
  | emitting k task =>
      by_cases same : k = i
      · subst same
        exact .inl ⟨task, rfl, if_pos rfl, if_pos rfl⟩
      · exact .inr ⟨fun other is => same (Stage.emitting.inj is).1, if_neg same, if_neg same⟩
  | free | claimed | moved | inserted | settled =>
      exact .inr ⟨fun task is => Stage.noConfusion is, rfl, rfl⟩

end Stage

/-! ## Tasks at a stage -/

/-- The tasks that name the index: those from before the run, which are committed, and the new
ones, whose owner is known. -/
structure TasksAt (start : Database) (index : Index) (new : List Task) (holder : Option Nat)
    (db : Database) (owner : RowLocks String Nat) : Prop where
  rows : db.task.rows.filter (namedBy index) = start.task.rows.filter (namedBy index) ++ new
  old : ∀ task ∈ start.task.rows, namedBy index task = true → owner task.taskUuid = none
  new : ∀ task ∈ new, owner task.taskUuid = holder

namespace TasksAt

variable {start db after : Database} {index : Index} {new : List Task} {holder : Option Nat}
  {owner : RowLocks String Nat} {i : Nat} {row : Task}

theorem congr (tasks : TasksAt start index new holder db owner) (same : after.task = db.task) :
    TasksAt start index new holder after owner := by
  refine ⟨?_, tasks.old, tasks.new⟩
  rw [same]
  exact tasks.rows

/-- The tasks that name the index are rows of the table. -/
theorem mem_rows (tasks : TasksAt start index new holder db owner) {task : Task}
    (member : (task ∈ start.task.rows ∧ namedBy index task = true) ∨ task ∈ new) :
    task ∈ db.task.rows := by
  have listed : task ∈ db.task.rows.filter (namedBy index) := by
    rw [tasks.rows, List.mem_append, List.mem_filter]
    exact member
  exact (List.mem_filter.1 listed).1

/-- What an INSERT leaves of the owners. -/
theorem owner_of_inserted (inserted : TaskService.insertTask row db = some after) {task : Task}
    (member : task ∈ db.task.rows) :
    owner.acquire i [row.taskUuid] task.taskUuid = owner task.taskUuid := by
  obtain ⟨table, added, -, -⟩ := TaskService.insertTask_eq_some inserted
  exact if_neg (by simpa using (Table.insert?_eq_some added).2 task member)

/-- Another task. -/
theorem insert_other (tasks : TasksAt start index new holder db owner)
    (inserted : TaskService.insertTask row db = some after) (other : namedBy index row = false) :
    TasksAt start index new holder after (owner.acquire i [row.taskUuid]) := by
  obtain ⟨table, added, rfl, -⟩ := TaskService.insertTask_eq_some inserted
  refine ⟨?_, fun task member names => ?_, fun task member => ?_⟩
  · rw [(Table.insert?_eq_some added).1, List.filter_append, tasks.rows,
      List.filter_cons_of_neg (by simp [other]), List.filter_nil, List.append_nil]
  · rw [owner_of_inserted inserted (tasks.mem_rows (.inl ⟨member, names⟩))]
    exact tasks.old task member names
  · rw [owner_of_inserted inserted (tasks.mem_rows (.inr member))]
    exact tasks.new task member

/-- The task of the flip. -/
theorem insert_new (tasks : TasksAt start index [] holder db owner)
    (inserted : TaskService.insertTask row db = some after) (names : namedBy index row = true) :
    TasksAt start index [row] (some i) after (owner.acquire i [row.taskUuid]) := by
  obtain ⟨table, added, rfl, -⟩ := TaskService.insertTask_eq_some inserted
  refine ⟨?_, fun task member named => ?_, fun task member => ?_⟩
  · rw [(Table.insert?_eq_some added).1, List.filter_append, tasks.rows,
      List.filter_cons_of_pos names, List.filter_nil, List.append_nil]
  · rw [owner_of_inserted inserted (tasks.mem_rows (.inl ⟨member, named⟩))]
    exact tasks.old task member named
  · rw [List.mem_singleton.1 member]
    exact RowLocks.held_acquire List.mem_cons_self

/-- The commit of session `i`. -/
theorem release (tasks : TasksAt start index new holder db owner) (i : Nat) :
    TasksAt start index new (if holder = some i then none else holder) db (owner.release i) := by
  refine ⟨tasks.rows, fun task member names => ?_, fun task member => ?_⟩
  · rw [RowLocks.release, tasks.old task member names]
    rfl
  · rw [RowLocks.release, tasks.new task member]

/-- The rollback of session `i`. -/
theorem rollback (tasks : TasksAt start index new holder db owner) (i : Nat) :
    TasksAt start index (if holder = some i then [] else new) holder
      { db with task := db.task.delete fun task => owner task.taskUuid = some i }
      (owner.release i) := by
  have kept : ∀ task, (task ∈ start.task.rows ∧ namedBy index task = true) →
      (!decide (owner task.taskUuid = some i)) = true := by
    rintro task ⟨member, names⟩
    simp [tasks.old task member names]
  have olds : (start.task.rows.filter (namedBy index)).filter
      (fun task => !decide (owner task.taskUuid = some i)) =
        start.task.rows.filter (namedBy index) :=
    List.filter_eq_self.2 fun task member => kept task (List.mem_filter.1 member)
  have news : new.filter (fun task => !decide (owner task.taskUuid = some i)) =
      if holder = some i then [] else new := by
    split
    · rename_i mine
      exact List.filter_eq_nil_iff.2 fun task member => by simp [tasks.new task member, mine]
    · rename_i other
      exact List.filter_eq_self.2 fun task member => by simp [tasks.new task member, other]
  refine ⟨?_, fun task member names => ?_, fun task member => ?_⟩
  · show ((db.task.rows.filter fun task => !decide (owner task.taskUuid = some i)).filter
      (namedBy index)) = _
    rw [List.filter_comm, tasks.rows, List.filter_append, olds, news]
  · rw [RowLocks.release, tasks.old task member names]
    rfl
  · split at member
    · cases member
    · rename_i other
      rw [RowLocks.release, tasks.new task member, if_neg other]

/-- The committed ones. -/
theorem committed (tasks : TasksAt start index new holder db owner) :
    ((db.task.rows.filter fun task => (owner task.taskUuid).isNone).filter (namedBy index)) =
      start.task.rows.filter (namedBy index) ++ if holder = none then new else [] := by
  have olds : (start.task.rows.filter (namedBy index)).filter
      (fun task => (owner task.taskUuid).isNone) = start.task.rows.filter (namedBy index) := by
    refine List.filter_eq_self.2 fun task member => ?_
    obtain ⟨listed, names⟩ := List.mem_filter.1 member
    rw [tasks.old task listed names]
    rfl
  have news : new.filter (fun task => (owner task.taskUuid).isNone) =
      if holder = none then new else [] := by
    split
    · rename_i nobody
      exact List.filter_eq_self.2 fun task member => by rw [tasks.new task member, nobody]; rfl
    · rename_i somebody
      exact List.filter_eq_nil_iff.2 fun task member => by simpa [tasks.new task member]
  rw [List.filter_comm, tasks.rows, List.filter_append, olds, news]

end TasksAt

/-! ## Rows at a stage -/

/-- No other row has the name of the index, and its own row is as before the run or flipped. -/
structure RowsAt (index : Index) (moved : Bool) (db : Database) : Prop where
  named : ∀ row ∈ db.vectorIndex.rows,
    row.named index.datasetUuid index.indexName = decide (row.id = index.id)
  ready : moved = false → db.vectorIndex.get index.id = some index
  optimizing : moved = true →
    ∃ stamp, db.vectorIndex.get index.id = some (index.startOptimize stamp)

namespace RowsAt

variable {index : Index} {moved : Bool} {db after : Database}

theorem congr (rows : RowsAt index moved db) (same : after.vectorIndex = db.vectorIndex) :
    RowsAt index moved after := by
  obtain ⟨named, ready, optimizing⟩ := rows
  rw [← same] at named ready optimizing
  exact ⟨named, ready, optimizing⟩

/-- What the SELECT by name finds. -/
theorem maybeGetIndex_eq (rows : RowsAt index moved db) :
    maybeGetIndex index.datasetUuid index.indexName db = db.vectorIndex.get index.id := by
  cases first : maybeGetIndex index.datasetUuid index.indexName db with
  | none =>
      refine (Table.get_eq_none.2 fun row member same => ?_).symm
      have absent := List.find?_eq_none.1 first row member
      rw [rows.named row member, decide_eq_true_iff] at absent
      exact absent same
  | some row =>
      have member : row ∈ db.vectorIndex.rows := List.mem_of_find?_eq_some first
      have same := List.find?_some first
      rw [rows.named row member, decide_eq_true_iff] at same
      rw [← same]
      exact (Table.get_of_mem member).symm

theorem row (rows : RowsAt index moved db) : ∃ row, db.vectorIndex.get index.id = some row := by
  cases moved with
  | false => exact ⟨index, rows.ready rfl⟩
  | true =>
      obtain ⟨stamp, found⟩ := rows.optimizing rfl
      exact ⟨_, found⟩

/-- A row that is READY has not been flipped. -/
theorem unmoved (rows : RowsAt index moved db)
    (ready : (db.vectorIndex.get index.id).map Index.status = some .ready) : moved = false := by
  cases moved with
  | false => rfl
  | true =>
      obtain ⟨stamp, found⟩ := rows.optimizing rfl
      rw [found] at ready
      cases ready

/-- The committed UPDATE of a call. -/
theorem flush (rows : RowsAt index false db) (ready : index.status = .ready) (now : DateTime) :
    RowsAt index true (updateIndex index.id (Index.flush index (index.startOptimize now))
      (Index.id_flush index (index.startOptimize now)) db) := by
  refine ⟨fun row member => ?_, (fun unmoved => by cases unmoved), fun _ => ⟨now, ?_⟩⟩
  · rcases Table.of_mem_update member with ⟨old, inTable, -, rfl⟩ | ⟨inTable, -⟩
    · exact rows.named old inTable
    · exact rows.named row inTable
  · have written : Index.flush index (index.startOptimize now) index = index.startOptimize now := by
      simp only [Index.flush, Index.startOptimize, flushed, ready]
      by_cases same : some now = index.lastOptimizedAt
      · simp [same]
      · simp [same]
    show (db.vectorIndex.update index.id (Index.flush index (index.startOptimize now))
      (Index.id_flush index (index.startOptimize now))).get index.id = _
    rw [Table.get_update, if_pos rfl, rows.ready rfl, Option.map_some, written]

/-- The commit of a pass. -/
theorem writeFlips (rows : RowsAt index moved db) (p : Watchers.Watcher)
    (once : index.id ∈ p.flipped → moved = false) :
    RowsAt index (moved || decide (index.id ∈ p.flipped))
      { db with vectorIndex := p.writeFlips db.vectorIndex } := by
  have own : (p.writeFlips db.vectorIndex).get index.id =
      if index.id ∈ p.flipped then
        (db.vectorIndex.get index.id).map (IndexWatcherService.startOptimize p.now)
      else db.vectorIndex.get index.id := Watchers.get_writeFlips p db.vectorIndex index.id
  refine ⟨fun row member => ?_, fun unmoved => ?_, fun flipped => ?_⟩
  · have found := Table.get_of_mem member
    rw [Watchers.get_writeFlips] at found
    split at found
    · obtain ⟨old, got, rfl⟩ := Option.map_eq_some_iff.1 found
      exact rows.named old (Table.mem_of_get got)
    · exact rows.named row (Table.mem_of_get found)
  · simp only [Bool.or_eq_false_iff, decide_eq_false_iff_not] at unmoved
    show (p.writeFlips db.vectorIndex).get index.id = _
    rw [own, if_neg unmoved.2]
    exact rows.ready unmoved.1
  · show ∃ stamp, (p.writeFlips db.vectorIndex).get index.id = _
    rw [own]
    by_cases mine : index.id ∈ p.flipped
    · rw [if_pos mine, rows.ready (once mine)]
      exact ⟨p.now, rfl⟩
    · rw [if_neg mine]
      exact rows.optimizing (by simpa [mine] using flipped)

end RowsAt

/-! ## Sessions at a stage -/

/-- A submission for the index. -/
def Submits (index : Index) (c : Submitters.Call) : Prop :=
  c.args.taskType = .indexOptimize ∧ c.args.datasetUuid = index.datasetUuid ∧
    c.args.params = some [("index_name", .str index.indexName)] ∧ c.key.isSome = true

/-- The row that a submission inserts. -/
structure Submitted (index : Index) (c : Submitters.Call) (task : Task) : Prop where
  tenant : task.tenantId = c.principal.tenantId
  params : task.params = some [("index_name", .str index.indexName)]

/-- Where call `j` can be. -/
def Stage.Admits (start : Database) (index : Index) (j : Nat) (stage : Stage) : Call → Prop
  | .begun request => Asks start index request
  | .admitted request copy => Asks start index request ∧ copy = index
  | .flipped request copy _ => Asks start index request ∧ copy = index ∧ stage = .claimed j
  | .committed request copy => Asks start index request ∧ copy = index ∧ stage = .moved j
  | .submitting _ (.lookup c) | .submitting _ (.insert c) => Submits index c ∧ stage = .moved j
  | .submitting _ (.commit c task) => Submitted index c task ∧ stage = .inserted j task
  | .submitting _ (.refresh c task) => Submitted index c task ∧ stage = .settled j task
  | .submitting _ (.reselect _) | .submitting _ (.returned ..) | .submitting _ .raised => False
  | .reverting .. => False
  | .returned _ => ∃ task, task.params = some [("index_name", .str index.indexName)] ∧
      stage = .settled j task
  | .raised e => (∃ message, e = .transition message) ∧ stage.mover.isSome = true

/-- The index of a job. -/
def ofJob : Watchers.Job → IndexWatcherService.Candidate
  | .candidate candidate => candidate
  | .lookup f | .insert f => f.candidate

/-- A candidate that was read with its dataset; it has the name of the index only if it is the
index. -/
structure Fetched (index : Index) (candidate : IndexWatcherService.Candidate) : Prop where
  dataset : candidate.dataset.datasetUuid = candidate.index.datasetUuid
  named : candidate.index.named index.datasetUuid index.indexName =
    decide (candidate.index.id = index.id)

/-- Where pass `j` can be, beside so many calls. -/
structure Stage.Allows (index : Index) (calls j : Nat) (stage : Stage) (p : Watchers.Watcher) :
    Prop where
  apart : calls ≤ j
  flips : p.flipped.filter (· = index.id) = stage.flips index.id j
  agenda : ∀ job ∈ p.agenda, Fetched index (ofJob job)

/-- The call has issued its UPDATE. -/
def Call.acts : Call → Bool
  | .flipped .. | .committed .. | .submitting .. | .returned _ => true
  | .begun _ | .admitted .. | .reverting .. | .raised _ => false

/-- The session of the stage is there. -/
def Stage.Present (s : World) : Stage → Prop
  | .free => True
  | .claimed i | .moved i | .inserted i _ => ∃ call, s.calls[i]? = some call ∧ call.acts = true
  | .emitting i _ => ∃ p, s.base.session i = .watching p
  | .settled i _ => (∃ call, s.calls[i]? = some call ∧ call.acts = true) ∨ s.calls.length ≤ i

/-- The sessions that have committed a flip of the index. -/
def World.movers (s : World) (index : Index) : List Nat :=
  (s.moves.filter fun move => move.2 = index.id).map Prod.fst

/-- A world at a stage. -/
structure Realizes (start : Database) (index : Index) (stage : Stage) (s : World) : Prop where
  dataset : s.base.db.dataset = start.dataset
  rows : RowsAt index stage.mover.isSome s.base.db
  movers : s.movers index = stage.mover.toList
  locks : ∀ i ∈ stage.holder, s.base.locks.Held i index.id
  tasks : TasksAt start index stage.tasks stage.owner s.base.db s.base.owner
  calls : ∀ (j : Nat) (call : Call), s.calls[j]? = some call → stage.Admits start index j call
  passes : ∀ (j : Nat) (p : Watchers.Watcher), s.base.session j = .watching p →
    stage.Allows index s.calls.length j p
  present : stage.Present s

end Lcp.Optimizers
