/-
# Services.IndexService -- the `vector_index` rows of a dataset

Every operation passes the guard of the parent dataset first.  `create_index`
and `optimize_index` commit twice: the row first, then the task that a worker
will run for it.  When the submission raises, the row is moved once more and the
exception goes on, so their answer comes with the rows in either case.

The clock reading `now` is the one that the `DATETIME(3)` column keeps.
-/
import Mathlib.Data.List.Sort
import Lcp.Services.DatasetService
import Lcp.Services.TaskService

namespace Lcp

open Theory

set_option autoImplicit false

/-- The stored spelling of an index status. -/
def IndexStatus.toString : IndexStatus → String
  | .building => "BUILDING"
  | .ready => "READY"
  | .optimizing => "OPTIMIZING"
  | .merging => "MERGING"
  | .failed => "FAILED"
  | .dropped => "DROPPED"

inductive IndexError where
  | dataset (error : DatasetError)
  | notFound (message : String)
  | alreadyExists (message : String)
  | transition (message : String)
  | submission (error : TaskError)
deriving DecidableEq, Repr

namespace Index

/-- The rows the UNIQUE key `(dataset_uuid, index_name)` allows one of. -/
def named (datasetUuid indexName : String) (index : Index) : Bool :=
  index.datasetUuid = datasetUuid ∧ index.indexName = indexName

/-- `drop_index`'s assignment. -/
def drop (index : Index) : Index := { index with status := .dropped }

/-- `optimize_index`'s assignments. -/
def startOptimize (now : DateTime) (index : Index) : Index :=
  { index with status := .optimizing, lastOptimizedAt := some now }

/-- `merge_index`'s assignments. -/
def startMerge (now : DateTime) (index : Index) : Index :=
  { index with status := .merging, lastMergedAt := some now }

/-- The assignments of a failed submission. -/
def giveUp (status : IndexStatus) (cause : String) (index : Index) : Index :=
  { index with
    status
    errorMessage := some ("task submission failed: " ++ cause) }

theorem id_drop (index : Index) : index.drop.id = index.id := rfl

theorem id_startOptimize (now : DateTime) (index : Index) :
    (index.startOptimize now).id = index.id := rfl

theorem id_startMerge (now : DateTime) (index : Index) :
    (index.startMerge now).id = index.id := rfl

theorem id_giveUp (status : IndexStatus) (cause : String) (index : Index) :
    (index.giveUp status cause).id = index.id := rfl

end Index

namespace IndexService

/-- What a call draws from outside: its clock reading, the `uuid4` of its task, and
the text `str(exc)` of an exception of its submission. -/
structure Draws where
  now : DateTime
  taskUuid : String
  cause : TaskError → String := fun _ => ""

/-- The arguments of `create_index`. -/
structure Creation where
  datasetUuid : String
  indexName : String
  columnName : String
  indexType : String
  params : Option JsonDict := none
  replaceIfExists : Bool := false

/-- The row `create_index` inserts under the id that the column's AUTO_INCREMENT gives. -/
def Creation.row (args : Creation) (newId : Nat) : Index :=
  { id := newId
    datasetUuid := args.datasetUuid
    indexName := args.indexName
    columnName := args.columnName
    indexType := args.indexType
    params := args.params
    status := .building }

/-- The INDEX_BUILD task of a new row. -/
def Creation.submission (args : Creation) (newId : Nat) : TaskService.Submission :=
  { taskType := .indexBuild
    datasetUuid := args.datasetUuid
    params := some
      [ ("index_name", .str args.indexName),
        ("column_name", .str args.columnName),
        ("index_type", .str args.indexType),
        ("params", .dict (args.params.getD [])) ]
    idempotencyKey := some ("build:" ++ args.datasetUuid ++ "/" ++ args.indexName ++ ":" ++
      toString newId) }

/-- The INDEX_OPTIMIZE task of a row that `optimize_index` moved. -/
def optimizeSubmission (datasetUuid indexName : String) (id : Nat) (now : DateTime) :
    TaskService.Submission :=
  { taskType := .indexOptimize
    datasetUuid
    params := some [("index_name", .str indexName)]
    idempotencyKey := some ("optimize:" ++ datasetUuid ++ "/" ++ indexName ++ ":" ++
      toString id ++ ":" ++ DateTime.isoformat now) }

/-- An INDEX_OPTIMIZE task that names the index. -/
def namedBy (index : Index) (task : Task) : Bool :=
  task.taskType = .indexOptimize ∧ task.datasetUuid = index.datasetUuid ∧
    task.params.any fun params => Json.get? params "index_name" = some (.str index.indexName)

section Operations

variable (principal : Option TenantPrincipal)

/-- The index row or none; the dataset guard already ran. -/
def maybeGetIndex (datasetUuid indexName : String) (db : Database) : Option Index :=
  db.vectorIndex.rows.find? (Index.named datasetUuid indexName)

/-- Return one index row behind the guard of its dataset. -/
def getIndex (datasetUuid indexName : String) (db : Database) : Except IndexError Index :=
  match DatasetService.getDataset principal datasetUuid db with
  | .error e => .error (.dataset e)
  | .ok _ =>
      match maybeGetIndex datasetUuid indexName db with
      | none => .error (.notFound (datasetUuid ++ "/" ++ indexName))
      | some index => .ok index

/-- The dataset's indexes, the latest `created_at` first, and how many they are; the column is
given by the row id, as nothing else reads it. -/
def listIndexes (createdAt : Nat → DateTime) (datasetUuid : String) (db : Database) :
    Except IndexError (List Index × Nat) :=
  match DatasetService.getDataset principal datasetUuid db with
  | .error e => .error (.dataset e)
  | .ok _ =>
      let items := (db.vectorIndex.rows.filter fun index =>
        index.datasetUuid = datasetUuid).insertionSort fun a b => createdAt b.id ≤ createdAt a.id
      .ok (items, items.length)

/-- Assign to one index row. -/
def updateIndex (id : Nat) (assign : Index → Index) (keeps : ∀ index, (assign index).id = index.id)
    (db : Database) : Database :=
  { db with vectorIndex := db.vectorIndex.update id assign keeps }

/-- `replace_if_exists`: delete the row that holds the name. -/
def clearName (args : Creation) (db : Database) : Database :=
  if args.replaceIfExists then
    match maybeGetIndex args.datasetUuid args.indexName db with
    | none => db
    | some existing =>
        { db with vectorIndex := db.vectorIndex.delete fun index => index.id = existing.id }
  else db

/-- Insert under the primary key and the UNIQUE key `(dataset_uuid, index_name)`. -/
def insertIndex (index : Index) (db : Database) : Option Database :=
  if db.vectorIndex.rows.any (Index.named index.datasetUuid index.indexName) then none
  else (db.vectorIndex.insert? index).map fun table => { db with vectorIndex := table }

/-- Insert a BUILDING row and submit its INDEX_BUILD task. -/
def createIndex (draws : Draws) (newId : Nat) (args : Creation) (db : Database) :
    Except IndexError Index × Database :=
  match DatasetService.getDataset principal args.datasetUuid db with
  | .error e => (.error (.dataset e), db)
  | .ok _ =>
      match insertIndex (args.row newId) (clearName args db) with
      | none =>
          (.error (.alreadyExists ("index " ++ pyRepr args.indexName ++
            " already exists on dataset " ++ args.datasetUuid)), db)
      | some inserted =>
          match TaskService.submitTask principal draws.now draws.taskUuid
              (args.submission newId) inserted with
          | .ok (_, after) => (.ok (args.row newId), after)
          | .error e =>
              (.error (.submission e),
                updateIndex newId (Index.giveUp .failed (draws.cause e))
                  (Index.id_giveUp .failed (draws.cause e)) inserted)

/-- Flip the status to DROPPED; a row that is DROPPED stays so. -/
def dropIndex (datasetUuid indexName : String) (db : Database) : Except IndexError Database := do
  let index ← getIndex principal datasetUuid indexName db
  if index.status = .dropped then return db
  else return updateIndex index.id Index.drop Index.id_drop db

/-- Move a READY index to OPTIMIZING and submit its INDEX_OPTIMIZE task. -/
def optimizeIndex (draws : Draws) (datasetUuid indexName : String) (db : Database) :
    Except IndexError Index × Database :=
  match getIndex principal datasetUuid indexName db with
  | .error e => (.error e, db)
  | .ok index =>
      if index.status ≠ .ready then
        (.error (.transition ("index " ++ pyRepr indexName ++ " is in state " ++
          pyRepr index.status.toString ++ "; only ['READY'] states allow optimize")), db)
      else
        let flipped := updateIndex index.id (Index.startOptimize draws.now)
          (Index.id_startOptimize draws.now) db
        match TaskService.submitTask principal draws.now draws.taskUuid
            (optimizeSubmission datasetUuid indexName index.id draws.now) flipped with
        | .ok (_, after) => (.ok (index.startOptimize draws.now), after)
        | .error e =>
            (.error (.submission e),
              updateIndex index.id (Index.giveUp .ready (draws.cause e))
                (Index.id_giveUp .ready (draws.cause e)) flipped)

/-- Move a READY index to MERGING. -/
def mergeIndex (now : DateTime) (datasetUuid indexName : String) (db : Database) :
    Except IndexError Database := do
  let index ← getIndex principal datasetUuid indexName db
  if index.status ≠ .ready then
    .error (.transition ("index " ++ pyRepr indexName ++ " is in state " ++
      pyRepr index.status.toString ++ "; only ['READY'] states allow merge"))
  else return updateIndex index.id (Index.startMerge now) (Index.id_startMerge now) db

end Operations

/-! ## What each operation can do -/

variable {principal : Option TenantPrincipal}

theorem maybeGetIndex_eq_some {datasetUuid indexName : String} {db : Database} {index : Index}
    (found : maybeGetIndex datasetUuid indexName db = some index) :
    index ∈ db.vectorIndex.rows ∧ index.datasetUuid = datasetUuid ∧
      index.indexName = indexName := by
  refine ⟨List.mem_of_find?_eq_some found, ?_⟩
  simpa [Index.named] using List.find?_some found

theorem getIndex_eq_ok {datasetUuid indexName : String} {db : Database} {index : Index}
    (ran : getIndex principal datasetUuid indexName db = .ok index) :
    (∃ dataset, DatasetService.getDataset principal datasetUuid db = .ok dataset) ∧
      maybeGetIndex datasetUuid indexName db = some index := by
  unfold getIndex at ran
  split at ran
  · cases ran
  · rename_i dataset got
    split at ran
    · cases ran
    · rename_i found
      cases ran
      exact ⟨⟨dataset, got⟩, found⟩

theorem insertIndex_eq_some {index : Index} {db after : Database}
    (inserted : insertIndex index db = some after) :
    (∀ other ∈ db.vectorIndex.rows,
        Index.named index.datasetUuid index.indexName other = false) ∧
      ∃ table, db.vectorIndex.insert? index = some table ∧
        after = { db with vectorIndex := table } := by
  unfold insertIndex at inserted
  split at inserted
  · cases inserted
  · rename_i fresh
    simp only [Option.map_eq_some_iff] at inserted
    obtain ⟨table, added, rfl⟩ := inserted
    refine ⟨fun other member => ?_, table, added, rfl⟩
    simpa using fun held => fresh (List.any_eq_true.2 ⟨other, member, held⟩)

/-- What `create_index` can leave: the rows it found, the row and its task, or the row
of a failed submission. -/
inductive CreateEffect (principal : Option TenantPrincipal) (draws : Draws) (newId : Nat)
    (args : Creation) (db : Database) : Except IndexError Index → Database → Prop
  | nothing (e : IndexError) : CreateEffect principal draws newId args db (.error e) db
  | created {dataset : Dataset} {inserted after : Database} {answer : Task × Bool}
      (guard : DatasetService.getDataset principal args.datasetUuid db = .ok dataset)
      (row : insertIndex (args.row newId) (clearName args db) = some inserted)
      (submitted : TaskService.submitTask principal draws.now draws.taskUuid
        (args.submission newId) inserted = .ok (answer, after)) :
      CreateEffect principal draws newId args db (.ok (args.row newId)) after
  | failed {dataset : Dataset} {inserted : Database} {e : TaskError}
      (guard : DatasetService.getDataset principal args.datasetUuid db = .ok dataset)
      (row : insertIndex (args.row newId) (clearName args db) = some inserted)
      (submitted : TaskService.submitTask principal draws.now draws.taskUuid
        (args.submission newId) inserted = .error e) :
      CreateEffect principal draws newId args db (.error (.submission e))
        (updateIndex newId (Index.giveUp .failed (draws.cause e))
          (Index.id_giveUp .failed (draws.cause e)) inserted)

theorem createIndex_effect {draws : Draws} {newId : Nat} {args : Creation} {db after : Database}
    {answer : Except IndexError Index}
    (ran : createIndex principal draws newId args db = (answer, after)) :
    CreateEffect principal draws newId args db answer after := by
  unfold createIndex at ran
  split at ran
  · cases ran
    exact .nothing _
  · rename_i dataset guard
    split at ran
    · cases ran
      exact .nothing _
    · rename_i inserted row
      split at ran
      · rename_i submitted
        cases ran
        exact .created guard row submitted
      · rename_i submitted
        cases ran
        exact .failed guard row submitted

theorem dataset_clearName (args : Creation) (db : Database) :
    (clearName args db).dataset = db.dataset := by
  unfold clearName
  split
  · split <;> rfl
  · rfl

theorem task_clearName (args : Creation) (db : Database) :
    (clearName args db).task = db.task := by
  unfold clearName
  split
  · split <;> rfl
  · rfl

theorem insertIndex_task {index : Index} {db after : Database}
    (inserted : insertIndex index db = some after) : after.task = db.task := by
  obtain ⟨-, table, -, rfl⟩ := insertIndex_eq_some inserted
  rfl

theorem mem_of_clearName {args : Creation} {db : Database} {index : Index}
    (member : index ∈ (clearName args db).vectorIndex.rows) : index ∈ db.vectorIndex.rows := by
  unfold clearName at member
  split at member
  · split at member
    · exact member
    · exact (Table.mem_delete.1 member).1
  · exact member

/-- Where an index row comes from after `create_index`. -/
theorem createIndex_origin {draws : Draws} {newId : Nat} {args : Creation} {db after : Database}
    {answer : Except IndexError Index}
    (ran : createIndex principal draws newId args db = (answer, after)) {index : Index}
    (member : index ∈ after.vectorIndex.rows) :
    index ∈ db.vectorIndex.rows ∨ index = args.row newId ∨
      ∃ cause, index = (args.row newId).giveUp .failed cause := by
  have ofInserted : ∀ {inserted : Database},
      insertIndex (args.row newId) (clearName args db) = some inserted →
        ∀ index ∈ inserted.vectorIndex.rows,
          index ∈ db.vectorIndex.rows ∨ index = args.row newId := by
    intro inserted row index inTable
    obtain ⟨-, table, added, rfl⟩ := insertIndex_eq_some row
    rcases (Table.mem_insert? added).1 inTable with old | rfl
    · exact .inl (mem_of_clearName old)
    · exact .inr rfl
  cases createIndex_effect ran with
  | nothing e => exact .inl member
  | created guard row submitted =>
      rw [TaskService.submitTask_frame submitted] at member
      exact (ofInserted row index member).imp_right .inl
  | @failed dataset inserted e guard row submitted =>
      rcases Table.of_mem_update member with ⟨before, inTable, same, rfl⟩ | ⟨inTable, -⟩
      · obtain ⟨-, table, added, rows⟩ := insertIndex_eq_some row
        have newRow : args.row newId ∈ inserted.vectorIndex.rows := by
          rw [rows]
          exact (Table.mem_insert? added).2 (.inr rfl)
        obtain rfl : before = args.row newId := Table.eq_of_key_eq inTable newRow same
        exact .inr (.inr ⟨_, rfl⟩)
      · exact (ofInserted row index inTable).imp_right .inl

theorem createIndex_dataset {draws : Draws} {newId : Nat} {args : Creation} {db after : Database}
    {answer : Except IndexError Index}
    (ran : createIndex principal draws newId args db = (answer, after)) :
    after.dataset = db.dataset := by
  have ofInserted : ∀ {inserted : Database},
      insertIndex (args.row newId) (clearName args db) = some inserted →
        inserted.dataset = db.dataset := by
    intro inserted row
    obtain ⟨-, table, -, rfl⟩ := insertIndex_eq_some row
    exact dataset_clearName args db
  cases createIndex_effect ran with
  | nothing e => rfl
  | created guard row submitted =>
      have same := ofInserted row
      rw [TaskService.submitTask_frame submitted]
      exact same
  | failed guard row submitted =>
      have same := ofInserted row
      exact same

/-- What `optimize_index` can leave: the rows it found, the flipped row and its task, or
the row of a failed submission. -/
inductive OptimizeEffect (principal : Option TenantPrincipal) (draws : Draws)
    (datasetUuid indexName : String) (db : Database) : Except IndexError Index → Database → Prop
  | nothing (e : IndexError) : OptimizeEffect principal draws datasetUuid indexName db (.error e) db
  | started {index : Index} {after : Database} {answer : Task × Bool}
      (got : getIndex principal datasetUuid indexName db = .ok index)
      (ready : index.status = .ready)
      (submitted : TaskService.submitTask principal draws.now draws.taskUuid
        (optimizeSubmission datasetUuid indexName index.id draws.now)
        (updateIndex index.id (Index.startOptimize draws.now)
          (Index.id_startOptimize draws.now) db) = .ok (answer, after)) :
      OptimizeEffect principal draws datasetUuid indexName db
        (.ok (index.startOptimize draws.now)) after
  | failed {index : Index} {e : TaskError}
      (got : getIndex principal datasetUuid indexName db = .ok index)
      (ready : index.status = .ready) :
      OptimizeEffect principal draws datasetUuid indexName db (.error (.submission e))
        (updateIndex index.id (Index.giveUp .ready (draws.cause e))
          (Index.id_giveUp .ready (draws.cause e))
          (updateIndex index.id (Index.startOptimize draws.now)
            (Index.id_startOptimize draws.now) db))

theorem optimizeIndex_effect {draws : Draws} {datasetUuid indexName : String}
    {db after : Database} {answer : Except IndexError Index}
    (ran : optimizeIndex principal draws datasetUuid indexName db = (answer, after)) :
    OptimizeEffect principal draws datasetUuid indexName db answer after := by
  unfold optimizeIndex at ran
  split at ran
  · cases ran
    exact .nothing _
  · rename_i index got
    split at ran
    · cases ran
      exact .nothing _
    · rename_i ready
      simp only at ran
      split at ran
      · rename_i submitted
        cases ran
        exact .started got (not_not.1 ready) submitted
      · cases ran
        exact .failed got (not_not.1 ready)

theorem dropIndex_cases {datasetUuid indexName : String} {db after : Database}
    (ran : dropIndex principal datasetUuid indexName db = .ok after) :
    ∃ index, getIndex principal datasetUuid indexName db = .ok index ∧
      ((index.status = .dropped ∧ after = db) ∨
        after = updateIndex index.id Index.drop Index.id_drop db) := by
  unfold dropIndex at ran
  obtain ⟨index, got, ran⟩ := bind_eq_ok ran
  refine ⟨index, got, ?_⟩
  split at ran
  · rename_i dropped
    cases ran
    exact .inl ⟨dropped, rfl⟩
  · cases ran
    exact .inr rfl

theorem mergeIndex_cases {now : DateTime} {datasetUuid indexName : String} {db after : Database}
    (ran : mergeIndex principal now datasetUuid indexName db = .ok after) :
    ∃ index, getIndex principal datasetUuid indexName db = .ok index ∧ index.status = .ready ∧
      after = updateIndex index.id (Index.startMerge now) (Index.id_startMerge now) db := by
  unfold mergeIndex at ran
  obtain ⟨index, got, ran⟩ := bind_eq_ok ran
  refine ⟨index, got, ?_⟩
  split at ran
  · cases ran
  · rename_i ready
    cases ran
    exact ⟨not_not.1 ready, rfl⟩

end IndexService

end Lcp
