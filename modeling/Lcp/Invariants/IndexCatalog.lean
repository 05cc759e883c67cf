/-
# Invariants.IndexCatalog -- the index rows against the indexes on disk

`create_index` records the name, column and type of an index; INDEX_BUILD creates
it on disk and promotes the row; the watcher looks it up on disk by the row's
name.  The executor passes the column, the type and the nested `params`, and the
name only when `params` has one.  So a build is faithful when the name that
lance stores under is the row's, and the task asks for the row's definition.
-/
import Lcp.DataPlane.IndexMap
import Lcp.Services.IndexWatcherPass
import Lcp.Theory.Machine
import Lcp.Workers.Executors

namespace Lcp.IndexCatalog

open Theory

set_option autoImplicit false

/-- The state store and the lance tables. -/
structure Plant where
  db : Database
  lake : Lake

inductive Action where
  | createIndex (principal : Option TenantPrincipal) (draws : IndexService.Draws) (newId : Nat)
      (args : IndexService.Creation)
  | dropIndex (principal : Option TenantPrincipal) (datasetUuid indexName : String)
  /-- An INDEX_BUILD task is executed, with lance configured. -/
  | build (taskUuid : String) (context : ExecutorContext)
  /-- The rest of the control plane, which leaves datasets and indexes alone. -/
  | elsewhere (others : Database)

section Runs

variable (unindexedRows : Lake → String → String → Option Nat) (rows : Lake → String → Nat)

/-- The execution of a task: the worker commits the rows of one that returns. -/
def build (plant : Plant) (task : Task) (dataset : Dataset) (context : ExecutorContext) :
    Plant :=
  match IndexBuildExecutor.execute (Lake.pylance unindexedRows rows) context task dataset plant.db
      plant.lake with
  | (.ok (_, after), lake) => { db := after, lake }
  | (.error _, lake) => { plant with lake }

/-- The task of a build with its dataset. -/
def target (plant : Plant) (taskUuid : String) : Option (Task × Dataset) := do
  let task ← plant.db.task.get taskUuid
  let dataset ← plant.db.dataset.get task.datasetUuid
  return (task, dataset)

def step (plant : Plant) : Action → Option Plant
  | .createIndex principal draws newId args =>
      some { plant with db := (IndexService.createIndex principal draws newId args plant.db).2 }
  | .dropIndex principal datasetUuid indexName =>
      match IndexService.dropIndex principal datasetUuid indexName plant.db with
      | .ok after => some { plant with db := after }
      | .error _ => some plant
  | .build taskUuid context =>
      match target plant taskUuid with
      | none => none
      | some (task, dataset) =>
          if task.taskType = .indexBuild ∧ context.lanceStorageEndpoint ≠ "" then
            some (build unindexedRows rows plant task dataset context)
          else none
  | .elsewhere others =>
      some { plant with
        db := { others with
          dataset := plant.db.dataset
          vectorIndex := plant.db.vectorIndex } }

/-- Runs of `create_index`, `drop_index` and INDEX_BUILD over one lake. -/
def catalog : Machine Plant Action where
  step := step unindexedRows rows

/-- The index of a row is found on disk, with the row's column and type. -/
def Agrees (lake : Lake) (dataset : Dataset) (index : Index) : Prop :=
  (∃ stats, LanceIo.readIndexStats (Lake.pylance unindexedRows rows) lake dataset.storageUri
    index.indexName = .ok (some stats)) ∧
  ∃ entry, lake.entry dataset.storageUri index.indexName = some entry ∧
    entry.column = index.columnName ∧ entry.indexType = index.indexType

/-- Every READY row agrees with the disk. -/
def Consistent (plant : Plant) : Prop :=
  ∀ index ∈ plant.db.vectorIndex.rows, index.status = .ready →
    ∀ dataset, plant.db.dataset.get index.datasetUuid = some dataset →
      Agrees unindexedRows rows plant.lake dataset index

/-- No watch pass reports an index as missing. -/
def NoneMissing (plant : Plant) : Prop :=
  ∀ draw now principal report after,
    IndexWatcherService.runWatchPass (Lake.pylance unindexedRows rows) draw now principal plant.db
        plant.lake = .ok (report, after) →
      report.skippedNoDataset = 0

end Runs

/-- The name under which a build stores its index. -/
def storedName (args : IndexBuildExecutor.Build) : Option String :=
  match args.columnName, args.indexParams with
  | .str column, .dict params => (Lake.indexName column params).toOption
  | _, _ => none

/-- The build stores the definition of the row it promotes under the row's name, and no
READY row of the same table has another definition under that name. -/
def Faithful (plant : Plant) : Action → Prop
  | .build taskUuid context => ∀ goal ∈ target plant taskUuid,
      ∀ args ∈ (IndexBuildExecutor.parse goal.1).toOption,
        ∀ row ∈ (IndexBuildExecutor.find context goal.2 args.indexName plant.db).toOption.join,
          storedName args = some row.indexName ∧ args.columnName = .str row.columnName ∧
            args.indexType = .str row.indexType ∧
            ∀ other ∈ plant.db.vectorIndex.rows, other.status = .ready →
              other.indexName = row.indexName →
              ∀ home ∈ plant.db.dataset.get other.datasetUuid,
                home.storageUri = goal.2.storageUri →
                  other.columnName = row.columnName ∧ other.indexType = row.indexType
  | _ => True

instance (plant : Plant) : (action : Action) → Decidable (Faithful plant action)
  | .build taskUuid context =>
      inferInstanceAs (Decidable (∀ goal ∈ target plant taskUuid,
        ∀ args ∈ (IndexBuildExecutor.parse goal.1).toOption,
          ∀ row ∈
              (IndexBuildExecutor.find context goal.2 args.indexName plant.db).toOption.join,
            storedName args = some row.indexName ∧ args.columnName = .str row.columnName ∧
              args.indexType = .str row.indexType ∧
              ∀ other ∈ plant.db.vectorIndex.rows, other.status = .ready →
                other.indexName = row.indexName →
                ∀ home ∈ plant.db.dataset.get other.datasetUuid,
                  home.storageUri = goal.2.storageUri →
                    other.columnName = row.columnName ∧ other.indexType = row.indexType))
  | .createIndex .. | .dropIndex .. | .elsewhere .. => isTrue trivial

/-! ## Agreement -/

section Agreement

variable {unindexedRows : Lake → String → String → Option Nat} {rows : Lake → String → Nat}

/-- A row agrees with the disk when its table is there and has its entry. -/
theorem agrees_iff {lake : Lake} {dataset : Dataset} {index : Index} :
    Agrees unindexedRows rows lake dataset index ↔
      (∃ version, lake.version dataset.storageUri = some version) ∧
      ∃ entry, lake.entry dataset.storageUri index.indexName = some entry ∧
        entry.column = index.columnName ∧ entry.indexType = index.indexType := by
  constructor
  · rintro ⟨⟨stats, read⟩, entered⟩
    obtain ⟨version, opened, -⟩ := LanceIo.readIndexStats_eq_ok read
    refine ⟨⟨version, ?_⟩, entered⟩
    simp only [Lake.pylance] at opened
    split at opened
    · cases opened
    · rename_i found
      cases opened
      exact found
  · rintro ⟨⟨version, opened⟩, entry, entered, same⟩
    exact ⟨⟨_, Lake.readIndexStats_of_entry opened entered⟩, entry, entered, same⟩

/-- The commit of an entry, for a row that has its definition if it has its name. -/
theorem agrees_put {lake : Lake} {uri : String} {version : Nat} {entry : IndexEntry}
    {dataset : Dataset} {index : Index}
    (before : Agrees unindexedRows rows lake dataset index ∨
      (dataset.storageUri = uri ∧ index.indexName = entry.name))
    (defined : dataset.storageUri = uri → index.indexName = entry.name →
      entry.column = index.columnName ∧ entry.indexType = index.indexType) :
    Agrees unindexedRows rows (lake.put uri version entry) dataset index := by
  refine agrees_iff.2 ?_
  by_cases hit : dataset.storageUri = uri ∧ index.indexName = entry.name
  · refine ⟨⟨version + 1, by simp [hit.1]⟩, entry, by simp [hit], defined hit.1 hit.2⟩
  · obtain ⟨⟨found, opened⟩, other, entered, same⟩ := agrees_iff.1 (before.resolve_right hit)
    refine ⟨?_, other, by rw [Lake.entry_put, if_neg hit, entered], same⟩
    by_cases sameUri : dataset.storageUri = uri
    · exact ⟨version + 1, by simp [sameUri]⟩
    · exact ⟨found, by simp [sameUri, opened]⟩

/-- What a faithful build stores: one entry under the row's name, with its definition. -/
theorem build_put {lake lake' : Lake} {dataset : Dataset} {args : IndexBuildExecutor.Build}
    {name : String} {answer : JsonDict} (named : storedName args = some name)
    (built : IndexBuildExecutor.build (Lake.pylance unindexedRows rows) dataset args lake =
      (.ok answer, lake')) :
    ∃ version entry, lake' = lake.put dataset.storageUri version entry ∧ entry.name = name ∧
      args.columnName = .str entry.column ∧ args.indexType = .str entry.indexType := by
  obtain ⟨params, isDict, created⟩ := IndexBuildExecutor.build_eq_ok _ built
  obtain ⟨version, column, indexType, stored, isColumn, isType, -, storing, rfl⟩ :=
    Lake.createIndex_eq_ok created
  refine ⟨version, _, rfl, ?_, isColumn, isType⟩
  simp only [storedName, isColumn, isDict, storing] at named
  exact Option.some.inj named

/-! ## Steps -/

theorem consistent_createIndex {plant : Plant} {principal : Option TenantPrincipal}
    {draws : IndexService.Draws} {newId : Nat} {args : IndexService.Creation}
    (consistent : Consistent unindexedRows rows plant) :
    Consistent unindexedRows rows
      { plant with db := (IndexService.createIndex principal draws newId args plant.db).2 } := by
  intro index member ready dataset found
  have sameDataset : (IndexService.createIndex principal draws newId args plant.db).2.dataset =
      plant.db.dataset := IndexService.createIndex_dataset rfl
  rcases IndexService.createIndex_origin rfl member with old | rfl | ⟨cause, rfl⟩
  · exact consistent index old ready dataset (sameDataset ▸ found)
  · cases ready
  · cases ready

theorem consistent_dropIndex {plant : Plant} {principal : Option TenantPrincipal}
    {datasetUuid indexName : String} {after : Database}
    (consistent : Consistent unindexedRows rows plant)
    (ran : IndexService.dropIndex principal datasetUuid indexName plant.db = .ok after) :
    Consistent unindexedRows rows { plant with db := after } := by
  obtain ⟨dropped, -, ⟨-, rfl⟩ | rfl⟩ := IndexService.dropIndex_cases ran
  · exact consistent
  · intro index member ready dataset found
    rcases Table.of_mem_update member with ⟨before, -, -, rfl⟩ | ⟨old, -⟩
    · cases ready
    · exact consistent index old ready dataset found

theorem dataset_of_target {plant : Plant} {taskUuid : String} {task : Task} {dataset : Dataset}
    (goal : target plant taskUuid = some (task, dataset)) :
    plant.db.dataset.get dataset.datasetUuid = some dataset := by
  simp only [target, bind, Option.bind_eq_some_iff, pure, Option.some.injEq,
    Prod.mk.injEq] at goal
  obtain ⟨_, -, _, found, -, rfl⟩ := goal
  rw [Table.key_of_get found, found]

/-- A faithful build leaves its row, and every other READY row, in agreement. -/
theorem consistent_build {plant : Plant} {task : Task} {dataset : Dataset} {taskUuid : String}
    {context : ExecutorContext} (consistent : Consistent unindexedRows rows plant)
    (goal : target plant taskUuid = some (task, dataset))
    (real : context.lanceStorageEndpoint ≠ "")
    (faithful : Faithful plant (.build taskUuid context)) :
    Consistent unindexedRows rows (build unindexedRows rows plant task dataset context) := by
  unfold build
  split
  · rename_i answer after lake ran
    obtain ⟨args, row, parsed, found, rfl, ⟨stub, -⟩ | ⟨-, descriptor, built⟩⟩ :=
      IndexBuildExecutor.execute_eq_ok _ ran
    · exact absurd stub real
    · obtain ⟨named, column, indexType, others⟩ := faithful (task, dataset) goal args
        (by simp [parsed, Except.toOption]) row (by simp [found, Except.toOption])
      obtain ⟨version, entry, rfl, sameName, asColumn, asType⟩ := build_put named built
      have sameColumn : entry.column = row.columnName := Json.str.inj (asColumn.symm.trans column)
      have sameType : entry.indexType = row.indexType := Json.str.inj (asType.symm.trans indexType)
      intro index member ready home homeFound
      rcases Table.of_mem_update member with ⟨promoted, inTable, same, rfl⟩ | ⟨old, -⟩
      · obtain ⟨inRows, owner, -⟩ := IndexBuildExecutor.find_eq_some found
        obtain rfl : promoted = row := Table.eq_of_key_eq inTable inRows same
        have isHome : plant.db.dataset.get promoted.datasetUuid = some home := homeFound
        rw [owner, dataset_of_target goal] at isHome
        obtain rfl := Option.some.inj isHome
        exact agrees_put (.inr ⟨rfl, sameName.symm⟩)
          fun _ _ => ⟨sameColumn, sameType⟩
      · have agreed := consistent index old ready home homeFound
        refine agrees_put (.inl agreed) fun sameUri isNamed => ?_
        obtain ⟨otherColumn, otherType⟩ := others index old ready (isNamed.trans sameName) home
          homeFound sameUri
        exact ⟨sameColumn.trans otherColumn.symm, sameType.trans otherType.symm⟩
  · rename_i e lake ran
    obtain rfl := IndexBuildExecutor.execute_error _ ran
    exact consistent

theorem consistent_step {plant after : Plant} {action : Action}
    (consistent : Consistent unindexedRows rows plant) (faithful : Faithful plant action)
    (stepped : step unindexedRows rows plant action = some after) :
    Consistent unindexedRows rows after := by
  cases action with
  | createIndex principal draws newId args =>
      obtain rfl := Option.some.inj stepped
      exact consistent_createIndex consistent
  | dropIndex principal datasetUuid indexName =>
      simp only [step] at stepped
      split at stepped
      · rename_i ran
        obtain rfl := Option.some.inj stepped
        exact consistent_dropIndex consistent ran
      · obtain rfl := Option.some.inj stepped
        exact consistent
  | build taskUuid context =>
      simp only [step] at stepped
      split at stepped
      · cases stepped
      · rename_i task dataset goal
        split at stepped
        · rename_i admitted
          obtain rfl := Option.some.inj stepped
          exact consistent_build consistent goal admitted.2 faithful
        · cases stepped
  | elsewhere others =>
      obtain rfl := Option.some.inj stepped
      exact consistent

/-- A pass looks up only READY rows, each at the dataset it belongs to. -/
theorem Consistent.noneMissing {plant : Plant} (consistent : Consistent unindexedRows rows plant) :
    NoneMissing unindexedRows rows plant := by
  intro draw now principal report after ran
  refine IndexWatcherService.runWatchPass_found (fun candidate member => ?_) ran
  obtain ⟨inTable, ready, found, -⟩ := IndexWatcherService.mem_fetchCandidates.1 member
  exact (consistent candidate.index inTable ready candidate.dataset found).1

/-- **The catalog agrees with the disk** in every run of faithful builds, and the watcher
misses no index. -/
theorem catalog_agrees {start : Plant} {actions : List Action}
    (consistent : Consistent unindexedRows rows start)
    (guarded : (catalog unindexedRows rows).Guarded Faithful start actions) :
    (catalog unindexedRows rows).Always
      (fun plant => Consistent unindexedRows rows plant ∧ NoneMissing unindexedRows rows plant)
      start actions := by
  have always : (catalog unindexedRows rows).Always (Consistent unindexedRows rows) start actions :=
    Machine.always_of_inv (fun plant action after held faithful stepped =>
      consistent_step held faithful stepped) consistent guarded
  exact always.mono fun _ held => ⟨held, held.noneMissing⟩

end Agreement

section Examples

/-- No count is known for any index. -/
def unknownRows : Lake → String → String → Option Nat := fun _ _ _ => none

def noRows : Lake → String → Nat := fun _ _ => 0

/-- A dataset whose table has one version and no index, and a policy that watches it. -/
def oneVersion : Plant where
  db :=
    { dataset :=
        .single
          { datasetUuid := "d1", catalog := "lake", dbSchema := "acme", tableName := "events",
            storageUri := "s3://acme/events", tenantId := "acme" }
      lifecyclePolicy :=
        .single
          { id := 1, datasetUuid := "d1", policyName := "default", indexWatchEnabled := true } }
  lake :=
    { version := fun uri => if uri = "s3://acme/events" then some 1 else none
      indexes := fun _ => [] }

/-- An index is created under a name, then its task is executed. -/
def createThenBuild (indexName : String) (params : Option JsonDict) : List Action :=
  [ .createIndex acmeSdk { now := 1, taskUuid := "t1" } 1
      { datasetUuid := "d1", indexName, columnName := "emb", indexType := "IVF_PQ", params },
    .build "t1" { lanceStorageEndpoint := "http://minio:9000", now := 2 } ]

/-- What the store has under a name, and how many indexes the next pass misses. -/
def misses (name : String) (plant : Plant) : Option IndexEntry × Option Nat :=
  (plant.lake.entry "s3://acme/events" name,
    (IndexWatcherService.runWatchPass (Lake.pylance unknownRows noRows) (fun n => toString n) 3
      daemonContext plant.db plant.lake).toOption.map fun answer => answer.1.skippedNoDataset)

theorem consistent_oneVersion : Consistent unknownRows noRows oneVersion := by
  intro index member
  simp [oneVersion] at member

/-- An index that is not named after its column is READY and on disk under another name. -/
theorem named_index_missing :
    ¬ (catalog unknownRows noRows).Always
      (fun plant => Consistent unknownRows noRows plant ∧ NoneMissing unknownRows noRows plant)
      oneVersion (createThenBuild "my_index" none) := by
  intro always
  have ends : ((catalog unknownRows noRows).run oneVersion (createThenBuild "my_index" none)).map
      (misses "my_index") = some (none, some 1) := by
    decide
  obtain ⟨plant, ran, missed⟩ := Option.map_eq_some_iff.1 ends
  obtain ⟨-, noneMissing⟩ := always.last ran
  obtain ⟨-, counted⟩ := Prod.mk.inj missed
  obtain ⟨⟨report, after⟩, passed, one⟩ := Option.map_eq_some_iff.1 counted
  have zero : report.skippedNoDataset = 0 :=
    noneMissing _ _ _ report after (eq_ok_of_toOption passed)
  exact absurd (zero.symm.trans one) (by decide)

example : ((catalog unknownRows noRows).run oneVersion (createThenBuild "my_index" none)).map
    (fun plant => (plant.lake.entry "s3://acme/events" "emb_idx").map IndexEntry.column) =
      some (some "emb") := by
  decide

/-- The name is passed on among the parameters, or is the one that lance would choose. -/
theorem catalog_agrees_named :
    (catalog unknownRows noRows).Always
      (fun plant => Consistent unknownRows noRows plant ∧ NoneMissing unknownRows noRows plant)
      oneVersion (createThenBuild "my_index" (some [("name", .str "my_index")])) :=
  catalog_agrees consistent_oneVersion (by decide)

end Examples

end Lcp.IndexCatalog
