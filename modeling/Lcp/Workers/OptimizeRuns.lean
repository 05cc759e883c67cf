/-
# Workers.OptimizeRuns -- a sequence of INDEX_OPTIMIZE executions

`executeAll` runs the executor on one task after the other, each in its own
transaction.  Two facts are followed through a sequence: how lance reports one
table (`Optimized`), and which row an index ends up with.

A dataset's rows are promoted by its first task, all at once.  They are pinned to
the version that this task left, whatever tasks come later.
-/
import Lcp.Workers.Executors

namespace Lcp.OptimizeRuns

open Theory IndexOptimizeExecutor

set_option autoImplicit false

variable {Disk : Type} (lance : Pylance Disk)

/-- One execution: its rows are committed, or rolled back when it raised. -/
def executeTask (s : Database × Disk) (step : Task × ExecutorContext) : Database × Disk :=
  match s.1.dataset.get step.1.datasetUuid with
  | none => s
  | some dataset =>
      match (indexOptimizeExecutor lance).execute step.2 step.1 dataset s.1 s.2 with
      | (.ok (_, after), disk) => (after, disk)
      | (.error _, disk) => (s.1, disk)

/-- The executions of `order`, first to last. -/
def executeAll (order : List (Task × ExecutorContext)) (s : Database × Disk) : Database × Disk :=
  order.foldl (executeTask lance) s

/-- Every execution is in real mode. -/
def Real (order : List (Task × ExecutorContext)) : Prop :=
  ∀ step ∈ order, step.2.lanceStorageEndpoint ≠ ""

/-- The dataset's lance table is at `uri`. -/
def onTable (uri : String) (db : Database) (datasetUuid : String) : Bool :=
  (db.dataset.get datasetUuid).any fun dataset => dataset.storageUri = uri

variable {lance}

/-! ## One execution -/

/-- An execution in real mode: nothing, or the table optimized and the rows promoted. -/
theorem executeTask_cases (optimizes : OptimizesOnce lance) {s : Database × Disk}
    {step : Task × ExecutorContext} (real : step.2.lanceStorageEndpoint ≠ "") :
    executeTask lance s step = s ∧
        (∀ dataset, s.1.dataset.get step.1.datasetUuid = some dataset →
          ∀ version, lance.latestVersion s.2 dataset.storageUri ≠ .ok version) ∨
      ∃ dataset version disk, s.1.dataset.get step.1.datasetUuid = some dataset ∧
        lance.latestVersion s.2 dataset.storageUri = .ok version ∧
        lance.optimizeIndices s.2 dataset.storageUri = .ok disk ∧
        lance.latestVersion disk dataset.storageUri = .ok (version + 1) ∧
        executeTask lance s step =
          (promoteAll step.2.now (some ((version + 1 : Nat) : Int)) dataset s.1, disk) := by
  unfold executeTask
  cases found : s.1.dataset.get step.1.datasetUuid with
  | none => exact .inl ⟨rfl, nofun⟩
  | some dataset =>
      cases opened : lance.latestVersion s.2 dataset.storageUri with
      | error e =>
          refine .inl ⟨?_, ?_⟩
          · simp [indexOptimizeExecutor, execute, optimize, real, LanceIo.optimizeIndices, opened]
          · intro other same version
            obtain rfl := Option.some.inj same
            simp [opened]
      | ok version =>
          obtain ⟨disk, optimized, latest⟩ := optimizes.commits opened
          refine .inr ⟨dataset, version, disk, rfl, opened, optimized, latest, ?_⟩
          simp [indexOptimizeExecutor, execute, optimize, real, LanceIo.optimizeIndices, opened,
            optimized, latest, seenVersion]

/-- The tables an execution does not write. -/
structure SameRest (db after : Database) : Prop where
  dataset : after.dataset = db.dataset
  task : after.task = db.task
  lifecyclePolicy : after.lifecyclePolicy = db.lifecyclePolicy

theorem SameRest.trans {a b c : Database} (first : SameRest a b) (second : SameRest b c) :
    SameRest a c :=
  ⟨second.dataset.trans first.dataset, second.task.trans first.task,
    second.lifecyclePolicy.trans first.lifecyclePolicy⟩

theorem executeTask_rest (optimizes : OptimizesOnce lance) {s : Database × Disk}
    {step : Task × ExecutorContext} (real : step.2.lanceStorageEndpoint ≠ "") :
    SameRest s.1 (executeTask lance s step).1 := by
  obtain ⟨same, -⟩ | ⟨dataset, version, disk, -, -, -, -, after⟩ :=
    executeTask_cases optimizes (s := s) real
  · rw [same]
    exact ⟨rfl, rfl, rfl⟩
  · rw [after]
    exact ⟨rfl, rfl, rfl⟩

theorem executeAll_rest (optimizes : OptimizesOnce lance) {order : List (Task × ExecutorContext)}
    (real : Real order) (s : Database × Disk) : SameRest s.1 (executeAll lance order s).1 := by
  induction order generalizing s with
  | nil => exact ⟨rfl, rfl, rfl⟩
  | cons step rest ih =>
      have first := executeTask_rest optimizes (s := s) (real step List.mem_cons_self)
      exact first.trans (ih (fun other member => real other (List.mem_cons_of_mem _ member)) _)

/-! ## One table -/

/-- What lance reports of a table opened at `version`, after `count` optimizations. -/
structure Optimized (lance : Pylance Disk) (uri : String) (version : Nat) (disk : Disk)
    (count : Nat) (after : Disk) : Prop where
  latest : lance.latestVersion after uri = .ok (version + count)
  listed : lance.listIndices after uri = lance.listIndices disk uri
  reported : ∀ name, (lance.indexStatistics after uri name).isSome =
    (lance.indexStatistics disk uri name).isSome
  untouched : count = 0 → lance.indexStatistics after uri = lance.indexStatistics disk uri
  indexed : count ≠ 0 → ∀ name rows, lance.indexStatistics after uri name = some (some rows) →
    rows = 0

theorem Optimized.zero {uri : String} {version : Nat} {disk : Disk}
    (opened : lance.latestVersion disk uri = .ok version) :
    Optimized lance uri version disk 0 disk :=
  ⟨opened, rfl, fun _ => rfl, fun _ => rfl, fun changed => absurd rfl changed⟩

theorem Optimized.step (optimizes : OptimizesOnce lance) {uri : String} {version : Nat}
    {disk : Disk} {s : Database × Disk} {step : Task × ExecutorContext} {count : Nat}
    (real : step.2.lanceStorageEndpoint ≠ "")
    (optimized : Optimized lance uri version disk count s.2) :
    Optimized lance uri version disk
      (count + if onTable uri s.1 step.1.datasetUuid then 1 else 0)
      (executeTask lance s step).2 := by
  obtain ⟨same, unopened⟩ | ⟨dataset, seen, after, found, opened, ran, latest, result⟩ :=
    executeTask_cases optimizes (s := s) real
  · have elsewhere : onTable uri s.1 step.1.datasetUuid = false := by
      unfold onTable
      cases found : s.1.dataset.get step.1.datasetUuid with
      | none => rfl
      | some dataset =>
          have differ : dataset.storageUri ≠ uri := by
            rintro rfl
            exact unopened dataset found _ optimized.latest
          simpa using differ
    simpa [same, elsewhere] using optimized
  · rw [result]
    by_cases here : dataset.storageUri = uri
    · subst here
      have counted : onTable dataset.storageUri s.1 step.1.datasetUuid = true := by
        simp [onTable, found]
      have version' : seen = version + count := by
        simpa [opened] using optimized.latest
      rw [if_pos counted]
      refine ⟨?_, ?_, fun name => ?_, fun zero => by omega, fun _ => ?_⟩
      · rw [latest, version', Nat.add_assoc]
      · rw [optimizes.listed ran, optimized.listed]
      · rw [optimizes.reported ran, optimized.reported]
      · exact fun name rows => optimizes.indexed ran name rows
    · have elsewhere : onTable uri s.1 step.1.datasetUuid = false := by
        simp [onTable, found, here]
      obtain ⟨sameVersion, sameStats, sameList⟩ := optimizes.others ran (Ne.symm here)
      simp only [elsewhere, Bool.false_eq_true, if_false, Nat.add_zero]
      exact ⟨sameVersion.trans optimized.latest, sameList.trans optimized.listed,
        fun name => by rw [sameStats, optimized.reported],
        fun zero => sameStats.trans (optimized.untouched zero),
        fun changed name rows => by rw [sameStats]; exact optimized.indexed changed name rows⟩

/-- Every task of the table bumps its version by one. -/
theorem executeAll_optimized (optimizes : OptimizesOnce lance) {uri : String} {version : Nat}
    {disk : Disk} {order : List (Task × ExecutorContext)} (real : Real order)
    {s : Database × Disk} {count : Nat} (optimized : Optimized lance uri version disk count s.2) :
    Optimized lance uri version disk
      (count + order.countP fun step => onTable uri s.1 step.1.datasetUuid)
      (executeAll lance order s).2 := by
  induction order generalizing s count with
  | nil => exact optimized
  | cons step rest ih =>
      have real' : step.2.lanceStorageEndpoint ≠ "" := real step List.mem_cons_self
      have datasets := (executeTask_rest optimizes (s := s) real').dataset
      have after := ih (fun other member => real other (List.mem_cons_of_mem _ member))
        (optimized.step optimizes real')
      have sameTable : ∀ uuid, onTable uri (executeTask lance s step).1 uuid =
          onTable uri s.1 uuid := fun uuid => by rw [onTable, datasets, onTable]
      simp only [sameTable] at after
      rw [List.countP_cons, Nat.add_comm (rest.countP _), ← Nat.add_assoc]
      exact after

/-- A table that cannot be opened stays closed. -/
theorem executeAll_closed (optimizes : OptimizesOnce lance) {uri : String}
    {order : List (Task × ExecutorContext)} (real : Real order) {s : Database × Disk}
    (closed : ∀ version, lance.latestVersion s.2 uri ≠ .ok version) (version : Nat) :
    lance.latestVersion (executeAll lance order s).2 uri ≠ .ok version := by
  induction order generalizing s with
  | nil => exact closed version
  | cons step rest ih =>
      refine ih (fun other member => real other (List.mem_cons_of_mem _ member)) ?_
      obtain ⟨same, -⟩ | ⟨dataset, seen, disk, -, opened, ran, -, result⟩ :=
        executeTask_cases optimizes (s := s) (real step List.mem_cons_self)
      · rw [same]
        exact closed
      · have elsewhere : uri ≠ dataset.storageUri := by
          rintro rfl
          exact closed seen opened
        rw [result]
        intro version'
        rw [(optimizes.others ran elsewhere).1]
        exact closed version'

/-! ## One index row -/

/-- A row that no execution promotes stays. -/
theorem executeTask_row (optimizes : OptimizesOnce lance) {s : Database × Disk}
    {step : Task × ExecutorContext} (real : step.2.lanceStorageEndpoint ≠ "") {id : Nat}
    {row : Index} (found : s.1.vectorIndex.get id = some row)
    (idle : row.status ≠ .optimizing ∨ row.datasetUuid ≠ step.1.datasetUuid) :
    (executeTask lance s step).1.vectorIndex.get id = some row := by
  obtain ⟨same, -⟩ | ⟨dataset, version, disk, parent, -, -, -, result⟩ :=
    executeTask_cases optimizes (s := s) real
  · rw [same, found]
  · have unawaited : awaiting dataset row = false := by
      have uuid : dataset.datasetUuid = step.1.datasetUuid := Table.key_of_get parent
      unfold awaiting
      rw [uuid]
      rcases idle with other | other <;> simp [other]
    rw [result]
    simp [promoteAll, Table.get_modify, found, unawaited]

theorem executeAll_row (optimizes : OptimizesOnce lance) {order : List (Task × ExecutorContext)}
    (real : Real order) {s : Database × Disk} {id : Nat} {row : Index}
    (found : s.1.vectorIndex.get id = some row)
    (idle : row.status ≠ .optimizing ∨ ∀ step ∈ order, row.datasetUuid ≠ step.1.datasetUuid) :
    (executeAll lance order s).1.vectorIndex.get id = some row := by
  induction order generalizing s with
  | nil => exact found
  | cons step rest ih =>
      have first : row.status ≠ .optimizing ∨ row.datasetUuid ≠ step.1.datasetUuid :=
        idle.imp_right fun others => others step List.mem_cons_self
      refine ih (fun other member => real other (List.mem_cons_of_mem _ member))
        (executeTask_row optimizes (real step List.mem_cons_self) found first) ?_
      exact idle.imp_right fun others other member => others other (List.mem_cons_of_mem _ member)

/-- The dataset an index belongs to does not change. -/
theorem executeAll_parents (optimizes : OptimizesOnce lance)
    {order : List (Task × ExecutorContext)} (real : Real order) (s : Database × Disk) (id : Nat) :
    ((executeAll lance order s).1.vectorIndex.get id).map Index.datasetUuid =
      (s.1.vectorIndex.get id).map Index.datasetUuid := by
  induction order generalizing s with
  | nil => rfl
  | cons step rest ih =>
      have later := ih (fun other member => real other (List.mem_cons_of_mem _ member))
        (executeTask lance s step)
      refine later.trans ?_
      obtain ⟨same, -⟩ | ⟨dataset, version, disk, -, -, -, -, result⟩ :=
        executeTask_cases optimizes (s := s) (real step List.mem_cons_self)
      · rw [same]
      · rw [result]
        simp only [promoteAll, Table.get_modify, Option.map_map]
        congr 1
        funext index
        simp only [Function.comp_apply]
        split <;> rfl

/-- Tasks of the table that come after the first one of the dataset. -/
def laterOn (uri datasetUuid : String) (db : Database) (order : List (Task × ExecutorContext)) :
    Nat :=
  (order.dropWhile fun step => step.1.datasetUuid ≠ datasetUuid).tail.countP fun step =>
    onTable uri db step.1.datasetUuid

/-- **The first task of a dataset promotes every OPTIMIZING row of it**, and pins it
to the version that task leaves. -/
theorem executeAll_promotes (optimizes : OptimizesOnce lance)
    {order : List (Task × ExecutorContext)} (real : Real order) {s : Database × Disk}
    {dataset : Dataset} (parent : s.1.dataset.get dataset.datasetUuid = some dataset)
    {version : Nat} (opened : lance.latestVersion s.2 dataset.storageUri = .ok version)
    (own : ∃ step ∈ order, step.1.datasetUuid = dataset.datasetUuid) {id : Nat} {row : Index}
    (found : s.1.vectorIndex.get id = some row)
    (belongs : row.datasetUuid = dataset.datasetUuid) (waiting : row.status = .optimizing) :
    ∃ at_ : DateTime, (executeAll lance order s).1.vectorIndex.get id = some
      (promote at_ (some ((version +
        (order.countP fun step => onTable dataset.storageUri s.1 step.1.datasetUuid) -
        laterOn dataset.storageUri dataset.datasetUuid s.1 order : Nat) : Int)) row) := by
  induction order generalizing s version with
  | nil => simp at own
  | cons step rest ih =>
      have real' : step.2.lanceStorageEndpoint ≠ "" := real step List.mem_cons_self
      have realRest : Real rest := fun other member => real other (List.mem_cons_of_mem _ member)
      have datasets := (executeTask_rest optimizes (s := s) real').dataset
      have sameTable : ∀ uuid, onTable dataset.storageUri (executeTask lance s step).1 uuid =
          onTable dataset.storageUri s.1 uuid := fun uuid => by rw [onTable, datasets, onTable]
      by_cases first : step.1.datasetUuid = dataset.datasetUuid
      · -- This is the dataset's first task; the rest finds the row READY.
        refine ⟨step.2.now, ?_⟩
        obtain ⟨-, unopened⟩ | ⟨dataset', seen, disk, found', opened', -, -, result⟩ :=
          executeTask_cases optimizes (s := s) real'
        · exact absurd opened (unopened dataset (first ▸ parent) version)
        · obtain rfl : dataset = dataset' := Option.some.inj (parent.symm.trans (first ▸ found'))
          obtain rfl : version = seen := by simpa [opened] using opened'
          have counted : onTable dataset.storageUri s.1 step.1.datasetUuid = true := by
            simp [onTable, found']
          have later : laterOn dataset.storageUri dataset.datasetUuid s.1 (step :: rest) =
              rest.countP fun other => onTable dataset.storageUri s.1 other.1.datasetUuid := by
            simp [laterOn, first]
          have pinned : version + (step :: rest).countP
                (fun other => onTable dataset.storageUri s.1 other.1.datasetUuid) -
              laterOn dataset.storageUri dataset.datasetUuid s.1 (step :: rest) =
                version + 1 := by
            rw [later, List.countP_cons, if_pos counted]
            omega
          rw [pinned]
          refine executeAll_row optimizes realRest ?_ (.inl fun waits => by cases waits)
          have awaited : awaiting dataset row = true := by simp [awaiting, belongs, waiting]
          rw [result]
          simp [promoteAll, Table.get_modify, found, awaited]
      · have other : row.datasetUuid ≠ step.1.datasetUuid := fun same =>
          first (same.symm.trans belongs)
        have kept := executeTask_row optimizes real' found (.inr other)
        have ownRest : ∃ step ∈ rest, step.1.datasetUuid = dataset.datasetUuid := by
          obtain ⟨ours, member, same⟩ := own
          rcases List.mem_cons.1 member with rfl | inRest
          · exact absurd same first
          · exact ⟨ours, inRest, same⟩
        have optimized := (Optimized.zero opened).step optimizes (s := s) real'
        obtain ⟨at_, promoted⟩ := ih realRest (by rw [datasets]; exact parent) optimized.latest
          ownRest kept
        refine ⟨at_, ?_⟩
        have later : laterOn dataset.storageUri dataset.datasetUuid s.1 (step :: rest) =
            laterOn dataset.storageUri dataset.datasetUuid (executeTask lance s step).1 rest := by
          simp [laterOn, first, sameTable]
        have pinned : version + (0 + if onTable dataset.storageUri s.1 step.1.datasetUuid then 1
              else 0) + (rest.countP fun other =>
              onTable dataset.storageUri (executeTask lance s step).1 other.1.datasetUuid) =
            version + (step :: rest).countP fun other =>
              onTable dataset.storageUri s.1 other.1.datasetUuid := by
          simp only [sameTable, List.countP_cons]
          omega
        rw [later, ← pinned]
        exact promoted

end Lcp.OptimizeRuns
