/-
# Invariants.WatchRound -- one pass, the executions of its tasks, and the next pass

The rows and the table that a second watch pass meets, in terms of the state
before the first one.  A row that is not promoted is unchanged; a promoted row is
READY and pinned to the version that the dataset's first task left.  The second
pass can only see drift, since an optimized table has no unindexed rows.
-/
import Lcp.Services.IndexWatcherPass
import Lcp.Workers.OptimizeRuns

namespace Lcp.WatcherQuiescence

open Theory Emission IndexWatcherService OptimizeRuns

set_option autoImplicit false

variable {Disk : Type} (lance : Pylance Disk)

/-- The task rows of `after` that are not in `before`. -/
def emittedTasks (before after : Database) : List Task :=
  after.task.rows.filter fun task => (before.task.get task.taskUuid).isNone

/-- A dataset watched by one policy, with its stale signal off. -/
structure Watched (db : Database) (dataset : Dataset) (policy : LifecyclePolicy) : Prop where
  dataset_mem : dataset ∈ db.dataset.rows
  policy_mem : policy ∈ db.lifecyclePolicy.rows
  watching : watches dataset policy = true
  /-- So are the other datasets of the same table, where there are any. -/
  once : WatchedOnce (onTable dataset.storageUri db) db
  rows_pos : ∀ threshold ∈ policy.indexWatchMinUnindexedRows, 1 ≤ threshold
  drift_pos : ∀ threshold ∈ policy.indexWatchMinVersionDrift, 1 ≤ threshold
  stale_off : policy.indexWatchStaleMinutes = none

/-- A watch pass returns and emits no task for the dataset. -/
def Quiet (draw : Nat → String) (now : DateTime) (principal : Option TenantPrincipal)
    (dataset : Dataset) (s : Database × Disk) : Prop :=
  ∃ report after, runWatchPass lance draw now principal s.1 s.2 = .ok (report, after) ∧
    ∀ task ∈ emittedTasks s.1 after, task.datasetUuid ≠ dataset.datasetUuid

/-! ## What is due before the first pass -/

section Dues

variable (now : DateTime) (disk : Disk) (dataset : Dataset) (policy : LifecyclePolicy)
  (db : Database)

/-- How many candidates of the datasets in `owned` are due. -/
def dues (owned : String → Bool) : Nat :=
  (fetchCandidates db).countP fun candidate =>
    owned candidate.dataset.datasetUuid && due lance now disk db candidate

/-- Due candidates of the dataset itself. -/
def ownDues : Nat := dues lance now disk db fun uuid => uuid = dataset.datasetUuid

/-- Due candidates on the dataset's lance table. -/
def tableDues : Nat := dues lance now disk db (onTable dataset.storageUri db)

/-- The executions will promote the index: it is due itself, or is OPTIMIZING
already while some index of the dataset is due. -/
def Promoted (index : Index) : Prop :=
  ownDues lance now disk dataset db ≠ 0 ∧
    (index.status = .optimizing ∨
      (index.status = .ready ∧ due lance now disk db { index, dataset, policy } = true))

instance (index : Index) : Decidable (Promoted lance now disk dataset policy db index) :=
  inferInstanceAs (Decidable (_ ∧ _))

/-- Lance has the index on disk. -/
def present (index : Index) : Bool :=
  (lance.indexStatistics disk dataset.storageUri index.indexName).isSome ||
    decide (index.indexName ∈ lance.listIndices disk dataset.storageUri)

end Dues

/-! ## The tasks of a pass -/

variable {lance}

theorem emittedTasks_eq {before after : Database} {fresh : List Task}
    (rows : after.task.rows = before.task.rows ++ fresh) : emittedTasks before after = fresh := by
  have nodup := after.task.nodup
  rw [rows, List.map_append, List.nodup_append] at nodup
  have old : before.task.rows.filter
      (fun task => (before.task.get task.taskUuid).isNone) = [] := by
    refine List.filter_eq_nil_iff.2 fun task member => ?_
    simp [Table.get_of_mem member]
  have new : fresh.filter (fun task => (before.task.get task.taskUuid).isNone) = fresh := by
    refine List.filter_eq_self.2 fun task member => ?_
    have absent : before.task.get task.taskUuid = none :=
      Table.get_eq_none.2 fun row inRows same =>
        nodup.2.2 _ (List.mem_map_of_mem inRows) _ (List.mem_map_of_mem member) same
    simp [absent]
  rw [emittedTasks, rows, List.filter_append, old, new, List.nil_append]

/-- A pass emits as many tasks for the datasets in `owned` as candidates are due. -/
theorem count_emittedTasks {now : DateTime} {disk : Disk} {owned : String → Bool}
    {db passed : Database}
    (swept : Swept lance now disk owned (fetchCandidates db) db passed) :
    (emittedTasks db passed).countP (fun task => owned task.datasetUuid) =
      dues lance now disk db owned := by
  obtain ⟨fresh, rows, count⟩ := swept.tasks
  rw [emittedTasks_eq rows, count, dues]

theorem quiet_iff {draw : Nat → String} {now : DateTime} {principal : Option TenantPrincipal}
    {dataset : Dataset} {s : Database × Disk} (system : requireSystemContext principal = true)
    (fresh : FreshDraws draw s.1)
    (once : WatchedOnce (fun uuid => uuid = dataset.datasetUuid) s.1) :
    Quiet lance draw now principal dataset s ↔
      ∀ candidate ∈ fetchCandidates s.1, candidate.dataset.datasetUuid = dataset.datasetUuid →
        due lance now s.2 s.1 candidate = false := by
  have silent : ∀ {report after},
      runWatchPass lance draw now principal s.1 s.2 = .ok (report, after) →
      ((∀ task ∈ emittedTasks s.1 after, task.datasetUuid ≠ dataset.datasetUuid) ↔
        ∀ candidate ∈ fetchCandidates s.1, candidate.dataset.datasetUuid = dataset.datasetUuid →
          due lance now s.2 s.1 candidate = false) := by
    intro report after ran
    have count := count_emittedTasks (runWatchPass_swept once ran)
    have none_ : (∀ task ∈ emittedTasks s.1 after, task.datasetUuid ≠ dataset.datasetUuid) ↔
        (emittedTasks s.1 after).countP
          (fun task => task.datasetUuid = dataset.datasetUuid) = 0 := by
      rw [List.countP_eq_zero]
      simp
    rw [none_, count, dues, List.countP_eq_zero]
    simp
  constructor
  · rintro ⟨report, after, ran, quiet⟩
    exact (silent ran).1 quiet
  · intro idle
    obtain ⟨⟨report, after⟩, ran⟩ :
        ∃ answer, runWatchPass lance draw now principal s.1 s.2 = .ok answer :=
      runWatchPass_ok system fresh
    exact ⟨report, after, ran, (silent ran).2 idle⟩

/-! ## The second pass reads an optimized table -/

theorem readIndexStats_eq {disk : Disk} {uri indexName : String} {version : Nat}
    (opened : lance.latestVersion disk uri = .ok version) :
    LanceIo.readIndexStats lance disk uri indexName = .ok
      (match lance.indexStatistics disk uri indexName with
        | some rows => some ⟨version, rows⟩
        | none =>
            if indexName ∈ lance.listIndices disk uri then some ⟨version, none⟩ else none) := by
  unfold LanceIo.readIndexStats
  rw [opened]
  cases lance.indexStatistics disk uri indexName with
  | some rows => rfl
  | none =>
      by_cases listed : indexName ∈ lance.listIndices disk uri <;>
        simp [listed, bind, Except.bind, pure, Except.pure]

/-- With the stale signal off, only the table and `last_seen_version` matter. -/
theorem signal_congr {now now' : DateTime} {disk after : Disk} {dataset : Dataset}
    {policy : LifecyclePolicy} {index : Index} (staleOff : policy.indexWatchStaleMinutes = none)
    (same : LanceIo.readIndexStats lance after dataset.storageUri index.indexName =
      LanceIo.readIndexStats lance disk dataset.storageUri index.indexName) :
    signal lance now' after dataset policy index = signal lance now disk dataset policy index := by
  unfold signal
  rw [same]
  split
  · simp [decideTrigger, staleOff]
  · rfl

/-- A table that cannot be opened gives no signal. -/
theorem signal_closed {now : DateTime} {disk : Disk} {dataset : Dataset}
    {policy : LifecyclePolicy} {index : Index}
    (closed : ∀ version, lance.latestVersion disk dataset.storageUri ≠ .ok version) :
    signal lance now disk dataset policy index = none := by
  cases fired : signal lance now disk dataset policy index with
  | none => rfl
  | some found => exact absurd (latestVersion_of_signal fired) (closed found.2)

/-- After at least one optimization no index has unindexed rows, so only the drift
can fire. -/
theorem signal_optimized {now : DateTime} {disk after : Disk} {dataset : Dataset}
    {policy : LifecyclePolicy} {index : Index} {version count : Nat}
    (staleOff : policy.indexWatchStaleMinutes = none)
    (rowsPos : ∀ threshold ∈ policy.indexWatchMinUnindexedRows, 1 ≤ threshold)
    (some_ : count ≠ 0)
    (optimized : Optimized lance dataset.storageUri version disk count after) :
    signal lance now after dataset policy index =
      if present lance disk dataset index && policy.indexWatchMinVersionDrift.any
          (· ≤ (((version + count : Nat) : Int) - index.lastSeenVersion.getD 0).toNat) then
        some (.versionDrift, version + count)
      else none := by
  have noRows : ∀ rows, lance.indexStatistics after dataset.storageUri index.indexName =
      some rows →
      (rows.any fun rows => policy.indexWatchMinUnindexedRows.any (· ≤ rows)) = false := by
    intro rows reported
    cases rows with
    | none => rfl
    | some rows =>
        obtain rfl := optimized.indexed some_ _ _ reported
        cases threshold : policy.indexWatchMinUnindexedRows with
        | none => rfl
        | some threshold' =>
            have := rowsPos threshold' threshold
            simp
            omega
  have decided : ∀ rows, (rows.any fun rows =>
        policy.indexWatchMinUnindexedRows.any (· ≤ rows)) = false →
      (decideTrigger rows (version + count) index.lastSeenVersion index.lastOptimizedAt now
        policy).reason = if policy.indexWatchMinVersionDrift.any
          (· ≤ (((version + count : Nat) : Int) - index.lastSeenVersion.getD 0).toNat) = true then
        some .versionDrift else none := by
    intro rows below
    simp [decideTrigger, below, staleOff]
  unfold signal
  rw [readIndexStats_eq optimized.latest, optimized.listed]
  unfold present
  rw [← optimized.reported]
  cases reported : lance.indexStatistics after dataset.storageUri index.indexName with
  | some rows =>
      simp only [decided rows (noRows rows reported)]
      split <;> simp_all
  | none =>
      by_cases listed : index.indexName ∈ lance.listIndices disk dataset.storageUri
      · simp only [listed, if_true, decided none rfl]
        split <;> simp_all
      · simp [listed]

/-! ## Candidates of the dataset -/

theorem onTable_congr {uri : String} {db after : Database} (same : after.dataset = db.dataset) :
    onTable uri after = onTable uri db := by
  funext uuid
  rw [onTable, onTable, same]

theorem eq_of_length_le_one {α : Type} {items : List α} (few : items.length ≤ 1) {a b : α}
    (inA : a ∈ items) (inB : b ∈ items) : a = b := by
  rcases items with _ | ⟨head, _ | ⟨second, rest⟩⟩
  · simp at inA
  · rw [List.mem_singleton.1 inA, List.mem_singleton.1 inB]
  · simp at few

namespace Watched

variable {db after : Database} {dataset : Dataset} {policy : LifecyclePolicy}

theorem transfer (watched : Watched db dataset policy) (datasets : after.dataset = db.dataset)
    (policies : after.lifecyclePolicy = db.lifecyclePolicy) : Watched after dataset policy where
  dataset_mem := by rw [datasets]; exact watched.dataset_mem
  policy_mem := by rw [policies]; exact watched.policy_mem
  watching := watched.watching
  once := by
    intro other member ours
    rw [policies]
    rw [datasets] at member
    rw [onTable_congr datasets] at ours
    exact watched.once other member ours
  rows_pos := watched.rows_pos
  drift_pos := watched.drift_pos
  stale_off := watched.stale_off

theorem onTable_self (watched : Watched db dataset policy) :
    onTable dataset.storageUri db dataset.datasetUuid = true := by
  simp [onTable, Table.get_of_mem watched.dataset_mem]

theorem own_once (watched : Watched db dataset policy) :
    WatchedOnce (fun uuid => uuid = dataset.datasetUuid) db := by
  intro other member ours
  have same : other.datasetUuid = dataset.datasetUuid := by simpa using ours
  exact watched.once other member (same ▸ watched.onTable_self)

/-- The candidates of the dataset are its READY indexes, under its one policy. -/
theorem mem_candidates (watched : Watched db dataset policy) {candidate : Candidate} :
    (candidate ∈ fetchCandidates db ∧ candidate.dataset.datasetUuid = dataset.datasetUuid) ↔
      ∃ index ∈ db.vectorIndex.rows, index.datasetUuid = dataset.datasetUuid ∧
        index.status = .ready ∧ candidate = { index, dataset, policy } := by
  constructor
  · rintro ⟨member, ours⟩
    obtain ⟨inRows, ready, found, inPolicies, watching⟩ := mem_fetchCandidates.1 member
    have sameDataset : candidate.dataset = dataset :=
      Table.eq_of_key_eq (Table.mem_of_get found) watched.dataset_mem ours
    have belongs := (datasetUuid_of_mem member).symm.trans ours
    rw [sameDataset] at watching
    have few := watched.once dataset watched.dataset_mem watched.onTable_self
    have samePolicy : candidate.policy = policy :=
      eq_of_length_le_one few (List.mem_filter.2 ⟨inPolicies, watching⟩)
        (List.mem_filter.2 ⟨watched.policy_mem, watched.watching⟩)
    refine ⟨candidate.index, inRows, belongs, ready, ?_⟩
    rw [← sameDataset, ← samePolicy]
  · rintro ⟨index, inRows, belongs, ready, rfl⟩
    refine ⟨mem_fetchCandidates.2 ⟨inRows, ready, ?_, watched.policy_mem, watched.watching⟩, rfl⟩
    rw [belongs]
    exact Table.get_of_mem watched.dataset_mem

end Watched

theorem row_of_mem {db : Database} {dataset : Dataset} {policy : LifecyclePolicy} {index : Index}
    (inRows : index ∈ db.vectorIndex.rows) :
    Candidate.row { index, dataset, policy } db = index := by
  simp [Candidate.row, Table.get_of_mem inRows]

theorem ownDues_le {now : DateTime} {disk : Disk} {db : Database} {dataset : Dataset}
    {policy : LifecyclePolicy} (watched : Watched db dataset policy) :
    ownDues lance now disk dataset db ≤ tableDues lance now disk dataset db := by
  refine List.countP_mono_left fun candidate _ holds => ?_
  simp only [Bool.and_eq_true, decide_eq_true_eq] at holds ⊢
  exact ⟨holds.1 ▸ watched.onTable_self, holds.2⟩

/-! ## From the first pass to the second -/

section Passes

variable {draw : Nat → String} {now : DateTime} {principal : Option TenantPrincipal}
  {db passed : Database} {disk : Disk} {dataset : Dataset} {policy : LifecyclePolicy}
  {report : WatchPassReport} {order : List (Task × ExecutorContext)}

theorem count_order {owned : String → Bool}
    (swept : Swept lance now disk owned (fetchCandidates db) db passed)
    (permuted : (order.map Prod.fst).Perm (emittedTasks db passed)) :
    (order.countP fun step => owned step.1.datasetUuid) = dues lance now disk db owned := by
  rw [← count_emittedTasks swept, ← permuted.countP_eq, List.countP_map]
  rfl

/-- The dataset's task rows of the order, where some candidate of it was due. -/
theorem exists_own (swept : Swept lance now disk (fun uuid => uuid = dataset.datasetUuid)
      (fetchCandidates db) db passed)
    (permuted : (order.map Prod.fst).Perm (emittedTasks db passed)) :
    (∃ step ∈ order, step.1.datasetUuid = dataset.datasetUuid) ↔
      ownDues lance now disk dataset db ≠ 0 := by
  rw [ownDues, ← count_order swept permuted, ← Nat.pos_iff_ne_zero, List.countP_pos_iff]
  simp

/-- The row of a dataset's index after the first pass. -/
theorem passed_row (watched : Watched db dataset policy)
    (swept : Swept lance now disk (fun uuid => uuid = dataset.datasetUuid)
      (fetchCandidates db) db passed)
    {index : Index} (inRows : index ∈ db.vectorIndex.rows)
    (belongs : index.datasetUuid = dataset.datasetUuid) :
    passed.vectorIndex.get index.id = some
      (if index.status = .ready ∧ due lance now disk db { index, dataset, policy } = true then
        startOptimize now index
      else index) := by
  have sameIndex : ∀ candidate ∈ fetchCandidates db, candidate.index.id = index.id →
      candidate.index = index := fun candidate member same =>
    Table.eq_of_key_eq (mem_fetchCandidates.1 member).1 inRows same
  have ours : ∀ candidate ∈ fetchCandidates db, candidate.index.id = index.id →
      decide (candidate.dataset.datasetUuid = dataset.datasetUuid) = true := by
    intro candidate member same
    simp [datasetUuid_of_mem member, sameIndex candidate member same, belongs]
  have isDue : (∃ candidate ∈ fetchCandidates db, candidate.index.id = index.id ∧
        due lance now disk db candidate = true) ↔
      index.status = .ready ∧ due lance now disk db { index, dataset, policy } = true := by
    constructor
    · rintro ⟨candidate, member, same, holds⟩
      obtain ⟨index', -, -, ready, rfl⟩ := watched.mem_candidates.1
        ⟨member, by simpa using ours candidate member same⟩
      obtain rfl : index' = index := sameIndex _ member same
      exact ⟨ready, holds⟩
    · rintro ⟨ready, holds⟩
      exact ⟨{ index, dataset, policy },
        (watched.mem_candidates.2 ⟨index, inRows, belongs, ready, rfl⟩).1, rfl, holds⟩
  rw [swept.index index.id ours]
  simp only [isDue, Table.get_of_mem inRows, Option.map_some]
  split <;> rfl

/-- A row that is not promoted is the same after all executions. -/
theorem kept_row (optimizes : OptimizesOnce lance) (watched : Watched db dataset policy)
    (swept : Swept lance now disk (fun uuid => uuid = dataset.datasetUuid)
      (fetchCandidates db) db passed)
    (permuted : (order.map Prod.fst).Perm (emittedTasks db passed)) (real : Real order)
    {index : Index} (inRows : index ∈ db.vectorIndex.rows)
    (belongs : index.datasetUuid = dataset.datasetUuid)
    (stays : ¬ Promoted lance now disk dataset policy db index) :
    (executeAll lance order (passed, disk)).1.vectorIndex.get index.id = some index := by
  have before := passed_row watched swept inRows belongs
  have notDue : ¬ (index.status = .ready ∧
      due lance now disk db { index, dataset, policy } = true) := by
    intro both
    refine stays ⟨?_, .inr both⟩
    have member := (watched.mem_candidates.2 ⟨index, inRows, belongs, both.1, rfl⟩).1
    refine Nat.pos_iff_ne_zero.1 (List.countP_pos_iff.2 ⟨_, member, ?_⟩)
    simp [both.2]
  rw [if_neg notDue] at before
  refine executeAll_row optimizes real before ?_
  by_cases waiting : index.status = .optimizing
  · right
    intro step member same
    have own := (exists_own swept permuted).1 ⟨step, member, same.symm.trans belongs⟩
    exact stays ⟨own, .inl waiting⟩
  · exact .inl waiting

/-- A promoted row is READY and pinned to the version of the dataset's first task. -/
theorem promoted_row (optimizes : OptimizesOnce lance) (watched : Watched db dataset policy)
    (swept : Swept lance now disk (fun uuid => uuid = dataset.datasetUuid)
      (fetchCandidates db) db passed)
    (sweptTable : Swept lance now disk (onTable dataset.storageUri db) (fetchCandidates db) db
      passed)
    (permuted : (order.map Prod.fst).Perm (emittedTasks db passed)) (real : Real order)
    {version : Nat} (opened : lance.latestVersion disk dataset.storageUri = .ok version)
    {index : Index} (inRows : index ∈ db.vectorIndex.rows)
    (belongs : index.datasetUuid = dataset.datasetUuid)
    (promotes : Promoted lance now disk dataset policy db index) :
    ∃ row, (executeAll lance order (passed, disk)).1.vectorIndex.get index.id = some row ∧
      row.status = .ready ∧ row.indexName = index.indexName ∧
      row.datasetUuid = dataset.datasetUuid ∧
      row.lastSeenVersion = some ((version + tableDues lance now disk dataset db -
        laterOn dataset.storageUri dataset.datasetUuid db order : Nat) : Int) := by
  have tables : onTable dataset.storageUri passed = onTable dataset.storageUri db :=
    onTable_congr sweptTable.dataset
  have parent : passed.dataset.get dataset.datasetUuid = some dataset := by
    rw [swept.dataset]
    exact Table.get_of_mem watched.dataset_mem
  have own := (exists_own swept permuted).2 promotes.1
  obtain ⟨row, found, waiting, name, uuid⟩ : ∃ row,
      passed.vectorIndex.get index.id = some row ∧ row.status = .optimizing ∧
        row.indexName = index.indexName ∧ row.datasetUuid = dataset.datasetUuid := by
    refine ⟨_, passed_row watched swept inRows belongs, ?_⟩
    split
    · exact ⟨rfl, rfl, belongs⟩
    · rename_i notDue
      exact ⟨promotes.2.resolve_right notDue, rfl, belongs⟩
  obtain ⟨at_, promoted⟩ := executeAll_promotes optimizes real (s := (passed, disk)) parent opened
    own found uuid waiting
  have later : laterOn dataset.storageUri dataset.datasetUuid passed order =
      laterOn dataset.storageUri dataset.datasetUuid db order := by
    simp only [laterOn, tables]
  have count : (order.countP fun step =>
      onTable dataset.storageUri passed step.1.datasetUuid) =
        tableDues lance now disk dataset db := by
    rw [tables]
    exact count_order sweptTable permuted
  simp only [count, later] at promoted
  exact ⟨_, promoted, rfl, name, uuid, rfl⟩

/-- What the second pass finds due, when the table was optimized at least once. -/
theorem due_second (watched : Watched db dataset policy) {now' : DateTime} {count version : Nat}
    {second : Database × Disk} (some_ : count ≠ 0)
    (optimized : Optimized lance dataset.storageUri version disk count second.2)
    {row : Index} (inRows : row ∈ second.1.vectorIndex.rows) :
    due lance now' second.2 second.1 { index := row, dataset, policy } = true ↔
      present lance disk dataset row = true ∧
        (∃ threshold ∈ policy.indexWatchMinVersionDrift,
          threshold ≤ (((version + count : Nat) : Int) - row.lastSeenVersion.getD 0).toNat) ∧
        taken (triggerKey row.id (version + count) .versionDrift) second.1 = false := by
  unfold due
  rw [row_of_mem inRows,
    signal_optimized watched.stale_off watched.rows_pos some_ optimized]
  by_cases holds : (present lance disk dataset row && policy.indexWatchMinVersionDrift.any
      (· ≤ (((version + count : Nat) : Int) - row.lastSeenVersion.getD 0).toNat)) = true
  · rw [if_pos holds]
    simp only [Bool.and_eq_true, Option.any_eq_true, decide_eq_true_eq] at holds
    obtain ⟨onDisk, threshold, set_, below⟩ := holds
    constructor
    · intro free
      exact ⟨onDisk, ⟨threshold, set_, below⟩, by simpa using free⟩
    · rintro ⟨-, -, free⟩
      simpa using free
  · rw [if_neg holds]
    simp only [Bool.and_eq_true, Option.any_eq_true, decide_eq_true_eq] at holds
    constructor
    · simp
    · rintro ⟨onDisk, ⟨threshold, set_, below⟩, -⟩
      exact absurd ⟨onDisk, threshold, set_, below⟩ holds

/-- Keys of a version that no candidate was read at are taken after both steps exactly
when they were taken before. -/
theorem taken_second (optimizes : OptimizesOnce lance) (watched : Watched db dataset policy)
    (swept : Swept lance now disk (fun uuid => uuid = dataset.datasetUuid)
      (fetchCandidates db) db passed) (real : Real order)
    {version count : Nat} (opened : lance.latestVersion disk dataset.storageUri = .ok version)
    (some_ : count ≠ 0) {index : Index} (inRows : index ∈ db.vectorIndex.rows)
    (belongs : index.datasetUuid = dataset.datasetUuid) :
    taken (triggerKey index.id (version + count) .versionDrift)
        (executeAll lance order (passed, disk)).1 =
      taken (triggerKey index.id (version + count) .versionDrift) db := by
  rw [taken_congr (executeAll_rest optimizes real (passed, disk)).task]
  refine swept.keys _ _ _ fun candidate member same => ?_
  have sameIndex : candidate.index = index :=
    Table.eq_of_key_eq (mem_fetchCandidates.1 member).1 inRows same
  have ours : candidate.dataset.datasetUuid = dataset.datasetUuid := by
    rw [datasetUuid_of_mem member, sameIndex, belongs]
  obtain ⟨-, -, -, -, rfl⟩ := watched.mem_candidates.1 ⟨member, ours⟩
  rw [opened]
  intro equal
  have : version = version + count := Except.ok.inj equal
  omega

end Passes

end Lcp.WatcherQuiescence
