/-
# Invariants.WatcherQuiescence -- when a dataset settles after a watch pass

One watch pass, then every task it emitted executed in real mode in some order,
then a second pass.  The dataset settles when the second pass emits no task for
it, whatever the order was.

Each execution optimizes the whole table and bumps its version by one, but only
the dataset's first one finds rows to promote.  The rows are pinned to the version
it leaves, so `n` tasks on the table can leave a drift of `n - 1`; a row that was
watched but not due drifts by all of them.  `settles_iff` is the exact condition
on the state before the first pass.
-/
import Lcp.Invariants.WatchRound

namespace Lcp.WatcherQuiescence

open Theory Emission IndexWatcherService OptimizeRuns

set_option autoImplicit false

variable {Disk : Type} (lance : Pylance Disk)

/-- After a pass that took `db` to `passed`: once the emitted tasks are executed,
in any order and at any time, the next pass is quiet. -/
def Settles (draw : Nat → String) (now : DateTime) (principal : Option TenantPrincipal)
    (dataset : Dataset) (db passed : Database) (disk : Disk) : Prop :=
  ∀ order : List (Task × ExecutorContext),
    (order.map Prod.fst).Perm (emittedTasks db passed) → Real order →
      Quiet lance draw now principal dataset (executeAll lance order (passed, disk))

section Condition

variable (now : DateTime) (disk : Disk) (dataset : Dataset) (policy : LifecyclePolicy)
  (db : Database)

/-- The largest drift that an order of the executions can leave the index with. -/
def worstDrift (version : Nat) (index : Index) : Nat :=
  if Promoted lance now disk dataset policy db index then
    tableDues lance now disk dataset db - 1
  else
    ((version + tableDues lance now disk dataset db : Nat) -
      index.lastSeenVersion.getD 0 : Int).toNat

/-- Every index that will be READY drifts by less than the threshold, or the key
of the drift it will show is taken already. -/
def DriftStaysBelow : Prop :=
  tableDues lance now disk dataset db ≠ 0 →
    ∀ version, lance.latestVersion disk dataset.storageUri = .ok version →
      ∀ index ∈ db.vectorIndex.rows, index.datasetUuid = dataset.datasetUuid →
        (Promoted lance now disk dataset policy db index ∨ index.status = .ready) →
        present lance disk dataset index = true →
        ∀ threshold ∈ policy.indexWatchMinVersionDrift,
          worstDrift lance now disk dataset policy db version index < threshold ∨
            taken (triggerKey index.id (version + tableDues lance now disk dataset db)
              .versionDrift) db = true

end Condition

variable {lance}

/-! ## Orders -/

/-- The dataset's first task is on its table, so fewer come after it. -/
theorem laterOn_lt {uri datasetUuid : String} {db : Database}
    {order : List (Task × ExecutorContext)}
    (table : onTable uri db datasetUuid = true)
    (own : ∃ step ∈ order, step.1.datasetUuid = datasetUuid) :
    laterOn uri datasetUuid db order <
      order.countP fun step => onTable uri db step.1.datasetUuid := by
  induction order with
  | nil => simp at own
  | cons step rest ih =>
      rw [List.countP_cons]
      by_cases first : step.1.datasetUuid = datasetUuid
      · have later : laterOn uri datasetUuid db (step :: rest) =
            rest.countP fun step => onTable uri db step.1.datasetUuid := by
          simp [laterOn, first]
        rw [later, if_pos (by rw [first]; exact table)]
        omega
      · have later : laterOn uri datasetUuid db (step :: rest) =
            laterOn uri datasetUuid db rest := by
          simp [laterOn, first]
        have ownRest : ∃ step ∈ rest, step.1.datasetUuid = datasetUuid := by
          obtain ⟨ours, member, same⟩ := own
          rcases List.mem_cons.1 member with rfl | inRest
          · exact absurd same first
          · exact ⟨ours, inRest, same⟩
        have := ih ownRest
        omega

private def anyTime : ExecutorContext := { lanceStorageEndpoint := "lance", now := 0 }

/-- Some order runs a task of the dataset first, where it has one. -/
theorem exists_worst_order {uri datasetUuid : String} {db : Database} (tasks : List Task)
    (table : onTable uri db datasetUuid = true) :
    ∃ order : List (Task × ExecutorContext), (order.map Prod.fst).Perm tasks ∧ Real order ∧
      ((∃ task ∈ tasks, task.datasetUuid = datasetUuid) →
        laterOn uri datasetUuid db order + 1 = tasks.countP fun task =>
          onTable uri db task.datasetUuid) := by
  have realAny : ∀ tasks : List Task, Real (tasks.map (·, anyTime)) := by
    intro tasks step inOrder
    obtain ⟨task, -, rfl⟩ := List.mem_map.1 inOrder
    exact (by decide : "lance" ≠ "")
  by_cases own : ∃ task ∈ tasks, task.datasetUuid = datasetUuid
  · obtain ⟨task, member, ours⟩ := own
    refine ⟨(task :: tasks.erase task).map (·, anyTime), ?_, realAny _, fun _ => ?_⟩
    · rw [List.map_map]
      simpa [Function.comp_def] using (List.perm_cons_erase member).symm
    · have counted : onTable uri db task.datasetUuid = true := by rw [ours]; exact table
      rw [(List.perm_cons_erase member).countP_eq, List.countP_cons, if_pos counted]
      simp [laterOn, ours, List.countP_map, Function.comp_def]
  · exact ⟨tasks.map (·, anyTime), by simp [Function.comp_def], realAny _, fun h => absurd h own⟩

/-! ## The exact condition -/

section Settling

variable {draw draw' : Nat → String} {now now' : DateTime} {principal : Option TenantPrincipal}
  {db passed : Database} {disk : Disk} {dataset : Dataset} {policy : LifecyclePolicy}
  {report : WatchPassReport}

/-- A due candidate on the table was read at some version. -/
theorem opened_of_dues (some_ : tableDues lance now disk dataset db ≠ 0) :
    ∃ version, lance.latestVersion disk dataset.storageUri = .ok version := by
  obtain ⟨candidate, member, holds⟩ := List.countP_pos_iff.1 (Nat.pos_iff_ne_zero.2 some_)
  rw [Bool.and_eq_true] at holds
  have found := (mem_fetchCandidates.1 member).2.2.1
  have table : candidate.dataset.storageUri = dataset.storageUri := by
    have onIt := holds.1
    rw [onTable, datasetUuid_of_mem member, found] at onIt
    simpa using onIt
  have isDue := holds.2
  unfold due at isDue
  cases fired : signal lance now disk candidate.dataset candidate.policy (candidate.row db) with
  | none => simp [fired] at isDue
  | some seen => exact ⟨seen.2, table ▸ latestVersion_of_signal fired⟩

section Passes

variable (optimizes : OptimizesOnce lance) (watched : Watched db dataset policy)
  (swept : Swept lance now disk (fun uuid => uuid = dataset.datasetUuid) (fetchCandidates db) db
    passed)
  (sweptTable : Swept lance now disk (onTable dataset.storageUri db) (fetchCandidates db) db passed)

include optimizes watched swept sweptTable

/-- Nothing of the table was due: the second pass finds what the first one found. -/
theorem quiet_of_no_dues (none_ : tableDues lance now disk dataset db = 0)
    {order : List (Task × ExecutorContext)}
    (permuted : (order.map Prod.fst).Perm (emittedTasks db passed)) (real : Real order)
    {index : Index} (inRows : index ∈ db.vectorIndex.rows)
    (belongs : index.datasetUuid = dataset.datasetUuid) (ready : index.status = .ready) :
    due lance now' (executeAll lance order (passed, disk)).2
      (executeAll lance order (passed, disk)).1 { index, dataset, policy } = false := by
  have noOwn : ownDues lance now disk dataset db = 0 := by
    have : ownDues lance now disk dataset db ≤ tableDues lance now disk dataset db :=
      ownDues_le watched
    omega
  have kept := kept_row optimizes watched swept permuted real inRows belongs
    fun promotes => promotes.1 noOwn
  have member := (watched.mem_candidates.2 ⟨index, inRows, belongs, ready, rfl⟩).1
  have idle : due lance now disk db { index, dataset, policy } = false := by
    have := List.countP_eq_zero.1 noOwn _ member
    simpa using this
  have secondRow : Candidate.row { index, dataset, policy }
      (executeAll lance order (passed, disk)).1 = index := by
    simp [Candidate.row, kept]
  have sameSignal : signal lance now' (executeAll lance order (passed, disk)).2 dataset policy
      index = signal lance now disk dataset policy index := by
    cases opened : lance.latestVersion disk dataset.storageUri with
    | error e =>
        have closed : ∀ version, lance.latestVersion disk dataset.storageUri ≠ .ok version := by
          simp [opened]
        rw [signal_closed closed,
          signal_closed (executeAll_closed optimizes real (s := (passed, disk)) closed)]
    | ok version =>
        refine signal_congr watched.stale_off ?_
        have tables : onTable dataset.storageUri passed = onTable dataset.storageUri db :=
          onTable_congr sweptTable.dataset
        have zero : 0 + (order.countP fun step =>
            onTable dataset.storageUri passed step.1.datasetUuid) = 0 := by
          rw [tables, count_order sweptTable permuted, Nat.zero_add]
          exact none_
        have optimized := executeAll_optimized optimizes real (s := (passed, disk))
          (Optimized.zero opened)
        simp only [zero] at optimized
        rw [readIndexStats_eq optimized.latest, readIndexStats_eq opened,
          optimized.untouched rfl, optimized.listed]
        rfl
  unfold due at idle ⊢
  rw [secondRow, sameSignal]
  rw [row_of_mem inRows] at idle
  cases fired : signal lance now disk dataset policy index with
  | none => rfl
  | some found =>
      obtain ⟨reason, version⟩ := found
      rw [fired] at idle
      have held : taken (triggerKey index.id version reason) db = true := by simpa using idle
      have still : taken (triggerKey index.id version reason)
          (executeAll lance order (passed, disk)).1 = true := by
        obtain ⟨fresh, rows, -⟩ := swept.tasks
        obtain ⟨task, member, key⟩ := taken_iff.1 held
        rw [taken_congr (executeAll_rest optimizes real (passed, disk)).task]
        exact taken_iff.2 ⟨task, by rw [rows]; exact List.mem_append_left _ member, key⟩
      simp [still]

/-- The drift an order of the executions leaves an index with. -/
def driftAfter (lance : Pylance Disk) (now : DateTime) (disk : Disk) (dataset : Dataset)
    (policy : LifecyclePolicy) (db : Database) (version : Nat)
    (order : List (Task × ExecutorContext)) (index : Index) : Nat :=
  if Promoted lance now disk dataset policy db index then
    laterOn dataset.storageUri dataset.datasetUuid db order
  else
    ((version + tableDues lance now disk dataset db : Nat) -
      index.lastSeenVersion.getD 0 : Int).toNat

/-- The READY row of an index that the second pass meets. -/
theorem second_row {order : List (Task × ExecutorContext)}
    (permuted : (order.map Prod.fst).Perm (emittedTasks db passed)) (real : Real order)
    {version : Nat} (opened : lance.latestVersion disk dataset.storageUri = .ok version)
    {index : Index} (inRows : index ∈ db.vectorIndex.rows)
    (belongs : index.datasetUuid = dataset.datasetUuid)
    (willBe : Promoted lance now disk dataset policy db index ∨ index.status = .ready) :
    ∃ row, (executeAll lance order (passed, disk)).1.vectorIndex.get index.id = some row ∧
      row.status = .ready ∧ row.indexName = index.indexName ∧
      row.datasetUuid = dataset.datasetUuid ∧
      (((version + tableDues lance now disk dataset db : Nat) : Int) -
        row.lastSeenVersion.getD 0).toNat =
          driftAfter lance now disk dataset policy db version order index := by
  unfold driftAfter
  by_cases promotes : Promoted lance now disk dataset policy db index
  · obtain ⟨row, found, ready, name, uuid, seen⟩ := promoted_row optimizes watched swept
      sweptTable permuted real opened inRows belongs promotes
    have below : laterOn dataset.storageUri dataset.datasetUuid db order < _ :=
      laterOn_lt watched.onTable_self ((exists_own swept permuted).2 promotes.1)
    rw [count_order sweptTable permuted] at below
    refine ⟨row, found, ready, name, uuid, ?_⟩
    rw [if_pos promotes, seen, Option.getD_some]
    have : laterOn dataset.storageUri dataset.datasetUuid db order <
        tableDues lance now disk dataset db := below
    omega
  · have kept := kept_row optimizes watched swept permuted real inRows belongs promotes
    refine ⟨index, kept, willBe.resolve_left promotes, rfl, belongs, ?_⟩
    rw [if_neg promotes]

omit watched sweptTable in
/-- The index a row of the second pass comes from. -/
theorem second_origin {order : List (Task × ExecutorContext)} (real : Real order) {row : Index}
    (inRows : row ∈ (executeAll lance order (passed, disk)).1.vectorIndex.rows)
    (belongs : row.datasetUuid = dataset.datasetUuid) :
    ∃ index ∈ db.vectorIndex.rows, index.id = row.id ∧
      index.datasetUuid = dataset.datasetUuid := by
  have parents := (executeAll_parents optimizes real (passed, disk) row.id).trans
    (swept.parents row.id)
  rw [Table.get_of_mem inRows, Option.map_some] at parents
  obtain ⟨index, found, same⟩ := Option.map_eq_some_iff.1 parents.symm
  exact ⟨index, Table.mem_of_get found, Table.key_of_get found, same.trans belongs⟩

/-- What makes the second pass quiet, for one order of the executions. -/
theorem second_quiet_iff {order : List (Task × ExecutorContext)}
    (permuted : (order.map Prod.fst).Perm (emittedTasks db passed)) (real : Real order)
    {version : Nat} (opened : lance.latestVersion disk dataset.storageUri = .ok version)
    (some_ : tableDues lance now disk dataset db ≠ 0) :
    (∀ row ∈ (executeAll lance order (passed, disk)).1.vectorIndex.rows,
      row.datasetUuid = dataset.datasetUuid → row.status = .ready →
      due lance now' (executeAll lance order (passed, disk)).2
        (executeAll lance order (passed, disk)).1 { index := row, dataset, policy } = false) ↔
    ∀ index ∈ db.vectorIndex.rows, index.datasetUuid = dataset.datasetUuid →
      (Promoted lance now disk dataset policy db index ∨ index.status = .ready) →
      present lance disk dataset index = true →
      ∀ threshold ∈ policy.indexWatchMinVersionDrift,
        driftAfter lance now disk dataset policy db version order index < threshold ∨
          taken (triggerKey index.id (version + tableDues lance now disk dataset db)
            .versionDrift) db = true := by
  have tables : onTable dataset.storageUri passed = onTable dataset.storageUri db :=
    onTable_congr sweptTable.dataset
  have optimized := executeAll_optimized optimizes real (s := (passed, disk))
    (Optimized.zero opened)
  rw [tables, count_order sweptTable permuted, Nat.zero_add] at optimized
  have keys : ∀ {index}, index ∈ db.vectorIndex.rows →
      index.datasetUuid = dataset.datasetUuid → _ := fun inRows belongs =>
    taken_second optimizes watched swept real opened some_ inRows belongs
  constructor
  · intro idle index inRows belongs willBe onDisk threshold set_
    obtain ⟨row, found, ready, name, uuid, drift⟩ := second_row optimizes watched swept
      sweptTable permuted real opened inRows belongs willBe
    have sameId : row.id = index.id := Table.key_of_get found
    have notDue := idle row (Table.mem_of_get found) uuid ready
    by_contra neither
    rw [not_or, Nat.not_lt, Bool.not_eq_true] at neither
    have isDue : due lance now' _ _ { index := row, dataset, policy } = true :=
      (due_second watched some_ optimized (Table.mem_of_get found)).2
        ⟨by rw [present, name]; exact onDisk,
        ⟨threshold, set_, by rw [drift]; exact neither.1⟩,
        by rw [sameId, keys inRows belongs]; exact neither.2⟩
    rw [notDue] at isDue
    cases isDue
  · intro below row inSecond belongs ready
    obtain ⟨index, inRows, sameId, belongs'⟩ := second_origin optimizes swept real inSecond belongs
    have rowOf : (executeAll lance order (passed, disk)).1.vectorIndex.get index.id = some row :=
      sameId ▸ Table.get_of_mem inSecond
    have willBe : Promoted lance now disk dataset policy db index ∨ index.status = .ready := by
      by_cases promotes : Promoted lance now disk dataset policy db index
      · exact .inl promotes
      · have kept := kept_row optimizes watched swept permuted real inRows belongs' promotes
        obtain rfl : row = index := Option.some.inj (rowOf.symm.trans kept)
        exact .inr ready
    obtain ⟨row', found, -, name, -, drift⟩ := second_row optimizes watched swept
      sweptTable permuted real opened inRows belongs' willBe
    obtain rfl : row = row' := Option.some.inj (rowOf.symm.trans found)
    rw [← Bool.not_eq_true]
    intro isDue
    obtain ⟨onDisk, ⟨threshold, set_, reached⟩, free⟩ :=
      (due_second watched some_ optimized inSecond).1 isDue
    rw [← sameId, keys inRows belongs'] at free
    rw [drift] at reached
    rcases below index inRows belongs' willBe (by rw [present, ← name]; exact onDisk) threshold
      set_ with small | held
    · omega
    · rw [held] at free
      cases free

omit sweptTable in
/-- The second pass is quiet when no READY row of the dataset is due in it. -/
theorem quiet_second_iff (system : requireSystemContext principal = true)
    (fresh : FreshDraws draw' passed)
    {order : List (Task × ExecutorContext)} (real : Real order) :
    Quiet lance draw' now' principal dataset (executeAll lance order (passed, disk)) ↔
      ∀ row ∈ (executeAll lance order (passed, disk)).1.vectorIndex.rows,
        row.datasetUuid = dataset.datasetUuid → row.status = .ready →
        due lance now' (executeAll lance order (passed, disk)).2
          (executeAll lance order (passed, disk)).1 { index := row, dataset, policy } = false := by
  have rest := executeAll_rest optimizes real (passed, disk)
  have second : Watched (executeAll lance order (passed, disk)).1 dataset policy :=
    watched.transfer (rest.dataset.trans swept.dataset)
      (rest.lifecyclePolicy.trans swept.lifecyclePolicy)
  have freshSecond : FreshDraws draw' (executeAll lance order (passed, disk)).1 :=
    ⟨fresh.injective, fun n => by rw [rest.task]; exact fresh.unused n⟩
  rw [quiet_iff system freshSecond second.own_once]
  constructor
  · intro idle row inRows belongs ready
    have member := second.mem_candidates.2 ⟨row, inRows, belongs, ready, rfl⟩
    exact idle _ member.1 member.2
  · intro idle candidate member ours
    obtain ⟨row, inRows, belongs, ready, rfl⟩ := second.mem_candidates.1 ⟨member, ours⟩
    exact idle row inRows belongs ready

omit optimizes in
/-- No order of the executions leaves more than the worst drift. -/
theorem driftAfter_le {order : List (Task × ExecutorContext)}
    (permuted : (order.map Prod.fst).Perm (emittedTasks db passed)) (version : Nat)
    (index : Index) :
    driftAfter lance now disk dataset policy db version order index ≤
      worstDrift lance now disk dataset policy db version index := by
  unfold driftAfter worstDrift
  split
  · rename_i promotes
    have fewer : laterOn dataset.storageUri dataset.datasetUuid db order < _ :=
      laterOn_lt watched.onTable_self ((exists_own swept permuted).2 promotes.1)
    rw [count_order sweptTable permuted] at fewer
    exact Nat.le_sub_one_of_lt fewer
  · exact Nat.le_refl _

omit optimizes watched in
/-- An order that runs a task of the dataset first leaves the worst drift. -/
theorem worstDrift_le {order : List (Task × ExecutorContext)}
    (permuted : (order.map Prod.fst).Perm (emittedTasks db passed))
    (worst : (∃ task ∈ emittedTasks db passed, task.datasetUuid = dataset.datasetUuid) →
      laterOn dataset.storageUri dataset.datasetUuid db order + 1 =
        (emittedTasks db passed).countP fun task =>
          onTable dataset.storageUri db task.datasetUuid)
    (version : Nat) (index : Index) :
    worstDrift lance now disk dataset policy db version index ≤
      driftAfter lance now disk dataset policy db version order index := by
  unfold worstDrift driftAfter
  split
  · rename_i promotes
    obtain ⟨step, member, ours⟩ := (exists_own swept permuted).2 promotes.1
    have last := worst ⟨step.1, permuted.mem_iff.1 (List.mem_map_of_mem member), ours⟩
    rw [count_emittedTasks sweptTable] at last
    have : laterOn dataset.storageUri dataset.datasetUuid db order + 1 =
        tableDues lance now disk dataset db := last
    omega
  · exact Nat.le_refl _

/-- Without a due on the table every order of the executions leads to a quiet pass. -/
theorem settles_of_no_dues (system : requireSystemContext principal = true)
    (fresh : FreshDraws draw' passed)
    (none_ : tableDues lance now disk dataset db = 0) :
    Settles lance draw' now' principal dataset db passed disk := by
  intro order permuted real
  refine (quiet_second_iff optimizes watched swept system fresh real).2 ?_
  intro row inSecond belongs ready
  obtain ⟨index, inRows, sameId, belongs'⟩ := second_origin optimizes swept real inSecond belongs
  have noOwn : ownDues lance now disk dataset db = 0 := by
    have : ownDues lance now disk dataset db ≤ tableDues lance now disk dataset db :=
      ownDues_le watched
    omega
  have kept := kept_row optimizes watched swept permuted real inRows belongs'
    fun promotes => promotes.1 noOwn
  obtain rfl : row = index :=
    Option.some.inj ((Table.get_of_mem inSecond).symm.trans (sameId ▸ kept))
  exact quiet_of_no_dues optimizes watched swept sweptTable none_ permuted real inRows belongs
    ready

end Passes

/-- **Exactly when a dataset settles.**  After a pass and the executions of its tasks
in any order the next pass emits nothing for the dataset, if and only if every
index that will be READY drifts by less than the threshold, in the worst order. -/
theorem settles_iff (optimizes : OptimizesOnce lance) (watched : Watched db dataset policy)
    (ran : runWatchPass lance draw now principal db disk = .ok (report, passed))
    (fresh : FreshDraws draw' passed) :
    Settles lance draw' now' principal dataset db passed disk ↔
      DriftStaysBelow lance now disk dataset policy db := by
  have swept := runWatchPass_swept watched.own_once ran
  have sweptTable := runWatchPass_swept watched.once ran
  have system := (runWatchPass_eq_ok ran).1
  by_cases none_ : tableDues lance now disk dataset db = 0
  · exact iff_of_true (settles_of_no_dues optimizes watched swept sweptTable system fresh none_)
      fun some_ => absurd none_ some_
  · obtain ⟨version, opened⟩ := opened_of_dues none_
    constructor
    · intro settles _ version' opened' index inRows belongs willBe onDisk threshold set_
      obtain rfl : version = version' := by simpa [opened] using opened'
      obtain ⟨order, permuted, real, worst⟩ :=
        exists_worst_order (emittedTasks db passed) watched.onTable_self
      have quiet := (quiet_second_iff optimizes watched swept system fresh real).1
        (settles order permuted real)
      have below := (second_quiet_iff optimizes watched swept sweptTable permuted real opened
        none_).1 quiet index inRows belongs willBe onDisk threshold set_
      exact below.imp_left fun small =>
        Nat.lt_of_le_of_lt (worstDrift_le swept sweptTable permuted worst version index) small
    · intro below order permuted real
      refine (quiet_second_iff optimizes watched swept system fresh real).2
        ((second_quiet_iff optimizes watched swept sweptTable permuted real opened none_).2 ?_)
      intro index inRows belongs willBe onDisk threshold set_
      exact (below none_ version opened index inRows belongs willBe onDisk threshold
        set_).imp_left fun small =>
          Nat.lt_of_le_of_lt (driftAfter_le watched swept sweptTable permuted version index) small

end Settling

section TwoIndexes

/-- Tables as a version and the number of rows that no index covers. -/
def versionedLake : Pylance (String → Nat × Nat) where
  latestVersion disk uri := .ok (disk uri).1
  indexStatistics disk uri _ := some (some (disk uri).2)
  listIndices _ _ := []
  optimizeIndices disk uri := .ok (Function.update disk uri ((disk uri).1 + 1, 0))
  delete disk _ _ := .ok disk
  countRows _ _ := 0
  createIndex disk _ _ _ _ _ := .ok disk

theorem versionedLake_optimizesOnce : OptimizesOnce versionedLake where
  commits := by
    intro disk uri version opened
    refine ⟨_, rfl, ?_⟩
    obtain rfl : (disk uri).1 = version := by simpa [versionedLake] using opened
    simp [versionedLake]
  reported _ _ := rfl
  indexed := by
    intro disk uri after ran name rows reported
    obtain rfl := Except.ok.inj ran
    simpa [versionedLake] using reported.symm
  listed _ := rfl
  others := by
    intro disk uri after other ran differ
    obtain rfl := Except.ok.inj ran
    simp [versionedLake, differ]

private def events : Dataset :=
  { datasetUuid := "d1", catalog := "lake", dbSchema := "acme", tableName := "events",
    storageUri := "s3://acme/events", tenantId := "acme" }

private def fleet : LifecyclePolicy :=
  { id := 1, datasetUuid := "d1", policyName := "fleet", indexWatchEnabled := true,
    indexWatchStaleMinutes := none }

private def readyIndex (id : Nat) (indexName : String) : Index :=
  { id, datasetUuid := "d1", indexName, columnName := indexName, indexType := "IVF_PQ",
    status := .ready, lastSeenVersion := some 7 }

/-- A dataset with the given READY indexes, all built at version 7. -/
private def withIndexes (indexes : List Index) (distinct : (indexes.map Index.id).Nodup) :
    Database where
  dataset := ⟨[events], by decide⟩
  vectorIndex := ⟨indexes, distinct⟩
  lifecyclePolicy := ⟨[fleet], by decide⟩

/-- An append of 5000 rows made version 8. -/
private def appended : String → Nat × Nat := fun _ => (8, 5000)

private def drawn (pass : String) (n : Nat) : String := pass ++ toString n

/-- The rows after a first pass. -/
private def passedRows (db : Database) : Database :=
  ((runWatchPass versionedLake (drawn "a") 0 daemonContext db appended).toOption.map (·.2)).getD db

private def twoIndexes : Database :=
  withIndexes [readyIndex 1 "title", readyIndex 2 "body"] (by decide)

private def oneIndex : Database := withIndexes [readyIndex 1 "title"] (by decide)

private def atAnyTime (db : Database) : List (Task × ExecutorContext) :=
  (emittedTasks db (passedRows db)).map (·, anyTime)

/-- Whether the pass after all executions emits a task for the dataset. -/
private def fires (db : Database) : Bool :=
  let second := executeAll versionedLake (atAnyTime db) (passedRows db, appended)
  match runWatchPass versionedLake (drawn "b") 0 daemonContext second.1 second.2 with
  | .ok (_, after) => (emittedTasks second.1 after).any fun task => task.datasetUuid = "d1"
  | .error _ => false

theorem watched_withIndexes {indexes : List Index} {distinct : (indexes.map Index.id).Nodup} :
    Watched (withIndexes indexes distinct) events fleet where
  dataset_mem := List.mem_singleton.2 rfl
  policy_mem := List.mem_singleton.2 rfl
  watching := by decide
  once := by
    intro dataset member _
    obtain rfl := List.mem_singleton.1 member
    exact (by decide : ([fleet].filter (watches events)).length ≤ 1)
  rows_pos := by decide
  drift_pos := by decide
  stale_off := rfl

/-- Two indexes of one dataset: both fire on the append, both tasks run, and the
next pass fires again. -/
theorem two_indexes_refire :
    Watched twoIndexes events fleet ∧
      ¬ Settles versionedLake (drawn "b") 0 daemonContext events twoIndexes (passedRows twoIndexes)
        appended := by
  refine ⟨watched_withIndexes, fun settles => ?_⟩
  have real : Real (atAnyTime twoIndexes) := by
    intro step member
    obtain ⟨task, -, rfl⟩ := List.mem_map.1 member
    exact (by decide : "lance" ≠ "")
  obtain ⟨report, after, ran, quiet⟩ := settles (atAnyTime twoIndexes)
    (by simp [atAnyTime, Function.comp_def]) real
  have fired : fires twoIndexes = true := by decide +kernel
  simp only [fires, ran] at fired
  obtain ⟨task, member, ours⟩ := List.any_eq_true.1 fired
  exact quiet task member (by simpa [events] using ours)

/-- One index settles after the same append. -/
theorem one_index_settles :
    ∃ report, runWatchPass versionedLake (drawn "a") 0 daemonContext oneIndex appended =
        .ok (report, passedRows oneIndex) ∧
      Settles versionedLake (drawn "b") 0 daemonContext events oneIndex (passedRows oneIndex)
        appended := by
  have keys : (passedRows oneIndex).task.keys = ["a0"] := by decide +kernel
  have fresh : FreshDraws (drawn "b") (passedRows oneIndex) := by
    refine ⟨fun m n same => ?_, fun n member => ?_⟩
    · have texts := congrArg String.toList same
      simp only [drawn, String.toList_append] at texts
      exact Nat.repr_injective (String.toList_inj.1 (List.append_cancel_left texts))
    · rw [keys, List.mem_singleton] at member
      have texts := congrArg (fun s => s.toList.head?) member
      simp [drawn] at texts
  have below : DriftStaysBelow versionedLake 0 appended events fleet oneIndex := by
    intro _ version opened index inRows _ _ _ threshold set_
    obtain rfl : 8 = version := Except.ok.inj opened
    obtain rfl := List.mem_singleton.1 inRows
    obtain rfl : 1 = threshold := Option.some.inj set_
    exact .inl (by decide +kernel)
  refine ⟨_, rfl, ?_⟩
  exact (settles_iff versionedLake_optimizesOnce watched_withIndexes rfl fresh).2 below

end TwoIndexes

end Lcp.WatcherQuiescence
