/-
# Invariants.SeenVersions -- `last_seen_version` against the versions of the table

An INDEX_OPTIMIZE execution pins the rows that it promotes to one version: with lance
configured the version after its own commit, without it the `lance_version` that the
watcher put into the task.  The first one is the newest there is.  The second one is as
old as the task, and a task can wait, fail and be retried while younger ones run.

The versions stay below the table's in any case (`Bounded`).  They go forward in a run
if and only if no stub execution has an older version than a row that it promotes
(`versions_forward_iff`).
-/
import Lcp.Services.Operations
import Lcp.Services.IndexWatcherPass
import Lcp.Services.PlannerPass
import Lcp.Workers.LifecycleWorkerService

namespace Lcp.SeenVersions

open Theory Emission

set_option autoImplicit false

/-- The state store and the lance tables. -/
structure Plant (Disk : Type) where
  db : Database
  disk : Disk

inductive Action (Disk : Type) where
  | runWatchPass (principal : Option TenantPrincipal) (draw : Nat → String) (now : DateTime)
  | optimizeIndex (principal : Option TenantPrincipal) (draws : IndexService.Draws)
      (datasetUuid indexName : String)
  | planOnce (principal : Option TenantPrincipal) (draw : Nat → String) (now : DateTime)
  /-- A claim, a failure, a retry or another call that submits no task. -/
  | call (op : Operation)
  /-- The worker executes and finalizes a task that it has claimed. -/
  | dispatch (principal : Option TenantPrincipal) (context : ExecutorContext)
      (finishedAt : DateTime) (workerId taskUuid : String)
  /-- Other writers commit to the tables. -/
  | tables (disk : Disk)
  /-- The rest of the control plane: policies, rules and workers. -/
  | elsewhere (others : Database)

section Runs

variable {Disk : Type} (lance : Pylance Disk)

def step (s : Plant Disk) : Action Disk → Option (Plant Disk)
  | .runWatchPass principal draw now =>
      match IndexWatcherService.runWatchPass lance draw now principal s.db s.disk with
      | .ok (_, after) => some { s with db := after }
      | .error _ => some s
  | .optimizeIndex principal draws datasetUuid indexName =>
      some { s with
        db := (IndexService.optimizeIndex principal draws datasetUuid indexName s.db).2 }
  | .planOnce principal draw now =>
      match LifecyclePlannerService.planOnce draw now principal s.db with
      | .ok (_, after) => some { s with db := after }
      | .error _ => some s
  | .call op => if op.submits then none else some { s with db := op.apply s.db }
  | .dispatch principal context finishedAt workerId taskUuid =>
      match s.db.task.get taskUuid with
      | none => none
      | some task =>
          if task.runningOn workerId then
            let iteration := LifecycleWorkerService.dispatchAndFinalize principal context finishedAt
              (buildDefaultRegistry lance) workerId task s.db s.disk
            some { db := iteration.db, disk := iteration.disk }
          else none
  | .tables disk => some { s with disk }
  | .elsewhere others =>
      some { s with
        db := { others with
          dataset := s.db.dataset, task := s.db.task, vectorIndex := s.db.vectorIndex } }

/-- Runs of what writes index rows and INDEX_OPTIMIZE tasks. -/
def optimizing : Machine (Plant Disk) (Action Disk) where
  step := step lance

end Runs

/-! ## Versions -/

section Versions

variable {Disk : Type}

/-- What opening a table reads is its latest version. -/
def Reads (lance : Pylance Disk) (latest : Disk → String → Nat) : Prop :=
  ∀ disk uri version, lance.latestVersion disk uri = .ok version → version = latest disk uri

/-- The version is one of the dataset's table. -/
def Within (latest : Disk → String → Nat) (s : Plant Disk) (datasetUuid : String)
    (version : Int) : Prop :=
  ∀ dataset ∈ s.db.dataset.get datasetUuid, version ≤ latest s.disk dataset.storageUri

/-- The recorded versions of all index rows. -/
def RowsWithin (latest : Disk → String → Nat) (s : Plant Disk) : Prop :=
  ∀ index ∈ s.db.vectorIndex.rows, ∀ version ∈ index.lastSeenVersion,
    Within latest s index.datasetUuid version

/-- The versions in the parameters of INDEX_OPTIMIZE tasks. -/
def TasksWithin (latest : Disk → String → Nat) (s : Plant Disk) : Prop :=
  ∀ task ∈ s.db.task.rows, task.taskType = .indexOptimize →
    ∀ version ∈ IndexOptimizeExecutor.extractLanceVersion task,
      Within latest s task.datasetUuid version

/-- No version is ahead of its table. -/
structure Bounded (latest : Disk → String → Nat) (s : Plant Disk) : Prop where
  rows : RowsWithin latest s
  tasks : TasksWithin latest s

/-- Index rows stay, and their versions do not go back. -/
def Forward (db after : Database) : Prop :=
  ∀ id, ∀ index ∈ db.vectorIndex.get id, ∀ version ∈ index.lastSeenVersion,
    ∃ later ∈ after.vectorIndex.get id, ∃ newer ∈ later.lastSeenVersion, version ≤ newer

/-- A stub execution promotes no row that has seen a later version than its task. -/
def InOrder (s : Plant Disk) : Action Disk → Prop
  | .dispatch principal context _ _ taskUuid =>
      requireSystemContext principal = true → context.lanceStorageEndpoint = "" →
        ∀ task ∈ s.db.task.get taskUuid, task.taskType = .indexOptimize →
          ∀ version ∈ IndexOptimizeExecutor.extractLanceVersion task,
          ∀ dataset ∈ s.db.dataset.get task.datasetUuid,
          ∀ index ∈ s.db.vectorIndex.rows, IndexOptimizeExecutor.awaiting dataset index = true →
            ∀ seen ∈ index.lastSeenVersion, seen ≤ version
  | _ => True

instance (s : Plant Disk) : (a : Action Disk) → Decidable (InOrder s a)
  | .dispatch principal .. =>
      @instDecidableForall (requireSystemContext principal = true) _ inferInstance inferInstance
  | .runWatchPass .. => isTrue trivial
  | .optimizeIndex .. => isTrue trivial
  | .planOnce .. => isTrue trivial
  | .call .. => isTrue trivial
  | .tables .. => isTrue trivial
  | .elsewhere .. => isTrue trivial

end Versions

/-! ## Steps that promote nothing -/

section Quiet

variable {Disk : Type} {latest : Disk → String → Nat} {s t u : Plant Disk}

/-- The columns of an index row that the versions are about. -/
def seen (index : Index) : String × Option Int := (index.datasetUuid, index.lastSeenVersion)

/-- Datasets and recorded versions stay, and INDEX_OPTIMIZE tasks are old or carry a version
of their dataset's table, if any. -/
structure Quiet (latest : Disk → String → Nat) (s t : Plant Disk) : Prop where
  dataset : t.db.dataset = s.db.dataset
  disk : t.disk = s.disk
  index : ∀ id, (t.db.vectorIndex.get id).map seen = (s.db.vectorIndex.get id).map seen
  task : ∀ task ∈ t.db.task.rows, task.taskType = .indexOptimize →
    task.request ∈ s.db.task.rows.map Task.request ∨
      ∀ version ∈ IndexOptimizeExecutor.extractLanceVersion task,
        Within latest s task.datasetUuid version

theorem Within.congr {datasetUuid : String} {version : Int} (dataset : t.db.dataset = s.db.dataset)
    (disk : t.disk = s.disk) (within : Within latest s datasetUuid version) :
    Within latest t datasetUuid version := by
  unfold Within
  rw [dataset, disk]
  exact within

theorem extract_congr {one two : Task} (same : one.request = two.request) :
    one.taskType = two.taskType ∧ one.datasetUuid = two.datasetUuid ∧
      IndexOptimizeExecutor.extractLanceVersion one =
        IndexOptimizeExecutor.extractLanceVersion two := by
  simp only [Task.request, Prod.mk.injEq] at same
  obtain ⟨-, type, dataset, params⟩ := same
  exact ⟨type, dataset, by simp only [IndexOptimizeExecutor.extractLanceVersion, params]⟩

namespace Quiet

theorem refl (s : Plant Disk) : Quiet latest s s :=
  ⟨rfl, rfl, fun _ => rfl, fun _ member _ => .inl (List.mem_map_of_mem member)⟩

theorem trans (one : Quiet latest s t) (two : Quiet latest t u) : Quiet latest s u := by
  refine ⟨two.dataset.trans one.dataset, two.disk.trans one.disk,
    fun id => (two.index id).trans (one.index id), fun task member type => ?_⟩
  rcases two.task task member type with old | within
  · obtain ⟨before, inT, same⟩ := List.mem_map.1 old
    obtain ⟨types, datasets, versions⟩ := extract_congr same
    rcases one.task before inT (types.trans type) with older | within
    · exact .inl (same ▸ older)
    · exact .inr (by rw [← datasets, ← versions]; exact within)
  · exact .inr fun version carried =>
      (within version carried).congr one.dataset.symm one.disk.symm

/-- Rows of other tables, and columns of tasks that are no request. -/
theorem of_requests {db : Database} (dataset : db.dataset = s.db.dataset)
    (index : ∀ id, (db.vectorIndex.get id).map seen = (s.db.vectorIndex.get id).map seen)
    (requests : db.task.rows.map Task.request = s.db.task.rows.map Task.request) :
    Quiet latest s { s with db } :=
  ⟨dataset, rfl, index, fun _ member _ => .inl (requests ▸ List.mem_map_of_mem member)⟩

/-- Tasks without a version, or with one of the dataset's table. -/
theorem of_appended {db : Database} {fresh : List Task} (dataset : db.dataset = s.db.dataset)
    (index : ∀ id, (db.vectorIndex.get id).map seen = (s.db.vectorIndex.get id).map seen)
    (rows : db.task.rows = s.db.task.rows ++ fresh)
    (versions : ∀ task ∈ fresh, task.taskType = .indexOptimize →
      ∀ version ∈ IndexOptimizeExecutor.extractLanceVersion task,
        Within latest s task.datasetUuid version) : Quiet latest s { s with db } := by
  refine ⟨dataset, rfl, index, fun task member type => ?_⟩
  simp only [rows] at member
  rcases List.mem_append.1 member with old | new
  · exact .inl (List.mem_map_of_mem old)
  · exact .inr (versions task new type)

theorem forward (quiet : Quiet latest s t) : Forward s.db t.db := by
  intro id index found version recorded
  have same := quiet.index id
  rw [Option.mem_def.1 found, Option.map_some] at same
  obtain ⟨later, got, columns⟩ := Option.map_eq_some_iff.1 same
  obtain ⟨-, versions⟩ := Prod.mk.inj columns
  exact ⟨later, got, version, versions ▸ recorded, Int.le_refl _⟩

theorem bounded (quiet : Quiet latest s t) (bounded : Bounded latest s) : Bounded latest t := by
  constructor
  · intro index member version recorded
    have same := quiet.index index.id
    rw [Table.get_of_mem member, Option.map_some] at same
    obtain ⟨before, got, columns⟩ := Option.map_eq_some_iff.1 same.symm
    obtain ⟨datasets, versions⟩ := Prod.mk.inj columns
    refine Within.congr quiet.dataset quiet.disk ?_
    rw [← datasets]
    exact bounded.rows before (Table.mem_of_get got) version (versions ▸ recorded)
  · intro task member type version carried
    refine Within.congr quiet.dataset quiet.disk ?_
    rcases quiet.task task member type with old | within
    · obtain ⟨before, inS, same⟩ := List.mem_map.1 old
      obtain ⟨types, datasets, versions⟩ := extract_congr same
      rw [← datasets]
      exact bounded.tasks before inS (types.trans type) version (versions ▸ carried)
    · exact within version carried

end Quiet

end Quiet

section Steps

variable {Disk : Type} {lance : Pylance Disk} {latest : Disk → String → Nat} {s : Plant Disk}

theorem quiet_call {op : Operation} (silent : op.submits = false) :
    Quiet latest s { s with db := op.apply s.db } := by
  have effect := effect_of_apply s.db op
  exact .of_requests effect.dataset (fun id => by rw [effect.vectorIndex])
    (effect.requests silent)

theorem versionless_of_params {task : Task} {params : JsonDict}
    (carried : task.params = some params)
    (none_ : Json.get? params "lance_version" = none) :
    ∀ version ∈ IndexOptimizeExecutor.extractLanceVersion task,
      Within latest s task.datasetUuid version := by
  intro version extracted
  simp [IndexOptimizeExecutor.extractLanceVersion, carried, none_] at extracted

/-- An INDEX_OPTIMIZE task of the planner names no version. -/
theorem versionless_of_mem_passDues {now : DateTime} {db : Database} {due : Due}
    (member : due ∈ LifecyclePlannerService.passDues now db)
    (type : due.taskType = .indexOptimize) :
    Json.get? due.params "lance_version" = none := by
  obtain ⟨policy, -, wanted⟩ := List.mem_flatMap.1 member
  unfold LifecyclePlannerService.policyDues at wanted
  cases found : db.dataset.get policy.datasetUuid with
  | none =>
      rw [found] at wanted
      cases wanted
  | some dataset =>
      rw [found] at wanted
      simp only [LifecyclePlannerService.dues, List.mem_append, List.mem_map] at wanted
      rcases wanted with ((inTtl | inCompaction) | inOptimize) | ⟨rule, -, rfl⟩
      · unfold LifecyclePlannerService.ttlDue at inTtl
        split at inTtl
        · cases inTtl
        · obtain rfl := List.mem_singleton.1 inTtl
          cases type
      · unfold LifecyclePlannerService.compactionDue at inCompaction
        split at inCompaction
        · cases inCompaction
        · cases inCompaction
        · obtain rfl := List.mem_singleton.1 inCompaction
          cases type
      · unfold LifecyclePlannerService.indexOptimizeDue at inOptimize
        split at inOptimize
        · obtain rfl := List.mem_singleton.1 inOptimize
          rfl
        · obtain ⟨index, -, rfl⟩ := List.mem_map.1 inOptimize
          rfl
      · cases type

theorem quiet_planOnce {principal : Option TenantPrincipal} {draw : Nat → String} {now : DateTime}
    {report : LifecyclePlannerService.PlannerTick} {after : Database}
    (ran : LifecyclePlannerService.planOnce draw now principal s.db = .ok (report, after)) :
    Quiet latest s { s with db := after } := by
  have index : after.vectorIndex = s.db.vectorIndex := by
    refine @LifecyclePlannerService.planOnce_keeps (fun db => db.vectorIndex = s.db.vectorIndex)
      _ _ ?_ (fun _ _ same => same) _ _ _ _ rfl ran
    intro db next dataset now' taskUuid taskType key params same _ inserted
    obtain ⟨table, -, rfl, -⟩ := TaskService.insertTask_eq_some inserted
    exact same
  obtain ⟨tick, tried, table, -, dataset⟩ := LifecyclePlannerService.planOnce_tried ran
  obtain ⟨fresh, rows, -, dueOf, -⟩ := tried.rows
  refine .of_appended dataset (fun id => by rw [index]) (by rw [table, rows])
    fun task member type => ?_
  obtain ⟨due, first, row, -⟩ := dueOf task member
  rw [row] at type
  exact versionless_of_params (by rw [row]; rfl)
    (versionless_of_mem_passDues (List.mem_of_find?_eq_some first) type)

theorem quiet_optimizeIndex {principal : Option TenantPrincipal} {draws : IndexService.Draws}
    {datasetUuid indexName : String} :
    Quiet latest s { s with
      db := (IndexService.optimizeIndex principal draws datasetUuid indexName s.db).2 } := by
  rcases ran : IndexService.optimizeIndex principal draws datasetUuid indexName s.db
    with ⟨answer, after⟩
  cases IndexService.optimizeIndex_effect ran with
  | nothing e => exact .refl s
  | @started index _ _ got ready submitted =>
      have flipped : ∀ id, ((s.db.vectorIndex.update index.id (Index.startOptimize draws.now)
          (Index.id_startOptimize draws.now)).get id).map seen =
            (s.db.vectorIndex.get id).map seen :=
        Table.map_get_update _ seen fun _ => rfl
      obtain ⟨caller, -, ⟨-, same, -⟩ | ⟨-, -, inserted⟩⟩ := TaskService.submitTask_cases submitted
      · rw [same]
        exact .of_requests rfl flipped rfl
      · obtain ⟨table, added, rows, -⟩ := TaskService.insertTask_eq_some inserted
        rw [rows]
        refine .of_appended rfl flipped (Table.insert?_eq_some added).1 fun task member _ => ?_
        obtain rfl := List.mem_singleton.1 member
        exact versionless_of_params rfl rfl
  | @failed index e got ready =>
      refine .of_requests rfl (fun id => ?_) rfl
      exact (Table.map_get_update (Index.id_giveUp .ready (draws.cause e)) seen (fun _ => rfl)
        id).trans
        (Table.map_get_update (Index.id_startOptimize draws.now) seen (fun _ => rfl) id)

/-- A signal carries the version of the table. -/
theorem version_of_signal (reads : Reads lance latest) {now : DateTime} {disk : Disk}
    {dataset : Dataset} {policy : LifecyclePolicy} {index : Index}
    {reason : IndexWatcherService.TriggerReason} {version : Nat}
    (fired : IndexWatcherService.signal lance now disk dataset policy index =
      some (reason, version)) : version = latest disk dataset.storageUri := by
  unfold IndexWatcherService.signal at fired
  split at fired
  · rename_i stats read
    obtain ⟨opened, latest_, live⟩ := LanceIo.readIndexStats_eq_ok read
    obtain ⟨_, -, same⟩ := Option.map_eq_some_iff.1 fired
    obtain ⟨-, rfl⟩ := Prod.mk.inj same
    rw [live stats rfl]
    exact reads _ _ _ latest_
  · cases fired

/-- A candidate of a watch pass is emitted with the version that was read for it. -/
theorem quiet_watchCandidate (reads : Reads lance latest) {draw : Nat → String} {now : DateTime}
    {disk : Disk} {watch after : IndexWatcherService.Watch}
    {candidate : IndexWatcherService.Candidate}
    (parent : watch.tick.db.dataset.get candidate.dataset.datasetUuid = some candidate.dataset)
    (ran : IndexWatcherService.watchCandidate lance draw now disk watch candidate = .ok after) :
    Quiet latest ⟨watch.tick.db, disk⟩ ⟨after.tick.db, disk⟩ := by
  obtain ⟨-, same, -⟩ | ⟨reason, version, decision, answer, fired, tried, rows, -⟩ :=
    IndexWatcherService.watchCandidate_outcome ran
  · rw [same]
    exact .refl _
  · rw [rows]
    unfold IndexWatcherService.tryEmitOptimizeTask at tried
    simp only at tried
    split at tried
    · cases tried
      exact .refl _
    · obtain ⟨next, emitted, tried⟩ := bind_eq_ok tried
      obtain rfl := Except.ok.inj tried
      obtain ⟨-, kept⟩ | ⟨-, -, inserted⟩ := tryEmit_cases emitted
      · rw [kept]
        exact .of_requests rfl
          (Table.map_get_update (IndexWatcherService.id_startOptimize now) seen fun _ => rfl) rfl
      · obtain ⟨table, added, written, -⟩ := TaskService.insertTask_eq_some inserted
        rw [written]
        refine .of_appended rfl
          (Table.map_get_update (IndexWatcherService.id_startOptimize now) seen fun _ => rfl)
          (Table.insert?_eq_some added).1 fun task member _ => ?_
        obtain rfl := List.mem_singleton.1 member
        intro carried extracted dataset found
        obtain rfl : (version : Int) = carried := Option.some.inj extracted
        obtain rfl := Option.some.inj (parent.symm.trans found)
        rw [version_of_signal reads fired]

theorem quiet_runWatchPass (reads : Reads lance latest) {principal : Option TenantPrincipal}
    {draw : Nat → String} {now : DateTime} {report : IndexWatcherService.WatchPassReport}
    {after : Database}
    (ran : IndexWatcherService.runWatchPass lance draw now principal s.db s.disk =
      .ok (report, after)) : Quiet latest s { s with db := after } := by
  obtain ⟨-, last, looped, rfl, -⟩ := IndexWatcherService.runWatchPass_eq_ok ran
  have loop : ∀ (candidates : List IndexWatcherService.Candidate)
      (watch : IndexWatcherService.Watch),
      (∀ candidate ∈ candidates, watch.tick.db.dataset.get candidate.dataset.datasetUuid =
        some candidate.dataset) →
      candidates.foldlM (IndexWatcherService.watchCandidate lance draw now s.disk) watch =
        .ok last → Quiet latest ⟨watch.tick.db, s.disk⟩ ⟨last.tick.db, s.disk⟩ := by
    intro candidates
    induction candidates with
    | nil =>
        intro watch _ done
        obtain rfl := Except.ok.inj done
        exact .refl _
    | cons candidate rest ih =>
        intro watch parents done
        obtain ⟨next, first, later⟩ := foldlM_cons_ok done
        have quiet : Quiet latest ⟨watch.tick.db, s.disk⟩ ⟨next.tick.db, s.disk⟩ :=
          quiet_watchCandidate reads (parents candidate List.mem_cons_self) first
        refine quiet.trans (ih next (fun other member => ?_) later)
        rw [quiet.dataset]
        exact parents other (List.mem_cons_of_mem _ member)
  refine loop _ _ (fun candidate member => ?_) looped
  have found := (IndexWatcherService.mem_fetchCandidates.1 member).2.2.1
  rw [Table.key_of_get found]
  exact found

end Steps

/-! ## Executions -/

section Executions

variable {Disk : Type} {lance : Pylance Disk} {latest : Disk → String → Nat} {s t : Plant Disk}
  {principal : Option TenantPrincipal} {context : ExecutorContext} {finishedAt : DateTime}
  {workerId : String} {task : Task}

/-- A committed execution that promoted the rows of a dataset to a version. -/
structure Promoted (s t : Plant Disk) (now : DateTime) (parent : Dataset)
    (seenVersion : Option Int) : Prop where
  dataset : t.db.dataset = s.db.dataset
  index : t.db.vectorIndex =
    (IndexOptimizeExecutor.promoteAll now seenVersion parent s.db).vectorIndex
  requests : t.db.task.rows.map Task.request = s.db.task.rows.map Task.request

theorem Quiet.finished {taskUuid : String} {assign : Task → Task}
    {keeps : ∀ task, (assign task).taskUuid = task.taskUuid} {written after : Database}
    (quiet : Quiet latest s ⟨written, s.disk⟩)
    (ran : SchedulerService.finishTask principal workerId taskUuid assign keeps written =
      .ok after) (same : ∀ task, (assign task).request = task.request) :
    Quiet latest s ⟨after, s.disk⟩ := by
  obtain ⟨dataset, index, requests⟩ := requests_finishTask ran same
  have finished : Quiet latest ⟨written, s.disk⟩ ⟨after, s.disk⟩ :=
    .of_requests dataset (fun id => by rw [index]) requests
  exact quiet.trans finished

/-- An execution writes no version, or it promotes rows: without lance to the version of the
task, with lance to the version of the table afterwards. -/
theorem dispatch_cases (reads : Reads lance latest)
    {iteration : LifecycleWorkerService.Iteration Disk}
    (ran : LifecycleWorkerService.dispatchAndFinalize principal context finishedAt
      (buildDefaultRegistry lance) workerId task s.db s.disk = iteration) :
    Quiet latest s ⟨iteration.db, s.disk⟩ ∨
      ∃ dataset seenVersion, s.db.dataset.get task.datasetUuid = some dataset ∧
        task.taskType = .indexOptimize ∧ requireSystemContext principal = true ∧
        Promoted s ⟨iteration.db, iteration.disk⟩ context.now dataset seenVersion ∧
        ((context.lanceStorageEndpoint = "" ∧
            seenVersion = IndexOptimizeExecutor.extractLanceVersion task) ∨
          (context.lanceStorageEndpoint ≠ "" ∧
            seenVersion = some (latest iteration.disk dataset.storageUri : Int))) := by
  rcases iteration with ⟨outcome, after, disk, handed⟩
  cases LifecycleWorkerService.dispatchAndFinalize_effect ran with
  | nothing => exact .inl (.refl s)
  | failed _ finished => exact .inl (Quiet.finished (.refl s) finished fun _ => rfl)
  | @succeeded written _ dataset executor payload _ found registered executed finished =>
      by_cases type : task.taskType = .indexOptimize
      · rw [type] at registered
        obtain rfl := Option.some.inj registered
        obtain ⟨optimized, answered, rows⟩ := IndexOptimizeExecutor.execute_eq_ok lance executed
        obtain ⟨datasets, index, requests⟩ := requests_finishTask finished fun _ => rfl
        have system := SchedulerService.system_of_finishTask finished
        refine .inr ⟨dataset, IndexOptimizeExecutor.seenVersion task optimized, found, type, system,
          ⟨?_, ?_, ?_⟩, ?_⟩
        · rw [datasets, rows]
          rfl
        · rw [index, rows]
        · rw [requests, rows]
          rfl
        · obtain ⟨stub, rfl, -⟩ | ⟨real, count, version, rfl, read⟩ :=
            IndexOptimizeExecutor.optimize_eq_ok lance answered
          · exact .inl ⟨stub, rfl⟩
          · refine .inr ⟨real, ?_⟩
            rw [← reads _ _ _ read]
            rfl
      · refine .inl (Quiet.finished ?_ finished fun _ => rfl)
        cases executed_of_registered registered executed with
        | ttlDelete | compaction | vectorize => exact .refl s
        | indexOptimize optimizes => exact absurd optimizes type
        | indexBuild =>
            exact .of_requests rfl
              (Table.map_get_update (IndexBuildExecutor.id_promote _) seen fun _ => rfl) rfl

/-- Without lance and under the system principal, an owned task promotes to its version. -/
theorem dispatch_stub {dataset : Dataset} (system : requireSystemContext principal = true)
    (stub : context.lanceStorageEndpoint = "") (inTable : s.db.task.get task.taskUuid = some task)
    (owned : task.runningOn workerId = true) (type : task.taskType = .indexOptimize)
    (found : s.db.dataset.get task.datasetUuid = some dataset) :
    (LifecycleWorkerService.dispatchAndFinalize principal context finishedAt
      (buildDefaultRegistry lance) workerId task s.db s.disk).db.vectorIndex =
        (IndexOptimizeExecutor.promoteAll context.now
          (IndexOptimizeExecutor.extractLanceVersion task) dataset s.db).vectorIndex := by
  have unowned : task.checkOwned workerId = .ok () := Task.checkOwned_eq_ok.2 owned
  have kept : ∀ version, (IndexOptimizeExecutor.promoteAll context.now version dataset
      s.db).task.get task.taskUuid = some task := fun _ => inTable
  simp [LifecycleWorkerService.dispatchAndFinalize, found, type, buildDefaultRegistry,
    indexOptimizeExecutor, IndexOptimizeExecutor.execute, IndexOptimizeExecutor.optimize, stub,
    IndexOptimizeExecutor.seenVersion, LifecycleWorkerService.succeeded,
    SchedulerService.completeTask, SchedulerService.finishTask, system, SchedulerService.getTask,
    kept, unowned, bind, Except.bind, pure, Except.pure, SchedulerService.decrementInFlight]

/-! ## Promotions -/

theorem get_promoteAll {now : DateTime} {seenVersion : Option Int} {parent : Dataset}
    {db : Database} (id : Nat) :
    (IndexOptimizeExecutor.promoteAll now seenVersion parent db).vectorIndex.get id =
      (db.vectorIndex.get id).map fun index =>
        if IndexOptimizeExecutor.awaiting parent index then
          IndexOptimizeExecutor.promote now seenVersion index
        else index := by
  simp only [IndexOptimizeExecutor.promoteAll, Table.get_modify]

/-- A promotion goes forward if and only if no promoted row has seen a later version. -/
theorem Promoted.forward_iff {now : DateTime} {parent : Dataset} {seenVersion : Option Int}
    {after : Database} (index : after.vectorIndex =
      (IndexOptimizeExecutor.promoteAll now seenVersion parent s.db).vectorIndex) :
    Forward s.db after ↔
      ∀ version ∈ seenVersion, ∀ index ∈ s.db.vectorIndex.rows,
        IndexOptimizeExecutor.awaiting parent index = true →
          ∀ seen ∈ index.lastSeenVersion, seen ≤ version := by
  constructor
  · intro forward version carried row member awaited seen recorded
    obtain ⟨later, got, newer, written, upTo⟩ :=
      forward row.id row (Table.get_of_mem member) seen recorded
    rw [index, get_promoteAll, Table.get_of_mem member] at got
    obtain rfl : IndexOptimizeExecutor.promote now seenVersion row = later := by
      simpa [awaited] using got
    obtain rfl := Option.mem_def.1 carried
    obtain rfl : version = newer := by simpa [IndexOptimizeExecutor.promote] using written
    exact upTo
  · intro inOrder id row found seen recorded
    have after_ := @get_promoteAll now seenVersion parent s.db id
    rw [Option.mem_def.1 found, ← index, Option.map_some] at after_
    refine ⟨_, after_, ?_⟩
    split
    · rename_i awaited
      cases carried : seenVersion with
      | none => exact ⟨seen, recorded, Int.le_refl _⟩
      | some version =>
          exact ⟨version, rfl,
            inOrder version carried row (Table.mem_of_get found) awaited seen recorded⟩
    · exact ⟨seen, recorded, Int.le_refl _⟩

/-- Tables grow. -/
def Grows (latest : Disk → String → Nat) (s t : Plant Disk) : Prop :=
  ∀ uri, latest s.disk uri ≤ latest t.disk uri

theorem Within.grows {datasetUuid : String} {version : Int} (dataset : t.db.dataset = s.db.dataset)
    (grows : Grows latest s t) (within : Within latest s datasetUuid version) :
    Within latest t datasetUuid version := by
  intro parent found
  rw [dataset] at found
  have upTo := within parent found
  have later := grows parent.storageUri
  omega

theorem Bounded.grows (dataset : t.db.dataset = s.db.dataset)
    (index : t.db.vectorIndex = s.db.vectorIndex) (task : t.db.task = s.db.task)
    (grows : Grows latest s t) (bounded : Bounded latest s) : Bounded latest t := by
  constructor
  · intro row member version recorded
    rw [index] at member
    exact (bounded.rows row member version recorded).grows dataset grows
  · intro row member type version carried
    rw [task] at member
    exact (bounded.tasks row member type version carried).grows dataset grows

theorem datasetUuid_of_awaiting {parent : Dataset} {row : Index}
    (awaited : IndexOptimizeExecutor.awaiting parent row = true) :
    row.datasetUuid = parent.datasetUuid := by
  simp [IndexOptimizeExecutor.awaiting] at awaited
  exact awaited.1

theorem Promoted.bounded {now : DateTime} {parent : Dataset} {seenVersion : Option Int}
    (promoted : Promoted s t now parent seenVersion) (grows : Grows latest s t)
    (within : ∀ version ∈ seenVersion, Within latest t parent.datasetUuid version)
    (bounded : Bounded latest s) : Bounded latest t := by
  constructor
  · intro row member version recorded
    rw [promoted.index] at member
    obtain ⟨before, inTable, rfl⟩ := List.mem_map.1 member
    split at recorded
    · rename_i awaited
      have belongs := datasetUuid_of_awaiting awaited
      have owner : (if IndexOptimizeExecutor.awaiting parent before then
          IndexOptimizeExecutor.promote now seenVersion before else before).datasetUuid =
            before.datasetUuid := by
        split <;> rfl
      rw [owner]
      cases carried : seenVersion with
      | none =>
          rw [carried] at recorded
          exact (bounded.rows before inTable version recorded).grows promoted.dataset grows
      | some pinned =>
          rw [carried] at recorded
          obtain rfl := Option.some.inj recorded
          rw [belongs]
          exact within pinned carried
    · rename_i unawaited
      rw [if_neg unawaited]
      exact (bounded.rows before inTable version recorded).grows promoted.dataset grows
  · intro task member type version carried
    have listed := List.mem_map_of_mem (f := Task.request) member
    rw [promoted.requests] at listed
    obtain ⟨before, inTable, same⟩ := List.mem_map.1 listed
    obtain ⟨types, datasets, versions⟩ := extract_congr same
    rw [← datasets]
    exact (bounded.tasks before inTable (types.trans type) version (versions ▸ carried)).grows
      promoted.dataset grows

theorem bounded_dispatch (reads : Reads lance latest) (bounded : Bounded latest s)
    (claimed : s.db.task.get task.taskUuid = some task)
    {iteration : LifecycleWorkerService.Iteration Disk}
    (ran : LifecycleWorkerService.dispatchAndFinalize principal context finishedAt
      (buildDefaultRegistry lance) workerId task s.db s.disk = iteration)
    (grows : Grows latest s ⟨iteration.db, iteration.disk⟩) :
    Bounded latest ⟨iteration.db, iteration.disk⟩ := by
  rcases dispatch_cases reads ran with quiet | ⟨parent, pinned, found, type, -, promoted, mode⟩
  · have kept : Bounded latest ⟨iteration.db, s.disk⟩ := quiet.bounded bounded
    exact kept.grows (s := ⟨iteration.db, s.disk⟩) (t := ⟨iteration.db, iteration.disk⟩)
      rfl rfl rfl grows
  · refine promoted.bounded grows (fun version carried => ?_) bounded
    rw [Table.key_of_get found]
    rcases mode with ⟨-, rfl⟩ | ⟨-, rfl⟩
    · exact (bounded.tasks task (Table.mem_of_get claimed) type version carried).grows
        promoted.dataset grows
    · obtain rfl := Option.some.inj carried
      intro dataset same
      rw [promoted.dataset, found] at same
      obtain rfl := Option.some.inj same
      exact Int.le_refl _

/-- With lance an execution pins the version after it, and no row has a later one. -/
theorem forward_of_lance (reads : Reads lance latest) (bounded : Bounded latest s)
    {iteration : LifecycleWorkerService.Iteration Disk}
    (ran : LifecycleWorkerService.dispatchAndFinalize principal context finishedAt
      (buildDefaultRegistry lance) workerId task s.db s.disk = iteration)
    (grows : Grows latest s ⟨iteration.db, iteration.disk⟩)
    (real : ¬ (requireSystemContext principal = true ∧ context.lanceStorageEndpoint = "" ∧
      task.taskType = .indexOptimize)) : Forward s.db iteration.db := by
  rcases dispatch_cases reads ran with
    quiet | ⟨parent, pinned, found, type, system, promoted, mode⟩
  · exact quiet.forward
  · obtain ⟨without, -⟩ | ⟨-, rfl⟩ := mode
    · exact absurd ⟨system, without, type⟩ real
    · rw [Promoted.forward_iff promoted.index]
      intro version carried row member awaited seen recorded
      obtain rfl := Option.some.inj carried
      have belongs := datasetUuid_of_awaiting awaited
      have upTo := bounded.rows row member seen recorded parent (by
        rw [belongs, Table.key_of_get found]
        exact found)
      have later := grows parent.storageUri
      simp only at later
      omega

/-- An execution keeps the bound, and it goes forward if and only if it is in order. -/
theorem forward_dispatch_iff (reads : Reads lance latest) {taskUuid : String}
    (bounded : Bounded latest s) (grows : Grows latest s t)
    (stepped : (optimizing lance).step s
      (.dispatch principal context finishedAt workerId taskUuid) = some t) :
    Bounded latest t ∧
      (Forward s.db t.db ↔
        InOrder s (.dispatch principal context finishedAt workerId taskUuid)) := by
  change (match s.db.task.get taskUuid with
    | none => none
    | some task => _) = some t at stepped
  cases claimed : s.db.task.get taskUuid with
  | none =>
      rw [claimed] at stepped
      cases stepped
  | some task =>
      rw [claimed] at stepped
      simp only at stepped
      split at stepped
      · rename_i owned
        obtain rfl := Table.key_of_get claimed
        obtain rfl := Option.some.inj stepped
        generalize ran : LifecycleWorkerService.dispatchAndFinalize principal context finishedAt
          (buildDefaultRegistry lance) workerId task s.db s.disk = iteration at grows ⊢
        refine ⟨bounded_dispatch reads bounded claimed ran grows, ?_⟩
        by_cases stub : requireSystemContext principal = true ∧
          context.lanceStorageEndpoint = "" ∧ task.taskType = .indexOptimize
        · obtain ⟨system, stub, type⟩ := stub
          cases found : s.db.dataset.get task.datasetUuid with
          | none =>
              refine iff_of_true ?_ ?_
              · rcases dispatch_cases reads ran with quiet | ⟨parent, pinned, got, -⟩
                · exact quiet.forward
                · rw [found] at got
                  cases got
              · intro _ _ other same _ version _ dataset got
                obtain rfl := Option.some.inj (claimed.symm.trans same)
                rw [found] at got
                cases got
          | some dataset =>
              have pinned := @dispatch_stub _ lance s principal context finishedAt workerId task
                dataset system stub claimed owned type found
              rw [ran] at pinned
              rw [Promoted.forward_iff pinned]
              constructor
              · intro inOrder _ _ other same _ version carried parent got
                obtain rfl := Option.some.inj (claimed.symm.trans same)
                obtain rfl := Option.some.inj (found.symm.trans got)
                exact inOrder version carried
              · intro inOrder version carried
                exact inOrder system stub task claimed type version carried dataset found
        · refine iff_of_true (forward_of_lance reads bounded ran grows stub) ?_
          intro system without other same type
          obtain rfl := Option.some.inj (claimed.symm.trans same)
          exact absurd ⟨system, without, type⟩ stub
      · cases stepped

theorem step_exact (reads : Reads lance latest) {a : Action Disk} (bounded : Bounded latest s)
    (grows : Grows latest s t) (stepped : (optimizing lance).step s a = some t) :
    Bounded latest t ∧ (Forward s.db t.db ∧ RowsWithin latest t ↔ InOrder s a) := by
  have ofQuiet : Quiet latest s t → InOrder s a →
      Bounded latest t ∧ (Forward s.db t.db ∧ RowsWithin latest t ↔ InOrder s a) :=
    fun quiet inOrder =>
      have next := quiet.bounded bounded
      ⟨next, iff_of_true ⟨quiet.forward, next.rows⟩ inOrder⟩
  have same : ∀ {after : Plant Disk}, after.db.vectorIndex = s.db.vectorIndex →
      Forward s.db after.db := by
    intro after rows id index found version recorded
    exact ⟨index, rows ▸ found, version, recorded, Int.le_refl _⟩
  cases a with
  | runWatchPass principal draw now =>
      simp only [optimizing, step] at stepped
      split at stepped <;> obtain rfl := Option.some.inj stepped
      · rename_i ran
        exact ofQuiet (quiet_runWatchPass reads ran) trivial
      · exact ofQuiet (.refl s) trivial
  | optimizeIndex principal draws datasetUuid indexName =>
      obtain rfl := Option.some.inj stepped
      exact ofQuiet quiet_optimizeIndex trivial
  | planOnce principal draw now =>
      simp only [optimizing, step] at stepped
      split at stepped <;> obtain rfl := Option.some.inj stepped
      · rename_i ran
        exact ofQuiet (quiet_planOnce ran) trivial
      · exact ofQuiet (.refl s) trivial
  | call op =>
      simp only [optimizing, step] at stepped
      split at stepped
      · cases stepped
      · rename_i silent
        obtain rfl := Option.some.inj stepped
        exact ofQuiet (quiet_call (by simpa using silent)) trivial
  | dispatch principal context finishedAt workerId taskUuid =>
      obtain ⟨next, exact_⟩ := forward_dispatch_iff reads bounded grows stepped
      exact ⟨next, (and_iff_left next.rows).trans exact_⟩
  | tables disk =>
      obtain rfl := Option.some.inj stepped
      have next : Bounded latest { s with disk } :=
        bounded.grows (s := s) (t := { s with disk }) rfl rfl rfl grows
      exact ⟨next, iff_of_true ⟨same rfl, next.rows⟩ trivial⟩
  | elsewhere others =>
      obtain rfl := Option.some.inj stepped
      refine ofQuiet (.of_requests rfl (fun _ => rfl) rfl) trivial

/-- **Seen versions go forward and stay below the table's, if and only if no stub execution is
older than a row that it promotes.**  Where the versions of the tables do not decrease. -/
theorem versions_forward_iff (reads : Reads lance latest) (start : Bounded latest s)
    {actions : List (Action Disk)}
    (grows : (optimizing lance).Along (fun s _ t => Grows latest s t) s actions) :
    (optimizing lance).Along (fun s _ t => Forward s.db t.db ∧ RowsWithin latest t) s actions ↔
      (optimizing lance).Guarded InOrder s actions :=
  Machine.along_iff_guarded
    (fun s a t bounded grows stepped =>
      @step_exact _ lance latest s t reads a bounded grows stepped)
    start grows

end Executions

section Examples

/-- A table of which only the version is known; rows come into the second index later. -/
private def growing : Pylance Nat where
  latestVersion version _ := .ok version
  indexStatistics version _ indexName :=
    some (some (if indexName = "title_idx" ∨ 9 ≤ version then 5000 else 0))
  listIndices _ _ := ["title_idx", "body_idx"]
  optimizeIndices version _ := .ok (version + 1)
  delete version _ _ := .ok version
  countRows _ _ := 0
  createIndex version _ _ _ _ _ := .ok version

private def embedded (id : Nat) (indexName columnName : String) : Index where
  id
  datasetUuid := "d1"
  indexName
  columnName
  indexType := "IVF_PQ"
  status := .ready

private def twoReady : Plant Nat where
  db :=
    { dataset :=
        .single
          { datasetUuid := "d1", catalog := "lake", dbSchema := "acme", tableName := "events",
            storageUri := "s3://acme/events", tenantId := "acme" }
      vectorIndex :=
        ⟨[embedded 1 "title_idx" "title_emb", embedded 2 "body_idx" "body_emb"], by decide⟩
      lifecyclePolicy :=
        .single
          { id := 1, datasetUuid := "d1", policyName := "watch", indexWatchEnabled := true,
            indexWatchMinUnindexedRows := some 1000, indexWatchMinVersionDrift := none,
            indexWatchStaleMinutes := none }
      workerRegistry :=
        .single
          { workerId := "w1", workerType := "generic", leaseId := "l1", capacity := 2,
            lastHeartbeatAt := 0 } }
  disk := 5

/-- One task at version 5 and one at version 9, both claimed. -/
private def twoClaimed : List (Action Nat) :=
  [ .runWatchPass daemonContext (fun n => "older" ++ toString n) 1,
    .call (.claimNextTask daemonContext 2 "w1" "l1" none),
    .tables 9,
    .runWatchPass daemonContext (fun n => "newer" ++ toString n) 3,
    .call (.claimNextTask daemonContext 4 "w1" "l1" none) ]

private def stubRun (taskUuid : String) : Action Nat :=
  .dispatch daemonContext { lanceStorageEndpoint := "", now := 5 } 6 "w1" taskUuid

private theorem growing_reads : Reads growing fun version _ => version := by
  intro disk uri version read
  exact (Except.ok.inj read).symm

private theorem twoReady_bounded : Bounded (fun version _ => version) twoReady := by
  constructor
  · intro index member version recorded
    simp only [twoReady, List.mem_cons, List.not_mem_nil, or_false] at member
    rcases member with rfl | rfl <;> cases recorded
  · intro task member
    cases member

private theorem grows_of_disk {s : Plant Nat} {actions : List (Action Nat)}
    (grows : (optimizing growing).Along (fun s _ t => s.disk ≤ t.disk) s actions) :
    (optimizing growing).Along (fun s _ t => Grows (fun version _ => version) s t) s actions :=
  grows.mono fun _ _ _ upTo _ => upTo

/-- The older task runs first: both rows go to version 5. -/
theorem older_first_forward :
    (optimizing growing).Along
      (fun s _ t => Forward s.db t.db ∧ RowsWithin (fun version _ => version) t) twoReady
      (twoClaimed ++ [stubRun "older0", stubRun "newer0"]) :=
  (versions_forward_iff growing_reads twoReady_bounded
    (grows_of_disk (by decide +kernel))).2 (by
      unfold Machine.Guarded
      decide +kernel)

/-- The younger task runs first, and a request makes the first index OPTIMIZING again: the older
task takes it from version 9 back to version 5. -/
theorem older_last_goes_back :
    Bounded (fun version _ => version) twoReady ∧
      (optimizing growing).Along (fun s _ t => Grows (fun version _ => version) s t) twoReady
        (twoClaimed ++ [stubRun "newer0", .optimizeIndex acmeSdk ⟨7, "asked", fun _ => ""⟩ "d1"
          "title_idx", stubRun "older0"]) ∧
      ¬ (optimizing growing).Along (fun s _ t => Forward s.db t.db) twoReady
        (twoClaimed ++ [stubRun "newer0", .optimizeIndex acmeSdk ⟨7, "asked", fun _ => ""⟩ "d1"
          "title_idx", stubRun "older0"]) := by
  refine ⟨twoReady_bounded, grows_of_disk (by decide +kernel), fun along => ?_⟩
  -- the version of the first row, read off every state
  have first : (optimizing growing).Along (fun s _ t =>
      ∀ index ∈ s.db.vectorIndex.get 1, ∀ version ∈ index.lastSeenVersion,
        ∃ later ∈ t.db.vectorIndex.get 1, ∃ newer ∈ later.lastSeenVersion, version ≤ newer)
      twoReady _ := along.mono fun s _ t forward => forward 1
  revert first
  decide +kernel

end Examples

end Lcp.SeenVersions
