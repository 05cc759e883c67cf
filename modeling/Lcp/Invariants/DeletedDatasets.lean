/-
# Invariants.DeletedDatasets -- who still works on a deleted dataset

Soft deletion is honoured by one lookup, `get_dataset`.  The services under a
dataset go through it.  `submit_task` takes the dataset from its arguments, the
planner reads the `dataset` table by key and the watcher joins it, each without a
look at the status.  A run is quiet about DELETED datasets when no submission
names one, no policy of one is due, and no watched index of one is due.
-/
import Lcp.Services.IndexService
import Lcp.Services.IndexWatcherPass
import Lcp.Services.PlannerDue
import Lcp.Services.VectorizationService
import Lcp.Theory.Machine

namespace Lcp.DeletedDatasets

open Theory

set_option autoImplicit false

/-- The dataset's status is DELETED. -/
def Deleted (db : Database) (datasetUuid : String) : Prop :=
  ∃ dataset ∈ db.dataset.rows, dataset.datasetUuid = datasetUuid ∧ dataset.status = .deleted

instance (db : Database) (datasetUuid : String) : Decidable (Deleted db datasetUuid) :=
  inferInstanceAs (Decidable (∃ dataset ∈ db.dataset.rows,
    dataset.datasetUuid = datasetUuid ∧ dataset.status = .deleted))

/-- A DELETED dataset stays DELETED, gets no task, and its index rows are left alone. -/
structure Quiet (before after : Database) : Prop where
  stays : ∀ dataset ∈ before.dataset.rows, dataset.status = .deleted →
    Deleted after dataset.datasetUuid
  tasks : ∀ task ∈ after.task.rows, Deleted before task.datasetUuid → task ∈ before.task.rows
  indexes : ∀ index ∈ before.vectorIndex.rows, Deleted before index.datasetUuid →
    index ∈ after.vectorIndex.rows

instance (before after : Database) : Decidable (Quiet before after) :=
  decidable_of_iff
    ((∀ dataset ∈ before.dataset.rows, dataset.status = .deleted →
        Deleted after dataset.datasetUuid) ∧
      (∀ task ∈ after.task.rows, Deleted before task.datasetUuid → task ∈ before.task.rows) ∧
      ∀ index ∈ before.vectorIndex.rows, Deleted before index.datasetUuid →
        index ∈ after.vectorIndex.rows)
    ⟨fun ⟨stays, tasks, indexes⟩ => ⟨stays, tasks, indexes⟩,
      fun quiet => ⟨quiet.stays, quiet.tasks, quiet.indexes⟩⟩

/-! ## Runs -/

inductive Action (Disk : Type) where
  | createDataset (principal : Option TenantPrincipal) (datasetUuid : String)
      (payload : DatasetRegisterRequest)
  | deleteDataset (principal : Option TenantPrincipal) (datasetUuid : String)
  | createIndex (principal : Option TenantPrincipal) (draws : IndexService.Draws) (newId : Nat)
      (args : IndexService.Creation)
  | dropIndex (principal : Option TenantPrincipal) (datasetUuid indexName : String)
  | optimizeIndex (principal : Option TenantPrincipal) (draws : IndexService.Draws)
      (datasetUuid indexName : String)
  | mergeIndex (principal : Option TenantPrincipal) (now : DateTime)
      (datasetUuid indexName : String)
  | submitVectorizeTask (principal : Option TenantPrincipal) (now : DateTime)
      (taskUuid datasetUuid targetColumn : String)
  /-- A policy or a rule is created, edited or removed. -/
  | configure (policies : Table LifecyclePolicy LifecyclePolicy.id)
      (rules : Table VectorizationRule VectorizationRule.id)
  | submitTask (principal : Option TenantPrincipal) (now : DateTime) (taskUuid : String)
      (args : TaskService.Submission)
  | planOnce (principal : Option TenantPrincipal) (draw : Nat → String) (now : DateTime)
  | runWatchPass (principal : Option TenantPrincipal) (draw : Nat → String) (now : DateTime)
      (disk : Disk)

section Runs

variable {Disk : Type} (lance : Pylance Disk)

/-- The rows after an action; a call that raises before it wrote leaves them alone. -/
def act (db : Database) : Action Disk → Database
  | .createDataset principal datasetUuid payload =>
      match DatasetService.createDataset principal datasetUuid payload db with
      | .ok (_, after) => after
      | .error _ => db
  | .deleteDataset principal datasetUuid =>
      match DatasetService.deleteDataset principal datasetUuid db with
      | .ok after => after
      | .error _ => db
  | .createIndex principal draws newId args =>
      (IndexService.createIndex principal draws newId args db).2
  | .dropIndex principal datasetUuid indexName =>
      match IndexService.dropIndex principal datasetUuid indexName db with
      | .ok after => after
      | .error _ => db
  | .optimizeIndex principal draws datasetUuid indexName =>
      (IndexService.optimizeIndex principal draws datasetUuid indexName db).2
  | .mergeIndex principal now datasetUuid indexName =>
      match IndexService.mergeIndex principal now datasetUuid indexName db with
      | .ok after => after
      | .error _ => db
  | .submitVectorizeTask principal now taskUuid datasetUuid targetColumn =>
      match VectorizationService.submitVectorizeTask principal now taskUuid datasetUuid
          targetColumn db with
      | .ok (_, after) => after
      | .error _ => db
  | .configure policies rules => { db with lifecyclePolicy := policies, vectorizationRule := rules }
  | .submitTask principal now taskUuid args =>
      match TaskService.submitTask principal now taskUuid args db with
      | .ok (_, after) => after
      | .error _ => db
  | .planOnce principal draw now =>
      match LifecyclePlannerService.planOnce draw now principal db with
      | .ok (_, after) => after
      | .error _ => db
  | .runWatchPass principal draw now disk =>
      match IndexWatcherService.runWatchPass lance draw now principal db disk with
      | .ok (_, after) => after
      | .error _ => db

/-- Runs of the producers of tasks and the services that edit what they read. -/
def producers : Machine Database (Action Disk) where
  step db action := some (act lance db action)

/-- The action wants nothing done for a DELETED dataset. -/
def Harmless (db : Database) : Action Disk → Prop
  | .submitTask principal _ _ args => ∀ caller ∈ principal,
      ((TaskService.scopedKey caller args.idempotencyKey).bind fun key =>
        TaskService.findByKey caller key db) = none → ¬ Deleted db args.datasetUuid
  | .planOnce principal _ now => requireSystemContext principal = true →
      ∀ policy ∈ LifecyclePlannerService.fetchEnabledPolicies db,
        ∀ dataset ∈ db.dataset.get policy.datasetUuid, dataset.status = .deleted →
          ∀ due ∈ LifecyclePlannerService.dues now policy dataset db,
            Emission.taken due.key db = true
  | .runWatchPass principal _ now disk => requireSystemContext principal = true →
      ∀ candidate ∈ IndexWatcherService.fetchCandidates db,
        candidate.dataset.status = .deleted →
          IndexWatcherService.due lance now disk db candidate = false
  | _ => True

instance (db : Database) : (action : Action Disk) → Decidable (Harmless lance db action)
  | .submitTask principal _ _ args =>
      inferInstanceAs (Decidable (∀ caller ∈ principal,
        ((TaskService.scopedKey caller args.idempotencyKey).bind fun key =>
          TaskService.findByKey caller key db) = none → ¬ Deleted db args.datasetUuid))
  | .planOnce principal _ now =>
      inferInstanceAs (Decidable (requireSystemContext principal = true →
        ∀ policy ∈ LifecyclePlannerService.fetchEnabledPolicies db,
          ∀ dataset ∈ db.dataset.get policy.datasetUuid, dataset.status = .deleted →
            ∀ due ∈ LifecyclePlannerService.dues now policy dataset db,
              Emission.taken due.key db = true))
  | .runWatchPass principal _ now disk =>
      inferInstanceAs (Decidable (requireSystemContext principal = true →
        ∀ candidate ∈ IndexWatcherService.fetchCandidates db,
          candidate.dataset.status = .deleted →
            IndexWatcherService.due lance now disk db candidate = false))
  | .createDataset .. | .deleteDataset .. | .createIndex .. | .dropIndex ..
  | .optimizeIndex .. | .mergeIndex .. | .submitVectorizeTask .. | .configure .. => isTrue trivial

end Runs

/-! ## Quiet changes -/

theorem deleted_congr {before after : Database} (same : after.dataset = before.dataset)
    {datasetUuid : String} : Deleted after datasetUuid ↔ Deleted before datasetUuid := by
  unfold Deleted
  rw [same]

theorem Quiet.refl (db : Database) : Quiet db db :=
  ⟨fun dataset member deleted => ⟨dataset, member, rfl, deleted⟩, fun _ member _ => member,
    fun _ member _ => member⟩

theorem Quiet.deleted {before after : Database} (quiet : Quiet before after)
    {datasetUuid : String} (deleted : Deleted before datasetUuid) : Deleted after datasetUuid := by
  obtain ⟨dataset, member, rfl, status⟩ := deleted
  exact quiet.stays dataset member status

theorem Quiet.trans {a b c : Database} (first : Quiet a b) (second : Quiet b c) : Quiet a c where
  stays dataset member status := second.deleted (first.stays dataset member status)
  tasks task member deleted :=
    first.tasks task (second.tasks task member (first.deleted deleted)) deleted
  indexes index member deleted :=
    second.indexes index (first.indexes index member deleted) (first.deleted deleted)

/-- A change that leaves datasets and indexes alone and adds no task of a DELETED one. -/
theorem quiet_of_tasks {before after : Database} (dataset : after.dataset = before.dataset)
    (index : after.vectorIndex = before.vectorIndex)
    (tasks : ∀ task ∈ after.task.rows, Deleted before task.datasetUuid →
      task ∈ before.task.rows) : Quiet before after where
  stays _ member status := (deleted_congr dataset).2 ⟨_, member, rfl, status⟩
  tasks := tasks
  indexes _ member _ := index ▸ member

/-- A change that leaves datasets and tasks alone and keeps the index rows of DELETED ones. -/
theorem quiet_of_indexes {before after : Database} (dataset : after.dataset = before.dataset)
    (task : after.task = before.task)
    (indexes : ∀ index ∈ before.vectorIndex.rows, Deleted before index.datasetUuid →
      index ∈ after.vectorIndex.rows) : Quiet before after where
  stays _ member status := (deleted_congr dataset).2 ⟨_, member, rfl, status⟩
  tasks _ member _ := task ▸ member
  indexes := indexes

theorem quiet_insert {before after : Database} {row : Task}
    (alive : ¬ Deleted before row.datasetUuid)
    (inserted : TaskService.insertTask row before = some after) : Quiet before after := by
  obtain ⟨table, added, rfl, -⟩ := TaskService.insertTask_eq_some inserted
  refine quiet_of_tasks rfl rfl fun task member deleted => ?_
  rcases (Table.mem_insert? added).1 member with old | rfl
  · exact old
  · exact absurd deleted alive

theorem quiet_update {db : Database} {id : Nat} {assign : Index → Index}
    {keeps : ∀ index, (assign index).id = index.id}
    (alive : ∀ index ∈ db.vectorIndex.rows, index.id = id → ¬ Deleted db index.datasetUuid) :
    Quiet db (IndexService.updateIndex id assign keeps db) := by
  refine quiet_of_indexes rfl rfl fun index member deleted => ?_
  exact Table.mem_update_of_ne member fun same => alive index member same deleted

theorem quiet_submit {principal : Option TenantPrincipal} {now : DateTime} {taskUuid : String}
    {args : TaskService.Submission} {db after : Database} {answer : Task × Bool}
    (alive : ¬ Deleted db args.datasetUuid)
    (ran : TaskService.submitTask principal now taskUuid args db = .ok (answer, after)) :
    Quiet db after := by
  obtain ⟨caller, -, ⟨-, rfl, -⟩ | ⟨-, -, inserted⟩⟩ := TaskService.submitTask_cases ran
  · exact .refl after
  · exact quiet_insert alive inserted

/-- What the guard lets through is not DELETED. -/
theorem alive_of_guard {principal : Option TenantPrincipal} {db : Database} {dataset : Dataset}
    {datasetUuid : String}
    (guard : DatasetService.getDataset principal datasetUuid db = .ok dataset) :
    ¬ Deleted db datasetUuid := by
  obtain ⟨found, alive, -⟩ := DatasetService.getDataset_eq_ok guard
  rintro ⟨other, member, same, deleted⟩
  obtain rfl : other = dataset := Table.eq_of_key_eq member (Table.mem_of_get found)
    (same.trans (Table.key_of_get found).symm)
  exact alive deleted

/-- Assigning to an index that was reached through the guard. -/
theorem quiet_getIndex {principal : Option TenantPrincipal} {db : Database} {index : Index}
    {datasetUuid indexName : String} {assign : Index → Index}
    {keeps : ∀ index, (assign index).id = index.id}
    (got : IndexService.getIndex principal datasetUuid indexName db = .ok index) :
    Quiet db (IndexService.updateIndex index.id assign keeps db) := by
  obtain ⟨⟨dataset, guard⟩, found⟩ := IndexService.getIndex_eq_ok got
  obtain ⟨member, owner, -⟩ := IndexService.maybeGetIndex_eq_some found
  refine quiet_update fun other inTable same => ?_
  obtain rfl : other = index := Table.eq_of_key_eq inTable member same
  exact owner ▸ alive_of_guard guard

/-! ## The services under a dataset -/

theorem quiet_createDataset {principal : Option TenantPrincipal} {datasetUuid : String}
    {payload : DatasetRegisterRequest} {db after : Database} {answer : Dataset}
    (ran : DatasetService.createDataset principal datasetUuid payload db = .ok (answer, after)) :
    Quiet db after := by
  obtain ⟨caller, table, -, -, added, rfl⟩ := DatasetService.createDataset_cases ran
  refine ⟨fun dataset member status => ?_, fun _ member _ => member, fun _ member _ => member⟩
  exact ⟨dataset, (Table.mem_insert? added).2 (.inl member), rfl, status⟩

theorem quiet_deleteDataset {principal : Option TenantPrincipal} {datasetUuid : String}
    {db after : Database}
    (ran : DatasetService.deleteDataset principal datasetUuid db = .ok after) :
    Quiet db after := by
  obtain ⟨-, -, rfl⟩ := DatasetService.deleteDataset_cases ran
  refine ⟨fun dataset member status => ?_, fun _ member _ => member, fun _ member _ => member⟩
  by_cases same : dataset.datasetUuid = datasetUuid
  · exact ⟨dataset.softDelete, Table.mem_update_self member same, rfl, rfl⟩
  · exact ⟨dataset, Table.mem_update_of_ne member same, rfl, status⟩

/-- The row of a name that `create_index` reuses is not one of a DELETED dataset. -/
theorem quiet_clearName {args : IndexService.Creation} {db : Database}
    (alive : ¬ Deleted db args.datasetUuid) : Quiet db (IndexService.clearName args db) := by
  unfold IndexService.clearName
  split
  · split
    · exact .refl db
    · rename_i existing found
      obtain ⟨inTable, owner, -⟩ := IndexService.maybeGetIndex_eq_some found
      refine quiet_of_indexes rfl rfl fun index member deleted => Table.mem_delete.2 ⟨member, ?_⟩
      have differ : index.id ≠ existing.id := by
        intro same
        obtain rfl : index = existing := Table.eq_of_key_eq member inTable same
        exact alive (owner ▸ deleted)
      simpa using differ
  · exact .refl db

theorem quiet_insertIndex {row : Index} {db after : Database}
    (inserted : IndexService.insertIndex row db = some after) : Quiet db after := by
  obtain ⟨-, table, added, rfl⟩ := IndexService.insertIndex_eq_some inserted
  exact quiet_of_indexes rfl rfl fun index member _ => (Table.mem_insert? added).2 (.inl member)

theorem quiet_createIndex {principal : Option TenantPrincipal} {draws : IndexService.Draws}
    {newId : Nat} {args : IndexService.Creation} {db after : Database}
    {answer : Except IndexError Index}
    (ran : IndexService.createIndex principal draws newId args db = (answer, after)) :
    Quiet db after := by
  cases IndexService.createIndex_effect ran with
  | nothing e => exact .refl db
  | @created dataset inserted after answer guard row submitted =>
      have alive := alive_of_guard guard
      have sameDataset : inserted.dataset = db.dataset := by
        obtain ⟨-, table, -, rows⟩ := IndexService.insertIndex_eq_some row
        rw [rows]
        exact IndexService.dataset_clearName args db
      exact (quiet_clearName alive).trans <| (quiet_insertIndex row).trans <|
        quiet_submit (fun deleted => alive ((deleted_congr sameDataset).1 deleted)) submitted
  | @failed dataset inserted e guard row submitted =>
      have alive := alive_of_guard guard
      obtain ⟨-, table, added, rows⟩ := IndexService.insertIndex_eq_some row
      have sameDataset : inserted.dataset = db.dataset := by
        rw [rows]
        exact IndexService.dataset_clearName args db
      refine (quiet_clearName alive).trans <| (quiet_insertIndex row).trans <|
        quiet_update fun index member same deleted => ?_
      have isNew : index = args.row newId := by
        have newRow : args.row newId ∈ inserted.vectorIndex.rows := by
          rw [rows]
          exact (Table.mem_insert? added).2 (.inr rfl)
        exact Table.eq_of_key_eq member newRow same
      rw [isNew] at deleted
      exact alive ((deleted_congr sameDataset).1 deleted)

theorem quiet_optimizeIndex {principal : Option TenantPrincipal} {draws : IndexService.Draws}
    {datasetUuid indexName : String} {db after : Database} {answer : Except IndexError Index}
    (ran : IndexService.optimizeIndex principal draws datasetUuid indexName db =
      (answer, after)) : Quiet db after := by
  cases IndexService.optimizeIndex_effect ran with
  | nothing e => exact .refl db
  | started got ready submitted =>
      obtain ⟨⟨dataset, guard⟩, -⟩ := IndexService.getIndex_eq_ok got
      exact (quiet_getIndex got).trans (quiet_submit (alive_of_guard guard) submitted)
  | @failed index e got ready =>
      obtain ⟨⟨dataset, guard⟩, found⟩ := IndexService.getIndex_eq_ok got
      obtain ⟨inTable, owner, -⟩ := IndexService.maybeGetIndex_eq_some found
      refine (quiet_getIndex got).trans (quiet_update fun other member same deleted => ?_)
      have isFlipped : other = index.startOptimize draws.now :=
        Table.eq_of_key_eq member (Table.mem_update_self inTable rfl) same
      rw [isFlipped] at deleted
      exact alive_of_guard guard (owner ▸ deleted)

/-! ## The passes -/

section Passes

variable {Disk : Type} {lance : Pylance Disk}

/-- What a planner pass keeps while nothing is due for DELETED datasets. -/
structure Idle (start db : Database) : Prop where
  quiet : Quiet start db
  dataset : db.dataset = start.dataset
  vectorIndex : db.vectorIndex = start.vectorIndex
  vectorizationRule : db.vectorizationRule = start.vectorizationRule
  taken : ∀ key, Emission.taken key start = true → Emission.taken key db = true

theorem taken_insertTask {row : Task} {db after : Database} {key : String}
    (inserted : TaskService.insertTask row db = some after)
    (held : Emission.taken key db = true) : Emission.taken key after = true := by
  obtain ⟨table, added, rfl, -⟩ := TaskService.insertTask_eq_some inserted
  obtain ⟨task, member, same⟩ := Emission.taken_iff.1 held
  exact Emission.taken_iff.2 ⟨task, (Table.mem_insert? added).2 (.inl member), same⟩

theorem Idle.emit {start : Database} {draw : Nat → String} {now : DateTime} {due : Due}
    (covered : due.dataset ∈ start.dataset.rows → due.dataset.status = .deleted →
      Emission.taken due.key start = true)
    (parent : due.dataset ∈ start.dataset.rows) :
    Emission.Keeps (Idle start) (due.emit draw now) := by
  intro tick after idle ran
  obtain ⟨-, same⟩ | ⟨free, -, inserted⟩ := Emission.tryEmit_cases ran
  · exact same ▸ idle
  · have alive : ¬ Deleted tick.db due.dataset.datasetUuid := by
      rw [deleted_congr idle.dataset]
      rintro ⟨other, member, same, deleted⟩
      obtain rfl : other = due.dataset := Table.eq_of_key_eq member parent same
      rw [idle.taken due.key (covered parent deleted)] at free
      cases free
    have quiet := @quiet_insert _ _ (Emission.taskRow due.dataset now (draw tick.drawn)
      due.taskType due.key due.params) alive inserted
    have taken := fun key held => taken_insertTask inserted (idle.taken key held)
    obtain ⟨table, -, rows, -⟩ := TaskService.insertTask_eq_some inserted
    refine ⟨idle.quiet.trans quiet, ?_, ?_, ?_, taken⟩
    · rw [rows]
      exact idle.dataset
    · rw [rows]
      exact idle.vectorIndex
    · rw [rows]
      exact idle.vectorizationRule

theorem Idle.planPolicy {start : Database} {draw : Nat → String} {now : DateTime}
    {policy : LifecyclePolicy}
    (covered : ∀ dataset ∈ start.dataset.get policy.datasetUuid, dataset.status = .deleted →
      ∀ due ∈ LifecyclePlannerService.dues now policy dataset start,
        Emission.taken due.key start = true) :
    Emission.Keeps (Idle start) fun tick =>
      LifecyclePlannerService.planPolicy draw now tick policy := by
  intro tick after idle ran
  simp only [LifecyclePlannerService.planPolicy] at ran
  split at ran
  · cases ran
    exact idle
  · rename_i dataset found
    rw [LifecyclePlannerService.planForPolicy_eq,
      LifecyclePlannerService.dues_congr idle.vectorIndex idle.vectorizationRule] at ran
    rw [idle.dataset] at found
    have tries : Emission.Keeps (Idle start)
        (Due.emitAll draw now (LifecyclePlannerService.dues now policy dataset start)) := by
      refine Emission.Keeps.loop fun due member => ?_
      have parent := LifecyclePlannerService.dataset_of_mem_dues member
      refine Idle.emit (fun _ deleted => ?_) (parent ▸ Table.mem_of_get found)
      exact covered dataset found (parent ▸ deleted) due member
    obtain ⟨next, tried, ran⟩ := bind_eq_ok ran
    cases ran
    have idleNext := tries idle tried
    exact ⟨idleNext.quiet.trans (quiet_of_tasks rfl rfl fun _ member _ => member),
      idleNext.dataset, idleNext.vectorIndex, idleNext.vectorizationRule, idleNext.taken⟩

theorem quiet_planOnce {draw : Nat → String} {now : DateTime}
    {principal : Option TenantPrincipal} {db after : Database}
    {report : LifecyclePlannerService.PlannerTick}
    (harmless : Harmless lance db (.planOnce principal draw now))
    (ran : LifecyclePlannerService.planOnce draw now principal db = .ok (report, after)) :
    Quiet db after := by
  obtain ⟨system, tick, looped, -, -, rfl⟩ := LifecyclePlannerService.planOnce_eq_ok ran
  have start : Idle db db := ⟨.refl db, rfl, rfl, rfl, fun _ held => held⟩
  have swept : Idle db tick.db :=
    Emission.Keeps.loop (fun policy member => Idle.planPolicy (harmless system policy member))
      start looped
  split
  · exact swept.quiet
  · exact .refl db

/-- What a watch pass keeps while no index of a DELETED dataset is due. -/
structure Watching (start db : Database) : Prop where
  quiet : Quiet start db
  dataset : db.dataset = start.dataset
  parents : ∀ id, (db.vectorIndex.get id).map Index.datasetUuid =
    (start.vectorIndex.get id).map Index.datasetUuid
  taken : ∀ key, Emission.taken key start = true → Emission.taken key db = true

/-- A candidate of a DELETED dataset is due later only if it is due at the start. -/
theorem Watching.due_start {start db : Database} {now : DateTime} {disk : Disk}
    {candidate : IndexWatcherService.Candidate} (watching : Watching start db)
    (member : candidate.index ∈ start.vectorIndex.rows)
    (deleted : Deleted start candidate.index.datasetUuid)
    (due : IndexWatcherService.due lance now disk db candidate = true) :
    IndexWatcherService.due lance now disk start candidate = true := by
  have later := watching.quiet.indexes candidate.index member deleted
  have rowStart : candidate.row start = candidate.index := by
    rw [IndexWatcherService.Candidate.row, Table.get_of_mem member, Option.getD_some]
  have rowLater : candidate.row db = candidate.index := by
    rw [IndexWatcherService.Candidate.row, Table.get_of_mem later, Option.getD_some]
  unfold IndexWatcherService.due at due ⊢
  rw [rowLater, Option.any_eq_true] at due
  rw [rowStart, Option.any_eq_true]
  obtain ⟨⟨reason, version⟩, isSignal, free⟩ := due
  refine ⟨(reason, version), isSignal, ?_⟩
  cases held : Emission.taken (IndexWatcherService.triggerKey candidate.index.id version
      reason) start with
  | false => simp [held]
  | true => simp [watching.taken _ held] at free

theorem Watching.emit {start before next : Database} {now : DateTime}
    {candidate : IndexWatcherService.Candidate} {key taskUuid : String}
    (watching : Watching start before)
    (member : candidate ∈ IndexWatcherService.fetchCandidates start)
    (alive : ¬ Deleted start candidate.dataset.datasetUuid)
    (emitted : IndexWatcherService.Emitted now candidate key taskUuid before next) :
    Watching start next := by
  have homes := emitted.map_vectorIndex Index.datasetUuid fun _ => rfl
  have datasets := emitted.dataset
  obtain ⟨params, inserted⟩ := emitted
  obtain ⟨inTable, -⟩ := IndexWatcherService.mem_fetchCandidates.1 member
  have owner := IndexWatcherService.datasetUuid_of_mem member
  have aliveNow : ¬ Deleted before candidate.dataset.datasetUuid :=
    fun deleted => alive ((deleted_congr watching.dataset).1 deleted)
  have flipped : Quiet before (IndexWatcherService.flipIndex now candidate.index.id before) := by
    refine quiet_of_indexes rfl rfl fun index inRows deleted => ?_
    refine Table.mem_update_of_ne inRows fun same => aliveNow ?_
    have parent := watching.parents index.id
    rw [Table.get_of_mem inRows, same, Table.get_of_mem inTable] at parent
    rw [owner, ← Option.some.inj parent]
    exact deleted
  have sameDataset : (IndexWatcherService.flipIndex now candidate.index.id before).dataset =
      before.dataset := rfl
  have quiet := flipped.trans (quiet_insert
    (fun deleted => aliveNow ((deleted_congr sameDataset).1 deleted)) inserted)
  have taken := fun key held => taken_insertTask inserted
    ((Emission.taken_congr rfl).trans (watching.taken key held))
  exact ⟨watching.quiet.trans quiet, datasets.trans watching.dataset,
    fun id => (homes id).trans (watching.parents id), taken⟩

theorem quiet_runWatchPass {draw : Nat → String} {now : DateTime} {disk : Disk}
    {principal : Option TenantPrincipal} {db after : Database}
    {report : IndexWatcherService.WatchPassReport}
    (harmless : Harmless lance db (.runWatchPass principal draw now disk))
    (ran : IndexWatcherService.runWatchPass lance draw now principal db disk =
      .ok (report, after)) : Quiet db after := by
  have start : Watching db db := ⟨.refl db, rfl, fun _ => rfl, fun _ held => held⟩
  have system := (IndexWatcherService.runWatchPass_eq_ok ran).1
  refine (IndexWatcherService.runWatchPass_keeps
    (fun candidate member key taskUuid before next watching _ due emitted => ?_) start ran).quiet
  refine watching.emit member (fun deleted => ?_) emitted
  obtain ⟨inTable, -, found, -⟩ := IndexWatcherService.mem_fetchCandidates.1 member
  have owner := IndexWatcherService.datasetUuid_of_mem member
  obtain ⟨dataset, inRows, same, status⟩ := deleted
  obtain rfl : dataset = candidate.dataset :=
    Table.eq_of_key_eq inRows (Table.mem_of_get found) same
  have idle := harmless system candidate member status
  rw [watching.due_start inTable ⟨_, inRows, owner, status⟩ due] at idle
  cases idle

/-! ## Runs -/

theorem quiet_act {db : Database} {action : Action Disk} (harmless : Harmless lance db action) :
    Quiet db (act lance db action) := by
  cases action with
  | createDataset principal datasetUuid payload =>
      simp only [act]
      split
      · exact quiet_createDataset ‹_›
      · exact .refl db
  | deleteDataset principal datasetUuid =>
      simp only [act]
      split
      · exact quiet_deleteDataset ‹_›
      · exact .refl db
  | createIndex principal draws newId args => exact quiet_createIndex rfl
  | dropIndex principal datasetUuid indexName =>
      simp only [act]
      split
      · rename_i after ran
        obtain ⟨index, got, ⟨-, rfl⟩ | rfl⟩ := IndexService.dropIndex_cases ran
        · exact .refl after
        · exact quiet_getIndex got
      · exact .refl db
  | optimizeIndex principal draws datasetUuid indexName => exact quiet_optimizeIndex rfl
  | mergeIndex principal now datasetUuid indexName =>
      simp only [act]
      split
      · rename_i after ran
        obtain ⟨index, got, -, rfl⟩ := IndexService.mergeIndex_cases ran
        exact quiet_getIndex got
      · exact .refl db
  | submitVectorizeTask principal now taskUuid datasetUuid targetColumn =>
      simp only [act]
      split
      · rename_i answer after ran
        obtain ⟨dataset, rule, guard, -, -, submitted⟩ :=
          VectorizationService.submitVectorizeTask_cases ran
        exact quiet_submit (alive_of_guard guard) submitted
      · exact .refl db
  | configure policies rules => exact quiet_of_tasks rfl rfl fun _ member _ => member
  | submitTask principal now taskUuid args =>
      simp only [act]
      split
      · rename_i answer after ran
        obtain ⟨caller, bound, ⟨-, rfl, -⟩ | ⟨-, fresh, inserted⟩⟩ :=
          TaskService.submitTask_cases ran
        · exact .refl after
        · exact quiet_insert (harmless caller bound fresh) inserted
      · exact .refl db
  | planOnce principal draw now =>
      simp only [act]
      split
      · exact quiet_planOnce harmless ‹_›
      · exact .refl db
  | runWatchPass principal draw now disk =>
      simp only [act]
      split
      · exact quiet_runWatchPass harmless ‹_›
      · exact .refl db

/-- **Deleted datasets rest** in every run whose actions want nothing done for one. -/
theorem deleted_datasets_rest {db : Database} {actions : List (Action Disk)}
    (guarded : (producers lance).Guarded (Harmless lance) db actions) :
    (producers lance).Along (fun before _ after => Quiet before after) db actions := by
  refine Machine.along_of_inv (I := fun _ => True) (fun before action after _ harmless stepped =>
    ⟨trivial, ?_⟩) trivial guarded
  obtain rfl := Option.some.inj stepped
  exact quiet_act harmless

end Passes

section Examples

/-- A store with one version of one table, and an index with unindexed rows on it. -/
def oneTable : Pylance Unit where
  latestVersion _ _ := .ok 7
  indexStatistics _ _ _ := some (some 5000)
  listIndices _ _ := ["emb_idx"]
  optimizeIndices _ _ := .ok ()
  delete _ _ _ := .ok ()
  countRows _ _ := 0
  createIndex _ _ _ _ _ _ := .ok ()

/-- A dataset with a READY index and a policy that watches it and deletes old rows. -/
def watchedDataset : Database where
  dataset :=
    .single
      { datasetUuid := "d1", catalog := "lake", dbSchema := "acme", tableName := "events",
        storageUri := "s3://acme/events", tenantId := "acme" }
  vectorIndex :=
    .single
      { id := 1, datasetUuid := "d1", indexName := "emb_idx", columnName := "emb",
        indexType := "IVF_PQ", status := .ready }
  lifecyclePolicy :=
    .single
      { id := 1, datasetUuid := "d1", policyName := "default", ttlDays := some 30,
        indexWatchEnabled := true }

/-- The dataset is deleted, then a producer runs. -/
def deletedThen (producer : Action Unit) : List (Action Unit) :=
  [.deleteDataset acmeSdk "d1", producer]

private def now : DateTime := DateTime.start2026

/-- Each of the three producers that skip the guard works on a deleted dataset. -/
theorem deleted_dataset_works :
    ¬ (producers oneTable).Along (fun before _ after => Quiet before after) watchedDataset
        (deletedThen (.submitTask acmeSdk now "t1"
          { taskType := .compaction, datasetUuid := "d1" })) ∧
      ¬ (producers oneTable).Along (fun before _ after => Quiet before after) watchedDataset
        (deletedThen (.planOnce daemonContext (fun n => toString n) now)) ∧
      ¬ (producers oneTable).Along (fun before _ after => Quiet before after) watchedDataset
        (deletedThen (.runWatchPass daemonContext (fun n => toString n) now ())) := by
  decide

/-- Submissions before the deletion, and calls behind the guard after it. -/
theorem deleted_datasets_rest_guarded :
    (producers oneTable).Along (fun before _ after => Quiet before after) watchedDataset
      [ .submitTask acmeSdk now "t1" { taskType := .compaction, datasetUuid := "d1" },
        .deleteDataset acmeSdk "d1",
        .createIndex acmeSdk { now := now + 1, taskUuid := "t2" } 2
          { datasetUuid := "d1", indexName := "b", columnName := "c", indexType := "BTREE" },
        .optimizeIndex acmeSdk { now := now + 2, taskUuid := "t3" } "d1" "emb_idx",
        .configure .empty .empty,
        .planOnce daemonContext (fun n => toString n) (now + 3),
        .runWatchPass daemonContext (fun n => toString n) (now + 4) () ] :=
  deleted_datasets_rest (by decide)

end Examples

end Lcp.DeletedDatasets
