/-
# Invariants.BuiltDefinitions -- a READY index and the definition it was built from

An INDEX_BUILD task carries a copy of its row's definition, and names the row by
dataset and index name.  A `create_index` that replaces puts another row under the
name, and leaves the task.  The executor then builds the old definition and promotes
the new row.

Every execution whose own row is still there promotes that row and builds its
definition (`built_from_definition`), in any order of calls.
-/
import Lcp.Services.Operations
import Lcp.Workers.LifecycleWorkerService

namespace Lcp.BuiltDefinitions

open Theory

set_option autoImplicit false

/-- The columns of an index row that `create_index` sets for good. -/
structure Definition where
  id : Nat
  datasetUuid : String
  indexName : String
  columnName : String
  indexType : String
  params : Option JsonDict
deriving DecidableEq

def definition (index : Index) : Definition :=
  ⟨index.id, index.datasetUuid, index.indexName, index.columnName, index.indexType, index.params⟩

def definitions (db : Database) : List Definition := db.vectorIndex.rows.map definition

/-- The state store and the lance tables, the AUTO_INCREMENT counter of `vector_index`, and
the tasks that `create_index` emitted, each with the id of the row it was emitted for. -/
structure Plant (Disk : Type) where
  db : Database
  disk : Disk
  nextId : Nat := 1
  emitted : List (String × Nat) := []

/-- No definition changes, and tasks stay as they were submitted. -/
def Keeps (db after : Database) : Prop :=
  definitions after = definitions db ∧
    db.task.rows.map Task.request <+: after.task.rows.map Task.request

instance : DecidableEq (String × TaskType × String × Option JsonDict) := instDecidableEqProd

instance (db after : Database) : Decidable (Keeps db after) :=
  inferInstanceAs (Decidable (definitions after = definitions db ∧
    db.task.rows.map Task.request <+: after.task.rows.map Task.request))

inductive Action (Disk : Type) where
  | createIndex (principal : Option TenantPrincipal) (draws : IndexService.Draws) (newId : Nat)
      (args : IndexService.Creation)
  | dropIndex (principal : Option TenantPrincipal) (datasetUuid indexName : String)
  /-- A claim, a failure, a retry or another call of the task and scheduler services. -/
  | call (op : Operation)
  /-- The worker executes and finalizes a task that it has claimed. -/
  | dispatch (principal : Option TenantPrincipal) (context : ExecutorContext)
      (finishedAt : DateTime) (workerId taskUuid : String)
  | tables (disk : Disk)
  /-- The rest of the control plane: the statuses of indexes, its own tasks, other tables. -/
  | elsewhere (others : Database)

section Runs

variable {Disk : Type} (lance : Pylance Disk)

/-- The tasks emitted so far, when `create_index` has inserted its own. -/
def emission (newId : Nat) (taskUuid : String) (s : Plant Disk) (after : Database) :
    List (String × Nat) :=
  if taskUuid ∈ after.task.keys ∧ taskUuid ∉ s.db.task.keys then (taskUuid, newId) :: s.emitted
  else s.emitted

def step (s : Plant Disk) : Action Disk → Option (Plant Disk)
  | .createIndex principal draws newId args =>
      if s.nextId ≤ newId then
        let after := (IndexService.createIndex principal draws newId args s.db).2
        some { s with
          db := after, nextId := newId + 1, emitted := emission newId draws.taskUuid s after }
      else none
  | .dropIndex principal datasetUuid indexName =>
      match IndexService.dropIndex principal datasetUuid indexName s.db with
      | .ok after => some { s with db := after }
      | .error _ => some s
  | .call op => some { s with db := op.apply s.db }
  | .dispatch principal context finishedAt workerId taskUuid =>
      match s.db.task.get taskUuid with
      | none => none
      | some task =>
          if task.runningOn workerId then
            let iteration := LifecycleWorkerService.dispatchAndFinalize principal context finishedAt
              (buildDefaultRegistry lance) workerId task s.db s.disk
            some { s with db := iteration.db, disk := iteration.disk }
          else none
  | .tables disk => some { s with disk }
  | .elsewhere others => if Keeps s.db others then some { s with db := others } else none

/-- Runs of `create_index`, `drop_index` and the executions of tasks. -/
def building : Machine (Plant Disk) (Action Disk) where
  step := step lance

end Runs

section Statements

variable {Disk : Type}

/-- The step has written READY into the row. -/
def Promoted (t : Plant Disk) (row : Index) : Prop :=
  ∃ later ∈ t.db.vectorIndex.get row.id, later ≠ row ∧ later.status = .ready

/-- The task was emitted for the row, and the arguments of its lance call are the row's. -/
def FromDefinition (s : Plant Disk) (taskUuid : String) (id : Nat) (row : Index) : Prop :=
  row.id = id ∧
    ∃ task ∈ s.db.task.get taskUuid, ∃ args ∈ (IndexBuildExecutor.parse task).toOption,
      args.columnName = .str row.columnName ∧ args.indexType = .str row.indexType ∧
      args.indexParams = .dict (row.params.getD [])

/-- What an emitted task promotes is built from its definition. -/
def Built (s : Plant Disk) : Action Disk → Plant Disk → Prop
  | .dispatch _ _ _ _ taskUuid, t => ∀ entry ∈ s.emitted, entry.1 = taskUuid →
      ∀ row ∈ s.db.vectorIndex.rows, Promoted t row → FromDefinition s taskUuid entry.2 row
  | _, _ => True

instance (t : Plant Disk) (row : Index) : Decidable (Promoted t row) :=
  inferInstanceAs (Decidable (∃ later ∈ t.db.vectorIndex.get row.id,
    later ≠ row ∧ later.status = .ready))

instance (s : Plant Disk) (taskUuid : String) (id : Nat) (row : Index) :
    Decidable (FromDefinition s taskUuid id row) :=
  inferInstanceAs (Decidable (row.id = id ∧
    ∃ task ∈ s.db.task.get taskUuid, ∃ args ∈ (IndexBuildExecutor.parse task).toOption,
      args.columnName = .str row.columnName ∧ args.indexType = .str row.indexType ∧
      args.indexParams = .dict (row.params.getD [])))

instance (s : Plant Disk) : (a : Action Disk) → (t : Plant Disk) → Decidable (Built s a t)
  | .dispatch _ _ _ _ taskUuid, t => inferInstanceAs (Decidable (∀ entry ∈ s.emitted,
      entry.1 = taskUuid → ∀ row ∈ s.db.vectorIndex.rows, Promoted t row →
        FromDefinition s taskUuid entry.2 row))
  | .createIndex .., _ | .dropIndex .., _ | .call .., _ | .tables .., _ | .elsewhere .., _ =>
      isTrue trivial

/-- No emitted task is executed after its row has been replaced. -/
def Unreplaced (s : Plant Disk) : Action Disk → Prop
  | .dispatch _ _ _ _ taskUuid => ∀ entry ∈ s.emitted, entry.1 = taskUuid →
      (s.db.vectorIndex.get entry.2).isSome
  | _ => True

instance (s : Plant Disk) : (a : Action Disk) → Decidable (Unreplaced s a)
  | .dispatch _ _ _ _ taskUuid => inferInstanceAs (Decidable (∀ entry ∈ s.emitted,
      entry.1 = taskUuid → (s.db.vectorIndex.get entry.2).isSome))
  | .createIndex .. | .dropIndex .. | .call .. | .tables .. | .elsewhere .. => isTrue trivial

/-- The row that a task was emitted for has the definition that the task carries, if it is
there. -/
def Carries (db : Database) (taskUuid : String) (id : Nat) : Prop :=
  ∃ args : IndexService.Creation,
    (taskUuid, .indexBuild, args.datasetUuid, (args.submission id).params) ∈
      db.task.rows.map Task.request ∧
    ∀ defined ∈ definitions db, defined.id = id → defined = definition (args.row id)

/-- The ids are below the counter, names are unique in a dataset, and emitted tasks carry the
definitions of their rows. -/
structure Sound (s : Plant Disk) : Prop where
  fresh : ∀ defined ∈ definitions s.db, defined.id < s.nextId
  names : ∀ one ∈ definitions s.db, ∀ two ∈ definitions s.db,
    one.datasetUuid = two.datasetUuid → one.indexName = two.indexName → one = two
  issued : ∀ entry ∈ s.emitted, entry.2 < s.nextId
  carried : ∀ entry ∈ s.emitted, Carries s.db entry.1 entry.2

end Statements

/-! ## Steps that keep definitions and tasks -/

theorem Keeps.refl (db : Database) : Keeps db db := ⟨rfl, List.prefix_refl _⟩

theorem definitions_map {rows : List Index} {assign : Index → Index}
    (same : ∀ index, definition (assign index) = definition index) :
    (rows.map assign).map definition = rows.map definition := by
  rw [List.map_map]
  exact List.map_congr_left fun index _ => same index

theorem definitions_updateIndex {db : Database} {id : Nat} {assign : Index → Index}
    {keeps : ∀ index, (assign index).id = index.id}
    (same : ∀ index, definition (assign index) = definition index) :
    definitions (IndexService.updateIndex id assign keeps db) = definitions db :=
  definitions_map fun index => by split <;> simp [same]

theorem keeps_dropIndex {principal : Option TenantPrincipal} {datasetUuid indexName : String}
    {db after : Database}
    (ran : IndexService.dropIndex principal datasetUuid indexName db = .ok after) :
    Keeps db after := by
  obtain ⟨dropped, -, ⟨-, rfl⟩ | rfl⟩ := IndexService.dropIndex_cases ran
  · exact .refl _
  · exact ⟨definitions_updateIndex fun _ => rfl, List.prefix_refl _⟩

theorem requests_insertTask {task : Task} {db after : Database}
    (inserted : TaskService.insertTask task db = some after) :
    after.task.rows.map Task.request = db.task.rows.map Task.request ++ [task.request] ∧
      (∀ other ∈ db.task.rows, other.taskUuid ≠ task.taskUuid) ∧
      after = { db with task := after.task } := by
  obtain ⟨table, added, rfl, -⟩ := TaskService.insertTask_eq_some inserted
  obtain ⟨rows, absent⟩ := Table.insert?_eq_some added
  exact ⟨by simp [rows], absent, rfl⟩

theorem keeps_of_effect {db after : Database} {op : Operation} (effect : Effect db op after) :
    Keeps db after := by
  refine ⟨by rw [definitions, effect.vectorIndex, definitions], ?_⟩
  cases silent : op.submits with
  | false =>
      exact ⟨[], (List.append_nil _).trans (effect.requests silent).symm⟩
  | true =>
      cases effect with
      | nothing => exact List.prefix_refl _
      | submitted bound inserted first =>
          rw [(requests_insertTask inserted).1]
          exact List.prefix_append _ _
      | _ => cases silent

section Executions

variable {Disk : Type} {lance : Pylance Disk} {principal : Option TenantPrincipal}
  {context : ExecutorContext} {finishedAt : DateTime} {workerId : String} {task : Task}

theorem definitions_executed {dataset : Dataset} {db written : Database}
    (executed : Executed context task dataset db written) :
    definitions written = definitions db ∧ written.task = db.task := by
  cases executed with
  | ttlDelete | compaction | vectorize => exact ⟨rfl, rfl⟩
  | indexOptimize => exact ⟨definitions_map fun index => by split <;> rfl, rfl⟩
  | indexBuild => exact ⟨definitions_updateIndex fun _ => rfl, rfl⟩

theorem keeps_finishTask {taskUuid : String} {assign : Task → Task}
    {keeps : ∀ task, (assign task).taskUuid = task.taskUuid} {db written after : Database}
    (kept : definitions written = definitions db ∧ written.task = db.task)
    (ran : SchedulerService.finishTask principal workerId taskUuid assign keeps written =
      .ok after) (same : ∀ task, (assign task).request = task.request) : Keeps db after := by
  obtain ⟨-, index, requests⟩ := requests_finishTask ran same
  refine ⟨by rw [definitions, index]; exact kept.1, ?_⟩
  rw [kept.2] at requests
  exact ⟨[], (List.append_nil _).trans requests.symm⟩

theorem keeps_dispatch {iteration : LifecycleWorkerService.Iteration Disk} {db : Database}
    {disk : Disk} (ran : LifecycleWorkerService.dispatchAndFinalize principal context finishedAt
      (buildDefaultRegistry lance) workerId task db disk = iteration) : Keeps db iteration.db := by
  rcases iteration with ⟨outcome, after, disk', handed⟩
  cases LifecycleWorkerService.dispatchAndFinalize_effect ran with
  | nothing => exact Keeps.refl _
  | failed _ finished => exact keeps_finishTask ⟨rfl, rfl⟩ finished fun _ => rfl
  | succeeded found registered executed finished =>
      exact keeps_finishTask (definitions_executed (executed_of_registered registered executed))
        finished fun _ => rfl

/-- An INDEX_BUILD execution changes one index row, the one that its task names. -/
theorem named_of_dispatch {iteration : LifecycleWorkerService.Iteration Disk} {db : Database}
    {disk : Disk} (type : task.taskType = .indexBuild)
    (ran : LifecycleWorkerService.dispatchAndFinalize principal context finishedAt
      (buildDefaultRegistry lance) workerId task db disk = iteration)
    {row later : Index} (member : row ∈ db.vectorIndex.rows)
    (got : iteration.db.vectorIndex.get row.id = some later) (changed : later ≠ row) :
    ∃ args, IndexBuildExecutor.parse task = .ok args ∧
      row.datasetUuid = task.datasetUuid ∧
      ∀ name, args.indexName = .str name → row.indexName = name := by
  rcases iteration with ⟨outcome, after, disk', handed⟩
  cases LifecycleWorkerService.dispatchAndFinalize_effect ran with
  | nothing =>
      rw [Table.get_of_mem member] at got
      exact absurd (Option.some.inj got).symm changed
  | failed _ finished =>
      obtain ⟨-, index, -⟩ := requests_finishTask finished fun _ => rfl
      rw [index, Table.get_of_mem member] at got
      exact absurd (Option.some.inj got).symm changed
  | succeeded found registered executed finished =>
      obtain ⟨-, index, -⟩ := requests_finishTask finished fun _ => rfl
      rw [index] at got
      cases executed_of_registered registered executed with
      | ttlDelete other | compaction other | indexOptimize other | vectorize other =>
          rw [type] at other
          cases other
      | @indexBuild _ args target parsed named =>
          refine ⟨args, parsed, ?_⟩
          obtain ⟨inTable, owner, text⟩ := IndexBuildExecutor.find_eq_some named
          rw [Table.key_of_get found] at owner
          by_cases hit : row.id = target.id
          · rw [Table.eq_of_key_eq member inTable hit]
            exact ⟨owner, text⟩
          · have untouched : later ∈ db.vectorIndex.rows := by
              rcases Table.of_mem_update (Table.mem_of_get got) with
                ⟨before, _, same, rfl⟩ | ⟨old, -⟩
              · exact absurd ((Table.key_of_get got).symm.trans same) hit
              · exact old
            exact absurd (Table.eq_of_key_eq untouched member (Table.key_of_get got)) changed

end Executions

/-! ## What an emitted task asks for -/

/-- The arguments of the lance call for a task of `create_index`. -/
theorem parse_submission {task : Task} {args : IndexService.Creation} {id : Nat}
    {build : IndexBuildExecutor.Build} (params : task.params = (args.submission id).params)
    (parsed : IndexBuildExecutor.parse task = .ok build) :
    build =
      ⟨.str args.indexName, .str args.columnName, .str args.indexType,
        .dict (args.params.getD [])⟩ := by
  simp only [IndexBuildExecutor.parse] at parsed
  split at parsed
  · cases parsed
  · obtain rfl := Except.ok.inj parsed
    simp only [params, IndexService.Creation.submission, Option.getD_some, Json.get?]
    cases args.params.getD [] <;> rfl

/-! ## Steps of `create_index` -/

/-- What a `create_index` that inserts leaves: older definitions without the name, the new one,
and its task if that was not submitted before. -/
structure Created (db after : Database) (taskUuid : String) (newId : Nat)
    (args : IndexService.Creation) (kept : List Definition) : Prop where
  definitions : definitions after = kept ++ [definition (args.row newId)]
  older : ∀ defined ∈ kept, defined ∈ BuiltDefinitions.definitions db ∧
    ¬ (defined.datasetUuid = args.datasetUuid ∧ defined.indexName = args.indexName)
  task : after.task = db.task ∨
    ((∀ other ∈ db.task.rows, other.taskUuid ≠ taskUuid) ∧
      after.task.rows.map Task.request = db.task.rows.map Task.request ++
        [(taskUuid, .indexBuild, args.datasetUuid, (args.submission newId).params)])

theorem created_of_createIndex {principal : Option TenantPrincipal} {draws : IndexService.Draws}
    {newId : Nat} {args : IndexService.Creation} {db after : Database}
    {answer : Except IndexError Index}
    (ran : IndexService.createIndex principal draws newId args db = (answer, after)) :
    after = db ∨ ∃ kept, Created db after draws.taskUuid newId args kept := by
  have ofInserted : ∀ {inserted : Database},
      IndexService.insertIndex (args.row newId) (IndexService.clearName args db) = some inserted →
        inserted.task = db.task ∧ ∃ kept,
          definitions inserted = kept ++ [definition (args.row newId)] ∧
          ∀ defined ∈ kept, defined ∈ definitions db ∧
            ¬ (defined.datasetUuid = args.datasetUuid ∧ defined.indexName = args.indexName) := by
    intro inserted row
    refine ⟨(IndexService.insertIndex_task row).trans (IndexService.task_clearName args db), ?_⟩
    obtain ⟨unnamed, table, added, rfl⟩ := IndexService.insertIndex_eq_some row
    refine ⟨definitions (IndexService.clearName args db), ?_, fun defined member => ?_⟩
    · simp [definitions, (Table.insert?_eq_some added).1]
    · obtain ⟨index, inTable, rfl⟩ := List.mem_map.1 member
      refine ⟨List.mem_map_of_mem (IndexService.mem_of_clearName inTable), fun same => ?_⟩
      have other := unnamed index inTable
      simp only [Index.named, decide_eq_false_iff_not] at other
      exact other same
  cases IndexService.createIndex_effect ran with
  | nothing e => exact .inl rfl
  | created guard row submitted =>
      obtain ⟨tasks, kept, defined, older⟩ := ofInserted row
      obtain ⟨caller, -, ⟨-, rfl, -⟩ | ⟨-, -, inserted⟩⟩ := TaskService.submitTask_cases submitted
      · exact .inr ⟨kept, defined, older, .inl tasks⟩
      · obtain ⟨requests, absent, rows⟩ := requests_insertTask inserted
        rw [tasks] at requests absent
        refine .inr ⟨kept, ?_, older, .inr ⟨absent, requests⟩⟩
        rw [rows]
        exact defined
  | failed guard row submitted =>
      obtain ⟨tasks, kept, defined, older⟩ := ofInserted row
      refine .inr ⟨kept, (definitions_updateIndex ?_).trans defined, older, .inl tasks⟩
      exact fun _ => rfl

section Invariant

variable {Disk : Type} {lance : Pylance Disk} {s t : Plant Disk}

theorem Carries.keeps {db after : Database} {taskUuid : String} {id : Nat} (keeps : Keeps db after)
    (carries : Carries db taskUuid id) : Carries after taskUuid id := by
  obtain ⟨args, listed, own⟩ := carries
  refine ⟨args, keeps.2.subset listed, ?_⟩
  rw [keeps.1]
  exact own

theorem Sound.keeps (sound : Sound s) {db : Database} {disk : Disk} (keeps : Keeps s.db db) :
    Sound { s with db, disk } where
  fresh := by
    rw [keeps.1]
    exact sound.fresh
  names := by
    rw [keeps.1]
    exact sound.names
  issued := sound.issued
  carried entry member := (sound.carried entry member).keeps keeps

theorem mem_emission {newId : Nat} {taskUuid : String} {after : Database} {entry : String × Nat}
    (member : entry ∈ emission newId taskUuid s after) :
    entry ∈ s.emitted ∨ (entry = (taskUuid, newId) ∧ after.task ≠ s.db.task) := by
  unfold emission at member
  split at member
  · rename_i inserted
    refine (List.mem_cons.1 member).symm.imp_right fun new => ⟨new, fun same => inserted.2 ?_⟩
    exact same ▸ inserted.1
  · exact .inl member

theorem sound_createIndex {principal : Option TenantPrincipal} {draws : IndexService.Draws}
    {newId : Nat} {args : IndexService.Creation} (sound : Sound s) (unused : s.nextId ≤ newId)
    {answer : Except IndexError Index} {after : Database}
    (ran : IndexService.createIndex principal draws newId args s.db = (answer, after)) :
    Sound { s with
      db := after, nextId := newId + 1, emitted := emission newId draws.taskUuid s after } := by
  rcases created_of_createIndex ran with rfl | ⟨kept, created⟩
  · have old : ∀ entry ∈ emission newId draws.taskUuid s s.db, entry ∈ s.emitted :=
      fun entry member => (mem_emission member).resolve_right fun new => new.2 rfl
    refine ⟨fun defined member => ?_, sound.names, fun entry member => ?_,
      fun entry member => sound.carried entry (old entry member)⟩
    · exact Nat.lt_succ_of_lt (Nat.lt_of_lt_of_le (sound.fresh defined member) unused)
    · exact Nat.lt_succ_of_lt (Nat.lt_of_lt_of_le (sound.issued entry (old entry member)) unused)
  · have split_ : ∀ defined ∈ definitions after, defined ∈ kept ∨
        defined = definition (args.row newId) := by
      intro defined member
      rw [created.definitions] at member
      exact (List.mem_append.1 member).imp_right List.mem_singleton.1
    have below : ∀ defined ∈ kept, defined.id < newId := fun defined member =>
      Nat.lt_of_lt_of_le (sound.fresh defined (created.older defined member).1) unused
    refine ⟨fun defined member => ?_, fun one inOne two inTwo owner name => ?_,
      fun entry member => ?_, fun entry member => ?_⟩
    · rcases split_ defined member with old | rfl
      · exact Nat.lt_succ_of_lt (below defined old)
      · exact Nat.lt_succ_self newId
    · rcases split_ one inOne with old | rfl
      · rcases split_ two inTwo with older | rfl
        · exact sound.names one (created.older one old).1 two (created.older two older).1 owner name
        · exact absurd ⟨owner, name⟩ (created.older one old).2
      · rcases split_ two inTwo with older | rfl
        · exact absurd ⟨owner.symm, name.symm⟩ (created.older two older).2
        · rfl
    · rcases mem_emission member with old | ⟨rfl, -⟩
      · exact Nat.lt_succ_of_lt (Nat.lt_of_lt_of_le (sound.issued entry old) unused)
      · exact Nat.lt_succ_self newId
    · rcases mem_emission member with old | ⟨rfl, inserted⟩
      · obtain ⟨given, listed, own⟩ := sound.carried entry old
        refine ⟨given, ?_, fun defined inAfter sameId => ?_⟩
        · rcases created.task with same | ⟨-, requests⟩
          · exact same ▸ listed
          · exact requests ▸ List.mem_append_left _ listed
        · rcases split_ defined inAfter with older | rfl
          · exact own defined (created.older defined older).1 sameId
          · have issued := sound.issued entry old
            have new : newId = entry.2 := sameId
            omega
      · obtain ⟨-, requests⟩ := created.task.resolve_left inserted
        refine ⟨args, requests ▸ List.mem_append_right _ (List.mem_singleton.2 rfl),
          fun defined inAfter sameId => ?_⟩
        rcases split_ defined inAfter with older | rfl
        · exact absurd sameId (Nat.ne_of_lt (below defined older))
        · rfl

theorem sound_step {a : Action Disk} (sound : Sound s)
    (stepped : (building lance).step s a = some t) : Sound t := by
  cases a with
  | createIndex principal draws newId args =>
      simp only [building, step] at stepped
      split at stepped
      · rename_i unused
        obtain rfl := Option.some.inj stepped
        exact sound_createIndex sound unused (Prod.ext rfl rfl)
      · cases stepped
  | dropIndex principal datasetUuid indexName =>
      simp only [building, step] at stepped
      split at stepped <;> obtain rfl := Option.some.inj stepped
      · rename_i ran
        exact sound.keeps (keeps_dropIndex ran)
      · exact sound
  | call op =>
      obtain rfl := Option.some.inj stepped
      exact sound.keeps (keeps_of_effect (effect_of_apply s.db op))
  | dispatch principal context finishedAt workerId taskUuid =>
      simp only [building, step] at stepped
      split at stepped
      · cases stepped
      · split at stepped
        · obtain rfl := Option.some.inj stepped
          exact sound.keeps (keeps_dispatch rfl)
        · cases stepped
  | tables disk =>
      obtain rfl := Option.some.inj stepped
      exact sound.keeps (.refl _)
  | elsewhere others =>
      simp only [building, step] at stepped
      split at stepped
      · rename_i keeps
        obtain rfl := Option.some.inj stepped
        exact sound.keeps keeps
      · cases stepped

/-- An execution whose own row is there promotes that row, with its definition. -/
theorem built_step {a : Action Disk} (sound : Sound s) (unreplaced : Unreplaced s a)
    (stepped : (building lance).step s a = some t) : Built s a t := by
  cases a with
  | dispatch principal context finishedAt workerId taskUuid =>
      rintro ⟨emittedUuid, id⟩ emitted sameTask row member promoted
      obtain rfl : emittedUuid = taskUuid := sameTask
      simp only [building, step] at stepped
      split at stepped
      · cases stepped
      · rename_i task claimed
        split at stepped
        · obtain rfl := Option.some.inj stepped
          obtain ⟨args, listed, carried⟩ := sound.carried (emittedUuid, id) emitted
          obtain ⟨other, inTable, same⟩ := List.mem_map.1 listed
          obtain ⟨sameUuid, type, owner, params⟩ : other.taskUuid = emittedUuid ∧
              other.taskType = .indexBuild ∧ other.datasetUuid = args.datasetUuid ∧
              other.params = (args.submission id).params := by
            simpa [Task.request] using same
          obtain rfl : other = task := by
            rw [← sameUuid, Table.get_of_mem inTable] at claimed
            exact Option.some.inj claimed
          obtain ⟨own, ownRow⟩ :=
            Option.isSome_iff_exists.1 (unreplaced (emittedUuid, id) emitted rfl)
          have ownId : own.id = id := Table.key_of_get ownRow
          have ownDefined := carried (definition own)
            (List.mem_map_of_mem (Table.mem_of_get ownRow)) ownId
          obtain ⟨later, got, changed, -⟩ := promoted
          obtain ⟨build, parsed, rowOwner, rowName⟩ :=
            named_of_dispatch type rfl member got changed
          have built := parse_submission params parsed
          have rowDefined : definition row = definition (args.row id) := by
            rw [← ownDefined]
            refine sound.names _ (List.mem_map_of_mem member) _
              (List.mem_map_of_mem (Table.mem_of_get ownRow)) ?_ ?_
            · rw [ownDefined]
              exact rowOwner.trans owner
            · rw [ownDefined]
              exact rowName args.indexName (by rw [built])
          simp only [definition, IndexService.Creation.row, Definition.mk.injEq] at rowDefined
          obtain ⟨sameId, -, -, column, kind, stored⟩ := rowDefined
          refine ⟨sameId, other, claimed, build, by simp [parsed, Except.toOption], ?_, ?_, ?_⟩
          · rw [built, column]
          · rw [built, kind]
          · rw [built, stored]
        · cases stepped
  | _ => trivial

/-- **What an INDEX_BUILD execution promotes was built from its own definition**, in every run
that executes no task whose row has been replaced. -/
theorem built_from_definition (sound : Sound s) {actions : List (Action Disk)}
    (unreplaced : (building lance).Guarded Unreplaced s actions) :
    (building lance).Along Built s actions :=
  Machine.along_of_inv (fun _ _ _ sound unreplaced stepped =>
    ⟨sound_step sound stepped, built_step sound unreplaced stepped⟩) sound unreplaced

end Invariant

section Examples

private def oneTable : Plant Unit where
  db :=
    { dataset :=
        .single
          { datasetUuid := "d1", catalog := "lake", dbSchema := "acme", tableName := "events",
            storageUri := "s3://acme/events", tenantId := "acme" }
      workerRegistry :=
        .single
          { workerId := "w1", workerType := "lifecycle", leaseId := "l1", lastHeartbeatAt := 0 } }
  disk := ()

/-- The index on a column, in place of the one that holds its name. -/
private def createOn (columnName taskUuid : String) (newId : Nat) : Action Unit :=
  .createIndex acmeSdk { now := newId, taskUuid } newId
    { datasetUuid := "d1", indexName := "emb_idx", columnName, indexType := "IVF_PQ",
      replaceIfExists := true }

private def claimAndRun (taskUuid : String) : List (Action Unit) :=
  [ .call (.claimNextTask daemonContext 5 "w1" "l1" none),
    .dispatch daemonContext { lanceStorageEndpoint := "", now := 6 } 7 "w1" taskUuid ]

private theorem sound_oneTable : Sound oneTable := by
  refine ⟨nofun, nofun, nofun, nofun⟩

/-- The index is replaced after it has been built. -/
theorem replaced_when_built :
    (building noTables).Along Built oneTable
      ([createOn "title_emb" "t1" 1] ++ claimAndRun "t1" ++
        [createOn "body_emb" "t2" 2] ++ claimAndRun "t2") :=
  built_from_definition sound_oneTable (by
    unfold Machine.Guarded
    decide +kernel)

example : ((building noTables).run oneTable
    ([createOn "title_emb" "t1" 1] ++ claimAndRun "t1" ++
      [createOn "body_emb" "t2" 2] ++ claimAndRun "t2")).map
        (fun s => s.db.vectorIndex.rows.map fun index =>
          (index.id, index.columnName, index.status)) =
      some [(2, "body_emb", .ready)] := by
  decide +kernel

/-- The index is replaced before its task is claimed: the task promotes the new row with the old
column. -/
theorem replaced_while_queued :
    ¬ (building noTables).Along Built oneTable
      ([createOn "title_emb" "t1" 1, createOn "body_emb" "t2" 2] ++ claimAndRun "t1") := by
  decide +kernel

end Examples

end Lcp.BuiltDefinitions
