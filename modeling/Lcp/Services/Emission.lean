/-
# Services.Emission -- tasks that the control plane emits by itself

The planner and the watcher insert tasks under the system principal: a key that
is looked up first, a fresh `uuid4`, and the tenant of the parent dataset.

`Stamped before after` is what every producer but `submit_task` guarantees: each
task row of `after` has the tenant and the dataset of a row that was there, or
those of one dataset row.
-/
import Lcp.Services.TaskService

namespace Lcp

open Theory

set_option autoImplicit false

/-- The task belongs to the dataset and carries its tenant. -/
def Task.ofDataset (dataset : Dataset) (task : Task) : Prop :=
  task.datasetUuid = dataset.datasetUuid ∧ task.tenantId = dataset.tenantId

/-- Datasets stay, and tasks keep their tenant and dataset or get both from one dataset. -/
structure Stamped (before after : Database) : Prop where
  dataset : after.dataset = before.dataset
  task : ∀ task ∈ after.task.rows,
    (∃ old ∈ before.task.rows,
        task.tenantId = old.tenantId ∧ task.datasetUuid = old.datasetUuid) ∨
      ∃ dataset ∈ before.dataset.rows, task.ofDataset dataset

namespace Stamped

theorem refl (db : Database) : Stamped db db :=
  ⟨rfl, fun task member => .inl ⟨task, member, rfl, rfl⟩⟩

theorem trans {a b c : Database} (first : Stamped a b) (second : Stamped b c) : Stamped a c := by
  refine ⟨second.dataset.trans first.dataset, fun task member => ?_⟩
  rcases second.task task member with ⟨old, inB, tenant, uuid⟩ | ⟨dataset, inB, owner⟩
  · rcases first.task old inB with ⟨older, inA, tenant', uuid'⟩ | ⟨dataset, inA, owner⟩
    · exact .inl ⟨older, inA, tenant.trans tenant', uuid.trans uuid'⟩
    · exact .inr ⟨dataset, inA, uuid.trans owner.1, tenant.trans owner.2⟩
  · exact .inr ⟨dataset, first.dataset ▸ inB, owner⟩

/-- Rewriting task rows without touching tenant and dataset. -/
theorem of_rewrite {before after : Database} (dataset : after.dataset = before.dataset)
    (rewritten : ∀ task ∈ after.task.rows, ∃ old ∈ before.task.rows,
      task.tenantId = old.tenantId ∧ task.datasetUuid = old.datasetUuid) : Stamped before after :=
  ⟨dataset, fun task member => .inl (rewritten task member)⟩

theorem update {db : Database} {taskUuid : String} {assign : Task → Task}
    (keeps : ∀ task, (assign task).taskUuid = task.taskUuid)
    (tenant : ∀ task, (assign task).tenantId = task.tenantId)
    (dataset : ∀ task, (assign task).datasetUuid = task.datasetUuid)
    {registry : Table WorkerRegistry WorkerRegistry.workerId} :
    Stamped db { db with
      task := db.task.update taskUuid assign keeps, workerRegistry := registry } := by
  refine of_rewrite rfl fun task member => ?_
  rcases Table.of_mem_update member with ⟨old, inTable, -, rfl⟩ | ⟨inTable, -⟩
  · exact ⟨old, inTable, tenant old, dataset old⟩
  · exact ⟨task, inTable, rfl, rfl⟩

theorem insert {before after : Database} {row : Task} {dataset : Dataset}
    (inserted : TaskService.insertTask row before = some after)
    (parent : dataset ∈ before.dataset.rows) (owner : row.ofDataset dataset) :
    Stamped before after := by
  obtain ⟨table, added, rfl, -⟩ := TaskService.insertTask_eq_some inserted
  refine ⟨rfl, fun task member => ?_⟩
  rcases (Table.mem_insert? added).1 member with old | rfl
  · exact .inl ⟨task, old, rfl, rfl⟩
  · exact .inr ⟨dataset, parent, owner⟩

end Stamped

namespace Emission

/-- Why a pass ends early: it runs without a system principal, or a drawn `uuid4`
collided and the rollback threw the pass away. -/
inductive PassError where
  | notSystem (message : String)
  | integrity
deriving DecidableEq, Repr

/-- What a pass accumulates: the rows of its session, the uuids it drew, the
freshly inserted tasks and the keys it found taken. -/
structure Tick where
  db : Database
  drawn : Nat := 0
  emitted : List String := []
  skipped : Nat := 0

/-- The row both producers insert. -/
def taskRow (dataset : Dataset) (now : DateTime) (taskUuid : String) (taskType : TaskType)
    (key : String) (params : JsonDict) : Task :=
  { taskUuid
    taskType
    datasetUuid := dataset.datasetUuid
    tenantId := dataset.tenantId
    status := .pending
    priority := 5
    idempotencyKey := some key
    params := some params
    maxAttempts := 3
    createdAt := now }

/-- Some task row holds the key. -/
def taken (key : String) (db : Database) : Bool :=
  db.task.rows.any fun task => task.idempotencyKey = some key

/-- Look the key up; insert one task when it is free, else count a duplicate. -/
def tryEmit (draw : Nat → String) (now : DateTime) (dataset : Dataset) (taskType : TaskType)
    (key : String) (params : JsonDict) (tick : Tick) : Except PassError Tick :=
  if taken key tick.db then .ok { tick with skipped := tick.skipped + 1 }
  else
    match TaskService.insertTask
        (taskRow dataset now (draw tick.drawn) taskType key params) tick.db with
    | some after =>
        .ok { tick with
          db := after
          drawn := tick.drawn + 1
          emitted := tick.emitted ++ [draw tick.drawn] }
    | none => .error .integrity

theorem taken_iff {key : String} {db : Database} :
    taken key db = true ↔ ∃ task ∈ db.task.rows, task.idempotencyKey = some key := by
  simp [taken]

theorem taken_congr {key : String} {db after : Database} (same : after.task = db.task) :
    taken key after = taken key db := by
  rw [taken, taken, same]

/-- A taken key is counted; under a free one the row goes in. -/
theorem tryEmit_cases {draw : Nat → String} {now : DateTime} {dataset : Dataset}
    {taskType : TaskType} {key : String} {params : JsonDict} {tick after : Tick}
    (ran : tryEmit draw now dataset taskType key params tick = .ok after) :
    (taken key tick.db = true ∧ after.db = tick.db) ∨
      (taken key tick.db = false ∧ after.drawn = tick.drawn + 1 ∧
        TaskService.insertTask (taskRow dataset now (draw tick.drawn) taskType key params)
          tick.db = some after.db) := by
  unfold tryEmit at ran
  split at ran
  · rename_i held
    cases ran
    exact .inl ⟨held, rfl⟩
  · rename_i free
    split at ran
    · rename_i inserted
      cases ran
      exact .inr ⟨by simpa using free, rfl, inserted⟩
    · cases ran

/-- With a uuid that no row has, an emission does not raise. -/
theorem tryEmit_ok {draw : Nat → String} {now : DateTime} {dataset : Dataset}
    {taskType : TaskType} {key : String} {params : JsonDict} {tick : Tick}
    (fresh : draw tick.drawn ∉ tick.db.task.keys) :
    ∃ after, tryEmit draw now dataset taskType key params tick = .ok after := by
  unfold tryEmit
  split
  · exact ⟨_, rfl⟩
  · rename_i free
    obtain ⟨table, inserted⟩ : ∃ table, tick.db.task.insert?
        (taskRow dataset now (draw tick.drawn) taskType key params) = some table :=
      Table.exists_insert? fresh
    have absent : (taskRow dataset now (draw tick.drawn) taskType key params).idempotencyKey ∉
        tick.db.task.rows.map Task.idempotencyKey := by
      intro member
      obtain ⟨task, inRows, same⟩ := List.mem_map.1 member
      exact free (taken_iff.2 ⟨task, inRows, same⟩)
    simp [TaskService.insertTask, absent, inserted]

/-! ## What a pass keeps

A pass threads its tick through emissions.  A fact about the rows that every
insert keeps is kept by the whole pass. -/

/-- The first iteration of a loop that ran to its end, and the rest of it. -/
theorem foldlM_cons_ok {σ α : Type} {body : σ → α → Except PassError σ} {s after : σ} {a : α}
    {rest : List α} (ran : (a :: rest).foldlM body s = .ok after) :
    ∃ next, body s a = .ok next ∧ rest.foldlM body next = .ok after := by
  rw [List.foldlM_cons] at ran
  exact bind_eq_ok ran

/-- Run on a tick whose rows satisfy `held`, the step leaves one whose rows do. -/
def Keeps (held : Database → Prop) (step : Tick → Except PassError Tick) : Prop :=
  ∀ ⦃tick after : Tick⦄, held tick.db → step tick = .ok after → held after.db

/-- A task that is emitted for a dataset of the table does not disturb `held`. -/
def Admits (held : Database → Prop) : Prop :=
  ∀ ⦃db after : Database⦄ ⦃dataset : Dataset⦄ ⦃now : DateTime⦄ ⦃taskUuid : String⦄
    ⦃taskType : TaskType⦄ ⦃key : String⦄ ⦃params : JsonDict⦄,
    held db → dataset ∈ db.dataset.rows →
      TaskService.insertTask (taskRow dataset now taskUuid taskType key params) db = some after →
        held after

/-- The emission keeps `held`, and the dataset stays in its table. -/
theorem tryEmit_keeps {held : Database → Prop} (admits : Admits held) {draw : Nat → String}
    {now : DateTime} {dataset : Dataset} {taskType : TaskType} {key : String}
    {params : JsonDict} :
    Keeps (fun db => held db ∧ dataset ∈ db.dataset.rows)
      (tryEmit draw now dataset taskType key params) := by
  intro tick after both ran
  obtain ⟨-, same⟩ | ⟨-, -, inserted⟩ := tryEmit_cases ran
  · exact same ▸ both
  · refine ⟨admits both.1 both.2 inserted, ?_⟩
    obtain ⟨table, -, rows, -⟩ := TaskService.insertTask_eq_some inserted
    rw [rows]
    exact both.2

namespace Keeps

variable {held : Database → Prop}

theorem bind {first second : Tick → Except PassError Tick} (one : Keeps held first)
    (two : Keeps held second) : Keeps held fun tick => first tick >>= second := by
  intro tick after before ran
  obtain ⟨next, ranFirst, ran⟩ := bind_eq_ok ran
  exact two (one before ranFirst) ran

theorem loop {α : Type} {items : List α} {body : Tick → α → Except PassError Tick}
    (step : ∀ a ∈ items, Keeps held fun tick => body tick a) :
    Keeps held fun tick => items.foldlM body tick := by
  intro tick after before ran
  simp only at ran
  induction items generalizing tick with
  | nil =>
      cases ran
      exact before
  | cons a rest ih =>
      obtain ⟨next, first, later⟩ := foldlM_cons_ok ran
      exact ih (fun b member => step b (List.mem_cons_of_mem _ member))
        (step a List.mem_cons_self before first) later

/-- A loop over a list that the tick it starts from determines. -/
theorem foldlM {α : Type} (items : Tick → List α) {body : Tick → α → Except PassError Tick}
    (step : ∀ a, Keeps held fun tick => body tick a) :
    Keeps held fun tick => (items tick).foldlM body tick := fun _ _ before ran =>
  loop (fun a _ => step a) before ran

end Keeps

/-- Emissions stamp. -/
theorem stamped_admits (start : Database) : Admits (Stamped start) := by
  intro db after dataset now taskUuid taskType key params held parent inserted
  exact held.trans (Stamped.insert inserted parent ⟨rfl, rfl⟩)

end Emission

end Lcp
