/-
# Invariants.Registrations -- what stands in the way of a registration

The UNIQUE key of a dataset is that of the catalog, not of a tenant, and a deleted dataset
keeps its row.  So `create_dataset` conflicts with rows that the caller cannot get: those of
another tenant, and its own deleted ones.

A run is a list of registrations, deletions and passes of the meta sync, of any tenants.
-/
import Lcp.Services.MetaSyncPasses
import Lcp.Theory.Machine

namespace Lcp.Registrations

open Theory MetaSyncService

set_option autoImplicit false

/-! ## Runs -/

inductive Action where
  | createDataset (caller : TenantPrincipal) (datasetUuid : String)
      (payload : DatasetRegisterRequest)
  | deleteDataset (caller : TenantPrincipal) (datasetUuid : String)
  | reconcileSchema (sync : Sync) (dryRun : Bool) (schema : String)

/-- The rows that are committed when a call ends, by return or by exception. -/
def step (db : Database) : Action → Option Database
  | .createDataset caller datasetUuid payload =>
      match DatasetService.createDataset (some caller) datasetUuid payload db with
      | .ok (_, after) => some after
      | .error _ => some db
  | .deleteDataset caller datasetUuid =>
      match DatasetService.deleteDataset (some caller) datasetUuid db with
      | .ok after => some after
      | .error _ => some db
  | .reconcileSchema sync dryRun schema =>
      some (reconcileSchema sync dryRun schema (.begin db)).2.committed

def registrations : Machine Database Action := ⟨step⟩

/-- The names in use; the UNIQUE key allows one row of each. -/
def names (db : Database) : List (String × String × String) :=
  db.dataset.rows.map Dataset.qualifiedName

/-- The name that a registration asks for. -/
def requested (payload : DatasetRegisterRequest) : String × String × String :=
  (payload.catalog, payload.dbSchema, payload.tableName)

/-! ## One row of a name -/

theorem names_insertDataset {dataset : Dataset} {db after : Database}
    (inserted : DatasetService.insertDataset dataset db = some after) :
    dataset.qualifiedName ∉ names db ∧ names after = names db ++ [dataset.qualifiedName] := by
  unfold DatasetService.insertDataset at inserted
  split at inserted
  · cases inserted
  · rename_i free
    obtain ⟨table, added, rfl⟩ := Option.map_eq_some_iff.1 inserted
    refine ⟨fun taken => free ?_, ?_⟩
    · obtain ⟨other, member, same⟩ := List.mem_map.1 taken
      exact List.any_eq_true.2 ⟨other, member, decide_eq_true same⟩
    · rw [names, (Table.insert?_eq_some added).1, List.map_append]
      rfl

theorem nodup_insertDataset {dataset : Dataset} {db after : Database} (unique : (names db).Nodup)
    (inserted : DatasetService.insertDataset dataset db = some after) : (names after).Nodup := by
  obtain ⟨free, added⟩ := names_insertDataset inserted
  rw [added]
  exact List.nodup_append.2 ⟨unique, by simp, fun name used other last same =>
    free (List.mem_singleton.1 last ▸ same ▸ used)⟩

/-- An UPDATE that leaves the name alone. -/
theorem names_update (assign : Dataset → Dataset) {datasetUuid : String}
    (keeps : ∀ dataset, (assign dataset).datasetUuid = dataset.datasetUuid) {db : Database}
    (same : ∀ dataset, (assign dataset).qualifiedName = dataset.qualifiedName) :
    names { db with dataset := db.dataset.update datasetUuid assign keeps } = names db := by
  simp only [names, Table.rows_update, List.map_map]
  refine List.map_congr_left fun dataset _ => ?_
  simp only [Function.comp]
  split
  · exact same dataset
  · rfl

theorem nodup_syncFileset {sync : Sync} {dryRun : Bool} {schema name : String}
    {fileset : Gravitino.Fileset} {db after : Database} {result total : MetaSyncResult}
    (unique : (names db).Nodup)
    (ran : syncFileset sync dryRun schema name fileset db result = .ok (after, total)) :
    (names after).Nodup := by
  unfold syncFileset at ran
  split at ran
  · cases ran
  · obtain ⟨next, written, same⟩ := map_eq_ok ran
    obtain ⟨rfl, -⟩ := Prod.mk.inj same
    split at written
    · obtain rfl := Except.ok.inj written
      exact unique
    · unfold Sync.insert at written
      split at written
      · cases written
      · split at written
        · rename_i inserted
          obtain rfl := Except.ok.inj written
          exact nodup_insertDataset unique inserted
        · cases written
  · split at ran
    · obtain ⟨next, written, same⟩ := map_eq_ok ran
      obtain ⟨rfl, -⟩ := Prod.mk.inj same
      split at written
      · obtain rfl := Except.ok.inj written
        exact unique
      · unfold Sync.update at written
        split at written
        · cases written
        · obtain rfl := Except.ok.inj written
          rw [names_update (Dataset.assign fileset) (Dataset.datasetUuid_assign fileset)
            fun _ => rfl]
          exact unique
    · obtain ⟨rfl, -⟩ := Prod.mk.inj (Except.ok.inj ran)
      exact unique

theorem nodup_syncNames {sync : Sync} {dryRun : Bool} {schema : String} {filesets : List String}
    {db after : Database} {result total : MetaSyncResult} (unique : (names db).Nodup)
    (ran : syncNames sync dryRun schema filesets db result = .ok (after, total)) :
    (names after).Nodup := by
  induction filesets generalizing db result with
  | nil =>
      obtain ⟨rfl, -⟩ := Prod.mk.inj (Except.ok.inj ran)
      exact unique
  | cons name rest ih =>
      unfold syncNames at ran
      split at ran
      · exact ih unique ran
      · cases ran
      · obtain ⟨⟨next, between⟩, stepped, later⟩ := bind_eq_ok ran
        exact ih (nodup_syncFileset unique stepped) later

/-- No call of any tenant gives a name a second row. -/
theorem nodup_step {db after : Database} {action : Action} (unique : (names db).Nodup)
    (stepped : registrations.step db action = some after) : (names after).Nodup := by
  cases action with
  | createDataset caller datasetUuid payload =>
      unfold registrations step DatasetService.createDataset at stepped
      simp only at stepped
      cases inserted : DatasetService.insertDataset
          (DatasetService.row payload caller datasetUuid) db with
      | none =>
          rw [inserted] at stepped
          obtain rfl := Option.some.inj stepped
          exact unique
      | some next =>
          rw [inserted] at stepped
          obtain rfl := Option.some.inj stepped
          exact nodup_insertDataset unique inserted
  | deleteDataset caller datasetUuid =>
      unfold registrations step at stepped
      simp only at stepped
      split at stepped
      · rename_i deleted
        obtain rfl := Option.some.inj stepped
        obtain ⟨-, -, rfl⟩ := DatasetService.deleteDataset_cases deleted
        rw [names_update Dataset.softDelete Dataset.datasetUuid_softDelete fun _ => rfl]
        exact unique
      · obtain rfl := Option.some.inj stepped
        exact unique
  | reconcileSchema sync dryRun schema =>
      obtain rfl := Option.some.inj stepped
      have realized := reconcileSchema_realizes sync dryRun schema (rested_begin db)
      cases sent : syncSchema sync dryRun schema db with
      | error e =>
          rw [sent] at realized
          rw [realized.2]
          exact unique
      | ok outcome =>
          obtain ⟨last, total⟩ := outcome
          rw [sent] at realized
          rw [realized.2.1]
          unfold syncSchema at sent
          split at sent
          · cases sent
          · obtain ⟨rfl, -⟩ := Prod.mk.inj (Except.ok.inj sent)
            exact unique
          · exact nodup_syncNames unique sent

/-- In every reachable state a name has at most one row. -/
theorem nodup_names {as : List Action} {db : Database}
    (ran : registrations.run {} as = some db) : (names db).Nodup := by
  have empty : (names ({} : Database)).Nodup := List.nodup_nil
  exact Machine.inv_of_run (I := fun db => (names db).Nodup) (fun _ _ _ => nodup_step) empty ran

/-! ## Conflicts -/

/-- The caller has a dataset of this name that `get_dataset` returns. -/
def Holds (caller : TenantPrincipal) (payload : DatasetRegisterRequest) (db : Database) : Prop :=
  ∃ dataset ∈ db.dataset.rows, dataset.qualifiedName = requested payload ∧
    DatasetService.getDataset (some caller) dataset.datasetUuid db = .ok dataset

/-- A registration conflicts with the caller's own datasets alone, and otherwise commits a new
ACTIVE row. -/
def Lawful (caller : TenantPrincipal) (payload : DatasetRegisterRequest) (datasetUuid : String)
    (db : Database) : Prop :=
  match DatasetService.createDataset (some caller) datasetUuid payload db with
  | .error (.alreadyExists _) => Holds caller payload db
  | .error _ => False
  | .ok (dataset, after) =>
      ¬ Holds caller payload db ∧ dataset = DatasetService.row payload caller datasetUuid ∧
        dataset.status = .active ∧ after.dataset.rows = db.dataset.rows ++ [dataset]

/-- What has the name is visible to the caller and not deleted. -/
def Unobstructed (caller : TenantPrincipal) (payload : DatasetRegisterRequest) (db : Database) :
    Prop :=
  ∀ dataset ∈ db.dataset.rows, dataset.qualifiedName = requested payload →
    caller.sees dataset.tenantId = true ∧ dataset.status ≠ .deleted

section Claims

variable {caller : TenantPrincipal} {payload : DatasetRegisterRequest} {datasetUuid : String}
variable {db : Database}

theorem getDataset_of_mem {dataset : Dataset} (member : dataset ∈ db.dataset.rows) :
    DatasetService.getDataset (some caller) dataset.datasetUuid db = .ok dataset ↔
      caller.sees dataset.tenantId = true ∧ dataset.status ≠ .deleted := by
  have found : db.dataset.get dataset.datasetUuid = some dataset := Table.get_of_mem member
  unfold DatasetService.getDataset
  rw [found]
  simp only
  split
  · rename_i visible
    exact iff_of_true rfl visible
  · rename_i hidden
    exact iff_of_false (fun same => by cases same) hidden

/-- A name that is taken, and one that is not. -/
theorem createDataset_of_name (caller : TenantPrincipal) (fresh : datasetUuid ∉ db.dataset.keys) :
    (requested payload ∈ names db ∧
      ∃ message, DatasetService.createDataset (some caller) datasetUuid payload db =
        .error (.alreadyExists message)) ∨
      (requested payload ∉ names db ∧
        ∃ after, DatasetService.createDataset (some caller) datasetUuid payload db =
          .ok (DatasetService.row payload caller datasetUuid, after) ∧
          after.dataset.rows =
            db.dataset.rows ++ [DatasetService.row payload caller datasetUuid]) := by
  unfold DatasetService.createDataset
  simp only
  by_cases taken : requested payload ∈ names db
  · refine .inl ⟨taken, ?_⟩
    obtain ⟨other, member, same⟩ := List.mem_map.1 taken
    have refused : DatasetService.insertDataset
        (DatasetService.row payload caller datasetUuid) db = none :=
      if_pos (List.any_eq_true.2 ⟨other, member, decide_eq_true same⟩)
    rw [refused]
    exact ⟨_, rfl⟩
  · refine .inr ⟨taken, ?_⟩
    obtain ⟨table, added⟩ := Table.exists_insert?
      (r := DatasetService.row payload caller datasetUuid) fresh
    have inserted : DatasetService.insertDataset
        (DatasetService.row payload caller datasetUuid) db =
          some { db with dataset := table } := by
      rw [DatasetService.insertDataset, if_neg, added]
      · rfl
      · intro any
        obtain ⟨other, member, same⟩ := List.any_eq_true.1 any
        exact taken (List.mem_map.2 ⟨other, member, of_decide_eq_true same⟩)
    rw [inserted]
    exact ⟨_, rfl, (Table.insert?_eq_some added).1⟩

/-- Where names are unique, a taken name is the caller's if and only if nothing obstructs it. -/
theorem holds_iff (unique : (names db).Nodup) (taken : requested payload ∈ names db) :
    Holds caller payload db ↔ Unobstructed caller payload db := by
  obtain ⟨dataset, member, same⟩ := List.mem_map.1 taken
  have only : ∀ other ∈ db.dataset.rows, other.qualifiedName = requested payload →
      other = dataset := fun other present named =>
    List.inj_on_of_nodup_map unique present member (named.trans same.symm)
  constructor
  · rintro ⟨other, present, named, got⟩ third presentToo namedToo
    rw [only third presentToo namedToo, ← only other present named]
    exact (getDataset_of_mem present).1 got
  · intro clear
    exact ⟨dataset, member, same, (getDataset_of_mem member).2 (clear dataset member same)⟩

/-- **When registration conflicts are the tenant's own.**  In every state that registrations,
deletions and meta syncs of any tenants reach, `create_dataset` with a fresh id raises where
the caller holds a dataset of that name and commits a new ACTIVE row otherwise, if and only if
no other tenant's row and no deleted row has the name. -/
theorem registration_conflicts_iff {as : List Action}
    (ran : registrations.run {} as = some db) (fresh : datasetUuid ∉ db.dataset.keys) :
    Lawful caller payload datasetUuid db ↔ Unobstructed caller payload db := by
  have unique := nodup_names ran
  unfold Lawful
  rcases createDataset_of_name caller fresh with
    ⟨taken, message, raised⟩ | ⟨free, after, created, rows⟩
  · rw [raised]
    exact holds_iff unique taken
  · rw [created]
    have none_ : ∀ dataset ∈ db.dataset.rows, dataset.qualifiedName ≠ requested payload :=
      fun dataset member named => free (List.mem_map.2 ⟨dataset, member, named⟩)
    refine iff_of_true ⟨?_, rfl, rfl, rows⟩ fun dataset member named =>
      absurd named (none_ dataset member)
    rintro ⟨dataset, member, named, -⟩
    exact none_ dataset member named

section Examples

private def docs : DatasetRegisterRequest :=
  { catalog := "lance", dbSchema := "public", tableName := "docs", storageUri := "s3://docs" }

/-- `acme` cannot register its own table twice. -/
theorem registration_conflicts_iff_own :
    ∃ db, registrations.run {} [.createDataset (sdkOf "acme") "d1" docs] = some db ∧
      Lawful (sdkOf "acme") docs "d2" db := by
  refine ⟨_, rfl, (registration_conflicts_iff
    (rfl : registrations.run {} [.createDataset (sdkOf "acme") "d1" docs] = some _)
    (by decide)).2 ?_⟩
  intro dataset member named
  obtain rfl := List.mem_singleton.1 member
  decide

/-- The table of another tenant, and a deleted table of its own, stop `acme` as well. -/
theorem foreign_and_deleted_conflict :
    (∃ db, registrations.run {} [.createDataset (sdkOf "globex") "d1" docs] = some db ∧
      (DatasetService.createDataset acmeSdk "d2" docs db).map (·.1) =
        .error (.alreadyExists "dataset lance.public.docs already exists") ∧
      ¬ Lawful (sdkOf "acme") docs "d2" db) ∧
    ∃ db, registrations.run {} [.createDataset (sdkOf "acme") "d1" docs,
        .deleteDataset (sdkOf "acme") "d1"] = some db ∧
      (DatasetService.createDataset acmeSdk "d2" docs db).map (·.1) =
        .error (.alreadyExists "dataset lance.public.docs already exists") ∧
      ¬ Lawful (sdkOf "acme") docs "d2" db := by
  constructor
  · refine ⟨_, rfl, rfl, ?_⟩
    rintro ⟨dataset, member, -, got⟩
    obtain rfl := List.mem_singleton.1 member
    cases got
  · refine ⟨_, rfl, rfl, ?_⟩
    rintro ⟨dataset, member, -, got⟩
    obtain rfl := List.mem_singleton.1 member
    cases got

end Examples

end Claims

end Lcp.Registrations
