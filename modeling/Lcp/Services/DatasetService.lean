/-
# Services.DatasetService -- datasets and their soft deletion

`get_dataset` is the guard of every service under a dataset: the RLS hook hides
the rows of other tenants from it, and it treats a DELETED row as no row.
-/
import Lcp.Core.Python
import Lcp.Core.Tenant
import Lcp.Db.Models

namespace Lcp

open Theory

set_option autoImplicit false

inductive DatasetError where
  | noPrincipal
  | permission
  | notFound (datasetUuid : String)
  | alreadyExists (message : String)
deriving DecidableEq, Repr

/-- The body of `POST /v1/datasets`. -/
structure DatasetRegisterRequest where
  catalog : String
  dbSchema : String
  tableName : String
  storageUri : String
  owner : Option String := none
  description : Option String := none

/-- `delete_dataset`'s assignment. -/
def Dataset.softDelete (dataset : Dataset) : Dataset := { dataset with status := .deleted }

theorem Dataset.datasetUuid_softDelete (dataset : Dataset) :
    dataset.softDelete.datasetUuid = dataset.datasetUuid := rfl

namespace DatasetService

variable (principal : Option TenantPrincipal)

/-- The row `create_dataset` inserts; `datasetUuid` is the drawn `uuid4`. -/
def row (payload : DatasetRegisterRequest) (caller : TenantPrincipal) (datasetUuid : String) :
    Dataset :=
  { datasetUuid
    catalog := payload.catalog
    dbSchema := payload.dbSchema
    tableName := payload.tableName
    storageUri := payload.storageUri
    tenantId := caller.tenantId
    owner := payload.owner
    description := payload.description
    status := .active }

/-- Insert under the UNIQUE keys `dataset_uuid` and `(catalog, db_schema, table_name)`. -/
def insertDataset (dataset : Dataset) (db : Database) : Option Database :=
  if db.dataset.rows.any fun other =>
      (other.catalog, other.dbSchema, other.tableName) =
        (dataset.catalog, dataset.dbSchema, dataset.tableName) then none
  else (db.dataset.insert? dataset).map fun table => { db with dataset := table }

/-- Insert a new dataset row. -/
def createDataset (datasetUuid : String) (payload : DatasetRegisterRequest) (db : Database) :
    Except DatasetError (Dataset × Database) :=
  match principal with
  | none => .error .noPrincipal
  | some caller =>
      match insertDataset (row payload caller datasetUuid) db with
      | some after => .ok (row payload caller datasetUuid, after)
      | none =>
          .error (.alreadyExists ("dataset " ++ payload.catalog ++ "." ++ payload.dbSchema ++
            "." ++ payload.tableName ++ " already exists"))

/-- Fetch one dataset; a DELETED one counts as absent. -/
def getDataset (datasetUuid : String) (db : Database) : Except DatasetError Dataset :=
  match principal with
  | none => .error .permission
  | some caller =>
      match db.dataset.get datasetUuid with
      | none => .error (.notFound datasetUuid)
      | some dataset =>
          if caller.sees dataset.tenantId ∧ dataset.status ≠ .deleted then .ok dataset
          else .error (.notFound datasetUuid)

/-- Flip the status to DELETED. -/
def deleteDataset (datasetUuid : String) (db : Database) : Except DatasetError Database := do
  let _ ← getDataset principal datasetUuid db
  return { db with
    dataset := db.dataset.update datasetUuid Dataset.softDelete Dataset.datasetUuid_softDelete }

/-! ## What each operation can do -/

variable {principal}

/-- The guard lets through the datasets that are visible and not DELETED. -/
theorem getDataset_eq_ok {datasetUuid : String} {db : Database} {dataset : Dataset}
    (ran : getDataset principal datasetUuid db = .ok dataset) :
    db.dataset.get datasetUuid = some dataset ∧ dataset.status ≠ .deleted ∧
      ∃ caller, principal = some caller ∧ caller.sees dataset.tenantId = true := by
  unfold getDataset at ran
  split at ran
  · cases ran
  · rename_i caller
    split at ran
    · cases ran
    · rename_i found
      split at ran
      · rename_i guard
        cases ran
        exact ⟨found, guard.2, caller, rfl, guard.1⟩
      · cases ran

theorem createDataset_cases {datasetUuid : String} {payload : DatasetRegisterRequest}
    {db after : Database} {answer : Dataset}
    (ran : createDataset principal datasetUuid payload db = .ok (answer, after)) :
    ∃ caller table, principal = some caller ∧ answer = row payload caller datasetUuid ∧
      db.dataset.insert? answer = some table ∧ after = { db with dataset := table } := by
  unfold createDataset at ran
  split at ran
  · cases ran
  · rename_i caller
    split at ran
    · rename_i inserted
      cases ran
      unfold insertDataset at inserted
      split at inserted
      · cases inserted
      · simp only [Option.map_eq_some_iff] at inserted
        obtain ⟨table, added, rfl⟩ := inserted
        exact ⟨caller, table, rfl, rfl, added, rfl⟩
    · cases ran

theorem deleteDataset_cases {datasetUuid : String} {db after : Database}
    (ran : deleteDataset principal datasetUuid db = .ok after) :
    ∃ dataset, getDataset principal datasetUuid db = .ok dataset ∧
      after = { db with
        dataset := db.dataset.update datasetUuid Dataset.softDelete
          Dataset.datasetUuid_softDelete } := by
  unfold deleteDataset at ran
  obtain ⟨dataset, got, ran⟩ := bind_eq_ok ran
  cases ran
  exact ⟨dataset, got, rfl⟩

end DatasetService

end Lcp
