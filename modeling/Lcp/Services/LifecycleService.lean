/-
# Services.LifecycleService -- the `lifecycle_policy` rows of a dataset

The table has no tenant column, so every operation passes the guard of the parent
dataset first.  A PATCH assigns the fields that its body sets; a null for a NOT NULL
column is refused by the UPDATE, and then nothing is committed.
-/
import Mathlib.Data.List.Sort
import Lcp.Services.DatasetService

namespace Lcp

open Theory

set_option autoImplicit false

inductive PolicyError where
  | dataset (error : DatasetError)
  | notFound (message : String)
  | alreadyExists (message : String)
  | integrity
deriving DecidableEq, Repr

/-- The body of `POST /v1/datasets/{dataset_uuid}/lifecycle-policies`. -/
structure PolicyCreateRequest where
  policyName : String
  tierRules : Option JsonDict := none
  ttlDays : Option Nat := none
  compactionThreshold : Option JsonDict := none
  indexOptimizeCron : Option String := none
  indexWatchEnabled : Bool := false
  indexWatchMinUnindexedRows : Option Nat := some 1000
  indexWatchMinVersionDrift : Option Nat := some 1
  indexWatchStaleMinutes : Option Nat := some 30
  enabled : Bool := true
  policyName_length : 1 ≤ policyName.length ∧ policyName.length ≤ 128 := by decide
  indexOptimizeCron_length : ∀ cron ∈ indexOptimizeCron, cron.length ≤ 64 := by decide
  thresholds_pos : ∀ field ∈ [ttlDays, indexWatchMinUnindexedRows, indexWatchMinVersionDrift,
    indexWatchStaleMinutes], ∀ n ∈ field, 1 ≤ n := by decide

/-- The body of `PATCH /v1/.../lifecycle-policies/{policy_name}`. -/
structure PolicyUpdateRequest where
  tierRules : Patched JsonDict := none
  ttlDays : Patched Nat := none
  compactionThreshold : Patched JsonDict := none
  indexOptimizeCron : Patched String := none
  indexWatchEnabled : Patched Bool := none
  indexWatchMinUnindexedRows : Patched Nat := none
  indexWatchMinVersionDrift : Patched Nat := none
  indexWatchStaleMinutes : Patched Nat := none
  indexOptimizeCron_length : ∀ cron ∈ indexOptimizeCron.join, cron.length ≤ 64 := by decide
  thresholds_pos : ∀ field ∈ [ttlDays, indexWatchMinUnindexedRows, indexWatchMinVersionDrift,
    indexWatchStaleMinutes], ∀ n ∈ field.join, 1 ≤ n := by decide

namespace LifecyclePolicy

/-- The rows the UNIQUE key `uk_dataset_policy` allows one of. -/
def named (datasetUuid policyName : String) (policy : LifecyclePolicy) : Bool :=
  policy.datasetUuid = datasetUuid ∧ policy.policyName = policyName

/-- `update_policy`'s assignments; a null `index_watch_enabled` is refused. -/
def patch (payload : PolicyUpdateRequest) (policy : LifecyclePolicy) : Option LifecyclePolicy :=
  (payload.indexWatchEnabled.ontoRequired policy.indexWatchEnabled).map fun indexWatchEnabled =>
    { policy with
      indexWatchEnabled
      tierRules := payload.tierRules.onto policy.tierRules
      ttlDays := payload.ttlDays.onto policy.ttlDays
      compactionThreshold := payload.compactionThreshold.onto policy.compactionThreshold
      indexOptimizeCron := payload.indexOptimizeCron.onto policy.indexOptimizeCron
      indexWatchMinUnindexedRows :=
        payload.indexWatchMinUnindexedRows.onto policy.indexWatchMinUnindexedRows
      indexWatchMinVersionDrift :=
        payload.indexWatchMinVersionDrift.onto policy.indexWatchMinVersionDrift
      indexWatchStaleMinutes :=
        payload.indexWatchStaleMinutes.onto policy.indexWatchStaleMinutes }

/-- `set_enabled`'s assignment. -/
def setEnabled (enabled : Bool) (policy : LifecyclePolicy) : LifecyclePolicy :=
  { policy with enabled }

/-- A PATCH moves no row to another id or dataset. -/
theorem patch_eq_some {payload : PolicyUpdateRequest} {policy patched : LifecyclePolicy}
    (assigned : policy.patch payload = some patched) :
    patched.id = policy.id ∧ patched.datasetUuid = policy.datasetUuid := by
  obtain ⟨_, -, rfl⟩ := Option.map_eq_some_iff.1 assigned
  exact ⟨rfl, rfl⟩

theorem id_patch (payload : PolicyUpdateRequest) (policy : LifecyclePolicy) :
    ((policy.patch payload).getD policy).id = policy.id := by
  cases assigned : policy.patch payload with
  | none => rfl
  | some patched => exact (patch_eq_some assigned).1

theorem id_setEnabled (enabled : Bool) (policy : LifecyclePolicy) :
    (policy.setEnabled enabled).id = policy.id := rfl

end LifecyclePolicy

namespace LifecycleService

/-- The object that `create_policy` builds, under the id that AUTO_INCREMENT gives. -/
def row (datasetUuid : String) (payload : PolicyCreateRequest) (newId : Nat) : LifecyclePolicy :=
  { id := newId
    datasetUuid
    policyName := payload.policyName
    tierRules := payload.tierRules
    ttlDays := payload.ttlDays
    compactionThreshold := payload.compactionThreshold
    indexOptimizeCron := payload.indexOptimizeCron
    indexWatchEnabled := payload.indexWatchEnabled
    indexWatchMinUnindexedRows := payload.indexWatchMinUnindexedRows
    indexWatchMinVersionDrift := payload.indexWatchMinVersionDrift
    indexWatchStaleMinutes := payload.indexWatchStaleMinutes
    enabled := payload.enabled }

/-- The row of the INSERT: an attribute that is null is left out, and the column takes its
default. -/
def insertedRow (datasetUuid : String) (payload : PolicyCreateRequest) (newId : Nat) :
    LifecyclePolicy :=
  { row datasetUuid payload newId with
    indexWatchMinUnindexedRows := some (payload.indexWatchMinUnindexedRows.getD 1000)
    indexWatchMinVersionDrift := some (payload.indexWatchMinVersionDrift.getD 1)
    indexWatchStaleMinutes := some (payload.indexWatchStaleMinutes.getD 30) }

/-- Insert under the primary key and `uk_dataset_policy`. -/
def insertPolicy (policy : LifecyclePolicy) (db : Database) : Option Database :=
  if db.lifecyclePolicy.rows.any
      (LifecyclePolicy.named policy.datasetUuid policy.policyName) then none
  else (db.lifecyclePolicy.insert? policy).map fun table => { db with lifecyclePolicy := table }

/-- The policy row or none; the dataset guard already ran. -/
def maybeGetPolicy (datasetUuid policyName : String) (db : Database) : Option LifecyclePolicy :=
  db.lifecyclePolicy.rows.find? (LifecyclePolicy.named datasetUuid policyName)

variable (principal : Option TenantPrincipal)

/-- Insert a new policy under the dataset. -/
def createPolicy (newId : Nat) (datasetUuid : String) (payload : PolicyCreateRequest)
    (db : Database) : Except PolicyError (LifecyclePolicy × Database) :=
  match DatasetService.getDataset principal datasetUuid db with
  | .error e => .error (.dataset e)
  | .ok _ =>
      match insertPolicy (insertedRow datasetUuid payload newId) db with
      | some after => .ok (insertedRow datasetUuid payload newId, after)
      | none =>
          .error (.alreadyExists ("policy " ++ pyRepr payload.policyName ++
            " already exists on dataset " ++ datasetUuid))

/-- Return one policy behind the guard of its dataset. -/
def getPolicy (datasetUuid policyName : String) (db : Database) :
    Except PolicyError LifecyclePolicy :=
  match DatasetService.getDataset principal datasetUuid db with
  | .error e => .error (.dataset e)
  | .ok _ =>
      match maybeGetPolicy datasetUuid policyName db with
      | none => .error (.notFound (datasetUuid ++ "/" ++ policyName))
      | some policy => .ok policy

/-- The dataset's policies, the latest `created_at` first, and how many they are; the column
is given by the row id, as nothing else reads it. -/
def listPolicies (createdAt : Nat → DateTime) (datasetUuid : String) (db : Database) :
    Except PolicyError (List LifecyclePolicy × Nat) :=
  match DatasetService.getDataset principal datasetUuid db with
  | .error e => .error (.dataset e)
  | .ok _ =>
      let items := (db.lifecyclePolicy.rows.filter fun policy =>
        policy.datasetUuid = datasetUuid).insertionSort fun a b => createdAt b.id ≤ createdAt a.id
      .ok (items, items.length)

/-- Assign the fields that the body sets. -/
def updatePolicy (datasetUuid policyName : String) (payload : PolicyUpdateRequest)
    (db : Database) : Except PolicyError (LifecyclePolicy × Database) :=
  match getPolicy principal datasetUuid policyName db with
  | .error e => .error e
  | .ok policy =>
      match policy.patch payload with
      | none => .error .integrity
      | some patched =>
          .ok (patched, { db with
            lifecyclePolicy := db.lifecyclePolicy.update policy.id
              (fun row => (row.patch payload).getD row) (LifecyclePolicy.id_patch payload) })

/-- Delete the row. -/
def deletePolicy (datasetUuid policyName : String) (db : Database) :
    Except PolicyError Database :=
  match getPolicy principal datasetUuid policyName db with
  | .error e => .error e
  | .ok policy =>
      .ok { db with lifecyclePolicy := db.lifecyclePolicy.delete fun row => row.id = policy.id }

/-- Toggle the flag. -/
def setEnabled (datasetUuid policyName : String) (enabled : Bool) (db : Database) :
    Except PolicyError (LifecyclePolicy × Database) :=
  match getPolicy principal datasetUuid policyName db with
  | .error e => .error e
  | .ok policy =>
      if policy.enabled ≠ enabled then
        .ok (policy.setEnabled enabled, { db with
          lifecyclePolicy := db.lifecyclePolicy.update policy.id
            (LifecyclePolicy.setEnabled enabled) (LifecyclePolicy.id_setEnabled enabled) })
      else .ok (policy, db)

/-! ## What each operation can do -/

variable {principal}

theorem maybeGetPolicy_eq_some {datasetUuid policyName : String} {db : Database}
    {policy : LifecyclePolicy} (found : maybeGetPolicy datasetUuid policyName db = some policy) :
    policy ∈ db.lifecyclePolicy.rows ∧ policy.datasetUuid = datasetUuid := by
  refine ⟨List.mem_of_find?_eq_some found, ?_⟩
  have named := List.find?_some found
  simp only [LifecyclePolicy.named, decide_eq_true_eq] at named
  exact named.1

theorem getPolicy_eq_ok {datasetUuid policyName : String} {db : Database}
    {policy : LifecyclePolicy}
    (ran : getPolicy principal datasetUuid policyName db = .ok policy) :
    policy ∈ db.lifecyclePolicy.rows ∧ policy.datasetUuid = datasetUuid := by
  unfold getPolicy at ran
  split at ran
  · cases ran
  · split at ran
    · cases ran
    · rename_i found
      cases ran
      exact maybeGetPolicy_eq_some found

theorem insertPolicy_eq_some {policy : LifecyclePolicy} {db after : Database}
    (inserted : insertPolicy policy db = some after) :
    ∃ table, db.lifecyclePolicy.insert? policy = some table ∧
      after = { db with lifecyclePolicy := table } := by
  unfold insertPolicy at inserted
  split at inserted
  · cases inserted
  · obtain ⟨table, added, rfl⟩ := Option.map_eq_some_iff.1 inserted
    exact ⟨table, added, rfl⟩

end LifecycleService

end Lcp
