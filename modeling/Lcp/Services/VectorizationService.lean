/-
# Services.VectorizationService -- the `vectorization_rule` rows of a dataset

A rule is reached through the guard of its dataset.  A PATCH assigns the fields that
its body sets and then checks the merged row: a SCHEDULED rule needs a cron
expression.  A null for a NOT NULL column is refused by the UPDATE.

`submit_vectorize_task` submits under a key of the rule's own row, so a repeated call
finds its task.
-/
import Mathlib.Data.List.Sort
import Lcp.Services.DatasetService
import Lcp.Services.TaskService

namespace Lcp

open Theory

set_option autoImplicit false

inductive RuleError where
  | dataset (error : DatasetError)
  | notFound (message : String)
  | alreadyExists (message : String)
  | validation (message : String)
  | disabled (message : String)
  | integrity
  | submission (error : TaskError)
deriving DecidableEq, Repr

inductive TriggerType where
  | onInsert
  | scheduled
  | manual
deriving DecidableEq, Repr

/-- The stored spelling of a trigger type. -/
def TriggerType.toString : TriggerType → String
  | .onInsert => "ON_INSERT"
  | .scheduled => "SCHEDULED"
  | .manual => "MANUAL"

/-- The check `validate_cron_required_when_scheduled`; an empty expression is falsy. -/
def validateCronRequiredWhenScheduled (triggerType : Option String) (cronExpr : Option String) :
    Except String Unit :=
  if triggerType = some "SCHEDULED" ∧ cronExpr.getD "" = "" then
    .error "cron_expr is required when trigger_type is 'SCHEDULED'"
  else .ok ()

/-- The body of `POST /v1/datasets/{dataset_uuid}/vectorization-rules`. -/
structure RuleCreateRequest where
  targetColumn : String
  sourceColumns : List String
  modelName : String
  modelVersion : String
  modelEndpoint : Option String := none
  batchSize : Nat := 64
  triggerType : TriggerType := .onInsert
  cronExpr : Option String := none
  enabled : Bool := true
  extra : Option JsonDict := none
  targetColumn_length : 1 ≤ targetColumn.length ∧ targetColumn.length ≤ 128 := by decide
  sourceColumns_nonempty : sourceColumns ≠ [] := by decide
  sourceColumns_nonblank :
    ∀ column ∈ sourceColumns, column.toList.any (!pyIsSpace ·) = true := by decide
  modelName_length : 1 ≤ modelName.length ∧ modelName.length ≤ 128 := by decide
  modelVersion_length : 1 ≤ modelVersion.length ∧ modelVersion.length ≤ 64 := by decide
  modelEndpoint_length : ∀ endpoint ∈ modelEndpoint, endpoint.length ≤ 512 := by decide
  batchSize_pos : 1 ≤ batchSize := by decide
  cronExpr_length : ∀ cron ∈ cronExpr, cron.length ≤ 64 := by decide
  scheduled_cron :
    validateCronRequiredWhenScheduled (some triggerType.toString) cronExpr = .ok () := by decide

/-- The body of `PATCH /v1/.../vectorization-rules/{target_column}`. -/
structure RuleUpdateRequest where
  sourceColumns : Patched (List String) := none
  modelName : Patched String := none
  modelVersion : Patched String := none
  modelEndpoint : Patched String := none
  batchSize : Patched Nat := none
  triggerType : Patched TriggerType := none
  cronExpr : Patched String := none
  extra : Patched JsonDict := none
  sourceColumns_nonempty : ∀ columns ∈ sourceColumns.join, columns ≠ [] := by decide
  modelName_length : ∀ name ∈ modelName.join, 1 ≤ name.length ∧ name.length ≤ 128 := by decide
  modelVersion_length :
    ∀ version ∈ modelVersion.join, 1 ≤ version.length ∧ version.length ≤ 64 := by decide
  modelEndpoint_length : ∀ endpoint ∈ modelEndpoint.join, endpoint.length ≤ 512 := by decide
  batchSize_pos : ∀ n ∈ batchSize.join, 1 ≤ n := by decide
  cronExpr_length : ∀ cron ∈ cronExpr.join, cron.length ≤ 64 := by decide

namespace VectorizationRule

/-- The rows the UNIQUE key `uk_dataset_target` allows one of. -/
def named (datasetUuid targetColumn : String) (rule : VectorizationRule) : Bool :=
  rule.datasetUuid = datasetUuid ∧ rule.targetColumn = targetColumn

/-- `update_rule`'s assignments; a null in a NOT NULL column is refused, a null
`source_columns` is a JSON value. -/
def patch (payload : RuleUpdateRequest) (rule : VectorizationRule) : Option VectorizationRule := do
  let modelName ← payload.modelName.ontoRequired rule.modelName
  let modelVersion ← payload.modelVersion.ontoRequired rule.modelVersion
  let batchSize ← payload.batchSize.ontoRequired rule.batchSize
  let triggerType ←
    Patched.ontoRequired (payload.triggerType.map (·.map TriggerType.toString)) rule.triggerType
  return { rule with
    modelName
    modelVersion
    batchSize
    triggerType
    sourceColumns := payload.sourceColumns.onto rule.sourceColumns
    modelEndpoint := payload.modelEndpoint.onto rule.modelEndpoint
    cronExpr := payload.cronExpr.onto rule.cronExpr
    extra := payload.extra.onto rule.extra }

/-- `set_enabled`'s assignment. -/
def setEnabled (enabled : Bool) (rule : VectorizationRule) : VectorizationRule :=
  { rule with enabled }

/-- A PATCH moves no row to another id or dataset. -/
theorem patch_eq_some {payload : RuleUpdateRequest} {rule patched : VectorizationRule}
    (assigned : rule.patch payload = some patched) :
    patched.id = rule.id ∧ patched.datasetUuid = rule.datasetUuid := by
  simp only [patch, bind, Option.bind_eq_some_iff, pure, Option.some.injEq] at assigned
  obtain ⟨_, -, _, -, _, -, _, -, rfl⟩ := assigned
  exact ⟨rfl, rfl⟩

theorem id_patch (payload : RuleUpdateRequest) (rule : VectorizationRule) :
    ((rule.patch payload).getD rule).id = rule.id := by
  cases assigned : rule.patch payload with
  | none => rfl
  | some patched => exact (patch_eq_some assigned).1

theorem id_setEnabled (enabled : Bool) (rule : VectorizationRule) :
    (rule.setEnabled enabled).id = rule.id := rfl

end VectorizationRule

namespace VectorizationService

/-- The row `create_rule` inserts under the id that AUTO_INCREMENT gives. -/
def row (datasetUuid : String) (payload : RuleCreateRequest) (newId : Nat) : VectorizationRule :=
  { id := newId
    datasetUuid
    targetColumn := payload.targetColumn
    sourceColumns := some payload.sourceColumns
    modelName := payload.modelName
    modelVersion := payload.modelVersion
    modelEndpoint := payload.modelEndpoint
    batchSize := payload.batchSize
    triggerType := payload.triggerType.toString
    cronExpr := payload.cronExpr
    enabled := payload.enabled
    extra := payload.extra }

/-- Insert under the primary key and `uk_dataset_target`. -/
def insertRule (rule : VectorizationRule) (db : Database) : Option Database :=
  if db.vectorizationRule.rows.any
      (VectorizationRule.named rule.datasetUuid rule.targetColumn) then none
  else
    (db.vectorizationRule.insert? rule).map fun table => { db with vectorizationRule := table }

variable (principal : Option TenantPrincipal)

/-- The rule row or none; the dataset guard already ran. -/
def maybeGetRule (datasetUuid targetColumn : String) (db : Database) :
    Option VectorizationRule :=
  db.vectorizationRule.rows.find? (VectorizationRule.named datasetUuid targetColumn)

/-- Insert a new rule under the dataset. -/
def createRule (newId : Nat) (datasetUuid : String) (payload : RuleCreateRequest)
    (db : Database) : Except RuleError (VectorizationRule × Database) :=
  match DatasetService.getDataset principal datasetUuid db with
  | .error e => .error (.dataset e)
  | .ok _ =>
      match insertRule (row datasetUuid payload newId) db with
      | some after => .ok (row datasetUuid payload newId, after)
      | none =>
          .error (.alreadyExists ("rule on column " ++ pyRepr payload.targetColumn ++
            " already exists on dataset " ++ datasetUuid))

/-- Return one rule behind the guard of its dataset. -/
def getRule (datasetUuid targetColumn : String) (db : Database) :
    Except RuleError VectorizationRule :=
  match DatasetService.getDataset principal datasetUuid db with
  | .error e => .error (.dataset e)
  | .ok _ =>
      match maybeGetRule datasetUuid targetColumn db with
      | none => .error (.notFound (datasetUuid ++ "/" ++ targetColumn))
      | some rule => .ok rule

/-- The dataset's rules, the latest `created_at` first, and how many they are; the column is
given by the row id, as nothing else reads it. -/
def listRules (createdAt : Nat → DateTime) (datasetUuid : String) (db : Database) :
    Except RuleError (List VectorizationRule × Nat) :=
  match DatasetService.getDataset principal datasetUuid db with
  | .error e => .error (.dataset e)
  | .ok _ =>
      let items := (db.vectorizationRule.rows.filter fun rule =>
        rule.datasetUuid = datasetUuid).insertionSort fun a b => createdAt b.id ≤ createdAt a.id
      .ok (items, items.length)

/-- Assign the fields that the body sets, and check the merged row before the UPDATE. -/
def updateRule (datasetUuid targetColumn : String) (payload : RuleUpdateRequest)
    (db : Database) : Except RuleError (VectorizationRule × Database) :=
  match getRule principal datasetUuid targetColumn db with
  | .error e => .error e
  | .ok rule =>
      let triggerType :=
        Patched.onto (payload.triggerType.map (·.map TriggerType.toString)) rule.triggerType
      match validateCronRequiredWhenScheduled triggerType
          (payload.cronExpr.onto rule.cronExpr) with
      | .error message => .error (.validation message)
      | .ok () =>
          match rule.patch payload with
          | none => .error .integrity
          | some patched =>
              .ok (patched, { db with
                vectorizationRule := db.vectorizationRule.update rule.id
                  (fun row => (row.patch payload).getD row)
                  (VectorizationRule.id_patch payload) })

/-- Delete the row. -/
def deleteRule (datasetUuid targetColumn : String) (db : Database) : Except RuleError Database :=
  match getRule principal datasetUuid targetColumn db with
  | .error e => .error e
  | .ok rule =>
      .ok { db with vectorizationRule := db.vectorizationRule.delete fun row => row.id = rule.id }

/-- Toggle the flag. -/
def setEnabled (datasetUuid targetColumn : String) (enabled : Bool) (db : Database) :
    Except RuleError (VectorizationRule × Database) :=
  match getRule principal datasetUuid targetColumn db with
  | .error e => .error e
  | .ok rule =>
      if rule.enabled ≠ enabled then
        .ok (rule.setEnabled enabled, { db with
          vectorizationRule := db.vectorizationRule.update rule.id
            (VectorizationRule.setEnabled enabled) (VectorizationRule.id_setEnabled enabled) })
      else .ok (rule, db)

/-- The VECTORIZE task of a rule. -/
def vectorizeSubmission (datasetUuid targetColumn : String) (rule : VectorizationRule) :
    TaskService.Submission :=
  { taskType := .vectorize
    datasetUuid
    params := some [("vectorization_rule_id", .int rule.id)]
    idempotencyKey := some ("vectorize:" ++ datasetUuid ++ "/" ++ targetColumn ++ ":" ++
      toString rule.id) }

/-- Enqueue a VECTORIZE task for an enabled rule. -/
def submitVectorizeTask (now : DateTime) (taskUuid datasetUuid targetColumn : String)
    (db : Database) : Except RuleError ((Task × Bool) × Database) :=
  match getRule principal datasetUuid targetColumn db with
  | .error e => .error e
  | .ok rule =>
      if !rule.enabled then
        .error (.disabled ("vectorization rule on " ++ pyRepr targetColumn ++
          " is disabled; enable it before requesting vectorize-now"))
      else
        match TaskService.submitTask principal now taskUuid
            (vectorizeSubmission datasetUuid targetColumn rule) db with
        | .ok answer => .ok answer
        | .error e => .error (.submission e)

/-! ## What each operation can do -/

variable {principal}

theorem maybeGetRule_eq_some {datasetUuid targetColumn : String} {db : Database}
    {rule : VectorizationRule} (found : maybeGetRule datasetUuid targetColumn db = some rule) :
    rule ∈ db.vectorizationRule.rows ∧ rule.datasetUuid = datasetUuid := by
  refine ⟨List.mem_of_find?_eq_some found, ?_⟩
  have named := List.find?_some found
  simp only [VectorizationRule.named, decide_eq_true_eq] at named
  exact named.1

theorem targetColumn_of_maybeGetRule {datasetUuid targetColumn : String} {db : Database}
    {rule : VectorizationRule} (found : maybeGetRule datasetUuid targetColumn db = some rule) :
    rule.targetColumn = targetColumn := by
  have named := List.find?_some found
  simp only [VectorizationRule.named, decide_eq_true_eq] at named
  exact named.2

theorem getRule_eq_ok {datasetUuid targetColumn : String} {db : Database}
    {rule : VectorizationRule}
    (ran : getRule principal datasetUuid targetColumn db = .ok rule) :
    rule ∈ db.vectorizationRule.rows ∧ rule.datasetUuid = datasetUuid := by
  unfold getRule at ran
  split at ran
  · cases ran
  · split at ran
    · cases ran
    · rename_i found
      cases ran
      exact maybeGetRule_eq_some found

theorem insertRule_eq_some {rule : VectorizationRule} {db after : Database}
    (inserted : insertRule rule db = some after) :
    ∃ table, db.vectorizationRule.insert? rule = some table ∧
      after = { db with vectorizationRule := table } := by
  unfold insertRule at inserted
  split at inserted
  · cases inserted
  · obtain ⟨table, added, rfl⟩ := Option.map_eq_some_iff.1 inserted
    exact ⟨table, added, rfl⟩

theorem submitVectorizeTask_cases {now : DateTime} {taskUuid datasetUuid targetColumn : String}
    {db after : Database} {answer : Task × Bool}
    (ran : submitVectorizeTask principal now taskUuid datasetUuid targetColumn db =
      .ok (answer, after)) :
    ∃ dataset rule, DatasetService.getDataset principal datasetUuid db = .ok dataset ∧
      maybeGetRule datasetUuid targetColumn db = some rule ∧ rule.enabled = true ∧
      TaskService.submitTask principal now taskUuid
        (vectorizeSubmission datasetUuid targetColumn rule) db = .ok (answer, after) := by
  unfold submitVectorizeTask getRule at ran
  split at ran
  · cases ran
  · rename_i rule got
    split at got
    · cases got
    · rename_i dataset guard
      split at got
      · cases got
      · rename_i found
        cases got
        split at ran
        · cases ran
        · rename_i enabled
          split at ran
          · rename_i submitted
            cases ran
            exact ⟨dataset, _, guard, found, by simpa using enabled, submitted⟩
          · cases ran

end VectorizationService

end Lcp
