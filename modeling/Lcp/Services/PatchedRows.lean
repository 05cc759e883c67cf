/-
# Services.PatchedRows -- what a PATCH leaves of a valid row

`update_rule` and `update_policy` assign the fields that the body sets to the loaded row,
and the commit sends them in one UPDATE.  Only `update_rule` checks the merged row, and only
its cron expression; every other constraint of a row is left to the body and the columns.

* `patchRow` -- the assignments, the check, the commit and the refresh in one session.
* `updateRule_refines`, `updatePolicy_refines` -- it is the update of the services' model.
* `patch_preserves_validity_iff` -- the bodies that keep a valid row valid.
-/
import Lcp.Services.LifecycleService
import Lcp.Services.VectorizationService
import Lcp.Theory.UnitOfWork

namespace Lcp

open Theory

set_option autoImplicit false

/-! ## Fields of a body -/

namespace Patched

variable {α : Type} {field : Patched α} {old new : α}

/-- A NOT NULL column takes every body but a null. -/
theorem ontoRequired_eq_some :
    field.ontoRequired old = some new ↔ field ≠ some none ∧ new = field.join.getD old := by
  cases field with
  | none =>
      refine ⟨fun same => ⟨by simp, (Option.some.inj same).symm⟩, fun same => ?_⟩
      rw [same.2]
      rfl
  | some value =>
      cases value with
      | none => simp [ontoRequired]
      | some value => simp [ontoRequired, eq_comm]

/-- A constraint on old and new values holds of the column. -/
theorem of_mem_onto {P : α → Prop} {old : Option α} (kept : ∀ a ∈ old, P a)
    (set : ∀ a ∈ field.join, P a) : ∀ a ∈ field.onto old, P a := by
  cases field with
  | none => exact kept
  | some value => exact set

theorem of_ontoRequired {P : α → Prop} (kept : P old) (set : ∀ a ∈ field.join, P a) :
    P (field.join.getD old) := by
  cases same : field.join with
  | none => exact kept
  | some value => exact set value same

end Patched

/-! ## Valid rows -/

/-- The columns satisfy the constraints of `RuleCreateRequest`. -/
def VectorizationRule.Valid (rule : VectorizationRule) : Prop :=
  ∃ payload : RuleCreateRequest, VectorizationService.row rule.datasetUuid payload rule.id = rule

/-- The columns satisfy the constraints of `PolicyCreateRequest`; the planner's own column has
none. -/
def LifecyclePolicy.Valid (policy : LifecyclePolicy) : Prop :=
  ∃ payload : PolicyCreateRequest,
    { LifecycleService.row policy.datasetUuid payload policy.id with
      lastRunAt := policy.lastRunAt } = policy

/-- The merged columns that `update_rule` checks. -/
def VectorizationRule.checkPatch (payload : RuleUpdateRequest) (rule : VectorizationRule) :
    Except String Unit :=
  validateCronRequiredWhenScheduled
    (Patched.onto (payload.triggerType.map (·.map TriggerType.toString)) rule.triggerType)
    (payload.cronExpr.onto rule.cronExpr)

/-- The fields that the body omits, and the columns that it cannot name, are as before. -/
def VectorizationRule.KeepsOmitted (payload : RuleUpdateRequest)
    (rule patched : VectorizationRule) : Prop :=
  (patched.id, patched.datasetUuid, patched.targetColumn, patched.enabled) =
      (rule.id, rule.datasetUuid, rule.targetColumn, rule.enabled) ∧
    (payload.sourceColumns = none → patched.sourceColumns = rule.sourceColumns) ∧
    (payload.modelName = none → patched.modelName = rule.modelName) ∧
    (payload.modelVersion = none → patched.modelVersion = rule.modelVersion) ∧
    (payload.modelEndpoint = none → patched.modelEndpoint = rule.modelEndpoint) ∧
    (payload.batchSize = none → patched.batchSize = rule.batchSize) ∧
    (payload.triggerType = none → patched.triggerType = rule.triggerType) ∧
    (payload.cronExpr = none → patched.cronExpr = rule.cronExpr) ∧
    (payload.extra = none → patched.extra = rule.extra)

@[inherit_doc VectorizationRule.KeepsOmitted]
def LifecyclePolicy.KeepsOmitted (payload : PolicyUpdateRequest)
    (policy patched : LifecyclePolicy) : Prop :=
  (patched.id, patched.datasetUuid, patched.policyName, patched.enabled, patched.lastRunAt) =
      (policy.id, policy.datasetUuid, policy.policyName, policy.enabled, policy.lastRunAt) ∧
    (payload.tierRules = none → patched.tierRules = policy.tierRules) ∧
    (payload.ttlDays = none → patched.ttlDays = policy.ttlDays) ∧
    (payload.compactionThreshold = none →
      patched.compactionThreshold = policy.compactionThreshold) ∧
    (payload.indexOptimizeCron = none → patched.indexOptimizeCron = policy.indexOptimizeCron) ∧
    (payload.indexWatchEnabled = none → patched.indexWatchEnabled = policy.indexWatchEnabled) ∧
    (payload.indexWatchMinUnindexedRows = none →
      patched.indexWatchMinUnindexedRows = policy.indexWatchMinUnindexedRows) ∧
    (payload.indexWatchMinVersionDrift = none →
      patched.indexWatchMinVersionDrift = policy.indexWatchMinVersionDrift) ∧
    (payload.indexWatchStaleMinutes = none →
      patched.indexWatchStaleMinutes = policy.indexWatchStaleMinutes)

/-- The body sets no column to a null that the UPDATE refuses. -/
def RuleUpdateRequest.NotNull (payload : RuleUpdateRequest) : Prop :=
  payload.modelName ≠ some none ∧ payload.modelVersion ≠ some none ∧
    payload.batchSize ≠ some none ∧ payload.triggerType ≠ some none

/-- The source columns that the body sets are columns, and none is blank. -/
def RuleUpdateRequest.NamesColumns (payload : RuleUpdateRequest) : Prop :=
  payload.sourceColumns ≠ some none ∧
    ∀ columns ∈ payload.sourceColumns.join,
      ∀ column ∈ columns, column.toList.any (!pyIsSpace ·) = true

namespace VectorizationRule

variable {payload : RuleUpdateRequest} {rule after : VectorizationRule}

/-- The row that the UPDATE leaves. -/
def patched (payload : RuleUpdateRequest) (rule : VectorizationRule) : VectorizationRule :=
  { rule with
    modelName := payload.modelName.join.getD rule.modelName
    modelVersion := payload.modelVersion.join.getD rule.modelVersion
    batchSize := payload.batchSize.join.getD rule.batchSize
    triggerType := (payload.triggerType.join.map TriggerType.toString).getD rule.triggerType
    sourceColumns := payload.sourceColumns.onto rule.sourceColumns
    modelEndpoint := payload.modelEndpoint.onto rule.modelEndpoint
    cronExpr := payload.cronExpr.onto rule.cronExpr
    extra := payload.extra.onto rule.extra }

theorem join_triggerType :
    Option.join (payload.triggerType.map (·.map TriggerType.toString)) =
      payload.triggerType.join.map TriggerType.toString := by
  cases payload.triggerType with
  | none => rfl
  | some value => rfl

theorem triggerType_eq_null :
    payload.triggerType.map (·.map TriggerType.toString) = some none ↔
      payload.triggerType = some none := by
  cases payload.triggerType with
  | none => simp
  | some value => cases value <;> simp

theorem patch_eq_some_iff :
    rule.patch payload = some after ↔ payload.NotNull ∧ after = rule.patched payload := by
  simp only [patch, bind, Option.bind_eq_some_iff, pure, Option.some.injEq,
    Patched.ontoRequired_eq_some, join_triggerType]
  constructor
  · rintro ⟨_, ⟨name, rfl⟩, _, ⟨version, rfl⟩, _, ⟨size, rfl⟩, _, ⟨trigger, rfl⟩, rfl⟩
    exact ⟨⟨name, version, size, fun null => trigger (triggerType_eq_null.2 null)⟩, rfl⟩
  · rintro ⟨⟨name, version, size, trigger⟩, rfl⟩
    exact ⟨_, ⟨name, rfl⟩, _, ⟨version, rfl⟩, _, ⟨size, rfl⟩, _,
      ⟨fun null => trigger (triggerType_eq_null.1 null), rfl⟩, rfl⟩

theorem keepsOmitted_patched : rule.KeepsOmitted payload (rule.patched payload) := by
  refine ⟨rfl, ?_, ?_, ?_, ?_, ?_, ?_, ?_, ?_⟩ <;>
    · intro omitted
      simp [patched, omitted, Patched.onto]

/-- The trigger type of a patched row is the one that was checked. -/
theorem onto_triggerType (notNull : payload.NotNull) :
    Patched.onto (payload.triggerType.map (·.map TriggerType.toString)) rule.triggerType =
      some (rule.patched payload).triggerType := by
  obtain ⟨-, -, -, notNull⟩ := notNull
  simp only [patched]
  cases same : payload.triggerType with
  | none => rfl
  | some value =>
      cases value with
      | none => exact absurd same notNull
      | some value => rfl

/-- Source columns that no body spoils are still columns. -/
theorem sourceColumns_onto {created : List String} (named : payload.NamesColumns) :
    payload.sourceColumns.onto (some created) =
      some (payload.sourceColumns.join.getD created) := by
  cases same : payload.sourceColumns with
  | none => rfl
  | some value =>
      cases value with
      | none => exact absurd same named.1
      | some columns => rfl

/-- The create request that a valid row and a body amount to. -/
def merge (payload : RuleUpdateRequest) (created : RuleCreateRequest)
    (named : payload.NamesColumns)
    (checked : validateCronRequiredWhenScheduled
      (some (payload.triggerType.join.getD created.triggerType).toString)
      (payload.cronExpr.onto created.cronExpr) = .ok ()) : RuleCreateRequest where
  targetColumn := created.targetColumn
  sourceColumns := payload.sourceColumns.join.getD created.sourceColumns
  modelName := payload.modelName.join.getD created.modelName
  modelVersion := payload.modelVersion.join.getD created.modelVersion
  modelEndpoint := payload.modelEndpoint.onto created.modelEndpoint
  batchSize := payload.batchSize.join.getD created.batchSize
  triggerType := payload.triggerType.join.getD created.triggerType
  cronExpr := payload.cronExpr.onto created.cronExpr
  enabled := created.enabled
  extra := payload.extra.onto created.extra
  targetColumn_length := created.targetColumn_length
  sourceColumns_nonempty :=
    Patched.of_ontoRequired (P := (· ≠ [])) created.sourceColumns_nonempty
      payload.sourceColumns_nonempty
  sourceColumns_nonblank :=
    Patched.of_ontoRequired
      (P := fun columns : List String =>
        ∀ column ∈ columns, column.toList.any (!pyIsSpace ·) = true)
      created.sourceColumns_nonblank named.2
  modelName_length :=
    Patched.of_ontoRequired (P := fun name : String => 1 ≤ name.length ∧ name.length ≤ 128)
      created.modelName_length payload.modelName_length
  modelVersion_length :=
    Patched.of_ontoRequired (P := fun version : String => 1 ≤ version.length ∧ version.length ≤ 64)
      created.modelVersion_length payload.modelVersion_length
  modelEndpoint_length :=
    Patched.of_mem_onto created.modelEndpoint_length payload.modelEndpoint_length
  batchSize_pos :=
    Patched.of_ontoRequired (P := (1 ≤ ·)) created.batchSize_pos payload.batchSize_pos
  cronExpr_length := Patched.of_mem_onto created.cronExpr_length payload.cronExpr_length
  scheduled_cron := checked

/-- A patched row is valid if and only if its source columns are columns. -/
theorem valid_patched_iff (valid : rule.Valid) (notNull : payload.NotNull)
    (checked : rule.checkPatch payload = .ok ()) :
    (rule.patched payload).Valid ↔ payload.NamesColumns := by
  obtain ⟨created, same⟩ := valid
  rw [checkPatch, onto_triggerType notNull] at checked
  constructor
  · rintro ⟨request, built⟩
    have columns : some request.sourceColumns = payload.sourceColumns.onto rule.sourceColumns :=
      congrArg VectorizationRule.sourceColumns built
    constructor
    · intro null
      rw [null] at columns
      cases columns
    · intro set member column inside
      cases body : payload.sourceColumns with
      | none => simp [body] at member
      | some value =>
          obtain rfl : value = some set := by simpa [body] using member
          rw [body] at columns
          obtain rfl : request.sourceColumns = set := Option.some.inj columns
          exact request.sourceColumns_nonblank column inside
  · intro named
    obtain ⟨datasetUuid, id, rfl⟩ :
        ∃ datasetUuid id, rule = VectorizationService.row datasetUuid created id :=
      ⟨_, _, same.symm⟩
    have trigger : (payload.triggerType.join.map TriggerType.toString).getD
        created.triggerType.toString =
          (payload.triggerType.join.getD created.triggerType).toString := by
      cases payload.triggerType.join with
      | none => rfl
      | some value => rfl
    have scheduled : validateCronRequiredWhenScheduled
        (some (payload.triggerType.join.getD created.triggerType).toString)
        (payload.cronExpr.onto created.cronExpr) = .ok () := by
      rw [← trigger]
      exact checked
    refine ⟨merge payload created named scheduled, ?_⟩
    simp only [VectorizationService.row, merge, patched, trigger, sourceColumns_onto named]

end VectorizationRule

namespace LifecyclePolicy

variable {payload : PolicyUpdateRequest} {policy after : LifecyclePolicy}

@[inherit_doc VectorizationRule.patched]
def patched (payload : PolicyUpdateRequest) (policy : LifecyclePolicy) : LifecyclePolicy :=
  { policy with
    indexWatchEnabled := payload.indexWatchEnabled.join.getD policy.indexWatchEnabled
    tierRules := payload.tierRules.onto policy.tierRules
    ttlDays := payload.ttlDays.onto policy.ttlDays
    compactionThreshold := payload.compactionThreshold.onto policy.compactionThreshold
    indexOptimizeCron := payload.indexOptimizeCron.onto policy.indexOptimizeCron
    indexWatchMinUnindexedRows :=
      payload.indexWatchMinUnindexedRows.onto policy.indexWatchMinUnindexedRows
    indexWatchMinVersionDrift :=
      payload.indexWatchMinVersionDrift.onto policy.indexWatchMinVersionDrift
    indexWatchStaleMinutes :=
      payload.indexWatchStaleMinutes.onto policy.indexWatchStaleMinutes }

theorem patch_eq_some_iff :
    policy.patch payload = some after ↔
      payload.indexWatchEnabled ≠ some none ∧ after = policy.patched payload := by
  simp only [patch, Option.map_eq_some_iff, Patched.ontoRequired_eq_some]
  constructor
  · rintro ⟨_, ⟨notNull, rfl⟩, rfl⟩
    exact ⟨notNull, rfl⟩
  · rintro ⟨notNull, rfl⟩
    exact ⟨_, ⟨notNull, rfl⟩, rfl⟩

theorem keepsOmitted_patched : policy.KeepsOmitted payload (policy.patched payload) := by
  refine ⟨rfl, ?_, ?_, ?_, ?_, ?_, ?_, ?_, ?_⟩ <;>
    · intro omitted
      simp [patched, omitted, Patched.onto]

/-- No body of a policy breaks a constraint of its columns. -/
theorem valid_patched (valid : policy.Valid) : (policy.patched payload).Valid := by
  obtain ⟨created, same⟩ := valid
  obtain ⟨datasetUuid, id, lastRunAt, rfl⟩ :
      ∃ datasetUuid id lastRunAt,
        policy = { LifecycleService.row datasetUuid created id with lastRunAt := lastRunAt } :=
    ⟨_, _, _, same.symm⟩
  have old := created.thresholds_pos
  have new := payload.thresholds_pos
  refine ⟨{
    policyName := created.policyName
    tierRules := payload.tierRules.onto created.tierRules
    ttlDays := payload.ttlDays.onto created.ttlDays
    compactionThreshold := payload.compactionThreshold.onto created.compactionThreshold
    indexOptimizeCron := payload.indexOptimizeCron.onto created.indexOptimizeCron
    indexWatchEnabled := payload.indexWatchEnabled.join.getD created.indexWatchEnabled
    indexWatchMinUnindexedRows :=
      payload.indexWatchMinUnindexedRows.onto created.indexWatchMinUnindexedRows
    indexWatchMinVersionDrift :=
      payload.indexWatchMinVersionDrift.onto created.indexWatchMinVersionDrift
    indexWatchStaleMinutes := payload.indexWatchStaleMinutes.onto created.indexWatchStaleMinutes
    enabled := created.enabled
    policyName_length := created.policyName_length
    indexOptimizeCron_length :=
      Patched.of_mem_onto created.indexOptimizeCron_length payload.indexOptimizeCron_length
    thresholds_pos := ?_ }, rfl⟩
  simp only [List.forall_mem_cons, List.not_mem_nil, false_imp_iff, implies_true, and_true]
    at old new ⊢
  exact ⟨Patched.of_mem_onto old.1 new.1, Patched.of_mem_onto old.2.1 new.2.1,
    Patched.of_mem_onto old.2.2.1 new.2.2.1, Patched.of_mem_onto old.2.2.2 new.2.2.2⟩

end LifecyclePolicy

/-! ## The session of a PATCH -/

namespace PatchedRows

section Sessions

variable {ρ ε : Type} [DecidableEq ρ]

/-- The UPDATE of the flush: a null in a NOT NULL column is refused, one without a net change
is not sent, and the database may refuse any other. -/
def sendUpdate (refusal : ε) (refuses : ρ → Bool) (assigned : Option ρ) (row : ρ)
    (store : Database → Database) : Write Database ε := fun db =>
  match assigned with
  | none => .error refusal
  | some patched =>
      if patched ≠ row ∧ refuses patched = true then .error refusal else .ok (store db)

/-- The SELECT of `refresh`. -/
def refresh (refusal : ε) (read : Database → Option ρ) (db : Database) : Except ε ρ :=
  match read db with
  | some row => .ok row
  | none => .error refusal

/-- Assign to the loaded row, check the merged row, commit and load the row again. -/
def patchRow (check : Except ε Unit) (update : Write Database ε)
    (reload : Database → Except ε ρ) (session : UnitOfWork Database ε) :
    Except ε ρ × UnitOfWork Database ε :=
  match check with
  | .error e => (.error e, (session.add update).rollback)
  | .ok () =>
      match (session.add update).commit with
      | (.error e, session) => (.error e, session)
      | (.ok (), session) => (reload session.flushed, session)

/-- The call returned a row that is as `good` says, or it raised an exception of its service and
committed nothing. -/
def Preserves (own : ε → Bool) (good : Database → ρ → Prop) (db : Database) :
    Except ε ρ × UnitOfWork Database ε → Prop
  | (.ok row, session) => good session.committed row
  | (.error e, session) => own e = true ∧ session.committed = db

end Sessions

/-- The exceptions that the services declare; an `IntegrityError` is none of them. -/
def ownRuleError : RuleError → Bool
  | .dataset (.notFound _) | .notFound _ | .alreadyExists _ | .validation _ | .disabled _ => true
  | .dataset _ | .integrity | .submission _ => false

@[inherit_doc ownRuleError]
def ownPolicyError : PolicyError → Bool
  | .dataset (.notFound _) | .notFound _ | .alreadyExists _ => true
  | .dataset _ | .integrity => false

section Calls

variable (caller : TenantPrincipal)

/-- The rows after the UPDATE of a rule. -/
def storeRule (payload : RuleUpdateRequest) (id : Nat) (db : Database) : Database :=
  { db with
    vectorizationRule := db.vectorizationRule.update id
      (fun row => (row.patch payload).getD row) (VectorizationRule.id_patch payload) }

/-- Partial-update a rule; re-checks the trigger type and the cron expression. -/
def updateRule (refuses : VectorizationRule → Bool) (datasetUuid targetColumn : String)
    (payload : RuleUpdateRequest) (db : Database) :
    Except RuleError VectorizationRule × UnitOfWork Database RuleError :=
  match VectorizationService.getRule (some caller) datasetUuid targetColumn db with
  | .error e => (.error e, .begin db)
  | .ok rule =>
      patchRow ((rule.checkPatch payload).mapError .validation)
        (sendUpdate .integrity refuses (rule.patch payload) rule (storeRule payload rule.id))
        (refresh .integrity (·.vectorizationRule.get rule.id)) (.begin db)

/-- The rows after the UPDATE of a policy. -/
def storePolicy (payload : PolicyUpdateRequest) (id : Nat) (db : Database) : Database :=
  { db with
    lifecyclePolicy := db.lifecyclePolicy.update id
      (fun row => (row.patch payload).getD row) (LifecyclePolicy.id_patch payload) }

/-- Partial-update a policy; nothing is checked. -/
def updatePolicy (refuses : LifecyclePolicy → Bool) (datasetUuid policyName : String)
    (payload : PolicyUpdateRequest) (db : Database) :
    Except PolicyError LifecyclePolicy × UnitOfWork Database PolicyError :=
  match LifecycleService.getPolicy (some caller) datasetUuid policyName db with
  | .error e => (.error e, .begin db)
  | .ok policy =>
      patchRow (.ok ())
        (sendUpdate .integrity refuses (policy.patch payload) policy
          (storePolicy payload policy.id))
        (refresh .integrity (·.lifecyclePolicy.get policy.id)) (.begin db)

end Calls

/-! ## What a session does -/

section Sessions

variable {ρ ε : Type}

/-- A rejected merge is rolled back. -/
theorem patchRow_rejected {e : ε} {update : Write Database ε} {reload : Database → Except ε ρ}
    {db : Database} :
    (patchRow (.error e) update reload (.begin db)).1 = .error e ∧
      (patchRow (.error e) update reload (.begin db)).2.committed = db := ⟨rfl, rfl⟩

theorem applied_add_begin {update : Write Database ε} {db : Database} :
    ((UnitOfWork.begin db).add update).applied = update db := by
  rw [UnitOfWork.applied_add]
  rfl

theorem patchRow_refused (reload : Database → Except ε ρ) {e : ε} {update : Write Database ε}
    {db : Database} (refused : update db = .error e) :
    (patchRow (.ok ()) update reload (.begin db)).1 = .error e ∧
      (patchRow (.ok ()) update reload (.begin db)).2.committed = db := by
  obtain ⟨session, raised, kept⟩ :=
    UnitOfWork.commit_of_refused (applied_add_begin.trans refused)
  unfold patchRow
  rw [raised]
  exact ⟨rfl, kept⟩

theorem patchRow_taken (reload : Database → Except ε ρ) {update : Write Database ε}
    {db after : Database} (taken : update db = .ok after) :
    (patchRow (.ok ()) update reload (.begin db)).1 = reload after ∧
      (patchRow (.ok ()) update reload (.begin db)).2.committed = after := by
  unfold patchRow
  rw [UnitOfWork.commit_of_applied (applied_add_begin.trans taken)]
  exact ⟨rfl, rfl⟩

theorem preserves_of_error {own : ε → Bool} {good : Database → ρ → Prop} {db : Database} {e : ε}
    {ran : Except ε ρ × UnitOfWork Database ε} (raised : ran.1 = .error e)
    (kept : ran.2.committed = db) : Preserves own good db ran ↔ own e = true := by
  obtain ⟨answer, session⟩ := ran
  obtain rfl : answer = .error e := raised
  exact ⟨fun lawful => lawful.1, fun mine => ⟨mine, kept⟩⟩

theorem preserves_of_ok {own : ε → Bool} {good : Database → ρ → Prop} {db after : Database}
    {row : ρ} {ran : Except ε ρ × UnitOfWork Database ε} (returned : ran.1 = .ok row)
    (committed : ran.2.committed = after) : Preserves own good db ran ↔ good after row := by
  obtain ⟨answer, session⟩ := ran
  obtain rfl : answer = .ok row := returned
  obtain rfl := committed
  exact Iff.rfl

variable [DecidableEq ρ]

/-- Where the check raises an exception of the service and the row is loaded as it was stored,
a PATCH keeps its promise if and only if a check that passes lets a good row in. -/
theorem preserves_patchRow {own : ε → Bool} {good : Database → ρ → Prop} {db : Database}
    {check : Except ε Unit} {refusal : ε} {refuses : ρ → Bool} {assigned : Option ρ} {row : ρ}
    {store : Database → Database} {read : Database → Option ρ}
    (checks : ∀ e, check = .error e → own e = true) (foreign : own refusal = false)
    (stored : ∀ patched, assigned = some patched → read (store db) = some patched) :
    Preserves own good db
        (patchRow check (sendUpdate refusal refuses assigned row store) (refresh refusal read)
          (.begin db)) ↔
      (check = .ok () → ∃ patched, assigned = some patched ∧
        (patched ≠ row → refuses patched = false) ∧ good (store db) patched) := by
  cases check with
  | error e =>
      refine (preserves_of_error patchRow_rejected.1 patchRow_rejected.2).trans ?_
      exact iff_of_true (checks e rfl) (fun same => by cases same)
  | ok passed =>
      cases assigned with
      | none =>
          have refused : sendUpdate refusal refuses none row store db = .error refusal := rfl
          obtain ⟨raised, kept⟩ := patchRow_refused (refresh refusal read) refused
          refine (preserves_of_error raised kept).trans ?_
          refine iff_of_false (by simp [foreign]) fun lets => ?_
          obtain ⟨patched, same, -⟩ := lets rfl
          cases same
      | some patched =>
          by_cases turned : patched ≠ row ∧ refuses patched = true
          · have refused :
                sendUpdate refusal refuses (some patched) row store db = .error refusal :=
              if_pos turned
            obtain ⟨raised, kept⟩ := patchRow_refused (refresh refusal read) refused
            refine (preserves_of_error raised kept).trans ?_
            refine iff_of_false (by simp [foreign]) fun lets => ?_
            obtain ⟨other, same, accepted, -⟩ := lets rfl
            obtain rfl := Option.some.inj same
            rw [accepted turned.1] at turned
            cases turned.2
          · have taken : sendUpdate refusal refuses (some patched) row store db = .ok (store db) :=
              if_neg turned
            have found : refresh refusal read (store db) = .ok patched := by
              rw [refresh, stored patched rfl]
            obtain ⟨returned, committed⟩ := patchRow_taken (refresh refusal read) taken
            refine (preserves_of_ok (returned.trans found) committed).trans ?_
            constructor
            · intro lawful _
              refine ⟨patched, rfl, fun changed => ?_, lawful⟩
              exact Bool.eq_false_iff.2 fun refused => turned ⟨changed, refused⟩
            · intro lets
              obtain ⟨other, same, -, lawful⟩ := lets rfl
              obtain rfl := Option.some.inj same
              exact lawful

end Sessions

/-! ## Valid rows stay valid -/

section Claims

variable {caller : TenantPrincipal} {db : Database}

/-- A committed rule that is valid and keeps what the body omits. -/
def RulePatched (datasetUuid targetColumn : String) (payload : RuleUpdateRequest)
    (db after : Database) (row : VectorizationRule) : Prop :=
  ∃ rule, VectorizationService.maybeGetRule datasetUuid targetColumn db = some rule ∧
    after.vectorizationRule.get rule.id = some row ∧ row.Valid ∧ rule.KeepsOmitted payload row

/-- A committed policy that is valid and keeps what the body omits. -/
def PolicyPatched (datasetUuid policyName : String) (payload : PolicyUpdateRequest)
    (db after : Database) (row : LifecyclePolicy) : Prop :=
  ∃ policy, LifecycleService.maybeGetPolicy datasetUuid policyName db = some policy ∧
    after.lifecyclePolicy.get policy.id = some row ∧ row.Valid ∧ policy.KeepsOmitted payload row

theorem get_storeRule {payload : RuleUpdateRequest} {rule patched : VectorizationRule}
    (member : rule ∈ db.vectorizationRule.rows) (assigned : rule.patch payload = some patched) :
    (storeRule payload rule.id db).vectorizationRule.get rule.id = some patched := by
  have found : db.vectorizationRule.get rule.id = some rule := Table.get_of_mem member
  rw [storeRule, Table.get_update, if_pos rfl, found, Option.map_some, assigned]
  rfl

theorem get_storePolicy {payload : PolicyUpdateRequest} {policy patched : LifecyclePolicy}
    (member : policy ∈ db.lifecyclePolicy.rows) (assigned : policy.patch payload = some patched) :
    (storePolicy payload policy.id db).lifecyclePolicy.get policy.id = some patched := by
  have found : db.lifecyclePolicy.get policy.id = some policy := Table.get_of_mem member
  rw [storePolicy, Table.get_update, if_pos rfl, found, Option.map_some, assigned]
  rfl

theorem getDataset_own {datasetUuid : String} {e : DatasetError}
    (raised : DatasetService.getDataset (some caller) datasetUuid db = .error e) :
    e = .notFound datasetUuid := by
  unfold DatasetService.getDataset at raised
  simp only at raised
  split at raised
  · exact (Except.error.inj raised).symm
  · split at raised
    · cases raised
    · exact (Except.error.inj raised).symm

theorem getRule_own {datasetUuid targetColumn : String} {e : RuleError}
    (raised : VectorizationService.getRule (some caller) datasetUuid targetColumn db = .error e) :
    ownRuleError e = true := by
  unfold VectorizationService.getRule at raised
  split at raised
  · rename_i guarded
    obtain rfl := Except.error.inj raised
    rw [getDataset_own guarded]
    rfl
  · split at raised
    · obtain rfl := Except.error.inj raised
      rfl
    · cases raised

theorem getPolicy_own {datasetUuid policyName : String} {e : PolicyError}
    (raised : LifecycleService.getPolicy (some caller) datasetUuid policyName db = .error e) :
    ownPolicyError e = true := by
  unfold LifecycleService.getPolicy at raised
  split at raised
  · rename_i guarded
    obtain rfl := Except.error.inj raised
    rw [getDataset_own guarded]
    rfl
  · split at raised
    · obtain rfl := Except.error.inj raised
      rfl
    · cases raised

theorem maybeGetRule_of_getRule {datasetUuid targetColumn : String} {rule : VectorizationRule}
    (got : VectorizationService.getRule (some caller) datasetUuid targetColumn db = .ok rule) :
    VectorizationService.maybeGetRule datasetUuid targetColumn db = some rule := by
  unfold VectorizationService.getRule at got
  split at got
  · cases got
  · split at got
    · cases got
    · rename_i found
      obtain rfl := Except.ok.inj got
      exact found

theorem maybeGetPolicy_of_getPolicy {datasetUuid policyName : String} {policy : LifecyclePolicy}
    (got : LifecycleService.getPolicy (some caller) datasetUuid policyName db = .ok policy) :
    LifecycleService.maybeGetPolicy datasetUuid policyName db = some policy := by
  unfold LifecycleService.getPolicy at got
  split at got
  · cases got
  · split at got
    · cases got
    · rename_i found
      obtain rfl := Except.ok.inj got
      exact found

theorem own_checkPatch {rule : VectorizationRule} {payload : RuleUpdateRequest} {e : RuleError}
    (raised : (rule.checkPatch payload).mapError RuleError.validation = .error e) :
    ownRuleError e = true := by
  cases checked : rule.checkPatch payload with
  | ok passed => rw [checked] at raised; cases raised
  | error message =>
      rw [checked] at raised
      cases raised
      rfl

/-- What a body must be for a rule: its columns are columns, it nulls nothing that the UPDATE
refuses, and the database takes the UPDATE; unless the check of the merged row stops it. -/
def RuleAccepts (refuses : VectorizationRule → Bool) (payload : RuleUpdateRequest)
    (rule : VectorizationRule) : Prop :=
  rule.checkPatch payload = .ok () → payload.NotNull ∧ payload.NamesColumns ∧
    (rule.patched payload ≠ rule → refuses (rule.patched payload) = false)

/-- What a body must be for a policy. -/
def PolicyAccepts (refuses : LifecyclePolicy → Bool) (payload : PolicyUpdateRequest)
    (policy : LifecyclePolicy) : Prop :=
  payload.indexWatchEnabled ≠ some none ∧
    (policy.patched payload ≠ policy → refuses (policy.patched payload) = false)

theorem updateRule_preserves_iff {refuses : VectorizationRule → Bool}
    {datasetUuid targetColumn : String} {payload : RuleUpdateRequest}
    (valid : ∀ rule, VectorizationService.getRule (some caller) datasetUuid targetColumn db =
      .ok rule → rule.Valid) :
    Preserves ownRuleError (RulePatched datasetUuid targetColumn payload db) db
        (updateRule caller refuses datasetUuid targetColumn payload db) ↔
      ∀ rule, VectorizationService.getRule (some caller) datasetUuid targetColumn db = .ok rule →
        RuleAccepts refuses payload rule := by
  unfold updateRule
  cases got : VectorizationService.getRule (some caller) datasetUuid targetColumn db with
  | error e =>
      exact iff_of_true ⟨getRule_own got, rfl⟩ fun rule same => by cases same
  | ok rule =>
      have member := (VectorizationService.getRule_eq_ok got).1
      have found := maybeGetRule_of_getRule got
      simp only [Except.ok.injEq, forall_eq']
      refine (preserves_patchRow (fun e raised => own_checkPatch raised) rfl
        fun patched assigned => get_storeRule member assigned).trans ?_
      rw [mapError_eq_ok]
      refine imp_congr_right fun checked => ?_
      constructor
      · rintro ⟨patched, assigned, taken, rule', found', stored, lawful, -⟩
        obtain ⟨notNull, rfl⟩ := VectorizationRule.patch_eq_some_iff.1 assigned
        exact ⟨notNull, (VectorizationRule.valid_patched_iff (valid rule got) notNull checked).1
          lawful, taken⟩
      · rintro ⟨notNull, named, taken⟩
        have assigned := VectorizationRule.patch_eq_some_iff.2
          ⟨notNull, (rfl : rule.patched payload = rule.patched payload)⟩
        exact ⟨_, assigned, taken, rule, found, get_storeRule member assigned,
          (VectorizationRule.valid_patched_iff (valid rule got) notNull checked).2 named,
          VectorizationRule.keepsOmitted_patched⟩

theorem updatePolicy_preserves_iff {refuses : LifecyclePolicy → Bool}
    {datasetUuid policyName : String} {payload : PolicyUpdateRequest}
    (valid : ∀ policy, LifecycleService.getPolicy (some caller) datasetUuid policyName db =
      .ok policy → policy.Valid) :
    Preserves ownPolicyError (PolicyPatched datasetUuid policyName payload db) db
        (updatePolicy caller refuses datasetUuid policyName payload db) ↔
      ∀ policy, LifecycleService.getPolicy (some caller) datasetUuid policyName db = .ok policy →
        PolicyAccepts refuses payload policy := by
  unfold updatePolicy
  cases got : LifecycleService.getPolicy (some caller) datasetUuid policyName db with
  | error e =>
      exact iff_of_true ⟨getPolicy_own got, rfl⟩ fun policy same => by cases same
  | ok policy =>
      have member := (LifecycleService.getPolicy_eq_ok got).1
      have found := maybeGetPolicy_of_getPolicy got
      simp only [Except.ok.injEq, forall_eq']
      refine (preserves_patchRow (fun e raised => by cases raised) rfl
        fun patched assigned => get_storePolicy member assigned).trans ?_
      constructor
      · intro lets
        obtain ⟨patched, assigned, taken, -⟩ := lets rfl
        obtain ⟨notNull, rfl⟩ := LifecyclePolicy.patch_eq_some_iff.1 assigned
        exact ⟨notNull, taken⟩
      · rintro ⟨notNull, taken⟩ -
        have assigned := LifecyclePolicy.patch_eq_some_iff.2
          ⟨notNull, (rfl : policy.patched payload = policy.patched payload)⟩
        exact ⟨_, assigned, taken, policy, found, get_storePolicy member assigned,
          LifecyclePolicy.valid_patched (valid policy got), LifecyclePolicy.keepsOmitted_patched⟩

/-- **The bodies that keep a valid row valid.**  A PATCH of a valid rule commits a valid row with
the omitted fields as they were, or raises an exception of its service and commits nothing, if
and only if the merged cron check stops it or the body nulls no NOT NULL column, names real
source columns and the database takes the UPDATE.  For a policy the one null that breaks it is
that of `index_watch_enabled`. -/
theorem patch_preserves_validity_iff :
    (∀ (refuses : VectorizationRule → Bool) (datasetUuid targetColumn : String)
      (payload : RuleUpdateRequest),
      (∀ rule, VectorizationService.getRule (some caller) datasetUuid targetColumn db = .ok rule →
        rule.Valid) →
      (Preserves ownRuleError (RulePatched datasetUuid targetColumn payload db) db
          (updateRule caller refuses datasetUuid targetColumn payload db) ↔
        ∀ rule, VectorizationService.getRule (some caller) datasetUuid targetColumn db =
          .ok rule → RuleAccepts refuses payload rule)) ∧
      ∀ (refuses : LifecyclePolicy → Bool) (datasetUuid policyName : String)
        (payload : PolicyUpdateRequest),
        (∀ policy, LifecycleService.getPolicy (some caller) datasetUuid policyName db =
          .ok policy → policy.Valid) →
        (Preserves ownPolicyError (PolicyPatched datasetUuid policyName payload db) db
            (updatePolicy caller refuses datasetUuid policyName payload db) ↔
          ∀ policy, LifecycleService.getPolicy (some caller) datasetUuid policyName db =
            .ok policy → PolicyAccepts refuses payload policy) :=
  ⟨fun _ _ _ _ => updateRule_preserves_iff, fun _ _ _ _ => updatePolicy_preserves_iff⟩

/-! ## The services' model -/

/-- What a session answers and commits, as the services' functions return it. -/
def outcome {ρ ε : Type} (ran : Except ε ρ × UnitOfWork Database ε) : Except ε (ρ × Database) :=
  ran.1.map fun row => (row, ran.2.committed)

/-- The outcome with a database that takes every row. -/
theorem outcome_patchRow {ρ ε : Type} [DecidableEq ρ] {check : Except ε Unit} {refusal : ε}
    {assigned : Option ρ} {row : ρ} {store : Database → Database} {read : Database → Option ρ}
    (stored : ∀ patched, assigned = some patched → read (store db) = some patched) :
    outcome (patchRow check (sendUpdate refusal (fun _ => false) assigned row store)
        (refresh refusal read) (.begin db)) =
      check.bind fun _ =>
        match assigned with
        | none => .error refusal
        | some patched => .ok (patched, store db) := by
  cases check with
  | error e => rfl
  | ok passed =>
      cases assigned with
      | none =>
          have refused : sendUpdate refusal (fun _ => false) none row store db =
            .error refusal := rfl
          rw [outcome, (patchRow_refused (refresh refusal read) refused).1]
          rfl
      | some patched =>
          have taken : sendUpdate refusal (fun _ => false) (some patched) row store db =
            .ok (store db) := if_neg (by simp)
          obtain ⟨returned, committed⟩ := patchRow_taken (refresh refusal read) taken
          rw [outcome, returned, committed, refresh, stored patched rfl]
          rfl

/-- With a database that takes every row, the session is the service's update. -/
theorem updateRule_refines {datasetUuid targetColumn : String} {payload : RuleUpdateRequest} :
    outcome (updateRule caller (fun _ => false) datasetUuid targetColumn payload db) =
      VectorizationService.updateRule (some caller) datasetUuid targetColumn payload db := by
  unfold updateRule VectorizationService.updateRule
  cases got : VectorizationService.getRule (some caller) datasetUuid targetColumn db with
  | error e => rfl
  | ok rule =>
      have member := (VectorizationService.getRule_eq_ok got).1
      refine (outcome_patchRow fun patched assigned => get_storeRule member assigned).trans ?_
      simp only [VectorizationRule.checkPatch]
      cases validateCronRequiredWhenScheduled
          (Patched.onto (payload.triggerType.map (·.map TriggerType.toString)) rule.triggerType)
          (payload.cronExpr.onto rule.cronExpr) with
      | error message => rfl
      | ok passed =>
          cases rule.patch payload with
          | none => rfl
          | some patched => rfl

@[inherit_doc updateRule_refines]
theorem updatePolicy_refines {datasetUuid policyName : String} {payload : PolicyUpdateRequest} :
    outcome (updatePolicy caller (fun _ => false) datasetUuid policyName payload db) =
      LifecycleService.updatePolicy (some caller) datasetUuid policyName payload db := by
  unfold updatePolicy LifecycleService.updatePolicy
  cases got : LifecycleService.getPolicy (some caller) datasetUuid policyName db with
  | error e => rfl
  | ok policy =>
      have member := (LifecycleService.getPolicy_eq_ok got).1
      refine (outcome_patchRow fun patched assigned => get_storePolicy member assigned).trans ?_
      cases assigned : policy.patch payload with
      | none => simp only [assigned]; rfl
      | some patched => simp only [assigned]; rfl

section Examples

/-- A rule as `create_rule` stores it. -/
private def embedding : RuleCreateRequest :=
  { targetColumn := "embedding", sourceColumns := ["title"], modelName := "bge"
    modelVersion := "1" }

private def library : Database :=
  { dataset := .single
      { datasetUuid := "d1", catalog := "c", dbSchema := "s", tableName := "t"
        storageUri := "uri", tenantId := "acme" }
    vectorizationRule := .single (VectorizationService.row "d1" embedding 7) }

private theorem found_embedding {rule : VectorizationRule}
    (got : VectorizationService.getRule acmeSdk "d1" "embedding" library = .ok rule) :
    rule.Valid := by
  have stored := VectorizationService.getRule_eq_ok got
  obtain rfl : rule = VectorizationService.row "d1" embedding 7 := by
    simpa [library, Table.single] using stored.1
  exact ⟨embedding, rfl⟩

/-- A new source column is taken. -/
theorem patch_preserves_validity_iff_body :
    Preserves ownRuleError
      (RulePatched "d1" "embedding" { sourceColumns := some (some ["body"]) } library) library
      (updateRule (sdkOf "acme") (fun _ => false) "d1" "embedding"
        { sourceColumns := some (some ["body"]) } library) :=
  (patch_preserves_validity_iff.1 _ _ _ _ fun _ got => found_embedding got).2 fun _ _ _ =>
    ⟨⟨by decide, by decide, by decide, by decide⟩, ⟨by decide, by decide⟩, fun _ => rfl⟩

/-- A blank entry is committed, and a null escapes as the error of the database. -/
theorem patch_breaks_validity :
    (VectorizationService.row "d1" embedding 7).Valid ∧
      (¬ Preserves ownRuleError
        (RulePatched "d1" "embedding" { sourceColumns := some (some [" "]) } library) library
        (updateRule (sdkOf "acme") (fun _ => false) "d1" "embedding"
          { sourceColumns := some (some [" "]) } library)) ∧
      ¬ Preserves ownRuleError
        (RulePatched "d1" "embedding" { modelName := some none } library) library
        (updateRule (sdkOf "acme") (fun _ => false) "d1" "embedding" { modelName := some none }
          library) := by
  have got : VectorizationService.getRule acmeSdk "d1" "embedding" library =
    .ok (VectorizationService.row "d1" embedding 7) := rfl
  refine ⟨⟨embedding, rfl⟩, fun kept => ?_, fun kept => ?_⟩
  · have accepted := (updateRule_preserves_iff fun _ got => found_embedding got).1 kept _ got rfl
    have nonblank := accepted.2.1.2 [" "] rfl " " (by decide)
    exact absurd nonblank (by decide)
  · have accepted := (updateRule_preserves_iff fun _ got => found_embedding got).1 kept _ got rfl
    exact accepted.1.1 rfl

end Examples

end Claims

end PatchedRows

end Lcp
