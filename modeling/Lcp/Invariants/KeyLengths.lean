/-
# Invariants.KeyLengths -- when an idempotency key fits its column

`task.idempotency_key` holds 128 characters.  Keys are composed in five modules: the
router forwards a client's key, three services compose one of their own, and
`submit_task` puts the tenant id in front of each; the two passes and the executor
that builds indexes store theirs as they are.

A `Format` is what a key is composed of.  The planner's per-policy key and the
watcher's key always fit.  The other six can be too long when every part is as long
as its own bound lets it be, and `Format.Fits` says when they are not.
-/
import Lcp.Invariants.Producers
import Lcp.Services.IndexService
import Lcp.Services.VectorizationService

namespace Lcp.KeyLengths

open Theory Producers LifecyclePlannerService IndexWatcherService

set_option autoImplicit false

/-- The size of `task.idempotency_key`. -/
def columnSize : Nat := 128

/-- The decimal digits of a row id. -/
def digits (id : Nat) : Nat := (toString id).length

/-! ## Formats -/

/-- What a key is composed of. -/
inductive Format where
  /-- A client's key, scoped. -/
  | client (tenantId key : String)
  | build (tenantId datasetUuid indexName : String) (indexId : Nat)
  | optimize (tenantId datasetUuid indexName : String) (indexId : Nat) (now : DateTime)
  | vectorize (tenantId datasetUuid targetColumn : String) (ruleId : Nat)
  /-- A key of the planner or of the watcher. -/
  | pass (slot : Slot)
  | autoBuild (datasetUuid indexName : String) (indexId : Nat)

namespace Format

/-- The stored key. -/
def text : Format → String
  | .client tenantId key => tenantId ++ ":" ++ key
  | .build tenantId datasetUuid indexName indexId =>
      tenantId ++ ":" ++ ("build:" ++ datasetUuid ++ "/" ++ indexName ++ ":" ++ toString indexId)
  | .optimize tenantId datasetUuid indexName indexId now =>
      tenantId ++ ":" ++ ("optimize:" ++ datasetUuid ++ "/" ++ indexName ++ ":" ++
        toString indexId ++ ":" ++ DateTime.isoformat now)
  | .vectorize tenantId datasetUuid targetColumn ruleId =>
      tenantId ++ ":" ++ ("vectorize:" ++ datasetUuid ++ "/" ++ targetColumn ++ ":" ++
        toString ruleId)
  | .pass slot => slot.key
  | .autoBuild datasetUuid indexName indexId => autoBuildKey datasetUuid indexName indexId

/-- The bounds that columns and request schemas put on the parts. -/
def Bounded : Format → Prop
  | .client tenantId key => tenantId.length ≤ 64 ∧ key.length ≤ 128
  | .build tenantId datasetUuid indexName indexId =>
      tenantId.length ≤ 64 ∧ datasetUuid.length = 36 ∧ indexName.length ≤ 128 ∧ indexId < 2 ^ 64
  | .optimize tenantId datasetUuid indexName indexId now =>
      tenantId.length ≤ 64 ∧ datasetUuid.length = 36 ∧ indexName.length ≤ 128 ∧
        indexId < 2 ^ 64 ∧ now.inRange = true
  | .vectorize tenantId datasetUuid targetColumn ruleId =>
      tenantId.length ≤ 64 ∧ datasetUuid.length = 36 ∧ targetColumn.length ≤ 128 ∧
        ruleId < 2 ^ 64
  | .pass (.policy tenantId policyId _ bucket) =>
      tenantId.length ≤ 64 ∧ policyId < 2 ^ 64 ∧ bucket.val.length ≤ 10
  | .pass (.autoOptimize tenantId datasetUuid indexName hour) =>
      tenantId.length ≤ 64 ∧ datasetUuid.length = 36 ∧ indexName.length ≤ 128 ∧
        hour.val.length = 10
  | .pass (.trigger indexId latestVersion _) => indexId < 2 ^ 64 ∧ latestVersion < 2 ^ 64
  | .autoBuild datasetUuid indexName indexId =>
      datasetUuid.length = 36 ∧ indexName.length ≤ 128 ∧ indexId < 2 ^ 64

/-- The parts leave room for each other. -/
def Fits : Format → Prop
  | .client tenantId key => tenantId.length + key.length ≤ 127
  | .build tenantId _ indexName indexId =>
      tenantId.length + indexName.length + digits indexId ≤ 83
  | .optimize tenantId _ indexName indexId now =>
      tenantId.length + indexName.length + digits indexId ≤
        if now.toNat % 1000000 = 0 then 60 else 53
  | .vectorize tenantId _ targetColumn ruleId =>
      tenantId.length + targetColumn.length + digits ruleId ≤ 79
  | .pass (.autoOptimize tenantId _ indexName _) => tenantId.length + indexName.length ≤ 65
  | .pass _ => True
  | .autoBuild _ indexName indexId => indexName.length + digits indexId ≤ 79

end Format

theorem digits_le {id : Nat} (bound : id < 2 ^ 64) : digits id ≤ 20 :=
  (Nat.length_repr_le_iff (by omega)).2 (Nat.lt_trans bound (by decide))

theorem length_taskType (taskType : TaskType) : taskType.toString.length ≤ 17 := by
  cases taskType <;> decide

theorem length_reason (reason : TriggerReason) : reason.toString.length ≤ 14 := by
  cases reason <;> decide

/-- The planner's per-policy key fits, whatever its parts. -/
theorem policy_fits {tenantId : String} {policyId : Nat} {taskType : TaskType} {bucket : Bucket}
    (bounded : (Format.pass (.policy tenantId policyId taskType bucket)).Bounded) :
    (Format.pass (.policy tenantId policyId taskType bucket)).text.length ≤ columnSize := by
  obtain ⟨tenant, policy, time⟩ := bounded
  have id := digits_le policy
  have type := length_taskType taskType
  have marker : (":lifecycle:" : String).length = 11 := rfl
  have colon : (":" : String).length = 1 := rfl
  simp only [Format.text, Slot.key, idempotencyKey, String.length_append, marker, colon]
  unfold digits at id
  unfold columnSize
  omega

/-- The watcher's key fits, whatever its parts. -/
theorem trigger_fits {indexId version : Nat} {reason : TriggerReason}
    (bounded : (Format.pass (.trigger indexId version reason)).Bounded) :
    (Format.pass (.trigger indexId version reason)).text.length ≤ columnSize := by
  obtain ⟨index, latest⟩ := bounded
  have id := digits_le index
  have read := digits_le latest
  have tag := length_reason reason
  have watcher : ("watcher:" : String).length = 8 := rfl
  have marker : (":INDEX_OPTIMIZE:v" : String).length = 17 := rfl
  have colon : (":" : String).length = 1 := rfl
  simp only [Format.text, Slot.key, triggerKey, String.length_append, watcher, marker, colon]
  unfold digits at id read
  unfold columnSize
  omega

/-- **Within the bounds of its parts, a key fits its column exactly when they leave room.** -/
theorem length_le_iff {format : Format} (bounded : format.Bounded) :
    format.text.length ≤ columnSize ↔ format.Fits := by
  have colon : (":" : String).length = 1 := rfl
  have slash : ("/" : String).length = 1 := rfl
  unfold columnSize
  match format with
  | .client tenantId key =>
      simp only [Format.text, Format.Fits, String.length_append, colon]
      omega
  | .build tenantId datasetUuid indexName indexId =>
      obtain ⟨-, uuid, -, -⟩ := bounded
      have marker : ("build:" : String).length = 6 := rfl
      simp only [Format.text, Format.Fits, digits, String.length_append, marker, colon, slash, uuid]
      omega
  | .optimize tenantId datasetUuid indexName indexId now =>
      obtain ⟨-, uuid, -, -, valid⟩ := bounded
      have marker : ("optimize:" : String).length = 9 := rfl
      have iso := DateTime.length_isoformat valid
      simp only [Format.text, Format.Fits, digits, String.length_append, marker, colon, slash, uuid,
        iso]
      split <;> omega
  | .vectorize tenantId datasetUuid targetColumn ruleId =>
      obtain ⟨-, uuid, -, -⟩ := bounded
      have marker : ("vectorize:" : String).length = 10 := rfl
      simp only [Format.text, Format.Fits, digits, String.length_append, marker, colon, slash, uuid]
      omega
  | .pass (.policy ..) => exact iff_of_true (policy_fits bounded) trivial
  | .pass (.autoOptimize tenantId datasetUuid indexName hour) =>
      obtain ⟨-, uuid, -, time⟩ := bounded
      have marker : (":auto-optimize:" : String).length = 15 := rfl
      simp only [Format.text, Format.Fits, Slot.key, String.length_append, marker, colon, slash,
        uuid, time]
      omega
  | .pass (.trigger ..) => exact iff_of_true (trigger_fits bounded) trivial
  | .autoBuild datasetUuid indexName indexId =>
      obtain ⟨uuid, -, -⟩ := bounded
      have marker : ("auto_build:" : String).length = 11 := rfl
      simp only [Format.text, Format.Fits, digits, autoBuildKey_eq, String.length_append, marker,
        colon, slash, uuid]
      omega

/-! ## Who stores a key -/

/-- The calls that insert a task under a key. -/
inductive Call (Disk : Type) where
  /-- `POST /v1/tasks`. -/
  | submitTask (principal : TenantPrincipal) (request : TaskSubmitRequest) (taskUuid : String)
      (now : DateTime)
  | createIndex (principal : TenantPrincipal) (draws : IndexService.Draws) (newId : Nat)
      (args : IndexService.Creation)
  | optimizeIndex (principal : TenantPrincipal) (draws : IndexService.Draws)
      (datasetUuid indexName : String)
  | submitVectorizeTask (principal : TenantPrincipal) (now : DateTime)
      (taskUuid datasetUuid targetColumn : String)
  | planOnce (principal : TenantPrincipal) (draw : Nat → String) (now : DateTime)
  | runWatchPass (principal : TenantPrincipal) (disk : Disk) (draw : Nat → String)
      (now : DateTime)
  /-- The INDEX_BUILD task of an index that the executor builds by itself. -/
  | autoBuild (dataset : Dataset) (indexName : String) (indexId : Nat) (params : JsonDict)
      (taskUuid : String) (now : DateTime)

/-- The bounds of the stored columns. -/
structure Rows (db : Database) : Prop where
  tenant : ∀ dataset ∈ db.dataset.rows, dataset.tenantId.length ≤ 64
  uuid : ∀ dataset ∈ db.dataset.rows, dataset.datasetUuid.length = 36
  index : ∀ index ∈ db.vectorIndex.rows, index.indexName.length ≤ 128 ∧ index.id < 2 ^ 64
  policy : ∀ policy ∈ db.lifecyclePolicy.rows, policy.id < 2 ^ 64
  rule : ∀ rule ∈ db.vectorizationRule.rows, rule.targetColumn.length ≤ 128 ∧ rule.id < 2 ^ 64

section Calls

variable {Disk : Type} (lance : Pylance Disk)

namespace Call

/-- The rows after the call; one that raises inserts no task. -/
def after (db : Database) : Call Disk → Database
  | .submitTask principal request taskUuid now =>
      match TaskService.submitTask (some principal) now taskUuid
          (TaskService.routerSubmission request) db with
      | .ok (_, next) => next
      | .error _ => db
  | .createIndex principal draws newId args =>
      (IndexService.createIndex (some principal) draws newId args db).2
  | .optimizeIndex principal draws datasetUuid indexName =>
      (IndexService.optimizeIndex (some principal) draws datasetUuid indexName db).2
  | .submitVectorizeTask principal now taskUuid datasetUuid targetColumn =>
      match VectorizationService.submitVectorizeTask (some principal) now taskUuid datasetUuid
          targetColumn db with
      | .ok (_, next) => next
      | .error _ => db
  | .planOnce principal draw now =>
      match LifecyclePlannerService.planOnce draw now (some principal) db with
      | .ok (_, next) => next
      | .error _ => db
  | .runWatchPass principal disk draw now =>
      match IndexWatcherService.runWatchPass lance draw now (some principal) db disk with
      | .ok (_, next) => next
      | .error _ => db
  | .autoBuild dataset indexName indexId params taskUuid now =>
      (TaskService.insertTask (Emission.taskRow dataset now taskUuid .indexBuild
        (autoBuildKey dataset.datasetUuid indexName indexId) params) db).getD db

/-- The bounds of what the call is given, and of the versions that it reads. -/
def Bounded : Call Disk → Prop
  | .submitTask principal .. => principal.tenantId.length ≤ 64
  | .createIndex principal _ newId args =>
      principal.tenantId.length ≤ 64 ∧ args.indexName.length ≤ 128 ∧ newId < 2 ^ 64
  | .optimizeIndex principal draws .. =>
      principal.tenantId.length ≤ 64 ∧ draws.now.inRange = true
  | .submitVectorizeTask principal .. => principal.tenantId.length ≤ 64
  | .planOnce _ _ now => now.inRange = true
  | .runWatchPass _ disk .. =>
      ∀ uri version, lance.latestVersion disk uri = .ok version → version < 2 ^ 64
  | .autoBuild dataset indexName indexId .. =>
      dataset.datasetUuid.length = 36 ∧ indexName.length ≤ 128 ∧ indexId < 2 ^ 64

/-- What the call composes its keys of. -/
inductive Composes (db : Database) : Call Disk → Format → Prop
  | submitTask {principal : TenantPrincipal} {request : TaskSubmitRequest} {taskUuid : String}
      {now : DateTime} {key : String} (given : request.idempotencyKey = some key) :
      Composes db (.submitTask principal request taskUuid now) (.client principal.tenantId key)
  | createIndex {principal : TenantPrincipal} {draws : IndexService.Draws} {newId : Nat}
      {args : IndexService.Creation} :
      Composes db (.createIndex principal draws newId args)
        (.build principal.tenantId args.datasetUuid args.indexName newId)
  | optimizeIndex {principal : TenantPrincipal} {draws : IndexService.Draws}
      {datasetUuid indexName : String} {index : Index}
      (found : IndexService.maybeGetIndex datasetUuid indexName db = some index) :
      Composes db (.optimizeIndex principal draws datasetUuid indexName)
        (.optimize principal.tenantId datasetUuid indexName index.id draws.now)
  | submitVectorizeTask {principal : TenantPrincipal} {now : DateTime}
      {taskUuid datasetUuid targetColumn : String} {rule : VectorizationRule}
      (found : VectorizationService.maybeGetRule datasetUuid targetColumn db = some rule) :
      Composes db (.submitVectorizeTask principal now taskUuid datasetUuid targetColumn)
        (.vectorize principal.tenantId datasetUuid targetColumn rule.id)
  | planOnce {principal : TenantPrincipal} {draw : Nat → String} {now : DateTime} {slot : Slot}
      (wanted : slot ∈ passSlots now db) :
      Composes db (.planOnce principal draw now) (.pass slot)
  | runWatchPass {principal : TenantPrincipal} {disk : Disk} {draw : Nat → String}
      {now : DateTime} {candidate : Candidate} {version : Nat} {reason : TriggerReason}
      (joined : candidate ∈ fetchCandidates db)
      (read : lance.latestVersion disk candidate.dataset.storageUri = .ok version) :
      Composes db (.runWatchPass principal disk draw now)
        (.pass (.trigger candidate.index.id version reason))
  | autoBuild {dataset : Dataset} {indexName : String} {indexId : Nat} {params : JsonDict}
      {taskUuid : String} {now : DateTime} :
      Composes db (.autoBuild dataset indexName indexId params taskUuid now)
        (.autoBuild dataset.datasetUuid indexName indexId)

end Call

variable {lance}

/-- The tasks that were appended are stored under keys that satisfy `made`. -/
def Appended (made : String → Prop) (db next : Database) : Prop :=
  ∃ fresh, next.task.rows = db.task.rows ++ fresh ∧
    ∀ task ∈ fresh, ∀ key ∈ task.idempotencyKey, made key

namespace Appended

variable {made : String → Prop} {db next last : Database}

theorem of_same (same : next.task = db.task) : Appended made db next :=
  ⟨[], by rw [same, List.append_nil], by simp⟩

theorem trans (one : Appended made db next) (two : Appended made next last) :
    Appended made db last := by
  obtain ⟨first, rows, keysFirst⟩ := one
  obtain ⟨second, rowsLast, keysSecond⟩ := two
  refine ⟨first ++ second, by rw [rowsLast, rows, List.append_assoc], fun task member => ?_⟩
  rcases List.mem_append.1 member with inFirst | inSecond
  · exact keysFirst task inFirst
  · exact keysSecond task inSecond

/-- The rows before may differ in the other tables. -/
theorem congr (same : next.task = db.task) (appended : Appended made next last) :
    Appended made db last := by
  unfold Appended at appended ⊢
  rwa [same] at appended

theorem of_insertTask {task : Task} (inserted : TaskService.insertTask task db = some next)
    (keyed : ∀ key ∈ task.idempotencyKey, made key) : Appended made db next := by
  obtain ⟨table, added, rfl, -⟩ := TaskService.insertTask_eq_some inserted
  refine ⟨[task], (Table.insert?_eq_some added).1, fun other member => ?_⟩
  obtain rfl := List.mem_singleton.1 member
  exact keyed

/-- `submit_task` stores the scoped key. -/
theorem of_submitTask {principal : TenantPrincipal} {now : DateTime} {taskUuid : String}
    {args : TaskService.Submission} {answer : Task × Bool}
    (ran : TaskService.submitTask (some principal) now taskUuid args db = .ok (answer, next))
    (stored : ∀ key ∈ TaskService.scopedKey principal args.idempotencyKey, made key) :
    Appended made db next := by
  obtain ⟨caller, same, ⟨-, rfl, -⟩ | ⟨-, -, inserted⟩⟩ := TaskService.submitTask_cases ran
  · exact .of_same rfl
  · obtain rfl := Option.some.inj same
    exact .of_insertTask inserted stored

/-- `create_index` stores the key of the new index. -/
theorem of_createIndex {principal : TenantPrincipal} {draws : IndexService.Draws} {newId : Nat}
    {args : IndexService.Creation} {answer : Except IndexError Index}
    (ran : IndexService.createIndex (some principal) draws newId args db = (answer, next))
    (stored : ∀ key ∈ TaskService.scopedKey principal (args.submission newId).idempotencyKey,
      made key) :
    Appended made db next := by
  cases IndexService.createIndex_effect ran with
  | nothing e => exact .of_same rfl
  | created guard row submitted =>
      have same := (IndexService.insertIndex_task row).trans (IndexService.task_clearName args db)
      exact .congr same (.of_submitTask submitted stored)
  | failed guard row submitted =>
      exact .of_same ((IndexService.insertIndex_task row).trans
        (IndexService.task_clearName args db))

/-- `optimize_index` stores the key of the index that it finds. -/
theorem of_optimizeIndex {principal : TenantPrincipal} {draws : IndexService.Draws}
    {datasetUuid indexName : String} {answer : Except IndexError Index}
    (ran : IndexService.optimizeIndex (some principal) draws datasetUuid indexName db =
      (answer, next))
    (stored : ∀ index, IndexService.maybeGetIndex datasetUuid indexName db = some index →
      ∀ key ∈ TaskService.scopedKey principal
        (IndexService.optimizeSubmission datasetUuid indexName index.id draws.now).idempotencyKey,
        made key) :
    Appended made db next := by
  cases IndexService.optimizeIndex_effect ran with
  | nothing e => exact .of_same rfl
  | @started index _ _ got ready submitted =>
      have same : (IndexService.updateIndex index.id (Index.startOptimize draws.now)
        (Index.id_startOptimize draws.now) db).task = db.task := rfl
      exact .congr same
        (.of_submitTask submitted (stored index (IndexService.getIndex_eq_ok got).2))
  | failed got ready => exact .of_same rfl

/-- The watcher stores trigger keys. -/
theorem of_watched {draw : Nat → String} {now : DateTime} {disk : Disk}
    {candidates : List Candidate} {watch final : Watch}
    (ran : candidates.foldlM (watchCandidate lance draw now disk) watch = .ok final)
    (triggers : ∀ candidate ∈ candidates, ∀ version reason,
      lance.latestVersion disk candidate.dataset.storageUri = .ok version →
        made (triggerKey candidate.index.id version reason)) :
    Appended made watch.tick.db final.tick.db := by
  induction candidates generalizing watch with
  | nil =>
      obtain rfl := Except.ok.inj ran
      exact .of_same rfl
  | cons candidate rest ih =>
      obtain ⟨between, first, later⟩ := Emission.foldlM_cons_ok ran
      have tail := ih later fun other member => triggers other (List.mem_cons_of_mem _ member)
      obtain ⟨-, same⟩ | ⟨reason, version, fired, -, -, emitted⟩ := watchCandidate_cases first
      · rwa [same] at tail
      · obtain ⟨task, -, -, keyed, rows⟩ := emitted.appended
        have one : Appended made watch.tick.db between.tick.db := by
          refine ⟨[task], rows, fun other member key held => ?_⟩
          obtain rfl := List.mem_singleton.1 member
          obtain rfl := Option.some.inj (keyed.symm.trans held)
          exact triggers candidate List.mem_cons_self version reason
            (latestVersion_of_signal fired)
        exact one.trans tail

end Appended

/-- Every key that a call stores is composed of one of its formats. -/
theorem appended_after (db : Database) (call : Call Disk) :
    Appended (fun key => ∃ format, call.Composes lance db format ∧ key = format.text) db
      (call.after lance db) := by
  match call with
  | .submitTask principal request taskUuid now =>
      simp only [Call.after]
      split
      · rename_i ran
        refine .of_submitTask ran fun key stored => ?_
        obtain ⟨given, isGiven, rfl⟩ := Option.map_eq_some_iff.1 stored
        exact ⟨_, .submitTask isGiven, rfl⟩
      · exact .of_same rfl
  | .createIndex principal draws newId args =>
      refine .of_createIndex (Prod.eta _).symm fun key stored => ?_
      obtain rfl := Option.some.inj stored
      exact ⟨_, .createIndex, rfl⟩
  | .optimizeIndex principal draws datasetUuid indexName =>
      refine .of_optimizeIndex (Prod.eta _).symm fun index found key stored => ?_
      obtain rfl := Option.some.inj stored
      exact ⟨_, .optimizeIndex found, rfl⟩
  | .submitVectorizeTask principal now taskUuid datasetUuid targetColumn =>
      simp only [Call.after]
      split
      · rename_i answer next ran
        obtain ⟨dataset, rule, -, found, -, submitted⟩ :=
          VectorizationService.submitVectorizeTask_cases ran
        refine .of_submitTask submitted fun key stored => ?_
        obtain rfl := Option.some.inj stored
        exact ⟨_, .submitVectorizeTask found, rfl⟩
      · exact .of_same rfl
  | .planOnce principal draw now =>
      simp only [Call.after]
      split
      · rename_i tick next ran
        obtain ⟨fresh, rows, -, made, -⟩ := planned_slots ran
        refine ⟨fresh, rows, fun task member key keyed => ?_⟩
        obtain ⟨slot, wanted, made, -⟩ := made task member
        obtain rfl := Option.some.inj (made.key.symm.trans keyed)
        exact ⟨_, .planOnce wanted, rfl⟩
      · exact .of_same rfl
  | .runWatchPass principal disk draw now =>
      simp only [Call.after]
      split
      · rename_i report next ran
        obtain ⟨-, final, looped, rfl, -⟩ := runWatchPass_eq_ok ran
        refine .of_watched looped fun candidate member version reason read => ?_
        exact ⟨_, .runWatchPass member read, rfl⟩
      · exact .of_same rfl
  | .autoBuild dataset indexName indexId params taskUuid now =>
      simp only [Call.after]
      cases inserted : TaskService.insertTask (Emission.taskRow dataset now taskUuid .indexBuild
        (autoBuildKey dataset.datasetUuid indexName indexId) params) db with
      | none => exact .of_same rfl
      | some next =>
          refine .of_insertTask inserted fun key keyed => ?_
          obtain rfl := Option.some.inj keyed
          exact ⟨_, .autoBuild, rfl⟩

/-- A dataset that the caller reaches has a uuid. -/
theorem Rows.length_datasetUuid {db : Database} (rows : Rows db) {principal : TenantPrincipal}
    {datasetUuid : String} {dataset : Dataset}
    (got : DatasetService.getDataset (some principal) datasetUuid db = .ok dataset) :
    datasetUuid.length = 36 := by
  have found := (DatasetService.getDataset_eq_ok got).1
  have length := rows.uuid dataset (Table.mem_of_get found)
  rwa [Table.key_of_get found] at length

/-- The parts of a slot of a policy are within their bounds. -/
theorem Rows.bounded_policySlots {db : Database} (rows : Rows db) {now : DateTime}
    (valid : now.inRange = true) {policy : LifecyclePolicy} {dataset : Dataset}
    (policyId : policy.id < 2 ^ 64) (member : dataset ∈ db.dataset.rows) {slot : Slot}
    (wanted : slot ∈ policySlots now policy dataset db) : (Format.pass slot).Bounded := by
  have day : (Bucket.day now).val.length ≤ 10 :=
    (DateTime.length_strftimeYmd valid).trans_le (by omega)
  have hour : (Bucket.hour now).val.length = 10 := DateTime.length_strftimeYmdH valid
  have tenant := rows.tenant dataset member
  simp only [policySlots, List.mem_append] at wanted
  rcases wanted with ((ttl | compaction) | optimize) | vectorize
  · split at ttl
    · obtain rfl := List.mem_singleton.1 ttl
      exact ⟨tenant, policyId, day⟩
    · cases ttl
  · split at compaction
    · obtain rfl := List.mem_singleton.1 compaction
      exact ⟨tenant, policyId, day⟩
    · cases compaction
  · split at optimize
    · obtain rfl := List.mem_singleton.1 optimize
      exact ⟨tenant, policyId, hour.le⟩
    · obtain ⟨index, hot, rfl⟩ := List.mem_map.1 optimize
      have inTable := (List.mem_filter.1 hot).1
      exact ⟨tenant, rows.uuid dataset member, (rows.index index inTable).1, hour⟩
  · obtain ⟨rule, -, rfl⟩ := List.mem_map.1 vectorize
    exact ⟨tenant, policyId, hour.le⟩

/-- The parts of a composed key are within their bounds. -/
theorem bounded_of_composes {db : Database} {call : Call Disk} {format : Format} (rows : Rows db)
    (bounded : call.Bounded lance) (composes : call.Composes lance db format)
    (appends : ¬ (call.after lance db).task = db.task) : format.Bounded := by
  cases composes with
  | @submitTask principal request taskUuid now key given =>
      exact ⟨bounded, request.idempotencyKey_length key given⟩
  | @createIndex principal draws newId args =>
      obtain ⟨tenant, name, id⟩ := bounded
      refine ⟨tenant, ?_, name, id⟩
      cases got : DatasetService.getDataset (some principal) args.datasetUuid db with
      | error e =>
          refine absurd ?_ appends
          simp only [Call.after, IndexService.createIndex, got]
      | ok dataset => exact rows.length_datasetUuid got
  | @optimizeIndex principal draws datasetUuid indexName index found =>
      obtain ⟨tenant, valid⟩ := bounded
      obtain ⟨member, -, rfl⟩ := IndexService.maybeGetIndex_eq_some found
      refine ⟨tenant, ?_, (rows.index index member).1, (rows.index index member).2, valid⟩
      cases got : DatasetService.getDataset (some principal) datasetUuid db with
      | error e =>
          refine absurd ?_ appends
          simp only [Call.after, IndexService.optimizeIndex, IndexService.getIndex, got]
      | ok dataset => exact rows.length_datasetUuid got
  | @submitVectorizeTask principal now taskUuid datasetUuid targetColumn rule found =>
      obtain ⟨member, -⟩ := VectorizationService.maybeGetRule_eq_some found
      obtain rfl := VectorizationService.targetColumn_of_maybeGetRule found
      refine ⟨bounded, ?_, (rows.rule rule member).1, (rows.rule rule member).2⟩
      cases got : DatasetService.getDataset (some principal) datasetUuid db with
      | error e =>
          refine absurd ?_ appends
          simp only [Call.after, VectorizationService.submitVectorizeTask,
            VectorizationService.getRule, got]
      | ok dataset => exact rows.length_datasetUuid got
  | @planOnce principal draw now slot wanted =>
      obtain ⟨policy, enabled, ofPolicy⟩ := List.mem_flatMap.1 wanted
      have policyId := rows.policy policy (mem_fetchEnabledPolicies.1 enabled).1
      split at ofPolicy
      · cases ofPolicy
      · rename_i dataset found
        exact rows.bounded_policySlots bounded policyId (Table.mem_of_get found) ofPolicy
  | @runWatchPass principal disk draw now candidate version reason joined read =>
      exact ⟨(rows.index _ (mem_fetchCandidates.1 joined).1).2, bounded _ _ read⟩
  | autoBuild => exact bounded

/-- **A stored key fits its column exactly when its parts leave room for each other.** -/
theorem stored_fits_iff {db : Database} {call : Call Disk} (rows : Rows db)
    (bounded : call.Bounded lance) :
    ∃ fresh, (call.after lance db).task.rows = db.task.rows ++ fresh ∧
      ∀ task ∈ fresh, ∀ key ∈ task.idempotencyKey,
        (∃ format, call.Composes lance db format ∧ key = format.text) ∧
          ∀ format, call.Composes lance db format → key = format.text →
            (key.length ≤ columnSize ↔ format.Fits) := by
  have composed : Appended (fun key => ∃ format, call.Composes lance db format ∧ key = format.text)
      db (call.after lance db) := appended_after db call
  obtain ⟨fresh, appended, made⟩ := composed
  refine ⟨fresh, appended, fun task member key keyed =>
    ⟨made task member key keyed, fun format composes spelled => ?_⟩⟩
  have appends : ¬ (call.after lance db).task = db.task := by
    intro same
    rw [same] at appended
    rw [List.append_right_eq_self.1 appended.symm] at member
    cases member
  rw [spelled]
  exact length_le_iff (bounded_of_composes rows bounded composes appends)

end Calls

/-! ## A client key as long as its schema allows -/

private theorem rows_empty : Rows {} where
  tenant := by simp
  uuid := by simp
  index := by simp
  policy := by simp
  rule := by simp

private def nightly : Call Unit :=
  .submitTask (sdkOf "acme")
    { TaskSubmitRequest.compaction with
      idempotencyKey := some "nightly"
      idempotencyKey_length := by decide } "t1" 0

private def longest : Call Unit :=
  .submitTask (sdkOf "acme")
    { TaskSubmitRequest.compaction with
      idempotencyKey := some (String.ofList (List.replicate 128 'k'))
      idempotencyKey_length := by
        intro key given
        obtain rfl := Option.some.inj given
        rw [String.length_ofList, List.length_replicate] } "t1" 0

theorem stored_fits_iff_nightly :
    ∃ fresh, (nightly.after noTables {}).task.rows = [] ++ fresh ∧
      ∀ task ∈ fresh, ∀ key ∈ task.idempotencyKey,
        (∃ format, nightly.Composes noTables {} format ∧ key = format.text) ∧
          ∀ format, nightly.Composes noTables {} format → key = format.text →
            (key.length ≤ columnSize ↔ format.Fits) :=
  stored_fits_iff rows_empty (show (sdkOf "acme").tenantId.length ≤ 64 by decide)

/-- The tenant's prefix does not fit any more. -/
theorem longest_client_key_overflows :
    Rows {} ∧ longest.Bounded noTables ∧
      (longest.after noTables {}).task.rows.map (fun task =>
        task.idempotencyKey.map String.length) = [some 133] ∧ columnSize < 133 :=
  ⟨rows_empty, show (sdkOf "acme").tenantId.length ≤ 64 by decide, by decide +kernel, by decide⟩

end Lcp.KeyLengths
