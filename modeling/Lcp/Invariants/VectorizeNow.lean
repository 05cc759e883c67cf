/-
# Invariants.VectorizeNow -- one VECTORIZE task for the life of a rule

`submit_vectorize_task` composes its key of the rule's row alone.  A task that
succeeds, fails or is cancelled stays in the table and keeps its key.  So the first call
of a tenant commits a task, and every later one is answered with that task, in whatever
state it is by then (`one_task_of_rule`).

In a run the invariant is `Settled`: who holds a key of the rule is a VECTORIZE task
for the rule, and the other way round.
-/
import Lcp.Invariants.TaskRows
import Lcp.Services.VectorizationService
import Lcp.Workers.LifecycleWorkerService

namespace Lcp.VectorizeNow

open Theory VectorizationService

set_option autoImplicit false

/-! ## A rule and its tasks -/

/-- The part of a rule's row that no request changes. -/
structure Rule where
  id : Nat
  datasetUuid : String
  targetColumn : String
deriving DecidableEq

namespace Rule

/-- The stored key of the rule's task for callers of a tenant. -/
def key (rule : Rule) (tenantId : String) : String :=
  tenantId ++ ":" ++ ("vectorize:" ++ rule.datasetUuid ++ "/" ++ rule.targetColumn ++ ":" ++
    toString rule.id)

/-- A VECTORIZE task that a caller of the tenant asked for. -/
structure Serves (rule : Rule) (tenantId : String) (task : Task) : Prop where
  taskType : task.taskType = .vectorize
  dataset : task.datasetUuid = rule.datasetUuid
  params : task.params = some [("vectorization_rule_id", .int rule.id)]
  tenant : task.tenantId = tenantId

/-- The row may be the rule's: ids are given once, and a PATCH moves no row. -/
def Admits (rule : Rule) (row : VectorizationRule) : Prop :=
  row.id ≠ rule.id ∨ (row.datasetUuid = rule.datasetUuid ∧ row.targetColumn = rule.targetColumn)

instance (rule : Rule) : DecidablePred rule.Admits :=
  fun _ => inferInstanceAs (Decidable (_ ∨ _))

/-- The row id is the last segment of the key. -/
theorem id_of_key {one two : Rule} {t u : String} (same : one.key t = two.key u) :
    one.id = two.id := by
  have chars := congrArg String.toList same
  have colon : (":" : String).toList = [':'] := rfl
  simp only [key, String.toList_append, colon] at chars
  obtain ⟨-, ids⟩ := KeyText.append_cons_inj_right (KeyText.notMem_toString rfl one.id)
    (KeyText.notMem_toString rfl two.id)
    (a := t.toList ++ ':' :: ("vectorize:".toList ++ (one.datasetUuid.toList ++
      ("/".toList ++ one.targetColumn.toList))))
    (b := u.toList ++ ':' :: ("vectorize:".toList ++ (two.datasetUuid.toList ++
      ("/".toList ++ two.targetColumn.toList))))
    (by simpa [List.append_assoc] using chars)
  exact Nat.repr_injective (String.toList_inj.1 ids)

/-- The keys of two tenants differ. -/
theorem tenant_of_key {rule : Rule} {t u : String} (same : rule.key t = rule.key u) : t = u := by
  have chars := congrArg String.toList same
  simp only [key, String.toList_append, List.append_assoc] at chars
  exact String.toList_inj.1 (List.append_cancel_right chars)

end Rule

/-! ## Histories -/

inductive Action (Disk : Type) where
  | submitVectorizeTask (principal : Option TenantPrincipal) (now : DateTime)
      (taskUuid datasetUuid targetColumn : String)
  /-- A claim, a completion, a failure, a cancel, a retry or a pass of the reaper. -/
  | call (op : Operation)
  /-- A worker claims a task, executes and finalizes it. -/
  | runIteration (principal : Option TenantPrincipal) (context : ExecutorContext)
      (finishedAt claimedAt : DateTime) (config : LifecycleWorkerService.WorkerConfig)
      (disk : Disk)
  /-- The rest of the control plane: it enables and disables rules, and writes other tables. -/
  | elsewhere (others : Database)

section Histories

variable {Disk : Type} (lance : Pylance Disk) (rule : Rule)

/-- The rows after an action; a call that raises leaves them alone. -/
def step (db : Database) : Action Disk → Option Database
  | .submitVectorizeTask principal now taskUuid datasetUuid targetColumn =>
      match VectorizationService.submitVectorizeTask principal now taskUuid datasetUuid
          targetColumn db with
      | .ok (_, after) => some after
      | .error _ => some db
  | .call op => if op.submits then none else some (op.apply db)
  | .runIteration principal context finishedAt claimedAt config disk =>
      some (LifecycleWorkerService.runIteration principal context finishedAt claimedAt
        (buildDefaultRegistry lance) config db disk).db
  | .elsewhere others =>
      if ∀ row ∈ others.vectorizationRule.rows, rule.Admits row then
        some { others with task := db.task }
      else none

/-- Histories of the tasks of one rule. -/
def history : Machine Database (Action Disk) where
  step := step lance rule

end Histories

/-! ## The invariant -/

/-- Who holds a key of the rule is a VECTORIZE task for it, and no two rows hold one key. -/
structure Settled (rule : Rule) (db : Database) : Prop where
  rules : ∀ row ∈ db.vectorizationRule.rows, rule.Admits row
  keyed : ∀ task ∈ db.task.rows, ∀ tenantId,
    task.idempotencyKey = some (rule.key tenantId) ↔ rule.Serves tenantId task
  unique : ∀ one ∈ db.task.rows, ∀ two ∈ db.task.rows, one.idempotencyKey.isSome →
    one.idempotencyKey = two.idempotencyKey → one = two

theorem fixed_identity : Task.Fixed TaskRows.identity :=
  ⟨fun _ _ => rfl, fun _ => rfl, fun _ _ _ => rfl, fun _ _ _ => rfl, fun _ _ _ _ => rfl,
    fun _ => rfl⟩

section Steps

variable {Disk : Type} {lance : Pylance Disk} {rule : Rule} {db after : Database}

theorem serves_congr {one two : Task} (same : TaskRows.identity one = TaskRows.identity two)
    (tenantId : String) : rule.Serves tenantId one ↔ rule.Serves tenantId two := by
  simp only [TaskRows.identity, Prod.mk.injEq] at same
  obtain ⟨-, tenant, dataset, type, params, -, -⟩ := same
  constructor
  · rintro ⟨isType, inDataset, ofRule, ofTenant⟩
    exact ⟨type ▸ isType, dataset ▸ inDataset, params ▸ ofRule, tenant ▸ ofTenant⟩
  · rintro ⟨isType, inDataset, ofRule, ofTenant⟩
    exact ⟨type ▸ isType, dataset ▸ inDataset, params ▸ ofRule, tenant ▸ ofTenant⟩

/-- Rewrites that keep the requests keep the invariant. -/
theorem Settled.of_columns (settled : Settled rule db)
    (rules : ∀ row ∈ after.vectorizationRule.rows, rule.Admits row)
    (columns : after.task.rows.map TaskRows.identity = db.task.rows.map TaskRows.identity) :
    Settled rule after := by
  have before : ∀ task ∈ after.task.rows,
      ∃ old ∈ db.task.rows, TaskRows.identity old = TaskRows.identity task := by
    intro task member
    have listed : TaskRows.identity task ∈ db.task.rows.map TaskRows.identity :=
      columns ▸ List.mem_map_of_mem member
    exact List.mem_map.1 listed
  have keyOf : ∀ {one two : Task}, TaskRows.identity one = TaskRows.identity two →
      one.idempotencyKey = two.idempotencyKey := by
    intro one two same
    simp only [TaskRows.identity, Prod.mk.injEq] at same
    exact same.2.2.2.2.2.2
  refine ⟨rules, fun task member tenantId => ?_, fun one inOne two inTwo keyed same => ?_⟩
  · obtain ⟨old, inDb, identity⟩ := before task member
    rw [← keyOf identity, ← serves_congr identity tenantId]
    exact settled.keyed old inDb tenantId
  · obtain ⟨first, inFirst, identityOne⟩ := before one inOne
    obtain ⟨second, inSecond, identityTwo⟩ := before two inTwo
    have keys : first.idempotencyKey = second.idempotencyKey :=
      (keyOf identityOne).trans (same.trans (keyOf identityTwo).symm)
    obtain rfl := settled.unique first inFirst second inSecond
      (by rw [keyOf identityOne]; exact keyed) keys
    exact Table.eq_of_key_eq inOne inTwo
      (congrArg Prod.fst (identityOne.symm.trans identityTwo))

/-- The row that `submit_vectorize_task` inserts. -/
def submitted (caller : TenantPrincipal) (now : DateTime) (taskUuid datasetUuid : String)
    (targetColumn : String) (row : VectorizationRule) : Task :=
  (vectorizeSubmission datasetUuid targetColumn row).row caller taskUuid now

/-- Its key and its request are those of one rule. -/
theorem submitted_iff {caller : TenantPrincipal} {now : DateTime}
    {taskUuid datasetUuid targetColumn tenantId : String} {row : VectorizationRule}
    (admitted : rule.Admits row) (dataset : row.datasetUuid = datasetUuid)
    (column : row.targetColumn = targetColumn) :
    ((submitted caller now taskUuid datasetUuid targetColumn row).idempotencyKey =
        some (rule.key tenantId) ↔
      rule.Serves tenantId (submitted caller now taskUuid datasetUuid targetColumn row)) := by
  have keyed : (submitted caller now taskUuid datasetUuid targetColumn row).idempotencyKey =
      some (Rule.key ⟨row.id, datasetUuid, targetColumn⟩ caller.tenantId) := rfl
  rw [keyed, Option.some.injEq]
  constructor
  · intro same
    have ids : row.id = rule.id := Rule.id_of_key same
    rcases admitted with other | ⟨inDataset, inColumn⟩
    · exact absurd ids other
    · obtain rfl : (⟨row.id, datasetUuid, targetColumn⟩ : Rule) = rule := by
        rw [← dataset, ← column, inDataset, inColumn, ids]
      exact ⟨rfl, rfl, rfl, Rule.tenant_of_key same⟩
  · rintro ⟨-, -, params, tenant⟩
    have casts : (row.id : Int) = rule.id := by
      simpa [submitted, vectorizeSubmission, TaskService.Submission.row] using params
    have ids : row.id = rule.id := Int.ofNat_inj.1 casts
    rcases admitted with other | ⟨inDataset, inColumn⟩
    · exact absurd ids other
    · obtain rfl : (⟨row.id, datasetUuid, targetColumn⟩ : Rule) = rule := by
        rw [← dataset, ← column, inDataset, inColumn, ids]
      obtain rfl : caller.tenantId = tenantId := tenant
      rfl

/-- A submission keeps the invariant. -/
theorem Settled.submit (settled : Settled rule db) {principal : Option TenantPrincipal}
    {now : DateTime} {taskUuid datasetUuid targetColumn : String} {answer : Task × Bool}
    (ran : submitVectorizeTask principal now taskUuid datasetUuid targetColumn db =
      .ok (answer, after)) : Settled rule after := by
  obtain ⟨dataset, row, -, found, -, ran⟩ := submitVectorizeTask_cases ran
  obtain ⟨caller, -, ⟨-, rfl, -⟩ | ⟨-, -, inserted⟩⟩ := TaskService.submitTask_cases ran
  · exact settled
  · obtain ⟨member, inDataset⟩ := maybeGetRule_eq_some found
    have admitted := settled.rules row member
    have column := targetColumn_of_maybeGetRule found
    obtain ⟨table, added, rfl, free⟩ := TaskService.insertTask_eq_some inserted
    have mem_iff : ∀ task, task ∈ table.rows ↔
        task ∈ db.task.rows ∨ task = submitted caller now taskUuid datasetUuid targetColumn row :=
      fun _ => Table.mem_insert? added
    refine ⟨settled.rules, fun task inTable tenantId => ?_,
      fun one inOne two inTwo keyed same => ?_⟩
    · rcases (mem_iff task).1 inTable with old | rfl
      · exact settled.keyed task old tenantId
      · exact submitted_iff admitted inDataset column
    · rcases (mem_iff one).1 inOne with oldOne | rfl
      · rcases (mem_iff two).1 inTwo with oldTwo | rfl
        · exact settled.unique one oldOne two oldTwo keyed same
        · exact absurd same (free one oldOne rfl)
      · rcases (mem_iff two).1 inTwo with oldTwo | rfl
        · exact absurd same.symm (free two oldTwo rfl)
        · rfl

/-- **Every action of a history keeps the invariant.** -/
theorem settled_of_step (settled : Settled rule db) {a : Action Disk}
    (stepped : step lance rule db a = some after) : Settled rule after := by
  have keep : ∀ {db' : Database}, db'.vectorizationRule = db.vectorizationRule →
      db'.task.rows.map TaskRows.identity = db.task.rows.map TaskRows.identity →
      Settled rule db' := by
    intro db' rules columns
    exact settled.of_columns (by rw [rules]; exact settled.rules) columns
  cases a with
  | submitVectorizeTask principal now taskUuid datasetUuid targetColumn =>
      simp only [step] at stepped
      split at stepped
      · rename_i ran
        obtain rfl := Option.some.inj stepped
        exact settled.submit ran
      · obtain rfl := Option.some.inj stepped
        exact settled
  | call op =>
      simp only [step] at stepped
      split at stepped
      · cases stepped
      · rename_i silent
        obtain rfl := Option.some.inj stepped
        have effect := effect_of_apply db op
        exact keep effect.vectorizationRule
          (effect.column (Bool.eq_false_iff.2 silent) fixed_identity)
  | runIteration principal context finishedAt claimedAt config disk =>
      obtain rfl := Option.some.inj stepped
      obtain ⟨rules, columns⟩ :=
        LifecycleWorkerService.runIteration_effect.column fixed_identity
      exact keep rules columns
  | elsewhere others =>
      simp only [step] at stepped
      split at stepped
      · rename_i admitted
        obtain rfl := Option.some.inj stepped
        exact settled.of_columns admitted rfl
      · cases stepped

/-! ## Answers -/

/-- The call finds the rule, and the rule is enabled. -/
structure Asks (rule : Rule) (caller : TenantPrincipal) (db : Database) (row : VectorizationRule) :
    Prop where
  guard : ∃ dataset, DatasetService.getDataset (some caller) rule.datasetUuid db = .ok dataset
  found : maybeGetRule rule.datasetUuid rule.targetColumn db = some row
  id : row.id = rule.id
  enabled : row.enabled = true

theorem Asks.submits {caller : TenantPrincipal} {row : VectorizationRule}
    (asks : Asks rule caller db row) (now : DateTime) (taskUuid : String) :
    submitVectorizeTask (some caller) now taskUuid rule.datasetUuid rule.targetColumn db =
      match TaskService.submitTask (some caller) now taskUuid
          (vectorizeSubmission rule.datasetUuid rule.targetColumn row) db with
      | .ok answer => .ok answer
      | .error e => .error (.submission e) := by
  obtain ⟨⟨dataset, got⟩, found, -, enabled⟩ := asks
  have visible : getRule (some caller) rule.datasetUuid rule.targetColumn db = .ok row := by
    simp [getRule, got, found]
  rw [submitVectorizeTask, visible]
  exact if_neg (by simp [enabled])

theorem Asks.key {caller : TenantPrincipal} {row : VectorizationRule}
    (asks : Asks rule caller db row) :
    TaskService.scopedKey caller
      (vectorizeSubmission rule.datasetUuid rule.targetColumn row).idempotencyKey =
        some (rule.key caller.tenantId) := by
  simp only [TaskService.scopedKey, vectorizeSubmission, Option.map_some, Rule.key, asks.id]

/-- Without a task for the rule the call commits one. -/
theorem Settled.creates (settled : Settled rule db) {caller : TenantPrincipal}
    {row : VectorizationRule} (asks : Asks rule caller db row) (now : DateTime)
    {taskUuid : String} (fresh : taskUuid ∉ db.task.keys)
    (none_ : ∀ task ∈ db.task.rows, ¬ rule.Serves caller.tenantId task) :
    ∃ task after,
      submitVectorizeTask (some caller) now taskUuid rule.datasetUuid rule.targetColumn db =
          .ok ((task, true), after) ∧
        task.status = .pending ∧ rule.Serves caller.tenantId task ∧
        after.task.rows = db.task.rows ++ [task] := by
  have free : ∀ task ∈ db.task.rows,
      task.idempotencyKey ≠ some (rule.key caller.tenantId) :=
    fun task member keyed => none_ task member ((settled.keyed task member _).1 keyed)
  have absent : TaskService.findByKey caller (rule.key caller.tenantId) db = none := by
    refine List.find?_eq_none.2 fun task member held => ?_
    simp only [Bool.and_eq_true, decide_eq_true_eq] at held
    exact free task member held.2
  obtain ⟨table, added⟩ : ∃ table, db.task.insert?
      (submitted caller now taskUuid rule.datasetUuid rule.targetColumn row) = some table :=
    Table.exists_insert? fresh
  have keyed : (submitted caller now taskUuid rule.datasetUuid rule.targetColumn
      row).idempotencyKey = some (rule.key caller.tenantId) := asks.key
  have inserted : TaskService.insertTask
      (submitted caller now taskUuid rule.datasetUuid rule.targetColumn row) db =
        some { db with task := table } := by
    have unused : (submitted caller now taskUuid rule.datasetUuid rule.targetColumn
        row).idempotencyKey ∉ db.task.rows.map Task.idempotencyKey := by
      intro member
      obtain ⟨task, inTable, same⟩ := List.mem_map.1 member
      exact free task inTable (same.trans keyed)
    simp only [TaskService.insertTask, unused, and_false, if_false, added, Option.map_some]
  refine ⟨submitted caller now taskUuid rule.datasetUuid rule.targetColumn row,
    { db with task := table }, ?_, rfl, ?_, (Table.insert?_eq_some added).1⟩
  · rw [asks.submits]
    have ran : TaskService.submitTask (some caller) now taskUuid
        (vectorizeSubmission rule.datasetUuid rule.targetColumn row) db =
          .ok ((submitted caller now taskUuid rule.datasetUuid rule.targetColumn row, true),
            { db with task := table }) := by
      unfold submitted at inserted ⊢
      simp only [TaskService.submitTask, asks.key, Option.bind_some, absent, inserted]
    rw [ran]
  · refine ⟨rfl, rfl, ?_, rfl⟩
    rw [← asks.id]
    rfl

/-- A task for the rule is the answer, whatever its status. -/
theorem Settled.replays (settled : Settled rule db) {caller : TenantPrincipal}
    {row : VectorizationRule} (asks : Asks rule caller db row) (now : DateTime)
    (taskUuid : String) {task : Task} (member : task ∈ db.task.rows)
    (serves : rule.Serves caller.tenantId task) :
    submitVectorizeTask (some caller) now taskUuid rule.datasetUuid rule.targetColumn db =
      .ok ((task, false), db) := by
  have keyed := (settled.keyed task member caller.tenantId).2 serves
  have visible : caller.sees task.tenantId = true := by
    simp only [TenantPrincipal.sees, serves.tenant, decide_true, Bool.or_true]
  have found : TaskService.findByKey caller (rule.key caller.tenantId) db = some task := by
    cases first : TaskService.findByKey caller (rule.key caller.tenantId) db with
    | none =>
        have missed := List.find?_eq_none.1 first task member
        simp only [visible, keyed, decide_true, Bool.and_self, not_true_eq_false] at missed
    | some other =>
        have holds := List.find?_some first
        simp only [Bool.and_eq_true, decide_eq_true_eq] at holds
        rw [settled.unique other (List.mem_of_find?_eq_some first) task member
          (by rw [holds.2]; rfl) (holds.2.trans keyed.symm)]
  rw [asks.submits]
  simp only [TaskService.submitTask, asks.key, Option.bind_some, found]

/-- **One task for the life of a rule.**  In every state of every history, a call for the enabled
rule commits a PENDING task when its tenant has none for the rule; it answers with the one there
is, and commits nothing, in every status that the task can be in. -/
theorem one_task_of_rule (settled : Settled rule db) (actions : List (Action Disk)) :
    (history lance rule).Always (fun db =>
      ∀ caller row now taskUuid, Asks rule caller db row →
        ((∀ task ∈ db.task.rows, ¬ rule.Serves caller.tenantId task) →
            taskUuid ∉ db.task.keys →
          ∃ task after,
            submitVectorizeTask (some caller) now taskUuid rule.datasetUuid rule.targetColumn db =
                .ok ((task, true), after) ∧
              task.status = .pending ∧ rule.Serves caller.tenantId task ∧
              after.task.rows = db.task.rows ++ [task]) ∧
          ∀ task ∈ db.task.rows, rule.Serves caller.tenantId task →
            submitVectorizeTask (some caller) now taskUuid rule.datasetUuid rule.targetColumn db =
              .ok ((task, false), db)) db actions := by
  have kept : ∀ (s : Database) (a : Action Disk) (t : Database), Settled rule s →
      (history lance rule).step s a = some t → Settled rule t :=
    fun _ _ _ held stepped => @settled_of_step _ lance _ _ _ held _ stepped
  have always : (history lance rule).Always (Settled rule) db actions :=
    ⟨settled, Machine.along_of_step (fun s a t held stepped =>
      ⟨kept s a t held stepped, kept s a t held stepped⟩) settled actions⟩
  refine Machine.Always.mono (fun db held caller row now taskUuid asks => ?_) always
  exact ⟨fun none_ fresh => held.creates asks now fresh none_,
    fun task member serves => held.replays asks now taskUuid member serves⟩

end Steps

/-! ## After the task has ended -/

section Examples

private def titles : Rule := ⟨7, "d1", "title_vec"⟩

private def titlesRow : VectorizationRule where
  id := 7
  datasetUuid := "d1"
  targetColumn := "title_vec"
  sourceColumns := some ["title"]
  modelName := "bge"
  modelVersion := "v1"

/-- A rule without a task, and a worker with a free slot. -/
private def opened : Database where
  dataset := .single
    { datasetUuid := "d1", catalog := "lake", dbSchema := "acme", tableName := "articles"
      storageUri := "s3://acme/articles", tenantId := "acme" }
  vectorizationRule := .single titlesRow
  workerRegistry :=
    .single { workerId := "w1", workerType := "embedding", leaseId := "l1", lastHeartbeatAt := 0 }

private def asked : Action Unit := .submitVectorizeTask acmeSdk 0 "t1" "d1" "title_vec"
private def claimed : Action Unit := .call (.claimNextTask daemonContext 1 "w1" "l1" none)

/-- The task is cancelled, succeeds, or fails. -/
private def endings : List (List (Action Unit)) :=
  [ [asked, .call (.cancelTask acmeSdk 2 "t1")],
    [asked, claimed, .call (.completeTask daemonContext 2 "w1" "t1" none)],
    [asked, claimed, .call (.failTask daemonContext 2 "w1" "t1" "RuntimeError" "boom")] ]

/-- The statuses of all tasks, what the next call answers, and the tasks after it. -/
private def nextAnswer (db : Database) : List TaskStatus × Option (String × Bool × Nat) :=
  (db.task.rows.map Task.status,
    match submitVectorizeTask acmeSdk 9 "t2" "d1" "title_vec" db with
    | .ok ((task, created), after) => some (task.taskUuid, created, after.task.rows.length)
    | .error _ => none)

private theorem settled_opened : Settled titles opened where
  rules row member := by
    obtain rfl := List.mem_singleton.1 member
    exact .inr ⟨rfl, rfl⟩
  keyed _ member := absurd member List.not_mem_nil
  unique _ member := absurd member List.not_mem_nil

theorem one_task_of_rule_cancelled :
    (history noTables titles).Always (fun db =>
      ∀ caller row now taskUuid, Asks titles caller db row →
        ((∀ task ∈ db.task.rows, ¬ titles.Serves caller.tenantId task) →
            taskUuid ∉ db.task.keys →
          ∃ task after,
            submitVectorizeTask (some caller) now taskUuid "d1" "title_vec" db =
                .ok ((task, true), after) ∧
              task.status = .pending ∧ titles.Serves caller.tenantId task ∧
              after.task.rows = db.task.rows ++ [task]) ∧
          ∀ task ∈ db.task.rows, titles.Serves caller.tenantId task →
            submitVectorizeTask (some caller) now taskUuid "d1" "title_vec" db =
              .ok ((task, false), db)) opened [asked, .call (.cancelTask acmeSdk 2 "t1")] :=
  one_task_of_rule settled_opened _

/-- No task for the enabled rule is PENDING, QUEUED or RUNNING, and the call commits none. -/
theorem ended_task_replayed :
    Settled titles opened ∧
      endings.map (fun actions => ((history noTables titles).run opened actions).map nextAnswer) =
        [ some ([.cancelled], some ("t1", false, 1)),
          some ([.succeeded], some ("t1", false, 1)),
          some ([.failed], some ("t1", false, 1)) ] :=
  ⟨settled_opened, by decide +kernel⟩

end Examples

end Lcp.VectorizeNow
