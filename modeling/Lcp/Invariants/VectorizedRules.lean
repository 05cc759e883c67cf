/-
# Invariants.VectorizedRules -- the VECTORIZE tasks of an hour

`_plan_for_policy` asks for one VECTORIZE task for each enabled rule of the dataset, under
a key that holds the policy and the hour, but no rule.  So the rules of a dataset share one
task for each of its policies: the task of the rule that the query returns first, which may
be either of two, as the query has no ORDER BY.  Every rule has its own task when there is
one rule and one policy that gets its task (`vectorized_iff`).

A policy may not get it: the key of an automatic trigger is a text with a table's and an
index's name in it, and an earlier trigger can have the text of the policy's key.
-/
import Lcp.Invariants.Producers
import Lcp.Invariants.RecordedRuns

namespace Lcp.VectorizedRules

open Theory Emission LifecyclePlannerService

set_option autoImplicit false

/-- One call of `plan_once`: what it draws and when it runs. -/
structure Call where
  draw : Nat → String
  now : DateTime

/-- The rows after the calls, one after the other. -/
def planAll (principal : Option TenantPrincipal) (calls : List Call) (db : Database) :
    Except PassError Database :=
  calls.foldlM (fun db call => do
    let (_, after) ← planOnce call.draw call.now principal db
    return after) db

/-- Two times of one hour. -/
def SameHour (s t : DateTime) : Prop := s.day = t.day ∧ s.hour = t.hour

/-- The enabled policies of the dataset. -/
def enabledPolicies (dataset : Dataset) (db : Database) : List LifecyclePolicy :=
  db.lifecyclePolicy.rows.filter fun policy =>
    policy.datasetUuid = dataset.datasetUuid ∧ policy.enabled = true

/-- A VECTORIZE task of the planner for the dataset, in the hour of `at_`. -/
def OfHour (at_ : DateTime) (dataset : Dataset) (task : Task) : Prop :=
  task.taskType = .vectorize ∧ task.datasetUuid = dataset.datasetUuid ∧
    ∃ policyId, task.idempotencyKey =
      some (idempotencyKey policyId .vectorize (hourBucket at_) dataset.tenantId)

/-- The task's parameters are those of the rule. -/
def Carries (rule : VectorizationRule) (task : Task) : Prop :=
  ∃ params, task.params = some params ∧
    Json.get? params "rule_id" = some (.int rule.id) ∧
    Json.get? params "target_column" = some (.str rule.targetColumn) ∧
    Json.get? params "source_columns" =
      rule.sourceColumns.map fun columns => .list (columns.map .str)

/-- Each enabled rule of the dataset has one task of the hour. -/
def Vectorized (at_ : DateTime) (dataset : Dataset) (db after : Database) : Prop :=
  ∀ rule ∈ enabledRules dataset db,
    ∃! task, task ∈ after.task.rows ∧ OfHour at_ dataset task ∧ Carries rule task

/-- The key of a policy's VECTORIZE task. -/
def vectorizeKey (at_ : DateTime) (dataset : Dataset) (policy : LifecyclePolicy) : String :=
  idempotencyKey policy.id .vectorize (hourBucket at_) dataset.tenantId

/-- An automatic trigger that a pass asks for earlier has the text of the policy's key. -/
def Shadowed (at_ : DateTime) (dataset : Dataset) (db : Database) (policy : LifecyclePolicy) :
    Prop :=
  ∃ other ∈ db.lifecyclePolicy.rows, other.enabled = true ∧ other.id ≤ policy.id ∧
    other.indexOptimizeCron.any (· ≠ "") = false ∧
    ∃ parent ∈ db.dataset.get other.datasetUuid, ∃ index ∈ hotIndexes parent db,
      (autoOptimizeDue at_ other parent index).key = vectorizeKey at_ dataset policy

/-! ## What a pass asks for does not depend on the pass before -/

/-- A policy without the column that a pass writes. -/
def settings (policy : LifecyclePolicy) : LifecyclePolicy := { policy with lastRunAt := none }

/-- The rows that decide what passes ask for. -/
structure SameWork (db after : Database) : Prop where
  sources : SameSources db after
  policies : after.lifecyclePolicy.rows.map settings = db.lifecyclePolicy.rows.map settings

namespace SameWork

variable {draw : Nat → String} {now at_ : DateTime} {db next after : Database}

theorem refl (db : Database) : SameWork db db := ⟨⟨rfl, rfl, rfl⟩, rfl⟩

theorem trans (one : SameWork db next) (two : SameWork next after) : SameWork db after :=
  ⟨⟨two.sources.dataset.trans one.sources.dataset,
      two.sources.vectorIndex.trans one.sources.vectorIndex,
      two.sources.vectorizationRule.trans one.sources.vectorizationRule⟩,
    two.policies.trans one.policies⟩

theorem planPolicy {tick last : Tick} {policy : LifecyclePolicy} (same : SameWork db tick.db)
    (ran : planPolicy draw now tick policy = .ok last) : SameWork db last.db := by
  refine ⟨same.sources.planPolicy ran, ?_⟩
  obtain ⟨-, rfl⟩ | ⟨dataset, between, -, tried, rfl⟩ := planPolicy_cases same.sources ran
  · exact same.policies
  · have frame : between.db.lifecyclePolicy = tick.db.lifecyclePolicy := by
      rw [Due.emitAll_frame tried]
    rw [← same.policies]
    simp only [recordRun, Table.rows_update, frame, List.map_map]
    refine List.map_congr_left fun row _ => ?_
    simp only [Function.comp]
    split <;> rfl

theorem planOnce {principal : Option TenantPrincipal} {report : PlannerTick}
    (ran : planOnce draw now principal db = .ok (report, after)) : SameWork db after := by
  obtain ⟨-, tick, looped, -, -, rfl⟩ := planOnce_eq_ok ran
  have loop : ∀ (policies : List LifecyclePolicy) (start : Tick), SameWork db start.db →
      policies.foldlM (LifecyclePlannerService.planPolicy draw now) start = .ok tick →
        SameWork db tick.db := by
    intro policies
    induction policies with
    | nil =>
        intro start same done
        obtain rfl := Except.ok.inj done
        exact same
    | cons policy rest ih =>
        intro start same done
        obtain ⟨between, first, later⟩ := foldlM_cons_ok done
        exact ih between (same.planPolicy first) later
  split
  · exact loop _ _ (refl db) looped
  · exact refl db

theorem fetchEnabledPolicies (same : SameWork db after) :
    (fetchEnabledPolicies after).map settings = (fetchEnabledPolicies db).map settings := by
  have sorted : ∀ other : Database,
      (LifecyclePlannerService.fetchEnabledPolicies other).map settings =
      ((other.lifecyclePolicy.rows.map settings).filter fun policy => policy.enabled).insertionSort
        fun a b => a.id ≤ b.id := by
    intro other
    have enabled : (other.lifecyclePolicy.rows.filter fun policy => policy.enabled).map settings =
        (other.lifecyclePolicy.rows.map settings).filter fun policy => policy.enabled := by
      rw [List.filter_map]
      rfl
    rw [← enabled]
    exact List.map_insertionSort _ _ settings _ fun _ _ _ _ => Iff.rfl
  rw [sorted, sorted, same.policies]

/-- **Passes of one hour ask for the same tasks.** -/
theorem passDues (same : SameWork db after) (hour : SameHour now at_) :
    passDues now after = passDues at_ db := by
  have days : dayBucket now = dayBucket at_ := by
    unfold dayBucket DateTime.strftimeYmd
    rw [hour.1]
  have hours : hourBucket now = hourBucket at_ := by
    unfold hourBucket DateTime.strftimeYmdH DateTime.strftimeYmd
    rw [hour.1, hour.2]
  have blind : ∀ (time : DateTime) (other : Database) (policies : List LifecyclePolicy),
      policies.flatMap (policyDues time other) =
        (policies.map settings).flatMap (policyDues time other) := by
    intro time other policies
    rw [List.flatMap_map]
    rfl
  have each : policyDues now after = policyDues at_ db := by
    funext policy
    unfold policyDues
    rw [same.sources.dataset]
    cases db.dataset.get policy.datasetUuid with
    | none => rfl
    | some dataset =>
        simp only
        rw [dues_congr same.sources.vectorIndex same.sources.vectorizationRule]
        unfold dues ttlDue compactionDue indexOptimizeDue autoOptimizeDue vectorizeDue
        rw [days, hours]
  unfold LifecyclePlannerService.passDues
  rw [blind, same.fetchEnabledPolicies, each, ← blind]

end SameWork

/-! ## The first insert under a policy's key -/

section First

variable {at_ : DateTime} {dataset : Dataset} {db : Database}

/-- What a policy asks for before its VECTORIZE tasks. -/
def preceding (at_ : DateTime) (policy : LifecyclePolicy) (dataset : Dataset) (db : Database) :
    List Due :=
  ttlDue at_ policy dataset ++ compactionDue at_ policy dataset ++
    indexOptimizeDue at_ policy dataset db

theorem mem_enabledPolicies {policy : LifecyclePolicy} :
    policy ∈ enabledPolicies dataset db ↔ policy ∈ db.lifecyclePolicy.rows ∧
      policy.datasetUuid = dataset.datasetUuid ∧ policy.enabled = true := by
  simp [enabledPolicies]

/-- A per-policy key with the text of a VECTORIZE key is one, of the same policy. -/
theorem eq_of_vectorizeKey {policy : LifecyclePolicy} {tenantId : String} {policyId : Nat}
    {taskType : TaskType} {bucket : Producers.Bucket}
    (same : idempotencyKey policyId taskType bucket.val tenantId =
      vectorizeKey at_ dataset policy) :
    tenantId = dataset.tenantId ∧ policyId = policy.id ∧ taskType = .vectorize := by
  have slots : (Producers.Slot.policy tenantId policyId taskType bucket).key =
      (Producers.Slot.policy dataset.tenantId policy.id .vectorize (.hour at_)).key := same
  obtain ⟨tenants, ids, types, -⟩ := Producers.Slot.policy.inj (Producers.Slot.policy_inj slots)
  exact ⟨tenants, ids, types⟩

/-- Only an automatic trigger before the rules can have the text of a VECTORIZE key. -/
theorem auto_of_preceding {policy other : LifecyclePolicy} {parent : Dataset} {due : Due}
    (member : due ∈ preceding at_ other parent db)
    (key : due.key = vectorizeKey at_ dataset policy) :
    other.indexOptimizeCron.any (· ≠ "") = false ∧
      ∃ index ∈ hotIndexes parent db, due = autoOptimizeDue at_ other parent index := by
  simp only [preceding, List.mem_append] at member
  rcases member with (inTtl | inCompaction) | inOptimize
  · unfold ttlDue at inTtl
    split at inTtl
    · cases inTtl
    · obtain rfl := List.mem_singleton.1 inTtl
      obtain ⟨-, -, impossible⟩ := @eq_of_vectorizeKey _ _ _ _ _ _ (.day at_) key
      cases impossible
  · unfold compactionDue at inCompaction
    split at inCompaction
    · cases inCompaction
    · cases inCompaction
    · obtain rfl := List.mem_singleton.1 inCompaction
      obtain ⟨-, -, impossible⟩ := @eq_of_vectorizeKey _ _ _ _ _ _ (.day at_) key
      cases impossible
  · unfold indexOptimizeDue at inOptimize
    split at inOptimize
    · obtain rfl := List.mem_singleton.1 inOptimize
      obtain ⟨-, -, impossible⟩ := @eq_of_vectorizeKey _ _ _ _ _ _ (.hour at_) key
      cases impossible
    · rename_i cronless
      obtain ⟨index, hot, rfl⟩ := List.mem_map.1 inOptimize
      refine ⟨?_, index, hot, rfl⟩
      cases cron : other.indexOptimizeCron with
      | none => rfl
      | some text =>
          rw [cron, Option.filter_eq_none_iff] at cronless
          simpa using cronless text rfl

theorem mem_preceding_of_hot {other : LifecyclePolicy} {parent : Dataset} {index : Index}
    (cronless : other.indexOptimizeCron.any (· ≠ "") = false)
    (hot : index ∈ hotIndexes parent db) :
    autoOptimizeDue at_ other parent index ∈ preceding at_ other parent db := by
  have none_ : other.indexOptimizeCron.filter (· ≠ "") = none := by
    cases cron : other.indexOptimizeCron with
    | none => rfl
    | some text =>
        rw [cron] at cronless
        simpa [Option.filter] using cronless
  unfold preceding indexOptimizeDue
  rw [none_]
  exact List.mem_append_right _ (List.mem_map_of_mem hot)

/-- The policies that a pass plans before a policy are the enabled ones with a smaller id. -/
theorem split_policies {policy : LifecyclePolicy} (fetched : policy ∈ fetchEnabledPolicies db) :
    ∃ before later, fetchEnabledPolicies db = before ++ policy :: later ∧
      ∀ other ∈ fetchEnabledPolicies db, other ∈ before ↔ other.id < policy.id := by
  have sorted : (fetchEnabledPolicies db).Pairwise fun a b => a.id ≤ b.id := by
    have total : Std.Total fun a b : LifecyclePolicy => a.id ≤ b.id := ⟨fun a b => Nat.le_total _ _⟩
    have trans : IsTrans LifecyclePolicy fun a b => a.id ≤ b.id := ⟨fun _ _ _ => Nat.le_trans⟩
    exact List.pairwise_insertionSort _ _
  have ids : (fetchEnabledPolicies db).Pairwise fun a b => a.id ≠ b.id := by
    refine List.Pairwise.perm ?_ (List.perm_insertionSort _ _).symm fun differ => Ne.symm differ
    exact (List.pairwise_map.1 db.lifecyclePolicy.nodup).filter _
  obtain ⟨before, later, split⟩ := List.append_of_mem fetched
  refine ⟨before, later, split, fun other member => ?_⟩
  have ordered := sorted.and ids
  rw [split, List.pairwise_append, List.pairwise_cons] at ordered
  obtain ⟨-, ⟨above, -⟩, below⟩ := ordered
  rw [split, List.mem_append, List.mem_cons] at member
  constructor
  · intro earlier
    have := below other earlier policy List.mem_cons_self
    omega
  · intro smaller
    rcases member with earlier | rfl | after
    · exact earlier
    · omega
    · have := above other after
      omega

/-- What a pass asks for before the first rule of a policy, which it plans after `before`. -/
def ahead (at_ : DateTime) (dataset : Dataset) (db : Database) (policy : LifecyclePolicy)
    (before : List LifecyclePolicy) : List Due :=
  before.flatMap (policyDues at_ db) ++ preceding at_ policy dataset db

section Ahead

variable {policy : LifecyclePolicy} {before later : List LifecyclePolicy}

/-- A key of the policy's VECTORIZE tasks that is asked for earlier is an automatic trigger's. -/
theorem shadowed_of_ahead (member : policy ∈ enabledPolicies dataset db)
    (parent : db.dataset.get dataset.datasetUuid = some dataset)
    (split : fetchEnabledPolicies db = before ++ policy :: later)
    (smaller : ∀ other ∈ fetchEnabledPolicies db, other ∈ before ↔ other.id < policy.id)
    {due : Due} (isAhead : due ∈ ahead at_ dataset db policy before)
    (key : due.key = vectorizeKey at_ dataset policy) :
    Shadowed at_ dataset db policy ∧ due.taskType = .indexOptimize := by
  obtain ⟨inRows, mine, enabled⟩ := mem_enabledPolicies.1 member
  rcases List.mem_append.1 isAhead with inBefore | inOwn
  · obtain ⟨other, earlier, wanted⟩ := List.mem_flatMap.1 inBefore
    have fetched : other ∈ fetchEnabledPolicies db := split ▸ List.mem_append_left _ earlier
    obtain ⟨otherRow, otherEnabled⟩ := mem_fetchEnabledPolicies.1 fetched
    have below := (smaller other fetched).1 earlier
    unfold policyDues at wanted
    cases found : db.dataset.get other.datasetUuid with
    | none =>
        rw [found] at wanted
        cases wanted
    | some otherParent =>
        rw [found] at wanted
        rcases List.mem_append.1 wanted with front | vectorized
        · obtain ⟨cronless, index, hot, rfl⟩ := auto_of_preceding front key
          exact ⟨⟨other, otherRow, otherEnabled, Nat.le_of_lt below, cronless, otherParent, found,
            index, hot, key⟩, rfl⟩
        · obtain ⟨otherRule, -, rfl⟩ := List.mem_map.1 vectorized
          obtain ⟨-, ids, -⟩ := @eq_of_vectorizeKey _ _ _ _ _ _ (.hour at_) key
          omega
  · obtain ⟨cronless, index, hot, rfl⟩ := auto_of_preceding inOwn key
    exact ⟨⟨policy, inRows, enabled, Nat.le_refl _, cronless, dataset, mine ▸ parent, index, hot,
      key⟩, rfl⟩

/-- The trigger that shadows a policy is asked for before its first rule. -/
theorem ahead_of_shadowed (member : policy ∈ enabledPolicies dataset db)
    (parent : db.dataset.get dataset.datasetUuid = some dataset)
    (smaller : ∀ other ∈ fetchEnabledPolicies db, other ∈ before ↔ other.id < policy.id)
    (shadowed : Shadowed at_ dataset db policy) :
    ∃ due ∈ ahead at_ dataset db policy before, due.key = vectorizeKey at_ dataset policy := by
  obtain ⟨inRows, mine, -⟩ := mem_enabledPolicies.1 member
  obtain ⟨other, otherRow, otherEnabled, atMost, cronless, otherParent, found, index, hot, key⟩ :=
    shadowed
  have front : autoOptimizeDue at_ other otherParent index ∈ preceding at_ other otherParent db :=
    mem_preceding_of_hot cronless hot
  refine ⟨autoOptimizeDue at_ other otherParent index, ?_, key⟩
  rcases Nat.lt_or_eq_of_le atMost with below | same
  · have fetched := mem_fetchEnabledPolicies.2 ⟨otherRow, otherEnabled⟩
    refine List.mem_append_left _ (List.mem_flatMap.2
      ⟨other, (smaller other fetched).2 below, ?_⟩)
    unfold policyDues
    rw [Option.mem_def.1 found]
    exact List.mem_append_left _ front
  · obtain rfl := Table.eq_of_key_eq otherRow inRows same
    rw [mine, parent] at found
    obtain rfl := Option.some.inj found
    exact List.mem_append_right _ front

/-- A pass over a policy with a rule asks for the first rule after what is ahead of it. -/
theorem passDues_eq_ahead {rule : VectorizationRule} {rest : List VectorizationRule}
    (member : policy ∈ enabledPolicies dataset db)
    (parent : db.dataset.get dataset.datasetUuid = some dataset)
    (rules : enabledRules dataset db = rule :: rest)
    (split : fetchEnabledPolicies db = before ++ policy :: later) :
    passDues at_ db = ahead at_ dataset db policy before ++ vectorizeDue at_ policy dataset rule ::
      (rest.map (vectorizeDue at_ policy dataset) ++ later.flatMap (policyDues at_ db)) := by
  have own : policyDues at_ db policy =
      preceding at_ policy dataset db ++ vectorizeDue at_ policy dataset rule ::
        rest.map (vectorizeDue at_ policy dataset) := by
    unfold policyDues
    rw [(mem_enabledPolicies.1 member).2.1, parent]
    simp only
    rw [dues, rules]
    rfl
  simp only [passDues, split, List.flatMap_append, List.flatMap_cons, own, ahead,
    List.append_assoc, List.cons_append]

end Ahead

/-- **The first insert under a policy's key** is the trigger that shadows it, or the task of the
first rule. -/
theorem find_vectorizeKey {policy : LifecyclePolicy} {rule : VectorizationRule}
    {rest : List VectorizationRule} (member : policy ∈ enabledPolicies dataset db)
    (parent : db.dataset.get dataset.datasetUuid = some dataset)
    (rules : enabledRules dataset db = rule :: rest) :
    ∃ due, (passDues at_ db).find? (·.key = vectorizeKey at_ dataset policy) = some due ∧
      ((Shadowed at_ dataset db policy ∧ due.taskType = .indexOptimize) ∨
        (¬ Shadowed at_ dataset db policy ∧ due = vectorizeDue at_ policy dataset rule)) := by
  obtain ⟨inRows, -, enabled⟩ := mem_enabledPolicies.1 member
  obtain ⟨before, later, split, smaller⟩ :=
    split_policies (mem_fetchEnabledPolicies.2 ⟨inRows, enabled⟩)
  rw [passDues_eq_ahead member parent rules split, List.find?_append,
    List.find?_cons_of_pos (by exact decide_eq_true rfl)]
  cases found : (ahead at_ dataset db policy before).find?
      (·.key = vectorizeKey at_ dataset policy) with
  | some due =>
      have key := List.find?_some found
      obtain ⟨shadowed, type⟩ := shadowed_of_ahead member parent split smaller
        (List.mem_of_find?_eq_some found) (of_decide_eq_true key)
      exact ⟨due, rfl, .inl ⟨shadowed, type⟩⟩
  | none =>
      refine ⟨_, rfl, .inr ⟨fun shadowed => ?_, rfl⟩⟩
      obtain ⟨due, isAhead, key⟩ := ahead_of_shadowed member parent smaller shadowed
      exact absurd (decide_eq_true key) (List.find?_eq_none.1 found _ isAhead)

end First

/-! ## The rows of an hour -/

section Hour

variable {principal : Option TenantPrincipal} {at_ : DateTime} {dataset : Dataset}
  {db next after : Database}

/-- No task row has a VECTORIZE key of the hour. -/
def HourFree (at_ : DateTime) (dataset : Dataset) (db : Database) : Prop :=
  ∀ policyId,
    taken (idempotencyKey policyId .vectorize (hourBucket at_) dataset.tenantId) db = false

/-- The tasks of the hour: one for each policy that is not shadowed, all of the first rule. -/
structure FirstRule (at_ : DateTime) (dataset : Dataset) (db : Database)
    (rule : VectorizationRule) (tasks : List Task) : Prop where
  unique : ∀ one ∈ tasks, ∀ two ∈ tasks, OfHour at_ dataset one →
    two.idempotencyKey = one.idempotencyKey → two = one
  task : ∀ policy ∈ enabledPolicies dataset db, ¬ Shadowed at_ dataset db policy →
    ∃ task ∈ tasks, OfHour at_ dataset task ∧
      task.idempotencyKey = some (vectorizeKey at_ dataset policy)
  policy : ∀ task ∈ tasks, OfHour at_ dataset task →
    ∃ policy ∈ enabledPolicies dataset db, ¬ Shadowed at_ dataset db policy ∧
      task.idempotencyKey = some (vectorizeKey at_ dataset policy) ∧
      task.params = some (vectorizeDue at_ policy dataset rule).params

/-- A VECTORIZE insert for the dataset is that of one of its policies. -/
theorem mem_passDues_vectorize {due : Due} (member : due ∈ passDues at_ db)
    (type : due.taskType = .vectorize) (mine : due.dataset.datasetUuid = dataset.datasetUuid)
    (parent : db.dataset.get dataset.datasetUuid = some dataset) :
    ∃ policy ∈ enabledPolicies dataset db, ∃ rule, due = vectorizeDue at_ policy dataset rule := by
  obtain ⟨policy, fetched, other, found, rule, -, rfl⟩ := vectorize_of_mem_passDues member type
  obtain ⟨inRows, enabled⟩ := mem_fetchEnabledPolicies.1 fetched
  have same : policy.datasetUuid = dataset.datasetUuid := (Table.key_of_get found).symm.trans mine
  rw [same, parent] at found
  obtain rfl := Option.some.inj found
  exact ⟨policy, mem_enabledPolicies.2 ⟨inRows, same, enabled⟩, rule, rfl⟩

/-- The first pass of the hour. -/
theorem firstRule_of_planOnce {draw : Nat → String} {now : DateTime} {report : PlannerTick}
    {rule : VectorizationRule} {rest : List VectorizationRule}
    (parent : db.dataset.get dataset.datasetUuid = some dataset)
    (free : HourFree at_ dataset db) (hour : SameHour now at_)
    (rules : enabledRules dataset db = rule :: rest)
    (ran : planOnce draw now principal db = .ok (report, next)) :
    FirstRule at_ dataset db rule next.task.rows := by
  obtain ⟨tick, tried, table, -, -⟩ := planOnce_tried ran
  rw [(SameWork.refl db).passDues hour] at tried
  obtain ⟨fresh, rows, -, dueOf, nodup⟩ := tried.rows
  rw [table, rows]
  -- Rows with a key of the hour are fresh.
  have isFresh : ∀ task ∈ db.task.rows ++ fresh, ∀ policyId,
      task.idempotencyKey =
        some (idempotencyKey policyId .vectorize (hourBucket at_) dataset.tenantId) →
      task ∈ fresh := by
    intro task member policyId key
    rcases List.mem_append.1 member with old | new
    · have held := taken_iff.2 ⟨task, old, key⟩
      rw [free policyId] at held
      cases held
    · exact new
  have origin : ∀ task ∈ db.task.rows ++ fresh, ∀ policy ∈ enabledPolicies dataset db,
      task.idempotencyKey = some (vectorizeKey at_ dataset policy) →
      (Shadowed at_ dataset db policy ∧ task.taskType = .indexOptimize) ∨
        (¬ Shadowed at_ dataset db policy ∧
          task = Due.row now (vectorizeDue at_ policy dataset rule) task.taskUuid) := by
    intro task member policy enabled key
    obtain ⟨due, first, row, -⟩ := dueOf task (isFresh task member policy.id key)
    have keyed : due.key = vectorizeKey at_ dataset policy := by
      rw [row] at key
      exact Option.some.inj key
    obtain ⟨due', first', kind⟩ := find_vectorizeKey enabled parent rules
    rw [keyed, first'] at first
    obtain rfl := Option.some.inj first
    rcases kind with ⟨shadowed, type⟩ | ⟨unshadowed, rfl⟩
    · exact .inl ⟨shadowed, by rw [row]; exact type⟩
    · exact .inr ⟨unshadowed, row⟩
  refine ⟨?_, ?_, ?_⟩
  · rintro one inOne two inTwo ⟨-, -, policyId, key⟩ same
    exact List.inj_on_of_nodup_map nodup (isFresh two inTwo policyId (same.trans key))
      (isFresh one inOne policyId key) same
  · intro policy enabled unshadowed
    obtain ⟨due, first, -⟩ := find_vectorizeKey enabled parent rules
    have key : due.key = vectorizeKey at_ dataset policy :=
      of_decide_eq_true (List.find?_some first :)
    obtain ⟨task, member, held⟩ := taken_iff.1 (tried.taken due (List.mem_of_find?_eq_some first))
    rw [key] at held
    rw [rows] at member
    obtain ⟨shadowed, -⟩ | ⟨-, row⟩ := origin task member policy enabled held
    · exact absurd shadowed unshadowed
    · refine ⟨task, member, ⟨?_, ?_, policy.id, held⟩, held⟩
      · rw [row]
        rfl
      · rw [row]
        rfl
  · rintro task member ⟨type, mine, policyId, key⟩
    obtain ⟨due, first, row, -⟩ := dueOf task (isFresh task member policyId key)
    rw [row] at type mine
    obtain ⟨policy, enabled, other, rfl⟩ :=
      mem_passDues_vectorize (List.mem_of_find?_eq_some first) type mine parent
    have keyed : task.idempotencyKey = some (vectorizeKey at_ dataset policy) := by
      rw [row]
      rfl
    obtain ⟨-, optimize⟩ | ⟨unshadowed, mineRow⟩ := origin task member policy enabled keyed
    · rw [row] at optimize
      cases optimize
    · exact ⟨policy, enabled, unshadowed, keyed, by rw [mineRow]; rfl⟩

theorem planAll_cons {call : Call} {rest : List Call}
    (ran : planAll principal (call :: rest) db = .ok after) :
    ∃ report next, planOnce call.draw call.now principal db = .ok (report, next) ∧
      planAll principal rest next = .ok after := by
  obtain ⟨next, first, later⟩ := foldlM_cons_ok ran
  obtain ⟨⟨report, _⟩, called, first⟩ := bind_eq_ok first
  obtain rfl := Except.ok.inj first
  exact ⟨report, _, called, later⟩

/-- Passes that find every key taken insert nothing. -/
theorem planAll_idle {calls : List Call} {start : Database} (same : SameWork db start)
    (hours : ∀ call ∈ calls, SameHour call.now at_)
    (held : ∀ due ∈ passDues at_ db, taken due.key start = true)
    (ran : planAll principal calls start = .ok after) : after.task = start.task := by
  induction calls generalizing start with
  | nil =>
      obtain rfl := Except.ok.inj ran
      rfl
  | cons call rest ih =>
      obtain ⟨report, between, called, later⟩ := planAll_cons ran
      have kept : between.task = start.task := by
        obtain ⟨tick, tried, table, -, -⟩ := planOnce_tried called
        obtain ⟨fresh, rows, -, dueOf, -⟩ := tried.rows
        have none_ : fresh = [] := by
          refine List.eq_nil_iff_forall_not_mem.2 fun task member => ?_
          obtain ⟨due, found, -, unused⟩ := dueOf task member
          rw [same.passDues (hours call List.mem_cons_self)] at found
          rw [held due (List.mem_of_find?_eq_some found)] at unused
          cases unused
        rw [table]
        exact Table.ext (by rw [rows, none_, List.append_nil])
      rw [ih (same.trans (.planOnce called)) (fun other member => hours other (.tail _ member))
        (fun due member => (taken_congr kept).trans (held due member)) later, kept]

/-- A parameter list of a rule's task carries no other rule. -/
theorem carries_iff {policy : LifecyclePolicy} {rule other : VectorizationRule} {task : Task}
    (params : task.params = some (vectorizeDue at_ policy dataset rule).params) :
    Carries other task ↔ other.id = rule.id ∧ other.targetColumn = rule.targetColumn ∧
      (other.sourceColumns.map fun columns => Json.list (columns.map .str)) =
        rule.sourceColumns.map fun columns => .list (columns.map .str) := by
  have id : Json.get? (vectorizeDue at_ policy dataset rule).params "rule_id" =
      some (.int rule.id) := rfl
  have target : Json.get? (vectorizeDue at_ policy dataset rule).params "target_column" =
      some (.str rule.targetColumn) := rfl
  have source : Json.get? (vectorizeDue at_ policy dataset rule).params "source_columns" =
      rule.sourceColumns.map fun columns => .list (columns.map .str) := by
    simp only [vectorizeDue, policyDue]
    cases rule.sourceColumns <;> rfl
  simp only [Carries, params, Option.some.injEq, exists_eq_left', id, target, source,
    Json.int.injEq, Int.natCast_inj, Json.str.injEq]
  simp only [eq_comm]

/-- The tasks of the hour are as many as the policies that get theirs. -/
theorem FirstRule.existsUnique_iff {rule : VectorizationRule} {tasks : List Task}
    (emitted : FirstRule at_ dataset db rule tasks) :
    (∃! task, task ∈ tasks ∧ OfHour at_ dataset task ∧ Carries rule task) ↔
      ∃! policy, policy ∈ enabledPolicies dataset db ∧ ¬ Shadowed at_ dataset db policy := by
  have own : ∀ task ∈ tasks, OfHour at_ dataset task → Carries rule task := by
    intro task member ofHour
    obtain ⟨policy, -, -, -, params⟩ := emitted.policy task member ofHour
    exact (carries_iff params).2 ⟨rfl, rfl, rfl⟩
  constructor
  · rintro ⟨task, ⟨member, ofHour, -⟩, only⟩
    obtain ⟨policy, enabled, unshadowed, key, -⟩ := emitted.policy task member ofHour
    refine ⟨policy, ⟨enabled, unshadowed⟩, ?_⟩
    rintro other ⟨otherEnabled, otherUnshadowed⟩
    obtain ⟨second, inTasks, ofHour', key'⟩ := emitted.task other otherEnabled otherUnshadowed
    obtain rfl := only second ⟨inTasks, ofHour', own second inTasks ofHour'⟩
    have keys : vectorizeKey at_ dataset other = vectorizeKey at_ dataset policy :=
      Option.some.inj (key'.symm.trans key)
    obtain ⟨-, ids, -⟩ := @eq_of_vectorizeKey _ _ _ _ _ _ (.hour at_) keys
    exact Table.eq_of_key_eq (mem_enabledPolicies.1 otherEnabled).1
      (mem_enabledPolicies.1 enabled).1 ids
  · rintro ⟨policy, ⟨enabled, unshadowed⟩, only⟩
    obtain ⟨task, member, ofHour, key⟩ := emitted.task policy enabled unshadowed
    refine ⟨task, ⟨member, ofHour, own task member ofHour⟩, ?_⟩
    rintro second ⟨inTasks, ofHour', -⟩
    obtain ⟨other, otherEnabled, otherUnshadowed, key', -⟩ := emitted.policy second inTasks ofHour'
    obtain rfl := only other ⟨otherEnabled, otherUnshadowed⟩
    exact emitted.unique task member second inTasks ofHour (key'.trans key.symm)

/-- The tasks of the hour are enough for one rule at most. -/
theorem FirstRule.carried_iff {rule : VectorizationRule} {rest : List VectorizationRule}
    (rules : enabledRules dataset db = rule :: rest)
    (emitted : FirstRule at_ dataset db rule after.task.rows) :
    Vectorized at_ dataset db after ↔ rest = [] ∧
      ∃! policy, policy ∈ enabledPolicies dataset db ∧ ¬ Shadowed at_ dataset db policy := by
  have ids : (enabledRules dataset db).Pairwise fun a b => a.id ≠ b.id :=
    (List.pairwise_map.1 db.vectorizationRule.nodup).filter _
  rw [← emitted.existsUnique_iff]
  unfold Vectorized
  rw [rules] at ids ⊢
  constructor
  · intro each
    refine ⟨List.eq_nil_iff_forall_not_mem.2 fun second member => ?_,
      each rule List.mem_cons_self⟩
    obtain ⟨task, ⟨inTasks, ofHour, carries⟩, -⟩ := each second (List.mem_cons_of_mem _ member)
    obtain ⟨policy, -, -, -, params⟩ := emitted.policy task inTasks ofHour
    obtain ⟨same, -, -⟩ := (carries_iff params).1 carries
    exact (List.pairwise_cons.1 ids).1 second member same.symm
  · rintro ⟨rfl, one⟩ other member
    obtain rfl := List.mem_singleton.1 member
    exact one

/-- **When an hour vectorizes every rule once.**  After any calls of `plan_once` within the hour,
each enabled rule of the dataset has exactly one task of the hour when there is no rule, or when
there was a call, there is one rule, and exactly one policy is enabled for the dataset and not
shadowed by an automatic trigger. -/
theorem vectorized_iff {calls : List Call}
    (parent : db.dataset.get dataset.datasetUuid = some dataset)
    (free : HourFree at_ dataset db) (hours : ∀ call ∈ calls, SameHour call.now at_)
    (ran : planAll principal calls db = .ok after) :
    Vectorized at_ dataset db after ↔ enabledRules dataset db = [] ∨
      (calls ≠ [] ∧ (∃ rule, enabledRules dataset db = [rule]) ∧
        ∃! policy, policy ∈ enabledPolicies dataset db ∧ ¬ Shadowed at_ dataset db policy) := by
  cases rules : enabledRules dataset db with
  | nil => simp [Vectorized, rules]
  | cons rule rest =>
      cases calls with
      | nil =>
          obtain rfl := Except.ok.inj ran
          refine iff_of_false (fun each => ?_) (by simp)
          obtain ⟨task, ⟨member, ⟨-, -, policyId, key⟩, -⟩, -⟩ :=
            each rule (rules ▸ List.mem_cons_self)
          have held := taken_iff.2 ⟨task, member, key⟩
          rw [free policyId] at held
          cases held
      | cons call more =>
          obtain ⟨report, next, called, later⟩ := planAll_cons ran
          have hour := hours call List.mem_cons_self
          have idle : after.task = next.task := by
            refine planAll_idle (.planOnce called)
              (fun other member => hours other (.tail _ member)) (fun due member => ?_) later
            obtain ⟨tick, tried, table, -, -⟩ := planOnce_tried called
            rw [(SameWork.refl db).passDues hour] at tried
            exact (taken_congr table).trans (tried.taken due member)
          have emitted : FirstRule at_ dataset db rule after.task.rows := by
            rw [idle]
            exact firstRule_of_planOnce parent free hour rules called
          rw [emitted.carried_iff rules]
          simp

end Hour

section Examples

private def policyOf (id : Nat) : LifecyclePolicy := { id, datasetUuid := "d1", policyName := "p" }

private def ruleFor (id : Nat) (targetColumn : String) : VectorizationRule where
  id
  datasetUuid := "d1"
  targetColumn
  sourceColumns := some ["body"]
  modelName := "bge"
  modelVersion := "v1"

private def documents : Dataset where
  datasetUuid := "d1"
  catalog := "lake"
  dbSchema := "acme"
  tableName := "documents"
  storageUri := "s3://acme/documents"
  tenantId := "acme"

/-- One policy, and rules for a title and for a body. -/
private def twoRules : Database where
  dataset := .single documents
  lifecyclePolicy := .single (policyOf 1)
  vectorizationRule := ⟨[ruleFor 1 "title_vec", ruleFor 2 "body_vec"], by decide⟩

/-- Two policies and one rule. -/
private def twoPolicies : Database where
  dataset := .single documents
  lifecyclePolicy := ⟨[policyOf 1, policyOf 2], by decide⟩
  vectorizationRule := .single (ruleFor 1 "title_vec")

/-- One policy and one rule. -/
private def oneRule : Database where
  dataset := .single documents
  lifecyclePolicy := .single (policyOf 1)
  vectorizationRule := .single (ruleFor 1 "title_vec")

private def midnight : DateTime := DateTime.start2026

private def calls : List Call :=
  [⟨fun n => "a" ++ toString n, midnight⟩, ⟨fun n => "b" ++ toString n, midnight + 1⟩]

/-- The rule that the query returns second, here in the order of the table, is never vectorized,
and two policies vectorize one rule twice. -/
theorem rules_share_key :
    (∃ after, planAll daemonContext calls twoRules = .ok after ∧
      enabledRules documents twoRules = [ruleFor 1 "title_vec", ruleFor 2 "body_vec"] ∧
      ¬ Vectorized midnight documents twoRules after) ∧
    ∃ after, planAll daemonContext calls twoPolicies = .ok after ∧
      enabledRules documents twoPolicies = [ruleFor 1 "title_vec"] ∧
      ¬ Vectorized midnight documents twoPolicies after := by
  constructor
  · obtain ⟨after, ran, first⟩ : ∃ after, planAll daemonContext calls twoRules = .ok after ∧
        ∀ task ∈ after.task.rows, ∀ params ∈ task.params,
          Json.get? params "rule_id" = some (.int 1) := ⟨_, rfl, by decide +kernel⟩
    refine ⟨after, ran, by decide, fun each => ?_⟩
    obtain ⟨task, ⟨member, -, params, held, second, -⟩, -⟩ :=
      each (ruleFor 2 "body_vec") (by decide)
    rw [first task member params held] at second
    cases second
  · obtain ⟨after, ran, one, two, rows, differ, ofHourOne, ofHourTwo, carriesOne, carriesTwo⟩ :
        ∃ after, planAll daemonContext calls twoPolicies = .ok after ∧ ∃ one two,
          after.task.rows = [one, two] ∧ one.taskUuid ≠ two.taskUuid ∧
          OfHour midnight documents one ∧ OfHour midnight documents two ∧
          Carries (ruleFor 1 "title_vec") one ∧ Carries (ruleFor 1 "title_vec") two :=
      ⟨_, rfl, _, _, rfl, by decide +kernel, ⟨rfl, rfl, 1, rfl⟩, ⟨rfl, rfl, 2, rfl⟩,
        ⟨_, rfl, rfl, rfl, rfl⟩, ⟨_, rfl, rfl, rfl, rfl⟩⟩
    refine ⟨after, ran, by decide, fun each => differ (congrArg Task.taskUuid ?_)⟩
    exact (each (ruleFor 1 "title_vec") (by decide)).unique
      ⟨by simp [rows], ofHourOne, carriesOne⟩ ⟨by simp [rows], ofHourTwo, carriesTwo⟩

/-- One rule and one policy: two calls leave one task. -/
theorem one_rule_vectorized :
    ∃ after, planAll daemonContext calls oneRule = .ok after ∧
      Vectorized midnight documents oneRule after := by
  obtain ⟨after, ran⟩ : ∃ after, planAll daemonContext calls oneRule = .ok after := ⟨_, rfl⟩
  have free : HourFree midnight documents oneRule := fun _ => rfl
  have hours : ∀ call ∈ calls, SameHour call.now midnight := by
    intro call member
    simp only [calls, List.mem_cons, List.not_mem_nil, or_false] at member
    rcases member with rfl | rfl
    · exact ⟨rfl, rfl⟩
    · exact ⟨by decide, by decide⟩
  have unshadowed : ∀ policy, ¬ Shadowed midnight documents oneRule policy := by
    rintro policy ⟨other, -, -, -, -, parent, -, index, hot, -⟩
    exact absurd (List.mem_of_mem_filter hot) List.not_mem_nil
  have one : ∃! policy, policy ∈ enabledPolicies documents oneRule ∧
      ¬ Shadowed midnight documents oneRule policy :=
    ⟨policyOf 1, ⟨by decide, unshadowed _⟩, fun other both =>
      List.mem_singleton.1 (List.mem_of_mem_filter both.1)⟩
  exact ⟨after, ran, (vectorized_iff rfl free hours ran).2
    (.inr ⟨by decide, ⟨_, rfl⟩, one⟩)⟩

end Examples

end Lcp.VectorizedRules
