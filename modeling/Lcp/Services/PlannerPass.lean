/-
# Services.PlannerPass -- what one planner pass does to the task table

Planning writes neither datasets nor indexes nor rules, so everything that a pass
wants to insert is decided by the rows it starts from: `passDues`.  `Tried` says
what trying a list of dues does.  It appends rows, each of them for the first due with
its key, which was free, no two of them with one key, and afterwards the key of every
due is taken.

`planOnce_tried` is the result for the whole pass.
-/
import Lcp.Services.PlannerDue

namespace Lcp

open Theory Emission

set_option autoImplicit false

namespace LifecyclePlannerService

/-- The row that an insert of the pass adds. -/
def Due.row (now : DateTime) (due : Due) (taskUuid : String) : Task :=
  taskRow due.dataset now taskUuid due.taskType due.key due.params

/-- The effect of trying the dues, one after the other. -/
structure Tried (now : DateTime) (dues : List Due) (tick after : Tick) : Prop where
  dataset : after.db.dataset = tick.db.dataset
  vectorIndex : after.db.vectorIndex = tick.db.vectorIndex
  vectorizationRule : after.db.vectorizationRule = tick.db.vectorizationRule
  rows : ∃ fresh : List Task, after.db.task.rows = tick.db.task.rows ++ fresh ∧
    after.emitted = tick.emitted ++ fresh.map Task.taskUuid ∧
    (∀ task ∈ fresh, ∃ due, dues.find? (·.key = due.key) = some due ∧
      task = Due.row now due task.taskUuid ∧ taken due.key tick.db = false) ∧
    (fresh.map Task.idempotencyKey).Nodup
  taken : ∀ due ∈ dues, taken due.key after.db = true

namespace Tried

variable {now : DateTime} {draw : Nat → String} {tick next after : Tick}

theorem refl (now : DateTime) (tick : Tick) : Tried now [] tick tick :=
  ⟨rfl, rfl, rfl, ⟨[], by simp, by simp, by simp, by simp⟩, by simp⟩

theorem taken_append {db last : Database} {fresh : List Task} {key : String}
    (rows : last.task.rows = db.task.rows ++ fresh) (held : Emission.taken key db = true) :
    Emission.taken key last = true := by
  obtain ⟨task, member, keyed⟩ := taken_iff.1 held
  exact taken_iff.2 ⟨task, rows ▸ List.mem_append_left _ member, keyed⟩

theorem trans {first second : List Due} (one : Tried now first tick next)
    (two : Tried now second next after) : Tried now (first ++ second) tick after := by
  obtain ⟨freshOne, rowsOne, emittedOne, dueOne, nodupOne⟩ := one.rows
  obtain ⟨freshTwo, rowsTwo, emittedTwo, dueTwo, nodupTwo⟩ := two.rows
  have free : ∀ {key : String}, Emission.taken key next.db = false →
      Emission.taken key tick.db = false := by
    intro key later
    refine Bool.eq_false_iff.2 fun held => ?_
    rw [taken_append rowsOne held] at later
    cases later
  refine ⟨two.dataset.trans one.dataset, two.vectorIndex.trans one.vectorIndex,
    two.vectorizationRule.trans one.vectorizationRule, ⟨freshOne ++ freshTwo, ?_, ?_, ?_, ?_⟩, ?_⟩
  · rw [rowsTwo, rowsOne, List.append_assoc]
  · rw [emittedTwo, emittedOne, List.map_append, List.append_assoc]
  · intro task member
    rcases List.mem_append.1 member with inOne | inTwo
    · obtain ⟨due, first, row, unused⟩ := dueOne task inOne
      exact ⟨due, by rw [List.find?_append, first, Option.some_or], row, unused⟩
    · obtain ⟨due, later, row, unused⟩ := dueTwo task inTwo
      refine ⟨due, ?_, row, free unused⟩
      -- A due of the first list with this key would have taken it.
      have earlier : first.find? (·.key = due.key) = none := by
        rw [List.find?_eq_none]
        intro other member same
        have held := one.taken other member
        rw [of_decide_eq_true same, unused] at held
        cases held
      rw [List.find?_append, earlier, Option.none_or, later]
  · rw [List.map_append, List.nodup_append]
    refine ⟨nodupOne, nodupTwo, fun key inOne key' inTwo same => ?_⟩
    obtain ⟨task, member, rfl⟩ := List.mem_map.1 inOne
    obtain ⟨other, member', rfl⟩ := List.mem_map.1 inTwo
    obtain ⟨due, -, row, unused⟩ := dueTwo other member'
    have keyed : other.idempotencyKey = some due.key := by
      rw [row]
      rfl
    have held : Emission.taken due.key next.db = true := by
      refine taken_iff.2 ⟨task, ?_, same.trans keyed⟩
      rw [rowsOne]
      exact List.mem_append_right _ member
    rw [unused] at held
    cases held
  · intro due member
    rcases List.mem_append.1 member with inOne | inTwo
    · exact taken_append rowsTwo (one.taken due inOne)
    · exact two.taken due inTwo

/-- One due. -/
theorem emit {due : Due} (ran : due.emit draw now tick = .ok after) :
    Tried now [due] tick after := by
  unfold Due.emit tryEmit at ran
  split at ran
  · rename_i held
    cases ran
    exact ⟨rfl, rfl, rfl, ⟨[], by simp, by simp, by simp, by simp⟩, by simpa using held⟩
  · rename_i free
    split at ran
    · rename_i rows inserted
      cases ran
      obtain ⟨table, added, rfl, -⟩ := TaskService.insertTask_eq_some inserted
      obtain ⟨appended, -⟩ := Table.insert?_eq_some added
      refine ⟨rfl, rfl, rfl, ⟨[Due.row now due (draw tick.drawn)], appended, rfl, ?_, by simp⟩, ?_⟩
      · intro task member
        obtain rfl := List.mem_singleton.1 member
        exact ⟨due, by simp, rfl, by simpa using free⟩
      · intro other member
        obtain rfl := List.mem_singleton.1 member
        refine taken_iff.2 ⟨Due.row now other (draw tick.drawn), ?_, rfl⟩
        exact (Table.mem_insert? added).2 (.inr rfl)
    · cases ran

theorem emitAll {dues : List Due} (ran : Due.emitAll draw now dues tick = .ok after) :
    Tried now dues tick after := by
  induction dues generalizing tick with
  | nil =>
      obtain rfl := Except.ok.inj ran
      exact refl now tick
  | cons due dues ih =>
      obtain ⟨next, first, later⟩ := foldlM_cons_ok ran
      exact (emit first).trans (ih later)

end Tried

/-- The inserts that the pass wants for one policy; an orphaned one wants none. -/
def policyDues (now : DateTime) (db : Database) (policy : LifecyclePolicy) : List Due :=
  match db.dataset.get policy.datasetUuid with
  | none => []
  | some dataset => dues now policy dataset db

/-- The inserts that a pass wants, in order. -/
def passDues (now : DateTime) (db : Database) : List Due :=
  (fetchEnabledPolicies db).flatMap (policyDues now db)

theorem mem_fetchEnabledPolicies {db : Database} {policy : LifecyclePolicy} :
    policy ∈ fetchEnabledPolicies db ↔
      policy ∈ db.lifecyclePolicy.rows ∧ policy.enabled = true := by
  unfold fetchEnabledPolicies
  rw [(List.perm_insertionSort _ _).mem_iff, List.mem_filter]

/-- A VECTORIZE insert is that of an enabled policy and an enabled rule of its dataset. -/
theorem vectorize_of_mem_passDues {now : DateTime} {db : Database} {due : Due}
    (member : due ∈ passDues now db) (type : due.taskType = .vectorize) :
    ∃ policy ∈ fetchEnabledPolicies db, ∃ dataset,
      db.dataset.get policy.datasetUuid = some dataset ∧
      ∃ rule ∈ enabledRules dataset db, due = vectorizeDue now policy dataset rule := by
  obtain ⟨policy, fetched, wanted⟩ := List.mem_flatMap.1 member
  unfold policyDues at wanted
  cases found : db.dataset.get policy.datasetUuid with
  | none =>
      rw [found] at wanted
      cases wanted
  | some dataset =>
      rw [found] at wanted
      refine ⟨policy, fetched, dataset, found, ?_⟩
      simp only [dues, List.mem_append, List.mem_map] at wanted
      rcases wanted with ((inTtl | inCompaction) | inOptimize) | ⟨rule, enabled, rfl⟩
      · unfold ttlDue at inTtl
        split at inTtl
        · cases inTtl
        · obtain rfl := List.mem_singleton.1 inTtl
          cases type
      · unfold compactionDue at inCompaction
        split at inCompaction
        · cases inCompaction
        · cases inCompaction
        · obtain rfl := List.mem_singleton.1 inCompaction
          cases type
      · unfold indexOptimizeDue at inOptimize
        split at inOptimize
        · obtain rfl := List.mem_singleton.1 inOptimize
          cases type
        · obtain ⟨index, -, rfl⟩ := List.mem_map.1 inOptimize
          cases type
      · exact ⟨rule, enabled, rfl⟩

theorem tried_planPolicy {draw : Nat → String} {now : DateTime} {db : Database} {tick after : Tick}
    {policy : LifecyclePolicy} (dataset : tick.db.dataset = db.dataset)
    (vectorIndex : tick.db.vectorIndex = db.vectorIndex)
    (vectorizationRule : tick.db.vectorizationRule = db.vectorizationRule)
    (ran : planPolicy draw now tick policy = .ok after) :
    Tried now (policyDues now db policy) tick after := by
  unfold planPolicy at ran
  unfold policyDues
  rw [dataset] at ran
  cases found : db.dataset.get policy.datasetUuid with
  | none =>
      rw [found] at ran
      obtain rfl := Except.ok.inj ran
      exact .refl now tick
  | some parent =>
      rw [found] at ran
      have ran : planForPolicy draw now policy parent tick = .ok after := ran
      rw [planForPolicy_eq, dues_congr vectorIndex vectorizationRule] at ran
      obtain ⟨next, tried, ran⟩ := bind_eq_ok ran
      obtain rfl := Except.ok.inj ran
      have effect := Tried.emitAll tried
      exact ⟨effect.dataset, effect.vectorIndex, effect.vectorizationRule, effect.rows,
        effect.taken⟩

theorem tried_policies {draw : Nat → String} {now : DateTime} {db : Database} {tick after : Tick}
    {policies : List LifecyclePolicy} (dataset : tick.db.dataset = db.dataset)
    (vectorIndex : tick.db.vectorIndex = db.vectorIndex)
    (vectorizationRule : tick.db.vectorizationRule = db.vectorizationRule)
    (ran : policies.foldlM (planPolicy draw now) tick = .ok after) :
    Tried now (policies.flatMap (policyDues now db)) tick after := by
  induction policies generalizing tick with
  | nil =>
      obtain rfl := Except.ok.inj ran
      exact .refl now tick
  | cons policy policies ih =>
      obtain ⟨next, first, later⟩ := foldlM_cons_ok ran
      have head := tried_planPolicy dataset vectorIndex vectorizationRule first
      rw [List.flatMap_cons]
      exact head.trans (ih (head.dataset.trans dataset) (head.vectorIndex.trans vectorIndex)
        (head.vectorizationRule.trans vectorizationRule) later)

/-- **A planner pass tries what is due**, and what it commits is that. -/
theorem planOnce_tried {draw : Nat → String} {now : DateTime} {principal : Option TenantPrincipal}
    {db after : Database} {report : PlannerTick}
    (ran : planOnce draw now principal db = .ok (report, after)) :
    ∃ tick, Tried now (passDues now db) { db } tick ∧ after.task = tick.db.task ∧
      report.emittedTasks = tick.emitted ∧ after.dataset = db.dataset := by
  obtain ⟨-, tick, looped, emitted, -, rfl⟩ := planOnce_eq_ok ran
  have tried : Tried now (passDues now db) { db } tick := tried_policies rfl rfl rfl looped
  refine ⟨tick, tried, ?_, emitted, ?_⟩
  · split
    · rfl
    · rename_i nothing
      obtain ⟨fresh, rows, listed, -⟩ := tried.rows
      have none_ : fresh = [] := by
        cases fresh with
        | nil => rfl
        | cons task rest => exact absurd (.inl (by simp [listed])) nothing
      exact Table.ext (by rw [rows, none_, List.append_nil])
  · split
    · exact tried.dataset
    · rfl

/-! ## That a pass returns -/

section Returning

variable {draw : Nat → String} {now : DateTime}

/-- The draws from the next one on are on no row. -/
def Undrawn (draw : Nat → String) (tick : Tick) : Prop :=
  ∀ n, tick.drawn ≤ n → draw n ∉ tick.db.task.keys

theorem Due.emit_ok {due : Due} {tick : Tick} (injective : ∀ m n, draw m = draw n → m = n)
    (undrawn : Undrawn draw tick) :
    ∃ after, due.emit draw now tick = .ok after ∧ Undrawn draw after := by
  obtain ⟨after, ran⟩ : ∃ after, due.emit draw now tick = .ok after :=
    tryEmit_ok (undrawn tick.drawn (Nat.le_refl _))
  refine ⟨after, ran, fun n above => ?_⟩
  unfold Due.emit tryEmit at ran
  split at ran
  · cases ran
    exact undrawn n above
  · split at ran
    · rename_i rows inserted
      cases ran
      obtain ⟨table, added, rfl, -⟩ := TaskService.insertTask_eq_some inserted
      show draw n ∉ table.keys
      rw [Table.keys_insert? added, List.mem_append, List.mem_singleton]
      simp only at above
      rintro (old | repeated)
      · exact undrawn n (by omega) old
      · have := injective _ _ repeated
        omega
    · cases ran

theorem Due.emitAll_ok {dues : List Due} {tick : Tick}
    (injective : ∀ m n, draw m = draw n → m = n) (undrawn : Undrawn draw tick) :
    ∃ after, Due.emitAll draw now dues tick = .ok after ∧ Undrawn draw after := by
  induction dues generalizing tick with
  | nil => exact ⟨tick, rfl, undrawn⟩
  | cons due dues ih =>
      obtain ⟨next, first, undrawnNext⟩ := @Due.emit_ok draw now due tick injective undrawn
      obtain ⟨after, later, undrawnAfter⟩ := ih undrawnNext
      refine ⟨after, ?_, undrawnAfter⟩
      rw [Due.emitAll, List.foldlM_cons, first]
      exact later

theorem planPolicy_ok {tick : Tick} (injective : ∀ m n, draw m = draw n → m = n)
    (undrawn : Undrawn draw tick) (policy : LifecyclePolicy) :
    ∃ after, planPolicy draw now tick policy = .ok after ∧ Undrawn draw after := by
  unfold planPolicy
  cases tick.db.dataset.get policy.datasetUuid with
  | none => exact ⟨tick, rfl, undrawn⟩
  | some dataset =>
      obtain ⟨next, tried, undrawnNext⟩ :=
        @Due.emitAll_ok draw now (dues now policy dataset tick.db) tick injective undrawn
      refine ⟨recordRun now policy next, ?_, undrawnNext⟩
      show planForPolicy draw now policy dataset tick = _
      rw [planForPolicy_eq, tried]
      rfl

/-- Under the system principal and with fresh draws, a pass returns. -/
theorem planOnce_ok {principal : Option TenantPrincipal} {db : Database}
    (system : requireSystemContext principal = true)
    (injective : ∀ m n, draw m = draw n → m = n) (unused : ∀ n, draw n ∉ db.task.keys) :
    ∃ answer, planOnce draw now principal db = .ok answer := by
  have loop : ∀ (policies : List LifecyclePolicy) (tick : Tick), Undrawn draw tick →
      ∃ after, policies.foldlM (planPolicy draw now) tick = .ok after := by
    intro policies
    induction policies with
    | nil => exact fun tick _ => ⟨tick, rfl⟩
    | cons policy rest ih =>
        intro tick undrawn
        obtain ⟨next, first, undrawnNext⟩ := @planPolicy_ok draw now tick injective undrawn policy
        obtain ⟨after, later⟩ := ih next undrawnNext
        exact ⟨after, by rw [List.foldlM_cons, first]; exact later⟩
  obtain ⟨tick, looped⟩ := loop (fetchEnabledPolicies db) { db } fun n _ => unused n
  cases ran : planOnce draw now principal db with
  | ok answer => exact ⟨answer, rfl⟩
  | error e => simp [planOnce, system, looped, bind, Except.bind, pure, Except.pure] at ran

end Returning

end LifecyclePlannerService

end Lcp
