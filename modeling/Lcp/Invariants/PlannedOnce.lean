/-
# Invariants.PlannedOnce -- one planner task per policy and bucket

`_try_emit_task` is the only writer of the per-policy keys, the pass looks the key
up before it inserts, and the key determines the policy, the type and the bucket.
So the rows under the key of a slot are counted by the history of the passes: there
is one if some pass wanted the slot, and none otherwise (`planned_once`).

`Sole` is the assumption on the rest of the system, step by step: nothing else inserts
a row under the key, and the dataset of the policy keeps its tenant.
-/
import Lcp.Invariants.KeyRanges

namespace Lcp.Producers

open Theory LifecyclePlannerService IndexWatcherService

set_option autoImplicit false

/-! ## Stages -/

/-- The stages of `_plan_for_policy` that ask for one task per policy and bucket. -/
inductive Stage where
  | ttlDelete
  | compaction
  | indexOptimize
deriving DecidableEq

namespace Stage

def taskType : Stage → TaskType
  | .ttlDelete => .ttlDelete
  | .compaction => .compaction
  | .indexOptimize => .indexOptimize

/-- The policy asks for the stage. -/
def wants : Stage → LifecyclePolicy → Bool
  | .ttlDelete, policy => policy.ttlDays.isSome
  | .compaction, policy => policy.compactionThreshold.any (!·.isEmpty)
  | .indexOptimize, policy => policy.indexOptimizeCron.any (· ≠ "")

/-- The bucket that a time is in. -/
def bucket : Stage → DateTime → Bucket
  | .indexOptimize, now => .hour now
  | _, now => .day now

/-- Two times of one day; for `indexOptimize`, of one hour. -/
def SameBucket : Stage → DateTime → DateTime → Prop
  | .indexOptimize, s, t => s.day = t.day ∧ s.hour = t.hour
  | _, s, t => s.day = t.day

instance (stage : Stage) (s t : DateTime) : Decidable (stage.SameBucket s t) := by
  unfold SameBucket
  split <;> infer_instance

/-- The slot of a policy in the bucket of `at_`. -/
def slot (stage : Stage) (tenantId : String) (policyId : Nat) (at_ : DateTime) : Slot :=
  .policy tenantId policyId stage.taskType (stage.bucket at_)

theorem day_eq_iff {s t : DateTime} : Bucket.day s = Bucket.day t ↔ s.day = t.day := by
  simp only [Bucket.day, dayBucket, Subtype.mk.injEq]
  constructor
  · exact DateTime.strftimeYmd_inj
  · intro same
    unfold DateTime.strftimeYmd
    rw [same]

theorem hour_eq_iff {s t : DateTime} :
    Bucket.hour s = Bucket.hour t ↔ s.day = t.day ∧ s.hour = t.hour := by
  simp only [Bucket.hour, hourBucket, Subtype.mk.injEq]
  constructor
  · exact DateTime.strftimeYmdH_inj
  · rintro ⟨days, hours⟩
    unfold DateTime.strftimeYmdH DateTime.strftimeYmd
    rw [days, hours]

/-- A bucket's text names its day or hour. -/
theorem bucket_eq_iff {stage : Stage} {s t : DateTime} :
    stage.bucket s = stage.bucket t ↔ stage.SameBucket s t := by
  cases stage with
  | ttlDelete => exact day_eq_iff
  | compaction => exact day_eq_iff
  | indexOptimize => exact hour_eq_iff

end Stage

theorem mem_policySlots {stage : Stage} {tenantId : String} {policyId : Nat} {at_ now : DateTime}
    {policy : LifecyclePolicy} {dataset : Dataset} {db : Database} :
    stage.slot tenantId policyId at_ ∈ policySlots now policy dataset db ↔
      stage.wants policy = true ∧
        stage.slot tenantId policyId at_ = stage.slot dataset.tenantId policy.id now := by
  unfold policySlots Stage.slot
  by_cases cron : policy.indexOptimizeCron.any (· ≠ "") = true
  · rw [if_pos cron]
    cases stage with
    | ttlDelete => simp [Stage.taskType, Stage.bucket, Stage.wants]
    | compaction => simp [Stage.taskType, Stage.bucket, Stage.wants]
    | indexOptimize =>
        have asked : Stage.indexOptimize.wants policy = true := cron
        simp [Stage.taskType, Stage.bucket, asked]
  · rw [if_neg cron]
    cases stage with
    | ttlDelete => simp [Stage.taskType, Stage.bucket, Stage.wants]
    | compaction => simp [Stage.taskType, Stage.bucket, Stage.wants]
    | indexOptimize =>
        have unasked : Stage.indexOptimize.wants policy = false := Bool.eq_false_iff.2 cron
        simp [Stage.taskType, Stage.bucket, unasked]

/-- The tenant of the dataset of a policy, where there is one. -/
def HasTenant (policyId : Nat) (tenantId : String) (db : Database) : Prop :=
  ∀ policy ∈ db.lifecyclePolicy.rows, policy.id = policyId →
    ∀ dataset ∈ db.dataset.get policy.datasetUuid, dataset.tenantId = tenantId

instance (policyId : Nat) (tenantId : String) : DecidablePred (HasTenant policyId tenantId) :=
  fun db => inferInstanceAs (Decidable (∀ policy ∈ db.lifecyclePolicy.rows, _))

/-- The pass scanned the policy: enabled, asking for the stage, and its dataset was there. -/
def Pass.Scanned (pass : Pass) (stage : Stage) (policyId : Nat) : Prop :=
  ∃ policy ∈ pass.db.lifecyclePolicy.rows, policy.id = policyId ∧ policy.enabled = true ∧
    stage.wants policy = true ∧ (pass.db.dataset.get policy.datasetUuid).isSome = true

instance (pass : Pass) (stage : Stage) (policyId : Nat) : Decidable (pass.Scanned stage policyId) :=
  inferInstanceAs (Decidable (∃ policy ∈ pass.db.lifecyclePolicy.rows, _))

theorem mem_passSlots {slot : Slot} {now : DateTime} {db : Database} :
    slot ∈ passSlots now db ↔ ∃ policy ∈ db.lifecyclePolicy.rows, policy.enabled = true ∧
      ∃ dataset, db.dataset.get policy.datasetUuid = some dataset ∧
        slot ∈ policySlots now policy dataset db := by
  simp only [passSlots, List.mem_flatMap, mem_fetchEnabledPolicies]
  constructor
  · rintro ⟨policy, ⟨member, enabled⟩, wanted⟩
    split at wanted
    · cases wanted
    · rename_i dataset found
      exact ⟨policy, member, enabled, dataset, found, wanted⟩
  · rintro ⟨policy, member, enabled, dataset, found, wanted⟩
    refine ⟨policy, ⟨member, enabled⟩, ?_⟩
    rw [found]
    exact wanted

/-- A pass wants the slot of a policy when it scans it in the slot's bucket. -/
theorem wanted_iff {stage : Stage} {tenantId : String} {policyId : Nat} {at_ : DateTime}
    {pass : Pass} (tenant : HasTenant policyId tenantId pass.db) :
    stage.slot tenantId policyId at_ ∈ passSlots pass.now pass.db ↔
      pass.Scanned stage policyId ∧ stage.SameBucket pass.now at_ := by
  rw [mem_passSlots, ← Stage.bucket_eq_iff]
  constructor
  · rintro ⟨policy, member, enabled, dataset, found, wanted⟩
    obtain ⟨asked, same⟩ := mem_policySlots.1 wanted
    simp only [Stage.slot, Slot.policy.injEq] at same
    obtain ⟨-, ids, -, buckets⟩ := same
    exact ⟨⟨policy, member, ids.symm, enabled, asked, by rw [found]; rfl⟩, buckets.symm⟩
  · rintro ⟨⟨policy, member, rfl, enabled, asked, found⟩, buckets⟩
    obtain ⟨dataset, found⟩ := Option.isSome_iff_exists.1 found
    refine ⟨policy, member, enabled, dataset, found, mem_policySlots.2 ⟨asked, ?_⟩⟩
    rw [tenant policy member rfl dataset found, Stage.slot, Stage.slot, buckets]

/-- A slot of a policy's pass is for the tenant of the policy's dataset. -/
theorem tenant_of_policySlots {now : DateTime} {policy : LifecyclePolicy} {dataset : Dataset}
    {db : Database} {slot : Slot} (member : slot ∈ policySlots now policy dataset db) :
    slot.tenant? = some dataset.tenantId := by
  simp only [policySlots, List.mem_append] at member
  rcases member with ((ttl | compaction) | optimize) | vectorize
  · split at ttl
    · rw [List.mem_singleton.1 ttl]
      rfl
    · cases ttl
  · split at compaction
    · rw [List.mem_singleton.1 compaction]
      rfl
    · cases compaction
  · split at optimize
    · rw [List.mem_singleton.1 optimize]
      rfl
    · obtain ⟨index, -, rfl⟩ := List.mem_map.1 optimize
      rfl
  · obtain ⟨rule, -, rfl⟩ := List.mem_map.1 vectorize
    rfl

/-! ## The invariant -/

/-- The row is under the slot's key. -/
def Slot.holds (slot : Slot) (task : Task) : Bool := task.idempotencyKey = some slot.key

/-- The rows under the key of a slot are what the passes made of it, and whatever a pass emitted
is a row. -/
structure Once (slot : Slot) (s : Ledger) : Prop where
  unique : s.db.task.count slot.holds ≤ 1
  wanted : Emission.taken slot.key s.db = true ↔
    ∃ pass ∈ s.passes, slot ∈ passSlots pass.now pass.db
  made : ∀ task ∈ s.db.task.rows, slot.holds task = true → slot.Made task ∧
    ∃ pass ∈ s.passes, task.taskUuid ∈ pass.tick.emittedTasks
  emitted : ∀ pass ∈ s.passes, ∀ taskUuid ∈ pass.tick.emittedTasks,
    ∃ task ∈ s.db.task.rows, task.taskUuid = taskUuid ∧
      ∃ other ∈ passSlots pass.now pass.db, other.Made task

theorem holds_iff_taken {slot : Slot} {db : Database} :
    Emission.taken slot.key db = true ↔ ∃ task ∈ db.task.rows, slot.holds task = true := by
  simp [Emission.taken, Slot.holds]

/-- A key that no row has counts none. -/
theorem count_of_free {slot : Slot} {db : Database}
    (free : Emission.taken slot.key db = false) : db.task.count slot.holds = 0 := by
  refine Table.count_eq_zero.2 fun task member => Bool.eq_false_iff.2 fun held => ?_
  rw [holds_iff_taken.2 ⟨task, member, held⟩] at free
  cases free

/-- Rows with different keys hold a slot at most once. -/
theorem countP_holds_le_one {slot : Slot} {rows : List Task}
    (nodup : (rows.map Task.idempotencyKey).Nodup) : rows.countP slot.holds ≤ 1 := by
  have counts : rows.countP slot.holds =
      (rows.map Task.idempotencyKey).count (some slot.key) := by
    rw [List.count, List.countP_map]
    congr 1
    funext task
    simp [Slot.holds, Function.comp, beq_eq_decide]
  rw [counts]
  exact List.nodup_iff_count_le_one.1 nodup _

/-- Two slots of `_try_emit_task` with one key are one slot. -/
theorem Slot.eq_of_key {slot other : Slot} (alike : other.key = slot.key)
    (mine : other.isPolicy = true) (policy : slot.isPolicy = true) : other = slot := by
  cases other with
  | policy =>
      cases slot with
      | policy => exact Slot.policy_inj alike
      | autoOptimize => cases policy
      | trigger => cases policy
  | autoOptimize => cases mine
  | trigger => cases mine

theorem Slot.Made.congr {slot : Slot} {one two : Task} (made : slot.Made one)
    (same : identity two = identity one) : slot.Made two := by
  simp only [identity, Prod.mk.injEq] at same
  obtain ⟨-, keys, types, tenants⟩ := same
  exact ⟨keys.trans made.key, types.trans made.taskType, by rw [tenants]; exact made.tenant⟩

/-- Rows appended under other keys. -/
theorem Once.append {slot : Slot} {s t : Ledger} {fresh : List Task} (once : Once slot s)
    (rows : t.db.task.rows = s.db.task.rows ++ fresh) (passes : t.passes = s.passes)
    (others : ∀ task ∈ fresh, slot.holds task = false) : Once slot t := by
  have inRows : ∀ task, task ∈ t.db.task.rows → slot.holds task = true →
      task ∈ s.db.task.rows := by
    intro task member held
    rw [rows] at member
    rcases List.mem_append.1 member with old | new
    · exact old
    · rw [others task new] at held
      cases held
  refine ⟨?_, ?_, ?_, ?_⟩
  · have none_ : fresh.countP slot.holds = 0 := by
      rw [List.countP_eq_zero]
      intro task member
      simp [others task member]
    have := once.unique
    unfold Table.count at this ⊢
    rw [rows, List.countP_append]
    omega
  · rw [passes, ← once.wanted, holds_iff_taken, holds_iff_taken]
    constructor
    · rintro ⟨task, member, held⟩
      exact ⟨task, inRows task member held, held⟩
    · rintro ⟨task, member, held⟩
      exact ⟨task, rows ▸ List.mem_append_left _ member, held⟩
  · intro task member held
    rw [passes]
    exact once.made task (inRows task member held) held
  · intro pass member taskUuid listed
    obtain ⟨task, old, rest⟩ := once.emitted pass (passes ▸ member) taskUuid listed
    exact ⟨task, rows ▸ List.mem_append_left _ old, rest⟩

/-- Other columns and other tables. -/
theorem Once.elsewhere {slot : Slot} {s : Ledger} {others : Database} (once : Once slot s)
    (same : others.task.rows.map identity = s.db.task.rows.map identity) :
    Once slot { s with db := others } := by
  have counterpart : ∀ {one two : List Task}, one.map identity = two.map identity →
      ∀ task ∈ one, ∃ other ∈ two, identity other = identity task := by
    intro one two alike task member
    exact List.mem_map.1 (alike ▸ List.mem_map_of_mem member)
  have holds_congr : ∀ {one two : Task}, identity one = identity two →
      slot.holds one = slot.holds two := by
    intro one two alike
    simp only [identity, Prod.mk.injEq] at alike
    rw [Slot.holds, Slot.holds, alike.2.1]
  refine ⟨?_, ?_, ?_, ?_⟩
  · have counts : ∀ rows : List Task, rows.countP slot.holds =
        (rows.map identity).countP fun columns => columns.2.1 = some slot.key := by
      intro rows
      rw [List.countP_map]
      rfl
    have := once.unique
    unfold Table.count at this ⊢
    rw [counts] at this ⊢
    rw [same]
    exact this
  · rw [← once.wanted, holds_iff_taken, holds_iff_taken]
    constructor
    · rintro ⟨task, member, held⟩
      obtain ⟨other, inRows, alike⟩ := counterpart same task member
      exact ⟨other, inRows, (holds_congr alike).trans held⟩
    · rintro ⟨task, member, held⟩
      obtain ⟨other, inRows, alike⟩ := counterpart same.symm task member
      exact ⟨other, inRows, (holds_congr alike).trans held⟩
  · intro task member held
    obtain ⟨other, inRows, alike⟩ := counterpart same task member
    obtain ⟨made, pass, listed, emitted⟩ :=
      once.made other inRows ((holds_congr alike).trans held)
    refine ⟨made.congr alike.symm, pass, listed, ?_⟩
    simp only [identity, Prod.mk.injEq] at alike
    exact alike.1 ▸ emitted
  · intro pass member taskUuid listed
    obtain ⟨task, inRows, uuid, other, wanted, made⟩ := once.emitted pass member taskUuid listed
    obtain ⟨later, inLater, alike⟩ := counterpart same.symm task inRows
    refine ⟨later, inLater, ?_, other, wanted, made.congr alike⟩
    simp only [identity, Prod.mk.injEq] at alike
    exact alike.1.trans uuid

/-- A planner pass makes the slot if it wants it and nobody has made it. -/
theorem Once.planned {slot : Slot} {draw : Nat → String} {now : DateTime} {s : Ledger}
    {after : Database} {report : PlannerTick} (once : Once slot s)
    (policy : slot.isPolicy = true)
    (sole : Emission.taken slot.key s.db = true ∨
      ∀ first ∈ (passSlots now s.db).find? (·.key = slot.key), first.isPolicy = true)
    (ran : planOnce draw now (some (systemPrincipal "planner")) s.db = .ok (report, after)) :
    Once slot { s with db := after, passes := s.passes ++ [⟨now, s.db, report⟩] } := by
  obtain ⟨fresh, rows, emitted, slotOf, nodup, takenOf⟩ := planned_slots ran
  -- A fresh row under the key was made for this very slot.
  have origin : ∀ task ∈ fresh, slot.holds task = true →
      slot ∈ passSlots now s.db ∧ slot.Made task ∧ Emission.taken slot.key s.db = false := by
    intro task member held
    obtain ⟨other, wanted, made, free, first⟩ := slotOf task member
    have alike : other.key = slot.key :=
      Option.some.inj (made.key.symm.trans (of_decide_eq_true held))
    have mine : other.isPolicy = true := by
      rw [alike] at free first
      rcases sole with taken | sole
      · rw [taken] at free
        cases free
      · exact sole other first
    obtain rfl := Slot.eq_of_key alike mine policy
    exact ⟨wanted, made, free⟩
  have last : (Pass.mk now s.db report) ∈ s.passes ++ [⟨now, s.db, report⟩] :=
    List.mem_append_right _ (List.mem_singleton_self _)
  refine ⟨?_, ?_, ?_, ?_⟩
  · have few : fresh.countP slot.holds ≤ 1 := countP_holds_le_one nodup
    have unique : s.db.task.rows.countP slot.holds ≤ 1 := once.unique
    show after.task.rows.countP slot.holds ≤ 1
    rw [rows, List.countP_append]
    by_cases held : ∃ task ∈ fresh, slot.holds task = true
    · obtain ⟨task, member, held⟩ := held
      obtain ⟨-, -, free⟩ := origin task member held
      have none_ : s.db.task.rows.countP slot.holds = 0 := count_of_free free
      omega
    · have none_ : fresh.countP slot.holds = 0 := by
        rw [List.countP_eq_zero]
        exact fun task member keyed => held ⟨task, member, keyed⟩
      omega
  · rw [holds_iff_taken]
    constructor
    · rintro ⟨task, member, held⟩
      have inRows : task ∈ s.db.task.rows ++ fresh := rows ▸ member
      rcases List.mem_append.1 inRows with old | new
      · obtain ⟨pass, listed, wanted⟩ := once.wanted.1 (holds_iff_taken.2 ⟨task, old, held⟩)
        exact ⟨pass, List.mem_append_left _ listed, wanted⟩
      · exact ⟨_, last, (origin task new held).1⟩
    · rintro ⟨pass, member, wanted⟩
      rw [← holds_iff_taken]
      rcases List.mem_append.1 member with earlier | this
      · exact Tried.taken_append rows (once.wanted.2 ⟨pass, earlier, wanted⟩)
      · obtain rfl := List.mem_singleton.1 this
        exact takenOf slot wanted
  · intro task member held
    have inRows : task ∈ s.db.task.rows ++ fresh := rows ▸ member
    rcases List.mem_append.1 inRows with old | new
    · obtain ⟨made, pass, listed, of⟩ := once.made task old held
      exact ⟨made, pass, List.mem_append_left _ listed, of⟩
    · refine ⟨(origin task new held).2.1, _, last, ?_⟩
      show task.taskUuid ∈ report.emittedTasks
      rw [emitted]
      exact List.mem_map_of_mem new
  · intro pass member taskUuid listed
    show ∃ task ∈ after.task.rows, _
    rw [rows]
    rcases List.mem_append.1 member with earlier | this
    · obtain ⟨task, old, rest⟩ := once.emitted pass earlier taskUuid listed
      exact ⟨task, List.mem_append_left _ old, rest⟩
    · obtain rfl := List.mem_singleton.1 this
      have listed : taskUuid ∈ report.emittedTasks := listed
      rw [emitted] at listed
      obtain ⟨task, inFresh, uuid⟩ := List.mem_map.1 listed
      obtain ⟨other, wanted, made, -⟩ := slotOf task inFresh
      exact ⟨task, List.mem_append_right _ inFresh, uuid, other, wanted, made⟩

/-! ## Runs -/

section Runs

variable {Disk : Type} {lance : Pylance Disk}

/-- Nothing but `_try_emit_task` inserts a row under the slot's key: who else asks for it finds
it taken, be it by a row or, for an automatic trigger, earlier in the pass.  At a planner pass,
`uuid4` draws are fresh and the dataset of the policy has its one tenant. -/
def Sole (stage : Stage) (tenantId : String) (policyId : Nat) (at_ : DateTime) (s : Ledger) :
    Action Disk → Prop
  | .submitted principal args _ _ =>
      TaskService.scopedKey principal args.idempotencyKey =
          some (stage.slot tenantId policyId at_).key →
        Emission.taken (stage.slot tenantId policyId at_).key s.db = true
  | .autoBuilt dataset indexName indexId _ _ _ =>
      autoBuildKey dataset.datasetUuid indexName indexId =
          (stage.slot tenantId policyId at_).key →
        Emission.taken (stage.slot tenantId policyId at_).key s.db = true
  | .planned draw now =>
      FreshDraws draw s.db ∧ HasTenant policyId tenantId s.db ∧
        (Emission.taken (stage.slot tenantId policyId at_).key s.db = true ∨
          ∀ first ∈ (passSlots now s.db).find? (·.key = (stage.slot tenantId policyId at_).key),
            first.isPolicy = true)
  | _ => True

/-- The `now` of a call of `plan_once`. -/
def Action.plannedAt : Action Disk → Option DateTime
  | .planned _ now => some now
  | _ => none

theorem once_insert {slot : Slot} {s : Ledger} {task : Task} {after : Database}
    (once : Once slot s) (inserted : TaskService.insertTask task s.db = some after)
    (other : task.idempotencyKey ≠ some slot.key) : Once slot { s with db := after } := by
  obtain ⟨table, added, rfl, -⟩ := TaskService.insertTask_eq_some inserted
  have rows : table.rows = s.db.task.rows ++ [task] := (Table.insert?_eq_some added).1
  refine once.append rows rfl fun row member => ?_
  obtain rfl := List.mem_singleton.1 member
  exact decide_eq_false other

/-- What the invariant of a run says, with the history of the calls so far. -/
structure Recorded (stage : Stage) (tenantId : String) (policyId : Nat) (at_ : DateTime)
    (s : Ledger) : Prop where
  once : Once (stage.slot tenantId policyId at_) s
  tenant : ∀ pass ∈ s.passes, HasTenant policyId tenantId pass.db

/-- The rows of the start are under other keys. -/
theorem recorded_opened {stage : Stage} {tenantId : String} {policyId : Nat} {at_ : DateTime}
    {db : Database} (free : Emission.taken (stage.slot tenantId policyId at_).key db = false) :
    Recorded stage tenantId policyId at_ (opened db) := by
  have none_ : db.task.count (stage.slot tenantId policyId at_).holds = 0 := count_of_free free
  refine ⟨⟨?_, ?_, ?_, ?_⟩, ?_⟩
  · show db.task.count _ ≤ 1
    omega
  · show Emission.taken _ db = true ↔ _
    simp [free, opened]
  · intro task member held
    rw [Table.count_eq_zero.1 none_ task member] at held
    cases held
  · simp [opened]
  · simp [opened]

/-- Who else asks for the slot's key finds it taken. -/
theorem Sole.taken {stage : Stage} {tenantId : String} {policyId : Nat} {at_ : DateTime}
    {s : Ledger} {a : Action Disk} (sole : Sole stage tenantId policyId at_ s a)
    (keyed : a.rowKey = some (stage.slot tenantId policyId at_).key) :
    Emission.taken (stage.slot tenantId policyId at_).key s.db = true := by
  cases a with
  | submitted => exact sole keyed
  | autoBuilt => exact sole (Option.some.inj keyed)
  | planned => cases keyed
  | watched => cases keyed
  | elsewhere => cases keyed

theorem Action.plannedAt_eq_none {a : Action Disk} (other : ∀ draw now, a ≠ .planned draw now) :
    a.plannedAt = none := by
  cases a with
  | planned draw now => exact absurd rfl (other draw now)
  | submitted => rfl
  | autoBuilt => rfl
  | watched => rfl
  | elsewhere => rfl

theorem recorded_step {stage : Stage} {tenantId : String} {policyId : Nat} {at_ : DateTime}
    {s t : Ledger} {a : Action Disk} (recorded : Recorded stage tenantId policyId at_ s)
    (sole : Sole stage tenantId policyId at_ s a) (stepped : step lance s a = some t) :
    Recorded stage tenantId policyId at_ t ∧
      t.passes.map Pass.now = s.passes.map Pass.now ++ a.plannedAt.toList := by
  obtain ⟨once, tenant⟩ := recorded
  cases effect_of_step stepped with
  | unchanged missed =>
      have other : ∀ draw now, a ≠ .planned draw now := by
        rintro draw now rfl
        obtain ⟨answer, ran⟩ : ∃ answer,
            planOnce draw now (some (systemPrincipal "planner")) s.db = .ok answer :=
          planOnce_ok rfl sole.1.injective sole.1.unused
        exact missed draw now rfl answer ran
      exact ⟨⟨once, tenant⟩, by simp [Action.plannedAt_eq_none other]⟩
  | inserted row keyed other =>
      refine ⟨⟨once_insert once row fun same => ?_, tenant⟩,
        by simp [Action.plannedAt_eq_none other]⟩
      have free := free_of_insertTask row same
      rw [sole.taken (keyed.symm.trans same)] at free
      cases free
  | planned ran =>
      obtain ⟨-, owned, alone⟩ := sole
      refine ⟨⟨once.planned rfl alone ran, fun pass member => ?_⟩, by simp [Action.plannedAt]⟩
      rcases List.mem_append.1 member with earlier | this
      · exact tenant pass earlier
      · obtain rfl := List.mem_singleton.1 this
        exact owned
  | watched ran =>
      refine ⟨⟨?_, tenant⟩, (List.append_nil _).symm⟩
      obtain ⟨last, rfl, rfl, effect⟩ := watched_slots ran
      obtain ⟨fresh, rows, slotOf⟩ := effect.rows
      refine once.append rows rfl fun task member => decide_eq_false fun keyed => ?_
      obtain ⟨origin, fired, stored, -⟩ := slotOf task member
      have alike := Option.some.inj (stored.symm.trans keyed)
      obtain ⟨isTrigger, -⟩ := effect.fired origin fired
      cases origin with
      | policy => cases isTrigger
      | autoOptimize => cases isTrigger
      | trigger i v r => exact Slot.trigger_ne_planner rfl i v r alike
  | elsewhere same => exact ⟨⟨once.elsewhere same, tenant⟩, (List.append_nil _).symm⟩

theorem recorded_run {stage : Stage} {tenantId : String} {policyId : Nat} {at_ : DateTime}
    {s last : Ledger} {actions : List (Action Disk)}
    (recorded : Recorded stage tenantId policyId at_ s)
    (sole : (producers lance).Guarded (Sole stage tenantId policyId at_) s actions)
    (ran : (producers lance).run s actions = some last) :
    Recorded stage tenantId policyId at_ last ∧
      last.passes.map Pass.now = s.passes.map Pass.now ++ actions.filterMap Action.plannedAt := by
  induction actions generalizing s with
  | nil =>
      obtain rfl := Option.some.inj ran
      exact ⟨recorded, by simp⟩
  | cons a rest ih =>
      simp only [Machine.run_cons, Option.bind_eq_some_iff] at ran
      obtain ⟨next, stepped, ran⟩ := ran
      obtain ⟨kept, calls⟩ := recorded_step recorded (sole next stepped).1 stepped
      obtain ⟨recordedLast, callsLast⟩ := ih kept (sole next stepped).2 ran
      refine ⟨recordedLast, ?_⟩
      rw [callsLast, calls, List.append_assoc]
      congr 1
      cases plannedAt : a.plannedAt with
      | none => simp [plannedAt]
      | some now => simp [plannedAt]

/-- **One task per policy and bucket.**  Nothing else inserts rows under the key that
`_try_emit_task` composes for a stage of a policy and the bucket of `at_`.  However the calls of
`plan_once` and the edits between them are ordered, every call returns, and in the end there is
one task under the key if some call in that bucket scanned the policy enabled and asking for the
stage, and no such task otherwise.  Each was emitted by a pass, with the type of the stage and the
tenant of the policy's dataset, and every other task that a pass emitted is there too, with the
tenant of its policy's dataset. -/
theorem planned_once {stage : Stage} {tenantId : String} {policyId : Nat} {at_ : DateTime}
    {db : Database} {actions : List (Action Disk)} {last : Ledger}
    (free : Emission.taken (stage.slot tenantId policyId at_).key db = false)
    (sole : (producers lance).Guarded (Sole stage tenantId policyId at_) (opened db) actions)
    (ran : (producers lance).run (opened db) actions = some last) :
    last.passes.map Pass.now = actions.filterMap Action.plannedAt ∧
      last.db.task.count (stage.slot tenantId policyId at_).holds =
        (if ∃ pass ∈ last.passes, pass.Scanned stage policyId ∧ stage.SameBucket pass.now at_
          then 1 else 0) ∧
      (∀ task ∈ last.db.task.rows, (stage.slot tenantId policyId at_).holds task = true →
        task.taskType = stage.taskType ∧ task.tenantId = tenantId ∧
          ∃ pass ∈ last.passes, task.taskUuid ∈ pass.tick.emittedTasks) ∧
      ∀ pass ∈ last.passes, ∀ taskUuid ∈ pass.tick.emittedTasks,
        ∃ task ∈ last.db.task.rows, task.taskUuid = taskUuid ∧
          ∃ policy ∈ pass.db.lifecyclePolicy.rows, policy.enabled = true ∧
            ∃ dataset, pass.db.dataset.get policy.datasetUuid = some dataset ∧
              (∃ slot ∈ policySlots pass.now policy dataset pass.db, slot.Made task) ∧
              task.tenantId = dataset.tenantId := by
  obtain ⟨⟨once, tenant⟩, calls⟩ := recorded_run (recorded_opened free) sole ran
  refine ⟨calls, ?_, fun task member held => ?_, fun pass member taskUuid listed => ?_⟩
  · have exact_ : (∃ pass ∈ last.passes, pass.Scanned stage policyId ∧
        stage.SameBucket pass.now at_) ↔
        Emission.taken (stage.slot tenantId policyId at_).key last.db = true := by
      rw [once.wanted]
      constructor
      · rintro ⟨pass, member, scanned⟩
        exact ⟨pass, member, (wanted_iff (tenant pass member)).2 scanned⟩
      · rintro ⟨pass, member, wanted⟩
        exact ⟨pass, member, (wanted_iff (tenant pass member)).1 wanted⟩
    have unique := once.unique
    split
    · rename_i scanned
      obtain ⟨task, member, held⟩ := holds_iff_taken.1 (exact_.1 scanned)
      have some_ : 0 < last.db.task.count (stage.slot tenantId policyId at_).holds :=
        List.countP_pos_iff.2 ⟨task, member, held⟩
      omega
    · rename_i unscanned
      refine List.countP_eq_zero.2 fun task member held => unscanned ?_
      exact exact_.2 (holds_iff_taken.2 ⟨task, member, held⟩)
  · obtain ⟨made, emitted⟩ := once.made task member held
    exact ⟨made.taskType, (Option.some.inj made.tenant).symm, emitted⟩
  · obtain ⟨task, inRows, uuid, slot, wanted, made⟩ := once.emitted pass member taskUuid listed
    obtain ⟨policy, inPolicies, enabled, dataset, found, mine⟩ := mem_passSlots.1 wanted
    have tenants : some dataset.tenantId = some task.tenantId :=
      (tenant_of_policySlots mine).symm.trans made.tenant
    exact ⟨task, inRows, uuid, policy, inPolicies, enabled, dataset, found, ⟨slot, mine, made⟩,
      (Option.some.inj tenants).symm⟩

end Runs

section Examples

/-- Uuids that start with a letter. -/
private def lettered (c : Char) (n : Nat) : String := String.singleton c ++ toString n

private theorem freshDraws_lettered {c : Char} {db : Database}
    (others : ∀ key ∈ db.task.keys, key.toList.head? ≠ some c) : FreshDraws (lettered c) db := by
  refine ⟨fun m n same => ?_, fun n member => ?_⟩
  · have chars := congrArg String.toList same
    simp only [lettered, String.toList_append] at chars
    exact Nat.repr_injective (String.toList_inj.1 (List.append_cancel_left chars))
  · refine others _ member ?_
    simp [lettered, String.toList_append]

/-- The dataset `d1` of `acme`, without a policy. -/
private def unplanned : Database where
  dataset :=
    .single
      { datasetUuid := "d1", catalog := "lake", dbSchema := "acme", tableName := "events",
        storageUri := "s3://acme/events", tenantId := "acme" }

private def midnight : DateTime := DateTime.start2026

/-- A policy is created for it; the planner runs on two times of one day. -/
private def plannedTwice : List (Action Unit) :=
  [ .elsewhere { unplanned with
      lifecyclePolicy :=
        .single
          { id := 1, datasetUuid := "d1", policyName := "p", ttlDays := some 30 } },
    .planned (lettered 'a') midnight,
    .planned (lettered 'b') (midnight + 7200000000) ]

/-- One deletion of old rows for the day. -/
theorem planned_once_twice :
    ∃ last, (producers noTables).run (opened unplanned) plannedTwice = some last ∧
      last.passes.map Pass.now = [midnight, midnight + 7200000000] ∧
      last.db.task.count (Stage.ttlDelete.slot "acme" 1 (midnight + 5)).holds = 1 := by
  obtain ⟨last, ran⟩ :
      ∃ last, (producers noTables).run (opened unplanned) plannedTwice = some last :=
    Option.isSome_iff_exists.1 (by decide +kernel)
  have scanned : ∀ t ∈ (producers noTables).run (opened unplanned) plannedTwice,
      ∃ pass ∈ t.passes, pass.Scanned .ttlDelete 1 ∧
        Stage.ttlDelete.SameBucket pass.now (midnight + 5) := by
    decide +kernel
  have sole : (producers noTables).Guarded (Sole .ttlDelete "acme" 1 (midnight + 5))
      (opened unplanned) plannedTwice := by
    refine fun one ran => ⟨trivial, fun two ran' => ⟨?_, fun three ran'' => ⟨?_, trivial⟩⟩⟩
    · obtain rfl := Option.some.inj ran
      exact ⟨freshDraws_lettered (by decide +kernel), by decide +kernel, by decide +kernel⟩
    · obtain rfl := Option.some.inj ran
      obtain rfl := Option.some.inj ran'
      exact ⟨freshDraws_lettered (by decide +kernel), by decide +kernel, by decide +kernel⟩
  have once := @planned_once Unit noTables .ttlDelete "acme" 1 (midnight + 5) unplanned
    plannedTwice last (by decide +kernel) sole ran
  exact ⟨last, ran, once.1, once.2.1.trans (if_pos (scanned last ran))⟩

end Examples

end Lcp.Producers
