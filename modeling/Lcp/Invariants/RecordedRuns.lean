/-
# Invariants.RecordedRuns -- `last_run_at` of the policies that a pass scans

`_plan_for_policy` records the pass in its policy whatever it emitted, and `plan_once`
commits a tick with an emission or a duplicate.  Every insert that the pass asks for is
one or the other (`tally_policies`).  So the records of a pass are lost exactly when no
policy asks for a task (`recorded_iff`).
-/
import Lcp.Services.PlannerPass

namespace Lcp.LifecyclePlannerService

open Theory Emission

set_option autoImplicit false

/-- The pass plans for the policy: it is enabled and its dataset exists. -/
def Scanned (db : Database) (policy : LifecyclePolicy) : Prop :=
  policy.enabled = true ∧ (db.dataset.get policy.datasetUuid).isSome = true

instance (db : Database) (policy : LifecyclePolicy) : Decidable (Scanned db policy) :=
  inferInstanceAs (Decidable (_ ∧ _))

/-- The scanned policies ran last at `now`, the other ones when they did before. -/
def Recorded (now : DateTime) (db after : Database) : Prop :=
  ∀ policy ∈ db.lifecyclePolicy.rows,
    (after.lifecyclePolicy.get policy.id).map LifecyclePolicy.lastRunAt =
      some (if Scanned db policy then some now else policy.lastRunAt)

instance (now : DateTime) (db after : Database) : Decidable (Recorded now db after) :=
  inferInstanceAs (Decidable (∀ policy ∈ db.lifecyclePolicy.rows, _))

/-- Planning for the policy asks for a task of some kind. -/
def Asks (db : Database) (policy : LifecyclePolicy) : Prop :=
  ∃ dataset ∈ db.dataset.get policy.datasetUuid,
    policy.ttlDays.isSome = true ∨
      policy.compactionThreshold.any (!·.isEmpty) = true ∨
      policy.indexOptimizeCron.any (· ≠ "") = true ∨
      hotIndexes dataset db ≠ [] ∨
      enabledRules dataset db ≠ []

/-! ## Every insert is an emission or a duplicate -/

section Tally

variable {draw : Nat → String} {now : DateTime}

/-- The emissions and the duplicates of a tick; it is committed unless there are none. -/
def tally (tick : Tick) : Nat := tick.emitted.length + tick.skipped

theorem committed_iff {tick : Tick} : (tick.emitted ≠ [] ∨ tick.skipped > 0) ↔ tally tick ≠ 0 := by
  rw [tally, ← List.length_pos_iff]
  omega

theorem tally_emit {due : Due} {tick after : Tick} (ran : due.emit draw now tick = .ok after) :
    tally after = tally tick + 1 := by
  unfold Due.emit tryEmit at ran
  split at ran
  · cases ran
    simp only [tally]
    omega
  · split at ran
    · cases ran
      simp only [tally, List.length_append, List.length_singleton]
      omega
    · cases ran

theorem tally_emitAll {dues : List Due} {tick after : Tick}
    (ran : Due.emitAll draw now dues tick = .ok after) :
    tally after = tally tick + dues.length := by
  induction dues generalizing tick with
  | nil =>
      obtain rfl := Except.ok.inj ran
      rfl
  | cons due rest ih =>
      obtain ⟨next, first, later⟩ := foldlM_cons_ok ran
      rw [ih later, tally_emit first, List.length_cons]
      omega

/-- The rows that decide what a policy asks for. -/
structure SameSources (db after : Database) : Prop where
  dataset : after.dataset = db.dataset
  vectorIndex : after.vectorIndex = db.vectorIndex
  vectorizationRule : after.vectorizationRule = db.vectorizationRule

/-- Planning for one policy: its inserts, and the assignment that ends it. -/
theorem planPolicy_cases {db : Database} {tick after : Tick} {policy : LifecyclePolicy}
    (same : SameSources db tick.db) (ran : planPolicy draw now tick policy = .ok after) :
    (db.dataset.get policy.datasetUuid = none ∧ after = tick) ∨
      ∃ dataset next, db.dataset.get policy.datasetUuid = some dataset ∧
        Due.emitAll draw now (dues now policy dataset db) tick = .ok next ∧
        after = recordRun now policy next := by
  unfold planPolicy at ran
  rw [same.dataset] at ran
  cases found : db.dataset.get policy.datasetUuid with
  | none =>
      rw [found] at ran
      exact .inl ⟨rfl, (Except.ok.inj ran).symm⟩
  | some dataset =>
      rw [found] at ran
      have ran : planForPolicy draw now policy dataset tick = .ok after := ran
      rw [planForPolicy_eq, dues_congr same.vectorIndex same.vectorizationRule] at ran
      obtain ⟨next, tried, ran⟩ := bind_eq_ok ran
      exact .inr ⟨dataset, next, rfl, tried, (Except.ok.inj ran).symm⟩

theorem SameSources.planPolicy {db : Database} {tick after : Tick} {policy : LifecyclePolicy}
    (same : SameSources db tick.db) (ran : planPolicy draw now tick policy = .ok after) :
    SameSources db after.db := by
  obtain ⟨-, rfl⟩ | ⟨dataset, next, -, tried, rfl⟩ := planPolicy_cases same ran
  · exact same
  · obtain ⟨one, two, three⟩ := Tried.emitAll tried
    exact ⟨one.trans same.dataset, two.trans same.vectorIndex, three.trans same.vectorizationRule⟩

theorem tally_policies {db : Database} {policies : List LifecyclePolicy} {tick after : Tick}
    (same : SameSources db tick.db)
    (ran : policies.foldlM (planPolicy draw now) tick = .ok after) :
    tally after = tally tick + (policies.flatMap (policyDues now db)).length := by
  induction policies generalizing tick with
  | nil =>
      obtain rfl := Except.ok.inj ran
      rfl
  | cons policy rest ih =>
      obtain ⟨next, first, later⟩ := foldlM_cons_ok ran
      have head : tally next = tally tick + (policyDues now db policy).length := by
        unfold policyDues
        obtain ⟨missing, rfl⟩ | ⟨dataset, between, found, tried, rfl⟩ := planPolicy_cases same first
        · rw [missing]
          rfl
        · rw [found]
          have counted : tally between = tally tick + (dues now policy dataset db).length :=
            tally_emitAll tried
          exact counted
      rw [ih (same.planPolicy first) later, head, List.flatMap_cons, List.length_append]
      omega

/-- The dues of a policy are none when it asks for nothing. -/
theorem policyDues_ne_nil {db : Database} {policy : LifecyclePolicy} :
    policyDues now db policy ≠ [] ↔ Asks db policy := by
  unfold policyDues Asks
  cases db.dataset.get policy.datasetUuid with
  | none => simp
  | some dataset =>
      have ttl : ttlDue now policy dataset ≠ [] ↔ policy.ttlDays.isSome = true := by
        unfold ttlDue
        cases policy.ttlDays <;> simp
      have compaction : compactionDue now policy dataset ≠ [] ↔
          policy.compactionThreshold.any (!·.isEmpty) = true := by
        unfold compactionDue
        rcases policy.compactionThreshold with _ | _ | ⟨entry, rest⟩ <;> simp
      have optimize : indexOptimizeDue now policy dataset db ≠ [] ↔
          policy.indexOptimizeCron.any (· ≠ "") = true ∨
            (policy.indexOptimizeCron.any (· ≠ "") = false ∧ hotIndexes dataset db ≠ []) := by
        unfold indexOptimizeDue
        cases policy.indexOptimizeCron with
        | none => simp
        | some cron => by_cases empty : cron = "" <;> simp [Option.filter, empty]
      simp only [Option.mem_some_iff, exists_eq_left', dues, ne_eq, List.append_eq_nil_iff,
        not_and_or, List.map_eq_nil_iff]
      rw [← ne_eq, ttl, ← ne_eq (compactionDue _ _ _), compaction,
        ← ne_eq (indexOptimizeDue _ _ _ _),
        optimize]
      cases policy.indexOptimizeCron.any (· ≠ "") <;> simp [or_assoc]

theorem passDues_ne_nil {db : Database} :
    passDues now db ≠ [] ↔ ∃ policy ∈ db.lifecyclePolicy.rows,
      policy.enabled = true ∧ Asks db policy := by
  unfold passDues
  rw [ne_eq, List.flatMap_eq_nil_iff]
  simp only [not_forall, mem_fetchEnabledPolicies, ← ne_eq, policyDues_ne_nil, exists_prop,
    and_assoc]

end Tally

/-! ## The records -/

section Records

variable {draw : Nat → String} {now : DateTime}

/-- The loop over the policies records the pass in those whose dataset exists. -/
theorem records_policies {db : Database} {policies : List LifecyclePolicy} {tick after : Tick}
    (same : SameSources db tick.db)
    (ran : policies.foldlM (planPolicy draw now) tick = .ok after) (id : Nat) :
    (after.db.lifecyclePolicy.get id).map LifecyclePolicy.lastRunAt =
      (tick.db.lifecyclePolicy.get id).map fun row =>
        if ∃ policy ∈ policies, policy.id = id ∧
            (db.dataset.get policy.datasetUuid).isSome = true then some now
        else row.lastRunAt := by
  induction policies generalizing tick with
  | nil =>
      obtain rfl := Except.ok.inj ran
      simp
  | cons policy rest ih =>
      obtain ⟨next, first, later⟩ := foldlM_cons_ok ran
      rw [ih (same.planPolicy first) later]
      obtain ⟨missing, rfl⟩ | ⟨dataset, between, found, tried, rfl⟩ := planPolicy_cases same first
      · simp [missing]
      · have frame : between.db.lifecyclePolicy = tick.db.lifecyclePolicy := by
          rw [Due.emitAll_frame tried]
        simp only [recordRun, Table.get_update, frame, List.mem_cons, exists_eq_or_imp, found,
          Option.isSome_some, and_true]
        by_cases mine : policy.id = id
        · cases tick.db.lifecyclePolicy.get id <;> simp [mine, LifecyclePolicy.recordRun]
        · simp [mine, Ne.symm mine]

theorem recorded_of_looped {db : Database} {tick : Tick}
    (looped : (fetchEnabledPolicies db).foldlM (planPolicy draw now) { db } = .ok tick) :
    Recorded now db tick.db := by
  intro policy member
  rw [records_policies ⟨rfl, rfl, rfl⟩ looped, Table.get_of_mem member, Option.map_some]
  have scanned : (∃ other ∈ fetchEnabledPolicies db, other.id = policy.id ∧
      (db.dataset.get other.datasetUuid).isSome = true) ↔ Scanned db policy := by
    constructor
    · rintro ⟨other, fetched, same, parent⟩
      obtain ⟨inRows, enabled⟩ := mem_fetchEnabledPolicies.1 fetched
      obtain rfl := Table.eq_of_key_eq inRows member same
      exact ⟨enabled, parent⟩
    · rintro ⟨enabled, parent⟩
      exact ⟨policy, mem_fetchEnabledPolicies.2 ⟨member, enabled⟩, rfl, parent⟩
  simp only [scanned]

/-- **When a pass is recorded.**  Some enabled policy asks for a task, or every policy that the
pass scans had run at this time already. -/
theorem recorded_iff {principal : Option TenantPrincipal} {db after : Database}
    {report : PlannerTick} (ran : planOnce draw now principal db = .ok (report, after)) :
    Recorded now db after ↔
      (∃ policy ∈ db.lifecyclePolicy.rows, policy.enabled = true ∧ Asks db policy) ∨
        ∀ policy ∈ db.lifecyclePolicy.rows, Scanned db policy → policy.lastRunAt = some now := by
  obtain ⟨-, tick, looped, -, -, rfl⟩ := planOnce_eq_ok ran
  have counted : tally tick = (passDues now db).length := by
    rw [tally_policies ⟨rfl, rfl, rfl⟩ looped]
    exact Nat.zero_add _
  have committed : (tick.emitted ≠ [] ∨ tick.skipped > 0) ↔
      ∃ policy ∈ db.lifecyclePolicy.rows, policy.enabled = true ∧ Asks db policy := by
    rw [committed_iff, counted, ← @passDues_ne_nil now, ne_eq, List.length_eq_zero_iff]
  split
  · rename_i kept
    exact iff_of_true (recorded_of_looped looped) (.inl (committed.1 kept))
  · rename_i dropped
    have unasked := mt committed.2 dropped
    simp only [unasked, false_or, Recorded]
    refine forall₂_congr fun policy member => ?_
    rw [Table.get_of_mem member, Option.map_some, Option.some.injEq]
    by_cases scanned : Scanned db policy <;> simp [scanned]

end Records

section Examples

/-- An enabled policy with every kind of work off, on a dataset without indexes and rules. -/
private def idle : Database where
  dataset :=
    .single
      { datasetUuid := "d1", catalog := "lake", dbSchema := "acme", tableName := "events",
        storageUri := "s3://acme/events", tenantId := "acme" }
  lifecyclePolicy := .single { id := 1, datasetUuid := "d1", policyName := "idle" }

private def noon : DateTime := DateTime.start2026 + 12 * DateTime.microsPerHour

/-- The pass scans the policy and throws its record away. -/
theorem idle_pass_unrecorded :
    ∃ report after, planOnce (fun n => toString n) noon daemonContext idle = .ok (report, after) ∧
      report.scannedPolicies = 1 ∧
      (after.lifecyclePolicy.get 1).map LifecyclePolicy.lastRunAt = some none ∧
      ¬ Recorded noon idle after :=
  ⟨_, _, rfl, by decide +kernel, by decide +kernel, by decide +kernel⟩

/-- With `ttl_days` it is recorded. -/
theorem ttl_pass_recorded :
    ∃ report after, planOnce (fun n => toString n) noon daemonContext { idle with
        lifecyclePolicy :=
          .single { id := 1, datasetUuid := "d1", policyName := "ttl", ttlDays := some 30 } } =
          .ok (report, after) ∧
      (after.lifecyclePolicy.get 1).map LifecyclePolicy.lastRunAt = some (some noon) := by
  obtain ⟨⟨report, after⟩, ran⟩ : ∃ answer, planOnce (fun n => toString n) noon daemonContext
      { idle with
        lifecyclePolicy :=
          .single { id := 1, datasetUuid := "d1", policyName := "ttl", ttlDays := some 30 } } =
        .ok answer := ⟨_, rfl⟩
  have recorded := (recorded_iff ran).2
    (.inl ⟨_, List.mem_singleton_self _, rfl, _, rfl, .inl rfl⟩)
  exact ⟨report, after, ran, recorded _ (List.mem_singleton_self _)⟩

end Examples

end Lcp.LifecyclePlannerService
