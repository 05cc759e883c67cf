/-
# Invariants.StaleFallback -- an index that is due again at a version it was optimized at

The stale signal is a matter of time: it fires as often as an index goes without an
optimize for long enough.  The key of the task that it asks for holds the version of the
table and the name of the signal, and keys are never given back.  Where optimizing does
not move the version, the second stale period asks for the key of the first one.

* `Plant.emitted` -- the keys that the passes so far have reported; in every run they are
  the watcher keys of the task table (`Recorded`).
* `FallsBack` -- a pass emits a task for each index that has waited long enough and has no
  task pending, queued or running.
* `fallback_iff` -- that holds just when one of the triggers that fire for the index is
  not among `emitted`.
-/
import Lcp.Invariants.OneTrigger
import Lcp.Workers.LifecycleWorkerService

namespace Lcp.StaleFallback

open Theory Emission IndexWatcherService OneTrigger

set_option autoImplicit false

/-- The state store, the lance tables, and the keys that passes have reported. -/
structure Plant (Disk : Type) where
  db : Database
  disk : Disk
  emitted : List String := []

inductive Action (Disk : Type) where
  /-- A pass that returns; one that raises changes nothing. -/
  | runWatchPass (principal : Option TenantPrincipal) (draw : Nat → String) (now : DateTime)
  /-- A worker claims a task, executes and finalizes it. -/
  | runIteration (principal : Option TenantPrincipal) (context : ExecutorContext)
      (finishedAt claimedAt : DateTime) (config : LifecycleWorkerService.WorkerConfig)
  /-- A cancel, a retry, a heartbeat or another call that submits no task. -/
  | call (op : Operation)
  /-- Other writers commit to the tables. -/
  | tables (disk : Disk)
  /-- The rest of the control plane: datasets, indexes and policies. -/
  | elsewhere (others : Database)

section Runs

variable {Disk : Type} (lance : Pylance Disk)

def step (s : Plant Disk) : Action Disk → Option (Plant Disk)
  | .runWatchPass principal draw now =>
      match IndexWatcherService.runWatchPass lance draw now principal s.db s.disk with
      | .ok (report, after) =>
          some { s with db := after, emitted := s.emitted ++ report.emittedKeys }
      | .error _ => none
  | .runIteration principal context finishedAt claimedAt config =>
      let iteration := LifecycleWorkerService.runIteration principal context finishedAt claimedAt
        (buildDefaultRegistry lance) config s.db s.disk
      some { s with db := iteration.db, disk := iteration.disk }
  | .call op => if op.submits then none else some { s with db := op.apply s.db }
  | .tables disk => some { s with disk }
  | .elsewhere others => some { s with db := { others with task := s.db.task } }

/-- Runs of the watcher and of the executions of its tasks. -/
def watching : Machine (Plant Disk) (Action Disk) where
  step := step lance

end Runs

/-! ## What the fallback promises -/

/-- The policy has a stale threshold, and the index has waited for that long. -/
def Stale (now : DateTime) (candidate : Candidate) : Prop :=
  ∃ minutes ∈ candidate.policy.indexWatchStaleMinutes,
    ∃ optimizedAt ∈ candidate.index.lastOptimizedAt,
      (minutes : Int) * 60000000 ≤ now - optimizedAt

instance (now : DateTime) (candidate : Candidate) : Decidable (Stale now candidate) :=
  inferInstanceAs (Decidable (∃ _ ∈ _, _))

/-- No INDEX_OPTIMIZE task that names the index is PENDING, QUEUED or RUNNING. -/
def Idle (db : Database) (index : Index) : Prop :=
  ∀ task ∈ db.task.rows, IndexService.namedBy index task = true →
    task.status ∉ [.pending, .queued, .running]

instance (db : Database) (index : Index) : Decidable (Idle db index) :=
  inferInstanceAs (Decidable (∀ _ ∈ _, _))

/-- There is a new INDEX_OPTIMIZE task, under a watcher key of the index. -/
def EmitsFor (indexId : Nat) (db after : Database) : Prop :=
  ∃ task ∈ after.task.rows, task ∉ db.task.rows ∧ task.taskType = .indexOptimize ∧
    triggeredFor indexId task = true

instance (indexId : Nat) (db after : Database) : Decidable (EmitsFor indexId db after) :=
  inferInstanceAs (Decidable (∃ _ ∈ _, _))

section Promises

variable {Disk : Type} (lance : Pylance Disk)

/-- A pass emits a task for every stale and idle index that it comes across. -/
def FallsBack (s : Plant Disk) : Action Disk → Plant Disk → Prop
  | .runWatchPass _ _ now, after =>
      ∀ candidate ∈ fetchCandidates s.db, Stale now candidate ∧ Idle s.db candidate.index →
        EmitsFor candidate.index.id s.db after.db
  | _, _ => True

instance (s after : Plant Disk) : (a : Action Disk) → Decidable (FallsBack s a after)
  | .runWatchPass .. => inferInstanceAs (Decidable (∀ _ ∈ _, _))
  | .runIteration .. | .call .. | .tables .. | .elsewhere .. => isTrue trivial

/-- A trigger fires for the index, and no pass has emitted it so far. -/
def Fires (s : Plant Disk) (now : DateTime) (indexId : Nat) : Prop :=
  ∃ candidate ∈ fetchCandidates s.db, candidate.index.id = indexId ∧
    ∃ trigger ∈ signal lance now s.disk candidate.dataset candidate.policy candidate.index,
      triggerKey indexId trigger.2 trigger.1 ∉ s.emitted

/-- That is so for every stale and idle index that a pass comes across. -/
def Unspent (s : Plant Disk) : Action Disk → Prop
  | .runWatchPass _ _ now =>
      ∀ candidate ∈ fetchCandidates s.db, Stale now candidate ∧ Idle s.db candidate.index →
        Fires lance s now candidate.index.id
  | _ => True

instance (s : Plant Disk) (now : DateTime) (indexId : Nat) :
    Decidable (Fires lance s now indexId) :=
  inferInstanceAs (Decidable (∃ _ ∈ _, _))

instance (s : Plant Disk) : (a : Action Disk) → Decidable (Unspent lance s a)
  | .runWatchPass .. => inferInstanceAs (Decidable (∀ _ ∈ _, _))
  | .runIteration .. | .call .. | .tables .. | .elsewhere .. => isTrue trivial

end Promises

/-! ## The keys of a run -/

section Keys

variable {Disk : Type} {lance : Pylance Disk} {s t : Plant Disk} {db after : Database}

/-- The watcher keys of the task table are those that passes have reported. -/
def Recorded (s : Plant Disk) : Prop :=
  ∀ indexId version reason, taken (triggerKey indexId version reason) s.db = true ↔
    triggerKey indexId version reason ∈ s.emitted

theorem taken_iff_mem {key : String} :
    taken key db = true ↔ some key ∈ db.task.rows.map Task.idempotencyKey := by
  rw [taken_iff, List.mem_map]

theorem fixed_idempotencyKey : Task.Fixed Task.idempotencyKey :=
  ⟨fun _ _ => rfl, fun _ => rfl, fun _ _ _ => rfl, fun _ _ _ => rfl, fun _ _ _ _ => rfl,
    fun _ => rfl⟩

theorem Recorded.of_column (recorded : Recorded s) {disk : Disk}
    (column : db.task.rows.map Task.idempotencyKey = s.db.task.rows.map Task.idempotencyKey) :
    Recorded { s with db, disk } := by
  intro indexId version reason
  rw [taken_iff_mem, column, ← taken_iff_mem]
  exact recorded indexId version reason

/-- Every step keeps the record. -/
theorem recorded_of_step (recorded : Recorded s) {a : Action Disk}
    (stepped : (watching lance).step s a = some t) : Recorded t := by
  change step lance s a = some t at stepped
  cases a with
  | runWatchPass principal draw now =>
      simp only [step] at stepped
      split at stepped
      · rename_i report after ran
        obtain rfl := Option.some.inj stepped
        obtain ⟨fresh, rows, keyed, -⟩ := runWatchPass_reported ran
        intro indexId version reason
        rw [taken_iff_mem, rows, List.map_append, keyed, List.mem_append, List.mem_append,
          ← taken_iff_mem, recorded indexId version reason,
          List.mem_map_of_injective (Option.some_injective _)]
      · cases stepped
  | runIteration principal context finishedAt claimedAt config =>
      obtain rfl := Option.some.inj stepped
      exact recorded.of_column
        (LifecycleWorkerService.runIteration_effect.column fixed_idempotencyKey).2
  | call op =>
      simp only [step] at stepped
      split at stepped
      · cases stepped
      · rename_i silent
        obtain rfl := Option.some.inj stepped
        exact recorded.of_column ((effect_of_apply s.db op).column
          (Bool.eq_false_iff.2 silent) fixed_idempotencyKey)
  | tables disk =>
      obtain rfl := Option.some.inj stepped
      exact recorded.of_column rfl
  | elsewhere others =>
      obtain rfl := Option.some.inj stepped
      exact recorded.of_column rfl

end Keys

/-! ## What a pass emits -/

section Passes

variable {Disk : Type} {lance : Pylance Disk} {draw : Nat → String} {now : DateTime} {disk : Disk}
  {principal : Option TenantPrincipal} {db after : Database} {report : WatchPassReport}
  {indexId : Nat}

/-- A pass emits for an index just when it raises a trigger for it. -/
theorem emitsFor_iff_triggers
    (ran : runWatchPass lance draw now principal db disk = .ok (report, after)) :
    EmitsFor indexId db after ↔ triggersOf lance now disk db indexId ≠ [] := by
  obtain ⟨fresh, rows, -, types⟩ := runWatchPass_reported ran
  have counted : fresh.countP (triggeredFor indexId) =
      (triggersOf lance now disk db indexId).length := by
    have raised : Raised now db indexId (triggersOf lance now disk db indexId) after :=
      raised_of_pass ran
    have tasks := raised.tasks
    unfold Table.count at tasks
    rw [rows, List.countP_append] at tasks
    exact Nat.add_left_cancel tasks
  have apart : ∀ task ∈ fresh, task ∉ db.task.rows := by
    have nodup := after.task.nodup
    rw [rows, List.map_append, List.nodup_append] at nodup
    intro task inFresh inRows
    exact nodup.2.2 _ (List.mem_map_of_mem inRows) _ (List.mem_map_of_mem inFresh) rfl
  rw [← List.length_pos_iff, ← counted, List.countP_pos_iff]
  constructor
  · rintro ⟨task, member, new, -, triggered⟩
    rw [rows] at member
    exact ⟨task, (List.mem_append.1 member).resolve_left new, triggered⟩
  · rintro ⟨task, inFresh, triggered⟩
    refine ⟨task, ?_, apart task inFresh, types task inFresh, triggered⟩
    rw [rows]
    exact List.mem_append_right _ inFresh

/-- That is, just when a trigger fires for it under a key that no task has. -/
theorem emitsFor_iff
    (ran : runWatchPass lance draw now principal db disk = .ok (report, after)) :
    EmitsFor indexId db after ↔
      ∃ candidate ∈ fetchCandidates db, candidate.index.id = indexId ∧
        ∃ trigger ∈ signal lance now disk candidate.dataset candidate.policy candidate.index,
          taken (triggerKey indexId trigger.2 trigger.1) db = false := by
  have some_ : ∀ candidate, wanted lance now disk db candidate.index candidate ≠ none ↔
      ∃ trigger ∈ signal lance now disk candidate.dataset candidate.policy candidate.index,
        taken (triggerKey candidate.index.id trigger.2 trigger.1) db = false := by
    intro candidate
    unfold wanted
    cases signal lance now disk candidate.dataset candidate.policy candidate.index with
    | none => simp
    | some trigger => simp [Option.filter]
  rw [emitsFor_iff_triggers ran, Ne, triggersOf, foldl_raise_eq_nil]
  constructor
  · intro more
    simp only [not_forall] at more
    obtain ⟨candidate, member, wants⟩ := more
    obtain ⟨listed, here⟩ := List.mem_filter.1 member
    obtain rfl : candidate.index.id = indexId := of_decide_eq_true here
    exact ⟨candidate, listed, rfl, (some_ candidate).1 wants⟩
  · rintro ⟨candidate, listed, rfl, fires⟩ none_
    exact (some_ candidate).2 fires
      (none_ candidate (List.mem_filter.2 ⟨listed, decide_eq_true rfl⟩))

end Passes

section Fallback

variable {Disk : Type} {lance : Pylance Disk} {s t : Plant Disk}

theorem fallsBack_iff_unspent (recorded : Recorded s) {a : Action Disk}
    (stepped : (watching lance).step s a = some t) : FallsBack s a t ↔ Unspent lance s a := by
  cases a with
  | runWatchPass principal draw now =>
      change step lance s (.runWatchPass principal draw now) = some t at stepped
      simp only [step] at stepped
      split at stepped
      · rename_i report after ran
        obtain rfl := Option.some.inj stepped
        have exact_ : ∀ indexId, EmitsFor indexId s.db after ↔ Fires lance s now indexId := by
          intro indexId
          rw [emitsFor_iff ran]
          simp only [Fires, ← Bool.not_eq_true, recorded indexId]
        simp only [FallsBack, Unspent, exact_]
      · cases stepped
  | runIteration | call | tables | elsewhere => exact Iff.rfl

/-- **When the fallback keeps firing.**  In a run of the watcher, with executions of its tasks and
other commits in between, the passes emit a task for every index that has waited for the stale
threshold and has no task in flight, if and only if at each of them some trigger fires for the
index that no earlier pass has emitted: another signal, or another version of the table. -/
theorem fallback_iff (recorded : Recorded s) (actions : List (Action Disk)) :
    (watching lance).Along FallsBack s actions ↔
      (watching lance).Guarded (Unspent lance) s actions := by
  have free : (watching lance).Along (fun _ _ _ => True) s actions :=
    Machine.along_of_step (I := fun _ => True) (fun _ _ _ _ _ => ⟨trivial, trivial⟩) trivial actions
  exact Machine.along_iff_guarded (fun s a t held _ stepped =>
    ⟨recorded_of_step held stepped, @fallsBack_iff_unspent _ lance s t held a stepped⟩)
    recorded free

/-- Where lance reports the stale index, a trigger fires. -/
theorem signal_of_stale {now : DateTime} {disk : Disk} {candidate : Candidate}
    {stats : IndexLiveStats} (stale : Stale now candidate)
    (read : LanceIo.readIndexStats lance disk candidate.dataset.storageUri
      candidate.index.indexName = .ok (some stats)) :
    ∃ reason, signal lance now disk candidate.dataset candidate.policy candidate.index =
      some (reason, stats.latestVersion) := by
  obtain ⟨minutes, threshold, optimizedAt, recorded, waited⟩ := stale
  have crossed : (minutes : Rat) ≤ ((now - optimizedAt : Int) : Rat) / 60000000 := by
    rw [le_div_iff₀ (by norm_num)]
    exact_mod_cast waited
  have fired : ((decideTrigger stats.numUnindexedRows stats.latestVersion
      candidate.index.lastSeenVersion candidate.index.lastOptimizedAt now
      candidate.policy).reason).isSome = true := by
    rw [Option.mem_def] at threshold recorded
    simp only [decideTrigger, threshold, recorded]
    split
    · rfl
    · split
      · rfl
      · simpa using crossed
  obtain ⟨reason, some_⟩ := Option.isSome_iff_exists.1 fired
  exact ⟨reason, by simp only [signal, read, some_, Option.map_some]⟩

/-- So the fallback fires at every version under which no pass has emitted for the index. -/
theorem fires_of_new_version {now : DateTime} {candidate : Candidate} {stats : IndexLiveStats}
    (member : candidate ∈ fetchCandidates s.db) (stale : Stale now candidate)
    (read : LanceIo.readIndexStats lance s.disk candidate.dataset.storageUri
      candidate.index.indexName = .ok (some stats))
    (new : ∀ reason, triggerKey candidate.index.id stats.latestVersion reason ∉ s.emitted) :
    Fires lance s now candidate.index.id := by
  obtain ⟨reason, fired⟩ := signal_of_stale stale read
  exact ⟨candidate, member, rfl, _, fired, new reason⟩

end Fallback

section Examples

/-- A table of which only the version is known; optimizing it finds nothing to merge. -/
private def merged : Pylance Nat where
  latestVersion version _ := .ok version
  indexStatistics _ _ _ := some (some 0)
  listIndices _ _ := ["emb_idx"]
  optimizeIndices version _ := .ok version
  delete version _ _ := .ok version
  countRows _ _ := 0
  createIndex version _ _ _ _ _ := .ok version

private def minute : Int := 60000000

/-- One READY index, optimized at version 7 and at time 0; the policy has the default
thresholds: 1000 rows, one version, 30 minutes. -/
private def optimized : Plant Nat where
  db :=
    { dataset :=
        .single
          { datasetUuid := "d1", catalog := "lake", dbSchema := "acme", tableName := "events",
            storageUri := "s3://acme/events", tenantId := "acme" }
      vectorIndex :=
        .single
          { id := 1, datasetUuid := "d1", indexName := "emb_idx", columnName := "emb",
            indexType := "IVF_PQ", status := .ready, lastSeenVersion := some 7,
            lastOptimizedAt := some 0 }
      lifecyclePolicy :=
        .single { id := 1, datasetUuid := "d1", policyName := "watch", indexWatchEnabled := true }
      workerRegistry :=
        .single
          { workerId := "w1", workerType := "generic", leaseId := "l1", lastHeartbeatAt := 0 } }
  disk := 7

/-- A pass after 30 minutes, and the execution of its task without a lance endpoint. -/
private def firstPeriod : List (Action Nat) :=
  [ .runWatchPass (some (systemPrincipal "index-watcher")) (fun n => "a" ++ toString n)
      (30 * minute),
    .runIteration (some (systemPrincipal "lifecycle-worker"))
      { lanceStorageEndpoint := "", now := 31 * minute } (31 * minute) (31 * minute)
      { workerId := "w1", leaseId := "l1" } ]

/-- The pass after another 30 minutes. -/
private def secondPass : Action Nat :=
  .runWatchPass (some (systemPrincipal "index-watcher")) (fun n => "b" ++ toString n)
    (61 * minute)

private theorem recorded_optimized : Recorded optimized := by
  intro indexId version reason
  exact iff_of_false (by simp [optimized, taken]) List.not_mem_nil

/-- A version that came in between is enough for the second pass. -/
theorem fallback_iff_new_version :
    (watching merged).Along FallsBack optimized (firstPeriod ++ [.tables 8, secondPass]) :=
  (fallback_iff recorded_optimized _).2 (by
    unfold Machine.Guarded
    decide +kernel)

/-- Without one the first period has spent the key `watcher:1:INDEX_OPTIMIZE:v7:stale`: its task
has succeeded, the index is READY, and the second pass emits nothing. -/
theorem second_period_silent :
    Recorded optimized ∧
      ((watching merged).run optimized (firstPeriod ++ [secondPass])).map (fun s =>
        (s.emitted, s.db.task.rows.map Task.status,
          s.db.vectorIndex.rows.map fun index => (index.status, index.lastOptimizedAt))) =
        some (["watcher:1:INDEX_OPTIMIZE:v7:stale"], [.succeeded],
          [(.ready, some (31 * minute))]) ∧
      ¬ (watching merged).Along FallsBack optimized (firstPeriod ++ [secondPass]) :=
  ⟨recorded_optimized, by decide +kernel, by decide +kernel⟩

end Examples

end Lcp.StaleFallback
