/-
# Invariants.FaultIsolation -- a watch pass over readings of any kind

`run_watch_pass` reads the statistics of one index after the other, and a read can
answer a record, miss the index or raise.  Here the readings are any function of the
table's URI and the index name, and the triples any list.  The pass returns; an index
whose reading is no record has no part in the rows that it commits; and the counters of
its report add up (`watch_isolated`).
-/
import Lcp.Services.IndexWatcherPass
import Lcp.Services.PlannerPass
import Lcp.Theory.Folds

namespace Lcp.FaultIsolation

open Theory Emission IndexWatcherService LifecyclePlannerService

set_option autoImplicit false

/-- What `_read_stats_offthread` answers or raises for a URI and an index name. -/
abbrev Readings := String → String → Except PyException (Option IndexLiveStats)

/-- A row of `_fetch_candidates`; the loop is defensive about the dataset. -/
structure Triple where
  index : Index
  dataset : Option Dataset
  policy : LifecyclePolicy

/-- The ORM object of the triple's index. -/
def Triple.row (triple : Triple) (db : Database) : Index :=
  (db.vectorIndex.get triple.index.id).getD triple.index

/-- A row of the inner join. -/
def ofCandidate (candidate : Candidate) : Triple :=
  { index := candidate.index, dataset := some candidate.dataset, policy := candidate.policy }

section Pass

variable (read : Readings) (draw : Nat → String) (now : DateTime)

/-- The loop body of `run_watch_pass`. -/
def watchTriple (watch : Watch) (triple : Triple) : Except PassError Watch :=
  let report := { watch.report with scannedIndexes := watch.report.scannedIndexes + 1 }
  match triple.dataset with
  | none =>
      .ok { watch with report := { report with skippedNoDataset := report.skippedNoDataset + 1 } }
  | some dataset =>
      let index := triple.row watch.tick.db
      match read dataset.storageUri index.indexName with
      | .error _ =>
          .ok { watch with report := { report with
            skippedOpenFailed := report.skippedOpenFailed + 1 } }
      | .ok none =>
          .ok { watch with report := { report with
            skippedNoDataset := report.skippedNoDataset + 1 } }
      | .ok (some stats) =>
          let decision := decideTrigger stats.numUnindexedRows stats.latestVersion
            index.lastSeenVersion index.lastOptimizedAt now triple.policy
          match decision.reason with
          | none =>
              .ok { watch with report := { report with
                skippedBelowThreshold := report.skippedBelowThreshold + 1 } }
          | some reason => do
              let ((emitted, key), tick) ← tryEmitOptimizeTask draw now index dataset reason
                decision stats.latestVersion watch.tick
              if emitted then
                return { tick, report := { report with
                  enqueuedTasks := report.enqueuedTasks + 1
                  emittedKeys := report.emittedKeys ++ [key] } }
              else
                return { tick, report := { report with
                  skippedIdempotent := report.skippedIdempotent + 1 } }

/-- A pass over a list of triples. -/
def watchPass (principal : Option TenantPrincipal) (db : Database) (triples : List Triple) :
    Except PassError (WatchPassReport × Database) :=
  if !requireSystemContext principal then
    .error (.notSystem "index watcher must run under with_system_context()")
  else do
    let watch ← triples.foldlM (watchTriple read draw now) { tick := { db } }
    return (watch.report, watch.tick.db)

end Pass

/-- `run_watch_pass` is the pass over the candidates, with the readings of lance. -/
theorem runWatchPass_eq {Disk : Type} (lance : Pylance Disk) (draw : Nat → String)
    (now : DateTime) (principal : Option TenantPrincipal) (db : Database) (disk : Disk) :
    runWatchPass lance draw now principal db disk =
      watchPass (LanceIo.readIndexStats lance disk) draw now principal db
        ((fetchCandidates db).map ofCandidate) := by
  unfold runWatchPass watchPass
  rw [List.foldlM_map]
  rfl

/-! ## The rows of a pass -/

section Rows

variable {read : Readings} {draw : Nat → String} {now : DateTime}

/-- The signal of a triple with its decision and the version that it was read at. -/
def fires (read : Readings) (now : DateTime) (db : Database) (triple : Triple) :
    Option (Dataset × TriggerReason × TriggerDecision × Nat) :=
  match triple.dataset with
  | none => none
  | some dataset =>
      match read dataset.storageUri (triple.row db).indexName with
      | .ok (some stats) =>
          let decision := decideTrigger stats.numUnindexedRows stats.latestVersion
            (triple.row db).lastSeenVersion (triple.row db).lastOptimizedAt now triple.policy
          decision.reason.map fun reason => (dataset, reason, decision, stats.latestVersion)
      | _ => none

/-- The loop body on the rows alone. -/
def emitTriple (read : Readings) (draw : Nat → String) (now : DateTime) (tick : Tick)
    (triple : Triple) : Except PassError Tick :=
  match fires read now tick.db triple with
  | none => .ok tick
  | some (dataset, reason, decision, version) =>
      (tryEmitOptimizeTask draw now (triple.row tick.db) dataset reason decision version
        tick).map Prod.snd

/-- The report has no influence on the rows. -/
theorem watchTriple_tick (watch : Watch) (triple : Triple) :
    (watchTriple read draw now watch triple).map Watch.tick =
      emitTriple read draw now watch.tick triple := by
  unfold watchTriple emitTriple fires
  cases triple.dataset with
  | none => rfl
  | some dataset =>
      simp only
      cases read dataset.storageUri (triple.row watch.tick.db).indexName with
      | error e => rfl
      | ok found =>
          cases found with
          | none => rfl
          | some stats =>
              simp only
              generalize decideTrigger stats.numUnindexedRows stats.latestVersion
                (triple.row watch.tick.db).lastSeenVersion
                (triple.row watch.tick.db).lastOptimizedAt now triple.policy = decision
              cases decision.reason with
              | none => rfl
              | some reason =>
                  simp only [Option.map_some]
                  cases tryEmitOptimizeTask draw now (triple.row watch.tick.db) dataset reason
                      decision stats.latestVersion watch.tick with
                  | error e => rfl
                  | ok answer =>
                      obtain ⟨⟨emitted, key⟩, tick⟩ := answer
                      cases emitted <;> rfl

/-- A triple leaves the rows alone, or a task under a free key is emitted for it. -/
theorem emitTriple_cases {tick after : Tick} {triple : Triple}
    (ran : emitTriple read draw now tick triple = .ok after) :
    after = tick ∨ ∃ candidate : Candidate, ∃ key, taken key tick.db = false ∧
      after.drawn = tick.drawn + 1 ∧
      Emitted now candidate key (draw tick.drawn) tick.db after.db := by
  unfold emitTriple at ran
  split at ran
  · cases ran
    exact .inl rfl
  · rename_i dataset reason decision version _
    cases tried : tryEmitOptimizeTask draw now (triple.row tick.db) dataset reason decision version
        tick with
    | error e =>
        rw [tried] at ran
        cases ran
    | ok answer =>
        rw [tried] at ran
        cases ran
        obtain ⟨-, same, -⟩ | ⟨free, -, drawn, emitted⟩ :=
          @tryEmitOptimizeTask_cases now draw ⟨triple.index, dataset, triple.policy⟩ _ _ _ _ _ tried
        · exact .inl same
        · exact .inr ⟨_, _, free, drawn, emitted⟩

theorem emitTriple_ok {tick : Tick} (injective : ∀ m n, draw m = draw n → m = n)
    (undrawn : Undrawn draw tick) (triple : Triple) :
    ∃ after, emitTriple read draw now tick triple = .ok after ∧ Undrawn draw after := by
  obtain ⟨after, ran⟩ : ∃ after, emitTriple read draw now tick triple = .ok after := by
    unfold emitTriple
    split
    · exact ⟨tick, rfl⟩
    · rename_i dataset reason decision version _
      obtain ⟨answer, tried⟩ := tryEmitOptimizeTask_ok (undrawn tick.drawn (Nat.le_refl _))
        (triple.row tick.db) dataset reason decision version
      exact ⟨answer.2, by rw [tried]; rfl⟩
  refine ⟨after, ran, fun n above => ?_⟩
  obtain rfl | ⟨candidate, key, -, drawn, emitted⟩ := emitTriple_cases ran
  · exact undrawn n above
  · rw [emitted.keys, List.mem_append, List.mem_singleton]
    rintro (old | repeated)
    · exact undrawn n (by omega) old
    · have := injective _ _ repeated
      omega

/-! ## Triples without a record -/

/-- The reading of the triple's index is a record; without a dataset nothing is read. -/
def readable (read : Readings) (db : Database) (triple : Triple) : Bool :=
  match triple.dataset with
  | none => true
  | some dataset =>
      match read dataset.storageUri (triple.row db).indexName with
      | .ok (some _) => true
      | _ => false

/-- Index rows keep their names. -/
def SameNames (db after : Database) : Prop :=
  ∀ id, (after.vectorIndex.get id).map Index.indexName =
    (db.vectorIndex.get id).map Index.indexName

theorem SameNames.row {db after : Database} (same : SameNames db after) (triple : Triple) :
    (triple.row after).indexName = (triple.row db).indexName := by
  have names := same triple.index.id
  unfold Triple.row
  cases found : after.vectorIndex.get triple.index.id <;>
    cases before : db.vectorIndex.get triple.index.id <;> simp_all

theorem sameNames_emitTriple {db : Database} {tick after : Tick} {triple : Triple}
    (same : SameNames db tick.db) (ran : emitTriple read draw now tick triple = .ok after) :
    SameNames db after.db := by
  obtain rfl | ⟨candidate, key, -, -, emitted⟩ := emitTriple_cases ran
  · exact same
  · intro id
    rw [← same id]
    exact emitted.map_vectorIndex _ (fun _ => rfl) id

theorem fires_unreadable {db after : Database} {triple : Triple} (same : SameNames db after)
    (unread : readable read db triple = false) : fires read now after triple = none := by
  unfold readable at unread
  unfold fires
  rw [← same.row triple] at unread
  cases found : triple.dataset with
  | none => rfl
  | some dataset =>
      simp only [found] at unread
      split at unread
      · cases unread
      · simp only

theorem emitTriple_unreadable {db : Database} {tick : Tick} {triple : Triple}
    (same : SameNames db tick.db) (unread : readable read db triple = false) :
    emitTriple read draw now tick triple = .ok tick := by
  unfold emitTriple
  rw [fires_unreadable same unread]

end Rows

/-! ## The counters -/

section Counters

variable {read : Readings} {draw : Nat → String} {now : DateTime}

/-- Every triple is counted once, and the keys are those of different rows. -/
structure Accounted (n : Nat) (watch : Watch) : Prop where
  scanned : watch.report.scannedIndexes = n
  balanced : watch.report.scannedIndexes =
    watch.report.enqueuedTasks + watch.report.skippedNoDataset +
      watch.report.skippedBelowThreshold + watch.report.skippedOpenFailed +
      watch.report.skippedIdempotent
  keys : watch.report.emittedKeys.length = watch.report.enqueuedTasks
  distinct : watch.report.emittedKeys.Nodup
  held : ∀ key ∈ watch.report.emittedKeys, taken key watch.tick.db = true

theorem Emitted.taken {candidate : Candidate} {key other taskUuid : String}
    {db after : Database} (emitted : Emitted now candidate key taskUuid db after)
    (held : Emission.taken other db = true ∨ other = key) : Emission.taken other after = true := by
  obtain ⟨task, -, -, keyed, rows⟩ := emitted.appended
  rw [taken_iff, rows]
  rcases held with held | rfl
  · obtain ⟨row, member, same⟩ := taken_iff.1 held
    exact ⟨row, List.mem_append_left _ member, same⟩
  · exact ⟨task, List.mem_append_right _ List.mem_cons_self, keyed⟩

theorem accounted_watchTriple {n : Nat} {watch after : Watch} {triple : Triple}
    (accounted : Accounted n watch)
    (ran : watchTriple read draw now watch triple = .ok after) : Accounted (n + 1) after := by
  obtain ⟨scanned, balanced, keys, distinct, held⟩ := accounted
  unfold watchTriple at ran
  simp only at ran
  split at ran
  · cases ran
    exact ⟨by simp [scanned], by simp only; omega, keys, distinct, held⟩
  · rename_i dataset _
    split at ran
    · cases ran
      exact ⟨by simp [scanned], by simp only; omega, keys, distinct, held⟩
    · cases ran
      exact ⟨by simp [scanned], by simp only; omega, keys, distinct, held⟩
    · rename_i stats _
      split at ran
      · cases ran
        exact ⟨by simp [scanned], by simp only; omega, keys, distinct, held⟩
      · rename_i reason _
        obtain ⟨⟨⟨emitted, key⟩, tick⟩, tried, ran⟩ := bind_eq_ok ran
        obtain ⟨-, same, refused⟩ | ⟨free, answered, -, inserted⟩ :=
          @tryEmitOptimizeTask_cases now draw ⟨triple.index, dataset, triple.policy⟩ _ _ _ _ _ tried
        · obtain rfl : emitted = false := refused
          obtain rfl : tick = watch.tick := same
          cases ran
          exact ⟨by simp [scanned], by simp only; omega, keys, distinct, held⟩
        · obtain ⟨rfl, rfl⟩ := Prod.mk.inj answered
          cases ran
          refine ⟨by simp [scanned], by simp only; omega, by simp [keys], ?_, ?_⟩
          · refine List.nodup_append.2 ⟨distinct, List.nodup_singleton _, ?_⟩
            rintro one inOne two inTwo rfl
            rw [List.mem_singleton.1 inTwo] at inOne
            rw [held _ inOne] at free
            cases free
          · intro other member
            refine Emitted.taken inserted ?_
            rcases List.mem_append.1 member with old | new
            · exact .inl (held other old)
            · exact .inr (List.mem_singleton.1 new)

theorem accounted_foldlM {n : Nat} {watch after : Watch} {triples : List Triple}
    (accounted : Accounted n watch)
    (ran : triples.foldlM (watchTriple read draw now) watch = .ok after) :
    Accounted (n + triples.length) after := by
  induction triples generalizing n watch with
  | nil =>
      cases ran
      exact accounted
  | cons triple rest ih =>
      obtain ⟨next, first, later⟩ := foldlM_cons_ok ran
      have counted := ih (accounted_watchTriple accounted first) later
      rwa [Nat.add_assoc, Nat.add_comm 1] at counted

end Counters

/-! ## The pass -/

section Isolation

variable {draw : Nat → String} {principal : Option TenantPrincipal} {db : Database}

theorem watchPass_eq {read : Readings} {now : DateTime} {triples : List Triple} {watch : Watch}
    (system : requireSystemContext principal = true)
    (ran : triples.foldlM (watchTriple read draw now) { tick := { db } } = .ok watch) :
    watchPass read draw now principal db triples = .ok (watch.report, watch.tick.db) := by
  simp [watchPass, system, ran, bind, Except.bind, pure, Except.pure]

/-- The loop over any triples returns, with the rows of the loop that emits. -/
theorem foldlM_watchTriple (read : Readings) (now : DateTime) (fresh : FreshDraws draw db)
    (triples : List Triple) :
    ∃ watch, triples.foldlM (watchTriple read draw now) { tick := { db } } = .ok watch ∧
      triples.foldlM (emitTriple read draw now) { db } = .ok watch.tick := by
  have rows : (triples.foldlM (watchTriple read draw now) { tick := { db } }).map Watch.tick =
      triples.foldlM (emitTriple read draw now) { db } :=
    foldlM_map watchTriple_tick triples _
  obtain ⟨tick, ran, -⟩ : ∃ tick,
      triples.foldlM (emitTriple read draw now) { db } = .ok tick ∧ Undrawn draw tick :=
    foldlM_ok_of_inv (fun _ triple undrawn => emitTriple_ok fresh.injective undrawn triple)
      triples fun n _ => fresh.unused n
  rw [ran] at rows
  cases looped : triples.foldlM (watchTriple read draw now) { tick := { db } } with
  | error e =>
      rw [looped] at rows
      cases rows
  | ok watch =>
      rw [looped] at rows
      obtain rfl := Except.ok.inj rows
      exact ⟨watch, rfl, ran⟩

/-- **Faults are isolated.**  For any readings and any list of triples, a watch pass returns.  It
commits the rows of the pass over the triples whose reading is a record.  Each triple is in one
counter of the report, and the emitted keys are as many as the enqueued tasks and distinct. -/
theorem watch_isolated (read : Readings) (now : DateTime)
    (system : requireSystemContext principal = true) (fresh : FreshDraws draw db)
    (triples : List Triple) :
    ∃ report alone after,
      watchPass read draw now principal db triples = .ok (report, after) ∧
      watchPass read draw now principal db (triples.filter (readable read db)) =
        .ok (alone, after) ∧
      report.scannedIndexes = triples.length ∧
      report.scannedIndexes = report.enqueuedTasks + report.skippedNoDataset +
        report.skippedBelowThreshold + report.skippedOpenFailed + report.skippedIdempotent ∧
      report.emittedKeys.length = report.enqueuedTasks ∧ report.emittedKeys.Nodup := by
  obtain ⟨watch, ran, rows⟩ := foldlM_watchTriple read now fresh triples
  obtain ⟨alone, ranAlone, rowsAlone⟩ := foldlM_watchTriple read now fresh
    (triples.filter (readable read db))
  have same : alone.tick = watch.tick := by
    have kept : ∀ tick triple after, SameNames db tick.db →
        emitTriple read draw now tick triple = .ok after → SameNames db after.db :=
      fun _ _ _ => sameNames_emitTriple
    rw [foldlM_filter_of_skips kept (fun _ _ => emitTriple_unreadable) triples fun _ => rfl,
      rows] at rowsAlone
    exact (Except.ok.inj rowsAlone).symm
  have accounted : Accounted (0 + triples.length) watch :=
    accounted_foldlM ⟨rfl, rfl, rfl, List.nodup_nil, by simp⟩ ran
  refine ⟨watch.report, alone.report, watch.tick.db, watchPass_eq system ran, ?_,
    by rw [accounted.scanned, Nat.zero_add], accounted.balanced, accounted.keys,
    accounted.distinct⟩
  rw [← same]
  exact watchPass_eq system ranAlone

end Isolation

section Examples

private def events : Dataset where
  datasetUuid := "d1"
  catalog := "lake"
  dbSchema := "acme"
  tableName := "events"
  storageUri := "s3://acme/events"
  tenantId := "acme"

private def indexNamed (id : Nat) (indexName : String) : Index where
  id
  datasetUuid := "d1"
  indexName
  columnName := "emb"
  indexType := "IVF_PQ"
  status := .ready

private def watched (id : Nat) (indexName : String) : Triple where
  index := indexNamed id indexName
  dataset := some events
  policy :=
    { id := 1, datasetUuid := "d1", policyName := "watch", indexWatchEnabled := true,
      indexWatchMinUnindexedRows := some 1000 }

private def noisy : Database where
  dataset := .single events
  vectorIndex := ⟨[indexNamed 7 "broken", indexNamed 8 "grown", indexNamed 9 "gone"], by decide⟩

/-- The first index raises, the second one has 5000 unindexed rows, the third one is missing. -/
private def noisyReadings : Readings := fun _ indexName =>
  if indexName = "broken" then .error ⟨"OSError", "connection reset"⟩
  else if indexName = "grown" then .ok (some ⟨9, some 5000⟩)
  else .ok none

/-- One task, whatever stands before and after it. -/
theorem noisy_pass_isolated :
    ∃ report alone after,
      watchPass noisyReadings (fun n => toString n) 1 daemonContext noisy
        [watched 7 "broken", watched 8 "grown", watched 9 "gone"] = .ok (report, after) ∧
      watchPass noisyReadings (fun n => toString n) 1 daemonContext noisy [watched 8 "grown"] =
        .ok (alone, after) ∧
      report.scannedIndexes = 3 := by
  have fresh : FreshDraws (fun n => toString n) noisy := by
    refine ⟨fun m n same => Nat.repr_injective same, fun n listed => ?_⟩
    exact absurd listed List.not_mem_nil
  have system : requireSystemContext daemonContext = true := rfl
  obtain ⟨report, alone, after, ran, ranAlone, scanned, -⟩ :=
    watch_isolated noisyReadings 1 system fresh
      [watched 7 "broken", watched 8 "grown", watched 9 "gone"]
  exact ⟨report, alone, after, ran, ranAlone, scanned⟩

example :
    (watchPass noisyReadings (fun n => toString n) 1 daemonContext noisy
      [watched 7 "broken", watched 8 "grown", watched 9 "gone"]).toOption.map
        (fun answer => (answer.1.skippedOpenFailed, answer.1.skippedNoDataset,
          answer.1.emittedKeys)) =
      some (1, 1, ["watcher:8:INDEX_OPTIMIZE:v9:unindexed_rows"]) := by
  decide +kernel

end Examples

end Lcp.FaultIsolation
