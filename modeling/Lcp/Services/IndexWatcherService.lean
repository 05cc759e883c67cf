/-
# Services.IndexWatcherService -- live index stats become INDEX_OPTIMIZE tasks

`run_watch_pass` joins READY indexes with the watch-enabled policies of their
dataset, reads what lance reports, and emits a task for the first signal that
crosses its threshold.  Emitting flips the index to OPTIMIZING.

The key of a task carries the index, the lance version and the signal.  It is
injective in the index and the version (`triggerKey_inj`), which is what the
facts about one index of a pass rest on.
-/
import Mathlib.Data.List.Sort
import Lcp.DataPlane.LanceIo
import Lcp.Services.Emission
import Lcp.Theory.KeyText

namespace Lcp

open Theory Emission

set_option autoImplicit false

namespace IndexWatcherService

/-! ## Deciding -/

inductive TriggerReason where
  | unindexedRows
  | versionDrift
  | stale
deriving DecidableEq, Repr

/-- The tag that the task parameters and the key carry. -/
def TriggerReason.toString : TriggerReason → String
  | .unindexedRows => "unindexed_rows"
  | .versionDrift => "version_drift"
  | .stale => "stale"

/-- Outcome of `decide_trigger` for one index; without a reason no signal
crossed its threshold. -/
structure TriggerDecision where
  reason : Option TriggerReason
  unindexedRows : Option Nat
  versionDrift : Nat
  staleMinutes : Rat
deriving DecidableEq

/-- The first signal that crosses its threshold; a threshold that is not set
turns its signal off. -/
def decideTrigger (unindexedRows : Option Nat) (latestVersion : Nat)
    (lastSeenVersion : Option Int) (lastOptimizedAt : Option DateTime) (now : DateTime)
    (policy : LifecyclePolicy) : TriggerDecision :=
  -- An index never observed gets credit for every version ever produced.
  let versionDrift := (latestVersion - lastSeenVersion.getD 0).toNat
  let staleMinutes : Rat :=
    match lastOptimizedAt with
    | none => 0
    | some at_ => ((now - at_ : Int) : Rat) / 60000000
  let reason :=
    if unindexedRows.any fun rows => policy.indexWatchMinUnindexedRows.any (· ≤ rows) then
      some .unindexedRows
    else if policy.indexWatchMinVersionDrift.any (· ≤ versionDrift) then some .versionDrift
    else if lastOptimizedAt.isSome ∧
        policy.indexWatchStaleMinutes.any fun minutes => (minutes : Rat) ≤ staleMinutes then
      some .stale
    else none
  { reason, unindexedRows, versionDrift, staleMinutes }

/-! ## One pass -/

/-- A row of the join of an index with its dataset and a watching policy. -/
structure Candidate where
  index : Index
  dataset : Dataset
  policy : LifecyclePolicy

/-- The policies that make the dataset's indexes worth scanning. -/
def watches (dataset : Dataset) (policy : LifecyclePolicy) : Bool :=
  policy.datasetUuid = dataset.datasetUuid ∧ policy.enabled ∧ policy.indexWatchEnabled

/-- The rows one READY index contributes to the join. -/
def joined (db : Database) (index : Index) : List Candidate :=
  match db.dataset.get index.datasetUuid with
  | none => []
  | some dataset =>
      (db.lifecyclePolicy.rows.filter (watches dataset)).map fun policy =>
        { index, dataset, policy }

/-- Triples worth scanning, by dataset and index name. -/
def fetchCandidates (db : Database) : List Candidate :=
  ((db.vectorIndex.rows.filter fun index => index.status = .ready).flatMap
    (joined db)).insertionSort fun a b =>
      a.index.datasetUuid < b.index.datasetUuid ∨
        (a.index.datasetUuid = b.index.datasetUuid ∧ a.index.indexName ≤ b.index.indexName)

/-- Counters of `run_watch_pass`. -/
structure WatchPassReport where
  scannedIndexes : Nat := 0
  enqueuedTasks : Nat := 0
  skippedNoDataset : Nat := 0
  skippedBelowThreshold : Nat := 0
  skippedOpenFailed : Nat := 0
  skippedIdempotent : Nat := 0
  emittedKeys : List String := []
deriving DecidableEq, Repr

/-- The format `watcher:<index.id>:INDEX_OPTIMIZE:v<latest_version>:<reason>`. -/
def triggerKey (indexId latestVersion : Nat) (reason : TriggerReason) : String :=
  "watcher:" ++ toString indexId ++ ":INDEX_OPTIMIZE:v" ++ toString latestVersion ++ ":" ++
    reason.toString

/-- Three decimals, ties to even; the double of the source is the rational it stands for. -/
def roundThousandths (q : Rat) : Rat :=
  let scaled := q * 1000
  let below := scaled.floor
  let rest := scaled - below
  let rounded :=
    if rest < 1 / 2 then below
    else if 1 / 2 < rest then below + 1
    else if below % 2 = 0 then below
    else below + 1
  (rounded : Rat) / 1000

/-- The `params` of a watcher task. -/
def triggerParams (index : Index) (reason : TriggerReason) (decision : TriggerDecision)
    (latestVersion : Nat) : JsonDict :=
  [ ("index_name", .str index.indexName),
    ("trigger_reason", .str reason.toString),
    ("lance_version", .int latestVersion),
    ("unindexed_rows", match decision.unindexedRows with
      | some rows => .int rows
      | none => .null),
    ("version_drift", .int decision.versionDrift),
    ("stale_minutes", .float (roundThousandths decision.staleMinutes)),
    ("source", .str "index_watcher") ]

/-- The flip that opens an emission. -/
def startOptimize (now : DateTime) (index : Index) : Index :=
  { index with status := .optimizing, lastOptimizedAt := some now }

theorem id_startOptimize (now : DateTime) (index : Index) :
    (startOptimize now index).id = index.id := rfl

def flipIndex (now : DateTime) (indexId : Nat) (db : Database) : Database :=
  { db with
    vectorIndex := db.vectorIndex.update indexId (startOptimize now) (id_startOptimize now) }

/-- Rows of the pass, drawn uuids and counters. -/
structure Watch where
  tick : Tick
  report : WatchPassReport := {}

section Pass

variable {Disk : Type} (lance : Pylance Disk) (draw : Nat → String) (now : DateTime)

/-- Insert one INDEX_OPTIMIZE task; the answer is whether it was, and its key. -/
def tryEmitOptimizeTask (index : Index) (dataset : Dataset) (reason : TriggerReason)
    (decision : TriggerDecision) (latestVersion : Nat) (tick : Tick) :
    Except PassError ((Bool × String) × Tick) :=
  let key := triggerKey index.id latestVersion reason
  if taken key tick.db then .ok ((false, key), tick)
  else do
    let tick ← tryEmit draw now dataset .indexOptimize key
      (triggerParams index reason decision latestVersion)
      { tick with db := flipIndex now index.id tick.db }
    return ((true, key), tick)

/-- The loop body.  The join is an inner one, so there is always a dataset. -/
def watchCandidate (disk : Disk) (watch : Watch) (candidate : Candidate) :
    Except PassError Watch :=
  -- Two rows of the join share the ORM object of their index.
  let index := (watch.tick.db.vectorIndex.get candidate.index.id).getD candidate.index
  let report := { watch.report with scannedIndexes := watch.report.scannedIndexes + 1 }
  match LanceIo.readIndexStats lance disk candidate.dataset.storageUri index.indexName with
  | .error _ =>
      .ok { watch with report := { report with
        skippedOpenFailed := report.skippedOpenFailed + 1 } }
  | .ok none =>
      .ok { watch with report := { report with skippedNoDataset := report.skippedNoDataset + 1 } }
  | .ok (some stats) =>
      let decision := decideTrigger stats.numUnindexedRows stats.latestVersion
        index.lastSeenVersion index.lastOptimizedAt now candidate.policy
      match decision.reason with
      | none =>
          .ok { watch with report := { report with
            skippedBelowThreshold := report.skippedBelowThreshold + 1 } }
      | some reason => do
          let ((emitted, key), tick) ← tryEmitOptimizeTask draw now index candidate.dataset
            reason decision stats.latestVersion watch.tick
          if emitted then
            return { tick, report := { report with
              enqueuedTasks := report.enqueuedTasks + 1
              emittedKeys := report.emittedKeys ++ [key] } }
          else
            return { tick, report := { report with
              skippedIdempotent := report.skippedIdempotent + 1 } }

/-- Scan all watch-enabled READY indexes and emit the tasks that are due. -/
def runWatchPass (principal : Option TenantPrincipal) (db : Database) (disk : Disk) :
    Except PassError (WatchPassReport × Database) :=
  if !requireSystemContext principal then
    .error (.notSystem "index watcher must run under with_system_context()")
  else do
    let watch ← (fetchCandidates db).foldlM (watchCandidate lance draw now disk)
      { tick := { db } }
    return (watch.report, watch.tick.db)

end Pass

/-! ## Keys -/

theorem triggerKey_inj {i j v w : Nat} {r s : TriggerReason}
    (same : triggerKey i v r = triggerKey j w s) : i = j ∧ v = w := by
  have chars := congrArg String.toList same
  simp only [triggerKey, String.toList_append, List.append_assoc] at chars
  have indexes := List.append_cancel_left chars
  obtain ⟨index, rest⟩ := KeyText.toString_append_inj ':' (by decide) indexes
  have versions := (List.append_right_inj "INDEX_OPTIMIZE:v".toList).1 rest
  obtain ⟨version, -⟩ := KeyText.toString_append_inj ':' (by decide) versions
  exact ⟨index, version⟩

/-! ## What one candidate does

`signal` is the reading and the decision, `due` adds that the key is free: a
candidate that is due is emitted, the others leave the rows alone. -/

section Steps

variable {Disk : Type} (lance : Pylance Disk) (now : DateTime) (disk : Disk)

/-- The row of the candidate's index. -/
def Candidate.row (candidate : Candidate) (db : Database) : Index :=
  (db.vectorIndex.get candidate.index.id).getD candidate.index

/-- The signal that fires for an index row, with the version it was read at. -/
def signal (dataset : Dataset) (policy : LifecyclePolicy) (index : Index) :
    Option (TriggerReason × Nat) :=
  match LanceIo.readIndexStats lance disk dataset.storageUri index.indexName with
  | .ok (some stats) =>
      (decideTrigger stats.numUnindexedRows stats.latestVersion index.lastSeenVersion
        index.lastOptimizedAt now policy).reason.map fun reason => (reason, stats.latestVersion)
  | _ => none

/-- A signal fires and no task holds its key. -/
def due (db : Database) (candidate : Candidate) : Bool :=
  (signal lance now disk candidate.dataset candidate.policy (candidate.row db)).any
    fun (reason, version) => !taken (triggerKey candidate.index.id version reason) db

variable {lance now disk}

theorem Candidate.id_row (candidate : Candidate) (db : Database) :
    (candidate.row db).id = candidate.index.id := by
  unfold Candidate.row
  cases found : db.vectorIndex.get candidate.index.id with
  | none => rfl
  | some index => exact Table.key_of_get found

/-- The version of a signal is the one the table was opened at. -/
theorem latestVersion_of_signal {dataset : Dataset} {policy : LifecyclePolicy} {index : Index}
    {reason : TriggerReason} {version : Nat}
    (fired : signal lance now disk dataset policy index = some (reason, version)) :
    lance.latestVersion disk dataset.storageUri = .ok version := by
  unfold signal at fired
  split at fired
  · rename_i stats read
    obtain ⟨opened, latest, same⟩ := LanceIo.readIndexStats_eq_ok read
    simp only [Option.map_eq_some_iff, Prod.mk.injEq] at fired
    obtain ⟨-, -, -, rfl⟩ := fired
    rw [latest, same stats rfl]
  · cases fired

/-- An emission under `key`: the flip, then the insert. -/
def Emitted (now : DateTime) (candidate : Candidate) (key taskUuid : String)
    (db after : Database) : Prop :=
  ∃ params, TaskService.insertTask
    (taskRow candidate.dataset now taskUuid .indexOptimize key params)
    (flipIndex now candidate.index.id db) = some after

/-- What an emission under `key` does to the rows. -/
theorem Emitted.rows {candidate : Candidate} {key taskUuid : String} {db after : Database}
    (emitted : Emitted now candidate key taskUuid db after) :
    ∃ task table, task.ofDataset candidate.dataset ∧ task.taskUuid = taskUuid ∧
      task.taskType = .indexOptimize ∧ task.idempotencyKey = some key ∧
      db.task.insert? task = some table ∧
      after = { flipIndex now candidate.index.id db with task := table } := by
  obtain ⟨params, inserted⟩ := emitted
  obtain ⟨table, added, rows, -⟩ := TaskService.insertTask_eq_some inserted
  exact ⟨_, table, ⟨rfl, rfl⟩, rfl, rfl, rfl, added, rows⟩

namespace Emitted

variable {candidate : Candidate} {key taskUuid : String} {db after : Database}

/-- One task more, of the candidate's dataset. -/
theorem appended (emitted : Emitted now candidate key taskUuid db after) :
    ∃ task, task.ofDataset candidate.dataset ∧ task.taskType = .indexOptimize ∧
      task.idempotencyKey = some key ∧ after.task.rows = db.task.rows ++ [task] := by
  obtain ⟨task, table, owner, -, type, keyed, inserted, rfl⟩ := emitted.rows
  exact ⟨task, owner, type, keyed, (Table.insert?_eq_some inserted).1⟩

theorem keys (emitted : Emitted now candidate key taskUuid db after) :
    after.task.keys = db.task.keys ++ [taskUuid] := by
  obtain ⟨task, table, -, rfl, -, -, inserted, rfl⟩ := emitted.rows
  exact Table.keys_insert? inserted

theorem dataset (emitted : Emitted now candidate key taskUuid db after) :
    after.dataset = db.dataset := by
  obtain ⟨task, table, -, -, -, -, -, rfl⟩ := emitted.rows
  rfl

theorem lifecyclePolicy (emitted : Emitted now candidate key taskUuid db after) :
    after.lifecyclePolicy = db.lifecyclePolicy := by
  obtain ⟨task, table, -, -, -, -, -, rfl⟩ := emitted.rows
  rfl

/-- The candidate's index is OPTIMIZING, the others are as they were. -/
theorem get_vectorIndex (emitted : Emitted now candidate key taskUuid db after) (id : Nat) :
    after.vectorIndex.get id =
      if id = candidate.index.id then (db.vectorIndex.get id).map (startOptimize now)
      else db.vectorIndex.get id := by
  obtain ⟨task, table, -, -, -, -, -, rfl⟩ := emitted.rows
  exact Table.get_update _ _ _ _ (id_startOptimize now)

/-- A column that the flip does not write. -/
theorem map_vectorIndex {α : Type} (emitted : Emitted now candidate key taskUuid db after)
    (column : Index → α) (keeps : ∀ index, column (startOptimize now index) = column index)
    (id : Nat) :
    (after.vectorIndex.get id).map column = (db.vectorIndex.get id).map column := by
  obtain ⟨task, table, -, -, -, -, -, rfl⟩ := emitted.rows
  exact Table.map_get_update (id_startOptimize now) column keeps id

end Emitted

theorem tryEmitOptimizeTask_cases {draw : Nat → String} {candidate : Candidate}
    {reason : TriggerReason} {decision : TriggerDecision} {version : Nat} {tick : Tick}
    {answer : (Bool × String) × Tick}
    (ran : tryEmitOptimizeTask draw now (candidate.row tick.db) candidate.dataset reason decision
      version tick = .ok answer) :
    (taken (triggerKey candidate.index.id version reason) tick.db = true ∧ answer.2 = tick ∧
        answer.1.1 = false) ∨
      (taken (triggerKey candidate.index.id version reason) tick.db = false ∧
        answer.1 = (true, triggerKey candidate.index.id version reason) ∧
        answer.2.drawn = tick.drawn + 1 ∧
        Emitted now candidate (triggerKey candidate.index.id version reason) (draw tick.drawn)
          tick.db answer.2.db) := by
  simp only [tryEmitOptimizeTask, candidate.id_row] at ran
  split at ran
  · rename_i held
    cases ran
    exact .inl ⟨held, rfl, rfl⟩
  · rename_i free
    obtain ⟨next, emitted, ran⟩ := bind_eq_ok ran
    simp only [pure, Except.pure, Except.ok.injEq] at ran
    subst ran
    have sameKeys : taken (triggerKey candidate.index.id version reason)
        (flipIndex now candidate.index.id tick.db) =
        taken (triggerKey candidate.index.id version reason) tick.db := taken_congr rfl
    obtain ⟨held, -⟩ | ⟨-, drawn, inserted⟩ := tryEmit_cases emitted
    · exact absurd (sameKeys.symm.trans held) free
    · exact .inr ⟨by simpa using free, rfl, drawn, _, inserted⟩

/-- The loop body counts a candidate without a signal, and tries to emit for one with a
signal. -/
theorem watchCandidate_outcome {draw : Nat → String} {watch after : Watch}
    {candidate : Candidate}
    (ran : watchCandidate lance draw now disk watch candidate = .ok after) :
    (signal lance now disk candidate.dataset candidate.policy (candidate.row watch.tick.db) =
        none ∧ after.tick = watch.tick ∧
        after.report.emittedKeys = watch.report.emittedKeys) ∨
      ∃ reason version decision answer,
        signal lance now disk candidate.dataset candidate.policy (candidate.row watch.tick.db) =
          some (reason, version) ∧
        tryEmitOptimizeTask draw now (candidate.row watch.tick.db) candidate.dataset reason
          decision version watch.tick = .ok answer ∧
        after.tick = answer.2 ∧
        after.report.emittedKeys =
          watch.report.emittedKeys ++ if answer.1.1 then [answer.1.2] else [] := by
  have sameRow : (watch.tick.db.vectorIndex.get candidate.index.id).getD candidate.index =
      candidate.row watch.tick.db := rfl
  unfold watchCandidate at ran
  simp only [sameRow] at ran
  unfold signal
  cases read : LanceIo.readIndexStats lance disk candidate.dataset.storageUri
      (candidate.row watch.tick.db).indexName with
  | error e =>
      simp only [read] at ran
      cases ran
      exact .inl ⟨rfl, rfl, rfl⟩
  | ok found =>
      cases found with
      | none =>
          simp only [read] at ran
          cases ran
          exact .inl ⟨rfl, rfl, rfl⟩
      | some stats =>
          simp only [read] at ran ⊢
          generalize decideTrigger stats.numUnindexedRows stats.latestVersion
            (candidate.row watch.tick.db).lastSeenVersion
            (candidate.row watch.tick.db).lastOptimizedAt now candidate.policy = decision at ran ⊢
          cases fired : decision.reason with
          | none =>
              simp only [fired] at ran
              cases ran
              exact .inl ⟨rfl, rfl, rfl⟩
          | some reason =>
              simp only [fired] at ran
              obtain ⟨⟨⟨emitted, key⟩, tick⟩, tried, ran⟩ := bind_eq_ok ran
              refine .inr ⟨reason, stats.latestVersion, decision, _, rfl, tried, ?_⟩
              cases emitted <;> cases ran
              · exact ⟨rfl, (List.append_nil _).symm⟩
              · exact ⟨rfl, rfl⟩

/-- A candidate that is not due changes no row; one that is due is emitted. -/
theorem watchCandidate_cases {draw : Nat → String} {watch after : Watch} {candidate : Candidate}
    (ran : watchCandidate lance draw now disk watch candidate = .ok after) :
    (due lance now disk watch.tick.db candidate = false ∧ after.tick = watch.tick) ∨
      ∃ reason version,
        signal lance now disk candidate.dataset candidate.policy (candidate.row watch.tick.db) =
          some (reason, version) ∧
        due lance now disk watch.tick.db candidate = true ∧
        after.tick.drawn = watch.tick.drawn + 1 ∧
        Emitted now candidate (triggerKey candidate.index.id version reason)
          (draw watch.tick.drawn) watch.tick.db after.tick.db := by
  unfold due
  obtain ⟨silent, same, -⟩ | ⟨reason, version, decision, answer, fired, tried, rows, -⟩ :=
    watchCandidate_outcome ran
  · exact .inl ⟨by rw [silent]; rfl, same⟩
  · rw [rows, fired]
    obtain ⟨held, same, -⟩ | ⟨free, -, drawn, emitted⟩ := tryEmitOptimizeTask_cases tried
    · exact .inl ⟨by simp [held], same⟩
    · exact .inr ⟨reason, version, rfl, by simp [free], drawn, emitted⟩

/-- The key under which a candidate that is due is emitted. -/
def dueKeys (lance : Pylance Disk) (now : DateTime) (disk : Disk) (db : Database)
    (candidate : Candidate) : List String :=
  if due lance now disk db candidate then
    (signal lance now disk candidate.dataset candidate.policy (candidate.row db)).toList.map
      fun (reason, version) => triggerKey candidate.index.id version reason
  else []

/-- The report lists the keys of the candidates that were due. -/
theorem watchCandidate_emittedKeys {draw : Nat → String} {watch after : Watch}
    {candidate : Candidate}
    (ran : watchCandidate lance draw now disk watch candidate = .ok after) :
    after.report.emittedKeys =
      watch.report.emittedKeys ++ dueKeys lance now disk watch.tick.db candidate := by
  unfold dueKeys due
  obtain ⟨silent, -, keys⟩ | ⟨reason, version, decision, answer, fired, tried, -, keys⟩ :=
    watchCandidate_outcome ran
  · rw [keys, silent]
    simp
  · rw [keys, fired]
    obtain ⟨held, -, refused⟩ | ⟨free, emitted, -⟩ := tryEmitOptimizeTask_cases tried
    · simp [held, refused]
    · simp [free, emitted]

theorem tryEmitOptimizeTask_ok {draw : Nat → String} {tick : Tick}
    (fresh : draw tick.drawn ∉ tick.db.task.keys) (index : Index) (dataset : Dataset)
    (reason : TriggerReason) (decision : TriggerDecision) (version : Nat) :
    ∃ answer, tryEmitOptimizeTask draw now index dataset reason decision version tick =
      .ok answer := by
  simp only [tryEmitOptimizeTask]
  split
  · exact ⟨_, rfl⟩
  · obtain ⟨next, emitted⟩ : ∃ next, tryEmit draw now dataset .indexOptimize
        (triggerKey index.id version reason) (triggerParams index reason decision version)
        { tick with db := flipIndex now index.id tick.db } = .ok next := tryEmit_ok fresh
    rw [emitted]
    exact ⟨_, rfl⟩

/-- With a uuid that no row has, the loop body does not raise. -/
theorem watchCandidate_ok {draw : Nat → String} {watch : Watch} {candidate : Candidate}
    (fresh : draw watch.tick.drawn ∉ watch.tick.db.task.keys) :
    ∃ after, watchCandidate lance draw now disk watch candidate = .ok after := by
  unfold watchCandidate
  simp only
  split
  · exact ⟨_, rfl⟩
  · exact ⟨_, rfl⟩
  · rename_i stats _
    split
    · exact ⟨_, rfl⟩
    · rename_i reason _
      obtain ⟨⟨⟨emitted, key⟩, tick⟩, tried⟩ := tryEmitOptimizeTask_ok fresh
        ((watch.tick.db.vectorIndex.get candidate.index.id).getD candidate.index)
        candidate.dataset reason _ stats.latestVersion
      rw [tried]
      simp only [bind, Except.bind, pure, Except.pure]
      split <;> exact ⟨_, rfl⟩

/-! ## What an emission leaves alone -/

theorem Emitted.taken_eq {candidate : Candidate} {key other taskUuid : String}
    {db after : Database} (emitted : Emitted now candidate key taskUuid db after)
    (apart : other ≠ key) : taken other after = taken other db := by
  obtain ⟨task, -, -, keyed, rows⟩ := emitted.appended
  simp [taken, rows, keyed, Ne.symm apart]

/-- Another index's key and row are left alone. -/
theorem Emitted.due_eq {candidate other : Candidate} {reason : TriggerReason} {version : Nat}
    {taskUuid : String} {db after : Database}
    (emitted : Emitted now candidate (triggerKey candidate.index.id version reason) taskUuid db
      after)
    (apart : other.index.id ≠ candidate.index.id) :
    due lance now disk after other = due lance now disk db other := by
  have row : other.row after = other.row db := by
    rw [Candidate.row, Candidate.row, emitted.get_vectorIndex, if_neg apart]
  have keys : ∀ version reason, taken (triggerKey other.index.id version reason) after =
      taken (triggerKey other.index.id version reason) db := by
    intro version' reason'
    exact emitted.taken_eq fun same => apart (triggerKey_inj same).1
  unfold due
  rw [row]
  cases signal lance now disk other.dataset other.policy (other.row db) with
  | none => rfl
  | some fired => simp [keys]

theorem Emitted.stamped {candidate : Candidate} {key taskUuid : String} {db after : Database}
    (emitted : Emitted now candidate key taskUuid db after)
    (parent : candidate.dataset ∈ db.dataset.rows) : Stamped db after := by
  obtain ⟨task, owner, -, -, rows⟩ := emitted.appended
  refine ⟨emitted.dataset, fun row member => ?_⟩
  rw [rows, List.mem_append, List.mem_singleton] at member
  rcases member with old | rfl
  · exact .inl ⟨row, old, rfl, rfl⟩
  · exact .inr ⟨candidate.dataset, parent, owner⟩

end Steps

end IndexWatcherService

end Lcp
