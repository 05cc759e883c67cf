/-
# Workers.AutoIndexBuild -- the index build that a VECTORIZE task submits

`EmbeddingExecutor` writes the vectors first, and then, if the rule asks for it, inserts an
index and its INDEX_BUILD task through the session that the worker will complete the
VECTORIZE task in.  `_maybe_submit_index_build` promises not to raise, but it swallows an
exception without a rollback, and names the dataset in its warning by a copy that a refused
flush has expired.

* `dispatchAndFinalize_performing` -- an executor that is a program is dispatched as before.
* `preserved_iff` -- the result of the vectorization is kept if and only if the helper is
  spared a refused flush, a SELECT that ends the transaction and a setting without `get`.
* `together` -- the index and its task are committed together or not at all, in every case.
-/
import Lcp.Embeddings.MockModel
import Lcp.Invariants.Producers
import Lcp.Theory.Dict
import Lcp.Workers.EncodedTexts
import Lcp.Workers.ExecutorSessions

namespace Lcp.EmbeddingExecutor

open Theory ExecutorSessions
open LifecycleWorkerService (TickOutcome WorkerConfig)

set_option autoImplicit false

def MOCK_MODEL_NAME : String := "mock"

def EXTRA_KEY_INDEX_CONFIG : String := "index_config"

def DEFAULT_INDEX_TYPE : String := "IVF_PQ"

/-! ## The vectorization -/

/-- The encoders and the lance dataset, as the executor calls them. -/
structure EmbeddingIo where
  str : Json → String
  sha256 : List UInt8 → Vector UInt8 32
  stEmbedding : List String → String → Except PyException (List (List Rat))
  /-- The names and types of the schema's fields. -/
  schema : String → Except PyException (List (String × String))
  /-- Write a column of encoded batches, given the dimension of its vectors; the rows after it. -/
  addColumns : String → String → Nat → List String →
    (List (Fields String) → Except PyException (List (List Rat))) → Except PyException Int

/-- Assert that every source column exists and is utf8-string typed. -/
def validateSourceColumns (schema : List (String × String)) (sourceColumns : List String) :
    Except PyException Unit :=
  let schemaNames := schema.map Prod.fst
  let typeOf := fun column =>
    ((schema.find? fun field => field.1 == column).map Prod.snd).getD ""
  let missing := sourceColumns.filter (· ∉ schemaNames)
  let nonString := sourceColumns.filter fun column => typeOf column ≠ "string"
  if missing ≠ [] then
    .error (.valueError ("VECTORIZE source_columns not found in dataset schema: missing=" ++
      pyReprList missing ++ " available=" ++
      pyReprList (schemaNames.dedup.mergeSort fun a b => decide (a ≤ b))))
  else if nonString ≠ [] then
    let types := (Dict.ofList (nonString.map fun column => (column, typeOf column))).rows
    .error (.valueError ("VECTORIZE source_columns must be utf8 string type; " ++
      "non-string columns: \x7b" ++
      ", ".intercalate (types.map fun entry => pyRepr entry.1 ++ ": " ++ pyRepr entry.2) ++ "\x7d"))
  else .ok ()

/-- What the execution has in hand when the column is written. -/
structure Vectorized where
  ruleId : Int
  rule : VectorizationRule
  sourceColumns : List String
  separator : String
  vectorDim : Nat
  rowsAfter : Int

section Vectorization

variable (io : EmbeddingIo)

/-- Encode texts by the mock or by the real model. -/
def encode (modelName : String) (texts : List String) : Except PyException (List (List Rat)) :=
  if modelName = MOCK_MODEL_NAME then MockModel.hashEmbedding io.sha256 (texts.map .str)
  else io.stEmbedding texts modelName

/-- `EmbeddingExecutor.execute`, up to the column that it adds. -/
def vectorize (task : Task) (dataset : Dataset) (db : Database) :
    Except PyException Vectorized := do
  let ruleId := Json.getOr (task.params.getD []) "vectorization_rule_id" .null
  if ruleId = .null then
    throw (.valueError "VECTORIZE task is missing 'vectorization_rule_id' in params")
  let id ← ruleId.toInt
  let rule ← match db.vectorizationRule.rows.find? fun rule =>
      (rule.id : Int) = id ∧ rule.datasetUuid = dataset.datasetUuid with
    | some rule => Except.ok rule
    | none =>
        .error (.valueError ("VECTORIZE target vectorization_rule not found: id=" ++
          io.str ruleId ++ " dataset=" ++ dataset.datasetUuid))
  let (sourceColumns, separator) ← resolve io.str rule
  let schema ← io.schema dataset.storageUri
  validateSourceColumns schema sourceColumns
  let probeVectors ← encode io rule.modelName ["__lcp_probe__"]
  let vectorDim := (probeVectors.head?.map List.length).getD 0
  let rowsAfter ← io.addColumns dataset.storageUri rule.targetColumn vectorDim sourceColumns
    fun batch => encode io rule.modelName (materialise sourceColumns separator batch)
  return { ruleId := id, rule, sourceColumns, separator, vectorDim, rowsAfter }

end Vectorization

/-! ## The helper -/

/-- The statements of the helper that the database refuses, apart from what the rows refuse. -/
structure Refusals where
  /-- The SELECT by name. -/
  lookup : Option (UnitOfWork.Refusal PyException) := none
  /-- The first flush. -/
  insertIndex : Option PyException := none
  /-- The second flush. -/
  insertTask : Option PyException := none

/-- The database and its driver, and what they draw for the rows of the helper. -/
structure Store where
  refusals : Refusals
  /-- `index_name = :index_name`, for a value of any type. -/
  names : Json → String → Bool
  /-- A value of any type, bound to a `VARCHAR`. -/
  bind : Json → Except PyException String
  newId : Nat
  taskUuid : String
  createdAt : DateTime

/-- The setting of a rule that asks for a build; one without `get` raises. -/
def requested (extra : JsonDict) : Except PyException (Option JsonDict) :=
  let indexConfig := Json.getOr extra EXTRA_KEY_INDEX_CONFIG .null
  if !indexConfig.truthy then .ok none
  else
    match indexConfig with
    | .dict config =>
        .ok (if (Json.getOr config "auto_build" .null).truthy then some config else none)
    | other => .error (.attributeError (pyRepr other.typeName ++ " object has no attribute 'get'"))

def integrityError : PyException := ⟨"IntegrityError", "Duplicate entry"⟩

def pendingRollbackError : PyException :=
  ⟨"PendingRollbackError", "This Session's transaction has been rolled back due to a " ++
    "previous exception during flush."⟩

section Helper

variable (io : EmbeddingIo) (store : Store) (dataset : Dataset) (targetColumn : String)

/-- `index_config.get("index_name", f"idx_{target_column}")`. -/
def indexName (config : JsonDict) : Json :=
  Json.getOr config "index_name" (.str ("idx_" ++ targetColumn))

def indexType (config : JsonDict) : Json :=
  Json.getOr config "index_type" (.str DEFAULT_INDEX_TYPE)

/-- `index_config.get("params") or {}`. -/
def indexParams (config : JsonDict) : Json :=
  let params := Json.getOr config "params" .null
  if params.truthy then params else .dict []

/-- The column of `index_params or None`, as far as the executors read it: a dictionary. -/
def paramsColumn : Json → Option JsonDict
  | .dict (entry :: rest) => some (entry :: rest)
  | _ => none

/-- The rows that the SELECT by name finds. -/
def existing (config : JsonDict) (db : Database) : List Index :=
  db.vectorIndex.rows.filter fun index =>
    index.datasetUuid = dataset.datasetUuid && store.names (indexName targetColumn config)
      index.indexName

/-- The row of the new index. -/
def indexRow (config : JsonDict) (indexName indexType : String) : Index where
  id := store.newId
  datasetUuid := dataset.datasetUuid
  indexName
  columnName := targetColumn
  indexType
  params := paramsColumn (indexParams config)
  status := .building

/-- The row of its INDEX_BUILD task. -/
def buildTask (config : JsonDict) : Task :=
  Emission.taskRow dataset store.createdAt store.taskUuid .indexBuild
    (Producers.autoBuildKey dataset.datasetUuid (io.str (indexName targetColumn config))
      store.newId)
    [ ("index_name", indexName targetColumn config),
      ("column_name", .str targetColumn),
      ("index_type", indexType config),
      ("params", indexParams config) ]

/-- The INSERT of the first flush. -/
def insertIndex (config : JsonDict) : Write Database PyException := fun db =>
  match store.refusals.insertIndex with
  | some e => .error e
  | none => do
      let indexName ← store.bind (indexName targetColumn config)
      let indexType ← store.bind (indexType config)
      match IndexService.insertIndex
          (indexRow store dataset targetColumn config indexName indexType) db with
      | some after => .ok after
      | none => .error integrityError

/-- The INSERT of the second flush. -/
def insertTask (config : JsonDict) : Write Database PyException := fun db =>
  match store.refusals.insertTask with
  | some e => .error e
  | none =>
      match TaskService.insertTask (buildTask io store dataset targetColumn config) db with
      | some after => .ok after
      | none => .error integrityError

/-- The `try` block of the helper. -/
def submitIndexBuild (config : JsonDict) (session : Session) :
    Except PyException Bool × Session :=
  match session.query pendingRollbackError store.refusals.lookup
      (existing store dataset targetColumn config) with
  | (.error e, session) => (.error e, session)
  | (.ok [_], session) => (.ok false, session)
  | (.ok (_ :: _ :: _), session) =>
      (.error ⟨"MultipleResultsFound", "Multiple rows were found when one or none was required"⟩,
        session)
  | (.ok [], session) =>
      match (session.add (insertIndex store dataset targetColumn config)).flush with
      | (.error e, session) => (.error e, session)
      | (.ok (), session) =>
          match (session.add (insertTask io store dataset targetColumn config)).flush with
          | (.error e, session) => (.error e, session)
          | (.ok (), session) => (.ok true, session)

/-- Best-effort: insert the index and its task if configured. -/
def maybeSubmitIndexBuild (extra : JsonDict) (session : Session) :
    Except PyException Json × Session :=
  match requested extra with
  | .error e => (.error e, session)
  | .ok none => (.ok .null, session)
  | .ok (some config) =>
      match submitIndexBuild io store dataset targetColumn config session with
      | (.ok submitted, session) => (.ok (.bool submitted), session)
      -- the warning reads the dataset's copy
      | (.error _, session) => ((loadedTask session).map fun () => .null, session)

end Helper

/-! ## The execution -/

/-- The result payload. -/
def payload (dataset : Dataset) (done : Vectorized) (submitted : Json) (executedAt : DateTime) :
    JsonDict :=
  [ ("executor", .str "EmbeddingExecutor"),
    ("mode", .str (if done.rule.modelName = MOCK_MODEL_NAME then "mock" else "real-model")),
    ("dataset_uuid", .str dataset.datasetUuid),
    ("storage_uri", .str dataset.storageUri),
    ("vectorization_rule_id", .int done.ruleId),
    ("model_name", .str done.rule.modelName),
    ("model_version", .str done.rule.modelVersion),
    ("target_column", .str done.rule.targetColumn),
    ("source_columns", .list (done.sourceColumns.map .str)),
    ("concat_separator", .str done.separator),
    ("batch_size", .int done.rule.batchSize),
    ("vector_dim", .int done.vectorDim),
    ("vector_count", .int done.rowsAfter),
    ("index_build_submitted", submitted),
    ("executed_at", .str (DateTime.isoformat executedAt)) ]

/-- Compute embeddings for a vectorization rule. -/
def execute (io : EmbeddingIo) (store : Store) (executedAt : DateTime) (task : Task)
    (dataset : Dataset) (session : Session) : Except PyException JsonDict × Session :=
  match vectorize io task dataset session.flushed with
  | .error e => (.error e, session)
  | .ok done =>
      match maybeSubmitIndexBuild io store dataset done.rule.targetColumn (done.rule.extra.getD [])
          session with
      | (.error e, session) => (.error e, session)
      | (.ok submitted, session) =>
          ((loadedTask session).map fun () => payload dataset done submitted executedAt, session)

/-! ## The iteration -/

/-- An executor that is handed the session of its iteration. -/
abbrev SessionExecute := Task → Dataset → Session → Except PyException JsonDict × Session

section Iterations

variable (strict : Bool) (principal : Option TenantPrincipal) (finishedAt : DateTime)

/-- Complete the task in a session that may be inactive. -/
def completeTask (workerId : String) (task : Task) (payload : JsonDict) (session : Session) :
    Iteration :=
  if session.inactive then
    { outcome := .error (.python pendingRollbackError), db := session.committed }
  else completed principal finishedAt workerId task (.ok payload) session

/-- What becomes of the task, by the execution's answer and the session behind it. -/
def finalize (workerId : String) (task : Task) :
    Except PyException JsonDict × Session → Iteration
  | (.error exc, session) => caught strict principal finishedAt workerId task exc session
  | (.ok payload, session) => completeTask principal finishedAt workerId task payload session

/-- Dispatch one already claimed task. -/
def dispatchAndFinalize (registry : TaskType → Option SessionExecute) (workerId : String)
    (task : Task) (session : Session) : Iteration :=
  match session.flushed.dataset.get task.datasetUuid with
  | none =>
      failed strict principal finishedAt workerId task "DatasetMissing"
        ("dataset " ++ task.datasetUuid ++ " no longer exists; task is orphaned") session
  | some dataset =>
      match registry task.taskType with
      | none =>
          failed strict principal finishedAt workerId task "UnknownTaskType"
            ("no executor registered for " ++ pyRepr task.taskType.toString) session
      | some execute =>
          finalize strict principal finishedAt workerId task (execute task dataset session)

/-- Run one claim/execute/complete cycle. -/
def runIteration (claimedAt : DateTime) (registry : TaskType → Option SessionExecute)
    (config : WorkerConfig) (db : Database) : Iteration :=
  match SchedulerService.claimNextTask principal claimedAt config.workerId config.leaseId
      config.taskType db with
  | .error e => { outcome := .error (.scheduler e), db }
  | .ok (none, after) => { outcome := .ok { claimed := false }, db := after }
  | .ok (some task, held) =>
      dispatchAndFinalize strict principal finishedAt registry config.workerId task (.begin held)

end Iterations

/-! ## Executors that are programs -/

/-- A program of writes and flushes, run on the session of its iteration. -/
def performing (executor : SessionExecutor) : SessionExecute := fun task dataset session =>
  let program := executor task dataset session.flushed
  match session.perform program.body, program.ending with
  | (.error exc, session), _ => (.error exc, session)
  | (.ok (), session), .raised exc => (.error exc, session)
  | (.ok (), session), .returned payload => (payload, session)

/-- For programs with a payload that can be stored, the dispatch is that of `ExecutorSessions`. -/
theorem dispatchAndFinalize_performing {strict : Bool} {principal : Option TenantPrincipal}
    {finishedAt : DateTime} {registry : SessionRegistry} {workerId : String} {task : Task}
    {held : Database}
    (stored : ∀ program ∈ dispatched registry task held, ∀ e,
      program.ending ≠ .returned (.error e)) :
    dispatchAndFinalize strict principal finishedAt (fun taskType =>
        (registry taskType).map performing) workerId task (.begin held) =
      ExecutorSessions.dispatchAndFinalize strict principal finishedAt registry workerId task
        (.begin held) := by
  unfold dispatchAndFinalize ExecutorSessions.dispatchAndFinalize
  simp only [UnitOfWork.begin]
  cases found : held.dataset.get task.datasetUuid with
  | none => rfl
  | some dataset =>
      cases registered : registry task.taskType with
      | none => rfl
      | some executor =>
          have program : executor task dataset held ∈ dispatched registry task held := by
            simp [dispatched, found, registered]
          simp only [Option.map_some, performing]
          rcases ran : UnitOfWork.perform (executor task dataset held).body
            { committed := held, flushed := held } with ⟨answer, session⟩
          cases answer with
          | error exc => rfl
          | ok =>
              have active : session.inactive = false := (UnitOfWork.perform_eq_ok ran).2.1
              cases ending : (executor task dataset held).ending with
              | raised exc => rfl
              | returned payload =>
                  cases payload with
                  | error e => exact absurd ending (stored _ program e)
                  | ok payload => simp [finalize, completeTask, active]

/-! ## What a vectorization is due -/

section Due

variable (io : EmbeddingIo) (store : Store) (dataset : Dataset) (targetColumn : String)

/-- Both rows are there, and nothing else is different. -/
structure Inserted (config : JsonDict) (held written : Database) : Prop where
  vectorIndex : ∃ indexName indexType, written.vectorIndex.rows = held.vectorIndex.rows ++
    [indexRow store dataset targetColumn config indexName indexType]
  task : written.task.rows = held.task.rows ++ [buildTask io store dataset targetColumn config]
  rest : { written with vectorIndex := held.vectorIndex, task := held.task } = held

/-- Apart from the rows of the claimed task and its worker, the index and its task are both
committed, or nothing is. -/
def Together (extra : JsonDict) (workerId : String) (task : Task) (held after : Database) : Prop :=
  SameRest task.taskUuid workerId held after ∨
    ∃ config written, requested extra = .ok (some config) ∧
      Inserted io store dataset targetColumn config held written ∧
      SameRest task.taskUuid workerId written after

/-- The helper meets no refused flush, no SELECT that ends the transaction and no setting that
it cannot read. -/
def Spared (extra : JsonDict) (held : Database) : Prop :=
  requested extra = .ok none ∨ ∃ config, requested extra = .ok (some config) ∧
    match store.refusals.lookup with
    | some refusal => refusal.deactivates = false
    | none => existing store dataset targetColumn config held = [] → ∃ built written,
        insertIndex store dataset targetColumn config held = .ok built ∧
          insertTask io store dataset targetColumn config built = .ok written

end Due

/-- The execution returns, the task is committed as SUCCEEDED with the payload, and the index
goes together with its task. -/
def Preserved (io : EmbeddingIo) (store : Store) (executedAt : DateTime) (workerId : String)
    (task : Task) (dataset : Dataset) (done : Vectorized) (held : Database)
    (iteration : Iteration) : Prop :=
  ∃ payload session,
    execute io store executedAt task dataset (.begin held) = (.ok payload, session) ∧
    (∃ tick, iteration.outcome = .ok tick ∧ tick.finalStatus = some .succeeded) ∧
    (∃ row ∈ iteration.db.task.get task.taskUuid,
      row.status = .succeeded ∧ row.result = some payload) ∧
    Together io store dataset done.rule.targetColumn (done.rule.extra.getD []) workerId task held
      iteration.db

/-! ## The helper on the session of an iteration -/

section Helper

variable {io : EmbeddingIo} {store : Store} {dataset : Dataset} {targetColumn : String}
  {config extra : JsonDict} {held : Database}

/-- The session of an iteration after a refused flush. -/
def refusedSession (held : Database) : Session :=
  { committed := held, flushed := held, inactive := true, expired := true }

/-- The session with writes in its transaction. -/
def sentSession (held written : Database) : Session := { committed := held, flushed := written }

theorem flush_sent {write : Write Database PyException} {written : Database} :
    ((sentSession held written).add write).flush =
      match write written with
      | .ok next => (.ok (), sentSession held next)
      | .error e => (.error e, refusedSession held) := by
  have reads : write (sentSession held written).flushed = write written := rfl
  rw [UnitOfWork.flush_add_of_settled (u := sentSession held written) rfl, reads]
  cases write written <;> rfl

/-- The `try` block, by what the database answers. -/
theorem submitIndexBuild_begin :
    submitIndexBuild io store dataset targetColumn config (.begin held) =
      match store.refusals.lookup with
      | some refusal =>
          (.error refusal.error, { sentSession held held with inactive := refusal.deactivates })
      | none =>
          match existing store dataset targetColumn config held with
          | [_] => (.ok false, sentSession held held)
          | _ :: _ :: _ =>
              (.error ⟨"MultipleResultsFound",
                "Multiple rows were found when one or none was required"⟩, sentSession held held)
          | [] =>
              match insertIndex store dataset targetColumn config held with
              | .error e => (.error e, refusedSession held)
              | .ok built =>
                  match insertTask io store dataset targetColumn config built with
                  | .error e => (.error e, refusedSession held)
                  | .ok written => (.ok true, sentSession held written) := by
  have begins : (.begin held : Session) = sentSession held held := rfl
  have reads : existing store dataset targetColumn config (sentSession held held).flushed =
      existing store dataset targetColumn config held := rfl
  unfold submitIndexBuild
  rw [begins, UnitOfWork.query_of_settled rfl rfl, reads]
  cases store.refusals.lookup with
  | some refusal => rfl
  | none =>
      match existing store dataset targetColumn config held with
      | [_] => rfl
      | _ :: _ :: _ => rfl
      | [] =>
          simp only [flush_sent]
          cases insertIndex store dataset targetColumn config held with
          | error e => rfl
          | ok built =>
              simp only [flush_sent]
              cases insertTask io store dataset targetColumn config built <;> rfl

theorem insertIndex_eq_ok {built : Database}
    (ran : insertIndex store dataset targetColumn config held = .ok built) :
    ∃ indexName indexType, built.vectorIndex.rows = held.vectorIndex.rows ++
        [indexRow store dataset targetColumn config indexName indexType] ∧
      { built with vectorIndex := held.vectorIndex } = held := by
  unfold insertIndex at ran
  split at ran
  · cases ran
  · obtain ⟨indexName, -, ran⟩ := bind_eq_ok ran
    obtain ⟨indexType, -, ran⟩ := bind_eq_ok ran
    split at ran
    · rename_i after inserted
      obtain rfl := Except.ok.inj ran
      obtain ⟨-, table, added, rfl⟩ := IndexService.insertIndex_eq_some inserted
      exact ⟨indexName, indexType, (Table.insert?_eq_some added).1, rfl⟩
    · cases ran

theorem insertTask_eq_ok {written : Database}
    (ran : insertTask io store dataset targetColumn config held = .ok written) :
    written.task.rows = held.task.rows ++ [buildTask io store dataset targetColumn config] ∧
      { written with task := held.task } = held := by
  unfold insertTask at ran
  split at ran
  · cases ran
  · split at ran
    · rename_i after inserted
      obtain rfl := Except.ok.inj ran
      obtain ⟨table, added, rfl, -⟩ := TaskService.insertTask_eq_some inserted
      exact ⟨(Table.insert?_eq_some added).1, rfl⟩
    · cases ran

theorem inserted_of_ok {built written : Database}
    (first : insertIndex store dataset targetColumn config held = .ok built)
    (second : insertTask io store dataset targetColumn config built = .ok written) :
    Inserted io store dataset targetColumn config held written := by
  obtain ⟨indexName, indexType, index, sameTask⟩ := insertIndex_eq_ok first
  obtain ⟨task, sameIndex⟩ := insertTask_eq_ok second
  have vectorIndex : written.vectorIndex = built.vectorIndex :=
    (congrArg Database.vectorIndex sameIndex :)
  have heldTask : built.task = held.task := (congrArg Database.task sameTask :)
  refine ⟨⟨indexName, indexType, vectorIndex ▸ index⟩, heldTask ▸ task, ?_⟩
  rw [← sameTask, ← sameIndex]

/-- A helper that is spared returns, with an active session that holds both rows or nothing. -/
theorem maybeSubmit_of_spared (spared : Spared io store dataset targetColumn extra held) :
    ∃ submitted written,
      maybeSubmitIndexBuild io store dataset targetColumn extra (.begin held) =
          (.ok submitted, sentSession held written) ∧
        (written = held ∨ ∃ config, requested extra = .ok (some config) ∧
          Inserted io store dataset targetColumn config held written) := by
  unfold maybeSubmitIndexBuild
  rcases spared with unrequested | ⟨config, asked, answered⟩
  · rw [unrequested]
    exact ⟨_, held, rfl, .inl rfl⟩
  · simp only [asked, submitIndexBuild_begin]
    cases lookup : store.refusals.lookup with
    | some refusal =>
        simp only [lookup] at answered
        simp only [answered]
        exact ⟨_, held, rfl, .inl rfl⟩
    | none =>
        simp only [lookup] at answered
        simp only
        match rows : existing store dataset targetColumn config held with
        | [_] => exact ⟨_, held, rfl, .inl rfl⟩
        | _ :: _ :: _ => exact ⟨_, held, rfl, .inl rfl⟩
        | [] =>
            obtain ⟨built, written, first, second⟩ := answered rows
            simp only [first, second]
            exact ⟨_, written, rfl, .inr ⟨config, rfl, inserted_of_ok first second⟩⟩

/-- One that is not spared raises, or leaves a session in which nothing can be sent; and nothing
is committed. -/
theorem maybeSubmit_of_not_spared (unspared : ¬ Spared io store dataset targetColumn extra held) :
    ∃ answer session,
      maybeSubmitIndexBuild io store dataset targetColumn extra (.begin held) = (answer, session) ∧
        session.committed = held ∧ ((∃ e, answer = .error e) ∨ session.inactive = true) := by
  unfold maybeSubmitIndexBuild
  match guard : requested extra with
  | .error e => exact ⟨_, _, rfl, rfl, .inl ⟨e, rfl⟩⟩
  | .ok none => exact absurd (.inl guard) unspared
  | .ok (some config) =>
      have unanswered := fun answered => unspared (.inr ⟨config, guard, answered⟩)
      simp only [submitIndexBuild_begin]
      cases lookup : store.refusals.lookup with
      | some refusal =>
          simp only [lookup] at unanswered
          have deactivates : refusal.deactivates = true := Bool.not_eq_false _ ▸ unanswered
          exact ⟨_, _, rfl, rfl, .inr deactivates⟩
      | none =>
          simp only [lookup] at unanswered
          simp only
          match rows : existing store dataset targetColumn config held with
          | [_] => exact (unanswered fun none => by rw [rows] at none; cases none).elim
          | _ :: _ :: _ => exact (unanswered fun none => by rw [rows] at none; cases none).elim
          | [] =>
              -- the flush of either row is refused, and the warning reads an expired copy
              cases first : insertIndex store dataset targetColumn config held with
              | error e => exact ⟨_, _, rfl, rfl, .inl ⟨_, rfl⟩⟩
              | ok built =>
                  simp only
                  cases second : insertTask io store dataset targetColumn config built with
                  | error e => exact ⟨_, _, rfl, rfl, .inl ⟨_, rfl⟩⟩
                  | ok written => exact (unanswered fun _ => ⟨built, written, first, second⟩).elim

end Helper

/-! ## The iteration of a claimed task -/

section Iteration

variable {strict : Bool} {principal : Option TenantPrincipal} {finishedAt executedAt : DateTime}
  {io : EmbeddingIo} {store : Store} {workerId : String} {task : Task} {dataset : Dataset}
  {done : Vectorized} {db held : Database} {registry : TaskType → Option SessionExecute}

theorem execute_of_vectorized (vectorized : vectorize io task dataset held = .ok done) :
    execute io store executedAt task dataset (.begin held) =
      match maybeSubmitIndexBuild io store dataset done.rule.targetColumn (done.rule.extra.getD [])
          (.begin held) with
      | (.error e, session) => (.error e, session)
      | (.ok submitted, session) =>
          ((loadedTask session).map fun () => payload dataset done submitted executedAt,
            session) := by
  have reads : vectorize io task dataset (UnitOfWork.begin held : Session).flushed = .ok done :=
    vectorized
  rw [execute, reads]

/-- The task of the claim is still the worker's behind the rows of the helper. -/
theorem got_of_inserted {targetColumn : String} {extra : JsonDict} {written : Database}
    (claim : Held workerId task db held)
    (rows : written = held ∨ ∃ config, requested extra = .ok (some config) ∧
      Inserted io store dataset targetColumn config held written) :
    written.task.get task.taskUuid = some task := by
  rcases rows with rfl | ⟨config, -, inserted⟩
  · exact claim.got
  · refine Table.get_of_mem ?_
    rw [inserted.task]
    exact List.mem_append_left _ (Table.mem_of_get claim.got)

/-- A spared execution returns, with both rows or nothing in its transaction. -/
theorem execute_of_spared (vectorized : vectorize io task dataset held = .ok done)
    (spared : Spared io store dataset done.rule.targetColumn (done.rule.extra.getD []) held) :
    ∃ payload written,
      execute io store executedAt task dataset (.begin held) =
          (.ok payload, sentSession held written) ∧
        (written = held ∨ ∃ config, requested (done.rule.extra.getD []) = .ok (some config) ∧
          Inserted io store dataset done.rule.targetColumn config held written) := by
  obtain ⟨submitted, written, helped, rows⟩ := maybeSubmit_of_spared spared
  refine ⟨payload dataset done submitted executedAt, written, ?_, rows⟩
  rw [execute_of_vectorized vectorized, helped]
  rfl

/-- Any other one raises, or returns a payload that its session cannot commit. -/
theorem execute_of_not_spared (vectorized : vectorize io task dataset held = .ok done)
    (unspared : ¬ Spared io store dataset done.rule.targetColumn (done.rule.extra.getD []) held) :
    ∃ answer session,
      execute io store executedAt task dataset (.begin held) = (answer, session) ∧
        session.committed = held ∧ ((∃ e, answer = .error e) ∨ session.inactive = true) := by
  obtain ⟨answer, session, helped, kept, lost⟩ := maybeSubmit_of_not_spared unspared
  rw [execute_of_vectorized vectorized, helped]
  cases answer with
  | error e => exact ⟨_, session, rfl, kept, .inl ⟨e, rfl⟩⟩
  | ok submitted =>
      obtain ⟨e, raised⟩ | inactive := lost
      · cases raised
      · exact ⟨_, session, rfl, kept, .inr inactive⟩

section Dispatch

variable (system : requireSystemContext principal = true) (claim : Held workerId task db held)
  (found : held.dataset.get task.datasetUuid = some dataset)
  (registered : registry task.taskType = some (execute io store executedAt))

include found registered

theorem dispatch_of_registered :
    dispatchAndFinalize strict principal finishedAt registry workerId task (.begin held) =
      finalize strict principal finishedAt workerId task
        (execute io store executedAt task dataset (.begin held)) := by
  have looked : (UnitOfWork.begin held : Session).flushed.dataset.get task.datasetUuid =
      some dataset := found
  unfold dispatchAndFinalize
  simp only [looked, registered]

include system claim

/-- A spared dispatch keeps the result. -/
theorem dispatch_of_spared (vectorized : vectorize io task dataset held = .ok done)
    (spared : Spared io store dataset done.rule.targetColumn (done.rule.extra.getD []) held) :
    Preserved io store executedAt workerId task dataset done held
      (dispatchAndFinalize strict principal finishedAt registry workerId task (.begin held)) := by
  obtain ⟨payload, written, returned, rows⟩ :=
    @execute_of_spared executedAt io store task dataset done held vectorized spared
  have got := got_of_inserted claim rows
  obtain ⟨tick, after, answered, called⟩ :=
    @completed_of_applied principal finishedAt workerId task (sentSession held written) system
      written got claim.owned rfl payload
  obtain ⟨rest, row, -⟩ := finishTask_written called
  rw [got] at row
  have committed : finalize strict principal finishedAt workerId task
      (.ok payload, sentSession held written) = ⟨.ok tick, after⟩ := answered
  have succeeded := finalStatus_of_completed (congrArg Iteration.outcome answered)
  rw [dispatch_of_registered found registered, returned, committed]
  refine ⟨payload, _, returned, ⟨tick, rfl, succeeded⟩, ⟨_, row, rfl, rfl⟩, ?_⟩
  rcases rows with rfl | ⟨config, asked, inserted⟩
  · exact .inl rest
  · exact .inr ⟨config, written, asked, inserted, rest⟩

/-- The dispatch of a task whose vectorization went through. -/
theorem dispatch_preserved_iff (vectorized : vectorize io task dataset held = .ok done) :
    Preserved io store executedAt workerId task dataset done held
        (dispatchAndFinalize strict principal finishedAt registry workerId task (.begin held)) ↔
      Spared io store dataset done.rule.targetColumn (done.rule.extra.getD []) held := by
  refine ⟨fun preserved => ?_, dispatch_of_spared system claim found registered vectorized⟩
  by_contra unspared
  obtain ⟨answer, session, ran, -, lost⟩ :=
    @execute_of_not_spared executedAt io store task dataset done held vectorized unspared
  obtain ⟨payload, final, returned, ⟨tick, answered, -⟩, -⟩ := preserved
  obtain ⟨rfl, rfl⟩ := Prod.mk.inj (ran.symm.trans returned)
  obtain ⟨e, raised⟩ | inactive := lost
  · cases raised
  · rw [dispatch_of_registered found registered, ran] at answered
    simp only [finalize, completeTask, inactive, if_true] at answered
    cases answered

/-- The dispatch commits the index with its task, or neither of them. -/
theorem dispatch_together (vectorized : vectorize io task dataset held = .ok done) :
    Together io store dataset done.rule.targetColumn (done.rule.extra.getD []) workerId task held
      (dispatchAndFinalize strict principal finishedAt registry workerId task
        (.begin held)).db := by
  by_cases spared : Spared io store dataset done.rule.targetColumn (done.rule.extra.getD []) held
  · obtain ⟨-, -, -, -, -, goes⟩ := @dispatch_of_spared strict principal finishedAt executedAt io
      store workerId task dataset done db held registry system claim found registered vectorized
      spared
    exact goes
  · obtain ⟨answer, session, ran, kept, lost⟩ :=
      @execute_of_not_spared executedAt io store task dataset done held vectorized spared
    rw [dispatch_of_registered found registered, ran]
    refine .inl ?_
    cases answer with
    | error e => exact caught_sameRest kept
    | ok payload =>
        obtain ⟨e, raised⟩ | inactive := lost
        · cases raised
        · simp only [finalize, completeTask, inactive, if_true, kept]
          exact SameRest.refl held

end Dispatch

end Iteration

section Runs

variable {strict : Bool} {principal : Option TenantPrincipal}
  {claimedAt finishedAt executedAt : DateTime} {io : EmbeddingIo} {store : Store}
  {registry : TaskType → Option SessionExecute} {config : WorkerConfig} {task : Task}
  {dataset : Dataset} {done : Vectorized} {db held : Database}

theorem runIteration_of_claimed
    (claimed : SchedulerService.claimNextTask principal claimedAt config.workerId config.leaseId
      config.taskType db = .ok (some task, held)) :
    runIteration strict principal finishedAt claimedAt registry config db =
      dispatchAndFinalize strict principal finishedAt registry config.workerId task
        (.begin held) := by
  unfold runIteration
  rw [claimed]

/-- **The vectors that an iteration has written are kept for the task** if and only if the helper
is spared: the build is not asked for, or its SELECT leaves the transaction alone and finds an
index, or the database takes both rows. -/
theorem preserved_iff
    (claimed : SchedulerService.claimNextTask principal claimedAt config.workerId config.leaseId
      config.taskType db = .ok (some task, held))
    (found : held.dataset.get task.datasetUuid = some dataset)
    (registered : registry task.taskType = some (execute io store executedAt))
    (vectorized : vectorize io task dataset held = .ok done) :
    Preserved io store executedAt config.workerId task dataset done held
        (runIteration strict principal finishedAt claimedAt registry config db) ↔
      Spared io store dataset done.rule.targetColumn (done.rule.extra.getD []) held := by
  rw [runIteration_of_claimed claimed]
  exact dispatch_preserved_iff (SchedulerService.system_of_claimNextTask claimed)
    (held_of_claim claimed) found registered vectorized

/-- Whatever the flushes come to, no index is committed without its task, and no task without
its index. -/
theorem together
    (claimed : SchedulerService.claimNextTask principal claimedAt config.workerId config.leaseId
      config.taskType db = .ok (some task, held))
    (found : held.dataset.get task.datasetUuid = some dataset)
    (registered : registry task.taskType = some (execute io store executedAt))
    (vectorized : vectorize io task dataset held = .ok done) :
    Together io store dataset done.rule.targetColumn (done.rule.extra.getD []) config.workerId task
      held (runIteration strict principal finishedAt claimedAt registry config db).db := by
  rw [runIteration_of_claimed claimed]
  exact dispatch_together (SchedulerService.system_of_claimNextTask claimed)
    (held_of_claim claimed) found registered vectorized

end Runs

section Examples

private def claimedAt : DateTime := DateTime.start2026

/-- A store that takes everything, with the answer to the first flush. -/
private def storeWith (insertIndex : Option PyException) : Store where
  refusals := { insertIndex }
  names
    | .str name => fun stored => name == stored
    | _ => fun _ => false
  bind
    | .str text => .ok text
    | _ => .error ⟨"ProgrammingError", "type is not supported"⟩
  newId := 7
  taskUuid := "b1"
  createdAt := claimedAt + 1

/-- A dataset with one text column, encoded into one dimension. -/
private def oneTextColumn : EmbeddingIo where
  str
    | .str text => text
    | _ => ""
  sha256 := fun _ => .replicate 32 0
  stEmbedding := fun texts _ => .ok (texts.map fun _ => [0])
  schema := fun _ => .ok [("title", "string")]
  addColumns := fun _ _ _ _ _ => .ok 5

/-- A pending VECTORIZE task of a rule that asks for an index. -/
private def autoBuildPending : Database where
  dataset :=
    .single
      { datasetUuid := "d1", catalog := "lake", dbSchema := "acme", tableName := "articles",
        storageUri := "s3://acme/articles", tenantId := "acme" }
  task :=
    .single
      { taskUuid := "t1", taskType := .vectorize, datasetUuid := "d1", tenantId := "acme",
        params := some [("vectorization_rule_id", .int 1)], createdAt := claimedAt }
  vectorizationRule :=
    .single
      { id := 1, datasetUuid := "d1", targetColumn := "embedding", sourceColumns := some ["title"],
        modelName := "bge", modelVersion := "v1",
        extra := some [("index_config", .dict [("auto_build", .bool true)])] }
  workerRegistry :=
    .single
      { workerId := "w1", workerType := "lifecycle", leaseId := "l1", lastHeartbeatAt := claimedAt }

private def embeddingWorker : WorkerConfig where
  workerId := "w1"
  leaseId := "l1"

private def onlyEmbedding (store : Store) : TaskType → Option SessionExecute
  | .vectorize => some (execute oneTextColumn store (claimedAt + 1))
  | _ => none

private def iterate (store : Store) : Iteration :=
  runIteration true daemonContext (claimedAt + 1) claimedAt (onlyEmbedding store) embeddingWorker
    autoBuildPending

/-- The INSERT of the index loses against a concurrent creator. -/
private def duplicateName : Store := storeWith (some integrityError)

/-- A database that takes both rows keeps the result. -/
theorem built_index_preserved : ∃ task held dataset done,
    SchedulerService.claimNextTask daemonContext claimedAt "w1" "l1" none autoBuildPending =
        .ok (some task, held) ∧
      held.dataset.get task.datasetUuid = some dataset ∧
      vectorize oneTextColumn task dataset held = .ok done ∧
      Preserved oneTextColumn (storeWith none) (claimedAt + 1) "w1" task dataset done held
        (iterate (storeWith none)) := by
  refine ⟨_, _, _, _, rfl, rfl, rfl, ?_⟩
  refine (preserved_iff rfl rfl rfl rfl).2 (.inr ⟨[("auto_build", .bool true)], rfl, ?_⟩)
  exact fun _ => ⟨_, _, rfl, rfl⟩

/-- A duplicate name costs the result: the iteration does not answer, and the session that the
helper leaves behind would not complete the task either. -/
theorem duplicate_name_loses_result : ∃ task held dataset done,
    SchedulerService.claimNextTask daemonContext claimedAt "w1" "l1" none autoBuildPending =
        .ok (some task, held) ∧
      held.dataset.get task.datasetUuid = some dataset ∧
      vectorize oneTextColumn task dataset held = .ok done ∧
      ¬ Preserved oneTextColumn duplicateName (claimedAt + 1) "w1" task dataset done held
        (iterate duplicateName) ∧
      ∀ result, (completeTask daemonContext (claimedAt + 1) "w1" task result
        (maybeSubmitIndexBuild oneTextColumn duplicateName dataset "embedding"
          (done.rule.extra.getD []) (.begin held)).2).outcome.toOption = none := by
  refine ⟨_, _, _, _, rfl, rfl, rfl, ?_, fun result => rfl⟩
  rintro ⟨-, -, -, ⟨tick, answered, -⟩, -⟩
  have raised : (iterate duplicateName).outcome.toOption.isNone = true := by decide +kernel
  rw [answered] at raised
  cases raised

example : (iterate duplicateName).db.task.rows.map (fun task => task.status) = [.running] ∧
    (iterate duplicateName).db.vectorIndex.rows = [] := by
  decide +kernel

end Examples

end Lcp.EmbeddingExecutor
