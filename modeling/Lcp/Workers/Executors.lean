/-
# Workers.Executors -- what a task does once it is dispatched

An executor gets the worker's session, the task and its dataset.  It may write
rows, which the worker commits or rolls back, and it may write lance tables,
which nothing rolls back.

The five executors of the default registry are embedded here; of VECTORIZE, what it resolves
before it hands over to `_vectorize_sync`.  Every executor is stamped: the tasks
it leaves are those it found, or belong to the dataset it was given.
-/
import Lcp.DataPlane.LanceIo
import Lcp.Services.Emission
import Lcp.Services.IndexService

namespace Lcp

open Theory

set_option autoImplicit false

/-- The arguments of `_vectorize_sync`; what comes out of the parameters is any JSON value. -/
structure VectorizeCall where
  uri : String
  targetColumn : Json
  sourceColumns : Json
  modelName : Json
  endpoint : Json
  batchSize : Int
  timeout : Rat
  apiKey : Json
  apiKeyHeader : Json
deriving DecidableEq

/-- What an executor reads beside its rows: settings, clock, the catalog and the embedding
service. -/
structure ExecutorContext where
  lanceStorageEndpoint : String := ""
  embeddingDefaultEndpoint : String := ""
  embeddingRequestTimeoutSeconds : Rat := 30
  embeddingApiKey : String := ""
  embeddingApiKeyHeader : String := "Authorization"
  now : DateTime
  /-- Whether Gravitino takes the property push for (schema, table, index). -/
  pushIndexProperties : String → String → String → Bool := fun _ _ _ => false
  /-- What the database driver makes of `column = value` for a value that is no text. -/
  compareText : Json → Except PyException (String → Bool) := fun _ => .ok fun _ => false
  /-- The interpreter's rendering of a float. -/
  floatRepr : Rat → String := fun _ => ""
  /-- What `_vectorize_sync` returns or raises; it writes no rows. -/
  vectorizeSync : VectorizeCall → Except PyException JsonDict := fun _ => .ok []

/-- The rows after `execute` returned its payload, or what it raised; and the
tables in either case. -/
abbrev Execution (Disk : Type) := Except PyException (JsonDict × Database) × Disk

/-- An executor of one task type. -/
structure LifecycleExecutor (Disk : Type) where
  execute : ExecutorContext → Task → Dataset → Database → Disk → Execution Disk
  stamped : ∀ {context task dataset db disk payload after disk'},
    dataset ∈ db.dataset.rows →
    execute context task dataset db disk = (.ok (payload, after), disk') → Stamped db after

/-! ## TTL_DELETE -/

namespace TtlDeleteExecutor

variable {Disk : Type} (lance : Pylance Disk)

/-- The value of `timedelta(days=days)`. -/
def timedeltaDays (days : Int) : Except PyException TimeDelta :=
  if days < -2147483648 ∨ 2147483647 < days then
    .error (.overflowError "Python int too large to convert to C int")
  else if days < -999999999 ∨ 999999999 < days then
    .error (.overflowError
      ("days=" ++ toString days ++ "; must have magnitude <= 999999999"))
  else .ok (days * DateTime.microsPerDay)

/-- The value of `now - delta`. -/
def subtract (now : DateTime) (delta : TimeDelta) : Except PyException DateTime :=
  if DateTime.inRange (now - delta) then .ok (now - delta)
  else .error (.overflowError "date value out of range")

/-- The rendering `str(value)` of a value that `int()` accepted. -/
def render (context : ExecutorContext) : Json → String
  | .bool b => if b then "True" else "False"
  | .int n => toString n
  | .float q => context.floatRepr q
  | .str s => s
  | _ => ""

def payload (dataset : Dataset) (ttlDays : Json) (now : DateTime) (mode : String)
    (details : JsonDict) : JsonDict :=
  [ ("executor", .str "TtlDeleteExecutor"),
    ("mode", .str mode),
    ("dataset_uuid", .str dataset.datasetUuid),
    ("storage_uri", .str dataset.storageUri),
    ("ttl_days", ttlDays) ] ++ details ++ [("executed_at", .str (DateTime.isoformat now))]

/-- The literal the delete filters by. -/
def predicate (cutoff : DateTime) : String :=
  "created_at < timestamp '" ++ DateTime.isoformat cutoff ++ "'"

/-- The cutoff of the task's `ttl_days`. -/
def cutoff (now : DateTime) (ttlDays : Json) : Except PyException DateTime := do
  subtract now (← timedeltaDays (← ttlDays.toInt))

/-- Delete rows older than `ttl_days` from the dataset's lance table. -/
def execute (context : ExecutorContext) (task : Task) (dataset : Dataset) (db : Database)
    (disk : Disk) : Execution Disk :=
  match Json.get? (task.params.getD []) "ttl_days" with
  | none => (.error (.valueError "TTL_DELETE task is missing 'ttl_days' in params"), disk)
  | some ttlDays =>
      let now := DateTime.dropMicroseconds context.now
      match cutoff now ttlDays with
      | .error e => (.error e, disk)
      | .ok cutoff =>
          let preview := "created_at < (now - INTERVAL " ++ render context ttlDays ++ " DAY)"
          if context.lanceStorageEndpoint = "" then
            (.ok (payload dataset ttlDays now "stub"
              [ ("predicate_preview", .str preview),
                ("would_call", .str "lance.LanceDataset.delete") ], db), disk)
          else
            match LanceIo.deleteRows lance disk dataset.storageUri (predicate cutoff) with
            | (.error e, disk) => (.error e, disk)
            | (.ok rowsAfter, disk) =>
                (.ok (payload dataset ttlDays now "real"
                  [ ("predicate", .str (predicate cutoff)),
                    ("predicate_preview", .str preview),
                    ("rows_after", .int rowsAfter) ], db), disk)

theorem execute_rows {context : ExecutorContext} {task : Task} {dataset : Dataset}
    {db after : Database} {disk disk' : Disk} {answer : JsonDict}
    (ran : execute lance context task dataset db disk = (.ok (answer, after), disk')) :
    after = db := by
  unfold execute at ran
  split at ran
  · cases ran
  · simp only at ran
    split at ran
    · cases ran
    · split at ran
      · cases ran
        rfl
      · split at ran
        · cases ran
        · cases ran
          rfl

end TtlDeleteExecutor

/-- The executor of TTL_DELETE tasks. -/
def ttlDeleteExecutor {Disk : Type} (lance : Pylance Disk) : LifecycleExecutor Disk where
  execute := TtlDeleteExecutor.execute lance
  stamped _ ran := TtlDeleteExecutor.execute_rows lance ran ▸ Stamped.refl _

/-! ## COMPACTION -/

namespace CompactionExecutor

variable {Disk : Type} (lance : Pylance Disk)

def LANCE_COMPACT_KWARGS : List String := ["target_rows_per_fragment", "materialize_deletions"]

/-- The nested `threshold`, with an empty dictionary for a falsy one. -/
def threshold (task : Task) : Json :=
  ((Json.get? (task.params.getD []) "threshold").filter Json.truthy).getD (.dict [])

def stats (stats : CompactionStats) : JsonDict :=
  [ ("fragments_removed", .int stats.fragmentsRemoved),
    ("fragments_added", .int stats.fragmentsAdded),
    ("files_removed", .int stats.filesRemoved),
    ("files_added", .int stats.filesAdded) ]

def payload (dataset : Dataset) (task : Task) (now : DateTime) (mode : String)
    (details : JsonDict) : JsonDict :=
  [ ("executor", .str "CompactionExecutor"),
    ("mode", .str mode),
    ("dataset_uuid", .str dataset.datasetUuid),
    ("storage_uri", .str dataset.storageUri),
    ("threshold", threshold task) ] ++ details ++
    [("executed_at", .str (DateTime.isoformat now))]

/-- Compact the files of the dataset's lance table, with what the threshold holds for that. -/
def execute (context : ExecutorContext) (task : Task) (dataset : Dataset) (db : Database)
    (disk : Disk) : Execution Disk :=
  if context.lanceStorageEndpoint = "" then
    (.ok (payload dataset task context.now "stub"
      [("would_call", .str "lance.LanceDataset.optimize.compact_files")], db), disk)
  else
    match threshold task with
    | .dict entries =>
        let kept := entries.filter fun entry => entry.1 ∈ LANCE_COMPACT_KWARGS
        let ignored := (entries.map Prod.fst).filter fun key => key ∉ LANCE_COMPACT_KWARGS
        match LanceIo.compactFiles lance disk dataset.storageUri kept with
        | (.error e, disk) => (.error e, disk)
        | (.ok found, disk) =>
            (.ok (payload dataset task context.now "real"
              [ ("ignored_threshold_keys",
                  .list ((ignored.mergeSort fun a b => a ≤ b).map .str)),
                ("stats", .dict (stats found)) ], db), disk)
    | value =>
        (.error (.attributeError (pyRepr value.typeName ++ " object has no attribute 'items'")),
          disk)

theorem execute_rows {context : ExecutorContext} {task : Task} {dataset : Dataset}
    {db after : Database} {disk disk' : Disk} {answer : JsonDict}
    (ran : execute lance context task dataset db disk = (.ok (answer, after), disk')) :
    after = db := by
  unfold execute at ran
  split at ran
  · cases ran
    rfl
  · split at ran
    · simp only at ran
      split at ran
      · cases ran
      · cases ran
        rfl
    · cases ran

end CompactionExecutor

/-- The executor of COMPACTION tasks. -/
def compactionExecutor {Disk : Type} (lance : Pylance Disk) : LifecycleExecutor Disk where
  execute := CompactionExecutor.execute lance
  stamped _ ran := CompactionExecutor.execute_rows lance ran ▸ Stamped.refl _

/-! ## INDEX_OPTIMIZE -/

namespace IndexOptimizeExecutor

variable {Disk : Type} (lance : Pylance Disk)

/-- Best-effort `lance_version` of the task's parameters. -/
def extractLanceVersion (task : Task) : Option Int :=
  (Json.get? (task.params.getD []) "lance_version").bind fun value => value.toInt.toOption

/-- The rows an execution promotes. -/
def awaiting (dataset : Dataset) (index : Index) : Bool :=
  index.datasetUuid = dataset.datasetUuid ∧ index.status = .optimizing

/-- The assignments to one promoted row. -/
def promote (now : DateTime) (seenVersion : Option Int) (index : Index) : Index :=
  { index with
    status := .ready
    lastOptimizedAt := some now
    lastSeenVersion := match seenVersion with
      | some version => some version
      | none => index.lastSeenVersion }

/-- Promote every OPTIMIZING row of the dataset. -/
def promoteAll (now : DateTime) (seenVersion : Option Int) (dataset : Dataset) (db : Database) :
    Database :=
  { db with
    vectorIndex := db.vectorIndex.modify
      (fun index => if awaiting dataset index then promote now seenVersion index else index)
      fun index => by split <;> rfl }

def payload (context : ExecutorContext) (dataset : Dataset) (rows : List Index)
    (optimized : Option (Nat × Nat)) : JsonDict :=
  [ ("executor", .str "IndexOptimizeExecutor"),
    ("mode", .str "real"),
    ("dataset_uuid", .str dataset.datasetUuid),
    ("indexes_promoted", .list (rows.map fun index => .str index.indexName)),
    ("promoted_count", .int rows.length),
    ("executed_at", .str (DateTime.isoformat context.now)),
    ("gravitino_property_pushed_count", .int (rows.countP fun index =>
      context.pushIndexProperties dataset.dbSchema dataset.tableName index.indexName)) ] ++
    match optimized with
    | none => []
    | some (indexCount, version) =>
        [("lance_index_count", .int indexCount), ("post_optimize_version", .int version)]

/-- The lance half: nothing without an endpoint. -/
def optimize (context : ExecutorContext) (dataset : Dataset) (disk : Disk) :
    Except PyException (Option (Nat × Nat)) × Disk :=
  if context.lanceStorageEndpoint = "" then (.ok none, disk)
  else
    match LanceIo.optimizeIndices lance disk dataset.storageUri with
    | (.error e, disk) => (.error e, disk)
    | (.ok answer, disk) => (.ok (some answer), disk)

/-- The version that `last_seen_version` is pinned to. -/
def seenVersion (task : Task) : Option (Nat × Nat) → Option Int
  | some (_, postOptimizeVersion) => some postOptimizeVersion
  | none => extractLanceVersion task

/-- Rebuild delta indices, then promote OPTIMIZING rows to READY. -/
def execute (context : ExecutorContext) (task : Task) (dataset : Dataset) (db : Database)
    (disk : Disk) : Execution Disk :=
  match optimize lance context dataset disk with
  | (.error e, disk) => (.error e, disk)
  | (.ok optimized, disk) =>
      let rows := db.vectorIndex.rows.filter (awaiting dataset)
      (.ok (payload context dataset rows optimized,
        promoteAll context.now (seenVersion task optimized) dataset db), disk)

/-- Without an endpoint nothing is optimized; with one the answer is the version afterwards. -/
theorem optimize_eq_ok {context : ExecutorContext} {dataset : Dataset} {disk disk' : Disk}
    {optimized : Option (Nat × Nat)}
    (ran : optimize lance context dataset disk = (.ok optimized, disk')) :
    (context.lanceStorageEndpoint = "" ∧ optimized = none ∧ disk' = disk) ∨
      (context.lanceStorageEndpoint ≠ "" ∧ ∃ count version, optimized = some (count, version) ∧
        lance.latestVersion disk' dataset.storageUri = .ok version) := by
  unfold optimize at ran
  split at ran
  · rename_i stub
    cases ran
    exact .inl ⟨stub, rfl, rfl⟩
  · rename_i real
    refine .inr ⟨real, ?_⟩
    split at ran
    · cases ran
    · rename_i answer after answered
      cases ran
      unfold LanceIo.optimizeIndices at answered
      split at answered
      · cases answered
      · split at answered
        · cases answered
        · split at answered
          · cases answered
          · rename_i newVersion read
            cases answered
            exact ⟨_, newVersion, rfl, read⟩

/-- An execution that returns has optimized, and promotes rows. -/
theorem execute_eq_ok {context : ExecutorContext} {task : Task} {dataset : Dataset}
    {db after : Database} {disk disk' : Disk} {answer : JsonDict}
    (ran : execute lance context task dataset db disk = (.ok (answer, after), disk')) :
    ∃ optimized, optimize lance context dataset disk = (.ok optimized, disk') ∧
      after = promoteAll context.now (seenVersion task optimized) dataset db := by
  unfold execute at ran
  split at ran
  · cases ran
  · rename_i optimized _ answered
    cases ran
    exact ⟨optimized, answered, rfl⟩

theorem execute_rows {context : ExecutorContext} {task : Task} {dataset : Dataset}
    {db after : Database} {disk disk' : Disk} {answer : JsonDict}
    (ran : execute lance context task dataset db disk = (.ok (answer, after), disk')) :
    ∃ optimized, after = promoteAll context.now (seenVersion task optimized) dataset db := by
  obtain ⟨optimized, -, rows⟩ := execute_eq_ok lance ran
  exact ⟨optimized, rows⟩

end IndexOptimizeExecutor

/-- The executor of INDEX_OPTIMIZE tasks. -/
def indexOptimizeExecutor {Disk : Type} (lance : Pylance Disk) : LifecycleExecutor Disk where
  execute := IndexOptimizeExecutor.execute lance
  stamped := by
    intro context task dataset db disk payload after disk' parent ran
    obtain ⟨optimized, rfl⟩ := IndexOptimizeExecutor.execute_rows lance ran
    exact ⟨rfl, (Stamped.refl db).task⟩

/-! ## INDEX_BUILD -/

namespace IndexBuildExecutor

variable {Disk : Type} (lance : Pylance Disk)

def REQUIRED_PARAMS : List String := ["index_name", "column_name", "index_type"]

/-- What a task asks to build. -/
structure Build where
  indexName : Json
  columnName : Json
  indexType : Json
  indexParams : Json

/-- The required parameters, and the nested `params`, with an empty dictionary for a falsy one. -/
def parse (task : Task) : Except PyException Build :=
  let params := task.params.getD []
  let missing := REQUIRED_PARAMS.filter fun key => !(Json.get? params key).any Json.truthy
  if missing ≠ [] then
    .error (.valueError ("INDEX_BUILD task is missing required params: " ++ pyReprList missing))
  else
    .ok
      { indexName := (Json.get? params "index_name").getD .null
        columnName := (Json.get? params "column_name").getD .null
        indexType := (Json.get? params "index_type").getD .null
        indexParams := ((Json.get? params "params").filter Json.truthy).getD (.dict []) }

/-- The assignments to the built row, whatever its status was. -/
def promote (now : DateTime) (index : Index) : Index :=
  { index with status := .ready, lastOptimizedAt := some now }

theorem id_promote (now : DateTime) (index : Index) : (promote now index).id = index.id := rfl

/-- The keyword arguments that the call of `create_index` passes by itself. -/
def ownKeywords : List String := ["column", "index_type", "storage_options", "replace"]

/-- The lance half, with the index parameters spread as keyword arguments. -/
def build (dataset : Dataset) (args : Build) (disk : Disk) :
    Except PyException JsonDict × Disk :=
  match args.indexParams with
  | .dict indexParams =>
      match (indexParams.map Prod.fst).find? fun key => key ∈ ownKeywords with
      | some key =>
          (.error (.typeError ("asyncio.threads.to_thread() got multiple values for keyword " ++
            "argument " ++ pyRepr key)), disk)
      | none =>
          if "uri" ∈ indexParams.map Prod.fst then
            (.error (.typeError "create_index() got multiple values for argument 'uri'"), disk)
          else
            LanceIo.createIndex lance disk dataset.storageUri args.columnName args.indexType true
              indexParams
  | value =>
      (.error (.typeError ("asyncio.threads.to_thread() argument after ** must be a mapping, " ++
        "not " ++ value.typeName)), disk)

def payload (context : ExecutorContext) (dataset : Dataset) (args : Build) (mode : String)
    (details : String × Json) : JsonDict :=
  [ ("executor", .str "IndexBuildExecutor"),
    ("mode", .str mode),
    ("dataset_uuid", .str dataset.datasetUuid),
    ("storage_uri", .str dataset.storageUri),
    ("index_name", args.indexName),
    ("column_name", args.columnName),
    ("index_type", args.indexType),
    ("index_params", args.indexParams),
    details,
    ("executed_at", .str (DateTime.isoformat context.now)),
    ("gravitino_property_pushed", .bool
      (context.pushIndexProperties dataset.dbSchema dataset.tableName
        (args.indexName.pyStr context.floatRepr))) ]

/-- The row that the task names: `scalar_one_or_none()` of the select by name. -/
def find (context : ExecutorContext) (dataset : Dataset) (indexName : Json) (db : Database) :
    Except PyException (Option Index) :=
  match indexName with
  | .str name => .ok (IndexService.maybeGetIndex dataset.datasetUuid name db)
  | value => do
      let same ← context.compareText value
      match db.vectorIndex.rows.filter fun index =>
          index.datasetUuid = dataset.datasetUuid ∧ same index.indexName with
      | [] => return none
      | [row] => return some row
      | _ :: _ :: _ =>
          .error ⟨"MultipleResultsFound",
            "Multiple rows were found when one or none was required"⟩

/-- The rows after the promotion of one row. -/
def promoteRow (now : DateTime) (row : Index) (db : Database) : Database :=
  IndexService.updateIndex row.id (promote now) (id_promote now) db

/-- Build the index, then promote the row that the task names. -/
def execute (context : ExecutorContext) (task : Task) (dataset : Dataset) (db : Database)
    (disk : Disk) : Execution Disk :=
  match parse task with
  | .error e => (.error e, disk)
  | .ok args =>
      match find context dataset args.indexName db with
      | .error e => (.error e, disk)
      | .ok none =>
          (.error (.valueError ("INDEX_BUILD target index not found: " ++ dataset.datasetUuid ++
            "/" ++ args.indexName.pyStr context.floatRepr)), disk)
      | .ok (some row) =>
          if context.lanceStorageEndpoint = "" then
            (.ok (payload context dataset args "stub"
              ("would_call", .str "lance.LanceDataset.create_index"),
              promoteRow context.now row db), disk)
          else
            match build lance dataset args disk with
            | (.error e, disk) => (.error e, disk)
            | (.ok descriptor, disk) =>
                (.ok (payload context dataset args "real" ("lance_descriptor", .dict descriptor),
                  promoteRow context.now row db), disk)

/-- A task that parses names its index by its `index_name`. -/
theorem indexName_of_parse {task : Task} {args : Build} (parsed : parse task = .ok args) :
    args.indexName = (Json.get? (task.params.getD []) "index_name").getD .null := by
  simp only [parse] at parsed
  split at parsed
  · cases parsed
  · cases parsed
    rfl

/-- The row that is found is one of the dataset, and under the name if that is text. -/
theorem find_eq_some {context : ExecutorContext} {dataset : Dataset} {indexName : Json}
    {db : Database} {row : Index} (found : find context dataset indexName db = .ok (some row)) :
    row ∈ db.vectorIndex.rows ∧ row.datasetUuid = dataset.datasetUuid ∧
      ∀ name, indexName = .str name → row.indexName = name := by
  unfold find at found
  split at found
  · rename_i name
    obtain ⟨member, owner, named⟩ :=
      IndexService.maybeGetIndex_eq_some (Except.ok.inj found)
    refine ⟨member, owner, fun other same => ?_⟩
    cases same
    exact named
  · rename_i value noText
    obtain ⟨same, -, found⟩ := bind_eq_ok found
    split at found
    · cases found
    · rename_i only selected
      cases found
      have member : row ∈ [row] := List.mem_singleton.2 rfl
      rw [← selected] at member
      obtain ⟨inTable, matches_⟩ := List.mem_filter.1 member
      have owner : row.datasetUuid = dataset.datasetUuid := (of_decide_eq_true matches_).1
      exact ⟨inTable, owner, fun name text => absurd text (noText name)⟩
    · cases found

/-- A build that returns promoted the row its task names, and built it unless it is a stub. -/
theorem execute_eq_ok {context : ExecutorContext} {task : Task} {dataset : Dataset}
    {db after : Database} {disk disk' : Disk} {answer : JsonDict}
    (ran : execute lance context task dataset db disk = (.ok (answer, after), disk')) :
    ∃ args row, parse task = .ok args ∧
      find context dataset args.indexName db = .ok (some row) ∧
      after = promoteRow context.now row db ∧
      ((context.lanceStorageEndpoint = "" ∧ disk' = disk) ∨
        (context.lanceStorageEndpoint ≠ "" ∧
          ∃ descriptor, build lance dataset args disk = (.ok descriptor, disk'))) := by
  unfold execute at ran
  split at ran
  · cases ran
  · rename_i args parsed
    split at ran
    · cases ran
    · cases ran
    · rename_i row found
      split at ran
      · rename_i stub
        cases ran
        exact ⟨args, row, parsed, found, rfl, .inl ⟨stub, rfl⟩⟩
      · rename_i real
        split at ran
        · cases ran
        · rename_i descriptor _ built
          cases ran
          exact ⟨args, row, parsed, found, rfl, .inr ⟨real, descriptor, built⟩⟩

/-- The lance half of a build that returns is one `create_index` that replaces. -/
theorem build_eq_ok {dataset : Dataset} {args : Build} {disk disk' : Disk} {answer : JsonDict}
    (built : build lance dataset args disk = (.ok answer, disk')) :
    ∃ indexParams, args.indexParams = .dict indexParams ∧
      LanceIo.createIndex lance disk dataset.storageUri args.columnName args.indexType true
        indexParams = (.ok answer, disk') := by
  unfold build at built
  split at built
  · rename_i indexParams isDict
    split at built
    · cases built
    · split at built
      · cases built
      · exact ⟨indexParams, isDict, built⟩
  · cases built

theorem build_error {dataset : Dataset} {args : Build} {disk disk' : Disk} {e : PyException}
    (built : build lance dataset args disk = (.error e, disk')) : disk' = disk := by
  unfold build at built
  split at built
  · split at built
    · cases built
      rfl
    · split at built
      · cases built
        rfl
      · exact LanceIo.createIndex_error built
  · cases built
    rfl

/-- An execution that raises built nothing. -/
theorem execute_error {context : ExecutorContext} {task : Task} {dataset : Dataset}
    {db : Database} {disk disk' : Disk} {e : PyException}
    (ran : execute lance context task dataset db disk = (.error e, disk')) : disk' = disk := by
  unfold execute at ran
  split at ran
  · cases ran
    rfl
  · split at ran
    · cases ran
      rfl
    · cases ran
      rfl
    · split at ran
      · cases ran
      · split at ran
        · rename_i built
          cases ran
          exact build_error lance built
        · cases ran

end IndexBuildExecutor

/-- The executor of INDEX_BUILD tasks. -/
def indexBuildExecutor {Disk : Type} (lance : Pylance Disk) : LifecycleExecutor Disk where
  execute := IndexBuildExecutor.execute lance
  stamped := by
    intro context task dataset db disk payload after disk' parent ran
    obtain ⟨args, row, -, -, rfl, -⟩ := IndexBuildExecutor.execute_eq_ok lance ran
    exact ⟨rfl, (Stamped.refl db).task⟩

/-! ## VECTORIZE -/

namespace VectorizationExecutor

/-- What an execution comes to: a payload of its own, or a call of `_vectorize_sync`. -/
inductive Plan where
  | finished (payload : JsonDict)
  | embed (call : VectorizeCall)

/-- The value of `value or default`. -/
def orDefault (value : Json) (default : String) : Json :=
  if value.truthy then value else .str default

/-- The rule-level `extra`, with an empty dictionary for a falsy one. -/
def ruleExtra (params : JsonDict) : Except PyException JsonDict :=
  let extra := Json.getOr params "extra" .null
  if !extra.truthy then .ok []
  else
    match extra with
    | .dict entries => .ok entries
    | value =>
        .error (.attributeError (pyRepr value.typeName ++ " object has no attribute 'get'"))

/-- Resolve the parameters of the task against the settings. -/
def plan (context : ExecutorContext) (task : Task) (dataset : Dataset) :
    Except PyException Plan := do
  let params := task.params.getD []
  let targetColumn := Json.getOr params "target_column" (.str "vector")
  let sourceColumns := Json.getOr params "source_columns" (.list [])
  let modelName := Json.getOr params "model_name" (.str "default")
  let modelEndpoint := Json.getOr params "model_endpoint" (.str "")
  let batchSize ← (Json.getOr params "batch_size" (.int 64)).toInt
  if !sourceColumns.truthy then
    return .finished [("error", .str "no source_columns specified"), ("rows_processed", .int 0)]
  else
    let endpoint := orDefault modelEndpoint context.embeddingDefaultEndpoint
    if !endpoint.truthy then
      return .finished
        [("error", .str "no embedding endpoint configured"), ("rows_processed", .int 0)]
    else
      let extra ← ruleExtra params
      return .embed
        { uri := dataset.storageUri
          targetColumn
          sourceColumns
          modelName
          endpoint
          batchSize
          timeout := context.embeddingRequestTimeoutSeconds
          apiKey := orDefault (Json.getOr extra "api_key" .null) context.embeddingApiKey
          apiKeyHeader :=
            orDefault (Json.getOr extra "api_key_header" .null) context.embeddingApiKeyHeader }

/-- Compute embeddings for unvectorized rows and write them back. -/
def execute {Disk : Type} (context : ExecutorContext) (task : Task) (dataset : Dataset)
    (db : Database) (disk : Disk) : Execution Disk :=
  match plan context task dataset with
  | .error e => (.error e, disk)
  | .ok (.finished payload) => (.ok (payload, db), disk)
  | .ok (.embed call) => ((context.vectorizeSync call).map fun payload => (payload, db), disk)

theorem execute_rows {Disk : Type} {context : ExecutorContext} {task : Task} {dataset : Dataset}
    {db after : Database} {disk disk' : Disk} {answer : JsonDict}
    (ran : execute context task dataset db disk = (.ok (answer, after), disk')) :
    after = db := by
  unfold execute at ran
  split at ran
  · cases ran
  · cases ran
    rfl
  · rename_i call _
    cases synced : context.vectorizeSync call with
    | error e =>
        rw [synced] at ran
        cases ran
    | ok payload =>
        rw [synced] at ran
        cases ran
        rfl

end VectorizationExecutor

/-- The executor of VECTORIZE tasks. -/
def vectorizationExecutor {Disk : Type} : LifecycleExecutor Disk where
  execute := VectorizationExecutor.execute
  stamped _ ran := VectorizationExecutor.execute_rows ran ▸ Stamped.refl _

end Lcp
