/-
# Sessions.IndexRows -- the writers of `vector_index`, statement by statement

Seven calls write the status of an index row, each in a session of its own: the
four of the index service (two of which write it once more when their submission
raises), the watcher, and the executors of INDEX_BUILD and INDEX_OPTIMIZE inside a
worker's iteration.

As on the other tables a SELECT copies committed rows into the session, the code
tests and modifies the copies, and an UPDATE by primary key writes the columns in
which they differ.  An executor calls lance between its SELECT and its UPDATE, and
the watcher between two emissions, so a copy can be old when it is written.

Which candidates of a watch pass fire is a label of the SELECT.  An INSERT that a
unique key refuses rolls its session back; here that is found at the commit.  A
call that raises leaves its session idle.
-/
import Lcp.Services.IndexWatcherService
import Lcp.Sessions.Model
import Lcp.Workers.Executors

namespace Lcp

open Theory

set_option autoImplicit false

/-- The UPDATE of an index row from a loaded and a modified copy. -/
def Index.flush (loaded modified row : Index) : Index :=
  { row with
    status := flushed loaded.status modified.status row.status
    lastOptimizedAt :=
      flushed loaded.lastOptimizedAt modified.lastOptimizedAt row.lastOptimizedAt
    lastMergedAt := flushed loaded.lastMergedAt modified.lastMergedAt row.lastMergedAt
    lastSeenVersion :=
      flushed loaded.lastSeenVersion modified.lastSeenVersion row.lastSeenVersion
    errorMessage := flushed loaded.errorMessage modified.errorMessage row.errorMessage }

theorem Index.id_flush (loaded modified row : Index) :
    (Index.flush loaded modified row).id = row.id := rfl

namespace IndexRows

/-! ## Calls -/

/-- A call that passed its checks, with the copies it made them on. -/
inductive Call where
  | create (existing : Option Index) (row : Index)
  /-- The submission of a `create_index` or `optimize_index` raised. -/
  | giveUp (copy : Index) (status : IndexStatus) (cause : String)
  | drop (copy : Index)
  | optimize (copy : Index) (now : DateTime)
  | merge (copy : Index) (now : DateTime)
  /-- The emissions of a watch pass. -/
  | watch (copies : List Index) (now : DateTime)
  /-- The promotion of INDEX_BUILD. -/
  | build (copy : Index) (now : DateTime)
  /-- The promotions of INDEX_OPTIMIZE. -/
  | promote (copies : List Index) (now : DateTime) (seenVersion : Option Int)

/-- One writing statement. -/
inductive Statement where
  | update (loaded modified : Index)
  | delete (id : Nat)
  | insert (row : Index)

/-- The statements of the call, in the order the session issues them. -/
def Call.statements : Call → List Statement
  | .create existing row =>
      (existing.map fun index => Statement.delete index.id).toList ++ [.insert row]
  | .giveUp copy status cause => [.update copy (copy.giveUp status cause)]
  | .drop copy => [.update copy copy.drop]
  | .optimize copy now => [.update copy (copy.startOptimize now)]
  | .merge copy now => [.update copy (copy.startMerge now)]
  | .watch copies now =>
      copies.map fun copy => .update copy (IndexWatcherService.startOptimize now copy)
  | .build copy now => [.update copy (IndexBuildExecutor.promote now copy)]
  | .promote copies now seenVersion =>
      copies.map fun copy => .update copy (IndexOptimizeExecutor.promote now seenVersion copy)

def Call.isBuild : Call → Bool
  | .build .. => true
  | _ => false

/-- The row a statement locks. -/
def Statement.target : Statement → Nat
  | .update loaded _ => loaded.id
  | .delete id => id
  | .insert row => row.id

/-- The rows after a statement; `none` is the `IntegrityError` of an INSERT. -/
def Statement.apply (db : Database) : Statement → Option Database
  | .update loaded modified =>
      some (IndexService.updateIndex loaded.id (Index.flush loaded modified)
        (Index.id_flush loaded modified) db)
  | .delete id =>
      some { db with vectorIndex := db.vectorIndex.delete fun index => index.id = id }
  | .insert row => IndexService.insertIndex row db

/-! ## Sessions -/

/-- Where a session is. -/
inductive Session where
  | idle
  /-- The checks passed; so many statements are issued. -/
  | writing (call : Call) (issued : Nat)
  /-- The row is committed, its refresh is not done; `status` is what a failed submission
  would write. -/
  | committed (id : Nat) (status : IndexStatus)
  /-- The submission runs; the session holds the refreshed copy. -/
  | submitting (copy : Index) (status : IndexStatus)

/-- Where a session goes on after the commit of a call. -/
def Call.next : Call → Session
  | .create _ row => .committed row.id .failed
  | .optimize copy _ => .committed copy.id .ready
  | _ => .idle

/-- Committed rows, row locks and sessions. -/
structure World where
  db : Database
  lock : RowLocks Nat Nat := .none_
  session : Nat → Session := fun _ => .idle

/-- A statement or a commit of session `i`, with the arguments of the call that it
begins and what the call draws from outside. -/
inductive Action where
  | create (i : Nat) (principal : Option TenantPrincipal) (newId : Nat)
      (args : IndexService.Creation)
  | drop (i : Nat) (principal : Option TenantPrincipal) (datasetUuid indexName : String)
  | optimize (i : Nat) (principal : Option TenantPrincipal) (now : DateTime)
      (datasetUuid indexName : String)
  | merge (i : Nat) (principal : Option TenantPrincipal) (now : DateTime)
      (datasetUuid indexName : String)
  | watch (i : Nat) (fires : Index → Bool) (now : DateTime)
  | build (i : Nat) (taskUuid : String) (context : ExecutorContext)
  | promote (i : Nat) (taskUuid : String) (now : DateTime) (seenVersion : Option Int)
  | issue (i : Nat)
  | commit (i : Nat)
  | refresh (i : Nat)
  | submissionRaised (i : Nat) (cause : String)
  | close (i : Nat)
  /-- The rest of the control plane: whatever it writes, it writes other tables. -/
  | elsewhere (others : Database)

/-! ## What the checks lead to -/

/-- The SELECTs of `create_index`. -/
def beginCreate (db : Database) (principal : Option TenantPrincipal) (newId : Nat)
    (args : IndexService.Creation) : Session :=
  match DatasetService.getDataset principal args.datasetUuid db with
  | .error _ => .idle
  | .ok _ =>
      let existing :=
        if args.replaceIfExists then
          IndexService.maybeGetIndex args.datasetUuid args.indexName db
        else none
      .writing (.create existing (args.row newId)) 0

/-- The SELECT and the test of `drop_index`. -/
def beginDrop (db : Database) (principal : Option TenantPrincipal)
    (datasetUuid indexName : String) : Session :=
  match IndexService.getIndex principal datasetUuid indexName db with
  | .error _ => .idle
  | .ok copy => if copy.status = .dropped then .idle else .writing (.drop copy) 0

/-- The SELECT and the test of `optimize_index`. -/
def beginOptimize (db : Database) (principal : Option TenantPrincipal) (now : DateTime)
    (datasetUuid indexName : String) : Session :=
  match IndexService.getIndex principal datasetUuid indexName db with
  | .error _ => .idle
  | .ok copy => if copy.status ≠ .ready then .idle else .writing (.optimize copy now) 0

/-- The SELECT and the test of `merge_index`. -/
def beginMerge (db : Database) (principal : Option TenantPrincipal) (now : DateTime)
    (datasetUuid indexName : String) : Session :=
  match IndexService.getIndex principal datasetUuid indexName db with
  | .error _ => .idle
  | .ok copy => if copy.status ≠ .ready then .idle else .writing (.merge copy now) 0

/-- The SELECT of a watch pass: READY rows with a watching policy, of which some will fire. -/
def beginWatch (db : Database) (fires : Index → Bool) (now : DateTime) : Session :=
  .writing (.watch (db.vectorIndex.rows.filter fun index =>
    decide (index.status = .ready) && !(IndexWatcherService.joined db index).isEmpty &&
      fires index) now) 0

/-- A claimed task of a type, with its dataset. -/
def execution (db : Database) (taskType : TaskType) (taskUuid : String) :
    Option (Task × Dataset) := do
  let task ← db.task.get taskUuid
  let dataset ← db.dataset.get task.datasetUuid
  if task.taskType = taskType then return (task, dataset) else none

/-- The SELECT of INDEX_BUILD; the row's status is not looked at. -/
def beginBuild (db : Database) (taskUuid : String) (context : ExecutorContext) : Session :=
  match execution db .indexBuild taskUuid with
  | none => .idle
  | some (task, dataset) =>
      match IndexBuildExecutor.parse task with
      | .error _ => .idle
      | .ok args =>
          match IndexBuildExecutor.find context dataset args.indexName db with
          | .error _ | .ok none => .idle
          | .ok (some copy) => .writing (.build copy context.now) 0

/-- The SELECT of INDEX_OPTIMIZE. -/
def beginPromote (db : Database) (taskUuid : String) (now : DateTime)
    (seenVersion : Option Int) : Session :=
  match execution db .indexOptimize taskUuid with
  | none => .idle
  | some (_, dataset) =>
      .writing (.promote (db.vectorIndex.rows.filter (IndexOptimizeExecutor.awaiting dataset))
        now seenVersion) 0

/-! ## Steps -/

namespace World

/-- Move session `i`. -/
def set (s : World) (i : Nat) (session : Session) : World :=
  { s with session := Function.update s.session i session }

/-- Give back the locks of session `i` and move it. -/
def leave (s : World) (i : Nat) (session : Session) : World :=
  { s with lock := s.lock.release i, session := Function.update s.session i session }

/-- Session `i` begins a call. -/
def start (s : World) (i : Nat) (session : Session) : Option World :=
  match s.session i with
  | .idle => some (s.set i session)
  | _ => none

end World

open World

/-- One statement or commit; `none` when the session is not there or has to wait. -/
def step (s : World) : Action → Option World
  | .create i principal newId args =>
      -- AUTO_INCREMENT gives no id twice.
      if s.db.vectorIndex.get newId = none then
        s.start i (beginCreate s.db principal newId args)
      else none
  | .drop i principal datasetUuid indexName =>
      s.start i (beginDrop s.db principal datasetUuid indexName)
  | .optimize i principal now datasetUuid indexName =>
      s.start i (beginOptimize s.db principal now datasetUuid indexName)
  | .merge i principal now datasetUuid indexName =>
      s.start i (beginMerge s.db principal now datasetUuid indexName)
  | .watch i fires now => s.start i (beginWatch s.db fires now)
  | .build i taskUuid context => s.start i (beginBuild s.db taskUuid context)
  | .promote i taskUuid now seenVersion => s.start i (beginPromote s.db taskUuid now seenVersion)
  | .issue i =>
      match s.session i with
      | .writing call issued =>
          match call.statements[issued]? with
          | some statement =>
              if s.lock.openTo i statement.target = true then
                some ({ s with lock := s.lock.acquire i [statement.target] }.set i
                  (.writing call (issued + 1)))
              else none
          | none => none
      | _ => none
  | .commit i =>
      match s.session i with
      | .writing call issued =>
          if issued = call.statements.length then
            match call.statements.foldlM Statement.apply s.db with
            | some after => some ({ s with db := after }.leave i call.next)
            | none => some (s.leave i .idle)
          else none
      | _ => none
  | .refresh i =>
      match s.session i with
      | .committed id status =>
          match s.db.vectorIndex.get id with
          | some row => some (s.set i (.submitting row status))
          | none => some (s.set i .idle)
      | _ => none
  | .submissionRaised i cause =>
      match s.session i with
      | .submitting copy status => some (s.set i (.writing (.giveUp copy status cause) 0))
      | _ => none
  | .close i => some (s.leave i .idle)
  | .elsewhere others =>
      some { s with db := { others with vectorIndex := s.db.vectorIndex } }

/-- Runs of the writers of index rows, in every interleaving. -/
def indexRows : Machine World Action where
  step := step

/-- Rows at rest: no session has begun and no row is locked. -/
def atRest (db : Database) : World := { db }

end IndexRows

end Lcp
