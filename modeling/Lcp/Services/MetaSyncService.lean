/-
# Services.MetaSyncService -- reconciling a Gravitino catalog with the dataset rows

`reconcile_schema` walks the filesets of a schema in one session: a fileset without a row of
the tenant is inserted, one with a row updates it, and the commit comes last.  A SELECT
first sends what is pending, so a refused INSERT comes up at the next fileset or at the
commit; either way nothing of the schema is committed.  `reconcile_all` does one schema
after the other.

* `reconcileNames`, `reconcileSchema`, `reconcileAll` -- the code, in its session.
* `syncNames`, `syncSchema`, `syncAll` -- the same with every write sent at once.
* `reconcileSchema_realizes`, `reconcileAll_concludes` -- the session comes to no more than that.
-/
import Lcp.Integrations.Gravitino
import Lcp.Services.DatasetService
import Lcp.Theory.UnitOfWork

namespace Lcp

open Theory Gravitino

set_option autoImplicit false

namespace Dataset

/-- The location is there and differs. -/
def storageDiverged (fileset : Fileset) (dataset : Dataset) : Bool :=
  fileset.storageLocation ≠ "" ∧ dataset.storageUri ≠ fileset.storageLocation

/-- The comment is there, not empty, and differs. -/
def commentDiverged (fileset : Fileset) (dataset : Dataset) : Bool :=
  fileset.comment.getD "" ≠ "" ∧ dataset.description ≠ fileset.comment

def diverged (fileset : Fileset) (dataset : Dataset) : Bool :=
  dataset.storageDiverged fileset || dataset.commentDiverged fileset

/-- The assignments to an existing row. -/
def assign (fileset : Fileset) (dataset : Dataset) : Dataset :=
  { dataset with
    storageUri :=
      if dataset.storageDiverged fileset then fileset.storageLocation else dataset.storageUri
    description :=
      if dataset.commentDiverged fileset then fileset.comment else dataset.description }

theorem datasetUuid_assign (fileset : Fileset) (dataset : Dataset) :
    (dataset.assign fileset).datasetUuid = dataset.datasetUuid := rfl

end Dataset

namespace MetaSyncService

/-- Outcome of a reconciliation pass. -/
structure MetaSyncResult where
  schemasScanned : Nat := 0
  filesetsDiscovered : Nat := 0
  datasetsCreated : Nat := 0
  datasetsUpdated : Nat := 0
  errors : List String := []
deriving DecidableEq

/-- What a pass raises. -/
inductive SyncError where
  | client (e : ClientError)
  /-- The database refuses an INSERT or an UPDATE. -/
  | integrity
  | multipleResults
deriving DecidableEq

abbrev Session := UnitOfWork Database SyncError

/-- What a pass is called with, and what it meets. -/
structure Sync where
  /-- The principal that is bound in the request. -/
  caller : TenantPrincipal
  tenantId : String
  client : GravitinoClient
  /-- The `uuid4` drawn for a fileset of a schema. -/
  newUuid : String → String → String
  /-- The rows that the database refuses, apart from what its UNIQUE keys refuse. -/
  refuses : Dataset → Bool

/-- At most one row is expected. -/
def scalarOneOrNone {α : Type} : List α → Except SyncError (Option α)
  | [] => .ok none
  | [row] => .ok (some row)
  | _ => .error .multipleResults

section Passes

variable (sync : Sync) (dryRun : Bool) (schema : String)

/-- The key of a fileset's row, and its tenant. -/
def Sync.owns (name : String) (dataset : Dataset) : Bool :=
  (dataset.catalog, dataset.dbSchema, dataset.tableName) = (sync.client.catalog, schema, name) ∧
    dataset.tenantId = sync.tenantId

/-- The existing row, among those that the principal sees. -/
def Sync.find (name : String) (db : Database) : Except SyncError (Option Dataset) :=
  scalarOneOrNone (db.dataset.rows.filter fun dataset =>
    sync.caller.sees dataset.tenantId && sync.owns schema name dataset)

/-- The row of a new fileset. -/
def Sync.row (name : String) (fileset : Fileset) : Dataset :=
  { datasetUuid := sync.newUuid schema name
    catalog := sync.client.catalog
    dbSchema := schema
    tableName := name
    storageUri := fileset.storageLocation
    tenantId := sync.tenantId
    description := fileset.comment
    status := .active }

/-- The INSERT of a flush. -/
def Sync.insert (dataset : Dataset) : Write Database SyncError := fun db =>
  if sync.refuses dataset then .error .integrity
  else
    match DatasetService.insertDataset dataset db with
    | some after => .ok after
    | none => .error .integrity

/-- The UPDATE of a flush. -/
def Sync.update (fileset : Fileset) (existing : Dataset) : Write Database SyncError := fun db =>
  if sync.refuses (existing.assign fileset) then .error .integrity
  else
    .ok { db with
      dataset := db.dataset.update existing.datasetUuid (Dataset.assign fileset)
        (Dataset.datasetUuid_assign fileset) }

/-- One fileset: the SELECT sends what is pending, then the row is added or changed. -/
def reconcileFileset (name : String) (fileset : Fileset) (result : MetaSyncResult)
    (session : Session) : Except SyncError MetaSyncResult × Session :=
  match session.flush with
  | (.error e, session) => (.error e, session)
  | (.ok (), session) =>
      match sync.find schema name session.flushed with
      | .error e => (.error e, session)
      | .ok none =>
          (.ok { result with datasetsCreated := result.datasetsCreated + 1 },
            if dryRun then session else session.add (sync.insert (sync.row schema name fileset)))
      | .ok (some existing) =>
          if existing.diverged fileset then
            (.ok { result with datasetsUpdated := result.datasetsUpdated + 1 },
              if dryRun then session else session.add (sync.update fileset existing))
          else (.ok result, session)

/-- The loop of a schema; a `GravitinoAPIError` is noted and skipped. -/
def reconcileNames :
    List String → MetaSyncResult → Session → Except SyncError MetaSyncResult × Session
  | [], result, session => (.ok result, session)
  | name :: rest, result, session =>
      match sync.client.getFileset schema name with
      | .error (.api statusCode detail) =>
          reconcileNames rest
            { result with
              errors := result.errors ++ ["get_fileset(" ++ schema ++ "/" ++ name ++ "): " ++
                (ClientError.api statusCode detail).text] } session
      | .error e => (.error (.client e), session)
      | .ok fileset =>
          match reconcileFileset sync dryRun schema name fileset result session with
          | (.error e, session) => (.error e, session)
          | (.ok result, session) => reconcileNames rest result session

/-- Reconcile all filesets in one schema. -/
def reconcileSchema (session : Session) : Except SyncError MetaSyncResult × Session :=
  match sync.client.listFilesets schema with
  | .error (.other e) => (.error (.client (.other e)), session)
  | .error e =>
      (.ok { errors := ["list_filesets(" ++ schema ++ "): " ++ e.text] }, session)
  | .ok names =>
      match reconcileNames sync dryRun schema names { filesetsDiscovered := names.length }
          session with
      | (.error e, session) => (.error e, session)
      | (.ok result, session) =>
          if dryRun then (.ok result, session)
          else
            match session.commit with
            | (.error e, session) => (.error e, session)
            | (.ok (), session) => (.ok result, session)

end Passes

/-- The totals after one more schema. -/
def MetaSyncResult.add (total one : MetaSyncResult) : MetaSyncResult :=
  { schemasScanned := total.schemasScanned
    filesetsDiscovered := total.filesetsDiscovered + one.filesetsDiscovered
    datasetsCreated := total.datasetsCreated + one.datasetsCreated
    datasetsUpdated := total.datasetsUpdated + one.datasetsUpdated
    errors := total.errors ++ one.errors }

section Passes

variable (sync : Sync) (dryRun : Bool)

/-- The loop of a catalog. -/
def reconcileSchemas :
    List String → MetaSyncResult → Session → Except SyncError MetaSyncResult × Session
  | [], total, session => (.ok total, session)
  | schema :: rest, total, session =>
      match reconcileSchema sync dryRun schema session with
      | (.error e, session) => (.error e, session)
      | (.ok result, session) => reconcileSchemas rest (total.add result) session

/-- Reconcile all schemas in the configured catalog. -/
def reconcileAll (session : Session) : Except SyncError MetaSyncResult × Session :=
  match sync.client.listSchemas with
  | .error (.other e) => (.error (.client (.other e)), session)
  | .error e => (.ok { errors := ["list_schemas: " ++ e.text] }, session)
  | .ok schemas =>
      reconcileSchemas sync dryRun schemas { schemasScanned := schemas.length } session

/-! ## Writes sent at once -/

/-- One fileset, on the rows themselves. -/
def syncFileset (schema name : String) (fileset : Fileset) (db : Database)
    (result : MetaSyncResult) : Except SyncError (Database × MetaSyncResult) :=
  match sync.find schema name db with
  | .error e => .error e
  | .ok none =>
      (if dryRun then .ok db else sync.insert (sync.row schema name fileset) db).map
        fun after => (after, { result with datasetsCreated := result.datasetsCreated + 1 })
  | .ok (some existing) =>
      if existing.diverged fileset then
        (if dryRun then .ok db else sync.update fileset existing db).map
          fun after => (after, { result with datasetsUpdated := result.datasetsUpdated + 1 })
      else .ok (db, result)

/-- The filesets of a schema. -/
def syncNames (schema : String) :
    List String → Database → MetaSyncResult → Except SyncError (Database × MetaSyncResult)
  | [], db, result => .ok (db, result)
  | name :: rest, db, result =>
      match sync.client.getFileset schema name with
      | .error (.api statusCode detail) =>
          syncNames schema rest db
            { result with
              errors := result.errors ++ ["get_fileset(" ++ schema ++ "/" ++ name ++ "): " ++
                (ClientError.api statusCode detail).text] }
      | .error e => .error (.client e)
      | .ok fileset =>
          (syncFileset sync dryRun schema name fileset db result).bind fun (after, result) =>
            syncNames schema rest after result

/-- A schema. -/
def syncSchema (schema : String) (db : Database) : Except SyncError (Database × MetaSyncResult) :=
  match sync.client.listFilesets schema with
  | .error (.other e) => .error (.client (.other e))
  | .error e => .ok (db, { errors := ["list_filesets(" ++ schema ++ "): " ++ e.text] })
  | .ok names => syncNames sync dryRun schema names db { filesetsDiscovered := names.length }

def syncSchemas :
    List String → Database → MetaSyncResult → Except SyncError (Database × MetaSyncResult)
  | [], db, total => .ok (db, total)
  | schema :: rest, db, total =>
      (syncSchema sync dryRun schema db).bind fun (after, result) =>
        syncSchemas rest after (total.add result)

/-- A catalog. -/
def syncAll (db : Database) : Except SyncError (Database × MetaSyncResult) :=
  match sync.client.listSchemas with
  | .error (.other e) => .error (.client (.other e))
  | .error e => .ok (db, { errors := ["list_schemas: " ++ e.text] })
  | .ok schemas => syncSchemas sync dryRun schemas db { schemasScanned := schemas.length }

end Passes

/-! ## The session comes to the same -/

/-- The session has committed everything. -/
def Rested (session : Session) (db : Database) : Prop :=
  session.committed = db ∧ session.applied = .ok db

theorem rested_begin (db : Database) : Rested (.begin db) db := ⟨rfl, rfl⟩

/-- A loop in a session against the same loop with its writes sent at once: nothing is committed
by either, the results are equal, and a refused write is still to come up. -/
def Follows (dryRun : Bool) (session : Session)
    (sent : Except SyncError (Database × MetaSyncResult))
    (ran : Except SyncError MetaSyncResult × Session) : Prop :=
  ran.2.committed = session.committed ∧
    match sent with
    | .ok (db, result) => ran.1 = .ok result ∧ ran.2.applied = .ok db
    | .error _ => ∀ result, ran.1 = .ok result → dryRun = false ∧ ∃ e, ran.2.applied = .error e

/-- A session against a pass over the rows: what the one returns and commits, or that it raises
and commits nothing. -/
def Realizes (db : Database) (sent : Except SyncError (Database × MetaSyncResult))
    (ran : Except SyncError MetaSyncResult × Session) : Prop :=
  match sent with
  | .ok (after, result) => ran.1 = .ok result ∧ Rested ran.2 after
  | .error _ => (∃ e, ran.1 = .error e) ∧ ran.2.committed = db

/-- A session against a pass of several commits. -/
def Concludes (sent : Except SyncError (Database × MetaSyncResult))
    (ran : Except SyncError MetaSyncResult × Session) : Prop :=
  match sent with
  | .ok (after, total) => ran.1 = .ok total ∧ Rested ran.2 after
  | .error _ => ∃ e, ran.1 = .error e

section Sessions

variable {sync : Sync} {dryRun : Bool} {schema : String}

theorem Follows.of_committed {session next : Session}
    {sent : Except SyncError (Database × MetaSyncResult)}
    {ran : Except SyncError MetaSyncResult × Session} (same : next.committed = session.committed)
    (follows : Follows dryRun next sent ran) : Follows dryRun session sent ran :=
  ⟨follows.1.trans same, follows.2⟩

theorem follows_error {session next : Session} {e : SyncError}
    {sent : Except SyncError (Database × MetaSyncResult)}
    (same : next.committed = session.committed) (failed : ∃ e', sent = .error e') :
    Follows dryRun session sent (.error e, next) := by
  obtain ⟨e', rfl⟩ := failed
  exact ⟨same, fun result ran => by cases ran⟩

/-- One fileset raises where the rows refuse what was sent, or goes on with the same rows. -/
theorem reconcileFileset_cases (name : String) (fileset : Fileset) (result : MetaSyncResult)
    (session : Session) :
    (∃ e next, reconcileFileset sync dryRun schema name fileset result session =
        (.error e, next) ∧ next.committed = session.committed ∧
        ∃ e', (session.applied.bind fun db =>
          syncFileset sync dryRun schema name fileset db result) = .error e') ∨
      ∃ result' next, reconcileFileset sync dryRun schema name fileset result session =
        (.ok result', next) ∧ next.committed = session.committed ∧
        (dryRun = true → next.applied = session.applied) ∧
        (session.applied.bind fun db => syncFileset sync dryRun schema name fileset db result) =
          next.applied.map fun db => (db, result') := by
  cases applied : session.applied with
  | error e =>
      have flushed : session.flush = (.error e, { session with
          flushed := session.committed, pending := [], inactive := true, expired := true }) := by
        rw [UnitOfWork.flush, applied]
      rw [reconcileFileset, flushed]
      exact .inl ⟨e, _, rfl, rfl, e, rfl⟩
  | ok db =>
      have flushed := UnitOfWork.flush_of_applied applied
      have settled : ({ session with flushed := db, pending := [] } : Session).applied = .ok db :=
        rfl
      have sends : ∀ write : Write Database SyncError,
          (({ session with flushed := db, pending := [] } : Session).add write).applied =
            write db := by
        intro write
        rw [UnitOfWork.applied_add, settled]
        rfl
      rw [reconcileFileset, flushed]
      simp only [Except.bind, syncFileset]
      cases sync.find schema name db with
      | error e => exact .inl ⟨e, _, rfl, rfl, e, rfl⟩
      | ok found =>
          cases found with
          | none =>
              cases dryRun with
              | true => exact .inr ⟨_, _, rfl, rfl, fun _ => settled, rfl⟩
              | false =>
                  refine .inr ⟨_, _, rfl, rfl, (fun dry => by cases dry), ?_⟩
                  exact congrArg (Except.map _)
                    (sends (sync.insert (sync.row schema name fileset))).symm
          | some existing =>
              cases changed : existing.diverged fileset with
              | false =>
                  refine .inr ⟨_, _, if_neg (by simp [changed]), rfl,
                    fun _ => settled, ?_⟩
                  exact if_neg (by simp [changed])
              | true =>
                  cases dryRun with
                  | true =>
                      exact .inr ⟨_, _, if_pos changed, rfl,
                        fun _ => settled, if_pos changed⟩
                  | false =>
                      refine .inr ⟨_, _, if_pos changed, rfl, (fun dry => by cases dry), ?_⟩
                      exact (if_pos changed).trans
                        (congrArg (Except.map _) (sends (sync.update fileset existing)).symm)

theorem reconcileNames_follows (sync : Sync) (dryRun : Bool) (schema : String)
    (names : List String) (result : MetaSyncResult) (session : Session)
    (sound : dryRun = true → ∃ db, session.applied = .ok db) :
    Follows dryRun session
      (session.applied.bind fun db => syncNames sync dryRun schema names db result)
      (reconcileNames sync dryRun schema names result session) := by
  induction names generalizing result session with
  | nil =>
      refine ⟨rfl, ?_⟩
      cases applied : session.applied with
      | error e =>
          refine fun _ _ => ⟨?_, e, applied⟩
          cases dryRun with
          | false => rfl
          | true =>
              obtain ⟨db, good⟩ := sound rfl
              rw [applied] at good
              cases good
      | ok db => exact ⟨rfl, applied⟩
  | cons name rest ih =>
      unfold reconcileNames syncNames
      split
      · exact ih _ session sound
      · refine follows_error rfl ?_
        cases session.applied with
        | error e => exact ⟨e, rfl⟩
        | ok db => exact ⟨_, rfl⟩
      · rename_i fileset got
        have regroup : (session.applied.bind fun db =>
            (syncFileset sync dryRun schema name fileset db result).bind fun (after, result) =>
              syncNames sync dryRun schema rest after result) =
            (session.applied.bind fun db =>
              syncFileset sync dryRun schema name fileset db result).bind fun (after, result) =>
                syncNames sync dryRun schema rest after result := by
          cases session.applied <;> rfl
        rw [regroup]
        rcases reconcileFileset_cases name fileset result session with
          ⟨e, next, ran, same, e', failed⟩ | ⟨result', next, ran, same, kept, sent⟩
        · rw [ran, failed]
          exact follows_error same ⟨e', rfl⟩
        · rw [ran, sent]
          refine .of_committed same ?_
          have follows := ih result' next fun dry => (kept dry).symm ▸ sound dry
          cases applied : next.applied with
          | error e =>
              rw [applied] at follows
              exact follows
          | ok db =>
              rw [applied] at follows
              exact follows

/-- A dry run writes nothing. -/
theorem syncNames_dry {names : List String} {db after : Database} {result total : MetaSyncResult}
    (ran : syncNames sync true schema names db result = .ok (after, total)) : after = db := by
  induction names generalizing result with
  | nil => exact (Prod.mk.inj (Except.ok.inj ran)).1.symm
  | cons name rest ih =>
      unfold syncNames at ran
      split at ran
      · exact ih ran
      · cases ran
      · obtain ⟨⟨next, result'⟩, stepped, later⟩ := bind_eq_ok ran
        obtain rfl : next = db := by
          unfold syncFileset at stepped
          split at stepped
          · cases stepped
          · exact (Prod.mk.inj (Except.ok.inj stepped)).1.symm
          · split at stepped
            · exact (Prod.mk.inj (Except.ok.inj stepped)).1.symm
            · exact (Prod.mk.inj (Except.ok.inj stepped)).1.symm
        exact ih later

/-- A schema that raises commits nothing; one that returns has committed its rows. -/
theorem reconcileSchema_realizes (sync : Sync) (dryRun : Bool) (schema : String)
    {session : Session} {db : Database} (rested : Rested session db) :
    Realizes db (syncSchema sync dryRun schema db)
      (reconcileSchema sync dryRun schema session) := by
  obtain ⟨committed, applied⟩ := rested
  unfold syncSchema reconcileSchema
  split
  · exact ⟨⟨_, rfl⟩, committed⟩
  · exact ⟨rfl, committed, applied⟩
  · rename_i names listed
    obtain ⟨kept, follows⟩ := reconcileNames_follows sync dryRun schema names
      { filesetsDiscovered := names.length } session fun _ => ⟨db, applied⟩
    simp only [applied, Except.bind] at follows
    have uncommitted := kept.trans committed
    cases ran : reconcileNames sync dryRun schema names { filesetsDiscovered := names.length }
        session with
    | mk answer last =>
        rw [ran] at follows uncommitted
        cases sent : syncNames sync dryRun schema names db
            { filesetsDiscovered := names.length } with
        | error e =>
            rw [sent] at follows
            cases answer with
            | error e' => exact ⟨⟨e', rfl⟩, uncommitted⟩
            | ok result =>
                obtain ⟨rfl, e', refused⟩ := follows result rfl
                obtain ⟨closed, raised, same⟩ := UnitOfWork.commit_of_refused refused
                simp only [Bool.false_eq_true, if_false, raised]
                exact ⟨⟨e', rfl⟩, same.trans uncommitted⟩
        | ok outcome =>
            obtain ⟨after, total⟩ := outcome
            rw [sent] at follows
            obtain ⟨returned, applied'⟩ := follows
            obtain rfl : answer = .ok total := returned
            cases dryRun with
            | true =>
                obtain rfl := syncNames_dry sent
                exact ⟨rfl, uncommitted, applied'⟩
            | false =>
                simp only [Bool.false_eq_true, if_false, UnitOfWork.commit_of_applied applied']
                exact ⟨rfl, rfl, rfl⟩

theorem reconcileSchemas_concludes (sync : Sync) (dryRun : Bool) (schemas : List String)
    (total : MetaSyncResult) {session : Session} {db : Database} (rested : Rested session db) :
    Concludes (syncSchemas sync dryRun schemas db total)
      (reconcileSchemas sync dryRun schemas total session) := by
  induction schemas generalizing total session db with
  | nil => exact ⟨rfl, rested⟩
  | cons schema rest ih =>
      have realized := reconcileSchema_realizes sync dryRun schema rested
      unfold reconcileSchemas syncSchemas
      cases ran : reconcileSchema sync dryRun schema session with
      | mk answer next =>
          rw [ran] at realized
          cases sent : syncSchema sync dryRun schema db with
          | error e =>
              rw [sent] at realized
              obtain ⟨⟨e', raised⟩, -⟩ := realized
              obtain rfl : answer = .error e' := raised
              exact ⟨e', rfl⟩
          | ok outcome =>
              obtain ⟨after, result⟩ := outcome
              rw [sent] at realized
              obtain ⟨returned, settled⟩ := realized
              obtain rfl : answer = .ok result := returned
              exact ih (total.add result) settled

/-- A catalog that raises may have committed the schemas before; one that returns has committed
its rows. -/
theorem reconcileAll_concludes (sync : Sync) (dryRun : Bool) {session : Session} {db : Database}
    (rested : Rested session db) :
    Concludes (syncAll sync dryRun db) (reconcileAll sync dryRun session) := by
  unfold syncAll reconcileAll
  split
  · exact ⟨_, rfl⟩
  · exact ⟨rfl, rested⟩
  · exact reconcileSchemas_concludes sync dryRun _ _ rested

end Sessions

end MetaSyncService

end Lcp
