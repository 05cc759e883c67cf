/-
# Services.SubmissionFailures -- the safety nets of `create_index` and `optimize_index`

Both commit the index row first and submit its task in the same session afterwards.
When `submit_task` raises, the handler assigns to the row once more, commits, and goes
on raising.

A flush that is refused leaves the session inactive.  `submit_task` rolls back after an
`IntegrityError` alone, so after any other refusal the handler's commit is rejected: the
row stays as it was committed, and the caller sees the rejection in place of the error.

The handler of `optimize_index` puts the status back, not the timestamp.
-/
import Lcp.Services.IndexService
import Lcp.Theory.UnitOfWork

namespace Lcp.SubmissionFailures

open Theory IndexService

set_option autoImplicit false

inductive SessionError where
  /-- An `IntegrityError`. -/
  | integrity (text : String)
  /-- Another error of the database. -/
  | database (text : String)
  | pendingRollback
deriving DecidableEq

/-- The text `str(exc)`. -/
def SessionError.text : SessionError → String
  | .integrity text => text
  | .database text => text
  | .pendingRollback => "This Session's transaction has been rolled back due to a previous " ++
      "exception during flush."

inductive CallError where
  | index (e : IndexError)
  | session (e : SessionError)
deriving DecidableEq

abbrev Session := UnitOfWork Database SessionError

/-- The statements of a call that the database refuses, apart from what the rows refuse. -/
structure Refusals where
  /-- The SELECT by key. -/
  precheck : Option (UnitOfWork.Refusal SessionError) := none
  /-- The INSERT of the task. -/
  insert : Option SessionError := none
  /-- The SELECT after the rollback. -/
  reselect : Option (UnitOfWork.Refusal SessionError) := none
  commit : Option (UnitOfWork.Refusal SessionError) := none
  refresh : Option (UnitOfWork.Refusal SessionError) := none
  /-- The UPDATE of the handler. -/
  update : Option SessionError := none
  finalCommit : Option (UnitOfWork.Refusal SessionError) := none
  /-- The text of a duplicate key. -/
  duplicate : String := "Duplicate entry"

/-! ## Calls -/

section Calls

variable (refusals : Refusals) (caller : TenantPrincipal) (now : DateTime) (taskUuid : String)

/-- Insert under the UNIQUE keys. -/
def insertTask (task : Task) : Write Database SessionError := fun db =>
  match refusals.insert with
  | some e => .error e
  | none =>
      match TaskService.insertTask task db with
      | some after => .ok after
      | none => .error (.integrity refusals.duplicate)

/-- Insert a new task under a key, or return the row that holds it. -/
def submitTask (args : TaskService.Submission) (key : String) (session : Session) :
    Except SessionError (Task × Bool) × Session :=
  match session.query .pendingRollback refusals.precheck (TaskService.findByKey caller key) with
  | (.error e, session) => (.error e, session)
  | (.ok (some existing), session) => (.ok (existing, false), session)
  | (.ok none, session) =>
      match (session.add (insertTask refusals (args.row caller taskUuid now))).flush with
      | (.error (.integrity text), session) =>
          match session.rollback.query .pendingRollback refusals.reselect
              (TaskService.findByKey caller key) with
          | (.error e, session) => (.error e, session)
          | (.ok (some winner), session) => (.ok (winner, false), session)
          | (.ok none, session) => (.error (.integrity text), session)
      | (.error e, session) => (.error e, session)
      | (.ok (), session) =>
          match session.commitUnless .pendingRollback refusals.commit with
          | (.error e, session) => (.error e, session)
          | (.ok (), session) =>
              match session.query .pendingRollback refusals.refresh fun _ => () with
              | (.error e, session) => (.error e, session)
              | (.ok (), session) => (.ok (args.row caller taskUuid now, true), session)

/-- The handler: assign, commit, and raise what was caught. -/
def giveUp (id : Nat) (status : IndexStatus) (e : SessionError) (session : Session) :
    CallError × Database :=
  match (session.add fun db =>
      match refusals.update with
      | some e => .error e
      | none => .ok (updateIndex id (Index.giveUp status e.text) (Index.id_giveUp status e.text)
          db)).commitUnless .pendingRollback refusals.finalCommit with
  | (.error raised, session) => (.session raised, session.committed)
  | (.ok (), session) => (.session e, session.committed)

/-- The key of a submission as it is stored. -/
def storedKey (args : TaskService.Submission) : String :=
  caller.tenantId ++ ":" ++ args.idempotencyKey.getD ""

/-- Insert a BUILDING row, commit it, and submit its INDEX_BUILD task. -/
def createIndex (newId : Nat) (args : Creation) (db : Database) :
    Except CallError Index × Database :=
  match DatasetService.getDataset (some caller) args.datasetUuid db with
  | .error e => (.error (.index (.dataset e)), db)
  | .ok _ =>
      match insertIndex (args.row newId) (clearName args db) with
      | none =>
          (.error (.index (.alreadyExists ("index " ++ pyRepr args.indexName ++
            " already exists on dataset " ++ args.datasetUuid))), db)
      | some inserted =>
          match submitTask refusals caller now taskUuid (args.submission newId)
              (storedKey caller (args.submission newId)) (.begin inserted) with
          | (.ok _, session) => (.ok (args.row newId), session.committed)
          | (.error e, session) =>
              ((giveUp refusals newId .failed e session).map .error id)

/-- Move a READY index to OPTIMIZING, commit that, and submit its INDEX_OPTIMIZE task. -/
def optimizeIndex (datasetUuid indexName : String) (db : Database) :
    Except CallError Index × Database :=
  match getIndex (some caller) datasetUuid indexName db with
  | .error e => (.error (.index e), db)
  | .ok index =>
      if index.status ≠ .ready then
        (.error (.index (.transition ("index " ++ pyRepr indexName ++ " is in state " ++
          pyRepr index.status.toString ++ "; only ['READY'] states allow optimize"))), db)
      else
        let flipped := updateIndex index.id (Index.startOptimize now)
          (Index.id_startOptimize now) db
        let args := optimizeSubmission datasetUuid indexName index.id now
        match submitTask refusals caller now taskUuid args (storedKey caller args)
            (.begin flipped) with
        | (.ok _, session) => (.ok (index.startOptimize now), session.committed)
        | (.error e, session) => ((giveUp refusals index.id .ready e session).map .error id)

end Calls

/-! ## Where a submission fails -/

/-- What `submit_task` raises leaves a session that takes statements again. -/
def Refusals.Recovers (refusals : Refusals) (task : Task) (db : Database) : Prop :=
  match refusals.precheck with
  | some refusal => refusal.deactivates = false
  | none =>
      match insertTask refusals task db with
      -- Rolled back by the handler of `IntegrityError`.
      | .error (.integrity _) => ∀ refusal ∈ refusals.reselect, refusal.deactivates = false
      | .error _ => False
      | .ok _ =>
          match refusals.commit with
          | some refusal => refusal.deactivates = false
          | none => ∀ refusal ∈ refusals.refresh, refusal.deactivates = false

/-- The database takes what the handler writes. -/
def Refusals.Compensates (refusals : Refusals) : Prop :=
  refusals.update = none ∧ refusals.finalCommit = none

section Failures

variable {refusals : Refusals} {caller : TenantPrincipal} {now : DateTime} {taskUuid : String}

theorem vectorIndex_insertTask {task : Task} {db after : Database}
    (inserted : insertTask refusals task db = .ok after) : after.vectorIndex = db.vectorIndex := by
  unfold insertTask at inserted
  split at inserted
  · cases inserted
  · split at inserted
    · rename_i ran
      obtain rfl := Except.ok.inj inserted
      obtain ⟨table, -, rfl, -⟩ := TaskService.insertTask_eq_some ran
      rfl
    · cases inserted

/-- After a refused flush: only an `IntegrityError` is rolled back. -/
theorem recovers_of_refused {task : Task} {db : Database} {refused : SessionError}
    (precheck : refusals.precheck = none)
    (inserted : insertTask refusals task db = .error refused) :
    refusals.Recovers task db ↔ (∃ text, refused = .integrity text) ∧
      ∀ refusal ∈ refusals.reselect, refusal.deactivates = false := by
  cases refused <;> simp [Refusals.Recovers, precheck, inserted]

/-- After a flush, the commit and the refresh are left. -/
theorem recovers_of_flushed {task : Task} {db after : Database}
    (precheck : refusals.precheck = none) (inserted : insertTask refusals task db = .ok after) :
    refusals.Recovers task db ↔
      match refusals.commit with
      | some refusal => refusal.deactivates = false
      | none => ∀ refusal ∈ refusals.refresh, refusal.deactivates = false := by
  simp only [Refusals.Recovers, precheck, inserted]

/-- A session after a submission that raised. -/
structure Left (refusals : Refusals) (task : Task) (db : Database) (session : Session) : Prop where
  pending : session.pending = []
  flushed : session.flushed = session.committed
  vectorIndex : session.committed.vectorIndex = db.vectorIndex
  active : session.inactive = false ↔ refusals.Recovers task db

theorem left_of_submitTask {args : TaskService.Submission} {key : String} {db : Database}
    {e : SessionError} {session : Session}
    (ran : submitTask refusals caller now taskUuid args key (.begin db) = (.error e, session)) :
    Left refusals (args.row caller taskUuid now) db session := by
  unfold submitTask at ran
  rw [UnitOfWork.query_of_settled rfl rfl] at ran
  cases precheck : refusals.precheck with
  | some refusal =>
      simp only [precheck] at ran
      obtain ⟨-, rfl⟩ := Prod.mk.inj ran
      exact ⟨rfl, rfl, rfl, by simp only [Refusals.Recovers, precheck]⟩
  | none =>
      simp only [precheck] at ran
      cases found : TaskService.findByKey caller key (UnitOfWork.begin db : Session).flushed with
      | some existing =>
          simp only [found] at ran
          cases ran
      | none =>
          simp only [found] at ran
          rw [UnitOfWork.flush_add_of_settled rfl] at ran
          have start : (UnitOfWork.begin db : Session).flushed = db := rfl
          rw [start] at ran
          cases inserted : insertTask refusals (args.row caller taskUuid now) db with
          | error refused =>
              have recovers := recovers_of_refused precheck inserted
              cases refused with
              | integrity text =>
                  simp only [inserted] at ran
                  rw [UnitOfWork.query_of_settled rfl rfl] at ran
                  cases reselect : refusals.reselect with
                  | some refusal =>
                      simp only [reselect] at ran
                      obtain ⟨-, rfl⟩ := Prod.mk.inj ran
                      exact ⟨rfl, rfl, rfl, by simp [recovers, reselect]⟩
                  | none =>
                      simp only [reselect] at ran
                      split at ran
                      · rename_i answered
                        cases answered
                      · cases ran
                      · rename_i answered
                        obtain ⟨-, rfl⟩ := Prod.mk.inj answered
                        obtain ⟨-, rfl⟩ := Prod.mk.inj ran
                        exact ⟨rfl, rfl, rfl, by simp [recovers, reselect, UnitOfWork.rollback]⟩
              | database | pendingRollback =>
                  simp only [inserted] at ran
                  obtain ⟨-, rfl⟩ := Prod.mk.inj ran
                  exact ⟨rfl, rfl, rfl, by simp [recovers]⟩
          | ok after =>
              have rows : after.vectorIndex = db.vectorIndex := vectorIndex_insertTask inserted
              have recovers := recovers_of_flushed precheck inserted
              simp only [inserted] at ran
              rw [UnitOfWork.commitUnless_of_settled rfl rfl] at ran
              cases commit : refusals.commit with
              | some refusal =>
                  simp only [commit] at ran recovers
                  obtain ⟨-, rfl⟩ := Prod.mk.inj ran
                  exact ⟨rfl, rfl, rfl, recovers.symm⟩
              | none =>
                  simp only [commit] at ran recovers
                  rw [UnitOfWork.query_of_settled rfl rfl] at ran
                  cases refresh : refusals.refresh with
                  | some refusal =>
                      simp only [refresh] at ran
                      obtain ⟨-, rfl⟩ := Prod.mk.inj ran
                      exact ⟨rfl, rfl, rows, by simp [recovers, refresh]⟩
                  | none =>
                      simp only [refresh] at ran
                      cases ran

/-! ## What the handler leaves -/

/-- An active session and a database that takes the handler's write: the error goes on, and the
row is assigned. -/
theorem giveUp_of_recovers {task : Task} {db : Database} {session : Session}
    (left : Left refusals task db session) (recovers : refusals.Recovers task db)
    (compensates : refusals.Compensates) (id : Nat) (status : IndexStatus) (e : SessionError) :
    giveUp refusals id status e session =
      (.session e, updateIndex id (Index.giveUp status e.text) (Index.id_giveUp status e.text)
        session.committed) := by
  obtain ⟨update, finalCommit⟩ := compensates
  have active := left.active.2 recovers
  unfold giveUp UnitOfWork.commitUnless
  rw [UnitOfWork.flush_add_of_settled left.pending]
  simp only [UnitOfWork.add, active, Bool.false_eq_true, if_false, update, finalCommit,
    left.flushed]

/-- In every other case the row stays as it was committed. -/
theorem giveUp_of_lost {task : Task} {db : Database} {session : Session}
    (left : Left refusals task db session)
    (lost : ¬ (refusals.Recovers task db ∧ refusals.Compensates)) (id : Nat)
    (status : IndexStatus) (e : SessionError) :
    (giveUp refusals id status e session).2 = session.committed := by
  unfold giveUp
  split
  · rename_i raised after ran
    obtain ⟨-, -, same⟩ | ⟨answered, -⟩ := UnitOfWork.committed_commitUnless ran
    · exact same
    · cases answered
  · rename_i after ran
    refine absurd ?_ lost
    obtain ⟨active, ⟨written, applied⟩, accepted⟩ := UnitOfWork.commitUnless_ok_iff.1 ⟨after, ran⟩
    refine ⟨left.active.1 active, ?_, accepted⟩
    rw [UnitOfWork.applied_add, UnitOfWork.applied, left.pending] at applied
    cases update : refusals.update with
    | none => rfl
    | some refused =>
        simp only [update] at applied
        cases applied

/-- **The handler keeps its promise if and only if the session takes its statements and the
database its writes.** -/
theorem giveUp_iff {task : Task} {db : Database} {session : Session}
    (left : Left refusals task db session) {id : Nat} {status : IndexStatus} {row : Index}
    (found : db.vectorIndex.get id = some row) (differs : row.status ≠ status)
    (e : SessionError) (also : Index → Prop)
    (kept : also (row.giveUp status e.text) ↔ also row) :
    ((giveUp refusals id status e session).1 = .session e ∧
        ∃ after, (giveUp refusals id status e session).2.vectorIndex.get id = some after ∧
          after.status = status ∧ also after) ↔
      refusals.Recovers task db ∧ refusals.Compensates ∧ also row := by
  have committed : session.committed.vectorIndex.get id = some row := by
    rw [left.vectorIndex]
    exact found
  by_cases holds : refusals.Recovers task db ∧ refusals.Compensates
  · rw [giveUp_of_recovers left holds.1 holds.2]
    have assigned : (updateIndex id (Index.giveUp status e.text) (Index.id_giveUp status e.text)
        session.committed).vectorIndex.get id = some (row.giveUp status e.text) := by
      simp only [updateIndex, Table.get_update, if_true, committed, Option.map_some]
    constructor
    · rintro ⟨-, after, got, -, holdsAlso⟩
      obtain rfl := Option.some.inj (assigned.symm.trans got)
      exact ⟨holds.1, holds.2, kept.1 holdsAlso⟩
    · rintro ⟨-, -, holdsAlso⟩
      exact ⟨rfl, _, assigned, rfl, kept.2 holdsAlso⟩
  · rw [giveUp_of_lost left holds]
    constructor
    · rintro ⟨-, after, got, same, -⟩
      obtain rfl := Option.some.inj (committed.symm.trans got)
      exact absurd same differs
    · rintro ⟨recovers, compensates, -⟩
      exact absurd ⟨recovers, compensates⟩ holds

end Failures

/-! ## The two calls -/

section Results

variable (refusals : Refusals) (caller : TenantPrincipal) (now : DateTime) (taskUuid : String)

/-- `create_index` commits its row, and its submission raises. -/
structure CreateRaises (newId : Nat) (args : Creation) (db inserted : Database)
    (e : SessionError) : Prop where
  guard : ∃ dataset, DatasetService.getDataset (some caller) args.datasetUuid db = .ok dataset
  row : insertIndex (args.row newId) (clearName args db) = some inserted
  raised : ∃ session, submitTask refusals caller now taskUuid (args.submission newId)
    (storedKey caller (args.submission newId)) (.begin inserted) = (.error e, session)

/-- `optimize_index` commits its flip, and its submission raises. -/
structure OptimizeRaises (datasetUuid indexName : String) (db : Database) (index : Index)
    (e : SessionError) : Prop where
  got : getIndex (some caller) datasetUuid indexName db = .ok index
  ready : index.status = .ready
  raised : ∃ session, submitTask refusals caller now taskUuid
    (optimizeSubmission datasetUuid indexName index.id now)
    (storedKey caller (optimizeSubmission datasetUuid indexName index.id now))
    (.begin (updateIndex index.id (Index.startOptimize now) (Index.id_startOptimize now) db)) =
      (.error e, session)

/-- **When the safety nets hold.**  The error of the submission is raised and the row is FAILED
if and only if the session recovers and the database takes the compensation.  For
`optimize_index`, which puts the status back alone, the timestamp has to be the old one already. -/
theorem compensated_iff :
    (∀ newId args db inserted e,
      CreateRaises refusals caller now taskUuid newId args db inserted e →
      (((createIndex refusals caller now taskUuid newId args db).1 = .error (.session e) ∧
          ∃ row, (createIndex refusals caller now taskUuid newId args db).2.vectorIndex.get newId =
            some row ∧ row.status = .failed) ↔
        refusals.Recovers ((args.submission newId).row caller taskUuid now) inserted ∧
          refusals.Compensates)) ∧
      ∀ datasetUuid indexName db index e,
        OptimizeRaises refusals caller now taskUuid datasetUuid indexName db index e →
        (((optimizeIndex refusals caller now taskUuid datasetUuid indexName db).1 =
              .error (.session e) ∧
            ∃ row, (optimizeIndex refusals caller now taskUuid datasetUuid indexName
                db).2.vectorIndex.get index.id = some row ∧
              row.status = index.status ∧ row.lastOptimizedAt = index.lastOptimizedAt) ↔
          refusals.Recovers
              ((optimizeSubmission datasetUuid indexName index.id now).row caller taskUuid now)
              (updateIndex index.id (Index.startOptimize now) (Index.id_startOptimize now) db) ∧
            refusals.Compensates ∧ index.lastOptimizedAt = some now) := by
  constructor
  · rintro newId args db inserted e ⟨⟨dataset, guard⟩, row, session, raised⟩
    have left := left_of_submitTask raised
    have handled : createIndex refusals caller now taskUuid newId args db =
        (giveUp refusals newId .failed e session).map .error id := by
      simp only [createIndex, guard, row, raised]
    have found : inserted.vectorIndex.get newId = some (args.row newId) := by
      obtain ⟨-, table, added, rfl⟩ := insertIndex_eq_some row
      exact Table.get_of_mem (T := table) ((Table.mem_insert? added).2 (.inr rfl))
    have building : (args.row newId).status ≠ .failed := by
      intro same
      cases same
    have promise := giveUp_iff left found building e (fun _ => True) Iff.rfl
    rw [handled]
    simpa using promise
  · rintro datasetUuid indexName db index e ⟨got, ready, session, raised⟩
    have left := left_of_submitTask raised
    have handled : optimizeIndex refusals caller now taskUuid datasetUuid indexName db =
        (giveUp refusals index.id .ready e session).map .error id := by
      simp only [optimizeIndex, got, ready, ne_eq, not_true_eq_false, if_false, raised]
    have member := (maybeGetIndex_eq_some (getIndex_eq_ok got).2).1
    have found : (updateIndex index.id (Index.startOptimize now) (Index.id_startOptimize now)
        db).vectorIndex.get index.id = some (index.startOptimize now) := by
      simp only [updateIndex, Table.get_update, if_true, Table.get_of_mem member, Option.map_some]
    have optimizing : (index.startOptimize now).status ≠ .ready := by
      intro same
      cases same
    have promise := giveUp_iff left found optimizing e
      (fun row => row.lastOptimizedAt = index.lastOptimizedAt) Iff.rfl
    have stamp : (index.startOptimize now).lastOptimizedAt = index.lastOptimizedAt ↔
        index.lastOptimizedAt = some now := eq_comm
    rw [handled, ready, ← stamp]
    simpa using promise

end Results

/-! ## A database that refuses nothing by itself -/

section Calm

variable {caller : TenantPrincipal} {now : DateTime} {taskUuid : String}

/-- Only the rows refuse: a duplicate key. -/
def calm (duplicate : String) : Refusals := { duplicate }

/-- Then the session does what `TaskService.submitTask` says. -/
theorem submitTask_calm {args : TaskService.Submission} {key : String}
    (keyed : TaskService.scopedKey caller args.idempotencyKey = some key) (duplicate : String)
    (db : Database) :
    match TaskService.submitTask (some caller) now taskUuid args db with
    | .ok (answer, after) => ∃ session : Session,
        submitTask (calm duplicate) caller now taskUuid args key (.begin db) =
          (.ok answer, session) ∧ session.committed = after
    | .error _ => ∃ session : Session,
        submitTask (calm duplicate) caller now taskUuid args key (.begin db) =
          (.error (.integrity duplicate), session) ∧ session.committed = db ∧
        (calm duplicate).Recovers (args.row caller taskUuid now) db := by
  have start : (UnitOfWork.begin db : Session).flushed = db := rfl
  unfold TaskService.submitTask submitTask
  simp only [keyed, Option.bind_some]
  rw [UnitOfWork.query_of_settled rfl rfl]
  simp only [calm, start]
  cases found : TaskService.findByKey caller key db with
  | some existing => exact ⟨_, rfl, rfl⟩
  | none =>
      simp only
      rw [UnitOfWork.flush_add_of_settled rfl, start]
      cases inserted : TaskService.insertTask (args.row caller taskUuid now) db with
      | some after =>
          simp only [insertTask, inserted]
          rw [UnitOfWork.commitUnless_of_settled rfl rfl]
          simp only
          rw [UnitOfWork.query_of_settled rfl rfl]
          exact ⟨_, rfl, rfl⟩
      | none =>
          have refused : insertTask (calm duplicate) (args.row caller taskUuid now) db =
              .error (.integrity duplicate) := by
            simp only [insertTask, calm, inserted]
          have again : TaskService.findByKey caller key
              (UnitOfWork.begin db : Session).committed = none := found
          simp only [insertTask, inserted]
          rw [UnitOfWork.query_of_settled rfl rfl]
          simp only [UnitOfWork.rollback, again]
          refine ⟨_, rfl, rfl, ?_⟩
          simp [Refusals.Recovers, insertTask, inserted]

theorem recovered_calm {task : Task} {db : Database} {session : Session} {duplicate : String}
    (left : Left (calm duplicate) task db session)
    (recovers : (calm duplicate).Recovers task db) (id : Nat) (status : IndexStatus) :
    giveUp (calm duplicate) id status (.integrity duplicate) session =
      (.session (.integrity duplicate), updateIndex id (Index.giveUp status duplicate)
        (Index.id_giveUp status duplicate) session.committed) :=
  giveUp_of_recovers left recovers ⟨rfl, rfl⟩ id status _

/-- The session-level call refines `IndexService.createIndex`. -/
theorem createIndex_calm (duplicate : String) (newId : Nat) (args : Creation) (db : Database) :
    (createIndex (calm duplicate) caller now taskUuid newId args db).2 =
        (IndexService.createIndex (some caller) { now, taskUuid, cause := fun _ => duplicate }
          newId args db).2 ∧
      (createIndex (calm duplicate) caller now taskUuid newId args db).1.toOption =
        (IndexService.createIndex (some caller) { now, taskUuid, cause := fun _ => duplicate }
          newId args db).1.toOption := by
  unfold createIndex IndexService.createIndex
  cases DatasetService.getDataset (some caller) args.datasetUuid db with
  | error e => exact ⟨rfl, rfl⟩
  | ok dataset =>
      cases insertIndex (args.row newId) (clearName args db) with
      | none => exact ⟨rfl, rfl⟩
      | some inserted =>
          have keyed : TaskService.scopedKey caller (args.submission newId).idempotencyKey =
              some (storedKey caller (args.submission newId)) := rfl
          have submitted := @submitTask_calm caller now taskUuid _ _ keyed duplicate
            inserted
          cases ran : TaskService.submitTask (some caller) now taskUuid (args.submission newId)
              inserted with
          | ok answer =>
              rw [ran] at submitted
              obtain ⟨session, raised, same⟩ := submitted
              simp only [raised, same, ran]
              exact ⟨trivial, rfl⟩
          | error e =>
              rw [ran] at submitted
              obtain ⟨session, raised, same, recovers⟩ := submitted
              simp only [raised, ran, recovered_calm (left_of_submitTask raised) recovers, same]
              exact ⟨rfl, rfl⟩

/-- The session-level call refines `IndexService.optimizeIndex`. -/
theorem optimizeIndex_calm (duplicate datasetUuid indexName : String) (db : Database) :
    (optimizeIndex (calm duplicate) caller now taskUuid datasetUuid indexName db).2 =
        (IndexService.optimizeIndex (some caller) { now, taskUuid, cause := fun _ => duplicate }
          datasetUuid indexName db).2 ∧
      (optimizeIndex (calm duplicate) caller now taskUuid datasetUuid indexName db).1.toOption =
        (IndexService.optimizeIndex (some caller) { now, taskUuid, cause := fun _ => duplicate }
          datasetUuid indexName db).1.toOption := by
  unfold optimizeIndex IndexService.optimizeIndex
  cases getIndex (some caller) datasetUuid indexName db with
  | error e => exact ⟨rfl, rfl⟩
  | ok index =>
      by_cases ready : index.status = .ready
      · have keyed : TaskService.scopedKey caller
            (optimizeSubmission datasetUuid indexName index.id now).idempotencyKey =
              some (storedKey caller (optimizeSubmission datasetUuid indexName index.id now)) := rfl
        have submitted := @submitTask_calm caller now taskUuid _ _ keyed duplicate
          (updateIndex index.id (Index.startOptimize now) (Index.id_startOptimize now) db)
        simp only [ready, ne_eq, not_true_eq_false, if_false]
        cases ran : TaskService.submitTask (some caller) now taskUuid
            (optimizeSubmission datasetUuid indexName index.id now)
            (updateIndex index.id (Index.startOptimize now) (Index.id_startOptimize now) db) with
        | ok answer =>
            rw [ran] at submitted
            obtain ⟨session, raised, same⟩ := submitted
            simp only [raised, same]
            exact ⟨trivial, rfl⟩
        | error e =>
            rw [ran] at submitted
            obtain ⟨session, raised, same, recovers⟩ := submitted
            simp only [raised, recovered_calm (left_of_submitTask raised) recovers, same]
            exact ⟨rfl, rfl⟩
      · simp only [ready, ne_eq, not_false_eq_true, if_true]
        exact ⟨trivial, rfl⟩

end Calm

/-! ## Failures that a handler meets -/

section Examples

private def tagged : Database where
  dataset := .single
    { datasetUuid := "d1", catalog := "lake", dbSchema := "acme", tableName := "articles"
      storageUri := "s3://acme/articles", tenantId := "acme" }
  vectorIndex := .single
    { id := 4, datasetUuid := "d1", indexName := "old", columnName := "v", indexType := "IVF_PQ"
      status := .ready, lastOptimizedAt := some 100 }

private def fresh : Creation :=
  { datasetUuid := "d1", indexName := "new", columnName := "v", indexType := "IVF_PQ" }

/-- The INSERT of the task is refused: a value is too long for its column. -/
private def tooLong : Refusals := { insert := some (.database "Data too long") }

/-- The SELECT by key is refused, and the session goes on. -/
private def busy : Refusals :=
  { precheck := some ⟨.database "Lock wait timeout exceeded", false⟩ }

/-- What is raised, and status and timestamp of an index row. -/
private def outcome (id : Nat) (answer : Except CallError Index × Database) :
    Option CallError × Option (IndexStatus × Option DateTime) :=
  (match answer.1 with
    | .error e => some e
    | .ok _ => none,
    (answer.2.vectorIndex.get id).map fun row => (row.status, row.lastOptimizedAt))

/-- After a refused flush the rows stay BUILDING and OPTIMIZING, and the caller sees another
error; and a clean failure leaves the new timestamp. -/
theorem safety_nets_fail :
    outcome 5 (createIndex tooLong (sdkOf "acme") 900 "t1" 5 fresh tagged) =
        (some (.session .pendingRollback), some (.building, none)) ∧
      outcome 4 (optimizeIndex tooLong (sdkOf "acme") 900 "t1" "d1" "old" tagged) =
        (some (.session .pendingRollback), some (.optimizing, some 900)) ∧
      outcome 4 (optimizeIndex busy (sdkOf "acme") 900 "t1" "d1" "old" tagged) =
        (some (.session (.database "Lock wait timeout exceeded")), some (.ready, some 900)) := by
  decide +kernel

theorem compensated_iff_busy :
    ((createIndex busy (sdkOf "acme") 900 "t1" 5 fresh tagged).1 =
          .error (.session (.database "Lock wait timeout exceeded")) ∧
        ∃ row, (createIndex busy (sdkOf "acme") 900 "t1" 5 fresh tagged).2.vectorIndex.get 5 =
          some row ∧
          row.status = .failed) ∧
      ¬ ((optimizeIndex busy (sdkOf "acme") 900 "t1" "d1" "old" tagged).1 =
            .error (.session (.database "Lock wait timeout exceeded")) ∧
          ∃ row,
            (optimizeIndex busy (sdkOf "acme") 900 "t1" "d1" "old" tagged).2.vectorIndex.get 4 =
              some row ∧
            row.status = .ready ∧ row.lastOptimizedAt = some 100) := by
  have compensated := compensated_iff busy (sdkOf "acme") 900 "t1"
  constructor
  · refine (compensated.1 5 fresh tagged _ _ ⟨⟨_, rfl⟩, rfl, _, rfl⟩).2 ⟨rfl, rfl, rfl⟩
  · intro holds
    have same := (compensated.2 "d1" "old" tagged _ _ ⟨rfl, rfl, _, rfl⟩).1 holds
    exact absurd same.2.2 (by decide)

end Examples

end Lcp.SubmissionFailures
