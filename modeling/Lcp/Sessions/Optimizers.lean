/-
# Sessions.Optimizers -- `optimize_index` beside watch passes, statement by statement

The calls of `optimize_index` are a list, and call `i` has session `i`; watch passes have
the sessions after them.  A pass takes the statements of `Sessions.Watchers`, and the
submission of a call those of `Sessions.Submitters`: all of them share the rows, the row
locks and the uncommitted tasks.

A call tests the status of the copy that its SELECT made.  It locks nothing until its
UPDATE, which is by primary key alone.

`World.moves` records the commits that wrote OPTIMIZING to an index row.
-/
import Lcp.Sessions.IndexRows
import Lcp.Sessions.Submitters
import Lcp.Sessions.Watchers
import Lcp.Theory.Calls

namespace Lcp.Optimizers

open Theory IndexService

set_option autoImplicit false

/-! ## Calls -/

/-- The arguments of `optimize_index` and the principal it runs under. -/
structure Request where
  caller : TenantPrincipal
  datasetUuid : String
  indexName : String

/-- Where a call is. -/
inductive Call where
  | begun (request : Request)
  /-- The copy that it read is READY. -/
  | admitted (request : Request) (copy : Index)
  /-- The UPDATE is issued. -/
  | flipped (request : Request) (copy : Index) (now : DateTime)
  | committed (request : Request) (copy : Index)
  /-- `submit_task` runs; the call holds the refreshed copy. -/
  | submitting (copy : Index) (session : Submitters.Session)
  /-- The UPDATE of the handler is issued. -/
  | reverting (copy : Index) (cause : String)
  | returned (copy : Index)
  | raised (e : IndexError)

namespace Call

def ended : Call → Bool
  | .returned _ | .raised _ => true
  | _ => false

/-- Where its submission is; a call without one takes no statement there. -/
def session : Call → Submitters.Session
  | .submitting _ session => session
  | _ => .raised

/-- A call after a statement of its submission. -/
def after (copy : Index) : Submitters.Session → Call
  | .returned _ _ => .returned copy
  | session => .submitting copy session

end Call

/-- The test of `optimize_index`. -/
def tested (request : Request) (copy : Index) : Call :=
  if copy.status ≠ .ready then
    .raised (.transition ("index " ++ pyRepr request.indexName ++ " is in state " ++
      pyRepr copy.status.toString ++ "; only ['READY'] states allow optimize"))
  else .admitted request copy

/-- The call of `submit_task`; without a stamp its key cannot be composed. -/
def submission (request : Request) (copy : Index) : Submitters.Session :=
  match copy.lastOptimizedAt with
  | none => .raised
  | some stamp =>
      .lookup ⟨request.caller,
        optimizeSubmission request.datasetUuid request.indexName copy.id stamp⟩

/-! ## The world -/

structure World where
  /-- Rows, locks and watch passes. -/
  base : Watchers.World
  calls : List Call
  /-- Commits that wrote OPTIMIZING: the session and the id of the index. -/
  moves : List (Nat × Nat) := []

inductive Action where
  /-- The SELECTs of `get_index`. -/
  | read (i : Nat)
  /-- The UPDATE; the clock is read after the test. -/
  | flip (i : Nat) (now : DateTime)
  | commit (i : Nat)
  | refresh (i : Nat)
  /-- The next statement of a submission. -/
  | submit (a : Submitters.Action)
  /-- The UPDATE of the handler. -/
  | giveUp (i : Nat) (cause : String)
  | watch (a : Watchers.Action)
  /-- The rest of the control plane: policies, rules and workers. -/
  | elsewhere (others : Database)

namespace World

/-- Move call `i`. -/
def set (s : World) (i : Nat) (call : Call) : World := { s with calls := s.calls.set i call }

/-- Call `i` has an uncommitted UPDATE of an index row. -/
def lock (s : World) (i indexId : Nat) : World :=
  { s with base := { s.base with locks := s.base.locks.acquire i [indexId] } }

/-- The UPDATE of call `i` is committed. -/
def wrote (s : World) (i indexId : Nat) (assign : Index → Index)
    (keeps : ∀ index, (assign index).id = index.id) : World :=
  { s with
    base := { s.base with
      db := updateIndex indexId assign keeps s.base.db
      locks := s.base.locks.release i } }

/-- The submissions of the calls. -/
def submissions (s : World) : Submitters.World where
  db := s.base.db
  owner := s.base.owner
  sessions := s.calls.map Call.session

/-- After a statement of the submission of call `i`. -/
def submitted (s : World) (i : Nat) (copy : Index) (t : Submitters.World) : World :=
  { s with
    base := { s.base with db := t.db, owner := t.owner }
    calls := s.calls.set i (.after copy (t.sessions[i]?.getD .raised)) }

end World

/-- A statement of a watch pass, on a session after those of the calls. -/
def World.mayWatch (s : World) : Watchers.Action → Bool
  | .scan i _ | .advance i _ | .close i => s.calls.length ≤ i
  | .submitted _ | .elsewhere _ => false

/-- The flips that the step of a pass commits. -/
def committedFlips (s : Watchers.World) : Watchers.Action → List (Nat × Nat)
  | .advance i _ =>
      match s.session i with
      | .idle => []
      | .watching p =>
          if p.agenda.isEmpty ∧ p.report.scannedIndexes ≠ 0 then p.flipped.map (i, ·) else []
  | _ => []

/-! ## Steps -/

/-- One statement or commit; `none` when the call is not there or has to wait. -/
def step (s : World) : Action → Option World
  | .read i =>
      match s.calls[i]? with
      | some (.begun request) =>
          match getIndex (some request.caller) request.datasetUuid request.indexName s.base.db with
          | .error e => some (s.set i (.raised e))
          | .ok copy => some (s.set i (tested request copy))
      | _ => none
  | .flip i now =>
      match s.calls[i]? with
      | some (.admitted request copy) =>
          if s.base.locks.openTo i copy.id = true then
            some ((s.lock i copy.id).set i (.flipped request copy now))
          else none
      | _ => none
  | .commit i =>
      match s.calls[i]? with
      | some (.flipped request copy now) =>
          let written := s.wrote i copy.id (Index.flush copy (copy.startOptimize now))
            (Index.id_flush copy (copy.startOptimize now))
          some { written.set i (.committed request copy) with
            moves := s.moves ++ [(i, copy.id)] }
      | some (.reverting copy cause) =>
          some ((s.wrote i copy.id (Index.flush copy (copy.giveUp .ready cause))
            (Index.id_flush copy (copy.giveUp .ready cause))).set i
              (.raised (.submission .integrity)))
      | _ => none
  | .refresh i =>
      match s.calls[i]? with
      | some (.committed request copy) =>
          (s.base.db.vectorIndex.get copy.id).map fun row =>
            s.set i (.submitting row (submission request row))
      | _ => none
  | .submit a =>
      match s.calls[a.session]? with
      | some (.submitting copy _) =>
          (Submitters.step s.submissions a).map (s.submitted a.session copy)
      | _ => none
  | .giveUp i cause =>
      match s.calls[i]? with
      | some (.submitting copy .raised) =>
          if s.base.locks.openTo i copy.id = true then
            some ((s.lock i copy.id).set i (.reverting copy cause))
          else none
      | _ => none
  | .watch a =>
      if s.mayWatch a then
        (Watchers.step s.base a).map fun base =>
          { s with base, moves := s.moves ++ committedFlips s.base a }
      else none
  | .elsewhere others =>
      some { s with
        base := { s.base with
          db := { others with
            dataset := s.base.db.dataset
            task := s.base.db.task
            vectorIndex := s.base.db.vectorIndex } } }

/-- Runs of calls and passes, in every interleaving. -/
def optimizers : Machine World Action where
  step := step

/-- No call and no pass has begun. -/
def start (db : Database) (requests : List Request) : World where
  base := Watchers.atRest db
  calls := requests.map .begun

end Lcp.Optimizers
