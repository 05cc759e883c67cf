/-
# Sessions.Submitters -- `submit_task`, statement by statement

Any number of calls of `submit_task`, each on a session of its own.  As in the
planners' model the task table of a world holds committed and uncommitted rows,
and `owner` says which session wrote an uncommitted one.

* A SELECT sees the committed rows and those of its own session, as far as the
  RLS hook lets its principal.
* An INSERT waits while another session has an uncommitted row with its key, and
  raises an `IntegrityError` when a committed row has it.  The `uuid4` it draws is
  one that no row has.
-/
import Lcp.Services.TaskService
import Lcp.Theory.Machine
import Lcp.Theory.RowLocks

namespace Lcp.Submitters

open Theory TaskService

set_option autoImplicit false

/-! ## Sessions -/

/-- A call and the principal it runs under. -/
structure Call where
  principal : TenantPrincipal
  args : Submission

/-- Where a call is. -/
inductive Session where
  /-- Before the SELECT that looks the key up. -/
  | lookup (call : Call)
  | insert (call : Call)
  /-- The row is flushed. -/
  | commit (call : Call) (row : Task)
  | refresh (call : Call) (row : Task)
  /-- Rolled back after an `IntegrityError`. -/
  | reselect (call : Call)
  | returned (task : Task) (created : Bool)
  | raised

/-- The statements a call can still take. -/
def Session.remaining : Session → Nat
  | .lookup _ => 4
  | .insert _ => 3
  | .commit .. => 2
  | .refresh .. => 1
  | .reselect _ => 1
  | .returned .. => 0
  | .raised => 0

/-- The call returned `created = True`. -/
def Session.created : Session → Bool
  | .returned _ created => created
  | _ => false

/-- The call has inserted the row, or has returned `created = True`. -/
def Session.creates : Session → Bool
  | .commit .. => true
  | .refresh .. => true
  | session => session.created

structure World where
  db : Database
  owner : RowLocks String Nat := .none_
  sessions : List Session

/-- The next statement of a session, with the `uuid4` and the time an INSERT draws. -/
structure Action where
  session : Nat
  taskUuid : String
  now : DateTime

namespace Call

/-- The key the call stores. -/
def key (call : Call) : Option String := scopedKey call.principal call.args.idempotencyKey

end Call

namespace World

/-- Move session `i`. -/
def set (s : World) (i : Nat) (session : Session) : World :=
  { s with sessions := s.sessions.set i session }

/-- What a SELECT of session `i` under the principal returns. -/
def select (s : World) (i : Nat) (principal : TenantPrincipal) (p : Task → Bool) : List Task :=
  s.db.task.rows.filter fun task =>
    p task && s.owner.openTo i task.taskUuid && principal.sees task.tenantId

/-- The SELECT by a key. -/
def selectKey (s : World) (i : Nat) (call : Call) (key : String) : List Task :=
  s.select i call.principal fun task => task.idempotencyKey = some key

/-- Another session has an uncommitted row with the key of the new one. -/
def blocked (s : World) (i : Nat) (row : Task) : Bool :=
  row.idempotencyKey.isSome && s.db.task.rows.any fun task =>
    task.idempotencyKey = row.idempotencyKey ∧ s.owner.openTo i task.taskUuid = false

/-- Session `i` has inserted a row and not committed it. -/
def wrote (s : World) (i : Nat) (taskUuid : String) (after : Database) : World :=
  { s with db := after, owner := s.owner.acquire i [taskUuid] }

/-- `session.rollback()`. -/
def rollback (s : World) (i : Nat) : World :=
  { s with
    db := { s.db with task := s.db.task.delete fun task => s.owner task.taskUuid = some i }
    owner := s.owner.release i }

/-- `session.commit()`. -/
def commit (s : World) (i : Nat) : World := { s with owner := s.owner.release i }

end World

/-! ## Steps -/

/-- `scalar_one_or_none()`: more than one row raises. -/
def scalarOneOrNone (rows : List Task) (absent : Session) : Session :=
  match rows with
  | [] => absent
  | [task] => .returned task false
  | _ => .raised

/-- The flush of session `i`: it waits, inserts its row, or rolls back. -/
def flush (s : World) (i : Nat) (call : Call) (row : Task) : Option World :=
  if s.blocked i row then none
  else
    match insertTask row s.db with
    | some after => some ((s.wrote i row.taskUuid after).set i (.commit call row))
    | none =>
        match call.key with
        | none => some ((s.rollback i).set i .raised)
        | some _ => some ((s.rollback i).set i (.reselect call))

/-- One statement of session `i`. -/
def perform (s : World) (a : Action) : Session → Option World
  | .lookup call =>
      match call.key with
      | none => some (s.set a.session (.insert call))
      | some key =>
          some (s.set a.session
            (scalarOneOrNone (s.selectKey a.session call key) (.insert call)))
  | .insert call =>
      if a.taskUuid ∈ s.db.task.keys then none
      else flush s a.session call (call.args.row call.principal a.taskUuid a.now)
  | .commit call row => some ((s.commit a.session).set a.session (.refresh call row))
  | .refresh call row =>
      match s.select a.session call.principal fun task => task.taskUuid = row.taskUuid with
      | task :: _ => some (s.set a.session (.returned task true))
      | [] => some (s.set a.session .raised)
  | .reselect call =>
      match call.key with
      | none => none
      | some key =>
          some (s.set a.session (scalarOneOrNone (s.selectKey a.session call key) .raised))
  | .returned .. => none
  | .raised => none

def step (s : World) (a : Action) : Option World :=
  s.sessions[a.session]?.bind (perform s a)

/-- Runs of submissions, in every interleaving. -/
def submitters : Machine World Action where
  step := step

/-- No call has begun. -/
def start (db : Database) (calls : List Call) : World :=
  { db, sessions := calls.map .lookup }

end Lcp.Submitters
