/-
# Sessions.Planners -- planner passes, statement by statement

Any number of `plan_once` calls run at once, each on a session of its own.  The task
table of a world holds committed and uncommitted rows; `owner` says which session
wrote an uncommitted row.  A session sees committed rows and its own, and an INSERT
waits while another session has an uncommitted row with one of its unique keys.

A pass is an agenda.  Loading a policy's dataset and reading its rules turn the head
of the agenda into lookups of keys, and a lookup that finds nothing into an INSERT.
`wanted` remembers the keys of all that was due.

The rollback after an `IntegrityError` throws away every uncommitted row of the
session and every `last_run_at` it assigned, and expires the copies that it loaded:
reading an attribute of one outside a greenlet raises.  Assigning one does not.

The UPDATE of `last_run_at` also locks its policy row, which takes away interleavings
and is left out.
-/
import Lcp.Services.PlannerDue
import Lcp.Theory.Machine
import Lcp.Theory.RowLocks

namespace Lcp.Planners

open Theory Emission LifecyclePlannerService

set_option autoImplicit false

/-! ## Sessions -/

/-- What a pass still has to do. -/
inductive Job where
  /-- Load the dataset of a policy; TTL and compaction follow. -/
  | policy (policy : LifecyclePolicy)
  | optimize (policy : LifecyclePolicy) (dataset : Dataset)
  | rules (policy : LifecyclePolicy) (dataset : Dataset)
  | lookup (due : Due)
  | insert (due : Due)
  /-- `policy.last_run_at = now`. -/
  | record (policyId : Nat)

/-- The job reads attributes of loaded copies. -/
def Job.reads : Job → Bool
  | .record _ => false
  | _ => true

/-- A running `plan_once`. -/
structure Planner where
  now : DateTime
  scanned : Nat
  agenda : List Job
  wanted : List String := []
  emitted : List String := []
  skipped : Nat := 0
  /-- Policies with an uncommitted `last_run_at`. -/
  recorded : List Nat := []
  /-- A rollback expired the copies. -/
  expired : Bool := false

/-- Where a session is. -/
inductive Session where
  | idle
  | planning (planner : Planner)

/-- What a `plan_once` returned, and the keys that were due. -/
structure Return where
  tick : PlannerTick
  wanted : List String

structure World where
  db : Database
  owner : RowLocks String Nat := .none_
  session : Nat → Session := fun _ => .idle
  returned : List Return := []

inductive Action where
  /-- The SELECT of the enabled policies. -/
  | scan (i : Nat) (now : DateTime)
  /-- The next job of the pass; `taskUuid` is the `uuid4` an INSERT draws. -/
  | advance (i : Nat) (taskUuid : String)
  /-- The session is closed under a call that raised or was cancelled. -/
  | close (i : Nat)
  /-- The committed INSERT of another producer. -/
  | submitted (task : Task)
  /-- The rest of the control plane: it writes other tables, and columns of tasks other than
  their uuid and key. -/
  | elsewhere (others : Database)

namespace Planner

/-- The pass that has scanned the policies. -/
def begin_ (now : DateTime) (policies : List LifecyclePolicy) : Planner :=
  { now, scanned := policies.length, agenda := policies.map .policy }

/-- Dues to try before the rest of the agenda. -/
def plan (p : Planner) (dues : List Due) (rest : List Job) : Planner :=
  { p with
    agenda := dues.map .lookup ++ rest
    wanted := p.wanted ++ dues.map Due.key }

/-- A duplicate. -/
def skip (p : Planner) (rest : List Job) : Planner :=
  { p with agenda := rest, skipped := p.skipped + 1 }

def emit (p : Planner) (taskUuid : String) (rest : List Job) : Planner :=
  { p with agenda := rest, emitted := p.emitted ++ [taskUuid] }

/-- What the session keeps of the pass after `session.rollback()`: the counters. -/
def rolledBack (p : Planner) (rest : List Job) : Planner :=
  { p.skip rest with recorded := [], expired := true }

def tick (p : Planner) : PlannerTick :=
  { scannedPolicies := p.scanned
    emittedTasks := p.emitted
    skippedDuplicates := p.skipped }

/-- `last_run_at` in the policies that the pass recorded. -/
def writeRuns (p : Planner)
    (policies : Table LifecyclePolicy LifecyclePolicy.id) :
    Table LifecyclePolicy LifecyclePolicy.id :=
  p.recorded.foldl (fun policies id =>
    policies.update id (LifecyclePolicy.recordRun p.now) (LifecyclePolicy.id_recordRun p.now))
    policies

end Planner

namespace World

/-- Move session `i`. -/
def set (s : World) (i : Nat) (session : Session) : World :=
  { s with session := Function.update s.session i session }

/-- Session `i` goes on planning. -/
def goOn (s : World) (i : Nat) (p : Planner) : World := s.set i (.planning p)

theorem session_goOn (s : World) (i : Nat) (p : Planner) :
    (s.goOn i p).session i = .planning p := by
  show Function.update s.session i (Session.planning p) i = _
  exact Function.update_self ..

/-- Session `i` has inserted a row and not committed it. -/
def wrote (s : World) (i : Nat) (taskUuid : String) (after : Database) : World :=
  { s with db := after, owner := s.owner.acquire i [taskUuid] }

/-- `session.rollback()`: the uncommitted rows of the session go. -/
def rollback (s : World) (i : Nat) : World :=
  { s with
    db := { s.db with task := s.db.task.delete fun task => s.owner task.taskUuid = some i }
    owner := s.owner.release i }

/-- `session.commit()` of a pass. -/
def commit (s : World) (i : Nat) (p : Planner) : World :=
  { s with
    db := { s.db with lifecyclePolicy := p.writeRuns s.db.lifecyclePolicy }
    owner := s.owner.release i }

/-- The call raises, its session is rolled back and closed. -/
def abort (s : World) (i : Nat) : World := (s.rollback i).set i .idle

/-- Nothing is left to do: commit what there is and return the tick. -/
def finish (s : World) (i : Nat) (p : Planner) : World :=
  let ended := if p.emitted ≠ [] ∨ p.skipped > 0 then s.commit i p else s.rollback i
  { ended.set i .idle with returned := s.returned ++ [⟨p.tick, p.wanted⟩] }

theorem session_finish (s : World) (i : Nat) (p : Planner) :
    (s.finish i p).session = Function.update s.session i .idle := by
  unfold finish
  split <;> rfl

/-- A row with the key that session `i` sees. -/
def sees (s : World) (i : Nat) (key : String) : Bool :=
  s.db.task.rows.any fun task =>
    task.idempotencyKey = some key ∧ s.owner.openTo i task.taskUuid = true

/-- Another session has an uncommitted row with a unique key of the new one. -/
def blocked (s : World) (i : Nat) (row : Task) : Bool :=
  s.db.task.rows.any fun task =>
    (task.idempotencyKey = row.idempotencyKey ∨ task.taskUuid = row.taskUuid) ∧
      s.owner.openTo i task.taskUuid = false

end World

/-- The row that an INSERT of the pass adds. -/
def Planner.row (p : Planner) (due : Due) (taskUuid : String) : Task :=
  taskRow due.dataset p.now taskUuid due.taskType due.key due.params

/-! ## Steps -/

/-- One job of session `i`; `none` when it has to wait. -/
def perform (s : World) (i : Nat) (p : Planner) (rest : List Job) (taskUuid : String) :
    Job → Option World
  | .policy policy =>
      match s.db.dataset.get policy.datasetUuid with
      | none => some (s.goOn i { p with agenda := rest })
      | some dataset =>
          some (s.goOn i (p.plan (ttlDue p.now policy dataset ++ compactionDue p.now policy dataset)
            ([.optimize policy dataset, .rules policy dataset, .record policy.id] ++ rest)))
  | .optimize policy dataset =>
      some (s.goOn i (p.plan (indexOptimizeDue p.now policy dataset s.db) rest))
  | .rules policy dataset =>
      some (s.goOn i (p.plan
        ((enabledRules dataset s.db).map (vectorizeDue p.now policy dataset)) rest))
  | .lookup due =>
      if s.sees i due.key then some (s.goOn i (p.skip rest))
      else some (s.goOn i { p with agenda := .insert due :: rest })
  | .insert due =>
      if s.blocked i (p.row due taskUuid) then none
      else
        match TaskService.insertTask (p.row due taskUuid) s.db with
        | some after => some ((s.wrote i taskUuid after).goOn i (p.emit taskUuid rest))
        | none => some ((s.rollback i).goOn i (p.rolledBack rest))
  | .record policyId =>
      some (s.goOn i { p with agenda := rest, recorded := p.recorded ++ [policyId] })

/-- The columns of a task that nothing rewrites. -/
def identity (task : Task) : String × Option String := (task.taskUuid, task.idempotencyKey)

/-- One statement; `none` when the session is not there or has to wait. -/
def step (s : World) : Action → Option World
  | .scan i now =>
      match s.session i with
      | .idle => some (s.goOn i (.begin_ now (fetchEnabledPolicies s.db)))
      | .planning _ => none
  | .advance i taskUuid =>
      match s.session i with
      | .idle => none
      | .planning p =>
          match p.agenda with
          | [] => some (s.finish i p)
          | job :: rest =>
              if p.expired && job.reads then some (s.abort i)
              else perform s i p rest taskUuid job
  | .close i => some (s.abort i)
  | .submitted task =>
      (TaskService.insertTask task s.db).map fun after => { s with db := after }
  | .elsewhere others =>
      if others.task.rows.map identity = s.db.task.rows.map identity then
        some { s with db := others }
      else none

/-- Runs of planner passes, in every interleaving. -/
def planners : Machine World Action where
  step := step

/-- Rows at rest: no pass has begun. -/
def atRest (db : Database) : World := { db }

end Lcp.Planners
