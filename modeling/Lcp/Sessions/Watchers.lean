/-
# Sessions.Watchers -- watch passes, statement by statement

Any number of `run_watch_pass` calls run at once, each on a session of its own.  An
emission is one flush: an UPDATE of the index row and an INSERT of the task.  It locks
both rows, so it waits while another session has flipped the index or has an uncommitted
task with one of the unique keys.

The task table of a world holds committed and uncommitted rows (`tasks`).  Uncommitted
flips stay with their pass until its commit writes them; nobody else writes a locked
index row in the meantime.

What lance reports for an index, and whether a SELECT of the pass reads a snapshot from
before the last commits, is up to the environment.  The rollback after an
`IntegrityError` throws away every uncommitted row and flip of the session and expires
the copies it loaded, so that the next candidate raises; the counters of the report stay.
-/
import Lcp.Sessions.Planners
import Lcp.Services.IndexWatcherService
import Lcp.Theory.OwnedRows

namespace Lcp.Watchers

open Theory Emission IndexWatcherService

set_option autoImplicit false

/-! ## Sessions -/

/-- A candidate with the signal that fired for it. -/
structure Fired where
  candidate : Candidate
  reason : TriggerReason
  decision : TriggerDecision
  latestVersion : Nat

def Fired.key (f : Fired) : String := triggerKey f.candidate.index.id f.latestVersion f.reason

/-- What a pass still has to do. -/
inductive Job where
  /-- Read the stats of the index and decide. -/
  | candidate (candidate : Candidate)
  | lookup (fired : Fired)
  | insert (fired : Fired)

/-- A running `run_watch_pass`. -/
structure Watcher where
  now : DateTime
  agenda : List Job
  report : WatchPassReport := {}
  /-- Indexes with an uncommitted flip. -/
  flipped : List Nat := []
  /-- A rollback expired the copies. -/
  expired : Bool := false

/-- Where a session is. -/
inductive Session where
  | idle
  | watching (watcher : Watcher)

structure World where
  db : Database
  /-- Uncommitted task rows. -/
  owner : RowLocks String Nat := .none_
  /-- Index rows under an uncommitted UPDATE. -/
  locks : RowLocks Nat Nat := .none_
  session : Nat → Session := fun _ => .idle
  returned : List WatchPassReport := []

/-- What the environment contributes to a job. -/
structure Input where
  /-- What `read_index_stats` returns or raises. -/
  stats : Except PyException (Option IndexLiveStats)
  /-- The SELECT reads a snapshot from before the last commits. -/
  hidden : Bool := false
  /-- The `uuid4` of an INSERT. -/
  taskUuid : String

inductive Action where
  /-- The SELECT of the candidates. -/
  | scan (i : Nat) (now : DateTime)
  /-- The next job of the pass. -/
  | advance (i : Nat) (input : Input)
  /-- The session is closed under a call that raised or was cancelled. -/
  | close (i : Nat)
  /-- The committed INSERT of another producer. -/
  | submitted (task : Task)
  /-- The rest of the control plane: it writes other tables, index rows that are not locked, and
  columns of tasks other than their uuid and key. -/
  | elsewhere (others : Database)

namespace Watcher

/-- The pass that has fetched its candidates. -/
def begin_ (now : DateTime) (candidates : List Candidate) : Watcher :=
  { now, agenda := candidates.map .candidate }

/-- The copy of the candidate's index that the session holds. -/
def copy (p : Watcher) (candidate : Candidate) : Index :=
  if candidate.index.id ∈ p.flipped then startOptimize p.now candidate.index else candidate.index

/-- The row that an INSERT of the pass adds. -/
def row (p : Watcher) (f : Fired) (taskUuid : String) : Task :=
  taskRow f.candidate.dataset p.now taskUuid .indexOptimize f.key
    (triggerParams (p.copy f.candidate) f.reason f.decision f.latestVersion)

def emit (p : Watcher) (f : Fired) (rest : List Job) : Watcher :=
  { p with
    agenda := rest
    flipped := p.flipped ++ [f.candidate.index.id]
    report := { p.report with
      enqueuedTasks := p.report.enqueuedTasks + 1
      emittedKeys := p.report.emittedKeys ++ [f.key] } }

/-- A key that is taken. -/
def skip (p : Watcher) (rest : List Job) : Watcher :=
  { p with
    agenda := rest
    report := { p.report with skippedIdempotent := p.report.skippedIdempotent + 1 } }

/-- What the session keeps of the pass after `session.rollback()`: the report. -/
def rolledBack (p : Watcher) (rest : List Job) : Watcher :=
  { p.skip rest with flipped := [], expired := true }

/-- One candidate: its stats, and the lookup of the key when a signal fires. -/
def watch (p : Watcher) (candidate : Candidate) (rest : List Job)
    (stats : Except PyException (Option IndexLiveStats)) : Watcher :=
  let report := { p.report with scannedIndexes := p.report.scannedIndexes + 1 }
  match stats with
  | .error _ =>
      { p with
        agenda := rest
        report := { report with skippedOpenFailed := report.skippedOpenFailed + 1 } }
  | .ok none =>
      { p with
        agenda := rest
        report := { report with skippedNoDataset := report.skippedNoDataset + 1 } }
  | .ok (some stats) =>
      let index := p.copy candidate
      let decision := decideTrigger stats.numUnindexedRows stats.latestVersion
        index.lastSeenVersion index.lastOptimizedAt p.now candidate.policy
      match decision.reason with
      | none =>
          { p with
            agenda := rest
            report := { report with
              skippedBelowThreshold := report.skippedBelowThreshold + 1 } }
      | some reason =>
          { p with
            agenda := .lookup ⟨candidate, reason, decision, stats.latestVersion⟩ :: rest
            report := report }

/-- The flips of the pass. -/
def writeFlips (p : Watcher) (indexes : Table Index Index.id) : Table Index Index.id :=
  p.flipped.foldl (fun indexes id =>
    indexes.update id (startOptimize p.now) (id_startOptimize p.now)) indexes

end Watcher

namespace World

/-- The task rows, committed and not. -/
def tasks (s : World) : OwnedRows Task Task.taskUuid Nat := ⟨s.db.task, s.owner⟩

/-- Move session `i`. -/
def set (s : World) (i : Nat) (session : Session) : World :=
  { s with session := Function.update s.session i session }

/-- Session `i` goes on watching. -/
def goOn (s : World) (i : Nat) (p : Watcher) : World := s.set i (.watching p)

/-- Session `i` has flushed a flip and a task and not committed them. -/
def wrote (s : World) (i : Nat) (indexId : Nat) (taskUuid : String) (after : Database) : World :=
  { s with
    db := after
    owner := s.owner.acquire i [taskUuid]
    locks := s.locks.acquire i [indexId] }

/-- `session.rollback()`: the uncommitted rows of the session go. -/
def rollback (s : World) (i : Nat) : World :=
  { s with
    db := { s.db with task := s.db.task.delete fun task => s.owner task.taskUuid = some i }
    owner := s.owner.release i
    locks := s.locks.release i }

/-- `session.commit()` of a pass. -/
def commit (s : World) (i : Nat) (p : Watcher) : World :=
  { s with
    db := { s.db with vectorIndex := p.writeFlips s.db.vectorIndex }
    owner := s.owner.release i
    locks := s.locks.release i }

/-- The call raises, its session is rolled back and closed. -/
def abort (s : World) (i : Nat) : World := (s.rollback i).set i .idle

/-- No candidate is left: commit if there was one, and return the report. -/
def finish (s : World) (i : Nat) (p : Watcher) : World :=
  let ended := if p.report.scannedIndexes ≠ 0 then s.commit i p else s.rollback i
  { ended.set i .idle with returned := s.returned ++ [p.report] }

/-- What the SELECT of a key finds; a snapshot shows the session its own rows all the same. -/
def finds (s : World) (i : Nat) (key : String) (hidden : Bool) : Bool :=
  s.db.task.rows.any fun task =>
    task.idempotencyKey = some key ∧
      (s.owner task.taskUuid = some i ∨ (s.owner task.taskUuid = none ∧ !hidden))

/-- Another session has flipped the index, or has an uncommitted row with a unique key of the
new one. -/
def blocked (s : World) (i : Nat) (indexId : Nat) (row : Task) : Bool :=
  !s.locks.openTo i indexId || s.db.task.rows.any fun task =>
    (task.idempotencyKey = row.idempotencyKey ∨ task.taskUuid = row.taskUuid) ∧
      s.owner.openTo i task.taskUuid = false

end World

/-! ## Steps -/

/-- The flush of an emission; `none` when it has to wait. -/
def flush (s : World) (i : Nat) (p : Watcher) (rest : List Job) (f : Fired)
    (taskUuid : String) : Option World :=
  if s.blocked i f.candidate.index.id (p.row f taskUuid) then none
  else
    match s.db.vectorIndex.get f.candidate.index.id with
    -- The UPDATE matches no row, which the ORM raises.
    | none => some (s.abort i)
    | some _ =>
        match TaskService.insertTask (p.row f taskUuid) s.db with
        | some after =>
            some ((s.wrote i f.candidate.index.id taskUuid after).goOn i (p.emit f rest))
        | none => some ((s.rollback i).goOn i (p.rolledBack rest))

/-- One job of session `i`. -/
def perform (s : World) (i : Nat) (p : Watcher) (rest : List Job) (input : Input) :
    Job → Option World
  | .candidate candidate => some (s.goOn i (p.watch candidate rest input.stats))
  | .lookup f =>
      if s.finds i f.key input.hidden then some (s.goOn i (p.skip rest))
      else some (s.goOn i { p with agenda := .insert f :: rest })
  | .insert f => flush s i p rest f input.taskUuid

/-- Other writers leave the tasks' identity and the locked index rows alone. -/
def Leaves (s : World) (others : Database) : Prop :=
  others.task.rows.map Planners.identity = s.db.task.rows.map Planners.identity ∧
    ∀ index ∈ s.db.vectorIndex.rows, s.locks index.id ≠ none →
      others.vectorIndex.get index.id = some index

instance (s : World) (others : Database) : Decidable (Leaves s others) :=
  inferInstanceAs (Decidable (_ ∧ _))

/-- One statement; `none` when the session is not there or has to wait. -/
def step (s : World) : Action → Option World
  | .scan i now =>
      match s.session i with
      | .idle => some (s.goOn i (.begin_ now (fetchCandidates s.db)))
      | .watching _ => none
  | .advance i input =>
      match s.session i with
      | .idle => none
      | .watching p =>
          match p.agenda with
          | [] => some (s.finish i p)
          | job :: rest =>
              if p.expired then some (s.abort i) else perform s i p rest input job
  | .close i => some (s.abort i)
  | .submitted task =>
      (TaskService.insertTask task s.db).map fun after => { s with db := after }
  | .elsewhere others => if Leaves s others then some { s with db := others } else none

/-- Runs of watch passes, in every interleaving. -/
def watchers : Machine World Action where
  step := step

/-- Rows at rest: no pass has begun. -/
def atRest (db : Database) : World := { db }

end Lcp.Watchers
