/-
# Workers.LifecycleWorker -- the worker daemon

`_run` registers the worker, starts a heartbeat loop and a planner loop beside itself on the
event loop, and runs iterations until a signal or the iteration bound ends it.  A signal
only sets an event, so the iteration that is under way runs to its end; what an iteration
raises is caught by nobody and ends the loop.

The three loops use a database session each, and the statements of these sessions
interleave with each other and with those of every other process: other workers, reapers,
clients that cancel and retry, producers that insert tasks.

`clean_exit`: a daemon that returns left no task RUNNING under its id and no session open,
whatever the others did and whichever heartbeats and planner ticks failed.
-/
import Lcp.Sessions.Neighbours

namespace Lcp.LifecycleWorker

open Theory

set_option autoImplicit false

/-! ## The process -/

/-- What `_run` reads of the parsed arguments. -/
structure Args where
  workerId : Option String := none
  taskType : Option TaskType := none
  /-- 0 is forever. -/
  maxIterations : Int := 0
  plannerSeconds : Int := 60
  disablePlanner : Bool := false

/-- `args.worker_id or _default_worker_id()`. -/
def Args.workerIdOr (drawn : String) (args : Args) : String :=
  match args.workerId with
  | some workerId => if workerId = "" then drawn else workerId
  | none => drawn

/-- Where the main loop is. -/
inductive Phase where
  | starting
  /-- At `while not shutdown.is_set()`. -/
  | testing
  /-- In `run_iteration`: whether its first statement was sent, whether it claimed. -/
  | iterating (began claimed : Bool)
  | sleeping (claimed : Bool)
  /-- In the `finally` block, with an exception to raise again or without. -/
  | finishing (raised : Bool)
  | ended (raised : Bool)
deriving DecidableEq

/-- Where a background task is. -/
inductive Background where
  | absent
  /-- In `wait_for(shutdown.wait(), timeout=interval)`. -/
  | waiting
  | working (began : Bool)
  | finished
deriving DecidableEq

/-- The task has not ended. -/
def Background.isUp : Background → Bool
  | .waiting | .working _ => true
  | .absent | .finished => false

/-- The daemon and the sessions of all processes. -/
structure World where
  sessions : Sessions.World
  args : Args
  workerId : String
  leaseId : String := ""
  phase : Phase := .starting
  iteration : Nat := 0
  shutdown : Bool := false
  heartbeat : Background := .absent
  planner : Background := .absent

/-- A fresh process. -/
def boot (args : Args) (drawn : String) (sessions : Sessions.World) : World :=
  { sessions, args, workerId := args.workerIdOr drawn }

/-- The session of the main loop; each iteration opens it anew. -/
def mainSession : Nat := 0

def heartbeatSession : Nat := 1

/-- One step of a loop of the daemon, or of another process. -/
inductive Action where
  | register (now : DateTime) (newLease : String)
  | registerRaised
  /-- SIGINT or SIGTERM. -/
  | signal
  | test
  | iterate (statement : Sessions.Action)
  /-- `run_iteration` returned. -/
  | returned
  /-- `run_iteration` raised, at whatever statement. -/
  | raised
  /-- The sleep ended: its timeout, or the event. -/
  | woke
  | beatDue
  | beat (statement : Sessions.Action)
  /-- The heartbeat's session closed; its errors are swallowed. -/
  | beatOver
  | planDue
  | plan (draw : Nat → String) (now : DateTime)
  | planOver
  | cancelHeartbeat
  | cancelPlanner
  | exit
  | other (statement : Sessions.Action)
  /-- Another process inserts a task. -/
  | emitted (row : Task)

namespace World

/-- The statements of `run_iteration`. -/
def issues (s : World) : Bool → Sessions.Action → Bool
  | false, .claim i workerId leaseId taskType =>
      i = mainSession ∧ workerId = s.workerId ∧ leaseId = s.leaseId ∧ taskType = s.args.taskType
  | true, .lockTask i .. | true, .update i | true, .commit i | true, .refresh i |
    true, .finalize i .. | true, .executorRaised i .. => i = mainSession
  | _, _ => false

/-- The statements of `heartbeat`. -/
def issuesBeat (s : World) : Bool → Sessions.Action → Bool
  | false, .heartbeat i workerId leaseId _ =>
      i = heartbeatSession ∧ workerId = s.workerId ∧ leaseId = s.leaseId
  | true, .update i | true, .commit i => i = heartbeatSession
  | _, _ => false

/-- The statements of other processes: none of them runs under this worker's id. -/
def isForeign (s : World) (statement : Sessions.Action) : Bool :=
  (statement.session ≠ mainSession ∧ statement.session ≠ heartbeatSession) &&
    match statement with
    | .claim _ workerId _ _ => workerId ≠ s.workerId
    | _ => true

/-- The claim of the iteration is committed. -/
def claims : Sessions.Action → Bool
  | .refresh _ => true
  | _ => false

/-- `run_iteration` has nothing left to send: the worker may not claim, there is no task to
lock, or the task is finished. -/
def isOver (s : World) : Bool :=
  match s.sessions.session mainSession with
  | .idle => true
  | .validated _ taskType =>
      s.sessions.db.task.rows.all fun task => !s.sessions.selectable taskType task
  | _ => false

/-- `max-iterations` is reached. -/
def reached (s : World) (iteration : Nat) : Bool :=
  s.args.maxIterations ≠ 0 ∧ s.args.maxIterations ≤ iteration

/-- Close the session of an iteration. -/
def closeMain (s : World) : World := { s with sessions := s.sessions.leave mainSession .idle }

def closeHeartbeat (s : World) : World :=
  { s with sessions := s.sessions.leave heartbeatSession .idle }

/-- Enter the `finally` block, which sets the event. -/
def finish (s : World) (raised : Bool) : World :=
  { s with phase := .finishing raised, shutdown := true }

/-- What `while not shutdown.is_set()` makes of a background task. -/
def goOn (s : World) : Background := if s.shutdown then .finished else .waiting

/-- After an iteration that returned. -/
def iterated (s : World) (claimed : Bool) : World :=
  let s := { s.closeMain with iteration := s.iteration + 1 }
  if s.reached s.iteration then s.finish false else { s with phase := .sleeping claimed }

/-- The worker is registered: start the loops. -/
def started (s : World) (leaseId : String) (db : Database) : World :=
  { s with
    sessions := { s.sessions with db }
    leaseId
    phase := .testing
    heartbeat := .waiting
    planner := if s.args.disablePlanner = false ∧ 0 < s.args.plannerSeconds then .waiting
      else .absent }

/-- The rows after a planner tick; a tick that raises is logged. -/
def planned (s : World) (draw : Nat → String) (now : DateTime) : Database :=
  match LifecyclePlannerService.planOnce draw now (some (systemPrincipal "scheduler"))
      s.sessions.db with
  | .ok (_, after) => after
  | .error _ => s.sessions.db

end World

open World

/-- One step; `none` when the loop is not there or its statement has to wait. -/
def step (s : World) : Action → Option World
  | .register now newLease =>
      match s.phase, SchedulerService.registerWorker (some (systemPrincipal "scheduler")) now
          newLease { workerId := s.workerId, workerType := "lifecycle" } s.sessions.db with
      | .starting, .ok after =>
          if s.sessions.workerLock s.workerId = none then some (s.started newLease after) else none
      | _, _ => none
  | .registerRaised => if s.phase = .starting then some { s with phase := .ended true } else none
  | .signal => some { s with shutdown := true }
  | .test =>
      if s.phase = .testing then
        some (if s.shutdown then s.finish false else { s with phase := .iterating false false })
      else none
  | .iterate statement =>
      match s.phase with
      | .iterating began claimed =>
          if s.issues began statement then
            (Sessions.step s.sessions statement).map fun sessions =>
              { s with sessions, phase := .iterating true (claimed || claims statement) }
          else none
      | _ => none
  | .returned =>
      match s.phase with
      | .iterating true claimed => if s.isOver then some (s.iterated claimed) else none
      | _ => none
  | .raised =>
      match s.phase with
      | .iterating .. => some (s.closeMain.finish true)
      | _ => none
  | .woke =>
      match s.phase with
      | .sleeping _ => some { s with phase := .testing }
      | _ => none
  | .beatDue =>
      match s.heartbeat with
      | .waiting =>
          some { s with heartbeat := if s.shutdown then .finished else .working false }
      | _ => none
  | .beat statement =>
      match s.heartbeat with
      | .working began =>
          if s.issuesBeat began statement then
            (Sessions.step s.sessions statement).map fun sessions =>
              { s with sessions, heartbeat := .working true }
          else none
      | _ => none
  | .beatOver =>
      match s.heartbeat with
      | .working _ => some { s.closeHeartbeat with heartbeat := s.goOn }
      | _ => none
  | .planDue =>
      match s.planner with
      | .waiting => some { s with planner := if s.shutdown then .finished else .working false }
      | _ => none
  | .plan draw now =>
      match s.planner with
      | .working false =>
          some { s with
            sessions := { s.sessions with db := s.planned draw now }, planner := .working true }
      | _ => none
  | .planOver =>
      match s.planner with
      | .working _ => some { s with planner := s.goOn }
      | _ => none
  | .cancelHeartbeat =>
      match s.phase with
      | .finishing _ =>
          if s.heartbeat ≠ .finished then some { s.closeHeartbeat with heartbeat := .finished }
          else none
      | _ => none
  | .cancelPlanner =>
      match s.phase with
      | .finishing _ =>
          if s.heartbeat = .finished ∧ s.planner.isUp then some { s with planner := .finished }
          else none
      | _ => none
  | .exit =>
      match s.phase with
      | .finishing raised =>
          if s.heartbeat = .finished ∧ ¬ s.planner.isUp then some { s with phase := .ended raised }
          else none
      | _ => none
  | .other statement =>
      if s.isForeign statement then
        (Sessions.step s.sessions statement).map fun sessions => { s with sessions }
      else none
  | .emitted row =>
      if row.status = .pending then
        (TaskService.insertTask row s.sessions.db).map fun db =>
          { s with sessions := { s.sessions with db } }
      else none

/-- Runs of the daemon among the other processes. -/
def daemon : Machine World Action where
  step := step

/-! ## What a step can do -/

/-- **What a step can do.** -/
inductive Move (s : World) : Action → World → Prop
  | registered {now : DateTime} {newLease : String} {db : Database} (phase : s.phase = .starting)
      (free : s.sessions.workerLock s.workerId = none)
      (ran : SchedulerService.registerWorker (some (systemPrincipal "scheduler")) now newLease
        { workerId := s.workerId, workerType := "lifecycle" } s.sessions.db = .ok db) :
      Move s (.register now newLease) (s.started newLease db)
  | unregistered (phase : s.phase = .starting) :
      Move s .registerRaised { s with phase := .ended true }
  | signal : Move s .signal { s with shutdown := true }
  | stops (phase : s.phase = .testing) (set : s.shutdown = true) : Move s .test (s.finish false)
  | begins (phase : s.phase = .testing) (clear : s.shutdown = false) :
      Move s .test { s with phase := .iterating false false }
  | sent {statement : Sessions.Action} {began claimed : Bool} {sessions : Sessions.World}
      (phase : s.phase = .iterating began claimed) (issues : s.issues began statement = true)
      (stepped : Sessions.step s.sessions statement = some sessions) :
      Move s (.iterate statement)
        { s with sessions, phase := .iterating true (claimed || claims statement) }
  | returned {claimed : Bool} (phase : s.phase = .iterating true claimed)
      (ended : s.isOver = true) : Move s .returned (s.iterated claimed)
  | raised {began claimed : Bool} (phase : s.phase = .iterating began claimed) :
      Move s .raised (s.closeMain.finish true)
  | woke {claimed : Bool} (phase : s.phase = .sleeping claimed) :
      Move s .woke { s with phase := .testing }
  | beatDue (waits : s.heartbeat = .waiting) :
      Move s .beatDue { s with heartbeat := if s.shutdown then .finished else .working false }
  | beat {statement : Sessions.Action} {began : Bool} {sessions : Sessions.World}
      (works : s.heartbeat = .working began) (issues : s.issuesBeat began statement = true)
      (stepped : Sessions.step s.sessions statement = some sessions) :
      Move s (.beat statement) { s with sessions, heartbeat := .working true }
  | beatOver {began : Bool} (works : s.heartbeat = .working began) :
      Move s .beatOver { s.closeHeartbeat with heartbeat := s.goOn }
  | planDue (waits : s.planner = .waiting) :
      Move s .planDue { s with planner := if s.shutdown then .finished else .working false }
  | plan {draw : Nat → String} {now : DateTime} (works : s.planner = .working false) :
      Move s (.plan draw now)
        { s with
          sessions := { s.sessions with db := s.planned draw now }
          planner := .working true }
  | planOver {began : Bool} (works : s.planner = .working began) :
      Move s .planOver { s with planner := s.goOn }
  | heartbeatCancelled {raised : Bool} (phase : s.phase = .finishing raised)
      (up : s.heartbeat ≠ .finished) :
      Move s .cancelHeartbeat { s.closeHeartbeat with heartbeat := .finished }
  | plannerCancelled {raised : Bool} (phase : s.phase = .finishing raised)
      (down : s.heartbeat = .finished) (up : s.planner.isUp = true) :
      Move s .cancelPlanner { s with planner := .finished }
  | exit {raised : Bool} (phase : s.phase = .finishing raised) (down : s.heartbeat = .finished)
      (plannerDown : s.planner.isUp = false) : Move s .exit { s with phase := .ended raised }
  | other {statement : Sessions.Action} {sessions : Sessions.World}
      (foreign : s.isForeign statement = true)
      (stepped : Sessions.step s.sessions statement = some sessions) :
      Move s (.other statement) { s with sessions }
  | emitted {row : Task} {db : Database} (waiting : row.status = .pending)
      (inserted : TaskService.insertTask row s.sessions.db = some db) :
      Move s (.emitted row) { s with sessions := { s.sessions with db } }

theorem step_move {s t : World} {a : Action} (stepped : daemon.step s a = some t) :
    Move s a t := by
  change step s a = some t at stepped
  cases a with
  | register now newLease =>
      simp only [step] at stepped
      split at stepped
      · rename_i phase ran
        split at stepped
        · rename_i free
          cases stepped
          exact .registered phase free ran
        · cases stepped
      · cases stepped
  | registerRaised =>
      simp only [step] at stepped
      split at stepped
      · rename_i phase
        cases stepped
        exact .unregistered phase
      · cases stepped
  | signal =>
      cases stepped
      exact .signal
  | test =>
      simp only [step] at stepped
      split at stepped
      · rename_i phase
        by_cases set : s.shutdown = true
        · rw [if_pos set] at stepped
          cases stepped
          exact .stops phase set
        · rw [if_neg set] at stepped
          cases stepped
          exact .begins phase (by simpa using set)
      · cases stepped
  | iterate statement =>
      simp only [step] at stepped
      split at stepped
      · rename_i began claimed phase
        split at stepped
        · rename_i issues
          obtain ⟨sessions, sent, rfl⟩ := Option.map_eq_some_iff.1 stepped
          exact .sent phase issues sent
        · cases stepped
      · cases stepped
  | returned =>
      simp only [step] at stepped
      split at stepped
      · rename_i claimed phase
        split at stepped
        · rename_i ended
          cases stepped
          exact .returned phase ended
        · cases stepped
      · cases stepped
  | raised =>
      simp only [step] at stepped
      split at stepped
      · rename_i began claimed phase
        cases stepped
        exact .raised phase
      · cases stepped
  | woke =>
      simp only [step] at stepped
      split at stepped
      · rename_i claimed phase
        cases stepped
        exact .woke phase
      · cases stepped
  | beatDue =>
      simp only [step] at stepped
      split at stepped
      · rename_i waits
        cases stepped
        exact .beatDue waits
      · cases stepped
  | beat statement =>
      simp only [step] at stepped
      split at stepped
      · rename_i began works
        split at stepped
        · rename_i issues
          obtain ⟨sessions, sent, rfl⟩ := Option.map_eq_some_iff.1 stepped
          exact .beat works issues sent
        · cases stepped
      · cases stepped
  | beatOver =>
      simp only [step] at stepped
      split at stepped
      · rename_i began works
        cases stepped
        exact .beatOver works
      · cases stepped
  | planDue =>
      simp only [step] at stepped
      split at stepped
      · rename_i waits
        cases stepped
        exact .planDue waits
      · cases stepped
  | plan draw now =>
      simp only [step] at stepped
      split at stepped
      · rename_i works
        cases stepped
        exact .plan works
      · cases stepped
  | planOver =>
      simp only [step] at stepped
      split at stepped
      · rename_i began works
        cases stepped
        exact .planOver works
      · cases stepped
  | cancelHeartbeat =>
      simp only [step] at stepped
      split at stepped
      · rename_i raised phase
        split at stepped
        · rename_i up
          cases stepped
          exact .heartbeatCancelled phase up
        · cases stepped
      · cases stepped
  | cancelPlanner =>
      simp only [step] at stepped
      split at stepped
      · rename_i raised phase
        split at stepped
        · rename_i up
          cases stepped
          exact .plannerCancelled phase up.1 up.2
        · cases stepped
      · cases stepped
  | exit =>
      simp only [step] at stepped
      split at stepped
      · rename_i raised phase
        split at stepped
        · rename_i down
          cases stepped
          exact .exit phase down.1 (by simpa using down.2)
        · cases stepped
      · cases stepped
  | other statement =>
      simp only [step] at stepped
      split at stepped
      · rename_i foreign
        obtain ⟨sessions, sent, rfl⟩ := Option.map_eq_some_iff.1 stepped
        exact .other foreign sent
      · cases stepped
  | emitted row =>
      simp only [step] at stepped
      split at stepped
      · rename_i waiting
        obtain ⟨db, inserted, rfl⟩ := Option.map_eq_some_iff.1 stepped
        exact .emitted waiting inserted
      · cases stepped

theorem session_of_issues {s : World} {began : Bool} {statement : Sessions.Action}
    (issues : s.issues began statement = true) : statement.session = mainSession := by
  unfold World.issues at issues
  split at issues <;> simp_all [Sessions.Action.session]

theorem session_of_issuesBeat {s : World} {began : Bool} {statement : Sessions.Action}
    (issues : s.issuesBeat began statement = true) : statement.session = heartbeatSession := by
  unfold World.issuesBeat at issues
  split at issues <;> simp_all [Sessions.Action.session]

/-! ## What the daemon can rely on -/

open Sessions (Rested Fenced AttendedBy Grown Sound)

def isMain (i : Nat) : Bool := i = mainSession

/-- The iteration has sent statements in its session. -/
def Phase.inSession : Phase → Bool
  | .iterating began _ => began
  | _ => false

/-- An iteration raised. -/
def Phase.faulty : Phase → Bool
  | .finishing raised | .ended raised => raised
  | _ => false

/-- The background tasks are not there yet, or no longer. -/
def Phase.isOutside : Phase → Bool
  | .starting | .ended _ => true
  | _ => false

def Background.inSession : Background → Bool
  | .working began => began
  | _ => false

theorem Background.inSession_of_down {task : Background} (down : task.isUp = false) :
    task.inSession = false := by
  cases task with
  | working began => cases down
  | absent | waiting | finished => rfl

/-- The other processes leave the id and the sessions of the daemon alone. -/
structure Base (workerId : String) (s : Sessions.World) : Prop where
  sound : Sound s
  fenced : Fenced isMain workerId s

namespace Base

variable {workerId : String} {s t : Sessions.World} {statement : Sessions.Action}

theorem step (base : Base workerId s) (stepped : Sessions.step s statement = some t)
    (own : isMain statement.session = false →
      ∀ i leaseId taskType, statement ≠ .claim i workerId leaseId taskType) : Base workerId t :=
  ⟨(Sessions.step_move stepped).sound base.sound, base.fenced.step stepped own⟩

theorem leave (base : Base workerId s) (i : Nat) : Base workerId (s.leave i .idle) := by
  have closed : Sessions.step s (.close i) = some (s.leave i .idle) := rfl
  exact base.step closed (by simp)

theorem grow (base : Base workerId s) {db : Database} (grown : Grown s.db db) :
    Base workerId { s with db } :=
  ⟨base.sound.grow grown, base.fenced⟩

/-- Registration writes a row that no session holds. -/
theorem register (base : Base workerId s) {now : DateTime} {newLease : String}
    {principal : Option TenantPrincipal} {args : SchedulerService.Registration} {db : Database}
    (free : s.workerLock args.workerId = none)
    (ran : SchedulerService.registerWorker principal now newLease args s.db = .ok db) :
    Base workerId { s with db } := by
  have unheld : ∀ i k, s.workerLock.Held i k → k ≠ args.workerId := by
    rintro i k held rfl
    have holder : s.workerLock args.workerId = some i := held
    rw [free] at holder
    cases holder
  refine ⟨?_, base.fenced⟩
  obtain ⟨-, registry, inserted, rfl⟩ | ⟨existing, -, rfl⟩ :=
    SchedulerService.registerWorker_cases ran
  · exact base.sound.withRows (fun _ _ => id) fun i k held =>
      Table.get_insert?_of_ne inserted (unheld i k held)
  · exact base.sound.withRows (fun _ _ => id) fun i k held =>
      (Table.get_update _ _ _ _ (args.workerId_refresh newLease now)).trans
        (if_neg (unheld i k held))

end Base

theorem grown_planned (s : World) (draw : Nat → String) (now : DateTime) :
    Grown s.sessions.db (s.planned draw now) := by
  unfold World.planned
  split
  · rename_i ran
    exact Grown.planOnce ran
  · exact Grown.refl _

/-- What holds of the daemon at every step. -/
structure Inv (s : World) : Prop where
  base : Base s.workerId s.sessions
  attended : s.phase.faulty = false → AttendedBy isMain s.workerId s.sessions
  main : s.phase.inSession = false → Rested mainSession s.sessions
  heartbeat : s.heartbeat.inSession = false → Rested heartbeatSession s.sessions
  outside : s.phase.isOutside = true → s.heartbeat.isUp = false

namespace Inv

variable {s t : World}

/-- A statement that is not the main loop's. -/
theorem foreign {statement : Sessions.Action} {sessions : Sessions.World} {beats : Background}
    (inv : Inv s) (stepped : Sessions.step s.sessions statement = some sessions)
    (main : statement.session ≠ mainSession)
    (unclaimed : ∀ i leaseId taskType, statement ≠ .claim i s.workerId leaseId taskType)
    (beat : beats.inSession = false → s.heartbeat.inSession = false ∧
      statement.session ≠ heartbeatSession)
    (outside : s.phase.isOutside = true → beats.isUp = false) :
    Inv { s with sessions, heartbeat := beats } := by
  have moved := Sessions.step_move stepped
  have notMain : isMain statement.session = false := by simp [isMain, main]
  refine ⟨inv.base.step stepped fun _ => unclaimed, fun calm => ?_, fun ended => ?_,
    fun ended => ?_, outside⟩
  · refine Sessions.attended_step inv.base.sound (inv.attended calm) ?_ stepped
    exact inv.base.fenced.spares fun i closes => by
      rw [closes] at notMain
      exact notMain
  · exact (inv.main ended).step moved (Ne.symm main)
  · exact (inv.heartbeat (beat ended).1).step moved (Ne.symm (beat ended).2)

/-- A statement of the iteration. -/
theorem iterate {statement : Sessions.Action} {sessions : Sessions.World}
    {began claimed after : Bool}
    (inv : Inv s) (phase : s.phase = .iterating began claimed)
    (issues : s.issues began statement = true)
    (stepped : Sessions.step s.sessions statement = some sessions) :
    Inv { s with sessions, phase := .iterating true after } := by
  have moved := Sessions.step_move stepped
  have own := session_of_issues issues
  have calm : s.phase.faulty = false := by
    rw [phase]
    rfl
  have opens : ∀ i, statement ≠ .close i := by
    rintro i rfl
    cases began <;> cases issues
  refine ⟨inv.base.step stepped ?_, fun _ => ?_, nofun, fun ended => ?_, nofun⟩
  · intro outside
    simp [isMain, own] at outside
  · refine Sessions.attended_step inv.base.sound (inv.attended calm) ?_ stepped
    exact inv.base.fenced.spares fun i closes => absurd closes (opens i)
  · refine (inv.heartbeat ended).step moved ?_
    rw [own]
    decide

/-- A step that sends nothing and closes nothing. -/
theorem control (inv : Inv s) (sessions : t.sessions = s.sessions)
    (workerId : t.workerId = s.workerId)
    (faulty : t.phase.faulty = false → s.phase.faulty = false)
    (main : t.phase.inSession = false → s.phase.inSession = false)
    (heartbeat : t.heartbeat.inSession = false → s.heartbeat.inSession = false)
    (outside : t.phase.isOutside = true → t.heartbeat.isUp = false) : Inv t where
  base := by
    rw [sessions, workerId]
    exact inv.base
  attended calm := by
    rw [sessions, workerId]
    exact inv.attended (faulty calm)
  main ended := by
    rw [sessions]
    exact inv.main (main ended)
  heartbeat ended := by
    rw [sessions]
    exact inv.heartbeat (heartbeat ended)
  outside := outside

/-- The rows of waiting tasks grow. -/
theorem grow (inv : Inv s) {db : Database} (grown : Grown s.sessions.db db) :
    Inv { s with sessions := { s.sessions with db } } where
  base := inv.base.grow grown
  attended calm := (inv.attended calm).grow grown
  main ended := (inv.main ended).withRows db
  heartbeat ended := (inv.heartbeat ended).withRows db
  outside := inv.outside

theorem planned (inv : Inv s) (draw : Nat → String) (now : DateTime) :
    Inv { s with sessions := { s.sessions with db := s.planned draw now } } :=
  inv.grow (grown_planned s draw now)

/-- The session of an iteration that returned attends nothing. -/
theorem closeMain (inv : Inv s) (ended : s.isOver = true) (calm : s.phase.faulty = false) :
    AttendedBy isMain s.workerId s.closeMain.sessions := by
  refine Sessions.attended_step (a := .close mainSession) inv.base.sound (inv.attended calm) ?_ rfl
  have idle : ∀ k, (s.sessions.session mainSession).attends s.workerId k = false := by
    intro k
    unfold World.isOver at ended
    split at ended
    · rename_i was
      rw [was]
      rfl
    · rename_i was
      rw [was]
      rfl
    · cases ended
  simp [Sessions.spares, idle]

theorem returned (inv : Inv s) {claimed : Bool} (phase : s.phase = .iterating true claimed)
    (ended : s.isOver = true) : Inv (s.iterated claimed) := by
  have calm : s.phase.faulty = false := by
    rw [phase]
    rfl
  have attended := inv.closeMain ended calm
  have main : Rested mainSession s.closeMain.sessions := Rested.leave _ _
  have heartbeat : s.heartbeat.inSession = false → Rested heartbeatSession s.closeMain.sessions :=
    fun ended => (inv.heartbeat ended).leave_other (by decide)
  have base := inv.base.leave mainSession
  unfold World.iterated
  simp only
  split
  · exact ⟨base, fun _ => attended, fun _ => main, heartbeat, nofun⟩
  · exact ⟨base, fun _ => attended, fun _ => main, heartbeat, nofun⟩

theorem raised (inv : Inv s) : Inv (s.closeMain.finish true) where
  base := inv.base.leave mainSession
  attended := nofun
  main _ := Rested.leave _ _
  heartbeat ended := (inv.heartbeat ended).leave_other (by decide)
  outside := nofun

theorem closeHeartbeat (inv : Inv s) (after : Background)
    (outside : s.phase.isOutside = true → after.isUp = false) :
    Inv { s.closeHeartbeat with heartbeat := after } := by
  have opened : isMain heartbeatSession = false := by decide
  refine ⟨inv.base.leave heartbeatSession, fun calm => ?_, fun ended => ?_,
    fun _ => Rested.leave _ _, outside⟩
  · refine Sessions.attended_step (a := .close heartbeatSession) inv.base.sound
      (inv.attended calm) ?_ rfl
    simp [Sessions.spares, opened]
  · exact (inv.main ended).leave_other (by decide)

theorem register (inv : Inv s) {now : DateTime} {newLease : String} {db : Database}
    (phase : s.phase = .starting) (free : s.sessions.workerLock s.workerId = none)
    (ran : SchedulerService.registerWorker (some (systemPrincipal "scheduler")) now newLease
      { workerId := s.workerId, workerType := "lifecycle" } s.sessions.db = .ok db) :
    Inv (s.started newLease db) := by
  have tasks : db.task = s.sessions.db.task := by
    obtain ⟨-, registry, -, rfl⟩ | ⟨existing, -, rfl⟩ := SchedulerService.registerWorker_cases ran
      <;> rfl
  refine ⟨inv.base.register free ran, fun _ task member runs => ?_, fun _ => ?_, fun _ => ?_,
    nofun⟩
  · have calm : s.phase.faulty = false := by
      rw [phase]
      rfl
    exact inv.attended calm task (tasks ▸ member) runs
  · refine (inv.main ?_).withRows db
    rw [phase]
    rfl
  · refine (inv.heartbeat ?_).withRows db
    refine Background.inSession_of_down (inv.outside ?_)
    rw [phase]
    rfl

/-- **Every step keeps the invariant.** -/
theorem step {a : Action} (inv : Inv s) (stepped : daemon.step s a = some t) : Inv t := by
  cases step_move stepped with
  | registered phase free ran => exact inv.register phase free ran
  | unregistered phase =>
      exact inv.control rfl rfl nofun (fun _ => by rw [phase]; rfl) id fun _ =>
        inv.outside (by rw [phase]; rfl)
  | signal => exact inv.control rfl rfl id id id inv.outside
  | stops phase | begins phase =>
      exact inv.control rfl rfl (fun _ => by rw [phase]; rfl) (fun _ => by rw [phase]; rfl) id nofun
  | sent phase issues sent => exact inv.iterate phase issues sent
  | returned phase ended => exact inv.returned phase ended
  | raised phase => exact inv.raised
  | woke phase =>
      exact inv.control rfl rfl (fun _ => by rw [phase]; rfl) (fun _ => by rw [phase]; rfl) id nofun
  | beatDue waits =>
      refine inv.control rfl rfl id id (fun _ => by rw [waits]; rfl) fun phase => ?_
      have down := inv.outside phase
      rw [waits] at down
      cases down
  | @beat statement began sessions works issues sent =>
      refine inv.foreign sent (by rw [session_of_issuesBeat issues]; decide) ?_ nofun
        fun phase => ?_
      · rintro i leaseId taskType rfl
        cases began <;> cases issues
      · have down := inv.outside phase
        rw [works] at down
        cases down
  | beatOver works =>
      refine inv.closeHeartbeat _ fun phase => ?_
      have down := inv.outside phase
      rw [works] at down
      cases down
  | planDue | planOver => exact inv.control rfl rfl id id id inv.outside
  | @plan draw now works => exact (inv.planned draw now).control rfl rfl id id id inv.outside
  | heartbeatCancelled phase up =>
      refine inv.closeHeartbeat _ fun outside => ?_
      rw [phase] at outside
      cases outside
  | plannerCancelled phase down up => exact inv.control rfl rfl id id id inv.outside
  | exit phase down plannerDown =>
      refine inv.control rfl rfl (fun calm => ?_) (fun _ => ?_) id fun _ => ?_
      · rw [phase]
        exact calm
      · rw [phase]
        rfl
      · rw [down]
        rfl
  | @other statement sessions foreign sent =>
      obtain ⟨apart, unclaimed⟩ := Bool.and_eq_true_iff.1 foreign
      obtain ⟨main, beat⟩ := of_decide_eq_true apart
      have others : ∀ i leaseId taskType, statement ≠ .claim i s.workerId leaseId taskType := by
        rintro i leaseId taskType rfl
        simp at unclaimed
      have kept : s.heartbeat.inSession = false → s.heartbeat.inSession = false ∧
          statement.session ≠ heartbeatSession := fun ended => ⟨ended, beat⟩
      exact inv.foreign sent main others kept inv.outside
  | emitted waiting inserted => exact inv.grow (Grown.insertTask waiting inserted)

end Inv

/-! ## The iteration bound -/

/-- Before the `finally` block. -/
def Phase.isLooping : Phase → Bool
  | .finishing _ | .ended _ => false
  | _ => true

/-- A negative bound is reached by the first iteration. -/
def Args.limit (args : Args) : Int := max 1 args.maxIterations

/-- The bound counts down while the loop runs. -/
structure Bounded (s : World) : Prop where
  looping : s.args.maxIterations ≠ 0 → s.phase.isLooping = true → s.iteration < s.args.limit
  always : s.args.maxIterations ≠ 0 → s.iteration ≤ s.args.limit

namespace Bounded

variable {s t : World}

/-- A step that neither ends an iteration nor returns to the loop. -/
theorem control (bounded : Bounded s) (args : t.args = s.args)
    (iteration : t.iteration = s.iteration)
    (looping : t.phase.isLooping = true → s.phase.isLooping = true) : Bounded t where
  looping bound loops := by
    rw [args] at bound ⊢
    rw [iteration]
    exact bounded.looping bound (looping loops)
  always bound := by
    rw [args] at bound ⊢
    rw [iteration]
    exact bounded.always bound

theorem iterated (bounded : Bounded s) (claimed : Bool) (loops : s.phase.isLooping = true) :
    Bounded (s.iterated claimed) := by
  unfold World.iterated
  simp only
  split
  · rename_i reached
    refine ⟨nofun, fun bound => ?_⟩
    have before := bounded.looping bound loops
    show ((s.iteration + 1 : Nat) : Int) ≤ s.args.limit
    omega
  · rename_i free
    have more : s.args.maxIterations ≠ 0 → ((s.iteration + 1 : Nat) : Int) < s.args.limit := by
      intro bound
      have below : ¬ s.args.maxIterations ≤ ((s.iteration + 1 : Nat) : Int) := by
        intro reaches
        exact free (decide_eq_true ⟨bound, reaches⟩)
      unfold Args.limit
      omega
    exact ⟨fun bound _ => more bound, fun bound => (more bound).le⟩

theorem step {a : Action} (bounded : Bounded s) (stepped : daemon.step s a = some t) :
    Bounded t := by
  cases step_move stepped with
  | returned phase ended => exact bounded.iterated _ (by rw [phase]; rfl)
  | registered phase | begins phase | sent phase | woke phase =>
      exact bounded.control rfl rfl fun _ => by rw [phase]; rfl
  | unregistered | stops | raised | exit => exact bounded.control rfl rfl nofun
  | signal | beatDue | beat | beatOver | planDue | plan | planOver | heartbeatCancelled |
    plannerCancelled | other | emitted => exact bounded.control rfl rfl id

end Bounded

/-! ## The end of the daemon -/

/-- The other processes when the daemon starts: they are anywhere in their own calls, and
nothing is left of an earlier worker of this id. -/
structure Begins (workerId : String) (sessions : Sessions.World) : Prop where
  base : Base workerId sessions
  main : Rested mainSession sessions
  heartbeat : Rested heartbeatSession sessions
  none_ : ∀ task ∈ sessions.db.task.rows, task.runningOn workerId = false

/-- What a daemon leaves behind. -/
structure CleanExit (s : World) : Prop where
  /-- No half-done task. -/
  idle : ∀ task ∈ s.sessions.db.task.rows, task.runningOn s.workerId = false
  main : Rested mainSession s.sessions
  heartbeat : Rested heartbeatSession s.sessions
  iterations : s.args.maxIterations ≠ 0 → s.iteration ≤ s.args.limit

theorem Begins.inv {args : Args} {drawn : String} {sessions : Sessions.World}
    (begins : Begins (args.workerIdOr drawn) sessions) : Inv (boot args drawn sessions) where
  base := begins.base
  attended _ task member runs := by
    have idle : task.runningOn (args.workerIdOr drawn) = false := begins.none_ task member
    have runs : task.runningOn (args.workerIdOr drawn) = true := runs
    rw [idle] at runs
    cases runs
  main _ := begins.main
  heartbeat _ := begins.heartbeat
  outside _ := rfl

theorem bounded_boot (args : Args) (drawn : String) (sessions : Sessions.World) :
    Bounded (boot args drawn sessions) where
  looping _ _ := by
    show (0 : Int) < max 1 args.maxIterations
    omega
  always _ := by
    show (0 : Int) ≤ max 1 args.maxIterations
    omega

/-- **A daemon that returns leaves nothing half-done**, in every interleaving with the other
processes: no task is RUNNING under its id, and no session of it is open. -/
theorem clean_exit {args : Args} {drawn : String} {sessions : Sessions.World} {as : List Action}
    {s : World} (begins : Begins (args.workerIdOr drawn) sessions)
    (ran : daemon.run (boot args drawn sessions) as = some s) (ended : s.phase = .ended false) :
    CleanExit s := by
  have inv : Inv s := Machine.inv_of_run (fun _ _ _ => Inv.step) begins.inv ran
  have bounded : Bounded s :=
    Machine.inv_of_run (fun _ _ _ => Bounded.step) (bounded_boot args drawn sessions) ran
  have main : Rested mainSession s.sessions := inv.main (by rw [ended]; rfl)
  have down := inv.outside (by rw [ended]; rfl)
  refine ⟨fun task member => ?_, main, inv.heartbeat (Background.inSession_of_down down),
    bounded.always⟩
  -- Only the main loop's session could attend the task, and it is idle.
  by_contra runs
  obtain ⟨i, mine, attends⟩ := inv.attended (by rw [ended]; rfl) task member (by simpa using runs)
  obtain rfl : i = mainSession := of_decide_eq_true mine
  rw [main.idle] at attends
  cases attends

section Runs

theorem begins_atRest {db : Database} {workerId : String}
    (none_ : ∀ task ∈ db.task.rows, task.runningOn workerId = false) :
    Begins workerId (Sessions.atRest db) where
  base := ⟨Sessions.sound_atRest db, fun i outsider worker claims => by cases claims⟩
  main := ⟨rfl, nofun, nofun⟩
  heartbeat := ⟨rfl, nofun, nofun⟩
  none_ := none_

/-- One waiting task and no worker. -/
def oneWaiting : Database where
  task := Theory.Table.empty.insert
    { taskUuid := "t", taskType := .compaction, datasetUuid := "d", tenantId := "acme",
      createdAt := 0 }

/-- A signal arrives between the UPDATEs of the claim; the task is cancelled meanwhile. -/
def signalled : List Action :=
  [.register 1 "lease", .test, .iterate (.claim 0 "w" "lease" none), .iterate (.lockTask 0 "t" 2),
    .iterate (.update 0), .beatDue, .iterate (.update 0), .signal, .iterate (.commit 0),
    .iterate (.refresh 0), .other (.cancel 7 (some (systemPrincipal "ops")) "t" 3), .beatOver,
    .iterate (.finalize 0 (.complete none) 3), .iterate (.update 0), .iterate (.update 0),
    .iterate (.commit 0), .returned, .woke, .test, .cancelPlanner, .exit]

theorem clean_exit_signalled :
    CleanExit ((daemon.run (boot {} "w" (Sessions.atRest oneWaiting)) signalled).get
      (by decide)) :=
  clean_exit (begins_atRest (by decide)) (Option.some_get _).symm (by decide)

end Runs

end Lcp.LifecycleWorker
