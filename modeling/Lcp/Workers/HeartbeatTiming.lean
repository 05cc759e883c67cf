/-
# Workers.HeartbeatTiming -- a worker that beats is not reaped

The reaper buries a worker whose last heartbeat is older than its timeout, which is there "to
give a grace window of ~3x the heartbeat interval".  Whether the window is wide enough is a
matter of time, which the daemon does not control; `Timing` names what it has to count on.

* `Clocked`: the daemon and the other processes under one clock;
* `punctual`: a step that respects the timing: time does not pass a deadline of the heartbeat
  loop, not too many attempts fail in a row, reapers grant the `grace`;
* `never_buried`: then, while the heartbeat loop is up and no signal came, the worker is not
  DEAD, no reaper holds it, and none of its tasks is requeued, in every interleaving.
-/
import Lcp.Sessions.Heartbeats
import Lcp.Workers.WorkerShutdown
import Mathlib.Tactic.Linarith

namespace Lcp.LifecycleWorker

open Theory
open Sessions (Silent Spared)

set_option autoImplicit false

/-! ## Time -/

/-- What the event loop, the database and the clocks promise. -/
structure Timing where
  /-- `--heartbeat-seconds`. -/
  interval : TimeDelta
  /-- How late the loop wakes. -/
  lag : TimeDelta
  /-- How long an attempt takes, committed or not. -/
  latency : TimeDelta
  /-- How many attempts in a row may fail. -/
  misses : Nat
  /-- How far the clock of a reaper is ahead. -/
  skew : TimeDelta

namespace Timing

/-- From the end of one attempt to the end of the next. -/
def period (timing : Timing) : TimeDelta := timing.interval + timing.lag + timing.latency

/-- How old the last heartbeat may be when the loop goes to sleep after failed attempts. -/
def owed (timing : Timing) (failed : Nat) : TimeDelta := timing.latency + failed * timing.period

/-- What the timeout of a reaper has to grant. -/
def grace (timing : Timing) : TimeDelta :=
  timing.owed timing.misses + timing.period + timing.skew

/-- Durations. -/
structure Sane (timing : Timing) : Prop where
  interval : 0 ≤ timing.interval
  lag : 0 ≤ timing.lag
  latency : 0 ≤ timing.latency

variable {timing : Timing}

theorem owed_zero (timing : Timing) : timing.owed 0 = timing.latency := by simp [owed]

theorem owed_succ (timing : Timing) (failed : Nat) :
    timing.owed (failed + 1) = timing.owed failed + timing.period := by
  rw [owed, owed, Int.natCast_succ, Int.add_mul, Int.one_mul, Int.add_assoc]

theorem Sane.period (sane : timing.Sane) : 0 ≤ timing.period :=
  Int.add_nonneg (Int.add_nonneg sane.interval sane.lag) sane.latency

theorem Sane.owed_le (sane : timing.Sane) {failed : Nat} (few : failed ≤ timing.misses) :
    timing.owed failed ≤ timing.owed timing.misses := by
  have more : (failed : Int) * timing.period ≤ timing.misses * timing.period :=
    Int.mul_le_mul_of_nonneg_right (Int.ofNat_le.2 few) sane.period
  exact Int.add_le_add_left more timing.latency

theorem Sane.owed_nonneg (sane : timing.Sane) (failed : Nat) : 0 ≤ timing.owed failed :=
  Int.add_nonneg sane.latency (Int.mul_nonneg (Int.natCast_nonneg failed) sane.period)

end Timing

/-- The processes and the clock. -/
structure Clocked where
  daemon : World
  now : DateTime
  /-- When the heartbeat loop came to where it is. -/
  since : DateTime := now
  /-- The attempt is committed. -/
  beaten : Bool := false
  /-- How many attempts in a row failed. -/
  failed : Nat := 0

/-- Time passes, or a step is taken. -/
inductive Tick where
  | pass (elapsed : TimeDelta)
  | act (action : Action)

namespace Clocked

/-- The heartbeat loop is up and goes on. -/
def beats (s : Clocked) : Bool := s.daemon.heartbeat.isUp && !s.daemon.shutdown

/-- When the heartbeat loop has to have moved on. -/
def due (timing : Timing) (s : Clocked) : DateTime :=
  match s.daemon.heartbeat with
  | .waiting => s.since + timing.interval + timing.lag
  | .working _ | .absent | .finished => s.since + timing.latency

/-- The clock of the heartbeat loop after a step of the daemon. -/
def after (s : Clocked) (daemon : World) : Action → Clocked
  | .register .. | .beatDue => { s with daemon, since := s.now, beaten := false }
  | .beat (.commit _) => { s with daemon, beaten := true }
  | .beatOver =>
      { s with
        daemon, since := s.now, beaten := false, failed := if s.beaten then 0 else s.failed + 1 }
  | _ => { s with daemon }

end Clocked

/-- The daemon under a clock. -/
def clocked : Machine Clocked Tick where
  step s
    | .pass elapsed => some { s with now := s.now + elapsed }
    | .act action => (step s.daemon action).map fun daemon => s.after daemon action

/-- The step respects the timing. -/
def punctual (timing : Timing) (s : Clocked) : Tick → Bool
  | .pass elapsed => 0 ≤ elapsed ∧ (s.beats = true → s.now + elapsed ≤ s.due timing)
  | .act (.register now _) | .act (.beat (.heartbeat _ _ _ now)) => now = s.now
  | .act .beatOver => s.beaten = true ∨ s.failed < timing.misses
  | .act (.other (.reap _ now timeout)) => now ≤ s.now + timing.skew ∧ timing.grace ≤ timeout
  | .act (.other (.heartbeat _ workerId ..)) => workerId ≠ s.daemon.workerId
  | _ => true

/-! ## What holds while the loop is up -/

/-- How old the last heartbeat is, given where the loop is. -/
def Recent (timing : Timing) (s : Clocked) (last : DateTime) : Prop :=
  s.since ≤ s.now ∧ s.now ≤ s.due timing ∧
    match s.daemon.heartbeat with
    | .waiting => s.since ≤ last + timing.owed s.failed
    | .working _ =>
        if s.beaten = true then s.since ≤ last
        else s.since ≤ last + timing.owed s.failed + timing.interval + timing.lag
    | .absent | .finished => False

/-- The row of a worker that beats. -/
structure Fresh (timing : Timing) (s : Clocked) (row : WorkerRegistry) : Prop where
  found : s.daemon.sessions.db.workerRegistry.get s.daemon.workerId = some row
  alive : row.status ≠ .dead
  recent : Recent timing s row.lastHeartbeatAt
  /-- The attempt that is under way read the row as it is. -/
  own : ∀ loaded modified issued,
    s.daemon.sessions.session heartbeatSession = .tending loaded modified issued →
      loaded.lastHeartbeatAt = row.lastHeartbeatAt ∧ s.since ≤ modified.lastHeartbeatAt

/-- The heartbeat loop's session tends its worker and does nothing else. -/
def isBeat (workerId : String) : Sessions.Session → Bool
  | .tending loaded .. => loaded.workerId = workerId
  | .idle | .raised _ => true
  | _ => false

/-- What holds at every step. -/
structure Kept (timing : Timing) (s : Clocked) : Prop where
  inv : Inv s.daemon
  silent : Silent heartbeatSession s.daemon.workerId s.daemon.sessions
  only : isBeat s.daemon.workerId (s.daemon.sessions.session heartbeatSession) = true
  few : s.failed ≤ timing.misses
  beats : s.beats = true →
    Spared s.daemon.workerId s.daemon.sessions ∧ ∃ row, Fresh timing s row

theorem isUp_of_beats {s : Clocked} (beats : s.beats = true) : s.daemon.heartbeat.isUp = true :=
  (Bool.and_eq_true_iff.1 beats).1

theorem clear_of_beats {s : Clocked} (beats : s.beats = true) : s.daemon.shutdown = false := by
  simpa using (Bool.and_eq_true_iff.1 beats).2

theorem beats_of {s : Clocked} (up : s.daemon.heartbeat.isUp = true)
    (clear : s.daemon.shutdown = false) : s.beats = true := by
  simp [Clocked.beats, up, clear]

/-- **No reaper finds a fresh worker stale.** -/
theorem Fresh.not_stale {timing : Timing} (sane : timing.Sane) {s : Clocked}
    {row : WorkerRegistry} (fresh : Fresh timing s row) (few : s.failed ≤ timing.misses)
    {now : DateTime} {timeout : TimeDelta} (ahead : now ≤ s.now + timing.skew)
    (grants : timing.grace ≤ timeout) : row.stale now timeout = false := by
  have owed := sane.owed_le few
  have nonneg := sane.owed_nonneg timing.misses
  obtain ⟨-, due, last⟩ := fresh.recent
  have period : timing.period = timing.interval + timing.lag + timing.latency := rfl
  have grace : timing.grace = timing.owed timing.misses + timing.period + timing.skew := rfl
  have interval := sane.interval
  have lag := sane.lag
  have late : now - timeout ≤ row.lastHeartbeatAt := by
    unfold Clocked.due at due
    split at last
    · rename_i waits
      simp only [waits] at due
      have latency := sane.latency
      linarith
    · rename_i works
      simp only [works] at due
      split at last <;> linarith
    · exact last.elim
    · exact last.elim
  have notBefore : ¬ row.lastHeartbeatAt < now - timeout := not_lt.2 late
  simp [WorkerRegistry.stale, notBefore]

/-- The sessions after something that is not the heartbeat loop's. -/
structure Undisturbed (timing : Timing) (s : Clocked) (sessions : Sessions.World) : Prop where
  session : sessions.session heartbeatSession = s.daemon.sessions.session heartbeatSession
  silent : Silent heartbeatSession s.daemon.workerId sessions
  rows : ∀ row, Spared s.daemon.workerId s.daemon.sessions → Fresh timing s row →
    Spared s.daemon.workerId sessions ∧
      ∃ after, sessions.db.workerRegistry.get s.daemon.workerId = some after ∧
        (row.status ≠ .dead → after.status ≠ .dead) ∧
          after.lastHeartbeatAt = row.lastHeartbeatAt

section Steps

variable {timing : Timing} {s : Clocked}

theorem Undisturbed.refl (kept : Kept timing s) : Undisturbed timing s s.daemon.sessions :=
  ⟨rfl, kept.silent, fun row spared fresh => ⟨spared, row, fresh.found, id, rfl⟩⟩

theorem Undisturbed.grow (kept : Kept timing s) {db : Database}
    (grown : Sessions.Grown s.daemon.sessions.db db) :
    Undisturbed timing s { s.daemon.sessions with db } where
  session := rfl
  silent := kept.silent
  rows row spared fresh := by
    refine ⟨spared, row, ?_, id, rfl⟩
    show db.workerRegistry.get s.daemon.workerId = some row
    rw [grown.workerRegistry]
    exact fresh.found

/-- A statement of another session, which sends no heartbeat of the worker and reaps with
patience. -/
theorem Undisturbed.statement (sane : timing.Sane) (kept : Kept timing s)
    {statement : Sessions.Action} {sessions : Sessions.World}
    (stepped : Sessions.step s.daemon.sessions statement = some sessions)
    (other : statement.session ≠ heartbeatSession)
    (mute : ∀ i leaseId now, statement ≠ .heartbeat i s.daemon.workerId leaseId now)
    (patient : ∀ i now timeout, statement = .reap i now timeout →
      now ≤ s.now + timing.skew ∧ timing.grace ≤ timeout) :
    Undisturbed timing s sessions := by
  have moved := Sessions.step_move stepped
  refine ⟨moved.session_other (Ne.symm other), kept.silent.step stepped fun _ => mute,
    fun row spared fresh => ⟨?_, ?_⟩⟩
  · refine spared.step moved fun i now timeout reaps found here => ?_
    obtain rfl := Option.some.inj (fresh.found.symm.trans here)
    obtain ⟨ahead, grants⟩ := patient i now timeout reaps
    exact fresh.not_stale sane kept.few ahead grants
  · obtain ⟨after, found, alive, last⟩ :=
      Sessions.worker_step moved kept.inv.base.sound spared fresh.found
    refine ⟨after, found, alive, ?_⟩
    rcases last with same | ⟨i, loaded, modified, rfl, was, owner, last⟩
    · exact same
    · rw [last, kept.silent i other loaded modified true was owner]
      exact flushed_same ..

/-- The session of an iteration is closed. -/
theorem Undisturbed.closeMain (sane : timing.Sane) (kept : Kept timing s) :
    Undisturbed timing s s.daemon.closeMain.sessions := by
  have closed : Sessions.step s.daemon.sessions (.close mainSession) =
      some s.daemon.closeMain.sessions := rfl
  exact .statement sane kept closed (by decide) nofun nofun

theorem Fresh.frame {row after : WorkerRegistry} {daemon : World} (fresh : Fresh timing s row)
    (workerId : daemon.workerId = s.daemon.workerId)
    (heartbeat : daemon.heartbeat = s.daemon.heartbeat)
    (session : daemon.sessions.session heartbeatSession =
      s.daemon.sessions.session heartbeatSession)
    (found : daemon.sessions.db.workerRegistry.get s.daemon.workerId = some after)
    (alive : row.status ≠ .dead → after.status ≠ .dead)
    (last : after.lastHeartbeatAt = row.lastHeartbeatAt) :
    Fresh timing { s with daemon } after where
  found := workerId ▸ found
  alive := alive fresh.alive
  recent := by
    have recent := fresh.recent
    unfold Recent Clocked.due at recent ⊢
    rw [last]
    show _ ∧ _ ∧ _
    simp only [heartbeat]
    exact recent
  own loaded modified issued tends := by
    rw [last]
    exact fresh.own loaded modified issued (session ▸ tends)

/-- A step that is not the heartbeat loop's. -/
theorem Kept.frame (kept : Kept timing s) {daemon : World} (inv : Inv daemon)
    (undisturbed : Undisturbed timing s daemon.sessions)
    (workerId : daemon.workerId = s.daemon.workerId)
    (heartbeat : daemon.heartbeat = s.daemon.heartbeat)
    (shutdown : daemon.shutdown = false → s.daemon.shutdown = false) :
    Kept timing { s with daemon } where
  inv := inv
  silent := workerId ▸ undisturbed.silent
  only := by
    show isBeat daemon.workerId (daemon.sessions.session heartbeatSession) = true
    rw [workerId, undisturbed.session]
    exact kept.only
  few := kept.few
  beats beats := by
    have before : s.beats = true := beats_of (heartbeat ▸ isUp_of_beats beats)
      (shutdown (clear_of_beats beats))
    obtain ⟨spared, row, fresh⟩ := kept.beats before
    obtain ⟨still, after, found, alive, last⟩ := undisturbed.rows row spared fresh
    refine ⟨?_, after, fresh.frame workerId heartbeat undisturbed.session found alive last⟩
    show Spared daemon.workerId daemon.sessions
    rwa [workerId]

/-- A step after which the loop is down or told to stop. -/
theorem Kept.stop {t : Clocked} (inv : Inv t.daemon)
    (silent : Silent heartbeatSession t.daemon.workerId t.daemon.sessions)
    (only : isBeat t.daemon.workerId (t.daemon.sessions.session heartbeatSession) = true)
    (few : t.failed ≤ timing.misses) (down : t.beats = false) : Kept timing t :=
  ⟨inv, silent, only, few, fun beats => by rw [down] at beats; cases beats⟩

/-! ## The steps of the heartbeat loop -/

theorem recent_iff {last : DateTime} (beats : s.beats = true) :
    Recent timing s last ↔ s.since ≤ s.now ∧
      ((s.daemon.heartbeat = .waiting ∧ s.now ≤ s.since + timing.interval + timing.lag ∧
          s.since ≤ last + timing.owed s.failed) ∨
        (∃ began, s.daemon.heartbeat = .working began) ∧ s.now ≤ s.since + timing.latency ∧
          (s.beaten = true → s.since ≤ last) ∧
          (s.beaten = false →
            s.since ≤ last + timing.owed s.failed + timing.interval + timing.lag)) := by
  have up := isUp_of_beats beats
  unfold Recent Clocked.due
  cases place : s.daemon.heartbeat with
  | waiting => simp
  | working began => cases beaten : s.beaten <;> simp
  | absent | finished =>
      rw [place] at up
      cases up

/-- The worker registers. -/
theorem Kept.register (sane : timing.Sane) (kept : Kept timing s) {newLease : String}
    {db : Database} (phase : s.daemon.phase = .starting)
    (free : s.daemon.sessions.workerLock s.daemon.workerId = none)
    (ran : SchedulerService.registerWorker (some (systemPrincipal "scheduler")) s.now newLease
      { workerId := s.daemon.workerId, workerType := "lifecycle" } s.daemon.sessions.db = .ok db)
    (inv : Inv (s.daemon.started newLease db)) :
    Kept timing
      { s with daemon := s.daemon.started newLease db, since := s.now, beaten := false } := by
  have rested : Sessions.Rested heartbeatSession s.daemon.sessions := by
    refine kept.inv.heartbeat (Background.inSession_of_down (kept.inv.outside ?_))
    rw [phase]
    rfl
  have row : ∃ row, db.workerRegistry.get s.daemon.workerId = some row ∧ row.status = .alive ∧
      row.lastHeartbeatAt = s.now := by
    obtain ⟨-, registry, inserted, rfl⟩ | ⟨existing, found, rfl⟩ :=
      SchedulerService.registerWorker_cases ran
    · have member : SchedulerService.Registration.row
          { workerId := s.daemon.workerId, workerType := "lifecycle" } newLease s.now ∈
            registry.rows := by
        rw [(Table.insert?_eq_some inserted).1]
        simp
      exact ⟨_, Table.get_of_mem member, rfl, rfl⟩
    · have lookup := Table.get_update s.daemon.sessions.db.workerRegistry s.daemon.workerId
        s.daemon.workerId _ (SchedulerService.Registration.workerId_refresh
          { workerId := s.daemon.workerId, workerType := "lifecycle" } newLease s.now)
      rw [if_pos rfl, found, Option.map_some] at lookup
      refine ⟨_, lookup, ?_, ?_⟩ <;> rfl
  obtain ⟨row, found, alive, last⟩ := row
  have spared : Spared s.daemon.workerId s.daemon.sessions :=
    Sessions.spared_of_free kept.inv.base.sound free
  refine ⟨inv, kept.silent, kept.only, kept.few, fun beats =>
    ⟨spared, row, found, by simp [alive], ?_, ?_⟩⟩
  · refine (recent_iff beats).2 ⟨le_refl s.now, .inl ⟨rfl, ?_, ?_⟩⟩
    · have interval := sane.interval
      have lag := sane.lag
      show s.now ≤ s.now + timing.interval + timing.lag
      linarith
    · have owed := sane.owed_nonneg s.failed
      show s.now ≤ row.lastHeartbeatAt + timing.owed s.failed
      linarith
  · intro loaded modified issued tends
    change s.daemon.sessions.session heartbeatSession = _ at tends
    rw [rested.idle] at tends
    cases tends

/-- The interval is over. -/
theorem Kept.beatDue (sane : timing.Sane) (kept : Kept timing s)
    (waits : s.daemon.heartbeat = .waiting)
    (inv : Inv { s.daemon with
      heartbeat := if s.daemon.shutdown then .finished else .working false }) :
    Kept timing { s with
      daemon := { s.daemon with
        heartbeat := if s.daemon.shutdown then .finished else .working false }
      since := s.now, beaten := false } := by
  refine ⟨inv, kept.silent, kept.only, kept.few, fun beats => ?_⟩
  have clear := clear_of_beats beats
  change s.daemon.shutdown = false at clear
  have before : s.beats = true := beats_of (by rw [waits]; rfl) clear
  obtain ⟨spared, row, fresh⟩ := kept.beats before
  obtain ⟨past, ⟨-, soon, last⟩ | ⟨⟨began, works⟩, -⟩⟩ := (recent_iff before).1 fresh.recent
  · refine ⟨spared, row, fresh.found, fresh.alive, (recent_iff beats).2 ⟨le_refl s.now, .inr
      ⟨⟨false, by simp [clear]⟩, ?_, nofun, fun _ => ?_⟩⟩, ?_⟩
    · have latency := sane.latency
      show s.now ≤ s.now + timing.latency
      linarith
    · show s.now ≤ row.lastHeartbeatAt + timing.owed s.failed + timing.interval + timing.lag
      linarith
    · have rested := kept.inv.heartbeat (by rw [waits]; rfl)
      intro loaded modified issued tends
      change s.daemon.sessions.session heartbeatSession = _ at tends
      rw [rested.idle] at tends
      cases tends
  · rw [waits] at works
    cases works

/-- The attempt is over. -/
theorem Kept.beatOver (sane : timing.Sane) (kept : Kept timing s) {began : Bool}
    (works : s.daemon.heartbeat = .working began)
    (enough : s.beaten = true ∨ s.failed < timing.misses)
    (inv : Inv { s.daemon.closeHeartbeat with heartbeat := s.daemon.goOn }) :
    Kept timing { s with
      daemon := { s.daemon.closeHeartbeat with heartbeat := s.daemon.goOn }
      since := s.now, beaten := false, failed := if s.beaten then 0 else s.failed + 1 } := by
  have closed : Sessions.sessions.step s.daemon.sessions (.close heartbeatSession) =
      some s.daemon.closeHeartbeat.sessions := rfl
  have few : (if s.beaten then 0 else s.failed + 1) ≤ timing.misses := by
    split
    · exact Nat.zero_le _
    · rename_i missed
      exact enough.resolve_left missed
  have silent : Silent heartbeatSession s.daemon.workerId s.daemon.closeHeartbeat.sessions :=
    kept.silent.step closed fun _ _ _ _ same => by cases same
  refine ⟨inv, silent, ?_, few, fun beats => ?_⟩
  · show isBeat s.daemon.workerId
      ((s.daemon.sessions.leave heartbeatSession .idle).session heartbeatSession) = true
    rw [Sessions.World.session_leave]
    rfl
  · have clear := clear_of_beats beats
    change s.daemon.shutdown = false at clear
    have before : s.beats = true := beats_of (by rw [works]; rfl) clear
    obtain ⟨spared, row, fresh⟩ := kept.beats before
    obtain ⟨past, ⟨waits, -⟩ | ⟨-, soon, committed, missed⟩⟩ := (recent_iff before).1 fresh.recent
    · rw [works] at waits
      cases waits
    · have waits : s.daemon.goOn = .waiting := by simp [World.goOn, clear]
      have still : Spared s.daemon.workerId s.daemon.closeHeartbeat.sessions :=
        spared.step (Sessions.step_move closed) fun _ _ _ same => by cases same
      refine ⟨still, row, fresh.found, fresh.alive,
        (recent_iff beats).2 ⟨le_refl s.now, .inl ⟨waits, ?_, ?_⟩⟩, ?_⟩
      · have interval := sane.interval
        have lag := sane.lag
        show s.now ≤ s.now + timing.interval + timing.lag
        linarith
      · show s.now ≤ row.lastHeartbeatAt + timing.owed (if s.beaten then 0 else s.failed + 1)
        cases beaten : s.beaten with
        | true =>
            have last := committed beaten
            rw [if_pos rfl, Timing.owed_zero]
            linarith
        | false =>
            have last := missed beaten
            rw [if_neg (by simp), Timing.owed_succ, Timing.period]
            linarith
      · intro loaded modified issued tends
        change (s.daemon.sessions.leave heartbeatSession .idle).session heartbeatSession = _
          at tends
        rw [Sessions.World.session_leave] at tends
        cases tends

theorem isBeat_beginHeartbeat (db : Database) (workerId leaseId : String) (now : DateTime) :
    isBeat workerId (Sessions.beginHeartbeat db workerId leaseId now) = true := by
  unfold Sessions.beginHeartbeat
  split
  · rfl
  · rename_i worker found
    split
    · rfl
    · exact decide_eq_true (Table.key_of_get found)

/-- The attempt goes on and leaves the rows alone. -/
theorem Kept.attempt (kept : Kept timing s) {sessions : Sessions.World} {began : Bool}
    {statement : Sessions.Action} (works : s.daemon.heartbeat = .working began)
    (sent : Sessions.sessions.step s.daemon.sessions statement = some sessions)
    (mine : statement.session = heartbeatSession) (rows : sessions.db = s.daemon.sessions.db)
    (reaps : ∀ i now timeout, statement ≠ .reap i now timeout)
    (only : isBeat s.daemon.workerId (sessions.session heartbeatSession) = true)
    (own : ∀ row, Fresh timing s row → ∀ loaded modified issued,
      sessions.session heartbeatSession = .tending loaded modified issued →
        loaded.lastHeartbeatAt = row.lastHeartbeatAt ∧ s.since ≤ modified.lastHeartbeatAt)
    (inv : Inv { s.daemon with sessions, heartbeat := .working true }) :
    Kept timing { s with daemon := { s.daemon with sessions, heartbeat := .working true } } := by
  refine ⟨inv, kept.silent.step sent fun other => absurd mine other, only, kept.few,
    fun beats => ?_⟩
  have clear := clear_of_beats beats
  change s.daemon.shutdown = false at clear
  have before : s.beats = true := beats_of (by rw [works]; rfl) clear
  obtain ⟨spared, row, fresh⟩ := kept.beats before
  have still : Spared s.daemon.workerId sessions :=
    spared.step (Sessions.step_move sent) fun i now timeout same =>
      absurd same (reaps i now timeout)
  have found : sessions.db.workerRegistry.get s.daemon.workerId = some row := by
    rw [rows]
    exact fresh.found
  obtain ⟨past, ⟨waits, -⟩ | ⟨-, due⟩⟩ := (recent_iff before).1 fresh.recent
  · rw [works] at waits
    cases waits
  · exact ⟨still, row, found, fresh.alive, (recent_iff beats).2 ⟨past, .inr ⟨⟨true, rfl⟩, due⟩⟩,
      own row fresh⟩

/-- The attempt commits. -/
theorem Kept.committed (kept : Kept timing s) {sessions : Sessions.World} {began : Bool}
    (works : s.daemon.heartbeat = .working began)
    (sent : Sessions.sessions.step s.daemon.sessions (.commit heartbeatSession) = some sessions)
    (inv : Inv { s.daemon with sessions, heartbeat := .working true }) :
    Kept timing { s with
      daemon := { s.daemon with sessions, heartbeat := .working true }, beaten := true } := by
  have moved := Sessions.step_move sent
  have silent := kept.silent.step sent fun _ _ _ _ same => by cases same
  have only := kept.only
  cases moved with
  | read reads => cases reads
  | commit was | reaped was =>
      rw [was] at only
      cases only
  | @tended _ loaded modified was =>
      rw [was] at only
      have owner : loaded.workerId = s.daemon.workerId := of_decide_eq_true only
      have idle : isBeat s.daemon.workerId ((s.daemon.sessions.tended heartbeatSession loaded
          modified).session heartbeatSession) = true := by
        rw [Sessions.World.session_tended]
        rfl
      refine ⟨inv, silent, idle, kept.few, fun beats => ?_⟩
      have clear := clear_of_beats beats
      change s.daemon.shutdown = false at clear
      have before : s.beats = true := beats_of (by rw [works]; rfl) clear
      obtain ⟨spared, row, fresh⟩ := kept.beats before
      have still : Spared s.daemon.workerId
          (s.daemon.sessions.tended heartbeatSession loaded modified) :=
        spared.step (Sessions.step_move sent) fun _ _ _ same => by cases same
      have upheld := kept.inv.base.sound heartbeatSession
      rw [was] at upheld
      have lookup := Table.get_update s.daemon.sessions.db.workerRegistry loaded.workerId
        s.daemon.workerId (WorkerRegistry.flush loaded modified)
        (WorkerRegistry.workerId_flush loaded modified)
      rw [if_pos owner.symm, fresh.found, Option.map_some] at lookup
      obtain ⟨same, late⟩ := fresh.own loaded modified true was
      have last : s.since ≤ flushed loaded.lastHeartbeatAt modified.lastHeartbeatAt
          row.lastHeartbeatAt := by
        unfold flushed
        split
        · rename_i unchanged
          rwa [← same, ← unchanged]
        · exact late
      obtain ⟨past, ⟨waits, -⟩ | ⟨-, soon, -⟩⟩ := (recent_iff before).1 fresh.recent
      · rw [works] at waits
        cases waits
      · refine ⟨still, _, lookup, fun dead =>
          fresh.alive (Sessions.status_flush_tends upheld.1 dead), (recent_iff beats).2
            ⟨past, .inr ⟨⟨true, rfl⟩, soon, fun _ => last, nofun⟩⟩, ?_⟩
        intro loaded' modified' issued tends
        change (s.daemon.sessions.tended heartbeatSession loaded modified).session
          heartbeatSession = _ at tends
        rw [Sessions.World.session_tended] at tends
        cases tends

/-- A statement of the heartbeat loop. -/
theorem Kept.beat (kept : Kept timing s) {statement : Sessions.Action}
    {sessions : Sessions.World} {began : Bool} (works : s.daemon.heartbeat = .working began)
    (issues : s.daemon.issuesBeat began statement = true)
    (sent : Sessions.sessions.step s.daemon.sessions statement = some sessions)
    (timely : punctual timing s (.act (.beat statement)) = true)
    (inv : Inv { s.daemon with sessions, heartbeat := .working true }) :
    Kept timing
      (s.after { s.daemon with sessions, heartbeat := .working true } (.beat statement)) := by
  have mine := session_of_issuesBeat issues
  have moved := Sessions.step_move sent
  have unreaping : ∀ i now timeout, statement ≠ .reap i now timeout := by
    rintro i now timeout rfl
    cases began <;> cases issues
  cases statement with
  | heartbeat i workerId leaseId now =>
      obtain rfl : now = s.now := of_decide_eq_true timely
      have addressed : i = heartbeatSession ∧ workerId = s.daemon.workerId ∧
          leaseId = s.daemon.leaseId := by
        cases began with
        | false => exact of_decide_eq_true issues
        | true => cases issues
      obtain ⟨rfl, rfl, rfl⟩ := addressed
      have stepped : Sessions.step s.daemon.sessions (.heartbeat heartbeatSession s.daemon.workerId
          s.daemon.leaseId s.now) = some sessions := sent
      simp only [Sessions.step] at stepped
      split at stepped <;> cases stepped
      refine kept.attempt works sent rfl rfl unreaping ?_ ?_ inv
      · rw [Sessions.World.session_set]
        exact isBeat_beginHeartbeat ..
      · intro row fresh loaded modified issued tends
        cases Sessions.tending_step sent tends with
        | before was => exact fresh.own loaded modified _ was
        | beats found lease assigned =>
            obtain rfl := Option.some.inj (fresh.found.symm.trans found)
            rw [assigned]
            exact ⟨rfl, fresh.recent.1⟩
  | update i =>
      obtain rfl : i = heartbeatSession := mine
      have own : ∀ row, Fresh timing s row → ∀ loaded modified issued,
          sessions.session heartbeatSession = .tending loaded modified issued →
            loaded.lastHeartbeatAt = row.lastHeartbeatAt ∧
              s.since ≤ modified.lastHeartbeatAt := by
        intro row fresh loaded modified issued tends
        cases Sessions.tending_step sent tends with
        | before was => exact fresh.own loaded modified _ was
      have only := kept.only
      cases moved with
      | read reads => cases reads
      | update was =>
          rw [was] at only
          cases only
      | tend was isOpen =>
          refine kept.attempt works sent rfl rfl unreaping ?_ own inv
          rw [was] at only
          rw [Sessions.World.session_set]
          exact only
  | commit i =>
      obtain rfl : i = heartbeatSession := mine
      exact kept.committed works sent inv
  | claim | lockTask | refresh | finalize | executorRaised | finish | cancel | retry | reap |
    reapWorker | drain | close => cases began <;> cases issues

/-! ## Every step -/

theorem Kept.pass (kept : Kept timing s) {elapsed : TimeDelta}
    (timely : punctual timing s (.pass elapsed) = true) :
    Kept timing { s with now := s.now + elapsed } := by
  obtain ⟨forward, soon⟩ := of_decide_eq_true timely
  refine ⟨kept.inv, kept.silent, kept.only, kept.few, fun beats => ?_⟩
  obtain ⟨spared, row, fresh⟩ := kept.beats beats
  obtain ⟨past, -, last⟩ := fresh.recent
  have later : s.since ≤ s.now + elapsed := by linarith
  exact ⟨spared, row, fresh.found, fresh.alive, ⟨later, soon beats, last⟩, fresh.own⟩

/-- **A punctual step keeps a beating worker alive.** -/
theorem Kept.step (sane : timing.Sane) (kept : Kept timing s) {a : Tick} {t : Clocked}
    (timely : punctual timing s a = true) (stepped : clocked.step s a = some t) :
    Kept timing t := by
  cases a with
  | pass elapsed =>
      cases stepped
      exact kept.pass timely
  | act action =>
      obtain ⟨daemon, moved, rfl⟩ := Option.map_eq_some_iff.1 stepped
      have inv : Inv daemon := kept.inv.step moved
      cases step_move moved with
      | @registered now newLease db phase free ran =>
          obtain rfl : now = s.now := of_decide_eq_true timely
          exact kept.register sane phase free ran inv
      | unregistered phase => exact kept.frame inv (.refl kept) rfl rfl id
      | signal =>
          exact .stop inv kept.silent kept.only kept.few (by simp [Clocked.after, Clocked.beats])
      | stops phase set => exact kept.frame inv (.refl kept) rfl rfl nofun
      | begins phase clear | woke phase => exact kept.frame inv (.refl kept) rfl rfl id
      | @sent statement began claimed sessions phase issues sent =>
          have own := session_of_issues issues
          refine kept.frame inv (.statement sane kept sent (by rw [own]; decide) ?_ ?_) rfl rfl id
          · rintro i leaseId now rfl
            cases began <;> cases issues
          · rintro i now timeout rfl
            cases began <;> cases issues
      | @returned claimed phase ended =>
          unfold World.iterated at inv ⊢
          simp only at inv ⊢
          split at inv
          · rename_i reached
            rw [if_pos reached]
            exact kept.frame inv (.closeMain sane kept) rfl rfl nofun
          · rename_i free
            rw [if_neg free]
            exact kept.frame inv (.closeMain sane kept) rfl rfl id
      | raised phase => exact kept.frame inv (.closeMain sane kept) rfl rfl nofun
      | beatDue waits => exact kept.beatDue sane waits inv
      | beat works issues sent => exact kept.beat works issues sent timely inv
      | beatOver works => exact kept.beatOver sane works (of_decide_eq_true timely) inv
      | planDue waits | planOver works => exact kept.frame inv (.refl kept) rfl rfl id
      | @plan draw now works =>
          refine kept.frame inv (.grow kept ?_) rfl rfl id
          exact grown_planned s.daemon draw now
      | heartbeatCancelled phase up =>
          refine .stop inv ?_ ?_ kept.few rfl
          · exact kept.silent.step (a := .close heartbeatSession) rfl fun _ _ _ _ same => by
              cases same
          · show isBeat s.daemon.workerId
              ((s.daemon.sessions.leave heartbeatSession .idle).session heartbeatSession) = true
            rw [Sessions.World.session_leave]
            rfl
      | plannerCancelled phase down up | exit phase => exact kept.frame inv (.refl kept) rfl rfl id
      | @other statement sessions foreign sent =>
          have apart := of_decide_eq_true (Bool.and_eq_true_iff.1 foreign).1
          refine kept.frame inv (.statement sane kept sent apart.2 ?_ ?_) rfl rfl id
          · rintro i leaseId now rfl
            exact of_decide_eq_true timely rfl
          · rintro i now timeout rfl
            exact of_decide_eq_true timely
      | emitted waiting inserted =>
          exact kept.frame inv (.grow kept (Sessions.Grown.insertTask waiting inserted)) rfl rfl id

/-- What a step logs requeues nothing from the worker. -/
def Unrequeued (s t : Clocked) : Prop :=
  ∃ events, t.daemon.sessions.log = s.daemon.sessions.log ++ events ∧
    ∀ e ∈ events, e.deed ≠ .requeued s.daemon.workerId

theorem unrequeued_of_same {t : Clocked}
    (same : t.daemon.sessions.log = s.daemon.sessions.log) : Unrequeued s t :=
  ⟨[], by simp [same], by simp⟩

theorem unrequeued_step {a : Tick} {t : Clocked}
    (spared : Spared s.daemon.workerId s.daemon.sessions) (stepped : clocked.step s a = some t) :
    Unrequeued s t := by
  cases a with
  | pass elapsed =>
      cases stepped
      exact unrequeued_of_same rfl
  | act action =>
      obtain ⟨daemon, moved, rfl⟩ := Option.map_eq_some_iff.1 stepped
      cases step_move moved with
      | sent phase issues sent => exact Sessions.log_step (Sessions.step_move sent) spared
      | other foreign sent => exact Sessions.log_step (Sessions.step_move sent) spared
      | @beat statement began sessions works issues sent =>
          have logged := Sessions.log_step (Sessions.step_move sent) spared
          cases statement <;> exact logged
      | @returned claimed phase ended =>
          refine unrequeued_of_same ?_
          show (s.daemon.iterated claimed).sessions.log = s.daemon.sessions.log
          unfold World.iterated
          simp only
          split <;> rfl
      | registered | unregistered | signal | stops | begins | raised | woke | beatDue | beatOver |
        planDue | plan | planOver | heartbeatCancelled | plannerCancelled | exit | emitted =>
          exact unrequeued_of_same rfl

end Steps

/-- The worker is there for the scheduler. -/
structure Standing (s : Clocked) : Prop where
  row : ∃ row, s.daemon.sessions.db.workerRegistry.get s.daemon.workerId = some row ∧
    row.status ≠ .dead
  spared : Spared s.daemon.workerId s.daemon.sessions

/-- The daemon boots. -/
def bootAt (args : Args) (drawn : String) (sessions : Sessions.World) (now : DateTime) : Clocked :=
  { daemon := boot args drawn sessions, now }

/-- **A worker that beats in time is never buried**: in every run in which time respects the
heartbeat loop and every reaper grants the `grace`, no step requeues a task from the worker
while the loop is up and no signal came, and the worker is never DEAD then. -/
theorem never_buried {timing : Timing} {args : Args} {drawn : String} {sessions : Sessions.World}
    {now : DateTime} {as : List Tick} (sane : timing.Sane)
    (begins : Begins (args.workerIdOr drawn) sessions)
    (silent : Silent heartbeatSession (args.workerIdOr drawn) sessions)
    (guarded : clocked.Guarded (fun s a => punctual timing s a = true)
      (bootAt args drawn sessions now) as) :
    clocked.Along (fun s _ t => s.beats = true → Unrequeued s t)
        (bootAt args drawn sessions now) as ∧
      clocked.Always (fun s => s.beats = true → Standing s)
        (bootAt args drawn sessions now) as := by
  have start : Kept timing (bootAt args drawn sessions now) := by
    refine ⟨begins.inv, silent, ?_, Nat.zero_le _, nofun⟩
    show isBeat (args.workerIdOr drawn) (sessions.session heartbeatSession) = true
    rw [begins.heartbeat.idle]
    rfl
  constructor
  · refine Machine.along_of_inv (fun s a t kept timely stepped => ⟨kept.step sane timely stepped,
      fun beats => ?_⟩) start guarded
    exact unrequeued_step (kept.beats beats).1 stepped
  · refine (Machine.always_of_inv (fun s a t kept timely stepped => kept.step sane timely stepped)
      start guarded).mono fun s kept beats => ?_
    obtain ⟨spared, row, fresh⟩ := kept.beats beats
    exact ⟨⟨row, fresh.found, fresh.alive⟩, spared⟩

section Runs

/-- A heartbeat every ten seconds that takes at most two; one attempt in a row may fail. -/
def everyTenSeconds : Timing where
  interval := 10000000
  lag := 500000
  latency := 2000000
  misses := 1
  skew := 1000000

theorem sane_everyTenSeconds : everyTenSeconds.Sane := ⟨by decide, by decide, by decide⟩

-- The default timeout leaves room for one lost heartbeat, not for two.
example : everyTenSeconds.grace ≤ SchedulerService.defaultHeartbeatTimeout ∧
    SchedulerService.defaultHeartbeatTimeout < { everyTenSeconds with misses := 2 }.grace := by
  decide

def bootedAt : DateTime := DateTime.start2026

/-- The worker holds a task, its first heartbeat fails, and a reaper passes before the next. -/
def missedOne : List Tick :=
  [.act (.register bootedAt "lease"), .act .test, .act (.iterate (.claim 0 "w" "lease" none)),
    .act (.iterate (.lockTask 0 "t" bootedAt)), .act (.iterate (.update 0)),
    .act (.iterate (.update 0)),
    .act (.iterate (.commit 0)), .pass 10000000, .act .beatDue, .pass 2000000, .act .beatOver,
    .pass 10000000, .act .beatDue,
    .act (.other (.reap 5 (bootedAt + 22000000) SchedulerService.defaultHeartbeatTimeout)),
    .act (.other (.commit 5)), .act (.beat (.heartbeat 1 "w" "lease" (bootedAt + 22000000))),
    .act (.beat (.update 1)), .act (.beat (.commit 1)), .act .beatOver]

theorem never_buried_missedOne :
    clocked.Along (fun s _ t => s.beats = true → Unrequeued s t)
        (bootAt {} "w" (Sessions.atRest oneWaiting) bootedAt) missedOne ∧
      clocked.Always (fun s => s.beats = true → Standing s)
        (bootAt {} "w" (Sessions.atRest oneWaiting) bootedAt) missedOne :=
  never_buried sane_everyTenSeconds
    (begins_atRest (by decide)) (fun i _ loaded modified issued tends => by cases tends) (by decide)

end Runs

end Lcp.LifecycleWorker
