/-
# Workers.WorkerShutdown -- how long a stopped daemon goes on

Once the event is set, no loop of the daemon begins anything new: the main loop sends what is
left of its iteration and enters the `finally` block, the background tasks end.

`drains_within`: every step that the daemon then takes is paid out of `remaining`, which is at
most 17; and it claims nothing unless it had passed the loop's test before the signal.
-/
import Lcp.Workers.LifecycleWorker

namespace Lcp.LifecycleWorker

open Theory

set_option autoImplicit false

/-! ## What is left -/

/-- How many statements an iteration in this session still sends. -/
def left : Sessions.Session → Nat
  | .validated .. => 9
  | .writing (.claim ..) issued => 8 - issued
  | .claimed .. => 5
  | .running .. => 4
  | .writing call issued => call.statements.length + 1 - issued
  | .tending _ _ issued => if issued then 1 else 2
  | .reaping .. => 1
  | .idle | .raised _ | .rejected _ => 0

/-- How many steps the daemon still takes once the event is set. -/
def remaining (s : World) : Nat :=
  match s.phase with
  | .starting => 6
  | .iterating false _ => 17
  | .iterating true _ => left (s.sessions.session mainSession) + 7
  | .sleeping _ => 6
  | .testing => 5
  | .finishing _ =>
      1 + (if s.heartbeat = .finished then 0 else 1) + if s.planner.isUp then 1 else 0
  | .ended _ => 0

/-- A step of the main loop. -/
def Action.isOwn : Action → Bool
  | .register .. | .registerRaised | .test | .iterate _ | .returned | .raised | .woke |
    .cancelHeartbeat | .cancelPlanner | .exit => true
  | _ => false

/-- The first statement of an iteration. -/
def Action.claims : Action → Bool
  | .iterate (.claim ..) => true
  | _ => false

section Draining

variable {s t : Sessions.World} {i : Nat}

theorem left_le (session : Sessions.Session) : left session ≤ 9 := by
  cases session with
  | writing call issued =>
      cases call with
      | claim worker task now =>
          show 8 - issued ≤ 9
          omega
      | finish workerId task outcome now =>
          show 2 + 1 - issued ≤ 9
          omega
      | cancel task now =>
          have short : (Sessions.Call.cancel task now).statements.length ≤ 2 := by
            cases owner : task.slotOwner <;> simp [Sessions.Call.statements, owner]
          show (Sessions.Call.cancel task now).statements.length + 1 - issued ≤ 9
          omega
      | retry task =>
          show 1 + 1 - issued ≤ 9
          omega
  | tending loaded modified issued => cases issued <;> simp [left]
  | idle | validated | claimed | running | reaping | raised | rejected => simp [left]

theorem left_checkFinish (workerId : String) (copy : Task) (outcome : Sessions.Outcome)
    (now : DateTime) : left (Sessions.checkFinish workerId copy outcome now) ≤ 3 := by
  unfold Sessions.checkFinish
  split
  · simp [left]
  · exact Nat.le_refl 3

theorem left_beginFinish (db : Database) (workerId taskUuid : String)
    (outcome : Sessions.Outcome) (now : DateTime) :
    left (Sessions.beginFinish db workerId taskUuid outcome now) ≤ 3 := by
  unfold Sessions.beginFinish
  split
  · simp [left]
  · exact left_checkFinish ..

/-- An UPDATE is one statement of its call. -/
theorem left_writing {call : Sessions.Call} {issued : Nat}
    (more : issued < call.statements.length) :
    left (.writing call (issued + 1)) < left (.writing call issued) := by
  cases call with
  | claim worker task now =>
      have short : issued < 2 := more
      show 8 - (issued + 1) < 8 - issued
      omega
  | finish workerId task outcome now =>
      have short : issued < 2 := more
      show 2 + 1 - (issued + 1) < 2 + 1 - issued
      omega
  | cancel task now =>
      show (Sessions.Call.cancel task now).statements.length + 1 - (issued + 1) <
        (Sessions.Call.cancel task now).statements.length + 1 - issued
      omega
  | retry task =>
      have short : issued < 1 := more
      show 1 + 1 - (issued + 1) < 1 + 1 - issued
      omega

theorem left_next (call : Sessions.Call) :
    left call.next < left (.writing call call.statements.length) := by
  cases call with
  | cancel task now =>
      show 0 < (Sessions.Call.cancel task now).statements.length + 1 -
        (Sessions.Call.cancel task now).statements.length
      omega
  | claim | finish | retry => simp [left, Sessions.Call.next, Sessions.Call.statements]

/-- Every statement that an iteration sends is one less to send. -/
theorem left_step {statement : Sessions.Action} {w : World}
    (issues : w.issues true statement = true) (stepped : Sessions.step s statement = some t) :
    left (t.session mainSession) < left (s.session mainSession) := by
  cases statement with
  | lockTask i taskUuid now =>
      obtain rfl : i = mainSession := of_decide_eq_true issues
      simp only [Sessions.step] at stepped
      split at stepped
      · rename_i worker taskType task was found
        split at stepped <;> cases stepped
        rw [Sessions.World.session_set, was]
        simp [left]
      · cases stepped
  | update i =>
      obtain rfl : i = mainSession := of_decide_eq_true issues
      simp only [Sessions.step] at stepped
      split at stepped
      · rename_i call issued was
        split at stepped
        · rename_i statement next
          split at stepped <;> cases stepped
          rw [Sessions.World.session_set, was]
          exact left_writing (List.getElem?_eq_some_iff.1 next).1
        · cases stepped
      · rename_i loaded modified was
        split at stepped <;> cases stepped
        rw [Sessions.World.session_set, was]
        simp [left]
      · cases stepped
  | commit i =>
      obtain rfl : i = mainSession := of_decide_eq_true issues
      simp only [Sessions.step] at stepped
      split at stepped
      · rename_i call issued was
        split at stepped
        · rename_i all
          cases stepped
          rw [Sessions.World.session_leave, was, all]
          exact left_next call
        · cases stepped
      · rename_i done was
        cases stepped
        rw [Sessions.World.session_leave, was]
        simp [left]
      · rename_i loaded modified was
        cases stepped
        rw [Sessions.World.session_leave, was]
        simp [left]
      · cases stepped
  | refresh i =>
      obtain rfl : i = mainSession := of_decide_eq_true issues
      simp only [Sessions.step] at stepped
      split at stepped
      · rename_i workerId taskUuid was
        split at stepped <;> cases stepped
        rw [Sessions.World.session_set, was]
        simp [left]
      · cases stepped
  | finalize i outcome now =>
      obtain rfl : i = mainSession := of_decide_eq_true issues
      simp only [Sessions.step] at stepped
      split at stepped
      · rename_i workerId copy was
        cases stepped
        rw [Sessions.World.session_set, was]
        exact Nat.lt_succ_of_le (left_checkFinish ..)
      · cases stepped
  | executorRaised i errorCode errorMessage now =>
      obtain rfl : i = mainSession := of_decide_eq_true issues
      simp only [Sessions.step] at stepped
      split at stepped
      · rename_i workerId copy was
        cases stepped
        rw [Sessions.World.session_set, was]
        exact Nat.lt_succ_of_le (left_beginFinish ..)
      · cases stepped
  | claim | finish | cancel | retry | reap | reapWorker | heartbeat | drain | close => cases issues

end Draining

section Remaining

variable {s t : World} {a : Action}

/-- The steps of the background tasks and of other processes cost nothing. -/
theorem remaining_le (phase : t.phase = s.phase)
    (main : t.sessions.session mainSession = s.sessions.session mainSession)
    (heartbeat : s.heartbeat = .finished → t.heartbeat = .finished)
    (planner : t.planner.isUp = true → s.planner.isUp = true) : remaining t ≤ remaining s := by
  unfold remaining
  rw [phase, main]
  split
  case h_6 =>
      have one : (if t.heartbeat = .finished then 0 else 1) ≤
          if s.heartbeat = .finished then 0 else 1 := by
        split
        · exact Nat.zero_le _
        · rename_i up
          rw [if_neg fun down => up (heartbeat down)]
      have two : (if t.planner.isUp then 1 else 0) ≤ if s.planner.isUp then 1 else 0 := by
        split
        · rename_i up
          rw [if_pos (planner up)]
        · exact Nat.zero_le _
      omega
  all_goals exact Nat.le_refl _

/-- The `finally` block is at most three steps. -/
theorem remaining_finish (s : World) (raised : Bool) : remaining (s.finish raised) ≤ 3 := by
  show 1 + (if s.heartbeat = .finished then 0 else 1) + (if s.planner.isUp then 1 else 0) ≤ 3
  split <;> split <;> omega

theorem shutdown_step (set : s.shutdown = true) (stepped : daemon.step s a = some t) :
    t.shutdown = true := by
  cases step_move stepped with
  | @returned claimed phase ended =>
      unfold World.iterated
      simp only
      split
      · rfl
      · exact set
  | signal | stops | raised => rfl
  | registered | unregistered | begins | sent | woke | beatDue | beat | beatOver | planDue | plan |
    planOver | heartbeatCancelled | plannerCancelled | exit | other | emitted => exact set

theorem main_ne_of_issuesBeat {began : Bool} {statement : Sessions.Action}
    (issues : s.issuesBeat began statement = true) : statement.session ≠ mainSession := by
  rw [session_of_issuesBeat issues]
  decide

theorem main_closeHeartbeat (s : World) :
    s.closeHeartbeat.sessions.session mainSession = s.sessions.session mainSession := by
  have apart : mainSession ≠ heartbeatSession := by decide
  exact Function.update_of_ne apart Sessions.Session.idle s.sessions.session

/-- An iteration pays for its statements. -/
theorem remaining_iterate {statement : Sessions.Action} {sessions : Sessions.World}
    {began claimed after : Bool} (phase : s.phase = .iterating began claimed)
    (issues : s.issues began statement = true)
    (sent : Sessions.step s.sessions statement = some sessions) :
    remaining { s with sessions, phase := .iterating true after } + 1 ≤ remaining s := by
  cases began with
  | true =>
      have less := left_step issues sent
      simp only [remaining, phase]
      omega
  | false =>
      cases statement with
      | claim i workerId leaseId taskType =>
          have own : i = mainSession := (of_decide_eq_true issues).1
          subst own
          simp only [Sessions.step] at sent
          split at sent <;> cases sent
          have few := left_le (Sessions.beginClaim s.sessions.db workerId leaseId taskType)
          simp only [remaining, phase, Sessions.World.session_set]
          omega
      | _ => cases issues

/-- **A step of the daemon is paid for**, once the event is set. -/
theorem remaining_step (set : s.shutdown = true) (stepped : daemon.step s a = some t) :
    remaining t + (if a.isOwn then 1 else 0) ≤ remaining s := by
  cases step_move stepped with
  | registered phase => simp [remaining, phase, Action.isOwn, World.started]
  | unregistered phase => simp [remaining, phase, Action.isOwn]
  | stops phase =>
      have last := remaining_finish s false
      have now : remaining s = 5 := by simp [remaining, phase]
      simp only [Action.isOwn, if_true]
      omega
  | begins phase clear =>
      rw [set] at clear
      cases clear
  | sent phase issues sent => exact remaining_iterate phase issues sent
  | @returned claimed phase ended =>
      have now : 7 ≤ remaining s := by simp [remaining, phase]
      have last : remaining (s.iterated claimed) ≤ 6 := by
        unfold World.iterated
        simp only
        split
        · exact (remaining_finish _ false).trans (by omega)
        · exact Nat.le_refl 6
      simp only [Action.isOwn, if_true]
      omega
  | @raised began claimed phase =>
      have now : 7 ≤ remaining s := by cases began <;> simp [remaining, phase]
      have last := remaining_finish s.closeMain true
      simp only [Action.isOwn, if_true]
      omega
  | woke phase => simp [remaining, phase, Action.isOwn]
  | heartbeatCancelled phase up =>
      simp only [remaining, phase, Action.isOwn, World.closeHeartbeat, if_true, if_neg up]
      omega
  | plannerCancelled phase down up =>
      have gone : Background.finished.isUp = false := rfl
      simp [remaining, phase, Action.isOwn, down, up, gone]
  | exit phase =>
      simp only [remaining, phase, Action.isOwn, if_true]
      omega
  | signal => exact remaining_le rfl rfl id id
  | beatDue waits => exact remaining_le rfl rfl (fun down => by rw [waits] at down; cases down) id
  | beat works issues sent =>
      have own : mainSession ≠ _ := Ne.symm (main_ne_of_issuesBeat issues)
      exact remaining_le rfl ((Sessions.step_move sent).session_other own)
        (fun down => by rw [works] at down; cases down) id
  | beatOver works =>
      exact remaining_le rfl (main_closeHeartbeat s)
        (fun down => by rw [works] at down; cases down) id
  | planDue waits => exact remaining_le rfl rfl id fun _ => by rw [waits]; rfl
  | plan works => exact remaining_le rfl rfl id fun _ => by rw [works]; rfl
  | planOver works => exact remaining_le rfl rfl id fun _ => by rw [works]; rfl
  | other foreign sent =>
      have apart := of_decide_eq_true (Bool.and_eq_true_iff.1 foreign).1
      exact remaining_le rfl ((Sessions.step_move sent).session_other (Ne.symm apart.1)) id id
  | emitted => exact remaining_le rfl rfl id id

/-- The daemon is between the loop's test and the first statement of the iteration. -/
def claimsLeft (s : World) : Nat :=
  match s.phase with
  | .iterating false _ => 1
  | _ => 0

/-- A stopped daemon sends the first statement of an iteration only from there. -/
theorem claimsLeft_step (set : s.shutdown = true) (stepped : daemon.step s a = some t) :
    claimsLeft t + (if a.claims then 1 else 0) ≤ claimsLeft s := by
  cases step_move stepped with
  | begins phase clear =>
      rw [set] at clear
      cases clear
  | @sent statement began claimed sessions phase issues sent =>
      cases began with
      | false =>
          simp only [claimsLeft, phase]
          split <;> omega
      | true =>
          have later : Action.claims (.iterate statement) = false := by
            cases statement with
            | claim => cases issues
            | _ => rfl
          simp [claimsLeft, phase, later]
  | @returned claimed phase ended =>
      have last : claimsLeft (s.iterated claimed) = 0 := by
        unfold World.iterated
        simp only
        split <;> rfl
      simp [last, Action.claims]
  | registered | unregistered | stops | raised | woke | exit => exact Nat.zero_le _
  | signal | beatDue | beat | beatOver | planDue | plan | planOver | heartbeatCancelled |
    plannerCancelled | other | emitted => exact Nat.le_refl _

theorem remaining_le_17 (s : World) : remaining s ≤ 17 := by
  unfold remaining
  split
  case h_3 => exact Nat.add_le_add_right (left_le _) 7 |>.trans (by omega)
  case h_6 => split <;> split <;> omega
  all_goals omega

theorem remaining_eq_zero : remaining s = 0 ↔ ∃ raised, s.phase = .ended raised := by
  unfold remaining
  cases s.phase with
  | iterating began claimed => cases began <;> simp
  | starting | testing | sleeping | finishing | ended => simp

/-- **A stopped daemon drains**, whatever the heartbeat, the planner and the other processes do
meanwhile: its main loop takes at most 17 more steps, has ended when none is left, and claims
at most once, which it does when the signal came after the loop's test. -/
theorem drains_within {as : List Action} (set : s.shutdown = true)
    (ran : daemon.run s as = some t) :
    as.countP Action.isOwn + remaining t ≤ remaining s ∧ remaining s ≤ 17 ∧
      (remaining t = 0 ↔ ∃ raised, t.phase = .ended raised) ∧
      as.countP Action.claims ≤ claimsLeft s := by
  have paid := Machine.count_le_of_paying (I := fun s => s.shutdown = true) (p := Action.isOwn)
    (fun _ _ _ => shutdown_step) (fun _ _ _ => remaining_step) set ran
  have claimed := Machine.count_le_of_paying (I := fun s => s.shutdown = true)
    (p := Action.claims) (fun _ _ _ => shutdown_step) (fun _ _ _ => claimsLeft_step) set ran
  exact ⟨paid, remaining_le_17 s, remaining_eq_zero, by omega⟩

end Remaining

section Runs

/-- `signalled` up to its signal. -/
def stopped : World :=
  (daemon.run (boot {} "w" (Sessions.atRest oneWaiting)) (signalled.take 8)).get (by decide)

theorem drains_signalled :
    (signalled.drop 8).countP Action.isOwn +
        remaining ((daemon.run stopped (signalled.drop 8)).get (by decide)) ≤ remaining stopped ∧
      remaining stopped ≤ 17 ∧
      (remaining ((daemon.run stopped (signalled.drop 8)).get (by decide)) = 0 ↔
        ∃ raised, ((daemon.run stopped (signalled.drop 8)).get (by decide)).phase =
          .ended raised) ∧
      (signalled.drop 8).countP Action.claims ≤ claimsLeft stopped :=
  drains_within (by decide) (Option.some_get _).symm

end Runs

end Lcp.LifecycleWorker
