/-
# Sessions.AtMostOnce -- at-most-once dispatch

`claims_at_most_once` is about every interleaving of any number of claims with the
other writers of the task table, stale copies included.  A claim writes RUNNING to a
row it selected as waiting and has kept locked since; so between two claims of one
row some commit took the row back to PENDING, and of the events that can do so
(`Event.Wrote`) only a retry and a requeue leave it there.
-/
import Lcp.Sessions.RowHistory

namespace Lcp.Sessions

open Theory World History

set_option autoImplicit false

/-- PENDING or QUEUED, with an attempt left. -/
def Waiting (task : Task) : Prop :=
  (task.status = .pending ∨ task.status = .queued) ∧ task.attempt < task.maxAttempts

/-- A successful claim of the task. -/
def Event.Claims (taskUuid : String) (e : Event) : Prop :=
  e.before.taskUuid = taskUuid ∧ ∃ workerId, e.deed = .claimed workerId

/-- A commit of `retry_task` or `reap_dead_workers` that set the task back to PENDING. -/
def Event.Reopens (taskUuid : String) (e : Event) : Prop :=
  e.before.taskUuid = taskUuid ∧ (e.deed = .retried ∨ ∃ workerId, e.deed = .requeued workerId) ∧
    e.after.status = .pending

/-- Between any two claims of a task the task was reopened. -/
def AtMostOnce (log : List Event) : Prop :=
  ∀ (taskUuid : String) (earlier between later : List Event) (first second : Event),
    log = earlier ++ first :: (between ++ second :: later) → first.Claims taskUuid →
      second.Claims taskUuid → ∃ e ∈ between, e.Reopens taskUuid

/-- What a successful claim does from its locking read to its commit. -/
structure ClaimStep (s : World) (a : Action) (t : World) : Prop where
  /-- The locking read takes a waiting row that no session holds. -/
  locks : ∀ i taskUuid now, a = .lockTask i taskUuid now →
    ∃ worker task, s.db.task.get taskUuid = some task ∧ Waiting task ∧
      s.taskLock taskUuid = none ∧ t.session i = .writing (.claim worker task now) 0
  /-- From then on the committed row is the row that was locked. -/
  holds : ∀ i worker task now issued, t.session i = .writing (.claim worker task now) issued →
    t.HoldsTask i task ∧ Waiting task
  /-- The commit logs the claim of that row. -/
  commits : ∀ i worker task now issued, a = .commit i →
    s.session i = .writing (.claim worker task now) issued →
      t.log = s.log ++ [⟨.claimed worker.workerId, task, task.claim worker.workerId now⟩]

/-! ## The log -/

/-- A row that a claim could select. -/
private def Open (row : Option Task) : Prop :=
  ∃ task, row = some task ∧ (task.status = .pending ∨ task.status = .queued)

private theorem open_some {task : Task} :
    Open (some task) ↔ task.status = .pending ∨ task.status = .queued := by
  constructor
  · rintro ⟨other, same, waiting⟩
    cases same
    exact waiting
  · intro waiting
    exact ⟨task, rfl, waiting⟩

/-- Only a retry and a requeue take a row from elsewhere to where claims find it. -/
theorem Event.Wrote.reopens {e : Event} (wrote : e.Wrote)
    (closed : ¬ (e.before.status = .pending ∨ e.before.status = .queued))
    (opened : e.after.status = .pending ∨ e.after.status = .queued) :
    e.Reopens e.before.taskUuid := by
  obtain ⟨deed, before, after⟩ := e
  cases deed with
  | claimed workerId => exact absurd wrote.1 closed
  | finished workerId outcome =>
      have status : after.status = outcome.status := wrote
      cases outcome <;> simp [status, Outcome.status] at opened
  | cancelled released =>
      have status : after.status = .cancelled := wrote
      simp [status] at opened
  | retried => exact ⟨rfl, .inl rfl, wrote⟩
  | requeued workerId =>
      have requeued : after = before.requeue := wrote.2
      exact ⟨rfl, .inr ⟨workerId, rfl⟩, by rw [requeued]; rfl⟩

theorem atMostOnce_of_chronicle {db : Database} {s : World} (chronicle : Chronicle db s) :
    AtMostOnce s.log := by
  intro taskUuid earlier between later first second log claimed again
  have linked := chronicle.recorded.linked taskUuid
  have wrote := chronicle.wrote
  rw [log] at linked wrote
  have here : ∀ e : Event, e.Claims taskUuid → ∀ rest,
      changes taskUuid (e :: rest) = e :: changes taskUuid rest := by
    intro e claims rest
    simp [changes, claims.1]
  rw [changes_append, here first claimed, changes_append, here second again, linked_append,
    linked_cons, linked_append, linked_cons] at linked
  obtain ⟨-, -, middle, start, -⟩ := linked
  have closed : ¬ Open first.result := by
    obtain ⟨workerId, deed⟩ := claimed.2
    have claim := wrote first (by simp)
    simp only [Event.Wrote, deed] at claim
    obtain ⟨-, -, now, after⟩ := claim
    rw [Event.result, open_some, after]
    simp [Task.claim]
  have opened : Open (final Event.result first.result (changes taskUuid between)) := by
    obtain ⟨workerId, deed⟩ := again.2
    have claim := wrote second (by simp)
    simp only [Event.Wrote, deed] at claim
    rw [← start, Event.start, open_some]
    exact claim.1
  obtain ⟨e, member, outside, inside⟩ := middle.crossing closed opened
  obtain ⟨inBetween, key⟩ := mem_changes.1 member
  refine ⟨e, inBetween, key ▸ ?_⟩
  refine Event.Wrote.reopens (wrote e (by simp [inBetween])) (fun waits => outside ?_) ?_
  · exact open_some.2 waits
  · exact open_some.1 inside

/-! ## The claim -/

theorem claimStep {s t : World} {a : Action} (sound : Sound s)
    (stepped : sessions.step s a = some t) : ClaimStep s a t where
  locks i taskUuid now act := by
    subst act
    cases step_move stepped with
    | read reads begun => cases reads
    | lockTask was found free =>
        rename_i worker taskType task
        have selectable := Bool.and_eq_true_iff.1 free
        obtain ⟨waiting, budget, -⟩ := Task.dispatchable_iff.1 selectable.1
        exact ⟨worker, task, found, ⟨waiting, budget⟩,
          Option.isNone_iff_eq_none.1 selectable.2, Function.update_self ..⟩
  holds i worker task now issued writing := by
    have upheld := (step_move stepped).sound sound i
    rw [writing] at upheld
    obtain ⟨⟨-, waiting⟩, selected, -⟩ := upheld
    exact ⟨selected, waiting⟩
  commits i worker task now issued act writing := by
    subst act
    have upheld := sound i
    rw [writing] at upheld
    cases step_move stepped with
    | read reads begun => cases reads
    | reaped was | tended was =>
        rw [writing] at was
        cases was
    | commit was =>
        rw [writing] at was
        cases was
        show s.log ++ Option.toList _ = _
        exact congrArg _ (congrArg _ (event_claim upheld.2.1))

/-- **At-most-once dispatch.** -/
theorem claims_at_most_once (db : Database) (as : List Action) :
    sessions.Always (fun s => AtMostOnce s.log) (atRest db) as ∧
      sessions.Along ClaimStep (atRest db) as := by
  have start : Chronicle db (atRest db) := chronicle_atRest db
  refine ⟨⟨atMostOnce_of_chronicle start, ?_⟩, ?_⟩
  · refine Machine.along_of_step (fun s a t before stepped => ?_) start as
    have after := chronicle_step before stepped
    exact ⟨after, atMostOnce_of_chronicle after⟩
  · refine Machine.along_of_step (fun s a t before stepped => ?_) start as
    exact ⟨chronicle_step before stepped, claimStep before.sound stepped⟩

end Lcp.Sessions
