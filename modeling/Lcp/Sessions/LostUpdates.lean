/-
# Sessions.LostUpdates -- completions and retries from stale copies

Two writers of a task row test a copy and then write by the primary key alone: the
owner that completes a task it may have lost meanwhile, and a client that retries a
task that another client retried first.  Each does what it should in every run in
which its copy is current when its UPDATE is issued (`completions_own`,
`retries_failed`), and the runs at the end show what it does when it is not.
-/
import Lcp.Sessions.CopyCurrency

namespace Lcp.Sessions

open Theory World

set_option autoImplicit false

/-! ## Completions -/

def Deed.completes : Deed → Bool
  | .finished _ (.complete _) => true
  | _ => false

def Deed.retries : Deed → Bool
  | .retried => true
  | _ => false

/-- An event of `complete_task` is on a row that was RUNNING on its worker. -/
def Event.completesOwn (e : Event) : Bool :=
  match e.deed with
  | .finished workerId (.complete _) => e.before.runningOn workerId
  | _ => true

/-- No task is SUCCEEDED by a worker that had lost it. -/
def CompletionsOwn (s : World) : Prop := ∀ e ∈ s.log, e.completesOwn = true

instance : DecidablePred CompletionsOwn := fun s =>
  inferInstanceAs (Decidable (∀ e ∈ s.log, e.completesOwn = true))

/-- What `complete_task` does in one step. -/
structure CompletionStep (s : World) (a : Action) (t : World) : Prop where
  /-- When the task is not RUNNING on the worker it raises, and changes no row. -/
  rejects : ∀ i workerId taskUuid, Completes s i workerId taskUuid a →
    ¬ RunsOn s.db taskUuid workerId →
      (∃ message, t.session i = .raised (.taskTransition message)) ∧ t.db = s.db
  /-- When it commits the task is RUNNING on the worker. -/
  commits : ∀ i workerId task result now issued, a = .commit i →
    s.session i = .writing (.finish workerId task (.complete result) now) issued →
      RunsOn s.db task.taskUuid workerId

theorem completionsOwn_of_settled {db : Database} {s : World}
    (settled : Settled Deed.completes db s) : CompletionsOwn s := by
  intro e member
  have serial := settled.serial e member
  obtain ⟨deed, before, after⟩ := e
  cases deed with
  | finished workerId outcome =>
      cases outcome with
      | complete result => exact serial rfl
      | fail errorCode errorMessage => rfl
  | claimed | cancelled | retried | requeued => rfl

theorem completionStep {db : Database} {s t : World} {a : Action}
    (settled : Settled Deed.completes db s) (guard : finalizesCurrent s a = true)
    (stepped : sessions.step s a = some t) : CompletionStep s a t where
  rejects i workerId taskUuid completes lost := completes_raised stepped completes guard lost
  commits i workerId task result now issued act writing := by
    subst act
    have fresh := settled.committing stepped writing rfl
    obtain ⟨row, found, status, owner⟩ := current_iff.1 fresh
    have upheld := settled.chronicle.sound i
    rw [writing] at upheld
    have running : task.runningOn workerId = true := upheld.1
    exact ⟨row, found, (runningOn_of_current status owner).trans running⟩

/-- **A lost task stays lost** in every run in which `complete_task` tests a current
copy and issues its UPDATE from a current copy. -/
theorem completions_own {db : Database} {as : List Action}
    (guarded : sessions.Guarded (fun s a =>
      updatesCurrent Deed.completes s a = true ∧ finalizesCurrent s a = true) (atRest db) as) :
    sessions.Always CompletionsOwn (atRest db) as ∧
      sessions.Along CompletionStep (atRest db) as := by
  have start := settled_atRest Deed.completes db
  refine ⟨⟨completionsOwn_of_settled start, ?_⟩, ?_⟩
  · refine Machine.along_of_inv (fun s a t before ok stepped => ?_) start guarded
    have after := settled_step before ok.1 stepped
    exact ⟨after, completionsOwn_of_settled after⟩
  · refine Machine.along_of_inv (fun s a t before ok stepped => ?_) start guarded
    exact ⟨settled_step before ok.1 stepped, completionStep before ok.2 stepped⟩

/-! ## Retries -/

/-- An event of `retry_task` is on a FAILED row. -/
def Event.retriesFailed (e : Event) : Bool :=
  match e.deed with
  | .retried => e.before.status = .failed
  | _ => true

/-- Every retry that was committed took its task from FAILED. -/
def RetriesFailed (s : World) : Prop := ∀ e ∈ s.log, e.retriesFailed = true

instance : DecidablePred RetriesFailed := fun s =>
  inferInstanceAs (Decidable (∀ e ∈ s.log, e.retriesFailed = true))

theorem retriesFailed_of_settled {db : Database} {s : World}
    (settled : Settled Deed.retries db s) : RetriesFailed s := by
  intro e member
  have serial := settled.serial e member
  obtain ⟨deed, before, after⟩ := e
  cases deed with
  | retried =>
      have failed : before.status = .failed := serial rfl
      simp [Event.retriesFailed, failed]
  | claimed | finished | cancelled | requeued => rfl

/-- **Retries are from FAILED** in every run in which `retry_task` issues its UPDATE
while the task still has the status that it read. -/
theorem retries_failed {db : Database} {as : List Action}
    (guarded : sessions.Guarded (fun s a => updatesCurrent Deed.retries s a = true)
      (atRest db) as) :
    sessions.Always RetriesFailed (atRest db) as := by
  have start := settled_atRest Deed.retries db
  have settled := Machine.always_of_inv (fun s a t before ok stepped =>
    settled_step before ok stepped) start guarded
  exact settled.mono fun s => retriesFailed_of_settled

/-! ## The races -/

section Runs

/-- One task and two workers; `a` has not been heard of for a while. -/
def twoWorkers (status : TaskStatus) (attempt : Nat) : Database where
  task := Table.empty.insert
    { taskUuid := "t", taskType := .compaction, datasetUuid := "d", tenantId := "acme",
      status, attempt, createdAt := 0 }
  workerRegistry := (Table.empty.insert
    { workerId := "a", workerType := "lifecycle", leaseId := "lease-a",
      lastHeartbeatAt := 0 }).insert
    { workerId := "b", workerType := "lifecycle", leaseId := "lease-b",
      lastHeartbeatAt := 100 }

/-- A claim that goes through, its refresh included. -/
def claimed (i : Nat) (workerId leaseId : String) (now : DateTime) : List Action :=
  [.claim i workerId leaseId none, .lockTask i "t" now, .update i, .update i, .commit i,
    .refresh i]

/-- A pass of the reaper that finds one stale worker. -/
def reapedOne (i : Nat) (now : DateTime) : List Action :=
  [.reap i now 30, .reapWorker i, .commit i]

/-- `complete_task` at the end of an iteration, from its check to its commit. -/
def completed (i : Nat) (now : DateTime) : List Action :=
  [.finalize i (.complete none) now, .update i, .update i, .commit i]

/-- `a` runs the task for long; it is declared dead, `b` claims the task, and then `a`
completes it. -/
def completedByLoser : List Action :=
  claimed 0 "a" "lease-a" 1 ++ reapedOne 1 100 ++ claimed 2 "b" "lease-b" 101 ++
    completed 0 102

theorem loser_completes :
    ¬ sessions.Always CompletionsOwn (atRest (twoWorkers .pending 0)) completedByLoser :=
  Machine.not_always_of_ends (by decide)

/-- The owner completes the task, and the loser is late with a call of its own. -/
theorem completions_own_owner :
    sessions.Always CompletionsOwn (atRest (twoWorkers .pending 0))
        (claimed 0 "a" "lease-a" 1 ++ reapedOne 1 100 ++ claimed 2 "b" "lease-b" 101 ++
          completed 2 102 ++ [.finish 3 "a" "t" (.complete none) 103]) ∧
      sessions.Along CompletionStep (atRest (twoWorkers .pending 0))
        (claimed 0 "a" "lease-a" 1 ++ reapedOne 1 100 ++ claimed 2 "b" "lease-b" 101 ++
          completed 2 102 ++ [.finish 3 "a" "t" (.complete none) 103]) :=
  completions_own (by decide)

/-- Two clients retry a FAILED task; a worker claims it between their commits. -/
def retriedTwice : List Action :=
  [.retry 0 acmeSdk "t", .retry 1 acmeSdk "t", .update 1, .commit 1] ++
    claimed 2 "b" "lease-b" 101 ++ [.update 0, .commit 0]

theorem running_task_retried :
    ¬ sessions.Always RetriesFailed (atRest (twoWorkers .failed 1)) retriedTwice :=
  Machine.not_always_of_ends (by decide)

/-- The second client reads the task after the first one's commit. -/
theorem retries_failed_in_turn :
    sessions.Always RetriesFailed (atRest (twoWorkers .failed 1))
      ([.retry 0 acmeSdk "t", .update 0, .commit 0, .retry 1 acmeSdk "t"] ++
        claimed 2 "b" "lease-b" 101) :=
  retries_failed (by decide)

end Runs

end Lcp.Sessions
