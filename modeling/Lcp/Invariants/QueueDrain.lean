/-
# Invariants.QueueDrain -- one worker draining the queue

A worker that is alone on the queue repeats `claim_next_task` and
`complete_task` until it is handed nothing.  One turn of that loop is a label of
`draining`: which row the select returned, when it was claimed and finished, and
with what result.  The select may return any row that no other dispatchable row
sorts before, so the order of rows that tie is left open; the row that
`claimNextTask` takes is one of them (`claimNextTask_picks`).

A turn takes its row out of the dispatchable ones and leaves the worker as it
was (`turn_cases`).  Hence the number of dispatchable rows bounds the number of
turns, and the rows a run has taken, followed by those it has left, are the rows
it began with, in the order of the queue (`drained_of_run`).
-/
import Lcp.Services.SchedulerService
import Lcp.Theory.Machine
import Mathlib.Data.Prod.Lex

namespace Lcp

open Theory

set_option autoImplicit false

/-! ## The order of the queue -/

namespace Task

/-- What `ORDER BY priority ASC, created_at ASC` compares. -/
def rank (task : Task) : Nat ×ₗ DateTime := toLex (task.priority, task.createdAt)

theorem before_iff {a b : Task} : a.before b = true ↔ a.rank < b.rank := by
  simp [before, rank, Prod.Lex.toLex_lt_toLex]

theorem before_asymm (a b : Task) (earlier : a.before b = true) : b.before a = false := by
  rw [← Bool.not_eq_true, before_iff]
  exact lt_asymm (before_iff.1 earlier)

theorem before_cotrans (a b c : Task) (earlier : a.before c = true) :
    a.before b = true ∨ b.before c = true := by
  rw [before_iff, before_iff]
  rcases lt_or_ge a.rank b.rank with sooner | later
  · exact .inl sooner
  · exact .inr (lt_of_le_of_lt later (before_iff.1 earlier))

theorem rank_le_of_not_before {a b : Task} (least : b.before a = false) : a.rank ≤ b.rank := by
  rw [← Bool.not_eq_true, before_iff] at least
  exact not_lt.1 least

/-- A SUCCEEDED row is handed to nobody. -/
theorem not_dispatchable_complete (taskType : Option TaskType) (now : DateTime)
    (result : Option JsonDict) (task : Task) :
    (task.complete now result).dispatchable taskType = false := by
  simp [dispatchable, complete]

theorem runningOn_claim (workerId : String) (now : DateTime) (task : Task) :
    (task.claim workerId now).runningOn workerId = true := by
  simp [runningOn, claim]

end Task

namespace QueueDrain

open SchedulerService

/-- One turn of the loop: the row the select returned, the clocks of the two
calls, and what the worker reports. -/
structure Turn where
  taskUuid : String
  claimedAt : DateTime
  finishedAt : DateTime
  result : Option JsonDict := none

/-- What the two calls of a turn assign to its row. -/
def Turn.assign (workerId : String) (turn : Turn) (task : Task) : Task :=
  (task.claim workerId turn.claimedAt).complete turn.finishedAt turn.result

theorem Turn.taskUuid_assign (workerId : String) (turn : Turn) (task : Task) :
    (turn.assign workerId task).taskUuid = task.taskUuid := rfl

/-- The rows after a turn. -/
def Turn.write (workerId : String) (turn : Turn) (db : Database) : Database :=
  { db with
    task := db.task.update turn.taskUuid (turn.assign workerId) (turn.taskUuid_assign workerId) }

/-- What `ORDER BY priority, created_at LIMIT 1` may return: a dispatchable row that no other
one sorts before. -/
def Selectable (taskType : Option TaskType) (db : Database) (task : Task) : Prop :=
  task.dispatchable taskType = true ∧
    ∀ other ∈ db.task.rows, other.dispatchable taskType = true → other.before task = false

instance (taskType : Option TaskType) (db : Database) (task : Task) :
    Decidable (Selectable taskType db task) := inferInstanceAs (Decidable (_ ∧ _))

/-- The rows still to be handed out. -/
def backlog (taskType : Option TaskType) (db : Database) : List Task :=
  db.task.rows.filter (Task.dispatchable taskType)

variable (principal : Option TenantPrincipal) (workerId leaseId : String)
  (taskType : Option TaskType)

/-- `claim_next_task` that is handed the row of the turn, then `complete_task`
of it. -/
def draining : Machine Database Turn where
  step db turn :=
    match requireSystemContext principal, db.workerRegistry.get workerId,
        db.task.get turn.taskUuid with
    | true, some worker, some task =>
        if worker.mayClaim leaseId = .ok true ∧ Selectable taskType db task then
          (completeTask principal turn.finishedAt workerId turn.taskUuid turn.result
            (claimTask turn.claimedAt workerId worker task db)).toOption
        else none
    | _, _, _ => none

variable {principal workerId leaseId taskType}

/-! ## One turn -/

/-- The slot that the claim takes is given back, so a turn writes its task and nothing else. -/
theorem completeTask_claimTask (system : requireSystemContext principal = true)
    {worker : WorkerRegistry} {task : Task} {db : Database} (turn : Turn)
    (registered : db.workerRegistry.get workerId = some worker)
    (found : db.task.get turn.taskUuid = some task) :
    completeTask principal turn.finishedAt workerId turn.taskUuid turn.result
      (claimTask turn.claimedAt workerId worker task db) = .ok (turn.write workerId db) := by
  have named : task.taskUuid = turn.taskUuid := Table.key_of_get found
  have running : (claimTask turn.claimedAt workerId worker task db).task.get turn.taskUuid =
      some (task.claim workerId turn.claimedAt) := by
    simp [claimTask, Table.get_update, named, found]
  rw [completeTask, finishTask_of_owned system running (Task.runningOn_claim _ _ _)]
  have tasks : ((claimTask turn.claimedAt workerId worker task db).task.update turn.taskUuid
      (Task.complete turn.finishedAt turn.result)
      (Task.taskUuid_complete turn.finishedAt turn.result)) =
      (turn.write workerId db).task := by
    refine Table.ext ?_
    simp only [claimTask, Turn.write, Table.rows_update, List.map_map]
    refine List.map_congr_left fun row _ => ?_
    by_cases hit : row.taskUuid = turn.taskUuid
    · simp [hit, named, Task.taskUuid_claim, Turn.assign]
    · simp [hit, named]
  have workers : ((claimTask turn.claimedAt workerId worker task db).workerRegistry.update workerId
      WorkerRegistry.decrementInFlight WorkerRegistry.workerId_decrementInFlight) =
      db.workerRegistry := by
    refine Table.ext ?_
    simp only [claimTask, Table.rows_update, List.map_map]
    refine (List.map_congr_left fun row member => ?_).trans (List.map_id _)
    by_cases hit : row.workerId = workerId
    · obtain rfl : row = worker :=
        Table.eq_of_key_eq member (Table.mem_of_get registered)
          (hit.trans (Table.key_of_get registered).symm)
      subst hit
      simp [WorkerRegistry.setInFlight, WorkerRegistry.decrementInFlight]
    · simp [hit]
  simp only [decrementInFlight, tasks, workers]
  rfl

theorem turn_cases {db after : Database} {turn : Turn}
    (stepped : (draining principal workerId leaseId taskType).step db turn = some after) :
    ∃ task, db.task.get turn.taskUuid = some task ∧ Selectable taskType db task ∧
      after = turn.write workerId db := by
  simp only [draining] at stepped
  split at stepped
  · rename_i worker task system registered found
    split at stepped
    · rename_i enabled
      rw [completeTask_claimTask system turn registered found] at stepped
      exact ⟨task, found, enabled.2, (Option.some.inj stepped).symm⟩
    · cases stepped
  · cases stepped

theorem turn_of_selectable (system : requireSystemContext principal = true)
    {worker : WorkerRegistry} {task : Task} {db : Database} {turn : Turn}
    (registered : db.workerRegistry.get workerId = some worker)
    (admitted : worker.mayClaim leaseId = .ok true)
    (found : db.task.get turn.taskUuid = some task) (selectable : Selectable taskType db task) :
    (draining principal workerId leaseId taskType).step db turn =
      some (turn.write workerId db) := by
  simp only [draining, system, registered, found]
  rw [if_pos ⟨admitted, selectable⟩, completeTask_claimTask system turn registered found]
  rfl

/-- The row that `claimNextTask` takes is one the select may return; it takes none only when none
is left. -/
theorem claimNextTask_picks (system : requireSystemContext principal = true)
    {worker : WorkerRegistry} {db : Database}
    (registered : db.workerRegistry.get workerId = some worker)
    (admitted : worker.mayClaim leaseId = .ok true) (taskType : Option TaskType)
    (now : DateTime) :
    (backlog taskType db = [] ∧
      claimNextTask principal now workerId leaseId taskType db = .ok (none, db)) ∨
    ∃ task, db.task.get task.taskUuid = some task ∧ Selectable taskType db task ∧
      claimNextTask principal now workerId leaseId taskType db =
        .ok (some (task.claim workerId now), claimTask now workerId worker task db) := by
  cases picked : db.task.first (Task.dispatchable taskType) Task.before with
  | none =>
      refine .inl ⟨?_, ?_⟩
      · refine List.filter_eq_nil_iff.2 fun task member => ?_
        simp [Table.first_eq_none.1 picked task member]
      · simp [claimNextTask, system, registered, admitted, picked, bind, Except.bind, pure,
          Except.pure]
  | some task =>
      obtain ⟨member, wanted⟩ := Table.first_spec picked
      refine .inr ⟨task, Table.get_of_mem member, ⟨wanted, fun other inside ready => ?_⟩, ?_⟩
      · exact Table.first_least Task.before_asymm Task.before_cotrans picked inside ready
      · simp [claimNextTask, system, registered, admitted, picked, bind, Except.bind, pure,
          Except.pure]

theorem backlog_write {db : Database} (turn : Turn) :
    backlog taskType (turn.write workerId db) =
      (backlog taskType db).filter fun task => task.taskUuid ≠ turn.taskUuid :=
  Table.filter_update_out (turn.taskUuid_assign workerId)
    fun _ _ _ => Task.not_dispatchable_complete taskType _ _ _

/-! ## Whole runs -/

/-- What a run has taken, followed by what it has left, is what it began with, in order. -/
theorem drained_of_run {db after : Database} {turns : List Turn}
    (ran : (draining principal workerId leaseId taskType).run db turns = some after) :
    ∃ claimed : List Task, claimed.map Task.taskUuid = turns.map Turn.taskUuid ∧
      (claimed ++ backlog taskType after).Perm (backlog taskType db) ∧
      claimed.Pairwise fun a b => a.rank ≤ b.rank := by
  induction turns generalizing db with
  | nil =>
      obtain rfl : db = after := by simpa using ran
      exact ⟨[], rfl, .refl _, .nil⟩
  | cons turn turns ih =>
      simp only [Machine.run_cons, Option.bind_eq_some_iff] at ran
      obtain ⟨mid, stepped, rest⟩ := ran
      obtain ⟨task, found, ⟨ready, least⟩, rfl⟩ := turn_cases stepped
      obtain ⟨claimed, named, perm, sorted⟩ := ih rest
      have taken : task.taskUuid = turn.taskUuid := Table.key_of_get found
      rw [backlog_write, ← taken] at perm
      refine ⟨task :: claimed, by simp [taken, named], ?_, List.pairwise_cons.2 ⟨?_, sorted⟩⟩
      · exact (perm.cons task).trans (Table.filter_perm_cons (Table.mem_of_get found) ready)
      · intro later member
        have inBacklog : later ∈ backlog taskType db :=
          (List.mem_filter.1 (perm.subset (List.mem_append_left _ member))).1
        obtain ⟨inTable, dispatchable⟩ := List.mem_filter.1 inBacklog
        exact Task.rank_le_of_not_before (least later inTable dispatchable)

/-- A turn's row is one of those the run began with. -/
theorem mem_backlog_of_turn {db after : Database} {turns : List Turn}
    (ran : (draining principal workerId leaseId taskType).run db turns = some after)
    {turn : Turn} (member : turn ∈ turns) :
    ∃ task ∈ backlog taskType db, task.taskUuid = turn.taskUuid := by
  obtain ⟨claimed, named, perm, -⟩ := drained_of_run ran
  obtain ⟨task, inClaimed, same⟩ :=
    List.mem_map.1 (named ▸ List.mem_map_of_mem (f := Turn.taskUuid) member)
  exact ⟨task, perm.subset (List.mem_append_left _ inClaimed), same⟩

/-- A run writes the rows of its turns, each once, and nothing else. -/
theorem rows_of_run {db after : Database} {turns : List Turn}
    (ran : (draining principal workerId leaseId taskType).run db turns = some after) :
    after = { db with task := after.task } ∧ after.task.keys = db.task.keys ∧
    ∀ taskUuid,
      (∃ turn ∈ turns, turn.taskUuid = taskUuid ∧
        after.task.get taskUuid = (db.task.get taskUuid).map (turn.assign workerId)) ∨
      (∀ turn ∈ turns, turn.taskUuid ≠ taskUuid) ∧
        after.task.get taskUuid = db.task.get taskUuid := by
  induction turns generalizing db with
  | nil =>
      obtain rfl : db = after := by simpa using ran
      exact ⟨rfl, rfl, fun _ => .inr ⟨by simp, rfl⟩⟩
  | cons turn turns ih =>
      simp only [Machine.run_cons, Option.bind_eq_some_iff] at ran
      obtain ⟨mid, stepped, rest⟩ := ran
      obtain ⟨task, found, -, rfl⟩ := turn_cases stepped
      obtain ⟨frame, keys, rows⟩ := ih rest
      have sameKeys : (turn.write workerId db).task.keys = db.task.keys :=
        Table.keys_update db.task turn.taskUuid (turn.assign workerId)
          (turn.taskUuid_assign workerId)
      refine ⟨frame, keys.trans sameKeys, fun taskUuid => ?_⟩
      have once : (turn.write workerId db).task.get taskUuid =
          if taskUuid = turn.taskUuid then (db.task.get taskUuid).map (turn.assign workerId)
          else db.task.get taskUuid :=
        Table.get_update db.task turn.taskUuid taskUuid (turn.assign workerId)
          (turn.taskUuid_assign workerId)
      by_cases same : taskUuid = turn.taskUuid
      · rw [if_pos same] at once
        rcases rows taskUuid with ⟨again, member, hit, -⟩ | ⟨others, kept⟩
        · -- the row is SUCCEEDED by now, so no later turn was handed it
          obtain ⟨row, ready, named⟩ := mem_backlog_of_turn rest member
          rw [backlog_write] at ready
          have other : row.taskUuid ≠ turn.taskUuid := by
            simpa using (List.mem_filter.1 ready).2
          exact absurd (named.trans (hit.trans same)) other
        · exact .inl ⟨turn, List.mem_cons_self, same.symm, kept.trans once⟩
      · rw [if_neg same] at once
        rcases rows taskUuid with ⟨later, member, hit, wrote⟩ | ⟨others, kept⟩
        · exact .inl ⟨later, List.mem_cons_of_mem _ member, hit, by rw [wrote, once]⟩
        · refine .inr ⟨fun other member => ?_, kept.trans once⟩
          rcases List.mem_cons.1 member with rfl | inRest
          · exact fun hit => same hit.symm
          · exact others other inRest

/-! ## The drained queue -/

/-- **Draining the queue is a sort.**  However the select breaks ties, a worker
that is alone takes at most as many turns as there are dispatchable rows, and
as long as it is handed a row it completes it.  When it is handed none, the rows
it took are the dispatchable ones, each once and in the order of the queue; they
are SUCCEEDED, and every other row of the database, the worker's among them, is
what it was. -/
theorem draining_sortsQueue (system : requireSystemContext principal = true)
    {worker : WorkerRegistry} {db after : Database} {turns : List Turn}
    (registered : db.workerRegistry.get workerId = some worker)
    (lease : worker.leaseId = leaseId) (alive : worker.status = .alive)
    (room : worker.inFlight < worker.capacity)
    (ran : (draining principal workerId leaseId taskType).run db turns = some after) :
    turns.length ≤ (backlog taskType db).length ∧
    (∀ now, claimNextTask principal now workerId leaseId taskType after = .ok (none, after) ∨
      ∃ (task : Task) (claimed : Database),
        claimNextTask principal now workerId leaseId taskType after =
          .ok (some (task.claim workerId now), claimed) ∧
        ∀ finishedAt result, ∃ next,
          completeTask principal finishedAt workerId task.taskUuid result claimed = .ok next ∧
          (draining principal workerId leaseId taskType).step after
            ⟨task.taskUuid, now, finishedAt, result⟩ = some next) ∧
    ((∃ now, claimNextTask principal now workerId leaseId taskType after = .ok (none, after)) →
      (∃ claimed : List Task, claimed.map Task.taskUuid = turns.map Turn.taskUuid ∧
        claimed.Perm (backlog taskType db) ∧ claimed.Pairwise fun a b => a.rank ≤ b.rank) ∧
      (∀ task ∈ db.task.rows, task.dispatchable taskType = true →
        ∃ turn ∈ turns, turn.taskUuid = task.taskUuid ∧
          after.task.get task.taskUuid = some (turn.assign workerId task) ∧
          (turn.assign workerId task).status = .succeeded) ∧
      (∀ task ∈ db.task.rows, task.dispatchable taskType = false →
        after.task.get task.taskUuid = some task) ∧
      after.task.keys = db.task.keys ∧
      after.workerRegistry.get workerId = some worker ∧
      after = { db with task := after.task }) := by
  have admitted : worker.mayClaim leaseId = .ok true :=
    WorkerRegistry.mayClaim_eq_true.2 ⟨lease, alive, room⟩
  obtain ⟨claimed, named, perm, sorted⟩ := drained_of_run ran
  obtain ⟨frame, keys, rows⟩ := rows_of_run ran
  have stays : after.workerRegistry.get workerId = some worker := by rw [frame]; exact registered
  refine ⟨?_, fun now => ?_, ?_⟩
  · have lengths := perm.length_eq
    have pairs : claimed.length = turns.length := by simpa using congrArg List.length named
    rw [List.length_append, pairs] at lengths
    omega
  · rcases claimNextTask_picks system stays admitted taskType now with
      ⟨-, handedNone⟩ | ⟨task, found, selectable, handed⟩
    · exact .inl handedNone
    · refine .inr ⟨task, _, handed, fun finishedAt result => ?_⟩
      let turn : Turn := ⟨task.taskUuid, now, finishedAt, result⟩
      exact ⟨turn.write workerId after, completeTask_claimTask system turn stays found,
        turn_of_selectable system stays admitted found selectable⟩
  · rintro ⟨now, handedNone⟩
    have empty : backlog taskType after = [] := by
      rcases claimNextTask_picks system stays admitted taskType now with
        ⟨empty, -⟩ | ⟨task, -, -, handed⟩
      · exact empty
      · rw [handed] at handedNone
        cases handedNone
    rw [empty, List.append_nil] at perm
    refine ⟨⟨claimed, named, perm, sorted⟩, fun task member ready => ?_,
      fun task member unready => ?_, keys, stays, frame⟩
    · have inTurns : task.taskUuid ∈ turns.map Turn.taskUuid :=
        named ▸ List.mem_map_of_mem (perm.symm.subset (List.mem_filter.2 ⟨member, ready⟩))
      rcases rows task.taskUuid with ⟨turn, inRun, hit, wrote⟩ | ⟨others, -⟩
      · refine ⟨turn, inRun, hit, ?_, rfl⟩
        rw [wrote, Table.get_of_mem member, Option.map_some]
      · obtain ⟨turn, inRun, hit⟩ := List.mem_map.1 inTurns
        exact absurd hit (others turn inRun)
    · rcases rows task.taskUuid with ⟨turn, inRun, hit, -⟩ | ⟨-, kept⟩
      · obtain ⟨row, inBacklog, same⟩ := mem_backlog_of_turn ran inRun
        obtain ⟨inTable, ready⟩ := List.mem_filter.1 inBacklog
        obtain rfl := Table.eq_of_key_eq inTable member (same.trans hit)
        rw [ready] at unready
        cases unready
      · rw [kept, Table.get_of_mem member]

/-! ## A backlog of three -/

/-- Two tasks of one priority, a more urgent one, and one without retry budget. -/
def backlogOfThree : Database where
  dataset := .empty
  vectorIndex := .empty
  lifecyclePolicy := .empty
  vectorizationRule := .empty
  workerRegistry := .single
    { workerId := "w", workerType := "index", leaseId := "l", lastHeartbeatAt := 0 }
  task := ⟨[{ taskUuid := "late", taskType := .compaction, datasetUuid := "d", tenantId := "t",
              createdAt := 9 },
            { taskUuid := "spent", taskType := .compaction, datasetUuid := "d", tenantId := "t",
              attempt := 3, createdAt := 1 },
            { taskUuid := "early", taskType := .compaction, datasetUuid := "d", tenantId := "t",
              status := .queued, createdAt := 2 },
            { taskUuid := "urgent", taskType := .ttlDelete, datasetUuid := "d", tenantId := "t",
              priority := 0, createdAt := 30 }], by decide⟩

/-- The loop's three turns over it. -/
def threeTurns : List Turn :=
  [⟨"urgent", 40, 41, none⟩, ⟨"early", 42, 43, none⟩, ⟨"late", 44, 45, none⟩]

/-- The three rows leave by priority and then by age, and all are SUCCEEDED. -/
theorem draining_sortsQueue_three :
    ∃ after, (draining (some (systemPrincipal "")) "w" "l" none).run backlogOfThree threeTurns =
        some after ∧
      threeTurns.length ≤ (backlog none backlogOfThree).length ∧
      (∃ claimed : List Task, claimed.map Task.taskUuid = ["urgent", "early", "late"] ∧
        claimed.Perm (backlog none backlogOfThree) ∧
        claimed.Pairwise fun a b => a.rank ≤ b.rank) ∧
      (∀ task ∈ backlogOfThree.task.rows, task.dispatchable none = true →
        (after.task.get task.taskUuid).map Task.status = some .succeeded) ∧
      after.workerRegistry = backlogOfThree.workerRegistry := by
  have drains : ((draining (some (systemPrincipal "")) "w" "l" none).run backlogOfThree
      threeTurns).any (fun after =>
        ((claimNextTask (some (systemPrincipal "")) 46 "w" "l" none after).toOption.map
          (·.1)) = some none) = true := by decide
  obtain ⟨after, ran, handed⟩ := (Option.any_eq_true _ _).1 drains
  obtain ⟨⟨claimed, next⟩, answered, rfl⟩ := Option.map_eq_some_iff.1 (of_decide_eq_true handed)
  have asked := eq_ok_of_toOption answered
  obtain ⟨-, rfl⟩ | ⟨_, _, -, -, -, -, none_eq, -⟩ := claimNextTask_cases asked
  · obtain ⟨bound, -, drained⟩ := draining_sortsQueue (requireSystemContext_system "")
      (Table.get_of_mem (T := backlogOfThree.workerRegistry) List.mem_cons_self) rfl rfl
      (by decide) ran
    obtain ⟨taken, succeeded, -, -, -, frame⟩ := drained ⟨46, asked⟩
    refine ⟨_, ran, bound, taken, fun task member ready => ?_, by rw [frame]⟩
    obtain ⟨turn, -, -, found, ends⟩ := succeeded task member ready
    rw [found, Option.map_some, ends]
  · cases none_eq

end QueueDrain

end Lcp
