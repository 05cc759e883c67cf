/-
# Sessions.ExclusiveOptimize -- who moves a READY index to OPTIMIZING

A call that read READY flips the row whatever became of it since, and so does a pass.  In
the runs in which the row is still READY when it is flipped (`Current`), one session goes
through the stages of `Stage` and nobody else leaves a trace: the other calls raise, and
the other passes emit nothing for the index (`Exclusive`).

* `optimize_exclusive` -- such a run, with any number of calls and passes.
* `overlapping_calls` -- two calls that both read READY, and both get a task.
-/
import Lcp.Sessions.OptimizePasses

namespace Lcp.Optimizers

open Theory IndexService

set_option autoImplicit false

/-! ## What exclusive means -/

/-- The committed tasks that name the index. -/
def World.tasksOf (s : World) (index : Index) : List Task :=
  s.base.tasks.committed.filter (namedBy index)

/-- All calls have ended, and no pass is under way. -/
def World.Quiescent (s : World) : Prop :=
  (∀ call ∈ s.calls, call.ended = true) ∧ ∀ i, s.base.session i = .idle

/-- What the run leaves when all is over: one session has moved the row, and its task is the only
new one that names the index. -/
structure Outcome (db : Database) (index : Index) (s : World) (winner : Nat) (task : Task) :
    Prop where
  movers : s.movers index = [winner]
  tasks : s.tasksOf index = db.task.rows.filter (namedBy index) ++ [task]
  status : (s.base.db.vectorIndex.get index.id).map Index.status = some .optimizing
  /-- A call has won and the task is the one it submitted, or a pass has. -/
  winner : ((∃ copy, s.calls[winner]? = some (.returned copy)) ∧
      task.params = some [("index_name", .str index.indexName)]) ∨ s.calls.length ≤ winner

/-- One session at most moves the row and one task at most is committed for it; a call that has
ended has done that or has raised `IndexTransitionError`; and in the end somebody has. -/
structure Exclusive (db : Database) (index : Index) (s : World) : Prop where
  movers : (s.movers index).length ≤ 1
  tasks : (s.tasksOf index).length ≤ (db.task.rows.filter (namedBy index)).length + 1
  answers : ∀ (i : Nat) (call : Call), s.calls[i]? = some call → call.ended = true →
    ((∃ copy, call = .returned copy) ∧ s.movers index = [i]) ∨
      ∃ message, call = .raised (.transition message)
  outcome : s.Quiescent → s.calls ≠ [] → ∃ winner task, Outcome db index s winner task

/-! ## Whole runs -/

section Runs

variable {db : Database} {index : Index} {requests : List Request} {stage : Stage} {s t : World}

/-- **Every step that meets the condition leads to a stage.** -/
theorem realizes_step (realizes : Realizes db index stage s) (ready : index.status = .ready)
    {act : Action} (current : Current index s act) (stepped : step s act = some t) :
    ∃ next, Realizes db index next t := by
  cases act with
  | read i => exact ⟨stage, realizes.read ready stepped⟩
  | flip i now => exact ⟨_, realizes.flip current stepped⟩
  | commit i => exact ⟨_, realizes.commit ready stepped⟩
  | refresh i => exact ⟨stage, realizes.refresh stepped⟩
  | submit act => exact realizes.submit current stepped
  | giveUp i cause =>
      rw [realizes.not_giveUp] at stepped
      cases stepped
  | watch act => exact realizes.watch current stepped
  | elsewhere others => exact ⟨stage, realizes.elsewhere stepped⟩

theorem realizes_start (begins : Begins db index requests) :
    Realizes db index .free (start db requests) where
  dataset := rfl
  rows := by
    refine ⟨fun row member => ?_, fun _ => Table.get_of_mem begins.listed,
      (fun moved => by cases moved)⟩
    rw [Bool.eq_iff_iff, decide_eq_true_iff]
    constructor
    · intro named
      rw [begins.alone row member named]
    · intro same
      obtain rfl : row = index := Table.eq_of_key_eq member begins.listed same
      simp [Index.named]
  movers := rfl
  locks i holds := by cases holds
  tasks := ⟨(List.append_nil _).symm, fun _ _ _ => rfl, (fun task member => by cases member)⟩
  calls j call is := by
    obtain ⟨request, listed, rfl⟩ := List.mem_map.1 (List.mem_of_getElem? is)
    exact begins.asks request listed
  passes j p watching := by cases watching
  present := trivial

/-- In the end the flip has been made, and its task is committed. -/
theorem Realizes.outcome (realizes : Realizes db index stage s) (quiescent : s.Quiescent)
    (some_ : s.calls ≠ []) : ∃ winner task, Outcome db index s winner task := by
  -- a call that has ended has returned, or has seen a committed flip
  have ended : ∀ {i : Nat} {call : Call}, s.calls[i]? = some call →
      (∃ task, task.params = some [("index_name", .str index.indexName)] ∧
        stage = .settled i task ∧ ∃ copy, call = .returned copy) ∨
      stage.mover.isSome = true ∧ call.acts = false := by
    intro i call is
    have admits := realizes.calls i call is
    have finished := quiescent.1 call (List.mem_of_getElem? is)
    cases call with
    | returned copy =>
        obtain ⟨task, params, settled⟩ := admits
        exact .inl ⟨task, params, settled, copy, rfl⟩
    | raised e => exact .inr ⟨admits.2, rfl⟩
    | begun | admitted | flipped | committed | submitting | reverting => cases finished
  have settled_of_acts : ∀ {i : Nat}, (∃ call, s.calls[i]? = some call ∧ call.acts = true) →
      ∃ task, task.params = some [("index_name", .str index.indexName)] ∧
        stage = .settled i task ∧ ∃ copy, s.calls[i]? = some (.returned copy) := by
    rintro i ⟨call, is, acts⟩
    obtain ⟨task, params, settled, copy, rfl⟩ | ⟨-, idle⟩ := ended is
    · exact ⟨task, params, settled, copy, is⟩
    · rw [idle] at acts
      cases acts
  have present := realizes.present
  cases stage with
  | free =>
      obtain ⟨call, listed⟩ := List.exists_mem_of_ne_nil _ some_
      obtain ⟨i, is⟩ := List.mem_iff_getElem?.1 listed
      obtain ⟨task, -, settled, -⟩ | ⟨moved, -⟩ := ended is
      · cases settled
      · cases moved
  | claimed i | moved i | inserted i task =>
      obtain ⟨task, -, settled, -⟩ := settled_of_acts present
      cases settled
  | emitting i task =>
      obtain ⟨p, watching⟩ := present
      rw [quiescent.2 i] at watching
      cases watching
  | settled i task =>
      obtain ⟨stamp, found⟩ := realizes.rows.optimizing rfl
      refine ⟨i, task, realizes.movers, realizes.tasks.committed, by rw [found]; rfl, ?_⟩
      rcases present with acting | beyond
      · obtain ⟨other, params, same, returned⟩ := settled_of_acts acting
        obtain rfl := (Stage.settled.inj same).2
        exact .inl ⟨returned, params⟩
      · exact .inr beyond

theorem Realizes.exclusive (realizes : Realizes db index stage s) : Exclusive db index s where
  movers := by
    rw [realizes.movers]
    cases stage.mover with
    | none => exact Nat.zero_le _
    | some i => exact Nat.le_refl _
  tasks := by
    have committed : s.tasksOf index = db.task.rows.filter (namedBy index) ++
        if stage.owner = none then stage.tasks else [] := realizes.tasks.committed
    have few : stage.tasks.length ≤ 1 := by cases stage <;> simp [Stage.tasks]
    rw [committed, List.length_append]
    split
    · omega
    · simp
  answers i call is finished := by
    have admits := realizes.calls i call is
    cases call with
    | returned copy =>
        obtain ⟨task, -, rfl⟩ := admits
        exact .inl ⟨⟨copy, rfl⟩, realizes.movers⟩
    | raised e =>
        obtain ⟨⟨message, rfl⟩, -⟩ := admits
        exact .inr ⟨message, rfl⟩
    | begun | admitted | flipped | committed | submitting | reverting => cases finished
  outcome := realizes.outcome

/-- **Optimize is exclusive while READY is current.**  Take any number of calls for a READY index
and any watch passes, in any interleaving in which the row is still READY whenever it is flipped,
and the keys of the submissions are free.  One session at most moves the row and has a task for it,
and when all is over one has; every other call has raised `IndexTransitionError`. -/
theorem optimize_exclusive (begins : Begins db index requests) {actions : List Action}
    (guarded : optimizers.Guarded (Current index) (start db requests) actions) :
    optimizers.Always (Exclusive db index) (start db requests) actions := by
  have inv : ∃ stage, Realizes db index stage (start db requests) := ⟨_, realizes_start begins⟩
  have kept : ∀ (s : World) (act : Action) (t : World), (∃ stage, Realizes db index stage s) →
      Current index s act → optimizers.step s act = some t →
        ∃ stage, Realizes db index stage t := by
    rintro s act t ⟨stage, realizes⟩ current stepped
    exact realizes_step realizes begins.ready current stepped
  refine Machine.Always.mono ?_ (Machine.always_of_inv kept inv guarded)
  rintro s ⟨stage, realizes⟩
  exact realizes.exclusive

end Runs

section Examples

private def caller (subject : String) : TenantPrincipal :=
  { tenantId := "acme", subject, authMethod := .oidc }

private def embIdx : Index :=
  { id := 7, datasetUuid := "d1", indexName := "emb_idx", columnName := "emb",
    indexType := "IVF_PQ", status := .ready, lastSeenVersion := some 7 }

/-- One READY index, which a policy watches. -/
private def readyIndex : Database where
  dataset :=
    .single
      { datasetUuid := "d1", catalog := "lake", dbSchema := "acme", tableName := "events",
        storageUri := "s3://acme/events", tenantId := "acme" }
  vectorIndex := .single embIdx
  lifecyclePolicy :=
    .single
      { id := 1, datasetUuid := "d1", policyName := "watch", indexWatchEnabled := true,
        indexWatchMinUnindexedRows := some 1000 }

private def askedAt : DateTime := DateTime.start2026

/-- Two callers ask for the same index. -/
private def twoCalls : List Request :=
  [⟨caller "karin", "d1", "emb_idx"⟩, ⟨caller "olga", "d1", "emb_idx"⟩]

private theorem begins_twoCalls : Begins readyIndex embIdx twoCalls where
  listed := by decide +kernel
  ready := rfl
  alone row member _ := List.mem_singleton.1 member
  asks request member := by
    rcases List.mem_cons.1 member with rfl | member
    · exact ⟨rfl, rfl, _, rfl⟩
    · obtain rfl := List.mem_singleton.1 member
      exact ⟨rfl, rfl, _, rfl⟩

/-- The submission of call `i`, to its end. -/
private def submitAll (i : Nat) (taskUuid : String) (now : DateTime) : List Action :=
  List.replicate 4 (.submit ⟨i, taskUuid, now⟩)

/-- The second call reads when the first one has moved the row, and a pass sees a calm index. -/
private def inTurn : List Action :=
  [.read 0, .watch (.scan 2 askedAt), .flip 0 askedAt, .commit 0, .read 1, .refresh 0] ++
    submitAll 0 "t0" (askedAt + 1) ++
      List.replicate 2 (.watch (.advance 2 { stats := .ok none, taskUuid := "t2" }))

theorem optimize_exclusive_in_turn :
    optimizers.Always (Exclusive readyIndex embIdx) (start readyIndex twoCalls) inTurn :=
  optimize_exclusive begins_twoCalls (by unfold Machine.Guarded; decide +kernel)

/-- Both read READY before either has moved the row. -/
private def overlap : List Action :=
  [.read 0, .read 1, .flip 0 askedAt, .commit 0, .refresh 0] ++
    submitAll 0 "t0" (askedAt + 1) ++
    [.flip 1 (askedAt + 2), .commit 1, .refresh 1] ++ submitAll 1 "t1" (askedAt + 3)

/-- The pass has looked its key up when the call moves the row. -/
private def overlapPass : List Action :=
  [.watch (.scan 1 askedAt),
    .watch (.advance 1 { stats := .ok (some ⟨9, some 5000⟩), taskUuid := "" }),
    .watch (.advance 1 { stats := .ok none, taskUuid := "" }),
    .read 0, .flip 0 askedAt, .commit 0, .refresh 0] ++
    submitAll 0 "t0" (askedAt + 1) ++
    List.replicate 2 (.watch (.advance 1 { stats := .ok none, taskUuid := "t1" }))

/-- The run ends with all calls returned, and the index has been moved twice and has tasks under
these keys. -/
private def Twice (keys : List String) (t : World) : Prop :=
  (t.calls.all fun call => match call with | .returned _ => true | _ => false) = true ∧
    t.movers embIdx = [0, 1] ∧
    (t.tasksOf embIdx).map Task.idempotencyKey = keys.map some

private instance (keys : List String) : DecidablePred (Twice keys) := fun _ =>
  inferInstanceAs (Decidable (_ ∧ _ ∧ _))

private theorem not_exclusive_of_twice {s : World} {actions : List Action} {keys : List String}
    (ends : ∃ t, optimizers.run s actions = some t ∧ Twice keys t) :
    ¬ optimizers.Always (Exclusive readyIndex embIdx) s actions := by
  obtain ⟨t, ran, -, movers, -⟩ := ends
  refine Machine.not_always_of_run ran fun exclusive => ?_
  have few := exclusive.movers
  rw [movers] at few
  exact absurd few (by decide)

/-- **Optimize is not exclusive.**  Two calls that both read READY both move the row, and each
commits its task under the time of its own flip; so do a pass and a call. -/
theorem overlapping_calls :
    (Begins readyIndex embIdx twoCalls ∧
      (∃ t, optimizers.run (start readyIndex twoCalls) overlap = some t ∧
        Twice ["acme:optimize:d1/emb_idx:7:2026-01-01T00:00:00",
          "acme:optimize:d1/emb_idx:7:2026-01-01T00:00:00.000002"] t) ∧
      ¬ optimizers.Always (Exclusive readyIndex embIdx) (start readyIndex twoCalls) overlap) ∧
    (∃ t, optimizers.run (start readyIndex [⟨caller "karin", "d1", "emb_idx"⟩]) overlapPass =
        some t ∧
      Twice ["acme:optimize:d1/emb_idx:7:2026-01-01T00:00:00",
        "watcher:7:INDEX_OPTIMIZE:v9:unindexed_rows"] t) ∧
      ¬ optimizers.Always (Exclusive readyIndex embIdx)
        (start readyIndex [⟨caller "karin", "d1", "emb_idx"⟩]) overlapPass := by
  have calls : ∃ t, optimizers.run (start readyIndex twoCalls) overlap = some t ∧
      Twice ["acme:optimize:d1/emb_idx:7:2026-01-01T00:00:00",
        "acme:optimize:d1/emb_idx:7:2026-01-01T00:00:00.000002"] t := ⟨_, rfl, by decide +kernel⟩
  have pass : ∃ t, optimizers.run (start readyIndex [⟨caller "karin", "d1", "emb_idx"⟩])
      overlapPass = some t ∧ Twice ["acme:optimize:d1/emb_idx:7:2026-01-01T00:00:00",
        "watcher:7:INDEX_OPTIMIZE:v9:unindexed_rows"] t := ⟨_, rfl, by decide +kernel⟩
  exact ⟨⟨begins_twoCalls, calls, not_exclusive_of_twice calls⟩, pass, not_exclusive_of_twice pass⟩

end Examples

end Lcp.Optimizers
