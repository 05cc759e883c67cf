/-
# Sessions.PlannerAlone -- a pass that nobody interleaves with is `plan_once`

The sequential `plan_once` folds over policies on one database; a session takes the
same pass statement by statement.  `planOnce_alone` says that the two agree: with no
other session at work the statements of one session return the tick of the fold and
commit its rows.

`Tracks` relates the fold's tick to the session in between.  The fold has written
`last_run_at` where the session has only assigned it.
-/
import Lcp.Core.Python
import Lcp.Sessions.Planners

namespace Lcp.Planners

open Theory Emission LifecyclePlannerService

set_option autoImplicit false

/-! ## Statements of one session -/

/-- Session 0 gets from one world to another by itself. -/
def Reaches (s t : World) : Prop :=
  ∃ draws : List String, planners.run s (draws.map (Action.advance 0)) = some t

namespace Reaches

theorem refl (s : World) : Reaches s s := ⟨[], rfl⟩

theorem cons {s m t : World} {taskUuid : String} (first : step s (.advance 0 taskUuid) = some m)
    (rest : Reaches m t) : Reaches s t := by
  obtain ⟨draws, ran⟩ := rest
  refine ⟨taskUuid :: draws, ?_⟩
  have stepped : planners.step s (.advance 0 taskUuid) = some m := first
  rw [List.map_cons, Machine.run_cons, stepped]
  exact ran

theorem trans {s m t : World} (first : Reaches s m) (second : Reaches m t) : Reaches s t := by
  obtain ⟨draws, ran⟩ := first
  induction draws generalizing s with
  | nil =>
      obtain rfl : s = m := Option.some.inj ran
      exact second
  | cons taskUuid draws ih =>
      rw [List.map_cons, Machine.run_cons, Option.bind_eq_some_iff] at ran
      obtain ⟨next, stepped, later⟩ := ran
      exact cons stepped (ih later)

end Reaches

/-- A statement of a session whose copies are loaded. -/
theorem step_advance {s : World} {p : Planner} {job : Job} {rest : List Job} (taskUuid : String)
    (here : s.session 0 = .planning p) (loaded : p.expired = false)
    (agenda : p.agenda = job :: rest) :
    step s (.advance 0 taskUuid) = perform s 0 p rest taskUuid job := by
  simp only [step, here, agenda, loaded, Bool.false_and, Bool.false_eq_true, if_false]

/-- An INSERT reads the task table alone. -/
theorem insertTask_congr {row : Task} {db other after : Database}
    (same : other.task = db.task) (inserted : TaskService.insertTask row db = some after) :
    TaskService.insertTask row other = some { other with task := after.task } := by
  unfold TaskService.insertTask at inserted ⊢
  rw [same]
  split at inserted
  · cases inserted
  · rename_i fresh
    rw [if_neg fresh]
    obtain ⟨table, added, rfl⟩ := Option.map_eq_some_iff.1 inserted
    rw [added]
    rfl

/-- An INSERT that nothing refuses. -/
theorem perform_insert {s : World} {p : Planner} {due : Due} {rest : List Job} {taskUuid : String}
    {rows : Database} (free : s.blocked 0 (p.row due taskUuid) = false)
    (inserted : TaskService.insertTask (p.row due taskUuid) s.db = some rows) :
    perform s 0 p rest taskUuid (.insert due) =
      some ((s.wrote 0 taskUuid rows).goOn 0 (p.emit taskUuid rest)) := by
  simp only [perform, free, inserted, Bool.false_eq_true, if_false]

theorem writeRuns_append (p : Planner) (rest : List Job) (policyId : Nat)
    (policies : Table LifecyclePolicy LifecyclePolicy.id) :
    { p with agenda := rest, recorded := p.recorded ++ [policyId] }.writeRuns policies =
      (p.writeRuns policies).update policyId (LifecyclePolicy.recordRun p.now)
        (LifecyclePolicy.id_recordRun p.now) := by
  unfold Planner.writeRuns
  rw [List.foldl_append]
  rfl

/-! ## The session and the fold -/

/-- The session is where the fold is: `base` is what both started on. -/
structure Tracks (base : Database) (now : DateTime) (scanned : Nat) (tick : Tick) (p : Planner)
    (s : World) : Prop where
  here : s.session 0 = .planning p
  now : p.now = now
  scanned : p.scanned = scanned
  loaded : p.expired = false
  emitted : p.emitted = tick.emitted
  skipped : p.skipped = tick.skipped
  rows : s.db = { base with task := tick.db.task }
  fold : tick.db =
    { base with task := tick.db.task, lifecyclePolicy := p.writeRuns base.lifecyclePolicy }
  alone : ∀ taskUuid, s.owner.openTo 0 taskUuid = true
  owned : ∀ taskUuid, s.owner.Held 0 taskUuid → taskUuid ∈ p.emitted
  unwritten : p.emitted = [] → tick.db.task = base.task
  returned : s.returned = []

namespace Tracks

variable {base : Database} {now : DateTime} {scanned : Nat} {tick after : Tick} {p q : Planner}
  {s : World} {draw : Nat → String}

/-- A statement that writes no row. -/
theorem goOn (tracks : Tracks base now scanned tick p s) (sameNow : q.now = p.now)
    (sameScanned : q.scanned = p.scanned) (loaded : q.expired = p.expired)
    (emitted : q.emitted = p.emitted) (skipped : q.skipped = p.skipped)
    (recorded : q.recorded = p.recorded) : Tracks base now scanned tick q (s.goOn 0 q) where
  here := World.session_goOn ..
  now := sameNow.trans tracks.now
  scanned := sameScanned.trans tracks.scanned
  loaded := loaded.trans tracks.loaded
  emitted := emitted.trans tracks.emitted
  skipped := skipped.trans tracks.skipped
  rows := tracks.rows
  fold := by
    have runs : q.writeRuns base.lifecyclePolicy = p.writeRuns base.lifecyclePolicy := by
      unfold Planner.writeRuns
      rw [recorded, sameNow]
    rw [runs]
    exact tracks.fold
  alone := tracks.alone
  owned := emitted ▸ tracks.owned
  unwritten := emitted ▸ tracks.unwritten
  returned := tracks.returned

/-- A session without others sees every row. -/
theorem sees_eq (tracks : Tracks base now scanned tick p s) (key : String) :
    s.sees 0 key = taken key tick.db := by
  simp only [World.sees, taken, tracks.rows, tracks.alone, and_true]

theorem not_blocked (tracks : Tracks base now scanned tick p s) (row : Task) :
    s.blocked 0 row = false := by
  simp [World.blocked, tracks.alone]

/-- The INSERT of a due whose key is free. -/
theorem inserted (tracks : Tracks base now scanned tick p s) {due : Due} {rest : List Job}
    {taskUuid : String}
    {rows : Database}
    (added : TaskService.insertTask (p.row due taskUuid) tick.db = some rows) :
    Tracks base now scanned
      { tick with db := rows, drawn := tick.drawn + 1, emitted := tick.emitted ++ [taskUuid] }
      (p.emit taskUuid rest)
      ((s.wrote 0 taskUuid { s.db with task := rows.task }).goOn 0 (p.emit taskUuid rest)) where
  here := World.session_goOn ..
  now := tracks.now
  scanned := tracks.scanned
  loaded := tracks.loaded
  emitted := by
    show p.emitted ++ [taskUuid] = tick.emitted ++ [taskUuid]
    rw [tracks.emitted]
  skipped := tracks.skipped
  rows := by
    show { s.db with task := rows.task } = { base with task := rows.task }
    rw [tracks.rows]
  fold := by
    obtain ⟨table, -, rfl, -⟩ := TaskService.insertTask_eq_some added
    show { tick.db with task := table } =
      { base with task := table, lifecyclePolicy := p.writeRuns base.lifecyclePolicy }
    rw [tracks.fold]
  alone := fun other => RowLocks.openTo_acquire (tracks.alone other)
  owned := fun other held => by
    show other ∈ p.emitted ++ [taskUuid]
    by_cases same : other = taskUuid
    · exact List.mem_append_right _ (List.mem_singleton.2 same)
    · have differ : other ∉ [taskUuid] := by simpa using same
      have before : s.owner.Held 0 other := (if_neg differ).symm.trans held
      exact List.mem_append_left _ (tracks.owned other before)
  unwritten := fun empty => by
    have listed : p.emitted ++ [taskUuid] = [] := empty
    simp at listed
  returned := tracks.returned

/-- One due: a lookup, and an INSERT when the key is free. -/
theorem emit (tracks : Tracks base now scanned tick p s) {due : Due} {rest : List Job}
    (agenda : p.agenda = .lookup due :: rest) (ran : due.emit draw now tick = .ok after) :
    ∃ q t, Reaches s t ∧ Tracks base now scanned after q t ∧ q.agenda = rest := by
  obtain rfl := tracks.now
  have looked := step_advance "" tracks.here tracks.loaded agenda
  rw [perform, tracks.sees_eq] at looked
  unfold Due.emit tryEmit at ran
  split at ran
  · rename_i held
    cases ran
    rw [if_pos held] at looked
    refine ⟨p.skip rest, _, .cons looked (.refl _), ?_, rfl⟩
    exact { tracks.goOn (q := { p with agenda := rest }) rfl rfl rfl rfl rfl rfl with
      here := World.session_goOn ..
      skipped := congrArg (· + 1) tracks.skipped }
  · rename_i free
    split at ran
    · rename_i rows inserted
      cases ran
      rw [if_neg free] at looked
      have between := tracks.goOn (q := { p with agenda := .insert due :: rest }) rfl rfl rfl rfl
        rfl rfl
      have stepped := step_advance (draw tick.drawn) between.here between.loaded rfl
      have same : s.db.task = tick.db.task := by rw [tracks.rows]
      have here : TaskService.insertTask (p.row due (draw tick.drawn)) s.db =
          some { s.db with task := rows.task } := insertTask_congr same inserted
      have performed := stepped.trans (perform_insert (between.not_blocked _) here)
      exact ⟨_, _, .cons looked (.cons performed (.refl _)), between.inserted inserted, rfl⟩
    · cases ran

theorem emitAll {dues : List Due} (tracks : Tracks base now scanned tick p s) {rest : List Job}
    (agenda : p.agenda = dues.map .lookup ++ rest)
    (ran : Due.emitAll draw now dues tick = .ok after) :
    ∃ q t, Reaches s t ∧ Tracks base now scanned after q t ∧ q.agenda = rest := by
  induction dues generalizing tick p s with
  | nil =>
      obtain rfl := Except.ok.inj ran
      exact ⟨p, s, .refl s, tracks, agenda⟩
  | cons due dues ih =>
      obtain ⟨next, first, later⟩ := foldlM_cons_ok ran
      obtain ⟨q, m, reached, tracking, left⟩ := tracks.emit agenda first
      obtain ⟨q', t, reaches, tracks', done⟩ := ih tracking left later
      exact ⟨q', t, reached.trans reaches, tracks', done⟩

/-- A SELECT that adds dues to the agenda, and the dues. -/
theorem planned (tracks : Tracks base now scanned tick p s) {job : Job} {dues : List Due}
    {rest more : List Job} (agenda : p.agenda = job :: rest)
    (selects : perform s 0 p rest "" job = some (s.goOn 0 (p.plan dues more)))
    (ran : Due.emitAll draw now dues tick = .ok after) :
    ∃ q t, Reaches s t ∧ Tracks base now scanned after q t ∧ q.agenda = more := by
  have stepped := (step_advance "" tracks.here tracks.loaded agenda).trans selects
  have between := tracks.goOn (q := p.plan dues more) rfl rfl rfl rfl rfl rfl
  obtain ⟨q, t, reached, tracking, left⟩ := between.emitAll rfl ran
  exact ⟨q, t, .cons stepped reached, tracking, left⟩

/-- `policy.last_run_at = now`. -/
theorem recorded (tracks : Tracks base now scanned tick p s) {policy : LifecyclePolicy}
    {rest : List Job} (agenda : p.agenda = .record policy.id :: rest) :
    ∃ q t, Reaches s t ∧ Tracks base now scanned (recordRun now policy tick) q t ∧
      q.agenda = rest := by
  have stepped := step_advance "" tracks.here tracks.loaded agenda
  rw [perform] at stepped
  refine ⟨{ p with agenda := rest, recorded := p.recorded ++ [policy.id] }, _,
    .cons stepped (.refl _), ?_, rfl⟩
  exact { tracks.goOn (q := { p with agenda := rest }) rfl rfl rfl rfl rfl rfl with
    here := World.session_goOn ..
    fold := by
      have written : tick.db.lifecyclePolicy = p.writeRuns base.lifecyclePolicy := by
        rw [tracks.fold]
      rw [writeRuns_append, ← written, tracks.now]
      exact congrArg (fun db : Database => { db with
        lifecyclePolicy := tick.db.lifecyclePolicy.update policy.id
          (LifecyclePolicy.recordRun now) (LifecyclePolicy.id_recordRun now) }) tracks.fold }

/-- One iteration of the loop over the policies. -/
theorem planned_policy (tracks : Tracks base now scanned tick p s) {policy : LifecyclePolicy}
    {rest : List Job} (agenda : p.agenda = .policy policy :: rest)
    (ran : planPolicy draw now tick policy = .ok after) :
    ∃ q t, Reaches s t ∧ Tracks base now scanned after q t ∧ q.agenda = rest := by
  have same : s.db.dataset = tick.db.dataset := by rw [tracks.rows, tracks.fold]
  unfold planPolicy at ran
  cases found : tick.db.dataset.get policy.datasetUuid with
  | none =>
      rw [found] at ran
      obtain rfl := Except.ok.inj ran
      have stepped := step_advance "" tracks.here tracks.loaded agenda
      rw [perform, same, found] at stepped
      exact ⟨{ p with agenda := rest }, _, .cons stepped (.refl _),
        tracks.goOn rfl rfl rfl rfl rfl rfl, rfl⟩
  | some dataset =>
      rw [found] at ran
      have ran : planForPolicy draw now policy dataset tick = .ok after := ran
      rw [planForPolicy_eq] at ran
      obtain ⟨three, ranAll, ran⟩ := bind_eq_ok ran
      obtain rfl := Except.ok.inj ran
      rw [dues, Due.emitAll_append] at ranAll
      obtain ⟨two, ranFirst, ranRules⟩ := bind_eq_ok ranAll
      rw [Due.emitAll_append] at ranFirst
      obtain ⟨one, ranOne, ranTwo⟩ := bind_eq_ok ranFirst
      obtain ⟨q₁, s₁, reached₁, tracks₁, agenda₁⟩ := tracks.planned agenda
        (by rw [perform, same, found, tracks.now]) ranOne
      have hot : indexOptimizeDue now policy dataset s₁.db =
          indexOptimizeDue now policy dataset tick.db := by
        rw [tracks₁.rows, tracks.fold]
        rfl
      obtain ⟨q₂, s₂, reached₂, tracks₂, agenda₂⟩ := tracks₁.planned agenda₁
        (by rw [perform, tracks₁.now, hot]) ranTwo
      have rules : enabledRules dataset s₂.db = enabledRules dataset tick.db := by
        rw [tracks₂.rows, tracks.fold]
        rfl
      obtain ⟨q₃, s₃, reached₃, tracks₃, agenda₃⟩ := tracks₂.planned agenda₂
        (by rw [perform, tracks₂.now, rules]) ranRules
      obtain ⟨q₄, s₄, reached₄, tracks₄, agenda₄⟩ := tracks₃.recorded agenda₃
      exact ⟨q₄, s₄, (reached₁.trans reached₂).trans (reached₃.trans reached₄), tracks₄, agenda₄⟩

theorem planned_policies {policies : List LifecyclePolicy}
    (tracks : Tracks base now scanned tick p s) (agenda : p.agenda = policies.map .policy)
    (ran : policies.foldlM (planPolicy draw now) tick = .ok after) :
    ∃ q t, Reaches s t ∧ Tracks base now scanned after q t ∧ q.agenda = [] := by
  induction policies generalizing tick p s with
  | nil =>
      obtain rfl := Except.ok.inj ran
      exact ⟨p, s, .refl s, tracks, agenda⟩
  | cons policy policies ih =>
      obtain ⟨next, first, later⟩ := foldlM_cons_ok ran
      obtain ⟨q, m, reached, tracking, left⟩ := tracks.planned_policy agenda first
      obtain ⟨q', t, reaches, tracks', done⟩ := ih tracking left later
      exact ⟨q', t, reached.trans reaches, tracks', done⟩

/-- The end of the pass commits what the fold has written, unless that is nothing. -/
theorem finish_db (tracks : Tracks base now scanned tick p s) :
    (s.finish 0 p).db = if tick.emitted ≠ [] ∨ tick.skipped > 0 then tick.db else base := by
  unfold World.finish
  rw [tracks.emitted, tracks.skipped]
  split
  · rw [tracks.fold]
    show { s.db with lifecyclePolicy := p.writeRuns s.db.lifecyclePolicy } = _
    rw [tracks.rows]
  · rename_i nothing
    have noEmission : p.emitted = [] := by
      rw [tracks.emitted]
      by_contra emitted
      exact nothing (.inl emitted)
    have unowned : ∀ taskUuid, ¬ s.owner taskUuid = some 0 := by
      intro taskUuid held
      have listed := tracks.owned taskUuid held
      rw [noEmission] at listed
      cases listed
    show { s.db with task := s.db.task.delete fun task => s.owner task.taskUuid = some 0 } = base
    have kept : (s.db.task.delete fun task => s.owner task.taskUuid = some 0) = s.db.task := by
      refine Table.ext (List.filter_eq_self.2 fun task _ => ?_)
      simp [unowned task.taskUuid]
    rw [kept, tracks.rows, tracks.unwritten noEmission]

end Tracks

/-- **A pass alone.**  The statements of one session with no other at work return the tick of
`plan_once` and leave its rows. -/
theorem planOnce_alone {draw : Nat → String} {now : DateTime} {principal : Option TenantPrincipal}
    {db after : Database} {tick : PlannerTick}
    (ran : planOnce draw now principal db = .ok (tick, after)) :
    ∃ s t, step (atRest db) (.scan 0 now) = some s ∧ Reaches s t ∧ t.session 0 = .idle ∧
      t.db = after ∧ t.returned.map Return.tick = [tick] := by
  unfold planOnce at ran
  split at ran
  · cases ran
  · obtain ⟨last, looped, ran⟩ := bind_eq_ok ran
    obtain ⟨rfl, rfl⟩ := Prod.mk.inj (Except.ok.inj ran)
    have tracks : Tracks db now (fetchEnabledPolicies db).length { db }
        (.begin_ now (fetchEnabledPolicies db))
        ((atRest db).goOn 0 (.begin_ now (fetchEnabledPolicies db))) :=
      { here := World.session_goOn .., now := rfl, scanned := rfl, loaded := rfl, emitted := rfl,
        skipped := rfl, rows := rfl, fold := rfl, alone := fun _ => rfl, owned := nofun,
        unwritten := fun _ => rfl, returned := rfl }
    obtain ⟨p, t, reached, tracking, agenda⟩ := tracks.planned_policies rfl looped
    have finished : step t (.advance 0 "") = some (t.finish 0 p) := by
      simp only [step, tracking.here, agenda]
    refine ⟨_, t.finish 0 p, rfl, reached.trans (.cons finished (.refl _)), ?_,
      tracking.finish_db, ?_⟩
    · rw [World.session_finish, Function.update_self]
    · show (t.returned ++ [_]).map Return.tick = _
      rw [tracking.returned, ← tracking.emitted, ← tracking.skipped, ← tracking.scanned]
      rfl

end Lcp.Planners
