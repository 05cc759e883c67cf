/-
# Invariants.KeyRanges -- when a taken key means what the control plane thinks it means

`_try_emit_task` takes a held key for the work of another planner, and the watcher
for that of an earlier pass.  Nothing but the text of the key says so, and anybody
who can make `submit_task` store that text, or give an index the right name, can
hold it first: the emission is then skipped and no task is ever planned.

`unsuppressed` is what is left: in the runs in which no text from outside takes a key of
one of the three system formats, a skipped slot was emitted by an earlier pass of
its own producer.  The watcher's keys need no condition against the planner's
(`Slot.trigger_ne_planner`) nor against the automatic builds.
-/
import Lcp.Invariants.Producers

namespace Lcp.Producers

open Theory LifecyclePlannerService IndexWatcherService

set_option autoImplicit false

/-! ## Attribution -/

/-- The pass wanted the slot and inserted a task under its key. -/
def Pass.Created (pass : Pass) (db : Database) (slot : Slot) : Prop :=
  slot ∈ passSlots pass.now pass.db ∧ ∃ task ∈ db.task.rows,
    task.idempotencyKey = some slot.key ∧ task.taskUuid ∈ pass.tick.emittedTasks

instance (pass : Pass) (db : Database) : DecidablePred (pass.Created db) := fun _ =>
  inferInstanceAs (Decidable (_ ∧ ∃ task ∈ db.task.rows, _))

/-- The trigger fired in the pass, and the pass reported its key. -/
def WatchRun.Created (run : WatchRun) (slot : Slot) : Prop :=
  slot ∈ run.fired ∧ slot.key ∈ run.report.emittedKeys

instance (run : WatchRun) : DecidablePred run.Created := fun _ =>
  inferInstanceAs (Decidable (_ ∧ _))

/-- An automatic trigger of the planner. -/
def Slot.isAuto : Slot → Bool
  | .autoOptimize .. => true
  | _ => false

/-- A pass so far has emitted the slot: this very one, or one automatic trigger for another
that is spelled alike. -/
def EmittedBefore (s : Ledger) (slot : Slot) : Prop :=
  if slot.isTrigger then ∃ run ∈ s.watches, run.Created slot
  else if slot.isAuto then ∃ pass ∈ s.passes, ∃ origin ∈ passSlots pass.now pass.db,
    origin.isAuto = true ∧ origin.key = slot.key ∧ pass.Created s.db origin
  else ∃ pass ∈ s.passes, pass.Created s.db slot

instance (s : Ledger) : DecidablePred (EmittedBefore s) := fun slot => by
  unfold EmittedBefore
  infer_instance

/-- A slot that the pass just run wanted and did not emit itself was emitted before. -/
def Unsuppressed {Disk : Type} (s : Ledger) (a : Action Disk) (t : Ledger) : Prop :=
  match a with
  | .planned _ _ =>
      ∀ pass ∈ t.passes.drop s.passes.length, ∀ slot ∈ passSlots pass.now pass.db,
        pass.Created t.db slot ∨ EmittedBefore s slot
  | .watched .. =>
      ∀ run ∈ t.watches.drop s.watches.length, ∀ slot ∈ run.fired,
        run.Created slot ∨ EmittedBefore s slot
  | _ => True

instance {Disk : Type} (s : Ledger) (a : Action Disk) (t : Ledger) :
    Decidable (Unsuppressed s a t) := by
  unfold Unsuppressed
  split <;> infer_instance

/-- No per-policy key reads like the key of this automatic trigger. -/
def Slot.Plain (slot : Slot) : Prop :=
  slot.isAuto = true → ∀ other : Slot, other.isPolicy = true → other.key ≠ slot.key

/-- Without automatic triggers there is nothing to confuse. -/
theorem Slot.plain_of_manual {slots : List Slot} (manual : ∀ slot ∈ slots, slot.isAuto = false) :
    ∀ slot ∈ slots, slot.Plain := by
  intro slot member auto
  rw [manual slot member] at auto
  cases auto

/-- The texts from outside that the action stores, tenant ids, client keys and index names, do
not spell a key of the control plane that is still free. -/
def Unreserved {Disk : Type} (s : Ledger) : Action Disk → Prop
  | .submitted principal args _ _ => ∀ key,
      TaskService.scopedKey principal args.idempotencyKey = some key →
        Emission.taken key s.db = false → ∀ slot : Slot, slot.key ≠ key
  | .autoBuilt dataset indexName indexId _ _ _ =>
      Emission.taken (autoBuildKey dataset.datasetUuid indexName indexId) s.db = false →
        ∀ slot : Slot, slot.isTrigger = false →
          slot.key ≠ autoBuildKey dataset.datasetUuid indexName indexId
  | .planned _ now => ∀ slot ∈ passSlots now s.db, slot.Plain
  | _ => True

/-! ## What a watch pass does -/

section Watching

variable {Disk : Type} {lance : Pylance Disk} {draw : Nat → String} {now : DateTime} {disk : Disk}

/-- The effect of watching candidates among which these triggers fire. -/
structure WatchEffect (fired : List Slot) (watch after : Watch) : Prop where
  rows : ∃ fresh, after.tick.db.task.rows = watch.tick.db.task.rows ++ fresh ∧
    ∀ task ∈ fresh, ∃ slot ∈ fired, task.idempotencyKey = some slot.key ∧
      slot.key ∈ after.report.emittedKeys
  keys : ∀ key ∈ watch.report.emittedKeys, key ∈ after.report.emittedKeys
  fired : ∀ slot ∈ fired, slot.isTrigger = true ∧
    (Emission.taken slot.key watch.tick.db = true ∨ slot.key ∈ after.report.emittedKeys)

theorem WatchEffect.trans {one two : List Slot} {watch next after : Watch}
    (first : WatchEffect one watch next) (second : WatchEffect two next after) :
    WatchEffect (one ++ two) watch after := by
  obtain ⟨freshOne, rowsOne, slotOne⟩ := first.rows
  obtain ⟨freshTwo, rowsTwo, slotTwo⟩ := second.rows
  refine ⟨⟨freshOne ++ freshTwo, by rw [rowsTwo, rowsOne, List.append_assoc], ?_⟩,
    fun key listed => second.keys key (first.keys key listed), fun slot member => ?_⟩
  · intro task member
    rcases List.mem_append.1 member with inOne | inTwo
    · obtain ⟨slot, listed, keyed, emitted⟩ := slotOne task inOne
      exact ⟨slot, List.mem_append_left _ listed, keyed, second.keys _ emitted⟩
    · obtain ⟨slot, listed, keyed, emitted⟩ := slotTwo task inTwo
      exact ⟨slot, List.mem_append_right _ listed, keyed, emitted⟩
  · rcases List.mem_append.1 member with inOne | inTwo
    · obtain ⟨isTrigger, taken | emitted⟩ := first.fired slot inOne
      · exact ⟨isTrigger, .inl taken⟩
      · exact ⟨isTrigger, .inr (second.keys _ emitted)⟩
    · obtain ⟨isTrigger, taken | emitted⟩ := second.fired slot inTwo
      · refine ⟨isTrigger, ?_⟩
        obtain ⟨task, inRows, keyed⟩ := Emission.taken_iff.1 taken
        rw [rowsOne] at inRows
        rcases List.mem_append.1 inRows with old | new
        · exact .inl (Emission.taken_iff.2 ⟨task, old, keyed⟩)
        · obtain ⟨other, -, same, emitted⟩ := slotOne task new
          have keys : other.key = slot.key := Option.some.inj (same.symm.trans keyed)
          exact .inr (second.keys _ (keys ▸ emitted))
      · exact ⟨isTrigger, .inr emitted⟩

/-- One candidate. -/
theorem watchEffect_candidate {watch after : Watch} {candidate : Candidate}
    (ran : watchCandidate lance draw now disk watch candidate = .ok after) :
    WatchEffect ((signal lance now disk candidate.dataset candidate.policy
        (candidate.row watch.tick.db)).toList.map
      fun (reason, version) => Slot.trigger candidate.index.id version reason) watch after := by
  have keys := watchCandidate_emittedKeys ran
  unfold dueKeys at keys
  obtain ⟨idle, same⟩ | ⟨reason, version, fired, isDue, -, emitted⟩ := watchCandidate_cases ran
  · refine ⟨⟨[], by simp [same], by simp⟩, fun key listed => ?_, fun slot member => ?_⟩
    · rw [keys]
      exact List.mem_append_left _ listed
    · obtain ⟨⟨reason, version⟩, fired, rfl⟩ := List.mem_map.1 member
      have is := Option.mem_toList.1 fired
      refine ⟨rfl, .inl ?_⟩
      unfold due at idle
      rw [is] at idle
      show Emission.taken (triggerKey candidate.index.id version reason) watch.tick.db = true
      simpa using idle
  · rw [isDue, fired] at keys
    simp only [if_true, Option.toList_some, List.map_cons, List.map_nil] at keys
    have listed : (Slot.trigger candidate.index.id version reason).key ∈
        after.report.emittedKeys := by
      rw [keys]
      exact List.mem_append_right _ (List.mem_singleton_self _)
    obtain ⟨task, -, -, keyed, rows⟩ := emitted.appended
    rw [fired]
    refine ⟨⟨[task], rows, fun other member => ?_⟩, fun key old => ?_, fun slot member => ?_⟩
    · obtain rfl := List.mem_singleton.1 member
      exact ⟨_, List.mem_cons_self, keyed, listed⟩
    · rw [keys]
      exact List.mem_append_left _ old
    · obtain rfl := List.mem_singleton.1 member
      exact ⟨rfl, .inr listed⟩

theorem watchEffect_candidates {candidates : List Candidate} {watch after : Watch}
    (ran : candidates.foldlM (watchCandidate lance draw now disk) watch = .ok after) :
    WatchEffect (firedTriggers lance draw now disk watch candidates) watch after := by
  induction candidates generalizing watch with
  | nil =>
      cases ran
      exact ⟨⟨[], by simp, by simp⟩, fun _ listed => listed, by simp [firedTriggers]⟩
  | cons candidate rest ih =>
      obtain ⟨next, first, later⟩ := Emission.foldlM_cons_ok ran
      have head := watchEffect_candidate first
      have tail := ih later
      rw [firedTriggers, first]
      exact head.trans tail

end Watching

/-! ## What an action keeps -/

/-- Rows keep their identity, and no pass is forgotten. -/
structure Extends (s t : Ledger) : Prop where
  rows : ∀ task ∈ s.db.task.rows, ∃ later ∈ t.db.task.rows, identity later = identity task
  passes : ∀ pass ∈ s.passes, pass ∈ t.passes
  watches : ∀ run ∈ s.watches, run ∈ t.watches

theorem Pass.Created.mono {pass : Pass} {s t : Ledger} {slot : Slot} (extends_ : Extends s t)
    (created : pass.Created s.db slot) : pass.Created t.db slot := by
  obtain ⟨wanted, task, member, keyed, emitted⟩ := created
  obtain ⟨later, member', same⟩ := extends_.rows task member
  simp only [identity, Prod.mk.injEq] at same
  exact ⟨wanted, later, member', same.2.1.trans keyed, same.1 ▸ emitted⟩

theorem EmittedBefore.mono {s t : Ledger} {slot : Slot} (extends_ : Extends s t)
    (before : EmittedBefore s slot) : EmittedBefore t slot := by
  unfold EmittedBefore at before ⊢
  split
  · rename_i isTrigger
    rw [if_pos isTrigger] at before
    obtain ⟨run, member, created⟩ := before
    exact ⟨run, extends_.watches run member, created⟩
  · rename_i notTrigger
    rw [if_neg notTrigger] at before
    split
    · rename_i isAuto
      rw [if_pos isAuto] at before
      obtain ⟨pass, member, origin, wanted, auto, alike, created⟩ := before
      exact ⟨pass, extends_.passes pass member, origin, wanted, auto, alike,
        created.mono extends_⟩
    · rename_i notAuto
      rw [if_neg notAuto] at before
      obtain ⟨pass, member, created⟩ := before
      exact ⟨pass, extends_.passes pass member, created.mono extends_⟩

theorem extends_of_append {s t : Ledger} {fresh : List Task}
    (rows : t.db.task.rows = s.db.task.rows ++ fresh)
    (passes : ∃ more, t.passes = s.passes ++ more)
    (watches : ∃ more, t.watches = s.watches ++ more) : Extends s t := by
  obtain ⟨morePasses, passes⟩ := passes
  obtain ⟨moreWatches, watches⟩ := watches
  refine ⟨fun task member => ⟨task, ?_, rfl⟩, fun pass member => ?_, fun run member => ?_⟩
  · rw [rows]
    exact List.mem_append_left _ member
  · rw [passes]
    exact List.mem_append_left _ member
  · rw [watches]
    exact List.mem_append_left _ member

/-- Every taken slot was emitted by a pass of its producer. -/
def Attributed (s : Ledger) : Prop :=
  ∀ slot : Slot, slot.Plain → Emission.taken slot.key s.db = true → EmittedBefore s slot

/-- Rows appended under keys that are no slot's. -/
theorem attributed_of_append {s t : Ledger} {fresh : List Task} (inv : Attributed s)
    (rows : t.db.task.rows = s.db.task.rows ++ fresh)
    (passes : ∃ more, t.passes = s.passes ++ more)
    (watches : ∃ more, t.watches = s.watches ++ more)
    (attributed : ∀ task ∈ fresh, ∀ slot : Slot, slot.Plain →
      task.idempotencyKey = some slot.key → EmittedBefore t slot) : Attributed t := by
  intro slot plain taken
  obtain ⟨task, member, keyed⟩ := Emission.taken_iff.1 taken
  rw [rows] at member
  rcases List.mem_append.1 member with old | new
  · have held := inv slot plain (Emission.taken_iff.2 ⟨task, old, keyed⟩)
    exact held.mono (extends_of_append rows passes watches)
  · exact attributed task new slot plain keyed

theorem attributed_insert {s : Ledger} {task : Task} {after : Database} (inv : Attributed s)
    (inserted : TaskService.insertTask task s.db = some after)
    (foreign : ∀ slot : Slot, task.idempotencyKey ≠ some slot.key) :
    Attributed { s with db := after } := by
  obtain ⟨table, added, rfl, -⟩ := TaskService.insertTask_eq_some inserted
  have rows : table.rows = s.db.task.rows ++ [task] := (Table.insert?_eq_some added).1
  refine attributed_of_append inv rows ⟨[], by simp⟩ ⟨[], by simp⟩
    fun other member slot _ keyed => ?_
  obtain rfl := List.mem_singleton.1 member
  exact absurd keyed (foreign slot)

theorem attributed_elsewhere {s : Ledger} {others : Database} (inv : Attributed s)
    (same : others.task.rows.map identity = s.db.task.rows.map identity) :
    Attributed { s with db := others } := by
  intro slot plain taken
  obtain ⟨task, member, keyed⟩ := Emission.taken_iff.1 taken
  have listed : identity task ∈ s.db.task.rows.map identity :=
    same ▸ List.mem_map_of_mem member
  obtain ⟨old, inOld, alike⟩ := List.mem_map.1 listed
  have keys : old.idempotencyKey = task.idempotencyKey := by
    simp only [identity, Prod.mk.injEq] at alike
    exact alike.2.1
  have extends_ : Extends s { s with db := others } := by
    refine ⟨fun row held => ?_, fun _ held => held, fun _ held => held⟩
    have listed : identity row ∈ others.task.rows.map identity :=
      same ▸ List.mem_map_of_mem held
    exact List.mem_map.1 listed
  exact (inv slot plain (Emission.taken_iff.2 ⟨old, inOld, keys.trans keyed⟩)).mono extends_

/-! ## The planner's step -/

theorem attributed_planned {draw : Nat → String} {now : DateTime} {s : Ledger} {after : Database}
    {report : PlannerTick} (inv : Attributed s)
    (plain : ∀ slot ∈ passSlots now s.db, slot.Plain)
    (ran : planOnce draw now (some (systemPrincipal "planner")) s.db = .ok (report, after)) :
    Attributed { s with db := after, passes := s.passes ++ [⟨now, s.db, report⟩] } := by
  obtain ⟨fresh, rows, emitted, slotOf, -⟩ := planned_slots ran
  refine attributed_of_append inv rows ⟨_, rfl⟩ ⟨[], by simp⟩ ?_
  intro task member slot mine keyed
  obtain ⟨origin, wanted, made, -⟩ := slotOf task member
  have alike : origin.key = slot.key := Option.some.inj (made.key.symm.trans keyed)
  have created : (Pass.mk now s.db report).Created after origin := by
    refine ⟨wanted, task, ?_, made.key, ?_⟩
    · rw [rows]
      exact List.mem_append_right _ member
    · show task.taskUuid ∈ report.emittedTasks
      rw [emitted]
      exact List.mem_map_of_mem member
  have last : (Pass.mk now s.db report) ∈ s.passes ++ [⟨now, s.db, report⟩] :=
    List.mem_append_right _ (List.mem_singleton_self _)
  have planner := not_trigger_of_passSlots wanted
  unfold EmittedBefore
  cases slot with
  | trigger indexId latestVersion reason =>
      exact absurd alike.symm (Slot.trigger_ne_planner planner indexId latestVersion reason)
  | policy tenantId policyId taskType bucket =>
      refine ⟨_, last, ?_⟩
      cases origin with
      | trigger => cases planner
      | policy => exact Slot.policy_inj alike ▸ created
      | autoOptimize => exact absurd alike.symm (plain _ wanted rfl _ rfl)
  | autoOptimize tenantId datasetUuid indexName hour =>
      refine ⟨_, last, origin, wanted, ?_, alike, created⟩
      cases origin with
      | trigger => cases planner
      | policy => exact absurd alike (mine rfl _ rfl)
      | autoOptimize => rfl

theorem unsuppressed_planned {draw : Nat → String} {now : DateTime} {s : Ledger}
    {after : Database} {report : PlannerTick} (inv : Attributed s)
    (plain : ∀ slot ∈ passSlots now s.db, slot.Plain)
    (ran : planOnce draw now (some (systemPrincipal "planner")) s.db = .ok (report, after)) :
    ∀ slot ∈ passSlots now s.db,
      (Pass.mk now s.db report).Created after slot ∨ EmittedBefore s slot := by
  obtain ⟨fresh, rows, emitted, -, -, takenOf⟩ := planned_slots ran
  intro slot wanted
  obtain ⟨task, member, keyed⟩ := Emission.taken_iff.1 (takenOf slot wanted)
  have inAfter := member
  rw [rows] at member
  rcases List.mem_append.1 member with old | new
  · exact .inr (inv slot (plain slot wanted) (Emission.taken_iff.2 ⟨task, old, keyed⟩))
  · refine .inl ⟨wanted, task, inAfter, keyed, ?_⟩
    show task.taskUuid ∈ report.emittedTasks
    rw [emitted]
    exact List.mem_map_of_mem new

/-! ## The watcher's step -/

section Watched

variable {Disk : Type} {lance : Pylance Disk} {disk : Disk} {draw : Nat → String} {now : DateTime}

theorem watched_slots {db after : Database} {report : WatchPassReport}
    (ran : runWatchPass lance draw now (some (systemPrincipal "watcher")) db disk =
      .ok (report, after)) :
    ∃ last, report = last.report ∧ after = last.tick.db ∧
      WatchEffect (firedTriggers lance draw now disk { tick := { db } } (fetchCandidates db))
        { tick := { db } } last := by
  unfold runWatchPass at ran
  split at ran
  · cases ran
  · obtain ⟨last, looped, ran⟩ := bind_eq_ok ran
    simp only [pure, Except.pure, Except.ok.injEq, Prod.mk.injEq] at ran
    obtain ⟨rfl, rfl⟩ := ran
    exact ⟨last, rfl, rfl, watchEffect_candidates looped⟩

theorem attributed_watched {s : Ledger} {after : Database} {report : WatchPassReport}
    (inv : Attributed s)
    (ran : runWatchPass lance draw now (some (systemPrincipal "watcher")) s.db disk =
      .ok (report, after)) :
    Attributed { s with
      db := after
      watches := s.watches ++ [⟨firedTriggers lance draw now disk { tick := { db := s.db } }
        (fetchCandidates s.db), report⟩] } := by
  obtain ⟨last, rfl, rfl, effect⟩ := watched_slots ran
  obtain ⟨fresh, rows, slotOf⟩ := effect.rows
  refine attributed_of_append inv rows ⟨[], by simp⟩ ⟨_, rfl⟩ ?_
  intro task member slot _ keyed
  obtain ⟨origin, fired, stored, emitted⟩ := slotOf task member
  have alike : origin.key = slot.key := Option.some.inj (stored.symm.trans keyed)
  obtain ⟨isTrigger, -⟩ := effect.fired origin fired
  cases origin with
  | policy => cases isTrigger
  | autoOptimize => cases isTrigger
  | trigger i v r =>
      have watcher : slot.isTrigger = true := by
        refine Bool.of_not_eq_false fun planner => ?_
        exact Slot.trigger_ne_planner planner i v r alike
      cases slot with
      | policy => cases watcher
      | autoOptimize => cases watcher
      | trigger j w q =>
          obtain ⟨rfl, rfl, rfl⟩ := Slot.trigger.inj (Slot.trigger_inj alike)
          exact ⟨_, List.mem_append_right _ (List.mem_singleton_self _), fired, emitted⟩

theorem unsuppressed_watched {s : Ledger} {after : Database} {report : WatchPassReport}
    (inv : Attributed s)
    (ran : runWatchPass lance draw now (some (systemPrincipal "watcher")) s.db disk =
      .ok (report, after)) :
    ∀ slot ∈ firedTriggers lance draw now disk { tick := { db := s.db } } (fetchCandidates s.db),
      (WatchRun.mk (firedTriggers lance draw now disk { tick := { db := s.db } }
        (fetchCandidates s.db)) report).Created slot ∨ EmittedBefore s slot := by
  obtain ⟨last, rfl, rfl, effect⟩ := watched_slots ran
  intro slot fired
  obtain ⟨isTrigger, taken | emitted⟩ := effect.fired slot fired
  · refine .inr (inv slot (fun auto => ?_) taken)
    cases slot with
    | trigger => cases auto
    | policy => cases isTrigger
    | autoOptimize => cases isTrigger
  · exact .inl ⟨fired, emitted⟩

end Watched

/-! ## Runs -/

section Runs

variable {Disk : Type} {lance : Pylance Disk}

/-- An automatic build's key ends in digits. -/
theorem trigger_ne_autoBuildKey (datasetUuid indexName : String) (indexId i v : Nat)
    (r : TriggerReason) :
    (Slot.trigger i v r).key ≠ autoBuildKey datasetUuid indexName indexId := by
  let bucket : Bucket := ⟨toString indexId, DateTime.digits_toString indexId⟩
  have tail : (autoBuildKey datasetUuid indexName indexId).toList =
      ("auto_build:" ++ datasetUuid ++ "/" ++ indexName).toList ++ ':' :: bucket.val.toList := by
    simp [autoBuildKey_eq, bucket]
  exact Slot.trigger_ne_of_tail tail i v r

/-- A key from outside that is inserted is no slot's. -/
theorem Unreserved.foreign {s : Ledger} {a : Action Disk} {key : String}
    (unreserved : Unreserved s a) (keyed : a.rowKey = some key)
    (free : Emission.taken key s.db = false) (slot : Slot) : slot.key ≠ key := by
  cases a with
  | submitted => exact unreserved key keyed free slot
  | autoBuilt dataset indexName indexId =>
      obtain rfl := Option.some.inj keyed
      cases slot with
      | policy => exact unreserved free _ rfl
      | autoOptimize => exact unreserved free _ rfl
      | trigger i v r => exact trigger_ne_autoBuildKey _ _ _ i v r
  | planned => cases keyed
  | watched => cases keyed
  | elsewhere => cases keyed

/-- Where no pass ran, none skipped anything. -/
theorem unsuppressed_of_same {s t : Ledger} {a : Action Disk} (passes : t.passes = s.passes)
    (watches : t.watches = s.watches) : Unsuppressed s a t := by
  unfold Unsuppressed
  cases a with
  | planned => simp [passes]
  | watched => simp [watches]
  | submitted => trivial
  | autoBuilt => trivial
  | elsewhere => trivial

/-- An unreserved action keeps the attribution, and what it finds taken it knows the origin of. -/
theorem attributed_step {s t : Ledger} {a : Action Disk} (inv : Attributed s)
    (unreserved : Unreserved s a) (stepped : step lance s a = some t) :
    Attributed t ∧ Unsuppressed s a t := by
  cases effect_of_step stepped with
  | unchanged => exact ⟨inv, unsuppressed_of_same rfl rfl⟩
  | inserted row keyed =>
      refine ⟨attributed_insert inv row fun slot same => ?_, unsuppressed_of_same rfl rfl⟩
      exact unreserved.foreign (keyed.symm.trans same) (free_of_insertTask row same) slot rfl
  | planned ran =>
      refine ⟨attributed_planned inv unreserved ran, fun pass member => ?_⟩
      simp only [List.drop_left, List.mem_singleton] at member
      subst member
      exact unsuppressed_planned inv unreserved ran
  | watched ran =>
      refine ⟨attributed_watched inv ran, fun run member => ?_⟩
      simp only [List.drop_left, List.mem_singleton] at member
      subst member
      exact unsuppressed_watched inv ran
  | elsewhere same => exact ⟨attributed_elsewhere inv same, unsuppressed_of_same rfl rfl⟩

/-- **No emission is suppressed.**  Start from tasks none of which holds a key of the control
plane.  In a run in which no text from outside takes such a key, whatever a pass skips was
emitted by an earlier pass of the same producer. -/
theorem unsuppressed {db : Database} {actions : List (Action Disk)}
    (free : ∀ slot : Slot, Emission.taken slot.key db = false)
    (unreserved : (producers lance).Guarded Unreserved (opened db) actions) :
    (producers lance).Along Unsuppressed (opened db) actions := by
  have start : Attributed (opened db) := fun slot _ taken => by
    rw [show Emission.taken slot.key (opened db).db = false from free slot] at taken
    cases taken
  exact Machine.along_of_inv (fun _ _ _ inv ok stepped => attributed_step inv ok stepped)
    start unreserved

end Runs

/-! ## Texts -/

/-- A text is no key of the control plane when what follows its last colon is neither made of
digits nor a reason. -/
theorem Slot.key_ne_of_segment {text : String} {front segment : List Char}
    (tail : text.toList = front ++ ':' :: segment) (noColon : ':' ∉ segment)
    (nonDigit : ∃ c ∈ segment, c.isDigit = false)
    (noReason : ∀ reason : TriggerReason, reason.toString.toList ≠ segment) (slot : Slot) :
    slot.key ≠ text := by
  rintro rfl
  cases planner : slot.isTrigger with
  | false =>
      obtain ⟨start, bucket, ends⟩ := Slot.planner_tail planner
      obtain ⟨-, same⟩ := KeyText.append_cons_inj_right (Slot.bucket_noColon bucket) noColon
        (ends.symm.trans tail)
      obtain ⟨c, member, notDigit⟩ := nonDigit
      have digit := bucket.property.2 c (same ▸ member)
      rw [notDigit] at digit
      cases digit
  | true =>
      cases slot with
      | policy => cases planner
      | autoOptimize => cases planner
      | trigger i v r =>
          have ends : (Slot.trigger i v r).key.toList =
              ("watcher:" ++ toString i ++ ":INDEX_OPTIMIZE:v" ++ toString v).toList ++
                ':' :: r.toString.toList := by
            simp [Slot.key, triggerKey]
          obtain ⟨-, same⟩ := KeyText.append_cons_inj_right (Slot.reason_noColon r) noColon
            (ends.symm.trans tail)
          exact noReason r same

section Examples

/-- A dataset of `acme` with a policy that deletes old rows. -/
private def expiring : Database where
  dataset :=
    .single
      { datasetUuid := "d1", catalog := "lake", dbSchema := "acme", tableName := "events",
        storageUri := "s3://acme/events", tenantId := "acme" }
  lifecyclePolicy := .single { id := 1, datasetUuid := "d1", policyName := "p", ttlDays := some 30 }

/-- A client of `acme` submits a compaction under this key, and the planner runs twice. -/
private def submittedThenPlanned (key : String) : List (Action Unit) :=
  [ .submitted { tenantId := "acme", subject := "sdk", authMethod := .oidc }
      { taskType := .compaction, datasetUuid := "d1", idempotencyKey := some key } "t1"
      DateTime.start2026,
    .planned (fun n => toString n) DateTime.start2026,
    .planned (fun n => toString n) (DateTime.start2026 + 1) ]

/-- A client key that spells the rest of the planner's: the deletion of old rows is skipped. -/
theorem client_suppresses :
    (∀ slot : Slot, Emission.taken slot.key expiring = false) ∧
      ¬ (producers noTables).Along Unsuppressed (opened expiring)
        (submittedThenPlanned "lifecycle:1:TTL_DELETE:20260101") :=
  ⟨fun _ => rfl, by decide +kernel⟩

/-- Under another key the deletion is planned, once. -/
theorem client_unsuppressed :
    (producers noTables).Along Unsuppressed (opened expiring)
      (submittedThenPlanned "nightly") := by
  refine unsuppressed (fun _ => rfl) fun submitted ran => ⟨?_, fun planned ran' => ⟨?_, ?_⟩⟩
  · rintro key stored - slot
    obtain rfl := Option.some.inj stored
    have tail : "acme:nightly".toList = "acme".toList ++ ':' :: "nightly".toList := by decide
    exact slot.key_ne_of_segment tail (by decide) ⟨'n', by decide, by decide⟩
      (by intro reason; cases reason <;> decide)
  · obtain rfl := Option.some.inj ran
    exact Slot.plain_of_manual (by decide +kernel)
  · obtain rfl := Option.some.inj ran
    obtain rfl := Option.some.inj ran'
    exact fun _ _ => ⟨Slot.plain_of_manual (by decide +kernel), trivial⟩

end Examples

end Lcp.Producers
