/-
# Sessions.DurableEmissions -- what a planner reports and what it committed

A tick lists the tasks that its pass inserted.  The rollback after a lost INSERT is
the session's, not the INSERT's: it takes the tasks and the `last_run_at` of the
policies planned before with it, while the counters of the pass stay.

`Durable` is therefore kept by the runs in which an INSERT that loses its key finds
its session without an uncommitted task or `last_run_at`.  `Backed` is what carries
it from the INSERT to the commit.
-/
import Lcp.Sessions.Planners

namespace Lcp.Planners

open Theory Emission LifecyclePlannerService

set_option autoImplicit false

/-- The task is a committed row. -/
def World.Committed (s : World) (taskUuid : String) : Prop :=
  taskUuid ∈ s.db.task.keys ∧ s.owner taskUuid = none

instance (s : World) : DecidablePred s.Committed := fun _ => inferInstanceAs (Decidable (_ ∧ _))

/-- A committed row holds the key. -/
def World.Served (s : World) (key : String) : Prop :=
  ∃ task ∈ s.db.task.rows, task.idempotencyKey = some key ∧ s.owner task.taskUuid = none

instance (s : World) : DecidablePred s.Served := fun key =>
  inferInstanceAs (Decidable (∃ task ∈ s.db.task.rows,
    task.idempotencyKey = some key ∧ s.owner task.taskUuid = none))

/-- Every returned tick lists committed tasks, and every key that was due is served. -/
structure Durable (s : World) : Prop where
  emitted : ∀ r ∈ s.returned, ∀ taskUuid ∈ r.tick.emittedTasks, s.Committed taskUuid
  wanted : ∀ r ∈ s.returned, ∀ key ∈ r.wanted, s.Served key

instance : DecidablePred Durable := fun s =>
  decidable_of_iff
    ((∀ r ∈ s.returned, ∀ taskUuid ∈ r.tick.emittedTasks, s.Committed taskUuid) ∧
      ∀ r ∈ s.returned, ∀ key ∈ r.wanted, s.Served key)
    ⟨fun both => ⟨both.1, both.2⟩, fun durable => ⟨durable.emitted, durable.wanted⟩⟩

/-- A pass of session `i` that goes on still has its uncommitted tasks and `last_run_at`s. -/
def KeptBy (i : Nat) (s t : World) : Prop :=
  match s.session i, t.session i with
  | .planning p, .planning q =>
      (∀ taskUuid ∈ s.db.task.keys, s.owner.Held i taskUuid →
        taskUuid ∈ t.db.task.keys ∧ t.owner.Held i taskUuid) ∧ p.recorded <+: q.recorded
  | _, _ => True

instance (i : Nat) (s t : World) : Decidable (KeptBy i s t) := by
  unfold KeptBy
  split <;> infer_instance

/-- No step discards what a pass that goes on has written. -/
def Kept (s t : World) : Prop := ∀ i, KeptBy i s t

/-- The INSERT would raise an `IntegrityError`. -/
def refused (row : Task) (db : Database) : Bool := (TaskService.insertTask row db).isNone

/-- A refused INSERT lost its key, and its session has nothing else uncommitted. -/
def undisturbed (s : World) : Action → Bool
  | .advance i taskUuid =>
      match s.session i with
      | .idle => true
      | .planning p =>
          match p.agenda with
          | .insert due :: _ =>
              refused (p.row due taskUuid) s.db = true →
                taken due.key s.db = true ∧ p.recorded = [] ∧
                  ∀ task ∈ s.db.task.rows, ¬ s.owner.Held i task.taskUuid
          | _ => true
  | _ => true

/-! ## What a step does -/

/-- The key of a due that is not tried yet. -/
def Job.key : Job → Option String
  | .lookup due => some due.key
  | .insert due => some due.key
  | _ => none

def Planner.Pending (p : Planner) (key : String) : Prop := ∃ job ∈ p.agenda, job.key = some key

theorem sees_iff {s : World} {i : Nat} {key : String} :
    s.sees i key = true ↔ ∃ task ∈ s.db.task.rows,
      task.idempotencyKey = some key ∧ s.owner.openTo i task.taskUuid = true := by
  simp [World.sees]

/-- Rows and owners that are not those of session `i` stay. -/
structure Frame (i : Nat) (s t : World) : Prop where
  rows : ∀ task ∈ s.db.task.rows, ¬ s.owner.Held i task.taskUuid →
    ∃ later ∈ t.db.task.rows, identity later = identity task ∧
      t.owner later.taskUuid = s.owner task.taskUuid
  owner : ∀ taskUuid j, j ≠ i → t.owner.Held j taskUuid → s.owner.Held j taskUuid

namespace Frame

variable {i j : Nat} {s t : World}

theorem goOn (s : World) (i : Nat) (p : Planner) : Frame i s (s.goOn i p) :=
  ⟨fun row member _ => ⟨row, member, rfl, rfl⟩, fun _ _ _ held => held⟩

/-- The frame reads the task table and the owners alone. -/
theorem congr {u : World} (frame : Frame i s t) (task : u.db.task = t.db.task)
    (owner : u.owner = t.owner) : Frame i s u := by
  refine ⟨fun row member free => ?_, fun taskUuid j other held => ?_⟩
  · rw [task, owner]
    exact frame.rows row member free
  · exact frame.owner taskUuid j other (owner ▸ held)

theorem rollback (s : World) (i : Nat) : Frame i s (s.rollback i) := by
  refine ⟨fun row member free => ⟨row, ?_, rfl, RowLocks.release_of_not_held free⟩,
    fun taskUuid j _ held => RowLocks.Held.of_release held⟩
  have spared : ¬ s.owner row.taskUuid = some i := free
  exact Table.mem_delete.2 ⟨member, by simp [spared]⟩

theorem commit (s : World) (i : Nat) (p : Planner) : Frame i s (s.commit i p) :=
  ⟨fun row member free => ⟨row, member, rfl, RowLocks.release_of_not_held free⟩,
    fun _ _ _ held => RowLocks.Held.of_release held⟩

theorem insert {row : Task} {after : Database}
    (inserted : TaskService.insertTask row s.db = some after) :
    Frame i s (s.wrote i row.taskUuid after) := by
  obtain ⟨table, added, rfl, -⟩ := TaskService.insertTask_eq_some inserted
  obtain ⟨-, fresh⟩ := Table.insert?_eq_some added
  refine ⟨fun task member _ => ⟨task, (Table.mem_insert? added).2 (.inl member), rfl, ?_⟩,
    fun taskUuid j other held => RowLocks.Held.of_acquire other held⟩
  have differ : task.taskUuid ∉ [row.taskUuid] := by
    simpa using fresh task member
  exact if_neg differ

/-- A row of anybody else is there, with its owner. -/
theorem keys (frame : Frame i s t) {taskUuid : String} (member : taskUuid ∈ s.db.task.keys)
    (free : ¬ s.owner.Held i taskUuid) :
    taskUuid ∈ t.db.task.keys ∧ t.owner taskUuid = s.owner taskUuid := by
  obtain ⟨task, inTable, rfl⟩ := List.mem_map.1 member
  obtain ⟨later, stays, identical, owner⟩ := frame.rows task inTable free
  have sameUuid : later.taskUuid = task.taskUuid := congrArg Prod.fst identical
  rw [sameUuid] at owner
  exact ⟨sameUuid ▸ List.mem_map_of_mem stays, owner⟩

theorem committed (frame : Frame i s t) {taskUuid : String} (there : s.Committed taskUuid) :
    t.Committed taskUuid := by
  have free : ¬ s.owner.Held i taskUuid := by
    simp [RowLocks.Held, there.2]
  obtain ⟨member, owner⟩ := frame.keys there.1 free
  exact ⟨member, owner.trans there.2⟩

theorem served (frame : Frame i s t) {key : String} (there : s.Served key) : t.Served key := by
  obtain ⟨task, member, keyed, unowned⟩ := there
  have free : ¬ s.owner.Held i task.taskUuid := by
    simp [RowLocks.Held, unowned]
  obtain ⟨later, stays, identical, owner⟩ := frame.rows task member free
  exact ⟨later, stays, (congrArg Prod.snd identical).trans keyed, owner.trans unowned⟩

theorem durable (frame : Frame i s t) (durable : Durable s) (returned : t.returned = s.returned) :
    Durable t :=
  ⟨fun r member taskUuid listed =>
      frame.committed (durable.emitted r (returned ▸ member) taskUuid listed),
    fun r member key due => frame.served (durable.wanted r (returned ▸ member) key due)⟩

/-- What another session sees it still sees. -/
theorem sees (frame : Frame i s t) (other : j ≠ i) {key : String} (seen : s.sees j key = true) :
    t.sees j key = true := by
  obtain ⟨task, member, keyed, isOpen⟩ := sees_iff.1 seen
  have free : ¬ s.owner.Held i task.taskUuid := RowLocks.not_held_of_openTo other isOpen
  obtain ⟨later, stays, identical, owner⟩ := frame.rows task member free
  refine sees_iff.2 ⟨later, stays, (congrArg Prod.snd identical).trans keyed, ?_⟩
  simpa [RowLocks.openTo, owner] using isOpen

/-- A pass of another session keeps what it has written. -/
theorem kept (frame : Frame i s t) (other : j ≠ i) (session : t.session j = s.session j) :
    KeptBy j s t := by
  unfold KeptBy
  rw [session]
  cases s.session j with
  | idle => trivial
  | planning p =>
      refine ⟨fun taskUuid member held => ?_, List.prefix_refl _⟩
      obtain ⟨stays, owner⟩ := frame.keys member fun mine => other (held.unique mine)
      exact ⟨stays, owner.trans held⟩

end Frame

/-- The kinds of steps. -/
inductive Effect (s : World) (a : Action) : World → Prop where
  | began (i : Nat) (p : Planner) (idle : s.session i = .idle) (emitted : p.emitted = [])
      (wanted : p.wanted = []) : Effect s a (s.goOn i p)
  /-- A job that writes no row. -/
  | planned (i : Nat) (p q : Planner) (here : s.session i = .planning p)
      (emitted : q.emitted = p.emitted) (recorded : p.recorded <+: q.recorded)
      (wanted : ∀ key ∈ q.wanted, key ∈ p.wanted ∨ q.Pending key)
      (pending : ∀ key, p.Pending key → q.Pending key ∨ s.sees i key = true) :
      Effect s a (s.goOn i q)
  | inserted (i : Nat) (p : Planner) (due : Due) (rest : List Job) (taskUuid : String)
      (after : Database) (here : s.session i = .planning p)
      (agenda : p.agenda = .insert due :: rest)
      (inserted : TaskService.insertTask (p.row due taskUuid) s.db = some after) :
      Effect s a ((s.wrote i taskUuid after).goOn i (p.emit taskUuid rest))
  | lost (i : Nat) (p : Planner) (due : Due) (rest : List Job) (taskUuid : String)
      (here : s.session i = .planning p) (agenda : p.agenda = .insert due :: rest)
      (label : a = .advance i taskUuid)
      (free : s.blocked i (p.row due taskUuid) = false)
      (refused : refused (p.row due taskUuid) s.db = true) :
      Effect s a ((s.rollback i).goOn i (p.rolledBack rest))
  | aborted (i : Nat) : Effect s a (s.abort i)
  | finished (i : Nat) (p : Planner) (here : s.session i = .planning p) (agenda : p.agenda = []) :
      Effect s a (s.finish i p)
  /-- Another producer, or the rest of the control plane. -/
  | outside (t : World) (session : t.session = s.session) (returned : t.returned = s.returned)
      (frame : ∀ i, Frame i s t) : Effect s a t

theorem pending_cons {p : Planner} {job : Job} {rest : List Job} {key : String}
    (agenda : p.agenda = job :: rest) (pending : p.Pending key) :
    job.key = some key ∨ ∃ later ∈ rest, later.key = some key := by
  obtain ⟨other, member, keyed⟩ := pending
  rw [agenda] at member
  rcases List.mem_cons.1 member with rfl | inRest
  · exact .inl keyed
  · exact .inr ⟨other, inRest, keyed⟩

/-- Dues are pending as soon as they are planned. -/
theorem effect_plan {s : World} {a : Action} {i : Nat} {p : Planner} {job : Job}
    {rest : List Job} (here : s.session i = .planning p) (agenda : p.agenda = job :: rest)
    (keyless : job.key = none) (dues : List Due) (more : List Job) :
    Effect s a (s.goOn i (p.plan dues (more ++ rest))) := by
  refine .planned i p _ here rfl (List.prefix_refl _) (fun key wanted => ?_) fun key pending => ?_
  · rcases List.mem_append.1 wanted with old | due
    · exact .inl old
    · obtain ⟨one, member, rfl⟩ := List.mem_map.1 due
      refine .inr ⟨.lookup one, ?_, rfl⟩
      exact List.mem_append_left _ (List.mem_map_of_mem member)
  · rcases pending_cons agenda pending with keyed | ⟨later, inRest, keyed⟩
    · rw [keyless] at keyed
      cases keyed
    · refine .inl ⟨later, ?_, keyed⟩
      exact List.mem_append_right _ (List.mem_append_right _ inRest)

/-- A job that only leaves the agenda. -/
theorem effect_next {s : World} {a : Action} {i : Nat} {p q : Planner} {job : Job}
    {rest : List Job} (here : s.session i = .planning p) (agenda : p.agenda = job :: rest)
    (emitted : q.emitted = p.emitted) (recorded : p.recorded <+: q.recorded)
    (wanted : q.wanted = p.wanted) (left : ∀ later ∈ rest, later ∈ q.agenda)
    (tried : ∀ key, job.key = some key → q.Pending key ∨ s.sees i key = true) :
    Effect s a (s.goOn i q) := by
  refine .planned i p q here emitted recorded (fun key want => .inl (wanted ▸ want))
    fun key pending => ?_
  rcases pending_cons agenda pending with keyed | ⟨later, inRest, keyed⟩
  · exact tried key keyed
  · exact .inl ⟨later, left later inRest, keyed⟩

theorem effect_of_perform {s t : World} {i : Nat} {p : Planner} {job : Job} {rest : List Job}
    {taskUuid : String} (here : s.session i = .planning p) (agenda : p.agenda = job :: rest)
    (done : perform s i p rest taskUuid job = some t) :
    Effect s (.advance i taskUuid) t := by
  cases job with
  | policy policy =>
      simp only [perform] at done
      split at done
      · obtain rfl := Option.some.inj done
        refine effect_next here agenda rfl (List.prefix_refl _) rfl (fun _ member => member) ?_
        intro key keyed
        cases keyed
      · obtain rfl := Option.some.inj done
        exact effect_plan here agenda rfl _ _
  | optimize policy dataset =>
      obtain rfl := Option.some.inj done
      exact effect_plan here agenda rfl _ []
  | rules policy dataset =>
      obtain rfl := Option.some.inj done
      exact effect_plan here agenda rfl _ []
  | lookup due =>
      simp only [perform] at done
      split at done
      · rename_i seen
        obtain rfl := Option.some.inj done
        refine effect_next here agenda rfl (List.prefix_refl _) rfl (fun _ member => member) ?_
        intro key keyed
        obtain rfl : due.key = key := Option.some.inj keyed
        exact .inr seen
      · obtain rfl := Option.some.inj done
        refine effect_next here agenda rfl (List.prefix_refl _) rfl
          (fun _ member => List.mem_cons_of_mem _ member) ?_
        intro key keyed
        exact .inl ⟨.insert due, List.mem_cons_self, keyed⟩
  | insert due =>
      simp only [perform] at done
      split at done
      · cases done
      · rename_i free
        split at done
        · rename_i after inserted
          obtain rfl := Option.some.inj done
          exact .inserted i p due rest taskUuid after here agenda inserted
        · rename_i collision
          obtain rfl := Option.some.inj done
          refine .lost i p due rest taskUuid here agenda rfl (by simpa using free) ?_
          simp [refused, collision]
  | record policyId =>
      obtain rfl := Option.some.inj done
      refine effect_next here agenda rfl (List.prefix_append _ _) rfl (fun _ member => member) ?_
      intro key keyed
      cases keyed

/-- A committed row of another producer. -/
theorem frame_submitted {s : World} {task : Task} {after : Database}
    (inserted : TaskService.insertTask task s.db = some after) (i : Nat) :
    Frame i s { s with db := after } := by
  obtain ⟨table, added, rfl, -⟩ := TaskService.insertTask_eq_some inserted
  refine ⟨fun row member _ => ⟨row, ?_, rfl, rfl⟩, fun _ _ _ held => held⟩
  exact (Table.mem_insert? added).2 (.inl member)

theorem frame_elsewhere {s : World} {others : Database}
    (same : others.task.rows.map identity = s.db.task.rows.map identity) (i : Nat) :
    Frame i s { s with db := others } := by
  refine ⟨fun row member _ => ?_, fun _ _ _ held => held⟩
  have listed : identity row ∈ others.task.rows.map identity :=
    same ▸ List.mem_map_of_mem member
  obtain ⟨later, inOthers, identical⟩ := List.mem_map.1 listed
  refine ⟨later, inOthers, identical, ?_⟩
  have sameUuid : later.taskUuid = row.taskUuid := congrArg Prod.fst identical
  show s.owner later.taskUuid = s.owner row.taskUuid
  rw [sameUuid]

/-- Every step is of one of the kinds. -/
theorem effect_of_step {s t : World} {a : Action} (taken : step s a = some t) : Effect s a t := by
  cases a with
  | scan i now =>
      simp only [step] at taken
      split at taken
      · rename_i idle
        obtain rfl := Option.some.inj taken
        exact .began i _ idle rfl rfl
      · cases taken
  | advance i taskUuid =>
      simp only [step] at taken
      split at taken
      · cases taken
      · rename_i p here
        split at taken
        · rename_i agenda
          obtain rfl := Option.some.inj taken
          exact .finished i p here agenda
        · rename_i job rest agenda
          split at taken
          · obtain rfl := Option.some.inj taken
            exact .aborted i
          · exact effect_of_perform here agenda taken
  | close i =>
      obtain rfl := Option.some.inj taken
      exact .aborted i
  | submitted task =>
      obtain ⟨after, inserted, rfl⟩ := Option.map_eq_some_iff.1 taken
      exact .outside _ rfl rfl (frame_submitted inserted)
  | elsewhere others =>
      simp only [step] at taken
      split at taken
      · rename_i same
        obtain rfl := Option.some.inj taken
        exact .outside _ rfl rfl (frame_elsewhere same)
      · cases taken

/-! ## The invariant -/

/-- A pass owns the uncommitted rows of its session, its emissions are among them, and a key
that was due is seen or not tried yet. -/
structure Backed (s : World) (i : Nat) (p : Planner) : Prop where
  owned : ∀ taskUuid, s.owner.Held i taskUuid → taskUuid ∈ p.emitted
  emitted : ∀ taskUuid ∈ p.emitted, taskUuid ∈ s.db.task.keys ∧ s.owner.Held i taskUuid
  wanted : ∀ key ∈ p.wanted, s.sees i key = true ∨ p.Pending key

def Session.Holds (s : World) (i : Nat) : Session → Prop
  | .idle => ∀ taskUuid, ¬ s.owner.Held i taskUuid
  | .planning p => Backed s i p

structure Inv (s : World) : Prop where
  session : ∀ i, (s.session i).Holds s i
  durable : Durable s

theorem inv_atRest (db : Database) : Inv (atRest db) :=
  ⟨fun _ taskUuid => RowLocks.not_held_none_ _ taskUuid, ⟨nofun, nofun⟩⟩

theorem Frame.holds {i j : Nat} {s t : World} (frame : Frame i s t) (other : j ≠ i)
    {session : Session} (holds : session.Holds s j) : session.Holds t j := by
  cases session with
  | idle => exact fun taskUuid held => holds taskUuid (frame.owner taskUuid j other held)
  | planning p =>
      refine ⟨fun taskUuid held => holds.owned taskUuid (frame.owner taskUuid j other held),
        fun taskUuid member => ?_, fun key due => ?_⟩
      · obtain ⟨inTable, held⟩ := holds.emitted taskUuid member
        obtain ⟨stays, owner⟩ := frame.keys inTable fun mine => other (held.unique mine)
        exact ⟨stays, owner.trans held⟩
      · exact (holds.wanted key due).imp_left (frame.sees other)

/-- What is left to show of a step of session `i` is about session `i`. -/
theorem Inv.step_of_frame {i : Nat} {s t : World} (inv : Inv s) (frame : Frame i s t)
    {session : Session} (moved : t.session = Function.update s.session i session)
    (own : session.Holds t i) (durable : Durable t) : Inv t := by
  refine ⟨fun j => ?_, durable⟩
  rw [moved]
  by_cases here : j = i
  · rw [here, Function.update_self]
    exact own
  · rw [Function.update_of_ne here]
    exact frame.holds here (inv.session j)

theorem Inv.backed {s : World} {i : Nat} {p : Planner} (inv : Inv s)
    (here : s.session i = .planning p) : Backed s i p := by
  have holds := inv.session i
  rwa [here] at holds

/-- A step that writes no row. -/
theorem Inv.goOn {s : World} {i : Nat} {p : Planner} (inv : Inv s) (backed : Backed s i p) :
    Inv (s.goOn i p) := by
  have frame := Frame.goOn s i p
  exact inv.step_of_frame frame rfl ⟨backed.owned, backed.emitted, backed.wanted⟩
    (frame.durable inv.durable rfl)

theorem Inv.inserted {s : World} {i : Nat} {p : Planner} {due : Due} {rest : List Job}
    {taskUuid : String} {after : Database} (inv : Inv s) (here : s.session i = .planning p)
    (agenda : p.agenda = .insert due :: rest)
    (inserted : TaskService.insertTask (p.row due taskUuid) s.db = some after) :
    Inv ((s.wrote i taskUuid after).goOn i (p.emit taskUuid rest)) := by
  have backed := inv.backed here
  have frame : Frame i s ((s.wrote i taskUuid after).goOn i (p.emit taskUuid rest)) :=
    (Frame.insert inserted).congr rfl rfl
  obtain ⟨table, added, rfl, -⟩ := TaskService.insertTask_eq_some inserted
  have keys := Table.keys_insert? added
  refine inv.step_of_frame frame rfl ⟨fun other held => ?_, fun other member => ?_,
    fun key wanted => ?_⟩ (frame.durable inv.durable rfl)
  · show other ∈ p.emitted ++ [taskUuid]
    by_cases same : other = taskUuid
    · exact List.mem_append_right _ (List.mem_singleton.2 same)
    · have differ : other ∉ [taskUuid] := by simpa using same
      have before : s.owner.Held i other := (if_neg differ).symm.trans held
      exact List.mem_append_left _ (backed.owned other before)
  · show other ∈ table.keys ∧ (s.owner.acquire i [taskUuid]).Held i other
    rw [keys]
    rcases List.mem_append.1 member with old | new
    · obtain ⟨inTable, held⟩ := backed.emitted other old
      exact ⟨List.mem_append_left _ inTable, held.acquire _⟩
    · exact ⟨List.mem_append_right _ new, RowLocks.held_acquire new⟩
  · have seen : ∀ task ∈ table.rows, task.idempotencyKey = some key →
        (s.owner.acquire i [taskUuid]).openTo i task.taskUuid = true →
        ((s.wrote i taskUuid { s.db with task := table }).goOn i
          (p.emit taskUuid rest)).sees i key = true :=
      fun task member keyed isOpen => sees_iff.2 ⟨task, member, keyed, isOpen⟩
    rcases backed.wanted key wanted with before | pending
    · obtain ⟨task, member, keyed, isOpen⟩ := sees_iff.1 before
      exact .inl (seen task ((Table.mem_insert? added).2 (.inl member)) keyed
        (RowLocks.openTo_acquire isOpen))
    · rcases pending_cons agenda pending with same | left
      · refine .inl (seen (p.row due taskUuid) ((Table.mem_insert? added).2 (.inr rfl)) same ?_)
        exact RowLocks.openTo_of_held (RowLocks.held_acquire List.mem_cons_self)
      · exact .inr left

/-- A session without uncommitted rows loses its key to a committed row. -/
theorem Inv.lost {s : World} {i : Nat} {p : Planner} {due : Due} {rest : List Job}
    {taskUuid : String} (inv : Inv s) (here : s.session i = .planning p)
    (agenda : p.agenda = .insert due :: rest)
    (free : s.blocked i (p.row due taskUuid) = false) (takenKey : taken due.key s.db = true)
    (nothing : ∀ task ∈ s.db.task.rows, ¬ s.owner.Held i task.taskUuid) :
    Inv ((s.rollback i).goOn i (p.rolledBack rest)) := by
  have backed := inv.backed here
  have frame : Frame i s ((s.rollback i).goOn i (p.rolledBack rest)) :=
    (Frame.rollback s i).congr rfl rfl
  have noEmission : ∀ other, other ∉ p.emitted := by
    intro other member
    obtain ⟨inTable, held⟩ := backed.emitted other member
    obtain ⟨task, inRows, rfl⟩ := List.mem_map.1 inTable
    exact nothing task inRows held
  refine inv.step_of_frame frame rfl ⟨fun other held => ?_, fun other member => ?_,
    fun key wanted => ?_⟩ (frame.durable inv.durable rfl)
  · exact absurd held (RowLocks.not_held_release _ _ _)
  · exact absurd member (noEmission other)
  · -- A row the session sees is committed, so the rollback leaves it.
    have keeps : s.sees i key = true →
        ((s.rollback i).goOn i (p.rolledBack rest)).sees i key = true := by
      intro seen
      obtain ⟨task, member, keyed, isOpen⟩ := sees_iff.1 seen
      obtain ⟨later, stays, identical, -⟩ := frame.rows task member (nothing task member)
      have sameUuid : later.taskUuid = task.taskUuid := congrArg Prod.fst identical
      refine sees_iff.2 ⟨later, stays, (congrArg Prod.snd identical).trans keyed, ?_⟩
      rw [sameUuid]
      exact RowLocks.openTo_of_free (RowLocks.release_of_openTo isOpen)
    rcases backed.wanted key wanted with seen | pending
    · exact .inl (keeps seen)
    · rcases pending_cons agenda pending with same | left
      · obtain rfl : due.key = key := Option.some.inj same
        obtain ⟨task, member, keyed⟩ := taken_iff.1 takenKey
        refine .inl (keeps (sees_iff.2 ⟨task, member, keyed, ?_⟩))
        refine Bool.of_not_eq_false fun closed => ?_
        have blocked : s.blocked i (p.row due taskUuid) = true :=
          List.any_eq_true.2 ⟨task, member, by simpa [closed] using .inl keyed⟩
        rw [free] at blocked
        cases blocked
      · exact .inr left

theorem Inv.aborted {s : World} (inv : Inv s) (i : Nat) : Inv (s.abort i) := by
  have frame : Frame i s (s.abort i) := (Frame.rollback s i).congr rfl rfl
  exact inv.step_of_frame frame rfl (RowLocks.not_held_release s.owner i)
    (frame.durable inv.durable rfl)

/-- The end of a pass: nothing of the session is left uncommitted, and its rows stay. -/
theorem Backed.ended {s : World} {i : Nat} {p : Planner} (backed : Backed s i p)
    (agenda : p.agenda = []) :
    (∀ taskUuid ∈ p.emitted, (s.finish i p).Committed taskUuid) ∧
      ∀ key ∈ p.wanted, (s.finish i p).Served key := by
  have seen : ∀ key ∈ p.wanted, ∃ task ∈ s.db.task.rows,
      task.idempotencyKey = some key ∧ s.owner.openTo i task.taskUuid = true := by
    intro key wanted
    rcases backed.wanted key wanted with seen | ⟨job, member, -⟩
    · exact sees_iff.1 seen
    · rw [agenda] at member
      cases member
  unfold World.finish
  split
  · refine ⟨fun taskUuid member => ?_, fun key wanted => ?_⟩
    · obtain ⟨inTable, held⟩ := backed.emitted taskUuid member
      exact ⟨inTable, RowLocks.release_of_openTo (RowLocks.openTo_of_held held)⟩
    · obtain ⟨task, member, keyed, isOpen⟩ := seen key wanted
      exact ⟨task, member, keyed, RowLocks.release_of_openTo isOpen⟩
  · rename_i empty
    have noEmission : p.emitted = [] := by
      by_contra emitted
      exact empty (.inl emitted)
    refine ⟨fun taskUuid member => ?_, fun key wanted => ?_⟩
    · rw [noEmission] at member
      cases member
    · obtain ⟨task, member, keyed, isOpen⟩ := seen key wanted
      have notMine : ¬ s.owner task.taskUuid = some i := by
        intro held
        have listed := backed.owned task.taskUuid held
        rw [noEmission] at listed
        cases listed
      exact ⟨task, Table.mem_delete.2 ⟨member, by simp [notMine]⟩, keyed,
        RowLocks.release_of_openTo isOpen⟩

theorem Frame.finish (s : World) (i : Nat) (p : Planner) : Frame i s (s.finish i p) := by
  unfold World.finish
  split
  · exact (Frame.commit s i p).congr rfl rfl
  · exact (Frame.rollback s i).congr rfl rfl

theorem Inv.finished {s : World} {i : Nat} {p : Planner} (inv : Inv s)
    (here : s.session i = .planning p) (agenda : p.agenda = []) : Inv (s.finish i p) := by
  obtain ⟨committed, served⟩ := (inv.backed here).ended agenda
  have frame := Frame.finish s i p
  have returned : (s.finish i p).returned = s.returned ++ [⟨p.tick, p.wanted⟩] := rfl
  have released : (s.finish i p).owner = s.owner.release i := by
    unfold World.finish
    split <;> rfl
  refine inv.step_of_frame frame (World.session_finish s i p) (fun taskUuid => ?_)
    ⟨fun r member taskUuid listed => ?_, fun r member key due => ?_⟩
  · rw [released]
    exact RowLocks.not_held_release s.owner i taskUuid
  · rw [returned] at member
    rcases List.mem_append.1 member with old | new
    · exact frame.committed (inv.durable.emitted r old taskUuid listed)
    · obtain rfl := List.mem_singleton.1 new
      exact committed taskUuid listed
  · rw [returned] at member
    rcases List.mem_append.1 member with old | new
    · exact frame.served (inv.durable.wanted r old key due)
    · obtain rfl := List.mem_singleton.1 new
      exact served key due

/-! ## Runs -/

/-- What the guard says of a refused INSERT. -/
theorem undisturbed_insert {s : World} {i : Nat} {p : Planner} {due : Due} {rest : List Job}
    {taskUuid : String} (guard : undisturbed s (.advance i taskUuid) = true)
    (here : s.session i = .planning p) (agenda : p.agenda = .insert due :: rest)
    (lost : refused (p.row due taskUuid) s.db = true) :
    taken due.key s.db = true ∧ p.recorded = [] ∧
      ∀ task ∈ s.db.task.rows, ¬ s.owner.Held i task.taskUuid := by
  simp only [undisturbed, here, agenda, decide_eq_true_eq] at guard
  exact guard lost

theorem inv_step {s t : World} {a : Action} (inv : Inv s) (guard : undisturbed s a = true)
    (effect : Effect s a t) : Inv t := by
  cases effect with
  | began i p idle emitted wanted =>
      have holds := inv.session i
      rw [idle] at holds
      refine inv.goOn ⟨fun taskUuid held => absurd held (holds taskUuid), ?_, ?_⟩
      · rw [emitted]
        exact nofun
      · rw [wanted]
        exact nofun
  | planned i p q here emitted recorded wanted pending =>
      have backed := inv.backed here
      refine inv.goOn ⟨emitted ▸ backed.owned, emitted ▸ backed.emitted, fun key due => ?_⟩
      rcases wanted key due with old | new
      · rcases backed.wanted key old with seen | untried
        · exact .inl seen
        · exact (pending key untried).symm
      · exact .inr new
  | inserted i p due rest taskUuid after here agenda inserted =>
      exact inv.inserted here agenda inserted
  | lost i p due rest taskUuid here agenda label free refused =>
      subst label
      obtain ⟨takenKey, -, nothing⟩ := undisturbed_insert guard here agenda refused
      exact inv.lost here agenda free takenKey nothing
  | aborted i => exact inv.aborted i
  | finished i p here agenda => exact inv.finished here agenda
  | outside t session returned frame =>
      refine ⟨fun j => ?_, (frame 0).durable inv.durable returned⟩
      rw [session]
      exact (frame (j + 1)).holds (by omega) (inv.session j)

/-- A step that moves session `i` keeps what the others wrote. -/
theorem kept_of_frame {i : Nat} {s t : World} (frame : Frame i s t) {session : Session}
    (moved : t.session = Function.update s.session i session) (own : KeptBy i s t) : Kept s t := by
  intro j
  by_cases here : j = i
  · exact here ▸ own
  · refine frame.kept here ?_
    rw [moved, Function.update_of_ne here]

theorem keptBy_planning {i : Nat} {s t : World} {p q : Planner}
    (before : s.session i = .planning p) (after : t.session i = .planning q) :
    KeptBy i s t ↔ (∀ taskUuid ∈ s.db.task.keys, s.owner.Held i taskUuid →
      taskUuid ∈ t.db.task.keys ∧ t.owner.Held i taskUuid) ∧ p.recorded <+: q.recorded := by
  simp only [KeptBy, before, after]

theorem keptBy_idle {i : Nat} {s t : World} (ended : t.session i = .idle) : KeptBy i s t := by
  unfold KeptBy
  rw [ended]
  split <;> trivial

/-- The rollback of a lost INSERT keeps what the pass has written exactly when that is
nothing. -/
theorem keptBy_lost {s : World} {i : Nat} {p : Planner} (here : s.session i = .planning p)
    (rest : List Job) :
    KeptBy i s ((s.rollback i).goOn i (p.rolledBack rest)) ↔
      p.recorded = [] ∧ ∀ task ∈ s.db.task.rows, ¬ s.owner.Held i task.taskUuid := by
  rw [keptBy_planning (q := p.rolledBack rest) here (Function.update_self ..)]
  constructor
  · rintro ⟨tasks, recorded⟩
    refine ⟨List.prefix_nil.1 recorded, fun task member held => ?_⟩
    have still := (tasks task.taskUuid (List.mem_map_of_mem member) held).2
    exact RowLocks.not_held_release s.owner i task.taskUuid still
  · rintro ⟨unrecorded, nothing⟩
    refine ⟨fun other member held => ?_, ?_⟩
    · obtain ⟨task, inRows, rfl⟩ := List.mem_map.1 member
      exact absurd held (nothing task inRows)
    · rw [unrecorded]
      exact List.nil_prefix

theorem kept_step {s t : World} {a : Action} (guard : undisturbed s a = true)
    (effect : Effect s a t) : Kept s t := by
  cases effect with
  | began i p idle emitted wanted =>
      refine kept_of_frame (Frame.goOn s i p) rfl ?_
      unfold KeptBy
      rw [idle]
      trivial
  | planned i p q here emitted recorded wanted pending =>
      refine kept_of_frame (Frame.goOn s i q) rfl ?_
      refine (keptBy_planning here (Function.update_self ..)).2 ⟨?_, recorded⟩
      exact fun taskUuid member held => ⟨member, held⟩
  | inserted i p due rest taskUuid after here agenda inserted =>
      have frame : Frame i s ((s.wrote i taskUuid after).goOn i (p.emit taskUuid rest)) :=
        (Frame.insert inserted).congr rfl rfl
      refine kept_of_frame frame rfl ?_
      refine (keptBy_planning (q := p.emit taskUuid rest) here (Function.update_self ..)).2
        ⟨?_, List.prefix_refl _⟩
      intro other member held
      obtain ⟨table, added, rfl, -⟩ := TaskService.insertTask_eq_some inserted
      refine ⟨?_, held.acquire _⟩
      show other ∈ table.keys
      rw [Table.keys_insert? added]
      exact List.mem_append_left _ member
  | lost i p due rest taskUuid here agenda label free refused =>
      subst label
      obtain ⟨-, unrecorded, nothing⟩ := undisturbed_insert guard here agenda refused
      have frame : Frame i s ((s.rollback i).goOn i (p.rolledBack rest)) :=
        (Frame.rollback s i).congr rfl rfl
      exact kept_of_frame frame rfl ((keptBy_lost here rest).2 ⟨unrecorded, nothing⟩)
  | aborted i =>
      have frame : Frame i s (s.abort i) := (Frame.rollback s i).congr rfl rfl
      exact kept_of_frame frame rfl (keptBy_idle (Function.update_self ..))
  | finished i p here agenda =>
      have moved := World.session_finish s i p
      refine kept_of_frame (Frame.finish s i p) moved (keptBy_idle ?_)
      rw [moved, Function.update_self]
  | outside t session returned frame =>
      intro j
      exact (frame (j + 1)).kept (by omega) (by rw [session])

/-- **Reported emissions are durable** in every run in which an INSERT that is refused has
lost its key and finds its session without an uncommitted task or `last_run_at`; and no
step of such a run discards what a pass has written. -/
theorem emissions_durable {db : Database} {actions : List Action}
    (guarded : planners.Guarded (fun s a => undisturbed s a = true) (atRest db) actions) :
    planners.Always Durable (atRest db) actions ∧
      planners.Along (fun s _ t => Kept s t) (atRest db) actions := by
  have both : planners.Along (fun s _ t => Durable t ∧ Kept s t) (atRest db) actions := by
    refine Machine.along_of_inv (fun s a t inv guard stepped => ?_) (inv_atRest db) guarded
    have effect := effect_of_step stepped
    have after := inv_step inv guard effect
    exact ⟨after, after.durable, kept_step guard effect⟩
  exact ⟨⟨(inv_atRest db).durable, both.mono fun _ _ _ => And.left⟩,
    both.mono fun _ _ _ => And.right⟩

section Examples

/-- Two datasets with a policy each: the first wants a TTL task once it is enabled, the second
has a vectorization rule. -/
def twoPolicies (enabled : Bool) (task : Table Task Task.taskUuid) : Database where
  dataset :=
    ⟨[{ datasetUuid := "d1", catalog := "lake", dbSchema := "acme", tableName := "events",
        storageUri := "s3://acme/events", tenantId := "acme" },
      { datasetUuid := "d2", catalog := "lake", dbSchema := "acme", tableName := "users",
        storageUri := "s3://acme/users", tenantId := "acme" }], by decide⟩
  lifecyclePolicy :=
    ⟨[{ id := 1, datasetUuid := "d1", policyName := "events", ttlDays := some 30, enabled },
      { id := 2, datasetUuid := "d2", policyName := "users" }], by simp⟩
  vectorizationRule :=
    .single
      { id := 1, datasetUuid := "d2", targetColumn := "emb", sourceColumns := some ["bio"],
        modelName := "bge", modelVersion := "1" }
  task := task

/-- So many jobs of session `i`. -/
def advances (i : Nat) (jobs : Nat) (taskUuid : String) : List Action :=
  List.replicate jobs (.advance i taskUuid)

/-- Session 1 scans, the first policy is enabled, session 0 scans and inserts its task; both look
the key of the second policy up, session 1 inserts it and commits, session 0 loses it. -/
def collision : List Action :=
  [.scan 1 DateTime.start2026, .elsewhere (twoPolicies true .empty),
    .scan 0 DateTime.start2026] ++ advances 0 3 "u1" ++ advances 0 7 "u3" ++ advances 1 7 "u2" ++
    advances 0 3 "u3"

/-- The lost key takes the first task and its `last_run_at` with it; the tick lists the task. -/
theorem emission_lost :
    ¬ planners.Always Durable (atRest (twoPolicies false .empty)) collision ∧
      ¬ planners.Along (fun s _ t => Kept s t) (atRest (twoPolicies false .empty)) collision := by
  refine ⟨Machine.not_always_of_ends (by decide +kernel), fun along => ?_⟩
  have keptBy := along.mono (R := fun s _ t => KeptBy 0 s t) fun s a t kept => kept 0
  exact absurd keptBy (by decide +kernel)

/-- A key lost by a session that has nothing to lose, and a later pass. -/
theorem emissions_durable_in_turn :
    let actions : List Action :=
      [.scan 1 DateTime.start2026, .scan 0 DateTime.start2026] ++ advances 0 4 "u1" ++
        advances 1 7 "u2" ++ advances 0 3 "u1" ++ [.scan 0 DateTime.start2026] ++ advances 0 6 "u1"
    planners.Always Durable (atRest (twoPolicies false .empty)) actions ∧
      planners.Along (fun s _ t => Kept s t) (atRest (twoPolicies false .empty)) actions :=
  emissions_durable (by decide +kernel)

end Examples

end Lcp.Planners
