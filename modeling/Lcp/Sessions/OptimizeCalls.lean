/-
# Sessions.OptimizeCalls -- the statements of a call at a stage

Each statement of `optimize_index` and of its submission keeps the world at a stage, or
leads to the next one.  The UPDATE of the row asks that it is still READY, and the
submission that its key is free.
-/
import Lcp.Sessions.OptimizeStages

namespace Lcp.Optimizers

open Theory IndexService

set_option autoImplicit false

variable {start : Database} {index : Index} {a b : Stage} {s t : World} {i j : Nat}

/-- A call that the stage is not about can be where it is at the next stage, too. -/
theorem Stage.Admits.mono {call : Call} (admits : a.Admits start index j call)
    (apart : a.session ≠ some j) (keeps : a.mover.isSome = true → b.mover.isSome = true) :
    b.Admits start index j call := by
  cases call with
  | begun | admitted => exact admits
  | flipped =>
      obtain ⟨-, -, rfl⟩ := admits
      exact absurd rfl apart
  | committed =>
      obtain ⟨-, -, rfl⟩ := admits
      exact absurd rfl apart
  | submitting copy session =>
      cases session with
      | lookup | insert | commit | refresh =>
          obtain ⟨-, rfl⟩ := admits
          exact absurd rfl apart
      | reselect | returned | raised => exact admits
  | reverting => exact admits
  | returned =>
      obtain ⟨task, -, rfl⟩ := admits
      exact absurd rfl apart
  | raised e => exact ⟨admits.1, keeps admits.2⟩

/-- The session of a call is none of a pass. -/
theorem ne_of_call {call : Call} (is : s.calls[j]? = some call) (beyond : s.calls.length ≤ i) :
    j ≠ i := by
  have listed := (List.getElem?_eq_some_iff.1 is).1
  omega

namespace Realizes

/-- The calls after call `i` has moved. -/
theorem calls_set (realizes : Realizes start index a s) {new : Call}
    (here : b.Admits start index i new)
    (others : ∀ (j : Nat) (call : Call), j ≠ i → s.calls[j]? = some call →
      a.Admits start index j call → b.Admits start index j call) :
    ∀ (j : Nat) (call : Call), (s.calls.set i new)[j]? = some call →
      b.Admits start index j call := by
  intro j call is
  rcases Calls.moved_cases is with ⟨apart, before⟩ | ⟨rfl, rfl⟩
  · exact others j call apart before (realizes.calls j call before)
  · exact here

/-- A call moves that is not what the stage is about, or stays what it is about. -/
theorem present_set (present : a.Present s) {old new : Call} (was : s.calls[i]? = some old)
    (acts : old.acts = true → new.acts = true) : a.Present (s.set i new) := by
  have still : ∀ {k : Nat}, (∃ call, s.calls[k]? = some call ∧ call.acts = true) →
      ∃ call, (s.set i new).calls[k]? = some call ∧ call.acts = true := by
    rintro k ⟨call, is, acting⟩
    by_cases same : k = i
    · subst same
      obtain rfl := Option.some.inj (was.symm.trans is)
      exact ⟨new, Calls.get_moved is, acts acting⟩
    · exact ⟨call, by rw [← is]; exact List.getElem?_set_ne (Ne.symm same), acting⟩
  cases a with
  | free => trivial
  | claimed | moved | inserted => exact still present
  | emitting => exact present
  | settled =>
      rcases present with acting | beyond
      · exact .inl (still acting)
      · exact .inr (by simpa [World.set] using beyond)

/-- A call moves at a stage. -/
theorem set (realizes : Realizes start index a s) {old new : Call} (was : s.calls[i]? = some old)
    (acts : old.acts = true → new.acts = true) (here : a.Admits start index i new) :
    Realizes start index a (s.set i new) where
  dataset := realizes.dataset
  rows := realizes.rows
  movers := realizes.movers
  locks := realizes.locks
  tasks := realizes.tasks
  calls := realizes.calls_set here fun _ _ _ _ admits => admits
  passes j p watching := by
    have length : (s.set i new).calls.length = s.calls.length := List.length_set
    rw [length]
    exact realizes.passes j p watching
  present := present_set realizes.present was acts

/-- What `get_index` returns. -/
theorem getIndex_eq (realizes : Realizes start index a s) {request : Request}
    (asks : Asks start index request) {row : Index}
    (found : s.base.db.vectorIndex.get index.id = some row) :
    getIndex (some request.caller) request.datasetUuid request.indexName s.base.db = .ok row := by
  obtain ⟨dataset, seen⟩ := asks.seen
  have guarded : DatasetService.getDataset (some request.caller) index.datasetUuid s.base.db =
      .ok dataset := by
    rw [← seen]
    simp only [DatasetService.getDataset, realizes.dataset]
  have named := realizes.rows.maybeGetIndex_eq
  rw [getIndex, asks.dataset, asks.indexName, guarded]
  simp only [named, found]

/-- `get_index` and the test. -/
theorem read (realizes : Realizes start index a s) (begins : index.status = .ready)
    (stepped : step s (.read i) = some t) : Realizes start index a t := by
  simp only [step] at stepped
  split at stepped
  · rename_i request was
    have asks : Asks start index request := realizes.calls i _ was
    cases moved : a.mover.isSome with
    | false =>
        have found := realizes.rows.ready moved
        rw [realizes.getIndex_eq asks found] at stepped
        obtain rfl := Option.some.inj stepped
        have admitted : tested request index = .admitted request index := by
          simp [tested, begins]
        rw [admitted]
        exact realizes.set was (fun acts => by cases acts) ⟨asks, rfl⟩
    | true =>
        obtain ⟨stamp, found⟩ := realizes.rows.optimizing moved
        rw [realizes.getIndex_eq asks found] at stepped
        obtain rfl := Option.some.inj stepped
        exact realizes.set was (fun acts => by cases acts) ⟨⟨_, rfl⟩, moved⟩
  · cases stepped

/-- Nobody else has an uncommitted UPDATE of a row that is open to a session. -/
theorem holder_eq (realizes : Realizes start index a s)
    (isOpen : s.base.locks.openTo i index.id = true) : ∀ k ∈ a.holder, k = i := by
  intro k holds
  refine Decidable.byContradiction fun other => ?_
  exact RowLocks.not_held_of_openTo (Ne.symm other) isOpen (realizes.locks k holds)

/-- Nobody else has the row while it is READY and open. -/
theorem free_of_open (realizes : Realizes start index a s) (ready : s.isReady index)
    {call : Call} (was : s.calls[i]? = some call) (idle : call.acts = false)
    (isOpen : s.base.locks.openTo i index.id = true) : a = .free := by
  have unmoved := realizes.rows.unmoved ready
  have nobody := realizes.holder_eq isOpen
  cases a with
  | free => rfl
  | claimed k =>
      obtain rfl := nobody k rfl
      obtain ⟨other, is, acts⟩ := realizes.present
      obtain rfl := Option.some.inj (was.symm.trans is)
      rw [idle] at acts
      cases acts
  | emitting k task =>
      obtain rfl := nobody k rfl
      obtain ⟨p, watching⟩ := realizes.present
      have beyond := (realizes.passes _ p watching).apart
      have within := (List.getElem?_eq_some_iff.1 was).1
      omega
  | moved | inserted | settled => cases unmoved

/-- The UPDATE of a call. -/
theorem flip (realizes : Realizes start index a s) {now : DateTime} (ready : s.isReady index)
    (stepped : step s (.flip i now) = some t) : Realizes start index (.claimed i) t := by
  simp only [step] at stepped
  split at stepped
  · rename_i request copy was
    obtain ⟨asks, rfl⟩ := realizes.calls i _ was
    split at stepped
    · rename_i isOpen
      obtain rfl := Option.some.inj stepped
      obtain rfl := realizes.free_of_open ready was rfl isOpen
      refine ⟨realizes.dataset, realizes.rows, realizes.movers, ?_, realizes.tasks, ?_, ?_, ?_⟩
      · intro k holds
        obtain rfl := Option.some.inj holds
        exact RowLocks.held_acquire List.mem_cons_self
      · exact realizes.calls_set ⟨asks, rfl, rfl⟩ fun j call _ _ admits =>
          admits.mono (fun own => by cases own) fun moved => by cases moved
      · intro j p watching
        have allows := realizes.passes j p watching
        exact ⟨by simpa [World.set, World.lock] using allows.apart, allows.flips, allows.agenda⟩
      · exact ⟨_, Calls.get_moved was, rfl⟩
    · cases stepped
  · cases stepped

/-- The COMMIT of a call. -/
theorem commit (realizes : Realizes start index a s) (begins : index.status = .ready)
    (stepped : step s (.commit i) = some t) : Realizes start index (.moved i) t := by
  simp only [step] at stepped
  split at stepped
  · rename_i request copy now was
    obtain ⟨asks, rfl, rfl⟩ := realizes.calls i _ was
    obtain rfl := Option.some.inj stepped
    refine ⟨realizes.dataset, realizes.rows.flush begins now, ?_, nofun,
      realizes.tasks.congr rfl, ?_, ?_, ?_⟩
    · have none_ : (s.moves.filter fun move => move.2 = copy.id).map Prod.fst = [] :=
        realizes.movers
      show ((s.moves ++ [(i, copy.id)]).filter fun move => move.2 = copy.id).map Prod.fst = [i]
      rw [List.filter_append, List.map_append, none_]
      simp
    · refine realizes.calls_set ⟨asks, rfl, rfl⟩ fun j call apart _ admits => ?_
      exact admits.mono (fun same => apart (Option.some.inj same).symm) nofun
    · intro j p watching
      have allows := realizes.passes j p watching
      exact ⟨by simpa [World.set, World.wrote] using allows.apart, allows.flips, allows.agenda⟩
    · exact ⟨_, Calls.get_moved was, rfl⟩
  · rename_i copy cause was
    exact (realizes.calls i _ was).elim
  · cases stepped

/-- The SELECT after the commit, and the key of the submission. -/
theorem refresh (realizes : Realizes start index a s)
    (stepped : step s (.refresh i) = some t) : Realizes start index a t := by
  simp only [step] at stepped
  split at stepped
  · rename_i request copy was
    obtain ⟨asks, rfl, rfl⟩ := realizes.calls i _ was
    obtain ⟨stamp, found⟩ := realizes.rows.optimizing rfl
    rw [found] at stepped
    obtain rfl := Option.some.inj stepped
    refine realizes.set was (fun _ => rfl) ⟨⟨rfl, asks.dataset, ?_, rfl⟩, rfl⟩
    show some [("index_name", Json.str request.indexName)] = _
    rw [asks.indexName]
  · cases stepped

/-- No call reaches the handler of a failed submission. -/
theorem not_giveUp (realizes : Realizes start index a s) {cause : String} :
    step s (.giveUp i cause) = none := by
  simp only [step]
  split
  · rename_i copy was
    exact (realizes.calls i _ was).elim
  · rfl

/-! ## Submissions -/

/-- A world after the statement of a submission. -/
theorem submitted_eq {u : Submitters.World} {old : Call} {copy : Index}
    {session : Submitters.Session} (sessions : u.sessions = s.submissions.sessions)
    (was : s.calls[i]? = some old) :
    s.submitted i copy (u.set i session) =
      { s with
        base := { s.base with db := u.db, owner := u.owner }
        calls := s.calls.set i (.after copy session) } := by
  have listed : i < (s.calls.map Call.session).length := by
    rw [List.length_map]
    exact (List.getElem?_eq_some_iff.1 was).1
  have is : (u.set i session).sessions[i]? = some session := by
    show (u.sessions.set i session)[i]? = some session
    rw [sessions]
    exact List.getElem?_set_self listed
  unfold World.submitted
  rw [is]
  rfl

theorem namedBy_row {c : Submitters.Call} {taskUuid : String} {now : DateTime}
    (submits : Submits index c) :
    namedBy index (c.args.row c.principal taskUuid now) = true := by
  obtain ⟨type, dataset, params, -⟩ := submits
  simp [namedBy, TaskService.Submission.row, type, dataset, params, Json.get?]

/-- An INSERT under a free key goes through. -/
theorem insertTask_ok {task : Task} {db : Database} (fresh : task.taskUuid ∉ db.task.keys)
    (free : ∀ key ∈ task.idempotencyKey, Emission.taken key db = false) :
    ∃ after, TaskService.insertTask task db = some after := by
  obtain ⟨table, added⟩ : ∃ table, db.task.insert? task = some table :=
    Table.exists_insert? fresh
  have unused : ¬ (task.idempotencyKey.isSome = true ∧
      task.idempotencyKey ∈ db.task.rows.map Task.idempotencyKey) := by
    rintro ⟨keyed, listed⟩
    obtain ⟨key, is⟩ := Option.isSome_iff_exists.1 keyed
    obtain ⟨row, member, same⟩ := List.mem_map.1 listed
    have taken := Emission.taken_iff.2 ⟨row, member, same.trans is⟩
    rw [free key is] at taken
    cases taken
  exact ⟨{ db with task := table }, by
    rw [TaskService.insertTask, if_neg unused, added, Option.map_some]⟩

/-- The SELECT by key. -/
theorem lookup (realizes : Realizes start index a s) {act : Submitters.Action} {copy : Index}
    {c : Submitters.Call} {u : Submitters.World}
    (was : s.calls[act.session]? = some (.submitting copy (.lookup c)))
    (free : KeyFree s act.session (.lookup c))
    (ran : Submitters.perform s.submissions act (.lookup c) = some u) :
    Realizes start index a (s.submitted act.session copy u) := by
  obtain ⟨submits, rfl⟩ := realizes.calls _ _ was
  obtain ⟨key, keyed⟩ := Option.isSome_iff_exists.1 submits.2.2.2
  simp only [Submitters.perform, keyed, List.isEmpty_iff.1 (free key keyed)] at ran
  obtain rfl := Option.some.inj ran
  rw [submitted_eq rfl was]
  exact realizes.set was (fun _ => rfl) ⟨submits, rfl⟩

/-- The INSERT of the task. -/
theorem insert (realizes : Realizes start index a s) {act : Submitters.Action} {copy : Index}
    {c : Submitters.Call} {u : Submitters.World}
    (was : s.calls[act.session]? = some (.submitting copy (.insert c)))
    (free : KeyFree s act.session (.insert c))
    (ran : Submitters.perform s.submissions act (.insert c) = some u) :
    Realizes start index
      (.inserted act.session (c.args.row c.principal act.taskUuid act.now))
      (s.submitted act.session copy u) := by
  obtain ⟨submits, rfl⟩ := realizes.calls _ _ was
  simp only [Submitters.perform] at ran
  split at ran
  · cases ran
  · rename_i fresh
    obtain ⟨after, inserted⟩ : ∃ after, TaskService.insertTask
        (c.args.row c.principal act.taskUuid act.now) s.base.db = some after :=
      insertTask_ok fresh free
    have here : TaskService.insertTask (c.args.row c.principal act.taskUuid act.now)
        s.submissions.db = some after := inserted
    simp only [Submitters.flush, here] at ran
    split at ran
    · cases ran
    · obtain rfl := Option.some.inj ran
      have sessions : (s.submissions.wrote act.session
          (c.args.row c.principal act.taskUuid act.now).taskUuid after).sessions =
            s.submissions.sessions := rfl
      rw [submitted_eq sessions was]
      have tasks := realizes.tasks.insert_new (i := act.session) inserted (namedBy_row submits)
      obtain ⟨table, -, rfl, -⟩ := TaskService.insertTask_eq_some inserted
      refine ⟨realizes.dataset, realizes.rows.congr rfl, realizes.movers, nofun, tasks, ?_, ?_, ?_⟩
      · refine realizes.calls_set ⟨⟨rfl, submits.2.2.1⟩, rfl⟩ fun j call apart _ admits => ?_
        exact admits.mono (fun same => apart (Option.some.inj same).symm) fun _ => rfl
      · intro j p watching
        have allows := realizes.passes j p watching
        exact ⟨by simpa using allows.apart, allows.flips, allows.agenda⟩
      · exact ⟨_, Calls.get_moved was, rfl⟩

/-- The COMMIT of the task. -/
theorem commitTask (realizes : Realizes start index a s) {act : Submitters.Action} {copy : Index}
    {c : Submitters.Call} {task : Task} {u : Submitters.World}
    (was : s.calls[act.session]? = some (.submitting copy (.commit c task)))
    (ran : Submitters.perform s.submissions act (.commit c task) = some u) :
    Realizes start index (.settled act.session task) (s.submitted act.session copy u) := by
  obtain ⟨submitted, rfl⟩ := realizes.calls _ _ was
  obtain rfl := Option.some.inj ran
  have sessions : (s.submissions.commit act.session).sessions = s.submissions.sessions := rfl
  rw [submitted_eq sessions was]
  have owner : (Stage.inserted act.session task).owner = some act.session := rfl
  have tasks := realizes.tasks.release act.session
  rw [if_pos owner] at tasks
  refine ⟨realizes.dataset, realizes.rows, realizes.movers, nofun, tasks, ?_, ?_, ?_⟩
  · refine realizes.calls_set ⟨submitted, rfl⟩ fun j call apart _ admits => ?_
    exact admits.mono (fun same => apart (Option.some.inj same).symm) fun _ => rfl
  · intro j p watching
    have allows := realizes.passes j p watching
    exact ⟨by simpa using allows.apart, allows.flips, allows.agenda⟩
  · exact .inl ⟨_, Calls.get_moved was, rfl⟩

/-- The SELECT that refreshes the task. -/
theorem refreshTask (realizes : Realizes start index a s) {act : Submitters.Action} {copy : Index}
    {c : Submitters.Call} {task : Task} {u : Submitters.World}
    (was : s.calls[act.session]? = some (.submitting copy (.refresh c task)))
    (ran : Submitters.perform s.submissions act (.refresh c task) = some u) :
    Realizes start index a (s.submitted act.session copy u) := by
  obtain ⟨submitted, rfl⟩ := realizes.calls _ _ was
  have listed : task ∈ s.submissions.select act.session c.principal
      fun row => row.taskUuid = task.taskUuid := by
    have inRows : task ∈ s.base.db.task.rows :=
      realizes.tasks.mem_rows (.inr List.mem_cons_self)
    have committed : s.base.owner task.taskUuid = none :=
      realizes.tasks.new task List.mem_cons_self
    have isOpen : s.submissions.owner.openTo act.session task.taskUuid = true :=
      RowLocks.openTo_of_free committed
    have visible : c.principal.sees task.tenantId = true := by
      simp [TenantPrincipal.sees, submitted.tenant]
    exact List.mem_filter.2 ⟨inRows, by simp [isOpen, visible]⟩
  simp only [Submitters.perform] at ran
  split at ran
  · obtain rfl := Option.some.inj ran
    rw [submitted_eq rfl was]
    exact realizes.set was (fun _ => rfl) ⟨task, submitted.params, rfl⟩
  · rename_i none_
    rw [none_] at listed
    cases listed

/-- A statement of a submission. -/
theorem submit (realizes : Realizes start index a s) {act : Submitters.Action}
    (current : Current index s (.submit act)) (stepped : step s (.submit act) = some t) :
    ∃ b, Realizes start index b t := by
  simp only [step] at stepped
  split at stepped
  · rename_i copy session was
    obtain ⟨u, ran, rfl⟩ := Option.map_eq_some_iff.1 stepped
    have is : s.submissions.sessions[act.session]? = some session := by
      show (s.calls.map Call.session)[act.session]? = some session
      rw [List.getElem?_map, was]
      rfl
    rw [Submitters.step, is, Option.bind_some] at ran
    simp only [Current, was] at current
    cases session with
    | lookup c => exact ⟨_, realizes.lookup was current ran⟩
    | insert c => exact ⟨_, realizes.insert was current ran⟩
    | commit c task => exact ⟨_, realizes.commitTask was ran⟩
    | refresh c task => exact ⟨_, realizes.refreshTask was ran⟩
    | reselect | returned | raised => exact (realizes.calls _ _ was).elim
  · cases stepped

end Realizes

end Lcp.Optimizers
