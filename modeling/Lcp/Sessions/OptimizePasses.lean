/-
# Sessions.OptimizePasses -- the statements of a watch pass at a stage

A pass that emits for the index flips its row and inserts its task in one transaction, and
no other session can come between.  A rollback leads back to where the row was free.  All
other statements of a pass keep the stage.
-/
import Lcp.Sessions.OptimizeCalls

namespace Lcp.Optimizers

open Theory IndexService

set_option autoImplicit false

variable {start : Database} {index : Index} {a b : Stage} {s t : World} {i j : Nat}

namespace Realizes

/-- The passes after a statement of pass `i`. -/
theorem passes_update (realizes : Realizes start index a s) {session : Watchers.Session}
    (own : ∀ p, session = .watching p → b.Allows index s.calls.length i p)
    (others : ∀ j, j ≠ i → b.flips index.id j = a.flips index.id j) (j : Nat)
    (p : Watchers.Watcher) (watching : Function.update s.base.session i session j = .watching p) :
    b.Allows index s.calls.length j p := by
  by_cases same : j = i
  · subst same
    exact own p ((Function.update_self ..).symm.trans watching)
  · have allows := realizes.passes j p ((Function.update_of_ne same ..).symm.trans watching)
    exact ⟨allows.apart, by rw [others j same]; exact allows.flips, allows.agenda⟩

/-- The session of the stage is still there, unless it is a pass that has ended. -/
theorem present_update (realizes : Realizes start index a s) {base : Watchers.World}
    {moves : List (Nat × Nat)} {session : Watchers.Session}
    (sessions : base.session = Function.update s.base.session i session)
    (stays : (∃ p, session = .watching p) ∨ ∀ task, a ≠ .emitting i task) :
    a.Present { s with base, moves } := by
  have present := realizes.present
  cases a with
  | emitting k task =>
      show ∃ p, base.session k = .watching p
      rw [sessions]
      by_cases same : k = i
      · subst same
        obtain ⟨p, watching⟩ := stays.resolve_right fun apart => apart task rfl
        exact ⟨p, (Function.update_self ..).trans watching⟩
      · obtain ⟨p, watching⟩ := present
        exact ⟨p, (Function.update_of_ne same ..).trans watching⟩
  | free | claimed | moved | inserted | settled => exact present

/-- A pass goes on without writing. -/
theorem goOn (realizes : Realizes start index a s) {p : Watchers.Watcher}
    (allows : a.Allows index s.calls.length i p) :
    Realizes start index a { s with base := s.base.goOn i p } := by
  refine ⟨realizes.dataset, realizes.rows, realizes.movers, realizes.locks, realizes.tasks,
    realizes.calls, realizes.passes_update (fun q watching => ?_) fun _ _ => rfl,
    realizes.present_update rfl (.inl ⟨p, rfl⟩)⟩
  obtain rfl := Watchers.Session.watching.inj watching
  exact allows

/-- A session that watches nothing has no flip. -/
theorem flips_of_idle (realizes : Realizes start index a s) (idle : s.base.session i = .idle) :
    a.flips index.id i = [] := by
  cases a with
  | emitting k task =>
      obtain ⟨p, watching⟩ := realizes.present
      refine if_neg fun same => ?_
      subst same
      rw [idle] at watching
      cases watching
  | free | claimed | moved | inserted | settled => rfl

/-- The candidates of a pass. -/
theorem fetched (realizes : Realizes start index a s)
    {candidate : IndexWatcherService.Candidate}
    (member : candidate ∈ IndexWatcherService.fetchCandidates s.base.db) :
    Fetched index candidate :=
  ⟨IndexWatcherService.datasetUuid_of_mem member,
    realizes.rows.named _ (IndexWatcherService.mem_fetchCandidates.1 member).1⟩

/-- The task of an emission names the index just when it is emitted for it. -/
theorem namedBy_emission {p : Watchers.Watcher} {f : Watchers.Fired} {taskUuid : String}
    (fetched : Fetched index f.candidate) :
    namedBy index (p.row f taskUuid) = decide (f.candidate.index.id = index.id) := by
  have name : (p.copy f.candidate).indexName = f.candidate.index.indexName := by
    unfold Watchers.Watcher.copy
    split <;> rfl
  rw [← fetched.named]
  simp [namedBy, Watchers.Watcher.row, Emission.taskRow, IndexWatcherService.triggerParams,
    Json.get?, name, fetched.dataset, Index.named]

/-- Sessions other than pass `i` hold what they hold at the stage. -/
theorem other_session (realizes : Realizes start index a s) (beyond : s.calls.length ≤ i)
    (apart : ∀ task, a ≠ .emitting i task) : a.holder ≠ some i ∧ a.owner ≠ some i := by
  cases a with
  | claimed k =>
      obtain ⟨call, is, -⟩ := realizes.present
      exact ⟨fun mine => ne_of_call is beyond (Option.some.inj mine), nofun⟩
  | emitting k task =>
      have other : k ≠ i := fun same => apart task (same ▸ rfl)
      exact ⟨fun mine => other (Option.some.inj mine), fun mine => other (Option.some.inj mine)⟩
  | inserted k task =>
      obtain ⟨call, is, -⟩ := realizes.present
      exact ⟨nofun, fun mine => ne_of_call is beyond (Option.some.inj mine)⟩
  | free | moved | settled => exact ⟨nofun, nofun⟩

/-- A pass that is not the one of the stage has no flip of the index. -/
theorem flips_eq_nil (apart : ∀ task, a ≠ .emitting i task) : a.flips index.id i = [] := by
  cases a with
  | emitting k task =>
      have other : k ≠ i := fun same => apart task (same ▸ rfl)
      exact if_neg other
  | free | claimed | moved | inserted | settled => rfl

/-- A pass ends with a rollback, or goes on with an empty session. -/
theorem rolledBack (realizes : Realizes start index a s) (beyond : s.calls.length ≤ i)
    {session : Watchers.Session} (empty : ∀ p, session = .watching p →
      p.flipped = [] ∧ ∀ job ∈ p.agenda, Fetched index (ofJob job)) :
    Realizes start index (a.rollback i) { s with base := (s.base.rollback i).set i session } := by
  have tasks := realizes.tasks.rollback i
  have own : ∀ (b : Stage), b.flips index.id i = [] → ∀ p, session = .watching p →
      b.Allows index s.calls.length i p := by
    intro b none_ p watching
    obtain ⟨unflipped, agenda⟩ := empty p watching
    exact ⟨beyond, by rw [unflipped, none_]; rfl, agenda⟩
  obtain ⟨task, rfl, rolled, -⟩ | ⟨apart, rolled, -⟩ := a.rollback_cases i
  · have owner : (Stage.emitting i task).owner = some i := rfl
    rw [if_pos owner] at tasks
    rw [rolled]
    have rows : RowsAt index false s.base.db := realizes.rows
    have movers : s.movers index = [] := realizes.movers
    refine ⟨realizes.dataset, rows.congr rfl, movers, (fun k holds => by cases holds),
      ⟨tasks.rows, tasks.old, (fun other listed => by cases listed)⟩, fun j call is => ?_,
      realizes.passes_update (own _ rfl) fun j other => ?_, trivial⟩
    · have apart : (Stage.emitting i task).session ≠ some j :=
        fun same => ne_of_call is beyond (Option.some.inj same).symm
      exact (realizes.calls j call is).mono apart fun moved => by cases moved
    · exact (if_neg (Ne.symm other)).symm
  · obtain ⟨holder, owner⟩ := realizes.other_session beyond apart
    rw [if_neg owner] at tasks
    rw [rolled]
    refine ⟨realizes.dataset, realizes.rows.congr rfl, realizes.movers, fun k holds => ?_, tasks,
      realizes.calls, realizes.passes_update (own _ (flips_eq_nil apart)) fun _ _ => rfl,
      realizes.present_update rfl (.inr apart)⟩
    exact RowLocks.release_other (fun same => holder (same ▸ holds)) (realizes.locks k holds)

/-- The moves after the commit of a pass. -/
theorem movers_commit {p : Watchers.Watcher} {base : Watchers.World} :
    World.movers { s with base, moves := s.moves ++ p.flipped.map (i, ·) } index =
      s.movers index ++ (p.flipped.filter (· = index.id)).map fun _ => i := by
  unfold World.movers
  rw [List.filter_append, List.map_append, List.filter_map, List.map_map]
  rfl

/-- The COMMIT of a pass. -/
theorem passCommit (realizes : Realizes start index a s) {p : Watchers.Watcher}
    (here : s.base.session i = .watching p) (returned : List IndexWatcherService.WatchPassReport) :
    Realizes start index (a.commit i)
      { s with
        base := { (s.base.commit i p).set i .idle with returned }
        moves := s.moves ++ p.flipped.map (i, ·) } := by
  have mine := realizes.passes i p here
  have flips := mine.flips
  have flipped_iff : index.id ∈ p.flipped ↔ a.flips index.id i ≠ [] := by
    rw [← flips, Ne, List.filter_eq_nil_iff]
    simp
  have tasks := realizes.tasks.release i
  obtain ⟨task, rfl, -, ended⟩ | ⟨apart, -, ended⟩ := a.rollback_cases i
  · have owner : (Stage.emitting i task).owner = some i := rfl
    have own : (Stage.emitting i task).flips index.id i = [index.id] := if_pos rfl
    rw [if_pos owner] at tasks
    rw [own] at flips flipped_iff
    have rows : RowsAt index false s.base.db := realizes.rows
    have written := rows.writeFlips p fun _ => rfl
    rw [decide_eq_true (flipped_iff.2 (List.cons_ne_nil _ _)), Bool.or_true] at written
    have none_ : s.movers index = [] := realizes.movers
    rw [ended]
    refine ⟨realizes.dataset, written, ?_, (fun k holds => by cases holds), tasks.congr rfl,
      fun j call is => ?_, realizes.passes_update nofun fun j other => ?_, .inr mine.apart⟩
    · rw [movers_commit, none_, flips]
      rfl
    · have apart : (Stage.emitting i task).session ≠ some j :=
        fun same => ne_of_call is mine.apart (Option.some.inj same).symm
      exact (realizes.calls j call is).mono apart fun _ => rfl
    · exact (if_neg (Ne.symm other)).symm
  · obtain ⟨holder, owner⟩ := realizes.other_session mine.apart apart
    have own : a.flips index.id i = [] := flips_eq_nil apart
    have unflipped : index.id ∉ p.flipped := fun member => flipped_iff.1 member own
    rw [if_neg owner] at tasks
    have written := realizes.rows.writeFlips p fun member => absurd member unflipped
    rw [decide_eq_false unflipped, Bool.or_false] at written
    rw [ended]
    refine ⟨realizes.dataset, written, ?_, fun k holds => ?_, tasks.congr rfl, realizes.calls,
      realizes.passes_update nofun fun _ _ => rfl, realizes.present_update rfl (.inr apart)⟩
    · rw [movers_commit, flips, own, List.map_nil, List.append_nil]
      exact realizes.movers
    · exact RowLocks.release_other (fun same => holder (same ▸ holds)) (realizes.locks k holds)

/-- Nobody else has the row while a pass that has not flipped it finds it READY and open. -/
theorem free_of_current (realizes : Realizes start index a s) {p : Watchers.Watcher}
    (here : s.base.session i = .watching p) (ready : s.isReady index)
    (unflipped : index.id ∉ p.flipped) (isOpen : s.base.locks.openTo i index.id = true) :
    a = .free := by
  have unmoved := realizes.rows.unmoved ready
  have nobody := realizes.holder_eq isOpen
  have mine := realizes.passes i p here
  cases a with
  | free => rfl
  | claimed k =>
      obtain ⟨call, is, -⟩ := realizes.present
      exact absurd (nobody k rfl) (ne_of_call is mine.apart)
  | emitting k task =>
      obtain rfl := nobody k rfl
      have own : p.flipped.filter (· = index.id) = [index.id] := mine.flips.trans (if_pos rfl)
      have member : index.id ∈ p.flipped.filter (· = index.id) := own ▸ List.mem_cons_self
      exact absurd (List.mem_filter.1 member).1 unflipped
  | moved | inserted | settled => cases unmoved

/-- The pass itself after an emission. -/
theorem allows_emit (realizes : Realizes start index a s) {p : Watchers.Watcher}
    {f : Watchers.Fired} {rest : List Watchers.Job} (here : s.base.session i = .watching p)
    (agenda : p.agenda = .insert f :: rest)
    (flips : b.flips index.id i =
      a.flips index.id i ++ [f.candidate.index.id].filter (· = index.id)) :
    ∀ q, .watching (p.emit f rest) = Watchers.Session.watching q →
      b.Allows index s.calls.length i q := by
  intro q watching
  obtain rfl := Watchers.Session.watching.inj watching
  have mine := realizes.passes i p here
  refine ⟨mine.apart, ?_, fun job member => mine.agenda job ?_⟩
  · show (p.flipped ++ [f.candidate.index.id]).filter (· = index.id) = _
    rw [List.filter_append, mine.flips, flips]
  · rw [agenda]
    exact List.mem_cons_of_mem _ member

/-- The flush of an emission. -/
theorem emission (realizes : Realizes start index a s) {p : Watchers.Watcher}
    {f : Watchers.Fired} {rest : List Watchers.Job} {taskUuid : String} {after : Database}
    (here : s.base.session i = .watching p) (agenda : p.agenda = .insert f :: rest)
    (current : EmitsCurrent index s p (.insert f))
    (isOpen : s.base.locks.openTo i f.candidate.index.id = true)
    (inserted : TaskService.insertTask (p.row f taskUuid) s.base.db = some after) :
    ∃ b, Realizes start index b { s with
      base := (s.base.wrote i f.candidate.index.id taskUuid after).goOn i (p.emit f rest) } := by
  have mine := realizes.passes i p here
  have fetched : Fetched index f.candidate :=
    mine.agenda (.insert f) (by rw [agenda]; exact List.mem_cons_self)
  have names : namedBy index (p.row f taskUuid) = decide (f.candidate.index.id = index.id) :=
    namedBy_emission fetched
  obtain ⟨table, -, rows, fresh⟩ := TaskService.insertTask_eq_some inserted
  have vectorIndex : after.vectorIndex = s.base.db.vectorIndex := by rw [rows]
  have dataset : after.dataset = s.base.db.dataset := by rw [rows]
  by_cases same : f.candidate.index.id = index.id
  · have free : Emission.taken f.key s.base.db = false := by
      refine Bool.eq_false_iff.2 fun taken => ?_
      obtain ⟨row, member, keyed⟩ := Emission.taken_iff.1 taken
      exact fresh row member rfl keyed
    obtain ⟨ready, unflipped⟩ := current ⟨same, free⟩
    rw [same] at isOpen
    obtain rfl := realizes.free_of_current here ready unflipped isOpen
    have tasks := realizes.tasks.insert_new (i := i) inserted (names.trans (decide_eq_true same))
    refine ⟨.emitting i (p.row f taskUuid), dataset.trans realizes.dataset,
      realizes.rows.congr vectorIndex, realizes.movers, fun k holds => ?_, tasks,
      fun j call is => ?_,
      realizes.passes_update (realizes.allows_emit here agenda ?_) fun j other => ?_, ?_⟩
    · obtain rfl := Option.some.inj holds
      exact RowLocks.held_acquire (List.mem_singleton.2 same.symm)
    · exact (realizes.calls j call is).mono nofun nofun
    · have own : (Stage.emitting i (p.row f taskUuid)).flips index.id i = [index.id] := if_pos rfl
      rw [own, same]
      simp [Stage.flips]
    · exact if_neg (Ne.symm other)
    · exact ⟨p.emit f rest, Function.update_self ..⟩
  · have tasks := realizes.tasks.insert_other (i := i) inserted
      (names.trans (decide_eq_false same))
    refine ⟨a, dataset.trans realizes.dataset, realizes.rows.congr vectorIndex, realizes.movers,
      fun k holds => ?_, tasks, realizes.calls,
      realizes.passes_update (realizes.allows_emit here agenda ?_) fun _ _ => rfl,
      realizes.present_update rfl (.inl ⟨_, rfl⟩)⟩
    · have elsewhere : index.id ∉ [f.candidate.index.id] :=
        fun member => same (List.mem_singleton.1 member).symm
      exact (if_neg elsewhere).trans (realizes.locks k holds)
    · have none_ : [f.candidate.index.id].filter (· = index.id) = [] := by simp [same]
      rw [none_, List.append_nil]

/-- A pass raises and is rolled back. -/
theorem abort (realizes : Realizes start index a s) (beyond : s.calls.length ≤ i) :
    Realizes start index (a.rollback i) { s with base := s.base.abort i } :=
  realizes.rolledBack beyond nofun

/-- The SELECT of the candidates. -/
theorem scan (realizes : Realizes start index a s) (beyond : s.calls.length ≤ i)
    (idle : s.base.session i = .idle) (now : DateTime) :
    Realizes start index a { s with
      base := s.base.goOn i (.begin_ now (IndexWatcherService.fetchCandidates s.base.db)) } := by
  refine realizes.goOn ⟨beyond, (realizes.flips_of_idle idle).symm, fun job member => ?_⟩
  obtain ⟨candidate, listed, rfl⟩ := List.mem_map.1 member
  exact realizes.fetched listed

/-- What a pass has to do after the stats of a candidate is about that candidate. -/
theorem agenda_watch {p : Watchers.Watcher} {candidate : IndexWatcherService.Candidate}
    {rest : List Watchers.Job} {stats : Except PyException (Option IndexLiveStats)}
    {job : Watchers.Job} (member : job ∈ (p.watch candidate rest stats).agenda) :
    ofJob job = candidate ∨ job ∈ rest := by
  unfold Watchers.Watcher.watch at member
  cases stats with
  | error e => exact .inr member
  | ok found =>
      cases found with
      | none => exact .inr member
      | some live =>
          simp only at member
          split at member
          · exact .inr member
          · rcases List.mem_cons.1 member with rfl | later
            · exact .inl rfl
            · exact .inr later

/-- A job of a pass. -/
theorem perform (realizes : Realizes start index a s) {p : Watchers.Watcher}
    {job : Watchers.Job} {rest : List Watchers.Job} {input : Watchers.Input}
    {base : Watchers.World} (here : s.base.session i = .watching p)
    (agenda : p.agenda = job :: rest) (current : EmitsCurrent index s p job)
    (ran : Watchers.perform s.base i p rest input job = some base) :
    ∃ b, Realizes start index b { s with base } := by
  have mine := realizes.passes i p here
  have first : Fetched index (ofJob job) :=
    mine.agenda job (by rw [agenda]; exact List.mem_cons_self)
  have later : ∀ other ∈ rest, Fetched index (ofJob other) :=
    fun other member => mine.agenda other (by rw [agenda]; exact List.mem_cons_of_mem _ member)
  cases job with
  | candidate candidate =>
      obtain rfl := Option.some.inj ran
      have flipped := (Watchers.watch_report p candidate rest input.stats).2.2.1
      refine ⟨a, realizes.goOn ⟨mine.apart, by rw [flipped]; exact mine.flips, ?_⟩⟩
      intro other member
      rcases agenda_watch member with same | listed
      · rw [same]
        exact first
      · exact later other listed
  | lookup f =>
      simp only [Watchers.perform] at ran
      split at ran
      · obtain rfl := Option.some.inj ran
        exact ⟨a, realizes.goOn ⟨mine.apart, mine.flips, later⟩⟩
      · obtain rfl := Option.some.inj ran
        refine ⟨a, realizes.goOn ⟨mine.apart, mine.flips, fun other member => ?_⟩⟩
        rcases List.mem_cons.1 member with rfl | listed
        · exact first
        · exact later other listed
  | insert f =>
      simp only [Watchers.perform, Watchers.flush] at ran
      split at ran
      · cases ran
      · rename_i unblocked
        have isOpen : s.base.locks.openTo i f.candidate.index.id = true := by
          simp only [Watchers.World.blocked, Bool.or_eq_true, Bool.not_eq_true', not_or,
            Bool.not_eq_false] at unblocked
          exact unblocked.1
        split at ran
        · obtain rfl := Option.some.inj ran
          exact ⟨_, realizes.abort mine.apart⟩
        · split at ran
          · rename_i after inserted
            obtain rfl := Option.some.inj ran
            exact realizes.emission here agenda current isOpen inserted
          · obtain rfl := Option.some.inj ran
            refine ⟨_, realizes.rolledBack mine.apart fun q watching => ?_⟩
            obtain rfl := Watchers.Session.watching.inj watching
            exact ⟨rfl, later⟩

/-- A pass without candidates left. -/
theorem finish (realizes : Realizes start index a s) {p : Watchers.Watcher}
    {input : Watchers.Input} (here : s.base.session i = .watching p) (ended : p.agenda = []) :
    ∃ b, Realizes start index b { s with
      base := s.base.finish i p
      moves := s.moves ++ committedFlips s.base (.advance i input) } := by
  have mine := realizes.passes i p here
  have flips : committedFlips s.base (.advance i input) =
      if p.report.scannedIndexes ≠ 0 then p.flipped.map (i, ·) else [] := by
    simp [committedFlips, here, ended]
  rw [flips]
  by_cases scanned : p.report.scannedIndexes ≠ 0
  · have written : s.base.finish i p =
        { (s.base.commit i p).set i .idle with returned := s.base.returned ++ [p.report] } := by
      simp only [Watchers.World.finish, if_pos scanned]
    rw [if_pos scanned, written]
    exact ⟨_, realizes.passCommit here _⟩
  · have dropped : s.base.finish i p =
        { (s.base.rollback i).set i .idle with returned := s.base.returned ++ [p.report] } := by
      simp only [Watchers.World.finish, if_neg scanned]
    rw [if_neg scanned, List.append_nil, dropped]
    obtain ⟨dataset, rows, movers, locks, tasks, calls, passes, present⟩ :=
      realizes.abort mine.apart
    exact ⟨_, dataset, rows, movers, locks, tasks, calls, passes, present⟩

/-- A statement of a pass. -/
theorem watch (realizes : Realizes start index a s) {act : Watchers.Action}
    (current : Current index s (.watch act)) (stepped : step s (.watch act) = some t) :
    ∃ b, Realizes start index b t := by
  simp only [step] at stepped
  split at stepped
  · rename_i may
    obtain ⟨base, ran, rfl⟩ := Option.map_eq_some_iff.1 stepped
    cases act with
    | scan i now =>
        simp only [Watchers.step] at ran
        split at ran
        · rename_i idle
          obtain rfl := Option.some.inj ran
          have moves : s.moves ++ committedFlips s.base (.scan i now) = s.moves :=
            List.append_nil _
          rw [moves]
          exact ⟨a, realizes.scan (of_decide_eq_true may) idle now⟩
        · cases ran
    | advance i input =>
        simp only [Watchers.step] at ran
        split at ran
        · cases ran
        · rename_i p here
          split at ran
          · rename_i ended
            obtain rfl := Option.some.inj ran
            exact realizes.finish here ended
          · rename_i job rest agenda
            have moves : s.moves ++ committedFlips s.base (.advance i input) = s.moves := by
              simp [committedFlips, here, agenda]
            rw [moves]
            split at ran
            · obtain rfl := Option.some.inj ran
              exact ⟨_, realizes.abort (of_decide_eq_true may)⟩
            · rename_i live
              simp only [Current, here] at current
              refine realizes.perform here agenda ?_ ran
              exact current (by simpa using live) job (by rw [agenda]; rfl)
    | close i =>
        obtain rfl := Option.some.inj ran
        have moves : s.moves ++ committedFlips s.base (.close i) = s.moves := List.append_nil _
        rw [moves]
        exact ⟨_, realizes.abort (of_decide_eq_true may)⟩
    | submitted | elsewhere => cases may
  · cases stepped

/-- The rest of the control plane. -/
theorem elsewhere (realizes : Realizes start index a s) {others : Database}
    (stepped : step s (.elsewhere others) = some t) : Realizes start index a t := by
  obtain rfl := Option.some.inj stepped
  exact ⟨realizes.dataset, realizes.rows.congr rfl, realizes.movers, realizes.locks,
    realizes.tasks.congr rfl, realizes.calls, realizes.passes, by
      have present := realizes.present
      cases a with
      | free | claimed | emitting | moved | inserted | settled => exact present⟩

end Realizes

end Lcp.Optimizers
