/-
# Sessions.DroppedIndexes -- DROPPED is the last status of an index row

`drop_index` is soft: the row stays, and what was queued or running for it goes on.
No writer of the status but `drop_index` looks at the committed row when it writes,
so DROPPED is kept by the runs in which every UPDATE of the status finds its row
in another state.

`Settled` carries this from the UPDATE to the commit: the session holds the row in
between, so no other commit touches it.
-/
import Lcp.Sessions.IndexRows

namespace Lcp.IndexRows

open Theory World

set_option autoImplicit false

/-- The session deletes the row in a `create_index` that replaces. -/
def Replaces (s : World) (a : Action) (id : Nat) : Prop :=
  ∃ i existing row issued, a = .commit i ∧
    s.session i = .writing (.create (some existing) row) issued ∧ existing.id = id

/-- The commit of an INDEX_BUILD. -/
def Builds (s : World) (a : Action) : Prop :=
  ∃ i copy now issued, a = .commit i ∧ s.session i = .writing (.build copy now) issued

/-- A step leaves a DROPPED row DROPPED or deletes it in a replacement, and an INDEX_BUILD
moves rows to READY from BUILDING alone. -/
structure Terminal (s : World) (a : Action) (t : World) : Prop where
  dropped : ∀ id row, s.db.vectorIndex.get id = some row → row.status = .dropped →
    (∃ later, t.db.vectorIndex.get id = some later ∧ later.status = .dropped) ∨
      (Replaces s a id ∧ t.db.vectorIndex.get id = none)
  built : Builds s a → ∀ id row later, s.db.vectorIndex.get id = some row →
    t.db.vectorIndex.get id = some later → later.status = .ready →
      row.status = .building ∨ row.status = .ready

/-- An UPDATE that does not take a row out of DROPPED, and for INDEX_BUILD takes it to READY
from BUILDING alone. -/
def spares (db : Database) (call : Call) : Statement → Bool
  | .update loaded modified => (db.vectorIndex.get loaded.id).all fun row =>
      (row.status = .dropped → modified.status = loaded.status ∨ modified.status = .dropped) ∧
        (call.isBuild = true → loaded.status = .ready ∨ row.status = .building ∨
          row.status = .ready)
  | _ => true

/-- The UPDATE that the action issues spares its row. -/
def undisturbed (s : World) : Action → Bool
  | .issue i =>
      match s.session i with
      | .writing call issued => (call.statements[issued]?).all (spares s.db call)
      | _ => true
  | _ => true

theorem spares_update {db : Database} {call : Call} {loaded modified : Index} :
    spares db call (.update loaded modified) = true ↔
      ∀ row, db.vectorIndex.get loaded.id = some row →
        (row.status = .dropped → modified.status = loaded.status ∨ modified.status = .dropped) ∧
          (call.isBuild = true → loaded.status = .ready ∨ row.status = .building ∨
            row.status = .ready) := by
  cases found : db.vectorIndex.get loaded.id with
  | none => simp [spares, found]
  | some row =>
      simp only [spares, found, Option.all_some, decide_eq_true_eq, Option.some.injEq, forall_eq']

/-- What `spares` reads of the rows. -/
theorem spares_congr {db other : Database} {call : Call} {statement : Statement}
    (same : other.vectorIndex.get statement.target = db.vectorIndex.get statement.target) :
    spares other call statement = spares db call statement := by
  cases statement with
  | update loaded modified =>
      have sameRow : other.vectorIndex.get loaded.id = db.vectorIndex.get loaded.id := same
      simp [spares, sameRow]
  | delete id => rfl
  | insert row => rfl

/-! ## The rows a statement writes -/

namespace Statement

/-- A statement leaves the other rows alone. -/
theorem get_apply {statement : Statement} {db after : Database} {id : Nat}
    (applied : statement.apply db = some after) (other : id ≠ statement.target) :
    after.vectorIndex.get id = db.vectorIndex.get id := by
  cases statement with
  | update loaded modified =>
      obtain rfl := Option.some.inj applied
      exact (Table.get_update _ _ _ _ (Index.id_flush loaded modified)).trans (if_neg other)
  | delete gone =>
      obtain rfl := Option.some.inj applied
      refine Table.get_delete_of_ne _ fun row _ same => ?_
      have spared : row.id ≠ gone := fun hit => other (same.symm.trans hit)
      simp [spared]
  | insert row =>
      obtain ⟨-, table, added, rfl⟩ := IndexService.insertIndex_eq_some applied
      exact Table.get_insert?_of_ne added other

theorem get_foldlM {statements : List Statement} {db after : Database} {id : Nat}
    (applied : statements.foldlM apply db = some after)
    (others : ∀ statement ∈ statements, id ≠ statement.target) :
    after.vectorIndex.get id = db.vectorIndex.get id := by
  induction statements generalizing db with
  | nil =>
      obtain rfl := Option.some.inj applied
      rfl
  | cons statement rest ih =>
      rw [List.foldlM_cons, Option.bind_eq_bind, Option.bind_eq_some_iff] at applied
      obtain ⟨next, first, later⟩ := applied
      rw [ih later fun other member => others other (List.mem_cons_of_mem _ member)]
      exact get_apply first (others statement List.mem_cons_self)

/-- The assignment of a status that was not loaded as it is. -/
theorem status_flush (loaded modified row : Index) :
    (Index.flush loaded modified row).status =
      if modified.status = loaded.status then row.status else modified.status := rfl

/-- A DROPPED row stays DROPPED under a statement that spares it and does not delete it. -/
theorem dropped_apply {statement : Statement} {db after : Database} {id : Nat} {row : Index}
    (applied : statement.apply db = some after) (found : db.vectorIndex.get id = some row)
    (dropped : row.status = .dropped) (kept : statement ≠ .delete id)
    (spared : ∀ loaded modified, statement = .update loaded modified → loaded.id = id →
      modified.status = loaded.status ∨ modified.status = .dropped) :
    ∃ later, after.vectorIndex.get id = some later ∧ later.status = .dropped := by
  by_cases hit : id = statement.target
  · cases statement with
    | update loaded modified =>
        obtain rfl := Option.some.inj applied
        have here : id = loaded.id := hit
        refine ⟨Index.flush loaded modified row, ?_, ?_⟩
        · refine (Table.get_update _ _ _ _ (Index.id_flush loaded modified)).trans ?_
          rw [if_pos here, found]
          rfl
        · rw [status_flush]
          rcases spared loaded modified rfl here.symm with same | drops
          · rw [if_pos same, dropped]
          · split
            · exact dropped
            · exact drops
    | delete gone => exact absurd (congrArg Statement.delete hit).symm kept
    | insert new =>
        obtain ⟨-, table, added, rfl⟩ := IndexService.insertIndex_eq_some applied
        have member := Table.mem_of_get found
        exact absurd ((Table.key_of_get found).trans hit)
          ((Table.insert?_eq_some added).2 row member)
  · exact ⟨row, (get_apply applied hit).trans found, dropped⟩

theorem dropped_foldlM {statements : List Statement} {db after : Database} {id : Nat} {row : Index}
    (applied : statements.foldlM apply db = some after)
    (found : db.vectorIndex.get id = some row) (dropped : row.status = .dropped)
    (kept : .delete id ∉ statements)
    (spared : ∀ loaded modified, .update loaded modified ∈ statements → loaded.id = id →
      modified.status = loaded.status ∨ modified.status = .dropped) :
    ∃ later, after.vectorIndex.get id = some later ∧ later.status = .dropped := by
  induction statements generalizing db row with
  | nil =>
      obtain rfl := Option.some.inj applied
      exact ⟨row, found, dropped⟩
  | cons statement rest ih =>
      rw [List.foldlM_cons, Option.bind_eq_bind, Option.bind_eq_some_iff] at applied
      obtain ⟨next, first, later⟩ := applied
      obtain ⟨middle, foundNext, droppedNext⟩ := dropped_apply first found dropped
        (fun same => kept (same ▸ List.mem_cons_self))
        fun loaded modified same => spared loaded modified (same ▸ List.mem_cons_self)
      exact ih later foundNext droppedNext
        (fun member => kept (List.mem_cons_of_mem _ member))
        fun loaded modified member => spared loaded modified (List.mem_cons_of_mem _ member)

end Statement

/-! ## What a step can do -/

/-- The row that a call inserts is not the one it deletes. -/
def Call.Renews : Call → Prop
  | .create (some existing) row => row.id ≠ existing.id
  | _ => True

/-- The session has issued nothing. -/
def Session.Fresh (session : Session) : Prop :=
  ∀ call issued, session = .writing call issued → issued = 0 ∧ call.Renews

/-- The ways a step changes the world. -/
inductive Move (s : World) : Action → World → Prop
  | read {a : Action} (i : Nat) {session : Session} (fresh : session.Fresh) :
      Move s a (s.set i session)
  | issued (i : Nat) {call : Call} {issued : Nat} {statement : Statement}
      (writing : s.session i = .writing call issued)
      (next : call.statements[issued]? = some statement)
      (free : s.lock.openTo i statement.target = true) :
      Move s (.issue i)
        ({ s with lock := s.lock.acquire i [statement.target] }.set i (.writing call (issued + 1)))
  | committed (i : Nat) {call : Call} {after : Database}
      (writing : s.session i = .writing call call.statements.length)
      (applied : call.statements.foldlM Statement.apply s.db = some after) :
      Move s (.commit i) ({ s with db := after }.leave i call.next)
  | left {a : Action} (i : Nat) : Move s a (s.leave i .idle)
  | elsewhere (others : Database) :
      Move s (.elsewhere others) { s with db := { others with vectorIndex := s.db.vectorIndex } }

theorem fresh_of_zero {call : Call} (renews : call.Renews) : (Session.writing call 0).Fresh := by
  intro other issued same
  cases same
  exact ⟨rfl, renews⟩

theorem fresh_idle : Session.idle.Fresh := by
  intro call issued same
  cases same

theorem fresh_next (call : Call) : call.next.Fresh := by
  intro other issued same
  cases call <;> cases same

theorem fresh_beginCreate {db : Database} {newId : Nat}
    (unused : db.vectorIndex.get newId = none) (principal : Option TenantPrincipal)
    (args : IndexService.Creation) : (beginCreate db principal newId args).Fresh := by
  unfold beginCreate
  split
  · exact fresh_idle
  · refine fresh_of_zero ?_
    split
    · cases replaced : IndexService.maybeGetIndex args.datasetUuid args.indexName db with
      | none => trivial
      | some existing =>
          have member := (IndexService.maybeGetIndex_eq_some replaced).1
          exact fun hit => Table.get_eq_none.1 unused existing member hit.symm
    · trivial

theorem fresh_beginDrop (db : Database) (principal : Option TenantPrincipal)
    (datasetUuid indexName : String) : (beginDrop db principal datasetUuid indexName).Fresh := by
  unfold beginDrop
  split
  · exact fresh_idle
  · split
    · exact fresh_idle
    · exact fresh_of_zero trivial

theorem fresh_beginOptimize (db : Database) (principal : Option TenantPrincipal) (now : DateTime)
    (datasetUuid indexName : String) :
    (beginOptimize db principal now datasetUuid indexName).Fresh := by
  unfold beginOptimize
  split
  · exact fresh_idle
  · split
    · exact fresh_idle
    · exact fresh_of_zero trivial

theorem fresh_beginMerge (db : Database) (principal : Option TenantPrincipal) (now : DateTime)
    (datasetUuid indexName : String) :
    (beginMerge db principal now datasetUuid indexName).Fresh := by
  unfold beginMerge
  split
  · exact fresh_idle
  · split
    · exact fresh_idle
    · exact fresh_of_zero trivial

theorem fresh_beginWatch (db : Database) (fires : Index → Bool) (now : DateTime) :
    (beginWatch db fires now).Fresh := fresh_of_zero trivial

theorem fresh_beginBuild (db : Database) (taskUuid : String) (context : ExecutorContext) :
    (beginBuild db taskUuid context).Fresh := by
  unfold beginBuild
  split
  · exact fresh_idle
  · split
    · exact fresh_idle
    · split
      · exact fresh_idle
      · exact fresh_idle
      · exact fresh_of_zero trivial

theorem fresh_beginPromote (db : Database) (taskUuid : String) (now : DateTime)
    (seenVersion : Option Int) : (beginPromote db taskUuid now seenVersion).Fresh := by
  unfold beginPromote
  split
  · exact fresh_idle
  · exact fresh_of_zero trivial

theorem move_of_start {s t : World} {a : Action} {i : Nat} {session : Session}
    (fresh : session.Fresh) (started : s.start i session = some t) : Move s a t := by
  unfold World.start at started
  split at started
  · obtain rfl := Option.some.inj started
    exact .read i fresh
  · cases started

theorem move_of_step {s t : World} {a : Action} (stepped : step s a = some t) : Move s a t := by
  cases a with
  | create i principal newId args =>
      simp only [step] at stepped
      split at stepped
      · exact move_of_start (fresh_beginCreate ‹_› principal args) stepped
      · cases stepped
  | drop i principal datasetUuid indexName =>
      exact move_of_start (fresh_beginDrop s.db principal datasetUuid indexName) stepped
  | optimize i principal now datasetUuid indexName =>
      exact move_of_start (fresh_beginOptimize s.db principal now datasetUuid indexName) stepped
  | merge i principal now datasetUuid indexName =>
      exact move_of_start (fresh_beginMerge s.db principal now datasetUuid indexName) stepped
  | watch i fires now => exact move_of_start (fresh_beginWatch s.db fires now) stepped
  | build i taskUuid context =>
      exact move_of_start (fresh_beginBuild s.db taskUuid context) stepped
  | promote i taskUuid now seenVersion =>
      exact move_of_start (fresh_beginPromote s.db taskUuid now seenVersion) stepped
  | issue i =>
      simp only [step] at stepped
      split at stepped
      · rename_i call issued writing
        split at stepped
        · rename_i statement next
          split at stepped
          · rename_i free
            obtain rfl := Option.some.inj stepped
            exact .issued i writing next free
          · cases stepped
        · cases stepped
      · cases stepped
  | commit i =>
      simp only [step] at stepped
      split at stepped
      · rename_i call issued writing
        split at stepped
        · rename_i whole
          subst whole
          split at stepped
          · rename_i after applied
            obtain rfl := Option.some.inj stepped
            exact .committed i writing applied
          · obtain rfl := Option.some.inj stepped
            exact .left i
        · cases stepped
      · cases stepped
  | refresh i =>
      simp only [step] at stepped
      split at stepped
      · split at stepped
        · obtain rfl := Option.some.inj stepped
          exact .read i fun call issued same => by cases same
        · obtain rfl := Option.some.inj stepped
          exact .read i fresh_idle
      · cases stepped
  | submissionRaised i cause =>
      simp only [step] at stepped
      split at stepped
      · obtain rfl := Option.some.inj stepped
        exact .read i (fresh_of_zero trivial)
      · cases stepped
  | close i =>
      obtain rfl := Option.some.inj stepped
      exact .left i
  | elsewhere others =>
      obtain rfl := Option.some.inj stepped
      exact .elsewhere others

/-! ## From the UPDATE to the commit -/

/-- A session holds the row of every statement it issued, and the row is one that the
statement spares. -/
structure Settled (s : World) : Prop where
  issued : ∀ i call issued, s.session i = .writing call issued →
    ∀ statement ∈ call.statements.take issued,
      s.lock.Held i statement.target ∧ spares s.db call statement = true
  renews : ∀ i call issued, s.session i = .writing call issued → call.Renews

theorem settled_atRest (db : Database) : Settled (atRest db) := by
  constructor
  · intro i call issued writing
    cases writing
  · intro i call issued writing
    cases writing

/-- One session that is fresh after the step, and the others as they were. -/
theorem settled_of_fresh {s t : World} {i : Nat} {session : Session} (settled : Settled s)
    (sessions : t.session = Function.update s.session i session) (fresh : session.Fresh)
    (others : ∀ j call issued, j ≠ i → s.session j = .writing call issued →
      ∀ statement ∈ call.statements.take issued,
        s.lock.Held j statement.target → spares s.db call statement = true →
          t.lock.Held j statement.target ∧ spares t.db call statement = true) : Settled t where
  issued j call issued writing statement member := by
    rw [sessions] at writing
    by_cases here : j = i
    · subst here
      rw [Function.update_self] at writing
      rw [(fresh call issued writing).1] at member
      simp at member
    · rw [Function.update_of_ne here] at writing
      obtain ⟨held, spared⟩ := settled.issued j call issued writing statement member
      exact others j call issued here writing statement member held spared
  renews j call issued writing := by
    rw [sessions] at writing
    by_cases here : j = i
    · subst here
      rw [Function.update_self] at writing
      exact (fresh call issued writing).2
    · rw [Function.update_of_ne here] at writing
      exact settled.renews j call issued writing

/-- The statement that a session issues next. -/
theorem settled_issued {s : World} {i : Nat} {call : Call} {issued : Nat} {statement : Statement}
    (settled : Settled s) (writing : s.session i = .writing call issued)
    (next : call.statements[issued]? = some statement)
    (free : s.lock.openTo i statement.target = true) (spared : spares s.db call statement = true) :
    Settled ({ s with lock := s.lock.acquire i [statement.target] }.set i
      (.writing call (issued + 1))) where
  issued j other count isWriting earlier member := by
    by_cases here : j = i
    · subst here
      have same : Session.writing call (issued + 1) = .writing other count :=
        (Function.update_self ..).symm.trans isWriting
      obtain ⟨rfl, rfl⟩ := Session.writing.inj same
      rw [List.take_add_one, next, Option.toList_some, List.mem_append,
        List.mem_singleton] at member
      rcases member with old | rfl
      · obtain ⟨held, sparedOld⟩ := settled.issued j call issued writing earlier old
        exact ⟨held.acquire _, sparedOld⟩
      · exact ⟨RowLocks.held_acquire List.mem_cons_self, spared⟩
    · have before : s.session j = .writing other count :=
        (Function.update_of_ne here ..).symm.trans isWriting
      obtain ⟨held, sparedOther⟩ := settled.issued j other count before earlier member
      refine ⟨RowLocks.acquire_other here (fun row inRows => ?_) held, sparedOther⟩
      rw [List.mem_singleton.1 inRows]
      exact free
  renews j other count isWriting := by
    by_cases here : j = i
    · subst here
      have same : Session.writing call (issued + 1) = .writing other count :=
        (Function.update_self ..).symm.trans isWriting
      obtain ⟨rfl, -⟩ := Session.writing.inj same
      exact settled.renews j call issued writing
    · exact settled.renews j other count ((Function.update_of_ne here ..).symm.trans isWriting)

theorem settled_move {s t : World} {a : Action} (settled : Settled s)
    (guard : undisturbed s a = true) (move : Move s a t) : Settled t := by
  cases move with
  | read i fresh =>
      exact settled_of_fresh settled rfl fresh fun _ _ _ _ _ _ _ held spared => ⟨held, spared⟩
  | issued i writing next free =>
      refine settled_issued settled writing next free ?_
      simpa [undisturbed, writing, next] using guard
  | @committed i moved after isWriting applied =>
      refine settled_of_fresh settled rfl (fresh_next moved)
        fun j call issued here writing statement member held spared => ?_
      refine ⟨RowLocks.release_other here held, ?_⟩
      -- The committing session held its own rows, so this one is not among them.
      have apart : ∀ other ∈ moved.statements, statement.target ≠ other.target := by
        intro other inMoved same
        have mine := (settled.issued i moved _ isWriting other (by simpa using inMoved)).1
        rw [← same] at mine
        exact here (held.unique mine)
      show spares after call statement = true
      rw [spares_congr (Statement.get_foldlM applied apart)]
      exact spared
  | left i =>
      exact settled_of_fresh settled rfl fresh_idle fun _ _ _ here _ _ _ held spared =>
        ⟨RowLocks.release_other here held, spared⟩
  | elsewhere others =>
      refine ⟨fun j call issued writing statement member => ?_, settled.renews⟩
      obtain ⟨held, spared⟩ := settled.issued j call issued writing statement member
      exact ⟨held, (spares_congr rfl).trans spared⟩

/-! ## Commits -/

/-- The call deletes a row only as a `create_index` that replaces it. -/
theorem create_of_delete {call : Call} {id : Nat} (deletes : .delete id ∈ call.statements) :
    ∃ existing row, call = .create (some existing) row ∧ existing.id = id := by
  cases call with
  | create existing row =>
      cases existing with
      | none => simp [Call.statements] at deletes
      | some index =>
          have same : id = index.id := by simpa [Call.statements] using deletes
          exact ⟨index, row, rfl, same.symm⟩
  | giveUp | drop | optimize | merge | build => simp [Call.statements] at deletes
  | watch | promote => simp [Call.statements] at deletes

/-- A replaced row is gone. -/
theorem get_replaced {existing row : Index} {db after : Database}
    (renews : (Call.create (some existing) row).Renews)
    (applied : (Call.create (some existing) row).statements.foldlM Statement.apply db =
      some after) : after.vectorIndex.get existing.id = none := by
  have inserted : IndexService.insertIndex row { db with
      vectorIndex := db.vectorIndex.delete fun index => index.id = existing.id } = some after := by
    simpa [Call.statements, Statement.apply] using applied
  have other : existing.id ≠ row.id := fun same => renews same.symm
  obtain ⟨-, table, added, rfl⟩ := IndexService.insertIndex_eq_some inserted
  rw [Table.get_insert?_of_ne added other]
  refine Table.get_eq_none.2 fun index member same => ?_
  have kept := (Table.mem_delete.1 member).2
  simp [same] at kept

theorem terminal_of_same {s t : World} {a : Action}
    (same : t.db.vectorIndex = s.db.vectorIndex) : Terminal s a t where
  dropped _ row found dropped := .inl ⟨row, same ▸ found, dropped⟩
  built _ _ row later found foundLater ready := by
    rw [same, found] at foundLater
    exact .inr (Option.some.inj foundLater ▸ ready)

/-- A commit of statements that spared their rows. -/
theorem terminal_commit {s : World} {i : Nat} {call : Call} {after : Database}
    (settled : Settled s) (writing : s.session i = .writing call call.statements.length)
    (applied : call.statements.foldlM Statement.apply s.db = some after) :
    Terminal s (.commit i) ({ s with db := after }.leave i call.next) where
  dropped id row found dropped := by
    by_cases deletes : .delete id ∈ call.statements
    · obtain ⟨existing, new, rfl, same⟩ := create_of_delete deletes
      refine .inr ⟨⟨i, existing, new, _, rfl, writing, same⟩, ?_⟩
      exact same ▸ get_replaced (settled.renews i _ _ writing) applied
    · refine .inl (Statement.dropped_foldlM applied found dropped deletes
        fun loaded modified member same => ?_)
      have spared :=
        (settled.issued i call _ writing (.update loaded modified) (by simpa using member)).2
      exact (spares_update.1 spared row (same ▸ found)).1 dropped
  built := by
    rintro ⟨j, copy, now, issued, act, isWriting⟩ id row later found foundLater ready
    obtain rfl := Action.commit.inj act
    obtain ⟨rfl, -⟩ := Session.writing.inj (writing.symm.trans isWriting)
    have spared := (settled.issued i _ _ writing
      (.update copy (IndexBuildExecutor.promote now copy)) (by simp [Call.statements])).2
    obtain rfl := Option.some.inj applied
    have rows : (IndexService.updateIndex copy.id
        (Index.flush copy (IndexBuildExecutor.promote now copy)) (Index.id_flush _ _)
        s.db).vectorIndex.get id = some later := foundLater
    rw [IndexService.updateIndex, Table.get_update, found] at rows
    split at rows
    · rename_i here
      obtain rfl := Option.some.inj rows
      rcases (spares_update.1 spared row (here ▸ found)).2 rfl with loaded | building | isReady
      · have unwritten : (IndexBuildExecutor.promote now copy).status = copy.status := loaded.symm
        rw [Statement.status_flush, if_pos unwritten] at ready
        exact .inr ready
      · exact .inl building
      · exact .inr isReady
    · obtain rfl := Option.some.inj rows
      exact .inr ready

theorem terminal_move {s t : World} {a : Action} (settled : Settled s) (move : Move s a t) :
    Terminal s a t := by
  cases move with
  | read i fresh => exact terminal_of_same rfl
  | issued i writing next free => exact terminal_of_same rfl
  | committed i writing applied => exact terminal_commit settled writing applied
  | left i => exact terminal_of_same rfl
  | elsewhere others => exact terminal_of_same rfl

/-- **DROPPED is terminal** in every run in which each UPDATE of a status, `drop_index`'s
apart, finds its row in another state, and INDEX_BUILD's finds it in BUILDING or READY. -/
theorem dropped_terminal {db : Database} {actions : List Action}
    (guarded : indexRows.Guarded (fun s a => undisturbed s a = true) (atRest db) actions) :
    indexRows.Along Terminal (atRest db) actions := by
  refine Machine.along_of_inv (fun s a t settled guard stepped => ?_) (settled_atRest db) guarded
  have move := move_of_step stepped
  exact ⟨settled_move settled guard move, terminal_move settled move⟩

section Examples

/-- A dataset with an index in a status and the RUNNING task of its last request. -/
def oneIndex (status : IndexStatus) (taskType : TaskType) : Database where
  dataset :=
    .single
      { datasetUuid := "d1", catalog := "lake", dbSchema := "acme", tableName := "events",
        storageUri := "s3://acme/events", tenantId := "acme" }
  vectorIndex :=
    .single
      { id := 1, datasetUuid := "d1", indexName := "emb_idx", columnName := "emb",
        indexType := "IVF_PQ", status }
  task :=
    .single
      { taskUuid := "t1", taskType, datasetUuid := "d1", tenantId := "acme", status := .running,
        attempt := 1, workerId := some "w1", createdAt := 0,
        params := some [("index_name", .str "emb_idx"), ("column_name", .str "emb"),
        ("index_type", .str "IVF_PQ")] }
  lifecyclePolicy :=
    .single
      { id := 1, datasetUuid := "d1", policyName := "default", indexWatchEnabled := true }

/-- A whole `drop_index` in session 0. -/
def dropping : List Action := [.drop 0 acmeSdk "d1" "emb_idx", .issue 0, .commit 0]

/-- A row that was DROPPED is there with another status. -/
def revives (s t : World) : Bool :=
  s.db.vectorIndex.rows.any fun row => decide (row.status = .dropped) &&
    (t.db.vectorIndex.get row.id).any fun later => decide (later.status ≠ .dropped)

theorem Terminal.revives_eq_false {s t : World} {a : Action} (terminal : Terminal s a t) :
    revives s t = false := by
  refine Bool.eq_false_iff.2 fun revived => ?_
  obtain ⟨row, member, holds⟩ := List.any_eq_true.1 revived
  obtain ⟨dropped, later, found, moved⟩ : row.status = .dropped ∧ ∃ later,
      t.db.vectorIndex.get row.id = some later ∧ later.status ≠ .dropped := by
    simpa [Option.any_eq_true] using holds
  rcases terminal.dropped row.id row (Table.get_of_mem member) dropped with
    ⟨still, same, stays⟩ | ⟨-, gone⟩
  · rw [found] at same
    exact moved (Option.some.inj same ▸ stays)
  · rw [found] at gone
    cases gone

theorem not_terminal_of_revives {s : World} {actions : List Action}
    (revived : ¬ indexRows.Along (fun s _ t => revives s t = false) s actions) :
    ¬ indexRows.Along Terminal s actions :=
  fun along => revived (along.mono fun _ _ _ terminal => terminal.revives_eq_false)

/-- INDEX_BUILD, the watcher, INDEX_OPTIMIZE and a failed submission each take a row out of
DROPPED. -/
theorem dropped_index_revived :
    ¬ indexRows.Along Terminal (atRest (oneIndex .building .indexBuild))
        (dropping ++ [.build 1 "t1" { now := 5 }, .issue 1, .commit 1]) ∧
      ¬ indexRows.Along Terminal (atRest (oneIndex .ready .indexOptimize))
        ([.watch 1 (fun _ => true) 5] ++ dropping ++ [.issue 1, .commit 1]) ∧
      ¬ indexRows.Along Terminal (atRest (oneIndex .optimizing .indexOptimize))
        ([.promote 1 "t1" 5 none] ++ dropping ++ [.issue 1, .commit 1]) ∧
      ¬ indexRows.Along Terminal (atRest (oneIndex .ready .indexOptimize))
        ([.optimize 1 acmeSdk 5 "d1" "emb_idx", .issue 1, .commit 1, .refresh 1] ++ dropping ++
          [.submissionRaised 1 "boom", .issue 1, .commit 1]) := by
  refine ⟨not_terminal_of_revives ?_, not_terminal_of_revives ?_, not_terminal_of_revives ?_,
    not_terminal_of_revives ?_⟩ <;> decide +kernel

/-- A build, an optimize and its promotion, a drop, and a replacement that is built. -/
theorem dropped_terminal_in_turn :
    indexRows.Along Terminal (atRest (oneIndex .building .indexBuild))
      ([.build 1 "t1" { now := 5 }, .issue 1, .commit 1,
        .optimize 1 acmeSdk 6 "d1" "emb_idx", .issue 1, .commit 1, .refresh 1, .close 1] ++
        dropping ++
        [.create 2 acmeSdk 2
            { datasetUuid := "d1", indexName := "emb_idx", columnName := "emb",
              indexType := "IVF_PQ", replaceIfExists := true },
          .issue 2, .issue 2, .commit 2, .refresh 2, .close 2,
          .build 1 "t1" { now := 7 }, .issue 1, .commit 1]) :=
  dropped_terminal (by decide +kernel)

end Examples

end Lcp.IndexRows
