/-
# Services.IndexWatcherPass -- what one watch pass does to the rows

Candidates may share an index, when several policies watch one dataset; the
second one then sees what the first one wrote.  For the datasets that one policy
watches, the rows a pass starts from decide everything: `Swept` says which
candidates are emitted, which index rows are flipped and which keys are taken.
-/
import Lcp.Services.IndexWatcherService

namespace Lcp

open Theory Emission

set_option autoImplicit false

namespace IndexWatcherService

section Sweep

variable {Disk : Type} {lance : Pylance Disk} {now : DateTime} {disk : Disk}

/-- Candidates of the datasets in `owned` do not share an index. -/
def Apart (owned : String → Bool) (candidates : List Candidate) : Prop :=
  candidates.Pairwise fun a b => a.index.id = b.index.id →
    owned a.dataset.datasetUuid = false ∧ owned b.dataset.datasetUuid = false

/-- What a sweep over the candidates does, as far as the datasets in `owned` are
concerned: which candidates are due is decided by the rows it starts from. -/
structure Swept (lance : Pylance Disk) (now : DateTime) (disk : Disk) (owned : String → Bool)
    (candidates : List Candidate) (db after : Database) : Prop where
  dataset : after.dataset = db.dataset
  lifecyclePolicy : after.lifecyclePolicy = db.lifecyclePolicy
  tasks : ∃ fresh, after.task.rows = db.task.rows ++ fresh ∧
    fresh.countP (fun task => owned task.datasetUuid) = candidates.countP fun candidate =>
      owned candidate.dataset.datasetUuid && due lance now disk db candidate
  index : ∀ id, (∀ candidate ∈ candidates, candidate.index.id = id →
      owned candidate.dataset.datasetUuid = true) →
    after.vectorIndex.get id =
      if ∃ candidate ∈ candidates, candidate.index.id = id ∧
          due lance now disk db candidate = true then
        (db.vectorIndex.get id).map (startOptimize now)
      else db.vectorIndex.get id
  parents : ∀ id, (after.vectorIndex.get id).map Index.datasetUuid =
    (db.vectorIndex.get id).map Index.datasetUuid
  keys : ∀ id version reason, (∀ candidate ∈ candidates, candidate.index.id = id →
      lance.latestVersion disk candidate.dataset.storageUri ≠ .ok version) →
    taken (triggerKey id version reason) after = taken (triggerKey id version reason) db

theorem Swept.nil {owned : String → Bool} {db : Database} :
    Swept lance now disk owned [] db db where
  dataset := rfl
  lifecyclePolicy := rfl
  tasks := ⟨[], by simp, rfl⟩
  index id _ := by simp
  parents _ := rfl
  keys _ _ _ _ := rfl

/-- A first candidate that is not due. -/
theorem Swept.skip {owned : String → Bool} {candidate : Candidate} {rest : List Candidate}
    {db after : Database} (idle : due lance now disk db candidate = false)
    (swept : Swept lance now disk owned rest db after) :
    Swept lance now disk owned (candidate :: rest) db after where
  dataset := swept.dataset
  lifecyclePolicy := swept.lifecyclePolicy
  tasks := by
    obtain ⟨fresh, rows, count⟩ := swept.tasks
    exact ⟨fresh, rows, by rw [count, List.countP_cons]; simp [idle]⟩
  index id ours := by
    rw [swept.index id fun other member => ours other (List.mem_cons_of_mem _ member)]
    simp [idle]
  parents := swept.parents
  keys id version reason others :=
    swept.keys id version reason fun other member => others other (List.mem_cons_of_mem _ member)

/-- A first candidate that is emitted. -/
theorem Swept.emit {owned : String → Bool} {candidate : Candidate} {rest : List Candidate}
    {reason : TriggerReason} {version : Nat} {taskUuid : String} {db next after : Database}
    (apart : Apart owned (candidate :: rest))
    (fired : signal lance now disk candidate.dataset candidate.policy (candidate.row db) =
      some (reason, version))
    (isDue : due lance now disk db candidate = true)
    (emitted : Emitted now candidate (triggerKey candidate.index.id version reason) taskUuid db
      next)
    (swept : Swept lance now disk owned rest next after) :
    Swept lance now disk owned (candidate :: rest) db after := by
  have headApart := (List.pairwise_cons.1 apart).1
  have sameDue : ∀ other ∈ rest, other.index.id ≠ candidate.index.id →
      due lance now disk next other = due lance now disk db other :=
    fun other _ differ => emitted.due_eq differ
  have others : ∀ key, key ≠ triggerKey candidate.index.id version reason →
      taken key next = taken key db := fun key differ => emitted.taken_eq differ
  obtain ⟨task, owner, -, -, rowsNext⟩ := emitted.appended
  refine ⟨swept.dataset.trans emitted.dataset,
    swept.lifecyclePolicy.trans emitted.lifecyclePolicy, ?_, ?_, ?_, ?_⟩
  · obtain ⟨fresh, rows, count⟩ := swept.tasks
    refine ⟨task :: fresh, by rw [rows, rowsNext]; simp, ?_⟩
    have tail : rest.countP (fun other =>
          owned other.dataset.datasetUuid && due lance now disk next other) =
        rest.countP fun other =>
          owned other.dataset.datasetUuid && due lance now disk db other := by
      refine List.countP_congr fun other member => ?_
      by_cases same : other.index.id = candidate.index.id
      · simp [(headApart other member same.symm).2]
      · rw [sameDue other member same]
    rw [List.countP_cons, List.countP_cons, count, tail, owner.1]
    simp [isDue]
  · intro id ours
    have restOurs : ∀ other ∈ rest, other.index.id = id →
        owned other.dataset.datasetUuid = true :=
      fun other member => ours other (List.mem_cons_of_mem _ member)
    rw [swept.index id restOurs, emitted.get_vectorIndex]
    by_cases here : id = candidate.index.id
    · have alone : ¬ ∃ other ∈ rest, other.index.id = id ∧
          due lance now disk next other = true := by
        rintro ⟨other, member, same, -⟩
        have outside := (headApart other member (here.symm.trans same.symm)).2
        simp [restOurs other member same] at outside
      rw [if_neg alone, if_pos here, if_pos]
      exact ⟨candidate, List.mem_cons_self, here.symm, isDue⟩
    · rw [if_neg here]
      have iff_ : (∃ other ∈ rest, other.index.id = id ∧
            due lance now disk next other = true) ↔
          ∃ other ∈ candidate :: rest, other.index.id = id ∧
            due lance now disk db other = true := by
        constructor
        · rintro ⟨other, member, same, ready⟩
          exact ⟨other, List.mem_cons_of_mem _ member, same,
            sameDue other member (same ▸ here) ▸ ready⟩
        · rintro ⟨other, member, same, ready⟩
          rcases List.mem_cons.1 member with rfl | later
          · exact absurd same.symm here
          · exact ⟨other, later, same, (sameDue other later (same ▸ here)).symm ▸ ready⟩
      simp only [iff_]
  · intro id
    rw [swept.parents id]
    exact emitted.map_vectorIndex _ (fun _ => rfl) id
  · intro id version' reason' elsewhere
    rw [swept.keys id version' reason' fun other member =>
      elsewhere other (List.mem_cons_of_mem _ member)]
    refine others _ fun same => ?_
    obtain ⟨sameId, rfl⟩ := triggerKey_inj same
    exact elsewhere candidate List.mem_cons_self sameId.symm (latestVersion_of_signal fired)

/-- A sweep of the loop body over candidates that are apart. -/
theorem swept_of_foldlM {draw : Nat → String} {owned : String → Bool}
    {candidates : List Candidate} {watch after : Watch} (apart : Apart owned candidates)
    (ran : candidates.foldlM (watchCandidate lance draw now disk) watch = .ok after) :
    Swept lance now disk owned candidates watch.tick.db after.tick.db := by
  induction candidates generalizing watch with
  | nil =>
      cases ran
      exact .nil
  | cons candidate rest ih =>
      obtain ⟨next, first, later⟩ := foldlM_cons_ok ran
      have swept := ih (List.pairwise_cons.1 apart).2 later
      obtain ⟨idle, same⟩ | ⟨reason, version, fired, isDue, -, emitted⟩ :=
        watchCandidate_cases first
      · exact .skip idle (same ▸ swept)
      · exact .emit apart fired isDue emitted swept

/-- What every emission for a candidate keeps, a sweep keeps. -/
theorem keeps_of_foldlM {held : Database → Prop} {draw : Nat → String}
    {candidates : List Candidate} {watch after : Watch}
    (emits : ∀ candidate ∈ candidates, ∀ {key taskUuid db next}, held db →
      candidate.dataset ∈ db.dataset.rows → due lance now disk db candidate = true →
        Emitted now candidate key taskUuid db next → held next)
    (before : held watch.tick.db)
    (parents : ∀ candidate ∈ candidates, candidate.dataset ∈ watch.tick.db.dataset.rows)
    (ran : candidates.foldlM (watchCandidate lance draw now disk) watch = .ok after) :
    held after.tick.db := by
  induction candidates generalizing watch with
  | nil =>
      cases ran
      exact before
  | cons candidate rest ih =>
      obtain ⟨next, first, later⟩ := foldlM_cons_ok ran
      have restEmits : ∀ other ∈ rest, ∀ {key taskUuid db next}, held db →
          other.dataset ∈ db.dataset.rows → due lance now disk db other = true →
            Emitted now other key taskUuid db next → held next :=
        fun other member => emits other (List.mem_cons_of_mem _ member)
      obtain ⟨-, same⟩ | ⟨reason, version, -, isDue, -, emitted⟩ := watchCandidate_cases first
      · refine ih restEmits (same ▸ before) (fun other member => ?_) later
        rw [same]
        exact parents other (List.mem_cons_of_mem _ member)
      · have kept := emits candidate List.mem_cons_self before
          (parents candidate List.mem_cons_self) isDue emitted
        refine ih restEmits kept (fun other member => ?_) later
        rw [emitted.dataset]
        exact parents other (List.mem_cons_of_mem _ member)

/-! ## Candidates -/

theorem fetchCandidates_perm (db : Database) :
    (fetchCandidates db).Perm
      ((db.vectorIndex.rows.filter fun index => index.status = .ready).flatMap (joined db)) := by
  unfold fetchCandidates
  exact List.perm_insertionSort _ _

theorem mem_fetchCandidates {db : Database} {candidate : Candidate} :
    candidate ∈ fetchCandidates db ↔
      candidate.index ∈ db.vectorIndex.rows ∧ candidate.index.status = .ready ∧
        db.dataset.get candidate.index.datasetUuid = some candidate.dataset ∧
        candidate.policy ∈ db.lifecyclePolicy.rows ∧
        watches candidate.dataset candidate.policy = true := by
  rw [(fetchCandidates_perm db).mem_iff, List.mem_flatMap]
  constructor
  · rintro ⟨index, member, inJoin⟩
    obtain ⟨inRows, ready⟩ := List.mem_filter.1 member
    unfold joined at inJoin
    split at inJoin
    · simp at inJoin
    · rename_i dataset found
      obtain ⟨policy, watching, rfl⟩ := List.mem_map.1 inJoin
      obtain ⟨inPolicies, watched⟩ := List.mem_filter.1 watching
      exact ⟨inRows, by simpa using ready, found, inPolicies, watched⟩
  · rintro ⟨inRows, ready, found, inPolicies, watched⟩
    refine ⟨candidate.index, List.mem_filter.2 ⟨inRows, by simpa using ready⟩, ?_⟩
    simp only [joined, found]
    exact List.mem_map.2 ⟨candidate.policy, List.mem_filter.2 ⟨inPolicies, watched⟩, rfl⟩

theorem datasetUuid_of_mem {db : Database} {candidate : Candidate}
    (member : candidate ∈ fetchCandidates db) :
    candidate.dataset.datasetUuid = candidate.index.datasetUuid :=
  Table.key_of_get (mem_fetchCandidates.1 member).2.2.1

/-- Every dataset in `owned` is watched by at most one policy. -/
def WatchedOnce (owned : String → Bool) (db : Database) : Prop :=
  ∀ dataset ∈ db.dataset.rows, owned dataset.datasetUuid = true →
    (db.lifecyclePolicy.rows.filter (watches dataset)).length ≤ 1

theorem fetchCandidates_apart {owned : String → Bool} {db : Database}
    (once : WatchedOnce owned db) : Apart owned (fetchCandidates db) := by
  have symmetric : ∀ {a b : Candidate},
      (a.index.id = b.index.id →
        owned a.dataset.datasetUuid = false ∧ owned b.dataset.datasetUuid = false) →
      b.index.id = a.index.id →
        owned b.dataset.datasetUuid = false ∧ owned a.dataset.datasetUuid = false :=
    fun apart same => (apart same.symm).symm
  unfold Apart
  rw [(fetchCandidates_perm db).pairwise_iff symmetric]
  have indexOf : ∀ {index : Index} {candidate : Candidate}, candidate ∈ joined db index →
      candidate.index = index := by
    intro index candidate member
    unfold joined at member
    split at member
    · simp at member
    · obtain ⟨policy, -, rfl⟩ := List.mem_map.1 member
      rfl
  refine List.pairwise_flatMap.2 ⟨fun index _ => ?_, ?_⟩
  · unfold joined
    split
    · exact .nil
    · rename_i dataset found
      cases ours : owned dataset.datasetUuid with
      | false => exact List.pairwise_map.2 (List.pairwise_of_forall fun _ _ _ => ⟨ours, ours⟩)
      | true =>
          have few := once dataset (Table.mem_of_get found) ours
          generalize db.lifecyclePolicy.rows.filter (watches dataset) = policies at few ⊢
          rcases policies with _ | ⟨policy, _ | ⟨other, rest⟩⟩
          · exact .nil
          · exact List.pairwise_singleton _ _
          · simp at few
  · have ids : (db.vectorIndex.rows.filter fun index => index.status = .ready).Pairwise
        fun a b => a.id ≠ b.id :=
      (List.pairwise_map.1 db.vectorIndex.nodup).filter _
    refine ids.imp fun {a b} differ c inA d inB same => ?_
    rw [indexOf inA, indexOf inB] at same
    exact absurd same differ

/-! ## The pass -/

/-- What `uuid4` promises a pass: draws that repeat neither each other nor a row. -/
structure FreshDraws (draw : Nat → String) (db : Database) : Prop where
  injective : ∀ m n, draw m = draw n → m = n
  unused : ∀ n, draw n ∉ db.task.keys

theorem foldlM_ok {draw : Nat → String} {candidates : List Candidate} {watch : Watch}
    (injective : ∀ m n, draw m = draw n → m = n)
    (unused : ∀ n, watch.tick.drawn ≤ n → draw n ∉ watch.tick.db.task.keys) :
    ∃ after, candidates.foldlM (watchCandidate lance draw now disk) watch = .ok after := by
  induction candidates generalizing watch with
  | nil => exact ⟨watch, rfl⟩
  | cons candidate rest ih =>
      obtain ⟨next, first⟩ : ∃ next,
          watchCandidate lance draw now disk watch candidate = .ok next :=
        watchCandidate_ok (unused watch.tick.drawn (Nat.le_refl _))
      have unusedNext : ∀ n, next.tick.drawn ≤ n → draw n ∉ next.tick.db.task.keys := by
        intro n above
        obtain ⟨-, same⟩ | ⟨reason, version, -, -, drawn, emitted⟩ := watchCandidate_cases first
        · rw [same] at above ⊢
          exact unused n above
        · rw [emitted.keys, List.mem_append, List.mem_singleton]
          rintro (old | repeated)
          · exact unused n (by omega) old
          · have := injective _ _ repeated
            omega
      obtain ⟨after, later⟩ := ih unusedNext
      exact ⟨after, by rw [List.foldlM_cons, first]; exact later⟩

/-- Under the system principal and with fresh draws, a pass returns. -/
theorem runWatchPass_ok {draw : Nat → String} {principal : Option TenantPrincipal}
    {db : Database} (system : requireSystemContext principal = true)
    (fresh : FreshDraws draw db) :
    ∃ answer, runWatchPass lance draw now principal db disk = .ok answer := by
  obtain ⟨after, ran⟩ : ∃ after, (fetchCandidates db).foldlM
      (watchCandidate lance draw now disk) { tick := { db } } = .ok after :=
    foldlM_ok fresh.injective fun n _ => fresh.unused n
  exact ⟨(after.report, after.tick.db), by
    simp [runWatchPass, system, ran, bind, Except.bind, pure, Except.pure]⟩

theorem runWatchPass_eq_ok {draw : Nat → String} {principal : Option TenantPrincipal}
    {db after : Database} {report : WatchPassReport}
    (ran : runWatchPass lance draw now principal db disk = .ok (report, after)) :
    requireSystemContext principal = true ∧ ∃ watch,
      (fetchCandidates db).foldlM (watchCandidate lance draw now disk) { tick := { db } } =
        .ok watch ∧ watch.tick.db = after ∧ watch.report = report := by
  unfold runWatchPass at ran
  split at ran
  · cases ran
  · rename_i system
    refine ⟨by simpa using system, ?_⟩
    obtain ⟨watch, swept, ran⟩ := bind_eq_ok ran
    simp only [pure, Except.pure, Except.ok.injEq, Prod.mk.injEq] at ran
    exact ⟨watch, swept, ran.2, ran.1⟩

/-- **What every emission keeps, a watch pass keeps.** -/
theorem runWatchPass_keeps {held : Database → Prop} {draw : Nat → String}
    {principal : Option TenantPrincipal} {db after : Database} {report : WatchPassReport}
    (emits : ∀ candidate ∈ fetchCandidates db, ∀ {key taskUuid before next}, held before →
      candidate.dataset ∈ before.dataset.rows → due lance now disk before candidate = true →
        Emitted now candidate key taskUuid before next → held next)
    (before : held db)
    (ran : runWatchPass lance draw now principal db disk = .ok (report, after)) : held after := by
  obtain ⟨-, watch, looped, rfl, -⟩ := runWatchPass_eq_ok ran
  exact keeps_of_foldlM emits before
    (fun candidate member => Table.mem_of_get (mem_fetchCandidates.1 member).2.2.1) looped

/-- The rows that a sweep appends are INDEX_OPTIMIZE tasks, one for each key of its report. -/
theorem reported_of_foldlM {draw : Nat → String} {candidates : List Candidate}
    {watch after : Watch}
    (ran : candidates.foldlM (watchCandidate lance draw now disk) watch = .ok after) :
    ∃ fresh keys, after.tick.db.task.rows = watch.tick.db.task.rows ++ fresh ∧
      after.report.emittedKeys = watch.report.emittedKeys ++ keys ∧
      fresh.map Task.idempotencyKey = keys.map some ∧
      ∀ task ∈ fresh, task.taskType = .indexOptimize := by
  induction candidates generalizing watch with
  | nil =>
      cases ran
      exact ⟨[], [], (List.append_nil _).symm, (List.append_nil _).symm, rfl, by simp⟩
  | cons candidate rest ih =>
      obtain ⟨next, first, later⟩ := foldlM_cons_ok ran
      obtain ⟨fresh, keys, rows, listed, keyed, types⟩ := ih later
      have report := watchCandidate_emittedKeys first
      unfold dueKeys at report
      obtain ⟨idle, same⟩ | ⟨reason, version, fired, isDue, -, emitted⟩ :=
        watchCandidate_cases first
      · rw [idle, if_neg Bool.false_ne_true, List.append_nil] at report
        exact ⟨fresh, keys, by rw [rows, same], by rw [listed, report], keyed, types⟩
      · obtain ⟨task, -, type, key, appended⟩ := emitted.appended
        rw [isDue, if_pos rfl, fired] at report
        refine ⟨task :: fresh, triggerKey candidate.index.id version reason :: keys, ?_, ?_, ?_, ?_⟩
        · rw [rows, appended, List.append_assoc]
          rfl
        · rw [listed, report, List.append_assoc]
          rfl
        · rw [List.map_cons, List.map_cons, key, keyed]
        · intro other member
          rcases List.mem_cons.1 member with rfl | inFresh
          · exact type
          · exact types other inFresh

/-- **A pass commits what it reports**: INDEX_OPTIMIZE tasks, one under each emitted key. -/
theorem runWatchPass_reported {draw : Nat → String} {principal : Option TenantPrincipal}
    {db after : Database} {report : WatchPassReport}
    (ran : runWatchPass lance draw now principal db disk = .ok (report, after)) :
    ∃ fresh, after.task.rows = db.task.rows ++ fresh ∧
      fresh.map Task.idempotencyKey = report.emittedKeys.map some ∧
      ∀ task ∈ fresh, task.taskType = .indexOptimize := by
  obtain ⟨-, watch, looped, rfl, rfl⟩ := runWatchPass_eq_ok ran
  obtain ⟨fresh, keys, rows, listed, keyed, types⟩ := reported_of_foldlM looped
  obtain rfl : watch.report.emittedKeys = keys := by simpa using listed
  exact ⟨fresh, rows, keyed, types⟩

/-- A candidate whose index is found on disk is not counted as missing. -/
theorem watchCandidate_found {draw : Nat → String} {watch after : Watch} {candidate : Candidate}
    {stats : IndexLiveStats}
    (read : LanceIo.readIndexStats lance disk candidate.dataset.storageUri
      (candidate.row watch.tick.db).indexName = .ok (some stats))
    (ran : watchCandidate lance draw now disk watch candidate = .ok after) :
    after.report.skippedNoDataset = watch.report.skippedNoDataset := by
  have sameRow : (watch.tick.db.vectorIndex.get candidate.index.id).getD candidate.index =
      candidate.row watch.tick.db := rfl
  simp only [watchCandidate, sameRow, read] at ran
  generalize decideTrigger stats.numUnindexedRows stats.latestVersion
    (candidate.row watch.tick.db).lastSeenVersion
    (candidate.row watch.tick.db).lastOptimizedAt now candidate.policy = decision at ran
  cases fired : decision.reason with
  | none =>
      simp only [fired] at ran
      cases ran
      rfl
  | some reason =>
      simp only [fired] at ran
      obtain ⟨answer, tried, ran⟩ := bind_eq_ok ran
      simp only [pure, Except.pure] at ran
      split at ran <;> cases ran <;> rfl

theorem foldlM_found {draw : Nat → String} {candidates : List Candidate} {watch after : Watch}
    (named : ∀ candidate ∈ candidates,
      (watch.tick.db.vectorIndex.get candidate.index.id).map Index.indexName =
        some candidate.index.indexName)
    (found : ∀ candidate ∈ candidates, ∃ stats, LanceIo.readIndexStats lance disk
      candidate.dataset.storageUri candidate.index.indexName = .ok (some stats))
    (ran : candidates.foldlM (watchCandidate lance draw now disk) watch = .ok after) :
    after.report.skippedNoDataset = watch.report.skippedNoDataset := by
  induction candidates generalizing watch with
  | nil =>
      cases ran
      rfl
  | cons candidate rest ih =>
      obtain ⟨next, first, later⟩ := foldlM_cons_ok ran
      obtain ⟨stats, read⟩ := found candidate List.mem_cons_self
      have name : (candidate.row watch.tick.db).indexName = candidate.index.indexName := by
        obtain ⟨row, got, same⟩ := Option.map_eq_some_iff.1 (named candidate List.mem_cons_self)
        rw [Candidate.row, got]
        exact same
      have kept : ∀ id, (next.tick.db.vectorIndex.get id).map Index.indexName =
          (watch.tick.db.vectorIndex.get id).map Index.indexName := by
        intro id
        obtain ⟨-, same⟩ | ⟨reason, version, -, -, -, emitted⟩ := watchCandidate_cases first
        · rw [same]
        · exact emitted.map_vectorIndex _ (fun _ => rfl) id
      rw [ih (fun other member => (kept _).trans (named other (List.mem_cons_of_mem _ member)))
        (fun other member => found other (List.mem_cons_of_mem _ member)) later]
      exact watchCandidate_found (name ▸ read) first

/-- A pass that finds every candidate's index on disk reports none as missing. -/
theorem runWatchPass_found {draw : Nat → String} {principal : Option TenantPrincipal}
    {db after : Database} {report : WatchPassReport}
    (found : ∀ candidate ∈ fetchCandidates db, ∃ stats, LanceIo.readIndexStats lance disk
      candidate.dataset.storageUri candidate.index.indexName = .ok (some stats))
    (ran : runWatchPass lance draw now principal db disk = .ok (report, after)) :
    report.skippedNoDataset = 0 := by
  obtain ⟨-, watch, looped, -, rfl⟩ := runWatchPass_eq_ok ran
  refine foldlM_found (fun candidate member => ?_) found looped
  rw [Table.get_of_mem (mem_fetchCandidates.1 member).1]
  rfl

/-- What a pass does for datasets that one policy watches. -/
theorem runWatchPass_swept {draw : Nat → String} {principal : Option TenantPrincipal}
    {owned : String → Bool} {db after : Database} {report : WatchPassReport}
    (once : WatchedOnce owned db)
    (ran : runWatchPass lance draw now principal db disk = .ok (report, after)) :
    Swept lance now disk owned (fetchCandidates db) db after := by
  obtain ⟨-, watch, looped, rfl, -⟩ := runWatchPass_eq_ok ran
  exact swept_of_foldlM (fetchCandidates_apart once) looped

theorem runWatchPass_stamped {draw : Nat → String} {principal : Option TenantPrincipal}
    {db after : Database} {report : WatchPassReport}
    (ran : runWatchPass lance draw now principal db disk = .ok (report, after)) :
    Stamped db after :=
  runWatchPass_keeps (fun _ _ _ _ _ _ held parent _ emitted =>
    held.trans (emitted.stamped parent)) (Stamped.refl db) ran

end Sweep

end IndexWatcherService

end Lcp
