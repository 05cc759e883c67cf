/-
# Invariants.OneTrigger -- how many tasks one watch pass emits for an index

The candidate query joins an index with every policy that watches its dataset, so an
index with two such policies comes up twice.  At its second candidate the row is already
OPTIMIZING, and the pass does not look at that: what could stop a second task is the key
alone, and the key ends with the reason.

* `triggersOf` -- the triggers a pass raises for an index, read off the rows it starts
  from; a pass emits one task for each (`Raised`).
* `agreeing` -- the policies of an index do not disagree about the reason.
* `one_trigger_iff` -- it is what one task for each index takes.
-/
import Mathlib.Data.List.Induction
import Lcp.Invariants.Producers
import Lcp.Services.IndexWatcherPass

namespace Lcp.OneTrigger

open Theory Emission IndexWatcherService Producers

set_option autoImplicit false

/-- A watcher task for the index: its key starts with `watcher:<index.id>:`. -/
def triggeredFor (indexId : Nat) (task : Task) : Bool :=
  task.idempotencyKey.any fun key =>
    ("watcher:" ++ toString indexId ++ ":").toList.isPrefixOf key.toList

/-- What the watcher raises for an index: the reason and the lance version. -/
abbrev Trigger := TriggerReason × Nat

section Rows

variable {Disk : Type} (lance : Pylance Disk) (now : DateTime) (disk : Disk) (db : Database)

/-- The trigger of a candidate whose index row reads as `row`, if its key is free. -/
def wanted (row : Index) (candidate : Candidate) : Option Trigger :=
  (signal lance now disk candidate.dataset candidate.policy row).filter
    fun (reason, version) => !taken (triggerKey candidate.index.id version reason) db

/-- The index row once these triggers are raised for it. -/
def rowAfter (raised : List Trigger) (index : Index) : Index :=
  if raised = [] then index else startOptimize now index

/-- One candidate more. -/
def raise (raised : List Trigger) (candidate : Candidate) : List Trigger :=
  match wanted lance now disk db (rowAfter now raised candidate.index) candidate with
  | none => raised
  | some trigger => if trigger ∈ raised then raised else raised ++ [trigger]

/-- The candidates of an index, one for each policy that watches its dataset. -/
def candidatesOf (indexId : Nat) : List Candidate :=
  (fetchCandidates db).filter fun candidate => candidate.index.id = indexId

/-- The triggers that a pass raises for an index. -/
def triggersOf (indexId : Nat) : List Trigger :=
  (candidatesOf db indexId).foldl (raise lance now disk db) []

/-- After the first candidate that raises a trigger, none raises another one. -/
def agreeing : List Candidate → Bool
  | [] => true
  | first :: rest =>
      match wanted lance now disk db first.index first with
      | none => agreeing rest
      | some trigger =>
          rest.all fun other =>
            (wanted lance now disk db (startOptimize now other.index) other).all (· = trigger)

end Rows

/-! ## Lists of triggers -/

section Triggers

variable {Disk : Type} (lance : Pylance Disk) (now : DateTime) (disk : Disk) (db : Database)

theorem raise_cases (raised : List Trigger) (candidate : Candidate) :
    raise lance now disk db raised candidate = raised ∨
      ∃ trigger, raise lance now disk db raised candidate = raised ++ [trigger] := by
  unfold raise
  split
  · exact .inl rfl
  · rename_i trigger _
    split
    · exact .inl rfl
    · exact .inr ⟨trigger, rfl⟩

theorem length_le_foldl_raise (candidates : List Candidate) (raised : List Trigger) :
    raised.length ≤ (candidates.foldl (raise lance now disk db) raised).length := by
  induction candidates generalizing raised with
  | nil => exact Nat.le_refl _
  | cons candidate rest ih =>
      refine Nat.le_trans ?_ (ih _)
      rcases raise_cases lance now disk db raised candidate with same | ⟨trigger, more⟩
      · rw [same]
      · rw [more, List.length_append]
        omega

variable {lance now disk db}

/-- The first trigger stays the only one just when the rest agrees with it. -/
theorem length_foldl_singleton (candidates : List Candidate) (trigger : Trigger) :
    (candidates.foldl (raise lance now disk db) [trigger]).length ≤ 1 ↔
      ∀ other ∈ candidates, ∀ again ∈ wanted lance now disk db (startOptimize now other.index)
        other, again = trigger := by
  induction candidates with
  | nil => simp
  | cons candidate rest ih =>
      have head : raise lance now disk db [trigger] candidate =
          match wanted lance now disk db (startOptimize now candidate.index) candidate with
          | none => [trigger]
          | some again => if again ∈ [trigger] then [trigger] else [trigger, again] := rfl
      rw [List.foldl_cons, List.forall_mem_cons, head]
      cases wants : wanted lance now disk db (startOptimize now candidate.index) candidate with
      | none => simpa using ih
      | some again =>
          by_cases same : again = trigger
          · subst same
            simpa using ih
          · have grown := length_le_foldl_raise lance now disk db rest [trigger, again]
            simp only [List.mem_singleton, same, if_false]
            constructor
            · intro few
              simp only [List.length_cons, List.length_nil] at grown
              omega
            · intro agree
              exact absurd (agree.1 again rfl) same

theorem length_foldl_raise (candidates : List Candidate) :
    (candidates.foldl (raise lance now disk db) []).length ≤ 1 ↔
      agreeing lance now disk db candidates = true := by
  induction candidates with
  | nil => simp [agreeing]
  | cons candidate rest ih =>
      have head : raise lance now disk db [] candidate =
          match wanted lance now disk db candidate.index candidate with
          | none => []
          | some trigger => if trigger ∈ [] then [] else [trigger] := rfl
      rw [List.foldl_cons, head, agreeing]
      cases wanted lance now disk db candidate.index candidate with
      | none => exact ih
      | some trigger =>
          simp only [List.not_mem_nil, if_false, length_foldl_singleton, List.all_eq_true,
            Option.all_eq_true, decide_eq_true_eq, Option.mem_def]

/-- Nothing is raised just when no candidate wants a trigger for the row as it is. -/
theorem foldl_raise_eq_nil (candidates : List Candidate) :
    candidates.foldl (raise lance now disk db) [] = [] ↔
      ∀ candidate ∈ candidates, wanted lance now disk db candidate.index candidate = none := by
  induction candidates with
  | nil => simp
  | cons candidate rest ih =>
      have head : raise lance now disk db [] candidate =
          match wanted lance now disk db candidate.index candidate with
          | none => []
          | some trigger => if trigger ∈ [] then [] else [trigger] := rfl
      rw [List.foldl_cons, List.forall_mem_cons, head]
      cases wanted lance now disk db candidate.index candidate with
      | none => simpa using ih
      | some trigger =>
          have grown := length_le_foldl_raise lance now disk db rest [trigger]
          refine iff_of_false (fun none_ => ?_) (fun both => by cases both.1)
          simp only [List.not_mem_nil, if_false] at none_
          rw [none_] at grown
          exact absurd grown (by simp)

/-- A list of triggers that has grown past one has grown at some candidate. -/
theorem exists_second {candidates : List Candidate}
    (two : ¬ (candidates.foldl (raise lance now disk db) []).length ≤ 1) :
    ∃ before candidate later, candidates = before ++ candidate :: later ∧
      before.foldl (raise lance now disk db) [] ≠ [] ∧
      raise lance now disk db (before.foldl (raise lance now disk db) []) candidate ≠
        before.foldl (raise lance now disk db) [] := by
  induction candidates using List.reverseRecOn with
  | nil => simp at two
  | append_singleton front last ih =>
      by_cases grown : (front.foldl (raise lance now disk db) []).length ≤ 1
      · refine ⟨front, last, [], rfl, ?_, ?_⟩
        · intro none_
          rw [List.foldl_append, none_] at two
          rcases raise_cases lance now disk db [] last with same | ⟨trigger, more⟩
          · simp [same] at two
          · simp [more] at two
        · intro same
          rw [List.foldl_append, List.foldl_cons, List.foldl_nil, same] at two
          exact two grown
      · obtain ⟨before, candidate, later, rfl, some_, more⟩ := ih grown
        exact ⟨before, candidate, later ++ [last], by simp, some_, more⟩

end Triggers

/-! ## The rows during a pass -/

theorem triggeredFor_triggerKey {task : Task} {indexId other version : Nat}
    {reason : TriggerReason}
    (keyed : task.idempotencyKey = some (triggerKey other version reason)) :
    triggeredFor indexId task = decide (other = indexId) := by
  have key : (triggerKey other version reason).toList = "watcher:".toList ++
      ((toString other).toList ++ ':' :: ("INDEX_OPTIMIZE:v" ++ toString version ++ ":" ++
        reason.toString).toList) := by
    simp [triggerKey, String.toList_append, List.append_assoc]
  have start : ("watcher:" ++ toString indexId ++ ":").toList =
      "watcher:".toList ++ ((toString indexId).toList ++ [':']) := by
    simp [String.toList_append]
  rw [triggeredFor, keyed, Option.any_some, Bool.eq_iff_iff, List.isPrefixOf_iff_prefix,
    decide_eq_true_iff, key, start, List.prefix_append_right_inj]
  constructor
  · rintro ⟨rest, same⟩
    rw [List.append_assoc] at same
    exact (KeyText.toString_append_inj ':' rfl same).1.symm
  · rintro rfl
    exact ⟨_, by rw [List.append_assoc]; rfl⟩

section Pass

variable {Disk : Type} {lance : Pylance Disk} {draw : Nat → String} {now : DateTime} {disk : Disk}
  {db : Database} {indexId : Nat}

/-- What the rows of a pass that started from `db` know of an index for which these triggers
are raised. -/
structure Raised (now : DateTime) (db : Database) (indexId : Nat) (raised : List Trigger)
    (current : Database) : Prop where
  row : current.vectorIndex.get indexId = (db.vectorIndex.get indexId).map (rowAfter now raised)
  keys : ∀ version reason, taken (triggerKey indexId version reason) current =
    (taken (triggerKey indexId version reason) db || decide ((reason, version) ∈ raised))
  tasks : current.task.count (triggeredFor indexId) =
    db.task.count (triggeredFor indexId) + raised.length

theorem Raised.start : Raised now db indexId [] db where
  row := by
    have same : rowAfter now [] = id := by
      funext index
      rfl
    rw [same, Option.map_id]
    rfl
  keys version reason := by simp
  tasks := rfl

/-- The candidate raises a trigger just when it is due. -/
theorem raise_of_due {raised : List Trigger} {current : Database} {candidate : Candidate}
    (held : Raised now db candidate.index.id raised current)
    (inRows : candidate.index ∈ db.vectorIndex.rows) :
    raise lance now disk db raised candidate =
      raised ++ if due lance now disk current candidate then
        (signal lance now disk candidate.dataset candidate.policy
          (candidate.row current)).toList else [] := by
  have row : candidate.row current = rowAfter now raised candidate.index := by
    rw [Candidate.row, held.row, Table.get_of_mem inRows]
    rfl
  unfold raise wanted due
  rw [row]
  cases signal lance now disk candidate.dataset candidate.policy
      (rowAfter now raised candidate.index) with
  | none => simp
  | some trigger =>
      obtain ⟨reason, version⟩ := trigger
      simp only [Option.any_some, held.keys, Option.filter_some, Option.toList_some]
      cases taken (triggerKey candidate.index.id version reason) db with
      | true => simp
      | false => by_cases listed : (reason, version) ∈ raised <;> simp [listed]

/-- An emission for another index leaves this one alone. -/
theorem Raised.other {raised : List Trigger} {current next : Database} {candidate : Candidate}
    {reason : TriggerReason} {version : Nat} {taskUuid : String}
    (held : Raised now db indexId raised current) (apart : candidate.index.id ≠ indexId)
    (emitted : Emitted now candidate (triggerKey candidate.index.id version reason) taskUuid
      current next) : Raised now db indexId raised next := by
  have keys : ∀ version' reason', taken (triggerKey indexId version' reason') next =
      taken (triggerKey indexId version' reason') current := fun version' reason' =>
    emitted.taken_eq fun same => apart (triggerKey_inj same).1.symm
  obtain ⟨task, table, -, -, -, keyed, inserted, rows⟩ := emitted.rows
  refine ⟨?_, fun version' reason' => ?_, ?_⟩
  · rw [emitted.get_vectorIndex, if_neg (Ne.symm apart), held.row]
  · rw [keys, held.keys]
  · rw [rows]
    show table.count _ = _
    rw [Table.count_insert? inserted, triggeredFor_triggerKey keyed, held.tasks]
    simp [apart]

/-- An emission for the index itself adds its trigger. -/
theorem Raised.add {raised : List Trigger} {current next : Database} {candidate : Candidate}
    {reason : TriggerReason} {version : Nat} {taskUuid : String}
    (held : Raised now db candidate.index.id raised current)
    (emitted : Emitted now candidate (triggerKey candidate.index.id version reason) taskUuid
      current next) :
    Raised now db candidate.index.id (raised ++ [(reason, version)]) next := by
  obtain ⟨task, table, -, -, -, keyed, inserted, rows⟩ := emitted.rows
  refine ⟨?_, fun version' reason' => ?_, ?_⟩
  · have flipped : rowAfter now (raised ++ [(reason, version)]) = startOptimize now := by
      funext index
      exact if_neg (by simp)
    rw [flipped, emitted.get_vectorIndex, if_pos rfl, held.row, Option.map_map]
    congr 1
    funext index
    show startOptimize now (rowAfter now raised index) = startOptimize now index
    unfold rowAfter
    split <;> rfl
  · by_cases same : (reason', version') = (reason, version)
    · cases same
      have holds : taken (triggerKey candidate.index.id version reason) next = true :=
        taken_iff.2 ⟨task, by rw [rows]; exact (Table.mem_insert? inserted).2 (.inr rfl), keyed⟩
      simp [holds]
    · have differ : triggerKey candidate.index.id version' reason' ≠
          triggerKey candidate.index.id version reason := by
        intro equal
        have slots := Slot.trigger_inj equal
        simp only [Slot.trigger.injEq, true_and] at slots
        exact same (by rw [slots.1, slots.2])
      rw [emitted.taken_eq differ, held.keys]
      simp only [Prod.mk.injEq] at same
      simp [same]
  · rw [rows]
    show table.count _ = _
    rw [Table.count_insert? inserted, triggeredFor_triggerKey keyed, held.tasks]
    simp [Nat.add_assoc]

/-- One candidate. -/
theorem Raised.step {raised : List Trigger} {watch next : Watch} {candidate : Candidate}
    (held : Raised now db indexId raised watch.tick.db)
    (inRows : candidate.index ∈ db.vectorIndex.rows)
    (ran : watchCandidate lance draw now disk watch candidate = .ok next) :
    Raised now db indexId (if candidate.index.id = indexId
      then raise lance now disk db raised candidate else raised) next.tick.db := by
  split
  · rename_i same
    subst same
    rw [raise_of_due held inRows]
    obtain ⟨idle, same⟩ | ⟨reason, version, fired, isDue, -, emitted⟩ := watchCandidate_cases ran
    · rw [idle, same]
      simpa using held
    · rw [isDue, fired]
      exact held.add emitted
  · rename_i apart
    obtain ⟨-, same⟩ | ⟨reason, version, -, -, -, emitted⟩ := watchCandidate_cases ran
    · exact same ▸ held
    · exact held.other apart emitted

/-- The candidates of a pass, up to any of them. -/
theorem Raised.run {candidates : List Candidate} {raised : List Trigger} {watch after : Watch}
    (held : Raised now db indexId raised watch.tick.db)
    (inRows : ∀ candidate ∈ candidates, candidate.index ∈ db.vectorIndex.rows)
    (ran : candidates.foldlM (watchCandidate lance draw now disk) watch = .ok after) :
    Raised now db indexId
      ((candidates.filter fun candidate => candidate.index.id = indexId).foldl
        (raise lance now disk db) raised) after.tick.db := by
  induction candidates generalizing raised watch with
  | nil =>
      cases ran
      exact held
  | cons candidate rest ih =>
      obtain ⟨next, first, later⟩ := foldlM_cons_ok ran
      have stepped := held.step (inRows candidate List.mem_cons_self) first
      have tail := ih stepped (fun other member => inRows other (List.mem_cons_of_mem _ member))
        later
      rw [List.filter_cons]
      by_cases same : candidate.index.id = indexId
      · rw [if_pos same] at tail
        rw [if_pos (decide_eq_true same)]
        exact tail
      · rw [if_neg same] at tail
        rw [if_neg (by simpa using same)]
        exact tail

/-- A candidate raises nothing just when it inserts nothing. -/
theorem raise_eq_iff {raised : List Trigger} {watch next : Watch} {candidate : Candidate}
    (held : Raised now db candidate.index.id raised watch.tick.db)
    (inRows : candidate.index ∈ db.vectorIndex.rows)
    (ran : watchCandidate lance draw now disk watch candidate = .ok next) :
    raise lance now disk db raised candidate = raised ↔
      next.tick.db.task = watch.tick.db.task := by
  rw [raise_of_due held inRows]
  obtain ⟨idle, same⟩ | ⟨reason, version, fired, isDue, -, emitted⟩ := watchCandidate_cases ran
  · simp [idle, same]
  · obtain ⟨task, -, -, -, rows⟩ := emitted.appended
    have longer : next.tick.db.task ≠ watch.tick.db.task := by
      intro same
      have unchanged : watch.tick.db.task.rows = watch.tick.db.task.rows ++ [task] := same ▸ rows
      simp at unchanged
    simp [isDue, fired, longer]

/-! ## The pass -/

/-- The pass emits one task for the index at most. -/
def OneTask (indexId : Nat) (db after : Database) : Prop :=
  after.task.count (triggeredFor indexId) ≤ db.task.count (triggeredFor indexId) + 1

variable (lance draw now disk db indexId)

/-- No candidate of the pass gets a task for the index when the row is OPTIMIZING by then. -/
def NeverAgain : Prop :=
  ∀ before candidate later watch next, fetchCandidates db = before ++ candidate :: later →
    candidate.index.id = indexId →
    before.foldlM (watchCandidate lance draw now disk) { tick := { db } } = .ok watch →
    watchCandidate lance draw now disk watch candidate = .ok next →
    next.tick.db.task ≠ watch.tick.db.task →
    (watch.tick.db.vectorIndex.get indexId).map Index.status ≠ some .optimizing

variable {lance draw now disk db indexId}

theorem index_mem {candidate : Candidate} (member : candidate ∈ fetchCandidates db) :
    candidate.index ∈ db.vectorIndex.rows :=
  (mem_fetchCandidates.1 member).1

/-- What a whole pass raises for the index. -/
theorem raised_of_pass {principal : Option TenantPrincipal} {report : WatchPassReport}
    {after : Database}
    (ran : runWatchPass lance draw now principal db disk = .ok (report, after)) :
    Raised now db indexId (triggersOf lance now disk db indexId) after := by
  obtain ⟨-, watch, looped, rfl, -⟩ := runWatchPass_eq_ok ran
  have begun : Raised now db indexId [] (Watch.mk { db } {}).tick.db := .start
  exact begun.run (fun _ => index_mem) looped

theorem oneTask_iff {principal : Option TenantPrincipal} {report : WatchPassReport}
    {after : Database}
    (ran : runWatchPass lance draw now principal db disk = .ok (report, after)) :
    OneTask indexId db after ↔ (triggersOf lance now disk db indexId).length ≤ 1 := by
  rw [OneTask, (raised_of_pass ran).tasks]
  omega

/-- The row of the index at one of its candidates. -/
theorem status_of_raised {raised : List Trigger} {current : Database} {candidate : Candidate}
    (held : Raised now db candidate.index.id raised current)
    (member : candidate ∈ fetchCandidates db) :
    (current.vectorIndex.get candidate.index.id).map Index.status = some .optimizing ↔
      raised ≠ [] := by
  obtain ⟨inRows, ready, -⟩ := mem_fetchCandidates.1 member
  rw [held.row, Table.get_of_mem inRows]
  by_cases none_ : raised = []
  · simp [rowAfter, none_, ready]
  · simp [rowAfter, none_, startOptimize]

/-- The triggers that the first candidates of a pass raise. -/
theorem Raised.before (indexId : Nat) {front tail : List Candidate} {watch : Watch}
    (whole : fetchCandidates db = front ++ tail)
    (ran : front.foldlM (watchCandidate lance draw now disk) { tick := { db } } = .ok watch) :
    Raised now db indexId
      ((front.filter fun candidate => candidate.index.id = indexId).foldl
        (raise lance now disk db) []) watch.tick.db := by
  have begun : Raised now db indexId [] (Watch.mk { db } {}).tick.db := .start
  refine begun.run (fun other listed => index_mem ?_) ran
  rw [whole]
  exact List.mem_append_left _ listed

theorem neverAgain_of_few (few : (triggersOf lance now disk db indexId).length ≤ 1) :
    NeverAgain lance draw now disk db indexId := by
  intro front candidate later watch next whole here reached first inserted status
  subst here
  have member : candidate ∈ fetchCandidates db := by
    rw [whole]
    simp
  have held := Raised.before candidate.index.id whole reached
  have some_ := (status_of_raised held member).1 status
  have more : raise lance now disk db _ candidate ≠ _ := fun same =>
    inserted ((raise_eq_iff held (index_mem member) first).1 same)
  rw [triggersOf, candidatesOf, whole, List.filter_append, List.foldl_append,
    List.filter_cons, if_pos (decide_eq_true rfl), List.foldl_cons] at few
  rcases raise_cases lance now disk db _ candidate with same | ⟨trigger, grew⟩
  · exact more same
  · have grown := Nat.le_trans (length_le_foldl_raise lance now disk db _ _) few
    rw [grew, List.length_append, List.length_singleton] at grown
    have := List.length_pos_iff.2 some_
    omega

theorem few_of_neverAgain {principal : Option TenantPrincipal} {report : WatchPassReport}
    {after : Database}
    (ran : runWatchPass lance draw now principal db disk = .ok (report, after))
    (never : NeverAgain lance draw now disk db indexId) :
    (triggersOf lance now disk db indexId).length ≤ 1 := by
  obtain ⟨-, last, looped, -, -⟩ := runWatchPass_eq_ok ran
  refine Decidable.byContradiction fun many => ?_
  obtain ⟨front, candidate, rest, split_, some_, more⟩ := exists_second many
  obtain ⟨before, tail, whole, rfl, ofTail⟩ := List.filter_eq_append_iff.1 split_
  obtain ⟨skipped, later, rfl, passedOver, here, -⟩ := List.filter_eq_cons_iff.1 ofTail
  have same : candidate.index.id = indexId := of_decide_eq_true here
  subst same
  rw [← List.append_assoc] at whole
  have member : candidate ∈ fetchCandidates db := by
    rw [whole]
    simp
  rw [whole, List.foldlM_append] at looped
  obtain ⟨watch, reached, looped⟩ := bind_eq_ok looped
  obtain ⟨next, first, -⟩ := foldlM_cons_ok looped
  have held := Raised.before candidate.index.id whole reached
  have none_ : skipped.filter (fun other => other.index.id = candidate.index.id) = [] :=
    List.filter_eq_nil_iff.2 passedOver
  rw [List.filter_append, none_, List.append_nil] at held
  refine never (before ++ skipped) candidate later watch next whole rfl reached first ?_ ?_
  · exact fun unchanged => more ((raise_eq_iff held (index_mem member) first).2 unchanged)
  · exact (status_of_raised held member).2 some_

/-- **One task for each index.**  A pass emits at most one for the index, and none when it has
already moved it to OPTIMIZING, if and only if among the policies that watch the index's dataset
none raises another trigger after the first. -/
theorem one_trigger_iff {principal : Option TenantPrincipal}
    (system : requireSystemContext principal = true) (fresh : FreshDraws draw db)
    (indexId : Nat) :
    ∃ report after, runWatchPass lance draw now principal db disk = .ok (report, after) ∧
      (OneTask indexId db after ↔
        agreeing lance now disk db (candidatesOf db indexId) = true) ∧
      (NeverAgain lance draw now disk db indexId ↔
        agreeing lance now disk db (candidatesOf db indexId) = true) := by
  obtain ⟨⟨report, after⟩, ran⟩ : ∃ answer,
      runWatchPass lance draw now principal db disk = .ok answer := runWatchPass_ok system fresh
  refine ⟨report, after, ran, ?_, ?_⟩
  · rw [oneTask_iff ran, triggersOf, length_foldl_raise]
  · rw [← length_foldl_raise]
    exact ⟨few_of_neverAgain ran, neverAgain_of_few⟩

/-- One policy for the dataset is enough. -/
theorem agreeing_of_watchedOnce {owned : String → Bool} (once : WatchedOnce owned db)
    (ours : ∀ candidate ∈ candidatesOf db indexId, owned candidate.dataset.datasetUuid = true) :
    agreeing lance now disk db (candidatesOf db indexId) = true := by
  have apart : (candidatesOf db indexId).Pairwise fun a b => a.index.id = b.index.id →
      owned a.dataset.datasetUuid = false ∧ owned b.dataset.datasetUuid = false :=
    List.Pairwise.filter _ (fetchCandidates_apart once)
  have here : ∀ candidate ∈ candidatesOf db indexId, candidate.index.id = indexId :=
    fun candidate member => of_decide_eq_true (List.mem_filter.1 member).2
  generalize candidatesOf db indexId = candidates at apart here ours ⊢
  rcases candidates with _ | ⟨first, _ | ⟨second, rest⟩⟩
  · rfl
  · rw [agreeing]
    split <;> rfl
  · have same : first.index.id = second.index.id := by
      rw [here first (by simp), here second (by simp)]
    have outside := ((List.pairwise_cons.1 apart).1 second (by simp) same).1
    simp [ours first (by simp)] at outside

end Pass

section Examples

/-- Version 9 of the table, in which the index has 5000 unindexed rows. -/
def grownLake : Pylance Unit where
  latestVersion _ _ := .ok 9
  indexStatistics _ _ _ := some (some 5000)
  listIndices _ _ := ["emb_idx"]
  optimizeIndices _ _ := .ok ()
  delete _ _ _ := .ok ()
  countRows _ _ := 0
  createIndex _ _ _ _ _ _ := .ok ()

/-- A policy of the dataset that watches rows or drift. -/
private def watchPolicy (id : Nat) (rows drift : Option Nat) : LifecyclePolicy :=
  { id, datasetUuid := "d1", policyName := "watch", indexWatchEnabled := true,
    indexWatchMinUnindexedRows := rows, indexWatchMinVersionDrift := drift,
    indexWatchStaleMinutes := none }

/-- One READY index, last optimized at version 7. -/
private def watchedBy (policies : List LifecyclePolicy)
    (distinct : (policies.map LifecyclePolicy.id).Nodup) : Database where
  dataset :=
    .single
      { datasetUuid := "d1", catalog := "lake", dbSchema := "acme", tableName := "events",
        storageUri := "s3://acme/events", tenantId := "acme" }
  vectorIndex :=
    .single
      { id := 7, datasetUuid := "d1", indexName := "emb_idx", columnName := "emb",
        indexType := "IVF_PQ", status := .ready, lastSeenVersion := some 7 }
  lifecyclePolicy := ⟨policies, distinct⟩

/-- One policy watches the rows, the other one the drift. -/
private def twoWatchers : Database :=
  watchedBy [watchPolicy 1 (some 1000) none, watchPolicy 2 none (some 1)] (by decide)

/-- Both watch the rows. -/
private def sameWatchers : Database :=
  watchedBy [watchPolicy 1 (some 1000) none, watchPolicy 2 (some 10) none] (by decide)

/-- Two policies that fire different signals: two tasks for one index, the second one when it is
OPTIMIZING. -/
theorem two_watchers_two_tasks :
    ∃ report after, runWatchPass grownLake (fun n => toString n) 1 daemonContext twoWatchers () =
        .ok (report, after) ∧
      report.emittedKeys = ["watcher:7:INDEX_OPTIMIZE:v9:unindexed_rows",
        "watcher:7:INDEX_OPTIMIZE:v9:version_drift"] ∧
      ¬ OneTask 7 twoWatchers after ∧
      ¬ NeverAgain grownLake (fun n => toString n) 1 () twoWatchers 7 := by
  obtain ⟨report, after, ran, keys⟩ : ∃ report after,
      runWatchPass grownLake (fun n => toString n) 1 daemonContext twoWatchers () =
        .ok (report, after) ∧
      report.emittedKeys = ["watcher:7:INDEX_OPTIMIZE:v9:unindexed_rows",
        "watcher:7:INDEX_OPTIMIZE:v9:version_drift"] := ⟨_, _, rfl, by decide +kernel⟩
  have two : ¬ (triggersOf grownLake 1 () twoWatchers 7).length ≤ 1 := by decide +kernel
  exact ⟨report, after, ran, keys, fun one => two ((oneTask_iff ran).1 one),
    fun never => two (few_of_neverAgain ran never)⟩

/-- Two policies that fire one signal: one task. -/
theorem same_watchers_one_task :
    ∃ report after, runWatchPass grownLake (fun n => toString n) 1 daemonContext sameWatchers () =
        .ok (report, after) ∧ OneTask 7 sameWatchers after := by
  have fresh : FreshDraws (fun n => toString n) sameWatchers := by
    refine ⟨fun m n same => Nat.repr_injective same, fun n listed => ?_⟩
    exact absurd listed List.not_mem_nil
  have system : requireSystemContext daemonContext = true := rfl
  obtain ⟨report, after, ran, one, -⟩ := one_trigger_iff system fresh 7
  exact ⟨report, after, ran, one.2 (by decide +kernel)⟩

end Examples

end Lcp.OneTrigger
