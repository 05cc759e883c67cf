/-
# Invariants.Producers -- everybody who inserts under an idempotency key

Five formats share the UNIQUE column `task.idempotency_key`.  Three of them are the
control plane's own: the planner's two and the watcher's.  The other two carry text
that comes from outside: `submit_task` stores `<tenant_id>:<key>`, and an index that
`EmbeddingExecutor` builds by itself is stored under `auto_build:`.

A `Slot` is what a key of the control plane stands for.  The planner's per-policy key
and the watcher's key determine their slots (`policy_inj`, `trigger_inj`), and no key
of the planner is one of the watcher.

A ledger keeps, beside the rows, what each pass wanted and reported.
-/
import Lcp.Core.Calendar
import Lcp.Services.IndexWatcherPass
import Lcp.Services.PlannerPass
import Lcp.Theory.Machine

namespace Lcp.Producers

open Theory LifecyclePlannerService IndexWatcherService

set_option autoImplicit false

/-! ## Slots and their keys -/

/-- The text of a time bucket. -/
abbrev Bucket := { text : String // DateTime.Digits text }

/-- The bucket `_day_bucket(now)`. -/
def Bucket.day (now : DateTime) : Bucket := ⟨dayBucket now, DateTime.digits_strftimeYmd now⟩

/-- The bucket `_hour_bucket(now)`. -/
def Bucket.hour (now : DateTime) : Bucket := ⟨hourBucket now, DateTime.digits_strftimeYmdH now⟩

/-- What the control plane emits at most one task for. -/
inductive Slot where
  | policy (tenantId : String) (policyId : Nat) (taskType : TaskType) (bucket : Bucket)
  | autoOptimize (tenantId datasetUuid indexName : String) (hour : Bucket)
  | trigger (indexId latestVersion : Nat) (reason : TriggerReason)
deriving DecidableEq

namespace Slot

/-- The stored key. -/
def key : Slot → String
  | .policy tenantId policyId taskType bucket =>
      idempotencyKey policyId taskType bucket.val tenantId
  | .autoOptimize tenantId datasetUuid indexName hour =>
      tenantId ++ ":auto-optimize:" ++ datasetUuid ++ "/" ++ indexName ++ ":" ++ hour.val
  | .trigger indexId latestVersion reason => triggerKey indexId latestVersion reason

/-- A slot of `_try_emit_task`. -/
def isPolicy : Slot → Bool
  | .policy .. => true
  | _ => false

def isTrigger : Slot → Bool
  | .trigger .. => true
  | _ => false

theorem bucket_noColon (bucket : Bucket) : ':' ∉ bucket.val.toList := by
  intro member
  have digit := bucket.property.2 ':' member
  revert digit
  decide

theorem taskType_noColon (taskType : TaskType) : ':' ∉ taskType.toString.toList := by
  cases taskType <;> decide

theorem reason_noColon (reason : TriggerReason) : ':' ∉ reason.toString.toList := by
  cases reason <;> decide

theorem taskType_inj {one two : TaskType} (same : one.toString = two.toString) : one = two := by
  revert same
  cases one <;> cases two <;> decide

theorem reason_inj {one two : TriggerReason} (same : one.toString = two.toString) : one = two := by
  revert same
  cases one <;> cases two <;> decide

/-- A reason is not a bucket. -/
theorem reason_ne_bucket (reason : TriggerReason) (bucket : Bucket) :
    reason.toString.toList ≠ bucket.val.toList := by
  intro same
  have digits : ∀ c ∈ reason.toString.toList, c.isDigit = true := same ▸ bucket.property.2
  cases reason with
  | unindexedRows => exact absurd (digits 'u' (by decide)) (by decide)
  | versionDrift => exact absurd (digits 'v' (by decide)) (by decide)
  | stale => exact absurd (digits 's' (by decide)) (by decide)

/-- A per-policy key determines the tenant, the policy, the type and the bucket. -/
theorem policy_inj {t u : String} {i j : Nat} {one two : TaskType} {a b : Bucket}
    (same : (Slot.policy t i one a).key = (Slot.policy u j two b).key) :
    Slot.policy t i one a = .policy u j two b := by
  have chars := congrArg String.toList same
  simp only [key, idempotencyKey, String.toList_append] at chars
  have colon : (":" : String).toList = [':'] := rfl
  have marker : (":lifecycle:" : String).toList = ":lifecycle".toList ++ [':'] := rfl
  rw [colon, marker] at chars
  simp only [List.append_assoc, List.singleton_append] at chars
  -- The segments, from the last one to the first.
  obtain ⟨front, buckets⟩ := KeyText.append_cons_inj_right (bucket_noColon a) (bucket_noColon b)
    (a := t.toList ++ (":lifecycle".toList ++ ':' :: ((toString i).toList ++
      ':' :: one.toString.toList)))
    (b := u.toList ++ (":lifecycle".toList ++ ':' :: ((toString j).toList ++
      ':' :: two.toString.toList)))
    (by simpa [List.append_assoc] using chars)
  obtain ⟨front, types⟩ := KeyText.append_cons_inj_right (taskType_noColon one)
    (taskType_noColon two)
    (a := t.toList ++ (":lifecycle".toList ++ ':' :: (toString i).toList))
    (b := u.toList ++ (":lifecycle".toList ++ ':' :: (toString j).toList))
    (by simpa [List.append_assoc] using front)
  obtain ⟨front, ids⟩ := KeyText.append_cons_inj_right (KeyText.notMem_toString rfl i)
    (KeyText.notMem_toString rfl j)
    (a := t.toList ++ ":lifecycle".toList) (b := u.toList ++ ":lifecycle".toList)
    (by simpa [List.append_assoc] using front)
  have tenants : t.toList = u.toList := List.append_cancel_right front
  obtain rfl := String.toList_inj.1 tenants
  obtain rfl : i = j := Nat.repr_injective (String.toList_inj.1 ids)
  obtain rfl := taskType_inj (String.toList_inj.1 types)
  obtain rfl : a = b := Subtype.ext (String.toList_inj.1 buckets)
  rfl

/-- A watcher key determines the index, the version and the reason. -/
theorem trigger_inj {i j v w : Nat} {r s : TriggerReason}
    (same : (Slot.trigger i v r).key = (Slot.trigger j w s).key) :
    Slot.trigger i v r = .trigger j w s := by
  obtain ⟨rfl, rfl⟩ := triggerKey_inj same
  have chars := congrArg String.toList same
  simp only [key, triggerKey, String.toList_append, List.append_assoc] at chars
  have reasons : r.toString.toList = s.toString.toList := by simpa using chars
  obtain rfl := reason_inj (String.toList_inj.1 reasons)
  rfl

/-- The last segment of a planner key is its bucket. -/
theorem planner_tail {slot : Slot} (planned : slot.isTrigger = false) :
    ∃ (front : List Char) (bucket : Bucket),
      slot.key.toList = front ++ ':' :: bucket.val.toList := by
  cases slot with
  | policy tenantId policyId taskType bucket =>
      refine ⟨(tenantId ++ ":lifecycle:" ++ toString policyId ++ ":" ++
        taskType.toString).toList, bucket, ?_⟩
      simp [key, idempotencyKey]
  | autoOptimize tenantId datasetUuid indexName hour =>
      refine ⟨(tenantId ++ ":auto-optimize:" ++ datasetUuid ++ "/" ++ indexName).toList, hour, ?_⟩
      simp [key]
  | trigger indexId latestVersion reason => cases planned

/-- A key that ends in a bucket is no watcher key. -/
theorem trigger_ne_of_tail {text : String} {front : List Char} {bucket : Bucket}
    (tail : text.toList = front ++ ':' :: bucket.val.toList) (i v : Nat) (r : TriggerReason) :
    (Slot.trigger i v r).key ≠ text := by
  rintro rfl
  have mine : (Slot.trigger i v r).key.toList =
      ("watcher:" ++ toString i ++ ":INDEX_OPTIMIZE:v" ++ toString v).toList ++
        ':' :: r.toString.toList := by
    simp [key, triggerKey]
  obtain ⟨-, same⟩ := KeyText.append_cons_inj_right (reason_noColon r) (bucket_noColon bucket)
    (mine.symm.trans tail)
  exact reason_ne_bucket r bucket same

/-- The planner and the watcher have no key in common. -/
theorem trigger_ne_planner {slot : Slot} (planned : slot.isTrigger = false) (i v : Nat)
    (r : TriggerReason) : (Slot.trigger i v r).key ≠ slot.key := by
  obtain ⟨front, bucket, tail⟩ := planner_tail planned
  exact trigger_ne_of_tail tail i v r

end Slot

/-! ## What the passes want -/

/-- The slots of the inserts that planning a policy wants, in order. -/
def policySlots (now : DateTime) (policy : LifecyclePolicy) (dataset : Dataset) (db : Database) :
    List Slot :=
  (if policy.ttlDays.isSome then
    [.policy dataset.tenantId policy.id .ttlDelete (.day now)] else []) ++
  (if policy.compactionThreshold.any (!·.isEmpty) then
    [.policy dataset.tenantId policy.id .compaction (.day now)] else []) ++
  (if policy.indexOptimizeCron.any (· ≠ "") then
    [.policy dataset.tenantId policy.id .indexOptimize (.hour now)]
  else
    (hotIndexes dataset db).map fun index =>
      .autoOptimize dataset.tenantId dataset.datasetUuid index.indexName (.hour now)) ++
  (enabledRules dataset db).map fun _ =>
    .policy dataset.tenantId policy.id .vectorize (.hour now)

/-- The slots of the inserts that a planner pass wants, in order. -/
def passSlots (now : DateTime) (db : Database) : List Slot :=
  (fetchEnabledPolicies db).flatMap fun policy =>
    match db.dataset.get policy.datasetUuid with
    | none => []
    | some dataset => policySlots now policy dataset db

namespace Slot

/-- The type of the slot's task. -/
def taskType : Slot → TaskType
  | .policy _ _ taskType _ => taskType
  | _ => .indexOptimize

/-- The tenant of the slot's task, as far as its key has it. -/
def tenant? : Slot → Option String
  | .policy tenantId .. => some tenantId
  | .autoOptimize tenantId .. => some tenantId
  | .trigger .. => none

end Slot

/-- What a slot has in common with its insert. -/
def ofDue (due : Due) : String × TaskType × Option String :=
  (due.key, due.taskType, some due.dataset.tenantId)

def ofSlot (slot : Slot) : String × TaskType × Option String :=
  (slot.key, slot.taskType, slot.tenant?)

theorem slots_dues (now : DateTime) (policy : LifecyclePolicy) (dataset : Dataset)
    (db : Database) :
    (dues now policy dataset db).map ofDue = (policySlots now policy dataset db).map ofSlot := by
  have ttl : (ttlDue now policy dataset).map ofDue =
      (if policy.ttlDays.isSome then
        [Slot.policy dataset.tenantId policy.id .ttlDelete (.day now)] else []).map ofSlot := by
    cases days : policy.ttlDays with
    | none => simp [ttlDue, days]
    | some n =>
        simp only [ttlDue, days, Option.isSome_some, if_true]
        rfl
  have compaction : (compactionDue now policy dataset).map ofDue =
      (if policy.compactionThreshold.any (!·.isEmpty) then
        [Slot.policy dataset.tenantId policy.id .compaction (.day now)] else []).map ofSlot := by
    rcases threshold : policy.compactionThreshold with _ | _ | ⟨entry, rest⟩
    · simp [compactionDue, threshold]
    · simp [compactionDue, threshold]
    · simp only [compactionDue, threshold, Option.any_some, List.isEmpty_cons, Bool.not_false,
        if_true]
      rfl
  have optimize : (indexOptimizeDue now policy dataset db).map ofDue =
      (if policy.indexOptimizeCron.any (· ≠ "") then
        [Slot.policy dataset.tenantId policy.id .indexOptimize (.hour now)]
      else (hotIndexes dataset db).map fun index =>
        Slot.autoOptimize dataset.tenantId dataset.datasetUuid index.indexName
          (.hour now)).map ofSlot := by
    have hot : ((hotIndexes dataset db).map (autoOptimizeDue now policy dataset)).map ofDue =
        ((hotIndexes dataset db).map fun index =>
          Slot.autoOptimize dataset.tenantId dataset.datasetUuid index.indexName
            (.hour now)).map ofSlot := by
      rw [List.map_map, List.map_map]
      rfl
    unfold indexOptimizeDue
    cases cron : policy.indexOptimizeCron with
    | none => exact hot
    | some text =>
        by_cases empty : text = ""
        · simp only [Option.filter_some, empty, ne_eq, not_true_eq_false, decide_false,
            Bool.false_eq_true, if_false, Option.any_some]
          exact hot
        · simp only [Option.filter_some, empty, ne_eq, not_false_eq_true, decide_true, if_true,
            Option.any_some]
          rfl
  have vectorize : ((enabledRules dataset db).map (vectorizeDue now policy dataset)).map ofDue =
      ((enabledRules dataset db).map fun _ =>
        Slot.policy dataset.tenantId policy.id .vectorize (.hour now)).map ofSlot := by
    rw [List.map_map, List.map_map]
    rfl
  simp only [dues, policySlots, List.map_append, ttl, compaction, optimize, vectorize]

theorem slots_passDues (now : DateTime) (db : Database) :
    (passDues now db).map ofDue = (passSlots now db).map ofSlot := by
  rw [passDues, passSlots, List.map_flatMap, List.map_flatMap]
  congr 1
  funext policy
  unfold policyDues
  cases db.dataset.get policy.datasetUuid with
  | none => rfl
  | some dataset => exact slots_dues now policy dataset db

/-- The first due with its key is the first slot with that key. -/
theorem find_slot {now : DateTime} {db : Database} {due : Due}
    (first : (passDues now db).find? (·.key = due.key) = some due) :
    ∃ slot, (passSlots now db).find? (·.key = due.key) = some slot ∧ ofSlot slot = ofDue due := by
  have dues : ((passDues now db).map ofDue).find? (·.1 = due.key) = some (ofDue due) := by
    rw [List.find?_map]
    exact congrArg (Option.map ofDue) first
  rw [slots_passDues, List.find?_map] at dues
  exact Option.map_eq_some_iff.1 dues

theorem exists_due {now : DateTime} {db : Database} {slot : Slot}
    (member : slot ∈ passSlots now db) : ∃ due ∈ passDues now db, ofDue due = ofSlot slot := by
  have listed : ofSlot slot ∈ (passDues now db).map ofDue :=
    slots_passDues now db ▸ List.mem_map_of_mem member
  exact List.mem_map.1 listed

/-- A planner pass wants no trigger. -/
theorem not_trigger_of_passSlots {now : DateTime} {db : Database} {slot : Slot}
    (member : slot ∈ passSlots now db) : slot.isTrigger = false := by
  obtain ⟨policy, -, wanted⟩ := List.mem_flatMap.1 member
  split at wanted
  · cases wanted
  · rename_i dataset _
    simp only [policySlots, List.mem_append] at wanted
    rcases wanted with ((ttl | compaction) | optimize) | vectorize
    · split at ttl
      · rw [List.mem_singleton.1 ttl]
        rfl
      · cases ttl
    · split at compaction
      · rw [List.mem_singleton.1 compaction]
        rfl
      · cases compaction
    · split at optimize
      · rw [List.mem_singleton.1 optimize]
        rfl
      · obtain ⟨index, -, rfl⟩ := List.mem_map.1 optimize
        rfl
    · obtain ⟨rule, -, rfl⟩ := List.mem_map.1 vectorize
      rfl

/-- The task was made for the slot. -/
structure Slot.Made (slot : Slot) (task : Task) : Prop where
  key : task.idempotencyKey = some slot.key
  taskType : task.taskType = slot.taskType
  tenant : slot.tenant? = some task.tenantId

/-- **What a planner pass did, slot by slot**: it appended a row for the first wanted slot with a
free key, none of them twice, and afterwards the key of every wanted slot is taken. -/
theorem planned_slots {draw : Nat → String} {now : DateTime} {db after : Database}
    {report : PlannerTick} {principal : Option TenantPrincipal}
    (ran : planOnce draw now principal db = .ok (report, after)) :
    ∃ fresh, after.task.rows = db.task.rows ++ fresh ∧
      report.emittedTasks = fresh.map Task.taskUuid ∧
      (∀ task ∈ fresh, ∃ slot ∈ passSlots now db, slot.Made task ∧
        Emission.taken slot.key db = false ∧
        (passSlots now db).find? (·.key = slot.key) = some slot) ∧
      (fresh.map Task.idempotencyKey).Nodup ∧
      ∀ slot ∈ passSlots now db, Emission.taken slot.key after = true := by
  obtain ⟨tick, tried, table, emitted, -⟩ := planOnce_tried ran
  obtain ⟨fresh, rows, listed, dueOf, nodup⟩ := tried.rows
  refine ⟨fresh, by rw [table, rows], by rw [emitted, listed]; rfl, fun task member => ?_, nodup,
    fun slot wanted => ?_⟩
  · obtain ⟨due, first, row, free⟩ := dueOf task member
    obtain ⟨slot, found, same⟩ := find_slot first
    simp only [ofSlot, ofDue, Prod.mk.injEq] at same
    obtain ⟨keys, types, tenants⟩ := same
    rw [← keys] at found free
    refine ⟨slot, List.mem_of_find?_eq_some found, ⟨?_, ?_, ?_⟩, free, found⟩
    · rw [row, keys]
      rfl
    · rw [row, types]
      rfl
    · rw [row, tenants]
      rfl
  · obtain ⟨due, inDues, same⟩ := exists_due wanted
    have keys : due.key = slot.key := congrArg Prod.fst same
    rw [Emission.taken_congr table, ← keys]
    exact tried.taken due inDues

/-! ## The ledger -/

/-- A planner pass that returned. -/
structure Pass where
  now : DateTime
  /-- The rows that it started from. -/
  db : Database
  tick : PlannerTick

/-- A watch pass that returned, and the triggers that fired in it. -/
structure WatchRun where
  fired : List Slot
  report : WatchPassReport

structure Ledger where
  db : Database
  passes : List Pass := []
  watches : List WatchRun := []

/-- The key `auto_build:<dataset_uuid>/<index_name>:<index.id>` of `EmbeddingExecutor`. -/
def autoBuildKey (datasetUuid indexName : String) (indexId : Nat) : String :=
  "auto_build:" ++ datasetUuid ++ "/" ++ indexName ++ ":" ++ toString indexId

theorem autoBuildKey_eq (datasetUuid indexName : String) (indexId : Nat) :
    autoBuildKey datasetUuid indexName indexId =
      "auto_build:" ++ datasetUuid ++ "/" ++ indexName ++ ":" ++ toString indexId := by
  unfold autoBuildKey
  rfl

inductive Action (Disk : Type) where
  /-- A call of `submit_task`, by the router or by a service. -/
  | submitted (principal : TenantPrincipal) (args : TaskService.Submission) (taskUuid : String)
      (now : DateTime)
  | autoBuilt (dataset : Dataset) (indexName : String) (indexId : Nat) (params : JsonDict)
      (taskUuid : String) (now : DateTime)
  | planned (draw : Nat → String) (now : DateTime)
  | watched (disk : Disk) (draw : Nat → String) (now : DateTime)
  /-- The rest of the control plane. -/
  | elsewhere (others : Database)

/-- The columns of a task that nothing rewrites. -/
def identity (task : Task) : String × Option String × TaskType × String :=
  (task.taskUuid, task.idempotencyKey, task.taskType, task.tenantId)

section Runs

variable {Disk : Type} (lance : Pylance Disk)

/-- The triggers that fire while the candidates are watched, in order. -/
def firedTriggers (draw : Nat → String) (now : DateTime) (disk : Disk) :
    Watch → List Candidate → List Slot
  | _, [] => []
  | watch, candidate :: rest =>
      (signal lance now disk candidate.dataset candidate.policy
          (candidate.row watch.tick.db)).toList.map
        (fun (reason, version) => Slot.trigger candidate.index.id version reason) ++
      match watchCandidate lance draw now disk watch candidate with
      | .ok next => firedTriggers draw now disk next rest
      | .error _ => []

/-- The ledger after an action; a call that raises leaves it alone. -/
def step (s : Ledger) : Action Disk → Option Ledger
  | .submitted principal args taskUuid now =>
      match TaskService.submitTask (some principal) now taskUuid args s.db with
      | .ok (_, after) => some { s with db := after }
      | .error _ => some s
  | .autoBuilt dataset indexName indexId params taskUuid now =>
      match TaskService.insertTask (Emission.taskRow dataset now taskUuid .indexBuild
          (autoBuildKey dataset.datasetUuid indexName indexId) params) s.db with
      | some after => some { s with db := after }
      | none => some s
  | .planned draw now =>
      match planOnce draw now (some (systemPrincipal "planner")) s.db with
      | .ok (tick, after) =>
          some { s with db := after, passes := s.passes ++ [⟨now, s.db, tick⟩] }
      | .error _ => some s
  | .watched disk draw now =>
      match runWatchPass lance draw now (some (systemPrincipal "watcher")) s.db disk with
      | .ok (report, after) =>
          let fired := firedTriggers lance draw now disk { tick := { db := s.db } }
            (fetchCandidates s.db)
          some { s with db := after, watches := s.watches ++ [⟨fired, report⟩] }
      | .error _ => some s
  | .elsewhere others =>
      if others.task.rows.map identity = s.db.task.rows.map identity then
        some { s with db := others }
      else none

/-- The key that an action outside the two passes stores its task under. -/
def Action.rowKey : Action Disk → Option String
  | .submitted principal args _ _ => TaskService.scopedKey principal args.idempotencyKey
  | .autoBuilt dataset indexName indexId _ _ _ =>
      some (autoBuildKey dataset.datasetUuid indexName indexId)
  | _ => none

/-- A key that is inserted was free. -/
theorem free_of_insertTask {task : Task} {db after : Database} {key : String}
    (inserted : TaskService.insertTask task db = some after)
    (keyed : task.idempotencyKey = some key) : Emission.taken key db = false := by
  obtain ⟨-, -, -, unused⟩ := TaskService.insertTask_eq_some inserted
  refine Bool.eq_false_iff.2 fun held => ?_
  obtain ⟨row, member, same⟩ := Emission.taken_iff.1 held
  exact unused row member (by rw [keyed]; rfl) (same.trans keyed.symm)

/-- What an action can do to the ledger. -/
inductive Effect (s : Ledger) : Action Disk → Ledger → Prop where
  /-- A call that raised, or a key that was there already. -/
  | unchanged {a : Action Disk} (missed : ∀ draw now, a = .planned draw now →
      ∀ answer, planOnce draw now (some (systemPrincipal "planner")) s.db ≠ .ok answer) :
      Effect s a s
  | inserted {a : Action Disk} {task : Task} {after : Database}
      (row : TaskService.insertTask task s.db = some after) (keyed : task.idempotencyKey = a.rowKey)
      (other : ∀ draw now, a ≠ .planned draw now) : Effect s a { s with db := after }
  | planned {draw : Nat → String} {now : DateTime} {tick : PlannerTick} {after : Database}
      (ran : planOnce draw now (some (systemPrincipal "planner")) s.db = .ok (tick, after)) :
      Effect s (.planned draw now)
        { s with db := after, passes := s.passes ++ [⟨now, s.db, tick⟩] }
  | watched {disk : Disk} {draw : Nat → String} {now : DateTime} {report : WatchPassReport}
      {after : Database}
      (ran : runWatchPass lance draw now (some (systemPrincipal "watcher")) s.db disk =
        .ok (report, after)) :
      Effect s (.watched disk draw now) { s with
        db := after
        watches := s.watches ++ [⟨firedTriggers lance draw now disk { tick := { db := s.db } }
          (fetchCandidates s.db), report⟩] }
  | elsewhere {others : Database}
      (same : others.task.rows.map identity = s.db.task.rows.map identity) :
      Effect s (.elsewhere others) { s with db := others }

variable {lance}

theorem effect_of_step {s t : Ledger} {a : Action Disk} (stepped : step lance s a = some t) :
    Effect lance s a t := by
  cases a with
  | submitted principal args taskUuid now =>
      simp only [step] at stepped
      split at stepped
      · rename_i answer after ran
        obtain rfl := Option.some.inj stepped
        obtain ⟨caller, same, ⟨-, rfl, -⟩ | ⟨-, -, row⟩⟩ := TaskService.submitTask_cases ran
        · exact .unchanged (by intro _ _ isPlanned; cases isPlanned)
        · obtain rfl := Option.some.inj same
          exact .inserted row rfl (by intro _ _ isPlanned; cases isPlanned)
      · obtain rfl := Option.some.inj stepped
        exact .unchanged (by intro _ _ isPlanned; cases isPlanned)
  | autoBuilt dataset indexName indexId params taskUuid now =>
      simp only [step] at stepped
      split at stepped
      · rename_i after row
        obtain rfl := Option.some.inj stepped
        exact .inserted row rfl (by intro _ _ isPlanned; cases isPlanned)
      · obtain rfl := Option.some.inj stepped
        exact .unchanged (by intro _ _ isPlanned; cases isPlanned)
  | planned draw now =>
      simp only [step] at stepped
      split at stepped
      · rename_i tick after ran
        obtain rfl := Option.some.inj stepped
        exact .planned ran
      · rename_i raised
        obtain rfl := Option.some.inj stepped
        refine .unchanged fun _ _ isPlanned answer ran => ?_
        cases isPlanned
        rw [raised] at ran
        cases ran
  | watched disk draw now =>
      simp only [step] at stepped
      split at stepped
      · rename_i report after ran
        obtain rfl := Option.some.inj stepped
        exact .watched ran
      · obtain rfl := Option.some.inj stepped
        exact .unchanged (by intro _ _ isPlanned; cases isPlanned)
  | elsewhere others =>
      simp only [step] at stepped
      split at stepped
      · rename_i same
        obtain rfl := Option.some.inj stepped
        exact .elsewhere same
      · cases stepped

variable (lance)

/-- Runs of all producers, one action after the other. -/
def producers : Machine Ledger (Action Disk) where
  step := step lance

end Runs

/-- No pass has run. -/
def opened (db : Database) : Ledger := { db }

end Lcp.Producers
