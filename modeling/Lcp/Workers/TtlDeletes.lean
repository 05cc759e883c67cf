/-
# Workers.TtlDeletes -- which rows a TTL_DELETE task removes

The parameter `ttl_days` reaches the executor as any JSON value: the planner copies a
validated column, `POST /v1/tasks` copies the request.  The executor refuses a missing
value, one that `int()` refuses and one that `datetime` cannot subtract.  It checks no
lower bound, and `int()` cuts the fraction off, so a value below one deletes rows of any
age, and a fraction deletes rows that are younger than it says.

The store is a parameter.  `CreatedTables` is what it documents: tables of rows with a
`created_at`, and a `delete` that removes the rows a comparison with a literal holds of.
-/
import Mathlib.Tactic.Linarith
import Lcp.Core.Isoformat
import Lcp.Services.PlannerDue
import Lcp.Workers.Executors

namespace Lcp.TtlDeletes

open Theory TtlDeleteExecutor

set_option autoImplicit false

/-! ## Tables -/

/-- What a column of microseconds can hold: 64 bits around 1970. -/
def Storable (created : DateTime) : Prop :=
  -9223372036854775808 ≤ created - 62135596800000000 ∧
    created - 62135596800000000 < 9223372036854775808

/-- The comparison `created_at < cutoff`, which no null satisfies. -/
def isBefore (cutoff : DateTime) : Option DateTime → Bool
  | some created => created < cutoff
  | none => false

/-- The tables of a store, by URI. -/
structure CreatedTables {Disk : Type} (lance : Pylance Disk) (Row : Type) where
  rows : Disk → String → List Row
  createdAt : Row → Option DateTime
  /-- The rows that the comparison holds of are removed, and no others. -/
  delete : ∀ {disk after : Disk} {uri : String} {cutoff : DateTime},
    cutoff.inRange = true → cutoff % 1000000 = 0 →
    lance.delete disk uri (predicate cutoff) = .ok after → ∀ other, rows after other =
      if other = uri then (rows disk uri).filter fun row => !isBefore cutoff (createdAt row)
      else rows disk other
  /-- A table can hold a row of any age, and can be opened and written: a deletion succeeds for
  every cutoff that is a `datetime`, the years 1 to 9999 alike. -/
  holds : ∀ (uri : String) (created : DateTime), Storable created → ∃ disk row,
    row ∈ rows disk uri ∧ createdAt row = some created ∧
      (∃ version, lance.latestVersion disk uri = .ok version) ∧
      ∀ cutoff : DateTime, cutoff.inRange = true → cutoff % 1000000 = 0 →
        ∃ after, lance.delete disk uri (predicate cutoff) = .ok after

/-! ## The parameter -/

/-- The parameter as it is stored; a null is none. -/
def ttlDays (task : Task) : Option Json := Json.get? (task.params.getD []) "ttl_days"

/-- The number of days that a value stands for; a text stands for the integer it spells. -/
def daysOf : Json → Option Rat
  | .bool b => some (if b then 1 else 0)
  | .int n => some n
  | .float q => some q
  | .str s => (pyIntOfString s).map fun n => (n : Rat)
  | .null | .list _ | .dict _ => none

/-- The cut towards zero of `int()`. -/
def trunc (days : Rat) : Int := days.num.tdiv days.den

theorem trunc_intCast (n : Int) : trunc (n : Rat) = n := by
  simp [trunc]

theorem toInt_eq_ok {value : Json} {n : Int} :
    value.toInt = .ok n ↔ ∃ days, daysOf value = some days ∧ trunc days = n := by
  cases value with
  | null => simp [Json.toInt, daysOf]
  | bool b => cases b <;> simp [Json.toInt, daysOf, trunc]
  | int m => simp [Json.toInt, daysOf, trunc_intCast]
  | float q => simp [Json.toInt, daysOf, trunc]
  | str s => cases spelled : pyIntOfString s <;> simp [Json.toInt, daysOf, spelled, trunc_intCast]
  | list items => simp [Json.toInt, daysOf]
  | dict entries => simp [Json.toInt, daysOf]

/-- What the executor refuses: no value, no integer, or no date. -/
def Rejected (now : DateTime) : Option Json → Prop
  | none => True
  | some value =>
      ∀ days, daysOf value = some days → trunc days < -999999999 ∨ 999999999 < trunc days ∨
        DateTime.inRange (now - trunc days * DateTime.microsPerDay) = false

theorem timedeltaDays_eq_ok {days : Int} {delta : TimeDelta} :
    timedeltaDays days = .ok delta ↔
      ¬ (days < -999999999 ∨ 999999999 < days) ∧ days * DateTime.microsPerDay = delta := by
  unfold timedeltaDays
  split
  · rename_i wide
    exact iff_of_false nofun fun all => all.1 (by omega)
  · split
    · rename_i wide
      exact iff_of_false nofun fun all => all.1 wide
    · rename_i fits
      exact ⟨fun is => ⟨fits, Except.ok.inj is⟩, fun all => congrArg Except.ok all.2⟩

theorem subtract_eq_ok {now limit : DateTime} {delta : TimeDelta} :
    subtract now delta = .ok limit ↔
      DateTime.inRange (now - delta) = true ∧ now - delta = limit := by
  unfold subtract
  split
  · rename_i valid
    exact ⟨fun is => ⟨valid, Except.ok.inj is⟩, fun all => congrArg Except.ok all.2⟩
  · rename_i invalid
    exact iff_of_false nofun fun all => invalid all.1

/-- A cutoff is the time less the days, cut towards zero. -/
theorem cutoff_eq_ok {now limit : DateTime} {value : Json} :
    cutoff now value = .ok limit ↔ ∃ days, daysOf value = some days ∧
      ¬ (trunc days < -999999999 ∨ 999999999 < trunc days) ∧
      DateTime.inRange (now - trunc days * DateTime.microsPerDay) = true ∧
      now - trunc days * DateTime.microsPerDay = limit := by
  constructor
  · intro is
    obtain ⟨n, converted, is⟩ := bind_eq_ok is
    obtain ⟨delta, spanned, is⟩ := bind_eq_ok is
    obtain ⟨days, stands, rfl⟩ := toInt_eq_ok.1 converted
    obtain ⟨fits, rfl⟩ := timedeltaDays_eq_ok.1 spanned
    exact ⟨days, stands, fits, subtract_eq_ok.1 is⟩
  · rintro ⟨days, stands, fits, subtracted⟩
    have converted := toInt_eq_ok.2 ⟨days, stands, rfl⟩
    have spanned := timedeltaDays_eq_ok.2 ⟨fits, rfl⟩
    unfold cutoff
    rw [converted]
    show (timedeltaDays (trunc days) >>= subtract now) = .ok limit
    rw [spanned]
    exact subtract_eq_ok.2 subtracted

/-! ## The promise and its condition -/

section Promise

variable {Disk Row : Type} {lance : Pylance Disk} (tables : CreatedTables lance Row)
  (context : ExecutorContext) (task : Task) (dataset : Dataset) (db : Database) (disk : Disk)

/-- The `now` of the executor, in whole seconds. -/
def executedAt : DateTime := DateTime.dropMicroseconds context.now

/-- The number of days that the task stores. -/
def storedDays : Option Rat := (ttlDays task).bind daysOf

/-- What an execution removes is older than the stored days, of which there is one at least;
with fewer or none it raises, and removes nothing. -/
structure SparesYoung : Prop where
  old : ∀ uri row, row ∈ tables.rows disk uri →
    row ∉ tables.rows (execute lance context task dataset db disk).2 uri →
    ∃ days created, storedDays task = some days ∧ 1 ≤ days ∧
      tables.createdAt row = some created ∧
      ((created : Int) : Rat) < (executedAt context : Int) - days * DateTime.microsPerDay
  refused : (∀ days, storedDays task = some days → days < 1) →
    (∃ exc, (execute lance context task dataset db disk).1 = .error exc) ∧
      ∀ uri, tables.rows (execute lance context task dataset db disk).2 uri =
        tables.rows disk uri

/-- A whole number of days, or more than one by less than a microsecond. -/
def Whole (days : Rat) : Prop := (days - trunc days) * DateTime.microsPerDay < 1

/-- The executor refuses the value, or it is a whole number of days, one at least; where no
endpoint is configured, nothing is deleted and it need not be whole. -/
def Sound : Prop :=
  Rejected (executedAt context) (ttlDays task) ∨
    ∃ days, storedDays task = some days ∧ 1 ≤ days ∧
      (context.lanceStorageEndpoint = "" ∨ Whole days)

end Promise

/-! ## One execution -/

section Execution

variable {Disk Row : Type} (lance : Pylance Disk) (tables : CreatedTables lance Row)
  {context : ExecutorContext} {task : Task} (dataset : Dataset) (db : Database) (disk : Disk)

/-- A value that is not refused has a cutoff. -/
theorem cutoff_of_not_rejected (taken : ¬ Rejected (executedAt context) (ttlDays task)) :
    ∃ value days, ttlDays task = some value ∧ storedDays task = some days ∧
      DateTime.inRange (executedAt context - trunc days * DateTime.microsPerDay) = true ∧
      cutoff (executedAt context) value =
        .ok (executedAt context - trunc days * DateTime.microsPerDay) := by
  cases stored : ttlDays task with
  | none =>
      rw [stored] at taken
      exact absurd trivial taken
  | some value =>
      simp only [stored, Rejected, not_forall, not_or, Bool.not_eq_false] at taken
      obtain ⟨days, stands, low, high, valid⟩ := taken
      refine ⟨value, days, rfl, ?_, valid, ?_⟩
      · rw [storedDays, stored]
        exact stands
      · exact cutoff_eq_ok.2 ⟨days, stands, by rintro (h | h) <;> contradiction, valid, rfl⟩

theorem execute_of_rejected (rejected : Rejected (executedAt context) (ttlDays task)) :
    ∃ exc, execute lance context task dataset db disk = (.error exc, disk) := by
  unfold execute
  split
  · exact ⟨_, rfl⟩
  · rename_i value stored
    have stored : ttlDays task = some value := stored
    dsimp only
    split
    · exact ⟨_, rfl⟩
    · rename_i limit is
      obtain ⟨days, stands, fits, valid, -⟩ := cutoff_eq_ok.1 is
      rw [stored] at rejected
      rcases rejected days stands with wide | wide | invalid
      · exact absurd (.inl wide) fits
      · exact absurd (.inr wide) fits
      · cases invalid.symm.trans valid

theorem execute_stub {value : Json} {limit : DateTime} (stored : ttlDays task = some value)
    (is : cutoff (executedAt context) value = .ok limit)
    (stub : context.lanceStorageEndpoint = "") :
    ∃ answer, execute lance context task dataset db disk = (.ok (answer, db), disk) := by
  unfold ttlDays at stored
  unfold executedAt at is
  simp only [execute, stored, is, if_pos stub]
  exact ⟨_, rfl⟩

theorem execute_real {value : Json} {limit : DateTime} (stored : ttlDays task = some value)
    (is : cutoff (executedAt context) value = .ok limit)
    (real : context.lanceStorageEndpoint ≠ "") :
    (execute lance context task dataset db disk).2 =
      (LanceIo.deleteRows lance disk dataset.storageUri (predicate limit)).2 := by
  unfold ttlDays at stored
  unfold executedAt at is
  simp only [execute, stored, is, if_neg real]
  split
  · rename_i deleted
    rw [deleted]
  · rename_i deleted
    rw [deleted]

theorem deleteRows_cases (uri text : String) :
    (LanceIo.deleteRows lance disk uri text).2 = disk ∨
      lance.delete disk uri text = .ok (LanceIo.deleteRows lance disk uri text).2 := by
  unfold LanceIo.deleteRows
  split
  · exact .inl rfl
  · split
    · exact .inl rfl
    · rename_i after deleted
      split
      · exact .inr deleted
      · exact .inr deleted

theorem deleteRows_of_deleted {uri text : String} {version : Nat} {after : Disk}
    (opened : lance.latestVersion disk uri = .ok version)
    (deleted : lance.delete disk uri text = .ok after) :
    (LanceIo.deleteRows lance disk uri text).2 = after := by
  simp only [LanceIo.deleteRows, opened, deleted]
  split
  · rfl
  · rfl

theorem seconds_of_days (now n : Int) :
    (now - now % 1000000 - n * (DateTime.microsPerDay : Int)) % 1000000 = 0 := by
  unfold DateTime.microsPerDay
  omega

theorem whole_cutoff (n : Int) :
    (executedAt context - n * DateTime.microsPerDay) % 1000000 = 0 :=
  seconds_of_days context.now n

/-- The columns hold every `datetime`, and the microsecond before it. -/
theorem storable_before {limit : Int} (valid : DateTime.inRange limit = true) :
    Storable (limit - 1) := by
  have bounds := of_decide_eq_true valid
  have first : 0 ≤ limit := bounds.1
  have last : limit < 3652059 * (86400000000 : Nat) := bounds.2
  constructor
  · show (-9223372036854775808 : Int) ≤ limit - 1 - 62135596800000000
    omega
  · show limit - 1 - 62135596800000000 < (9223372036854775808 : Int)
    omega

/-- What is removed was created before the cutoff. -/
theorem isBefore_of_removed {value : Json} {limit : DateTime} (stored : ttlDays task = some value)
    (is : cutoff (executedAt context) value = .ok limit) (valid : limit.inRange = true)
    (whole : limit % 1000000 = 0) {uri : String} {row : Row} (before : row ∈ tables.rows disk uri)
    (removed : row ∉ tables.rows (execute lance context task dataset db disk).2 uri) :
    context.lanceStorageEndpoint ≠ "" ∧ isBefore limit (tables.createdAt row) = true := by
  by_cases stub : context.lanceStorageEndpoint = ""
  · obtain ⟨answer, ran⟩ := execute_stub lance dataset db disk stored is stub
    rw [ran] at removed
    exact absurd before removed
  · refine ⟨stub, ?_⟩
    rw [execute_real lance dataset db disk stored is stub] at removed
    rcases deleteRows_cases lance disk dataset.storageUri (predicate limit) with same | deleted
    · rw [same] at removed
      exact absurd before removed
    · have rest := tables.delete valid whole deleted uri
      by_contra spared
      rw [rest] at removed
      split at removed
      · rename_i here
        refine removed (List.mem_filter.2 ⟨here ▸ before, ?_⟩)
        simpa using spared
      · exact removed before

/-- With an endpoint, some table loses a row created just before the cutoff. -/
theorem removes_before {value : Json} {limit : DateTime} (stored : ttlDays task = some value)
    (is : cutoff (executedAt context) value = .ok limit) (valid : limit.inRange = true)
    (whole : limit % 1000000 = 0) (real : context.lanceStorageEndpoint ≠ "") :
    ∃ disk row, tables.createdAt row = some (limit - 1) ∧
      row ∈ tables.rows disk dataset.storageUri ∧
      row ∉ tables.rows (execute lance context task dataset db disk).2 dataset.storageUri := by
  obtain ⟨disk, row, before, created, ⟨version, opened⟩, deletes⟩ :=
    tables.holds dataset.storageUri (limit - 1) (storable_before valid)
  obtain ⟨after, deleted⟩ := deletes limit valid whole
  refine ⟨disk, row, created, before, ?_⟩
  rw [execute_real lance dataset db disk stored is real,
    deleteRows_of_deleted lance disk opened deleted,
    tables.delete valid whole deleted, if_pos rfl, List.mem_filter]
  rintro ⟨-, spared⟩
  have older : isBefore limit (tables.createdAt row) = true := by
    rw [created]
    exact decide_eq_true (Int.sub_lt_self limit (by decide))
  simp [older] at spared

end Execution

/-! ## Young rows -/

/-- Less than a microsecond apart, the two cutoffs are after the same moments. -/
theorem before_of_whole {days : Rat} {now created : Int} (whole : Whole days)
    (older : created < now - trunc days * DateTime.microsPerDay) :
    (created : Rat) < now - days * DateTime.microsPerDay := by
  have older : (created : Rat) + 1 ≤ now - trunc days * DateTime.microsPerDay := by
    exact_mod_cast older
  unfold Whole at whole
  linarith

theorem whole_of_before {days : Rat} {now : Int}
    (young : ((now - trunc days * DateTime.microsPerDay - 1 : Int) : Rat) <
      now - days * DateTime.microsPerDay) : Whole days := by
  unfold Whole
  push_cast at young
  linarith

section Main

variable {Disk Row : Type} {lance : Pylance Disk} (tables : CreatedTables lance Row)
  (context : ExecutorContext) (task : Task) (dataset : Dataset) (db : Database)

theorem spares_of_sound (sound : Sound context task) (disk : Disk) :
    SparesYoung tables context task dataset db disk := by
  by_cases rejected : Rejected (executedAt context) (ttlDays task)
  · obtain ⟨exc, ran⟩ := execute_of_rejected lance dataset db disk rejected
    constructor
    · intro uri row before removed
      rw [ran] at removed
      exact absurd before removed
    · intro _
      rw [ran]
      exact ⟨⟨exc, rfl⟩, fun _ => rfl⟩
  · obtain ⟨days, is, one, whole⟩ := sound.resolve_left rejected
    obtain ⟨value, other, stored, is', valid, limited⟩ := cutoff_of_not_rejected rejected
    obtain rfl := Option.some.inj (is.symm.trans is')
    constructor
    · intro uri row before removed
      obtain ⟨real, older⟩ :=
        isBefore_of_removed lance tables dataset db disk stored limited valid (whole_cutoff _)
          before removed
      have whole := whole.resolve_left real
      cases created : tables.createdAt row with
      | none =>
          rw [created] at older
          cases older
      | some moment =>
          rw [created] at older
          exact ⟨days, moment, is, one, rfl, before_of_whole whole (of_decide_eq_true older)⟩
    · intro few
      exact absurd one (not_le.2 (few days is))

theorem sound_of_spares (spares : ∀ disk, SparesYoung tables context task dataset db disk) :
    Sound context task := by
  by_cases rejected : Rejected (executedAt context) (ttlDays task)
  · exact .inl rejected
  · obtain ⟨value, days, stored, is, valid, limited⟩ := cutoff_of_not_rejected rejected
    have removes := removes_before lance tables dataset db stored limited valid (whole_cutoff _)
    have one : 1 ≤ days := by
      by_contra fewer
      have few : ∀ other, storedDays task = some other → other < 1 := by
        intro other is'
        obtain rfl := Option.some.inj (is.symm.trans is')
        exact not_le.1 fewer
      by_cases stub : context.lanceStorageEndpoint = ""
      · obtain ⟨disk, -⟩ := tables.holds dataset.storageUri _ (storable_before valid)
        obtain ⟨exc, raised⟩ := ((spares disk).refused few).1
        obtain ⟨answer, ran⟩ := execute_stub lance dataset db disk stored limited stub
        rw [ran] at raised
        cases raised
      · obtain ⟨disk, row, -, before, removed⟩ := removes stub
        rw [((spares disk).refused few).2] at removed
        exact removed before
    refine .inr ⟨days, is, one, ?_⟩
    by_contra neither
    obtain ⟨real, cut⟩ := not_or.1 neither
    obtain ⟨disk, row, created, before, removed⟩ := removes real
    obtain ⟨other, moment, is', -, created', young⟩ := (spares disk).old _ _ before removed
    obtain rfl := Option.some.inj (is.symm.trans is')
    obtain rfl := Option.some.inj (created.symm.trans created')
    exact cut (whole_of_before young)

/-- **TTL deletion spares young rows for whole numbers of days only**, in every table. -/
theorem spares_young_iff :
    (∀ disk, SparesYoung tables context task dataset db disk) ↔ Sound context task :=
  ⟨sound_of_spares tables context task dataset db, spares_of_sound tables context task dataset db⟩

/-- What the planner emits for a policy with a `ttl_days` of the request's bound. -/
theorem sound_of_ttlDue {now : DateTime} {policy : LifecyclePolicy} {due : Due}
    (member : due ∈ LifecyclePlannerService.ttlDue now policy dataset)
    (bound : ∀ days ∈ policy.ttlDays, 1 ≤ days) (carried : task.params = some due.params) :
    Sound context task := by
  unfold LifecyclePlannerService.ttlDue at member
  split at member
  · cases member
  · rename_i days is
    obtain rfl := List.mem_singleton.1 member
    have stored : storedDays task = some ((days : Int) : Rat) := by
      rw [storedDays, ttlDays, carried]
      rfl
    refine .inr ⟨_, stored, ?_, .inr ?_⟩
    · exact_mod_cast bound days is
    · unfold Whole
      rw [trunc_intCast]
      simp

end Main

/-! ### A store -/

/-- Tables with one column, by URI. -/
private abbrev Tables := String → Option (List (Option DateTime))

/-- The timestamp of the literal in a comparison. -/
private def literal (text : String) : Option DateTime :=
  DateTime.readIsoformat (text.toList.drop "created_at < timestamp '".length).dropLast

private def notFound (uri : String) : PyException :=
  .valueError ("Dataset at path " ++ uri ++ " was not found")

private def store : Pylance Tables where
  latestVersion disk uri := if (disk uri).isSome then .ok 1 else .error (notFound uri)
  indexStatistics _ _ _ := none
  listIndices _ _ := []
  optimizeIndices disk _ := .ok disk
  delete disk uri text :=
    match disk uri, literal text with
    | some rows, some cutoff => .ok fun other =>
        if other = uri then some (rows.filter fun created => !isBefore cutoff created)
        else disk other
    | some _, none => .error (.valueError "Invalid user input")
    | none, _ => .error (notFound uri)
  countRows disk uri := ((disk uri).getD []).length
  createIndex disk _ _ _ _ _ := .ok disk

private theorem literal_predicate {cutoff : DateTime} (valid : cutoff.inRange = true)
    (whole : cutoff % 1000000 = 0) : literal (predicate cutoff) = some cutoff := by
  have text : (predicate cutoff).toList = "created_at < timestamp '".toList ++
      ((DateTime.isoformat cutoff).toList ++ "'".toList) := by
    unfold predicate
    rw [String.toList_append, String.toList_append, List.append_assoc]
  have quote : "'".toList ≠ [] ∧ "'".toList.dropLast = [] := by decide
  rw [literal, text, ← String.length_toList, List.drop_left,
    List.dropLast_append_of_ne_nil quote.1, quote.2, List.append_nil]
  exact DateTime.readIsoformat_isoformat valid whole

private def storeTables : CreatedTables store (Option DateTime) where
  rows disk uri := (disk uri).getD []
  createdAt row := row
  delete := by
    intro disk after uri cutoff valid whole deleted other
    simp only [store, literal_predicate valid whole] at deleted
    cases found : disk uri with
    | none =>
        simp only [found] at deleted
        cases deleted
    | some rows =>
        simp only [found] at deleted
        obtain rfl := Except.ok.inj deleted
        by_cases here : other = uri
        · simp only [here, if_true, Option.getD_some]
        · simp only [here, if_false]
  holds := by
    intro uri created _
    refine ⟨fun _ => some [some created], some created, by simp, rfl, ⟨1, rfl⟩, ?_⟩
    intro cutoff valid whole
    simp only [store, literal_predicate valid whole]
    exact ⟨_, rfl⟩

private def listings : Dataset where
  datasetUuid := "0198"
  catalog := "lcp"
  dbSchema := "default"
  tableName := "listings"
  storageUri := "s3://lcp/listings.lance"
  tenantId := "acme"

private def ttlTask (days : Json) : Task where
  taskUuid := "0199"
  taskType := .ttlDelete
  datasetUuid := "0198"
  tenantId := "acme"
  params := some [("ttl_days", days)]
  createdAt := 63900000000000000

/-- A worker with an endpoint, some day in 2025. -/
private def worker : ExecutorContext where
  lanceStorageEndpoint := "http://minio:9000"
  now := 63900000000000000

/-- One row, `hours` old. -/
private def aged (hours : Nat) : Tables := fun uri =>
  if uri = "s3://lcp/listings.lance" then
    some [some (63900000000000000 - hours * DateTime.microsPerHour)]
  else none

/-- A week is a whole number of days. -/
theorem spares_young_week :
    SparesYoung storeTables worker (ttlTask (.int 7)) listings {} (aged 200) := by
  have sound : Sound worker (ttlTask (.int 7)) := by
    refine .inr ⟨7, rfl, by norm_num, .inr ?_⟩
    unfold Whole
    decide +kernel
  exact (spares_young_iff storeTables worker (ttlTask (.int 7)) listings {}).2 sound (aged 200)

/-- A value of zero removes a row of one hour, and one and a half days one of 30 hours. -/
theorem short_ttl_removes_young :
    ¬ SparesYoung storeTables worker (ttlTask (.int 0)) listings {} (aged 1) ∧
      ¬ SparesYoung storeTables worker (ttlTask (.float (3 / 2))) listings {} (aged 30) := by
  constructor
  · intro spares
    have few : ∀ days, storedDays (ttlTask (.int 0)) = some days → days < 1 := by
      intro days is
      obtain rfl := Option.some.inj is
      decide
    have same := (spares.refused few).2 "s3://lcp/listings.lance"
    have gone : storeTables.rows (execute store worker (ttlTask (.int 0)) listings {}
        (aged 1)).2 "s3://lcp/listings.lance" = [] := by decide +kernel
    cases gone.symm.trans same
  · intro spares
    have gone : storeTables.rows (execute store worker (ttlTask (.float (3 / 2))) listings {}
        (aged 30)).2 "s3://lcp/listings.lance" = [] := by decide +kernel
    obtain ⟨days, created, is, -, here, young⟩ := spares.old "s3://lcp/listings.lance"
      (some (63900000000000000 - 30 * DateTime.microsPerHour)) (List.mem_singleton.2 rfl)
      (by rw [gone]; exact List.not_mem_nil)
    obtain rfl := Option.some.inj is
    obtain rfl := Option.some.inj here
    revert young
    decide +kernel

end Lcp.TtlDeletes
