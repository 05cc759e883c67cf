/-
# Services.Listings -- `list_tasks` and `list_datasets`

Both count the rows that match, and read one page of them `ORDER BY created_at DESC`, in
two statements with the same WHERE clause.  `created_at` is not unique, and no further
column decides between rows of one moment: the database does, in each query anew.  So
the pages of one listing are the matching rows, each once, exactly when no page boundary
separates rows of one moment (`listings_partition_iff`).

Texts are compared as the columns' collation compares them.
-/
import Lcp.Db.RlsCollation
import Lcp.Services.DatasetService
import Lcp.Services.TaskService
import Lcp.Theory.Pages

namespace Lcp

open Theory
open Rls (Collation)

set_option autoImplicit false

/-- The rows that the hook's predicate leaves to a principal. -/
def Rls.Collation.shows (collation : Collation) (caller : TenantPrincipal) (tenantId : String) :
    Bool :=
  caller.isSystem || collation.same tenantId caller.tenantId

/-- An optional WHERE clause `column == value`. -/
def Rls.Collation.passes (collation : Collation) (facet : Option String) (column : String) : Bool :=
  match facet with
  | some value => collation.same column value
  | none => true

namespace Listings

/-! ## One page -/

def clampPage (page : Int) : Nat := if page < 1 then 1 else page.toNat

def clampPageSize (pageSize : Int) : Nat :=
  if pageSize < 1 then 20 else if pageSize > 200 then 200 else pageSize.toNat

/-- The page and the count of the rows that match. -/
def select {α : Type} {createdAt : α → DateTime} (arrangement : Arrangement createdAt)
    (matching : List α) (page pageSize : Int) : List α × Nat :=
  (((arrangement.arrange matching).drop ((clampPage page - 1) * clampPageSize pageSize)).take
    (clampPageSize pageSize), matching.length)

end Listings

namespace TaskService

/-- The facets of a task listing. -/
structure TaskFilters where
  datasetUuid : Option String := none
  taskType : Option String := none
  status : Option String := none

/-- The WHERE clauses shared by list and count queries. -/
def applyTaskFilters (collation : Collation) (filters : TaskFilters) (task : Task) : Bool :=
  collation.passes filters.datasetUuid task.datasetUuid &&
    collation.passes filters.taskType task.taskType.toString &&
    collation.passes filters.status task.status.toString

/-- The rows that match and that the caller sees. -/
def matching (collation : Collation) (caller : TenantPrincipal) (filters : TaskFilters)
    (db : Database) : List Task :=
  db.task.rows.filter fun task =>
    collation.shows caller task.tenantId && applyTaskFilters collation filters task

/-- The page of tasks and the total, filtered by tenant and optional facets. -/
def listTasks (collation : Collation) (principal : Option TenantPrincipal) (filters : TaskFilters)
    (page pageSize : Int) (arrangement : Arrangement Task.createdAt) (db : Database) :
    Except TaskError (List Task × Nat) :=
  match principal with
  | none => .error .permission
  | some caller =>
      .ok (Listings.select arrangement (matching collation caller filters db) page pageSize)

end TaskService

namespace DatasetService

/-- The facets of a dataset listing. -/
structure DatasetFilters where
  catalog : Option String := none
  dbSchema : Option String := none

def applyDatasetFilters (collation : Collation) (filters : DatasetFilters) (dataset : Dataset) :
    Bool :=
  collation.passes filters.catalog dataset.catalog &&
    collation.passes filters.dbSchema dataset.dbSchema

/-- The rows that match and that the caller sees, deleted ones included. -/
def matching (collation : Collation) (caller : TenantPrincipal) (filters : DatasetFilters)
    (db : Database) : List Dataset :=
  db.dataset.rows.filter fun dataset =>
    collation.shows caller dataset.tenantId && applyDatasetFilters collation filters dataset

/-- The page of datasets and the total; `createdAt` is the column `created_at`. -/
def listDatasets {createdAt : Dataset → DateTime} (collation : Collation)
    (principal : Option TenantPrincipal) (filters : DatasetFilters) (page pageSize : Int)
    (arrangement : Arrangement createdAt) (db : Database) :
    Except DatasetError (List Dataset × Nat) :=
  match principal with
  | none => .error .permission
  | some caller =>
      .ok (Listings.select arrangement (matching collation caller filters db) page pageSize)

end DatasetService

namespace Listings

/-! ## All pages -/

/-- Every page reports the number of the matching rows, and the pages up to the last one
hold each of them once. -/
def Partitions {ε α : Type} (fetch : Nat → Except ε (List α × Nat)) (pageSize : Nat)
    (matching : List α) : Prop :=
  ∃ items : Nat → List α, (∀ k, fetch k = .ok (items k, matching.length)) ∧
    ((List.range (chunkCount pageSize matching.length)).flatMap items).Perm matching

section Partition

variable {ε α : Type} {createdAt : α → DateTime} {matching : List α} {pageSize : Nat}

theorem clampPage_succ (k : Nat) : clampPage (k + 1) - 1 = k := by
  unfold clampPage
  split
  · omega
  · omega

theorem clampPageSize_of_bounds (pos : 1 ≤ pageSize) (small : pageSize ≤ 200) :
    clampPageSize pageSize = pageSize := by
  unfold clampPageSize
  split
  · omega
  · split
    · omega
    · exact Int.toNat_natCast pageSize

theorem select_succ (pos : 1 ≤ pageSize) (small : pageSize ≤ 200)
    (arrangement : Arrangement createdAt) (k : Nat) :
    select arrangement matching (k + 1) pageSize =
      (chunk pageSize (arrangement.arrange matching) k, matching.length) := by
  rw [select, clampPage_succ, clampPageSize_of_bounds pos small, chunk]

/-- A listing that answers each page with `select` partitions when its pages do. -/
theorem partitions_iff {fetch : Nat → Except ε (List α × Nat)}
    {choices : Nat → Arrangement createdAt} (pos : 1 ≤ pageSize) (small : pageSize ≤ 200)
    (answers : ∀ k : Nat, fetch k = .ok (select (choices k) matching (k + 1) pageSize)) :
    Partitions fetch pageSize matching ↔
      (pages pageSize matching choices (chunkCount pageSize matching.length)).Perm matching := by
  have answers : ∀ k, fetch k =
      .ok (chunk pageSize ((choices k).arrange matching) k, matching.length) :=
    fun k => (answers k).trans (congrArg Except.ok (select_succ pos small (choices k) k))
  constructor
  · rintro ⟨items, fetched, perm⟩
    have same : items = fun k => chunk pageSize ((choices k).arrange matching) k := by
      funext k
      have both := Except.ok.inj ((fetched k).symm.trans (answers k))
      exact congrArg Prod.fst both
    rw [same] at perm
    exact perm
  · exact fun perm => ⟨_, answers, perm⟩

end Partition

/-! ## The listings -/

/-- Rows of distinct moments are partitioned, whatever the page size. -/
theorem unsplit_tasks_of_distinct {collation : Collation} {caller : TenantPrincipal}
    {filters : TaskService.TaskFilters} {db : Database}
    (distinct : (db.task.rows.map Task.createdAt).Nodup) (boundary : Nat) :
    Unsplit Task.createdAt (TaskService.matching collation caller filters db) boundary :=
  unsplit_of_nodup (distinct.sublist (List.filter_sublist.map Task.createdAt)) boundary

theorem nodup_rows {ρ κ : Type} {key : ρ → κ} (table : Table ρ key) : table.rows.Nodup :=
  List.Nodup.of_map key table.nodup

/-- **The pages of a listing hold every matching row once exactly when no page boundary
separates rows of one moment**, whatever order each query picks among those. -/
theorem listings_partition_iff (collation : Collation) (caller : TenantPrincipal)
    (pageSize : Nat) (pos : 1 ≤ pageSize) (small : pageSize ≤ 200) (db : Database) :
    (∀ filters : TaskService.TaskFilters,
      (∀ choices : Nat → Arrangement Task.createdAt,
        Partitions (fun k => TaskService.listTasks collation (some caller) filters (k + 1) pageSize
          (choices k) db) pageSize (TaskService.matching collation caller filters db)) ↔
      ∀ k, Unsplit Task.createdAt (TaskService.matching collation caller filters db)
        (k * pageSize)) ∧
    ∀ (filters : DatasetService.DatasetFilters) (createdAt : Dataset → DateTime),
      (∀ choices : Nat → Arrangement createdAt,
        Partitions (fun k => DatasetService.listDatasets collation (some caller) filters (k + 1)
          pageSize (choices k) db) pageSize
          (DatasetService.matching collation caller filters db)) ↔
      ∀ k, Unsplit createdAt (DatasetService.matching collation caller filters db)
        (k * pageSize) := by
  constructor
  · intro filters
    have nodup : (TaskService.matching collation caller filters db).Nodup :=
      (nodup_rows db.task).filter _
    rw [← pages_perm_iff nodup pos]
    exact forall_congr' fun choices => partitions_iff pos small fun k => rfl
  · intro filters createdAt
    have nodup : (DatasetService.matching collation caller filters db).Nodup :=
      (nodup_rows db.dataset).filter _
    rw [← pages_perm_iff nodup pos]
    exact forall_congr' fun choices => partitions_iff pos small fun k => rfl

/-! ### Three tasks, two of one flush -/

private def submitted (taskUuid : String) (createdAt : DateTime) : Task :=
  { taskUuid, taskType := .compaction, datasetUuid := "d1", tenantId := "acme", createdAt }

/-- Three tasks; the last two have the moment of one flush. -/
private def flushed : Database :=
  { ({} : Database) with
    task := ⟨[submitted "t1" 100, submitted "t2" 200, submitted "t3" 200], by decide⟩ }

/-- The other order of rows of one moment. -/
private def sortedBack : Arrangement Task.createdAt where
  arrange rows := (Arrangement.sort Task.createdAt).arrange rows.reverse
  perm rows := ((Arrangement.sort Task.createdAt).perm rows.reverse).trans rows.reverse_perm
  descends rows := (Arrangement.sort Task.createdAt).descends rows.reverse

/-- The second page is cut from another order than the first. -/
private def changing (k : Nat) : Arrangement Task.createdAt :=
  if k = 0 then sortedBack else Arrangement.sort Task.createdAt

private theorem matching_flushed :
    TaskService.matching .binary (sdkOf "acme") {} flushed = flushed.task.rows := by decide +kernel

private theorem apart_moments (c : Int) (k : Nat)
    (above : [(100 : Int), 200, 200].countP (fun moment => c < moment) < k * 2)
    (among : k * 2 < [(100 : Int), 200, 200].countP fun moment => c ≤ moment) : False := by
  simp only [List.countP_cons, List.countP_nil, decide_eq_true_eq] at above among
  split_ifs at above among <;> omega

/-- With two tasks a page, the boundary lies between two moments. -/
theorem listings_partition_two :
    Partitions (fun k => TaskService.listTasks .binary acmeSdk {} (k + 1) 2 (changing k)
      flushed) 2 (TaskService.matching .binary (sdkOf "acme") {} flushed) := by
  refine ((listings_partition_iff .binary (sdkOf "acme") 2 (by decide) (by decide)
    flushed).1 {}).2 ?_
    changing
  rw [matching_flushed]
  rintro k c ⟨above, among⟩
  exact apart_moments c k above among

/-- With one task a page, one of the two comes twice and the other is never listed. -/
theorem tied_task_lost :
    ¬ Partitions (fun k => TaskService.listTasks .binary acmeSdk {} (k + 1) 1 (changing k)
      flushed) 1 (TaskService.matching .binary (sdkOf "acme") {} flushed) := by
  have listed := @partitions_iff TaskError Task Task.createdAt
    (TaskService.matching .binary (sdkOf "acme") {} flushed) 1
    (fun k => TaskService.listTasks .binary acmeSdk {} (k + 1) 1 (changing k) flushed)
    changing (by decide) (by decide) fun k => rfl
  rw [listed]
  decide +kernel

end Listings

end Lcp
