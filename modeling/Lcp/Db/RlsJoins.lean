/-
# Db.RlsJoins -- the hook's predicates against filtered tables

The hook adds its predicates to the WHERE clause, after the joins.  What it stands for
is the statement on the tenant's rows, where the tables are filtered before the joins.
On a FROM clause of join trees the two return the same rows, but for those in which an
outer join found no partner for a row and put NULL in place of a `dataset` or a `task`:
the injected predicate is then NULL and the row is dropped.

`joins_exact_iff` is the exact condition, `exact_of_preserves` a reason in the shape of
the statement.
-/
import Lcp.Db.RlsIsolation
import Lcp.Theory.Restriction

namespace Lcp.Rls

open Theory

set_option autoImplicit false

/-- The database with only the `dataset` and `task` rows of a tenant. -/
def tenantRows (tenant : String) (db : String → List Row) : String → List Row :=
  restrict isProtected (ownedBy tenant) db

/-- The rewritten statement returns on `db` what the original returns on the tenant's rows. -/
def Exact (metadata : MetaData) (principal : TenantPrincipal) (query : Query Row)
    (db : String → List Row) : Prop :=
  executeRead metadata (some principal) query db =
    .ok (query.eval (tenantRows principal.tenantId db) [])

instance (metadata : MetaData) (principal : TenantPrincipal) (query : Query Row)
    (db : String → List Row) : Decidable (Exact metadata principal query db) :=
  inferInstanceAs (Decidable (_ = _))

/-- In no joined row of the tenant's rows that WHERE keeps, NULL stands for a `dataset` or a
`task`. -/
def NullFree (tenant : String) (froms : List (From Row)) (whereclause : Pred Row)
    (db : String → List Row) : Prop :=
  ∀ env ∈ evalFroms (tenantRows tenant db) [] froms,
    whereclause.eval (tenantRows tenant db) env = some true → env.bound isProtected = true

instance (tenant : String) (froms : List (From Row)) (whereclause : Pred Row)
    (db : String → List Row) : Decidable (NullFree tenant froms whereclause db) :=
  inferInstanceAs (Decidable (∀ env ∈ evalFroms (tenantRows tenant db) [] froms, _))

/-- A plain list of columns: one returned row for each joined row. -/
def columnList (columns : Env Row → Row) : Env Row → List (Env Row) → List Row :=
  fun _ envs => envs.map columns

/-- A statement on join trees of base tables, whose WHERE has no subquery on a protected table. -/
structure JoinStatement where
  froms : List (From Row)
  whereclause : Pred Row
  trees : ∀ source ∈ froms, source.isJoinTree = true
  distinct : (froms.flatMap From.names).Nodup
  whereclause_wellScoped : whereclause.wellScoped = true
  unread : whereclause.reads isProtected = false

namespace JoinStatement

variable (stmt : JoinStatement)

/-- The select with its columns, grouping, order and limits. -/
def select (output : Env Row → List (Env Row) → List Row) : Query Row :=
  .select stmt.froms stmt.whereclause output

theorem wellScoped_select (output : Env Row → List (Env Row) → List Row) :
    (stmt.select output).wellScoped = true := by
  rw [select, Query.wellScoped, wellScopedFroms_of_isJoinTree stmt.trees,
    stmt.whereclause_wellScoped]
  simp [stmt.distinct]

end JoinStatement

section Exactness

variable {metadata : MetaData}

theorem tenantless_of_isJoinTree
    (column : ∀ name, isProtected name = true → "tenant_id" ∈ metadata name) :
    ∀ source : From Row, source.isJoinTree = true → tenantless metadata source = false
  | .table name, _ => by
      cases protected_ : isProtected name with
      | false => simp [tenantless, protected_]
      | true => simp [tenantless, column name protected_]
  | .join kind left right onclause, tree => by
      simp only [From.isJoinTree, Bool.and_eq_true] at tree
      rw [tenantless, tenantless_of_isJoinTree column left tree.1,
        tenantless_of_isJoinTree column right tree.2, Bool.or_self]

/-- **What the rewritten statement returns**, in terms of the tenant's rows. -/
theorem executeRead_joins
    (column : ∀ name, isProtected name = true → "tenant_id" ∈ metadata name)
    {principal : TenantPrincipal} (tenant : principal.isSystem = false) (stmt : JoinStatement)
    (output : Env Row → List (Env Row) → List Row) (db : String → List Row) :
    executeRead metadata (some principal) (stmt.select output) db =
      .ok (output [] (((evalFroms (tenantRows principal.tenantId db) [] stmt.froms).filter
        (Env.bound isProtected)).filter fun env =>
          stmt.whereclause.eval (tenantRows principal.tenantId db) env = some true)) := by
  have qualified : unqualifiable metadata (stmt.select output) = false := by
    rw [JoinStatement.select, unqualifiable, List.any_eq_false]
    intro source listed
    simp [tenantless_of_isJoinTree column source (stmt.trees source listed)]
  have sameWhere : ∀ env, stmt.whereclause.eval db env =
      stmt.whereclause.eval (tenantRows principal.tenantId db) env := fun env =>
    Pred.eval_congr (agreeWithin_restrict db).outside env stmt.whereclause stmt.unread
  unfold JoinStatement.select at qualified ⊢
  rw [executeRead_select tenant (stmt.wellScoped_select output) qualified]
  congr 2
  have both : (evalFroms db [] stmt.froms).filter (fun env =>
      env.within isProtected (ownedBy principal.tenantId) &&
        stmt.whereclause.eval db env = some true) =
      ((evalFroms db [] stmt.froms).filter
        (Env.within isProtected (ownedBy principal.tenantId))).filter fun env =>
          stmt.whereclause.eval db env = some true := by
    rw [List.filter_filter]
    exact List.filter_congr fun env _ => Bool.and_comm _ _
  rw [both, filter_evalFroms stmt.trees]
  exact List.filter_congr fun env _ => by rw [sameWhere]

theorem nullFree_of_length {tenant : String} {froms : List (From Row)} {whereclause : Pred Row}
    {db : String → List Row}
    (counts : (((evalFroms (tenantRows tenant db) [] froms).filter
        (Env.bound isProtected)).filter fun env =>
          whereclause.eval (tenantRows tenant db) env = some true).length =
      ((evalFroms (tenantRows tenant db) [] froms).filter fun env =>
        whereclause.eval (tenantRows tenant db) env = some true).length) :
    NullFree tenant froms whereclause db := by
  have swapped : ((evalFroms (tenantRows tenant db) [] froms).filter
      (Env.bound isProtected)).filter (fun env =>
        whereclause.eval (tenantRows tenant db) env = some true) =
      ((evalFroms (tenantRows tenant db) [] froms).filter fun env =>
        whereclause.eval (tenantRows tenant db) env = some true).filter
          (Env.bound isProtected) := by
    rw [List.filter_filter, List.filter_filter]
    exact List.filter_congr fun env _ => Bool.and_comm _ _
  rw [swapped, List.length_filter_eq_length_iff] at counts
  intro env member kept
  exact counts env (List.mem_filter.2 ⟨member, decide_eq_true kept⟩)

/-- **When the rewriting is exact.**  Whatever a statement selects, the hook's version of it
returns on a database what the original returns on the tenant's rows, if and only if among the
latter's joined rows WHERE keeps none with NULL in place of a protected row.  For a plain list
of columns one statement is enough to tell. -/
theorem joins_exact_iff
    (column : ∀ name, isProtected name = true → "tenant_id" ∈ metadata name)
    {principal : TenantPrincipal} (tenant : principal.isSystem = false) (stmt : JoinStatement)
    (db : String → List Row) :
    ((∀ output, Exact metadata principal (stmt.select output) db) ↔
      NullFree principal.tenantId stmt.froms stmt.whereclause db) ∧
    ∀ columns, Exact metadata principal (stmt.select (columnList columns)) db ↔
      NullFree principal.tenantId stmt.froms stmt.whereclause db := by
  have enough : NullFree principal.tenantId stmt.froms stmt.whereclause db →
      ∀ output, Exact metadata principal (stmt.select output) db := by
    intro nullFree output
    unfold Exact
    rw [executeRead_joins column tenant, JoinStatement.select, Query.eval]
    congr 2
    simp only [List.append_nil]
    rw [List.filter_filter]
    refine List.filter_congr fun env member => ?_
    cases kept : decide (stmt.whereclause.eval (tenantRows principal.tenantId db) env = some true)
    · simp
    · simp [nullFree env member (of_decide_eq_true kept)]
  have needed : ∀ columns, Exact metadata principal (stmt.select (columnList columns)) db →
      NullFree principal.tenantId stmt.froms stmt.whereclause db := by
    intro columns exact_
    unfold Exact at exact_
    rw [executeRead_joins column tenant, JoinStatement.select, Query.eval] at exact_
    have lengths := congrArg List.length (Except.ok.inj exact_)
    simp only [columnList, List.length_map, List.append_nil] at lengths
    exact nullFree_of_length lengths
  exact ⟨⟨fun all => needed (fun _ => []) (all _), enough⟩,
    fun columns => ⟨needed columns, fun nullFree => enough nullFree _⟩⟩

/-- Without an outer join that can null a `dataset` or a `task`, the rewriting is exact on every
database. -/
theorem exact_of_preserves
    (column : ∀ name, isProtected name = true → "tenant_id" ∈ metadata name)
    {principal : TenantPrincipal} (tenant : principal.isSystem = false) {stmt : JoinStatement}
    (preserved : ∀ source ∈ stmt.froms, source.preserves isProtected = true)
    (output : Env Row → List (Env Row) → List Row) (db : String → List Row) :
    Exact metadata principal (stmt.select output) db := by
  refine (joins_exact_iff column tenant stmt db).1.2 (fun env member _ => ?_) output
  exact bound_of_preserves preserved env member

end Exactness

section Examples

private def schema : MetaData
  | "dataset" => ["dataset_uuid", "tenant_id"]
  | "task" => ["task_uuid", "dataset_uuid", "tenant_id"]
  | _ => ["id"]

private theorem schema_tenantId (name : String) (protected_ : isProtected name = true) :
    "tenant_id" ∈ schema name := by
  simp only [isProtected, RLS_PROTECTED_TABLES, decide_eq_true_eq, List.mem_cons,
    List.not_mem_nil, or_false] at protected_
  rcases protected_ with rfl | rfl <;> decide

/-- The condition `task.dataset_uuid = dataset.dataset_uuid`. -/
private def sameDataset (env : Env Row) : Option Bool := do
  let dataset ← (env.lookup "dataset").join
  let task ← (env.lookup "task").join
  return Json.get? dataset "dataset_uuid" = Json.get? task "dataset_uuid"

/-- The statement `SELECT dataset.* FROM dataset LEFT JOIN task ON ...`. -/
def datasetsWithTasks : JoinStatement where
  froms := [.join .leftOuter (.table "dataset") (.table "task") sameDataset]
  whereclause := .cond fun _ => some true
  trees := by decide
  distinct := by decide
  whereclause_wellScoped := rfl
  unread := rfl

private def datasetColumns : Env Row → Row := fun env => (env.lookup "dataset").join.getD []

private def datasetRow : Row := [("dataset_uuid", .str "d1"), ("tenant_id", .str "acme")]

/-- A dataset of `acme`, with these tasks. -/
private def lakeWith (tasks : List Row) : String → List Row
  | "dataset" => [datasetRow]
  | "task" => tasks
  | _ => []

/-- A dataset without a task is returned by the statement and not by the rewritten one. -/
theorem outer_join_drops :
    Query.eval (tenantRows "acme" (lakeWith [])) []
        (datasetsWithTasks.select (columnList datasetColumns)) = [datasetRow] ∧
      executeRead schema (some (sdkOf "acme"))
          (datasetsWithTasks.select (columnList datasetColumns))
        (lakeWith []) = .ok [] ∧
      ¬ Exact schema (sdkOf "acme") (datasetsWithTasks.select (columnList datasetColumns))
        (lakeWith []) := by
  refine ⟨by decide, rfl, by decide⟩

/-- With a task it is returned by both. -/
theorem outer_join_exact :
    Exact schema (sdkOf "acme") (datasetsWithTasks.select (columnList datasetColumns))
      (lakeWith [[("task_uuid", .str "t1"), ("dataset_uuid", .str "d1"),
        ("tenant_id", .str "acme")]]) :=
  ((joins_exact_iff schema_tenantId rfl datasetsWithTasks _).2 datasetColumns).2 (by decide)

end Examples

end Lcp.Rls
