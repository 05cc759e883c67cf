/-
# Db.RlsWrites -- updates and deletes behind the hook

An UPDATE or DELETE has one target.  The rows it touches are those for which WHERE
holds of the row and of some rows of the other tables that the statement names; what it
does to a row is a function of the row and of the first of these.  Subqueries in WHERE
see the database before the statement.

The hook adds one predicate, and it is about the target row alone.  So the rewritten
statement does to the tenant's rows what the original does, and nothing to the others
(`writes_confined`), whatever WHERE is.
-/
import Lcp.Db.RlsIsolation

namespace Lcp.Rls

open Theory

set_option autoImplicit false

/-! ## What a write does -/

namespace Statement

/-- The table that an UPDATE or DELETE writes. -/
def target? : Statement → Option String
  | .update table _ _ => some table
  | .delete table _ => some table
  | _ => none

section Execution

variable (others : List (From Row)) (db : String → List Row)

/-- The row of the target with the first rows of the other tables that WHERE accepts. -/
def matching (table : String) (whereclause : Pred Row) (row : Row) : Option (Env Row) :=
  ((evalFroms db [] others).map ((table, some row) :: ·)).find? fun env =>
    whereclause.eval db env = some true

/-- The statement touches the row of its target. -/
def touches : Statement → Row → Bool
  | .update table whereclause _, row => (matching others db table whereclause row).isSome
  | .delete table whereclause, row => (matching others db table whereclause row).isSome
  | _, _ => false

/-- What becomes of a row of the target; `none` is a deleted row. -/
def effect : Statement → Row → Option Row
  | .update table whereclause assign, row =>
      match matching others db table whereclause row with
      | some env => some (assign env row)
      | none => some row
  | .delete table whereclause, row =>
      match matching others db table whereclause row with
      | some _ => none
      | none => some row
  | _, row => some row

/-- The database after the statement. -/
def execute (stmt : Statement) (name : String) : List Row :=
  if stmt.target? = some name then (db name).filterMap (stmt.effect others db) else db name

end Execution

end Statement

/-- A writing statement executed behind the hook. -/
def executeWrite (metadata : MetaData) (principal : Option TenantPrincipal)
    (others : List (From Row)) (stmt : Statement) (db : String → List Row) :
    Except RlsError (String → List Row) :=
  (beforeExecute metadata true principal stmt).map fun rewritten => rewritten.execute others db

/-! ## What the injected predicate changes -/

section Injected

variable {others : List (From Row)} {db : String → List Row} {table tenant : String}

theorem matching_injected (whereclause : Pred Row) (row : Row) :
    Statement.matching others db table (.and_ whereclause (tenantEquals table tenant)) row =
      if ownedBy tenant row then Statement.matching others db table whereclause row else none := by
  have decides : ∀ env : Env Row,
      decide ((Pred.and_ whereclause (tenantEquals table tenant)).eval db
        ((table, some row) :: env) = some true) =
      (ownedBy tenant row && decide (whereclause.eval db ((table, some row) :: env) =
        some true)) := by
    intro env
    have owner : (tenantEquals table tenant).eval db ((table, some row) :: env) = some true ↔
        ownedBy tenant row = true := by
      rw [tenantEquals, Pred.eval, List.lookup_cons_self]
      simp [ownedBy]
    rw [Bool.eq_iff_iff, decide_eq_true_iff, Pred.eval, Kleene.and_eq_some_true, owner,
      Bool.and_eq_true, decide_eq_true_iff, and_comm]
  unfold Statement.matching
  simp only [List.find?_map, Function.comp_def, decides]
  cases owned : ownedBy tenant row with
  | true => simp
  | false => simp

/-- The rewritten statement touches the tenant's rows among those the original touches. -/
theorem touches_filter {stmt : Statement} (target : stmt.target? = some table) (row : Row) :
    (stmt.filter (tenantEquals table tenant)).touches others db row =
      (stmt.touches others db row && ownedBy tenant row) := by
  cases stmt with
  | read query => cases target
  | other => cases target
  | update name whereclause assign =>
      obtain rfl := Option.some.inj target
      rw [Statement.filter, Statement.touches, Statement.touches, matching_injected]
      cases ownedBy tenant row <;> simp
  | delete name whereclause =>
      obtain rfl := Option.some.inj target
      rw [Statement.filter, Statement.touches, Statement.touches, matching_injected]
      cases ownedBy tenant row <;> simp

/-- It does to them what the original does, and nothing to other rows. -/
theorem effect_filter {stmt : Statement} (target : stmt.target? = some table) (row : Row) :
    (stmt.filter (tenantEquals table tenant)).effect others db row =
      if ownedBy tenant row then stmt.effect others db row else some row := by
  cases stmt with
  | read query => cases target
  | other => cases target
  | update name whereclause assign =>
      obtain rfl := Option.some.inj target
      rw [Statement.filter, Statement.effect, Statement.effect, matching_injected]
      cases ownedBy tenant row <;> simp
  | delete name whereclause =>
      obtain rfl := Option.some.inj target
      rw [Statement.filter, Statement.effect, Statement.effect, matching_injected]
      cases ownedBy tenant row <;> simp

end Injected

/-! ## The hook on a write -/

section Hook

variable {metadata : MetaData} {table : String} {stmt : Statement}

theorem targets_write (target : stmt.target? = some table) (protected_ : isProtected table = true) :
    findRlsTargets metadata stmt = [{ name := table, columns := metadata table }] := by
  have one : ([{ name := table, columns := metadata table }] : List Leaf).filter
      (fun leaf => isProtected leaf.name) = [{ name := table, columns := metadata table }] :=
    List.filter_cons_of_pos protected_
  cases stmt with
  | read query => cases target
  | other => cases target
  | update name whereclause assign =>
      obtain rfl := Option.some.inj target
      rw [findRlsTargets, one]
      rfl
  | delete name whereclause =>
      obtain rfl := Option.some.inj target
      rw [findRlsTargets, one]
      rfl

theorem beforeExecute_write (target : stmt.target? = some table)
    (protected_ : isProtected table = true) (column : "tenant_id" ∈ metadata table)
    {principal : TenantPrincipal} (tenant : principal.isSystem = false) :
    beforeExecute metadata true (some principal) stmt =
      .ok (stmt.filter (tenantEquals table principal.tenantId)) := by
  unfold beforeExecute
  rw [if_neg (by decide), targets_write target protected_]
  show (if principal.isSystem = true then _ else _) = _
  rw [if_neg (by simp [tenant]), injectTenantFilter, if_pos column, injectTenantFilter]

theorem target?_filter (stmt : Statement) (pred : Pred Row) :
    (stmt.filter pred).target? = stmt.target? := by
  cases stmt with
  | read query => cases query <;> rfl
  | update name whereclause assign => rfl
  | delete name whereclause => rfl
  | other => rfl

/-- **Writes are confined.**  For an UPDATE or DELETE of a protected table, behind the hook and
under a tenant: the rows it touches are those of the tenant that the original touches; what it
does to a row of the tenant is what the original does, and a row of another tenant stays as it
is; the other tables stay as they are.  Without a principal it does not run. -/
theorem writes_confined (target : stmt.target? = some table) (protected_ : isProtected table = true)
    (column : "tenant_id" ∈ metadata table) (others : List (From Row)) (db : String → List Row) :
    (∀ principal : TenantPrincipal, principal.isSystem = false → ∃ rewritten,
      beforeExecute metadata true (some principal) stmt = .ok rewritten ∧
      (∀ row, rewritten.touches others db row = true ↔
        stmt.touches others db row = true ∧ ownedBy principal.tenantId row = true) ∧
      (∀ row, rewritten.effect others db row =
        if ownedBy principal.tenantId row then stmt.effect others db row else some row) ∧
      executeWrite metadata (some principal) others stmt db =
        .ok fun name => if name = table then
          (db table).filterMap fun row =>
            if ownedBy principal.tenantId row then stmt.effect others db row else some row
        else db name) ∧
    ∃ message, executeWrite metadata none others stmt db = .error (.permission message) := by
  constructor
  · intro principal tenant
    have rewritten := beforeExecute_write target protected_ column tenant
    refine ⟨_, rewritten, fun row => ?_, effect_filter target, ?_⟩
    · rw [touches_filter target, Bool.and_eq_true]
    · rw [executeWrite, rewritten]
      show Except.ok _ = Except.ok _
      congr 1
      funext name
      show (stmt.filter (tenantEquals table principal.tenantId)).execute others db name = _
      rw [Statement.execute, target?_filter, target]
      by_cases same : name = table
      · subst same
        rw [if_pos rfl, if_pos rfl]
        congr 1
        funext row
        exact effect_filter target row
      · rw [if_neg fun other => same (Option.some.inj other).symm, if_neg same]
  · unfold executeWrite beforeExecute
    rw [if_neg (by decide), targets_write target protected_]
    exact ⟨_, rfl⟩

end Hook

section Examples

private def taskColumns : MetaData
  | "dataset" => ["dataset_uuid", "tenant_id"]
  | "task" => ["task_uuid", "dataset_uuid", "tenant_id"]
  | _ => ["id"]

/-- Cancel every task, if there is any dataset at all. -/
def cancelAll : Statement :=
  .update "task"
    (.exists_ (.select [.table "dataset"] (.cond fun _ => some true) fun _ envs =>
      envs.map fun _ => []))
    fun _ row => row ++ [("status", .str "CANCELLED")]

private def taskOf (tenant : String) : Row := [("task_uuid", .str "t"), ("tenant_id", .str tenant)]

private def twoTenants : String → List Row
  | "dataset" => [[("tenant_id", .str "globex")]]
  | "task" => [taskOf "acme", taskOf "globex"]
  | _ => []

/-- Run by a client of `acme`, it cancels the task of `acme`. -/
theorem writes_confined_cancel :
    (∃ rewritten, beforeExecute taskColumns true (some ⟨"acme", "sdk", .oidc, false⟩) cancelAll =
        .ok rewritten ∧
      rewritten.touches [] twoTenants (taskOf "acme") = true ∧
      rewritten.touches [] twoTenants (taskOf "globex") = false) ∧
    ∃ message, executeWrite taskColumns none [] cancelAll twoTenants =
      .error (.permission message) := by
  obtain ⟨confined, refused⟩ := @writes_confined taskColumns "task" cancelAll rfl (by decide)
    (by decide) [] twoTenants
  obtain ⟨rewritten, ran, touches, -⟩ := confined ⟨"acme", "sdk", .oidc, false⟩ rfl
  refine ⟨⟨rewritten, ran, (touches _).2 (by decide), ?_⟩, refused⟩
  refine Bool.eq_false_iff.2 fun touched => ?_
  exact absurd ((touches _).1 touched).2 (by decide)

end Examples

end Lcp.Rls
