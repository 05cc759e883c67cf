/-
# Db.RlsCollation -- the injected predicate under the schema's collation

The hook compares `tenant_id` in the database, and there two texts are equal when the
column's collation gives them the same weights.  The schema declares
`utf8mb4_0900_ai_ci` for every table: its weights leave case and accents out.  The
credential, the context variable and the identity provider compare tenant ids exactly.

A collation is a parameter here, as its table of weights is the database's.  The hook
tells two tenants apart just when the collation does (`apart_iff`); when it does not,
the two are one tenant to the database (`injectTenantFilterUnder_congr`).
-/
import Lcp.Core.Security
import Lcp.Db.RlsIsolation

namespace Lcp.Rls

open Theory

set_option autoImplicit false

/-! ## Collations -/

/-- A column's collation: texts of equal weights compare equal. -/
structure Collation where
  weights : String → List Nat

namespace Collation

/-- Equal as the column compares. -/
def same (collation : Collation) (left right : String) : Bool :=
  collation.weights left = collation.weights right

/-- A binary collation. -/
def binary : Collation := ⟨fun text => text.toList.map Char.toNat⟩

/-- Small letters for the capitals of ASCII. -/
def lowered (text : String) : List Char := text.toList.map Char.toLower

/-- The collation has one weight for a letter of ASCII, small or capital. -/
def CaseInsensitive (collation : Collation) : Prop :=
  ∀ left right, lowered left = lowered right → collation.same left right = true

/-- A case-insensitive collation that is binary otherwise. -/
def asciiCaseInsensitive : Collation := ⟨fun text => (lowered text).map Char.toNat⟩

theorem asciiCaseInsensitive_caseInsensitive : asciiCaseInsensitive.CaseInsensitive := by
  intro left right lowers
  simp only [same, asciiCaseInsensitive, lowers, decide_true]

@[simp] theorem same_binary (left right : String) :
    binary.same left right = decide (left = right) := by
  refine decide_eq_decide.2 ⟨fun weights => ?_, fun texts => texts ▸ rfl⟩
  exact String.toList_inj.1 (List.map_injective_iff.2 (fun _ _ => Char.toNat_inj.1) weights)

end Collation

/-! ## The injection -/

section Injection

variable (collation : Collation)

/-- The predicate `<target>.tenant_id = :tenant_id` as the column compares. -/
def tenantEqualsUnder (target tenant : String) : Pred Row :=
  .cond fun env =>
    match env.lookup target with
    | some (some row) => (tenantId row).map (collation.same · tenant)
    | _ => none

/-- The injection with predicates that compare under the collation. -/
def injectTenantFilterUnder (tenant : String) :
    List Leaf → Statement → Except RlsError Statement
  | [], rewritten => .ok rewritten
  | target :: rest, rewritten =>
      if "tenant_id" ∈ target.columns then
        injectTenantFilterUnder tenant rest
          (rewritten.filter (tenantEqualsUnder collation target.name tenant))
      else .error (.attribute "tenant_id")

/-- WHERE accepts the joined row. -/
def Statement.accepts (db : String → List Row) (env : Env Row) : Statement → Bool
  | .read (.select _ whereclause _) => whereclause.eval db env = some true
  | .update _ whereclause _ => whereclause.eval db env = some true
  | .delete _ whereclause => whereclause.eval db env = some true
  | _ => false

variable {collation}

theorem tenantEqualsUnder_binary (target tenant : String) :
    tenantEqualsUnder .binary target tenant = tenantEquals target tenant := by
  rw [tenantEqualsUnder, tenantEquals]
  refine congrArg Pred.cond (funext fun env => ?_)
  rcases env.lookup target with _ | _ | row
  · rfl
  · rfl
  · exact congrArg (Option.map · (tenantId row))
      (funext fun text => Collation.same_binary text tenant)

/-- The hook's own injection is the one under a binary collation. -/
theorem injectTenantFilterUnder_binary (tenant : String) (targets : List Leaf)
    (stmt : Statement) :
    injectTenantFilterUnder .binary tenant targets stmt =
      injectTenantFilter tenant targets stmt := by
  induction targets generalizing stmt with
  | nil => rfl
  | cons target rest ih =>
      rw [injectTenantFilterUnder, injectTenantFilter, ih, tenantEqualsUnder_binary]

/-- **Tenants of equal weights are one tenant**: the hook writes them the same statements. -/
theorem injectTenantFilterUnder_congr {tenant other : String}
    (weights : collation.weights tenant = collation.weights other) (targets : List Leaf)
    (stmt : Statement) :
    injectTenantFilterUnder collation tenant targets stmt =
      injectTenantFilterUnder collation other targets stmt := by
  have pred (target : String) :
      tenantEqualsUnder collation target tenant = tenantEqualsUnder collation target other := by
    simp only [tenantEqualsUnder, Collation.same, weights]
  induction targets generalizing stmt with
  | nil => rfl
  | cons target rest ih => rw [injectTenantFilterUnder, injectTenantFilterUnder, ih, pred]

theorem accepts_filter (db : String → List Row) (env : Env Row) (stmt : Statement)
    (pred : Pred Row) :
    (stmt.filter pred).accepts db env = true ↔
      stmt.accepts db env = true ∧ pred.eval db env = some true := by
  have both (whereclause : Pred Row) :
      decide ((Pred.and_ whereclause pred).eval db env = some true) = true ↔
        decide (whereclause.eval db env = some true) = true ∧ pred.eval db env = some true := by
    rw [decide_eq_true_iff, decide_eq_true_iff, Pred.eval, Kleene.and_eq_some_true]
  cases stmt with
  | read query =>
      cases query with
      | select froms whereclause output => exact both whereclause
      | compound op left right => simp [Statement.filter, Statement.accepts]
  | update table whereclause assign => exact both whereclause
  | delete table whereclause => exact both whereclause
  | other => simp [Statement.filter, Statement.accepts]

/-- What the injected WHERE accepts. -/
theorem accepts_injected {tenant : String} {targets : List Leaf} {stmt rewritten : Statement}
    (injected : injectTenantFilterUnder collation tenant targets stmt = .ok rewritten)
    (db : String → List Row) (env : Env Row) :
    rewritten.accepts db env = true ↔
      stmt.accepts db env = true ∧ ∀ target ∈ targets,
        (tenantEqualsUnder collation target.name tenant).eval db env = some true := by
  induction targets generalizing stmt with
  | nil =>
      cases injected
      simp
  | cons target rest ih =>
      rw [injectTenantFilterUnder] at injected
      split at injected
      · rw [ih injected, accepts_filter, List.forall_mem_cons, and_assoc]
      · cases injected

end Injection

/-! ## Tenants apart -/

section Apart

variable (collation : Collation)

/-- The length of the `tenant_id` columns. -/
def TENANT_ID_LENGTH : Nat := 64

/-- The row is stored with this tenant id. -/
def Stores (row : Row) (tenant : String) : Prop :=
  tenantId row = some tenant ∧ tenant.length ≤ TENANT_ID_LENGTH

/-- What is injected for the first tenant never selects a row stored with the other's id. -/
def Apart (tenant other : String) : Prop :=
  ∀ targets stmt rewritten,
    injectTenantFilterUnder collation tenant targets stmt = .ok rewritten →
    ∀ target ∈ targets, ∀ db env row, env.lookup target.name = some (some row) →
      Stores row other → rewritten.accepts db env = false

variable {collation} {tenant other : String}

theorem tenantEqualsUnder_stored {target : String} {db : String → List Row} {env : Env Row}
    {row : Row} (bound : env.lookup target = some (some row)) (stored : Stores row other) :
    (tenantEqualsUnder collation target tenant).eval db env =
      some (collation.same other tenant) := by
  rw [tenantEqualsUnder, Pred.eval, bound]
  show Option.map _ (tenantId row) = _
  rw [stored.1]
  rfl

theorem apart_of_weights (differ : collation.weights tenant ≠ collation.weights other) :
    Apart collation tenant other := by
  intro targets stmt rewritten injected target listed db env row bound stored
  refine Bool.eq_false_iff.2 fun accepted => ?_
  have equal := ((accepts_injected injected db env).1 accepted).2 target listed
  rw [tenantEqualsUnder_stored bound stored, Option.some.injEq, Collation.same,
    decide_eq_true_eq] at equal
  exact differ equal.symm

/-- The statement `SELECT * FROM dataset`. -/
def everyDataset : Query Row :=
  .select [.table "dataset"] (.cond fun _ => some true) fun _ envs =>
    envs.filterMap fun env => (env.lookup "dataset").join

theorem not_apart_of_weights (weights : collation.weights tenant = collation.weights other)
    (fits : other.length ≤ TENANT_ID_LENGTH) : ¬ Apart collation tenant other := by
  intro apart
  have stored : Stores [("tenant_id", .str other)] other := ⟨rfl, fits⟩
  have injected : injectTenantFilterUnder collation tenant [⟨"dataset", ["tenant_id"]⟩]
      (.read everyDataset) = .ok ((Statement.read everyDataset).filter
        (tenantEqualsUnder collation "dataset" tenant)) := rfl
  have refused := apart _ _ _ injected _ (.head _) (fun _ => [])
    [("dataset", some [("tenant_id", .str other)])] _ rfl stored
  refine Bool.eq_false_iff.1 refused ((accepts_injected injected _ _).2 ⟨rfl, ?_⟩)
  intro target listed
  rw [List.mem_singleton] at listed
  subst listed
  rw [tenantEqualsUnder_stored rfl stored, Collation.same, weights]
  simp

/-- Under a collation that leaves case out, tenant ids that differ in case are not kept
apart. -/
theorem not_apart_of_lowered (insensitive : collation.CaseInsensitive)
    (lowers : Collation.lowered tenant = Collation.lowered other)
    (fits : other.length ≤ TENANT_ID_LENGTH) : ¬ Apart collation tenant other :=
  not_apart_of_weights (of_decide_eq_true (insensitive tenant other lowers)) fits

/-- **The hook keeps two tenants apart just when the collation does**, or when the other's id
is too long for the column. -/
theorem apart_iff :
    Apart collation tenant other ↔
      (other.length ≤ TENANT_ID_LENGTH →
        collation.weights tenant ≠ collation.weights other) := by
  constructor
  · intro apart fits weights
    exact not_apart_of_weights weights fits apart
  · intro differ
    by_cases fits : other.length ≤ TENANT_ID_LENGTH
    · exact apart_of_weights (differ fits)
    · intro targets stmt rewritten injected target listed db env row bound stored
      exact absurd stored.2 fits

private def capitalRow : Row := [("dataset_uuid", .str "d1"), ("tenant_id", .str "Acme")]

private def capitalLake : String → List Row
  | "dataset" => [capitalRow]
  | _ => []

/-- The tenants `acme` and `Acme` are different ones to `extractTenantFromClaims`; behind the
hook and a case-insensitive collation, the first reads the second's dataset. -/
theorem case_collides :
    Security.extractTenantFromClaims [("tenant_id", .str "acme")] = .ok "acme" ∧
      Security.extractTenantFromClaims [("tenant_id", .str "Acme")] = .ok "Acme" ∧
      (injectTenantFilterUnder .asciiCaseInsensitive "acme"
        [⟨"dataset", ["dataset_uuid", "tenant_id"]⟩] (.read everyDataset)).map
          (Statement.rows capitalLake) = .ok [capitalRow] ∧
      ¬ Apart .asciiCaseInsensitive "acme" "Acme" := by
  refine ⟨rfl, rfl, rfl, not_apart_of_lowered
    Collation.asciiCaseInsensitive_caseInsensitive (by decide) (by decide)⟩

end Apart

end Lcp.Rls
