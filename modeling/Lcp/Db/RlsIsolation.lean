/-
# Db.RlsIsolation -- which statements the hook isolates

`executeRead_select` says what a select behind the hook returns: the rows its
WHERE clause keeps among those whose protected names are all bound to rows of
the tenant.  From it, both directions:

* A statement whose protected tables are all leaves of its top-level FROM clause
  depends only on the tenant's rows (`safe_of_guarded`).
* For any other statement, some statement of the same skeleton returns different
  rows on two databases that the tenant must not tell apart (`leaks`).
-/
import Lcp.Db.Rls

namespace Lcp.Rls

open Theory Distinguishing

set_option autoImplicit false

/-- A statement a database accepts: no FROM clause binds one name twice. -/
structure ReadStatement where
  query : Query Row
  wellScoped : query.wellScoped = true

def ownedBy (tenant : String) (row : Row) : Bool := tenantId row = some tenant

/-- What a tenant reads is a function of the unprotected tables and its own rows. -/
def Noninterferent (metadata : MetaData) (stmt : ReadStatement) : Prop :=
  ∀ principal : TenantPrincipal, principal.isSystem = false →
    ∀ db db', AgreeWithin isProtected (ownedBy principal.tenantId) db db' →
      executeRead metadata (some principal) stmt.query db =
        executeRead metadata (some principal) stmt.query db'

/-- Without a principal, a statement that mentions a protected table is refused. -/
def FailsClosed (metadata : MetaData) (stmt : ReadStatement) : Prop :=
  stmt.query.reads isProtected = true → ∀ db, ∃ message,
    executeRead metadata none stmt.query db = .error (.permission message)

def Safe (metadata : MetaData) (stmt : ReadStatement) : Prop :=
  Noninterferent metadata stmt ∧ FailsClosed metadata stmt

/-! ## The shapes that are guarded -/

/-- Every protected table is a leaf of the top-level FROM clause, under a protected
name of its own. -/
def visible {ρ : Type} : Query ρ → Bool
  | .select froms whereclause _ =>
      froms.all (From.exposes isProtected) && !whereclause.reads isProtected
  | .compound _ left right => !(left.reads isProtected || right.reads isProtected)

/-- Some leaf under a protected name has no `tenant_id` column. -/
def tenantless {ρ : Type} (metadata : MetaData) : From ρ → Bool
  | .table name => isProtected name && "tenant_id" ∉ metadata name
  | .aliased base name => isProtected name && "tenant_id" ∉ metadata base
  | .subquery _ columns name => isProtected name && "tenant_id" ∉ columns
  | .join _ left right _ => tenantless metadata left || tenantless metadata right

/-- The hook has no predicate to add, and raises `AttributeError`. -/
def unqualifiable {ρ : Type} (metadata : MetaData) : Query ρ → Bool
  | .select froms _ _ => froms.any (tenantless metadata)
  | .compound .. => false

/-! ## The leaves -/

section Leaves

variable (metadata : MetaData)

theorem names_of_leaves :
    ∀ source : From Row, (iterLeafTables metadata source).map Leaf.name = source.names
  | .table name => rfl
  | .aliased base name => rfl
  | .subquery query columns name => rfl
  | .join kind left right onclause => by
      rw [iterLeafTables, List.map_append, names_of_leaves left, names_of_leaves right, From.names]

theorem names_of_all_leaves (froms : List (From Row)) :
    (froms.flatMap (iterLeafTables metadata)).map Leaf.name = froms.flatMap From.names := by
  rw [List.map_flatMap]
  refine List.flatMap_congr fun source _ => ?_
  exact names_of_leaves metadata source

variable {metadata}

theorem tenantless_iff :
    ∀ source : From Row, tenantless metadata source = true ↔
      ∃ leaf ∈ iterLeafTables metadata source, isProtected leaf.name = true ∧
        "tenant_id" ∉ leaf.columns
  | .table name => by simp [tenantless, iterLeafTables]
  | .aliased base name => by simp [tenantless, iterLeafTables]
  | .subquery query columns name => by simp [tenantless, iterLeafTables]
  | .join kind left right onclause => by
      rw [tenantless, Bool.or_eq_true, tenantless_iff left, tenantless_iff right, iterLeafTables]
      simp only [List.mem_append, or_and_right, exists_or]

theorem mem_targets {froms : List (From Row)} {whereclause : Pred Row}
    {output : Env Row → List (Env Row) → List Row} {leaf : Leaf} :
    leaf ∈ findRlsTargets metadata (.read (.select froms whereclause output)) ↔
      leaf ∈ froms.flatMap (iterLeafTables metadata) ∧ isProtected leaf.name = true := by
  simp [findRlsTargets]

variable (metadata)

/-- The names of the targets are the protected names in scope. -/
theorem exists_target {froms : List (From Row)} (whereclause : Pred Row)
    (output : Env Row → List (Env Row) → List Row) {name : String}
    (inScope : name ∈ froms.flatMap From.names) (protected_ : isProtected name = true) :
    ∃ target ∈ findRlsTargets metadata (.read (.select froms whereclause output)),
      target.name = name := by
  rw [← names_of_all_leaves metadata] at inScope
  obtain ⟨leaf, inLeaves, rfl⟩ := List.mem_map.1 inScope
  exact ⟨leaf, mem_targets.2 ⟨inLeaves, protected_⟩, rfl⟩

end Leaves

/-! ## What a rewritten select returns -/

variable {metadata : MetaData}

/-- The WHERE clause after the injection. -/
def guardedWhere (tenant : String) (targets : List Leaf) (whereclause : Pred Row) : Pred Row :=
  targets.foldl (fun pred target => .and_ pred (tenantEquals target.name tenant)) whereclause

theorem inject_select {tenant : String} {targets : List Leaf}
    (qualified : ∀ target ∈ targets, "tenant_id" ∈ target.columns) (froms : List (From Row))
    (whereclause : Pred Row) (output : Env Row → List (Env Row) → List Row) :
    injectTenantFilter tenant targets (.read (.select froms whereclause output)) =
      .ok (.read (.select froms (guardedWhere tenant targets whereclause) output)) := by
  induction targets generalizing whereclause with
  | nil => rfl
  | cons target rest ih =>
      rw [injectTenantFilter, if_pos (qualified target (.head _)), Statement.filter,
        ih fun other member => qualified other (.tail _ member)]
      rfl

theorem inject_unqualified {tenant : String} {targets : List Leaf} {stmt : Statement}
    (unqualified : ∃ target ∈ targets, "tenant_id" ∉ target.columns) :
    injectTenantFilter tenant targets stmt = .error (.attribute "tenant_id") := by
  induction targets generalizing stmt with
  | nil => simp at unqualified
  | cons target rest ih =>
      rw [injectTenantFilter]
      split
      · rename_i column
        refine ih ?_
        obtain ⟨other, member, missing⟩ := unqualified
        rcases List.mem_cons.1 member with rfl | inRest
        · exact absurd column missing
        · exact ⟨other, inRest, missing⟩
      · rfl

theorem guardedWhere_eval {tenant : String} (targets : List Leaf) (whereclause : Pred Row)
    (db : String → List Row) (env : Env Row) :
    (guardedWhere tenant targets whereclause).eval db env = some true ↔
      whereclause.eval db env = some true ∧
        ∀ target ∈ targets, ∃ row, env.lookup target.name = some (some row) ∧
          ownedBy tenant row = true := by
  induction targets generalizing whereclause with
  | nil => simp [guardedWhere]
  | cons target rest ih =>
      have equals : (tenantEquals target.name tenant).eval db env = some true ↔
          ∃ row, env.lookup target.name = some (some row) ∧ ownedBy tenant row = true := by
        unfold tenantEquals
        rw [Pred.eval]
        rcases env.lookup target.name with _ | _ | row <;> simp [ownedBy]
      have unfolded : guardedWhere tenant (target :: rest) whereclause =
          guardedWhere tenant rest (.and_ whereclause (tenantEquals target.name tenant)) := rfl
      rw [unfolded, ih, Pred.eval, Kleene.and_eq_some_true, equals, List.forall_mem_cons,
        and_assoc]

/-- For the bindings of a well-scoped FROM clause, the injected predicates say that
every protected name is bound to a row of the tenant. -/
theorem targets_iff_within (metadata : MetaData) {tenant : String} {froms : List (From Row)}
    {whereclause : Pred Row}
    {output : Env Row → List (Env Row) → List Row} (distinct : (froms.flatMap From.names).Nodup)
    {env : Env Row} (binds : env.map Prod.fst = froms.flatMap From.names) :
    (∀ target ∈ findRlsTargets metadata (.read (.select froms whereclause output)),
        ∃ row, env.lookup target.name = some (some row) ∧ ownedBy tenant row = true) ↔
      env.within isProtected (ownedBy tenant) = true := by
  rw [Env.within_iff_lookup (binds ▸ distinct), binds]
  constructor
  · intro checked name inScope protected_
    obtain ⟨target, member, rfl⟩ :=
      exists_target metadata whereclause output inScope protected_
    exact checked target member
  · intro checked target member
    obtain ⟨inLeaves, protected_⟩ := mem_targets.1 member
    refine checked target.name ?_ protected_
    rw [← names_of_all_leaves metadata]
    exact List.mem_map_of_mem inLeaves

theorem distinct_of_wellScoped {froms : List (From Row)} {whereclause : Pred Row}
    {output : Env Row → List (Env Row) → List Row}
    (wellScoped : (Query.select froms whereclause output).wellScoped = true) :
    (froms.flatMap From.names).Nodup := by
  simp only [Query.wellScoped, Bool.and_eq_true, decide_eq_true_eq] at wellScoped
  exact wellScoped.1.1

/-- **What a tenant's select returns behind the hook.** -/
theorem executeRead_select {principal : TenantPrincipal} (tenant : principal.isSystem = false)
    {froms : List (From Row)} {whereclause : Pred Row}
    {output : Env Row → List (Env Row) → List Row}
    (wellScoped : (Query.select froms whereclause output).wellScoped = true)
    (qualified : unqualifiable metadata (.select froms whereclause output) = false)
    (db : String → List Row) :
    executeRead metadata (some principal) (.select froms whereclause output) db =
      .ok (output [] ((evalFroms db [] froms).filter fun env =>
        env.within isProtected (ownedBy principal.tenantId) &&
          whereclause.eval db env = some true)) := by
  have distinct := distinct_of_wellScoped wellScoped
  have columns : ∀ target ∈ findRlsTargets metadata (.read (.select froms whereclause output)),
      "tenant_id" ∈ target.columns := by
    intro target member
    by_contra missing
    obtain ⟨inLeaves, protected_⟩ := mem_targets.1 member
    obtain ⟨source, inFroms, isLeaf⟩ := List.mem_flatMap.1 inLeaves
    have found : froms.any (tenantless metadata) = true :=
      List.any_eq_true.2 ⟨source, inFroms,
        (tenantless_iff source).2 ⟨target, isLeaf, protected_, missing⟩⟩
    rw [unqualifiable, found] at qualified
    cases qualified
  have rewritten : beforeExecute metadata true (some principal)
      (.read (.select froms whereclause output)) =
        .ok (.read (.select froms (guardedWhere principal.tenantId
          (findRlsTargets metadata (.read (.select froms whereclause output))) whereclause)
            output)) := by
    unfold beforeExecute
    rw [if_neg (by decide)]
    cases targets : findRlsTargets metadata (.read (.select froms whereclause output)) with
    | nil => rfl
    | cons target rest =>
        show (if principal.isSystem = true then _ else _) = _
        rw [if_neg (by simp [tenant])]
        exact inject_select (targets ▸ columns) froms whereclause output
  rw [executeRead, rewritten]
  show Except.ok (Query.eval db [] _) = _
  rw [Query.eval]
  congr 2
  refine List.filter_congr fun env member => ?_
  have binds := names_of_evalFroms db [] froms env member
  rw [List.append_nil, Bool.eq_iff_iff, decide_eq_true_iff, guardedWhere_eval,
    targets_iff_within metadata distinct binds, Bool.and_eq_true, decide_eq_true_iff, and_comm]

theorem executeRead_unqualifiable {principal : TenantPrincipal}
    (tenant : principal.isSystem = false) {query : Query Row}
    (unqualified : unqualifiable metadata query = true) (db : String → List Row) :
    executeRead metadata (some principal) query db = .error (.attribute "tenant_id") := by
  cases query with
  | compound op left right => cases unqualified
  | select froms whereclause output =>
      obtain ⟨source, inFroms, bare⟩ := List.any_eq_true.1 unqualified
      obtain ⟨leaf, isLeaf, protected_, missing⟩ := (tenantless_iff source).1 bare
      have target : leaf ∈ findRlsTargets metadata
          (.read (.select froms whereclause output)) :=
        mem_targets.2 ⟨List.mem_flatMap.2 ⟨source, inFroms, isLeaf⟩, protected_⟩
      have refused : beforeExecute metadata true (some principal)
          (.read (.select froms whereclause output)) = .error (.attribute "tenant_id") := by
        unfold beforeExecute
        rw [if_neg (by decide)]
        cases targets : findRlsTargets metadata (.read (.select froms whereclause output)) with
        | nil => simp [targets] at target
        | cons first rest =>
            show (if principal.isSystem = true then _ else _) = _
            rw [if_neg (by simp [tenant])]
            exact inject_unqualified ⟨leaf, targets ▸ target, missing⟩
      rw [executeRead, refused]
      rfl

/-- A compound select passes the hook as it is. -/
theorem executeRead_compound (principal : Option TenantPrincipal) (op : SetOp)
    (left right : Query Row) (db : String → List Row) :
    executeRead metadata principal (.compound op left right) db =
      .ok ((Query.compound op left right).eval db []) := by
  simp [executeRead, beforeExecute, findRlsTargets, Except.map, Statement.rows]

/-- Without a principal, a select with a protected name in scope is refused. -/
theorem executeRead_refused {froms : List (From Row)} {whereclause : Pred Row}
    {output : Env Row → List (Env Row) → List Row} {name : String}
    (inScope : name ∈ froms.flatMap From.names) (protected_ : isProtected name = true)
    (db : String → List Row) :
    ∃ message, executeRead metadata none (.select froms whereclause output) db =
      .error (.permission message) := by
  obtain ⟨target, member, -⟩ := exists_target metadata whereclause output inScope protected_
  unfold executeRead beforeExecute
  rw [if_neg (by decide)]
  cases targets : findRlsTargets metadata (.read (.select froms whereclause output)) with
  | nil => simp [targets] at member
  | cons first rest => exact ⟨_, rfl⟩

/-! ## Guarded statements are safe -/

theorem readsAny_iff {p : String → Bool} {froms : List (From Row)} :
    readsAny p froms = true ↔ ∃ source ∈ froms, source.reads p = true := by
  induction froms with
  | nil => simp [readsAny]
  | cons source rest ih => simp [readsAny, ih]

theorem noninterferent_of_visible {stmt : ReadStatement} (seen : visible stmt.query = true) :
    Noninterferent metadata stmt := by
  intro principal tenant db db' agree
  obtain ⟨query, wellScoped⟩ := stmt
  cases query with
  | compound op left right =>
      have unread : (Query.compound op left right).reads isProtected = false := by
        simpa [visible, Query.reads] using seen
      rw [executeRead_compound, executeRead_compound, Query.eval_congr agree.outside [] _ unread]
  | select froms whereclause output =>
      simp only [visible, Bool.and_eq_true, List.all_eq_true, Bool.not_eq_true'] at seen
      obtain ⟨exposed, unread⟩ := seen
      cases unqualified : unqualifiable metadata (.select froms whereclause output) with
      | true =>
          rw [executeRead_unqualifiable tenant unqualified,
            executeRead_unqualifiable tenant unqualified]
      | false =>
          rw [executeRead_select tenant wellScoped unqualified,
            executeRead_select tenant wellScoped unqualified]
          have keep := fun env => Pred.eval_congr agree.outside env whereclause unread
          have rows := evalFroms_within agree [] exposed
          have split : ∀ source : String → List Row,
              ((evalFroms source [] froms).filter fun env =>
                env.within isProtected (ownedBy principal.tenantId) &&
                  whereclause.eval db' env = some true) =
                ((evalFroms source [] froms).filter
                  (Env.within isProtected (ownedBy principal.tenantId))).filter
                    fun env => whereclause.eval db' env = some true := by
            intro source
            rw [List.filter_filter]
            exact List.filter_congr fun env _ => Bool.and_comm ..
          simp only [keep]
          rw [split, split, rows]

theorem failsClosed_of_visible {stmt : ReadStatement} (seen : visible stmt.query = true) :
    FailsClosed metadata stmt := by
  intro reads db
  obtain ⟨query, wellScoped⟩ := stmt
  cases query with
  | compound op left right =>
      have unread : (left.reads isProtected || right.reads isProtected) = false := by
        simpa [visible] using seen
      rw [Query.reads, unread] at reads
      cases reads
  | select froms whereclause output =>
      simp only [visible, Bool.and_eq_true, List.all_eq_true, Bool.not_eq_true'] at seen
      obtain ⟨exposed, unread⟩ := seen
      rw [Query.reads, unread, Bool.or_false] at reads
      obtain ⟨source, inFroms, read⟩ := readsAny_iff.1 reads
      have named : source.names.any isProtected = true := by
        by_contra unnamed
        rw [From.reads_of_exposes source (exposed source inFroms) (by simpa using unnamed)] at read
        cases read
      obtain ⟨name, inNames, protected_⟩ := List.any_eq_true.1 named
      exact executeRead_refused (List.mem_flatMap.2 ⟨source, inFroms, inNames⟩) protected_ db

/-- A statement that the hook cannot rewrite is never executed for a tenant. -/
theorem safe_of_unqualifiable {stmt : ReadStatement}
    (unqualified : unqualifiable metadata stmt.query = true) : Safe metadata stmt := by
  constructor
  · intro principal tenant db db' _
    rw [executeRead_unqualifiable tenant unqualified, executeRead_unqualifiable tenant unqualified]
  · intro _ db
    obtain ⟨query, wellScoped⟩ := stmt
    cases query with
    | compound op left right => cases unqualified
    | select froms whereclause output =>
        obtain ⟨source, inFroms, bare⟩ := List.any_eq_true.1 unqualified
        obtain ⟨leaf, isLeaf, protected_, -⟩ := (tenantless_iff source).1 bare
        refine executeRead_refused (List.mem_flatMap.2 ⟨source, inFroms, ?_⟩) protected_ db
        rw [← names_of_leaves metadata source]
        exact List.mem_map_of_mem isLeaf

/-! ## The other statements leak -/

theorem tenantless_skeleton :
    ∀ source : From Row, tenantless metadata source.skeleton = tenantless metadata source
  | .table name => rfl
  | .aliased base name => rfl
  | .subquery query columns name => rfl
  | .join kind left right onclause => by
      rw [From.skeleton, tenantless, tenantless, tenantless_skeleton left,
        tenantless_skeleton right]

theorem unqualifiable_skeleton (query : Query Row) :
    unqualifiable metadata query.skeleton = unqualifiable metadata query := by
  cases query with
  | compound op left right => rfl
  | select froms whereclause output =>
      rw [Query.skeleton, unqualifiable, unqualifiable]
      induction froms with
      | nil => rfl
      | cons source rest ih => rw [skeletons, List.any_cons, List.any_cons, tenantless_skeleton, ih]

theorem visible_skeleton (query : Query Row) : visible query.skeleton = visible query := by
  cases query with
  | compound op left right =>
      rw [Query.skeleton, visible, visible, Query.reads_skeleton, Query.reads_skeleton]
  | select froms whereclause output =>
      have exposes : (skeletons froms).all (From.exposes isProtected) =
          froms.all (From.exposes isProtected) := by
        induction froms with
        | nil => rfl
        | cons source rest ih =>
            rw [skeletons, List.all_cons, List.all_cons, From.exposes_skeleton, ih]
      rw [Query.skeleton, visible, visible, exposes, Pred.reads_skeleton]

section Leak

private def own : Row := [("tenant_id", .str "acme")]
private def signal : Row := [("tenant_id", .str "acme"), ("id", .int 1)]
private def foreign : Row := [("tenant_id", .str "globex")]

private theorem marks : Markers (ownedBy "acme") own foreign signal where
  ownOk := by decide
  signalOk := by decide
  foreignOut := by decide
  distinct := by decide

/-- Two different answers on databases the reader must not tell apart. -/
theorem interferes {stmt : ReadStatement} {first second : List Row} (different : first ≠ second)
    (quietly : executeRead metadata (some (sdkOf "acme")) stmt.query (quiet own) = .ok first)
    (noisily : executeRead metadata (some (sdkOf "acme")) stmt.query
      (noisy isProtected own foreign) = .ok second) : ¬ Noninterferent metadata stmt := by
  intro same
  have equal := same (sdkOf "acme") rfl (quiet own) (noisy isProtected own foreign)
    (agree_quiet_noisy marks)
  rw [quietly, noisily] at equal
  exact different (Except.ok.inj equal)

theorem wellScoped_of_skeleton {query filled : Query Row} (same : filled.skeleton = query.skeleton)
    (wellScoped : query.wellScoped = true) : filled.wellScoped = true := by
  rw [← Query.wellScoped_skeleton, same, Query.wellScoped_skeleton]
  exact wellScoped

theorem qualified_of_skeleton {query filled : Query Row} (same : filled.skeleton = query.skeleton)
    (qualified : unqualifiable metadata query = false) : unqualifiable metadata filled = false := by
  rw [← unqualifiable_skeleton, same, unqualifiable_skeleton]
  exact qualified

/-- A row inside the boundary stays on the noisy database when the WHERE clause holds there. -/
theorem kept_noisy {froms : List (From Row)} {whereclause : Pred Row} {env : Env Row}
    (member : env ∈ evalFroms (noisy isProtected own foreign) [] froms)
    (within : env.within isProtected (ownedBy (sdkOf "acme").tenantId) = true)
    (holds : whereclause.eval (noisy isProtected own foreign) env = some true) :
    env ∈ (evalFroms (noisy isProtected own foreign) [] froms).filter fun env =>
      env.within isProtected (ownedBy (sdkOf "acme").tenantId) &&
        whereclause.eval (noisy isProtected own foreign) env = some true := by
  refine List.mem_filter.2 ⟨member, ?_⟩
  rw [holds, Bool.and_eq_true]
  exact ⟨within, rfl⟩

/-- The hook passes a compound select on. -/
theorem leaks_compound {op : SetOp} {left right : Query Row}
    (wellScoped : (Query.compound op left right).wellScoped = true)
    (read : (Query.compound op left right).reads isProtected = true) :
    ∃ other : ReadStatement, other.query.skeleton = (Query.compound op left right).skeleton ∧
      ¬ Noninterferent metadata other := by
  obtain ⟨filled, same, answers⟩ :=
    Query.fill marks own (Query.compound op left right) false true (.inl read)
  refine ⟨⟨filled, wellScoped_of_skeleton same wellScoped⟩, same, ?_⟩
  cases filled with
  | select froms whereclause output => cases same
  | compound op' left' right' =>
      refine interferes (show ([] : List Row) ≠ [own] by decide) ?_ ?_
      · rw [executeRead_compound, (answers []).1]
        rfl
      · rw [executeRead_compound, (answers []).2]
        rfl

/-- A protected table that the FROM clause hides puts a marked row into the answer. -/
theorem leaks_fromClause {froms : List (From Row)} {whereclause : Pred Row}
    {output : Env Row → List (Env Row) → List Row}
    (wellScoped : (Query.select froms whereclause output).wellScoped = true)
    (qualified : unqualifiable metadata (.select froms whereclause output) = false)
    (exposed : froms.all (From.exposes isProtected) = false) :
    ∃ other : ReadStatement,
      other.query.skeleton = (Query.select froms whereclause output).skeleton ∧
        ¬ Noninterferent metadata other := by
  obtain ⟨froms', sameFroms, shows⟩ := fillFroms (p := isProtected) marks froms
  obtain ⟨env, member, within, marked_⟩ := (shows []).inside
  obtain ⟨where', sameWhere, holds⟩ :=
    Pred.fill (p := isProtected) marks whereclause true true (.inr rfl)
  have same : (Query.select froms' where' fun _ envs =>
      if envs.any (marked foreign signal) then [own] else []).skeleton =
        (Query.select froms whereclause output).skeleton := by
    rw [Query.skeleton, Query.skeleton, sameFroms, sameWhere]
  have accepted := wellScoped_of_skeleton same wellScoped
  have rewritable := qualified_of_skeleton same qualified
  refine ⟨⟨_, accepted⟩, same, interferes (show ([] : List Row) ≠ [own] by decide) ?_ ?_⟩
  · rw [executeRead_select rfl accepted rewritable]
    have silent : ¬ ((evalFroms (quiet own) [] froms').filter fun env =>
        env.within isProtected (ownedBy (sdkOf "acme").tenantId) &&
          where'.eval (quiet own) env = some true).any (marked foreign signal) := by
      rw [List.any_eq_true]
      rintro ⟨other, kept, mark⟩
      rw [(shows []).unmarked other (List.mem_filter.1 kept).1] at mark
      cases mark
    rw [if_neg silent]
  · rw [executeRead_select rfl accepted rewritable]
    have kept := kept_noisy member within (holds env).2
    rw [if_pos (List.any_eq_true.2 ⟨env, kept, marked_ exposed⟩)]

/-- A protected table that the WHERE clause reads decides whether the answer is empty. -/
theorem leaks_whereClause {froms : List (From Row)} {whereclause : Pred Row}
    {output : Env Row → List (Env Row) → List Row}
    (wellScoped : (Query.select froms whereclause output).wellScoped = true)
    (qualified : unqualifiable metadata (.select froms whereclause output) = false)
    (read : whereclause.reads isProtected = true) :
    ∃ other : ReadStatement,
      other.query.skeleton = (Query.select froms whereclause output).skeleton ∧
        ¬ Noninterferent metadata other := by
  obtain ⟨froms', sameFroms, shows⟩ := fillFroms (p := isProtected) marks froms
  obtain ⟨env, member, within, -⟩ := (shows []).inside
  obtain ⟨where', sameWhere, holds⟩ :=
    Pred.fill (p := isProtected) marks whereclause false true (.inl read)
  have same : (Query.select froms' where' fun _ envs =>
      if envs.isEmpty then [] else [own]).skeleton =
        (Query.select froms whereclause output).skeleton := by
    rw [Query.skeleton, Query.skeleton, sameFroms, sameWhere]
  have accepted := wellScoped_of_skeleton same wellScoped
  have rewritable := qualified_of_skeleton same qualified
  refine ⟨⟨_, accepted⟩, same, interferes (show ([] : List Row) ≠ [own] by decide) ?_ ?_⟩
  · rw [executeRead_select rfl accepted rewritable]
    simp [(holds _).1]
  · rw [executeRead_select rfl accepted rewritable]
    have kept := kept_noisy member within (holds env).2
    rw [if_neg fun empty => ?_]
    rw [List.isEmpty_iff.1 empty] at kept
    exact List.not_mem_nil kept

/-- **A hidden protected table leaks.**  Some statement of the same skeleton answers
differently on two databases that agree on the reader's rows. -/
theorem leaks {stmt : ReadStatement} (hidden : visible stmt.query = false)
    (qualified : unqualifiable metadata stmt.query = false) :
    ∃ other : ReadStatement, other.query.skeleton = stmt.query.skeleton ∧
      ¬ Noninterferent metadata other := by
  obtain ⟨query, wellScoped⟩ := stmt
  cases query with
  | compound op left right =>
      refine leaks_compound wellScoped ?_
      rwa [visible, Bool.not_eq_false'] at hidden
  | select froms whereclause output =>
      cases exposed : froms.all (From.exposes isProtected) with
      | false => exact leaks_fromClause wellScoped qualified exposed
      | true =>
          refine leaks_whereClause wellScoped qualified ?_
          simpa [visible, exposed] using hidden

end Leak

/-- **The shapes the hook isolates.**  All statements of one skeleton are safe if and
only if every protected table is a leaf of the top-level FROM clause under a
protected name, or the hook refuses to rewrite the statement. -/
theorem rls_safe_iff (metadata : MetaData) (stmt : ReadStatement) :
    (∀ other : ReadStatement, other.query.skeleton = stmt.query.skeleton →
      Safe metadata other) ↔
        visible stmt.query = true ∨ unqualifiable metadata stmt.query = true := by
  constructor
  · intro safe
    by_contra unguarded
    rw [not_or, Bool.not_eq_true, Bool.not_eq_true] at unguarded
    obtain ⟨other, same, leak⟩ := leaks unguarded.1 unguarded.2
    exact leak (safe other same).1
  · intro guarded other same
    rcases guarded with seen | unqualified
    · have seen : visible other.query = true := by
        rw [← visible_skeleton, same, visible_skeleton, seen]
      exact ⟨noninterferent_of_visible seen, failsClosed_of_visible seen⟩
    · refine safe_of_unqualifiable ?_
      rw [← unqualifiable_skeleton, same, unqualifiable_skeleton, unqualified]

section Missed

/-- `SELECT *`. -/
private def star : Env Row → List (Env Row) → List Row :=
  fun _ envs => envs.flatMap fun env => env.filterMap Prod.snd

private def always : Pred Row := .cond fun _ => some true

private def columns : MetaData
  | "dataset" => ["dataset_uuid", "tenant_id"]
  | "task" => ["task_uuid", "dataset_uuid", "tenant_id"]
  | _ => ["id"]

/-- `SELECT * FROM task AS t`. -/
def fromAlias : ReadStatement := ⟨.select [.aliased "task" "t"] always star, by decide⟩

/-- `SELECT * FROM (SELECT * FROM task) AS t`. -/
def fromSubquery : ReadStatement :=
  ⟨.select [.subquery (.select [.table "task"] always star) ["tenant_id"] "t"] always star,
    by decide⟩

/-- `SELECT * FROM dual WHERE EXISTS (SELECT * FROM task WHERE tenant_id = 'globex')`. -/
def whereExists : ReadStatement :=
  ⟨.select [.table "dual"]
    (.exists_ (.select [.table "task"] (tenantEquals "task" "globex") star)) star, by decide⟩

/-- `SELECT * FROM task UNION ALL SELECT * FROM dataset`. -/
def unionOfBoth : ReadStatement :=
  ⟨.compound .unionAll (.select [.table "task"] always star)
    (.select [.table "dataset"] always star), by decide⟩

/-- The hook lets each of these read another tenant's rows, and lets each pass
without a principal. -/
theorem missed_statements_leak :
    [fromAlias, fromSubquery, whereExists, unionOfBoth].Forall fun stmt =>
      ¬ Noninterferent columns stmt ∧ ¬ FailsClosed columns stmt := by
  have open_ : ∀ {stmt : ReadStatement} {rows : List Row},
      stmt.query.reads isProtected = true →
      executeRead columns none stmt.query (quiet own) = .ok rows → ¬ FailsClosed columns stmt := by
    intro stmt rows read passed closed
    obtain ⟨message, refused⟩ := closed read (quiet own)
    rw [passed] at refused
    cases refused
  refine ⟨⟨?_, ?_⟩, ⟨?_, ?_⟩, ⟨?_, ?_⟩, ⟨?_, ?_⟩⟩
  · exact interferes (show [own] ≠ [own, foreign] by decide) rfl rfl
  · exact open_ (by decide) rfl
  · exact interferes (show [own] ≠ [own, foreign] by decide) rfl rfl
  · exact open_ (by decide) rfl
  · exact interferes (show ([] : List Row) ≠ [own] by decide) rfl rfl
  · exact open_ (by decide) rfl
  · exact interferes (show [own, own] ≠ [own, foreign, own, foreign] by decide) rfl rfl
  · exact open_ (by decide) rfl

end Missed

/-! ## Selects on one table -/

/-- A select on one protected table, whoever runs it: the rows that the principal sees. -/
theorem executeRead_table {principal : TenantPrincipal} {name : String}
    (protected_ : isProtected name = true) (column : "tenant_id" ∈ metadata name)
    (whereclause : Pred Row) (output : Env Row → List (Env Row) → List Row)
    (wellScoped : whereclause.wellScoped = true) {db : String → List Row}
    (owned : ∀ row ∈ db name, (tenantId row).isSome = true) :
    executeRead metadata (some principal) (.select [.table name] whereclause output) db =
      .ok (output [] ((((db name).filter fun row => (tenantId row).any principal.sees).map
        fun row => [(name, some row)]).filter fun env => whereclause.eval db env = some true)) := by
  cases system : principal.isSystem with
  | true =>
      have passed : beforeExecute metadata true (some principal)
          (.read (.select [.table name] whereclause output)) =
            .ok (.read (.select [.table name] whereclause output)) := by
        unfold beforeExecute
        rw [if_neg (by decide)]
        cases findRlsTargets metadata (.read (.select [.table name] whereclause output)) with
        | nil => rfl
        | cons first rest => simp [system]
      have all : ((db name).filter fun row => (tenantId row).any principal.sees) = db name := by
        refine List.filter_eq_self.2 fun row member => ?_
        obtain ⟨tenant, found⟩ := Option.isSome_iff_exists.1 (owned row member)
        simp [found, TenantPrincipal.sees, system]
      rw [executeRead, passed, all]
      simp [Except.map, Statement.rows, Query.eval, evalFroms, From.eval, crossRows,
        List.map_eq_flatMap]
  | false =>
      have scoped_ : (Query.select [.table name] whereclause output).wellScoped = true := by
        simp [Query.wellScoped, wellScopedFroms, From.wellScoped, From.names, wellScoped]
      have qualified : unqualifiable metadata (.select [.table name] whereclause output) =
          false := by
        simp [unqualifiable, tenantless, column]
      rw [executeRead_select system scoped_ qualified]
      have rows : evalFroms db [] [.table name] = (db name).map fun row => [(name, some row)] := by
        simp [evalFroms, From.eval, crossRows, List.map_eq_flatMap]
      have inside : ∀ row, Env.within isProtected (ownedBy principal.tenantId)
          [(name, some row)] = (tenantId row).any principal.sees := by
        intro row
        cases found : tenantId row <;>
          simp [Env.within, protected_, ownedBy, found, TenantPrincipal.sees, system]
      rw [rows, List.filter_map, List.filter_map, List.filter_filter]
      congr 3
      refine List.filter_congr fun row _ => ?_
      show (Env.within _ _ [(name, some row)] && _) = _
      rw [inside, Bool.and_comm]
      rfl

end Lcp.Rls
