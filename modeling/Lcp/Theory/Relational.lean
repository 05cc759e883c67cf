/-
# Theory.Relational -- select statements and what they return

A statement language over named tables: FROM clauses of tables, aliases, derived
tables and joins, WHERE clauses in three-valued logic with EXISTS and IN
subqueries, and compound selects.  The rows are of an arbitrary type, and what a
select computes from the rows its WHERE clause keeps (projection, aggregates,
ordering, limits) is an arbitrary function, so a fact about all statements is a
fact about all of those.

A binding is the row a FROM name stands for, or `none` where an outer join found
no partner.  A subquery sees the bindings of the statement around it.
-/
import Mathlib.Data.List.Dedup

namespace Lcp.Theory

set_option autoImplicit false

/-- The row each FROM name stands for, innermost first. -/
abbrev Env (ρ : Type) := List (String × Option ρ)

inductive JoinKind where
  | inner
  | leftOuter
  | fullOuter
deriving DecidableEq, Repr

inductive SetOp where
  | union
  | unionAll
  | intersect
  | except
deriving DecidableEq, Repr

mutual

/-- A reading statement. -/
inductive Query (ρ : Type) where
  | select (froms : List (From ρ)) (whereclause : Pred ρ)
      (output : Env ρ → List (Env ρ) → List ρ)
  | compound (op : SetOp) (left right : Query ρ)

/-- One element of a FROM clause. -/
inductive From (ρ : Type) where
  | table (name : String)
  | aliased (base name : String)
  | subquery (query : Query ρ) (columns : List String) (name : String)
  | join (kind : JoinKind) (left right : From ρ) (onclause : Env ρ → Option Bool)

/-- A WHERE clause; `none` is NULL. -/
inductive Pred (ρ : Type) where
  | cond (test : Env ρ → Option Bool)
  | exists_ (query : Query ρ)
  | in_ (test : Env ρ → ρ → Option Bool) (query : Query ρ)
  | not_ (arg : Pred ρ)
  | and_ (left right : Pred ρ)
  | or_ (left right : Pred ρ)

end

/-! ## Three-valued logic -/

namespace Kleene

def not : Option Bool → Option Bool := Option.map (!·)

def and : Option Bool → Option Bool → Option Bool
  | some false, _ => some false
  | _, some false => some false
  | some true, some true => some true
  | _, _ => none

def or : Option Bool → Option Bool → Option Bool
  | some true, _ => some true
  | _, some true => some true
  | some false, some false => some false
  | _, _ => none

/-- The value of `x IN (values)` from the comparisons with each of them. -/
def any (values : List (Option Bool)) : Option Bool := values.foldr or (some false)

@[simp] theorem and_eq_some_true {a b : Option Bool} :
    and a b = some true ↔ a = some true ∧ b = some true := by
  rcases a with _ | _ | _ <;> rcases b with _ | _ | _ <;> simp [and]

end Kleene

/-! ## Meaning -/

variable {ρ : Type}

/-- The names a FROM element binds. -/
def From.names : From ρ → List String
  | .table name => [name]
  | .aliased _ name => [name]
  | .subquery _ _ name => [name]
  | .join _ left right _ => left.names ++ right.names

/-- The binding an outer join gives the side without a partner. -/
def From.nulls (source : From ρ) : Env ρ := source.names.map fun name => (name, none)

/-- The rows a join makes of one row of its left side. -/
def pairRows (kind : JoinKind) (holds : Env ρ → Env ρ → Bool) (right : List (Env ρ))
    (rightNulls l : Env ρ) : List (Env ρ) :=
  if kind ≠ .inner ∧ right.filter (holds l) = [] then [l ++ rightNulls]
  else (right.filter (holds l)).map (l ++ ·)

/-- The rows of a join, from the rows of its sides. -/
def joinRows (kind : JoinKind) (holds : Env ρ → Env ρ → Bool) (left right : List (Env ρ))
    (leftNulls rightNulls : Env ρ) : List (Env ρ) :=
  let paired := left.flatMap (pairRows kind holds right rightNulls)
  if kind = .fullOuter then
    paired ++ (right.filter fun r => !left.any fun l => holds l r).map (leftNulls ++ ·)
  else paired

/-- Rows of one list beside rows of the other. -/
def crossRows (left right : List (Env ρ)) : List (Env ρ) :=
  left.flatMap fun l => right.map (l ++ ·)

def SetOp.apply [DecidableEq ρ] : SetOp → List ρ → List ρ → List ρ
  | .union, left, right => (left ++ right).dedup
  | .unionAll, left, right => left ++ right
  | .intersect, left, right => (left.filter (· ∈ right)).dedup
  | .except, left, right => (left.filter (· ∉ right)).dedup

section Meaning

variable [DecidableEq ρ] (db : String → List ρ)

mutual

/-- The rows a statement returns, inside the bindings of the statement around it. -/
def Query.eval (outer : Env ρ) : Query ρ → List ρ
  | .select froms whereclause output =>
      output outer ((evalFroms outer froms).filter fun env =>
        whereclause.eval (env ++ outer) = some true)
  | .compound op left right => op.apply (left.eval outer) (right.eval outer)

def evalFroms (outer : Env ρ) : List (From ρ) → List (Env ρ)
  | [] => [[]]
  | source :: rest => crossRows (source.eval outer) (evalFroms outer rest)

/-- The bindings a FROM element ranges over. -/
def From.eval (outer : Env ρ) : From ρ → List (Env ρ)
  | .table name => (db name).map fun row => [(name, some row)]
  | .aliased base name => (db base).map fun row => [(name, some row)]
  | .subquery query _ name => (query.eval outer).map fun row => [(name, some row)]
  | .join kind left right onclause =>
      joinRows kind (fun l r => onclause (l ++ r ++ outer) = some true) (left.eval outer)
        (right.eval outer) left.nulls right.nulls

def Pred.eval (outer : Env ρ) : Pred ρ → Option Bool
  | .cond test => test outer
  | .exists_ query => some !(query.eval outer).isEmpty
  | .in_ test query => Kleene.any ((query.eval outer).map (test outer))
  | .not_ arg => Kleene.not (arg.eval outer)
  | .and_ left right => Kleene.and (left.eval outer) (right.eval outer)
  | .or_ left right => Kleene.or (left.eval outer) (right.eval outer)

end

end Meaning

/-! ## The tables a statement reads -/

section Reads

variable (p : String → Bool)

mutual

/-- Some table that satisfies `p` is read, at any depth. -/
def Query.reads : Query ρ → Bool
  | .select froms whereclause _ => readsAny froms || whereclause.reads
  | .compound _ left right => left.reads || right.reads

def readsAny : List (From ρ) → Bool
  | [] => false
  | source :: rest => source.reads || readsAny rest

def From.reads : From ρ → Bool
  | .table name => p name
  | .aliased base _ => p base
  | .subquery query _ _ => query.reads
  | .join _ left right _ => left.reads || right.reads

def Pred.reads : Pred ρ → Bool
  | .cond _ => false
  | .exists_ query => query.reads
  | .in_ _ query => query.reads
  | .not_ arg => arg.reads
  | .and_ left right => left.reads || right.reads
  | .or_ left right => left.reads || right.reads

end

end Reads

section Congruence

variable [DecidableEq ρ] {p : String → Bool} {db db' : String → List ρ}

mutual

/-- A statement that reads no table of `p` returns the same rows on databases that
agree elsewhere. -/
theorem Query.eval_congr (same : ∀ name, p name = false → db name = db' name) (outer : Env ρ) :
    ∀ query : Query ρ, query.reads p = false → query.eval db outer = query.eval db' outer
  | .select froms whereclause output, unread => by
      simp only [Query.reads, Bool.or_eq_false_iff] at unread
      have rows := evalFroms_congr same outer froms unread.1
      have keep := fun env => Pred.eval_congr same env whereclause unread.2
      simp only [Query.eval, rows, keep]
  | .compound op left right, unread => by
      simp only [Query.reads, Bool.or_eq_false_iff] at unread
      rw [Query.eval, Query.eval, Query.eval_congr same outer left unread.1,
        Query.eval_congr same outer right unread.2]

theorem evalFroms_congr (same : ∀ name, p name = false → db name = db' name) (outer : Env ρ) :
    ∀ froms : List (From ρ), readsAny p froms = false →
      evalFroms db outer froms = evalFroms db' outer froms
  | [], _ => rfl
  | source :: rest, unread => by
      simp only [readsAny, Bool.or_eq_false_iff] at unread
      rw [evalFroms, evalFroms, From.eval_congr same outer source unread.1,
        evalFroms_congr same outer rest unread.2]

theorem From.eval_congr (same : ∀ name, p name = false → db name = db' name) (outer : Env ρ) :
    ∀ source : From ρ, source.reads p = false → source.eval db outer = source.eval db' outer
  | .table name, unread => by rw [From.eval, From.eval, same name unread]
  | .aliased base name, unread => by rw [From.eval, From.eval, same base unread]
  | .subquery query columns name, unread => by
      rw [From.eval, From.eval, Query.eval_congr same outer query unread]
  | .join kind left right onclause, unread => by
      simp only [From.reads, Bool.or_eq_false_iff] at unread
      rw [From.eval, From.eval, From.eval_congr same outer left unread.1,
        From.eval_congr same outer right unread.2]

theorem Pred.eval_congr (same : ∀ name, p name = false → db name = db' name) (outer : Env ρ) :
    ∀ pred : Pred ρ, pred.reads p = false → pred.eval db outer = pred.eval db' outer
  | .cond test, _ => by rw [Pred.eval, Pred.eval]
  | .exists_ query, unread => by
      rw [Pred.eval, Pred.eval, Query.eval_congr same outer query unread]
  | .in_ test query, unread => by
      rw [Pred.eval, Pred.eval, Query.eval_congr same outer query unread]
  | .not_ arg, unread => by rw [Pred.eval, Pred.eval, Pred.eval_congr same outer arg unread]
  | .and_ left right, unread => by
      simp only [Pred.reads, Bool.or_eq_false_iff] at unread
      rw [Pred.eval, Pred.eval, Pred.eval_congr same outer left unread.1,
        Pred.eval_congr same outer right unread.2]
  | .or_ left right, unread => by
      simp only [Pred.reads, Bool.or_eq_false_iff] at unread
      rw [Pred.eval, Pred.eval, Pred.eval_congr same outer left unread.1,
        Pred.eval_congr same outer right unread.2]

end

end Congruence

/-! ## Skeletons

What is left of a statement when its conditions and its output are forgotten: the
tables, aliases, joins and subqueries, and the boolean structure around them. -/

mutual

def Query.skeleton : Query ρ → Query Unit
  | .select froms whereclause _ =>
      .select (skeletons froms) whereclause.skeleton fun _ _ => []
  | .compound op left right => .compound op left.skeleton right.skeleton

def skeletons : List (From ρ) → List (From Unit)
  | [] => []
  | source :: rest => source.skeleton :: skeletons rest

def From.skeleton : From ρ → From Unit
  | .table name => .table name
  | .aliased base name => .aliased base name
  | .subquery query columns name => .subquery query.skeleton columns name
  | .join kind left right _ => .join kind left.skeleton right.skeleton fun _ => none

def Pred.skeleton : Pred ρ → Pred Unit
  | .cond _ => .cond fun _ => none
  | .exists_ query => .exists_ query.skeleton
  | .in_ _ query => .in_ (fun _ _ => none) query.skeleton
  | .not_ arg => .not_ arg.skeleton
  | .and_ left right => .and_ left.skeleton right.skeleton
  | .or_ left right => .or_ left.skeleton right.skeleton

end

mutual

theorem Query.reads_skeleton (p : String → Bool) :
    ∀ query : Query ρ, query.skeleton.reads p = query.reads p
  | .select froms whereclause output => by
      rw [Query.skeleton, Query.reads, Query.reads, readsAny_skeletons p froms,
        Pred.reads_skeleton p whereclause]
  | .compound op left right => by
      rw [Query.skeleton, Query.reads, Query.reads, Query.reads_skeleton p left,
        Query.reads_skeleton p right]

theorem readsAny_skeletons (p : String → Bool) :
    ∀ froms : List (From ρ), readsAny p (skeletons froms) = readsAny p froms
  | [] => rfl
  | source :: rest => by
      rw [skeletons, readsAny, readsAny, From.reads_skeleton p source, readsAny_skeletons p rest]

theorem From.reads_skeleton (p : String → Bool) :
    ∀ source : From ρ, source.skeleton.reads p = source.reads p
  | .table name => rfl
  | .aliased base name => rfl
  | .subquery query columns name => by
      rw [From.skeleton, From.reads, From.reads, Query.reads_skeleton p query]
  | .join kind left right onclause => by
      rw [From.skeleton, From.reads, From.reads, From.reads_skeleton p left,
        From.reads_skeleton p right]

theorem Pred.reads_skeleton (p : String → Bool) :
    ∀ pred : Pred ρ, pred.skeleton.reads p = pred.reads p
  | .cond test => rfl
  | .exists_ query => by rw [Pred.skeleton, Pred.reads, Pred.reads, Query.reads_skeleton p query]
  | .in_ test query => by rw [Pred.skeleton, Pred.reads, Pred.reads, Query.reads_skeleton p query]
  | .not_ arg => by rw [Pred.skeleton, Pred.reads, Pred.reads, Pred.reads_skeleton p arg]
  | .and_ left right => by
      rw [Pred.skeleton, Pred.reads, Pred.reads, Pred.reads_skeleton p left,
        Pred.reads_skeleton p right]
  | .or_ left right => by
      rw [Pred.skeleton, Pred.reads, Pred.reads, Pred.reads_skeleton p left,
        Pred.reads_skeleton p right]

end

theorem From.names_skeleton : ∀ source : From ρ, source.skeleton.names = source.names
  | .table name => rfl
  | .aliased base name => rfl
  | .subquery query columns name => rfl
  | .join kind left right onclause => by
      rw [From.skeleton, From.names, From.names, From.names_skeleton left,
        From.names_skeleton right]

theorem names_skeletons :
    ∀ froms : List (From ρ), (skeletons froms).flatMap From.names = froms.flatMap From.names
  | [] => rfl
  | source :: rest => by
      rw [skeletons, List.flatMap_cons, List.flatMap_cons, From.names_skeleton,
        names_skeletons rest]

mutual

/-- No FROM clause binds one name twice; a database rejects the other statements. -/
def Query.wellScoped : Query ρ → Bool
  | .select froms whereclause _ =>
      decide (froms.flatMap From.names).Nodup && wellScopedFroms froms && whereclause.wellScoped
  | .compound _ left right => left.wellScoped && right.wellScoped

def wellScopedFroms : List (From ρ) → Bool
  | [] => true
  | source :: rest => source.wellScoped && wellScopedFroms rest

def From.wellScoped : From ρ → Bool
  | .table _ | .aliased _ _ => true
  | .subquery query _ _ => query.wellScoped
  | .join _ left right _ => left.wellScoped && right.wellScoped

def Pred.wellScoped : Pred ρ → Bool
  | .cond _ => true
  | .exists_ query => query.wellScoped
  | .in_ _ query => query.wellScoped
  | .not_ arg => arg.wellScoped
  | .and_ left right => left.wellScoped && right.wellScoped
  | .or_ left right => left.wellScoped && right.wellScoped

end

mutual

theorem Query.wellScoped_skeleton : ∀ query : Query ρ, query.skeleton.wellScoped = query.wellScoped
  | .select froms whereclause output => by
      rw [Query.skeleton, Query.wellScoped, Query.wellScoped, names_skeletons,
        wellScoped_skeletons froms,
        Pred.wellScoped_skeleton whereclause]
  | .compound op left right => by
      rw [Query.skeleton, Query.wellScoped, Query.wellScoped, Query.wellScoped_skeleton left,
        Query.wellScoped_skeleton right]

theorem wellScoped_skeletons :
    ∀ froms : List (From ρ), wellScopedFroms (skeletons froms) = wellScopedFroms froms
  | [] => rfl
  | source :: rest => by
      rw [skeletons, wellScopedFroms, wellScopedFroms, From.wellScoped_skeleton source,
        wellScoped_skeletons rest]

theorem From.wellScoped_skeleton : ∀ source : From ρ, source.skeleton.wellScoped = source.wellScoped
  | .table name => rfl
  | .aliased base name => rfl
  | .subquery query columns name => by
      rw [From.skeleton, From.wellScoped, From.wellScoped, Query.wellScoped_skeleton query]
  | .join kind left right onclause => by
      rw [From.skeleton, From.wellScoped, From.wellScoped, From.wellScoped_skeleton left,
        From.wellScoped_skeleton right]

theorem Pred.wellScoped_skeleton : ∀ pred : Pred ρ, pred.skeleton.wellScoped = pred.wellScoped
  | .cond test => rfl
  | .exists_ query => by
      rw [Pred.skeleton, Pred.wellScoped, Pred.wellScoped, Query.wellScoped_skeleton query]
  | .in_ test query => by
      rw [Pred.skeleton, Pred.wellScoped, Pred.wellScoped, Query.wellScoped_skeleton query]
  | .not_ arg => by
      rw [Pred.skeleton, Pred.wellScoped, Pred.wellScoped, Pred.wellScoped_skeleton arg]
  | .and_ left right => by
      rw [Pred.skeleton, Pred.wellScoped, Pred.wellScoped, Pred.wellScoped_skeleton left,
        Pred.wellScoped_skeleton right]
  | .or_ left right => by
      rw [Pred.skeleton, Pred.wellScoped, Pred.wellScoped, Pred.wellScoped_skeleton left,
        Pred.wellScoped_skeleton right]

end

/-! ## Rows behind a boundary

`p` names protected tables and `ok` the rows of them that may be seen.  A
statement whose protected tables are all leaves of its FROM clause depends only
on those rows, once every binding under a protected name is checked. -/

section Boundary

variable {p : String → Bool} {ok : ρ → Bool}

/-- Every protected name is bound to a row that may be seen. -/
def Env.within (p : String → Bool) (ok : ρ → Bool) (env : Env ρ) : Bool :=
  env.all fun binding => !p binding.1 || binding.2.any ok

@[simp] theorem Env.within_append (l r : Env ρ) :
    Env.within p ok (l ++ r) = (l.within p ok && r.within p ok) := by
  simp [Env.within, List.all_append]

/-- The two databases differ only in rows of protected tables that may not be seen. -/
structure AgreeWithin (p : String → Bool) (ok : ρ → Bool) (db db' : String → List ρ) : Prop where
  outside : ∀ name, p name = false → db name = db' name
  inside : ∀ name, p name = true → (db name).filter ok = (db' name).filter ok

/-- Every protected table below is a leaf that carries a protected name. -/
def From.exposes (p : String → Bool) : From ρ → Bool
  | .table _ => true
  | .aliased base name => !p base || p name
  | .subquery query _ _ => !query.reads p
  | .join _ left right _ => left.exposes p && right.exposes p

theorem From.within_nulls (source : From ρ) :
    source.nulls.within p ok = !source.names.any p := by
  simp [From.nulls, Env.within, List.all_map, Function.comp_def, List.not_any_eq_all_not]

/-- Without a protected name, nothing protected is read. -/
theorem From.reads_of_exposes :
    ∀ source : From ρ, source.exposes p = true → source.names.any p = false →
      source.reads p = false
  | .table name, _, unnamed => by simpa [From.names, From.reads] using unnamed
  | .aliased base name, exposed, unnamed => by
      have free : p name = false := by simpa [From.names] using unnamed
      simpa [From.exposes, From.reads, free] using exposed
  | .subquery query columns name, exposed, _ => by
      simpa [From.exposes, From.reads] using exposed
  | .join kind left right onclause, exposed, unnamed => by
      simp only [From.exposes, Bool.and_eq_true] at exposed
      simp only [From.names, List.any_append, Bool.or_eq_false_iff] at unnamed
      have hl := From.reads_of_exposes left exposed.1 unnamed.1
      have hr := From.reads_of_exposes right exposed.2 unnamed.2
      rw [From.reads, hl, hr, Bool.or_self]

/-- Filtering what every element of a list expands to, when the elements outside
`g` expand to nothing inside it. -/
theorem filter_flatMap_of_outside {α β : Type} {g : α → Bool} {h : β → Bool} {f : α → List β}
    (outside : ∀ a, g a = false → (f a).filter h = []) (xs : List α) :
    (xs.flatMap f).filter h = (xs.filter g).flatMap fun a => (f a).filter h := by
  induction xs with
  | nil => rfl
  | cons a rest ih =>
      rw [List.flatMap_cons, List.filter_append, ih]
      cases inside : g a with
      | false => rw [outside a inside, List.filter_cons_of_neg (by simp [inside]), List.nil_append]
      | true => rw [List.filter_cons_of_pos inside, List.flatMap_cons]

/-- What a join makes of a row outside the boundary is outside. -/
theorem pairRows_outside {kind : JoinKind} {holds : Env ρ → Env ρ → Bool} {right : List (Env ρ)}
    {rightNulls l : Env ρ} (outside : l.within p ok = false) :
    (pairRows kind holds right rightNulls l).filter (Env.within p ok) = [] := by
  rw [List.filter_eq_nil_iff]
  intro env member
  unfold pairRows at member
  split at member
  · rw [List.mem_singleton] at member
    simp [member, outside]
  · obtain ⟨r, -, rfl⟩ := List.mem_map.1 member
    simp [outside]

/-- When the padding of the right side is outside, only its rows inside count. -/
theorem pairRows_inside {kind : JoinKind} {holds : Env ρ → Env ρ → Bool} (right : List (Env ρ))
    {rightNulls l : Env ρ} (inside : l.within p ok = true)
    (padding : rightNulls.within p ok = false) :
    (pairRows kind holds right rightNulls l).filter (Env.within p ok) =
      ((right.filter (Env.within p ok)).filter (holds l)).map (l ++ ·) := by
  have keep : ((right.filter (holds l)).map (l ++ ·)).filter (Env.within p ok) =
      ((right.filter (Env.within p ok)).filter (holds l)).map (l ++ ·) := by
    rw [List.filter_map, List.filter_comm]
    congr 2
    refine List.filter_congr fun r _ => ?_
    simp [inside]
  unfold pairRows
  split
  · rename_i none
    have empty : (right.filter (Env.within p ok)).filter (holds l) = [] := by
      rw [List.filter_comm, none.2, List.filter_nil]
    rw [empty]
    simp [inside, padding]
  · exact keep

/-- A join of sides that agree inside the boundary agrees inside it. -/
theorem joinRows_within {kind : JoinKind} {holds : Env ρ → Env ρ → Bool}
    {left left' right right' : List (Env ρ)} {leftNulls rightNulls : Env ρ}
    (sameLeft : left.filter (Env.within p ok) = left'.filter (Env.within p ok))
    (sameRight : right.filter (Env.within p ok) = right'.filter (Env.within p ok))
    (leftPadding : leftNulls.within p ok = false ∨ left = left')
    (rightPadding : rightNulls.within p ok = false ∨ right = right') :
    (joinRows kind holds left right leftNulls rightNulls).filter (Env.within p ok) =
      (joinRows kind holds left' right' leftNulls rightNulls).filter (Env.within p ok) := by
  have paired : (left.flatMap (pairRows kind holds right rightNulls)).filter (Env.within p ok) =
      (left'.flatMap (pairRows kind holds right' rightNulls)).filter (Env.within p ok) := by
    rw [filter_flatMap_of_outside fun _ => pairRows_outside,
      filter_flatMap_of_outside fun _ => pairRows_outside, sameLeft]
    refine List.flatMap_congr fun l member => ?_
    have inside := (List.mem_filter.1 member).2
    rcases rightPadding with padding | rfl
    · rw [pairRows_inside right inside padding, pairRows_inside right' inside padding, sameRight]
    · rfl
  have unmatched : ((right.filter fun r => !left.any fun l => holds l r).map
        (leftNulls ++ ·)).filter (Env.within p ok) =
      ((right'.filter fun r => !left'.any fun l => holds l r).map
        (leftNulls ++ ·)).filter (Env.within p ok) := by
    rw [List.filter_map, List.filter_map]
    cases padded : leftNulls.within p ok with
    | false => simp [Function.comp_def, padded]
    | true =>
        obtain rfl : left = left' := leftPadding.resolve_left (by simp [padded])
        have keep : ∀ rows : List (Env ρ),
            (rows.filter fun r => !left.any fun l => holds l r).filter
                (Env.within p ok ∘ (leftNulls ++ ·)) =
              (rows.filter (Env.within p ok)).filter fun r => !left.any fun l => holds l r := by
          intro rows
          rw [List.filter_comm]
          congr 1
          refine List.filter_congr fun r _ => ?_
          simp [padded]
        rw [keep, keep, sameRight]
  unfold joinRows
  split
  · rw [List.filter_append, List.filter_append, paired, unmatched]
  · exact paired

theorem crossRows_within {left left' right right' : List (Env ρ)}
    (sameLeft : left.filter (Env.within p ok) = left'.filter (Env.within p ok))
    (sameRight : right.filter (Env.within p ok) = right'.filter (Env.within p ok)) :
    (crossRows left right).filter (Env.within p ok) =
      (crossRows left' right').filter (Env.within p ok) := by
  have outside : ∀ (rows : List (Env ρ)) (l : Env ρ), l.within p ok = false →
      (rows.map (l ++ ·)).filter (Env.within p ok) = [] := by
    intro rows l outside
    simp [List.filter_map, Function.comp_def, outside]
  unfold crossRows
  rw [filter_flatMap_of_outside (outside right), filter_flatMap_of_outside (outside right'),
    sameLeft]
  refine List.flatMap_congr fun l member => ?_
  have inside := (List.mem_filter.1 member).2
  have keep : ∀ rows : List (Env ρ), (rows.map (l ++ ·)).filter (Env.within p ok) =
      (rows.filter (Env.within p ok)).map (l ++ ·) := by
    intro rows
    rw [List.filter_map]
    congr 1
    refine List.filter_congr fun r _ => ?_
    simp [inside]
  rw [keep, keep, sameRight]

section Agreement

variable [DecidableEq ρ] {db db' : String → List ρ}

omit [DecidableEq ρ] in
theorem table_within (agree : AgreeWithin p ok db db') {base name : String}
    (exposed : p base = true → p name = true) :
    ((db base).map fun row => [(name, some row)]).filter (Env.within p ok) =
      ((db' base).map fun row => [(name, some row)]).filter (Env.within p ok) := by
  cases protected_ : p base with
  | false => rw [agree.outside base protected_]
  | true =>
      have keep : ∀ rows : List ρ,
          (rows.map fun row => [(name, some row)]).filter (Env.within p ok) =
            (rows.filter ok).map fun row => [(name, some row)] := by
        intro rows
        rw [List.filter_map]
        congr 1
        refine List.filter_congr fun row _ => ?_
        simp [Env.within, exposed protected_]
      rw [keep, keep, agree.inside base protected_]

/-- **FROM elements that hide nothing agree inside the boundary.** -/
theorem From.eval_within (agree : AgreeWithin p ok db db') (outer : Env ρ) :
    ∀ source : From ρ, source.exposes p = true →
      (source.eval db outer).filter (Env.within p ok) =
        (source.eval db' outer).filter (Env.within p ok)
  | .table name, _ => by
      rw [From.eval, From.eval]
      exact table_within agree id
  | .aliased base name, exposed => by
      rw [From.eval, From.eval]
      refine table_within agree fun protected_ => ?_
      simpa [From.exposes, protected_] using exposed
  | .subquery query columns name, exposed => by
      have unread : query.reads p = false := by simpa [From.exposes] using exposed
      rw [From.eval, From.eval, Query.eval_congr agree.outside outer query unread]
  | .join kind left right onclause, exposed => by
      simp only [From.exposes, Bool.and_eq_true] at exposed
      have padding : ∀ side : From ρ, side.exposes p = true →
          side.nulls.within p ok = false ∨ side.eval db outer = side.eval db' outer := by
        intro side exposedSide
        rw [From.within_nulls]
        cases named : side.names.any p with
        | true => exact .inl rfl
        | false =>
            exact .inr (From.eval_congr agree.outside outer side
              (From.reads_of_exposes side exposedSide named))
      rw [From.eval, From.eval]
      exact joinRows_within (From.eval_within agree outer left exposed.1)
        (From.eval_within agree outer right exposed.2) (padding left exposed.1)
        (padding right exposed.2)

theorem evalFroms_within (agree : AgreeWithin p ok db db') (outer : Env ρ)
    {froms : List (From ρ)} (exposed : ∀ source ∈ froms, source.exposes p = true) :
    (evalFroms db outer froms).filter (Env.within p ok) =
      (evalFroms db' outer froms).filter (Env.within p ok) := by
  induction froms with
  | nil => rfl
  | cons source rest ih =>
      rw [evalFroms, evalFroms]
      refine crossRows_within ?_ (ih fun other member => exposed other (.tail _ member))
      exact From.eval_within agree outer source (exposed source (.head _))

end Agreement

/-- A joined row is a row of each side, or nulls in its place. -/
theorem mem_joinRows {kind : JoinKind} {holds : Env ρ → Env ρ → Bool}
    {left right : List (Env ρ)} {leftNulls rightNulls env : Env ρ}
    (member : env ∈ joinRows kind holds left right leftNulls rightNulls) :
    ∃ l r, env = l ++ r ∧ (l ∈ left ∨ (kind = .fullOuter ∧ l = leftNulls)) ∧
      (r ∈ right ∨ (kind ≠ .inner ∧ r = rightNulls)) := by
  have pairs : ∀ env ∈ left.flatMap (pairRows kind holds right rightNulls),
      ∃ l r, env = l ++ r ∧ l ∈ left ∧ (r ∈ right ∨ (kind ≠ .inner ∧ r = rightNulls)) := by
    intro env member
    obtain ⟨l, inLeft, paired⟩ := List.mem_flatMap.1 member
    unfold pairRows at paired
    split at paired
    · rename_i alone
      exact ⟨l, rightNulls, List.mem_singleton.1 paired, inLeft, .inr ⟨alone.1, rfl⟩⟩
    · obtain ⟨r, matched, rfl⟩ := List.mem_map.1 paired
      exact ⟨l, r, rfl, inLeft, .inl (List.mem_filter.1 matched).1⟩
  unfold joinRows at member
  simp only at member
  split at member
  · rename_i full
    rcases List.mem_append.1 member with paired | unmatched
    · obtain ⟨l, r, same, inLeft, inRight⟩ := pairs env paired
      exact ⟨l, r, same, .inl inLeft, inRight⟩
    · obtain ⟨r, kept, rfl⟩ := List.mem_map.1 unmatched
      exact ⟨leftNulls, r, rfl, .inr ⟨full, rfl⟩, .inl (List.mem_filter.1 kept).1⟩
  · obtain ⟨l, r, same, inLeft, inRight⟩ := pairs env member
    exact ⟨l, r, same, .inl inLeft, inRight⟩

/-- A FROM element binds its names, in order. -/
theorem From.names_of_eval [DecidableEq ρ] (db : String → List ρ) (outer : Env ρ) :
    ∀ (source : From ρ) (env : Env ρ), env ∈ source.eval db outer →
      env.map Prod.fst = source.names
  | .table name, env, member => by
      rw [From.eval] at member
      obtain ⟨row, -, rfl⟩ := List.mem_map.1 member
      rfl
  | .aliased base name, env, member => by
      rw [From.eval] at member
      obtain ⟨row, -, rfl⟩ := List.mem_map.1 member
      rfl
  | .subquery query columns name, env, member => by
      rw [From.eval] at member
      obtain ⟨row, -, rfl⟩ := List.mem_map.1 member
      rfl
  | .join kind left right onclause, env, member => by
      have nulls : ∀ side : From ρ, side.nulls.map Prod.fst = side.names := by
        intro side
        simp [From.nulls, Function.comp_def]
      rw [From.eval] at member
      obtain ⟨l, r, rfl, inLeft, inRight⟩ := mem_joinRows member
      have leftNames : l.map Prod.fst = left.names := by
        rcases inLeft with inLeft | ⟨-, rfl⟩
        · exact From.names_of_eval db outer left l inLeft
        · exact nulls left
      have rightNames : r.map Prod.fst = right.names := by
        rcases inRight with inRight | ⟨-, rfl⟩
        · exact From.names_of_eval db outer right r inRight
        · exact nulls right
      rw [From.names, List.map_append, leftNames, rightNames]

theorem names_of_evalFroms [DecidableEq ρ] (db : String → List ρ) (outer : Env ρ)
    (froms : List (From ρ)) : ∀ env ∈ evalFroms db outer froms,
      env.map Prod.fst = froms.flatMap From.names := by
  induction froms with
  | nil =>
      intro env member
      rw [evalFroms, List.mem_singleton] at member
      rw [member]
      rfl
  | cons source rest ih =>
      intro env member
      rw [evalFroms] at member
      obtain ⟨l, inSource, paired⟩ := List.mem_flatMap.1 member
      obtain ⟨r, inRest, rfl⟩ := List.mem_map.1 paired
      rw [List.map_append, From.names_of_eval db outer source l inSource, ih r inRest,
        List.flatMap_cons]

theorem From.exposes_skeleton (p : String → Bool) :
    ∀ source : From ρ, source.skeleton.exposes p = source.exposes p
  | .table name => rfl
  | .aliased base name => rfl
  | .subquery query columns name => by
      rw [From.skeleton, From.exposes, From.exposes, Query.reads_skeleton p query]
  | .join kind left right onclause => by
      rw [From.skeleton, From.exposes, From.exposes, From.exposes_skeleton p left,
        From.exposes_skeleton p right]

/-- A protected name in scope has one binding, so looking it up checks it. -/
theorem Env.within_iff_lookup {env : Env ρ} (distinct : (env.map Prod.fst).Nodup) :
    env.within p ok = true ↔ ∀ name ∈ env.map Prod.fst, p name = true →
      ∃ row, env.lookup name = some (some row) ∧ ok row = true := by
  induction env with
  | nil => simp [Env.within]
  | cons binding rest ih =>
      obtain ⟨name, value⟩ := binding
      rw [List.map_cons, List.nodup_cons] at distinct
      have tail : ∀ other ∈ rest.map Prod.fst,
          List.lookup other ((name, value) :: rest) = rest.lookup other := by
        intro other inRest
        have apart : other ≠ name := fun same => distinct.1 (same ▸ inRest)
        rw [List.lookup_cons, beq_false_of_ne apart]
      have head : Env.within p ok ((name, value) :: rest) = true ↔
          (p name = true → ∃ row, value = some row ∧ ok row = true) ∧
            Env.within p ok rest = true := by
        cases value <;> cases protected_ : p name <;> simp [Env.within, protected_]
      rw [head, ih distinct.2, List.map_cons, List.forall_mem_cons, List.lookup_cons_self]
      constructor
      · rintro ⟨first, others⟩
        refine ⟨fun protected_ => ?_, fun other inRest protected_ => ?_⟩
        · obtain ⟨row, same, admitted⟩ := first protected_
          exact ⟨row, by rw [same], admitted⟩
        · rw [tail other inRest]
          exact others other inRest protected_
      · rintro ⟨first, others⟩
        refine ⟨fun protected_ => ?_, fun other inRest protected_ => ?_⟩
        · obtain ⟨row, same, admitted⟩ := first protected_
          exact ⟨row, Option.some.inj same, admitted⟩
        · rw [← tail other inRest]
          exact others other inRest protected_

end Boundary

end Lcp.Theory
