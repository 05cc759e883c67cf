/-
# Theory.Restriction -- the rows behind a boundary, taken away

`restrict p ok db` is the database without the rows that `ok` forbids in the tables
that `p` protects.  A statement can be confined in two ways: by running it on that
database, or by running it on the whole one and then dropping the joined rows that
bind a protected name to anything but a permitted row.

On a FROM clause of base tables the two differ in one thing (`filter_evalFroms`): the
second way also drops the joined rows in which an outer join has put NULL in place of
a protected row.  `From.preserves` is a syntactic reason why there are none.
-/
import Lcp.Theory.Relational

namespace Lcp.Theory

set_option autoImplicit false

variable {ρ : Type} {p : String → Bool} {ok : ρ → Bool}

/-- The database without the rows that may not be seen. -/
def restrict (p : String → Bool) (ok : ρ → Bool) (db : String → List ρ) (name : String) : List ρ :=
  if p name then (db name).filter ok else db name

theorem agreeWithin_restrict (db : String → List ρ) : AgreeWithin p ok db (restrict p ok db) := by
  refine ⟨fun name unprotected => ?_, fun name protected_ => ?_⟩
  · simp [restrict, unprotected]
  · simp [restrict, protected_]

/-- Every protected name is bound to a row. -/
def Env.bound (p : String → Bool) (env : Env ρ) : Bool :=
  env.all fun binding => !p binding.1 || binding.2.isSome

@[simp] theorem Env.bound_append (l r : Env ρ) :
    Env.bound p (l ++ r) = (l.bound p && r.bound p) := by
  simp [Env.bound, List.all_append]

theorem From.bound_nulls (source : From ρ) : source.nulls.bound p = !source.names.any p := by
  simp [From.nulls, Env.bound, List.all_map, Function.comp_def, List.not_any_eq_all_not]

/-! ## Join trees -/

/-- A tree of joins of base tables. -/
def From.isJoinTree : From ρ → Bool
  | .table _ => true
  | .join _ left right _ => left.isJoinTree && right.isJoinTree
  | _ => false

theorem From.exposes_of_isJoinTree :
    ∀ source : From ρ, source.isJoinTree = true → source.exposes p = true
  | .table name, _ => rfl
  | .join kind left right onclause, tree => by
      simp only [From.isJoinTree, Bool.and_eq_true] at tree
      rw [From.exposes, From.exposes_of_isJoinTree left tree.1,
        From.exposes_of_isJoinTree right tree.2, Bool.and_self]

theorem From.wellScoped_of_isJoinTree :
    ∀ source : From ρ, source.isJoinTree = true → source.wellScoped = true
  | .table name, _ => rfl
  | .join kind left right onclause, tree => by
      simp only [From.isJoinTree, Bool.and_eq_true] at tree
      rw [From.wellScoped, From.wellScoped_of_isJoinTree left tree.1,
        From.wellScoped_of_isJoinTree right tree.2, Bool.and_self]

theorem wellScopedFroms_of_isJoinTree {froms : List (From ρ)}
    (trees : ∀ source ∈ froms, source.isJoinTree = true) : wellScopedFroms froms = true := by
  induction froms with
  | nil => rfl
  | cons source rest ih =>
      rw [wellScopedFroms, From.wellScoped_of_isJoinTree source (trees source (.head _)),
        ih fun other listed => trees other (.tail _ listed), Bool.and_self]

section Restricted

variable [DecidableEq ρ] {db : String → List ρ} {outer : Env ρ}

/-- On the restricted database a bound name is bound to a permitted row. -/
theorem From.within_of_restrict :
    ∀ (source : From ρ) (env : Env ρ), source.isJoinTree = true →
      env ∈ source.eval (restrict p ok db) outer → env.within p ok = env.bound p
  | .table name, env, _, member => by
      rw [From.eval] at member
      obtain ⟨row, inTable, rfl⟩ := List.mem_map.1 member
      cases protected_ : p name with
      | false => simp [Env.within, Env.bound, protected_]
      | true =>
          simp only [restrict, protected_, if_true, List.mem_filter] at inTable
          simp [Env.within, Env.bound, inTable.2]
  | .join kind left right onclause, env, tree, member => by
      simp only [From.isJoinTree, Bool.and_eq_true] at tree
      have nulls : ∀ side : From ρ, side.nulls.within p ok = side.nulls.bound p := fun side => by
        rw [From.within_nulls, From.bound_nulls]
      rw [From.eval] at member
      obtain ⟨l, r, rfl, inLeft, inRight⟩ := mem_joinRows member
      have sameLeft : l.within p ok = l.bound p := by
        rcases inLeft with inLeft | ⟨-, rfl⟩
        · exact From.within_of_restrict left l tree.1 inLeft
        · exact nulls left
      have sameRight : r.within p ok = r.bound p := by
        rcases inRight with inRight | ⟨-, rfl⟩
        · exact From.within_of_restrict right r tree.2 inRight
        · exact nulls right
      rw [Env.within_append, Env.bound_append, sameLeft, sameRight]

theorem within_of_restrict {froms : List (From ρ)}
    (trees : ∀ source ∈ froms, source.isJoinTree = true) :
    ∀ env ∈ evalFroms (restrict p ok db) outer froms, env.within p ok = env.bound p := by
  induction froms with
  | nil =>
      intro env member
      rw [evalFroms, List.mem_singleton] at member
      rw [member]
      rfl
  | cons source rest ih =>
      intro env member
      rw [evalFroms] at member
      obtain ⟨l, inSource, paired⟩ := List.mem_flatMap.1 member
      obtain ⟨r, inRest, rfl⟩ := List.mem_map.1 paired
      rw [Env.within_append, Env.bound_append,
        From.within_of_restrict source l (trees source (.head _)) inSource,
        ih (fun other listed => trees other (.tail _ listed)) r inRest]

/-- **The two ways of confining a FROM clause** differ in the joined rows with a NULL in place
of a protected row. -/
theorem filter_evalFroms {froms : List (From ρ)}
    (trees : ∀ source ∈ froms, source.isJoinTree = true) :
    (evalFroms db outer froms).filter (Env.within p ok) =
      (evalFroms (restrict p ok db) outer froms).filter (Env.bound p) := by
  rw [evalFroms_within (agreeWithin_restrict db) outer fun source listed =>
    From.exposes_of_isJoinTree source (trees source listed)]
  exact List.filter_congr (within_of_restrict trees)

end Restricted

/-! ## Names that no join can null -/

/-- No outer join of the tree can put NULL in place of a row of a protected name. -/
def From.preserves (p : String → Bool) : From ρ → Bool
  | .join .inner left right _ => left.preserves p && right.preserves p
  | .join .leftOuter left right _ => left.preserves p && !right.names.any p
  | .join .fullOuter left right _ => !left.names.any p && !right.names.any p
  | _ => true

/-- A binding list without a protected name. -/
theorem Env.bound_of_unnamed {env : Env ρ} (unnamed : (env.map Prod.fst).any p = false) :
    env.bound p = true := by
  rw [Env.bound, List.all_eq_true]
  intro binding member
  rw [List.any_map, List.any_eq_false] at unnamed
  have unprotected : p binding.1 = false := by simpa using unnamed binding member
  simp [unprotected]

theorem From.bound_of_preserves [DecidableEq ρ] {db : String → List ρ} {outer : Env ρ} :
    ∀ (source : From ρ) (env : Env ρ), source.preserves p = true →
      env ∈ source.eval db outer → env.bound p = true
  | .table name, env, _, member => by
      rw [From.eval] at member
      obtain ⟨row, -, rfl⟩ := List.mem_map.1 member
      simp [Env.bound]
  | .aliased base name, env, _, member => by
      rw [From.eval] at member
      obtain ⟨row, -, rfl⟩ := List.mem_map.1 member
      simp [Env.bound]
  | .subquery query columns name, env, _, member => by
      rw [From.eval] at member
      obtain ⟨row, -, rfl⟩ := List.mem_map.1 member
      simp [Env.bound]
  | .join .inner left right onclause, env, preserved, member => by
      simp only [From.preserves, Bool.and_eq_true] at preserved
      rw [From.eval] at member
      obtain ⟨l, r, rfl, inLeft | ⟨full, -⟩, inRight | ⟨outer_, -⟩⟩ := mem_joinRows member
      · rw [Env.bound_append, From.bound_of_preserves left l preserved.1 inLeft,
          From.bound_of_preserves right r preserved.2 inRight, Bool.and_self]
      · exact absurd rfl outer_
      · cases full
      · cases full
  | .join .leftOuter left right onclause, env, preserved, member => by
      simp only [From.preserves, Bool.and_eq_true, Bool.not_eq_true'] at preserved
      rw [From.eval] at member
      obtain ⟨l, r, rfl, inLeft | ⟨full, -⟩, inRight⟩ := mem_joinRows member
      · have unnamed : (r.map Prod.fst).any p = false := by
          rcases inRight with inRight | ⟨-, rfl⟩
          · rw [From.names_of_eval db outer right r inRight, preserved.2]
          · rw [From.nulls, List.map_map]
            simpa [Function.comp_def] using preserved.2
        rw [Env.bound_append, From.bound_of_preserves left l preserved.1 inLeft,
          Env.bound_of_unnamed unnamed, Bool.and_self]
      · cases full
  | .join .fullOuter left right onclause, env, preserved, member => by
      simp only [From.preserves, Bool.and_eq_true, Bool.not_eq_true'] at preserved
      have names : (env.map Prod.fst).any p = false := by
        rw [From.names_of_eval db outer _ env member, From.names, List.any_append, preserved.1,
          preserved.2, Bool.or_self]
      exact Env.bound_of_unnamed names

theorem bound_of_preserves [DecidableEq ρ] {db : String → List ρ} {outer : Env ρ}
    {froms : List (From ρ)} (preserved : ∀ source ∈ froms, source.preserves p = true) :
    ∀ env ∈ evalFroms db outer froms, env.bound p = true := by
  induction froms with
  | nil =>
      intro env member
      rw [evalFroms, List.mem_singleton] at member
      rw [member]
      rfl
  | cons source rest ih =>
      intro env member
      rw [evalFroms] at member
      obtain ⟨l, inSource, paired⟩ := List.mem_flatMap.1 member
      obtain ⟨r, inRest, rfl⟩ := List.mem_map.1 paired
      rw [Env.bound_append, From.bound_of_preserves source l (preserved source (.head _)) inSource,
        ih (fun other listed => preserved other (.tail _ listed)) r inRest, Bool.and_self]

end Lcp.Theory
