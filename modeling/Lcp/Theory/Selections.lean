/-
# Theory.Selections -- a table without the rows of others

`T.only p` keeps the rows that satisfy `p`.  Each operation of `Table` commutes with it when
what the operation looks at is inside:

* `get_only`: a lookup sees the row if it is inside;
* `insert?_only`: an insert succeeds on the selection if and only if it does on the table,
  unless the row that takes its key is outside;
* `only_update`, `only_delete`: a rewrite that moves no row across the boundary, and a delete.

What an operation does outside leaves the selection alone (`only_update_outside`,
`only_insert?_outside`, `only_eq_of_filter`).
-/
import Lcp.Theory.Table

namespace Lcp.Theory.Table

set_option autoImplicit false

universe u v

variable {ρ : Type u} {κ : Type v} {key : ρ → κ}

/-- The rows inside. -/
def only (T : Table ρ key) (p : ρ → Bool) : Table ρ key :=
  ⟨T.rows.filter p, (List.Sublist.map key List.filter_sublist).nodup T.nodup⟩

@[simp] theorem rows_only (T : Table ρ key) (p : ρ → Bool) : (T.only p).rows = T.rows.filter p :=
  rfl

theorem mem_only {T : Table ρ key} {p : ρ → Bool} {r : ρ} :
    r ∈ (T.only p).rows ↔ r ∈ T.rows ∧ p r = true := List.mem_filter

/-- Two boundaries that no row tells apart. -/
theorem only_congr {T : Table ρ key} {p q : ρ → Bool} (same : ∀ r ∈ T.rows, p r = q r) :
    T.only p = T.only q := Table.ext (List.filter_congr same)

/-- Nothing happened inside. -/
theorem only_eq_of_filter {T U : Table ρ key} {p q : ρ → Bool}
    (inside : ∀ r, p r = true → q r = true)
    (same : U.rows.filter q = T.rows.filter q) : U.only p = T.only p := by
  have twice : ∀ rows : List ρ, (rows.filter q).filter p = rows.filter p := by
    intro rows
    rw [List.filter_filter]
    refine List.filter_congr fun r _ => ?_
    cases holds : p r with
    | false => rfl
    | true => simp [inside r holds]
  refine Table.ext ?_
  show U.rows.filter p = T.rows.filter p
  rw [← twice U.rows, ← twice T.rows, same]

/-! ## Reads -/

/-- A search for rows inside. -/
theorem find?_only {T : Table ρ key} {p q : ρ → Bool}
    (inside : ∀ r ∈ T.rows, q r = true → p r = true) :
    (T.only p).rows.find? q = T.rows.find? q := by
  rw [rows_only, List.find?_filter]
  refine List.find?_congr fun r member => ?_
  cases wanted : q r with
  | false => simp
  | true => simp [inside r member wanted]

theorem filter_only {T : Table ρ key} {p q : ρ → Bool}
    (inside : ∀ r ∈ T.rows, q r = true → p r = true) :
    (T.only p).rows.filter q = T.rows.filter q := by
  rw [rows_only, List.filter_filter]
  refine List.filter_congr fun r member => ?_
  cases wanted : q r with
  | false => rfl
  | true => simp [inside r member wanted]

theorem any_only {T : Table ρ key} {p q : ρ → Bool}
    (inside : ∀ r ∈ T.rows, q r = true → p r = true) :
    (T.only p).rows.any q = T.rows.any q := by
  rw [rows_only, List.any_filter, Bool.eq_iff_iff, List.any_eq_true, List.any_eq_true]
  constructor
  · rintro ⟨r, member, both⟩
    exact ⟨r, member, (Bool.and_eq_true_iff.1 both).2⟩
  · rintro ⟨r, member, wanted⟩
    exact ⟨r, member, Bool.and_eq_true_iff.2 ⟨inside r member wanted, wanted⟩⟩

/-! ## Deletes -/

theorem only_delete (T : Table ρ key) (p q : ρ → Bool) :
    (T.delete q).only p = (T.only p).delete q := by
  refine Table.ext ?_
  show (T.rows.filter fun r => !q r).filter p = (T.rows.filter p).filter fun r => !q r
  rw [List.filter_filter, List.filter_filter]
  exact List.filter_congr fun r _ => Bool.and_comm ..

variable [DecidableEq κ]

theorem get_only (T : Table ρ key) (p : ρ → Bool) (k : κ) :
    (T.only p).get k = (T.get k).filter p := by
  cases found : T.get k with
  | none =>
      refine get_eq_none.2 fun r member => ?_
      exact get_eq_none.1 found r (mem_only.1 member).1
  | some r =>
      obtain ⟨member, hit⟩ := get_eq_some.1 found
      cases holds : p r with
      | true =>
          rw [Option.filter_some, if_pos holds]
          exact get_eq_some.2 ⟨mem_only.2 ⟨member, holds⟩, hit⟩
      | false =>
          rw [Option.filter_some, if_neg (by simp [holds])]
          refine get_eq_none.2 fun s inside same => ?_
          obtain ⟨inTable, holdsHere⟩ := mem_only.1 inside
          rw [eq_of_key_eq inTable member (same.trans hit.symm), holds] at holdsHere
          cases holdsHere

/-! ## Inserts -/

/-- An insert that no row outside is in the way of. -/
theorem insert?_only {T : Table ρ key} {p : ρ → Bool} {r : ρ} (inside : p r = true)
    (clear : ∀ s ∈ T.rows, key s = key r → p s = true) :
    (T.only p).insert? r = (T.insert? r).map (only · p) := by
  by_cases taken : key r ∈ T.rows.map key
  · obtain ⟨s, member, same⟩ := List.mem_map.1 taken
    have held : key r ∈ (T.only p).rows.map key :=
      List.mem_map.2 ⟨s, mem_only.2 ⟨member, clear s member same⟩, same⟩
    simp only [insert?, held, taken, not_true_eq_false, dite_false, Option.map_none]
  · have free : key r ∉ (T.only p).rows.map key := by
      intro held
      obtain ⟨s, member, same⟩ := List.mem_map.1 held
      exact taken (List.mem_map.2 ⟨s, (mem_only.1 member).1, same⟩)
    simp only [insert?, free, taken, not_false_eq_true, dite_true, Option.map_some]
    congr 1
    refine Table.ext ?_
    show T.rows.filter p ++ [r] = (T.rows ++ [r]).filter p
    simp [List.filter_append, inside]

theorem only_insert?_outside {T U : Table ρ key} {p : ρ → Bool} {r : ρ}
    (inserted : T.insert? r = some U) (outside : p r = false) : U.only p = T.only p :=
  Table.ext (filter_insert? inserted outside)

/-! ## Rewrites -/

/-- A rewrite that moves no row across the boundary. -/
theorem only_update {T : Table ρ key} {p : ρ → Bool} {k : κ} {f : ρ → ρ}
    (keeps : ∀ r, key (f r) = key r) (stays : ∀ r ∈ T.rows, key r = k → p (f r) = p r) :
    (T.update k f keeps).only p = (T.only p).update k f keeps := by
  refine Table.ext ?_
  show (T.rows.map fun r => if key r = k then f r else r).filter p =
    (T.rows.filter p).map fun r => if key r = k then f r else r
  rw [List.filter_map]
  congr 1
  refine List.filter_congr fun r member => ?_
  by_cases hit : key r = k
  · simp [hit, stays r member hit]
  · simp [hit]

theorem only_update_outside {T : Table ρ key} {p : ρ → Bool} {k : κ} {f : ρ → ρ}
    (keeps : ∀ r, key (f r) = key r)
    (outside : ∀ r ∈ T.rows, key r = k → p r = false ∧ p (f r) = false) :
    (T.update k f keeps).only p = T.only p := Table.ext (filter_update keeps outside)

end Lcp.Theory.Table
