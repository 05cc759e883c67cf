/-
# Theory.Table -- rows with a unique key

A `Table ρ key` is a list of rows whose keys are pairwise distinct; the
uniqueness is a field, so a table with two rows of one key cannot be built.
`insert?` is the insert that a unique constraint may refuse, `modify` rewrites
every row by a function that keeps the key, and `update k` is `modify` at one
key.

The two facts a program proof needs are `get_modify` (what a lookup sees after a
rewrite) and `count_update` (how a rewrite of one row moves the number of rows
with a property).
-/
import Mathlib.Data.List.Find
import Mathlib.Data.List.Nodup
import Mathlib.Data.List.Perm.Subperm
import Mathlib.Data.List.Basic

namespace Lcp.Theory

set_option autoImplicit false

universe u v

/-- Rows of one relation, no two of which share a key. -/
structure Table (ρ : Type u) {κ : Type v} (key : ρ → κ) where
  rows : List ρ
  nodup : (rows.map key).Nodup

namespace Table

variable {ρ : Type u} {κ : Type v} {key : ρ → κ}

@[ext] theorem ext {T U : Table ρ key} (same : T.rows = U.rows) : T = U := by
  cases T; cases U; cases same; rfl

/-- The relation without rows. -/
def empty : Table ρ key := ⟨[], by simp⟩

/-- The relation with one row. -/
def single (r : ρ) : Table ρ key := ⟨[r], by simp⟩

@[simp] theorem rows_empty : (empty : Table ρ key).rows = [] := rfl

/-- Rewrite every row by a function that keeps the key. -/
def modify (T : Table ρ key) (f : ρ → ρ) (keeps : ∀ r, key (f r) = key r) : Table ρ key :=
  ⟨T.rows.map f, by
    have same : key ∘ f = key := funext keeps
    simpa [List.map_map, same] using T.nodup⟩

/-- No two rows have one name, as a further unique key keeps it. -/
def UniqueBy {ν : Type*} (T : Table ρ key) (name : ρ → ν) : Prop :=
  ∀ r ∈ T.rows, ∀ s ∈ T.rows, name r = name s → r = s

/-- The keys in use. -/
def keys (T : Table ρ key) : List κ := T.rows.map key

/-- How many rows satisfy `p`. -/
def count (T : Table ρ key) (p : ρ → Bool) : Nat := T.rows.countP p

@[simp] theorem rows_modify (T : Table ρ key) (f : ρ → ρ) (keeps : ∀ r, key (f r) = key r) :
    (T.modify f keeps).rows = T.rows.map f := rfl

@[simp] theorem keys_modify (T : Table ρ key) (f : ρ → ρ) (keeps : ∀ r, key (f r) = key r) :
    (T.modify f keeps).keys = T.keys := by
  have same : key ∘ f = key := funext keeps
  rw [keys, rows_modify, List.map_map, same, keys]

/-- Two rows of a table with one key are one row. -/
theorem eq_of_key_eq {T : Table ρ key} {r s : ρ} (hr : r ∈ T.rows) (hs : s ∈ T.rows)
    (same : key r = key s) : r = s :=
  List.inj_on_of_nodup_map T.nodup hr hs same

variable [DecidableEq κ]

/-- The row with key `k`. -/
def get (T : Table ρ key) (k : κ) : Option ρ := T.rows.find? fun r => key r = k

/-- Insert a row unless its key is taken. -/
def insert? (T : Table ρ key) (r : ρ) : Option (Table ρ key) :=
  if fresh : key r ∉ T.rows.map key then
    some ⟨T.rows ++ [r], by
      rw [List.map_append, List.nodup_append]
      refine ⟨T.nodup, by simp, ?_⟩
      intro a ha b hb same
      rw [List.map_singleton, List.mem_singleton] at hb
      exact fresh (hb ▸ same ▸ ha)⟩
  else none

/-- Insert a row whose key is known to be fresh; a row whose key is taken is
dropped. -/
def insert (T : Table ρ key) (r : ρ) : Table ρ key := (T.insert? r).getD T

/-- Rewrite the row with key `k`. -/
def update (T : Table ρ key) (k : κ) (f : ρ → ρ) (keeps : ∀ r, key (f r) = key r) :
    Table ρ key :=
  T.modify (fun r => if key r = k then f r else r) (fun r => by split <;> simp [keeps])

/-- A first row of the list under `lt`, the earliest one where rows tie. -/
def firstBy (lt : ρ → ρ → Bool) : List ρ → Option ρ
  | [] => none
  | r :: rest =>
      match firstBy lt rest with
      | none => some r
      | some s => if lt s r then some s else some r

/-- The row that `WHERE p ORDER BY lt LIMIT 1` selects. -/
def first (T : Table ρ key) (p : ρ → Bool) (lt : ρ → ρ → Bool) : Option ρ :=
  firstBy lt (T.rows.filter p)

@[simp] theorem rows_update (T : Table ρ key) (k : κ) (f : ρ → ρ)
    (keeps : ∀ r, key (f r) = key r) :
    (T.update k f keeps).rows = T.rows.map fun r => if key r = k then f r else r := rfl

@[simp] theorem keys_update (T : Table ρ key) (k : κ) (f : ρ → ρ)
    (keeps : ∀ r, key (f r) = key r) : (T.update k f keeps).keys = T.keys := keys_modify T _ _

/-- Remove the rows that satisfy `p`. -/
def delete (T : Table ρ key) (p : ρ → Bool) : Table ρ key :=
  ⟨T.rows.filter fun r => !p r, (List.Sublist.map key List.filter_sublist).nodup T.nodup⟩

/-! ## Lookups -/

theorem get_eq_some {T : Table ρ key} {k : κ} {r : ρ} :
    T.get k = some r ↔ r ∈ T.rows ∧ key r = k := by
  constructor
  · intro found
    have holds := List.find?_some found
    exact ⟨List.mem_of_find?_eq_some found, by simpa using holds⟩
  · rintro ⟨member, rfl⟩
    cases found : T.get (key r) with
    | none =>
        have := List.find?_eq_none.1 found r member
        simp at this
    | some s =>
        have holds : key s = key r := by simpa using List.find?_some found
        rw [eq_of_key_eq (List.mem_of_find?_eq_some found) member holds]

theorem get_eq_none {T : Table ρ key} {k : κ} : T.get k = none ↔ ∀ r ∈ T.rows, key r ≠ k := by
  simp [get, List.find?_eq_none]

theorem key_of_get {T : Table ρ key} {k : κ} {r : ρ} (found : T.get k = some r) : key r = k :=
  (get_eq_some.1 found).2

theorem mem_of_get {T : Table ρ key} {k : κ} {r : ρ} (found : T.get k = some r) : r ∈ T.rows :=
  (get_eq_some.1 found).1

theorem get_of_mem {T : Table ρ key} {r : ρ} (member : r ∈ T.rows) : T.get (key r) = some r :=
  get_eq_some.2 ⟨member, rfl⟩

theorem get_modify (T : Table ρ key) (f : ρ → ρ) (keeps : ∀ r, key (f r) = key r) (k : κ) :
    (T.modify f keeps).get k = (T.get k).map f := by
  simp [get, modify, List.find?_map, keeps]

theorem get_update (T : Table ρ key) (k k' : κ) (f : ρ → ρ) (keeps : ∀ r, key (f r) = key r) :
    (T.update k f keeps).get k' = if k' = k then (T.get k').map f else T.get k' := by
  rw [update, get_modify]
  cases found : T.get k' with
  | none => simp
  | some r =>
      have := key_of_get found
      by_cases same : k' = k <;> simp [this, same]

/-- Two rewrites at one key that agree on its row. -/
theorem update_congr {T : Table ρ key} {k : κ} {f g : ρ → ρ} (keepsF : ∀ r, key (f r) = key r)
    (keepsG : ∀ r, key (g r) = key r) (same : ∀ r, T.get k = some r → f r = g r) :
    T.update k f keepsF = T.update k g keepsG := by
  refine ext (List.map_congr_left fun r member => ?_)
  by_cases hit : key r = k
  · rw [if_pos hit, if_pos hit]
    exact same r (hit ▸ get_of_mem member)
  · rw [if_neg hit, if_neg hit]

/-- A rewrite at one key that its row has had. -/
theorem update_eq_self {T : Table ρ key} {k : κ} {f : ρ → ρ} (keeps : ∀ r, key (f r) = key r)
    (fixed : ∀ r, T.get k = some r → f r = r) : T.update k f keeps = T := by
  refine ext ((List.map_congr_left fun r member => ?_).trans (List.map_id _))
  by_cases hit : key r = k
  · rw [if_pos hit]
    exact fixed r (hit ▸ get_of_mem member)
  · exact if_neg hit

/-- A search for what a rewrite at one key leaves alone. -/
theorem find?_update (T : Table ρ key) (k : κ) {f : ρ → ρ} {p : ρ → Bool}
    (same : ∀ r, p (f r) = p r) :
    (T.rows.map fun r => if key r = k then f r else r).find? p =
      (T.rows.find? p).map fun r => if key r = k then f r else r := by
  rw [List.find?_map]
  congr 2
  funext r
  show p (if key r = k then f r else r) = p r
  split
  · exact same r
  · rfl

/-- A rewrite at one key keeps what it does not write. -/
theorem map_get_update {α : Type*} {T : Table ρ key} {k : κ} {f : ρ → ρ}
    (keeps : ∀ r, key (f r) = key r) (column : ρ → α) (same : ∀ r, column (f r) = column r)
    (k' : κ) : ((T.update k f keeps).get k').map column = (T.get k').map column := by
  rw [get_update]
  split
  · rw [Option.map_map]
    congr 1
    funext r
    exact same r
  · rfl

/-- A row after a rewrite at one key: the rewritten one, or one of the others. -/
theorem of_mem_update {T : Table ρ key} {k : κ} {f : ρ → ρ} {r : ρ}
    (member : r ∈ T.rows.map fun r => if key r = k then f r else r) :
    (∃ r₀ ∈ T.rows, key r₀ = k ∧ f r₀ = r) ∨ (r ∈ T.rows ∧ key r ≠ k) := by
  obtain ⟨r₀, inTable, rfl⟩ := List.mem_map.1 member
  by_cases same : key r₀ = k
  · exact .inl ⟨r₀, inTable, same, by simp [same]⟩
  · exact .inr (by simpa [same] using inTable)

/-- The rewritten row is there. -/
theorem mem_update_self {T : Table ρ key} {k : κ} {f : ρ → ρ} {r : ρ} (member : r ∈ T.rows)
    (hit : key r = k) : f r ∈ T.rows.map fun r => if key r = k then f r else r :=
  List.mem_map.2 ⟨r, member, by simp [hit]⟩

/-- The other rows are there. -/
theorem mem_update_of_ne {T : Table ρ key} {k : κ} {f : ρ → ρ} {r : ρ} (member : r ∈ T.rows)
    (other : key r ≠ k) : r ∈ T.rows.map fun r => if key r = k then f r else r :=
  List.mem_map.2 ⟨r, member, by simp [other]⟩

theorem mem_update {T : Table ρ key} {k : κ} {f : ρ → ρ} {keeps : ∀ r, key (f r) = key r}
    {r : ρ} :
    r ∈ (T.update k f keeps).rows ↔
      (∃ r₀ ∈ T.rows, key r₀ = k ∧ f r₀ = r) ∨ (r ∈ T.rows ∧ key r ≠ k) := by
  constructor
  · exact of_mem_update
  · rintro (⟨r₀, member, hit, rfl⟩ | ⟨member, other⟩)
    · exact mem_update_self member hit
    · exact mem_update_of_ne member other

omit [DecidableEq κ] in
theorem firstBy_mem {lt : ρ → ρ → Bool} {rows : List ρ} {r : ρ}
    (selected : firstBy lt rows = some r) : r ∈ rows := by
  induction rows generalizing r with
  | nil => simp [firstBy] at selected
  | cons head rest ih =>
      simp only [firstBy] at selected
      cases tail : firstBy lt rest with
      | none =>
          simp only [tail, Option.some.injEq] at selected
          simp [selected]
      | some s =>
          simp only [tail] at selected
          split at selected
          · exact List.mem_cons_of_mem _ (Option.some.inj selected ▸ ih tail)
          · simp [Option.some.inj selected]

omit [DecidableEq κ] in
/-- What a limited select returns is a row of the table that satisfies its filter. -/
theorem first_spec {T : Table ρ key} {p : ρ → Bool} {lt : ρ → ρ → Bool} {r : ρ}
    (selected : T.first p lt = some r) : r ∈ T.rows ∧ p r = true :=
  List.mem_filter.1 (firstBy_mem selected)

omit [DecidableEq κ] in
theorem firstBy_eq_none {lt : ρ → ρ → Bool} {rows : List ρ} :
    firstBy lt rows = none ↔ rows = [] := by
  cases rows with
  | nil => simp [firstBy]
  | cons head rest =>
      simp only [firstBy, reduceCtorEq, iff_false]
      split
      · simp
      · split <;> simp

omit [DecidableEq κ] in
theorem first_eq_none {T : Table ρ key} {p : ρ → Bool} {lt : ρ → ρ → Bool} :
    T.first p lt = none ↔ ∀ r ∈ T.rows, p r = false := by
  simp [first, firstBy_eq_none]

omit [DecidableEq κ] in
/-- Under a strict weak order, no row sorts before the one selected. -/
theorem firstBy_least {lt : ρ → ρ → Bool} (asymm : ∀ r s, lt r s = true → lt s r = false)
    (cotrans : ∀ r s t, lt r t = true → lt r s = true ∨ lt s t = true) {rows : List ρ} {r s : ρ}
    (selected : firstBy lt rows = some r) (member : s ∈ rows) : lt s r = false := by
  have irrefl : ∀ r, lt r r = false := fun r => by
    cases loop : lt r r with
    | false => rfl
    | true => exact loop ▸ asymm r r loop
  induction rows generalizing r with
  | nil => simp at member
  | cons head rest ih =>
      simp only [firstBy] at selected
      cases tail : firstBy lt rest with
      | none =>
          obtain rfl : rest = [] := firstBy_eq_none.1 tail
          simp only [tail, Option.some.injEq] at selected
          obtain rfl : s = head := by simpa using member
          exact selected ▸ irrefl s
      | some least =>
          simp only [tail] at selected
          by_cases earlier : lt least head = true
          · obtain rfl : least = r := by simpa [earlier] using selected
            rcases List.mem_cons.1 member with rfl | later
            · exact asymm _ _ earlier
            · exact ih tail later
          · obtain rfl : head = r := by simpa [earlier] using selected
            rcases List.mem_cons.1 member with rfl | later
            · exact irrefl _
            · have notBefore := ih tail later
              cases hit : lt s head with
              | false => rfl
              | true =>
                  rcases cotrans s least head hit with sooner | sooner
                  · rw [sooner] at notBefore
                    cases notBefore
                  · exact absurd sooner earlier

omit [DecidableEq κ] in
/-- No row that a limited select could have returned sorts before the one it did return. -/
theorem first_least {T : Table ρ key} {p : ρ → Bool} {lt : ρ → ρ → Bool}
    (asymm : ∀ r s, lt r s = true → lt s r = false)
    (cotrans : ∀ r s t, lt r t = true → lt r s = true ∨ lt s t = true) {r s : ρ}
    (selected : T.first p lt = some r) (member : s ∈ T.rows) (wanted : p s = true) :
    lt s r = false :=
  firstBy_least asymm cotrans selected (List.mem_filter.2 ⟨member, wanted⟩)

/-! ## Inserts and deletes -/

theorem insert?_eq_some {T U : Table ρ key} {r : ρ} (inserted : T.insert? r = some U) :
    U.rows = T.rows ++ [r] ∧ ∀ s ∈ T.rows, key s ≠ key r := by
  unfold insert? at inserted
  split at inserted
  · rename_i fresh
    obtain rfl := Option.some.inj inserted
    refine ⟨rfl, fun s member same => fresh ?_⟩
    exact same ▸ List.mem_map_of_mem member
  · simp at inserted

theorem exists_insert? {T : Table ρ key} {r : ρ} (fresh : key r ∉ T.keys) :
    ∃ U, T.insert? r = some U := by
  have absent : key r ∉ T.rows.map key := fresh
  simp [insert?, absent]

theorem insert?_of_get_eq_none {T : Table ρ key} {r : ρ} (fresh : T.get (key r) = none) :
    ∃ U, T.insert? r = some U ∧ T.insert r = U := by
  have absent : key r ∉ T.rows.map key := by
    rw [List.mem_map]
    rintro ⟨s, member, same⟩
    exact get_eq_none.1 fresh s member same
  simp [insert, insert?, absent]

theorem mem_insert? {T U : Table ρ key} {r s : ρ} (inserted : T.insert? r = some U) :
    s ∈ U.rows ↔ s ∈ T.rows ∨ s = r := by
  simp [(insert?_eq_some inserted).1]

theorem keys_insert? {T U : Table ρ key} {r : ρ} (inserted : T.insert? r = some U) :
    U.keys = T.keys ++ [key r] := by
  rw [keys, (insert?_eq_some inserted).1, List.map_append, List.map_singleton, keys]

theorem mem_keys_of_get {T : Table ρ key} {k : κ} {r : ρ} (found : T.get k = some r) :
    k ∈ T.keys :=
  key_of_get found ▸ List.mem_map_of_mem (mem_of_get found)

/-- An insert leaves the lookups of other keys alone. -/
theorem get_insert?_of_ne {T U : Table ρ key} {r : ρ} {k : κ} (inserted : T.insert? r = some U)
    (other : k ≠ key r) : U.get k = T.get k := by
  have differ : ¬ key r = k := fun same => other same.symm
  simp [get, (insert?_eq_some inserted).1, List.find?_append, differ]

theorem get_delete_of_ne (T : Table ρ key) {p : ρ → Bool} {k : κ}
    (spared : ∀ r ∈ T.rows, key r = k → p r = false) : (T.delete p).get k = T.get k := by
  simp only [get, delete, List.find?_filter]
  refine List.find?_congr fun r member => ?_
  by_cases same : key r = k
  · simp [same, spared r member same]
  · simp [same]

omit [DecidableEq κ] in
theorem mem_delete {T : Table ρ key} {p : ρ → Bool} {r : ρ} :
    r ∈ (T.delete p).rows ↔ r ∈ T.rows ∧ p r = false := by
  simp [delete]

/-! ## Rows outside

The rows that satisfy `p` are those a writer has nothing to do with. -/

theorem filter_update {T : Table ρ key} {k : κ} {f : ρ → ρ} (keeps : ∀ r, key (f r) = key r)
    {p : ρ → Bool} (outside : ∀ r ∈ T.rows, key r = k → p r = false ∧ p (f r) = false) :
    (T.update k f keeps).rows.filter p = T.rows.filter p := by
  have pointwise : ∀ r ∈ T.rows, (p ∘ fun r => if key r = k then f r else r) r = p r := by
    intro r member
    by_cases same : key r = k
    · obtain ⟨before, after⟩ := outside r member same
      simp [same, before, after]
    · simp [same]
  show (T.rows.map fun r => if key r = k then f r else r).filter p = T.rows.filter p
  rw [List.filter_map, List.filter_congr pointwise]
  refine (List.map_congr_left fun r member => ?_).trans (List.map_id _)
  obtain ⟨inTable, kept⟩ := List.mem_filter.1 member
  refine if_neg fun same => ?_
  rw [(outside r inTable same).1] at kept
  cases kept

/-- A rewrite that takes its row out of `p` removes exactly that row from the selection. -/
theorem filter_update_out {T : Table ρ key} {k : κ} {f : ρ → ρ} (keeps : ∀ r, key (f r) = key r)
    {p : ρ → Bool} (out : ∀ r ∈ T.rows, key r = k → p (f r) = false) :
    (T.update k f keeps).rows.filter p = (T.rows.filter p).filter fun r => key r ≠ k := by
  have rowwise : ∀ rows : List ρ, (∀ r ∈ rows, key r = k → p (f r) = false) →
      (rows.map fun r => if key r = k then f r else r).filter p =
        (rows.filter p).filter fun r => key r ≠ k := by
    intro rows out
    induction rows with
    | nil => rfl
    | cons head rest ih =>
        have tail := ih fun r later => out r (List.mem_cons_of_mem _ later)
        by_cases same : key head = k
        · have gone := out head List.mem_cons_self same
          rw [List.map_cons, if_pos same, List.filter_cons, gone, List.filter_cons, tail]
          cases p head with
          | false => rfl
          | true => simp [same]
        · rw [List.map_cons, if_neg same, List.filter_cons, List.filter_cons, tail]
          cases p head with
          | false => rfl
          | true => simp [same]
  exact rowwise T.rows out

/-- A selection is one of its rows together with the rows of the other keys. -/
theorem filter_perm_cons {T : Table ρ key} {p : ρ → Bool} {r : ρ}
    (member : r ∈ T.rows) (wanted : p r = true) :
    (r :: (T.rows.filter p).filter fun s => key s ≠ key r).Perm (T.rows.filter p) := by
  have nodup : (T.rows.filter p).Nodup := (List.Nodup.of_map key T.nodup).filter p
  have inside : r ∈ T.rows.filter p := List.mem_filter.2 ⟨member, wanted⟩
  have fresh : r ∉ (T.rows.filter p).filter fun s => key s ≠ key r := by simp
  refine (List.perm_ext_iff_of_nodup (List.nodup_cons.2 ⟨fresh, nodup.filter _⟩) nodup).2 ?_
  intro s
  constructor
  · intro present
    rcases List.mem_cons.1 present with rfl | other
    · exact inside
    · exact (List.mem_filter.1 other).1
  · intro present
    by_cases same : key s = key r
    · exact List.mem_cons.2 (.inl (eq_of_key_eq (List.mem_filter.1 present).1 member same))
    · exact List.mem_cons.2 (.inr (List.mem_filter.2 ⟨present, by simpa using same⟩))

omit [DecidableEq κ] in
theorem filter_delete {T : Table ρ key} {q p : ρ → Bool}
    (outside : ∀ r ∈ T.rows, q r = true → p r = false) :
    (T.delete q).rows.filter p = T.rows.filter p := by
  unfold delete
  simp only [List.filter_filter]
  refine List.filter_congr fun r member => ?_
  cases deleted : q r with
  | false => simp
  | true => simp [outside r member deleted]

theorem filter_insert? {T U : Table ρ key} {r : ρ} {p : ρ → Bool}
    (inserted : T.insert? r = some U) (outside : p r = false) :
    U.rows.filter p = T.rows.filter p := by
  obtain ⟨rows, -⟩ := insert?_eq_some inserted
  rw [rows, List.filter_append]
  simp [outside]

/-! ## Counting -/

omit [DecidableEq κ] in
theorem count_eq_zero {T : Table ρ key} {p : ρ → Bool} :
    T.count p = 0 ↔ ∀ r ∈ T.rows, p r = false := by
  simp [count, List.countP_eq_zero]

theorem count_insert? {T U : Table ρ key} {r : ρ} (inserted : T.insert? r = some U)
    (p : ρ → Bool) : U.count p = T.count p + if p r then 1 else 0 := by
  simp [count, (insert?_eq_some inserted).1, List.countP_append, List.countP_singleton]

omit [DecidableEq κ] in
/-- A table whose rows with a property all come from another counts no more of them. -/
theorem count_le_of_subset {T U : Table ρ key} {p : ρ → Bool}
    (origin : ∀ r ∈ U.rows, p r = true → r ∈ T.rows) : U.count p ≤ T.count p := by
  have nodup : (U.rows.filter p).Nodup := (List.Nodup.of_map key U.nodup).filter p
  have subset : U.rows.filter p ⊆ T.rows.filter p := by
    intro r member
    obtain ⟨inTable, holds⟩ := List.mem_filter.1 member
    exact List.mem_filter.2 ⟨origin r inTable holds, holds⟩
  rw [count, count, List.countP_eq_length_filter, List.countP_eq_length_filter]
  exact (List.subperm_of_subset nodup subset).length_le

/-- The rows other than the one with key `k`, counted. -/
private theorem countP_key_split {rows : List ρ} (nodup : (rows.map key).Nodup) {r : ρ}
    (member : r ∈ rows) (p : ρ → Bool) :
    rows.countP p = rows.countP (fun s => p s && !decide (key s = key r)) +
      if p r then 1 else 0 := by
  induction rows with
  | nil => simp at member
  | cons s rest ih =>
      rw [List.map_cons, List.nodup_cons] at nodup
      rcases List.mem_cons.1 member with rfl | later
      · have others : rest.countP (fun s => p s && !decide (key s = key r)) = rest.countP p := by
          refine List.countP_congr fun s inRest => ?_
          have other : key s ≠ key r := fun same =>
            nodup.1 (same ▸ List.mem_map_of_mem inRest)
          simp [other]
        simp [List.countP_cons, others]
      · have other : key s ≠ key r := fun same =>
          nodup.1 (same ▸ List.mem_map_of_mem later)
        rw [List.countP_cons, List.countP_cons, ih nodup.2 later]
        simp [other]
        omega

/-- Rewriting one row moves a count by what that row gains and loses. -/
theorem count_update {T : Table ρ key} {k : κ} {r : ρ} (found : T.get k = some r) (f : ρ → ρ)
    (keeps : ∀ r, key (f r) = key r) (p : ρ → Bool) :
    (T.update k f keeps).count p + (if p r then 1 else 0) =
      T.count p + if p (f r) then 1 else 0 := by
  have hk : key r = k := key_of_get found
  have member := mem_of_get found
  have before := countP_key_split T.nodup member p
  have after := countP_key_split (T.update k f keeps).nodup
    (mem_update.2 (.inl ⟨r, member, hk, rfl⟩)) p
  have rest : (T.update k f keeps).rows.countP (fun s => p s && !decide (key s = key (f r))) =
      T.rows.countP (fun s => p s && !decide (key s = key r)) := by
    simp only [update, rows_modify, List.countP_map]
    refine List.countP_congr fun s _ => ?_
    by_cases hit : key s = k <;> simp [hit, keeps, hk]
  simp only [count]
  omega

/-- An insert that a further unique key can refuse. -/
theorem insertUnless_eq_none {α : Type*} {T : Table ρ key} {p : ρ → Bool} {r : ρ}
    {f : Table ρ key → α} :
    (if T.rows.any p then none else (T.insert? r).map f) = none ↔
      T.rows.any p = true ∨ key r ∈ T.keys := by
  by_cases taken : T.rows.any p = true
  · simp [taken]
  · by_cases present : key r ∈ T.rows.map key <;> simp [taken, insert?, keys, present]

namespace UniqueBy

variable {ν : Type*} {name : ρ → ν} {T U : Table ρ key}

omit [DecidableEq κ] in
theorem of_subset (unique : T.UniqueBy name) (fewer : ∀ r ∈ U.rows, r ∈ T.rows) :
    U.UniqueBy name :=
  fun r inU s alsoInU same => unique r (fewer r inU) s (fewer s alsoInU) same

theorem insert? {r : ρ} (unique : T.UniqueBy name) (inserted : T.insert? r = some U)
    (free : ∀ s ∈ T.rows, name s ≠ name r) : U.UniqueBy name := by
  intro s inU t alsoInU same
  rcases (mem_insert? inserted).1 inU with old | rfl
  · rcases (mem_insert? inserted).1 alsoInU with alsoOld | rfl
    · exact unique s old t alsoOld same
    · exact absurd same (free s old)
  · rcases (mem_insert? inserted).1 alsoInU with alsoOld | rfl
    · exact absurd same.symm (free t alsoOld)
    · rfl

/-- A rewrite at one key that keeps the name. -/
theorem update {k : κ} {f : ρ → ρ} (keeps : ∀ r, key (f r) = key r) (unique : T.UniqueBy name)
    (stays : ∀ r, name (f r) = name r) : (T.update k f keeps).UniqueBy name := by
  have named : ∀ r, name (if key r = k then f r else r) = name r := by
    intro r
    split
    · exact stays r
    · rfl
  intro r inU s alsoInU same
  obtain ⟨r, inTable, rfl⟩ := List.mem_map.1 inU
  obtain ⟨s, alsoInTable, rfl⟩ := List.mem_map.1 alsoInU
  rw [named, named] at same
  rw [unique r inTable s alsoInTable same]

end UniqueBy

end Table

end Lcp.Theory
