/-
# Theory.Dict -- dictionaries in the order of insertion

A dictionary is a table of entries that are keyed by their first component.  `set` writes
a value in the place of the one that its key has, or behind all others; a display and an
update are a `set` for each entry in turn.

* `rows_mergeAll` -- dictionaries that share no key merge into all of their entries.
* `find_mergeAll` -- and each value is found, in whatever order they are merged.
-/
import Mathlib.Data.List.Perm.Lattice
import Lcp.Theory.Table

namespace Lcp.Theory

set_option autoImplicit false

universe u v

/-- Entries in the order of insertion, no two of which share a key. -/
abbrev Dict (κ : Type u) (α : Type v) := Table (κ × α) Prod.fst

namespace Dict

variable {κ : Type u} {α : Type v} [DecidableEq κ]

/-- `d[k] = v`. -/
def set (d : Dict κ α) (k : κ) (v : α) : Dict κ α :=
  (d.insert? (k, v)).getD (d.update k (fun entry => (entry.1, v)) fun _ => rfl)

/-- `d.get(k)`. -/
def find (d : Dict κ α) (k : κ) : Option α := (d.get k).map Prod.snd

/-- One `set` for each entry. -/
def extend (d : Dict κ α) (entries : List (κ × α)) : Dict κ α :=
  entries.foldl (fun d entry => set d entry.1 entry.2) d

/-- The display `{k: v, ...}`. -/
def ofList (entries : List (κ × α)) : Dict κ α := extend Table.empty entries

/-- `d.update(other)`. -/
def merge (d other : Dict κ α) : Dict κ α := extend d other.rows

/-- The updates of an empty dictionary by each of the others. -/
def mergeAll (dicts : List (Dict κ α)) : Dict κ α := dicts.foldl merge Table.empty

example : (ofList [(1, "a"), (2, "b"), (1, "c")]).rows = [(1, "c"), (2, "b")] := by decide

/-! ## Lookups -/

theorem find_eq_some_iff {d : Dict κ α} {k : κ} {v : α} :
    find d k = some v ↔ (k, v) ∈ d.rows := by
  constructor
  · intro found
    obtain ⟨entry, got, rfl⟩ := Option.map_eq_some_iff.1 found
    obtain ⟨member, rfl⟩ := Table.get_eq_some.1 got
    exact member
  · intro member
    have got : d.get k = some (k, v) := Table.get_eq_some.2 ⟨member, rfl⟩
    rw [find, got]
    rfl

/-! ## Fresh keys -/

theorem rows_set_of_fresh {d : Dict κ α} {k : κ} (v : α) (fresh : k ∉ d.keys) :
    (set d k v).rows = d.rows ++ [(k, v)] := by
  obtain ⟨inserted, given⟩ := Table.exists_insert? (T := d) (r := (k, v)) fresh
  rw [set, given]
  exact (Table.insert?_eq_some given).1

theorem rows_extend {d : Dict κ α} {entries : List (κ × α)}
    (apart : (d.keys ++ entries.map Prod.fst).Nodup) :
    (extend d entries).rows = d.rows ++ entries := by
  induction entries generalizing d with
  | nil => exact (List.append_nil _).symm
  | cons entry rest ih =>
      obtain ⟨k, v⟩ := entry
      have fresh : k ∉ d.keys := by
        intro taken
        exact (List.nodup_append.1 apart).2.2 k taken k List.mem_cons_self rfl
      have grown : (set d k v).keys = d.keys ++ [k] := by
        rw [Table.keys, rows_set_of_fresh v fresh, List.map_append]
        rfl
      have later : ((set d k v).keys ++ rest.map Prod.fst).Nodup := by
        rw [grown, List.append_assoc]
        exact apart
      show (extend (set d k v) rest).rows = d.rows ++ (k, v) :: rest
      rw [ih later, rows_set_of_fresh v fresh, List.append_assoc]
      rfl

/-- A display with distinct keys has the entries as they are written. -/
theorem rows_ofList {entries : List (κ × α)} (distinct : (entries.map Prod.fst).Nodup) :
    (ofList entries).rows = entries := by
  have apart : ((Table.empty : Dict κ α).keys ++ entries.map Prod.fst).Nodup := distinct
  rw [ofList, rows_extend apart]
  rfl

/-! ## Merges -/

theorem rows_foldl_merge {d : Dict κ α} {dicts : List (Dict κ α)}
    (apart : (d.keys ++ dicts.flatMap Table.keys).Nodup) :
    (dicts.foldl merge d).rows = d.rows ++ dicts.flatMap Table.rows := by
  induction dicts generalizing d with
  | nil => exact (List.append_nil _).symm
  | cons head rest ih =>
      rw [List.flatMap_cons, ← List.append_assoc] at apart
      have merged : (merge d head).rows = d.rows ++ head.rows :=
        rows_extend (List.Nodup.of_append_left apart)
      have grown : (merge d head).keys = d.keys ++ head.keys := by
        rw [Table.keys, merged, List.map_append]
        rfl
      rw [List.foldl_cons, ih (by rwa [grown]), merged, List.flatMap_cons, List.append_assoc]

/-- Nothing is lost where no key is shared. -/
theorem rows_mergeAll {dicts : List (Dict κ α)} (apart : (dicts.flatMap Table.keys).Nodup) :
    (mergeAll dicts).rows = dicts.flatMap Table.rows :=
  rows_foldl_merge (d := Table.empty) apart

section Order

variable {dicts order : List (Dict κ α)} (apart : (dicts.flatMap Table.keys).Nodup)
  (reordered : order.Perm dicts)

include apart reordered

/-- The entries are the same ones in every order. -/
theorem mergeAll_perm : (mergeAll order).rows.Perm (dicts.flatMap Table.rows) := by
  have keys : (order.flatMap Table.keys).Perm (dicts.flatMap Table.keys) :=
    reordered.flatMap_right _
  rw [rows_mergeAll (keys.nodup_iff.2 apart)]
  exact reordered.flatMap_right _

theorem keys_mergeAll_perm : (mergeAll order).keys.Perm (dicts.flatMap Table.keys) := by
  have entries := (mergeAll_perm apart reordered).map Prod.fst
  rw [List.map_flatMap] at entries
  exact entries

theorem find_mergeAll {d : Dict κ α} (member : d ∈ dicts) {k : κ} {v : α}
    (found : find d k = some v) : find (mergeAll order) k = some v := by
  rw [find_eq_some_iff] at found ⊢
  exact (mergeAll_perm apart reordered).mem_iff.2 (List.mem_flatMap.2 ⟨d, member, found⟩)

end Order

end Dict

end Lcp.Theory
