/-
# Theory.OwnedRows -- the committed and the uncommitted rows of a table

A session inserts a row under its own lock; its commit gives the locks back, its
rollback deletes the rows as well.  So a table splits into the committed rows and, for
each session, its uncommitted ones.

A step of one session is told by what it does to these lists: `wrote` adds a row to the
session's list, `commit` moves the list to the committed rows, `rollback` drops it, and
none of them touches the list of another session.
-/
import Lcp.Theory.RowLocks
import Lcp.Theory.Table

namespace Lcp.Theory

set_option autoImplicit false

universe u v w x

/-- A table of which some rows are locked by the session that inserted them. -/
structure OwnedRows (ρ : Type u) {κ : Type v} (key : ρ → κ) (σ : Type w) where
  table : Table ρ key
  owner : RowLocks κ σ

namespace OwnedRows

variable {ρ : Type u} {κ : Type v} {key : ρ → κ} {σ : Type w}

/-- The rows that every session sees. -/
def committed (T : OwnedRows ρ key σ) : List ρ :=
  T.table.rows.filter fun r => (T.owner (key r)).isNone

/-- Only rows of the table are locked. -/
def Grounded (T : OwnedRows ρ key σ) : Prop := ∀ i k, T.owner.Held i k → k ∈ T.table.keys

theorem mem_committed {T : OwnedRows ρ key σ} {r : ρ} :
    r ∈ T.committed ↔ r ∈ T.table.rows ∧ T.owner (key r) = none := by
  rw [committed, List.mem_filter, Option.isNone_iff_eq_none]

/-- The session inserted the row, which led to this table. -/
def wrote [DecidableEq κ] (T : OwnedRows ρ key σ) (i : σ) (r : ρ) (after : Table ρ key) :
    OwnedRows ρ key σ :=
  ⟨after, T.owner.acquire i [key r]⟩

section Sessions

variable [DecidableEq σ]

/-- The rows that a session inserted and has not committed. -/
def uncommitted (T : OwnedRows ρ key σ) (i : σ) : List ρ :=
  T.table.rows.filter fun r => T.owner (key r) = some i

/-- The session gives back its locks. -/
def commit (T : OwnedRows ρ key σ) (i : σ) : OwnedRows ρ key σ := ⟨T.table, T.owner.release i⟩

/-- The session deletes its rows and gives back their locks. -/
def rollback (T : OwnedRows ρ key σ) (i : σ) : OwnedRows ρ key σ :=
  ⟨T.table.delete fun r => T.owner (key r) = some i, T.owner.release i⟩

theorem mem_uncommitted {T : OwnedRows ρ key σ} {i : σ} {r : ρ} :
    r ∈ T.uncommitted i ↔ r ∈ T.table.rows ∧ T.owner (key r) = some i := by
  rw [uncommitted, List.mem_filter, decide_eq_true_iff]

end Sessions

/-! ## An insert -/

section Insert

variable [DecidableEq κ] {T : OwnedRows ρ key σ} {i : σ} {r : ρ} {after : Table ρ key}

/-- The old rows keep their owners, the new one belongs to the session. -/
theorem filter_wrote (inserted : T.table.insert? r = some after) (p : Option σ → Bool) :
    ((T.wrote i r after).table.rows.filter fun s => p ((T.wrote i r after).owner (key s))) =
      (T.table.rows.filter fun s => p (T.owner (key s))) ++ if p (some i) then [r] else [] := by
  obtain ⟨rows, fresh⟩ := Table.insert?_eq_some inserted
  have old : ∀ s ∈ T.table.rows, (T.owner.acquire i [key r]) (key s) = T.owner (key s) := by
    intro s member
    exact if_neg (by simpa using fresh s member)
  have new : (T.owner.acquire i [key r]) (key r) = some i := if_pos List.mem_cons_self
  show (after.rows.filter fun s => p ((T.owner.acquire i [key r]) (key s))) = _
  rw [rows, List.filter_append, List.filter_congr fun s member => by rw [old s member],
    List.filter_cons, List.filter_nil, new]

theorem uncommitted_wrote [DecidableEq σ] (inserted : T.table.insert? r = some after) (j : σ) :
    (T.wrote i r after).uncommitted j = T.uncommitted j ++ if i = j then [r] else [] := by
  refine (filter_wrote inserted fun owner => decide (owner = some j)).trans ?_
  simp only [Option.some.injEq, decide_eq_true_eq]
  rfl

theorem committed_wrote (inserted : T.table.insert? r = some after) :
    (T.wrote i r after).committed = T.committed :=
  (filter_wrote inserted Option.isNone).trans (List.append_nil _)

theorem grounded_wrote (grounded : T.Grounded) (inserted : T.table.insert? r = some after) :
    (T.wrote i r after).Grounded := by
  intro j k held
  show k ∈ after.keys
  rw [Table.keys_insert? inserted, List.mem_append, List.mem_singleton]
  by_cases same : k = key r
  · exact .inr same
  · have before : T.owner k = some j := (if_neg (by simpa using same)).symm.trans held
    exact .inl (grounded j k before)

end Insert

/-! ## The end of a transaction -/

section End

variable [DecidableEq σ] (T : OwnedRows ρ key σ) (i : σ)

theorem uncommitted_commit (j : σ) :
    (T.commit i).uncommitted j = if i = j then [] else T.uncommitted j := by
  split
  · rename_i same
    subst same
    exact List.filter_eq_nil_iff.2 fun r _ held =>
      RowLocks.not_held_release T.owner i (key r) (of_decide_eq_true held)
  · rename_i other
    refine List.filter_congr fun r _ => decide_eq_decide.2 ?_
    exact ⟨RowLocks.Held.of_release, RowLocks.release_other (Ne.symm other)⟩

theorem uncommitted_rollback (j : σ) :
    (T.rollback i).uncommitted j = if i = j then [] else T.uncommitted j := by
  rw [← uncommitted_commit T i j]
  refine List.filter_filter.trans (List.filter_congr fun r _ => ?_)
  by_cases mine : T.owner (key r) = some i
  · have free : ¬ T.owner.release i (key r) = some j := by simp [RowLocks.release, mine]
    simp [commit, mine, free]
  · simp [commit, rollback, mine]
    rfl

/-- A commit adds the session's rows to the committed ones. -/
theorem mem_committed_commit {r : ρ} :
    r ∈ (T.commit i).committed ↔ r ∈ T.committed ∨ r ∈ T.uncommitted i := by
  rw [mem_committed, mem_committed, mem_uncommitted, ← and_or_left]
  refine and_congr_right fun _ => ?_
  show T.owner.release i (key r) = none ↔ _
  by_cases mine : T.owner (key r) = some i
  · simp [RowLocks.release, mine]
  · simp [RowLocks.release, mine]

theorem length_committed_commit :
    (T.commit i).committed.length = T.committed.length + (T.uncommitted i).length := by
  show (T.table.rows.filter fun r => (T.owner.release i (key r)).isNone).length =
    (T.table.rows.filter fun r => (T.owner (key r)).isNone).length +
      (T.table.rows.filter fun r => decide (T.owner (key r) = some i)).length
  induction T.table.rows with
  | nil => rfl
  | cons r rest ih =>
      rw [List.filter_cons, List.filter_cons, List.filter_cons]
      by_cases mine : T.owner (key r) = some i
      · have free : T.owner.release i (key r) = none := if_pos mine
        simp only [free, mine, Option.isNone_none, Option.isNone_some, if_true, decide_true,
          List.length_cons, ih]
        simp
        omega
      · have same : T.owner.release i (key r) = T.owner (key r) := if_neg mine
        simp only [same, mine, decide_false]
        cases T.owner (key r) with
        | none =>
            simp [ih]
            omega
        | some j => simp [ih]

theorem committed_rollback : (T.rollback i).committed = T.committed := by
  refine List.filter_filter.trans (List.filter_congr fun r _ => ?_)
  by_cases mine : T.owner (key r) = some i
  · simp [mine]
  · have same : T.owner.release i (key r) = T.owner (key r) := if_neg mine
    simp [rollback, mine, same]

variable {T i}

theorem grounded_commit (grounded : T.Grounded) : (T.commit i).Grounded := fun j k held =>
  grounded j k (RowLocks.Held.of_release held)

theorem grounded_rollback (grounded : T.Grounded) : (T.rollback i).Grounded := by
  intro j k held
  obtain ⟨r, member, rfl⟩ := List.mem_map.1 (grounded j k (RowLocks.Held.of_release held))
  refine List.mem_map_of_mem (Table.mem_delete.2 ⟨member, ?_⟩)
  refine decide_eq_false fun mine => ?_
  have free : T.owner.release i (key r) = none := if_pos mine
  cases free.symm.trans held

end End

/-! ## Steps outside the sessions -/

section Outside

variable {T : OwnedRows ρ key σ}

/-- A row that somebody else commits has no owner. -/
theorem owner_eq_none [DecidableEq κ] {r : ρ} {after : Table ρ key} (grounded : T.Grounded)
    (inserted : T.table.insert? r = some after) : T.owner (key r) = none := by
  refine Option.eq_none_iff_forall_ne_some.2 fun i held => ?_
  obtain ⟨s, member, same⟩ := List.mem_map.1 (grounded i _ held)
  exact (Table.insert?_eq_some inserted).2 s member same

theorem uncommitted_insert [DecidableEq κ] [DecidableEq σ] {r : ρ} {after : Table ρ key}
    (grounded : T.Grounded) (inserted : T.table.insert? r = some after) (i : σ) :
    (OwnedRows.mk after T.owner).uncommitted i = T.uncommitted i := by
  have free := owner_eq_none grounded inserted
  show after.rows.filter _ = _
  rw [(Table.insert?_eq_some inserted).1, List.filter_append]
  simp [free, uncommitted]

theorem grounded_insert [DecidableEq κ] {r : ρ} {after : Table ρ key} (grounded : T.Grounded)
    (inserted : T.table.insert? r = some after) : (OwnedRows.mk after T.owner).Grounded := by
  intro i k held
  show k ∈ after.keys
  rw [Table.keys_insert? inserted]
  exact List.mem_append_left _ (grounded i k held)

variable {α : Type x} {identity : ρ → α} {keyOf : α → κ}

/-- A rewrite that leaves what identifies the rows leaves the selections by key. -/
theorem map_filter_identity (keyed : ∀ r, keyOf (identity r) = key r) {rows rows' : List ρ}
    (same : rows'.map identity = rows.map identity) (p : κ → Bool) :
    (rows'.filter fun r => p (key r)).map identity =
      (rows.filter fun r => p (key r)).map identity := by
  have through : ∀ rows : List ρ, (rows.filter fun r => p (key r)).map identity =
      (rows.map identity).filter fun a => p (keyOf a) := by
    intro rows
    rw [List.filter_map]
    refine congrArg _ (List.filter_congr fun r _ => ?_)
    rw [Function.comp_apply, keyed]
  rw [through, through, same]

end Outside

end OwnedRows

end Lcp.Theory
