/-
# Theory.RowLocks -- exclusive row locks held by sessions

A lock table says which session, if any, holds each row.  `acquire` takes rows
that are open to the session, `release` gives back everything a session holds.

What a protocol proof needs is that neither disturbs another session: a lock of
`j` survives what `i` does (`acquire_other`, `release_other`).
-/
import Mathlib.Logic.Function.Basic
import Mathlib.Data.List.Basic

namespace Lcp.Theory

set_option autoImplicit false

universe u v

/-- The holder of each row. -/
def RowLocks (κ : Type u) (σ : Type v) := κ → Option σ

namespace RowLocks

variable {κ : Type u} {σ : Type v}

/-- No row is held. -/
def none_ : RowLocks κ σ := fun _ => none

/-- The session holds the row. -/
def Held (locks : RowLocks κ σ) (i : σ) (k : κ) : Prop := locks k = some i

variable [DecidableEq κ] [DecidableEq σ]

instance (locks : RowLocks κ σ) (i : σ) (k : κ) : Decidable (locks.Held i k) :=
  inferInstanceAs (Decidable (locks k = some i))

/-- No other session holds the row. -/
def openTo (locks : RowLocks κ σ) (i : σ) (k : κ) : Bool := locks k = none ∨ locks k = some i

/-- The session takes the rows. -/
def acquire (locks : RowLocks κ σ) (i : σ) (rows : List κ) : RowLocks κ σ := fun k =>
  if k ∈ rows then some i else locks k

/-- The session gives back every row it holds. -/
def release (locks : RowLocks κ σ) (i : σ) : RowLocks κ σ := fun k =>
  if locks k = some i then none else locks k

omit [DecidableEq κ] [DecidableEq σ] in
@[simp] theorem not_held_none_ (i : σ) (k : κ) : ¬ (none_ : RowLocks κ σ).Held i k := nofun

omit [DecidableEq κ] [DecidableEq σ] in
/-- A row has one holder. -/
theorem Held.unique {locks : RowLocks κ σ} {i j : σ} {k : κ} (hi : locks.Held i k)
    (hj : locks.Held j k) : i = j :=
  Option.some.inj (hi.symm.trans hj)

omit [DecidableEq σ] in
theorem held_acquire {locks : RowLocks κ σ} {i : σ} {rows : List κ} {k : κ}
    (member : k ∈ rows) : (locks.acquire i rows).Held i k := if_pos member

omit [DecidableEq σ] in
/-- What the session held it still holds. -/
theorem Held.acquire {locks : RowLocks κ σ} {i : σ} {k : κ} (held : locks.Held i k)
    (rows : List κ) : (locks.acquire i rows).Held i k := by
  by_cases member : k ∈ rows
  · exact held_acquire member
  · exact (if_neg member).trans held

omit [DecidableEq κ] in
theorem not_held_of_openTo {locks : RowLocks κ σ} {i j : σ} {k : κ} (other : j ≠ i)
    (isOpen : locks.openTo j k = true) : ¬ locks.Held i k := by
  intro held
  have holder : locks k = some i := held
  simp only [openTo, holder, reduceCtorEq, false_or, Option.some.injEq,
    decide_eq_true_eq] at isOpen
  exact other isOpen.symm

/-- Taking open rows takes none from another session. -/
theorem acquire_other {locks : RowLocks κ σ} {i j : σ} {rows : List κ} {k : κ} (other : j ≠ i)
    (isOpen : ∀ r ∈ rows, locks.openTo i r = true) (held : locks.Held j k) :
    (locks.acquire i rows).Held j k := by
  have elsewhere : k ∉ rows := fun member =>
    not_held_of_openTo other.symm (isOpen k member) held
  exact (if_neg elsewhere).trans held

omit [DecidableEq κ] in
theorem release_other {locks : RowLocks κ σ} {i j : σ} {k : κ} (other : j ≠ i)
    (held : locks.Held j k) : (locks.release i).Held j k := by
  have differ : ¬ locks.Held i k := fun mine => other (held.unique mine)
  exact (if_neg differ).trans held

omit [DecidableEq σ] in
/-- Another session's rows are those it had. -/
theorem Held.of_acquire {locks : RowLocks κ σ} {i j : σ} {rows : List κ} {k : κ} (other : j ≠ i)
    (held : (locks.acquire i rows).Held j k) : locks.Held j k := by
  unfold RowLocks.Held RowLocks.acquire at held
  split at held
  · exact absurd (Option.some.inj held).symm other
  · exact held

omit [DecidableEq κ] in
theorem release_of_not_held {locks : RowLocks κ σ} {i : σ} {k : κ} (free : ¬ locks.Held i k) :
    locks.release i k = locks k := if_neg free

omit [DecidableEq κ] in
theorem not_held_release (locks : RowLocks κ σ) (i : σ) (k : κ) :
    ¬ (locks.release i).Held i k := by
  unfold Held release
  split
  · exact nofun
  · assumption

omit [DecidableEq κ] in
theorem Held.of_release {locks : RowLocks κ σ} {i j : σ} {k : κ}
    (held : (locks.release i).Held j k) : locks.Held j k := by
  unfold RowLocks.Held RowLocks.release at held
  split at held
  · cases held
  · exact held

omit [DecidableEq κ] in
theorem openTo_of_held {locks : RowLocks κ σ} {i : σ} {k : κ} (held : locks.Held i k) :
    locks.openTo i k = true := decide_eq_true (.inr held)

omit [DecidableEq κ] in
theorem openTo_of_free {locks : RowLocks κ σ} {i : σ} {k : κ} (free : locks k = none) :
    locks.openTo i k = true := decide_eq_true (.inl free)

/-- What was open to the session is open to it after it took rows. -/
theorem openTo_acquire {locks : RowLocks κ σ} {i : σ} {rows : List κ} {k : κ}
    (isOpen : locks.openTo i k = true) : (locks.acquire i rows).openTo i k = true := by
  by_cases member : k ∈ rows
  · exact openTo_of_held (held_acquire member)
  · have same : locks.acquire i rows k = locks k := if_neg member
    simpa [openTo, same] using isOpen

omit [DecidableEq κ] in
/-- A row that was open to the session is free once the session gave back its rows. -/
theorem release_of_openTo {locks : RowLocks κ σ} {i : σ} {k : κ}
    (isOpen : locks.openTo i k = true) : locks.release i k = none := by
  unfold release
  split
  · rfl
  · rename_i other
    simpa [openTo, other] using isOpen

end RowLocks

end Lcp.Theory
