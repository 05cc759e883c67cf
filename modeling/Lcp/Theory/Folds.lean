/-
# Theory.Folds -- loops that can raise

A loop over a list is `foldlM` in `Except`.  `foldlM_map` runs a loop on a part of its
state, `foldlM_filter_of_skips` leaves the items out that its body passes over.
-/
import Mathlib.Data.List.Basic

namespace Lcp.Theory

set_option autoImplicit false

universe u v w

variable {ε : Type u} {σ τ : Type v} {α : Type w}

/-- A body that acts on a part of the state alone. -/
theorem foldlM_map {f : σ → τ} {body : σ → α → Except ε σ} {part : τ → α → Except ε τ}
    (step : ∀ s a, (body s a).map f = part (f s) a) (items : List α) (s : σ) :
    (items.foldlM body s).map f = items.foldlM part (f s) := by
  induction items generalizing s with
  | nil => rfl
  | cons a rest ih =>
      rw [List.foldlM_cons, List.foldlM_cons, ← step s a]
      cases body s a with
      | error e => rfl
      | ok next => exact ih next

/-- Items that the body passes over, in every state that the loop can be in. -/
theorem foldlM_filter_of_skips {body : σ → α → Except ε σ} {inv : σ → Prop} {keep : α → Bool}
    (kept : ∀ s a t, inv s → body s a = .ok t → inv t)
    (skips : ∀ s a, inv s → keep a = false → body s a = .ok s) (items : List α) {s : σ}
    (start : inv s) : (items.filter keep).foldlM body s = items.foldlM body s := by
  induction items generalizing s with
  | nil => rfl
  | cons a rest ih =>
      rw [List.foldlM_cons]
      cases keeps : keep a with
      | false =>
          rw [List.filter_cons_of_neg (by simp [keeps]), skips s a start keeps]
          exact ih start
      | true =>
          rw [List.filter_cons_of_pos keeps, List.foldlM_cons]
          cases ran : body s a with
          | error e => rfl
          | ok next => exact ih (kept s a next start ran)

/-- A body that answers in every state the loop can be in. -/
theorem foldlM_ok_of_inv {body : σ → α → Except ε σ} {inv : σ → Prop}
    (answers : ∀ s a, inv s → ∃ t, body s a = .ok t ∧ inv t) (items : List α) {s : σ}
    (start : inv s) : ∃ t, items.foldlM body s = .ok t ∧ inv t := by
  induction items generalizing s with
  | nil => exact ⟨s, rfl, start⟩
  | cons a rest ih =>
      obtain ⟨next, first, held⟩ := answers s a start
      obtain ⟨last, ran, heldLast⟩ := ih held
      refine ⟨last, ?_, heldLast⟩
      rw [List.foldlM_cons, first]
      exact ran

end Lcp.Theory
