/-
# Theory.Noninterference -- one party of a shared service

A service answers the calls of many parties over one state.  `view` is the state as if one
party were alone, and the calls of `mine` are that party's.  `Separates` says of single calls
that the service keeps parties apart:

* a call of `mine` answers on the view as it does on the whole state, and leaves the view of
  what it leaves there;
* a call of another party does not change the view.

`private_run` is what follows for whole runs: the party receives the answers, and ends with
the view, of a run in which nobody else ever called, over a state that holds nothing else.
Both conditions are asked of calls that meet `C` only, so what can get in the way across the
boundary is said there.
-/
import Mathlib.Data.List.Basic

namespace Lcp.Theory

set_option autoImplicit false

universe u v w

/-- A service that answers every call. -/
structure Service (σ : Type u) (α : Type v) (ο : Type w) where
  call : σ → α → ο × σ

namespace Service

variable {σ : Type u} {α : Type v} {ο : Type w} (S : Service σ α ο)

/-- The answers to the calls of `mine`, in order. -/
def answers (mine : α → Bool) : σ → List α → List ο
  | _, [] => []
  | s, a :: as =>
      if mine a then (S.call s a).1 :: answers mine (S.call s a).2 as
      else answers mine (S.call s a).2 as

/-- The state after the calls. -/
def final : σ → List α → σ
  | s, [] => s
  | s, a :: as => final (S.call s a).2 as

/-- Every call meets `C` in the state it finds. -/
def Meets (C : σ → α → Prop) : σ → List α → Prop
  | _, [] => True
  | s, a :: as => C s a ∧ Meets C (S.call s a).2 as

instance decidableMeets (C : σ → α → Prop) [∀ s a, Decidable (C s a)] :
    (s : σ) → (as : List α) → Decidable (S.Meets C s as)
  | _, [] => isTrue trivial
  | s, a :: as => @instDecidableAnd _ _ _ (decidableMeets C (S.call s a).2 as)

/-- Single calls keep a party apart from the others. -/
structure Separates (mine : α → Bool) (view : σ → σ) (C : σ → α → Prop) : Prop where
  own : ∀ s a, C s a → mine a = true →
    S.call (view s) a = ((S.call s a).1, view (S.call s a).2)
  others : ∀ s a, C s a → mine a = false → view (S.call s a).2 = view s

variable {S} {mine : α → Bool} {view : σ → σ} {C : σ → α → Prop}

/-- **Whole runs keep the party apart.** -/
theorem private_run (separates : S.Separates mine view C) {s : σ} {as : List α}
    (meets : S.Meets C s as) :
    S.answers mine s as = S.answers (fun _ => true) (view s) (as.filter mine) ∧
      view (S.final s as) = S.final (view s) (as.filter mine) := by
  induction as generalizing s with
  | nil => exact ⟨rfl, rfl⟩
  | cons a as ih =>
      obtain ⟨here, later⟩ := meets
      obtain ⟨answers, final⟩ := ih later
      cases own : mine a with
      | true =>
          have local_ := separates.own s a here own
          rw [List.filter_cons_of_pos own]
          simp only [Service.answers, Service.final, own, if_true, local_]
          exact ⟨by rw [answers], final⟩
      | false =>
          have silent := separates.others s a here own
          rw [List.filter_cons_of_neg (by simp [own])]
          simp only [Service.answers, Service.final, own, Bool.false_eq_true, if_false]
          rw [← silent]
          exact ⟨answers, final⟩

end Service

end Lcp.Theory
