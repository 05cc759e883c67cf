/-
# Theory.Refinement -- many small steps, one operation at a time

A machine takes many small steps where a specification takes one.  `view` is what the
specification sees of a state, and `ledger` the operations that the machine has put into
effect.  When every step either leaves both alone, or adds one operation to the ledger that
the specification allows from the old view to the new one, a run of the machine is a run of
the specification over its ledger (`serially_of_run`).

`Serially.inv` is what that is for: what the operations keep, the machine keeps.  The ledger is
a ghost, and a run with it a run without it (`along_iff_of_ghost`).
-/
import Lcp.Theory.Machine

namespace Lcp.Theory

set_option autoImplicit false

universe u v w x

variable {σ : Type u} {α : Type v} {δ : Type w} {β : Type x}

/-- The operations, one at a time, lead from `d` to the state. -/
inductive Serially (E : δ → β → δ → Prop) (d : δ) : List β → δ → Prop
  | nil : Serially E d [] d
  | snoc {ops : List β} {mid after : δ} {op : β} (before : Serially E d ops mid)
      (effect : E mid op after) : Serially E d (ops ++ [op]) after

namespace Serially

variable {E : δ → β → δ → Prop} {d after : δ} {ops : List β}

/-- What every operation keeps. -/
theorem inv {I : δ → Prop} (keeps : ∀ mid op after, I mid → E mid op after → I after)
    (start : I d) (serially : Serially E d ops after) : I after := by
  induction serially with
  | nil => exact start
  | snoc before effect ih => exact keeps _ _ _ ih effect

end Serially

/-- A machine with a ghost beside its state takes the steps of the machine without it. -/
theorem along_iff_of_ghost {τ : Type*} {M : Machine σ α} {N : Machine τ α} {world : τ → σ}
    (ghost : ∀ r a, (N.step r a).map world = M.step (world r) a) {Q : σ → α → σ → Prop} {r : τ}
    {as : List α} :
    N.Along (fun r a r' => Q (world r) a (world r')) r as ↔ M.Along Q (world r) as := by
  induction as generalizing r with
  | nil => exact Iff.rfl
  | cons a as ih =>
      constructor
      · intro along t stepped
        rw [← ghost, Option.map_eq_some_iff] at stepped
        obtain ⟨r', taken, rfl⟩ := stepped
        exact ⟨(along r' taken).1, ih.1 (along r' taken).2⟩
      · intro along r' taken
        have stepped : M.step (world r) a = some (world r') := by
          rw [← ghost, taken, Option.map_some]
        exact ⟨(along (world r') stepped).1, ih.2 (along (world r') stepped).2⟩

/-- What a step does to the view and the ledger: nothing, or one operation. -/
inductive Advances (E : δ → β → δ → Prop) (view : σ → δ) (ledger : σ → List β) (s t : σ) : Prop
  | silent (sameView : view t = view s) (sameLedger : ledger t = ledger s)
  | one {op : β} (noted : ledger t = ledger s ++ [op]) (effect : E (view s) op (view t))

theorem Advances.serially {E : δ → β → δ → Prop} {view : σ → δ} {ledger : σ → List β} {s t : σ}
    {d : δ} (advances : Advances E view ledger s t)
    (before : Serially E d (ledger s) (view s)) : Serially E d (ledger t) (view t) := by
  cases advances with
  | silent sameView sameLedger =>
      rw [sameView, sameLedger]
      exact before
  | one noted effect =>
      rw [noted]
      exact before.snoc effect

/-- **Every run is a run of the specification.** -/
theorem serially_of_run {M : Machine σ α} {E : δ → β → δ → Prop} {view : σ → δ}
    {ledger : σ → List β} {I : σ → Prop} {C : σ → α → Prop}
    (keeps : ∀ s a t, I s → C s a → M.step s a = some t →
      I t ∧ Advances E view ledger s t)
    {s : σ} {as : List α} (inv : I s) (fresh : ledger s = []) (guarded : M.Guarded C s as) :
    M.Always (fun t => Serially E (view s) (ledger t) (view t)) s as := by
  have start : I s ∧ Serially E (view s) (ledger s) (view s) := ⟨inv, by rw [fresh]; exact .nil⟩
  have always := Machine.always_of_inv (M := M)
    (I := fun t => I t ∧ Serially E (view s) (ledger t) (view t))
    (fun r a t held ok stepped => by
      obtain ⟨next, advances⟩ := keeps r a t held.1 ok stepped
      exact ⟨next, advances.serially held.2⟩) start guarded
  exact always.mono fun _ => And.right

end Lcp.Theory
