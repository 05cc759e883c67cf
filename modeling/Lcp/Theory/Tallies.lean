/-
# Theory.Tallies -- counting what happens along a run

`tally w` adds up a weight of the steps that a run takes, so it counts an event that a step shows
by its label, by the state before or by the state after.  The counters are computed from the run
and stand in no state.

`inv_tally` is the induction for an invariant that speaks of a state and of its counters so far.
-/
import Lcp.Theory.Machine

namespace Lcp.Theory.Machine

set_option autoImplicit false

universe u v x

variable {σ : Type u} {α : Type v} {ι : Type x} {M : Machine σ α}

/-- The sum of a weight over the steps that the run of `as` from `s` takes. -/
def tally (M : Machine σ α) (weight : σ → α → σ → Nat) : σ → List α → Nat
  | _, [] => 0
  | s, a :: as =>
      match M.step s a with
      | none => 0
      | some t => weight s a t + M.tally weight t as

@[simp] theorem tally_nil (weight : σ → α → σ → Nat) (s : σ) : M.tally weight s [] = 0 := rfl

theorem tally_cons {weight : σ → α → σ → Nat} {s t : σ} {a : α} {as : List α}
    (stepped : M.step s a = some t) :
    M.tally weight s (a :: as) = weight s a t + M.tally weight t as := by
  rw [tally, stepped]

/-- **Counters as ghosts.**  What each step keeps, when it adds its weights to the counters, holds
at the end of a run of the counters and the sums along the run. -/
theorem inv_tally {I : (ι → Nat) → σ → Prop} {C : σ → α → σ → Prop}
    {w : ι → σ → α → σ → Nat}
    (keeps : ∀ n s a t, I n s → C s a t → M.step s a = some t →
      I (fun i => n i + w i s a t) t)
    {n : ι → Nat} {s t : σ} {as : List α} (inv : I n s) (along : M.Along C s as)
    (ran : M.run s as = some t) : I (fun i => n i + M.tally (w i) s as) t := by
  induction as generalizing n s with
  | nil =>
      obtain rfl : s = t := by simpa using ran
      simpa using inv
  | cons a as ih =>
      simp only [run_cons, Option.bind_eq_some_iff] at ran
      obtain ⟨middle, stepped, rest⟩ := ran
      have next := keeps n s a middle inv (along middle stepped).1 stepped
      have last := ih next (along middle stepped).2 rest
      simpa only [tally_cons stepped, Nat.add_assoc] using last

end Lcp.Theory.Machine
