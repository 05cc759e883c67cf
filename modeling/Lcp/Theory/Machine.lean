/-
# Theory.Machine -- runs of a partial deterministic machine

A machine is a state type, a label type and a partial step.  A run is a list of
labels; the nondeterminism of a system (which party moves, what the environment
answers) sits in the labels, so one list is one interleaving.

* `run` is the end of a run, `none` when some label was not enabled.
* `Along Q s as` says that `Q pre label post` holds at every step the run takes.
* `Always P` and `Guarded C` are its two projections: a fact about every state
  reached, and a condition on every state a step starts from.

`along_of_inv` is the one induction: an invariant kept by the steps that meet
`C` turns `Along C` into `Along Q`.  `always_iff_guarded` is its exact form, for
an invariant that a step keeps if and only if its guard holds.
-/
import Mathlib.Data.List.Basic

namespace Lcp.Theory

set_option autoImplicit false

universe u v

/-- A labelled machine whose step is partial and deterministic. -/
structure Machine (σ : Type u) (α : Type v) where
  step : σ → α → Option σ

namespace Machine

variable {σ : Type u} {α : Type v} (M : Machine σ α)

/-! ## Runs -/

/-- The state after the labels of `as`, when every one of them is enabled. -/
def run : σ → List α → Option σ
  | s, [] => some s
  | s, a :: as => (M.step s a).bind fun t => run t as

/-- `Q pre label post` at every step that the run of `as` from `s` takes. -/
def Along (Q : σ → α → σ → Prop) : σ → List α → Prop
  | _, [] => True
  | s, a :: as => ∀ t, M.step s a = some t → Q s a t ∧ Along Q t as

/-- Every state the run visits, its first one included, satisfies `P`. -/
def Always (P : σ → Prop) (s : σ) (as : List α) : Prop :=
  P s ∧ M.Along (fun _ _ t => P t) s as

/-- Every step the run takes starts from a state that admits its label. -/
def Guarded (C : σ → α → Prop) (s : σ) (as : List α) : Prop :=
  M.Along (fun s a _ => C s a) s as

@[simp] theorem run_nil (s : σ) : M.run s [] = some s := rfl

@[simp] theorem run_cons (s : σ) (a : α) (as : List α) :
    M.run s (a :: as) = (M.step s a).bind fun t => M.run t as := rfl

@[simp] theorem along_nil (Q : σ → α → σ → Prop) (s : σ) : M.Along Q s [] := trivial

instance decidableAlong (Q : σ → α → σ → Prop) [∀ s a t, Decidable (Q s a t)] :
    (s : σ) → (as : List α) → Decidable (M.Along Q s as)
  | _, [] => isTrue trivial
  | s, a :: as =>
      match stepped : M.step s a with
      | none => isTrue fun t taken => by simp [stepped] at taken
      | some t =>
          @decidable_of_iff _ (Q s a t ∧ M.Along Q t as)
            ⟨fun holds u taken => by
              obtain rfl := Option.some.inj (stepped.symm.trans taken)
              exact holds, fun along => along t stepped⟩
            (@instDecidableAnd _ _ _ (decidableAlong Q t as))

instance decidableGuarded (C : σ → α → Prop) [∀ s a, Decidable (C s a)] (s : σ) (as : List α) :
    Decidable (M.Guarded C s as) := decidableAlong M _ s as

variable {M}

/-- The tail of a run that took its first step. -/
theorem Along.tail {Q : σ → α → σ → Prop} {s t : σ} {a : α} {as : List α}
    (along : M.Along Q s (a :: as)) (stepped : M.step s a = some t) : M.Along Q t as :=
  (along t stepped).2

theorem Along.mono {Q R : σ → α → σ → Prop} (weaken : ∀ s a t, Q s a t → R s a t)
    {s : σ} {as : List α} (along : M.Along Q s as) : M.Along R s as := by
  induction as generalizing s with
  | nil => trivial
  | cons a as ih =>
      intro t stepped
      exact ⟨weaken s a t (along t stepped).1, ih (along t stepped).2⟩

theorem Along.and {Q R : σ → α → σ → Prop} {s : σ} {as : List α} (first : M.Along Q s as)
    (second : M.Along R s as) : M.Along (fun s a t => Q s a t ∧ R s a t) s as := by
  induction as generalizing s with
  | nil => trivial
  | cons a as ih =>
      intro t stepped
      exact ⟨⟨(first t stepped).1, (second t stepped).1⟩,
        ih (first t stepped).2 (second t stepped).2⟩

/-- A fact about all steps of a run restricts to the steps of its beginning. -/
theorem Along.left {Q : σ → α → σ → Prop} {s : σ} {as bs : List α}
    (along : M.Along Q s (as ++ bs)) : M.Along Q s as := by
  induction as generalizing s with
  | nil => trivial
  | cons a as ih =>
      intro t stepped
      exact ⟨(along t stepped).1, ih (along t stepped).2⟩

/-- A fact about all steps of a run holds of the steps after its beginning. -/
theorem Along.drop {Q : σ → α → σ → Prop} {s t : σ} {as bs : List α}
    (along : M.Along Q s (as ++ bs)) (ran : M.run s as = some t) : M.Along Q t bs := by
  induction as generalizing s with
  | nil =>
      obtain rfl : s = t := by simpa using ran
      exact along
  | cons a as ih =>
      simp only [run_cons, Option.bind_eq_some_iff] at ran
      obtain ⟨m, stepped, rest⟩ := ran
      exact ih (along m stepped).2 rest

/-- A condition on the labels alone. -/
theorem guarded_of_labels {C : α → Prop} {as : List α} (labels : ∀ a ∈ as, C a) (s : σ) :
    M.Guarded (fun _ a => C a) s as := by
  induction as generalizing s with
  | nil => trivial
  | cons a as ih =>
      intro t _
      exact ⟨labels a List.mem_cons_self,
        ih (fun b later => labels b (List.mem_cons_of_mem _ later)) t⟩

/-! ## Invariants -/

/-- The induction every run result is an instance of: the steps that meet `C`
keep `I` and satisfy `Q`. -/
theorem along_of_inv {I : σ → Prop} {C Q : σ → α → σ → Prop}
    (keeps : ∀ s a t, I s → C s a t → M.step s a = some t → I t ∧ Q s a t)
    {s : σ} {as : List α} (inv : I s) (along : M.Along C s as) : M.Along Q s as := by
  induction as generalizing s with
  | nil => trivial
  | cons a as ih =>
      intro t stepped
      obtain ⟨next, holds⟩ := keeps s a t inv (along t stepped).1 stepped
      exact ⟨holds, ih next (along t stepped).2⟩

theorem always_of_inv {I : σ → Prop} {C : σ → α → Prop}
    (keeps : ∀ s a t, I s → C s a → M.step s a = some t → I t)
    {s : σ} {as : List α} (inv : I s) (guarded : M.Guarded C s as) : M.Always I s as :=
  ⟨inv, along_of_inv (fun s a t held ok stepped =>
    ⟨keeps s a t held ok stepped, keeps s a t held ok stepped⟩) inv guarded⟩

theorem Always.mono {P R : σ → Prop} (weaken : ∀ s, P s → R s) {s : σ} {as : List α}
    (always : M.Always P s as) : M.Always R s as :=
  ⟨weaken s always.1, always.2.mono fun _ _ t => weaken t⟩

theorem Always.and {P R : σ → Prop} {s : σ} {as : List α} (first : M.Always P s as)
    (second : M.Always R s as) : M.Always (fun s => P s ∧ R s) s as :=
  ⟨⟨first.1, second.1⟩, first.2.and second.2⟩

/-- What holds of every visited state holds of the last one. -/
theorem Always.last {P : σ → Prop} {s t : σ} {as : List α}
    (always : M.Always P s as) (ran : M.run s as = some t) : P t := by
  induction as generalizing s with
  | nil =>
      obtain rfl : s = t := by simpa using ran
      exact always.1
  | cons a as ih =>
      simp only [run_cons, Option.bind_eq_some_iff] at ran
      obtain ⟨m, stepped, rest⟩ := ran
      exact ih (always.2 m stepped) rest

/-- A run that ends outside `P` does not stay in `P`. -/
theorem not_always_of_run {P : σ → Prop} {s t : σ} {as : List α} (ran : M.run s as = some t)
    (outside : ¬ P t) : ¬ M.Always P s as :=
  fun always => outside (always.last ran)

/-- The same as a computation: the run ends outside a decidable `P`. -/
theorem not_always_of_ends {P : σ → Prop} [DecidablePred P] {s : σ} {as : List α}
    (ends : (M.run s as).any (fun t => !decide (P t)) = true) : ¬ M.Always P s as := by
  obtain ⟨t, ran, outside⟩ := (Option.any_eq_true _ _).1 ends
  exact not_always_of_run ran (by simpa using outside)

/-- An invariant that every step keeps needs no guard. -/
theorem along_of_step {I : σ → Prop} {Q : σ → α → σ → Prop}
    (keeps : ∀ s a t, I s → M.step s a = some t → I t ∧ Q s a t) {s : σ} (inv : I s)
    (as : List α) : M.Along Q s as := by
  induction as generalizing s with
  | nil => trivial
  | cons a as ih =>
      intro t stepped
      obtain ⟨next, holds⟩ := keeps s a t inv stepped
      exact ⟨holds, ih next⟩

/-- What every step keeps holds at the end of a run. -/
theorem inv_of_run {I : σ → Prop} (keeps : ∀ s a t, I s → M.step s a = some t → I t) {s t : σ}
    {as : List α} (inv : I s) (ran : M.run s as = some t) : I t := by
  induction as generalizing s with
  | nil =>
      obtain rfl : s = t := by simpa using ran
      exact inv
  | cons a as ih =>
      simp only [run_cons, Option.bind_eq_some_iff] at ran
      obtain ⟨m, stepped, rest⟩ := ran
      exact ih (keeps s a m inv stepped) rest

/-- A run whose steps all decrease a measure is no longer than the measure. -/
theorem length_le_of_decreasing {m : σ → Nat}
    (decreases : ∀ s a t, M.step s a = some t → m t < m s) {s t : σ} {as : List α}
    (ran : M.run s as = some t) : as.length + m t ≤ m s := by
  induction as generalizing s with
  | nil =>
      obtain rfl : s = t := by simpa using ran
      simp
  | cons a as ih =>
      simp only [run_cons, Option.bind_eq_some_iff] at ran
      obtain ⟨middle, stepped, rest⟩ := ran
      have tail := ih rest
      have head := decreases s a middle stepped
      simp only [List.length_cons]
      omega

/-- Under a standing invariant, where every step with a label of `p` lowers a measure that no step
raises, a run has no more labels of `p` than the measure. -/
theorem count_le_of_paying {I : σ → Prop} {m : σ → Nat} {p : α → Bool}
    (keeps : ∀ s a t, I s → M.step s a = some t → I t)
    (pays : ∀ s a t, I s → M.step s a = some t → m t + (if p a then 1 else 0) ≤ m s)
    {s t : σ} {as : List α} (inv : I s) (ran : M.run s as = some t) :
    as.countP p + m t ≤ m s := by
  induction as generalizing s with
  | nil =>
      obtain rfl : s = t := by simpa using ran
      simp
  | cons a as ih =>
      simp only [run_cons, Option.bind_eq_some_iff] at ran
      obtain ⟨middle, stepped, rest⟩ := ran
      have tail := ih (keeps s a middle inv stepped) rest
      have head := pays s a middle inv stepped
      rw [List.countP_cons]
      omega

/-- **The exact form.**  Under a standing invariant `J`, a step keeps `I` if and
only if its guard holds; then `I` holds of every visited state if and only if
every step of the run is guarded. -/
theorem always_iff_guarded {I J : σ → Prop} {C : σ → α → Prop}
    (standing : ∀ s a t, J s → M.step s a = some t → J t)
    (exact_ : ∀ s a t, J s → I s → M.step s a = some t → (I t ↔ C s a))
    {s : σ} {as : List α} (held : J s) (inv : I s) :
    M.Always I s as ↔ M.Guarded C s as := by
  constructor
  · rintro ⟨-, along⟩
    induction as generalizing s with
    | nil => trivial
    | cons a as ih =>
        intro t stepped
        obtain ⟨after, rest⟩ := along t stepped
        exact ⟨(exact_ s a t held inv stepped).1 after,
          ih (standing s a t held stepped) after rest⟩
  · intro guarded
    have both : M.Always (fun s => J s ∧ I s) s as :=
      always_of_inv (fun s a t both ok stepped =>
        ⟨standing s a t both.1 stepped, (exact_ s a t both.1 both.2 stepped).2 ok⟩)
        ⟨held, inv⟩ guarded
    exact both.mono fun _ => And.right

/-- The exact form for a property of steps, under an assumption on the environment.  Where every
step that meets `G` keeps `J` and has `Q` if and only if it is guarded, the steps of a run have
`Q` if and only if the run is guarded. -/
theorem along_iff_guarded {J : σ → Prop} {G Q : σ → α → σ → Prop} {C : σ → α → Prop}
    (exact_ : ∀ s a t, J s → G s a t → M.step s a = some t → J t ∧ (Q s a t ↔ C s a))
    {s : σ} {as : List α} (held : J s) (assumed : M.Along G s as) :
    M.Along Q s as ↔ M.Guarded C s as := by
  induction as generalizing s with
  | nil => exact ⟨fun _ => trivial, fun _ => trivial⟩
  | cons a as ih =>
      constructor
      · intro along t stepped
        obtain ⟨next, here⟩ := exact_ s a t held (assumed t stepped).1 stepped
        exact ⟨here.1 (along t stepped).1, (ih next (assumed t stepped).2).1 (along t stepped).2⟩
      · intro guarded t stepped
        obtain ⟨next, here⟩ := exact_ s a t held (assumed t stepped).1 stepped
        exact ⟨here.2 (guarded t stepped).1,
          (ih next (assumed t stepped).2).2 (guarded t stepped).2⟩

end Machine

end Lcp.Theory
