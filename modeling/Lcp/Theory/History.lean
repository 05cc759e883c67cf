/-
# Theory.History -- the changes of one value, in order

A change has the value before it and the value after it.  A list of changes is
*linked* from a first value when every change starts from what the one before it
left.  The commits on one row of a database are linked, whatever the interleaving
of the sessions that made them, and that is all a property of the row's whole life
needs:

* `Linked.crossing` -- a value that goes from outside a set to inside it has a
  change that does so;
* `Linked.stays` -- a set that no change leaves is not left;
* `Linked.balance` -- a conservation law of the single changes is one of the list.
-/
import Mathlib.Data.List.Basic

namespace Lcp.Theory.History

set_option autoImplicit false

universe u v

variable {ε : Type u} {ρ : Type v} (before after : ε → ρ)

/-- The value that the changes leave. -/
def final : ρ → List ε → ρ
  | first, [] => first
  | _, change :: rest => final (after change) rest

/-- Every change starts from the value the one before it left. -/
def Linked : ρ → List ε → Prop
  | _, [] => True
  | first, change :: rest => before change = first ∧ Linked (after change) rest

@[simp] theorem final_nil (first : ρ) : final after first [] = first := rfl

@[simp] theorem final_cons (first : ρ) (change : ε) (rest : List ε) :
    final after first (change :: rest) = final after (after change) rest := rfl

@[simp] theorem linked_nil (first : ρ) : Linked before after first [] := trivial

@[simp] theorem linked_cons {first : ρ} {change : ε} {rest : List ε} :
    Linked before after first (change :: rest) ↔
      before change = first ∧ Linked before after (after change) rest := Iff.rfl

@[simp] theorem final_append (first : ρ) (changes more : List ε) :
    final after first (changes ++ more) = final after (final after first changes) more := by
  induction changes generalizing first with
  | nil => rfl
  | cons change rest ih => exact ih (after change)

/-- Changes leave what one of them left. -/
theorem final_mem (first : ρ) {changes : List ε} (some_ : changes ≠ []) :
    ∃ change ∈ changes, final after first changes = after change := by
  induction changes generalizing first with
  | nil => exact absurd rfl some_
  | cons change rest ih =>
      rcases rest with _ | ⟨next, rest⟩
      · exact ⟨change, by simp, rfl⟩
      · obtain ⟨later, member, same⟩ := ih (after change) (by simp)
        exact ⟨later, List.mem_cons_of_mem _ member, same⟩

variable {before after}

theorem linked_append {first : ρ} {changes more : List ε} :
    Linked before after first (changes ++ more) ↔
      Linked before after first changes ∧
        Linked before after (final after first changes) more := by
  induction changes generalizing first with
  | nil => simp
  | cons change rest ih => simp only [List.cons_append, linked_cons, final_cons, ih, and_assoc]

namespace Linked

/-- What enters a set entered it by some change. -/
theorem crossing {P : ρ → Prop} {first : ρ} {changes : List ε}
    (linked : Linked before after first changes) (outside : ¬ P first)
    (inside : P (final after first changes)) :
    ∃ change ∈ changes, ¬ P (before change) ∧ P (after change) := by
  induction changes generalizing first with
  | nil => exact absurd inside outside
  | cons change rest ih =>
      obtain ⟨start, linked⟩ := linked
      by_cases entered : P (after change)
      · exact ⟨change, by simp, start ▸ outside, entered⟩
      · obtain ⟨later, member, crosses⟩ := ih linked entered inside
        exact ⟨later, List.mem_cons_of_mem _ member, crosses⟩

/-- What no change leaves is not left. -/
theorem stays {P : ρ → Prop} {first : ρ} {changes : List ε}
    (linked : Linked before after first changes) (inside : P first)
    (keeps : ∀ change ∈ changes, P (before change) → P (after change)) :
    P (final after first changes) := by
  induction changes generalizing first with
  | nil => exact inside
  | cons change rest ih =>
      obtain ⟨start, linked⟩ := linked
      have entered : P (after change) := keeps change (by simp) (start ▸ inside)
      exact ih linked entered fun later member => keeps later (List.mem_cons_of_mem _ member)

/-- A conservation law of every change is a conservation law of the list. -/
theorem balance (value : ρ → Nat) (took gave : ε → Bool) {first : ρ} {changes : List ε}
    (linked : Linked before after first changes)
    (conserves : ∀ change ∈ changes,
      value (before change) + (if took change then 1 else 0) =
        value (after change) + if gave change then 1 else 0) :
    value first + changes.countP took =
      value (final after first changes) + changes.countP gave := by
  induction changes generalizing first with
  | nil => simp
  | cons change rest ih =>
      obtain ⟨start, linked⟩ := linked
      have one := conserves change (by simp)
      have others := ih linked fun later member => conserves later (List.mem_cons_of_mem _ member)
      rw [start] at one
      simp only [List.countP_cons, final_cons]
      omega

end Linked

end Lcp.Theory.History
