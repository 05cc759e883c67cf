/-
# Theory.Calls -- a table of calls under way

The calls of one process are numbered as they come: a new one joins at the end of the
list, and a step of call `i` replaces entry `i`.  `joined_cases` and `moved_cases` say
what an entry after such a step was before it.

`OnePerKey key calls` is mutual exclusion by key: no two calls of the table have the
same one.  A call may take a key that nobody has, and may keep its own.
-/
import Mathlib.Data.List.Basic

namespace Lcp.Theory.Calls

set_option autoImplicit false

universe u v

variable {α : Type u} {κ : Type v} {calls : List α} {i j : Nat} {call new : α}

theorem get_joined (is : calls[i]? = some call) : (calls ++ [new])[i]? = some call := by
  have listed : i < calls.length := (List.getElem?_eq_some_iff.1 is).1
  rw [List.getElem?_append_left listed]
  exact is

theorem get_moved (is : calls[i]? = some call) : (calls.set i new)[i]? = some new :=
  List.getElem?_set_self (List.getElem?_eq_some_iff.1 is).1

/-- An entry after a call has joined is an earlier one or the new one. -/
theorem joined_cases (is : (calls ++ [new])[i]? = some call) :
    calls[i]? = some call ∨ i = calls.length ∧ call = new := by
  rw [List.getElem?_append] at is
  split at is
  · exact .inl is
  · rw [List.getElem?_singleton] at is
    split at is
    · exact .inr ⟨by omega, (Option.some.inj is).symm⟩
    · cases is

theorem moved_cases (is : (calls.set j new)[i]? = some call) :
    i ≠ j ∧ calls[i]? = some call ∨ i = j ∧ call = new := by
  rw [List.getElem?_set] at is
  split at is
  · rename_i same
    split at is
    · exact .inr ⟨same.symm, (Option.some.inj is).symm⟩
    · cases is
  · rename_i apart
    exact .inl ⟨Ne.symm apart, is⟩

theorem forall_joined {P : α → Prop} (all : ∀ call ∈ calls, P call) (holds : P new) :
    ∀ call ∈ calls ++ [new], P call := by
  intro call listed
  rcases List.mem_append.1 listed with earlier | joined
  · exact all call earlier
  · obtain rfl := List.mem_singleton.1 joined
    exact holds

theorem forall_moved {P : α → Prop} (all : ∀ call ∈ calls, P call) (holds : P new) :
    ∀ call ∈ calls.set i new, P call := by
  intro call listed
  rcases List.mem_or_eq_of_mem_set listed with other | rfl
  · exact all call other
  · exact holds

/-! ## One call per key -/

/-- No two calls of the table have the same key. -/
def OnePerKey (key : α → Option κ) (calls : List α) : Prop :=
  ∀ (i j : Nat) (call other : α) (k : κ), calls[i]? = some call → calls[j]? = some other →
    key call = some k → key other = some k → i = j

variable {key : α → Option κ}

theorem OnePerKey.nil : OnePerKey key [] := by
  intro i j call other k is
  cases is

/-- A call without a key joins. -/
theorem OnePerKey.joined (one : OnePerKey key calls) (keyless : key new = none) :
    OnePerKey key (calls ++ [new]) := by
  intro i j call other k is is_other has has_other
  rcases joined_cases is with here | ⟨-, rfl⟩
  · rcases joined_cases is_other with there | ⟨-, rfl⟩
    · exact one i j call other k here there has has_other
    · rw [keyless] at has_other
      cases has_other
  · rw [keyless] at has
    cases has

/-- A call moves and keeps its key, or takes one that no call has. -/
theorem OnePerKey.moved (one : OnePerKey key calls) (was : calls[i]? = some call)
    (free : ∀ k, key new = some k → key call = some k ∨ ∀ other ∈ calls, key other ≠ some k) :
    OnePerKey key (calls.set i new) := by
  -- an unmoved call with the key of the moved one is call `i` itself
  have mine : ∀ j other k, calls[j]? = some other → key other = some k → key new = some k →
      j = i := by
    intro j other k is has taken
    rcases free k taken with kept | nobody
    · exact one j i other call k is was has kept
    · exact absurd has (nobody other (List.mem_of_getElem? is))
  intro a b first second k is_first is_second has_first has_second
  rcases moved_cases is_first with ⟨apart, here⟩ | ⟨rfl, rfl⟩
  · rcases moved_cases is_second with ⟨-, there⟩ | ⟨rfl, rfl⟩
    · exact one a b first second k here there has_first has_second
    · exact absurd (mine a first k here has_first has_second) apart
  · rcases moved_cases is_second with ⟨apart, there⟩ | ⟨rfl, -⟩
    · exact absurd (mine b second k there has_second has_first) apart
    · rfl

end Lcp.Theory.Calls
