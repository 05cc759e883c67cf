/-
# Theory.KeyText -- numbers inside composed keys

A key is often a text with decimal numbers between separators.  A separator that
is not a digit ends the number before it, so such a key determines its numbers.
A name between a fixed front and one of several endings can be read back as well,
whatever is in it, when no ending ends in another (`SuffixFree`).
-/
import Mathlib.Algebra.GroupWithZero.Nat
import Mathlib.Data.List.Basic
import Std.Data.String.ToNat

namespace Lcp.Theory.KeyText

set_option autoImplicit false

/-- The part before the first separator, and the part after it. -/
theorem append_cons_inj {α : Type} {sep : α} {a b s t : List α} (inA : sep ∉ a) (inB : sep ∉ b)
    (same : a ++ sep :: s = b ++ sep :: t) : a = b ∧ s = t := by
  induction a generalizing b with
  | nil =>
      cases b with
      | nil => exact ⟨rfl, (List.cons.inj same).2⟩
      | cons y ys => exact absurd ((List.cons.inj same).1 ▸ List.mem_cons_self) inB
  | cons x xs ih =>
      cases b with
      | nil => exact absurd ((List.cons.inj same).1 ▸ List.mem_cons_self) inA
      | cons y ys =>
          obtain ⟨head, tail⟩ := List.cons.inj same
          obtain ⟨rest, after⟩ :=
            ih (fun h => inA (List.mem_cons_of_mem _ h)) (fun h => inB (List.mem_cons_of_mem _ h))
              tail
          exact ⟨by rw [head, rest], after⟩

/-- The part before the last separator, and the part after it. -/
theorem append_cons_inj_right {α : Type} {sep : α} {a b s t : List α} (inS : sep ∉ s)
    (inT : sep ∉ t) (same : a ++ sep :: s = b ++ sep :: t) : a = b ∧ s = t := by
  have mirrored := congrArg List.reverse same
  simp only [List.reverse_append, List.reverse_cons, List.append_assoc, List.singleton_append]
    at mirrored
  obtain ⟨after, before⟩ := append_cons_inj (by simpa using inS) (by simpa using inT) mirrored
  exact ⟨List.reverse_inj.1 before, List.reverse_inj.1 after⟩

/-- Two texts in front of a separator: one text, or one goes on past the separator of the
other. -/
theorem append_cons_eq_cases {α : Type} {sep : α} {a b s t : List α}
    (same : a ++ sep :: s = b ++ sep :: t) :
    (a = b ∧ s = t) ∨ (∃ rest, b = a ++ sep :: rest ∧ s = rest ++ sep :: t) ∨
      ∃ rest, a = b ++ sep :: rest ∧ t = rest ++ sep :: s := by
  rcases List.append_eq_append_iff.1 same with ⟨more, left, right⟩ | ⟨more, left, right⟩
  · cases more with
    | nil =>
        simp only [List.nil_append, List.cons.injEq, true_and] at right
        exact .inl ⟨by simpa using left.symm, right⟩
    | cons c rest =>
        simp only [List.cons_append, List.cons.injEq] at right
        obtain ⟨rfl, right⟩ := right
        exact .inr (.inl ⟨rest, left, right⟩)
  · cases more with
    | nil =>
        simp only [List.nil_append, List.cons.injEq, true_and] at right
        exact .inl ⟨by simpa using left, right.symm⟩
    | cons c rest =>
        simp only [List.cons_append, List.cons.injEq] at right
        obtain ⟨rfl, right⟩ := right
        exact .inr (.inr ⟨rest, left, right⟩)

/-- No text of a list ends in another one. -/
def SuffixFree {α : Type} (endings : List (List α)) : Prop :=
  ∀ s ∈ endings, ∀ t ∈ endings, s <:+ t → s = t

instance {α : Type} [DecidableEq α] (endings : List (List α)) : Decidable (SuffixFree endings) :=
  inferInstanceAs (Decidable (∀ s ∈ endings, ∀ t ∈ endings, s <:+ t → s = t))

/-- What stands before one of such endings, and the ending, can be read back. -/
theorem SuffixFree.append_inj {α : Type} {endings : List (List α)} (free : SuffixFree endings)
    {a b s t : List α} (inS : s ∈ endings) (inT : t ∈ endings) (same : a ++ s = b ++ t) :
    a = b ∧ s = t := by
  have ending : s <:+ b ++ t := ⟨a, same⟩
  have equal : s = t := by
    rcases List.suffix_or_suffix_of_suffix ending (List.suffix_append b t) with inside | inside
    · exact free s inS t inT inside
    · exact (free t inT s inS inside).symm
  subst equal
  exact ⟨List.append_cancel_right same, rfl⟩

theorem notMem_toString {sep : Char} (nonDigit : sep.isDigit = false) (n : Nat) :
    sep ∉ (toString n).toList := by
  intro member
  have digit : sep.isDigit = true := by
    apply Nat.isDigit_of_mem_toDigits (b := 10) (n := n) (by omega) (by omega)
    simpa [← Nat.toList_repr] using member
  simp [nonDigit] at digit

/-- A number in front of a separator can be read back. -/
theorem toString_append_inj (sep : Char) {n m : Nat} (nonDigit : sep.isDigit = false)
    {s t : List Char}
    (same : (toString n).toList ++ sep :: s = (toString m).toList ++ sep :: t) :
    n = m ∧ s = t := by
  obtain ⟨digits, rest⟩ := append_cons_inj (notMem_toString nonDigit n)
    (notMem_toString nonDigit m) same
  have text : toString n = toString m := String.toList_inj.1 digits
  exact ⟨Nat.repr_injective text, rest⟩

/-! ## Joined texts -/

/-- The length of a joined text: its parts, and a separator between each two. -/
theorem length_intercalate (sep head : String) (rest : List String) :
    (sep.intercalate (head :: rest)).length =
      ((head :: rest).map String.length).sum + rest.length * sep.length := by
  induction rest generalizing head with
  | nil => simp
  | cons next rest ih =>
      rw [String.intercalate_cons_cons, String.length_append, String.length_append, ih next]
      simp only [List.map_cons, List.sum_cons, List.length_cons, Nat.succ_mul]
      omega

/-- Two separators join two or more parts to one text only when they are one. -/
theorem intercalate_eq_iff (sep other : String) (parts : List String) :
    sep.intercalate parts = other.intercalate parts ↔ sep = other ∨ parts.length ≤ 1 := by
  match parts with
  | [] => simp
  | [part] => simp
  | head :: next :: rest =>
      constructor
      · intro same
        have lengths := congrArg String.length same
        rw [length_intercalate, length_intercalate] at lengths
        have times : (next :: rest).length * sep.length = (next :: rest).length * other.length := by
          omega
        have equal : sep.length = other.length :=
          Nat.eq_of_mul_eq_mul_left (by simp) times
        rw [String.intercalate_cons_cons, String.intercalate_cons_cons] at same
        have chars := congrArg String.toList same
        simp only [String.toList_append, List.append_assoc, List.append_cancel_left_eq] at chars
        exact .inl (String.toList_inj.1 (List.append_inj chars equal).1)
      · rintro (rfl | short)
        · rfl
        · simp at short

end Lcp.Theory.KeyText
