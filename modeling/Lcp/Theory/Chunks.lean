/-
# Theory.Chunks -- a list sent in chunks, and what comes back

A list is cut into chunks of one size, the last one shorter; each chunk is
answered by a list, or not at all.  `layOut` puts the answers in a row and fills
the place of a chunk without an answer with one pad an item.

The row is `Aligned` when it has one entry an item and every entry that is not
the pad stands in the answer of its item's chunk at the item's place.  That is
so when every answer is as long as its chunk (`aligned_of_full`), and, where no
answer contains the pad, only then (`full_of_aligned`): the unanswered chunks
need all the pads there are, so every other place is filled by the answer of its
own chunk, and no answer is longer because the lengths add up.
-/
import Mathlib.Algebra.BigOperators.Group.List.Basic
import Mathlib.Algebra.GroupWithZero.Nat
import Mathlib.Algebra.Order.BigOperators.Group.List
import Mathlib.Algebra.Order.Group.Nat

namespace Lcp.Theory

set_option autoImplicit false

universe u v

variable {α : Type u} {β : Type v}

/-! ## Chunks -/

/-- The `k`-th chunk: the slice `xs[k * size : (k + 1) * size]`. -/
def chunk (size : Nat) (xs : List α) (k : Nat) : List α := (xs.drop (k * size)).take size

/-- How many chunks there are: the length of `range(0, length, size)`. -/
def chunkCount (size length : Nat) : Nat := (length + (size - 1)) / size

/-- All chunks, in order. -/
def chunks (size : Nat) (xs : List α) : List (List α) :=
  (List.range (chunkCount size xs.length)).map (chunk size xs)

theorem length_chunk_le (size : Nat) (xs : List α) (k : Nat) :
    (chunk size xs k).length ≤ size := by
  simp only [chunk, List.length_take]
  exact Nat.min_le_left _ _

theorem length_chunk (size : Nat) (xs : List α) (k : Nat) :
    (chunk size xs k).length = min size (xs.length - k * size) := by
  simp [chunk]

theorem flatMap_chunk (size : Nat) (xs : List α) (count : Nat) :
    (List.range count).flatMap (chunk size xs) = xs.take (count * size) := by
  induction count with
  | zero => simp
  | succ count ih =>
      rw [List.range_succ, List.flatMap_append, ih, List.flatMap_singleton, Nat.succ_mul,
        List.take_add]
      rfl

theorem length_le_chunkCount_mul {size : Nat} (pos : 0 < size) (length : Nat) :
    length ≤ chunkCount size length * size := by
  have above := Nat.lt_mul_div_succ (length + (size - 1)) pos
  rw [Nat.mul_succ] at above
  rw [chunkCount, Nat.mul_comm]
  omega

/-- Every item is in one of the chunks. -/
theorem div_lt_chunkCount {size length j : Nat} (pos : 0 < size) (inside : j < length) :
    j / size < chunkCount size length := by
  rw [Nat.div_lt_iff_lt_mul pos]
  exact inside.trans_le (length_le_chunkCount_mul pos length)

/-- No chunk is empty. -/
theorem mul_lt_of_lt_chunkCount {size length k : Nat} (pos : 0 < size)
    (below : k < chunkCount size length) : k * size < length := by
  have upTo := (Nat.le_div_iff_mul_le pos).1 below
  rw [Nat.succ_mul] at upTo
  omega

/-- Every chunk but the last one is full. -/
theorem full_of_succ_lt {size length k : Nat} (inner : k + 1 < chunkCount size length) :
    (k + 1) * size ≤ length := by
  have below : chunkCount size length * size ≤ length + (size - 1) := Nat.div_mul_le_self _ _
  have next : (k + 1 + 1) * size ≤ chunkCount size length * size := Nat.mul_le_mul_right size inner
  rw [Nat.succ_mul (k + 1)] at next
  omega

/-- The chunks are the list. -/
theorem flatMap_chunks {size : Nat} (pos : 0 < size) (xs : List α) :
    (List.range (chunkCount size xs.length)).flatMap (chunk size xs) = xs := by
  rw [flatMap_chunk]
  exact List.take_of_length_le (length_le_chunkCount_mul pos xs.length)

/-! ## Answers -/

section Answers

variable (pad : β) (size : Nat) (xs : List α) (answer : Nat → Option (List β))

/-- What chunk `k` adds to the row. -/
def contribution (k : Nat) : List β :=
  (answer k).getD ((chunk size xs k).map fun _ => pad)

/-- The row of all answers. -/
def layOut : List β :=
  (List.range (chunkCount size xs.length)).flatMap (contribution pad size xs answer)

/-- One entry an item, each the pad or what the answer of its chunk has at its place. -/
def Aligned (row : List β) : Prop :=
  row.length = xs.length ∧ ∀ i entry, row[i]? = some entry →
    entry = pad ∨ ∃ ys, answer (i / size) = some ys ∧ ys[i % size]? = some entry

/-- Every answer is as long as its chunk. -/
def Full : Prop :=
  ∀ k < chunkCount size xs.length, ∀ ys, answer k = some ys →
    ys.length = (chunk size xs k).length

end Answers

/-! ## Full answers are aligned -/

/-- Entry `i` of lists in a row, when all but the last are `size` long. -/
theorem getElem?_of_flatMap {size : Nat} {f : Nat → List β} {count : Nat}
    (inner : ∀ k, k + 1 < count → (f k).length = size) (last : ∀ k < count, (f k).length ≤ size)
    {i : Nat} {entry : β} (found : ((List.range count).flatMap f)[i]? = some entry) :
    (f (i / size))[i % size]? = some entry := by
  induction count with
  | zero => simp at found
  | succ count ih =>
      have full : ∀ k < count, (f k).length = size := fun k below => inner k (by omega)
      have lengths : ((List.range count).flatMap f).length = count * size := by
        rw [List.length_flatMap, List.map_congr_left (g := fun _ => size)
          (fun k member => full k (List.mem_range.1 member)), List.map_const', List.sum_replicate]
        simp
      rw [List.range_succ, List.flatMap_append, List.flatMap_singleton,
        List.getElem?_append] at found
      split at found
      · exact ih (fun k below => full k (by omega)) (fun k below => (full k below).le) found
      · rename_i beyond
        rw [lengths] at found beyond
        have inLast : i - count * size < (f count).length :=
          (List.getElem?_eq_some_iff.1 found).1
        have short := last count (Nat.lt_succ_self count)
        have place : i = (i - count * size) + count * size := by omega
        have quotient : i / size = count := by
          rw [place, Nat.add_mul_div_right _ _ (by omega), Nat.div_eq_of_lt (by omega),
            Nat.zero_add]
        have remainder : i % size = i - count * size := by
          conv_lhs => rw [place]
          rw [Nat.add_mul_mod_self_right, Nat.mod_eq_of_lt (by omega)]
        rw [quotient, remainder]
        exact found

section Answers

variable {pad : β} {size : Nat} {xs : List α} {answer : Nat → Option (List β)}

theorem length_contribution (full : Full size xs answer) {k : Nat}
    (below : k < chunkCount size xs.length) :
    (contribution pad size xs answer k).length = (chunk size xs k).length := by
  unfold contribution
  cases given : answer k with
  | none => simp
  | some ys => exact full k below ys given

/-- The lengths of the chunks add up. -/
theorem sum_length_chunks (pos : 0 < size) :
    ((List.range (chunkCount size xs.length)).map fun k => (chunk size xs k).length).sum =
      xs.length := by
  rw [← List.length_flatMap, flatMap_chunks pos]

theorem length_layOut (row : Nat → List β) (count : Nat) :
    ((List.range count).flatMap row).length =
      ((List.range count).map fun k => (row k).length).sum := List.length_flatMap

/-- **Answers as long as their chunks are aligned.** -/
theorem aligned_of_full (pad : β) (pos : 0 < size) (full : Full size xs answer) :
    Aligned pad size xs answer (layOut pad size xs answer) := by
  refine ⟨?_, fun i entry found => ?_⟩
  · rw [layOut, length_layOut]
    refine Eq.trans ?_ (sum_length_chunks pos)
    refine congrArg List.sum (List.map_congr_left fun k member => ?_)
    exact length_contribution full (List.mem_range.1 member)
  · have inner : ∀ k, k + 1 < chunkCount size xs.length →
        (contribution pad size xs answer k).length = size := by
      intro k inner
      have upTo := full_of_succ_lt inner
      rw [Nat.succ_mul] at upTo
      rw [length_contribution full (by omega), length_chunk, Nat.min_eq_left]
      omega
    have last : ∀ k < chunkCount size xs.length,
        (contribution pad size xs answer k).length ≤ size := by
      intro k below
      rw [length_contribution full below]
      exact length_chunk_le size xs k
    have place := getElem?_of_flatMap inner last found
    unfold contribution at place
    cases given : answer (i / size) with
    | none =>
        rw [given, Option.getD_none, List.getElem?_map, Option.map_eq_some_iff] at place
        obtain ⟨-, -, rfl⟩ := place
        exact .inl rfl
    | some ys =>
        rw [given, Option.getD_some] at place
        exact .inr ⟨ys, rfl, place⟩

/-! ## Aligned answers are full -/

/-- Numbers that are pointwise at most others and add up to the same are the others. -/
theorem eq_of_sum_map_eq {l : List Nat} {f g : Nat → Nat} (below : ∀ k ∈ l, f k ≤ g k)
    (same : (l.map f).sum = (l.map g).sum) : ∀ k ∈ l, f k = g k := by
  induction l with
  | nil => simp
  | cons head rest ih =>
      rw [List.map_cons, List.map_cons, List.sum_cons, List.sum_cons] at same
      have here := below head List.mem_cons_self
      have later : ∀ k ∈ rest, f k ≤ g k := fun k member => below k (List.mem_cons_of_mem _ member)
      have sums : (rest.map f).sum ≤ (rest.map g).sum := List.sum_le_sum later
      intro k member
      rcases List.mem_cons.1 member with rfl | inRest
      · omega
      · exact ih later (by omega) k inRest

/-- What stands in the place of chunk `k` is pads or the answer of chunk `k`. -/
theorem Aligned.chunk_cases (pos : 0 < size) {row : List β}
    (aligned : Aligned pad size xs answer row)
    {k j : Nat} {entry : β} (found : (chunk size row k)[j]? = some entry) :
    entry = pad ∨ ∃ ys : List β, answer k = some ys ∧ ys[j]? = some entry := by
  have short : j < size := by
    have inside := (List.getElem?_eq_some_iff.1 found).1
    have := length_chunk_le size row k
    omega
  have here := aligned.2 (k * size + j) entry (by
    rw [chunk, List.getElem?_take, if_pos short, List.getElem?_drop] at found
    exact found)
  rwa [Nat.mul_comm, Nat.mul_add_div pos, Nat.div_eq_of_lt short, Nat.add_zero,
    Nat.mul_add_mod, Nat.mod_eq_of_lt short] at here

/-- Chunks of an aligned row are as long as those of the items. -/
theorem Aligned.length_chunk {row : List β} (aligned : Aligned pad size xs answer row) (k : Nat) :
    (chunk size row k).length = (chunk size xs k).length := by
  rw [Theory.length_chunk, Theory.length_chunk, aligned.1]

section Pads

variable [DecidableEq β]

/-- An answer without pads adds no more of them than its place has. -/
theorem Aligned.count_contribution_le (pos : 0 < size) {row : List β}
    (aligned : Aligned pad size xs answer row)
    (noPad : ∀ k ys, answer k = some ys → pad ∉ ys) (k : Nat) :
    (contribution pad size xs answer k).count pad ≤ (chunk size row k).count pad := by
  unfold contribution
  cases given : answer k with
  | none =>
      have all : ∀ entry ∈ chunk size row k, pad = entry := by
        intro entry member
        obtain ⟨j, found⟩ := List.getElem?_of_mem member
        rcases aligned.chunk_cases pos found with isPad | ⟨ys, answered, -⟩
        · exact isPad.symm
        · rw [given] at answered
          cases answered
      rw [Option.getD_none, List.count_eq_length.2 all, aligned.length_chunk]
      exact List.count_le_length.trans (by simp)
  | some ys =>
      rw [Option.getD_some, List.count_eq_zero.2 (noPad k ys given)]
      exact Nat.zero_le _

/-- Where a place has no more pads than its answer adds, the answer reaches to its end. -/
theorem Aligned.length_le_contribution (pos : 0 < size) {row : List β}
    (aligned : Aligned pad size xs answer row)
    (noPad : ∀ k ys, answer k = some ys → pad ∉ ys) {k : Nat}
    (pads : (contribution pad size xs answer k).count pad = (chunk size row k).count pad) :
    (chunk size xs k).length ≤ (contribution pad size xs answer k).length := by
  cases given : answer k with
  | none =>
      rw [contribution, given, Option.getD_none]
      simp
  | some ys =>
      rw [contribution, given, Option.getD_some] at pads ⊢
      have none_ : pad ∉ chunk size row k :=
        List.count_eq_zero.1 (pads ▸ List.count_eq_zero.2 (noPad k ys given))
      by_contra shorter
      have reaches : ys.length < (chunk size row k).length := by
        rw [aligned.length_chunk]
        omega
      have found := List.getElem?_eq_getElem reaches
      rcases aligned.chunk_cases pos found with isPad | ⟨zs, answered, place⟩
      · exact none_ (isPad ▸ List.getElem_mem reaches)
      · rw [given] at answered
        cases answered
        simp at place

end Pads

/-- **Where no answer contains the pad, aligned answers are as long as their chunks.** -/
theorem full_of_aligned (pos : 0 < size) (noPad : ∀ k ys, answer k = some ys → pad ∉ ys)
    (aligned : Aligned pad size xs answer (layOut pad size xs answer)) :
    Full size xs answer := by
  classical
  have pieces := flatMap_chunks pos (layOut pad size xs answer)
  rw [aligned.1] at pieces
  -- the row has as many pads as its places have, so each place has those of its answer
  have counts : ∀ f : Nat → List β,
      ((List.range (chunkCount size xs.length)).map fun k => (f k).count pad).sum =
        ((List.range (chunkCount size xs.length)).flatMap f).count pad :=
    fun f => List.count_flatMap.symm
  have pads := eq_of_sum_map_eq
    (fun k _ => aligned.count_contribution_le pos noPad k) (by
      rw [counts, counts, pieces]
      rfl)
  have same := eq_of_sum_map_eq
    (fun k member => aligned.length_le_contribution pos noPad (pads k member)) (by
      rw [sum_length_chunks pos, ← length_layOut]
      exact aligned.1.symm)
  intro k below ys given
  have here := same k (List.mem_range.2 below)
  rw [contribution, given, Option.getD_some] at here
  exact here.symm

end Answers

end Lcp.Theory
