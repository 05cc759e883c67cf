/-
# Theory.Pages -- an ordered result, fetched page by page

Rows are ordered by a key, the greatest first, and rows of one key stand in any order.
Each page is a query of its own, so each is cut out of an order chosen anew.

A boundary between two pages is `Unsplit` when no group of rows with one key has rows on
both sides of it.  At such a boundary every order has the same rows before it
(`perm_take_of_unsplit`), so the pages put together are the rows, each once; at any other
boundary two orders differ by an exchange across it (`unsplit_of_perm_take`).
`pages_perm_iff` puts the two together.
-/
import Mathlib.Data.List.Sort
import Lcp.Theory.Chunks

namespace Lcp.Theory

set_option autoImplicit false

universe u v

variable {α : Type u} {κ : Type v} [LinearOrder κ] {key : α → κ}

/-- Greatest keys first. -/
def Descends (key : α → κ) (rows : List α) : Prop := rows.Pairwise fun a b => key b ≤ key a

/-- A way to order rows by a key; the order of rows with one key is its own. -/
structure Arrangement (key : α → κ) where
  arrange : List α → List α
  perm : ∀ rows, (arrange rows).Perm rows
  descends : ∀ rows, Descends key (arrange rows)

/-- No group of rows with one key has rows before and after the first `boundary` ones. -/
def Unsplit (key : α → κ) (rows : List α) (boundary : Nat) : Prop :=
  ∀ c, ¬ (rows.countP (fun row => c < key row) < boundary ∧
    boundary < rows.countP fun row => c ≤ key row)

/-! ## One order -/

section Closed

variable {rows : List α} {p : α → Bool}

/-- Where one row fails, every later one does. -/
theorem forall_not_of_descends {row : α}
    (closed : ∀ a b, p b = true → key b ≤ key a → p a = true)
    (first : ∀ other ∈ rows, key other ≤ key row) (fails : ¬ p row = true) :
    ∀ other ∈ rows, ¬ p other = true :=
  fun other listed is => fails (closed row other is (first other listed))

/-- The rows that satisfy a condition on large keys come first. -/
theorem filter_eq_take (descends : Descends key rows)
    (closed : ∀ a b, p b = true → key b ≤ key a → p a = true) :
    rows.filter p = rows.take (rows.countP p) := by
  induction rows with
  | nil => rfl
  | cons row rows ih =>
      obtain ⟨first, rest⟩ := List.pairwise_cons.1 descends
      by_cases holds : p row = true
      · rw [List.filter_cons_of_pos holds, List.countP_cons_of_pos holds, List.take_succ_cons,
          ih rest]
      · have none_ := forall_not_of_descends closed first holds
        rw [List.filter_cons_of_neg holds, List.countP_cons_of_neg holds,
          List.filter_eq_nil_iff.2 none_, List.countP_eq_zero.2 none_, List.take_zero]

theorem lt_countP_iff (descends : Descends key rows)
    (closed : ∀ a b, p b = true → key b ≤ key a → p a = true) {i : Nat} {row : α}
    (here : rows[i]? = some row) : i < rows.countP p ↔ p row = true := by
  induction rows generalizing i with
  | nil => cases here
  | cons head rows ih =>
      obtain ⟨first, rest⟩ := List.pairwise_cons.1 descends
      by_cases holds : p head = true
      · rw [List.countP_cons_of_pos holds]
        cases i with
        | zero =>
            obtain rfl := Option.some.inj here
            exact iff_of_true (Nat.zero_lt_succ _) holds
        | succ i => exact Nat.succ_lt_succ_iff.trans (ih rest here)
      · have none_ := forall_not_of_descends closed first holds
        rw [List.countP_cons_of_neg holds, List.countP_eq_zero.2 none_]
        refine iff_of_false (Nat.not_lt_zero i) ?_
        cases i with
        | zero =>
            obtain rfl := Option.some.inj here
            exact holds
        | succ i => exact none_ row (List.mem_of_getElem? here)

end Closed

section Keys

variable {rows : List α}

theorem filter_ge_eq_take (descends : Descends key rows) (c : κ) :
    rows.filter (fun row => c ≤ key row) = rows.take (rows.countP fun row => c ≤ key row) := by
  refine filter_eq_take descends fun a b above le => ?_
  simp only [decide_eq_true_eq] at above ⊢
  exact above.trans le

theorem lt_countP_ge_iff (descends : Descends key rows) (c : κ) {i : Nat} {row : α}
    (here : rows[i]? = some row) : i < rows.countP (fun row => c ≤ key row) ↔ c ≤ key row := by
  rw [lt_countP_iff descends _ here, decide_eq_true_iff]
  intro a b above le
  simp only [decide_eq_true_eq] at above ⊢
  exact above.trans le

theorem lt_countP_gt_iff (descends : Descends key rows) (c : κ) {i : Nat} {row : α}
    (here : rows[i]? = some row) : i < rows.countP (fun row => c < key row) ↔ c < key row := by
  rw [lt_countP_iff descends _ here, decide_eq_true_iff]
  intro a b above le
  simp only [decide_eq_true_eq] at above ⊢
  exact above.trans_le le

/-- The rows before an unsplit boundary are as many as those of its last key and above. -/
theorem countP_of_unsplit (descends : Descends key rows) {i : Nat} {row : α}
    (here : rows[i]? = some row) (unsplit : Unsplit key rows (i + 1)) :
    rows.countP (fun other => key row ≤ key other) = i + 1 := by
  have among : i < rows.countP fun other => key row ≤ key other :=
    (lt_countP_ge_iff descends (key row) here).2 le_rfl
  have above : ¬ i < rows.countP fun other => key row < key other :=
    fun lt => lt_irrefl _ ((lt_countP_gt_iff descends (key row) here).1 lt)
  have whole := unsplit (key row)
  omega

end Keys

/-! ## Two orders -/

section Orders

variable {one two : List α} {boundary : Nat}

theorem Unsplit.perm (perm : one.Perm two) (unsplit : Unsplit key one boundary) :
    Unsplit key two boundary := by
  intro c
  rw [← perm.countP_eq, ← perm.countP_eq]
  exact unsplit c

/-- Before an unsplit boundary, every order has the same rows. -/
theorem perm_take_of_unsplit (perm : one.Perm two) (first : Descends key one)
    (second : Descends key two) (unsplit : Unsplit key one boundary) :
    (one.take boundary).Perm (two.take boundary) := by
  cases boundary with
  | zero => simp
  | succ i =>
      cases here : one[i]? with
      | none =>
          have short : one.length ≤ i := List.getElem?_eq_none_iff.1 here
          rw [List.take_of_length_le (by omega), List.take_of_length_le (by
            rw [← perm.length_eq]; omega)]
          exact perm
      | some row =>
          have count := countP_of_unsplit first here unsplit
          have count' : two.countP (fun other => key row ≤ key other) = i + 1 := by
            rw [← perm.countP_eq]
            exact count
          have cut := filter_ge_eq_take first (key row)
          have cut' := filter_ge_eq_take second (key row)
          rw [count] at cut
          rw [count'] at cut'
          rw [← cut, ← cut']
          exact perm.filter _

theorem eq_take_append_drop {rows : List α} {i : Nat} {x y : α} (here : rows[i]? = some x)
    (next : rows[i + 1]? = some y) : rows = rows.take i ++ x :: y :: rows.drop (i + 2) := by
  obtain ⟨inside, rfl⟩ := List.getElem?_eq_some_iff.1 next
  obtain ⟨before, rfl⟩ := List.getElem?_eq_some_iff.1 here
  rw [← List.drop_eq_getElem_cons inside, ← List.drop_eq_getElem_cons before,
    List.take_append_drop]

/-- Two rows of one key side by side can be exchanged. -/
theorem descends_swap {before after : List α} {x y : α} (tied : key x = key y)
    (descends : Descends key (before ++ x :: y :: after)) :
    Descends key (before ++ y :: x :: after) := by
  obtain ⟨front, back, across⟩ := List.pairwise_append.1 descends
  obtain ⟨underX, rest⟩ := List.pairwise_cons.1 back
  obtain ⟨underY, tail⟩ := List.pairwise_cons.1 rest
  have under : ∀ row ∈ after, key row ≤ key x :=
    fun row listed => underX row (List.mem_cons_of_mem y listed)
  refine List.pairwise_append.2 ⟨front, ?_, ?_⟩
  · refine List.pairwise_cons.2 ⟨?_, List.pairwise_cons.2 ⟨under, tail⟩⟩
    exact List.forall_mem_cons.2 ⟨tied.le, underY⟩
  · intro row listed
    have below := across row listed
    refine List.forall_mem_cons.2
      ⟨below y (by simp), List.forall_mem_cons.2 ⟨below x (by simp), ?_⟩⟩
    exact fun other late => below other (by simp [late])

end Orders

/-- Where no two rows have one key, no boundary splits a group. -/
theorem unsplit_of_nodup {rows : List α} (distinct : (rows.map key).Nodup) (boundary : Nat) :
    Unsplit key rows boundary := by
  rintro c ⟨above, among⟩
  have parts : ∀ others : List α, others.countP (fun row => c ≤ key row) =
      others.countP (fun row => c < key row) + (others.map key).count c := by
    intro others
    induction others with
    | nil => rfl
    | cons row others ih =>
        rw [List.countP_cons, List.countP_cons, List.map_cons, List.count_cons, ih]
        rcases lt_trichotomy c (key row) with lt | rfl | gt
        · simp [lt, lt.le, lt.ne']
          omega
        · simp
          omega
        · simp [not_le.2 gt, not_lt.2 gt.le, gt.ne]
  have once : (rows.map key).count c ≤ 1 := List.nodup_iff_count_le_one.1 distinct c
  rw [parts rows] at among
  omega

namespace Arrangement

/-- Sorting is one way. -/
def sort (key : α → κ) : Arrangement key where
  arrange := List.insertionSort fun a b => key b ≤ key a
  perm := List.perm_insertionSort _
  descends rows := by
    have total : Std.Total fun a b : α => key b ≤ key a := ⟨fun a b => le_total (key b) (key a)⟩
    have trans : IsTrans α fun a b => key b ≤ key a :=
      ⟨fun _ _ _ first second => second.trans first⟩
    exact List.pairwise_insertionSort _ rows

open Classical in
/-- The same order, but for these rows. -/
noncomputable def replace (base : Arrangement key) {rows answer : List α} (perm : answer.Perm rows)
    (descends : Descends key answer) : Arrangement key where
  arrange others := if others = rows then answer else base.arrange others
  perm others := by
    split
    · rename_i same
      exact same ▸ perm
    · exact base.perm others
  descends others := by
    split
    · exact descends
    · exact base.descends others

theorem arrange_replace (base : Arrangement key) {rows answer : List α} (perm : answer.Perm rows)
    (descends : Descends key answer) : (base.replace perm descends).arrange rows = answer :=
  if_pos rfl

end Arrangement

/-- Where every order has the same rows before a boundary, no group is split there. -/
theorem unsplit_of_perm_take {rows : List α} {boundary : Nat} (nodup : rows.Nodup)
    (stable : ∀ one two : Arrangement key,
      ((one.arrange rows).take boundary).Perm ((two.arrange rows).take boundary)) :
    Unsplit key rows boundary := by
  rintro c ⟨above, among⟩
  let base := Arrangement.sort key
  have perm := base.perm rows
  have descends := base.descends rows
  rw [← perm.countP_eq] at above among
  obtain ⟨i, rfl⟩ : ∃ i, boundary = i + 1 := ⟨boundary - 1, by omega⟩
  have inside : i + 1 < (base.arrange rows).length := among.trans_le List.countP_le_length
  obtain ⟨x, here⟩ : ∃ x, (base.arrange rows)[i]? = some x :=
    ⟨_, List.getElem?_eq_getElem (Nat.lt_of_succ_lt inside)⟩
  obtain ⟨y, next⟩ : ∃ y, (base.arrange rows)[i + 1]? = some y :=
    ⟨_, List.getElem?_eq_getElem inside⟩
  have keyX : key x = c := by
    refine le_antisymm (not_lt.1 fun lt => ?_) ((lt_countP_ge_iff descends c here).1 (by omega))
    have := (lt_countP_gt_iff descends c here).2 lt
    omega
  have keyY : key y = c := by
    refine le_antisymm (not_lt.1 fun lt => ?_) ((lt_countP_ge_iff descends c next).1 among)
    have := (lt_countP_gt_iff descends c next).2 lt
    omega
  -- the two rows on either side of the boundary, and the order that exchanges them
  have split := eq_take_append_drop here next
  have exchanged := descends_swap (keyX.trans keyY.symm) (split ▸ descends)
  have swapped : ((base.arrange rows).take i ++ y :: x :: (base.arrange rows).drop (i + 2)).Perm
      rows := by
    refine List.Perm.trans ?_ perm
    conv_rhs => rw [split]
    exact (List.Perm.swap x y _).append_left _
  have same := stable base (base.replace swapped exchanged)
  rw [Arrangement.arrange_replace] at same
  have beforeX : (base.arrange rows).take (i + 1) = (base.arrange rows).take i ++ [x] := by
    rw [List.take_add_one, here]
    rfl
  have beforeY : ((base.arrange rows).take i ++ y :: x :: (base.arrange rows).drop (i + 2)).take
      (i + 1) = (base.arrange rows).take i ++ [y] := by
    have length : ((base.arrange rows).take i).length = i := by
      rw [List.length_take]
      omega
    have cut : ∀ front after : List α, front.length = i →
        (front ++ y :: after).take (i + 1) = front ++ [y] := by
      rintro front after rfl
      rw [List.take_length_add_append, List.take_succ_cons, List.take_zero]
    exact cut _ _ length
  rw [beforeX, beforeY] at same
  have equal : x = y := List.singleton_perm_singleton.1 ((List.perm_append_left_iff _).1 same)
  have distinct : (base.arrange rows).Nodup := perm.nodup_iff.2 nodup
  rw [split, equal] at distinct
  have twice := (List.nodup_append.1 distinct).2.1
  exact (List.nodup_cons.1 twice).1 List.mem_cons_self

/-! ## The pages -/

/-- The first pages, each out of an order of its own. -/
def pages (size : Nat) (rows : List α) (choices : Nat → Arrangement key) (count : Nat) : List α :=
  (List.range count).flatMap fun k => chunk size ((choices k).arrange rows) k

section Pages

variable {size : Nat} {rows : List α}

theorem pages_const (arrangement : Arrangement key) (count : Nat) :
    pages size rows (fun _ => arrangement) count = (arrangement.arrange rows).take (count * size) :=
  flatMap_chunk size _ count

theorem pages_succ (choices : Nat → Arrangement key) (count : Nat) :
    pages size rows choices (count + 1) =
      pages size rows choices count ++ chunk size ((choices count).arrange rows) count := by
  unfold pages
  rw [List.range_succ, List.flatMap_append, List.flatMap_singleton]

theorem take_append_chunk (rows : List α) (k : Nat) :
    rows.take (k * size) ++ chunk size rows k = rows.take ((k + 1) * size) := by
  rw [chunk, ← List.take_add, Nat.succ_mul]

/-- With unsplit boundaries, it does not matter that each page has its own order. -/
theorem pages_perm_take (unsplit : ∀ k, Unsplit key rows (k * size))
    (choices : Nat → Arrangement key) (arrangement : Arrangement key) (count : Nat) :
    (pages size rows choices count).Perm ((arrangement.arrange rows).take (count * size)) := by
  induction count generalizing arrangement with
  | zero => simp [pages]
  | succ count ih =>
      have cut := (unsplit (count + 1)).perm ((choices count).perm rows).symm
      calc pages size rows choices (count + 1)
          = pages size rows choices count ++ chunk size ((choices count).arrange rows) count :=
            pages_succ choices count
        List.Perm _ (((choices count).arrange rows).take (count * size) ++
              chunk size ((choices count).arrange rows) count) :=
            (ih (choices count)).append_right _
        _ = ((choices count).arrange rows).take ((count + 1) * size) := take_append_chunk _ count
        List.Perm _ ((arrangement.arrange rows).take ((count + 1) * size)) :=
            perm_take_of_unsplit (((choices count).perm rows).trans (arrangement.perm rows).symm)
              ((choices count).descends rows) (arrangement.descends rows) cut

/-- The pages from the `k`-th one on, out of one order. -/
theorem pages_split (size : Nat) (rows : List α) (one two : Arrangement key) (k more : Nat) :
    ∃ late, pages size rows (fun j => if j < k then one else two) (k + more) =
        (one.arrange rows).take (k * size) ++ late ∧
      pages size rows (fun _ => two) (k + more) = (two.arrange rows).take (k * size) ++ late := by
  induction more with
  | zero =>
      refine ⟨[], ?_, ?_⟩
      · rw [List.append_nil, ← pages_const one k]
        refine List.flatMap_congr fun j early => ?_
        have early : j < k := List.mem_range.1 early
        simp only [early, if_true]
      · rw [List.append_nil]
        exact pages_const two k
  | succ more ih =>
      obtain ⟨late, first, second⟩ := ih
      refine ⟨late ++ chunk size (two.arrange rows) (k + more), ?_, ?_⟩
      · rw [← Nat.add_assoc, pages_succ, first, List.append_assoc,
          if_neg (Nat.not_lt.2 (Nat.le_add_right k more))]
      · rw [← Nat.add_assoc, pages_succ, second, List.append_assoc]

/-- **The pages are the rows, whatever orders they are cut from, exactly when no group of
rows with one key lies on both sides of a boundary.** -/
theorem pages_perm_iff (nodup : rows.Nodup) (pos : 0 < size) :
    (∀ choices : Nat → Arrangement key,
      (pages size rows choices (chunkCount size rows.length)).Perm rows) ↔
      ∀ k, Unsplit key rows (k * size) := by
  have long := length_le_chunkCount_mul pos rows.length
  have whole : ∀ (arrangement : Arrangement key) (count : Nat), rows.length ≤ count * size →
      (arrangement.arrange rows).take (count * size) = arrangement.arrange rows := by
    intro arrangement count enough
    exact List.take_of_length_le ((arrangement.perm rows).length_eq.trans_le enough)
  constructor
  · intro all k
    refine unsplit_of_perm_take nodup fun one two => ?_
    rcases Nat.le_total k (chunkCount size rows.length) with within | beyond
    · obtain ⟨more, count⟩ := Nat.exists_eq_add_of_le within
      obtain ⟨late, first, second⟩ := pages_split size rows one two k more
      rw [← count] at first second
      rw [pages_const, whole two _ long] at second
      have mixed := all fun j => if j < k then one else two
      rw [first] at mixed
      have same := mixed.trans (second ▸ (two.perm rows)).symm
      exact (List.perm_append_right_iff late).1 same
    · have enough : rows.length ≤ k * size :=
        long.trans (Nat.mul_le_mul_right size beyond)
      rw [whole one k enough, whole two k enough]
      exact (one.perm rows).trans (two.perm rows).symm
  · intro unsplit choices
    have taken := pages_perm_take unsplit choices (Arrangement.sort key)
      (chunkCount size rows.length)
    rw [whole _ _ long] at taken
    exact taken.trans ((Arrangement.sort key).perm rows)

end Pages

end Lcp.Theory
