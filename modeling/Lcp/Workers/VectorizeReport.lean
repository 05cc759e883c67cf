/-
# Workers.VectorizeReport -- what a VECTORIZE task reports, and what it wrote

`_vectorize_sync` returns how many rows it processed and which batches failed.
`Reported` is what that says about the table before and after the call.  The
call leaves the table as it was, so the report is true only where it says
nothing: no embedding that comes back is written, and rows are left NULL in
batches that did not fail (`report_iff`).
-/
import Lcp.Workers.EmbeddingAlignment

namespace Lcp.VectorizeSync

open Theory

set_option autoImplicit false

variable {V : Type} (io : VectorizeIo V) (call : VectorizeCall) (cell : Json → V)
  (table after : List (Fields V))

/-! ## Rows and batches -/

/-- The row has no vector. -/
def unvectorized (row : Fields V) : Bool := (row (targetColumn io call)).isNone

/-- The texts that a call makes of the rows it reads. -/
def textsRead : List String :=
  texts io.strOf (sourceColumns call) ((readRows io call table).toOption.getD [])

/-- How many batches the texts make. -/
def batchCount : Nat := chunkCount call.batchSize.toNat (textsRead io call table).length

/-- The place of row `i` among the rows that are read; `none` for a row that is not. -/
def readIndex (i : Nat) : Option Nat :=
  match filteredFault io call, table[i]? with
  | _, none => none
  | none, some row =>
      if unvectorized io call row then some ((table.take i).countP (unvectorized io call)) else none
  | some _, some _ => some i

/-- The endpoint returned the embedding for row `i`. -/
def ReturnedFor (i : Nat) (embedding : Json) : Prop :=
  ∃ j embeddings, readIndex io call table i = some j ∧
    answer io call (textsRead io call table) (j / call.batchSize.toNat) = some embeddings ∧
    embeddings[j % call.batchSize.toNat]? = some embedding

/-- Row `i` is in a batch that failed. -/
def Affected (i : Nat) : Prop :=
  ∃ j, readIndex io call table i = some j ∧
    answer io call (textsRead io call table) (j / call.batchSize.toNat) = none

/-- Row `i` had no vector, and has the embedding that was returned for it. -/
def Embedded (i : Nat) : Prop :=
  (∃ row, table[i]? = some row ∧ unvectorized io call row = true) ∧
    ∃ row embedding, after[i]? = some row ∧ ReturnedFor io call table i embedding ∧
      row (targetColumn io call) = some (cell embedding)

/-! ## The report -/

/-- What the returned dictionary says of the table before and after: as many rows as it counts
have got their embedding, everything else is unchanged, and when it lists errors the rows of the
failed batches are the ones still without a vector. -/
structure Reported (answered : JsonDict) : Prop where
  processed : ∃ indices : List Nat, indices.Nodup ∧
    (∀ i, i ∈ indices ↔ Embedded io call cell table after i) ∧
    Json.get? answered "rows_processed" = some (.int indices.length)
  otherRows : after.length = table.length ∧
    ∀ i, ¬ Embedded io call cell table after i → after[i]? = table[i]?
  otherColumns : ∀ (i : Nat) (before now : Fields V), table[i]? = some before →
    after[i]? = some now → ∀ column, column ≠ targetColumn io call →
      now column = before column
  errors : Json.get? answered "errors" ≠ none → ∀ (i : Nat) (row : Fields V),
    after[i]? = some row → (Affected io call table i ↔ unvectorized io call row = true)

/-- No batch is answered with an embedding that is not empty.  And of the batches of a filtered
scan all fail or none, where of those of a full scan none fails, or the batch of each row fails
exactly when the row has no vector. -/
def NothingToWrite : Prop :=
  (∀ k < batchCount io call table, ∀ embeddings,
    answer io call (textsRead io call table) k = some embeddings →
      ∀ embedding ∈ embeddings, isFilled embedding = false) ∧
  ((∀ k < batchCount io call table, answer io call (textsRead io call table) k ≠ none) ∨
    match filteredFault io call with
    | none => ∀ k < batchCount io call table, answer io call (textsRead io call table) k = none
    | some _ => ∀ (i : Nat) (row : Fields V), table[i]? = some row →
        (answer io call (textsRead io call table) (i / call.batchSize.toNat) = none ↔
          (row (targetColumn io call)).isNone = true))

variable {io call cell table after}

/-- Where the table is as it was, no row has got its embedding. -/
theorem not_embedded (i : Nat) : ¬ Embedded io call cell table table i := by
  rintro ⟨⟨before, found, empty⟩, row, embedding, again, -, holds⟩
  obtain rfl : before = row := Option.some.inj (found.symm.trans again)
  rw [unvectorized, holds] at empty
  cases empty

/-- A true report over a table that is as it was counts no row. -/
theorem Reported.nothing {answered : JsonDict}
    (reported : Reported io call cell table table answered) :
    Json.get? answered "rows_processed" = some (.int 0) := by
  obtain ⟨indices, -, embedded, counted⟩ := reported.processed
  have none_ : indices = [] :=
    List.eq_nil_iff_forall_not_mem.2 fun i member => not_embedded i ((embedded i).1 member)
  rw [counted, none_]
  rfl

theorem reported_of_nothing {answered : JsonDict}
    (nothing : Json.get? answered "rows_processed" = some (.int 0))
    (errors : Json.get? answered "errors" ≠ none → ∀ (i : Nat) (row : Fields V),
      table[i]? = some row → (Affected io call table i ↔ unvectorized io call row = true)) :
    Reported io call cell table table answered where
  processed := ⟨[], .nil, fun i => ⟨nofun, fun embedded => absurd embedded (not_embedded i)⟩,
    nothing⟩
  otherRows := ⟨rfl, fun _ _ => rfl⟩
  otherColumns := fun i before now found again column _ => by
    rw [Option.some.inj (found.symm.trans again)]
  errors := errors

/-! ## Rows and their batches -/

/-- The `j`-th element with a property stands somewhere. -/
theorem exists_of_countP {α : Type*} {p : α → Bool} {xs : List α} {j : Nat}
    (below : j < xs.countP p) :
    ∃ i x, xs[i]? = some x ∧ p x = true ∧ (xs.take i).countP p = j := by
  induction xs generalizing j with
  | nil => simp at below
  | cons x rest ih =>
      by_cases holds : p x = true
      · cases j with
        | zero => exact ⟨0, x, rfl, holds, rfl⟩
        | succ j =>
            rw [List.countP_cons_of_pos holds] at below
            obtain ⟨i, y, found, holdsThere, counted⟩ := ih (Nat.lt_of_succ_lt_succ below)
            refine ⟨i + 1, y, found, holdsThere, ?_⟩
            rw [List.take_succ_cons, List.countP_cons_of_pos holds, counted]
      · rw [List.countP_cons_of_neg holds] at below
        obtain ⟨i, y, found, holdsThere, counted⟩ := ih below
        refine ⟨i + 1, y, found, holdsThere, ?_⟩
        rw [List.take_succ_cons, List.countP_cons_of_neg holds, counted]

/-- An element with a property comes after fewer of them than there are. -/
theorem countP_take_lt {α : Type*} {p : α → Bool} {xs : List α} {i : Nat} {x : α}
    (found : xs[i]? = some x) (holds : p x = true) : (xs.take i).countP p < xs.countP p := by
  have parts : xs.countP p = (xs.take i).countP p + (xs.drop i).countP p := by
    rw [← List.countP_append, List.take_append_drop]
  have first : (xs.drop i)[0]? = some x := by
    rw [List.getElem?_drop, Nat.add_zero, found]
  have here : 0 < (xs.drop i).countP p :=
    List.countP_pos_iff.2 ⟨x, List.mem_of_getElem? first, holds⟩
  omega

theorem length_textsRead (filtered : filteredFault io call = none) :
    (textsRead io call table).length = table.countP (unvectorized io call) := by
  rw [textsRead, texts, List.length_map, readRows, filtered, List.countP_eq_length_filter]
  rfl

/-- After a filtered scan the rows of failed batches are those without a vector exactly when
every batch failed. -/
theorem affected_iff_of_filtered (filtered : filteredFault io call = none)
    (pos : 0 < call.batchSize.toNat) :
    (∀ (i : Nat) (row : Fields V), table[i]? = some row →
      (Affected io call table i ↔ unvectorized io call row = true)) ↔
    ∀ k < batchCount io call table, answer io call (textsRead io call table) k = none := by
  constructor
  · intro tells k below
    have first : k * call.batchSize.toNat / call.batchSize.toNat = k := Nat.mul_div_cancel _ pos
    have start := mul_lt_of_lt_chunkCount pos below
    rw [length_textsRead filtered] at start
    obtain ⟨i, row, found, empty, counted⟩ := exists_of_countP start
    obtain ⟨j, place, failed⟩ := (tells i row found).2 empty
    have placed : readIndex io call table i = some (k * call.batchSize.toNat) := by
      simp [readIndex, filtered, found, empty, counted]
    obtain rfl := Option.some.inj (place.symm.trans placed)
    rwa [first] at failed
  · intro all i row found
    constructor
    · rintro ⟨j, place, -⟩
      by_contra full
      simp [readIndex, filtered, found, full] at place
    · intro empty
      have inside : (table.take i).countP (unvectorized io call) <
          (textsRead io call table).length := by
        rw [length_textsRead filtered]
        exact countP_take_lt found empty
      exact ⟨_, by simp [readIndex, filtered, found, empty], all _ (div_lt_chunkCount pos inside)⟩

/-- After a full scan row `i` is in batch `i / batch_size`. -/
theorem affected_iff_of_full {exc : PyException} (full : filteredFault io call = some exc)
    {i : Nat} {row : Fields V} (found : table[i]? = some row) :
    Affected io call table i ↔
      answer io call (textsRead io call table) (i / call.batchSize.toNat) = none := by
  have place : readIndex io call table i = some i := by simp [readIndex, full, found]
  constructor
  · rintro ⟨j, there, failed⟩
    obtain rfl := Option.some.inj (there.symm.trans place)
    exact failed
  · exact fun failed => ⟨i, place, failed⟩

/-- What the errors of a report say, batch by batch. -/
theorem affected_iff (pos : 0 < call.batchSize.toNat) :
    (∀ (i : Nat) (row : Fields V), table[i]? = some row →
      (Affected io call table i ↔ unvectorized io call row = true)) ↔
    match filteredFault io call with
    | none => ∀ k < batchCount io call table, answer io call (textsRead io call table) k = none
    | some _ => ∀ (i : Nat) (row : Fields V), table[i]? = some row →
        (answer io call (textsRead io call table) (i / call.batchSize.toNat) = none ↔
          (row (targetColumn io call)).isNone = true) := by
  split
  · rename_i filtered
    exact affected_iff_of_filtered filtered pos
  · rename_i exc full
    exact forall_congr' fun i => forall_congr' fun row => imp_congr_right fun found => by
      rw [affected_iff_of_full full found]
      rfl

/-! ## A call that returns -/

/-- What a call that returns is: nothing was read, or the loop and the write-back ended. -/
theorem vectorizeSync_eq_ok {answered : JsonDict}
    (ran : vectorizeSync io call table = .ok (answered, after)) :
    after = table ∧
    ((textsRead io call table = [] ∧ Json.get? answered "rows_processed" = some (.int 0) ∧
        Json.get? answered "errors" = none) ∨
      ∃ sent, batching io call (textsRead io call table) = .ok sent ∧
        Json.get? answered "rows_processed" =
          some (.int (sent.allEmbeddings.filter isFilled).length) ∧
        (Json.get? answered "errors" = none ↔ sent.errors = [])) := by
  unfold vectorizeSync at ran
  cases openFault : io.openFault with
  | some exc =>
      rw [openFault] at ran
      cases ran
  | none =>
      rw [openFault] at ran
      cases readable : readRows io call table with
      | error exc =>
          rw [readable] at ran
          cases ran
          exact ⟨rfl, .inl ⟨by simp [textsRead, readable, Except.toOption, texts], rfl, rfl⟩⟩
      | ok rows =>
          have read : textsRead io call table = texts io.strOf (sourceColumns call) rows := by
            simp [textsRead, readable, Except.toOption]
          rw [readable] at ran
          simp only at ran
          split at ran
          · rename_i empty
            cases ran
            refine ⟨rfl, .inl ⟨?_, rfl, rfl⟩⟩
            rw [read, List.eq_nil_of_length_eq_zero empty]
            rfl
          · obtain ⟨-, -, ran⟩ := bind_eq_ok ran
            obtain ⟨sent, looped, ran⟩ := bind_eq_ok ran
            obtain ⟨⟨rowsWritten, written⟩, wrote, ran⟩ := bind_eq_ok ran
            cases ran
            obtain ⟨counted, rfl⟩ := writeBack_eq_ok wrote
            refine ⟨rfl, .inr ⟨sent, read ▸ looped, by rw [counted]; rfl, ?_⟩⟩
            by_cases clean : sent.errors = []
            · simp [payload, Json.get?, clean]
            · simp [payload, Json.get?, clean]

/-- The entries of the loop's list that are not empty are those of the answers. -/
theorem filled_eq_nil_iff {texts : List String} {count : Nat} {sent : Batching}
    (looped : Sent io call texts count sent) :
    sent.allEmbeddings.filter isFilled = [] ↔
      ∀ k < count, ∀ embeddings, answer io call texts k = some embeddings →
        ∀ embedding ∈ embeddings, isFilled embedding = false := by
  rw [looped.allEmbeddings, List.filter_eq_nil_iff]
  constructor
  · intro none_ k below embeddings given embedding member
    refine Bool.eq_false_iff.2 (none_ embedding ?_)
    refine List.mem_flatMap.2 ⟨k, List.mem_range.2 below, ?_⟩
    rw [contribution, given, Option.getD_some]
    exact member
  · intro none_ embedding member
    obtain ⟨k, inRange, member⟩ := List.mem_flatMap.1 member
    rw [contribution] at member
    cases given : answer io call texts k with
    | none =>
        rw [given, Option.getD_none] at member
        obtain ⟨-, -, rfl⟩ := List.mem_map.1 member
        simp [isFilled, Json.len]
    | some embeddings =>
        rw [given, Option.getD_some] at member
        rw [none_ k (List.mem_range.1 inRange) embeddings given embedding member]
        exact Bool.false_ne_true

/-- **When a report is true.**  A call that returns reports what it wrote exactly when there was
nothing to write. -/
theorem report_iff {V : Type} {io : VectorizeIo V} {call : VectorizeCall} (cell : Json → V)
    {table after : List (Fields V)} {answered : JsonDict}
    (ran : vectorizeSync io call table = .ok (answered, after)) :
    Reported io call cell table after answered ↔ NothingToWrite io call table := by
  obtain ⟨rfl, ⟨none_, nothing, clean⟩ | ⟨sent, looped, counted, errors⟩⟩ := vectorizeSync_eq_ok ran
  · have noBatch : batchCount io call after = 0 := by
      unfold batchCount chunkCount
      rw [none_]
      rcases Nat.eq_zero_or_pos call.batchSize.toNat with zero | pos
      · simp [zero]
      · exact Nat.div_eq_of_lt (by simp; omega)
    refine ⟨fun _ => ⟨fun k below => ?_, .inl fun k below => ?_⟩, fun _ => ?_⟩
    · exact absurd below (by omega)
    · exact absurd below (by omega)
    · exact reported_of_nothing nothing fun listed => absurd clean listed
  · have state : Sent io call (textsRead io call after) (batchCount io call after) sent := by
      rcases batching_eq_ok looped with ⟨negative, rfl⟩ | ⟨-, state⟩
      · have size : call.batchSize.toNat = 0 := by omega
        have none_ : batchCount io call after = 0 := by simp [batchCount, chunkCount, size]
        rw [none_]
        exact ⟨rfl, rfl, by simp⟩
      · exact state
    have size : sent.errors ≠ [] → 0 < call.batchSize.toNat := by
      rcases batching_eq_ok looped with ⟨-, rfl⟩ | ⟨pos, -⟩
      · exact fun failed => absurd rfl failed
      · exact fun _ => by omega
    have zero : Json.get? answered "rows_processed" = some (.int 0) ↔
        sent.allEmbeddings.filter isFilled = [] := by
      rw [counted, ← List.length_eq_zero_iff]
      simp
    constructor
    · intro reported
      refine ⟨(filled_eq_nil_iff state).1 (zero.1 reported.nothing), ?_⟩
      by_cases clean : sent.errors = []
      · exact .inl (state.errors.1 clean)
      · exact .inr ((affected_iff (size clean)).1
          (reported.errors fun none_ => clean (errors.1 none_)))
    · rintro ⟨empty, failures⟩
      refine reported_of_nothing (zero.2 ((filled_eq_nil_iff state).2 empty)) fun listed => ?_
      have failed : sent.errors ≠ [] := fun clean => listed (errors.2 clean)
      rcases failures with all | exactly
      · exact absurd (state.errors.2 all) failed
      · exact (affected_iff (size failed)).2 exactly

section Runs

/-- One row with a body and no vector. -/
def oneRow : List (Fields String) :=
  [fun column => if column = "body" then some "text" else none]

/-- The endpoint returns an embedding for the row. -/
theorem reported_row_not_written :
    ∃ answered, vectorizeSync (answering [[.list [.int 1]]]) batchesOfTwo oneRow =
        .ok (answered, oneRow) ∧
      Json.get? answered "rows_processed" = some (.int 1) ∧
      ¬ Reported (answering [[.list [.int 1]]]) batchesOfTwo (fun _ => "vector") oneRow oneRow
        answered := by
  refine ⟨_, rfl, by decide +kernel, fun reported => ?_⟩
  have nothing := reported.nothing
  revert nothing
  decide +kernel

/-- The endpoint refuses the only batch. -/
theorem report_iff_refused :
    ∃ answered, Reported { answering [] with post := fun _ _ => .error ⟨"ConnectError", "refused"⟩ }
      batchesOfTwo (fun _ => "vector") oneRow oneRow answered := by
  refine ⟨_, (report_iff (fun _ => "vector") rfl).2 ⟨fun k below embeddings given => ?_, .inr ?_⟩⟩
  · cases given
  · exact fun _ _ => rfl

end Runs

end Lcp.VectorizeSync
