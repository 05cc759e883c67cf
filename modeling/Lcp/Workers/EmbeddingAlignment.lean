/-
# Workers.EmbeddingAlignment -- which row an embedding belongs to

The loop of `_vectorize_sync` appends what each response holds, and the rows are
matched with the list by position.  A failed batch is padded ("to keep
alignment"); the length of an answer is not looked at.  So the list is aligned
with the texts when the batch size is positive and every answer has one embedding
a text, and, where the endpoint returns no empty embedding, only then.

With a negative batch size `range` has no start, and no text is sent at all.
-/
import Lcp.Workers.VectorizeSync

namespace Lcp.VectorizeSync

open Theory

set_option autoImplicit false

variable {V : Type} (io : VectorizeIo V) (call : VectorizeCall) (texts : List String)

/-- The lists of the loop match the texts: one entry a text, entry `i` empty or what the endpoint
returned at the place of text `i` in its own batch, and no more rows counted than there are. -/
structure EmbeddingsAligned (sent : Batching) : Prop where
  oneEach : sent.allEmbeddings.length = texts.length
  inPlace : ∀ i entry, sent.allEmbeddings[i]? = some entry →
    entry = .list [] ∨ ∃ embeddings,
      answer io call texts (i / call.batchSize.toNat) = some embeddings ∧
        embeddings[i % call.batchSize.toNat]? = some entry
  counted : ∀ (table after : List (Fields V)) (rowsProcessed : Nat),
    writeBack io sent.allEmbeddings table = .ok (rowsProcessed, after) →
      rowsProcessed ≤ texts.length

/-- The batch size goes through all texts, and every batch that is answered gets one embedding a
text. -/
def OneEmbeddingEach : Prop :=
  (0 < call.batchSize ∨ (call.batchSize ≠ 0 ∧ texts = [])) ∧
    Full call.batchSize.toNat texts (answer io call texts)

/-- No embedding that the endpoint returns is the empty list. -/
def NoneEmpty : Prop :=
  ∀ k embeddings, answer io call texts k = some embeddings → .list [] ∉ embeddings

variable {io call texts}

theorem counted_of_length {sent : Batching} (oneEach : sent.allEmbeddings.length = texts.length)
    (table after : List (Fields V)) (rowsProcessed : Nat)
    (wrote : writeBack io sent.allEmbeddings table = .ok (rowsProcessed, after)) :
    rowsProcessed ≤ texts.length := by
  rw [(writeBack_eq_ok wrote).1, ← oneEach]
  exact List.length_filter_le _ _

theorem aligned_of_answers (pos : 0 < call.batchSize)
    (full : Full call.batchSize.toNat texts (answer io call texts)) :
    ∃ sent, batching io call texts = .ok sent ∧ EmbeddingsAligned io call texts sent := by
  obtain ⟨sent, ran, embeddings, -, -⟩ := batching_of_pos io texts pos
  have laidOut := aligned_of_full (Json.list []) (by omega) full
  unfold layOut at laidOut
  rw [← embeddings] at laidOut
  exact ⟨sent, ran, laidOut.1, laidOut.2, counted_of_length laidOut.1⟩

theorem aligned_of_oneEmbeddingEach (each : OneEmbeddingEach io call texts) :
    ∃ sent, batching io call texts = .ok sent ∧ EmbeddingsAligned io call texts sent := by
  obtain ⟨pos | ⟨nonzero, rfl⟩, full⟩ := each
  · exact aligned_of_answers pos full
  · by_cases pos : 0 < call.batchSize
    · exact aligned_of_answers pos full
    · have negative : call.batchSize < 0 := by omega
      have none_ : batching io call [] = .ok {} := by
        unfold batching batches
        rw [if_neg nonzero, if_pos negative]
        rfl
      refine ⟨{}, none_, rfl, fun i entry found => ?_, counted_of_length rfl⟩
      simp at found

theorem oneEmbeddingEach_of_aligned (noneEmpty : NoneEmpty io call texts) {sent : Batching}
    (ran : batching io call texts = .ok sent) (aligned : EmbeddingsAligned io call texts sent) :
    OneEmbeddingEach io call texts := by
  rcases batching_eq_ok ran with ⟨negative, rfl⟩ | ⟨pos, embeddings, -, -⟩
  · have empty : texts = [] := List.eq_nil_of_length_eq_zero aligned.oneEach.symm
    refine ⟨.inr ⟨by omega, empty⟩, fun k below => ?_⟩
    have size : call.batchSize.toNat = 0 := by omega
    rw [size, empty] at below
    exact absurd below (by simp [chunkCount])
  · have laidOut : Aligned (.list []) call.batchSize.toNat texts (answer io call texts)
        (layOut (.list []) call.batchSize.toNat texts (answer io call texts)) := by
      unfold layOut
      rw [← embeddings]
      exact ⟨aligned.oneEach, aligned.inPlace⟩
    exact ⟨.inl pos, full_of_aligned (by omega) noneEmpty laidOut⟩

/-- **When rows and embeddings stay aligned.**  They are when the batch size goes through the texts
and every answered batch gets one embedding a text; and where the endpoint returns no empty
embedding, they are only then. -/
theorem embeddings_aligned_iff {V : Type} (io : VectorizeIo V) (call : VectorizeCall)
    (texts : List String) :
    (OneEmbeddingEach io call texts →
      ∃ sent, batching io call texts = .ok sent ∧ EmbeddingsAligned io call texts sent) ∧
    (NoneEmpty io call texts →
      ((∃ sent, batching io call texts = .ok sent ∧ EmbeddingsAligned io call texts sent) ↔
        OneEmbeddingEach io call texts)) :=
  ⟨aligned_of_oneEmbeddingEach, fun noneEmpty =>
    ⟨fun ⟨_, ran, aligned⟩ => oneEmbeddingEach_of_aligned noneEmpty ran aligned,
      aligned_of_oneEmbeddingEach⟩⟩

section Runs

/-- A call in batches of two. -/
def batchesOfTwo : VectorizeCall where
  uri := "s3://t"
  targetColumn := .str "vector"
  sourceColumns := .list [.str "body"]
  modelName := .str "m"
  endpoint := .str "http://e"
  batchSize := 2
  timeout := 30
  apiKey := .str ""
  apiKeyHeader := .str "Authorization"

/-- An endpoint that returns these embeddings to its requests, in turn, with status 200. -/
def answering (answers : List (List Json)) : VectorizeIo String where
  strOf := id
  post k _ := .ok
    { json := .ok (.dict [("data", .list ((answers.getD k []).map fun e =>
        .dict [("embedding", e)]))]) }

/-- Three texts in two batches; the first batch is answered with one embedding. -/
def shortAnswer : VectorizeIo String := answering [[.list [.int 1]], [.list [.int 3]]]

theorem short_answer_misaligned :
    ¬ ∃ sent, batching shortAnswer batchesOfTwo ["a", "b", "c"] = .ok sent ∧
      EmbeddingsAligned shortAnswer batchesOfTwo ["a", "b", "c"] sent := by
  rintro ⟨sent, ran, aligned⟩
  have lengths : (batching shortAnswer batchesOfTwo ["a", "b", "c"]).map
      (fun sent => sent.allEmbeddings.length) = .ok 2 := by decide +kernel
  rw [ran] at lengths
  have two : sent.allEmbeddings.length = 2 := Except.ok.inj lengths
  have three := aligned.oneEach
  rw [two] at three
  cases three

/-- One embedding a text. -/
def fullAnswers : VectorizeIo String :=
  answering [[.list [.int 1], .list [.int 2]], [.list [.int 3]]]

/-- With one embedding a text they are aligned. -/
theorem embeddings_aligned_three :
    OneEmbeddingEach fullAnswers batchesOfTwo ["a", "b", "c"] ∧
      NoneEmpty fullAnswers batchesOfTwo ["a", "b", "c"] ∧
      ∃ sent, batching fullAnswers batchesOfTwo ["a", "b", "c"] = .ok sent ∧
        EmbeddingsAligned fullAnswers batchesOfTwo ["a", "b", "c"] sent := by
  have oneEach : OneEmbeddingEach fullAnswers batchesOfTwo ["a", "b", "c"] := by
    refine ⟨.inl (by decide), fun k inside embeddings answered => ?_⟩
    obtain rfl | rfl : k = 0 ∨ k = 1 := by
      have batches : chunkCount 2 3 = 2 := by decide
      have below : k < chunkCount 2 3 := inside
      omega
    · obtain rfl : [Json.list [.int 1], .list [.int 2]] = embeddings := Option.some.inj answered
      decide
    · obtain rfl : [Json.list [.int 3]] = embeddings := Option.some.inj answered
      decide
  have noneEmpty : NoneEmpty fullAnswers batchesOfTwo ["a", "b", "c"] := by
    intro k embeddings answered
    rcases k with _ | _ | k
    · obtain rfl : [Json.list [.int 1], .list [.int 2]] = embeddings := Option.some.inj answered
      simp
    · obtain rfl : [Json.list [.int 3]] = embeddings := Option.some.inj answered
      simp
    · obtain rfl : ([] : List Json) = embeddings := Option.some.inj answered
      simp
  exact ⟨oneEach, noneEmpty,
    ((embeddings_aligned_iff fullAnswers batchesOfTwo ["a", "b", "c"]).2 noneEmpty).2 oneEach⟩

end Runs

end Lcp.VectorizeSync
