/-
# Embeddings.MockModel -- the deterministic mock embedding

`hash_embedding` draws the components of a text's vector from a hash chain: round `k`
hashes the text with `k` behind it as four bytes, and the digests in a row are read as
words.  SHA-256 is a parameter, a text is what UTF-8 encodes, and the floats are exact.

* `one_eq_ok`, `one_eq_error` -- a vector, or the overflow of the round counter.
* `vector_congr` -- the chain hashes `hashInput text k` for the rounds `k` and nothing else.
* `hashEmbedding_wellFormed` -- shape, range, prefixes, and no input that is hashed twice.
-/
import Mathlib.Algebra.Order.Field.Rat
import Mathlib.Tactic.Linarith
import Lcp.Core.Python
import Lcp.Theory.CounterMode

namespace Lcp.MockModel

open Theory Theory.CounterMode

set_option autoImplicit false

/-! ## The model -/

def BYTES_PER_FLOAT : Nat := 4

def UINT32_MAX : Nat := 2 ^ 32 - 1

/-- The bytes of `text.encode("utf-8")`. -/
def encode (text : String) : List UInt8 := text.toUTF8.data.toList

/-- The bytes of `counter.to_bytes(4, "big")`. -/
def toBytes (counter : Nat) : Except PyException (List UInt8) :=
  if counter < 2 ^ 32 then .ok (wordBytes counter)
  else .error (.overflowError "int too big to convert")

/-- What a round hashes. -/
def hashInput (text : String) (counter : Nat) : Except PyException (List UInt8) := do
  let suffix ← toBytes counter
  return encode text ++ suffix

/-- The words of `struct.unpack(f">{dim}I", bytes)`. -/
def unpack (dim : Nat) (bytes : List UInt8) : Except PyException (List Nat) :=
  if bytes.length = 4 * dim then .ok (words bytes)
  else .error ⟨"error", "unpack requires a buffer of " ++ toString (4 * dim) ++ " bytes"⟩

def half : Rat := UINT32_MAX / 2

/-- A word, mapped into `[-1, 1]` via the midpoint of its range. -/
def scale (value : Nat) : Rat := (value - half) / half

section Model

variable (sha256 : List UInt8 → Vector UInt8 32)

/-- The digest of a round. -/
def round (text : String) (counter : Nat) : Except PyException (Vector UInt8 32) := do
  let input ← hashInput text counter
  return sha256 input

/-- Compute a single deterministic vector for a text. -/
def one (text : String) (dim bytesNeeded : Nat) : Except PyException (List Rat) := do
  let buf ← fill (round sha256 text) bytesNeeded [] 0
  let raw ← unpack dim (buf.take bytesNeeded)
  return raw.map scale

/-- Return a deterministic vector per text. -/
def hashEmbedding (texts : List Json) (dim : Int := 384) : Except PyException (List (List Rat)) :=
  if dim ≤ 0 then .error (.valueError ("dim must be positive, got " ++ toString dim))
  else if dim % BYTES_PER_FLOAT ≠ 0 then
    .error (.valueError ("dim must be a multiple of " ++ toString BYTES_PER_FLOAT ++ ", got " ++
      toString dim))
  else
    texts.mapM fun
      | .str text => one sha256 text dim.toNat (dim.toNat * BYTES_PER_FLOAT)
      | other => .error (.typeError ("hash_embedding texts must be str, got " ++ other.typeName))

/-! ## One text -/

/-- How many rounds cover a vector. -/
def rounds (dim : Nat) : Nat := chunkCount 32 (dim * BYTES_PER_FLOAT)

/-- The digests of a text's chain. -/
def digest (text : String) (k : Nat) : Vector UInt8 32 := sha256 (encode text ++ wordBytes k)

/-- The vector of a text. -/
def vector (text : String) (dim : Nat) : List Rat :=
  (words ((stream (digest sha256 text) (rounds dim)).take (dim * BYTES_PER_FLOAT))).map scale

variable {sha256}

theorem hashInput_of_lt {counter : Nat} (fits : counter < 2 ^ 32) (text : String) :
    hashInput text counter = .ok (encode text ++ wordBytes counter) := by
  rw [hashInput, toBytes, if_pos fits]
  rfl

theorem round_of_lt {counter : Nat} (fits : counter < 2 ^ 32) (text : String) :
    round sha256 text counter = .ok (digest sha256 text counter) := by
  rw [round, hashInput_of_lt fits]
  rfl

/-- The digests in a row are long enough, so as many bytes are cut as a vector has. -/
theorem length_cut (text : String) (dim : Nat) :
    ((stream (digest sha256 text) (rounds dim)).take (dim * BYTES_PER_FLOAT)).length = 4 * dim := by
  have covers : dim * BYTES_PER_FLOAT ≤ rounds dim * 32 :=
    length_le_chunkCount_mul (by omega) (dim * BYTES_PER_FLOAT)
  rw [List.length_take, length_stream, Nat.min_eq_left covers, BYTES_PER_FLOAT, Nat.mul_comm]

/-- The chain of a vector ends, as long as its rounds can be counted in four bytes. -/
theorem one_eq_ok (text : String) {dim : Nat} (counted : rounds dim ≤ 2 ^ 32) :
    one sha256 text dim (dim * BYTES_PER_FLOAT) = .ok (vector sha256 text dim) := by
  have chain : fill (round sha256 text) (dim * BYTES_PER_FLOAT) [] 0 =
      .ok (stream (digest sha256 text) (rounds dim)) :=
    fill_eq_ok fun k below => round_of_lt (Nat.lt_of_lt_of_le below counted) text
  simp only [one, chain, unpack, bind, Except.bind, length_cut, if_true]
  rfl

/-- A longer chain runs over its counter. -/
theorem one_eq_error (text : String) {dim : Nat} (uncounted : 2 ^ 32 < rounds dim) :
    one sha256 text dim (dim * BYTES_PER_FLOAT) =
      .error (.overflowError "int too big to convert") := by
  have overflows : round sha256 text (2 ^ 32) =
      .error (.overflowError "int too big to convert") := by
    rw [round, hashInput, toBytes, if_neg (Nat.lt_irrefl _)]
    rfl
  have chain : fill (round sha256 text) (dim * BYTES_PER_FLOAT) [] 0 =
      .error (.overflowError "int too big to convert") :=
    fill_eq_error uncounted (fun j below => round_of_lt below text) overflows
  simp only [one, chain, bind, Except.bind]

theorem length_vector (text : String) (dim : Nat) : (vector sha256 text dim).length = dim := by
  rw [vector, List.length_map, length_words (length_cut text dim)]

/-- A word is scaled into the interval. -/
theorem scale_bounds {value : Nat} (fits : value < 2 ^ 32) :
    -1 ≤ scale value ∧ scale value ≤ 1 := by
  have positive : (0 : Rat) < half := by
    unfold half UINT32_MAX
    norm_num
  have whole : (value : Rat) ≤ 2 * half := by
    have atMost : value ≤ UINT32_MAX := by
      unfold UINT32_MAX
      omega
    have cast : (value : Rat) ≤ (UINT32_MAX : Rat) := by exact_mod_cast atMost
    unfold half
    linarith
  have nonneg : (0 : Rat) ≤ value := Nat.cast_nonneg value
  constructor
  · rw [scale, le_div_iff₀ positive]
    linarith
  · rw [scale, div_le_iff₀ positive]
    linarith

theorem bounds_of_mem_vector {text : String} {dim : Nat} {x : Rat}
    (member : x ∈ vector sha256 text dim) : -1 ≤ x ∧ x ≤ 1 := by
  obtain ⟨value, inWords, rfl⟩ := List.mem_map.1 member
  exact scale_bounds (lt_of_mem_words inWords)

theorem rounds_mono {dim more : Nat} (le : dim ≤ more) : rounds dim ≤ rounds more := by
  unfold rounds chunkCount BYTES_PER_FLOAT
  omega

/-- A longer vector begins with a shorter one. -/
theorem prefix_vector (text : String) {dim more : Nat} (le : dim ≤ more) :
    vector sha256 text dim <+: vector sha256 text more := by
  have cut := prefix_take_stream (digest sha256 text) (rounds_mono le)
    (Nat.mul_le_mul_right BYTES_PER_FLOAT le)
  exact (prefix_words (length_cut text dim) cut).map scale

/-- The text and the round are read back from what is hashed. -/
theorem hashInput_inj {text other : String} {k j : Nat} {input : List UInt8}
    (first : hashInput text k = .ok input) (second : hashInput other j = .ok input) :
    text = other ∧ k = j := by
  have fits : ∀ {text : String} {k : Nat}, hashInput text k = .ok input → k < 2 ^ 32 := by
    intro text k given
    by_contra large
    rw [hashInput, toBytes, if_neg large] at given
    cases given
  have firstFits := fits first
  have secondFits := fits second
  rw [hashInput_of_lt firstFits] at first
  rw [hashInput_of_lt secondFits] at second
  have same := Except.ok.inj (first.trans second.symm)
  obtain ⟨bytes, rounds⟩ := append_wordBytes_inj firstFits secondFits same
  refine ⟨?_, rounds⟩
  rw [← String.toByteArray_inj, ← String.toUTF8_eq_toByteArray, ← String.toUTF8_eq_toByteArray]
  exact ByteArray.ext (Array.toList_inj.1 bytes)

/-- The chain of a text sees its hash inputs, and no other bytes. -/
theorem vector_congr {other : List UInt8 → Vector UInt8 32} {text : String} {dim : Nat}
    (agree : ∀ k < rounds dim, sha256 (encode text ++ wordBytes k) =
      other (encode text ++ wordBytes k)) :
    vector sha256 text dim = vector other text dim := by
  have streams : stream (digest sha256 text) (rounds dim) =
      stream (digest other text) (rounds dim) := by
    refine List.flatMap_congr fun k inside => ?_
    exact congrArg Vector.toList (agree k (List.mem_range.1 inside))
  rw [vector, vector, streams]

/-! ## Many texts -/

/-- The dimensions that a vector can have. -/
structure Admissible (dim : Int) : Prop where
  positive : 0 < dim
  words : dim % BYTES_PER_FLOAT = 0
  counted : rounds dim.toNat ≤ 2 ^ 32

/-- One vector for each text, in the order of the texts. -/
theorem hashEmbedding_eq_ok {dim : Int} (admissible : Admissible dim) (texts : List String) :
    hashEmbedding sha256 (texts.map .str) dim =
      .ok (texts.map fun text => vector sha256 text dim.toNat) := by
  obtain ⟨positive, words, counted⟩ := admissible
  rw [hashEmbedding, if_neg (Int.not_le.2 positive), if_neg (not_not.2 words), List.mapM_map]
  have each : ∀ text, one sha256 text dim.toNat (dim.toNat * BYTES_PER_FLOAT) =
      pure (vector sha256 text dim.toNat) := fun text => one_eq_ok text counted
  simp only [Function.comp_def, each, List.mapM_pure]
  rfl

variable (sha256)

/-- What callers rely on: a vector per text, as long as asked for, in the interval, and read from
the text's own digests. -/
structure WellFormed (texts : List String) (dim : Int) (vectors : List (List Rat)) : Prop where
  returned : hashEmbedding sha256 (texts.map .str) dim = .ok vectors
  decoded : vectors = texts.map fun text => vector sha256 text dim.toNat
  inOrder : List.Forall₂ (fun text vector => hashEmbedding sha256 [.str text] dim = .ok [vector])
    texts vectors
  sized : ∀ vector ∈ vectors, (vector.length : Int) = dim
  bounded : ∀ vector ∈ vectors, ∀ x ∈ vector, -1 ≤ x ∧ x ≤ 1

/-- The bytes that are hashed are those of the texts and rounds, and no two of these share
theirs. -/
structure HashedOnce (texts : List String) (dim : Int) : Prop where
  given : ∀ text k, k < rounds dim.toNat → ∃ input, hashInput text k = .ok input
  used : ∀ other : List UInt8 → Vector UInt8 32,
    (∀ text ∈ texts, ∀ k < rounds dim.toNat, ∀ input, hashInput text k = .ok input →
      other input = sha256 input) →
    hashEmbedding other (texts.map .str) dim = hashEmbedding sha256 (texts.map .str) dim
  apart : ∀ text other k j input, hashInput text k = .ok input → hashInput other j = .ok input →
    (text, k) = (other, j)

variable {sha256}

theorem wellFormed_vectors {dim : Int} (admissible : Admissible dim) (texts : List String) :
    WellFormed sha256 texts dim (texts.map fun text => vector sha256 text dim.toNat) where
  returned := hashEmbedding_eq_ok admissible texts
  decoded := rfl
  inOrder := by
    rw [List.forall₂_map_right_iff, List.forall₂_same]
    exact fun text _ => hashEmbedding_eq_ok admissible [text]
  sized := by
    intro vector member
    obtain ⟨text, -, rfl⟩ := List.mem_map.1 member
    rw [length_vector, Int.toNat_of_nonneg (Int.le_of_lt admissible.positive)]
  bounded := by
    intro vector member x inVector
    obtain ⟨text, -, rfl⟩ := List.mem_map.1 member
    exact bounds_of_mem_vector inVector

theorem hashedOnce {dim : Int} (admissible : Admissible dim) (texts : List String) :
    HashedOnce sha256 texts dim where
  given := fun text k below =>
    ⟨_, hashInput_of_lt (Nat.lt_of_lt_of_le below admissible.counted) text⟩
  used := by
    intro other agree
    rw [hashEmbedding_eq_ok admissible, hashEmbedding_eq_ok admissible]
    refine congrArg Except.ok (List.map_congr_left fun text member => ?_)
    refine vector_congr fun k below => agree text member k below _ ?_
    exact hashInput_of_lt (Nat.lt_of_lt_of_le below admissible.counted) text
  apart := by
    intro text other k j input first second
    obtain ⟨rfl, rfl⟩ := hashInput_inj first second
    rfl

/-- Every admissible dimension is served: the vectors are well formed, those of a longer
dimension begin with them, and no two rounds hash the same bytes. -/
theorem hashEmbedding_wellFormed (sha256 : List UInt8 → Vector UInt8 32) (texts : List String)
    {dim : Int} (admissible : Admissible dim) :
    ∃ vectors, WellFormed sha256 texts dim vectors ∧
      (∀ {more : Int}, Admissible more → dim ≤ more → ∃ longer,
        hashEmbedding sha256 (texts.map .str) more = .ok longer ∧
          List.Forall₂ (· <+: ·) vectors longer) ∧
      HashedOnce sha256 texts dim := by
  refine ⟨_, wellFormed_vectors admissible texts, ?_, hashedOnce admissible texts⟩
  intro more admissibleMore le
  refine ⟨_, hashEmbedding_eq_ok admissibleMore texts, ?_⟩
  rw [List.forall₂_map_left_iff, List.forall₂_map_right_iff, List.forall₂_same]
  exact fun text _ => prefix_vector text (Int.toNat_le_toNat le)

theorem admissible_384 : Admissible 384 := ⟨by decide, by decide, by decide⟩

/-- The default dimension, with a digest of zeros in place of SHA-256. -/
theorem hashEmbedding_wellFormed_default :
    ∃ vectors, WellFormed (fun _ => .replicate 32 0) ["hello world", ""] 384 vectors ∧
      vectors.length = 2 := by
  obtain ⟨vectors, wellFormed, -⟩ :=
    hashEmbedding_wellFormed (fun _ => .replicate 32 0) ["hello world", ""] admissible_384
  exact ⟨vectors, wellFormed, wellFormed.inOrder.length_eq.symm⟩

end Model

end Lcp.MockModel
