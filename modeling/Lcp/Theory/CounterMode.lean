/-
# Theory.CounterMode -- bytes drawn from numbered blocks

A generator appends block after block of a fixed width until it has enough, and the
consumer cuts what it needs.  A block may fail, a counter that does not fit for example;
`fill_eq_ok` and `fill_eq_error` say after which block the loop ends, and how.  What is
needed of a longer stream begins with what is needed of a shorter one (`prefix_stream`).

The second half is the numbers inside: a word is four bytes, the most significant first.
-/
import Mathlib.Data.List.Infix
import Lcp.Theory.Chunks

namespace Lcp.Theory.CounterMode

set_option autoImplicit false

universe u v

/-! ## Blocks -/

section Blocks

variable {α : Type u} {ε : Type v} {width : Nat}

/-- Append blocks to the buffer until it has `needed` entries. -/
def fill {α : Type u} {ε : Type v} {width : Nat} [NeZero width]
    (block : Nat → Except ε (Vector α width)) (needed : Nat) (buf : List α) (counter : Nat) :
    Except ε (List α) :=
  if buf.length < needed then
    match block counter with
    | .error e => .error e
    | .ok piece => fill block needed (buf ++ piece.toList) (counter + 1)
  else .ok buf
termination_by needed - buf.length
decreasing_by
  have wide := NeZero.pos width
  rw [List.length_append, Vector.length_toList]
  omega

/-- The first `count` blocks in a row. -/
def stream (piece : Nat → Vector α width) (count : Nat) : List α :=
  (List.range count).flatMap fun k => (piece k).toList

theorem stream_succ (piece : Nat → Vector α width) (count : Nat) :
    stream piece (count + 1) = stream piece count ++ (piece count).toList := by
  rw [stream, List.range_succ, List.flatMap_append, List.flatMap_singleton]
  rfl

theorem length_stream (piece : Nat → Vector α width) (count : Nat) :
    (stream piece count).length = count * width := by
  induction count with
  | zero => simp [stream]
  | succ count ih => rw [stream_succ, List.length_append, ih, Vector.length_toList, Nat.succ_mul]

theorem prefix_stream (piece : Nat → Vector α width) {count more : Nat} (le : count ≤ more) :
    stream piece count <+: stream piece more := by
  obtain ⟨rest, rfl⟩ := Nat.exists_eq_add_of_le le
  rw [stream, stream, List.range_add, List.flatMap_append]
  exact List.prefix_append _ _

variable [NeZero width] {block : Nat → Except ε (Vector α width)} {needed : Nat}

theorem lt_chunkCount_iff {k : Nat} : k < chunkCount width needed ↔ k * width < needed := by
  have wide := NeZero.pos width
  rw [chunkCount, ← Nat.succ_le_iff, Nat.le_div_iff_mul_le wide, Nat.succ_mul]
  omega

/-- One turn of the loop. -/
theorem fill_stream {piece : Nat → Vector α width} {k : Nat}
    (below : k < chunkCount width needed) (given : block k = .ok (piece k)) :
    fill block needed (stream piece k) k = fill block needed (stream piece (k + 1)) (k + 1) := by
  have short : (stream piece k).length < needed := by
    rw [length_stream]
    exact lt_chunkCount_iff.1 below
  rw [fill, if_pos short, given, stream_succ]

/-- Turns of the loop as long as blocks are given. -/
theorem fill_turns {piece : Nat → Vector α width} {k : Nat} (atMost : k ≤ chunkCount width needed)
    (given : ∀ j < k, block j = .ok (piece j)) :
    fill block needed [] 0 = fill block needed (stream piece k) k := by
  induction k with
  | zero => rfl
  | succ k ih =>
      rw [ih (Nat.le_of_succ_le atMost) fun j below => given j (Nat.lt_succ_of_lt below)]
      exact fill_stream atMost (given k (Nat.lt_succ_self k))

/-- The loop ends after as many blocks as cover what is needed. -/
theorem fill_eq_ok {piece : Nat → Vector α width}
    (given : ∀ k < chunkCount width needed, block k = .ok (piece k)) :
    fill block needed [] 0 = .ok (stream piece (chunkCount width needed)) := by
  have enough : ¬ (stream piece (chunkCount width needed)).length < needed := by
    rw [length_stream]
    exact fun short => Nat.lt_irrefl _ (lt_chunkCount_iff.2 short)
  rw [fill_turns (Nat.le_refl _) given, fill, if_neg enough]

/-- A block that fails is the end, if the loop comes to it. -/
theorem fill_eq_error {piece : Nat → Vector α width} {k : Nat} {e : ε}
    (below : k < chunkCount width needed) (given : ∀ j < k, block j = .ok (piece j))
    (failed : block k = .error e) : fill block needed [] 0 = .error e := by
  have short : (stream piece k).length < needed := by
    rw [length_stream]
    exact lt_chunkCount_iff.1 below
  rw [fill_turns (Nat.le_of_lt below) given, fill, if_pos short, failed]

omit [NeZero width] in
/-- A longer cut begins with a shorter one. -/
theorem prefix_take_stream (piece : Nat → Vector α width) {count more n m : Nat}
    (counts : count ≤ more) (cuts : n ≤ m) :
    (stream piece count).take n <+: (stream piece more).take m := by
  have inside : (stream piece count).take n <+: stream piece more :=
    (List.take_prefix _ _).trans (prefix_stream piece counts)
  refine List.prefix_take_iff.2 ⟨inside, ?_⟩
  exact (List.length_take_le _ _).trans cuts

end Blocks

/-! ## Words -/

/-- The four bytes of a number, the most significant first. -/
def wordBytes (n : Nat) : List UInt8 :=
  [.ofNat (n / 2 ^ 24), .ofNat (n / 2 ^ 16), .ofNat (n / 2 ^ 8), .ofNat n]

/-- The number that four bytes spell. -/
def ofWord (a b c d : UInt8) : Nat :=
  ((a.toNat * 2 ^ 8 + b.toNat) * 2 ^ 8 + c.toNat) * 2 ^ 8 + d.toNat

/-- The words in a row; what is left of the last one is dropped. -/
def words : List UInt8 → List Nat
  | a :: b :: c :: d :: rest => ofWord a b c d :: words rest
  | _ => []

theorem ofWord_lt (a b c d : UInt8) : ofWord a b c d < 2 ^ 32 := by
  have := a.toNat_lt
  have := b.toNat_lt
  have := c.toNat_lt
  have := d.toNat_lt
  unfold ofWord
  omega

theorem lt_of_mem_words {bytes : List UInt8} {n : Nat} (member : n ∈ words bytes) : n < 2 ^ 32 := by
  induction bytes using words.induct with
  | case1 a b c d rest ih =>
      rw [words, List.mem_cons] at member
      rcases member with rfl | inRest
      · exact ofWord_lt a b c d
      · exact ih inRest
  | case2 bytes short =>
      rw [words] at member
      · cases member
      · exact short

theorem words_append {count : Nat} {first : List UInt8} (whole : first.length = 4 * count)
    (second : List UInt8) :
    (words first).length = count ∧ words (first ++ second) = words first ++ words second := by
  induction count generalizing first with
  | zero =>
      obtain rfl := List.length_eq_zero_iff.1 whole
      exact ⟨rfl, rfl⟩
  | succ count ih =>
      match first, whole with
      | a :: b :: c :: d :: rest, whole =>
          obtain ⟨length, split⟩ := @ih rest (by simp only [List.length_cons] at whole; omega)
          exact ⟨congrArg Nat.succ length, congrArg (ofWord a b c d :: ·) split⟩

theorem length_words {count : Nat} {bytes : List UInt8} (whole : bytes.length = 4 * count) :
    (words bytes).length = count :=
  (words_append whole []).1

/-- Whole words of a prefix are a prefix of the words. -/
theorem prefix_words {count : Nat} {first bytes : List UInt8} (whole : first.length = 4 * count)
    (inside : first <+: bytes) : words first <+: words bytes := by
  obtain ⟨rest, rfl⟩ := inside
  rw [(words_append whole rest).2]
  exact List.prefix_append _ _

@[simp] theorem length_wordBytes (n : Nat) : (wordBytes n).length = 4 := rfl

theorem words_wordBytes {n : Nat} (fits : n < 2 ^ 32) : words (wordBytes n) = [n] := by
  have spelled :
      ofWord (.ofNat (n / 2 ^ 24)) (.ofNat (n / 2 ^ 16)) (.ofNat (n / 2 ^ 8)) (.ofNat n) = n := by
    simp only [ofWord, UInt8.toNat_ofNat']
    omega
  exact congrArg (fun word => [word]) spelled

/-- A text is told from its counter by the length of the counter. -/
theorem append_wordBytes_inj {first second : List UInt8} {n m : Nat} (fitsFirst : n < 2 ^ 32)
    (fitsSecond : m < 2 ^ 32) (same : first ++ wordBytes n = second ++ wordBytes m) :
    first = second ∧ n = m := by
  obtain ⟨texts, counters⟩ := List.append_inj' same (by simp)
  have numbers := congrArg words counters
  rw [words_wordBytes fitsFirst, words_wordBytes fitsSecond] at numbers
  exact ⟨texts, List.singleton_inj.1 numbers⟩

end Lcp.Theory.CounterMode
