/-
# Theory.Distinguishing -- statements that tell two databases apart

`quiet` has one row in every table; `noisy` has a second row in the protected
ones.  Whatever statement reads a protected table, some choice of conditions and
outputs makes a statement of the same skeleton return nothing on the one and a
row on the other (`Query.fill`).  So a reader that must not see the second row
cannot be kept from it by the shape of its statement: every place a statement
names a protected table has to be guarded.

* `Query.fill`, `Pred.fill` -- any two answers, wherever a protected table is read.
* `From.fill` -- a FROM element that shows a foreign binding on `noisy` alone, and
  that has a row inside the boundary on it.
-/
import Lcp.Theory.Relational

namespace Lcp.Theory

set_option autoImplicit false

namespace Distinguishing

variable {ρ : Type} [DecidableEq ρ]

/-- One row in every table. -/
def quiet (own : ρ) : String → List ρ := fun _ => [own]

/-- A second row in the protected tables. -/
def noisy (p : String → Bool) (own foreign : ρ) : String → List ρ :=
  fun name => if p name then [own, foreign] else [own]

/-- `[v]` or nothing. -/
def bag (b : Bool) (v : ρ) : List ρ := if b then [v] else []

/-- Some binding is one of the two marked rows. -/
def marked (foreign signal : ρ) (env : Env ρ) : Bool :=
  env.any fun binding => binding.2 = some foreign ∨ binding.2 = some signal

variable {p : String → Bool} {own foreign signal : ρ}

@[simp] theorem marked_append (l r : Env ρ) :
    marked foreign signal (l ++ r) = (marked foreign signal l || marked foreign signal r) := by
  simp [marked, List.any_append]

@[simp] theorem marked_nulls (source : From ρ) : marked foreign signal source.nulls = false := by
  simp [marked, From.nulls]

theorem compound_bag (op : SetOp) (v : ρ) :
    ∀ x y : Bool, op.apply (bag x v) (bag y v) =
      match op with
      | .union => bag (x || y) v
      | .unionAll => bag x v ++ bag y v
      | .intersect => bag (x && y) v
      | .except => bag (x && !y) v := by
  rintro (_ | _) (_ | _) <;> cases op <;> simp [SetOp.apply, bag]

/-- Either the first side may answer freely, or the second one reads. -/
theorem reads_either {first second : Bool} {x y : Bool}
    (free : (first || second) = true ∨ x = y) : (first = true ∨ x = y) ∨ second = true := by
  rcases free with read | same
  · rcases (Bool.or_eq_true _ _).mp read with left | right
    · exact .inl (.inl left)
    · exact .inr right
  · exact .inl (.inr same)

/-- What a filled FROM element shows on the two databases: no mark on the quiet
one; on the noisy one a mark when it reads a protected table, and a binding inside
the boundary that is marked when a protected table is hidden. -/
structure Shows (p : String → Bool) (ok : ρ → Bool) (own foreign signal : ρ)
    (reads exposed : Bool) (eval : (String → List ρ) → List (Env ρ)) : Prop where
  unmarked : ∀ env ∈ eval (quiet own), marked foreign signal env = false
  reading : ∃ env ∈ eval (noisy p own foreign),
    reads = true → marked foreign signal env = true
  inside : ∃ env ∈ eval (noisy p own foreign),
    env.within p ok = true ∧ (exposed = false → marked foreign signal env = true)

namespace Shows

variable {ok : ρ → Bool} {reads reads' exposed exposed' : Bool}
  {eval eval' : (String → List ρ) → List (Env ρ)}

/-- Rows of two elements beside each other, whatever else a join adds to them. -/
theorem pair (left : Shows p ok own foreign signal reads exposed eval)
    (right : Shows p ok own foreign signal reads' exposed' eval')
    {rows : (String → List ρ) → List (Env ρ)}
    (unmarked : ∀ env ∈ rows (quiet own), marked foreign signal env = false)
    (paired : ∀ l ∈ eval (noisy p own foreign), ∀ r ∈ eval' (noisy p own foreign),
      l ++ r ∈ rows (noisy p own foreign)) :
    Shows p ok own foreign signal (reads || reads') (exposed && exposed') rows where
  unmarked := unmarked
  reading := by
    obtain ⟨l, inLeft, markLeft⟩ := left.reading
    obtain ⟨r, inRight, markRight⟩ := right.reading
    refine ⟨l ++ r, paired l inLeft r inRight, fun either => ?_⟩
    rw [marked_append, Bool.or_eq_true]
    exact (Bool.or_eq_true _ _ ▸ either).imp markLeft markRight
  inside := by
    obtain ⟨l, inLeft, withinLeft, markLeft⟩ := left.inside
    obtain ⟨r, inRight, withinRight, markRight⟩ := right.inside
    refine ⟨l ++ r, paired l inLeft r inRight, by simp [withinLeft, withinRight], ?_⟩
    intro hidden
    rw [marked_append, Bool.or_eq_true]
    exact ((Bool.and_eq_false_iff ..).1 hidden).imp markLeft markRight

theorem cross (left : Shows p ok own foreign signal reads exposed eval)
    (right : Shows p ok own foreign signal reads' exposed' eval') :
    Shows p ok own foreign signal (reads || reads') (exposed && exposed')
      fun db => crossRows (eval db) (eval' db) := by
  refine left.pair right ?_ ?_
  · intro env member
    obtain ⟨l, inLeft, rest⟩ := List.mem_flatMap.1 member
    obtain ⟨r, inRight, rfl⟩ := List.mem_map.1 rest
    simp [left.unmarked l inLeft, right.unmarked r inRight]
  · intro l inLeft r inRight
    exact List.mem_flatMap.2 ⟨l, inLeft, List.mem_map_of_mem inRight⟩

/-- A join on a condition that always holds. -/
theorem join (kind : JoinKind) (leftSide rightSide : From ρ)
    (left : Shows p ok own foreign signal reads exposed eval)
    (right : Shows p ok own foreign signal reads' exposed' eval') :
    Shows p ok own foreign signal (reads || reads') (exposed && exposed')
      fun db => joinRows kind (fun _ _ => true) (eval db) (eval' db) leftSide.nulls
        rightSide.nulls := by
  refine left.pair right ?_ ?_
  · have pairs : ∀ env ∈ (eval (quiet own)).flatMap
        (pairRows kind (fun _ _ => true) (eval' (quiet own)) rightSide.nulls),
        marked foreign signal env = false := by
      intro env member
      obtain ⟨l, inLeft, paired⟩ := List.mem_flatMap.1 member
      unfold pairRows at paired
      split at paired
      · rw [List.mem_singleton.1 paired]
        simp [left.unmarked l inLeft]
      · obtain ⟨r, matched, rfl⟩ := List.mem_map.1 paired
        simp [left.unmarked l inLeft, right.unmarked r (List.mem_filter.1 matched).1]
    intro env member
    unfold joinRows at member
    split at member
    · rcases List.mem_append.1 member with paired | unmatched
      · exact pairs env paired
      · obtain ⟨r, kept, rfl⟩ := List.mem_map.1 unmatched
        simp [right.unmarked r (List.mem_filter.1 kept).1]
    · exact pairs env member
  · intro l inLeft r inRight
    have paired : l ++ r ∈ (eval (noisy p own foreign)).flatMap
        (pairRows kind (fun _ _ => true) (eval' (noisy p own foreign)) rightSide.nulls) := by
      refine List.mem_flatMap.2 ⟨l, inLeft, ?_⟩
      have matched : r ∈ (eval' (noisy p own foreign)).filter fun _ => true :=
        List.mem_filter.2 ⟨inRight, rfl⟩
      unfold pairRows
      rw [if_neg fun none => List.not_mem_nil (none.2 ▸ matched)]
      exact List.mem_map_of_mem matched
    unfold joinRows
    split
    · exact List.mem_append_left _ paired
    · exact paired

end Shows

/-! ## Filling a skeleton -/

section Fill

variable {ok : ρ → Bool}

/-- Two rows inside the boundary and one outside. -/
structure Markers (ok : ρ → Bool) (own foreign signal : ρ) : Prop where
  ownOk : ok own = true
  signalOk : ok signal = true
  foreignOut : ok foreign = false
  distinct : own ≠ signal

omit [DecidableEq ρ] in
theorem Markers.different (marks : Markers ok own foreign signal) : own ≠ foreign := by
  intro same
  have inside := marks.ownOk
  rw [same, marks.foreignOut] at inside
  cases inside

omit [DecidableEq ρ] in
/-- The two databases differ only behind the boundary. -/
theorem agree_quiet_noisy (marks : Markers ok own foreign signal) :
    AgreeWithin p ok (quiet own) (noisy p own foreign) where
  outside name unprotected := by simp [quiet, noisy, unprotected]
  inside name protected_ := by simp [quiet, noisy, protected_, marks.ownOk, marks.foreignOut]

/-- A protected table shows its second row; under a protected name, its first row
is inside the boundary. -/
theorem shows_table (marks : Markers ok own foreign signal) (base name : String) (exposed : Bool)
    (named : exposed = false → p base = true ∧ p name = false) :
    Shows p ok own foreign signal (p base) exposed
      fun db => (db base).map fun row => [(name, some row)] where
  unmarked := by
    intro env member
    obtain ⟨row, inTable, rfl⟩ := List.mem_map.1 member
    obtain rfl : row = own := by simpa [quiet] using inTable
    simp [marked, marks.different, marks.distinct]
  reading := by
    cases protected_ : p base with
    | false => exact ⟨[(name, some own)], by simp [noisy, protected_], nofun⟩
    | true =>
        refine ⟨[(name, some foreign)], by simp [noisy, protected_], fun _ => ?_⟩
        simp [marked]
  inside := by
    cases exposed with
    | true =>
        refine ⟨[(name, some own)], ?_, by simp [Env.within, marks.ownOk], nofun⟩
        unfold noisy
        split <;> simp
    | false =>
        obtain ⟨protected_, unnamed⟩ := named rfl
        exact ⟨[(name, some foreign)], by simp [noisy, protected_], by simp [Env.within, unnamed],
          fun _ => by simp [marked]⟩

mutual

/-- **Any two answers.**  A statement that reads a protected table can be filled to
answer `bag x v` on the quiet database and `bag y v` on the noisy one; any other
statement can be filled to answer one bag on both. -/
theorem Query.fill (marks : Markers ok own foreign signal) (v : ρ) :
    ∀ (query : Query ρ) (x y : Bool), query.reads p = true ∨ x = y →
    ∃ filled : Query ρ, filled.skeleton = query.skeleton ∧ ∀ outer,
      filled.eval (quiet own) outer = bag x v ∧ filled.eval (noisy p own foreign) outer = bag y v
  | .select froms whereclause output, x, y, free => by
      by_cases same : x = y
      · refine ⟨.select froms whereclause fun _ _ => bag x v, rfl, fun outer => ?_⟩
        rw [Query.eval, Query.eval, same]
        exact ⟨rfl, rfl⟩
      · have read := free.resolve_right same
        rw [Query.reads, Bool.or_eq_true] at read
        obtain ⟨froms', sameFroms, shows⟩ := fillFroms marks froms
        rcases read with inFroms | inWhere
        · obtain ⟨where', sameWhere, holds⟩ := Pred.fill marks whereclause true true (.inr rfl)
          refine ⟨.select froms' where' fun _ envs =>
            if envs.any (marked foreign signal) then bag y v else bag x v, ?_, fun outer => ?_⟩
          · rw [Query.skeleton, Query.skeleton, sameFroms, sameWhere]
          · obtain ⟨env, member, mark⟩ := (shows outer).reading
            have silent : ¬ (evalFroms (quiet own) outer froms').any (marked foreign signal) := by
              rw [List.any_eq_true]
              rintro ⟨env, member, mark⟩
              rw [(shows outer).unmarked env member] at mark
              cases mark
            have heard : (evalFroms (noisy p own foreign) outer froms').any
                (marked foreign signal) = true :=
              List.any_eq_true.2 ⟨env, member, mark inFroms⟩
            simp [Query.eval, (holds _).1, (holds _).2, silent, heard]
        · obtain ⟨where', sameWhere, holds⟩ := Pred.fill marks whereclause false true (.inl inWhere)
          refine ⟨.select froms' where' fun _ envs => if envs.isEmpty then bag x v else bag y v,
            ?_, fun outer => ?_⟩
          · rw [Query.skeleton, Query.skeleton, sameFroms, sameWhere]
          · obtain ⟨env, member, -⟩ := (shows outer).reading
            have some_ : evalFroms (noisy p own foreign) outer froms' ≠ [] :=
              List.ne_nil_of_mem member
            simp [Query.eval, (holds _).1, (holds _).2, some_]
  | .compound op left right, x, y, free => by
      rcases reads_either free with first | second
      · -- The left side answers; the right one is neutral for the operator.
        obtain ⟨left', sameLeft, answers⟩ := Query.fill marks v left x y first
        obtain ⟨right', sameRight, neutral⟩ :=
          Query.fill marks v right (op = .intersect) (op = .intersect) (.inr rfl)
        refine ⟨.compound op left' right', by
          rw [Query.skeleton, Query.skeleton, sameLeft, sameRight], fun outer => ?_⟩
        rw [Query.eval, Query.eval, (answers outer).1, (answers outer).2, (neutral outer).1,
          (neutral outer).2, compound_bag, compound_bag]
        cases op <;> simp [bag]
      · -- The right side answers, negated under EXCEPT.
        obtain ⟨left', sameLeft, neutral⟩ := Query.fill marks v left
          (op = .intersect ∨ op = .except) (op = .intersect ∨ op = .except) (.inr rfl)
        obtain ⟨right', sameRight, answers⟩ :=
          Query.fill marks v right (x ^^ (op = .except)) (y ^^ (op = .except)) (.inl second)
        refine ⟨.compound op left' right', by
          rw [Query.skeleton, Query.skeleton, sameLeft, sameRight], fun outer => ?_⟩
        rw [Query.eval, Query.eval, (answers outer).1, (answers outer).2, (neutral outer).1,
          (neutral outer).2, compound_bag, compound_bag]
        cases op <;> simp [bag]

theorem fillFroms (marks : Markers ok own foreign signal) : ∀ froms : List (From ρ),
    ∃ filled : List (From ρ), skeletons filled = skeletons froms ∧ ∀ outer,
      Shows p ok own foreign signal (readsAny p froms) (froms.all (From.exposes p))
        fun db => evalFroms db outer filled
  | [] => ⟨[], rfl, fun outer =>
      { unmarked := by simp [evalFroms, marked]
        reading := by simp [evalFroms, readsAny]
        inside := by simp [evalFroms, Env.within] }⟩
  | source :: rest => by
      obtain ⟨source', sameSource, showsSource⟩ := From.fill marks source
      obtain ⟨rest', sameRest, showsRest⟩ := fillFroms marks rest
      refine ⟨source' :: rest', by rw [skeletons, skeletons, sameSource, sameRest],
        fun outer => ?_⟩
      exact (showsSource outer).cross (showsRest outer)

theorem From.fill (marks : Markers ok own foreign signal) : ∀ source : From ρ,
    ∃ filled : From ρ, filled.skeleton = source.skeleton ∧ ∀ outer,
      Shows p ok own foreign signal (source.reads p) (source.exposes p)
        fun db => filled.eval db outer
  | .table name => ⟨.table name, rfl, fun outer => by
      have shows := shows_table (p := p) marks name name true nofun
      simpa only [From.eval, From.reads, From.exposes] using shows⟩
  | .aliased base name => ⟨.aliased base name, rfl, fun outer => by
      have shows := shows_table (p := p) marks base name (!p base || p name)
        (by simp)
      simpa only [From.eval, From.reads, From.exposes] using shows⟩
  | .subquery query columns name => by
      cases read : query.reads p with
      | true =>
          -- Empty on the quiet database, the signal row on the noisy one.
          obtain ⟨query', same, answers⟩ := Query.fill marks signal query false true (.inl read)
          refine ⟨.subquery query' columns name, by rw [From.skeleton, From.skeleton, same],
            fun outer => ⟨?_, ⟨[(name, some signal)], ?_, ?_⟩, [(name, some signal)], ?_, ?_⟩⟩
          · simp [From.eval, (answers outer).1, bag]
          · simp [From.eval, (answers outer).2, bag]
          · simp [marked]
          · simp [From.eval, (answers outer).2, bag]
          · simp [Env.within, marks.signalOk, marked]
      | false =>
          obtain ⟨query', same, answers⟩ := Query.fill marks own query true true (.inr rfl)
          refine ⟨.subquery query' columns name, by rw [From.skeleton, From.skeleton, same],
            fun outer => ⟨?_, ⟨[(name, some own)], ?_, ?_⟩, [(name, some own)], ?_, ?_⟩⟩
          · simp [From.eval, (answers outer).1, bag, marked, marks.different, marks.distinct]
          · simp [From.eval, (answers outer).2, bag]
          · simp [From.reads, read]
          · simp [From.eval, (answers outer).2, bag]
          · simp [Env.within, marks.ownOk, From.exposes, read]
  | .join kind left right onclause => by
      obtain ⟨left', sameLeft, showsLeft⟩ := From.fill marks left
      obtain ⟨right', sameRight, showsRight⟩ := From.fill marks right
      refine ⟨.join kind left' right' fun _ => some true, by
        rw [From.skeleton, From.skeleton, sameLeft, sameRight], fun outer => ?_⟩
      have shows := (showsLeft outer).join kind left' right' (showsRight outer)
      simpa [From.eval, From.reads, From.exposes] using shows

theorem Pred.fill (marks : Markers ok own foreign signal) :
    ∀ (pred : Pred ρ) (x y : Bool), pred.reads p = true ∨ x = y →
    ∃ filled : Pred ρ, filled.skeleton = pred.skeleton ∧ ∀ outer,
      filled.eval (quiet own) outer = some x ∧ filled.eval (noisy p own foreign) outer = some y
  | .cond test, x, y, free => by
      have same : x = y := free.resolve_left nofun
      exact ⟨.cond fun _ => some x, rfl, fun outer => by simp [Pred.eval, same]⟩
  | .exists_ query, x, y, free => by
      obtain ⟨query', same, answers⟩ := Query.fill marks own query x y free
      refine ⟨.exists_ query', by rw [Pred.skeleton, Pred.skeleton, same], fun outer => ?_⟩
      rw [Pred.eval, Pred.eval, (answers outer).1, (answers outer).2]
      cases x <;> cases y <;> exact ⟨rfl, rfl⟩
  | .in_ test query, x, y, free => by
      obtain ⟨query', same, answers⟩ := Query.fill marks own query x y free
      refine ⟨.in_ (fun _ _ => some true) query', by rw [Pred.skeleton, Pred.skeleton, same],
        fun outer => ?_⟩
      rw [Pred.eval, Pred.eval, (answers outer).1, (answers outer).2]
      cases x <;> cases y <;> exact ⟨rfl, rfl⟩
  | .not_ arg, x, y, free => by
      obtain ⟨arg', same, answers⟩ :=
        Pred.fill marks arg (!x) (!y) (by simpa [Pred.reads] using free)
      refine ⟨.not_ arg', by rw [Pred.skeleton, Pred.skeleton, same], fun outer => ?_⟩
      rw [Pred.eval, Pred.eval, (answers outer).1, (answers outer).2]
      simp [Kleene.not]
  | .and_ left right, x, y, free => by
      rcases reads_either free with first | second
      · obtain ⟨left', sameLeft, answers⟩ := Pred.fill marks left x y first
        obtain ⟨right', sameRight, neutral⟩ := Pred.fill marks right true true (.inr rfl)
        refine ⟨.and_ left' right', by
          rw [Pred.skeleton, Pred.skeleton, sameLeft, sameRight], fun outer => ?_⟩
        rw [Pred.eval, Pred.eval, (answers outer).1, (answers outer).2, (neutral outer).1,
          (neutral outer).2]
        cases x <;> cases y <;> exact ⟨rfl, rfl⟩
      · obtain ⟨left', sameLeft, neutral⟩ := Pred.fill marks left true true (.inr rfl)
        obtain ⟨right', sameRight, answers⟩ := Pred.fill marks right x y (.inl second)
        refine ⟨.and_ left' right', by
          rw [Pred.skeleton, Pred.skeleton, sameLeft, sameRight], fun outer => ?_⟩
        rw [Pred.eval, Pred.eval, (answers outer).1, (answers outer).2, (neutral outer).1,
          (neutral outer).2]
        cases x <;> cases y <;> exact ⟨rfl, rfl⟩
  | .or_ left right, x, y, free => by
      rcases reads_either free with first | second
      · obtain ⟨left', sameLeft, answers⟩ := Pred.fill marks left x y first
        obtain ⟨right', sameRight, neutral⟩ := Pred.fill marks right false false (.inr rfl)
        refine ⟨.or_ left' right', by
          rw [Pred.skeleton, Pred.skeleton, sameLeft, sameRight], fun outer => ?_⟩
        rw [Pred.eval, Pred.eval, (answers outer).1, (answers outer).2, (neutral outer).1,
          (neutral outer).2]
        cases x <;> cases y <;> exact ⟨rfl, rfl⟩
      · obtain ⟨left', sameLeft, neutral⟩ := Pred.fill marks left false false (.inr rfl)
        obtain ⟨right', sameRight, answers⟩ := Pred.fill marks right x y (.inl second)
        refine ⟨.or_ left' right', by
          rw [Pred.skeleton, Pred.skeleton, sameLeft, sameRight], fun outer => ?_⟩
        rw [Pred.eval, Pred.eval, (answers outer).1, (answers outer).2, (neutral outer).1,
          (neutral outer).2]
        cases x <;> cases y <;> exact ⟨rfl, rfl⟩

end

end Fill

end Distinguishing

end Lcp.Theory
