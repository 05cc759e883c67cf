/-
# Theory.UnitOfWork -- a session that batches its writes

A unit of work holds the rows that are committed, the rows that its transaction has
written, and the writes that it has not sent yet.  A flush sends them in order; a
write that is refused rolls the transaction back, and the session stays inactive
until it is rolled back itself.  A rollback, and a refused flush, expire the loaded
copies.

`query` and `commitUnless` are the statements as a caller meets them: an inactive session
rejects them, and the database may refuse one by itself.

A program is a list of writes and flushes.  `perform_ok_iff` says when it runs to its
end, and `applied_perform` what its transaction then amounts to, flushed or not.
-/
import Mathlib.Data.List.Basic

namespace Lcp.Theory

set_option autoImplicit false

/-- A write is refused, or changes the rows. -/
abbrev Write (δ ε : Type) := δ → Except ε δ

/-- The rows after the writes, one after the other. -/
def applyAll {δ ε : Type} (writes : List (Write δ ε)) (db : δ) : Except ε δ :=
  writes.foldlM (fun db write => write db) db

structure UnitOfWork (δ ε : Type) where
  committed : δ
  flushed : δ
  pending : List (Write δ ε) := []
  /-- A flush was refused, and no rollback came after it. -/
  inactive : Bool := false
  /-- The copies that were loaded before are not valid any more. -/
  expired : Bool := false

/-- A step of a program that neither commits nor rolls back. -/
inductive Instruction (δ ε : Type) where
  | write (write : Write δ ε)
  | flush

/-- The writes of a program. -/
def writesOf {δ ε : Type} : List (Instruction δ ε) → List (Write δ ε)
  | [] => []
  | .write write :: rest => write :: writesOf rest
  | .flush :: rest => writesOf rest

namespace UnitOfWork

variable {δ ε : Type}

/-- A session on committed rows. -/
def begin (db : δ) : UnitOfWork δ ε := { committed := db, flushed := db }

def add (write : Write δ ε) (u : UnitOfWork δ ε) : UnitOfWork δ ε :=
  { u with pending := u.pending ++ [write] }

/-- The rows as a flush would leave them. -/
def applied (u : UnitOfWork δ ε) : Except ε δ := applyAll u.pending u.flushed

/-- Send the pending writes. -/
def flush (u : UnitOfWork δ ε) : Except ε Unit × UnitOfWork δ ε :=
  match u.applied with
  | .ok db => (.ok (), { u with flushed := db, pending := [] })
  | .error e =>
      (.error e,
        { u with flushed := u.committed, pending := [], inactive := true, expired := true })

def rollback (u : UnitOfWork δ ε) : UnitOfWork δ ε :=
  { u with flushed := u.committed, pending := [], inactive := false, expired := true }

/-- Flush, then make the rows of the transaction the committed ones. -/
def commit (u : UnitOfWork δ ε) : Except ε Unit × UnitOfWork δ ε :=
  match u.flush with
  | (.ok (), u) => (.ok (), { u with committed := u.flushed })
  | (.error e, u) => (.error e, u)

/-- A statement that the database refuses, and whether the session is inactive after it. -/
structure Refusal (ε : Type) where
  error : ε
  deactivates : Bool

/-- Send what is pending, then read; an inactive session rejects the statement. -/
def query {α : Type} (rejected : ε) (refused : Option (Refusal ε)) (read : δ → α)
    (u : UnitOfWork δ ε) : Except ε α × UnitOfWork δ ε :=
  if u.inactive then (.error rejected, u)
  else
    match u.flush with
    | (.error e, u) => (.error e, u)
    | (.ok (), u) =>
        match refused with
        | some refusal => (.error refusal.error, { u with inactive := refusal.deactivates })
        | none => (.ok (read u.flushed), u)

/-- A commit of a session that may be inactive, by a database that may refuse it. -/
def commitUnless (rejected : ε) (refused : Option (Refusal ε)) (u : UnitOfWork δ ε) :
    Except ε Unit × UnitOfWork δ ε :=
  if u.inactive then (.error rejected, u)
  else
    match u.flush with
    | (.error e, u) => (.error e, u)
    | (.ok (), u) =>
        match refused with
        | some refusal =>
            (.error refusal.error,
              { u with flushed := u.committed, inactive := refusal.deactivates })
        | none => (.ok (), { u with committed := u.flushed })

/-- Run a program; it ends at the first flush that is refused. -/
def perform : List (Instruction δ ε) → UnitOfWork δ ε → Except ε Unit × UnitOfWork δ ε
  | [], u => (.ok (), u)
  | .write write :: rest, u => perform rest (u.add write)
  | .flush :: rest, u =>
      match u.flush with
      | (.ok (), u) => perform rest u
      | (.error e, u) => (.error e, u)

/-! ## Flushes -/

theorem applyAll_append (first second : List (Write δ ε)) (db : δ) :
    applyAll (first ++ second) db = (applyAll first db).bind (applyAll second) := by
  unfold applyAll
  rw [List.foldlM_append]
  rfl

theorem applyAll_cons_ok {write : Write δ ε} {rest : List (Write δ ε)} {db after : δ}
    (applied : applyAll (write :: rest) db = .ok after) :
    ∃ next, write db = .ok next ∧ applyAll rest next = .ok after := by
  unfold applyAll at applied
  rw [List.foldlM_cons] at applied
  cases first : write db with
  | error e =>
      rw [first] at applied
      cases applied
  | ok next =>
      rw [first] at applied
      exact ⟨next, rfl, applied⟩

@[simp] theorem committed_rollback (u : UnitOfWork δ ε) : u.rollback.committed = u.committed := rfl

theorem flush_eq_ok {u v : UnitOfWork δ ε} (ran : u.flush = (.ok (), v)) :
    ∃ db, u.applied = .ok db ∧ v = { u with flushed := db, pending := [] } := by
  unfold flush at ran
  split at ran
  · rename_i db applied
    exact ⟨db, applied, (Prod.mk.inj ran).2.symm⟩
  · cases ran

theorem flush_eq_error {u v : UnitOfWork δ ε} {e : ε} (ran : u.flush = (.error e, v)) :
    u.applied = .error e ∧ v.committed = u.committed ∧ v.inactive = true ∧ v.expired = true := by
  unfold flush at ran
  split at ran
  · cases ran
  · rename_i refused applied
    obtain ⟨same, rfl⟩ := Prod.mk.inj ran
    cases same
    exact ⟨applied, rfl, rfl, rfl⟩

theorem flush_of_applied {u : UnitOfWork δ ε} {db : δ} (applied : u.applied = .ok db) :
    u.flush = (.ok (), { u with flushed := db, pending := [] }) := by
  unfold flush
  rw [applied]

theorem commit_of_applied {u : UnitOfWork δ ε} {db : δ} (applied : u.applied = .ok db) :
    u.commit = (.ok (), { u with committed := db, flushed := db, pending := [] }) := by
  rw [commit, flush_of_applied applied]

/-- A commit that cannot send what is pending commits nothing. -/
theorem commit_of_refused {u : UnitOfWork δ ε} {e : ε} (refused : u.applied = .error e) :
    ∃ v, u.commit = (.error e, v) ∧ v.committed = u.committed := by
  rw [commit, flush, refused]
  exact ⟨_, rfl, rfl⟩

theorem commit_eq_error {u v : UnitOfWork δ ε} {e : ε} (ran : u.commit = (.error e, v)) :
    v.committed = u.committed := by
  unfold commit at ran
  split at ran
  · cases ran
  · rename_i refused
    obtain ⟨-, rfl⟩ := Prod.mk.inj ran
    exact (flush_eq_error refused).2.1

/-- With nothing pending, nothing is sent. -/
theorem flush_of_settled {u : UnitOfWork δ ε} (settled : u.pending = []) :
    u.flush = (.ok (), u) := by
  have applied : u.applied = .ok u.flushed := by
    unfold UnitOfWork.applied
    rw [settled]
    rfl
  rw [flush_of_applied applied, ← settled]

/-- A query of an active session with nothing pending is answered, unless the database refuses
it. -/
theorem query_of_settled {α : Type} {rejected : ε} {refused : Option (Refusal ε)} {read : δ → α}
    {u : UnitOfWork δ ε} (settled : u.pending = []) (active : u.inactive = false) :
    u.query rejected refused read =
      match refused with
      | some refusal => (.error refusal.error, { u with inactive := refusal.deactivates })
      | none => (.ok (read u.flushed), u) := by
  simp only [query, active, Bool.false_eq_true, if_false, flush_of_settled settled]

theorem commitUnless_of_settled {rejected : ε} {refused : Option (Refusal ε)}
    {u : UnitOfWork δ ε} (settled : u.pending = []) (active : u.inactive = false) :
    u.commitUnless rejected refused =
      match refused with
      | some refusal =>
          (.error refusal.error,
            { u with flushed := u.committed, inactive := refusal.deactivates })
      | none => (.ok (), { u with committed := u.flushed }) := by
  simp only [commitUnless, active, Bool.false_eq_true, if_false, flush_of_settled settled]

/-- What is pending becomes committed if and only if the session is active, the flush takes it
and the database commits. -/
theorem commitUnless_ok_iff {rejected : ε} {refused : Option (Refusal ε)} {u : UnitOfWork δ ε} :
    (∃ v, u.commitUnless rejected refused = (.ok (), v)) ↔
      u.inactive = false ∧ (∃ db, u.applied = .ok db) ∧ refused = none := by
  unfold commitUnless
  cases active : u.inactive with
  | true => simp
  | false =>
      cases applied : u.applied with
      | error e => simp [flush, applied]
      | ok db => cases refused <;> simp [flush, applied]

theorem committed_commitUnless {rejected : ε} {refused : Option (Refusal ε)}
    {u v : UnitOfWork δ ε} {answer : Except ε Unit}
    (ran : u.commitUnless rejected refused = (answer, v)) :
    (∃ e, answer = .error e ∧ v.committed = u.committed) ∨
      (answer = .ok () ∧ u.applied = .ok v.committed) := by
  unfold commitUnless at ran
  split at ran
  · obtain ⟨rfl, rfl⟩ := Prod.mk.inj ran
    exact .inl ⟨_, rfl, rfl⟩
  · split at ran
    · rename_i flushed
      obtain ⟨rfl, rfl⟩ := Prod.mk.inj ran
      exact .inl ⟨_, rfl, (flush_eq_error flushed).2.1⟩
    · rename_i flushed
      obtain ⟨db, applied, rfl⟩ := flush_eq_ok flushed
      split at ran
      · obtain ⟨rfl, rfl⟩ := Prod.mk.inj ran
        exact .inl ⟨_, rfl, rfl⟩
      · obtain ⟨rfl, rfl⟩ := Prod.mk.inj ran
        exact .inr ⟨rfl, applied⟩

/-- What was added is applied last. -/
theorem applied_add (u : UnitOfWork δ ε) (write : Write δ ε) :
    (u.add write).applied = u.applied.bind write := by
  unfold applied add
  rw [applyAll_append]
  congr 1
  funext db
  change (write db >>= pure) = write db
  exact bind_pure _

/-- One write of a session with nothing pending, sent. -/
theorem flush_add_of_settled {u : UnitOfWork δ ε} (settled : u.pending = [])
    (write : Write δ ε) :
    (u.add write).flush =
      match write u.flushed with
      | .ok db => (.ok (), { u with flushed := db })
      | .error e =>
          (.error e, { u with flushed := u.committed, inactive := true, expired := true }) := by
  have applied : (u.add write).applied = write u.flushed := by
    rw [applied_add]
    unfold UnitOfWork.applied
    rw [settled]
    rfl
  unfold flush
  rw [applied]
  cases write u.flushed <;> simp only [add, settled]

/-! ## Programs -/

/-- The program neither commits nor invalidates copies, as long as no flush is refused. -/
theorem perform_eq_ok {program : List (Instruction δ ε)} {u v : UnitOfWork δ ε}
    (ran : perform program u = (.ok (), v)) :
    v.committed = u.committed ∧ v.inactive = u.inactive ∧ v.expired = u.expired ∧
      v.applied = u.applied.bind (applyAll (writesOf program)) := by
  induction program generalizing u with
  | nil =>
      obtain rfl := (Prod.mk.inj ran).2
      refine ⟨rfl, rfl, rfl, ?_⟩
      change u.applied = u.applied >>= pure
      exact (bind_pure _).symm
  | cons instruction rest ih =>
      cases instruction with
      | write write =>
          obtain ⟨committed, inactive, expired, applied⟩ := ih ran
          refine ⟨committed, inactive, expired, ?_⟩
          rw [applied, applied_add]
          cases u.applied <;> rfl
      | flush =>
          simp only [perform] at ran
          split at ran
          · rename_i next flushed
            obtain ⟨db, applies, rfl⟩ := flush_eq_ok flushed
            obtain ⟨committed, inactive, expired, applied⟩ := ih ran
            refine ⟨committed, inactive, expired, ?_⟩
            rw [applied, applies]
            rfl
          · cases ran

/-- A refused flush leaves nothing but expired copies in an inactive session. -/
theorem perform_eq_error {program : List (Instruction δ ε)} {u v : UnitOfWork δ ε} {e : ε}
    (ran : perform program u = (.error e, v)) :
    v.committed = u.committed ∧ v.inactive = true ∧ v.expired = true := by
  induction program generalizing u with
  | nil => cases ran
  | cons instruction rest ih =>
      cases instruction with
      | write write =>
          obtain ⟨committed, invalid⟩ := ih ran
          exact ⟨committed, invalid⟩
      | flush =>
          simp only [perform] at ran
          split at ran
          · rename_i next flushed
            obtain ⟨db, -, rfl⟩ := flush_eq_ok flushed
            obtain ⟨committed, invalid⟩ := ih ran
            exact ⟨committed, invalid⟩
          · rename_i e' next flushed
            obtain ⟨-, rfl⟩ := Prod.mk.inj ran
            exact (flush_eq_error flushed).2

/-- Every flush of the program takes the writes before it. -/
def FlushesAccepted (program : List (Instruction δ ε)) (u : UnitOfWork δ ε) : Prop :=
  ∀ before after, program = before ++ .flush :: after →
    ∃ db, u.applied.bind (applyAll (writesOf before)) = .ok db

/-- A program runs to its end if and only if every flush is accepted. -/
theorem perform_ok_iff {program : List (Instruction δ ε)} {u : UnitOfWork δ ε} :
    (∃ v, perform program u = (.ok (), v)) ↔ FlushesAccepted program u := by
  induction program generalizing u with
  | nil =>
      refine iff_of_true ⟨u, rfl⟩ fun before after same => ?_
      cases before <;> cases same
  | cons instruction rest ih =>
      cases instruction with
      | write write =>
          refine Iff.trans ih
            ⟨fun accepted before after same => ?_, fun accepted before after same => ?_⟩
          · cases before with
            | nil => cases same
            | cons first before =>
                obtain ⟨rfl, rfl⟩ := List.cons.inj same
                obtain ⟨db, applied⟩ := accepted before after rfl
                refine ⟨db, ?_⟩
                rw [applied_add] at applied
                rw [← applied]
                cases u.applied <;> rfl
          · obtain ⟨db, applied⟩ := accepted (.write write :: before) after (by rw [same]; rfl)
            refine ⟨db, ?_⟩
            rw [applied_add, ← applied]
            cases u.applied <;> rfl
      | flush =>
          have here : ∀ {v : UnitOfWork δ ε} {db : δ}, u.flush = (.ok (), v) → u.applied = .ok db →
              (FlushesAccepted rest v ↔ FlushesAccepted (.flush :: rest) u) := by
            intro v db flushed applies
            obtain ⟨db', applies', rfl⟩ := flush_eq_ok flushed
            obtain rfl := Except.ok.inj (applies.symm.trans applies')
            constructor
            · intro accepted before after same
              cases before with
              | nil => exact ⟨db, by rw [applies]; rfl⟩
              | cons first before =>
                  obtain ⟨rfl, rfl⟩ := List.cons.inj same
                  obtain ⟨last, applied⟩ := accepted before after rfl
                  exact ⟨last, by rw [applies]; exact applied⟩
            · intro accepted before after same
              obtain ⟨last, applied⟩ := accepted (.flush :: before) after (by rw [same]; rfl)
              exact ⟨last, by rw [applies] at applied; exact applied⟩
          simp only [perform]
          split
          · rename_i v flushed
            obtain ⟨db, applies, -⟩ := flush_eq_ok flushed
            exact Iff.trans ih (here flushed applies)
          · rename_i e v flushed
            refine iff_of_false (fun ran => by cases ran.choose_spec) fun accepted => ?_
            obtain ⟨db, applied⟩ := accepted [] rest rfl
            rw [(flush_eq_error flushed).1] at applied
            cases applied

end UnitOfWork

end Lcp.Theory
