/-
# Theory.Redelivery -- calls that arrive more than once

A party that has no answer to its call sends it again, and both can have arrived.  A
`Delivery` is a call that arrives for the first time, or `again`; `meant` are the calls that
a party meant to make.  `Repeats` says that what arrives again is a repetition of the party's
latest call: it waits for an answer before it makes the next one, and what the other parties
do meanwhile is theirs.

`S.Absorbs` is asked of two calls in a row, by a party that is alone: a call that is repeated
leaves what the first one left.  With `Separates` it is enough for whole runs of many parties:

* `exactly_once`: a party ends with the view of a run in which nobody else calls and each of
  its calls arrives once, and its first deliveries are answered as there.
-/
import Lcp.Theory.Noninterference

namespace Lcp.Theory

set_option autoImplicit false

universe u v w

/-- A call that arrives. -/
inductive Delivery (α : Type v) where
  | first (call : α)
  | again (call : α)

namespace Delivery

variable {α : Type v}

/-- The call. -/
def sent : Delivery α → α
  | first call => call
  | again call => call

/-- It has not arrived before. -/
def isFirst : Delivery α → Bool
  | first _ => true
  | again _ => false

/-- The calls that the party meant to make. -/
def meant (mine : α → Bool) : List (Delivery α) → List α
  | [] => []
  | first call :: ds => if mine call then call :: meant mine ds else meant mine ds
  | again _ :: ds => meant mine ds

/-- What arrives again from the party repeats its latest call. -/
def Repeats (repeats : α → α → Prop) (mine : α → Bool) : Option α → List (Delivery α) → Prop
  | _, [] => True
  | latest, first call :: ds =>
      Repeats repeats mine (if mine call then some call else latest) ds
  | latest, again call :: ds =>
      (mine call = true → ∃ original ∈ latest, repeats original call) ∧
        Repeats repeats mine latest ds

end Delivery

namespace Service

variable {σ : Type u} {α : Type v} {ο : Type w}

/-- The service behind a network that delivers calls. -/
def delivering (S : Service σ α ο) : Service σ (Delivery α) ο where
  call s delivery := S.call s delivery.sent

/-- A call that repeats one which meets `F` leaves what that one left. -/
def Absorbs (S : Service σ α ο) (repeats : α → α → Prop) (F : σ → α → Prop) : Prop :=
  ∀ s original call, F s original → repeats original call →
    (S.call (S.call s original).2 call).2 = (S.call s original).2

/-- An invariant of the calls holds wherever one is made. -/
theorem Meets.along {S : Service σ α ο} {C : σ → α → Prop} {I : σ → Prop}
    (keeps : ∀ s a, C s a → I s → I (S.call s a).2) {s : σ} {as : List α} (start : I s)
    (meets : S.Meets C s as) : S.Meets (fun s a => C s a ∧ I s) s as := by
  induction as generalizing s with
  | nil => trivial
  | cons a as ih =>
      obtain ⟨here, later⟩ := meets
      exact ⟨⟨here, start⟩, ih (keeps s a here start) later⟩

theorem Meets.mono {S : Service σ α ο} {C D : σ → α → Prop} (weaker : ∀ s a, C s a → D s a)
    {s : σ} {as : List α} (meets : S.Meets C s as) : S.Meets D s as := by
  induction as generalizing s with
  | nil => trivial
  | cons a as ih => exact ⟨weaker s a meets.1, ih meets.2⟩

section Once

variable {S : Service σ α ο} {mine : α → Bool} {view : σ → σ} {C F : σ → α → Prop}
  {repeats : α → α → Prop}

/-- The view is what the party's latest call left. -/
private def Settled (S : Service σ α ο) (F : σ → α → Prop) (v : σ) (latest : Option α) : Prop :=
  ∀ call ∈ latest, ∃ s, F s call ∧ v = (S.call s call).2

/-- **Each call counts once**, however often it arrives. -/
theorem exactly_once (separates : S.Separates mine view C) (absorbs : S.Absorbs repeats F)
    {s : σ} {ds : List (Delivery α)}
    (meets : S.delivering.Meets (fun s d => C s d.sent) s ds)
    (firsts : S.delivering.Meets (fun s d => d.isFirst = true → mine d.sent = true →
      F (view s) d.sent) s ds)
    (repeated : Delivery.Repeats repeats mine none ds) :
    S.delivering.answers (fun d => d.isFirst && mine d.sent) s ds =
        S.answers (fun _ => true) (view s) (Delivery.meant mine ds) ∧
      view (S.delivering.final s ds) = S.final (view s) (Delivery.meant mine ds) := by
  have settled : Settled S F (view s) none := by simp [Settled]
  generalize none = latest at repeated settled
  induction ds generalizing s latest with
  | nil => exact ⟨rfl, rfl⟩
  | cons d ds ih =>
      obtain ⟨here, later⟩ := meets
      obtain ⟨once, onceLater⟩ := firsts
      cases d with
      | first call =>
          cases own : mine call with
          | true =>
              have alone : S.call (view s) call = ((S.call s call).1, view (S.call s call).2) :=
                separates.own s call here own
              simp only [Delivery.Repeats, own, if_true] at repeated
              have left : Settled S F (view (S.call s call).2) (some call) := by
                intro latest same
                obtain rfl : call = latest := Option.some.inj same
                exact ⟨view s, once rfl own, by rw [alone]⟩
              obtain ⟨answers, final⟩ := ih later onceLater _ repeated left
              simp only [Delivery.meant, own, if_true, Service.answers, Service.final, alone,
                delivering, Delivery.sent, Delivery.isFirst, Bool.and_self] at answers final ⊢
              exact ⟨by rw [answers], final⟩
          | false =>
              have silent : view (S.call s call).2 = view s := separates.others s call here own
              simp only [Delivery.Repeats, own, Bool.false_eq_true, if_false] at repeated
              obtain ⟨answers, final⟩ := ih later onceLater _ repeated (silent ▸ settled)
              simp only [Delivery.meant, own, Bool.false_eq_true, if_false, Service.answers,
                Service.final, delivering, Delivery.sent, Bool.and_false] at answers final ⊢
              rw [← silent]
              exact ⟨answers, final⟩
      | again call =>
          obtain ⟨repetition, repeated⟩ := repeated
          have silent : view (S.call s call).2 = view s := by
            cases own : mine call with
            | true =>
                obtain ⟨original, latest, copy⟩ := repetition own
                obtain ⟨before, met, left⟩ := settled original latest
                have alone := separates.own s call here own
                have absorbed := absorbs before original call met copy
                rw [← left] at absorbed
                rw [← absorbed, alone]
            | false => exact separates.others s call here own
          obtain ⟨answers, final⟩ := ih later onceLater _ repeated (silent ▸ settled)
          simp only [Delivery.meant, Service.answers, Service.final, delivering, Delivery.sent,
            Delivery.isFirst, Bool.false_and, Bool.false_eq_true, if_false] at answers final ⊢
          rw [← silent]
          exact ⟨answers, final⟩

end Once

end Service

end Lcp.Theory
