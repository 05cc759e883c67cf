/-
# Security.JwksBounds -- how old the keys of an answer can be

With a positive ttl no answer is `2 * ttl` old, and one that is `ttl` old goes only to
a call that was forced, or whose own fetch has just failed.  The setting is an
unchecked integer: at `0`, which turns the cache off, the keys that a call has fetched
itself are not younger than `2 * ttl`, and it answers with them all the same.  That is
the only exception.
-/
import Mathlib.Tactic.Linarith
import Mathlib.Tactic.NormNum
import Lcp.Security.Jwks

namespace Lcp.JwksBounds

open Theory Calls Jwks

set_option autoImplicit false

/-- The fetch of the call `i` fails in this step. -/
def FetchFailed (w : World) (a : Action) (i : Nat) (exc : Raised) : Prop :=
  w.holder = some i ∧ a = .fetched (.error exc)

/-- The fetch of the call `i` stores `cache` in this step. -/
def JustFetched (w : World) (a : Action) (t : World) (i : Nat) (cache : JwksCache) : Prop :=
  w.holder = some i ∧ (∃ keys, a = .fetched (.ok keys)) ∧ t.cache = some cache ∧
    cache.fetchedAt = t.clock

/-- What a step does to the age of the answers and of the stored cache. -/
structure Bounds (ttl : Int) (w : World) (a : Action) (t : World) : Prop where
  young : ∀ i forceRefresh cache, Answered w t i forceRefresh (.ok cache) →
    t.clock - cache.fetchedAt < 2 * ttl ∨ ttl ≤ 0 ∧ JustFetched w a t i cache
  fresh : ∀ i cache, Answered w t i false (.ok cache) →
    t.clock - cache.fetchedAt < ttl ∨ (∃ exc, FetchFailed w a i exc) ∨
      ttl ≤ 0 ∧ JustFetched w a t i cache
  kept : ∀ i exc, FetchFailed w a i exc → t.cache = w.cache
  forward : ∀ old ∈ w.cache, ∃ new ∈ t.cache, old.fetchedAt ≤ new.fetchedAt
  raises : ∀ i, (∃ forceRefresh e, Answered w t i forceRefresh (.error (.authentication e))) ↔
    (∃ exc, FetchFailed w a i exc ∧ exc.caught = true) ∧
      ∀ cache ∈ w.cache, 2 * ttl ≤ t.clock - cache.fetchedAt

section Steps

variable {ttl : Int} {w t : World} {a : Action}

theorem degrade_eq_ok {monotonic : Rat} {stored : Option JwksCache} {exc : Raised}
    {cache : JwksCache} (served : degrade ttl monotonic stored exc = .ok cache) :
    exc.caught = true ∧ stored = some cache ∧ monotonic - cache.fetchedAt < 2 * ttl := by
  unfold degrade at served
  split at served
  · rename_i caught
    split at served
    · rename_i found
      cases served
      obtain ⟨is, young⟩ := Option.filter_eq_some_iff.1 found
      exact ⟨caught, is, by simpa using young⟩
    · cases served
  · cases served

theorem degrade_of_old {monotonic : Rat} {stored : Option JwksCache} {exc : Raised}
    (caught : exc.caught = true)
    (old : ∀ cache ∈ stored, 2 * ttl ≤ monotonic - cache.fetchedAt) :
    ∃ e, degrade ttl monotonic stored exc = .error (.authentication e) := by
  have none_young : (stored.filter fun cache => monotonic - cache.fetchedAt < 2 * ttl) = none := by
    rw [Option.filter_eq_none_iff]
    intro cache is
    simpa using old cache is
  unfold degrade
  rw [if_pos caught, none_young]
  exact ⟨_, rfl⟩

theorem degrade_eq_authentication {monotonic : Rat} {stored : Option JwksCache} {exc : Raised}
    {e : Security.AuthenticationError}
    (raised : degrade ttl monotonic stored exc = .error (.authentication e)) :
    exc.caught = true ∧ ∀ cache ∈ stored, 2 * ttl ≤ monotonic - cache.fetchedAt := by
  unfold degrade at raised
  split at raised
  · rename_i caught
    split at raised
    · cases raised
    · rename_i none_young
      rw [Option.filter_eq_none_iff] at none_young
      exact ⟨caught, fun cache is => by simpa using none_young cache is⟩
  · rename_i uncaught
    cases raised
    exact absurd rfl uncaught

/-- The keys that a fetch brings are of the moment it ends. -/
theorem justFetched_of_built {i : Nat} {keys : Json} {cache : JwksCache}
    (held : w.holder = some i) (clock : t.clock = w.clock)
    (indexed : buildCache w.clock keys = .ok cache) (stored : t.cache = some cache) :
    JustFetched w (.fetched (.ok keys)) t i cache :=
  ⟨held, ⟨keys, rfl⟩, stored, (fetchedAt_buildCache indexed).trans clock.symm⟩

theorem young_of_answered {i : Nat} {forceRefresh : Bool} {cache : JwksCache}
    (sound : w.Sound) (effect : Effect ttl w a t)
    (answered : Answered w t i forceRefresh (.ok cache)) :
    t.clock - cache.fetchedAt < 2 * ttl ∨ ttl ≤ 0 ∧ JustFetched w a t i cache := by
  obtain ⟨clock, origin⟩ := origin_of_answered sound effect answered
  generalize is : (Except.ok cache : Except Raised JwksCache) = answer at origin
  cases origin with
  | cached fresh idle =>
      cases is
      obtain ⟨stored, -, age⟩ := fresh_eq_some fresh
      have past := sound.past cache stored
      rw [clock]
      left
      linarith
  | built held ran indexed stored =>
      cases is
      subst ran
      rcases lt_or_ge 0 ttl with positive | off
      · left
        rw [clock, fetchedAt_buildCache indexed, sub_self]
        have : (0 : Rat) < ttl := by exact_mod_cast positive
        linarith
      · exact .inr ⟨off, justFetched_of_built held clock indexed stored⟩
  | degraded held ran failed =>
      rw [clock]
      exact .inl (degrade_eq_ok is.symm).2.2

theorem fresh_of_answered {i : Nat} {cache : JwksCache} (sound : w.Sound)
    (effect : Effect ttl w a t) (answered : Answered w t i false (.ok cache)) :
    t.clock - cache.fetchedAt < ttl ∨ (∃ exc, FetchFailed w a i exc) ∨
      ttl ≤ 0 ∧ JustFetched w a t i cache := by
  obtain ⟨clock, origin⟩ := origin_of_answered sound effect answered
  generalize is : (Except.ok cache : Except Raised JwksCache) = answer at origin
  cases origin with
  | cached fresh idle =>
      cases is
      rw [clock]
      exact .inl (fresh_eq_some fresh).2.2
  | built held ran indexed stored =>
      cases is
      subst ran
      rcases lt_or_ge 0 ttl with positive | off
      · left
        rw [clock, fetchedAt_buildCache indexed, sub_self]
        exact_mod_cast positive
      · exact .inr (.inr ⟨off, justFetched_of_built held clock indexed stored⟩)
  | degraded held ran failed =>
      right
      left
      rcases failed with raised | ⟨keys, inner, -, -, python⟩
      · exact ⟨_, held, ran.trans (congrArg Action.fetched raised)⟩
      · subst python
        exact absurd (degrade_eq_ok is.symm).1 nofun

/-- A failed fetch of the holder, as the effect it is. -/
theorem calls_of_fetchFailed {i : Nat} {exc : Raised} (sound : w.Sound)
    (effect : Effect ttl w a t) (failed : FetchFailed w a i exc) :
    t.cache = w.cache ∧ t.clock = w.clock ∧
      ∃ forceRefresh, Answered w t i forceRefresh (degrade ttl w.clock w.cache exc) := by
  obtain ⟨held, rfl⟩ := failed
  cases effect with
  | gaveUp holder fetching failed =>
      obtain rfl := Option.some.inj (held.symm.trans holder)
      obtain rfl := snapshot_eq sound held fetching
      rcases failed with raised | ⟨keys, inner, raised, -⟩
      · cases raised
        refine ⟨rfl, rfl, _, ?_, get_moved fetching⟩
        rw [fetching]
        exact nofun
      · cases raised

theorem raises_of_effect (sound : w.Sound) (effect : Effect ttl w a t) (i : Nat) :
    (∃ forceRefresh e, Answered w t i forceRefresh (.error (.authentication e))) ↔
      (∃ exc, FetchFailed w a i exc ∧ exc.caught = true) ∧
        ∀ cache ∈ w.cache, 2 * ttl ≤ t.clock - cache.fetchedAt := by
  constructor
  · rintro ⟨forceRefresh, e, answered⟩
    obtain ⟨clock, origin⟩ := origin_of_answered sound effect answered
    generalize is : (Except.error (Raised.authentication e) : Except Raised JwksCache) = answer
      at origin
    cases origin with
    | cached fresh idle => cases is
    | built held ran indexed stored => cases is
    | degraded held ran failed =>
        obtain ⟨caught, old⟩ := degrade_eq_authentication is.symm
        rw [clock]
        refine ⟨?_, old⟩
        rcases failed with raised | ⟨keys, inner, -, -, python⟩
        · exact ⟨_, ⟨held, ran.trans (congrArg Action.fetched raised)⟩, caught⟩
        · subst python
          exact absurd caught nofun
  · rintro ⟨⟨exc, failed, caught⟩, old⟩
    obtain ⟨-, clock, forceRefresh, answered⟩ := calls_of_fetchFailed sound effect failed
    rw [clock] at old
    obtain ⟨e, raised⟩ := degrade_of_old caught old
    rw [raised] at answered
    exact ⟨forceRefresh, e, answered⟩

theorem forward_of_effect (sound : w.Sound) (effect : Effect ttl w a t) :
    ∀ old ∈ w.cache, ∃ new ∈ t.cache, old.fetchedAt ≤ new.fetchedAt := by
  intro old stored
  cases effect with
  | refreshed held fetching indexed =>
      refine ⟨_, rfl, ?_⟩
      rw [fetchedAt_buildCache indexed]
      exact sound.past old stored
  | _ => exact ⟨old, stored, le_refl _⟩

theorem bounds_of_effect (sound : w.Sound) (effect : Effect ttl w a t) : Bounds ttl w a t where
  young _ _ _ := young_of_answered sound effect
  fresh _ _ := fresh_of_answered sound effect
  kept _ _ failed := (calls_of_fetchFailed sound effect failed).1
  forward := forward_of_effect sound effect
  raises := raises_of_effect sound effect

end Steps

/-- **No answer is too old.**  From the start of the process, whatever the calls, the
fetches and the clock do. -/
theorem answers_within_bounds (ttl : Int) (clock : Rat) (actions : List Action) :
    (jwks ttl).Along (Bounds ttl) { clock } actions := by
  have start : World.Sound { clock } := ⟨nofun, nofun⟩
  refine Machine.along_of_step ?_ start actions
  intro w a t sound stepped
  have effect := effect_of_step stepped
  exact ⟨sound_effect sound effect, bounds_of_effect sound effect⟩

/-- With a ttl of `0` a call answers with keys that are `2 * ttl` old. -/
theorem zero_ttl_serves_its_fetch :
    ¬ (jwks 0).Along
      (fun w _ t => ∀ i forceRefresh cache, Answered w t i forceRefresh (.ok cache) →
        t.clock - cache.fetchedAt < 2 * (0 : Int))
      {} [.getJwks false, .fetched (.ok (.list []))] := by
  intro young
  have fetched := ((young _ rfl).2 _ rfl).1
  have age : (0 : Rat) - 0 < 2 * (0 : Int) :=
    fetched 0 false ⟨[], 0, .list []⟩ ⟨nofun, rfl⟩
  norm_num at age

end Lcp.JwksBounds
