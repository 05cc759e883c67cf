/-
# Security.SingleFlight -- one fetch per ttl

Calls that are not forced, and fetches that all succeed.  The second check of the
cache, under the lock, is made with a clock read there, so a call never starts a fetch
within the ttl of the last one, whenever it arrived.

A waiter shares a refresh only while that refresh is fresh.  The lock hands over in
order, one call per turn of the event loop; a waiter whose turn comes a ttl after the
refresh fetches again, and the ones behind it get the newer keys.
-/
import Mathlib.Tactic.Linarith
import Mathlib.Tactic.NormNum
import Lcp.Security.Jwks

namespace Lcp.SingleFlight

open Theory Calls Jwks

set_option autoImplicit false

/-- No call is forced, every fetch succeeds, and only waiting calls are cancelled. -/
def Assumed (w : World) : Action → Prop
  | .tick _ | .resume => True
  | .getJwks forceRefresh => forceRefresh = false
  | .fetched outcome => ∃ keys built, outcome = .ok keys ∧ buildCache w.clock keys = .ok built
  | .cancel i => ∃ forceRefresh refresh, w.calls[i]? = some (.waiting forceRefresh refresh)

/-- The call `i` starts a fetch in the step from `w` to `t`. -/
def StartsFetch (w t : World) (i : Nat) : Prop :=
  ∃ forceRefresh cache, w.calls[i]? ≠ some (.fetching forceRefresh cache) ∧
    t.calls[i]? = some (.fetching forceRefresh cache)

/-- No fetch soon after a refresh, and one refresh for all who waited for it. -/
structure Shared (ttl : Int) (w : World) (a : Action) (t : World) : Prop where
  quiet : ∀ i, StartsFetch w t i → ∀ refreshed ∈ w.refreshes, refreshed.fetchedAt + ttl ≤ t.clock
  served : ∀ i rest forceRefresh n, a = .resume → w.waiters = i :: rest →
    w.calls[i]? = some (.waiting forceRefresh (some n)) →
    ∃ refreshed, w.refreshes[n]? = some refreshed ∧
      (t.clock < refreshed.fetchedAt + ttl →
        Answered w t i forceRefresh (.ok refreshed))

/-! ## The invariant -/

/-- The last refresh is the cache, and each came a ttl after the ones before it. -/
structure Tracked (ttl : Int) (w : World) : Prop where
  latest : ∀ last ∈ w.refreshes.getLast?, w.cache = some last
  past : ∀ refreshed ∈ w.refreshes, refreshed.fetchedAt ≤ w.clock
  spaced : w.refreshes.Pairwise fun earlier later =>
    earlier.fetchedAt + (ttl : Rat) ≤ later.fetchedAt
  apart : w.holder ≠ none → ∀ refreshed ∈ w.refreshes, refreshed.fetchedAt + ttl ≤ w.clock
  queued : ∀ (i : Nat) (forceRefresh : Bool) (refresh : Option Nat),
    w.calls[i]? = some (.waiting forceRefresh refresh) → forceRefresh = false ∧ ∀ n ∈ refresh,
      n < w.refreshes.length ∨ w.holder ≠ none ∧ n = w.refreshes.length

section Steps

variable {ttl : Int} {w t : World} {a : Action}

/-- A refresh that is not the stored cache is a ttl old. -/
theorem Tracked.expired_or_latest (tracked : Tracked ttl w) {refreshed : JwksCache}
    (listed : refreshed ∈ w.refreshes) :
    refreshed.fetchedAt + ttl ≤ w.clock ∨ w.cache = some refreshed := by
  cases end_ : w.refreshes.getLast? with
  | none =>
      rw [List.getLast?_eq_none_iff] at end_
      rw [end_] at listed
      cases listed
  | some last =>
      have stored := tracked.latest last end_
      obtain ⟨earlier, split_⟩ := List.getLast?_eq_some_iff.1 end_
      have spaced := tracked.spaced
      rw [split_] at spaced listed
      rcases List.mem_append.1 listed with before | is_last
      · have gap := (List.pairwise_append.1 spaced).2.2 refreshed before last (by simp)
        exact .inl (gap.trans (tracked.past last (by simp [split_])))
      · obtain rfl := List.mem_singleton.1 is_last
        exact .inr stored

/-- A call that finds the cache stale finds every refresh a ttl old. -/
theorem Tracked.expired_of_stale (tracked : Tracked ttl w)
    (stale : w.fresh ttl false = none) :
    ∀ refreshed ∈ w.refreshes, refreshed.fetchedAt + ttl ≤ w.clock := by
  intro refreshed listed
  rcases tracked.expired_or_latest listed with expired | stored
  · exact expired
  · unfold World.fresh at stale
    rw [stored, Option.filter_eq_none_iff] at stale
    have old : (ttl : Rat) ≤ w.clock - refreshed.fetchedAt := by
      simpa using stale refreshed rfl
    linarith

/-- A refresh that is not a ttl old is what the checks find. -/
theorem Tracked.fresh_of_recent (tracked : Tracked ttl w) {refreshed : JwksCache}
    (listed : refreshed ∈ w.refreshes) (recent : w.clock < refreshed.fetchedAt + ttl) :
    w.fresh ttl false = some refreshed := by
  rcases tracked.expired_or_latest listed with expired | stored
  · exact absurd recent (not_lt.2 expired)
  · have young : w.clock - refreshed.fetchedAt < ttl := by linarith
    unfold World.fresh
    rw [stored]
    simpa using young

/-- While nobody fetches, every refresh that a waiter queued behind is complete. -/
theorem Tracked.complete_of_free (tracked : Tracked ttl w) (free : w.holder = none) {i : Nat}
    {forceRefresh : Bool} {refresh : Option Nat}
    (waiting : w.calls[i]? = some (.waiting forceRefresh refresh)) :
    forceRefresh = false ∧ ∀ n ∈ refresh, n < w.refreshes.length := by
  obtain ⟨unforced, numbered⟩ := tracked.queued i forceRefresh refresh waiting
  refine ⟨unforced, fun n during => ?_⟩
  rcases numbered n during with done | ⟨busy, -⟩
  · exact done
  · exact absurd free busy

/-- A call that has joined and does not wait leaves the waiters as they were. -/
theorem waiting_of_append {calls : List Call} {i : Nat} {new : Call} {forceRefresh : Bool}
    {refresh : Option Nat} (is : (calls ++ [new])[i]? = some (.waiting forceRefresh refresh))
    (other : ∀ forceRefresh refresh, new ≠ .waiting forceRefresh refresh) :
    calls[i]? = some (.waiting forceRefresh refresh) := by
  rcases joined_cases is with earlier | ⟨-, joined⟩
  · exact earlier
  · exact absurd joined.symm (other _ _)

theorem waiting_of_set {calls : List Call} {i j : Nat} {new : Call} {forceRefresh : Bool}
    {refresh : Option Nat} (is : (calls.set j new)[i]? = some (.waiting forceRefresh refresh))
    (other : ∀ forceRefresh refresh, new ≠ .waiting forceRefresh refresh) :
    calls[i]? = some (.waiting forceRefresh refresh) := by
  rcases moved_cases is with ⟨-, earlier⟩ | ⟨-, moved⟩
  · exact earlier
  · exact absurd moved.symm (other _ _)

theorem tracked_effect (tracked : Tracked ttl w) (assumed : Assumed w a)
    (effect : Effect ttl w a t) : Tracked ttl t := by
  have ⟨latest, past, spaced, apart, queued⟩ := tracked
  cases effect with
  | ticked forward =>
      exact ⟨latest, fun refreshed listed => (past refreshed listed).trans forward, spaced,
        fun busy refreshed listed => (apart busy refreshed listed).trans forward, queued⟩
  | hit fresh =>
      exact ⟨latest, past, spaced, apart, fun i force refresh is =>
        queued i force refresh (waiting_of_append is nofun)⟩
  | queued stale busy =>
      refine ⟨latest, past, spaced, apart, fun i force refresh is => ?_⟩
      rcases joined_cases is with earlier | ⟨-, joined⟩
      · exact queued i force refresh earlier
      · cases joined
        refine ⟨assumed, fun n during => .inr ?_⟩
        obtain ⟨holder, held, rfl⟩ := Option.mem_map.1 during
        exact ⟨Option.ne_none_iff_exists'.2 ⟨holder, held⟩, rfl⟩
  | started stale free alone =>
      obtain rfl : _ = false := assumed
      refine ⟨latest, past, spaced, fun _ => tracked.expired_of_stale stale,
        fun i force refresh is => ?_⟩
      obtain ⟨unforced, done⟩ := tracked.complete_of_free free (waiting_of_append is nofun)
      exact ⟨unforced, fun n during => .inl (done n during)⟩
  | resumedHit free first waiting fresh =>
      exact ⟨latest, past, spaced, apart, fun i force refresh is =>
        queued i force refresh (waiting_of_set is nofun)⟩
  | resumedStarted free first waiting stale =>
      obtain ⟨rfl, -⟩ := queued _ _ _ waiting
      refine ⟨latest, past, spaced, fun _ => tracked.expired_of_stale stale,
        fun i force refresh is => ?_⟩
      obtain ⟨unforced, done⟩ := tracked.complete_of_free free (waiting_of_set is nofun)
      exact ⟨unforced, fun n during => .inl (done n during)⟩
  | @refreshed j forceRefresh cache keys built held fetching indexed =>
      have now := fetchedAt_buildCache indexed
      refine ⟨?_, ?_, ?_, fun busy => absurd rfl busy, fun i force refresh is => ?_⟩
      · intro last is_last
        rw [List.getLast?_concat] at is_last
        exact is_last
      · intro refreshed listed
        rcases List.mem_append.1 listed with before | new
        · exact past refreshed before
        · obtain rfl := List.mem_singleton.1 new
          exact now.le
      · refine List.pairwise_append.2 ⟨spaced, List.pairwise_singleton _ _, ?_⟩
        intro earlier before later new
        obtain rfl := List.mem_singleton.1 new
        rw [now]
        exact apart (by simp [held]) earlier before
      · obtain ⟨unforced, numbered⟩ := queued i force refresh (waiting_of_set is nofun)
        refine ⟨unforced, fun n during => .inl ?_⟩
        rw [List.length_append, List.length_singleton]
        rcases numbered n during with done | ⟨-, rfl⟩
        · exact Nat.lt_succ_of_lt done
        · exact Nat.lt_succ_self _
  | gaveUp held fetching failed =>
      obtain ⟨keys, built, rfl, indexed⟩ := assumed
      rcases failed with raised | ⟨keys', inner, same, raised, -⟩
      · cases raised
      · cases same
        rw [indexed] at raised
        cases raised
  | dequeued waiting =>
      exact ⟨latest, past, spaced, apart, fun i force refresh is =>
        queued i force refresh (waiting_of_set is nofun)⟩
  | aborted fetching =>
      obtain ⟨force, refresh, waiting⟩ := assumed
      rw [fetching] at waiting
      cases waiting

theorem startsFetch_append {i : Nat} {new : Call} (starts : StartsFetch w t i)
    (calls : t.calls = w.calls ++ [new]) :
    ∃ forceRefresh cache, new = .fetching forceRefresh cache := by
  obtain ⟨force, snapshot, before, after⟩ := starts
  rw [calls] at after
  rcases joined_cases after with earlier | ⟨-, joined⟩
  · exact absurd earlier before
  · exact ⟨force, snapshot, joined.symm⟩

theorem startsFetch_set {i j : Nat} {new : Call} (starts : StartsFetch w t i)
    (calls : t.calls = w.calls.set j new) :
    ∃ forceRefresh cache, new = .fetching forceRefresh cache := by
  obtain ⟨force, snapshot, before, after⟩ := starts
  rw [calls] at after
  rcases moved_cases after with ⟨-, earlier⟩ | ⟨-, moved⟩
  · exact absurd earlier before
  · exact ⟨force, snapshot, moved.symm⟩

/-- Only a stale cache lets an unforced call fetch. -/
theorem stale_of_startsFetch {i : Nat} (tracked : Tracked ttl w) (assumed : Assumed w a)
    (effect : Effect ttl w a t) (starts : StartsFetch w t i) :
    t.clock = w.clock ∧ w.fresh ttl false = none := by
  cases effect with
  | ticked forward =>
      obtain ⟨force, snapshot, before, after⟩ := starts
      exact absurd after before
  | hit fresh => nomatch startsFetch_append starts rfl
  | queued stale busy => nomatch startsFetch_append starts rfl
  | started stale free alone =>
      obtain rfl : _ = false := assumed
      exact ⟨rfl, stale⟩
  | resumedHit free first waiting fresh => nomatch startsFetch_set starts rfl
  | resumedStarted free first waiting stale =>
      obtain ⟨rfl, -⟩ := tracked.queued _ _ _ waiting
      exact ⟨rfl, stale⟩
  | refreshed held fetching indexed => nomatch startsFetch_set starts rfl
  | gaveUp held fetching failed => nomatch startsFetch_set starts rfl
  | dequeued waiting => nomatch startsFetch_set starts rfl
  | aborted fetching => nomatch startsFetch_set starts rfl

/-- The first waiter gets the refresh it queued behind, when that is still fresh. -/
theorem served_of_effect {i n : Nat} {rest : List Nat} {forceRefresh : Bool}
    (tracked : Tracked ttl w) (effect : Effect ttl w .resume t)
    (first : w.waiters = i :: rest)
    (waiting : w.calls[i]? = some (.waiting forceRefresh (some n))) :
    ∃ refreshed, w.refreshes[n]? = some refreshed ∧
      (t.clock < refreshed.fetchedAt + ttl → Answered w t i forceRefresh (.ok refreshed)) := by
  have free : w.holder = none := by
    cases effect with
    | resumedHit free _ _ _ => exact free
    | resumedStarted free _ _ _ => exact free
  obtain ⟨rfl, complete⟩ := tracked.complete_of_free free waiting
  have done : n < w.refreshes.length := complete n rfl
  refine ⟨w.refreshes[n], List.getElem?_eq_getElem done, fun recent => ?_⟩
  have listed : w.refreshes[n] ∈ w.refreshes := List.getElem_mem done
  cases effect with
  | resumedHit _ head is fresh =>
      obtain ⟨rfl, -⟩ := List.cons.inj (first.symm.trans head)
      rw [waiting] at is
      cases is
      rw [tracked.fresh_of_recent listed recent] at fresh
      cases fresh
      refine ⟨?_, get_moved waiting⟩
      rw [waiting]
      exact nofun
  | resumedStarted _ head is stale =>
      obtain ⟨rfl, -⟩ := List.cons.inj (first.symm.trans head)
      rw [waiting] at is
      cases is
      rw [tracked.fresh_of_recent listed recent] at stale
      cases stale

theorem shared_of_effect (tracked : Tracked ttl w) (assumed : Assumed w a)
    (effect : Effect ttl w a t) : Shared ttl w a t where
  quiet i starts := by
    obtain ⟨clock, stale⟩ := stale_of_startsFetch tracked assumed effect starts
    rw [clock]
    exact tracked.expired_of_stale stale
  served i rest forceRefresh n resumed first waiting := by
    subst resumed
    exact served_of_effect tracked effect first waiting

end Steps

/-- **One fetch per ttl, shared by those who waited for it.**  From any cache and any
moment at which no call is under way. -/
theorem shared_refreshes (ttl : Int) (clock : Rat) (cache : Option JwksCache)
    (actions : List Action)
    (assumed : (jwks ttl).Guarded Assumed { clock, cache } actions) :
    (jwks ttl).Along (Shared ttl) { clock, cache } actions := by
  have start : Tracked ttl { clock, cache } :=
    ⟨nofun, nofun, List.Pairwise.nil, nofun, nofun⟩
  refine Machine.along_of_inv ?_ start assumed
  intro w a t tracked assumed stepped
  have effect := effect_of_step stepped
  exact ⟨tracked_effect tracked assumed effect, shared_of_effect tracked assumed effect⟩

/-- Two calls and one refresh. -/
private def together : List Action :=
  [.getJwks false, .getJwks false, .tick 3, .fetched (.ok (.list [])), .tick 5, .resume]

private theorem guarded_of_plain {actions : List Action}
    (plain : ∀ a ∈ actions, ∀ w, Assumed w a) : (jwks 10).Guarded Assumed {} actions := by
  have labels : (jwks 10).Guarded (fun _ a => ∀ w, Assumed w a) {} actions :=
    Machine.guarded_of_labels plain _
  exact Machine.Along.mono (fun w _ _ assumed => assumed w) labels

private theorem together_assumed : (jwks 10).Guarded Assumed {} together := by
  apply guarded_of_plain
  simp only [together, List.forall_mem_cons]
  exact ⟨fun _ => rfl, fun _ => rfl, fun _ => trivial, fun _ => ⟨_, _, rfl, rfl⟩,
    fun _ => trivial, fun _ => trivial, nofun⟩

/-- The second call queues behind the refresh and gets it. -/
theorem together_shared :
    (jwks 10).Guarded Assumed {} together ∧ (jwks 10).Along (Shared 10) {} together :=
  ⟨together_assumed, shared_refreshes 10 0 none together together_assumed⟩

/-- The second call gets its turn `97` seconds after the refresh. -/
private def late : List Action :=
  [.tick 3, .fetched (.ok (.list [])), .tick 100, .resume, .tick 101, .fetched (.ok (.list []))]

/-- It queued during the first refresh, and answers with the second. -/
theorem late_waiter_fetches_again :
    (jwks 10).Guarded Assumed {} ([.getJwks false, .getJwks false] ++ late) ∧
      ((jwks 10).run {} [.getJwks false, .getJwks false]).map (fun w => w.calls[1]?) =
        some (some (.waiting false (some 0))) ∧
      ((jwks 10).run {} ([.getJwks false, .getJwks false] ++ late)).map
          (fun t => (t.refreshes, t.calls[1]?)) =
        some ([⟨[], 3, .list []⟩, ⟨[], 101, .list []⟩],
          some (.returned false (.ok ⟨[], 101, .list []⟩))) := by
  refine ⟨guarded_of_plain ?_, rfl, by decide +kernel⟩
  simp only [late, List.cons_append, List.nil_append, List.forall_mem_cons]
  exact ⟨fun _ => rfl, fun _ => rfl, fun _ => trivial, fun _ => ⟨_, _, rfl, rfl⟩,
    fun _ => trivial, fun _ => trivial, fun _ => trivial, fun _ => ⟨_, _, rfl, rfl⟩, nofun⟩

end Lcp.SingleFlight
