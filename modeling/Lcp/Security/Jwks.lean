/-
# Security.Jwks -- `_get_jwks`, one await point at a time

The JWKs of the identity provider are cached in a module global.  A call reads the
cache without the lock; where that does not answer it takes an `asyncio.Lock`, reads
the cache again, and fetches.  Between two await points a coroutine runs alone, so a
step of the machine is one such stretch: a call up to its first wait, the wake-up of
the first waiter, the end of a fetch.

The lock is FIFO, and a new call does not overtake a waiter.  What a fetch comes back
with, when, and how the monotonic clock advances is chosen by the labels.
-/
import Mathlib.Algebra.Order.Ring.Rat
import Lcp.Core.Python
import Lcp.Core.Security
import Lcp.Theory.Calls
import Lcp.Theory.Machine

namespace Lcp.Jwks

open Theory Calls Security

set_option autoImplicit false

/-! ## The cache -/

/-- What the code of the module raises or lets through. -/
inductive Raised where
  | authentication (e : AuthenticationError)
  /-- An `httpx.HTTPError`. -/
  | http (message : String)
  | python (exc : PyException)
deriving DecidableEq

namespace Raised

/-- The text of `str(exc)`. -/
def text : Raised → String
  | .authentication e => e.message
  | .http message => message
  | .python exc => exc.message

/-- The classes of the `except` clause of `_get_jwks`. -/
def caught : Raised → Bool
  | .authentication _ | .http _ => true
  | .python _ => false

end Raised

/-- Cached JWKs indexed by `kid`. -/
structure JwksCache where
  keysByKid : List (String × JsonDict)
  fetchedAt : Rat
  rawKeys : Json
deriving DecidableEq

/-- The assignment `keys_by_kid[kid] = key`. -/
def setKey (kid : String) (key : JsonDict) :
    List (String × JsonDict) → List (String × JsonDict)
  | [] => [(kid, key)]
  | (other, old) :: rest =>
      if other = kid then (kid, key) :: rest else (other, old) :: setKey kid key rest

/-- The loop body of `_build_cache`. -/
def indexKey (keysByKid : List (String × JsonDict)) :
    Json → Except PyException (List (String × JsonDict))
  | .dict key =>
      match Json.get? key "kid" with
      | some (.str kid) => .ok (setKey kid key keysByKid)
      | _ => .ok keysByKid
  | value =>
      .error (.attributeError (pyRepr value.typeName ++ " object has no attribute 'get'"))

/-- Index a JWK list by `kid`. -/
def buildCache (monotonic : Rat) (keys : Json) : Except PyException JwksCache := do
  let items ← keys.iterate
  let keysByKid ← items.foldlM indexKey []
  return { keysByKid, fetchedAt := monotonic, rawKeys := keys }

/-! ## Calls under way -/

inductive Call where
  /-- Queued on the lock; `refresh` is ghost state, the number of the refresh under way. -/
  | waiting (forceRefresh : Bool) (refresh : Option Nat)
  /-- In `_do_fetch_jwks`, with the cache that the second check read. -/
  | fetching (forceRefresh : Bool) (cache : Option JwksCache)
  | returned (forceRefresh : Bool) (answer : Except Raised JwksCache)
  | cancelled

instance : DecidableEq (Except Raised JwksCache)
  | .ok a, .ok b => decidable_of_iff (a = b) (by simp)
  | .error a, .error b => decidable_of_iff (a = b) (by simp)
  | .ok _, .error _ | .error _, .ok _ => isFalse nofun

deriving instance DecidableEq for Call

/-- The process: its clock, the global cache, the lock and the calls. -/
structure World where
  /-- The value of `time.monotonic()`. -/
  clock : Rat := 0
  cache : Option JwksCache := none
  holder : Option Nat := none
  waiters : List Nat := []
  calls : List Call := []
  /-- Ghost state: the caches that refreshes have stored, in order. -/
  refreshes : List JwksCache := []

inductive Action where
  | tick (later : Rat)
  | getJwks (forceRefresh : Bool)
  /-- The first waiter gets the lock. -/
  | resume
  /-- `_do_fetch_jwks` comes back with the value of `keys`, or raises. -/
  | fetched (outcome : Except Raised Json)
  | cancel (call : Nat)

section Steps

-- the setting `oidc_jwks_cache_ttl_seconds`, an unchecked integer
variable (ttl : Int)

/-- The test of the fast path, made again under the lock. -/
def World.fresh (w : World) (forceRefresh : Bool) : Option JwksCache :=
  w.cache.filter fun cache => !forceRefresh && w.clock - cache.fetchedAt < ttl

/-- A call with the lock: the second check, then the fetch. -/
def World.enter (w : World) (i : Nat) (forceRefresh : Bool) : World :=
  match w.fresh ttl forceRefresh with
  | some cache => { w with calls := w.calls.set i (.returned forceRefresh (.ok cache)) }
  | none =>
      { w with holder := some i, calls := w.calls.set i (.fetching forceRefresh w.cache) }

/-- The handler of a failed fetch: the stale cache up to `2 * ttl`. -/
def degrade (monotonic : Rat) (cache : Option JwksCache) (exc : Raised) :
    Except Raised JwksCache :=
  if exc.caught then
    match cache.filter fun cache => monotonic - cache.fetchedAt < 2 * ttl with
    | some cache => .ok cache
    | none => .error (.authentication ⟨"Unable to fetch JWKs: " ++ exc.text⟩)
  else .error exc

/-- The rest of the `try` statement, and the release of the lock. -/
def World.finish (w : World) (i : Nat) (forceRefresh : Bool) (cache : Option JwksCache)
    (outcome : Except Raised Json) : World :=
  match outcome.bind fun keys => (buildCache w.clock keys).mapError .python with
  | .ok built =>
      { w with
        cache := some built
        holder := none
        calls := w.calls.set i (.returned forceRefresh (.ok built))
        refreshes := w.refreshes ++ [built] }
  | .error exc =>
      { w with
        holder := none
        calls := w.calls.set i (.returned forceRefresh (degrade ttl w.clock cache exc)) }

def World.step (w : World) : Action → Option World
  | .tick later => if w.clock ≤ later then some { w with clock := later } else none
  | .getJwks forceRefresh =>
      match w.fresh ttl forceRefresh with
      | some cache => some { w with calls := w.calls ++ [.returned forceRefresh (.ok cache)] }
      | none =>
          let refresh := w.holder.map fun _ => w.refreshes.length
          let called : World := { w with calls := w.calls ++ [.waiting forceRefresh refresh] }
          if w.holder = none ∧ w.waiters = [] then
            some (called.enter ttl w.calls.length forceRefresh)
          else some { called with waiters := w.waiters ++ [w.calls.length] }
  | .resume =>
      match w.holder, w.waiters with
      | none, i :: rest =>
          match w.calls[i]? with
          | some (.waiting forceRefresh _) =>
              some ({ w with waiters := rest }.enter ttl i forceRefresh)
          | _ => none
      | _, _ => none
  | .fetched outcome =>
      match w.holder with
      | none => none
      | some i =>
          match w.calls[i]? with
          | some (.fetching forceRefresh cache) => some (w.finish ttl i forceRefresh cache outcome)
          | _ => none
  | .cancel i =>
      match w.calls[i]? with
      | some (.waiting _ _) =>
          some { w with
            waiters := w.waiters.filter fun other => other ≠ i
            calls := w.calls.set i .cancelled }
      | some (.fetching _ _) =>
          some { w with holder := none, calls := w.calls.set i .cancelled }
      | _ => none

/-- Runs of `_get_jwks` calls in one process. -/
def jwks : Machine World Action where
  step := World.step ttl

/-! ## What a step can do -/

/-- A call is answered at once, or queued, or it starts a fetch; a fetch ends; a call is
cancelled. -/
inductive Effect (w : World) : Action → World → Prop
  | ticked {later : Rat} (forward : w.clock ≤ later) :
      Effect w (.tick later) { w with clock := later }
  | hit {forceRefresh : Bool} {cache : JwksCache} (fresh : w.fresh ttl forceRefresh = some cache) :
      Effect w (.getJwks forceRefresh)
        { w with calls := w.calls ++ [.returned forceRefresh (.ok cache)] }
  | queued {forceRefresh : Bool} (stale : w.fresh ttl forceRefresh = none)
      (busy : ¬ (w.holder = none ∧ w.waiters = [])) :
      Effect w (.getJwks forceRefresh)
        { w with
          calls := w.calls ++
            [.waiting forceRefresh (w.holder.map fun _ => w.refreshes.length)]
          waiters := w.waiters ++ [w.calls.length] }
  | started {forceRefresh : Bool} (stale : w.fresh ttl forceRefresh = none)
      (free : w.holder = none) (alone : w.waiters = []) :
      Effect w (.getJwks forceRefresh)
        { w with
          holder := some w.calls.length
          calls := w.calls ++ [.fetching forceRefresh w.cache] }
  | resumedHit {i : Nat} {rest : List Nat} {forceRefresh : Bool} {refresh : Option Nat}
      {cache : JwksCache} (free : w.holder = none) (first : w.waiters = i :: rest)
      (waiting : w.calls[i]? = some (.waiting forceRefresh refresh))
      (fresh : w.fresh ttl forceRefresh = some cache) :
      Effect w .resume
        { w with waiters := rest, calls := w.calls.set i (.returned forceRefresh (.ok cache)) }
  | resumedStarted {i : Nat} {rest : List Nat} {forceRefresh : Bool} {refresh : Option Nat}
      (free : w.holder = none) (first : w.waiters = i :: rest)
      (waiting : w.calls[i]? = some (.waiting forceRefresh refresh))
      (stale : w.fresh ttl forceRefresh = none) :
      Effect w .resume
        { w with
          waiters := rest
          holder := some i
          calls := w.calls.set i (.fetching forceRefresh w.cache) }
  | refreshed {i : Nat} {forceRefresh : Bool} {cache : Option JwksCache} {keys : Json}
      {built : JwksCache} (held : w.holder = some i)
      (fetching : w.calls[i]? = some (.fetching forceRefresh cache))
      (indexed : buildCache w.clock keys = .ok built) :
      Effect w (.fetched (.ok keys))
        { w with
          cache := some built
          holder := none
          calls := w.calls.set i (.returned forceRefresh (.ok built))
          refreshes := w.refreshes ++ [built] }
  | gaveUp {i : Nat} {forceRefresh : Bool} {cache : Option JwksCache}
      {outcome : Except Raised Json} {exc : Raised} (held : w.holder = some i)
      (fetching : w.calls[i]? = some (.fetching forceRefresh cache))
      (failed : outcome = .error exc ∨
        ∃ keys inner, outcome = .ok keys ∧ buildCache w.clock keys = .error inner ∧
          exc = .python inner) :
      Effect w (.fetched outcome)
        { w with
          holder := none
          calls := w.calls.set i (.returned forceRefresh (degrade ttl w.clock cache exc)) }
  | dequeued {i : Nat} {forceRefresh : Bool} {refresh : Option Nat}
      (waiting : w.calls[i]? = some (.waiting forceRefresh refresh)) :
      Effect w (.cancel i)
        { w with
          waiters := w.waiters.filter fun other => other ≠ i
          calls := w.calls.set i .cancelled }
  | aborted {i : Nat} {forceRefresh : Bool} {cache : Option JwksCache}
      (fetching : w.calls[i]? = some (.fetching forceRefresh cache)) :
      Effect w (.cancel i) { w with holder := none, calls := w.calls.set i .cancelled }

variable {ttl}

theorem effect_of_step {w t : World} {a : Action} (stepped : (jwks ttl).step w a = some t) :
    Effect ttl w a t := by
  simp only [jwks] at stepped
  cases a with
  | tick later =>
      simp only [World.step] at stepped
      split at stepped
      · rename_i forward
        obtain rfl := Option.some.inj stepped
        exact .ticked forward
      · cases stepped
  | getJwks forceRefresh =>
      simp only [World.step] at stepped
      split at stepped
      · rename_i cache fresh
        obtain rfl := Option.some.inj stepped
        exact .hit fresh
      · rename_i stale
        split at stepped
        · rename_i free
          obtain rfl := Option.some.inj stepped
          -- no await between the two checks, so the second one fails too
          have again : ∀ calls, ({ w with calls } : World).fresh ttl forceRefresh = none :=
            fun _ => stale
          simp only [World.enter, again, List.set_append_right _ _ (Nat.le_refl _), Nat.sub_self,
            List.set_cons_zero]
          exact .started stale free.1 free.2
        · rename_i busy
          obtain rfl := Option.some.inj stepped
          exact .queued stale busy
  | resume =>
      simp only [World.step] at stepped
      split at stepped
      · rename_i i rest free first
        split at stepped
        · rename_i forceRefresh refresh waiting
          obtain rfl := Option.some.inj stepped
          unfold World.enter
          split
          · rename_i cache fresh
            exact .resumedHit free first waiting fresh
          · rename_i stale
            exact .resumedStarted free first waiting stale
        · cases stepped
      · cases stepped
  | fetched outcome =>
      simp only [World.step] at stepped
      split at stepped
      · cases stepped
      · rename_i i held
        split at stepped
        · rename_i forceRefresh cache fetching
          obtain rfl := Option.some.inj stepped
          unfold World.finish
          cases outcome with
          | error exc => exact .gaveUp held fetching (.inl rfl)
          | ok keys =>
              cases indexed : buildCache w.clock keys with
              | ok built =>
                  simp only [Except.bind, indexed, Except.mapError]
                  exact .refreshed held fetching indexed
              | error inner =>
                  simp only [Except.bind, indexed, Except.mapError]
                  exact .gaveUp held fetching (.inr ⟨keys, inner, rfl, indexed, rfl⟩)
        · cases stepped
  | cancel i =>
      simp only [World.step] at stepped
      split at stepped
      · rename_i forceRefresh refresh waiting
        obtain rfl := Option.some.inj stepped
        exact .dequeued waiting
      · rename_i forceRefresh cache fetching
        obtain rfl := Option.some.inj stepped
        exact .aborted fetching
      · cases stepped

end Steps

/-! ## The lock and the cache -/

/-- What holds between the steps of any run. -/
structure World.Sound (w : World) : Prop where
  held : ∀ i ∈ w.holder, ∃ forceRefresh, w.calls[i]? = some (.fetching forceRefresh w.cache)
  past : ∀ cache ∈ w.cache, cache.fetchedAt ≤ w.clock

section Facts

variable {ttl : Int} {w t : World} {a : Action}

theorem fresh_eq_some {forceRefresh : Bool} {cache : JwksCache}
    (fresh : w.fresh ttl forceRefresh = some cache) :
    w.cache = some cache ∧ forceRefresh = false ∧ w.clock - cache.fetchedAt < ttl := by
  obtain ⟨stored, test⟩ := Option.filter_eq_some_iff.1 fresh
  simpa [stored] using test

theorem fetchedAt_buildCache {monotonic : Rat} {keys : Json} {built : JwksCache}
    (indexed : buildCache monotonic keys = .ok built) : built.fetchedAt = monotonic := by
  unfold buildCache at indexed
  obtain ⟨items, -, indexed⟩ := bind_eq_ok indexed
  obtain ⟨keysByKid, -, indexed⟩ := bind_eq_ok indexed
  obtain rfl := Except.ok.inj indexed
  rfl

/-- A call that waits is not the one that fetches. -/
theorem getElem_set_of_waiting {calls : List Call} {i j : Nat} {new : Call} {force : Bool}
    {refresh : Option Nat} {forceRefresh : Bool} {cache : Option JwksCache}
    (waiting : calls[i]? = some (.waiting force refresh))
    (fetching : calls[j]? = some (.fetching forceRefresh cache)) :
    (calls.set i new)[j]? = some (.fetching forceRefresh cache) := by
  have apart : i ≠ j := by
    rintro rfl
    rw [waiting] at fetching
    cases fetching
  rw [List.getElem?_set_ne apart]
  exact fetching

theorem sound_effect (sound : w.Sound) (effect : Effect ttl w a t) : t.Sound := by
  cases effect with
  | ticked forward =>
      exact ⟨sound.held, fun cache stored => (sound.past cache stored).trans forward⟩
  | hit fresh =>
      refine ⟨fun i held => ?_, sound.past⟩
      obtain ⟨forceRefresh, fetching⟩ := sound.held i held
      exact ⟨forceRefresh, get_joined fetching⟩
  | queued stale busy =>
      refine ⟨fun i held => ?_, sound.past⟩
      obtain ⟨forceRefresh, fetching⟩ := sound.held i held
      exact ⟨forceRefresh, get_joined fetching⟩
  | @started forceRefresh stale free alone =>
      refine ⟨fun i held => ⟨forceRefresh, ?_⟩, sound.past⟩
      obtain rfl := Option.some.inj held
      exact List.getElem?_concat_length
  | resumedHit free first waiting fresh =>
      refine ⟨fun i held => ?_, sound.past⟩
      rw [free] at held
      cases held
  | @resumedStarted i rest forceRefresh refresh free first waiting stale =>
      refine ⟨fun j held => ⟨forceRefresh, ?_⟩, sound.past⟩
      obtain rfl := Option.some.inj held
      exact get_moved waiting
  | refreshed held fetching indexed =>
      refine ⟨fun i held => absurd held (Option.not_mem_none i), fun cache stored => ?_⟩
      obtain rfl := Option.some.inj stored
      exact (fetchedAt_buildCache indexed).le
  | gaveUp held fetching failed =>
      exact ⟨fun i held => absurd held (Option.not_mem_none i), sound.past⟩
  | dequeued waiting =>
      refine ⟨fun j held => ?_, sound.past⟩
      obtain ⟨forceRefresh, fetching⟩ := sound.held j held
      exact ⟨forceRefresh, getElem_set_of_waiting waiting fetching⟩
  | aborted fetching => exact ⟨fun i held => absurd held (Option.not_mem_none i), sound.past⟩

end Facts

/-! ## Answers -/

/-- The call `i` gets its answer in the step from `w` to `t`. -/
def Answered (w t : World) (i : Nat) (forceRefresh : Bool)
    (answer : Except Raised JwksCache) : Prop :=
  w.calls[i]? ≠ some (.returned forceRefresh answer) ∧
    t.calls[i]? = some (.returned forceRefresh answer)

/-- Where an answer comes from: the fresh cache, the call's own fetch, or its failure. -/
inductive Origin (ttl : Int) (w : World) (a : Action) (t : World) (i : Nat)
    (forceRefresh : Bool) : Except Raised JwksCache → Prop
  | cached {cache : JwksCache} (fresh : w.fresh ttl forceRefresh = some cache)
      (idle : ∀ outcome, a ≠ .fetched outcome) : Origin ttl w a t i forceRefresh (.ok cache)
  | built {cache : JwksCache} {keys : Json} (held : w.holder = some i)
      (is : a = .fetched (.ok keys)) (indexed : buildCache w.clock keys = .ok cache)
      (stored : t.cache = some cache) : Origin ttl w a t i forceRefresh (.ok cache)
  | degraded {exc : Raised} {outcome : Except Raised Json} (held : w.holder = some i)
      (is : a = .fetched outcome)
      (failed : outcome = .error exc ∨ ∃ keys inner, outcome = .ok keys ∧
        buildCache w.clock keys = .error inner ∧ exc = .python inner) :
      Origin ttl w a t i forceRefresh (degrade ttl w.clock w.cache exc)

section Answers

variable {ttl : Int} {w t : World} {a : Action} {i : Nat} {forceRefresh : Bool}
  {answer : Except Raised JwksCache}

theorem answered_append {new : Call} (answered : Answered w t i forceRefresh answer)
    (calls : t.calls = w.calls ++ [new]) :
    i = w.calls.length ∧ new = .returned forceRefresh answer := by
  obtain ⟨before, after⟩ := answered
  rw [calls] at after
  rcases joined_cases after with is | ⟨last, is⟩
  · exact absurd is before
  · exact ⟨last, is.symm⟩

theorem answered_set {j : Nat} {new : Call} (answered : Answered w t i forceRefresh answer)
    (calls : t.calls = w.calls.set j new) : i = j ∧ new = .returned forceRefresh answer := by
  obtain ⟨before, after⟩ := answered
  rw [calls] at after
  rcases moved_cases after with ⟨-, is⟩ | ⟨same, is⟩
  · exact absurd is before
  · exact ⟨same, is.symm⟩

/-- The fetching call got its snapshot from the cache that is still stored. -/
theorem snapshot_eq {cache : Option JwksCache} (sound : w.Sound) (held : w.holder = some i)
    (fetching : w.calls[i]? = some (.fetching forceRefresh cache)) : cache = w.cache := by
  obtain ⟨force, is⟩ := sound.held i held
  rw [fetching] at is
  cases is
  rfl

theorem origin_of_answered (sound : w.Sound) (effect : Effect ttl w a t)
    (answered : Answered w t i forceRefresh answer) :
    t.clock = w.clock ∧ Origin ttl w a t i forceRefresh answer := by
  cases effect with
  | ticked forward => exact absurd answered.2 answered.1
  | hit fresh =>
      obtain ⟨-, is⟩ := answered_append answered rfl
      cases is
      exact ⟨rfl, .cached fresh nofun⟩
  | queued stale busy => cases (answered_append answered rfl).2
  | started stale free alone => cases (answered_append answered rfl).2
  | resumedHit free first waiting fresh =>
      obtain ⟨rfl, is⟩ := answered_set answered rfl
      cases is
      exact ⟨rfl, .cached fresh nofun⟩
  | resumedStarted free first waiting stale => cases (answered_set answered rfl).2
  | refreshed held fetching indexed =>
      obtain ⟨rfl, is⟩ := answered_set answered rfl
      cases is
      exact ⟨rfl, .built held rfl indexed rfl⟩
  | gaveUp held fetching failed =>
      obtain ⟨rfl, is⟩ := answered_set answered rfl
      obtain rfl := snapshot_eq sound held fetching
      cases is
      exact ⟨rfl, .degraded held rfl failed⟩
  | dequeued waiting => cases (answered_set answered rfl).2
  | aborted fetching => cases (answered_set answered rfl).2

end Answers

end Lcp.Jwks
