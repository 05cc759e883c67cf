/-
# Security.Provider -- one refresh and one validation, down to the provider's answers

`_do_fetch_jwks` makes two requests: the discovery document names a `jwks_uri`, and the
document there carries the `keys`.  Both answers are the provider's, so a request may
fail, come back with any status, and carry any body.

A call of `_get_jwks` looks at the global cache twice and at the clock three times; other
calls run in between, so its `Visit` lists what it finds each time.  `getJwks` and
`validateOidcJwt` are the two functions from their first line to their last.  The machines
of `Jwks` and `OidcTokens` take the same course, one await point at a time.
-/
import Mathlib.Data.List.DropRight
import Lcp.Security.OidcTokens

namespace Lcp.Provider

open Theory Calls Security OidcTokens
open Jwks (Raised JwksCache buildCache degrade)

set_option autoImplicit false

/-! ## The requests -/

/-- What a `client.get` comes back with. -/
inductive Answer where
  /-- An `httpx.HTTPError`: no connection, a timeout, a broken response. -/
  | failed (message : String)
  /-- Any other exception, such as the `httpx.InvalidURL` of a malformed `jwks_uri`. -/
  | raised (exc : PyException)
  /-- A response, with the message of its `raise_for_status` and the value of its `json()`. -/
  | response (statusCode : Nat) (message : String) (body : Except PyException Json)

/-- The class 2xx. -/
def isSuccess (statusCode : Nat) : Prop := 200 ≤ statusCode ∧ statusCode < 300

instance (statusCode : Nat) : Decidable (isSuccess statusCode) :=
  inferInstanceAs (Decidable (_ ∧ _))

/-- The request, `raise_for_status()` and `json()`. -/
def Answer.json : Answer → Except Raised Json
  | .failed message => .error (.http message)
  | .raised exc => .error (.python exc)
  | .response statusCode message body =>
      if isSuccess statusCode then body.mapError .python else .error (.http message)

/-- The identity provider during one refresh: its answers, by URL. -/
structure IdentityProvider where
  discovery : String → Answer
  jwks : String → Answer

section Refresh

variable (settings : Settings) (provider : IdentityProvider)

def discoveryUrl : String :=
  String.ofList (settings.oidcIssuer.toList.rdropWhile (· == '/')) ++
    "/.well-known/openid-configuration"

/-- The test of `jwks_uri.startswith("https://")`. -/
def isHttps (uri : String) : Bool := "https://".toList.isPrefixOf uri.toList

/-- The value of `json()["keys"]`, absent keys being no keys. -/
def keysOf : Json → Except Raised Json
  | .dict document => .ok (Json.getOr document "keys" (.list []))
  | value =>
      .error (.python (.attributeError
        (pyRepr value.typeName ++ " object has no attribute 'get'")))

/-- The check of the `jwks_uri`. -/
def secureUri : Json → Except Raised String
  | .str uri =>
      if isHttps uri then .ok uri
      else .error (.authentication
        ⟨"OIDC jwks_uri must use https:// (got " ++ pyRepr uri ++ ")"⟩)
  | value =>
      .error (.python (.attributeError
        (pyRepr value.typeName ++ " object has no attribute 'startswith'")))

/-- Network round-trip: discovery, `jwks_uri`, JWK list. -/
def doFetchJwks : Except Raised Json := do
  let discovered ← (provider.discovery (discoveryUrl settings)).json
  let jwksUri ← (discovered.subscript "jwks_uri").mapError .python
  let uri ← secureUri jwksUri
  let document ← (provider.jwks uri).json
  keysOf document

/-! ## `_get_jwks` -/

/-- What a call of `_get_jwks` finds. -/
structure Visit where
  /-- The global cache and the clock before the lock. -/
  entered : Option JwksCache
  enteredAt : Rat
  /-- The global cache and the clock under the lock. -/
  locked : Option JwksCache
  lockedAt : Rat
  provider : IdentityProvider
  /-- The clock when the fetch is over. -/
  answeredAt : Rat

/-- The answer of a call, and what it assigns to the global cache, if anything. -/
structure Outcome where
  answer : Except Raised JwksCache
  assigned : Option JwksCache := none

variable (ttl : Int) (forceRefresh : Bool)

/-- The test made before the lock and under it. -/
def fresh (monotonic : Rat) (cache : Option JwksCache) : Option JwksCache :=
  cache.filter fun cache => !forceRefresh && monotonic - cache.fetchedAt < ttl

/-- The `try` statement. -/
def refresh (cache : Option JwksCache) (monotonic : Rat) : Outcome :=
  match (doFetchJwks settings provider).bind fun keys =>
      (buildCache monotonic keys).mapError .python with
  | .ok built => { answer := .ok built, assigned := some built }
  | .error exc => { answer := degrade ttl monotonic cache exc }

/-- Return JWKs, refreshing under the lock when the TTL has elapsed. -/
def getJwks (visit : Visit) : Outcome :=
  match fresh ttl forceRefresh visit.enteredAt visit.entered with
  | some cache => { answer := .ok cache }
  | none =>
      match fresh ttl forceRefresh visit.lockedAt visit.locked with
      | some cache => { answer := .ok cache }
      | none => refresh settings visit.provider ttl visit.locked visit.answeredAt

end Refresh

/-! ## `validate_oidc_jwt` -/

/-- Everything around one validation: what its two calls of `_get_jwks` find, the time of
`jwt.decode`, and the answers of the denylist. -/
structure Surroundings where
  first : Visit
  /-- The forced refresh, where there is one. -/
  second : Visit
  now : Rat
  isDenied : String → Bool

section Validate

variable {Key : Type} (ctx : Context Key) (ttl : Int)

/-- The JWK of the token, after one forced refresh at most. -/
def findJwk (kid : String) (around : Surroundings) : Except Raised JsonDict := do
  let cache ← (getJwks ctx.settings ttl false around.first).answer
  match cache.keysByKid.lookup kid with
  | some jwk => return jwk
  | none =>
      let cache ← (getJwks ctx.settings ttl true around.second).answer
      match cache.keysByKid.lookup kid with
      | some jwk => return jwk
      | none => throw (.authentication ⟨"Signing key not found in JWKs"⟩)

/-- The replay check: a `jti` that is not denied is recorded until its expiry. -/
def spendJti (claims : JsonDict) (isDenied : String → Bool) : Except Raised JsonDict :=
  match presentedJti claims with
  | none => .ok claims
  | some jti =>
      if isDenied jti then
        .error (.authentication ⟨"JWT ID (jti) has already been used (replay detected)"⟩)
      else
        match expiry claims with
        | .ok _ => .ok claims
        | .error exc => .error (.python exc)

/-- Validate an OIDC JWT and return its claims. -/
def validateOidcJwt (token : String) (around : Surroundings) : Except Raised JsonDict := do
  let kid ← readHeader ctx token
  let jwk ← findJwk ctx ttl kid around
  let claims ← claimsUnder ctx around.now token jwk
  spendJti claims around.isDenied

end Validate

/-! ## The machine of `_get_jwks` -/

section Refreshes

variable (settings : Settings) (provider : IdentityProvider) (ttl : Int) (forceRefresh : Bool)

/-- The end of a fetch in the machine is the end of the `try` statement. -/
theorem finish_eq_refresh (w : Jwks.World) (cache : Option JwksCache) {i : Nat}
    (here : i < w.calls.length) :
    (w.finish ttl i forceRefresh cache (doFetchJwks settings provider)).cache =
        (refresh settings provider ttl cache w.clock).assigned.or w.cache ∧
      (w.finish ttl i forceRefresh cache (doFetchJwks settings provider)).calls[i]? =
        some (.returned forceRefresh (refresh settings provider ttl cache w.clock).answer) := by
  unfold Jwks.World.finish refresh
  cases (doFetchJwks settings provider).bind fun keys =>
      (buildCache w.clock keys).mapError Raised.python with
  | ok built => exact ⟨rfl, List.getElem?_set_self here⟩
  | error exc => exact ⟨rfl, List.getElem?_set_self here⟩

/-- A call that finds the lock free runs to its end as `getJwks` does. -/
theorem getJwks_runs {w : Jwks.World} {later : Rat} (free : w.holder = none)
    (alone : w.waiters = []) (forward : w.clock ≤ later) :
    ∃ actions t, (Jwks.jwks ttl).run w actions = some t ∧
      t.cache = (getJwks settings ttl forceRefresh
        ⟨w.cache, w.clock, w.cache, w.clock, provider, later⟩).assigned.or w.cache ∧
      t.calls[w.calls.length]? = some (.returned forceRefresh (getJwks settings ttl forceRefresh
        ⟨w.cache, w.clock, w.cache, w.clock, provider, later⟩).answer) := by
  cases is : w.fresh ttl forceRefresh with
  | some cache =>
      have hit : fresh ttl forceRefresh w.clock w.cache = some cache := is
      refine ⟨[.getJwks forceRefresh],
        { w with calls := w.calls ++ [.returned forceRefresh (.ok cache)] }, ?_, ?_, ?_⟩
      · simp only [Machine.run_cons, Machine.run_nil, Jwks.jwks, Jwks.World.step, is,
          Option.bind_some]
      · simp only [getJwks, hit, Option.none_or]
      · simp only [getJwks, hit, List.getElem?_concat_length]
  | none =>
      have stale : fresh ttl forceRefresh w.clock w.cache = none := is
      let started : Jwks.World :=
        { w with
          holder := some w.calls.length
          calls := w.calls ++ [.fetching forceRefresh w.cache] }
      let fetching : Jwks.World := { started with clock := later }
      have starts : Jwks.World.step ttl w (.getJwks forceRefresh) = some started := by
        have again : ∀ calls, ({ w with calls } : Jwks.World).fresh ttl forceRefresh = none :=
          fun _ => is
        simp only [Jwks.World.step, is]
        rw [if_pos ⟨free, alone⟩]
        simp only [Jwks.World.enter, again, List.set_append_right _ _ (Nat.le_refl _),
          Nat.sub_self, List.set_cons_zero, started]
      have ticks : Jwks.World.step ttl started (.tick later) = some fetching := if_pos forward
      have called : fetching.calls[w.calls.length]? = some (.fetching forceRefresh w.cache) :=
        List.getElem?_concat_length
      have ends : Jwks.World.step ttl fetching (.fetched (doFetchJwks settings provider)) =
          some (fetching.finish ttl w.calls.length forceRefresh w.cache
            (doFetchJwks settings provider)) := by
        simp only [Jwks.World.step, called, fetching, started]
      have here : w.calls.length < fetching.calls.length := by simp [fetching, started]
      obtain ⟨cache, answered⟩ :=
        finish_eq_refresh settings provider ttl forceRefresh fetching w.cache here
      refine ⟨[.getJwks forceRefresh, .tick later, .fetched (doFetchJwks settings provider)],
        fetching.finish ttl w.calls.length forceRefresh w.cache (doFetchJwks settings provider),
        ?_, ?_, ?_⟩
      · simp only [Machine.run_cons, Machine.run_nil, Jwks.jwks, starts, ticks, ends,
          Option.bind_some]
      · simp only [getJwks, stale]
        exact cache
      · simp only [getJwks, stale]
        exact answered

end Refreshes

/-! ## The machine of `validate_oidc_jwt` -/

/-- A validation that is over. -/
def concluded : Except Raised JsonDict → Validation
  | .ok claims => .returned claims
  | .error exc => .raised exc

section Validations

variable {Key : Type} {ctx : Context Key} {w t : World} {i : Nat}
  {outcome : Except Raised JsonDict}

variable (ctx) in
/-- Left alone, the call `i` ends with this outcome. -/
def Comes (w : World) (i : Nat) (outcome : Except Raised JsonDict) : Prop :=
  ∃ actions t, (validations ctx).run w actions = some t ∧
    t.calls[i]? = some (concluded outcome)

theorem Comes.over (over_ : w.calls[i]? = some (concluded outcome)) : Comes ctx w i outcome :=
  ⟨[], w, rfl, over_⟩

theorem Comes.step {a : Action} (stepped : World.step ctx w a = some t)
    (comes : Comes ctx t i outcome) : Comes ctx w i outcome := by
  obtain ⟨actions, last, ran, is⟩ := comes
  refine ⟨a :: actions, last, ?_, is⟩
  simp only [Machine.run_cons, validations, stepped, Option.bind_some]
  exact ran

theorem comes_denying (claims : JsonDict) (jti : String) (exp : Int)
    (here : w.calls[i]? = some (.denying claims jti exp)) : Comes ctx w i (.ok claims) := by
  have recorded : World.step ctx w (.deny i) =
      some { w.move i (.returned claims) with denied := (jti, exp) :: w.denied } := by
    simp only [World.step, here]
  exact .step recorded (.over (get_moved here))

theorem comes_checking {claims : JsonDict} {jti : String}
    (here : w.calls[i]? = some (.checking claims jti))
    (presented : presentedJti claims = some jti) :
    Comes ctx w i (spendJti claims w.isDenied) := by
  have asked : World.step ctx w (.isDenied i) =
      some (w.move i (checked claims jti (w.isDenied jti))) := by
    simp only [World.step, here]
  have moved : (w.move i (checked claims jti (w.isDenied jti))).calls[i]? =
      some (checked claims jti (w.isDenied jti)) := get_moved here
  refine .step asked ?_
  simp only [spendJti, presented]
  split
  · rename_i denied
    refine .over (moved.trans ?_)
    simp only [checked, denied, if_true, concluded]
  · rename_i unused
    split
    · rename_i exp is
      refine comes_denying claims jti exp (moved.trans ?_)
      simp only [checked, if_neg unused, is]
    · rename_i exc is
      refine .over (moved.trans ?_)
      simp only [checked, if_neg unused, is, concluded]

/-- From the JWK to the end. -/
theorem comes_decoded {now : Rat} {token : String} {jwk : JsonDict}
    (here : w.calls[i]? = some (decoded ctx now token jwk)) :
    Comes ctx w i (claimsUnder ctx now token jwk >>= fun claims =>
      spendJti claims w.isDenied) := by
  unfold decoded at here
  cases is : claimsUnder ctx now token jwk with
  | error exc =>
      rw [is] at here
      exact .over here
  | ok claims =>
      rw [is] at here
      change Comes ctx w i (spendJti claims w.isDenied)
      cases presented : presentedJti claims with
      | some jti =>
          simp only [presented] at here
          exact comes_checking here presented
      | none =>
          simp only [presented] at here
          refine .over ?_
          simp only [spendJti, presented, concluded]
          exact here

/-- From an answer of `_get_jwks` that lists the token's `kid`. -/
theorem comes_found {token kid : String} {forceRefresh : Bool} {cache : JwksCache}
    {jwk : JsonDict} {now : Rat} (here : w.calls[i]? = some (.fetching token kid forceRefresh))
    (found : cache.keysByKid.lookup kid = some jwk) :
    Comes ctx w i (claimsUnder ctx now token jwk >>= fun claims =>
      spendJti claims w.isDenied) := by
  have answered : World.step ctx w (.jwks i now (.ok cache)) =
      some (w.move i (decoded ctx now token jwk)) := by
    simp only [World.step, here, withJwks, found]
  exact .step answered (comes_decoded (get_moved here))

/-- From an answer of `_get_jwks` that is an exception. -/
theorem comes_raised {token kid : String} {forceRefresh : Bool} {exc : Raised}
    (here : w.calls[i]? = some (.fetching token kid forceRefresh)) :
    Comes ctx w i (.error exc) := by
  have answered : World.step ctx w (.jwks i 0 (.error exc)) =
      some (w.move i (.raised exc)) := by
    simp only [World.step, here, withJwks]
  exact .step answered (.over (get_moved here))

/-- From an answer of the forced refresh that does not list the token's `kid`. -/
theorem comes_missing {token kid : String} {cache : JwksCache}
    (here : w.calls[i]? = some (.fetching token kid true))
    (missing : cache.keysByKid.lookup kid = none) :
    Comes ctx w i (.error (.authentication ⟨"Signing key not found in JWKs"⟩)) := by
  have answered : World.step ctx w (.jwks i 0 (.ok cache)) =
      some (w.move i (.raised (.authentication ⟨"Signing key not found in JWKs"⟩))) := by
    simp only [World.step, here, withJwks, missing, if_true]
  exact .step answered (.over (get_moved here))

/-- From the header to the end. -/
theorem comes_fetching {ttl : Int} {token kid : String} {around : Surroundings}
    (asks : around.isDenied = w.isDenied)
    (here : w.calls[i]? = some (.fetching token kid false)) :
    Comes ctx w i (findJwk ctx ttl kid around >>= fun jwk =>
      claimsUnder ctx around.now token jwk >>= fun claims =>
        spendJti claims around.isDenied) := by
  rw [asks]
  unfold findJwk
  cases first : (getJwks ctx.settings ttl false around.first).answer with
  | error exc => exact comes_raised here
  | ok cache =>
      simp only [bind, Except.bind]
      cases found : cache.keysByKid.lookup kid with
      | some jwk => exact comes_found here found
      | none =>
          have forced : World.step ctx w (.jwks i 0 (.ok cache)) =
              some (w.move i (.fetching token kid true)) := by
            simp only [World.step, here, withJwks, found]
            rfl
          have moved : (w.move i (.fetching token kid true)).calls[i]? =
              some (.fetching token kid true) := get_moved here
          refine .step forced ?_
          cases (getJwks ctx.settings ttl true around.second).answer with
          | error exc => exact comes_raised moved
          | ok cache =>
              cases found : cache.keysByKid.lookup kid with
              | some jwk =>
                  simp only [found]
                  exact comes_found moved found
              | none =>
                  simp only [found]
                  exact comes_missing moved found

/-- A validation runs to its end as `validateOidcJwt` does. -/
theorem validateOidcJwt_runs (ttl : Int) (token : String) {around : Surroundings}
    (asks : around.isDenied = w.isDenied) :
    Comes ctx w w.calls.length (validateOidcJwt ctx ttl token around) := by
  have started : World.step ctx w (.validate token) =
      some { w with calls := w.calls ++ [start ctx token] } := rfl
  refine .step started ?_
  have here : (w.calls ++ [start ctx token])[w.calls.length]? = some (start ctx token) :=
    List.getElem?_concat_length
  unfold validateOidcJwt
  cases is : readHeader ctx token with
  | error exc =>
      have refused : start ctx token = .raised exc := by simp only [start, is]
      exact .over (here.trans (congrArg some refused))
  | ok kid =>
      have waits : start ctx token = .fetching token kid false := by simp only [start, is]
      exact comes_fetching asks (here.trans (congrArg some waits))

end Validations

end Lcp.Provider
