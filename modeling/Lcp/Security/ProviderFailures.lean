/-
# Security.ProviderFailures -- which failures of the provider are degraded

`_get_jwks` serves the last good cache when its fetch ends in an `httpx.HTTPError` or in
its own `AuthenticationError`.  A body that is not JSON, a document of another shape and
a JWK of another type end in other exceptions: they reach the caller of
`validate_oidc_jwt`, and no cache is served.  A document without `keys`, or with keys
that do not load, ends in no exception at all: it replaces the cache.
-/
import Lcp.Security.Provider
import Lcp.Security.Replay

namespace Lcp.ProviderFailures

open Theory Security OidcTokens Provider
open Jwks (Raised JwksCache buildCache degrade indexKey)

set_option autoImplicit false

/-! ## What the provider answers -/

/-- The request ends in an `httpx.HTTPError`. -/
inductive Fails : Answer → Prop
  | failed {message : String} : Fails (.failed message)
  | refused {statusCode : Nat} {message : String} {body : Except PyException Json}
      (refused : ¬ isSuccess statusCode) : Fails (.response statusCode message body)

/-- The request brings this document. -/
inductive Brings (document : Json) : Answer → Prop
  | ok {statusCode : Nat} {message : String} (success : isSuccess statusCode) :
      Brings document (.response statusCode message (.ok document))

section Answers

variable (settings : Settings) (provider : IdentityProvider)

/-- The discovery document names this `jwks_uri`. -/
def Names (uri : String) : Prop :=
  ∃ document, Brings (.dict document) (provider.discovery (discoveryUrl settings)) ∧
    Json.get? document "jwks_uri" = some (.str uri)

/-- The failures that the handler of `_get_jwks` is written for. -/
inductive Failed : Prop
  | discovery (fails : Fails (provider.discovery (discoveryUrl settings)))
  | insecure {uri : String} (names : Names settings provider uri) (plain : isHttps uri = false)
  | jwks {uri : String} (names : Names settings provider uri) (secure : isHttps uri = true)
      (fails : Fails (provider.jwks uri))

/-- Both requests succeed, and this is the second document. -/
def Serves (document : JsonDict) : Prop :=
  ∃ uri, Names settings provider uri ∧ isHttps uri = true ∧
    Brings (.dict document) (provider.jwks uri)

/-- The values of `keys` that `_build_cache` runs through: objects only. -/
def Indexable (keys : Json) : Prop :=
  ∃ items, keys.iterate = .ok items ∧ ∀ item ∈ items, ∃ jwk, item = .dict jwk

/-- A failure of the handler's, or a document that can be indexed. -/
def Handled : Prop :=
  Failed settings provider ∨ ∃ document, Serves settings provider document ∧
    Indexable (Json.getOr document "keys" (.list []))

end Answers

section Caught

variable {α β : Type} {first : Except Raised α} {next : α → Except Raised β}

end Caught

/-! ## One fetch -/

section Fetch

variable {settings : Settings} {provider : IdentityProvider} {answer : Answer}

end Fetch

/-! ## One call of `_get_jwks` -/

section Calls

variable (settings : Settings) (ttl : Int) (forceRefresh : Bool) (visit : Visit)

/-- Neither look at the cache answers the call. -/
def Asks : Prop :=
  fresh ttl forceRefresh visit.enteredAt visit.entered = none ∧
    fresh ttl forceRefresh visit.lockedAt visit.locked = none

/-- The cache that a call is to answer with: a fresh one, the one of the document that is
served, or the last one for a failed refresh. -/
inductive Offers : JwksCache → Prop
  | entered {cache : JwksCache}
      (hit : fresh ttl forceRefresh visit.enteredAt visit.entered = some cache) : Offers cache
  | locked {cache : JwksCache}
      (missed : fresh ttl forceRefresh visit.enteredAt visit.entered = none)
      (hit : fresh ttl forceRefresh visit.lockedAt visit.locked = some cache) : Offers cache
  | served {document : JsonDict} {cache : JwksCache} (asks : Asks ttl forceRefresh visit)
      (serves : Serves settings visit.provider document)
      (indexed : buildCache visit.answeredAt (Json.getOr document "keys" (.list [])) = .ok cache) :
      Offers cache
  | stale {cache : JwksCache} (asks : Asks ttl forceRefresh visit)
      (failed : Failed settings visit.provider) (last : visit.locked = some cache)
      (young : visit.answeredAt - cache.fetchedAt < 2 * ttl) : Offers cache

end Calls

section Refreshes

variable {settings : Settings} {provider : IdentityProvider} {ttl : Int} {forceRefresh : Bool}
  {visit : Visit} {monotonic : Rat} {last : Option JwksCache} {cache : JwksCache}

theorem degrade_eq_ok {exc : Raised} :
    degrade ttl monotonic last exc = .ok cache ↔
      exc.caught = true ∧ last = some cache ∧ monotonic - cache.fetchedAt < 2 * ttl := by
  unfold degrade
  split
  · rename_i caught
    have filtered : last.filter (fun cache => monotonic - cache.fetchedAt < 2 * ttl) = some cache ↔
        last = some cache ∧ monotonic - cache.fetchedAt < 2 * ttl := by
      rw [Option.filter_eq_some_iff, decide_eq_true_iff]
    simp only [caught, true_and, ← filtered]
    split
    · rename_i young is
      rw [is]
      exact ⟨fun same => congrArg some (Except.ok.inj same),
        fun same => congrArg Except.ok (Option.some.inj same)⟩
    · rename_i is
      rw [is]
      exact iff_of_false nofun nofun
  · rename_i escaping
    exact iff_of_false nofun fun all => escaping all.1

end Refreshes

/-! ## One validation -/

section Validations

variable {Key : Type} (ctx : Context Key) (ttl : Int)

/-- The JWK under the token's `kid`, before or after the forced refresh. -/
inductive Listed (kid : String) (around : Surroundings) (jwk : JsonDict) : Prop
  | first {cache : JwksCache} (offers : Offers ctx.settings ttl false around.first cache)
      (found : cache.keysByKid.lookup kid = some jwk)
  | second {before cache : JwksCache} (offered : Offers ctx.settings ttl false around.first before)
      (missing : before.keysByKid.lookup kid = none)
      (offers : Offers ctx.settings ttl true around.second cache)
      (found : cache.keysByKid.lookup kid = some jwk)

/-- The provider is handled in each refresh that the validation makes, and the JWK of the
token does not make PyJWT raise another class than the three that are caught. -/
structure Covered (kid : String) (around : Surroundings) : Prop where
  first : Asks ttl false around.first → Handled ctx.settings around.first.provider
  second : ∀ cache, Offers ctx.settings ttl false around.first cache →
    cache.keysByKid.lookup kid = none → Handled ctx.settings around.second.provider
  loads : ∀ jwk, Listed ctx ttl kid around jwk → ∀ exc, ctx.signingKey jwk ≠ .error (.other exc)

end Validations

section Escapes

variable {Key : Type} {ctx : Context Key} {ttl : Int} {kid : String} {around : Surroundings}

end Escapes

/-! ## The promise -/

private def lastGood : JwksCache := ⟨[("2026-01", signing)], 0, .list [.dict signing]⟩

/-- A refresh under the default ttl of an hour, 4000 seconds after the last one. -/
private def refreshing (provider : IdentityProvider) : Visit :=
  ⟨some lastGood, 4000, some lastGood, 4000, provider, 4001⟩

private def down : IdentityProvider where
  discovery _ := .failed "All connection attempts failed"
  jwks _ := .failed "All connection attempts failed"

private def keyless : IdentityProvider where
  discovery _ := .response 200 "" (.ok (.dict [("jwks_uri", .str "https://idp.example.com/jwks")]))
  jwks _ := .response 200 "" (.ok (.dict []))

end Lcp.ProviderFailures
