/-
# Api.Surfaces -- where a call gets its principal

Three surfaces bind the context variable `_current_tenant`: the REST middleware for the
request of a validated token, the gRPC interceptor for the call of a client certificate, and
`with_system_context` for a daemon.  What runs inside is any program that binds nothing.

* `oidcAuthMiddleware`, `bindThenCall`, `withSystemContext` -- the surfaces.
* `answer` -- what a program is told: the outcome of a validation, and what a statement does
  behind the row-level security hook under the principal of that moment.
* `eventLoop` -- requests, calls and daemons on one event loop.

The middleware is pure ASGI, so it binds in the task that runs the route.  A streaming handler
is a generator: it is made inside the binding and iterated, if at all, after it.
-/
import Lcp.Db.RlsWrites
import Lcp.Security.Certificates
import Lcp.Security.Provider
import Lcp.Theory.DynamicScope

namespace Lcp.Api

open Theory DynamicScope Certificates OidcTokens Provider Rls
open Jwks (Raised)

set_option autoImplicit false

/-! ## What a program asks for -/

inductive StatusCode where
  | unauthenticated
  | internal
deriving DecidableEq

/-- An awaited call out of a task. -/
inductive Demand where
  | validateOidcJwt (token : String)
  | read (query : Query Row)
  /-- An UPDATE or DELETE, with the other tables it names. -/
  | write (others : List (From Row)) (stmt : Statement)
  /-- A response with this detail in its body. -/
  | send (statusCode : Nat) (detail : String)
  | abort (code : StatusCode) (details : String)

inductive Reply where
  | claims (outcome : Except Raised JsonDict)
  | rows (outcome : Except RlsError (List Row))
  | written (outcome : Except RlsError (String → List Row))
  | sent

/-- What the world is like when it answers. -/
structure Moment where
  around : Surroundings
  db : String → List Row

/-- A coroutine under the context variable. -/
abbrev Coroutine := Program TenantPrincipal Demand Reply Raised

abbrev TenantCall := DynamicScope.Call TenantPrincipal Demand Moment

/-- What runs inside a surface: routes, servicers and passes bind no principal. -/
structure Handler where
  code : Coroutine
  plain : code.Plain

section Answers

variable {Key : Type} (ctx : Context Key) (ttl : Int) (metadata : MetaData)

def answer (moment : Moment) (principal : Option TenantPrincipal) : Demand → Reply
  | .validateOidcJwt token => .claims (Provider.validateOidcJwt ctx ttl token moment.around)
  | .read query => .rows (executeRead metadata principal query moment.db)
  | .write others stmt => .written (executeWrite metadata principal others stmt moment.db)
  | .send .. | .abort .. => .sent

end Answers

/-! ## REST -/

/-- The ASGI scope, as far as the middleware reads it. -/
structure Scope where
  type : String
  path : String := ""
  headers : List (List UInt8 × List UInt8) := []

def PUBLIC_PREFIXES : List String :=
  ["/healthz", "/livez", "/readyz", "/metrics", "/openapi.json", "/docs", "/redoc"]

/-- The path bypasses authentication. -/
def isPublic (path : String) : Bool :=
  PUBLIC_PREFIXES.any fun p => path = p || (p ++ "/").toList.isPrefixOf path.toList

/-- The bytes of an ASCII literal. -/
def asciiBytes (text : String) : List UInt8 := text.toList.map fun c => c.toNat.toUInt8

/-- The value of `raw.decode("latin-1")`. -/
def latin1 (raw : List UInt8) : List Char := raw.map fun byte => Char.ofNat byte.toNat

/-- The value of `text.strip()`. -/
def strip (text : List Char) : List Char :=
  ((text.dropWhile pyIsSpace).reverse.dropWhile pyIsSpace).reverse

/-- Pull the Bearer token out of the headers; the first `authorization` header decides. -/
def extractBearerToken (scope : Scope) : Option String :=
  match scope.headers.find? fun header => header.1 = asciiBytes "authorization" with
  | none => none
  | some (_, value) =>
      let decoded := latin1 value
      -- No letter of Latin-1 outside ASCII has a lower case in ASCII.
      if "bearer ".toList.isPrefixOf (decoded.map Char.toLower) then
        some (String.ofList (strip ((decoded.dropWhile (· ≠ ' ')).drop 1)))
      else none

theorem latin1_asciiBytes {text : String} (small : ∀ c ∈ text.toList, c.toNat < 256) :
    latin1 (asciiBytes text) = text.toList := by
  have decoded : ∀ c ∈ text.toList, Char.ofNat c.toNat.toUInt8.toNat = id c := by
    intro c member
    rw [show c.toNat.toUInt8.toNat = c.toNat from UInt8.toNat_ofNat_of_lt (small c member)]
    exact Char.ofNat_toNat c
  rw [latin1, asciiBytes, List.map_map]
  exact (List.map_congr_left decoded).trans (List.map_id _)

theorem strip_eq_self {text : List Char} (solid : ∀ c ∈ text, pyIsSpace c = false) :
    strip text = text := by
  have first : text.dropWhile pyIsSpace = text := by
    cases text with
    | nil => rfl
    | cons c rest => simp [solid c (.head _)]
  have last : text.reverse.dropWhile pyIsSpace = text.reverse := by
    cases reversed : text.reverse with
    | nil => rfl
    | cons c rest =>
        have member : c ∈ text := List.mem_reverse.1 (reversed ▸ .head _)
        simp [solid c member]
  rw [strip, first, last, List.reverse_reverse]

/-- A token of Latin-1 without white space is pulled out as it was sent. -/
theorem extractBearerToken_of_header {scope : Scope} {name : List UInt8} {token : String}
    (sent : scope.headers.find? (fun header => header.1 = asciiBytes "authorization") =
      some (name, asciiBytes ("Bearer " ++ token)))
    (plain : token.toList.all (fun c => c.toNat < 256 && !pyIsSpace c) = true) :
    extractBearerToken scope = some token := by
  have letters : ∀ c ∈ token.toList, c.toNat < 256 ∧ pyIsSpace c = false := by
    simpa [List.all_eq_true] using plain
  have scheme : ∀ c ∈ "Bearer ".toList, c.toNat < 256 := by simp
  have decoded : latin1 (asciiBytes ("Bearer " ++ token)) = "Bearer ".toList ++ token.toList := by
    rw [latin1_asciiBytes, String.toList_append]
    intro c member
    rw [String.toList_append] at member
    rcases List.mem_append.1 member with letter | letter
    · exact scheme c letter
    · exact (letters c letter).1
  have stripped : strip token.toList = token.toList :=
    strip_eq_self fun c member => (letters c member).2
  simp [extractBearerToken, sent, decoded, stripped]

/-- Emit a 401 response. -/
def send401 (detail : String) : Coroutine :=
  .ask (.send 401 detail) fun _ => .done .returned

/-- The value of `str(value)`, which for all but a string is its `repr`. -/
def str {Key : Type} (ctx : Context Key) : Json → String
  | .str text => text
  | value => ctx.repr value

/-- The principal of validated claims. -/
def oidcPrincipal {Key : Type} (ctx : Context Key) (claims : JsonDict) (tenantId : String) :
    TenantPrincipal where
  tenantId
  subject := str ctx (Json.getOr claims "sub" (.str ""))
  authMethod := .oidc

/-- What the middleware does once the validation is over. -/
def authenticated {Key : Type} (ctx : Context Key) (app : Coroutine) :
    Except Raised JsonDict → Coroutine
  | .ok claims =>
      match Security.extractTenantFromClaims claims with
      | .ok tenantId => .within (oidcPrincipal ctx claims tenantId) app .done
      | .error e => send401 e.message
  | .error (.authentication e) => send401 e.message
  | .error (.python exc) =>
      -- `except HTTPException`, which has its detail for a message here.
      if exc.className = "HTTPException" then send401 exc.message
      else .done (.raised (.python exc))
  | .error (.http message) => .done (.raised (.http message))

/-- The method `OIDCAuthMiddleware.__call__`. -/
def oidcAuthMiddleware {Key : Type} (ctx : Context Key) (app : Coroutine) (scope : Scope) :
    Coroutine :=
  if scope.type ≠ "http" then app
  else if isPublic scope.path then app
  else
    match extractBearerToken scope with
    | none => send401 "Missing Bearer token"
    | some token => .ask (.validateOidcJwt token) fun
        | .claims outcome => authenticated ctx app outcome
        | _ => .done .returned

/-! ## gRPC -/

/-- Which of the four methods an `RpcMethodHandler` has, if any. -/
inductive RpcKind where
  | unaryUnary
  | unaryStream
  | streamUnary
  | streamStream
deriving DecidableEq

/-- `context.abort`, which raises. -/
def abort (code : StatusCode) (details : String) : Coroutine :=
  .ask (.abort code details) fun _ => .done (.raised (.python ⟨"AbortError", details⟩))

/-- Bind the principal of the peer and call the handler. -/
def bindThenCall (cause : AttributeValue → String) (kind : Option RpcKind) (handler : Coroutine)
    (context : AuthContext) : Coroutine :=
  match resolvePrincipal cause context with
  | .error e => abort .unauthenticated e.message
  | .ok principal =>
      match kind with
      | some .unaryUnary | some .streamUnary => .within principal handler .done
      -- The call only makes the generator; the server iterates it once it is returned.
      | some .unaryStream | some .streamStream =>
          .within principal (.done .returned) fun _ => handler
      | none => .within principal (abort .internal "Unsupported RPC handler kind") .done

/-! ## Daemons -/

/-- The statement `with with_system_context(subject): ...`. -/
def withSystemContext (subject : String) (body : Coroutine) : Coroutine :=
  .within (systemPrincipal subject) body .done

/-! ## The event loop -/

/-- What starts a task. -/
inductive Inbound where
  | http (scope : Scope) (app : Handler)
  | rpc (peer : AuthContext) (kind : Option RpcKind) (handler : Handler)
  | daemon (pass : Handler)

section Loop

variable {Key : Type} (cause : AttributeValue → String) (ctx : Context Key) (ttl : Int)
  (metadata : MetaData)

def Inbound.program : Inbound → Coroutine
  | .http scope app => oidcAuthMiddleware ctx app.code scope
  | .rpc peer kind handler => bindThenCall cause kind handler.code peer
  | .daemon pass => withSystemContext "scheduler" pass.code

abbrev EventLoop :=
  Machine (List (DynamicScope.Task TenantPrincipal Demand Reply Raised Moment Inbound))
    (DynamicScope.Action Moment Inbound)

/-- Any number of requests, calls and daemons, and the tasks they spawn. -/
def eventLoop : EventLoop := tasks (Inbound.program cause ctx) (answer ctx ttl metadata)

end Loop

end Lcp.Api
