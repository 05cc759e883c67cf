/-
# Api.RequestIsolation -- whose rows a request reaches

A request binds its principal once, at its surface, and everything it runs reads the context
variable.  So whose rows a statement reaches depends on where the statement stands and not on
what the event loop runs in between.

* `Credential`: the principal that the inbound's own credential makes.
* `governed_of_thread`: by surface, what each statement of a thread runs under.
* `requests_isolated`: in every interleaving, a statement inside a binding runs under the
  principal of its own request; one outside every binding (public paths, other scopes than
  http, the body of a streaming call) runs under none.

What follows is about the protected tables, as far as the hook reaches them: SELECTs that it
sees (`visible`) and writes whose target is one of them.  A tenant's reach that tenant's rows
alone, and without a principal they are refused.  A protected table behind an alias, in a
subquery or in a compound is out of the hook's sight (`missed_statements_leak`), and what the
subqueries of a write read is not filtered.
-/
import Lcp.Api.Surfaces

namespace Lcp.Api

open Theory DynamicScope Certificates OidcTokens Provider Rls

set_option autoImplicit false

/-! ## Credentials -/

namespace Inbound

/-- The handler runs inside the binding of its surface. -/
def bound : Inbound → Bool
  | .http scope _ => scope.type = "http" && !isPublic scope.path
  | .rpc _ kind _ => kind = some .unaryUnary || kind = some .streamUnary
  | .daemon _ => true

def isDaemon : Inbound → Bool
  | .daemon _ => true
  | _ => false

end Inbound

def Demand.isStatement : Demand → Bool
  | .read _ | .write .. => true
  | _ => false

section Loop

variable {Key : Type} (cause : AttributeValue → String) (ctx : Context Key) (ttl : Int)
  (metadata : MetaData)

/-- What the credential of an inbound makes its principal, after these calls. -/
inductive Credential : Inbound → List TenantCall → TenantPrincipal → Prop
  /-- The request's token, validated earlier in the request. -/
  | oidc {scope : Scope} {app : Handler} {earlier : List TenantCall} {token : String}
      {moment : Moment} {claims : JsonDict} {tenantId : String}
      (presented : extractBearerToken scope = some token)
      (validated : ⟨none, .validateOidcJwt token, moment⟩ ∈ earlier)
      (valid : validateOidcJwt ctx ttl token moment.around = .ok claims)
      (named : Security.extractTenantFromClaims claims = .ok tenantId) :
      Credential (.http scope app) earlier (oidcPrincipal ctx claims tenantId)
  /-- The certificate of the peer. -/
  | mtls {peer : AuthContext} {kind : Option RpcKind} {handler : Handler}
      {earlier : List TenantCall} {principal : TenantPrincipal}
      (resolved : resolvePrincipal cause peer = .ok principal) :
      Credential (.rpc peer kind handler) earlier principal
  | system {pass : Handler} {earlier : List TenantCall} :
      Credential (.daemon pass) earlier (systemPrincipal "scheduler")

/-- A statement runs under the credential of its inbound where that binds one. -/
def Governed (inbound : Inbound) (earlier : List TenantCall) (call : TenantCall) : Prop :=
  if inbound.bound then
    ∃ principal, call.binding = some principal ∧ Credential cause ctx ttl inbound earlier principal
  else call.binding = none

variable {cause ctx ttl metadata}

theorem isSystem_resolved {peer : AuthContext} {principal : TenantPrincipal}
    (resolved : resolvePrincipal cause peer = .ok principal) : principal.isSystem = false := by
  unfold resolvePrincipal at resolved
  split at resolved
  · cases resolved
  · obtain ⟨cn, -, rest⟩ := bind_eq_ok resolved
    obtain ⟨organization, -, rest⟩ := bind_eq_ok rest
    obtain ⟨tenantId, -, made⟩ := bind_eq_ok rest
    obtain rfl := Except.ok.inj made
    rfl

/-- Only a daemon is the system. -/
theorem Credential.isSystem {inbound : Inbound} {earlier : List TenantCall}
    {principal : TenantPrincipal}
    (credential : Credential cause ctx ttl inbound earlier principal) :
    principal.isSystem = inbound.isDaemon := by
  cases credential with
  | oidc presented validated valid named => rfl
  | mtls resolved => exact isSystem_resolved resolved
  | system => rfl

/-! ## The threads of a surface -/

section Threads

variable {calls earlier later : List TenantCall} {call : TenantCall}

/-- A thread that asks for one thing only. -/
theorem query_of_ask_done {c : Option TenantPrincipal} {query : Demand} {exit : Exit Jwks.Raised}
    (thread : Thread (answer ctx ttl metadata) c (.ask query fun _ => .done exit) calls)
    (member : call ∈ calls) : call.query = query := by
  cases thread with
  | start => cases member
  | ask moment rest =>
      obtain rfl := rest.done
      obtain rfl := List.mem_singleton.1 member
      rfl

/-- After the validation of its token, a request runs under what the token says. -/
theorem governed_of_authenticated {scope : Scope} {app : Handler} {token : String} {moment : Moment}
    (bound : (Inbound.http scope app).bound = true)
    (presented : extractBearerToken scope = some token)
    (validated : ⟨none, .validateOidcJwt token, moment⟩ ∈ earlier)
    (thread : Thread (answer ctx ttl metadata) none (authenticated ctx app.code
      (validateOidcJwt ctx ttl token moment.around)) calls)
    (member : call ∈ calls) (statement : call.query.isStatement = true) :
    Governed cause ctx ttl (.http scope app) earlier call := by
  have refused : ∀ {detail : String},
      ¬ Thread (answer ctx ttl metadata) none (send401 detail) calls := by
    intro detail sent
    rw [query_of_ask_done sent member] at statement
    cases statement
  have over_ : ∀ {exit : Exit Jwks.Raised},
      ¬ Thread (answer ctx ttl metadata) none (.done exit) calls := by
    intro exit ends
    rw [ends.done] at member
    cases member
  rw [Governed, if_pos bound]
  cases valid : validateOidcJwt ctx ttl token moment.around with
  | ok claims =>
      rw [valid, authenticated] at thread
      cases named : Security.extractTenantFromClaims claims with
      | ok tenantId =>
          simp only [named] at thread
          refine ⟨_, ?_, .oidc presented validated valid named⟩
          exact thread.within_done.binding app.plain member
      | error e =>
          simp only [named] at thread
          exact absurd thread refused
  | error exc =>
      rw [valid] at thread
      cases exc with
      | authentication e => exact absurd thread refused
      | http message => exact absurd thread over_
      | python exc =>
          rw [authenticated] at thread
          by_cases http : exc.className = "HTTPException"
          · rw [if_pos http] at thread
            exact absurd thread refused
          · rw [if_neg http] at thread
            exact absurd thread over_

/-- **What a statement runs under**, by the surface it came through. -/
theorem governed_of_thread {inbound : Inbound}
    (thread : Thread (answer ctx ttl metadata) none (inbound.program cause ctx) calls)
    (split : calls = earlier ++ call :: later) (statement : call.query.isStatement = true) :
    Governed cause ctx ttl inbound earlier call := by
  have member : call ∈ calls := by simp [split]
  cases inbound with
  | daemon pass =>
      rw [Governed, if_pos (by rfl)]
      exact ⟨_, thread.within_done.binding pass.plain member, .system⟩
  | rpc peer kind handler =>
      rw [Inbound.program, bindThenCall] at thread
      cases resolved : resolvePrincipal cause peer with
      | error e =>
          simp only [resolved] at thread
          rw [query_of_ask_done thread member] at statement
          cases statement
      | ok principal =>
          simp only [resolved] at thread
          rcases kind with _ | _ | _ | _ | _
          · rw [query_of_ask_done thread.within_done member] at statement
            cases statement
          · rw [Governed, if_pos (by rfl)]
            exact ⟨principal, thread.within_done.binding handler.plain member, .mtls resolved⟩
          · rw [Governed, if_neg (by simp [Inbound.bound])]
            exact thread.within_empty.binding handler.plain member
          · rw [Governed, if_pos (by rfl)]
            exact ⟨principal, thread.within_done.binding handler.plain member, .mtls resolved⟩
          · rw [Governed, if_neg (by simp [Inbound.bound])]
            exact thread.within_empty.binding handler.plain member
  | http scope app =>
      rw [Inbound.program, oidcAuthMiddleware] at thread
      by_cases http : scope.type = "http"
      · rw [if_neg (not_not_intro http)] at thread
        cases open_ : isPublic scope.path with
        | true =>
            rw [if_pos open_] at thread
            rw [Governed, if_neg (by simp [Inbound.bound, open_])]
            exact thread.binding app.plain member
        | false =>
            rw [if_neg (by simp [open_])] at thread
            have bound : (Inbound.http scope app).bound = true := by
              simp [Inbound.bound, http, open_]
            cases presented : extractBearerToken scope with
            | none =>
                simp only [presented] at thread
                rw [query_of_ask_done thread member] at statement
                cases statement
            | some token =>
                simp only [presented] at thread
                cases thread with
                | start => cases member
                | ask moment rest =>
                    -- The validation is the first call, so the statement is a later one.
                    cases earlier with
                    | nil =>
                        obtain ⟨rfl, -⟩ := List.cons.inj split
                        cases statement
                    | cons first others =>
                        obtain ⟨rfl, rfl⟩ := List.cons.inj split
                        exact governed_of_authenticated bound presented (.head _) rest
                          (by simp) statement
      · rw [if_pos http] at thread
        rw [Governed, if_neg (by simp [Inbound.bound, http])]
        exact thread.binding app.plain member

end Threads

/-! ## What a statement reaches -/

variable (ctx ttl metadata)

/-- Of the protected tables, a SELECT that the hook sees reads the rows of one tenant alone, and
a write to one of them changes that tenant's rows alone. -/
def Confined (tenantId : String) (call : TenantCall) : Prop :=
  match call.query with
  | .read query =>
      visible query = true → query.wellScoped = true →
        ∀ db', AgreeWithin isProtected (ownedBy tenantId) call.moment.db db' →
          answer ctx ttl metadata { call.moment with db := db' } call.binding call.query =
            answer ctx ttl metadata call.moment call.binding call.query
  | .write others stmt =>
      ∀ table, stmt.target? = some table → isProtected table = true →
        answer ctx ttl metadata call.moment call.binding call.query =
          .written (.ok fun name => if name = table then
            (call.moment.db table).filterMap fun row =>
              if ownedBy tenantId row then stmt.effect others call.moment.db row else some row
            else call.moment.db name)
  | _ => True

/-- The hook refuses a SELECT that it sees when that reads a protected table, and a write to a
protected table. -/
def Refused (call : TenantCall) : Prop :=
  match call.query with
  | .read query =>
      visible query = true → query.wellScoped = true → query.reads isProtected = true →
        ∃ message, answer ctx ttl metadata call.moment call.binding call.query =
          .rows (.error (.permission message))
  | .write _ stmt =>
      ∀ table, stmt.target? = some table → isProtected table = true →
        ∃ message, answer ctx ttl metadata call.moment call.binding call.query =
          .written (.error (.permission message))
  | _ => True

variable {ctx ttl metadata}

theorem executeWrite_tenant {principal : TenantPrincipal} (tenant : principal.isSystem = false)
    {table : String} {stmt : Statement} (target : stmt.target? = some table)
    (protected_ : isProtected table = true) (column : "tenant_id" ∈ metadata table)
    (others : List (From Row)) (db : String → List Row) :
    executeWrite metadata (some principal) others stmt db =
      .ok fun name => if name = table then
        (db table).filterMap fun row =>
          if ownedBy principal.tenantId row then stmt.effect others db row else some row
      else db name := by
  rw [executeWrite, beforeExecute_write target protected_ column tenant]
  show Except.ok _ = Except.ok _
  congr 1
  funext name
  show (stmt.filter (tenantEquals table principal.tenantId)).execute others db name = _
  rw [Statement.execute, target?_filter, target]
  by_cases same : name = table
  · subst same
    rw [if_pos rfl, if_pos rfl]
    congr 1
    funext row
    exact effect_filter target row
  · rw [if_neg fun other => same (Option.some.inj other).symm, if_neg same]

theorem confined_of_tenant (columns : ∀ table, isProtected table = true →
      "tenant_id" ∈ metadata table) {principal : TenantPrincipal}
    (tenant : principal.isSystem = false) {call : TenantCall}
    (binding : call.binding = some principal) :
    Confined ctx ttl metadata principal.tenantId call := by
  obtain ⟨_, query, moment⟩ := call
  obtain rfl := binding
  cases query with
  | read query =>
      intro seen wellScoped db' agree
      have apart : Noninterferent metadata ⟨query, wellScoped⟩ := noninterferent_of_visible seen
      exact congrArg Reply.rows (apart principal tenant moment.db db' agree).symm
  | write others stmt =>
      intro table target protected_
      exact congrArg Reply.written
        (executeWrite_tenant tenant target protected_ (columns table protected_) others moment.db)
  | validateOidcJwt token => trivial
  | send statusCode detail => trivial
  | abort code details => trivial

theorem refused_of_unbound {call : TenantCall} (binding : call.binding = none) :
    Refused ctx ttl metadata call := by
  obtain ⟨_, query, moment⟩ := call
  obtain rfl := binding
  cases query with
  | read query =>
      intro seen wellScoped reads
      have closed : FailsClosed metadata ⟨query, wellScoped⟩ := failsClosed_of_visible seen
      obtain ⟨message, refused⟩ := closed reads moment.db
      exact ⟨message, congrArg Reply.rows refused⟩
  | write others stmt =>
      intro table target protected_
      refine ⟨"RLS-protected statement executed without an authenticated tenant context.", ?_⟩
      have refused : executeWrite metadata none others stmt moment.db = .error (.permission
          "RLS-protected statement executed without an authenticated tenant context.") := by
        unfold executeWrite beforeExecute
        rw [if_neg (by decide), targets_write target protected_]
        rfl
      exact congrArg Reply.written refused
  | validateOidcJwt token => trivial
  | send statusCode detail => trivial
  | abort code details => trivial

/-! ## Every interleaving -/

variable (cause ctx ttl metadata)

/-- A statement runs inside its own request's binding and is confined to that tenant, or it
stands outside every binding and is refused. -/
def Isolated (inbound : Inbound) (earlier : List TenantCall) (call : TenantCall) : Prop :=
  if inbound.bound then
    ∃ principal, call.binding = some principal ∧
      Credential cause ctx ttl inbound earlier principal ∧
      (inbound.isDaemon = false → Confined ctx ttl metadata principal.tenantId call)
  else call.binding = none ∧ Refused ctx ttl metadata call

variable {metadata}

/-- **Requests are isolated**, in every interleaving of requests, remote calls and daemons: a
task is left with the context it started with, and each of its statements on the way is
isolated, whatever ran in between. -/
theorem requests_isolated
    (columns : ∀ table, isProtected table = true → "tenant_id" ∈ metadata table)
    (as : List (DynamicScope.Action Moment Inbound)) :
    (eventLoop cause ctx ttl metadata).Always (fun running => ∀ task ∈ running,
      (task.frames = [] → task.context = task.inherited) ∧
        ∀ earlier call later, task.past = earlier ++ call :: later →
          call.query.isStatement = true →
            Isolated cause ctx ttl metadata task.request earlier call) [] as := by
  have lexical := always_lexical (Inbound.program cause ctx) (answer ctx ttl metadata) as
  have restored := always_restored (Inbound.program cause ctx) (answer ctx ttl metadata) as
  refine (lexical.and restored).mono fun running both task member => ⟨both.2 task member, ?_⟩
  intro earlier call later split statement
  have governed : Governed cause ctx ttl task.request earlier call :=
    governed_of_thread (both.1 task member) split statement
  unfold Governed at governed
  unfold Isolated
  split
  · rename_i bound
    rw [if_pos bound] at governed
    obtain ⟨principal, binding, credential⟩ := governed
    refine ⟨principal, binding, credential, fun client => ?_⟩
    exact confined_of_tenant columns (credential.isSystem.trans client) binding
  · rename_i unbound
    rw [if_neg unbound] at governed
    exact ⟨governed, refused_of_unbound governed⟩

end Loop

section Examples

/-- The tables behind the hook, by their columns. -/
private def tables : MetaData
  | "dataset" => ["dataset_uuid", "tenant_id"]
  | "task" => ["task_uuid", "tenant_id"]
  | _ => []

private theorem tables_columns :
    ∀ table, isProtected table = true → "tenant_id" ∈ tables table := by
  intro table protected_
  have either : table = "dataset" ∨ table = "task" := by
    simpa [isProtected, RLS_PROTECTED_TABLES] using protected_
  rcases either with rfl | rfl
  · decide
  · decide

private def cached : Jwks.JwksCache := ⟨[("2026-01", signing)], 0, .list [.dict signing]⟩

private def datasetOf (tenant : String) : Row := [("tenant_id", .str tenant)]

/-- A moment with a fresh cache of keys, and a dataset of each tenant. -/
private def calm : Moment where
  around :=
    let provider : IdentityProvider := ⟨fun _ => .failed "", fun _ => .failed ""⟩
    let hit : Visit := ⟨some cached, 1, some cached, 1, provider, 1⟩
    ⟨hit, hit, presentedAt, fun _ => false⟩
  db
    | "dataset" => [datasetOf "acme", datasetOf "globex"]
    | _ => []

/-- List the datasets. -/
private def listing : Handler where
  code := .ask (.read (.select [.table "dataset"] (.cond fun _ => some true) fun _ envs =>
    envs.filterMap fun env => (env.lookup "dataset").join)) fun _ => .done .returned
  plain _ := trivial

private def scopeOf (token : String) : Scope where
  type := "http"
  path := "/v1/datasets"
  headers := [(asciiBytes "authorization", asciiBytes ("Bearer " ++ token))]

private def bearer (token : String) : Inbound := .http (scopeOf token) listing

private def validatesFirst (token : String) : Coroutine :=
  .ask (.validateOidcJwt token) fun
    | .claims outcome => authenticated accepting listing.code outcome
    | _ => .done .returned

/-- A bearer asks for the validation of the token that it sent. -/
private theorem program_bearer {token : String}
    (plain : token.toList.all (fun c => c.toNat < 256 && !pyIsSpace c) = true) :
    (bearer token).program (fun _ => "") accepting = validatesFirst token := by
  have sent : (scopeOf token).headers.find? (fun h => h.1 = asciiBytes "authorization") =
      some (asciiBytes "authorization", asciiBytes ("Bearer " ++ token)) := by
    simp [scopeOf]
  have http : ¬ (scopeOf token).type ≠ "http" := by simp [scopeOf]
  have closed : ¬ isPublic (scopeOf token).path = true := by
    show ¬ isPublic "/v1/datasets" = true
    decide
  rw [bearer, Inbound.program, oidcAuthMiddleware, if_neg http, if_neg closed,
    extractBearerToken_of_header sent plain]
  rfl

private theorem plain_tokens :
    acmeToken.toList.all (fun c => c.toNat < 256 && !pyIsSpace c) = true ∧
      globexToken.toList.all (fun c => c.toNat < 256 && !pyIsSpace c) = true := by
  unfold acmeToken globexToken
  simp only [String.toList_append]
  constructor
  all_goals
    rw [List.all_append, List.all_append, List.all_append, List.all_append]
    simp only [Bool.and_eq_true]
    refine ⟨⟨⟨⟨?_, ?_⟩, ?_⟩, ?_⟩, ?_⟩ <;> decide +kernel

/-- Two requests side by side, a streaming call, and a planner. -/
private def arrivals : List Inbound :=
  [bearer acmeToken, bearer globexToken,
    .rpc { x509CommonName := [.str "tenant-acme.w1"] } (some .unaryStream) listing,
    .daemon listing]

/-- They take turns. -/
private def turns : List (DynamicScope.Action Moment Inbound) :=
  (List.replicate 3 [0, 1, 2, 3]).flatten.map fun i => .resume i calm

private def sideBySide : List (DynamicScope.Action Moment Inbound) :=
  arrivals.map .start ++ turns

/-- The tenants of the rows that the statements of a task returned. -/
private def readTenants (past : List TenantCall) : List (Option (List (Option String))) :=
  past.filterMap fun call =>
    match answer accepting 3600 tables call.moment call.binding call.query with
    | .rows outcome => some (outcome.toOption.map fun rows => rows.map tenantId)
    | _ => none

/-- Each request reads its own tenant's dataset, the stream is refused, the planner reads both. -/
theorem requests_isolated_sideBySide :
    ((eventLoop (fun _ => "") accepting 3600 tables).run [] sideBySide).map
        (fun running => running.map fun task => readTenants task.past) =
      some [[some [some "acme"]], [some [some "globex"]], [none],
        [some [some "acme", some "globex"]]] ∧
    (eventLoop (fun _ => "") accepting 3600 tables).Always (fun running => ∀ task ∈ running,
      (task.frames = [] → task.context = task.inherited) ∧
        ∀ earlier call later, task.past = earlier ++ call :: later →
          call.query.isStatement = true →
            Isolated (fun _ => "") accepting 3600 tables task.request earlier call) []
      sideBySide := by
  refine ⟨?_, requests_isolated _ _ _ tables_columns sideBySide⟩
  have started (as : List (DynamicScope.Action Moment Inbound)) :
      (eventLoop (fun _ => "") accepting 3600 tables).run [] (arrivals.map .start ++ as) =
        (eventLoop (fun _ => "") accepting 3600 tables).run
          (arrivals.map (Task.start (Inbound.program (fun _ => "") accepting))) as := rfl
  rw [sideBySide, started]
  simp only [arrivals, List.map_cons, List.map_nil, Task.start,
    program_bearer plain_tokens.1, program_bearer plain_tokens.2]
  decide +kernel

end Examples

end Lcp.Api
