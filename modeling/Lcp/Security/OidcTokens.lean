/-
# Security.OidcTokens -- `validate_oidc_jwt`, one await point at a time

A validation waits for the JWKs, a second time for a forced refresh when the token's
`kid` is not among them, and then for the two calls of the denylist: one that asks
whether the `jti` has been used, and one that records it.  Between two await points it
runs alone; a step of the machine is one such stretch.

PyJWT and the rendering of `alg` are parameters.  The denylist is the one its protocol
describes: both calls take effect at one moment, and a `jti` is denied from the moment
that one `deny` of it has completed.
-/
import Lcp.Security.Jwks

namespace Lcp.OidcTokens

open Theory Security
open Jwks (Raised JwksCache)

set_option autoImplicit false

/-- It fails with an `AuthenticationError` only. -/
def OnlyAuthentication {α : Type} (outcome : Except Raised α) : Prop :=
  ∀ exc, outcome = .error exc → ∃ e, exc = .authentication e

theorem OnlyAuthentication.ok {α : Type} (value : α) :
    OnlyAuthentication (.ok value : Except Raised α) := nofun

theorem OnlyAuthentication.refused {α : Type} (e : AuthenticationError) :
    OnlyAuthentication (.error (.authentication e) : Except Raised α) := by
  intro exc is
  exact ⟨e, (Except.error.inj is).symm⟩

theorem OnlyAuthentication.bind {α β : Type} {first : Except Raised α}
    {next : α → Except Raised β} (only : OnlyAuthentication first)
    (then_ : ∀ value, OnlyAuthentication (next value)) : OnlyAuthentication (first >>= next) := by
  cases first with
  | error exc =>
      intro raised is
      obtain rfl := Except.error.inj is
      exact only _ rfl
  | ok value => exact then_ value

/-! ## PyJWT -/

/-- What a call of PyJWT raises, by the classes that the callers tell apart. -/
inductive LibraryError where
  | pyJwtError (message : String)
  | keyError (message : String)
  /-- A `ValueError` of any class. -/
  | valueError (message : String)
  | other (exc : PyException)
deriving DecidableEq

namespace LibraryError

/-- The exception that reaches the caller when nothing catches it. -/
def escaped : LibraryError → Raised
  | .pyJwtError message => .python ⟨"PyJWTError", message⟩
  | .keyError message => .python ⟨"KeyError", message⟩
  | .valueError message => .python (.valueError message)
  | .other exc => .python exc

end LibraryError

/-- The settings that a validation reads. -/
structure Settings where
  oidcIssuer : String := "https://idp.example.com"
  oidcAudience : String := "lcp-api"
  oidcAllowedAlgorithms : List String := ["RS256", "RS384", "RS512", "ES256", "ES384"]
  oidcClockSkewLeewaySeconds : Int := 30

/-- The keyword arguments of `jwt.decode`. -/
structure DecodeOptions where
  algorithms : List String
  audience : String
  issuer : String
  leeway : Int
  require : List String

/-- The settings, and the functions of PyJWT over its keys. -/
structure Context (Key : Type) where
  settings : Settings := {}
  getUnverifiedHeader : String → Except LibraryError JsonDict
  /-- `PyJWK.from_dict(jwk).key`. -/
  signingKey : JsonDict → Except LibraryError Key
  /-- `jwt.decode`, which compares `exp`, `iat` and `nbf` with the time of the call. -/
  decode : Rat → String → Key → DecodeOptions → Except LibraryError JsonDict
  /-- The `!r` rendering of a header value. -/
  repr : Json → String

/-- The rendering of a tuple of strings. -/
def pyReprTuple : List String → String
  | [item] => "(" ++ pyRepr item ++ ",)"
  | items => "(" ++ ", ".intercalate (items.map pyRepr) ++ ")"

section Stretches

variable {Key : Type} (ctx : Context Key)

def decodeOptions : DecodeOptions where
  algorithms := ctx.settings.oidcAllowedAlgorithms
  audience := ctx.settings.oidcAudience
  issuer := ctx.settings.oidcIssuer
  leeway := ctx.settings.oidcClockSkewLeewaySeconds
  require := ["exp", "iat", "sub", "iss", "aud"]

/-! ## The stretches of a validation -/

/-- The header, with the error of a malformed one. -/
def unverifiedHeader (token : String) : Except Raised JsonDict :=
  match ctx.getUnverifiedHeader token with
  | .ok header => .ok header
  | .error (.pyJwtError message) => .error (.authentication ⟨"Malformed JWT header: " ++ message⟩)
  | .error exc => .error exc.escaped

/-- The allow-list check of `alg`. -/
def checkAlgorithm (header : JsonDict) : Except Raised Unit :=
  let alg := (Json.get? header "alg").getD .null
  if alg ∈ ctx.settings.oidcAllowedAlgorithms.map Json.str then .ok ()
  else
    .error (.authentication ⟨"JWT algorithm " ++ ctx.repr alg ++ " is not in the allow-list " ++
      pyReprTuple ctx.settings.oidcAllowedAlgorithms⟩)

/-- The `kid` of the header. -/
def headerKid (header : JsonDict) : Except Raised String :=
  match Json.get? header "kid" with
  | some (.str kid) =>
      if kid ≠ "" then .ok kid
      else .error (.authentication ⟨"JWT header is missing a string 'kid'"⟩)
  | _ => .error (.authentication ⟨"JWT header is missing a string 'kid'"⟩)

/-- Up to the first await point. -/
def readHeader (token : String) : Except Raised String := do
  let header ← unverifiedHeader ctx token
  checkAlgorithm ctx header
  headerKid header

/-- The signing key out of its JWK. -/
def loadSigningKey (jwk : JsonDict) : Except Raised Key :=
  match ctx.signingKey jwk with
  | .ok key => .ok key
  | .error (.pyJwtError message) | .error (.keyError message) | .error (.valueError message) =>
      .error (.authentication ⟨"Cannot load signing key from JWK: " ++ message⟩)
  | .error exc => .error exc.escaped

/-- The claims, with the error of an invalid token. -/
def decodeClaims (now : Rat) (token : String) (key : Key) : Except Raised JsonDict :=
  match ctx.decode now token key (decodeOptions ctx) with
  | .ok claims => .ok claims
  | .error (.pyJwtError message) => .error (.authentication ⟨"Invalid JWT: " ++ message⟩)
  | .error exc => .error exc.escaped

/-- The claims of a token under the JWK of its `kid`. -/
def claimsUnder (now : Rat) (token : String) (jwk : JsonDict) : Except Raised JsonDict := do
  let key ← loadSigningKey ctx jwk
  decodeClaims ctx now token key

/-- The `jti` that the denylist is asked for: a nonempty string. -/
def presentedJti (claims : JsonDict) : Option String :=
  match Json.get? claims "jti" with
  | some (.str jti) => if jti ≠ "" then some jti else none
  | _ => none

/-- The expiry that `deny` is told. -/
def expiry (claims : JsonDict) : Except PyException Int :=
  (Json.getOr claims "exp" (.int 0)).toInt

/-! ## Validations under way -/

inductive Validation where
  /-- In `_get_jwks`. -/
  | fetching (token kid : String) (forceRefresh : Bool)
  /-- In `is_denied`. -/
  | checking (claims : JsonDict) (jti : String)
  /-- In `deny`. -/
  | denying (claims : JsonDict) (jti : String) (exp : Int)
  | returned (claims : JsonDict)
  | raised (exc : Raised)
deriving DecidableEq

def start (token : String) : Validation :=
  match readHeader ctx token with
  | .ok kid => .fetching token kid false
  | .error exc => .raised exc

/-- From the JWK to the denylist. -/
def decoded (now : Rat) (token : String) (jwk : JsonDict) : Validation :=
  match claimsUnder ctx now token jwk with
  | .error exc => .raised exc
  | .ok claims =>
      match presentedJti claims with
      | some jti => .checking claims jti
      | none => .returned claims

/-- The rest of the wait for the JWKs. -/
def withJwks (now : Rat) (token kid : String) (forceRefresh : Bool) :
    Except Raised JwksCache → Validation
  | .error exc => .raised exc
  | .ok cache =>
      match cache.keysByKid.lookup kid with
      | some jwk => decoded ctx now token jwk
      | none =>
          if forceRefresh then .raised (.authentication ⟨"Signing key not found in JWKs"⟩)
          else .fetching token kid true

/-- The rest of the wait for `is_denied`. -/
def checked (claims : JsonDict) (jti : String) (denied : Bool) : Validation :=
  if denied then
    .raised (.authentication ⟨"JWT ID (jti) has already been used (replay detected)"⟩)
  else
    match expiry claims with
    | .ok exp => .denying claims jti exp
    | .error exc => .raised (.python exc)

/-- The denylist and the validations of one process. -/
structure World where
  /-- What the completed `deny` calls were told. -/
  denied : List (String × Int) := []
  calls : List Validation := []

inductive Action where
  | validate (token : String)
  /-- The `_get_jwks` of a call ends, at the time `now`. -/
  | jwks (call : Nat) (now : Rat) (answer : Except Raised JwksCache)
  /-- The `is_denied` of a call takes effect and returns. -/
  | isDenied (call : Nat)
  /-- The `deny` of a call takes effect and returns. -/
  | deny (call : Nat)

namespace World

def isDenied (w : World) (jti : String) : Bool := w.denied.any fun entry => entry.1 = jti

def move (w : World) (i : Nat) (call : Validation) : World :=
  { w with calls := w.calls.set i call }

def step (w : World) : Action → Option World
  | .validate token => some { w with calls := w.calls ++ [start ctx token] }
  | .jwks i now answer =>
      match w.calls[i]? with
      | some (.fetching token kid forceRefresh) =>
          some (w.move i (withJwks ctx now token kid forceRefresh answer))
      | _ => none
  | .isDenied i =>
      match w.calls[i]? with
      | some (.checking claims jti) => some (w.move i (checked claims jti (w.isDenied jti)))
      | _ => none
  | .deny i =>
      match w.calls[i]? with
      | some (.denying claims jti exp) =>
          some { w.move i (.returned claims) with denied := (jti, exp) :: w.denied }
      | _ => none

end World

/-- Runs of `validate_oidc_jwt` calls in one process. -/
def validations : Machine World Action where
  step := World.step ctx

/-! ## What a step can do -/

inductive Effect (w : World) : Action → World → Prop
  | started {token : String} :
      Effect w (.validate token) { w with calls := w.calls ++ [start ctx token] }
  | answered {i : Nat} {now : Rat} {token kid : String} {forceRefresh : Bool}
      {answer : Except Raised JwksCache}
      (here : w.calls[i]? = some (.fetching token kid forceRefresh)) :
      Effect w (.jwks i now answer) (w.move i (withJwks ctx now token kid forceRefresh answer))
  | asked {i : Nat} {claims : JsonDict} {jti : String}
      (here : w.calls[i]? = some (.checking claims jti)) :
      Effect w (.isDenied i) (w.move i (checked claims jti (w.isDenied jti)))
  | recorded {i : Nat} {claims : JsonDict} {jti : String} {exp : Int}
      (here : w.calls[i]? = some (.denying claims jti exp)) :
      Effect w (.deny i) { w.move i (.returned claims) with denied := (jti, exp) :: w.denied }

variable {ctx}

theorem effect_of_step {w t : World} {a : Action}
    (stepped : (validations ctx).step w a = some t) : Effect ctx w a t := by
  simp only [validations] at stepped
  cases a with
  | validate token =>
      obtain rfl := Option.some.inj stepped
      exact .started
  | jwks i now answer =>
      simp only [World.step] at stepped
      split at stepped
      · rename_i token kid forceRefresh here
        obtain rfl := Option.some.inj stepped
        exact .answered here
      · cases stepped
  | isDenied i =>
      simp only [World.step] at stepped
      split at stepped
      · rename_i claims jti here
        obtain rfl := Option.some.inj stepped
        exact .asked here
      · cases stepped
  | deny i =>
      simp only [World.step] at stepped
      split at stepped
      · rename_i claims jti exp here
        obtain rfl := Option.some.inj stepped
        exact .recorded here
      · cases stepped

variable (ctx) in
/-- What PyJWT documents of a token: the class that it raises, and that `decode` has read an
integer out of a required `exp`. -/
structure Documented : Prop where
  header : ∀ token exc, ctx.getUnverifiedHeader token = .error exc →
    ∃ message, exc = .pyJwtError message
  decode : ∀ now token key options exc, ctx.decode now token key options = .error exc →
    ∃ message, exc = .pyJwtError message
  exp : ∀ now token key options claims, ctx.decode now token key options = .ok claims →
    "exp" ∈ options.require → ∃ exp, expiry claims = .ok exp

end Stretches

section Examples

/-! ## A provider with one key -/

/-- The JWK of the key. -/
def signing : JsonDict :=
  [("kty", .str "EC"), ("crv", .str "P-256"), ("alg", .str "ES256"), ("use", .str "sig"),
    ("kid", .str "2026-01"), ("x", .str "X9gXBX8r3jU_Wwhr4yFgSfl-m0eR1xNyIuR9rgNL8g0"),
    ("y", .str "8eHc0eA1ZsRknoec89gdth_HorFP_if-P1xYYfI08L4")]

/-- The claims of a token for the first hour of 2026. -/
def claimed (tenantId jti : String) : JsonDict :=
  [("iss", .str "https://idp.example.com"), ("aud", .str "lcp-api"), ("sub", .str "user-123"),
    ("tenant_id", .str tenantId), ("iat", .int 1767225600), ("exp", .int 1767229200),
    ("jti", .str jti)]

def acmeToken : String :=
  "eyJhbGciOiJFUzI1NiIsImtpZCI6IjIwMjYtMDEiLCJ0eXAiOiJKV1QifQ" ++
    ".eyJpc3MiOiJodHRwczovL2lkcC5leGFtcGxlLmNvbSIsImF1ZCI6ImxjcC1hcGkiLCJzdWIiOiJ1c2VyLTEyMyIs" ++
    "InRlbmFudF9pZCI6ImFjbWUiLCJpYXQiOjE3NjcyMjU2MDAsImV4cCI6MTc2NzIyOTIwMCwianRpIjoidW5pcXVl" ++
    "LXRva2VuLWlkIn0" ++
    ".L2GUVSF32qcSJI8UW2FthhKuxYU3h-NJM99stJaysm9tXydZSgb-aMtyuKhicOBVfcqIRH9uIxsBshYvvUrX-Q"

def globexToken : String :=
  "eyJhbGciOiJFUzI1NiIsImtpZCI6IjIwMjYtMDEiLCJ0eXAiOiJKV1QifQ" ++
    ".eyJpc3MiOiJodHRwczovL2lkcC5leGFtcGxlLmNvbSIsImF1ZCI6ImxjcC1hcGkiLCJzdWIiOiJ1c2VyLTEyMyIs" ++
    "InRlbmFudF9pZCI6Imdsb2JleCIsImlhdCI6MTc2NzIyNTYwMCwiZXhwIjoxNzY3MjI5MjAwLCJqdGkiOiJhbm90" ++
    "aGVyLXRva2VuLWlkIn0" ++
    ".oImhHpIs1PxNLKnmVWwjUf8QD3kCiRtEXwf3B0PBy1R1QoxD1zHPOfRsoVM0ll3eIovkee5O-a9d0cJNc6_SQw"

/-- The tokens that are signed with the key, and their claims. -/
def issued : List (String × JsonDict) :=
  [(acmeToken, claimed "acme" "unique-token-id"),
    (globexToken, claimed "globex" "another-token-id")]

theorem of_lookup_issued {token : String} {claims : JsonDict}
    (found : issued.lookup token = some claims) :
    ∃ tenantId jti, claims = claimed tenantId jti ∧ jti ≠ "" := by
  simp only [issued, List.lookup_cons, List.lookup_nil] at found
  split at found
  · exact ⟨_, _, (Option.some.inj found).symm, by decide⟩
  · split at found
    · exact ⟨_, _, (Option.some.inj found).symm, by decide⟩
    · cases found

/-- Twenty minutes later. -/
def presentedAt : Rat := 1767226800

/-- What PyJWT answers for the key and these tokens under the default settings. -/
def accepting : Context Unit where
  getUnverifiedHeader token :=
    if (issued.lookup token).isSome then
      .ok [("alg", .str "ES256"), ("kid", .str "2026-01"), ("typ", .str "JWT")]
    else .error (.pyJwtError "Not enough segments")
  signingKey jwk := if jwk = signing then .ok () else .error (.pyJwtError "kty is not found")
  decode now token _ _ :=
    match issued.lookup token with
    | none => .error (.pyJwtError "Not enough segments")
    | some claims =>
        if now < 1767225570 then .error (.pyJwtError "The token is not yet valid (iat)")
        else if 1767229230 ≤ now then .error (.pyJwtError "Signature has expired")
        else .ok claims
  repr
    | .str text => pyRepr text
    | _ => "None"

/-- It loads a JWK, or refuses it as a `PyJWTError`. -/
theorem accepting_signingKey (jwk : JsonDict) (exc : PyException) :
    accepting.signingKey jwk ≠ .error (.other exc) := by
  intro escapes
  simp only [accepting] at escapes
  split at escapes
  · cases escapes
  · cases Except.error.inj escapes

theorem accepting_documented : Documented accepting where
  header token exc raised := by
    simp only [accepting] at raised
    split at raised
    · cases raised
    · exact ⟨_, (Except.error.inj raised).symm⟩
  decode now token key options exc raised := by
    simp only [accepting] at raised
    split at raised
    · exact ⟨_, (Except.error.inj raised).symm⟩
    · split at raised
      · exact ⟨_, (Except.error.inj raised).symm⟩
      · split at raised
        · exact ⟨_, (Except.error.inj raised).symm⟩
        · cases raised
  exp now token key options claims decoded _ := by
    simp only [accepting] at decoded
    split at decoded
    · cases decoded
    · rename_i found
      split at decoded
      · cases decoded
      · split at decoded
        · cases decoded
        · obtain rfl := Except.ok.inj decoded
          obtain ⟨tenantId, jti, rfl, -⟩ := of_lookup_issued found
          exact ⟨1767229200, rfl⟩

end Examples

end Lcp.OidcTokens
