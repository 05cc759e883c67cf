/-
# Security.Certificates -- the tenant of an mTLS peer

A certificate names its tenant in a SPIFFE URI SAN, in `O`, or in the CN.  The three
decoders have their own delimiters, and `_resolve_principal` tries them in this order.

* `resolvePrincipal` -- the resolution, over the attributes as gRPC hands them out.
* `Issued` -- the certificates of a tenant in each of the three encodings.
* `encodings_agree` -- the decoders invert them, up to a dot in a tenant id of a CN.
-/
import Mathlib.Data.List.TakeWhile
import Lcp.Core.Security
import Lcp.Core.Tenant

namespace Lcp.Certificates

open Security

set_option autoImplicit false

/-! ## The peer's attributes -/

/-- An entry of the auth context, text or bytes by version and backend. -/
inductive AttributeValue where
  | str (text : String)
  | bytes (raw : ByteArray)

/-- The entry as UTF-8. -/
def AttributeValue.decode : AttributeValue → Option String
  | .str text => some text
  | .bytes raw => String.fromUTF8? raw

/-- The lists of `context.auth_context()`, empty where it has none. -/
structure AuthContext where
  x509CommonName : List AttributeValue := []
  x509Organization : List AttributeValue := []
  x509Uri : List AttributeValue := []

/-- The decoded first entry of a list; `cause` is the text of a `UnicodeDecodeError`. -/
def decodeFirst (cause : AttributeValue → String) (head : AttributeValue) :
    Except AuthenticationError String :=
  match head.decode with
  | some text => .ok text
  | none => .error ⟨"Peer certificate attribute contains non-UTF-8 bytes: " ++ cause head⟩

/-- The tenant of a URI SAN; an entry that is no UTF-8 has none. -/
def uriTenant (uri : AttributeValue) : Option String :=
  uri.decode.bind extractTenantFromSpiffeId

/-- The first decodable entry of an optional attribute. -/
def decodeOptional (cause : AttributeValue → String) :
    List AttributeValue → Except AuthenticationError (Option String)
  | [] => .ok none
  | head :: _ => (decodeFirst cause head).map some

/-- A SPIFFE URI SAN has the highest priority; then `O` and CN. -/
def certificateTenant (uris : List AttributeValue) (cn : String) (organization : Option String) :
    Except AuthenticationError String :=
  match uris.findSome? uriTenant with
  | some tenantId => .ok tenantId
  | none => extractTenantFromX509Subject cn organization

/-- Build a principal from the gRPC peer auth context. -/
def resolvePrincipal (cause : AttributeValue → String) (context : AuthContext) :
    Except AuthenticationError TenantPrincipal :=
  match context.x509CommonName with
  | [] => .error ⟨"Peer certificate is missing CN; mTLS authentication failed."⟩
  | head :: _ => do
      let cn ← decodeFirst cause head
      let organization ← decodeOptional cause context.x509Organization
      let tenantId ← certificateTenant context.x509Uri cn organization
      return { tenantId, subject := cn, authMethod := .mtls }

variable {cause : AttributeValue → String}

/-- Whether an attribute can be decoded is no matter of the text of the error. -/
theorem decodeOptional_of_ok {other : AttributeValue → String} {values : List AttributeValue}
    {text : Option String} (decoded : decodeOptional other values = .ok text) :
    decodeOptional cause values = .ok text := by
  cases values with
  | nil => exact decoded
  | cons head rest =>
      cases spelled : head.decode with
      | none =>
          rw [decodeOptional, decodeFirst, spelled] at decoded
          cases decoded
      | some text =>
          rw [decodeOptional, decodeFirst, spelled] at decoded ⊢
          exact decoded

/-- What the resolution comes down to when CN and `O` can be decoded. -/
theorem resolvePrincipal_eq {head : AttributeValue} {rest organizations uris : List AttributeValue}
    {cn : String} {organization : Option String} (spelled : head.decode = some cn)
    (decoded : decodeOptional cause organizations = .ok organization) :
    resolvePrincipal cause ⟨head :: rest, organizations, uris⟩ =
      (certificateTenant uris cn organization).map fun tenantId =>
        ⟨tenantId, cn, .mtls, false⟩ := by
  have first : decodeFirst cause head = .ok cn := by rw [decodeFirst, spelled]
  simp only [resolvePrincipal, first, decoded, bind, Except.bind]
  cases certificateTenant uris cn organization with
  | error e => rfl
  | ok tenantId => rfl

/-! ## Certificates of a tenant -/

/-- Where a certificate names its tenant. -/
inductive Encoding where
  | commonName
  | organization
  | spiffe
deriving DecidableEq

/-- The certificates that name a tenant in an encoding. -/
inductive Issued (tenantId worker : String) : Encoding → AuthContext → Prop
  | commonName {cn : AttributeValue} (names : List AttributeValue)
      (spelled : cn.decode = some (tenantId ++ "." ++ worker)) :
      Issued tenantId worker .commonName { x509CommonName := cn :: names }
  | organization {cn o : AttributeValue} (names organizations : List AttributeValue)
      (spelled : cn.decode = some worker) (named : o.decode = some tenantId) :
      Issued tenantId worker .organization
        { x509CommonName := cn :: names, x509Organization := o :: organizations }
  /-- Any CN, and any `O` that can be decoded. -/
  | spiffe {cn uri : AttributeValue} {subject domain : String} {organization : Option String}
      (names organizations uris : List AttributeValue) (spelled : cn.decode = some subject)
      (decoded : decodeOptional (fun _ => "") organizations = .ok organization)
      (inDomain : '/' ∉ domain.toList)
      (named : uri.decode =
        some ("spiffe://" ++ domain ++ "/tenant/" ++ tenantId ++ "/worker/" ++ worker)) :
      Issued tenantId worker .spiffe
        { x509CommonName := cn :: names
          x509Organization := organizations
          x509Uri := uri :: uris }

/-- The tenant id up to its first dot. -/
def beforeDot (tenantId : String) : String :=
  String.ofList (tenantId.toList.takeWhile (· ≠ '.'))

/-- What an encoding leaves of a tenant id. -/
def Encoding.decodes (tenantId : String) : Encoding → String
  | .commonName => beforeDot tenantId
  | .organization | .spiffe => tenantId

/-! ## The decoders -/

theorem beforeDot_eq_iff {tenantId : String} :
    beforeDot tenantId = tenantId ↔ '.' ∉ tenantId.toList := by
  constructor
  · intro same inside
    have whole : tenantId.toList.takeWhile (· ≠ '.') = tenantId.toList := by
      simpa [beforeDot] using congrArg String.toList same
    have kept := List.takeWhile_eq_self_iff.1 whole '.' inside
    simp at kept
  · intro absent
    have whole : tenantId.toList.takeWhile (· ≠ '.') = tenantId.toList := by
      refine List.takeWhile_eq_self_iff.2 fun c member => ?_
      exact decide_eq_true fun same => absent (same ▸ member)
    rw [beforeDot, whole, String.ofList_toList]

theorem decodes_eq_iff {tenantId : String} {encoding : Encoding} :
    encoding.decodes tenantId = tenantId ↔ (encoding = .commonName → '.' ∉ tenantId.toList) := by
  cases encoding with
  | commonName => exact beforeDot_eq_iff.trans (by simp)
  | organization => exact iff_of_true rfl nofun
  | spiffe => exact iff_of_true rfl nofun

theorem x509Subject_of_commonName {tenantId worker : String}
    (named : "tenant-".toList <+: tenantId.toList) :
    extractTenantFromX509Subject (tenantId ++ "." ++ worker) none = .ok (beforeDot tenantId) := by
  have spelled : (tenantId ++ "." ++ worker).toList = tenantId.toList ++ '.' :: worker.toList := by
    simp
  have starts : "tenant-".toList <+: (tenantId ++ "." ++ worker).toList := by
    rw [spelled]
    exact named.trans (List.prefix_append _ _)
  have upToDot : (tenantId.toList ++ '.' :: worker.toList).takeWhile (· ≠ '.') =
      tenantId.toList.takeWhile (· ≠ '.') := by
    rw [List.takeWhile_append]
    split
    · rename_i whole
      rw [List.takeWhile_cons, if_neg (by simp), List.append_nil]
      exact ((List.takeWhile_prefix _).eq_of_length whole).symm
    · rfl
  have head : (pySplit '.' (tenantId ++ "." ++ worker).toList).headD [] =
      tenantId.toList.takeWhile (· ≠ '.') := by
    rw [List.headD_eq_head?_getD, head?_pySplit, spelled, upToDot]
    rfl
  simp only [extractTenantFromX509Subject, Option.filter_none, if_pos starts, head]
  rfl

theorem x509Subject_of_organization {tenantId cn : String} (some_ : tenantId ≠ "") :
    extractTenantFromX509Subject cn (some tenantId) = .ok tenantId := by
  simp [extractTenantFromX509Subject, Option.filter, some_]

theorem spiffeId_of_tenant {domain tenantId worker : String} (inDomain : '/' ∉ domain.toList)
    (inTenant : '/' ∉ tenantId.toList) (some_ : tenantId ≠ "") :
    extractTenantFromSpiffeId
      ("spiffe://" ++ domain ++ "/tenant/" ++ tenantId ++ "/worker/" ++ worker) =
        some tenantId := by
  have spelled : ("spiffe://" ++ domain ++ "/tenant/" ++ tenantId ++ "/worker/" ++ worker).toList =
      "spiffe://".toList ++ (domain.toList ++ '/' :: ("tenant".toList ++ '/' ::
        (tenantId.toList ++ '/' :: ("worker/".toList ++ worker.toList)))) := by
    simp
  have after : "spiffe://".length = "spiffe://".toList.length := rfl
  have inWord : '/' ∉ "tenant".toList := by decide
  rw [extractTenantFromSpiffeId, spelled, if_pos (List.prefix_append _ _), after,
    List.drop_left, pySplit_append inDomain, pySplit_append inWord, pySplit_append inTenant]
  simp [some_]

/-! ## The encodings -/

variable (cause) in
/-- The principal that a certificate of a tenant resolves to. -/
theorem resolvePrincipal_of_issued {tenantId worker : String} {encoding : Encoding}
    {context : AuthContext} (named : "tenant-".toList <+: tenantId.toList)
    (inTenant : '/' ∉ tenantId.toList) (issued : Issued tenantId worker encoding context) :
    ∃ subject, resolvePrincipal cause context =
      .ok ⟨encoding.decodes tenantId, subject, .mtls, false⟩ := by
  have some_ : tenantId ≠ "" := by
    rintro rfl
    exact absurd named (by decide)
  cases issued with
  | commonName names spelled =>
      refine ⟨tenantId ++ "." ++ worker, ?_⟩
      have absent : decodeOptional cause [] = .ok none := rfl
      rw [resolvePrincipal_eq spelled absent, certificateTenant, List.findSome?_nil]
      simp only [x509Subject_of_commonName named]
      rfl
  | organization names organizations spelled organized =>
      rename_i cn o
      have decoded : decodeOptional cause (o :: organizations) = .ok (some tenantId) := by
        rw [decodeOptional, decodeFirst, organized]
        rfl
      refine ⟨worker, ?_⟩
      rw [resolvePrincipal_eq spelled decoded, certificateTenant, List.findSome?_nil]
      simp only [x509Subject_of_organization some_]
      rfl
  | spiffe names organizations uris spelled decodable inDomain located =>
      rename_i cn uri subject domain organization
      have found : uriTenant uri = some tenantId := by
        rw [uriTenant, located]
        exact spiffeId_of_tenant inDomain inTenant some_
      refine ⟨subject, ?_⟩
      rw [resolvePrincipal_eq spelled (decodeOptional_of_ok decodable), certificateTenant,
        List.findSome?_cons, found]
      rfl

/-- **The three encodings of a tenant agree, and no two tenants share a certificate.**  `O` and
the URI SAN resolve to the tenant itself; the CN resolves to what stands before the first dot of
the tenant id, which is the tenant where it has no dot.  So certificates of different tenants,
those of a CN without a dot in the tenant id, resolve to different tenants. -/
theorem encodings_agree :
    (∀ (tenantId worker : String) (encoding : Encoding) (context : AuthContext),
      "tenant-".toList <+: tenantId.toList → '/' ∉ tenantId.toList →
      Issued tenantId worker encoding context →
        ∃ principal, resolvePrincipal cause context = .ok principal ∧
          principal.tenantId = encoding.decodes tenantId ∧
          (principal.tenantId = tenantId ↔ (encoding = .commonName → '.' ∉ tenantId.toList))) ∧
      ∀ (tenantId other worker otherWorker : String) (encoding otherEncoding : Encoding)
        (context otherContext : AuthContext) (principal otherPrincipal : TenantPrincipal),
        "tenant-".toList <+: tenantId.toList → '/' ∉ tenantId.toList →
        (encoding = .commonName → '.' ∉ tenantId.toList) →
        "tenant-".toList <+: other.toList → '/' ∉ other.toList →
        (otherEncoding = .commonName → '.' ∉ other.toList) →
        Issued tenantId worker encoding context →
        Issued other otherWorker otherEncoding otherContext →
        resolvePrincipal cause context = .ok principal →
        resolvePrincipal cause otherContext = .ok otherPrincipal →
        principal.tenantId = otherPrincipal.tenantId → tenantId = other := by
  constructor
  · intro tenantId worker encoding context named inTenant issued
    obtain ⟨subject, resolved⟩ := resolvePrincipal_of_issued cause named inTenant issued
    exact ⟨_, resolved, rfl, decodes_eq_iff⟩
  · intro tenantId other worker otherWorker encoding otherEncoding context otherContext principal
      otherPrincipal named inTenant undotted otherNamed inOther otherUndotted issued otherIssued
      resolved otherResolved same
    obtain ⟨subject, first⟩ := resolvePrincipal_of_issued cause named inTenant issued
    obtain ⟨otherSubject, second⟩ :=
      resolvePrincipal_of_issued cause otherNamed inOther otherIssued
    obtain rfl := Except.ok.inj (first.symm.trans resolved)
    obtain rfl := Except.ok.inj (second.symm.trans otherResolved)
    calc tenantId = encoding.decodes tenantId := (decodes_eq_iff.2 undotted).symm
      _ = otherEncoding.decodes other := same
      _ = other := decodes_eq_iff.2 otherUndotted

section Examples

/-- A certificate with nothing but a CN. -/
private def named (cn : String) : AuthContext := { x509CommonName := [.str cn] }

private def organized (tenantId : String) : AuthContext :=
  { x509CommonName := [.str "w-7"], x509Organization := [.str tenantId] }

private def located (tenantId : String) : AuthContext :=
  { x509CommonName := [.str "w-7"]
    x509Uri := [.str ("spiffe://" ++ "lance" ++ "/tenant/" ++ tenantId ++ "/worker/" ++ "w-7")] }

private theorem issued_located (tenantId : String) :
    Issued tenantId "w-7" .spiffe (located tenantId) :=
  .spiffe [] [] [] rfl rfl (by decide : '/' ∉ "lance".toList) rfl

/-- The tenant that a certificate resolves to. -/
private def resolvedTenant (context : AuthContext) : Except AuthenticationError String :=
  (resolvePrincipal (fun _ => "") context).map TenantPrincipal.tenantId

/-- Three certificates of one tenant, and one of another; a worker id may have dots. -/
theorem encodings_agree_acme :
    resolvedTenant (named "tenant-acme.us-east-1.w-7") = .ok "tenant-acme" ∧
      resolvedTenant (organized "tenant-acme") = .ok "tenant-acme" ∧
      resolvedTenant (located "tenant-acme") = .ok "tenant-acme" ∧
      resolvedTenant (organized "tenant-acme") ≠ resolvedTenant (located "tenant-globex") := by
  have ⟨agree, apart⟩ := @encodings_agree fun _ => ""
  obtain ⟨dotted, first, -, same⟩ := agree "tenant-acme" "us-east-1.w-7" .commonName
    (named "tenant-acme.us-east-1.w-7") (by decide) (by decide) (.commonName [] rfl)
  obtain ⟨organization, second, -, sameToo⟩ := agree "tenant-acme" "w-7" .organization
    (organized "tenant-acme") (by decide) (by decide) (.organization [] [] rfl rfl)
  obtain ⟨uri, third, decoded, -⟩ := agree "tenant-acme" "w-7" .spiffe _ (by decide)
    (by decide) (issued_located "tenant-acme")
  obtain ⟨other, fourth, -, -⟩ := agree "tenant-globex" "w-7" .spiffe _ (by decide)
    (by decide) (issued_located "tenant-globex")
  refine ⟨?_, ?_, ?_, fun collide => ?_⟩
  · rw [resolvedTenant, first]
    exact congrArg Except.ok (same.2 fun _ => by decide)
  · rw [resolvedTenant, second]
    exact congrArg Except.ok (sameToo.2 nofun)
  · rw [resolvedTenant, third]
    exact congrArg Except.ok decoded
  · rw [resolvedTenant, resolvedTenant, second, fourth] at collide
    have one := apart "tenant-acme" "tenant-globex" "w-7" "w-7" .organization .spiffe _ _
      organization other (by decide) (by decide) nofun (by decide) (by decide) nofun
      (.organization [] [] rfl rfl) (issued_located "tenant-globex") second fourth
      (Except.ok.inj collide)
    exact absurd one (by decide)

/-- A tenant id with a dot loses what follows it, and then two tenants are one. -/
theorem dotted_tenants_collide :
    Issued "tenant-a.b" "w1" .commonName (named "tenant-a.b.w1") ∧
      Issued "tenant-a" "w2" .commonName (named "tenant-a.w2") ∧
      (resolvePrincipal (fun _ => "") (named "tenant-a.b.w1")).map TenantPrincipal.tenantId =
        .ok "tenant-a" ∧
      (resolvePrincipal (fun _ => "") (named "tenant-a.w2")).map TenantPrincipal.tenantId =
        .ok "tenant-a" :=
  ⟨.commonName [] rfl, .commonName [] rfl, by decide +kernel, by decide +kernel⟩

end Examples

end Lcp.Certificates
