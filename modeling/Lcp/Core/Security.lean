/-
# Core.Security -- tenant ids from credentials

The tenant of a call is a text out of its credential: a claim of the token, or a
segment of the SPIFFE id.  Neither extraction restricts the characters beyond what
its carrier does, so every nonempty text is a tenant id.
-/
import Lcp.Core.Python

namespace Lcp.Security

set_option autoImplicit false

/-- The `AuthenticationError` of an extraction. -/
structure AuthenticationError where
  message : String
deriving DecidableEq, Repr

/-- A claim that is a nonempty string. -/
def tenantClaim (claims : JsonDict) (key : String) : Option String :=
  match Json.get? claims key with
  | some (.str value) => if value ≠ "" then some value else none
  | _ => none

/-- Resolve a tenant id from JWT claims. -/
def extractTenantFromClaims (claims : JsonDict) : Except AuthenticationError String :=
  match ["tenant_id", "https://lance.dev/tenant", "org"].findSome? (tenantClaim claims) with
  | some value => .ok value
  | none => .error ⟨"Unable to resolve tenant_id from JWT claims; " ++
      "set a 'tenant_id' (or 'org') claim in the IdP"⟩

/-- Extract a tenant id from a SPIFFE URI `spiffe://<trust-domain>/tenant/<tenant_id>`. -/
def extractTenantFromSpiffeId (spiffeId : String) : Option String :=
  if "spiffe://".toList <+: spiffeId.toList then
    match pySplit '/' (spiffeId.toList.drop "spiffe://".length) with
    | _ :: second :: third :: _ =>
        if second = "tenant".toList ∧ third ≠ [] then some (String.ofList third) else none
    | _ => none
  else none

/-- Resolve a tenant id from an mTLS client certificate: `O`, or the CN up to its first dot. -/
def extractTenantFromX509Subject (subjectCn : String) (organization : Option String) :
    Except AuthenticationError String :=
  match organization.filter (· ≠ "") with
  | some organization => .ok organization
  | none =>
      if "tenant-".toList <+: subjectCn.toList then
        .ok (String.ofList ((pySplit '.' subjectCn.toList).headD []))
      else
        .error ⟨"Client certificate does not carry a tenant attribute; " ++
          "expected O=<tenant_id> or CN=tenant-<id>.<worker>"⟩

/-- Some credential makes this a tenant id. -/
def Extractable (tenantId : String) : Prop :=
  (∃ claims, extractTenantFromClaims claims = .ok tenantId) ∨
    ∃ spiffeId, extractTenantFromSpiffeId spiffeId = some tenantId

theorem tenantClaim_eq_some {claims : JsonDict} {key value : String}
    (found : tenantClaim claims key = some value) :
    Json.get? claims key = some (.str value) ∧ value ≠ "" := by
  unfold tenantClaim at found
  split at found
  · rename_i text got
    split at found
    · rename_i some_
      obtain rfl := Option.some.inj found
      exact ⟨got, some_⟩
    · cases found
  · cases found

theorem extractTenantFromSpiffeId_eq_some {spiffeId tenantId : String}
    (found : extractTenantFromSpiffeId spiffeId = some tenantId) :
    tenantId ≠ "" ∧ '/' ∉ tenantId.toList := by
  unfold extractTenantFromSpiffeId at found
  split at found
  · split at found
    · rename_i first second third rest parts
      split at found
      · rename_i both
        obtain rfl := Option.some.inj found
        refine ⟨fun empty => both.2 ?_, ?_⟩
        · simpa using congrArg String.toList empty
        · rw [String.toList_ofList]
          have listed : third ∈ pySplit '/' (spiffeId.toList.drop "spiffe://".length) := by
            rw [parts]
            simp
          exact notMem_of_mem_pySplit listed
      · cases found
    · cases found
  · cases found

/-- **Every nonempty text is a tenant id**, and no other is. -/
theorem extractable_iff {tenantId : String} : Extractable tenantId ↔ tenantId ≠ "" := by
  constructor
  · rintro (⟨claims, extracted⟩ | ⟨spiffeId, extracted⟩)
    · unfold extractTenantFromClaims at extracted
      split at extracted
      · rename_i value found
        obtain ⟨key, -, claim⟩ := List.exists_of_findSome?_eq_some found
        cases extracted
        exact (tenantClaim_eq_some claim).2
      · cases extracted
    · exact (extractTenantFromSpiffeId_eq_some extracted).1
  · intro some_
    refine .inl ⟨[("tenant_id", .str tenantId)], ?_⟩
    simp [extractTenantFromClaims, tenantClaim, Json.get?, some_]

end Lcp.Security
