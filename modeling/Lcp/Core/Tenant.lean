/-
# Core.Tenant -- the principal a call runs under

The context variable `_current_tenant` is read once per statement, so a call is
modelled with the principal it finds there as an argument; `none` is a context
nobody bound.
-/
import Mathlib.Init

namespace Lcp

set_option autoImplicit false

inductive AuthMethod where
  | oidc
  | mtls
  | system
deriving DecidableEq, Repr

/-- Identity and tenant of the inbound credential. -/
structure TenantPrincipal where
  tenantId : String
  subject : String
  authMethod : AuthMethod
  isSystem : Bool := false
deriving DecidableEq, Repr

/-- The rows of a protected table that a statement under this principal sees. -/
def TenantPrincipal.sees (principal : TenantPrincipal) (tenantId : String) : Bool :=
  principal.isSystem || tenantId = principal.tenantId

def SYSTEM_TENANT_ID : String := "__system__"

/-- The principal that `with_system_context` binds. -/
def systemPrincipal (subject : String) : TenantPrincipal :=
  { tenantId := SYSTEM_TENANT_ID, subject, authMethod := .system, isSystem := true }

/-- The guard `require_system_context`: true when the call may proceed. -/
def requireSystemContext : Option TenantPrincipal → Bool
  | some principal => principal.isSystem
  | none => false

@[simp] theorem requireSystemContext_system (subject : String) :
    requireSystemContext (some (systemPrincipal subject)) = true := rfl

/-! ## The principals of the examples -/

/-- A client with a token of the tenant. -/
def sdkOf (tenantId : String) : TenantPrincipal :=
  { tenantId, subject := "sdk", authMethod := .oidc }

/-- The context of a request of such a client of `acme`. -/
def acmeSdk : Option TenantPrincipal := some (sdkOf "acme")

/-- The context of a daemon, under `with_system_context()`. -/
def daemonContext : Option TenantPrincipal := some (systemPrincipal "scheduler")

end Lcp
