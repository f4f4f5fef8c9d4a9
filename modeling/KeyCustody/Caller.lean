import KeyCustody.Error
import KeyCustody.Sealed
import KeyCustody.Text.Blank
import KeyCustody.Text.Quoted

/-!
# Tenants and callers

A tenant is a space within an organisation: all rows and records belong to one. A caller is a
tenant with what else a request carries besides its body.
-/

namespace KeyCustody

structure Tenant where
  space : String
  org : String
  deriving DecidableEq, Repr

namespace Tenant

/-- Both names must hold more than blanks; the space is looked at first. -/
def make (space org : String) : Except Error Tenant :=
  if Text.isBlankText space then .error (.validation "Header Bluemix-Space required" "space")
  else if Text.isBlankText org then .error (.validation "Header Bluemix-Org required" "org")
  else .ok ⟨space, org⟩

instance : ToString Tenant := ⟨fun t => t.org ++ "/" ++ t.space⟩

end Tenant

structure Caller where
  tenant : Tenant
  correlationId : String
  authorization : Option Sealed
  deriving DecidableEq

namespace Caller

open Text.Quoted in
/-- The caller with all its parts; the credential stays masked. -/
def describe (c : Caller) : String :=
  "RequestContext \x7b tenant: TenantContext \x7b space: " ++ encode c.tenant.space ++
    ", org: " ++ encode c.tenant.org ++ " \x7d, correlation_id: " ++ encode c.correlationId ++
    ", authorization: " ++ c.authorization.elim "None" (fun a => "Some(" ++ a.describe ++ ")") ++
    " \x7d"

end Caller

end KeyCustody
