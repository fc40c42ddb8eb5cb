import TenantApps.Tenant.Client

/-!
# `TenantApps.Tenant.Template` — client factory

A `Template` holds an adjustment of drafts that is applied for every tenant before the draft is
validated.
-/

namespace TenantApps

/-- A factory of clients. -/
structure Template where
  /-- The adjustment of the default draft. -/
  adjust : Draft → Draft := id

namespace Template

/-- The client for credentials `c`: the adjusted draft, validated by `Draft.accept`. -/
def client (t : Template) (c : Credentials) : Except ConfigError Client :=
  (t.adjust { credentials := c }).accept.map Client.mk

/-- The diagnostic text; the adjustment is a function and not shown. -/
def debug (_ : Template) : String := "IasClientFactory(..)"

end Template

end TenantApps
