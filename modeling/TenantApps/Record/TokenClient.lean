import TenantApps.Error
import TenantApps.Record.Application
import TenantApps.Url.Parse

/-!
# `TenantApps.Record.TokenClient` — token requests for a created application

The parameters of a token request, from an `Application` whose token URL parses.
-/

namespace TenantApps

/-- Parameters of a token request. -/
structure TokenClient where
  clientId : String
  clientSecret : Secret
  /-- The token URL as given. -/
  tokenUri : String
  /-- The token URL, parsed. -/
  tokenUrl : Url

/-- Parses the token URL; a failure is `ConfigError.tokenUrl`. -/
def Application.tokenClient (a : Application) : Except ConfigError TokenClient :=
  match Url.parse a.tokenUrl with
  | .ok url => .ok ⟨a.clientId, a.clientSecret, a.tokenUrl, url⟩
  | .error e => .error (.tokenUrl e)

end TenantApps
