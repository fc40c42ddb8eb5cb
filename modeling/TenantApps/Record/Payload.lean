import TenantApps.Record.Application

/-!
# `TenantApps.Record.Payload` — request bodies

The JSON bodies of the two `POST` requests.

## Contents
- `Payload.newApplication`, the body of an application creation.
- `Payload.newSecret`, the body of a secret creation.
-/

namespace TenantApps.Payload

open Json

/-- An application named `name` with OpenID Connect sign-on. -/
def newApplication (name : String) : Value :=
  .object [("name", .text name), ("branding", Branding.json ⟨some name⟩),
    ("schemas", .array [.text authenticationUrn]),
    (authenticationUrn, Authentication.json ⟨some .openIdConnect, none⟩)]

/-- The authorization scope of created secrets. -/
def secretScope : String := "oAuth"

/-- A secret with `description` and `secretScope`. -/
def newSecret (description : String) : Value :=
  .object [("authorizationScopes", .array [.text secretScope]), ("description", .text description)]

end TenantApps.Payload
