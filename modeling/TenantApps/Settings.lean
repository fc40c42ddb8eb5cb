import TenantApps.Duration
import TenantApps.Error
import TenantApps.Secret
import TenantApps.Url.Parse

/-!
# `TenantApps.Settings` — client configuration

`Draft.accept` validates a configuration and derives the two service addresses from the tenant URL.
`Settings` is its result, the only form the client uses.

## Contents
- `Draft`, the unvalidated configuration with its defaults.
- `tenantBase`, `applicationsPath` and `discoveryPath`, the parts of the addresses.
- `Settings`, `Draft.accept` and `Settings.debug`.
-/

namespace TenantApps

/-- Configuration as the caller builds it. -/
structure Draft where
  /-- Tenant URL and technical user. -/
  credentials : Credentials
  /-- Timeout of a discovery request. -/
  timeout : Duration := .ofSecs 5
  /-- Description put on API secrets. -/
  description : String := "ias-provisioner"
  /-- Whether operations on one name take its guard. -/
  serializeByName : Bool := true

/-- Validated configuration. -/
structure Settings where
  credentials : Credentials
  /-- The `Applications/v1/` collection. -/
  applications : Url
  /-- The `openid-configuration` document. -/
  discovery : Url
  timeout : Duration
  description : String
  serializeByName : Bool
  deriving DecidableEq

/-- The tenant URL as a base: scheme `http` or `https`, no query or fragment, trailing slash. -/
def tenantBase (raw : String) : Except ConfigError Url :=
  match Url.parse raw with
  | .error e => .error (.tenantUrl raw e)
  | .ok u =>
    if u.scheme ≠ "http" ∧ u.scheme ≠ "https" then .error (.unsupportedUrl raw .scheme)
    else if u.query.isSome ∨ u.fragment.isSome then .error (.unsupportedUrl raw .queryOrFragment)
    else .ok u.closeFolder

/-- Path of the collection relative to the tenant. -/
def applicationsPath : List String := ["Applications", "v1", ""]

/-- Path of the discovery document relative to the tenant. -/
def discoveryPath : List String := [".well-known", "openid-configuration"]

namespace Draft

/-- `path` resolved against the tenant; a failure is reported as `ConfigError.tenantUrl`. -/
def below (raw : String) (tenant : Url) (path : List String) : Except ConfigError Url :=
  (tenant.sibling path).mapError (.tenantUrl raw)

/-- Validates a draft. The checks run in this order and the first failing one decides the error. -/
def accept (d : Draft) : Except ConfigError Settings := do
  if d.credentials.username = "" then throw .missingUsername
  if d.timeout.isZero then throw .zeroTimeout
  if d.description = "" then throw .emptyDescription
  let tenant ← tenantBase d.credentials.url
  let applications ← below d.credentials.url tenant applicationsPath
  let discovery ← below d.credentials.url tenant discoveryPath
  return ⟨d.credentials, applications, discovery, d.timeout, d.description, d.serializeByName⟩

end Draft

namespace Settings

/-- The diagnostic text. -/
def debug (s : Settings) : String :=
  "ClientConfig \x7b credentials: " ++ s.credentials.debug ++
    ", applications_endpoint: " ++ s.applications.debug ++
    ", discovery_endpoint: " ++ s.discovery.debug ++
    ", discovery_timeout: " ++ s.timeout.text ++
    ", secret_description: " ++ Quoted.quote s.description ++
    ", serialize_by_name: " ++ (if s.serializeByName then "true" else "false") ++ " \x7d"

end Settings

end TenantApps
