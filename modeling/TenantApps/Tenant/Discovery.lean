import TenantApps.Procedure
import TenantApps.Settings

/-!
# `TenantApps.Tenant.Discovery` — cached addresses of the discovery document

`resolve` is single-flight: it runs `lookup` as a critical section of `Lock.endpoint`, so concurrent
callers wait for the request under way and then find the address in the cache. Only a found address
is cached, so a failed lookup is repeated by the next caller.

## Contents
- `Discovery`, with the request for the document and the reader of its response.
- `lookup`, `resolve` and `address`.
-/

namespace TenantApps

/-- The discovery document of a tenant. -/
structure Discovery where
  /-- The URL of the document. -/
  endpoint : Url
  /-- The timeout of its requests. -/
  timeout : Duration
  deriving DecidableEq

namespace Discovery

variable (d : Discovery)

/-- The diagnostic text. -/
def debug : String :=
  "DiscoveryResolver \x7b endpoint: " ++ Quoted.quote d.endpoint.text ++ ", timeout: " ++
    d.timeout.text ++ " \x7d"

/-- The `GET` of the document; it carries no authorization. -/
def request : Except ConfigError Http.Request :=
  match Http.Target.ofUrl d.endpoint with
  | .error e => .error (.request (.target e))
  | .ok target => .ok ⟨.get, target, [("accept", "application/json")], "", some d.timeout⟩

/-- Reads the document: `200` only. -/
def readDocument (stage : Stage) (response : Http.Response) : Attempt DiscoveryDocument :=
  if response.status ≠ 200 then .reject stage response
  else .decode stage DiscoveryDocument.decoder response

/-- Fetches the document in `stage`. -/
def document (stage : Stage) : Attempt DiscoveryDocument :=
  .ask stage d.request (readDocument stage)

/-- The stage in which an address is fetched. -/
def stage : Endpoint → Stage
  | .token => .fetchTokenUrl
  | .keys => .fetchJwksUri

/-- Caches an address that was found. -/
def keep (e : Endpoint) : Option String → Procedure (Except Error (Option String))
  | some address => .remember e address (.done (.ok (some address)))
  | none => .done (.ok none)

/-- The cached address, or the one of a freshly fetched document. -/
def lookup (e : Endpoint) : Attempt (Option String) :=
  Procedure.consult e fun
    | some address => .done (.ok (some address))
    | none => (do
        let doc ← d.document (stage e)
        .ofProcedure (keep e (e.pick doc)) : Attempt (Option String))

/-- `lookup` under the lock of the endpoint. -/
def resolve (e : Endpoint) : Attempt (Option String) := .locked (.endpoint e) (d.lookup e)

/-- `resolve`; a document without the address is `Error.missingField`. -/
def address (e : Endpoint) : Attempt String := do
  .require (stage e) e.field.label (← d.resolve e)

end Discovery

end TenantApps
