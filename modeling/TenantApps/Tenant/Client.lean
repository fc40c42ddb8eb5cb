import TenantApps.Tenant.Directory
import TenantApps.Tenant.Discovery

/-!
# `TenantApps.Tenant.Client` — creating and deleting applications by name

`createApplication` validates the name, deletes an existing application of that name, creates the
new one and collects what it takes to use it; `deleteApplication` deletes by name. With
`serializeByName` each runs as a critical section of `Lock.name`. Both are `observed`: counted and
logged in a span.

## Contents
- `Client`, with `directory` and `discovery` derived from its `Settings`.
- The bodies `recreate` and `remove`, and their wrappers `serialized`, `onName`, `observed`.
- `createApplication` and `deleteApplication`.
- `Call`, `Answer` and `Client.answer`, all entry points as one function.
-/

namespace TenantApps

/-- A client of one tenant. -/
structure Client where
  settings : Settings
  deriving DecidableEq

/-- The public entry points with their arguments. -/
inductive Call
  | create (name : String)
  | delete (name : String)
  | tokenUrl
  | jwksUri
  | credentials
  | settings
  deriving DecidableEq, Repr

/-- The results of the entry points. -/
inductive Answer
  | created (a : Application)
  | deleted
  | address (s : String)
  | credentials (c : Credentials)
  | settings (s : Settings)
  deriving DecidableEq

namespace Client

variable (c : Client)

/-- The applications API with the credentials of the client. -/
def directory : Directory := .ofCredentials c.settings.applications c.settings.credentials

/-- The discovery document with the timeout of the client. -/
def discovery : Discovery := ⟨c.settings.discovery, c.settings.timeout⟩

/-- The diagnostic text. -/
def debug : String :=
  "IasClient \x7b config: " ++ c.settings.debug ++ ", discovery: " ++ c.discovery.debug ++ " \x7d"

/-- The `token_endpoint`, cached. -/
def tokenUrl : Attempt String := c.discovery.address .token

/-- The `jwks_uri`, cached. -/
def jwksUri : Attempt String := c.discovery.address .keys

/-! ## Operations on a name -/

/-- Lookup, then `DELETE` of the record found. A record that is gone by then is not an error. -/
def removeExisting (name : ApplicationName) : Attempt Unit := do
  match ← c.directory.find name with
  | none => return ()
  | some existing =>
    match ← c.directory.delete existing.id .deleteExistingApplication with
    | .deleted => .logChange .deletedExisting name existing.id
    | .notFound => return ()

/-- `removeExisting`, then create, secret, fetch and both addresses, in this order. -/
def recreate (name : ApplicationName) : Attempt Application := do
  c.removeExisting name
  let id ← c.directory.create name
  .logChange .created name id
  let secret ← c.directory.createSecret id c.settings.description
  let record ← c.directory.fetch id
  let clientId ← .require .retrieveClientId "clientId" record.clientId
  let tokenUrl ← c.tokenUrl
  let jwksUri ← c.jwksUri
  return ⟨name.text, id.text, clientId, secret, tokenUrl, jwksUri⟩

/-- Lookup, then `DELETE` of the record found; a missing application is not an error. -/
def remove (name : ApplicationName) : Attempt Unit := do
  match ← c.directory.find name with
  | none => return ()
  | some existing =>
    match ← c.directory.delete existing.id .deleteApplication with
    | .deleted => .logChange .deleted name existing.id
    | .notFound => return ()

/-- Runs `a` under the guard of `name` if `serializeByName` is set. -/
def serialized {α : Type} (name : ApplicationName) (a : Attempt α) : Attempt α :=
  if c.settings.serializeByName then .locked (.name name) a else a

/-- Validates `s` before anything else; an invalid name fails without a request. -/
def onName {α : Type} (s : String) (a : ApplicationName → Attempt α) : Attempt α :=
  match ApplicationName.check s with
  | .ok name => c.serialized name (a name)
  | .error e => throw (.config (.name e))

/-- Opens the span, counts the attempt, runs `a` and counts its outcome. -/
def observed {α : Type} (op : Operation) (s : String) (a : Attempt α) : Attempt α :=
  let span : Telemetry.Span := ⟨op, s⟩
  Procedure.emit (.opened span) <| .emit (.counted (.total op .attempt)) <|
    (a.run.inSpan span).bind fun r =>
      let ended : Option (Option Stage) := match r with
        | .ok _ => none
        | .error e => some e.stage
      (Procedure.emitAll ((Telemetry.Count.ofEnd op ended).map .counted)).bind fun () => .done r

/-- Creates the application named `s`, replacing the existing one. -/
def createApplication (s : String) : Attempt Application :=
  observed .createApplication s (c.onName s c.recreate)

/-- Deletes the application named `s`. -/
def deleteApplication (s : String) : Attempt Unit :=
  observed .deleteApplication s (c.onName s c.remove)

/-! ## Calls -/

/-- The procedure of an entry point. -/
def answer : Call → Attempt Answer
  | .create name => Answer.created <$> c.createApplication name
  | .delete name => (fun () => Answer.deleted) <$> c.deleteApplication name
  | .tokenUrl => Answer.address <$> c.tokenUrl
  | .jwksUri => Answer.address <$> c.jwksUri
  | .credentials => pure (.credentials c.settings.credentials)
  | .settings => pure (.settings c.settings)

end Client

end TenantApps
