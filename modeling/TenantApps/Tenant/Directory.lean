import TenantApps.Procedure
import TenantApps.Record.Payload
import TenantApps.Text.Split

/-!
# `TenantApps.Tenant.Directory` — the applications API

Each operation is one `Attempt.ask`: it builds one request with the authorization header and reads
the response with a `read…` function that accepts certain statuses and rejects all others.

## Contents
- `Directory`, the `Applications/v1/` collection with the authorization; `place`, `request`,
  `requestAt`.
- `find` (`GET` with `lookupUrl`), `create` (`POST`), `createSecret` (`POST <id>/apiSecrets`),
  `fetch` (`GET <id>`) and `delete` (`DELETE <id>`), each beside the reader of its response.
- `applicationId`, the UUID at the end of a `Location` header.
-/

namespace TenantApps

/-- The applications collection of a tenant. -/
structure Directory where
  /-- The URL of the collection. -/
  endpoint : Url
  /-- The value of the `authorization` header. -/
  authorization : Secret
  deriving DecidableEq

/-- Outcome of an accepted deletion. -/
inductive Deletion
  /-- The application was deleted. -/
  | deleted
  /-- The application did not exist. -/
  | notFound
  deriving DecidableEq, Repr

/-- The UUID in the last path segment of a `Location` value; a missing header is read as empty. -/
def applicationId (location : Option String) : Except Error Uuid :=
  let place := location.getD ""
  (Uuid.parse (String.ofList (Text.afterLast '/' place.toList))).mapError
    (.applicationIdHeader place)

namespace Directory

variable (d : Directory)

/-- The collection at `endpoint`, with basic authentication. -/
def ofCredentials (endpoint : Url) (c : Credentials) : Directory := ⟨endpoint, c.basicAuthorization⟩

/-- The diagnostic text. -/
def debug : String :=
  "ApplicationsApi \x7b endpoint: " ++ Quoted.quote d.endpoint.text ++ ", authorization: " ++
    d.authorization.debug ++ " \x7d"

/-- The media type of requests and responses. -/
def mediaType : String := "application/json"

/-- The URL of the record `id`, or of a resource below it, relative to the collection. -/
def place (id : Uuid) (suffix : List String) : Except ConfigError Url :=
  (d.endpoint.sibling (id.text :: suffix)).mapError (.tenantUrl d.endpoint.text)

/-- A request with authorization, and with a JSON body if there is one. -/
def request (method : Http.Method) (url : Url) (body : Option Json.Value) :
    Except ConfigError Http.Request :=
  match Http.Target.ofUrl url with
  | .error e => .error (.request (.target e))
  | .ok target =>
    let headers := [("authorization", d.authorization.exposed), ("accept", mediaType)]
    .ok (match body with
      | none => ⟨method, target, headers, "", none⟩
      | some v => ⟨method, target, headers ++ [("content-type", mediaType)], v.print, none⟩)

/-- A request for `place id suffix`. -/
def requestAt (method : Http.Method) (id : Uuid) (suffix : List String)
    (body : Option Json.Value) : Except ConfigError Http.Request := do
  d.request method (← d.place id suffix) body

/-! ## Lookups -/

/-- The collection with the query pair `filter=name eq <name>`. -/
def lookupUrl (name : ApplicationName) : Url := d.endpoint.addPair "filter" name.filter

/-- The record of a page with at most one; more records are `Error.multipleApplications`. The name
of the record is not compared with `name`. -/
def single (name : ApplicationName) (page : ApplicationPage) : Attempt (Option ApplicationRecord) :=
  match page.applications.getD [] with
  | [] => pure none
  | [r] => pure (some r)
  | rs => throw (.multipleApplications name.text rs.length)

/-- Reads a lookup: `404` means no application, `200` carries a page. -/
def readLookup (name : ApplicationName) (response : Http.Response) :
    Attempt (Option ApplicationRecord) := do
  let stage := Stage.lookupApplications
  if response.status = 404 then return none
  if response.status ≠ 200 then .reject stage response
  else single name (← .decode stage ApplicationPage.decoder response)

/-- Looks up the application named `name`. -/
def find (name : ApplicationName) : Attempt (Option ApplicationRecord) :=
  .ask .lookupApplications (d.request .get (d.lookupUrl name) none) (readLookup name)

/-! ## Creation -/

/-- Reads a creation: `201` with the new ID in `Location`. -/
def readCreation (response : Http.Response) : Attempt Uuid :=
  if response.status ≠ 201 then .reject .createApplication response
  else .ofProcedure (.done (applicationId (response.headerText? "location")))

/-- Creates an application named `name`. -/
def create (name : ApplicationName) : Attempt Uuid :=
  .ask .createApplication (d.request .post d.endpoint (some (Payload.newApplication name.text)))
    readCreation

/-- Reads the creation of a secret: `201` with a non-empty `secret`. -/
def readSecret (response : Http.Response) : Attempt Secret := do
  let stage := Stage.createApiSecret
  if response.status ≠ 201 then .reject stage response
  else
    let answer ← .decode stage SecretAnswer.decoder response
    return ⟨← .require stage "secret" (answer.secret.filter (· ≠ ""))⟩

/-- Creates an API secret of application `id`. -/
def createSecret (id : Uuid) (description : String) : Attempt Secret :=
  .ask .createApiSecret
    (d.requestAt .post id ["apiSecrets"] (some (Payload.newSecret description))) readSecret

/-! ## Single applications -/

/-- Reads a record: `200` with the record as body. -/
def readRecord (response : Http.Response) : Attempt ApplicationRecord :=
  let stage := Stage.retrieveClientId
  if response.status ≠ 200 then .reject stage response
  else .decode stage ApplicationRecord.decoder response

/-- Reads application `id` back. -/
def fetch (id : Uuid) : Attempt ApplicationRecord :=
  .ask .retrieveClientId (d.requestAt .get id [] none) readRecord

/-- Reads a deletion: `404` is `notFound`, any success status is `deleted`. -/
def readDeletion (stage : Stage) (response : Http.Response) : Attempt Deletion := do
  if response.status = 404 then return .notFound
  if response.isSuccess then return .deleted
  else .reject stage response

/-- Deletes application `id`. -/
def delete (id : Uuid) (stage : Stage) : Attempt Deletion :=
  .ask stage (d.requestAt .delete id [] none) (readDeletion stage)

end Directory

end TenantApps
