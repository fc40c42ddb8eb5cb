/-!
# `TenantApps.Stage` — the remote calls of an operation

Each request is sent in one `Stage`. The stage is part of every remote error and of the failure
counter; `label` is injective (`ofLabel?_label`).
-/

namespace TenantApps

/-- A remote call. -/
inductive Stage
  /-- List the applications with a given name. -/
  | lookupApplications
  /-- Delete the application that a creation replaces. -/
  | deleteExistingApplication
  /-- Create the application. -/
  | createApplication
  /-- Create the API secret of the new application. -/
  | createApiSecret
  /-- Read the new application back for its client ID. -/
  | retrieveClientId
  /-- Read `token_endpoint` from the discovery document. -/
  | fetchTokenUrl
  /-- Read `jwks_uri` from the discovery document. -/
  | fetchJwksUri
  /-- Delete an application on request. -/
  | deleteApplication
  deriving DecidableEq, Repr

namespace Stage

/-- All stages, in the order of an operation. -/
def all : List Stage :=
  [lookupApplications, deleteExistingApplication, createApplication, createApiSecret,
    retrieveClientId, fetchTokenUrl, fetchJwksUri, deleteApplication]

/-- The label in metrics and logs. -/
def label : Stage → String
  | lookupApplications => "lookup_applications"
  | deleteExistingApplication => "delete_existing_application"
  | createApplication => "create_application"
  | createApiSecret => "create_api_secret"
  | retrieveClientId => "retrieve_client_id"
  | fetchTokenUrl => "fetch_token_url"
  | fetchJwksUri => "fetch_jwks_uri"
  | deleteApplication => "delete_application"

/-- The prefix of the error message. -/
def description : Stage → String
  | lookupApplications => "Failed to fetch existing applications"
  | deleteExistingApplication => "Failed to delete existing application before creation"
  | createApplication => "Failed to create application"
  | createApiSecret => "Failed to create api secret"
  | retrieveClientId => "Failed to retrieve client ID"
  | fetchTokenUrl => "Failed to fetch token url"
  | fetchJwksUri => "Failed to fetch jwks uri"
  | deleteApplication => "Failed to delete application"

/-- Inverse of `label`. -/
def ofLabel? (s : String) : Option Stage := all.find? (·.label == s)

theorem ofLabel?_label (s : Stage) : ofLabel? s.label = some s := by cases s <;> decide

end Stage

end TenantApps
