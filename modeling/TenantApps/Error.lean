import TenantApps.Http.Exchange
import TenantApps.Name
import TenantApps.Stage
import TenantApps.Uuid

/-!
# `TenantApps.Error` — error types, messages, stages

`ConfigError` covers failures on the client's side, before or while a request is built. Every other
`Error` belongs to the `Stage` whose request failed or whose response was not usable; `Error.stage`
and `Error.status` project these.

## Contents
- `ConfigError` with `message` and `causes`.
- `Error` with `message`, `causes`, `stage` and `status`.
-/

namespace TenantApps

/-- Why a well-formed tenant URL is rejected. -/
inductive Unsupported
  /-- The scheme is neither `http` nor `https`. -/
  | scheme
  /-- A query or a fragment is present. -/
  | queryOrFragment
  deriving DecidableEq, Repr

/-- The clause that `ConfigError.message` embeds. -/
def Unsupported.reason : Unsupported → String
  | scheme => "scheme must be http or https"
  | queryOrFragment => "query and fragment are not allowed"

/-- A configuration error. -/
inductive ConfigError
  /-- The HTTP client could not be built; the chain of causes, outermost first. -/
  | clientBuild (causes : List String)
  /-- The HTTP library refused to build a request. -/
  | request (e : Http.RequestError)
  /-- The tenant URL does not parse. -/
  | tenantUrl (raw : String) (e : UrlError)
  /-- The tenant URL parses but is `Unsupported`. -/
  | unsupportedUrl (raw : String) (why : Unsupported)
  /-- The user name is empty. -/
  | missingUsername
  /-- The discovery timeout is zero. -/
  | zeroTimeout
  /-- The description of API secrets is empty. -/
  | emptyDescription
  /-- The application name is invalid. -/
  | name (e : NameError)
  /-- The `token_endpoint` of the discovery document does not parse. -/
  | tokenUrl (e : UrlError)
  deriving DecidableEq, Repr

namespace ConfigError

/-- The message text. -/
def message : ConfigError → String
  | clientBuild _ => "HTTP client could not be constructed."
  | request e => e.message
  | tenantUrl raw _ => "Tenant URL `" ++ raw ++ "` is invalid."
  | unsupportedUrl raw why => "Tenant URL `" ++ raw ++ "` is unsupported: " ++ why.reason ++ "."
  | missingUsername => "Tenant username cannot be empty."
  | zeroTimeout => "Discovery timeout must be greater than zero."
  | emptyDescription => "API secret description cannot be empty."
  | name _ => "Application name is invalid."
  | tokenUrl _ => "Token URL is invalid."

/-- The messages of the causes, outermost first. -/
def causes : ConfigError → List String
  | clientBuild causes => causes
  | tenantUrl _ e | tokenUrl e => [e.message]
  | name e => [e.message]
  | _ => []

end ConfigError

/-- The error of an operation. -/
inductive Error
  /-- A configuration error; it has no stage. -/
  | config (e : ConfigError)
  /-- A request got no response. -/
  | transport (stage : Stage) (e : Http.TransportError)
  /-- The response has a status outside those that the stage accepts. -/
  | unexpectedStatus (stage : Stage) (status : Nat)
  /-- The body of an accepted response does not decode. -/
  | responseParse (stage : Stage) (status : Nat) (e : Json.Failure)
  /-- The lookup returned more than one record. -/
  | multipleApplications (name : String) (count : Nat)
  /-- The `Location` of a created application does not end in a UUID. -/
  | applicationIdHeader (location : String) (e : Uuid.ParseError)
  /-- A decoded response lacks a field that the stage needs. -/
  | missingField (stage : Stage) (field : String)
  deriving DecidableEq, Repr

namespace Error

/-- The message text. -/
def message : Error → String
  | config e => e.message
  | transport stage _ => stage.description ++ ": transport failure."
  | unexpectedStatus stage status =>
    stage.description ++ ": unexpected HTTP status " ++ toString status ++ "."
  | responseParse stage status _ =>
    stage.description ++ ": response body is malformed (HTTP " ++ toString status ++ ")."
  | multipleApplications name count =>
    "Found multiple applications with the same name " ++ name ++ " (" ++ toString count ++
      " matches)."
  | applicationIdHeader location _ =>
    "Failed to retrieve application ID from header `" ++ location ++ "`."
  | missingField stage field => stage.description ++ ": response is missing `" ++ field ++ "`."

/-- The messages of the causes, outermost first. -/
def causes : Error → List String
  | config e => e.causes
  | transport _ e => e.chain
  | applicationIdHeader _ e => [e.message]
  | _ => []

/-- The failed stage; `none` exactly for `config`. -/
def stage : Error → Option Stage
  | config _ => none
  | transport s _ | unexpectedStatus s _ | responseParse s _ _ | missingField s _ => some s
  | multipleApplications .. => some .lookupApplications
  | applicationIdHeader .. => some .createApplication

/-- The HTTP status that the error carries. -/
def status : Error → Option Nat
  | unexpectedStatus _ s | responseParse _ s _ => some s
  | _ => none

end Error

end TenantApps
