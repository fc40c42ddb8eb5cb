import TenantApps.Duration
import TenantApps.Http.Target
import TenantApps.Text.Utf8

/-!
# `TenantApps.Http.Exchange` — requests, responses, outcomes

The `Outcome` of a request is a response, a transport failure, or a refusal of the HTTP library to
build the request.

## Contents
- `Method`, `Request` and `Response`.
- `RequestError`, `TransportError` and `Outcome`.
- `Script`, a transport that replays a list of outcomes; `Outcome.offline`, the outcome of a request
  whose scheme is not HTTP.
-/

namespace TenantApps.Http

/-- The request methods in use. -/
inductive Method
  | get
  | post
  | delete
  deriving DecidableEq, Repr

/-- The method token. -/
def Method.text : Method → String
  | get => "GET"
  | post => "POST"
  | delete => "DELETE"

/-- An HTTP request. -/
structure Request where
  method : Method
  target : Target
  /-- Header fields with lower-case names. -/
  headers : List (String × String)
  /-- The body; empty if there is none. -/
  body : String := ""
  /-- Timeout of the whole exchange. -/
  timeout : Option Duration := none
  deriving DecidableEq, Repr

/-- An HTTP response. -/
structure Response where
  status : Nat
  /-- Header fields in order of arrival. -/
  headers : List (String × List UInt8) := []
  body : List UInt8 := []
  deriving DecidableEq, Repr

/-- Bytes that may be read as header text: visible ASCII, space, tab. -/
def isHeaderText (b : UInt8) : Bool := (0x20 ≤ b && b < 0x7f) || b == 0x09

/-- The first header field named `name`, if its value is text. -/
def Response.headerText? (r : Response) (name : String) : Option String :=
  match r.headers.find? fun h => h.1.toLower == name with
  | some (_, value) => if value.all isHeaderText then Utf8.ofBytes? value else none
  | none => none

/-- Whether the status is 2xx. -/
def Response.isSuccess (r : Response) : Bool := 200 ≤ r.status && r.status < 300

/-- Why a request cannot be built. -/
inductive RequestError
  | target (e : TargetError)
  | statusCode
  | method
  | headerName
  | headerValue
  deriving DecidableEq, Repr

/-- The message text. -/
def RequestError.message : RequestError → String
  | target e => e.message
  | statusCode => "invalid status code"
  | method => "invalid HTTP method"
  | headerName => "invalid HTTP header name"
  | headerValue => "failed to parse header value"

/-- Why a request got no response. -/
inductive TransportError
  /-- A network failure with its causes, outermost first. -/
  | network (causes : List String)
  /-- An input or output failure. -/
  | io (kind message : String)
  /-- A failure reported by the transport itself. -/
  | other (message : String)
  deriving DecidableEq, Repr

/-- The message and the messages of the causes, outermost first. -/
def TransportError.chain : TransportError → List String
  | network causes => "Network error occurred while calling the tenant." :: causes
  | io _ message => ["I/O error occurred while calling the tenant.", message]
  | other message => ["HTTP client failed: " ++ message ++ "."]

/-- The outcome of a request. -/
inductive Outcome
  /-- A response arrived. -/
  | answered (r : Response)
  /-- No response arrived. -/
  | failed (e : TransportError)
  /-- The request could not be built. -/
  | refused (e : RequestError)
  deriving DecidableEq, Repr

/-! ## Transports -/

/-- The outcomes still to be replayed. -/
abbrev Script := List Outcome

/-- Replays the next outcome; an exhausted script fails. -/
def Script.exchange (s : Script) (_ : Request) : Outcome × Script :=
  match s with
  | o :: rest => (o, rest)
  | [] => (.failed (.other "no scripted reply"), [])

/-- The failure of a request whose scheme is neither `http` nor `https`. -/
def Outcome.offline (r : Request) : Outcome :=
  .failed (.network ["builder error for url (" ++ r.target.text ++ ")",
    "URL scheme is not allowed"])

end TenantApps.Http
