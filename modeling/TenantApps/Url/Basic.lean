import TenantApps.Form
import TenantApps.Url.Host

/-!
# `TenantApps.Url.Basic` — URL records

A parsed URL: scheme, optional authority, path, optional query and fragment. The components are in
serialized form, percent-encoded.

## Contents
- `Authority`, `Path` and `Url`, with their texts.
- The updates `Url.addPair` (query), `Url.closeFolder` and `Url.sibling` (path).
- `Url.debug`, the diagnostic text.
-/

namespace TenantApps

/-- User information, host and port. -/
structure Authority where
  username : String := ""
  password : Option String := none
  /-- `none` for the empty host. -/
  host : Option Host
  /-- `none` for the default port of the scheme. -/
  port : Option Nat := none
  deriving DecidableEq, Repr

/-- The serialized authority. -/
def Authority.text (a : Authority) : String :=
  let password := match a.password with
    | some p => ":" ++ p
    | none => ""
  let user := if a.username = "" ∧ a.password = none then "" else a.username ++ password ++ "@"
  let host := match a.host with
    | some h => h.text
    | none => ""
  let port := match a.port with
    | some p => ":" ++ toString p
    | none => ""
  user ++ host ++ port

/-- The path component. -/
inductive Path
  /-- An opaque path. -/
  | plain (text : String)
  /-- A list of segments, each preceded by a slash. -/
  | segments (parts : List String)
  deriving DecidableEq, Repr

/-- The serialized path. -/
def Path.text : Path → String
  | plain s => s
  | segments parts => String.join (parts.map ("/" ++ ·))

/-- A URL. -/
structure Url where
  /-- The scheme, in lower case. -/
  scheme : String
  authority : Option Authority
  path : Path
  /-- `some ""` for a bare `?`. -/
  query : Option String := none
  /-- `some ""` for a bare `#`. -/
  fragment : Option String := none
  deriving DecidableEq, Repr

namespace Url

/-- An optional component with its delimiter. -/
def marked (mark : String) : Option String → String
  | some s => mark ++ s
  | none => ""

/-- The prefix `/.` of a path that would otherwise be read as an authority. -/
def pathGuard (u : Url) : String :=
  match u.authority, u.path with
  | none, .segments ("" :: _ :: _) => "/."
  | _, _ => ""

/-- The URL without fragment. -/
def requestText (u : Url) : String :=
  u.scheme ++ ":" ++ marked "//" (u.authority.map Authority.text) ++ u.pathGuard ++ u.path.text ++
    marked "?" u.query

/-- The serialized URL. -/
def text (u : Url) : String := u.requestText ++ marked "#" u.fragment

/-- Appends a form-encoded pair to the query. -/
def addPair (u : Url) (name value : String) : Url :=
  let pair := String.ofList (Form.encodePair name value)
  { u with query := some (match u.query with
      | none | some "" => pair
      | some q => q ++ "&" ++ pair) }

/-- Ends the path with a slash; opaque paths are unchanged. -/
def closeFolder (u : Url) : Url :=
  match u.path with
  | .segments parts =>
    if parts.getLast? = some "" then u else { u with path := .segments (parts ++ [""]) }
  | .plain _ => u

/-- Replaces the last path segment by `parts` and drops query and fragment. -/
def sibling (u : Url) (parts : List String) : Except UrlError Url :=
  match u.path with
  | .segments ps =>
    .ok { u with path := .segments (ps.dropLast ++ parts), query := none, fragment := none }
  | .plain _ => .error .baseWithoutSegments

/-! ## Diagnostics -/

/-- An optional text. -/
def debugOption : Option String → String
  | some s => "Some(" ++ s ++ ")"
  | none => "None"

/-- The diagnostic text: all components with their names. -/
def debug (u : Url) : String :=
  let quoted (s : Option String) := debugOption (s.map Quoted.quote)
  let plain := match u.path with
    | .plain _ => "true"
    | .segments _ => "false"
  let authority := u.authority.getD ⟨"", none, none, none⟩
  "Url \x7b scheme: " ++ Quoted.quote u.scheme ++ ", cannot_be_a_base: " ++ plain ++
    ", username: " ++ Quoted.quote authority.username ++
    ", password: " ++ quoted authority.password ++
    ", host: " ++ debugOption (authority.host.map Host.debug) ++
    ", port: " ++ debugOption (authority.port.map toString) ++
    ", path: " ++ Quoted.quote u.path.text ++ ", query: " ++ quoted u.query ++
    ", fragment: " ++ quoted u.fragment ++ " \x7d"

end Url

end TenantApps
