import TenantApps.Base64
import TenantApps.Json.Decoder
import TenantApps.Text.Quoted

/-!
# `TenantApps.Secret` — redacted texts and credentials

`Secret` wraps a string whose diagnostics are a constant; only `json` and `basicAuthorization`
expose it.

## Contents
- `Secret` with `debug`, `decoder` and `json`.
- `Credentials` and `basicAuthorization`.
-/

namespace TenantApps

/-- A string that diagnostics redact. -/
structure Secret where
  exposed : String
  deriving DecidableEq

namespace Secret

/-- The placeholder shown for every secret. -/
def display (_ : Secret) : String := "<redacted>"

/-- The diagnostic text, independent of the secret. -/
def debug (s : Secret) : String := "Secret(" ++ Quoted.quote s.display ++ ")"

/-- Whether the secret is empty. -/
def isEmpty (s : Secret) : Bool := s.exposed == ""

/-- The deserializer. -/
def decoder : Json.Decoder Secret := fun n => (Json.Decoder.text n).map Secret.mk

/-- The serializer; it exposes the text. -/
def json (s : Secret) : Json.Value := .text s.exposed

end Secret

/-- Tenant URL with the technical user that administers it. -/
structure Credentials where
  url : String := ""
  username : String := ""
  password : Secret := ⟨""⟩
  deriving DecidableEq

namespace Credentials

/-- Whether all three parts are empty. -/
def isEmpty (c : Credentials) : Bool := c.url == "" && c.username == "" && c.password.isEmpty

/-- Value of the `Authorization` header: `Basic` and the Base64 of `username:password`. -/
def basicAuthorization (c : Credentials) : Secret :=
  ⟨"Basic " ++ String.ofList
    (Base64.encode (Utf8.bytes (c.username ++ ":" ++ c.password.exposed)))⟩

/-- The diagnostic text; the password is redacted. -/
def debug (c : Credentials) : String :=
  "Credentials \x7b url: " ++ Quoted.quote c.url ++ ", username: " ++ Quoted.quote c.username ++
    ", password: " ++ c.password.debug ++ " \x7d"

end Credentials

end TenantApps
