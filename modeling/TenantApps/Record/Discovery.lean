import TenantApps.Json.Schema

/-!
# `TenantApps.Record.Discovery` — the discovery document

The OpenID Connect discovery document, reduced to three members, and `Endpoint`, the two addresses
that clients resolve.
-/

namespace TenantApps

open Json

/-- The discovery document. -/
structure DiscoveryDocument where
  issuer : Option String := none
  tokenEndpoint : Option String := none
  jwksUri : Option String := none
  deriving DecidableEq, Repr

namespace DiscoveryDocument

/-- The fields of `DiscoveryDocument`. -/
inductive Field
  | issuer
  | tokenEndpoint
  | jwksUri
  deriving DecidableEq

/-- The member name of a field. -/
def Field.label : Field → String
  | issuer => "issuer"
  | tokenEndpoint => "token_endpoint"
  | jwksUri => "jwks_uri"

/-- Its fields with their decoders; all are optional. -/
def schema : Schema DiscoveryDocument where
  title := "struct DiscoveryDocument"
  Field := Field
  fields := [.issuer, .tokenEndpoint, .jwksUri]
  name := Field.label
  Slot _ := Option String
  slot _ := Decoder.optional .text
  make slots := .ok ⟨(slots .issuer).join, (slots .tokenEndpoint).join, (slots .jwksUri).join⟩

def decoder : Decoder DiscoveryDocument := schema.decoder

end DiscoveryDocument

/-- The addresses that clients resolve. -/
inductive Endpoint
  | token
  | keys
  deriving DecidableEq, Repr

namespace Endpoint

/-- The address in a document, if not empty. -/
def pick (e : Endpoint) (d : DiscoveryDocument) : Option String :=
  (match e with
    | token => d.tokenEndpoint
    | keys => d.jwksUri).filter (· ≠ "")

/-- The field that holds the address. -/
def field : Endpoint → DiscoveryDocument.Field
  | token => .tokenEndpoint
  | keys => .jwksUri

end Endpoint

end TenantApps
