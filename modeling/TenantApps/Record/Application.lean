import TenantApps.Json.Schema
import TenantApps.Record.SsoType
import TenantApps.Secret
import TenantApps.Uuid

/-!
# `TenantApps.Record.Application` — application records

The JSON types of the applications API. Each has a `schema`, from which `decoder` is derived; the
types that are also written have `json`.

## Contents
- `Branding` and `Authentication`, the nested objects.
- `ApplicationRecord`, an application at the tenant; `clientId`.
- `ApplicationPage`, the body of a lookup; `SecretAnswer`, the body of a secret creation.
- `Application`, the result of `Client.createApplication`.
-/

namespace TenantApps

open Json

/-- The member name of the authentication extension. -/
def authenticationUrn : String :=
  "urn:sap:identity:application:schemas:extension:sci:1.0:Authentication"

/-- A member that is omitted for `none`. -/
def optionalMember {α : Type} (name : String) (json : α → Value) (a : Option α) :
    List (String × Value) :=
  match a with
  | some a => [(name, json a)]
  | none => []

/-! ## Parts -/

/-- The `branding` object. -/
structure Branding where
  displayName : Option String := none
  deriving DecidableEq, Repr

namespace Branding

/-- Its fields. -/
def schema : Schema Branding where
  title := "struct Branding"
  Field := Unit
  fields := [()]
  name _ := "displayName"
  Slot _ := Option String
  slot _ := Decoder.optional .text
  make slots := .ok ⟨(slots ()).join⟩

def decoder : Decoder Branding := schema.decoder

/-- The serializer. -/
def json (b : Branding) : Value := .object (optionalMember "displayName" .text b.displayName)

end Branding

/-- The authentication extension object. -/
structure Authentication where
  ssoType : Option SsoType := none
  clientId : Option String := none
  deriving DecidableEq, Repr

namespace Authentication

/-- The fields of `Authentication`. -/
inductive Field
  | ssoType
  | clientId
  deriving DecidableEq

/-- Its fields with their decoders. -/
def schema : Schema Authentication where
  title := "struct AuthenticationSchema"
  Field := Field
  fields := [.ssoType, .clientId]
  name
    | .ssoType => "ssoType"
    | .clientId => "clientId"
  Slot
    | .ssoType => Option SsoType
    | .clientId => Option String
  slot
    | .ssoType => Decoder.optional SsoType.decoder
    | .clientId => Decoder.optional .text
  make slots := .ok ⟨(slots .ssoType).join, (slots .clientId).join⟩

def decoder : Decoder Authentication := schema.decoder

/-- The serializer. -/
def json (a : Authentication) : Value :=
  .object (optionalMember "ssoType" SsoType.json a.ssoType ++
    optionalMember "clientId" .text a.clientId)

end Authentication

/-! ## Answers -/

/-- An application as the tenant describes it. -/
structure ApplicationRecord where
  id : Uuid
  name : Option String := none
  branding : Option Branding := none
  authentication : Option Authentication := none
  deriving DecidableEq, Repr

/-- Decodes a UUID in any accepted form. -/
def Uuid.decoder : Decoder Uuid :=
  (Decoder.textAs "a formatted UUID string").refine fun s =>
    (Uuid.parse s).mapError fun e => "UUID parsing failed: " ++ e.message

namespace ApplicationRecord

/-- The fields of `ApplicationRecord`. -/
inductive Field
  | id
  | name
  | branding
  | authentication
  deriving DecidableEq

/-- The value type of a field. -/
abbrev Slot : Field → Type
  | .id => Uuid
  | .name => Option String
  | .branding => Option Branding
  | .authentication => Option Authentication

/-- Assembles the record; only `id` is required. -/
def ofSlots (slots : (f : Field) → Option (Slot f)) : Except Field ApplicationRecord :=
  match slots .id with
  | none => .error .id
  | some id =>
    .ok ⟨id, (slots .name).join, (slots .branding).join, (slots .authentication).join⟩

/-- Its fields with their decoders. -/
def schema : Schema ApplicationRecord where
  title := "struct ApplicationResource"
  Field := Field
  fields := [.id, .name, .branding, .authentication]
  name
    | .id => "id"
    | .name => "name"
    | .branding => "branding"
    | .authentication => authenticationUrn
  Slot := Slot
  slot
    | .id => Uuid.decoder
    | .name => Decoder.optional .text
    | .branding => Decoder.optional Branding.decoder
    | .authentication => Decoder.optional Authentication.decoder
  make := ofSlots

def decoder : Decoder ApplicationRecord := schema.decoder

/-- The client ID of the authentication extension, if not empty. -/
def clientId (r : ApplicationRecord) : Option String :=
  (r.authentication.bind (·.clientId)).filter (· ≠ "")

end ApplicationRecord

/-- The body of a lookup. -/
structure ApplicationPage where
  /-- The records of the page. -/
  applications : Option (List ApplicationRecord) := none
  /-- The total over all pages. -/
  totalResults : Option Nat := none
  deriving DecidableEq, Repr

namespace ApplicationPage

/-- The fields of `ApplicationPage`. -/
inductive Field
  | applications
  | totalResults
  deriving DecidableEq

/-- Its fields with their decoders. -/
def schema : Schema ApplicationPage where
  title := "struct ApplicationList"
  Field := Field
  fields := [.applications, .totalResults]
  name
    | .applications => "applications"
    | .totalResults => "totalResults"
  Slot
    | .applications => Option (List ApplicationRecord)
    | .totalResults => Option Nat
  slot
    | .applications => Decoder.optional (.list ApplicationRecord.decoder)
    | .totalResults => Decoder.optional .natural64
  make slots := .ok ⟨(slots .applications).join, (slots .totalResults).join⟩

def decoder : Decoder ApplicationPage := schema.decoder

end ApplicationPage

/-- The body of a secret creation. -/
structure SecretAnswer where
  secret : Option String := none
  deriving DecidableEq, Repr

namespace SecretAnswer

/-- Its fields. -/
def schema : Schema SecretAnswer where
  title := "struct ApiSecretResponse"
  Field := Unit
  fields := [()]
  name _ := "secret"
  Slot _ := Option String
  slot _ := Decoder.optional .text
  make slots := .ok ⟨(slots ()).join⟩

def decoder : Decoder SecretAnswer := schema.decoder

end SecretAnswer

/-! ## Created applications -/

/-- The credentials and addresses of a created application. -/
structure Application where
  name : String
  /-- The application ID in hyphenated form. -/
  id : String
  /-- The OAuth client ID. -/
  clientId : String
  /-- The OAuth client secret. -/
  clientSecret : Secret
  /-- The `token_endpoint`. -/
  tokenUrl : String
  /-- The `jwks_uri`. -/
  jwksUri : String
  deriving DecidableEq

namespace Application

/-- The fields of `Application`. -/
inductive Field
  | name
  | id
  | clientId
  | clientSecret
  | tokenUrl
  | jwksUri
  deriving DecidableEq

/-- The member name of a field. -/
def Field.label : Field → String
  | name => "name"
  | id => "id"
  | clientId => "client_id"
  | clientSecret => "client_secret"
  | tokenUrl => "token_url"
  | jwksUri => "jwks_uri"

/-- Assembles the application; every field is required. -/
def ofSlots (slots : Field → Option String) : Except Field Application := do
  let need (f : Field) : Except Field String :=
    match slots f with
    | some s => .ok s
    | none => .error f
  let name ← need .name
  let id ← need .id
  let clientId ← need .clientId
  let secret ← need .clientSecret
  let tokenUrl ← need .tokenUrl
  let jwksUri ← need .jwksUri
  return ⟨name, id, clientId, ⟨secret⟩, tokenUrl, jwksUri⟩

/-- Its fields with their decoders. -/
def schema : Schema Application where
  title := "struct Application"
  Field := Field
  fields := [.name, .id, .clientId, .clientSecret, .tokenUrl, .jwksUri]
  name := Field.label
  Slot _ := String
  slot _ := Decoder.text
  make := ofSlots

def decoder : Decoder Application := schema.decoder

/-- The serializer; it exposes the client secret. -/
def json (a : Application) : Value :=
  .object [("name", .text a.name), ("id", .text a.id), ("client_id", .text a.clientId),
    ("client_secret", a.clientSecret.json), ("token_url", .text a.tokenUrl),
    ("jwks_uri", .text a.jwksUri)]

/-- The diagnostic text; the client secret is redacted. -/
def debug (a : Application) : String :=
  "Application \x7b name: " ++ Quoted.quote a.name ++ ", id: " ++ Quoted.quote a.id ++
    ", client_id: " ++ Quoted.quote a.clientId ++ ", client_secret: " ++ a.clientSecret.debug ++
    ", token_url: " ++ Quoted.quote a.tokenUrl ++ ", jwks_uri: " ++ Quoted.quote a.jwksUri ++
    " \x7d"

end Application

end TenantApps
