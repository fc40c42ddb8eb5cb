import TenantApps.Json.Decoder

/-!
# `TenantApps.Record.SsoType` — single sign-on types

An `SsoType` is written as its label. It is read from a label or from an object whose only member
has the label as key and `null` as value; unknown labels are read as `unknown`.
-/

namespace TenantApps

/-- A single sign-on type. -/
inductive SsoType
  | openIdConnect
  | saml2
  | unknown
  deriving DecidableEq, Repr

namespace SsoType

/-- The label of a type. -/
def label : SsoType → String
  | openIdConnect => "openIdConnect"
  | saml2 => "saml2"
  | unknown => "unknown"

/-- The type of a label, `unknown` for any other string. -/
def ofLabel (s : String) : SsoType :=
  if s = "openIdConnect" then openIdConnect else if s = "saml2" then saml2 else unknown

theorem ofLabel_label (t : SsoType) : ofLabel t.label = t := by cases t <;> decide

/-- The serializer. -/
def json (t : SsoType) : Json.Value := .text t.label

/-- A grammar error at the value itself. -/
def fault (r : Json.Reason) : Except Json.Failure SsoType := .error (.here (.grammar r))

/-- The end of the object form: no second member. -/
def closed (t : SsoType) : List Json.Member → Option Json.Fault → Except Json.Failure SsoType
  | [], none => .ok t
  | [], some f => fault (if f.wanted = .endInObject then .endInObject else .expectedValue)
  | _ :: _, _ => fault .expectedValue

/-- The deserializer of both forms. -/
def decoder : Json.Decoder SsoType
  | .text (.ok s) => .ok (ofLabel s)
  | .text (.error r) => fault r
  | .object [] (some f) => fault (if f.wanted = .endInObject then .endInValue else f.wanted)
  | .object ((.error r, _) :: _) _ => fault r
  | .object ((.ok _, .broken .colon f) :: _) _ => fault f.wanted
  | .object ((.ok name, value) :: more) f =>
    match Json.Decoder.under (.member name) (Json.Decoder.unit value) with
    | .error e => .error e
    | .ok () => closed (ofLabel name) more f
  | .broken .null _ | .broken .scalar _ => fault .expectedValue
  | .broken _ f => fault f.wanted
  | _ => fault .expectedValue

end SsoType

end TenantApps
