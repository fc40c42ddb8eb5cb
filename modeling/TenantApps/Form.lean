import TenantApps.Text.Percent
import TenantApps.Text.Split

/-!
# `TenantApps.Form` — `application/x-www-form-urlencoded`

A component is encoded byte by byte: letters, digits and `*-._` are kept, a space becomes `+`, every
other byte `%XX` in upper case. A pair joins its components by `=`, a query joins pairs by `&`.

## Contents
- `encode` and `decode` for a component, `encodePair` for a pair.
- `pairs`, the pairs of a query.
-/

namespace TenantApps.Form

/-- Characters that a component keeps. -/
def isPlain (c : Char) : Bool :=
  c.isAlphanum || c == '*' || c == '-' || c == '.' || c == '_'

/-- The encoding of one byte. -/
def encodeByte (b : UInt8) : List Char :=
  let c := Char.ofNat b.toNat
  if isPlain c then [c] else if b = 0x20 then ['+'] else Percent.escape b

/-- Encodes the UTF-8 bytes of a component. -/
def encode (s : String) : List Char := (Utf8.bytes s).flatMap encodeByte

/-- Two components joined by `=`. -/
def encodePair (name value : String) : List Char := encode name ++ '=' :: encode value

/-- Decodes a component; `none` if the bytes are not UTF-8. -/
def decode (cs : List Char) : Option String :=
  Utf8.ofBytes? (Percent.decode (cs.map fun c => if c = '+' then ' ' else c))

/-- The pairs of a query: its non-empty parts between `&`, each split at the first `=`. -/
def pairs (query : List Char) : List (Option String × Option String) :=
  ((Text.split '&' query).filter (· ≠ [])).map fun part =>
    (decode (part.takeWhile (· ≠ '=')), decode ((part.dropWhile (· ≠ '=')).drop 1))

end TenantApps.Form
