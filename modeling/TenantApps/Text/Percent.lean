import TenantApps.Text.Hex
import TenantApps.Text.Utf8

/-!
# `TenantApps.Text.Percent` — percent-encoding

`%XX` with upper-case digits, applied to the UTF-8 bytes of the characters of a percent-encode set.

## Contents
- `escape`, `encodeChar` and `encode` for a given set.
- `decode`, the bytes of an encoded text.
-/

namespace TenantApps.Percent

/-- The escape of a byte. -/
def escape (b : UInt8) : List Char := '%' :: Hex.upperByte b

/-- The encoding of a character. -/
def encodeChar (escapes : Char → Bool) (c : Char) : List Char :=
  if escapes c then (String.utf8EncodeChar c).flatMap escape else [c]

/-- The encoding of a text. -/
def encode (escapes : Char → Bool) (cs : List Char) : List Char :=
  cs.flatMap (encodeChar escapes)

/-- The bytes of an encoded text; a `%` without two digits is kept. -/
def decode : List Char → List UInt8
  | [] => []
  | '%' :: a :: b :: rest =>
    match Hex.value? a, Hex.value? b with
    | some x, some y => UInt8.ofNat (16 * x + y) :: decode rest
    | _, _ => 0x25 :: decode (a :: b :: rest)
  | c :: rest => String.utf8EncodeChar c ++ decode rest
termination_by cs => cs.length

end TenantApps.Percent
