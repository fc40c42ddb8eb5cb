/-!
# `TenantApps.Base64` — padded standard Base64

Three bytes are four symbols of six bits; a last group of one or two bytes is zero-filled and padded
with `=`.

## Contents
- `encode` and its partial inverse `decode`.
- `value?_symbol`, the table read back.
-/

namespace TenantApps.Base64

/-- The symbol of a six-bit value. -/
def symbol (n : Nat) : Char :=
  if n < 26 then Char.ofNat ('A'.toNat + n)
  else if n < 52 then Char.ofNat ('a'.toNat + (n - 26))
  else if n < 62 then Char.ofNat ('0'.toNat + (n - 52))
  else if n = 62 then '+' else '/'

/-- Inverse of `symbol`. -/
def value? (c : Char) : Option Nat :=
  if 'A' ≤ c ∧ c ≤ 'Z' then some (c.toNat - 'A'.toNat)
  else if 'a' ≤ c ∧ c ≤ 'z' then some (c.toNat - 'a'.toNat + 26)
  else if '0' ≤ c ∧ c ≤ '9' then some (c.toNat - '0'.toNat + 52)
  else if c = '+' then some 62
  else if c = '/' then some 63
  else none

theorem value?_symbol : ∀ n < 64, value? (symbol n) = some n := by decide

/-- Encodes bytes in groups of three. -/
def encode : List UInt8 → List Char
  | [] => []
  | [a] => [symbol (a.toNat / 4), symbol (a.toNat % 4 * 16), '=', '=']
  | [a, b] =>
    [symbol (a.toNat / 4), symbol (a.toNat % 4 * 16 + b.toNat / 16), symbol (b.toNat % 16 * 4), '=']
  | a :: b :: c :: rest =>
    symbol (a.toNat / 4) :: symbol (a.toNat % 4 * 16 + b.toNat / 16) ::
      symbol (b.toNat % 16 * 4 + c.toNat / 64) :: symbol (c.toNat % 64) :: encode rest

/-- Decodes groups of four. Fill bits must be zero and padding may only end the text. -/
def decode : List Char → Option (List UInt8)
  | [] => some []
  | p :: q :: r :: s :: rest =>
    if r = '=' ∧ s = '=' ∧ rest = [] then do
      let a ← value? p
      let b ← value? q
      if b % 16 = 0 then some [UInt8.ofNat (a * 4 + b / 16)] else none
    else if s = '=' ∧ rest = [] then do
      let a ← value? p
      let b ← value? q
      let c ← value? r
      if c % 4 = 0 then
        some [UInt8.ofNat (a * 4 + b / 16), UInt8.ofNat (b % 16 * 16 + c / 4)]
      else none
    else do
      let a ← value? p
      let b ← value? q
      let c ← value? r
      let d ← value? s
      let bytes ← decode rest
      some (UInt8.ofNat (a * 4 + b / 16) :: UInt8.ofNat (b % 16 * 16 + c / 4) ::
        UInt8.ofNat (c % 4 * 64 + d) :: bytes)
  | _ => none

end TenantApps.Base64
