/-!
# `TenantApps.Text.Hex` — hexadecimal digits

Digits of UUIDs, percent escapes, JSON escapes and IP addresses; reading is case-insensitive.

## Contents
- `value?`, and its sections `lower` and `upper` (`value?_upper`).
- `ofDigits` and `ofChars?`, numbers.
-/

namespace TenantApps.Hex

/-- The value of a digit of either case. -/
def value? (c : Char) : Option Nat :=
  if '0' ≤ c ∧ c ≤ '9' then some (c.toNat - '0'.toNat)
  else if 'a' ≤ c ∧ c ≤ 'f' then some (c.toNat - 'a'.toNat + 10)
  else if 'A' ≤ c ∧ c ≤ 'F' then some (c.toNat - 'A'.toNat + 10)
  else none

/-- Whether a character is a digit of either case. -/
def isDigit (c : Char) : Bool := (value? c).isSome

/-- The lower-case digit of a value below 16. -/
def lower (n : Nat) : Char :=
  if n < 10 then Char.ofNat ('0'.toNat + n) else Char.ofNat ('a'.toNat + (n - 10))

/-- The upper-case digit of a value below 16. -/
def upper (n : Nat) : Char :=
  if n < 10 then Char.ofNat ('0'.toNat + n) else Char.ofNat ('A'.toNat + (n - 10))

/-- The number of digit values, most significant first. -/
def ofDigits (ds : List Nat) : Nat := ds.foldl (fun acc d => 16 * acc + d) 0

/-- The number of a text of digits. -/
def ofChars? (cs : List Char) : Option Nat := (cs.mapM value?).map ofDigits

/-- The two upper-case digits of a byte. -/
def upperByte (b : UInt8) : List Char := [upper (b.toNat / 16), upper (b.toNat % 16)]

/-- The two lower-case digits of a byte. -/
def lowerByte (b : UInt8) : List Char := [lower (b.toNat / 16), lower (b.toNat % 16)]

theorem value?_upper : ∀ n < 16, value? (upper n) = some n := by decide

end TenantApps.Hex
