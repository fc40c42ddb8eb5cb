/-!
# `TenantApps.Text.Blank` — white space

The Unicode property `White_Space`. The zero-width characters U+180E, U+200B, U+FEFF and the
information separators U+001C to U+001F do not have it.
-/

namespace TenantApps

/-- The `White_Space` characters. -/
def isBlank (c : Char) : Bool :=
  (0x09 ≤ c.toNat && c.toNat ≤ 0x0d) || c.toNat == 0x20 || c.toNat == 0x85 || c.toNat == 0xa0 ||
  c.toNat == 0x1680 || (0x2000 ≤ c.toNat && c.toNat ≤ 0x200a) || c.toNat == 0x2028 ||
  c.toNat == 0x2029 || c.toNat == 0x202f || c.toNat == 0x205f || c.toNat == 0x3000

end TenantApps
