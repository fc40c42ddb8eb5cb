/-!
# `TenantApps.Duration` — durations

Seconds and nanoseconds with `nanos < 10 ^ 9`, and their diagnostic text: the largest of the units
`s`, `ms`, `µs`, `ns` with a non-zero whole part, and the decimals that are needed.
-/

namespace TenantApps

/-- A duration. -/
structure Duration where
  /-- Whole seconds. -/
  secs : Nat
  /-- The remainder in nanoseconds. -/
  nanos : Nat
  deriving DecidableEq, Repr

namespace Duration

/-- Normalizes seconds and any number of nanoseconds. -/
def ofParts (secs nanos : Nat) : Duration :=
  ⟨secs + nanos / 1000000000, nanos % 1000000000⟩

/-- A whole number of seconds. -/
def ofSecs (secs : Nat) : Duration := ⟨secs, 0⟩

def isZero (d : Duration) : Bool := d.secs == 0 && d.nanos == 0

/-- The first `places` decimals of `part / 10 ^ places`, without trailing zeros. -/
def decimals (part places : Nat) : List Char :=
  let digits := Nat.toDigits 10 part
  let padded := List.replicate (places - digits.length) '0' ++ digits
  (padded.reverse.dropWhile (· = '0')).reverse

/-- Renders whole part, decimals if any remain, and unit. -/
def quantity (whole part places : Nat) (unit : String) : String :=
  let rest := decimals part places
  toString whole ++ (if rest = [] then "" else "." ++ String.ofList rest) ++ unit

/-- The diagnostic text. -/
def text (d : Duration) : String :=
  if 0 < d.secs then quantity d.secs d.nanos 9 "s"
  else if 1000000 ≤ d.nanos then quantity (d.nanos / 1000000) (d.nanos % 1000000) 6 "ms"
  else if 1000 ≤ d.nanos then quantity (d.nanos / 1000) (d.nanos % 1000) 3 "µs"
  else quantity d.nanos 0 0 "ns"

end Duration

end TenantApps
