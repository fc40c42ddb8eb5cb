/-!
# `TenantApps.Decimal.Binary64` — double-precision arithmetic

A finite non-negative double as `mantissa * 2 ^ exponent`. `mul` and `div` round to nearest, ties to
even.

## Contents
- `Binary64` and `nearest`, rounding of a fraction; `none` on overflow.
- `ofNat`, `mul` and `div`.
- `scale`, the value of `digits * 10 ^ e` with the roundings of the decimal reader.
-/

namespace TenantApps

/-- A finite non-negative double, `mantissa * 2 ^ exponent`. -/
structure Binary64 where
  /-- Below `2 ^ 53`, and at least `2 ^ 52` unless the number is subnormal. -/
  mantissa : Nat
  /-- At least `-1074`. -/
  exponent : Int
  deriving DecidableEq, Repr

namespace Binary64

/-- `2 ^ 52`, the leading bit of a normal mantissa. -/
def topBit : Nat := 0x10000000000000

/-- Zero. -/
def zero : Binary64 := ⟨0, -1074⟩

/-- The fraction `num / den / 2 ^ q`, as numerator and denominator. -/
def unscale (num den : Nat) (q : Int) : Nat × Nat :=
  (num <<< (-q).toNat, den <<< q.toNat)

/-- Division of naturals, rounded to nearest, ties to even. -/
def roundDiv (num den : Nat) : Nat :=
  let d := num / den
  let r := num % den
  if 2 * r < den then d
  else if den < 2 * r then d + 1
  else if d % 2 = 0 then d else d + 1

/-- The exponent of the double nearest to `num / den`. -/
def exponentOf (num den : Nat) : Int :=
  let q : Int := max (-1074) ((num.log2 : Int) - (den.log2 : Int) - 52)
  let (a, b) := unscale num den q
  if a / b < topBit then max (-1074) (q - 1) else q

/-- The double nearest to `num / den`; `none` on overflow. -/
def nearest (num den : Nat) : Option Binary64 :=
  if num = 0 then some zero
  else
    let q := exponentOf num den
    let (a, b) := unscale num den q
    let m := roundDiv a b
    let (m, q) := if m = 2 * topBit then (topBit, q + 1) else (m, q)
    if 971 < q then none else some ⟨m, q⟩

/-- The exact value, as numerator and denominator. -/
def fraction (x : Binary64) : Nat × Nat :=
  (x.mantissa <<< x.exponent.toNat, 1 <<< (-x.exponent).toNat)

/-- The double nearest to `n`. -/
def ofNat (n : Nat) : Option Binary64 := nearest n 1

/-- The rounded product. -/
def mul (x y : Binary64) : Option Binary64 :=
  let (a, b) := x.fraction
  let (c, d) := y.fraction
  nearest (a * c) (b * d)

/-- The rounded quotient by a non-zero double. -/
def div (x y : Binary64) : Option Binary64 :=
  let (a, b) := x.fraction
  let (c, d) := y.fraction
  nearest (a * d) (b * c)

/-- The largest decimal exponent of a power of ten below overflow. -/
def maxPower : Nat := 308

/-- `x * 10 ^ e` as one rounded product, or as rounded quotients by powers of at most `10 ^ 308`;
`none` on overflow. -/
def scaleFrom (x : Binary64) (e : Int) : Option Binary64 :=
  if 0 ≤ e then
    if e ≤ maxPower then (ofNat (Nat.pow 10 e.toNat)).bind x.mul
    else if x.mantissa = 0 then some x else none
  else if (-maxPower : Int) ≤ e then (ofNat (Nat.pow 10 (-e).toNat)).bind x.div
  else if x.mantissa = 0 then some x
  else do
    let power ← ofNat (Nat.pow 10 maxPower)
    let y ← x.div power
    scaleFrom y (e + maxPower)
termination_by (-e).toNat
decreasing_by simp only [maxPower] at *; omega

/-- The double of `digits * 10 ^ e`. -/
def scale (digits : Nat) (e : Int) : Option Binary64 :=
  (ofNat digits).bind (scaleFrom · e)

end Binary64

end TenantApps
