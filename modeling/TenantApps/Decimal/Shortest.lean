import TenantApps.Decimal.Binary64

/-!
# `TenantApps.Decimal.Shortest` — shortest round-trip decimals

`shortest` finds the decimal with the fewest digits in the rounding interval of a double, by
searching grids of multiples of `10 ^ k` from coarse to fine. On a grid only the two neighbours of
the value are candidates.

## Contents
- `interval`, the rounding interval, in quarters of the last place.
- `shortest`, digits `d` and exponent `k`.
- `Layout` and `Layout.render`, positional or scientific form.
-/

namespace TenantApps.Decimal

/-- The rounding interval in quarters of the last place; the flag tells whether the ends belong to
it. -/
def interval (x : Binary64) : Nat × Nat × Bool :=
  let below := if x.mantissa = Binary64.topBit ∧ -1074 < x.exponent then 1 else 2
  (4 * x.mantissa - below, 4 * x.mantissa + 2, x.mantissa % 2 == 0)

/-- The multiple of `10 ^ k` in the interval that is nearest to the value. -/
def gridPoint? (x : Binary64) (k : Int) : Option Nat :=
  let (lo, hi, closed) := interval x
  let q := x.exponent - 2
  -- `n` quarters are compared with `d` grid steps as `n * p` with `d * g`
  let p := (if 0 ≤ k then 1 else Nat.pow 10 (-k).toNat) <<< q.toNat
  let g := (if 0 ≤ k then Nat.pow 10 k.toNat else 1) <<< (-q).toNat
  let v := 4 * x.mantissa * p
  let inside (d : Nat) : Bool :=
    if closed then lo * p ≤ d * g && d * g ≤ hi * p else lo * p < d * g && d * g < hi * p
  let d := v / g
  let low := 0 < d && inside d
  let high := inside (d + 1)
  match low, high with
  | true, true =>
    let below := v - d * g
    let above := (d + 1) * g - v
    if below < above ∨ (below = above ∧ d % 2 = 0) then some d else some (d + 1)
  | true, false => some d
  | false, true => some (d + 1)
  | false, false => none

/-- The coarsest grid with a point in the interval among `k, k - 1, …`, `n` of them. -/
def search (x : Binary64) : Nat → Int → Option (Nat × Int)
  | 0, _ => none
  | n + 1, k =>
    match gridPoint? x k with
    | some d => some (d, k)
    | none => search x n (k - 1)

/-- The shortest decimal `d * 10 ^ k` of a positive double. -/
def shortest (x : Binary64) : Nat × Int :=
  let top : Int := ((x.mantissa.log2 : Int) + x.exponent) * 30103 / 100000 + 2
  (search x 22 top).getD (x.mantissa, 0)

/-! ## Layout -/

/-- A decimal format. -/
structure Layout where
  /-- The smallest decimal exponent in positional form. -/
  positionalFrom : Int
  /-- The largest decimal exponent in positional form. -/
  positionalTo : Int
  /-- The sign of a non-negative exponent. -/
  plus : String
  /-- The suffix of an integer. -/
  whole : String

/-- Writes `d * 10 ^ k` for a positive `d`. -/
def Layout.render (l : Layout) (d : Nat) (k : Int) : String :=
  let ds := Nat.toDigits 10 d
  let e : Int := (ds.length : Int) - 1 + k
  if l.positionalFrom ≤ e ∧ e ≤ l.positionalTo then
    if 0 ≤ k then String.ofList (ds ++ List.replicate k.toNat '0') ++ l.whole
    else if 0 ≤ e then
      String.ofList (ds.take (e.toNat + 1)) ++ "." ++ String.ofList (ds.drop (e.toNat + 1))
    else "0." ++ String.ofList (List.replicate (-e - 1).toNat '0' ++ ds)
  else
    let fraction := ds.drop 1
    String.ofList (ds.take 1) ++
      (if fraction = [] then "" else "." ++ String.ofList fraction) ++ "e" ++
      (if 0 ≤ e then l.plus ++ toString e.toNat else "-" ++ toString (-e).toNat)

end TenantApps.Decimal
