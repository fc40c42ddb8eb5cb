/-!
# `TenantApps.Unicode.Ranges` — character sets

A set is the sorted array of code points at which membership flips; `c` is a member if an odd number
of flips are at most `c`. In source form a set is the differences between flips, in hexadecimal
words.

## Contents
- `words` and `Ranges.ofTable`, reading tables.
- `countUpTo`, by bisection, and `Ranges.contains`.
-/

namespace TenantApps.Unicode

/-- The hexadecimal words of a table. -/
def words (table : String) : Array Nat :=
  let last := table.foldl (fun (st : Array Nat × Option Nat) c =>
    let digit : Option Nat :=
      if '0' ≤ c ∧ c ≤ '9' then some (c.toNat - '0'.toNat)
      else if 'a' ≤ c ∧ c ≤ 'f' then some (c.toNat - 'a'.toNat + 10)
      else none
    match digit, st with
    | some d, (out, some n) => (out, some (16 * n + d))
    | some d, (out, none) => (out, some d)
    | none, (out, some n) => (out.push n, none)
    | none, (out, none) => (out, none)) (#[], none)
  match last with
  | (out, some n) => out.push n
  | (out, none) => out

/-- The number of entries at most `n` in the sorted segment `[lo, hi)`, plus `lo`. -/
def countUpTo (sorted : Array Nat) (n lo hi : Nat) : Nat :=
  if h : lo < hi then
    let mid := (lo + hi) / 2
    if sorted.getD mid 0 ≤ n then countUpTo sorted n (mid + 1) hi
    else countUpTo sorted n lo mid
  else lo
termination_by hi - lo

/-- A character set. -/
structure Ranges where
  /-- The code points at which membership flips, sorted. -/
  flips : Array Nat

/-- Reads a set from its differences. -/
def Ranges.ofTable (table : String) : Ranges :=
  ⟨((words table).foldl (fun (st : Array Nat × Nat) d => (st.1.push (st.2 + d), st.2 + d))
    (#[], 0)).1⟩

/-- Membership. -/
def Ranges.contains (r : Ranges) (c : Char) : Bool :=
  countUpTo r.flips c.toNat 0 r.flips.size % 2 == 1

end TenantApps.Unicode
