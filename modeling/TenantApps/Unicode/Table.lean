import TenantApps.Text.Split
import TenantApps.Unicode.Ranges

/-!
# `TenantApps.Unicode.Table` — character maps

Maps from code points, stored as sorted arrays of keys with parallel arrays of values. In source
form a map is a list of records between semicolons, each starting with the difference of its key
from the previous one.

## Contents
- `records`, reading tables; `lastKey?`, bisection.
- `Expansions`, characters to texts; `Shifts`, runs to runs; `Classes`, characters to numbers;
  `Pairs`, pairs of characters to characters.
-/

namespace TenantApps.Unicode

/-- The records of a table with their keys. -/
def records (table : String) : List (Nat × List Nat) :=
  let entries := (Text.split ';' table.toList).map fun e => (words (String.ofList e)).toList
  ((entries.foldl (fun (st : Array (Nat × List Nat) × Nat) e =>
    match e with
    | [] => st
    | d :: rest => (st.1.push (st.2 + d, rest), st.2 + d)) (#[], 0)).1).toList

/-- The index of the last key at most `n`. -/
def lastKey? (keys : Array Nat) (n : Nat) : Option Nat :=
  match countUpTo keys n 0 keys.size with
  | 0 => none
  | i + 1 => some i

/-! ## Single characters -/

/-- A map from characters to texts. -/
structure Expansions where
  /-- Sorted. -/
  keys : Array Nat
  texts : Array (List Char)

/-- Reads records of key and code points. -/
def Expansions.ofTable (table : String) : Expansions :=
  let rs := records table
  ⟨(rs.map (·.1)).toArray, (rs.map (·.2.map Char.ofNat)).toArray⟩

/-- The text of a character. -/
def Expansions.find? (e : Expansions) (c : Char) : Option (List Char) :=
  match lastKey? e.keys c.toNat with
  | some i => if e.keys[i]? = some c.toNat then e.texts[i]? else none
  | none => none

/-! ## Runs of characters -/

/-- A run of characters at constant stride, mapped onto a run of the same shape. -/
structure Shift where
  /-- The first character. -/
  first : Nat
  /-- The number of characters. -/
  count : Nat
  /-- The distance between neighbours. -/
  stride : Nat
  /-- The image of the first character. -/
  target : Nat

/-- Disjoint runs, sorted. -/
structure Shifts where
  /-- The first characters. -/
  keys : Array Nat
  runs : Array Shift

/-- Reads records of key, count, stride and target. -/
def Shifts.ofTable (table : String) : Shifts :=
  let rs := (records table).filterMap fun
    | (key, [count, stride, target]) => some ⟨key, count, stride, target⟩
    | _ => none
  ⟨(rs.map Shift.first).toArray, rs.toArray⟩

/-- The image of a character of the run. -/
def Shift.find? (s : Shift) (c : Char) : Option Char :=
  let d := c.toNat - s.first
  if s.first ≤ c.toNat ∧ d % s.stride = 0 ∧ d / s.stride < s.count then
    some (Char.ofNat (s.target + d))
  else none

/-- The image of a character. -/
def Shifts.find? (s : Shifts) (c : Char) : Option Char :=
  match lastKey? s.keys c.toNat with
  | some i => (s.runs[i]?).bind (·.find? c)
  | none => none

/-! ## Numbers of runs -/

/-- A map from characters to numbers, constant on runs. -/
structure Classes where
  /-- The first characters of the runs. -/
  keys : Array Nat
  /-- The number of each run. -/
  classes : Array Nat

/-- Reads records of key and class. -/
def Classes.ofTable (table : String) : Classes :=
  let rs := records table
  ⟨(rs.map (·.1)).toArray, (rs.map (·.2.headD 0)).toArray⟩

/-- The number of a character, zero before the first run. -/
def Classes.find (s : Classes) (c : Char) : Nat :=
  match lastKey? s.keys c.toNat with
  | some i => s.classes.getD i 0
  | none => 0

/-! ## Pairs of characters -/

/-- A map from pairs of characters to characters. -/
structure Pairs where
  /-- The pairs as numbers, sorted. -/
  keys : Array Nat
  values : Array Nat

/-- A pair of code points as one number. -/
def Pairs.key (a b : Nat) : Nat := a * 0x110000 + b

/-- Reads records of key, second code point and value. -/
def Pairs.ofTable (table : String) : Pairs :=
  let rs := records table
  ⟨(rs.map fun r => key r.1 (r.2.headD 0)).toArray, (rs.map fun r => r.2.getD 1 0).toArray⟩

/-- The image of a pair. -/
def Pairs.find? (p : Pairs) (a b : Char) : Option Char :=
  match lastKey? p.keys (key a.toNat b.toNat) with
  | some i =>
    if p.keys[i]? = some (key a.toNat b.toNat) then (p.values[i]?).map Char.ofNat else none
  | none => none

end TenantApps.Unicode
