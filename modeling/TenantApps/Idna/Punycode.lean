/-!
# `TenantApps.Idna.Punycode` — the Punycode encoding

A label is encoded as its ASCII characters, a hyphen if there are any, and the insertions of its
other characters in order of code point and position. Each insertion is a delta, written as a
generalized variable-length integer in base 36 with adaptive bias.

## Contents
- Integers: `threshold`, `adapt`, `digit?` and `digit`.
- `decode?` with `Reading`, `encode` with `Writing`.
-/

namespace TenantApps.Idna.Punycode

/-! ## Integers -/

/-- The value of a digit: letters of either case are 0–25, decimal digits 26–35. -/
def digit? (c : Char) : Option Nat :=
  if 'a' ≤ c ∧ c ≤ 'z' then some (c.toNat - 'a'.toNat)
  else if 'A' ≤ c ∧ c ≤ 'Z' then some (c.toNat - 'A'.toNat)
  else if '0' ≤ c ∧ c ≤ '9' then some (c.toNat - '0'.toNat + 26)
  else none

/-- The lower-case digit of a value below 36. -/
def digit (n : Nat) : Char :=
  if n < 26 then Char.ofNat ('a'.toNat + n) else Char.ofNat ('0'.toNat + (n - 26))

/-- The threshold at position `k`; a digit below it ends the integer. -/
def threshold (bias k : Nat) : Nat := max 1 (min 26 (k - bias))

theorem threshold_pos (bias k : Nat) : 1 ≤ threshold bias k := Nat.le_max_left ..

/-- The loop of `adapt`: divides `delta` until it is small and adds 36 each time. -/
def damp (delta k : Nat) : Nat :=
  if 455 < delta then damp (delta / 35) (k + 36) else k + 36 * delta / (delta + 38)
termination_by delta
decreasing_by exact Nat.div_lt_self (by omega) (by omega)

/-- Bias adaptation after a delta. -/
def adapt (delta placed : Nat) (first : Bool) : Nat :=
  let d := if first then delta / 700 else delta / 2
  damp (d + d / placed) 0

/-! ## Decoding -/

/-- The state of the decoder. -/
structure Reading where
  /-- The output so far. -/
  out : List Char
  /-- The code point inserted last. -/
  last : Nat := 128
  /-- The position after it. -/
  place : Nat := 0
  bias : Nat := 72
  /-- The position of the next digit, a multiple of 36. -/
  k : Nat := 36
  /-- The weight of the next digit. -/
  weight : Nat := 1
  /-- The delta read so far. -/
  delta : Nat := 0

/-- Deltas are 32-bit numbers. -/
def limit : Nat := 0x100000000

/-- Consumes a digit and inserts a character at the end of a delta. -/
def Reading.step (r : Reading) (c : Char) : Option Reading := do
  let d ← digit? c
  let t := threshold r.bias r.k
  let delta := r.delta + d * r.weight
  if limit ≤ r.place + delta then none
  else if t ≤ d then
    if limit ≤ r.weight * (36 - t) then none
    else some { r with k := r.k + 36, weight := r.weight * (36 - t), delta := delta }
  else
    let size := r.out.length + 1
    let place := (r.place + delta) % size
    let last := r.last + (r.place + delta) / size
    if last.isValidChar then
      some { out := r.out.insertIdx place (Char.ofNat last)
             last := last
             place := place + 1
             bias := adapt delta size (r.place = 0) }
    else none

/-- Splits at the last hyphen into ASCII characters and digits; a label without hyphen, or with a
leading one only, has no ASCII characters. -/
def parts (cs : List Char) : List Char × List Char :=
  let digits := (cs.reverse.takeWhile (· ≠ '-')).reverse
  let ascii := cs.take (cs.length - digits.length - 1)
  if ascii = [] then ([], cs) else (ascii, digits)

/-- Decodes a label. -/
def decode? (cs : List Char) : Option (List Char) := do
  let (ascii, digits) := parts cs
  let r ← digits.foldlM Reading.step { out := ascii }
  if r.k = 36 then some r.out else none

/-! ## Encoding -/

/-- The digits of a delta. -/
def digits (bias k delta : Nat) : List Char :=
  let t := threshold bias k
  if delta < t then [digit delta]
  else digit (t + (delta - t) % (36 - t)) :: digits bias (k + 36) ((delta - t) / (36 - t))
termination_by delta
decreasing_by
  have := threshold_pos bias k
  have := Nat.div_le_self (delta - threshold bias k) (36 - threshold bias k)
  omega

/-- The state of the encoder. -/
structure Writing where
  /-- The output, in reverse. -/
  out : List Char
  /-- The delta since the last insertion. -/
  delta : Nat
  bias : Nat
  /-- The number of characters handled so far. -/
  placed : Nat

/-- Passes one character of the label in the round of code point `m`; `n` is the number of ASCII
characters. -/
def Writing.pass (n m : Nat) (w : Writing) (c : Char) : Writing :=
  if c.toNat < m then { w with delta := w.delta + 1 }
  else if c.toNat = m then
    { out := (digits w.bias 36 w.delta).reverse ++ w.out
      delta := 0
      bias := adapt w.delta (w.placed + 1) (w.placed = n)
      placed := w.placed + 1 }
  else w

/-- One round for each code point of a sorted list; `next` is the smallest not yet handled. -/
def write (cs : List Char) (n : Nat) : List Nat → Nat → Writing → Writing
  | [], _, w => w
  | m :: rest, next, w =>
    let w := cs.foldl (Writing.pass n m) { w with delta := w.delta + (m - next) * (w.placed + 1) }
    write cs n rest (m + 1) { w with delta := w.delta + 1 }

/-- The code points beyond ASCII, sorted, without duplicates. -/
def beyondAscii (cs : List Char) : List Nat :=
  (((cs.map Char.toNat).filter (128 ≤ ·)).mergeSort).eraseReps

/-- Encodes a label. -/
def encode (cs : List Char) : List Char :=
  let ascii := cs.filter (·.toNat < 128)
  let w := write cs ascii.length (beyondAscii cs) 128 ⟨[], 0, 72, ascii.length⟩
  ascii ++ (if ascii = [] then [] else ['-']) ++ w.out.reverse

end TenantApps.Idna.Punycode
