import TenantApps.Url.Ipv4

/-!
# `TenantApps.Url.Ipv6` — IPv6 addresses

Eight pieces of up to four hexadecimal digits. `::` stands for one or more zero pieces, at most
once; the last two pieces may be in dotted IPv4 form.

## Contents
- `Ipv6` and `Ipv6.parse?`.
- `zeroRun?`, the run compressed in writing, and `Ipv6.chars`.
-/

namespace TenantApps

/-- An IPv6 address. -/
structure Ipv6 where
  /-- In network order. -/
  pieces : List UInt16
  length_eq : pieces.length = 8
  deriving DecidableEq, Repr

namespace Ipv6

/-! ## Reading -/

/-- One piece. -/
def piece? (cs : List Char) : Option UInt16 :=
  if cs = [] ∨ 4 < cs.length then none else (Hex.ofChars? cs).map UInt16.ofNat

/-- A byte of the dotted form, without leading zeros. -/
def byte? (cs : List Char) : Option Nat :=
  match cs with
  | ['0'] => some 0
  | '0' :: _ => none
  | [] => none
  | cs => (Ipv4.digits? 10 cs).bind fun n => if n < 256 then some n else none

/-- The two pieces of the dotted form. -/
def dotted? (cs : List Char) : Option (List UInt16) :=
  match (Text.split '.' cs).mapM byte? with
  | some [a, b, c, d] => some [UInt16.ofNat (256 * a + b), UInt16.ofNat (256 * c + d)]
  | _ => none

/-- The pieces between colons; the last may be dotted if `ends`. -/
def pieces? (ends : Bool) : List (List Char) → Option (List UInt16)
  | [] => some []
  | [last] =>
    if ends ∧ last.contains '.' then dotted? last else (piece? last).map ([·])
  | p :: rest => do return (← piece? p) :: (← pieces? ends rest)

/-- The parts between colons; none of the empty text. -/
def parts (cs : List Char) : List (List Char) := if cs = [] then [] else Text.split ':' cs

/-- Splits at the first `::`. -/
def cutGap? : List Char → Option (List Char × List Char)
  | ':' :: ':' :: rest => some ([], rest)
  | c :: rest => (cutGap? rest).map fun (a, b) => (c :: a, b)
  | [] => none

/-- The address of eight pieces. -/
def ofPieces? (ps : List UInt16) : Option Ipv6 := if h : ps.length = 8 then some ⟨ps, h⟩ else none

/-- Parses the text between brackets. -/
def parse? (cs : List Char) : Option Ipv6 :=
  match cutGap? cs with
  | none => (pieces? true (parts cs)).bind ofPieces?
  | some (before, after) => do
    let a ← pieces? false (parts before)
    let b ← pieces? true (parts after)
    if a.length + b.length < 8 then
      ofPieces? (a ++ List.replicate (8 - a.length - b.length) 0 ++ b)
    else none

/-! ## Writing -/

/-- The number of leading zero pieces. -/
def zeros (ps : List UInt16) : Nat := (ps.takeWhile (· = 0)).length

/-- Offset and length of the first longest run of at least two zero pieces. -/
def zeroRun? (ps : List UInt16) : Option (Nat × Nat) :=
  let longest := ((List.range ps.length).map fun i => zeros (ps.drop i)).foldl max 0
  if longest < 2 then none
  else ((List.range ps.length).find? fun i => zeros (ps.drop i) = longest).map (·, longest)

/-- Pieces in hexadecimal, separated by colons. -/
def joined (ps : List UInt16) : List Char :=
  Text.join ':' (ps.map fun p => Nat.toDigits 16 p.toNat)

/-- The compressed form. -/
def chars (a : Ipv6) : List Char :=
  match zeroRun? a.pieces with
  | none => joined a.pieces
  | some (i, n) => joined (a.pieces.take i) ++ [':', ':'] ++ joined (a.pieces.drop (i + n))

/-- The IPv4 address of an IPv4-mapped address. -/
def mapped? (a : Ipv6) : Option Ipv4 :=
  match a.pieces with
  | [0, 0, 0, 0, 0, 0xffff, x, y] => some ⟨UInt32.ofNat (65536 * x.toNat + y.toNat)⟩
  | _ => none

/-- The diagnostic text, with mapped addresses in dotted form. -/
def displayChars (a : Ipv6) : List Char :=
  match a.mapped? with
  | some v4 => "::ffff:".toList ++ v4.chars
  | none => a.chars

end Ipv6

end TenantApps
