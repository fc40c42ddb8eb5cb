import TenantApps.Text.Hex
import TenantApps.Text.Split

/-!
# `TenantApps.Url.Ipv4` — IPv4 addresses

A host whose last part is a number is an IPv4 address. Parts are decimal, octal (`0…`) or
hexadecimal (`0x…`); the last one fills the remaining bytes.

## Contents
- `Ipv4` and its dotted form.
- `number?`, `endsInNumber` and `Ipv4.parse?`.
-/

namespace TenantApps

/-- An IPv4 address. -/
structure Ipv4 where
  /-- In network byte order. -/
  bits : UInt32
  deriving DecidableEq, Repr

namespace Ipv4

/-- The dotted decimal form. -/
def chars (a : Ipv4) : List Char :=
  let n := a.bits.toNat
  Text.join '.' ([n >>> 24, (n >>> 16) % 256, (n >>> 8) % 256, n % 256].map (Nat.toDigits 10))

/-- The value of digits in base `base`. -/
def digits? (base : Nat) (cs : List Char) : Option Nat :=
  cs.foldlM (fun n c => (Hex.value? c).bind fun d => if d < base then some (base * n + d) else none)
    0

/-- The value of a part; digits after a prefix may be missing. -/
def number? : List Char → Option Nat
  | [] => none
  | '0' :: 'x' :: rest | '0' :: 'X' :: rest => digits? 16 rest
  | '0' :: c :: rest => digits? 8 (c :: rest)
  | cs => digits? 10 cs

/-- The parts between dots; one trailing dot is ignored. -/
def parts (host : List Char) : List (List Char) :=
  let ps := Text.split '.' host
  if ps.getLast? = some [] then ps.dropLast else ps

/-- Whether the last part is a number or all digits. -/
def endsInNumber (host : List Char) : Bool :=
  match (parts host).getLast? with
  | some last => (last ≠ [] && last.all Char.isDigit) || (number? last).isSome
  | none => false

/-- The address of one to four parts. -/
def ofNumbers? (ns : List Nat) : Option Ipv4 :=
  match ns.getLast? with
  | none => none
  | some last =>
    let front := ns.dropLast
    let bits := 8 * (4 - front.length)
    if front.length < 4 ∧ last < 1 <<< bits ∧ front.all (· < 256) then
      let high := front.foldl (fun n b => 256 * n + b) 0
      some ⟨UInt32.ofNat (high <<< bits + last)⟩
    else none

/-- Parses a host as an address. -/
def parse? (host : List Char) : Option Ipv4 := ((parts host).mapM number?).bind ofNumbers?

end Ipv4

end TenantApps
