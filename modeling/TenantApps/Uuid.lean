import TenantApps.Text.Hex
import TenantApps.Text.Split

/-!
# `TenantApps.Uuid` — 128-bit identifiers

A `Uuid` is a vector of 32 hexadecimal digits. `Uuid.parse` accepts four forms: simple (32 digits),
hyphenated (8-4-4-4-12), braced and URN (`urn:uuid:`); digits and prefix are case-insensitive.
`Uuid.text` writes the hyphenated lower-case form.

## Contents
- `Uuid`, `Uuid.text`, and `Uuid.parse` with `ParseError`.
- `Uuid.explain`, the error of a rejected text: an invalid character takes precedence over the
  number of groups, and that over the first group of wrong length.
-/

namespace TenantApps

/-- An identifier: 32 hexadecimal digits, most significant first. -/
structure Uuid where
  digits : List (Fin 16)
  length_digits : digits.length = 32
  deriving DecidableEq, Repr

namespace Uuid

/-- Why a text is rejected. -/
inductive ParseError
  /-- Not 32 digits in simple form; `length` in bytes. -/
  | length (found : Nat)
  /-- A character outside all forms, with its byte offset. -/
  | character (found : Char) (index : Nat)
  /-- Hyphens split the text into a number of groups other than five. -/
  | groupCount (found : Nat)
  /-- A group of the wrong length. -/
  | groupLength (group expected found : Nat)
  deriving DecidableEq, Repr

/-- The message text. -/
def ParseError.message : ParseError → String
  | length n => "invalid length: found " ++ toString n
  | character c i => "invalid character: found `" ++ c.toString ++ "` at " ++ toString i
  | groupCount n => "invalid group count: expected 5, found " ++ toString n
  | groupLength g e n =>
    "invalid group length in group " ++ toString g ++ ": expected " ++ toString e ++ ", found " ++
      toString n

/-! ## Writing -/

/-- The digits in lower case. -/
def chars (u : Uuid) : List Char := u.digits.map fun d => Hex.lower d.val

/-- The five hyphenated groups. -/
def hyphenated (u : Uuid) : List Char :=
  let cs := u.chars
  cs.take 8 ++ '-' :: (cs.drop 8).take 4 ++ '-' :: (cs.drop 12).take 4 ++
    '-' :: (cs.drop 16).take 4 ++ '-' :: cs.drop 20

/-- The hyphenated form. -/
def text (u : Uuid) : String := String.ofList u.hyphenated

/-! ## Reading -/

/-- The value of a digit of either case. -/
def digit? (c : Char) : Option (Fin 16) :=
  match Hex.value? c with
  | some n => if h : n < 16 then some ⟨n, h⟩ else none
  | none => none

/-- The identifier of exactly 32 digits. -/
def ofDigits? (cs : List Char) : Option Uuid :=
  match cs.mapM digit? with
  | some ds => if h : ds.length = 32 then some ⟨ds, h⟩ else none
  | none => none

/-- Reads the hyphenated form. -/
def ofGroups? (cs : List Char) : Option Uuid :=
  let groups := Text.split '-' cs
  if groups.map List.length = [8, 4, 4, 4, 12] then ofDigits? groups.flatten else none

/-- The URN prefix. -/
def urn : List Char := ['u', 'r', 'n', ':', 'u', 'u', 'i', 'd', ':']

/-- Strips one pair of braces. -/
def unbraced? : List Char → Option (List Char)
  | '{' :: rest => if rest.getLast? = some '}' then some rest.dropLast else none
  | _ => none

/-- Strips `urn:uuid:` in either case. -/
def afterUrn? (cs : List Char) : Option (List Char) :=
  if (cs.take 9).map Char.toLower = urn then some (cs.drop 9) else none

/-- Length in bytes of the UTF-8 form. -/
def byteLength : List Char → Nat
  | [] => 0
  | c :: rest => c.utf8Size + byteLength rest

/-- The first character that is neither digit nor hyphen, with its byte offset counted from `i`. -/
def firstStray? : List Char → Nat → Option (Char × Nat)
  | [], _ => none
  | c :: rest, i =>
    if Hex.isDigit c || c == '-' then firstStray? rest (i + c.utf8Size) else some (c, i)

/-- The first group whose length is not the expected one. -/
def wrongGroup? : List Nat → List Nat → Nat → Option (Nat × Nat × Nat)
  | e :: es, n :: ns, g => if n = e then wrongGroup? es ns (g + 1) else some (g, e, n)
  | _, _, _ => none

/-- The error of a text in none of the four forms. The last group is measured from its offset in the
hyphenated form to the end of the text. -/
def explain (cs : List Char) : ParseError :=
  let (body, offset, bare) : List Char × Nat × Bool :=
    match unbraced? cs, afterUrn? cs with
    | some inner, _ => (inner, 1, false)
    | none, some rest => (rest, 9, false)
    | none, none => (cs, 0, true)
  match firstStray? body offset with
  | some (c, i) => .character c i
  | none =>
    let lengths := (Text.split '-' body).map List.length
    if lengths.length = 1 ∧ bare then .length (byteLength cs)
    else if lengths.length ≠ 5 then .groupCount lengths.length
    else match wrongGroup? [8, 4, 4, 4] lengths 0 with
      | some (g, e, n) => .groupLength g e n
      | none => .groupLength 4 12 (byteLength cs - 24)

/-- The part of a text that is read: texts of the length of a braced or URN form are read inside the
braces or after the prefix. -/
def core (cs : List Char) : List Char :=
  match byteLength cs, unbraced? cs, afterUrn? cs with
  | 38, some inner, _ => inner
  | 45, _, some rest => rest
  | _, _, _ => cs

/-- Reads an identifier in any of the four forms. -/
def parse (s : String) : Except ParseError Uuid :=
  let cs := s.toList
  let n := byteLength cs
  if n = 0 ∨ 45 < n then .error (.length n)
  else
    let body := core cs
    match if byteLength body = 32 then ofDigits? body else ofGroups? body with
    | some u => .ok u
    | none => .error (explain body)

end Uuid

end TenantApps
