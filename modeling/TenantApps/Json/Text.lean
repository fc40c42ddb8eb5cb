import TenantApps.Json.Fault
import TenantApps.Text.Hex
import TenantApps.Text.Utf8

/-!
# `TenantApps.Json.Text` — string literals

`quote` escapes quotes, backslashes and characters below U+0020. `read` accepts all JSON escapes,
with `\uXXXX` in surrogate pairs outside the basic plane. `skip` finds the end of a literal without
checking UTF-8 or surrogates, as for a value that nobody wants.

## Contents
- Writing: `escape`, `quote`.
- Reading: `skip`, `unescape`, `read`.
-/

namespace TenantApps.Json.Text

/-! ## Writing -/

/-- The escaped form of a character. -/
def escape (c : Char) : List Char :=
  match c with
  | '"' => ['\\', '"']
  | '\\' => ['\\', '\\']
  | '\x08' => ['\\', 'b']
  | '\x0c' => ['\\', 'f']
  | '\n' => ['\\', 'n']
  | '\r' => ['\\', 'r']
  | '\t' => ['\\', 't']
  | c =>
    if c.toNat < 0x20 then ['\\', 'u', '0', '0'] ++ Hex.lowerByte (UInt8.ofNat c.toNat) else [c]

/-- A string literal. -/
def quote (s : String) : String := String.ofList ('"' :: s.toList.flatMap escape ++ ['"'])

/-! ## Reading

The readers take the bytes after the opening quote. -/

/-- The value of four hexadecimal digits. -/
def fourDigits? (a b c d : UInt8) : Option Nat :=
  Hex.ofChars? ([a, b, c, d].map fun x => Char.ofNat x.toNat)

/-- The byte of a one-letter escape. -/
def letterEscape? (b : UInt8) : Option UInt8 :=
  match b with
  | 0x22 => some 0x22
  | 0x5c => some 0x5c
  | 0x2f => some 0x2f
  | 0x62 => some 0x08
  | 0x66 => some 0x0c
  | 0x6e => some 0x0a
  | 0x72 => some 0x0d
  | 0x74 => some 0x09
  | _ => none

/-- The input after the closing quote. -/
def skip : List UInt8 → Except Reason (List UInt8)
  | [] => .error .endInString
  | 0x22 :: rest => .ok rest
  | 0x5c :: [] => .error .endInString
  | 0x5c :: 0x75 :: a :: b :: c :: d :: rest =>
    if (fourDigits? a b c d).isSome then skip rest else .error .invalidEscape
  | 0x5c :: 0x75 :: _ => .error .endInString
  | 0x5c :: e :: rest => if (letterEscape? e).isSome then skip rest else .error .invalidEscape
  | b :: rest => if b < 0x20 then .error .controlCharacter else skip rest

/-- The UTF-8 bytes of a code point that is no surrogate. -/
def codePointBytes (n : Nat) : List UInt8 := String.utf8EncodeChar (Char.ofNat n)

/-- The bytes of a literal, with the input after it. A high surrogate must be followed by a low
one. -/
def unescape : List UInt8 → List UInt8 → Except Reason (List UInt8 × List UInt8)
  | [], _ => .error .endInString
  | 0x22 :: rest, out => .ok (out.reverse, rest)
  | 0x5c :: [], _ => .error .endInString
  | 0x5c :: 0x75 :: a :: b :: c :: d :: rest, out =>
    match fourDigits? a b c d with
    | none => .error .invalidEscape
    | some n =>
      if 0xdc00 ≤ n ∧ n ≤ 0xdfff then .error .loneSurrogate
      else if n < 0xd800 ∨ 0xdfff < n then unescape rest ((codePointBytes n).reverse ++ out)
      else match rest with
        | [] => .error .endInString
        | 0x5c :: [] => .error .endInString
        | 0x5c :: 0x75 :: e :: f :: g :: h :: rest =>
          match fourDigits? e f g h with
          | none => .error .invalidEscape
          | some m =>
            if m < 0xdc00 ∨ 0xdfff < m then .error .loneSurrogate
            else
              let full := (n - 0xd800) * 0x400 + (m - 0xdc00) + 0x10000
              unescape rest ((codePointBytes full).reverse ++ out)
        | 0x5c :: 0x75 :: _ => .error .endInString
        | _ => .error .endOfHexEscape
  | 0x5c :: 0x75 :: _, _ => .error .endInString
  | 0x5c :: e :: rest, out =>
    match letterEscape? e with
    | some b => unescape rest (b :: out)
    | none => .error .invalidEscape
  | b :: rest, out => if b < 0x20 then .error .controlCharacter else unescape rest (b :: out)

/-- The string of a literal; its bytes must be UTF-8. -/
def read (input : List UInt8) : Except Reason String :=
  match unescape input [] with
  | .error r => .error r
  | .ok (bs, _) =>
    match Utf8.ofBytes? bs with
    | some s => .ok s
    | none => .error .invalidCodePoint

end TenantApps.Json.Text
