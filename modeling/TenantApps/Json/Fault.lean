/-!
# `TenantApps.Json.Fault` — grammar faults

A reader stops at the first grammar fault. A reader that skips a value checks less than one that
wants it and may word the same fault differently, so a `Fault` carries the reason for either mode.

## Contents
- `Reason`, with `message` and `category`.
- `Fault`, the reasons for wanted and for skipped values.
-/

namespace TenantApps.Json

/-- What is wrong at the position where reading stopped. -/
inductive Reason
  | endInValue
  | endInObject
  | endInList
  | endInString
  | expectedValue
  | expectedIdent
  | expectedColon
  | expectedCommaOrBrace
  | expectedCommaOrBracket
  | keyNotString
  | trailingComma
  | trailingCharacters
  | invalidNumber
  | numberOutOfRange
  | invalidEscape
  | controlCharacter
  | loneSurrogate
  | endOfHexEscape
  | invalidCodePoint
  deriving DecidableEq, Repr

/-- Error categories: grammar, data, premature end. -/
inductive Category
  | grammar
  | data
  | ended
  deriving DecidableEq, Repr

namespace Reason

/-- The message text. -/
def message : Reason → String
  | endInValue => "EOF while parsing a value"
  | endInObject => "EOF while parsing an object"
  | endInList => "EOF while parsing a list"
  | endInString => "EOF while parsing a string"
  | expectedValue => "expected value"
  | expectedIdent => "expected ident"
  | expectedColon => "expected `:`"
  | expectedCommaOrBrace => "expected `,` or `\x7d`"
  | expectedCommaOrBracket => "expected `,` or `]`"
  | keyNotString => "key must be a string"
  | trailingComma => "trailing comma"
  | trailingCharacters => "trailing characters"
  | invalidNumber => "invalid number"
  | numberOutOfRange => "number out of range"
  | invalidEscape => "invalid escape"
  | controlCharacter => "control character (\\u0000-\\u001F) found while parsing a string"
  | loneSurrogate => "lone leading surrogate in hex escape"
  | endOfHexEscape => "unexpected end of hex escape"
  | invalidCodePoint => "invalid unicode code point"

/-- `ended` if the input ended inside a value, `grammar` otherwise. -/
def category : Reason → Category
  | endInValue | endInObject | endInList | endInString => .ended
  | _ => .grammar

end Reason

/-- A grammar fault in both reading modes. -/
structure Fault where
  /-- The reason if the value is wanted. -/
  wanted : Reason
  /-- The reason if the value is skipped. -/
  skipped : Reason
  deriving DecidableEq, Repr

/-- A fault with one reason for both modes. -/
def Fault.same (r : Reason) : Fault := ⟨r, r⟩

end TenantApps.Json
