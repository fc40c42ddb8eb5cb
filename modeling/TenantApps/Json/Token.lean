import TenantApps.Json.Number
import TenantApps.Json.Text

/-!
# `TenantApps.Json.Token` — the lexer

Tokens are separated by white space. Strings and numbers are evaluated by the lexer; a token that is
cut off is a `broken…` token and the last one.

## Contents
- `Token` and `next?`.
- `length_next?`: a token consumes at least one byte.
-/

namespace TenantApps.Json

/-- A token. -/
inductive Token
  | openBrace
  | closeBrace
  | openBracket
  | closeBracket
  | comma
  | colon
  | null
  | bool (b : Bool)
  /-- A number, or why it has no value. -/
  | number (n : Except Reason Number)
  /-- A string, or why it has no text. -/
  | text (s : Except Reason String)
  /-- `null`, cut off. -/
  | brokenNull (f : Fault)
  /-- Another word or a number, cut off. -/
  | brokenScalar (f : Fault)
  /-- A string, cut off. -/
  | brokenText (f : Fault)
  /-- A byte that starts no token. -/
  | stray

namespace Token

/-- JSON white space. -/
def isSpace (b : UInt8) : Bool := b == 0x20 || b == 0x0a || b == 0x09 || b == 0x0d

/-- Reads the rest of a word. The fault distinguishes the end of input from a wrong letter. -/
def word (t : Token) (broken : Fault → Token) : List UInt8 → List UInt8 → Token × List UInt8
  | [], input => (t, input)
  | _ :: _, [] => (broken (.same .endInValue), [])
  | w :: ws, b :: rest =>
    if w = b then word t broken ws rest else (broken (.same .expectedIdent), rest)

/-- A string after its opening quote. -/
def string (input : List UInt8) : Token × List UInt8 :=
  match Text.skip input with
  | .ok rest => (text (Text.read input), rest)
  | .error skipped =>
    match Text.read input with
    | .ok _ => (brokenText (.same skipped), [])
    | .error wanted => (brokenText ⟨wanted, skipped⟩, [])

/-- The token that starts with byte `b`. -/
def start (b : UInt8) (rest : List UInt8) : Token × List UInt8 :=
  match b with
  | 0x7b => (openBrace, rest)
  | 0x7d => (closeBrace, rest)
  | 0x5b => (openBracket, rest)
  | 0x5d => (closeBracket, rest)
  | 0x2c => (comma, rest)
  | 0x3a => (colon, rest)
  | 0x22 => string rest
  | 0x6e => word null brokenNull [0x75, 0x6c, 0x6c] rest
  | 0x74 => word (bool true) brokenScalar [0x72, 0x75, 0x65] rest
  | 0x66 => word (bool false) brokenScalar [0x61, 0x6c, 0x73, 0x65] rest
  | b =>
    if b = 0x2d ∨ Number.isDigit b then
      match Number.scan (b :: rest) with
      | .ok (l, rest) => (number l.value, rest)
      | .error f => (brokenScalar f, [])
    else (stray, rest)

/-- The first token and the rest; `none` if only white space is left. -/
def next? : List UInt8 → Option (Token × List UInt8)
  | [] => none
  | b :: rest => if isSpace b then next? rest else some (start b rest)

/-! ## Every token takes a byte -/

theorem length_skip {input rest : List UInt8} (h : Text.skip input = .ok rest) :
    rest.length < input.length := by
  fun_induction Text.skip input with
  | case2 tail =>
    cases h
    exact Nat.lt_succ_self _
  | case4 a b c d tail _ ih =>
    have := ih h
    simp only [List.length_cons]
    omega
  | case7 e tail _ _ _ ih =>
    have := ih h
    simp only [List.length_cons]
    omega
  | case10 b tail _ _ _ _ _ _ ih => exact Nat.lt_succ_of_lt (ih h)
  | case1 | case3 | case5 | case6 | case8 | case9 => cases h

theorem length_word (t : Token) (broken : Fault → Token) (ws input : List UInt8) :
    (word t broken ws input).2.length ≤ input.length := by
  fun_induction word t broken ws input with
  | case1 => exact Nat.le_refl _
  | case2 => exact Nat.le_refl _
  | case3 ws b rest ih => exact Nat.le_succ_of_le ih
  | case4 => exact Nat.le_succ _

theorem length_string (input : List UInt8) : (string input).2.length ≤ input.length := by
  unfold string
  split
  · next h => exact Nat.le_of_lt (length_skip h)
  · split <;> simp

theorem length_start (b : UInt8) (rest : List UInt8) :
    (start b rest).2.length ≤ rest.length := by
  unfold start
  split
  case h_7 => exact length_string rest
  case h_8 | h_9 | h_10 => exact length_word ..
  case h_11 =>
    split
    · next hb =>
      split
      · next h =>
        have := Number.length_scan h
        simp only [List.length_cons] at this
        exact Nat.le_of_lt_succ this
      · simp
    · simp
  all_goals simp

theorem length_next? {input rest : List UInt8} {t : Token} (h : next? input = some (t, rest)) :
    rest.length < input.length := by
  induction input with
  | nil => cases h
  | cons b tail ih =>
    rw [next?] at h
    split at h
    · exact Nat.lt_succ_of_lt (ih h)
    · rw [Option.some.injEq] at h
      have := length_start b tail
      rw [h] at this
      exact Nat.lt_succ_of_le this

end Token

end TenantApps.Json
