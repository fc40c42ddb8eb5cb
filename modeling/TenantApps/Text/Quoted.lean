import TenantApps.Unicode.Unprintable

/-!
# `TenantApps.Text.Quoted` — quoted strings in diagnostics

Double quotes and backslashes are escaped by a backslash; NUL, tab, line feed and carriage return
have short escapes; other unprintable characters are written by code point in braces.
-/

namespace TenantApps.Quoted

/-- The escaped form of a character. -/
def escape (c : Char) : List Char :=
  match c with
  | '\x00' => ['\\', '0']
  | '\t' => ['\\', 't']
  | '\n' => ['\\', 'n']
  | '\r' => ['\\', 'r']
  | '"' => ['\\', '"']
  | '\\' => ['\\', '\\']
  | c =>
    if Unicode.isPrintable c then [c]
    else ['\\', 'u', '{'] ++ Nat.toDigits 16 c.toNat ++ ['}']

/-- The string in double quotes. -/
def quote (s : String) : String :=
  String.ofList ('"' :: s.toList.flatMap escape ++ ['"'])

end TenantApps.Quoted
