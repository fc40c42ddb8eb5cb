import TenantApps.Url.Basic

/-!
# `TenantApps.Http.Target` — request targets

Conversion of a `Url` to the URI of a request, which is stricter than URL syntax: bounded length, a
checked authority, no fragment. URL paths and queries are percent-encoded far enough to need no
check.

## Contents
- `TargetError` and its messages.
- `Scan`, the character automaton of an authority.
- `Target`, `Target.ofUrl` and `Target.text`.
-/

namespace TenantApps.Http

/-- Why a URL is not a request target. -/
inductive TargetError
  /-- More than `byteLimit` bytes. -/
  | tooLong
  /-- A scheme of more than `schemeLimit` characters. -/
  | schemeTooLong
  /-- A character not allowed in an authority. -/
  | character
  /-- Misplaced colons, brackets, percent or at signs in the authority. -/
  | authority
  /-- No authority, or an authority-form URL with more than the authority. -/
  | format
  deriving DecidableEq, Repr

/-- The message text. -/
def TargetError.message : TargetError → String
  | tooLong => "uri too long"
  | schemeTooLong => "scheme too long"
  | character => "invalid uri character"
  | authority => "invalid authority"
  | format => "invalid format"

/-! ## Authorities -/

/-- State of the authority check. -/
structure Scan where
  /-- Colons since the last `@` or `]`. -/
  colons : Nat := 0
  /-- A `[` was read. -/
  opened : Bool := false
  /-- A `]` was read. -/
  closed : Bool := false
  /-- A `%` was read since the last `@` or `]`. -/
  escaped : Bool := false
  /-- The last character was `@`. -/
  atSign : Bool := false

namespace Scan

/-- The maximal number of colons since the last `@` or `]`. -/
def colonLimit : Nat := 8

/-- Characters without a function of their own in an authority. -/
def isOrdinary (c : Char) : Bool :=
  c.isAlphanum || "!$&'()*+,-.;=_~".toList.contains c

/-- Transition on one character. -/
def step (s : Scan) (c : Char) : Except TargetError Scan :=
  let t := { s with atSign := false }
  match c with
  | ':' =>
    if colonLimit ≤ s.colons then .error .authority
    else .ok { t with colons := s.colons + 1 }
  | '[' => if s.escaped || s.opened then .error .authority else .ok { t with opened := true }
  | ']' =>
    if !s.opened || s.closed then .error .authority
    else .ok { t with closed := true, colons := 0, escaped := false }
  | '@' => .ok { s with atSign := true, colons := 0, escaped := false }
  | '%' => .ok { t with escaped := true }
  | c => if isOrdinary c then .ok t else .error .character

/-- Accepting states. -/
def accepts (s : Scan) : Bool :=
  s.opened == s.closed && s.colons ≤ 1 && !s.atSign && !s.escaped

/-- Runs the automaton over a whole authority. -/
def check (cs : List Char) : Except TargetError Unit := do
  let s ← cs.foldlM step {}
  if s.accepts then .ok () else .error .authority

end Scan

/-! ## Targets -/

/-- A request target. -/
structure Target where
  /-- The scheme; `none` for the authority form. -/
  scheme : Option String
  authority : String
  path : String
  /-- The query; `some ""` is a bare `?`. -/
  query : Option String
  deriving DecidableEq, Repr

namespace Target

/-- The target as text. -/
def text (t : Target) : String :=
  (match t.scheme with
    | some s => s ++ "://"
    | none => "") ++ t.authority ++ t.path ++ Url.marked "?" t.query

/-- The maximal length of a target in bytes. -/
def byteLimit : Nat := 65534

/-- The maximal length of a scheme. -/
def schemeLimit : Nat := 64

/-- The target of a URL: absolute form without fragment, or authority form if the URL has none. -/
def ofUrl (u : Url) : Except TargetError Target :=
  if byteLimit < u.text.utf8ByteSize then .error .tooLong
  else match u.authority with
    | some a =>
      if schemeLimit < u.scheme.length then .error .schemeTooLong
      else match Scan.check a.text.toList with
        | .error e => .error e
        | .ok () =>
          if a.text = "" then .error .format
          else .ok ⟨some u.scheme, a.text, if u.path.text = "" then "/" else u.path.text, u.query⟩
    | none =>
      let whole := u.text.toList
      let first := whole.takeWhile fun c => !(c == '/' || c == '?' || c == '#')
      match Scan.check first with
      | .error e => .error e
      | .ok () => if first = whole then .ok ⟨none, u.text, "", none⟩ else .error .format

end Target

end TenantApps.Http
