import TenantApps.Json.Reader

/-!
# `TenantApps.Json.Decoder` — decoder combinators

A `Decoder α` maps a `Node` to an `α` or a `Failure`. It visits the node in written order and
reports the first thing that stops it: a grammar fault in the node, or a value of the wrong kind.

## Contents
- `Cause`, `Step` and `Failure`, an error with its path.
- `Decoder` with the combinators `text`, `natural64`, `unit`, `optional`, `list` and `refine`.
- `decodeFirst`, which ignores what follows the first value, and `decodeWhole`, which does not.
-/

namespace TenantApps.Json

/-- Why a node is not decoded. -/
inductive Cause
  /-- A grammar fault. -/
  | grammar (r : Reason)
  /-- A value of the wrong JSON type. -/
  | invalidType (found expected : String)
  /-- A value of the right type, out of range. -/
  | invalidValue (found expected : String)
  /-- A required member is missing. -/
  | missingField (name : String)
  /-- A member occurs twice. -/
  | duplicateField (name : String)
  /-- A list is too short for a record. -/
  | invalidLength (found : Nat) (title : String) (elements : Nat)
  /-- `refine` rejected the value. -/
  | refused (why : String)
  deriving DecidableEq, Repr

namespace Cause

/-- The message text. -/
def message : Cause → String
  | grammar r => r.message
  | invalidType found expected => "invalid type: " ++ found ++ ", expected " ++ expected
  | invalidValue found expected => "invalid value: " ++ found ++ ", expected " ++ expected
  | missingField name => "missing field `" ++ name ++ "`"
  | duplicateField name => "duplicate field `" ++ name ++ "`"
  | invalidLength n title k =>
    "invalid length " ++ toString n ++ ", expected " ++ title ++ " with " ++ toString k ++
      (if k = 1 then " element" else " elements")
  | refused why => why

/-- The error category. -/
def category : Cause → Category
  | grammar r => r.category
  | _ => .data

end Cause

/-- A step of a path into a value. -/
inductive Step
  /-- The member `name` of an object. -/
  | member (name : String)
  /-- The element `index` of a list. -/
  | item (index : Nat)
  /-- The key position of an object. -/
  | key
  deriving DecidableEq, Repr

/-- A cause with its path from the root. -/
structure Failure where
  /-- Outermost step first. -/
  path : List Step
  cause : Cause
  deriving DecidableEq, Repr

namespace Failure

/-- A failure at the node itself. -/
def here (c : Cause) : Failure := ⟨[], c⟩

/-- A failure below one more step. -/
def below (s : Step) (e : Failure) : Failure := ⟨s :: e.path, e.cause⟩

/-- The tail of a path text; every step but elements is preceded by a dot, the first excepted. -/
def pathFrom (dot : String) : List Step → String
  | [] => ""
  | .member name :: rest => dot ++ name ++ pathFrom "." rest
  | .item i :: rest => "[" ++ toString i ++ "]" ++ pathFrom "." rest
  | .key :: rest => dot ++ "?" ++ pathFrom "." rest

/-- The path as text; `.` for the root. -/
def pathText (e : Failure) : String := if e.path = [] then "." else pathFrom "" e.path

end Failure

/-- A partial function from nodes, with errors. -/
abbrev Decoder (α : Type) := Node → Except Failure α

/-- Rejects a node: its grammar fault, or `invalidType`. -/
def Node.refuse {α : Type} (n : Node) (expected : String) : Except Failure α :=
  match n.found with
  | .ok found => .error (.here (.invalidType found expected))
  | .error r => .error (.here (.grammar r))

namespace Decoder

/-- Prefixes the path of a failure by one step. -/
def under {α : Type} (s : Step) (r : Except Failure α) : Except Failure α :=
  match r with
  | .ok a => .ok a
  | .error e => .error (e.below s)

/-- A string; `expected` is the wording in errors. -/
def textAs (expected : String) : Decoder String
  | .text (.ok s) => .ok s
  | n => n.refuse expected

/-- A string. -/
def text : Decoder String := textAs "a string"

/-- An integer in `[0, 2 ^ 64)`. -/
def natural64 : Decoder Nat
  | .number (.ok (.natural n)) => .ok n
  | .number (.ok (.negative n)) =>
    .error (.here (.invalidValue (Number.negative n).describe "u64"))
  | n => n.refuse "u64"

/-- `null`. -/
def unit : Decoder Unit
  | .null => .ok ()
  | n => n.refuse "unit"

/-- `none` for `null`. A token that starts like `null` is committed to it. -/
def optional {α : Type} (d : Decoder α) : Decoder (Option α)
  | .null => .ok none
  | .broken .null f => .error (.here (.grammar f.wanted))
  | n => (d n).map some

/-- Decodes list elements, the first at index `i`. -/
def items {α : Type} (d : Decoder α) : Nat → List Node → Except Failure (List α)
  | _, [] => .ok []
  | i, n :: rest =>
    match under (.item i) (d n) with
    | .error e => .error e
    | .ok a => (items d (i + 1) rest).map (a :: ·)

/-- A list of values of one decoder. -/
def list {α : Type} (d : Decoder α) : Decoder (List α)
  | .array ns fault =>
    match items d 0 ns, fault with
    | .error e, _ => .error e
    | .ok _, some f => .error (.here (.grammar f.wanted))
    | .ok as, none => .ok as
  | n => n.refuse "a sequence"

/-- Post-composition with a check; its message becomes `Cause.refused`. -/
def refine {α β : Type} (d : Decoder α) (check : α → Except String β) : Decoder β := fun n =>
  match d n with
  | .error e => .error e
  | .ok a =>
    match check a with
    | .ok b => .ok b
    | .error why => .error (.here (.refused why))

end Decoder

/-- Decodes the first value of the input; the bytes after it are ignored. -/
def decodeFirst {α : Type} (d : Decoder α) (input : List UInt8) : Except Failure α :=
  d (read input).1

/-- Decodes an input that is one value between white space. -/
def decodeWhole {α : Type} (d : Decoder α) (input : List UInt8) : Except Failure α :=
  let (n, rest) := read input
  match d n with
  | .error e => .error e
  | .ok a =>
    if rest.all Token.isSpace then .ok a else .error (.here (.grammar .trailingCharacters))

end TenantApps.Json
