import TenantApps.Json.Number
import TenantApps.Json.Text
import TenantApps.Text.Quoted

/-!
# `TenantApps.Json.Node` — syntax trees with grammar faults

A `Node` is a JSON value as far as it could be read. Grammar faults are leaves of the tree or close
an open container, so a decoder that meets a value of the wrong type first reports that, and one
that skips a value ignores the faults in its strings and numbers.

## Contents
- `Node` with `skipFault?` and `found`, the wording of a node in errors.
- `Value`, fault-free trees, with the compact text `print` and the embedding `node`.
-/

namespace TenantApps.Json

/-- Where a value is cut off. -/
inductive Break
  /-- At its first character. -/
  | value
  /-- Inside `null`. -/
  | null
  /-- Inside another word or a number. -/
  | scalar
  /-- Inside a string. -/
  | text
  /-- Before the colon of a member. -/
  | colon
  deriving DecidableEq, Repr

/-- A JSON value with its grammar faults. -/
inductive Node
  | null
  | bool (b : Bool)
  | number (n : Except Reason Number)
  | text (s : Except Reason String)
  /-- A list; the fault is the reason it is not closed. -/
  | array (items : List Node) (fault : Option Fault)
  /-- Members in written order; the fault is the reason the object is not closed. -/
  | object (members : List (Except Reason String × Node)) (fault : Option Fault)
  /-- No value could be read. -/
  | broken (place : Break) (fault : Fault)

namespace Node

/-- The first fault met by a reader that skips the node. -/
def skipFault? : Node → Option Reason
  | array _ f | object _ f => f.map (·.skipped)
  | broken _ f => some f.skipped
  | _ => none

/-- The wording of a node of the wrong type, or its grammar fault. -/
def found : Node → Except Reason String
  | null => .ok "null"
  | bool b => .ok (if b then "boolean `true`" else "boolean `false`")
  | number n => n.map Number.describe
  | text s => s.map fun s => "string " ++ Quoted.quote s
  | array _ _ => .ok "sequence"
  | object _ _ => .ok "map"
  | broken _ f => .error f.wanted

end Node

/-! ## Values to write -/

/-- A JSON value. -/
inductive Value
  | null
  | bool (b : Bool)
  | natural (n : Nat)
  | text (s : String)
  | array (items : List Value)
  | object (members : List (String × Value))

namespace Value

mutual

/-- Compact form: no white space, members in order. -/
def chars : Value → List Char
  | null => ['n', 'u', 'l', 'l']
  | bool true => ['t', 'r', 'u', 'e']
  | bool false => ['f', 'a', 'l', 's', 'e']
  | natural n => Nat.toDigits 10 n
  | text s => (Text.quote s).toList
  | array items => '[' :: itemChars items ++ [']']
  | object members => '{' :: memberChars members ++ ['}']

/-- `chars` of list elements, separated by commas. -/
def itemChars : List Value → List Char
  | [] => []
  | [v] => chars v
  | v :: w :: rest => chars v ++ ',' :: itemChars (w :: rest)

/-- `chars` of members, separated by commas. -/
def memberChars : List (String × Value) → List Char
  | [] => []
  | [(k, v)] => (Text.quote k).toList ++ ':' :: chars v
  | (k, v) :: m :: rest => (Text.quote k).toList ++ ':' :: chars v ++ ',' :: memberChars (m :: rest)

end

/-- The compact form as a string. -/
def print (v : Value) : String := String.ofList v.chars

mutual

/-- The fault-free node of a value. -/
def node : Value → Node
  | null => .null
  | bool b => .bool b
  | natural n => .number (.ok (.natural n))
  | text s => .text (.ok s)
  | array items => .array (itemNodes items) none
  | object members => .object (memberNodes members) none

/-- `node` of list elements. -/
def itemNodes : List Value → List Node
  | [] => []
  | v :: rest => node v :: itemNodes rest

/-- `node` of members. -/
def memberNodes : List (String × Value) → List (Except Reason String × Node)
  | [] => []
  | (k, v) :: rest => (.ok k, node v) :: memberNodes rest

end

end Value

end TenantApps.Json
