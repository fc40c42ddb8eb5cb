import TenantApps.Json.Node
import TenantApps.Json.Token

/-!
# `TenantApps.Json.Reader` — the parser

A pushdown automaton over tokens: `State` says what is expected next and carries the stack of open
containers, so nesting depth is unbounded. It stops at the end of the first value or at the first
grammar fault, which closes every open container.

## Contents
- `Frame`, `State` and the transition `State.step`; `State.ended` for the end of the input.
- `readFrom` and `read`.
-/

namespace TenantApps.Json

/-- A member: its key, or why the key is no string, and its value. -/
abbrev Member := Except Reason String × Node

/-- An open container around the value being read; finished parts in reverse. -/
inductive Frame
  | item (done : List Node)
  | member (done : List Member) (key : Except Reason String)

/-- What is expected next. -/
inductive State
  /-- A value. -/
  | value (stack : List Frame)
  /-- The first element of a list, or `]`. -/
  | firstItem (stack : List Frame)
  /-- An element after a comma. -/
  | nextItem (done : List Node) (stack : List Frame)
  /-- A comma or `]`. -/
  | afterItem (done : List Node) (stack : List Frame)
  /-- The first key of an object, or a closing brace. -/
  | firstKey (stack : List Frame)
  /-- A key after a comma. -/
  | nextKey (done : List Member) (stack : List Frame)
  /-- The colon after a key. -/
  | colon (done : List Member) (key : Except Reason String) (stack : List Frame)
  /-- A comma or a closing brace. -/
  | afterMember (done : List Member) (stack : List Frame)

namespace State

/-- Result of a transition: the next state, or the finished node. -/
abbrev Outcome := State ⊕ Node

/-- Adds a finished value to the innermost container. -/
def put (n : Node) : List Frame → Outcome
  | [] => .inr n
  | .item done :: stack => .inl (.afterItem (n :: done) stack)
  | .member done key :: stack => .inl (.afterMember ((key, n) :: done) stack)

/-- Closes all open containers with the fault. -/
def abandon (f : Fault) (n : Node) : List Frame → Node
  | [] => n
  | .item done :: stack => abandon f (.array (n :: done).reverse (some f)) stack
  | .member done key :: stack => abandon f (.object ((key, n) :: done).reverse (some f)) stack

/-- Stops at a value that is cut off. -/
def breakOff (place : Break) (f : Fault) (stack : List Frame) : Outcome :=
  .inr (abandon f (.broken place f) stack)

/-- Stops in a list, between elements. -/
def breakList (f : Fault) (done : List Node) (stack : List Frame) : Outcome :=
  .inr (abandon f (.array done.reverse (some f)) stack)

/-- Stops in an object, between members. -/
def breakObject (f : Fault) (done : List Member) (stack : List Frame) : Outcome :=
  .inr (abandon f (.object done.reverse (some f)) stack)

/-- Transition where a value is expected. -/
def startValue (t : Token) (stack : List Frame) : Outcome :=
  match t with
  | .null => put .null stack
  | .bool b => put (.bool b) stack
  | .number n => put (.number n) stack
  | .text s => put (.text s) stack
  | .openBracket => .inl (.firstItem stack)
  | .openBrace => .inl (.firstKey stack)
  | .brokenNull f => breakOff .null f stack
  | .brokenScalar f => breakOff .scalar f stack
  | .brokenText f => breakOff .text f stack
  | _ => breakOff .value (.same .expectedValue) stack

/-- Transition where a key is expected. -/
def startKey (t : Token) (done : List Member) (stack : List Frame) : Outcome :=
  match t with
  | .text s => .inl (.colon done s stack)
  | .brokenText f => breakObject f done stack
  | _ => breakObject (.same .keyNotString) done stack

/-- Transition on a token. -/
def step (s : State) (t : Token) : Outcome :=
  match s, t with
  | value stack, t => startValue t stack
  | firstItem stack, .closeBracket => put (.array [] none) stack
  | firstItem stack, t => startValue t (.item [] :: stack)
  | nextItem done stack, .closeBracket => breakList ⟨.trailingComma, .expectedValue⟩ done stack
  | nextItem done stack, t => startValue t (.item done :: stack)
  | afterItem done stack, .comma => .inl (.nextItem done stack)
  | afterItem done stack, .closeBracket => put (.array done.reverse none) stack
  | afterItem done stack, _ => breakList (.same .expectedCommaOrBracket) done stack
  | firstKey stack, .closeBrace => put (.object [] none) stack
  | firstKey stack, t => startKey t [] stack
  | nextKey done stack, .closeBrace => breakObject ⟨.trailingComma, .keyNotString⟩ done stack
  | nextKey done stack, t => startKey t done stack
  | colon done key stack, .colon => .inl (.value (.member done key :: stack))
  | colon done key stack, _ =>
    breakOff .colon (.same .expectedColon) (.member done key :: stack)
  | afterMember done stack, .comma => .inl (.nextKey done stack)
  | afterMember done stack, .closeBrace => put (.object done.reverse none) stack
  | afterMember done stack, _ => breakObject (.same .expectedCommaOrBrace) done stack

/-- The node at the end of the input. -/
def ended : State → Node
  | value stack => abandon (.same .endInValue) (.broken .value (.same .endInValue)) stack
  | firstItem stack => abandon (.same .endInList) (.array [] (some (.same .endInList))) stack
  | nextItem done stack =>
    abandon (.same .endInValue) (.array done.reverse (some (.same .endInValue))) stack
  | afterItem done stack =>
    abandon (.same .endInList) (.array done.reverse (some (.same .endInList))) stack
  | firstKey stack => abandon (.same .endInObject) (.object [] (some (.same .endInObject))) stack
  | nextKey done stack =>
    let f : Fault := ⟨.endInValue, .endInObject⟩
    abandon f (.object done.reverse (some f)) stack
  | colon done key stack =>
    abandon (.same .endInObject) (.broken .colon (.same .endInObject)) (.member done key :: stack)
  | afterMember done stack =>
    abandon (.same .endInObject) (.object done.reverse (some (.same .endInObject))) stack

end State

/-- Runs the automaton: the first value and the rest of the input. -/
def readFrom (s : State) (input : List UInt8) : Node × List UInt8 :=
  match _h : Token.next? input with
  | none => (s.ended, [])
  | some (t, rest) =>
    match s.step t with
    | .inl s => readFrom s rest
    | .inr n => (n, rest)
termination_by input.length
decreasing_by exact Token.length_next? _h

/-- Reads the first value from the initial state. -/
def read (input : List UInt8) : Node × List UInt8 := readFrom (.value []) input

end TenantApps.Json
