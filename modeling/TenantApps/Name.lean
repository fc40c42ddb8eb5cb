import TenantApps.Json.Decoder
import TenantApps.Text.Blank

/-!
# `TenantApps.Name` — application names

The lookup filter `name eq <name>` holds the name unquoted, so an `ApplicationName` is a non-empty
string without whitespace; the structure carries both proofs.

## Contents
- `NameError` and `ApplicationName`.
- The entries `check`, `parse`, `ofString` and `decoder`, with `check_text` and `text_of_check`.
- `filter`, the lookup filter.
- `sorted` and `count`, names as keys of collections.
-/

namespace TenantApps

/-- Why a string is not a name. -/
inductive NameError
  /-- The string is empty. -/
  | empty
  /-- The string contains whitespace. -/
  | blank
  deriving DecidableEq, Repr

/-- The message text. -/
def NameError.message : NameError → String
  | empty => "Application name cannot be empty."
  | blank => "Application name contains whitespace."

/-- A validated application name. -/
structure ApplicationName where
  text : String
  ne_empty : text ≠ ""
  not_blank : text.toList.all (!isBlank ·) = true
  deriving DecidableEq, Repr

namespace ApplicationName

/-- Validation, with the emptiness test first. -/
def check (s : String) : Except NameError ApplicationName :=
  if h : s = "" then .error .empty
  else if hb : s.toList.all (!isBlank ·) = true then .ok ⟨s, h, hb⟩
  else .error .blank

theorem check_text (n : ApplicationName) : check n.text = .ok n := by
  simp [check, n.ne_empty, n.not_blank]

theorem text_of_check {s : String} {n : ApplicationName} (h : check s = .ok n) : n.text = s := by
  unfold check at h
  split at h
  · contradiction
  · split at h
    · injection h with h
      rw [← h]
    · contradiction

@[ext] theorem ext {a b : ApplicationName} (h : a.text = b.text) : a = b := by
  cases a; cases b; cases h; rfl

/-- Parses a string. -/
def parse (s : String) : Except NameError ApplicationName := check s

/-- The first defect of `s`, if it has one. -/
def fault? (s : String) : Option NameError :=
  if s = "" then some .empty else if s.toList.any isBlank then some .blank else none

theorem fault?_eq_none {s : String} :
    fault? s = none ↔ s ≠ "" ∧ s.toList.all (!isBlank ·) = true := by
  rw [fault?, ← List.not_any_eq_all_not, Bool.not_eq_true']
  by_cases hs : s = ""
  · simp [hs]
  · cases s.toList.any isBlank <;> simp [hs]

/-- Converts an owned string: tests it with `fault?` and keeps it. -/
def ofString (s : String) : Except NameError ApplicationName :=
  match h : fault? s with
  | some e => .error e
  | none => .ok ⟨s, (fault?_eq_none.mp h).1, (fault?_eq_none.mp h).2⟩

/-- The value of the `filter` query parameter. -/
def filter (n : ApplicationName) : String := "name eq " ++ n.text

/-- The diagnostic text. -/
def debug (n : ApplicationName) : String := "ApplicationName(" ++ n.text ++ ")"

/-- The deserializer; an invalid name is a decoding error. -/
def decoder : Json.Decoder ApplicationName :=
  Json.Decoder.text.refine fun s => (check s).mapError NameError.message

/-- The serializer. -/
def json (n : ApplicationName) : Json.Value := .text n.text

/-! ## Collections -/

/-- Names in lexicographic order. -/
def sorted (names : List ApplicationName) : List ApplicationName :=
  names.mergeSort fun a b => a.text ≤ b.text

/-- Multiplicity of `s` among the names. -/
def count (names : List ApplicationName) (s : String) : Nat := names.countP (·.text = s)

end ApplicationName

end TenantApps
