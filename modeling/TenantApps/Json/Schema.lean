import TenantApps.Json.Decoder

/-!
# `TenantApps.Json.Schema` — record decoders

A `Schema` lists the fields of a record with their names, types and decoders; `Schema.decoder` reads
both forms of a record. In the object form members come in any order, unknown ones are skipped and
duplicates are errors; in the list form fields come in declared order.

## Contents
- `Schema` and `Schema.Slots`, the partial assignment of field values.
- `Schema.members`, `Schema.elements` and `Schema.decoder`.
-/

namespace TenantApps.Json

/-- A record type as named fields. -/
structure Schema (α : Type) where
  /-- The wording of the record in errors. -/
  title : String
  Field : Type
  /-- In declared order. -/
  fields : List Field
  /-- The member name. -/
  name : Field → String
  /-- The value type. -/
  Slot : Field → Type
  /-- The value decoder. -/
  slot : (f : Field) → Decoder (Slot f)
  /-- Assembles the record, or names a required field without value. -/
  make : ((f : Field) → Option (Slot f)) → Except Field α
  [decEq : DecidableEq Field]

namespace Schema

variable {α : Type} (s : Schema α)

instance : DecidableEq s.Field := s.decEq

/-- Field values read so far. -/
abbrev Slots := (f : s.Field) → Option (s.Slot f)

/-- The empty assignment. -/
def noSlots : s.Slots := fun _ => none

/-- Assigns `v` to `f`. -/
def fill (slots : s.Slots) (f : s.Field) (v : s.Slot f) : s.Slots := fun g =>
  if h : f = g then some (h ▸ v) else slots g

/-- The field with a member name. -/
def field? (name : String) : Option s.Field := s.fields.find? fun f => s.name f == name

/-- Decodes one member; unknown members are skipped, duplicates rejected. -/
def member (slots : s.Slots) (m : Member) : Except Failure s.Slots :=
  match m with
  | (.error r, _) => .error ⟨[.key], .grammar r⟩
  | (.ok name, value) =>
    match s.field? name with
    | none =>
      match value with
      | .broken .colon f => .error (.here (.grammar f.wanted))
      | value =>
        match value.skipFault? with
        | some r => .error ⟨[.member name], .grammar r⟩
        | none => .ok slots
    | some f =>
      if (slots f).isSome then .error (.here (.duplicateField name))
      else match value with
        | .broken .colon f => .error (.here (.grammar f.wanted))
        | value =>
          match Decoder.under (.member name) (s.slot f value) with
          | .error e => .error e
          | .ok v => .ok (s.fill slots f v)

/-- Decodes members in written order. -/
def members : s.Slots → List Member → Except Failure s.Slots
  | slots, [] => .ok slots
  | slots, m :: rest =>
    match s.member slots m with
    | .error e => .error e
    | .ok slots => members slots rest

/-- Why a list does not end after its fields. -/
def afterFields (rest : List Node) (fault : Option Fault) : Option Reason :=
  match rest, fault with
  | [], none => none
  | [], some f =>
    if f.wanted = .trailingComma ∨ f.wanted = .endInList then some f.wanted
    else some .trailingCharacters
  | _ :: _, _ => some .trailingCharacters

/-- Decodes list elements as the fields of the list, the first at index `i`. -/
def elements (fault : Option Fault) :
    Nat → s.Slots → List s.Field → List Node → Except Failure s.Slots
  | _, slots, [], rest =>
    match afterFields rest fault with
    | none => .ok slots
    | some r => .error (.here (.grammar r))
  | _, slots, _ :: _, [] =>
    match fault with
    | none => .ok slots
    | some f => .error (.here (.grammar f.wanted))
  | i, slots, f :: fs, n :: rest =>
    match Decoder.under (.item i) (s.slot f n) with
    | .error e => .error e
    | .ok v => elements fault (i + 1) (s.fill slots f v) fs rest

/-- The decoder of a record. -/
def decoder : Decoder α
  | .object ms fault =>
    match s.members s.noSlots ms, fault with
    | .error e, _ => .error e
    | .ok _, some f => .error ⟨[.key], .grammar f.wanted⟩
    | .ok slots, none =>
      match s.make slots with
      | .ok a => .ok a
      | .error f => .error (.here (.missingField (s.name f)))
  | .array ns fault =>
    match s.elements fault 0 s.noSlots s.fields ns with
    | .error e => .error e
    | .ok slots =>
      match s.make slots with
      | .ok a => .ok a
      | .error f =>
        .error (.here (.invalidLength (s.fields.idxOf f) s.title s.fields.length))
  | n => n.refuse s.title

end Schema

end TenantApps.Json
