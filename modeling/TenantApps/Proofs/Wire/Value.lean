import TenantApps.Proofs.Wire.Phrase

/-!
# `TenantApps.Proofs.Wire.Value` — printed values are phrases

A printed value is the bytes of a `Phrase` without whitespace in which every string is quoted, so it
is read as its node. Numbers are excluded, since their end depends on what follows.

## Contents
- `Json.Value.Numberless` and `Json.Value.exists_phrase`, the phrase of a value.
- `Json.read_print` and `Json.read_print_whole`, **reading a printed value**.
-/

namespace TenantApps.Json

open Utf8

namespace Value

mutual

/-- Values without numbers. -/
def Numberless : Value → Prop
  | natural _ => False
  | array items => ItemsNumberless items
  | object members => MembersNumberless members
  | null | bool _ | text _ => True

def ItemsNumberless : List Value → Prop
  | [] => True
  | v :: rest => Numberless v ∧ ItemsNumberless rest

def MembersNumberless : List (String × Value) → Prop
  | [] => True
  | (_, v) :: rest => Numberless v ∧ MembersNumberless rest

end

/-! ## Phrases of values -/

theorem ofChars_itemChars : ∀ items : List Value,
    ofChars (itemChars items) = Phrase.commas (items.map (ofChars ·.chars))
  | [] => by rw [itemChars]; rfl
  | [v] => by rw [itemChars]; exact (List.append_nil _).symm
  | v :: w :: items => by
    have hne : (w :: items).map (ofChars ·.chars) ≠ [] := List.cons_ne_nil _ _
    rw [itemChars, ofChars_append, ofChars_cons, ofChars_itemChars (w :: items),
      List.map_cons (a := v), Phrase.commas_cons hne]
    rfl

def memberText (m : String × Value) : List UInt8 :=
  ofChars (Text.quote m.1).toList ++ 0x3a :: ofChars m.2.chars

theorem ofChars_memberChars : ∀ members : List (String × Value),
    ofChars (memberChars members) = Phrase.commas (members.map memberText)
  | [] => by rw [memberChars]; rfl
  | [(k, v)] => by
    rw [memberChars, ofChars_append, ofChars_cons]
    exact (List.append_nil _).symm
  | (k, v) :: m :: members => by
    have hne : (m :: members).map memberText ≠ [] := List.cons_ne_nil _ _
    have hcolon : String.utf8EncodeChar ':' = [0x3a] := rfl
    have hcomma : String.utf8EncodeChar ',' = [0x2c] := rfl
    rw [memberChars, ofChars_append, ofChars_append, ofChars_cons, ofChars_cons, hcolon, hcomma,
      ofChars_memberChars (m :: members), List.map_cons (a := (k, v)), Phrase.commas_cons hne,
      memberText, List.singleton_append, List.singleton_append]

mutual

/-- A printed value is a phrase whose end does not depend on what follows. -/
theorem exists_phrase : ∀ v : Value, v.Numberless →
    ∃ p : Phrase, ¬p.Open ∧ p.bytes = ofChars v.chars ∧ p.node = v.node
  | null, _ => ⟨.null, id, by rw [Phrase.bytes, chars]; rfl, by rw [Phrase.node, node]⟩
  | bool b, _ =>
    ⟨.bool b, id, by cases b <;> rw [Phrase.bytes, chars] <;> rfl, by rw [Phrase.node, node]⟩
  | natural n, h => absurd h (by rw [Numberless]; exact id)
  | text t, _ => by
    obtain ⟨s, htext, hbytes⟩ := Spelling.exists_quote t
    exact ⟨.text s, id, by rw [Phrase.bytes, chars, hbytes], by rw [Phrase.node, node, htext]⟩
  | array items, h => by
    unfold Numberless at h
    obtain ⟨ps, htexts, hnodes⟩ := exists_items items h
    refine ⟨.array .empty ps, id, ?_, by rw [Phrase.node, node, hnodes]⟩
    rw [Phrase.bytes, htexts, ← ofChars_itemChars, chars, List.cons_append, ofChars_cons,
      ofChars_append]
    rfl
  | object members, h => by
    unfold Numberless at h
    obtain ⟨ps, htexts, hnodes⟩ := exists_members members h
    refine ⟨.object .empty ps, id, ?_, by rw [Phrase.node, node, hnodes]⟩
    rw [Phrase.bytes, htexts, ← ofChars_memberChars, chars, List.cons_append, ofChars_cons,
      ofChars_append]
    rfl

theorem exists_items : ∀ items : List Value, ItemsNumberless items →
    ∃ ps : List (Spaced Phrase), Phrase.itemTexts ps = items.map (ofChars ·.chars) ∧
      Phrase.itemNodes ps = itemNodes items
  | [], _ => ⟨[], by rw [Phrase.itemTexts]; rfl, by rw [Phrase.itemNodes, itemNodes]⟩
  | v :: items, h => by
    unfold ItemsNumberless at h
    obtain ⟨p, -, hbytes, hnode⟩ := exists_phrase v h.1
    obtain ⟨ps, htexts, hnodes⟩ := exists_items items h.2
    refine ⟨⟨.empty, p, .empty⟩ :: ps, ?_, ?_⟩
    · rw [Phrase.itemTexts, htexts, hbytes, List.map_cons]
      simp only [Gap.empty, List.nil_append, List.append_nil]
    · rw [Phrase.itemNodes, itemNodes, hnode, hnodes]

theorem exists_members : ∀ members : List (String × Value), MembersNumberless members →
    ∃ ps : List (Spaced Spelling × Spaced Phrase),
      Phrase.memberTexts ps = members.map memberText ∧
        Phrase.memberNodes ps = memberNodes members
  | [], _ => ⟨[], by rw [Phrase.memberTexts]; rfl, by rw [Phrase.memberNodes, memberNodes]⟩
  | (k, v) :: members, h => by
    unfold MembersNumberless at h
    obtain ⟨s, htext, hquote⟩ := Spelling.exists_quote k
    obtain ⟨p, -, hbytes, hnode⟩ := exists_phrase v h.1
    obtain ⟨ps, htexts, hnodes⟩ := exists_members members h.2
    refine ⟨(⟨.empty, s, .empty⟩, ⟨.empty, p, .empty⟩) :: ps, ?_, ?_⟩
    · rw [Phrase.memberTexts, htexts, hquote, hbytes, List.map_cons, memberText]
      simp only [Gap.empty, List.nil_append, List.append_nil]
    · rw [Phrase.memberNodes, memberNodes, htext, hnode, hnodes]

end

end Value

/-- **A printed value is read as its node**, whatever follows. -/
theorem read_print {v : Value} (h : v.Numberless) (rest : List UInt8) :
    read (bytes v.print ++ rest) = (v.node, rest) := by
  obtain ⟨p, hclosed, hbytes, hnode⟩ := v.exists_phrase h
  rw [Value.print, bytes_ofList, ← hbytes, ← hnode]
  exact p.read_bytes .empty fun ho => absurd ho hclosed

theorem read_print_whole {v : Value} (h : v.Numberless) : read (bytes v.print) = (v.node, []) := by
  have hread := read_print h []
  rw [List.append_nil] at hread
  exact hread

end TenantApps.Json
