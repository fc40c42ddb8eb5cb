import TenantApps.Proofs.Wire.Phrase

/-!
# `TenantApps.Proofs.Wire.Derivation` — completeness of the phrase grammar

If the first value of an input ends with a bracket (`Node.Closed`), the input starts with the bytes
of a `Phrase` for it. Inputs that break off are excluded: their outermost container has no bracket.

The induction is on the length of the input that is left: `Derives` at an input follows from
`Derives` at all shorter ones.

## Contents
- `Json.exists_lexeme`, inversion of one token.
- `Json.Derives`, the induction hypothesis for each state of the reader; `Json.derives`, the
  induction.
- `Json.exists_phrase`, the **main result**.
-/

namespace TenantApps.Json

variable {input rest : List UInt8} {n : Node}

/-- In a run that ends closed, the next token is spelled by a `Lexeme`. -/
theorem exists_lexeme {s : State} (h : readFrom s input = (n, rest)) (hn : n.Closed) :
    ∃ (g : Gap) (t : Token) (bs after : List UInt8), Token.next? input = some (t, after) ∧
      input = g.bytes ++ (bs ++ after) ∧ Lexeme t bs ∧ resume (s.step t) after = (n, rest) := by
  cases ht : Token.next? input with
  | none =>
    unfold readFrom at h
    split at h
    · cases h
      exact absurd hn s.not_closed_ended
    · next ht' =>
      rw [ht] at ht'
      cases ht'
  | some found =>
    obtain ⟨t, after⟩ := found
    rw [readFrom_token ht] at h
    have hgood : ¬t.Broken ∧ t ≠ .stray := by
      cases hs : s.step t with
      | inl s' =>
        refine ⟨State.sound_of_step hs, ?_⟩
        rintro rfl
        cases s <;> cases hs
      | inr m =>
        rw [hs] at h
        cases h
        rcases State.closing_of_step hs hn with rfl | rfl <;> exact ⟨id, by rintro ⟨⟩⟩
    obtain ⟨g, bs, hinput, hbs⟩ := Token.lexeme_of_next? ht hgood.1 hgood.2
    exact ⟨g, t, bs, after, rfl, hinput, hbs, h⟩

/-- A run that is abandoned does not end closed. -/
theorem not_closed_resume {f : Fault} {m : Node} {stack : List Frame} (hm : ¬m.Closed)
    (h : resume (.inr (State.abandon f m stack)) input = (n, rest)) : ¬n.Closed := by
  cases h
  exact State.not_closed_abandon hm stack

/-! ## The induction hypothesis -/

/-- **`Derives input`**: a run from `input` that ends closed starts with a phrase, the rest of a
list, or the rest of an object, according to its state. -/
structure Derives (input : List UInt8) : Prop where
  value {stack : List Frame} {n : Node} {rest : List UInt8}
    (h : readFrom (.value stack) input = (n, rest)) (hn : n.Closed) :
    ∃ (g : Gap) (p : Phrase) (after : List UInt8), input = g.bytes ++ (p.bytes ++ after) ∧
      resume (State.put p.node stack) after = (n, rest)
  items {done : List Node} {stack : List Frame} {n : Node} {rest : List UInt8}
    (h : readFrom (.afterItem done stack) input = (n, rest)) (hn : n.Closed) :
    ∃ (g : Gap) (items : List (Spaced Phrase)) (after : List UInt8),
      input = g.bytes ++ ((Phrase.itemTexts items).flatMap (0x2c :: ·) ++ 0x5d :: after) ∧
        resume (State.put (.array (done.reverse ++ Phrase.itemNodes items) none) stack) after =
          (n, rest)
  members {done : List Member} {stack : List Frame} {n : Node} {rest : List UInt8}
    (h : readFrom (.afterMember done stack) input = (n, rest)) (hn : n.Closed) :
    ∃ (g : Gap) (members : List (Spaced Spelling × Spaced Phrase)) (after : List UInt8),
      input = g.bytes ++ ((Phrase.memberTexts members).flatMap (0x2c :: ·) ++ 0x7d :: after) ∧
        resume (State.put (.object (done.reverse ++ Phrase.memberNodes members) none) stack)
          after = (n, rest)

namespace Derives

/-- `Derives` at `input` and every shorter input. -/
def Throughout (input : List UInt8) : Prop :=
  ∀ after : List UInt8, after.length ≤ input.length → Derives after

theorem step_firstKey (stack : List Frame) (t : Token) (ht : t ≠ .closeBrace) :
    State.step (.firstKey stack) t = State.startKey t [] stack := by
  cases t <;> first | rfl | exact absurd rfl ht

theorem step_nextKey (done : List Member) (stack : List Frame) (t : Token)
    (ht : t ≠ .closeBrace) :
    State.step (.nextKey done stack) t = State.startKey t done stack := by
  cases t <;> first | rfl | exact absurd rfl ht

/-- The first element of a list and the rest. -/
theorem first_item (hd : Throughout input) {s : State} {done : List Node} {stack : List Frame}
    (hs : ∀ t, t ≠ .closeBracket → s.step t = State.startValue t (.item done :: stack))
    {t : Token} {after : List UInt8} (ht : Token.next? input = some (t, after))
    (hne : t ≠ .closeBracket) (h : resume (s.step t) after = (n, rest)) (hn : n.Closed) :
    ∃ (items : List (Spaced Phrase)) (after : List UInt8), Phrase.itemTexts items ≠ [] ∧
      input = Phrase.commas (Phrase.itemTexts items) ++ 0x5d :: after ∧
        resume (State.put (.array (done.reverse ++ Phrase.itemNodes items) none) stack) after =
          (n, rest) := by
  have hvalue : readFrom (.value (.item done :: stack)) input = (n, rest) := by
    rw [readFrom_token ht, ← h, hs t hne]
    rfl
  obtain ⟨before, p, middle, rfl, hmiddle⟩ := (hd input (Nat.le_refl _)).value hvalue hn
  have hlength : middle.length ≤ (before.bytes ++ (p.bytes ++ middle)).length := by
    simp only [List.length_append]
    omega
  obtain ⟨behind, items, tail, rfl, htail⟩ := (hd middle hlength).items hmiddle hn
  refine ⟨⟨before, p, behind⟩ :: items, tail, ?_, ?_, ?_⟩
  · simp [Phrase.itemTexts]
  · simp [Phrase.itemTexts, Phrase.commas]
  · simpa [Phrase.itemNodes] using htail

/-- The first member of an object and the rest. -/
theorem first_member (hd : Throughout input) {s : State} {done : List Member}
    {stack : List Frame} (hs : ∀ t, t ≠ .closeBrace → s.step t = State.startKey t done stack)
    {g : Gap} {t : Token} {bs after : List UInt8} (hinput : input = g.bytes ++ (bs ++ after))
    (hbs : Lexeme t bs) (hne : t ≠ .closeBrace) (h : resume (s.step t) after = (n, rest))
    (hn : n.Closed) :
    ∃ (members : List (Spaced Spelling × Spaced Phrase)) (after : List UInt8),
      Phrase.memberTexts members ≠ [] ∧
        input = Phrase.commas (Phrase.memberTexts members) ++ 0x7d :: after ∧
          resume (State.put (.object (done.reverse ++ Phrase.memberNodes members) none) stack)
            after = (n, rest) := by
  rw [hs t hne] at h
  cases hbs with
  | text key =>
    -- a colon is next, and a value behind it
    obtain ⟨stop, t', bs', middle, -, rfl, hbs', hcolon⟩ :=
      exists_lexeme (s := .colon done key.text stack) h hn
    cases hbs' with
    | colon =>
      have hmiddle : middle.length ≤ input.length := by
        rw [hinput]
        simp only [List.length_append]
        omega
      obtain ⟨before, p, tail, rfl, htail⟩ := (hd middle hmiddle).value hcolon hn
      have hlength : tail.length ≤ input.length := by
        simp only [List.length_append] at hmiddle
        omega
      obtain ⟨behind, members, last, rfl, hlast⟩ := (hd tail hlength).members htail hn
      refine ⟨(⟨g, key, stop⟩, ⟨before, p, behind⟩) :: members, last, ?_, ?_, ?_⟩
      · simp [Phrase.memberTexts]
      · rw [hinput]
        simp [Phrase.memberTexts, Phrase.commas]
      · simpa [Phrase.memberNodes] using hlast
    | _ => exact absurd hn (not_closed_resume id hcolon)
  | _ =>
    cases h
    exact absurd hn (State.not_closed_abandon id stack)

/-- A list, behind its opening bracket. -/
theorem array (hd : Throughout input) {stack : List Frame}
    (h : readFrom (.firstItem stack) input = (n, rest)) (hn : n.Closed) :
    ∃ (blank : Gap) (items : List (Spaced Phrase)) (after : List UInt8),
      0x5b :: input = (Phrase.array blank items).bytes ++ after ∧
        resume (State.put (Phrase.array blank items).node stack) after = (n, rest) := by
  obtain ⟨g, t, bs, after, ht, hinput, hbs, hrun⟩ := exists_lexeme h hn
  by_cases hne : t = .closeBracket
  · subst hne
    cases hbs
    refine ⟨g, [], after, ?_, ?_⟩
    · simp [hinput, Phrase.bytes, Phrase.itemTexts, Phrase.commas]
    · rw [Phrase.node, Phrase.itemNodes]
      exact hrun
  · obtain ⟨items, tail, -, rfl, htail⟩ :=
      first_item hd (Phrase.step_firstItem stack) ht hne hrun hn
    refine ⟨.empty, items, tail, ?_, ?_⟩
    · simp [Phrase.bytes, Gap.empty]
    · rw [Phrase.node]
      exact htail

/-- An object, behind its opening brace. -/
theorem object (hd : Throughout input) {stack : List Frame}
    (h : readFrom (.firstKey stack) input = (n, rest)) (hn : n.Closed) :
    ∃ (blank : Gap) (members : List (Spaced Spelling × Spaced Phrase)) (after : List UInt8),
      0x7b :: input = (Phrase.object blank members).bytes ++ after ∧
        resume (State.put (Phrase.object blank members).node stack) after = (n, rest) := by
  obtain ⟨g, t, bs, after, ht, hinput, hbs, hrun⟩ := exists_lexeme h hn
  by_cases hne : t = .closeBrace
  · subst hne
    cases hbs
    refine ⟨g, [], after, ?_, ?_⟩
    · simp [hinput, Phrase.bytes, Phrase.memberTexts, Phrase.commas]
    · rw [Phrase.node, Phrase.memberNodes]
      exact hrun
  · obtain ⟨members, tail, -, rfl, htail⟩ :=
      first_member hd (step_firstKey stack) hinput hbs hne hrun hn
    refine ⟨.empty, members, tail, ?_, ?_⟩
    · simp [Phrase.bytes, Gap.empty]
    · rw [Phrase.node]
      exact htail

/-! ## The induction -/

/-- `Derives` at every shorter input. -/
def Behind (input : List UInt8) : Prop :=
  ∀ after : List UInt8, after.length < input.length → Derives after

theorem Behind.next {t : Token} {after : List UInt8} (hd : Behind input)
    (ht : Token.next? input = some (t, after)) : Throughout after :=
  fun tail h => hd tail (Nat.lt_of_le_of_lt h (Token.length_next? ht))

/-- The case of a value. -/
theorem value_of_behind (hd : Behind input) {stack : List Frame}
    (h : readFrom (.value stack) input = (n, rest)) (hn : n.Closed) :
    ∃ (g : Gap) (p : Phrase) (after : List UInt8), input = g.bytes ++ (p.bytes ++ after) ∧
      resume (State.put p.node stack) after = (n, rest) := by
  obtain ⟨g, t, bs, after, ht, hinput, hbs, hrun⟩ := exists_lexeme h hn
  have leaf (p : Phrase) (hp : p.bytes = bs)
      (hnode : (State.value stack).step t = State.put p.node stack) :
      ∃ (g : Gap) (p : Phrase) (after : List UInt8), input = g.bytes ++ (p.bytes ++ after) ∧
        resume (State.put p.node stack) after = (n, rest) :=
    ⟨g, p, after, hp ▸ hinput, hnode ▸ hrun⟩
  cases hbs with
  | null => exact leaf .null (by rw [Phrase.bytes]) (by rw [Phrase.node]; rfl)
  | true => exact leaf (.bool true) (by rw [Phrase.bytes]) (by rw [Phrase.node]; rfl)
  | false => exact leaf (.bool false) (by rw [Phrase.bytes]) (by rw [Phrase.node]; rfl)
  | number q => exact leaf (.number q) (by rw [Phrase.bytes]) (by rw [Phrase.node]; rfl)
  | text s => exact leaf (.text s) (by rw [Phrase.bytes]) (by rw [Phrase.node]; rfl)
  | openBracket =>
    obtain ⟨blank, items, tail, hbytes, htail⟩ := array (hd.next ht) hrun hn
    exact ⟨g, .array blank items, tail, by rw [hinput, ← hbytes]; rfl, htail⟩
  | openBrace =>
    obtain ⟨blank, members, tail, hbytes, htail⟩ := object (hd.next ht) hrun hn
    exact ⟨g, .object blank members, tail, by rw [hinput, ← hbytes]; rfl, htail⟩
  | _ => exact absurd hn (not_closed_resume id hrun)

/-- The case of a list, behind an element. -/
theorem items_of_behind (hd : Behind input) {done : List Node} {stack : List Frame}
    (h : readFrom (.afterItem done stack) input = (n, rest)) (hn : n.Closed) :
    ∃ (g : Gap) (items : List (Spaced Phrase)) (after : List UInt8),
      input = g.bytes ++ ((Phrase.itemTexts items).flatMap (0x2c :: ·) ++ 0x5d :: after) ∧
        resume (State.put (.array (done.reverse ++ Phrase.itemNodes items) none) stack) after =
          (n, rest) := by
  obtain ⟨g, t, bs, after, ht, hinput, hbs, hrun⟩ := exists_lexeme h hn
  cases hbs with
  | closeBracket =>
    refine ⟨g, [], after, ?_, ?_⟩
    · rw [hinput, Phrase.itemTexts]
      rfl
    · rw [Phrase.itemNodes, List.append_nil]
      exact hrun
  | comma =>
    obtain ⟨-, t', -, middle, ht', -, -, hnext⟩ :=
      exists_lexeme (s := .nextItem done stack) hrun hn
    have hne : t' ≠ .closeBracket := by
      rintro rfl
      exact absurd hn (not_closed_resume id hnext)
    obtain ⟨items, tail, hitems, rfl, htail⟩ :=
      first_item (hd.next ht) (Phrase.step_nextItem done stack) ht' hne hnext hn
    refine ⟨g, items, tail, ?_, htail⟩
    rw [hinput, Phrase.flatMap_commas hitems]
    rfl
  | _ => exact absurd hn (not_closed_resume id hrun)

/-- The case of an object, behind a member. -/
theorem members_of_behind (hd : Behind input) {done : List Member} {stack : List Frame}
    (h : readFrom (.afterMember done stack) input = (n, rest)) (hn : n.Closed) :
    ∃ (g : Gap) (members : List (Spaced Spelling × Spaced Phrase)) (after : List UInt8),
      input = g.bytes ++ ((Phrase.memberTexts members).flatMap (0x2c :: ·) ++ 0x7d :: after) ∧
        resume (State.put (.object (done.reverse ++ Phrase.memberNodes members) none) stack)
          after = (n, rest) := by
  obtain ⟨g, t, bs, after, ht, hinput, hbs, hrun⟩ := exists_lexeme h hn
  cases hbs with
  | closeBrace =>
    refine ⟨g, [], after, ?_, ?_⟩
    · rw [hinput, Phrase.memberTexts]
      rfl
    · rw [Phrase.memberNodes, List.append_nil]
      exact hrun
  | comma =>
    obtain ⟨g', t', bs', middle, -, hafter, hbs', hnext⟩ :=
      exists_lexeme (s := .nextKey done stack) hrun hn
    have hne : t' ≠ .closeBrace := by
      rintro rfl
      exact absurd hn (not_closed_resume id hnext)
    obtain ⟨members, tail, hmembers, rfl, htail⟩ :=
      first_member (hd.next ht) (step_nextKey done stack) hafter hbs' hne hnext hn
    refine ⟨g, members, tail, ?_, htail⟩
    rw [hinput, Phrase.flatMap_commas hmembers]
    rfl
  | _ => exact absurd hn (not_closed_resume id hrun)

end Derives

/-- **`Derives` at every input**, by induction on its length. -/
theorem derives (input : List UInt8) : Derives input :=
  have hd : Derives.Behind input := fun after _ => derives after
  ⟨Derives.value_of_behind hd, Derives.items_of_behind hd, Derives.members_of_behind hd⟩
termination_by input.length

/-- **Completeness of the grammar**: if the first value ends closed, the input starts with a phrase
whose node is that value. -/
theorem exists_phrase (h : (read input).1.Closed) :
    ∃ (before : Gap) (p : Phrase), input = before.bytes ++ (p.bytes ++ (read input).2) ∧
      p.node = (read input).1 := by
  obtain ⟨before, p, after, hinput, hrun⟩ := (derives input).value rfl h
  have hread : (p.node, after) = read input := hrun
  exact ⟨before, p, by rw [← hread, ← hinput], congrArg Prod.fst hread⟩

end TenantApps.Json
