import TenantApps.Proofs.Wire.Lexeme

/-!
# `TenantApps.Proofs.Wire.Phrase` — the concrete syntax of JSON

A `Phrase` is a JSON value with its concrete syntax: whitespace, digits and escapes. Its bytes are
read as its node, whatever follows; only a number must be followed by something that ends it, which
within a container is always the case.

## Contents
- `Json.Spaced` and `Json.Phrase`, with `Phrase.bytes` and `Phrase.node`.
- `Json.Phrase.itemNodes_eq` and `memberNodes_eq`, the nodes of parts.
- `Json.readFrom_gap` and `Json.readFrom_lexeme`, one token of a run.
- `Json.Phrase.readFrom_bytes`, the induction, and `Json.Phrase.read_bytes`, **soundness** of the
  grammar.
- `Json.Phrase.decodeWhole_bytes` and `Json.Phrase.decodeFirst_bytes`, the two decoders on a phrase.
-/

namespace TenantApps.Json

/-- Something with whitespace around it. -/
structure Spaced (α : Type) where
  before : Gap
  body : α
  after : Gap

/-- **`Phrase`**: a JSON value with its concrete syntax. The first gap of a container is the one of
an empty container. -/
inductive Phrase
  | null
  | bool (b : Bool)
  | number (q : Numeral)
  | text (s : Spelling)
  | array (blank : Gap) (items : List (Spaced Phrase))
  | object (blank : Gap) (members : List (Spaced Spelling × Spaced Phrase))

namespace Phrase

/-! ## Bytes and nodes -/

/-- The texts with commas in between. -/
def commas : List (List UInt8) → List UInt8
  | [] => []
  | first :: more => first ++ more.flatMap (0x2c :: ·)

/-- Texts with a comma in front of each. -/
theorem flatMap_commas {texts : List (List UInt8)} (h : texts ≠ []) :
    texts.flatMap (0x2c :: ·) = 0x2c :: commas texts := by
  cases texts with
  | nil => exact absurd rfl h
  | cons first more => rw [List.flatMap_cons, commas, List.cons_append]

theorem commas_cons {first : List UInt8} {more : List (List UInt8)} (h : more ≠ []) :
    commas (first :: more) = first ++ 0x2c :: commas more := by rw [commas, flatMap_commas h]

mutual

/-- **The bytes of a phrase.** -/
def bytes : Phrase → List UInt8
  | null => [0x6e, 0x75, 0x6c, 0x6c]
  | bool true => [0x74, 0x72, 0x75, 0x65]
  | bool false => [0x66, 0x61, 0x6c, 0x73, 0x65]
  | number q => q.bytes
  | text s => s.bytes
  | array blank items => 0x5b :: (blank.bytes ++ (commas (itemTexts items) ++ [0x5d]))
  | object blank members => 0x7b :: (blank.bytes ++ (commas (memberTexts members) ++ [0x7d]))

def itemTexts : List (Spaced Phrase) → List (List UInt8)
  | [] => []
  | ⟨before, p, after⟩ :: rest => (before.bytes ++ (p.bytes ++ after.bytes)) :: itemTexts rest

/-- Key, colon and value. -/
def memberTexts : List (Spaced Spelling × Spaced Phrase) → List (List UInt8)
  | [] => []
  | (⟨start, key, stop⟩, ⟨before, p, after⟩) :: rest =>
    (start.bytes ++ (key.bytes ++ (stop.bytes ++
      0x3a :: (before.bytes ++ (p.bytes ++ after.bytes))))) :: memberTexts rest

end

mutual

/-- **The node of a phrase.** -/
def node : Phrase → Node
  | null => .null
  | bool b => .bool b
  | number q => .number q.literal.value
  | text s => .text s.text
  | array _ items => .array (itemNodes items) none
  | object _ members => .object (memberNodes members) none

def itemNodes : List (Spaced Phrase) → List Node
  | [] => []
  | ⟨_, p, _⟩ :: rest => p.node :: itemNodes rest

def memberNodes : List (Spaced Spelling × Spaced Phrase) → List Member
  | [] => []
  | (⟨_, key, _⟩, ⟨_, p, _⟩) :: rest => (key.text, p.node) :: memberNodes rest

end

theorem itemNodes_eq (items : List (Spaced Phrase)) :
    itemNodes items = items.map fun item => item.body.node := by
  induction items with
  | nil => rw [itemNodes]; rfl
  | cons item items ih => rw [itemNodes, ih]; rfl

theorem memberNodes_eq (members : List (Spaced Spelling × Spaced Phrase)) :
    memberNodes members = members.map fun m => (m.1.body.text, m.2.body.node) := by
  induction members with
  | nil => rw [memberNodes]; rfl
  | cons m members ih => rw [memberNodes, ih]; rfl

/-- Phrases whose end depends on the next byte. -/
def Open : Phrase → Prop
  | number _ => True
  | _ => False

end Phrase

/-! ## Runs of the reader -/

theorem readFrom_gap (s : State) (g : Gap) (rest : List UInt8) :
    readFrom s (g.bytes ++ rest) = readFrom s rest := by
  cases h : Token.next? rest with
  | none =>
    have hgap : Token.next? (g.bytes ++ rest) = none := (Token.next?_gap g rest).trans h
    unfold readFrom
    split
    · split
      · rfl
      · next h' =>
        rw [h] at h'
        cases h'
    · next h' =>
      rw [hgap] at h'
      cases h'
  | some found =>
    obtain ⟨t, after⟩ := found
    rw [readFrom_token h, readFrom_token ((Token.next?_gap g rest).trans h)]

theorem readFrom_lexeme {t : Token} {bs : List UInt8} (h : Lexeme t bs) {rest : List UInt8}
    (ho : t.Open → Number.Stops rest) (s : State) :
    readFrom s (bs ++ rest) = resume (s.step t) rest := readFrom_token (h.next? ho) s

namespace Number

theorem stops_gap (g : Gap) {rest : List UInt8} (h : Stops rest) : Stops (g.bytes ++ rest) := by
  obtain ⟨_ | ⟨b, bs⟩, hblank⟩ := g
  · exact h
  · have hspace : Token.isSpace b = true := by
      rw [List.all_cons, Bool.and_eq_true] at hblank
      exact hblank.1
    rintro _ ⟨⟩
    simp only [Token.isSpace, Bool.or_eq_true, beq_iff_eq] at hspace
    rcases hspace with ((rfl | rfl) | rfl) | rfl <;> decide

/-- A number ends in front of a comma and of a closing bracket. -/
theorem stops_commas (texts : List (List UInt8)) {b : UInt8} (hb : b = 0x5d ∨ b = 0x7d)
    (rest : List UInt8) : Stops (texts.flatMap (0x2c :: ·) ++ b :: rest) := by
  cases texts with
  | nil =>
    rintro _ ⟨⟩
    rcases hb with rfl | rfl <;> decide
  | cons text texts =>
    rintro _ ⟨⟩
    decide

end Number

namespace Phrase

/-- The first token of a phrase is no closing bracket. -/
theorem next?_bytes (p : Phrase) {rest : List UInt8} (hp : p.Open → Number.Stops rest) :
    ∃ t after, Token.next? (p.bytes ++ rest) = some (t, after) ∧ t ≠ .closeBracket := by
  cases p with
  | null => exact ⟨.null, rest, by rw [bytes]; rfl, by rintro ⟨⟩⟩
  | bool b => exact ⟨.bool b, rest, by cases b <;> rw [bytes] <;> rfl, by rintro ⟨⟩⟩
  | number q =>
    have ht := (Lexeme.number q).next? fun _ => hp trivial
    exact ⟨_, rest, by rw [bytes, ht], by rintro ⟨⟩⟩
  | text s =>
    have ht : Token.next? (s.bytes ++ rest) = some (.text s.text, rest) :=
      (Lexeme.text s).next? False.elim
    exact ⟨_, rest, by rw [bytes, ht], by rintro ⟨⟩⟩
  | array blank items => exact ⟨.openBracket, _, by rw [bytes]; rfl, by rintro ⟨⟩⟩
  | object blank members => exact ⟨.openBrace, _, by rw [bytes]; rfl, by rintro ⟨⟩⟩

/-- **`p.Reads`**: in the state `.value stack`, the reader consumes the bytes of `p` and passes its
node to `stack`. -/
def Reads (p : Phrase) : Prop := ∀ (stack : List Frame) (rest : List UInt8),
  (p.Open → Number.Stops rest) →
    readFrom (.value stack) (p.bytes ++ rest) = resume (State.put p.node stack) rest

theorem step_firstItem (stack : List Frame) (t : Token) (ht : t ≠ .closeBracket) :
    State.step (.firstItem stack) t = State.startValue t (.item [] :: stack) := by
  cases t <;> first | rfl | exact absurd rfl ht

theorem step_nextItem (done : List Node) (stack : List Frame) (t : Token)
    (ht : t ≠ .closeBracket) :
    State.step (.nextItem done stack) t = State.startValue t (.item done :: stack) := by
  cases t <;> first | rfl | exact absurd rfl ht

/-- `Reads` for an element with its whitespace. -/
theorem Reads.item {p : Phrase} (h : p.Reads) {s : State} {done : List Node} {stack : List Frame}
    (hs : ∀ t, t ≠ .closeBracket → s.step t = State.startValue t (.item done :: stack))
    (before after : Gap) {rest : List UInt8} (hrest : Number.Stops rest) :
    readFrom s (before.bytes ++ (p.bytes ++ after.bytes) ++ rest) =
      readFrom (.afterItem (p.node :: done) stack) rest := by
  have hend : p.Open → Number.Stops (after.bytes ++ rest) := fun _ => Number.stops_gap after hrest
  obtain ⟨t, tail, ht, hne⟩ := p.next?_bytes hend
  have hvalue : readFrom s (p.bytes ++ (after.bytes ++ rest)) =
      readFrom (.value (.item done :: stack)) (p.bytes ++ (after.bytes ++ rest)) := by
    rw [readFrom_token ht, readFrom_token ht, hs t hne]
    rfl
  rw [List.append_assoc, readFrom_gap, List.append_assoc, hvalue, h _ _ hend]
  exact readFrom_gap _ after rest

/-- `Reads` for a member with its whitespace. -/
theorem Reads.member {p : Phrase} (h : p.Reads) {s : State} {done : List Member}
    {stack : List Frame} (hs : ∀ key, s.step (.text key) = .inl (.colon done key stack))
    (key : Spelling) (start stop before after : Gap) {rest : List UInt8}
    (hrest : Number.Stops rest) :
    readFrom s (start.bytes ++ (key.bytes ++ (stop.bytes ++
      0x3a :: (before.bytes ++ (p.bytes ++ after.bytes)))) ++ rest) =
        readFrom (.afterMember ((key.text, p.node) :: done) stack) rest := by
  have hend : p.Open → Number.Stops (after.bytes ++ rest) := fun _ => Number.stops_gap after hrest
  simp only [List.append_assoc, List.cons_append]
  rw [readFrom_gap, readFrom_lexeme (.text key) False.elim, hs]
  show readFrom (.colon done key.text stack) (stop.bytes ++ _) = _
  rw [readFrom_gap, readFrom_token (t := .colon) rfl]
  show readFrom (.value (.member done key.text :: stack)) (before.bytes ++ _) = _
  rw [readFrom_gap, h _ _ hend]
  exact readFrom_gap _ after rest

mutual

/-- **Every phrase `Reads`**, by mutual recursion with its elements and members. -/
theorem readFrom_bytes : ∀ p : Phrase, p.Reads
  | null, stack, rest, _ => by
    rw [bytes, readFrom_lexeme .null False.elim, node]
    rfl
  | bool true, stack, rest, _ => by
    rw [bytes, readFrom_lexeme .true False.elim, node]
    rfl
  | bool false, stack, rest, _ => by
    rw [bytes, readFrom_lexeme .false False.elim, node]
    rfl
  | number q, stack, rest, h => by
    rw [bytes, readFrom_lexeme (.number q) fun _ => h trivial, node]
    rfl
  | text s, stack, rest, _ => by
    rw [bytes, readFrom_lexeme (.text s) False.elim, node]
    rfl
  | array blank items, stack, rest, _ => by
    rw [bytes, node, List.cons_append, List.append_assoc, readFrom_token (t := .openBracket) rfl]
    show readFrom (.firstItem stack) (blank.bytes ++ _) = _
    rw [readFrom_gap]
    match items with
    | [] =>
      rw [itemTexts, itemNodes]
      exact readFrom_token (t := .closeBracket) rfl _
    | ⟨before, p, after⟩ :: items =>
      have hrest := Number.stops_commas (itemTexts items) (.inl rfl) rest
      have hp := readFrom_bytes p
      rw [itemTexts, itemNodes, commas, List.append_assoc, List.append_assoc, List.singleton_append,
        hp.item (step_firstItem stack) before after hrest, readFrom_items items]
      rfl
  | object blank members, stack, rest, _ => by
    rw [bytes, node, List.cons_append, List.append_assoc, readFrom_token (t := .openBrace) rfl]
    show readFrom (.firstKey stack) (blank.bytes ++ _) = _
    rw [readFrom_gap]
    match members with
    | [] =>
      rw [memberTexts, memberNodes]
      exact readFrom_token (t := .closeBrace) rfl _
    | (⟨start, key, stop⟩, ⟨before, p, after⟩) :: members =>
      have hrest := Number.stops_commas (memberTexts members) (.inr rfl) rest
      have hp := readFrom_bytes p
      rw [memberTexts, memberNodes, commas, List.append_assoc, List.append_assoc,
        List.singleton_append, hp.member (fun _ => rfl) key start stop before after hrest,
        readFrom_members members]
      rfl

/-- The rest of a list. -/
theorem readFrom_items : ∀ (items : List (Spaced Phrase)) (done : List Node) (stack : List Frame)
    (rest : List UInt8),
    readFrom (.afterItem done stack) ((itemTexts items).flatMap (0x2c :: ·) ++ 0x5d :: rest) =
      resume (State.put (.array (done.reverse ++ itemNodes items) none) stack) rest
  | [], done, stack, rest => by
    rw [itemTexts, itemNodes, List.append_nil]
    exact readFrom_token (t := .closeBracket) rfl _
  | ⟨before, p, after⟩ :: items, done, stack, rest => by
    have hrest := Number.stops_commas (itemTexts items) (.inl rfl) rest
    have hp := readFrom_bytes p
    have hcomma (text more : List UInt8) : readFrom (.afterItem done stack)
        (0x2c :: text ++ more ++ 0x5d :: rest) =
          readFrom (.nextItem done stack) (text ++ (more ++ 0x5d :: rest)) := by
      rw [List.append_assoc]
      exact readFrom_token (t := .comma) rfl _
    rw [itemTexts, itemNodes, List.flatMap_cons, hcomma,
      hp.item (step_nextItem done stack) before after hrest, readFrom_items items,
      List.reverse_cons, List.append_assoc]
    rfl

/-- The rest of an object. -/
theorem readFrom_members : ∀ (members : List (Spaced Spelling × Spaced Phrase))
    (done : List Member) (stack : List Frame) (rest : List UInt8),
    readFrom (.afterMember done stack)
      ((memberTexts members).flatMap (0x2c :: ·) ++ 0x7d :: rest) =
      resume (State.put (.object (done.reverse ++ memberNodes members) none) stack) rest
  | [], done, stack, rest => by
    rw [memberTexts, memberNodes, List.append_nil]
    exact readFrom_token (t := .closeBrace) rfl _
  | (⟨start, key, stop⟩, ⟨before, p, after⟩) :: members, done, stack, rest => by
    have hrest := Number.stops_commas (memberTexts members) (.inr rfl) rest
    have hp := readFrom_bytes p
    have hcomma (text more : List UInt8) : readFrom (.afterMember done stack)
        (0x2c :: text ++ more ++ 0x7d :: rest) =
          readFrom (.nextKey done stack) (text ++ (more ++ 0x7d :: rest)) := by
      rw [List.append_assoc]
      exact readFrom_token (t := .comma) rfl _
    rw [memberTexts, memberNodes, List.flatMap_cons, hcomma,
      hp.member (fun _ => rfl) key start stop before after hrest, readFrom_members members,
      List.reverse_cons, List.append_assoc]
    rfl

end

/-- **Soundness of the grammar**: a phrase behind whitespace is read as its node. -/
theorem read_bytes (p : Phrase) (before : Gap) {rest : List UInt8}
    (hp : p.Open → Number.Stops rest) :
    read (before.bytes ++ (p.bytes ++ rest)) = (p.node, rest) := by
  rw [read, readFrom_gap, readFrom_bytes p [] rest hp]
  rfl

/-- A whole input that is a phrase with whitespace around it. -/
theorem read_whole (p : Phrase) (before after : Gap) :
    read (before.bytes ++ (p.bytes ++ after.bytes)) = (p.node, after.bytes) := by
  refine p.read_bytes before fun _ => ?_
  rw [← List.append_nil after.bytes]
  exact Number.stops_gap after nofun

/-- `decodeWhole` of such an input. -/
theorem decodeWhole_bytes {α : Type} (d : Decoder α) (p : Phrase) (before after : Gap) :
    decodeWhole d (before.bytes ++ (p.bytes ++ after.bytes)) = d p.node := by
  simp only [decodeWhole, p.read_whole]
  cases d p.node with
  | error e => rfl
  | ok a => exact if_pos after.blank

theorem decodeWhole_bare {α : Type} (d : Decoder α) (p : Phrase) :
    decodeWhole d p.bytes = d p.node := by
  rw [← p.decodeWhole_bytes d .empty .empty, Gap.empty, List.nil_append, List.append_nil]

theorem decodeFirst_bytes {α : Type} (d : Decoder α) (p : Phrase) (before after : Gap) :
    decodeFirst d (before.bytes ++ (p.bytes ++ after.bytes)) = d p.node := by
  rw [decodeFirst, p.read_whole]

end Phrase

end TenantApps.Json
