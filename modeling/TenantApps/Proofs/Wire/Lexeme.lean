import TenantApps.Proofs.Wire.Extent

/-!
# `TenantApps.Proofs.Wire.Lexeme` — the grammar of tokens

The tokens of JSON, defined apart from the reader: whitespace, numbers by their digits, strings by
the characters and escapes between their quotes. The reader accepts exactly this grammar. A number
has no end of its own, so it is read only if something follows that cannot belong to it.

## Contents
- `Json.Gap`, whitespace, and `Json.Token.next?_gap`.
- `Json.Numeral`, a written number; `Json.Number.scan_numeral` and `exists_of_scan`.
- `Json.Spelling`, a written string; `Json.Spelling.string_eq` and `exists_of_skip`, and
  `exists_quote` for printed strings.
- `Json.Lexeme`, the grammar of all tokens; `Json.Lexeme.next?`, its **soundness**, and
  `Json.Token.lexeme_of_next?`, its **completeness**.
-/

namespace TenantApps.Json

/-! ## Whitespace -/

/-- **`Gap`**: whitespace between tokens. -/
structure Gap where
  bytes : List UInt8
  blank : bytes.all Token.isSpace = true

namespace Gap

def empty : Gap := ⟨[], rfl⟩

def cons (b : UInt8) (h : Token.isSpace b = true) (g : Gap) : Gap where
  bytes := b :: g.bytes
  blank := by rw [List.all_cons, h, g.blank]; rfl

end Gap

theorem Token.next?_gap (g : Gap) (rest : List UInt8) : next? (g.bytes ++ rest) = next? rest := by
  obtain ⟨bs, h⟩ := g
  induction bs with
  | nil => rfl
  | cons b bs ih =>
    rw [List.all_cons, Bool.and_eq_true] at h
    exact (if_pos h.1).trans (ih h.2)

/-! ## Numbers -/

/-- **`Digits`**: at least one decimal digit. -/
structure Digits where
  bytes : List UInt8
  ne_nil : bytes ≠ []
  all_digits : ∀ b ∈ bytes, Number.isDigit b = true

/-- The values of the digits. -/
def Digits.values (d : Digits) : List Nat := d.bytes.map fun b => b.toNat - 0x30

inductive Sign
  | plus
  | minus
  deriving DecidableEq

def Sign.byte : Sign → UInt8
  | plus => 0x2b
  | minus => 0x2d

/-- **`Power`**: an exponent. -/
structure Power where
  letter : UInt8
  letter_eq : letter = 0x65 ∨ letter = 0x45
  sign : Option Sign
  digits : Digits

namespace Power

def bytes (p : Power) : List UInt8 := p.letter :: (p.sign.elim [] ([·.byte]) ++ p.digits.bytes)

/-- The exponent as part of a `Number.Literal`. -/
def value (p : Power) : Bool × List Nat :=
  (match p.sign with
    | some .minus => true
    | _ => false, p.digits.values)

end Power

/-- **`Numeral`**: a number as it is written. -/
structure Numeral where
  minus : Bool
  whole : Digits
  /-- No leading zero. -/
  whole_ne : ∀ d ds, whole.values ≠ 0 :: d :: ds
  fraction : Option Digits
  power : Option Power

namespace Numeral

def bytes (q : Numeral) : List UInt8 :=
  (if q.minus then [0x2d] else []) ++ (q.whole.bytes ++
    (q.fraction.elim [] (0x2e :: ·.bytes) ++ q.power.elim [] Power.bytes))

/-- The literal that `Number.scan` reads. -/
def literal (q : Numeral) : Number.Literal where
  minus := q.minus
  whole := q.whole.values
  fraction := q.fraction.elim [] Digits.values
  exponent := q.power.map Power.value

end Numeral

namespace Number

/-- The rest does not start with a digit. -/
def NoDigit (rest : List UInt8) : Prop := ∀ b, rest.head? = some b → isDigit b = false

/-- The rest starts with nothing that could belong to a number. -/
def Stops (rest : List UInt8) : Prop :=
  ∀ b, rest.head? = some b → isDigit b = false ∧ b ≠ 0x2e ∧ b ≠ 0x65 ∧ b ≠ 0x45

variable {rest : List UInt8}

theorem Stops.noDigit (h : Stops rest) : NoDigit rest := fun b hb => (h b hb).1

theorem noDigit_cons {b : UInt8} (h : isDigit b = false) : NoDigit (b :: rest) := by
  rintro _ ⟨⟩
  exact h

theorem digits_append (d : Digits) (h : NoDigit rest) :
    digits (d.bytes ++ rest) = (d.values, rest) := by
  have hend : rest.takeWhile isDigit = [] ∧ rest.dropWhile isDigit = rest := by
    cases rest with
    | nil => exact ⟨rfl, rfl⟩
    | cons b rest => simp [h b rfl]
  rw [digits, List.takeWhile_append_of_pos d.all_digits,
    List.dropWhile_append_of_pos d.all_digits, hend.1, hend.2, List.append_nil]
  rfl

theorem values_ne_nil (d : Digits) : d.values ≠ [] := fun h => d.ne_nil (List.map_eq_nil_iff.mp h)

theorem exists_digits {input : List UInt8} {ds : List Nat} (h : digits input = (ds, rest))
    (hne : ds ≠ []) : ∃ d : Digits, input = d.bytes ++ rest ∧ d.values = ds := by
  rw [digits, Prod.mk.injEq] at h
  obtain ⟨rfl, rfl⟩ := h
  have hbytes : input.takeWhile isDigit ≠ [] := fun he => hne (by rw [he]; rfl)
  exact ⟨⟨_, hbytes, fun _ => List.mem_takeWhile_imp⟩, List.takeWhile_append_dropWhile.symm, rfl⟩

theorem scanPower_digits (minus : Bool) (d : Digits) (h : NoDigit rest) :
    scanPower minus (d.bytes ++ rest) = .ok ((minus, d.values), rest) := by
  rw [scanPower, digits_append d h]
  have hne := values_ne_nil d
  split
  · next he => exact absurd (congrArg Prod.fst he) hne
  · next he =>
    cases he
    rfl

theorem exists_of_scanPower {minus : Bool} {input : List UInt8} {e : Bool × List Nat}
    (h : scanPower minus input = .ok (e, rest)) :
    ∃ d : Digits, input = d.bytes ++ rest ∧ e = (minus, d.values) := by
  unfold scanPower at h
  split at h
  · cases h
  · next ds _ hne hd =>
    cases h
    obtain ⟨d, hinput, hvalues⟩ := exists_digits hd fun he => hne he
    exact ⟨d, hinput, by rw [hvalues]⟩

/-- Digits do not start with another byte. -/
theorem digits_head (d : Digits) (b : UInt8) (hb : isDigit b = false) (tail rest : List UInt8) :
    d.bytes ++ rest = b :: tail → False := by
  obtain ⟨_ | ⟨c, bs⟩, hne, hall⟩ := d
  · exact (hne rfl).elim
  · rintro he
    cases he
    rw [hall _ List.mem_cons_self] at hb
    cases hb

theorem scanExponent_power (p : Power) (h : NoDigit rest) :
    scanExponent (p.sign.elim [] ([·.byte]) ++ p.digits.bytes ++ rest) =
      .ok (p.value, rest) := by
  obtain ⟨letter, hletter, sign, d⟩ := p
  match sign with
  | some .plus => exact scanPower_digits false d h
  | some .minus => exact scanPower_digits true d h
  | none =>
    have hplus := (digits_head d 0x2b rfl · rest)
    have hminus := (digits_head d 0x2d rfl · rest)
    exact (scanExponent.eq_3 _ hplus hminus).trans (scanPower_digits false d h)

theorem exists_of_scanExponent {input : List UInt8} {e : Bool × List Nat}
    (h : scanExponent input = .ok (e, rest)) {letter : UInt8}
    (hl : letter = 0x65 ∨ letter = 0x45) :
    ∃ p : Power, letter :: input = p.bytes ++ rest ∧ e = p.value := by
  have found (sign : Option Sign) (minus : Bool) (tail : List UInt8)
      (hs : sign = some .minus ↔ minus = true) (h : scanPower minus tail = .ok (e, rest)) :
      ∃ p : Power, letter :: (sign.elim [] ([·.byte]) ++ tail) = p.bytes ++ rest ∧ e = p.value := by
    obtain ⟨d, rfl, rfl⟩ := exists_of_scanPower h
    refine ⟨⟨letter, hl, sign, d⟩, ?_, ?_⟩
    · simp [Power.bytes]
    · cases minus <;> rcases sign with _ | _ | _ <;> simp_all [Power.value]
  unfold scanExponent at h
  split at h
  · exact found (some .plus) false _ (by decide) h
  · exact found (some .minus) true _ (by decide) h
  · exact found none false _ (by decide) h

theorem scanTail_power (minus : Bool) (whole fraction : List Nat) (e : Option Power)
    (h : Stops rest) : scanTail minus whole fraction (e.elim [] Power.bytes ++ rest) =
      .ok (⟨minus, whole, fraction, e.map Power.value⟩, rest) := by
  cases e with
  | none => exact scanTail_plain fun b hb => not_or.mpr (h b hb).2.2
  | some p =>
    have hexponent := scanExponent_power p h.noDigit
    rw [Option.elim_some, Power.bytes, List.cons_append, scanTail, if_pos p.letter_eq, hexponent]
    rfl

theorem exists_of_scanTail {minus : Bool} {whole fraction : List Nat} {input : List UInt8}
    {l : Literal} (h : scanTail minus whole fraction input = .ok (l, rest)) :
    ∃ e : Option Power, input = e.elim [] Power.bytes ++ rest ∧
      l = ⟨minus, whole, fraction, e.map Power.value⟩ := by
  unfold scanTail at h
  split at h
  · next b tail =>
    split at h
    · next hb =>
      cases hs : scanExponent tail with
      | error f =>
        rw [hs] at h
        cases h
      | ok found =>
        rw [hs] at h
        cases h
        obtain ⟨p, hinput, hvalue⟩ := exists_of_scanExponent hs hb
        exact ⟨some p, hinput, by rw [hvalue]; rfl⟩
    · cases h
      exact ⟨none, rfl, rfl⟩
  · cases h
    exact ⟨none, rfl, rfl⟩

/-- An exponent, or a rest that `Stops`, is no digit. -/
theorem noDigit_power (e : Option Power) (h : Stops rest) :
    NoDigit (e.elim [] Power.bytes ++ rest) := by
  cases e with
  | none => exact h.noDigit
  | some p =>
    obtain ⟨letter, rfl | rfl, sign, d⟩ := p <;> exact noDigit_cons rfl

theorem scanPoint_fraction (minus : Bool) (whole : List Nat) (f : Option Digits)
    (e : Option Power) (h : Stops rest) :
    scanPoint minus whole (f.elim [] (0x2e :: ·.bytes) ++ (e.elim [] Power.bytes ++ rest)) =
      .ok (⟨minus, whole, f.elim [] Digits.values, e.map Power.value⟩, rest) := by
  cases f with
  | none =>
    have hpoint (tail : List UInt8) : e.elim [] Power.bytes ++ rest = 0x2e :: tail → False := by
      intro he
      cases e with
      | none => exact (h 0x2e (congrArg List.head? he)).2.1 rfl
      | some p => obtain ⟨letter, rfl | rfl, sign, d⟩ := p <;> cases he
    exact (scanPoint.eq_2 _ _ _ hpoint).trans (scanTail_power minus whole [] e h)
  | some d =>
    show scanFraction minus whole (d.bytes ++ (e.elim [] Power.bytes ++ rest)) = _
    rw [scanFraction, digits_append d (noDigit_power e h)]
    split
    · next he => exact absurd (congrArg Prod.fst he) (values_ne_nil d)
    · next he =>
      cases he
      exact scanTail_power minus whole d.values e h

theorem exists_of_scanFraction {minus : Bool} {whole : List Nat} {input : List UInt8} {l : Literal}
    (h : scanFraction minus whole input = .ok (l, rest)) :
    ∃ (d : Digits) (e : Option Power), input = d.bytes ++ (e.elim [] Power.bytes ++ rest) ∧
      l = ⟨minus, whole, d.values, e.map Power.value⟩ := by
  unfold scanFraction at h
  split at h
  · cases h
  · next ds _ hne hd =>
    obtain ⟨d, rfl, rfl⟩ := exists_digits hd fun he => hne he
    obtain ⟨e, rfl, rfl⟩ := exists_of_scanTail h
    exact ⟨d, e, rfl, rfl⟩

/-- **Soundness**: `scan` reads a numeral in front of a rest that `Stops`. -/
theorem scan_numeral (q : Numeral) (h : Stops rest) :
    scan (q.bytes ++ rest) = .ok (q.literal, rest) := by
  obtain ⟨minus, whole, hwhole, f, e⟩ := q
  have hpoint : NoDigit (f.elim [] (0x2e :: ·.bytes) ++ (e.elim [] Power.bytes ++ rest)) := by
    cases f with
    | none => exact noDigit_power e h
    | some d => exact noDigit_cons rfl
  have hunsigned : scanUnsigned minus
      (whole.bytes ++ (f.elim [] (0x2e :: ·.bytes) ++ (e.elim [] Power.bytes ++ rest))) =
        .ok (⟨minus, whole.values, f.elim [] Digits.values, e.map Power.value⟩, rest) := by
    rw [scanUnsigned_eq (values_ne_nil whole) hwhole (digits_append whole hpoint)]
    exact scanPoint_fraction minus whole.values f e h
  cases minus with
  | true =>
    simp only [Numeral.bytes, if_true, List.append_assoc]
    exact hunsigned
  | false =>
    simp only [Numeral.bytes, Bool.false_eq_true, if_false, List.nil_append, List.append_assoc]
    exact (scan.eq_2 _ (digits_head whole 0x2d rfl · _)).trans hunsigned

theorem exists_of_scanPoint {minus : Bool} {whole : List Nat} {input : List UInt8} {l : Literal}
    (h : scanPoint minus whole input = .ok (l, rest)) :
    ∃ (f : Option Digits) (e : Option Power),
      input = f.elim [] (0x2e :: ·.bytes) ++ (e.elim [] Power.bytes ++ rest) ∧
        l = ⟨minus, whole, f.elim [] Digits.values, e.map Power.value⟩ := by
  unfold scanPoint at h
  split at h
  · obtain ⟨d, e, rfl, rfl⟩ := exists_of_scanFraction h
    exact ⟨some d, e, rfl, rfl⟩
  · obtain ⟨e, rfl, rfl⟩ := exists_of_scanTail h
    exact ⟨none, e, rfl, rfl⟩

theorem exists_of_scanUnsigned {minus : Bool} {input : List UInt8} {l : Literal}
    (h : scanUnsigned minus input = .ok (l, rest)) :
    ∃ q : Numeral, (if minus then [0x2d] else []) ++ input = q.bytes ++ rest ∧ q.literal = l := by
  obtain ⟨ds, middle, hd, h0, hz, hpoint⟩ := scanUnsigned_whole h
  obtain ⟨whole, rfl, rfl⟩ := exists_digits hd h0
  obtain ⟨f, e, rfl, rfl⟩ := exists_of_scanPoint hpoint
  refine ⟨⟨minus, whole, hz, f, e⟩, ?_, rfl⟩
  simp only [Numeral.bytes, List.append_assoc]

/-- **Completeness**: what `scan` reads is a numeral. -/
theorem exists_of_scan {input : List UInt8} {l : Literal} (h : scan input = .ok (l, rest)) :
    ∃ q : Numeral, input = q.bytes ++ rest ∧ q.literal = l := by
  unfold scan at h
  split at h
  · exact exists_of_scanUnsigned h
  · exact exists_of_scanUnsigned h

end Number

/-! ## Strings -/

/-- **`Part`**: a byte or an escape between quotes. -/
inductive Part
  | plain (b : UInt8) (h : Text.Literal b)
  | letter (e : UInt8) (h : (Text.letterEscape? e).isSome = true)
  /-- A `\u` escape. -/
  | code (a b c d : UInt8) (h : (Text.fourDigits? a b c d).isSome = true)

def Part.bytes : Part → List UInt8
  | plain b _ => [b]
  | letter e _ => [0x5c, e]
  | code a b c d _ => [0x5c, 0x75, a, b, c, d]

/-- **`Spelling`**: a string as it is written. -/
structure Spelling where
  parts : List Part

namespace Spelling

/-- The bytes behind the opening quote. -/
def tail (s : Spelling) : List UInt8 := s.parts.flatMap Part.bytes ++ [0x22]

def bytes (s : Spelling) : List UInt8 := 0x22 :: s.tail

/-- The string, or the fault of its escapes. -/
def text (s : Spelling) : Except Reason String := Text.read s.tail

theorem skip_part (p : Part) (rest : List UInt8) :
    Text.skip (p.bytes ++ rest) = Text.skip rest := by
  cases p with
  | plain b h => exact Text.skip_literal h rest
  | letter e h =>
    obtain ⟨b, hb⟩ := Option.isSome_iff_exists.mp h
    refine Text.skip_letter ?_ hb rest
    rintro rfl
    cases hb
  | code a b c d h => exact if_pos h

/-- `skip` finds the closing quote of a spelling. -/
theorem skip_tail (s : Spelling) (rest : List UInt8) : Text.skip (s.tail ++ rest) = .ok rest := by
  obtain ⟨parts⟩ := s
  induction parts with
  | nil => rfl
  | cons p parts ih =>
    simp only [tail, List.flatMap_cons, List.append_assoc] at ih ⊢
    exact (skip_part p _).trans ih

theorem string_eq (s : Spelling) (rest : List UInt8) :
    Token.string (s.tail ++ rest) = (.text s.text, rest) := by
  have hend : Text.skip s.tail = .ok [] := by
    rw [← List.append_nil s.tail, skip_tail]
  rw [Token.string, skip_tail, Text.read_append hend, text]

/-- What `skip` accepts is a spelling. -/
theorem exists_of_skip {input rest : List UInt8} (h : Text.skip input = .ok rest) :
    ∃ s : Spelling, input = s.tail ++ rest := by
  have more (p : Part) {input : List UInt8} (h : ∃ s : Spelling, input = s.tail ++ rest) :
      ∃ s : Spelling, p.bytes ++ input = s.tail ++ rest := by
    obtain ⟨s, rfl⟩ := h
    exact ⟨⟨p :: s.parts⟩, by simp [tail]⟩
  fun_induction Text.skip input with
  | case2 tail =>
    cases h
    exact ⟨⟨[]⟩, rfl⟩
  | case4 a b c d tail hd ih => exact more (.code a b c d hd) (ih h)
  | case7 e tail _ _ he ih => exact more (.letter e he) (ih h)
  | case10 b tail hquote hend _ _ hslash hlow ih =>
    exact more (.plain b (Text.literal_of hquote hend hslash hlow)) (ih h)
  | case1 | case3 | case5 | case6 | case8 | case9 => cases h

/-- Every string has a spelling, which is the printed one. -/
theorem exists_quote (t : String) :
    ∃ s : Spelling, s.text = .ok t ∧ s.bytes = Utf8.ofChars (Text.quote t).toList := by
  obtain ⟨s, hs⟩ := exists_of_skip (Text.skip_escaped t.toList [])
  rw [List.append_nil] at hs
  refine ⟨s, ?_, ?_⟩
  · rw [text, ← hs, Text.read_escaped, String.ofList_toList]
  · rw [bytes, ← hs, Text.quote, String.toList_ofList, List.cons_append, Utf8.ofChars_cons,
      Utf8.ofChars_append]
    rfl

end Spelling

/-! ## Tokens -/

/-- **`Lexeme t bs`**: the token `t` may be written as `bs`. -/
inductive Lexeme : Token → List UInt8 → Prop
  | openBrace : Lexeme .openBrace [0x7b]
  | closeBrace : Lexeme .closeBrace [0x7d]
  | openBracket : Lexeme .openBracket [0x5b]
  | closeBracket : Lexeme .closeBracket [0x5d]
  | comma : Lexeme .comma [0x2c]
  | colon : Lexeme .colon [0x3a]
  | null : Lexeme .null [0x6e, 0x75, 0x6c, 0x6c]
  | true : Lexeme (.bool true) [0x74, 0x72, 0x75, 0x65]
  | false : Lexeme (.bool false) [0x66, 0x61, 0x6c, 0x73, 0x65]
  | number (q : Numeral) : Lexeme (.number q.literal.value) q.bytes
  | text (s : Spelling) : Lexeme (.text s.text) s.bytes

/-- A numeral starts with `-` or a digit. -/
theorem Numeral.head (q : Numeral) :
    ∃ b tail, q.bytes = b :: tail ∧ (b = 0x2d ∨ Number.isDigit b = true) := by
  obtain ⟨minus, ⟨_ | ⟨b, bs⟩, hne, hall⟩, -, f, e⟩ := q
  · exact (hne rfl).elim
  · cases minus with
    | true => exact ⟨0x2d, _, rfl, .inl rfl⟩
    | false => exact ⟨b, _, rfl, .inr (hall b List.mem_cons_self)⟩

namespace Token

theorem start_of_numeric {b : UInt8} (hb : b = 0x2d ∨ Number.isDigit b = true)
    (rest : List UInt8) : isSpace b = false ∧ start b rest =
      match Number.scan (b :: rest) with
      | .ok (l, rest) => (number l.value, rest)
      | .error f => (brokenScalar f, []) := by
  have hne (c : UInt8) (hc : c ≠ 0x2d ∧ Number.isDigit c = false) : b ≠ c := by
    rintro rfl
    exact hb.elim hc.1 (Bool.eq_false_iff.mp hc.2)
  constructor
  · simp [isSpace, hne 0x20 (by decide), hne 0x0a (by decide), hne 0x09 (by decide),
      hne 0x0d (by decide)]
  · have hstart := start.eq_11 b rest (hne _ (by decide)) (hne _ (by decide)) (hne _ (by decide))
      (hne _ (by decide)) (hne _ (by decide)) (hne _ (by decide)) (hne _ (by decide))
      (hne _ (by decide)) (hne _ (by decide)) (hne _ (by decide))
    exact hstart.trans (if_pos hb)

end Token

/-- **Soundness**: a lexeme is read as its token. -/
theorem Lexeme.next? {t : Token} {bs : List UInt8} (h : Lexeme t bs) {rest : List UInt8}
    (ho : t.Open → Number.Stops rest) : Token.next? (bs ++ rest) = some (t, rest) := by
  cases h with
  | number q =>
    obtain ⟨b, tail, hq, hb⟩ := q.head
    obtain ⟨hspace, hstart⟩ := Token.start_of_numeric hb (tail ++ rest)
    have hscan := Number.scan_numeral q (ho trivial)
    rw [hq, List.cons_append] at hscan ⊢
    rw [Token.next?, hspace, hstart, hscan]
    rfl
  | text s => exact congrArg some (s.string_eq rest)
  | _ => rfl

namespace Token

theorem eq_of_word {t t' : Token} {broken : Fault → Token} {ws input rest : List UInt8}
    (h : word t broken ws input = (t', rest)) (hb : ∀ f, (broken f).Broken) (ht : ¬t'.Broken) :
    t' = t ∧ input = ws ++ rest := by
  fun_induction word t broken ws input with
  | case1 input =>
    cases h
    exact ⟨rfl, rfl⟩
  | case2 | case4 =>
    cases h
    exact (ht (hb _)).elim
  | case3 ws b tail ih =>
    obtain ⟨he, hinput⟩ := ih h
    exact ⟨he, congrArg (b :: ·) hinput⟩

theorem lexeme_of_start {b : UInt8} {input rest : List UInt8} {t : Token}
    (h : start b input = (t, rest)) (ht : ¬t.Broken) (hs : t ≠ .stray) :
    ∃ bs, b :: input = bs ++ rest ∧ Lexeme t bs := by
  unfold start at h
  split at h
  case h_7 =>
    cases hskip : Text.skip input with
    | ok after =>
      obtain ⟨s, rfl⟩ := Spelling.exists_of_skip hskip
      rw [s.string_eq] at h
      cases h
      exact ⟨s.bytes, rfl, .text s⟩
    | error f =>
      unfold string at h
      rw [hskip] at h
      dsimp only at h
      split at h <;> cases h <;> exact (ht trivial).elim
  case h_8 =>
    obtain ⟨rfl, rfl⟩ := eq_of_word h (fun _ => trivial) ht
    exact ⟨_, rfl, .null⟩
  case h_9 =>
    obtain ⟨rfl, rfl⟩ := eq_of_word h (fun _ => trivial) ht
    exact ⟨_, rfl, .true⟩
  case h_10 =>
    obtain ⟨rfl, rfl⟩ := eq_of_word h (fun _ => trivial) ht
    exact ⟨_, rfl, .false⟩
  case h_11 =>
    split at h
    · split at h <;> cases h
      · next hscan =>
        obtain ⟨q, hinput, rfl⟩ := Number.exists_of_scan hscan
        exact ⟨_, hinput, .number q⟩
      · exact (ht trivial).elim
    · cases h
      exact (hs rfl).elim
  all_goals
    cases h
    exact ⟨[_], rfl, by constructor⟩

/-- **Completeness**: a token that is read has a lexeme, behind whitespace. -/
theorem lexeme_of_next? {input rest : List UInt8} {t : Token} (h : next? input = some (t, rest))
    (ht : ¬t.Broken) (hs : t ≠ .stray) :
    ∃ (g : Gap) (bs : List UInt8), input = g.bytes ++ (bs ++ rest) ∧ Lexeme t bs := by
  induction input with
  | nil => cases h
  | cons b tail ih =>
    rw [next?] at h
    split at h
    · next hb =>
      obtain ⟨g, bs, rfl, hbs⟩ := ih h
      exact ⟨.cons b hb g, bs, rfl, hbs⟩
    · rw [Option.some.injEq] at h
      obtain ⟨bs, hinput, hbs⟩ := lexeme_of_start h ht hs
      exact ⟨.empty, bs, hinput, hbs⟩

end Token

end TenantApps.Json
