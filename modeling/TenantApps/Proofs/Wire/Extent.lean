import Mathlib.Data.List.TakeWhile
import TenantApps.Procedure
import TenantApps.Proofs.Wire.Members
import TenantApps.Proofs.Wire.Text
import TenantApps.Record.Application

/-!
# `TenantApps.Proofs.Wire.Extent` — decoding a prefix

`Json.decodeFirst` decodes the first value of a body and ignores the rest, so it accepts a body
exactly if the strict `Json.decodeWhole` accepts some prefix of it. The first value of an accepted
body is a list or an object, hence ends with a bracket; every token in front of it is determined by
its own bytes, and a number also by the byte behind it. `Leads` states this locality for one reader
after the other.

## Contents
- `Json.Leads`, the locality of a reader, with its laws.
- `Json.Number.leads_scan`, `Json.Token.leads_string` and `Json.Token.leads_next?`, for tokens.
- `Json.resume` and `Json.readFrom_token`, one token of a run.
- `Json.Node.Closed` and `Json.readFrom_closed`, a run up to its last bracket.
- `Json.Schema.decoder_closed`, then `Json.Schema.decodeFirst_eq_ok` and
  `Json.Schema.decodeWhole_append`, the two decoders on a record with a rest.
- `Attempt.decode_extent`, the **main result**, and `Attempt.accepts_trailing`, a body with a rest.
-/

namespace TenantApps

namespace Json

/-! ## Locality of readers -/

/-- **`Leads ahead f g input rest`**: on `input`, `f` consumes bytes up to `rest` and continues as
`g`, whatever stands in the place of `rest`; with `ahead`, its first byte must be the same. -/
def Leads {ρ : Type} (ahead : Prop) (f g : List UInt8 → ρ) (input rest : List UInt8) : Prop :=
  ∃ taken, input = taken ++ rest ∧
    ∀ after, (ahead → after.head? = rest.head?) → f (taken ++ after) = g after

namespace Leads

variable {ρ σ : Type} {ahead : Prop} {f g k : List UInt8 → ρ} {input middle rest : List UInt8}

theorem head?_append {after : List UInt8} (h : after.head? = rest.head?) (taken : List UInt8) :
    (taken ++ after).head? = (taken ++ rest).head? := by
  rw [List.head?_append, List.head?_append, h]

/-- A different first byte contradicts the lookahead. -/
theorem head_ne {after : List UInt8} {b : UInt8} (ha : after.head? = input.head?)
    (h : ∀ tail, input = b :: tail → False) (tail : List UInt8) (he : after = b :: tail) :
    False := by
  rw [he, List.head?_cons, eq_comm, List.head?_eq_some_iff] at ha
  exact ha.elim h

/-- Nothing is consumed. -/
theorem of_head (h : ∀ after, (ahead → after.head? = input.head?) → f after = g after) :
    Leads ahead f g input input := ⟨[], rfl, h⟩

/-- A fixed prefix is consumed. -/
theorem of_append (taken : List UInt8) (h : ∀ after, f (taken ++ after) = g after)
    (rest : List UInt8) : Leads ahead f g (taken ++ rest) rest :=
  ⟨taken, rfl, fun after _ => h after⟩

theorem trans (h : Leads ahead f g input middle) (h' : Leads ahead g k middle rest) :
    Leads ahead f k input rest := by
  obtain ⟨first, rfl, hf⟩ := h
  obtain ⟨second, rfl, hg⟩ := h'
  refine ⟨first ++ second, (List.append_assoc ..).symm, fun after ha => ?_⟩
  rw [List.append_assoc, hf _ fun hx => head?_append (ha hx) second]
  exact hg after ha

/-- Locality is preserved by a map of the result. -/
theorem map (h : Leads ahead f g input rest) (m : ρ → σ) :
    Leads ahead (fun x => m (f x)) (fun x => m (g x)) input rest := by
  obtain ⟨taken, he, h⟩ := h
  exact ⟨taken, he, fun after ha => congrArg m (h after ha)⟩

end Leads

/-! ## Numbers

A number ends in front of the first byte that cannot belong to it, so its reader needs one byte of
lookahead. -/

namespace Number

/-- `digits` consumes the digits. -/
theorem leads_digits {ρ : Type} {f g : List UInt8 → ρ} {input rest : List UInt8} {ds : List Nat}
    (h : digits input = (ds, rest)) (hf : ∀ x after, digits x = (ds, after) → f x = g after) :
    Leads True f g input rest := by
  rw [digits, Prod.mk.injEq] at h
  obtain ⟨rfl, rfl⟩ := h
  refine ⟨input.takeWhile isDigit, List.takeWhile_append_dropWhile.symm, fun after ha => hf _ _ ?_⟩
  have htaken : ∀ b ∈ input.takeWhile isDigit, isDigit b = true := fun _ => List.mem_takeWhile_imp
  have hend : after.takeWhile isDigit = [] ∧ after.dropWhile isDigit = after := by
    cases after with
    | nil => exact ⟨rfl, rfl⟩
    | cons b after =>
      have hb : ¬isDigit b = true := by
        have := List.head?_dropWhile_not isDigit input
        rw [← ha trivial, List.head?_cons] at this
        exact Bool.not_eq_true _ ▸ this
      exact ⟨List.takeWhile_cons_of_neg hb, List.dropWhile_cons_of_neg hb⟩
  rw [digits, List.takeWhile_append_of_pos htaken, List.dropWhile_append_of_pos htaken, hend.1,
    hend.2, List.append_nil]

theorem leads_scanPower {minus : Bool} {input rest : List UInt8} {e : Bool × List Nat}
    (h : scanPower minus input = .ok (e, rest)) :
    Leads True (scanPower minus) (fun after => .ok (e, after)) input rest := by
  unfold scanPower at h
  split at h
  · cases h
  · next ds _ hne hd =>
    cases h
    refine leads_digits hd fun x after hx => ?_
    rw [scanPower, hx]
    split
    · next he => cases he; exact (hne rfl).elim
    · next he => cases he; rfl

theorem leads_scanExponent {input rest : List UInt8} {e : Bool × List Nat}
    (h : scanExponent input = .ok (e, rest)) :
    Leads True scanExponent (fun after => .ok (e, after)) input rest := by
  unfold scanExponent at h
  split at h
  · exact (Leads.of_append [0x2b] (fun _ => rfl) _).trans (leads_scanPower h)
  · exact (Leads.of_append [0x2d] (fun _ => rfl) _).trans (leads_scanPower h)
  · next hp hm =>
    refine .trans (.of_head fun after ha => ?_) (leads_scanPower h)
    exact scanExponent.eq_3 _ (Leads.head_ne (ha trivial) hp) (Leads.head_ne (ha trivial) hm)

/-- No exponent without its letter. -/
theorem scanTail_plain {minus : Bool} {whole fraction : List Nat} {input : List UInt8}
    (h : ∀ b, input.head? = some b → ¬(b = 0x65 ∨ b = 0x45)) :
    scanTail minus whole fraction input = .ok (⟨minus, whole, fraction, none⟩, input) := by
  cases input with
  | nil => rfl
  | cons b tail => rw [scanTail, if_neg (h b rfl)]

theorem leads_scanTail {minus : Bool} {whole fraction : List Nat} {input rest : List UInt8}
    {l : Literal} (h : scanTail minus whole fraction input = .ok (l, rest)) :
    Leads True (scanTail minus whole fraction) (fun after => .ok (l, after)) input rest := by
  by_cases hb : ∀ b, input.head? = some b → ¬(b = 0x65 ∨ b = 0x45)
  · rw [scanTail_plain hb] at h
    cases h
    exact .of_head fun after ha => scanTail_plain (ha trivial ▸ hb)
  · simp only [not_forall, not_not, exists_prop] at hb
    obtain ⟨b, hhead, hb⟩ := hb
    obtain ⟨tail, rfl⟩ := List.head?_eq_some_iff.mp hhead
    rw [scanTail, if_pos hb] at h
    cases hs : scanExponent tail with
    | error f => rw [hs] at h; cases h
    | ok p =>
      rw [hs] at h
      cases h
      have hstart (after : List UInt8) : scanTail minus whole fraction ([b] ++ after) =
          (scanExponent after).map fun p => (⟨minus, whole, fraction, some p.1⟩, p.2) := if_pos hb
      exact (Leads.of_append [b] hstart tail).trans ((leads_scanExponent hs).map _)

theorem leads_scanFraction {minus : Bool} {whole : List Nat} {input rest : List UInt8}
    {l : Literal} (h : scanFraction minus whole input = .ok (l, rest)) :
    Leads True (scanFraction minus whole) (fun after => .ok (l, after)) input rest := by
  unfold scanFraction at h
  split at h
  · cases h
  · next ds _ hne hd =>
    refine (leads_digits hd fun x after hx => ?_).trans (leads_scanTail h)
    rw [scanFraction, hx]
    split
    · next he => cases he; exact (hne rfl).elim
    · next he => cases he; rfl

/-- `scanUnsigned` behind the whole part. -/
def scanPoint (minus : Bool) (whole : List Nat) (input : List UInt8) :
    Except Fault (Literal × List UInt8) :=
  match input with
  | 0x2e :: rest => scanFraction minus whole rest
  | rest => scanTail minus whole [] rest

theorem leads_scanPoint {minus : Bool} {whole : List Nat} {input rest : List UInt8} {l : Literal}
    (h : scanPoint minus whole input = .ok (l, rest)) :
    Leads True (scanPoint minus whole) (fun after => .ok (l, after)) input rest := by
  unfold scanPoint at h
  split at h
  · exact (Leads.of_append [0x2e] (fun _ => rfl) _).trans (leads_scanFraction h)
  · next hp =>
    refine .trans (.of_head fun after ha => ?_) (leads_scanTail h)
    exact scanPoint.eq_2 _ _ _ (Leads.head_ne (ha trivial) hp)

/-- `scanUnsigned` is `digits` and then `scanPoint`, unless there is a leading zero. -/
theorem scanUnsigned_eq {ds : List Nat} (h0 : ds ≠ []) (hz : ∀ d tail, ds ≠ 0 :: d :: tail)
    {minus : Bool} {input after : List UInt8} (hd : digits input = (ds, after)) :
    scanUnsigned minus input = scanPoint minus ds after := by
  unfold scanUnsigned
  rw [hd]
  split <;> rename_i he <;> cases he
  · exact absurd rfl h0
  · exact absurd rfl (hz _ _)
  · rfl
  · next hp => exact (scanPoint.eq_2 _ _ _ hp).symm

/-- A scanned literal has a whole part without a leading zero. -/
theorem scanUnsigned_whole {minus : Bool} {input rest : List UInt8} {l : Literal}
    (h : scanUnsigned minus input = .ok (l, rest)) :
    ∃ ds middle, digits input = (ds, middle) ∧ ds ≠ [] ∧ (∀ d tail, ds ≠ 0 :: d :: tail) ∧
      scanPoint minus ds middle = .ok (l, rest) := by
  cases hd : digits input with
  | mk ds middle =>
    have h0 : ds ≠ [] := by
      rintro rfl
      rw [scanUnsigned, hd] at h
      cases h
    have hz (d : Nat) (tail : List Nat) : ds ≠ 0 :: d :: tail := by
      rintro rfl
      rw [scanUnsigned, hd] at h
      cases h
    exact ⟨ds, middle, rfl, h0, hz, scanUnsigned_eq h0 hz hd ▸ h⟩

theorem leads_scanUnsigned {minus : Bool} {input rest : List UInt8} {l : Literal}
    (h : scanUnsigned minus input = .ok (l, rest)) :
    Leads True (scanUnsigned minus) (fun after => .ok (l, after)) input rest := by
  obtain ⟨ds, middle, hd, h0, hz, hpoint⟩ := scanUnsigned_whole h
  exact (leads_digits hd fun _ _ hx => scanUnsigned_eq h0 hz hx).trans (leads_scanPoint hpoint)

theorem leads_scan {input rest : List UInt8} {l : Literal} (h : scan input = .ok (l, rest)) :
    Leads True scan (fun after => .ok (l, after)) input rest := by
  unfold scan at h
  split at h
  · exact (Leads.of_append [0x2d] (fun _ => rfl) _).trans (leads_scanUnsigned h)
  · next hm =>
    refine .trans (.of_head fun after ha => ?_) (leads_scanUnsigned h)
    exact scan.eq_2 _ (Leads.head_ne (ha trivial) hm)

end Number

/-! ## Strings

A string ends with its closing quote, so nothing behind it matters. `unescape` may stop earlier, at
a fault in the text. -/

namespace Text

/-- A byte that is no quote, backslash or control stands for itself. -/
theorem literal_of {b : UInt8} {tail : List UInt8} (hquote : b = 0x22 → False)
    (hend : b = 0x5c → tail = [] → False) (hslash : ∀ e rest, b = 0x5c → tail = e :: rest → False)
    (hlow : ¬b < 0x20) : Literal b := by
  refine ⟨?_, fun he => hquote (UInt8.toNat_inj.mp he), fun he => ?_⟩
  · exact Nat.not_lt.mp fun hlt => hlow (UInt8.lt_iff_toNat_lt.mpr hlt)
  · cases tail with
    | nil => exact hend (UInt8.toNat_inj.mp he) rfl
    | cons e tail => exact hslash e tail (UInt8.toNat_inj.mp he) rfl

/-- `skip` finds the end of a string by its bytes alone. -/
theorem leads_skip {input rest : List UInt8} (h : skip input = .ok rest) :
    Leads False skip .ok input rest := by
  fun_induction skip input with
  | case2 tail =>
    cases h
    exact .of_append [0x22] (fun _ => rfl) _
  | case4 a b c d tail hd ih =>
    refine .trans (.of_append [0x5c, 0x75, a, b, c, d] (fun after => ?_) _) (ih h)
    exact if_pos hd
  | case7 e tail _ hu he ih =>
    obtain ⟨b, hb⟩ := Option.isSome_iff_exists.mp he
    exact .trans (.of_append [0x5c, e] (fun after => skip_letter hu hb after) _) (ih h)
  | case10 b tail hquote hend _ _ hslash hlow ih =>
    have hb := literal_of hquote hend hslash hlow
    exact .trans (.of_append [b] (fun after => skip_literal hb after) _) (ih h)
  | case1 | case3 | case5 | case6 | case8 | case9 => cases h

/-- `unescape` of a complete string does not look beyond its end. -/
theorem unescape_append {taken rest : List UInt8} (h : skip taken = .ok rest) (out : List UInt8)
    (after : List UInt8) :
    unescape (taken ++ after) out = (unescape taken out).map fun p => (p.1, p.2 ++ after) := by
  fun_induction unescape taken out with
  | case2 => rfl
  | case5 a b c d tail out n hd hlow =>
    simp only [List.cons_append, unescape, hd, hlow, and_self, if_true]
    rfl
  | case6 a b c d tail out n hd hlow hhigh ih =>
    simp only [List.cons_append, unescape, hd, if_neg hlow, if_pos hhigh]
    simp only [skip, hd] at h
    exact ih h
  | case10 a b c d out n hd hlow hhigh e f g k tail m hm hpair =>
    simp only [List.cons_append, unescape, hd, if_neg hlow, if_neg hhigh, hm, if_pos hpair]
    rfl
  | case11 a b c d out n hd hlow hhigh e f g k tail m hm hpair full ih =>
    simp only [List.cons_append, unescape, hd, if_neg hlow, if_neg hhigh, hm, if_neg hpair]
    simp only [skip, hd, hm] at h
    exact ih h
  | case13 a b c d tail out n hd hlow hhigh h0 h1 hpair hu =>
    -- the first two bytes after the escape tell that no other escape follows it
    obtain ⟨x, tail, rfl⟩ := List.exists_cons_of_ne_nil h0
    by_cases hx : x = 0x5c
    · subst hx
      obtain ⟨y, tail, rfl⟩ := List.exists_cons_of_ne_nil fun he => h1 (congrArg _ he)
      have hy : y ≠ 0x75 := fun he => hu tail (congrArg _ (congrArg (· :: tail) he))
      simp [unescape, hd, hlow, hhigh, hy, Except.map]
    · simp [unescape, hd, hlow, hhigh, hx, Except.map]
  | case15 e tail out _ hu b he ih =>
    rw [skip_letter hu he] at h
    exact (unescape_letter hu he _ _).trans (ih h)
  | case18 b tail out hquote hend h3 h4 hslash hlow ih =>
    have hb := literal_of hquote hend hslash hlow
    rw [skip_literal hb] at h
    exact (unescape_literal hb _ _).trans (ih h)
  | case1 | case3 | case4 | case7 | case8 | case9 | case12 | case14 | case16 | case17 =>
    -- these are no strings that end
    simp_all [skip]

/-- `read` of a complete string does not depend on what follows it. -/
theorem read_append {taken rest : List UInt8} (h : skip taken = .ok rest) (after : List UInt8) :
    read (taken ++ after) = read taken := by
  rw [read, unescape_append h, read]
  cases unescape taken [] <;> rfl

end Text

/-! ## Tokens -/

namespace Token

/-- Tokens that break off; they consume the whole input. -/
def Broken : Token → Prop
  | brokenNull _ | brokenScalar _ | brokenText _ => True
  | _ => False

/-- Tokens whose end depends on the next byte. -/
def Open : Token → Prop
  | number _ => True
  | _ => False

theorem leads_string {input rest : List UInt8} {t : Token} (h : string input = (t, rest))
    (ht : ¬t.Broken) : Leads t.Open string (fun after => (t, after)) input rest := by
  unfold string at h
  split at h
  · next hs =>
    cases h
    obtain ⟨taken, rfl, hskip⟩ := Text.leads_skip hs
    have hend : Text.skip taken = .ok [] := by
      rw [← hskip [] False.elim, List.append_nil]
    refine ⟨taken, rfl, fun after _ => ?_⟩
    rw [string, hskip after False.elim, Text.read_append hend, Text.read_append hend]
  · split at h <;> cases h <;> exact (ht trivial).elim

theorem leads_word {t t' : Token} {broken : Fault → Token} {ws input rest : List UInt8}
    {ahead : Prop} (h : word t broken ws input = (t', rest)) (hb : ∀ f, (broken f).Broken)
    (ht : ¬t'.Broken) : Leads ahead (word t broken ws) (fun after => (t', after)) input rest := by
  fun_induction word t broken ws input with
  | case1 input =>
    cases h
    exact .of_head fun _ _ => rfl
  | case2 | case4 =>
    cases h
    exact (ht (hb _)).elim
  | case3 ws b tail ih =>
    refine .trans (.of_append [b] (fun after => ?_) _) (ih h)
    exact if_pos rfl

theorem leads_number {b : UInt8} {input rest : List UInt8} {l : Number.Literal}
    (h : Number.scan (b :: input) = .ok (l, rest)) :
    Leads True (fun after => Number.scan (b :: after)) (fun after => .ok (l, after))
      input rest := by
  obtain ⟨taken, he, hscan⟩ := Number.leads_scan h
  have hlength := Number.length_scan h
  cases taken with
  | nil =>
    rw [he, List.nil_append] at hlength
    exact absurd hlength (Nat.lt_irrefl _)
  | cons c taken =>
    obtain ⟨rfl, rfl⟩ := List.cons_eq_cons.mp he
    exact ⟨taken, rfl, hscan⟩

theorem leads_start {b : UInt8} {input rest : List UInt8} {t : Token}
    (h : start b input = (t, rest)) (ht : ¬t.Broken) :
    Leads t.Open (start b) (fun after => (t, after)) input rest := by
  unfold start at h
  split at h
  case h_7 => exact leads_string h ht
  case h_8 | h_9 | h_10 => exact leads_word h (fun _ => trivial) ht
  case h_11 h1 h2 h3 h4 h5 h6 h7 h8 h9 h10 =>
    have hstart (after : List UInt8) := start.eq_11 b after h1 h2 h3 h4 h5 h6 h7 h8 h9 h10
    split at h
    · next hb =>
      split at h <;> cases h
      · next l hs =>
        obtain ⟨taken, he, hscan⟩ := leads_number hs
        refine ⟨taken, he, fun after ha => ?_⟩
        have hcut : Number.scan (b :: (taken ++ after)) = .ok (l, after) :=
          hscan after fun _ => ha trivial
        rw [hstart, if_pos hb, hcut]
      · exact (ht trivial).elim
    · next hb =>
      cases h
      exact .of_head fun after _ => (hstart after).trans (if_neg hb)
  all_goals
    cases h
    exact .of_head fun _ _ => rfl

/-- **Locality of `Token.next?`**, with lookahead for numbers only. -/
theorem leads_next? {input rest : List UInt8} {t : Token} (h : next? input = some (t, rest))
    (ht : ¬t.Broken) : Leads t.Open next? (fun after => some (t, after)) input rest := by
  induction input with
  | nil => cases h
  | cons b tail ih =>
    rw [next?] at h
    split at h
    · next hb =>
      refine .trans (.of_append [b] (fun after => ?_) tail) (ih h)
      exact if_pos hb
    · next hb =>
      rw [Option.some.injEq] at h
      refine .trans (.of_append [b] (fun after => ?_) tail) ((leads_start h ht).map some)
      exact if_neg hb

end Token

/-! ## Closed values -/

/-- A list or an object with its closing bracket. -/
def Node.Closed : Node → Prop
  | .array _ none | .object _ none => True
  | _ => False

namespace State

/-- An abandoned container is not closed. -/
theorem not_closed_abandon {f : Fault} {n : Node} (h : ¬n.Closed) (stack : List Frame) :
    ¬(abandon f n stack).Closed := by
  induction stack generalizing n with
  | nil => exact h
  | cons frame stack ih => cases frame <;> exact ih id

theorem not_closed_ended (s : State) : ¬s.ended.Closed := by
  cases s <;> exact not_closed_abandon id _

theorem not_closed_put {n m : Node} {stack : List Frame} (h : put n stack = .inr m)
    (hn : ¬n.Closed) : ¬m.Closed := by
  cases stack with
  | nil =>
    cases h
    exact hn
  | cons frame stack => cases frame <;> cases h

theorem not_closed_startValue {t : Token} {stack : List Frame} {n : Node}
    (h : startValue t stack = .inr n) : ¬n.Closed := by
  unfold startValue at h
  split at h
  all_goals first
    | exact not_closed_put h id
    | cases h <;> exact not_closed_abandon id _

theorem not_closed_startKey {t : Token} {done : List Member} {stack : List Frame} {n : Node}
    (h : startKey t done stack = .inr n) : ¬n.Closed := by
  unfold startKey at h
  split at h <;> cases h <;> exact not_closed_abandon id _

/-- A closed value is completed by a closing bracket. -/
theorem closing_of_step {s : State} {t : Token} {n : Node} (h : s.step t = .inr n)
    (hn : n.Closed) : t = .closeBracket ∨ t = .closeBrace := by
  unfold step at h
  split at h
  all_goals first
    | exact .inl rfl
    | exact .inr rfl
    | exact absurd hn (not_closed_startValue h)
    | exact absurd hn (not_closed_startKey h)
    | cases h <;> exact absurd hn (not_closed_abandon id _)

/-- No step follows a token that breaks off. -/
theorem sound_of_step {s s' : State} {t : Token} (h : s.step t = .inl s') : ¬t.Broken := by
  cases t with
  | brokenNull f => cases s <;> cases h
  | brokenScalar f => cases s <;> cases h
  | brokenText f => cases s <;> cases h
  | _ => exact id

end State

/-- The rest of a run after the outcome of a step. -/
def resume (o : State.Outcome) (rest : List UInt8) : Node × List UInt8 :=
  match o with
  | .inl s => readFrom s rest
  | .inr n => (n, rest)

theorem readFrom_token {input rest : List UInt8} {t : Token}
    (h : Token.next? input = some (t, rest)) (s : State) :
    readFrom s input = resume (s.step t) rest := by
  unfold readFrom
  split
  · next hn =>
    rw [h] at hn
    cases hn
  · next hn =>
    rw [h] at hn
    cases hn
    rfl

/-- **A closed first value is read from its own bytes**, whatever follows it. -/
theorem readFrom_closed {s : State} {input rest : List UInt8} {n : Node}
    (h : readFrom s input = (n, rest)) (hn : n.Closed) :
    ∃ taken, taken ≠ [] ∧ input = taken ++ rest ∧
      ∀ after, readFrom s (taken ++ after) = (n, after) := by
  fun_induction readFrom s input with
  | case1 s =>
    cases h
    exact absurd hn s.not_closed_ended
  | case2 s input t middle ht s' hs ih =>
    obtain ⟨taken, hne, rfl, hread⟩ := ih h
    obtain ⟨b, taken, rfl⟩ := List.exists_cons_of_ne_nil hne
    obtain ⟨first, rfl, hfirst⟩ := Token.leads_next? ht (State.sound_of_step hs)
    refine ⟨first ++ b :: taken, ?_, (List.append_assoc ..).symm, fun after => ?_⟩
    · exact List.append_ne_nil_of_right_ne_nil _ (List.cons_ne_nil b taken)
    · -- whatever follows the value, the token is followed by the same byte
      have htoken := hfirst (b :: taken ++ after) fun _ => rfl
      rw [List.append_assoc, readFrom_token htoken, hs]
      exact hread after
  | case3 s input t middle ht m hs =>
    cases h
    have hclosing := State.closing_of_step hs hn
    have hopen : ¬t.Broken ∧ ¬t.Open := by rcases hclosing with rfl | rfl <;> exact ⟨id, id⟩
    obtain ⟨taken, he, hfirst⟩ := Token.leads_next? ht hopen.1
    refine ⟨taken, ?_, he, fun after => ?_⟩
    · rintro rfl
      have := Token.length_next? ht
      rw [he] at this
      exact absurd this (Nat.lt_irrefl _)
    · rw [readFrom_token (hfirst after hopen.2.elim), hs]
      rfl

/-! ## Records -/

namespace Schema

variable {α : Type} (s : Schema α)

theorem afterFields_ne_none (rest : List Node) (f : Fault) : afterFields rest (some f) ≠ none := by
  cases rest with
  | nil =>
    rw [afterFields]
    split <;> rintro ⟨⟩
  | cons n rest => rintro ⟨⟩

/-- A record is not decoded from a list that breaks off. -/
theorem elements_broken (f : Fault) (i : Nat) (slots : s.Slots) (fs : List s.Field)
    (ns : List Node) (slots' : s.Slots) : s.elements (some f) i slots fs ns ≠ .ok slots' := by
  fun_induction elements s (some f) i slots fs ns with
  | case1 i slots rest h => exact absurd h (afterFields_ne_none rest f)
  | case3 _ _ _ _ h => cases h
  | case2 | case4 | case5 => rintro ⟨⟩
  | case6 i slots g fs n rest v hv ih => exact ih

/-- A record is decoded from a closed node. -/
theorem decoder_closed {n : Node} {v : α} (h : s.decoder n = .ok v) : n.Closed := by
  unfold decoder at h
  split at h
  · next ms fault =>
    cases fault with
    | none => trivial
    | some f =>
      cases hm : s.members s.noSlots ms with
      | error e => rw [hm] at h; cases h
      | ok slots => rw [hm] at h; cases h
  · next ns fault =>
    cases fault with
    | none => trivial
    | some f =>
      split at h
      · cases h
      · next hs => exact (s.elements_broken _ _ _ _ _ _ hs).elim
  · exact absurd h (n.refuse_ne_ok _ v)

/-- `decodeWhole` is `decodeFirst` with only whitespace behind the value. -/
theorem decodeWhole_eq_ok {d : Decoder α} {input : List UInt8} {v : α} :
    decodeWhole d input = .ok v ↔
      d (read input).1 = .ok v ∧ (read input).2.all Token.isSpace = true := by
  rw [decodeWhole]
  cases hd : d (read input).1 with
  | error f => simp [hd]
  | ok a =>
    simp only [hd, Except.ok.injEq]
    split
    · next hr => simp [hr]
    · next hr => simp [hr]

/-- `read` of an accepted text followed by anything. -/
theorem read_append {taken : List UInt8} {v : α} (h : decodeWhole s.decoder taken = .ok v)
    (after : List UInt8) :
    read (taken ++ after) = ((read taken).1, (read taken).2 ++ after) := by
  obtain ⟨hd, -⟩ := decodeWhole_eq_ok.mp h
  obtain ⟨first, -, he, hread⟩ := readFrom_closed (s := .value []) rfl (s.decoder_closed hd)
  calc read (taken ++ after)
      = read (first ++ ((read taken).2 ++ after)) := by
        rw [← List.append_assoc]
        exact congrArg (fun x => read (x ++ after)) he
    _ = ((read taken).1, (read taken).2 ++ after) := hread _

/-- **`decodeFirst` accepts exactly the inputs with an accepted prefix.** -/
theorem decodeFirst_eq_ok {input : List UInt8} {v : α} :
    decodeFirst s.decoder input = .ok v ↔
      ∃ taken after, input = taken ++ after ∧ decodeWhole s.decoder taken = .ok v := by
  constructor
  · intro h
    obtain ⟨taken, -, he, hread⟩ := readFrom_closed (s := .value []) rfl (s.decoder_closed h)
    have hwhole : read taken = ((read input).1, []) := List.append_nil taken ▸ hread []
    refine ⟨taken, _, he, decodeWhole_eq_ok.mpr ?_⟩
    rw [hwhole]
    exact ⟨h, rfl⟩
  · rintro ⟨taken, after, rfl, h⟩
    rw [decodeFirst, s.read_append h]
    exact (decodeWhole_eq_ok.mp h).1

/-- `decodeWhole` of an accepted text followed by anything: trailing bytes are an error, unless they
are whitespace. -/
theorem decodeWhole_append {taken : List UInt8} {v : α} (h : decodeWhole s.decoder taken = .ok v)
    (after : List UInt8) : decodeWhole s.decoder (taken ++ after) =
      if after.all Token.isSpace then .ok v
      else .error (.here (.grammar .trailingCharacters)) := by
  obtain ⟨hd, hr⟩ := decodeWhole_eq_ok.mp h
  rw [decodeWhole, s.read_append h]
  simp only [hd, List.all_append, hr, Bool.true_and]

end Schema

theorem decodeWhole_of_error {α : Type} {d : Decoder α} {input : List UInt8} {f : Failure}
    (h : decodeFirst d input = .error f) : decodeWhole d input = .error f := by
  rw [decodeFirst] at h
  simp only [decodeWhole, h]

end Json

/-! ## Responses -/

namespace Attempt

theorem decode_eq_ok {α : Type} {d : Json.Decoder α} {stage : Stage} {response : Http.Response}
    {v : α} : decode stage d response = Procedure.done (.ok v) ↔
      Json.decodeFirst d response.body = .ok v := by
  unfold decode
  cases Json.decodeFirst d response.body with
  | error f => constructor <;> rintro ⟨⟩
  | ok a => constructor <;> rintro ⟨⟩ <;> rfl

theorem decode_eq_error {α : Type} {d : Json.Decoder α} {stage : Stage}
    {response : Http.Response} {e : Error} :
    decode stage d response = Procedure.done (.error e) ↔
      ∃ f, e = .responseParse stage response.status f ∧
        Json.decodeFirst d response.body = .error f := by
  unfold decode
  cases Json.decodeFirst d response.body with
  | error f =>
    constructor
    · rintro ⟨⟩
      exact ⟨f, rfl, rfl⟩
    · rintro ⟨_, rfl, ⟨⟩⟩
      rfl
  | ok a =>
    constructor
    · rintro ⟨⟩
    · rintro ⟨_, _, ⟨⟩⟩

/-- **Extent of a decoded body.** For every schema, stage and response: `Attempt.decode` returns `v`
if and only if a prefix of the body is `v` for `decodeWhole`; it fails with `responseParse` and the
failure of `decodeWhole` otherwise; and where it accepts, `decodeWhole` of the body fails for the
rest, unless that is whitespace. -/
theorem decode_extent {α : Type} (s : Json.Schema α) (stage : Stage) (response : Http.Response) :
    (∀ v, decode stage s.decoder response = Procedure.done (.ok v) ↔
      ∃ taken after, response.body = taken ++ after ∧
        Json.decodeWhole s.decoder taken = .ok v) ∧
    (∀ e, decode stage s.decoder response = Procedure.done (.error e) ↔
      ∃ f, e = .responseParse stage response.status f ∧
        Json.decodeWhole s.decoder response.body = .error f ∧
        ∀ taken after, response.body = taken ++ after → ∀ v,
          Json.decodeWhole s.decoder taken ≠ .ok v) ∧
    ∀ taken after v, response.body = taken ++ after → Json.decodeWhole s.decoder taken = .ok v →
      Json.decodeWhole s.decoder response.body =
        if after.all Json.Token.isSpace then .ok v
        else .error (.here (.grammar .trailingCharacters)) := by
  refine ⟨fun v => decode_eq_ok.trans s.decodeFirst_eq_ok, fun e => decode_eq_error.trans ?_,
    fun taken after v hb hv => hb ▸ s.decodeWhole_append hv after⟩
  refine exists_congr fun f => and_congr_right fun _ => ⟨fun hf => ?_, fun ⟨hf, hnone⟩ => ?_⟩
  · refine ⟨Json.decodeWhole_of_error hf, fun taken after hb v hv => ?_⟩
    have := s.decodeFirst_eq_ok.mpr ⟨taken, after, hb, hv⟩
    rw [hf] at this
    cases this
  · cases hd : Json.decodeFirst s.decoder response.body with
    | error g => rw [← Json.decodeWhole_of_error hd, hf]
    | ok v =>
      obtain ⟨taken, after, hb, hv⟩ := s.decodeFirst_eq_ok.mp hd
      exact absurd hv (hnone taken after hb v)

/-- A response whose body is `{} x`. -/
def trailingAnswer : Http.Response := { status := 200, body := [0x7b, 0x7d, 0x20, 0x78] }

/-- **Trailing bytes are accepted**, where `decodeWhole` refuses them. -/
theorem accepts_trailing :
    decode .lookupApplications ApplicationPage.decoder trailingAnswer =
      Procedure.done (.ok ⟨none, none⟩) ∧
    Json.decodeWhole ApplicationPage.decoder trailingAnswer.body =
      .error (.here (.grammar .trailingCharacters)) := by
  have hread : Json.read trailingAnswer.body = (.object [] none, [0x20, 0x78]) := by
    rw [Json.read, Json.readFrom_token (t := .openBrace) rfl]
    exact Json.readFrom_token (t := .closeBrace) rfl _
  constructor
  · rw [decode, Json.decodeFirst, hread]
    rfl
  · rw [Json.decodeWhole, hread]
    rfl

end Attempt

end TenantApps
