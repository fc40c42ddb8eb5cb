import TenantApps.Json.Text

/-!
# `TenantApps.Proofs.Wire.Text` — JSON string round trip

A printed string is read up to its closing quote as the string that was printed, whatever follows.

## Contents
- `Utf8.ofChars`, the bytes of characters.
- `Json.Text.Escaped`, the spelling of one character; `Escaped.skip` and `Escaped.unescape`, how the
  readers consume it.
- `Json.Text.skip_escaped` and `Json.Text.read_escaped`, **the round trip**.
-/

namespace TenantApps

/-! ## UTF-8 -/

namespace Utf8

/-- The UTF-8 of a list of characters. -/
def ofChars (cs : List Char) : List UInt8 := cs.flatMap String.utf8EncodeChar

@[simp] theorem ofChars_nil : ofChars [] = [] := rfl

@[simp] theorem ofChars_cons (c : Char) (cs : List Char) :
    ofChars (c :: cs) = String.utf8EncodeChar c ++ ofChars cs := rfl

@[simp] theorem ofChars_append (cs ds : List Char) :
    ofChars (cs ++ ds) = ofChars cs ++ ofChars ds := List.flatMap_append

/-- `bytes` of a string is `ofChars` of its characters. -/
theorem bytes_ofList (cs : List Char) : bytes (String.ofList cs) = ofChars cs := by
  rw [bytes, String.toUTF8_eq_toByteArray, String.toByteArray_ofList, List.utf8Encode,
    List.data_toByteArray, ofChars]

/-- In the UTF-8 of a character, ASCII bytes stand for the character itself. -/
theorem mem_utf8EncodeChar {c : Char} {b : UInt8} (h : b ∈ String.utf8EncodeChar c) :
    b.toNat = c.toNat ∨ 0x80 ≤ b.toNat := by
  rw [String.utf8EncodeChar] at h
  have hc : c.val.toNat = c.toNat := rfl
  simp only [hc] at h
  split at h
  · left
    rw [List.mem_singleton] at h
    rw [h, UInt8.toNat_ofNat']
    omega
  · right
    split at h
    · simp only [List.mem_cons, List.not_mem_nil, or_false] at h
      rcases h with rfl | rfl <;> rw [UInt8.toNat_ofNat'] <;> omega
    · split at h
      · simp only [List.mem_cons, List.not_mem_nil, or_false] at h
        rcases h with rfl | rfl | rfl <;> rw [UInt8.toNat_ofNat'] <;> omega
      · simp only [List.mem_cons, List.not_mem_nil, or_false] at h
        rcases h with rfl | rfl | rfl | rfl <;> rw [UInt8.toNat_ofNat'] <;> omega

end Utf8

namespace Json.Text

/-! ## One character -/

/-- A byte that stands for itself between quotes. -/
def Literal (b : UInt8) : Prop := 0x20 ≤ b.toNat ∧ b.toNat ≠ 0x22 ∧ b.toNat ≠ 0x5c

theorem skip_literal {b : UInt8} (h : Literal b) (rest : List UInt8) :
    skip (b :: rest) = skip rest := by
  obtain ⟨hlow, hquote, hslash⟩ := h
  have hb : ¬b < 0x20 := by
    rw [UInt8.lt_iff_toNat_lt]
    exact Nat.not_lt.mpr hlow
  rw [skip.eq_def]
  split <;> rename_i he <;> cases he
  all_goals first
    | exact absurd rfl hquote
    | exact absurd rfl hslash
    | rw [if_neg hb]

theorem unescape_literal {b : UInt8} (h : Literal b) (rest out : List UInt8) :
    unescape (b :: rest) out = unescape rest (b :: out) := by
  obtain ⟨hlow, hquote, hslash⟩ := h
  have hb : ¬b < 0x20 := by
    rw [UInt8.lt_iff_toNat_lt]
    exact Nat.not_lt.mpr hlow
  rw [unescape.eq_def]
  split <;> rename_i he <;> cases he
  all_goals first
    | exact absurd rfl hquote
    | exact absurd rfl hslash
    | rw [if_neg hb]

theorem skip_literals {bs : List UInt8} (h : ∀ b ∈ bs, Literal b) (rest : List UInt8) :
    skip (bs ++ rest) = skip rest := by
  induction bs with
  | nil => rfl
  | cons b bs ih =>
    rw [List.cons_append, skip_literal (h b List.mem_cons_self),
      ih fun b hb => h b (List.mem_cons_of_mem _ hb)]

theorem unescape_literals {bs : List UInt8} (h : ∀ b ∈ bs, Literal b) (rest out : List UInt8) :
    unescape (bs ++ rest) out = unescape rest (bs.reverse ++ out) := by
  induction bs generalizing out with
  | nil => rfl
  | cons b bs ih =>
    rw [List.cons_append, unescape_literal (h b List.mem_cons_self),
      ih fun b hb => h b (List.mem_cons_of_mem _ hb), List.reverse_cons, List.append_assoc]
    rfl

/-- **`Escaped c bs`**: the spellings of a character between quotes. -/
inductive Escaped : Char → List UInt8 → Prop
  | literal {c} (h : ∀ b ∈ String.utf8EncodeChar c, Literal b) : Escaped c (String.utf8EncodeChar c)
  | letter {c e b} (hu : e ≠ 0x75) (he : letterEscape? e = some b)
    (hc : String.utf8EncodeChar c = [b]) : Escaped c [0x5c, e]
  | digits {c w x y z} (hd : fourDigits? w x y z = some c.toNat) (hc : c.toNat < 0xd800) :
    Escaped c [0x5c, 0x75, w, x, y, z]

theorem escaped_control : ∀ n < 0x20, fourDigits? 0x30 0x30
    (UInt8.ofNat (Hex.lower (n / 16)).toNat) (UInt8.ofNat (Hex.lower (n % 16)).toNat) = some n ∧
      Utf8.ofChars (Hex.lowerByte (UInt8.ofNat n)) =
        [UInt8.ofNat (Hex.lower (n / 16)).toNat, UInt8.ofNat (Hex.lower (n % 16)).toNat] := by
  decide

theorem escaped_escape (c : Char) : Escaped c (Utf8.ofChars (escape c)) := by
  rw [escape.eq_def]
  split
  · exact .letter (e := 0x22) (b := 0x22) (by decide) rfl rfl
  · exact .letter (e := 0x5c) (b := 0x5c) (by decide) rfl rfl
  · exact .letter (e := 0x62) (b := 0x08) (by decide) rfl rfl
  · exact .letter (e := 0x66) (b := 0x0c) (by decide) rfl rfl
  · exact .letter (e := 0x6e) (b := 0x0a) (by decide) rfl rfl
  · exact .letter (e := 0x72) (b := 0x0d) (by decide) rfl rfl
  · exact .letter (e := 0x74) (b := 0x09) (by decide) rfl rfl
  · next hquote hslash _ _ _ _ _ =>
    -- other controls are written by their code points, and all the rest as it is
    split
    · next hlow =>
      obtain ⟨hd, hbytes⟩ := escaped_control c.toNat hlow
      rw [Utf8.ofChars_append, hbytes]
      exact .digits hd (Nat.lt_trans hlow (by decide))
    · next hlow =>
      rw [Utf8.ofChars_cons, Utf8.ofChars_nil, List.append_nil]
      refine .literal ?_
      intro b hb
      have hc (d : Char) (hd : c ≠ d) : c.toNat ≠ d.toNat := fun he => hd (Char.toNat_inj.mp he)
      have hquote := hc '"' hquote
      have hslash := hc '\\' hslash
      rcases Utf8.mem_utf8EncodeChar hb with h | h
      · rw [Literal, h]
        exact ⟨Nat.not_lt.mp hlow, hquote, hslash⟩
      · exact ⟨by omega, by omega, by omega⟩

theorem skip_letter {e b : UInt8} (hu : e ≠ 0x75) (he : letterEscape? e = some b)
    (rest : List UInt8) : skip (0x5c :: e :: rest) = skip rest := by
  rw [skip.eq_def]
  split <;> rename_i hs <;> cases hs
  all_goals first
    | exact absurd rfl hu
    | rw [if_pos (by rw [he]; rfl)]
    | next hlast => exact (hlast _ _ rfl rfl).elim

theorem unescape_letter {e b : UInt8} (hu : e ≠ 0x75) (he : letterEscape? e = some b)
    (rest out : List UInt8) :
    unescape (0x5c :: e :: rest) out = unescape rest (b :: out) := by
  rw [unescape.eq_def]
  split <;> rename_i hs <;> cases hs
  all_goals first
    | exact absurd rfl hu
    | simp only [he]
    | next hlast => exact (hlast _ _ rfl rfl).elim

/-- `skip` passes over a spelling. -/
theorem Escaped.skip {c : Char} {bs : List UInt8} (h : Escaped c bs) (rest : List UInt8) :
    Text.skip (bs ++ rest) = Text.skip rest := by
  cases h with
  | literal h => exact skip_literals h rest
  | letter hu he hc => exact skip_letter hu he rest
  | digits hd hc =>
    simp only [List.cons_append, List.nil_append, Text.skip, hd, Option.isSome_some, if_true]

/-- `unescape` decodes a spelling. -/
theorem Escaped.unescape {c : Char} {bs : List UInt8} (h : Escaped c bs) (rest out : List UInt8) :
    Text.unescape (bs ++ rest) out =
      Text.unescape rest ((String.utf8EncodeChar c).reverse ++ out) := by
  cases h with
  | literal h => exact unescape_literals h rest out
  | letter hu he hc =>
    rw [hc]
    exact unescape_letter hu he rest out
  | digits hd hc =>
    have hlow : ¬(0xdc00 ≤ c.toNat ∧ c.toNat ≤ 0xdfff) := by omega
    have hpoint : codePointBytes c.toNat = String.utf8EncodeChar c := by
      rw [codePointBytes, Char.ofNat_toNat]
    simp only [List.cons_append, List.nil_append, Text.unescape, hd, if_neg hlow, hc, true_or,
      if_true, hpoint]

/-! ## A whole string -/

/-- The bytes of a printed string between its quotes. -/
def escaped (cs : List Char) : List UInt8 := Utf8.ofChars (cs.flatMap escape)

theorem escaped_cons (c : Char) (cs : List Char) :
    escaped (c :: cs) = Utf8.ofChars (escape c) ++ escaped cs := by
  rw [escaped, List.flatMap_cons, Utf8.ofChars_append, escaped]

/-- `skip` finds the closing quote. -/
theorem skip_escaped (cs : List Char) (rest : List UInt8) :
    skip (escaped cs ++ 0x22 :: rest) = .ok rest := by
  induction cs with
  | nil => rfl
  | cons c cs ih => rw [escaped_cons, List.append_assoc, (escaped_escape c).skip, ih]

theorem unescape_escaped (cs : List Char) (rest out : List UInt8) :
    unescape (escaped cs ++ 0x22 :: rest) out = .ok (out.reverse ++ Utf8.ofChars cs, rest) := by
  induction cs generalizing out with
  | nil => rw [Utf8.ofChars_nil, List.append_nil]; rfl
  | cons c cs ih =>
    rw [escaped_cons, List.append_assoc, (escaped_escape c).unescape, ih, List.reverse_append,
      List.reverse_reverse, List.append_assoc, Utf8.ofChars_cons]

/-- **`read` is a left inverse of printing.** -/
theorem read_escaped (cs : List Char) (rest : List UInt8) :
    read (escaped cs ++ 0x22 :: rest) = .ok (String.ofList cs) := by
  rw [read, unescape_escaped]
  simp only [List.reverse_nil, List.nil_append, ← Utf8.bytes_ofList, Utf8.ofBytes?_bytes]

end Json.Text

end TenantApps
