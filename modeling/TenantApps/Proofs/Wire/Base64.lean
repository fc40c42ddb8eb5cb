import TenantApps.Base64

/-!
# `TenantApps.Proofs.Wire.Base64` — Base64 round trip

`Base64.encode` writes groups of three bytes as four symbols of six bits, and pads the last group.

## Contents
- `Base64.alphabet`, the symbols in the order of their values, with `Base64.symbol_eq`.
- `Base64.Padded`, the grammar of encoded texts, and `Base64.padded_encode`.
- `Base64.decode_group`, one group, and `Base64.decode_encode`, **the round trip**.
-/

namespace TenantApps.Base64

/-! ## Symbols -/

/-- The 64 symbols, indexed by their values. -/
def alphabet : List Char :=
  "ABCDEFGHIJKLMNOPQRSTUVWXYZabcdefghijklmnopqrstuvwxyz0123456789+/".toList

theorem symbol_eq : ∀ n < 64, alphabet[n]? = some (symbol n) := by decide

theorem symbol_mem {n : Nat} (h : n < 64) : symbol n ∈ alphabet :=
  List.mem_of_getElem? (symbol_eq n h)

theorem symbol_ne_pad {n : Nat} (h : n < 64) : symbol n ≠ '=' := by
  intro he
  have hpad : '=' ∉ alphabet := by decide
  exact hpad (he ▸ symbol_mem h)

/-! ## The grammar -/

/-- **`Padded`**: groups of four symbols, the last one with up to two `=`. -/
inductive Padded : List Char → Prop
  | nil : Padded []
  /-- One byte. -/
  | one {p q : Char} (hp : p ∈ alphabet) (hq : q ∈ alphabet) : Padded [p, q, '=', '=']
  /-- Two bytes. -/
  | two {p q r : Char} (hp : p ∈ alphabet) (hq : q ∈ alphabet) (hr : r ∈ alphabet) :
    Padded [p, q, r, '=']
  /-- Three bytes. -/
  | group {p q r s : Char} {rest : List Char} (hp : p ∈ alphabet) (hq : q ∈ alphabet)
    (hr : r ∈ alphabet) (hs : s ∈ alphabet) (h : Padded rest) : Padded (p :: q :: r :: s :: rest)

theorem Padded.mem {cs : List Char} (h : Padded cs) {c : Char} (hc : c ∈ cs) :
    c ∈ '=' :: alphabet := by
  induction h with
  | nil => cases hc
  | one hp hq =>
    simp only [List.mem_cons, List.not_mem_nil, or_false] at hc ⊢
    rcases hc with rfl | rfl | rfl | rfl
    · exact .inr hp
    · exact .inr hq
    · exact .inl rfl
    · exact .inl rfl
  | two hp hq hr =>
    simp only [List.mem_cons, List.not_mem_nil, or_false] at hc ⊢
    rcases hc with rfl | rfl | rfl | rfl
    · exact .inr hp
    · exact .inr hq
    · exact .inr hr
    · exact .inl rfl
  | group hp hq hr hs _ ih =>
    simp only [List.mem_cons] at hc ih ⊢
    rcases hc with rfl | rfl | rfl | rfl | hc
    · exact .inr hp
    · exact .inr hq
    · exact .inr hr
    · exact .inr hs
    · exact ih hc

theorem padded_encode (bs : List UInt8) : Padded (encode bs) := by
  fun_induction encode bs with
  | case1 => exact .nil
  | case2 a =>
    have ha := a.toNat_lt
    exact .one (symbol_mem (by omega)) (symbol_mem (by omega))
  | case3 a b =>
    have ha := a.toNat_lt
    have hb := b.toNat_lt
    exact .two (symbol_mem (by omega)) (symbol_mem (by omega)) (symbol_mem (by omega))
  | case4 a b c rest ih =>
    have ha := a.toNat_lt
    have hb := b.toNat_lt
    have hc := c.toNat_lt
    exact .group (symbol_mem (by omega)) (symbol_mem (by omega)) (symbol_mem (by omega))
      (symbol_mem (by omega)) ih

/-! ## The round trip -/

/-- `decode` of one full group. -/
theorem decode_group {p q r s : Nat} (hp : p < 64) (hq : q < 64) (hr : r < 64) (hs : s < 64)
    (rest : List Char) : decode (symbol p :: symbol q :: symbol r :: symbol s :: rest) =
      (decode rest).map fun bytes => UInt8.ofNat (p * 4 + q / 16) ::
        UInt8.ofNat (q % 16 * 16 + r / 4) :: UInt8.ofNat (r % 4 * 64 + s) :: bytes := by
  rw [decode, if_neg fun h => symbol_ne_pad hr h.1, if_neg fun h => symbol_ne_pad hs h.1,
    value?_symbol p hp, value?_symbol q hq, value?_symbol r hr, value?_symbol s hs]
  cases decode rest <;> rfl

/-- **`decode` is a left inverse of `encode`.** -/
theorem decode_encode (bs : List UInt8) : decode (encode bs) = some bs := by
  have byte {n : Nat} {b : UInt8} (h : n = b.toNat) : UInt8.ofNat n = b := by
    rw [h, UInt8.ofNat_toNat]
  fun_induction encode bs with
  | case1 => rfl
  | case2 a =>
    have ha := a.toNat_lt
    have hfill : a.toNat % 4 * 16 % 16 = 0 := by omega
    have hbyte : a.toNat / 4 * 4 + a.toNat % 4 * 16 / 16 = a.toNat := by omega
    rw [decode, if_pos ⟨rfl, rfl, rfl⟩, value?_symbol _ (by omega), value?_symbol _ (by omega)]
    exact (if_pos hfill).trans (by rw [byte hbyte])
  | case3 a b =>
    have ha := a.toNat_lt
    have hb := b.toNat_lt
    have hfill : b.toNat % 16 * 4 % 4 = 0 := by omega
    have hfirst : a.toNat / 4 * 4 + (a.toNat % 4 * 16 + b.toNat / 16) / 16 = a.toNat := by omega
    have hsecond : (a.toNat % 4 * 16 + b.toNat / 16) % 16 * 16 + b.toNat % 16 * 4 / 4 =
        b.toNat := by omega
    rw [decode, if_neg fun h => symbol_ne_pad (by omega) h.1, if_pos ⟨rfl, rfl⟩,
      value?_symbol _ (by omega), value?_symbol _ (by omega), value?_symbol _ (by omega)]
    exact (if_pos hfill).trans (by rw [byte hfirst, byte hsecond])
  | case4 a b c rest ih =>
    have ha := a.toNat_lt
    have hb := b.toNat_lt
    have hc := c.toNat_lt
    have hfirst : a.toNat / 4 * 4 + (a.toNat % 4 * 16 + b.toNat / 16) / 16 = a.toNat := by omega
    have hsecond : (a.toNat % 4 * 16 + b.toNat / 16) % 16 * 16 +
        (b.toNat % 16 * 4 + c.toNat / 64) / 4 = b.toNat := by omega
    have hthird : (b.toNat % 16 * 4 + c.toNat / 64) % 4 * 64 + c.toNat % 64 = c.toNat := by omega
    rw [decode_group (by omega) (by omega) (by omega) (by omega), ih, byte hfirst, byte hsecond,
      byte hthird]
    rfl

end TenantApps.Base64
