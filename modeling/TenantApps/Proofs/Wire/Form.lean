import TenantApps.Form

/-!
# `TenantApps.Proofs.Wire.Form` — form-urlencoding round trip

An encoded component has neither `&` nor `=`, and decodes to the string that was encoded. So a
query of one encoded pair has exactly this pair, and an appended pair leaves the others as they are.

## Contents
- `Percent.decode_plain` and `Percent.decode_escape`, one step of decoding.
- `Form.decode_encode`, **the round trip** of a component.
- `Form.written`, the encoded pairs of a query, with `Form.written_append` and
  `Form.written_encodePair`.
- `Form.pairs_encodePair`, a query of one pair.
-/

namespace TenantApps

/-! ## Percent escapes -/

namespace Percent

/-- A character other than `%` stands for itself. -/
theorem decode_plain {c : Char} (h : c ≠ '%') (rest : List Char) :
    decode (c :: rest) = String.utf8EncodeChar c ++ decode rest := by
  rw [decode.eq_def]
  split
  · contradiction
  · next he =>
    cases he
    exact absurd rfl h
  · next he =>
    cases he
    rfl

/-- An escape stands for its byte. -/
theorem decode_escape (b : UInt8) (rest : List Char) :
    decode (escape b ++ rest) = b :: decode rest := by
  have hb := b.toNat_lt
  have h₁ := Hex.value?_upper (b.toNat / 16) (by omega)
  have h₂ := Hex.value?_upper (b.toNat % 16) (by omega)
  have hn : 16 * (b.toNat / 16) + b.toNat % 16 = b.toNat := by omega
  simp only [escape, Hex.upperByte, List.cons_append, List.nil_append, decode, h₁, h₂, hn,
    UInt8.ofNat_toNat]

end Percent

namespace Form

/-! ## Components -/

/-- `+` stands for a blank. -/
def unplus (c : Char) : Char := if c = '+' then ' ' else c

/-- Plain characters are ASCII, and neither `+` nor `%`. -/
theorem isPlain_spec : ∀ n < 256, isPlain (Char.ofNat n) = true →
    String.utf8EncodeChar (Char.ofNat n) = [UInt8.ofNat n] ∧ Char.ofNat n ≠ '+' ∧
      Char.ofNat n ≠ '%' := by
  decide +kernel

theorem escape_unplus : ∀ n < 256, (Percent.escape (UInt8.ofNat n)).map unplus =
    Percent.escape (UInt8.ofNat n) := by
  decide +kernel

/-- The alphabet of an encoded byte. -/
theorem mem_encodeByte {b : UInt8} {c : Char} (h : c ∈ encodeByte b) :
    isPlain c = true ∨ c = '+' ∨ c = '%' := by
  have hdigit : ∀ n < 16, isPlain (Hex.upper n) = true := by decide
  have hb := b.toNat_lt
  unfold encodeByte at h
  dsimp only at h
  split at h
  · next hp =>
    rw [List.mem_singleton.mp h]
    exact .inl hp
  · split at h
    · exact .inr (.inl (List.mem_singleton.mp h))
    · rw [Percent.escape, Hex.upperByte, List.mem_cons, List.mem_cons, List.mem_singleton] at h
      obtain rfl | rfl | rfl := h
      · exact .inr (.inr rfl)
      · exact .inl (hdigit _ (by omega))
      · exact .inl (hdigit _ (by omega))

theorem mem_encode {s : String} {c : Char} (h : c ∈ encode s) :
    isPlain c = true ∨ c = '+' ∨ c = '%' := by
  obtain ⟨b, -, hb⟩ := List.mem_flatMap.mp h
  exact mem_encodeByte hb

theorem decode_encodeByte (b : UInt8) (rest : List Char) :
    Percent.decode ((encodeByte b).map unplus ++ rest) = b :: Percent.decode rest := by
  have hlt := b.toNat_lt
  have hb : UInt8.ofNat b.toNat = b := UInt8.ofNat_toNat
  unfold encodeByte
  by_cases hp : isPlain (Char.ofNat b.toNat) = true
  · -- the byte stands for itself
    obtain ⟨hutf, hplus, hpercent⟩ := isPlain_spec b.toNat hlt hp
    rw [hb] at hutf
    rw [if_pos hp, List.map_singleton, unplus, if_neg hplus, List.singleton_append,
      Percent.decode_plain hpercent, hutf, List.singleton_append]
  · rw [if_neg hp]
    by_cases hs : b = 0x20
    · rw [if_pos hs, hs]
      exact Percent.decode_plain (c := ' ') (by decide) rest
    · have hm := escape_unplus b.toNat hlt
      rw [hb] at hm
      rw [if_neg hs, hm, Percent.decode_escape]

theorem decode_encodeBytes (bs : List UInt8) :
    Percent.decode ((bs.flatMap encodeByte).map unplus) = bs := by
  induction bs with
  | nil => rw [List.flatMap_nil, List.map_nil, Percent.decode]
  | cons b bs ih => rw [List.flatMap_cons, List.map_append, decode_encodeByte, ih]

/-- **`decode` is a left inverse of `encode`.** -/
theorem decode_encode (s : String) : decode (encode s) = some s := by
  show Utf8.ofBytes? (Percent.decode (((Utf8.bytes s).flatMap encodeByte).map unplus)) = some s
  rw [decode_encodeBytes, Utf8.ofBytes?_bytes]

/-- An encoded component has no separator. -/
theorem encode_separators (s : String) : '&' ∉ encode s ∧ '=' ∉ encode s :=
  ⟨fun h => absurd (mem_encode h) (by decide), fun h => absurd (mem_encode h) (by decide)⟩

/-- `encode` is injective. -/
theorem encode_injective {s t : String} (h : encode s = encode t) : s = t := by
  have hs := decode_encode s
  rw [h, decode_encode] at hs
  exact (Option.some.inj hs).symm

/-! ## Pairs -/

/-- The encoded pairs of a query: the non-empty parts between `&`, each split at its first `=`. -/
def written (query : List Char) : List (List Char × List Char) :=
  ((Text.split '&' query).filter (· ≠ [])).map fun part =>
    (part.takeWhile (· ≠ '='), (part.dropWhile (· ≠ '=')).drop 1)

theorem pairs_eq (query : List Char) :
    pairs query = (written query).map fun pair => (decode pair.1, decode pair.2) := by
  rw [pairs, written, List.map_map]
  rfl

/-- `written` of two queries joined by `&`. -/
theorem written_append (query query' : List Char) :
    written (query ++ '&' :: query') = written query ++ written query' := by
  rw [written, Text.split_append_split, List.filter_append, List.map_append]
  rfl

/-- `written` of one encoded pair. -/
theorem written_encodePair (name value : String) :
    written (encodePair name value) = [(encode name, encode value)] := by
  have hsplit : Text.split '&' (encodePair name value) = [encodePair name value] := by
    apply Text.split_of_not_mem
    intro h
    rcases List.mem_append.mp h with h | h
    · exact (encode_separators name).1 h
    · rcases List.mem_cons.mp h with h | h
      · cases h
      · exact (encode_separators value).1 h
  have hne : encodePair name value ≠ [] :=
    List.append_ne_nil_of_right_ne_nil _ (List.cons_ne_nil _ _)
  have hname : ∀ c ∈ encode name, decide (c ≠ '=') = true := by
    intro c hc
    exact decide_eq_true fun he => (encode_separators name).2 (he ▸ hc)
  have htake : (encodePair name value).takeWhile (· ≠ '=') = encode name := by
    rw [encodePair, List.takeWhile_append_of_pos hname, List.takeWhile_cons_of_neg (by decide),
      List.append_nil]
  have hdrop : (encodePair name value).dropWhile (· ≠ '=') = '=' :: encode value := by
    rw [encodePair, List.dropWhile_append_of_pos hname, List.dropWhile_cons_of_neg (by decide)]
  rw [written, hsplit, List.filter_cons_of_pos (by simpa using hne), List.filter_nil,
    List.map_singleton, htake, hdrop, List.drop_one, List.tail_cons]

theorem pairs_encodePair (name value : String) :
    pairs (encodePair name value) = [(some name, some value)] := by
  rw [pairs_eq, written_encodePair, List.map_singleton, decode_encode, decode_encode]

end Form

end TenantApps
