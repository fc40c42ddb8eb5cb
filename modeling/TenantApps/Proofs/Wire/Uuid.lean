import TenantApps.Tenant.Directory

/-!
# `TenantApps.Proofs.Wire.Uuid` — `Uuid` round trip

`Uuid.parse` is a left inverse of `Uuid.text`. A location that ends with the text of a `Uuid` is
read as that `Uuid` or refused.

## Contents
- `Uuid.mem_hyphenated` and `Uuid.length_hyphenated`, the hyphenated form.
- `Uuid.parse_text`, **the round trip**, and `Uuid.text_injective`.
- `applicationId_of_suffix`, locations that end with a `Uuid`.
-/

namespace TenantApps

namespace Text

/-- `split` at the first separator. -/
theorem split_append {sep : Char} {xs : List Char} (ys : List Char) (h : sep ∉ xs) :
    split sep (xs ++ sep :: ys) = xs :: split sep ys := by
  rw [split_append_split, split_of_not_mem h]
  rfl

/-- A suffix without a separator is a suffix of the last part. -/
theorem afterLast_suffix {sep : Char} {xs ys : List Char} (hs : ys <:+ xs) (h : sep ∉ ys) :
    ys <:+ afterLast sep xs := by
  obtain ⟨zs, rfl⟩ := hs
  have hr : ∀ c ∈ ys.reverse, decide (c ≠ sep) = true := by
    intro c hc
    exact decide_eq_true fun he => h (he ▸ List.mem_reverse.mp hc)
  rw [afterLast, List.reverse_append, List.takeWhile_append_of_pos hr, List.reverse_append,
    List.reverse_reverse]
  exact List.suffix_append _ _

/-- `afterLast` behind the last separator. -/
theorem afterLast_append {sep : Char} (xs : List Char) {ys : List Char} (h : sep ∉ ys) :
    afterLast sep (xs ++ sep :: ys) = ys := by
  have hr : ∀ c ∈ ys.reverse, decide (c ≠ sep) = true := by
    intro c hc
    exact decide_eq_true fun he => h (he ▸ List.mem_reverse.mp hc)
  rw [afterLast, List.reverse_append, List.reverse_cons, List.append_assoc, List.singleton_append,
    List.takeWhile_append_of_pos hr, List.takeWhile_cons_of_neg (by simp), List.append_nil,
    List.reverse_reverse]

end Text

namespace Uuid

/-! ## The hyphenated form -/

theorem lower_spec : ∀ n < 16, digit? (Hex.lower n) = some (Fin.ofNat 16 n) ∧
    (Hex.lower n).utf8Size = 1 ∧ Hex.lower n ≠ '-' ∧ Hex.lower n ≠ '/' ∧ Hex.lower n ≠ '}' := by
  decide

/-- Its characters are hyphens and digits. -/
theorem mem_hyphenated {u : Uuid} {c : Char} (h : c ∈ u.hyphenated) : c = '-' ∨ c ∈ u.chars := by
  simp only [hyphenated, List.cons_append, List.append_assoc, List.mem_append, List.mem_cons] at h
  rcases h with h | h | h | h | h | h | h | h | h
  · exact .inr (List.mem_of_mem_take h)
  · exact .inl h
  · exact .inr (List.mem_of_mem_drop (List.mem_of_mem_take h))
  · exact .inl h
  · exact .inr (List.mem_of_mem_drop (List.mem_of_mem_take h))
  · exact .inl h
  · exact .inr (List.mem_of_mem_drop (List.mem_of_mem_take h))
  · exact .inl h
  · exact .inr (List.mem_of_mem_drop h)

theorem mem_chars {u : Uuid} {c : Char} (h : c ∈ u.chars) :
    c.utf8Size = 1 ∧ c ≠ '-' ∧ c ≠ '/' ∧ c ≠ '}' := by
  obtain ⟨d, -, rfl⟩ := List.mem_map.mp h
  exact (lower_spec d.val d.isLt).2

theorem length_chars (u : Uuid) : u.chars.length = 32 := by
  rw [chars, List.length_map, u.length_digits]

theorem length_hyphenated (u : Uuid) : u.hyphenated.length = 36 := by
  simp [hyphenated, length_chars]

/-- The hyphen behind the first group. -/
theorem hyphen_suffix (u : Uuid) : '-' :: u.hyphenated.drop 9 <:+ u.hyphenated := by
  have h : u.hyphenated = u.chars.take 8 ++ '-' :: u.hyphenated.drop 9 := by
    have hl : (u.chars.take 8).length = 8 := by simp [length_chars]
    simp [hyphenated, List.drop_append, hl]
  exact ⟨_, h.symm⟩

/-- The text of a `Uuid` is one path segment. -/
theorem slash_not_mem (u : Uuid) : '/' ∉ u.hyphenated := by
  intro h
  rcases mem_hyphenated h with h | h
  · cases h
  · exact (mem_chars h).2.2.1 rfl

theorem brace_not_mem (u : Uuid) : '}' ∉ u.hyphenated := by
  intro h
  rcases mem_hyphenated h with h | h
  · cases h
  · exact (mem_chars h).2.2.2 rfl

theorem byteLength_of_ascii {cs : List Char} (h : ∀ c ∈ cs, c.utf8Size = 1) :
    byteLength cs = cs.length := by
  induction cs with
  | nil => rfl
  | cons c cs ih =>
    rw [byteLength, h c List.mem_cons_self, ih fun c hc => h c (List.mem_cons_of_mem _ hc),
      List.length_cons, Nat.add_comm]

theorem byteLength_hyphenated (u : Uuid) : byteLength u.hyphenated = 36 := by
  rw [byteLength_of_ascii, length_hyphenated]
  intro c hc
  rcases mem_hyphenated hc with rfl | hc
  · rfl
  · exact (mem_chars hc).1

/-! ## Parsing it -/

theorem mapM_digit? (ds : List (Fin 16)) :
    (ds.map fun d => Hex.lower d.val).mapM digit? = some ds := by
  induction ds with
  | nil => rfl
  | cons d ds ih =>
    have hd : digit? (Hex.lower d.val) = some d := by
      rw [(lower_spec d.val d.isLt).1, Fin.ofNat_val_eq_self]
    rw [List.map_cons, List.mapM_cons, hd, ih]
    rfl

theorem ofDigits?_chars (u : Uuid) : ofDigits? u.chars = some u := by
  rw [ofDigits?, chars, mapM_digit?]
  exact dif_pos u.length_digits

/-- Its five groups. -/
theorem split_hyphenated (u : Uuid) : Text.split '-' u.hyphenated =
    [u.chars.take 8, (u.chars.drop 8).take 4, (u.chars.drop 12).take 4, (u.chars.drop 16).take 4,
      u.chars.drop 20] := by
  have hyphen {cs : List Char} (h : ∀ c ∈ cs, c ∈ u.chars) : '-' ∉ cs := fun hc =>
    (mem_chars (h _ hc)).2.1 rfl
  simp only [hyphenated, List.cons_append, List.append_assoc]
  rw [Text.split_append _ (hyphen fun c => List.mem_of_mem_take),
    Text.split_append _ (hyphen fun c h => List.mem_of_mem_drop (List.mem_of_mem_take h)),
    Text.split_append _ (hyphen fun c h => List.mem_of_mem_drop (List.mem_of_mem_take h)),
    Text.split_append _ (hyphen fun c h => List.mem_of_mem_drop (List.mem_of_mem_take h)),
    Text.split_of_not_mem (hyphen fun c => List.mem_of_mem_drop)]

theorem ofGroups?_hyphenated (u : Uuid) : ofGroups? u.hyphenated = some u := by
  have hlengths : [u.chars.take 8, (u.chars.drop 8).take 4, (u.chars.drop 12).take 4,
      (u.chars.drop 16).take 4, u.chars.drop 20].map List.length = [8, 4, 4, 4, 12] := by
    simp [length_chars]
  have hflat : [u.chars.take 8, (u.chars.drop 8).take 4, (u.chars.drop 12).take 4,
      (u.chars.drop 16).take 4, u.chars.drop 20].flatten = u.chars := by
    have hnext (k : Nat) : (u.chars.drop k).take 4 ++ u.chars.drop (k + 4) = u.chars.drop k := by
      rw [← List.drop_drop, List.take_append_drop]
    simp only [List.flatten_cons, List.flatten_nil, List.append_nil]
    rw [hnext 16, hnext 12, hnext 8, List.take_append_drop]
  simp only [ofGroups?, split_hyphenated]
  rw [if_pos hlengths, hflat, ofDigits?_chars]

/-- `core` of the hyphenated form. -/
theorem core_hyphenated (u : Uuid) : core u.hyphenated = u.hyphenated := by
  rw [core, byteLength_hyphenated]
  cases unbraced? u.hyphenated <;> cases afterUrn? u.hyphenated <;> rfl

/-- **`parse` is a left inverse of `text`.** -/
theorem parse_text (u : Uuid) : parse u.text = .ok u := by
  simp only [parse, text, String.toList_ofList, byteLength_hyphenated, core_hyphenated,
    ofGroups?_hyphenated]
  rfl

theorem text_injective {u v : Uuid} (h : u.text = v.text) : u = v := by
  have hu := parse_text u
  rw [h, parse_text] at hu
  cases hu
  rfl

/-! ## Texts that end with it -/

theorem mapM_digit?_eq_some {cs : List Char} {ds : List (Fin 16)}
    (h : cs.mapM digit? = some ds) : cs.length = ds.length ∧ '-' ∉ cs := by
  induction cs generalizing ds with
  | nil =>
    cases h
    exact ⟨rfl, List.not_mem_nil⟩
  | cons c cs ih =>
    rw [List.mapM_cons] at h
    obtain ⟨d, hd, h⟩ := Option.bind_eq_some_iff.mp h
    obtain ⟨es, hes, h⟩ := Option.bind_eq_some_iff.mp h
    cases h
    obtain ⟨hlength, hyphen⟩ := ih hes
    refine ⟨by rw [List.length_cons, List.length_cons, hlength], ?_⟩
    rw [List.mem_cons, not_or]
    refine ⟨?_, hyphen⟩
    rintro rfl
    cases hd

theorem ofDigits?_eq_some {cs : List Char} {u : Uuid} (h : ofDigits? cs = some u) :
    cs.length = 32 ∧ '-' ∉ cs := by
  unfold ofDigits? at h
  split at h
  · next ds hds =>
    split at h
    · next hl =>
      obtain ⟨hlength, hyphen⟩ := mapM_digit?_eq_some hds
      exact ⟨hlength.trans hl, hyphen⟩
    · cases h
  · cases h

theorem ofGroups?_eq_some {cs : List Char} {u : Uuid} (h : ofGroups? cs = some u) :
    cs.length = 36 := by
  rw [ofGroups?] at h
  split at h
  · next hl =>
    -- there are five groups, and hyphens join them
    have hjoin := Text.join_split '-' cs
    rcases hs : Text.split '-' cs with
        _ | ⟨a, _ | ⟨b, _ | ⟨c, _ | ⟨d, _ | ⟨e, _ | ⟨f, rest⟩⟩⟩⟩⟩⟩ <;>
      rw [hs] at hl hjoin <;> simp only [List.map_cons, List.map_nil, List.cons.injEq,
        reduceCtorEq, and_false, and_true] at hl
    obtain ⟨ha, hb, hc, hd, he⟩ := hl
    rw [← hjoin]
    simp [Text.join, ha, hb, hc, hd, he]
  · cases h

theorem unbraced?_of_getLast? {cs : List Char} (h : cs.getLast? ≠ some '}') :
    unbraced? cs = none := by
  rw [unbraced?.eq_def]
  split
  · next rest =>
    refine if_neg fun hrest => h ?_
    rw [List.getLast?_cons, hrest]
    rfl
  · rfl

/-- A text that ends with a `Uuid` is not in braces. -/
theorem unbraced?_of_suffix {u : Uuid} {cs : List Char} (h : u.hyphenated <:+ cs) :
    unbraced? cs = none := by
  obtain ⟨pre, rfl⟩ := h
  have hne : u.hyphenated ≠ [] := by
    intro hn
    have hl := length_hyphenated u
    rw [hn] at hl
    cases hl
  refine unbraced?_of_getLast? fun hlast => ?_
  rw [List.getLast?_append, List.getLast?_eq_some_getLast hne, Option.some_or] at hlast
  exact brace_not_mem u (Option.some.inj hlast ▸ List.getLast_mem hne)

theorem core_suffix {cs : List Char} (h : unbraced? cs = none) : core cs <:+ cs := by
  rw [core, h]
  split
  · contradiction
  · next rest hr =>
    unfold afterUrn? at hr
    split at hr
    · cases hr
      exact List.drop_suffix _ _
    · cases hr
  · exact List.suffix_refl _

/-- If such a text is parsed, the result is that `Uuid`. -/
theorem eq_of_suffix {u v : Uuid} {s : String} (hs : u.hyphenated <:+ s.toList)
    (h : parse s = .ok v) : v = u := by
  have hcore := core_suffix (unbraced?_of_suffix hs)
  -- the part that is read and the written form both end the text, so one ends the other
  have hbody : ∀ w, (if byteLength (core s.toList) = 32 then ofDigits? (core s.toList)
      else ofGroups? (core s.toList)) = some w → w = u := by
    intro w hw
    split at hw
    · -- 32 digits would end with a hyphen and the digits behind it
      obtain ⟨hlength, hyphen⟩ := ofDigits?_eq_some hw
      have hsuffix := List.suffix_of_suffix_length_le hcore hs
        (by rw [hlength, length_hyphenated]; decide)
      have htail : '-' :: u.hyphenated.drop 9 <:+ u.hyphenated := hyphen_suffix u
      have hmem := List.suffix_of_suffix_length_le htail hsuffix
        (by rw [hlength, List.length_cons, List.length_drop, length_hyphenated]; decide)
      exact absurd (hmem.subset List.mem_cons_self) hyphen
    · have hlength := (ofGroups?_eq_some hw).trans (length_hyphenated u).symm
      have hsuffix := List.suffix_of_suffix_length_le hcore hs (Nat.le_of_eq hlength)
      rw [hsuffix.eq_of_length hlength, ofGroups?_hyphenated] at hw
      cases hw
      rfl
  simp only [parse] at h
  split at h
  · cases h
  · split at h
    · next w hw =>
      cases h
      exact hbody _ hw
    · cases h

end Uuid

/-- `applicationId` of a location that ends with a `Uuid` is that `Uuid`, or fails. -/
theorem applicationId_of_suffix {u v : Uuid} {place : String}
    (hs : u.text.toList <:+ place.toList) (h : applicationId (some place) = .ok v) : v = u := by
  rw [Uuid.text, String.toList_ofList] at hs
  have hlast : u.hyphenated <:+ (String.ofList (Text.afterLast '/' place.toList)).toList := by
    rw [String.toList_ofList]
    exact Text.afterLast_suffix hs u.slash_not_mem
  rw [applicationId, Option.getD_some] at h
  cases hp : Uuid.parse (String.ofList (Text.afterLast '/' place.toList)) with
  | error e =>
    simp only [hp] at h
    cases h
  | ok w =>
    simp only [hp] at h
    cases h
    exact Uuid.eq_of_suffix hlast hp

end TenantApps
