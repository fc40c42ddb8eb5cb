import Mathlib.Data.List.TakeWhile
import TenantApps.Proofs.Tenant.Endpoints
import TenantApps.Proofs.Wire.Uuid

/-!
# `TenantApps.Proofs.Tenant.Location` — reading and writing the `Uuid` of an application

`applicationId` reads the text behind the last slash of a `location` header as a `Uuid`, in one of
four forms with digits of either case; everything else is refused. `Directory.place` writes the
lower-case hyphenated form behind the Applications URL, and `applicationId` is a left inverse of it.

## Contents
- `Text.LastPart`, the text behind the last separator, and `Text.afterLast_eq`.
- `Uuid.toLower_spec`, the properties of `Char.toLower` that the parser depends on.
- `Uuid.ofDigits?_eq_some_iff` and `ofGroups?_eq_some_iff`, digits and groups in either case.
- `Uuid.Form`, the grammar, and `Uuid.parse_eq_ok`, **soundness and completeness of the parser**.
- `applicationId_of_lastPart` and `applicationId_eq_ok`, the `Uuid` of a location.
- `Client.place_text`, `place_injective` and `applicationId_place`, the location of a `Uuid`.
- `applicationId_place_inverse`, the **main result**, and `applicationId_scheme_upper`, the URN form
  in upper case.
-/

namespace TenantApps

namespace Text

/-- **`LastPart sep cs last`**: `last` is the text behind the last `sep` in `cs`, or all of `cs`. -/
structure LastPart (sep : Char) (cs last : List Char) : Prop where
  not_mem : sep ∉ last
  whole_or_behind : cs = last ∨ ∃ front, cs = front ++ sep :: last

theorem afterLast_eq {sep : Char} {cs last : List Char} (h : LastPart sep cs last) :
    afterLast sep cs = last := by
  obtain ⟨hmem, rfl | ⟨front, rfl⟩⟩ := h
  · have hall : ∀ c ∈ cs.reverse, decide (c ≠ sep) = true := by
      intro c hc
      exact decide_eq_true fun he => hmem (he ▸ List.mem_reverse.mp hc)
    rw [afterLast, List.takeWhile_eq_self_iff.mpr hall, List.reverse_reverse]
  · exact afterLast_append front hmem

theorem lastPart_afterLast (sep : Char) (cs : List Char) : LastPart sep cs (afterLast sep cs) := by
  have hcs : cs = (cs.reverse.dropWhile (· ≠ sep)).reverse ++ afterLast sep cs := by
    rw [afterLast, ← List.reverse_append, List.takeWhile_append_dropWhile, List.reverse_reverse]
  refine ⟨fun hmem => ?_, ?_⟩
  · have := List.mem_takeWhile_imp (List.mem_reverse.mp hmem)
    simp at this
  · cases hd : cs.reverse.dropWhile (· ≠ sep) with
    | nil =>
      left
      rw [hd] at hcs
      exact hcs
    | cons c rest =>
      right
      have hc : c = sep := by
        have := List.head?_dropWhile_not (· ≠ sep) cs.reverse
        rw [hd] at this
        simpa using this
      rw [hd, hc, List.reverse_cons, List.append_assoc] at hcs
      exact ⟨rest.reverse, hcs⟩

end Text

/-! ## Lower case -/

namespace Uuid

/-- `Char.toLower` is the identity outside of ASCII. -/
theorem toLower_of_le {c : Char} (h : 128 ≤ c.toNat) : c.toLower = c := by
  refine dif_neg fun hc => ?_
  have hle : c.toNat ≤ 90 := UInt32.le_iff_toNat_le.mp hc.2
  omega

theorem toLower_of_lt : ∀ n < 128, (Char.ofNat n).toLower.utf8Size = (Char.ofNat n).utf8Size ∧
    (Char.ofNat n).toLower.toLower = (Char.ofNat n).toLower ∧
    ((Char.ofNat n).toLower = '-' ↔ Char.ofNat n = '-') ∧
    ∀ d < 16, Hex.value? (Char.ofNat n) = some d ↔ (Char.ofNat n).toLower = Hex.lower d := by
  decide +kernel

theorem value?_of_le {c : Char} (h : 128 ≤ c.toNat) : Hex.value? c = none := by
  have hle {d : Char} (hd : d.toNat < 128) : ¬c ≤ d := fun hcd =>
    absurd (UInt32.le_iff_toNat_le.mp hcd) (Nat.not_le.mpr (Nat.lt_of_lt_of_le hd h))
  simp [Hex.value?, hle]

theorem digit?_eq_some_iff {c : Char} {d : Fin 16} :
    digit? c = some d ↔ Hex.value? c = some d.val := by
  unfold digit?
  cases Hex.value? c with
  | none => simp
  | some n =>
    by_cases hn : n < 16
    · simp [hn, Fin.ext_iff]
    · have hd : n ≠ d.val := fun he => hn (he ▸ d.isLt)
      simp [hn, hd]

/-- `Char.toLower` keeps the size, is idempotent, keeps hyphens, and agrees with `digit?`. -/
theorem toLower_spec (c : Char) : c.toLower.utf8Size = c.utf8Size ∧
    c.toLower.toLower = c.toLower ∧ (c.toLower = '-' ↔ c = '-') ∧
    ∀ d : Fin 16, digit? c = some d ↔ c.toLower = Hex.lower d.val := by
  simp only [digit?_eq_some_iff]
  by_cases h : c.toNat < 128
  · have := toLower_of_lt c.toNat h
    rw [Char.ofNat_toNat] at this
    exact ⟨this.1, this.2.1, this.2.2.1, fun d => this.2.2.2 d.val d.isLt⟩
  · have h : 128 ≤ c.toNat := Nat.not_lt.mp h
    rw [toLower_of_le h, toLower_of_le h, value?_of_le h]
    refine ⟨rfl, rfl, .rfl, fun d => iff_of_false nofun ?_⟩
    have hlower : ∀ n < 16, (Hex.lower n).toNat < 128 := by decide
    rintro rfl
    exact absurd (hlower d.val d.isLt) (Nat.not_lt.mpr h)

theorem byteLength_toLower (cs : List Char) : byteLength (cs.map Char.toLower) = byteLength cs := by
  induction cs with
  | nil => rfl
  | cons c cs ih => rw [List.map_cons, byteLength, byteLength, ih, (toLower_spec c).1]

/-- `Text.split '-'` commutes with `Char.toLower`. -/
theorem split_toLower (cs : List Char) :
    Text.split '-' (cs.map Char.toLower) = (Text.split '-' cs).map (List.map Char.toLower) := by
  induction cs with
  | nil => rfl
  | cons c cs ih =>
    rw [List.map_cons, Text.split, Text.split, ih]
    have hyphen := (toLower_spec c).2.2.1
    by_cases hc : c = '-'
    · rw [if_pos hc, if_pos (hyphen.mpr hc)]
      rfl
    · rw [if_neg hc, if_neg fun h => hc (hyphen.mp h)]
      cases Text.split '-' cs <;> rfl

/-! ## Digits and groups -/

variable {u : Uuid} {cs : List Char}

/-- `ofDigits?` reads the 32 digits of `u` in either case. -/
theorem ofDigits?_eq_some_iff : ofDigits? cs = some u ↔ cs.map Char.toLower = u.chars := by
  have hmapM (ds : List (Fin 16)) : cs.mapM digit? = some ds ↔
      cs.map Char.toLower = ds.map fun d => Hex.lower d.val := by
    induction cs generalizing ds with
    | nil => cases ds <;> simp
    | cons c cs ih =>
      rw [List.mapM_cons]
      cases ds with
      | nil => simp [Option.bind_eq_some_iff]
      | cons d ds => simp [Option.bind_eq_some_iff, ← ih, ← (toLower_spec c).2.2.2]
  rw [chars, ← hmapM, ofDigits?]
  constructor
  · intro h
    split at h
    · next ds hds =>
      split at h
      · cases h
        exact hds
      · cases h
    · cases h
  · intro h
    rw [h]
    exact dif_pos u.length_digits

theorem toLower_toLower (cs : List Char) :
    (cs.map Char.toLower).map Char.toLower = cs.map Char.toLower := by
  rw [List.map_map]
  exact List.map_congr_left fun c _ => (toLower_spec c).2.1

theorem ofDigits?_toLower (cs : List Char) : ofDigits? (cs.map Char.toLower) = ofDigits? cs := by
  refine Option.ext fun u => ?_
  rw [ofDigits?_eq_some_iff, ofDigits?_eq_some_iff, toLower_toLower]

theorem ofGroups?_toLower (cs : List Char) : ofGroups? (cs.map Char.toLower) = ofGroups? cs := by
  have hlengths : ((Text.split '-' cs).map (List.map Char.toLower)).map List.length =
      (Text.split '-' cs).map List.length := by
    rw [List.map_map]
    exact List.map_congr_left fun g _ => List.length_map Char.toLower
  simp only [ofGroups?, split_toLower, hlengths, ← List.map_flatten, ofDigits?_toLower]

/-- `ofGroups?` reads the hyphenated form of `u` in either case. -/
theorem ofGroups?_eq_some_iff : ofGroups? cs = some u ↔ cs.map Char.toLower = u.hyphenated := by
  rw [← ofGroups?_toLower]
  constructor
  · intro h
    rw [ofGroups?, split_toLower] at h
    split at h
    · next hl =>
      rw [ofDigits?_eq_some_iff, ← List.map_flatten, toLower_toLower, List.map_flatten] at h
      have hjoin := Text.join_split '-' (cs.map Char.toLower)
      rw [split_toLower] at hjoin
      rcases hs : (Text.split '-' cs).map (List.map Char.toLower) with
          _ | ⟨g₁, _ | ⟨g₂, _ | ⟨g₃, _ | ⟨g₄, _ | ⟨g₅, _ | ⟨g₆, rest⟩⟩⟩⟩⟩⟩ <;>
        rw [hs] at hl h hjoin <;> simp only [List.map_cons, List.map_nil, List.cons.injEq,
          reduceCtorEq, and_false, and_true] at hl
      obtain ⟨h₁, h₂, h₃, h₄, h₅⟩ := hl
      have hnil {g : List Char} {k : Nat} (hg : g.length ≤ k) : g.drop k = [] :=
        List.drop_eq_nil_of_le hg
      rw [← hjoin, hyphenated, ← h]
      simp [Text.join, h₁, h₂, h₃, h₄, List.drop_append, hnil]
    · cases h
  · intro h
    rw [h, ofGroups?_hyphenated]

/-! ## The grammar -/

/-- **Grammar of a `Uuid`**: its four forms, with digits of either case; `Scheme` are the spellings
of `urn:uuid:`. -/
inductive Form (Scheme : List Char → Prop) (u : Uuid) : List Char → Prop
  | digits {cs : List Char} (h : cs.map Char.toLower = u.chars) : Form Scheme u cs
  | groups {cs : List Char} (h : cs.map Char.toLower = u.hyphenated) : Form Scheme u cs
  | braces {cs : List Char} (h : cs.map Char.toLower = u.hyphenated) :
    Form Scheme u ('{' :: cs ++ ['}'])
  | named {name cs : List Char} (hname : Scheme name) (h : cs.map Char.toLower = u.hyphenated) :
    Form Scheme u (name ++ cs)

/-- `urn:uuid:` in either case. -/
def IsUrn (name : List Char) : Prop := name.map Char.toLower = urn

theorem unbraced?_eq_some {inner : List Char} (h : unbraced? cs = some inner) :
    cs = '{' :: inner ++ ['}'] := by
  unfold unbraced? at h
  split at h
  · next rest =>
    split at h
    · next hlast =>
      cases h
      obtain ⟨inner, rfl⟩ := List.getLast?_eq_some_iff.mp hlast
      rw [List.dropLast_concat]
      rfl
    · cases h
  · cases h

theorem unbraced?_braces (inner : List Char) : unbraced? ('{' :: inner ++ ['}']) = some inner := by
  rw [List.cons_append, unbraced?, List.getLast?_concat, if_pos rfl, List.dropLast_concat]

theorem afterUrn?_eq_some {rest : List Char} (h : afterUrn? cs = some rest) :
    ∃ name, IsUrn name ∧ cs = name ++ rest := by
  unfold afterUrn? at h
  split at h
  · next hs =>
    cases h
    exact ⟨cs.take 9, hs, (List.take_append_drop 9 cs).symm⟩
  · cases h

theorem afterUrn?_append {name : List Char} (h : IsUrn name) (rest : List Char) :
    afterUrn? (name ++ rest) = some rest := by
  have hlength : name.length = 9 := by
    rw [← List.length_map Char.toLower, h]
    rfl
  rw [afterUrn?, ← hlength, List.take_left, List.drop_left]
  exact if_pos h

theorem byteLength_append (cs ds : List Char) :
    byteLength (cs ++ ds) = byteLength cs + byteLength ds := by
  induction cs with
  | nil => simp [byteLength]
  | cons c cs ih => simp [byteLength, ih, Nat.add_assoc]

theorem byteLength_braces (inner : List Char) :
    byteLength ('{' :: inner ++ ['}']) = byteLength inner + 2 := by
  rw [byteLength_append, byteLength, Nat.add_comm '{'.utf8Size, Nat.add_assoc]
  rfl

theorem byteLength_of_digits (h : cs.map Char.toLower = u.chars) : byteLength cs = 32 := by
  rw [← byteLength_toLower, h, byteLength_of_ascii fun c hc => (mem_chars hc).1, length_chars]

theorem byteLength_of_groups (h : cs.map Char.toLower = u.hyphenated) : byteLength cs = 36 := by
  rw [← byteLength_toLower, h, byteLength_hyphenated]

theorem byteLength_urn {name : List Char} (h : IsUrn name) : byteLength name = 9 := by
  rw [← byteLength_toLower, h]
  rfl

/-- The core of a text is read as digits or as groups. -/
theorem core_eq_some_iff :
    (if byteLength cs = 32 then ofDigits? cs else ofGroups? cs) = some u ↔
      cs.map Char.toLower = u.chars ∨ cs.map Char.toLower = u.hyphenated := by
  constructor
  · intro h
    split at h
    · exact .inl (ofDigits?_eq_some_iff.mp h)
    · exact .inr (ofGroups?_eq_some_iff.mp h)
  · rintro (h | h)
    · rw [if_pos (byteLength_of_digits h), ofDigits?_eq_some_iff, h]
    · rw [if_neg (by rw [byteLength_of_groups h]; decide), ofGroups?_eq_some_iff, h]

/-- The core of a text is the text, the part in braces, or the part behind `urn:uuid:`. -/
theorem core_cases (cs : List Char) : core cs = cs ∨
    (byteLength cs = 38 ∧ unbraced? cs = some (core cs)) ∨
    byteLength cs = 45 ∧ afterUrn? cs = some (core cs) := by
  unfold core
  split
  · next inner hl hu => exact .inr (.inl ⟨hl, hu⟩)
  · next rest hl hu => exact .inr (.inr ⟨hl, hu⟩)
  · exact .inl rfl

theorem core_of_ne (h : byteLength cs ≠ 38) (h' : byteLength cs ≠ 45) : core cs = cs := by
  rcases core_cases cs with hc | ⟨hl, -⟩ | ⟨hl, -⟩
  · exact hc
  · exact absurd hl h
  · exact absurd hl h'

/-- The core of a form is its digits or groups. -/
theorem Form.core (h : Form IsUrn u cs) :
    (core cs).map Char.toLower = u.chars ∨ (core cs).map Char.toLower = u.hyphenated := by
  cases h with
  | digits h =>
    have hl := byteLength_of_digits h
    rw [core_of_ne (by rw [hl]; decide) (by rw [hl]; decide)]
    exact .inl h
  | groups h =>
    have hl := byteLength_of_groups h
    rw [core_of_ne (by rw [hl]; decide) (by rw [hl]; decide)]
    exact .inr h
  | @braces inner h =>
    rw [Uuid.core, byteLength_braces, byteLength_of_groups h, unbraced?_braces]
    exact .inr h
  | @named name rest hname h =>
    rw [Uuid.core, byteLength_append, byteLength_urn hname, byteLength_of_groups h,
      afterUrn?_append hname]
    cases unbraced? (name ++ rest) <;> exact .inr h

/-- A text is a form of `u` if and only if its core is the digits or groups of `u`. -/
theorem form_iff_core : Form IsUrn u cs ↔
    ((core cs).map Char.toLower = u.chars ∨ (core cs).map Char.toLower = u.hyphenated) := by
  refine ⟨Form.core, fun h => ?_⟩
  rcases core_cases cs with hc | ⟨hl, hu⟩ | ⟨hl, hu⟩
  · rw [hc] at h
    exact h.elim .digits .groups
  · -- inside the braces there is room for the groups only
    have hcs := unbraced?_eq_some hu
    rw [hcs, byteLength_braces] at hl
    rcases h with h | h
    · rw [byteLength_of_digits h] at hl
      cases hl
    · rw [hcs]
      exact .braces h
  · -- and so it is behind the scheme
    obtain ⟨name, hname, hcs⟩ := afterUrn?_eq_some hu
    rw [hcs, byteLength_append, byteLength_urn hname] at hl
    rcases h with h | h
    · rw [byteLength_of_digits h] at hl
      cases hl
    · rw [hcs]
      exact .named hname h

/-- The four possible sizes of a form. -/
theorem Form.byteLength_mem (h : Form IsUrn u cs) : byteLength cs ∈ [32, 36, 38, 45] := by
  cases h with
  | digits h => simp [byteLength_of_digits h]
  | groups h => simp [byteLength_of_groups h]
  | braces h =>
    rw [byteLength_braces, byteLength_of_groups h]
    decide
  | named hname h => simp [byteLength_append, byteLength_urn hname, byteLength_of_groups h]

/-- **The parser accepts exactly the grammar.** -/
theorem parse_eq_ok {s : String} : parse s = .ok u ↔ Form IsUrn u s.toList := by
  simp only [parse]
  by_cases hl : byteLength s.toList = 0 ∨ 45 < byteLength s.toList
  · rw [if_pos hl]
    constructor
    · rintro ⟨⟩
    · intro h
      have hmem := h.byteLength_mem
      simp only [List.mem_cons, List.not_mem_nil, or_false] at hmem
      omega
  · rw [if_neg hl, form_iff_core, ← core_eq_some_iff]
    generalize (if byteLength (core s.toList) = 32 then ofDigits? (core s.toList)
      else ofGroups? (core s.toList)) = found
    cases found <;> simp

end Uuid

/-! ## The `Uuid` of a location -/

/-- `applicationId` parses the last part of the location. -/
theorem applicationId_of_lastPart {place : String} {last : List Char}
    (h : Text.LastPart '/' place.toList last) : applicationId (some place) =
      (Uuid.parse (String.ofList last)).mapError (.applicationIdHeader place) := by
  rw [applicationId, Option.getD_some, Text.afterLast_eq h]

/-- `applicationId` succeeds if and only if the last part is a form. -/
theorem applicationId_eq_ok {location : Option String} {u : Uuid} :
    applicationId location = .ok u ↔ ∃ place last, location = some place ∧
      Text.LastPart '/' place.toList last ∧ u.Form Uuid.IsUrn last := by
  cases location with
  | none => exact iff_of_false nofun fun ⟨_, _, h, _⟩ => nomatch h
  | some place =>
    have hlast := Text.lastPart_afterLast '/' place.toList
    rw [applicationId_of_lastPart hlast, mapError_eq_ok, Uuid.parse_eq_ok, String.toList_ofList]
    constructor
    · intro h
      exact ⟨place, _, rfl, hlast, h⟩
    · rintro ⟨_, last, ⟨⟩, hl, h⟩
      rwa [Text.afterLast_eq hl]

/-- Otherwise the error carries the whole location. -/
theorem applicationId_refused {location : Option String}
    (h : ¬∃ u, applicationId location = .ok u) :
    ∃ e, applicationId location = .error (.applicationIdHeader (location.getD "") e) := by
  unfold applicationId at h ⊢
  dsimp only at h ⊢
  cases hp : Uuid.parse (String.ofList (Text.afterLast '/' (location.getD "").toList)) with
  | ok u => exact absurd ⟨u, mapError_eq_ok.mpr hp⟩ h
  | error e => exact ⟨e, rfl⟩

/-! ## The location of a `Uuid` -/

/-- The Applications URL of accepted settings is a folder at an authority. -/
theorem Draft.accept_folder {d : Draft} {s : Settings} (h : d.accept = .ok s) :
    ∃ a front, s.applications.authority = some a ∧
      s.applications.path = .segments (front ++ [""]) ∧ s.applications.query = none ∧
      s.applications.fragment = none := by
  obtain ⟨-, u, hu, ha, -⟩ := addresses_of_accept h
  obtain ⟨a, -, hauthority, -⟩ := Url.parse_web_path (Url.family_web_of_http hu.scheme) hu.parse
  obtain ⟨ps, -, hs⟩ := Url.sibling_eq_ok.mp ha
  rw [← hs]
  refine ⟨a, ps.dropLast ++ ["Applications", "v1"], ?_, ?_, rfl, rfl⟩
  · exact u.closeFolder_parts.2.1.trans hauthority
  · rw [List.append_assoc]
    rfl

/-- Its text ends with `/`. -/
theorem Draft.accept_slash_end {d : Draft} {s : Settings} (h : d.accept = .ok s) :
    ∃ base, s.applications.text = base ++ "/" := by
  obtain ⟨-, u, hu, ha, -⟩ := addresses_of_accept h
  refine ⟨u.folderText ++ "Applications" ++ "/v1", ?_⟩
  have hrest : (Path.segments ["v1", ""]).text = "/v1" ++ "/" := rfl
  simp only [hu.sibling_text ha, hrest, String.append_assoc]

namespace Client

variable {d : Draft} {s : Settings} (h : d.accept = .ok s)
include h

/-- The text of a place: the Applications URL, the `Uuid` and the suffix. -/
theorem place_text (u : Uuid) (suffix : List String) :
    ∃ url, (Client.mk s).directory.place u suffix = .ok url ∧
      url.text = s.applications.text ++ u.text ++ (Path.segments suffix).text := by
  obtain ⟨a, front, ha, hp, hq, hf⟩ := Draft.accept_folder h
  obtain ⟨url, hurl⟩ : ∃ url, s.applications.sibling (u.text :: suffix) = .ok url :=
    ⟨_, Url.sibling_eq_ok.mpr ⟨_, hp, rfl⟩⟩
  exact ⟨url, mapError_eq_ok.mpr hurl, Url.sibling_text ha hp hq hf hurl⟩

/-- Places are injective in the `Uuid`. -/
theorem place_injective {u v : Uuid} {suffix : List String} {url url' : Url}
    (hu : (Client.mk s).directory.place u suffix = .ok url)
    (hv : (Client.mk s).directory.place v suffix = .ok url') (ht : url.text = url'.text) :
    u = v := by
  obtain ⟨_, hplace, htext⟩ := place_text h u suffix
  cases hu.symm.trans hplace
  obtain ⟨_, hplace', htext'⟩ := place_text h v suffix
  cases hv.symm.trans hplace'
  rw [htext, htext', String.append_assoc, String.append_assoc] at ht
  have hlist := congrArg String.toList ht
  simp only [String.toList_append, List.append_cancel_left_eq,
    List.append_cancel_right_eq] at hlist
  exact Uuid.text_injective (String.toList_injective hlist)

/-- `applicationId` is a left inverse of `place`. -/
theorem applicationId_place (u : Uuid) :
    ∃ url, (Client.mk s).directory.place u [] = .ok url ∧
      applicationId (some url.text) = .ok u := by
  obtain ⟨url, hurl, htext⟩ := place_text h u []
  obtain ⟨base, hbase⟩ := Draft.accept_slash_end h
  have hlast : Text.LastPart '/' url.text.toList u.hyphenated := by
    refine ⟨u.slash_not_mem, .inr ⟨base.toList, ?_⟩⟩
    rw [htext, hbase]
    simp [Uuid.text, Path.text]
  have hform : u.Form Uuid.IsUrn u.hyphenated :=
    .groups (Uuid.ofGroups?_eq_some_iff.mp u.ofGroups?_hyphenated)
  exact ⟨url, hurl, applicationId_eq_ok.mpr ⟨_, _, rfl, hlast, hform⟩⟩

end Client

/-- **Locations of applications.** `applicationId` returns `u` if and only if the last part of the
location is a form of `u`, whatever is in front of it; otherwise the error carries the location. For
accepted settings, the place of a `Uuid` has the expected text, places are injective, and
`applicationId` of a place is its `Uuid`. -/
theorem applicationId_place_inverse :
    (∀ location u, applicationId location = .ok u ↔ ∃ place last, location = some place ∧
      Text.LastPart '/' place.toList last ∧ u.Form Uuid.IsUrn last) ∧
    (∀ place last, Text.LastPart '/' place.toList last → applicationId (some place) =
      (Uuid.parse (String.ofList last)).mapError (.applicationIdHeader place)) ∧
    (∀ location, (¬∃ u, applicationId location = .ok u) →
      ∃ e, applicationId location = .error (.applicationIdHeader (location.getD "") e)) ∧
    ∀ (d : Draft) s, d.accept = .ok s →
      (∀ u suffix, ∃ url, (Client.mk s).directory.place u suffix = .ok url ∧
        url.text = s.applications.text ++ u.text ++ (Path.segments suffix).text) ∧
      (∀ u v suffix url url', (Client.mk s).directory.place u suffix = .ok url →
        (Client.mk s).directory.place v suffix = .ok url' → url.text = url'.text → u = v) ∧
      ∀ u, ∃ url, (Client.mk s).directory.place u [] = .ok url ∧
        applicationId (some url.text) = .ok u := by
  refine ⟨fun _ _ => applicationId_eq_ok, fun _ _ => applicationId_of_lastPart,
    fun _ => applicationId_refused, ?_⟩
  intro d s h
  refine ⟨Client.place_text h, ?_, Client.applicationId_place h⟩
  intro u v suffix url url' hu hv ht
  exact Client.place_injective h hu hv ht

def Uuid.sample : Uuid :=
  ⟨[5, 11, 9, 12, 0, 15, 3, 6, 2, 15, 3, 15, 4, 15, 6, 1,
    9, 10, 5, 3, 5, 13, 3, 10, 8, 15, 7, 15, 8, 10, 1, 1], rfl⟩

theorem applicationId_place_inverse_sample :
    Text.LastPart '/' "a/b".toList ['b'] ∧
    applicationId (some "a/b") = .error (.applicationIdHeader "a/b" (.length 1)) ∧
    (¬∃ u, applicationId none = .ok u) ∧
    (∃ e, applicationId none = .error (.applicationIdHeader "" e)) ∧
    Draft.sample.accept = .ok Client.sample.settings ∧
    (∃ url, Client.sample.directory.place .sample ["apiSecrets"] = .ok url ∧
      url.text = "https://[::1]/Applications/v1/5b9c0f36-2f3f-4f61-9a53-5d3a8f7f8a11/apiSecrets") ∧
    ∃ url, Client.sample.directory.place .sample [] = .ok url ∧
      applicationId (some url.text) = .ok .sample := by
  obtain ⟨hok, hpart, hrefused, hplaces⟩ := applicationId_place_inverse
  have hlast : Text.LastPart '/' "a/b".toList ['b'] := ⟨by decide, .inr ⟨['a'], rfl⟩⟩
  have hnone : ¬∃ u, applicationId none = .ok u := by
    rintro ⟨u, hu⟩
    obtain ⟨_, _, h, -⟩ := (hok none u).mp hu
    cases h
  obtain ⟨htext, -, hid⟩ := hplaces _ _ Draft.accept_sample
  refine ⟨hlast, hpart _ _ hlast, hnone, hrefused _ hnone, Draft.accept_sample, ?_, hid .sample⟩
  obtain ⟨url, hurl, ht⟩ := htext .sample ["apiSecrets"]
  exact ⟨url, hurl, ht.trans (by decide)⟩

/-- **The URN form is read in upper case as well.** -/
theorem applicationId_scheme_upper :
    let place := "URN:UUID:5b9c0f36-2f3f-4f61-9a53-5d3a8f7f8a11"
    applicationId (some place) = .ok .sample ∧ Text.LastPart '/' place.toList place.toList ∧
      ∀ u : Uuid, ¬u.Form (· = Uuid.urn) place.toList := by
  intro place
  have hlast : Text.LastPart '/' place.toList place.toList := ⟨by decide, .inl rfl⟩
  have hname : "URN:UUID:".toList.map Char.toLower = Uuid.urn := by decide
  have hgroups : "5b9c0f36-2f3f-4f61-9a53-5d3a8f7f8a11".toList.map Char.toLower =
      Uuid.sample.hyphenated := by decide
  have hplace : place.toList =
      "URN:UUID:".toList ++ "5b9c0f36-2f3f-4f61-9a53-5d3a8f7f8a11".toList := by decide
  have hform : Uuid.sample.Form Uuid.IsUrn place.toList := hplace ▸ .named hname hgroups
  refine ⟨applicationId_eq_ok.mpr ⟨place, _, rfl, hlast, hform⟩, hlast, ?_⟩
  have hbytes : Uuid.byteLength place.toList = 45 := by decide
  generalize hcs : place.toList = cs at hbytes
  have hhead : cs.head? = some 'U' := by
    rw [← hcs]
    decide
  intro u h
  cases h with
  | digits h =>
    rw [Uuid.byteLength_of_digits h] at hbytes
    cases hbytes
  | groups h =>
    rw [Uuid.byteLength_of_groups h] at hbytes
    cases hbytes
  | braces h => cases hhead
  | named hname h =>
    cases hname
    cases hhead

end TenantApps
