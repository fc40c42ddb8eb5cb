import TenantApps.Proofs.Tenant.Places

/-!
# `TenantApps.Proofs.Url.Web` — the structure of web URLs

`Url.parse` of a web URL is a composition of readers of disjoint pieces of its text: the scheme,
slashes, the authority up to the first character that ends it, the path up to `?` or `#`, and the
rest.

## Contents
- `Url.splitScheme?_eq_some` and `parse_scheme`, the scheme.
- `Url.readServer` and `readAuthority_web`: the authority depends on its own piece only.
- `Url.serverText` and `afterServer`, the pieces; `ofFollows`, a URL from its parts; `parse_web`,
  **the decomposition** of every web URL.
- `Url.bare_ofFollows` and `bare_iff`, URLs without query and fragment.
- `Url.follow`, one segment of a path, and `walk_cons`; `parse_web_path`, the path of a web URL.
-/

namespace TenantApps.Url

/-! ## The scheme -/

theorem family_web_of_http {scheme : String} (h : scheme = "http" ∨ scheme = "https") :
    family scheme = .web := by
  rcases h with rfl | rfl <;> decide

theorem family_file {scheme : String} (h : family scheme = .file) : scheme = "file" := by
  unfold family at h
  split at h
  · assumption
  · split at h <;> cases h

/-- `splitScheme?` reads a letter, more scheme characters and a colon. -/
theorem splitScheme?_eq_some {cs rest : List Char} {scheme : String} :
    splitScheme? cs = some (scheme, rest) ↔ ∃ c name, cs = (c :: name) ++ ':' :: rest ∧
      (∀ d ∈ c :: name, isSchemeChar d = true) ∧ c.isAlpha = true ∧
        String.ofList ((c :: name).map Char.toLower) = scheme := by
  constructor
  · intro h
    unfold splitScheme? at h
    split at h
    · next c name rest' hname hrest =>
      split at h
      · next halpha =>
        cases h
        refine ⟨c, name, ?_, ?_, halpha, rfl⟩
        · rw [← hname, ← hrest, List.takeWhile_append_dropWhile]
        · rw [← hname]
          exact List.all_eq_true.mp List.all_takeWhile
      · cases h
    · cases h
  · rintro ⟨c, name, rfl, hall, halpha, rfl⟩
    unfold splitScheme?
    rw [List.takeWhile_append_of_pos hall, List.dropWhile_append_of_pos hall,
      List.takeWhile_cons_of_neg (by decide), List.dropWhile_cons_of_neg (by decide),
      List.append_nil]
    exact if_pos halpha

/-- The scheme of a parsed URL is the text in front of the first colon. -/
theorem parse_scheme {s : String} {u : Url} (h : parse s = .ok u) :
    ∃ rest, splitScheme? (significant s.toList) = some (u.scheme, rest) := by
  unfold parse at h
  split at h
  · cases h
  · next scheme rest hs =>
    have hserver {cs : List Char} (h : parseServer scheme cs = .ok u) : u.scheme = scheme := by
      obtain ⟨⟨a, rest⟩, -, h⟩ := except_bind_eq_ok.mp h
      cases h
      rfl
    refine ⟨rest, hs.trans (congrArg (fun t => some (t, rest)) ?_)⟩
    symm
    split at h
    · exact hserver h
    · next hf =>
      obtain ⟨⟨host, rest⟩, -, h⟩ := except_bind_eq_ok.mp h
      cases h
      exact (family_file hf).symm
    · unfold parseOther at h
      dsimp only at h
      split at h
      · exact hserver h
      · cases h
        rfl
      · cases h
        rfl

/-! ## The authority -/

theorem splitHost_append (inside : Bool) (cs : List Char) :
    (splitHost inside cs).1 ++ (splitHost inside cs).2 = cs := by
  induction cs generalizing inside with
  | nil => rfl
  | cons c rest ih =>
    rw [splitHost]
    split
    · rfl
    · exact congrArg (c :: ·) (ih _)

/-- `splitHost` stops at a colon. -/
theorem splitHost_snd (inside : Bool) (cs : List Char) :
    (splitHost inside cs).2 = [] ∨ (splitHost inside cs).2.head? = some ':' := by
  induction cs generalizing inside with
  | nil => exact .inl rfl
  | cons c rest ih =>
    rw [splitHost]
    split
    · next h => exact .inr (congrArg some h.1)
    · exact ih _

/-- The rest of `splitUser` is part of its input. -/
theorem splitUser_subset (cs : List Char) : (splitUser cs).2 ⊆ cs := by
  unfold splitUser
  split
  · intro c hc
    rw [Text.afterLast, List.mem_reverse] at hc
    exact List.mem_reverse.mp ((List.takeWhile_sublist _).subset hc)
  · exact fun _ hc => hc

/-- A port without a backslash leaves no rest. -/
theorem readPortAfter_rest {scheme : String} {cs rest : List Char} {port : Option Nat}
    (hcs : cs = [] ∨ cs.head? = some ':') (hback : '\\' ∉ cs)
    (h : readPortAfter scheme cs = .ok (port, rest)) : rest = [] := by
  unfold readPortAfter at h
  split at h
  · next digits =>
    unfold readPort at h
    dsimp only at h
    split at h
    · cases h
    · next hbad =>
      cases h
      cases hrest : digits.dropWhile Char.isDigit with
      | nil => rfl
      | cons c cs =>
        have hc : c ∈ digits :=
          (List.dropWhile_sublist _).subset (hrest.symm ▸ List.mem_cons_self)
        refine absurd (Or.inr ?_) hbad
        rw [hrest]
        simp only [List.head?_cons, Option.any_some, ne_eq, decide_not, Bool.not_eq_true',
          decide_eq_false_iff_not]
        rintro rfl
        exact hback (List.mem_cons_of_mem _ hc)
  · next hcolon =>
    cases h
    rcases hcs with rfl | hcs
    · rfl
    · cases cs with
      | nil => rfl
      | cons c cs =>
        cases hcs
        exact absurd rfl (hcolon cs)

/-- The authority in a piece of text. -/
def readServer (scheme : String) (written : List Char) : Except UrlError Authority := do
  let (info, server) := splitUser written
  let (username, password) := readUser (info.getD [])
  let (hostText, portText) := splitHost false server
  let host ← readHost .web hostText
  let (port, _) ← readPortAfter scheme portText
  return ⟨username, password, host, port⟩

/-- A web URL has a host. -/
theorem readHost_web {cs : List Char} {host : Option Host} (h : readHost .web cs = .ok host) :
    cs ≠ [] ∧ host ≠ none := by
  cases cs with
  | nil => cases h
  | cons c cs =>
    refine ⟨List.cons_ne_nil _ _, ?_⟩
    rintro rfl
    change (Host.parse (c :: cs)).map some = .ok none at h
    cases hp : Host.parse (c :: cs) <;> rw [hp] at h <;> cases h

/-- `readAuthority` of a web URL depends on the text up to the first character that ends it. -/
theorem readAuthority_web {scheme : String} (hf : family scheme = .web) (cs : List Char) :
    readAuthority scheme cs = (readServer scheme (cs.takeWhile (!endsAuthority .web ·))).map
      (·, cs.dropWhile (!endsAuthority .web ·)) := by
  have hback : '\\' ∉ cs.takeWhile (!endsAuthority .web ·) := fun hm =>
    absurd (List.all_eq_true.mp List.all_takeWhile _ hm) (by decide)
  unfold readAuthority readServer
  rw [hf]
  dsimp only
  generalize cs.takeWhile (!endsAuthority .web ·) = written at hback ⊢
  generalize cs.dropWhile (!endsAuthority .web ·) = follows
  generalize hu : readUser ((splitUser written).1.getD []) = user
  generalize hsplit : splitHost false (splitUser written).2 = server
  have hport : server.2 = [] ∨ server.2.head? = some ':' := hsplit ▸ splitHost_snd _ _
  have hback' : '\\' ∉ server.2 := fun hm => hback (splitUser_subset _ (by
    rw [← splitHost_append false (splitUser written).2, hsplit]
    exact List.mem_append_right _ hm))
  cases hhost : readHost .web server.1 with
  | error e =>
    split
    · next hnone =>
      -- nothing is there to be read as a host, which is the same error
      rw [hnone.2.1] at hsplit
      subst hsplit
      cases hhost
      rfl
    · rfl
  | ok host =>
    obtain ⟨hserver, hsome⟩ := readHost_web hhost
    rw [if_neg fun hnone => hserver (by rw [← hsplit, hnone.2.1]; rfl)]
    change (if host = none ∧ server.2 ≠ [] then _ else _) = _
    rw [if_neg fun h => hsome h.1]
    change _ = Except.map _ (readPortAfter scheme server.2 >>= fun p => _)
    cases hp : readPortAfter scheme server.2 with
    | error e => rfl
    | ok p =>
      obtain ⟨port, rest⟩ := p
      change (if host = none ∧ _ then _ else _) = _
      rw [if_neg fun h => hsome h.1, readPortAfter_rest hport hback' hp]
      rfl

/-! ## The decomposition -/

/-- The text of the authority, behind the colon of the scheme. -/
def serverText (rest : List Char) : List Char :=
  (rest.dropWhile (isSlash .web)).takeWhile (!endsAuthority .web ·)

/-- The text behind the authority. -/
def afterServer (rest : List Char) : List Char :=
  (rest.dropWhile (isSlash .web)).dropWhile (!endsAuthority .web ·)

/-- The web URL of a scheme, an authority and the text behind them. -/
def ofFollows (scheme : String) (a : Authority) (follows : List Char) : Url :=
  ofRest scheme (some a)
    (Path.ofSegments (readSegments .web (follows.takeWhile (!endsPath ·))))
    (follows.dropWhile (!endsPath ·))

/-- **Decomposition of web URLs**: parsing succeeds if and only if scheme and authority are read
from their pieces, and the result is `ofFollows`. -/
theorem parse_web {s : String} {u : Url} (hf : family u.scheme = .web) : parse s = .ok u ↔
    ∃ rest a, splitScheme? (significant s.toList) = some (u.scheme, rest) ∧
      readServer u.scheme (serverText rest) = .ok a ∧
      ofFollows u.scheme a (afterServer rest) = u := by
  have key {rest : List Char} (hs : splitScheme? (significant s.toList) = some (u.scheme, rest)) :
      parse s = (readServer u.scheme (serverText rest)).map fun a =>
        ofFollows u.scheme a (afterServer rest) := by
    unfold parse
    rw [hs]
    dsimp only
    rw [hf]
    dsimp only
    unfold parseServer
    rw [readAuthority_web hf, hf, ← serverText]
    cases readServer u.scheme (serverText rest) with
    | error e => rfl
    | ok a =>
      show Except.ok (ofRest u.scheme _ (Path.ofSegments (if _ then _ else _)) _) = Except.ok _
      rw [if_neg fun h => nomatch h.2]
      rfl
  constructor
  · intro h
    obtain ⟨rest, hs⟩ := parse_scheme h
    rw [key hs] at h
    cases ha : readServer u.scheme (serverText rest) with
    | error e =>
      rw [ha] at h
      cases h
    | ok a =>
      rw [ha] at h
      exact ⟨rest, a, hs, ha, Except.ok.inj h⟩
  · rintro ⟨rest, a, hs, ha, hu⟩
    rw [key hs, ha]
    exact congrArg Except.ok hu

/-! ## Query and fragment -/

/-- The text behind the path starts with `?` or `#`. -/
theorem dropWhile_endsPath {cs tail : List Char} {c : Char}
    (h : cs.dropWhile (!endsPath ·) = c :: tail) : c = '?' ∨ c = '#' := by
  have hne : cs.dropWhile (!endsPath ·) ≠ [] := h.symm ▸ List.cons_ne_nil c tail
  have hc := List.head_dropWhile_not (!endsPath ·) hne
  simp only [h, List.head_cons, Bool.not_eq_false'] at hc
  simpa [endsPath] using hc

/-- No query and no fragment if and only if nothing is behind the path. -/
theorem bare_ofFollows (scheme : String) (a : Authority) (follows : List Char) :
    ((ofFollows scheme a follows).query = none ∧ (ofFollows scheme a follows).fragment = none) ↔
      follows.dropWhile (!endsPath ·) = [] := by
  unfold ofFollows ofRest
  dsimp only
  cases h : follows.dropWhile (!endsPath ·) with
  | nil => simp
  | cons c tail =>
    refine iff_of_false (fun hn => ?_) (List.cons_ne_nil _ _)
    rcases dropWhile_endsPath h with rfl | rfl
    · exact absurd hn.1 (by simp)
    · exact absurd hn.2 (by simp)

theorem mem_dropWhile {p : Char → Bool} {c : Char} (h : p c = false) {cs : List Char} :
    c ∈ cs.dropWhile p ↔ c ∈ cs := by
  refine ⟨fun hc => (List.dropWhile_sublist _).subset hc, fun hc => ?_⟩
  rw [← List.takeWhile_append_dropWhile (p := p) (l := cs)] at hc
  rcases List.mem_append.mp hc with hc | hc
  · exact absurd (List.all_eq_true.mp List.all_takeWhile _ hc) (by rw [h]; nofun)
  · exact hc

/-- Characters that `significant` strips at both ends. -/
def isBlank (c : Char) : Bool := c.toNat ≤ 0x20

/-- Characters that `significant` does not remove. -/
def isKept (c : Char) : Bool := !(c == '\t' || c == '\n' || c == '\r')

theorem significant_eq (cs : List Char) : significant cs =
    ((cs.dropWhile isBlank).reverse.dropWhile isBlank).reverse.filter isKept :=
  rfl

theorem isKept_of_not_isBlank {c : Char} (h : isBlank c = false) : isKept c = true := by
  rw [isKept, Bool.not_eq_true', Bool.or_eq_false_iff, Bool.or_eq_false_iff, beq_eq_false_iff_ne,
    beq_eq_false_iff_ne, beq_eq_false_iff_ne]
  refine ⟨⟨?_, ?_⟩, ?_⟩ <;> rintro rfl <;> exact absurd h (by decide)

/-- `significant` keeps characters that are no blank. -/
theorem mem_significant {c : Char} (h : isBlank c = false) {cs : List Char} :
    c ∈ significant cs ↔ c ∈ cs := by
  rw [significant_eq, List.mem_filter, List.mem_reverse, mem_dropWhile h, List.mem_reverse,
    mem_dropWhile h]
  exact and_iff_left (isKept_of_not_isBlank h)

/-- `?` and `#` of the text are behind the path. -/
theorem mem_tail {s scheme : String} {rest : List Char}
    (hs : splitScheme? (significant s.toList) = some (scheme, rest)) {c : Char}
    (hc : c = '?' ∨ c = '#') :
    c ∈ s.toList ↔ c ∈ (afterServer rest).dropWhile (!endsPath ·) := by
  have hrest : c ∈ significant s.toList ↔ c ∈ rest := by
    obtain ⟨d, name, heq, hall, -⟩ := splitScheme?_eq_some.mp hs
    have hname : c ∉ d :: name := fun hm =>
      absurd (hall c hm) (by rcases hc with rfl | rfl <;> decide)
    have hcolon : c ≠ ':' := by rcases hc with rfl | rfl <;> decide
    rw [heq, List.mem_append, or_iff_right hname, List.mem_cons, or_iff_right hcolon]
  rw [afterServer, mem_dropWhile (by rcases hc with rfl | rfl <;> decide),
    mem_dropWhile (by rcases hc with rfl | rfl <;> decide),
    mem_dropWhile (by rcases hc with rfl | rfl <;> decide), ← hrest,
    mem_significant (by rcases hc with rfl | rfl <;> decide)]

/-- A web URL has neither query nor fragment if and only if its text has neither `?` nor `#`. -/
theorem bare_iff {s : String} {u : Url} (hf : family u.scheme = .web) (h : parse s = .ok u) :
    (u.query = none ∧ u.fragment = none) ↔ '?' ∉ s.toList ∧ '#' ∉ s.toList := by
  obtain ⟨rest, a, hs, -, hu⟩ := (parse_web hf).mp h
  rw [← hu, bare_ofFollows, mem_tail hs (.inl rfl), mem_tail hs (.inr rfl)]
  cases ht : (afterServer rest).dropWhile (!endsPath ·) with
  | nil => simp
  | cons c tail =>
    refine iff_of_false (List.cons_ne_nil _ _) fun hn => ?_
    rcases dropWhile_endsPath ht with rfl | rfl
    · exact hn.1 List.mem_cons_self
    · exact hn.2 List.mem_cons_self

/-! ## The path -/

/-- The encoded text of one segment. -/
def entry (f : Family) (done : List (List Char)) (s : List Char) : List Char :=
  let s := Percent.encode inPath s
  if f = .file ∧ done = [] ∧ isDriveLetter s then [s.headD 'c', ':'] else s

/-- **One step of `walk`**: follows one segment; `last` says whether it is the last one. -/
def follow (f : Family) (last : Bool) (done : List (List Char)) (s : List Char) :
    List (List Char) :=
  let folder := if last then [[]] else []
  if isUp s then folder ++ up done
  else if isHere s then folder ++ done
  else entry f done s :: done

theorem walk_cons (f : Family) (done : List (List Char)) (s : List Char) (rest : List (List Char)) :
    walk f done (s :: rest) = walk f (follow f rest.isEmpty done s) rest := by
  rw [walk, follow]
  dsimp only
  split
  · cases rest <;> rfl
  · split
    · cases rest <;> rfl
    · rfl

/-- `walk` yields a non-empty path. -/
theorem walk_ne_nil {f : Family} {done ss : List (List Char)} (h : done ≠ [] ∨ ss ≠ []) :
    walk f done ss ≠ [] := by
  induction ss generalizing done with
  | nil =>
    rw [walk]
    simpa using h
  | cons s rest ih =>
    rw [walk_cons]
    cases rest with
    | cons s' rest => exact ih (.inr (List.cons_ne_nil _ _))
    | nil =>
      refine ih (.inl ?_)
      unfold follow
      dsimp only
      split
      · exact List.cons_ne_nil _ _
      · split <;> exact List.cons_ne_nil _ _

theorem up_subset (done : List (List Char)) : up done ⊆ done := by
  cases done with
  | nil => exact List.Subset.refl _
  | cons s above =>
    rw [up]
    split
    · exact List.Subset.refl _
    · exact List.subset_cons_self _ _

/-- A percent escape has no slash. -/
theorem slash_not_mem_escape (b : UInt8) : '/' ∉ Percent.escape b := by
  have hdigit : ∀ n < 16, '/' ≠ Hex.upper n := by decide
  have hhigh : b.toNat / 16 < 16 := Nat.div_lt_of_lt_mul b.toNat_lt
  have hlow : b.toNat % 16 < 16 := Nat.mod_lt _ (by decide)
  simp [Percent.escape, Hex.upperByte, hdigit _ hhigh, hdigit _ hlow]

theorem slash_not_mem_entry {f : Family} (hf : f ≠ .file) {done : List (List Char)} {s : List Char}
    (hs : '/' ∉ s) : '/' ∉ entry f done s := by
  rw [entry, if_neg fun h => hf h.1, Percent.encode, List.mem_flatMap]
  rintro ⟨c, hc, hm⟩
  unfold Percent.encodeChar at hm
  split at hm
  · obtain ⟨b, -, hb⟩ := List.mem_flatMap.mp hm
    exact slash_not_mem_escape b hb
  · exact hs (List.mem_singleton.mp hm ▸ hc)

theorem slash_not_mem_follow {f : Family} (hf : f ≠ .file) {last : Bool} {done : List (List Char)}
    {s : List Char} (hdone : ∀ t ∈ done, '/' ∉ t) (hs : '/' ∉ s) :
    ∀ t ∈ follow f last done s, '/' ∉ t := by
  have hfolder {ss : List (List Char)} (h : ∀ t ∈ ss, '/' ∉ t) :
      ∀ t ∈ (if last then [[]] else []) ++ ss, '/' ∉ t := by
    intro t ht
    cases last with
    | false => exact h t ht
    | true =>
      rcases List.mem_cons.mp ht with rfl | ht
      · exact List.not_mem_nil
      · exact h t ht
  unfold follow
  dsimp only
  split
  · exact hfolder fun t ht => hdone t (up_subset done ht)
  · split
    · exact hfolder hdone
    · exact List.forall_mem_cons.mpr ⟨slash_not_mem_entry hf hs, hdone⟩

/-- `walk` of segments without a slash yields such segments. -/
theorem slash_not_mem_walk {f : Family} (hf : f ≠ .file) {done ss : List (List Char)}
    (hdone : ∀ t ∈ done, '/' ∉ t) (hs : ∀ s ∈ ss, '/' ∉ s) : ∀ t ∈ walk f done ss, '/' ∉ t := by
  induction ss generalizing done with
  | nil =>
    rw [walk]
    exact fun t ht => hdone t (List.mem_reverse.mp ht)
  | cons s rest ih =>
    rw [walk_cons]
    exact ih (slash_not_mem_follow hf hdone (hs s List.mem_cons_self))
      fun t ht => hs t (List.mem_cons_of_mem _ ht)

/-- The path of a web URL is a non-empty list of segments without slashes. -/
theorem parse_web_path {s : String} {u : Url} (hf : family u.scheme = .web)
    (h : parse s = .ok u) : ∃ a ps, u.authority = some a ∧ u.path = .segments ps ∧ ps ≠ [] ∧
      ∀ p ∈ ps, '/' ∉ p.toList := by
  obtain ⟨rest, a, -, -, hu⟩ := (parse_web hf).mp h
  rw [← hu]
  refine ⟨a, _, rfl, rfl, ?_, ?_⟩
  · exact fun hn => walk_ne_nil (.inr (Text.split_ne_nil _ _)) (List.map_eq_nil_iff.mp hn)
  · intro p hp
    obtain ⟨cs, hcs, rfl⟩ := List.mem_map.mp hp
    rw [String.toList_ofList]
    exact slash_not_mem_walk (f := .web) (by decide) (List.forall_mem_nil _)
      (fun _ => Text.not_mem_of_mem_split) cs hcs

end TenantApps.Url
