import TenantApps.Proofs.Url.Web

/-!
# `TenantApps.Proofs.Url.Folder` — closing a URL with a slash

`Url.closeFolder` appends an empty segment to the path, unless the last one is empty already. For a
web URL this is the same as appending `/` to the text that is parsed: the parser turns the slash
into one more segment, and drops it again behind a point segment, which closes the path by itself.

## Contents
- `Text.takeWhile_stop` and `dropWhile_stop`, splitting at a stop character, and
  `Text.split_concat`.
- `Url.folderText`, the text closed with `/`; `closeFolder_text` and `sibling_text`.
- `Url.significant_slash` and `splitScheme?_append`, the text in front of the path.
- `Url.closed`, segments closed with an empty one, with `walk_slash` and `readSegments_slash`.
- `Url.parse_slash`, **parsing commutes with closing**.
-/

namespace TenantApps

/-! ## Splitting -/

namespace Text

variable {α : Type} {p : α → Bool} {x : α}

theorem takeWhile_stop (h : p x = false) (xs ys : List α) :
    (xs ++ x :: ys).takeWhile p = xs.takeWhile p := by
  induction xs with
  | nil => simp [h]
  | cons y xs ih => by_cases hy : p y = true <;> simp [hy, ih]

theorem dropWhile_stop (h : p x = false) (xs ys : List α) :
    (xs ++ x :: ys).dropWhile p = xs.dropWhile p ++ x :: ys := by
  induction xs with
  | nil => simp [h]
  | cons y xs ih => by_cases hy : p y = true <;> simp [hy, ih]

/-- The last part of a text is non-empty if its last character is no separator. -/
theorem split_concat {sep c : Char} (hc : c ≠ sep) (cs : List Char) :
    ∃ parts part, split sep (cs ++ [c]) = parts ++ [part] ∧ part ≠ [] := by
  induction cs with
  | nil => exact ⟨[], [c], by rw [List.nil_append, split, if_neg hc]; rfl, List.cons_ne_nil _ _⟩
  | cons x cs ih =>
    obtain ⟨parts, part, h, hpart⟩ := ih
    rw [List.cons_append, split, h]
    split
    · exact ⟨[] :: parts, part, rfl, hpart⟩
    · cases parts with
      | nil => exact ⟨[], x :: part, rfl, List.cons_ne_nil _ _⟩
      | cons first parts => exact ⟨(x :: first) :: parts, part, rfl, hpart⟩

end Text

namespace Url

/-! ## Closing a URL -/

/-- The segments, with an empty one appended unless the last one is. -/
def closed {α : Type} [DecidableEq α] (empty : α) (ps : List α) : List α :=
  if ps.getLast? = some empty then ps else ps ++ [empty]

section
variable {α : Type} [DecidableEq α] {empty : α}

theorem closed_concat (ps : List α) : closed empty (ps ++ [empty]) = ps ++ [empty] :=
  if_pos List.getLast?_concat

theorem closed_eq (empty : α) (ps : List α) : ∃ front, closed empty ps = front ++ [empty] := by
  unfold closed
  split
  · next h => exact List.getLast?_eq_some_iff.mp h
  · exact ⟨ps, rfl⟩

theorem closed_closed (empty : α) (ps : List α) :
    closed empty (closed empty ps) = closed empty ps := by
  obtain ⟨front, h⟩ := closed_eq empty ps
  rw [h, closed_concat]

end

theorem map_closed (ss : List (List Char)) :
    (closed [] ss).map String.ofList = closed "" (ss.map String.ofList) := by
  have hlast : (ss.map String.ofList).getLast? = some "" ↔ ss.getLast? = some [] := by
    rw [List.getLast?_map, Option.map_eq_some_iff]
    simp
  unfold closed
  simp only [hlast]
  split
  · rfl
  · exact List.map_append

theorem closeFolder_eq {u : Url} {ps : List String} (hp : u.path = .segments ps) :
    u.closeFolder = { u with path := .segments (closed "" ps) } := by
  unfold closeFolder closed
  rw [hp]
  dsimp only
  split
  · rw [← hp]
  · rfl

/-- `closeFolder` changes the path only. -/
theorem closeFolder_parts (u : Url) : u.closeFolder.scheme = u.scheme ∧
    u.closeFolder.authority = u.authority ∧ u.closeFolder.query = u.query ∧
      u.closeFolder.fragment = u.fragment := by
  unfold closeFolder
  split
  · split <;> exact ⟨rfl, rfl, rfl, rfl⟩
  · exact ⟨rfl, rfl, rfl, rfl⟩

/-- `closeFolder` is idempotent. -/
theorem closeFolder_closeFolder (u : Url) : u.closeFolder.closeFolder = u.closeFolder := by
  cases hp : u.path with
  | segments ps =>
    rw [closeFolder_eq hp, closeFolder_eq rfl, closed_closed]
  | plain text =>
    have h : u.closeFolder = u := by
      unfold closeFolder
      rw [hp]
    rw [h, h]

/-- The text of a URL, with `/` appended unless its path ends with it. -/
def folderText (u : Url) : String :=
  if u.path.text.toList.getLast? = some '/' then u.text else u.text ++ "/"

/-- The text of a path ends with `/` if and only if the last segment is empty. -/
theorem path_slash {ps : List String} (hne : ps ≠ []) (hs : ∀ p ∈ ps, '/' ∉ p.toList) :
    (Path.segments ps).text.toList.getLast? = some '/' ↔ ps.getLast? = some "" := by
  obtain ⟨front, last, rfl⟩ : ∃ front last, ps = front ++ [last] :=
    ⟨_, _, (List.dropLast_concat_getLast hne).symm⟩
  have hlast : '/' ∉ last.toList := hs last (List.mem_append_right _ List.mem_cons_self)
  rw [Path.text_append, Path.text_cons, List.getLast?_concat, Option.some.injEq]
  simp only [String.toList_append, List.getLast?_append]
  change (last.toList.getLast?.or (some '/')).or _ = some '/' ↔ last = ""
  cases h : last.toList.getLast? with
  | none =>
    have hempty : last = "" := String.toList_eq_nil_iff.mp (List.getLast?_eq_none_iff.mp h)
    exact iff_of_true rfl hempty
  | some c =>
    have hc : c ∈ last.toList := List.mem_of_getLast? h
    refine iff_of_false ?_ ?_
    · rintro ⟨⟩
      exact hlast hc
    · rintro rfl
      exact absurd hc List.not_mem_nil

/-- `folderText` is the text of `closeFolder`. -/
theorem closeFolder_text {u : Url} {a : Authority} {ps : List String} (ha : u.authority = some a)
    (hp : u.path = .segments ps) (hne : ps ≠ []) (hs : ∀ p ∈ ps, '/' ∉ p.toList)
    (hq : u.query = none) (hf : u.fragment = none) : u.closeFolder.text = u.folderText := by
  rw [folderText, hp, closeFolder_eq hp]
  simp only [path_slash hne hs]
  unfold closed
  split
  · rw [← hp]
  · rw [text_eq (u := { u with path := .segments (ps ++ [""]) }) ha hf, text_eq ha hf, hp, hq,
      Path.text_append, Path.text_cons]
    simp [marked, Path.text, String.append_assoc]

/-- The text of a sibling in a closed URL. -/
theorem sibling_text {u v : Url} {a : Authority} {front parts : List String} {part : String}
    (ha : u.authority = some a) (hp : u.path = .segments (front ++ [""])) (hq : u.query = none)
    (hf : u.fragment = none) (h : u.sibling (part :: parts) = .ok v) :
    v.text = u.text ++ part ++ (Path.segments parts).text := by
  obtain ⟨ps, hps, hv⟩ := sibling_eq_ok.mp h
  cases hp.symm.trans hps
  have hva : v.authority = some a := hv ▸ ha
  have hvf : v.fragment = none := hv ▸ rfl
  rw [text_eq hva hvf, text_eq ha hf, hp, hq, ← hv, List.dropLast_concat, Path.text_append,
    Path.text_append, Path.text_cons, Path.text_cons]
  simp [marked, Path.text, String.append_assoc]

/-! ## In front of the path -/

/-- `significant` keeps a last character that is no blank. -/
theorem significant_concat {c : Char} (hc : isBlank c = false) (cs : List Char) :
    significant (cs ++ [c]) = (cs.dropWhile isBlank).filter isKept ++ [c] := by
  rw [significant_eq, Text.dropWhile_stop hc, List.reverse_append, List.reverse_singleton,
    List.singleton_append, List.dropWhile_cons_of_neg (by rw [hc]; nofun), List.reverse_cons,
    List.reverse_reverse, List.filter_append, List.filter_cons_of_pos (isKept_of_not_isBlank hc),
    List.filter_nil]

/-- `significant` keeps a slash behind such a character. -/
theorem significant_slash {c : Char} (hc : isBlank c = false) (cs : List Char) :
    significant (cs ++ [c] ++ ['/']) = significant (cs ++ [c]) ++ ['/'] := by
  rw [significant_concat (by decide), significant_concat hc, Text.dropWhile_stop hc,
    List.filter_append, List.filter_cons_of_pos (isKept_of_not_isBlank hc), List.filter_nil]

theorem splitScheme?_append {cs rest : List Char} {scheme : String}
    (h : splitScheme? cs = some (scheme, rest)) (ys : List Char) :
    splitScheme? (cs ++ ys) = some (scheme, rest ++ ys) := by
  obtain ⟨c, name, rfl, hname⟩ := splitScheme?_eq_some.mp h
  exact splitScheme?_eq_some.mpr ⟨c, name, List.append_assoc _ _ _, hname⟩

/-- `afterServer` is a suffix. -/
theorem afterServer_suffix {cs rest : List Char} {scheme : String}
    (h : splitScheme? cs = some (scheme, rest)) : afterServer rest <:+ cs := by
  obtain ⟨c, name, rfl, -⟩ := splitScheme?_eq_some.mp h
  have hrest : rest <:+ c :: name ++ ':' :: rest :=
    (List.suffix_cons ':' rest).trans (List.suffix_append _ _)
  exact (List.dropWhile_suffix _).trans ((List.dropWhile_suffix _).trans hrest)

/-! ## The path -/

/-- `follow` of an empty segment. -/
theorem follow_nil {f : Family} (last : Bool) (done : List (List Char)) :
    follow f last done [] = [] :: done := by
  have he : entry f done [] = [] := if_neg fun h => nomatch h.2.2
  exact congrArg (· :: done) he

theorem encode_ne_nil (escapes : Char → Bool) {cs : List Char} (h : cs ≠ []) :
    Percent.encode escapes cs ≠ [] := by
  obtain ⟨c, cs, rfl⟩ := List.exists_cons_of_ne_nil h
  rw [Percent.encode, List.flatMap_cons, Percent.encodeChar]
  split
  · obtain ⟨b, bs, hb⟩ := List.exists_cons_of_ne_nil (String.utf8EncodeChar_ne_nil (c := c))
    rw [hb]
    exact List.cons_ne_nil _ _
  · exact List.cons_ne_nil _ _

/-- `follow` of a last segment closes the path if it is a point segment, and otherwise does not. -/
theorem closed_follow {f : Family} (hf : f ≠ .file) (done : List (List Char)) {s : List Char}
    (hs : s ≠ []) :
    closed [] (follow f true done s).reverse = (follow f false done s).reverse ++ [[]] := by
  unfold follow
  dsimp only
  split
  · exact (congrArg _ List.reverse_cons).trans (closed_concat _)
  · split
    · exact (congrArg _ List.reverse_cons).trans (closed_concat _)
    · have he : entry f done s ≠ [] := by
        rw [entry, if_neg fun h => hf h.1]
        exact encode_ne_nil _ hs
      rw [closed, List.getLast?_reverse, List.head?_cons, if_neg (he ∘ Option.some.inj)]

/-- A slash behind the last segment closes the path. -/
theorem walk_slash {f : Family} (hf : f ≠ .file) {s : List Char} (hs : s ≠ [])
    (done ss : List (List Char)) :
    walk f done (ss ++ [s, []]) = closed [] (walk f done (ss ++ [s])) := by
  induction ss generalizing done with
  | nil =>
    rw [List.nil_append, List.nil_append, walk_cons, walk_cons, walk_cons, walk, walk, follow_nil,
      List.reverse_cons]
    exact (closed_follow hf done hs).symm
  | cons t ss ih =>
    rw [List.cons_append, List.cons_append, walk_cons, walk_cons]
    have hlast : (ss ++ [s, []]).isEmpty = (ss ++ [s]).isEmpty := by
      cases ss <;> rfl
    rw [hlast]
    exact ih _

theorem dropSlash_append (f : Family) {cs : List Char} (h : cs ≠ []) (ys : List Char) :
    dropSlash f (cs ++ ys) = dropSlash f cs ++ ys := by
  obtain ⟨c, cs, rfl⟩ := List.exists_cons_of_ne_nil h
  rw [List.cons_append, dropSlash, dropSlash]
  split <;> rfl

theorem dropSlash_concat {f : Family} {c : Char} (hc : isSlash f c = false) (cs : List Char) :
    dropSlash f (cs ++ [c]) = dropSlash f cs ++ [c] := by
  cases cs with
  | nil => exact if_neg (by rw [hc]; nofun)
  | cons d cs => exact dropSlash_append f (List.cons_ne_nil d cs) [c]

/-- A slash behind the text of a path closes it. -/
theorem readSegments_slash {cs : List Char} (h : ∀ c ∈ cs.getLast?, isSlash .web c = false) :
    readSegments .web (cs ++ ['/']) = closed [] (readSegments .web cs) := by
  by_cases hne : cs = []
  · subst hne
    rfl
  · obtain ⟨front, c, rfl⟩ : ∃ front c, cs = front ++ [c] :=
      ⟨_, _, (List.dropLast_concat_getLast hne).symm⟩
    have hc : isSlash .web c = false := h c List.getLast?_concat
    have hsep : c ≠ '/' := by
      rintro rfl
      exact absurd hc (by decide)
    unfold readSegments
    dsimp only
    rw [dropSlash_append _ hne, dropSlash_concat hc, List.map_append, List.map_append,
      List.map_singleton, List.map_singleton, if_neg (by rw [hc]; nofun), if_pos (by decide),
      Text.split_append_split]
    obtain ⟨parts, part, hsplit, hpart⟩ := Text.split_concat hsep
      ((dropSlash .web front).map fun c => if isSlash .web c then '/' else c)
    rw [hsplit, List.append_assoc]
    exact walk_slash (by decide) hpart [] parts

/-! ## The whole URL -/

/-- A slash behind a web URL without query and fragment closes it. -/
theorem ofFollows_slash {scheme : String} {a : Authority} {follows : List Char}
    (hbare : follows.dropWhile (!endsPath ·) = [])
    (h : ∀ c ∈ follows.getLast?, isSlash .web c = false) :
    ofFollows scheme a (follows ++ ['/']) = (ofFollows scheme a follows).closeFolder := by
  have hpath : follows.takeWhile (!endsPath ·) = follows := by
    rw [← List.append_nil (follows.takeWhile _), ← hbare, List.takeWhile_append_dropWhile]
  have hall : ∀ c ∈ follows, (!endsPath c) = true := by
    rw [← hpath]
    exact List.all_eq_true.mp List.all_takeWhile
  rw [closeFolder_eq rfl, ofFollows, ofFollows, List.takeWhile_append_of_pos hall,
    List.dropWhile_append_of_pos hall, hpath, hbare, List.takeWhile_cons_of_pos (by decide),
    List.dropWhile_cons_of_pos (by decide), List.takeWhile_nil, List.dropWhile_nil,
    readSegments_slash h]
  exact congrArg (fun ps => ofRest scheme (some a) (.segments ps) []) (map_closed _)

/-- **Parsing commutes with closing**, for web URLs without query and fragment. -/
theorem parse_slash {s : String} {u : Url} {c : Char} (h : parse s = .ok u)
    (hf : family u.scheme = .web) (hq : u.query = none) (hfr : u.fragment = none)
    (hc : s.toList.getLast? = some c) (hslash : isSlash .web c = false)
    (hblank : isBlank c = false) : parse (s ++ "/") = .ok u.closeFolder := by
  obtain ⟨rest, a, hs, ha, hu⟩ := (parse_web hf).mp h
  obtain ⟨front, hfront⟩ := List.getLast?_eq_some_iff.mp hc
  rw [hfront] at hs
  have hs' : splitScheme? (significant (s ++ "/").toList) = some (u.scheme, rest ++ ['/']) := by
    rw [String.toList_append, hfront]
    exact (congrArg _ (significant_slash hblank front)).trans (splitScheme?_append hs ['/'])
  have hrest : rest.dropWhile (isSlash .web) ≠ [] := by
    intro hnil
    rw [serverText, hnil] at ha
    cases ha
  have hdrop : (rest ++ ['/']).dropWhile (isSlash .web) =
      rest.dropWhile (isSlash .web) ++ ['/'] := by
    rw [List.dropWhile_append, if_neg (by rwa [List.isEmpty_iff])]
  have hlast : ∀ d ∈ (afterServer rest).getLast?, isSlash .web d = false := by
    intro d hd
    obtain ⟨before, hbefore⟩ := afterServer_suffix hs
    have hend := congrArg List.getLast? hbefore
    rw [significant_concat hblank, List.getLast?_concat, List.getLast?_append, hd] at hend
    exact Option.some.inj hend ▸ hslash
  have hbare : (afterServer rest).dropWhile (!endsPath ·) = [] := by
    rw [← bare_ofFollows u.scheme a, hu]
    exact ⟨hq, hfr⟩
  have hscheme := (closeFolder_parts u).1
  refine (parse_web (hscheme.symm ▸ hf)).mpr ⟨rest ++ ['/'], a, ?_⟩
  rw [hscheme, serverText, afterServer, hdrop, Text.takeWhile_stop (by decide),
    Text.dropWhile_stop (by decide)]
  refine ⟨hs', ha, (ofFollows_slash hbare hlast).trans ?_⟩
  rw [hu]

end Url

end TenantApps
