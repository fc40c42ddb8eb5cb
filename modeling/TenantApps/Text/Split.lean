/-!
# `TenantApps.Text.Split` — splitting at separators

## Contents
- `split` and its inverse `join` (`join_split`).
- `afterLast`, the part after the last separator.
-/

namespace TenantApps.Text

/-- The parts between separators, at least one. -/
def split (sep : Char) : List Char → List (List Char)
  | [] => [[]]
  | c :: rest =>
    if c = sep then [] :: split sep rest
    else match split sep rest with
      | [] => [[c]]
      | part :: parts => (c :: part) :: parts

/-- Concatenation with a separator between neighbours. -/
def join (sep : Char) : List (List Char) → List Char
  | [] => []
  | [part] => part
  | part :: parts => part ++ sep :: join sep parts

theorem split_ne_nil (sep : Char) (cs : List Char) : split sep cs ≠ [] := by
  cases cs with
  | nil => simp [split]
  | cons c rest =>
    rw [split]
    split
    · simp
    · split <;> simp

theorem join_split (sep : Char) (cs : List Char) : join sep (split sep cs) = cs := by
  induction cs with
  | nil => rfl
  | cons c rest ih =>
    have hne := split_ne_nil sep rest
    rw [split]
    split
    · next h =>
      subst h
      cases hs : split c rest with
      | nil => exact absurd hs hne
      | cons part parts => rw [hs] at ih; simp [join, ih]
    · cases hs : split sep rest with
      | nil => exact absurd hs hne
      | cons part parts =>
        rw [hs] at ih
        cases parts with
        | nil => simpa [join] using ih
        | cons next parts => simpa [join] using ih

theorem not_mem_of_mem_split {sep : Char} {cs part : List Char} (h : part ∈ split sep cs) :
    sep ∉ part := by
  induction cs generalizing part with
  | nil => simp [split] at h; simp [h]
  | cons c rest ih =>
    rw [split] at h
    split at h
    · rcases List.mem_cons.1 h with rfl | h
      · simp
      · exact ih h
    · next hc =>
      cases hs : split sep rest with
      | nil => exact absurd hs (split_ne_nil sep rest)
      | cons first parts =>
        rw [hs] at h ih
        rcases List.mem_cons.1 h with rfl | h
        · have := ih List.mem_cons_self
          simp only [List.mem_cons, not_or]
          exact ⟨fun e => hc e.symm, this⟩
        · exact ih (List.mem_cons_of_mem _ h)

theorem split_of_not_mem {sep : Char} {cs : List Char} (h : sep ∉ cs) : split sep cs = [cs] := by
  induction cs with
  | nil => rfl
  | cons c rest ih =>
    obtain ⟨hc, hrest⟩ := not_or.mp fun he => h (List.mem_cons.mpr he)
    rw [split, if_neg fun he => hc he.symm, ih hrest]

/-- `split` distributes over concatenation at a separator. -/
theorem split_append_split (sep : Char) (xs ys : List Char) :
    split sep (xs ++ sep :: ys) = split sep xs ++ split sep ys := by
  induction xs with
  | nil =>
    show split sep (sep :: ys) = [] :: split sep ys
    rw [split, if_pos rfl]
  | cons x xs ih =>
    rw [List.cons_append, split, split, ih]
    split
    · rfl
    · cases h : split sep xs with
      | nil => exact absurd h (split_ne_nil sep xs)
      | cons part parts => rfl

/-- The text after the last separator, or the whole text. -/
def afterLast (sep : Char) (cs : List Char) : List Char :=
  (cs.reverse.takeWhile (· ≠ sep)).reverse

end TenantApps.Text
