import TenantApps.Proofs.Wire.Members
import TenantApps.Record.Application

/-!
# `TenantApps.Proofs.Wire.Page` — the list of applications in a page

The list is a member of an object, or the first element of an array. It may be missing, `null` or
empty, with the same meaning. Unknown members are skipped, and no field may occur twice.

## Contents
- `Json.Decoder.items_cons_eq_ok`, inversion of one element, with `length_items` and
  `items_replace`.
- `Json.Decoder.list_eq_ok`, `optional_eq_ok` and `optional_list_eq_ok`, inversion of lists and
  optional values.
- `ApplicationPage.Holds`, the place of the list, and `ApplicationPage.applications_of_decoder`.
- `ApplicationPage.applications_count`, the **main result**.
-/

namespace TenantApps

open Json

/-! ## Lists and optional values -/

namespace Json.Decoder

variable {α : Type} {d : Decoder α}

theorem map_eq_ok {β : Type} {f : α → β} {r : Except Failure α} {b : β} :
    r.map f = .ok b ↔ ∃ a, r = .ok a ∧ b = f a := by
  cases r with
  | error e => exact ⟨nofun, fun ⟨_, h, _⟩ => nomatch h⟩
  | ok a =>
    refine ⟨fun h => ⟨a, rfl, (Except.ok.inj h).symm⟩, fun ⟨a', ha, h⟩ => ?_⟩
    cases ha
    exact congrArg _ h.symm

theorem items_cons_eq_ok {i : Nat} {n : Node} {ns : List Node} {as : List α} :
    items d i (n :: ns) = .ok as ↔
      ∃ a, d n = .ok a ∧ ∃ rest, items d (i + 1) ns = .ok rest ∧ as = a :: rest := by
  rw [items]
  cases d n <;>
    simp only [under, map_eq_ok, reduceCtorEq, Except.ok.injEq, exists_eq_left', false_and,
      exists_false]

theorem length_items {i : Nat} {ns : List Node} {as : List α} (h : items d i ns = .ok as) :
    as.length = ns.length := by
  induction ns generalizing i as with
  | nil =>
    cases h
    rfl
  | cons n ns ih =>
    obtain ⟨a, -, rest, hrest, rfl⟩ := items_cons_eq_ok.mp h
    rw [List.length_cons, List.length_cons, ih hrest]

/-- An element may be replaced by one that decodes to the same value. -/
theorem items_replace {n n' : Node} (hn : ∀ v, d n = .ok v → d n' = .ok v)
    {front back : List Node} {i : Nat} {as : List α}
    (h : items d i (front ++ n :: back) = .ok as) : items d i (front ++ n' :: back) = .ok as := by
  induction front generalizing i as with
  | nil =>
    obtain ⟨a, ha, hrest⟩ := items_cons_eq_ok.mp h
    exact items_cons_eq_ok.mpr ⟨a, hn a ha, hrest⟩
  | cons m front ih =>
    obtain ⟨a, ha, rest, hrest, has⟩ := items_cons_eq_ok.mp h
    exact items_cons_eq_ok.mpr ⟨a, ha, rest, ih hrest, has⟩

/-- Inversion of `list`. -/
theorem list_eq_ok {n : Node} {as : List α} :
    list d n = .ok as ↔ ∃ ns, n = .array ns none ∧ items d 0 ns = .ok as := by
  unfold list
  split
  · next ns fault =>
    split
    · next hi =>
      refine ⟨nofun, ?_⟩
      rintro ⟨_, ⟨⟩, hi'⟩
      cases hi.symm.trans hi'
    · exact ⟨nofun, fun ⟨_, hn, _⟩ => nomatch hn⟩
    · next hi =>
      refine ⟨fun h => ⟨ns, rfl, hi.trans h⟩, ?_⟩
      rintro ⟨_, ⟨⟩, hi'⟩
      exact hi.symm.trans hi'
  · next hne =>
    exact ⟨fun h => absurd h (n.refuse_ne_ok _ as), fun ⟨ns, hn, _⟩ => (hne ns none hn).elim⟩

theorem optional_eq_ok {n : Node} {x : Option α} : optional d n = .ok x ↔
    n = .null ∧ x = none ∨
      n ≠ .null ∧ (∀ f, n ≠ .broken .null f) ∧ ∃ v, d n = .ok v ∧ x = some v := by
  unfold optional
  split
  · exact ⟨fun h => .inl ⟨rfl, (Except.ok.inj h).symm⟩,
      fun h => h.elim (fun h => congrArg _ h.2.symm) fun h => absurd rfl h.1⟩
  · next f =>
    exact ⟨nofun, fun h => h.elim (fun h => nomatch h.1) fun h => absurd rfl (h.2.1 f)⟩
  · next hnull hbroken =>
    rw [map_eq_ok, or_iff_right fun h => hnull h.1]
    exact ⟨fun h => ⟨hnull, hbroken, h⟩, fun h => h.2.2⟩

/-- Inversion of `optional` of a `list`. -/
theorem optional_list_eq_ok {n : Node} {x : Option (List α)} :
    optional (list d) n = .ok x ↔ n = .null ∧ x = none ∨
      ∃ ns as, n = .array ns none ∧ items d 0 ns = .ok as ∧ x = some as := by
  rw [optional_eq_ok]
  constructor
  · rintro (hnull | ⟨-, -, as, has, rfl⟩)
    · exact .inl hnull
    · obtain ⟨ns, rfl, hi⟩ := list_eq_ok.mp has
      exact .inr ⟨ns, as, rfl, hi, rfl⟩
  · rintro (hnull | ⟨ns, as, rfl, hi, rfl⟩)
    · exact .inl hnull
    · have hbroken (f : Fault) : Node.array ns none ≠ .broken .null f := nofun
      exact .inr ⟨nofun, hbroken, as, list_eq_ok.mpr ⟨ns, rfl, hi⟩, rfl⟩

end Json.Decoder

/-! ## Lists of applications -/

namespace ApplicationPage

variable {n : Node} {page : ApplicationPage}

/-- **`Holds n v`**: `v` is the value of `applications` in the page `n`. -/
inductive Holds : Node → Node → Prop
  | member {ms : List Json.Member} {fault : Option Fault} {v : Node}
    (h : (.ok "applications", v) ∈ ms) : Holds (.object ms fault) v
  | head {v : Node} {ns : List Node} {fault : Option Fault} : Holds (.array (v :: ns) fault) v

theorem field?_name (f : Field) : schema.field? (schema.name f) = some f := by
  cases f <;> rfl

/-- A decoded page has no `applications`, or exactly one value for it, from which it is decoded. -/
theorem applications_of_decoder (h : decoder n = .ok page) :
    page.applications = none ∧ (∀ v, ¬Holds n v) ∨
      ∃ v, (∀ v', Holds n v' ↔ v' = v) ∧
        Decoder.optional (.list ApplicationRecord.decoder) v = .ok page.applications := by
  cases n with
  | object ms fault =>
    have holds (v : Node) : Holds (.object ms fault) v ↔ (.ok "applications", v) ∈ ms :=
      ⟨fun | .member h => h, .member⟩
    simp only [holds]
    replace h : schema.decoder (.object ms fault) = .ok page := h
    unfold Schema.decoder at h
    dsimp only at h
    split at h
    · cases h
    · cases h
    next hm =>
    cases h
    obtain ⟨hnone, hno⟩ | ⟨-, v, found, hv, hd, hslot⟩ :=
      Schema.members_slot (s := schema) field?_name hm Field.applications
    · exact .inl ⟨congrArg Option.join hnone, hno⟩
    · refine .inr ⟨v, hv, hd.trans (congrArg _ ?_)⟩
      exact (congrArg Option.join hslot).symm
  | array ns fault =>
    replace h : schema.decoder (.array ns fault) = .ok page := h
    unfold Schema.decoder at h
    dsimp only at h
    split at h
    · cases h
    next hm =>
    cases h
    cases ns with
    | nil =>
      refine .inl ⟨?_, fun _ hv => nomatch hv⟩
      rw [Schema.elements_done (.inr rfl) hm]
      rfl
    | cons v rest =>
      refine .inr ⟨v, fun v' => ⟨fun | .head => rfl, fun | rfl => .head⟩, ?_⟩
      have hother : Field.applications ∉ [Field.totalResults] := by decide
      obtain ⟨found, hd, hslot⟩ := Schema.elements_head (s := schema) hm hother
      exact hd.trans (congrArg _ (congrArg Option.join hslot).symm)
  | null | bool b | number x | text x | broken place f =>
    simp only [decoder, Schema.decoder] at h
    exact absurd h (Node.refuse_ne_ok _ _ page)

/-- **The number of applications in a page.** There is none if and only if the list is missing,
`null` or empty; otherwise there are as many as elements. -/
theorem applications_count (h : decoder n = .ok page) :
    (page.applications.getD [] = [] ↔
      (∀ v, ¬Holds n v) ∨ Holds n .null ∨ Holds n (.array [] none)) ∧
    ∀ ns, Holds n (.array ns none) → (page.applications.getD []).length = ns.length := by
  obtain ⟨hnone, hno⟩ | ⟨v, hv, hd⟩ := applications_of_decoder h
  · rw [hnone]
    exact ⟨⟨fun _ => .inl hno, fun _ => rfl⟩, fun ns hns => absurd hns (hno _)⟩
  · have hsome : ¬∀ v, ¬Holds n v := fun hno => hno v ((hv v).mpr rfl)
    rw [or_iff_right hsome]
    simp only [hv]
    obtain ⟨rfl, hnone⟩ | ⟨ns, as, rfl, hi, has⟩ := Decoder.optional_list_eq_ok.mp hd
    · rw [hnone]
      exact ⟨⟨fun _ => .inl rfl, fun _ => rfl⟩, nofun⟩
    · have hlength := Decoder.length_items hi
      rw [has, Option.getD_some]
      refine ⟨⟨fun he => ?_, ?_⟩, ?_⟩
      · rw [he] at hlength
        rw [List.length_eq_zero_iff.mp hlength.symm]
        exact .inr rfl
      · rintro (hnull | hempty)
        · cases hnull
        · cases hempty
          exact List.length_eq_zero_iff.mp hlength
      · rintro ns' ⟨⟩
        exact hlength

end ApplicationPage

end TenantApps
