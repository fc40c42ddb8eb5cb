import TenantApps.Json.Schema

/-!
# `TenantApps.Proofs.Wire.Members` — decoding the members of a record

`Schema.members` decodes members one after the other into slots and refuses a field that occurs
twice. Two decoded members thus belong to different fields, and they commute. In a list,
`Schema.elements` decodes each field from the element at its index.

## Contents
- `Json.Schema.name_injective`, names of fields.
- `Json.Schema.member_eq_ok`, inversion of one member, and `Json.Schema.member_comm`, **two members
  commute**.
- `Json.Schema.members_perm`, permutations, and `Json.Schema.members_middle`, with `members_insert`
  and `members_replace`.
- `Json.Schema.members_slot`: a slot comes from the only member of its name.
- `Json.Schema.elements_cons_eq_ok`, inversion of one element, with `elements_kept`, `elements_head`
  and `elements_replace`.
- `Json.Schema.decoder_object_eq_ok` and `decoder_array_eq_ok`, inversion of a record.
-/

namespace TenantApps.Json

theorem Node.refuse_ne_ok {α : Type} (n : Node) (expected : String) (a : α) :
    n.refuse expected ≠ .ok a := by
  unfold refuse
  split <;> nofun

/-! ## Members -/

namespace Schema

variable {α : Type} {s : Schema α} {slots slots' : s.Slots} {f : s.Field}

theorem fill_self (slots : s.Slots) (f : s.Field) (v : s.Slot f) : s.fill slots f v f = some v := by
  rw [fill, dif_pos rfl]

theorem fill_of_ne {g : s.Field} (h : f ≠ g) (slots : s.Slots) (v : s.Slot f) :
    s.fill slots f v g = slots g := by
  rw [fill, dif_neg h]

theorem name_of_field? {name : String} (h : s.field? name = some f) : s.name f = name := by
  have hbeq := List.find?_some h
  exact eq_of_beq hbeq

/-- `name` is injective if `field?` is its left inverse. -/
theorem name_injective (hf : ∀ g, s.field? (s.name g) = some g) {g : s.Field}
    (h : s.name f = s.name g) : f = g := by
  have hsame := hf f
  rw [h, hf] at hsame
  exact (Option.some.inj hsame).symm

/-- A member without a field is skipped. -/
theorem member_of_none {name : String} (hf : s.field? name = none) {n : Node} :
    s.member slots (.ok name, n) = .ok slots' ↔ n.skipFault? = none ∧ slots' = slots := by
  simp only [member, hf]
  split
  · exact ⟨nofun, fun ⟨h, _⟩ => nomatch h⟩
  · cases n.skipFault? with
    | none => exact ⟨fun h => ⟨rfl, (Except.ok.inj h).symm⟩, fun h => congrArg _ h.2.symm⟩
    | some r => exact ⟨nofun, nofun⟩

/-- A member of the field `f` fills its slot, which must be empty. -/
theorem member_of_some {name : String} (hf : s.field? name = some f) {n : Node} :
    s.member slots (.ok name, n) = .ok slots' ↔ slots f = none ∧ (∀ e, n ≠ .broken .colon e) ∧
      ∃ v, s.slot f n = .ok v ∧ slots' = s.fill slots f v := by
  simp only [member, hf]
  cases slots f with
  | some w => exact ⟨nofun, nofun⟩
  | none =>
    rw [Option.isSome_none, if_neg Bool.false_ne_true, and_iff_right rfl]
    split
    · next e => exact ⟨nofun, fun h => absurd rfl (h.1 e)⟩
    · next hcolon =>
      rw [and_iff_right hcolon]
      cases s.slot f n with
      | error e => exact ⟨nofun, fun ⟨_, h, _⟩ => nomatch h⟩
      | ok v =>
        refine ⟨fun h => ⟨v, rfl, (Except.ok.inj h).symm⟩, fun ⟨w, hw, h⟩ => ?_⟩
        cases hw
        exact congrArg _ h.symm

/-- Inversion of `member`. -/
theorem member_eq_ok {m : Member} : s.member slots m = .ok slots' ↔ ∃ name, m.1 = .ok name ∧
    (s.field? name = none ∧ m.2.skipFault? = none ∧ slots' = slots ∨
      ∃ f v, s.field? name = some f ∧ slots f = none ∧ (∀ e, m.2 ≠ .broken .colon e) ∧
        s.slot f m.2 = .ok v ∧ slots' = s.fill slots f v) := by
  obtain ⟨key, value⟩ := m
  cases key with
  | error r => exact ⟨nofun, fun ⟨_, h, _⟩ => nomatch h⟩
  | ok name =>
    cases hf : s.field? name with
    | none =>
      rw [member_of_none hf]
      constructor
      · rintro ⟨hskip, rfl⟩
        exact ⟨name, rfl, .inl ⟨hf, hskip, rfl⟩⟩
      · rintro ⟨_, ⟨⟩, ⟨-, h⟩ | ⟨g, v, hg, -⟩⟩
        · exact h
        · cases hf.symm.trans hg
    | some f =>
      rw [member_of_some hf]
      constructor
      · rintro ⟨hempty, hcolon, v, hv, rfl⟩
        exact ⟨name, rfl, .inr ⟨f, v, hf, hempty, hcolon, hv, rfl⟩⟩
      · rintro ⟨_, ⟨⟩, ⟨hnone, -⟩ | ⟨g, v, hg, hempty, hcolon, hv, hfill⟩⟩
        · cases hf.symm.trans hnone
        · cases hf.symm.trans hg
          exact ⟨hempty, hcolon, v, hv, hfill⟩

theorem members_cons_eq_ok {m : Member} {ms : List Member} :
    s.members slots (m :: ms) = .ok slots' ↔
      ∃ between, s.member slots m = .ok between ∧ s.members between ms = .ok slots' := by
  rw [members]
  cases s.member slots m <;>
    simp only [reduceCtorEq, Except.ok.injEq, exists_eq_left', false_and, exists_false]

theorem fill_comm {f g : s.Field} (h : f ≠ g) (slots : s.Slots) (v : s.Slot f) (w : s.Slot g) :
    s.fill (s.fill slots f v) g w = s.fill (s.fill slots g w) f v := by
  funext k
  by_cases hf : f = k
  · subst hf
    rw [fill_of_ne h.symm, fill_self, fill_self]
  · by_cases hg : g = k
    · subst hg
      rw [fill_self, fill_of_ne hf, fill_self]
    · rw [fill_of_ne hg, fill_of_ne hf, fill_of_ne hf, fill_of_ne hg]

/-- **Two members commute.** -/
theorem member_comm {m m' : Member} {between : s.Slots} (h : s.member slots m = .ok between)
    (h' : s.member between m' = .ok slots') :
    ∃ other, s.member slots m' = .ok other ∧ s.member other m = .ok slots' := by
  simp only [member_eq_ok] at h h' ⊢
  obtain ⟨name, hname, ⟨hnone, hskip, rfl⟩ | ⟨f, v, hf, hempty, hcolon, hv, rfl⟩⟩ := h
  · exact ⟨slots', h', name, hname, .inl ⟨hnone, hskip, rfl⟩⟩
  · obtain ⟨name', hname', ⟨hnone', hskip', rfl⟩ | ⟨g, w, hg, hempty', hcolon', hw, rfl⟩⟩ := h'
    · exact ⟨slots, ⟨name', hname', .inl ⟨hnone', hskip', rfl⟩⟩,
        name, hname, .inr ⟨f, v, hf, hempty, hcolon, hv, rfl⟩⟩
    · -- the second field has no value when its member is read, so it is not the first one
      have hne : f ≠ g := by
        rintro rfl
        rw [fill_self] at hempty'
        cases hempty'
      rw [fill_of_ne hne] at hempty'
      refine ⟨s.fill slots g w, ⟨name', hname', .inr ⟨g, w, hg, hempty', hcolon', hw, rfl⟩⟩,
        name, hname, .inr ⟨f, v, hf, ?_, hcolon, hv, fill_comm hne slots v w⟩⟩
      rw [fill_of_ne hne.symm, hempty]

/-- **The order of members does not matter.** -/
theorem members_perm {ms ms' : List Member} (h : ms.Perm ms') {slots slots' : s.Slots}
    (hm : s.members slots ms = .ok slots') : s.members slots ms' = .ok slots' := by
  induction h generalizing slots with
  | nil => exact hm
  | cons m _ ih =>
    obtain ⟨between, hfirst, hrest⟩ := members_cons_eq_ok.mp hm
    exact members_cons_eq_ok.mpr ⟨between, hfirst, ih hrest⟩
  | swap m m' ms =>
    obtain ⟨between, hfirst, hmore⟩ := members_cons_eq_ok.mp hm
    obtain ⟨behind, hsecond, hrest⟩ := members_cons_eq_ok.mp hmore
    obtain ⟨other, hsecond', hfirst'⟩ := member_comm hfirst hsecond
    exact members_cons_eq_ok.mpr ⟨other, hsecond', members_cons_eq_ok.mpr ⟨behind, hfirst', hrest⟩⟩
  | trans _ _ ih ih' => exact ih' (ih hm)

/-- A member may be moved to the front. -/
theorem members_middle {m : Member} {front back : List Member} :
    s.members slots (front ++ m :: back) = .ok slots' ↔
      s.members slots (m :: (front ++ back)) = .ok slots' :=
  ⟨members_perm List.perm_middle, members_perm List.perm_middle.symm⟩

/-- A member without a field may be inserted. -/
theorem members_insert {name : String} (hnone : s.field? name = none) {n : Node}
    (hskip : n.skipFault? = none) {front back : List Member}
    (h : s.members slots (front ++ back) = .ok slots') :
    s.members slots (front ++ (.ok name, n) :: back) = .ok slots' := by
  have hm : s.member slots (.ok name, n) = .ok slots := (member_of_none hnone).mpr ⟨hskip, rfl⟩
  exact members_middle.mpr (members_cons_eq_ok.mpr ⟨slots, hm, h⟩)

/-- A value may be replaced by one that decodes to the same slot. -/
theorem members_replace {name : String} (hf : s.field? name = some f) {n n' : Node}
    (hn : ∀ v, s.slot f n = .ok v → s.slot f n' = .ok v) (hcolon : ∀ e, n' ≠ .broken .colon e)
    {front back : List Member} (h : s.members slots (front ++ (.ok name, n) :: back) = .ok slots') :
    s.members slots (front ++ (.ok name, n') :: back) = .ok slots' := by
  obtain ⟨between, hm, hrest⟩ := members_cons_eq_ok.mp (members_middle.mp h)
  obtain ⟨hempty, -, v, hv, hfill⟩ := (member_of_some hf).mp hm
  have hm' : s.member slots (.ok name, n') = .ok between :=
    (member_of_some hf).mpr ⟨hempty, hcolon, v, hn v hv, hfill⟩
  exact members_middle.mpr (members_cons_eq_ok.mpr ⟨between, hm', hrest⟩)

/-- `member` keeps the slot of `f`, or fills it and has its name. -/
theorem member_slot (hf : ∀ g, s.field? (s.name g) = some g) {m : Json.Member}
    (h : s.member slots m = .ok slots') (f : s.Field) :
    slots' f = slots f ∧ m.1 ≠ .ok (s.name f) ∨
      m.1 = .ok (s.name f) ∧ slots f = none ∧ ∃ v, s.slot f m.2 = .ok v ∧ slots' f = some v := by
  obtain ⟨name, hname, ⟨hnone, -, rfl⟩ | ⟨g, v, hg, hempty, -, hv, rfl⟩⟩ := member_eq_ok.mp h
  · -- no field has the name, so nothing changes
    refine .inl ⟨rfl, fun he => ?_⟩
    cases hname.symm.trans he
    rw [hf] at hnone
    cases hnone
  · obtain rfl := name_of_field? hg
    by_cases hfg : g = f
    · subst hfg
      exact .inr ⟨hname, hempty, v, hv, fill_self slots g v⟩
    · refine .inl ⟨fill_of_ne hfg slots v, fun he => hfg ?_⟩
      exact name_injective hf (Except.ok.inj (hname.symm.trans he))

/-- `members` keeps the slot of `f` and has no member of its name, or fills it from the only one. -/
theorem members_slot (hf : ∀ g, s.field? (s.name g) = some g) {ms : List Json.Member}
    (h : s.members slots ms = .ok slots') (f : s.Field) :
    slots' f = slots f ∧ (∀ n, (.ok (s.name f), n) ∉ ms) ∨
      slots f = none ∧ ∃ n v, (∀ n', (.ok (s.name f), n') ∈ ms ↔ n' = n) ∧
        s.slot f n = .ok v ∧ slots' f = some v := by
  induction ms generalizing slots with
  | nil =>
    cases h
    exact .inl ⟨rfl, fun _ hm => nomatch hm⟩
  | cons m ms ih =>
    obtain ⟨key, value⟩ := m
    obtain ⟨between, hm, h⟩ := members_cons_eq_ok.mp h
    obtain ⟨hkeep, hkey⟩ | ⟨hkey, hnone, v, hv, hfill⟩ := member_slot hf hm f
    · -- the first member is another one
      have other (n : Node) : (.ok (s.name f), n) ∈ (key, value) :: ms ↔
          (.ok (s.name f), n) ∈ ms := by
        rw [List.mem_cons, or_iff_right]
        intro he
        exact hkey (congrArg Prod.fst he).symm
      simp only [other, ← hkeep]
      exact ih h
    · -- the first member is the one, and no later one has the name
      dsimp only at hkey hv
      obtain ⟨hlast, hno⟩ | ⟨hempty, -⟩ := ih h
      · refine .inr ⟨hnone, value, v, fun n' => ?_, hv, hlast.trans hfill⟩
        rw [hkey, List.mem_cons, or_iff_left (hno n'), Prod.mk.injEq, and_iff_right rfl]
      · rw [hfill] at hempty
        cases hempty

/-! ## Elements -/

theorem elements_cons_eq_ok {fault : Option Fault} {i : Nat} {fs : List s.Field} {n : Node}
    {ns : List Node} : s.elements fault i slots (f :: fs) (n :: ns) = .ok slots' ↔
      ∃ v, s.slot f n = .ok v ∧ s.elements fault (i + 1) (s.fill slots f v) fs ns = .ok slots' := by
  rw [elements]
  cases s.slot f n <;>
    simp only [Decoder.under, reduceCtorEq, Except.ok.injEq, exists_eq_left', false_and,
      exists_false]

/-- `elements` without a field or an element left. -/
theorem elements_done {fault : Option Fault} {i : Nat} {fs : List s.Field} {ns : List Node}
    (hend : fs = [] ∨ ns = []) (h : s.elements fault i slots fs ns = .ok slots') :
    slots' = slots := by
  unfold elements at h
  split at h
  · split at h <;> cases h
    rfl
  · split at h <;> cases h
    rfl
  · exact hend.elim nofun nofun

/-- `elements` keeps the slots of other fields. -/
theorem elements_kept {fault : Option Fault} {i : Nat} {fs : List s.Field} {ns : List Node}
    (h : s.elements fault i slots fs ns = .ok slots') (hf : f ∉ fs) : slots' f = slots f := by
  induction fs generalizing i slots ns with
  | nil => rw [elements_done (.inl rfl) h]
  | cons g fs ih =>
    cases ns with
    | nil => rw [elements_done (.inr rfl) h]
    | cons n ns =>
      obtain ⟨v, -, hrest⟩ := elements_cons_eq_ok.mp h
      rw [ih hrest (List.not_mem_of_not_mem_cons hf), fill_of_ne (List.ne_of_not_mem_cons hf).symm]

/-- `elements` fills the slot of the first field from the first element. -/
theorem elements_head {fault : Option Fault} {i : Nat} {fs : List s.Field} {n : Node}
    {ns : List Node} (h : s.elements fault i slots (f :: fs) (n :: ns) = .ok slots')
    (hf : f ∉ fs) : ∃ v, s.slot f n = .ok v ∧ slots' f = some v := by
  obtain ⟨v, hv, hrest⟩ := elements_cons_eq_ok.mp h
  exact ⟨v, hv, (elements_kept hrest hf).trans (fill_self slots f v)⟩

/-- An element may be replaced by one that decodes to the same slot. -/
theorem elements_replace {fault : Option Fault} {n n' : Node}
    (hn : ∀ v, s.slot f n = .ok v → s.slot f n' = .ok v) {front back : List Node}
    {i : Nat} {fs : List s.Field} (hf : fs[front.length]? = some f)
    (h : s.elements fault i slots fs (front ++ n :: back) = .ok slots') :
    s.elements fault i slots fs (front ++ n' :: back) = .ok slots' := by
  induction front generalizing i fs slots with
  | nil =>
    cases fs with
    | nil => cases hf
    | cons g rest =>
      cases hf
      obtain ⟨v, hv, hrest⟩ := elements_cons_eq_ok.mp h
      exact elements_cons_eq_ok.mpr ⟨v, hn v hv, hrest⟩
  | cons m front ih =>
    cases fs with
    | nil => cases hf
    | cons g rest =>
      obtain ⟨v, hv, hrest⟩ := elements_cons_eq_ok.mp h
      exact elements_cons_eq_ok.mpr ⟨v, hv, ih hf hrest⟩

/-! ## Records -/

variable {v : α}

theorem decoder_object_eq_ok {ms : List Member} : s.decoder (.object ms none) = .ok v ↔
    ∃ slots, s.members s.noSlots ms = .ok slots ∧ s.make slots = .ok v := by
  simp only [decoder]
  cases s.members s.noSlots ms with
  | error e => simp only [reduceCtorEq, false_and, exists_false]
  | ok slots =>
    simp only [Except.ok.injEq, exists_eq_left']
    cases s.make slots <;> simp only [Except.ok.injEq, reduceCtorEq]

theorem decoder_array_eq_ok {ns : List Node} : s.decoder (.array ns none) = .ok v ↔
    ∃ slots, s.elements none 0 s.noSlots s.fields ns = .ok slots ∧ s.make slots = .ok v := by
  simp only [decoder]
  cases s.elements none 0 s.noSlots s.fields ns with
  | error e => simp only [reduceCtorEq, false_and, exists_false]
  | ok slots =>
    simp only [Except.ok.injEq, exists_eq_left']
    cases s.make slots <;> simp only [Except.ok.injEq, reduceCtorEq]

end Schema

end TenantApps.Json
