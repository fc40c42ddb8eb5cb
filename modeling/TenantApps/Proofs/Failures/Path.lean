import TenantApps.Proofs.Creation.Replay
import TenantApps.Proofs.Wire.Rearrangement
import TenantApps.Proofs.Wire.Uuid

/-!
# `TenantApps.Proofs.Failures.Path` — the path of a decoding error

A lookup response is a page with a list of records. If a record does not decode, the `Json.Failure`
of the page is the failure of the first such record with the path of the list element in front of
it: `applications[i]`, then the path that the record has when it is decoded by itself. Elements
behind it make no difference.

## Contents
- `Json.Failure.pathText_record`, the text of a path into a list of records.
- `Json.Schema.Accepts`, members that decode, and `Json.Schema.ButFor`, objects that decode but for
  one field, with `members_butFor` and `decoder_butFor`, which compute their failure.
- `Json.Decoder.items_error` and `optional_list_error`, the same for lists.
- `ApplicationPage.Breaks`, a page with a bad record, and `Directory.first_bad_record`, the **main
  result**.
-/

namespace TenantApps

open Json Procedure

namespace Json

/-! ## Paths -/

namespace Failure

theorem below_path (s : Step) (e : Failure) : (e.below s).path = s :: e.path := rfl

/-- The `pathText` of a failure in element `i` of the list `name` of the outermost object. -/
theorem pathText_record (name : String) (i : Nat) (e : Failure) :
    ((e.below (.item i)).below (.member name)).pathText =
      name ++ "[" ++ toString i ++ "]" ++ pathFrom "." e.path := by
  rw [pathText, below_path, below_path, if_neg (List.cons_ne_nil _ _), pathFrom, pathFrom,
    String.empty_append]
  simp only [String.append_assoc]

end Failure

/-! ## Objects that decode but for one field -/

namespace Schema

variable {α : Type} {s : Schema α} {f : s.Field} {slots : s.Slots}

/-- `Schema.member` fails with the failure of the slot of `f`, below the name of the member. -/
theorem member_error {name : String} (hf : s.field? name = some f) (hempty : slots f = none)
    {n : Node} (hcolon : ∀ e, n ≠ .broken .colon e) {e : Failure} (he : s.slot f n = .error e) :
    s.member slots (.ok name, n) = .error (e.below (.member name)) := by
  simp only [member, hf]
  rw [hempty, Option.isSome_none, if_neg Bool.false_ne_true, he]
  rfl

/-- **`Accepts`**: the name of the member is a string, and if it is the name of a field, the value
decodes for that field. -/
def Accepts (s : Schema α) (m : Spaced Spelling × Spaced Phrase) : Prop :=
  ∃ name, m.1.body.text = .ok name ∧
    ∀ g, s.name g = name → ∃ x, decodeWhole (s.slot g) m.2.body.bytes = .ok x

/-- **`ButFor`**: the object decodes but for the field `f`, whose value is `bad`. Unknown members
with any values are allowed, and any other field may be missing. -/
structure ButFor (s : Schema α) (f : s.Field) (bad : Phrase)
    (members : List (Spaced Spelling × Spaced Phrase)) : Prop where
  /-- No field occurs twice. -/
  once : members.Pairwise fun m m' =>
    ∀ g, m.1.body.text = .ok (s.name g) → m'.1.body.text ≠ .ok (s.name g)
  here : ∃ m ∈ members, m.1.body.text = .ok (s.name f) ∧ m.2.body = bad
  others : ∀ m ∈ members, m.1.body.text ≠ .ok (s.name f) → s.Accepts m

variable {bad : Phrase} {m : Spaced Spelling × Spaced Phrase}
  {members : List (Spaced Spelling × Spaced Phrase)}

/-- A member of a field is accepted if its value decodes. -/
theorem accepts_of_name (hnames : ∀ g, s.field? (s.name g) = some g)
    (hname : m.1.body.text = .ok (s.name f)) {x : s.Slot f}
    (hx : decodeWhole (s.slot f) m.2.body.bytes = .ok x) : s.Accepts m := by
  refine ⟨s.name f, hname, fun g hg => ?_⟩
  cases name_injective hnames hg
  exact ⟨x, hx⟩

/-- Introduction: an object with the field `f` only. -/
theorem ButFor.single (hname : m.1.body.text = .ok (s.name f)) (hbad : m.2.body = bad) :
    s.ButFor f bad [m] where
  once := List.pairwise_singleton _ _
  here := ⟨m, List.mem_singleton_self m, hname, hbad⟩
  others := List.forall_mem_singleton.mpr (absurd hname)

/-- Introduction: one more accepted member with a new name in front. -/
theorem ButFor.cons (h : s.ButFor f bad members) (hm : s.Accepts m)
    (hnew : ∀ m' ∈ members, m.1.body.text ≠ m'.1.body.text) : s.ButFor f bad (m :: members) where
  once := List.pairwise_cons.mpr
    ⟨fun m' hm' _ hname hname' => hnew m' hm' (hname.trans hname'.symm), h.once⟩
  here := by
    obtain ⟨m', hm', hfound⟩ := h.here
    exact ⟨m', List.mem_cons_of_mem _ hm', hfound⟩
  others := List.forall_mem_cons.mpr ⟨fun _ => hm, h.others⟩

/-- Inversion: the first member is the field `f`, or it is accepted and `f` is behind it. -/
theorem ButFor.cases (h : s.ButFor f bad (m :: members)) :
    m.1.body.text = .ok (s.name f) ∧ m.2.body = bad ∨ s.Accepts m ∧ s.ButFor f bad members := by
  obtain ⟨hfirst, honce⟩ := List.pairwise_cons.mp h.once
  obtain ⟨hread, hothers⟩ := List.forall_mem_cons.mp h.others
  obtain ⟨m', hm', hname, hbad⟩ := h.here
  rcases List.mem_cons.mp hm' with rfl | hm'
  · exact .inl ⟨hname, hbad⟩
  · exact .inr ⟨hread fun he => hfirst m' hm' f he hname, honce, ⟨m', hm', hname, hbad⟩, hothers⟩

/-- An accepted member decodes and changes the slot of its own field only. -/
theorem Accepts.member (h : s.Accepts m)
    (hempty : ∀ g, m.1.body.text = .ok (s.name g) → slots g = none) :
    ∃ slots', s.member slots (m.1.body.text, m.2.body.node) = .ok slots' ∧
      ∀ g, m.1.body.text ≠ .ok (s.name g) → slots' g = slots g := by
  obtain ⟨name, hname, hread⟩ := h
  cases hg : s.field? name with
  | none =>
    refine ⟨slots, ?_, fun _ _ => rfl⟩
    rw [hname]
    exact (member_of_none hg).mpr ⟨m.2.body.skipFault?_node, rfl⟩
  | some g =>
    obtain rfl := name_of_field? hg
    obtain ⟨x, hx⟩ := hread g rfl
    rw [Phrase.decodeWhole_bare] at hx
    refine ⟨s.fill slots g x, ?_, fun g' hg' => fill_of_ne ?_ slots x⟩
    · rw [hname]
      exact (member_of_some hg).mpr
        ⟨hempty g hname, m.2.body.node_ne_broken .colon, x, hx, rfl⟩
    · rintro rfl
      exact hg' hname

/-- `Schema.members` fails at the field `f`: induction on the members in front of it. -/
theorem members_butFor (hnames : ∀ g, s.field? (s.name g) = some g) (h : s.ButFor f bad members)
    {e : Failure} (he : decodeWhole (s.slot f) bad.bytes = .error e)
    (hempty : ∀ m ∈ members, ∀ g, m.1.body.text = .ok (s.name g) → slots g = none) :
    s.members slots (members.map fun m => (m.1.body.text, m.2.body.node)) =
      .error (e.below (.member (s.name f))) := by
  induction members generalizing slots with
  | nil =>
    obtain ⟨m, hm, -⟩ := h.here
    cases hm
  | cons m members ih =>
    obtain ⟨hslots, hempty⟩ := List.forall_mem_cons.mp hempty
    rw [List.map_cons, Schema.members]
    obtain ⟨hname, rfl⟩ | ⟨hread, hbehind⟩ := h.cases
    · have hcolon := m.2.body.node_ne_broken .colon
      rw [Phrase.decodeWhole_bare] at he
      rw [hname, member_error (hnames f) (hslots f hname) hcolon he]
    · obtain ⟨slots', hm, hkeep⟩ := hread.member hslots
      rw [hm]
      refine ih hbehind fun m' hm' g hname => ?_
      -- the first member is of another field, since no field is there twice
      have hne : m.1.body.text ≠ .ok (s.name g) := fun hfirst =>
        (List.pairwise_cons.mp h.once).1 m' hm' g hfirst hname
      rw [hkeep g hne]
      exact hempty m' hm' g hname

/-- **The failure of a `ButFor` object** is the failure of the field, below its name. -/
theorem decoder_butFor (hnames : ∀ g, s.field? (s.name g) = some g) (h : s.ButFor f bad members)
    {e : Failure} (he : decodeWhole (s.slot f) bad.bytes = .error e) (blank : Gap) :
    s.decoder (Phrase.object blank members).node = .error (e.below (.member (s.name f))) := by
  have hmembers : s.members s.noSlots (members.map fun m => (m.1.body.text, m.2.body.node)) =
      .error (e.below (.member (s.name f))) := members_butFor hnames h he fun _ _ _ _ => rfl
  rw [Phrase.node, Phrase.memberNodes_eq]
  simp only [decoder, hmembers]

end Schema

/-! ## Lists -/

namespace Decoder

variable {α : Type} {d : Decoder α} {front : List Node} {n : Node} {e : Failure}

/-- The failure of `items` is the failure of the first element that does not decode. -/
theorem items_error (hfront : ∀ m ∈ front, ∃ a, d m = .ok a) (hn : d n = .error e)
    (back : List Node) (i : Nat) :
    items d i (front ++ n :: back) = .error (e.below (.item (i + front.length))) := by
  induction front generalizing i with
  | nil =>
    rw [List.nil_append, items, hn]
    rfl
  | cons m front ih =>
    obtain ⟨⟨a, ha⟩, hfront⟩ := List.forall_mem_cons.mp hfront
    rw [List.cons_append, items, ha]
    show (items d (i + 1) (front ++ n :: back)).map _ = _
    rw [ih hfront, List.length_cons, Nat.add_right_comm, Nat.add_assoc]
    rfl

theorem optional_list_error (hfront : ∀ m ∈ front, ∃ a, d m = .ok a) (hn : d n = .error e)
    (back : List Node) :
    optional (list d) (.array (front ++ n :: back) none) =
      .error (e.below (.item front.length)) := by
  have hitems := items_error hfront hn back 0
  rw [Nat.zero_add] at hitems
  simp only [optional, list, hitems]
  rfl

end Decoder

end Json

/-! ## Lookups -/

theorem ApplicationRecord.field?_name (f : Field) : schema.field? (schema.name f) = some f := by
  cases f <;> rfl

/-- `Uuid.decoder` reads every spelling of `Uuid.text`. -/
theorem Uuid.decode_text {u : Uuid} {digits : Spelling} (h : digits.text = .ok u.text) :
    decodeWhole Uuid.decoder (Phrase.text digits).bytes = .ok u := by
  rw [Phrase.decodeWhole_bare, Phrase.node, h]
  simp only [Uuid.decoder, Decoder.refine, Decoder.textAs, Uuid.parse_text]
  rfl

/-- A record with an `id` and nothing else decodes. -/
theorem ApplicationRecord.decode_identified {u : Uuid} {key digits : Spelling}
    (hkey : key.text = .ok "id") (hdigits : digits.text = .ok u.text) :
    decodeWhole decoder (Phrase.object .empty [bareMember key (.text digits)]).bytes =
      .ok ⟨u, none, none, none⟩ := by
  have hread := Uuid.decode_text hdigits
  rw [Phrase.decodeWhole_bare] at hread ⊢
  have hmember : schema.member schema.noSlots (.ok "id", (Phrase.text digits).node) =
      .ok (schema.fill schema.noSlots .id u) :=
    (Schema.member_of_some (field?_name .id)).mpr
      ⟨rfl, Phrase.node_ne_broken _ .colon, u, hread, rfl⟩
  rw [← hkey] at hmember
  rw [Phrase.node, Phrase.memberNodes_eq]
  exact Schema.decoder_object_eq_ok.mpr
    ⟨_, Schema.members_cons_eq_ok.mpr ⟨_, hmember, rfl⟩, rfl⟩

/-- **`Breaks front back bad e members`**: the members of a page that decodes but for its list, in
which `bad` is the first record that does not decode, with the failure `e`. -/
structure ApplicationPage.Breaks (front back : List (Spaced Phrase)) (bad : Spaced Phrase)
    (e : Failure) (members : List (Spaced Spelling × Spaced Phrase)) : Prop where
  page : ∃ blank, schema.ButFor .applications (.array blank (front ++ bad :: back)) members
  front : ∀ item ∈ front, ∃ r, decodeWhole ApplicationRecord.decoder item.body.bytes = .ok r
  bad : decodeWhole ApplicationRecord.decoder bad.body.bytes = .error e

/-- The failure of such a page is `e` below `applications` and the index of `bad`. -/
theorem ApplicationPage.Breaks.decoder {front back : List (Spaced Phrase)} {bad : Spaced Phrase}
    {e : Failure} {members : List (Spaced Spelling × Spaced Phrase)}
    (h : ApplicationPage.Breaks front back bad e members) (blank : Gap) :
    ApplicationPage.decoder (Phrase.object blank members).node =
      .error ((e.below (.item front.length)).below (.member "applications")) := by
  obtain ⟨gap, hpage⟩ := h.page
  have hfront : ∀ n ∈ front.map fun item => item.body.node,
      ∃ r, ApplicationRecord.decoder n = .ok r := by
    intro n hn
    obtain ⟨item, hitem, rfl⟩ := List.mem_map.mp hn
    obtain ⟨r, hr⟩ := h.front item hitem
    rw [Phrase.decodeWhole_bare] at hr
    exact ⟨r, hr⟩
  have hbad := h.bad
  rw [Phrase.decodeWhole_bare] at hbad
  refine Schema.decoder_butFor ApplicationPage.field?_name hpage ?_ blank
  rw [Phrase.decodeWhole_bare, Phrase.node, Phrase.itemNodes_eq, List.map_append, List.map_cons]
  have hlist := Decoder.optional_list_error hfront hbad (back.map fun item => item.body.node)
  rw [List.length_map] at hlist
  exact hlist

namespace Directory

/-- **First bad record.** On a 200 response whose page `Breaks` at `bad`, a lookup returns
`responseParse` with the status 200 and the failure of `bad` below its place in the list, whatever
`back` is. If `bad` is an object that decodes but for the field `f`, the path continues with the
name of `f`. -/
theorem first_bad_record (d : Directory) {name : ApplicationName} {q : Http.Request}
    (hq : d.request .get (d.lookupUrl name) none = .ok q) {front back : List (Spaced Phrase)}
    {bad : Spaced Phrase} {e : Failure} {members : List (Spaced Spelling × Spaced Phrase)}
    (h : ApplicationPage.Breaks front back bad e members) (before blank after : Gap)
    (headers : List (String × List UInt8)) (os : Http.Script) (k : Cache) :
    let body := before.bytes ++ ((Phrase.object blank members).bytes ++ after.bytes)
    let failure := (e.below (.item front.length)).below (.member "applications")
    (Procedure.run Http.Script.exchange (d.find name)
      { transport := .answered ⟨200, headers, body⟩ :: os, cache := k }).1 =
        .error (.responseParse .lookupApplications 200 failure) ∧
    failure.pathText =
      "applications[" ++ toString front.length ++ "]" ++ Failure.pathFrom "." e.path ∧
    ∀ (gap : Gap) (f : ApplicationRecord.schema.Field) (v : Phrase)
      (inner : List (Spaced Spelling × Spaced Phrase)) (e' : Failure),
      bad.body = .object gap inner → ApplicationRecord.schema.ButFor f v inner →
      decodeWhole (ApplicationRecord.schema.slot f) v.bytes = .error e' →
        e = e'.below (.member (ApplicationRecord.schema.name f)) ∧
        failure.pathText = "applications[" ++ toString front.length ++ "]." ++
          ApplicationRecord.schema.name f ++ Failure.pathFrom "." e'.path := by
  intro body failure
  have hpath : failure.pathText =
      "applications[" ++ toString front.length ++ "]" ++ Failure.pathFrom "." e.path :=
    Failure.pathText_record "applications" front.length e
  refine ⟨?_, hpath, fun gap f v inner e' hbody hfield he' => ?_⟩
  · have hdecode : decodeFirst ApplicationPage.decoder body = .error failure := by
      rw [Phrase.decodeFirst_bytes, h.decoder]
    rw [(run_replay (d.find name) _).1, find, Attempt.replay_ask hq (verdict?_readLookup name)]
    show (bodyVerdict .lookupApplications 200 ApplicationPage.decoder ⟨200, headers, body⟩ >>=
      singleVerdict name) = _
    rw [bodyVerdict, if_neg (not_not_intro rfl), hdecode]
    rfl
  · have hbad := h.bad
    rw [hbody, Phrase.decodeWhole_bare, ApplicationRecord.decoder,
      Schema.decoder_butFor ApplicationRecord.field?_name hfield he'] at hbad
    cases hbad
    refine ⟨rfl, hpath.trans ?_⟩
    rw [Failure.below_path, Failure.pathFrom]
    simp only [String.append_assoc]
    rfl

/-- `first_bad_record` on a page of two records, the second with a number for its name. -/
theorem first_bad_record_sample : ∃ (q : Http.Request) (list id name digits : Spelling),
    let d := Client.sample.directory
    let n : ApplicationName := ⟨"a", by decide, by decide⟩
    let good := Phrase.object .empty [bareMember id (.text digits)]
    let bad := Phrase.object .empty [bareMember id (.text digits), bareMember name (.bool true)]
    let page := Phrase.object .empty
      [bareMember list (.array .empty [⟨.empty, good, .empty⟩, ⟨.empty, bad, .empty⟩])]
    d.request .get (d.lookupUrl n) none = .ok q ∧ ∃ failure : Failure,
      (Procedure.run Http.Script.exchange (d.find n)
        { transport := [.answered ⟨200, [], page.bytes⟩] }).1 =
          .error (.responseParse .lookupApplications 200 failure) ∧
      failure.pathText = "applications[1].name" := by
  let u : Uuid := ⟨List.replicate 32 0, rfl⟩
  obtain ⟨list, hlist, -⟩ := Spelling.exists_quote "applications"
  obtain ⟨id, hid, -⟩ := Spelling.exists_quote "id"
  obtain ⟨name, hname, -⟩ := Spelling.exists_quote "name"
  obtain ⟨digits, hdigits, -⟩ := Spelling.exists_quote u.text
  have hok : (Client.sample.directory.request .get
      (Client.sample.directory.lookupUrl ⟨"a", by decide, by decide⟩) none).isOk = true := by
    decide
  obtain ⟨q, hq⟩ := except_isOk.mp hok
  refine ⟨q, list, id, name, digits, ?_⟩
  intro d n good bad page
  have hgood := ApplicationRecord.decode_identified hid hdigits
  have hidentifier := Uuid.decode_text hdigits
  have hfield : ApplicationRecord.schema.ButFor .name (.bool true)
      [bareMember id (.text digits), bareMember name (.bool true)] := by
    have hlast : ApplicationRecord.schema.ButFor .name (.bool true)
        [bareMember name (.bool true)] := .single hname rfl
    have hfirst : ApplicationRecord.schema.Accepts (bareMember id (.text digits)) :=
      Schema.accepts_of_name (s := ApplicationRecord.schema) (f := .id)
        ApplicationRecord.field?_name hid hidentifier
    refine hlast.cons hfirst (List.forall_mem_singleton.mpr ?_)
    rintro (he : id.text = name.text)
    exact absurd (Except.ok.inj (hid.symm.trans (he.trans hname))) (by decide)
  have hpage : ApplicationPage.schema.ButFor .applications
      (.array .empty [⟨.empty, good, .empty⟩, ⟨.empty, bad, .empty⟩])
      [bareMember list (.array .empty [⟨.empty, good, .empty⟩, ⟨.empty, bad, .empty⟩])] :=
    .single hlist rfl
  have hwrong : decodeWhole (ApplicationRecord.schema.slot .name) (Phrase.bool true).bytes =
      .error (.here (.invalidType "boolean `true`" "a string")) := by
    rw [Phrase.decodeWhole_bare, Phrase.node]
    rfl
  have hbreaks : ApplicationPage.Breaks [⟨.empty, good, .empty⟩] [] ⟨.empty, bad, .empty⟩ _ _ :=
    ⟨⟨_, hpage⟩, List.forall_mem_singleton.mpr ⟨_, hgood⟩, Phrase.decodeWhole_bare _ _ |>.trans
      (Schema.decoder_butFor ApplicationRecord.field?_name hfield hwrong .empty)⟩
  obtain ⟨hrun, -, hpath⟩ := first_bad_record d hq hbreaks .empty .empty .empty [] [] {}
  rw [Gap.empty, List.nil_append, List.append_nil] at hrun
  have htext : "applications[" ++ toString 1 ++ "]." ++ "name" ++ "" =
      "applications[1].name" := by
    decide
  exact ⟨hq, _, hrun, (hpath _ _ _ _ _ rfl hfield hwrong).2.trans htext⟩

end Directory

end TenantApps
