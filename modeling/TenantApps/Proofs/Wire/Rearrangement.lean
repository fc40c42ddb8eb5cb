import Mathlib.Logic.Relation
import TenantApps.Proofs.Wire.Derivation
import TenantApps.Proofs.Wire.Page
import TenantApps.Record.Discovery

/-!
# `TenantApps.Proofs.Wire.Rearrangement` — invariance of decoding

The result of decoding a record does not depend on the order of members, on unknown members, or on
whitespace and escapes, at every depth at which the decoder looks for records. The `Shape` of a
decoder says how deep that is; a value of shape `.value` is decoded as a whole, and nothing inside
it may be rearranged.

## Contents
- `Json.Shape`, `Json.Edit`, one change of a phrase, and `Json.InvariantUnder`, decoders invariant
  under it.
- `Json.InvariantUnder.optional`, `.list` and `Json.Schema.invariantUnder`, one lemma for each
  combinator.
- `Json.Rearranges`, its closure, and `Json.InputInvariant`, with `Json.Schema.inputInvariant`, the
  same for inputs.
- `Branding.shape` and `Branding.invariantUnder`, and the same for the other records.
- `Json.decode_rearranged`, the **main result**.
-/

namespace TenantApps

namespace Json

/-! ## Edits of a phrase -/

/-- **`Shape`**: how a decoder looks into a value. -/
inductive Shape
  /-- It decodes the value as a whole. -/
  | value
  /-- It decodes the elements of a list. -/
  | list (item : Shape)
  /-- It decodes the fields of a record, in an object or a list. -/
  | record (fields : List (String × Shape))

/-- **`Edit σ p p'`**: one change of a phrase that a decoder of the shape `σ` does not notice. -/
inductive Edit : Shape → Phrase → Phrase → Prop
  /-- Other whitespace or escapes. -/
  | respell {σ : Shape} {p p' : Phrase} (h : p'.node = p.node) : Edit σ p p'
  /-- The members of a record in another order. -/
  | permute {fields : List (String × Shape)} {blank : Gap}
    {members members' : List (Spaced Spelling × Spaced Phrase)} (h : members.Perm members') :
    Edit (.record fields) (.object blank members) (.object blank members')
  /-- A new member that no field has. -/
  | insert {fields : List (String × Shape)} {blank : Gap}
    {front back : List (Spaced Spelling × Spaced Phrase)} (m : Spaced Spelling × Spaced Phrase)
    {name : String} (hname : m.1.body.text = .ok name) (hnew : ∀ f ∈ fields, f.1 ≠ name) :
    Edit (.record fields) (.object blank (front ++ back)) (.object blank (front ++ m :: back))
  /-- An edit of the value of a field. -/
  | member {fields : List (String × Shape)} {blank : Gap}
    {front back : List (Spaced Spelling × Spaced Phrase)} {key : Spaced Spelling}
    {v v' : Spaced Phrase} {name : String} {σ : Shape} (hname : key.body.text = .ok name)
    (hfield : (name, σ) ∈ fields) (h : Edit σ v.body v'.body) :
    Edit (.record fields) (.object blank (front ++ (key, v) :: back))
      (.object blank (front ++ (key, v') :: back))
  /-- An edit of a field in a record that is written as a list. -/
  | slot {fields : List (String × Shape)} {blank : Gap} {front back : List (Spaced Phrase)}
    {v v' : Spaced Phrase} {name : String} {σ : Shape}
    (hfield : fields[front.length]? = some (name, σ)) (h : Edit σ v.body v'.body) :
    Edit (.record fields) (.array blank (front ++ v :: back)) (.array blank (front ++ v' :: back))
  /-- An edit of an element. -/
  | item {σ : Shape} {blank : Gap} {front back : List (Spaced Phrase)} {v v' : Spaced Phrase}
    (h : Edit σ v.body v'.body) :
    Edit (.list σ) (.array blank (front ++ v :: back)) (.array blank (front ++ v' :: back))

/-- **`InvariantUnder σ d`**: `d` is invariant under every `Edit σ`. -/
def InvariantUnder {α : Type} (σ : Shape) (d : Decoder α) : Prop :=
  ∀ ⦃p p' : Phrase⦄ ⦃v : α⦄, Edit σ p p' → d p.node = .ok v → d p'.node = .ok v

/-- A phrase has no fault. -/
theorem Phrase.skipFault?_node (p : Phrase) : p.node.skipFault? = none := by
  cases p <;> rw [node] <;> rfl

theorem Phrase.node_ne_broken (p : Phrase) (place : Break) (f : Fault) :
    p.node ≠ .broken place f := by
  intro h
  have := p.skipFault?_node
  rw [h] at this
  cases this

/-! ## Decoders -/

section Decoders

variable {α : Type} {σ : Shape} {d : Decoder α}

/-- An edit keeps the node, or both nodes are not `null`. -/
theorem Edit.node {p p' : Phrase} (h : Edit σ p p') :
    p'.node = p.node ∨ p.node ≠ .null ∧ p'.node ≠ .null := by
  cases h with
  | respell h => exact .inl h
  | _ =>
    right
    rw [Phrase.node, Phrase.node]
    exact ⟨nofun, nofun⟩

/-- Every decoder is `InvariantUnder` the shape `.value`. -/
theorem invariantUnder_value (d : Decoder α) : InvariantUnder .value d := by
  intro p p' v h hv
  cases h with
  | respell h => rw [h, hv]

theorem InvariantUnder.optional (h : InvariantUnder σ d) :
    InvariantUnder σ (Decoder.optional d) := by
  intro p p' x he hx
  rcases he.node with hsame | ⟨hnull, hnull'⟩
  · rw [hsame, hx]
  · obtain ⟨hn, -⟩ | ⟨-, -, v, hv, rfl⟩ := Decoder.optional_eq_ok.mp hx
    · exact absurd hn hnull
    · exact Decoder.optional_eq_ok.mpr
        (.inr ⟨hnull', p'.node_ne_broken .null, v, h he hv, rfl⟩)

theorem InvariantUnder.list (h : InvariantUnder σ d) :
    InvariantUnder (.list σ) (Decoder.list d) := by
  intro p p' as he has
  cases he with
  | respell hsame => rw [hsame, has]
  | item he =>
    rw [Phrase.node, Phrase.itemNodes_eq, Decoder.list_eq_ok, List.map_append,
      List.map_cons] at has ⊢
    obtain ⟨ns, hns, hi⟩ := has
    cases hns
    exact ⟨_, rfl, Decoder.items_replace (fun v => h he) hi⟩

end Decoders

namespace Schema

variable {α : Type} {s : Schema α} {v : α}

/-- The shape of a schema whose fields have the shapes `sub`. -/
def shape (s : Schema α) (sub : s.Field → Shape) : Shape :=
  .record (s.fields.map fun f => (s.name f, sub f))

/-- **A schema is `InvariantUnder` its shape** if the decoders of its fields are. -/
theorem invariantUnder (hnames : ∀ g, s.field? (s.name g) = some g) {sub : s.Field → Shape}
    (h : ∀ f, InvariantUnder (sub f) (s.slot f)) : InvariantUnder (s.shape sub) s.decoder := by
  intro p p' x he hx
  unfold shape at he
  cases he with
  | respell hsame => rw [hsame, hx]
  | permute hperm =>
    rw [Phrase.node, Phrase.memberNodes_eq, decoder_object_eq_ok] at hx ⊢
    obtain ⟨slots, hm, hmake⟩ := hx
    exact ⟨slots, members_perm (hperm.map _) hm, hmake⟩
  | @insert _ _ front back m name hname hnew =>
    rw [Phrase.node, Phrase.memberNodes_eq, decoder_object_eq_ok] at hx ⊢
    obtain ⟨slots, hm, hmake⟩ := hx
    have hnone : s.field? name = none := by
      rw [field?, List.find?_eq_none]
      intro g hg hbeq
      exact hnew _ (List.mem_map_of_mem hg) (eq_of_beq hbeq)
    rw [List.map_append] at hm
    rw [List.map_append, List.map_cons, hname]
    exact ⟨slots, members_insert hnone m.2.body.skipFault?_node hm, hmake⟩
  | @member _ _ _ _ _ _ v' _ _ hname hfield he =>
    obtain ⟨f, -, hf⟩ := List.mem_map.mp hfield
    cases hf
    rw [Phrase.node, Phrase.memberNodes_eq, decoder_object_eq_ok] at hx ⊢
    obtain ⟨slots, hm, hmake⟩ := hx
    rw [List.map_append, List.map_cons, hname] at hm ⊢
    have hcolon := v'.body.node_ne_broken .colon
    exact ⟨slots, members_replace (hnames f) (fun w => h f he) hcolon hm, hmake⟩
  | slot hfield he =>
    rw [List.getElem?_map, Option.map_eq_some_iff] at hfield
    obtain ⟨f, hf, hsub⟩ := hfield
    cases hsub
    rw [Phrase.node, Phrase.itemNodes_eq, decoder_array_eq_ok] at hx ⊢
    obtain ⟨slots, hm, hmake⟩ := hx
    refine ⟨slots, ?_, hmake⟩
    rw [List.map_append, List.map_cons] at hm ⊢
    exact elements_replace (fun w => h f he) (by rw [List.length_map]; exact hf) hm

end Schema

/-! ## Inputs -/

/-- The reflexive transitive closure of `Edit σ`. -/
def Rearranges (σ : Shape) : Phrase → Phrase → Prop := Relation.ReflTransGen (Edit σ)

theorem InvariantUnder.rearranges {α : Type} {σ : Shape} {d : Decoder α} (h : InvariantUnder σ d)
    {p p' : Phrase} (hp : Rearranges σ p p') {v : α} (hv : d p.node = .ok v) :
    d p'.node = .ok v := by
  induction hp with
  | refl => exact hv
  | tail _ he ih => exact h he ih

/-- If the first value ends closed, it is the phrase that the input starts with. -/
theorem Phrase.read_of_closed (p : Phrase) {before : Gap} {rest : List UInt8}
    (h : (read (before.bytes ++ (p.bytes ++ rest))).1.Closed) :
    read (before.bytes ++ (p.bytes ++ rest)) = (p.node, rest) := by
  cases p with
  | number q =>
    -- no number ends with a bracket
    obtain ⟨b, tail, hq, hb⟩ := q.head
    obtain ⟨hspace, hstart⟩ := Token.start_of_numeric hb (tail ++ rest)
    have hnext : Token.next? (q.bytes ++ rest) = some (Token.start b (tail ++ rest)) := by
      rw [hq, List.cons_append, Token.next?, hspace]
      rfl
    rw [read, readFrom_gap, bytes] at h
    rw [hstart] at hnext
    split at hnext <;> rw [readFrom_token hnext] at h <;> exact h.elim
  | _ => exact read_bytes _ before False.elim

theorem Phrase.not_open (p : Phrase) (h : p.node.Closed) : ¬p.Open := by
  cases p with
  | number q =>
    rw [node] at h
    exact h.elim
  | _ => exact id

/-- **`InputInvariant σ d`**: `InvariantUnder` for inputs. Every input that `d` accepts is a phrase,
with or without a rest, and the phrase may be rearranged. -/
structure InputInvariant {α : Type} (σ : Shape) (d : Decoder α) : Prop where
  starts {input : List UInt8} {v : α} (h : decodeFirst d input = .ok v) :
    ∃ (before : Gap) (p : Phrase) (rest : List UInt8), input = before.bytes ++ (p.bytes ++ rest)
  first {before before' : Gap} {p p' : Phrase} {rest : List UInt8} {v : α}
    (hp : Rearranges σ p p') (h : decodeFirst d (before.bytes ++ (p.bytes ++ rest)) = .ok v) :
    decodeFirst d (before'.bytes ++ (p'.bytes ++ rest)) = .ok v
  spans {input : List UInt8} {v : α} (h : decodeWhole d input = .ok v) :
    ∃ (before : Gap) (p : Phrase) (after : Gap),
      input = before.bytes ++ (p.bytes ++ after.bytes)
  whole {before before' after after' : Gap} {p p' : Phrase} {v : α} (hp : Rearranges σ p p')
    (h : decodeWhole d (before.bytes ++ (p.bytes ++ after.bytes)) = .ok v) :
    decodeWhole d (before'.bytes ++ (p'.bytes ++ after'.bytes)) = .ok v

/-- **`InvariantUnder` implies `InputInvariant`**, for the decoder of a schema. -/
theorem Schema.inputInvariant {α : Type} (s : Schema α) {σ : Shape}
    (h : InvariantUnder σ s.decoder) :
    InputInvariant σ s.decoder where
  starts hv := by
    obtain ⟨before, p, hinput, -⟩ := exists_phrase (s.decoder_closed hv)
    exact ⟨before, p, _, hinput⟩
  first {before before' p p' rest v} hp hv := by
    have hread := p.read_of_closed (s.decoder_closed hv)
    rw [decodeFirst, hread] at hv
    have hv' := h.rearranges hp hv
    have hopen := p'.not_open (s.decoder_closed hv')
    rw [decodeFirst, p'.read_bytes before' fun ho => absurd ho hopen]
    exact hv'
  spans hv := by
    obtain ⟨hd, hblank⟩ := decodeWhole_eq_ok.mp hv
    obtain ⟨before, p, hinput, -⟩ := exists_phrase (s.decoder_closed hd)
    exact ⟨before, p, ⟨_, hblank⟩, hinput⟩
  whole {before before' after after' p p' v} hp hv := by
    obtain ⟨hd, -⟩ := decodeWhole_eq_ok.mp hv
    rw [p.read_of_closed (s.decoder_closed hd)] at hd
    have hv' := h.rearranges hp hd
    have hopen := p'.not_open (s.decoder_closed hv')
    rw [decodeWhole_eq_ok, p'.read_bytes before' fun ho => absurd ho hopen]
    exact ⟨hv', after'.blank⟩

end Json

open Json

/-! ## Records -/

def Branding.shape : Shape := schema.shape fun _ => .value

theorem Branding.invariantUnder : InvariantUnder shape decoder :=
  schema.invariantUnder (fun _ => rfl) fun _ => invariantUnder_value _

/-- The sign-on kind is decoded as a whole. -/
def Authentication.shape : Shape := schema.shape fun _ => .value

theorem Authentication.invariantUnder : InvariantUnder shape decoder :=
  schema.invariantUnder (fun f => by cases f <;> rfl) fun _ => invariantUnder_value _

namespace ApplicationRecord

def fieldShape : Field → Shape
  | .branding => Branding.shape
  | .authentication => Authentication.shape
  | .id | .name => .value

def shape : Shape := schema.shape fieldShape

theorem invariantUnder : InvariantUnder shape decoder := by
  refine schema.invariantUnder (fun f => by cases f <;> rfl) fun f => ?_
  cases f with
  | id | name => exact invariantUnder_value _
  | branding => exact Branding.invariantUnder.optional
  | authentication => exact Authentication.invariantUnder.optional

end ApplicationRecord

namespace ApplicationPage

def fieldShape : Field → Shape
  | .applications => .list ApplicationRecord.shape
  | .totalResults => .value

def shape : Shape := schema.shape fieldShape

theorem invariantUnder : InvariantUnder shape decoder := by
  refine schema.invariantUnder field?_name fun f => ?_
  cases f with
  | applications => exact ApplicationRecord.invariantUnder.list.optional
  | totalResults => exact invariantUnder_value _

end ApplicationPage

def SecretAnswer.shape : Shape := schema.shape fun _ => .value

theorem SecretAnswer.invariantUnder : InvariantUnder shape decoder :=
  schema.invariantUnder (fun _ => rfl) fun _ => invariantUnder_value _

def DiscoveryDocument.shape : Shape := schema.shape fun _ => .value

theorem DiscoveryDocument.invariantUnder : InvariantUnder shape decoder :=
  schema.invariantUnder (fun f => by cases f <;> rfl) fun _ => invariantUnder_value _

def Application.shape : Shape := schema.shape fun _ => .value

theorem Application.invariantUnder : InvariantUnder shape decoder :=
  schema.invariantUnder (fun f => by cases f <;> rfl) fun _ => invariantUnder_value _

/-- **Invariance of decoding.** The seven record decoders are `InputInvariant` for their shapes. -/
theorem Json.decode_rearranged :
    InputInvariant ApplicationPage.shape ApplicationPage.decoder ∧
    InputInvariant ApplicationRecord.shape ApplicationRecord.decoder ∧
    InputInvariant SecretAnswer.shape SecretAnswer.decoder ∧
    InputInvariant DiscoveryDocument.shape DiscoveryDocument.decoder ∧
    InputInvariant Branding.shape Branding.decoder ∧
    InputInvariant Authentication.shape Authentication.decoder ∧
    InputInvariant Application.shape Application.decoder :=
  ⟨ApplicationPage.schema.inputInvariant ApplicationPage.invariantUnder,
    ApplicationRecord.schema.inputInvariant ApplicationRecord.invariantUnder,
    SecretAnswer.schema.inputInvariant SecretAnswer.invariantUnder,
    DiscoveryDocument.schema.inputInvariant DiscoveryDocument.invariantUnder,
    Branding.schema.inputInvariant Branding.invariantUnder,
    Authentication.schema.inputInvariant Authentication.invariantUnder,
    Application.schema.inputInvariant Application.invariantUnder⟩

/-- A member without whitespace. -/
def Json.bareMember (key : Spelling) (p : Phrase) : Spaced Spelling × Spaced Phrase :=
  (⟨.empty, key, .empty⟩, ⟨.empty, p, .empty⟩)

theorem Json.decode_rearranged_sample : ∃ issuer keys other a b : Spelling,
    let p := Phrase.object .empty [bareMember issuer (.text a), bareMember keys (.text b)]
    let p' := Phrase.object .empty
      [bareMember keys (.text b), bareMember other (.array .empty []), bareMember issuer (.text a)]
    let document : DiscoveryDocument := { issuer := some "a", jwksUri := some "b" }
    other.text = .ok "x" ∧ Rearranges DiscoveryDocument.shape p p' ∧
      decodeWhole DiscoveryDocument.decoder p.bytes = .ok document ∧
      decodeWhole DiscoveryDocument.decoder p'.bytes = .ok document := by
  obtain ⟨issuer, hissuer, -⟩ := Spelling.exists_quote "issuer"
  obtain ⟨keys, hkeys, -⟩ := Spelling.exists_quote "jwks_uri"
  obtain ⟨other, hother, -⟩ := Spelling.exists_quote "x"
  obtain ⟨a, ha, -⟩ := Spelling.exists_quote "a"
  obtain ⟨b, hb, -⟩ := Spelling.exists_quote "b"
  refine ⟨issuer, keys, other, a, b, ?_⟩
  intro p p' document
  have hswap : Edit DiscoveryDocument.shape p
      (.object .empty [bareMember keys (.text b), bareMember issuer (.text a)]) :=
    .permute (.swap _ _ _)
  have hinsert : Edit DiscoveryDocument.shape
      (.object .empty ([bareMember keys (.text b)] ++ [bareMember issuer (.text a)])) p' :=
    .insert (bareMember other (.array .empty [])) hother (by decide)
  have hedits : Rearranges DiscoveryDocument.shape p p' := .tail (.single hswap) hinsert
  have hp : decodeWhole DiscoveryDocument.decoder
      (Gap.empty.bytes ++ (p.bytes ++ Gap.empty.bytes)) = .ok document := by
    rw [Schema.decodeWhole_eq_ok, p.read_bytes .empty False.elim]
    refine ⟨?_, rfl⟩
    simp only [p, bareMember, Phrase.node, Phrase.memberNodes, hissuer, hkeys, ha, hb]
    rfl
  obtain ⟨-, -, -, hdocument, -⟩ := decode_rearranged
  have hp' : decodeWhole DiscoveryDocument.decoder
      (Gap.empty.bytes ++ (p'.bytes ++ Gap.empty.bytes)) = .ok document :=
    hdocument.whole hedits hp
  simp only [Gap.empty, List.nil_append, List.append_nil] at hp hp'
  exact ⟨hother, hedits, hp, hp'⟩

end TenantApps
