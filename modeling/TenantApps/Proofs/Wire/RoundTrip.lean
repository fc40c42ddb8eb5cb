import TenantApps.Name
import TenantApps.Proofs.Wire.Value

/-!
# `TenantApps.Proofs.Wire.RoundTrip` — printing and decoding records

For every record that is both printed and decoded, the decoder is a left inverse of the printer, so
printing is injective. A printed value is read as its node, so it remains to compute the decoder on
that node; missing members are decoded as `none`.

## Contents
- `Json.Faithful`, a printer with its left inverse; `Faithful.decodeWhole` and `Faithful.injective`.
- `Secret.faithful`, `ApplicationName.faithful` and `SsoType.faithful`, strings.
- `Branding.faithful`, `Authentication.faithful` and `Application.faithful`, objects.
- `Json.read_back`, the **main result**.
-/

namespace TenantApps

/-! ## Printers with a left inverse -/

namespace Json

/-- **`Faithful json d`**: `d` is a left inverse of `json` on nodes. -/
structure Faithful {α : Type} (json : α → Value) (d : Decoder α) : Prop where
  /-- `json` prints no numbers. -/
  numberless (a : α) : (json a).Numberless
  decoded (a : α) : d (json a).node = .ok a

namespace Faithful

variable {α : Type} {json : α → Value} {d : Decoder α}

/-- `decodeWhole` of the printed text. -/
theorem decodeWhole (h : Faithful json d) (a : α) :
    decodeWhole d (Utf8.bytes (json a).print) = .ok a := by
  rw [Schema.decodeWhole_eq_ok, read_print_whole (h.numberless a)]
  exact ⟨h.decoded a, rfl⟩

/-- Printing is injective. -/
theorem injective (h : Faithful json d) : Function.Injective fun a => (json a).print := by
  intro a b hab
  have ha := h.decodeWhole a
  rw [show (json a).print = (json b).print from hab, h.decodeWhole b] at ha
  exact (Except.ok.inj ha).symm

end Faithful

end Json

open Json

/-! ## Strings -/

theorem Secret.faithful : Faithful json decoder where
  numberless s := by simp [json, Value.Numberless]
  decoded s := by
    rw [json, Value.node]
    rfl

/-- A printed name passes `check`. -/
theorem ApplicationName.faithful : Faithful json decoder where
  numberless n := by simp [json, Value.Numberless]
  decoded n := by
    have hcheck : (check n.text).mapError NameError.message = .ok n := by
      rw [check_text]
      rfl
    rw [json, Value.node]
    simp only [decoder, Decoder.refine, Decoder.text, Decoder.textAs, hcheck]

theorem SsoType.faithful : Faithful json decoder where
  numberless t := by simp [json, Value.Numberless]
  decoded t := by rw [json, Value.node, decoder, ofLabel_label]

/-! ## Objects -/

theorem Branding.faithful : Faithful json decoder where
  numberless b := by
    obtain ⟨_ | name⟩ := b <;>
      simp [json, optionalMember, Value.Numberless, Value.MembersNumberless]
  decoded b := by obtain ⟨_ | name⟩ := b <;> rfl

theorem Authentication.faithful : Faithful json decoder where
  numberless a := by
    obtain ⟨_ | t, _ | id⟩ := a <;>
      simp [json, optionalMember, SsoType.json, Value.Numberless, Value.MembersNumberless]
  decoded a := by
    obtain ⟨t, id⟩ := a
    cases t with
    | none => cases id <;> rfl
    | some t => cases t <;> cases id <;> rfl

theorem Application.faithful : Faithful json decoder where
  numberless a := by simp [json, Secret.json, Value.Numberless, Value.MembersNumberless]
  decoded a := rfl

/-- **Round trip.** For all six records, every value is decoded from its printed text, and printing
is injective. -/
theorem Json.read_back :
    ((∀ a : Application, decodeWhole Application.decoder (Utf8.bytes a.json.print) = .ok a) ∧
      Function.Injective fun a : Application => a.json.print) ∧
    ((∀ n : ApplicationName,
        decodeWhole ApplicationName.decoder (Utf8.bytes n.json.print) = .ok n) ∧
      Function.Injective fun n : ApplicationName => n.json.print) ∧
    ((∀ s : Secret, decodeWhole Secret.decoder (Utf8.bytes s.json.print) = .ok s) ∧
      Function.Injective fun s : Secret => s.json.print) ∧
    ((∀ t : SsoType, decodeWhole SsoType.decoder (Utf8.bytes t.json.print) = .ok t) ∧
      Function.Injective fun t : SsoType => t.json.print) ∧
    ((∀ b : Branding, decodeWhole Branding.decoder (Utf8.bytes b.json.print) = .ok b) ∧
      Function.Injective fun b : Branding => b.json.print) ∧
    (∀ a : Authentication,
        decodeWhole Authentication.decoder (Utf8.bytes a.json.print) = .ok a) ∧
      Function.Injective fun a : Authentication => a.json.print :=
  ⟨⟨Application.faithful.decodeWhole, Application.faithful.injective⟩,
    ⟨ApplicationName.faithful.decodeWhole, ApplicationName.faithful.injective⟩,
    ⟨Secret.faithful.decodeWhole, Secret.faithful.injective⟩,
    ⟨SsoType.faithful.decodeWhole, SsoType.faithful.injective⟩,
    ⟨Branding.faithful.decodeWhole, Branding.faithful.injective⟩,
    Authentication.faithful.decodeWhole, Authentication.faithful.injective⟩

end TenantApps
