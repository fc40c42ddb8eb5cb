import TenantApps.Proofs.Creation.Replay
import TenantApps.Proofs.Tenant.Location
import TenantApps.Proofs.Wire.Value

/-!
# `TenantApps.Proofs.Requests.Payload` — the bodies of requests

The `POST` of an application and the `POST` of a secret have a body. For every string, reading the
printed body gives one fixed `Json.Node` with the string in its places, so no character of a name or
a description can change the structure of a body.

## Contents
- `Payload.read_newApplication` and `read_newSecret`, the bodies as they are read.
- `Payload.newApplication_injective` and `newSecret_injective`.
- `Directory.body_of_create` and `body_of_createSecret`, the bodies that are sent.
- `Directory.payloads_exact`, the **main result**.
-/

namespace TenantApps

open Json

/-! ## Bodies -/

namespace Payload

/-- The body of the `POST` of an application as it is read: the name is the `name` and the
`displayName`, and everything else is fixed. -/
def newApplicationNode (name : String) : Node :=
  .object [(.ok "name", .text (.ok name)),
    (.ok "branding", .object [(.ok "displayName", .text (.ok name))] none),
    (.ok "schemas", .array [.text (.ok authenticationUrn)] none),
    (.ok authenticationUrn, .object [(.ok "ssoType", .text (.ok "openIdConnect"))] none)] none

/-- The body of the `POST` of a secret as it is read. -/
def newSecretNode (description : String) : Node :=
  .object [(.ok "authorizationScopes", .array [.text (.ok "oAuth")] none),
    (.ok "description", .text (.ok description))] none

theorem read_newApplication (name : String) :
    read (Utf8.bytes (newApplication name).print) = (newApplicationNode name, []) := by
  have hn : (newApplication name).Numberless := by
    simp [newApplication, Branding.json, Authentication.json, optionalMember, SsoType.json,
      Value.Numberless, Value.ItemsNumberless, Value.MembersNumberless]
  exact read_print_whole hn

theorem read_newSecret (description : String) :
    read (Utf8.bytes (newSecret description).print) = (newSecretNode description, []) := by
  have hn : (newSecret description).Numberless := by
    simp [newSecret, Value.Numberless, Value.ItemsNumberless, Value.MembersNumberless]
  exact read_print_whole hn

/-- Printing is injective if reading gives an injective node. -/
theorem print_injective {body : String → Value} {node : String → Node}
    (hread : ∀ text, read (Utf8.bytes (body text).print) = (node text, []))
    (hnode : Function.Injective node) : Function.Injective fun text => (body text).print := by
  intro a b hab
  have ha := hread a
  rw [show (body a).print = (body b).print from hab, hread b] at ha
  exact hnode (congrArg Prod.fst ha).symm

theorem newApplication_injective : Function.Injective fun name => (newApplication name).print := by
  refine print_injective read_newApplication fun a b h => ?_
  simp only [newApplicationNode, Node.object.injEq, List.cons.injEq, Prod.mk.injEq,
    Node.text.injEq, Except.ok.injEq, true_and] at h
  exact h.1.1

theorem newSecret_injective :
    Function.Injective fun description => (newSecret description).print := by
  refine print_injective read_newSecret fun a b h => ?_
  simp only [newSecretNode, Node.object.injEq, List.cons.injEq, Prod.mk.injEq,
    Node.text.injEq, Except.ok.injEq, true_and] at h
  exact h.1.1

end Payload

/-! ## Requests -/

open Attempt Procedure

/-- `Attempt.ask` sends its request, if it can be built. -/
theorem Attempt.mem_requests_ask {α : Type} {stage : Stage}
    {request : Except ConfigError Http.Request} {read : Http.Response → Attempt α}
    {verdict : Http.Response → Except Error α}
    (hv : ∀ response, verdict? (read response) = some (verdict response)) {os : Http.Script}
    {k : Cache} {r : Http.Request} :
    r ∈ (replay (Attempt.ask stage request read) os k).requests ↔ request = .ok r := by
  cases request with
  | error e => exact iff_of_false List.not_mem_nil nofun
  | ok q => rw [replay_ask rfl hv os k, List.mem_singleton, Except.ok.injEq, eq_comm]

namespace Directory

variable {d : Directory} {r : Http.Request} {os : Http.Script} {k : Cache}

theorem mem_requests_create {name : ApplicationName} :
    r ∈ (replay (d.create name) os k).requests ↔
      d.request .post d.endpoint (some (Payload.newApplication name.text)) = .ok r :=
  mem_requests_ask verdict?_readCreation

theorem mem_requests_createSecret {id : Uuid} {description : String} :
    r ∈ (replay (d.createSecret id description) os k).requests ↔
      d.requestAt .post id ["apiSecrets"] (some (Payload.newSecret description)) = .ok r :=
  mem_requests_ask verdict?_readSecret

theorem body_of_create {name : ApplicationName} (h : r ∈ (replay (d.create name) os k).requests) :
    r.method = .post ∧ r.body = (Payload.newApplication name.text).print := by
  obtain ⟨-, hmethod, -, -, hbody⟩ := request_eq_ok (mem_requests_create.mp h)
  exact ⟨hmethod, hbody⟩

theorem body_of_createSecret {id : Uuid} {description : String}
    (h : r ∈ (replay (d.createSecret id description) os k).requests) :
    r.method = .post ∧ r.body = (Payload.newSecret description).print := by
  obtain ⟨url, -, hr⟩ := except_bind_eq_ok.mp (mem_requests_createSecret.mp h)
  obtain ⟨-, hmethod, -, -, hbody⟩ := request_eq_ok hr
  exact ⟨hmethod, hbody⟩

/-- **Payloads.** For every name and every description, the printed bodies are read as the nodes
above, they are the bodies of the requests that are sent, and they are injective. -/
theorem payloads_exact :
    (∀ name : String, Json.read (Utf8.bytes (Payload.newApplication name).print) =
      (Payload.newApplicationNode name, [])) ∧
    (∀ description : String, Json.read (Utf8.bytes (Payload.newSecret description).print) =
      (Payload.newSecretNode description, [])) ∧
    (Function.Injective fun name => (Payload.newApplication name).print) ∧
    (Function.Injective fun description => (Payload.newSecret description).print) ∧
    ∀ d : Directory,
      (∀ name os k, ∀ r ∈ (replay (d.create name) os k).requests,
        r.method = .post ∧ r.body = (Payload.newApplication name.text).print) ∧
      ∀ id description os k, ∀ r ∈ (replay (d.createSecret id description) os k).requests,
        r.method = .post ∧ r.body = (Payload.newSecret description).print :=
  ⟨Payload.read_newApplication, Payload.read_newSecret, Payload.newApplication_injective,
    Payload.newSecret_injective, fun _ => ⟨fun _ _ _ _ => body_of_create,
      fun _ _ _ _ _ => body_of_createSecret⟩⟩

theorem payloads_exact_sample :
    let d := Client.sample.directory
    let name : ApplicationName := ⟨"a", by decide, by decide⟩
    (∃ r ∈ (replay (d.create name) [] {}).requests,
      r.method = .post ∧ r.body = (Payload.newApplication "a").print) ∧
    ∃ r ∈ (replay (d.createSecret .sample "b") [] {}).requests,
      r.method = .post ∧ r.body = (Payload.newSecret "b").print := by
  intro d name
  obtain ⟨hcreate, hsecret⟩ := payloads_exact.2.2.2.2 d
  obtain ⟨r, hr⟩ : ∃ r, d.request .post d.endpoint (some (Payload.newApplication "a")) = .ok r :=
    except_isOk.mp (by decide)
  obtain ⟨q, hq⟩ :
      ∃ q, d.requestAt .post .sample ["apiSecrets"] (some (Payload.newSecret "b")) = .ok q :=
    except_isOk.mp (by decide)
  have hr : r ∈ (replay (d.create name) [] {}).requests := mem_requests_create.mpr hr
  have hq : q ∈ (replay (d.createSecret .sample "b") [] {}).requests :=
    mem_requests_createSecret.mpr hq
  exact ⟨⟨r, hr, hcreate name [] {} r hr⟩, q, hq, hsecret .sample "b" [] {} q hq⟩

end Directory

end TenantApps
