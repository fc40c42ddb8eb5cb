import TenantApps.Proofs.Tenant.Verdict

/-!
# `TenantApps.Proofs.Tenant.Operations` — disciplines of whole operations

Most disciplines are about locks or a few stages, and satisfy the frame conditions `FramesRequest`,
`Ignores` and `FramesAddress` for the rest. The lemmas here reduce `Follows` of an operation to the
part that its discipline is about.

## Contents
- `Discovery.steady_address`, under the frame conditions of an address.
- `Client.clear`, the lookup and deletion of an operation, and `Client.steady_clear`.
- `Client.complete` and `Client.equip`, the parts of a creation, and `Client.follows_equip`.
- `Client.follows_recreate`, for disciplines about the addresses only.
- `Client.onName_cases` and `Client.follows_observed`, the combinators around an operation.
- `Draft.sample`, `Client.sample`, `Http.Response.sample` and `Http.Script.replacement`, concrete
  data for instances of general results.
-/

namespace TenantApps

open Attempt Procedure

variable {σ : Type} {D : Discipline σ} {s : σ}

/-- `Discovery.address` is `Steady` under the frame conditions of its lock, entry and request. -/
theorem Discovery.steady_address (d : Discovery) {e : Endpoint} (hl : D.Ignores s (.endpoint e))
    (hk : D.FramesAddress s e) (hp : ∀ r, d.request = .ok r → D.FramesRequest s (stage e) r) :
    Steady D s (d.address e) := by
  refine (Steady.locked hl ?_).bind ?_
  · intro known
    refine ⟨hk.consult known, ?_⟩
    intro s' hs'
    obtain rfl := hk.consults known s' hs'
    cases known with
    | some a => rfl
    | none =>
      -- the document is asked for, and the address is kept if it tells one
      refine Steady.bind (Steady.ask hp (verdict?_readDocument _)) fun doc => ?_
      show Follows _ _ (keep e (e.pick doc)) _
      cases e.pick doc with
      | some a => exact ⟨hk.remember a, hk.remembers a⟩
      | none => rfl
  · intro a
    cases a <;> exact Steady.of_verdict? rfl

theorem Directory.steady_find (d : Directory) (name : ApplicationName)
    (hl : ∀ r, d.request .get (d.lookupUrl name) none = .ok r →
      D.FramesRequest s .lookupApplications r) : Steady D s (d.find name) :=
  Steady.ask hl (verdict?_readLookup name)

theorem Directory.steady_delete (d : Directory) (id : Uuid) {stage : Stage}
    (hd : ∀ r, d.requestAt .delete id [] none = .ok r → D.FramesRequest s stage r) :
    Steady D s (d.delete id stage) :=
  Steady.ask hd (verdict?_readDeletion stage)

namespace Client

variable (c : Client)

/-- The lookup of a name and the deletion of the application that it finds. -/
def clear (stage : Stage) (change : Telemetry.Change) (name : ApplicationName) : Attempt Unit := do
  match ← c.directory.find name with
  | none => return ()
  | some existing =>
    match ← c.directory.delete existing.id stage with
    | .deleted => .logChange change name existing.id
    | .notFound => return ()

theorem removeExisting_eq (name : ApplicationName) :
    c.removeExisting name = c.clear .deleteExistingApplication .deletedExisting name := rfl

theorem remove_eq (name : ApplicationName) :
    c.remove name = c.clear .deleteApplication .deleted name := rfl

theorem steady_clear {stage : Stage} (change : Telemetry.Change) (name : ApplicationName)
    (hl : ∀ r, c.directory.request .get (c.directory.lookupUrl name) none = .ok r →
      D.FramesRequest s .lookupApplications r)
    (hd : ∀ id r, c.directory.requestAt .delete id [] none = .ok r → D.FramesRequest s stage r) :
    Steady D s (c.clear stage change name) := by
  apply Steady.bind (c.directory.steady_find name hl)
  intro found
  cases found with
  | none => exact Steady.of_verdict? rfl
  | some existing =>
    apply Steady.bind (c.directory.steady_delete existing.id (hd existing.id))
    intro deletion
    cases deletion <;> exact Steady.of_verdict? rfl

/-- The part of a creation after the client ID: both addresses. -/
def complete (name : ApplicationName) (id : Uuid) (secret : Secret) (clientId : String) :
    Attempt Application := do
  let tokenUrl ← c.tokenUrl
  let jwksUri ← c.jwksUri
  return ⟨name.text, id.text, clientId, secret, tokenUrl, jwksUri⟩

/-- The part of a creation after the `POST`: the secret, the client ID and both addresses. -/
def equip (name : ApplicationName) (id : Uuid) : Attempt Application := do
  .logChange .created name id
  let secret ← c.directory.createSecret id c.settings.description
  let record ← c.directory.fetch id
  let clientId ← .require .retrieveClientId "clientId" record.clientId
  c.complete name id secret clientId

theorem recreate_eq (name : ApplicationName) : c.recreate name = (do
    c.removeExisting name
    c.equip name (← c.directory.create name)) := rfl

/-- `Client.equip` follows a discipline if `Client.complete` does. -/
theorem follows_equip {Q : Except Error Application → σ → Prop} (name : ApplicationName) (id : Uuid)
    (hsecret : ∀ r, c.directory.requestAt .post id ["apiSecrets"]
      (some (Payload.newSecret c.settings.description)) = .ok r →
        D.FramesRequest s .createApiSecret r)
    (hfetch : ∀ r, c.directory.requestAt .get id [] none = .ok r →
      D.FramesRequest s .retrieveClientId r)
    (hc : ∀ secret clientId, Follows D Q (c.complete name id secret clientId) s)
    (he : ∀ e, Q (.error e) s) : Follows D Q (c.equip name id) s := by
  refine Steady.follows_bind (a := .logChange .created name id)
    (Steady.of_verdict? (x := .ok ()) rfl) ?_ he
  intro _
  refine Steady.follows_bind (Steady.ask hsecret Directory.verdict?_readSecret)
    (fun secret => ?_) he
  refine Steady.follows_bind (Steady.ask hfetch Directory.verdict?_readRecord)
    (fun record => ?_) he
  refine Steady.follows_bind (a := .require .retrieveClientId "clientId" record.clientId) ?_
    (fun clientId => hc secret clientId) he
  cases record.clientId <;> exact Steady.of_verdict? rfl

/-- `Client.recreate` follows a discipline about the addresses if `Client.complete` does. -/
theorem follows_recreate {Q : Except Error Application → σ → Prop} (name : ApplicationName)
    (hs : ∀ stage r, (∀ e, stage ≠ Discovery.stage e) → D.FramesRequest s stage r)
    (hc : ∀ id secret clientId, Follows D Q (c.complete name id secret clientId) s)
    (he : ∀ e, Q (.error e) s) : Follows D Q (c.recreate name) s := by
  have framesRequest (stage : Stage) (h₁ : stage ≠ .fetchTokenUrl) (h₂ : stage ≠ .fetchJwksUri)
      (r : Http.Request) : D.FramesRequest s stage r :=
    hs stage r fun | .token => h₁ | .keys => h₂
  rw [recreate_eq, removeExisting_eq]
  refine Steady.follows_bind (c.steady_clear _ name
    (fun r _ => framesRequest .lookupApplications nofun nofun r)
    fun _ r _ => framesRequest .deleteExistingApplication nofun nofun r) ?_ he
  intro _
  refine Steady.follows_bind (Steady.ask (fun r _ => framesRequest .createApplication nofun nofun r)
    Directory.verdict?_readCreation) (fun id => ?_) he
  exact c.follows_equip name id (fun r _ => framesRequest .createApiSecret nofun nofun r)
    (fun r _ => framesRequest .retrieveClientId nofun nofun r) (hc id) he

/-- `Client.onName` fails for a text that is no name, or runs its body, with or without the
guard. -/
theorem onName_cases {α : Type} {P : Attempt α → Prop} {f : ApplicationName → Attempt α}
    (text : String)
    (he : ∀ e, ApplicationName.check text = .error e → P (throw (.config (.name e))))
    (hl : ∀ name, ApplicationName.check text = .ok name → P (.locked (.name name) (f name)))
    (hf : ∀ name, ApplicationName.check text = .ok name → P (f name)) : P (c.onName text f) := by
  unfold onName
  cases hn : ApplicationName.check text with
  | error e => exact he e hn
  | ok name =>
    show P (c.serialized name (f name))
    unfold serialized
    split
    · exact hl name hn
    · exact hf name hn

/-- `Client.observed` adds `emit` nodes only. -/
theorem follows_observed {α : Type} {Q : Except Error α → σ → Prop} {a : Attempt α}
    (op : Operation) (text : String) (ha : Follows D Q a s) :
    Follows D Q (observed op text a) s := by
  apply (ha.inSpan _).bind
  intro r s' hr
  exact (Follows.emitAll _ hr).bind fun _ _ h => h

end Client

/-! ## Concrete data -/

def Draft.sample : Draft := { credentials := ⟨"https://[::1]", "u", ⟨"p"⟩⟩ }

def Url.sample (parts : List String) : Url where
  scheme := "https"
  authority := some { host := some (.ipv6 ⟨[0, 0, 0, 0, 0, 0, 0, 1], rfl⟩) }
  path := .segments parts

def Client.sample : Client where
  settings := {
    credentials := Draft.sample.credentials
    applications := .sample ["Applications", "v1", ""]
    discovery := .sample [".well-known", "openid-configuration"]
    timeout := .ofSecs 5
    description := "ias-provisioner"
    serializeByName := true }

/-- A response with a JSON body, and the application `1` in its `location` header. -/
def Http.Response.sample (status : Nat) (v : Json.Value) : Http.Response where
  status
  headers := [("location", Utf8.bytes "/Applications/v1/00000000-0000-0000-0000-000000000001")]
  body := Utf8.bytes v.print

/-- A lookup response with the application `2`. -/
def Http.Response.found : Http.Response :=
  .sample 200 (.object [("applications", .array
    [.object [("id", .text "00000000-0000-0000-0000-000000000002")]])])

/-- A discovery response with the address of the keys. -/
def Http.Response.keys : Http.Response := .sample 200 (.object [("jwks_uri", .text "k")])

/-- The replies to a creation that replaces the application `2` by the application `1` and resolves
both addresses. -/
def Http.Script.replacement : Http.Script :=
  [.answered .found, .answered (.sample 204 .null), .answered (.sample 201 .null),
    .answered (.sample 201 (.object [("secret", .text "s")])),
    .answered (.sample 200 (.object
      [("id", .text "00000000-0000-0000-0000-000000000001"),
        ("urn:sap:identity:application:schemas:extension:sci:1.0:Authentication",
          .object [("clientId", .text "i")])])),
    .answered (.sample 200 (.object [("token_endpoint", .text "t")])),
    .answered .keys]

theorem Draft.accept_sample : Draft.sample.accept = .ok Client.sample.settings :=
  except_toOption_eq_some.mp (by decide)

end TenantApps
