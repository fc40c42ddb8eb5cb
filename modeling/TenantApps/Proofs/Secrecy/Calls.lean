import TenantApps.Proofs.Secrecy.Redaction
import TenantApps.Proofs.Tenant.Operations

/-!
# `TenantApps.Proofs.Secrecy.Calls` — calls do not depend on the password

Every call of a client is `Attempt.Alike` the same call of the client with another password: the
password occurs in the value of `authorization` only, and a disclosed secret in the `clientSecret`
of the result only.

## Contents
- `withPassword` for credentials, drafts, settings and clients, with their diagnostics.
- `Application.Alike` and `Answer.Alike`, results up to secrets.
- `Client.answer_alike`, **every call is related to its copy**.
-/

namespace TenantApps

open Procedure

/-! ## Another password -/

def Credentials.withPassword (c : Credentials) (p : Secret) : Credentials :=
  { c with password := p }

def Draft.withPassword (d : Draft) (p : Secret) : Draft :=
  { d with credentials := d.credentials.withPassword p }

def Settings.withPassword (s : Settings) (p : Secret) : Settings :=
  { s with credentials := s.credentials.withPassword p }

/-- The same client with the password `p`. -/
def Client.withPassword (c : Client) (p : Secret) : Client := ⟨c.settings.withPassword p⟩

/-- `Draft.accept` does not depend on the password. -/
theorem Draft.accept_withPassword (d : Draft) (p : Secret) :
    (d.withPassword p).accept = d.accept.map (·.withPassword p) := by
  unfold accept
  by_cases hu : d.credentials.username = ""
  · rw [if_pos hu, if_pos (show (d.withPassword p).credentials.username = "" from hu)]
    rfl
  rw [if_neg hu, if_neg (show (d.withPassword p).credentials.username ≠ "" from hu)]
  by_cases ht : d.timeout.isZero = true
  · rw [if_pos ht, if_pos (show (d.withPassword p).timeout.isZero = true from ht)]
    rfl
  rw [if_neg ht, if_neg (show ¬(d.withPassword p).timeout.isZero = true from ht)]
  by_cases hd : d.description = ""
  · rw [if_pos hd, if_pos (show (d.withPassword p).description = "" from hd)]
    rfl
  rw [if_neg hd, if_neg (show (d.withPassword p).description ≠ "" from hd)]
  show (tenantBase d.credentials.url >>= fun tenant => _) =
    Except.map _ (tenantBase d.credentials.url >>= fun tenant => _)
  cases tenantBase d.credentials.url with
  | error e => rfl
  | ok tenant =>
    show (below d.credentials.url tenant applicationsPath >>= fun applications => _) =
      Except.map _ (below d.credentials.url tenant applicationsPath >>= fun applications => _)
    cases below d.credentials.url tenant applicationsPath with
    | error e => rfl
    | ok applications =>
      show (below d.credentials.url tenant discoveryPath >>= fun discovery => _) =
        Except.map _ (below d.credentials.url tenant discoveryPath >>= fun discovery => _)
      cases below d.credentials.url tenant discoveryPath <;> rfl

/-! ## Diagnostics -/

theorem Settings.debug_withPassword (s : Settings) (p : Secret) :
    (s.withPassword p).debug = s.debug := rfl

theorem Client.debug_withPassword (c : Client) (p : Secret) :
    (c.withPassword p).debug = c.debug := rfl

theorem Directory.debug_withPassword (c : Client) (p : Secret) :
    (c.withPassword p).directory.debug = c.directory.debug := rfl

/-! ## Results -/

/-- Applications that agree up to `clientSecret` and in their diagnostics. -/
def Application.Alike (a a' : Application) : Prop :=
  { a' with clientSecret := a.clientSecret } = a ∧ a'.debug = a.debug

/-- Answers that agree up to the `clientSecret` of an application and the password of
credentials. -/
def Answer.Alike : Answer → Answer → Prop
  | .created a, .created a' => a.Alike a'
  | .credentials k, .credentials k' => k'.withPassword k.password = k ∧ k'.debug = k.debug
  | .settings s, .settings s' =>
    s'.withPassword s.credentials.password = s ∧ s'.debug = s.debug
  | a, a' => a = a'

/-! ## Requests -/

/-- Requests of two directories at one URL agree up to `authorization`. -/
theorem Directory.request_concealed (d d' : Directory) (method : Http.Method) (url : Url)
    (body : Option Json.Value) : (d.request method url body).map Http.Request.concealed =
      (d'.request method url body).map Http.Request.concealed := by
  unfold request
  cases Http.Target.ofUrl url with
  | error e => rfl
  | ok target => cases body <;> rfl

theorem Directory.requestAt_concealed {d d' : Directory} (hd : d.endpoint = d'.endpoint)
    (method : Http.Method) (id : Uuid) (suffix : List String) (body : Option Json.Value) :
    (d.requestAt method id suffix body).map Http.Request.concealed =
      (d'.requestAt method id suffix body).map Http.Request.concealed := by
  have hplace : d.place id suffix = d'.place id suffix := by rw [place, place, hd]
  unfold requestAt
  rw [hplace]
  cases d'.place id suffix with
  | error e => rfl
  | ok url => exact d.request_concealed d' method url body

/-! ## The parts of an operation -/

open Attempt

namespace Discovery

variable (d : Discovery)

/-- `Discovery.address` does not depend on secrets. -/
theorem address_alike (e : Endpoint) : Attempt.Alike Eq (d.address e) (d.address e) := by
  have hask : Attempt.Alike Eq (d.document (stage e)) (d.document (stage e)) := by
    cases e <;> exact Attempt.Alike.ask_same nofun rfl (verdict?_readDocument _)
  refine Attempt.Alike.bind (R := Eq) (Attempt.Alike.locked _ (.consult fun known => ?_)) ?_
  · cases known with
    | some a => exact .done (.ok rfl)
    | none =>
      refine Attempt.Alike.bind hask ?_
      rintro doc _ rfl
      show Procedure.Alike _ (keep e (e.pick doc)) (keep e (e.pick doc))
      cases e.pick doc with
      | some a => exact .remember (.done (.ok rfl))
      | none => exact .done (.ok rfl)
  · rintro a _ rfl
    cases a <;> exact Attempt.Alike.of_verdict? rfl fun _ => rfl

end Discovery

namespace Client

variable (c : Client) (p : Secret) (name : ApplicationName)

theorem request_concealed (method : Http.Method) (url : Url) (body : Option Json.Value) :
    (c.directory.request method url body).map Http.Request.concealed =
      ((c.withPassword p).directory.request method url body).map Http.Request.concealed :=
  c.directory.request_concealed (c.withPassword p).directory method url body

theorem requestAt_concealed (method : Http.Method) (id : Uuid) (suffix : List String)
    (body : Option Json.Value) :
    (c.directory.requestAt method id suffix body).map Http.Request.concealed =
      ((c.withPassword p).directory.requestAt method id suffix body).map Http.Request.concealed :=
  have hend : c.directory.endpoint = (c.withPassword p).directory.endpoint := rfl
  Directory.requestAt_concealed hend method id suffix body

theorem find_alike :
    Attempt.Alike Eq (c.directory.find name) ((c.withPassword p).directory.find name) :=
  Attempt.Alike.ask_same nofun (c.request_concealed p .get _ none)
    (Directory.verdict?_readLookup name)

theorem delete_alike (id : Uuid) {stage : Stage}
    (hs : stage = .deleteExistingApplication ∨ stage = .deleteApplication) :
    Attempt.Alike Eq (c.directory.delete id stage)
      ((c.withPassword p).directory.delete id stage) := by
  rcases hs with rfl | rfl <;>
    exact Attempt.Alike.ask_same nofun (c.requestAt_concealed p .delete id [] none)
      (Directory.verdict?_readDeletion _)

theorem clear_alike (change : Telemetry.Change) {stage : Stage}
    (hs : stage = .deleteExistingApplication ∨ stage = .deleteApplication) :
    Attempt.Alike Eq (c.clear stage change name) ((c.withPassword p).clear stage change name) := by
  refine Attempt.Alike.bind (c.find_alike p name) ?_
  rintro found _ rfl
  cases found with
  | none => exact .done (.ok rfl)
  | some existing =>
    refine Attempt.Alike.bind (c.delete_alike p existing.id hs) ?_
    rintro deletion _ rfl
    cases deletion <;> exact Attempt.Alike.of_verdict? rfl fun _ => rfl

/-- `Directory.createSecret` is related for any two disclosed secrets. -/
theorem createSecret_alike (id : Uuid) (description : String) :
    Attempt.Alike (fun _ _ => True) (c.directory.createSecret id description)
      ((c.withPassword p).directory.createSecret id description) := by
  refine Attempt.Alike.ask (c.requestAt_concealed p .post id ["apiSecrets"] _) ?_
  intro o o' ho
  cases ho with
  | same => exact Attempt.Alike.of_verdict? (Directory.verdict?_readSecret o) fun _ => trivial
  | secrets h h' =>
    rw [Directory.readSecret_of_discloses h, Directory.readSecret_of_discloses h']
    exact .done (.ok trivial)

/-- `Client.complete` puts the secret into the result only. -/
theorem complete_alike (id : Uuid) (secret secret' : Secret) (clientId : String) :
    Attempt.Alike Application.Alike (c.complete name id secret clientId)
      ((c.withPassword p).complete name id secret' clientId) := by
  refine Attempt.Alike.bind (c.discovery.address_alike .token) ?_
  rintro tokenUrl _ rfl
  refine Attempt.Alike.bind (c.discovery.address_alike .keys) ?_
  rintro jwksUri _ rfl
  exact .done (.ok ⟨rfl, rfl⟩)

theorem equip_alike (id : Uuid) :
    Attempt.Alike Application.Alike (c.equip name id) ((c.withPassword p).equip name id) := by
  refine Attempt.Alike.bind (a := .logChange .created name id) (R := Eq)
    (Attempt.Alike.of_verdict? (r := .ok ()) rfl fun _ => rfl) ?_
  rintro _ _ rfl
  refine Attempt.Alike.bind (c.createSecret_alike p id c.settings.description) ?_
  rintro secret secret' -
  refine Attempt.Alike.bind (R := Eq) (Attempt.Alike.ask_same nofun
    (c.requestAt_concealed p .get id [] none) Directory.verdict?_readRecord) ?_
  rintro record _ rfl
  refine Attempt.Alike.bind (R := Eq) (a := .require .retrieveClientId "clientId" record.clientId)
    ?_ ?_
  · cases record.clientId <;> exact Attempt.Alike.of_verdict? rfl fun _ => rfl
  · rintro clientId _ rfl
    exact c.complete_alike p name id secret secret' clientId

theorem recreate_alike : Attempt.Alike Application.Alike (c.recreate name)
    ((c.withPassword p).recreate name) := by
  rw [recreate_eq, recreate_eq]
  refine Attempt.Alike.bind (c.clear_alike p name .deletedExisting (.inl rfl)) ?_
  rintro _ _ rfl
  refine Attempt.Alike.bind (R := Eq) (Attempt.Alike.ask_same nofun
    (c.request_concealed p .post _ _)
    Directory.verdict?_readCreation) ?_
  rintro id _ rfl
  exact c.equip_alike p name id

/-! ## Calls -/

variable {α : Type} {R : α → α → Prop}

theorem onName_alike (text : String) {f f' : ApplicationName → Attempt α}
    (hf : ∀ name, Attempt.Alike R (f name) (f' name)) :
    Attempt.Alike R (c.onName text f) ((c.withPassword p).onName text f') := by
  unfold onName
  cases ApplicationName.check text with
  | error e => exact .done (.error _)
  | ok name =>
    show Attempt.Alike R (c.serialized name (f name))
      ((c.withPassword p).serialized name (f' name))
    unfold serialized
    rw [show (c.withPassword p).settings.serializeByName = c.settings.serializeByName from rfl]
    split
    · exact Attempt.Alike.locked _ (hf name)
    · exact hf name

/-- `Client.observed` of related attempts. -/
theorem observed_alike (op : Operation) (text : String) {a a' : Attempt α}
    (ha : Attempt.Alike R a a') : Attempt.Alike R (observed op text a) (observed op text a') := by
  refine .emit (.emit (Procedure.Alike.bind (Procedure.Alike.inSpan _ ha) ?_))
  intro r r' hr
  cases hr with
  | ok h => exact (Procedure.Alike.emitAll _).bind fun _ _ _ => .done (.ok h)
  | error e => exact (Procedure.Alike.emitAll _).bind fun _ _ _ => .done (.error e)

/-- **Every call is related** to the same call with another password. -/
theorem answer_alike (call : Call) :
    Attempt.Alike Answer.Alike (c.answer call) ((c.withPassword p).answer call) := by
  cases call with
  | create text =>
    exact Attempt.Alike.map (observed_alike _ _ (c.onName_alike p text (c.recreate_alike p)))
      fun _ _ h => h
  | delete text =>
    exact Attempt.Alike.map (observed_alike _ _ (c.onName_alike p text
      fun name => c.clear_alike p name .deleted (.inr rfl))) fun _ _ _ => rfl
  | tokenUrl =>
    exact Attempt.Alike.map (c.discovery.address_alike .token) fun _ _ => congrArg Answer.address
  | jwksUri =>
    exact Attempt.Alike.map (c.discovery.address_alike .keys) fun _ _ => congrArg Answer.address
  | credentials => exact .done (.ok ⟨rfl, rfl⟩)
  | settings => exact .done (.ok ⟨rfl, rfl⟩)

end Client

end TenantApps
