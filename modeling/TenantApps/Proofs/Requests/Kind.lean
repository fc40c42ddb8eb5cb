import TenantApps.Proofs.Names.Guard
import TenantApps.Proofs.Tasks.Trail

/-!
# `TenantApps.Proofs.Requests.Kind` — the kinds of requests

A client sends requests of six kinds. A `RequestKind` and the settings determine the request;
earlier responses determine at most the `Uuid` in it. Since the calls of a client are put together
from these kinds by a few combinators, a property of attempts that is closed under them holds of
every call.

## Contents
- `RequestKind`, with `RequestKind.Suits` and `RequestKind.request`.
- `Compositional`, properties closed under the combinators, and `Compositional.answer`, **every call
  has them**.
- `Client.steady_answer`, the instance for `Steady` under the frame conditions of a discipline.
- `requesting`, the discipline of requests with a property, and `Course.Reachable.kind`: every
  request of a course has a kind that suits its call.
-/

namespace TenantApps

open Attempt Procedure

/-- **`RequestKind`**: the purpose of a request. -/
inductive RequestKind
  /-- The lookup of a name. -/
  | lookup (name : ApplicationName)
  /-- The `POST` of an application. -/
  | create (name : ApplicationName)
  /-- The `DELETE` of an application. -/
  | delete (id : Uuid)
  /-- The `POST` of a secret. -/
  | secret (id : Uuid)
  /-- The `GET` of an application. -/
  | fetch (id : Uuid)
  /-- The `GET` of the discovery document. -/
  | discover

namespace RequestKind

/-- `kind.Suits call`: `call` may send requests of this kind. -/
def Suits : RequestKind → Call → Prop
  | lookup name, call => call.name? = some name
  | create name, call => call = .create name.text
  | delete _, call => call.name?.isSome = true
  | secret _, call | fetch _, call => ∃ name : ApplicationName, call = .create name.text
  | discover, call => ∀ s, call ≠ .delete s

/-- The builder of the client for requests of this kind. -/
def request (c : Client) : RequestKind → Except ConfigError Http.Request
  | lookup name => c.directory.request .get (c.directory.lookupUrl name) none
  | create name =>
    c.directory.request .post c.directory.endpoint (some (Payload.newApplication name.text))
  | delete id => c.directory.requestAt .delete id [] none
  | secret id =>
    c.directory.requestAt .post id ["apiSecrets"] (some (Payload.newSecret c.settings.description))
  | fetch id => c.directory.requestAt .get id [] none
  | discover => c.discovery.request

end RequestKind

/-! ## Properties of calls -/

/-- The argument of a creation or deletion. -/
def Call.text? : Call → Option String
  | create s | delete s => some s
  | tokenUrl | jwksUri | credentials | settings => none

/-- **`Compositional c call P`**: `P` is closed under the combinators that the calls are built
with. -/
structure Compositional (c : Client) (call : Call) (P : {α : Type} → Attempt α → Prop) : Prop where
  /-- Attempts of `emit` nodes whose error, if any, has a stage. -/
  verdict {α : Type} {a : Attempt α} {x : Except Error α} (h : verdict? a = some x)
    (hx : Staged x) : P a
  /-- The rejection of a text that is no name. -/
  unnamed {α : Type} {text : String} {e : NameError} (ht : call.text? = some text)
    (he : ApplicationName.check text = .error e) : P (throw (.config (.name e)) : Attempt α)
  bind {α β : Type} {a : Attempt α} {f : α → Attempt β} (ha : P a) (hf : ∀ x, P (f x)) :
    P (a >>= f)
  /-- `Attempt.ask` for a request of some kind that suits the call. -/
  ask {α : Type} (kind : RequestKind) {stage : Stage} {read : Http.Response → Attempt α}
    {verdict : Http.Response → Except Error α} (hs : kind.Suits call)
    (h : ∀ r, verdict? (read r) = some (verdict r)) (hx : ∀ r, Staged (verdict r)) :
    P (.ask stage (kind.request c) read)
  locked {α : Type} {a : Attempt α} (l : Lock) (ha : P a) : P (.locked l a)
  /-- `Discovery.lookup` of an endpoint, given its branch for a cache miss. -/
  lookup {e : Endpoint} (ha : P (do
    let doc ← c.discovery.document (Discovery.stage e)
    .ofProcedure (Discovery.keep e (e.pick doc)) : Attempt (Option String))) :
    P (c.discovery.lookup e)
  keep (e : Endpoint) (address : Option String) : P (.ofProcedure (Discovery.keep e address))
  observed {α : Type} {a : Attempt α} (op : Operation) (text : String) (ha : P a) :
    P (Client.observed op text a)

namespace Compositional

variable {c : Client} {call : Call} {P : {α : Type} → Attempt α → Prop}

theorem map {α β : Type} {a : Attempt α} (h : Compositional c call P) (f : α → β) (ha : P a) :
    P (f <$> a) :=
  h.bind ha fun x => h.verdict (a := pure (f x)) (x := .ok (f x)) rfl (staged_ok _)

theorem address (h : Compositional c call P) (hd : RequestKind.discover.Suits call) (e : Endpoint) :
    P (c.discovery.address e) := by
  refine h.bind (h.locked _ (h.lookup (h.bind ?_ fun doc => h.keep e (e.pick doc)))) fun a => ?_
  · exact h.ask .discover hd (Discovery.verdict?_readDocument _)
      fun r => staged_bodyVerdict _ _ _ r
  · cases a with
    | none => exact h.verdict (x := .error _) rfl (staged_error nofun)
    | some a => exact h.verdict (x := .ok a) rfl (staged_ok a)

theorem clear {name : ApplicationName} (h : Compositional c call P) (hn : call.name? = some name)
    (stage : Stage) (change : Telemetry.Change) : P (c.clear stage change name) := by
  refine h.bind (h.ask (.lookup name) hn (Directory.verdict?_readLookup name)
    (Directory.staged_lookupVerdict name)) fun found => ?_
  cases found with
  | none => exact h.verdict (x := .ok ()) rfl (staged_ok _)
  | some existing =>
    have hid : call.name?.isSome = true := by rw [hn]; rfl
    refine h.bind (h.ask (.delete existing.id) hid (Directory.verdict?_readDeletion stage)
      (Directory.staged_deletionVerdict stage)) fun deletion => ?_
    cases deletion <;> exact h.verdict (x := .ok ()) rfl (staged_ok _)

theorem equip {name : ApplicationName} (h : Compositional c (.create name.text) P) (id : Uuid) :
    P (c.equip name id) := by
  refine h.bind (h.verdict (a := .logChange .created name id) (x := .ok ()) rfl (staged_ok _))
    fun _ => ?_
  refine h.bind (h.ask (.secret id) ⟨name, rfl⟩ Directory.verdict?_readSecret
    fun r => (Directory.staged_secretVerdict r).map _) fun secret => ?_
  refine h.bind (h.ask (.fetch id) ⟨name, rfl⟩ Directory.verdict?_readRecord
    fun r => staged_bodyVerdict _ _ _ r) fun record => ?_
  have hid : P (Attempt.require .retrieveClientId "clientId" record.clientId) := by
    cases record.clientId with
    | none => exact h.verdict (x := .error _) rfl (staged_error nofun)
    | some clientId => exact h.verdict (x := .ok clientId) rfl (staged_ok clientId)
  refine h.bind hid fun clientId => ?_
  refine h.bind (h.address nofun .token) fun tokenUrl => ?_
  refine h.bind (h.address nofun .keys) fun jwksUri => ?_
  exact h.verdict (x := .ok _) rfl (staged_ok _)

theorem onName {α : Type} {f : ApplicationName → Attempt α} {text : String}
    (h : Compositional c call P) (ht : call.text? = some text)
    (hf : ∀ name, ApplicationName.check text = .ok name → P (f name)) : P (c.onName text f) :=
  c.onName_cases text (fun _ he => h.unnamed ht he) (fun name hn => h.locked _ (hf name hn)) hf

/-- **Every call has a compositional property.** -/
theorem answer (h : Compositional c call P) : P (c.answer call) := by
  cases call with
  | create text =>
    refine h.map Answer.created (h.observed _ _ (h.onName rfl fun name hn => ?_))
    have hname : Call.name? (.create text) = some name := by rw [Call.name?, hn]; rfl
    obtain rfl := ApplicationName.text_of_check hn
    rw [Client.recreate_eq, Client.removeExisting_eq]
    refine h.bind (h.clear hname _ _) fun _ => ?_
    refine h.bind (h.ask (.create name) rfl Directory.verdict?_readCreation
      Directory.staged_creationVerdict) fun id => ?_
    exact h.equip id
  | delete text =>
    refine h.map (fun () => Answer.deleted) (h.observed _ _ (h.onName rfl fun name hn => ?_))
    exact h.clear (by rw [Call.name?, hn]; rfl) .deleteApplication .deleted
  | tokenUrl => exact h.map Answer.address (h.address nofun .token)
  | jwksUri => exact h.map Answer.address (h.address nofun .keys)
  | credentials => exact h.verdict (x := .ok (.credentials _)) rfl (staged_ok _)
  | settings => exact h.verdict (x := .ok (.settings _)) rfl (staged_ok _)

end Compositional

/-- A call is `Steady` if locks, addresses and the requests of its kinds satisfy the frame
conditions. -/
theorem Client.steady_answer {σ : Type} {D : Discipline σ} {s : σ} (c : Client) {call : Call}
    (hl : ∀ l, D.Ignores s l) (ho : ∀ e, D.FramesAddress s e)
    (hp : ∀ kind : RequestKind, kind.Suits call → ∀ stage r, kind.request c = .ok r →
      D.FramesRequest s stage r) : Steady D s (c.answer call) :=
  have h : Compositional c call (Steady D s) := {
    verdict := fun h _ => Steady.of_verdict? h
    unnamed := fun _ _ => Steady.of_verdict? (x := .error _) rfl
    bind := Steady.bind
    ask := fun kind => fun hs h _ => Steady.ask (hp kind hs _) h
    locked := fun l => Steady.locked (hl l)
    lookup := fun {e} ha known => by
      refine ⟨(ho e).consult known, ?_⟩
      intro s' hs'
      obtain rfl := (ho e).consults known s' hs'
      cases known with
      | some a => rfl
      | none => exact ha
    keep := fun e address => by
      cases address with
      | some a => exact ⟨(ho e).remember a, (ho e).remembers a⟩
      | none => rfl
    observed := follows_observed }
  h.answer

/-! ## Over courses -/

/-- The discipline of requests with the property `P`; it has no state. -/
def requesting (P : Http.Request → Prop) : Discipline Unit where
  allows
    | .sends _ r, _ => P r
    | _, _ => True
  after _ _ _ := True

/-- `requesting P` tracks that all requests sent have `P`. -/
theorem requesting_tracks {α : Type} (P : Http.Request → Prop) (i : TaskId) :
    (requesting P).Tracks i
      fun (xs : List (Entry α)) _ => ∀ j stage r, .sent j stage r ∈ xs → P r := by
  have other {xs : List (Entry α)} {x : Entry α} (h : ∀ j stage r, .sent j stage r ∈ xs → P r)
      (hx : ∀ j stage r, .sent j stage r = x → P r) :
      ∀ j stage r, .sent j stage r ∈ xs ++ [x] → P r := by
    intro j stage r hm
    rcases List.mem_append.mp hm with hm | hm
    · exact h j stage r hm
    · exact hx j stage r (List.mem_singleton.mp hm)
  constructor
  case sends =>
    intro xs s stage r h hr
    refine ⟨s, trivial, other h ?_⟩
    rintro _ _ _ ⟨⟩
    exact hr
  case receives => exact fun h => ⟨(), trivial, other h fun _ _ _ he => nomatch he⟩
  case emits => exact fun h => other h fun _ _ _ he => nomatch he
  case ends => exact fun h => other h fun _ _ _ he => nomatch he
  case acquires | releases | consults | remembers => exact fun h _ => ⟨(), trivial, h⟩

/-- Every request of a reachable course is that of a kind which suits the call of its task. -/
theorem Course.Reachable.kind {c : Client} {s : Course} {i : TaskId} {r : Http.Request}
    (h : Reachable c s) (hr : (i, r) ∈ s.machine.report.requests) :
    ∃ (call : Call) (kind : RequestKind), s.calls[i]? = some call ∧
      kind.Suits call ∧ kind.request c = .ok r := by
  obtain ⟨x, hx, he⟩ := List.mem_filterMap.mp hr
  cases x with
  | sent j stage r' =>
    cases he
    obtain ⟨call, t, hcall, htrail, hm⟩ := h.trail hx
    have hfollows : Follows
        (requesting fun r => ∃ kind : RequestKind, kind.Suits call ∧ kind.request c = .ok r)
        (fun _ s => s = ()) (c.answer call) () :=
      c.steady_answer (fun _ => ⟨trivial, trivial, fun _ _ => rfl, fun _ _ => rfl⟩)
        (fun _ => ⟨fun _ => trivial, fun _ => trivial, fun _ _ _ => rfl, fun _ _ _ => rfl⟩)
        fun kind hs _ _ hr => ⟨⟨kind, hs, hr⟩, fun _ _ => rfl, fun _ _ _ => rfl⟩
    obtain ⟨-, -, hI⟩ := htrail.tracked hfollows (requesting_tracks _ _)
      fun _ _ _ hm => nomatch hm
    obtain ⟨kind, hs, hr⟩ := hI _ _ _ hm
    exact ⟨call, kind, hcall, hs, hr⟩
  | answered j stage o | signalled j x | ended j a => cases he

end TenantApps
