import TenantApps.Proofs.Requests.Confinement

/-!
# `TenantApps.Proofs.Creation.Sequence` — the request sequence of a creation

`Client.createApplication` follows one reference sequence of request steps. Which steps there are
depends on the replies and on the address cache: there is a deletion if the lookup reply has exactly
one application, the `Uuid` of the later steps is the one in the `location` header of the reply to
the creation, and an address is asked for only if the cache has no entry for it.

The sequence is specified without the request builders of the client: a `RequestStep` names the kind
of a request and the replies to it that are accepted, and `RequestKind.Makes` says what a request of
a kind looks like. The proof runs `Procedure.replay` along the sequence, with one lemma for each
step.

## Contents
- `RequestStep`, one step of the sequence, and `Client.requestSteps`, the sequence of a creation for
  given replies and a given cache.
- `RequestStep.Run`, a run along a list of steps, with its laws `Run.request`, `Run.continues` and
  `Run.ok_iff`, and `Attempt.Realizes`, attempts whose replay is such a run.
- `Client.creation_sequence`, **the main result**.
-/

namespace TenantApps

open Attempt Procedure

/-- The `n`-th reply of a script, if it is a response. -/
def Http.Script.answer? (os : Http.Script) (n : Nat) : Option Http.Response :=
  match os[n]? with
  | some (.answered response) => some response
  | _ => none

theorem Http.Script.answer?_tail (os : Http.Script) (n : Nat) :
    Http.Script.answer? os.tail n = os.answer? (n + 1) := by
  rw [answer?, answer?, List.getElem?_tail]

/-- **`RequestStep`**: one step of a request sequence. -/
structure RequestStep where
  /-- The kind of the request of the step; `RequestKind.Makes` is its specification. -/
  kind : RequestKind
  /-- The responses after which the sequence continues. -/
  accepts : Http.Response → Prop

namespace RequestStep

/-- `GET` with the filter on `name`. Accepts 404, or 200 with a page of at most one application. -/
def lookup (name : ApplicationName) : RequestStep where
  kind := .lookup name
  accepts response := response.status = 404 ∨ response.status = 200 ∧ ∃ page,
    Json.decodeFirst ApplicationPage.decoder response.body = .ok page ∧
      (page.applications.getD []).length ≤ 1

/-- `DELETE` of the application `id`. Accepts 404 and every 2xx. -/
def deletion (id : Uuid) : RequestStep where
  kind := .delete id
  accepts response := response.status = 404 ∨ 200 ≤ response.status ∧ response.status < 300

/-- `POST` of an application. Accepts 201 with a `location` header that ends with a `Uuid`. -/
def creation (name : ApplicationName) : RequestStep where
  kind := .create name
  accepts response := response.status = 201 ∧ ∃ id,
    applicationId (response.headerText? "location") = .ok id

/-- `POST` to `apiSecrets` of the application `id`. Accepts 201 with a non-empty secret. -/
def secret (id : Uuid) : RequestStep where
  kind := .secret id
  accepts response := response.status = 201 ∧ ∃ answer secret,
    Json.decodeFirst SecretAnswer.decoder response.body = .ok answer ∧
      answer.secret = some secret ∧ secret ≠ ""

/-- `GET` of the application `id`. Accepts 200 with a non-empty `clientId`. -/
def clientId (id : Uuid) : RequestStep where
  kind := .fetch id
  accepts response := response.status = 200 ∧ ∃ record authentication clientId,
    Json.decodeFirst ApplicationRecord.decoder response.body = .ok record ∧
      record.authentication = some authentication ∧
      authentication.clientId = some clientId ∧ clientId ≠ ""

/-- `GET` of the discovery document for `e`. Accepts 200 with a document that has the address of
`e`. -/
def address (e : Endpoint) : RequestStep where
  kind := .discover
  accepts response := response.status = 200 ∧ ∃ doc a,
    Json.decodeFirst DiscoveryDocument.decoder response.body = .ok doc ∧ e.pick doc = some a

/-- The step `address e` on a cache miss, no step on a hit. -/
def addresses (k : Cache) (e : Endpoint) : List RequestStep :=
  if (k.get e).isSome then [] else [address e]

/-- The steps of a creation that need the `Uuid` of the new application. -/
def equipment (k : Cache) (id : Uuid) : List RequestStep :=
  secret id :: clientId id :: (addresses k .token ++ addresses k .keys)

end RequestStep

namespace Client

/-- The `Uuid` in the `location` header of a response. -/
def createdId? (response : Http.Response) : Option Uuid :=
  if response.status = 201 then (applicationId (response.headerText? "location")).toOption
  else none

/-- The application in the page of a response, if there is exactly one. -/
def existing? (response : Http.Response) : Option ApplicationRecord :=
  if response.status = 200 then
    match Json.decodeFirst ApplicationPage.decoder response.body with
    | .ok ⟨some [existing], _⟩ => some existing
    | _ => none
  else none

/-- The steps of a creation after the lookup and the deletion, given the response to the `POST`. -/
def creationSteps (name : ApplicationName) (k : Cache) (answer : Option Http.Response) :
    List RequestStep :=
  .creation name :: (answer.bind createdId?).elim [] (RequestStep.equipment k)

/-- **Reference sequence** of `createApplication` for the replies `os` and the cache `k`. -/
def requestSteps (name : ApplicationName) (k : Cache) (os : Http.Script) : List RequestStep :=
  .lookup name :: match (os.answer? 0).bind existing? with
    | some existing => .deletion existing.id :: creationSteps name k (os.answer? 2)
    | none => creationSteps name k (os.answer? 1)

end Client

/-! ## Accepted responses

`RequestStep.accepts` agrees with the verdicts of the client: a response is accepted if and only if
the verdict on it is `.ok`. -/

namespace Client

/-- The verdict on the response to the step `clientId`. -/
def clientIdVerdict (response : Http.Response) : Except Error String :=
  Directory.recordVerdict response >>= fun record =>
    presentVerdict .retrieveClientId "clientId" record.clientId

/-- The verdict on the response to the step `address e`. -/
def addressVerdict (e : Endpoint) (response : Http.Response) : Except Error String :=
  Discovery.documentVerdict (Discovery.stage e) response >>= fun doc =>
    presentVerdict (Discovery.stage e) e.field.label (e.pick doc)

/-- If the lookup succeeds, `existing?` is the application that it found. -/
theorem existing?_of_lookupVerdict {name : ApplicationName} {response : Http.Response}
    {found : Option ApplicationRecord} (h : Directory.lookupVerdict name response = .ok found) :
    existing? response = found := by
  obtain ⟨hs, rfl⟩ | ⟨hs, ⟨applications, total⟩, hp, hl⟩ := Directory.lookupVerdict_eq_ok.mp h
  · rw [existing?, if_neg (by simp [hs])]
  · rw [existing?, if_pos hs, hp]
    rcases applications with _ | _ | ⟨r, _ | ⟨r', rs⟩⟩ <;> cases found <;> simp_all

theorem createdId?_of_creationVerdict {response : Http.Response} {id : Uuid}
    (h : Directory.creationVerdict response = .ok id) : createdId? response = some id := by
  obtain ⟨hs, hid⟩ := Directory.creationVerdict_eq_ok.mp h
  rw [createdId?, if_pos hs, hid]
  rfl

end Client

namespace RequestStep

variable {response : Http.Response}

theorem lookup_accepts (name : ApplicationName) : (lookup name).accepts response ↔
    ∃ found, Directory.lookupVerdict name response = .ok found := by
  simp only [Directory.lookupVerdict_eq_ok]
  constructor
  · rintro (h | ⟨h, page, hp, hl⟩)
    · exact ⟨none, .inl ⟨h, rfl⟩⟩
    · refine ⟨(page.applications.getD []).head?, .inr ⟨h, page, hp, ?_⟩⟩
      rcases hrs : page.applications.getD [] with _ | ⟨r, _ | ⟨r', rs⟩⟩
      · rfl
      · rfl
      · rw [hrs] at hl
        exact absurd hl (by simp)
  · rintro ⟨found, ⟨h, -⟩ | ⟨h, page, hp, hl⟩⟩
    · exact .inl h
    · refine .inr ⟨h, page, hp, ?_⟩
      rw [hl]
      cases found <;> simp

theorem deletion_accepts (id : Uuid) : (deletion id).accepts response ↔
    ∃ x, Directory.deletionVerdict .deleteExistingApplication response = .ok x := by
  simp only [Directory.deletionVerdict_eq_ok]
  constructor
  · rintro (h | h)
    · exact ⟨.notFound, .inl ⟨h, rfl⟩⟩
    · exact ⟨.deleted, .inr ⟨by simpa [Http.Response.isSuccess] using h, rfl⟩⟩
  · rintro ⟨x, ⟨h, -⟩ | ⟨h, -⟩⟩
    · exact .inl h
    · exact .inr (by simpa [Http.Response.isSuccess] using h)

theorem creation_accepts (name : ApplicationName) : (creation name).accepts response ↔
    ∃ id, Directory.creationVerdict response = .ok id := by
  simp only [Directory.creationVerdict_eq_ok, exists_and_left]
  rfl

theorem secret_accepts (id : Uuid) : (secret id).accepts response ↔
    ∃ secret, (Directory.secretVerdict response).map Secret.mk = .ok secret := by
  have h : (∃ secret, (Directory.secretVerdict response).map Secret.mk = .ok secret) ↔
      ∃ s, Directory.secretVerdict response = .ok s := by
    cases Directory.secretVerdict response with
    | error e => exact ⟨nofun, nofun⟩
    | ok s => exact ⟨fun _ => ⟨s, rfl⟩, fun _ => ⟨⟨s⟩, rfl⟩⟩
  rw [h]
  simp only [Directory.secretVerdict_eq_ok, Option.filter_eq_some_iff, decide_eq_true_eq]
  constructor
  · rintro ⟨hs, answer, s, hd, ha, hne⟩
    exact ⟨s, hs, answer, hd, ha, hne⟩
  · rintro ⟨s, hs, answer, hd, ha, hne⟩
    exact ⟨hs, answer, s, hd, ha, hne⟩

theorem clientId_accepts (id : Uuid) : (clientId id).accepts response ↔
    ∃ s, Client.clientIdVerdict response = .ok s := by
  simp only [Client.clientIdVerdict, except_bind_eq_ok, Directory.recordVerdict,
    bodyVerdict_eq_ok, presentVerdict_eq_ok, ApplicationRecord.clientId,
    Option.filter_eq_some_iff, Option.bind_eq_some_iff, decide_eq_true_eq]
  constructor
  · rintro ⟨hs, record, authentication, s, hd, ha, hc, hne⟩
    exact ⟨s, record, ⟨hs, hd⟩, ⟨authentication, ha, hc⟩, hne⟩
  · rintro ⟨s, record, ⟨hs, hd⟩, ⟨authentication, ha, hc⟩, hne⟩
    exact ⟨hs, record, authentication, s, hd, ha, hc, hne⟩

theorem address_accepts (e : Endpoint) : (address e).accepts response ↔
    ∃ a, Client.addressVerdict e response = .ok a := by
  simp only [Client.addressVerdict, except_bind_eq_ok, Discovery.documentVerdict,
    bodyVerdict_eq_ok, presentVerdict_eq_ok]
  constructor
  · rintro ⟨hs, doc, a, hd, ha⟩
    exact ⟨a, doc, ⟨hs, hd⟩, ha⟩
  · rintro ⟨a, doc, ⟨hs, hd⟩, ha⟩
    exact ⟨hs, doc, a, hd, ha⟩

end RequestStep

/-! ## Runs along a list of steps -/

namespace RequestStep

/-- `l.takes answer`: there is a response, and the step `l` accepts it. -/
def takes (l : RequestStep) (answer : Option Http.Response) : Prop :=
  ∃ response, answer = some response ∧ l.accepts response

/-- **`Run c ls os rs ok`**: along the steps `ls`, with the replies `os`, the requests `rs` are
sent, and `ok` says whether every step took its reply. -/
inductive Run (c : Client) : List RequestStep → Http.Script → List Http.Request → Bool → Prop
  | finish (os : Http.Script) : Run c [] os [] true
  /-- The first step does not take its reply: the run stops after its request. -/
  | stop {l : RequestStep} {ls : List RequestStep} {os : Http.Script} {r : Http.Request}
    (hr : l.kind.request c = .ok r) (h : ¬l.takes (os.answer? 0)) : Run c (l :: ls) os [r] false
  /-- The first step takes its reply: the run continues with the remaining steps and replies. -/
  | next {l : RequestStep} {ls : List RequestStep} {os : Http.Script} {r : Http.Request}
    {rs : List Http.Request} {ok : Bool} (hr : l.kind.request c = .ok r)
    (h : l.takes (os.answer? 0)) (hn : Run c ls os.tail rs ok) : Run c (l :: ls) os (r :: rs) ok

namespace Run

variable {c : Client} {ls : List RequestStep} {os : Http.Script} {rs : List Http.Request}
  {ok : Bool}

/-- At most one request for each step. -/
theorem length_le (h : Run c ls os rs ok) : rs.length ≤ ls.length := by
  induction h with
  | finish os => exact Nat.le_refl 0
  | stop hr h => exact Nat.succ_le_succ (Nat.zero_le _)
  | next hr h hn ih => exact Nat.succ_le_succ ih

/-- The `n`-th request is built for the kind of the `n`-th step. -/
theorem request (h : Run c ls os rs ok) (n : Nat) (hr : n < rs.length) (hl : n < ls.length) :
    ls[n].kind.request c = .ok rs[n] := by
  induction h generalizing n with
  | finish os => cases hl
  | stop hreq h =>
    obtain rfl : n = 0 := by simpa using hr
    exact hreq
  | next hreq h hn ih =>
    cases n with
    | zero => exact hreq
    | succ n => exact ih n (Nat.lt_of_succ_lt_succ hr) (Nat.lt_of_succ_lt_succ hl)

/-- The first request is always sent. -/
theorem pos (h : Run c ls os rs ok) (hl : 0 < ls.length) : 0 < rs.length := by
  cases h with
  | finish os => exact hl
  | stop hr h | next hr h hn => exact Nat.succ_pos _

/-- Request `n + 1` is sent if and only if request `n` is and step `n` takes its reply. -/
theorem continues (h : Run c ls os rs ok) (n : Nat) (hn : n + 1 < ls.length) :
    n + 1 < rs.length ↔ n < rs.length ∧ ls[n].takes (os.answer? n) := by
  induction h generalizing n with
  | finish os => cases hn
  | stop hr h =>
    refine ⟨fun hlt => absurd hlt (by simp), fun ⟨hlt, ht⟩ => ?_⟩
    obtain rfl : n = 0 := by simpa using hlt
    exact absurd ht h
  | next hr h hg ih =>
    -- the place in the list is the first one, or it is a place in what is left
    rw [List.length_cons, Nat.succ_lt_succ_iff] at hn
    cases n with
    | zero => exact ⟨fun _ => ⟨Nat.succ_pos _, h⟩, fun _ => Nat.succ_lt_succ (hg.pos hn)⟩
    | succ n =>
      rw [List.length_cons, Nat.succ_lt_succ_iff, Nat.succ_lt_succ_iff, ih n hn,
        ← Http.Script.answer?_tail]
      rfl

/-- `ok` if and only if every step takes its reply. -/
theorem ok_iff (h : Run c ls os rs ok) :
    ok = true ↔ ∀ n (hn : n < ls.length), ls[n].takes (os.answer? n) := by
  induction h with
  | finish os => exact ⟨fun _ n hn => (nomatch hn), fun _ => rfl⟩
  | stop hr h => exact ⟨nofun, fun ht => absurd (ht 0 (Nat.succ_pos _)) h⟩
  | @next l ls os r rs ok hr h hg ih =>
    rw [ih]
    constructor
    · intro ht n hn
      cases n with
      | zero => exact h
      | succ n => exact Http.Script.answer?_tail os n ▸ ht n (Nat.lt_of_succ_lt_succ hn)
    · intro ht n hn
      exact (Http.Script.answer?_tail os n).symm ▸ ht (n + 1) (Nat.succ_lt_succ hn)

end Run

end RequestStep

namespace Attempt

variable {α β : Type} {os os' : Http.Script} {k k' : Cache} {r : Http.Request} {l : RequestStep}
  {ls : List RequestStep} {c : Client}

/-- **`Realizes c a os k ls`**: the replay of `a` on `os` and `k` is a `Run` along `ls` with the
same success. -/
def Realizes (c : Client) (a : Attempt α) (os : Http.Script) (k : Cache)
    (ls : List RequestStep) : Prop :=
  RequestStep.Run c ls os (replay a os k).requests (replay a os k).result.isOk

/-- A silent successful prefix adds no step. -/
theorem Realizes.after {a : Attempt α} {x : α} {f : α → Attempt β}
    (h : replay a os k = ⟨.ok x, [], k', os⟩) (hf : Realizes c (f x) os k' ls) :
    Realizes c (a >>= f) os k ls := by
  rw [Realizes, replay_bind_ok f h]
  exact hf

theorem received_eq_ok {stage : Stage} {verdict : Http.Response → Except Error α} {x : α}
    {os : Http.Script} : received stage verdict os.reply = .ok x ↔
      ∃ response, os.answer? 0 = some response ∧ verdict response = .ok x := by
  rcases os with _ | ⟨_ | _ | _, os⟩ <;>
    simp [received, Http.Script.reply, Http.Script.answer?]

/-- An attempt that sends the one request of `l` adds the step `l`; the continuation is needed only
if `l` takes its reply. -/
theorem Realizes.step {stage : Stage} {a : Attempt α} {verdict : Http.Response → Except Error α}
    {f : α → Attempt β} (h : replay a os k = ⟨received stage verdict os.reply, [r], k', os.tail⟩)
    (hr : l.kind.request c = .ok r)
    (hv : ∀ {response}, l.accepts response ↔ ∃ x, verdict response = .ok x)
    (hf : ∀ response x, os.answer? 0 = some response → verdict response = .ok x →
      Realizes c (f x) os.tail k' ls) : Realizes c (a >>= f) os k (l :: ls) := by
  cases hx : received stage verdict os.reply with
  | error e =>
    -- the step does not take the reply, so this is the last request
    rw [hx] at h
    rw [Realizes, replay_bind_error f h]
    refine RequestStep.Run.stop hr ?_
    rintro ⟨response, ho, ha⟩
    obtain ⟨x, hx'⟩ := hv.mp ha
    rw [received_eq_ok.mpr ⟨response, ho, hx'⟩] at hx
    cases hx
  | ok x =>
    rw [hx] at h
    rw [Realizes, replay_bind_ok f h]
    obtain ⟨response, ho, hx'⟩ := received_eq_ok.mp hx
    exact RequestStep.Run.next hr ⟨response, ho, hv.mpr ⟨x, hx'⟩⟩ (hf response x ho hx')

end Attempt

/-! ## The parts of `createApplication` -/

section Parts

variable {os : Http.Script} {k : Cache} {r : Http.Request}

/-- `Discovery.address` on a cache hit. -/
theorem Discovery.replay_address_known (d : Discovery) {e : Endpoint} {a : String}
    (ha : k.get e = some a) (os : Http.Script) :
    replay (d.address e) os k = ⟨.ok a, [], k, os⟩ := by
  have h : replay (d.resolve e) os k = ⟨.ok (some a), [], k, os⟩ := by
    refine (replay_locked _ _ os k).trans ((replay_consult ..).trans ?_)
    rw [ha]
    rfl
  exact replay_bind_ok _ h

/-- `Discovery.address` on a cache miss: one request, and the entry of another endpoint is
unchanged. -/
theorem Discovery.replay_address_unknown (d : Discovery) {e : Endpoint} (ha : k.get e = none)
    (hr : d.request = .ok r) (os : Http.Script) : ∃ k',
      replay (d.address e) os k =
        ⟨received (stage e) (Client.addressVerdict e) os.reply, [r], k', os.tail⟩ ∧
      ∀ e', e' ≠ e → k'.get e' = k.get e' := by
  have hdoc : replay (d.document (stage e)) os k = _ :=
    replay_ask hr (verdict?_readDocument (stage e)) os k
  -- nothing is known, so the document is asked for
  have hlook : replay (d.resolve e) os k = replay (do
      let doc ← d.document (stage e)
      .ofProcedure (keep e (e.pick doc)) : Attempt (Option String)) os k := by
    refine (replay_locked _ _ os k).trans ((replay_consult ..).trans ?_)
    rw [ha]
  have hv : received (stage e) (Client.addressVerdict e) os.reply =
      received (stage e) (documentVerdict (stage e)) os.reply >>= fun doc =>
        presentVerdict (stage e) e.field.label (e.pick doc) := by
    cases os.reply <;> rfl
  rw [hv]
  cases hd : received (stage e) (documentVerdict (stage e)) os.reply with
  | error error =>
    rw [hd] at hdoc
    refine ⟨k, replay_bind_error _ (hlook.trans (replay_bind_error _ hdoc)), fun _ _ => rfl⟩
  | ok doc =>
    rw [hd] at hdoc
    have hres := hlook.trans (replay_bind_ok _ hdoc)
    show ∃ k', replay (d.address e) os k =
      ⟨presentVerdict (stage e) e.field.label (e.pick doc), [r], k', os.tail⟩ ∧ _
    cases hp : e.pick doc with
    | none =>
      rw [hp] at hres
      exact ⟨k, replay_bind_ok _ hres, fun _ _ => rfl⟩
    | some a =>
      rw [hp] at hres
      refine ⟨k.set e a, replay_bind_ok _ hres, ?_⟩
      intro e' he
      cases e <;> cases e' <;> first | rfl | exact absurd rfl he

namespace Client

variable (c : Client) {α : Type} {ls : List RequestStep}

/-- `Discovery.address e` realizes `RequestStep.addresses k e`. -/
theorem realizes_address {e : Endpoint} {f : String → Attempt α}
    (hb : ∀ l ∈ RequestStep.addresses k e, ∃ r, l.kind.request c = .ok r)
    (hf : ∀ a os k', (∀ e', e' ≠ e → k'.get e' = k.get e') → Realizes c (f a) os k' ls) :
    Realizes c (c.discovery.address e >>= f) os k (RequestStep.addresses k e ++ ls) := by
  unfold RequestStep.addresses at hb ⊢
  cases ha : k.get e with
  | some a =>
    exact Realizes.after (c.discovery.replay_address_known ha os) (hf a os k fun _ _ => rfl)
  | none =>
    rw [ha] at hb
    obtain ⟨r, hr⟩ := hb _ List.mem_cons_self
    obtain ⟨k', h, hk⟩ := c.discovery.replay_address_unknown ha hr os
    exact Realizes.step h hr (RequestStep.address_accepts e) fun _ a _ _ => hf a os.tail k' hk

theorem realizes_complete (name : ApplicationName) (id : Uuid) (secret : Secret)
    (clientId : String)
    (hb : ∀ l ∈ RequestStep.addresses k .token ++ RequestStep.addresses k .keys,
      ∃ r, l.kind.request c = .ok r) :
    Realizes c (c.complete name id secret clientId) os k
      (RequestStep.addresses k .token ++ RequestStep.addresses k .keys) := by
  apply c.realizes_address (fun l hl => hb l (List.mem_append_left _ hl))
  intro tokenUrl os k' hk
  -- the first look-up leaves open whether the other address is known
  have he : RequestStep.addresses k .keys = RequestStep.addresses k' .keys ++ [] := by
    rw [List.append_nil, RequestStep.addresses, RequestStep.addresses, hk .keys nofun]
  rw [he] at hb ⊢
  refine c.realizes_address (fun l hl => hb l ?_) fun jwksUri os k'' _ => .finish os
  exact List.mem_append_right _ (List.mem_append_left _ hl)

/-- `createApplication` without its lookup, its deletion and its telemetry. -/
def establish (name : ApplicationName) : Attempt Application := do
  c.equip name (← c.directory.create name)

/-- Reading the client ID is one request. -/
theorem replay_clientId {id : Uuid} {r : Http.Request}
    (hr : c.directory.requestAt .get id [] none = .ok r) (os : Http.Script) (k : Cache) :
    replay (do
      let record ← c.directory.fetch id
      .require .retrieveClientId "clientId" record.clientId : Attempt String) os k =
        ⟨received .retrieveClientId clientIdVerdict os.reply, [r], k, os.tail⟩ := by
  have h : replay (c.directory.fetch id) os k = _ :=
    replay_ask hr Directory.verdict?_readRecord os k
  have hv : received .retrieveClientId clientIdVerdict os.reply =
      received .retrieveClientId Directory.recordVerdict os.reply >>= fun record =>
        presentVerdict .retrieveClientId "clientId" record.clientId := by
    cases os.reply <;> rfl
  rw [hv]
  cases hd : received .retrieveClientId Directory.recordVerdict os.reply with
  | error error =>
    rw [hd] at h
    exact replay_bind_error _ h
  | ok record =>
    rw [hd] at h
    refine (replay_bind_ok _ h).trans ?_
    show Replay.behind [r] (replay (Attempt.require _ _ record.clientId) _ _) =
      ⟨presentVerdict _ _ record.clientId, _, _, _⟩
    cases record.clientId <;> rfl

theorem realizes_establish (name : ApplicationName)
    (hb : ∀ l ∈ creationSteps name k (os.answer? 0), ∃ r, l.kind.request c = .ok r) :
    Realizes c (c.establish name) os k (creationSteps name k (os.answer? 0)) := by
  obtain ⟨r, hr⟩ := hb _ List.mem_cons_self
  refine Realizes.step (replay_ask hr Directory.verdict?_readCreation os k) hr
    (RequestStep.creation_accepts name) fun response id ho hid => ?_
  have hid' : (os.answer? 0).bind createdId? = some id := by
    rw [ho]
    exact createdId?_of_creationVerdict hid
  rw [creationSteps, hid'] at hb
  rw [hid']
  refine Realizes.after (a := .logChange .created name id)
    (replay_of_verdict? (a := Except.ok ()) rfl os.tail k) ?_
  obtain ⟨r₂, hr₂⟩ := hb (.secret id) (by simp [RequestStep.equipment])
  obtain ⟨r₃, hr₃⟩ := hb (.clientId id) (by simp [RequestStep.equipment])
  refine Realizes.step (replay_ask hr₂ Directory.verdict?_readSecret _ k) hr₂
    (RequestStep.secret_accepts id) fun _ secret _ _ => ?_
  -- what is read and the client ID that must be in it belong to one request
  rw [← Attempt.bind_assoc]
  apply Realizes.step (c.replay_clientId hr₃ _ k) hr₃ (RequestStep.clientId_accepts id)
  intro _ clientId _ _
  refine c.realizes_complete name id secret clientId fun l hl => hb l ?_
  exact List.mem_cons_of_mem _ (List.mem_cons_of_mem _ (List.mem_cons_of_mem _ hl))

theorem realizes_recreate (name : ApplicationName)
    (hb : ∀ l ∈ requestSteps name k os, ∃ r, l.kind.request c = .ok r) :
    Realizes c (c.recreate name) os k (requestSteps name k os) := by
  have he : c.recreate name = (c.removeExisting name >>= fun _ => c.establish name) :=
    c.recreate_eq name
  rw [he, removeExisting, Attempt.bind_assoc]
  obtain ⟨r, hr⟩ := hb _ List.mem_cons_self
  refine Realizes.step (replay_ask hr (Directory.verdict?_readLookup name) os k) hr
    (RequestStep.lookup_accepts name) fun response found ho hfound => ?_
  have hfound' : (os.answer? 0).bind existing? = found := by
    rw [ho]
    exact existing?_of_lookupVerdict hfound
  rw [requestSteps, hfound'] at hb
  rw [hfound']
  cases found with
  | none =>
    -- nothing is deleted, so the second reply is that to the creation
    simp only [← Http.Script.answer?_tail] at hb ⊢
    refine Realizes.after (a := pure ()) rfl (c.realizes_establish name fun l hl => hb l ?_)
    exact List.mem_cons_of_mem _ hl
  | some existing =>
    -- the third reply is that to the creation
    simp only [← Http.Script.answer?_tail] at hb ⊢
    obtain ⟨r', hr'⟩ := hb (.deletion existing.id) (by simp)
    have hrest : ∀ l ∈ creationSteps name k (Http.Script.answer? os.tail.tail 0),
        ∃ r, l.kind.request c = .ok r := by
      intro l hl
      exact hb l (List.mem_cons_of_mem _ (List.mem_cons_of_mem _ hl))
    show Realizes c ((c.directory.delete existing.id .deleteExistingApplication >>= _) >>= _) _ _ _
    rw [Attempt.bind_assoc]
    refine Realizes.step (replay_ask hr' (Directory.verdict?_readDeletion _) os.tail k) hr'
      (RequestStep.deletion_accepts existing.id) fun _ deletion _ _ => ?_
    cases deletion with
    | deleted =>
      exact Realizes.after (a := .logChange .deletedExisting name existing.id)
        (replay_of_verdict? (a := Except.ok ()) rfl _ k) (c.realizes_establish name hrest)
    | notFound => exact Realizes.after (a := pure ()) rfl (c.realizes_establish name hrest)

/-- `observed` adds telemetry, a span and a lock: it changes neither requests nor result. -/
theorem replay_observed {α : Type} (op : Operation) (s : String) (a : Attempt α)
    (os : Http.Script) (k : Cache) :
    (replay (observed op s a) os k).result = (replay a os k).result ∧
      (replay (observed op s a) os k).requests = (replay a os k).requests := by
  rw [observed, replay, replay, replay_bind, replay_inSpan]
  rw [replay_bind, replay_of_verdict? (verdict?_emitAll _)]
  exact ⟨rfl, by simp [replay, Replay.behind, ExceptT.run]⟩

theorem replay_serialized {α : Type} (name : ApplicationName) (a : Attempt α) (os : Http.Script)
    (k : Cache) : replay (c.serialized name a) os k = replay a os k := by
  unfold serialized
  split
  · exact replay_locked _ _ os k
  · rfl

variable {c} {d : Draft}

/-- **A creation follows its reference sequence.** Let every request of `requestSteps name k os` be
buildable. Then `createApplication` sends at least one request and at most one for each step; its
`n`-th request satisfies `RequestKind.Makes` for the kind of the `n`-th step; the request of a
further step is sent if and only if the step before it takes its reply; and the result is `ok` if
and only if every step takes its reply. -/
theorem creation_sequence (hd : d.accept = .ok c.settings) {text : String} {name : ApplicationName}
    (hn : ApplicationName.check text = .ok name) (k : Cache) (os : Http.Script)
    (hb : ∀ l ∈ requestSteps name k os, ∃ r, l.kind.request c = .ok r) :
    let run := Procedure.run Http.Script.exchange (c.createApplication text)
      { transport := os, cache := k }
    let sent := run.2.requests
    let steps := requestSteps name k os
    (0 < sent.length ∧ sent.length ≤ steps.length) ∧
      (∀ n (hs : n < sent.length) (hn : n < steps.length), steps[n].kind.Makes c sent[n]) ∧
      (∀ n (hn : n + 1 < steps.length),
        n + 1 < sent.length ↔ n < sent.length ∧ steps[n].takes (os.answer? n)) ∧
      (run.1.isOk = true ↔ ∀ n (hn : n < steps.length), steps[n].takes (os.answer? n)) := by
  intro run sent steps
  obtain ⟨hrun, hsent⟩ := run_replay (c.createApplication text) { transport := os, cache := k }
  have hrealizes : Realizes c (c.onName text c.recreate) os k steps := by
    rw [onName, hn]
    show Realizes c (c.serialized name (c.recreate name)) os k steps
    rw [Realizes, replay_serialized]
    exact c.realizes_recreate name hb
  have hsteps : RequestStep.Run c steps os sent run.1.isOk := by
    obtain ⟨hresult, hrequests⟩ := replay_observed .createApplication text
      (c.onName text c.recreate) os k
    rw [Realizes, ← hresult, ← hrequests] at hrealizes
    rw [List.nil_append] at hsent
    rw [show sent = _ from hsent, show run.1 = _ from hrun]
    exact hrealizes
  refine ⟨⟨hsteps.pos (Nat.succ_pos _), hsteps.length_le⟩, fun n hs hl => ?_, hsteps.continues,
    hsteps.ok_iff⟩
  exact RequestKind.makes_of_request hd (hsteps.request n hs hl)

/-- Methods and addresses of the requests of a creation with the replies
`Http.Script.replacement`. -/
def replacementRequests : List (Http.Method × String) :=
  [(.get, "https://[::1]/Applications/v1/?filter=name+eq+a"),
    (.delete, "https://[::1]/Applications/v1/00000000-0000-0000-0000-000000000002"),
    (.post, "https://[::1]/Applications/v1/"),
    (.post, "https://[::1]/Applications/v1/00000000-0000-0000-0000-000000000001/apiSecrets"),
    (.get, "https://[::1]/Applications/v1/00000000-0000-0000-0000-000000000001"),
    (.get, "https://[::1]/.well-known/openid-configuration"),
    (.get, "https://[::1]/.well-known/openid-configuration")]

/-- `creation_sequence` on a run of all seven steps: the `DELETE` goes to the application of the
lookup reply, and the later requests go to the one in the `location` header. -/
theorem creation_sequence_sample :
    let name : ApplicationName := ⟨"a", by decide, by decide⟩
    let run := Procedure.run Http.Script.exchange (sample.createApplication "a")
      { transport := .replacement }
    let sent := run.2.requests
    let steps := requestSteps name {} .replacement
    Draft.sample.accept = .ok sample.settings ∧ ApplicationName.check "a" = .ok name ∧
      (∀ l ∈ steps, ∃ r, l.kind.request sample = .ok r) ∧
      sent.map (fun r => (r.method, r.target.text)) = replacementRequests ∧
      (∀ n (hs : n < sent.length) (hn : n < steps.length), steps[n].kind.Makes sample sent[n]) ∧
      run.1.isOk = true ∧
      ∀ n (hn : n < steps.length), steps[n].takes (Http.Script.replacement.answer? n) := by
  intro name run sent steps
  have hn : ApplicationName.check "a" = .ok name := rfl
  have hb : ∀ l ∈ steps, ∃ r, l.kind.request sample = .ok r := by
    have hall : (steps.map fun l => (l.kind.request sample).isOk).all id = true := by
      decide +kernel
    exact fun l hl => except_isOk.mp (List.all_eq_true.mp hall _ (List.mem_map_of_mem hl))
  have hrun : sent.map (fun r => (r.method, r.target.text)) = replacementRequests ∧
      run.1.isOk = true := by
    decide +kernel
  obtain ⟨-, hmakes, -, hok⟩ := creation_sequence Draft.accept_sample hn {} .replacement hb
  exact ⟨Draft.accept_sample, hn, hb, hrun.1, hmakes, hrun.2, hok.mp hrun.2⟩

end Client

end Parts

end TenantApps
