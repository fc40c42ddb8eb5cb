import Mathlib.Data.List.Induction
import TenantApps.Proofs.Progress.Budget
import TenantApps.Proofs.Requests.Kind

/-!
# `TenantApps.Proofs.Failures.Attribution` — errors name the last request of a call

An error other than `Error.config` comes from the last `Exchange` of its task: there was no
response, or the verdict on the response was an error. `Error.ArisesFrom` specifies, for each
constructor of `Error`, the stage, the status and the other data that it carries, in terms of that
exchange.

## Contents
- `Exchange`, a request with its outcome, and `Report.exchange?`, the last one of a task.
- `RequestKind.Step`, the stage in which a call sends a kind, and the discipline `exchanging`, which
  tracks the last exchange.
- `Error.ArisesFrom`, the specification of errors, with one lemma for each verdict on a response.
- `Attempt.Attributes`, attempts whose errors arise from their last exchange, with one law for each
  combinator, and `Client.attributes_answer`.
- `Course.failed_step`, the **main result**.
-/

namespace TenantApps

open Attempt Procedure

theorem Call.text?_of_name? {call : Call} {name : ApplicationName} (h : call.name? = some name) :
    call.text? = some name.text := by
  cases call with
  | create s | delete s => exact congrArg some (ApplicationName.text_of_toOption h).symm
  | tokenUrl | jwksUri | credentials | settings => cases h

/-! ## Exchanges -/

/-- **`Exchange`**: a request of a task with its outcome. -/
structure Exchange where
  stage : Stage
  request : Http.Request
  /-- `none` while the request is in flight, or if the task was dropped meanwhile. -/
  outcome : Option Http.Outcome
  deriving DecidableEq

/-- The last exchange after one more `Entry` of the report. -/
def Exchange.next {α : Type} (x : Option Exchange) : Entry α → Option Exchange
  | .sent _ stage r => some ⟨stage, r, none⟩
  | .answered _ _ o => x.map fun y => { y with outcome := some o }
  | .signalled .. | .ended .. => x

/-- The last exchange of task `i`: a fold of `Exchange.next` over its entries. -/
def Report.exchange? {α : Type} (r : Report α) (i : TaskId) : Option Exchange :=
  (r.of i).foldl Exchange.next none

/-- The request of `exchange?` is the last request of the task. -/
theorem Report.exchange?_request {α : Type} (r : Report α) (i : TaskId) :
    (r.exchange? i).map Exchange.request =
      (r.requests.filter (·.1 = i)).getLast?.map Prod.snd := by
  rw [Course.requests_of]
  unfold exchange? requests
  generalize r.of i = xs
  induction xs using List.reverseRecOn with
  | nil => rfl
  | append_singleton xs x ih =>
    rw [List.foldl_append, List.filterMap_append]
    cases x with
    | sent j stage q => simp [Exchange.next]
    | answered j stage o =>
      simp only [List.foldl_cons, List.foldl_nil, Exchange.next, Option.map_map,
        List.filterMap_cons, List.filterMap_nil, List.append_nil]
      exact ih
    | signalled j y | ended j a =>
      simp only [List.foldl_cons, List.foldl_nil, Exchange.next, List.filterMap_cons,
        List.filterMap_nil, List.append_nil]
      exact ih

/-! ## Stages of a call -/

/-- **`Step call kind stage`**: `call` sends requests of this kind in this stage. -/
inductive RequestKind.Step : Call → RequestKind → Stage → Prop
  | lookup {call : Call} {name : ApplicationName} (h : call.name? = some name) :
    Step call (.lookup name) .lookupApplications
  | replace (text : String) (id : Uuid) :
    Step (.create text) (.delete id) .deleteExistingApplication
  | create (name : ApplicationName) : Step (.create name.text) (.create name) .createApplication
  | secret (text : String) (id : Uuid) : Step (.create text) (.secret id) .createApiSecret
  | fetch (text : String) (id : Uuid) : Step (.create text) (.fetch id) .retrieveClientId
  | discover (text : String) (e : Endpoint) : Step (.create text) .discover (Discovery.stage e)
  | tokenUrl : Step .tokenUrl .discover .fetchTokenUrl
  | jwksUri : Step .jwksUri .discover .fetchJwksUri
  | remove (text : String) (id : Uuid) : Step (.delete text) (.delete id) .deleteApplication

/-- **Discipline `exchanging`**: every request is of a `Step` of the call; the state is the last
exchange. -/
def exchanging (c : Client) (call : Call) : Discipline (Option Exchange) where
  allows
    | .sends stage r, _ => ∃ kind, RequestKind.Step call kind stage ∧ kind.request c = .ok r
    | _, _ => True
  after
    | .sends stage r, _, x => x = some ⟨stage, r, none⟩
    | .receives _ o, x, x' => x' = x.map fun y => { y with outcome := some o }
    | _, x, x' => x' = x

/-- The last exchange is the request of some `Step` of the call. -/
def Exchange.Suits (c : Client) (call : Call) (x : Option Exchange) : Prop :=
  ∀ y, x = some y → ∃ kind, RequestKind.Step call kind y.stage ∧ kind.request c = .ok y.request

theorem Exchange.suits_none (c : Client) (call : Call) : Suits c call none := by
  intro y h
  cases h

theorem exchanging_tracks {α : Type} (c : Client) (call : Call) (i : TaskId) :
    (exchanging c call).Tracks i fun (xs : List (Entry α)) x =>
      xs.foldl Exchange.next none = x ∧ Exchange.Suits c call x := by
  have next {xs : List (Entry α)} {x : Option Exchange} (h : xs.foldl Exchange.next none = x)
      (y : Entry α) : (xs ++ [y]).foldl Exchange.next none = Exchange.next x y := by
    rw [List.foldl_append, h]
    rfl
  constructor
  case sends =>
    rintro xs x stage r ⟨h, -⟩ ha
    refine ⟨_, rfl, next h _, ?_⟩
    rintro _ ⟨⟩
    exact ha
  case receives =>
    rintro xs x stage o ⟨h, hs⟩
    refine ⟨_, rfl, next h _, ?_⟩
    intro y hy
    obtain ⟨y', hy', rfl⟩ := Option.map_eq_some_iff.mp hy
    exact hs y' hy'
  case emits | ends => exact fun ⟨h, hs⟩ => ⟨next h _, hs⟩
  case acquires | releases | consults | remembers => exact fun h _ => ⟨_, rfl, h⟩

/-! ## The specification of errors -/

/-- The field whose absence is a `missingField` error in a stage. -/
def Stage.needs? : Stage → Option String
  | createApiSecret => some "secret"
  | retrieveClientId => some "clientId"
  | fetchTokenUrl => some "token_endpoint"
  | fetchJwksUri => some "jwks_uri"
  | lookupApplications | deleteExistingApplication | createApplication | deleteApplication => none

/-- **`ArisesFrom call stage o e`**: `e` is an error that `call` may return when the outcome of its
request in `stage` is `o`. -/
inductive Error.ArisesFrom (call : Call) : Stage → Http.Outcome → Error → Prop
  /-- There was no response. -/
  | transport (stage : Stage) (e : Http.TransportError) :
    ArisesFrom call stage (.failed e) (.transport stage e)
  /-- The response has a status that the stage does not accept. -/
  | unexpectedStatus (stage : Stage) (response : Http.Response) :
    ArisesFrom call stage (.answered response) (.unexpectedStatus stage response.status)
  /-- The body of the response does not decode. -/
  | responseParse (stage : Stage) (response : Http.Response) (e : Json.Failure) :
    ArisesFrom call stage (.answered response) (.responseParse stage response.status e)
  /-- The page of the lookup has `count > 1` applications. -/
  | multipleApplications {name : ApplicationName} {response : Http.Response}
    {page : ApplicationPage} (hn : call.name? = some name)
    (hp : Json.decodeFirst ApplicationPage.decoder response.body = .ok page)
    (hl : 2 ≤ (page.applications.getD []).length) :
    ArisesFrom call .lookupApplications (.answered response)
      (.multipleApplications name.text (page.applications.getD []).length)
  /-- The `location` header is missing or does not end with a `Uuid`. -/
  | applicationIdHeader (response : Http.Response) (e : Uuid.ParseError) :
    ArisesFrom call .createApplication (.answered response)
      (.applicationIdHeader ((response.headerText? "location").getD "") e)
  /-- The response lacks the field that the stage needs. -/
  | missingField {stage : Stage} {field : String} (response : Http.Response)
    (h : stage.needs? = some field) :
    ArisesFrom call stage (.answered response) (.missingField stage field)

namespace Error.ArisesFrom

variable {call : Call} {stage : Stage} {o : Http.Outcome} {e : Error}

theorem stage_eq (h : e.ArisesFrom call stage o) : e.stage = some stage := by
  cases h <;> rfl

theorem status_eq {n : Nat} (h : e.ArisesFrom call stage o) (hn : e.status = some n) :
    ∃ response, o = .answered response ∧ response.status = n := by
  cases h with
  | unexpectedStatus stage response | responseParse stage response f =>
    cases hn
    exact ⟨response, rfl, rfl⟩
  | transport stage f | multipleApplications hname hp hl | applicationIdHeader response f
  | missingField response hf => cases hn

theorem multiple {text : String} {count : Nat} (h : e.ArisesFrom call stage o)
    (he : e = .multipleApplications text count) : call.text? = some text ∧ 2 ≤ count ∧
      ∃ response page, o = .answered response ∧
        Json.decodeFirst ApplicationPage.decoder response.body = .ok page ∧
          (page.applications.getD []).length = count := by
  cases h with
  | multipleApplications hname hp hl =>
    cases he
    exact ⟨Call.text?_of_name? hname, hl, _, _, rfl, hp, rfl⟩
  | transport stage f | unexpectedStatus stage response | responseParse stage response f
  | applicationIdHeader response f | missingField response hf => cases he

theorem missing {stage' : Stage} {field : String} (h : e.ArisesFrom call stage o)
    (he : e = .missingField stage' field) : stage.needs? = some field := by
  cases h with
  | missingField response hf =>
    cases he
    exact hf
  | transport stage f | unexpectedStatus stage response | responseParse stage response f
  | applicationIdHeader response f | multipleApplications hname hp hl => cases he

end Error.ArisesFrom

section Verdicts

variable {α : Type} {call : Call} {response : Http.Response} {e : Error}

theorem arisesFrom_of_bodyVerdict {stage : Stage} {status : Nat} {decoder : Json.Decoder α}
    (h : bodyVerdict stage status decoder response = .error e) :
    e.ArisesFrom call stage (.answered response) := by
  unfold bodyVerdict at h
  split at h
  · cases h
    exact .unexpectedStatus stage response
  · cases hd : Json.decodeFirst decoder response.body with
    | ok x =>
      rw [hd] at h
      cases h
    | error f =>
      rw [hd] at h
      cases h
      exact .responseParse stage response f

theorem Directory.arisesFrom_of_lookupVerdict {name : ApplicationName} (hn : call.name? = some name)
    (h : lookupVerdict name response = .error e) :
    e.ArisesFrom call .lookupApplications (.answered response) := by
  unfold lookupVerdict at h
  split at h
  · cases h
  obtain h | ⟨page, hp, h⟩ := except_bind_eq_error.mp h
  · exact arisesFrom_of_bodyVerdict h
  obtain ⟨hl, rfl⟩ := singleVerdict_eq_error.mp h
  exact .multipleApplications hn (bodyVerdict_eq_ok.mp hp).2 hl

theorem Directory.arisesFrom_of_creationVerdict (h : creationVerdict response = .error e) :
    e.ArisesFrom call .createApplication (.answered response) := by
  unfold creationVerdict at h
  split at h
  · cases h
    exact .unexpectedStatus _ response
  · unfold applicationId at h
    cases hu : Uuid.parse (String.ofList (Text.afterLast '/'
        ((response.headerText? "location").getD "").toList)) with
    | ok id =>
      simp only [hu] at h
      cases h
    | error f =>
      simp only [hu] at h
      cases h
      exact .applicationIdHeader response f

theorem Directory.arisesFrom_of_secretVerdict
    (h : (secretVerdict response).map Secret.mk = .error e) :
    e.ArisesFrom call .createApiSecret (.answered response) := by
  have h : secretVerdict response = .error e := by
    cases hs : secretVerdict response with
    | ok secret =>
      rw [hs] at h
      cases h
    | error f =>
      rw [hs] at h
      cases h
      rfl
  obtain h | ⟨answer, -, h⟩ := except_bind_eq_error.mp h
  · exact arisesFrom_of_bodyVerdict h
  · cases hs : answer.secret.filter (· ≠ "") with
    | some secret =>
      rw [hs] at h
      cases h
    | none =>
      rw [hs] at h
      cases h
      exact .missingField response rfl

theorem Directory.arisesFrom_of_deletionVerdict {stage : Stage}
    (h : deletionVerdict stage response = .error e) :
    e.ArisesFrom call stage (.answered response) := by
  unfold deletionVerdict at h
  split at h
  · cases h
  · split at h
    · cases h
    · cases h
      exact .unexpectedStatus stage response

end Verdicts

/-! ## Attempts whose errors arise from the last exchange -/

/-- `e.AttributedTo call x`: `e` is a `config` error, or it `ArisesFrom` the outcome of `x`. -/
def Error.AttributedTo (call : Call) (e : Error) (x : Option Exchange) : Prop :=
  (∃ e', e = .config e') ∨ ∃ stage r o, x = some ⟨stage, r, some o⟩ ∧ e.ArisesFrom call stage o

/-- The last exchange is a response to a request of `stage`. -/
def Exchange.Responded (stage : Stage) (x : Option Exchange) : Prop :=
  ∃ r response, x = some ⟨stage, r, some (.answered response)⟩

namespace Attempt

variable {α β : Type} {c : Client} {call : Call}

/-- Postcondition: an error is `AttributedTo` the last exchange, a value satisfies `Q`. -/
def Settles (call : Call) (Q : α → Option Exchange → Prop) :
    Except Error α → Option Exchange → Prop
  | .ok y, x => Q y x
  | .error e, x => e.AttributedTo call x

/-- **`Attributes c call Q a`**: from every state, `a` follows `exchanging` and ends in
`Settles call Q`. -/
def Attributes (c : Client) (call : Call) (Q : α → Option Exchange → Prop) (a : Attempt α) : Prop :=
  ∀ x, Follows (exchanging c call) (Settles call Q) a x

variable {Q : α → Option Exchange → Prop} {R : β → Option Exchange → Prop} {a : Attempt α}

theorem Attributes.bind {f : α → Attempt β} (ha : Attributes c call Q a)
    (hf : ∀ y x, Q y x → Follows (exchanging c call) (Settles call R) (f y) x) :
    Attributes c call R (a >>= f : Attempt β) :=
  fun x => follows_bind (ha x) hf fun _ _ h => h

/-- Sequencing rule, if the continuation does not depend on the last exchange. -/
theorem Attributes.andThen {f : α → Attempt β} (ha : Attributes c call Q a)
    (hf : ∀ y, Attributes c call R (f y)) : Attributes c call R (a >>= f : Attempt β) :=
  ha.bind fun y x _ => hf y x

theorem Attributes.map {f : α → β} (ha : Attributes c call Q a) :
    Attributes c call (fun _ _ => True) (f <$> a : Attempt β) :=
  fun x => follows_map (ha x) (fun _ _ _ => trivial) fun _ _ h => h

theorem Attributes.of_verdict? {y : α} (h : verdict? a = some (.ok y)) :
    Attributes c call (fun _ _ => True) a :=
  fun _ => Follows.of_verdict? h trivial

/-- Rule for `Attempt.ask` whose errors are those of the verdict on its response. -/
theorem Attributes.ask {kind : RequestKind} {stage : Stage} {read : Http.Response → Attempt α}
    {verdict : Http.Response → Except Error α} (hs : RequestKind.Step call kind stage)
    (h : ∀ r, verdict? (read r) = some (verdict r))
    (ht : ∀ response e, verdict response = .error e →
      e.ArisesFrom call stage (.answered response)) :
    Attributes c call (fun _ => Exchange.Responded stage) (.ask stage (kind.request c) read) := by
  intro x
  refine follows_ask (fun e _ => .inl ⟨e, rfl⟩) (fun r hr => ⟨kind, hs, hr⟩) ?_
  rintro r - _ rfl o _ rfl
  cases o with
  | answered response =>
    refine .of_verdict? (h response) ?_
    cases hv : verdict response with
    | ok y => exact ⟨r, response, rfl⟩
    | error e => exact .inr ⟨stage, r, _, rfl, ht response e hv⟩
  | failed e => exact .inr ⟨stage, r, _, rfl, .transport stage e⟩
  | refused e => exact .inl ⟨_, rfl⟩

theorem Attributes.locked (l : Lock) (ha : Attributes c call Q a) :
    Attributes c call Q (.locked l a) := by
  intro x
  apply Follows.locked trivial
  rintro x rfl
  refine (ha x).mono fun y x' h => ⟨trivial, ?_⟩
  rintro _ rfl
  exact h

/-- `Attempt.require` attributes the response that lacks the field. -/
theorem follows_require {stage : Stage} {field : String} {x : Option Exchange}
    (hf : stage.needs? = some field) (hx : Exchange.Responded stage x) (y : Option α) :
    Follows (exchanging c call) (Settles call fun _ _ => True) (Attempt.require stage field y)
      x := by
  cases y with
  | some a => exact trivial
  | none =>
    obtain ⟨r, response, rfl⟩ := hx
    exact .inr ⟨stage, r, _, rfl, .missingField response hf⟩

end Attempt

/-! ## Calls -/

theorem Discovery.needs?_stage (e : Endpoint) :
    (Discovery.stage e).needs? = some e.field.label := by
  cases e <;> rfl

namespace Client

variable (c : Client) {call : Call}

/-- `Discovery.address` attributes its discovery request; on a cache hit it cannot fail. -/
theorem attributes_address {e : Endpoint}
    (hs : RequestKind.Step call .discover (Discovery.stage e)) :
    Attributes c call (fun _ _ => True) (c.discovery.address e) := by
  have hdocument : Attributes c call (fun _ => Exchange.Responded (Discovery.stage e))
      (.ask (Discovery.stage e) (RequestKind.discover.request c)
        (Discovery.readDocument (Discovery.stage e))) :=
    Attributes.ask hs (Discovery.verdict?_readDocument _) fun _ _ => arisesFrom_of_bodyVerdict
  refine Attributes.bind (Q := fun a x => a = none → Exchange.Responded (Discovery.stage e) x)
    (Attributes.locked _ fun x known => ⟨trivial, ?_⟩) fun a x hx => ?_
  · rintro x rfl
    cases known with
    | some a => exact nofun
    | none =>
      refine hdocument.bind (fun doc x hx => ?_) x
      show Follows _ _ (Discovery.keep e (e.pick doc)) _
      cases e.pick doc with
      | some a =>
        refine ⟨trivial, ?_⟩
        rintro _ rfl
        exact nofun
      | none => exact fun _ => hx
  · cases a with
    | some a => exact trivial
    | none => exact follows_require (Discovery.needs?_stage e) (hx rfl) _

theorem attributes_clear {name : ApplicationName} {stage : Stage} (hn : call.name? = some name)
    (hs : ∀ id, RequestKind.Step call (.delete id) stage) (change : Telemetry.Change) :
    Attributes c call (fun _ _ => True) (c.clear stage change name) := by
  refine (Attributes.ask (.lookup hn) (Directory.verdict?_readLookup name)
    fun _ _ => Directory.arisesFrom_of_lookupVerdict hn).andThen fun found => ?_
  cases found with
  | none => exact Attributes.of_verdict? rfl
  | some existing =>
    refine (Attributes.ask (hs existing.id) (Directory.verdict?_readDeletion stage)
      fun _ _ => Directory.arisesFrom_of_deletionVerdict).andThen fun deletion => ?_
    cases deletion <;> exact Attributes.of_verdict? rfl

theorem attributes_equip (name : ApplicationName) (id : Uuid) :
    Attributes c (.create name.text) (fun _ _ => True) (c.equip name id) := by
  have haddress (e : Endpoint) := c.attributes_address (.discover name.text e)
  refine (Attributes.of_verdict? (a := .logChange .created name id) rfl).andThen fun _ => ?_
  refine (Attributes.ask (.secret name.text id) Directory.verdict?_readSecret
    fun _ _ => Directory.arisesFrom_of_secretVerdict).andThen fun secret => ?_
  refine (Attributes.ask (.fetch name.text id) Directory.verdict?_readRecord
    fun _ _ => arisesFrom_of_bodyVerdict).bind fun record x hx => ?_
  refine follows_bind (follows_require rfl hx record.clientId) (fun clientId x _ => ?_)
    fun e x (h : e.AttributedTo _ x) => h
  refine ((haddress .token).andThen fun tokenUrl => ?_) x
  refine (haddress .keys).andThen fun jwksUri => ?_
  exact Attributes.of_verdict? rfl

theorem attributes_recreate (name : ApplicationName)
    (hn : (Call.create name.text).name? = some name) :
    Attributes c (.create name.text) (fun _ _ => True) (c.recreate name) := by
  rw [recreate_eq, removeExisting_eq]
  refine (c.attributes_clear hn (.replace name.text) _).andThen fun _ => ?_
  refine (Attributes.ask (.create name) Directory.verdict?_readCreation
    fun _ _ => Directory.arisesFrom_of_creationVerdict).andThen fun id => ?_
  exact c.attributes_equip name id

theorem attributes_operation {α : Type} (op : Operation) (text : String)
    {f : ApplicationName → Attempt α} (hf : ∀ name, ApplicationName.check text = .ok name →
      Attributes c call (fun _ _ => True) (f name)) :
    Attributes c call (fun _ _ => True) (observed op text (c.onName text f)) := by
  have h : Attributes c call (fun _ _ => True) (c.onName text f) :=
    c.onName_cases text (fun e _ _ => .inl ⟨_, rfl⟩) (fun name hn => (hf name hn).locked _) hf
  exact fun x => follows_observed op text (h x)

/-- **Every call attributes its last exchange.** -/
theorem attributes_answer (call : Call) : Attributes c call (fun _ _ => True) (c.answer call) := by
  cases call with
  | create text =>
    refine Attributes.map (c.attributes_operation _ _ fun name hn => ?_)
    have hname : Call.name? (.create text) = some name := by rw [Call.name?, hn]; rfl
    obtain rfl := ApplicationName.text_of_check hn
    exact c.attributes_recreate name hname
  | delete text =>
    refine Attributes.map (c.attributes_operation _ _ fun name hn => ?_)
    exact c.attributes_clear (by rw [Call.name?, hn]; rfl) (.remove text) .deleted
  | tokenUrl => exact Attributes.map (c.attributes_address .tokenUrl)
  | jwksUri => exact Attributes.map (c.attributes_address .jwksUri)
  | credentials | settings => exact Attributes.of_verdict? rfl

end Client

/-! ## Over courses -/

namespace Course

variable {c : Client} {s : Course} {i : TaskId} {e : Error}

/-- **Failed step.** In every reachable course, if task `i` returned an error other than `config`,
its last request has an outcome and belongs to a `RequestKind.Step` of its call in a stage that the
error names; the error has a status exactly if it is `unexpectedStatus` or `responseParse`, and it
is the one of the response; and `multipleApplications` carries the number of applications in the
page of the response. -/
theorem failed_step (h : Reachable c s) (hr : (i, .error e) ∈ s.machine.report.results)
    (he : ∀ e', e ≠ .config e') : ∃ call kind stage r o, s.calls[i]? = some call ∧
      s.machine.report.exchange? i = some ⟨stage, r, some o⟩ ∧
      (s.machine.report.requests.filter (·.1 = i)).getLast? = some (i, r) ∧
      RequestKind.Step call kind stage ∧ kind.request c = .ok r ∧ e.stage = some stage ∧
      (∀ n, e.status = some n → ∃ response, o = .answered response ∧ response.status = n) ∧
      (e.status ≠ none ↔ (∃ stage' n, e = .unexpectedStatus stage' n) ∨
        ∃ stage' n f, e = .responseParse stage' n f) ∧
      (∀ text count, e = .multipleApplications text count → call.text? = some text ∧ 2 ≤ count ∧
        ∃ response page, o = .answered response ∧
          Json.decodeFirst ApplicationPage.decoder response.body = .ok page ∧
            (page.applications.getD []).length = count) ∧
      ∀ stage' field, e = .missingField stage' field → stage.needs? = some field := by
  obtain ⟨call, t, hcall, htrail, hm⟩ := h.trail (Report.mem_results.mp hr)
  -- before it came to its end, it was about to do so
  obtain ⟨-, ys, held, hys, hbefore⟩ := htrail.of_ended hm
  obtain ⟨x, hend, hfold, hsuits⟩ := hbefore.tracked (c.attributes_answer call none)
    (exchanging_tracks c call i) ⟨rfl, Exchange.suits_none c call⟩
  have hlast : s.machine.report.exchange? i = x := by
    rw [Report.exchange?, show s.machine.report.of i = _ from hys, List.foldl_append, hfold]
    rfl
  obtain ⟨e', rfl⟩ | ⟨stage, r, o, rfl, ht⟩ := (hend : e.AttributedTo call x)
  · exact absurd rfl (he e')
  obtain ⟨kind, hstep, hrequest⟩ := hsuits _ rfl
  have hsent := s.machine.report.exchange?_request i
  rw [hlast] at hsent
  obtain ⟨⟨j, r'⟩, hj, rfl⟩ := Option.map_eq_some_iff.mp hsent.symm
  obtain rfl : j = i := by simpa using (List.mem_filter.mp (List.mem_of_getLast? hj)).2
  refine ⟨call, kind, stage, r', o, hcall, hlast, hj, hstep, hrequest, ht.stage_eq,
    fun _ => ht.status_eq, ?_, fun _ _ => ht.multiple, fun _ _ => ht.missing⟩
  cases e <;> simp [Error.status]

/-- A creation whose `POST` is answered with 500. -/
def failedCreation : Course :=
  play .sample [.ask (.create "a"), .answer 0 (.answered { status := 404 }),
    .answer 0 (.answered { status := 500 })] {}

/-- `failed_step` on `failedCreation`: the error names `createApplication` and the status 500. -/
theorem failed_step_sample :
    let s := failedCreation
    let e : Error := .unexpectedStatus .createApplication 500
    Reachable .sample s ∧ (0, .error e) ∈ s.machine.report.results ∧ (∀ e', e ≠ .config e') ∧
      ∃ kind stage r o, s.machine.report.exchange? 0 = some ⟨stage, r, some o⟩ ∧
        RequestKind.Step (.create "a") kind stage ∧ kind.request .sample = .ok r ∧
        e.stage = some stage ∧ ∃ response, o = .answered response ∧ response.status = 500 := by
  intro s e
  have h : Reachable .sample s := Reachable.play _ .refl
  have hr : (0, .error (.unexpectedStatus .createApplication 500)) ∈
      failedCreation.machine.report.results := by decide
  have hcalls : failedCreation.calls[0]? = some (.create "a") := by decide
  obtain ⟨call, kind, stage, r, o, hcall, hx, -, hstep, hrequest, hstage, hstatus, -⟩ :=
    failed_step h hr nofun
  cases hcalls.symm.trans hcall
  exact ⟨h, hr, nofun, kind, stage, r, o, hx, hstep, hrequest, hstage, hstatus 500 rfl⟩

end Course

end TenantApps
