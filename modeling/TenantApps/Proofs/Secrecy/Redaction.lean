import TenantApps.Proofs.Tenant.Places

/-!
# `TenantApps.Proofs.Secrecy.Redaction` — a relation on procedures up to secrets

`Procedure.Alike` relates procedures with the same actions in the same order, whose requests agree
up to the value of `authorization` and whose continuations are related for outcomes that agree up to
the secret in the response to `createApiSecret`.

## Contents
- `Http.Request.redacted`, a request without the value of its authorization.
- `Http.Response.Discloses` and `Http.Outcome.Alike`, outcomes up to secrets.
- `Procedure.Alike` with one law for each combinator.
- `Attempt.Results` and `Attempt.Alike`, the same for attempts.
-/

namespace TenantApps

open Procedure

/-! ## Requests and outcomes -/

namespace Http

/-- The request with `<redacted>` for the value of `authorization`. -/
def Request.concealed (r : Request) : Request :=
  { r with headers := r.headers.map fun h =>
      if h.1 = "authorization" then (h.1, "<redacted>") else h }

/-- What may be shown of a request: everything at the discovery stages, otherwise `concealed`. -/
def Request.redacted : Stage → Request → Request
  | .fetchTokenUrl, r | .fetchJwksUri, r => r
  | _, r => r.concealed

/-- `r.Discloses x`: the body of the 201 response `r` decodes to the non-empty secret `x`. -/
def Response.Discloses (r : Response) (secret : String) : Prop :=
  r.status = 201 ∧ secret ≠ "" ∧
    Json.decodeFirst SecretAnswer.decoder r.body = .ok ⟨some secret⟩

/-- **Outcomes up to secrets**: equal, or two responses at `createApiSecret` that disclose any
secrets. -/
inductive Outcome.Alike : Stage → Outcome → Outcome → Prop
  | same (stage : Stage) (o : Outcome) : Alike stage o o
  | secrets {r r' : Response} {x x' : String} (h : r.Discloses x) (h' : r'.Discloses x') :
    Alike .createApiSecret (.answered r) (.answered r')

/-- At any other stage, related outcomes are equal. -/
theorem Outcome.Alike.eq {stage : Stage} {o o' : Outcome} (h : Alike stage o o')
    (hs : stage ≠ .createApiSecret) : o = o' := by
  cases h with
  | same => rfl
  | secrets => exact absurd rfl hs

end Http

/-- `Directory.readSecret` returns the disclosed secret. -/
theorem Directory.readSecret_of_discloses {r : Http.Response} {x : String} (h : r.Discloses x) :
    readSecret r = Procedure.done (.ok ⟨x⟩) := by
  obtain ⟨hs, hx, hd⟩ := h
  have hdecode : Attempt.decode .createApiSecret SecretAnswer.decoder r =
      Procedure.done (.ok ⟨some x⟩) := by
    rw [Attempt.decode, hd]
    rfl
  have hfilter : (some x).filter (· ≠ "") = some x := by simp [hx]
  simp only [readSecret, hs, ne_eq, not_true_eq_false, if_false, hdecode]
  rw [Attempt.bind_eq]
  simp only [Procedure.bind, hfilter]
  rfl

/-! ## Procedures -/

namespace Procedure

variable {α β : Type} {R : α → α → Prop} {S : β → β → Prop} {p p' : Procedure α}

/-- **`Procedure.Alike R`**: the same tree of actions up to secrets, with results related by `R`. -/
inductive Alike (R : α → α → Prop) : Procedure α → Procedure α → Prop
  | done {a a' : α} (h : R a a') : Alike R (.done a) (.done a')
  | send {stage : Stage} {r r' : Http.Request} {next next' : Http.Outcome → Procedure α}
    (hr : r.redacted stage = r'.redacted stage)
    (h : ∀ o o', Http.Outcome.Alike stage o o' → Alike R (next o) (next' o')) :
    Alike R (.send stage r next) (.send stage r' next')
  | acquire {l : Lock} {next next' : Procedure α} (h : Alike R next next') :
    Alike R (.acquire l next) (.acquire l next')
  | release {l : Lock} {next next' : Procedure α} (h : Alike R next next') :
    Alike R (.release l next) (.release l next')
  | consult {e : Endpoint} {next next' : Option String → Procedure α}
    (h : ∀ a, Alike R (next a) (next' a)) : Alike R (.consult e next) (.consult e next')
  | remember {e : Endpoint} {a : String} {next next' : Procedure α} (h : Alike R next next') :
    Alike R (.remember e a next) (.remember e a next')
  | emit {s : Telemetry.Signal} {next next' : Procedure α} (h : Alike R next next') :
    Alike R (.emit s next) (.emit s next')

/-- Sequencing rule. -/
theorem Alike.bind {f f' : α → Procedure β} (hp : Alike R p p')
    (hf : ∀ a a', R a a' → Alike S (f a) (f' a')) : Alike S (p.bind f) (p'.bind f') := by
  induction hp with
  | done h => exact hf _ _ h
  | send hr _ ih => exact .send hr ih
  | acquire _ ih => exact .acquire ih
  | release _ ih => exact .release ih
  | consult _ ih => exact .consult ih
  | remember _ ih => exact .remember ih
  | emit _ ih => exact .emit ih

theorem Alike.inSpan (span : Telemetry.Span) (hp : Alike R p p') :
    Alike R (p.inSpan span) (p'.inSpan span) := by
  induction hp with
  | done h => exact .done h
  | send hr _ ih => exact .send hr ih
  | acquire _ ih => exact .acquire ih
  | release _ ih => exact .release ih
  | consult _ ih => exact .consult ih
  | remember _ ih => exact .remember ih
  | @emit x next next' _ ih => cases x <;> exact .emit ih

/-- A procedure of `emit` nodes is related to itself. -/
theorem Alike.of_verdict? {a : α} (hp : p.verdict? = some a) (h : R a a) : Alike R p p := by
  induction p with
  | done b =>
    cases hp
    exact .done h
  | emit x next ih => exact .emit (ih hp)
  | send stage r next | acquire l next | release l next | consult e next
  | remember e a next => cases hp

theorem Alike.emitAll (xs : List Telemetry.Signal) :
    Alike Eq (Procedure.emitAll xs) (Procedure.emitAll xs) := by
  induction xs with
  | nil => exact .done rfl
  | cons x xs ih => exact .emit ih

theorem Alike.locked (l : Lock) (hp : Alike R p p') : Alike R (p.locked l) (p'.locked l) :=
  .acquire (hp.bind fun _ _ h => .release (.done h))

end Procedure

/-! ## Attempts -/

namespace Attempt

variable {α β : Type} {R : α → α → Prop} {S : β → β → Prop} {a a' : Attempt α}

/-- Two values related by `R`, or the same error. -/
inductive Results (R : α → α → Prop) : Except Error α → Except Error α → Prop
  | ok {x x' : α} (h : R x x') : Results R (.ok x) (.ok x')
  | error (e : Error) : Results R (.error e) (.error e)

theorem Results.refl (h : ∀ x, R x x) (r : Except Error α) : Results R r r := by
  cases r with
  | ok x => exact .ok (h x)
  | error e => exact .error e

/-- `Procedure.Alike` for attempts. -/
def Alike (R : α → α → Prop) (a a' : Attempt α) : Prop := Procedure.Alike (Results R) a a'

/-- Sequencing rule for attempts. -/
theorem Alike.bind {f f' : α → Attempt β} (ha : Alike R a a')
    (hf : ∀ x x', R x x' → Alike S (f x) (f' x')) : Alike S (a >>= f) (a' >>= f') := by
  show Procedure.Alike _ (a >>= f : Attempt β) (a' >>= f' : Attempt β)
  rw [bind_eq, bind_eq]
  refine Procedure.Alike.bind ha ?_
  intro r r' hr
  cases hr with
  | ok h => exact hf _ _ h
  | error e => exact .done (.error e)

theorem Alike.map {f f' : α → β} (ha : Alike R a a') (hf : ∀ x x', R x x' → S (f x) (f' x')) :
    Alike S (f <$> a) (f' <$> a') := by
  have hpure (x x' : α) (h : R x x') : Alike S (pure (f x)) (pure (f' x')) :=
    .done (.ok (hf x x' h))
  exact Alike.bind ha hpure

theorem Alike.of_verdict? {r : Except Error α} (ha : verdict? a = some r) (h : ∀ x, R x x) :
    Alike R a a :=
  Procedure.Alike.of_verdict? ha (.refl h r)

/-- Rule for `Attempt.ask`, for requests and readers that are related. -/
theorem Alike.ask {stage : Stage} {request request' : Except ConfigError Http.Request}
    {read : Http.Response → Attempt α}
    (hr : request.map (Http.Request.redacted stage) =
      request'.map (Http.Request.redacted stage))
    (hread : ∀ o o', Http.Outcome.Alike stage (.answered o) (.answered o') →
      Alike R (read o) (read o')) :
    Alike R (.ask stage request read) (.ask stage request' read) := by
  cases request with
  | error e =>
    cases request' with
    | error e' =>
      cases hr
      exact .done (.error _)
    | ok r' => cases hr
  | ok r =>
    cases request' with
    | error e' => cases hr
    | ok r' =>
      refine .send (Except.ok.inj hr) ?_
      intro o o' ho
      cases ho with
      | same stage o =>
        cases o with
        | answered response => exact hread _ _ (.same stage _)
        | failed e => exact .done (.error _)
        | refused e => exact .done (.error _)
      | secrets h h' => exact hread _ _ (.secrets h h')

/-- Rule for `Attempt.ask` at any stage but `createApiSecret`, where the outcomes are equal. -/
theorem Alike.ask_same {stage : Stage} {request request' : Except ConfigError Http.Request}
    {read : Http.Response → Attempt α} {verdict : Http.Response → Except Error α}
    (hs : stage ≠ .createApiSecret)
    (hr : request.map (Http.Request.redacted stage) =
      request'.map (Http.Request.redacted stage))
    (h : ∀ r, verdict? (read r) = some (verdict r)) :
    Alike Eq (.ask stage request read) (.ask stage request' read) := by
  refine Alike.ask hr fun o o' ho => ?_
  cases ho.eq hs
  exact Alike.of_verdict? (h o) fun _ => rfl

theorem Alike.locked (l : Lock) (ha : Alike R a a') : Alike R (.locked l a) (.locked l a') :=
  Procedure.Alike.locked l ha

end Attempt

end TenantApps
