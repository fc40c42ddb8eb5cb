import TenantApps.Proofs.Creation.Sequence
import TenantApps.Proofs.Failures.Attribution
import TenantApps.Proofs.Signals.Tally

/-!
# `TenantApps.Proofs.Signals.LogState` — the log obligations of an operation

An operation sends its requests in ascending order of their stages. After each response it logs at
most one event, before it sends or waits again: the change at the tenant, or a warning about a
status that the kind of the request does not accept. A warning is the last event, and it is the
error.

## Contents
- `TypedExchange`, a request of a known kind with its outcome, and `TypedExchange.event?`, the event
  that is due for it.
- `LogState`, the exchanges so far and the pending event, and `Procedure.Logs`, procedures that log
  pending events only and in time, with one law for each combinator.
- `Attempt.LogsWithin`, attempts that start and end with nothing pending.
- `Client.logs_answer`: **every operation opens its span and logs within it**.
-/

namespace TenantApps

open Telemetry Attempt Procedure

/-! ## Exchanges and their events -/

/-- The position of a stage in `Stage.all`. -/
def Stage.place (stage : Stage) : Nat := Stage.all.idxOf stage

/-- **`TypedExchange`**: a request with its kind, its stage and its outcome. -/
structure TypedExchange where
  kind : RequestKind
  stage : Stage
  request : Http.Request
  /-- `none` while the request is in flight. -/
  outcome : Option Http.Outcome

/-- The statuses that requests of a kind accept. -/
def RequestKind.accepts : RequestKind → Nat → Prop
  | lookup _, status => status = 200 ∨ status = 404
  | delete _, status => status = 404 ∨ 200 ≤ status ∧ status < 300
  | create _, status | secret _, status => status = 201
  | fetch _, status | discover, status => status = 200

instance : (kind : RequestKind) → (status : Nat) → Decidable (kind.accepts status)
  | .lookup _, status => inferInstanceAs (Decidable (status = 200 ∨ status = 404))
  | .delete _, status => inferInstanceAs (Decidable (status = 404 ∨ 200 ≤ status ∧ status < 300))
  | .create _, status | .secret _, status => inferInstanceAs (Decidable (status = 201))
  | .fetch _, status | .discover, status => inferInstanceAs (Decidable (status = 200))

/-- The change that the deletion of an application is logged as. -/
def Call.removal : Call → Change
  | create _ => .deletedExisting
  | delete _ | tokenUrl | jwksUri | credentials | settings => .deleted

/-- The change that a response of an accepted status reports: a deletion on 2xx, a creation on 201
with a `Uuid` in `location`. -/
def RequestKind.change? (call : Call) (response : Http.Response) : RequestKind → Option Event
  | delete id => if response.isSuccess then
      call.name?.map fun name => .changed call.removal name id else none
  | create name => (Client.createdId? response).map fun id => .changed .created name id
  | lookup _ | secret _ | fetch _ | discover => none

namespace TypedExchange

/-- **The event that is due** for an exchange: the reported change, or a warning if the status is
not accepted. -/
def event? (call : Call) (v : TypedExchange) : Option Event :=
  match v.outcome with
  | some (.answered response) =>
    if v.kind.accepts response.status then v.kind.change? call response
    else some (.rejected v.stage response.status)
  | some (.failed _) | some (.refused _) | none => none

/-- The outcome is a response with an accepted status. -/
def Accepted (v : TypedExchange) : Prop :=
  ∃ response, v.outcome = some (.answered response) ∧ v.kind.accepts response.status

/-- The request is that of a `RequestKind.Step` of `call`, which has a name. -/
structure Serves (c : Client) (call : Call) (v : TypedExchange) : Prop where
  named : call.name?.isSome = true
  step : RequestKind.Step call v.kind v.stage
  request : v.kind.request c = .ok v.request

end TypedExchange

theorem RequestKind.change?_eq_some {call : Call} {response : Http.Response} {kind : RequestKind}
    {e : Event} : kind.change? call response = some e ↔
      (∃ id name, kind = .delete id ∧ response.isSuccess = true ∧ call.name? = some name ∧
        e = .changed call.removal name id) ∨
      ∃ name id, kind = .create name ∧ Client.createdId? response = some id ∧
        e = .changed .created name id := by
  cases kind with
  | delete id =>
    by_cases h : response.isSuccess = true <;> simp [change?, h, eq_comm (a := e)]
  | create name => simp [change?, eq_comm (a := e)]
  | lookup name | secret id | fetch id | discover => simp [change?]

theorem RequestKind.change?_ne_rejected {call : Call} {response : Http.Response}
    {kind : RequestKind} {stage : Stage} {n : Nat} :
    kind.change? call response ≠ some (.rejected stage n) := by
  rw [Ne, change?_eq_some]
  rintro (⟨_, _, -, -, -, h⟩ | ⟨_, _, -, -, h⟩) <;> cases h

/-- A warning is due exactly for a status that is not accepted. -/
theorem TypedExchange.event?_eq_rejected {call : Call} {v : TypedExchange} {stage : Stage}
    {n : Nat} :
    v.event? call = some (.rejected stage n) ↔ v.stage = stage ∧ ∃ response,
      v.outcome = some (.answered response) ∧ response.status = n ∧ ¬v.kind.accepts n := by
  obtain ⟨kind, stage', r, o⟩ := v
  rcases o with _ | response | e | e
  case some.answered =>
    by_cases h : kind.accepts response.status
    · simp only [event?, if_pos h, RequestKind.change?_ne_rejected, false_iff]
      rintro ⟨-, response', ho, rfl, hn⟩
      cases ho
      exact hn h
    · simp only [event?, if_neg h]
      constructor
      · rintro ⟨⟩
        exact ⟨rfl, response, rfl, rfl, h⟩
      · rintro ⟨rfl, response', ho, rfl, -⟩
        cases ho
        rfl
  all_goals simp [event?]

theorem TypedExchange.Accepted.not_rejected {call : Call} {v : TypedExchange} {stage : Stage}
    {n : Nat} (h : v.Accepted) : v.event? call ≠ some (.rejected stage n) := by
  intro he
  obtain ⟨-, response, ho, rfl, hn⟩ := event?_eq_rejected.mp he
  obtain ⟨response', ho', hy⟩ := h
  cases ho.symm.trans ho'
  exact hn hy

/-- The error is no `unexpectedStatus`. -/
def Error.Plain (e : Error) : Prop := ∀ stage n, e ≠ .unexpectedStatus stage n

/-! ## The log state -/

/-- **`LogState`**: the exchanges so far, and the event that is due and not logged yet. -/
structure LogState where
  exchanges : List TypedExchange := []
  pending : Option Event := none

namespace LogState

/-- The log state after the exchange `v`, whose event becomes pending. -/
def push (call : Call) (vs : List TypedExchange) (v : TypedExchange) : LogState :=
  ⟨vs ++ [v], v.event? call⟩

/-- **`τ.Fresh bound`**: nothing is pending, every exchange is `Accepted`, and every stage is below
`bound`. -/
structure Fresh (bound : Nat) (τ : LogState) : Prop where
  pending : τ.pending = none
  accepted : ∀ v ∈ τ.exchanges, v.Accepted
  below : ∀ v ∈ τ.exchanges, v.stage.place < bound

/-- **`τ.Closed call e`**: nothing is pending, and `e` is the error of the warning, if there was
one. -/
structure Closed (call : Call) (e : Error) (τ : LogState) : Prop where
  pending : τ.pending = none
  warned : ∀ stage n, e = .unexpectedStatus stage n ↔
    ∃ v ∈ τ.exchanges, v.event? call = some (.rejected stage n)

variable {bound bound' : Nat} {τ : LogState} {call : Call}

theorem fresh_nil : ({} : LogState).Fresh bound :=
  ⟨rfl, List.forall_mem_nil _, List.forall_mem_nil _⟩

theorem Fresh.mono (h : τ.Fresh bound) (hb : bound ≤ bound') : τ.Fresh bound' :=
  ⟨h.pending, h.accepted, fun v hv => Nat.lt_of_lt_of_le (h.below v hv) hb⟩

/-- A `Fresh` state is closed for every `Plain` error. -/
theorem Fresh.closed (h : τ.Fresh bound) {e : Error} (he : e.Plain) :
    τ.Closed call e := by
  refine ⟨h.pending, fun stage n => iff_of_false (he stage n) ?_⟩
  rintro ⟨v, hv, hr⟩
  exact (h.accepted v hv).not_rejected hr

/-- One more exchange closes a `Fresh` state for the error of its warning. -/
theorem Fresh.closed_push (h : τ.Fresh bound) {v : TypedExchange} {e : Error}
    (he : ∀ stage n, e = .unexpectedStatus stage n ↔ v.event? call = some (.rejected stage n)) :
    Closed call e ⟨τ.exchanges ++ [v], none⟩ := by
  refine ⟨rfl, fun stage n => (he stage n).trans ?_⟩
  constructor
  · exact fun hv => ⟨v, List.mem_append_right _ List.mem_cons_self, hv⟩
  · rintro ⟨u, hu, hr⟩
    rcases List.mem_append.mp hu with hu | hu
    · exact absurd hr (h.accepted u hu).not_rejected
    · rwa [← List.mem_singleton.mp hu]

theorem Fresh.pushed (h : τ.Fresh bound) {v : TypedExchange} (hv : v.Accepted)
    (hb : bound ≤ v.stage.place) :
    (⟨τ.exchanges ++ [v], none⟩ : LogState).Fresh (v.stage.place + 1) := by
  refine ⟨rfl, fun u hu => ?_, fun u hu => ?_⟩ <;> rcases List.mem_append.mp hu with hu | hu
  · exact h.accepted u hu
  · rwa [List.mem_singleton.mp hu]
  · have := h.below u hu
    omega
  · rw [List.mem_singleton.mp hu]
    exact Nat.lt_succ_self _

end LogState

namespace Procedure

variable {c : Client} {call : Call} {span : Option Span} {α β : Type}

/-- **`Logs c call span Q p τ`**: from `τ`, `p` logs pending events only, in `span`, before it sends
or acquires; it sends from `Fresh` states only; and its final states satisfy `Q`. -/
def Logs (c : Client) (call : Call) (span : Option Span) (Q : α → LogState → Prop) :
    Procedure α → LogState → Prop
  | done a, τ => Q a τ
  | send stage r next, τ => τ.Fresh stage.place ∧ ∃ kind,
    TypedExchange.Serves c call ⟨kind, stage, r, none⟩ ∧
      ∀ o, (next o).Logs c call span Q (.push call τ.exchanges ⟨kind, stage, r, some o⟩)
  | acquire _ next, τ => τ.pending = none ∧ next.Logs c call span Q τ
  | release _ next, τ | remember _ _ next, τ => next.Logs c call span Q τ
  | consult _ next, τ => ∀ a, (next a).Logs c call span Q τ
  | emit (.counted _) next, τ => next.Logs c call span Q τ
  | emit (.opened _) _, _ => False
  | emit (.logged e s) next, τ => s = span ∧ τ.pending = some e ∧
    next.Logs c call span Q { τ with pending := none }

variable {Q : α → LogState → Prop} {R : β → LogState → Prop} {p : Procedure α} {f : α → Procedure β}
  {g : Unit → Procedure β} {τ : LogState}

theorem Logs.bind (hp : p.Logs c call span Q τ)
    (hf : ∀ a τ, Q a τ → (f a).Logs c call span R τ) :
    (p.bind f).Logs c call span R τ := by
  induction p generalizing τ with
  | done a => exact hf a τ hp
  | send stage r next ih =>
    obtain ⟨hτ, kind, hs, hnext⟩ := hp
    exact ⟨hτ, kind, hs, fun o => ih o (hnext o)⟩
  | acquire l next ih => exact ⟨hp.1, ih hp.2⟩
  | release l next ih | remember e a next ih => exact ih hp
  | consult e next ih => exact fun a => ih a (hp a)
  | emit x next ih =>
    cases x with
    | counted n => exact ih hp
    | opened s => exact hp
    | logged e s => exact ⟨hp.1, hp.2.1, ih hp.2.2⟩

theorem Logs.mono {Q' : α → LogState → Prop} (hp : p.Logs c call span Q τ)
    (h : ∀ a τ, Q a τ → Q' a τ) : p.Logs c call span Q' τ := by
  rw [← bind_done p]
  exact hp.bind h

/-- `inSpan` moves the events into the span. -/
theorem Logs.inSpan (s : Span) (hp : p.Logs c call none Q τ) :
    (p.inSpan s).Logs c call (some s) Q τ := by
  induction p generalizing τ with
  | done a => exact hp
  | send stage r next ih =>
    obtain ⟨hτ, kind, hs, hnext⟩ := hp
    exact ⟨hτ, kind, hs, fun o => ih o (hnext o)⟩
  | acquire l next ih => exact ⟨hp.1, ih hp.2⟩
  | release l next ih | remember e a next ih => exact ih hp
  | consult e next ih => exact fun a => ih a (hp a)
  | emit x next ih =>
    cases x with
    | counted n => exact ih hp
    | opened s => exact hp
    | logged e s => exact ⟨rfl, hp.2.1, ih hp.2.2⟩

theorem Logs.locked (l : Lock) (hτ : τ.pending = none) (hp : p.Logs c call span Q τ) :
    (p.locked l).Logs c call span Q τ :=
  ⟨hτ, hp.bind fun _ _ h => h⟩

theorem logs_emitAll (xs : List Count) (hf : (g ()).Logs c call span R τ) :
    ((emitAll (xs.map .counted)).bind g).Logs c call span R τ := by
  induction xs with
  | nil => exact hf
  | cons x xs ih => exact ih

end Procedure

/-! ## Attempts that log -/

namespace Attempt

variable {c : Client} {call : Call} {span : Option Span} {α β : Type} {b b' b'' : Nat}
  {a : Attempt α} {f : α → Attempt β} {τ : LogState}

/-- Postcondition: a value satisfies `Q`, an error closes the state. -/
def Concludes (call : Call) (Q : α → LogState → Prop) : Except Error α → LogState → Prop
  | .ok x, τ => Q x τ
  | .error e, τ => τ.Closed call e

/-- Nothing is pending in a final state. -/
theorem Concludes.pending {r : Except Error α} (h : Concludes call (fun _ τ => τ.Fresh b) r τ) :
    τ.pending = none := by
  cases r with
  | ok x => exact LogState.Fresh.pending h
  | error e => exact LogState.Closed.pending h

/-- **`LogsWithin c call b b' a`**: from every `Fresh b` state, `a` logs and ends `Fresh b'` or
closed. -/
def LogsWithin (c : Client) (call : Call) (b b' : Nat) (a : Attempt α) : Prop :=
  ∀ τ : LogState, τ.Fresh b → Logs c call none (Concludes call fun _ τ => τ.Fresh b') a τ

theorem logs_bind {Q : α → LogState → Prop} {R : β → LogState → Prop}
    (ha : Logs c call span (Concludes call Q) a τ)
    (hf : ∀ x τ, Q x τ → Logs c call span (Concludes call R) (f x) τ) :
    Logs c call span (Concludes call R) (a >>= f : Attempt β) τ := by
  rw [bind_eq]
  refine ha.bind fun r τ hr => ?_
  cases r with
  | ok x => exact hf x τ hr
  | error e => exact hr

theorem LogsWithin.bind (ha : LogsWithin c call b b' a) (hf : ∀ x, LogsWithin c call b' b'' (f x)) :
    LogsWithin c call b b'' (a >>= f) :=
  fun τ hτ => logs_bind (ha τ hτ) fun x => hf x

theorem LogsWithin.pure (x : α) (hb : b ≤ b') : LogsWithin c call b b' (pure x : Attempt α) :=
  fun _ hτ => hτ.mono hb

theorem LogsWithin.throw {e : Error} (he : e.Plain) :
    LogsWithin c call b b' (throw e : Attempt α) :=
  fun _ hτ => hτ.closed he

theorem LogsWithin.require (stage : Stage) (field : String) (x : Option α) (hb : b ≤ b') :
    LogsWithin c call b b' (.require stage field x) := by
  cases x with
  | some x => exact LogsWithin.pure x hb
  | none => exact LogsWithin.throw fun _ _ he => by cases he

theorem LogsWithin.locked (l : Lock) (ha : LogsWithin c call b b' a) :
    LogsWithin c call b b' (.locked l a) :=
  fun τ hτ => Logs.locked l hτ.pending (ha τ hτ)

/-- `read` follows `verdict` and warns exactly if the status is not accepted. -/
def Reads (kind : RequestKind) (stage : Stage) (read : Http.Response → Attempt α)
    (verdict : Http.Response → Except Error α) : Prop :=
  ∀ response, read response =
    if kind.accepts response.status then .ofProcedure (.done (verdict response))
    else .reject stage response

/-- Rule for `Attempt.ask`; after a success, the change of the response is pending. -/
theorem logs_ask {kind : RequestKind} {stage : Stage} {read : Http.Response → Attempt α}
    {verdict : Http.Response → Except Error α} (hn : call.name?.isSome = true)
    (hs : RequestKind.Step call kind stage) (hread : Reads kind stage read verdict)
    (hv : ∀ response e, kind.accepts response.status → verdict response = .error e →
      kind.change? call response = none ∧ e.Plain)
    (hb : b ≤ stage.place) (hτ : τ.Fresh b) :
    Logs c call none (Concludes call fun x τ' => ∃ response, verdict response = .ok x ∧
      τ'.pending = kind.change? call response ∧
        LogState.Fresh (stage.place + 1) ⟨τ'.exchanges, none⟩)
      (Attempt.ask stage (kind.request c) read) τ := by
  cases hr : kind.request c with
  | error e => exact hτ.closed fun _ _ he => by cases he
  | ok r =>
    refine ⟨hτ.mono hb, kind, ⟨hn, hs, hr⟩, fun o => ?_⟩
    cases o with
    | failed e | refused e =>
      refine hτ.closed_push fun stage n => iff_of_false ?_ ?_ <;> intro he <;> cases he
    | answered response =>
      show Logs c call none _ (read response) _
      rw [hread response]
      by_cases ha : kind.accepts response.status
      · have hevent : TypedExchange.event? call ⟨kind, stage, r, some (.answered response)⟩ =
            kind.change? call response := if_pos ha
        rw [if_pos ha, LogState.push, hevent]
        cases hx : verdict response with
        | ok x =>
          have haccepted : TypedExchange.Accepted ⟨kind, stage, r, some (.answered response)⟩ :=
            ⟨response, rfl, ha⟩
          exact ⟨response, hx, rfl, hτ.pushed haccepted hb⟩
        | error e =>
          obtain ⟨hnone, he⟩ := hv response e ha hx
          show LogState.Closed call e _
          rw [hnone]
          refine hτ.closed_push fun stage n => iff_of_false (he stage n) ?_
          rw [hevent, hnone]
          nofun
      · rw [if_neg ha]
        have hevent : TypedExchange.event? call ⟨kind, stage, r, some (.answered response)⟩ =
            some (.rejected stage response.status) := if_neg ha
        refine ⟨rfl, hevent, hτ.closed_push fun stage n => ?_⟩
        rw [hevent]
        exact ⟨fun he => by cases he; rfl, fun he => by cases he; rfl⟩

/-- The same for kinds that report no change. -/
theorem LogsWithin.ask {kind : RequestKind} {stage : Stage} {read : Http.Response → Attempt α}
    {verdict : Http.Response → Except Error α} (hn : call.name?.isSome = true)
    (hs : RequestKind.Step call kind stage) (hread : Reads kind stage read verdict)
    (hc : ∀ response, kind.change? call response = none)
    (hv : ∀ response e, kind.accepts response.status → verdict response = .error e → e.Plain)
    (hb : b ≤ stage.place) :
    LogsWithin c call b (stage.place + 1) (Attempt.ask stage (kind.request c) read) := by
  intro τ hτ
  refine (logs_ask hn hs hread (fun r e ha he => ⟨hc r, hv r e ha he⟩) hb hτ).mono ?_
  rintro (e | x) τ' h
  · exact h
  · obtain ⟨response, -, hpending, hfresh⟩ := h
    exact ⟨hpending.trans (hc response), hfresh.accepted, hfresh.below⟩

end Attempt

/-! ## Verdicts on responses -/

section Answers

variable {α : Type} {call : Call} {response : Http.Response} {e : Error}

theorem plain_of_bodyVerdict {stage : Stage} {status : Nat} {decoder : Json.Decoder α}
    (hs : response.status = status) (h : bodyVerdict stage status decoder response = .error e) :
    e.Plain := by
  rw [bodyVerdict, if_neg (not_not_intro hs)] at h
  cases hd : Json.decodeFirst decoder response.body with
  | ok x =>
    rw [hd] at h
    cases h
  | error f =>
    rw [hd] at h
    cases h
    exact fun _ _ he => by cases he

/-- `bind` after a finished attempt whose continuation has no `emit`. -/
theorem done_bind {β : Type} {x : Except Error α} {f : α → Attempt β} {g : α → Except Error β}
    (hf : ∀ y, f y = .ofProcedure (.done (g y))) :
    (Attempt.ofProcedure (.done x) >>= f : Attempt β) = .ofProcedure (.done (x >>= g)) := by
  cases x with
  | error e => rfl
  | ok y => exact hf y

/-- Readers that check the status and decode the body satisfy `Reads`. -/
theorem reads_body {kind : RequestKind} {stage : Stage} {status : Nat} {decoder : Json.Decoder α}
    {read : Http.Response → Attempt α} (ha : ∀ n, kind.accepts n ↔ n = status)
    (hr : ∀ response, read response = if response.status ≠ status then .reject stage response
      else .decode stage decoder response) :
    Reads kind stage read (bodyVerdict stage status decoder) := by
  intro response
  rw [hr]
  by_cases h : response.status = status
  · rw [if_neg (not_not_intro h), if_pos ((ha _).mpr h), bodyVerdict, if_neg (not_not_intro h)]
    rfl
  · rw [if_pos h, if_neg fun h' => h ((ha _).mp h')]

namespace Directory

theorem reads_lookup (name : ApplicationName) :
    Reads (.lookup name) .lookupApplications (readLookup name) (lookupVerdict name) := by
  intro response
  unfold readLookup lookupVerdict bodyVerdict
  by_cases h : response.status = 404
  · simp only [if_pos h]
    rw [if_pos (.inr h)]
    rfl
  · simp only [if_neg h]
    by_cases h₂ : response.status = 200
    · rw [if_neg (not_not_intro h₂), if_pos (.inl h₂), if_neg (not_not_intro h₂)]
      refine done_bind fun page => ?_
      unfold single singleVerdict
      rcases page.applications.getD [] with _ | ⟨r, _ | ⟨r', rs⟩⟩ <;> rfl
    · rw [if_pos h₂, if_neg (by simp [RequestKind.accepts, h, h₂])]

theorem reads_creation (name : ApplicationName) :
    Reads (.create name) .createApplication readCreation creationVerdict := by
  intro response
  unfold readCreation creationVerdict
  by_cases h : response.status = 201
  · rw [if_neg (not_not_intro h), if_neg (not_not_intro h),
      if_pos (show RequestKind.accepts (.create name) _ from h)]
  · rw [if_pos h, if_neg (show ¬RequestKind.accepts (.create name) _ from h)]

theorem reads_secret (id : Uuid) : Reads (.secret id) .createApiSecret readSecret
    fun response => (secretVerdict response).map Secret.mk := by
  intro response
  unfold readSecret secretVerdict bodyVerdict
  by_cases h : response.status = 201
  · simp only [if_neg (not_not_intro h)]
    rw [if_pos (show RequestKind.accepts (.secret id) _ from h)]
    unfold Attempt.decode
    cases Json.decodeFirst SecretAnswer.decoder response.body with
    | error e => rfl
    | ok answer =>
      show (do return ⟨← Attempt.require .createApiSecret "secret" _⟩ : Attempt Secret) =
        .ofProcedure (.done ((presentVerdict .createApiSecret "secret" _).map Secret.mk))
      cases answer.secret.filter (· ≠ "") <;> rfl
  · simp only [if_pos h]
    rw [if_neg (show ¬RequestKind.accepts (.secret id) _ from h)]

theorem plain_of_secretVerdict (hs : response.status = 201)
    (h : secretVerdict response = .error e) : e.Plain := by
  obtain h | ⟨answer, -, h⟩ := except_bind_eq_error.mp h
  · exact plain_of_bodyVerdict hs h
  · cases hx : answer.secret.filter (· ≠ "") with
    | some secret =>
      rw [hx] at h
      cases h
    | none =>
      rw [hx] at h
      cases h
      exact fun _ _ he => by cases he

theorem plain_of_creationVerdict {name : ApplicationName} (hs : response.status = 201)
    (h : creationVerdict response = .error e) :
    RequestKind.change? call response (.create name) = none ∧ e.Plain := by
  rw [creationVerdict, if_neg (not_not_intro hs)] at h
  have hnone : Client.createdId? response = none := by
    rw [Client.createdId?, if_pos hs, h]
    rfl
  refine ⟨by rw [RequestKind.change?, hnone]; rfl, ?_⟩
  cases hu : Uuid.parse (String.ofList (Text.afterLast '/'
      ((response.headerText? "location").getD "").toList)) with
  | ok id =>
    simp only [applicationId, hu] at h
    cases h
  | error f =>
    simp only [applicationId, hu] at h
    cases h
    exact fun _ _ he => by cases he

theorem reads_record (id : Uuid) :
    Reads (.fetch id) .retrieveClientId readRecord recordVerdict :=
  reads_body (fun _ => Iff.rfl) fun _ => rfl

theorem reads_deletion (id : Uuid) (stage : Stage) :
    Reads (.delete id) stage (readDeletion stage) (deletionVerdict stage) := by
  intro response
  unfold readDeletion deletionVerdict
  by_cases h : response.status = 404
  · simp only [if_pos h]
    rw [if_pos (.inl h)]
    rfl
  · simp only [if_neg h]
    by_cases hs : response.isSuccess = true
    · rw [if_pos hs, if_pos (.inr (by simpa [Http.Response.isSuccess] using hs)), if_pos hs]
      rfl
    · rw [if_neg hs, if_neg]
      rintro (h' | h')
      · exact h h'
      · exact hs (by simpa [Http.Response.isSuccess] using h')

end Directory

theorem Discovery.reads_document (stage : Stage) :
    Reads .discover stage (readDocument stage) (documentVerdict stage) :=
  reads_body (fun _ => Iff.rfl) fun _ => rfl

end Answers

/-! ## Calls -/

namespace Client

variable (c : Client) {call : Call} {b b' : Nat}

/-- `Discovery.address` logs within its stage. -/
theorem logsWithin_address {e : Endpoint} (hn : call.name?.isSome = true)
    (hs : RequestKind.Step call .discover (Discovery.stage e))
    (hb : b ≤ (Discovery.stage e).place) :
    LogsWithin c call b ((Discovery.stage e).place + 1) (c.discovery.address e) := by
  refine LogsWithin.bind (LogsWithin.locked _ fun τ hτ known => ?_)
    fun a => LogsWithin.require _ _ a (Nat.le_refl _)
  cases known with
  | some a => exact hτ.mono (Nat.le_succ_of_le hb)
  | none =>
    refine (LogsWithin.ask hn hs (Discovery.reads_document _) (fun _ => rfl)
      (fun _ _ ha => plain_of_bodyVerdict ha) hb).bind (fun doc => ?_) τ hτ
    show LogsWithin c call _ _ (Discovery.keep e (e.pick doc))
    cases e.pick doc <;> exact fun τ hτ => hτ

/-- `Attempt.logChange` logs the pending change. -/
theorem logs_logChange {c : Client} {τ : LogState} {change : Change} {name : ApplicationName}
    {id : Uuid} (ho : τ.pending = some (.changed change name id))
    (hτ : LogState.Fresh b ⟨τ.exchanges, none⟩) :
    Logs c call none (Concludes call fun _ τ => τ.Fresh b)
      (Attempt.logChange change name id) τ :=
  ⟨rfl, ho, hτ⟩

theorem logsWithin_lookup {name : ApplicationName} (hn : call.name? = some name) :
    LogsWithin c call 0 1 (c.directory.find name) := by
  refine LogsWithin.ask (by rw [hn]; rfl) (.lookup hn) (Directory.reads_lookup name) (fun _ => rfl)
    (fun response e ha h => ?_) (Nat.zero_le _)
  unfold Directory.lookupVerdict at h
  split at h
  · cases h
  next hs =>
  obtain h | ⟨page, -, h⟩ := except_bind_eq_error.mp h
  · exact plain_of_bodyVerdict (ha.resolve_right hs) h
  · obtain ⟨-, rfl⟩ := Directory.singleVerdict_eq_error.mp h
    exact fun _ _ he => by cases he

/-- `Client.clear` logs within its two stages. -/
theorem logsWithin_clear {name : ApplicationName} {stage : Stage} (hn : call.name? = some name)
    (hs : ∀ id, RequestKind.Step call (.delete id) stage) (hb : 1 ≤ stage.place) :
    LogsWithin c call 0 (stage.place + 1) (c.clear stage call.removal name) := by
  refine (c.logsWithin_lookup hn).bind fun found => ?_
  cases found with
  | none => exact LogsWithin.pure () (by omega)
  | some existing =>
    intro τ hτ
    refine logs_bind (logs_ask (by rw [hn]; rfl) (hs existing.id)
      (Directory.reads_deletion existing.id stage) (fun response e ha h => ?_) hb hτ)
      fun deletion τ' hτ' => ?_
    · -- a status that is taken is no failure
      unfold Directory.deletionVerdict at h
      split at h
      · cases h
      next h404 =>
      rw [if_pos (by simpa [Http.Response.isSuccess] using ha.resolve_left h404)] at h
      cases h
    · obtain ⟨response, hx, hpending, hfresh⟩ := hτ'
      obtain ⟨h404, rfl⟩ | ⟨hsuccess, rfl⟩ := Directory.deletionVerdict_eq_ok.mp hx
      · have hnone : RequestKind.change? call response (.delete existing.id) = none :=
          if_neg (by simp [Http.Response.isSuccess, h404])
        exact ⟨hpending.trans hnone, hfresh.accepted, hfresh.below⟩
      · refine logs_logChange (hpending.trans ?_) hfresh
        exact RequestKind.change?_eq_some.mpr (.inl ⟨_, _, rfl, hsuccess, hn, rfl⟩)

/-- `Directory.create` leaves the creation pending. -/
theorem logs_create (name : ApplicationName) {τ : LogState}
    (hn : (Call.create name.text).name?.isSome = true) (hτ : τ.Fresh b)
    (hb : b ≤ Stage.createApplication.place) :
    Logs c (.create name.text) none (Concludes (.create name.text) fun id τ' => ∃ response,
      Directory.creationVerdict response = .ok id ∧
        τ'.pending = RequestKind.change? (.create name.text) response (.create name) ∧
          LogState.Fresh (Stage.createApplication.place + 1) ⟨τ'.exchanges, none⟩)
      (c.directory.create name) τ :=
  logs_ask hn (.create name) (Directory.reads_creation name)
    (fun _ _ => Directory.plain_of_creationVerdict) hb hτ

/-- `Client.equip` logs the pending creation first, and then within its stages. -/
theorem logsWithin_equip (name : ApplicationName) (id : Uuid) {τ : LogState}
    (hn : (Call.create name.text).name?.isSome = true)
    (ho : τ.pending = some (.changed .created name id))
    (hτ : LogState.Fresh (Stage.createApplication.place + 1) ⟨τ.exchanges, none⟩) :
    Logs c (.create name.text) none
      (Concludes (.create name.text) fun _ τ => τ.Fresh Stage.all.length) (c.equip name id) τ := by
  refine logs_bind (logs_logChange ho hτ) fun _ => ?_
  refine (LogsWithin.ask hn (.secret name.text id) (Directory.reads_secret id) (fun _ => rfl)
    (fun response e ha h => ?_) (by decide)).bind fun secret => ?_
  · refine Directory.plain_of_secretVerdict ha ?_
    cases hs : Directory.secretVerdict response with
    | ok secret =>
      rw [hs] at h
      cases h
    | error e =>
      rw [hs] at h
      cases h
      rfl
  refine (LogsWithin.ask hn (.fetch name.text id) (Directory.reads_record id) (fun _ => rfl)
    (fun _ _ ha => plain_of_bodyVerdict ha) (by decide)).bind fun record => ?_
  refine (LogsWithin.require _ _ _ (Nat.le_refl _)).bind fun clientId => ?_
  refine (c.logsWithin_address (e := .token) hn (.discover name.text .token)
    (by decide)).bind fun tokenUrl => ?_
  refine (c.logsWithin_address hn (.discover name.text .keys) (by decide)).bind fun jwksUri => ?_
  exact LogsWithin.pure _ (by decide)

theorem logsWithin_recreate {name : ApplicationName}
    (hn : (Call.create name.text).name? = some name) :
    LogsWithin c (.create name.text) 0 Stage.all.length (c.recreate name) := by
  have hsome : (Call.create name.text).name?.isSome = true := by
    rw [hn]
    rfl
  have hclear : LogsWithin c (.create name.text) 0 Stage.createApplication.place
      (c.removeExisting name) := c.logsWithin_clear hn (.replace name.text) (by decide)
  rw [recreate_eq]
  refine hclear.bind fun _ τ hτ =>
    logs_bind (c.logs_create name hsome hτ (Nat.le_refl _)) ?_
  rintro id τ' ⟨response, hx, hpending, hfresh⟩
  refine c.logsWithin_equip name id hsome (hpending.trans ?_) hfresh
  exact RequestKind.change?_eq_some.mpr
    (.inr ⟨name, id, rfl, createdId?_of_creationVerdict hx, rfl⟩)

theorem logsWithin_onName {α : Type} {f : ApplicationName → Attempt α} {text : String}
    (ht : call.text? = some text) (hf : ∀ name, call.name? = some name →
      LogsWithin c call 0 Stage.all.length (f name)) :
    LogsWithin c call 0 Stage.all.length (c.onName text f) := by
  have hname (name : ApplicationName) (hn : ApplicationName.check text = .ok name) :
      call.name? = some name := by
    cases call with
    | create s | delete s =>
      cases ht
      rw [Call.name?, hn]
      rfl
    | tokenUrl | jwksUri | credentials | settings => cases ht
  exact c.onName_cases text (fun _ _ => LogsWithin.throw fun _ _ he => by cases he)
    (fun name hn => (hf name (hname name hn)).locked _) fun name hn => hf name (hname name hn)

/-- `Client.observed` opens the span of the operation and logs within it. -/
theorem logs_observed {α β : Type} {a : Attempt α} (op : Operation) (text : String) (f : α → β)
    (ha : LogsWithin c call 0 Stage.all.length a) :
    ∃ p : Procedure (Except Error β),
      (f <$> observed op text a : Attempt β) = Procedure.emit (.opened ⟨op, text⟩) p ∧
        p.Logs c call (some ⟨op, text⟩)
          (Concludes call fun _ τ => τ.Fresh Stage.all.length) {} := by
  have hobserved : ∃ q : Attempt α, observed op text a = Procedure.emit (.opened ⟨op, text⟩) q ∧
      Logs c call (some ⟨op, text⟩)
        (Concludes call fun _ τ => τ.Fresh Stage.all.length) q {} := by
    refine ⟨_, rfl, ?_⟩
    have htold := (ha {} LogState.fresh_nil).inSpan ⟨op, text⟩
    show Logs c call _ _ (Procedure.bind (Procedure.inSpan _ a) _) {}
    refine htold.bind fun r τ hr => ?_
    exact logs_emitAll (Count.ofEnd op _) hr
  obtain ⟨q, hq, hn⟩ := hobserved
  rw [hq]
  exact ⟨(f <$> q : Attempt β), rfl, logs_bind (f := fun x => pure (f x)) hn fun x τ hτ => hτ⟩

theorem logs_answer {op : Operation} {text : String} (hop : call.operation? = some op)
    (ht : call.text? = some text) : ∃ p : Procedure (Except Error Answer),
      c.answer call = Procedure.emit (.opened ⟨op, text⟩) p ∧
        p.Logs c call (some ⟨op, text⟩)
          (Concludes call fun _ τ => τ.Fresh Stage.all.length) {} := by
  cases call with
  | create s =>
    cases hop
    cases ht
    have h : LogsWithin c (.create text) 0 Stage.all.length (c.onName text c.recreate) :=
      c.logsWithin_onName rfl fun name hn => by
        obtain rfl := ApplicationName.text_of_toOption hn
        exact c.logsWithin_recreate hn
    exact c.logs_observed _ text Answer.created h
  | delete s =>
    cases hop
    cases ht
    have h : LogsWithin c (.delete text) 0 Stage.all.length (c.onName text c.remove) :=
      c.logsWithin_onName rfl fun name hn => c.logsWithin_clear hn (.remove text) (by decide)
    exact c.logs_observed _ text (fun () => Answer.deleted) h
  | tokenUrl | jwksUri | credentials | settings => cases hop

end Client

end TenantApps
