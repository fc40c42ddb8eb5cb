import TenantApps.Proofs.Tenant.Operations

/-!
# `TenantApps.Proofs.Signals.Tally` — the counts of a procedure

An operation counts one attempt first and, together with its result, a success or a failure. In
between it counts nothing, and other calls count nothing at all.

## Contents
- `Account`, the counts before and after a procedure, and `Procedure.Keeps`, procedures that count
  exactly these.
- `Procedure.Quiet`, procedures without counts, with one law for each combinator and for each
  verdict.
- `Call.account` and `Client.answer_keeps`, **every call keeps its account**.
-/

namespace TenantApps

open Telemetry

/-! ## Accounts -/

/-- **`Account`**: the counts of a procedure. -/
structure Account (α : Type) where
  /-- The counts before anything else. -/
  opening : List Count
  /-- The counts that go with the result. -/
  closing : α → List Count

namespace Procedure

variable {α β : Type} {A : Account α} {past : List Count} {p : Procedure α} {f : α → Procedure β}

/-- **`p.Keeps A past`**: with the counts `past` so far, `p` sends and acquires only after exactly
`A.opening`, and ends with `A.opening ++ A.closing a`. -/
def Keeps (A : Account α) : Procedure α → List Count → Prop
  | done a, past => past = A.opening ++ A.closing a
  | send _ _ next, past => past = A.opening ∧ ∀ o, (next o).Keeps A past
  | acquire _ next, past => past = A.opening ∧ next.Keeps A past
  | release _ next, past => next.Keeps A past
  | consult _ next, past => ∀ a, (next a).Keeps A past
  | remember _ _ next, past => next.Keeps A past
  | emit x next, past => next.Keeps A (past ++ counts [x])

/-- `p` has no count. -/
def Quiet : Procedure α → Prop
  | done _ => True
  | send _ _ next => ∀ o, (next o).Quiet
  | acquire _ next | release _ next | remember _ _ next => next.Quiet
  | consult _ next => ∀ a, (next a).Quiet
  | emit x next => counts [x] = [] ∧ next.Quiet

theorem Quiet.bind (hp : p.Quiet) (hf : ∀ a, (f a).Quiet) : (p.bind f).Quiet := by
  induction p with
  | done a => exact hf a
  | send stage r next ih => exact fun o => ih o (hp o)
  | acquire l next ih | release l next ih | remember e a next ih => exact ih hp
  | consult e next ih => exact fun a => ih a (hp a)
  | emit x next ih => exact ⟨hp.1, ih hp.2⟩

theorem Quiet.inSpan (span : Span) (hp : p.Quiet) : (p.inSpan span).Quiet := by
  induction p with
  | done a => exact trivial
  | send stage r next ih => exact fun o => ih o (hp o)
  | acquire l next ih | release l next ih | remember e a next ih => exact ih hp
  | consult e next ih => exact fun a => ih a (hp a)
  | emit x next ih => cases x <;> exact ⟨hp.1, ih hp.2⟩

theorem Quiet.locked (l : Lock) (hp : p.Quiet) : (p.locked l).Quiet :=
  Quiet.bind hp fun _ => trivial

/-- A `Quiet` procedure may run between opening and closing. -/
theorem Quiet.keeps {B : Account β} (hp : p.Quiet) (hf : ∀ a, (f a).Keeps B B.opening) :
    (p.bind f).Keeps B B.opening := by
  induction p with
  | done a => exact hf a
  | send stage r next ih => exact ⟨rfl, fun o => ih o (hp o)⟩
  | acquire l next ih => exact ⟨rfl, ih hp⟩
  | release l next ih | remember e a next ih => exact ih hp
  | consult e next ih => exact fun a => ih a (hp a)
  | emit x next ih =>
    show Keeps B _ (B.opening ++ counts [x])
    rw [hp.1, List.append_nil]
    exact ih hp.2

/-- `Keeps` along a map of the result with the same counts. -/
theorem Keeps.map {B : Account β} {g : α → β} (hp : p.Keeps A past) (ho : B.opening = A.opening)
    (hc : ∀ a, B.closing (g a) = A.closing a) (hf : ∀ a, f a = done (g a)) :
    (p.bind f).Keeps B past := by
  induction p generalizing past with
  | done a =>
    show Keeps B (f a) past
    rw [hf a, Keeps, ho, hc]
    exact hp
  | send stage r next ih => exact ⟨hp.1.trans ho.symm, fun o => ih o (hp.2 o)⟩
  | acquire l next ih => exact ⟨hp.1.trans ho.symm, ih hp.2⟩
  | release l next ih | remember e a next ih => exact ih hp
  | consult e next ih => exact fun a => ih a (hp a)
  | emit x next ih => exact ih hp

theorem keeps_emitAll {f : Unit → Procedure α} (xs : List Count)
    (hf : (f ()).Keeps A (past ++ xs)) : ((emitAll (xs.map .counted)).bind f).Keeps A past := by
  induction xs generalizing past with
  | nil => rwa [List.append_nil] at hf
  | cons x xs ih =>
    have hx : (f ()).Keeps A (past ++ [x] ++ xs) := by rwa [List.append_assoc]
    exact ih hx

end Procedure

/-! ## Quiet attempts -/

open Attempt Procedure

namespace Attempt

variable {α β : Type} {a : Attempt α} {f : α → Attempt β}

theorem quiet_bind (ha : Quiet a) (hf : ∀ x, Quiet (f x)) : Quiet (a >>= f : Attempt β) := by
  rw [bind_eq]
  refine ha.bind fun r => ?_
  cases r with
  | ok x => exact hf x
  | error e => exact trivial

theorem quiet_map (g : α → β) (ha : Quiet a) : Quiet (g <$> a : Attempt β) :=
  quiet_bind (f := fun x => pure (g x)) ha fun _ => trivial

theorem quiet_ask {stage : Stage} {request : Except ConfigError Http.Request}
    {read : Http.Response → Attempt α} (h : ∀ response, Quiet (read response)) :
    Quiet (Attempt.ask stage request read) := by
  cases request with
  | error e => exact trivial
  | ok r =>
    intro o
    cases o with
    | answered response => exact h response
    | failed e | refused e => exact trivial

theorem quiet_reject (stage : Stage) (response : Http.Response) :
    Quiet (.reject stage response : Attempt α) :=
  ⟨rfl, trivial⟩

theorem quiet_require (stage : Stage) (field : String) (x : Option α) :
    Quiet (Attempt.require stage field x) := by
  cases x <;> exact trivial

end Attempt

namespace Directory

theorem quiet_readLookup (name : ApplicationName) (response : Http.Response) :
    Quiet (readLookup name response) := by
  unfold readLookup
  by_cases h : response.status = 404
  · simp only [if_pos h]
    exact trivial
  · simp only [if_neg h]
    by_cases h₂ : response.status ≠ 200
    · simp only [if_pos h₂]
      exact quiet_reject _ _
    · simp only [if_neg h₂]
      refine quiet_bind (a := .decode _ _ _) trivial fun page => ?_
      unfold single
      split <;> exact trivial

theorem quiet_readCreation (response : Http.Response) : Quiet (readCreation response) := by
  unfold readCreation
  split
  · exact quiet_reject _ _
  · exact trivial

theorem quiet_readSecret (response : Http.Response) : Quiet (readSecret response) := by
  unfold readSecret
  by_cases h : response.status ≠ 201
  · simp only [if_pos h]
    exact quiet_reject _ _
  · simp only [if_neg h]
    refine quiet_bind (a := .decode _ _ _) trivial fun answer => ?_
    exact quiet_map _ (quiet_require _ _ _)

theorem quiet_readRecord (response : Http.Response) : Quiet (readRecord response) := by
  unfold readRecord
  split
  · exact quiet_reject _ _
  · exact trivial

theorem quiet_readDeletion (stage : Stage) (response : Http.Response) :
    Quiet (readDeletion stage response) := by
  unfold readDeletion
  by_cases h : response.status = 404
  · simp only [if_pos h]
    exact trivial
  · simp only [if_neg h]
    cases response.isSuccess
    · exact quiet_reject _ _
    · exact trivial

end Directory

theorem Discovery.quiet_readDocument (stage : Stage) (response : Http.Response) :
    Quiet (readDocument stage response) := by
  unfold readDocument
  split
  · exact quiet_reject _ _
  · exact trivial

theorem Discovery.quiet_address (d : Discovery) (e : Endpoint) : Quiet (d.address e) := by
  refine quiet_bind (Quiet.locked _ fun known => ?_) fun a => quiet_require _ _ _
  cases known with
  | some a => exact trivial
  | none =>
    refine quiet_bind (quiet_ask (quiet_readDocument _)) fun doc => ?_
    show Quiet (keep e (e.pick doc))
    cases e.pick doc <;> exact trivial

namespace Client

variable (c : Client)

theorem quiet_clear (stage : Stage) (change : Telemetry.Change) (name : ApplicationName) :
    Quiet (c.clear stage change name) := by
  refine quiet_bind (quiet_ask (Directory.quiet_readLookup name)) fun found => ?_
  cases found with
  | none => exact trivial
  | some existing =>
    refine quiet_bind (quiet_ask (Directory.quiet_readDeletion stage)) fun deletion => ?_
    cases deletion with
    | deleted => exact ⟨rfl, trivial⟩
    | notFound => exact trivial

theorem quiet_recreate (name : ApplicationName) : Quiet (c.recreate name) := by
  rw [recreate_eq, removeExisting_eq]
  refine quiet_bind (c.quiet_clear _ _ name) fun _ => ?_
  refine quiet_bind (quiet_ask Directory.quiet_readCreation) fun id => ?_
  refine quiet_bind (a := .logChange .created name id) ⟨rfl, trivial⟩ fun _ => ?_
  refine quiet_bind (quiet_ask Directory.quiet_readSecret) fun secret => ?_
  refine quiet_bind (quiet_ask Directory.quiet_readRecord) fun record => ?_
  refine quiet_bind (quiet_require _ _ _) fun clientId => ?_
  refine quiet_bind (c.discovery.quiet_address .token) fun tokenUrl => ?_
  exact quiet_bind (c.discovery.quiet_address .keys) fun jwksUri => trivial

theorem quiet_onName {α : Type} {f : ApplicationName → Attempt α} (text : String)
    (hf : ∀ name, Quiet (f name)) : Quiet (c.onName text f) :=
  c.onName_cases text (fun _ _ => trivial) (fun name _ => (hf name).locked _) fun name _ => hf name

end Client

/-! ## Calls -/

/-- The account of an operation: an attempt, then the end by its result. -/
def Operation.account (op : Operation) (α : Type) : Account (Except Error α) where
  opening := [.total op .attempt]
  closing r := Count.ofEnd op (match r with
    | .ok _ => none
    | .error e => some e.stage)

/-- `Client.observed` keeps the account of its operation if the body is `Quiet`. -/
theorem Client.observed_keeps {α : Type} {a : Attempt α} (op : Operation) (text : String)
    (ha : Quiet a) : (observed op text a).Keeps (op.account α) [] := by
  refine (ha.inSpan _).keeps (B := op.account α) fun r => ?_
  exact keeps_emitAll _ rfl

theorem Attempt.keeps_map {α β : Type} {op : Operation} {a : Attempt α} {past : List Count}
    (f : α → β) (ha : Keeps (op.account α) a past) :
    Keeps (op.account β) (f <$> a : Attempt β) past :=
  Keeps.map (g := Except.map f) ha rfl (fun r => by cases r <;> rfl) fun r => by cases r <;> rfl

/-- The operation that a call is; `none` for the other calls. -/
def Call.operation? : Call → Option Operation
  | create _ => some .createApplication
  | delete _ => some .deleteApplication
  | tokenUrl | jwksUri | credentials | settings => none

def Call.account (call : Call) : Account (Except Error Answer) :=
  call.operation?.elim ⟨[], fun _ => []⟩ (·.account Answer)

/-- A `Quiet` call keeps the empty account. -/
theorem Procedure.Quiet.answer_keeps {a : Attempt Answer} (ha : Quiet a) :
    Keeps ⟨[], fun _ => []⟩ a [] := by
  rw [← bind_done a]
  exact ha.keeps (B := ⟨[], fun _ => []⟩) fun _ => rfl

/-- **Every call keeps its account.** -/
theorem Client.answer_keeps (c : Client) (call : Call) :
    (c.answer call).Keeps call.account [] := by
  cases call with
  | create text =>
    exact keeps_map Answer.created (observed_keeps _ text (c.quiet_onName text c.quiet_recreate))
  | delete text =>
    exact keeps_map (fun () => Answer.deleted) (observed_keeps _ text
      (c.quiet_onName text fun name => c.quiet_clear .deleteApplication .deleted name))
  | tokenUrl => exact (quiet_map _ (c.discovery.quiet_address .token)).answer_keeps
  | jwksUri => exact (quiet_map _ (c.discovery.quiet_address .keys)).answer_keeps
  | credentials | settings => exact rfl

end TenantApps
