import TenantApps.Proofs.Tenant.Operations
import TenantApps.Session

/-!
# `TenantApps.Proofs.Solo.Plain` — calls without locks

`Procedure.run` ignores `acquire` and `release`, so a procedure that runs by itself is determined by
its erasure `Procedure.unlocked`. The erasure of a call does not depend on `serializeByName`.
Running the erased calls one after the other is the lock-free specification of a client.

## Contents
- `Procedure.unlocked` with one law for each combinator, and `Procedure.run_unlocked`.
- `Client.body`, the erasure of a call, and `Client.body_serializing`.
- `RunSummary`, the observable outcome of a call, and `Client.plainly`, the lock-free specification.
-/

namespace TenantApps

/-! ## Lock erasure -/

namespace Procedure

variable {α β : Type}

/-- **`unlocked`**: the procedure without `acquire` and `release`. -/
def unlocked : Procedure α → Procedure α
  | done a => done a
  | send stage r next => send stage r fun o => (next o).unlocked
  | acquire _ next | release _ next => next.unlocked
  | consult e next => consult e fun a => (next a).unlocked
  | remember e a next => remember e a next.unlocked
  | emit x next => emit x next.unlocked

/-- **`run` does not depend on locks.** -/
theorem run_unlocked {T : Type} (exchange : T → Http.Request → Http.Outcome × T)
    (p : Procedure α) (s : Session T) : p.unlocked.run exchange s = p.run exchange s := by
  induction p generalizing s with
  | done a => rfl
  | send stage r next ih => exact ih _ _
  | acquire l next ih | release l next ih | remember e a next ih | emit x next ih => exact ih _
  | consult e next ih => exact ih _ _

theorem unlocked_bind (p : Procedure α) (f : α → Procedure β) :
    (p.bind f).unlocked = p.unlocked.bind fun a => (f a).unlocked := by
  induction p with
  | done a => rfl
  | send stage r next ih => simp only [bind, unlocked, ih]
  | acquire l next ih | release l next ih => exact ih
  | consult e next ih => simp only [bind, unlocked, ih]
  | remember e a next ih | emit x next ih => simp only [bind, unlocked, ih]

theorem unlocked_inSpan (p : Procedure α) (span : Telemetry.Span) :
    (p.inSpan span).unlocked = p.unlocked.inSpan span := by
  induction p with
  | done a => rfl
  | send stage r next ih => simp only [inSpan, unlocked, ih]
  | acquire l next ih | release l next ih => exact ih
  | consult e next ih => simp only [inSpan, unlocked, ih]
  | remember e a next ih => simp only [inSpan, unlocked, ih]
  | emit x next ih => cases x <;> simp only [inSpan, unlocked, ih]

theorem unlocked_locked (l : Lock) (p : Procedure α) : (p.locked l).unlocked = p.unlocked := by
  show (p.bind fun a => release l (done a)).unlocked = p.unlocked
  rw [unlocked_bind]
  exact bind_done p.unlocked

/-- `bind` respects equality up to locks. -/
theorem unlocked_bind_congr {p q : Procedure α} (h : p.unlocked = q.unlocked)
    (f : α → Procedure β) : (p.bind f).unlocked = (q.bind f).unlocked := by
  rw [unlocked_bind, unlocked_bind, h]

end Procedure

open Attempt Procedure

/-! ## Erased calls -/

namespace Client

variable (c : Client)

/-- The client with `serializeByName := b`. -/
def serializing (b : Bool) : Client := ⟨{ c.settings with serializeByName := b }⟩

/-- The erasure of a call. -/
def body (call : Call) : Attempt Answer := unlocked (c.answer call)

theorem unlocked_onName {α : Type} (b : Bool) (s : String) (f : ApplicationName → Attempt α) :
    unlocked ((c.serializing b).onName s f) = unlocked (c.onName s f) := by
  have hserialized (c : Client) (name : ApplicationName) (a : Attempt α) :
      unlocked (c.serialized name a) = unlocked a := by
    unfold serialized
    split
    · exact unlocked_locked _ _
    · rfl
  unfold onName
  cases ApplicationName.check s with
  | error e => rfl
  | ok name => exact (hserialized _ name _).trans (hserialized _ name _).symm

theorem unlocked_observed {α : Type} (op : Operation) (s : String) {a b : Attempt α}
    (h : unlocked a = unlocked b) : unlocked (observed op s a) = unlocked (observed op s b) := by
  have hspan : (a.run.inSpan ⟨op, s⟩).unlocked = (b.run.inSpan ⟨op, s⟩).unlocked := by
    rw [unlocked_inSpan, unlocked_inSpan]
    exact congrArg (Procedure.inSpan _) h
  exact congrArg (fun p => emit _ (emit _ p)) (unlocked_bind_congr hspan _)

/-- The erasure of a call does not depend on `serializeByName`, unless the call returns the
settings. -/
theorem body_serializing (b : Bool) {call : Call} (h : call ≠ .settings) :
    (c.serializing b).body call = c.body call := by
  cases call with
  | create s =>
    exact unlocked_bind_congr (unlocked_observed _ s (c.unlocked_onName b s c.recreate)) _
  | delete s =>
    exact unlocked_bind_congr (unlocked_observed _ s (c.unlocked_onName b s c.remove)) _
  | tokenUrl | jwksUri | credentials => rfl
  | settings => exact absurd rfl h

end Client

/-! ## The lock-free specification -/

/-- **`RunSummary`**: the observable outcome of a call. -/
structure RunSummary where
  /-- At most one result. -/
  results : List (Except Error Answer)
  requests : List Http.Request
  signals : List Telemetry.Signal
  /-- The final cache. -/
  cache : Cache
  /-- The replies that were not used. -/
  rest : Http.Script

def RunSummary.ofRun (x : Except Error Answer × Session Http.Script) : RunSummary :=
  ⟨[x.1], x.2.requests, x.2.signals, x.2.cache, x.2.transport⟩

/-- **`plainly c agenda k`**: the erased calls of `agenda`, one after the other, each with its own
replies; the cache is passed on. -/
def Client.plainly (c : Client) : List (Call × Http.Script) → Cache → List RunSummary
  | [], _ => []
  | (call, os) :: rest, k =>
    let x := Procedure.run Http.Script.exchange (c.body call) { transport := os, cache := k }
    .ofRun x :: c.plainly rest x.2.cache

/-- The specification does not depend on `serializeByName`. -/
theorem Client.plainly_serializing (c : Client) (b : Bool) {agenda : List (Call × Http.Script)}
    (h : ∀ x ∈ agenda, x.1 ≠ .settings) (k : Cache) :
    (c.serializing b).plainly agenda k = c.plainly agenda k := by
  induction agenda generalizing k with
  | nil => rfl
  | cons x agenda ih =>
    obtain ⟨call, os⟩ := x
    have hcall : call ≠ .settings := h _ List.mem_cons_self
    rw [plainly, plainly, c.body_serializing b hcall]
    exact congrArg (_ :: ·) (ih (fun y hy => h y (List.mem_cons_of_mem _ hy)) _)

end TenantApps
