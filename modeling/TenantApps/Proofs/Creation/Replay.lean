import TenantApps.Proofs.Tenant.Operations
import TenantApps.Session

/-!
# `TenantApps.Proofs.Creation.Replay` — a denotation of procedures over scripted replies

`Procedure.run` threads a `Session` with telemetry, locks and a transport. `Procedure.replay`
forgets all of it but the cache and the script of replies, and is compositional in `bind`. Requests
and result of a run are those of its replay, so statements about them are proved by equational
reasoning.

## Contents
- `Procedure.replay`, with **adequacy**: `Procedure.run_replay` and `run_replay_cache`.
- `Procedure.replay_bind`, `replay_inSpan`, `replay_locked` and `Attempt.replay_ask`, one equation
  for each combinator.
-/

namespace TenantApps

/-- **`Replay`**: the outcome of `Procedure.replay`. -/
structure Replay (α : Type) where
  result : α
  /-- The requests sent, in order. -/
  requests : List Http.Request
  /-- The final cache. -/
  cache : Cache
  /-- The replies that were not used. -/
  rest : Http.Script

/-- `x.behind rs`: `x` with `rs` in front of its requests. -/
def Replay.behind {α : Type} (rs : List Http.Request) (x : Replay α) : Replay α :=
  { x with requests := rs ++ x.requests }

/-- The head of a script; `Http.Script.exchange` uses the same default when the script has run
out. -/
def Http.Script.reply (os : Http.Script) : Http.Outcome :=
  os.headD (.failed (.other "no scripted reply"))

theorem Http.Script.exchange_eq (os : Http.Script) (r : Http.Request) :
    os.exchange r = (os.reply, os.tail) := by
  cases os <;> rfl

namespace Procedure

variable {α β : Type} {os : Http.Script} {k : Cache}

/-- **`replay`**: evaluates a procedure on a script of replies and a cache. -/
def replay : Procedure α → Http.Script → Cache → Replay α
  | done a, os, k => ⟨a, [], k, os⟩
  | send _ r next, os, k => ((next os.reply).replay os.tail k).behind [r]
  | acquire _ next, os, k | release _ next, os, k => next.replay os k
  | consult e next, os, k => (next (k.get e)).replay os k
  | remember e a next, os, k => next.replay os (k.set e a)
  | emit _ next, os, k => next.replay os k

theorem replay_consult (e : Endpoint) (next : Option String → Procedure α) (os : Http.Script)
    (k : Cache) : (consult e next).replay os k = (next (k.get e)).replay os k := rfl

/-- **Adequacy of `replay`**: `Procedure.run` with `Http.Script.exchange` has its result, its
requests and its remaining script. -/
theorem run_replay (p : Procedure α) (s : Session Http.Script) :
    (p.run Http.Script.exchange s).1 = (p.replay s.transport s.cache).result ∧
      (p.run Http.Script.exchange s).2.requests =
        s.requests ++ (p.replay s.transport s.cache).requests := by
  induction p generalizing s with
  | done a => exact ⟨rfl, (List.append_nil _).symm⟩
  | send stage r next ih =>
    rw [run, Http.Script.exchange_eq]
    obtain ⟨hr, hs⟩ := ih s.transport.reply
      { s with transport := s.transport.tail, requests := s.requests ++ [r] }
    refine ⟨hr, hs.trans ?_⟩
    rw [List.append_assoc]
    rfl
  | acquire l next ih | release l next ih | emit x next ih => exact ih _
  | consult e next ih => exact ih _ _
  | remember e a next ih => exact ih _

/-- Adequacy of `replay` for the cache. -/
theorem run_replay_cache (p : Procedure α) (s : Session Http.Script) :
    (p.run Http.Script.exchange s).2.cache = (p.replay s.transport s.cache).cache := by
  induction p generalizing s with
  | done a => rfl
  | send stage r next ih =>
    rw [run, Http.Script.exchange_eq]
    exact ih s.transport.reply
      { s with transport := s.transport.tail, requests := s.requests ++ [r] }
  | acquire l next ih | release l next ih | emit x next ih | remember e a next ih => exact ih _
  | consult e next ih => exact ih _ _

theorem replay_bind (p : Procedure α) (f : α → Procedure β) (os : Http.Script) (k : Cache) :
    (p.bind f).replay os k = ((f (p.replay os k).result).replay (p.replay os k).rest
      (p.replay os k).cache).behind (p.replay os k).requests := by
  induction p generalizing os k with
  | done a => rfl
  | send stage r next ih =>
    rw [bind, replay, ih, replay]
    rfl
  | acquire l next ih | release l next ih | emit x next ih => exact ih _ _
  | consult e next ih => exact ih _ _ _
  | remember e a next ih => exact ih _ _

theorem replay_inSpan (p : Procedure α) (span : Telemetry.Span) (os : Http.Script) (k : Cache) :
    (p.inSpan span).replay os k = p.replay os k := by
  induction p generalizing os k with
  | done a => rfl
  | send stage r next ih => rw [inSpan, replay, ih, replay]
  | acquire l next ih | release l next ih => exact ih _ _
  | emit x next ih => cases x <;> exact ih _ _
  | consult e next ih => exact ih _ _ _
  | remember e a next ih => exact ih _ _

theorem replay_of_verdict? {p : Procedure α} {a : α} (h : p.verdict? = some a)
    (os : Http.Script) (k : Cache) : p.replay os k = ⟨a, [], k, os⟩ := by
  induction p with
  | done b =>
    cases h
    rfl
  | emit x next ih => exact ih h
  | send stage r next | acquire l next | release l next | consult e next
  | remember e a next => cases h

theorem replay_locked (l : Lock) (p : Procedure α) (os : Http.Script) (k : Cache) :
    (p.locked l).replay os k = p.replay os k := by
  rw [locked, replay, replay_bind]
  simp [replay, Replay.behind]

theorem verdict?_emitAll (xs : List Telemetry.Signal) : (emitAll xs).verdict? = some () := by
  induction xs with
  | nil => rfl
  | cons x xs ih => exact ih

end Procedure

namespace Attempt

open Procedure

variable {α β : Type} {os os' : Http.Script} {k k' : Cache} {rs : List Http.Request}

theorem replay_bind_ok {a : Attempt α} {x : α} (f : α → Attempt β)
    (h : replay a os k = ⟨.ok x, rs, k', os'⟩) :
    replay (a >>= f : Attempt β) os k = (replay (f x) os' k').behind rs := by
  rw [bind_eq, replay_bind, h]

theorem replay_bind_error {a : Attempt α} {e : Error} (f : α → Attempt β)
    (h : replay a os k = ⟨.error e, rs, k', os'⟩) :
    replay (a >>= f : Attempt β) os k = ⟨.error e, rs, k', os'⟩ := by
  rw [bind_eq, replay_bind, h]
  simp [replay, Replay.behind]

/-- The verdict of a stage on an outcome: `verdict` on a response, otherwise the transport error. -/
def received (stage : Stage) (verdict : Http.Response → Except Error α) :
    Http.Outcome → Except Error α
  | .answered response => verdict response
  | .failed e => .error (.transport stage e)
  | .refused e => .error (.config (.request e))

/-- `Attempt.ask` sends the one request `r` and takes one reply; `read` must have only `emit`
nodes. -/
theorem replay_ask {stage : Stage} {request : Except ConfigError Http.Request} {r : Http.Request}
    {read : Http.Response → Attempt α} {verdict : Http.Response → Except Error α}
    (hr : request = .ok r) (hv : ∀ response, verdict? (read response) = some (verdict response))
    (os : Http.Script) (k : Cache) :
    replay (Attempt.ask stage request read) os k =
      ⟨received stage verdict os.reply, [r], k, os.tail⟩ := by
  subst hr
  show Replay.behind [r] _ = _
  cases os.reply with
  | answered response =>
    show Replay.behind [r] (replay (read response) os.tail k) = _
    rw [replay_of_verdict? (hv response)]
    rfl
  | failed e => rfl
  | refused e => rfl

end Attempt

end TenantApps
