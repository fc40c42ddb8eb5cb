import TenantApps.Error
import TenantApps.Record.Discovery
import TenantApps.Telemetry

/-!
# `TenantApps.Procedure` — operations as trees of actions

`Procedure α` is the free monad over what an operation does: send a request, acquire or release a
`Lock`, read or fill the address cache, emit a signal. `send` and `acquire` are the suspension
points. The tree fixes neither the answers nor the schedule, so the same term is executed alone by
`Procedure.run` (`TenantApps.Session`) and interleaved with others by `Machine.step`
(`TenantApps.Tasks.Machine`).

## Contents
- `Lock`, the two kinds of mutex: one per application name, one per discovery address.
- `Procedure` with `bind`, its monad laws, `locked` and `inSpan`.
- `Attempt = ExceptT Error Procedure` with the primitives of the tenant calls: `ask`, `decode`,
  `reject`, `require`.
-/

namespace TenantApps

/-- A mutex that operations of one client contend for. -/
inductive Lock
  /-- The per-name guard, taken when `serializeByName` is set. -/
  | name (n : ApplicationName)
  /-- The single-flight lock of a discovery address. -/
  | endpoint (e : Endpoint)
  deriving DecidableEq, Repr

/-- Continuation tree of an operation with result `α`. -/
inductive Procedure (α : Type) : Type
  /-- Return `a`. -/
  | done (a : α)
  /-- Send `r` in `stage`; suspended until an `Http.Outcome` arrives. -/
  | send (stage : Stage) (r : Http.Request) (next : Http.Outcome → Procedure α)
  /-- Acquire `l`; suspended until it is granted. -/
  | acquire (l : Lock) (next : Procedure α)
  /-- Release `l`, which the operation holds. -/
  | release (l : Lock) (next : Procedure α)
  /-- Read the cached address of `e`. -/
  | consult (e : Endpoint) (next : Option String → Procedure α)
  /-- Cache `address` for `e`. -/
  | remember (e : Endpoint) (address : String) (next : Procedure α)
  /-- Emit a counter increment, span or log event. -/
  | emit (s : Telemetry.Signal) (next : Procedure α)

namespace Procedure

variable {α β γ : Type}

/-- Sequencing: `f` runs on the result of `p`. -/
def bind (p : Procedure α) (f : α → Procedure β) : Procedure β :=
  match p with
  | done a => f a
  | send stage r next => send stage r fun o => (next o).bind f
  | acquire l next => acquire l (next.bind f)
  | release l next => release l (next.bind f)
  | consult e next => consult e fun a => (next a).bind f
  | remember e address next => remember e address (next.bind f)
  | emit s next => emit s (next.bind f)

instance : Monad Procedure where
  pure := done
  bind := bind

theorem bind_done (p : Procedure α) : p.bind done = p := by
  induction p with
  | done a => rfl
  | send stage r next ih => simp only [bind, ih]
  | acquire l next ih => simp only [bind, ih]
  | release l next ih => simp only [bind, ih]
  | consult e next ih => simp only [bind, ih]
  | remember e address next ih => simp only [bind, ih]
  | emit s next ih => simp only [bind, ih]

theorem bind_assoc (p : Procedure α) (f : α → Procedure β) (g : β → Procedure γ) :
    (p.bind f).bind g = p.bind fun a => (f a).bind g := by
  induction p with
  | done a => rfl
  | send stage r next ih => simp only [bind, ih]
  | acquire l next ih => simp only [bind, ih]
  | release l next ih => simp only [bind, ih]
  | consult e next ih => simp only [bind, ih]
  | remember e address next ih => simp only [bind, ih]
  | emit s next ih => simp only [bind, ih]

/-- Emits the signals in order. -/
def emitAll : List Telemetry.Signal → Procedure Unit
  | [] => done ()
  | s :: rest => emit s (emitAll rest)

/-- `p` as a critical section of `l`: acquired first, released after the result. -/
def locked (l : Lock) (p : Procedure α) : Procedure α :=
  acquire l (p.bind fun a => release l (done a))

/-- Attaches `span` to every event that the procedure logs. -/
def inSpan (span : Telemetry.Span) : Procedure α → Procedure α
  | done a => done a
  | send stage r next => send stage r fun o => (next o).inSpan span
  | acquire l next => acquire l (next.inSpan span)
  | release l next => release l (next.inSpan span)
  | consult e next => consult e fun a => (next a).inSpan span
  | remember e address next => remember e address (next.inSpan span)
  | emit (.logged e _) next => emit (.logged e (some span)) (next.inSpan span)
  | emit s next => emit s (next.inSpan span)

end Procedure

/-- A procedure that may stop with an `Error`. -/
abbrev Attempt := ExceptT Error Procedure

namespace Attempt

variable {α : Type}

/-- View of a procedure with an `Except` result as an `Attempt`. -/
def ofProcedure (p : Procedure (Except Error α)) : Attempt α := p

/-- Lifts a local computation; a failure becomes `Error.config`, without a stage. -/
def ofExcept (r : Except ConfigError α) : Attempt α := Procedure.done (r.mapError .config)

/-- Sends `r` in `stage`. An unanswered request is `Error.transport`, one that the HTTP library
refuses to build is `Error.config`. -/
def send (stage : Stage) (r : Http.Request) : Attempt Http.Response :=
  Procedure.send stage r fun
    | .answered response => .done (.ok response)
    | .failed e => .done (.error (.transport stage e))
    | .refused e => .done (.error (.config (.request e)))

/-- One tenant call: build the request, send it, interpret the response with `read`. -/
def ask (stage : Stage) (request : Except ConfigError Http.Request)
    (read : Http.Response → Attempt α) : Attempt α := do
  let request ← ofExcept request
  let response ← send stage request
  read response

/-- `Procedure.emit` as an `Attempt`. -/
def emit (s : Telemetry.Signal) : Attempt Unit := Procedure.emit s (.done (.ok ()))

/-- Logs a `Change` at `INFO`; `inSpan` adds the span. -/
def logChange (c : Telemetry.Change) (name : ApplicationName) (id : Uuid) : Attempt Unit :=
  emit (.logged (.changed c name id) none)

/-- Logs the status at `WARN` and fails with `Error.unexpectedStatus`. -/
def reject (stage : Stage) (response : Http.Response) : Attempt α := do
  emit (.logged (.rejected stage response.status) none)
  throw (.unexpectedStatus stage response.status)

/-- Decodes the first JSON value of the body; a failure is `Error.responseParse`. -/
def decode (stage : Stage) (decoder : Json.Decoder α) (response : Http.Response) : Attempt α :=
  Procedure.done ((Json.decodeFirst decoder response.body).mapError
    (.responseParse stage response.status))

/-- Unwraps a field of a response; `none` is `Error.missingField`. -/
def require (stage : Stage) (field : String) (a : Option α) : Attempt α :=
  match a with
  | some a => pure a
  | none => throw (.missingField stage field)

/-- `Procedure.locked` for attempts: the lock is released on success and on failure. -/
def locked (l : Lock) (a : Attempt α) : Attempt α := Procedure.locked l a.run

end Attempt

end TenantApps
