import TenantApps.Session
import TenantApps.Tasks.Locks

/-!
# `TenantApps.Tasks.Machine` — interleaved execution

Small-step semantics of many procedures on one client. An `Event` starts a task, answers its request
or drops it; `Machine.step` applies the event and then runs every ready task until it suspends or
ends, the task started first going first. Between two steps no task is ready.

## Contents
- `Status` and `Task`.
- `Entry` and `Report`, the trace of a step.
- `Machine`, `Machine.act` (one action), `Machine.run` (one turn) and `Machine.settle` (all turns).
- `Machine.Event` and `Machine.step`.
-/

namespace TenantApps

/-- The state of a task. -/
inductive Status (α : Type)
  /-- Runnable, with `p` left to execute. -/
  | ready (p : Procedure α)
  /-- Suspended on its request of `stage`. -/
  | awaitingAnswer (stage : Stage) (next : Http.Outcome → Procedure α)
  /-- Queued on mutex `k` of lock `l`. -/
  | awaitingLock (l : Lock) (k : MutexId) (next : Procedure α)
  /-- Ended with a result. -/
  | finished
  /-- Cancelled. -/
  | dropped

/-- The continuation of a ready task. -/
def Status.ready? {α : Type} : Status α → Option (Procedure α)
  | .ready p => some p
  | _ => none

/-- Whether the task has ended or was cancelled. -/
def Status.isOver {α : Type} : Status α → Bool
  | .finished | .dropped => true
  | _ => false

/-- A task with the locks it holds. -/
structure Task (α : Type) where
  status : Status α
  /-- The locks held, each with its mutex, last acquired first. -/
  held : List (Lock × MutexId) := []

/-- The task after the mutex it was queued on has been handed to it. -/
def Task.granted {α : Type} (t : Task α) : Task α :=
  match t.status with
  | .awaitingLock l k next => ⟨.ready next, (l, k) :: t.held⟩
  | _ => t

/-- An entry of the trace of a step. -/
inductive Entry (α : Type)
  /-- Request sent in `stage`. -/
  | sent (i : TaskId) (stage : Stage) (r : Http.Request)
  /-- Request of `stage` answered. -/
  | answered (i : TaskId) (stage : Stage) (o : Http.Outcome)
  /-- Signal emitted. -/
  | signalled (i : TaskId) (s : Telemetry.Signal)
  /-- Task ended with its result. -/
  | ended (i : TaskId) (a : α)

/-- The trace of one step. -/
structure Report (α : Type) where
  /-- The entries, oldest first. -/
  entries : List (Entry α) := []

namespace Report

variable {α : Type} (r : Report α)

/-- The requests sent, with their tasks. -/
def requests : List (TaskId × Http.Request) :=
  r.entries.filterMap fun
    | .sent i _ r => some (i, r)
    | _ => none

/-- The results, with their tasks. -/
def results : List (TaskId × α) :=
  r.entries.filterMap fun
    | .ended i a => some (i, a)
    | _ => none

/-- The signals emitted. -/
def signals : List Telemetry.Signal :=
  r.entries.filterMap fun
    | .signalled _ s => some s
    | _ => none

end Report

/-- The state of a client with its tasks. -/
structure Machine (α : Type) where
  /-- All tasks by `TaskId`, in the order they were started. -/
  tasks : List (Task α) := []
  locks : Locks := {}
  cache : Cache := {}
  /-- The trace since the last event. -/
  report : Report α := {}

namespace Machine

variable {α : Type}

/-- The status of task `i`. -/
def status? (m : Machine α) (i : TaskId) : Option (Status α) := (m.tasks[i]?).map Task.status

/-- Updates task `i`. -/
def modify (m : Machine α) (i : TaskId) (f : Task α → Task α) : Machine α :=
  { m with tasks := m.tasks.modify i f }

/-- Sets the status of task `i`. -/
def setStatus (m : Machine α) (i : TaskId) (s : Status α) : Machine α :=
  m.modify i fun t => { t with status := s }

/-- Appends an entry to the trace. -/
def note (m : Machine α) (x : Entry α) : Machine α :=
  { m with report.entries := m.report.entries ++ [x] }

/-! ## Locks -/

/-- Releases a held lock of task `i`; a task that it is handed to becomes ready. -/
def giveBack (m : Machine α) (i : TaskId) (h : Lock × MutexId) : Machine α :=
  let (next, locks) := m.locks.release h.1 h.2
  let m := { m with locks := locks }.modify i fun t => { t with held := t.held.erase h }
  match next with
  | some j => m.modify j Task.granted
  | none => m

/-- Releases lock `l` of task `i`, if it holds it. -/
def release (m : Machine α) (i : TaskId) (l : Lock) : Machine α :=
  match (m.tasks[i]?).bind fun t => t.held.find? (·.1 = l) with
  | some h => m.giveBack i h
  | none => m

/-- Task `i` acquires `l` and goes on with `next`, or is queued. -/
def take (m : Machine α) (i : TaskId) (l : Lock) (next : Procedure α) : Machine α :=
  let (k, taken, locks) := m.locks.acquire l i
  { m with locks := locks }.modify i fun t =>
    if taken then ⟨.ready next, (l, k) :: t.held⟩ else { t with status := .awaitingLock l k next }

/-! ## Turns -/

/-- One action of task `i`, whose continuation is `p`. -/
def act (m : Machine α) (i : TaskId) (p : Procedure α) : Machine α :=
  match p with
  | .done a => (m.setStatus i .finished).note (.ended i a)
  | .send stage r next => (m.setStatus i (.awaitingAnswer stage next)).note (.sent i stage r)
  | .acquire l next => m.take i l next
  | .release l next => (m.release i l).setStatus i (.ready next)
  | .consult e next => m.setStatus i (.ready (next (m.cache.get e)))
  | .remember e address next =>
    { m with cache := m.cache.set e address }.setStatus i (.ready next)
  | .emit s next => (m.setStatus i (.ready next)).note (.signalled i s)

/-- Whether task `i` is ready. -/
def isReady (m : Machine α) (i : TaskId) : Bool := ((m.status? i).bind Status.ready?).isSome

/-- One turn of task `i`: actions of `p` until it suspends or ends. -/
def run (i : TaskId) : Procedure α → Machine α → Machine α
  | .done a, m => m.act i (.done a)
  | .send stage r next, m => m.act i (.send stage r next)
  | .acquire l next, m =>
    let m := m.act i (.acquire l next)
    if m.isReady i then run i next m else m
  | .release l next, m => run i next (m.act i (.release l next))
  | .consult e next, m => run i (next (m.cache.get e)) (m.act i (.consult e next))
  | .remember e address next, m => run i next (m.act i (.remember e address next))
  | .emit s next, m => run i next (m.act i (.emit s next))

/-- The ready task started first, with its continuation. -/
def nextReady? (m : Machine α) : Option (TaskId × Procedure α) :=
  (m.tasks.zipIdx.findSome? fun (t, i) => t.status.ready?.map (i, ·))

/-- Runs ready tasks until none is left, at most `turns` turns. -/
def settle : Nat → Machine α → Machine α
  | 0, m => m
  | turns + 1, m =>
    match m.nextReady? with
    | some (i, p) => settle turns (run i p m)
    | none => m

/-- Fuel for `settle`: a task becomes ready by the event or by a lock handed to it, and it acquires
at most three. -/
def turns (m : Machine α) : Nat := 4 * m.tasks.length

/-! ## Events -/

/-- An input of the machine. -/
inductive Event (α : Type)
  /-- Start a task. -/
  | start (p : Procedure α)
  /-- Answer the request of task `i`. -/
  | answer (i : TaskId) (o : Http.Outcome)
  /-- Cancel task `i`. -/
  | drop (i : TaskId)

/-- Marks task `i` as dropped and takes it off the queue it was in. -/
def leave (m : Machine α) (i : TaskId) (s : Status α) : Machine α :=
  let m := m.setStatus i .dropped
  match s with
  | .awaitingLock l k _ => { m with locks := m.locks.withdraw l k i }
  | _ => m

/-- Cancels task `i`: `leave`, then release of every lock it holds. -/
def cancel (m : Machine α) (i : TaskId) (t : Task α) : Machine α :=
  t.held.foldl (fun m h => m.giveBack i h) (m.leave i t.status)

/-- The immediate effect of an event; `none` if it does not apply to the task's status. -/
def accept? (m : Machine α) : Event α → Option (Machine α)
  | .start p => some { m with tasks := m.tasks ++ [⟨.ready p, []⟩] }
  | .answer i o =>
    match m.status? i with
    | some (.awaitingAnswer stage next) =>
      some ((m.setStatus i (.ready (next o))).note (.answered i stage o))
    | _ => none
  | .drop i =>
    match m.tasks[i]? with
    | some t => if t.status.isOver then none else some (m.cancel i t)
    | none => none

/-- One step: the effect of the event, then `settle`. The flag is `true` for an event that does not
apply, which changes nothing. -/
def step (m : Machine α) (e : Event α) : Bool × Machine α :=
  let m := { m with report := {} }
  match m.accept? e with
  | some m => (false, m.settle m.turns)
  | none => (true, m)

/-! ## Views -/

/-- The tasks whose status satisfies `p`. -/
def tasksThat (m : Machine α) (p : Status α → Bool) : List TaskId :=
  (m.tasks.zipIdx.filter fun (t, _) => p t.status).map (·.2)

/-- The tasks suspended on a request. -/
def waiting (m : Machine α) : List TaskId :=
  m.tasksThat fun
    | .awaitingAnswer .. => true
    | _ => false

/-- The tasks queued on a lock. -/
def blocked (m : Machine α) : List TaskId :=
  m.tasksThat fun
    | .awaitingLock .. | .ready _ => true
    | _ => false

end Machine

end TenantApps
