import TenantApps.Name
import TenantApps.Stage
import TenantApps.Uuid

/-!
# `TenantApps.Telemetry` — counters, spans, log events

Every operation increments `Count.total` with its attempt and its outcome, a failed one also
`Count.failure` with the failed stage, and opens one `Span` in which its `Event`s are logged.

## Contents
- `Operation` and `Result` with their labels.
- `Count` with metric name and labels.
- `Span`, `Change` and `Event` with their fields, levels and messages.
- `Signal`, the union emitted by `Procedure.emit`; `counts` and `Count.ofEnd`.
-/

namespace TenantApps

/-- The operations that are counted and traced. -/
inductive Operation
  | createApplication
  | deleteApplication
  deriving DecidableEq, Repr

/-- The value of the `operation` label. -/
def Operation.label : Operation → String
  | createApplication => "create_application"
  | deleteApplication => "delete_application"

namespace Telemetry

/-- The value of the `outcome` label. -/
inductive Result
  | attempt
  | success
  | failure
  deriving DecidableEq, Repr

/-- The text of an outcome. -/
def Result.label : Result → String
  | attempt => "attempt"
  | success => "success"
  | failure => "failure"

/-- An increment of one counter by one. -/
inductive Count
  /-- Operations by outcome. -/
  | total (op : Operation) (r : Result)
  /-- Failed operations by stage; `none` stands for a local failure. -/
  | failure (op : Operation) (stage : Option Stage)
  deriving DecidableEq, Repr

namespace Count

/-- The metric name. -/
def name : Count → String
  | total .. => "ias_provisioner_operation_total"
  | failure .. => "ias_provisioner_operation_failure_total"

/-- The `stage` label of a failure without a stage. -/
def localStage : String := "local"

/-- The label pairs, in order. -/
def labels : Count → List (String × String)
  | total op r => [("operation", op.label), ("outcome", r.label)]
  | failure op stage =>
    [("operation", op.label), ("stage", (stage.map Stage.label).getD localStage)]

end Count

/-- The span opened by an operation. -/
structure Span where
  operation : Operation
  /-- The name argument as given, before validation. -/
  name : String
  deriving DecidableEq, Repr

namespace Span

/-- The span name. -/
def title : String := "ias_provisioner.operation"

/-- The recorded fields, in order. -/
def fields (s : Span) : List (String × String) :=
  [("operation", s.operation.label), ("name", s.name)]

end Span

/-- A change of the tenant's state that is logged. -/
inductive Change
  | deletedExisting
  | created
  | deleted
  deriving DecidableEq, Repr

/-- The message of a change. -/
def Change.message : Change → String
  | deletedExisting => "Deleted existing application."
  | created => "Created application."
  | deleted => "Deleted application."

/-- A log event. -/
inductive Event
  /-- A response whose status the stage does not accept. -/
  | rejected (stage : Stage) (status : Nat)
  /-- A change of an application. -/
  | changed (c : Change) (name : ApplicationName) (id : Uuid)
  deriving DecidableEq, Repr

namespace Event

/-- The severity. -/
def level : Event → String
  | rejected .. => "WARN"
  | changed .. => "INFO"

/-- The message text. -/
def message : Event → String
  | rejected stage _ => stage.description ++ "."
  | changed c _ _ => c.message

end Event

/-- What `Procedure.emit` emits. -/
inductive Signal
  /-- A counter increment. -/
  | counted (c : Count)
  /-- A span is opened. -/
  | opened (s : Span)
  /-- An event, inside `span` if there is one. -/
  | logged (e : Event) (span : Option Span)
  deriving DecidableEq, Repr

/-- The counter increments among signals. -/
def counts (signals : List Signal) : List Count :=
  signals.filterMap fun
    | .counted c => some c
    | _ => none

/-- The increments at the end of an operation: `none` for success, `some stage` for a failure of
that stage. -/
def Count.ofEnd (op : Operation) : Option (Option Stage) → List Count
  | none => [.total op .success]
  | some stage => [.total op .failure, .failure op stage]

end Telemetry

end TenantApps
