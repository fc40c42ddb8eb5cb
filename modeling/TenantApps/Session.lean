import TenantApps.Procedure

/-!
# `TenantApps.Session` — sequential execution

`Procedure.run` executes one procedure against a transport `exchange : T → Request → Outcome × T`.
`acquire` and `release` are no-ops, since a sequential run finds every lock free. The `Session`
threads the address cache and accumulates the requests and signals.

## Contents
- `Cache` with `get` and `set`.
- `Session` and `Procedure.run`.
-/

namespace TenantApps

/-- The discovery addresses fetched so far. -/
structure Cache where
  /-- The `token_endpoint`. -/
  token : Option String := none
  /-- The `jwks_uri`. -/
  keys : Option String := none
  deriving DecidableEq, Repr

namespace Cache

/-- The cached address of an endpoint. -/
def get (c : Cache) : Endpoint → Option String
  | .token => c.token
  | .keys => c.keys

/-- The cache with `address` stored for `e`. -/
def set (c : Cache) (e : Endpoint) (address : String) : Cache :=
  match e with
  | .token => { c with token := some address }
  | .keys => { c with keys := some address }

end Cache

/-- State of a sequential run over a transport `T`. -/
structure Session (T : Type) where
  transport : T
  cache : Cache := {}
  /-- The requests sent, oldest first. -/
  requests : List Http.Request := []
  /-- The signals emitted, oldest first. -/
  signals : List Telemetry.Signal := []

/-- Big-step execution of a procedure from a session. -/
def Procedure.run {T α : Type} (exchange : T → Http.Request → Http.Outcome × T) :
    Procedure α → Session T → α × Session T
  | .done a, s => (a, s)
  | .send _ r next, s =>
    let (o, t) := exchange s.transport r
    (next o).run exchange { s with transport := t, requests := s.requests ++ [r] }
  | .acquire _ next, s | .release _ next, s => next.run exchange s
  | .consult e next, s => (next (s.cache.get e)).run exchange s
  | .remember e address next, s => next.run exchange { s with cache := s.cache.set e address }
  | .emit signal next, s => next.run exchange { s with signals := s.signals ++ [signal] }

end TenantApps
