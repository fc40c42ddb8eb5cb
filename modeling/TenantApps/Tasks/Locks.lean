import TenantApps.Procedure

/-!
# `TenantApps.Tasks.Locks` — FIFO mutexes and the guard table

A `Mutex` has a holder and a FIFO queue; releasing it hands it to the head of the queue. The two
address mutexes are `mutexes[0]` and `mutexes[1]`. The guard of a name is created on demand and
listed in `guards`. Its `references` count the table, the holder and the waiters; when only the
table is left, `evict` removes the entry. Mutexes are never deleted from `mutexes`, so an evicted
one keeps its index.

## Contents
- `Mutex` and `Locks`.
- Reference counts: `Locks.refer`, `Locks.forget`, `Locks.evict`.
- One mutex: `Locks.lock`, `Locks.unlock`.
- The operations of the machine: `Locks.acquire`, `Locks.release`, `Locks.withdraw`.
-/

namespace TenantApps

/-- Index into `Machine.tasks`. -/
abbrev TaskId := Nat

/-- Index into `Locks.mutexes`. -/
abbrev MutexId := Nat

/-- A mutex with its FIFO queue. -/
structure Mutex where
  /-- The task that holds it. -/
  holder : Option TaskId := none
  /-- The queue, longest waiting first. -/
  waiters : List TaskId := []
  /-- Reference count of a name guard: table entry, holder and waiters. -/
  references : Nat := 1
  deriving DecidableEq, Repr

/-- All mutexes of a client. -/
structure Locks where
  /-- Every mutex ever created, the two address mutexes first. -/
  mutexes : List Mutex := [{}, {}]
  /-- The guard table. -/
  guards : List (ApplicationName × MutexId) := []
  deriving DecidableEq, Repr

/-- Index of an address mutex. -/
def Endpoint.mutex : Endpoint → MutexId
  | .token => 0
  | .keys => 1

namespace Locks

/-- The table entry of a name. -/
def guard? (ls : Locks) (n : ApplicationName) : Option MutexId :=
  (ls.guards.find? (·.1 = n)).map (·.2)

/-- The mutex that a lock denotes at present. -/
def mutex? (ls : Locks) : Lock → Option MutexId
  | .name n => ls.guard? n
  | .endpoint e => some e.mutex

/-- Updates mutex `k`. -/
def modify (ls : Locks) (k : MutexId) (f : Mutex → Mutex) : Locks :=
  { ls with mutexes := ls.mutexes.modify k f }

/-! ## References -/

/-- Adds a reference to the mutex of a lock; a missing guard is created and entered in the table. -/
def refer (ls : Locks) : Lock → MutexId × Locks
  | .endpoint e => (e.mutex, ls)
  | .name n =>
    match ls.guard? n with
    | some k => (k, ls.modify k fun x => { x with references := x.references + 1 })
    | none =>
      let k := ls.mutexes.length
      (k, ⟨ls.mutexes ++ [{ references := 2 }], (n, k) :: ls.guards⟩)

/-- Removes the table entry of `n` if the table holds the only reference. -/
def evict (ls : Locks) (n : ApplicationName) : Locks :=
  match ls.guard? n with
  | some k =>
    if (ls.mutexes[k]?).any (·.references = 1) then
      { ls with guards := ls.guards.filter (·.1 ≠ n) }
    else ls
  | none => ls

/-- Drops a reference to mutex `k` of a lock, and evicts it if that was the last user. -/
def forget (ls : Locks) : Lock → MutexId → Locks
  | .endpoint _, _ => ls
  | .name n, k => (ls.modify k fun x => { x with references := x.references - 1 }).evict n

/-! ## One mutex -/

/-- Task `i` acquires mutex `k` if it is free and is queued otherwise. The flag tells which. -/
def lock (ls : Locks) (k : MutexId) (i : TaskId) : Bool × Locks :=
  match (ls.mutexes[k]?).bind Mutex.holder with
  | none => (true, ls.modify k fun x => { x with holder := some i })
  | some _ => (false, ls.modify k fun x => { x with waiters := x.waiters ++ [i] })

/-- Releases mutex `k` and hands it to the head of its queue, which is returned. -/
def unlock (ls : Locks) (k : MutexId) : Option TaskId × Locks :=
  match (ls.mutexes[k]?).map Mutex.waiters with
  | some (j :: rest) => (some j, ls.modify k fun x => { x with holder := some j, waiters := rest })
  | _ => (none, ls.modify k fun x => { x with holder := none })

/-! ## Locks -/

/-- `refer` and `lock`: the mutex used and whether it was acquired at once. -/
def acquire (ls : Locks) (l : Lock) (i : TaskId) : MutexId × Bool × Locks :=
  let (k, ls) := ls.refer l
  let (taken, ls) := ls.lock k i
  (k, taken, ls)

/-- `unlock` and `forget`: the task that the lock was handed to. -/
def release (ls : Locks) (l : Lock) (k : MutexId) : Option TaskId × Locks :=
  let (next, ls) := ls.unlock k
  (next, ls.forget l k)

/-- Removes task `i` from the queue of mutex `k`, with its reference. -/
def withdraw (ls : Locks) (l : Lock) (k : MutexId) (i : TaskId) : Locks :=
  (ls.modify k fun x => { x with waiters := x.waiters.filter (· ≠ i) }).forget l k

end Locks

end TenantApps
