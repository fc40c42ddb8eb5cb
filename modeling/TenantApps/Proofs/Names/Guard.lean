import TenantApps.Proofs.Tenant.Operations

/-!
# `TenantApps.Proofs.Names.Guard` — the typestate of a name guard

With `serializeByName`, an operation on a name acquires `Lock.name n` once, does everything that has
an effect inside the critical section, and releases it last. The other calls acquire no `Lock.name`.

## Contents
- `GuardPhase` and the discipline `guarded`.
- `Client.guard?`, the name whose guard a call acquires.
- `Client.answer_guarded`, **every call follows the discipline**.
-/

namespace TenantApps

open Attempt Procedure

/-- **Phases** of a procedure with respect to its guard. -/
inductive GuardPhase
  /-- Before `acquires (.name n)`. -/
  | outside
  /-- In the critical section. -/
  | inside
  /-- After `releases (.name n)`. -/
  | past
  deriving DecidableEq

/-- **Discipline `guarded guard`**: with `some n`, `Lock.name n` is acquired once and every other
action is inside; with `none`, no `Lock.name` is acquired. -/
def guarded (guard : Option ApplicationName) : Discipline GuardPhase where
  allows
    | .acquires (.name n), s => guard = some n ∧ s = .outside
    | .releases (.name n), s => guard = some n ∧ s = .inside
    | _, s => guard.isSome → s = .inside
  after
    | .acquires (.name _), _, s' => s' = .inside
    | .releases (.name _), _, s' => s' = .past
    | _, s, s' => s' = s

section

variable {guard : Option ApplicationName} {s : GuardPhase}

theorem guarded_framesRequest (hs : guard.isSome → s = .inside) (stage : Stage) (r : Http.Request) :
    (guarded guard).FramesRequest s stage r :=
  ⟨hs, fun _ h => h, fun _ _ h => h⟩

theorem guarded_ignores (hs : guard.isSome → s = .inside) (e : Endpoint) :
    (guarded guard).Ignores s (.endpoint e) :=
  ⟨hs, hs, fun _ h => h, fun _ h => h⟩

theorem guarded_framesAddress (hs : guard.isSome → s = .inside) (e : Endpoint) :
    (guarded guard).FramesAddress s e :=
  ⟨fun _ => hs, fun _ => hs, fun _ _ h => h, fun _ _ h => h⟩

/-- `Discovery.address` is `Steady` inside the guard. -/
theorem steady_address_guarded (d : Discovery) (e : Endpoint) (hs : guard.isSome → s = .inside) :
    Steady (guarded guard) s (d.address e) :=
  d.steady_address (guarded_ignores hs e) (guarded_framesAddress hs e)
    fun r _ => guarded_framesRequest hs _ r

/-- `Client.recreate` is `Steady` inside the guard. -/
theorem Client.steady_recreate (c : Client) (name : ApplicationName)
    (hs : guard.isSome → s = .inside) : Steady (guarded guard) s (c.recreate name) := by
  refine c.follows_recreate name (fun stage r _ => guarded_framesRequest hs stage r) ?_ fun _ => rfl
  intro id secret clientId
  apply Steady.bind (steady_address_guarded c.discovery .token hs)
  intro tokenUrl
  apply Steady.bind (steady_address_guarded c.discovery .keys hs)
  intro jwksUri
  exact Steady.of_verdict? rfl

end

/-! ## Calls -/

theorem ApplicationName.text_of_toOption {s : String} {n : ApplicationName}
    (h : (check s).toOption = some n) : n.text = s :=
  text_of_check (except_toOption_eq_some.mp h)

/-- The name of a call; `none` if it has no text or its text is no name. -/
def Call.name? : Call → Option ApplicationName
  | create s | delete s => (ApplicationName.check s).toOption
  | tokenUrl | jwksUri | credentials | settings => none

namespace Client

variable (c : Client)

/-- The name whose guard a call acquires; `none` without `serializeByName`. -/
def guard? (call : Call) : Option ApplicationName :=
  if c.settings.serializeByName then call.name? else none

/-- `Client.serialized` runs a `Steady` attempt in the critical section of its name. -/
theorem serialized_guarded {α : Type} {a : Attempt α} {name : ApplicationName}
    (ha : ∀ guard s, (guard.isSome → s = .inside) → Steady (guarded guard) s a) :
    Follows (guarded (if c.settings.serializeByName then some name else none))
      (fun _ s => s ≠ .inside) (c.serialized name a) .outside := by
  unfold serialized
  split
  · -- the guard is passed on the way in, and it is left at the end
    refine Follows.locked ⟨rfl, rfl⟩ ?_
    intro s hs
    obtain rfl : s = .inside := hs
    apply (ha (some name) .inside fun _ => rfl).mono
    intro x
    refine ⟨⟨rfl, rfl⟩, ?_⟩
    intro s' hs'
    obtain rfl : s' = .past := hs'
    nofun
  · exact (ha none .outside nofun).mono fun x => nofun

theorem onName_guarded {α : Type} {f : ApplicationName → Attempt α} (text : String)
    (hf : ∀ name guard s, (guard.isSome → s = .inside) → Steady (guarded guard) s (f name)) :
    Follows (guarded (if c.settings.serializeByName then (ApplicationName.check text).toOption
      else none)) (fun _ s => s ≠ .inside) (c.onName text f) .outside := by
  unfold onName
  cases ApplicationName.check text with
  | ok name => exact c.serialized_guarded (hf name)
  | error e =>
    -- a text that is no name has no guard, and nothing is done with it
    exact Follows.of_verdict? (a := .error (.config (.name e))) rfl nofun

/-- **Every call follows `guarded`**, from `outside`, and does not end `inside`. -/
theorem answer_guarded (call : Call) :
    Follows (guarded (c.guard? call)) (fun _ s => s ≠ .inside) (c.answer call) .outside := by
  have outside {a : Attempt Answer} {call : Call} (hn : call.name? = none)
      (ha : Steady (guarded none) .outside a) :
      Follows (guarded (c.guard? call)) (fun _ s => s ≠ .inside) a .outside := by
    rw [guard?, hn, ite_self]
    exact ha.mono fun x => nofun
  cases call with
  | create text =>
    refine follows_map (Q := fun _ s => s ≠ .inside) (follows_observed _ _ ?_)
      (fun _ _ h => h) fun _ _ h => h
    exact c.onName_guarded text fun name guard s hs => c.steady_recreate name hs
  | delete text =>
    refine follows_map (Q := fun _ s => s ≠ .inside) (follows_observed _ _ ?_)
      (fun _ _ h => h) fun _ _ h => h
    exact c.onName_guarded text fun name guard s hs =>
      c.steady_clear .deleted name (fun r _ => guarded_framesRequest hs .lookupApplications r)
        fun _ r _ => guarded_framesRequest hs .deleteApplication r
  | tokenUrl =>
    have h : Steady (guarded none) .outside (c.discovery.address .token) :=
      steady_address_guarded _ _ nofun
    exact outside rfl (h.map Answer.address)
  | jwksUri =>
    have h : Steady (guarded none) .outside (c.discovery.address .keys) :=
      steady_address_guarded _ _ nofun
    exact outside rfl (h.map Answer.address)
  | credentials => exact outside rfl (Steady.of_verdict? (x := .ok (.credentials _)) rfl)
  | settings => exact outside rfl (Steady.of_verdict? (x := .ok (.settings _)) rfl)

end Client

end TenantApps
