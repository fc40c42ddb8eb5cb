import TenantApps.Procedure

/-!
# `TenantApps.Proofs.Discipline` — typestate disciplines for `Procedure`

A `Discipline σ` is a transition relation over actions with a state `σ`: `allows` is the
precondition of an `Action`, `after` its effect. `Procedure.Follows D Q p s` says that `p`, started
in `s`, performs allowed actions only and ends with the postcondition `Q`. Outcomes and cached
addresses are quantified universally, so a `Follows` fact holds in every environment; `emit` has no
effect on the state.

## Contents
- `Action` and `Discipline`.
- `Procedure.Follows` with one law for each combinator (`bind`, `inSpan`, `locked`, `ask`).
- `Procedure.verdict?`, the result of a procedure that has only `emit` nodes.
- `Attempt.Steady`, attempts that leave the state as it is; `Discipline.FramesRequest`, `Ignores`
  and `FramesAddress` are the frame conditions for requests, locks and addresses that yield it.
-/

namespace TenantApps

/-- **Action**: one node of a `Procedure` as its environment sees it. -/
inductive Action
  /-- `Procedure.send`: the request `r` goes out at `stage`. -/
  | sends (stage : Stage) (r : Http.Request)
  /-- The reply to `sends`: the outcome `o` is handed to the continuation. -/
  | receives (stage : Stage) (o : Http.Outcome)
  /-- `Procedure.acquire`. -/
  | acquires (l : Lock)
  /-- `Procedure.release`. -/
  | releases (l : Lock)
  /-- `Procedure.consult`: the cache entry of `e` is read as `a`. -/
  | consults (e : Endpoint) (a : Option String)
  /-- `Procedure.remember`: `a` is stored for `e`. -/
  | remembers (e : Endpoint) (a : String)

/-- **Discipline**: a labelled transition relation over `Action` with states in `σ`. -/
structure Discipline (σ : Type) where
  /-- The precondition of an action. -/
  allows : Action → σ → Prop
  /-- The effect of an action: `after a s s'` if `a` may lead from `s` to `s'`. -/
  after : Action → σ → σ → Prop

namespace Procedure

variable {α β σ : Type} {D : Discipline σ}

/-- **`Follows`**: from `s`, every action of `p` is allowed in the state it is performed in, and
every final state satisfies the postcondition `Q`. -/
def Follows (D : Discipline σ) (Q : α → σ → Prop) : Procedure α → σ → Prop
  | done a, s => Q a s
  | send stage r next, s => D.allows (.sends stage r) s ∧ ∀ s', D.after (.sends stage r) s s' →
      ∀ o s'', D.after (.receives stage o) s' s'' → (next o).Follows D Q s''
  | acquire l next, s => D.allows (.acquires l) s ∧
      ∀ s', D.after (.acquires l) s s' → next.Follows D Q s'
  | release l next, s => D.allows (.releases l) s ∧
      ∀ s', D.after (.releases l) s s' → next.Follows D Q s'
  | consult e next, s => ∀ a, D.allows (.consults e a) s ∧
      ∀ s', D.after (.consults e a) s s' → (next a).Follows D Q s'
  | remember e a next, s => D.allows (.remembers e a) s ∧
      ∀ s', D.after (.remembers e a) s s' → next.Follows D Q s'
  | emit _ next, s => next.Follows D Q s

theorem Follows.mono {Q Q' : α → σ → Prop} {p : Procedure α} {s : σ} (hp : p.Follows D Q s)
    (h : ∀ a s, Q a s → Q' a s) : p.Follows D Q' s := by
  induction p generalizing s with
  | done a => exact h a s hp
  | send stage r next ih => exact ⟨hp.1, fun s' hs o s'' ho => ih o (hp.2 s' hs o s'' ho)⟩
  | acquire l next ih => exact ⟨hp.1, fun s' hs => ih (hp.2 s' hs)⟩
  | release l next ih => exact ⟨hp.1, fun s' hs => ih (hp.2 s' hs)⟩
  | consult e next ih => exact fun a => ⟨(hp a).1, fun s' hs => ih a ((hp a).2 s' hs)⟩
  | remember e a next ih => exact ⟨hp.1, fun s' hs => ih (hp.2 s' hs)⟩
  | emit s next ih => exact ih hp

/-- Sequencing rule: `Follows` composes along `Procedure.bind`. -/
theorem Follows.bind {Q : α → σ → Prop} {R : β → σ → Prop} {p : Procedure α}
    {f : α → Procedure β} {s : σ} (hp : p.Follows D Q s)
    (hf : ∀ a s, Q a s → (f a).Follows D R s) : (p.bind f).Follows D R s := by
  induction p generalizing s with
  | done a => exact hf a s hp
  | send stage r next ih => exact ⟨hp.1, fun s' hs o s'' ho => ih o (hp.2 s' hs o s'' ho)⟩
  | acquire l next ih => exact ⟨hp.1, fun s' hs => ih (hp.2 s' hs)⟩
  | release l next ih => exact ⟨hp.1, fun s' hs => ih (hp.2 s' hs)⟩
  | consult e next ih => exact fun a => ⟨(hp a).1, fun s' hs => ih a ((hp a).2 s' hs)⟩
  | remember e a next ih => exact ⟨hp.1, fun s' hs => ih (hp.2 s' hs)⟩
  | emit s next ih => exact ih hp

/-- `inSpan` only wraps `emit` nodes, so it preserves `Follows`. -/
theorem Follows.inSpan {Q : α → σ → Prop} {p : Procedure α} {s : σ} (span : Telemetry.Span)
    (hp : p.Follows D Q s) : (p.inSpan span).Follows D Q s := by
  induction p generalizing s with
  | done a => exact hp
  | send stage r next ih => exact ⟨hp.1, fun s' hs o s'' ho => ih o (hp.2 s' hs o s'' ho)⟩
  | acquire l next ih => exact ⟨hp.1, fun s' hs => ih (hp.2 s' hs)⟩
  | release l next ih => exact ⟨hp.1, fun s' hs => ih (hp.2 s' hs)⟩
  | consult e next ih => exact fun a => ⟨(hp a).1, fun s' hs => ih a ((hp a).2 s' hs)⟩
  | remember e a next ih => exact ⟨hp.1, fun s' hs => ih (hp.2 s' hs)⟩
  | emit x next ih => cases x <;> exact ih hp

theorem Follows.emitAll {Q : Unit → σ → Prop} {s : σ} (xs : List Telemetry.Signal)
    (h : Q () s) : (emitAll xs).Follows D Q s := by
  induction xs with
  | nil => exact h
  | cons x xs ih => exact ih

/-- Rule for `Procedure.locked`: the body runs between `acquires l` and `releases l`. -/
theorem Follows.locked {Q : α → σ → Prop} {p : Procedure α} {l : Lock} {s : σ}
    (ha : D.allows (.acquires l) s) (hp : ∀ s', D.after (.acquires l) s s' →
      p.Follows D (fun a s => D.allows (.releases l) s ∧
        ∀ s', D.after (.releases l) s s' → Q a s') s') : (p.locked l).Follows D Q s :=
  ⟨ha, fun s' hs => (hp s' hs).bind fun _ _ h => h⟩

/-! ## Procedures that only count and log -/

/-- The result of a procedure all of whose nodes are `emit`; `none` if there is another node. -/
def verdict? : Procedure α → Option α
  | done a => some a
  | emit _ next => next.verdict?
  | _ => none

theorem Follows.of_verdict? {Q : α → σ → Prop} {p : Procedure α} {a : α} {s : σ}
    (hp : p.verdict? = some a) (h : Q a s) : p.Follows D Q s := by
  induction p with
  | done b =>
    cases hp
    exact h
  | emit x next ih => exact ih hp
  | send stage r next | acquire l next | release l next | consult e next
  | remember e a next => cases hp

theorem verdict?_bind {p : Procedure α} {a : α} (hp : p.verdict? = some a) (f : α → Procedure β) :
    (p.bind f).verdict? = (f a).verdict? := by
  induction p with
  | done b =>
    cases hp
    rfl
  | emit x next ih => exact ih hp
  | send stage r next | acquire l next | release l next | consult e next
  | remember e a next => cases hp

end Procedure

/-! ## Attempts -/

namespace Attempt

open Procedure

variable {α β σ : Type} {D : Discipline σ}

theorem bind_eq (a : Attempt α) (f : α → Attempt β) :
    (a >>= f : Attempt β) = Procedure.bind a fun
      | .ok x => f x
      | .error e => .done (.error e) := by
  show Procedure.bind a (ExceptT.bindCont f) = _
  congr 1
  funext r
  cases r <;> rfl

theorem bind_assoc {γ : Type} (a : Attempt α) (f : α → Attempt β) (g : β → Attempt γ) :
    (a >>= f >>= g : Attempt γ) = a >>= fun x => f x >>= g := by
  rw [bind_eq, bind_eq, bind_eq, Procedure.bind_assoc]
  congr 1
  funext r
  cases r with
  | ok x => exact (bind_eq (f x) g).symm
  | error e => rfl

/-- Sequencing rule for `Attempt`: the continuation runs on `.ok`, an `.error` goes to `Q` directly.
-/
theorem follows_bind {Q : Except Error α → σ → Prop} {R : Except Error β → σ → Prop}
    {a : Attempt α} {f : α → Attempt β} {s : σ} (ha : Follows D Q a s)
    (hok : ∀ x s, Q (.ok x) s → Follows D R (f x) s)
    (herror : ∀ e s, Q (.error e) s → R (.error e) s) : Follows D R (a >>= f : Attempt β) s := by
  rw [bind_eq]
  apply ha.bind
  intro r s hr
  cases r with
  | ok x => exact hok x s hr
  | error e => exact herror e s hr

theorem follows_map {Q : Except Error α → σ → Prop} {R : Except Error β → σ → Prop}
    {a : Attempt α} {f : α → β} {s : σ} (ha : Follows D Q a s)
    (hok : ∀ x s, Q (.ok x) s → R (.ok (f x)) s)
    (herror : ∀ e s, Q (.error e) s → R (.error e) s) : Follows D R (f <$> a : Attempt β) s :=
  follows_bind (f := fun x => pure (f x)) ha hok herror

/-- Rule for `Attempt.ask`: the built request must be allowed, and every outcome must lead to a
state from which `read`, or the transport error, ends in `Q`. -/
theorem follows_ask {Q : Except Error α → σ → Prop} {stage : Stage}
    {request : Except ConfigError Http.Request} {read : Http.Response → Attempt α} {s : σ}
    (herror : ∀ e, request = .error e → Q (.error (.config e)) s)
    (hsend : ∀ r, request = .ok r → D.allows (.sends stage r) s)
    (hread : ∀ r, request = .ok r → ∀ s', D.after (.sends stage r) s s' → ∀ o s'',
      D.after (.receives stage o) s' s'' → match o with
        | .answered response => Follows D Q (read response) s''
        | .failed e => Q (.error (.transport stage e)) s''
        | .refused e => Q (.error (.config (.request e))) s'') :
    Follows D Q (Attempt.ask stage request read) s := by
  cases request with
  | error e => exact herror e rfl
  | ok r =>
    refine ⟨hsend r rfl, ?_⟩
    intro s' hs o s'' ho
    have h := hread r rfl s' hs o s'' ho
    cases o with
    | answered response => exact h
    | failed e => exact h
    | refused e => exact h

/-! ## `Steady` attempts and frame conditions -/

/-- `Steady D s a`: `a` follows `D` from `s` and ends in `s`. -/
def Steady (D : Discipline σ) (s : σ) (a : Attempt α) : Prop :=
  Follows D (fun _ s' => s' = s) a s

variable {s : σ}

theorem Steady.bind {a : Attempt α} {f : α → Attempt β} (ha : Steady D s a)
    (hf : ∀ x, Steady D s (f x)) : Steady D s (a >>= f) := by
  refine follows_bind ha ?_ fun e s' hs => hs
  intro x s' hs
  subst hs
  exact hf x

theorem Steady.map {a : Attempt α} (f : α → β) (ha : Steady D s a) : Steady D s (f <$> a) :=
  follows_map ha (fun _ _ h => h) fun _ _ h => h

theorem Steady.of_verdict? {a : Attempt α} {x : Except Error α} (h : verdict? a = some x) :
    Steady D s a :=
  Follows.of_verdict? h rfl

/-- A `Steady` prefix can be dropped from a `Follows` goal. -/
theorem Steady.follows_bind {Q : Except Error β → σ → Prop} {a : Attempt α} {f : α → Attempt β}
    (ha : Steady D s a) (hf : ∀ x, Follows D Q (f x) s) (he : ∀ e, Q (.error e) s) :
    Follows D Q (a >>= f : Attempt β) s := by
  refine Attempt.follows_bind ha (fun x s' hs => ?_) fun e s' hs => ?_ <;> subst hs
  · exact hf x
  · exact he e

theorem Steady.mono {Q : Except Error α → σ → Prop} {a : Attempt α} (ha : Steady D s a)
    (hQ : ∀ x, Q x s) : Follows D Q a s :=
  Follows.mono ha fun x _ hs => hs ▸ hQ x

end Attempt

/-- **Frame condition for a request**: `D` allows it in `s`, and neither the request nor its outcome
changes the state. -/
structure Discipline.FramesRequest {σ : Type} (D : Discipline σ) (s : σ) (stage : Stage)
    (r : Http.Request) : Prop where
  allows : D.allows (.sends stage r) s
  sends : ∀ s', D.after (.sends stage r) s s' → s' = s
  receives : ∀ o s', D.after (.receives stage o) s s' → s' = s

/-- **Frame condition for a lock**: acquiring and releasing `l` is allowed in `s` and changes
nothing. -/
structure Discipline.Ignores {σ : Type} (D : Discipline σ) (s : σ) (l : Lock) : Prop where
  acquire : D.allows (.acquires l) s
  release : D.allows (.releases l) s
  acquires : ∀ s', D.after (.acquires l) s s' → s' = s
  releases : ∀ s', D.after (.releases l) s s' → s' = s

/-- **Frame condition for an address**: reading and storing the entry of `e` is allowed in `s` and
changes nothing. -/
structure Discipline.FramesAddress {σ : Type} (D : Discipline σ) (s : σ) (e : Endpoint) : Prop where
  consult : ∀ a, D.allows (.consults e a) s
  remember : ∀ a, D.allows (.remembers e a) s
  consults : ∀ a s', D.after (.consults e a) s s' → s' = s
  remembers : ∀ a s', D.after (.remembers e a) s s' → s' = s

namespace Attempt

variable {α σ : Type} {D : Discipline σ} {s : σ}

/-- `Attempt.ask` is `Steady` if `D` frames its request and `read` has only `emit` nodes. -/
theorem Steady.ask {stage : Stage} {request : Except ConfigError Http.Request}
    {read : Http.Response → Attempt α} {verdict : Http.Response → Except Error α}
    (hs : ∀ r, request = .ok r → D.FramesRequest s stage r)
    (h : ∀ r, Procedure.verdict? (read r) = some (verdict r)) :
    Steady D s (.ask stage request read) := by
  apply follows_ask (fun _ _ => rfl) (fun r hr => (hs r hr).allows)
  intro r hr _ hs' o s'' ho
  obtain rfl := (hs r hr).sends _ hs'
  obtain rfl := (hs r hr).receives o s'' ho
  cases o with
  | answered response => exact Steady.of_verdict? (h response)
  | failed e => rfl
  | refused e => rfl

/-- `Attempt.locked l` is `Steady` if `D` ignores `l` and the body is `Steady`. -/
theorem Steady.locked {a : Attempt α} {l : Lock} (hl : D.Ignores s l) (ha : Steady D s a) :
    Steady D s (.locked l a) := by
  apply Procedure.Follows.locked hl.acquire
  intro s' hs'
  obtain rfl := hl.acquires s' hs'
  exact ha.mono fun x => ⟨hl.release, hl.releases⟩

end Attempt

end TenantApps
