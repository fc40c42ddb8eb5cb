import TenantApps.Proofs.Tenant.Operations

/-!
# `TenantApps.Proofs.Addresses.LookupState` — the typestate of an address look-up

Every `Client.answer` resolves an endpoint `e` at most once, inside the critical section of
`Lock.endpoint e`: it consults the cache, sends `Discovery.request` on a miss only, and remembers
only what that response contained. `lookingUp e request` states this as a `Discipline` over
`LookupState`; other stages, other locks and the other endpoint satisfy its frame conditions outside
of the section.

## Contents
- `Usable`, the address that an outcome yields.
- `Phase`, `LookupState` and the discipline `lookingUp`.
- `Call.Yields`, the address that the result of a call yields.
- `Client.answer_lookingUp`, **every call follows the discipline**.
-/

namespace TenantApps

open Attempt Procedure

/-- `Usable e o a`: `o` is a 200 response whose discovery document has the address `a` for `e`. -/
def Usable (e : Endpoint) (o : Http.Outcome) (a : String) : Prop :=
  ∃ response doc, o = .answered response ∧ response.status = 200 ∧
    Json.decodeFirst DiscoveryDocument.decoder response.body = .ok doc ∧ e.pick doc = some a

/-- **Phases** of one look-up, in order. -/
inductive Phase
  /-- Before `acquires (.endpoint e)`. -/
  | before
  /-- In the critical section; the cache was not read yet. -/
  | entered
  /-- The cache was read and is empty. -/
  | missing
  /-- The request is out. -/
  | asking
  /-- The reply `o` is there. -/
  | received (o : Http.Outcome)
  /-- An address is known and remembered. -/
  | settled
  /-- After `releases (.endpoint e)`. -/
  | past

/-- The phases in which `Lock.endpoint e` is held. -/
def Phase.isInside : Phase → Prop
  | before | past => False
  | entered | missing | asking | received _ | settled => True

/-- **State of `lookingUp`**: the phase, and the addresses found so far. -/
structure LookupState where
  phase : Phase
  found : List String

/-- **Look-up discipline** for `e`. `Lock.endpoint e` is acquired once; `request` is sent in
`missing` only; `remembers e a` needs a reply that is `Usable e _ a`; the lock is released when an
address is known, after an unusable reply, or if `request` is an error. -/
def lookingUp (e : Endpoint) (request : Except ConfigError Http.Request) :
    Discipline LookupState where
  allows
    | .sends stage r, s =>
      if stage = Discovery.stage e then s.phase = .missing ∧ request = .ok r else ¬s.phase.isInside
    | .receives _ _, _ => True
    | .acquires l, s => if l = .endpoint e then s.phase = .before else ¬s.phase.isInside
    | .releases l, s =>
      if l = .endpoint e then
        s.phase = .settled ∨ (∃ o, s.phase = .received o ∧ ∀ a, ¬Usable e o a) ∨
          s.phase = .missing ∧ ∃ error, request = .error error
      else ¬s.phase.isInside
    | .consults e' _, s => if e' = e then s.phase = .entered else ¬s.phase.isInside
    | .remembers e' a, s =>
      if e' = e then ∃ o, s.phase = .received o ∧ Usable e o a else ¬s.phase.isInside
  after
    | .sends stage _, s, s' => s' = if stage = Discovery.stage e then ⟨.asking, s.found⟩ else s
    | .receives stage o, s, s' =>
      s' = if stage = Discovery.stage e then ⟨.received o, s.found⟩ else s
    | .acquires l, s, s' => s' = if l = .endpoint e then ⟨.entered, s.found⟩ else s
    | .releases l, s, s' => s' = if l = .endpoint e then ⟨.past, s.found⟩ else s
    | .consults e' known, s, s' => s' = if e' = e then
        match known with
        | some a => ⟨.settled, a :: s.found⟩
        | none => ⟨.missing, s.found⟩
      else s
    | .remembers e' a, s, s' => s' = if e' = e then ⟨.settled, a :: s.found⟩ else s

section

variable {e e' : Endpoint} {request : Except ConfigError Http.Request} {s : LookupState}

theorem stage_inj : Discovery.stage e = Discovery.stage e' ↔ e = e' := by
  cases e <;> cases e' <;> decide

/-- Outside the critical section, requests of other stages are framed. -/
theorem lookingUp_framesRequest (hs : ¬s.phase.isInside) {stage : Stage}
    (h : stage ≠ Discovery.stage e) (r : Http.Request) :
    (lookingUp e request).FramesRequest s stage r :=
  ⟨by simpa only [lookingUp, if_neg h] using hs,
    fun _ h' => by simpa only [lookingUp, if_neg h] using h',
    fun _ _ h' => by simpa only [lookingUp, if_neg h] using h'⟩

/-- Frame: outside the critical section, other locks are ignored. -/
theorem lookingUp_ignores (hs : ¬s.phase.isInside) {l : Lock} (h : l ≠ .endpoint e) :
    (lookingUp e request).Ignores s l :=
  ⟨by simpa only [lookingUp, if_neg h] using hs, by simpa only [lookingUp, if_neg h] using hs,
    fun _ h' => by simpa only [lookingUp, if_neg h] using h',
    fun _ h' => by simpa only [lookingUp, if_neg h] using h'⟩

/-- Frame: outside the critical section, the cache entry of another endpoint is overlooked. -/
theorem lookingUp_framesAddress (hs : ¬s.phase.isInside) (h : e' ≠ e) :
    (lookingUp e request).FramesAddress s e' :=
  ⟨fun _ => by simpa only [lookingUp, if_neg h] using hs,
    fun _ => by simpa only [lookingUp, if_neg h] using hs,
    fun _ _ h' => by simpa only [lookingUp, if_neg h] using h',
    fun _ _ h' => by simpa only [lookingUp, if_neg h] using h'⟩

end

/-! ## `Discovery.resolve` and `Discovery.address` -/

namespace Discovery

variable (d : Discovery) {e e' : Endpoint} {s : LookupState}

/-- Postcondition of `Discovery.resolve`: the section is left, and a returned address is in
`found`. -/
def Looked (r : Except Error (Option String)) (s : LookupState) : Prop :=
  s.phase = .past ∧ ∀ a, r = .ok (some a) → a ∈ s.found

/-- State just before `releases (.endpoint e)`, from which `Looked` follows. -/
def Closing (e : Endpoint) (request : Except ConfigError Http.Request)
    (r : Except Error (Option String)) (s : LookupState) : Prop :=
  (lookingUp e request).allows (.releases (.endpoint e)) s ∧
    ∀ s', (lookingUp e request).after (.releases (.endpoint e)) s s' → Looked r s'

theorem closing_iff {e : Endpoint} {request : Except ConfigError Http.Request}
    {r : Except Error (Option String)} : Closing e request r s ↔
      (s.phase = .settled ∨ (∃ o, s.phase = .received o ∧ ∀ a, ¬Usable e o a) ∨
        s.phase = .missing ∧ ∃ error, request = .error error) ∧
      ∀ a, r = .ok (some a) → a ∈ s.found := by
  simp [Closing, lookingUp, Looked]

theorem usable_iff {response : Http.Response} {a : String} :
    Usable e (.answered response) a ↔
      ∃ doc, documentVerdict (stage e) response = .ok doc ∧ e.pick doc = some a := by
  unfold documentVerdict bodyVerdict
  constructor
  · rintro ⟨_, doc, h, hstatus, hdoc, ha⟩
    cases h
    refine ⟨doc, ?_, ha⟩
    rw [if_neg (by simpa using hstatus), hdoc]
    rfl
  · rintro ⟨doc, hdoc, ha⟩
    split at hdoc
    · cases hdoc
    · next hstatus =>
      cases hd : Json.decodeFirst DiscoveryDocument.decoder response.body with
      | error error =>
        rw [hd] at hdoc
        cases hdoc
      | ok doc' =>
        rw [hd] at hdoc
        cases hdoc
        exact ⟨response, doc, rfl, by simpa using hstatus, hd, ha⟩

/-- Postcondition of `Discovery.document`: the outcome is `Usable` exactly for the address that the
returned document has, unless the request was an error. -/
def Asked (e : Endpoint) (request : Except ConfigError Http.Request)
    (r : Except Error DiscoveryDocument) (s : LookupState) : Prop :=
  (∃ o, s.phase = .received o ∧ ∀ a, Usable e o a ↔ ∃ doc, r = .ok doc ∧ e.pick doc = some a) ∨
    s.phase = .missing ∧ ∃ error, request = .error error ∧ r = .error (.config error)

/-- `Discovery.document` follows `lookingUp` from the phase `missing`. -/
theorem follows_document (hs : s.phase = .missing) :
    Follows (lookingUp e d.request) (Asked e d.request) (d.document (stage e)) s := by
  apply follows_ask (fun error h => .inr ⟨hs, error, h, rfl⟩)
  · intro r h
    simpa only [lookingUp, if_pos] using ⟨hs, h⟩
  · intro r h s' hs' o s'' hs''
    have hp : s''.phase = .received o := by
      simp only [lookingUp, if_pos] at hs''
      rw [hs'']
    cases o with
    | answered response =>
      refine Follows.of_verdict? (verdict?_readDocument _ response) (.inl ⟨_, hp, fun a => ?_⟩)
      exact usable_iff
    | failed error | refused error =>
      refine .inl ⟨_, hp, fun a => ⟨?_, nofun⟩⟩
      rintro ⟨_, _, h, -⟩
      cases h

/-- `Discovery.resolve e` runs the whole critical section. -/
theorem follows_resolve (hs : s.phase = .before) :
    Follows (lookingUp e d.request) Looked (d.resolve e) s := by
  apply Follows.locked (by simpa only [lookingUp, if_pos] using hs)
  intro s' hs'
  have hp : s'.phase = .entered := by
    simp only [lookingUp, if_pos] at hs'
    rw [hs']
  intro known
  refine ⟨by simpa only [lookingUp, if_pos] using hp, ?_⟩
  intro s'' hs''
  simp only [lookingUp, if_pos] at hs''
  cases known with
  | some a =>
    -- the address is known
    subst hs''
    refine closing_iff.mpr ⟨.inl rfl, ?_⟩
    intro a' ha
    cases ha
    exact List.mem_cons_self
  | none =>
    have hm : s''.phase = .missing := by rw [hs'']
    apply follows_bind (d.follows_document hm)
    · -- there is a document, and it may tell the address or not
      intro doc s hdoc
      obtain ⟨o, ho, hu⟩ | ⟨-, error, -, h⟩ := hdoc
      · show Follows _ _ (keep e (e.pick doc)) s
        cases ha : e.pick doc with
        | some a =>
          constructor
          · simpa only [lookingUp, if_pos] using ⟨o, ho, (hu a).mpr ⟨doc, rfl, ha⟩⟩
          · intro s' hs'
            simp only [lookingUp, if_pos] at hs'
            subst hs'
            refine closing_iff.mpr ⟨.inl rfl, ?_⟩
            intro a' ha'
            cases ha'
            exact List.mem_cons_self
        | none =>
          refine closing_iff.mpr ⟨.inr (.inl ⟨o, ho, fun a h => ?_⟩), nofun⟩
          obtain ⟨doc', hd, ha'⟩ := (hu a).mp h
          cases hd
          rw [ha] at ha'
          cases ha'
      · cases h
    · -- the request could not be built, or the answer is no document
      intro error s herror
      obtain ⟨o, ho, hu⟩ | ⟨hm, error', h, -⟩ := herror
      · refine closing_iff.mpr ⟨.inr (.inl ⟨o, ho, fun a h => ?_⟩), nofun⟩
        obtain ⟨doc, hd, -⟩ := (hu a).mp h
        cases hd
      · exact closing_iff.mpr ⟨.inr (.inr ⟨hm, error', h⟩), nofun⟩

/-- `Discovery.address e'` is `Steady` for the discipline of another endpoint `e`. -/
theorem steady_other (he : e' ≠ e) (hs : ¬s.phase.isInside) :
    Steady (lookingUp e d.request) s (d.address e') :=
  d.steady_address (lookingUp_ignores hs fun h => he (by injection h))
    (lookingUp_framesAddress hs he)
    fun r _ => lookingUp_framesRequest hs (fun h => he (stage_inj.mp h)) r

/-- `Discovery.address e` ends in the phase `past`, and what it returns is in `found`. -/
theorem follows_address (hs : s.phase = .before) :
    Follows (lookingUp e d.request) (fun r s => s.phase = .past ∧ ∀ a, r = .ok a → a ∈ s.found)
      (d.address e) s := by
  refine follows_bind (d.follows_resolve hs) ?_ fun error s h => ⟨h.1, nofun⟩
  intro a s ha
  cases a with
  | some a =>
    refine ⟨ha.1, ?_⟩
    intro a' h
    cases h
    exact ha.2 a rfl
  | none => exact ⟨ha.1, nofun⟩

end Discovery

/-! ## Calls -/

/-- The endpoint that a `Call` resolves directly; `none` for creations and deletions. -/
def Call.endpoint? : Call → Option Endpoint
  | tokenUrl => some .token
  | jwksUri => some .keys
  | create _ | delete _ | credentials | settings => none

/-- The field of a created application that holds the address of an endpoint. -/
def Application.address (app : Application) : Endpoint → String
  | .token => app.tokenUrl
  | .keys => app.jwksUri

/-- `call.Yields e r a`: the result `r` of `call` carries the address `a` of `e`. -/
def Call.Yields (call : Call) (e : Endpoint) (r : Except Error Answer) (a : String) : Prop :=
  match r with
  | .ok (.created app) => app.address e = a
  | .ok (.address a') => call.endpoint? = some e ∧ a' = a
  | _ => False

namespace Client

variable (c : Client) {e : Endpoint}

/-- Postcondition of a call: no critical section is open, and every address it `Yields` is in
`found`. -/
def Concluded (call : Call) (e : Endpoint) (r : Except Error Answer) (s : LookupState) : Prop :=
  ¬s.phase.isInside ∧ ∀ a, call.Yields e r a → a ∈ s.found

theorem follows_complete (name : ApplicationName) (id : Uuid) (secret : Secret) (clientId : String)
    {s : LookupState} (hs : s.phase = .before) : Follows (lookingUp e c.discovery.request)
      (fun r s => ¬s.phase.isInside ∧ ∀ app, r = .ok app → app.address e ∈ s.found)
      (c.complete name id secret clientId) s := by
  have hout {s : LookupState} (h : s.phase = .before ∨ s.phase = .past) : ¬s.phase.isInside := by
    rcases h with h | h <;> rw [h] <;> exact fun h => h
  cases e with
  | token =>
    -- the other address is looked up afterwards
    refine follows_bind (c.discovery.follows_address hs) (fun a s ha => ?_)
      fun error s h => ⟨hout (.inr h.1), nofun⟩
    refine Steady.follows_bind (c.discovery.steady_other nofun (hout (.inr ha.1)))
      (fun a' => ⟨hout (.inr ha.1), ?_⟩) fun error => ⟨hout (.inr ha.1), nofun⟩
    intro app happ
    cases happ
    exact ha.2 a rfl
  | keys =>
    -- the other address is looked up before
    refine Steady.follows_bind (c.discovery.steady_other nofun (hout (.inl hs)))
      ?_ fun error => ⟨hout (.inl hs), nofun⟩
    intro a'
    refine follows_bind (c.discovery.follows_address hs) (fun a s ha => ?_)
      fun error s h => ⟨hout (.inr h.1), nofun⟩
    refine ⟨hout (.inr ha.1), ?_⟩
    intro app happ
    cases happ
    exact ha.2 a rfl

/-- The guard of a name is a frame for `lookingUp`. -/
theorem follows_onName {α : Type} {f : ApplicationName → Attempt α} (text : String)
    {Q : Except Error α → LookupState → Prop} {s : LookupState} (hs : ¬s.phase.isInside)
    (hQ : ∀ r s, Q r s → ¬s.phase.isInside)
    (hf : ∀ name, Follows (lookingUp e c.discovery.request) Q (f name) s)
    (he : ∀ error, Q (.error error) s) :
    Follows (lookingUp e c.discovery.request) Q (c.onName text f) s := by
  refine c.onName_cases (P := fun a => Follows _ Q a s) text (fun error _ => ?_) (fun name _ => ?_)
    fun name _ => hf name
  · exact Follows.of_verdict? (a := .error (.config (.name error))) rfl (he _)
  · have hl {s : LookupState} (hs : ¬s.phase.isInside) :
        (lookingUp e c.discovery.request).Ignores s (.name name) :=
      lookingUp_ignores hs nofun
    apply Follows.locked (hl hs).acquire
    intro s' hs'
    obtain rfl := (hl hs).acquires s' hs'
    apply (hf name).mono
    intro r s' hr
    refine ⟨(hl (hQ r s' hr)).release, ?_⟩
    intro s'' hs''
    obtain rfl := (hl (hQ r s' hr)).releases s'' hs''
    exact hr

/-- **Every call follows `lookingUp`**, from the phase `before` and with nothing found. -/
theorem answer_lookingUp (e : Endpoint) (call : Call) :
    Follows (lookingUp e c.discovery.request) (Concluded call e) (c.answer call) ⟨.before, []⟩ := by
  have hb : ¬Phase.before.isInside := id
  have lookup (e' : Endpoint) (call : Call) (hcall : call.endpoint? = some e') :
      Follows (lookingUp e c.discovery.request) (Concluded call e)
        (Answer.address <$> c.discovery.address e' : Attempt Answer) ⟨.before, []⟩ := by
    by_cases he : e' = e
    · -- the call asks for this address
      subst he
      apply follows_map (c.discovery.follows_address rfl)
      · intro a s ha
        refine ⟨by rw [ha.1]; exact id, ?_⟩
        intro a' h
        obtain ⟨-, rfl⟩ := h
        exact ha.2 a rfl
      · intro error s h
        exact ⟨by rw [h.1]; exact id, nofun⟩
    · apply follows_map (c.discovery.steady_other he hb)
      · intro a s h
        subst h
        refine ⟨hb, ?_⟩
        intro a' ha
        rw [Call.Yields, hcall] at ha
        cases ha.1
        exact absurd rfl he
      · intro error s h
        subst h
        exact ⟨hb, nofun⟩
  cases call with
  | create text =>
    refine follows_map (Q := fun r s => ¬s.phase.isInside ∧
      ∀ app, r = .ok app → app.address e ∈ s.found) (follows_observed _ _ ?_) ?_
      fun error s h => ⟨h.1, nofun⟩
    · refine c.follows_onName text hb (fun r s h => h.1) ?_ fun error => ⟨hb, nofun⟩
      intro name
      refine c.follows_recreate name (fun stage r h => lookingUp_framesRequest hb (h e) r)
        (fun id secret clientId => c.follows_complete name id secret clientId rfl)
        fun error => ⟨hb, nofun⟩
    · intro app s h
      refine ⟨h.1, ?_⟩
      intro a ha
      have ha : app.address e = a := ha
      rw [← ha]
      exact h.2 app rfl
  | delete text =>
    refine follows_map (Q := fun r s => ¬s.phase.isInside) (follows_observed _ _ ?_)
      (fun _ s h => ⟨h, nofun⟩) fun error s h => ⟨h, nofun⟩
    refine c.follows_onName text hb (fun r s h => h) ?_ fun error => hb
    intro name
    have framesRequest (stage : Stage) (h : ∀ e, stage ≠ Discovery.stage e) (r : Http.Request) :
        (lookingUp e c.discovery.request).FramesRequest ⟨.before, []⟩ stage r :=
      lookingUp_framesRequest hb (h e) r
    rw [remove_eq]
    exact (c.steady_clear _ name
      (fun r _ => framesRequest .lookupApplications (by rintro ⟨⟩ <;> nofun) r)
      fun _ r _ => framesRequest .deleteApplication (by rintro ⟨⟩ <;> nofun) r).mono fun _ => hb
  | tokenUrl => exact lookup .token .tokenUrl rfl
  | jwksUri => exact lookup .keys .jwksUri rfl
  | credentials => exact Follows.of_verdict? (a := .ok (.credentials _)) rfl ⟨hb, nofun⟩
  | settings => exact Follows.of_verdict? (a := .ok (.settings _)) rfl ⟨hb, nofun⟩

end Client

end TenantApps
