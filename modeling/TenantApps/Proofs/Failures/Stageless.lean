import TenantApps.Proofs.Requests.Kind

/-!
# `TenantApps.Proofs.Failures.Stageless` — errors without a stage

`Error.config` has no stage. A call ends with it in three cases: its text is no `ApplicationName`,
one of its requests cannot be built, or the transport refuses a request (`Http.Outcome.refused`).
Only the first case excludes earlier requests, so such an error does not mean that nothing was sent.

## Contents
- `Contact`, the state of a call towards the transport, and the discipline `contacting`.
- `Fault`, the three cases, and `Attempt.Explained`, attempts whose `config` errors are faults, with
  one law for each combinator.
- `Client.compositional_explained`, by which every call is explained.
- `Course.stageless_errors`, the **main result**, and `Course.stageless_after_request`, a creation
  that ends without a stage after its first request.
-/

namespace TenantApps

open Attempt Procedure

/-! ## Contact with the transport -/

/-- **`Contact`**: the state of a call towards the transport. -/
inductive Contact
  /-- Nothing was sent. -/
  | silent
  /-- The last request is in flight. -/
  | waiting
  /-- The outcome of the last request. -/
  | outcome (o : Http.Outcome)
  deriving DecidableEq

/-- The contact after one more `Entry` of the task. -/
def Contact.next {α : Type} (k : Contact) : Entry α → Contact
  | .sent .. => .waiting
  | .answered _ _ o => .outcome o
  | .signalled .. | .ended .. => k

/-- The contact of task `i`: a fold of `Contact.next` over its entries. -/
def Report.contact {α : Type} (r : Report α) (i : TaskId) : Contact :=
  (r.of i).foldl Contact.next .silent

/-- The discipline that tracks `Contact`; it allows everything. -/
def contacting : Discipline Contact where
  allows _ _ := True
  after
    | .sends _ _, _, k => k = .waiting
    | .receives _ o, _, k => k = .outcome o
    | _, k, k' => k' = k

theorem contacting_tracks {α : Type} (i : TaskId) :
    contacting.Tracks i fun (xs : List (Entry α)) k => xs.foldl Contact.next .silent = k := by
  have next {xs : List (Entry α)} {k : Contact} (h : xs.foldl Contact.next .silent = k)
      (x : Entry α) : (xs ++ [x]).foldl Contact.next .silent = k.next x := by
    rw [List.foldl_append, h]
    rfl
  constructor
  case sends => exact fun h _ => ⟨_, rfl, next h _⟩
  case receives => exact fun h => ⟨_, rfl, next h _⟩
  case emits | ends => exact fun h => next h _
  case acquires | releases | consults | remembers => exact fun h _ => ⟨_, rfl, h⟩

/-! ## Faults -/

/-- **`Fault c call k e`**: why `call` ends with `.config e` in the contact `k`. -/
inductive Fault (c : Client) (call : Call) : Contact → ConfigError → Prop
  /-- Its text is no name. -/
  | unnamed {k : Contact} {text : String} {e : NameError} (ht : call.text? = some text)
    (he : ApplicationName.check text = .error e) : Fault c call k (.name e)
  /-- A request of one of its kinds cannot be built. -/
  | unmade {k : Contact} {kind : RequestKind} {e : ConfigError} (hs : kind.Suits call)
    (he : kind.request c = .error e) : Fault c call k e
  /-- The transport refused its last request. -/
  | refused (e : Http.RequestError) : Fault c call (.outcome (.refused e)) (.request e)

/-- **`Accounts`**: an error without a stage is a `Fault`, and a refusal is an error without a
stage. -/
structure Accounts {α : Type} (c : Client) (call : Call) (x : Except Error α) (k : Contact) :
    Prop where
  fault : ∀ e, x = .error e → e.stage = none → ∃ e', e = .config e' ∧ Fault c call k e'
  refusal : ∀ e, k = .outcome (.refused e) → x = .error (.config (.request e))

/-- The last request was not refused, so the call may continue. -/
def Contact.GoesOn (k : Contact) : Prop := ∀ e, k ≠ .outcome (.refused e)

namespace Attempt

variable {α β : Type} {c : Client} {call : Call} {a : Attempt α} {k : Contact}
  {x : Except Error α}

/-- **`Explained`**: from every contact that goes on, the attempt ends in `Accounts`. -/
def Explained (c : Client) (call : Call) (a : Attempt α) : Prop :=
  ∀ k : Contact, k.GoesOn → Follows contacting (Accounts c call) a k

theorem accounts_of_staged (hx : Staged x) (hk : k.GoesOn) : Accounts c call x k where
  fault e he hs := absurd hs (hx e he)
  refusal e he := absurd he (hk e)

theorem accounts_of_fault {e : ConfigError} (hk : k.GoesOn) (he : Fault c call k e) :
    Accounts c call (.error (.config e) : Except Error α) k where
  fault := by
    rintro _ ⟨⟩ -
    exact ⟨e, rfl, he⟩
  refusal e he := absurd he (hk e)

/-- A success was not refused. -/
theorem goesOn_of_accounts {y : α} (h : Accounts c call (.ok y : Except Error α) k) : k.GoesOn :=
  fun e he => nomatch h.refusal e he

theorem accounts_error {e : Error} (h : Accounts c call (.error e : Except Error α) k) :
    Accounts c call (.error e : Except Error β) k where
  fault := by
    rintro _ ⟨⟩ hs
    exact h.fault e rfl hs
  refusal e' he := by
    cases h.refusal e' he
    rfl

theorem Explained.bind {f : α → Attempt β} (ha : Explained c call a)
    (hf : ∀ y, Explained c call (f y)) : Explained c call (a >>= f : Attempt β) :=
  fun k hk => follows_bind (ha k hk) (fun y k' h => hf y k' (goesOn_of_accounts h)) fun _ _ h =>
    accounts_error h

/-- Rule for `Attempt.ask` whose other errors have a stage. -/
theorem Explained.ask {kind : RequestKind} {stage : Stage} {read : Http.Response → Attempt α}
    {verdict : Http.Response → Except Error α} (hs : kind.Suits call)
    (h : ∀ r, verdict? (read r) = some (verdict r)) (hx : ∀ r, Staged (verdict r)) :
    Explained c call (.ask stage (kind.request c) read) := by
  intro k hk
  refine follows_ask (fun e he => accounts_of_fault hk (.unmade hs he)) (fun _ _ => trivial) ?_
  rintro r - _ rfl o _ rfl
  cases o with
  | answered response => exact .of_verdict? (h response) (accounts_of_staged (hx response) nofun)
  | failed e => exact accounts_of_staged (staged_error nofun) nofun
  | refused e =>
    constructor
    · rintro _ ⟨⟩ -
      exact ⟨_, rfl, .refused e⟩
    · rintro _ ⟨⟩
      rfl

theorem Explained.locked (l : Lock) (ha : Explained c call a) :
    Explained c call (.locked l a) := by
  intro k hk
  apply Follows.locked trivial
  rintro k rfl
  refine (ha k hk).mono fun x k' h => ⟨trivial, ?_⟩
  rintro _ rfl
  exact h

end Attempt

/-- **Every call is explained**, by the compositionality of `Explained`. -/
theorem Client.compositional_explained (c : Client) (call : Call) :
    Compositional c call (Explained c call) where
  verdict h hx _ hk := Follows.of_verdict? h (accounts_of_staged hx hk)
  unnamed ht he _ hk := accounts_of_fault hk (.unnamed ht he)
  bind := Explained.bind
  ask _ := Explained.ask
  locked := Explained.locked
  lookup ha k hk known := by
    refine ⟨trivial, ?_⟩
    rintro _ rfl
    cases known with
    | some a => exact accounts_of_staged (staged_ok _) hk
    | none => exact ha _ hk
  keep e address k hk := by
    cases address with
    | some a =>
      refine ⟨trivial, ?_⟩
      rintro _ rfl
      exact accounts_of_staged (staged_ok _) hk
    | none => exact accounts_of_staged (staged_ok _) hk
  observed op text ha k hk := follows_observed op text (ha k hk)

/-- A call whose text is no name is `done` before any request. -/
theorem Client.verdict?_answer_unnamed (c : Client) {call : Call} {text : String} {e : NameError}
    (ht : call.text? = some text) (he : ApplicationName.check text = .error e) :
    verdict? (c.answer call) = some (.error (.config (.name e))) := by
  have hname {α : Type} (op : Operation) (f : ApplicationName → Attempt α) :
      verdict? (observed op text (c.onName text f)) = some (.error (.config (.name e))) := by
    unfold onName
    rw [he]
    cases op <;> rfl
  cases call with
  | create t =>
    cases ht
    exact verdict?_bind_error _ (hname _ _)
  | delete t =>
    cases ht
    exact verdict?_bind_error _ (hname _ _)
  | tokenUrl | jwksUri | credentials | settings => cases ht

/-! ## Over courses -/

namespace Course

variable {c : Client} {s : Course} {i : TaskId} {r : Except Error Answer}

/-- A call whose text is no name sends nothing in any course. -/
theorem Reachable.silent_of_unnamed {call : Call} {text : String} {e : NameError}
    (h : Reachable c s) (hi : s.calls[i]? = some call) (ht : call.text? = some text)
    (he : ApplicationName.check text = .error e) (q : Http.Request) :
    (i, q) ∉ s.machine.report.requests := by
  intro hq
  obtain ⟨x, hx, he'⟩ := List.mem_filterMap.mp hq
  cases x with
  | sent j stage q' =>
    cases he'
    obtain ⟨call', t, hcall, htrail, hm⟩ := h.trail hx
    cases hi.symm.trans hcall
    have hf : Follows (requesting fun _ => False) (fun _ _ => True) (c.answer call) () :=
      .of_verdict? (c.verdict?_answer_unnamed ht he) trivial
    obtain ⟨-, -, hI⟩ := htrail.tracked hf (requesting_tracks _ _) fun _ _ _ hm => nomatch hm
    exact hI _ _ _ hm
  | answered j stage o | signalled j x | ended j a => cases he'

/-- **Errors without a stage.** In every reachable course, such an error of task `i` is a `config`
error with a `Fault`: the text is no name, and then nothing was sent; or a request could not be
built; or the last request was refused. Conversely, a refusal of the last request is the error of
the call. -/
theorem stageless_errors (h : Reachable c s) (hr : (i, r) ∈ s.machine.report.results) :
    ∃ call, s.calls[i]? = some call ∧
      (∀ e, r = .error e → e.stage = none →
        (∃ text e', call.text? = some text ∧ ApplicationName.check text = .error e' ∧
          e = .config (.name e') ∧ ∀ q, (i, q) ∉ s.machine.report.requests) ∨
        (∃ kind e', RequestKind.Suits kind call ∧ kind.request c = .error e' ∧ e = .config e') ∨
        ∃ e', s.machine.report.contact i = .outcome (.refused e') ∧ e = .config (.request e')) ∧
      ∀ e, s.machine.report.contact i = .outcome (.refused e) →
        r = .error (.config (.request e)) := by
  obtain ⟨x, hx, he⟩ := List.mem_filterMap.mp hr
  cases x with
  | sent j stage q | answered j stage o | signalled j y => cases he
  | ended j a =>
    cases he
    obtain ⟨call, t, hcall, htrail, hm⟩ := h.trail hx
    -- before it came to its end, it was about to do so
    obtain ⟨-, ys, held, hys, hbefore⟩ := htrail.of_ended hm
    obtain ⟨k, hend, hk⟩ := hbefore.tracked
      ((c.compositional_explained call).answer .silent nofun) (contacting_tracks _) rfl
    have hcontact : s.machine.report.contact i = k := by
      rw [Report.contact, show s.machine.report.of i = _ from hys, List.foldl_append, hk]
      rfl
    have haccounts : Accounts c call r k := hend
    rw [hcontact]
    refine ⟨call, hcall, fun e he hs => ?_, haccounts.refusal⟩
    obtain ⟨e', rfl, hf⟩ := haccounts.fault e he hs
    cases hf with
    | unnamed ht hn => exact .inl ⟨_, _, ht, hn, rfl, h.silent_of_unnamed hcall ht hn⟩
    | unmade hs he => exact .inr (.inl ⟨_, _, hs, he, rfl⟩)
    | refused e' => exact .inr (.inr ⟨e', rfl, rfl⟩)

/-- A creation whose lookup is answered with 404 and whose `POST` is refused. -/
def refusedCreation : Course :=
  play .sample [.ask (.create "a"), .answer 0 (.answered ⟨404, [], []⟩),
    .answer 0 (.refused .headerValue)] {}

theorem reachable_refusedCreation : Reachable .sample refusedCreation := Reachable.play _ .refl

/-- `stageless_errors` on `refusedCreation`. -/
theorem stageless_errors_sample :
    let s := refusedCreation
    let r : Except Error Answer := .error (.config (.request .headerValue))
    Reachable .sample s ∧ (0, r) ∈ s.machine.report.results ∧
      s.machine.report.contact 0 = .outcome (.refused .headerValue) ∧
      ∃ call, s.calls[0]? = some call ∧ ∀ e, s.machine.report.contact 0 = .outcome (.refused e) →
        r = .error (.config (.request e)) := by
  intro s r
  have hr : (0, r) ∈ s.machine.report.results := by decide
  obtain ⟨call, hcall, -, hrefused⟩ := stageless_errors reachable_refusedCreation hr
  exact ⟨reachable_refusedCreation, hr, by decide, call, hcall, hrefused⟩

/-- **A creation may end without a stage after it has sent a request.** -/
theorem stageless_after_request : ¬∀ (c : Client) (s : Course), Reachable c s → ∀ i name e,
    s.calls[i]? = some (.create name) → (i, .error e) ∈ s.machine.report.results →
      e.stage = none → ∀ q, (i, q) ∉ s.machine.report.requests := by
  intro hall
  have hr : (0, .error (.config (.request .headerValue))) ∈
      refusedCreation.machine.report.results := by decide
  have hq : refusedCreation.machine.report.requests.any (·.1 = 0) = true := by decide
  obtain ⟨⟨i, q⟩, hq, hi⟩ := List.any_eq_true.mp hq
  obtain rfl : i = 0 := by simpa using hi
  exact hall _ _ reachable_refusedCreation 0 "a" _ (by decide) hr rfl q hq

end Course

end TenantApps
