import TenantApps.Proofs.Signals.Balance
import TenantApps.Proofs.Signals.LogState

/-!
# `TenantApps.Proofs.Signals.OperationTrace` — the log of an operation reflects its exchanges

The trace of a task is its report without counts and its end. In every reachable course, the trace
of an operation that has begun is its span, followed by the entries of its exchanges in order, up to
one pending event. So the events are exactly those that are due for the exchanges. An event is
pending only between a response and the next turn of the task; it is lost if the task is dropped in
between.

## Contents
- `TypedExchange.entries`, the entries of an exchange; `Report.trace` and `Report.events`.
- `LogState.Matches`, a log state that agrees with a trace, and `Trail.logState`: a task that `Logs`
  has one.
- `Course.OperationTrace`, the trace of an operation, and `Course.Reachable.operationTrace`.
- `Course.log_tells`, the **main result**.
-/

namespace TenantApps

open Telemetry Attempt Procedure

/-! ## The entries of an exchange -/

section

variable {α : Type}

/-- The entry of a logged event. -/
def Entry.note (i : TaskId) (span : Option Span) (e : Event) : Entry α :=
  .signalled i (.logged e span)

/-- **The entries of an exchange**: the request, the outcome, and the event that is due. -/
def TypedExchange.entries (call : Call) (i : TaskId) (span : Option Span) (v : TypedExchange) :
    List (Entry α) :=
  .sent i v.stage v.request :: match v.outcome with
    | none => []
    | some o => .answered i v.stage o :: (v.event? call).toList.map (.note i span)

/-- Entries that belong to the trace: no counts, and not the end of the task. -/
def Entry.isTraced : Entry α → Bool
  | .signalled _ (.counted _) | .ended .. => false
  | .sent .. | .answered .. | .signalled .. => true

/-- The trace of a task. -/
def Report.trace (r : Report α) (i : TaskId) : List (Entry α) := (r.of i).filter Entry.isTraced

def Entry.event? : Entry α → Option Event
  | .signalled _ (.logged e _) => some e
  | .sent .. | .answered .. | .signalled .. | .ended .. => none

/-- The events that a task has logged. -/
def Report.events (r : Report α) (i : TaskId) : List Event := (r.of i).filterMap Entry.event?

theorem Report.events_eq (r : Report α) (i : TaskId) :
    r.events i = (r.trace i).filterMap Entry.event? := by
  rw [events, trace]
  induction r.of i with
  | nil => rfl
  | cons x xs ih =>
    rw [List.filterMap_cons, List.filter_cons]
    cases x with
    | sent j stage q | answered j stage o | ended j a => exact ih
    | signalled j y =>
      cases y with
      | counted n | opened span => exact ih
      | logged e span => exact congrArg (e :: ·) ih

/-- The only event among the entries of an exchange is the one that is due. -/
theorem TypedExchange.filterMap_entries (call : Call) (i : TaskId) (span : Option Span)
    (v : TypedExchange) :
    (v.entries call i span : List (Entry α)).filterMap Entry.event? = (v.event? call).toList := by
  obtain ⟨kind, stage, r, o⟩ := v
  cases o with
  | none => rfl
  | some o =>
    show List.filterMap Entry.event? (List.map (Entry.note i span) (Option.toList _)) = _
    cases event? call ⟨kind, stage, r, some o⟩ <;> rfl

end

/-! ## Log states match traces -/

section

variable {c : Client} {call : Call} {i : TaskId} {span : Option Span} {α : Type}
  {xs : List (Entry α)} {τ : LogState}

theorem TypedExchange.Serves.answered {kind : RequestKind} {stage : Stage} {r : Http.Request}
    {o : Option Http.Outcome} (h : Serves c call ⟨kind, stage, r, o⟩)
    (o' : Option Http.Outcome) : Serves c call ⟨kind, stage, r, o'⟩ :=
  ⟨h.named, h.step, h.request⟩

/-- **`TypedExchanges c call vs`**: exchanges of the steps of `call`, in ascending order of their
stages, all but the last one `Accepted`. -/
structure TypedExchanges (c : Client) (call : Call) (vs : List TypedExchange) : Prop where
  serves : ∀ v ∈ vs, v.Serves c call
  ordered : vs.Pairwise fun u v => u.Accepted ∧ u.stage.place < v.stage.place

theorem exchanges_nil (c : Client) (call : Call) : TypedExchanges c call [] :=
  ⟨List.forall_mem_nil _, .nil⟩

theorem TypedExchanges.append {us : List TypedExchange} {v : TypedExchange}
    (hs : ∀ u ∈ us, u.Serves c call)
    (ho : us.Pairwise fun u v => u.Accepted ∧ u.stage.place < v.stage.place)
    (hv : v.Serves c call) (hb : ∀ u ∈ us, u.Accepted ∧ u.stage.place < v.stage.place) :
    TypedExchanges c call (us ++ [v]) := by
  refine ⟨fun u hu => ?_, List.pairwise_append.mpr ⟨ho, List.pairwise_singleton _ _, ?_⟩⟩
  · rcases List.mem_append.mp hu with hu | hu
    · exact hs u hu
    · rwa [List.mem_singleton.mp hu]
  · intro u hu w hw
    rw [List.mem_singleton.mp hw]
    exact hb u hu

/-- The last exchange may be given its outcome. -/
theorem TypedExchanges.answered {us : List TypedExchange} {v w : TypedExchange}
    (h : TypedExchanges c call (us ++ [v]))
    (hs : w.stage = v.stage) (hw : w.Serves c call) : TypedExchanges c call (us ++ [w]) := by
  obtain ⟨hus, -, hlast⟩ := List.pairwise_append.mp h.ordered
  refine .append (fun u hu => h.serves u (List.mem_append_left _ hu)) hus hw fun u hu => ?_
  rw [hs]
  exact hlast u hu v List.mem_cons_self

/-- **`Matches`**: the trace, with the pending event appended, is the concatenation of the entries
of the exchanges. -/
structure LogState.Matches (c : Client) (call : Call) (i : TaskId) (span : Option Span)
    (xs : List (Entry α)) (τ : LogState) : Prop where
  trace : xs.filter Entry.isTraced ++ τ.pending.toList.map (.note i span) =
    τ.exchanges.flatMap (TypedExchange.entries call i span)
  exchanges : TypedExchanges c call τ.exchanges

/-- Entries outside of the trace preserve `Matches`. -/
theorem LogState.Matches.other (h : τ.Matches c call i span xs) {x : Entry α}
    (hx : x.isTraced = false) :
    τ.Matches c call i span (xs ++ [x]) := by
  refine ⟨?_, h.exchanges⟩
  rw [List.filter_append, List.filter_cons_of_neg (by simp [hx]), List.filter_nil,
    List.append_nil]
  exact h.trace

/-- Preservation by `sent`. -/
theorem LogState.Matches.sent (h : τ.Matches c call i span xs) {kind : RequestKind} {stage : Stage}
    {r : Http.Request} (hτ : τ.Fresh stage.place)
    (hs : TypedExchange.Serves c call ⟨kind, stage, r, none⟩) :
    (LogState.push call τ.exchanges ⟨kind, stage, r, none⟩).Matches c call i span
      (xs ++ [.sent i stage r]) := by
  refine ⟨?_, .append h.exchanges.serves h.exchanges.ordered hs fun u hu =>
    ⟨hτ.accepted u hu, hτ.below u hu⟩⟩
  have htrace := h.trace
  rw [hτ.pending] at htrace
  rw [LogState.push, List.flatMap_append, ← htrace, List.filter_append]
  simp [TypedExchange.event?, TypedExchange.entries, Entry.isTraced]

/-- Preservation by `answered`. -/
theorem LogState.Matches.answered {us : List TypedExchange} {kind : RequestKind} {stage : Stage}
    {r : Http.Request}
    (h : (LogState.push call us ⟨kind, stage, r, none⟩).Matches c call i span xs)
    (o : Http.Outcome) :
    (LogState.push call us ⟨kind, stage, r, some o⟩).Matches c call i span
      (xs ++ [.answered i stage o]) := by
  have hs := h.exchanges.serves _ (List.mem_append_right _ List.mem_cons_self)
  refine ⟨?_, h.exchanges.answered rfl (hs.answered _)⟩
  have htrace := h.trace
  simp only [LogState.push, List.flatMap_append, List.flatMap_singleton, List.filter_append]
    at htrace ⊢
  simp only [TypedExchange.event?, Option.toList_none, List.map_nil, List.append_nil] at htrace
  rw [htrace, List.append_assoc, List.append_assoc]
  rfl

/-- Preservation by the log entry of the pending event. -/
theorem LogState.Matches.logged (h : τ.Matches c call i span xs) {e : Event}
    (he : τ.pending = some e) :
    ({ τ with pending := none } : LogState).Matches c call i span
      (xs ++ [.signalled i (.logged e span)]) := by
  refine ⟨?_, h.exchanges⟩
  have htrace := h.trace
  rw [he] at htrace
  rw [List.filter_append, ← htrace]
  simp [Entry.isTraced, Entry.note]

/-- `Procedure.Logs` for the rest of a task, by its status. -/
def Task.Logs (c : Client) (call : Call) (span : Option Span) (Q : α → LogState → Prop)
    (t : Task α) (xs : List (Entry α)) (τ : LogState) : Prop :=
  match t.status with
  | .ready p => p.Logs c call span Q τ
  | .awaitingAnswer stage next => ∃ us kind r,
    τ = .push call us ⟨kind, stage, r, none⟩ ∧
      ∀ o, (next o).Logs c call span Q (.push call us ⟨kind, stage, r, some o⟩)
  | .awaitingLock _ _ next => τ.pending = none ∧ next.Logs c call span Q τ
  | .finished => ∃ j a, .ended j a ∈ xs ∧ Q a τ
  | .dropped => True

/-- **A task whose procedure `Logs` has a matching log state**: induction on its `Trail`. -/
theorem Trail.logState {p : Procedure α} {t : Task α} {Q : α → LogState → Prop}
    (h : Trail i p xs t) (hp : p.Logs c call span Q {}) :
    ∃ τ : LogState, τ.Matches c call i span xs ∧ t.Logs c call span Q xs τ := by
  induction h with
  | start => exact ⟨{}, ⟨rfl, exchanges_nil c call⟩, hp⟩
  | act _ ha ih =>
    obtain ⟨τ, hk, hq⟩ := ih
    cases ha with
    | done a =>
      exact ⟨τ, hk.other rfl, i, a, List.mem_append_right _ List.mem_cons_self, hq⟩
    | send stage r next =>
      obtain ⟨hτ, kind, hs, hnext⟩ := hq
      exact ⟨_, hk.sent hτ hs, τ.exchanges, kind, r, rfl, hnext⟩
    | take l k next =>
      rw [List.append_nil]
      exact ⟨τ, hk, hq.2⟩
    | wait l k next | release l next | remember e a next =>
      rw [List.append_nil]
      exact ⟨τ, hk, hq⟩
    | consult e next =>
      rw [List.append_nil]
      exact ⟨τ, hk, hq _⟩
    | emit x next =>
      cases x with
      | counted n => exact ⟨τ, hk.other rfl, hq⟩
      | opened s => exact hq.elim
      | logged e s =>
        obtain ⟨rfl, he, hnext⟩ := hq
        exact ⟨_, hk.logged he, hnext⟩
  | answer o _ ih =>
    obtain ⟨τ, hk, us, kind, r, rfl, hnext⟩ := ih
    exact ⟨_, hk.answered o, hnext o⟩
  | grant _ hw ih =>
    obtain ⟨τ, hk, hq⟩ := ih
    obtain ⟨next, he⟩ := Task.eq_of_awaited? hw
    rw [he] at hq ⊢
    exact ⟨τ, hk, hq.2⟩
  | drop _ _ ih =>
    obtain ⟨τ, hk, -⟩ := ih
    exact ⟨τ, hk, trivial⟩

/-! ## The events of exchanges -/

theorem Client.createdId?_eq_some {response : Http.Response} {id : Uuid} :
    createdId? response = some id ↔
      response.status = 201 ∧ applicationId (response.headerText? "location") = .ok id := by
  unfold createdId?
  by_cases h : response.status = 201
  · rw [if_pos h, and_iff_right h]
    cases applicationId (response.headerText? "location") <;> simp [Except.toOption]
  · rw [if_neg h]
    simp [h]

theorem RequestKind.accepts_of_change? {kind : RequestKind} {response : Http.Response} {e : Event}
    (h : kind.change? call response = some e) : kind.accepts response.status := by
  obtain ⟨id, name, rfl, hs, -, -⟩ | ⟨name, id, rfl, hid, -⟩ := change?_eq_some.mp h
  · exact .inr (by simpa [Http.Response.isSuccess] using hs)
  · exact (Client.createdId?_eq_some.mp hid).1

/-- A change is due if and only if the response reports it. -/
theorem TypedExchange.event?_eq_changed {v : TypedExchange} {change : Change}
    {name : ApplicationName} {id : Uuid} :
    v.event? call = some (.changed change name id) ↔ ∃ response,
      v.outcome = some (.answered response) ∧
        v.kind.change? call response = some (.changed change name id) := by
  obtain ⟨kind, stage, r, o⟩ := v
  rcases o with _ | response | e | e
  case some.answered =>
    constructor
    · intro h
      by_cases ha : kind.accepts response.status
      · exact ⟨response, rfl, (if_pos ha).symm.trans h⟩
      · cases (if_neg ha).symm.trans h
    · rintro ⟨_, ⟨⟩, h⟩
      exact (if_pos (RequestKind.accepts_of_change? h)).trans h
  all_goals simp [event?]

theorem Call.removal_ne_created (call : Call) : call.removal ≠ .created := by
  cases call <;> nofun

/-- A deletion is due if and only if the response to a `DELETE` is 2xx. -/
theorem TypedExchange.event?_eq_removed {v : TypedExchange} {name : ApplicationName} {id : Uuid} :
    v.event? call = some (.changed call.removal name id) ↔ call.name? = some name ∧
      v.kind = .delete id ∧ ∃ response, v.outcome = some (.answered response) ∧
        200 ≤ response.status ∧ response.status < 300 := by
  simp only [event?_eq_changed, RequestKind.change?_eq_some, Http.Response.isSuccess]
  constructor
  · rintro ⟨response, ho, ⟨_, _, hv, hs, hn, ⟨⟩⟩ | ⟨_, _, -, -, he⟩⟩
    · exact ⟨hn, hv, response, ho, by simpa using hs⟩
    · exact absurd (Event.changed.inj he).1 call.removal_ne_created
  · rintro ⟨hn, hv, response, ho, hs⟩
    exact ⟨response, ho, .inl ⟨id, name, hv, by simpa using hs, hn, rfl⟩⟩

/-- A creation is due if and only if the response to the `POST` is 201 with a `Uuid` in
`location`. -/
theorem TypedExchange.event?_eq_created {v : TypedExchange} {name : ApplicationName} {id : Uuid} :
    v.event? call = some (.changed .created name id) ↔ v.kind = .create name ∧
      ∃ response, v.outcome = some (.answered response) ∧ response.status = 201 ∧
        applicationId (response.headerText? "location") = .ok id := by
  simp only [event?_eq_changed, RequestKind.change?_eq_some, Client.createdId?_eq_some]
  constructor
  · rintro ⟨response, ho, ⟨_, _, -, -, -, he⟩ | ⟨_, _, hv, hid, ⟨⟩⟩⟩
    · exact absurd (Event.changed.inj he).1.symm call.removal_ne_created
    · exact ⟨hv, response, ho, hid⟩
  · rintro ⟨hv, response, ho, hid⟩
    exact ⟨response, ho, .inr ⟨name, id, hv, hid, rfl⟩⟩

/-- The change of an event; `none` for a warning. -/
def Telemetry.Event.change? : Event → Option Change
  | .rejected .. => none
  | .changed change _ _ => some change

theorem RequestKind.Step.stage_delete {id id' : Uuid} {stage stage' : Stage}
    (h : Step call (.delete id) stage) (h' : Step call (.delete id') stage') : stage = stage' := by
  cases h <;> cases h' <;> rfl

theorem RequestKind.Step.stage_create {name : ApplicationName} {stage : Stage}
    (h : Step call (.create name) stage) : stage = .createApplication := by
  cases h
  rfl

theorem RequestKind.Step.name_create {name : ApplicationName} {stage : Stage}
    (h : Step call (.create name) stage) : call.name? = some name := by
  cases h
  rw [Call.name?, ApplicationName.check_text]
  rfl

/-- The same change is due in one stage only. -/
theorem TypedExchange.stage_of_change {u v : TypedExchange} {e e' : Event} (hu : u.Serves c call)
    (hv : v.Serves c call) (he : u.event? call = some e) (he' : v.event? call = some e')
    (hc : e.change? ≠ none) (h : e.change? = e'.change?) : u.stage = v.stage := by
  cases e with
  | rejected stage n => exact absurd rfl hc
  | changed change name id =>
    cases e' with
    | rejected stage n => cases h
    | changed change' name' id' =>
      cases h
      obtain ⟨response, -, hru⟩ := event?_eq_changed.mp he
      obtain ⟨response', -, hrv⟩ := event?_eq_changed.mp he'
      have hus := hu.step
      have hvs := hv.step
      obtain ⟨_, _, heu, -, -, ⟨⟩⟩ | ⟨_, _, heu, -, ⟨⟩⟩ := RequestKind.change?_eq_some.mp hru <;>
        obtain ⟨_, _, hev, -, -, hce⟩ | ⟨_, _, hev, -, hce⟩ :=
          RequestKind.change?_eq_some.mp hrv <;>
        rw [heu] at hus <;> rw [hev] at hvs
      · exact hus.stage_delete hvs
      · exact absurd (Event.changed.inj hce).1 call.removal_ne_created
      · exact absurd (Event.changed.inj hce).1.symm call.removal_ne_created
      · rw [hus.stage_create, hvs.stage_create]

/-- Each change, and the warning, is due at most once. -/
theorem TypedExchanges.nodup {vs : List TypedExchange} (h : TypedExchanges c call vs) :
    ((vs.filterMap (TypedExchange.event? call)).map Event.change?).Nodup := by
  rw [List.Nodup, List.pairwise_map, List.pairwise_filterMap]
  refine h.ordered.imp_of_mem fun {u v} hu hv ⟨ha, hlt⟩ e he e' he' hsame => ?_
  cases e with
  | rejected stage n => exact ha.not_rejected he
  | changed change name id =>
    have hstage := TypedExchange.stage_of_change (h.serves u hu) (h.serves v hv) he he' nofun hsame
    rw [hstage] at hlt
    exact Nat.lt_irrefl _ hlt

/-- A warning is due for the last exchange only. -/
theorem TypedExchanges.rejected_last {vs : List TypedExchange} (h : TypedExchanges c call vs)
    {stage : Stage} {n : Nat} :
    (∃ v ∈ vs, v.event? call = some (.rejected stage n)) ↔
      (vs.filterMap (TypedExchange.event? call)).getLast? = some (.rejected stage n) := by
  constructor
  · rintro ⟨v, hv, he⟩
    rcases List.eq_nil_or_concat vs with rfl | ⟨us, w, rfl⟩
    · cases hv
    rw [List.concat_eq_append] at hv h ⊢
    obtain hv | hv := List.mem_append.mp hv
    · have ha := ((List.pairwise_append.mp h.ordered).2.2 v hv w List.mem_cons_self).1
      exact absurd he ha.not_rejected
    · rw [List.mem_singleton.mp hv] at he
      rw [List.filterMap_append, List.filterMap_cons, he]
      simp
  · intro hl
    exact List.mem_filterMap.mp (List.mem_of_getLast? hl)

/-- A call without a name has no exchange. -/
theorem TypedExchanges.unnamed {vs : List TypedExchange} (h : TypedExchanges c call vs)
    (hn : call.name? = none) :
    vs = [] := by
  refine List.eq_nil_iff_forall_not_mem.mpr fun v hv => ?_
  have hname := (h.serves v hv).named
  rw [hn] at hname
  cases hname

/-- Deletions among the events of exchanges. -/
theorem TypedExchange.mem_removed {vs : List TypedExchange} {name : ApplicationName} {id : Uuid} :
    .changed call.removal name id ∈ vs.filterMap (TypedExchange.event? call) ↔
      call.name? = some name ∧ ∃ v ∈ vs, v.kind = .delete id ∧
        ∃ response, v.outcome = some (.answered response) ∧
          200 ≤ response.status ∧ response.status < 300 := by
  simp only [List.mem_filterMap, TypedExchange.event?_eq_removed]
  constructor
  · rintro ⟨v, hv, hn, htold⟩
    exact ⟨hn, v, hv, htold⟩
  · rintro ⟨hn, v, hv, htold⟩
    exact ⟨v, hv, hn, htold⟩

/-- Creations among the events of exchanges. -/
theorem TypedExchanges.mem_created {vs : List TypedExchange} (h : TypedExchanges c call vs)
    {name : ApplicationName} {id : Uuid} :
    .changed .created name id ∈ vs.filterMap (TypedExchange.event? call) ↔
      call.name? = some name ∧ ∃ v ∈ vs, v.kind = .create name ∧
        ∃ response, v.outcome = some (.answered response) ∧ response.status = 201 ∧
          applicationId (response.headerText? "location") = .ok id := by
  simp only [List.mem_filterMap, TypedExchange.event?_eq_created]
  constructor
  · rintro ⟨v, hv, he, htold⟩
    have hstep := (h.serves v hv).step
    rw [he] at hstep
    exact ⟨hstep.name_create, v, hv, he, htold⟩
  · rintro ⟨-, htold⟩
    exact htold

/-- The warning is the last event, and it is the error of the result. -/
theorem TypedExchanges.rejected_result {vs : List TypedExchange} {pending : Option Event}
    {bound : Nat} {r : Except Error α} (h : TypedExchanges c call vs)
    (hr : Concludes call (fun _ τ => τ.Fresh bound) r ⟨vs, pending⟩) {stage : Stage} {n : Nat} :
    r = .error (.unexpectedStatus stage n) ↔
      (vs.filterMap (TypedExchange.event? call)).getLast? = some (.rejected stage n) := by
  rw [← h.rejected_last]
  cases r with
  | ok a =>
    refine iff_of_false (fun he => by cases he) ?_
    rintro ⟨v, hv, he⟩
    exact (hr.accepted v hv).not_rejected he
  | error e =>
    rw [Except.error.injEq]
    exact hr.warned stage n

end

/-! ## Over courses -/

namespace Course

variable {c : Client} {s : Course} {i : TaskId} {call : Call} {op : Operation} {text : String}
  {span : Span} {vs : List TypedExchange} {pending : Option Telemetry.Event}

/-- **`OperationTrace`**: the trace of task `i` in a course. It starts with the span of the
operation; the rest, with the pending event appended, is the concatenation of the entries of the
exchanges `vs`. -/
structure OperationTrace (c : Client) (s : Course) (i : TaskId) (call : Call) (span : Span)
    (vs : List TypedExchange) (pending : Option Telemetry.Event) : Prop where
  first : (s.machine.report.of i).head? = some (.signalled i (.opened span))
  trace : s.machine.report.trace i ++ pending.toList.map (.note i (some span)) =
    .signalled i (.opened span) :: vs.flatMap (TypedExchange.entries call i (some span))
  exchanges : TypedExchanges c call vs
  /-- A pending event is logged in the next turn, unless the task was dropped. -/
  unlogged : pending ≠ none → (∃ p, s.machine.status? i = some (.ready p)) ∨ s.Dropped i

/-- The events of an operation, with the pending one, are those that are due for its exchanges. -/
theorem OperationTrace.events (h : OperationTrace c s i call span vs pending) :
    s.machine.report.events i ++ pending.toList = vs.filterMap (TypedExchange.event? call) := by
  have htrace := congrArg (List.filterMap Entry.event?) h.trace
  have hpending : (pending.toList.map (Entry.note i (some span))).filterMap
      (Entry.event? (α := Except Error Answer)) = pending.toList := by
    cases pending <;> rfl
  rw [List.filterMap_append, ← Report.events_eq, hpending] at htrace
  rw [htrace]
  show List.filterMap Entry.event? (List.flatMap _ vs) = _
  rw [List.filterMap_flatMap]
  rw [List.filterMap_eq_flatMap_toList]
  simp only [TypedExchange.filterMap_entries]

/-- **Every operation that has begun has an `OperationTrace`**, and its result agrees with it. -/
theorem Reachable.operationTrace (h : Reachable c s) (hi : s.calls[i]? = some call)
    (hop : call.operation? = some op) (ht : call.text? = some text)
    (hb : s.machine.report.of i ≠ []) :
    ∃ vs pending, OperationTrace c s i call ⟨op, text⟩ vs pending ∧
      ∀ r, (i, r) ∈ s.machine.report.results →
        Concludes call (fun _ τ => τ.Fresh Stage.all.length) r ⟨vs, pending⟩ := by
  obtain ⟨⟨st, held⟩, htask, -⟩ := h.keeps hi
  have htrail := h.trails.tasks htask
  obtain ⟨p, hp, hlogs⟩ := c.logs_answer hop ht
  rw [procedure_eq hi, hp] at htrail
  obtain ⟨hnone, -⟩ | ⟨ys, hys, htrail⟩ := htrail.of_emit
  · exact absurd hnone hb
  obtain ⟨⟨vs, pending⟩, hk, hq⟩ := htrail.logState hlogs
  refine ⟨vs, pending, ⟨?_, ?_, hk.exchanges, fun ho => ?_⟩, fun r hr => ?_⟩
  · rw [hys]
    rfl
  · rw [Report.trace, hys]
    exact congrArg (_ :: ·) hk.trace
  · rw [Dropped, Machine.status?, htask]
    cases st with
    | ready p => exact .inl ⟨p, rfl⟩
    | dropped => exact .inr rfl
    | awaitingAnswer stage next =>
      obtain ⟨us, kind, r, he, -⟩ := hq
      cases he
      exact absurd rfl ho
    | awaitingLock l k next => exact absurd hq.1 ho
    | finished =>
      obtain ⟨j, r, -, hr⟩ := hq
      cases r with
      | ok a => exact absurd hr.pending ho
      | error e => exact absurd hr.pending ho
  · -- the end of the log state is the end of the task
    obtain ⟨rfl, zs, hzs⟩ := h.ended htask (mem_of_results hr)
    obtain ⟨j, r', hm, htold⟩ := hq
    obtain ⟨-, zs', hzs'⟩ := h.ended htask (hys ▸ List.mem_cons_of_mem _ hm)
    have hlast := congrArg List.getLast? (hzs.symm.trans hzs')
    simp only [List.getLast?_append, List.getLast?_singleton, Option.some_or, Option.some.injEq,
      Entry.ended.injEq, true_and] at hlast
    rw [hlast]
    exact htold

/-- **The log of an operation.** In every reachable course, an operation that has begun has an
`OperationTrace`; its events, with the pending one, are those due for its exchanges, each at most
once; a deletion is among them if and only if a `DELETE` was answered with 2xx, a creation if and
only if the `POST` was answered with 201 and a `Uuid` in `location`; a warning is the last event;
and once there is a result, nothing is pending, and the result is `unexpectedStatus` if and only if
that is the warning. -/
theorem log_tells (h : Reachable c s) (hi : s.calls[i]? = some call)
    (hop : call.operation? = some op) (ht : call.text? = some text)
    (hb : s.machine.report.of i ≠ []) :
    ∃ vs pending, OperationTrace c s i call ⟨op, text⟩ vs pending ∧
      let told := s.machine.report.events i ++ pending.toList
      told = vs.filterMap (TypedExchange.event? call) ∧ (told.map Telemetry.Event.change?).Nodup ∧
      (call.name? = none → vs = []) ∧
      (∀ name id, .changed call.removal name id ∈ told ↔ call.name? = some name ∧
        ∃ v ∈ vs, v.kind = .delete id ∧ ∃ response, v.outcome = some (.answered response) ∧
          200 ≤ response.status ∧ response.status < 300) ∧
      (∀ name id, .changed .created name id ∈ told ↔ call.name? = some name ∧
        ∃ v ∈ vs, v.kind = .create name ∧ ∃ response, v.outcome = some (.answered response) ∧
          response.status = 201 ∧ applicationId (response.headerText? "location") = .ok id) ∧
      (∀ stage n, .rejected stage n ∈ told → told.getLast? = some (.rejected stage n)) ∧
      ∀ r, (i, r) ∈ s.machine.report.results → pending = none ∧ ∀ stage n,
        r = .error (.unexpectedStatus stage n) ↔ told.getLast? = some (.rejected stage n) := by
  obtain ⟨vs, pending, hc, hresult⟩ := h.operationTrace hi hop ht hb
  refine ⟨vs, pending, hc, ?_⟩
  rw [hc.events]
  refine ⟨rfl, hc.exchanges.nodup, hc.exchanges.unnamed, fun _ _ => TypedExchange.mem_removed,
    fun _ _ => hc.exchanges.mem_created, fun stage n hm => ?_, fun r hr => ?_⟩
  · exact hc.exchanges.rejected_last.mp (List.mem_filterMap.mp hm)
  · exact ⟨(hresult r hr).pending, fun _ _ => hc.exchanges.rejected_result (hresult r hr)⟩

/-- `log_tells` on `failedCreation`: the last event is the warning about the status 500. -/
theorem log_tells_sample :
    let s := failedCreation
    let call : Call := .create "a"
    Reachable .sample s ∧ s.calls[0]? = some call ∧ call.operation? = some .createApplication ∧
      call.text? = some "a" ∧ s.machine.report.of 0 ≠ [] ∧
      ∃ vs, OperationTrace .sample s 0 call ⟨.createApplication, "a"⟩ vs none ∧
        (s.machine.report.events 0 ++ []).getLast? = some (.rejected .createApplication 500) := by
  intro s call
  have h : Reachable .sample s := Reachable.play _ .refl
  have hcall : s.calls[0]? = some call := rfl
  have hr : (0, .error (.unexpectedStatus .createApplication 500)) ∈
      s.machine.report.results := by decide
  have hb : s.machine.report.of 0 ≠ [] := List.ne_nil_of_mem (mem_of_results hr)
  obtain ⟨vs, pending, hc, -, -, -, -, -, -, hends⟩ := log_tells h hcall rfl rfl hb
  obtain ⟨rfl, hlast⟩ := hends _ hr
  exact ⟨h, hcall, rfl, rfl, hb, vs, hc, (hlast _ _).mp rfl⟩

end Course

end TenantApps
