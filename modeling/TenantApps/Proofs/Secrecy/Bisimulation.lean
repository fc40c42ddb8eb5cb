import TenantApps.Proofs.Secrecy.Calls
import TenantApps.Proofs.Tasks.Course

/-!
# `TenantApps.Proofs.Secrecy.Bisimulation` — noninterference of passwords and secrets

Two clients that differ in their password run in lock step: the same events, up to the secrets in
responses, and the same turns. `Machine.Alike` relates their states; it is preserved by every step,
and every step of one client can be matched by the other. Related states agree on signals, on
redacted requests, on diagnostics and, up to `clientSecret`, on results.

## Contents
- `Status.Alike`, `Task.Alike`, `Entry.Alike` and `Machine.Alike`, states up to secrets, with
  `Machine.Alike.act`, `run` and `accept?`, **preservation** by every step.
- `Course.Bisimilar`, pairs of runs in lock step, and `Course.Bisimilar.alike`.
- `Course.Bisimilar.answered`, the same for courses of one task.
- `Course.secrets_hidden`, the **main result**.
-/

namespace TenantApps

/-! ## Pointwise related lists -/

section

variable {α β : Type} {R : α → β → Prop} {xs : List α} {ys : List β}

theorem forall₂_modify (h : List.Forall₂ R xs ys) (i : Nat) {f : α → α} {g : β → β}
    (hf : ∀ x y, R x y → R (f x) (g y)) : List.Forall₂ R (xs.modify i f) (ys.modify i g) := by
  induction h generalizing i with
  | nil => cases i <;> exact .nil
  | @cons x y xs ys hxy hrest ih =>
    cases i with
    | zero => exact .cons (hf x y hxy) hrest
    | succ i => exact .cons hxy (ih i)

theorem forall₂_getElem? (h : List.Forall₂ R xs ys) (i : Nat) : Option.Rel R xs[i]? ys[i]? := by
  induction h generalizing i with
  | nil => exact .none
  | cons hxy _ ih =>
    cases i with
    | zero => exact .some hxy
    | succ i => exact ih i

end

/-! ## The relation -/

variable {α : Type} {R : α → α → Prop}

/-- Statuses with related procedures. -/
inductive Status.Alike (R : α → α → Prop) : Status α → Status α → Prop
  | ready {p p' : Procedure α} (h : Procedure.Alike R p p') : Alike R (.ready p) (.ready p')
  | awaitingAnswer {stage : Stage} {next next' : Http.Outcome → Procedure α}
    (h : ∀ o o', Http.Outcome.Alike stage o o' → Procedure.Alike R (next o) (next' o')) :
    Alike R (.awaitingAnswer stage next) (.awaitingAnswer stage next')
  | awaitingLock {l : Lock} {k : MutexId} {next next' : Procedure α}
    (h : Procedure.Alike R next next') :
    Alike R (.awaitingLock l k next) (.awaitingLock l k next')
  | finished : Alike R .finished .finished
  | dropped : Alike R .dropped .dropped

/-- Tasks with related statuses and equal locks. -/
structure Task.Alike (R : α → α → Prop) (t t' : Task α) : Prop where
  status : t.status.Alike R t'.status
  held : t.held = t'.held

/-- **Entries up to secrets**: equal but for redacted requests, related outcomes and related
results. -/
inductive Entry.Alike (R : α → α → Prop) : Entry α → Entry α → Prop
  | sent {i : TaskId} {stage : Stage} {r r' : Http.Request}
    (h : r.redacted stage = r'.redacted stage) : Alike R (.sent i stage r) (.sent i stage r')
  | answered {i : TaskId} {stage : Stage} {o o' : Http.Outcome}
    (h : Http.Outcome.Alike stage o o') : Alike R (.answered i stage o) (.answered i stage o')
  | signalled (i : TaskId) (s : Telemetry.Signal) : Alike R (.signalled i s) (.signalled i s)
  | ended {i : TaskId} {a a' : α} (h : R a a') : Alike R (.ended i a) (.ended i a')

theorem Status.Alike.isOver {s s' : Status α} (h : s.Alike R s') : s.isOver = s'.isOver := by
  cases h <;> rfl

theorem Task.Alike.granted {t t' : Task α} (h : t.Alike R t') : t.granted.Alike R t'.granted := by
  obtain ⟨st, held⟩ := t
  obtain ⟨st', held'⟩ := t'
  obtain ⟨hs, rfl⟩ := h
  cases hs with
  | awaitingLock h => exact ⟨.ready h, rfl⟩
  | ready h => exact ⟨.ready h, rfl⟩
  | awaitingAnswer h => exact ⟨.awaitingAnswer h, rfl⟩
  | finished => exact ⟨.finished, rfl⟩
  | dropped => exact ⟨.dropped, rfl⟩

/-! ## Preservation -/

namespace Machine

/-- **`Machine.Alike R m m'`**: the tasks and the entries are related, and everything else is
equal. -/
structure Alike (R : α → α → Prop) (m m' : Machine α) : Prop where
  tasks : List.Forall₂ (Task.Alike R) m.tasks m'.tasks
  locks : m.locks = m'.locks
  cache : m.cache = m'.cache
  entries : List.Forall₂ (Entry.Alike R) m.report.entries m'.report.entries

variable {m m' : Machine α} {i : TaskId} {l : Lock} {p p' : Procedure α}

theorem Alike.task (h : m.Alike R m') (i : TaskId) :
    Option.Rel (Task.Alike R) m.tasks[i]? m'.tasks[i]? :=
  forall₂_getElem? h.tasks i

theorem Alike.status? (h : m.Alike R m') (i : TaskId) :
    Option.Rel (Status.Alike R) (m.status? i) (m'.status? i) := by
  have ht := h.task i
  rw [Machine.status?, Machine.status?]
  generalize m.tasks[i]? = t, m'.tasks[i]? = t' at ht ⊢
  cases ht with
  | none => exact .none
  | some ht => exact .some ht.status

/-- Every status has a related one on the other side. -/
theorem Alike.exists_status (h : m.Alike R m') {s : Status α} (hs : m.status? i = some s) :
    ∃ s', m'.status? i = some s' ∧ s.Alike R s' := by
  have hst := h.status? i
  rw [hs] at hst
  generalize m'.status? i = x at hst ⊢
  cases hst with
  | some hst => exact ⟨_, rfl, hst⟩

theorem Alike.isReady (h : m.Alike R m') (i : TaskId) : m.isReady i = m'.isReady i := by
  have hst := h.status? i
  rw [Machine.isReady, Machine.isReady]
  generalize m.status? i = x, m'.status? i = x' at hst ⊢
  cases hst with
  | none => rfl
  | some hst => cases hst <;> rfl

theorem Alike.modify (h : m.Alike R m') (i : TaskId) {f f' : Task α → Task α}
    (hf : ∀ t t', t.Alike R t' → (f t).Alike R (f' t')) :
    (m.modify i f).Alike R (m'.modify i f') :=
  ⟨forall₂_modify h.tasks i hf, h.locks, h.cache, h.entries⟩

theorem Alike.setStatus (h : m.Alike R m') (i : TaskId) {s s' : Status α} (hs : s.Alike R s') :
    (m.setStatus i s).Alike R (m'.setStatus i s') :=
  h.modify i fun _ _ ht => ⟨hs, ht.held⟩

theorem Alike.note (h : m.Alike R m') {x x' : Entry α} (hx : x.Alike R x') :
    (m.note x).Alike R (m'.note x') :=
  ⟨h.tasks, h.locks, h.cache, List.rel_append h.entries (.cons hx .nil)⟩

theorem Alike.withLocks (h : m.Alike R m') (ls : Locks) :
    ({ m with locks := ls } : Machine α).Alike R { m' with locks := ls } :=
  ⟨h.tasks, rfl, h.cache, h.entries⟩

/-- `Machine.giveBack` preserves `Alike`. -/
theorem Alike.giveBack (h : m.Alike R m') (i : TaskId) (g : Lock × MutexId) :
    (m.giveBack i g).Alike R (m'.giveBack i g) := by
  have herase (t t' : Task α) (ht : t.Alike R t') : Task.Alike R
      { t with held := t.held.erase g } { t' with held := t'.held.erase g } :=
    ⟨ht.status, by rw [ht.held]⟩
  simp only [Machine.giveBack, h.locks]
  split
  · exact ((h.withLocks _).modify i herase).modify _ fun _ _ ht => ht.granted
  · exact (h.withLocks _).modify i herase

theorem Alike.release (h : m.Alike R m') (i : TaskId) (l : Lock) :
    (m.release i l).Alike R (m'.release i l) := by
  have hfind : (m.tasks[i]?.bind fun t => t.held.find? (·.1 = l)) =
      m'.tasks[i]?.bind fun t => t.held.find? (·.1 = l) := by
    have ht := h.task i
    generalize m.tasks[i]? = t, m'.tasks[i]? = t' at ht ⊢
    cases ht with
    | none => rfl
    | some ht => rw [Option.bind_some, Option.bind_some, ht.held]
  rw [Machine.release, Machine.release, hfind]
  split
  · exact h.giveBack i _
  · exact h

theorem Alike.take (h : m.Alike R m') (i : TaskId) (l : Lock)
    (hp : Procedure.Alike R p p') : (m.take i l p).Alike R (m'.take i l p') := by
  simp only [Machine.take, h.locks]
  refine (h.withLocks _).modify i fun t t' ht => ?_
  split
  · exact ⟨.ready hp, by rw [ht.held]⟩
  · exact ⟨.awaitingLock hp, ht.held⟩

/-- **Preservation by one action** of related procedures. -/
theorem Alike.act (h : m.Alike R m') (i : TaskId) (hp : Procedure.Alike R p p') :
    (m.act i p).Alike R (m'.act i p') := by
  cases hp with
  | done ha => exact (h.setStatus i .finished).note (.ended ha)
  | send hr hnext => exact (h.setStatus i (.awaitingAnswer hnext)).note (.sent hr)
  | acquire hnext => exact h.take i _ hnext
  | release hnext => exact (h.release i _).setStatus i (.ready hnext)
  | consult hnext =>
    rw [Machine.act, Machine.act, h.cache]
    exact h.setStatus i (.ready (hnext _))
  | @remember e a next next' hnext =>
    have hc : ({ m with cache := m.cache.set e a } : Machine α).Alike R
        { m' with cache := m'.cache.set e a } :=
      ⟨h.tasks, h.locks, by rw [h.cache], h.entries⟩
    exact hc.setStatus i (.ready hnext)
  | emit hnext => exact (h.setStatus i (.ready hnext)).note (.signalled i _)

/-- **Preservation by a turn** of related procedures: induction on the relation. -/
theorem Alike.run (i : TaskId) (hp : Procedure.Alike R p p') (h : m.Alike R m') :
    (Machine.run i p m).Alike R (Machine.run i p' m') := by
  induction hp generalizing m m' with
  | done ha => exact h.act i (.done ha)
  | send hr hnext => exact h.act i (.send hr hnext)
  | @acquire l next next' hnext ih =>
    have hact : (m.act i (.acquire l next)).Alike R (m'.act i (.acquire l next')) :=
      h.act i (.acquire hnext)
    rw [Machine.run, Machine.run, hact.isReady i]
    split
    · exact ih hact
    · exact hact
  | release hnext ih => exact ih (h.act i (.release hnext))
  | consult hnext ih =>
    rw [Machine.run, Machine.run, h.cache]
    exact ih _ (h.act i (.consult hnext))
  | remember hnext ih => exact ih (h.act i (.remember hnext))
  | emit hnext ih => exact ih (h.act i (.emit hnext))

theorem Alike.start (h : m.Alike R m') (hp : Procedure.Alike R p p') :
    ({ m with tasks := m.tasks ++ [⟨.ready p, []⟩] } : Machine α).Alike R
      { m' with tasks := m'.tasks ++ [⟨.ready p', []⟩] } :=
  ⟨List.rel_append h.tasks (.cons ⟨.ready hp, rfl⟩ .nil), h.locks, h.cache, h.entries⟩

theorem Alike.leave (h : m.Alike R m') (i : TaskId) {s s' : Status α} (hs : s.Alike R s') :
    (m.leave i s).Alike R (m'.leave i s') := by
  have hdropped : (m.setStatus i .dropped).Alike R (m'.setStatus i .dropped) :=
    h.setStatus i .dropped
  cases hs with
  | awaitingLock _ =>
    simp only [Machine.leave, hdropped.locks]
    exact hdropped.withLocks _
  | ready _ | awaitingAnswer _ | finished | dropped => exact hdropped

theorem Alike.cancel (h : m.Alike R m') (i : TaskId) {t t' : Task α} (ht : t.Alike R t') :
    (m.cancel i t).Alike R (m'.cancel i t') := by
  have hfold (held : List (Lock × MutexId)) : ∀ {m m' : Machine α}, m.Alike R m' →
      (held.foldl (fun m g => m.giveBack i g) m).Alike R
        (held.foldl (fun m g => m.giveBack i g) m') := by
    induction held with
    | nil => exact fun h => h
    | cons g held ih => exact fun h => ih (h.giveBack i g)
  rw [Machine.cancel, Machine.cancel, ht.held]
  exact hfold _ (h.leave i ht.status)

/-- `answer` is matched, for related outcomes. -/
theorem Alike.answer {m₁ : Machine α} {o o' : Http.Outcome} (h : m.Alike R m')
    (ho : ∀ stage next, m.status? i = some (.awaitingAnswer stage next) →
      Http.Outcome.Alike stage o o') (ha : m.accept? (.answer i o) = some m₁) :
    ∃ m₁', m'.accept? (.answer i o') = some m₁' ∧ m₁.Alike R m₁' := by
  rw [accept?] at ha
  split at ha
  · next stage next hs =>
    cases ha
    obtain ⟨s', hs', hss⟩ := h.exists_status hs
    cases hss with
    | awaitingAnswer hnext =>
      have hout := ho stage next hs
      refine ⟨_, by rw [accept?, hs'], ?_⟩
      exact (h.setStatus i (.ready (hnext o o' hout))).note (.answered hout)
  · cases ha

/-- `drop` is matched. -/
theorem Alike.drop {m₁ : Machine α} (h : m.Alike R m') (ha : m.accept? (.drop i) = some m₁) :
    ∃ m₁', m'.accept? (.drop i) = some m₁' ∧ m₁.Alike R m₁' := by
  have ht := h.task i
  rw [accept?] at ha ⊢
  generalize m.tasks[i]? = t, m'.tasks[i]? = t' at ht ha ⊢
  cases ht with
  | none => cases ha
  | @some t t' ht =>
    simp only [ht.status.isOver] at ha ⊢
    split at ha
    · cases ha
    · next ho =>
      cases ha
      exact ⟨m'.cancel i t', by rw [if_neg ho], h.cancel i ht⟩

end Machine

/-! ## Over courses -/

namespace Course

open Machine

/-- Events up to the secret in a response to `createApiSecret`. -/
inductive Event.Alike (s : Course) : Event → Event → Prop
  | same (e : Event) : Alike s e e
  | answer {i : TaskId} {stage : Stage} {o o' : Http.Outcome}
    {next : Http.Outcome → Procedure (Except Error Answer)}
    (hs : s.machine.status? i = some (.awaitingAnswer stage next))
    (ho : Http.Outcome.Alike stage o o') : Alike s (.answer i o) (.answer i o')

/-- **`Bisimilar c c' s s'`**: runs of the two clients in lock step lead to `s` and `s'`. -/
inductive Bisimilar (c c' : Client) : Course → Course → Prop
  | start : Bisimilar c c' {} {}
  | event {s s' : Course} {e e' : Event} {m m' : Machine (Except Error Answer)}
    (h : Bisimilar c c' s s') (he : e.Alike s e') (ha : s.machine.accept? (e.onTasks c) = some m)
    (ha' : s'.machine.accept? (e'.onTasks c') = some m') :
    Bisimilar c c' ⟨s.calls ++ e.calls, m⟩ ⟨s'.calls ++ e'.calls, m'⟩
  | turn {s s' : Course} {i : TaskId} {p p' : Procedure (Except Error Answer)}
    (h : Bisimilar c c' s s') (hp : s.machine.status? i = some (.ready p))
    (hp' : s'.machine.status? i = some (.ready p')) :
    Bisimilar c c' ⟨s.calls, s.machine.run i p⟩ ⟨s'.calls, s'.machine.run i p'⟩

variable {c c' : Client} {k : Secret} {s s' : Course}

/-- Both sides of `Bisimilar` are reachable. -/
theorem Bisimilar.reachable (h : Bisimilar c c' s s') : Reachable c s ∧ Reachable c' s' := by
  induction h with
  | start => exact ⟨.refl, .refl⟩
  | event _ _ ha ha' ih => exact ⟨ih.1.tail (.event _ ha), ih.2.tail (.event _ ha')⟩
  | turn _ hp hp' ih => exact ⟨ih.1.tail (.turn hp), ih.2.tail (.turn hp')⟩

/-- An event of one client is matched by every related event of the other. -/
theorem alike_event {e e' : Event} {m : Machine (Except Error Answer)}
    (h : s.machine.Alike (Attempt.Results Answer.Alike) s'.machine) (he : e.Alike s e')
    (ha : s.machine.accept? (e.onTasks c) = some m) :
    ∃ m', s'.machine.accept? (e'.onTasks (c.withPassword k)) = some m' ∧
      m.Alike (Attempt.Results Answer.Alike) m' := by
  cases he with
  | same =>
    cases e with
    | ask call =>
      cases ha
      exact ⟨_, rfl, h.start (c.answer_alike k call)⟩
    | answer i o => exact h.answer (fun stage _ _ => .same stage o) ha
    | drop i => exact h.drop ha
  | answer hs ho =>
    refine h.answer (fun stage' next' hs' => ?_) ha
    rw [hs] at hs'
    cases hs'
    exact ho

/-- **`Bisimilar` courses have `Machine.Alike` machines.** -/
theorem Bisimilar.alike (h : Bisimilar c (c.withPassword k) s s') : s.calls = s'.calls ∧
    s.machine.Alike (Attempt.Results Answer.Alike) s'.machine := by
  induction h with
  | start => exact ⟨rfl, .nil, rfl, rfl, .nil⟩
  | @event s s' e e' m m' _ he ha ha' ih =>
    obtain ⟨m₁, hm₁, hm⟩ := alike_event ih.2 he ha
    rw [ha'] at hm₁
    cases hm₁
    have hcalls : e.calls = e'.calls := by cases he <;> rfl
    exact ⟨by rw [ih.1, hcalls], hm⟩
  | turn _ hp hp' ih =>
    obtain ⟨st, hst, hs⟩ := ih.2.exists_status hp
    rw [hp'] at hst
    cases hst
    cases hs with
    | ready hpp => exact ⟨ih.1, ih.2.run _ hpp⟩

/-- **Every step is matched**: `Bisimilar` is a simulation between the two clients. -/
theorem Bisimilar.step {t : Course} (h : Bisimilar c (c.withPassword k) s s') (hs : Step c s t) :
    ∃ t', Step (c.withPassword k) s' t' ∧ Bisimilar c (c.withPassword k) t t' := by
  cases hs with
  | event e ha =>
    obtain ⟨m', ha', -⟩ := alike_event h.alike.2 (.same e) ha
    exact ⟨_, .event e ha', .event h (.same e) ha ha'⟩
  | turn hp =>
    obtain ⟨st, hst, hs⟩ := h.alike.2.exists_status hp
    cases hs with
    | ready _ => exact ⟨_, .turn hst, .turn h hp hst⟩

end Course

/-! ## Observations -/

namespace Report

/-- The redacted requests of a report, with their tasks and stages. -/
def redacted (r : Report α) : List (TaskId × Stage × Http.Request) :=
  r.entries.filterMap fun
    | .sent i stage r => some (i, stage, r.redacted stage)
    | _ => none

variable {xs xs' : List (Entry α)}

theorem signals_eq (h : List.Forall₂ (Entry.Alike R) xs xs') : signals ⟨xs⟩ = signals ⟨xs'⟩ := by
  rw [← List.forall₂_eq_eq_eq]
  refine List.rel_filterMap ?_ h
  intro x x' hx
  cases hx with
  | signalled i s => exact .some rfl
  | sent _ | answered _ | ended _ => exact .none

theorem redacted_eq (h : List.Forall₂ (Entry.Alike R) xs xs') :
    redacted ⟨xs⟩ = redacted ⟨xs'⟩ := by
  rw [← List.forall₂_eq_eq_eq]
  refine List.rel_filterMap ?_ h
  intro x x' hx
  cases hx with
  | sent hr => exact .some (by rw [hr])
  | answered _ | signalled _ _ | ended _ => exact .none

theorem results_alike (h : List.Forall₂ (Entry.Alike R) xs xs') :
    List.Forall₂ (fun x x' => x.1 = x'.1 ∧ R x.2 x'.2) (results ⟨xs⟩) (results ⟨xs'⟩) := by
  refine List.rel_filterMap ?_ h
  intro x x' hx
  cases hx with
  | ended ha => exact .some ⟨rfl, ha⟩
  | sent _ | answered _ | signalled _ _ => exact .none

end Report

namespace Course

/-! ## Courses of one task -/

/-- `s` after a turn of task 0, if it is ready. -/
def turned (s : Course) : Course :=
  match s.machine.status? 0 with
  | some (.ready p) => ⟨s.calls, s.machine.run 0 p⟩
  | _ => s

/-- `s` after the outcome `o` for task 0, if it awaits one, and a turn. -/
def answered (s : Course) (o : Http.Outcome) : Course :=
  match s.machine.accept? (.answer 0 o) with
  | some m => turned ⟨s.calls ++ [], m⟩
  | none => s

/-- The stage of the request that task 0 awaits. -/
def stage? (s : Course) : Option Stage :=
  match s.machine.status? 0 with
  | some (.awaitingAnswer stage _) => some stage
  | _ => none

/-- The course of a single call after its first turn. -/
def asked (c : Client) (call : Call) : Course :=
  turned ⟨[call], { tasks := [⟨.ready (c.answer call), []⟩] }⟩

variable {c : Client} {k : Secret} {s s' : Course}

theorem Bisimilar.turned (h : Bisimilar c (c.withPassword k) s s') :
    Bisimilar c (c.withPassword k) s.turned s'.turned := by
  have hst := h.alike.2.status? 0
  unfold Course.turned
  generalize hx : s.machine.status? 0 = x, hx' : s'.machine.status? 0 = x' at hst ⊢
  cases hst with
  | none => exact h
  | some hst =>
    cases hst with
    | ready _ => exact .turn h hx hx'
    | awaitingAnswer _ | awaitingLock _ | finished | dropped => exact h

theorem Bisimilar.answered (h : Bisimilar c (c.withPassword k) s s') {o o' : Http.Outcome}
    (ho : ∀ stage, s.stage? = some stage → Http.Outcome.Alike stage o o') :
    Bisimilar c (c.withPassword k) (s.answered o) (s'.answered o') := by
  have hst := h.alike.2.status? 0
  simp only [Course.answered, Machine.accept?]
  rw [Course.stage?] at ho
  generalize hx : s.machine.status? 0 = x, hx' : s'.machine.status? 0 = x' at hst ho ⊢
  cases hst with
  | none => exact h
  | some hst =>
    cases hst with
    | awaitingAnswer _ =>
      refine (Bisimilar.event h (.answer hx (ho _ rfl)) ?_ ?_).turned
      · simp only [Event.onTasks, Machine.accept?, hx]
      · simp only [Event.onTasks, Machine.accept?, hx']
    | ready _ | awaitingLock _ | finished | dropped => exact h

/-- The same outcomes on both sides preserve `Bisimilar`. -/
theorem Bisimilar.answered_all (h : Bisimilar c (c.withPassword k) s s') (os : List Http.Outcome) :
    Bisimilar c (c.withPassword k) (os.foldl Course.answered s) (os.foldl Course.answered s') := by
  induction os generalizing s s' with
  | nil => exact h
  | cons o os ih => exact ih (h.answered fun stage _ => .same stage o)

theorem bisimilar_asked (c : Client) (k : Secret) (call : Call) :
    Bisimilar c (c.withPassword k) (asked c call) (asked (c.withPassword k) call) :=
  (Bisimilar.event .start (.same (.ask call)) rfl rfl).turned

/-! ## Noninterference -/

/-- **Secrets are hidden.** `Bisimilar` courses of a client and the same client with another
password agree in calls, signals, diagnostics, redacted requests and, up to `clientSecret` and the
password of returned credentials, in results; and every step of one is matched by a step of the
other. -/
theorem secrets_hidden (h : Bisimilar c (c.withPassword k) s s') :
    s.calls = s'.calls ∧ s.machine.report.signals = s'.machine.report.signals ∧
    (c.settings.debug = (c.withPassword k).settings.debug ∧ c.debug = (c.withPassword k).debug ∧
      c.directory.debug = (c.withPassword k).directory.debug) ∧
    s.machine.report.redacted = s'.machine.report.redacted ∧
    List.Forall₂ (fun x x' => x.1 = x'.1 ∧ Attempt.Results Answer.Alike x.2 x'.2)
      s.machine.report.results s'.machine.report.results ∧
    (∀ d : Draft, (d.withPassword k).accept = d.accept.map (·.withPassword k)) ∧
    ∀ t, Step c s t →
      ∃ t', Step (c.withPassword k) s' t' ∧ Bisimilar c (c.withPassword k) t t' := by
  obtain ⟨hcalls, halike⟩ := h.alike
  have hentries := halike.entries
  exact ⟨hcalls, Report.signals_eq hentries, ⟨(c.settings.debug_withPassword k).symm,
    (c.debug_withPassword k).symm, (Directory.debug_withPassword c k).symm⟩,
    Report.redacted_eq hentries, Report.results_alike hentries,
    fun d => d.accept_withPassword k, fun _ => h.step⟩

/-- A response that discloses the secret `x`. -/
def sampleSecret (x : String) : Http.Response := .sample 201 (.object [("secret", .text x)])

/-- A creation that awaits the response to `createApiSecret`. -/
def sampleBegun (c : Client) : Course :=
  [.answered (.sample 404 .null), .answered (.sample 201 .null)].foldl answered
    (asked c (.create "a"))

/-- The same creation after that response. -/
def sampleCreation (c : Client) (secret : String) : Course :=
  -- the application comes as the list of its fields
  [.answered (.sample 200 (.array [.text "00000000000000000000000000000001", .null, .null,
      .array [.null, .text "i"]])),
    .answered (.sample 200 (.object [("token_endpoint", .text "t")])),
    .answered (.sample 200 (.object [("jwks_uri", .text "k")]))].foldl answered
      ((sampleBegun c).answered (.answered (sampleSecret secret)))

/-- The client secrets in the results of a course. -/
def secrets (s : Course) : List String :=
  s.machine.report.results.filterMap fun x =>
    match x.2 with
    | .ok (.created a) => some a.clientSecret.exposed
    | _ => none

/-- `secrets_hidden` on two creations with different passwords and different secrets. -/
theorem secrets_hidden_sample :
    let c := Client.sample
    let s := sampleCreation c "x"
    let s' := sampleCreation (c.withPassword ⟨"q"⟩) "y"
    Bisimilar c (c.withPassword ⟨"q"⟩) s s' ∧ s.secrets = ["x"] ∧ s'.secrets = ["y"] ∧
      s.machine.report.signals = s'.machine.report.signals ∧
      s.machine.report.redacted = s'.machine.report.redacted := by
  intro c s s'
  have discloses (x : String) (hx : x ≠ "") (hd : (Json.decodeFirst SecretAnswer.decoder
      (sampleSecret x).body).toOption = some ⟨some x⟩) : (sampleSecret x).Discloses x := by
    exact ⟨rfl, hx, except_toOption_eq_some.mp hd⟩
  have hstage : (sampleBegun c).stage? = some .createApiSecret := by decide +kernel
  have hbegun : Bisimilar c (c.withPassword ⟨"q"⟩) (sampleBegun c)
      (sampleBegun (c.withPassword ⟨"q"⟩)) :=
    (bisimilar_asked c ⟨"q"⟩ (.create "a")).answered_all _
  have htold : ∀ stage, (sampleBegun c).stage? = some stage → Http.Outcome.Alike stage
      (.answered (sampleSecret "x")) (.answered (sampleSecret "y")) := by
    intro stage hs
    rw [hstage] at hs
    cases hs
    exact .secrets (discloses "x" (by decide) (by decide +kernel))
      (discloses "y" (by decide) (by decide +kernel))
  have h : Bisimilar c (c.withPassword ⟨"q"⟩) s s' := (hbegun.answered htold).answered_all _
  obtain ⟨-, hsignals, -, hrequests, -⟩ := secrets_hidden h
  exact ⟨h, by decide +kernel, by decide +kernel, hsignals, hrequests⟩

end Course

end TenantApps
