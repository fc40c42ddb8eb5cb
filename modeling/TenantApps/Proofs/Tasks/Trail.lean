import TenantApps.Proofs.Tasks.Course

/-!
# `TenantApps.Proofs.Tasks.Trail` — the projection of a course to one task

Whatever other tasks do, the entries of one task are produced by the actions of its procedure, the
outcomes of its requests and the locks that it is granted. `Trail` is the transition system of a
single task with these as its steps. A property of all entries of a task in all courses thus follows
from a property of one procedure.

## Contents
- `Entry.task` and `Report.of`, the projection of a report; `Report.mem_requests` and `mem_results`.
- `Trail`, the transition system of a task; `Trail.of_ended`, finished tasks, and `Trail.of_emit`,
  procedures that start with `emit`.
- `Course.Reachable.trail`: **every task of a reachable course has a trail** of its call.
- `Discipline.Tracks` and `Trail.tracked`: a discipline that tracks entries holds of every trail.
-/

namespace TenantApps

variable {α : Type}

/-- The task of an entry. -/
def Entry.task : Entry α → TaskId
  | sent i _ _ | answered i _ _ | signalled i _ | ended i _ => i

/-- The entries of task `i`. -/
def Report.of (r : Report α) (i : TaskId) : List (Entry α) := r.entries.filter (·.task = i)

theorem Report.mem_requests {r : Report α} {i : TaskId} {q : Http.Request} :
    (i, q) ∈ r.requests ↔ ∃ stage, .sent i stage q ∈ r.entries := by
  constructor
  · intro h
    obtain ⟨x, hx, he⟩ := List.mem_filterMap.mp h
    cases x with
    | sent j stage q' =>
      cases he
      exact ⟨stage, hx⟩
    | answered j stage o | signalled j y | ended j a => cases he
  · rintro ⟨stage, hx⟩
    exact List.mem_filterMap.mpr ⟨_, hx, rfl⟩

theorem Report.mem_results {r : Report α} {i : TaskId} {a : α} :
    (i, a) ∈ r.results ↔ .ended i a ∈ r.entries := by
  constructor
  · intro h
    obtain ⟨x, hx, he⟩ := List.mem_filterMap.mp h
    cases x with
    | ended j b =>
      cases he
      exact hx
    | sent j stage q | answered j stage o | signalled j y => cases he
  · exact fun hx => List.mem_filterMap.mpr ⟨_, hx, rfl⟩

/-- **`Trail i p xs t`**: task `i`, started with `p`, may have the entries `xs` and the state
`t`. -/
inductive Trail (i : TaskId) (p : Procedure α) : List (Entry α) → Task α → Prop
  | start : Trail i p [] ⟨.ready p, []⟩
  | act {xs ys : List (Entry α)} {q : Procedure α} {held : List (Lock × MutexId)} {t : Task α}
    {c c' : Cache} (h : Trail i p xs ⟨.ready q, held⟩) (ha : Machine.Acts c i held q t ys c') :
    Trail i p (xs ++ ys) t
  | answer {xs : List (Entry α)} {stage : Stage} {next : Http.Outcome → Procedure α}
    {held : List (Lock × MutexId)} (o : Http.Outcome)
    (h : Trail i p xs ⟨.awaitingAnswer stage next, held⟩) :
    Trail i p (xs ++ [.answered i stage o]) ⟨.ready (next o), held⟩
  | grant {xs : List (Entry α)} {t : Task α} {g : Lock × MutexId} (h : Trail i p xs t)
    (hw : t.awaited? = some g) : Trail i p xs t.granted
  | drop {xs : List (Entry α)} {t : Task α} (h : Trail i p xs t)
    (ho : t.status.isOver = false) : Trail i p xs ⟨.dropped, []⟩

/-- The end of a task is its last entry. -/
theorem Trail.of_ended {i j : TaskId} {p : Procedure α} {xs : List (Entry α)} {t : Task α} {a : α}
    (h : Trail i p xs t) (ha : .ended j a ∈ xs) : t.status = .finished ∧ ∃ ys held,
      xs = ys ++ [.ended i a] ∧ Trail i p ys ⟨.ready (.done a), held⟩ := by
  induction h with
  | start => cases ha
  | act h hact ih =>
    rcases List.mem_append.mp ha with ha | ha
    · cases (ih ha).1
    · cases hact with
      | done b =>
        cases List.mem_singleton.mp ha
        exact ⟨rfl, _, _, rfl, h⟩
      | send stage r next | emit s next => cases List.mem_singleton.mp ha
      | take l k next | wait l k next | release l next | consult e next | remember e x next =>
        cases ha
  | answer o h ih =>
    rcases List.mem_append.mp ha with ha | ha
    · cases (ih ha).1
    · cases List.mem_singleton.mp ha
  | grant h hw ih =>
    obtain ⟨next, he⟩ := Task.eq_of_awaited? hw
    rw [he] at ih
    cases (ih ha).1
  | drop h ho ih =>
    rw [(ih ha).1] at ho
    cases ho

/-- A task that starts with `emit x` has no entry, or `x` is its first one. -/
theorem Trail.of_emit {i : TaskId} {x : Telemetry.Signal} {p : Procedure α} {xs : List (Entry α)}
    {t : Task α} (h : Trail i (.emit x p) xs t) :
    xs = [] ∧ (t = ⟨.ready (.emit x p), []⟩ ∨ t = ⟨.dropped, []⟩) ∨
      ∃ ys, xs = .signalled i x :: ys ∧ Trail i p ys t := by
  induction h with
  | start => exact .inl ⟨rfl, .inl rfl⟩
  | act h ha ih =>
    obtain ⟨rfl, hstart | hdropped⟩ | ⟨ys, rfl, hys⟩ := ih
    · cases hstart
      cases ha
      exact .inr ⟨[], rfl, .start⟩
    · cases hdropped
    · exact .inr ⟨_, rfl, hys.act ha⟩
  | answer o h ih =>
    obtain ⟨-, h | h⟩ | ⟨ys, rfl, hys⟩ := ih
    · cases h
    · cases h
    · exact .inr ⟨_, rfl, hys.answer o⟩
  | grant h hw ih =>
    obtain ⟨-, rfl | rfl⟩ | ⟨ys, rfl, hys⟩ := ih
    · cases hw
    · cases hw
    · exact .inr ⟨ys, rfl, hys.grant hw⟩
  | drop h ho ih =>
    obtain ⟨rfl, -⟩ | ⟨ys, rfl, hys⟩ := ih
    · exact .inl ⟨rfl, .inr rfl⟩
    · exact .inr ⟨ys, rfl, hys.drop ho⟩

/-! ## Over machines -/

open Machine

/-- **`Trailing procs m`**: every task `i` of `m` has a trail from `procs i`. -/
structure Trailing (procs : TaskId → Procedure α) (m : Machine α) : Prop where
  consistent : m.Consistent
  tasks : ∀ {i t}, m.tasks[i]? = some t → Trail i (procs i) (m.report.of i) t
  /-- Entries are those of existing tasks. -/
  known : ∀ x ∈ m.report.entries, x.task < m.tasks.length

variable {procs : TaskId → Procedure α} {m m' : Machine α} {i j : TaskId} {t : Task α}
  {p : Procedure α} {xs : List (Entry α)} {c : Cache}

/-- An action produces entries of its own task. -/
theorem Machine.Acts.task {c' : Cache} {held : List (Lock × MutexId)}
    (h : Acts c i held p t xs c') : ∀ x ∈ xs, x.task = i := by
  cases h with
  | done a | send stage r next | emit s next =>
    intro x hx
    rw [List.mem_singleton.mp hx]
    rfl
  | take l k next | wait l k next | release l next | consult e next | remember e a next =>
    exact List.forall_mem_nil _

/-- A change appends its entries to those of its own task. -/
theorem Machine.Change.of (h : Change m i t xs c m') (hx : ∀ x ∈ xs, x.task = i) :
    m'.report.of j = m.report.of j ++ if j = i then xs else [] := by
  rw [Report.of, Report.of, h.report, List.filter_append]
  congr 1
  split
  · next hj => exact List.filter_eq_self.mpr fun x hm => by simp [hx x hm, hj]
  · next hj => exact List.filter_eq_nil_iff.mpr fun x hm => by simp [hx x hm, Ne.symm hj]

/-- **Preservation by a `Machine.Change`** that continues the trail of its task. -/
theorem Trailing.change (h : Trailing procs m) (hch : Change m i t xs c m')
    (hx : ∀ x ∈ xs, x.task = i) (hown : Trail i (procs i) (m.report.of i ++ xs) t) :
    Trailing procs m' := by
  have hlt : i < m.tasks.length := by
    rw [← hch.length]
    exact (List.getElem?_eq_some_iff.mp hch.own).1
  have hof {j : TaskId} (hj : j ≠ i) : m'.report.of j = m.report.of j := by
    rw [hch.of hx, if_neg hj, List.append_nil]
  refine ⟨hch.consistent, hch.tasks (P := fun j u => Trail j (procs j) (m.report.of j) u)
    (R := fun j u => Trail j (procs j) (m'.report.of j) u) h.tasks ?_ ?_ ?_, ?_⟩
  · rw [hch.of hx, if_pos rfl]
    exact hown
  · intro j u hj _ hu
    rw [hof hj]
    exact hu
  · intro j u g hj _ hu hw
    rw [hof hj]
    exact hu.grant hw
  · intro x hm
    rw [hch.report, List.mem_append] at hm
    rw [hch.length]
    rcases hm with hm | hm
    · exact h.known x hm
    · rw [hx x hm]
      exact hlt

theorem Trailing.act {held : List (Lock × MutexId)} (h : Trailing procs m)
    (ht : m.tasks[i]? = some ⟨.ready p, held⟩) : Trailing procs (m.act i p) := by
  obtain ⟨t, xs, c, ha, hch⟩ := h.consistent.act ht
  exact h.change hch ha.task ((h.tasks ht).act ha)

/-- Preservation by a turn. -/
theorem Trailing.run (h : Trailing procs m) (ht : m.status? i = some (.ready p)) :
    Trailing procs (Machine.run i p m) := by
  obtain ⟨⟨st, held⟩, ht, rfl⟩ := Option.map_eq_some_iff.mp ht
  exact (h.consistent.run i (fun _ ht h => Trailing.act h ht) p ht h).2.2

/-- Preservation by `start`. -/
theorem Trailing.start (h : Trailing procs m) (ha : m.accept? (.start p) = some m')
    (hp : procs m.tasks.length = p) : Trailing procs m' := by
  obtain ⟨hc, htasks, -, hreport⟩ := h.consistent.start ha
  refine ⟨hc, fun {j u} hu => ?_, fun x hm => ?_⟩
  · rw [htasks, getElem?_start] at hu
    rw [hreport]
    split at hu
    · next hj =>
      -- nothing has happened to it yet
      subst hj
      cases hu
      have hnone : m.report.of m.tasks.length = [] :=
        List.filter_eq_nil_iff.mpr fun x hm => by simpa using Nat.ne_of_lt (h.known x hm)
      rw [hnone, hp]
      exact .start
    · exact h.tasks hu
  · rw [hreport] at hm
    rw [htasks, List.length_append]
    exact Nat.lt_add_right _ (h.known x hm)

theorem Trailing.answer {o : Http.Outcome} (h : Trailing procs m)
    (ha : m.accept? (.answer i o) = some m') : Trailing procs m' := by
  obtain ⟨stage, next, held, ht, hch⟩ := h.consistent.answer ha
  exact h.change hch (fun x hx => by rw [List.mem_singleton.mp hx]; rfl) ((h.tasks ht).answer o)

theorem Trailing.drop (h : Trailing procs m) (ha : m.accept? (.drop i) = some m') :
    Trailing procs m' := by
  obtain ⟨t, ht, ho, hch⟩ := h.consistent.drop ha
  refine h.change hch (List.forall_mem_nil _) ?_
  rw [List.append_nil]
  exact (h.tasks ht).drop ho

/-! ## Over courses -/

namespace Course

variable {cl : Client} {s : Course}

/-- Every reachable course is `Trailing`, whatever the calls that are still to come are. -/
theorem Reachable.trailing (h : Reachable cl s)
    (procs : TaskId → Procedure (Except Error Answer))
    (hp : ∀ i call, s.calls[i]? = some call → procs i = cl.answer call) :
    Trailing procs s.machine := by
  induction h with
  | refl => exact ⟨consistent_init, (fun ht => nomatch ht), List.forall_mem_nil _⟩
  | @tail s s' hs hstep ih =>
    cases hstep with
    | event e ha =>
      have h := ih fun i call hi => hp i call (by
        rw [List.getElem?_append_left (List.getElem?_eq_some_iff.mp hi).1]
        exact hi)
      cases e with
      | ask call =>
        refine h.start ha ?_
        rw [← (show Reachable cl s from hs).consistent.2]
        exact hp _ _ (List.getElem?_concat_length ..)
      | answer i o => exact h.answer ha
      | drop i => exact h.drop ha
    | turn ht => exact (ih hp).run ht

/-- The procedure of the call of task `i`. -/
def procedure (cl : Client) (s : Course) (i : TaskId) : Procedure (Except Error Answer) :=
  (s.calls[i]?).elim (.done (.ok .deleted)) cl.answer

theorem procedure_eq {call : Call} (hi : s.calls[i]? = some call) :
    s.procedure cl i = cl.answer call := by
  rw [procedure, hi]
  rfl

theorem Reachable.trails (h : Reachable cl s) : Trailing (s.procedure cl) s.machine :=
  h.trailing _ fun _ _ => procedure_eq

/-- **Every entry of a reachable course belongs to a task with a trail of its call.** -/
theorem Reachable.trail {x : Entry (Except Error Answer)} (h : Reachable cl s)
    (hx : x ∈ s.machine.report.entries) : ∃ call t, s.calls[x.task]? = some call ∧
      Trail x.task (cl.answer call) (s.machine.report.of x.task) t ∧
        x ∈ s.machine.report.of x.task := by
  have hlt := h.trails.known x hx
  have hcall := List.getElem?_eq_getElem (h.consistent.2 ▸ hlt)
  have htrail := h.trails.tasks (List.getElem?_eq_getElem hlt)
  rw [procedure_eq hcall] at htrail
  exact ⟨_, _, hcall, htrail, List.mem_filter.mpr ⟨hx, by simp⟩⟩

end Course

/-! ## Disciplines and trails -/

/-- **`D.Tracks i I`**: `I` relates entries and states; every allowed action of task `i`, with its
entry, leads to a related state. -/
structure Discipline.Tracks {σ : Type} (D : Discipline σ) (i : TaskId)
    (I : List (Entry α) → σ → Prop) : Prop where
  sends : ∀ {xs s stage r}, I xs s → D.allows (.sends stage r) s →
    ∃ s', D.after (.sends stage r) s s' ∧ I (xs ++ [.sent i stage r]) s'
  receives : ∀ {xs s stage o}, I xs s →
    ∃ s', D.after (.receives stage o) s s' ∧ I (xs ++ [.answered i stage o]) s'
  acquires : ∀ {xs s l}, I xs s → D.allows (.acquires l) s →
    ∃ s', D.after (.acquires l) s s' ∧ I xs s'
  releases : ∀ {xs s l}, I xs s → D.allows (.releases l) s →
    ∃ s', D.after (.releases l) s s' ∧ I xs s'
  consults : ∀ {xs s e a}, I xs s → D.allows (.consults e a) s →
    ∃ s', D.after (.consults e a) s s' ∧ I xs s'
  remembers : ∀ {xs s e a}, I xs s → D.allows (.remembers e a) s →
    ∃ s', D.after (.remembers e a) s s' ∧ I xs s'
  emits : ∀ {xs s x}, I xs s → I (xs ++ [.signalled i x]) s
  ends : ∀ {xs s a}, I xs s → I (xs ++ [.ended i a]) s

/-- **Soundness of tracking**: along a trail of a procedure that follows `D`, entries and states
stay related. -/
theorem Trail.tracked {σ : Type} {D : Discipline σ} {I : List (Entry α) → σ → Prop}
    {Q : α → σ → Prop} {s₀ : σ} (h : Trail i p xs t) (hp : p.Follows D Q s₀) (hD : D.Tracks i I)
    (h₀ : I [] s₀) : ∃ s, t.Follows D Q s ∧ I xs s := by
  induction h with
  | start => exact ⟨s₀, hp, h₀⟩
  | act _ ha ih =>
    obtain ⟨s, hf, hI⟩ := ih
    cases ha with
    | done a => exact ⟨s, ⟨a, hf⟩, hD.ends hI⟩
    | send stage r next =>
      obtain ⟨s', hs', hI'⟩ := hD.sends hI hf.1
      exact ⟨s', hf.2 s' hs', hI'⟩
    | take l k next =>
      obtain ⟨s', hs', hI'⟩ := hD.acquires hI hf.1
      exact ⟨s', hf.2 s' hs', by rwa [List.append_nil]⟩
    | wait l k next => exact ⟨s, hf, by rwa [List.append_nil]⟩
    | release l next =>
      obtain ⟨s', hs', hI'⟩ := hD.releases hI hf.1
      exact ⟨s', hf.2 s' hs', by rwa [List.append_nil]⟩
    | consult e next =>
      obtain ⟨ha, hnext⟩ := hf _
      obtain ⟨s', hs', hI'⟩ := hD.consults hI ha
      exact ⟨s', hnext s' hs', by rwa [List.append_nil]⟩
    | remember e a next =>
      obtain ⟨s', hs', hI'⟩ := hD.remembers hI hf.1
      exact ⟨s', hf.2 s' hs', by rwa [List.append_nil]⟩
    | emit x next => exact ⟨s, hf, hD.emits hI⟩
  | answer o _ ih =>
    obtain ⟨s, hf, hI⟩ := ih
    obtain ⟨s', hs', hI'⟩ := hD.receives hI
    exact ⟨s', hf o s' hs', hI'⟩
  | grant _ hw ih =>
    obtain ⟨s, hf, hI⟩ := ih
    obtain ⟨next, he⟩ := Task.eq_of_awaited? hw
    rw [he] at hf ⊢
    obtain ⟨s', hs', hI'⟩ := hD.acquires hI hf.1
    exact ⟨s', hf.2 s' hs', hI'⟩
  | drop _ _ ih =>
    obtain ⟨s, -, hI⟩ := ih
    exact ⟨s, trivial, hI⟩

end TenantApps
