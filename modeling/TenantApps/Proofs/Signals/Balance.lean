import Mathlib.Data.Set.Card
import TenantApps.Proofs.Names.Exclusion
import TenantApps.Proofs.Signals.Tally
import TenantApps.Proofs.Tasks.Trail

/-!
# `TenantApps.Proofs.Signals.Balance` — conservation laws of the counters

In every reachable course, an operation that has begun has counted one attempt, and, if it is
finished, one success or one failure with the stage of its error. Summed over all calls, attempts
are the successes, the failures, the unfinished and the dropped operations, and failures are the sum
over all stages. Within a turn this does not hold, since the task that runs may not have counted its
attempt yet; the invariant is weaker for this one task.

## Contents
- `Report.countsOf`, the counts of a task, as a `tally` of its entries, and `countP_tally`, their
  sum.
- `Task.Keeps`, the invariant of a task with its account, with one lemma for each event.
- `Machine.Tallied`, the invariant of the machine, and `Course.Reachable.tallied`.
- `Course.Reachable.countsOf_ended`, `countsOf_begun`, `countsOf_quiet`, the counts of one call.
- `Course.Standing`, the counts of one call by its state, with its two conservation laws.
- `Course.counters_balance`, the **main result**.
-/

namespace TenantApps

open Telemetry

/-! ## Tallies -/

section

variable {α : Type}

/-- The counts among some entries. -/
def tally (xs : List (Entry α)) : List Count := counts (Report.signals ⟨xs⟩)

/-- The counts of task `i`. -/
def Report.countsOf (r : Report α) (i : TaskId) : List Count := tally (r.of i)

theorem tally_append (xs ys : List (Entry α)) : tally (xs ++ ys) = tally xs ++ tally ys := by
  rw [tally, Report.signals, List.filterMap_append, counts, List.filterMap_append]
  rfl

/-- A count over all entries is the sum over the tasks. -/
theorem countP_tally (p : Count → Bool) {n : Nat} {xs : List (Entry α)}
    (h : ∀ x ∈ xs, x.task < n) : (tally xs).countP p =
      ∑ i ∈ Finset.range n, (tally (xs.filter (·.task = i))).countP p := by
  induction xs with
  | nil => simp [tally, Report.signals, counts]
  | cons x xs ih =>
    have hx : x.task ∈ Finset.range n := Finset.mem_range.mpr (h x List.mem_cons_self)
    have hsplit (i : TaskId) : (tally ((x :: xs).filter (·.task = i))).countP p =
        (if x.task = i then (tally [x]).countP p else 0) +
          (tally (xs.filter (·.task = i))).countP p := by
      rw [List.filter_cons]
      by_cases hi : x.task = i
      · simp only [hi, decide_true, if_true]
        rw [← List.singleton_append, tally_append, List.countP_append]
      · simp [hi]
    rw [← List.singleton_append, tally_append, List.countP_append,
      ih fun y hy => h y (List.mem_cons_of_mem x hy)]
    simp only [List.singleton_append, hsplit, Finset.sum_add_distrib]
    rw [Finset.sum_ite_eq, if_pos hx]

end

/-! ## The invariant of a task -/

section

variable {α : Type} {A : Account α} {p₀ p : Procedure α} {i : TaskId} {pauses : Prop}
  {xs ys : List (Entry α)} {t : Task α} {held : List (Lock × MutexId)} {c c' : Cache}

/-- **`Task.Keeps A p₀ pauses xs t`**: the task of the procedure `p₀` with the entries `xs` keeps
the account `A`; if it `pauses`, it has counted `A.opening`, or it has not begun. -/
def Task.Keeps (A : Account α) (p₀ : Procedure α) (pauses : Prop) (xs : List (Entry α))
    (t : Task α) : Prop :=
  match t.status with
  | .ready p => p.Keeps A (tally xs) ∧ (pauses → tally xs = A.opening ∨ p = p₀ ∧ xs = [])
  | .awaitingAnswer _ next => tally xs = A.opening ∧ ∀ o, (next o).Keeps A A.opening
  | .awaitingLock _ _ next => tally xs = A.opening ∧ next.Keeps A A.opening
  | .finished => ∃ j a, .ended j a ∈ xs ∧ tally xs = A.opening ++ A.closing a
  | .dropped => tally xs = A.opening ∨ xs = []

theorem Task.Keeps.start (h : p₀.Keeps A []) : (⟨.ready p₀, []⟩ : Task α).Keeps A p₀ pauses [] :=
  ⟨h, fun _ => .inr ⟨rfl, rfl⟩⟩

/-- The invariant without `pauses` is weaker. -/
theorem Task.Keeps.loosen (h : t.Keeps A p₀ pauses xs) : t.Keeps A p₀ False xs := by
  obtain ⟨st, held⟩ := t
  cases st with
  | ready p => exact ⟨h.1, False.elim⟩
  | awaitingAnswer stage next | awaitingLock l k next | finished | dropped => exact h

/-- A task that is not ready has counted its opening. -/
theorem Task.Keeps.tighten (h : t.Keeps A p₀ False xs) (ht : t.status.ready?.isSome = false) :
    t.Keeps A p₀ pauses xs := by
  obtain ⟨st, held⟩ := t
  cases st with
  | ready p => cases ht
  | awaitingAnswer stage next | awaitingLock l k next | finished | dropped => exact h

theorem Task.Keeps.act (h : (⟨.ready p, held⟩ : Task α).Keeps A p₀ False xs)
    (ha : Machine.Acts c i held p t ys c') : t.Keeps A p₀ False (xs ++ ys) := by
  have hp : p.Keeps A (tally xs) := h.1
  cases ha with
  | done a =>
    have htally : tally (xs ++ [.ended i a]) = tally xs := by
      rw [tally_append]
      exact List.append_nil _
    exact ⟨i, a, List.mem_append_right _ List.mem_cons_self, htally.trans hp⟩
  | send stage r next =>
    have htally : tally (xs ++ [.sent i stage r]) = tally xs := by
      rw [tally_append]
      exact List.append_nil _
    obtain ⟨hopening, hnext⟩ := hp
    exact ⟨htally.trans hopening, fun o => hopening ▸ hnext o⟩
  | wait l k next =>
    rw [List.append_nil]
    obtain ⟨hopening, hnext⟩ := hp
    exact ⟨hopening, hopening ▸ hnext⟩
  | take l k next =>
    rw [List.append_nil]
    exact ⟨hp.2, False.elim⟩
  | release l next | remember e a next =>
    rw [List.append_nil]
    exact ⟨hp, False.elim⟩
  | consult e next =>
    rw [List.append_nil]
    exact ⟨hp _, False.elim⟩
  | emit x next =>
    refine ⟨?_, False.elim⟩
    rw [tally_append]
    exact hp

theorem Task.Keeps.granted {g : Lock × MutexId} (h : t.Keeps A p₀ pauses xs)
    (hw : t.awaited? = some g) : t.granted.Keeps A p₀ pauses xs := by
  obtain ⟨next, he⟩ := Task.eq_of_awaited? hw
  rw [he] at h ⊢
  obtain ⟨hopening, hnext⟩ := h
  refine ⟨?_, fun _ => .inl hopening⟩
  rw [hopening]
  exact hnext

theorem Task.Keeps.answer {stage : Stage} {next : Http.Outcome → Procedure α}
    (h : (⟨.awaitingAnswer stage next, held⟩ : Task α).Keeps A p₀ pauses xs) (o : Http.Outcome) :
    (⟨.ready (next o), held⟩ : Task α).Keeps A p₀ pauses (xs ++ [.answered i stage o]) := by
  obtain ⟨hopening, hnext⟩ := h
  have htally : tally (xs ++ [.answered i stage o]) = A.opening := by
    rw [tally_append, ← hopening]
    exact List.append_nil _
  refine ⟨?_, fun _ => .inl htally⟩
  rw [htally]
  exact hnext o

theorem Task.Keeps.drop (h : t.Keeps A p₀ True xs) (ho : t.status.isOver = false) :
    (⟨.dropped, []⟩ : Task α).Keeps A p₀ pauses xs := by
  obtain ⟨st, held⟩ := t
  cases st with
  | ready p => exact (h.2 trivial).imp_right And.right
  | awaitingAnswer stage next | awaitingLock l k next => exact .inl h.1
  | finished | dropped => cases ho

end

/-! ## The invariant of the machine -/

namespace Machine

variable {α : Type} {A : TaskId → Account α} {procs : TaskId → Procedure α}
  {turn turn' : Option TaskId} {m m' : Machine α} {i : TaskId} {t : Task α} {p : Procedure α}
  {xs : List (Entry α)} {c : Cache}

/-- **`Tallied A procs turn m`**: every task keeps its account, and all but the one whose `turn` it
is pause. -/
structure Tallied (A : TaskId → Account α) (procs : TaskId → Procedure α) (turn : Option TaskId)
    (m : Machine α) : Prop where
  consistent : m.Consistent
  tasks : ∀ {i : TaskId} {t : Task α}, m.tasks[i]? = some t →
    t.Keeps (A i) (procs i) (turn ≠ some i) (m.report.of i)

theorem Tallied.change (h : Tallied A procs turn m) (hch : Change m i t xs c m')
    (hx : ∀ x ∈ xs, x.task = i)
    (hown : t.Keeps (A i) (procs i) (turn ≠ some i) (m.report.of i ++ xs)) :
    Tallied A procs turn m' := by
  refine ⟨hch.consistent, hch.tasks
    (P := fun j u => u.Keeps (A j) (procs j) (turn ≠ some j) (m.report.of j))
    (R := fun j u => u.Keeps (A j) (procs j) (turn ≠ some j) (m'.report.of j)) h.tasks ?_ ?_ ?_⟩
  · rw [hch.of hx, if_pos rfl]
    exact hown
  · intro j u hj _ hu
    rw [hch.of hx, if_neg hj, List.append_nil]
    exact hu
  · intro j u g hj _ hu hw
    rw [hch.of hx, if_neg hj, List.append_nil]
    exact hu.granted hw

/-- **Preservation by a turn**: induction on the procedure. -/
theorem Tallied.run (h : Tallied A procs none m) (ht : m.status? i = some (.ready p)) :
    Tallied A procs none (Machine.run i p m) := by
  obtain ⟨⟨st, held⟩, ht, rfl⟩ := Option.map_eq_some_iff.mp ht
  have hbegin : Tallied A procs (some i) m := by
    refine ⟨h.consistent, fun {j u} hu => ?_⟩
    by_cases hj : j = i
    · subst hj
      simpa using (h.tasks hu).loosen
    · simpa [Ne.symm hj] using h.tasks hu
  obtain ⟨hc, hready, hend⟩ := h.consistent.run (P := Tallied A procs (some i)) i
    (fun hc ht hm => by
      obtain ⟨t, xs, c, ha, hch⟩ := hc.act ht
      refine hm.change hch ha.task ?_
      simpa using (hm.tasks ht).loosen.act ha) p ht hbegin
  refine ⟨hc, fun {j u} hu => ?_⟩
  by_cases hj : j = i
  · subst hj
    exact (hend.tasks hu).loosen.tighten ((isReady_of hu).symm.trans hready)
  · simpa [Ne.symm hj] using hend.tasks hu

theorem Tallied.start (h : Tallied A procs none m) (ha : m.accept? (.start p) = some m')
    (hp : procs m.tasks.length = p) (hA : p.Keeps (A m.tasks.length) [])
    (hnone : m.report.of m.tasks.length = []) : Tallied A procs none m' := by
  obtain ⟨hc, htasks, -, hreport⟩ := h.consistent.start ha
  refine ⟨hc, fun {j u} hu => ?_⟩
  rw [htasks, getElem?_start] at hu
  rw [hreport]
  split at hu
  · next hj =>
    subst hj
    cases hu
    rw [hnone, hp]
    exact .start hA
  · exact h.tasks hu

theorem Tallied.answer {o : Http.Outcome} (h : Tallied A procs none m)
    (ha : m.accept? (.answer i o) = some m') : Tallied A procs none m' := by
  obtain ⟨stage, next, held, ht, hch⟩ := h.consistent.answer ha
  exact h.change hch (fun x hx => by rw [List.mem_singleton.mp hx]; rfl) ((h.tasks ht).answer o)

theorem Tallied.drop (h : Tallied A procs none m) (ha : m.accept? (.drop i) = some m') :
    Tallied A procs none m' := by
  obtain ⟨t, ht, ho, hch⟩ := h.consistent.drop ha
  refine h.change hch (List.forall_mem_nil _) ?_
  rw [List.append_nil]
  refine Task.Keeps.drop (t := t) ?_ ho
  simpa using h.tasks ht

end Machine

/-! ## The counts of a call -/

namespace Course

open Machine

variable {c : Client} {s : Course} {i : TaskId} {call : Call} {op : Operation}
  {r : Except Error Answer}

/-- **Every reachable course is `Tallied`**, whatever the calls that are still to come are. -/
theorem Reachable.tallied (h : Reachable c s) (calls : TaskId → Call)
    (hcalls : ∀ i call, s.calls[i]? = some call → calls i = call) :
    Tallied (fun i => (calls i).account) (fun i => c.answer (calls i)) none s.machine := by
  induction h with
  | refl => exact ⟨consistent_init, fun ht => nomatch ht⟩
  | @tail s s' hs hstep ih =>
    have hs : Reachable c s := hs
    cases hstep with
    | event e ha =>
      have h := ih fun i call hi => hcalls i call (by
        rw [List.getElem?_append_left (List.getElem?_eq_some_iff.mp hi).1]
        exact hi)
      cases e with
      | ask call =>
        have hcall : calls s.machine.tasks.length = call := by
          rw [← hs.consistent.2]
          exact hcalls _ _ (List.getElem?_concat_length ..)
        have hnone : s.machine.report.of s.machine.tasks.length = [] :=
          List.filter_eq_nil_iff.mpr fun x hm => by
            simpa using Nat.ne_of_lt (hs.trails.known x hm)
        exact h.start ha (congrArg c.answer hcall) (hcall ▸ c.answer_keeps call) hnone
      | answer i o => exact h.answer ha
      | drop i => exact h.drop ha
    | turn ht => exact (ih hcalls).run ht

/-- The task of a call keeps the account of the call. -/
theorem Reachable.keeps (h : Reachable c s) (hi : s.calls[i]? = some call) :
    ∃ t, s.machine.tasks[i]? = some t ∧
      t.Keeps call.account (c.answer call) True (s.machine.report.of i) := by
  have hlt : i < s.machine.tasks.length := by
    rw [← h.consistent.2]
    exact (List.getElem?_eq_some_iff.mp hi).1
  have ht := List.getElem?_eq_getElem hlt
  have hk := (h.tallied (fun j => (s.calls[j]?).getD .settings) fun j call hj => by
    rw [hj, Option.getD_some]).tasks ht
  simp only [hi, Option.getD_some] at hk
  exact ⟨_, ht, by simpa using hk⟩

/-- A task with a result is finished and has one result. -/
theorem Reachable.ended (h : Reachable c s) {t : Task (Except Error Answer)} {j : TaskId}
    (ht : s.machine.tasks[i]? = some t) (hm : .ended j r ∈ s.machine.report.of i) :
    t.status = .finished ∧ ∃ ys, s.machine.report.of i = ys ++ [.ended i r] := by
  obtain ⟨hst, ys, -, hys, -⟩ := (h.trails.tasks ht).of_ended hm
  exact ⟨hst, ys, hys⟩

theorem mem_of_results (hr : (i, r) ∈ s.machine.report.results) :
    .ended i r ∈ s.machine.report.of i :=
  List.mem_filter.mpr ⟨Report.mem_results.mp hr, by simp [Entry.task]⟩

theorem results_of_mem {j : TaskId} (hm : .ended j r ∈ s.machine.report.of i) :
    (i, r) ∈ s.machine.report.results := by
  obtain ⟨hx, hj⟩ := List.mem_filter.mp hm
  obtain rfl : j = i := of_decide_eq_true hj
  exact Report.mem_results.mpr hx

/-- A call with a result has counted its opening and its closing. -/
theorem Reachable.countsOf_ended (h : Reachable c s) (hi : s.calls[i]? = some call)
    (hr : (i, r) ∈ s.machine.report.results) :
    s.machine.report.countsOf i = call.account.opening ++ call.account.closing r := by
  obtain ⟨⟨st, held⟩, ht, hk⟩ := h.keeps hi
  obtain ⟨rfl, ys, hys⟩ := h.ended ht (mem_of_results hr)
  obtain ⟨j, a, hm, htally⟩ := hk
  obtain ⟨-, ys', hys'⟩ := h.ended ht hm
  have hlast : Entry.ended i r = .ended i a := by
    have := congrArg List.getLast? (hys.symm.trans hys')
    simpa using this
  cases hlast
  exact htally

/-- An operation that has begun and has no result has counted its attempt only. -/
theorem Reachable.countsOf_begun (h : Reachable c s) (hi : s.calls[i]? = some call)
    (hop : call.operation? = some op) (hb : s.machine.report.of i ≠ [])
    (hr : ∀ r, (i, r) ∉ s.machine.report.results) :
    s.machine.report.countsOf i = [.total op .attempt] := by
  obtain ⟨⟨st, held⟩, ht, hk⟩ := h.keeps hi
  have hopening : call.account.opening = [.total op .attempt] := by
    rw [Call.account, hop]
    rfl
  rw [← hopening]
  cases st with
  | ready p => exact (hk.2 trivial).resolve_right fun h => hb h.2
  | awaitingAnswer stage next | awaitingLock l k next => exact hk.1
  | finished =>
    obtain ⟨j, a, hm, -⟩ := hk
    exact absurd (results_of_mem hm) (hr a)
  | dropped => exact hk.resolve_right hb

/-- An operation without entries was dropped or is ready with its whole procedure. -/
theorem Reachable.status_idle (h : Reachable c s) (hi : s.calls[i]? = some call)
    (hop : call.operation? = some op) (hb : s.machine.report.of i = []) :
    s.machine.status? i = some (.ready (c.answer call)) ∨
      s.machine.status? i = some .dropped := by
  obtain ⟨⟨st, held⟩, ht, hk⟩ := h.keeps hi
  have hopening : tally (s.machine.report.of i) ≠ call.account.opening := by
    rw [Call.account, hop, hb]
    exact nofun
  rw [status?, ht]
  cases st with
  | ready p =>
    obtain ⟨rfl, -⟩ := (hk.2 trivial).resolve_left hopening
    exact .inl rfl
  | awaitingAnswer stage next | awaitingLock l k next => exact absurd hk.1 hopening
  | finished =>
    obtain ⟨j, a, hm, -⟩ := hk
    rw [hb] at hm
    cases hm
  | dropped => exact .inr rfl

/-- A call that is no operation counts nothing. -/
theorem Reachable.countsOf_quiet (h : Reachable c s) (hi : s.calls[i]? = some call)
    (hop : call.operation? = none) : s.machine.report.countsOf i = [] := by
  obtain ⟨⟨st, held⟩, ht, hk⟩ := h.keeps hi
  have haccount : call.account = ⟨[], fun _ => []⟩ := by
    rw [Call.account, hop]
    rfl
  rw [haccount] at hk
  have idle (h : s.machine.report.of i = []) : s.machine.report.countsOf i = [] := by
    rw [Report.countsOf, h]
    rfl
  cases st with
  | ready p => exact (hk.2 trivial).elim id fun h => idle h.2
  | awaitingAnswer stage next | awaitingLock l k next => exact hk.1
  | finished =>
    obtain ⟨j, a, -, htally⟩ := hk
    exact htally
  | dropped => exact hk.elim id idle

/-! ## Conservation laws -/

/-- Call `i` is the operation `op`, and its task has entries. -/
def Begun (s : Course) (op : Operation) (i : TaskId) : Prop :=
  (s.calls[i]?).bind Call.operation? = some op ∧ s.machine.report.of i ≠ []

def Dropped (s : Course) (i : TaskId) : Prop := s.machine.status? i = some .dropped

/-- **`Standing s i xs`**: the counts `xs` of call `i` by its state. -/
inductive Standing (s : Course) (i : TaskId) : List Count → Prop
  /-- No operation, or not begun. -/
  | none (hb : ∀ op, ¬s.Begun op i) : Standing s i []
  /-- Unfinished or dropped. -/
  | pending (op : Operation) (hb : s.Begun op i) (hs : s.machine.Unfinished i ↔ ¬s.Dropped i) :
    Standing s i [.total op .attempt]
  /-- Finished, with the stage of the error if it failed. -/
  | closed (op : Operation) (end? : Option (Option Stage)) (hb : s.Begun op i)
    (hu : ¬s.machine.Unfinished i) (hd : ¬s.Dropped i) :
    Standing s i (.total op .attempt :: Count.ofEnd op end?)

theorem Reachable.standing (h : Reachable c s) (hi : s.calls[i]? = some call) :
    Standing s i (s.machine.report.countsOf i) := by
  have begun {op : Operation} (hop : call.operation? = some op)
      (hb : s.machine.report.of i ≠ []) : s.Begun op i := by
    rw [Begun, hi]
    exact ⟨hop, hb⟩
  cases hop : call.operation? with
  | none =>
    rw [h.countsOf_quiet hi hop]
    refine .none fun op hb => ?_
    have := hb.1
    rw [hi, Option.bind_some, hop] at this
    cases this
  | some op =>
    by_cases hb : s.machine.report.of i = []
    · rw [Report.countsOf, hb]
      exact .none fun op h => h.2 hb
    obtain ⟨⟨st, held⟩, ht, hk⟩ := h.keeps hi
    by_cases hr : ∃ r, (i, r) ∈ s.machine.report.results
    · obtain ⟨r, hr⟩ := hr
      obtain ⟨rfl, -⟩ := h.ended ht (mem_of_results hr)
      rw [h.countsOf_ended hi hr, Call.account, hop]
      refine .closed op _ (begun hop hb) ?_ ?_
      · rintro ⟨t, ht', ho⟩
        cases ht.symm.trans ht'
        cases ho
      · rw [Dropped, status?, ht]
        intro hd
        cases hd
    · rw [h.countsOf_begun hi hop hb fun r hm => hr ⟨r, hm⟩]
      refine .pending op (begun hop hb) ?_
      rw [Dropped, status?, ht, Unfinished]
      cases st with
      | ready p | awaitingAnswer stage next | awaitingLock l k next =>
        refine ⟨fun _ hd => ?_, fun _ => ⟨_, ht, rfl⟩⟩
        cases hd
      | finished =>
        obtain ⟨j, a, hm, -⟩ := hk
        exact absurd ⟨a, results_of_mem hm⟩ hr
      | dropped =>
        refine ⟨?_, fun h => absurd rfl h⟩
        rintro ⟨t, ht', ho⟩
        cases ht.symm.trans ht'
        cases ho

theorem Begun.iff {op' : Operation} (h : s.Begun op' i) : s.Begun op i ↔ op' = op := by
  constructor
  · intro h'
    exact Option.some.inj (h.1.symm.trans h'.1)
  · rintro rfl
    exact h

open Classical in
/-- The first law for one call: attempts are successes, failures, unfinished and dropped
operations. -/
theorem Standing.attempts {xs : List Count} (h : Standing s i xs) (op : Operation) :
    xs.count (.total op .attempt) =
      xs.count (.total op .success) + xs.count (.total op .failure) +
        (if s.Begun op i ∧ s.machine.Unfinished i then 1 else 0) +
        (if s.Begun op i ∧ s.Dropped i then 1 else 0) := by
  cases h with
  | none hb => simp [hb op]
  | pending op' hb hs =>
    rw [hb.iff, hs]
    by_cases hd : s.Dropped i <;> cases op <;> cases op' <;> simp [hd]
  | closed op' end? hb hu hd =>
    rcases end? with _ | stage <;> cases op <;> cases op' <;> simp [hu, hd, Count.ofEnd]

/-- The failures of an operation that are counted with their stage. -/
def byStage (op : Operation) : Count → Bool
  | .failure op' _ => op' = op
  | .total .. => false

/-- The second law for one call: failures are counted with one stage each. -/
theorem Standing.failures {xs : List Count} (h : Standing s i xs) (op : Operation) :
    xs.count (.total op .failure) = xs.countP (byStage op) := by
  cases h with
  | none hb => rfl
  | pending op' hb hs => cases op <;> cases op' <;> rfl
  | closed op' end? hb hu hd => rcases end? with _ | stage <;> cases op <;> cases op' <;> rfl

theorem sum_stages (stage : Option Stage) :
    ((none :: Stage.all.map some).map fun stage' => if stage = stage' then 1 else 0).sum = 1 := by
  rcases stage with _ | stage
  · rfl
  · cases stage <;> rfl

/-- The sum over the stages. -/
theorem countP_byStage (op : Operation) (xs : List Count) : xs.countP (byStage op) =
    ((none :: Stage.all.map some).map fun stage => xs.count (.failure op stage)).sum := by
  induction xs with
  | nil => rfl
  | cons x xs ih =>
    have hx : (if byStage op x then 1 else 0) = ((none :: Stage.all.map some).map fun stage =>
        if x = .failure op stage then 1 else 0).sum := by
      cases x with
      | total op' r => simp [byStage, Stage.all]
      | failure op' stage =>
        by_cases hop : op' = op
        · subst hop
          simpa [byStage] using (sum_stages stage).symm
        · simp [byStage, hop, Stage.all]
    rw [List.countP_cons, ih, hx, ← List.sum_map_add]
    simp only [List.count_cons, beq_iff_eq]

/-- A count over a course is the sum over its calls. -/
theorem Reachable.countP_counts (h : Reachable c s) (p : Count → Bool) :
    (counts s.machine.report.signals).countP p =
      ∑ i ∈ Finset.range s.calls.length, (s.machine.report.countsOf i).countP p := by
  rw [h.consistent.2]
  exact countP_tally p h.trails.known

theorem Reachable.standing_of_mem (h : Reachable c s) (hi : i ∈ Finset.range s.calls.length) :
    Standing s i (s.machine.report.countsOf i) :=
  h.standing (List.getElem?_eq_getElem (Finset.mem_range.mp hi))

open Classical in
/-- The number of calls with a property, as a sum over all calls. -/
theorem ncard_begun (op : Operation) (P : TaskId → Prop) : {i | s.Begun op i ∧ P i}.ncard =
    ∑ i ∈ Finset.range s.calls.length, if s.Begun op i ∧ P i then 1 else 0 := by
  have hset : {i | s.Begun op i ∧ P i} =
      ↑((Finset.range s.calls.length).filter fun i => s.Begun op i ∧ P i) := by
    ext i
    rw [Finset.coe_filter, Set.mem_ofPred_eq, Set.mem_ofPred_eq, iff_and_self]
    rintro ⟨⟨hcall, -⟩, -⟩
    obtain ⟨call, hi, -⟩ := Option.bind_eq_some_iff.mp hcall
    exact Finset.mem_range.mpr (List.getElem?_eq_some_iff.mp hi).1
  rw [hset, Set.ncard_coe_finset, Finset.card_filter]

/-- **`Counted`**: the counts of an operation by its result and its state. -/
structure Counted (c : Client) (s : Course) (i : TaskId) (call : Call) (op : Operation) :
    Prop where
  succeeded : ∀ a, (i, .ok a) ∈ s.machine.report.results →
    s.machine.report.countsOf i = [.total op .attempt, .total op .success]
  /-- With the stage of the error. -/
  failed : ∀ e, (i, .error e) ∈ s.machine.report.results →
    s.machine.report.countsOf i =
      [.total op .attempt, .total op .failure, .failure op e.stage] ∧
    (Count.failure op e.stage).labels =
      [("operation", op.label), ("stage", (e.stage.map Stage.label).getD "local")]
  /-- Unfinished or dropped. -/
  begun : s.machine.report.of i ≠ [] → (∀ r, (i, r) ∉ s.machine.report.results) →
    s.machine.report.countsOf i = [.total op .attempt]
  idle : s.machine.report.of i = [] → s.machine.report.countsOf i = [] ∧
    (s.machine.status? i = some (.ready (c.answer call)) ∨ s.Dropped i)

theorem Reachable.counted (h : Reachable c s) (hi : s.calls[i]? = some call)
    (hop : call.operation? = some op) : Counted c s i call op := by
  have haccount : call.account = op.account Answer := by
    rw [Call.account, hop]
    rfl
  constructor
  · intro a ha
    rw [h.countsOf_ended hi ha, haccount]
    rfl
  · intro e he
    rw [h.countsOf_ended hi he, haccount]
    exact ⟨rfl, rfl⟩
  · exact h.countsOf_begun hi hop
  · intro hb
    refine ⟨?_, h.status_idle hi hop hb⟩
    rw [Report.countsOf, hb]
    rfl

/-- **The counters balance.** In every reachable course, calls that are no operation count nothing,
and every operation is `Counted`; for each operation, attempts are the successes, the failures, the
unfinished and the dropped ones, and failures are the sum over all stages. -/
theorem counters_balance (h : Reachable c s) :
    (∀ i call, s.calls[i]? = some call → call.operation? = none →
      s.machine.report.countsOf i = []) ∧
    (∀ i call op, s.calls[i]? = some call → call.operation? = some op → Counted c s i call op) ∧
    ∀ op, let n (x : Count) := (counts s.machine.report.signals).count x
      n (.total op .attempt) = n (.total op .success) + n (.total op .failure) +
          {i | s.Begun op i ∧ s.machine.Unfinished i}.ncard +
          {i | s.Begun op i ∧ s.Dropped i}.ncard ∧
        n (.total op .failure) =
          ((none :: Stage.all.map some).map fun stage => n (.failure op stage)).sum := by
  refine ⟨fun i call hi hop => h.countsOf_quiet hi hop,
    fun i call op hi hop => h.counted hi hop, fun op => ⟨?_, ?_⟩⟩
  · simp only [List.count, h.countP_counts, ncard_begun, ← Finset.sum_add_distrib]
    exact Finset.sum_congr rfl fun i hi => (h.standing_of_mem hi).attempts op
  · rw [← countP_byStage]
    simp only [List.count, h.countP_counts]
    exact Finset.sum_congr rfl fun i hi => (h.standing_of_mem hi).failures op

/-- A creation that is dropped, a deletion that succeeds, and a creation of no name, which fails. -/
def mixedCourse : Course :=
  play .sample [.ask (.create "a"), .ask (.delete "b"), .ask (.create ""),
    .answer 0 (.answered { status := 404 }), .drop 0, .answer 1 (.answered { status := 404 })] {}

/-- `counters_balance` on `mixedCourse`. -/
theorem counters_balance_sample :
    let s := mixedCourse
    let n (x : Count) := (counts s.machine.report.signals).count x
    Reachable .sample s ∧ n (.total .createApplication .attempt) = 2 ∧
      s.machine.report.countsOf 1 =
        [.total .deleteApplication .attempt, .total .deleteApplication .success] ∧
      n (.total .createApplication .attempt) =
        n (.total .createApplication .success) + n (.total .createApplication .failure) +
          {i | s.Begun .createApplication i ∧ s.machine.Unfinished i}.ncard +
          {i | s.Begun .createApplication i ∧ s.Dropped i}.ncard := by
  intro s n
  have h : Reachable .sample s := Reachable.play _ .refl
  obtain ⟨-, hcounted, hbalance⟩ := counters_balance h
  have hcall : s.calls[1]? = some (.delete "b") := by decide
  have hr : (1, .ok .deleted) ∈ s.machine.report.results := by decide
  exact ⟨h, by decide, (hcounted 1 _ _ hcall rfl).succeeded _ hr,
    (hbalance .createApplication).1⟩

end Course

end TenantApps
