import Mathlib.Algebra.BigOperators.Group.Finset.Piecewise
import Mathlib.Algebra.Order.BigOperators.Group.Finset
import TenantApps.Proofs.Names.Exclusion
import TenantApps.Proofs.Progress.Effort
import TenantApps.Proofs.Tasks.Trail

/-!
# `TenantApps.Proofs.Progress.Budget` — a potential for machines, and deadlock freedom

The potential of a task is what its `Effort` is worth when a request is worth `price`. No step
raises it, every turn lowers the one of the task that runs, and with `price ≥ 5` so does a response.
Turns between two events are bounded by the sum of the potentials. A waiting task holds locks of
lower rank than the one it waits for, so `Machine.WaitsFor` has no cycle.

## Contents
- `Task.Working` and `Task.cost`, a task with its effort and its potential; `Task.Costs`.
- `Machine.Allotted`, a bound on the potential of each task, with `Allotted.start`, `answer`, `drop`
  and `run`.
- `Machine.Allotted.settle` and `Course.Rounds.le_sum`, bounds on the turns between two events.
- `Machine.Awaits` and `Machine.WaitsFor`, with `Allotted.exists_behind` and `Allotted.acyclic`.
- `Course.Reachable.allotted` and `Course.Reachable.requests_le`, the results for courses.
-/

namespace TenantApps

variable {α : Type}

/-! ## The potential of a task -/

/-- **`Working t e`**: the rest of `t` follows `metered` from `e`, `e` has the locks of `t`, and
their ranks are below `e.level`. -/
structure Task.Working (t : Task α) (e : Effort) : Prop where
  follows : t.Follows metered (fun _ e => e.holding = []) e
  held : t.held.map Prod.fst = e.holding
  below : ∀ l ∈ e.holding, l.rank < e.level

/-- The potential of a task with the effort `e`; the summand `3 - e.level` pays for the locks that
may still be acquired, `1` for the turn of a ready task. -/
def Task.cost (price : Nat) (t : Task α) (e : Effort) : Nat :=
  match t.status with
  | .ready _ => price * e.left + (3 - e.level) + 1
  | .awaitingAnswer .. => price * e.left + price
  | .awaitingLock .. => price * e.left + (3 - e.level)
  | .finished | .dropped => 0

/-- `Costs price w t`: the potential of `t` is at most `w` for some effort. -/
def Task.Costs (price w : Nat) (t : Task α) : Prop := ∃ e, t.Working e ∧ t.cost price e ≤ w

section

variable {price w w' : Nat} {t : Task α} {p : Procedure α} {held : List (Lock × MutexId)}
  {c c' : Cache} {i : TaskId} {xs : List (Entry α)} {e : Effort} {l l' : Lock} {k k' : MutexId}

theorem Task.Costs.mono (h : t.Costs price w) (hw : w ≤ w') : t.Costs price w' := by
  obtain ⟨e, hworking, hcost⟩ := h
  exact ⟨e, hworking, Nat.le_trans hcost hw⟩

/-- With `price = 0` the potential is at most 4. -/
theorem Task.Costs.free (h : t.Costs price w) : t.Costs 0 4 := by
  obtain ⟨e, hworking, -⟩ := h
  refine ⟨e, hworking, ?_⟩
  unfold Task.cost
  split <;> omega

/-- The potential of a ready task is positive. -/
theorem Task.Costs.pos (h : (⟨.ready p, held⟩ : Task α).Costs price w) : 0 < w := by
  obtain ⟨e, -, hcost⟩ := h
  exact Nat.lt_of_lt_of_le (Nat.succ_pos _) hcost

/-- A waiting task holds locks of lower rank than the one it waits for. -/
theorem Task.Working.rank_lt (h : t.Working e) (hw : t.awaited? = some (l, k))
    (hm : (l', k') ∈ t.held) : l'.rank < l.rank := by
  obtain ⟨next, he⟩ := Task.eq_of_awaited? hw
  have hf := h.follows
  rw [he] at hf
  have hl' : l' ∈ e.holding := h.held ▸ List.mem_map_of_mem (f := Prod.fst) hm
  exact Nat.lt_of_lt_of_le (h.below l' hl') hf.1

/-- A finished task holds no lock. -/
theorem Task.Working.held_eq_nil (h : t.Working e) (ht : t.status = .finished) : t.held = [] := by
  obtain ⟨st, held⟩ := t
  cases ht
  obtain ⟨_, hnil⟩ := h.follows
  exact List.map_eq_nil_iff.mp (h.held.trans hnil)

theorem map_eraseP (held : List (Lock × MutexId)) (l : Lock) :
    (held.eraseP (·.1 = l)).map Prod.fst = (held.map Prod.fst).erase l := by
  induction held with
  | nil => rfl
  | cons g held ih =>
    by_cases hg : g.1 = l
    · simp [hg]
    · simp [hg, ih]

theorem spend_request {left : Nat} (price : Nat) (h : 0 < left) :
    price * (left - 1) + price = price * left := by
  rw [← Nat.mul_succ, Nat.succ_eq_add_one, Nat.sub_add_cancel h]

/-- One action keeps the potential while the task stays ready, and lowers it when the task stops. -/
theorem Task.Costs.act (h : (⟨.ready p, held⟩ : Task α).Costs price w)
    (ha : Machine.Acts c i held p t xs c') :
    t.Costs price (if t.status.ready?.isSome then w else w - 1) := by
  obtain ⟨e, ⟨hf, hheld, hbelow⟩, hcost⟩ := h
  have hcost : price * e.left + (3 - e.level) + 1 ≤ w := hcost
  cases ha with
  | done a => exact ⟨e, ⟨⟨a, hf⟩, hheld, hbelow⟩, Nat.zero_le _⟩
  | send stage r next =>
    obtain ⟨hpos, hnext⟩ := hf
    refine ⟨{ e with left := e.left - 1 }, ⟨fun o e' he => hnext _ rfl o e' he, hheld, hbelow⟩, ?_⟩
    show price * (e.left - 1) + price ≤ w - 1
    rw [spend_request price hpos]
    omega
  | take l k next =>
    obtain ⟨hl, hnext⟩ := hf
    have hl : e.level ≤ l.rank := hl
    refine ⟨{ e with level := l.rank + 1, holding := l :: e.holding },
      ⟨hnext _ rfl, congrArg (l :: ·) hheld, ?_⟩, ?_⟩
    · intro l' hm
      show l'.rank < l.rank + 1
      rcases List.mem_cons.mp hm with rfl | hm
      · exact Nat.lt_succ_self _
      · have := hbelow l' hm
        omega
    · show price * e.left + (3 - (l.rank + 1)) + 1 ≤ w
      omega
  | wait l k next =>
    refine ⟨e, ⟨hf, hheld, hbelow⟩, ?_⟩
    show price * e.left + (3 - e.level) ≤ w - 1
    omega
  | release l next =>
    refine ⟨{ e with holding := e.holding.erase l }, ⟨hf.2 _ rfl, ?_, ?_⟩, hcost⟩
    · rw [← hheld]
      exact map_eraseP held l
    · exact fun l' hm => hbelow l' (List.mem_of_mem_erase hm)
  | consult x next => exact ⟨e, ⟨(hf _).2 e rfl, hheld, hbelow⟩, hcost⟩
  | remember x a next => exact ⟨e, ⟨hf.2 e rfl, hheld, hbelow⟩, hcost⟩
  | emit x next => exact ⟨e, ⟨hf, hheld, hbelow⟩, hcost⟩

/-- `Task.granted` keeps the potential: the rank of the lock pays for the turn. -/
theorem Task.Costs.granted {g : Lock × MutexId} (h : t.Costs price w) (hw : t.awaited? = some g) :
    t.granted.Costs price w := by
  obtain ⟨l, k⟩ := g
  obtain ⟨next, he⟩ := Task.eq_of_awaited? hw
  generalize t.held = held at he
  subst he
  obtain ⟨e, ⟨⟨hl, hnext⟩, hheld, hbelow⟩, hcost⟩ := h
  have hl : e.level ≤ l.rank := hl
  have hcost : price * e.left + (3 - e.level) ≤ w := hcost
  have hrank := l.rank_lt
  refine ⟨{ e with level := l.rank + 1, holding := l :: e.holding },
    ⟨hnext _ rfl, congrArg (l :: ·) hheld, ?_⟩, ?_⟩
  · intro l' hm
    show l'.rank < l.rank + 1
    rcases List.mem_cons.mp hm with rfl | hm
    · exact Nat.lt_succ_self _
    · have := hbelow l' hm
      omega
  · show price * e.left + (3 - (l.rank + 1)) + 1 ≤ w
    omega

/-- With `price ≥ 5`, a response lowers the potential. -/
theorem Task.Costs.answer {stage : Stage} {next : Http.Outcome → Procedure α} (hp : 5 ≤ price)
    (o : Http.Outcome) (h : (⟨.awaitingAnswer stage next, held⟩ : Task α).Costs price w) :
    0 < w ∧ (⟨.ready (next o), held⟩ : Task α).Costs price (w - 1) := by
  obtain ⟨e, ⟨hf, hheld, hbelow⟩, hcost⟩ := h
  have hcost : price * e.left + price ≤ w := hcost
  refine ⟨by omega, e, ⟨hf o e rfl, hheld, hbelow⟩, ?_⟩
  show price * e.left + (3 - e.level) + 1 ≤ w - 1
  omega

theorem Task.Costs.start {left : Nat}
    (h : p.Follows metered (fun _ e => e.holding = []) ⟨0, [], left⟩) :
    (⟨.ready p, []⟩ : Task α).Costs price (price * left + 4) :=
  ⟨⟨0, [], left⟩, ⟨h, rfl, List.forall_mem_nil _⟩, Nat.le_refl _⟩

theorem Task.Costs.dropped : (⟨.dropped, []⟩ : Task α).Costs price w :=
  ⟨⟨0, [], 0⟩, ⟨trivial, rfl, List.forall_mem_nil _⟩, Nat.zero_le _⟩

end

/-! ## The potential of a machine -/

namespace Machine

/-- **`Allotted price w m`**: `w i` bounds the potential of task `i`. -/
structure Allotted (price : Nat) (w : TaskId → Nat) (m : Machine α) : Prop where
  consistent : m.Consistent
  tasks : ∀ {i : TaskId} {t : Task α}, m.tasks[i]? = some t → t.Costs price (w i)

variable {price n : Nat} {w : TaskId → Nat} {m m' : Machine α} {i j : TaskId} {t : Task α}
  {p : Procedure α} {xs : List (Entry α)} {c : Cache}

/-- A `Machine.Change` affects the bound of its own task only. -/
theorem Allotted.change (h : m.Allotted price w) (hch : Change m i t xs c m')
    (ht : t.Costs price n) : m'.Allotted price (Function.update w i n) := by
  refine ⟨hch.consistent, fun {j u} hu => ?_⟩
  refine hch.tasks (P := fun j u => u.Costs price (w j))
    (R := fun j u => u.Costs price (Function.update w i n j)) h.tasks ?_ ?_ ?_ hu
  · rw [Function.update_self]
    exact ht
  · intro j u hj _ hu
    rw [Function.update_of_ne hj]
    exact hu
  · intro j u g hj _ hu hw
    rw [Function.update_of_ne hj]
    exact hu.granted hw

/-- **A turn lowers the bound** of the task that runs. -/
theorem Allotted.run (h : m.Allotted price w) (ht : m.status? i = some (.ready p)) :
    0 < w i ∧ (Machine.run i p m).Allotted price (Function.update w i (w i - 1)) := by
  obtain ⟨⟨st, held⟩, ht, rfl⟩ := Option.map_eq_some_iff.mp ht
  have ready {m : Machine α} {p : Procedure α} {held : List (Lock × MutexId)}
      (ht : m.tasks[i]? = some ⟨.ready p, held⟩) :
      Function.update w i (if m.isReady i then w i else w i - 1) = w := by
    rw [show m.isReady i = true from isReady_of ht, if_pos rfl, Function.update_eq_self]
  -- as long as the task can go on, it has its whole share
  obtain ⟨-, hready, hend⟩ := h.consistent.run (P := fun m =>
    m.Allotted price (Function.update w i (if m.isReady i then w i else w i - 1))) i
    (fun {m p held} hc ht hm => by
      obtain ⟨t, xs, c, ha, hch⟩ := hc.act ht
      rw [ready ht] at hm
      rw [isReady_of hch.own]
      exact hm.change hch ((hm.tasks ht).act ha)) p ht (by rwa [ready ht])
  rw [hready] at hend
  exact ⟨(h.tasks ht).pos, hend⟩

/-- `start` adds a task within the bound of its own. -/
theorem Allotted.start {left : Nat} (h : m.Allotted price w)
    (ha : m.accept? (.start p) = some m')
    (hp : p.Follows metered (fun _ e => e.holding = []) ⟨0, [], left⟩) :
    m'.Allotted price (Function.update w m.tasks.length (price * left + 4)) := by
  obtain ⟨hc, htasks, -, -⟩ := h.consistent.start ha
  refine ⟨hc, fun {j u} hu => ?_⟩
  rw [htasks, getElem?_start] at hu
  split at hu
  · next hj =>
    subst hj
    cases hu
    rw [Function.update_self]
    exact .start hp
  · next hj =>
    rw [Function.update_of_ne hj]
    exact h.tasks hu

theorem Allotted.answer {o : Http.Outcome} (h : m.Allotted price w) (hp : 5 ≤ price)
    (ha : m.accept? (.answer i o) = some m') :
    0 < w i ∧ m'.Allotted price (Function.update w i (w i - 1)) := by
  obtain ⟨stage, next, held, ht, hch⟩ := h.consistent.answer ha
  obtain ⟨hpos, hcosts⟩ := (h.tasks ht).answer hp o
  exact ⟨hpos, h.change hch hcosts⟩

theorem Allotted.drop (h : m.Allotted price w) (ha : m.accept? (.drop i) = some m') :
    m'.Allotted price w := by
  obtain ⟨t, -, -, hch⟩ := h.consistent.drop ha
  rw [← Function.update_eq_self i w]
  exact h.change hch .dropped

theorem Allotted.free (h : m.Allotted price w) : m.Allotted 0 fun _ => 4 :=
  ⟨h.consistent, fun ht => (h.tasks ht).free⟩

/-! ## Turns between events -/

theorem sum_spend (hi : i < n) (hw : 0 < w i) :
    (∑ j ∈ Finset.range n, Function.update w i (w i - 1) j) + 1 = ∑ j ∈ Finset.range n, w j := by
  have hm := Finset.mem_range.mpr hi
  have hrest : ∀ j ∈ (Finset.range n).erase i, Function.update w i (w i - 1) j = w j :=
    fun j hj => Function.update_of_ne (Finset.ne_of_mem_erase hj) _ _
  have hsum := Finset.add_sum_erase _ w hm
  have hsum' := Finset.add_sum_erase _ (Function.update w i (w i - 1)) hm
  rw [Finset.sum_congr rfl hrest, Function.update_self] at hsum'
  rw [← hsum, ← hsum', Nat.add_right_comm, Nat.sub_add_cancel hw]

theorem lt_length_of_status? {s : Status α} (h : m.status? i = some s) : i < m.tasks.length := by
  obtain ⟨t, ht, -⟩ := Option.map_eq_some_iff.mp h
  exact (List.getElem?_eq_some_iff.mp ht).1

theorem isReady_of_nextReady? (h : m.nextReady? = none) (i : TaskId) : m.isReady i = false := by
  cases ht : m.tasks[i]? with
  | none =>
    rw [isReady, status?, ht]
    rfl
  | some t =>
    rw [isReady_of ht]
    have hm : (t, i) ∈ m.tasks.zipIdx := List.mem_zipIdx_iff_getElem?.mpr ht
    have hnone := List.findSome?_eq_none_iff.mp h (t, i) hm
    rw [Option.map_eq_none_iff] at hnone
    rw [show t.status.ready? = none from hnone]
    rfl

/-- After as many turns as the sum of the bounds, no task is ready. -/
theorem Allotted.settle (turns : Nat) (h : m.Allotted price w)
    (hw : ∑ j ∈ Finset.range m.tasks.length, w j ≤ turns) (i : TaskId) :
    (m.settle turns).isReady i = false := by
  induction turns generalizing m w with
  | zero =>
    cases hn : m.nextReady? with
    | none => exact isReady_of_nextReady? hn i
    | some jp =>
      -- a task that can run has a share
      obtain ⟨j, p⟩ := jp
      have ht := nextReady?_status (m := m) hn
      have hsum := sum_spend (lt_length_of_status? ht) (h.run ht).1
      omega
  | succ turns ih =>
    rw [Machine.settle]
    cases hn : m.nextReady? with
    | none => exact isReady_of_nextReady? hn i
    | some jp =>
      obtain ⟨j, p⟩ := jp
      have ht := nextReady?_status (m := m) hn
      obtain ⟨hpos, hrun⟩ := h.run ht
      have hsum := sum_spend (lt_length_of_status? ht) hpos
      refine ih hrun ?_
      obtain ⟨t, xs, c, hch⟩ := h.consistent.run_change ht
      rw [hch.length]
      omega

/-! ## Waiting -/

def Awaits (m : Machine α) (i : TaskId) : Prop :=
  ∃ stage next, m.status? i = some (.awaitingAnswer stage next)

/-- `WaitsFor i j`: task `i` waits for a mutex that task `j` holds. -/
def WaitsFor (m : Machine α) (i j : TaskId) : Prop :=
  ∃ l k, m.awaited? i = some (l, k) ∧ (l, k) ∈ m.heldBy j

/-- An unfinished task is ready, awaits a response, or waits for a lock. -/
theorem Unfinished.cases (h : m.Unfinished i) :
    m.isReady i = true ∨ m.Awaits i ∨ ∃ l k, m.awaited? i = some (l, k) := by
  obtain ⟨⟨st, held⟩, ht, ho⟩ := h
  cases st with
  | ready p => exact .inl (isReady_of ht)
  | awaitingAnswer stage next =>
    exact .inr (.inl ⟨stage, next, by rw [status?, ht]; rfl⟩)
  | awaitingLock l k next => exact .inr (.inr ⟨l, k, awaited?_eq ht⟩)
  | finished | dropped => cases ho

/-- A holder is unfinished. -/
theorem Allotted.unfinished (h : m.Allotted price w) (htidy : m.Tidy) {l : Lock} {k : MutexId}
    (hm : (l, k) ∈ m.heldBy i) : m.Unfinished i := by
  cases ht : m.tasks[i]? with
  | none =>
    rw [heldBy, ht] at hm
    cases hm
  | some t =>
    rw [heldBy_eq ht] at hm
    obtain ⟨e, hworking, -⟩ := h.tasks ht
    refine ⟨t, ht, ?_⟩
    cases hst : t.status with
    | ready p | awaitingAnswer stage next | awaitingLock l k next => rfl
    | finished =>
      rw [hworking.held_eq_nil hst] at hm
      cases hm
    | dropped =>
      rw [htidy i t ht hst] at hm
      cases hm

/-- A task holds locks of lower rank than the one it waits for. -/
theorem Allotted.rank_lt (h : m.Allotted price w) {l l' : Lock} {k k' : MutexId}
    (hw : m.awaited? i = some (l, k)) (hm : (l', k') ∈ m.heldBy i) : l'.rank < l.rank := by
  obtain ⟨t, ht, hw⟩ := Option.bind_eq_some_iff.mp hw
  rw [heldBy_eq ht] at hm
  obtain ⟨e, hworking, -⟩ := h.tasks ht
  exact hworking.rank_lt hw hm

/-- **No deadlock**: if some task is unfinished, some task is ready or awaits a response. Induction
on the rank of the lock that is waited for. -/
theorem Allotted.exists_behind (h : m.Allotted price w) (htidy : m.Tidy) (hu : m.Unfinished i) :
    ∃ j, m.isReady j = true ∨ m.Awaits j := by
  have from_lock (d : Nat) : ∀ {i l k}, 3 - l.rank ≤ d → m.awaited? i = some (l, k) →
      ∃ j, m.isReady j = true ∨ m.Awaits j := by
    induction d with
    | zero =>
      intro i l k hd
      have := l.rank_lt
      omega
    | succ d ih =>
      intro i l k hd hw
      -- the holder goes on, or it waits for a lock of a higher rank
      obtain ⟨j, hj⟩ := h.consistent.holder hw
      rcases (h.unfinished htidy hj).cases with hr | hr | ⟨l', k', hw'⟩
      · exact ⟨j, .inl hr⟩
      · exact ⟨j, .inr hr⟩
      · have := h.rank_lt hw' hj
        exact ih (by omega) hw'
  rcases hu.cases with hr | hr | ⟨l, k, hw⟩
  · exact ⟨i, .inl hr⟩
  · exact ⟨i, .inr hr⟩
  · exact from_lock 3 (Nat.sub_le _ _) hw

/-- Along a chain of `WaitsFor`, the last task holds a lock whose rank is at least the one that the
first task waits for. -/
theorem Allotted.rank_le (h : m.Allotted price w) (hij : Relation.TransGen m.WaitsFor i j) :
    ∃ l k l' k', m.awaited? i = some (l, k) ∧ (l', k') ∈ m.heldBy j ∧ l.rank ≤ l'.rank := by
  induction hij with
  | single hij =>
    obtain ⟨l, k, hw, hm⟩ := hij
    exact ⟨l, k, l, k, hw, hm, Nat.le_refl _⟩
  | tail _ hj ih =>
    obtain ⟨l, k, l', k', hw, hm, hle⟩ := ih
    obtain ⟨l₂, k₂, hw₂, hm₂⟩ := hj
    have := h.rank_lt hw₂ hm
    exact ⟨l, k, l₂, k₂, hw, hm₂, by omega⟩

/-- **No wait cycle**, by `rank_le` and `rank_lt`. -/
theorem Allotted.acyclic (h : m.Allotted price w) (i : TaskId) :
    ¬Relation.TransGen m.WaitsFor i i := by
  intro hii
  obtain ⟨l, k, l', k', hw, hm, hle⟩ := h.rank_le hii
  exact absurd hle (Nat.not_le_of_lt (h.rank_lt hw hm))

end Machine

/-! ## Over courses -/

namespace Course

open Machine

variable {c : Client} {s s' : Course}

/-- Every reachable course has bounds for `price = 5`. -/
theorem Reachable.allotted (h : Reachable c s) : ∃ w, s.machine.Allotted 5 w := by
  induction h with
  | refl => exact ⟨fun _ => 0, consistent_init, fun ht => nomatch ht⟩
  | @tail s s' _ hstep ih =>
    obtain ⟨w, hw⟩ := ih
    cases hstep with
    | event e ha =>
      cases e with
      | ask call => exact ⟨_, hw.start ha (c.answer_metered call)⟩
      | answer i o => exact ⟨_, (hw.answer (Nat.le_refl _) ha).2⟩
      | drop i => exact ⟨_, hw.drop ha⟩
    | turn ht => exact ⟨_, (hw.run ht).2⟩

/-- `Rounds n s s'`: `n` turns lead from `s` to `s'`, without an event. -/
inductive Rounds : Nat → Course → Course → Prop
  | none {s : Course} : Rounds 0 s s
  | turn {n : Nat} {s s' : Course} {i : TaskId} {p : Procedure (Except Error Answer)}
    (h : s.machine.status? i = some (.ready p)) (hr : Rounds n ⟨s.calls, s.machine.run i p⟩ s') :
    Rounds (n + 1) s s'

/-- Turns in a row are bounded by the sum of the bounds. -/
theorem Rounds.le_sum {price n : Nat} {w : TaskId → Nat} (h : Rounds n s s')
    (hw : s.machine.Allotted price w) :
    n ≤ ∑ j ∈ Finset.range s.machine.tasks.length, w j := by
  induction h generalizing w with
  | none => exact Nat.zero_le _
  | @turn n s s' i p ht _ ih =>
    obtain ⟨hpos, hrun⟩ := hw.run ht
    have hle := ih hrun
    have hsum := sum_spend (lt_length_of_status? ht) hpos
    obtain ⟨t, xs, k, hch⟩ := hw.consistent.run_change ht
    rw [show (Course.mk s.calls (s.machine.run i p)).machine.tasks.length = s.machine.tasks.length
      from hch.length] at hle
    omega

/-! ## Requests -/

/-- `metered` tracks that the requests sent and those left add up to the budget. -/
theorem metered_tracks {β : Type} (i : TaskId) (budget : Nat) :
    metered.Tracks i fun (xs : List (Entry β)) e =>
      (Report.requests ⟨xs⟩).length + e.left = budget := by
  have other {xs : List (Entry β)} {x : Entry β} {e : Effort} (hx : Report.requests ⟨[x]⟩ = [])
      (h : (Report.requests ⟨xs⟩).length + e.left = budget) :
      (Report.requests ⟨xs ++ [x]⟩).length + e.left = budget := by
    rw [← h, Report.requests, List.filterMap_append]
    exact congrArg (·.length + e.left) ((congrArg (_ ++ ·) hx).trans (List.append_nil _))
  constructor
  case sends =>
    intro xs e stage r h hpos
    have hpos : 0 < e.left := hpos
    refine ⟨{ e with left := e.left - 1 }, rfl, ?_⟩
    have hlength : (Report.requests ⟨xs ++ [.sent i stage r]⟩).length =
        (Report.requests ⟨xs⟩).length + 1 := by
      rw [Report.requests, List.filterMap_append, List.length_append]
      rfl
    show _ + (e.left - 1) = budget
    omega
  case receives => exact fun {xs e stage o} h => ⟨e, rfl, other rfl h⟩
  case acquires => exact fun {xs e l} h _ => ⟨_, rfl, h⟩
  case releases => exact fun {xs e l} h _ => ⟨_, rfl, h⟩
  case consults => exact fun {xs e x a} h _ => ⟨e, rfl, h⟩
  case remembers => exact fun {xs e x a} h _ => ⟨e, rfl, h⟩
  case emits => exact fun h => other rfl h
  case ends => exact fun h => other rfl h

theorem requests_of {β : Type} (r : Report β) (i : TaskId) :
    r.requests.filter (·.1 = i) = Report.requests ⟨r.of i⟩ := by
  rw [Report.requests, Report.requests, Report.of, List.filter_filterMap, List.filterMap_filter]
  congr 1
  funext x
  cases x with
  | sent j stage r => by_cases hj : j = i <;> simp [Entry.task, hj]
  | answered j stage o | signalled j x | ended j a =>
    by_cases hj : j = i <;> simp [Entry.task, hj]

/-- **A task sends at most `Call.budget` requests.** -/
theorem Reachable.requests_le {i : TaskId} {call : Call} (h : Reachable c s)
    (hi : s.calls[i]? = some call) :
    (s.machine.report.requests.filter (·.1 = i)).length ≤ call.budget := by
  have hlt : i < s.machine.tasks.length := by
    rw [← h.consistent.2]
    exact (List.getElem?_eq_some_iff.mp hi).1
  have htrail := h.trails.tasks (List.getElem?_eq_getElem hlt)
  rw [procedure_eq hi] at htrail
  obtain ⟨e, -, hle⟩ := htrail.tracked (c.answer_metered call) (metered_tracks i call.budget)
    (Nat.zero_add _)
  rw [requests_of]
  omega

end Course

end TenantApps
