import TenantApps.Proofs.Progress.Budget
import TenantApps.Proofs.Tasks.Line

/-!
# `TenantApps.Proofs.Progress.Liveness` — termination of every task in fair histories

A `History` is an infinite run of a client, to which calls may be added for ever. If every ready
task gets a turn and every request is answered eventually, every task is over eventually. The
measure is the potential of `Machine.Allotted`; a waiting task is served by induction on
`Lock.rank`, downwards, and on its position in the queue, since mutexes are fair.

## Contents
- `Course.History` and `Course.Fair`.
- `Course.Step.task`, the effect of a step on one task, and its consequences for histories.
- `History.eventually`, by induction on the potential.
- `History.released` and `History.served`, by induction on the rank and on the queue.
- `Course.progress`, the **main result**.
-/

namespace TenantApps

namespace Course

open Machine

variable {c : Client} {s s' : Course} {i j n k : Nat} {w : Nat} {l : Lock}

/-! ## One step -/

/-- **`Progresses w t t'`**: what a step does to a task whose potential is bounded by `w`. It stays
the same, it is granted its lock, its potential falls, or it is over. -/
inductive Progresses (w : Nat) (t : Task (Except Error Answer)) :
    Task (Except Error Answer) → Prop
  | same : Progresses w t t
  | granted : Progresses w t t.granted
  | spent {t' : Task (Except Error Answer)} (hw : t.awaited? = none) (ho : t.status.isOver = false)
    (hpos : 0 < w) (hcosts : t'.Costs 5 (w - 1)) : Progresses w t t'
  | ends {t' : Task (Except Error Answer)} (ho : t'.status.isOver = true) : Progresses w t t'

/-- A change of another task leaves this one as it is or grants its lock. -/
theorem progresses_of_others {m m' : Machine (Except Error Answer)}
    {t u : Task (Except Error Answer)} {xs : List (Entry (Except Error Answer))} {k : Cache}
    (hch : Change m j u xs k m') (hj : i ≠ j) (ht : m.tasks[i]? = some t) (hcosts : t.Costs 5 w) :
    ∃ t', m'.tasks[i]? = some t' ∧ t'.Costs 5 w ∧ Progresses w t t' := by
  rcases hch.others i hj with e | e
  · exact ⟨t, e.trans ht, hcosts, .same⟩
  · refine ⟨t.granted, by rw [e, ht]; rfl, ?_, .granted⟩
    cases hw : t.awaited? with
    | none => rwa [t.granted_eq hw]
    | some g => exact hcosts.granted hw

/-- **No step raises the potential of a task.** -/
theorem Step.task {t : Task (Except Error Answer)} (h : Reachable c s) (hs : Step c s s')
    (ht : s.machine.tasks[i]? = some t) (hcosts : t.Costs 5 w) :
    ∃ t', s'.machine.tasks[i]? = some t' ∧ t'.Costs 5 w ∧ Progresses w t t' := by
  obtain ⟨w₀, h₀⟩ := h.allotted
  -- the share of the task is as large as what it may still do
  have hall : s.machine.Allotted 5 (Function.update w₀ i w) := by
    refine ⟨h₀.consistent, fun {j u} hu => ?_⟩
    by_cases hj : j = i
    · subst hj
      rw [ht] at hu
      cases hu
      rwa [Function.update_self]
    · rw [Function.update_of_ne hj]
      exact h₀.tasks hu
  have spend {m' : Machine (Except Error Answer)} {t' : Task (Except Error Answer)}
      {w₁ : TaskId → Nat} (hm : m'.Allotted 5 (Function.update w₁ i (w - 1)))
      (ht' : m'.tasks[i]? = some t') : t'.Costs 5 (w - 1) := by
    have := hm.tasks ht'
    rwa [Function.update_self] at this
  cases hs with
  | event e ha =>
    cases e with
    | ask call =>
      obtain ⟨-, htasks, -, -⟩ := h₀.consistent.start ha
      refine ⟨t, ?_, hcosts, .same⟩
      rw [htasks, List.getElem?_append_left (List.getElem?_eq_some_iff.mp ht).1, ht]
    | answer j o =>
      obtain ⟨stage, next, held, hj, hch⟩ := h₀.consistent.answer ha
      by_cases hij : i = j
      · subst hij
        rw [ht] at hj
        cases hj
        obtain ⟨hpos, hm⟩ := hall.answer (Nat.le_refl _) ha
        rw [Function.update_self] at hpos hm
        have hc := spend hm hch.own
        exact ⟨_, hch.own, hc.mono (Nat.sub_le _ _), .spent rfl rfl hpos hc⟩
      · exact progresses_of_others hch hij ht hcosts
    | drop j =>
      obtain ⟨u, -, -, hch⟩ := h₀.consistent.drop ha
      by_cases hij : i = j
      · subst hij
        exact ⟨_, hch.own, .dropped, .ends rfl⟩
      · exact progresses_of_others hch hij ht hcosts
  | @turn j p hj =>
    obtain ⟨u, xs, k, hch⟩ := h₀.consistent.run_change hj
    by_cases hij : i = j
    · subst hij
      obtain ⟨hpos, hm⟩ := hall.run hj
      rw [Function.update_self] at hpos hm
      have hc := spend hm hch.own
      rw [status?, ht] at hj
      obtain ⟨st, held⟩ := t
      cases hj
      exact ⟨_, hch.own, hc.mono (Nat.sub_le _ _), .spent rfl rfl hpos hc⟩
    · exact progresses_of_others hch hij ht hcosts

/-! ## Histories -/

/-- **`History c s f`**: an infinite run from `s`; `f (n + 1)` is `f n` or one `Step` after it. -/
structure History (c : Client) (s : Course) (f : Nat → Course) : Prop where
  start : f 0 = s
  next : ∀ n, f (n + 1) = f n ∨ Step c (f n) (f (n + 1))

/-- **Fairness**: no task is ready for ever, and no task awaits a response for ever. -/
structure Fair (f : Nat → Course) : Prop where
  turns : ∀ i n, ∃ k, n ≤ k ∧ (f k).machine.isReady i = false
  answers : ∀ i n, ∃ k, n ≤ k ∧ ¬(f k).machine.Awaits i

/-- `Serves f l`: every task that waits for `l` is ready or over eventually. -/
def Serves (f : Nat → Course) (l : Lock) : Prop :=
  ∀ i k n, (f n).machine.awaited? i = some (l, k) → ∃ m, n ≤ m ∧
    ((f m).machine.isReady i = true ∨ ∃ t, (f m).machine.tasks[i]? = some t ∧
      t.status.isOver = true)

namespace History

variable {f : Nat → Course} (h : Reachable c s) (hf : History c s f)

include h hf

theorem reachable (n : Nat) : Reachable c (f n) := by
  induction n with
  | zero =>
    rw [hf.start]
    exact h
  | succ n ih =>
    rcases hf.next n with e | hs
    · rw [e]
      exact ih
    · exact ih.tail hs

/-- `Step.task` along a history. -/
theorem task {t : Task (Except Error Answer)} (ht : (f n).machine.tasks[i]? = some t)
    (hcosts : t.Costs 5 w) : ∃ t', (f (n + 1)).machine.tasks[i]? = some t' ∧ t'.Costs 5 w ∧
      Progresses w t t' := by
  rcases hf.next n with e | hs
  · rw [e]
    exact ⟨t, ht, hcosts, .same⟩
  · exact hs.task (hf.reachable h n) ht hcosts

/-- The bound on the potential is kept along a history. -/
theorem costs (hnk : n ≤ k) {t : Task (Except Error Answer)}
    (ht : (f n).machine.tasks[i]? = some t) (hcosts : t.Costs 5 w) :
    ∃ t', (f k).machine.tasks[i]? = some t' ∧ t'.Costs 5 w := by
  induction k, hnk using Nat.le_induction with
  | base => exact ⟨t, ht, hcosts⟩
  | succ k _ ih =>
    obtain ⟨t', ht', hcosts'⟩ := ih
    obtain ⟨t'', ht'', hcosts'', -⟩ := hf.task h ht' hcosts'
    exact ⟨t'', ht'', hcosts''⟩

/-- A task that is over stays over. -/
theorem stays_over (hnk : n ≤ k) {t : Task (Except Error Answer)}
    (ht : (f n).machine.tasks[i]? = some t) (ho : t.status.isOver = true) :
    ∃ t', (f k).machine.tasks[i]? = some t' ∧ t'.status.isOver = true := by
  induction k, hnk using Nat.le_induction with
  | base => exact ⟨t, ht, ho⟩
  | succ k _ ih =>
    obtain ⟨t, ht, ho⟩ := ih
    obtain ⟨w, hw⟩ := (hf.reachable h k).allotted
    obtain ⟨t', ht', -, hp⟩ := hf.task h ht (hw.tasks ht)
    refine ⟨t', ht', ?_⟩
    cases hp with
    | same => exact ho
    | granted =>
      obtain ⟨st, held⟩ := t
      cases st with
      | finished | dropped => rfl
      | ready p | awaitingAnswer stage next | awaitingLock l k next => cases ho
    | spent _ ho' =>
      rw [ho] at ho'
      cases ho'
    | ends ho' => exact ho'

/-- A task that waits for no lock is unchanged until its potential falls or it is over. -/
theorem stays (hnk : n ≤ k) {t : Task (Except Error Answer)}
    (ht : (f n).machine.tasks[i]? = some t) (hcosts : t.Costs 5 w) (hw : t.awaited? = none) :
    (f k).machine.tasks[i]? = some t ∨ ∃ t', (f k).machine.tasks[i]? = some t' ∧
      (t'.status.isOver = true ∨ ∃ w' < w, t'.Costs 5 w') := by
  induction k, hnk using Nat.le_induction with
  | base => exact .inl ht
  | succ k _ ih =>
    rcases ih with ht | ⟨t', ht', ho | ⟨w', hlt, hcosts'⟩⟩
    · obtain ⟨t', ht', -, hp⟩ := hf.task h ht hcosts
      cases hp with
      | same => exact .inl ht'
      | granted =>
        rw [t.granted_eq hw] at ht'
        exact .inl ht'
      | spent _ _ hpos hc => exact .inr ⟨t', ht', .inr ⟨w - 1, by omega, hc⟩⟩
      | ends ho => exact .inr ⟨t', ht', .inl ho⟩
    · obtain ⟨t'', ht'', ho⟩ := hf.stays_over h (Nat.le_succ k) ht' ho
      exact .inr ⟨t'', ht'', .inl ho⟩
    · obtain ⟨t'', ht'', hc, -⟩ := hf.task h ht' hcosts'
      exact .inr ⟨t'', ht'', .inr ⟨w', hlt, hc⟩⟩

/-- A task waits for its lock until it is ready or over. -/
theorem waits (hnk : n ≤ k) {g : Lock × MutexId} (hw : (f n).machine.awaited? i = some g) :
    (∀ m, n ≤ m → m ≤ k → (f m).machine.awaited? i = some g) ∨ ∃ m, n ≤ m ∧
      ((f m).machine.isReady i = true ∨ ∃ t, (f m).machine.tasks[i]? = some t ∧
        t.status.isOver = true) := by
  induction k, hnk using Nat.le_induction with
  | base =>
    refine .inl fun m hm hm' => ?_
    rw [Nat.le_antisymm hm' hm]
    exact hw
  | succ k hnk ih =>
    rcases ih with hall | hm
    · have hwk := hall k hnk (Nat.le_refl k)
      obtain ⟨t, ht, hwt⟩ := Option.bind_eq_some_iff.mp hwk
      obtain ⟨w, hshare⟩ := (hf.reachable h k).allotted
      obtain ⟨t', ht', -, hp⟩ := hf.task h ht (hshare.tasks ht)
      cases hp with
      | same =>
        refine .inl fun m hm hm' => ?_
        rcases Nat.le_succ_iff.mp hm' with hm' | rfl
        · exact hall m hm hm'
        · exact (awaited?_eq ht').trans hwt
      | granted =>
        obtain ⟨next, he⟩ := Task.eq_of_awaited? hwt
        refine .inr ⟨k + 1, Nat.le_succ_of_le hnk, .inl ?_⟩
        rw [he] at ht'
        exact isReady_of ht'
      | spent hwt' =>
        rw [hwt] at hwt'
        cases hwt'
      | ends ho => exact .inr ⟨k + 1, Nat.le_succ_of_le hnk, .inr ⟨t', ht', ho⟩⟩
    · exact .inr hm

/-! ## Eventualities -/

/-- **Induction on the potential**: a property of tasks that are over holds of a task eventually, if
it also holds while the task waits for a lock that is not served. -/
theorem eventually (hfair : Fair f) {G : Nat → Prop}
    (hover : ∀ m t, (f m).machine.tasks[i]? = some t → t.status.isOver = true → G m)
    (hwait : ∀ m g, (f m).machine.awaited? i = some g → G m ∨ Serves f g.1)
    {t : Task (Except Error Answer)} (ht : (f n).machine.tasks[i]? = some t)
    (hcosts : t.Costs 5 w) : ∃ m, n ≤ m ∧ G m := by
  induction w using Nat.strong_induction_on generalizing n t with
  | _ w ih =>
    -- a task that waits for a turn or for an answer does not wait for ever
    have spent {n : Nat} {t : Task (Except Error Answer)}
        (ht : (f n).machine.tasks[i]? = some t) (hcosts : t.Costs 5 w) (hw : t.awaited? = none)
        (hmoves : ∃ k, n ≤ k ∧ (f k).machine.tasks[i]? ≠ some t) : ∃ m, n ≤ m ∧ G m := by
      obtain ⟨k, hnk, hk⟩ := hmoves
      rcases hf.stays h hnk ht hcosts hw with ht' | ⟨t', ht', ho | ⟨w', hlt, hcosts'⟩⟩
      · exact absurd ht' hk
      · exact ⟨k, hnk, hover k t' ht' ho⟩
      · obtain ⟨m, hm, hG⟩ := ih w' hlt ht' hcosts'
        exact ⟨m, Nat.le_trans hnk hm, hG⟩
    have ready {n : Nat} {t : Task (Except Error Answer)}
        (ht : (f n).machine.tasks[i]? = some t) (hcosts : t.Costs 5 w)
        (hr : (f n).machine.isReady i = true) : ∃ m, n ≤ m ∧ G m := by
      rw [isReady_of ht] at hr
      obtain ⟨k, hnk, hk⟩ := hfair.turns i n
      refine spent ht hcosts ?_ ⟨k, hnk, fun ht' => ?_⟩
      · obtain ⟨st, held⟩ := t
        cases st with
        | ready p => rfl
        | awaitingAnswer stage next | awaitingLock l k next | finished | dropped => cases hr
      · rw [isReady_of ht', hr] at hk
        cases hk
    by_cases ho : t.status.isOver = true
    · exact ⟨n, Nat.le_refl n, hover n t ht ho⟩
    · rcases Unfinished.cases (i := i) ⟨t, ht, by simpa using ho⟩ with hr | hr | ⟨l, k, hw⟩
      · exact ready ht hcosts hr
      · obtain ⟨stage, next, hst⟩ := hr
        obtain ⟨k, hnk, hk⟩ := hfair.answers i n
        rw [status?, ht] at hst
        refine spent ht hcosts ?_ ⟨k, hnk, fun ht' => hk ⟨stage, next, ?_⟩⟩
        · obtain ⟨st, held⟩ := t
          cases hst
          rfl
        · rw [status?, ht']
          exact hst
      · -- it can run after it has waited
        rcases hwait n _ hw with hG | hserves
        · exact ⟨n, Nat.le_refl n, hG⟩
        · obtain ⟨m, hm, hr | ⟨t', ht', ho⟩⟩ := hserves i k n hw
          · obtain ⟨t', ht', hcosts'⟩ := hf.costs h hm ht hcosts
            obtain ⟨m', hm', hG⟩ := ready ht' hcosts' hr
            exact ⟨m', Nat.le_trans hm hm', hG⟩
          · exact ⟨m, hm, hover m t' ht' ho⟩

/-- A held lock is released eventually if all locks of higher rank are served. -/
theorem released (hfair : Fair f) (hhigher : ∀ l', l.rank < l'.rank → Serves f l')
    {κ : MutexId} (hm : (l, κ) ∈ (f n).machine.heldBy j) :
    ∃ m, n ≤ m ∧ ∀ κ, (l, κ) ∉ (f m).machine.heldBy j := by
  have htidy (m : Nat) := (hf.reachable h m).tidy
  obtain ⟨w, hw⟩ := (hf.reachable h n).allotted
  obtain ⟨t, ht, -⟩ := hw.unfinished (htidy n) hm
  refine hf.eventually h hfair (i := j) (fun m t ht ho κ hm => ?_) (fun m g hg => ?_) ht
    (hw.tasks ht)
  · obtain ⟨w, hw⟩ := (hf.reachable h m).allotted
    obtain ⟨t', ht', ho'⟩ := hw.unfinished (htidy m) hm
    rw [ht] at ht'
    cases ht'
    rw [ho] at ho'
    cases ho'
  · by_cases hG : ∀ κ, (l, κ) ∉ (f m).machine.heldBy j
    · exact .inl hG
    · obtain ⟨w, hw⟩ := (hf.reachable h m).allotted
      obtain ⟨κ, hm⟩ := not_forall_not.mp hG
      exact .inr (hhigher g.1 (hw.rank_lt (k := g.2) hg hm))

/-- Queues are first-in first-out: no task gets in front of a waiting one. -/
theorem line (hnk : n ≤ k) {g : Lock × MutexId}
    (hw : ∀ m, n ≤ m → m ≤ k → (f m).machine.awaited? i = some g) :
    Locks.Keeps i (f n).machine.locks (f k).machine.locks := by
  induction k, hnk using Nat.le_induction with
  | base => exact Locks.Keeps.refl _ _
  | succ k hnk ih =>
    refine (ih fun m hm hm' => hw m hm (Nat.le_succ_of_le hm')).trans ?_
    rcases hf.next k with e | hs
    · rw [e]
      exact Locks.Keeps.refl _ _
    · refine hs.keeps (hf.reachable h k) ?_
      obtain ⟨t, ht, hwt⟩ := Option.bind_eq_some_iff.mp (hw k hnk (Nat.le_succ k))
      obtain ⟨next, he⟩ := Task.eq_of_awaited? hwt
      rw [isReady_of ht, he]
      rfl

/-- **Every lock is served.** Induction on the rank, downwards, and on the queue. -/
theorem served (hfair : Fair f) (l : Lock) : Serves f l := by
  -- whoever holds the lock waits for locks of higher ranks only
  induction hd : 3 - l.rank using Nat.strong_induction_on generalizing l with
  | _ d ih =>
    have hhigher (l' : Lock) (hl : l.rank < l'.rank) : Serves f l' :=
      ih (3 - l'.rank) (by have := l'.rank_lt; omega) l' rfl
    -- the line in front of a task gets shorter each time the lock is given back
    have inLine (a : Nat) : ∀ {i κ n q}, (f n).machine.awaited? i = some (l, κ) →
        (f n).machine.locks.queue? l = some q → i ∈ q.waiters → (q.ahead i).length ≤ a →
          ∃ m, n ≤ m ∧ ((f m).machine.isReady i = true ∨
            ∃ t, (f m).machine.tasks[i]? = some t ∧ t.status.isOver = true) := by
      induction a with
      | zero =>
        intro i κ n q _ _ _ ha
        cases ha
      | succ a iha =>
        intro i κ n q hw hq hi ha
        have hqueue := (hf.reachable h n).consistent.1.queueInvariant
        have hheld := (hqueue.held_iff q.holder l q.mutex).mpr ⟨q, hq, rfl, rfl⟩
        obtain ⟨m, hm, hfree⟩ := hf.released h hfair hhigher hheld
        rcases hf.waits h hm hw with hall | hdone
        · have hwm := hall m hm (Nat.le_refl m)
          have hc := (hf.reachable h m).consistent.1
          obtain ⟨q', hq', -, hi'⟩ := (hc.queueInvariant.awaited_iff i l κ).mp hwm
          obtain ⟨q₀, hq₀, -, hsub⟩ := hf.line h hm hall l q' hq' hi'
          rw [hq] at hq₀
          cases hq₀
          have hne : q'.holder ≠ q.holder := fun he => hfree q'.mutex
            ((hc.queueInvariant.held_iff q.holder l q'.mutex).mpr ⟨q', hq', rfl, he⟩)
          have hlt : (q'.ahead i).length < (q.ahead i).length := by
            refine Nat.lt_of_le_of_ne hsub.length_le fun he => hne ?_
            exact (List.cons.inj (hsub.eq_of_length he)).1
          obtain ⟨m', hm', hdone⟩ := iha hwm hq' hi' (by omega)
          exact ⟨m', Nat.le_trans hm hm', hdone⟩
        · exact hdone
    intro i κ n hw
    obtain ⟨q, hq, -, hi⟩ :=
      ((hf.reachable h n).consistent.1.queueInvariant.awaited_iff i l κ).mp hw
    exact inLine _ hw hq hi (Nat.le_refl _)

/-- **Every task is over eventually, and stays so.** -/
theorem finishes (hfair : Fair f) (hi : i < (f n).calls.length) :
    ∃ k, n ≤ k ∧ ∀ m, k ≤ m → ¬(f m).machine.Unfinished i := by
  have hi : i < (f n).machine.tasks.length := (hf.reachable h n).consistent.2 ▸ hi
  obtain ⟨w, hw⟩ := (hf.reachable h n).allotted
  have ht := List.getElem?_eq_getElem hi
  obtain ⟨k, hk, t, ht, ho⟩ := hf.eventually h hfair (i := i)
    (G := fun m => ∃ t, (f m).machine.tasks[i]? = some t ∧ t.status.isOver = true)
    (fun m t ht ho => ⟨t, ht, ho⟩) (fun m g _ => .inr (hf.served h hfair g.1)) ht (hw.tasks ht)
  refine ⟨k, hk, fun m hm => ?_⟩
  obtain ⟨t', ht', ho'⟩ := hf.stays_over h hm ht ho
  rintro ⟨u, hu, hou⟩
  rw [ht'] at hu
  cases hu
  rw [ho'] at hou
  cases hou

end History

/-! ## Progress -/

theorem unfinished_of_awaits {m : Machine (Except Error Answer)} (hi : m.Awaits i) :
    m.Unfinished i := by
  obtain ⟨stage, next, hi⟩ := hi
  obtain ⟨t, ht, hst⟩ := Option.map_eq_some_iff.mp hi
  exact ⟨t, ht, by rw [hst]; rfl⟩

theorem sum_four (n : Nat) : ∑ _j ∈ Finset.range n, 4 = 4 * n := by
  rw [Finset.sum_const_nat fun _ _ => rfl, Finset.card_range, Nat.mul_comm]

/-- **Progress.** In every reachable course: if no task is ready and some are unfinished, one of
them awaits a response; `WaitsFor` has no cycle; a call sends at most `Call.budget` requests; there
are at most four turns for each task between two events, after which no task is ready; and in every
fair history every task is over eventually. -/
theorem progress (h : Reachable c s) :
    ((∀ i, s.machine.isReady i = false) → (∃ i, s.machine.Unfinished i) →
      ∃ i, s.machine.Unfinished i ∧ s.machine.Awaits i) ∧
    (∀ i, ¬Relation.TransGen s.machine.WaitsFor i i) ∧
    (∀ i call, s.calls[i]? = some call →
      (s.machine.report.requests.filter (·.1 = i)).length ≤ call.budget) ∧
    (∀ n s', Rounds n s s' → n ≤ 4 * s.calls.length) ∧
    (∀ i, (s.machine.settle s.machine.turns).isReady i = false) ∧
    ∀ f, History c s f → Fair f → ∀ i n, i < (f n).calls.length →
      ∃ k, n ≤ k ∧ ∀ m, k ≤ m → ¬(f m).machine.Unfinished i := by
  obtain ⟨w, hw⟩ := h.allotted
  refine ⟨fun hready hu => ?_, hw.acyclic, fun i call hi => h.requests_le hi, fun n s' hr => ?_,
    ?_, fun f hf hfair i n hi => hf.finishes h hfair hi⟩
  · obtain ⟨i, hi⟩ := hu
    obtain ⟨j, hj | hj⟩ := hw.exists_behind h.tidy hi
    · rw [hready j] at hj
      cases hj
    · exact ⟨j, unfinished_of_awaits hj, hj⟩
  · rw [h.consistent.2, ← sum_four]
    exact hr.le_sum hw.free
  · exact hw.free.settle _ (Nat.le_of_eq (sum_four _))

/-- `progress` on two creations of one name, which settle with one response awaited, and on a
history of two calls that need no request. -/
theorem progress_sample :
    let m := (begun .sample (.create "a") (.create "a")).machine
    ((∃ i, m.Unfinished i) ∧ ∃ i, (m.settle m.turns).Unfinished i ∧ (m.settle m.turns).Awaits i) ∧
      ∃ f, History .sample (begun .sample .settings .settings) f ∧ Fair f ∧
        ∃ k, ∀ n, k ≤ n → ¬(f n).machine.Unfinished 1 := by
  intro m
  constructor
  · have h := reachable_begun .sample (.create "a") (.create "a")
    have hs : Reachable .sample ⟨[.create "a", .create "a"], (m.settle m.turns).following []⟩ :=
      Reachable.settle m.turns (m := m) h
    have hu (m : Machine (Except Error Answer))
        (hm : (m.tasks[0]?).map (·.status.isOver) = some false) : m.Unfinished 0 := by
      obtain ⟨t, ht, ho⟩ := Option.map_eq_some_iff.mp hm
      exact ⟨t, ht, ho⟩
    exact ⟨⟨0, hu _ (by decide)⟩,
      (progress hs).1 (progress h).2.2.2.2.1 ⟨0, hu _ (by decide)⟩⟩
  · let s := begun .sample .settings .settings
    let s' : Course := ⟨s.calls, s.machine.run 1 (Client.sample.answer .settings)⟩
    have h : Reachable .sample s := reachable_begun .sample .settings .settings
    have hstep : Step .sample s s' := .turn rfl
    let f (n : Nat) : Course := if n = 0 then s else s'
    have hf : History .sample s f := by
      refine ⟨rfl, fun n => ?_⟩
      cases n with
      | zero => exact .inr hstep
      | succ n => exact .inl rfl
    have hfair : Fair f := by
      refine ⟨fun i n => ⟨n + 1, Nat.le_succ n, ?_⟩, fun i n => ⟨n + 1, Nat.le_succ n, ?_⟩⟩
      · match i with
        | 0 | 1 | i + 2 => rfl
      · rintro ⟨stage, next, hi⟩
        match i with
        | 0 | 1 =>
          have he : some Status.finished = some (.awaitingAnswer stage next) := hi
          cases he
        | i + 2 =>
          have he : none = some (Status.awaitingAnswer stage next) := hi
          cases he
    obtain ⟨k, -, hk⟩ := (progress h).2.2.2.2.2 f hf hfair 1 0 (by decide)
    exact ⟨f, hf, hfair, k, hk⟩

end Course

end TenantApps
