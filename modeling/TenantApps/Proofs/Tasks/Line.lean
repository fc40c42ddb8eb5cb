import TenantApps.Proofs.Tasks.Course

/-!
# `TenantApps.Proofs.Tasks.Line` — first-in first-out queues

Locks are fair: a waiting task gets its lock after the tasks in front of it, and no later task gets
in front. Steps of other tasks can only shorten the part of the queue in front of a waiting task.

## Contents
- `Queue.next?` and `Queue.withdraw`, a queue without its holder and without a waiter;
  `Queue.ahead`, the tasks in front of a waiter.
- `Locks.Keeps`, the fairness relation between two states of the locks.
- `Machine.Consistent.queue?_giveBack` and `queue?_leave`, the queues after a release and after a
  withdrawal.
- `Machine.Consistent.keeps_act`, `keeps_run` and `keeps_cancel`, and `Course.Step.keeps`: **every
  step is fair**.
-/

namespace TenantApps

/-! ## The order of a queue -/

namespace Queue

variable {i j : TaskId}

/-- The queue after a release: the first waiter is the holder. -/
def next? (q : Queue) : Option Queue :=
  match q.waiters with
  | j :: ws => some ⟨q.mutex, j, ws⟩
  | [] => none

/-- The queue without the waiter `i`. -/
def withdraw (q : Queue) (i : TaskId) : Queue := { q with waiters := q.waiters.filter (· ≠ i) }

theorem withdraw_eq (q : Queue) (hi : i ∉ q.waiters) : q.withdraw i = q := by
  obtain ⟨k, h, ws⟩ := q
  refine congrArg (Queue.mk k h) (List.filter_eq_self.mpr fun x hx => ?_)
  simpa using fun he : x = i => hi (he ▸ hx)

/-- The holder and the waiters in front of `i`. -/
def ahead (q : Queue) (i : TaskId) : List TaskId := q.holder :: q.waiters.takeWhile (· ≠ i)

theorem ahead_push (q : Queue) (hi : i ∈ q.waiters) :
    (⟨q.mutex, q.holder, q.waiters ++ [j]⟩ : Queue).ahead i = q.ahead i := by
  obtain ⟨k, h, ws⟩ := q
  refine congrArg (h :: ·) ?_
  show (ws ++ [j]).takeWhile (· ≠ i) = ws.takeWhile (· ≠ i)
  induction ws with
  | nil => cases hi
  | cons x ws ih =>
    by_cases hx : x = i
    · rw [List.cons_append, List.takeWhile_cons_of_neg (by simpa using hx),
        List.takeWhile_cons_of_neg (by simpa using hx)]
    · have hi : i ∈ ws := (List.mem_cons.mp hi).resolve_left (Ne.symm hx)
      rw [List.cons_append, List.takeWhile_cons_of_pos (by simpa using hx),
        List.takeWhile_cons_of_pos (by simpa using hx), ih hi]

theorem ahead_next (k : MutexId) (h : TaskId) (ws : List TaskId) (hij : j ≠ i) :
    ((⟨k, j, ws⟩ : Queue).ahead i).Sublist ((⟨k, h, j :: ws⟩ : Queue).ahead i) := by
  have he : (⟨k, h, j :: ws⟩ : Queue).ahead i = h :: (⟨k, j, ws⟩ : Queue).ahead i := by
    simp [ahead, hij]
  rw [he]
  exact List.sublist_cons_self _ _

theorem ahead_withdraw (q : Queue) (hij : j ≠ i) :
    ((q.withdraw j).ahead i).Sublist (q.ahead i) := by
  obtain ⟨k, h, ws⟩ := q
  refine List.Sublist.cons_cons h ?_
  show ((ws.filter (· ≠ j)).takeWhile (· ≠ i)).Sublist (ws.takeWhile (· ≠ i))
  induction ws with
  | nil => exact List.Sublist.refl _
  | cons x ws ih =>
    by_cases hxj : x = j
    · have hx : x ≠ i := hxj ▸ hij
      rw [List.filter_cons_of_neg (by simpa using hxj),
        List.takeWhile_cons_of_pos (by simpa using hx)]
      exact ih.trans (List.sublist_cons_self _ _)
    · rw [List.filter_cons_of_pos (by simpa using hxj)]
      by_cases hx : x = i
      · rw [List.takeWhile_cons_of_neg (by simpa using hx)]
        exact List.nil_sublist _
      · rw [List.takeWhile_cons_of_pos (by simpa using hx),
          List.takeWhile_cons_of_pos (by simpa using hx)]
        exact ih.cons_cons x

end Queue

/-! ## Fairness -/

namespace Locks

variable {ls ls' ls'' : Locks} {l : Lock} {i j : TaskId}

/-- **`Keeps i ls ls'`**: if `i` waits in a queue of `ls'`, it waits in that queue of `ls`, behind
the same tasks or more. -/
def Keeps (i : TaskId) (ls ls' : Locks) : Prop :=
  ∀ l q', ls'.queue? l = some q' → i ∈ q'.waiters →
    ∃ q, ls.queue? l = some q ∧ i ∈ q.waiters ∧ (q'.ahead i).Sublist (q.ahead i)

theorem Keeps.refl (i : TaskId) (ls : Locks) : Keeps i ls ls :=
  fun _ q hq hi => ⟨q, hq, hi, List.Sublist.refl _⟩

theorem Keeps.trans (h : Keeps i ls ls') (h' : Keeps i ls' ls'') : Keeps i ls ls'' := by
  intro l q'' hq hi
  obtain ⟨q', hq, hi, hs'⟩ := h' l q'' hq hi
  obtain ⟨q, hq, hi, hs⟩ := h l q' hq hi
  exact ⟨q, hq, hi, hs'.trans hs⟩

/-- `Keeps` for a change of one queue. -/
theorem Keeps.update {o : Option Queue} (hu : ls'.queue? = Function.update ls.queue? l o)
    (h : ∀ q', o = some q' → i ∈ q'.waiters →
      ∃ q, ls.queue? l = some q ∧ i ∈ q.waiters ∧ (q'.ahead i).Sublist (q.ahead i)) :
    Keeps i ls ls' := by
  intro l' q' hq hi
  rw [hu] at hq
  by_cases hl : l' = l
  · subst hl
    rw [Function.update_self] at hq
    exact h q' hq hi
  · rw [Function.update_of_ne hl] at hq
    exact ⟨q', hq, hi, List.Sublist.refl _⟩

end Locks

/-! ## The operations of a machine -/

namespace Machine

variable {α : Type} {m m' : Machine α} {i j : TaskId} {l : Lock} {k : MutexId} {t : Task α}
  {p : Procedure α} {held : List (Lock × MutexId)}

/-- `take` appends to the queue. -/
theorem Consistent.keeps_take (hc : m.Consistent) (hij : i ≠ j) (l : Lock) (next : Procedure α) :
    Locks.Keeps j m.locks (m.take i l next).locks := by
  cases hq : m.locks.queue? l with
  | none =>
    obtain ⟨k, ls, ha, -, hu⟩ := hc.sound.acquire_free hq i
    have he : (m.take i l next).locks = ls := by simp only [take, modify, ha]
    rw [he]
    refine Locks.Keeps.update hu ?_
    rintro _ ⟨⟩ hj
    cases hj
  | some q =>
    obtain ⟨ls, ha, -, hu⟩ := hc.sound.acquire_held hq i
    have he : (m.take i l next).locks = ls := by simp only [take, modify, ha]
    rw [he]
    refine Locks.Keeps.update hu ?_
    rintro _ ⟨⟩ hj
    have hj : j ∈ q.waiters := by
      rcases List.mem_append.mp hj with hj | hj
      · exact hj
      · exact absurd (List.mem_singleton.mp hj).symm hij
    refine ⟨q, hq, hj, ?_⟩
    rw [q.ahead_push hj]

/-- `giveBack` passes the lock to the first waiter. -/
theorem Consistent.queue?_giveBack (hc : m.Consistent) (hm : (l, k) ∈ m.heldBy i) :
    ∃ q, m.locks.queue? l = some q ∧ q.holder = i ∧
      (m.giveBack i (l, k)).locks.queue? = Function.update m.locks.queue? l q.next? := by
  obtain ⟨⟨k', i', ws⟩, hq, hk, hi⟩ := (hc.queueInvariant.held_iff i l k).mp hm
  obtain rfl : k = k' := hk.symm
  refine ⟨_, hq, hi, ?_⟩
  have he : (m.giveBack i (l, k)).locks = (m.locks.release l k).2 := by
    rw [Machine.giveBack]
    rcases m.locks.release l k with ⟨_ | x, ls⟩ <;> rfl
  rw [he]
  cases ws with
  | nil =>
    obtain ⟨ls, hr, -, hu⟩ := hc.sound.release_last hq
    rw [hr, hu]
    rfl
  | cons x ws =>
    obtain ⟨ls, hr, -, hu⟩ := hc.sound.release_next hq
    rw [hr, hu]
    rfl

/-- `leave` keeps the order of the other waiters. -/
theorem Consistent.queue?_leave (hc : m.Consistent) (ht : m.tasks[i]? = some t) (l : Lock) :
    (m.leave i t.status).locks.queue? l = (m.locks.queue? l).map (·.withdraw i) := by
  have hout (l' : Lock) (hw : ∀ k, t.awaited? ≠ some (l', k)) :
      (m.locks.queue? l').map (·.withdraw i) = m.locks.queue? l' := by
    cases hq : m.locks.queue? l' with
    | none => rfl
    | some q =>
      refine congrArg some (q.withdraw_eq fun hi => hw q.mutex ?_)
      rw [← awaited?_eq ht]
      exact (hc.queueInvariant.awaited_iff i l' q.mutex).mpr ⟨q, hq, rfl, hi⟩
  cases hw : t.awaited? with
  | none =>
    have he : (m.leave i t.status).locks = m.locks := by
      obtain ⟨s, held⟩ := t
      cases s with
      | awaitingLock l k next => cases hw
      | ready p | awaitingAnswer stage next | finished | dropped => rfl
    rw [he, hout l (by simp [hw])]
  | some g =>
    -- it stands in the queue of one lock
    obtain ⟨l', k⟩ := g
    obtain ⟨q, hq, rfl, hi⟩ :=
      (hc.queueInvariant.awaited_iff i l' k).mp (by rw [awaited?_eq ht, hw])
    obtain ⟨-, hu⟩ := hc.sound.queue?_withdraw hq hi (hc.queueInvariant.nodup l' q hq)
    have he : (m.leave i t.status).locks = m.locks.withdraw l' q.mutex i := by
      obtain ⟨next, he⟩ := Task.eq_of_awaited? hw
      rw [he]
      rfl
    rw [he, hu]
    by_cases hl : l = l'
    · subst hl
      rw [Function.update_self, hq]
      rfl
    · rw [Function.update_of_ne hl, hout l fun k' h => hl ?_]
      rw [hw] at h
      exact (congrArg Prod.fst (Option.some.inj h)).symm

theorem Consistent.keeps_giveBack (hc : m.Consistent) (j : TaskId)
    (hm : (l, k) ∈ m.heldBy i) : Locks.Keeps j m.locks (m.giveBack i (l, k)).locks := by
  obtain ⟨⟨k', i', ws⟩, hq, -, hu⟩ := hc.queue?_giveBack hm
  refine Locks.Keeps.update hu fun q hq' hj => ?_
  cases ws with
  | nil => cases hq'
  | cons x ws =>
    cases hq'
    -- the first in line is not in it twice
    have hx : x ≠ j := fun hx => (List.nodup_cons.mp (hc.queueInvariant.nodup l _ hq)).1 (hx ▸ hj)
    exact ⟨_, hq, List.mem_cons_of_mem _ hj, Queue.ahead_next _ _ _ hx⟩

theorem Consistent.keeps_leave (hc : m.Consistent) (j : TaskId) (ht : m.tasks[i]? = some t) :
    Locks.Keeps j m.locks (m.leave i t.status).locks := by
  intro l q' hq hj
  rw [hc.queue?_leave ht, Option.map_eq_some_iff] at hq
  obtain ⟨q, hq, rfl⟩ := hq
  obtain ⟨hj, hne⟩ := List.mem_filter.mp hj
  exact ⟨q, hq, hj, q.ahead_withdraw (Ne.symm (by simpa using hne))⟩

theorem Consistent.keeps_act (hc : m.Consistent) (hij : i ≠ j)
    (ht : m.tasks[i]? = some ⟨.ready p, held⟩) :
    Locks.Keeps j m.locks (m.act i p).locks := by
  cases p with
  | acquire l next => exact hc.keeps_take hij l next
  | release l next =>
    show Locks.Keeps j m.locks (m.release i l).locks
    rw [release_eq ht]
    cases hf : held.find? (·.1 = l) with
    | none => exact Locks.Keeps.refl _ _
    | some g => exact hc.keeps_giveBack j (heldBy_eq ht ▸ List.mem_of_find?_eq_some hf)
  | done a | send stage r next | consult e next | remember e a next | emit s next =>
    exact Locks.Keeps.refl _ _

/-- A turn of another task is fair. -/
theorem Consistent.keeps_run (hc : m.Consistent) (hij : i ≠ j)
    (ht : m.status? i = some (.ready p)) : Locks.Keeps j m.locks (Machine.run i p m).locks := by
  obtain ⟨⟨st, held⟩, ht, rfl⟩ := Option.map_eq_some_iff.mp ht
  exact (hc.run (P := fun m' => Locks.Keeps j m.locks m'.locks) i
    (fun hc ht h => h.trans (hc.keeps_act hij ht)) p ht (Locks.Keeps.refl _ _)).2.2

/-- Dropping a task is fair. -/
theorem Consistent.keeps_cancel (hc : m.Consistent) (j : TaskId) (ht : m.tasks[i]? = some t) :
    Locks.Keeps j m.locks (m.cancel i t).locks := by
  have hfold (held : List (Lock × MutexId)) : ∀ {m : Machine α}, m.Consistent →
      m.tasks[i]? = some ⟨.dropped, held⟩ →
        Locks.Keeps j m.locks (held.foldl (fun m h => m.giveBack i h) m).locks := by
    induction held with
    | nil => exact fun _ _ => Locks.Keeps.refl _ _
    | cons h held ih =>
      intro m hc ht
      have hm : h ∈ m.heldBy i := heldBy_eq ht ▸ List.mem_cons_self
      have hch := hc.giveBack ht rfl List.mem_cons_self
      rw [List.erase_cons_head] at hch
      exact (hc.keeps_giveBack j hm).trans (ih hch.consistent hch.own)
  have hleave := hc.leave ht
  exact (hc.keeps_leave j ht).trans (hfold t.held hleave.consistent hleave.own)

end Machine

/-! ## Over courses -/

/-- **Every step is fair** to a task that is not ready. -/
theorem Course.Step.keeps {c : Client} {s s' : Course} {j : TaskId} (h : Reachable c s)
    (hs : Step c s s') (hj : s.machine.isReady j = false) :
    Locks.Keeps j s.machine.locks s'.machine.locks := by
  have hc := h.consistent.1
  cases hs with
  | event e ha =>
    cases e with
    | ask call =>
      cases ha
      exact Locks.Keeps.refl _ _
    | answer i o =>
      rw [Event.onTasks, Machine.accept?] at ha
      split at ha
      · cases ha
        exact Locks.Keeps.refl _ _
      · cases ha
    | drop i =>
      rw [Event.onTasks, Machine.accept?] at ha
      split at ha
      · next t ht =>
        split at ha
        · cases ha
        · cases ha
          exact hc.keeps_cancel j ht
      · cases ha
  | @turn i p ht =>
    refine hc.keeps_run (fun hij => ?_) ht
    subst hij
    rw [Machine.isReady, ht] at hj
    cases hj

end TenantApps
