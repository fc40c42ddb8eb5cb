import TenantApps.Proofs.Names.Exclusion
import TenantApps.Proofs.Progress.Budget
import TenantApps.Proofs.Tasks.Line

/-!
# `TenantApps.Proofs.Tasks.Cancellation` — dropping a task

A task may be dropped while it waits for the guard of its name, while it holds the guard and awaits
a response, or while it also waits for or holds the lock of an address. `Machine.CancelEffect`
describes the machine afterwards in all cases alike: the task is in no queue, its locks go to the
first waiters, and nothing else changes. The proof computes the queues; that they agree with the
tasks before and after then determines which tasks were granted a lock.

## Contents
- `Queue.without` and `Queue.Successor`, the rest of a queue and its next holder.
- `Machine.Consistent.queue?_cancel`, the queues after `Machine.cancel`.
- `Machine.CancelEffect` and `Machine.Consistent.cancelEffect`.
- `Course.Reachable.behind` and `Course.Reachable.guard_free`, who blocks a task.
- `Course.cancellation`, the **main result**.
-/

namespace TenantApps

/-! ## Removing a task from a queue -/

namespace Queue

/-- The queue without task `i`; `none` if nobody is left. -/
def without (q : Queue) (i : TaskId) : Option Queue :=
  if q.holder = i then (q.withdraw i).next? else some (q.withdraw i)

/-- `q.Successor i j`: `i` holds the lock, and `j` is the first other waiter. -/
def Successor (q : Queue) (i j : TaskId) : Prop :=
  q.holder = i ∧ (q.withdraw i).waiters.head? = some j

theorem Successor.without {q : Queue} {i j : TaskId} (h : q.Successor i j) :
    ∃ ws, q.waiters.filter (· ≠ i) = j :: ws ∧ q.without i = some ⟨q.mutex, j, ws⟩ := by
  obtain ⟨hi, hj⟩ := h
  obtain ⟨ws, hws⟩ := List.head?_eq_some_iff.mp hj
  refine ⟨ws, hws, ?_⟩
  rw [Queue.without, if_pos hi, next?, hws]
  rfl

/-- Other waiters keep waiting or become the holder. -/
theorem mem_without {q : Queue} {i j : TaskId} (hj : j ∈ q.waiters) (hij : j ≠ i)
    (hn : ¬q.Successor i j) : ∃ q', q.without i = some q' ∧ j ∈ q'.waiters := by
  have hj : j ∈ q.waiters.filter (· ≠ i) := List.mem_filter.mpr ⟨hj, by simpa using hij⟩
  rw [Queue.without]
  split
  · next hi =>
    cases hws : q.waiters.filter (· ≠ i) with
    | nil =>
      rw [hws] at hj
      cases hj
    | cons x ws =>
      have hx : j ≠ x := fun e => hn ⟨hi, by rw [withdraw, hws, e]; rfl⟩
      rw [hws] at hj
      refine ⟨⟨q.mutex, x, ws⟩, ?_, (List.mem_cons.mp hj).resolve_left hx⟩
      rw [next?, withdraw, hws]
  · exact ⟨q.withdraw i, rfl, hj⟩

end Queue

/-! ## The effect of a cancellation -/

namespace Machine

variable {α : Type} {m m' : Machine α} {i j : TaskId} {t : Task α} {held : List (Lock × MutexId)}
  {xs : List (Entry α)} {c : Cache}

/-- Releasing all locks of a dropped task passes each of them to its first waiter. -/
theorem Consistent.queue?_giveBack_all (hc : m.Consistent)
    (ht : m.tasks[i]? = some ⟨.dropped, held⟩) (l : Lock) :
    (held.foldl (fun m h => m.giveBack i h) m).locks.queue? l =
      (m.locks.queue? l).bind fun q => if q.holder = i then q.next? else some q := by
  induction held generalizing m with
  | nil =>
    cases hq : m.locks.queue? l with
    | none => rw [List.foldl_nil, hq]; rfl
    | some q =>
      have hi : q.holder ≠ i := by
        intro hi
        have hm := (hc.queueInvariant.held_iff i l q.mutex).mpr ⟨q, hq, rfl, hi⟩
        rw [heldBy_eq ht] at hm
        cases hm
      rw [List.foldl_nil, hq, Option.bind_some, if_neg hi]
  | cons g held ih =>
    obtain ⟨l', k⟩ := g
    have hch := hc.giveBack ht rfl List.mem_cons_self
    rw [List.erase_cons_head] at hch
    have hm : (l', k) ∈ m.heldBy i := by
      rw [heldBy_eq ht]
      exact List.mem_cons_self
    obtain ⟨q, hq, hi, hu⟩ := hc.queue?_giveBack hm
    rw [List.foldl_cons, ih hch.consistent hch.own, hu]
    by_cases hl : l = l'
    · -- the task does not wait, so it does not get its own lock
      subst hl
      have hn := hc.queueInvariant.not_mem_waiters hq (awaited?_eq ht)
      rw [Function.update_self, hq, Option.bind_some, if_pos hi, Queue.next?]
      split
      · next j ws hws =>
        have hj : j ≠ i := fun e => hn (by rw [hws, e]; exact List.mem_cons_self)
        rw [Option.bind_some, if_neg hj]
      · rfl
    · rw [Function.update_of_ne hl]

/-- `Machine.cancel` removes the task from every queue. -/
theorem Consistent.queue?_cancel (hc : m.Consistent) (ht : m.tasks[i]? = some t) (l : Lock) :
    (m.cancel i t).locks.queue? l = (m.locks.queue? l).bind (·.without i) := by
  have hleave := hc.leave ht
  rw [Machine.cancel, hleave.consistent.queue?_giveBack_all hleave.own, hc.queue?_leave ht,
    Option.bind_map]
  rfl

/-- **`CancelEffect m i m'`**: `m'` is `m` after task `i` was dropped. -/
structure CancelEffect (m : Machine α) (i : TaskId) (m' : Machine α) : Prop where
  report : m'.report = m.report
  cache : m'.cache = m.cache
  own : m'.tasks[i]? = some ⟨.dropped, []⟩
  queues : ∀ l, m'.locks.queue? l = (m.locks.queue? l).bind (·.without i)
  /-- The first waiter for a lock of task `i` holds it and is ready. -/
  successors : ∀ l q j, m.locks.queue? l = some q → q.Successor i j → ∃ next held,
    m.tasks[j]? = some ⟨.awaitingLock l q.mutex next, held⟩ ∧
      m'.tasks[j]? = some ⟨.ready next, (l, q.mutex) :: held⟩
  others : ∀ j, j ≠ i → (∀ l q, m.locks.queue? l = some q → ¬q.Successor i j) →
    m'.tasks[j]? = m.tasks[j]?

/-- The first waiter for a lock of the dropped task is granted it. -/
theorem Change.successor {l : Lock} {q : Queue} (h : Change m i t xs c m') (hc : m.Consistent)
    (hqs : m'.locks.queue? l = (m.locks.queue? l).bind (·.without i))
    (hq : m.locks.queue? l = some q) (hj : q.Successor i j) : ∃ next held,
      m.tasks[j]? = some ⟨.awaitingLock l q.mutex next, held⟩ ∧
        m'.tasks[j]? = some ⟨.ready next, (l, q.mutex) :: held⟩ := by
  obtain ⟨ws, hws, hw⟩ := hj.without
  rw [hq, Option.bind_some, hw] at hqs
  obtain ⟨hjq, hji⟩ : j ∈ q.waiters ∧ j ≠ i := by
    have : j ∈ q.waiters.filter (· ≠ i) := hws ▸ List.mem_cons_self
    simpa using this
  have hnot : j ∉ ws := by
    have := (hc.queueInvariant.nodup l q hq).filter (· ≠ i)
    rw [hws] at this
    exact (List.nodup_cons.mp this).1
  obtain ⟨u, hu, huw⟩ := Option.bind_eq_some_iff.mp
    ((hc.queueInvariant.awaited_iff j l q.mutex).mpr ⟨q, hq, rfl, hjq⟩)
  obtain ⟨next, he⟩ := Task.eq_of_awaited? huw
  rw [he] at hu
  refine ⟨next, u.held, hu, ?_⟩
  rcases h.others j hji with e | e
  · -- it would wait for the lock still, but it is not in the line any more
    rw [hu] at e
    obtain ⟨q', hq', -, hm⟩ :=
      (h.consistent.queueInvariant.awaited_iff j l q.mutex).mp (awaited?_eq e)
    rw [hqs] at hq'
    cases hq'
    exact absurd hm hnot
  · rw [e, hu]
    rfl

/-- Every other waiter is unchanged. -/
theorem Change.stays (h : Change m i t xs c m') (hc : m.Consistent)
    (hqs : ∀ l, m'.locks.queue? l = (m.locks.queue? l).bind (·.without i)) (hj : j ≠ i)
    (hn : ∀ l q, m.locks.queue? l = some q → ¬q.Successor i j) : m'.tasks[j]? = m.tasks[j]? := by
  rcases h.others j hj with e | e
  · exact e
  · rw [e]
    cases hu : m.tasks[j]? with
    | none => rfl
    | some u =>
      rw [Option.map_some]
      cases hw : u.awaited? with
      | none => rw [u.granted_eq hw]
      | some g =>
        -- it would have the lock, but it is in the line still
        obtain ⟨l, k⟩ := g
        obtain ⟨q, hq, -, hjq⟩ :=
          (hc.queueInvariant.awaited_iff j l k).mp ((awaited?_eq hu).trans hw)
        obtain ⟨q', hq', hjq'⟩ := Queue.mem_without hjq hj (hn l q hq)
        rw [hu, Option.map_some] at e
        refine absurd hjq' (h.consistent.queueInvariant.not_mem_waiters (l := l) ?_
          ((awaited?_eq e).trans u.granted_awaited?))
        rw [hqs, hq, Option.bind_some, hq']

/-- **`Machine.cancel` has the `CancelEffect`.** -/
theorem Consistent.cancelEffect (hc : m.Consistent) (ht : m.tasks[i]? = some t) :
    CancelEffect m i (m.cancel i t) := by
  have hch := hc.cancel ht
  have hqs := hc.queue?_cancel ht
  exact {
    report := congrArg Report.mk (hch.report.trans (List.append_nil _))
    cache := hch.cache
    own := hch.own
    queues := hqs
    successors := fun l q j hq hj => hch.successor hc (hqs l) hq hj
    others := fun j hj hn => hch.stays hc hqs hj hn }

theorem Change.dropped (h : Change m j t xs c m') (hij : i ≠ j)
    (hi : m.tasks[i]? = some ⟨.dropped, held⟩) : m'.tasks[i]? = some ⟨.dropped, held⟩ := by
  rcases h.others i hij with e | e <;> rw [e, hi]
  rfl

end Machine

/-! ## Over courses -/

namespace Course

open Machine

variable {c : Client} {s s' : Course} {i j : TaskId} {n : ApplicationName}
  {held : List (Lock × MutexId)}

/-- A dropped task stays as it is. -/
theorem Step.dropped (h : Reachable c s) (hs : Step c s s')
    (hi : s.machine.tasks[i]? = some ⟨.dropped, held⟩) :
    s'.machine.tasks[i]? = some ⟨.dropped, held⟩ := by
  have hc := h.consistent.1
  cases hs with
  | event e ha =>
    cases e with
    | ask call =>
      obtain ⟨-, htasks, -, -⟩ := hc.start ha
      rw [htasks, List.getElem?_append_left (List.getElem?_eq_some_iff.mp hi).1, hi]
    | answer j o =>
      obtain ⟨stage, next, held', hj, hch⟩ := hc.answer ha
      refine hch.dropped (fun hij => ?_) hi
      rw [← hij, hi] at hj
      cases hj
    | drop j =>
      obtain ⟨t, hj, ho, hch⟩ := hc.drop ha
      refine hch.dropped (fun hij => ?_) hi
      rw [← hij, hi] at hj
      cases hj
      cases ho
  | @turn j p hj =>
    obtain ⟨t, xs, k, hch⟩ := hc.run_change hj
    refine hch.dropped (fun hij => ?_) hi
    rw [← hij, status?, hi] at hj
    cases hj

theorem Reachable.dropped (h : Reachable c s) (hs : Relation.ReflTransGen (Step c) s s')
    (hi : s.machine.tasks[i]? = some ⟨.dropped, held⟩) :
    s'.machine.tasks[i]? = some ⟨.dropped, held⟩ := by
  induction hs with
  | refl => exact hi
  | tail hs hstep ih => exact hstep.dropped (h.trans hs) ih

/-- A waiting task waits for another, unfinished task. -/
theorem Reachable.behind {l : Lock} {k : MutexId} (h : Reachable c s)
    (hw : s.machine.awaited? i = some (l, k)) :
    ∃ j, j ≠ i ∧ s.machine.Unfinished j ∧ (l, k) ∈ s.machine.heldBy j := by
  obtain ⟨w, hall⟩ := h.allotted
  obtain ⟨j, hj⟩ := h.consistent.1.holder hw
  refine ⟨j, fun hij => ?_, hall.unfinished h.tidy hj, hj⟩
  subst hij
  exact hall.acyclic j (.single ⟨l, k, hw, hj⟩)

/-- The guard of a name is free if no operation on the name is unfinished. -/
theorem Reachable.guard_free (h : Reachable c s)
    (hn : ∀ j, s.name? j = some n → ¬s.machine.Unfinished j) :
    s.machine.locks.queue? (.name n) = none := by
  have hg := h.guarding (fun j => (s.calls[j]?).bind c.guard?) fun j call hj => by
    rw [hj, Option.bind_some]
  refine h.consistent.1.free_iff.mpr fun j k hk => ?_
  obtain ⟨hj, hu⟩ := hg.unfinished hk
  obtain ⟨call, hcall, hguard⟩ := Option.bind_eq_some_iff.mp hj
  refine hn j ?_ hu
  rw [name?, hcall, Option.bind_some]
  rw [Client.guard?] at hguard
  split at hguard
  · exact hguard
  · cases hguard

/-- **Cancellation.** In every reachable course, an unfinished task can be dropped, with
`CancelEffect`. In every later course the task is dropped and in no queue; a response to it is
discarded; a waiting task waits for a holder that is another unfinished task; and the guard of a
name is free once no operation on the name is unfinished. -/
theorem cancellation (h : Reachable c s) (hi : s.machine.Unfinished i) :
    ∃ m, s.machine.accept? (.drop i) = some m ∧ s.machine.CancelEffect i m ∧
      ∀ s', Relation.ReflTransGen (Step c) ⟨s.calls, m⟩ s' →
        s'.machine.tasks[i]? = some ⟨.dropped, []⟩ ∧
        (∀ l q, s'.machine.locks.queue? l = some q → q.holder ≠ i ∧ i ∉ q.waiters) ∧
        (∀ o, s'.machine.accept? (.answer i o) = none ∧
          s'.machine.step (.answer i o) = (true, { s'.machine with report := {} })) ∧
        (∀ j l k, s'.machine.awaited? j = some (l, k) → ∃ j', j' ≠ i ∧ j' ≠ j ∧
          s'.machine.Unfinished j' ∧ (l, k) ∈ s'.machine.heldBy j') ∧
        ∀ n, (∀ j, s'.name? j = some n → ¬s'.machine.Unfinished j) →
          s'.machine.locks.queue? (.name n) = none := by
  obtain ⟨t, ht, ho⟩ := hi
  have ha : s.machine.accept? (.drop i) = some (s.machine.cancel i t) := by
    rw [accept?, ht]
    exact if_neg (by simp [ho])
  have hd := h.consistent.1.cancelEffect ht
  refine ⟨_, ha, hd, fun s' hs => ?_⟩
  have hm : Reachable c ⟨s.calls ++ Event.calls (.drop i), s.machine.cancel i t⟩ :=
    h.tail (.event (.drop i) ha)
  rw [show s.calls ++ Event.calls (.drop i) = s.calls from List.append_nil _] at hm
  have hi' := hm.dropped hs hd.own
  have h' : Reachable c s' := hm.trans hs
  have hinvariant := h'.consistent.1.queueInvariant
  refine ⟨hi', fun l q hq => ⟨fun hq' => ?_, hinvariant.not_mem_waiters hq (awaited?_eq hi')⟩,
    fun o => ?_, fun j l k hw => ?_, fun n hn => h'.guard_free hn⟩
  · have := (hinvariant.held_iff i l q.mutex).mpr ⟨q, hq, rfl, hq'⟩
    rw [heldBy_eq hi'] at this
    cases this
  · simp only [step, accept?, status?, hi', Option.map_some, and_self]
  · obtain ⟨j', hne, ⟨u, hu, hou⟩, hj'⟩ := h'.behind hw
    refine ⟨j', fun he => ?_, hne, ⟨u, hu, hou⟩, hj'⟩
    subst he
    rw [hi'] at hu
    cases hu
    cases hou

/-- `cancellation` of a creation that holds the guard while a deletion of the same name waits for
it: the deletion is ready. -/
theorem cancellation_sample :
    let s := play .sample [.ask (.create "a"), .ask (.delete "a")] {}
    Reachable .sample s ∧ s.machine.Unfinished 0 ∧ s.machine.isReady 1 = false ∧
      ∃ m, s.machine.accept? (.drop 0) = some m ∧ s.machine.CancelEffect 0 m ∧
        m.isReady 1 = true := by
  intro s
  have h : Reachable .sample s := Reachable.play _ .refl
  have hi : s.machine.Unfinished 0 := by
    obtain ⟨t, ht, ho⟩ := Option.map_eq_some_iff.mp
      (show (s.machine.tasks[0]?).map (·.status.isOver) = some false by decide)
    exact ⟨t, ht, ho⟩
  obtain ⟨m, ha, hd, -⟩ := cancellation h hi
  have hr : (s.machine.accept? (.drop 0)).map (·.isReady 1) = some true := by decide
  refine ⟨h, hi, by decide, m, ha, hd, ?_⟩
  rw [ha] at hr
  exact Option.some.inj hr

end Course

end TenantApps
