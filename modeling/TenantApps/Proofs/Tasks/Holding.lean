import TenantApps.Proofs.Tasks.QueueInvariant
import TenantApps.Tasks.Machine

/-!
# `TenantApps.Proofs.Tasks.Holding` — agreement of tasks and queues

`Machine.Consistent` says that the queues of the locks are those that the tasks imply: who holds a
lock and who waits for it. It yields mutual exclusion. Every operation of the machine is a
`Machine.Change` of one task, which affects other tasks by granting locks only; invariants are
proved once for `Change`.

## Contents
- `Machine.Consistent`, with `Machine.Consistent.unique`, **mutual exclusion**.
- `Machine.Change`, the effect of one task; `Change.tasks`, `requests`, `results`.
- `Machine.Consistent.setStatus`, `take_free`, `take_held`, `giveBack`, `leave` and `cancel`, the
  operations of a machine as changes.
-/

namespace TenantApps

/-! ## Consistency -/

variable {α : Type}

/-- The lock that a task waits for, with its mutex. -/
def Task.awaited? (t : Task α) : Option (Lock × MutexId) :=
  match t.status with
  | .awaitingLock l k _ => some (l, k)
  | _ => none

theorem Task.eq_of_awaited? {t : Task α} {g : Lock × MutexId} (hw : t.awaited? = some g) :
    ∃ next, t = ⟨.awaitingLock g.1 g.2 next, t.held⟩ := by
  obtain ⟨s, held⟩ := t
  cases s with
  | awaitingLock l k next =>
    cases hw
    exact ⟨next, rfl⟩
  | ready p | awaitingAnswer stage next | finished | dropped => cases hw

theorem Task.granted_held {t : Task α} {g : Lock × MutexId} (hw : t.awaited? = some g) :
    t.granted.held = g :: t.held := by
  obtain ⟨next, he⟩ := Task.eq_of_awaited? hw
  rw [he]
  rfl

theorem Task.granted_eq (t : Task α) (hw : t.awaited? = none) : t.granted = t := by
  obtain ⟨s, held⟩ := t
  cases s with
  | awaitingLock l k next => cases hw
  | ready p | awaitingAnswer stage next | finished | dropped => rfl

@[simp] theorem Task.granted_awaited? (t : Task α) : t.granted.awaited? = none := by
  obtain ⟨s, held⟩ := t
  cases s <;> rfl

@[simp] theorem Task.granted_granted (t : Task α) : t.granted.granted = t.granted :=
  t.granted.granted_eq t.granted_awaited?

namespace Machine

variable {m m' m'' : Machine α} {i j : TaskId} {l : Lock} {k k' : MutexId} {t t' : Task α}
  {xs ys : List (Entry α)} {c c' : Cache}

def heldBy (m : Machine α) (i : TaskId) : List (Lock × MutexId) := (m.tasks[i]?).elim [] Task.held

def awaited? (m : Machine α) (i : TaskId) : Option (Lock × MutexId) :=
  (m.tasks[i]?).bind Task.awaited?

/-- **`Consistent`**: the queues agree with the tasks. -/
structure Consistent (m : Machine α) : Prop where
  sound : m.locks.Sound
  queueInvariant : QueueInvariant m.locks.queue? m.heldBy m.awaited?

/-- **Mutual exclusion**: a lock has one holder and one mutex. -/
theorem Consistent.unique (hc : m.Consistent) (hi : (l, k) ∈ m.heldBy i)
    (hj : (l, k') ∈ m.heldBy j) : i = j ∧ k = k' := by
  obtain ⟨q, hq, rfl, rfl⟩ := (hc.queueInvariant.held_iff i l k).mp hi
  obtain ⟨q', hq', rfl, rfl⟩ := (hc.queueInvariant.held_iff j l k').mp hj
  rw [hq] at hq'
  cases hq'
  exact ⟨rfl, rfl⟩

/-- A waiting task waits for a held mutex. -/
theorem Consistent.holder (hc : m.Consistent) (hi : m.awaited? i = some (l, k)) :
    ∃ j, (l, k) ∈ m.heldBy j := by
  obtain ⟨q, hq, hk, -⟩ := (hc.queueInvariant.awaited_iff i l k).mp hi
  exact ⟨q.holder, (hc.queueInvariant.held_iff q.holder l k).mpr ⟨q, hq, hk, rfl⟩⟩

/-- A lock has no queue if and only if it has no holder. -/
theorem Consistent.free_iff (hc : m.Consistent) :
    m.locks.queue? l = none ↔ ∀ j k, (l, k) ∉ m.heldBy j := by
  constructor
  · exact fun hq j k => hc.queueInvariant.not_mem_held hq
  · intro h
    cases hq : m.locks.queue? l with
    | none => rfl
    | some q =>
      have hheld := (hc.queueInvariant.held_iff q.holder l q.mutex).mpr ⟨q, hq, rfl, rfl⟩
      exact absurd hheld (h _ _)

theorem consistent_init : (({} : Machine α)).Consistent where
  sound := Locks.sound_init
  queueInvariant := by
    have hq : ∀ l, Locks.queue? {} l = none := fun
      | .name n => rfl
      | .endpoint .token => rfl
      | .endpoint .keys => rfl
    refine ⟨?_, ?_, fun i => List.nodup_nil, ?_⟩
    · intro i l k
      simp [heldBy, hq]
    · intro i l k
      simp [awaited?, hq]
    · intro l q h
      rw [hq] at h
      cases h

theorem heldBy_eq (ht : m.tasks[i]? = some t) : m.heldBy i = t.held := by
  rw [heldBy, ht]
  rfl

theorem awaited?_eq (ht : m.tasks[i]? = some t) : m.awaited? i = t.awaited? := by
  rw [awaited?, ht]
  rfl

theorem getElem?_modify (f : Task α → Task α) (j : TaskId) :
    (m.modify i f).tasks[j]? = if i = j then m.tasks[j]?.map f else m.tasks[j]? := by
  simp only [modify, List.getElem?_modify]
  split <;> simp

theorem heldBy_modify (ht : m.tasks[i]? = some t) (f : Task α → Task α) :
    (m.modify i f).heldBy = Function.update m.heldBy i (f t).held := by
  funext j
  rw [heldBy, getElem?_modify]
  by_cases h : j = i
  · subst h
    simp [ht]
  · simp [Ne.symm h, h, heldBy]

theorem awaited?_modify (ht : m.tasks[i]? = some t) (f : Task α → Task α) :
    (m.modify i f).awaited? = Function.update m.awaited? i (f t).awaited? := by
  funext j
  rw [awaited?, getElem?_modify]
  by_cases h : j = i
  · subst h
    simp [ht]
  · simp [Ne.symm h, h, awaited?]

/-! ## Changes -/

/-- **`Change m i t xs c m'`**: from `m` to `m'`, task `i` becomes `t`, the entries `xs` are
appended, the cache becomes `c`, and other tasks may be granted locks. -/
structure Change (m : Machine α) (i : TaskId) (t : Task α) (xs : List (Entry α)) (c : Cache)
    (m' : Machine α) : Prop where
  consistent : m'.Consistent
  length : m'.tasks.length = m.tasks.length
  own : m'.tasks[i]? = some t
  others : ∀ j, j ≠ i → m'.tasks[j]? = m.tasks[j]? ∨ m'.tasks[j]? = m.tasks[j]?.map Task.granted
  report : m'.report.entries = m.report.entries ++ xs
  cache : m'.cache = c

/-- Another task is unchanged or was granted the lock that it waited for. -/
theorem Change.other (h : Change m i t xs c m') (hj : j ≠ i) (ht : m'.tasks[j]? = some t') :
    ∃ u, m.tasks[j]? = some u ∧ (t' = u ∨ ∃ g, u.awaited? = some g ∧ t' = u.granted) := by
  rcases h.others j hj with e | e
  · exact ⟨t', e ▸ ht, .inl rfl⟩
  · rw [e, Option.map_eq_some_iff] at ht
    obtain ⟨u, hu, rfl⟩ := ht
    refine ⟨u, hu, ?_⟩
    cases hw : u.awaited? with
    | none => exact .inl (u.granted_eq hw)
    | some g => exact .inr ⟨g, rfl, rfl⟩

/-- A free lock stays free if the changed task does not hold it. -/
theorem Change.free (h : Change m i t xs c m') (hc : m.Consistent) (hq : m.locks.queue? l = none)
    (ht : ∀ k, (l, k) ∉ t.held) : m'.locks.queue? l = none := by
  apply h.consistent.free_iff.mpr
  intro j k hk
  by_cases hj : j = i
  · subst hj
    rw [heldBy_eq h.own] at hk
    exact ht k hk
  · cases ht' : m'.tasks[j]? with
    | none => simp [heldBy, ht'] at hk
    | some t' =>
      rw [heldBy_eq ht'] at hk
      obtain ⟨u, hu, rfl | ⟨g, hw, rfl⟩⟩ := h.other hj ht'
      · exact hc.free_iff.mp hq j k (heldBy_eq hu ▸ hk)
      · -- whoever gets a lock has waited for it, so somebody held it before
        rw [Task.granted_held hw] at hk
        rcases List.mem_cons.mp hk with rfl | hk
        · obtain ⟨j', hj'⟩ := hc.holder ((awaited?_eq hu).trans hw)
          exact hc.free_iff.mp hq j' k hj'
        · exact hc.free_iff.mp hq j k (heldBy_eq hu ▸ hk)

/-- **Induction principle for a property of all tasks**: it is preserved by a change if the changed
task has it and the frame and `granted` cases preserve it. -/
theorem Change.tasks {P R : TaskId → Task α → Prop} (h : Change m i t xs c m')
    (hP : ∀ {j u}, m.tasks[j]? = some u → P j u) (hown : R i t)
    (hframe : ∀ {j u}, j ≠ i → m'.tasks[j]? = some u → P j u → R j u)
    (hgranted : ∀ {j u g}, j ≠ i → m'.tasks[j]? = some u.granted → P j u → u.awaited? = some g →
      R j u.granted) {t' : Task α} (ht : m'.tasks[j]? = some t') : R j t' := by
  by_cases hj : j = i
  · subst hj
    rw [h.own] at ht
    cases ht
    exact hown
  · obtain ⟨u, hu, rfl | ⟨g, hw, rfl⟩⟩ := h.other hj ht
    · exact hframe hj ht (hP hu)
    · exact hgranted hj ht (hP hu) hw

theorem Change.trans (h : Change m i t xs c m') (h' : Change m' i t' ys c' m'') :
    Change m i t' (xs ++ ys) c' m'' where
  consistent := h'.consistent
  length := h'.length.trans h.length
  own := h'.own
  others j hj := by
    rcases h.others j hj with e | e <;> rcases h'.others j hj with e' | e' <;> rw [e', e]
    · exact .inl rfl
    · exact .inr rfl
    · exact .inr rfl
    · refine .inr ?_
      rw [Option.map_map]
      congr 1
      funext t
      exact t.granted_granted
  report := by rw [h'.report, h.report, List.append_assoc]
  cache := h'.cache

theorem Change.requests (h : Change m i t xs c m') :
    m'.report.requests = m.report.requests ++ Report.requests ⟨xs⟩ := by
  rw [Report.requests, Report.requests, h.report, List.filterMap_append]
  rfl

theorem Change.results (h : Change m i t xs c m') :
    m'.report.results = m.report.results ++ Report.results ⟨xs⟩ := by
  rw [Report.results, Report.results, h.report, List.filterMap_append]
  rfl

theorem Change.note (h : Change m i t xs c m') (x : Entry α) :
    Change m i t (xs ++ [x]) c (m'.note x) where
  consistent := ⟨h.consistent.sound, h.consistent.queueInvariant⟩
  length := h.length
  own := h.own
  others := h.others
  report := by rw [Machine.note, h.report, List.append_assoc]
  cache := h.cache

/-- A change of one task and the locks. -/
theorem Change.of_modify {ls : Locks} {f : Task α → Task α} (ht : m.tasks[i]? = some t)
    (hf : f t = t') (hs : ls.Sound) (hl : QueueInvariant ls.queue?
      (Function.update m.heldBy i t'.held) (Function.update m.awaited? i t'.awaited?)) :
    Change m i t' [] m.cache ({ m with locks := ls }.modify i f) where
  consistent := by
    refine ⟨hs, ?_⟩
    rw [heldBy_modify (m := { m with locks := ls }) ht,
      awaited?_modify (m := { m with locks := ls }) ht, hf]
    exact hl
  length := List.length_modify ..
  own := by
    rw [getElem?_modify, if_pos rfl, show m.tasks[i]? = some t from ht, Option.map_some, hf]
  others j hj := .inl (by rw [getElem?_modify, if_neg (Ne.symm hj)])
  report := (List.append_nil _).symm
  cache := rfl

theorem update_heldBy (ht : m.tasks[i]? = some t) :
    Function.update m.heldBy i t.held = m.heldBy := by
  rw [Function.update_eq_self_iff, heldBy_eq ht]

theorem update_awaited? (ht : m.tasks[i]? = some t) :
    Function.update m.awaited? i t.awaited? = m.awaited? := by
  rw [Function.update_eq_self_iff, awaited?_eq ht]

/-- `setStatus` for a task that waits for no lock. -/
theorem Consistent.setStatus (hc : m.Consistent) (ht : m.tasks[i]? = some t)
    (hw : t.awaited? = none) (s : Status α) (hs : (⟨s, t.held⟩ : Task α).awaited? = none) :
    Change m i ⟨s, t.held⟩ [] m.cache (m.setStatus i s) := by
  refine Change.of_modify ht rfl hc.sound ?_
  rw [update_heldBy ht, hs, ← hw, update_awaited? ht]
  exact hc.queueInvariant

/-- `take` of a free lock. -/
theorem Consistent.take_free (hc : m.Consistent) (ht : m.tasks[i]? = some t)
    (hw : t.awaited? = none) (hq : m.locks.queue? l = none) (next : Procedure α) :
    ∃ k, Change m i ⟨.ready next, (l, k) :: t.held⟩ [] m.cache (m.take i l next) := by
  obtain ⟨k, ls, ha, hs, hq'⟩ := hc.sound.acquire_free hq i
  have he : m.take i l next =
      { m with locks := ls }.modify i fun t => ⟨.ready next, (l, k) :: t.held⟩ := by
    simp only [Machine.take, ha, if_true]
  have hl := hc.queueInvariant.take (i := i) (k := k) hq
  rw [← hq', heldBy_eq ht, ← update_awaited? ht, hw] at hl
  exact ⟨k, he ▸ Change.of_modify ht rfl hs hl⟩

/-- `take` of a held lock: the task waits. -/
theorem Consistent.take_held {q : Queue} (hc : m.Consistent) (ht : m.tasks[i]? = some t)
    (hw : t.awaited? = none) (hq : m.locks.queue? l = some q) (next : Procedure α) :
    Change m i ⟨.awaitingLock l q.mutex next, t.held⟩ [] m.cache (m.take i l next) := by
  obtain ⟨ls, ha, hs, hq'⟩ := hc.sound.acquire_held hq i
  have he : m.take i l next = { m with locks := ls }.modify i fun t =>
      { t with status := .awaitingLock l q.mutex next } := by
    simp only [Machine.take, ha, Bool.false_eq_true, if_false]
  have hl := hc.queueInvariant.wait hq (i := i) (by rw [awaited?_eq ht, hw])
  rw [← hq', ← update_heldBy ht] at hl
  exact he ▸ Change.of_modify ht rfl hs hl

/-- `giveBack` of a held lock. -/
theorem Consistent.giveBack {h : Lock × MutexId} (hc : m.Consistent) (ht : m.tasks[i]? = some t)
    (hw : t.awaited? = none) (hh : h ∈ t.held) :
    Change m i { t with held := t.held.erase h } [] m.cache (m.giveBack i h) := by
  obtain ⟨l, k⟩ := h
  obtain ⟨⟨k', i', ws⟩, hq, hk, hi⟩ :=
    (hc.queueInvariant.held_iff i l k).mp (by rw [heldBy_eq ht]; exact hh)
  obtain rfl : k = k' := hk.symm
  obtain rfl : i = i' := hi.symm
  cases ws with
  | nil =>
    -- nobody waits, so nobody else is touched
    obtain ⟨ls, hr, hs, hq'⟩ := hc.sound.release_last hq
    have he : m.giveBack i (l, k) = { m with locks := ls }.modify i fun t =>
        { t with held := t.held.erase (l, k) } := by
      simp only [Machine.giveBack, hr]
    have hl := hc.queueInvariant.free hq
    rw [← hq', heldBy_eq ht, ← update_awaited? ht] at hl
    exact he ▸ Change.of_modify ht rfl hs hl
  | cons j ws =>
    -- the lock goes to `j`, which is another task because this one waits for nothing
    have hji : j ≠ i := fun e =>
      hc.queueInvariant.not_mem_waiters hq ((awaited?_eq ht).trans hw) (e ▸ List.mem_cons_self)
    obtain ⟨ls, hr, hs, hq'⟩ := hc.sound.release_next hq
    have he : m.giveBack i (l, k) = ({ m with locks := ls }.modify i fun t =>
        { t with held := t.held.erase (l, k) }).modify j Task.granted := by
      simp only [Machine.giveBack, hr]
    obtain ⟨u, hu, huw⟩ := Option.bind_eq_some_iff.mp
      ((hc.queueInvariant.awaited_iff j l k).mpr ⟨_, hq, rfl, List.mem_cons_self⟩)
    have hu' : (({ m with locks := ls }.modify i fun t =>
        { t with held := t.held.erase (l, k) }).tasks)[j]? = some u := by
      rw [getElem?_modify, if_neg (Ne.symm hji)]
      exact hu
    have hl := hc.queueInvariant.hand hq hji
    rw [← hq', heldBy_eq ht, heldBy_eq hu, ← update_awaited? ht] at hl
    refine ⟨⟨?_, ?_⟩, ?_, ?_, fun j' hj' => ?_, ?_, ?_⟩ <;> rw [he]
    · exact hs
    · rw [heldBy_modify hu', awaited?_modify hu', heldBy_modify (m := { m with locks := ls }) ht,
        awaited?_modify (m := { m with locks := ls }) ht, u.granted_awaited?, Task.granted_held huw]
      exact hl
    · exact (List.length_modify ..).trans (List.length_modify ..)
    · rw [getElem?_modify, if_neg hji, getElem?_modify, if_pos rfl,
        show m.tasks[i]? = some t from ht]
      rfl
    · rw [getElem?_modify, getElem?_modify, if_neg (Ne.symm hj')]
      split
      · exact .inr rfl
      · exact .inl rfl
    · exact (List.append_nil _).symm
    · rfl

/-- `leave`: the task waits no longer. -/
theorem Consistent.leave (hc : m.Consistent) (ht : m.tasks[i]? = some t) :
    Change m i ⟨.dropped, t.held⟩ [] m.cache (m.leave i t.status) := by
  cases hw : t.awaited? with
  | none =>
    -- it waits for no lock, so no queue is touched
    have he : m.leave i t.status = m.setStatus i .dropped := by
      obtain ⟨s, held⟩ := t
      cases s with
      | awaitingLock l k next => cases hw
      | ready p | awaitingAnswer stage next | finished | dropped => rfl
    rw [he]
    exact hc.setStatus ht hw .dropped rfl
  | some h =>
    -- its place in the queue of the lock is given up
    obtain ⟨l, k⟩ := h
    obtain ⟨q, hq, rfl, hi⟩ := (hc.queueInvariant.awaited_iff i l k).mp (by rw [awaited?_eq ht, hw])
    obtain ⟨hs, hq'⟩ := hc.sound.queue?_withdraw hq hi (hc.queueInvariant.nodup l q hq)
    have he : m.leave i t.status =
        { m with locks := m.locks.withdraw l q.mutex i }.modify i fun t =>
          { t with status := .dropped } := by
      obtain ⟨s, held⟩ := t
      cases s with
      | awaitingLock l k next =>
        cases hw
        rfl
      | ready p | awaitingAnswer stage next | finished | dropped => cases hw
    have hl := hc.queueInvariant.withdraw hq hi
    rw [← hq', ← update_heldBy ht] at hl
    exact he ▸ Change.of_modify ht rfl hs hl

/-- `giveBack` of all locks. -/
theorem Consistent.giveBack_all (hc : m.Consistent) {s : Status α} {held : List (Lock × MutexId)}
    (hw : ∀ held, (⟨s, held⟩ : Task α).awaited? = none) (ht : m.tasks[i]? = some ⟨s, held⟩) :
    Change m i ⟨s, []⟩ [] m.cache (held.foldl (fun m h => m.giveBack i h) m) := by
  induction held generalizing m with
  | nil => exact ⟨hc, rfl, ht, fun j _ => .inl rfl, (List.append_nil _).symm, rfl⟩
  | cons h held ih =>
    -- the first one is given back, and the others are given back to the machine that is left
    have h₁ := hc.giveBack ht (hw _) List.mem_cons_self
    rw [List.erase_cons_head] at h₁
    have h₂ := ih h₁.consistent h₁.own
    rw [h₁.cache] at h₂
    exact h₁.trans h₂

/-- `cancel`: the task is dropped and holds nothing. -/
theorem Consistent.cancel (hc : m.Consistent) (ht : m.tasks[i]? = some t) :
    Change m i ⟨.dropped, []⟩ [] m.cache (m.cancel i t) := by
  have h₁ := hc.leave ht
  have h₂ := h₁.consistent.giveBack_all (fun _ => rfl) h₁.own
  rw [h₁.cache] at h₂
  exact h₁.trans h₂

end Machine

end TenantApps
