import TenantApps.Proofs.Names.Exclusion

/-!
# `TenantApps.Proofs.Names.Table` — the table of name mutexes

A mutex is inserted by the first task that acquires `Lock.name n` and removed with its last user. If
it were removed too early, two mutexes of one name would be in use; if it were removed too late, the
table would leak. Neither happens in any course: the entry of `n` exists exactly while an unfinished
operation on `n` holds or awaits its guard, and all of them have the mutex of the entry.

## Contents
- `Machine.Uses`, holding a lock or waiting for it.
- `Machine.Consistent.guard?_of_uses` and `holder_of_guard?`, the table and its users.
- `Guarding.of_uses`, the users of a guard, and `Locks.guards_eq_nil`, the empty table.
- `Course.guard_table`, the **main result**.
-/

namespace TenantApps

/-! ## Users of the table -/

namespace Machine

variable {α : Type} {m : Machine α} {i : TaskId} {n : ApplicationName} {k : MutexId}

/-- `Uses i l k`: task `i` holds the mutex `k` of the lock `l`, or waits for it. -/
def Uses (m : Machine α) (i : TaskId) (l : Lock) (k : MutexId) : Prop :=
  (l, k) ∈ m.heldBy i ∨ m.awaited? i = some (l, k)

/-- Every user of `Lock.name n` has the mutex of the table. -/
theorem Consistent.guard?_of_uses (hc : m.Consistent) (hu : m.Uses i (.name n) k) :
    m.locks.guard? n = some k := by
  have of_queue {q : Queue} (hq : m.locks.queue? (.name n) = some q) :
      m.locks.guard? n = some q.mutex := (Locks.queue?_eq_some.mp hq).1
  rcases hu with hu | hu
  · obtain ⟨q, hq, rfl, -⟩ := (hc.queueInvariant.held_iff i _ k).mp hu
    exact of_queue hq
  · obtain ⟨q, hq, rfl, -⟩ := (hc.queueInvariant.awaited_iff i _ k).mp hu
    exact of_queue hq

/-- A mutex in the table has a holder. -/
theorem Consistent.holder_of_guard? (hc : m.Consistent) (hk : m.locks.guard? n = some k) :
    ∃ i, (.name n, k) ∈ m.heldBy i := by
  have hx := List.getElem?_eq_getElem (hc.sound.range hk).2
  obtain ⟨i, hi⟩ := Option.ne_none_iff_exists'.mp (hc.sound.used hk hx).1
  have hq : m.locks.queue? (.name n) = some ⟨k, i, _⟩ :=
    Locks.queue?_eq_some.mpr ⟨hk, _, hx, hi, rfl⟩
  exact ⟨i, (hc.queueInvariant.held_iff i _ k).mpr ⟨_, hq, rfl, rfl⟩⟩

end Machine

/-- A table without any entry is `[]`. -/
theorem Locks.guards_eq_nil {ls : Locks} (h : ∀ n, ls.guard? n = none) : ls.guards = [] := by
  cases hg : ls.guards with
  | nil => rfl
  | cons g gs =>
    have hn := h g.1
    simp [Locks.guard?, hg] at hn

/-- A user of `Lock.name n` is an unfinished operation on `n`. -/
theorem Guarding.of_uses {α : Type} {m : Machine α} {guard : TaskId → Option ApplicationName}
    {i : TaskId} {n : ApplicationName} {k : MutexId} (h : Guarding guard none m)
    (hu : m.Uses i (.name n) k) : guard i = some n ∧ m.Unfinished i := by
  rcases hu with hu | hu
  · exact h.unfinished hu
  · obtain ⟨t, ht, hw⟩ := Option.bind_eq_some_iff.mp hu
    obtain ⟨next, he⟩ := Task.eq_of_awaited? hw
    refine ⟨(h.blocked hu).1, t, ht, ?_⟩
    rw [he]
    rfl

/-! ## Over courses -/

namespace Course

open Machine

variable {c : Client} {s : Course}

/-- **Guard table.** In every reachable course: with `serializeByName`, `n` has an entry if and only
if an unfinished operation on `n` uses its guard, and all users have the mutex of the entry; the
table is empty without `serializeByName`, and when no operation is unfinished; and a mutex that a
step removes has no user afterwards. -/
theorem guard_table (h : Reachable c s) :
    (c.settings.serializeByName = true → ∀ n,
      ((s.machine.locks.guard? n).isSome ↔ ∃ i k,
        s.name? i = some n ∧ s.machine.Unfinished i ∧ s.machine.Uses i (.name n) k) ∧
      ∀ i k, s.machine.Uses i (.name n) k →
        s.name? i = some n ∧ s.machine.Unfinished i ∧ s.machine.locks.guard? n = some k) ∧
    (c.settings.serializeByName = false → s.machine.locks.guards = []) ∧
    ((∀ i n, s.name? i = some n → ¬s.machine.Unfinished i) → s.machine.locks.guards = []) ∧
    ∀ s', Step c s s' → ∀ n k, s.machine.locks.guard? n = some k →
      s'.machine.locks.guard? n ≠ some k → ∀ i, ¬s'.machine.Uses i (.name n) k := by
  have hcons := h.consistent.1
  -- the guard of a task is that of its call, if guards are used at all
  let guard (i : TaskId) : Option ApplicationName :=
    if c.settings.serializeByName then s.name? i else none
  have hg : Guarding guard none s.machine := by
    refine h.guarding guard fun i call hi => ?_
    simp only [guard, name?, hi, Client.guard?, Option.bind_some]
  have hname {i : TaskId} {n : ApplicationName} (hi : guard i = some n) : s.name? i = some n := by
    simp only [guard] at hi
    split at hi
    · exact hi
    · cases hi
  have hempty (hno : ∀ i n, guard i = some n → ¬s.machine.Unfinished i) :
      s.machine.locks.guards = [] := by
    apply Locks.guards_eq_nil
    intro n
    cases hk : s.machine.locks.guard? n with
    | none => rfl
    | some k =>
      obtain ⟨i, hi⟩ := hcons.holder_of_guard? hk
      obtain ⟨hgi, hu⟩ := hg.unfinished hi
      exact absurd hu (hno i n hgi)
  refine ⟨fun _ n => ⟨⟨fun hs => ?_, ?_⟩, fun i k hu => ?_⟩, fun hser => ?_, fun hno => ?_,
    fun s' hstep n k _ hk' i hu => ?_⟩
  · obtain ⟨k, hk⟩ := Option.isSome_iff_exists.mp hs
    obtain ⟨i, hi⟩ := hcons.holder_of_guard? hk
    obtain ⟨hgi, hu⟩ := hg.unfinished hi
    exact ⟨i, k, hname hgi, hu, .inl hi⟩
  · rintro ⟨i, k, -, -, hu⟩
    rw [hcons.guard?_of_uses hu]
    rfl
  · obtain ⟨hgi, hun⟩ := hg.of_uses hu
    exact ⟨hname hgi, hun, hcons.guard?_of_uses hu⟩
  · refine hempty fun i n hi => ?_
    simp only [guard, hser, Bool.false_eq_true, if_false] at hi
    cases hi
  · exact hempty fun i n hi => hno i n (hname hi)
  · have h' : Reachable c s' := h.tail hstep
    exact hk' (h'.consistent.1.guard?_of_uses hu)

/-- `guard_table` on `threeInTurn`: task 0 is finished, task 1 holds the mutex of the table, task 2
waits for it. -/
theorem guard_table_sample :
    let s := threeInTurn
    let n : ApplicationName := ⟨"a", by decide, by decide⟩
    Reachable .sample s ∧ Client.sample.settings.serializeByName = true ∧
      ((s.machine.locks.guard? n).isSome ↔ ∃ i k,
        s.name? i = some n ∧ s.machine.Unfinished i ∧ s.machine.Uses i (.name n) k) ∧
      ∃ k, (.name n, k) ∈ s.machine.heldBy 1 ∧ s.machine.awaited? 2 = some (.name n, k) ∧
        s.machine.locks.guard? n = some k := by
  intro s n
  have h : Reachable .sample s := Reachable.play _ .refl
  have hw : (s.machine.awaited? 2).any fun x =>
      x.1 = .name n && (.name n, x.2) ∈ s.machine.heldBy 1 := by
    decide +kernel
  obtain ⟨⟨l, k⟩, hw, hl⟩ := (Option.any_eq_true _ _).mp hw
  obtain ⟨hname, hheld⟩ := Bool.and_eq_true_iff.mp hl
  obtain rfl : l = .name n := of_decide_eq_true hname
  obtain ⟨htable, huses⟩ := (guard_table h).1 rfl n
  exact ⟨h, rfl, htable, k, of_decide_eq_true hheld, hw, (huses 2 k (.inr hw)).2.2⟩

end Course

end TenantApps
