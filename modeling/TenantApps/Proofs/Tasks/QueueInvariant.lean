import Mathlib.Data.List.Nodup
import TenantApps.Proofs.Tasks.Queue

/-!
# `TenantApps.Proofs.Tasks.QueueInvariant` — agreement of queues and tasks

Tasks know the locks they hold and the one they wait for; queues know their holders and waiters. The
invariant is stated for arbitrary functions, so that each operation is a `Function.update`.

## Contents
- `QueueInvariant`, the agreement.
- `QueueInvariant.take`, `wait`, `free`, `withdraw` and `hand`, **preservation** by each operation.
-/

namespace TenantApps

/-- **`QueueInvariant queue held awaited`**: the queues agree with the locks that tasks hold and
wait for. -/
structure QueueInvariant (queue : Lock → Option Queue) (held : TaskId → List (Lock × MutexId))
    (awaited : TaskId → Option (Lock × MutexId)) : Prop where
  held_iff : ∀ i l k, (l, k) ∈ held i ↔ ∃ q, queue l = some q ∧ q.mutex = k ∧ q.holder = i
  awaited_iff : ∀ i l k,
    awaited i = some (l, k) ↔ ∃ q, queue l = some q ∧ q.mutex = k ∧ i ∈ q.waiters
  /-- No task holds a lock twice. -/
  held_nodup : ∀ i, (held i).Nodup
  /-- No task waits twice in one queue. -/
  nodup : ∀ l q, queue l = some q → q.waiters.Nodup

namespace QueueInvariant

variable {queue : Lock → Option Queue} {held : TaskId → List (Lock × MutexId)}
  {awaited : TaskId → Option (Lock × MutexId)} {i j : TaskId} {l : Lock} {k : MutexId}

theorem not_mem_held (h : QueueInvariant queue held awaited) (hq : queue l = none) :
    (l, k) ∉ held i := by
  intro hm
  obtain ⟨q, hw, -, -⟩ := (h.held_iff i l k).mp hm
  rw [hq] at hw
  cases hw

theorem not_mem_waiters {q : Queue} (h : QueueInvariant queue held awaited) (hq : queue l = some q)
    (hi : awaited i = none) : i ∉ q.waiters := by
  intro hm
  have := (h.awaited_iff i l q.mutex).mpr ⟨q, hq, rfl, hm⟩
  rw [hi] at this
  cases this

/-- A task takes a free lock. -/
theorem take (h : QueueInvariant queue held awaited) (hq : queue l = none) :
    QueueInvariant (Function.update queue l (some ⟨k, i, []⟩))
      (Function.update held i ((l, k) :: held i)) awaited where
  held_iff i' l' k' := by
    have hn := fun i' k' => h.not_mem_held (i := i') (k := k') hq
    have := h.held_iff i' l' k'
    by_cases hl : l' = l <;> by_cases hi : i' = i
    · -- it holds the lock now, and nobody held it before
      subst hl hi
      simp [hn, eq_comm]
    · subst hl
      simp [hi, hn, Ne.symm hi]
    · subst hi
      simpa [hl] using this
    · simpa [hl, hi] using this
  awaited_iff i' l' k' := by
    have := h.awaited_iff i' l' k'
    by_cases hl : l' = l
    · subst hl
      simpa [hq] using this
    · simpa [hl] using this
  held_nodup i' := by
    by_cases hi : i' = i
    · subst hi
      simpa [h.not_mem_held hq] using h.held_nodup i'
    · simpa [hi] using h.held_nodup i'
  nodup l' q' hq' := by
    by_cases hl : l' = l
    · subst hl
      rw [Function.update_self] at hq'
      cases hq'
      exact List.nodup_nil
    · rw [Function.update_of_ne hl] at hq'
      exact h.nodup l' q' hq'

/-- A task that waits for nothing joins a queue. -/
theorem wait {q : Queue} (h : QueueInvariant queue held awaited) (hq : queue l = some q)
    (hi : awaited i = none) :
    QueueInvariant (Function.update queue l (some { q with waiters := q.waiters ++ [i] })) held
      (Function.update awaited i (some (l, q.mutex))) where
  held_iff i' l' k' := by
    have := h.held_iff i' l' k'
    by_cases hl : l' = l
    · subst hl
      simpa [hq] using this
    · simpa [hl] using this
  awaited_iff i' l' k' := by
    have := h.awaited_iff i' l' k'
    by_cases hl : l' = l <;> by_cases hi' : i' = i
    · subst hl hi'
      simp
    · subst hl
      simpa [hq, hi'] using this
    · -- it wanted nothing before, so it waits in no other queue
      subst hi'
      rw [hi] at this
      simpa [hl, Ne.symm hl] using this
    · simpa [hl, hi'] using this
  held_nodup := h.held_nodup
  nodup l' q' hq' := by
    by_cases hl : l' = l
    · subst hl
      rw [Function.update_self] at hq'
      cases hq'
      rw [← List.concat_eq_append, List.nodup_concat]
      exact ⟨h.not_mem_waiters hq hi, h.nodup l' q hq⟩
    · rw [Function.update_of_ne hl] at hq'
      exact h.nodup l' q' hq'

/-- A lock without waiters is released. -/
theorem free (h : QueueInvariant queue held awaited) (hq : queue l = some ⟨k, i, []⟩) :
    QueueInvariant (Function.update queue l none)
      (Function.update held i ((held i).erase (l, k))) awaited where
  held_iff i' l' k' := by
    have := h.held_iff i' l' k'
    by_cases hl : l' = l <;> by_cases hi : i' = i
    · -- it held the lock once, so it holds it no longer
      subst hl hi
      have hk : (l', k') ∈ held i' → k' = k := fun hm => by simpa [hq, eq_comm] using this.mp hm
      simpa [(h.held_nodup i').mem_erase_iff] using fun hne hm => hne (hk hm)
    · subst hl
      simpa [hi, hq, Ne.symm hi] using this
    · subst hi
      simpa [hl, (h.held_nodup i').mem_erase_iff] using this
    · simpa [hl, hi] using this
  awaited_iff i' l' k' := by
    have := h.awaited_iff i' l' k'
    by_cases hl : l' = l
    · subst hl
      simpa [hq] using this
    · simpa [hl] using this
  held_nodup i' := by
    by_cases hi : i' = i
    · subst hi
      simpa using (h.held_nodup i').erase _
    · simpa [hi] using h.held_nodup i'
  nodup l' q' hq' := by
    by_cases hl : l' = l
    · subst hl
      simp at hq'
    · rw [Function.update_of_ne hl] at hq'
      exact h.nodup l' q' hq'

/-- A task leaves a queue. -/
theorem withdraw {q : Queue} (h : QueueInvariant queue held awaited) (hq : queue l = some q)
    (hi : i ∈ q.waiters) :
    QueueInvariant (Function.update queue l (some { q with waiters := q.waiters.filter (· ≠ i) }))
      held
      (Function.update awaited i none) where
  held_iff i' l' k' := by
    have := h.held_iff i' l' k'
    by_cases hl : l' = l
    · subst hl
      simpa [hq] using this
    · simpa [hl] using this
  awaited_iff i' l' k' := by
    have := h.awaited_iff i' l' k'
    by_cases hl : l' = l <;> by_cases hi' : i' = i
    · subst hl hi'
      simp
    · subst hl
      simpa [hq, hi'] using this
    · -- it waited for this lock only
      subst hi'
      have hw := (h.awaited_iff i' l q.mutex).mpr ⟨q, hq, rfl, hi⟩
      rw [hw] at this
      simpa [hl, Ne.symm hl] using this
    · simpa [hl, hi'] using this
  held_nodup := h.held_nodup
  nodup l' q' hq' := by
    by_cases hl : l' = l
    · subst hl
      rw [Function.update_self] at hq'
      cases hq'
      exact (h.nodup l' q hq).filter _
    · rw [Function.update_of_ne hl] at hq'
      exact h.nodup l' q' hq'

/-- A lock is released and passed to the first waiter. -/
theorem hand {ws : List TaskId} (h : QueueInvariant queue held awaited)
    (hq : queue l = some ⟨k, i, j :: ws⟩) (hij : j ≠ i) :
    QueueInvariant (Function.update queue l (some ⟨k, j, ws⟩))
      (Function.update (Function.update held i ((held i).erase (l, k))) j ((l, k) :: held j))
      (Function.update awaited j none) := by
  have hd := List.nodup_cons.mp (h.nodup l _ hq)
  refine ⟨?_, ?_, ?_, ?_⟩
  · intro i' l' k'
    have := h.held_iff i' l' k'
    by_cases hl : l' = l
    · subst hl
      have hk : (l', k') ∈ held i' → k' = k ∧ i' = i := fun hm => by
        simpa [hq, eq_comm] using this.mp hm
      by_cases hj : i' = j
      · -- the new holder did not hold it before
        subst hj
        have hn : (l', k') ∉ held i' := fun hm => hij (hk hm).2
        simp [hn, eq_comm]
      · by_cases hi : i' = i
        · -- the old holder held it once
          subst hi
          simpa [hj, hij, (h.held_nodup i').mem_erase_iff] using fun hne hm => hne (hk hm).1
        · have hn : (l', k') ∉ held i' := fun hm => hi (hk hm).2
          simp [hi, hj, hn, Ne.symm hj]
    · by_cases hj : i' = j
      · subst hj
        simpa [hl] using this
      · by_cases hi : i' = i
        · subst hi
          simpa [hl, hj, (h.held_nodup i').mem_erase_iff] using this
        · simpa [hl, hi, hj] using this
  · intro i' l' k'
    have := h.awaited_iff i' l' k'
    by_cases hl : l' = l <;> by_cases hj : i' = j
    · subst hl hj
      simp [hd.1]
    · subst hl
      simpa [hq, hj] using this
    · -- the new holder waited for this lock only
      subst hj
      have hw := (h.awaited_iff i' l k).mpr ⟨_, hq, rfl, List.mem_cons_self⟩
      rw [hw] at this
      simpa [hl, Ne.symm hl] using this
    · simpa [hl, hj] using this
  · intro i'
    by_cases hj : i' = j
    · subst hj
      have hn : (l, k) ∉ held i' := fun hm => by
        simpa [hq, Ne.symm hij] using (h.held_iff i' l k).mp hm
      simpa using ⟨hn, h.held_nodup i'⟩
    · by_cases hi : i' = i
      · subst hi
        simpa [hj] using (h.held_nodup i').erase _
      · simpa [hi, hj] using h.held_nodup i'
  · intro l' q' hq'
    by_cases hl : l' = l
    · subst hl
      rw [Function.update_self] at hq'
      cases hq'
      exact hd.2
    · rw [Function.update_of_ne hl] at hq'
      exact h.nodup l' q' hq'

end QueueInvariant

end TenantApps
