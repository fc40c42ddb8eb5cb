import Mathlib.Logic.Function.Basic
import TenantApps.Tasks.Locks

/-!
# `TenantApps.Proofs.Tasks.Queue` — the lock table as a map from locks to queues

The lock table counts references to mutexes. Without an invariant it could hand out two mutexes for
one name, or keep a mutex that nobody refers to. `Locks.Sound` excludes both: a mutex in the table
is held, and its count is the table, the holder and the waiters. Under `Sound`, every operation of
the table is a `Function.update` of `Locks.queue?` at one lock.

## Contents
- `Queue` and `Locks.queue?`, the abstraction of the table.
- `Locks.Sound`, the invariant, **preserved by every operation**.
- `Sound.acquire_free`, `Sound.acquire_held`, `Sound.release_last`, `Sound.release_next` and
  `Sound.queue?_withdraw`: the effect of each operation on the abstraction.
-/

namespace TenantApps

/-- **`Queue`**: the holder of a lock and its waiters. -/
structure Queue where
  mutex : MutexId
  holder : TaskId
  /-- In the order of their arrival. -/
  waiters : List TaskId

namespace Locks

variable {ls : Locks} {l l' : Lock} {n : ApplicationName} {k : MutexId} {x : Mutex}

/-- **Abstraction of the table**: the queue of a lock; `none` if it is free. -/
def queue? (ls : Locks) (l : Lock) : Option Queue := do
  let k ← ls.mutex? l
  let x ← ls.mutexes[k]?
  let i ← x.holder
  return ⟨k, i, x.waiters⟩

theorem queue?_eq_some {q : Queue} : ls.queue? l = some q ↔
    ls.mutex? l = some q.mutex ∧
      ∃ x, ls.mutexes[q.mutex]? = some x ∧ x.holder = some q.holder ∧ x.waiters = q.waiters := by
  obtain ⟨k, i, ws⟩ := q
  simp only [queue?, Option.bind_eq_bind, Option.bind_eq_some_iff, Option.pure_def,
    Option.some.injEq, Queue.mk.injEq]
  constructor
  · rintro ⟨_, hk, x, hx, _, hi, rfl, rfl, rfl⟩
    exact ⟨hk, x, hx, hi, rfl⟩
  · rintro ⟨hk, x, hx, hi, rfl⟩
    exact ⟨k, hk, x, hx, i, hi, rfl, rfl, rfl⟩

/-- **`Sound`**: the invariant of the lock table. -/
structure Sound (ls : Locks) : Prop where
  /-- The mutexes of the two addresses exist. -/
  two : 2 ≤ ls.mutexes.length
  /-- Mutexes of names come after those of the addresses. -/
  range : ∀ {n : ApplicationName} {k : MutexId},
    ls.guard? n = some k → 2 ≤ k ∧ k < ls.mutexes.length
  /-- Different names have different mutexes. -/
  inj : ∀ {n n' : ApplicationName} {k : MutexId},
    ls.guard? n = some k → ls.guard? n' = some k → n = n'
  /-- A free mutex has no waiters. -/
  free : ∀ {k : MutexId} {x : Mutex}, ls.mutexes[k]? = some x → x.holder = none → x.waiters = []
  /-- A mutex in the table is held; its references are the table, the holder and the waiters. -/
  used : ∀ {n : ApplicationName} {k : MutexId} {x : Mutex},
    ls.guard? n = some k → ls.mutexes[k]? = some x →
      x.holder ≠ none ∧ x.references = 2 + x.waiters.length

theorem sound_init : Sound {} where
  two := Nat.le_refl 2
  range h := by cases h
  inj h := by cases h
  free {k x} h _ := by
    match k, h with
    | 0, h | 1, h => cases h; rfl
    | k + 2, h => cases h
  used h := by cases h

/-! ## Locks and mutexes -/

theorem Sound.mutex?_lt (hs : ls.Sound) (h : ls.mutex? l = some k) : k < ls.mutexes.length := by
  cases l with
  | name n => exact (hs.range h).2
  | endpoint e =>
    cases e <;> cases h
    · exact Nat.lt_of_lt_of_le Nat.zero_lt_two hs.two
    · exact Nat.lt_of_lt_of_le Nat.one_lt_two hs.two

/-- `mutex?` is injective. -/
theorem Sound.mutex?_inj (hs : ls.Sound) (h : ls.mutex? l = some k) (h' : ls.mutex? l' = some k) :
    l = l' := by
  cases l with
  | name n =>
    cases l' with
    | name n' => rw [hs.inj h h']
    | endpoint e =>
      -- the mutexes of names come after those of the two addresses
      have hr := (hs.range h).1
      cases e <;> cases h' <;> simp [Endpoint.mutex] at hr
  | endpoint e =>
    cases l' with
    | name n =>
      have hr := (hs.range h').1
      cases e <;> cases h <;> simp [Endpoint.mutex] at hr
    | endpoint e' => cases e <;> cases e' <;> cases h <;> cases h' <;> rfl

theorem holder_of_queue?_eq_none (hq : ls.queue? l = none)
    (hk : ls.mutex? l = some k) (hx : ls.mutexes[k]? = some x) : x.holder = none := by
  cases hh : x.holder with
  | none => rfl
  | some i =>
    have : ls.queue? l = some ⟨k, i, x.waiters⟩ := queue?_eq_some.mpr ⟨hk, x, hx, hh, rfl⟩
    rw [hq] at this
    cases this

@[simp] theorem guard?_modify (f : Mutex → Mutex) : (ls.modify k f).guard? n = ls.guard? n := rfl

@[simp] theorem mutex?_modify (f : Mutex → Mutex) : (ls.modify k f).mutex? l = ls.mutex? l := by
  cases l <;> rfl

theorem getElem?_modify (f : Mutex → Mutex) (j : MutexId) : (ls.modify k f).mutexes[j]? =
    if k = j then ls.mutexes[j]?.map f else ls.mutexes[j]? := by
  simp only [modify, List.getElem?_modify]
  split <;> simp

/-- `modify` does not affect the queues of locks with another mutex. -/
theorem queue?_modify_of_ne (f : Mutex → Mutex) (h : ls.mutex? l ≠ some k) :
    (ls.modify k f).queue? l = ls.queue? l := by
  simp only [queue?, mutex?_modify]
  cases hk : ls.mutex? l with
  | none => rfl
  | some k' =>
    have hne : ¬ k = k' := fun he => h (he ▸ hk)
    simp only [Option.bind_eq_bind, Option.bind_some, getElem?_modify, if_neg hne]

theorem queue?_modify (f : Mutex → Mutex) (hk : ls.mutex? l = some k)
    (hx : ls.mutexes[k]? = some x) :
    (ls.modify k f).queue? l = (f x).holder.map fun i => ⟨k, i, (f x).waiters⟩ := by
  simp only [queue?, mutex?_modify, hk, Option.bind_eq_bind, Option.bind_some, getElem?_modify,
    if_true, hx, Option.map_some]
  cases (f x).holder <;> rfl

/-- `modify` preserves `Sound` if it respects `free` and `used`. -/
theorem Sound.modify (hs : ls.Sound) (f : Mutex → Mutex) (hx : ls.mutexes[k]? = some x)
    (hfree : (f x).holder = none → (f x).waiters = [])
    (hused : ∀ n, ls.guard? n = some k →
      (f x).holder ≠ none ∧ (f x).references = 2 + (f x).waiters.length) :
    (ls.modify k f).Sound where
  two := by simpa [Locks.modify] using hs.two
  range h := by simpa [Locks.modify] using hs.range h
  inj h h' := hs.inj h h'
  free {j y} hy hn := by
    rw [getElem?_modify] at hy
    split at hy
    · next hkj =>
      subst hkj
      rw [hx] at hy
      cases hy
      exact hfree hn
    · exact hs.free hy hn
  used {n j y} hg hy := by
    rw [getElem?_modify] at hy
    split at hy
    · next hkj =>
      subst hkj
      rw [hx] at hy
      cases hy
      exact hused n hg
    · exact hs.used hg hy

/-- `modify` of the mutex of `l` updates the queue of `l` only. -/
theorem Sound.queue?_modify_eq (hs : ls.Sound) (f : Mutex → Mutex) (hk : ls.mutex? l = some k)
    (hx : ls.mutexes[k]? = some x) : (ls.modify k f).queue? =
      Function.update ls.queue? l ((f x).holder.map fun i => ⟨k, i, (f x).waiters⟩) := by
  funext l'
  by_cases h : l' = l
  · subst h
    rw [Function.update_self, queue?_modify f hk hx]
  · -- another lock has another mutex
    rw [Function.update_of_ne h]
    exact queue?_modify_of_ne f fun hk' => h (hs.mutex?_inj hk' hk)

theorem modify_modify (f g : Mutex → Mutex) :
    (ls.modify k f).modify k g = ls.modify k (g ∘ f) := by
  simp only [modify, List.modify_modify_eq]

/-! ## `acquire` -/

theorem lock_of_free (hx : ls.mutexes[k]? = some x) (hh : x.holder = none) (i : TaskId) :
    ls.lock k i = (true, ls.modify k fun x => { x with holder := some i }) := by
  simp [lock, hx, hh]

theorem lock_of_held {j : TaskId} (hx : ls.mutexes[k]? = some x) (hh : x.holder = some j)
    (i : TaskId) :
    ls.lock k i = (false, ls.modify k fun x => { x with waiters := x.waiters ++ [i] }) := by
  simp [lock, hx, hh]

/-- The table with a new mutex for `n`, held by `i`. -/
def make (ls : Locks) (n : ApplicationName) (i : TaskId) : Locks :=
  ⟨ls.mutexes ++ [⟨some i, [], 2⟩], (n, ls.mutexes.length) :: ls.guards⟩

theorem modify_concat (xs : List Mutex) (x : Mutex) (f : Mutex → Mutex) :
    (xs ++ [x]).modify xs.length f = xs ++ [f x] := by
  induction xs with
  | nil => rfl
  | cons y ys ih => rw [List.cons_append, List.length_cons, List.modify_succ_cons, ih]; rfl

theorem acquire_of_guard?_eq_none (hn : ls.guard? n = none) (i : TaskId) :
    ls.acquire (.name n) i = (ls.mutexes.length, true, ls.make n i) := by
  have hx : (⟨ls.mutexes ++ [{ references := 2 }], (n, ls.mutexes.length) :: ls.guards⟩ :
      Locks).mutexes[ls.mutexes.length]? = some { references := 2 } := by simp
  simp only [acquire, refer, hn, lock_of_free hx (by rfl), modify, make, modify_concat]

theorem guard?_make (n' : ApplicationName) (i : TaskId) :
    (ls.make n i).guard? n' = if n = n' then some ls.mutexes.length else ls.guard? n' := by
  by_cases h : n = n' <;> simp [make, guard?, h]

theorem getElem?_make (i : TaskId) {j : MutexId} (h : j < ls.mutexes.length) :
    (ls.make n i).mutexes[j]? = ls.mutexes[j]? :=
  List.getElem?_append_left h

theorem getElem?_make_length (i : TaskId) :
    (ls.make n i).mutexes[ls.mutexes.length]? = some ⟨some i, [], 2⟩ := by
  simp [make]

theorem Sound.make (hs : ls.Sound) (n : ApplicationName) (i : TaskId) : (ls.make n i).Sound where
  two := by
    rw [Locks.make, List.length_append]
    exact Nat.le_add_right_of_le hs.two
  range {n' k} h := by
    rw [guard?_make] at h
    rw [Locks.make, List.length_append]
    split at h
    · cases h
      exact ⟨hs.two, Nat.lt_succ_self _⟩
    · exact ⟨(hs.range h).1, Nat.lt_succ_of_lt (hs.range h).2⟩
  inj {n₁ n₂ k} h₁ h₂ := by
    rw [guard?_make] at h₁ h₂
    split at h₁ <;> split at h₂
    · next e₁ e₂ => exact e₁.symm.trans e₂
    · -- the new mutex has a number that no mutex in the table has
      cases h₁
      exact absurd (hs.range h₂).2 (Nat.lt_irrefl _)
    · cases h₂
      exact absurd (hs.range h₁).2 (Nat.lt_irrefl _)
    · exact hs.inj h₁ h₂
  free {j y} hy hf := by
    rw [Locks.make, List.getElem?_append] at hy
    split at hy
    · exact hs.free hy hf
    · rw [List.getElem?_singleton] at hy
      split at hy <;> cases hy
      rfl
  used {n' j y} hg hy := by
    rw [guard?_make] at hg
    split at hg
    · cases hg
      rw [getElem?_make_length] at hy
      cases hy
      exact ⟨nofun, rfl⟩
    · rw [getElem?_make i (hs.range hg).2] at hy
      exact hs.used hg hy

theorem Sound.queue?_make (hs : ls.Sound) (n : ApplicationName) (i : TaskId) :
    (ls.make n i).queue? =
      Function.update ls.queue? (.name n) (some ⟨ls.mutexes.length, i, []⟩) := by
  funext l'
  by_cases h : l' = .name n
  · subst h
    rw [Function.update_self, queue?_eq_some]
    exact ⟨(guard?_make n i).trans (if_pos rfl), _, getElem?_make_length i, rfl, rfl⟩
  · rw [Function.update_of_ne h]
    have hm : (ls.make n i).mutex? l' = ls.mutex? l' := by
      cases l' with
      | endpoint e => rfl
      | name n' => exact (guard?_make n' i).trans (if_neg fun he => h (congrArg _ he.symm))
    simp only [queue?, hm]
    cases hk : ls.mutex? l' with
    | none => rfl
    | some k => simp only [Option.bind_eq_bind, Option.bind_some, getElem?_make i (hs.mutex?_lt hk)]

/-- `acquire` of a free lock. -/
theorem Sound.acquire_free (hs : ls.Sound) (hq : ls.queue? l = none) (i : TaskId) :
    ∃ k ls', ls.acquire l i = (k, true, ls') ∧ ls'.Sound ∧
      ls'.queue? = Function.update ls.queue? l (some ⟨k, i, []⟩) := by
  cases l with
  | endpoint e =>
    -- the mutex is there already, and it is free
    have hk : ls.mutex? (.endpoint e) = some e.mutex := rfl
    have hx := List.getElem?_eq_getElem (hs.mutex?_lt hk)
    have hh := holder_of_queue?_eq_none hq hk hx
    refine ⟨e.mutex, ls.modify e.mutex fun x => { x with holder := some i }, ?_, ?_, ?_⟩
    · simp only [acquire, refer, lock_of_free hx hh]
    · apply hs.modify _ hx (fun h => by cases h)
      intro n hn
      exact absurd (hs.mutex?_inj (l := .name n) hn hk) nofun
    · rw [hs.queue?_modify_eq _ hk hx, hs.free hx hh]
      rfl
  | name n =>
    -- a mutex in the table would be held, so there is none and one is made
    have hn : ls.guard? n = none := by
      cases hg : ls.guard? n with
      | none => rfl
      | some k =>
        have hx := List.getElem?_eq_getElem (hs.range hg).2
        exact absurd (holder_of_queue?_eq_none hq hg hx) (hs.used hg hx).1
    exact ⟨_, _, acquire_of_guard?_eq_none hn i, hs.make n i, hs.queue?_make n i⟩

/-- `acquire` of a held lock appends to its waiters. -/
theorem Sound.acquire_held {q : Queue} (hs : ls.Sound) (hq : ls.queue? l = some q) (i : TaskId) :
    ∃ ls', ls.acquire l i = (q.mutex, false, ls') ∧ ls'.Sound ∧
      ls'.queue? = Function.update ls.queue? l (some { q with waiters := q.waiters ++ [i] }) := by
  obtain ⟨k, j, ws⟩ := q
  obtain ⟨hk, x, hx, hh, rfl⟩ := queue?_eq_some.mp hq
  cases l with
  | endpoint e =>
    obtain rfl : e.mutex = k := Option.some.inj hk
    refine ⟨ls.modify e.mutex fun x => { x with waiters := x.waiters ++ [i] }, ?_, ?_, ?_⟩
    · simp only [acquire, refer, lock_of_held hx hh]
    · apply hs.modify _ hx (fun h => by simp [hh] at h)
      intro n hn
      exact absurd (hs.mutex?_inj (l := .name n) hn hk) nofun
    · rw [hs.queue?_modify_eq _ hk hx, hh]
      rfl
  | name n =>
    -- whoever waits refers to the mutex as well
    have hg : ls.guard? n = some k := hk
    have hx' : (ls.modify k fun x => { x with references := x.references + 1 }).mutexes[k]? =
        some { x with references := x.references + 1 } := by
      rw [getElem?_modify, if_pos rfl, hx]
      rfl
    refine ⟨ls.modify k ((fun x => { x with waiters := x.waiters ++ [i] }) ∘
      fun x => { x with references := x.references + 1 }), ?_, ?_, ?_⟩
    · simp only [acquire, refer, hg, lock_of_held hx' hh, modify_modify]
    · refine hs.modify _ hx (fun h => by simp [hh] at h) fun n' _ => ⟨by simp [hh], ?_⟩
      have := (hs.used hg hx).2
      simp only [Function.comp_apply, List.length_append, List.length_singleton]
      omega
    · rw [hs.queue?_modify_eq _ hk hx]
      simp [hh]

/-! ## `release` and `withdraw` -/

/-- The table without the entry of `n`. -/
def removeEntry (ls : Locks) (n : ApplicationName) : Locks :=
  { ls with guards := ls.guards.filter (·.1 ≠ n) }

theorem guard?_removeEntry (n n' : ApplicationName) :
    (ls.removeEntry n).guard? n' = if n' = n then none else ls.guard? n' := by
  obtain ⟨ms, gs⟩ := ls
  simp only [removeEntry, guard?]
  induction gs with
  | nil => simp
  | cons g gs ih =>
    rw [List.filter_cons]
    by_cases hg : g.1 = n
    · -- the entry is struck
      rw [if_neg (by simpa using hg), ih]
      split
      · rfl
      · next hne =>
        rw [List.find?_cons_of_neg (by simpa [hg] using Ne.symm hne)]
    · rw [if_pos (by simpa using hg), List.find?_cons, List.find?_cons]
      by_cases hg' : g.1 = n'
      · simp [hg', show n' ≠ n from hg' ▸ hg]
      · simpa [hg'] using ih

/-- `forget` by the last user removes the entry. -/
theorem forget_last (hk : ls.guard? n = some k) (hx : ls.mutexes[k]? = some x)
    (hr : x.references = 2) : ls.forget (.name n) k =
      (ls.modify k fun x => { x with references := x.references - 1 }).removeEntry n := by
  simp [forget, evict, hk, getElem?_modify, hx, hr, removeEntry]

theorem forget_shared (hk : ls.guard? n = some k) (hx : ls.mutexes[k]? = some x)
    (hr : x.references ≠ 2) : ls.forget (.name n) k =
      ls.modify k fun x => { x with references := x.references - 1 } := by
  have : x.references - 1 ≠ 1 := by omega
  simp [forget, evict, hk, getElem?_modify, hx, this]

/-- Removing the entry of a mutex without waiters preserves `Sound`. -/
theorem Sound.removeEntry (hs : ls.Sound) (f : Mutex → Mutex) (hk : ls.guard? n = some k)
    (hx : ls.mutexes[k]? = some x) (hw : (f x).waiters = []) :
    ((ls.modify k f).removeEntry n).Sound where
  two := by simpa [Locks.modify, Locks.removeEntry] using hs.two
  range {n' j} h := by
    rw [guard?_removeEntry] at h
    split at h
    · cases h
    · simpa [Locks.modify, Locks.removeEntry] using hs.range h
  inj {n₁ n₂ j} h₁ h₂ := by
    rw [guard?_removeEntry] at h₁ h₂
    split at h₁ <;> split at h₂ <;> first | cases h₁ | cases h₂ | exact hs.inj h₁ h₂
  free {j y} hy hn := by
    rw [show ((ls.modify k f).removeEntry n).mutexes = (ls.modify k f).mutexes from rfl,
      getElem?_modify] at hy
    split at hy
    · next hkj =>
      subst hkj
      rw [hx] at hy
      cases hy
      exact hw
    · exact hs.free hy hn
  used {n' j y} hg hy := by
    rw [guard?_removeEntry] at hg
    rw [show ((ls.modify k f).removeEntry n).mutexes = (ls.modify k f).mutexes from rfl,
      getElem?_modify] at hy
    split at hg
    · cases hg
    · next hne =>
      -- another name has another mutex, which stays as it is
      split at hy
      · next hkj => exact absurd (hs.inj (hkj ▸ hg) hk) hne
      · exact hs.used hg hy

theorem Sound.queue?_removeEntry (hs : ls.Sound) (f : Mutex → Mutex) (hk : ls.guard? n = some k) :
    ((ls.modify k f).removeEntry n).queue? = Function.update ls.queue? (.name n) none := by
  funext l'
  by_cases h : l' = .name n
  · subst h
    have hm : ((ls.modify k f).removeEntry n).mutex? (.name n) = none :=
      (guard?_removeEntry n n).trans (if_pos rfl)
    rw [Function.update_self, queue?, hm]
    rfl
  · rw [Function.update_of_ne h]
    have hm : ((ls.modify k f).removeEntry n).mutex? l' = (ls.modify k f).mutex? l' := by
      cases l' with
      | endpoint e => rfl
      | name n' => exact (guard?_removeEntry n n').trans (if_neg fun he => h (congrArg _ he))
    have hk'' : ls.mutex? (.name n) = some k := hk
    rw [← queue?_modify_of_ne (k := k) f fun hk' => h (hs.mutex?_inj hk' hk'')]
    simp only [queue?, hm]
    rfl

/-- `forget` by one of several users preserves `Sound`. -/
theorem Sound.forget (hs : ls.Sound) (f : Mutex → Mutex) {j : TaskId} (hk : ls.mutex? l = some k)
    (hx : ls.mutexes[k]? = some x) (hr : (f x).references = x.references)
    (hj : (f x).holder = some j) (hw : (f x).waiters.length + 1 = x.waiters.length) :
    ((ls.modify k f).forget l k).Sound ∧ ((ls.modify k f).forget l k).queue? =
      Function.update ls.queue? l (some ⟨k, j, (f x).waiters⟩) := by
  cases l with
  | endpoint e =>
    refine ⟨hs.modify f hx (fun h => by simp [hj] at h) ?_, ?_⟩
    · intro n hn
      exact absurd (hs.mutex?_inj (l := .name n) hn hk) nofun
    · rw [Locks.forget, hs.queue?_modify_eq f hk hx, hj]
      rfl
  | name n =>
    -- the table, the holder and the waiters that are left still refer to it, so it is not struck
    have hg : ls.guard? n = some k := hk
    have hu := (hs.used hg hx).2
    have hx' : (ls.modify k f).mutexes[k]? = some (f x) := by
      rw [getElem?_modify, if_pos rfl, hx]
      rfl
    rw [forget_shared (show (ls.modify k f).guard? n = _ from hg) hx' (by omega), modify_modify]
    refine ⟨hs.modify _ hx (fun h => by simp [hj] at h) fun n' _ => ⟨by simp [hj], ?_⟩, ?_⟩
    · simp only [Function.comp_apply]
      omega
    · rw [hs.queue?_modify_eq _ hk hx]
      simp [hj]

/-- `release` without waiters frees the lock. -/
theorem Sound.release_last {i : TaskId} (hs : ls.Sound) (hq : ls.queue? l = some ⟨k, i, []⟩) :
    ∃ ls', ls.release l k = (none, ls') ∧ ls'.Sound ∧
      ls'.queue? = Function.update ls.queue? l none := by
  obtain ⟨hk, x, hx, -, hw⟩ := queue?_eq_some.mp hq
  have hu : ls.unlock k = (none, ls.modify k fun x => { x with holder := none }) := by
    simp [unlock, show ls.mutexes[k]? = some x from hx, show x.waiters = [] from hw]
  cases l with
  | endpoint e =>
    refine ⟨ls.modify k fun x => { x with holder := none }, ?_, ?_, ?_⟩
    · simp only [release, hu, Locks.forget]
    · apply hs.modify _ hx (fun _ => hw)
      intro n hn
      exact absurd (hs.mutex?_inj (l := .name n) hn hk) nofun
    · rw [hs.queue?_modify_eq _ hk hx]
      rfl
  | name n =>
    -- only the table and whoever gives it back refer to it, so it is struck
    have hg : ls.guard? n = some k := hk
    have hx' : (ls.modify k fun x => { x with holder := none }).mutexes[k]? =
        some { x with holder := none } := by
      rw [getElem?_modify, if_pos rfl, show ls.mutexes[k]? = some x from hx]
      rfl
    have hr : x.references = 2 := by
      rw [(hs.used hg hx).2, show x.waiters = [] from hw]
      rfl
    refine ⟨(ls.modify k ((fun x => { x with references := x.references - 1 }) ∘
      fun x => { x with holder := none })).removeEntry n, ?_, hs.removeEntry _ hg hx (by exact hw),
      hs.queue?_removeEntry _ hg⟩
    have hg' : (ls.modify k fun x => { x with holder := none }).guard? n = some k := hg
    simp only [release, hu, forget_last hg' hx' hr, modify_modify]

/-- `release` passes the lock to the first waiter. -/
theorem Sound.release_next {i j : TaskId} {rest : List TaskId} (hs : ls.Sound)
    (hq : ls.queue? l = some ⟨k, i, j :: rest⟩) :
    ∃ ls', ls.release l k = (some j, ls') ∧ ls'.Sound ∧
      ls'.queue? = Function.update ls.queue? l (some ⟨k, j, rest⟩) := by
  obtain ⟨hk, x, hx, -, hw⟩ := queue?_eq_some.mp hq
  have hu : ls.unlock k =
      (some j, ls.modify k fun x => { x with holder := some j, waiters := rest }) := by
    simp [unlock, show ls.mutexes[k]? = some x from hx, show x.waiters = j :: rest from hw]
  refine ⟨_, by simp only [release, hu]; rfl, hs.forget _ hk hx rfl rfl ?_⟩
  rw [show x.waiters = j :: rest from hw]
  rfl

/-- `withdraw` removes one waiter. -/
theorem Sound.queue?_withdraw {q : Queue} {i : TaskId} (hs : ls.Sound) (hq : ls.queue? l = some q)
    (hi : i ∈ q.waiters) (hd : q.waiters.Nodup) : (ls.withdraw l q.mutex i).Sound ∧
      (ls.withdraw l q.mutex i).queue? =
        Function.update ls.queue? l (some { q with waiters := q.waiters.filter (· ≠ i) }) := by
  obtain ⟨k, j, ws⟩ := q
  obtain ⟨hk, x, hx, hh, rfl⟩ := queue?_eq_some.mp hq
  refine hs.forget (fun x => { x with waiters := x.waiters.filter (· ≠ i) }) hk hx rfl hh ?_
  -- nobody waits twice, so one place in the queue is given up
  have he : x.waiters.filter (· ≠ i) = x.waiters.erase i := by
    rw [hd.erase_eq_filter]
    exact List.filter_congr fun y _ => by simp [bne, beq_eq_decide]
  simp only [he, List.length_erase_of_mem hi]
  exact Nat.sub_add_cancel (List.length_pos_of_mem hi)

end Locks

end TenantApps
