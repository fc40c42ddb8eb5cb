import TenantApps.Proofs.Tasks.Holding

/-!
# `TenantApps.Proofs.Tasks.Turn` — turns and events of a machine

`Machine.run` performs the actions of a procedure until the task has to wait or is finished. One
action is specified by `Machine.Acts`, one case for each node of a procedure, and is a
`Machine.Change`; a property of turns is proved for single actions.

## Contents
- `Machine.Acts`, the effect of one action on its task.
- `Machine.Consistent.act`, `Machine.Consistent.run` and `run_change`, actions and turns.
- `Machine.Consistent.start`, `answer` and `drop`, the events.
-/

namespace TenantApps

namespace Machine

variable {α : Type} {m m' : Machine α} {i j : TaskId} {l : Lock} {t : Task α} {p : Procedure α}
  {held : List (Lock × MutexId)}

/-! ## Actions -/

/-- **`Acts c i held p t xs c'`**: the first action of `p`, by task `i` with the locks `held` and
the cache `c`, leads to the task `t`, the entries `xs` and the cache `c'`. -/
inductive Acts (c : Cache) (i : TaskId) (held : List (Lock × MutexId)) :
    Procedure α → Task α → List (Entry α) → Cache → Prop
  | done (a) : Acts c i held (.done a) ⟨.finished, held⟩ [.ended i a] c
  | send (stage r next) :
    Acts c i held (.send stage r next) ⟨.awaitingAnswer stage next, held⟩ [.sent i stage r] c
  | take (l k next) : Acts c i held (.acquire l next) ⟨.ready next, (l, k) :: held⟩ [] c
  | wait (l k next) : Acts c i held (.acquire l next) ⟨.awaitingLock l k next, held⟩ [] c
  | release (l next) :
    Acts c i held (.release l next) ⟨.ready next, held.eraseP (·.1 = l)⟩ [] c
  | consult (e next) : Acts c i held (.consult e next) ⟨.ready (next (c.get e)), held⟩ [] c
  | remember (e a next) :
    Acts c i held (.remember e a next) ⟨.ready next, held⟩ [] (c.set e a)
  | emit (s next) : Acts c i held (.emit s next) ⟨.ready next, held⟩ [.signalled i s] c

/-- Only the acting task gets a result. -/
theorem Acts.results {c c' : Cache} {xs : List (Entry α)} (h : Acts c i held p t xs c') :
    ∀ x ∈ Report.results ⟨xs⟩, x.1 = i := by
  cases h with
  | done a =>
    intro x hx
    rw [show x = (i, a) from List.mem_singleton.mp hx]
  | send stage r next | take l k next | wait l k next | release l next | consult e next
  | remember e a next | emit s next => exact List.forall_mem_nil _

theorem erase_of_find? {h : Lock × MutexId} (hf : held.find? (·.1 = l) = some h) :
    held.erase h = held.eraseP (·.1 = l) := by
  induction held with
  | nil => rfl
  | cons g held ih =>
    rw [List.find?_cons] at hf
    rw [List.erase_cons, List.eraseP_cons]
    by_cases hg : g.1 = l
    · simp only [hg, decide_true] at hf
      cases hf
      simp [hg]
    · simp only [hg, decide_false] at hf
      have hh : h.1 = l := by simpa using List.find?_some hf
      have hne : g ≠ h := fun e => hg (e ▸ hh)
      simp [hg, hne, ih hf]

theorem release_eq (ht : m.tasks[i]? = some t) : m.release i l =
    match t.held.find? (·.1 = l) with
    | some h => m.giveBack i h
    | none => m := by
  rw [Machine.release, ht]
  rfl

/-- `Machine.release` as a change. -/
theorem Consistent.release (hc : m.Consistent) (ht : m.tasks[i]? = some t)
    (hw : t.awaited? = none) (l : Lock) :
    Change m i { t with held := t.held.eraseP (·.1 = l) } [] m.cache (m.release i l) := by
  rw [release_eq ht]
  cases hf : t.held.find? (·.1 = l) with
  | some h =>
    rw [← erase_of_find? hf]
    exact hc.giveBack ht hw (List.mem_of_find?_eq_some hf)
  | none =>
    have he : t.held.eraseP (·.1 = l) = t.held :=
      List.eraseP_of_forall_not fun h hh => by simpa using List.find?_eq_none.mp hf h hh
    rw [he]
    exact ⟨hc, rfl, ht, fun j _ => .inl rfl, (List.append_nil _).symm, rfl⟩

/-- A released lock is not held any more. -/
theorem Consistent.not_mem_eraseP (hc : m.Consistent) (ht : m.tasks[i]? = some t) (l : Lock)
    (k : MutexId) : (l, k) ∉ t.held.eraseP (·.1 = l) := by
  cases hf : t.held.find? (·.1 = l) with
  | none =>
    intro hm
    simpa using List.find?_eq_none.mp hf (l, k) (List.mem_of_mem_eraseP hm)
  | some h =>
    obtain ⟨l', k'⟩ := h
    obtain rfl : l' = l := by simpa using List.find?_some hf
    have hn : t.held.Nodup := heldBy_eq ht ▸ hc.queueInvariant.held_nodup i
    rw [← erase_of_find? hf, hn.mem_erase_iff]
    rintro ⟨hne, hm⟩
    rw [← heldBy_eq ht] at hm
    have hm' := List.mem_of_find?_eq_some hf
    rw [← heldBy_eq ht] at hm'
    exact hne (by rw [(hc.unique hm hm').2])

theorem mem_cons_of_ne {l' : Lock} {k k' : MutexId} (h : l' ≠ l) :
    (l', k') ∈ (l, k) :: held ↔ (l', k') ∈ held := by
  rw [List.mem_cons, or_iff_right fun he => h (congrArg Prod.fst he)]

theorem mem_eraseP_of_ne {l' : Lock} {k : MutexId} (h : l' ≠ l) :
    (l', k) ∈ held.eraseP (·.1 = l) ↔ (l', k) ∈ held :=
  List.mem_eraseP_of_neg (by simpa using h)

/-- **Every action is a change** that satisfies `Acts`. -/
theorem Consistent.act (hc : m.Consistent) (ht : m.tasks[i]? = some ⟨.ready p, held⟩) :
    ∃ t xs c, Acts m.cache i held p t xs c ∧ Change m i t xs c (m.act i p) := by
  cases p with
  | done a => exact ⟨_, _, _, .done a, (hc.setStatus ht rfl .finished rfl).note _⟩
  | send stage r next => exact ⟨_, _, _, .send stage r next, (hc.setStatus ht rfl _ rfl).note _⟩
  | acquire l next =>
    cases hq : m.locks.queue? l with
    | none =>
      obtain ⟨k, h⟩ := hc.take_free ht rfl hq next
      exact ⟨_, _, _, .take l k next, h⟩
    | some q => exact ⟨_, _, _, .wait l q.mutex next, hc.take_held ht rfl hq next⟩
  | release l next =>
    have h₁ := hc.release ht rfl l
    have h₂ := h₁.consistent.setStatus h₁.own rfl (.ready next) rfl
    rw [h₁.cache] at h₂
    exact ⟨_, _, _, .release l next, h₁.trans h₂⟩
  | consult e next => exact ⟨_, _, _, .consult e next, hc.setStatus ht rfl _ rfl⟩
  | remember e a next =>
    have hc' : ({ m with cache := m.cache.set e a } : Machine α).Consistent :=
      ⟨hc.sound, hc.queueInvariant⟩
    have h := hc'.setStatus ht rfl (.ready next) rfl
    exact ⟨_, _, _, .remember e a next, h.consistent, h.length, h.own, h.others, h.report, h.cache⟩
  | emit s next => exact ⟨_, _, _, .emit s next, (hc.setStatus ht rfl _ rfl).note _⟩

/-! ## Turns -/

theorem isReady_of (ht : m.tasks[i]? = some t) : m.isReady i = t.status.ready?.isSome := by
  rw [isReady, status?, ht]
  rfl

/-- **Induction principle for turns**: a property preserved by every action of the task is preserved
by its turn, after which it is not ready. -/
theorem Consistent.run {P : Machine α → Prop} (i : TaskId)
    (hP : ∀ {m : Machine α} {p held}, m.Consistent → m.tasks[i]? = some ⟨.ready p, held⟩ → P m →
      P (m.act i p)) (p : Procedure α) {m : Machine α} {held : List (Lock × MutexId)}
    (hc : m.Consistent) (ht : m.tasks[i]? = some ⟨.ready p, held⟩) (h : P m) :
    (Machine.run i p m).Consistent ∧ (Machine.run i p m).isReady i = false ∧
      P (Machine.run i p m) := by
  induction p generalizing m held with
  | done a =>
    have h' := hP hc ht h
    obtain ⟨t, xs, c, ha, hch⟩ := hc.act ht
    cases ha
    exact ⟨hch.consistent, isReady_of hch.own, h'⟩
  | send stage r next ih =>
    have h' := hP hc ht h
    obtain ⟨t, xs, c, ha, hch⟩ := hc.act ht
    cases ha
    exact ⟨hch.consistent, isReady_of hch.own, h'⟩
  | acquire l next ih =>
    have h' := hP hc ht h
    obtain ⟨t, xs, c, ha, hch⟩ := hc.act ht
    rw [Machine.run]
    cases ha with
    | take l k next =>
      have hr : (m.act i (.acquire l next)).isReady i = true := isReady_of hch.own
      rw [if_pos hr]
      exact ih hch.consistent hch.own h'
    | wait l k next =>
      have hr : (m.act i (.acquire l next)).isReady i = false := isReady_of hch.own
      rw [hr, if_neg Bool.false_ne_true]
      exact ⟨hch.consistent, hr, h'⟩
  | release l next ih =>
    have h' := hP hc ht h
    obtain ⟨t, xs, c, ha, hch⟩ := hc.act ht
    cases ha
    exact ih hch.consistent hch.own h'
  | consult e next ih =>
    have h' := hP hc ht h
    obtain ⟨t, xs, c, ha, hch⟩ := hc.act ht
    cases ha
    exact ih _ hch.consistent hch.own h'
  | remember e a next ih =>
    have h' := hP hc ht h
    obtain ⟨t, xs, c, ha, hch⟩ := hc.act ht
    cases ha
    exact ih hch.consistent hch.own h'
  | emit s next ih =>
    have h' := hP hc ht h
    obtain ⟨t, xs, c, ha, hch⟩ := hc.act ht
    cases ha
    exact ih hch.consistent hch.own h'

/-- A turn is a change. -/
theorem Consistent.run_change (hc : m.Consistent) (ht : m.status? i = some (.ready p)) :
    ∃ t xs c, Change m i t xs c (Machine.run i p m) := by
  obtain ⟨⟨st, held⟩, ht, rfl⟩ := Option.map_eq_some_iff.mp ht
  have hstart : Change m i ⟨.ready p, held⟩ [] m.cache m :=
    ⟨hc, rfl, ht, fun _ _ => .inl rfl, (List.append_nil _).symm, rfl⟩
  refine (hc.run (P := fun m' => ∃ t xs c, Change m i t xs c m') i (fun hc ht h => ?_) p ht
    ⟨_, _, _, hstart⟩).2.2
  obtain ⟨t, xs, c, hch⟩ := h
  obtain ⟨t', xs', c', -, hch'⟩ := hc.act ht
  exact ⟨_, _, _, hch.trans hch'⟩

/-! ## Events -/

theorem getElem?_start (p : Procedure α) (j : TaskId) :
    (m.tasks ++ [⟨.ready p, []⟩])[j]? =
      if j = m.tasks.length then some ⟨.ready p, []⟩ else m.tasks[j]? := by
  rcases Nat.lt_trichotomy j m.tasks.length with h | h | h
  · rw [if_neg (Nat.ne_of_lt h), List.getElem?_append_left h]
  · subst h
    simp
  · rw [if_neg (Nat.ne_of_gt h), List.getElem?_eq_none (by simpa using Nat.succ_le_of_lt h),
      List.getElem?_eq_none (Nat.le_of_lt h)]

/-- `start` appends a ready task. -/
theorem Consistent.start (hc : m.Consistent) (h : m.accept? (.start p) = some m') :
    m'.Consistent ∧ m'.tasks = m.tasks ++ [⟨.ready p, []⟩] ∧ m'.cache = m.cache ∧
      m'.report = m.report := by
  cases h
  refine ⟨⟨hc.sound, ?_⟩, rfl, rfl, rfl⟩
  have hh : heldBy { m with tasks := m.tasks ++ [⟨.ready p, []⟩] } = m.heldBy := by
    funext j
    rw [heldBy, getElem?_start]
    split
    · next he =>
      subst he
      simp [heldBy]
    · rfl
  have hw : awaited? { m with tasks := m.tasks ++ [⟨.ready p, []⟩] } = m.awaited? := by
    funext j
    rw [awaited?, getElem?_start]
    split
    · next he =>
      subst he
      simp [awaited?, Task.awaited?]
    · rfl
  rw [hh, hw]
  exact hc.queueInvariant

/-- `answer` makes an awaiting task ready. -/
theorem Consistent.answer {o : Http.Outcome} (hc : m.Consistent)
    (h : m.accept? (.answer i o) = some m') : ∃ stage next held,
      m.tasks[i]? = some ⟨.awaitingAnswer stage next, held⟩ ∧
        Change m i ⟨.ready (next o), held⟩ [.answered i stage o] m.cache m' := by
  rw [accept?, status?] at h
  cases ht : m.tasks[i]? with
  | none =>
    rw [ht] at h
    cases h
  | some t =>
    obtain ⟨s, held⟩ := t
    rw [ht] at h
    cases s with
    | awaitingAnswer stage next =>
      cases h
      exact ⟨stage, next, held, rfl, (hc.setStatus ht rfl _ rfl).note _⟩
    | ready p | awaitingLock l k next | finished | dropped => cases h

/-- `drop` is a change of an unfinished task. -/
theorem Consistent.drop (hc : m.Consistent) (h : m.accept? (.drop i) = some m') : ∃ t,
    m.tasks[i]? = some t ∧ t.status.isOver = false ∧ Change m i ⟨.dropped, []⟩ [] m.cache m' := by
  rw [accept?] at h
  cases ht : m.tasks[i]? with
  | none =>
    rw [ht] at h
    cases h
  | some t =>
    simp only [ht] at h
    split at h
    · cases h
    · next ho =>
      cases h
      exact ⟨t, rfl, by simpa using ho, hc.cancel ht⟩

end Machine

end TenantApps
