import TenantApps.Proofs.Names.Guard
import TenantApps.Proofs.Tasks.Course

/-!
# `TenantApps.Proofs.Names.Exclusion` — mutual exclusion for operations on one name

With `serializeByName`, a creation or deletion runs in the critical section of `Lock.name n`.
Mutexes of names are created on demand and evicted when unused; still, of two operations on one
name, one sends all its requests before the first request of the other, in every reachable course.

The invariant that carries the proof is `Orderly`: the requests of the holder of a guard are the
last ones for its name. It is preserved because a mutex has one holder.

## Contents
- `Precedes` and `Orderly`, the order of requests.
- `TaskPhase` and `Guarding`, the invariant of one task and of the machine.
- `Guarding.change`, the preservation lemma for a `Machine.Change`; `Guarding.act`, `run`, `start`,
  `answer` and `drop`, **preservation** by every event.
- `Guarding.holds`, `unfinished` and `blocked`, consequences for unfinished operations.
- `Course.name_exclusion`, the **main result**.
-/

namespace TenantApps

/-! ## The order of requests -/

/-- `Precedes i j rs`: in `rs`, every request of task `i` is in front of every request of task
`j`. -/
def Precedes (i j : TaskId) (rs : List (TaskId × Http.Request)) : Prop :=
  rs.Pairwise fun x y => ¬(x.1 = j ∧ y.1 = i)

section Order

variable {i j : TaskId} {r : Http.Request} {rs : List (TaskId × Http.Request)}

theorem precedes_of_silent (h : ∀ x ∈ rs, x.1 ≠ j) : Precedes i j rs :=
  List.pairwise_of_forall_mem_list fun x hx _ _ hxy => h x hx hxy.1

theorem Precedes.concat {k : TaskId} (h : Precedes i j rs) (hk : k = i → ∀ x ∈ rs, x.1 ≠ j) :
    Precedes i j (rs ++ [(k, r)]) := by
  refine List.pairwise_append.mpr ⟨h, List.pairwise_singleton _ _, ?_⟩
  intro x hx y hy hxy
  rw [List.mem_singleton] at hy
  subst hy
  exact hk hxy.2 x hx hxy.1

/-- **`Orderly`**: for each name, the requests of its holder are the last ones, and operations on it
do not overlap; `guard i` is the name that task `i` guards. -/
structure Orderly (guard : TaskId → Option ApplicationName)
    (holds : TaskId → ApplicationName → Prop) (rs : List (TaskId × Http.Request)) : Prop where
  last : ∀ {i j n}, i ≠ j → guard i = some n → guard j = some n → holds i n → Precedes j i rs
  apart : ∀ {i j n}, i ≠ j → guard i = some n → guard j = some n →
    Precedes i j rs ∨ Precedes j i rs

variable {guard : TaskId → Option ApplicationName} {holds holds' : TaskId → ApplicationName → Prop}

/-- `Orderly` is preserved when a task that has sent nothing becomes a holder. -/
theorem Orderly.pass (h : Orderly guard holds rs)
    (hg : ∀ i n, holds' i n → holds i n ∨ ∀ x ∈ rs, x.1 ≠ i) : Orderly guard holds' rs where
  last {i j n} hij hi hj hn := by
    rcases hg i n hn with hn | hs
    · exact h.last hij hi hj hn
    · exact precedes_of_silent hs
  apart := h.apart

/-- `Orderly` is preserved when a holder sends a request. -/
theorem Orderly.send (h : Orderly guard holds rs) (hi : ∀ n, guard i = some n → holds i n)
    (unique : ∀ i j n, holds i n → holds j n → i = j) :
    Orderly guard holds (rs ++ [(i, r)]) where
  last {k j n} hkj hk hj hn := by
    apply (h.last hkj hk hj hn).concat
    intro he
    -- the sender holds the guard of its name, so no other task does
    subst he
    exact absurd (unique k i n hn (hi n hj)) hkj
  apart {k j n} hkj hk hj := by
    by_cases hik : i = k
    · -- the sender comes last, whatever came before
      subst hik
      exact .inr ((h.last hkj hk hj (hi n hk)).concat fun he => absurd he hkj)
    · by_cases hij : i = j
      · subst hij
        exact .inl ((h.last (Ne.symm hkj) hj hk (hi n hj)).concat fun he => absurd he hik)
      · rcases h.apart hkj hk hj with h | h
        · exact .inl (h.concat fun he => absurd he hik)
        · exact .inr (h.concat fun he => absurd he hij)

end Order

/-! ## The invariant -/

namespace Machine

variable {α : Type}

def HasSent (m : Machine α) (i : TaskId) : Prop := ∃ x ∈ m.report.requests, x.1 = i

/-- Task `i` holds a mutex of `Lock.name n`. -/
def HoldsName (m : Machine α) (i : TaskId) (n : ApplicationName) : Prop :=
  ∃ k, (Lock.name n, k) ∈ m.heldBy i

end Machine

/-- `Status.Rests guard active s st`: which phase of the guard is possible with the status `st`.
Only the `active` task, whose turn it is, may be ready after it has left its guard. -/
def Status.Rests {α : Type} (guard : Option ApplicationName) (active : Prop) (s : GuardPhase) :
    Status α → Prop
  | .ready _ => ¬active → guard.isSome → s ≠ .past
  | .awaitingAnswer .. => guard.isSome → s = .inside
  | .awaitingLock .. => True
  | .finished | .dropped => s ≠ .inside

/-- A task that is not ready satisfies `Rests` whether it is active or not. -/
theorem Status.Rests.settle {α : Type} {g : Option ApplicationName} {a a' : Prop} {s : GuardPhase}
    {st : Status α} (h : st.Rests g a s) (hr : a → st.ready?.isSome = false) : st.Rests g a' s := by
  cases st with
  | ready p => exact fun _ => h fun ha => by cases hr ha
  | awaitingAnswer stage next | awaitingLock l k next | finished | dropped => exact h

/-- **`TaskPhase`**: the invariant of task `i` in the phase `s` of its guard. -/
structure TaskPhase {α : Type} (m : Machine α) (guard : Option ApplicationName) (active : Prop)
    (i : TaskId) (t : Task α) (s : GuardPhase) : Prop where
  follows : t.Follows (guarded guard) (fun _ s => s ≠ .inside) s
  own : ∀ n k, (Lock.name n, k) ∈ t.held → guard = some n
  /-- It is `inside` exactly while it holds its guard. -/
  inside : guard.isSome → ((∃ n k, (Lock.name n, k) ∈ t.held) ↔ s = .inside)
  sent : m.HasSent i → guard.isSome → s ≠ .outside
  /-- It waits for responses inside only. -/
  rests : t.status.Rests guard active s

/-- **`Guarding guard active m`**: the invariant of a machine in which `active` takes its turn. -/
structure Guarding {α : Type} (guard : TaskId → Option ApplicationName) (active : Option TaskId)
    (m : Machine α) : Prop where
  consistent : m.Consistent
  tasks : ∀ {i t}, m.tasks[i]? = some t → ∃ s, TaskPhase m (guard i) (active = some i) i t s
  /-- Only existing tasks have sent requests. -/
  known : ∀ {i}, m.HasSent i → i < m.tasks.length
  orderly : Orderly guard m.HoldsName m.report.requests

/-! ## Preservation -/

section Keeping

open Machine

variable {α : Type} {m m' : Machine α} {i j : TaskId} {t t' : Task α} {xs : List (Entry α)}
  {c : Cache} {guard : TaskId → Option ApplicationName} {active : Option TaskId} {s : GuardPhase}
  {p : Procedure α}

theorem name_ne_endpoint (n : ApplicationName) (e : Endpoint) : Lock.name n ≠ .endpoint e := by
  rintro ⟨⟩

theorem holds_no_name_nil : ¬∃ n k, (Lock.name n, k) ∈ ([] : List (Lock × MutexId)) := by
  rintro ⟨n, k, hk⟩
  cases hk

theorem Machine.Change.hasSent (h : Change m i t xs c m') :
    m'.HasSent j ↔ m.HasSent j ∨ ∃ x ∈ Report.requests ⟨xs⟩, x.1 = j := by
  simp only [HasSent, h.requests, List.mem_append, or_and_right, exists_or]

/-- `TaskPhase` is preserved by `Task.granted`; if the lock is a guard, the task has sent
nothing. -/
theorem TaskPhase.granted {g : Option ApplicationName} {a a' : Prop} {h : Lock × MutexId}
    (hp : TaskPhase m g a j t s) (hw : t.awaited? = some h) (hs : m'.HasSent j → m.HasSent j) :
    ∃ s', TaskPhase m' g a' j t.granted s' ∧
      ∀ n, (∃ k, (.name n, k) ∈ t.granted.held) → (∃ k, (.name n, k) ∈ t.held) ∨ ¬m.HasSent j := by
  obtain ⟨l, k⟩ := h
  obtain ⟨next, ht⟩ := Task.eq_of_awaited? hw
  generalize t.held = held at ht
  subst ht
  obtain ⟨ha, hf⟩ := hp.follows
  cases l with
  | name n =>
    -- it was outside, so it has sent nothing, and it is inside now
    obtain ⟨rfl, rfl⟩ : g = some n ∧ s = .outside := ha
    have hin : GuardPhase.inside ≠ .outside := by decide
    have hpast : GuardPhase.inside ≠ .past := by decide
    refine ⟨.inside, ⟨hf _ rfl, ?_, ?_, fun _ _ => hin, fun _ _ => hpast⟩, ?_⟩
    · rintro n' k' hm
      rcases List.mem_cons.mp hm with hm | hm
      · cases hm
        rfl
      · exact hp.own n' k' hm
    · exact fun _ => ⟨fun _ => rfl, fun _ => ⟨n, k, List.mem_cons_self⟩⟩
    · exact fun _ _ => .inr fun hsent => hp.sent hsent rfl rfl
  | endpoint e =>
    -- the lock of an address changes nothing about guards
    have hm (n : ApplicationName) (k' : MutexId) :
        (.name n, k') ∈ (.endpoint e, k) :: held ↔ (.name n, k') ∈ held :=
      mem_cons_of_ne (name_ne_endpoint n e)
    refine ⟨s, ⟨hf _ rfl, ?_, ?_, ?_, ?_⟩, ?_⟩
    · exact fun n' k' h => hp.own n' k' ((hm n' k').mp h)
    · intro hg
      simp only [Task.granted, hm]
      exact hp.inside hg
    · exact fun hsent => hp.sent (hs hsent)
    · intro _ hg
      rw [show s = .inside from ha hg]
      decide
    · rintro n ⟨k', h⟩
      exact .inl ⟨k', (hm n k').mp h⟩

/-- Frame lemma for the other tasks. -/
theorem TaskPhase.frame {g : Option ApplicationName} {a : Prop} (hp : TaskPhase m g a j t s)
    (hs : m'.HasSent j → m.HasSent j) : TaskPhase m' g a j t s where
  follows := hp.follows
  own := hp.own
  inside := hp.inside
  sent h := hp.sent (hs h)
  rests := hp.rests

/-- Whoever holds a guard after a `Machine.Change` held it before, or has sent nothing. -/
theorem Guarding.holdsName_or_silent {n : ApplicationName} (h : Guarding guard active m)
    (hch : Change m i t xs c m')
    (hpass : ∀ n, (∃ k, (Lock.name n, k) ∈ t.held) → m.HoldsName i n ∨ ¬m.HasSent i)
    (hn : m'.HoldsName j n) : m.HoldsName j n ∨ ¬m.HasSent j := by
  obtain ⟨k, hk⟩ := hn
  by_cases hj : j = i
  · subst hj
    rw [heldBy_eq hch.own] at hk
    exact hpass n ⟨k, hk⟩
  · cases ht : m'.tasks[j]? with
    | none =>
      rw [heldBy, ht] at hk
      cases hk
    | some t' =>
      rw [heldBy_eq ht] at hk
      obtain ⟨u, hu, rfl | ⟨g, hw, rfl⟩⟩ := hch.other hj ht
      · exact .inl ⟨k, heldBy_eq hu ▸ hk⟩
      · -- the lock was handed to it
        obtain ⟨s, hs⟩ := h.tasks hu
        obtain ⟨-, -, hg⟩ : ∃ s', TaskPhase m (guard j) True j u.granted s' ∧ _ :=
          hs.granted hw id
        rcases hg n ⟨k, hk⟩ with ⟨k', hk'⟩ | hn
        · exact .inl ⟨k', heldBy_eq hu ▸ hk'⟩
        · exact .inr hn

/-- **Preservation by a `Machine.Change`**, if the changed task satisfies `TaskPhase` again, sends
while it holds its guard only, and had sent nothing before it got it. -/
theorem Guarding.change (h : Guarding guard active m) (hch : Change m i t xs c m')
    (hown : ∃ s, TaskPhase m' (guard i) (active = some i) i t s)
    (hpass : ∀ n, (∃ k, (Lock.name n, k) ∈ t.held) → m.HoldsName i n ∨ ¬m.HasSent i)
    (hsend : Report.requests ⟨xs⟩ = [] ∨ ∃ r, Report.requests ⟨xs⟩ = [(i, r)] ∧
      ∀ n, guard i = some n → ∃ k, (Lock.name n, k) ∈ t.held) : Guarding guard active m' := by
  have hnews : ∀ x ∈ Report.requests ⟨xs⟩, x.1 = i := by
    intro x hx
    rcases hsend with h | ⟨r, h, -⟩
    · rw [h] at hx
      cases hx
    · rw [h, List.mem_singleton] at hx
      rw [hx]
  have hother (j : TaskId) (hj : j ≠ i) : m'.HasSent j → m.HasSent j := by
    intro hs
    rcases hch.hasSent.mp hs with hs | ⟨x, hx, rfl⟩
    · exact hs
    · exact absurd (hnews x hx) hj
  have hlt : i < m.tasks.length := by
    rw [← hch.length]
    exact (List.getElem?_eq_some_iff.mp hch.own).1
  refine ⟨hch.consistent, hch.tasks
    (P := fun j u => ∃ s, TaskPhase m (guard j) (active = some j) j u s)
    (R := fun j u => ∃ s, TaskPhase m' (guard j) (active = some j) j u s)
    h.tasks hown (fun {j u} hj _ => ?_) (fun {j u g} hj _ => ?_), fun {j} hs => ?_, ?_⟩
  · rintro ⟨s, hs⟩
    exact ⟨s, hs.frame (hother j hj)⟩
  · rintro ⟨s, hs⟩ hw
    obtain ⟨s', hs', -⟩ := hs.granted hw (hother j hj)
    exact ⟨s', hs'⟩
  · rw [hch.length]
    rcases hch.hasSent.mp hs with hs | ⟨x, hx, rfl⟩
    · exact h.known hs
    · rw [hnews x hx]
      exact hlt
  · -- whoever holds a guard that it did not hold before has sent nothing yet
    have ho : Orderly guard m'.HoldsName m.report.requests := h.orderly.pass fun j n hn => by
      rcases h.holdsName_or_silent hch hpass hn with hn | hn
      · exact .inl hn
      · exact .inr fun x hx he => hn ⟨x, hx, he⟩
    rw [hch.requests]
    rcases hsend with he | ⟨r, he, hi⟩
    · rw [he, List.append_nil]
      exact ho
    · rw [he]
      apply ho.send
      · intro n hn
        obtain ⟨k, hk⟩ := hi n hn
        exact ⟨k, heldBy_eq hch.own ▸ hk⟩
      · intro i' j' n hi' hj'
        obtain ⟨k, hk⟩ := hi'
        obtain ⟨k', hk'⟩ := hj'
        exact (hch.consistent.unique hk hk').1

/-- The active task keeps its phase if the action is a frame for `guarded`. -/
theorem TaskPhase.stay {g : Option ApplicationName} (hp : TaskPhase m g (some i = some i) i t s)
    (hs : m'.HasSent i → m.HasSent i) (hf : t'.Follows (guarded g) (fun _ s => s ≠ .inside) s)
    (hheld : ∀ n k, (Lock.name n, k) ∈ t'.held ↔ (Lock.name n, k) ∈ t.held)
    (hr : t'.status.Rests g (some i = some i) s) : TaskPhase m' g (some i = some i) i t' s where
  follows := hf
  own n k hk := hp.own n k ((hheld n k).mp hk)
  inside hg := by simpa only [hheld] using hp.inside hg
  sent h := hp.sent (hs h)
  rests := hr

/-- **Preservation by one action** of the active task. -/
theorem Guarding.act {held : List (Lock × MutexId)} (h : Guarding guard (some i) m)
    (ht : m.tasks[i]? = some ⟨.ready p, held⟩) : Guarding guard (some i) (m.act i p) := by
  obtain ⟨s, hs⟩ := h.tasks ht
  obtain ⟨t, xs, c, ha, hch⟩ := h.consistent.act ht
  have hf := hs.follows
  have hheld (n : ApplicationName) (hn : ∃ k, (Lock.name n, k) ∈ held) :
      m.HoldsName i n ∨ ¬m.HasSent i := by
    obtain ⟨k, hk⟩ := hn
    exact .inl ⟨k, by rw [heldBy_eq ht]; exact hk⟩
  have active {p : Procedure α} : (Status.ready p).Rests (guard i) (some i = some i) s :=
    fun ha => absurd rfl ha
  have hsent (hx : Report.requests ⟨xs⟩ = []) (hs' : (m.act i p).HasSent i) : m.HasSent i := by
    rcases hch.hasSent.mp hs' with hs' | ⟨x, hm, -⟩
    · exact hs'
    · rw [hx] at hm
      cases hm
  cases ha with
  | done a =>
    refine h.change hch ⟨s, ?_⟩ hheld (.inl rfl)
    exact hs.stay (hsent rfl) ⟨a, hf⟩ (fun _ _ => .rfl) hf
  | send stage r next =>
    -- only who is inside may send, and who is inside holds its guard
    have hin : (guard i).isSome → s = .inside := hf.1
    refine h.change hch ⟨s, ?_⟩ hheld (.inr ⟨r, rfl, ?_⟩)
    · refine ⟨fun o s' ho => hf.2 s rfl o s' ho, hs.own, hs.inside, fun _ hg => ?_, hin⟩
      rw [hin hg]
      decide
    · intro n hn
      have hg : (guard i).isSome := by rw [hn]; rfl
      obtain ⟨n', k, hk⟩ := (hs.inside hg).mpr (hin hg)
      have hn' := hs.own n' k hk
      rw [hn] at hn'
      cases hn'
      exact ⟨k, hk⟩
  | take l k next =>
    cases l with
    | name n =>
      -- it was outside, so it has sent nothing yet
      obtain ⟨⟨hg, rfl⟩, hnext⟩ := hf
      have hout : GuardPhase.inside ≠ .outside := by decide
      refine h.change hch
        ⟨.inside, hnext _ rfl, ?_, ?_, fun _ _ => hout, fun ha => absurd rfl ha⟩ ?_ (.inl rfl)
      · intro n' k' hm
        rcases List.mem_cons.mp hm with hm | hm
        · cases hm
          exact hg
        · exact hs.own n' k' hm
      · exact fun _ => ⟨fun _ => rfl, fun _ => ⟨n, k, List.mem_cons_self⟩⟩
      · exact fun _ _ => .inr fun hsent => hs.sent hsent (by rw [hg]; rfl) rfl
    | endpoint e =>
      have hm (n : ApplicationName) (k' : MutexId) :
          (.name n, k') ∈ (.endpoint e, k) :: held ↔ (.name n, k') ∈ held :=
        mem_cons_of_ne (name_ne_endpoint n e)
      refine h.change hch ⟨s, ?_⟩ (fun n hn => hheld n (hn.imp fun k' => (hm n k').mp)) (.inl rfl)
      exact hs.stay (hsent rfl) (hf.2 _ rfl) hm active
  | wait l k next =>
    refine h.change hch ⟨s, ?_⟩ hheld (.inl rfl)
    exact hs.stay (hsent rfl) hf (fun _ _ => .rfl) trivial
  | release l next =>
    have hsub (n : ApplicationName) (k : MutexId) :
        (Lock.name n, k) ∈ held.eraseP (·.1 = l) → (Lock.name n, k) ∈ held :=
      List.mem_of_mem_eraseP
    cases l with
    | name n =>
      obtain ⟨⟨hg, rfl⟩, hnext⟩ := hf
      -- the guard was its own, and it holds that one no longer
      have hgone : ¬∃ n' k', (Lock.name n', k') ∈ held.eraseP (·.1 = .name n) := by
        rintro ⟨n', k', hk⟩
        have hn := hs.own n' k' (hsub n' k' hk)
        rw [hg] at hn
        cases hn
        exact h.consistent.not_mem_eraseP ht (.name n) k' hk
      have hin : ¬GuardPhase.past = .inside := by decide
      have hout : GuardPhase.past ≠ .outside := by decide
      refine h.change hch ⟨.past, hnext _ rfl, fun n' k' hk => hs.own n' k' (hsub n' k' hk),
        fun _ => iff_of_false hgone hin, fun _ _ => hout, fun ha => absurd rfl ha⟩ (fun n' hn => ?_)
        (.inl rfl)
      obtain ⟨k', hk⟩ := hn
      exact hheld n' ⟨k', hsub n' k' hk⟩
    | endpoint e =>
      refine h.change hch ⟨s, ?_⟩ ?_ (.inl rfl)
      · exact hs.stay (hsent rfl) (hf.2 _ rfl)
          (fun n _ => mem_eraseP_of_ne (name_ne_endpoint n e)) active
      · intro n' hn
        obtain ⟨k', hk⟩ := hn
        exact hheld n' ⟨k', hsub n' k' hk⟩
  | consult e next =>
    refine h.change hch ⟨s, ?_⟩ hheld (.inl rfl)
    exact hs.stay (hsent rfl) ((hf _).2 _ rfl) (fun _ _ => .rfl) active
  | remember e a next =>
    refine h.change hch ⟨s, ?_⟩ hheld (.inl rfl)
    exact hs.stay (hsent rfl) (hf.2 _ rfl) (fun _ _ => .rfl) active
  | emit x next =>
    refine h.change hch ⟨s, ?_⟩ hheld (.inl rfl)
    exact hs.stay (hsent rfl) hf (fun _ _ => .rfl) active

/-- **Preservation by a turn**: induction on the procedure, one `act` for each action. -/
theorem Guarding.run (h : Guarding guard none m) (ht : m.status? i = some (.ready p)) :
    Guarding guard none (Machine.run i p m) := by
  obtain ⟨⟨st, held⟩, ht, rfl⟩ := Option.map_eq_some_iff.mp ht
  -- during its turn it may stand where it may not stay
  have hi : Guarding guard (some i) m := by
    refine ⟨h.consistent, fun ht => ?_, h.known, h.orderly⟩
    obtain ⟨s, hs⟩ := h.tasks ht
    refine ⟨s, { hs with rests := hs.rests.settle ?_ }⟩
    intro hn
    cases hn
  obtain ⟨hc, hr, h'⟩ := h.consistent.run i (fun _ ht h => Guarding.act h ht) p ht hi
  refine ⟨hc, fun {j t} ht => ?_, h'.known, h'.orderly⟩
  obtain ⟨s, hs⟩ := h'.tasks ht
  refine ⟨s, { hs with rests := hs.rests.settle ?_ }⟩
  intro hj
  cases hj
  rw [← isReady_of ht]
  exact hr

/-- Preservation by `start`, for a procedure that follows `guarded`. -/
theorem Guarding.start (h : Guarding guard none m) (ha : m.accept? (.start p) = some m')
    (hp : p.Follows (guarded (guard m.tasks.length)) (fun _ s => s ≠ .inside) .outside) :
    Guarding guard none m' := by
  obtain ⟨hc, htasks, -, hreport⟩ := h.consistent.start ha
  have hsent (j : TaskId) : m'.HasSent j ↔ m.HasSent j := by rw [HasSent, HasSent, hreport]
  have hheld (j : TaskId) : m'.heldBy j = m.heldBy j := by
    rw [heldBy, heldBy, htasks, getElem?_start]
    split
    · next hj =>
      subst hj
      rw [List.getElem?_eq_none (Nat.le_refl _)]
      rfl
    · rfl
  refine ⟨hc, fun {j t} ht => ?_, fun {j} hs => ?_, ?_⟩
  · rw [htasks, getElem?_start] at ht
    split at ht
    · next hj =>
      -- the new task stands outside, and it has sent nothing
      subst hj
      cases ht
      have hn : ¬m'.HasSent m.tasks.length := fun hs =>
        Nat.lt_irrefl _ (h.known ((hsent _).mp hs))
      have hin : ¬GuardPhase.outside = .inside := by decide
      have hpast : GuardPhase.outside ≠ .past := by decide
      exact ⟨.outside, hp, fun _ _ hk => absurd hk List.not_mem_nil,
        fun _ => iff_of_false holds_no_name_nil hin, fun hs => absurd hs hn, fun _ _ => hpast⟩
    · obtain ⟨s, hs⟩ := h.tasks ht
      exact ⟨s, hs.frame (hsent j).mp⟩
  · rw [htasks, List.length_append]
    exact Nat.lt_add_right _ (h.known ((hsent j).mp hs))
  · rw [hreport]
    refine h.orderly.pass fun i n hn => .inl ?_
    rw [HoldsName, ← hheld]
    exact hn

/-- Preservation by `answer`. -/
theorem Guarding.answer {o : Http.Outcome} (h : Guarding guard none m)
    (ha : m.accept? (.answer i o) = some m') : Guarding guard none m' := by
  obtain ⟨stage, next, held, ht, hch⟩ := h.consistent.answer ha
  obtain ⟨s, hs⟩ := h.tasks ht
  have hin : (guard i).isSome → s = .inside := hs.rests
  refine h.change hch ⟨s, ?_⟩ (fun n hn => .inl ?_) (.inl rfl)
  · refine ⟨hs.follows o s rfl, hs.own, hs.inside, fun hsent => hs.sent ?_, ?_⟩
    · rcases hch.hasSent.mp hsent with h | ⟨x, hx, -⟩
      · exact h
      · cases hx
    · intro _ hg
      rw [hin hg]
      decide
  · rw [HoldsName, heldBy_eq ht]
    exact hn

/-- Preservation by `drop`. -/
theorem Guarding.drop (h : Guarding guard none m) (ha : m.accept? (.drop i) = some m') :
    Guarding guard none m' := by
  obtain ⟨t, ht, -, hch⟩ := h.consistent.drop ha
  have hin : ¬GuardPhase.past = .inside := by decide
  have hout : GuardPhase.past ≠ .outside := by decide
  exact h.change hch ⟨.past, trivial, fun _ _ hk => absurd hk List.not_mem_nil,
    fun _ => iff_of_false holds_no_name_nil hin, fun _ _ => hout, hin⟩
    (fun n hn => absurd ⟨n, hn⟩ holds_no_name_nil) (.inl rfl)

end Keeping

/-! ## Over courses -/

def Machine.Unfinished {α : Type} (m : Machine α) (i : TaskId) : Prop :=
  ∃ t, m.tasks[i]? = some t ∧ t.status.isOver = false

section Courses

open Machine

variable {α : Type} {m : Machine α} {i j : TaskId} {n : ApplicationName} {k : MutexId}
  {guard : TaskId → Option ApplicationName}

theorem guarding_init : Guarding guard none ({} : Machine α) where
  consistent := consistent_init
  tasks h := by cases h
  known h := by
    obtain ⟨x, hx, -⟩ := h
    cases hx
  orderly := ⟨fun _ _ _ _ => List.Pairwise.nil, fun _ _ _ => .inl List.Pairwise.nil⟩

/-- An unfinished operation that has sent a request holds the guard of its name. -/
theorem Guarding.holds (h : Guarding guard none m) (hi : guard i = some n) (hu : m.Unfinished i)
    (hs : m.HasSent i) : ∃ k, (Lock.name n, k) ∈ m.heldBy i := by
  obtain ⟨t, ht, ho⟩ := hu
  obtain ⟨s, hp⟩ := h.tasks ht
  have hg : (guard i).isSome := by rw [hi]; rfl
  have hout : s ≠ .outside := hp.sent hs hg
  -- wherever it has stopped, it is neither outside nor past its guard
  have hin : s = .inside := by
    obtain ⟨st, held⟩ := t
    cases st with
    | ready p =>
      have hpast : s ≠ .past := hp.rests (Option.some_ne_none _).symm hg
      cases s with
      | outside => exact absurd rfl hout
      | inside => rfl
      | past => exact absurd rfl hpast
    | awaitingAnswer stage next => exact hp.rests hg
    | awaitingLock l k next =>
      cases l with
      | name n' => exact absurd hp.follows.1.2 hout
      | endpoint e => exact hp.follows.1 hg
    | finished | dropped => cases ho
  obtain ⟨n', k, hk⟩ := (hp.inside hg).mpr hin
  have hn := hp.own n' k hk
  rw [hi] at hn
  cases hn
  exact ⟨k, by rw [heldBy_eq ht]; exact hk⟩

/-- The holder of a guard is an unfinished operation on its name. -/
theorem Guarding.unfinished (h : Guarding guard none m) (hk : (Lock.name n, k) ∈ m.heldBy i) :
    guard i = some n ∧ m.Unfinished i := by
  cases ht : m.tasks[i]? with
  | none =>
    rw [heldBy, ht] at hk
    cases hk
  | some t =>
    obtain ⟨s, hp⟩ := h.tasks ht
    rw [heldBy_eq ht] at hk
    have hi := hp.own n k hk
    have hin : s = .inside := (hp.inside (by rw [hi]; rfl)).mp ⟨n, k, hk⟩
    refine ⟨hi, t, ht, ?_⟩
    cases ho : t.status.isOver with
    | false => rfl
    | true =>
      obtain ⟨st, held⟩ := t
      cases st with
      | finished | dropped => exact absurd hin hp.rests
      | ready p | awaitingAnswer stage next | awaitingLock l k' next => cases ho

/-- A task that waits for a guard waits for an unfinished operation on the same name. -/
theorem Guarding.blocked (h : Guarding guard none m) (hw : m.awaited? i = some (.name n, k)) :
    guard i = some n ∧ ∃ j, j ≠ i ∧ guard j = some n ∧ m.Unfinished j ∧
      (Lock.name n, k) ∈ m.heldBy j := by
  obtain ⟨t, ht, htw⟩ := Option.bind_eq_some_iff.mp hw
  obtain ⟨s, hp⟩ := h.tasks ht
  obtain ⟨j, hj⟩ := h.consistent.holder hw
  obtain ⟨next, he⟩ := Task.eq_of_awaited? htw
  have hf := hp.follows
  rw [he] at hf
  obtain ⟨⟨hi, hs⟩, -⟩ := hf
  refine ⟨hi, j, ?_, (h.unfinished hj).1, (h.unfinished hj).2, hj⟩
  -- it is outside, so it is not the holder itself
  rintro rfl
  rw [heldBy_eq ht] at hj
  have hin := (hp.inside (by rw [hi]; rfl)).mp ⟨n, k, hj⟩
  rw [hs] at hin
  cases hin

end Courses

namespace Course

open Machine

variable {c : Client} {s : Course}

/-- The name of the call of task `i`. -/
def name? (s : Course) (i : TaskId) : Option ApplicationName := (s.calls[i]?).bind Call.name?

/-- **Every reachable course satisfies `Guarding`**, whatever the calls that are still to come
guard. -/
theorem Reachable.guarding (h : Reachable c s) (guard : TaskId → Option ApplicationName)
    (hg : ∀ i call, s.calls[i]? = some call → guard i = c.guard? call) :
    Guarding guard none s.machine := by
  induction h with
  | refl => exact guarding_init
  | @tail s s' hs hstep ih =>
    cases hstep with
    | event e ha =>
      have h := ih fun i call hi => hg i call (by
        rw [List.getElem?_append_left (List.getElem?_eq_some_iff.mp hi).1]
        exact hi)
      cases e with
      | ask call =>
        -- the new task is the one that belongs to the new call
        refine h.start ha ?_
        rw [← (show Reachable c s from hs).consistent.2, hg _ _ (List.getElem?_concat_length ..)]
        exact c.answer_guarded call
      | answer i o => exact h.answer ha
      | drop i => exact h.drop ha
    | turn ht => exact (ih hg).run ht

/-- **Mutual exclusion by name.** With `serializeByName`, in every reachable course: the requests of
two operations on one name do not interleave; of the unfinished ones at most one has sent a request;
and a task is blocked by a guard only if another unfinished operation on the same name holds it. -/
theorem name_exclusion (hc : c.settings.serializeByName = true) (h : Reachable c s) :
    (∀ i j n, i ≠ j → s.name? i = some n → s.name? j = some n →
      Precedes i j s.machine.report.requests ∨ Precedes j i s.machine.report.requests) ∧
    (∀ i j n, s.name? i = some n → s.name? j = some n → s.machine.Unfinished i →
      s.machine.Unfinished j → s.machine.HasSent i → s.machine.HasSent j → i = j) ∧
    ∀ i n k, s.machine.awaited? i = some (.name n, k) → s.name? i = some n ∧
      ∃ j, j ≠ i ∧ s.name? j = some n ∧ s.machine.Unfinished j ∧
        (.name n, k) ∈ s.machine.heldBy j := by
  have hg := h.guarding s.name? fun i call hi => by
    rw [name?, hi, Client.guard?, if_pos hc]
    rfl
  refine ⟨fun i j n hij hi hj => hg.orderly.apart hij hi hj, fun i j n hi hj hui huj hsi hsj => ?_,
    fun i n k hw => hg.blocked hw⟩
  obtain ⟨k, hk⟩ := hg.holds hi hui hsi
  obtain ⟨k', hk'⟩ := hg.holds hj huj hsj
  exact (hg.consistent.unique hk hk').1

/-- Three operations on one name: the creation has failed, the first deletion waits for its lookup
response, and the second deletion waits for the guard. -/
def threeInTurn : Course :=
  play .sample [.ask (.create "a"), .ask (.delete "a"), .answer 0 (.answered { status := 404 }),
    .answer 0 (.answered { status := 500 }), .ask (.delete "a")] {}

/-- `name_exclusion` on `threeInTurn`: the requests of the creation precede that of the first
deletion, which blocks the second. -/
theorem name_exclusion_sample :
    let s := threeInTurn
    let n : ApplicationName := ⟨"a", by decide, by decide⟩
    Client.sample.settings.serializeByName = true ∧ Reachable .sample s ∧
      s.machine.report.requests.map Prod.fst = [0, 0, 1] ∧
      (Precedes 0 1 s.machine.report.requests ∨ Precedes 1 0 s.machine.report.requests) ∧
      ∃ k, s.machine.awaited? 2 = some (.name n, k) ∧ s.name? 2 = some n ∧
        ∃ j, j ≠ 2 ∧ s.name? j = some n ∧ s.machine.Unfinished j ∧
          (.name n, k) ∈ s.machine.heldBy j := by
  intro s n
  have h : Reachable .sample s := Reachable.play _ .refl
  obtain ⟨happart, -, hblocked⟩ := name_exclusion rfl h
  have hw : (s.machine.awaited? 2).any fun x => x.1 = .name n := by decide +kernel
  obtain ⟨⟨l, k⟩, hw, hl⟩ := (Option.any_eq_true _ _).mp hw
  obtain rfl : l = .name n := of_decide_eq_true hl
  exact ⟨rfl, h, by decide +kernel, happart 0 1 n (by decide) (by decide +kernel)
    (by decide +kernel), k, hw, hblocked 2 n k hw⟩

end Course

end TenantApps
