import TenantApps.Proofs.Addresses.LookupState
import TenantApps.Proofs.Tasks.Course

/-!
# `TenantApps.Proofs.Addresses.LookupInvariant` — concurrent look-ups of one address

`Procedure.consult` and `Procedure.remember` are separated by a request, so other tasks may look the
same endpoint up, be answered or be dropped in between. The invariant that carries the argument is
`Stands`: the holder of `Lock.endpoint e` knows the cache entry it has consulted, because that entry
can be filled under the lock only.

## Contents
- `Stands`, the obligations of a task in each `Phase` of its look-up.
- `LookupTask` and `LookupInvariant`, the invariant of one task and of the machine.
- `Leads`, the effect of a turn on the cache entry of `e`.
- `LookupInvariant.change`, the preservation lemma for a `Machine.Change`, and its instances `asks`,
  `enters`, `leaves`, `consults` and `fills`, one for each action of a look-up.
- `LookupInvariant.act`, `run`, `start`, `answer` and `drop`, **preservation** by every event.
-/

namespace TenantApps

open Procedure

theorem Cache.get_set (c : Cache) (e e' : Endpoint) (a : String) :
    (c.set e' a).get e = if e' = e then some a else c.get e := by
  cases e <;> cases e' <;> rfl

/-! ## The invariant -/

/-- The discovery requests for `e` in a report, each with the task that sent it. -/
def Report.asked {α : Type} (r : Report α) (e : Endpoint) : List (TaskId × Http.Request) :=
  r.entries.filterMap fun
    | .sent i stage r => if stage = Discovery.stage e then some (i, r) else none
    | _ => none

section

variable {α : Type}

/-- **`Stands`**: what task `i` has sent for `e`, and what the cache holds, in a phase. From
`missing` on the entry is empty although the task does not look at it again: nobody else has the
lock. -/
def Stands (m : Machine α) (e : Endpoint) (request : Except ConfigError Http.Request) (i : TaskId) :
    Phase → Prop
  | .before | .entered => ∀ r, (i, r) ∉ m.report.asked e
  | .missing => (∀ r, (i, r) ∉ m.report.asked e) ∧ m.cache.get e = none
  | .asking => (∃ r, request = .ok r ∧ (i, r) ∈ m.report.asked e) ∧ m.cache.get e = none
  | .received o => (∃ r, request = .ok r ∧ (i, r) ∈ m.report.asked e) ∧ m.cache.get e = none ∧
      Entry.answered i (Discovery.stage e) o ∈ m.report.entries
  | .settled => ∃ a, m.cache.get e = some a
  | .past => True

/-- `Status.Waits e phase st`: a task whose status is `st` waits for the discovery response exactly
in the phase `asking`. -/
def Status.Waits (e : Endpoint) (phase : Phase) : Status α → Prop
  | .awaitingAnswer stage _ =>
    if stage = Discovery.stage e then phase = .asking else ¬phase.isInside
  | _ => True

/-- **`LookupTask`**: the invariant of task `i` with state `s`; `yields r a` means that the result
`r` carries the address `a`. -/
structure LookupTask (m : Machine α) (e : Endpoint) (request : Except ConfigError Http.Request)
    (yields : α → String → Prop) (i : TaskId) (t : Task α) (s : LookupState) : Prop where
  /-- The rest of the task follows `lookingUp` from `s`. -/
  follows : t.Follows (lookingUp e request)
    (fun r s => ¬s.phase.isInside ∧ ∀ a, yields r a → a ∈ s.found) s
  /-- It holds the lock of `e` exactly in the critical section. -/
  inside : (∃ k, (Lock.endpoint e, k) ∈ t.held) ↔ s.phase.isInside
  waits : t.status.Waits e s.phase
  stands : Stands m e request i s.phase
  /-- Addresses found so far are in the cache. -/
  found : ∀ a ∈ s.found, m.cache.get e = some a

/-- **`LookupInvariant`**: the invariant of a machine for the endpoint `e`. -/
structure LookupInvariant (e : Endpoint) (request : Except ConfigError Http.Request)
    (yields : TaskId → α → String → Prop) (m : Machine α) : Prop where
  consistent : m.Consistent
  tasks : ∀ {i t}, m.tasks[i]? = some t → ∃ s, LookupTask m e request (yields i) i t s
  /-- A cached address comes from the response to a request of some task for it. -/
  origin : ∀ {a}, m.cache.get e = some a → ∃ i r o, request = .ok r ∧ (i, r) ∈ m.report.asked e ∧
    Entry.answered i (Discovery.stage e) o ∈ m.report.entries ∧ Usable e o a
  /-- Addresses in results are in the cache. -/
  yielded : ∀ {i r a}, (i, r) ∈ m.report.results → yields i r a → m.cache.get e = some a
  /-- Only existing tasks have sent requests. -/
  sent : ∀ {i r}, (i, r) ∈ m.report.asked e → i < m.tasks.length

/-- **`Leads`**: the effect on the entry of `e` when task `i` acts, closed under composition. -/
structure Leads (e : Endpoint) (i : TaskId) (m m' : Machine α) : Prop where
  /-- A cached address is never changed. -/
  kept : ∀ {a}, m.cache.get e = some a → m'.cache.get e = some a
  /-- On a hit nothing is sent for `e`. -/
  silent : ∀ {a}, m.cache.get e = some a → m'.report.asked e = m.report.asked e
  /-- Only a task that received a `Usable` outcome fills the entry. -/
  filled : ∀ {a}, m.cache.get e = none → m'.cache.get e = some a → ∃ o,
    Entry.answered i (Discovery.stage e) o ∈ m'.report.entries ∧ Usable e o a
  /-- No outcome is delivered. -/
  answers : ∀ {j stage o}, Entry.answered j stage o ∈ m'.report.entries ↔
    Entry.answered j stage o ∈ m.report.entries

variable {e : Endpoint} {i : TaskId} {m m' m'' : Machine α}

theorem Leads.refl (e : Endpoint) (i : TaskId) (m : Machine α) : Leads e i m m :=
  ⟨fun h => h, fun _ => rfl, fun h h' => absurd (h'.symm.trans h) (Option.some_ne_none _), Iff.rfl⟩

theorem Leads.trans (h : Leads e i m m') (h' : Leads e i m' m'') : Leads e i m m'' where
  kept ha := h'.kept (h.kept ha)
  silent ha := (h'.silent (h.kept ha)).trans (h.silent ha)
  filled {a} hn ha := by
    cases hm : m'.cache.get e with
    | none => exact h'.filled hm ha
    | some b =>
      -- it was filled in the first part, and the second part has kept it
      have hb := h'.kept hm
      rw [ha] at hb
      cases hb
      obtain ⟨o, ho, hu⟩ := h.filled hn hm
      exact ⟨o, h'.answers.mpr ho, hu⟩
  answers := h'.answers.trans h.answers

theorem Leads.same (hc : m'.cache.get e = m.cache.get e)
    (ha : m'.report.asked e = m.report.asked e) (hx : ∀ {j stage o},
      Entry.answered j stage o ∈ m'.report.entries ↔ Entry.answered j stage o ∈ m.report.entries) :
    Leads e i m m' where
  kept h := hc.trans h
  silent _ := ha
  filled h h' := absurd (h'.symm.trans (hc.trans h)) (Option.some_ne_none _)
  answers := hx

/-! ## Preservation -/

open Machine

variable {request : Except ConfigError Http.Request} {j : TaskId} {t t' : Task α}
  {xs : List (Entry α)} {c : Cache} {s : LookupState} {output : α → String → Prop}
  {yields : TaskId → α → String → Prop} {p : Procedure α}

theorem not_holds_nil {l : Lock} : ¬∃ k, (l, k) ∈ ([] : List (Lock × MutexId)) := by
  rintro ⟨k, hk⟩
  cases hk

theorem Report.asked_sent (i : TaskId) (stage : Stage) (r : Http.Request) :
    Report.asked (⟨[.sent i stage r]⟩ : Report α) e =
      if stage = Discovery.stage e then [(i, r)] else [] := by
  by_cases h : stage = Discovery.stage e <;> simp [Report.asked, h]

theorem Machine.Change.asked (h : Change m i t xs c m') :
    m'.report.asked e = m.report.asked e ++ Report.asked ⟨xs⟩ e := by
  rw [Report.asked, Report.asked, h.report, List.filterMap_append]
  rfl

theorem Stands.frame {phase : Phase} (hs : Stands m e request i phase)
    (hc : phase.isInside → m'.cache.get e = m.cache.get e)
    (ha : ∀ r, (i, r) ∈ m'.report.asked e ↔ (i, r) ∈ m.report.asked e)
    (hx : ∀ x ∈ m.report.entries, x ∈ m'.report.entries) : Stands m' e request i phase := by
  have hsent : (∃ r, request = .ok r ∧ (i, r) ∈ m.report.asked e) →
      ∃ r, request = .ok r ∧ (i, r) ∈ m'.report.asked e := by
    rintro ⟨r, hr, hm⟩
    exact ⟨r, hr, (ha r).mpr hm⟩
  cases phase with
  | before | entered => exact fun r hr => hs r ((ha r).mp hr)
  | missing => exact ⟨fun r hr => hs.1 r ((ha r).mp hr), (hc trivial).trans hs.2⟩
  | asking => exact ⟨hsent hs.1, (hc trivial).trans hs.2⟩
  | received o => exact ⟨hsent hs.1, (hc trivial).trans hs.2.1, hx _ hs.2.2⟩
  | settled =>
    obtain ⟨a, ha⟩ := hs
    exact ⟨a, (hc trivial).trans ha⟩
  | past => trivial

/-- Frame lemma for the other tasks: `LookupTask` survives a change that keeps the entry of `e`, or
fills it while this task is outside of the critical section. -/
theorem LookupTask.frame (hs : LookupTask m e request output j t s)
    (hc : m'.cache.get e = m.cache.get e ∨ m.cache.get e = none ∧ ¬s.phase.isInside)
    (ha : ∀ r, (j, r) ∈ m'.report.asked e ↔ (j, r) ∈ m.report.asked e)
    (hx : ∀ x ∈ m.report.entries, x ∈ m'.report.entries) :
    LookupTask m' e request output j t s where
  follows := hs.follows
  inside := hs.inside
  waits := hs.waits
  stands := by
    refine hs.stands.frame ?_ ha hx
    intro hin
    rcases hc with hc | ⟨-, hout⟩
    · exact hc
    · exact absurd hin hout
  found a h := by
    rcases hc with hc | ⟨hn, -⟩
    · exact hc.trans (hs.found a h)
    · rw [hs.found a h] at hn
      cases hn

/-- `LookupTask` is preserved by `Task.granted`, when a waiting task gets its lock. -/
theorem LookupTask.granted {g : Lock × MutexId} (hs : LookupTask m e request output j t s)
    (hw : t.awaited? = some g) : ∃ s', LookupTask m e request output j t.granted s' := by
  obtain ⟨l, k⟩ := g
  obtain ⟨next, ht⟩ := Task.eq_of_awaited? hw
  generalize t.held = held at ht
  subst ht
  obtain ⟨ha, hf⟩ := hs.follows
  by_cases hl : l = .endpoint e
  · -- it begins its look-up
    subst hl
    have hb : s.phase = .before := by simpa only [lookingUp, if_pos] using ha
    have hstands := hs.stands
    rw [hb] at hstands
    have hinside : (∃ k', (Lock.endpoint e, k') ∈ (Lock.endpoint e, k) :: held) ↔ True :=
      iff_of_true ⟨k, List.mem_cons_self⟩ trivial
    exact ⟨⟨.entered, s.found⟩, hf _ (if_pos rfl).symm, hinside, trivial, hstands, hs.found⟩
  · have hm (k' : MutexId) :
        (Lock.endpoint e, k') ∈ (l, k) :: held ↔ (Lock.endpoint e, k') ∈ held :=
      mem_cons_of_ne (Ne.symm hl)
    refine ⟨s, hf _ (if_neg hl).symm, ?_, trivial, hs.stands, hs.found⟩
    simp only [Task.granted, hm]
    exact hs.inside

/-- **Preservation by a `Machine.Change`**, if the changed task satisfies `LookupTask` again, fills
the entry of `e` under the lock of `e` only, and returns cached addresses only. -/
theorem LookupInvariant.change (h : LookupInvariant e request yields m) (hch : Change m i t xs c m')
    (hown : ∃ s, LookupTask m' e request (yields i) i t s)
    (hc : c.get e = m.cache.get e ∨ m.cache.get e = none ∧ (∃ k, (Lock.endpoint e, k) ∈ t.held) ∧
      ∃ r o a, c.get e = some a ∧ request = .ok r ∧ (i, r) ∈ m.report.asked e ∧
        Entry.answered i (Discovery.stage e) o ∈ m.report.entries ∧ Usable e o a)
    (ha : ∀ x ∈ Report.asked ⟨xs⟩ e, x.1 = i)
    (hr : ∀ x ∈ Report.results ⟨xs⟩, x.1 = i ∧ ∀ a, yields i x.2 a → c.get e = some a) :
    LookupInvariant e request yields m' := by
  have hx (x : Entry α) (hm : x ∈ m.report.entries) : x ∈ m'.report.entries := by
    rw [hch.report]
    exact List.mem_append_left _ hm
  have hkept {a : String} (hm : m.cache.get e = some a) : m'.cache.get e = some a := by
    rw [hch.cache]
    rcases hc with hc | ⟨hn, -⟩
    · exact hc.trans hm
    · rw [hm] at hn
      cases hn
  have hasked (j : TaskId) (hj : j ≠ i) (r : Http.Request) :
      (j, r) ∈ m'.report.asked e ↔ (j, r) ∈ m.report.asked e := by
    rw [hch.asked, List.mem_append]
    exact or_iff_left fun hm => hj (ha _ hm)
  -- another task that holds the lock of the address cannot be there while this one fills it
  have hcache {j : TaskId} {u : Task α} {s : LookupState} (hj : j ≠ i) (hu : m'.tasks[j]? = some u)
      (hin : s.phase.isInside → ∃ k, (Lock.endpoint e, k) ∈ u.held) :
      m'.cache.get e = m.cache.get e ∨ m.cache.get e = none ∧ ¬s.phase.isInside := by
    rw [hch.cache]
    rcases hc with hc | ⟨hn, ⟨k, hk⟩, -⟩
    · exact .inl hc
    · refine .inr ⟨hn, ?_⟩
      intro hins
      obtain ⟨k', hk'⟩ := hin hins
      rw [← heldBy_eq hch.own] at hk
      rw [← heldBy_eq hu] at hk'
      exact hj (hch.consistent.unique hk' hk).1
  refine ⟨hch.consistent, hch.tasks
    (P := fun j u => ∃ s, LookupTask m e request (yields j) j u s)
    (R := fun j u => ∃ s, LookupTask m' e request (yields j) j u s)
    h.tasks hown (fun {j u} hj hu => ?_) (fun {j u g} hj hu => ?_), fun {a} hm => ?_,
    fun {j r a} hm hyields => ?_, fun {j r} hm => ?_⟩
  · rintro ⟨s, hs⟩
    exact ⟨s, hs.frame (hcache hj hu hs.inside.mpr) (hasked j hj) hx⟩
  · rintro ⟨s, hs⟩ hw
    refine (hs.frame (hcache hj hu ?_) (hasked j hj) hx).granted hw
    intro hin
    obtain ⟨k, hk⟩ := hs.inside.mpr hin
    exact ⟨k, by rw [Task.granted_held hw]; exact List.mem_cons_of_mem _ hk⟩
  · have hasked {x} (hm : x ∈ m.report.asked e) : x ∈ m'.report.asked e := by
      rw [hch.asked]
      exact List.mem_append_left _ hm
    rw [hch.cache] at hm
    rcases hc with hc | ⟨-, -, r, o, b, hb, hr, hsent, hanswered, hu⟩
    · obtain ⟨j, r, o, hr, hsent, hanswered, hu⟩ := h.origin (hc.symm.trans hm)
      exact ⟨j, r, o, hr, hasked hsent, hx _ hanswered, hu⟩
    · rw [hm] at hb
      cases hb
      exact ⟨i, r, o, hr, hasked hsent, hx _ hanswered, hu⟩
  · rw [hch.results, List.mem_append] at hm
    rcases hm with hm | hm
    · exact hkept (h.yielded hm hyields)
    · obtain ⟨hj, ht⟩ := hr _ hm
      obtain rfl : j = i := hj
      rw [hch.cache]
      exact ht a hyields
  · rw [hch.length]
    by_cases hj : j = i
    · subst hj
      rw [← hch.length]
      exact (List.getElem?_eq_some_iff.mp hch.own).1
    · exact h.sent ((hasked j hj r).mp hm)

/-- The acting task keeps its state if the action is a frame for `lookingUp`. -/
theorem LookupTask.stay (hs : LookupTask m e request output i t s) (hch : Change m i t' xs c m')
    (hf : t'.Follows (lookingUp e request)
      (fun r s => ¬s.phase.isInside ∧ ∀ a, output r a → a ∈ s.found) s)
    (hheld : ∀ k, (Lock.endpoint e, k) ∈ t'.held ↔ (Lock.endpoint e, k) ∈ t.held)
    (hw : t'.status.Waits e s.phase) (hc : c.get e = m.cache.get e)
    (ha : Report.asked ⟨xs⟩ e = []) : LookupTask m' e request output i t' s := by
  have hs' : LookupTask m' e request output i t s := hs.frame (.inl (by rw [hch.cache, hc]))
    (fun r => by rw [hch.asked, ha, List.append_nil])
    fun x hx => by rw [hch.report]; exact List.mem_append_left _ hx
  refine { hs' with follows := hf, inside := ?_, waits := hw }
  simpa only [hheld] using hs'.inside

/-- Preservation when the acting task moves to another state and the cache stays. -/
theorem LookupInvariant.advance (h : LookupInvariant e request yields m) (s' : LookupState)
    (hch : Change m i t' xs m.cache m')
    (hf : t'.Follows (lookingUp e request)
      (fun r s => ¬s.phase.isInside ∧ ∀ a, yields i r a → a ∈ s.found) s')
    (hin : (∃ k, (Lock.endpoint e, k) ∈ t'.held) ↔ s'.phase.isInside)
    (hw : t'.status.Waits e s'.phase) (hst : Stands m' e request i s'.phase)
    (hfound : ∀ a ∈ s'.found, m.cache.get e = some a)
    (ha : ∀ x ∈ Report.asked ⟨xs⟩ e, x.1 = i) (hr : Report.results ⟨xs⟩ = []) :
    LookupInvariant e request yields m' := by
  refine h.change hch ⟨s', hf, hin, hw, hst, ?_⟩ (.inl rfl) ha ?_
  · rw [hch.cache]
    exact hfound
  · rw [hr]
    exact List.forall_mem_nil _

/-- Action `sends`: phase `missing` → `asking`. -/
theorem LookupInvariant.asks {held : List (Lock × MutexId)} {r : Http.Request}
    {next : Http.Outcome → Procedure α} (h : LookupInvariant e request yields m)
    (hs : LookupTask m e request (yields i) i ⟨.ready (.send (Discovery.stage e) r next), held⟩ s)
    (hch : Change m i ⟨.awaitingAnswer (Discovery.stage e) next, held⟩
      [.sent i (Discovery.stage e) r] m.cache m') :
    LookupInvariant e request yields m' ∧ Leads e i m m' := by
  obtain ⟨hallow, hnext⟩ := hs.follows
  obtain ⟨hm, hr⟩ : s.phase = .missing ∧ request = .ok r := by
    simpa only [lookingUp, if_pos] using hallow
  obtain ⟨-, hn⟩ : Stands m e request i .missing := hm ▸ hs.stands
  have hasked : Report.asked (⟨[.sent i (Discovery.stage e) r]⟩ : Report α) e = [(i, r)] := by
    rw [Report.asked_sent, if_pos rfl]
  have hmem : (i, r) ∈ m'.report.asked e := by
    rw [hch.asked, hasked]
    exact List.mem_append_right _ List.mem_cons_self
  have hcache : m'.cache.get e = none := by rw [hch.cache, hn]
  constructor
  · refine h.advance ⟨.asking, s.found⟩ hch (fun o s' ho => hnext _ (if_pos rfl).symm o s' ho) ?_ ?_
      ⟨⟨r, hr, hmem⟩, hcache⟩ hs.found ?_ rfl
    · exact hs.inside.trans (by rw [hm]; exact Iff.rfl)
    · simp only [Status.Waits, if_pos]
    · intro x hx
      rw [hasked, List.mem_singleton] at hx
      rw [hx]
  · refine ⟨fun hk => ?_, fun hk => ?_, fun _ hk => ?_, fun {j stage o} => ?_⟩
    · rw [hk] at hn
      cases hn
    · rw [hk] at hn
      cases hn
    · rw [hk] at hcache
      cases hcache
    · rw [hch.report, List.mem_append]
      exact or_iff_left fun hx => by cases List.mem_singleton.mp hx

/-- Action `acquires`: phase `before` → `entered`. -/
theorem LookupInvariant.enters {held : List (Lock × MutexId)} {k : MutexId} {next : Procedure α}
    (h : LookupInvariant e request yields m)
    (hs : LookupTask m e request (yields i) i ⟨.ready (.acquire (.endpoint e) next), held⟩ s)
    (hch : Change m i ⟨.ready next, (.endpoint e, k) :: held⟩ [] m.cache m') :
    LookupInvariant e request yields m' := by
  obtain ⟨hallow, hnext⟩ := hs.follows
  have hb : s.phase = .before := by simpa only [lookingUp, if_pos] using hallow
  have hunsent : Stands m e request i .before := hb ▸ hs.stands
  have hstands : Stands m' e request i .entered := by
    intro r
    rw [hch.asked, show Report.asked (⟨[]⟩ : Report α) e = [] from rfl, List.append_nil]
    exact hunsent r
  exact h.advance ⟨.entered, s.found⟩ hch (hnext _ (if_pos rfl).symm)
    (iff_of_true ⟨k, List.mem_cons_self⟩ trivial) trivial hstands hs.found (List.forall_mem_nil _)
    rfl

/-- Action `releases`: the critical section is left. -/
theorem LookupInvariant.leaves {held : List (Lock × MutexId)} {next : Procedure α}
    (h : LookupInvariant e request yields m)
    (ht : m.tasks[i]? = some ⟨.ready (.release (.endpoint e) next), held⟩)
    (hs : LookupTask m e request (yields i) i ⟨.ready (.release (.endpoint e) next), held⟩ s)
    (hch : Change m i ⟨.ready next, held.eraseP (·.1 = .endpoint e)⟩ [] m.cache m') :
    LookupInvariant e request yields m' := by
  obtain ⟨-, hnext⟩ := hs.follows
  have hout : ¬∃ k, (Lock.endpoint e, k) ∈ held.eraseP (·.1 = .endpoint e) := by
    rintro ⟨k, hk⟩
    exact h.consistent.not_mem_eraseP ht _ k hk
  exact h.advance ⟨.past, s.found⟩ hch (hnext _ (if_pos rfl).symm)
    (iff_of_false hout id) trivial trivial hs.found (List.forall_mem_nil _) rfl

/-- Action `consults`: `entered` → `settled` on a hit, `entered` → `missing` on a miss. -/
theorem LookupInvariant.consults {held : List (Lock × MutexId)} {next : Option String → Procedure α}
    (h : LookupInvariant e request yields m)
    (hs : LookupTask m e request (yields i) i ⟨.ready (.consult e next), held⟩ s)
    (hch : Change m i ⟨.ready (next (m.cache.get e)), held⟩ [] m.cache m') :
    LookupInvariant e request yields m' := by
  obtain ⟨hallow, hnext⟩ := hs.follows (m.cache.get e)
  have hin : s.phase = .entered := by simpa only [lookingUp, if_pos] using hallow
  have hinside : (∃ k, (Lock.endpoint e, k) ∈ held) ↔ True :=
    hs.inside.trans (by rw [hin]; exact Iff.rfl)
  have hunsent : Stands m e request i .entered := hin ▸ hs.stands
  cases hk : m.cache.get e with
  | some a =>
    -- the address is known, so there is nothing to ask for
    rw [hk] at hnext hch
    refine h.advance ⟨.settled, a :: s.found⟩ hch (hnext _ (if_pos rfl).symm) hinside
      trivial ⟨a, by rw [hch.cache, hk]⟩ ?_ (List.forall_mem_nil _) rfl
    exact List.forall_mem_cons.mpr ⟨hk, hs.found⟩
  | none =>
    rw [hk] at hnext hch
    refine h.advance ⟨.missing, s.found⟩ hch (hnext _ (if_pos rfl).symm) hinside
      trivial ⟨fun r => ?_, by rw [hch.cache, hk]⟩ hs.found (List.forall_mem_nil _) rfl
    rw [hch.asked, show Report.asked (⟨[]⟩ : Report α) e = [] from rfl, List.append_nil]
    exact hunsent r

/-- Action `remembers`: the entry is filled with the address that the response contains. -/
theorem LookupInvariant.fills {held : List (Lock × MutexId)} {a : String} {next : Procedure α}
    (h : LookupInvariant e request yields m)
    (hs : LookupTask m e request (yields i) i ⟨.ready (.remember e a next), held⟩ s)
    (hch : Change m i ⟨.ready next, held⟩ [] (m.cache.set e a) m') :
    LookupInvariant e request yields m' ∧ Leads e i m m' := by
  obtain ⟨hallow, hnext⟩ := hs.follows
  obtain ⟨o, ho, hu⟩ : ∃ o, s.phase = .received o ∧ Usable e o a := by
    simpa only [lookingUp, if_pos] using hallow
  obtain ⟨⟨r, hr, hasked⟩, hn, hreceived⟩ : Stands m e request i (.received o) := ho ▸ hs.stands
  have ha : (m.cache.set e a).get e = some a := by rw [Cache.get_set, if_pos rfl]
  have hcache : m'.cache.get e = some a := by rw [hch.cache, ha]
  have hheld : ∃ k, (Lock.endpoint e, k) ∈ held := hs.inside.mpr (by rw [ho]; trivial)
  have hx {j : TaskId} {stage : Stage} {o : Http.Outcome} :
      Entry.answered j stage o ∈ m'.report.entries ↔
        Entry.answered j stage o ∈ m.report.entries := by
    rw [hch.report, List.append_nil]
  constructor
  · refine h.change hch ⟨⟨.settled, a :: s.found⟩, hnext _ (if_pos rfl).symm,
      iff_of_true hheld trivial, trivial, ⟨a, hcache⟩, List.forall_mem_cons.mpr ⟨hcache, ?_⟩⟩
      (.inr ⟨hn, hheld, r, o, a, ha, hr, hasked, hreceived, hu⟩) (List.forall_mem_nil _)
      (List.forall_mem_nil _)
    -- it has found nothing before, because nothing was known
    intro b hb
    rw [hs.found b hb] at hn
    cases hn
  · refine ⟨fun hk => ?_, fun hk => ?_, fun _ hk => ?_, hx⟩
    · rw [hk] at hn
      cases hn
    · rw [hk] at hn
      cases hn
    · rw [hcache] at hk
      cases hk
      exact ⟨o, hx.mpr hreceived, hu⟩

/-- **Preservation by one action** of a ready task, with its effect `Leads`. -/
theorem LookupInvariant.act {held : List (Lock × MutexId)} (h : LookupInvariant e request yields m)
    (ht : m.tasks[i]? = some ⟨.ready p, held⟩) :
    LookupInvariant e request yields (m.act i p) ∧ Leads e i m (m.act i p) := by
  obtain ⟨s, hs⟩ := h.tasks ht
  obtain ⟨t, xs, c, ha, hch⟩ := h.consistent.act ht
  have hf := hs.follows
  have leads (hc : c.get e = m.cache.get e) (ha : Report.asked ⟨xs⟩ e = [])
      (hx : ∀ j stage o, Entry.answered j stage o ∉ xs) : Leads e i m (m.act i p) := by
    refine .same (by rw [hch.cache, hc]) (by rw [hch.asked, ha, List.append_nil]) ?_
    intro j stage o
    rw [hch.report, List.mem_append]
    exact or_iff_left (hx j stage o)
  have nobody (x : Entry α) (hx : ∀ j stage o, x ≠ .answered j stage o) (j : TaskId) (stage : Stage)
      (o : Http.Outcome) : Entry.answered j stage o ∉ [x] := fun hm =>
    hx j stage o (List.mem_singleton.mp hm).symm
  -- what does not concern the address leaves the task where it is
  have stays (hf : t.Follows (lookingUp e request)
        (fun r s => ¬s.phase.isInside ∧ ∀ a, yields i r a → a ∈ s.found) s)
      (hheld : ∀ k, (Lock.endpoint e, k) ∈ t.held ↔ (Lock.endpoint e, k) ∈ held)
      (hw : t.status.Waits e s.phase) (hc : c.get e = m.cache.get e)
      (ha : Report.asked ⟨xs⟩ e = [])
      (hr : ∀ x ∈ Report.results ⟨xs⟩, x.1 = i ∧ ∀ a, yields i x.2 a → c.get e = some a) :
      LookupInvariant e request yields (m.act i p) :=
    h.change hch ⟨s, hs.stay hch hf hheld hw hc ha⟩ (.inl hc)
      (by rw [ha]; exact List.forall_mem_nil _) hr
  cases ha with
  | done a =>
    -- it yields only what it has found
    refine ⟨stays ⟨a, hf⟩ (fun _ => .rfl) trivial rfl rfl ?_, leads rfl rfl (nobody _ ?_)⟩
    · intro x hx
      obtain rfl : x = (i, a) := List.mem_singleton.mp hx
      exact ⟨rfl, fun b hb => hs.found b (hf.2 b hb)⟩
    · rintro j stage o ⟨⟩
  | send stage r next =>
    by_cases hst : stage = Discovery.stage e
    · subst hst
      exact h.asks hs hch
    · -- a request for something else, which it may only send outside its look-up
      have hasked : Report.asked (⟨[.sent i stage r]⟩ : Report α) e = [] := by
        rw [Report.asked_sent, if_neg hst]
      obtain ⟨hallow, hnext⟩ := hf
      have hout : ¬s.phase.isInside := by simpa only [lookingUp, if_neg hst] using hallow
      have hwaits : (Status.awaitingAnswer stage next).Waits e s.phase := by
        simpa only [Status.Waits, if_neg hst] using hout
      refine ⟨stays (fun o s' ho => hnext s (if_neg hst).symm o s' ho) (fun _ => .rfl) hwaits rfl
        hasked (List.forall_mem_nil _), leads rfl hasked (nobody _ ?_)⟩
      rintro j stage o ⟨⟩
  | take l k next =>
    refine ⟨?_, leads rfl rfl fun _ _ _ => List.not_mem_nil⟩
    by_cases hl : l = .endpoint e
    · subst hl
      exact h.enters hs hch
    · exact stays (hf.2 s (if_neg hl).symm) (fun k' => mem_cons_of_ne (Ne.symm hl)) trivial rfl rfl
        (List.forall_mem_nil _)
  | wait l k next =>
    exact ⟨stays hf (fun _ => .rfl) trivial rfl rfl (List.forall_mem_nil _),
      leads rfl rfl fun _ _ _ => List.not_mem_nil⟩
  | release l next =>
    refine ⟨?_, leads rfl rfl fun _ _ _ => List.not_mem_nil⟩
    by_cases hl : l = .endpoint e
    · subst hl
      exact h.leaves ht hs hch
    · exact stays (hf.2 s (if_neg hl).symm) (fun k' => mem_eraseP_of_ne (Ne.symm hl)) trivial rfl
        rfl (List.forall_mem_nil _)
  | consult e' next =>
    refine ⟨?_, leads rfl rfl fun _ _ _ => List.not_mem_nil⟩
    by_cases he : e' = e
    · subst he
      exact h.consults hs hch
    · exact stays ((hf _).2 s (if_neg he).symm) (fun _ => .rfl) trivial rfl rfl
        (List.forall_mem_nil _)
  | remember e' a next =>
    by_cases he : e' = e
    · subst he
      exact h.fills hs hch
    · have hc : (m.cache.set e' a).get e = m.cache.get e := by rw [Cache.get_set, if_neg he]
      exact ⟨stays (hf.2 s (if_neg he).symm) (fun _ => .rfl) trivial hc rfl (List.forall_mem_nil _),
        leads hc rfl fun _ _ _ => List.not_mem_nil⟩
  | emit x next =>
    refine ⟨stays hf (fun _ => .rfl) trivial rfl rfl (List.forall_mem_nil _),
      leads rfl rfl (nobody _ ?_)⟩
    rintro j stage o ⟨⟩

/-- **Preservation by a turn**: induction on the procedure, one `act` for each action. -/
theorem LookupInvariant.run (h : LookupInvariant e request yields m)
    (ht : m.status? i = some (.ready p)) :
    LookupInvariant e request yields (Machine.run i p m) ∧ Leads e i m (Machine.run i p m) ∧
      (Machine.run i p m).isReady i = false := by
  obtain ⟨⟨st, held⟩, ht, rfl⟩ := Option.map_eq_some_iff.mp ht
  obtain ⟨-, hr, h', hl⟩ := h.consistent.run
    (P := fun m' => LookupInvariant e request yields m' ∧ Leads e i m m') i (fun _ ht h => by
      obtain ⟨h', hl'⟩ := h.1.act ht
      exact ⟨h', h.2.trans hl'⟩) p ht ⟨h, .refl e i m⟩
  exact ⟨h', hl, hr⟩

/-- Preservation by `start`, for a procedure that follows `lookingUp`. -/
theorem LookupInvariant.start (h : LookupInvariant e request yields m)
    (ha : m.accept? (.start p) = some m')
    (hp : p.Follows (lookingUp e request)
      (fun r s => ¬s.phase.isInside ∧ ∀ a, yields m.tasks.length r a → a ∈ s.found) ⟨.before, []⟩) :
    LookupInvariant e request yields m' := by
  obtain ⟨hc, htasks, hcache, hreport⟩ := h.consistent.start ha
  refine ⟨hc, fun {j t} ht => ?_, fun {a} hm => ?_, fun {j r a} hm hyields => ?_,
    fun {j r} hm => ?_⟩
  · rw [htasks, getElem?_start] at ht
    split at ht
    · next hj =>
      subst hj
      cases ht
      refine ⟨⟨.before, []⟩, hp, iff_of_false not_holds_nil id, trivial, fun r hr => ?_,
        List.forall_mem_nil _⟩
      rw [hreport] at hr
      exact absurd (h.sent hr) (Nat.lt_irrefl _)
    · obtain ⟨s, hs⟩ := h.tasks ht
      exact ⟨s, hs.frame (.inl (by rw [hcache])) (fun r => by rw [hreport])
        fun x hx => by rwa [hreport]⟩
  · rw [hreport]
    exact h.origin (by rwa [hcache] at hm)
  · rw [hreport] at hm
    rw [hcache]
    exact h.yielded hm hyields
  · rw [htasks, List.length_append]
    rw [hreport] at hm
    exact Nat.lt_add_right _ (h.sent hm)

/-- Preservation by `answer`. -/
theorem LookupInvariant.answer {o : Http.Outcome} (h : LookupInvariant e request yields m)
    (ha : m.accept? (.answer i o) = some m') : LookupInvariant e request yields m' := by
  obtain ⟨stage, next, held, ht, hch⟩ := h.consistent.answer ha
  obtain ⟨s, hs⟩ := h.tasks ht
  have hw : (Status.awaitingAnswer stage next).Waits e s.phase := hs.waits
  by_cases hst : stage = Discovery.stage e
  · -- the answer is about the address, and nobody has filled it meanwhile
    subst hst
    have hasking : s.phase = .asking := by simpa only [Status.Waits, if_pos] using hw
    obtain ⟨⟨r, hr, hasked⟩, hn⟩ : Stands m e request i .asking := hasking ▸ hs.stands
    refine h.advance ⟨.received o, s.found⟩ hch (hs.follows o _ (if_pos rfl).symm) ?_ trivial
      ⟨⟨r, hr, ?_⟩, by rw [hch.cache, hn], ?_⟩ hs.found (List.forall_mem_nil _) rfl
    · exact hs.inside.trans (by rw [hasking]; exact Iff.rfl)
    · rw [hch.asked]
      exact List.mem_append_left _ hasked
    · rw [hch.report]
      exact List.mem_append_right _ List.mem_cons_self
  · refine h.change hch ⟨s, ?_⟩ (.inl rfl) (List.forall_mem_nil _) (List.forall_mem_nil _)
    exact hs.stay hch (hs.follows o s (if_neg hst).symm) (fun _ => .rfl) trivial rfl rfl

/-- Preservation by `drop`. -/
theorem LookupInvariant.drop (h : LookupInvariant e request yields m)
    (ha : m.accept? (.drop i) = some m') :
    LookupInvariant e request yields m' := by
  obtain ⟨t, ht, -, hch⟩ := h.consistent.drop ha
  exact h.change hch ⟨⟨.past, []⟩, trivial, iff_of_false not_holds_nil id, trivial, trivial,
    List.forall_mem_nil _⟩ (.inl rfl) (List.forall_mem_nil _) (List.forall_mem_nil _)

end

end TenantApps
