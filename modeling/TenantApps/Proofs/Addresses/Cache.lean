import TenantApps.Proofs.Addresses.LookupInvariant

/-!
# `TenantApps.Proofs.Addresses.Cache` — single flight and caching of addresses

The two endpoints of a tenant are resolved when they are first needed. At most one discovery request
is in flight for each of them; a cached address is final, and nothing is sent for it again; after a
failure or a cancellation the next task that needs the address sends a request of its own.

## Contents
- `Procedure.comesTo`, `Machine.InFlight`, and the refetch lemmas `LookupInvariant.fetches_of_held`
  and `LookupInvariant.fetches_of_free`.
- `Reachable.lookupInvariant`, `LookupInvariant` over every reachable course.
- `Reachable.kept` and `Reachable.filled`, the two laws of the cache over steps.
- `Course.address_cache`, the **main result**.
-/

namespace TenantApps

open Machine Procedure

/-! ## Refetching -/

section

variable {α : Type} {e : Endpoint} {i : TaskId} {m : Machine α} {p : Procedure α} {t : Task α}
  {request : Except ConfigError Http.Request} {yields : TaskId → α → String → Prop}

/-- The first lock that a procedure acquires before it sends anything, given the cache `k`. -/
def Procedure.comesTo (k : Cache) : Procedure α → Option Lock
  | .done _ | .send .. => none
  | .acquire l _ => some l
  | .release _ next => next.comesTo k
  | .consult e next => (next (k.get e)).comesTo k
  | .remember e a next => next.comesTo (k.set e a)
  | .emit _ next => next.comesTo k

/-- `InFlight e i`: task `i` waits for the response to its discovery request for `e`. -/
def Machine.InFlight (m : Machine α) (e : Endpoint) (i : TaskId) : Prop :=
  ∃ next held, m.tasks[i]? = some ⟨.awaitingAnswer (Discovery.stage e) next, held⟩

/-- A task with a request in flight for `e` holds the lock of `e`. -/
theorem LookupInvariant.inFlight_held (h : LookupInvariant e request yields m)
    (hi : m.InFlight e i) :
    ∃ k, (Lock.endpoint e, k) ∈ m.heldBy i := by
  obtain ⟨next, held, ht⟩ := hi
  obtain ⟨s, hs⟩ := h.tasks ht
  have hp : s.phase = .asking := by simpa only [Status.Waits, if_pos] using hs.waits
  rw [heldBy_eq ht]
  exact hs.inside.mpr (by rw [hp]; trivial)

/-- The holder of the lock of `e` is ready or has a request in flight for `e`. -/
theorem LookupInvariant.holder (h : LookupInvariant e request yields m) {k : MutexId} (hd : m.Tidy)
    (hk : (Lock.endpoint e, k) ∈ m.heldBy i) : m.isReady i = true ∨ m.InFlight e i := by
  cases ht : m.tasks[i]? with
  | none =>
    rw [heldBy, ht] at hk
    cases hk
  | some t =>
    obtain ⟨s, hs⟩ := h.tasks ht
    rw [heldBy_eq ht] at hk
    have hin := hs.inside.mp ⟨k, hk⟩
    have hf := hs.follows
    rw [isReady_of ht]
    obtain ⟨st, held⟩ := t
    cases st with
    | ready p => exact .inl rfl
    | awaitingAnswer stage next =>
      have hw : (Status.awaitingAnswer stage next).Waits e s.phase := hs.waits
      rw [Status.Waits] at hw
      split at hw
      · next hst =>
        subst hst
        exact .inr ⟨next, held, ht⟩
      · exact absurd hin hw
    | awaitingLock l k' next =>
      -- during its look-up it waits for no lock
      have hallow := hf.1
      by_cases hl : l = .endpoint e
      · have hb : s.phase = .before := by simpa only [lookingUp, if_pos hl] using hallow
        rw [hb] at hin
        exact hin.elim
      · exact absurd hin (by simpa only [lookingUp, if_neg hl] using hallow)
    | finished =>
      obtain ⟨a, hout, -⟩ := hf
      exact absurd hin hout
    | dropped =>
      -- whoever is dropped holds nothing any more
      obtain rfl : held = [] := hd i _ ht rfl
      cases hk

/-- A lock that nobody holds stays free in a change whose task does not acquire it. -/
theorem Machine.Change.remains_free {t' : Task α} {xs : List (Entry α)} {c : Cache} {m' : Machine α}
    {l : Lock} (hch : Change m i t' xs c m') (hc : m.Consistent) (ht : m.tasks[i]? = some t)
    (hfree : ∀ j k, (l, k) ∉ m.heldBy j) (hsub : ∀ k, (l, k) ∈ t'.held → (l, k) ∈ t.held) :
    ∀ j k, (l, k) ∉ m'.heldBy j := by
  refine hch.consistent.free_iff.mp (hch.free hc (hc.free_iff.mpr hfree) ?_)
  intro k hk
  exact hfree i k (by rw [heldBy_eq ht]; exact hsub k hk)

/-- **Refetch under the lock**: with the entry of `e` empty, the turn of a task that holds the lock of
`e` and has not asked sends the request for `e`. -/
theorem LookupInvariant.fetches_of_held {r : Http.Request} {held : List (Lock × MutexId)}
    (h : LookupInvariant e request yields m) (hr : request = .ok r) (hn : m.cache.get e = none)
    (ht : m.tasks[i]? = some ⟨.ready p, held⟩) (hheld : ∃ k, (Lock.endpoint e, k) ∈ held)
    (hasked : ∀ r, (i, r) ∉ m.report.asked e) :
    (Machine.run i p m).InFlight e i ∧ (i, r) ∈ (Machine.run i p m).report.asked e := by
  -- inside the critical section, `lookingUp` leaves the procedure no way round the request
  induction p generalizing m held with
  | done a =>
    obtain ⟨s, hs⟩ := h.tasks ht
    exact absurd (hs.inside.mp hheld) hs.follows.1
  | send stage r' next ih =>
    obtain ⟨s, hs⟩ := h.tasks ht
    have hallow := hs.follows.1
    by_cases hst : stage = Discovery.stage e
    · subst hst
      obtain ⟨-, hr'⟩ : s.phase = .missing ∧ request = .ok r' := by
        simpa only [lookingUp, if_pos] using hallow
      rw [hr] at hr'
      cases hr'
      obtain ⟨t, xs, c, ha, hch⟩ := h.consistent.act ht
      cases ha
      refine ⟨⟨next, held, hch.own⟩, ?_⟩
      show (i, r) ∈ (m.act i (.send (Discovery.stage e) r next)).report.asked e
      rw [hch.asked, Report.asked_sent, if_pos rfl]
      exact List.mem_append_right _ List.mem_cons_self
    · refine absurd (hs.inside.mp hheld) ?_
      simpa only [lookingUp, if_neg hst] using hallow
  | acquire l next ih =>
    obtain ⟨s, hs⟩ := h.tasks ht
    have hallow := hs.follows.1
    have hin := hs.inside.mp hheld
    by_cases hl : l = .endpoint e
    · have hb : s.phase = .before := by simpa only [lookingUp, if_pos hl] using hallow
      rw [hb] at hin
      exact hin.elim
    · exact absurd hin (by simpa only [lookingUp, if_neg hl] using hallow)
  | release l next ih =>
    obtain ⟨s, hs⟩ := h.tasks ht
    have hallow := hs.follows.1
    by_cases hl : l = .endpoint e
    · -- it gives the lock back only if the address is known, or it has asked, or it cannot ask
      obtain hset | ⟨o, ho, -⟩ | ⟨-, error, herror⟩ : s.phase = .settled ∨
          (∃ o, s.phase = .received o ∧ ∀ a, ¬Usable e o a) ∨
          s.phase = .missing ∧ ∃ error, request = .error error := by
        simpa only [lookingUp, if_pos hl] using hallow
      · obtain ⟨a, ha⟩ : Stands m e request i .settled := hset ▸ hs.stands
        rw [ha] at hn
        cases hn
      · obtain ⟨⟨r, -, hr⟩, -⟩ : Stands m e request i (.received o) := ho ▸ hs.stands
        exact absurd hr (hasked r)
      · rw [hr] at herror
        cases herror
    · refine absurd (hs.inside.mp hheld) ?_
      simpa only [lookingUp, if_neg hl] using hallow
  | consult e' next ih =>
    obtain ⟨t, xs, c, ha, hch⟩ := h.consistent.act ht
    cases ha
    refine ih _ (h.act ht).1 (by rw [hch.cache, hn]) hch.own hheld fun r => ?_
    rw [hch.asked, show Report.asked (⟨[]⟩ : Report α) e = [] from rfl, List.append_nil]
    exact hasked r
  | remember e' a next ih =>
    obtain ⟨s, hs⟩ := h.tasks ht
    have hallow := hs.follows.1
    by_cases he : e' = e
    · -- it keeps only what a response contained when it had asked
      obtain ⟨o, ho, -⟩ : ∃ o, s.phase = .received o ∧ Usable e o a := by
        simpa only [lookingUp, if_pos he] using hallow
      obtain ⟨⟨r, -, hr⟩, -⟩ : Stands m e request i (.received o) := ho ▸ hs.stands
      exact absurd hr (hasked r)
    · refine absurd (hs.inside.mp hheld) ?_
      simpa only [lookingUp, if_neg he] using hallow
  | emit x next ih =>
    obtain ⟨t, xs, c, ha, hch⟩ := h.consistent.act ht
    cases ha
    refine ih (h.act ht).1 (by rw [hch.cache, hn]) hch.own hheld fun r => ?_
    rw [hch.asked, show Report.asked (⟨[.signalled i x]⟩ : Report α) e = [] from rfl,
      List.append_nil]
    exact hasked r

/-- **Refetch at the free lock**: with the entry of `e` empty, the turn of a task that comes to the
free lock of `e` sends the request for `e`. -/
theorem LookupInvariant.fetches_of_free {r : Http.Request} {held : List (Lock × MutexId)}
    (h : LookupInvariant e request yields m) (hr : request = .ok r) (hn : m.cache.get e = none)
    (ht : m.tasks[i]? = some ⟨.ready p, held⟩) (hp : p.comesTo m.cache = some (.endpoint e))
    (hfree : ∀ j k, (Lock.endpoint e, k) ∉ m.heldBy j) :
    (Machine.run i p m).InFlight e i ∧ (i, r) ∈ (Machine.run i p m).report.asked e := by
  -- up to the lock, the turn neither fills the entry nor takes the lock
  induction p generalizing m held with
  | done a => cases hp
  | send stage r' next ih => cases hp
  | acquire l next ih =>
    obtain ⟨s, hs⟩ := h.tasks ht
    obtain rfl : l = .endpoint e := Option.some.inj hp
    have hb : s.phase = .before := by simpa only [lookingUp, if_pos] using hs.follows.1
    obtain ⟨k, hch⟩ := h.consistent.take_free ht rfl (h.consistent.free_iff.mpr hfree) next
    have hready : (m.act i (.acquire (.endpoint e) next)).isReady i = true := isReady_of hch.own
    rw [Machine.run, if_pos hready]
    refine (h.act ht).1.fetches_of_held hr (by rw [← hn]; exact congrArg (Cache.get · e) hch.cache)
      hch.own ⟨k, List.mem_cons_self⟩ fun r hr => ?_
    have hasked : (m.act i (.acquire (.endpoint e) next)).report.asked e = m.report.asked e :=
      hch.asked.trans (List.append_nil _)
    have hunsent : Stands m e request i .before := hb ▸ hs.stands
    rw [hasked] at hr
    exact hunsent r hr
  | release l next ih =>
    obtain ⟨t, xs, c, ha, hch⟩ := h.consistent.act ht
    cases ha
    exact ih (h.act ht).1 (by rw [hch.cache, hn]) hch.own (by rw [hch.cache]; exact hp)
      (hch.remains_free h.consistent ht hfree fun k => List.mem_of_mem_eraseP)
  | consult e' next ih =>
    obtain ⟨t, xs, c, ha, hch⟩ := h.consistent.act ht
    cases ha
    exact ih _ (h.act ht).1 (by rw [hch.cache, hn]) hch.own (by rw [hch.cache]; exact hp)
      (hch.remains_free h.consistent ht hfree fun _ => id)
  | remember e' a next ih =>
    obtain ⟨s, hs⟩ := h.tasks ht
    obtain ⟨t, xs, c, ha, hch⟩ := h.consistent.act ht
    cases ha
    by_cases he : e' = e
    · -- only the holder of the lock fills the entry
      obtain ⟨o, ho, -⟩ : ∃ o, s.phase = .received o ∧ Usable e o a := by
        simpa only [lookingUp, if_pos he] using hs.follows.1
      obtain ⟨k, hk⟩ := hs.inside.mpr (by rw [ho]; trivial)
      exact absurd (by rw [heldBy_eq ht]; exact hk) (hfree i k)
    · exact ih (h.act ht).1 (by rw [hch.cache, Cache.get_set, if_neg he, hn]) hch.own
        (by rw [hch.cache]; exact hp) (hch.remains_free h.consistent ht hfree fun _ => id)
  | emit x next ih =>
    obtain ⟨t, xs, c, ha, hch⟩ := h.consistent.act ht
    cases ha
    exact ih (h.act ht).1 (by rw [hch.cache, hn]) hch.own (by rw [hch.cache]; exact hp)
      (hch.remains_free h.consistent ht hfree fun _ => id)

end

/-! ## Over courses -/

namespace Course

variable {c : Client} {s s' : Course} {e : Endpoint}

/-- `LookupInvariant` holds of the empty machine. -/
theorem lookupInvariant_init {request : Except ConfigError Http.Request}
    {yields : TaskId → Except Error Answer → String → Prop} :
    LookupInvariant e request yields ({} : Machine (Except Error Answer)) where
  consistent := consistent_init
  tasks h := by cases h
  origin h := by cases e <;> cases h
  yielded h := by cases h
  sent h := by cases h

/-- **Every reachable course satisfies `LookupInvariant`**, whatever the calls that are still to
come tell. -/
theorem Reachable.lookupInvariant (h : Reachable c s) (e : Endpoint)
    (yields : TaskId → Except Error Answer → String → Prop)
    (ht : ∀ i call, s.calls[i]? = some call → yields i = call.Yields e) :
    LookupInvariant e c.discovery.request yields s.machine := by
  induction h with
  | refl => exact lookupInvariant_init
  | @tail s s' hs hstep ih =>
    cases hstep with
    | event ev ha =>
      have h := ih fun i call hi => ht i call (by
        rw [List.getElem?_append_left (List.getElem?_eq_some_iff.mp hi).1]
        exact hi)
      cases ev with
      | ask call =>
        refine h.start ha ?_
        rw [← (show Reachable c s from hs).consistent.2, ht _ _ (List.getElem?_concat_length ..)]
        exact c.answer_lookingUp e call
      | answer i o => exact h.answer ha
      | drop i => exact h.drop ha
    | turn hr => exact ((ih ht).run hr).1

/-- `s.yields e i r a`: the result `r` of the call of task `i` carries the address `a` of `e`. -/
def yields (s : Course) (e : Endpoint) (i : TaskId) (r : Except Error Answer) (a : String) : Prop :=
  ∃ call, s.calls[i]? = some call ∧ call.Yields e r a

/-- `s.Returned e a`: some call has returned the address `a` of `e`. -/
def Returned (s : Course) (e : Endpoint) (a : String) : Prop :=
  ∃ i r, (i, r) ∈ s.machine.report.results ∧ s.yields e i r a

theorem Reachable.lookupInvariant_yields (h : Reachable c s) (e : Endpoint) :
    LookupInvariant e c.discovery.request (s.yields e) s.machine := by
  apply h.lookupInvariant e _
  intro i call hi
  funext r a
  simp [yields, hi]

/-- Events change no cache entry and send nothing; only turns do. -/
theorem Reachable.event_cache {ev : Event} {m : Machine (Except Error Answer)}
    (h : Reachable c s) (ha : s.machine.accept? (ev.onTasks c) = some m) (e : Endpoint) :
    m.cache = s.machine.cache ∧ m.report.asked e = s.machine.report.asked e := by
  have hc := h.consistent.1
  cases ev with
  | ask call =>
    obtain ⟨-, -, hcache, hreport⟩ := hc.start ha
    exact ⟨hcache, by rw [hreport]⟩
  | answer i o =>
    obtain ⟨stage, next, held, -, hch⟩ := hc.answer ha
    exact ⟨hch.cache, hch.asked.trans (List.append_nil _)⟩
  | drop i =>
    obtain ⟨t, -, -, hch⟩ := hc.drop ha
    exact ⟨hch.cache, hch.asked.trans (List.append_nil _)⟩

/-- A cached address is final along `Step`, and no request is sent for it. -/
theorem Reachable.kept {a : String} (h : Reachable c s) (ha : s.machine.cache.get e = some a)
    (hs : Relation.ReflTransGen (Step c) s s') :
    s'.machine.cache.get e = some a ∧ s'.machine.report.asked e = s.machine.report.asked e := by
  induction hs with
  | refl => exact ⟨ha, rfl⟩
  | @tail s₁ s₂ hs hstep ih =>
    obtain ⟨ha₁, hr₁⟩ := ih
    have h₁ : Reachable c s₁ := h.trans hs
    cases hstep with
    | event ev hev =>
      obtain ⟨hcache, hasked⟩ := h₁.event_cache hev e
      exact ⟨by rw [hcache, ha₁], hasked.trans hr₁⟩
    | turn hr =>
      obtain ⟨-, hl, -⟩ := (h₁.lookupInvariant_yields e).run hr
      exact ⟨hl.kept ha₁, (hl.silent ha₁).trans hr₁⟩

/-- An entry changes only from `none`, in the turn of a task that received a `Usable` outcome. -/
theorem Reachable.filled (h : Reachable c s) (hstep : Step c s s')
    (hne : s'.machine.cache.get e ≠ s.machine.cache.get e) :
    s.machine.cache.get e = none ∧ ∃ i p o a, s.machine.status? i = some (.ready p) ∧
      s' = ⟨s.calls, s.machine.run i p⟩ ∧ s'.machine.cache.get e = some a ∧
      Entry.answered i (Discovery.stage e) o ∈ s.machine.report.entries ∧ Usable e o a := by
  cases hstep with
  | event ev hev => exact absurd (by rw [(h.event_cache hev e).1]) hne
  | @turn i p hr =>
    obtain ⟨-, hl, -⟩ := (h.lookupInvariant_yields e).run hr
    have hn : s.machine.cache.get e = none := by
      cases hn : s.machine.cache.get e with
      | none => rfl
      | some a => exact absurd ((hl.kept hn).trans hn.symm) hne
    cases ha : (Machine.run i p s.machine).cache.get e with
    | none => exact absurd (ha.trans hn.symm) hne
    | some a =>
      obtain ⟨o, ho, hu⟩ := hl.filled hn ha
      exact ⟨hn, i, p, o, a, hr, rfl, rfl, hl.answers.mp ho, hu⟩

/-- **Address cache.** In every reachable course, for each endpoint `e`: at most one request is in
flight; a cached address is non-empty and comes from a response to the request of `e`; it is kept
and not asked for again, and changes only when a task that received it takes its turn; the lock
holder is ready or in flight; while the entry is empty, a task at the free lock, or in the critical
section without having asked, sends the request in its next turn; and all calls return one
address. -/
theorem address_cache (h : Reachable c s) (e : Endpoint) :
    (∀ i j, s.machine.InFlight e i → s.machine.InFlight e j → i = j) ∧
    (∀ a, s.machine.cache.get e = some a → a ≠ "" ∧ ∃ i r o, c.discovery.request = .ok r ∧
      (i, r) ∈ s.machine.report.asked e ∧
      Entry.answered i (Discovery.stage e) o ∈ s.machine.report.entries ∧ Usable e o a) ∧
    (∀ a s', s.machine.cache.get e = some a → Relation.ReflTransGen (Step c) s s' →
      s'.machine.cache.get e = some a ∧ s'.machine.report.asked e = s.machine.report.asked e) ∧
    (∀ s', Step c s s' → s'.machine.cache.get e ≠ s.machine.cache.get e →
      s.machine.cache.get e = none ∧ ∃ i p o a, s.machine.status? i = some (.ready p) ∧
        s' = ⟨s.calls, s.machine.run i p⟩ ∧ s'.machine.cache.get e = some a ∧
        Entry.answered i (Discovery.stage e) o ∈ s.machine.report.entries ∧ Usable e o a) ∧
    (∀ i k, (Lock.endpoint e, k) ∈ s.machine.heldBy i →
      s.machine.isReady i = true ∨ s.machine.InFlight e i) ∧
    (∀ r i p, c.discovery.request = .ok r → s.machine.cache.get e = none →
      s.machine.status? i = some (.ready p) →
      (∃ k, (Lock.endpoint e, k) ∈ s.machine.heldBy i) ∧
          (∀ r, (i, r) ∉ s.machine.report.asked e) ∨
        p.comesTo s.machine.cache = some (.endpoint e) ∧
          (∀ j k, (Lock.endpoint e, k) ∉ s.machine.heldBy j) →
      (s.machine.run i p).InFlight e i ∧ (i, r) ∈ (s.machine.run i p).report.asked e) ∧
    ∀ a b, s.Returned e a → s.Returned e b → a = b := by
  have hs := h.lookupInvariant_yields e
  refine ⟨?_, fun a ha => ⟨?_, hs.origin ha⟩, fun a s' => h.kept, fun s' => h.filled, ?_, ?_, ?_⟩
  · -- both hold the lock of the address
    intro i j hi hj
    obtain ⟨k, hk⟩ := hs.inFlight_held hi
    obtain ⟨k', hk'⟩ := hs.inFlight_held hj
    exact (hs.consistent.unique hk hk').1
  · obtain ⟨i, r, o, -, -, -, response, doc, -, -, -, hpick⟩ := hs.origin ha
    rintro rfl
    cases e <;> simp [Endpoint.pick] at hpick
  · intro i k hk
    exact hs.holder h.tidy hk
  · intro r i p hr hn hready hp
    obtain ⟨⟨st, held⟩, ht, rfl⟩ := Option.map_eq_some_iff.mp hready
    rw [heldBy_eq ht] at hp
    rcases hp with ⟨hheld, hasked⟩ | ⟨hcomes, hfree⟩
    · exact hs.fetches_of_held hr hn ht hheld hasked
    · exact hs.fetches_of_free hr hn ht hcomes hfree
  · -- both were known when they were returned, and what is known stays as it is
    rintro a b ⟨i, r, hr, ha⟩ ⟨j, r', hr', hb⟩
    have ha := hs.yielded hr ha
    rw [hs.yielded hr' hb] at ha
    exact (Option.some.inj ha).symm

/-- Two calls for `.token`: task 0 sends the request, task 1 waits for `Lock.endpoint .token`. -/
def twoPending : Course := play .sample [.ask .tokenUrl, .ask .tokenUrl] {}

/-- The response to task 0 arrives, and task 1 hits the cache. -/
def twoAnswered : Course :=
  play .sample
    [.answer 0 (.answered (.sample 200 (.object [("token_endpoint", .text "t")])))] twoPending

/-- `address_cache` on `twoPending` and `twoAnswered`: one request for two calls that return one
address. -/
theorem address_cache_sample :
    let s := twoPending
    let s' := twoAnswered
    Reachable .sample s ∧ Reachable .sample s' ∧ s.machine.InFlight .token 0 ∧
      ((s.machine.awaited? 1).any fun x => x.1 = .endpoint .token) = true ∧
      (∀ i j, s.machine.InFlight .token i → s.machine.InFlight .token j → i = j) ∧
      (s'.machine.report.asked .token).map Prod.fst = [0] ∧
      s'.machine.report.results = [(0, .ok (.address "t")), (1, .ok (.address "t"))] ∧
      s'.machine.cache.get .token = some "t" ∧
      ∀ s'', Relation.ReflTransGen (Step .sample) s' s'' →
        s''.machine.cache.get .token = some "t" ∧
          s''.machine.report.asked .token = s'.machine.report.asked .token := by
  intro s s'
  have h : Reachable .sample s := Reachable.play _ .refl
  have h' : Reachable .sample s' := Reachable.play _ h
  have hcache : s'.machine.cache.get .token = some "t" := by decide +kernel
  obtain ⟨hsingle, -⟩ := address_cache h .token
  obtain ⟨-, -, hkept, -⟩ := address_cache h' .token
  exact ⟨h, h', ⟨_, _, rfl⟩, by decide +kernel, hsingle, by decide +kernel, by decide +kernel,
    hcache,
    fun s'' => hkept "t" s'' hcache⟩

end Course

end TenantApps
