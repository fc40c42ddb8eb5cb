import TenantApps.Proofs.Creation.Replay
import TenantApps.Proofs.Progress.Liveness
import TenantApps.Proofs.Solo.Plain

/-!
# `TenantApps.Proofs.Solo.Service` — sequential use refines the lock-free specification

If each call is made when the one before is over, no task waits for a lock, since the holder would
be unfinished. So the task of a call does what `Procedure.run` does with its erasure.

The simulation relation is `Task.Heads`: running the rest of the task from its entries so far gives
the result and the session of the whole run. Actions and responses preserve it; in the final state
it is the equation of the two.

## Contents
- `Course.serve` and `Course.attend`, a client that serves calls one after the other.
- `Task.Heads`, the simulation relation.
- `Machine.Serving`, the invariant of a machine with one unfinished task, with `Serving.act`, `run`,
  `settle` and `answer`, **preservation** by every step.
- `Course.Served`, a finished call, with `Reachable.serve` for one call and `Reachable.attend` for a
  list of calls.
- `Course.attend_plainly`, the **main result**.
-/

namespace TenantApps

/-! ## Sequential use -/

/-- The report without its first `n` entries. -/
def Report.since {α : Type} (r : Report α) (n : Nat) : Report α := ⟨r.entries.drop n⟩

/-- The summary of a report. -/
def RunSummary.ofReport (r : Report (Except Error Answer)) (k : Cache) (os : Http.Script) :
    RunSummary :=
  ⟨r.results.map Prod.snd, r.requests.map Prod.snd, r.signals, k, os⟩

namespace Course

/-- **`serve i n os s`**: answers up to `n` requests of task `i` from `os`, and settles the machine
after each response. -/
def serve (i : TaskId) : Nat → Http.Script → Course → Http.Script × Course
  | 0, os, s => (os, s)
  | n + 1, os, s =>
    match s.machine.accept? (.answer i os.reply) with
    | some m => serve i n os.tail ⟨s.calls, m.settle m.turns⟩
    | none => (os, s)

/-- **`attend c agenda s`**: serves the calls of `agenda`, each when the one before is over; returns
their summaries. -/
def attend (c : Client) : List (Call × Http.Script) → Course → List RunSummary × Course
  | [], s => ([], s)
  | (call, os) :: rest, s =>
    let served := serve s.calls.length call.budget os (play c [.ask call] s)
    let happened := served.2.machine.report.since s.machine.report.entries.length
    let later := attend c rest served.2
    (.ofReport happened served.2.machine.cache served.1 :: later.1, later.2)

end Course

/-! ## The simulation relation -/

section

variable {α : Type} {i : TaskId} {os : Http.Script} {k k' : Cache} {n : Nat}
  {xs ys : List (Entry α)} {x : α × Session Http.Script} {t : Task α} {p : Procedure α}
  {held : List (Lock × MutexId)}

/-- The session of a task with the entries `xs`. -/
def Session.ofEntries (os : Http.Script) (k : Cache) (xs : List (Entry α)) : Session Http.Script :=
  ⟨os, k, (Report.requests ⟨xs⟩).map Prod.snd, Report.signals ⟨xs⟩⟩

/-- **`t.Heads os k n xs x`**: after the entries `xs` and `n` replies, running the rest of `t` by
itself gives `x`, and `t` waits for no lock. -/
def Task.Heads (os : Http.Script) (k : Cache) (n : Nat) (xs : List (Entry α))
    (x : α × Session Http.Script) (t : Task α) : Prop :=
  match t.status with
  | .ready p => p.run Http.Script.exchange (.ofEntries os k xs) = x ∧
    Report.results ⟨xs⟩ = [] ∧ (Report.requests ⟨xs⟩).length = n
  | .awaitingAnswer _ next =>
    (next os.reply).run Http.Script.exchange (.ofEntries os.tail k xs) = x ∧
      Report.results ⟨xs⟩ = [] ∧ (Report.requests ⟨xs⟩).length = n + 1
  | .finished => x.2 = .ofEntries os k xs ∧ (Report.results ⟨xs⟩).map Prod.snd = [x.1]
  | .awaitingLock .. | .dropped => False

theorem Session.ofEntries_sent (stage : Stage) (r : Http.Request) :
    ofEntries os k (xs ++ [.sent i stage r]) =
      { ofEntries os k xs with requests := (ofEntries os k xs).requests ++ [r] } := by
  simp [ofEntries, Report.requests, Report.signals]

theorem Session.ofEntries_answered (stage : Stage) (o : Http.Outcome) :
    ofEntries os k (xs ++ [.answered i stage o]) = ofEntries os k xs := by
  simp [ofEntries, Report.requests, Report.signals]

theorem Session.ofEntries_signalled (y : Telemetry.Signal) :
    ofEntries os k (xs ++ [.signalled i y]) =
      { ofEntries os k xs with signals := (ofEntries os k xs).signals ++ [y] } := by
  simp [ofEntries, Report.requests, Report.signals]

theorem Session.ofEntries_ended (a : α) :
    ofEntries os k (xs ++ [.ended i a]) = ofEntries os k xs := by
  simp [ofEntries, Report.requests, Report.signals]

theorem Report.results_append (xs ys : List (Entry α)) :
    Report.results ⟨xs ++ ys⟩ = Report.results ⟨xs⟩ ++ Report.results ⟨ys⟩ :=
  List.filterMap_append

theorem Report.length_requests_append (xs ys : List (Entry α)) :
    (Report.requests ⟨xs ++ ys⟩).length =
      (Report.requests ⟨xs⟩).length + (Report.requests ⟨ys⟩).length := by
  rw [Report.requests, List.filterMap_append, List.length_append]
  rfl

/-- Preservation by one action that does not wait for a lock. -/
theorem Task.Heads.act (h : (⟨.ready p, held⟩ : Task α).Heads os k n xs x)
    (ha : Machine.Acts k i held p t ys k') (hw : t.awaited? = none) :
    t.Heads os k' n (xs ++ ys) x := by
  obtain ⟨hrun, hresults, hsent⟩ := h
  have hresults' : Report.results ⟨xs ++ ys⟩ = Report.results ⟨ys⟩ := by
    rw [Report.results_append, hresults, List.nil_append]
  have hsent' := Report.length_requests_append xs ys
  rw [hsent] at hsent'
  cases ha with
  | done a =>
    cases hrun
    exact ⟨(Session.ofEntries_ended a).symm, congrArg (List.map Prod.snd) hresults'⟩
  | send stage r next =>
    rw [Procedure.run, Http.Script.exchange_eq] at hrun
    exact ⟨by rwa [Session.ofEntries_sent], hresults', hsent'⟩
  | take l j next | release l next | consult e next | remember e a next =>
    rw [List.append_nil]
    exact ⟨hrun, hresults, hsent⟩
  | wait l j next => cases hw
  | emit y next => exact ⟨by rwa [Session.ofEntries_signalled], hresults', hsent'⟩

/-- Preservation by the next reply. -/
theorem Task.Heads.answer {stage : Stage} {next : Http.Outcome → Procedure α}
    (h : (⟨.awaitingAnswer stage next, held⟩ : Task α).Heads os k n xs x) :
    (⟨.ready (next os.reply), held⟩ : Task α).Heads os.tail k (n + 1)
      (xs ++ [.answered i stage os.reply]) x := by
  obtain ⟨hrun, hresults, hsent⟩ := h
  refine ⟨by rwa [Session.ofEntries_answered], ?_, ?_⟩
  · rw [Report.results_append, hresults]
    rfl
  · rw [Report.length_requests_append, hsent]
    rfl

end

/-! ## The invariant -/

namespace Machine

variable {α : Type} {m m' : Machine α} {i j : TaskId} {os : Http.Script} {n : Nat}
  {before xs : List (Entry α)} {x : α × Session Http.Script} {t : Task α} {p : Procedure α}
  {c : Cache}

/-- Every other task is over. -/
def Alone (m : Machine α) (i : TaskId) : Prop := ∀ j, j ≠ i → ¬m.Unfinished j

/-- A change preserves `Alone`: a task that waits, or is granted a lock, is unfinished. -/
theorem Alone.change (h : m.Alone i) (hch : Change m i t xs c m') : m'.Alone i := by
  rintro j hj ⟨u, hu, ho⟩
  obtain ⟨u', hu', rfl | ⟨g, hw, rfl⟩⟩ := hch.other hj hu
  · exact h j hj ⟨u, hu', ho⟩
  · obtain ⟨next, he⟩ := Task.eq_of_awaited? hw
    exact h j hj ⟨u', hu', by rw [he]; rfl⟩

/-- A task that is alone waits for no lock, by the lock order: nobody else holds one. -/
theorem Alone.awaited?_eq_none {price : Nat} {w : TaskId → Nat} (h : m.Alone i)
    (hw : m.Allotted price w) (htidy : m.Tidy) : m.awaited? i = none := by
  cases hawaited : m.awaited? i with
  | none => rfl
  | some g =>
    obtain ⟨l, k⟩ := g
    obtain ⟨j, hj⟩ := hw.consistent.holder hawaited
    by_cases hji : j = i
    · subst hji
      exact absurd (hw.rank_lt hawaited hj) (Nat.lt_irrefl _)
    · exact absurd (hw.unfinished htidy hj) (h j hji)

/-- **`Serving i before os n x m`**: task `i` is alone and heads for `x`; `before` are the entries
at its start. -/
structure Serving (i : TaskId) (before : List (Entry α)) (os : Http.Script) (n : Nat)
    (x : α × Session Http.Script) (m : Machine α) : Prop where
  allotted : ∃ w, m.Allotted 5 w
  tidy : m.Tidy
  alone : m.Alone i
  heads : ∃ t xs, m.tasks[i]? = some t ∧ m.report.entries = before ++ xs ∧
    (∀ y ∈ xs, y.task = i) ∧ t.Heads os m.cache n xs x

theorem Serving.act {held : List (Lock × MutexId)} (h : m.Serving i before os n x)
    (ht : m.tasks[i]? = some ⟨.ready p, held⟩) : (m.act i p).Serving i before os n x := by
  obtain ⟨⟨w, hw⟩, htidy, halone, t', xs, ht', hxs, htask, hheads⟩ := h
  cases ht.symm.trans ht'
  obtain ⟨t, ys, c, ha, hch⟩ := hw.consistent.act ht
  have hw' := hw.change hch ((hw.tasks ht).act ha)
  have htidy' := hch.tidy htidy (by cases ha <;> nofun)
  have halone' := halone.change hch
  have hawaited : t.awaited? = none := by
    rw [← awaited?_eq hch.own]
    exact halone'.awaited?_eq_none hw' htidy'
  refine ⟨⟨_, hw'⟩, htidy', halone', t, xs ++ ys, hch.own, ?_, ?_, ?_⟩
  · rw [hch.report, hxs, List.append_assoc]
  · intro y hy
    exact (List.mem_append.mp hy).elim (htask y) (ha.task y)
  · rw [hch.cache]
    exact hheads.act ha hawaited

theorem Serving.run (h : m.Serving i before os n x) (ht : m.status? i = some (.ready p)) :
    (Machine.run i p m).Serving i before os n x := by
  obtain ⟨⟨st, held⟩, ht, rfl⟩ := Option.map_eq_some_iff.mp ht
  obtain ⟨w, hw⟩ := h.allotted
  exact (hw.consistent.run i (fun _ ht h => Serving.act h ht) p ht h).2.2

/-- Only task `i` has turns. -/
theorem Serving.settle (turns : Nat) (h : m.Serving i before os n x) :
    (m.settle turns).Serving i before os n x := by
  induction turns generalizing m with
  | zero => exact h
  | succ turns ih =>
    rw [Machine.settle]
    cases hn : m.nextReady? with
    | none => exact h
    | some jp =>
      obtain ⟨j, p⟩ := jp
      have ht := nextReady?_status (m := m) hn
      have hj : j = i := by
        by_contra hne
        obtain ⟨u, hu, hst⟩ := Option.map_eq_some_iff.mp ht
        exact h.alone j hne ⟨u, hu, by rw [hst]; rfl⟩
      subst hj
      exact ih (h.run ht)

/-- `Machine.settle` with `Machine.turns` stops the task. -/
theorem Serving.isReady_settle (h : m.Serving i before os n x) :
    (m.settle m.turns).isReady i = false := by
  obtain ⟨w, hw⟩ := h.allotted
  exact hw.free.settle _ (Nat.le_of_eq (Course.sum_four _)) i

theorem Serving.answer (h : m.Serving i before os n x)
    (ha : m.accept? (.answer i os.reply) = some m') :
    m'.Serving i before os.tail (n + 1) x := by
  obtain ⟨⟨w, hw⟩, htidy, halone, t, xs, ht, hxs, htask, hheads⟩ := h
  obtain ⟨stage, next, held, ht', hch⟩ := hw.consistent.answer ha
  cases ht.symm.trans ht'
  refine ⟨⟨_, (hw.answer (Nat.le_refl _) ha).2⟩, hch.tidy htidy nofun, halone.change hch,
    _, xs ++ [.answered i stage os.reply], hch.own, ?_, ?_, ?_⟩
  · rw [hch.report, hxs, List.append_assoc]
  · intro y hy
    rcases List.mem_append.mp hy with hy | hy
    · exact htask y hy
    · rw [List.mem_singleton.mp hy]
      rfl
  · rw [hch.cache]
    exact hheads.answer

theorem requests_of_task (h : ∀ y ∈ xs, y.task = i) :
    (Report.requests ⟨xs⟩).filter (·.1 = i) = Report.requests ⟨xs⟩ := by
  refine List.filter_eq_self.mpr fun q hq => decide_eq_true ?_
  obtain ⟨stage, hsent⟩ := Report.mem_requests.mp hq
  exact h _ hsent

/-- A stopped task is finished with the result of `x`, or awaits the response to one more
request. -/
theorem Serving.ended_or_waits (h : m.Serving i before os n x) (hrest : m.isReady i = false) :
    (m.accept? (.answer i os.reply) = none ∧ (∀ j, ¬m.Unfinished j) ∧
      ∃ xs, m.report.entries = before ++ xs ∧ (Report.results ⟨xs⟩).map Prod.snd = [x.1] ∧
        x.2 = .ofEntries os m.cache xs) ∨
    ((∃ m', m.accept? (.answer i os.reply) = some m') ∧
      n < (m.report.requests.filter (·.1 = i)).length) := by
  obtain ⟨-, -, halone, ⟨st, held⟩, xs, ht, hxs, htask, hheads⟩ := h
  rw [isReady_of ht] at hrest
  cases st with
  | ready p => cases hrest
  | awaitingAnswer stage next =>
    refine .inr ⟨?_, ?_⟩
    · rw [accept?, status?, ht]
      exact ⟨_, rfl⟩
    · obtain ⟨-, -, hsent⟩ := hheads
      rw [Report.requests, hxs, List.filterMap_append, List.filter_append, List.length_append,
        show List.filterMap _ xs = Report.requests ⟨xs⟩ from rfl, requests_of_task htask, hsent]
      omega
  | awaitingLock l k next | dropped => exact hheads.elim
  | finished =>
    refine .inl ⟨?_, fun j => ?_, xs, hxs, hheads.2, hheads.1⟩
    · rw [accept?, status?, ht]
      rfl
    · by_cases hj : j = i
      · subst hj
        rintro ⟨u, hu, ho⟩
        cases ht.symm.trans hu
        cases ho
      · exact halone j hj

end Machine

/-! ## Over courses -/

namespace Course

open Machine

variable {c : Client} {s : Course} {i : TaskId} {call : Call} {os : Http.Script}
  {before : List (Entry (Except Error Answer))} {x : Except Error Answer × Session Http.Script}

/-- No task is unfinished. -/
def Idle (s : Course) : Prop := ∀ i, ¬s.machine.Unfinished i

/-- **`Served`**: the call is over, and its entries make up the run `x`. -/
structure Served (c : Client) (before : List (Entry (Except Error Answer)))
    (x : Except Error Answer × Session Http.Script) (os : Http.Script) (s : Course) : Prop where
  reachable : Reachable c s
  idle : s.Idle
  happened : ∃ xs, s.machine.report.entries = before ++ xs ∧
    (Report.results ⟨xs⟩).map Prod.snd = [x.1] ∧ x.2 = .ofEntries os s.machine.cache xs

/-- `Call.budget` bounds the number of replies that are needed: induction on `n`. -/
theorem served_of_serving {n k : Nat} (h : s.machine.Serving i before os k x)
    (hs : Reachable c s) (hrest : s.machine.isReady i = false) (hi : s.calls[i]? = some call)
    (hn : call.budget ≤ n + k) : Served c before x (serve i n os s).1 (serve i n os s).2 := by
  induction n generalizing os k s with
  | zero =>
    obtain ⟨-, hidle, hhappened⟩ | ⟨-, hsent⟩ := h.ended_or_waits hrest
    · exact ⟨hs, hidle, hhappened⟩
    · have hle := hs.requests_le hi
      omega
  | succ n ih =>
    rw [serve]
    obtain ⟨hnone, hidle, hhappened⟩ | ⟨⟨m, ha⟩, -⟩ := h.ended_or_waits hrest
    · rw [hnone]
      exact ⟨hs, hidle, hhappened⟩
    · rw [ha]
      have hm : Reachable c ⟨s.calls ++ [], m.following []⟩ := hs.tail (.event (.answer i _) ha)
      rw [List.append_nil] at hm
      have hanswer := h.answer ha
      exact ih (hanswer.settle _) (hm.settle m.turns) hanswer.isReady_settle hi (by omega)

/-- **One call** in an idle course is `Served` with the run of its erasure. -/
theorem Reachable.serve (h : Reachable c s) (hidle : s.Idle) (call : Call) (os : Http.Script) :
    let x := Procedure.run Http.Script.exchange (c.body call)
      { transport := os, cache := s.machine.cache }
    let served := Course.serve s.calls.length call.budget os (Course.play c [.ask call] s)
    Served c s.machine.report.entries x served.1 served.2 := by
  intro x served
  let m : Machine (Except Error Answer) :=
    { s.machine with tasks := s.machine.tasks ++ [⟨.ready (c.answer call), []⟩] }
  have ha : s.machine.accept? (.start (c.answer call)) = some m := rfl
  have hm : Reachable c ⟨s.calls ++ [call], m⟩ := h.tail (.event (.ask call) ha)
  have hlength := h.consistent.2
  have hown : m.tasks[s.calls.length]? = some ⟨.ready (c.answer call), []⟩ := by
    rw [hlength]
    exact List.getElem?_concat_length ..
  have hserving : m.Serving s.calls.length s.machine.report.entries os 0 x := by
    refine ⟨hm.allotted, hm.tidy, ?_, _, [], hown, (List.append_nil _).symm,
      List.forall_mem_nil _, ?_, rfl, rfl⟩
    · rintro j hj ⟨u, hu, ho⟩
      rw [hlength] at hj
      rw [show m.tasks[j]? = _ from getElem?_start (c.answer call) j, if_neg hj] at hu
      exact hidle j ⟨u, hu, ho⟩
    · exact (Procedure.run_unlocked _ _ _).symm
  have hcall : (s.calls ++ [call])[s.calls.length]? = some call := List.getElem?_concat_length ..
  have hstarted : Reachable c ⟨s.calls ++ [call], m.following []⟩ := hm
  have hsettled : Reachable c ⟨s.calls ++ [call], m.settle m.turns⟩ := hstarted.settle m.turns
  exact served_of_serving (s := ⟨s.calls ++ [call], m.settle m.turns⟩) (hserving.settle _)
    hsettled hserving.isReady_settle hcall (Nat.le_add_right _ _)

theorem Served.runSummary (h : Served c before x os s) :
    RunSummary.ofReport (s.machine.report.since before.length) s.machine.cache os = .ofRun x := by
  obtain ⟨-, -, xs, hxs, hresult, hx⟩ := h
  have hsince : s.machine.report.since before.length = ⟨xs⟩ := by
    rw [Report.since, hxs, List.drop_left]
  rw [hsince, RunSummary.ofReport, RunSummary.ofRun, hresult, hx]
  rfl

/-- **A list of calls** has the summaries of `Client.plainly`: induction on the agenda. -/
theorem Reachable.attend (h : Reachable c s) (hidle : s.Idle)
    (agenda : List (Call × Http.Script)) :
    (Course.attend c agenda s).1 = c.plainly agenda s.machine.cache ∧
      Reachable c (Course.attend c agenda s).2 ∧ (Course.attend c agenda s).2.Idle := by
  induction agenda generalizing s with
  | nil => exact ⟨rfl, h, hidle⟩
  | cons y agenda ih =>
    obtain ⟨call, os⟩ := y
    have hserved := h.serve hidle call os
    obtain ⟨hlater, hreachable, hidle'⟩ := ih hserved.reachable hserved.idle
    refine ⟨?_, hreachable, hidle'⟩
    obtain ⟨xs, -, -, hx⟩ := hserved.happened
    rw [Course.attend, Client.plainly]
    dsimp only
    rw [hserved.runSummary, hlater, hx]
    rfl

theorem idle_init : Idle {} := fun _ ⟨_, ht, _⟩ => nomatch ht

/-- **Sequential use refines the lock-free specification.** Served one after the other, with any
replies and for either value of `serializeByName`, calls have the summaries of `Client.plainly`.
(The call `.settings` is excluded, since it returns `serializeByName`.) -/
theorem attend_plainly (c : Client) (b : Bool) {agenda : List (Call × Http.Script)}
    (h : ∀ x ∈ agenda, x.1 ≠ .settings) :
    let served := attend (c.serializing b) agenda {}
    served.1 = c.plainly agenda {} ∧ Reachable (c.serializing b) served.2 ∧ served.2.Idle := by
  intro served
  obtain ⟨hsummaries, hs⟩ := Reachable.attend (c := c.serializing b) .refl idle_init agenda
  exact ⟨hsummaries.trans (c.plainly_serializing b h {}), hs⟩

/-- `attend_plainly` on a creation that fails at its second request and a deletion of no name. -/
theorem attend_plainly_sample :
    let agenda : List (Call × Http.Script) :=
      [(.create "a", [.answered { status := 404 }, .answered { status := 500 }]), (.delete "", [])]
    let served := attend (Client.sample.serializing false) agenda {}
    (∀ x ∈ agenda, x.1 ≠ .settings) ∧
      (Client.sample.plainly agenda {}).map (·.requests.length) = [2, 0] ∧
      served.1 = Client.sample.plainly agenda {} ∧
      Reachable (Client.sample.serializing false) served.2 ∧ served.2.Idle := by
  intro agenda served
  have h : ∀ x ∈ agenda, x.1 ≠ .settings := by
    intro x hx
    rcases List.mem_cons.mp hx with rfl | hx
    · exact nofun
    · rw [List.mem_singleton.mp hx]
      exact nofun
  exact ⟨h, by decide, attend_plainly Client.sample false h⟩

end Course

end TenantApps
