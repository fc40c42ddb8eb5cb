import Mathlib.Logic.Relation
import TenantApps.Proofs.Discipline
import TenantApps.Proofs.Tasks.Turn
import TenantApps.Tenant.Client

/-!
# `TenantApps.Proofs.Tasks.Course` — the transition system of a client

A `Course` is the state of a client together with the calls made so far. Its steps are events
(calls, responses, cancellations) and turns of ready tasks, in any order. The scheduler of the
client, which gives a turn to every ready task after each event, is one such order, so a property of
all reachable courses holds of every client.

## Contents
- `Course`, `Course.Step` and `Course.Reachable`.
- `Course.play`, the course of a list of events.
- `Course.Reachable.machineStep`: **a step of the client's machine is a run of the transition
  system**.
- `Task.Follows`, a task whose rest follows a discipline.
-/

namespace TenantApps

/-- **`Course`**: the state of the transition system. -/
structure Course where
  /-- Call `i` is that of task `i`. -/
  calls : List Call := []
  machine : Machine (Except Error Answer) := {}

namespace Course

/-- **Events** of a client. -/
inductive Event
  | ask (call : Call)
  /-- The outcome of the request of task `i`. -/
  | answer (i : TaskId) (o : Http.Outcome)
  /-- Task `i` is cancelled. -/
  | drop (i : TaskId)

def Event.calls : Event → List Call
  | ask call => [call]
  | answer _ _ | drop _ => []

/-- The event of the machine. -/
def Event.onTasks (c : Client) : Event → Machine.Event (Except Error Answer)
  | ask call => .start (c.answer call)
  | answer i o => .answer i o
  | drop i => .drop i

/-- **Step relation** of a client. -/
inductive Step (c : Client) : Course → Course → Prop
  | event {s : Course} {m : Machine (Except Error Answer)} (e : Event)
    (h : s.machine.accept? (e.onTasks c) = some m) : Step c s ⟨s.calls ++ e.calls, m⟩
  | turn {s : Course} {i : TaskId} {p : Procedure (Except Error Answer)}
    (h : s.machine.status? i = some (.ready p)) : Step c s ⟨s.calls, s.machine.run i p⟩

/-- **Reachable courses** of a client, from the empty one. -/
def Reachable (c : Client) (s : Course) : Prop := Relation.ReflTransGen (Step c) {} s

/-- Two calls were made, and the first one has had its turn. -/
def begun (c : Client) (call call' : Call) : Course where
  calls := [call, call']
  machine := Machine.run 0 (c.answer call) { tasks := [⟨.ready (c.answer call), []⟩,
    ⟨.ready (c.answer call'), []⟩] }

theorem reachable_begun (c : Client) (call call' : Call) : Reachable c (begun c call call') := by
  have h₁ : Step c {} ⟨[call], { tasks := [⟨.ready (c.answer call), []⟩] }⟩ :=
    .event (.ask call) rfl
  have h₂ : Step c ⟨[call], { tasks := [⟨.ready (c.answer call), []⟩] }⟩ ⟨[call, call'],
      { tasks := [⟨.ready (c.answer call), []⟩, ⟨.ready (c.answer call'), []⟩] }⟩ :=
    .event (.ask call') rfl
  have h₃ : Step c ⟨[call, call'],
      { tasks := [⟨.ready (c.answer call), []⟩, ⟨.ready (c.answer call'), []⟩] }⟩
      (begun c call call') := .turn rfl
  exact ((Relation.ReflTransGen.single h₁).tail h₂).tail h₃

end Course

/-- **`Tidy`**: dropped tasks hold no lock. -/
def Machine.Tidy {α : Type} (m : Machine α) : Prop :=
  ∀ (i : TaskId) (t : Task α), m.tasks[i]? = some t → t.status = .dropped → t.held = []

theorem Machine.Change.tidy {α : Type} {m m' : Machine α} {i : TaskId} {t : Task α}
    {xs : List (Entry α)} {k : Cache} (h : Change m i t xs k m') (hm : m.Tidy)
    (ht : t.status = .dropped → t.held = []) : m'.Tidy := by
  intro j u hu
  refine h.tasks (P := fun _ u => u.status = .dropped → u.held = [])
    (R := fun _ u => u.status = .dropped → u.held = []) (hm _ _) ht
    (fun _ _ h => h) (fun {j u g} _ _ _ hw hd => ?_) hu
  -- whoever waits for a lock is not dropped
  obtain ⟨next, he⟩ := Task.eq_of_awaited? hw
  rw [he] at hd
  cases hd

namespace Course

open Machine

/-- Every reachable course is `Consistent`, with one task for each call. -/
theorem Reachable.consistent {c : Client} {s : Course} (h : Reachable c s) :
    s.machine.Consistent ∧ s.calls.length = s.machine.tasks.length := by
  induction h with
  | refl => exact ⟨consistent_init, rfl⟩
  | @tail s s' _ hstep ih =>
    obtain ⟨hc, hl⟩ := ih
    cases hstep with
    | event e ha =>
      cases e with
      | ask call =>
        obtain ⟨hc', htasks, -, -⟩ := hc.start ha
        exact ⟨hc', by rw [htasks, List.length_append, List.length_append, hl]; rfl⟩
      | answer i o =>
        obtain ⟨stage, next, held, -, hch⟩ := hc.answer ha
        exact ⟨hch.consistent, by rw [Event.calls, List.append_nil, hl, hch.length]⟩
      | drop i =>
        obtain ⟨t, -, -, hch⟩ := hc.drop ha
        exact ⟨hch.consistent, by rw [Event.calls, List.append_nil, hl, hch.length]⟩
    | @turn i p ht =>
      obtain ⟨⟨st, held⟩, ht, rfl⟩ := Option.map_eq_some_iff.mp ht
      obtain ⟨hc', -, hl'⟩ := hc.run (P := fun m => s.calls.length = m.tasks.length) i
        (fun hc ht h => by
          obtain ⟨t, xs, c, -, hch⟩ := hc.act ht
          rw [h, hch.length]) p ht hl
      exact ⟨hc', hl'⟩

/-- An event adds neither requests nor results; only turns do. -/
theorem accept?_report {c : Client} {s : Course} {e : Event} {m : Machine (Except Error Answer)}
    (hc : s.machine.Consistent) (h : s.machine.accept? (e.onTasks c) = some m) :
    m.report.requests = s.machine.report.requests ∧
      m.report.results = s.machine.report.results := by
  cases e with
  | ask call =>
    obtain ⟨-, -, -, hreport⟩ := hc.start h
    rw [hreport]
    exact ⟨rfl, rfl⟩
  | answer i o =>
    obtain ⟨stage, next, held, -, hch⟩ := hc.answer h
    exact ⟨hch.requests.trans (List.append_nil _), hch.results.trans (List.append_nil _)⟩
  | drop i =>
    obtain ⟨t, -, -, hch⟩ := hc.drop h
    exact ⟨hch.requests.trans (List.append_nil _), hch.results.trans (List.append_nil _)⟩

/-- Every reachable course is `Tidy`. -/
theorem Reachable.tidy {c : Client} {s : Course} (h : Reachable c s) : s.machine.Tidy := by
  induction h with
  | refl =>
    intro i t ht
    cases ht
  | @tail s s' hs hstep ih =>
    have hc := (show Reachable c s from hs).consistent.1
    cases hstep with
    | event e ha =>
      cases e with
      | ask call =>
        obtain ⟨-, htasks, -, -⟩ := hc.start ha
        intro j t htj hd
        rw [htasks, getElem?_start] at htj
        split at htj
        · cases htj
          cases hd
        · exact ih j t htj hd
      | answer i o =>
        obtain ⟨stage, next, held, -, hch⟩ := hc.answer ha
        exact hch.tidy ih nofun
      | drop i =>
        obtain ⟨t, -, -, hch⟩ := hc.drop ha
        exact hch.tidy ih fun _ => rfl
    | @turn i p ht =>
      obtain ⟨⟨st, held⟩, ht, rfl⟩ := Option.map_eq_some_iff.mp ht
      refine (hc.run (P := Machine.Tidy) i (fun hc ht hm => ?_) p ht ih).2.2
      obtain ⟨t, xs, c, ha, hch⟩ := hc.act ht
      exact hch.tidy hm (by cases ha <;> nofun)

end Course

/-! ## The client's machine -/

namespace Machine

variable {α : Type}

/-- `m` with the entries `xs` in front of its report. -/
def following (xs : List (Entry α)) (m : Machine α) : Machine α :=
  { m with report.entries := xs ++ m.report.entries }

variable {xs : List (Entry α)} {m : Machine α} {i : TaskId} {l : Lock}

theorem setStatus_following (s : Status α) :
    (m.following xs).setStatus i s = (m.setStatus i s).following xs := rfl

theorem note_following (x : Entry α) :
    (m.following xs).note x = (m.note x).following xs := by
  simp [note, following]

theorem giveBack_following (h : Lock × MutexId) :
    (m.following xs).giveBack i h = (m.giveBack i h).following xs := by
  simp only [giveBack, following]
  split <;> rfl

theorem release_following : (m.following xs).release i l = (m.release i l).following xs := by
  rw [release, release, show (m.following xs).tasks = m.tasks from rfl]
  split
  · exact giveBack_following _
  · rfl

theorem act_following (p : Procedure α) :
    (m.following xs).act i p = (m.act i p).following xs := by
  cases p with
  | done a => rw [act, setStatus_following, note_following]; rfl
  | send stage r next => rw [act, setStatus_following, note_following]; rfl
  | acquire l next => rfl
  | release l next => rw [act, release_following, setStatus_following]; rfl
  | consult e next => rfl
  | remember e a next => rfl
  | emit s next => rw [act, setStatus_following, note_following]; rfl

theorem run_following (p : Procedure α) (m : Machine α) :
    run i p (m.following xs) = (run i p m).following xs := by
  induction p generalizing m with
  | done a => exact act_following _
  | send stage r next => exact act_following _
  | acquire l next ih =>
    simp only [run, act_following]
    rw [show ((m.act i (.acquire l next)).following xs).isReady i =
      (m.act i (.acquire l next)).isReady i from rfl]
    split
    · exact ih _
    · rfl
  | release l next ih => rw [run, act_following, ih]; rfl
  | consult e next ih => rw [run, act_following, ih]; rfl
  | remember e a next ih => rw [run, act_following, ih]; rfl
  | emit s next ih => rw [run, act_following, ih]; rfl

theorem requests_following :
    (m.following xs).report.requests = Report.requests ⟨xs⟩ ++ m.report.requests :=
  List.filterMap_append

/-- A turn only appends requests. -/
theorem run_requests (i : TaskId) (p : Procedure α) (m : Machine α) :
    ∃ rs, (run i p m).report.requests = m.report.requests ++ rs := by
  have hm : m = ({ m with report := {} } : Machine α).following m.report.entries := by
    simp [following]
  refine ⟨(run i p { m with report := {} }).report.requests, ?_⟩
  conv_lhs => rw [hm, run_following, requests_following]

/-- `Machine.settle` only appends requests. -/
theorem settle_requests (turns : Nat) (m : Machine α) :
    ∃ rs, (m.settle turns).report.requests = m.report.requests ++ rs := by
  induction turns generalizing m with
  | zero => exact ⟨[], (List.append_nil _).symm⟩
  | succ turns ih =>
    rw [settle]
    cases m.nextReady? with
    | none => exact ⟨[], (List.append_nil _).symm⟩
    | some ip =>
      obtain ⟨rs₁, h₁⟩ := run_requests ip.1 ip.2 m
      obtain ⟨rs₂, h₂⟩ := ih (run ip.1 ip.2 m)
      exact ⟨rs₁ ++ rs₂, by rw [h₂, h₁, List.append_assoc]⟩

theorem accept?_following (e : Event α) :
    (m.following xs).accept? e = (m.accept? e).map (following xs) := by
  cases e with
  | start p => rfl
  | answer i o =>
    rw [accept?, accept?, show (m.following xs).status? i = m.status? i from rfl]
    split
    · rw [setStatus_following, note_following]
      rfl
    · rfl
  | drop i =>
    have hf : ∀ (held : List (Lock × MutexId)) (m : Machine α),
        held.foldl (fun m h => m.giveBack i h) (m.following xs) =
          (held.foldl (fun m h => m.giveBack i h) m).following xs := by
      intro held
      induction held with
      | nil => exact fun m => rfl
      | cons h held ih =>
        intro m
        rw [List.foldl_cons, giveBack_following, ih, List.foldl_cons]
    have hl : ∀ s, (m.following xs).leave i s = (m.leave i s).following xs := by
      intro s
      cases s <;> rfl
    rw [accept?, accept?, show (m.following xs).tasks = m.tasks from rfl]
    cases m.tasks[i]? with
    | none => rfl
    | some t =>
      simp only [cancel, hl, hf]
      split <;> rfl

theorem nextReady?_status {p : Procedure α} (h : m.nextReady? = some (i, p)) :
    m.status? i = some (.ready p) := by
  obtain ⟨⟨t, j⟩, hmem, hp⟩ := List.exists_of_findSome?_eq_some h
  rw [Option.map_eq_some_iff] at hp
  obtain ⟨q, hq, he⟩ := hp
  cases he
  have ht : m.tasks[i]? = some t := by simpa using List.mem_zipIdx_iff_getElem?.mp hmem
  obtain ⟨s, held⟩ := t
  cases s with
  | ready q' =>
    cases hq
    rw [status?, ht]
    rfl
  | awaitingAnswer stage next | awaitingLock l k next | finished | dropped => cases hq

end Machine

namespace Course

open Machine

variable {c : Client} {s : Course} {xs : List (Entry (Except Error Answer))}

theorem Reachable.settle {m : Machine (Except Error Answer)} (turns : Nat) {calls : List Call}
    (h : Reachable c ⟨calls, m.following xs⟩) :
    Reachable c ⟨calls, (m.settle turns).following xs⟩ := by
  induction turns generalizing m with
  | zero => exact h
  | succ turns ih =>
    rw [Machine.settle]
    cases hr : m.nextReady? with
    | none => exact h
    | some ip =>
      obtain ⟨i, p⟩ := ip
      refine ih ?_
      rw [← run_following]
      exact h.tail (.turn (nextReady?_status (m := m) hr))

/-- **`play c es s`**: the events `es`, each followed by all turns it enables; events that are not
accepted are skipped. -/
def play (c : Client) : List Event → Course → Course
  | [], s => s
  | e :: es, s =>
    match s.machine.accept? (e.onTasks c) with
    | some m => play c es ⟨s.calls ++ e.calls, m.settle m.turns⟩
    | none => play c es s

theorem Reachable.play (es : List Event) (h : Reachable c s) : Reachable c (play c es s) := by
  induction es generalizing s with
  | nil => exact h
  | cons e es ih =>
    rw [Course.play]
    cases ha : s.machine.accept? (e.onTasks c) with
    | none => exact ih h
    | some m =>
      have hm : Reachable c ⟨s.calls ++ e.calls, m.following []⟩ := h.tail (.event e ha)
      exact ih (hm.settle m.turns)

/-- `play` of one event only appends requests. -/
theorem Reachable.play_requests (h : Reachable c s) (e : Event) : ∃ rs,
    (Course.play c [e] s).machine.report.requests = s.machine.report.requests ++ rs := by
  rw [Course.play]
  cases ha : s.machine.accept? (e.onTasks c) with
  | none => exact ⟨[], (List.append_nil _).symm⟩
  | some m =>
    obtain ⟨rs, hrs⟩ := m.settle_requests m.turns
    exact ⟨rs, hrs.trans (by rw [(accept?_report h.consistent.1 ha).1])⟩

/-- **A step of the machine is a run of the transition system**, up to the entries before it. -/
theorem Reachable.machineStep {m : Machine (Except Error Answer)} {calls : List Call}
    (h : Reachable c ⟨calls, m.following xs⟩) (e : Event) : ∃ before,
      Reachable c ⟨calls ++ e.calls, (m.step (e.onTasks c)).2.following before⟩ := by
  let m₀ : Machine (Except Error Answer) := { m with report := {} }
  have hm : m.following xs = m₀.following (xs ++ m.report.entries) := by
    simp [following, m₀]
  refine ⟨xs ++ m.report.entries, ?_⟩
  rw [hm] at h
  rw [Machine.step]
  cases ha : m₀.accept? (e.onTasks c) with
  | none =>
    have he : e.calls = [] := by
      cases e with
      | ask call => cases ha
      | answer i o | drop i => rfl
    rw [he, List.append_nil]
    exact h
  | some m₁ =>
    refine Reachable.settle _ (h.tail (.event e ?_))
    rw [accept?_following, ha]
    rfl

end Course

/-! ## Disciplines over courses -/

/-- `Procedure.Follows` for the rest of a task, by its status. -/
def Task.Follows {α σ : Type} (D : Discipline σ) (Q : α → σ → Prop) (t : Task α) (s : σ) : Prop :=
  match t.status with
  | .ready p => p.Follows D Q s
  | .awaitingAnswer stage next =>
    ∀ o s', D.after (.receives stage o) s s' → (next o).Follows D Q s'
  | .awaitingLock l _ next => D.allows (.acquires l) s ∧
    ∀ s', D.after (.acquires l) s s' → next.Follows D Q s'
  | .finished => ∃ a, Q a s
  | .dropped => True

end TenantApps
