import TenantApps.Proofs.Records.Tenant
import TenantApps.Proofs.Tasks.Course

/-!
# `TenantApps.Proofs.Records.World` — the client composed with its tenant

A `World` is a `Course` together with the `Records` of a tenant. The tenant treats every request in
the turn in which it is sent; the outcome may be delivered much later or never. Nobody but the
client writes records.

## Contents
- `Served`, a sequence of requests treated in order.
- `World`, `World.Step` and `World.Reachable`.
- `World.Reachable.course`: every world projects to a reachable course.
- `Reachable.settle`, `play`, `quiet` and `exchange`, by which a played course is lifted to a world.
-/

namespace TenantApps

/-- The outcome of the last request of each task. -/
abbrev Replies := TaskId → Option Http.Outcome

/-- **`Served folder rs R q R' q'`**: the requests `rs` are treated in order, from `R` to `R'`; `q`
and `q'` are the replies before and after. -/
inductive Served (folder : String) :
    List (TaskId × Http.Request) → Records → Replies → Records → Replies → Prop
  | nil {R q} : Served folder [] R q R q
  | cons {i r rs R R' R'' q q' o} (ht : Treats R (.ofRequest folder r) R' o)
    (h : Served folder rs R' (Function.update q i (some o)) R'' q') :
    Served folder ((i, r) :: rs) R q R'' q'

section

variable {folder : String} {rs rs' : List (TaskId × Http.Request)} {R R' : Records} {q q' : Replies}

theorem Served.split (h : Served folder (rs ++ rs') R q R' q') : ∃ R₁ q₁,
    Served folder rs R q R₁ q₁ ∧ Served folder rs' R₁ q₁ R' q' := by
  induction rs generalizing R q with
  | nil => exact ⟨R, q, .nil, h⟩
  | cons x rs ih =>
    cases h with
    | cons ht h =>
      obtain ⟨R₁, q₁, h₁, h₂⟩ := ih h
      exact ⟨R₁, q₁, .cons ht h₁, h₂⟩

/-- `Served` is total: every request may be lost. -/
theorem Served.exists (folder : String) (rs : List (TaskId × Http.Request)) (R : Records)
    (q : Replies) : ∃ q', Served folder rs R q R q' := by
  induction rs generalizing q with
  | nil => exact ⟨q, .nil⟩
  | cons x rs ih =>
    obtain ⟨i, r⟩ := x
    obtain ⟨q', h⟩ := ih (Function.update q i (some (.failed (.other ""))))
    exact ⟨q', .cons (.ignores (o := .failed (.other "")) trivial) h⟩

end

/-- **`World`**: the state of the client and its tenant. -/
structure World where
  course : Course := {}
  records : Records
  replies : Replies := fun _ => none

namespace World

/-- **Step relation** of a world. -/
inductive Step (c : Client) : World → World → Prop
  /-- An event of the course; `answer i o` delivers the outcome that the tenant has left for task
  `i`. -/
  | event {w : World} {m : Machine (Except Error Answer)} (e : Course.Event)
    (hr : ∀ i o, e = .answer i o → w.replies i = some o)
    (h : w.course.machine.accept? (e.onTasks c) = some m) :
    Step c w ⟨⟨w.course.calls ++ e.calls, m⟩, w.records, w.replies⟩
  /-- A turn of a ready task; the tenant treats the requests of the turn. -/
  | turn {w : World} {i : TaskId} {p : Procedure (Except Error Answer)}
    {rs : List (TaskId × Http.Request)} {R : Records} {q : Replies}
    (h : w.course.machine.status? i = some (.ready p))
    (hr : (w.course.machine.run i p).report.requests = w.course.machine.report.requests ++ rs)
    (hs : Served c.folder rs w.records w.replies R q) :
    Step c w ⟨⟨w.course.calls, w.course.machine.run i p⟩, R, q⟩

/-- `Reachable c start w`: a run from the empty course and the records `start` leads to `w`. -/
def Reachable (c : Client) (start : Records) (w : World) : Prop :=
  Relation.ReflTransGen (Step c) { records := start } w

/-- The results of the operations so far. -/
def results (w : World) : List (TaskId × Except Error Answer) := w.course.machine.report.results

/-- **Projection**: a reachable world has a reachable course. -/
theorem Reachable.course {c : Client} {start : Records} {w : World} (h : Reachable c start w) :
    Course.Reachable c w.course := by
  induction h with
  | refl => exact Relation.ReflTransGen.refl
  | tail _ hstep ih =>
    cases hstep with
    | event e hr h => exact ih.tail (.event e h)
    | turn h hr hs => exact ih.tail (.turn h)

/-- A ready task can take its turn, since the tenant may lose its requests. -/
theorem exists_turn {c : Client} {w : World} {i : TaskId} {p : Procedure (Except Error Answer)}
    (h : w.course.machine.status? i = some (.ready p)) :
    ∃ q, Step c w ⟨⟨w.course.calls, w.course.machine.run i p⟩, w.records, q⟩ := by
  obtain ⟨rs, hr⟩ := w.course.machine.run_requests i p
  obtain ⟨q, hs⟩ := Served.exists c.folder rs w.records w.replies
  exact ⟨q, .turn h hr hs⟩

/-! ## Lifting played courses -/

section

variable {c : Client} {start R R' : Records} {q q' : Replies} {s : Course} {e : Course.Event}
  {rs : List (TaskId × Http.Request)}

/-- The turns of `Machine.settle` are steps of a world if the tenant can treat their requests. -/
theorem Reachable.settle (turns : Nat) {m : Machine (Except Error Answer)} {calls : List Call}
    {rs : List (TaskId × Http.Request)} {R : Records} {q : Replies}
    (h : Reachable c start ⟨⟨calls, m⟩, R, q⟩)
    (hr : (m.settle turns).report.requests = m.report.requests ++ rs)
    (hs : Served c.folder rs R q R' q') : Reachable c start ⟨⟨calls, m.settle turns⟩, R', q'⟩ := by
  induction turns generalizing m rs R q with
  | zero =>
    obtain rfl : rs = [] := List.self_eq_append_right.mp hr
    cases hs
    exact h
  | succ turns ih =>
    rw [Machine.settle] at hr ⊢
    cases hp : m.nextReady? with
    | none =>
      rw [hp] at hr
      obtain rfl : rs = [] := List.self_eq_append_right.mp hr
      cases hs
      exact h
    | some ip =>
      obtain ⟨i, p⟩ := ip
      rw [hp] at hr
      -- what is sent in the first turn is treated first
      obtain ⟨rs₁, h₁⟩ := m.run_requests i p
      obtain ⟨rs₂, h₂⟩ := (Machine.run i p m).settle_requests turns
      obtain rfl : rs = rs₁ ++ rs₂ := by
        rw [show (Machine.settle turns (Machine.run i p m)).report.requests = _ from h₂, h₁,
          List.append_assoc] at hr
        exact (List.append_cancel_left hr).symm
      obtain ⟨R₁, q₁, hs₁, hs₂⟩ := hs.split
      exact ih (h.tail (.turn (Machine.nextReady?_status hp) h₁ hs₁)) h₂ hs₂

/-- The same for `Course.play` of one event. -/
theorem Reachable.play (h : Reachable c start ⟨s, R, q⟩)
    (he : ∀ i o, e = .answer i o → q i = some o)
    (hr : (Course.play c [e] s).machine.report.requests = s.machine.report.requests ++ rs)
    (hs : Served c.folder rs R q R' q') : Reachable c start ⟨Course.play c [e] s, R', q'⟩ := by
  rw [Course.play] at hr ⊢
  cases ha : s.machine.accept? (e.onTasks c) with
  | none =>
    rw [ha] at hr
    obtain rfl : rs = [] := List.self_eq_append_right.mp hr
    cases hs
    exact h
  | some m =>
    rw [ha] at hr
    refine Reachable.settle m.turns (h.tail (.event e he ha)) ?_ hs
    rwa [(Course.accept?_report h.course.consistent.1 ha).1]

/-- The demands of the requests of a course, each with its task. -/
def demands (c : Client) (s : Course) : List (TaskId × Demand) :=
  s.machine.report.requests.map fun x => (x.1, .ofRequest c.folder x.2)

theorem Reachable.new_demands (h : Reachable c start ⟨s, R, q⟩) {ds : List (TaskId × Demand)}
    (hd : World.demands c (Course.play c [e] s) = World.demands c s ++ ds) : ∃ rs,
      (Course.play c [e] s).machine.report.requests = s.machine.report.requests ++ rs ∧
        rs.map (fun x => (x.1, Demand.ofRequest c.folder x.2)) = ds := by
  obtain ⟨rs, hrs⟩ := h.course.play_requests e
  refine ⟨rs, hrs, ?_⟩
  rw [World.demands, World.demands, hrs, List.map_append] at hd
  exact List.append_cancel_left hd

/-- An event after which no request is sent. -/
theorem Reachable.quiet (h : Reachable c start ⟨s, R, q⟩)
    (he : ∀ i o, e = .answer i o → q i = some o)
    (hd : World.demands c (Course.play c [e] s) = World.demands c s) :
    Reachable c start ⟨Course.play c [e] s, R, q⟩ := by
  obtain ⟨rs, hrs, hds⟩ := h.new_demands (hd.trans (List.append_nil _).symm)
  obtain rfl : rs = [] := List.map_eq_nil_iff.mp hds
  exact h.play he hrs .nil

/-- An event after which one request is sent, with the outcome `o` from the tenant. -/
theorem Reachable.exchange {i : TaskId} {d : Demand} {o : Http.Outcome}
    (h : Reachable c start ⟨s, R, q⟩) (he : ∀ i o, e = .answer i o → q i = some o)
    (hd : World.demands c (Course.play c [e] s) = World.demands c s ++ [(i, d)])
    (ht : Treats R d R' o) :
    Reachable c start ⟨Course.play c [e] s, R', Function.update q i (some o)⟩ := by
  obtain ⟨rs, hrs, hds⟩ := h.new_demands hd
  obtain ⟨⟨i, r⟩, rfl, hx⟩ := List.map_eq_singleton_iff.mp hds
  cases hx
  exact h.play he hrs (.cons ht .nil)

end

end World

end TenantApps
