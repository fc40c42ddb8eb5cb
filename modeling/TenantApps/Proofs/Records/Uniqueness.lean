import TenantApps.Proofs.Names.Exclusion
import TenantApps.Proofs.Records.KnowledgeState
import TenantApps.Proofs.Records.World

/-!
# `TenantApps.Proofs.Records.Uniqueness` — at most one record for each name

In every world with `serializeByName`, no two records have one name if none had at the start,
whatever is dropped or lost, and a successful creation returns the only record of its name.

The invariant that carries the proof is `KnowledgeState.Sound`: the knowledge of an operation inside
its guard is true of the records, including the knowledge that a response in flight is about to
convey. Nobody else is inside the guard, and nobody else writes records of that name.

## Contents
- `KnowledgeState.Sound`, the truth of a state about the records.
- `KnowledgeState.Permits.treats`: a permitted demand keeps `Sound` and `OnePerName`.
- `Knowing` and `Informed`, the invariant of one task and of the world.
- `Informed.change`, the preservation lemma for a `Machine.Change`; `Informed.act`, `run`, `start`,
  `answer` and `drop`, **preservation** by every event.
- `World.one_record_per_name`, the **main result**.
-/

namespace TenantApps

open Machine

/-! ## Soundness of a state

A request changes the records when it is sent, and its outcome arrives later. While it is in flight,
the invariant is about the knowledge that the outcome is going to convey. -/

namespace KnowledgeState

/-- The guard is held. -/
def Within : KnowledgeState → Prop
  | inside _ | asking _ => True
  | outside | past _ => False

/-- **`Sound guard R reply s`**: the knowledge of `s`, or the one that `reply` conveys, is true in
`R`. -/
def Sound (guard : Option ApplicationName) (R : Records) (reply : Option Http.Outcome) :
    KnowledgeState → Prop
  | outside => True
  | inside k | past k => ∀ n, guard = some n → Satisfies R n.text k
  | asking d => ∃ o, reply = some o ∧ ∀ n, guard = some n → Satisfies R n.text (d.learned n o)

variable {guard : Option ApplicationName} {R R' : Records} {reply : Option Http.Outcome}
  {s : KnowledgeState}

theorem Sound.congr (h : s.Sound guard R reply)
    (hR : ∀ n, guard = some n → ∀ id, R' id = some n.text ↔ R id = some n.text) :
    s.Sound guard R' reply := by
  cases s with
  | outside => trivial
  | inside k | past k => exact fun n hn => (h n hn).congr (hR n hn)
  | asking d =>
    obtain ⟨o, ho, h⟩ := h
    exact ⟨o, ho, fun n hn => (h n hn).congr (hR n hn)⟩

/-- `Sound` is preserved by `receive`. -/
theorem Sound.receive {o : Http.Outcome} (h : s.Sound guard R (some o)) :
    (s.receive guard o).Sound guard R reply := by
  cases s with
  | outside => trivial
  | inside k | past k => exact h
  | asking d =>
    obtain ⟨o', ho, h⟩ := h
    cases ho
    intro n hn
    rw [hn]
    exact h n hn

theorem within_receive {o : Http.Outcome} : (s.receive guard o).Within ↔ s.Within := by
  cases s <;> exact .rfl

theorem receive_ne_past {o : Http.Outcome} (h : ∀ k, s ≠ past k) (k : Knowledge) :
    s.receive guard o ≠ past k := by
  cases s with
  | outside | inside k' | past k' => exact h k
  | asking d => rintro ⟨⟩

/-- **A permitted demand** keeps `Sound` and `OnePerName`, and changes records of the guarded name
only. -/
theorem Permits.treats {d : Demand} {o : Http.Outcome} (hp : Permits guard d s)
    (hs : s.Sound guard R reply) (ht : Treats R d R' o) :
    (s.ask d).Sound guard R' (some o) ∧ (R.OnePerName → R'.OnePerName) ∧
      (R' = R ∨ ∃ n, guard = some n ∧ s.Within ∧ R.OnlyAt n.text R') := by
  have turned {n : ApplicationName} {k : Knowledge} (hn : guard = some n)
      (ht : R.Turns n.text (d.learned n o) R') : (asking d).Sound guard R' (some o) ∧
        (R.OnePerName → R'.OnePerName) ∧
        (R' = R ∨ ∃ n, guard = some n ∧ (inside k).Within ∧ R.OnlyAt n.text R') := by
    refine ⟨⟨o, rfl, fun m hm => ?_⟩, ht.one, .inr ⟨n, hn, trivial, ht.only⟩⟩
    rw [hn] at hm
    cases hm
    exact ht.satisfies
  cases d with
  | find name =>
    -- a lookup changes nothing
    obtain ⟨n, k, hn, rfl, rfl⟩ := hp
    obtain ⟨rfl, hb⟩ := ht.find
    exact turned hn (.same hb)
  | remove id =>
    -- what it knew before is that this is the only record of the name
    obtain ⟨hg, rfl⟩ := hp
    obtain ⟨n, hn⟩ := Option.isSome_iff_exists.mp hg
    exact turned hn (ht.remove (hs n hn))
  | create name =>
    -- what it knew before is that there is no record of the name
    obtain ⟨n, hn, rfl, rfl⟩ := hp
    exact turned hn (ht.create (hs n hn))
  | other =>
    obtain rfl := ht.other
    rw [Quiescent.ask hp]
    refine ⟨?_, id, .inl rfl⟩
    cases s with
    | outside | inside k => exact hs
    | asking d | past k => exact hp.elim

theorem Permits.ne_past {d : Demand} (hp : Permits guard d s) (k : Knowledge) : s ≠ past k := by
  rintro rfl
  cases d with
  | find name =>
    obtain ⟨n, k', -, -, h⟩ := hp
    cases h
  | remove id => cases hp.2
  | create name =>
    obtain ⟨n, -, -, h⟩ := hp
    cases h
  | other => exact hp

theorem ask_ne_past {d : Demand} (h : ∀ k, s ≠ past k) (k : Knowledge) : s.ask d ≠ past k := by
  cases s with
  | outside | asking d' | past k' => exact h k
  | inside k' => cases d <;> rintro ⟨⟩

theorem within_ask {d : Demand} : (s.ask d).Within ↔ s.Within := by
  cases s with
  | outside | past k | asking d => exact .rfl
  | inside k => cases d <;> exact .rfl

end KnowledgeState

/-! ## The invariant -/

/-- **`Knowing`**: the invariant of task `i` in the state `s`, given the results so far, the records
and the outcome of its last request. -/
structure Knowing (folder : String) (results : List (TaskId × Except Error Answer)) (R : Records)
    (reply : Option Http.Outcome) (guard : Option ApplicationName) (active : Prop) (i : TaskId)
    (t : Task (Except Error Answer)) (s : KnowledgeState) : Prop where
  follows : t.Follows (informed folder guard) (Attests guard) s
  /-- It holds its guard while it is `Within`. -/
  holds : s.Within → ∀ n, guard = some n → ∃ k, (Lock.name n, k) ∈ t.held
  sound : t.status.isOver = false ∨ active → s.Sound guard R reply
  /-- Only the active task may be ready after it has released its guard. -/
  left : t.status.isOver = false → (t.status.ready?.isSome → ¬active) → ∀ k, s ≠ .past k
  /-- A result is that of a finished task, and it is attested. -/
  result : ∀ a, (i, a) ∈ results → t.status.isOver = true ∧ Attests guard a s

/-- **`Informed folder start guard active m R q`**: the invariant of a world in which `active` takes
its turn. -/
structure Informed (folder : String) (start : Records) (guard : TaskId → Option ApplicationName)
    (active : Option TaskId) (m : Machine (Except Error Answer)) (R : Records) (q : Replies) :
    Prop where
  consistent : m.Consistent
  tasks : ∀ {i t}, m.tasks[i]? = some t → ∃ s,
    Knowing folder m.report.results R (q i) (guard i) (active = some i) i t s
  /-- Only existing tasks have results. -/
  known : ∀ x ∈ m.report.results, x.1 < m.tasks.length
  one : R.OnePerName
  /-- Records of names that nobody guards are those at the start. -/
  others : ∀ name, (∀ i n, guard i = some n → n.text ≠ name) →
    ∀ id, R id = some name ↔ start id = some name

section Keeping

variable {folder : String} {ends ends' : List (TaskId × Except Error Answer)}
  {R₀ R R' : Records} {q q' : Replies} {reply reply' : Option Http.Outcome}
  {g : Option ApplicationName} {guard : TaskId → Option ApplicationName} {active : Option TaskId}
  {a a' : Prop} {i j : TaskId} {t t' : Task (Except Error Answer)} {s : KnowledgeState}
  {m m' : Machine (Except Error Answer)} {xs : List (Entry (Except Error Answer))} {c : Cache}
  {p : Procedure (Except Error Answer)} {held : List (Lock × MutexId)}

/-- Frame lemma for the other tasks: `Knowing` is preserved if `Sound` is. -/
theorem Knowing.frame (h : Knowing folder ends R reply g a j t s)
    (hs : t.status.isOver = false ∨ a → s.Sound g R reply → s.Sound g R' reply)
    (hr : ∀ x, (j, x) ∈ ends' → (j, x) ∈ ends) :
    Knowing folder ends' R' reply g a j t s where
  follows := h.follows
  holds := h.holds
  sound ho := hs ho (h.sound ho)
  left := h.left
  result x hx := h.result x (hr x hx)

/-- `Knowing` is preserved by `Task.granted`. -/
theorem Knowing.granted {w : Lock × MutexId} (h : Knowing folder ends R reply g a j t s)
    (hw : t.awaited? = some w) (hs : s.Sound g R reply → s.Sound g R' reply)
    (hr : ∀ x, (j, x) ∈ ends' → (j, x) ∈ ends) :
    ∃ s', Knowing folder ends' R' reply g a' j t.granted s' := by
  obtain ⟨l, k⟩ := w
  obtain ⟨next, ht⟩ := Task.eq_of_awaited? hw
  generalize t.held = held at ht
  subst ht
  obtain ⟨ha, hf⟩ := h.follows
  have silent (x) (hx : (j, x) ∈ ends') : False := by
    cases (h.result x (hr x hx)).1
  cases l with
  | name n =>
    -- it got its guard, and it knows nothing yet
    obtain ⟨hg, rfl⟩ : g = some n ∧ s = .outside := ha
    refine ⟨.inside none, hf _ rfl, ?_, fun _ m _ => satisfies_none, ?_, ?_⟩
    · intro _ m hm
      rw [hg] at hm
      cases hm
      exact ⟨k, List.mem_cons_self⟩
    · rintro _ _ _ ⟨⟩
    · exact fun x hx => (silent x hx).elim
  | endpoint e =>
    have hquiescent : s.Quiescent := ha
    refine ⟨s, hf _ rfl, ?_, fun _ => hs (h.sound (.inl rfl)), ?_, ?_⟩
    · intro hw n hn
      obtain ⟨k', hk⟩ := h.holds hw n hn
      exact ⟨k', List.mem_cons_of_mem _ hk⟩
    · rintro _ _ k' rfl
      exact hquiescent
    · exact fun x hx => (silent x hx).elim

/-- **Non-interference**: records of a name change only under its guard, so the knowledge of the
other tasks stays true. -/
theorem Informed.undisturbed (h : Informed folder R₀ guard active m R q)
    (ha : ∀ j, active = some j → j = i) (hji : j ≠ i)
    (hR : R' = R ∨ ∃ n, guard i = some n ∧ m.HoldsName i n ∧ R.OnlyAt n.text R')
    (ht : m.tasks[j]? = some t)
    (hs : Knowing folder ends R reply (guard j) (active = some j) j t s)
    (ho : t.status.isOver = false ∨ active = some j) (hsound : s.Sound (guard j) R reply) :
    s.Sound (guard j) R' reply := by
  rcases hR with rfl | ⟨n, hi, ⟨k, hk⟩, honly⟩
  · exact hsound
  · have hactive : active ≠ some j := fun he => hji (ha j he)
    have ho : t.status.isOver = false := ho.resolve_right hactive
    by_cases hj : guard j = some n
    · -- both are about the name, and only one of them is inside its guard
      have alone (hw : s.Within) : False := by
        obtain ⟨k', hk'⟩ := hs.holds hw n hj
        exact hji (h.consistent.unique (by rw [heldBy_eq ht]; exact hk') hk).1
      cases s with
      | outside => trivial
      | inside k' => exact (alone trivial).elim
      | asking d => exact (alone trivial).elim
      | past k' => exact absurd rfl (hs.left ho (fun _ => hactive) k')
    · -- it is about another name
      exact hsound.congr fun n' hn' => honly n'.text fun he => hj (by
        rw [hn', ApplicationName.ext he])

/-- **Preservation by a `Machine.Change`**, if the changed task satisfies `Knowing` again and writes
records of its name only, while it holds its guard. -/
theorem Informed.change (h : Informed folder R₀ guard active m R q) (hch : Change m i t xs c m')
    (ha : ∀ j, active = some j → j = i)
    (hown : ∃ s, Knowing folder m'.report.results R' (q' i) (guard i) (active = some i) i t s)
    (hnew : ∀ x ∈ Report.results ⟨xs⟩, x.1 = i) (hq : ∀ j, j ≠ i → q' j = q j)
    (hone : R.OnePerName → R'.OnePerName)
    (hR : R' = R ∨ ∃ n, guard i = some n ∧ m.HoldsName i n ∧ R.OnlyAt n.text R') :
    Informed folder R₀ guard active m' R' q' := by
  have hold {j : TaskId} (hj : j ≠ i) (x : Except Error Answer) (hx : (j, x) ∈ m'.report.results) :
      (j, x) ∈ m.report.results := by
    rw [hch.results] at hx
    exact (List.mem_append.mp hx).resolve_right fun hx => hj (hnew _ hx)
  refine ⟨hch.consistent, hch.tasks
    (P := fun j u => m.tasks[j]? = some u ∧ ∃ s,
      Knowing folder m.report.results R (q j) (guard j) (active = some j) j u s)
    (R := fun j u => ∃ s,
      Knowing folder m'.report.results R' (q' j) (guard j) (active = some j) j u s)
    (fun ht => ⟨ht, h.tasks ht⟩) hown (fun {j u} hj _ => ?_) (fun {j u w} hj _ => ?_),
    ?_, hone h.one, ?_⟩
  · rintro ⟨ht, s, hs⟩
    rw [hq j hj]
    exact ⟨s, hs.frame (h.undisturbed ha hj hR ht hs) (hold hj)⟩
  · rintro ⟨ht, s, hs⟩ hw
    rw [hq j hj]
    refine hs.granted hw (h.undisturbed ha hj hR ht hs (.inl ?_)) (hold hj)
    obtain ⟨next, hu⟩ := Task.eq_of_awaited? hw
    rw [hu]
    rfl
  · intro x hx
    rw [hch.length]
    rw [hch.results] at hx
    rcases List.mem_append.mp hx with hx | hx
    · exact h.known x hx
    · rw [hnew x hx, ← hch.length]
      exact (List.getElem?_eq_some_iff.mp hch.own).1
  · intro name hname id
    rcases hR with rfl | ⟨n, hi, -, honly⟩
    · exact h.others name hname id
    · exact (honly name (fun he => hname i n hi he.symm) id).trans (h.others name hname id)

/-- The active task keeps its state if the action is a frame for `informed`. -/
theorem Knowing.stay
    (hs : Knowing folder ends R reply g (some i = some i) i ⟨.ready p, held⟩ s)
    (hf : t.Follows (informed folder g) (Attests g) s)
    (hheld : ∀ n k, (Lock.name n, k) ∈ held → (Lock.name n, k) ∈ t.held)
    (hleft : t.status.ready?.isSome = true ∨ ∀ k, s ≠ .past k) :
    Knowing folder ends R reply g (some i = some i) i t s where
  follows := hf
  holds hw n hn := (hs.holds hw n hn).imp fun k hk => hheld n k hk
  sound _ := hs.sound (.inr rfl)
  left _ hr := hleft.resolve_left fun hready => hr hready rfl
  result x hx := by cases (hs.result x hx).1

/-- **Preservation by one action** of the active task, together with the tenant that treats its
request. -/
theorem Informed.act {rs : List (TaskId × Http.Request)}
    (h : Informed folder R₀ guard (some i) m R q) (ht : m.tasks[i]? = some ⟨.ready p, held⟩)
    (hrs : (m.act i p).report.requests = m.report.requests ++ rs)
    (hserved : Served folder rs R q R' q') :
    Informed folder R₀ guard (some i) (m.act i p) R' q' := by
  obtain ⟨s, hs⟩ := h.tasks ht
  obtain ⟨t, xs, c, hacts, hch⟩ := h.consistent.act ht
  have hf := hs.follows
  have ha (j : TaskId) (hj : some i = some j) : j = i := (Option.some.inj hj).symm
  rw [hch.requests] at hrs
  have hrs := List.append_cancel_left hrs
  subst hrs
  have silent {x} (hx : (i, x) ∈ m.report.results) : False := by cases (hs.result x hx).1
  -- most acts send nothing and bring no result
  have quiet {t' : Task (Except Error Answer)} {c : Cache}
      {xs : List (Entry (Except Error Answer))} {s' : KnowledgeState}
      (hch : Change m i t' xs c (m.act i p)) (hx : Report.results ⟨xs⟩ = [])
      (hserved : Served folder [] R q R' q')
      (hown : Knowing folder m.report.results R (q i) (guard i) (some i = some i) i t' s') :
      Informed folder R₀ guard (some i) (m.act i p) R' q' := by
    cases hserved
    refine h.change hch ha ⟨s', ?_⟩ (by rw [hx]; exact List.forall_mem_nil _) (fun _ _ => rfl) id
      (.inl rfl)
    rw [hch.results, hx, List.append_nil]
    exact hown
  cases hacts with
  | done x =>
    cases hserved
    refine h.change hch ha ⟨s, ⟨⟨x, hf⟩, hs.holds, fun _ => hs.sound (.inr rfl),
      fun ho => (by cases ho), ?_⟩⟩ ?_ (fun _ _ => rfl) id (.inl rfl)
    · intro y hy
      rw [hch.results] at hy
      rcases List.mem_append.mp hy with hy | hy
      · exact (silent hy).elim
      · obtain rfl : y = x := by
          cases List.mem_singleton.mp hy
          rfl
        exact ⟨rfl, hf⟩
    · intro y hy
      rw [show y = (i, x) from List.mem_singleton.mp hy]
  | send stage r next =>
    have hp : KnowledgeState.Permits (guard i) (.ofRequest folder r) s := hf.1
    -- the tenant treats the one request that is sent
    cases hserved with
    | cons htreats hserved =>
      cases hserved
      obtain ⟨hsound, hone, hR⟩ := hp.treats (hs.sound (.inr rfl)) htreats
      refine h.change hch ha ⟨s.ask (.ofRequest folder r), ?_⟩ (List.forall_mem_nil _)
        (fun j hj => Function.update_of_ne hj ..) hone (hR.imp_right ?_)
      · rw [Function.update_self]
        refine ⟨fun o s' ho => hf.2 _ rfl o s' ho,
          fun hw => hs.holds (KnowledgeState.within_ask.mp hw),
          fun _ => hsound, fun _ _ => KnowledgeState.ask_ne_past hp.ne_past, ?_⟩
        intro x hx
        rw [hch.results] at hx
        exact (silent ((List.mem_append.mp hx).resolve_right List.not_mem_nil)).elim
      · rintro ⟨n, hi, hw, honly⟩
        obtain ⟨k, hk⟩ := hs.holds hw n hi
        exact ⟨n, hi, ⟨k, by rw [heldBy_eq ht]; exact hk⟩, honly⟩
  | take l k next =>
    cases l with
    | name n =>
      -- it has got its guard, and it knows nothing yet
      obtain ⟨⟨hg, rfl⟩, hnext⟩ := hf
      refine quiet hch rfl hserved ⟨hnext _ rfl, fun _ m hm => ?_, fun _ _ _ => satisfies_none,
        fun _ hr => absurd rfl (hr rfl), fun x hx => (silent hx).elim⟩
      rw [hg] at hm
      cases hm
      exact ⟨k, List.mem_cons_self⟩
    | endpoint e =>
      exact quiet hch rfl hserved
        (hs.stay (hf.2 _ rfl) (fun _ _ => List.mem_cons_of_mem _) (.inl rfl))
  | wait l k next =>
    refine quiet hch rfl hserved (hs.stay hf (fun _ _ h => h) (.inr ?_))
    rintro k' rfl
    cases l with
    | name n => cases hf.1.2
    | endpoint e => exact hf.1
  | release l next =>
    cases l with
    | name n =>
      -- it leaves, and what it knows is still true in this turn
      obtain ⟨⟨hg, k, rfl⟩, hnext⟩ := hf
      exact quiet hch rfl hserved ⟨hnext _ rfl, fun hw => hw.elim, fun _ => hs.sound (.inr rfl),
        fun _ hr => absurd rfl (hr rfl), fun x hx => (silent hx).elim⟩
    | endpoint e =>
      exact quiet hch rfl hserved (hs.stay (hf.2 _ rfl)
        (fun n _ => (mem_eraseP_of_ne (name_ne_endpoint n e)).mpr) (.inl rfl))
  | consult e next =>
    exact quiet hch rfl hserved (hs.stay ((hf _).2 _ rfl) (fun _ _ h => h) (.inl rfl))
  | remember e a next =>
    exact quiet hch rfl hserved (hs.stay (hf.2 _ rfl) (fun _ _ h => h) (.inl rfl))
  | emit x next =>
    exact quiet hch rfl hserved (hs.stay hf (fun _ _ h => h) (.inl rfl))

/-- **Preservation by a turn**: induction on the procedure. If the task finishes, its knowledge is
true then. -/
theorem Informed.run {rs : List (TaskId × Http.Request)}
    (h : Informed folder R₀ guard none m R q) (ht : m.status? i = some (.ready p))
    (hrs : (m.run i p).report.requests = m.report.requests ++ rs)
    (hserved : Served folder rs R q R' q') :
    Informed folder R₀ guard none (m.run i p) R' q' ∧
      ∀ x ∈ (m.run i p).report.results, x ∈ m.report.results ∨
        x.1 = i ∧ ∃ s, Attests (guard i) x.2 s ∧ s.Sound (guard i) R' (q' i) := by
  obtain ⟨⟨st, held⟩, ht, rfl⟩ := Option.map_eq_some_iff.mp ht
  have hi : Informed folder R₀ guard (some i) m R q := by
    refine { h with tasks := fun {j t} htj => ?_ }
    obtain ⟨s, hs⟩ := h.tasks htj
    refine ⟨s, { hs with sound := fun ho => hs.sound (.inl ?_), left := fun ho _ => hs.left ho ?_ }⟩
    · rcases ho with ho | ho
      · exact ho
      · cases ho
        rw [ht] at htj
        cases htj
        rfl
    · exact fun _ he => Option.some_ne_none _ he.symm
  -- the requests of the turn are split where an act ends
  obtain ⟨-, hready, ⟨rs', hrs', hinformed⟩, hresults⟩ := h.consistent.run
    (P := fun m' => (∃ rs, m'.report.requests = m.report.requests ++ rs ∧
      ∀ R' q', Served folder rs R q R' q' → Informed folder R₀ guard (some i) m' R' q') ∧
      ∀ x ∈ m'.report.results, x ∈ m.report.results ∨ x.1 = i) i
    (fun hc ht' hP => by
      obtain ⟨⟨rs, hrs, hinformed⟩, hresults⟩ := hP
      obtain ⟨t, xs, c, hacts, hch⟩ := hc.act ht'
      refine ⟨⟨rs ++ Report.requests ⟨xs⟩, ?_, ?_⟩, ?_⟩
      · rw [hch.requests, hrs, List.append_assoc]
      · intro R' q' hserved
        obtain ⟨R₁, q₁, h₁, h₂⟩ := hserved.split
        exact (hinformed R₁ q₁ h₁).act ht' hch.requests h₂
      · intro x hx
        rw [hch.results] at hx
        rcases List.mem_append.mp hx with hx | hx
        · exact hresults x hx
        · exact .inr (hacts.results x hx))
    p ht ⟨⟨[], (List.append_nil _).symm, fun R' q' hserved => by
      cases hserved
      exact hi⟩, fun x hx => .inl hx⟩
  obtain rfl : rs' = rs := List.append_cancel_left (hrs'.symm.trans hrs)
  have h' := hinformed R' q' hserved
  refine ⟨{ h' with tasks := fun {j t} htj => ?_ }, fun x hx => (hresults x hx).imp_right ?_⟩
  · obtain ⟨s, hs⟩ := h'.tasks htj
    have hleft : t.status.isOver = false → (t.status.ready?.isSome → ¬none = some j) →
        ∀ k, s ≠ .past k := by
      -- the task that took its turn cannot go on, so it has not left its guard only now
      intro ho _
      apply hs.left ho
      intro hr he
      cases he
      rw [← isReady_of htj, hready] at hr
      cases hr
    refine ⟨s, { hs with sound := fun ho => hs.sound (.inl (ho.resolve_right ?_)), left := hleft }⟩
    exact (Option.some_ne_none j).symm
  · intro hxi
    subst hxi
    have hlt := h'.known x hx
    obtain ⟨s, hs⟩ := h'.tasks (List.getElem?_eq_getElem hlt)
    exact ⟨rfl, s, (hs.result x.2 hx).2, hs.sound (.inr rfl)⟩

/-- Preservation by `start`, for a procedure that follows `informed`. -/
theorem Informed.start (h : Informed folder R₀ guard none m R q)
    (ha : m.accept? (.start p) = some m')
    (hp : p.Follows (informed folder (guard m.tasks.length)) (Attests (guard m.tasks.length))
      .outside) : Informed folder R₀ guard none m' R q := by
  obtain ⟨hc, htasks, -, hreport⟩ := h.consistent.start ha
  refine ⟨hc, fun {j t} ht => ?_, ?_, h.one, h.others⟩
  · rw [htasks, getElem?_start] at ht
    rw [hreport]
    split at ht
    · next hj =>
      subst hj
      cases ht
      refine ⟨.outside, hp, fun hw => hw.elim, fun _ => trivial, ?_, ?_⟩
      · rintro _ _ _ ⟨⟩
      · intro x hx
        exact absurd (h.known _ hx) (Nat.lt_irrefl _)
    · exact h.tasks ht
  · intro x hx
    rw [hreport] at hx
    rw [htasks, List.length_append]
    exact Nat.lt_add_right _ (h.known x hx)

/-- Preservation by `answer`, with the outcome that the tenant has left. -/
theorem Informed.answer {o : Http.Outcome} (h : Informed folder R₀ guard none m R q)
    (hq : q i = some o) (ha : m.accept? (.answer i o) = some m') :
    Informed folder R₀ guard none m' R q := by
  obtain ⟨stage, next, held, ht, hch⟩ := h.consistent.answer ha
  obtain ⟨s, hs⟩ := h.tasks ht
  have hsound := hs.sound (.inl rfl)
  rw [hq] at hsound
  have hpast : ∀ k, s ≠ .past k := hs.left rfl fun hr => by cases hr
  refine h.change hch nofun ⟨s.receive (guard i) o, hs.follows o _ rfl,
    fun hw => hs.holds (KnowledgeState.within_receive.mp hw), fun _ => hsound.receive,
    fun _ _ => KnowledgeState.receive_ne_past hpast, fun x hx => ?_⟩ (List.forall_mem_nil _)
    (fun _ _ => rfl) id (.inl rfl)
  rw [hch.results] at hx
  cases (hs.result x ((List.mem_append.mp hx).resolve_right List.not_mem_nil)).1

/-- Preservation by `drop`. -/
theorem Informed.drop (h : Informed folder R₀ guard none m R q)
    (ha : m.accept? (.drop i) = some m') : Informed folder R₀ guard none m' R q := by
  obtain ⟨t, ht, ho, hch⟩ := h.consistent.drop ha
  obtain ⟨s, hs⟩ := h.tasks ht
  refine h.change hch nofun ⟨.outside, trivial, fun hw => hw.elim, fun _ => trivial, ?_,
    ?_⟩ (List.forall_mem_nil _) (fun _ _ => rfl) id (.inl rfl)
  · rintro _ _ _ ⟨⟩
  · intro x hx
    rw [hch.results] at hx
    have hover := (hs.result x ((List.mem_append.mp hx).resolve_right List.not_mem_nil)).1
    rw [ho] at hover
    cases hover

end Keeping

/-! ## Over worlds -/

namespace World

variable {c : Client} {d : Draft} {start : Records} {w : World}

/-- **Every reachable world is `Informed`**, whatever names the calls that are still to come are
about. -/
theorem Reachable.informed (hd : d.accept = .ok c.settings)
    (hc : c.settings.serializeByName = true) (hstart : start.OnePerName) (h : Reachable c start w)
    (guard : TaskId → Option ApplicationName)
    (hg : ∀ i call, w.course.calls[i]? = some call → guard i = call.name?) :
    Informed c.folder start guard none w.course.machine w.records w.replies := by
  induction h with
  | refl =>
    refine ⟨consistent_init, fun ht => ?_, List.forall_mem_nil _, hstart, fun _ _ _ => .rfl⟩
    cases ht
  | @tail w w' hw hstep ih =>
    cases hstep with
    | @event m e hr ha =>
      have h := ih fun i call hi => hg i call (by
        rw [List.getElem?_append_left (List.getElem?_eq_some_iff.mp hi).1]
        exact hi)
      cases e with
      | ask call =>
        have hlength := (show Reachable c start w from hw).course.consistent.2
        have hi : guard w.course.machine.tasks.length = call.name? := by
          rw [← hlength]
          exact hg _ _ (List.getElem?_concat_length ..)
        refine h.start ha ?_
        rw [hi]
        exact c.answer_informed hd hc call
      | answer i o => exact h.answer (hr i o rfl) ha
      | drop i => exact h.drop ha
    | turn ht hr hs => exact ((ih hg).run ht hr hs).1

/-- **One record per name.** In every reachable world of a client with `serializeByName` whose
tenant starts with `OnePerName`: `OnePerName` holds, records of names that no call is about are
those at the start, and in the step in which a creation succeeds its `Uuid` becomes the only record
of the name. -/
theorem one_record_per_name (hd : d.accept = .ok c.settings)
    (hc : c.settings.serializeByName = true) (hstart : start.OnePerName)
    (h : Reachable c start w) :
    w.records.OnePerName ∧
    (∀ name, (∀ i n, w.course.name? i = some n → n.text ≠ name) →
      ∀ id, w.records id = some name ↔ start id = some name) ∧
    ∀ w' i text a, Step c w w' → w'.course.calls[i]? = some (.create text) →
      (i, .ok (.created a)) ∈ w'.results → (i, .ok (.created a)) ∉ w.results →
      ∃ id, a.name = text ∧ a.id = id.text ∧ ∀ id', w'.records id' = some text ↔ id' = id := by
  have hg {w : World} (i : TaskId) (call : Call) (hi : w.course.calls[i]? = some call) :
      w.course.name? i = call.name? := by
    rw [Course.name?, hi, Option.bind_some]
  have hinformed := h.informed hd hc hstart w.course.name? hg
  refine ⟨hinformed.one, hinformed.others, ?_⟩
  intro w' i text a hstep hcall hresult hnew
  cases hstep with
  | event e hr ha =>
    -- no operation comes to its end by an event
    refine absurd ?_ hnew
    rw [results, ← (Course.accept?_report h.course.consistent.1 ha).2]
    exact hresult
  | turn ht hr hs =>
    obtain ⟨-, hresults⟩ := hinformed.run ht hr hs
    obtain ⟨hi, s, hattests, hsound⟩ := (hresults _ hresult).resolve_left hnew
    obtain rfl : i = _ := hi
    obtain ⟨n, k, hn, rfl, id, rfl, hname, hid⟩ := hattests a rfl
    have hsatisfies := hsound n hn
    have htext : n.text = text :=
      ApplicationName.text_of_toOption ((hg (w := w) i _ hcall).symm.trans hn)
    rw [htext] at hname hsatisfies
    refine ⟨id, hname, hid, fun id' => (hsatisfies _ rfl id').trans ?_⟩
    rw [Option.some.injEq, eq_comm]

/-- A creation after the first `n` replies of `Http.Script.replacement`, while a deletion of the
same name waits for the guard. -/
def replacing (n : Nat) : Course :=
  (Http.Script.replacement.take n).foldl (fun s o => .play .sample [.answer 0 o] s)
    (.play .sample [.ask (.delete "a")] (.play .sample [.ask (.create "a")] {}))

/-- A `Uuid` of 31 zeros and a last digit. -/
def endingWith (digit : Fin 16) : Uuid := ⟨List.replicate 31 ⟨0, by decide⟩ ++ [digit], rfl⟩

/-- The `Uuid` of the lookup reply. -/
def oldId : Uuid := endingWith ⟨2, by decide⟩

/-- The `Uuid` in the `location` header. -/
def newId : Uuid := endingWith ⟨1, by decide⟩

/-- The demands of the creation, in order. -/
def replacingDemands : List (TaskId × Demand) :=
  [.find "a", .remove oldId, .create "a", .other, .other, .other, .other].map (0, ·)

theorem demands_replacing : ((List.range 7).all fun n =>
    demands .sample (replacing n) = replacingDemands.take (n + 1)) = true := by
  decide +kernel

/-- One more reply of the script, after which the creation sends its next request. -/
theorem Reachable.replacing {n : Nat} {o o' : Http.Outcome} {d : Demand} {R R' : Records}
    {q : Replies} (h : Reachable .sample start ⟨replacing n, R, q⟩)
    (ho : Http.Script.replacement[n]? = some o) (hq : q 0 = some o)
    (ho' : Http.Script.replacement[n + 1]? = some o')
    (hd : replacingDemands[n + 1]? = some (0, d)) (ht : Treats R d R' o') :
    Reachable .sample start ⟨World.replacing (n + 1), R',
      Function.update q 0 Http.Script.replacement[n + 1]?⟩ := by
  have hs : World.replacing (n + 1) = .play .sample [.answer 0 o] (World.replacing n) := by
    rw [World.replacing, List.take_add_one, ho, List.foldl_append]
    rfl
  have hn : n + 1 < 7 := (List.getElem?_eq_some_iff.mp hd).1
  have hdemands (k : Nat) (hk : k < 7) :
      World.demands .sample (World.replacing k) = replacingDemands.take (k + 1) :=
    of_decide_eq_true (List.all_eq_true.mp demands_replacing k (List.mem_range.mpr hk))
  rw [hs, ho']
  refine h.exchange (by rintro i o'' ⟨⟩; exact hq) ?_ ht
  rw [← hs, hdemands _ hn, hdemands _ (Nat.lt_of_succ_lt hn), List.take_add_one, hd]
  rfl

/-- The tenant starts with one record of the name `a`. -/
def replacingStart : Records := Function.update (fun _ => none) oldId (some "a")

/-- The records after the deletion and the `POST`. -/
def replacingEnd : Records :=
  Function.update (Function.update replacingStart oldId none) newId (some "a")

theorem replacingStart_onePerName : replacingStart.OnePerName := by
  have hempty : Satisfies (fun _ => none) "a" (some none) := by
    rintro x ⟨⟩ id
    exact iff_of_false (Option.some_ne_none _).symm (Option.some_ne_none _).symm
  refine (Records.turns_create hempty rfl).one ?_
  rintro id id' name ⟨⟩

theorem serves_found : Serves replacingStart (.find "a") replacingStart .found := by
  have hpage : (Json.decodeFirst ApplicationPage.decoder
      Http.Response.found.body).toOption.any fun page =>
        (page.applications.getD []).map (·.id) = [oldId] := by
    decide +kernel
  obtain ⟨page, hpage, hids⟩ := (Option.any_eq_true _ _).mp hpage
  refine .found rfl (except_toOption_eq_some.mp hpage) fun id => ?_
  rw [← List.mem_map, of_decide_eq_true hids, List.mem_singleton]
  simp [replacingStart, Function.update_apply]

theorem serves_created : Serves (Function.update replacingStart oldId none) (.create "a")
    replacingEnd (.sample 201 .null) := by
  have hplace : (Http.Response.sample 201 .null).headerText? "location" =
      some ("/Applications/v1/" ++ newId.text) := by
    decide +kernel
  refine .created rfl (by simp [replacingStart, Function.update_apply]) hplace ?_
  rw [String.toList_append]
  exact List.suffix_append _ _

/-- A run of the world in which the tenant answers every request of the creation. -/
theorem reachable_replacing : ∃ q : Replies, q 0 = some (.answered .keys) ∧
    Reachable .sample replacingStart ⟨replacing 6, replacingEnd, q⟩ := by
  -- the lookup is sent at once, and the deletion has to wait
  have h₁ : Reachable .sample replacingStart
      ⟨.play .sample [.ask (.create "a")] {}, replacingStart, _⟩ :=
    .exchange (i := 0) (d := .find "a") .refl (by rintro i o ⟨⟩) (by decide +kernel)
      (.answers serves_found)
  have h₀ : Reachable .sample replacingStart ⟨replacing 0, replacingStart, _⟩ :=
    h₁.quiet (e := .ask (.delete "a")) (by rintro i o ⟨⟩) (by decide +kernel)
  have hremoved := h₀.replacing rfl rfl rfl rfl (.answers (.removed rfl rfl))
  have hcreated := hremoved.replacing rfl rfl rfl rfl (.answers serves_created)
  have hsecret := hcreated.replacing rfl rfl rfl rfl (.answers .other)
  have hrecord := hsecret.replacing rfl rfl rfl rfl (.answers .other)
  have htoken := hrecord.replacing rfl rfl rfl rfl (.answers .other)
  exact ⟨_, rfl, htoken.replacing rfl rfl rfl rfl (.answers .other)⟩

/-- The result of the creation. -/
def replaced : Application :=
  ⟨"a", "00000000-0000-0000-0000-000000000001", "i", ⟨"s"⟩, "t", "k"⟩

/-- `one_record_per_name` on the world of `reachable_replacing`: the last reply ends the creation,
and `newId` is the only record of `a`, while the deletion is still to come. -/
theorem one_record_per_name_sample :
    Draft.sample.accept = .ok Client.sample.settings ∧
      Client.sample.settings.serializeByName = true ∧ replacingStart.OnePerName ∧
      ∃ w w', Reachable .sample replacingStart w ∧ Step .sample w w' ∧
        w.course.calls = [.create "a", .delete "a"] ∧ (w.course.machine.awaited? 1).isSome = true ∧
        (0, .ok (.created replaced)) ∈ w'.results ∧ (0, .ok (.created replaced)) ∉ w.results ∧
        w.records.OnePerName ∧ (∀ id, w.records id = some "b" ↔ replacingStart id = some "b") ∧
        ∃ id, replaced.name = "a" ∧ replaced.id = id.text ∧
          ∀ id', w'.records id' = some "a" ↔ id' = id := by
  obtain ⟨q, hq, h⟩ := reachable_replacing
  have hlast : ((replacing 6).machine.accept? (.answer 0 (.answered .keys))).any fun m =>
      ((m.status? 0).bind Status.ready?).any fun p => (m.awaited? 1).isSome &&
        m.report.results = [] && (0, .ok (.created replaced)) ∈ (m.run 0 p).report.results := by
    decide +kernel
  obtain ⟨m, ha, hlast⟩ := (Option.any_eq_true _ _).mp hlast
  obtain ⟨p, hp, hlast⟩ := (Option.any_eq_true _ _).mp hlast
  simp only [Bool.and_eq_true, decide_eq_true_eq] at hlast
  obtain ⟨⟨hwaits, hnone⟩, hcreated⟩ := hlast
  obtain ⟨status, hstatus, hready⟩ := Option.bind_eq_some_iff.mp hp
  obtain rfl : status = .ready p := by
    cases status <;> cases hready
    rfl
  have hcalls : (replacing 6).calls = [.create "a", .delete "a"] := by decide +kernel
  -- the last reply is given, and the creation has its last turn
  let w : World := ⟨⟨[.create "a", .delete "a"], m⟩, replacingEnd, q⟩
  have hw : Reachable .sample replacingStart w := by
    have hevent := h.tail (.event (.answer 0 (.answered .keys)) (by rintro i o ⟨⟩; exact hq) ha)
    rw [hcalls] at hevent
    exact hevent
  obtain ⟨q', hstep⟩ := exists_turn (c := .sample) (w := w) hstatus
  have hnew : (0, .ok (.created replaced)) ∉ w.results := by
    rw [results, show w.course.machine.report.results = [] from hnone]
    nofun
  obtain ⟨hone, hothers, hcreation⟩ :=
    one_record_per_name Draft.accept_sample rfl replacingStart_onePerName hw
  refine ⟨Draft.accept_sample, rfl, replacingStart_onePerName, w, _, hw, hstep, rfl, hwaits,
    hcreated, hnew, hone, hothers "b" ?_, hcreation _ 0 "a" replaced hstep rfl hcreated hnew⟩
  intro i n hn
  have htext : n.text = "a" := by
    rcases i with _ | _ | i
    · exact ApplicationName.text_of_toOption hn
    · exact ApplicationName.text_of_toOption hn
    · cases hn
  rw [htext]
  decide

end World

end TenantApps
