import TenantApps.Proofs.Names.Guard
import TenantApps.Proofs.Records.Tenant

/-!
# `TenantApps.Proofs.Records.KnowledgeState` — the typestate of what an operation knows

Inside the guard of its name, an operation learns from responses which record of that name exists.
The discipline `informed` makes this knowledge the precondition of its writes: `Demand.remove id`
needs the knowledge that `id` is the only record of the name, `Demand.create` that there is none. It
speaks of requests through `Demand.ofRequest` only.

## Contents
- `KnowledgeState` and the discipline `informed`.
- `Client.follows_asking`, the rule for one request; `follows_find`, `follows_delete` and
  `follows_create`, its instances.
- `Client.follows_clear` and `Client.informed_recreate`, the two parts of an operation.
- `Attests` and `Client.answer_informed`, **every call follows the discipline**, and the result of a
  creation attests the record that it knows at the end.
-/

namespace TenantApps

open Attempt Procedure

/-! ## The discipline -/

/-- **`KnowledgeState`**: the phase of the guard, with the `Knowledge` about the records of its
name. -/
inductive KnowledgeState
  | outside
  | inside (k : Knowledge)
  /-- A request with the demand `d` about the records is in flight. -/
  | asking (d : Demand)
  /-- The guard is released; `k` was known then. -/
  | past (k : Knowledge)

namespace KnowledgeState

/-- No request is in flight, and the guard was not released yet. -/
def Quiescent : KnowledgeState → Prop
  | outside | inside _ => True
  | asking _ | past _ => False

/-- The effect of `sends`. -/
def ask (d : Demand) : KnowledgeState → KnowledgeState
  | inside k =>
    match d with
    | .other => inside k
    | d => asking d
  | s => s

/-- The effect of `receives`: `Demand.learned` becomes the knowledge. -/
def receive (guard : Option ApplicationName) (o : Http.Outcome) : KnowledgeState → KnowledgeState
  | asking d => inside (guard.bind fun n => d.learned n o)
  | s => s

/-- The effect of `releases`. -/
def leave : KnowledgeState → KnowledgeState
  | inside k => past k
  | s => s

/-- **Precondition of a demand**: only the record known to be the only one is removed, and one is
created only if there is known to be none. -/
def Permits (guard : Option ApplicationName) : Demand → KnowledgeState → Prop
  | .find name, s => ∃ n k, guard = some n ∧ name = n.text ∧ s = inside k
  | .remove id, s => guard.isSome ∧ s = inside (some (some id))
  | .create name, s => ∃ n, guard = some n ∧ name = n.text ∧ s = inside (some none)
  | .other, s => s.Quiescent

end KnowledgeState

/-- **Discipline `informed folder guard`**: every request satisfies `Permits` for its
`Demand.ofRequest folder`. -/
def informed (folder : String) (guard : Option ApplicationName) : Discipline KnowledgeState where
  allows
    | .acquires (.name n), s => guard = some n ∧ s = .outside
    | .releases (.name n), s => guard = some n ∧ ∃ k, s = .inside k
    | .sends _ r, s => KnowledgeState.Permits guard (.ofRequest folder r) s
    | .acquires (.endpoint _), s => s.Quiescent
    | _, _ => True
  after
    | .acquires (.name _), _, s' => s' = .inside none
    | .releases (.name _), s, s' => s' = s.leave
    | .sends _ r, s, s' => s' = s.ask (.ofRequest folder r)
    | .receives _ o, s, s' => s' = s.receive guard o
    | _, s, s' => s' = s

section

variable {folder : String} {guard : Option ApplicationName} {s : KnowledgeState} {stage : Stage}
  {r : Http.Request} {e : Endpoint}

theorem KnowledgeState.Quiescent.receive (hs : s.Quiescent) (o : Http.Outcome) :
    s.receive guard o = s := by
  cases s with
  | outside | inside k => rfl
  | asking d | past k => exact hs.elim

theorem KnowledgeState.Quiescent.ask (hs : s.Quiescent) : s.ask .other = s := by
  cases s with
  | outside | inside k => rfl
  | asking d | past k => exact hs.elim

theorem informed_framesRequest (hs : s.Quiescent) (hr : Demand.ofRequest folder r = .other) :
    (informed folder guard).FramesRequest s stage r where
  allows := by
    show KnowledgeState.Permits guard (.ofRequest folder r) s
    rw [hr]
    exact hs
  sends s' h := by
    have h : s' = s.ask (.ofRequest folder r) := h
    rw [h, hr, hs.ask]
  receives o s' h := Eq.trans h (hs.receive o)

theorem informed_ignores (hs : s.Quiescent) : (informed folder guard).Ignores s (.endpoint e) :=
  ⟨hs, trivial, fun _ h => h, fun _ h => h⟩

theorem informed_framesAddress : (informed folder guard).FramesAddress s e :=
  ⟨fun _ => trivial, fun _ => trivial, fun _ _ h => h, fun _ _ h => h⟩

end

/-! ## One request -/

namespace Client

variable {c : Client} {d : Draft} {n : ApplicationName}

/-- Postcondition: a value `x` leaves the knowledge `tell x`, an error any knowledge. -/
def Learns {α : Type} (tell : α → Option Uuid) (r : Except Error α) (s : KnowledgeState) : Prop :=
  ∃ k, s = .inside k ∧ ∀ a, r = .ok a → k = some (tell a)

theorem learns_error {α : Type} {tell : α → Option Uuid} (k : Knowledge) (e : Error) :
    Learns tell (.error e) (.inside k) :=
  ⟨k, rfl, fun _ h => by cases h⟩

/-- Rule for `Attempt.ask` whose verdict agrees with `Demand.learned`. -/
theorem follows_asking {α : Type} {tell : α → Option Uuid} {stage : Stage}
    {request : Except ConfigError Http.Request} {read : Http.Response → Attempt α}
    {verdict : Http.Response → Except Error α} {demand : Demand} {k : Knowledge}
    (hdemand : ∀ r, request = .ok r → Demand.ofRequest c.folder r = demand)
    (hpermits : KnowledgeState.Permits (some n) demand (.inside k))
    (hask : KnowledgeState.ask demand (.inside k) = .asking demand)
    (hread : ∀ response, verdict? (read response) = some (verdict response))
    (htell : ∀ response a, verdict response = .ok a →
      demand.learned n (.answered response) = some (tell a)) :
    Follows (informed c.folder (some n)) (Learns tell) (Attempt.ask stage request read)
      (.inside k) := by
  apply follows_ask (fun e _ => learns_error k _)
  · intro r hr
    show KnowledgeState.Permits _ _ _
    rw [hdemand r hr]
    exact hpermits
  · intro r hr s hs o s' ho
    have hs : s = KnowledgeState.ask (.ofRequest c.folder r) (.inside k) := hs
    rw [hdemand r hr, hask] at hs
    subst hs
    obtain rfl : s' = .inside (demand.learned n o) := ho
    -- only a response carries information
    cases o with
    | failed e => exact learns_error _ _
    | refused e => exact learns_error _ _
    | answered response =>
      exact Follows.of_verdict? (hread response) ⟨_, rfl, htell response⟩

variable (hd : d.accept = .ok c.settings)

include hd

/-- `Directory.find` learns which record exists. -/
theorem follows_find (k : Knowledge) : Follows (informed c.folder (some n))
    (Learns fun found => found.map ApplicationRecord.id) (c.directory.find n) (.inside k) := by
  refine follows_asking (fun r hr => demand_lookup hd hr) ⟨n, k, rfl, rfl, rfl⟩ rfl
    (Directory.verdict?_readLookup n) fun response found hf => ?_
  simp only [Demand.learned, hf]
  rfl

/-- `Directory.delete` of the only record learns that there is none. -/
theorem follows_delete (id : Uuid) (stage : Stage) : Follows (informed c.folder (some n))
    (Learns fun _ => none) (c.directory.delete id stage) (.inside (some (some id))) := by
  refine follows_asking (fun r hr => demand_delete hd hr) ⟨rfl, rfl⟩ rfl
    (Directory.verdict?_readDeletion stage) fun response deletion hdel => ?_
  rw [Demand.learned, if_pos]
  exact (Directory.deletionVerdict_eq_ok.mp hdel).imp And.left And.left

/-- `Directory.create` learns that the new record is the only one. -/
theorem follows_create : Follows (informed c.folder (some n)) (Learns some)
    (c.directory.create n) (.inside (some none)) := by
  refine follows_asking (fun r hr => demand_create hd hr) ⟨n, rfl, rfl, rfl⟩ rfl
    Directory.verdict?_readCreation fun response id hid => ?_
  simp only [Demand.learned, hid]
  rfl

/-! ## The parts of an operation -/

/-- `Client.clear` learns that there is no record of the name. -/
theorem follows_clear (stage : Stage) (change : Telemetry.Change) (k : Knowledge) :
    Follows (informed c.folder (some n)) (Learns fun _ => none) (c.clear stage change n)
      (.inside k) := by
  apply Attempt.follows_bind (follows_find hd k)
  · intro found s hs
    obtain ⟨k', rfl, hk⟩ := hs
    cases found with
    | none => exact ⟨k', rfl, fun _ _ => hk none rfl⟩
    | some existing =>
      -- it knows that this is the only record, so it may remove it
      rw [hk _ rfl]
      apply Attempt.follows_bind (follows_delete hd existing.id stage)
      · intro deletion s hs
        obtain ⟨k', rfl, hk⟩ := hs
        have hlearns : Learns (fun _ => none) (.ok () : Except Error Unit) (.inside k') :=
          ⟨k', rfl, fun _ _ => hk deletion rfl⟩
        cases deletion with
        | deleted => exact Follows.of_verdict? (a := .ok ()) rfl hlearns
        | notFound => exact hlearns
      · intro e s hs
        obtain ⟨k', rfl, -⟩ := hs
        exact learns_error k' e
  · intro e s hs
    obtain ⟨k', rfl, -⟩ := hs
    exact learns_error k' e

/-- The knowledge behind an `Application`: its record is the only one of the name. -/
def Equipped (n : ApplicationName) (k : Knowledge) (a : Application) : Prop :=
  ∃ id, k = some (some id) ∧ a.name = n.text ∧ a.id = id.text

/-- `Client.recreate` ends with an `Equipped` application. -/
theorem informed_recreate (k : Knowledge) : Follows (informed c.folder (some n))
    (fun r s => ∃ k, s = .inside k ∧ ∀ a, r = .ok a → Equipped n k a) (c.recreate n)
    (.inside k) := by
  have failed {s : KnowledgeState} {k : Knowledge} (hs : s = .inside k) (e : Error) :
      ∃ k, s = .inside k ∧ ∀ a, Except.error e = .ok a → Equipped n k a :=
    ⟨k, hs, fun _ h => by cases h⟩
  rw [recreate_eq]
  apply Attempt.follows_bind (follows_clear hd .deleteExistingApplication .deletedExisting k)
  · -- it knows that there is no record, so it may add one
    intro _ s hs
    obtain ⟨k, rfl, hk⟩ := hs
    rw [hk () rfl]
    apply Attempt.follows_bind (follows_create hd)
    · -- what comes after leaves the records as they are
      intro id s hs
      obtain ⟨k, rfl, hk⟩ := hs
      rw [hk id rfl]
      have other {stage : Stage} {r : Http.Request}
          (hr : Demand.ofRequest c.folder r = .other) :
          (informed c.folder (some n)).FramesRequest (.inside (some (some id))) stage r :=
        informed_framesRequest trivial hr
      have address (e : Endpoint) : Steady (informed c.folder (some n)) (.inside (some (some id)))
          (c.discovery.address e) :=
        c.discovery.steady_address (informed_ignores trivial) informed_framesAddress fun r hr =>
          other (demand_discovery hd hr)
      refine c.follows_equip n id (fun r hr => other (ofRequest_below hd (by decide) hr))
        (fun r hr => other (ofRequest_below hd (by decide) hr)) (fun secret clientId => ?_)
        (failed rfl)
      refine (address .token).follows_bind ?_ (failed rfl)
      intro tokenUrl
      refine (address .keys).follows_bind ?_ (failed rfl)
      intro jwksUri
      refine ⟨_, rfl, ?_⟩
      intro a ha
      cases ha
      exact ⟨id, rfl, rfl, rfl⟩
    · intro e s hs
      obtain ⟨k, rfl, -⟩ := hs
      exact failed rfl e
  · intro e s hs
    obtain ⟨k, rfl, -⟩ := hs
    exact failed rfl e

omit hd in
/-- `Client.onName` runs its body between `outside` and `past`, if names are serialized. -/
theorem informed_onName {α : Type} {f : ApplicationName → Attempt α} {folder : String}
    {Q : ApplicationName → Knowledge → α → Prop} (hc : c.settings.serializeByName = true)
    (text : String) (hf : ∀ n, Follows (informed folder (some n))
      (fun r s => ∃ k, s = .inside k ∧ ∀ a, r = .ok a → Q n k a) (f n) (.inside none)) :
    Follows (informed folder (ApplicationName.check text).toOption) (fun r s => ∀ a, r = .ok a →
      ∃ n k, (ApplicationName.check text).toOption = some n ∧ s = .past k ∧ Q n k a)
      (c.onName text f) .outside := by
  unfold onName
  cases ApplicationName.check text with
  | error e => exact Follows.of_verdict? (a := .error (.config (.name e))) rfl fun _ h => by cases h
  | ok n =>
    show Follows _ _ (c.serialized n (f n)) _
    rw [serialized, if_pos hc]
    refine Follows.locked ⟨rfl, rfl⟩ ?_
    intro s hs
    obtain rfl : s = .inside none := hs
    apply (hf n).mono
    intro r s hs
    obtain ⟨k, rfl, hQ⟩ := hs
    refine ⟨⟨rfl, k, rfl⟩, ?_⟩
    intro s' hs' a ha
    obtain rfl : s' = .past k := hs'
    exact ⟨n, k, rfl, rfl, hQ a ha⟩

end Client

/-! ## Calls -/

/-- **`Attests guard r s`**: if `r` is a created application, the guard was released with knowledge
by which the application is `Equipped`. -/
def Attests (guard : Option ApplicationName) (r : Except Error Answer)
    (s : KnowledgeState) : Prop :=
  ∀ a, r = .ok (.created a) → ∃ n k, guard = some n ∧ s = .past k ∧ Client.Equipped n k a

/-- **Every call follows `informed`** and attests its result. -/
theorem Client.answer_informed {c : Client} {d : Draft} (hd : d.accept = .ok c.settings)
    (hc : c.settings.serializeByName = true) (call : Call) :
    Follows (informed c.folder call.name?) (Attests call.name?) (c.answer call) .outside := by
  have lookup (e : Endpoint) : Follows (informed c.folder none) (Attests none)
      (Answer.address <$> c.discovery.address e : Attempt Answer) .outside := by
    have haddress : Steady (informed c.folder none) .outside (c.discovery.address e) :=
      c.discovery.steady_address (informed_ignores trivial) informed_framesAddress fun r hr =>
        informed_framesRequest trivial (demand_discovery hd hr)
    apply follows_map haddress
    · intro _ _ _ b hb
      cases hb
    · intro _ _ _ b hb
      cases hb
  cases call with
  | create text =>
    refine follows_map (follows_observed _ _ (informed_onName hc text fun n =>
      informed_recreate hd none)) ?_ ?_
    · intro a s hs b hb
      cases hb
      exact hs a rfl
    · intro e s _ b hb
      cases hb
  | delete text =>
    -- a deletion creates nothing, so nothing has to be known at its end
    have hremove (n : ApplicationName) : Follows (informed c.folder (some n))
        (fun r s => ∃ k, s = .inside k ∧ ∀ a, r = .ok a → True) (c.remove n) (.inside none) := by
      apply (follows_clear hd .deleteApplication .deleted none).mono
      intro r s hs
      obtain ⟨k, rfl, -⟩ := hs
      exact ⟨k, rfl, fun _ _ => trivial⟩
    have honName := informed_onName (Q := fun _ _ _ => True) hc text hremove
    apply follows_map (Q := fun _ _ => True)
    · exact (follows_observed _ _ honName).mono fun _ _ _ => trivial
    · intro _ _ _ b hb
      cases hb
    · intro _ _ _ b hb
      cases hb
  | tokenUrl => exact lookup .token
  | jwksUri => exact lookup .keys
  | credentials => exact Follows.of_verdict? (a := .ok (.credentials _)) rfl fun _ h => by cases h
  | settings => exact Follows.of_verdict? (a := .ok (.settings _)) rfl fun _ h => by cases h

end TenantApps
