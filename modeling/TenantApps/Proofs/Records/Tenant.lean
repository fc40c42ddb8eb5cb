import Mathlib.Logic.Function.Basic
import TenantApps.Proofs.Records.Demand

/-!
# `TenantApps.Proofs.Records.Tenant` — an environment that keeps records

A tenant treats a request atomically: it lists the records of a name, removes one, or adds one under
a fresh `Uuid`. The response may be lost or replaced by a 5xx, and so may the request. If nobody
else writes records of a name, `Knowledge` about them stays true across a request: what
`Demand.learned` reads from the outcome `Satisfies` on the records afterwards.

## Contents
- `Records`, `Serves` and `Treats`, the transition relation of a tenant.
- `Knowledge`, `Satisfies` and `Demand.learned`, the knowledge about a name and how an outcome
  updates it.
- `Treats.find`, `Treats.remove` and `Treats.create`, **soundness of `Demand.learned`** for each
  demand.
-/

namespace TenantApps

/-! ## Tenants -/

/-- The records of a tenant: the name of the application with a given `Uuid`. -/
abbrev Records := Uuid → Option String

/-- No two records have the same name. -/
def Records.OnePerName (R : Records) : Prop :=
  ∀ id id' name, R id = some name → R id' = some name → id = id'

/-- An outcome without information: no response, or a 5xx. -/
def Http.Outcome.Lost : Http.Outcome → Prop
  | .answered response => 500 ≤ response.status ∧ response.status < 600
  | .failed _ | .refused _ => True

/-- **`Serves R d R' response`**: in the state `R`, a tenant may treat `d` and respond with
`response`; `R'` is its state afterwards. -/
inductive Serves (R : Records) : Demand → Records → Http.Response → Prop
  /-- A page with exactly the records of the name. -/
  | found {name response page} (hs : response.status = 200)
    (hp : Json.decodeFirst ApplicationPage.decoder response.body = .ok page)
    (hl : ∀ id, R id = some name ↔ ∃ r ∈ page.applications.getD [], r.id = id) :
    Serves R (.find name) R response
  | absent {name response} (hs : response.status = 404) (hl : ∀ id, R id ≠ some name) :
    Serves R (.find name) R response
  | removed {id response} (hs : response.isSuccess = true) (hr : (R id).isSome) :
    Serves R (.remove id) (Function.update R id none) response
  | missing {id response} (hs : response.status = 404) (hr : R id = none) :
    Serves R (.remove id) R response
  /-- The `Uuid` is fresh, and the `location` header ends with it. -/
  | created {name id response place} (hs : response.status = 201) (hr : R id = none)
    (hl : response.headerText? "location" = some place)
    (hid : id.text.toList <:+ place.toList) :
    Serves R (.create name) (Function.update R id (some name)) response
  | other {response} : Serves R .other R response

/-- **`Treats R d R' o`**: `Serves` over a lossy channel. -/
inductive Treats (R : Records) (d : Demand) : Records → Http.Outcome → Prop
  | answers {R' response} (h : Serves R d R' response) : Treats R d R' (.answered response)
  /-- The demand has its effect, and the response is lost. -/
  | loses {R' response o} (h : Serves R d R' response) (ho : o.Lost) : Treats R d R' o
  /-- The request is lost. -/
  | ignores {o} (ho : o.Lost) : Treats R d R o

/-! ## Knowledge -/

/-- **`Knowledge`** about the records of one name: `none` if nothing is known, `some none` if there
is no record, `some (some id)` if `id` is the only one. -/
abbrev Knowledge := Option (Option Uuid)

/-- **`Satisfies R name k`**: the knowledge `k` about `name` is true in `R`. -/
def Satisfies (R : Records) (name : String) (k : Knowledge) : Prop :=
  ∀ x, k = some x → ∀ id, R id = some name ↔ x = some id

/-- The knowledge that the outcome of a demand conveys. -/
def Demand.learned (n : ApplicationName) (d : Demand) (o : Http.Outcome) : Knowledge :=
  match o with
  | .answered response =>
    match d with
    | .find _ => (Directory.lookupVerdict n response).toOption.map fun found =>
      found.map ApplicationRecord.id
    | .remove _ => if response.status = 404 ∨ response.isSuccess then some none else none
    | .create _ => (Directory.creationVerdict response).toOption.map some
    | .other => none
  | .failed _ | .refused _ => none

/-- `R'` differs from `R` in records of `name` only. -/
def Records.OnlyAt (name : String) (R R' : Records) : Prop :=
  ∀ name', name' ≠ name → ∀ id, R' id = some name' ↔ R id = some name'

section

variable {R R' : Records} {n : ApplicationName} {name : String} {id : Uuid} {d : Demand}
  {o : Http.Outcome} {k : Knowledge}

theorem satisfies_none : Satisfies R name none := by
  intro x hx
  cases hx

theorem Satisfies.congr (h : Satisfies R name k) (hR : ∀ id, R' id = some name ↔ R id = some name) :
    Satisfies R' name k :=
  fun x hx id => (hR id).trans (h x hx id)

/-- A lost outcome conveys nothing. -/
theorem Demand.learned_lost (ho : o.Lost) : d.learned n o = none := by
  cases o with
  | failed e => rfl
  | refused e => rfl
  | answered response =>
    -- no verdict accepts a failure of the server
    obtain ⟨hlow, hhigh⟩ := ho
    have h404 : response.status ≠ 404 := by omega
    cases d with
    | find name =>
      cases hv : Directory.lookupVerdict n response with
      | error e => simp only [learned, hv]; rfl
      | ok found =>
        rcases Directory.lookupVerdict_eq_ok.mp hv with ⟨h, -⟩ | ⟨h, -⟩
        · exact absurd h h404
        · omega
    | remove id =>
      apply if_neg
      intro h
      rcases h with h | h
      · exact h404 h
      · simp only [Http.Response.isSuccess, Bool.and_eq_true, decide_eq_true_eq] at h
        omega
    | create name =>
      cases hv : Directory.creationVerdict response with
      | error e => simp only [learned, hv]; rfl
      | ok id =>
        have h := (Directory.creationVerdict_eq_ok.mp hv).1
        omega
    | other => rfl

/-! ## Soundness of `Demand.learned` -/

theorem Serves.find {response : Http.Response} (h : Serves R (.find n.text) R' response) :
    R' = R ∧ Satisfies R n.text (Demand.learned n (.find n.text) (.answered response)) := by
  have learned {found : Option ApplicationRecord}
      (hl : Directory.lookupVerdict n response = .ok found → ∀ id, R id = some n.text ↔
        found.map ApplicationRecord.id = some id)
      (hv : Directory.lookupVerdict n response = .ok found) :
      Satisfies R n.text (Demand.learned n (.find n.text) (.answered response)) := by
    rw [Demand.learned, hv]
    intro x hx
    cases hx
    exact hl hv
  cases hv : Directory.lookupVerdict n response with
  | error e =>
    have hn : Demand.learned n (.find n.text) (.answered response) = none := by
      rw [Demand.learned, hv]
      rfl
    rw [hn]
    cases h <;> exact ⟨rfl, satisfies_none⟩
  | ok found =>
    cases h with
    | found hs hp hl =>
      refine ⟨rfl, learned ?_ hv⟩
      intro hv id
      rcases Directory.lookupVerdict_eq_ok.mp hv with ⟨h, -⟩ | ⟨-, page', hp', hf⟩
      · rw [hs] at h
        cases h
      · rw [hp] at hp'
        cases hp'
        rw [hl, hf]
        cases found <;> simp
    | absent hs hl =>
      refine ⟨rfl, learned ?_ hv⟩
      intro hv id
      rcases Directory.lookupVerdict_eq_ok.mp hv with ⟨-, hf⟩ | ⟨h, -⟩
      · rw [hf]
        exact iff_of_false (hl id) (Option.some_ne_none id).symm
      · rw [hs] at h
        cases h

/-- `find` changes nothing, and its outcome is true. -/
theorem Treats.find (h : Treats R (.find n.text) R' o) :
    R' = R ∧ Satisfies R n.text (Demand.learned n (.find n.text) o) := by
  cases h with
  | answers h => exact h.find
  | loses h ho =>
    rw [Demand.learned_lost ho]
    exact ⟨h.find.1, satisfies_none⟩
  | ignores ho =>
    rw [Demand.learned_lost ho]
    exact ⟨rfl, satisfies_none⟩

/-- **`R.Turns name k R'`**: `R'` differs from `R` at `name` only, keeps `OnePerName`, and `k` is
true in `R'`. -/
structure Records.Turns (R : Records) (name : String) (k : Knowledge) (R' : Records) : Prop where
  only : R.OnlyAt name R'
  one : R.OnePerName → R'.OnePerName
  satisfies : Satisfies R' name k

theorem Records.Turns.same (h : Satisfies R name k) : R.Turns name k R :=
  ⟨fun _ _ _ => .rfl, id, h⟩

theorem Records.Turns.forget (h : R.Turns name k R') : R.Turns name none R' :=
  ⟨h.only, h.one, satisfies_none⟩

/-- Removing the only record of a name. -/
theorem Records.turns_remove (hk : Satisfies R name (some (some id))) :
    R.Turns name (some none) (Function.update R id none) := by
  have hid : R id = some name := (hk _ rfl id).mpr rfl
  have hne (id' : Uuid) (h : id' ≠ id) : Function.update R id none id' = R id' :=
    Function.update_of_ne h ..
  refine ⟨?_, ?_, ?_⟩
  · intro name' hname id'
    by_cases h : id' = id
    · subst h
      rw [Function.update_self, hid]
      refine iff_of_false (Option.some_ne_none _).symm fun he => hname (Option.some.inj he).symm
    · rw [hne id' h]
  · intro hone i j m hi hj
    by_cases h : i = id
    · subst h
      rw [Function.update_self] at hi
      cases hi
    · by_cases h' : j = id
      · subst h'
        rw [Function.update_self] at hj
        cases hj
      · rw [hne i h] at hi
        rw [hne j h'] at hj
        exact hone i j m hi hj
  · intro x hx id'
    cases hx
    refine iff_of_false ?_ (Option.some_ne_none id').symm
    intro he
    by_cases h : id' = id
    · subst h
      rw [Function.update_self] at he
      cases he
    · rw [hne id' h] at he
      exact h (Option.some.inj ((hk _ rfl id').mp he)).symm

/-- Creating a record where there is none of its name. -/
theorem Records.turns_create (hk : Satisfies R name (some none)) (hid : R id = none) :
    R.Turns name (some (some id)) (Function.update R id (some name)) := by
  have hnone (id' : Uuid) : R id' ≠ some name := fun he =>
    Option.some_ne_none id' ((hk _ rfl id').mp he).symm
  have hne (id' : Uuid) (h : id' ≠ id) : Function.update R id (some name) id' = R id' :=
    Function.update_of_ne h ..
  refine ⟨?_, ?_, ?_⟩
  · intro name' hname id'
    by_cases h : id' = id
    · subst h
      rw [Function.update_self, hid]
      exact iff_of_false (fun he => hname (Option.some.inj he).symm) (Option.some_ne_none _).symm
    · rw [hne id' h]
  · intro hone i j m hi hj
    by_cases h : i = id
    · by_cases h' : j = id
      · rw [h, h']
      · -- only one of them is the new record, and the other one has another name
        subst h
        rw [Function.update_self] at hi
        rw [hne j h', ← hi] at hj
        exact absurd hj (hnone j)
    · by_cases h' : j = id
      · subst h'
        rw [Function.update_self] at hj
        rw [hne i h, ← hj] at hi
        exact absurd hi (hnone i)
      · rw [hne i h] at hi
        rw [hne j h'] at hj
        exact hone i j m hi hj
  · intro x hx id'
    cases hx
    by_cases h : id' = id
    · subst h
      rw [Function.update_self]
      exact iff_of_true rfl rfl
    · rw [hne id' h]
      exact iff_of_false (hnone id') fun he => h (Option.some.inj he).symm

/-- `remove` of the only record of a name. -/
theorem Treats.remove (h : Treats R (.remove id) R' o) (hk : Satisfies R n.text (some (some id))) :
    R.Turns n.text (Demand.learned n (.remove id) o) R' := by
  have hid : R id = some n.text := (hk _ rfl id).mpr rfl
  have served {response : Http.Response} (h : Serves R (.remove id) R' response) :
      R.Turns n.text (Demand.learned n (.remove id) (.answered response)) R' := by
    cases h with
    | removed hs hr =>
      rw [Demand.learned, if_pos (.inr hs)]
      exact Records.turns_remove hk
    | missing hs hr =>
      -- the record is there, as was known
      rw [hid] at hr
      cases hr
  cases h with
  | answers h => exact served h
  | loses h ho =>
    rw [Demand.learned_lost ho]
    exact (served h).forget
  | ignores ho =>
    rw [Demand.learned_lost ho]
    exact .same satisfies_none

/-- `create` where there is no record of the name. -/
theorem Treats.create (h : Treats R (.create n.text) R' o) (hk : Satisfies R n.text (some none)) :
    R.Turns n.text (Demand.learned n (.create n.text) o) R' := by
  have served {response : Http.Response} (h : Serves R (.create n.text) R' response) :
      R.Turns n.text (Demand.learned n (.create n.text) (.answered response)) R' := by
    cases h with
    | created hs hr hl hid =>
      have hturn := Records.turns_create hk hr
      cases hv : Directory.creationVerdict response with
      | error e =>
        simp only [Demand.learned, hv]
        exact hturn.forget
      | ok u =>
        -- the ID that is read from the place is that of the record
        have hu := (Directory.creationVerdict_eq_ok.mp hv).2
        rw [hl] at hu
        simp only [Demand.learned, hv, applicationId_of_suffix hid hu]
        exact hturn
  cases h with
  | answers h => exact served h
  | loses h ho =>
    rw [Demand.learned_lost ho]
    exact (served h).forget
  | ignores ho =>
    rw [Demand.learned_lost ho]
    exact .same satisfies_none

/-- Any other demand leaves the records as they are. -/
theorem Treats.other (h : Treats R .other R' o) : R' = R := by
  cases h with
  | answers h =>
    cases h
    rfl
  | loses h ho =>
    cases h
    rfl
  | ignores ho => rfl

end

end TenantApps
