import TenantApps.Proofs.Discipline
import TenantApps.Tenant.Client

/-!
# `TenantApps.Proofs.Tenant.Verdict` — the verdict on a response

A reader of a response has `emit` nodes only, so its result is a function of the response: the
verdict of its stage.

## Contents
- `Directory.lookupVerdict`, `creationVerdict`, `secretVerdict`, `recordVerdict`, `deletionVerdict`
  and `Discovery.documentVerdict`, each with the lemma that it is `verdict?` of its reader.
- `Staged`, results whose error, if any, has a stage: every verdict is.
-/

namespace TenantApps

open Procedure

namespace Attempt

variable {α β : Type}

theorem verdict?_bind_ok {a : Attempt α} {x : α} (f : α → Attempt β)
    (h : verdict? a = some (.ok x)) : verdict? (a >>= f : Attempt β) = verdict? (f x) := by
  rw [bind_eq, Procedure.verdict?_bind h]

theorem verdict?_bind_error {a : Attempt α} {e : Error} (f : α → Attempt β)
    (h : verdict? a = some (.error e)) :
    verdict? (a >>= f : Attempt β) = some (.error e) := by
  rw [bind_eq, Procedure.verdict?_bind h]
  rfl

/-- `Attempt.decode` has a verdict. -/
theorem verdict?_decode (stage : Stage) (decoder : Json.Decoder α) (response : Http.Response) :
    verdict? (Attempt.decode stage decoder response) =
      some ((Json.decodeFirst decoder response.body).mapError
        (.responseParse stage response.status)) := rfl

end Attempt

/-- The verdict of a reader that checks the status and decodes the body. -/
def bodyVerdict {α : Type} (stage : Stage) (status : Nat) (decoder : Json.Decoder α)
    (response : Http.Response) : Except Error α :=
  if response.status ≠ status then .error (.unexpectedStatus stage response.status)
  else (Json.decodeFirst decoder response.body).mapError (.responseParse stage response.status)

theorem bodyVerdict_eq_ok {α : Type} {stage : Stage} {status : Nat} {decoder : Json.Decoder α}
    {response : Http.Response} {x : α} : bodyVerdict stage status decoder response = .ok x ↔
      response.status = status ∧ Json.decodeFirst decoder response.body = .ok x := by
  unfold bodyVerdict
  by_cases h : response.status = status
  · rw [if_neg (not_not_intro h), and_iff_right h]
    cases Json.decodeFirst decoder response.body with
    | error e => exact ⟨nofun, nofun⟩
    | ok y => exact ⟨fun he => by cases he; rfl, fun he => by cases he; rfl⟩
  · rw [if_pos h]
    exact ⟨nofun, fun he => absurd he.1 h⟩

theorem except_isOk {ε α : Type} {x : Except ε α} : x.isOk = true ↔ ∃ a, x = .ok a := by
  cases x with
  | error e => exact ⟨nofun, nofun⟩
  | ok a => exact ⟨fun _ => ⟨a, rfl⟩, fun _ => rfl⟩

theorem except_toOption_eq_some {ε α : Type} {x : Except ε α} {a : α} :
    x.toOption = some a ↔ x = .ok a := by
  cases x <;> simp [Except.toOption]

theorem except_bind_eq_ok {ε α β : Type} {x : Except ε α} {f : α → Except ε β} {y : β} :
    (x >>= f) = .ok y ↔ ∃ a, x = .ok a ∧ f a = .ok y := by
  cases x with
  | error e => exact ⟨nofun, fun ⟨_, h, _⟩ => nomatch h⟩
  | ok a =>
    refine ⟨fun h => ⟨a, rfl, h⟩, fun ⟨b, hb, h⟩ => ?_⟩
    cases hb
    exact h

theorem except_bind_eq_error {ε α β : Type} {x : Except ε α} {f : α → Except ε β} {e : ε} :
    (x >>= f) = .error e ↔ x = .error e ∨ ∃ a, x = .ok a ∧ f a = .error e := by
  cases x with
  | error e' => simp [Bind.bind, Except.bind]
  | ok a => simp [Bind.bind, Except.bind]

/-- The verdict on a required field. -/
def presentVerdict (stage : Stage) (field : String) : Option String → Except Error String
  | some s => .ok s
  | none => .error (.missingField stage field)

theorem presentVerdict_eq_ok {stage : Stage} {field s : String} {a : Option String} :
    presentVerdict stage field a = .ok s ↔ a = some s := by
  cases a <;> simp [presentVerdict]

namespace Directory

variable (d : Directory)

/-- The verdict on a page: at most one application. -/
def singleVerdict (name : ApplicationName) (page : ApplicationPage) :
    Except Error (Option ApplicationRecord) :=
  match page.applications.getD [] with
  | [] => .ok none
  | [r] => .ok (some r)
  | rs => .error (.multipleApplications name.text rs.length)

def lookupVerdict (name : ApplicationName) (response : Http.Response) :
    Except Error (Option ApplicationRecord) :=
  if response.status = 404 then .ok none
  else bodyVerdict .lookupApplications 200 ApplicationPage.decoder response >>= singleVerdict name

def creationVerdict (response : Http.Response) : Except Error Uuid :=
  if response.status ≠ 201 then .error (.unexpectedStatus .createApplication response.status)
  else applicationId (response.headerText? "location")

def secretVerdict (response : Http.Response) : Except Error String :=
  bodyVerdict .createApiSecret 201 SecretAnswer.decoder response >>= fun answer =>
    presentVerdict .createApiSecret "secret" (answer.secret.filter (· ≠ ""))

def recordVerdict (response : Http.Response) : Except Error ApplicationRecord :=
  bodyVerdict .retrieveClientId 200 ApplicationRecord.decoder response

def deletionVerdict (stage : Stage) (response : Http.Response) : Except Error Deletion :=
  if response.status = 404 then .ok .notFound
  else if response.isSuccess then .ok .deleted
  else .error (.unexpectedStatus stage response.status)

theorem singleVerdict_eq_ok {name : ApplicationName} {page : ApplicationPage}
    {found : Option ApplicationRecord} :
    singleVerdict name page = .ok found ↔ page.applications.getD [] = found.toList := by
  unfold singleVerdict
  rcases page.applications.getD [] with _ | ⟨r, _ | ⟨r', rs⟩⟩ <;> cases found <;> simp

theorem singleVerdict_eq_error {name : ApplicationName} {page : ApplicationPage} {e : Error} :
    singleVerdict name page = .error e ↔ 2 ≤ (page.applications.getD []).length ∧
      .multipleApplications name.text (page.applications.getD []).length = e := by
  unfold singleVerdict
  rcases page.applications.getD [] with _ | ⟨r, _ | ⟨r', rs⟩⟩ <;> simp

/-- A lookup accepts 404, and 200 with a page of at most one application. -/
theorem lookupVerdict_eq_ok {name : ApplicationName} {response : Http.Response}
    {found : Option ApplicationRecord} : lookupVerdict name response = .ok found ↔
      response.status = 404 ∧ found = none ∨ response.status = 200 ∧ ∃ page,
        Json.decodeFirst ApplicationPage.decoder response.body = .ok page ∧
          page.applications.getD [] = found.toList := by
  unfold lookupVerdict
  by_cases h : response.status = 404
  · rw [if_pos h, h]
    simp [eq_comm]
  · rw [if_neg h, except_bind_eq_ok]
    simp only [bodyVerdict_eq_ok, singleVerdict_eq_ok, h, false_and, false_or, and_assoc,
      exists_and_left]

/-- A creation accepts 201 with a `Uuid` in `location`. -/
theorem creationVerdict_eq_ok {response : Http.Response} {id : Uuid} :
    creationVerdict response = .ok id ↔
      response.status = 201 ∧ applicationId (response.headerText? "location") = .ok id := by
  unfold creationVerdict
  by_cases h : response.status = 201 <;> simp [h]

/-- The creation of a secret accepts 201 with a non-empty secret. -/
theorem secretVerdict_eq_ok {response : Http.Response} {secret : String} :
    secretVerdict response = .ok secret ↔ response.status = 201 ∧ ∃ answer,
      Json.decodeFirst SecretAnswer.decoder response.body = .ok answer ∧
        answer.secret.filter (· ≠ "") = some secret := by
  rw [secretVerdict, except_bind_eq_ok]
  simp only [bodyVerdict_eq_ok, presentVerdict_eq_ok, and_assoc, exists_and_left]

/-- A deletion accepts 404 and every 2xx. -/
theorem deletionVerdict_eq_ok {stage : Stage} {response : Http.Response} {deletion : Deletion} :
    deletionVerdict stage response = .ok deletion ↔
      response.status = 404 ∧ deletion = .notFound ∨
        response.isSuccess = true ∧ deletion = .deleted := by
  unfold deletionVerdict
  by_cases h : response.status = 404
  · simp [h, Http.Response.isSuccess, eq_comm]
  · by_cases hs : response.isSuccess = true <;> simp [h, hs, eq_comm]

theorem verdict?_single (name : ApplicationName) (page : ApplicationPage) :
    verdict? (single name page) = some (singleVerdict name page) := by
  unfold single singleVerdict
  rcases page.applications.getD [] with _ | ⟨r, _ | ⟨r', rs⟩⟩ <;> rfl

theorem verdict?_readLookup (name : ApplicationName) (response : Http.Response) :
    verdict? (readLookup name response) = some (lookupVerdict name response) := by
  unfold readLookup lookupVerdict
  by_cases h : response.status = 404
  · simp only [if_pos h]
    rfl
  · simp only [if_neg h, bodyVerdict]
    by_cases h₂ : response.status ≠ 200
    · simp only [if_pos h₂]
      rfl
    · simp only [if_neg h₂]
      have hd := Attempt.verdict?_decode .lookupApplications ApplicationPage.decoder response
      cases h₃ : Json.decodeFirst ApplicationPage.decoder response.body with
      | error e =>
        rw [h₃] at hd
        exact Attempt.verdict?_bind_error _ hd
      | ok page =>
        rw [h₃] at hd
        exact (Attempt.verdict?_bind_ok _ hd).trans (verdict?_single name page)

theorem verdict?_readCreation (response : Http.Response) :
    verdict? (readCreation response) = some (creationVerdict response) := by
  unfold readCreation creationVerdict
  split <;> rfl

theorem verdict?_readSecret (response : Http.Response) :
    verdict? (readSecret response) = some ((secretVerdict response).map Secret.mk) := by
  unfold readSecret secretVerdict bodyVerdict
  by_cases h : response.status ≠ 201
  · simp only [if_pos h]
    rfl
  · simp only [if_neg h]
    have hd := Attempt.verdict?_decode .createApiSecret SecretAnswer.decoder response
    cases h₂ : Json.decodeFirst SecretAnswer.decoder response.body with
    | error e =>
      rw [h₂] at hd
      exact Attempt.verdict?_bind_error _ hd
    | ok answer =>
      rw [h₂] at hd
      refine (Attempt.verdict?_bind_ok _ hd).trans ?_
      show verdict? (do return ⟨← Attempt.require .createApiSecret "secret" _⟩ : Attempt Secret) =
        some ((presentVerdict .createApiSecret "secret" _).map Secret.mk)
      cases answer.secret.filter (· ≠ "") <;> rfl

theorem verdict?_readRecord (response : Http.Response) :
    verdict? (readRecord response) = some (recordVerdict response) := by
  unfold readRecord recordVerdict bodyVerdict
  split <;> rfl

theorem verdict?_readDeletion (stage : Stage) (response : Http.Response) :
    verdict? (readDeletion stage response) = some (deletionVerdict stage response) := by
  unfold readDeletion deletionVerdict
  by_cases h : response.status = 404
  · simp only [if_pos h]
    rfl
  · simp only [if_neg h]
    cases response.isSuccess <;> rfl

end Directory

namespace Discovery

def documentVerdict (stage : Stage) (response : Http.Response) : Except Error DiscoveryDocument :=
  bodyVerdict stage 200 DiscoveryDocument.decoder response

theorem verdict?_readDocument (stage : Stage) (response : Http.Response) :
    verdict? (readDocument stage response) = some (documentVerdict stage response) := by
  unfold readDocument documentVerdict bodyVerdict
  split <;> rfl

end Discovery

/-! ## Stages of errors -/

/-- The error, if any, has a stage. -/
def Staged {α : Type} (x : Except Error α) : Prop := ∀ e, x = .error e → e.stage ≠ none

section Stages

variable {ε α β : Type} {x : Except Error α}

theorem staged_ok (a : α) : Staged (.ok a) := nofun

theorem staged_error {e : Error} (h : e.stage ≠ none) : Staged (.error e : Except Error α) := by
  rintro _ ⟨⟩
  exact h

theorem Staged.bind {f : α → Except Error β} (hx : Staged x) (hf : ∀ a, Staged (f a)) :
    Staged (x >>= f) := by
  cases x with
  | ok a => exact hf a
  | error e => exact staged_error (hx e rfl)

theorem Staged.map (f : α → β) (hx : Staged x) : Staged (x.map f) := by
  cases x with
  | ok a => exact staged_ok _
  | error e => exact staged_error (hx e rfl)

theorem staged_mapError {f : ε → Error} (x : Except ε α) (hf : ∀ e, (f e).stage ≠ none) :
    Staged (x.mapError f) := by
  cases x with
  | ok a => exact staged_ok a
  | error e => exact staged_error (hf e)

theorem staged_bodyVerdict (stage : Stage) (status : Nat) (decoder : Json.Decoder α)
    (response : Http.Response) : Staged (bodyVerdict stage status decoder response) := by
  unfold bodyVerdict
  split
  · exact staged_error nofun
  · exact staged_mapError _ fun _ => nofun

theorem Directory.staged_lookupVerdict (name : ApplicationName) (response : Http.Response) :
    Staged (lookupVerdict name response) := by
  unfold lookupVerdict
  split
  · exact staged_ok _
  · refine (staged_bodyVerdict _ _ _ response).bind fun page => ?_
    unfold singleVerdict
    split
    · exact staged_ok _
    · exact staged_ok _
    · exact staged_error nofun

theorem Directory.staged_creationVerdict (response : Http.Response) :
    Staged (creationVerdict response) := by
  unfold creationVerdict
  split
  · exact staged_error nofun
  · exact staged_mapError _ fun _ => nofun

theorem Directory.staged_secretVerdict (response : Http.Response) :
    Staged (secretVerdict response) := by
  refine (staged_bodyVerdict _ _ _ response).bind fun answer => ?_
  cases answer.secret.filter (· ≠ "") with
  | none => exact staged_error nofun
  | some secret => exact staged_ok secret

theorem Directory.staged_deletionVerdict (stage : Stage) (response : Http.Response) :
    Staged (deletionVerdict stage response) := by
  unfold deletionVerdict
  split
  · exact staged_ok _
  · split
    · exact staged_ok _
    · exact staged_error nofun

end Stages

end TenantApps
