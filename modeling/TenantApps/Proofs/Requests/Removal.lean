import TenantApps.Proofs.Requests.Lookup
import TenantApps.Proofs.Wire.Page

/-!
# `TenantApps.Proofs.Requests.Removal` — the outcome of `deleteApplication`

`deleteApplication` looks the name up and deletes the application of the response, if there is
exactly one. With none there is nothing to do, and with more than one it fails and deletes none. The
address cache is unchanged in every case.

## Contents
- `Procedure.Follows.cache`: a procedure without `remember` keeps the cache.
- `Http.Script.Lists` and `Http.Script.ListsNothing`, the pages of a lookup reply.
- `Client.result_clear`, the result of `Client.clear`, and `Client.removal_isOk`, when it is `ok`.
- `Client.deletion_outcome`, the **main result**.
-/

namespace TenantApps

open Attempt Procedure

/-! ## The address cache -/

/-- The discipline of procedures without `remember`. -/
def forgetful : Discipline Unit where
  allows
    | .remembers _ _, _ => False
    | _, _ => True
  after _ _ _ := True

/-- A procedure without `remember` keeps the cache. -/
theorem Procedure.Follows.cache {α : Type} {Q : α → Unit → Prop} {p : Procedure α}
    (h : p.Follows forgetful Q ()) (os : Http.Script) (k : Cache) :
    (p.replay os k).cache = k := by
  induction p generalizing os k with
  | done a => rfl
  | send stage q next ih => exact ih _ (h.2 () trivial _ () trivial) _ _
  | acquire l next ih | release l next ih => exact ih (h.2 () trivial) _ _
  | consult e next ih => exact ih _ ((h _).2 () trivial) _ _
  | remember e a next ih => exact absurd h.1 id
  | emit x next ih => exact ih h _ _

namespace Client

variable (c : Client)

theorem steady_deleteApplication (text : String) :
    Steady forgetful () (c.deleteApplication text) := by
  have framesRequest (stage : Stage) (r : Http.Request) : forgetful.FramesRequest () stage r :=
    ⟨trivial, fun _ _ => rfl, fun _ _ _ => rfl⟩
  have clear (name : ApplicationName) : Steady forgetful () (c.remove name) :=
    c.steady_clear .deleted name (fun r _ => framesRequest _ r) fun _ r _ => framesRequest _ r
  apply follows_observed
  refine c.onName_cases text (fun _ _ => ?_) (fun name _ => ?_) fun name _ => clear name
  · exact Steady.of_verdict? (x := .error _) rfl
  · exact Steady.locked ⟨trivial, trivial, fun _ _ => rfl, fun _ _ => rfl⟩ (clear name)

end Client

/-! ## Replies to a lookup -/

namespace Http.Script

variable {os : Http.Script}

/-- The reply is a 200 whose body decodes as a page. -/
def Pages (os : Http.Script) (n : Json.Node) (page : ApplicationPage) : Prop :=
  ∃ response, os.answer? 0 = some response ∧ response.status = 200 ∧
    (Json.read response.body).1 = n ∧ ApplicationPage.decoder n = .ok page

/-- The reply is a page with the applications `rs`. -/
def Lists (os : Http.Script) (rs : List ApplicationRecord) : Prop :=
  ∃ n page, os.Pages n page ∧ page.applications.getD [] = rs

/-- The reply is a page whose list is missing, `null` or empty. -/
def ListsNothing (os : Http.Script) : Prop :=
  ∃ n page, os.Pages n page ∧ ((∀ v, ¬ApplicationPage.Holds n v) ∨
    ApplicationPage.Holds n .null ∨ ApplicationPage.Holds n (.array [] none))

/-- Reply `i` is a response whose status satisfies `P`. -/
def Answers (os : Http.Script) (i : Nat) (P : Nat → Prop) : Prop :=
  ∃ response, os.answer? i = some response ∧ P response.status

theorem lists_nil : os.Lists [] ↔ os.ListsNothing := by
  refine exists_congr fun n => exists_congr fun page => and_congr_right fun ⟨_, _, _, _, h⟩ => ?_
  exact (ApplicationPage.applications_count h).1

theorem lists_iff {rs : List ApplicationRecord} : os.Lists rs ↔ ∃ response page,
    os.answer? 0 = some response ∧ response.status = 200 ∧
      Json.decodeFirst ApplicationPage.decoder response.body = .ok page ∧
        page.applications.getD [] = rs := by
  constructor
  · rintro ⟨_, page, ⟨response, ho, hs, rfl, hd⟩, hrs⟩
    exact ⟨response, page, ho, hs, hd, hrs⟩
  · rintro ⟨response, page, ho, hs, hd, hrs⟩
    exact ⟨_, page, ⟨response, ho, hs, rfl, hd⟩, hrs⟩

/-- The verdict on a lookup reply is `ok` on 404 and on a page of at most one application. -/
theorem received_lookup_eq_ok (name : ApplicationName) (found : Option ApplicationRecord) :
    received .lookupApplications (Directory.lookupVerdict name) os.reply = .ok found ↔
      os.Answers 0 (· = 404) ∧ found = none ∨ os.Lists found.toList := by
  rw [received_eq_ok, lists_iff]
  simp only [Directory.lookupVerdict_eq_ok, Answers]
  constructor
  · rintro ⟨response, ho, ⟨hs, rfl⟩ | ⟨hs, page, hd, hrs⟩⟩
    · exact .inl ⟨⟨response, ho, hs⟩, rfl⟩
    · exact .inr ⟨response, page, ho, hs, hd, hrs⟩
  · rintro (⟨⟨response, ho, hs⟩, rfl⟩ | ⟨response, page, ho, hs, hd, hrs⟩)
    · exact ⟨response, ho, .inl ⟨hs, rfl⟩⟩
    · exact ⟨response, ho, .inr ⟨hs, page, hd, hrs⟩⟩

theorem received_lookup_eq_some (name : ApplicationName) {record : ApplicationRecord} :
    received .lookupApplications (Directory.lookupVerdict name) os.reply = .ok (some record) ↔
      os.Lists [record] :=
  (received_lookup_eq_ok name _).trans (or_iff_right fun h => nomatch h.2)

/-- `existing?` of a lookup reply, in terms of `Lists`. -/
theorem existing?_eq_some (name : ApplicationName) {record : ApplicationRecord} :
    (os.answer? 0).bind Client.existing? = some record ↔ os.Lists [record] := by
  obtain ⟨e, hx, hn⟩ | hx := Client.received_lookup name os
  · rw [← received_lookup_eq_some name, hx, hn]
    exact ⟨nofun, nofun⟩
  · rw [← received_lookup_eq_some name, hx, Except.ok.injEq]

theorem received_of_answer {α : Type} {stage : Stage} {verdict : Http.Response → Except Error α}
    {response : Http.Response} (h : os.answer? 0 = some response) :
    received stage verdict os.reply = verdict response := by
  rcases os with _ | ⟨_ | _ | _, os⟩ <;> cases h
  rfl

/-- The verdict on a page of two applications or more is `multipleApplications`. -/
theorem received_lookup_many (name : ApplicationName) {rs : List ApplicationRecord}
    (h : os.Lists rs) (hlength : 2 ≤ rs.length) :
    received .lookupApplications (Directory.lookupVerdict name) os.reply =
      .error (.multipleApplications name.text rs.length) := by
  obtain ⟨response, page, ho, hs, hd, rfl⟩ := lists_iff.mp h
  rw [received_of_answer ho, Directory.lookupVerdict, if_neg (by simp [hs]),
    bodyVerdict_eq_ok.mpr ⟨hs, hd⟩]
  exact Directory.singleVerdict_eq_error.mpr ⟨hlength, rfl⟩

end Http.Script

/-! ## The result of a deletion -/

namespace Client

variable {c : Client} {d : Draft} {name : ApplicationName} {q : Http.Request} {os : Http.Script}

/-- The result of `Client.clear`, by the verdicts on its two replies. -/
theorem result_clear (hq : (RequestKind.lookup name).request c = .ok q)
    (hr : ∀ record, os.Lists [record] → ∃ r, (RequestKind.delete record.id).request c = .ok r)
    (stage : Stage) (change : Telemetry.Change) (k : Cache) :
    (replay (c.clear stage change name) os k).result =
      match received .lookupApplications (Directory.lookupVerdict name) os.reply with
      | .error e => .error e
      | .ok none => .ok ()
      | .ok (some _) => (received stage (Directory.deletionVerdict stage)
          (Http.Script.reply os.tail)).map fun _ => () := by
  have hfind : replay (c.directory.find name) os k = _ :=
    replay_ask hq (Directory.verdict?_readLookup name) os k
  cases hx : received .lookupApplications (Directory.lookupVerdict name) os.reply with
  | error e =>
    rw [hx] at hfind
    rw [clear, replay_bind_error _ hfind]
  | ok found =>
    rw [hx] at hfind
    rw [clear, replay_bind_ok _ hfind]
    cases found with
    | none => rfl
    | some record =>
      -- the application is deleted, and what came of that is logged at most
      obtain ⟨r, hr⟩ := hr record ((Http.Script.received_lookup_eq_some name).mp hx)
      have hdelete : replay (c.directory.delete record.id stage) os.tail k = _ :=
        replay_ask hr (Directory.verdict?_readDeletion stage) os.tail k
      cases hy : received stage (Directory.deletionVerdict stage) (Http.Script.reply os.tail) with
      | error e =>
        rw [hy] at hdelete
        exact congrArg (fun x => (Replay.behind [q] x).result) (replay_bind_error _ hdelete)
      | ok deletion =>
        rw [hy] at hdelete
        refine (congrArg (fun x => (Replay.behind [q] x).result)
          (replay_bind_ok _ hdelete)).trans ?_
        cases deletion <;> rfl

theorem received_deletion_isOk {stage : Stage} :
    (received stage (Directory.deletionVerdict stage) (Http.Script.reply os.tail)).isOk = true ↔
      os.Answers 1 fun status => status = 404 ∨ 200 ≤ status ∧ status < 300 := by
  rw [except_isOk]
  simp only [received_eq_ok, Http.Script.answer?_tail, Directory.deletionVerdict_eq_ok,
    Http.Script.Answers, Http.Response.isSuccess]
  constructor
  · rintro ⟨deletion, response, ho, ⟨hs, -⟩ | ⟨hs, -⟩⟩
    · exact ⟨response, ho, .inl hs⟩
    · exact ⟨response, ho, .inr (by simpa using hs)⟩
  · rintro ⟨response, ho, hs | hs⟩
    · exact ⟨.notFound, response, ho, .inl ⟨hs, rfl⟩⟩
    · exact ⟨.deleted, response, ho, .inr ⟨by simpa using hs, rfl⟩⟩

/-- That result is `ok` if there is nothing to delete, or the deletion is accepted. -/
theorem removal_isOk (name : ApplicationName) (stage : Stage) :
    (match received .lookupApplications (Directory.lookupVerdict name) os.reply with
      | .error e => Except.error e
      | .ok none => .ok ()
      | .ok (some _) => (received stage (Directory.deletionVerdict stage)
          (Http.Script.reply os.tail)).map fun _ => ()).isOk = true ↔
      os.Answers 0 (· = 404) ∨ os.ListsNothing ∨ (∃ record, os.Lists [record]) ∧
        os.Answers 1 fun status => status = 404 ∨ 200 ≤ status ∧ status < 300 := by
  have hnone : received .lookupApplications (Directory.lookupVerdict name) os.reply = .ok none ↔
      os.Answers 0 (· = 404) ∨ os.ListsNothing := by
    rw [Http.Script.received_lookup_eq_ok, and_iff_left rfl, ← Http.Script.lists_nil]
    rfl
  rw [← or_assoc, ← @received_deletion_isOk os stage]
  -- both sides depend on what the lookup finds only
  simp only [← hnone, ← Http.Script.received_lookup_eq_some name, except_isOk]
  cases received .lookupApplications (Directory.lookupVerdict name) os.reply with
  | error e => simp
  | ok found =>
    cases found with
    | none => simp
    | some record => cases received stage _ (Http.Script.reply os.tail) <;> simp [Except.map]

theorem deletion?_eq_none (name : ApplicationName) (h : ∀ record, ¬os.Lists [record]) :
    c.deletion? (os.answer? 0) = none := by
  have hnone : (os.answer? 0).bind existing? = none := by
    rw [Option.eq_none_iff_forall_ne_some]
    exact fun record he => h record ((Http.Script.existing?_eq_some name).mp he)
  rw [deletion?, hnone]
  rfl

/-- A text that is no name is refused before anything is sent. -/
theorem replay_deletion_refused (c : Client) {text : String} {e : NameError}
    (h : ApplicationName.check text = .error e) (os : Http.Script) (k : Cache) :
    (replay (c.deleteApplication text) os k).requests = [] ∧
      (replay (c.deleteApplication text) os k).result = .error (.config (.name e)) := by
  have hthrow : c.onName text c.remove = throw (.config (.name e)) := by
    rw [onName, h]
  obtain ⟨hthrown, hnone⟩ := replay_observed .deleteApplication text (c.onName text c.remove) os k
  exact ⟨hnone.trans (by rw [hthrow]; rfl), hthrown.trans (by rw [hthrow]; rfl)⟩

/-- **The outcome of a deletion.** `deleteApplication` sends the lookup, and after it the `DELETE`
of the application of the response, if there is exactly one; both satisfy `RequestKind.Makes`. It
returns `ok` if and only if there is nothing to delete, because the response is 404 or has no
application, or the `DELETE` is answered with 404 or 2xx. Two applications or more are an error, and
none of them is deleted. The address cache is unchanged, and a text that is no name is refused
before anything is sent. -/
theorem deletion_outcome (hd : d.accept = .ok c.settings) (text : String) (k : Cache)
    (os : Http.Script) :
    let run := Procedure.run Http.Script.exchange (c.deleteApplication text)
      { transport := os, cache := k }
    run.2.cache = k ∧
    (∀ e, ApplicationName.check text = .error e →
      run.2.requests = [] ∧ run.1 = .error (.config (.name e))) ∧
    ∀ name q, ApplicationName.check text = .ok name → (RequestKind.lookup name).request c = .ok q →
      (∀ record, os.Lists [record] → ∃ r, (RequestKind.delete record.id).request c = .ok r) →
      (RequestKind.lookup name).Makes c q ∧
      (∀ record, os.Lists [record] →
        ∃ r, run.2.requests = [q, r] ∧ (RequestKind.delete record.id).Makes c r) ∧
      ((∀ record, ¬os.Lists [record]) → run.2.requests = [q]) ∧
      (run.1.isOk = true ↔ os.Answers 0 (· = 404) ∨ os.ListsNothing ∨
        (∃ record, os.Lists [record]) ∧
          os.Answers 1 fun status => status = 404 ∨ 200 ≤ status ∧ status < 300) ∧
      ∀ rs, os.Lists rs → 2 ≤ rs.length →
        run.1 = .error (.multipleApplications name.text rs.length) ∧ run.2.requests = [q] := by
  intro run
  obtain ⟨hresult, hsent⟩ :=
    run_replay (c.deleteApplication text) { transport := os, cache := k }
  refine ⟨?_, fun e he => ?_, fun name q hn hq hr => ?_⟩
  · exact (run_replay_cache _ _).trans ((c.steady_deleteApplication text).cache os k)
  · obtain ⟨hnone, herror⟩ := c.replay_deletion_refused he os k
    exact ⟨hsent.trans hnone, hresult.trans herror⟩
  · have hrequests : run.2.requests = q :: (c.deletion? (os.answer? 0)).toList :=
      hsent.trans ((c.requests_onName hn _ c.remove os k).trans (c.replay_clear hq _ _ os k))
    have hcleared : run.1 = _ :=
      hresult.trans ((result_onName hn _ c.remove os k).trans (result_clear hq hr _ _ k))
    have alone (h : ∀ record, ¬os.Lists [record]) : run.2.requests = [q] := by
      rw [hrequests, deletion?_eq_none name h]
      rfl
    refine ⟨RequestKind.makes_of_request hd hq, fun record hrecord => ?_, alone, ?_,
      fun rs hrs hlength => ?_⟩
    · obtain ⟨r, hdelete⟩ := hr record hrecord
      have hexisting := (Http.Script.existing?_eq_some name).mpr hrecord
      refine ⟨r, ?_, RequestKind.makes_of_request hd hdelete⟩
      rw [hrequests, deletion?_eq_some_iff.mpr ⟨record, hexisting, hdelete⟩]
      rfl
    · rw [hcleared]
      exact removal_isOk name _
    · have herror := Http.Script.received_lookup_many name hrs hlength
      rw [hcleared, herror]
      refine ⟨rfl, alone fun record hrecord => ?_⟩
      rw [(Http.Script.received_lookup_eq_some name).mpr hrecord] at herror
      cases herror

/-- `deletion_outcome` on a lookup reply with one application: the `DELETE` goes to its `Uuid`. -/
theorem deletion_outcome_sample :
    let name : ApplicationName := ⟨"a", by decide, by decide⟩
    let os : Http.Script := [.answered otherAnswer, .answered { status := 204 }]
    let run := Procedure.run Http.Script.exchange (sample.deleteApplication "a") { transport := os }
    Draft.sample.accept = .ok sample.settings ∧ ApplicationName.check "a" = .ok name ∧
      run.2.requests.map (fun r => (r.method, r.target.text)) =
        [(.get, "https://[::1]/Applications/v1/?filter=name+eq+a"),
          (.delete, "https://[::1]/Applications/v1/00000000-0000-0000-0000-000000000001")] ∧
      ∃ q r record, (RequestKind.lookup name).request sample = .ok q ∧ os.Lists [record] ∧
        (∀ record, os.Lists [record] → ∃ r, (RequestKind.delete record.id).request sample = .ok r) ∧
        run.2.requests = [q, r] ∧ (RequestKind.lookup name).Makes sample q ∧
        (RequestKind.delete record.id).Makes sample r ∧ run.1.isOk = true := by
  intro name os run
  have hn : ApplicationName.check "a" = .ok name := rfl
  have hlookup : ((RequestKind.lookup name).request sample).isOk = true := by decide
  have hdelete : (existing? otherAnswer).any fun record =>
      ((RequestKind.delete record.id).request sample).isOk := by
    decide +kernel
  obtain ⟨record, hrecord, hok⟩ := (Option.any_eq_true _ _).mp hdelete
  obtain ⟨q, hq⟩ := except_isOk.mp hlookup
  have hlists : os.Lists [record] := (Http.Script.existing?_eq_some name).mp hrecord
  have hbuilt (record' : ApplicationRecord) (h : os.Lists [record']) :
      ∃ r, (RequestKind.delete record'.id).request sample = .ok r := by
    cases hrecord.symm.trans ((Http.Script.existing?_eq_some name).mpr h)
    exact except_isOk.mp hok
  obtain ⟨-, -, h⟩ := deletion_outcome Draft.accept_sample "a" {} os
  obtain ⟨hmakes, hsent, -, hsuccess, -⟩ := h name q hn hq hbuilt
  obtain ⟨r, hrequests, hdeletes⟩ := hsent record hlists
  exact ⟨Draft.accept_sample, hn, by decide +kernel, q, r, record, hq, hlists, hbuilt, hrequests,
    hmakes, hdeletes, hsuccess.mpr (.inr (.inr ⟨⟨record, hlists⟩, _, rfl, .inr (by decide)⟩))⟩

end Client

end TenantApps
