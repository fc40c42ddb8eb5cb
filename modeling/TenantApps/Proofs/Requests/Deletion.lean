import TenantApps.Proofs.Creation.Sequence
import TenantApps.Proofs.Requests.Kind
import TenantApps.Proofs.Tenant.Places

/-!
# `TenantApps.Proofs.Requests.Deletion` — which application is deleted

`createApplication` and `deleteApplication` begin alike: `Client.clear` looks the name up and
deletes the application in the response. Names are compared by the filter of the tenant only. The
only record of a response is the one that is deleted, and its `name` is not read.

## Contents
- `Client.deletion?`, the `DELETE` that follows from a response to a lookup.
- `Procedure.Follows.requests` and `Client.steady_establish`: the later requests of a creation are
  no `DELETE`.
- `Client.replay_clear`, the first requests of both operations.
- `Client.deletion_target`, **the main result**, and `Client.deletes_other_name`, its sharpness.
-/

namespace TenantApps

open Attempt Procedure

/-! ## Methods of requests -/

section Methods

variable {r : Http.Request}

theorem Directory.method_of_requestAt {d : Directory} {method : Http.Method} {id : Uuid}
    {suffix : List String} {body : Option Json.Value}
    (h : d.requestAt method id suffix body = .ok r) : r.method = method := by
  obtain ⟨u, -, hr⟩ := except_bind_eq_ok.mp h
  exact (Directory.request_eq_ok hr).2.1

theorem Discovery.method_of_request {d : Discovery} (h : d.request = .ok r) : r.method = .get := by
  unfold Discovery.request at h
  split at h <;> cases h
  rfl

/-- The requests of a procedure that follows `requesting P` have `P`. -/
theorem Procedure.Follows.requests {α : Type} {P : Http.Request → Prop} {Q : α → Unit → Prop}
    {p : Procedure α} (h : p.Follows (requesting P) Q ()) (os : Http.Script) (k : Cache) :
    ∀ r ∈ (p.replay os k).requests, P r := by
  induction p generalizing os k with
  | done a => exact fun _ hr => nomatch hr
  | send stage q next ih =>
    intro r hr
    rcases List.mem_cons.mp hr with rfl | hr
    · exact h.1
    · exact ih _ (h.2 () trivial _ () trivial) _ _ r hr
  | acquire l next ih | release l next ih | remember e a next ih =>
    exact ih (h.2 () trivial) _ _
  | consult e next ih => exact ih _ ((h _).2 () trivial) _ _
  | emit x next ih => exact ih h _ _

end Methods

namespace Attempt

variable {α β : Type} {a : Attempt α} {f : α → Attempt β}

/-- `Attempt.ask` in front of a silent procedure sends at most one request. -/
theorem requests_ask {stage : Stage} {request : Except ConfigError Http.Request}
    {read : Http.Response → Attempt α} {verdict : Http.Response → Except Error α}
    (hv : ∀ response, verdict? (read response) = some (verdict response))
    (hf : ∀ x os k, (replay (f x) os k).requests = []) (os : Http.Script) (k : Cache) :
    (replay (Attempt.ask stage request read >>= f : Attempt β) os k).requests =
      request.toOption.toList := by
  cases request with
  | error e => rfl
  | ok r =>
    have h : replay (Attempt.ask stage (.ok r) read) os k =
        ⟨received stage verdict os.reply, [r], k, os.tail⟩ := replay_ask rfl hv os k
    cases hx : received stage verdict os.reply with
    | error e =>
      rw [hx] at h
      rw [replay_bind_error f h]
      rfl
    | ok x =>
      rw [hx] at h
      rw [replay_bind_ok f h, Replay.behind, hf]
      rfl

/-- Requests of a sequence: those of the first attempt, then requests with the property of the
second. -/
theorem requests_bind {P : Http.Request → Prop} (a : Attempt α) (os : Http.Script) (k : Cache)
    (hf : ∀ x os k, ∀ r ∈ (replay (f x) os k).requests, P r) :
    ∃ rest, (replay (a >>= f : Attempt β) os k).requests = (replay a os k).requests ++ rest ∧
      ((replay a os k).result.isOk = false → rest = []) ∧ ∀ r ∈ rest, P r := by
  rw [bind_eq, replay_bind]
  cases (replay a os k).result with
  | ok x => exact ⟨_, rfl, nofun, hf x _ _⟩
  | error e => exact ⟨[], rfl, fun _ => rfl, fun _ hr => nomatch hr⟩

theorem requests_map (f : α → β) (a : Attempt α) (os : Http.Script) (k : Cache) :
    (replay (f <$> a : Attempt β) os k).requests = (replay a os k).requests := by
  obtain ⟨rest, h, -, hrest⟩ := requests_bind (f := fun x => pure (f x)) (P := fun _ => False)
    a os k fun _ _ _ _ hr => nomatch hr
  rw [show (f <$> a : Attempt β) = (a >>= fun x => pure (f x)) from rfl, h,
    List.eq_nil_iff_forall_not_mem.mpr hrest, List.append_nil]

end Attempt

namespace Client

variable (c : Client) {name : ApplicationName} {q : Http.Request}

/-! ## After the removal -/

/-- `Client.establish` sends no `DELETE`. -/
theorem steady_establish (name : ApplicationName) :
    Steady (requesting fun r => r.method ≠ .delete) () (c.establish name) := by
  have framesRequest {stage : Stage} {r : Http.Request} (h : r.method ≠ .delete) :
      (requesting fun r => r.method ≠ .delete).FramesRequest () stage r :=
    ⟨h, fun _ _ => rfl, fun _ _ _ => rfl⟩
  have address (e : Endpoint) :
      Steady (requesting fun r => r.method ≠ .delete) () (c.discovery.address e) :=
    c.discovery.steady_address ⟨trivial, trivial, fun _ _ => rfl, fun _ _ => rfl⟩
      ⟨fun _ => trivial, fun _ => trivial, fun _ _ _ => rfl, fun _ _ _ => rfl⟩
      fun r hr => framesRequest (by rw [Discovery.method_of_request hr]; nofun)
  refine (Steady.ask (fun r hr => framesRequest ?_)
    Directory.verdict?_readCreation).bind fun id => ?_
  · rw [(Directory.request_eq_ok hr).2.1]
    nofun
  · refine c.follows_equip name id (fun r hr => framesRequest ?_) (fun r hr => framesRequest ?_)
      (fun secret clientId => ?_) fun _ => rfl
    · rw [Directory.method_of_requestAt hr]
      nofun
    · rw [Directory.method_of_requestAt hr]
      nofun
    · refine (address .token).bind fun tokenUrl => (address .keys).bind fun jwksUri => ?_
      exact Steady.of_verdict? rfl

/-! ## Lookups and deletions -/

/-- The `DELETE` that follows a response to the lookup, if it has exactly one application. -/
def deletion? (answer : Option Http.Response) : Option Http.Request :=
  (answer.bind existing?).bind fun record => ((RequestKind.delete record.id).request c).toOption

variable {c} in
theorem deletion?_eq_some_iff {answer : Option Http.Response} {r : Http.Request} :
    c.deletion? answer = some r ↔ ∃ record, answer.bind existing? = some record ∧
      (RequestKind.delete record.id).request c = .ok r := by
  rw [deletion?, Option.bind_eq_some_iff]
  exact exists_congr fun record => and_congr_right fun _ => except_toOption_eq_some

variable {c} in
/-- `deletion?` is built for the application of the response. -/
theorem makes_deletion? {d : Draft} (hd : d.accept = .ok c.settings)
    {answer : Option Http.Response} {record : ApplicationRecord} {r : Http.Request}
    (ha : answer.bind existing? = some record) (h : c.deletion? answer = some r) :
    (RequestKind.delete record.id).Makes c r := by
  obtain ⟨record', ha', hr⟩ := deletion?_eq_some_iff.mp h
  cases ha.symm.trans ha'
  exact RequestKind.makes_of_request hd hr

theorem lookupVerdict_of_existing? {response : Http.Response} {record : ApplicationRecord}
    (h : existing? response = some record) :
    Directory.lookupVerdict name response = .ok (some record) := by
  unfold existing? at h
  split at h
  · next hs =>
    split at h
    · next hp =>
      cases h
      exact Directory.lookupVerdict_eq_ok.mpr (.inr ⟨hs, _, hp, rfl⟩)
    · cases h
  · cases h

/-- The verdict on the lookup reply, in terms of `existing?`. -/
theorem received_lookup (name : ApplicationName) (os : Http.Script) :
    (∃ e, received .lookupApplications (Directory.lookupVerdict name) os.reply = .error e ∧
      (os.answer? 0).bind existing? = none) ∨
    received .lookupApplications (Directory.lookupVerdict name) os.reply =
      .ok ((os.answer? 0).bind existing?) := by
  cases hx : received .lookupApplications (Directory.lookupVerdict name) os.reply with
  | ok found =>
    obtain ⟨response, ho, hfound⟩ := received_eq_ok.mp hx
    rw [ho, Option.bind_some, existing?_of_lookupVerdict hfound]
    exact .inr rfl
  | error e =>
    refine .inl ⟨e, rfl, Option.bind_eq_none_iff.mpr fun response ho => ?_⟩
    cases hr : existing? response with
    | none => rfl
    | some record =>
      rw [received_eq_ok.mpr ⟨response, ho, lookupVerdict_of_existing? hr⟩] at hx
      cases hx

/-- The requests of `Client.clear`: the lookup, then `deletion?`. -/
theorem replay_clear (hq : (RequestKind.lookup name).request c = .ok q) (stage : Stage)
    (change : Telemetry.Change) (os : Http.Script) (k : Cache) :
    (replay (c.clear stage change name) os k).requests =
      q :: (c.deletion? (os.answer? 0)).toList := by
  have hfind : replay (c.directory.find name) os k = _ :=
    replay_ask hq (Directory.verdict?_readLookup name) os k
  unfold deletion?
  obtain ⟨e, hx, hn⟩ | hx := received_lookup name os <;> rw [hx] at hfind
  · rw [clear, replay_bind_error _ hfind, hn]
    rfl
  · rw [clear, replay_bind_ok _ hfind]
    cases (os.answer? 0).bind existing? with
    | none => rfl
    | some record =>
      refine congrArg (q :: ·) (requests_ask (Directory.verdict?_readDeletion stage)
        (fun deletion os k => ?_) os.tail k)
      cases deletion <;> rfl

/-- If the lookup cannot be built, `Client.clear` sends nothing. -/
theorem replay_clear_error {e : ConfigError} (he : (RequestKind.lookup name).request c = .error e)
    (stage : Stage) (change : Telemetry.Change) (os : Http.Script) (k : Cache) :
    replay (c.clear stage change name) os k = ⟨.error (.config e), [], k, os⟩ := by
  refine replay_bind_error _ ?_
  rw [Directory.find, show c.directory.request .get _ none = _ from he]
  rfl

theorem requests_onName {α : Type} {text : String} (hn : ApplicationName.check text = .ok name)
    (op : Operation) (f : ApplicationName → Attempt α) (os : Http.Script) (k : Cache) :
    (replay (observed op text (c.onName text f)) os k).requests =
      (replay (f name) os k).requests := by
  rw [(replay_observed op text (c.onName text f) os k).2, onName, hn]
  exact congrArg Replay.requests (c.replay_serialized name (f name) os k)

/-- Both operations are `Client.clear` followed by requests that are no `DELETE`. -/
theorem requests_answer {call : Call} {text : String} (ht : call.text? = some text)
    (hn : ApplicationName.check text = .ok name) (os : Http.Script) (k : Cache) :
    ∃ stage change rest, (replay (c.answer call) os k).requests =
      (replay (c.clear stage change name) os k).requests ++ rest ∧
        ((replay (c.clear stage change name) os k).result.isOk = false → rest = []) ∧
        ∀ r ∈ rest, r.method ≠ .delete := by
  cases call with
  | create s =>
    cases ht
    obtain ⟨rest, h⟩ := requests_bind (P := fun r => r.method ≠ .delete)
      (f := fun _ => c.establish name) (c.removeExisting name) os k fun _ os k =>
        (c.steady_establish name).requests os k
    refine ⟨_, _, rest, ?_, h.2⟩
    exact (requests_map ..).trans ((c.requests_onName hn _ c.recreate os k).trans h.1)
  | delete s =>
    cases ht
    refine ⟨.deleteApplication, .deleted, [], ?_, fun _ => rfl, fun _ hr => nomatch hr⟩
    rw [List.append_nil]
    exact (requests_map ..).trans (c.requests_onName hn _ c.remove os k)
  | tokenUrl | jwksUri | credentials | settings => cases ht

variable {c} {d : Draft}

/-- **The target of a deletion.** An operation on a name first sends the lookup of the name. Its
next request deletes the application of the response, if there is exactly one and the request can be
built, whatever the `name` of that application is. Both requests satisfy `RequestKind.Makes`. No
other `DELETE` is sent, and nothing at all if the lookup cannot be built. -/
theorem deletion_target (hd : d.accept = .ok c.settings) {call : Call} {text : String}
    (ht : call.text? = some text) (hn : ApplicationName.check text = .ok name) (k : Cache)
    (os : Http.Script) :
    let sent := (Procedure.run Http.Script.exchange (c.answer call)
      { transport := os, cache := k }).2.requests
    (∀ q, (RequestKind.lookup name).request c = .ok q → (RequestKind.lookup name).Makes c q ∧
      ∃ (deletion : Option Http.Request) (rest : List Http.Request),
        sent = q :: (deletion.toList ++ rest) ∧ (∀ r ∈ rest, r.method ≠ .delete) ∧
        (∀ r, deletion = some r ↔ ∃ record, (os.answer? 0).bind existing? = some record ∧
          (RequestKind.delete record.id).request c = .ok r) ∧
        ∀ record r, (os.answer? 0).bind existing? = some record → deletion = some r →
          (RequestKind.delete record.id).Makes c r) ∧
    ∀ e, (RequestKind.lookup name).request c = .error e → sent = [] := by
  intro sent
  have hsent : sent = (replay (c.answer call) os k).requests :=
    (run_replay (c.answer call) { transport := os, cache := k }).2
  obtain ⟨stage, change, rest, h, hstop, hrest⟩ := c.requests_answer ht hn os k
  constructor
  · intro q hq
    rw [c.replay_clear hq, List.cons_append, ← hsent] at h
    exact ⟨RequestKind.makes_of_request hd hq, c.deletion? (os.answer? 0), rest, h, hrest,
      fun r => deletion?_eq_some_iff, fun record r ha hr => makes_deletion? hd ha hr⟩
  · intro e he
    have hclear := c.replay_clear_error he stage change os k
    rw [hclear] at h hstop
    rw [hsent, h, hstop rfl]
    rfl

/-- A lookup response with one application, whose name is `b`. -/
def otherAnswer : Http.Response :=
  .sample 200 (.object [("applications", .array [.object
    [("id", .text "00000000-0000-0000-0000-000000000001"), ("name", .text "b")]])])

/-- `deletion_target` on `otherAnswer`: a lookup of `a`, then the `DELETE` of the application
`b`. -/
theorem deletion_target_sample :
    let name : ApplicationName := ⟨"a", by decide, by decide⟩
    let sent := (Procedure.run Http.Script.exchange (sample.answer (.delete "a"))
      { transport := [.answered otherAnswer] }).2.requests
    Draft.sample.accept = .ok sample.settings ∧ (Call.delete "a").text? = some "a" ∧
      ApplicationName.check "a" = .ok name ∧
      sent.map (fun r => (r.method, r.target.text)) =
        [(.get, "https://[::1]/Applications/v1/?filter=name+eq+a"),
          (.delete, "https://[::1]/Applications/v1/00000000-0000-0000-0000-000000000001")] ∧
      ∃ q r rest record, sent = q :: r :: rest ∧ (RequestKind.lookup name).Makes sample q ∧
        existing? otherAnswer = some record ∧ record.name = some "b" ∧
          (RequestKind.delete record.id).Makes sample r := by
  intro name sent
  have ht : (Call.delete "a").text? = some "a" := rfl
  have hn : ApplicationName.check "a" = .ok name := rfl
  have hlookup : ((RequestKind.lookup name).request sample).isOk = true := by decide
  have hdelete : (existing? otherAnswer).any fun record =>
      record.name = some "b" && ((RequestKind.delete record.id).request sample).isOk := by
    decide +kernel
  obtain ⟨record, hrecord, hnamed⟩ := (Option.any_eq_true _ _).mp hdelete
  obtain ⟨hb, hok⟩ := Bool.and_eq_true_iff.mp hnamed
  obtain ⟨q, hq⟩ := except_isOk.mp hlookup
  obtain ⟨r, hr⟩ := except_isOk.mp hok
  obtain ⟨hmakes, deletion, rest, h, -, hdeletion, htarget⟩ :=
    (deletion_target Draft.accept_sample ht hn {} [.answered otherAnswer]).1 q hq
  obtain rfl : deletion = some r := (hdeletion r).mpr ⟨record, hrecord, hr⟩
  exact ⟨Draft.accept_sample, ht, hn, by decide +kernel, q, r, rest, record, h, hmakes, hrecord,
    of_decide_eq_true hb, htarget record r hrecord rfl⟩

/-- **The deleted application need not have the name that was asked for.** -/
theorem deletes_other_name : ¬∀ (c : Client) (d : Draft) (call : Call) (text : String)
    (name : ApplicationName) (k : Cache) (os : Http.Script), d.accept = .ok c.settings →
      call.text? = some text → ApplicationName.check text = .ok name →
      ∀ r ∈ (Procedure.run Http.Script.exchange (c.answer call)
        { transport := os, cache := k }).2.requests, r.method = .delete →
          ∃ record, (os.answer? 0).bind existing? = some record ∧
            (RequestKind.delete record.id).Makes c r ∧
              (record.name = none ∨ record.name = some name.text) := by
  intro hall
  have hsent : ((Procedure.run Http.Script.exchange (sample.answer (.delete "a"))
      { transport := [.answered otherAnswer] }).2.requests).any (·.method = .delete) = true := by
    decide +kernel
  obtain ⟨r, hr, hm⟩ := List.any_eq_true.mp hsent
  obtain ⟨record, hrecord, -, hname⟩ := hall sample .sample (.delete "a") "a"
    ⟨"a", by decide, by decide⟩ {} [.answered otherAnswer] Draft.accept_sample rfl rfl r hr
    (by simpa using hm)
  have hother : (existing? otherAnswer).map ApplicationRecord.name = some (some "b") := by
    decide +kernel
  rw [show existing? otherAnswer = some record from hrecord, Option.map_some] at hother
  rw [Option.some.inj hother] at hname
  revert hname
  decide

end Client

end TenantApps
