import TenantApps.Proofs.Records.Demand
import TenantApps.Proofs.Requests.Kind

/-!
# `TenantApps.Proofs.Requests.Confinement` — the exact form of every request

`RequestKind.Makes` specifies the request of a kind without the builders of the client: its method,
the text of its URL, the pairs of its query, its headers, body and timeout. A `Uuid` from a response
is written in lower-case digits and hyphens, as one path segment below the Applications collection.
So no response steers a request, and the credentials are sent below that collection only.

## Contents
- `RequestKind.method`, `address`, `pairs`, `headers`, `body` and `timeout`, the parts of a request.
- `RequestKind.Makes`, the specification, and `RequestKind.makes_of_request`, **the builder meets
  it**.
- `Course.requests_confined`, the **main result**.
-/

namespace TenantApps

/-! ## The specification of requests -/

namespace RequestKind

/-- The method of a kind. -/
def method : RequestKind → Http.Method
  | lookup _ | fetch _ | discover => .get
  | create _ | secret _ => .post
  | delete _ => .delete

/-- The URL of a kind, as text. -/
def address (c : Client) : RequestKind → String
  | lookup name => c.settings.applications.text ++ "?" ++
    String.ofList (Form.encodePair "filter" ("name eq " ++ name.text))
  | create _ => c.settings.applications.text
  | delete id | fetch id => c.settings.applications.text ++ id.text
  | secret id => c.settings.applications.text ++ id.text ++ "/apiSecrets"
  | discover => c.settings.discovery.text

/-- The decoded pairs of the query. -/
def pairs : RequestKind → List (Option String × Option String)
  | lookup name => [(some "filter", some ("name eq " ++ name.text))]
  | create _ | delete _ | secret _ | fetch _ | discover => []

/-- The authorization header of a client. -/
def authorized (c : Client) : List (String × String) :=
  [("authorization", c.settings.credentials.basicAuthorization.exposed),
    ("accept", "application/json")]

def headers (c : Client) : RequestKind → List (String × String)
  | lookup _ | delete _ | fetch _ => authorized c
  | create _ | secret _ => authorized c ++ [("content-type", "application/json")]
  | discover => [("accept", "application/json")]

def body (c : Client) : RequestKind → String
  | create name => (Payload.newApplication name.text).print
  | secret _ => (Payload.newSecret c.settings.description).print
  | lookup _ | delete _ | fetch _ | discover => ""

/-- `some` if the request has a timeout of its own. -/
def timeout (c : Client) : RequestKind → Option Duration
  | discover => some c.settings.timeout
  | lookup _ | create _ | delete _ | secret _ | fetch _ => none

/-- **`kind.Makes c r`**: `r` is the request that a client with the settings of `c` sends for
`kind`. -/
structure Makes (c : Client) (kind : RequestKind) (r : Http.Request) : Prop where
  method : r.method = kind.method
  address : r.target.text = kind.address c
  pairs : Form.pairs (r.target.query.getD "").toList = kind.pairs
  headers : r.headers = kind.headers c
  body : r.body = kind.body c
  timeout : r.timeout = kind.timeout c
  /-- The credentials are sent below the Applications collection only. -/
  confined : (∃ v, ("authorization", v) ∈ r.headers) → r.target.Below c.settings.applications

end RequestKind

/-! ## The builder meets the specification -/

section

variable {c : Client} {d : Draft} {r : Http.Request}

/-- The two URLs of accepted settings have neither query nor fragment. -/
theorem Draft.accept_bare {s : Settings} (h : d.accept = .ok s) :
    (s.applications.query = none ∧ s.applications.fragment = none) ∧
      s.discovery.query = none ∧ s.discovery.fragment = none := by
  obtain ⟨u, ps, ha, hd⟩ := accept_places h
  rw [ha, hd]
  exact ⟨⟨rfl, rfl⟩, rfl, rfl⟩

/-- `Directory.request` for a URL that continues that of the Applications collection. -/
theorem Client.request_below {method : Http.Method} {v : Url} {rest : String}
    {body : Option Json.Value} (hd : d.accept = .ok c.settings)
    (hv : c.settings.applications.Continues v rest)
    (h : c.directory.request method v body = .ok r) :
    r.method = method ∧ r.timeout = none ∧ r.body = body.elim "" Json.Value.print ∧
      r.headers = RequestKind.authorized c ++
        (if body.isSome then [("content-type", "application/json")] else []) ∧
      r.target.Below c.settings.applications ∧ r.target.query = v.query ∧
      r.target.text = c.settings.applications.text ++ rest ++ Url.marked "?" v.query := by
  obtain ⟨ht, hm, htime, hh, hb⟩ := Directory.request_eq_ok h
  obtain ⟨⟨hq, hf⟩, -⟩ := Draft.accept_bare hd
  obtain ⟨hbelow, htext, hquery⟩ :=
    Http.Target.ofUrl_continues hv (slash_mem_folder hd) hq hf ht
  exact ⟨hm, htime, hb, hh, hbelow, hquery, htext⟩

/-- `Directory.requestAt`, for the resource of one application. -/
theorem Client.requestAt_below {method : Http.Method} {id : Uuid} {suffix : List String}
    {body : Option Json.Value} (hd : d.accept = .ok c.settings)
    (h : c.directory.requestAt method id suffix body = .ok r) :
    r.method = method ∧ r.timeout = none ∧ r.body = body.elim "" Json.Value.print ∧
      r.headers = RequestKind.authorized c ++
        (if body.isSome then [("content-type", "application/json")] else []) ∧
      r.target.Below c.settings.applications ∧ r.target.query = none ∧
      r.target.text = c.settings.applications.text ++ (id.text ++ (Path.segments suffix).text) := by
  obtain ⟨u, hu, hr⟩ := except_bind_eq_ok.mp h
  obtain ⟨hv, hq⟩ := place_continues hd hu
  obtain ⟨hm, htime, hb, hh, hbelow, hquery, htext⟩ := Client.request_below hd hv hr
  rw [hq] at hquery htext
  exact ⟨hm, htime, hb, hh, hbelow, hquery, htext.trans String.append_empty⟩

/-- `Discovery.request` meets its specification. -/
theorem Client.discovery_request (hd : d.accept = .ok c.settings)
    (h : c.discovery.request = .ok r) : RequestKind.discover.Makes c r := by
  obtain ⟨-, hq, hf⟩ := Draft.accept_bare hd
  obtain ⟨ps, -, -, hp⟩ := Draft.accept_paths hd
  have hslash : '/' ∈ c.settings.discovery.path.text.toList := by
    rw [hp, discoveryPath, Path.text_append, Path.text_cons, String.toList_append,
      String.toList_append, String.toList_append]
    exact List.mem_append_right _ (List.mem_append_left _ List.mem_cons_self)
  unfold Discovery.request at h
  split at h
  · cases h
  · next target ht =>
    cases h
    have hv : c.settings.discovery.Continues c.discovery.endpoint "" :=
      ⟨rfl, rfl, String.append_empty.symm, hf⟩
    obtain ⟨-, htext, hquery⟩ := Http.Target.ofUrl_continues hv hslash hq hf ht
    rw [show c.discovery.endpoint.query = none from hq] at htext hquery
    refine ⟨rfl, ?_, by rw [hquery]; rfl, rfl, rfl, rfl, ?_⟩
    · exact htext.trans (String.append_empty.trans String.append_empty)
    · -- there are no credentials to go anywhere
      rintro ⟨v, hv⟩
      simp at hv

/-- **The builder meets the specification**, for every kind and every `Uuid` in it. -/
theorem RequestKind.makes_of_request {kind : RequestKind} (hd : d.accept = .ok c.settings)
    (h : kind.request c = .ok r) : kind.Makes c r := by
  obtain ⟨⟨hq, hf⟩, -⟩ := Draft.accept_bare hd
  cases kind <;> rw [request] at h
  case discover => exact Client.discovery_request hd h
  case secret id =>
    obtain ⟨hm, htime, hb, hh, hbelow, hq', htext⟩ := Client.requestAt_below hd h
    refine ⟨hm, htext.trans ?_, by rw [hq']; rfl, hh, hb, htime, fun _ => hbelow⟩
    exact (String.append_assoc ..).symm
  case delete id | fetch id =>
    obtain ⟨hm, htime, hb, hh, hbelow, hq', htext⟩ := Client.requestAt_below hd h
    refine ⟨hm, htext.trans ?_, by rw [hq']; rfl, hh, hb, htime, fun _ => hbelow⟩
    exact congrArg (_ ++ ·) String.append_empty
  case lookup name =>
    have hquery : (c.directory.lookupUrl name).query =
        some (String.ofList (Form.encodePair "filter" ("name eq " ++ name.text))) := by
      simp only [Directory.lookupUrl, Url.addPair, ApplicationName.filter,
        show c.directory.endpoint = c.settings.applications from rfl, hq]
    have hv : c.settings.applications.Continues (c.directory.lookupUrl name) "" :=
      ⟨rfl, rfl, String.append_empty.symm, hf⟩
    obtain ⟨hm, htime, hb, hh, hbelow, hq', htext⟩ := Client.request_below hd hv h
    rw [hquery] at hq' htext
    refine ⟨hm, ?_, ?_, hh, hb, htime, fun _ => hbelow⟩
    · rw [htext, String.append_empty, Url.marked, ← String.append_assoc]
      rfl
    · rw [hq', Option.getD_some, String.toList_ofList, Form.pairs_encodePair]
      rfl
  case create name =>
    have hv : c.settings.applications.Continues c.directory.endpoint "" :=
      ⟨rfl, rfl, String.append_empty.symm, hf⟩
    obtain ⟨hm, htime, hb, hh, hbelow, hq', htext⟩ := Client.request_below hd hv h
    rw [show c.directory.endpoint.query = none from hq] at hq' htext
    refine ⟨hm, ?_, by rw [hq']; rfl, hh, hb, htime, fun _ => hbelow⟩
    exact htext.trans (String.append_empty.trans String.append_empty)

end

/-! ## Over courses -/

namespace Course

variable {c : Client} {d : Draft} {s : Course} {i : TaskId} {r : Http.Request}

/-- **Confinement.** Whatever the responses are, every request of a reachable course `Makes` some
kind that suits the call of its task. -/
theorem requests_confined (hd : d.accept = .ok c.settings) (h : Reachable c s)
    (hr : (i, r) ∈ s.machine.report.requests) : ∃ (call : Call) (kind : RequestKind),
      s.calls[i]? = some call ∧ kind.Suits call ∧ kind.Makes c r := by
  obtain ⟨call, kind, hcall, hs, hr⟩ := h.kind hr
  exact ⟨call, kind, hcall, hs, kind.makes_of_request hd hr⟩

/-- A deletion whose lookup is answered with the application `2`. -/
def foundCourse : Course := play .sample [.ask (.delete "a"), .answer 0 (.answered .found)] {}

/-- `requests_confined` on `foundCourse`: the `DELETE` has the `Uuid` of the response in its
path. -/
theorem requests_confined_sample :
    let s := foundCourse
    Draft.sample.accept = .ok Client.sample.settings ∧ Reachable .sample s ∧
      ∃ r, (0, r) ∈ s.machine.report.requests ∧ r.method = .delete ∧
        r.target.text = "https://[::1]/Applications/v1/00000000-0000-0000-0000-000000000002" ∧
        ∃ (call : Call) (kind : RequestKind),
          s.calls[0]? = some call ∧ kind.Suits call ∧ kind.Makes .sample r := by
  intro s
  have h : Reachable .sample s := Reachable.play _ .refl
  have hsent : s.machine.report.requests.any fun x => x.1 = 0 && x.2.method = .delete &&
      x.2.target.text = "https://[::1]/Applications/v1/00000000-0000-0000-0000-000000000002" := by
    decide +kernel
  obtain ⟨⟨i, r⟩, hr, hx⟩ := List.any_eq_true.mp hsent
  simp only [Bool.and_eq_true, decide_eq_true_eq] at hx
  obtain ⟨⟨rfl, hmethod⟩, htext⟩ := hx
  exact ⟨Draft.accept_sample, h, r, hr, hmethod, htext,
    requests_confined Draft.accept_sample h hr⟩

end Course

end TenantApps
