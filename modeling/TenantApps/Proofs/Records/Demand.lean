import TenantApps.Proofs.Requests.Payload
import TenantApps.Proofs.Tenant.Operations
import TenantApps.Proofs.Tenant.Places
import TenantApps.Proofs.Wire.Form
import TenantApps.Proofs.Wire.Uuid

/-!
# `TenantApps.Proofs.Records.Demand` — the reading of requests by a tenant

`Demand.ofRequest` is an interpreter of requests, defined from the method, path, query and body
alone. On the requests of a client it is a left inverse: a lookup is read as `find` of its name, a
`POST` as `create`, a `DELETE` as `remove` of its `Uuid`, and everything else as `other`.

## Contents
- `Demand` and `Demand.ofRequest`.
- `Draft.accept_paths`, the paths of accepted settings.
- `Client.demand_lookup`, `demand_create`, `demand_delete`, `ofRequest_below` and
  `demand_discovery`, the reading of each kind of request.
-/

namespace TenantApps

/-! ## The interpreter -/

/-- **`Demand`**: the effect that a request asks a tenant for. -/
inductive Demand
  | find (name : String)
  | remove (id : Uuid)
  | create (name : String)
  /-- No effect on the records. -/
  | other
  deriving DecidableEq

namespace Demand

/-- The name in a filter `name eq n`. -/
def ofFilter? (filter : String) : Option String :=
  match filter.toList with
  | 'n' :: 'a' :: 'm' :: 'e' :: ' ' :: 'e' :: 'q' :: ' ' :: name => some (String.ofList name)
  | _ => none

/-- The name in the `filter` of a query. -/
def ofQuery? (query : Option String) : Option String := do
  let pair ← (Form.pairs (← query).toList).find? (·.1 = some "filter")
  ofFilter? (← pair.2)

def ofNode? : Json.Node → Option String
  | .text s => s.toOption
  | _ => none

/-- The member `name` of a JSON body. -/
def ofBody? (body : String) : Option String :=
  match (Json.read (Utf8.bytes body)).1 with
  | .object members none =>
    (members.find? (·.1.toOption = some "name")).bind fun member => ofNode? member.2
  | _ => none

/-- The `Uuid` below a folder, if nothing follows it in the path. -/
def ofPath? (folder path : String) : Option Uuid :=
  let last := String.ofList (Text.afterLast '/' path.toList)
  if path = folder ++ last then (Uuid.parse last).toOption else none

/-- **`ofRequest folder r`**: the demand of `r` at a tenant whose applications are in `folder`. -/
def ofRequest (folder : String) (r : Http.Request) : Demand :=
  match r.method with
  | .get => if r.target.path = folder then (ofQuery? r.target.query).elim other find else other
  | .post => if r.target.path = folder then (ofBody? r.body).elim other create else other
  | .delete => (ofPath? folder r.target.path).elim other remove

theorem ofFilter?_filter (n : ApplicationName) : ofFilter? n.filter = some n.text := by
  have h : n.filter.toList =
      'n' :: 'a' :: 'm' :: 'e' :: ' ' :: 'e' :: 'q' :: ' ' :: n.text.toList := by
    rw [ApplicationName.filter, String.toList_append]
    rfl
  rw [ofFilter?, h]
  exact congrArg some String.ofList_toList

theorem ofQuery?_pair (n : ApplicationName) :
    ofQuery? (some (String.ofList (Form.encodePair "filter" n.filter))) = some n.text := by
  rw [← ofFilter?_filter, ofQuery?, Option.bind_eq_bind, Option.bind_some, String.toList_ofList,
    Form.pairs_encodePair]
  rfl

/-- `ofBody?` is a left inverse of `Payload.newApplication`. -/
theorem ofBody?_newApplication (name : String) :
    ofBody? (Payload.newApplication name).print = some name := by
  rw [ofBody?, Payload.read_newApplication]
  rfl

theorem ofPath?_text (folder : String) (id : Uuid) (h : ∃ base, folder = base ++ "/") :
    ofPath? folder (folder ++ id.text) = some id := by
  obtain ⟨base, rfl⟩ := h
  have hlast : String.ofList (Text.afterLast '/' (base ++ "/" ++ id.text).toList) = id.text := by
    simp only [Uuid.text, String.toList_append, String.toList_ofList, List.append_assoc]
    exact congrArg String.ofList (Text.afterLast_append base.toList id.slash_not_mem)
  simp only [ofPath?, hlast, if_true, Uuid.parse_text]
  rfl

end Demand

/-! ## Paths -/

/-- Path and query of `Http.Target.ofUrl`. -/
theorem Http.Target.ofUrl_ok {u : Url} {t : Http.Target} (h : ofUrl u = .ok t)
    (hp : '/' ∈ u.path.text.toList) : t.path = u.path.text ∧ t.query = u.query := by
  obtain ⟨a, -, rfl⟩ := ofUrl_eq_ok h hp
  exact ⟨rfl, rfl⟩

/-- The applications of accepted settings are in a folder without a query, and the discovery
document is outside of it. -/
theorem Draft.accept_paths {d : Draft} {s : Settings} (h : d.accept = .ok s) :
    ∃ ps, s.applications.path = .segments (ps ++ applicationsPath) ∧
      s.applications.query = none ∧ s.discovery.path = .segments (ps ++ discoveryPath) := by
  obtain ⟨u, ps, ha, hd⟩ := accept_places h
  exact ⟨ps, by rw [ha], by rw [ha], by rw [hd]⟩

/-! ## The requests of a client -/

theorem Demand.ofRequest_elsewhere {folder : String} {r : Http.Request} (hm : r.method ≠ .delete)
    (hp : r.target.path ≠ folder) : ofRequest folder r = .other := by
  unfold ofRequest
  cases h : r.method with
  | get | post => exact if_neg hp
  | delete => exact absurd h hm

theorem Directory.request_ok {d : Directory} {method : Http.Method} {u : Url}
    {body : Option Json.Value} {r : Http.Request} (h : d.request method u body = .ok r)
    (hp : '/' ∈ u.path.text.toList) : r.method = method ∧ r.target.path = u.path.text ∧
      r.target.query = u.query ∧ ∀ v, body = some v → r.body = v.print := by
  obtain ⟨ht, hm, -, -, hb⟩ := request_eq_ok h
  obtain ⟨hpath, hquery⟩ := Http.Target.ofUrl_ok ht hp
  exact ⟨hm, hpath, hquery, fun v hv => by rw [hb, hv]; rfl⟩

namespace Client

variable {c : Client} {d : Draft} {r : Http.Request}

/-- The path of the Applications collection. -/
def folder (c : Client) : String := c.settings.applications.path.text

theorem folder_of_path {ps : List String}
    (hp : c.settings.applications.path = .segments (ps ++ applicationsPath)) :
    c.folder = (Path.segments (ps ++ ["Applications", "v1"])).text ++ "/" := by
  rw [folder, hp, applicationsPath, Path.text_append, Path.text_append, String.append_assoc]
  rfl

theorem folder_eq (hd : d.accept = .ok c.settings) : ∃ base, c.folder = base ++ "/" := by
  obtain ⟨ps, hp, -, -⟩ := Draft.accept_paths hd
  exact ⟨_, folder_of_path hp⟩

theorem slash_mem_folder (hd : d.accept = .ok c.settings) : '/' ∈ c.folder.toList := by
  obtain ⟨base, hb⟩ := folder_eq hd
  rw [hb, String.toList_append]
  exact List.mem_append_right _ List.mem_cons_self

/-- The URL of a record, with any suffix, continues that of the folder. -/
theorem place_continues {id : Uuid} {suffix : List String} {u : Url}
    (hd : d.accept = .ok c.settings) (hu : c.directory.place id suffix = .ok u) :
    c.settings.applications.Continues u (id.text ++ (Path.segments suffix).text) ∧
      u.query = none := by
  obtain ⟨ps, hp, -, -⟩ := Draft.accept_paths hd
  obtain ⟨qs, hqs, rfl⟩ := Url.sibling_eq_ok.mp (mapError_eq_ok.mp hu)
  obtain rfl : ps ++ applicationsPath = qs := by
    rw [show c.directory.endpoint = c.settings.applications from rfl, hp] at hqs
    exact Path.segments.inj hqs
  refine ⟨⟨rfl, rfl, ?_, rfl⟩, rfl⟩
  have hlast : (ps ++ applicationsPath).dropLast = ps ++ ["Applications", "v1"] := by
    rw [applicationsPath, List.dropLast_append_cons]
    rfl
  show (Path.segments _).text = c.folder ++ _
  rw [hlast, Path.text_append, Path.text_cons, folder_of_path hp]
  simp only [String.append_assoc]

theorem requestAt_ok {method : Http.Method} {id : Uuid} {suffix : List String}
    {body : Option Json.Value} (hd : d.accept = .ok c.settings)
    (h : c.directory.requestAt method id suffix body = .ok r) : r.method = method ∧
      r.target.path = c.folder ++ (id.text ++ (Path.segments suffix).text) := by
  obtain ⟨u, hu, hr⟩ := except_bind_eq_ok.mp h
  have hpath := (place_continues hd hu).1.path
  have hslash : '/' ∈ u.path.text.toList := by
    rw [hpath, String.toList_append]
    exact List.mem_append_left _ (slash_mem_folder hd)
  obtain ⟨hm, ht, -, -⟩ := Directory.request_ok hr hslash
  exact ⟨hm, ht.trans hpath⟩

/-- A lookup is read as `find`. -/
theorem demand_lookup {name : ApplicationName} (hd : d.accept = .ok c.settings)
    (h : c.directory.request .get (c.directory.lookupUrl name) none = .ok r) :
    Demand.ofRequest c.folder r = .find name.text := by
  obtain ⟨ps, -, hq, -⟩ := Draft.accept_paths hd
  have hquery : (c.directory.lookupUrl name).query =
      some (String.ofList (Form.encodePair "filter" name.filter)) := by
    simp only [Directory.lookupUrl, Url.addPair,
      show c.directory.endpoint = c.settings.applications from rfl, hq]
  obtain ⟨hm, hp, ht, -⟩ := Directory.request_ok h (slash_mem_folder hd)
  rw [Demand.ofRequest, hm, ht, hquery, Demand.ofQuery?_pair]
  exact if_pos hp

/-- The `POST` of an application is read as `create`. -/
theorem demand_create {name : ApplicationName} (hd : d.accept = .ok c.settings)
    (h : c.directory.request .post c.directory.endpoint
      (some (Payload.newApplication name.text)) = .ok r) :
    Demand.ofRequest c.folder r = .create name.text := by
  obtain ⟨hm, hp, -, hb⟩ := Directory.request_ok h (slash_mem_folder hd)
  rw [Demand.ofRequest, hm, hb _ rfl, Demand.ofBody?_newApplication]
  exact if_pos hp

/-- The `DELETE` of an application is read as `remove`. -/
theorem demand_delete {id : Uuid} (hd : d.accept = .ok c.settings)
    (h : c.directory.requestAt .delete id [] none = .ok r) :
    Demand.ofRequest c.folder r = .remove id := by
  obtain ⟨hm, hp⟩ := requestAt_ok hd h
  have hp : r.target.path = c.folder ++ id.text :=
    hp.trans (congrArg (c.folder ++ ·) String.append_empty)
  rw [Demand.ofRequest, hm, hp, Demand.ofPath?_text c.folder id (folder_eq hd)]
  rfl

/-- Requests below a record other than its `DELETE` are read as `other`. -/
theorem ofRequest_below {method : Http.Method} {id : Uuid} {suffix : List String}
    {body : Option Json.Value} (hd : d.accept = .ok c.settings) (hm : method ≠ .delete)
    (h : c.directory.requestAt method id suffix body = .ok r) :
    Demand.ofRequest c.folder r = .other := by
  obtain ⟨hmethod, hp⟩ := requestAt_ok hd h
  apply Demand.ofRequest_elsewhere (hmethod ▸ hm)
  intro he
  rw [he] at hp
  -- the path is longer than the folder by an ID at least
  have hlength := congrArg (·.toList.length) hp
  simp only [String.toList_append, List.length_append, Uuid.text, String.toList_ofList,
    Uuid.length_hyphenated] at hlength
  omega

/-- The discovery request is read as `other`. -/
theorem demand_discovery (hd : d.accept = .ok c.settings) (h : c.discovery.request = .ok r) :
    Demand.ofRequest c.folder r = .other := by
  obtain ⟨ps, hp, -, hp'⟩ := Draft.accept_paths hd
  have hpath : c.settings.discovery.path.text =
      (Path.segments (ps ++ [".well-known"])).text ++ "/openid-configuration" := by
    rw [hp', discoveryPath, Path.text_append, Path.text_append, String.append_assoc]
    rfl
  have hslash : '/' ∈ c.discovery.endpoint.path.text.toList := by
    rw [show c.discovery.endpoint = c.settings.discovery from rfl, hpath, String.toList_append]
    exact List.mem_append_right _ List.mem_cons_self
  unfold Discovery.request at h
  split at h
  · cases h
  · next target ht =>
    cases h
    apply Demand.ofRequest_elsewhere (by rintro ⟨⟩)
    intro he
    -- the folder ends with a slash and the path of the document does not
    have hlast := (Http.Target.ofUrl_ok ht hslash).1.symm.trans he
    rw [show c.discovery.endpoint = c.settings.discovery from rfl, hpath, folder_of_path hp]
      at hlast
    have hlast := congrArg (·.toList.getLast?) hlast
    simp only [String.toList_append, List.getLast?_append] at hlast
    cases hlast

end Client

end TenantApps
