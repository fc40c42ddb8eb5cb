import TenantApps.Proofs.Tenant.Verdict

/-!
# `TenantApps.Proofs.Tenant.Places` — URLs and targets of requests

Both endpoints of accepted settings, and the resource of each application, extend one URL by path
segments. `Http.Target.ofUrl` keeps scheme, authority, path and query of the URL that it is given.

## Contents
- `Draft.accept_eq_ok`, inversion of acceptance, and `Draft.accept_places`, the endpoints.
- `Path.text_append` and `Path.text_cons`, texts of paths.
- `Http.Target.ofUrl_eq_ok` and `ofUrl_of_query`, the target of a URL with a path or a query, and
  `Http.Target.text_eq`; `Url.Continues` and `Http.Target.Below`, URLs and targets below a URL.
- `Directory.request_eq_ok`, the requests of a directory.
-/

namespace TenantApps

/-! ## Accepted settings -/

theorem Url.sibling_eq_ok {u v : Url} {parts : List String} : u.sibling parts = .ok v ↔
    ∃ ps, u.path = .segments ps ∧
      { u with path := .segments (ps.dropLast ++ parts), query := none, fragment := none } = v := by
  unfold sibling
  cases u.path with
  | segments ps => simp
  | plain text => simp

theorem mapError_eq_ok {ε ε' α : Type} {f : ε → ε'} {x : Except ε α} {a : α} :
    x.mapError f = .ok a ↔ x = .ok a := by
  cases x with
  | error e => exact ⟨nofun, nofun⟩
  | ok b =>
    show (.ok b : Except ε' α) = .ok a ↔ _
    rw [Except.ok.injEq, Except.ok.injEq]

/-- Inversion of `Draft.accept`. -/
theorem Draft.accept_eq_ok {d : Draft} {s : Settings} : d.accept = .ok s ↔
    d.credentials.username ≠ "" ∧ d.timeout.isZero = false ∧ d.description ≠ "" ∧
      ∃ tenant, tenantBase d.credentials.url = .ok tenant ∧
        tenant.sibling applicationsPath = .ok s.applications ∧
        tenant.sibling discoveryPath = .ok s.discovery ∧
        ⟨d.credentials, s.applications, s.discovery, d.timeout, d.description,
          d.serializeByName⟩ = s := by
  unfold accept
  by_cases hu : d.credentials.username = ""
  · simp [hu]
    rintro ⟨⟩
  by_cases ht : d.timeout.isZero = true
  · simp [hu, ht]
    rintro ⟨⟩
  by_cases hd : d.description = ""
  · simp [hu, ht, hd]
    rintro ⟨⟩
  simp only [hu, ht, hd, if_false, Bool.false_eq_true, ne_eq, not_false_eq_true, true_and]
  show (tenantBase d.credentials.url >>= fun tenant => _) = Except.ok s ↔ _
  rw [except_bind_eq_ok]
  refine exists_congr fun tenant => and_congr_right fun _ => ?_
  rw [except_bind_eq_ok]
  simp only [below, mapError_eq_ok]
  constructor
  · rintro ⟨applications, ha, h⟩
    obtain ⟨discovery, hd, h⟩ := except_bind_eq_ok.mp h
    cases h
    exact ⟨ha, mapError_eq_ok.mp hd, rfl⟩
  · rintro ⟨ha, hd, h⟩
    refine ⟨_, ha, except_bind_eq_ok.mpr ⟨_, mapError_eq_ok.mpr hd, ?_⟩⟩
    exact congrArg Except.ok h

/-- The Applications URL is a folder, and the discovery document is its sibling. -/
theorem Draft.accept_places {d : Draft} {s : Settings} (h : d.accept = .ok s) :
    ∃ (u : Url) (ps : List String),
      s.applications =
        { u with path := .segments (ps ++ applicationsPath), query := none, fragment := none } ∧
      s.discovery =
        { u with path := .segments (ps ++ discoveryPath), query := none, fragment := none } := by
  obtain ⟨-, -, -, tenant, -, ha, hd, -⟩ := accept_eq_ok.mp h
  obtain ⟨ps, hp, ha⟩ := Url.sibling_eq_ok.mp ha
  obtain ⟨ps', hp', hd⟩ := Url.sibling_eq_ok.mp hd
  rw [hp] at hp'
  cases hp'
  exact ⟨tenant, ps.dropLast, ha.symm, hd.symm⟩

/-! ## Targets -/

theorem Path.text_append (ps qs : List String) :
    (Path.segments (ps ++ qs)).text = (Path.segments ps).text ++ (Path.segments qs).text := by
  rw [Path.text, Path.text, Path.text, List.map_append, String.join_append]

theorem Path.text_cons (p : String) (ps : List String) :
    (Path.segments (p :: ps)).text = "/" ++ p ++ (Path.segments ps).text := by
  rw [Path.text, Path.text, List.map_cons, String.join_cons]

/-- **`u.Continues v rest`**: `v` is `u` with `rest` appended to the path; the query is free. -/
structure Url.Continues (u v : Url) (rest : String) : Prop where
  scheme : v.scheme = u.scheme
  authority : v.authority = u.authority
  path : v.path.text = u.path.text ++ rest
  fragment : v.fragment = none

/-- The target of a URL that is not just an authority: everything but the fragment. -/
theorem Http.Target.ofUrl_of_mem {u : Url} {t : Http.Target} {x : Char} (h : ofUrl u = .ok t)
    (hx : x ∈ u.text.toList) (hs : x = '/' ∨ x = '?' ∨ x = '#') : ∃ a, u.authority = some a ∧
      t = ⟨some u.scheme, a.text, if u.path.text = "" then "/" else u.path.text, u.query⟩ := by
  unfold ofUrl at h
  split at h
  · cases h
  · split at h
    · next a ha =>
      split at h
      · cases h
      · split at h
        · cases h
        · split at h <;> cases h
          exact ⟨a, ha, rfl⟩
    · -- the text does not end where an authority ends
      simp only at h
      split at h
      · cases h
      · split at h
        · next he =>
          have hfirst := List.all_eq_true.mp List.all_takeWhile x (he.symm ▸ hx)
          rcases hs with rfl | rfl | rfl <;> simp at hfirst
        · cases h

/-- The target of a URL with a path. -/
theorem Http.Target.ofUrl_eq_ok {u : Url} {t : Http.Target} (h : ofUrl u = .ok t)
    (hp : '/' ∈ u.path.text.toList) : ∃ a, u.authority = some a ∧
      t = ⟨some u.scheme, a.text, u.path.text, u.query⟩ := by
  have hmem : '/' ∈ u.text.toList := by
    unfold Url.text Url.requestText
    simp only [String.toList_append, List.mem_append]
    exact .inl (.inl (.inr hp))
  have hpath : u.path.text ≠ "" := by
    intro he
    rw [he] at hp
    cases hp
  obtain ⟨a, ha, rfl⟩ := ofUrl_of_mem h hmem (.inl rfl)
  exact ⟨a, ha, by rw [if_neg hpath]⟩

/-- The target of a URL with a query. -/
theorem Http.Target.ofUrl_of_query {u : Url} {t : Http.Target} {query : String}
    (h : ofUrl u = .ok t) (hq : u.query = some query) : ∃ a, u.authority = some a ∧
      t = ⟨some u.scheme, a.text, if u.path.text = "" then "/" else u.path.text, some query⟩ := by
  have hmem : '?' ∈ u.text.toList := by
    unfold Url.text Url.requestText
    rw [hq, String.toList_append, String.toList_append]
    refine List.mem_append_left _ (List.mem_append_right _ ?_)
    rw [Url.marked, String.toList_append]
    exact List.mem_append_left _ List.mem_cons_self
  obtain ⟨a, ha, rfl⟩ := ofUrl_of_mem h hmem (.inr (.inl rfl))
  exact ⟨a, ha, by rw [hq]⟩

theorem Url.text_eq {u : Url} {a : Authority} (ha : u.authority = some a)
    (hf : u.fragment = none) :
    u.text = u.scheme ++ "://" ++ a.text ++ u.path.text ++ marked "?" u.query := by
  have hguard : u.pathGuard = "" := by
    unfold pathGuard
    rw [ha]
  have hslashes : u.scheme ++ ":" ++ ("//" ++ a.text) = u.scheme ++ "://" ++ a.text := by
    rw [String.append_assoc, String.append_assoc, ← @String.append_assoc ":"]
    rfl
  rw [text, requestText, ha, hguard, hf, String.append_empty]
  exact (String.append_empty).trans (by rw [← hslashes]; rfl)

/-- The text of a target is that of its URL. -/
theorem Http.Target.text_eq {u : Url} {t : Http.Target} (h : ofUrl u = .ok t)
    (hp : '/' ∈ u.path.text.toList) (hf : u.fragment = none) : t.text = u.text := by
  obtain ⟨a, ha, rfl⟩ := ofUrl_eq_ok h hp
  rw [Url.text_eq ha hf]
  rfl

/-- **`t.Below u`**: the target `t` is at the authority of `u`, and its path extends that of `u`. -/
structure Http.Target.Below (u : Url) (t : Http.Target) : Prop where
  scheme : t.scheme = some u.scheme
  authority : some t.authority = u.authority.map Authority.text
  path : ∃ rest, t.path = u.path.text ++ rest

/-- The target of a URL that continues another one. -/
theorem Http.Target.ofUrl_continues {u v : Url} {rest : String} {t : Http.Target}
    (hv : u.Continues v rest) (hp : '/' ∈ u.path.text.toList) (hq : u.query = none)
    (hf : u.fragment = none) (h : ofUrl v = .ok t) :
    t.Below u ∧ t.text = u.text ++ rest ++ Url.marked "?" v.query ∧ t.query = v.query := by
  have hp' : '/' ∈ v.path.text.toList := by
    rw [hv.path, String.toList_append]
    exact List.mem_append_left _ hp
  have htext := text_eq h hp' hv.fragment
  obtain ⟨a, ha, rfl⟩ := ofUrl_eq_ok h hp'
  have ha' : u.authority = some a := hv.authority ▸ ha
  refine ⟨⟨congrArg some hv.scheme, by rw [ha']; rfl, rest, hv.path⟩, htext.trans ?_, rfl⟩
  rw [Url.text_eq ha hv.fragment, Url.text_eq ha' hf, hv.scheme, hv.path, hq]
  simp only [Url.marked, String.append_assoc, String.append_empty]

/-! ## Requests -/

/-- Inversion of `Directory.request`: target, method, headers and body. -/
theorem Directory.request_eq_ok {d : Directory} {method : Http.Method} {u : Url}
    {body : Option Json.Value} {r : Http.Request} (h : d.request method u body = .ok r) :
    Http.Target.ofUrl u = .ok r.target ∧ r.method = method ∧ r.timeout = none ∧
      r.headers = [("authorization", d.authorization.exposed), ("accept", mediaType)] ++
        (if body.isSome then [("content-type", mediaType)] else []) ∧
      r.body = body.elim "" Json.Value.print := by
  unfold request at h
  split at h
  · cases h
  · next target ht =>
    cases body with
    | none =>
      cases h
      exact ⟨ht, rfl, rfl, rfl, rfl⟩
    | some v =>
      cases h
      exact ⟨ht, rfl, rfl, rfl, rfl⟩

end TenantApps
