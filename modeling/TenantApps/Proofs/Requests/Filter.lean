import TenantApps.Proofs.Creation.Replay
import TenantApps.Proofs.Requests.Confinement

/-!
# `TenantApps.Proofs.Requests.Filter` — the URL of a lookup

A lookup appends the pair `filter=name eq n` to the query of the Applications URL, form-encoded. For
every name, the decoded pairs are those of the URL followed by this one, scheme, authority and path
are those of the URL, with `/` for an empty path, and different names have different targets.

## Contents
- `Form.mem_encodePair`, the characters of an encoded pair.
- `Url.query_addPair`, the query with a pair appended.
- `Directory.lookup_filter`, the **main result**, and `Directory.lookup_adds_slash`, the empty path.
-/

namespace TenantApps

open Attempt Procedure

/-! ## Queries -/

/-- The alphabet of an encoded pair. -/
theorem Form.mem_encodePair {name value : String} {c : Char} (h : c ∈ encodePair name value) :
    isPlain c = true ∨ c = '+' ∨ c = '%' ∨ c = '=' := by
  rcases List.mem_append.mp h with h | h
  · exact (mem_encode h).imp_right (Or.imp_right .inl)
  · rcases List.mem_cons.mp h with h | h
    · exact .inr (.inr (.inr h))
    · exact (mem_encode h).imp_right (Or.imp_right .inl)

/-- `addPair` appends the encoded pair, with `&` unless the query is empty. -/
theorem Url.query_addPair (u : Url) (name value : String) : ∃ front,
    (u.addPair name value).query = some (String.ofList (front ++ Form.encodePair name value)) ∧
      (front = [] ∧ u.query.getD "" = "" ∨ front = (u.query.getD "").toList ++ ['&']) := by
  unfold addPair
  cases hu : u.query with
  | none => exact ⟨[], rfl, .inl ⟨rfl, rfl⟩⟩
  | some q =>
    by_cases hq : q = ""
    · subst hq
      exact ⟨[], rfl, .inl ⟨rfl, rfl⟩⟩
    · refine ⟨q.toList ++ ['&'], congrArg some ?_, .inr rfl⟩
      rw [String.ofList_append, String.ofList_append, String.ofList_toList]
      split
      · next h => cases h
      · next h => exact absurd (Option.some.inj h) hq
      · next h =>
        cases h
        rfl

/-- `addPair` keeps the encoded pairs that are there. -/
theorem Url.written_addPair (u : Url) (name value : String) : ∃ query,
    (u.addPair name value).query = some query ∧
      Form.written query.toList = Form.written (u.query.getD "").toList ++
        [(Form.encode name, Form.encode value)] ∧
      ∀ c ∈ query.toList, c ∈ (u.query.getD "").toList ∨ c = '&' ∨ c = '=' ∨ c = '+' ∨ c = '%' ∨
        Form.isPlain c = true := by
  obtain ⟨front, hq, hfront⟩ := u.query_addPair name value
  have hpair (c : Char) (hc : c ∈ Form.encodePair name value) :
      c ∈ (u.query.getD "").toList ∨ c = '&' ∨ c = '=' ∨ c = '+' ∨ c = '%' ∨
        Form.isPlain c = true := by
    have := Form.mem_encodePair hc
    tauto
  refine ⟨_, hq, ?_, fun c hc => ?_⟩ <;> rw [String.toList_ofList] at *
  · obtain ⟨rfl, hown⟩ | rfl := hfront
    · rw [hown, List.nil_append, Form.written_encodePair]
      rfl
    · rw [List.append_assoc, List.singleton_append, Form.written_append, Form.written_encodePair]
  · obtain hc | hc := List.mem_append.mp hc
    · obtain ⟨rfl, -⟩ | rfl := hfront
      · cases hc
      · obtain hc | hc := List.mem_append.mp hc
        · exact .inl hc
        · exact .inr (.inl (List.mem_singleton.mp hc))
    · exact hpair c hc

/-! ## Lookups -/

namespace Directory

/-- The target of a lookup request. -/
theorem lookup_target {d : Directory} {name : ApplicationName} {r : Http.Request}
    (h : d.request .get (d.lookupUrl name) none = .ok r) : ∃ a query,
    d.endpoint.authority = some a ∧
      r.target = ⟨some d.endpoint.scheme, a.text,
        if d.endpoint.path.text = "" then "/" else d.endpoint.path.text, some query⟩ ∧
      Form.written query.toList = Form.written (d.endpoint.query.getD "").toList ++
        [(Form.encode "filter", Form.encode name.filter)] ∧
      ∀ c ∈ query.toList, c ∈ (d.endpoint.query.getD "").toList ∨ c = '&' ∨ c = '=' ∨ c = '+' ∨
        c = '%' ∨ Form.isPlain c = true := by
  obtain ⟨query, hq, hwritten, hchars⟩ := d.endpoint.written_addPair "filter" name.filter
  obtain ⟨a, ha, ht⟩ := Http.Target.ofUrl_of_query (request_eq_ok h).1 hq
  exact ⟨a, query, ha, ht, hwritten, hchars⟩

/-- `ApplicationName.filter` is injective. -/
theorem filter_injective {n n' : ApplicationName} (h : n.filter = n'.filter) : n = n' :=
  ApplicationName.ext ((String.append_right_inj _).mp h)

/-- **Lookup filter.** If the lookup request can be built, it is the first request of
`Directory.find`; it has the scheme and the authority of the Applications URL, and its path, with
`/` for an empty one; its pairs are those of the URL and then `filter` with the value `name eq n`;
and the request determines the name. -/
theorem lookup_filter (d : Directory) {name : ApplicationName} {r : Http.Request}
    (h : d.request .get (d.lookupUrl name) none = .ok r) :
    (∀ (os : Http.Script) (k : Cache), (Procedure.run Http.Script.exchange (d.find name)
      { transport := os, cache := k }).2.requests = [r]) ∧
    r.target.scheme = some d.endpoint.scheme ∧
    some r.target.authority = d.endpoint.authority.map Authority.text ∧
    r.target.path = (if d.endpoint.path.text = "" then "/" else d.endpoint.path.text) ∧
    (∃ query, r.target.query = some query ∧
      Form.written query.toList = Form.written (d.endpoint.query.getD "").toList ++
        [(Form.encode "filter", Form.encode ("name eq " ++ name.text))] ∧
      Form.pairs query.toList = Form.pairs (d.endpoint.query.getD "").toList ++
        [(some "filter", some ("name eq " ++ name.text))] ∧
      (∀ c ∈ query.toList, c ∈ (d.endpoint.query.getD "").toList ∨ c = '&' ∨ c = '=' ∨ c = '+' ∨
        c = '%' ∨ Form.isPlain c = true) ∧
      ∀ (draft : Draft) (settings : Settings), draft.accept = .ok settings →
        d.endpoint = settings.applications →
          Form.pairs query.toList = [(some "filter", some ("name eq " ++ name.text))]) ∧
    ∀ (name' : ApplicationName) (r' : Http.Request),
      d.request .get (d.lookupUrl name') none = .ok r' → r'.target.text = r.target.text →
        name' = name := by
  obtain ⟨a, query, ha, ht, hwritten, hchars⟩ := lookup_target h
  have hpairs : Form.pairs query.toList = Form.pairs (d.endpoint.query.getD "").toList ++
      [(some "filter", some ("name eq " ++ name.text))] := by
    rw [Form.pairs_eq, Form.pairs_eq, hwritten, List.map_append, List.map_singleton,
      Form.decode_encode, Form.decode_encode]
    rfl
  refine ⟨fun os k => ?_, by rw [ht], by rw [ht, ha]; rfl, by rw [ht],
    ⟨query, by rw [ht], hwritten, hpairs, hchars, fun draft settings hd he => ?_⟩,
    fun name' r' h' htext => ?_⟩
  · refine (run_replay (d.find name) { transport := os, cache := k }).2.trans ?_
    exact congrArg Replay.requests (replay_ask h (verdict?_readLookup name) os k)
  · -- accepted settings name an address without a query
    rw [hpairs, he, (Draft.accept_bare hd).1.1]
    rfl
  · obtain ⟨a', query', ha', ht', hwritten', -⟩ := lookup_target h'
    cases ha.symm.trans ha'
    have hquery : query' = query := by
      rw [ht, ht'] at htext
      exact (String.append_right_inj _).mp ((String.append_right_inj _).mp htext)
    have hlast := List.append_cancel_left (hwritten.symm.trans (hquery ▸ hwritten'))
    have hfilter : Form.encode name.filter = Form.encode name'.filter := by
      simpa using hlast
    exact (filter_injective (Form.encode_injective hfilter)).symm

/-- A directory whose URL has a query and a fragment. -/
def sample : Directory where
  endpoint := { Url.sample ["Applications", ""] with query := some "a=b&c", fragment := some "d" }
  authorization := ⟨"Basic dTpw"⟩

/-- `lookup_filter` on a name with the reserved characters of a query. -/
theorem lookup_filter_sample :
    let name : ApplicationName := ⟨"a&b=c+d%#?/é", by decide, by decide⟩
    ∃ r, sample.request .get (sample.lookupUrl name) none = .ok r ∧
      ∃ query, r.target.query = some query ∧
        Form.pairs query.toList = Form.pairs "a=b&c".toList ++
          [(some "filter", some "name eq a&b=c+d%#?/é")] := by
  intro name
  have hok : (sample.request .get (sample.lookupUrl name) none).isOk = true := by decide
  obtain ⟨r, h⟩ := except_isOk.mp hok
  obtain ⟨-, -, -, -, ⟨query, hq, -, hpairs, -⟩, -⟩ := lookup_filter sample h
  exact ⟨r, h, query, hq, hpairs⟩

/-- A directory whose URL has an empty path. -/
def pathless : Directory where
  endpoint :=
    { scheme := "foo", authority := some { host := some (.name "h") }, path := .segments [] }
  authorization := ⟨"Basic dTpw"⟩

theorem parse_pathless : Url.parse "foo://h" = .ok pathless.endpoint :=
  except_toOption_eq_some.mp (by decide)

/-- **An empty path is not sent as it is**: the target has `/`. -/
theorem lookup_adds_slash : ¬∀ (text : String) (d : Directory) (name : ApplicationName)
    (r : Http.Request), Url.parse text = .ok d.endpoint →
      d.request .get (d.lookupUrl name) none = .ok r →
        r.target.path = d.endpoint.path.text := by
  intro hall
  let name : ApplicationName := ⟨"a", by decide, by decide⟩
  have hpath : ((pathless.request .get (pathless.lookupUrl name) none).toOption.map
      (·.target.path)) = some "/" := by
    decide
  cases h : pathless.request .get (pathless.lookupUrl name) none with
  | error e =>
    rw [h] at hpath
    cases hpath
  | ok r =>
    rw [h] at hpath
    have he : r.target.path = "" := hall "foo://h" pathless name r parse_pathless h
    have hslash : r.target.path = "/" := Option.some.inj hpath
    rw [he] at hslash
    revert hslash
    decide

end Directory

end TenantApps
