import TenantApps.Proofs.Tenant.Operations
import TenantApps.Proofs.Url.Folder

/-!
# `TenantApps.Proofs.Tenant.Endpoints` — the validation of a draft

`Draft.accept` checks the user name, the timeout, the description and the parts of the tenant URL,
in this order, and fails with the error of the first check that fails. The two endpoints of accepted
settings are the text of the URL, closed with `/`, and a fixed suffix; a trailing slash of the given
URL makes no difference.

## Contents
- `Draft.Filled` and `Draft.Addresses`, the checks; `Draft.Refused`, the first failing check.
- `Draft.accept_of_addresses` and `accept_of_refused`, which are exhaustive by
  `Draft.addresses_or_refused`.
- `Draft.accept_slash`, the trailing slash.
- `Draft.accept_derives`, the **main result**.
-/

namespace TenantApps.Draft

/-! ## The checks -/

/-- **`Filled`**: the checks that come before the URL succeed. -/
structure Filled (d : Draft) : Prop where
  username : d.credentials.username ≠ ""
  timeout : d.timeout.isZero = false
  description : d.description ≠ ""

/-- **`d.Addresses u`**: the URL of the draft is `u`, of scheme `http` or `https`, without query and
fragment; a bare `?` or `#` counts as one. -/
structure Addresses (d : Draft) (u : Url) : Prop where
  parse : Url.parse d.credentials.url = .ok u
  scheme : u.scheme = "http" ∨ u.scheme = "https"
  query : u.query = none
  fragment : u.fragment = none

/-- **`d.Refused e`**: `e` is the error of the first check that fails. -/
inductive Refused (d : Draft) : ConfigError → Prop
  | username (h : d.credentials.username = "") : Refused d .missingUsername
  | timeout (hu : d.credentials.username ≠ "") (h : d.timeout.isZero = true) :
    Refused d .zeroTimeout
  | description (hu : d.credentials.username ≠ "") (ht : d.timeout.isZero = false)
    (h : d.description = "") : Refused d .emptyDescription
  | url {e : UrlError} (hd : d.Filled) (h : Url.parse d.credentials.url = .error e) :
    Refused d (.tenantUrl d.credentials.url e)
  | scheme {u : Url} (hd : d.Filled) (hu : Url.parse d.credentials.url = .ok u)
    (h : ¬(u.scheme = "http" ∨ u.scheme = "https")) :
    Refused d (.unsupportedUrl d.credentials.url .scheme)
  | queryOrFragment {u : Url} (hd : d.Filled) (hu : Url.parse d.credentials.url = .ok u)
    (hs : u.scheme = "http" ∨ u.scheme = "https")
    (h : ¬(u.query = none ∧ u.fragment = none)) :
    Refused d (.unsupportedUrl d.credentials.url .queryOrFragment)

/-- The checks succeed, or there is a first one that fails. -/
theorem addresses_or_refused (d : Draft) :
    (d.Filled ∧ ∃ u, d.Addresses u) ∨ ∃ e, d.Refused e := by
  -- one case for each check, in their order
  by_cases hu : d.credentials.username = ""
  · exact .inr ⟨_, .username hu⟩
  cases ht : d.timeout.isZero with
  | true => exact .inr ⟨_, .timeout hu ht⟩
  | false =>
    by_cases hdesc : d.description = ""
    · exact .inr ⟨_, .description hu ht hdesc⟩
    have hd : d.Filled := ⟨hu, ht, hdesc⟩
    cases hp : Url.parse d.credentials.url with
    | error e => exact .inr ⟨_, .url hd hp⟩
    | ok u =>
      by_cases hs : u.scheme = "http" ∨ u.scheme = "https"
      · by_cases hq : u.query = none ∧ u.fragment = none
        · exact .inl ⟨hd, u, hp, hs, hq.1, hq.2⟩
        · exact .inr ⟨_, .queryOrFragment hd hp hs hq⟩
      · exact .inr ⟨_, .scheme hd hp hs⟩

/-! ## Acceptance -/

theorem tenantBase_of_addresses {d : Draft} {u : Url} (h : d.Addresses u) :
    tenantBase d.credentials.url = .ok u.closeFolder := by
  have hscheme : ¬(u.scheme ≠ "http" ∧ u.scheme ≠ "https") := fun hn =>
    h.scheme.elim hn.1 hn.2
  unfold tenantBase
  rw [h.parse]
  dsimp only
  rw [if_neg hscheme, h.query, h.fragment]
  rfl

/-- A draft whose checks succeed is accepted. -/
theorem accept_of_addresses {d : Draft} {u : Url} (hd : d.Filled) (h : d.Addresses u) :
    ∃ s, d.accept = .ok s := by
  obtain ⟨a, ps, -, hp, -⟩ := Url.parse_web_path (Url.family_web_of_http h.scheme) h.parse
  have hpath : u.closeFolder.path = .segments (Url.closed "" ps) := by
    rw [Url.closeFolder_eq hp]
  have hsibling (parts : List String) : ∃ v, u.closeFolder.sibling parts = .ok v :=
    ⟨_, Url.sibling_eq_ok.mpr ⟨_, hpath, rfl⟩⟩
  obtain ⟨applications, ha⟩ := hsibling applicationsPath
  obtain ⟨discovery, hdisc⟩ := hsibling discoveryPath
  exact ⟨⟨_, applications, discovery, _, _, _⟩, accept_eq_ok.mpr ⟨hd.username, hd.timeout,
    hd.description, _, tenantBase_of_addresses h, ha, hdisc, rfl⟩⟩

/-- A draft is refused with the error of the first failing check. -/
theorem accept_of_refused {d : Draft} {e : ConfigError} (h : d.Refused e) :
    d.accept = .error e := by
  have hfilled {e : ConfigError} (hd : d.Filled) (ht : tenantBase d.credentials.url = .error e) :
      d.accept = .error e := by
    unfold accept
    rw [if_neg hd.username, hd.timeout, if_neg nofun, if_neg hd.description, ht]
    rfl
  unfold tenantBase at hfilled
  cases h with
  | username h =>
    unfold accept
    rw [if_pos h]
    rfl
  | timeout hu h =>
    unfold accept
    rw [if_neg hu, h, if_pos rfl]
    rfl
  | description hu ht h =>
    unfold accept
    rw [if_neg hu, ht, if_neg nofun, if_pos h]
    rfl
  | url hd h => exact hfilled hd (by rw [h])
  | scheme hd hu h => exact hfilled hd (by rw [hu]; exact if_pos (not_or.mp h))
  | @queryOrFragment u hd hu hs h =>
    refine hfilled hd ?_
    rw [hu]
    dsimp only
    have hmarked : u.query.isSome = true ∨ u.fragment.isSome = true := by
      rw [Option.isSome_iff_ne_none, Option.isSome_iff_ne_none]
      exact Decidable.not_and_iff_or_not.mp h
    rw [if_neg fun hn => hs.elim hn.1 hn.2, if_pos hmarked]

/-- Inversion: the endpoints of accepted settings are siblings in the folder of the URL. -/
theorem addresses_of_accept {d : Draft} {s : Settings} (h : d.accept = .ok s) :
    d.Filled ∧ ∃ u, d.Addresses u ∧
      u.closeFolder.sibling applicationsPath = .ok s.applications ∧
      u.closeFolder.sibling discoveryPath = .ok s.discovery := by
  rcases d.addresses_or_refused with ⟨hd, u, hu⟩ | ⟨e, he⟩
  · obtain ⟨-, -, -, tenant, ht, ha, hdisc, -⟩ := accept_eq_ok.mp h
    rw [tenantBase_of_addresses hu] at ht
    cases ht
    exact ⟨hd, u, hu, ha, hdisc⟩
  · rw [accept_of_refused he] at h
    cases h

/-- The text of a sibling in the folder of an accepted URL. -/
theorem Addresses.sibling_text {d : Draft} {u v : Url} {part : String} {parts : List String}
    (h : d.Addresses u) (hv : u.closeFolder.sibling (part :: parts) = .ok v) :
    v.text = u.folderText ++ part ++ (Path.segments parts).text := by
  obtain ⟨a, ps, ha, hp, hne, hs⟩ :=
    Url.parse_web_path (Url.family_web_of_http h.scheme) h.parse
  rw [← Url.closeFolder_text ha hp hne hs h.query h.fragment]
  obtain ⟨front, hfront⟩ := Url.closed_eq "" ps
  obtain ⟨-, hauthority, hquery, hfragment⟩ := u.closeFolder_parts
  have hpath : u.closeFolder.path = .segments (front ++ [""]) := by
    rw [Url.closeFolder_eq hp, hfront]
  exact Url.sibling_text (hauthority.trans ha) hpath (hquery.trans h.query)
    (hfragment.trans h.fragment) hv

/-! ## A trailing slash -/

def withUrl (d : Draft) (url : String) : Draft :=
  { d with credentials := { d.credentials with url := url } }

/-- A trailing slash changes nothing but `credentials.url`. -/
theorem accept_slash {d : Draft} {s : Settings} {c : Char} (h : d.accept = .ok s)
    (hc : d.credentials.url.toList.getLast? = some c) (hslash : c ≠ '/') (hback : c ≠ '\\')
    (hblank : 0x20 < c.toNat) : (d.withUrl (d.credentials.url ++ "/")).accept =
      .ok { s with credentials := (d.withUrl (d.credentials.url ++ "/")).credentials } := by
  obtain ⟨hd, u, hu, ha, hdisc⟩ := addresses_of_accept h
  obtain ⟨-, -, -, -, -, -, -, hsettings⟩ := accept_eq_ok.mp h
  obtain ⟨hscheme, -, hquery, hfragment⟩ := u.closeFolder_parts
  have hends : Url.isSlash .web c = false := by
    simp [Url.isSlash, hslash, hback]
  have hparse : Url.parse (d.credentials.url ++ "/") = .ok u.closeFolder :=
    Url.parse_slash hu.parse (Url.family_web_of_http hu.scheme) hu.query hu.fragment hc hends
      (decide_eq_false (Nat.not_le.mpr hblank))
  have hu' : (d.withUrl (d.credentials.url ++ "/")).Addresses u.closeFolder :=
    ⟨hparse, hscheme.symm ▸ hu.scheme, hquery.trans hu.query, hfragment.trans hu.fragment⟩
  have htenant := tenantBase_of_addresses hu'
  rw [Url.closeFolder_closeFolder] at htenant
  refine accept_eq_ok.mpr ⟨hd.username, hd.timeout, hd.description, _, htenant, ha, hdisc, ?_⟩
  rw [← hsettings]
  rfl

/-! ## The main result -/

/-- **Validation of drafts.** A draft is accepted if and only if it is `Filled` and its URL
`Addresses`; it is refused with `e` if and only if `Refused e`; a query or fragment is present if
and only if its mark is; the endpoints of accepted settings have the text of the URL closed with `/`
and a fixed suffix; the other fields are kept; and a trailing slash gives the same endpoints. -/
theorem accept_derives (d : Draft) :
    ((∃ s, d.accept = .ok s) ↔ d.Filled ∧ ∃ u, d.Addresses u) ∧
    (∀ e, d.accept = .error e ↔ d.Refused e) ∧
    (∀ u, Url.parse d.credentials.url = .ok u → u.scheme = "http" ∨ u.scheme = "https" →
      ((u.query = none ∧ u.fragment = none) ↔
        '?' ∉ d.credentials.url.toList ∧ '#' ∉ d.credentials.url.toList)) ∧
    (∀ s, d.accept = .ok s → ∃ u, d.Addresses u ∧
      s.applications.text = u.folderText ++ "Applications/v1/" ∧
      s.discovery.text = u.folderText ++ ".well-known/openid-configuration" ∧
      s.credentials = d.credentials ∧ s.timeout = d.timeout ∧ s.description = d.description ∧
      s.serializeByName = d.serializeByName) ∧
    (∀ s c, d.accept = .ok s → d.credentials.url.toList.getLast? = some c → c ≠ '/' →
      c ≠ '\\' → 0x20 < c.toNat → (d.withUrl (d.credentials.url ++ "/")).accept =
        .ok { s with credentials := (d.withUrl (d.credentials.url ++ "/")).credentials }) := by
  refine ⟨⟨?_, ?_⟩, fun e => ⟨fun he => ?_, accept_of_refused⟩, ?_, ?_, ?_⟩
  · rintro ⟨s, h⟩
    obtain ⟨hd, u, hu, -⟩ := addresses_of_accept h
    exact ⟨hd, u, hu⟩
  · rintro ⟨hd, u, hu⟩
    exact accept_of_addresses hd hu
  · rcases d.addresses_or_refused with ⟨hd, u, hu⟩ | ⟨e', he'⟩
    · obtain ⟨s, hs⟩ := accept_of_addresses hd hu
      rw [he] at hs
      cases hs
    · rw [accept_of_refused he'] at he
      cases he
      exact he'
  · exact fun u hu hs => Url.bare_iff (Url.family_web_of_http hs) hu
  · intro s h
    obtain ⟨-, u, hu, ha, hdisc⟩ := addresses_of_accept h
    obtain ⟨-, -, -, -, -, -, -, hsettings⟩ := accept_eq_ok.mp h
    refine ⟨u, hu, ?_, ?_, ?_⟩
    · rw [hu.sibling_text ha, String.append_assoc]
      rfl
    · rw [hu.sibling_text hdisc, String.append_assoc]
      rfl
    · rw [← hsettings]
      exact ⟨rfl, rfl, rfl, rfl⟩
  · intro s c h hc hslash hback hblank
    exact accept_slash h hc hslash hback hblank

theorem accept_derives_sample : sample.Filled ∧ (∃ u, sample.Addresses u) ∧
    sample.accept = .ok Client.sample.settings ∧
    (∃ u, sample.Addresses u ∧
      Client.sample.settings.applications.text = u.folderText ++ "Applications/v1/" ∧
      Client.sample.settings.discovery.text =
        u.folderText ++ ".well-known/openid-configuration") ∧
    (sample.withUrl "").accept = .error (.tenantUrl "" .relativeWithoutBase) ∧
    (sample.withUrl (sample.credentials.url ++ "/")).accept =
      .ok { Client.sample.settings with
        credentials := (sample.withUrl (sample.credentials.url ++ "/")).credentials } := by
  obtain ⟨haccepted, -, -, hplaces, hslash⟩ := accept_derives sample
  obtain ⟨hd, hu⟩ := haccepted.mp ⟨_, accept_sample⟩
  obtain ⟨u, hu', ha, hdisc, -⟩ := hplaces _ accept_sample
  have hempty : (sample.withUrl "").Refused (.tenantUrl "" .relativeWithoutBase) :=
    .url ⟨hd.username, hd.timeout, hd.description⟩ rfl
  exact ⟨hd, hu, accept_sample, ⟨u, hu', ha, hdisc⟩,
    ((accept_derives (sample.withUrl "")).2.1 _).mpr hempty,
    hslash _ ']' accept_sample (by decide) (by decide) (by decide) (by decide)⟩

end TenantApps.Draft
