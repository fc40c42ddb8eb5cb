import TenantApps.Proofs.Wire.Base64
import TenantApps.Proofs.Wire.Text
import TenantApps.Tenant.Directory

/-!
# `TenantApps.Proofs.Requests.Authorization` — the Basic authorization header

The value of the header is `Basic ` and the padded Base64 of `username:password`. A reader decodes
it and splits the text at its first colon, so it recovers the credentials exactly if the user name
has no colon. Base64 has visible ASCII only, so the value is always legal in a header.

## Contents
- `Text.cut?`, splitting at the first separator, with `Text.cut?_eq_some_iff`.
- `Http.Request.addHeader` and `Http.Request.build`, the stepwise builder with the header check, and
  `Http.Request.build_eq`.
- `Credentials.ofAuthorization?`, the reader.
- `Credentials.isHeaderText_authorization`, legality, and `Directory.request_eq_build`.
- `Credentials.authorization_read`, the **main result**.
-/

namespace TenantApps

/-! ## Separators -/

/-- The parts in front of and behind the first separator. -/
def Text.cut? (sep : Char) : List Char → Option (List Char × List Char)
  | [] => none
  | c :: rest =>
    if c = sep then some ([], rest)
    else (cut? sep rest).map fun parts => (c :: parts.1, parts.2)

/-- `cut?` is characterized by a first part without the separator. -/
theorem Text.cut?_eq_some_iff {sep : Char} {cs front back : List Char} :
    cut? sep cs = some (front, back) ↔ sep ∉ front ∧ cs = front ++ sep :: back := by
  induction cs generalizing front with
  | nil => simp [cut?]
  | cons c rest ih =>
    rw [cut?]
    cases front with
    | nil =>
      by_cases hc : c = sep
      · simp [hc, eq_comm]
      · simp [hc]
    | cons x front =>
      by_cases hc : c = sep
      · subst hc
        simp only [if_true, Option.some.injEq, Prod.mk.injEq, List.nil_eq, reduceCtorEq, false_and,
          List.mem_cons, not_or, List.cons_append, List.cons.injEq, false_iff]
        exact fun h => h.1.1 h.2.1
      · simp only [if_neg hc, Option.map_eq_some_iff, Prod.mk.injEq, List.cons.injEq, Prod.exists,
          List.mem_cons, not_or, List.cons_append]
        constructor
        · rintro ⟨_, _, h, ⟨rfl, rfl⟩, rfl⟩
          obtain ⟨hfront, hrest⟩ := ih.mp h
          exact ⟨⟨fun he => hc he.symm, hfront⟩, rfl, hrest⟩
        · rintro ⟨⟨-, hfront⟩, rfl, hrest⟩
          exact ⟨front, back, ih.mpr ⟨hfront, hrest⟩, ⟨rfl, rfl⟩, rfl⟩

/-! ## Headers -/

namespace Http

/-- Bytes that are legal in a header value: no control but the tab. -/
def isValueByte (b : UInt8) : Bool := (0x20 ≤ b && b != 0x7f) || b == 0x09

theorem isValueByte_of_isHeaderText {b : UInt8} (h : isHeaderText b = true) :
    isValueByte b = true := by
  simp only [isHeaderText, isValueByte, Bool.or_eq_true, Bool.and_eq_true, decide_eq_true_eq,
    bne_iff_ne] at h ⊢
  refine h.imp_left fun ⟨hlow, hhigh⟩ => ⟨hlow, ?_⟩
  rintro rfl
  exact absurd hhigh (by decide)

namespace Request

/-- A request with one more header; illegal values are refused. -/
def addHeader (r : Request) (name value : String) : Except RequestError Request :=
  if (Utf8.bytes value).all isValueByte then .ok { r with headers := r.headers ++ [(name, value)] }
  else .error .headerValue

/-- A request built part by part; the first illegal part is the error. -/
def build (method : Method) (url : Url) (headers : List (String × String)) (body : String) :
    Except RequestError Request := do
  let target ← (Target.ofUrl url).mapError .target
  headers.foldlM (fun r h => r.addHeader h.1 h.2) { method, target, headers := [], body }

theorem addHeader_of_text {value : String} (h : (Utf8.bytes value).all isHeaderText = true)
    (r : Request) (name : String) :
    r.addHeader name value = .ok { r with headers := r.headers ++ [(name, value)] } := by
  refine if_pos (List.all_eq_true.mpr fun b hb => ?_)
  exact isValueByte_of_isHeaderText (List.all_eq_true.mp h b hb)

theorem addHeaders_of_text {headers : List (String × String)}
    (h : ∀ x ∈ headers, (Utf8.bytes x.2).all isHeaderText = true) (r : Request) :
    headers.foldlM (fun r x => r.addHeader x.1 x.2) r =
      .ok { r with headers := r.headers ++ headers } := by
  induction headers generalizing r with
  | nil =>
    rw [List.append_nil]
    rfl
  | cons x headers ih =>
    have hx := addHeader_of_text (h x List.mem_cons_self) r x.1
    have hrest := ih (fun y hy => h y (List.mem_cons_of_mem x hy))
      { r with headers := r.headers ++ [x] }
    rw [List.foldlM_cons, hx]
    refine hrest.trans ?_
    rw [List.append_assoc, List.singleton_append]

/-- If all header values are legal, `build` fails for the URL only. -/
theorem build_eq {headers : List (String × String)}
    (h : ∀ x ∈ headers, (Utf8.bytes x.2).all isHeaderText = true) (method : Method) (url : Url)
    (body : String) : build method url headers body =
      ((Target.ofUrl url).mapError .target).map fun target =>
        { method, target, headers, body } := by
  unfold build
  cases Target.ofUrl url with
  | error e => rfl
  | ok target => exact addHeaders_of_text h _

end Request

end Http

/-! ## The header of credentials -/

namespace Credentials

def scheme : List Char := "Basic ".toList

/-- **The reader**: decodes the value after `Basic ` and splits it at the first colon. -/
def ofAuthorization? (header : String) : Option (String × String) :=
  if scheme.isPrefixOf header.toList then do
    let bytes ← Base64.decode (header.toList.drop scheme.length)
    let text ← Utf8.ofBytes? bytes
    let parts ← Text.cut? ':' text.toList
    return (String.ofList parts.1, String.ofList parts.2)
  else none

variable (c : Credentials)

/-- The Base64 characters of the value. -/
def authorizationCode : List Char :=
  Base64.encode (Utf8.bytes (c.username ++ ":" ++ c.password.exposed))

theorem authorization_eq :
    c.basicAuthorization.exposed = "Basic " ++ String.ofList c.authorizationCode := rfl

example : ({ username := "user", password := ⟨"pass"⟩ } : Credentials).basicAuthorization =
    ⟨"Basic dXNlcjpwYXNz"⟩ := by decide

/-- The value is legal in a header, whatever the credentials are. -/
theorem isHeaderText_authorization :
    (Utf8.bytes c.basicAuthorization.exposed).all Http.isHeaderText = true := by
  have hsymbols : ('=' :: Base64.alphabet).all
      (fun x => (String.utf8EncodeChar x).all Http.isHeaderText) = true := by decide
  have hscheme : (Utf8.ofChars "Basic ".toList).all Http.isHeaderText = true := by decide
  have hcode : (Utf8.ofChars c.authorizationCode).all Http.isHeaderText = true := by
    refine List.all_eq_true.mpr fun b hb => ?_
    obtain ⟨x, hx, hb⟩ := List.mem_flatMap.mp hb
    have hsymbol := List.all_eq_true.mp hsymbols x ((Base64.padded_encode _).mem hx)
    exact List.all_eq_true.mp hsymbol b hb
  rw [authorization_eq, ← String.ofList_toList (s := "Basic "), ← String.ofList_append,
    Utf8.bytes_ofList, Utf8.ofChars_append, List.all_append, hscheme, hcode]
  rfl

/-- The reader splits `username:password` at its first colon. -/
theorem ofAuthorization?_eq : ofAuthorization? c.basicAuthorization.exposed =
    (Text.cut? ':' (c.username.toList ++ ':' :: c.password.exposed.toList)).map
      fun parts => (String.ofList parts.1, String.ofList parts.2) := by
  have hheader : c.basicAuthorization.exposed.toList = scheme ++ c.authorizationCode := by
    rw [authorization_eq, String.toList_append, String.toList_ofList (l := c.authorizationCode)]
    rfl
  have hscheme : scheme.isPrefixOf (scheme ++ c.authorizationCode) = true :=
    List.isPrefixOf_iff_prefix.mpr (List.prefix_append ..)
  have htext : (c.username ++ ":" ++ c.password.exposed).toList =
      c.username.toList ++ ':' :: c.password.exposed.toList := by
    rw [String.toList_append, String.toList_append, List.append_assoc]
    rfl
  rw [ofAuthorization?, hheader, List.drop_left, if_pos hscheme, ← htext]
  simp only [authorizationCode, Option.bind_eq_bind, Option.bind_some,
    Base64.decode_encode, Utf8.ofBytes?_bytes]
  cases Text.cut? ':' (c.username ++ ":" ++ c.password.exposed).toList <;> rfl

/-- The reader recovers the credentials if and only if the user name has no colon. -/
theorem ofAuthorization?_iff : ofAuthorization? c.basicAuthorization.exposed =
    some (c.username, c.password.exposed) ↔ ':' ∉ c.username.toList := by
  rw [ofAuthorization?_eq, Option.map_eq_some_iff]
  constructor
  · rintro ⟨⟨front, back⟩, hcut, he⟩
    obtain ⟨hfront, -⟩ := Text.cut?_eq_some_iff.mp hcut
    rw [← (Prod.mk.inj he).1, String.toList_ofList]
    exact hfront
  · intro h
    refine ⟨_, Text.cut?_eq_some_iff.mpr ⟨h, rfl⟩, ?_⟩
    rw [String.ofList_toList, String.ofList_toList]

end Credentials

/-- `Directory.request` is `build`, with no header refused. -/
theorem Directory.request_eq_build (endpoint : Url) (c : Credentials) (method : Http.Method)
    (url : Url) (body : Option Json.Value) :
    (ofCredentials endpoint c).request method url body =
      (Http.Request.build method url
        ([("authorization", c.basicAuthorization.exposed), ("accept", mediaType)] ++
          if body.isSome then [("content-type", mediaType)] else [])
        (body.elim "" Json.Value.print)).mapError .request := by
  have hmedia : (Utf8.bytes mediaType).all Http.isHeaderText = true := by decide
  rw [Http.Request.build_eq, request]
  · cases Http.Target.ofUrl url with
    | error e => rfl
    | ok target => cases body <;> rfl
  · intro x hx
    obtain hx | hx := List.mem_append.mp hx
    · simp only [List.mem_cons, List.not_mem_nil, or_false] at hx
      rcases hx with rfl | rfl
      · exact c.isHeaderText_authorization
      · exact hmedia
    · split at hx
      · rw [List.mem_singleton] at hx
        subst hx
        exact hmedia
      · cases hx

namespace Credentials

/-- **Authorization.** For all credentials, the value is `Basic ` and padded Base64 of the UTF-8 of
`username:password`; it is legal in a header, so a request can fail for its URL only; the reader
recovers user name and password exactly if the user name has no colon; and the value is injective on
such credentials. -/
theorem authorization_read :
    (∀ c : Credentials,
      (∃ code : List Char, c.basicAuthorization.exposed = "Basic " ++ String.ofList code ∧
        Base64.Padded code ∧ Base64.decode code =
          some (Utf8.bytes (c.username ++ ":" ++ c.password.exposed))) ∧
      (Utf8.bytes c.basicAuthorization.exposed).all Http.isHeaderText = true ∧
      (∀ (r : Http.Request) (name : String), r.addHeader name c.basicAuthorization.exposed =
        .ok { r with headers := r.headers ++ [(name, c.basicAuthorization.exposed)] }) ∧
      (∀ (endpoint url : Url) (method : Http.Method) (body : Option Json.Value),
        (Directory.ofCredentials endpoint c).request method url body =
          (Http.Request.build method url
            ([("authorization", c.basicAuthorization.exposed), ("accept", Directory.mediaType)] ++
              if body.isSome then [("content-type", Directory.mediaType)] else [])
            (body.elim "" Json.Value.print)).mapError .request) ∧
      (ofAuthorization? c.basicAuthorization.exposed = some (c.username, c.password.exposed) ↔
        ':' ∉ c.username.toList)) ∧
    ∀ c c' : Credentials, ':' ∉ c.username.toList → ':' ∉ c'.username.toList →
      c.basicAuthorization = c'.basicAuthorization →
        c.username = c'.username ∧ c.password = c'.password := by
  refine ⟨fun c => ⟨⟨c.authorizationCode, c.authorization_eq, Base64.padded_encode _,
    Base64.decode_encode _⟩, c.isHeaderText_authorization, fun r name =>
      Http.Request.addHeader_of_text c.isHeaderText_authorization r name,
    fun endpoint url method body => Directory.request_eq_build endpoint c method url body,
    c.ofAuthorization?_iff⟩, fun c c' h h' he => ?_⟩
  have htold := c.ofAuthorization?_iff.mpr h
  rw [he, c'.ofAuthorization?_iff.mpr h', Option.some.injEq, Prod.mk.injEq] at htold
  exact ⟨htold.1.symm, congrArg Secret.mk htold.2.symm⟩

/-- Two credentials that differ in the place of the colon have one value, and the reader recovers
the one without a colon in its user name. -/
theorem authorization_read_sample :
    let c : Credentials := { url := "https://a.example.com", username := "u", password := ⟨"p:q"⟩ }
    let c' : Credentials := { c with url := "https://b.example.com" }
    let other : Credentials := { c with username := "u:p", password := ⟨"q"⟩ }
    ':' ∉ c.username.toList ∧ ':' ∉ c'.username.toList ∧
      c.basicAuthorization = c'.basicAuthorization ∧
      (c.username = c'.username ∧ c.password = c'.password) ∧
      c.basicAuthorization = other.basicAuthorization ∧
      ofAuthorization? other.basicAuthorization.exposed ≠ some ("u:p", "q") := by
  intro c c' other
  have h : ':' ∉ c.username.toList := by decide
  have hother : ':' ∈ other.username.toList := by decide
  obtain ⟨hread, hequal⟩ := authorization_read
  obtain ⟨-, -, -, -, htold⟩ := hread other
  exact ⟨h, h, rfl, hequal c c' h h rfl, rfl, fun he => htold.mp he hother⟩

end Credentials

end TenantApps
