import TenantApps.Proofs.Requests.Confinement
import TenantApps.Proofs.Requests.Deletion
import TenantApps.Proofs.Wire.Text

/-!
# `TenantApps.Proofs.Requests.Lookup` — the names that can be looked up

An `ApplicationName` has no length limit, but `Http.Target.ofUrl` refuses a URL of more than
`Http.Target.byteLimit` bytes, and the URL of a lookup contains the form-encoded name. Apart from
the limit, whether a lookup can be built depends on the Applications URL alone.

## Contents
- `Form.length_ofChars_encode` and `Form.le_length_encode`, the length of an encoded component.
- `Client.lookupSize`, the size of the URL of a lookup, and `Client.size_lookupUrl`.
- `Http.Target.ofUrl_addPair`: a pair in the query exceeds the limit or does not matter.
- `Client.lookup_sent`, the **main result**, and `Client.long_name_refused`, a name beyond the
  limit.
-/

namespace TenantApps

open Attempt Procedure

/-! ## The length of an encoded component -/

theorem Utf8.length_bytes (s : String) : (Utf8.bytes s).length = s.utf8ByteSize :=
  String.size_toByteArray

theorem Utf8.bytes_append (s t : String) : bytes (s ++ t) = bytes s ++ bytes t := by
  unfold bytes
  rw [String.toUTF8_eq_toByteArray, String.toByteArray_append, ByteArray.data_append,
    Array.toList_append]
  rfl

namespace Form

/-- A byte is encoded by at least one character; all of them are ASCII. -/
theorem length_encodeByte (b : UInt8) :
    (Utf8.ofChars (encodeByte b)).length = (encodeByte b).length ∧
      1 ≤ (encodeByte b).length := by
  have hall : ∀ n < 256,
      (Utf8.ofChars (encodeByte (UInt8.ofNat n))).length = (encodeByte (UInt8.ofNat n)).length ∧
        1 ≤ (encodeByte (UInt8.ofNat n)).length := by
    decide +kernel
  have h := hall b.toNat b.toNat_lt
  rwa [UInt8.ofNat_toNat] at h

/-- An encoded component has as many bytes as characters. -/
theorem length_ofChars_encode (s : String) :
    (Utf8.ofChars (encode s)).length = (encode s).length := by
  unfold encode
  induction Utf8.bytes s with
  | nil => rfl
  | cons b bs ih =>
    rw [List.flatMap_cons, Utf8.ofChars_append, List.length_append, List.length_append, ih,
      (length_encodeByte b).1]

/-- Encoding does not shorten a string. -/
theorem le_length_encode (s : String) : s.utf8ByteSize ≤ (encode s).length := by
  rw [← Utf8.length_bytes]
  unfold encode
  induction Utf8.bytes s with
  | nil => exact Nat.le_refl 0
  | cons b bs ih =>
    have hlow := (length_encodeByte b).2
    rw [List.flatMap_cons, List.length_append, List.length_cons]
    omega

theorem length_ofChars_encodePair (name value : String) :
    (Utf8.ofChars (encodePair name value)).length =
      (encode name).length + 1 + (encode value).length := by
  rw [show encodePair name value = encode name ++ ['='] ++ encode value by
    rw [List.append_assoc]; rfl]
  rw [Utf8.ofChars_append, Utf8.ofChars_append, List.length_append, List.length_append,
    length_ofChars_encode, length_ofChars_encode]
  rfl

theorem encode_append (s t : String) : encode (s ++ t) = encode s ++ encode t := by
  rw [encode, Utf8.bytes_append, List.flatMap_append]
  rfl

end Form

/-! ## The URL of a lookup -/

/-- The text of a URL without query and fragment after `addPair`. -/
theorem Url.text_addPair {u : Url} (hq : u.query = none) (hf : u.fragment = none)
    (name value : String) : (u.addPair name value).text =
      u.text ++ ("?" ++ String.ofList (Form.encodePair name value)) := by
  have h : (u.addPair name value).text = u.scheme ++ ":" ++
      marked "//" (u.authority.map Authority.text) ++ u.pathGuard ++ u.path.text ++
        ("?" ++ String.ofList (Form.encodePair name value)) ++ marked "#" u.fragment := by
    simp only [addPair, hq]
    rfl
  rw [h, text, requestText, hq, hf]
  simp only [marked, String.append_empty]

namespace Client

variable (c : Client)

/-- **Size of the URL of a lookup**: the Applications URL, the 16 bytes of `?filter=name+eq+`, and
the encoded name. -/
def lookupSize (name : ApplicationName) : Nat :=
  c.settings.applications.text.utf8ByteSize + 16 + (Form.encode name.text).length

theorem le_lookupSize (name : ApplicationName) : name.text.utf8ByteSize ≤ c.lookupSize name := by
  have h := Form.le_length_encode name.text
  unfold lookupSize
  omega

variable {c} {d : Draft}

theorem size_lookupUrl (hd : d.accept = .ok c.settings) (name : ApplicationName) :
    (c.directory.lookupUrl name).text.utf8ByteSize = c.lookupSize name := by
  obtain ⟨⟨hq, hf⟩, -⟩ := Draft.accept_bare hd
  have hlabel : (Form.encode "filter").length = 6 := by decide
  have hverb : (Form.encode "name eq ").length = 8 := by decide
  have htext : (c.directory.lookupUrl name).text = _ := Url.text_addPair hq hf "filter" name.filter
  rw [htext, String.utf8ByteSize_append, String.utf8ByteSize_append,
    show ("?").utf8ByteSize = 1 from rfl, ← Utf8.length_bytes (String.ofList _),
    Utf8.bytes_ofList, Form.length_ofChars_encodePair, ApplicationName.filter, Form.encode_append,
    List.length_append, hlabel, hverb, lookupSize]
  omega

end Client

/-! ## The target of a lookup -/

/-- `takeWhile` that stops within `xs` does not depend on what follows. -/
theorem takeWhile_append_of_mem {α : Type} {p : α → Bool} {x : α} {xs : List α} (hx : x ∈ xs)
    (hp : p x = false) (ys : List α) : (xs ++ ys).takeWhile p = xs.takeWhile p := by
  rw [List.takeWhile_append, if_neg]
  intro h
  have hall : xs.takeWhile p = xs := (List.takeWhile_prefix p).eq_of_length h
  rw [← hall] at hx
  have hx' := List.all_eq_true.mp List.all_takeWhile x hx
  rw [hp] at hx'
  cases hx'

/-- `Http.Target.ofUrl` for a URL without an authority but with a slash. -/
theorem Http.Target.ofUrl_bare {u : Url} (hsize : ¬byteLimit < u.text.utf8ByteSize)
    (ha : u.authority = none) (hp : '/' ∈ u.text.toList) : ofUrl u =
      (Scan.check (u.text.toList.takeWhile fun c => !(c == '/' || c == '?' || c == '#'))).bind
        fun () => .error .format := by
  have hne : u.text.toList.takeWhile (fun c => !(c == '/' || c == '?' || c == '#')) ≠
      u.text.toList := by
    intro he
    have hfirst := List.all_eq_true.mp List.all_takeWhile '/' (he.symm ▸ hp)
    simp at hfirst
  rw [ofUrl, if_neg hsize, ha]
  simp only [if_neg hne]
  cases Scan.check (u.text.toList.takeWhile fun c => !(c == '/' || c == '?' || c == '#')) <;> rfl

/-- `addPair` does not affect `Http.Target.ofUrl`, unless the limit is exceeded. -/
theorem Http.Target.ofUrl_addPair {u : Url} (hq : u.query = none) (hf : u.fragment = none)
    (hp : '/' ∈ u.path.text.toList) (name value : String) : ofUrl (u.addPair name value) =
      if byteLimit < (u.addPair name value).text.utf8ByteSize then .error .tooLong
      else (ofUrl u).map fun t =>
        { t with query := some (String.ofList (Form.encodePair name value)) } := by
  have htext := Url.text_addPair hq hf name value
  by_cases hsize : byteLimit < (u.addPair name value).text.utf8ByteSize
  · rw [if_pos hsize, ofUrl, if_pos hsize]
  have hbase : ¬byteLimit < u.text.utf8ByteSize := by
    rw [htext, String.utf8ByteSize_append] at hsize
    omega
  rw [if_neg hsize]
  cases ha : u.authority with
  | some a =>
    -- the query is not looked at
    have hquery : (u.addPair name value).query =
        some (String.ofList (Form.encodePair name value)) := by
      simp only [Url.addPair, hq]
    rw [ofUrl, ofUrl, if_neg hsize, if_neg hbase, hquery,
      show (u.addPair name value).authority = u.authority from rfl, ha,
      show (u.addPair name value).scheme = u.scheme from rfl,
      show (u.addPair name value).path = u.path from rfl]
    by_cases hs : schemeLimit < u.scheme.length
    · simp only [if_pos hs]
      rfl
    simp only [if_neg hs]
    cases Scan.check a.text.toList with
    | error e => rfl
    | ok _ => by_cases ht : a.text = "" <;> simp only [ht, if_true, if_false] <;> rfl
  | none =>
    -- what stands before the first slash decides, and the pair stands behind it
    have hmem : '/' ∈ u.text.toList := by
      unfold Url.text Url.requestText
      simp only [String.toList_append, List.mem_append]
      exact .inl (.inl (.inr hp))
    have hmem' : '/' ∈ (u.addPair name value).text.toList := by
      rw [htext, String.toList_append]
      exact List.mem_append_left _ hmem
    rw [ofUrl_bare hsize ha hmem', ofUrl_bare hbase ha hmem, htext, String.toList_append,
      takeWhile_append_of_mem hmem (by rfl)]
    cases Scan.check (u.text.toList.takeWhile fun c => !(c == '/' || c == '?' || c == '#')) <;> rfl

/-! ## Sending the lookup -/

theorem Attempt.result_bind_error {α β : Type} {a : Attempt α} {e : Error} {os : Http.Script}
    {k : Cache} (f : α → Attempt β) (h : (replay a os k).result = .error e) :
    (replay (a >>= f : Attempt β) os k).result = .error e := by
  rw [bind_eq, replay_bind, h]
  rfl

namespace Client

variable {c : Client} {d : Draft} {name : ApplicationName} {text : String}

/-- A lookup beyond the limit fails with `tooLong`. -/
theorem request_lookup_long (hd : d.accept = .ok c.settings)
    (hsize : Http.Target.byteLimit < c.lookupSize name) :
    (RequestKind.lookup name).request c = .error (.request (.target .tooLong)) := by
  rw [← size_lookupUrl hd name] at hsize
  rw [RequestKind.request, Directory.request, Http.Target.ofUrl, if_pos hsize]

/-- A lookup within the limit can be built if and only if the Applications URL has a target. -/
theorem request_lookup_short (hd : d.accept = .ok c.settings)
    (hsize : c.lookupSize name ≤ Http.Target.byteLimit) :
    (∀ t, Http.Target.ofUrl c.settings.applications = .ok t →
      ∃ r, (RequestKind.lookup name).request c = .ok r) ∧
    ∀ e, Http.Target.ofUrl c.settings.applications = .error e →
      (RequestKind.lookup name).request c = .error (.request (.target e)) := by
  obtain ⟨⟨hq, hf⟩, -⟩ := Draft.accept_bare hd
  have hfits : ¬Http.Target.byteLimit < (c.directory.lookupUrl name).text.utf8ByteSize := by
    rw [size_lookupUrl hd]
    omega
  have htarget : Http.Target.ofUrl (c.directory.lookupUrl name) = _ :=
    (Http.Target.ofUrl_addPair hq hf (slash_mem_folder hd) "filter" name.filter).trans
      (if_neg hfits)
  rw [RequestKind.request, Directory.request, htarget]
  constructor
  · intro t ht
    rw [ht]
    exact ⟨_, rfl⟩
  · intro e he
    rw [he]
    rfl

theorem result_onName {α : Type} (hn : ApplicationName.check text = .ok name) (op : Operation)
    (f : ApplicationName → Attempt α) (os : Http.Script) (k : Cache) :
    (replay (observed op text (c.onName text f)) os k).result = (replay (f name) os k).result := by
  rw [(replay_observed op text (c.onName text f) os k).1, onName, hn]
  exact congrArg Replay.result (c.replay_serialized name (f name) os k)

/-- If the lookup can be built, it is the first request of an operation on the name. -/
theorem replay_made {call : Call} {q : Http.Request} (ht : call.text? = some text)
    (hn : ApplicationName.check text = .ok name) (hq : (RequestKind.lookup name).request c = .ok q)
    (os : Http.Script) (k : Cache) :
    ∃ rest, (replay (c.answer call) os k).requests = q :: rest := by
  obtain ⟨stage, change, rest, h, -, -⟩ := c.requests_answer ht hn os k
  rw [c.replay_clear hq, List.cons_append] at h
  exact ⟨_, h⟩

/-- If it cannot, the operation sends nothing and fails with that `ConfigError`. -/
theorem replay_unmade {call : Call} {e : ConfigError} (ht : call.text? = some text)
    (hn : ApplicationName.check text = .ok name)
    (he : (RequestKind.lookup name).request c = .error e)
    (os : Http.Script) (k : Cache) : (replay (c.answer call) os k).requests = [] ∧
      (replay (c.answer call) os k).result = .error (.config e) := by
  have hclear (stage : Stage) (change : Telemetry.Change) :=
    c.replay_clear_error he stage change os k
  constructor
  · obtain ⟨stage, change, rest, h, hstop, -⟩ := c.requests_answer ht hn os k
    rw [hclear] at h hstop
    rw [h, hstop rfl]
    rfl
  · cases call with
    | create s =>
      cases ht
      refine result_bind_error _ ((result_onName hn _ c.recreate os k).trans ?_)
      exact result_bind_error (a := c.removeExisting name) _ (congrArg Replay.result (hclear _ _))
    | delete s =>
      cases ht
      refine result_bind_error _ ((result_onName hn _ c.remove os k).trans ?_)
      exact congrArg Replay.result (hclear _ _)
    | tokenUrl | jwksUri | credentials | settings => cases ht

/-- **When a lookup is sent.** If its size is within the limit and the Applications URL has a
target, the first request of an operation on the name is the lookup, which satisfies
`RequestKind.Makes`. Otherwise nothing is sent, and the operation fails with a `config` error. -/
theorem lookup_sent (hd : d.accept = .ok c.settings) {call : Call}
    (ht : call.text? = some text) (hn : ApplicationName.check text = .ok name) (k : Cache)
    (os : Http.Script) :
    let run := Procedure.run Http.Script.exchange (c.answer call) { transport := os, cache := k }
    (c.lookupSize name ≤ Http.Target.byteLimit →
      (∀ t, Http.Target.ofUrl c.settings.applications = .ok t →
        ∃ q rest, run.2.requests = q :: rest ∧ (RequestKind.lookup name).Makes c q) ∧
      ∀ e, Http.Target.ofUrl c.settings.applications = .error e →
        run.2.requests = [] ∧ run.1 = .error (.config (.request (.target e)))) ∧
    (Http.Target.byteLimit < c.lookupSize name →
      run.2.requests = [] ∧ run.1 = .error (.config (.request (.target .tooLong)))) := by
  intro run
  obtain ⟨hresult, hsent⟩ := run_replay (c.answer call) { transport := os, cache := k }
  have unmade {e : ConfigError} (he : (RequestKind.lookup name).request c = .error e) :
      run.2.requests = [] ∧ run.1 = .error (.config e) := by
    obtain ⟨h, h'⟩ := replay_unmade ht hn he os k
    exact ⟨hsent.trans h, hresult.trans h'⟩
  refine ⟨fun hsize => ⟨fun t htarget => ?_, fun e he => ?_⟩, fun hsize => ?_⟩
  · obtain ⟨q, hq⟩ := (request_lookup_short hd hsize).1 t htarget
    obtain ⟨rest, h⟩ := replay_made ht hn hq os k
    exact ⟨q, rest, hsent.trans h, RequestKind.makes_of_request hd hq⟩
  · exact unmade ((request_lookup_short hd hsize).2 e he)
  · exact unmade (request_lookup_long hd hsize)

/-- `lookup_sent` for the name `a`. -/
theorem lookup_sent_sample :
    let name : ApplicationName := ⟨"a", by decide, by decide⟩
    let run := Procedure.run Http.Script.exchange (sample.answer (.delete "a"))
      { transport := [.answered { status := 404 }] }
    Draft.sample.accept = .ok sample.settings ∧ (Call.delete "a").text? = some "a" ∧
      ApplicationName.check "a" = .ok name ∧
      sample.lookupSize name ≤ Http.Target.byteLimit ∧
      ∃ q rest, run.2.requests = q :: rest ∧ (RequestKind.lookup name).Makes sample q := by
  intro name run
  have ht : (Call.delete "a").text? = some "a" := rfl
  have hn : ApplicationName.check "a" = .ok name := rfl
  have hsize : sample.lookupSize name ≤ Http.Target.byteLimit := by decide
  have htarget : (Http.Target.ofUrl sample.settings.applications).isOk = true := by decide
  obtain ⟨t, h⟩ := except_isOk.mp htarget
  exact ⟨Draft.accept_sample, ht, hn, hsize,
    ((lookup_sent Draft.accept_sample ht hn {} _).1 hsize).1 t h⟩

/-- A name of `n + 1` letters `a`. -/
def repeatedName (n : Nat) : ApplicationName where
  text := String.ofList (List.replicate (n + 1) 'a')
  ne_empty := by
    intro h
    have hlength := congrArg String.length h
    rw [String.length_ofList, List.length_replicate] at hlength
    cases hlength
  not_blank := by
    rw [String.toList_ofList, List.all_replicate]
    rfl

theorem size_repeatedName (n : Nat) : (repeatedName n).text.utf8ByteSize = n + 1 := by
  have hlength (m : Nat) : (Utf8.ofChars (List.replicate m 'a')).length = m := by
    induction m with
    | zero => rfl
    | succ m ih =>
      rw [List.replicate_succ, Utf8.ofChars_cons, List.length_append, ih]
      exact Nat.add_comm 1 m
  rw [← Utf8.length_bytes, repeatedName, Utf8.bytes_ofList, hlength]

/-- **Some valid names cannot be looked up.** -/
theorem long_name_refused : ¬∀ (c : Client) (d : Draft) (call : Call) (text : String)
    (name : ApplicationName) (k : Cache) (os : Http.Script), d.accept = .ok c.settings →
      call.text? = some text → ApplicationName.check text = .ok name →
        ∃ q ∈ (Procedure.run Http.Script.exchange (c.answer call)
          { transport := os, cache := k }).2.requests, (RequestKind.lookup name).Makes c q := by
  intro hall
  let name := repeatedName 65535
  have hn : ApplicationName.check name.text = .ok name := ApplicationName.check_text name
  have hsize : Http.Target.byteLimit < sample.lookupSize name := by
    have h := sample.le_lookupSize name
    rw [size_repeatedName] at h
    exact Nat.lt_of_lt_of_le (by decide) h
  have ht : (Call.delete name.text).text? = some name.text := rfl
  obtain ⟨hsent, -⟩ := replay_unmade ht hn (request_lookup_long Draft.accept_sample hsize) [] {}
  obtain ⟨q, hq, -⟩ := hall sample .sample (.delete name.text) _ name {} []
    Draft.accept_sample ht hn
  rw [(run_replay _ _).2, hsent] at hq
  cases hq

end Client

end TenantApps
