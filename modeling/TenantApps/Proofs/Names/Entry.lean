import TenantApps.Proofs.Failures.Stageless
import TenantApps.Proofs.Wire.Phrase

/-!
# `TenantApps.Proofs.Names.Entry` — the constructors of `ApplicationName`

The filter `name eq n` has no quotes, and its reader splits it at blanks. A string is accepted as a
name exactly if it is one word of its filter. The checks `check`, `parse`, `ofString` and `decoder`
agree on this and on the error; a call with any other string is rejected before it sends anything.

## Contents
- `Text.words`, the words of a string, with `Text.words_cons` and `Text.words_eq_singleton`.
- `Json.Spells`, the JSON texts of a string, and `Json.Spells.decodeWhole`.
- `ApplicationName.check_cases` and `ApplicationName.ofString_eq_check`, the agreement of the
  checks.
- `Client.Rejects`, calls that fail before any request, with `Trail.of_verdict?` and
  `Client.rejects_of_verdict?`.
- `ApplicationName.entries_agree`, the **main result**.
-/

namespace TenantApps

/-! ## Words -/

namespace Text

/-- The maximal non-empty runs of non-blank characters of a string. -/
def words (s : String) : List String :=
  ((s.toList.splitOnP isBlank).filter (· ≠ [])).map String.ofList

/-- The pieces of `List.splitOnP isBlank` have no blank. -/
theorem not_blank_of_mem_splitOnP {cs w : List Char} (hw : w ∈ cs.splitOnP isBlank) :
    ∀ c ∈ w, isBlank c = false := by
  induction cs generalizing w with
  | nil =>
    rw [List.splitOnP_nil, List.mem_singleton] at hw
    rw [hw]
    exact List.forall_mem_nil _
  | cons x cs ih =>
    rw [List.splitOnP_cons_eq_if_modifyHead] at hw
    split at hw
    · rcases List.mem_cons.mp hw with rfl | hw
      · exact List.forall_mem_nil _
      · exact ih hw
    · next hx =>
      obtain ⟨first, more, hsplit⟩ := List.exists_cons_of_ne_nil (List.splitOnP_ne_nil isBlank cs)
      rw [hsplit] at hw ih
      rcases List.mem_cons.mp hw with rfl | hw
      · exact List.forall_mem_cons.mpr ⟨Bool.eq_false_iff.mpr hx, ih List.mem_cons_self⟩
      · exact ih (List.mem_cons_of_mem _ hw)

theorem mem_words {s w : String} (h : w ∈ words s) :
    w ≠ "" ∧ w.toList.all (!isBlank ·) = true := by
  obtain ⟨cs, hcs, rfl⟩ := List.mem_map.mp h
  obtain ⟨hsplit, hne⟩ := List.mem_filter.mp hcs
  rw [String.toList_ofList, List.all_eq_true]
  refine ⟨fun he => of_decide_eq_true hne ?_, fun c hc => ?_⟩
  · rw [← String.toList_ofList (l := cs), he]
    rfl
  · rw [not_blank_of_mem_splitOnP hsplit c hc]
    rfl

/-- `words` of a word, a blank and a rest. -/
theorem words_cons {s w rest : String} {b : Char} (h : s.toList = w.toList ++ b :: rest.toList)
    (hne : w ≠ "") (hw : w.toList.all (!isBlank ·) = true) (hb : isBlank b = true) :
    words s = w :: words rest := by
  have hfree : ∀ c ∈ w.toList, isBlank c = false := by simpa using hw
  have hne' : w.toList ≠ [] := mt String.toList_eq_nil_iff.mp hne
  rw [words, h, List.splitOnP_append_cons_of_forall_mem hfree b hb, List.filter_cons,
    if_pos (decide_eq_true hne'), List.map_cons, String.ofList_toList]
  rfl

/-- A string is its own only word if and only if it is non-empty and has no blank. -/
theorem words_eq_singleton {s : String} :
    words s = [s] ↔ s ≠ "" ∧ s.toList.all (!isBlank ·) = true := by
  refine ⟨fun h => mem_words (h ▸ List.mem_singleton_self s), fun ⟨hne, hs⟩ => ?_⟩
  have hfree : ∀ c ∈ s.toList, isBlank c = false := by simpa using hs
  have hne' : s.toList ≠ [] := mt String.toList_eq_nil_iff.mp hne
  rw [words, List.splitOnP_eq_singleton hfree, List.filter_cons, if_pos (decide_eq_true hne'),
    List.filter_nil, List.map_singleton, String.ofList_toList]

example : words " a b " = ["a", "b"] := by decide

end Text

/-! ## JSON texts of a string -/

namespace Json

/-- `Spells input s`: `input` is a JSON string that decodes to `s`, in any spelling, with any
whitespace around it. -/
def Spells (input : List UInt8) (s : String) : Prop :=
  ∃ (before after : Gap) (q : Spelling), q.text = .ok s ∧
    input = before.bytes ++ (q.bytes ++ after.bytes)

/-- `Value.print` is one of the spellings. -/
theorem spells_print (s : String) : Spells (Utf8.bytes (Value.text s).print) s := by
  obtain ⟨q, htext, hbytes⟩ := Spelling.exists_quote s
  refine ⟨.empty, .empty, q, htext, ?_⟩
  rw [Value.print, Utf8.bytes_ofList, Value.chars, ← hbytes]
  exact (List.append_nil _).symm

/-- Every spelling is decoded as the string. -/
theorem Spells.decodeWhole {α : Type} {input : List UInt8} {s : String} (h : Spells input s)
    (d : Decoder α) : decodeWhole d input = d (.text (.ok s)) := by
  obtain ⟨before, after, q, htext, rfl⟩ := h
  exact ((Phrase.text q).decodeWhole_bytes d before after).trans (by rw [Phrase.node, htext])

end Json

/-! ## Calls that are rejected -/

/-- The run of a procedure that has only `emit` nodes sends nothing and keeps the cache. -/
theorem Procedure.run_of_verdict? {T α : Type} {p : Procedure α} {a : α} (hp : p.verdict? = some a)
    (exchange : T → Http.Request → Http.Outcome × T) (s : Session T) :
    (p.run exchange s).1 = a ∧ (p.run exchange s).2.requests = s.requests ∧
      (p.run exchange s).2.transport = s.transport := by
  induction p generalizing s with
  | done b =>
    cases hp
    exact ⟨rfl, rfl, rfl⟩
  | emit x next ih => exact ih hp { s with signals := s.signals ++ [x] }
  | send stage r next | acquire l next | release l next | consult e next
  | remember e b next => cases hp

/-- The turn of a task that has only `emit` nodes finishes it. -/
theorem Machine.status?_run_of_verdict? {α : Type} {p : Procedure α} {a : α}
    (hp : p.verdict? = some a) {i : TaskId} {m : Machine α} (hi : i < m.tasks.length) :
    (Machine.run i p m).status? i = some .finished := by
  have hset (m : Machine α) (hi : i < m.tasks.length) (st : Status α) (x : Entry α) :
      ((m.setStatus i st).note x).status? i = some st := by
    simp [status?, note, setStatus, modify, List.getElem?_eq_getElem hi]
  induction p generalizing m with
  | done b => exact hset m hi _ _
  | emit x next ih =>
    refine ih hp ?_
    show i < (m.tasks.modify i _).length
    rwa [List.length_modify]
  | send stage r next | acquire l next | release l next | consult e next
  | remember e b next => cases hp

/-- Invariant of a task that has only `emit` nodes: it never waits, and its entries are signals and
its one end. -/
theorem Trail.of_verdict? {α : Type} {i : TaskId} {p : Procedure α} {a : α} {xs : List (Entry α)}
    {t : Task α} (h : Trail i p xs t) (hp : p.verdict? = some a) :
    (∀ x ∈ xs, (∃ y, x = .signalled i y) ∨ x = .ended i a) ∧
      ((∃ q, t.status = .ready q ∧ q.verdict? = some a) ∨
        t.status = .finished ∧ .ended i a ∈ xs ∨ t.status = .dropped) := by
  induction h with
  | start => exact ⟨List.forall_mem_nil _, .inl ⟨p, rfl, hp⟩⟩
  | act h ha ih =>
    obtain ⟨hxs, ⟨q, ⟨⟩, hq⟩ | ⟨⟨⟩, -⟩ | ⟨⟨⟩⟩⟩ := ih
    cases ha with
    | done b =>
      cases hq
      exact ⟨List.forall_mem_append.mpr ⟨hxs, List.forall_mem_singleton.mpr (.inr rfl)⟩,
        .inr (.inl ⟨rfl, List.mem_append_right _ (List.mem_singleton_self _)⟩)⟩
    | emit x next =>
      exact ⟨List.forall_mem_append.mpr ⟨hxs, List.forall_mem_singleton.mpr (.inl ⟨x, rfl⟩)⟩,
        .inl ⟨next, rfl, hq⟩⟩
    | send stage r next | take l k next | wait l k next | release l next | consult e next
    | remember e x next => cases hq
  | answer o h ih => obtain ⟨-, ⟨q, ⟨⟩, -⟩ | ⟨⟨⟩, -⟩ | ⟨⟨⟩⟩⟩ := ih
  | grant h hw ih =>
    obtain ⟨next, he⟩ := Task.eq_of_awaited? hw
    rw [he] at ih
    obtain ⟨-, ⟨q, ⟨⟩, -⟩ | ⟨⟨⟩, -⟩ | ⟨⟨⟩⟩⟩ := ih
  | drop h ho ih => exact ⟨ih.1, .inr (.inr rfl)⟩

/-- **`Rejects c call e`**: `call` fails with `e` before it sends anything, alone and in every
course. -/
structure Client.Rejects (c : Client) (call : Call) (e : Error) : Prop where
  /-- In a `Procedure.run` with any transport. -/
  alone : ∀ {T : Type} (exchange : T → Http.Request → Http.Outcome × T) (s : Session T),
    (Procedure.run exchange (c.answer call) s).1 = .error e ∧
      (Procedure.run exchange (c.answer call) s).2.requests = s.requests ∧
        (Procedure.run exchange (c.answer call) s).2.transport = s.transport
  silent : ∀ {s : Course} {i : TaskId}, Course.Reachable c s → s.calls[i]? = some call →
    ∀ q, (i, q) ∉ s.machine.report.requests
  result : ∀ {s : Course} {i : TaskId}, Course.Reachable c s → s.calls[i]? = some call →
    ∀ r, (i, r) ∈ s.machine.report.results → r = .error e
  /-- A rejected task never waits: its next turn ends it, unless it is dropped. -/
  ends : ∀ {s : Course} {i : TaskId}, Course.Reachable c s → s.calls[i]? = some call →
    (∃ p, s.machine.status? i = some (.ready p) ∧
      (i, .error e) ∈ (s.machine.run i p).report.results) ∨
    (i, .error e) ∈ s.machine.report.results ∨ s.machine.status? i = some .dropped

namespace Course

variable {c : Client} {s : Course} {i : TaskId} {call : Call} {a : Except Error Answer}

/-- Over courses: the invariant of a task that has only `emit` nodes. -/
theorem Reachable.of_verdict? (h : Reachable c s) (hi : s.calls[i]? = some call)
    (hv : Procedure.verdict? (c.answer call) = some a) :
    (∀ x ∈ s.machine.report.entries, x.task = i → (∃ y, x = .signalled i y) ∨ x = .ended i a) ∧
      ((∃ q, s.machine.status? i = some (.ready q) ∧ q.verdict? = some a) ∨
        s.machine.status? i = some .finished ∧ (i, a) ∈ s.machine.report.results ∨
          s.machine.status? i = some .dropped) := by
  have hlt : i < s.machine.tasks.length :=
    h.consistent.2 ▸ (List.getElem?_eq_some_iff.mp hi).1
  have ht := List.getElem?_eq_getElem hlt
  have htrail := h.trails.tasks ht
  rw [procedure_eq hi] at htrail
  obtain ⟨hxs, hst⟩ := htrail.of_verdict? hv
  refine ⟨fun x hx hxi => hxs x (List.mem_filter.mpr ⟨hx, by simpa using hxi⟩), ?_⟩
  rw [Machine.status?, ht, Option.map_some]
  refine hst.imp ?_ (Or.imp ?_ ?_)
  · rintro ⟨q, hq, hv⟩
    exact ⟨q, by rw [hq], hv⟩
  · rintro ⟨hf, hm⟩
    exact ⟨by rw [hf], Report.mem_results.mpr (List.mem_filter.mp hm).1⟩
  · intro hd
    rw [hd]

end Course

/-- A call whose procedure has only `emit` nodes and fails is rejected. -/
theorem Client.rejects_of_verdict? {c : Client} {call : Call} {e : Error}
    (hv : Procedure.verdict? (c.answer call) = some (.error e)) : c.Rejects call e where
  alone := Procedure.run_of_verdict? hv
  silent h hi q hq := by
    obtain ⟨stage, hx⟩ := Report.mem_requests.mp hq
    rcases (h.of_verdict? hi hv).1 _ hx rfl with ⟨y, he⟩ | he <;> cases he
  result h hi r hr := by
    rcases (h.of_verdict? hi hv).1 _ (Report.mem_results.mp hr) rfl with ⟨y, he⟩ | he
    · cases he
    · cases he
      rfl
  ends {s i} h hi := by
    refine (h.of_verdict? hi hv).2.imp ?_ (Or.imp_left And.right)
    rintro ⟨p, hp, hpv⟩
    refine ⟨p, hp, ?_⟩
    have hlt : i < s.machine.tasks.length :=
      h.consistent.2 ▸ (List.getElem?_eq_some_iff.mp hi).1
    -- after its turn it has come to its end, so it has done so with its only result
    have hturn : Course.Reachable c ⟨s.calls, s.machine.run i p⟩ := h.tail (.turn hp)
    obtain ⟨q, hq, -⟩ | ⟨-, hr⟩ | hd := (hturn.of_verdict? hi hv).2
    · cases (Machine.status?_run_of_verdict? hpv hlt).symm.trans hq
    · exact hr
    · cases (Machine.status?_run_of_verdict? hpv hlt).symm.trans hd

/-! ## The checks -/

namespace ApplicationName

variable {s : String}

/-- `ofString` finds the error that `check` finds. -/
theorem ofString_eq_check (s : String) : ofString s = check s := by
  unfold ofString
  split
  · next e he =>
    unfold fault? at he
    unfold check
    by_cases hs : s = ""
    · rw [if_pos hs] at he
      cases he
      rw [dif_pos hs]
    · rw [if_neg hs] at he
      split at he
      · next hb =>
        cases he
        rw [dif_neg hs, dif_neg (by simpa using hb)]
      · cases he
  · next hn =>
    obtain ⟨hs, hb⟩ := fault?_eq_none.mp hn
    rw [check, dif_neg hs, dif_pos hb]

/-- `check s` is the name with the text `s`, or an error. -/
theorem check_cases (s : String) :
    (∃ n, n.text = s ∧ check s = .ok n) ∨ ∃ e, check s = .error e := by
  cases h : check s with
  | ok n => exact .inl ⟨n, text_of_check h, rfl⟩
  | error e => exact .inr ⟨e, rfl⟩

theorem exists_check_eq_ok :
    (∃ n, check s = .ok n) ↔ s ≠ "" ∧ s.toList.all (!isBlank ·) = true := by
  constructor
  · rintro ⟨n, hn⟩
    rw [← text_of_check hn]
    exact ⟨n.ne_empty, n.not_blank⟩
  · rintro ⟨hs, hb⟩
    exact ⟨⟨s, hs, hb⟩, check_text ⟨s, hs, hb⟩⟩

/-- The words of a filter are `name`, `eq` and the words of its text. -/
theorem words_filter (s : String) :
    Text.words ("name eq " ++ s) = "name" :: "eq" :: Text.words s := by
  have hname : ("name eq " ++ s).toList = "name".toList ++ ' ' :: ("eq " ++ s).toList := by
    rw [String.toList_append, String.toList_append]
    rfl
  have heq : ("eq " ++ s).toList = "eq".toList ++ ' ' :: s.toList := by
    rw [String.toList_append]
    rfl
  rw [Text.words_cons hname (by decide) (by decide) rfl,
    Text.words_cons heq (by decide) (by decide) rfl]

/-- `ApplicationName.decoder` runs `check`. -/
theorem decoder_text (s : String) : decoder (.text (.ok s)) =
    (check s).mapError fun e => .here (.refused e.message) := by
  simp only [decoder, Json.Decoder.refine, Json.Decoder.text, Json.Decoder.textAs]
  cases check s <;> rfl

/-- **The checks agree.** For every string `s`, either `check`, `parse`, `ofString` and the decoder
on every JSON spelling of `s` all return the name with the text `s`, or all fail with the same
`NameError`, and every creation or deletion with the text `s` is rejected. They succeed if and only
if `s` is one word of the filter `name eq s`. -/
theorem entries_agree (s : String) :
    ((∃ n : ApplicationName, n.text = s ∧ check s = .ok n ∧ parse s = .ok n ∧ ofString s = .ok n ∧
        ∀ input, Json.Spells input s → Json.decodeWhole decoder input = .ok n) ∨
      ∃ e : NameError, check s = .error e ∧ parse s = .error e ∧ ofString s = .error e ∧
        ∀ input, Json.Spells input s →
          Json.decodeWhole decoder input = .error (.here (.refused e.message))) ∧
    Json.Spells (Utf8.bytes (Json.Value.text s).print) s ∧
    ((∃ n, check s = .ok n) ↔ Text.words ("name eq " ++ s) = ["name", "eq", s]) ∧
    ∀ e, check s = .error e → ∀ (c : Client) (call : Call),
      call = .create s ∨ call = .delete s → c.Rejects call (.config (.name e)) := by
  refine ⟨?_, Json.spells_print s, ?_, ?_⟩
  · obtain ⟨n, hn, hs⟩ | ⟨e, he⟩ := check_cases s
    · refine .inl ⟨n, hn, hs, hs, (ofString_eq_check s).trans hs, fun input h => ?_⟩
      rw [h.decodeWhole, decoder_text, hs]
      rfl
    · refine .inr ⟨e, he, he, (ofString_eq_check s).trans he, fun input h => ?_⟩
      rw [h.decodeWhole, decoder_text, he]
      rfl
  · rw [exists_check_eq_ok, words_filter, List.cons_inj_right, List.cons_inj_right,
      Text.words_eq_singleton]
  · rintro e he c call (rfl | rfl)
    · exact Client.rejects_of_verdict? (c.verdict?_answer_unnamed rfl he)
    · exact Client.rejects_of_verdict? (c.verdict?_answer_unnamed rfl he)

/-- `entries_agree` on a text with an em space, which is a blank outside of ASCII. -/
theorem entries_agree_sample : check "a\u2003b" = .error .blank ∧
    Text.words "name eq a\u2003b" ≠ ["name", "eq", "a\u2003b"] ∧
      ∀ c : Client, c.Rejects (.delete "a\u2003b") (.config (.name .blank)) := by
  have hcheck : check "a\u2003b" = .error .blank := rfl
  obtain ⟨-, -, hwords, hcalls⟩ := entries_agree "a\u2003b"
  refine ⟨hcheck, fun h => ?_, fun c => hcalls .blank hcheck c _ (.inr rfl)⟩
  obtain ⟨n, hn⟩ := hwords.mpr h
  cases hcheck.symm.trans hn

end ApplicationName

end TenantApps
