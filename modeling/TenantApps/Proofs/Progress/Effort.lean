import TenantApps.Proofs.Tenant.Operations

/-!
# `TenantApps.Proofs.Progress.Effort` — lock order and request budgets

Every call has a bound on its requests that is known at its start. It acquires locks in ascending
`Lock.rank`, each at most once, and holds none at its end.

## Contents
- `Lock.rank`, the lock order.
- `Effort`, the remaining resources of a procedure, and the discipline `metered`.
- `Attempt.Spends`, a resource bound for attempts with one law for each combinator.
- `Call.budget` and `Client.answer_metered`, **every call follows the discipline**.
-/

namespace TenantApps

open Attempt Procedure

/-- **Lock order**: name guards, then the token endpoint, then the keys. -/
def Lock.rank : Lock → Nat
  | name _ => 0
  | endpoint .token => 1
  | endpoint .keys => 2

theorem Lock.rank_lt (l : Lock) : l.rank < 3 := by
  rcases l with n | e
  · exact Nat.zero_lt_succ 2
  · cases e <;> decide

/-- **`Effort`**: the remaining resources of a procedure. -/
structure Effort where
  /-- The least `Lock.rank` that may still be acquired. -/
  level : Nat
  /-- The held locks, the last one first. -/
  holding : List Lock
  /-- The number of requests that may still be sent. -/
  left : Nat

/-- **Discipline `metered`**: `sends` decrements `left`, and `acquires` raises `level` above the
rank of the lock. -/
def metered : Discipline Effort where
  allows
    | .sends _ _, e => 0 < e.left
    | .acquires l, e => e.level ≤ l.rank
    | _, _ => True
  after
    | .sends _ _, e, e' => e' = { e with left := e.left - 1 }
    | .acquires l, e, e' => e' = { e with level := l.rank + 1, holding := l :: e.holding }
    | .releases l, e, e' => e' = { e with holding := e.holding.erase l }
    | _, e, e' => e' = e

/-! ## Resource bounds of attempts -/

namespace Attempt

variable {α β : Type} {n m lo mid hi : Nat} {a : Attempt α} {f : α → Attempt β}

/-- **`Spends n lo hi a`**: `a` sends at most `n` requests, acquires ranks in `[lo, hi)` only, and
ends with the locks that it started with. -/
def Spends (n lo hi : Nat) (a : Attempt α) : Prop :=
  ∀ e : Effort, n ≤ e.left → e.level ≤ lo → Follows metered
    (fun _ e' => e'.holding = e.holding ∧ e.left ≤ e'.left + n ∧ e'.level ≤ hi) a e

theorem Spends.of_verdict? {x : Except Error α} (h : verdict? a = some x) : Spends 0 lo lo a :=
  fun _ _ hl => Follows.of_verdict? h ⟨rfl, Nat.le_refl _, hl⟩

theorem Spends.mono {n' lo' hi' : Nat} (h : Spends n lo hi a) (hn : n ≤ n') (hlo : lo' ≤ lo)
    (hhi : hi ≤ hi') : Spends n' lo' hi' a := by
  intro e hleft hlevel
  apply (h e (Nat.le_trans hn hleft) (Nat.le_trans hlevel hlo)).mono
  rintro _ e' ⟨hh, hl, hlev⟩
  exact ⟨hh, by omega, Nat.le_trans hlev hhi⟩

/-- Sequencing rule: requests add up, and the rank intervals are consecutive. -/
theorem Spends.bind (ha : Spends n lo mid a) (hf : ∀ x, Spends m mid hi (f x)) (hm : mid ≤ hi) :
    Spends (n + m) lo hi (a >>= f : Attempt β) := by
  intro e hleft hlevel
  apply follows_bind (ha e (by omega) hlevel)
  · rintro x e' ⟨hh, hl, hlev⟩
    apply (hf x e' (by omega) hlev).mono
    rintro _ e'' ⟨hh', hl', hlev'⟩
    exact ⟨hh'.trans hh, by omega, hlev'⟩
  · rintro _ e' ⟨hh, hl, hlev⟩
    exact ⟨hh, by omega, Nat.le_trans hlev hm⟩

theorem Spends.map (f : α → β) (ha : Spends n lo hi a) : Spends n lo hi (f <$> a) :=
  fun e hleft hlevel => follows_map (ha e hleft hlevel) (fun _ _ h => h) fun _ _ h => h

/-- `Attempt.ask` spends one request and no rank. -/
theorem Spends.ask {stage : Stage} {request : Except ConfigError Http.Request}
    {read : Http.Response → Attempt α} {verdict : Http.Response → Except Error α}
    (h : ∀ r, verdict? (read r) = some (verdict r)) :
    Spends 1 lo lo (.ask stage request read) := by
  intro e hleft hlevel
  refine follows_ask (fun _ _ => ⟨rfl, Nat.le_add_right _ _, hlevel⟩) (fun _ _ => hleft) ?_
  intro r _ e' he o e'' he'
  obtain rfl : e' = { e with left := e.left - 1 } := he
  obtain rfl : e'' = { e with left := e.left - 1 } := he'
  have hend : e.left ≤ e.left - 1 + 1 := by omega
  cases o with
  | answered response => exact Follows.of_verdict? (h response) ⟨rfl, hend, hlevel⟩
  | failed x | refused x => exact ⟨rfl, hend, hlevel⟩

/-- The body under a lock acquires higher ranks only. -/
theorem Spends.locked (l : Lock) (ha : Spends n (l.rank + 1) hi a) :
    Spends n l.rank hi (.locked l a) := by
  intro e hleft hlevel
  apply Follows.locked hlevel
  intro e' he
  obtain rfl : e' = { e with level := l.rank + 1, holding := l :: e.holding } := he
  apply (ha ⟨l.rank + 1, l :: e.holding, e.left⟩ hleft (Nat.le_refl _)).mono
  rintro _ e'' ⟨hh, hl, hlev⟩
  refine ⟨trivial, ?_⟩
  intro e''' he
  obtain rfl : e''' = { e'' with holding := e''.holding.erase l } := he
  have herase : e''.holding.erase l = e.holding := by rw [hh, List.erase_cons_head]
  exact ⟨herase, hl, hlev⟩

end Attempt

/-! ## The parts of an operation -/

/-- `Discovery.address e` spends one request and the rank of `e`. -/
theorem Discovery.spends_address (d : Discovery) (e : Endpoint) :
    Spends 1 (Lock.endpoint e).rank ((Lock.endpoint e).rank + 1) (d.address e) := by
  have hlookup (level : Nat) : Spends 1 level level (d.lookup e) := by
    intro effort hleft hlevel known
    refine ⟨trivial, ?_⟩
    rintro _ rfl
    cases known with
    | some a => exact ⟨rfl, Nat.le_add_right _ _, hlevel⟩
    | none =>
      -- the document is asked for, and the address is kept if it tells one
      have hask : Spends 1 level level (d.document (stage e)) :=
        Spends.ask (verdict?_readDocument _)
      refine hask.bind (m := 0) (fun doc effort hleft hlevel => ?_) (Nat.le_refl _) _ hleft hlevel
      show Follows _ _ (keep e (e.pick doc)) _
      cases e.pick doc with
      | none => exact ⟨rfl, Nat.le_refl _, hlevel⟩
      | some a =>
        refine ⟨trivial, ?_⟩
        rintro _ rfl
        exact ⟨rfl, Nat.le_refl _, hlevel⟩
  refine (Spends.locked _ (hlookup _)).bind (m := 0) (fun a => ?_) (Nat.le_refl _)
  cases a <;> exact Spends.of_verdict? rfl

namespace Client

variable (c : Client)

/-- `Client.clear` spends two requests. -/
theorem spends_clear (stage : Stage) (change : Telemetry.Change) (name : ApplicationName)
    {level : Nat} : Spends 2 level level (c.clear stage change name) := by
  have hfind : Spends 1 level level (c.directory.find name) :=
    Spends.ask (Directory.verdict?_readLookup name)
  have hdelete (id : Uuid) : Spends 1 level level (c.directory.delete id stage) :=
    Spends.ask (Directory.verdict?_readDeletion stage)
  refine hfind.bind (m := 1) (fun found => ?_) (Nat.le_refl _)
  cases found with
  | none =>
    exact (Spends.of_verdict? (x := .ok ()) rfl).mono (Nat.zero_le _) (Nat.le_refl _)
      (Nat.le_refl _)
  | some existing =>
    refine (hdelete existing.id).bind (m := 0) (fun deletion => ?_) (Nat.le_refl _)
    cases deletion <;> exact Spends.of_verdict? rfl

theorem spends_complete (name : ApplicationName) (id : Uuid) (secret : Secret)
    (clientId : String) : Spends 2 1 3 (c.complete name id secret clientId) := by
  refine (c.discovery.spends_address .token).bind (m := 1) (fun tokenUrl => ?_) (by decide)
  refine (c.discovery.spends_address .keys).bind (m := 0) (fun jwksUri => ?_) (Nat.le_refl _)
  exact Spends.of_verdict? rfl

/-- `Client.equip` spends four requests and the ranks of both endpoints. -/
theorem spends_equip (name : ApplicationName) (id : Uuid) :
    Spends 4 1 3 (c.equip name id) := by
  have hlog : Spends 0 1 1 (.logChange .created name id) := Spends.of_verdict? (x := .ok ()) rfl
  have hsecret : Spends 1 1 1 (c.directory.createSecret id c.settings.description) :=
    Spends.ask Directory.verdict?_readSecret
  have hfetch : Spends 1 1 1 (c.directory.fetch id) := Spends.ask Directory.verdict?_readRecord
  refine hlog.bind (m := 4) (fun _ => ?_) (by decide)
  refine hsecret.bind (m := 3) (fun secret => ?_) (by decide)
  refine hfetch.bind (m := 2) (fun record => ?_) (by decide)
  have hid : Spends 0 1 1 (.require .retrieveClientId "clientId" record.clientId) := by
    cases record.clientId <;> exact Spends.of_verdict? rfl
  exact hid.bind (fun clientId => c.spends_complete name id secret clientId) (by decide)

theorem spends_recreate (name : ApplicationName) : Spends 7 1 3 (c.recreate name) := by
  have hcreate : Spends 1 1 1 (c.directory.create name) :=
    Spends.ask Directory.verdict?_readCreation
  rw [recreate_eq, removeExisting_eq]
  refine (c.spends_clear _ _ name).bind (m := 5) (fun _ => ?_) (by decide)
  exact hcreate.bind (fun id => c.spends_equip name id) (by decide)

/-- `Client.onName` acquires rank 0 in front of its body. -/
theorem spends_onName {α : Type} {n : Nat} {f : ApplicationName → Attempt α} (text : String)
    (hf : ∀ name, Spends n 1 3 (f name)) : Spends n 0 3 (c.onName text f) := by
  refine c.onName_cases (P := Spends n 0 3) text (fun e _ => ?_) (fun name _ => ?_) fun name _ => ?_
  · exact (Spends.of_verdict? (x := .error (.config (.name e))) rfl).mono (Nat.zero_le _)
      (Nat.le_refl _) (Nat.zero_le _)
  · exact Spends.locked (.name name) (hf name)
  · exact (hf name).mono (Nat.le_refl _) (Nat.zero_le _) (Nat.le_refl _)

end Client

/-! ## Calls -/

/-- The bound on the requests of a call. -/
def Call.budget : Call → Nat
  | create _ => 7
  | delete _ => 2
  | tokenUrl | jwksUri => 1
  | credentials | settings => 0

/-- **Every call follows `metered`**, within its `budget`, and holds no lock at its end. -/
theorem Client.answer_metered (c : Client) (call : Call) :
    Follows metered (fun _ e => e.holding = []) (c.answer call) ⟨0, [], call.budget⟩ := by
  have spends : Spends call.budget 0 3 (c.answer call) := by
    cases call with
    | create text =>
      have h := c.spends_onName text c.spends_recreate
      exact Spends.map Answer.created fun e hleft hlevel =>
        follows_observed .createApplication text (h e hleft hlevel)
    | delete text =>
      have hremove (name : ApplicationName) : Spends 2 3 3 (c.remove name) :=
        c.spends_clear .deleteApplication .deleted name
      have h := c.spends_onName text fun name =>
        (hremove name).mono (Nat.le_refl _) (by decide) (Nat.le_refl _)
      exact Spends.map (fun () => Answer.deleted) fun e hleft hlevel =>
        follows_observed .deleteApplication text (h e hleft hlevel)
    | tokenUrl =>
      exact ((c.discovery.spends_address .token).map Answer.address).mono (Nat.le_refl _)
        (by decide) (by decide)
    | jwksUri =>
      exact ((c.discovery.spends_address .keys).map Answer.address).mono (Nat.le_refl _)
        (by decide) (by decide)
    | credentials =>
      exact (Spends.of_verdict? (x := .ok (.credentials _)) rfl).mono (Nat.le_refl _)
        (Nat.le_refl _) (Nat.zero_le _)
    | settings =>
      exact (Spends.of_verdict? (x := .ok (.settings _)) rfl).mono (Nat.le_refl _)
        (Nat.le_refl _) (Nat.zero_le _)
  exact (spends ⟨0, [], call.budget⟩ (Nat.le_refl _) (Nat.le_refl _)).mono fun _ _ h => h.1

end TenantApps
