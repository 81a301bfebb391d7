import ConfigCenter.Base.Interleaving
import ConfigCenter.Storage.Effects

/-!
# Concurrent store calls

Library `Storage`. Any number of clients call the store at once. The mutex makes
every call one atomic section, except `rollbackConfig`, which looks its target up
in one section and updates in a second. A call is recorded when it answers; the
recorded calls, run one after the other with every rollback in one piece, give
the same answers and the same tables.
-/

namespace ConfigCenter.Storage
open ConfigCenter.Base StorageM

/-- How far a call has come. -/
inductive CallStage where
  | pending
  /-- A rollback between its sections, with the value it read. -/
  | found (value : String)
  | answered (response : Response)
  deriving DecidableEq, Repr

/-- A call and how far it has come. -/
structure Caller where
  call : Call
  stage : CallStage
  deriving DecidableEq, Repr

/-- An answered call: who made it, at which clock reading, and the answer. -/
structure Answered where
  caller : Nat
  event : Event
  response : Response
  deriving DecidableEq, Repr

/-- The database and the calls answered so far, in the order of their last sections. -/
structure CallShared where
  db : Database
  history : List Answered
  deriving DecidableEq

namespace Caller

/-- The section after which a call has its answer. -/
def answer (ts : Timestamp) (i : Nat) (c : Caller) (s : CallShared) (r : Response × Database) :
    Caller × CallShared :=
  ({ c with stage := .answered r.1 },
    { db := r.2
      history := s.history ++ [{ caller := i, event := (ts, c.call), response := r.1 }] })

/-- The next locked section of a call. `rollbackConfig`, `sqlite_config_store.cpp:256–262`,
answers `false` after a lookup without a match and goes on to its update otherwise. -/
def act (ts : Timestamp) (i : Nat) (c : Caller) (s : CallShared) : Caller × CallShared :=
  match c.stage, c.call with
  | .pending, .rollbackConfig ns key target _ =>
    let r := SqliteConfigStore.getConfigVersion ns key target noFaults s.db
    match r.1 with
    | .ok (some v) => ({ c with stage := .found v.value }, { s with db := r.2 })
    | .ok none => c.answer ts i s (.bool false, r.2)
    | .error e => c.answer ts i s (.thrown e, r.2)
  | .pending, call => c.answer ts i s (respond s.db (ts, call))
  | .found value, .rollbackConfig ns key _ op =>
    c.answer ts i s (respond s.db (ts, .updateConfig ns key value op true))
  | _, _ => (c, s)

/-- Calls that have all yet to start. -/
def initial (db : Database) (calls : List Call) : Clients Caller CallShared where
  locals := calls.map fun call ↦ { call, stage := .pending }
  shared := { db, history := [] }

end Caller

/-- The recorded calls, each as one atomic operation, lead from `db` to `db'` and give the
recorded answers. -/
def Sequential (db : Database) (history : List Answered) (db' : Database) : Prop :=
  run (fun d x ↦ step d x.event) db history = db' ∧
    Along (fun d x ↦ step d x.event) (fun d x ↦ x.response = (respond d x.event).1) db history

/-- One more recorded call runs in the state the others lead to. -/
theorem Sequential.concat {db db' : Database} {history : List Answered}
    (h : Sequential db history db') (x : Answered) (hx : x.response = (respond db' x.event).1) :
    Sequential db (history ++ [x]) (step db' x.event) := by
  obtain ⟨hr, ha⟩ := h
  constructor
  · rw [run_concat, hr]
  · rw [along_concat, hr]
    exact ⟨ha, hx⟩

/-- A caller that has an answer is recorded once, with it; any other is not recorded. -/
def Caller.Recorded (history : List Answered) (i : Nat) (c : Caller) : Prop :=
  match c.stage with
  | .answered response =>
    ∃ ts, history.filter (fun x ↦ x.caller = i) = [⟨i, (ts, c.call), response⟩]
  | .pending | .found _ => history.filter (fun x ↦ x.caller = i) = []

namespace Caller

/-- What a caller relies on: its call is recorded once it is answered and not before, and
a version it has found stays the one to be found. -/
structure Knows (i : Nat) (c : Caller) (s : CallShared) : Prop where
  locked : c.call.isTransactional = false
  recorded : ∀ response, c.stage = .answered response →
    ∃ ts, s.history.filter (fun x ↦ x.caller = i) = [⟨i, (ts, c.call), response⟩]
  unrecorded : (∀ response, c.stage ≠ .answered response) → ∀ x ∈ s.history, x.caller ≠ i
  found : ∀ value, c.stage = .found value → ∃ ns key target op v,
    c.call = .rollbackConfig ns key target op ∧
      s.db.ledger.version? ns key target = some v ∧ v.value = value

/-- A caller that knows its answer is recorded. -/
theorem Knows.toRecorded {i : Nat} {c : Caller} {s : CallShared} (h : Knows i c s) :
    c.Recorded s.history i := by
  have hnone (hp : ∀ response, c.stage ≠ .answered response) :
      s.history.filter (fun x ↦ x.caller = i) = [] := by
    apply List.filter_eq_nil_iff.mpr
    intro x hx
    simpa using h.unrecorded hp x hx
  unfold Recorded
  cases hst : c.stage with
  | answered response => exact h.recorded response hst
  | pending => exact hnone (by simp [hst])
  | found value => exact hnone (by simp [hst])

variable {db : Database}

-- An answer that agrees with the atomic call on the database of this moment.
private theorem answer_own (ts : Timestamp) (i : Nat) (c : Caller) (s : CallShared)
    (hs : Sequential db s.history s.db) (ha : Knows i c s)
    (hp : ∀ response, c.stage ≠ .answered response) :
    let r := c.answer ts i s (respond s.db (ts, c.call))
    Sequential db r.2.history r.2.db ∧ Knows i r.1 r.2 := by
  refine ⟨hs.concat _ rfl, ha.locked, ?_, ?_, ?_⟩
  · rintro response ⟨⟩
    refine ⟨ts, ?_⟩
    simp only [answer]
    rw [List.filter_append, List.filter_eq_nil_iff.mpr]
    · simp
    · intro x hx
      simpa using ha.unrecorded hp x hx
  · intro h
    exact absurd rfl (h _)
  · rintro value ⟨⟩

-- Sections of others only ever append to the version table.
private theorem answer_other (ts : Timestamp) (i : Nat) (c : Caller) (s : CallShared) (j : Nat)
    (m : Caller) (hij : i ≠ j) (call : Call) (hc : call.isTransactional = false)
    (hm : Knows j m s) :
    Knows j m (c.answer ts i s (respond s.db (ts, call))).2 := by
  have hv := (Ledger.apply_continues s.db.ledger (call.edit s.db ts)).1
  rw [← (ledger_step s.db ts call hc).1] at hv
  refine ⟨hm.locked, ?_, ?_, ?_⟩
  · intro response hr
    obtain ⟨t, ht⟩ := hm.recorded response hr
    refine ⟨t, ?_⟩
    simp only [answer]
    rw [List.filter_append, ht]
    simp [hij]
  · intro h x hx
    rcases List.mem_append.mp hx with hx | hx
    · exact hm.unrecorded h x hx
    · rw [List.mem_singleton.mp hx]
      exact hij
  · intro value hf
    obtain ⟨ns, key, target, op, v, hcall, hver, hval⟩ := hm.found value hf
    exact ⟨ns, key, target, op, v, hcall, Ledger.version?_of_prefix hv hver, hval⟩

/-- What a section does: the atomic call at this moment, the first half of a rollback, or
nothing after the answer. -/
theorem act_cases (ts : Timestamp) {i : Nat} {c : Caller} {s : CallShared} (ha : Knows i c s) :
    ((∀ response, c.stage ≠ .answered response) ∧
      c.act ts i s = c.answer ts i s (respond s.db (ts, c.call))) ∨
    (∃ ns key target op v, c.stage = .pending ∧ c.call = .rollbackConfig ns key target op ∧
      s.db.ledger.version? ns key target = some v ∧
      c.act ts i s = ({ c with stage := .found v.value }, s)) ∨
    c.act ts i s = (c, s) := by
  obtain ⟨call, stage⟩ := c
  cases stage with
  | answered response => exact .inr (.inr (by simp only [act]))
  | found value =>
    obtain ⟨ns, key, target, op, v, hcall, hver, hval⟩ := ha.found value rfl
    cases hcall
    refine .inl ⟨by simp, ?_⟩
    simp only [act, respond_rollbackConfig, hver, hval]
  | pending =>
    cases call with
    | rollbackConfig ns key target op =>
      cases hv : s.db.ledger.version? ns key target with
      | none =>
        refine .inl ⟨by simp, ?_⟩
        simp only [act, getConfigVersion_run, respond_rollbackConfig, hv]
      | some v =>
        refine .inr (.inl ⟨ns, key, target, op, v, rfl, rfl, hv, ?_⟩)
        simp only [act, getConfigVersion_run, hv]
    | _ => exact .inl ⟨by simp, rfl⟩

private theorem act_own (ts : Timestamp) (i : Nat) (c : Caller) (s : CallShared)
    (hs : Sequential db s.history s.db) (ha : Knows i c s) :
    Sequential db (c.act ts i s).2.history (c.act ts i s).2.db ∧
      Knows i (c.act ts i s).1 (c.act ts i s).2 := by
  rcases act_cases ts ha with ⟨hp, he⟩ | ⟨ns, key, target, op, v, hp, hcall, hv, he⟩ | he
  · rw [he]
    exact answer_own ts i c s hs ha hp
  · rw [he]
    refine ⟨hs, ha.locked, ?_, ?_, ?_⟩
    · rintro _ ⟨⟩
    · intro _
      exact ha.unrecorded (by simp [hp])
    · rintro value ⟨⟩
      exact ⟨ns, key, target, op, v, hcall, hv, rfl⟩
  · rw [he]
    exact ⟨hs, ha⟩

private theorem act_other (ts : Timestamp) (i : Nat) (c : Caller) (s : CallShared) (j : Nat)
    (m : Caller) (hij : i ≠ j) (ha : Knows i c s) (hm : Knows j m s) :
    Knows j m (c.act ts i s).2 := by
  rcases act_cases ts ha with ⟨_, he⟩ | ⟨_, _, _, _, _, _, _, _, he⟩ | he
  · rw [he]
    exact answer_other ts i c s j m hij c.call ha.locked hm
  · rw [he]
    exact hm
  · rw [he]
    exact hm

private theorem coherent_initial (calls : List Call)
    (hc : ∀ c ∈ calls, c.isTransactional = false) :
    Clients.Coherent (fun s ↦ Sequential db s.history s.db) Knows (initial db calls) where
  shared := ⟨rfl, True.intro⟩
  client := by
    intro i c hi
    simp only [initial, List.getElem?_map, Option.map_eq_some_iff] at hi
    obtain ⟨call, hcall, rfl⟩ := hi
    refine ⟨hc call (List.mem_of_getElem? hcall), ?_, ?_, ?_⟩
    · rintro _ ⟨⟩
    · intro _ x hx
      cases hx
    · rintro _ ⟨⟩

end Caller

/-- Under every schedule the store's calls are linearizable: in the order of their
answering sections, with every rollback in one piece, they give the same answers and
tables, and every caller's answer is the recorded one. -/
theorem calls_linearizable (db : Database) (calls : List Call)
    (hc : ∀ c ∈ calls, c.isTransactional = false) (schedule : List (Timestamp × Nat)) :
    let final := run (Clients.step Caller.act) (Caller.initial db calls) schedule
    Sequential db final.shared.history final.shared.db ∧
      ∀ (i : Nat) (c : Caller), final.locals[i]? = some c → c.Recorded final.shared.history i := by
  intro final
  have h : Clients.Coherent (fun s ↦ Sequential db s.history s.db) Caller.Knows final :=
    Clients.run_coherent (Q := fun _ _ _ _ ↦ True) (Caller.coherent_initial calls hc)
      (along_of_forall_mem _ (fun _ _ _ _ _ ↦ True.intro) _)
      (fun ts i c s _ hs ha ↦ Caller.act_own ts i c s hs ha)
      (fun ts i c s j m hij _ _ ha hm ↦ Caller.act_other ts i c s j m hij ha hm)
  exact ⟨h.shared, fun i c hi ↦ (h.client i c hi).toRecorded⟩

/-- A rollback reads version 1, the key is deleted, created anew and updated, and the
rollback then writes the value it read. -/
theorem calls_linearizable_rollback_recreated :
    let db := run step Database.empty [("t1", .createConfig "ns" "timeout" "30" "alice")]
    let final := run (Clients.step Caller.act)
      (Caller.initial db [.rollbackConfig "ns" "timeout" 1 "alice",
        .deleteConfig "ns" "timeout" "bob" false, .createConfig "ns" "timeout" "60" "bob"])
      [("t2", 0), ("t3", 1), ("t4", 2), ("t5", 0)]
    Sequential db final.shared.history final.shared.db ∧
      ∀ (i : Nat) (c : Caller), final.locals[i]? = some c → c.Recorded final.shared.history i :=
  calls_linearizable _ _ (by decide) _

end ConfigCenter.Storage
