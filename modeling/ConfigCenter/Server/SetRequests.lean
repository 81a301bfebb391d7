import ConfigCenter.Base.Interleaving
import ConfigCenter.Server.HttpSession
import ConfigCenter.Server.GrpcService

/-!
# Concurrent set requests

Library `Server`. Set requests of all three kinds on one key, each a locked read
followed by a locked write, under any schedule. The read hides drafts and its
answer is stale by the time of the write; HTTP and gRPC drop the answer of the
write. A ghost list records what each write step appended to the version table.
-/

namespace ConfigCenter.Server
open ConfigCenter.Storage ConfigCenter.Base StorageM

/-- A request to set the key: `handleSetConfig`, `SetConfig` or `addDraftChange`. -/
inductive SetRequest where
  | http (body : String)
  | grpc (value operatorId : String)
  | engine (value operatorId : String)
  deriving DecidableEq, Repr

/-- How far a request has come. -/
inductive SetStage where
  | start
  /-- The read has decided between update and creation. -/
  | decided (value operatorId : String) (existing : Bool)
  /-- A gRPC request before the read that fills its response. -/
  | written
  | answered (success : Bool)
  deriving DecidableEq, Repr

/-- A request and how far it has come. -/
structure SetClient where
  request : SetRequest
  stage : SetStage
  deriving DecidableEq, Repr

/-- One write step: its client, the value it carried and the version rows it appended. -/
structure WriteRecord where
  client : Nat
  value : String
  appended : List ConfigVersion
  deriving DecidableEq, Repr

/-- The database and the write steps so far. -/
structure SetShared where
  db : Database
  writes : List WriteRecord
  deriving DecidableEq

namespace SetRequest

variable (parse : Parse)

/-- Value and operator that a request passes to the store, where its body has a value. -/
def payload? : SetRequest → Option (String × String)
  | .http body => (HttpSession.requestedValue parse body).map fun value ↦ (value, "system")
  | .grpc value operatorId => some (value, GrpcService.opId operatorId)
  | .engine value operatorId => some (value, operatorId)

/-- The whole request as the handlers run it, with whether it reports success. -/
def handle (ns key : String) (ts : Timestamp) : SetRequest → StorageM Bool
  | .http body => do
    let _ ← HttpSession.handleSetConfig parse body ns key ts
    return true
  | .grpc value operatorId => do
    let (status, _) ← GrpcService.setConfig ns key value operatorId ts
    return status = .ok
  | .engine value operatorId => Publish.PublishEngine.addDraftChange ns key value operatorId ts

end SetRequest

namespace SetClient

variable (parse : Parse) (ns key : String)

/-- The next locked section of a request and the stage it leads to:
`http_server.cpp:230–239`, `grpc_server.cpp:55–73`, `publish_engine.cpp:26–30`. -/
def nextSection (ts : Timestamp) (c : SetClient) : StorageM SetStage :=
  match c.stage with
  | .start => do
    match c.request.payload? parse with
    | none => StorageM.throw .json
    | some (value, operatorId) =>
      let existing ← SqliteConfigStore.getConfig ns key false
      return .decided value operatorId existing.isSome
  | .decided value operatorId existing => do
    let ok ←
      if existing then SqliteConfigStore.updateConfig ns key value operatorId true ts
      else SqliteConfigStore.createConfig ns key value operatorId ts
    match c.request with
    | .http _ => return .answered true
    | .grpc _ _ => return .written
    | .engine _ _ => return .answered ok
  | .written => do
    let _updated ← SqliteConfigStore.getConfig ns key false
    return .answered true
  | .answered success => return .answered success

/-- What the ghost list gains in a section. -/
def recorded (i : Nat) (c : SetClient) (before after : Database) : List WriteRecord :=
  match c.stage with
  | .decided value _ _ =>
    [{ client := i, value,
       appended := after.ledger.versions.drop before.ledger.versions.length }]
  | _ => []

/-- Run the next section of client `i`; an exception ends the request unsuccessfully. -/
def act (ts : Timestamp) (i : Nat) (c : SetClient) (s : SetShared) : SetClient × SetShared :=
  let r := c.nextSection parse ns key ts noFaults s.db
  let stage := match r.1 with
    | .ok stage => stage
    | .error _ => .answered false
  ({ c with stage }, { db := r.2, writes := s.writes ++ c.recorded i s.db r.2 })

end SetClient

/-- Requests that have all yet to start, on a database without recorded writes. -/
def SetRequest.initial (db : Database) (requests : List SetRequest) :
    Clients SetClient SetShared where
  locals := requests.map fun request ↦ { request, stage := .start }
  shared := { db, writes := [] }

/-- A request that runs alone goes through the sections of its handler. -/
theorem run_solo (parse : Parse) (ns key : String) (db : Database) (request : SetRequest)
    (t ts t' : Timestamp) :
    let final := run (Clients.step (SetClient.act parse ns key))
      (SetRequest.initial db [request]) [(t, 0), (ts, 0), (t', 0)]
    let result := request.handle parse ns key ts noFaults db
    final.locals = [⟨request, .answered (match result.1 with | .ok b => b | .error _ => false)⟩] ∧
      final.shared.db = result.2 := by
  cases request with
  | http body =>
    cases hv : HttpSession.requestedValue parse body with
    | none =>
      simp [SetRequest.initial, SetRequest.handle, Clients.step, SetClient.act,
        SetClient.nextSection, SetRequest.payload?, HttpSession.handleSetConfig_run, hv]
    | some value =>
      cases hc : db.ledger.config? ns key false <;>
        simp [SetRequest.initial, SetRequest.handle, Clients.step, SetClient.act,
          SetClient.nextSection, SetRequest.payload?, HttpSession.handleSetConfig_run, hv,
          getConfig_run, updateConfig_run, createConfig_run, Ledger.setEdit, hc]
  | grpc value op =>
    obtain ⟨message, hm⟩ := GrpcService.setConfig_run ns key value op ts db
    cases hc : db.ledger.config? ns key false <;>
      simp [SetRequest.initial, SetRequest.handle, Clients.step, SetClient.act,
        SetClient.nextSection, SetRequest.payload?, hm, getConfig_run, updateConfig_run,
        createConfig_run, Ledger.setEdit, hc]
  | engine value op =>
    cases hc : db.ledger.config? ns key false <;>
      simp [SetRequest.initial, SetRequest.handle, Clients.step, SetClient.act,
        SetClient.nextSection, SetRequest.payload?, Publish.PublishEngine.addDraftChange,
        getConfig_run, updateConfig_run, createConfig_run, hc]

/-! ### What the store owes its clients -/

/-- Version rows that a client's write steps appended. -/
def SetShared.rowsOf (s : SetShared) (i : Nat) : List ConfigVersion :=
  (s.writes.filter (fun w ↦ w.client = i)).flatMap (·.appended)

/-- No acknowledged edit is lost: every answered client has its own version row, the
current row is the last write, and a publication shows it to readers. -/
structure NoneLost (parse : Parse) (ns key : String) (db : Database)
    (c : Clients SetClient SetShared) : Prop where
  appended : c.shared.db.ledger.versions =
    db.ledger.versions ++ c.shared.writes.flatMap (·.appended)
  own : ∀ i l, c.locals[i]? = some l → l.stage = .answered true →
    ∃ value op v, l.request.payload? parse = some (value, op) ∧ c.shared.rowsOf i = [v] ∧
      v.configId = makeConfigId ns key ∧ v.value = value
  distinct : ∀ i j l m, i ≠ j → c.locals[i]? = some l → c.locals[j]? = some m →
    l.stage = .answered true → m.stage = .answered true →
      ∀ v ∈ c.shared.rowsOf i, ∀ w ∈ c.shared.rowsOf j, v.version ≠ w.version
  current : ∀ w, c.shared.writes.getLast? = some w →
    ∃ row, (SqliteConfigStore.getConfig ns key true noFaults c.shared.db).1 = .ok (some row) ∧
      row.value = w.value
  published : ∀ w note op ts release db', c.shared.writes.getLast? = some w →
    SqliteConfigStore.publishRelease ns note op ts noFaults c.shared.db =
      (.ok (true, release), db') →
    ∃ row, (SqliteConfigStore.getConfig ns key false noFaults db').1 = .ok (some row) ∧
      row.value = w.value

/-- A write step that takes effect: a creation finds the key free, an update finds the
version counter below its maximum. -/
def Lands (ns key : String) (_ : Timestamp) (_ : Nat) (c : SetClient) (s : SetShared) : Prop :=
  match c.stage with
  | .decided _ _ false => s.db.ledger.row? ns key = none
  | .decided _ _ true => ∀ row ∈ s.db.ledger.row? ns key, row.version.toInt < 2147483647
  | _ => True

instance (ns key : String) (ts : Timestamp) (i : Nat) (c : SetClient) (s : SetShared) :
    Decidable (Lands ns key ts i c s) :=
  match c with
  | ⟨_, .decided _ _ false⟩ => inferInstanceAs (Decidable (s.db.ledger.row? ns key = none))
  | ⟨_, .decided _ _ true⟩ =>
    inferInstanceAs (Decidable (∀ row ∈ s.db.ledger.row? ns key, row.version.toInt < 2147483647))
  | ⟨_, .start⟩ | ⟨_, .written⟩ | ⟨_, .answered _⟩ => inferInstanceAs (Decidable True)

section Invariant

variable {parse : Parse} {ns key : String} {db : Database}

/-- The write steps so far have all taken effect on the key. -/
structure Landed (ns key : String) (db : Database) (s : SetShared) : Prop where
  appended : s.db.ledger.versions = db.ledger.versions ++ s.writes.flatMap (·.appended)
  single : ∀ w ∈ s.writes, ∃ v, w.appended = [v] ∧ v.configId = makeConfigId ns key ∧
    v.value = w.value
  bounded : ∀ w ∈ s.writes, ∀ v ∈ w.appended,
    ∃ row, s.db.ledger.row? ns key = some row ∧ v.version.toInt ≤ row.version.toInt
  distinct : s.writes.Pairwise fun a b ↦
    ∀ v ∈ a.appended, ∀ w ∈ b.appended, v.version ≠ w.version
  current : ∀ w, s.writes.getLast? = some w →
    ∃ row, s.db.ledger.row? ns key = some row ∧ row.value = w.value

/-- A client has written once after its decision and not before. -/
def Tracked (parse : Parse) (ns key : String) (i : Nat) (c : SetClient) (s : SetShared) : Prop :=
  match c.stage with
  | .start => ∀ w ∈ s.writes, w.client ≠ i
  | .decided value op existing =>
    c.request.payload? parse = some (value, op) ∧ (∀ w ∈ s.writes, w.client ≠ i) ∧
      (existing → (s.db.ledger.row? ns key).isSome)
  | .written | .answered true =>
    ∃ value op w, c.request.payload? parse = some (value, op) ∧
      s.writes.filter (fun w ↦ w.client = i) = [w] ∧ w.value = value
  | .answered false => True

/-- One more write on the key, with a version above all recorded ones. -/
theorem Landed.write {s : SetShared} (hs : Landed ns key db s) {l : Ledger} {v : ConfigVersion}
    {row : ConfigKey} (i : Nat) (hv : l.versions = s.db.ledger.versions ++ [v])
    (hid : v.configId = makeConfigId ns key) (hr : l.row? ns key = some row)
    (hval : row.value = v.value) (hver : row.version = v.version)
    (hlt : ∀ w ∈ s.writes, ∀ x ∈ w.appended, x.version.toInt < v.version.toInt) :
    Landed ns key db
      { db := s.db.withLedger l
        writes := s.writes ++ [{ client := i, value := v.value, appended := [v] }] } where
  appended := by
    simp [hv, hs.appended]
  single := by
    intro w hw
    rcases List.mem_append.mp hw with hw | hw
    · exact hs.single w hw
    · rw [List.mem_singleton.mp hw]
      exact ⟨v, rfl, hid, rfl⟩
  bounded := by
    intro w hw x hx
    refine ⟨row, hr, ?_⟩
    rw [hver]
    rcases List.mem_append.mp hw with hw | hw
    · exact (hlt w hw x hx).le
    · rw [List.mem_singleton.mp hw] at hx
      rw [List.mem_singleton.mp hx]
  distinct := by
    apply List.pairwise_append.mpr
    refine ⟨hs.distinct, List.pairwise_singleton _ _, ?_⟩
    intro a ha b hb x hx y hy he
    rw [List.mem_singleton.mp hb] at hy
    rw [List.mem_singleton.mp hy] at he
    have := hlt a ha x hx
    rw [he] at this
    exact lt_irrefl _ this
  current := by
    intro w hw
    rw [List.getLast?_concat] at hw
    cases hw
    exact ⟨row, hr, hval⟩

-- The shared state after a write step that leaves the ledger `l` behind.
private def SetShared.written (s : SetShared) (i : Nat) (value : String) (l : Ledger) :
    SetShared where
  db := s.db.withLedger l
  writes := s.writes ++
    [⟨i, value, l.versions.drop s.db.ledger.versions.length⟩]

-- The edit of a write step.
private def writeEdit (ns key value op : String) (existing : Bool) (ts : Timestamp) : Edit :=
  if existing then .update ns key value op true ts else .create ns key value op ts

private theorem act_decided (ts : Timestamp) (i : Nat) (request : SetRequest) (value op : String)
    (existing : Bool) (s : SetShared) :
    SetClient.act parse ns key ts i ⟨request, .decided value op existing⟩ s =
      let l := s.db.ledger.apply (writeEdit ns key value op existing ts)
      let ok := if existing then (s.db.ledger.row? ns key).isSome
        else (s.db.ledger.row? ns key).isNone
      (⟨request, match request with
        | .http _ => .answered true
        | .grpc _ _ => .written
        | .engine _ _ => .answered ok⟩,
        s.written i value l) := by
  cases existing <;> cases request <;>
    simp [SetClient.act, SetClient.nextSection, SetClient.recorded, createConfig_run,
      updateConfig_run, writeEdit, SetShared.written]

-- A write step that takes effect appends one row above every recorded version.
private theorem landed_decided {s : SetShared} (hs : Landed ns key db s) (ts : Timestamp) (i : Nat)
    (request : SetRequest) (value op : String) (existing : Bool)
    (hq : Lands ns key ts i ⟨request, .decided value op existing⟩ s)
    (ha : existing → (s.db.ledger.row? ns key).isSome) :
    let l := s.db.ledger.apply (writeEdit ns key value op existing ts)
    (if existing then (s.db.ledger.row? ns key).isSome
      else (s.db.ledger.row? ns key).isNone) = true ∧
    (l.row? ns key).isSome ∧
    Landed ns key db (s.written i value l) := by
  unfold SetShared.written
  cases existing with
  | false =>
    have hn : s.db.ledger.row? ns key = none := hq
    obtain ⟨configs, _, he⟩ := Ledger.apply_create_of_none hn value op ts
    have hr := Ledger.row?_create_self hn value op ts
    have hv : (s.db.ledger.apply (.create ns key value op ts)).versions =
      s.db.ledger.versions ++ [Ledger.versionRow ns key value op 1 .create ts] := by rw [he]
    simp only [writeEdit, Bool.false_eq_true, if_false, hn, Option.isNone_none, true_and]
    refine ⟨by rw [hr]; rfl, ?_⟩
    rw [hv, List.drop_left]
    apply hs.write i hv rfl hr rfl rfl
    intro w hw x hx
    obtain ⟨row, hrow, _⟩ := hs.bounded w hw x hx
    rw [hn] at hrow
    cases hrow
  | true =>
    obtain ⟨old, ho⟩ := Option.isSome_iff_exists.mp (ha rfl)
    have hmax : old.version.toInt < 2147483647 := hq old ho
    have hr := Ledger.row?_update_self ho value op true ts
    have hv : (s.db.ledger.apply (.update ns key value op true ts)).versions =
        s.db.ledger.versions ++
          [Ledger.versionRow ns key value op (old.version + 1) .update ts] := by
      rw [Ledger.apply_update_of_some ho]
    simp only [writeEdit, if_true, ho, Option.isSome_some, true_and]
    refine ⟨by rw [hr]; rfl, ?_⟩
    rw [hv, List.drop_left]
    apply hs.write i hv rfl hr rfl rfl
    intro w hw x hx
    obtain ⟨row, hrow, hle⟩ := hs.bounded w hw x hx
    rw [ho] at hrow
    cases hrow
    change x.version.toInt < (old.version + 1).toInt
    rw [toInt_add_one hmax]
    omega

-- What a client knows survives writes of others: they carry another name, and no set
-- request removes the row.
private theorem tracked_of_append {s s' : SetShared} {j : Nat} {m : SetClient}
    (ws : List WriteRecord) (hw : s'.writes = s.writes ++ ws) (hws : ∀ w ∈ ws, w.client ≠ j)
    (hr : (s.db.ledger.row? ns key).isSome → (s'.db.ledger.row? ns key).isSome)
    (h : Tracked parse ns key j m s) : Tracked parse ns key j m s' := by
  have hclient (hs : ∀ w ∈ s.writes, w.client ≠ j) : ∀ w ∈ s'.writes, w.client ≠ j := by
    intro w hm
    rw [hw] at hm
    rcases List.mem_append.mp hm with hm | hm
    · exact hs w hm
    · exact hws w hm
  have hfilter : s'.writes.filter (fun w ↦ w.client = j) =
      s.writes.filter (fun w ↦ w.client = j) := by
    have hn : ws.filter (fun w ↦ w.client = j) = [] := by
      apply List.filter_eq_nil_iff.mpr
      intro w hm
      simpa using hws w hm
    rw [hw, List.filter_append, hn, List.append_nil]
  obtain ⟨request, stage⟩ := m
  cases stage with
  | start => exact hclient h
  | decided value op existing => exact ⟨h.1, hclient h.2.1, fun he ↦ hr (h.2.2 he)⟩
  | written =>
    obtain ⟨value, op, w, hp, hf, hv⟩ := h
    exact ⟨value, op, w, hp, hfilter.trans hf, hv⟩
  | answered success =>
    cases success with
    | false => exact True.intro
    | true =>
      obtain ⟨value, op, w, hp, hf, hv⟩ := h
      exact ⟨value, op, w, hp, hfilter.trans hf, hv⟩

private theorem act_own (ts : Timestamp) (i : Nat) (c : SetClient) (s : SetShared)
    (hq : Lands ns key ts i c s) (hs : Landed ns key db s) (ha : Tracked parse ns key i c s) :
    Landed ns key db (SetClient.act parse ns key ts i c s).2 ∧
      Tracked parse ns key i (SetClient.act parse ns key ts i c s).1
        (SetClient.act parse ns key ts i c s).2 := by
  obtain ⟨request, stage⟩ := c
  cases stage with
  | start =>
    cases hp : request.payload? parse with
    | none =>
      simp only [SetClient.act, SetClient.nextSection, hp, throw_run, SetClient.recorded,
        List.append_nil]
      exact ⟨hs, True.intro⟩
    | some p =>
      obtain ⟨value, op⟩ := p
      simp only [SetClient.act, SetClient.nextSection, hp, bind_run, getConfig_run, pure_run,
        SetClient.recorded, List.append_nil]
      refine ⟨hs, hp, ha, ?_⟩
      intro hc
      obtain ⟨row, hrow⟩ := Option.isSome_iff_exists.mp hc
      exact Option.isSome_iff_exists.mpr ⟨row, (Option.filter_eq_some_iff.mp hrow).1⟩
  | decided value op existing =>
    obtain ⟨hok, -, hl⟩ := landed_decided hs ts i request value op existing hq ha.2.2
    rw [act_decided]
    refine ⟨hl, ?_⟩
    have hf (w : WriteRecord) (hw : w.client = i) :
        (s.writes ++ [w]).filter (fun w ↦ w.client = i) = [w] := by
      rw [List.filter_append, List.filter_eq_nil_iff.mpr, List.nil_append]
      · simp [hw]
      · intro x hx
        simpa using ha.2.1 x hx
    cases request with
    | http body => exact ⟨value, op, _, ha.1, hf _ rfl, rfl⟩
    | grpc v o => exact ⟨value, op, _, ha.1, hf _ rfl, rfl⟩
    | engine v o =>
      simp only [hok]
      exact ⟨value, op, _, ha.1, hf _ rfl, rfl⟩
  | written =>
    simp only [SetClient.act, SetClient.nextSection, bind_run, getConfig_run, pure_run,
      SetClient.recorded, List.append_nil]
    exact ⟨hs, ha⟩
  | answered success =>
    simp only [SetClient.act, SetClient.nextSection, pure_run, SetClient.recorded,
      List.append_nil]
    exact ⟨hs, ha⟩

private theorem act_other (ts : Timestamp) (i : Nat) (c : SetClient) (s : SetShared) (j : Nat)
    (m : SetClient) (hij : i ≠ j) (hq : Lands ns key ts i c s) (hs : Landed ns key db s)
    (ha : Tracked parse ns key i c s) (hm : Tracked parse ns key j m s) :
    Tracked parse ns key j m (SetClient.act parse ns key ts i c s).2 := by
  obtain ⟨request, stage⟩ := c
  cases stage with
  | decided value op existing =>
    obtain ⟨-, hr, -⟩ := landed_decided hs ts i request value op existing hq ha.2.2
    rw [act_decided]
    refine tracked_of_append _ rfl ?_ (fun _ ↦ hr) hm
    intro w hw
    rw [List.mem_singleton.mp hw]
    exact hij
  | start =>
    refine tracked_of_append [] rfl (by simp) ?_ hm
    cases hp : request.payload? parse with
    | none => simp [SetClient.act, SetClient.nextSection, hp]
    | some p => simp [SetClient.act, SetClient.nextSection, hp, getConfig_run]
  | written =>
    refine tracked_of_append [] rfl (by simp) ?_ hm
    simp [SetClient.act, SetClient.nextSection, getConfig_run]
  | answered success => exact tracked_of_append [] rfl (by simp) id hm

private theorem coherent_initial (requests : List SetRequest) :
    Clients.Coherent (Landed ns key db) (Tracked parse ns key)
      (SetRequest.initial db requests) where
  shared := by
    constructor <;> simp [SetRequest.initial]
  client := by
    intro i l hl
    simp only [SetRequest.initial, List.getElem?_map, Option.map_eq_some_iff] at hl
    obtain ⟨request, _, rfl⟩ := hl
    intro w hw
    cases hw

private theorem written_of_answered {s : SetShared} {i : Nat} {l : SetClient}
    (ht : Tracked parse ns key i l s) (hs : l.stage = .answered true) :
    ∃ value op, ∃ w ∈ s.writes, l.request.payload? parse = some (value, op) ∧
      s.writes.filter (fun w ↦ w.client = i) = [w] ∧ w.client = i ∧ w.value = value := by
  simp only [Tracked, hs] at ht
  obtain ⟨value, op, w, hp, hf, hv⟩ := ht
  have hmem : w ∈ s.writes.filter (fun w ↦ w.client = i) := by simp [hf]
  obtain ⟨hw, hi⟩ := List.mem_filter.mp hmem
  exact ⟨value, op, w, hw, hp, hf, by simpa using hi, hv⟩

private theorem getConfig_of_published {db db' : Database} {row : ConfigKey}
    {note op : String} {ts : Timestamp} {r : Bool × Option Release}
    (hr : db.ledger.row? ns key = some row)
    (hp : SqliteConfigStore.publishRelease ns note op ts noFaults db = (.ok r, db')) :
    SqliteConfigStore.getConfig ns key false noFaults db' =
      (.ok (some (row.withStatus .live)), db') := by
  cases hsnap : db.snapshot with
  | some t =>
    rw [publishRelease_run_open ns note op ts db (by simp [hsnap])] at hp
    cases hp
  | none =>
    rw [publishRelease_run ns note op ts noFaults db hsnap] at hp
    simp only [noFaults, failsInside, Bool.or_self, Bool.false_eq_true, if_false,
      Prod.mk.injEq] at hp
    obtain ⟨-, rfl⟩ := hp
    have hl := Ledger.row?_publish db.ledger ns ns key
    rw [hr, Option.map_some, if_pos rfl] at hl
    rw [getConfig_run]
    refine Prod.ext ?_ rfl
    change Except.ok (((db.ledger.apply (.publish ns)).row? ns key).filter _) = _
    rw [hl]
    rfl

/-- Coherent clients have lost nothing. -/
theorem noneLost_of_coherent {c : Clients SetClient SetShared}
    (h : Clients.Coherent (Landed ns key db) (Tracked parse ns key) c) :
    NoneLost parse ns key db c := by
  constructor
  · exact h.shared.appended
  · intro i l hl hs
    obtain ⟨value, op, w, hw, hp, hf, -, hv⟩ := written_of_answered (h.client i l hl) hs
    obtain ⟨v, ha, hid, hval⟩ := h.shared.single w hw
    exact ⟨value, op, v, hp, by simp [SetShared.rowsOf, hf, ha], hid, hval.trans hv⟩
  · intro i j l m hij hl hm hsl hsm v hv x hx
    obtain ⟨_, _, w, hw, _, hf, hi, _⟩ := written_of_answered (h.client i l hl) hsl
    obtain ⟨_, _, y, hy, _, hg, hj, _⟩ := written_of_answered (h.client j m hm) hsm
    have hne : w ≠ y := by
      rintro rfl
      exact hij (hi.symm.trans hj)
    have hsymm : Std.Symm fun a b : WriteRecord ↦
        ∀ v ∈ a.appended, ∀ w ∈ b.appended, v.version ≠ w.version :=
      ⟨fun a b hab v hv w hw ↦ (hab w hw v hv).symm⟩
    apply h.shared.distinct.forall hw hy hne v _ x
    · simpa [SetShared.rowsOf, hg] using hx
    · simpa [SetShared.rowsOf, hf] using hv
  · intro w hw
    obtain ⟨row, hr, hv⟩ := h.shared.current w hw
    exact ⟨row, by simp [getConfig_run, Ledger.config?, hr], hv⟩
  · intro w note op ts release db' hw hp
    obtain ⟨row, hr, hv⟩ := h.shared.current w hw
    exact ⟨row.withStatus .live, congrArg Prod.fst (getConfig_of_published hr hp), hv⟩

end Invariant

/-- Under any schedule of set requests on one key whose write steps all take effect, no
acknowledged edit is lost in any state of the run. -/
theorem noneLost_of_lands (parse : Parse) (ns key : String) (db : Database)
    (requests : List SetRequest) (schedule : List (Timestamp × Nat))
    (h : Along (Clients.step (SetClient.act parse ns key)) (Clients.Acts (Lands ns key))
      (SetRequest.initial db requests) schedule) :
    ∀ pre, pre <+: schedule → NoneLost parse ns key db
      (run (Clients.step (SetClient.act parse ns key)) (SetRequest.initial db requests) pre) := by
  rintro pre ⟨rest, rfl⟩
  have hpre := ((along_append _ _ _ pre rest).mp h).1
  exact noneLost_of_coherent
    (Clients.run_coherent (coherent_initial requests) hpre act_own act_other)

/-- Two overlapping updates of a published key, over HTTP and gRPC, both take effect. -/
theorem noneLost_two_updates :
    let parse : Parse := fun body ↦
      if body = "\x7b\"value\":\"60\"\x7d" then some (.object [("value", .string "60")]) else none
    let db := run Storage.step Database.empty
      [("t1", .createConfig "ns" "timeout" "30" "alice"), ("t2", .publishRelease "ns" "" "alice")]
    ∀ pre, pre <+: [("t3", 0), ("t4", 1), ("t5", 0), ("t6", 1), ("t7", 1)] →
      NoneLost parse "ns" "timeout" db (run (Clients.step (SetClient.act parse "ns" "timeout"))
        (SetRequest.initial db [.http "\x7b\"value\":\"60\"\x7d", .grpc "90" ""]) pre) :=
  noneLost_of_lands _ "ns" "timeout" _ _ _ (by decide)

/-- The second of two requests on a new key is answered with success and writes nothing. -/
theorem not_noneLost_second_set :
    ¬ ∀ (parse : Parse) (ns key : String) (db : Database) (requests : List SetRequest)
      (schedule : List (Timestamp × Nat)), Reachable Storage.step Database.empty db →
        NoneLost parse ns key db (run (Clients.step (SetClient.act parse ns key))
          (SetRequest.initial db requests) schedule) := by
  intro h
  have hn := h (fun _ ↦ none) "ns" "timeout" Database.empty [.grpc "30" "alice", .grpc "60" "bob"]
    [("t1", 0), ("t2", 0), ("t3", 0), ("t4", 1), ("t5", 1), ("t6", 1)] ⟨[], rfl⟩
  obtain ⟨_, _, v, _, hv, _⟩ := hn.own 1 ⟨.grpc "60" "bob", .answered true⟩ (by decide) rfl
  have hnil : ([] : List ConfigVersion) = [v] := hv
  cases hnil

end ConfigCenter.Server
