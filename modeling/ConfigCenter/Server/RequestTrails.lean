import ConfigCenter.Server.PublishedValues
import ConfigCenter.Publish.ReleaseSequence

/-!
# What requests leave behind

Library `Server`. Under every schedule of concurrent requests on a new store, every row
of the change log is the trace of one acknowledged store call and says what its request
asked for, and the releases are those of the publish calls, each namespace numbered
without a gap.
-/

namespace ConfigCenter.Server
open ConfigCenter.Storage ConfigCenter.Base

/-! ### The change log -/

/-- The acknowledged writes among the calls of a run. -/
def acknowledgedCalls : Database → List (Program.Made Timestamp StoreCall) →
    List (Program.Made Timestamp StoreCall)
  | _, [] => []
  | db, m :: made =>
    let rest := acknowledgedCalls (step db (event m)) made
    if m.call.acknowledged db then m :: rest else rest

/-- The log row says what the request asked for and when the store did it. -/
def ServerRequest.Logs (parse : Parse) (request : ServerRequest) (ts : Timestamp)
    (l : ChangeLog) : Prop :=
  (match l.operation with
    | .create | .update =>
      request.setting parse = some (l.namespaceId, l.key, l.newValue, l.operatorId)
    | .delete => request.deleting = some (l.namespaceId, l.key, l.operatorId)
    | .rollback => False) ∧ l.createdAt = ts

private theorem logs_step {parse : Parse} {request : ServerRequest} (db : Database)
    {m : Program.Made Timestamp StoreCall} (hm : request.Writes parse m.call) :
    (m.call.acknowledged db = false ∧
      (step db (event m)).ledger.logs.rows = db.ledger.logs.rows) ∨
    m.call.acknowledged db = true ∧
      ∃ l, (step db (event m)).ledger.logs.rows = db.ledger.logs.rows ++ [l] ∧
        request.Logs parse m.input l := by
  obtain ⟨client, ts, c⟩ := m
  rw [event, (ledger_step db ts c.toCall c.isTransactional_toCall).1]
  cases c with
  | createConfig ns key value op =>
    simp only [StoreCall.toCall, Call.edit, StoreCall.acknowledged]
    cases hr : db.ledger.row? ns key with
    | some old =>
      rw [Ledger.apply_create_of_some hr]
      exact .inl ⟨rfl, rfl⟩
    | none =>
      obtain ⟨configs, -, happly⟩ := Ledger.apply_create_of_none hr value op ts
      rw [happly]
      exact .inr ⟨rfl, _, rfl, hm, rfl⟩
  | updateConfig ns key value op draft =>
    simp only [StoreCall.toCall, Call.edit, StoreCall.acknowledged]
    cases hr : db.ledger.row? ns key with
    | none =>
      rw [Ledger.apply_update_of_none hr]
      exact .inl ⟨rfl, rfl⟩
    | some old =>
      rw [Ledger.apply_update_of_some hr]
      exact .inr ⟨rfl, _, rfl, hm.1, rfl⟩
  | deleteConfig ns key op draft => exact .inr ⟨rfl, _, rfl, hm.1, rfl⟩
  | publishRelease ns note op =>
    refine .inl ⟨rfl, ?_⟩
    simp only [StoreCall.toCall, Call.edit]
    split <;> rfl
  | _ => exact .inl ⟨rfl, rfl⟩

private theorem logs_run {parse : Parse} {requests : List ServerRequest}
    {made : List (Program.Made Timestamp StoreCall)}
    (hmade : ∀ m ∈ made, ∃ request, requests[m.client]? = some request ∧
      request.Writes parse m.call) (db : Database) :
    ∃ added, (run step db (made.map event)).ledger.logs.rows = db.ledger.logs.rows ++ added ∧
      List.Forall₂ (fun m l ↦ ∃ request, requests[m.client]? = some request ∧
        request.Logs parse m.input l) (acknowledgedCalls db made) added := by
  induction made generalizing db with
  | nil => exact ⟨[], by simp, .nil⟩
  | cons m made ih =>
    obtain ⟨request, hi, hwrites⟩ := hmade m (by simp)
    obtain ⟨rest, hrest, hothers⟩ :=
      ih (fun x hx ↦ hmade x (List.mem_cons_of_mem m hx)) (step db (event m))
    rw [List.map_cons, run_cons, hrest, acknowledgedCalls]
    obtain ⟨hack, hsame⟩ | ⟨hack, l, hadd, hl⟩ := logs_step db hwrites
    · rw [hack, hsame]
      exact ⟨rest, rfl, hothers⟩
    · rw [hack, hadd]
      exact ⟨l :: rest, by simp, .cons ⟨request, hi, hl⟩ hothers⟩

/-- On a store that was new, the rows of the change log are those of the acknowledged writes in
their order; each says what its request asked for. -/
theorem change_log_names_requests (parse : Parse) (requests : List ServerRequest)
    (schedule : List (Timestamp × Nat)) :
    List.Forall₂ (fun m l ↦ ∃ request, requests[m.client]? = some request ∧
        request.Logs parse m.input l)
      (acknowledgedCalls .empty (storeCalls parse requests .empty schedule))
      (served parse requests .empty schedule).shared.tables.changeLogs.rows := by
  obtain ⟨added, hrows, hlogged⟩ :=
    logs_run (fun m hm ↦ request_of_mem_storeCalls hm) .empty
  rw [← shared_served] at hrows
  change (served parse requests .empty schedule).shared.ledger.logs.rows = [] ++ added at hrows
  change List.Forall₂ _ _ (served parse requests .empty schedule).shared.ledger.logs.rows
  rw [hrows]
  exact hlogged

/-! ### Releases -/

/-- The release is the full one that a publish request asked for, made when the store did it. -/
def ServerRequest.Released (parse : Parse) (request : ServerRequest) (ts : Timestamp)
    (r : Release) : Prop :=
  request.publishing parse = some (r.namespaceId, r.releaseNote, r.operatorId) ∧
    r.releaseType = "full" ∧ r.status = "active" ∧ r.createdAt = ts

/-- The call publishes a namespace. -/
def StoreCall.isPublish : StoreCall → Bool
  | .publishRelease _ _ _ => true
  | _ => false

/-- The numbers from 1 to n. -/
def firstNumbers (n : Nat) : List Int := (List.range n).map fun k : Nat ↦ (k : Int) + 1

/-- The next number comes last. -/
theorem firstNumbers_succ (n : Nat) : firstNumbers (n + 1) = firstNumbers n ++ [(n : Int) + 1] := by
  rw [firstNumbers, List.range_succ, List.map_append, List.map_singleton]
  rfl

/-- The first numbers are those from one on. -/
theorem mem_firstNumbers {n : Nat} {x : Int} : x ∈ firstNumbers n ↔ 1 ≤ x ∧ x ≤ n := by
  simp only [firstNumbers, List.mem_map, List.mem_range]
  constructor
  · rintro ⟨k, hk, rfl⟩
    omega
  · intro hx
    exact ⟨(x - 1).toNat, by omega, by omega⟩

/-- Every namespace has the release versions 1, 2, 3 and so on, in the order of the rows. -/
def Numbered (releases : List Release) : Prop :=
  ∀ ns, (releases.filter (·.namespaceId = ns)).map (·.releaseVersion.toInt) =
    firstNumbers (releases.filter (·.namespaceId = ns)).length

private theorem maxReleaseVersion_of_numbered {releases : List Release}
    (h : releases.map (·.releaseVersion.toInt) = firstNumbers releases.length) :
    (SqliteConfigStore.maxReleaseVersion releases).toInt = releases.length := by
  have hle : ∀ r ∈ releases, r.releaseVersion.toInt ≤ releases.length := by
    intro r hr
    have hmem : r.releaseVersion.toInt ∈ releases.map (·.releaseVersion.toInt) :=
      List.mem_map_of_mem hr
    rw [h] at hmem
    exact (mem_firstNumbers.mp hmem).2
  obtain ⟨hnil, hzero⟩ | ⟨m, hm, hmax, hversion⟩ := maxReleaseVersion_spec releases
  · rw [hzero, hnil]
    rfl
  · rw [hversion]
    refine le_antisymm (hle m hm) ?_
    -- the last of the versions is among them
    have hpos : 0 < releases.length := List.length_pos_of_mem hm
    have hlast : (releases.length : Int) ∈ releases.map (·.releaseVersion.toInt) := by
      rw [h, mem_firstNumbers]
      omega
    obtain ⟨r, hr, hv⟩ := List.mem_map.mp hlast
    have hrm := Int32.le_iff_toInt_le.mp (hmax r hr)
    omega

private theorem numbered_published {t : Tables} (h : Numbered t.releases.rows)
    (hlt : t.releases.rows.length < 2147483647) (ns note op : String) (ts : Timestamp) :
    Numbered (t.releases.rows ++ [t.nextRelease ns note op ts]) := by
  intro n
  rw [List.filter_append]
  by_cases hn : ns = n
  · subst hn
    have hself : [t.nextRelease ns note op ts].filter (·.namespaceId = ns) =
        [t.nextRelease ns note op ts] := by
      simp [Tables.nextRelease, SqliteConfigStore.publishedRelease]
    have hmax := maxReleaseVersion_of_numbered (h ns)
    have hlength : (t.releases.rows.filter (·.namespaceId = ns)).length ≤
        t.releases.rows.length := List.length_filter_le _ _
    have hversion : (t.nextRelease ns note op ts).releaseVersion.toInt =
        (t.releases.rows.filter (·.namespaceId = ns)).length + 1 := by
      rw [← hmax]
      exact toInt_add_one (by omega)
    rw [hself, List.map_append, h ns, List.length_append, List.length_singleton,
      firstNumbers_succ, List.map_singleton, hversion]
  · have hother : [t.nextRelease ns note op ts].filter (·.namespaceId = n) = [] := by
      simp [Tables.nextRelease, SqliteConfigStore.publishedRelease, hn]
    rw [hother, List.append_nil]
    exact h n

-- What the store owes the publish requests among the calls so far.
private structure ReleaseTrail (parse : Parse) (requests : List ServerRequest)
    (made : List (Program.Made Timestamp StoreCall)) (db : Database) : Prop where
  rows : List.Forall₂ (fun m r ↦ ∃ request, requests[m.client]? = some request ∧
    request.Released parse m.input r) (made.filter (·.call.isPublish)) db.tables.releases.rows
  ids : db.tables.releases.rows.map (·.id) = firstNumbers db.tables.releases.rows.length
  seq : db.tables.releases.seq = db.tables.releases.rows.length
  numbered : Numbered db.tables.releases.rows
  closed : db.snapshot = none

private theorem releaseTrail_step {parse : Parse} {requests : List ServerRequest}
    {made : List (Program.Made Timestamp StoreCall)} {db : Database}
    (h : ReleaseTrail parse requests made db) (hlt : made.length < 2147483647)
    {m : Program.Made Timestamp StoreCall} {request : ServerRequest}
    (hi : requests[m.client]? = some request) (hm : request.Writes parse m.call) :
    ReleaseTrail parse requests (made ++ [m]) (step db (event m)) := by
  obtain ⟨client, ts, c⟩ := m
  have hsnap := (ledger_step db ts c.toCall c.isTransactional_toCall).2
  by_cases hpublish : c.isPublish
  · cases c with
    | publishRelease ns note op =>
      have hstep : step db (ts, .publishRelease ns note op) =
          { db with tables := db.tables.published ns note op ts } := by
        rw [step, respond_publishRelease db ts ns note op h.closed]
      have hrows : (step db (ts, .publishRelease ns note op)).tables.releases.rows =
          db.tables.releases.rows ++ [db.tables.nextRelease ns note op ts] := by
        rw [hstep]
        rfl
      have hcount : db.tables.releases.rows.length ≤ made.length := by
        rw [← h.rows.length_eq]
        exact List.length_filter_le _ _
      have hid : (db.tables.nextRelease ns note op ts).id =
          (db.tables.releases.rows.length : Int) + 1 := by
        rw [← h.seq]
        rfl
      refine ⟨?_, ?_, ?_, ?_, hsnap.trans h.closed⟩
      · rw [event, StoreCall.toCall, hrows, List.filter_append]
        refine List.rel_append h.rows (.cons ⟨request, hi, ?_⟩ .nil)
        exact ⟨hm, rfl, rfl, rfl⟩
      · rw [event, StoreCall.toCall, hrows, List.map_append, h.ids, List.length_append,
          List.length_singleton, firstNumbers_succ, List.map_singleton, hid]
      · rw [event, StoreCall.toCall, hrows, hstep, List.length_append, List.length_singleton,
          ← h.seq]
        rfl
      · rw [event, StoreCall.toCall, hrows]
        exact numbered_published h.numbered (by omega) ns note op ts
    | _ => cases hpublish
  · have hsame : (step db (ts, c.toCall)).tables.releases = db.tables.releases := by
      rw [tables_step db ts c.toCall c.isTransactional_toCall]
      cases c with
      | publishRelease ns note op => exact absurd rfl hpublish
      | createApplication _ | deleteApplication _ | createNamespace _ =>
        simp only [StoreCall.toCall, Call.effect]
        split <;> rfl
      | _ => rfl
    have hfilter : (made ++ [Program.Made.mk client ts c]).filter (·.call.isPublish) =
        made.filter (·.call.isPublish) := by
      simp [List.filter_append, hpublish]
    refine ⟨?_, ?_, ?_, ?_, hsnap.trans h.closed⟩
    · rw [event, hsame, hfilter]
      exact h.rows
    · rw [event, hsame]
      exact h.ids
    · rw [event, hsame]
      exact h.seq
    · rw [event, hsame]
      exact h.numbered

private theorem releaseTrail_run {parse : Parse} {requests : List ServerRequest}
    {made : List (Program.Made Timestamp StoreCall)}
    (hmade : ∀ m ∈ made, ∃ request, requests[m.client]? = some request ∧
      request.Writes parse m.call) (hlt : made.length ≤ 2147483647) :
    ReleaseTrail parse requests made (run step .empty (made.map event)) := by
  induction made using List.reverseRecOn with
  | nil => exact ⟨.nil, rfl, rfl, fun _ ↦ rfl, rfl⟩
  | append_singleton made last ih =>
    rw [List.length_append, List.length_singleton] at hlt
    obtain ⟨request, hi, hwrites⟩ := hmade last (by simp)
    rw [List.map_append, List.map_singleton, run_concat]
    refine releaseTrail_step (ih ?_ (by omega)) (by omega) hi hwrites
    exact fun x hx ↦ hmade x (List.mem_append_left _ hx)

/-- On a store that was new, every publish call adds one release with the next id and the next
version of its namespace, and there are no other releases. -/
theorem releases_of_publish_calls {parse : Parse} {requests : List ServerRequest}
    {schedule : List (Timestamp × Nat)} (hlt : schedule.length ≤ 2147483647) :
    let releases := (served parse requests .empty schedule).shared.tables.releases.rows
    List.Forall₂ (fun m r ↦ ∃ request, requests[m.client]? = some request ∧
        request.Released parse m.input r)
      ((storeCalls parse requests .empty schedule).filter (·.call.isPublish)) releases ∧
    releases.map (·.id) = firstNumbers releases.length ∧
    Numbered releases := by
  intro releases
  have hcalls : (storeCalls parse requests .empty schedule).length ≤ 2147483647 :=
    (Program.length_calls_le _ _ _).trans hlt
  have htrail := releaseTrail_run (fun m hm ↦ request_of_mem_storeCalls hm) hcalls
  rw [← shared_served] at htrail
  exact ⟨htrail.rows, htrail.ids, htrail.numbered⟩

/-- A value that is set and then published over gRPC. -/
def setAndPublish : List ServerRequest :=
  [.grpc (.setConfig "shop/prod/default/app" "db.url" "mysql" "alice"),
    .grpc (.publishRelease "shop/prod/default/app" "first" "")]

/-- Both requests run to their ends, the first with three store calls. -/
def setThenPublish : List (Timestamp × Nat) :=
  [("2026-01-01T00:00:00Z", 0), ("2026-01-01T00:00:01Z", 0), ("2026-01-01T00:00:02Z", 0),
    ("2026-01-01T00:00:03Z", 1)]

/-- One publication after a set request. -/
theorem releases_of_publish_calls_first :
    setThenPublish.length ≤ 2147483647 ∧
    let releases :=
      (served (fun _ ↦ none) setAndPublish .empty setThenPublish).shared.tables.releases.rows
    List.Forall₂ (fun m r ↦ ∃ request, setAndPublish[m.client]? = some request ∧
        request.Released (fun _ ↦ none) m.input r)
      ((storeCalls (fun _ ↦ none) setAndPublish .empty setThenPublish).filter
        (·.call.isPublish)) releases ∧
    releases.map (·.id) = firstNumbers releases.length ∧ Numbered releases :=
  ⟨by decide, releases_of_publish_calls (by decide)⟩

end ConfigCenter.Server
