import ConfigCenter.Storage.Ledger

/-!
# Draft editing and publishing

Library `Publish`. Operations of `src/publish/publish_engine.cpp` over the SQLite
store. Setting a draft decides between update and creation by a read that hides
drafts; `Ledger.setEdit` is the edit this decision leads to. A grayscale
publication opens a transaction around `publishRelease`, which opens its own; a
full rollout builds its release record without `publishRelease`.
-/

namespace ConfigCenter.Storage

/-- The edit of a set request: an update where a published row is read, else a creation. -/
def Ledger.setEdit (l : Ledger) (namespaceId key value operatorId : String) (ts : Timestamp) :
    Edit :=
  if (l.config? namespaceId key false).isSome then
    .update namespaceId key value operatorId true ts
  else .create namespaceId key value operatorId ts

end ConfigCenter.Storage

namespace ConfigCenter.Publish.PublishEngine
open ConfigCenter.Storage ConfigCenter.Base StorageM

/-- `getDraftChanges`, `publish_engine.cpp:16–22`. -/
def getDraftChanges (namespaceId : String) : StorageM (List ConfigKey) := do
  let configs ← SqliteConfigStore.listConfigs namespaceId true
  return configs.filter (fun c ↦ c.status = .draft)

/-- `addDraftChange`, `publish_engine.cpp:24–31`. -/
def addDraftChange (namespaceId key value operatorId : String) (ts : Timestamp) :
    StorageM Bool := do
  let existing ← SqliteConfigStore.getConfig namespaceId key false
  if existing.isSome then
    SqliteConfigStore.updateConfig namespaceId key value operatorId true ts
  else
    SqliteConfigStore.createConfig namespaceId key value operatorId ts

/-- `removeDraftChange`, `publish_engine.cpp:33–36`. -/
def removeDraftChange (namespaceId key operatorId : String) (ts : Timestamp) : StorageM Bool :=
  SqliteConfigStore.deleteConfig namespaceId key operatorId true ts

/-- `publish`, `publish_engine.cpp:38–41`. -/
def publish (namespaceId releaseNote operatorId : String) (ts : Timestamp) :
    StorageM (Bool × Option Release) :=
  SqliteConfigStore.publishRelease namespaceId releaseNote operatorId ts

/-- `submitForApproval`, `publish_engine.cpp:43–53`, with the output argument; the answer of
`createApproval` is dropped. -/
def submitForApproval (namespaceId submitterId : String) : StorageM (Bool × Approval) := do
  let (_, approval) ← SqliteConfigStore.createApproval
    { namespaceId, submitterId, status := "pending", createdAt := "" }
  return (true, approval)

/-- `approve`, `publish_engine.cpp:55–57`; the approver is not recorded. -/
def approve (approvalId : Int) (_approverId comment : String) (ts : Timestamp) : StorageM Bool :=
  SqliteConfigStore.updateApprovalStatus approvalId "approved" comment ts

/-- `reject`, `publish_engine.cpp:59–61`; the approver is not recorded. -/
def reject (approvalId : Int) (_approverId comment : String) (ts : Timestamp) : StorageM Bool :=
  SqliteConfigStore.updateApprovalStatus approvalId "rejected" comment ts

/-- `getPendingApprovals`, `publish_engine.cpp:63–65`. -/
def getPendingApprovals (namespaceId : String) : StorageM (List Approval) :=
  SqliteConfigStore.getPendingApprovals namespaceId

/-- What `publishGrayscale` assigns to the published release, `publish_engine.cpp:73–79`;
`dump` is the text of a JSON array of strings. -/
def grayscaleRelease (dump : List String → String) (percentage : Int32) (whitelist : List String)
    (r : Release) : Release :=
  { r with
    releaseType := "grayscale", grayscalePercentage := some percentage,
    whitelist := if whitelist.isEmpty then r.whitelist else some (dump whitelist) }

/-- `publishGrayscale`, `publish_engine.cpp:67–87`, with the output argument. The answer of
`publishRelease` is dropped; an exception before or in `COMMIT` ends in the handler. -/
def publishGrayscale (dump : List String → String) (namespaceId releaseNote operatorId : String)
    (percentage : Int32) (whitelist : List String) (outRelease : Release) (ts : Timestamp) :
    StorageM (Bool × Release) := do
  let _ ← beginTransaction
  let assigned ← tryCatch
    (do
      let (_, release) ← SqliteConfigStore.publishRelease namespaceId releaseNote operatorId ts
      return some (grayscaleRelease dump percentage whitelist (release.getD outRelease)))
    (pure none)
  let committed ← match assigned with
    | some _ => tryCatch commitTransaction (pure false)
    | none => pure false
  if !committed then
    let _ ← rollbackTransaction
    return (false, assigned.getD outRelease)
  return (true, assigned.getD outRelease)

/-- The record that `fullRollout` builds, `publish_engine.cpp:95–100`: the other fields keep
their initializers. -/
def rolloutRelease (namespaceId operatorId : String) (releaseId : Int) : Release :=
  { namespaceId, releaseNote := "Full rollout of release " ++ toString releaseId,
    releaseType := "full", status := "active", operatorId }

/-- `fullRollout`, `publish_engine.cpp:89–102`. -/
def fullRollout (namespaceId operatorId : String) (releaseId : Int) : StorageM Bool := do
  let release ← SqliteConfigStore.getRelease releaseId
  match release with
  | none => return false
  | some r =>
    if r.status ≠ "active" then
      return false
    let _ ← SqliteConfigStore.retireRelease releaseId
    let (ok, _) ←
      SqliteConfigStore.createRelease (rolloutRelease namespaceId operatorId releaseId)
    return ok

/-- `getReleaseHistory`, `publish_engine.cpp:104–110`. -/
def getReleaseHistory (namespaceId : String) (page pageSize : Int32) : StorageM (List Release) :=
  SqliteConfigStore.getReleases { namespaceId, page, pageSize }

/-- `addDraftChange` performs the set edit; it succeeds unless a draft is in the way. -/
theorem addDraftChange_run (namespaceId key value operatorId : String) (ts : Timestamp)
    (db : Database) :
    ∃ b, addDraftChange namespaceId key value operatorId ts noFaults db =
      (.ok b, db.withLedger
        (db.ledger.apply (db.ledger.setEdit namespaceId key value operatorId ts))) := by
  unfold addDraftChange Ledger.setEdit
  rw [bind_run, getConfig_run]
  cases hc : db.ledger.config? namespaceId key false with
  | none => exact ⟨_, createConfig_run namespaceId key value operatorId ts db⟩
  | some c => exact ⟨_, updateConfig_run namespaceId key value operatorId ts db true⟩

/-- Outside a transaction `publishGrayscale` fails at the `BEGIN` of `publishRelease` and rolls
back to the tables it found. -/
theorem publishGrayscale_run (dump : List String → String)
    (namespaceId releaseNote operatorId : String) (percentage : Int32) (whitelist : List String)
    (outRelease : Release) (ts : Timestamp) (db : Database) (hs : db.snapshot = none) :
    publishGrayscale dump namespaceId releaseNote operatorId percentage whitelist outRelease ts
        noFaults db = (.ok (false, outRelease), db) := by
  obtain ⟨t, snapshot⟩ := db
  cases hs
  have hopen := publishRelease_run_open namespaceId releaseNote operatorId ts
    { tables := t, snapshot := some t } rfl
  simp [publishGrayscale, noFaults] at hopen ⊢
  simp [hopen]

end ConfigCenter.Publish.PublishEngine

namespace ConfigCenter.Storage
open ConfigCenter.Base

/-- The release with this id is active. -/
def Tables.Active (t : Tables) (releaseId : Int) : Prop :=
  ∃ r ∈ t.releases.rows, r.id = releaseId ∧ r.status = "active"

instance (t : Tables) (releaseId : Int) : Decidable (t.Active releaseId) :=
  inferInstanceAs (Decidable (∃ r ∈ t.releases.rows, r.id = releaseId ∧ r.status = "active"))

/-- `set(status = "retired")` on a release. -/
def Release.retired (r : Release) : Release := { r with status := "retired" }

/-- A retired release keeps its id. -/
theorem Release.id_retired (r : Release) : r.retired.id = r.id := rfl

/-- The tables after the release with this id is retired. -/
def Tables.retire (t : Tables) (releaseId : Int) : Tables :=
  { t with
    releases := t.releases.mapWhere (fun r ↦ r.id = releaseId) Release.retired
      Release.id_retired }

end ConfigCenter.Storage

namespace ConfigCenter.Publish.PublishEngine
open ConfigCenter.Storage ConfigCenter.Base StorageM

/-- The failure pattern in which at most the insertion of a release throws. -/
def insertFault (fails : Bool) : Faults := fun c ↦ fails && c = .insert .releases

private theorem getRelease_run (releaseId : Int) (fails : Bool) (db : Database) :
    SqliteConfigStore.getRelease releaseId (insertFault fails) db =
      (.ok (db.tables.releases.find? releaseId), db) := by
  simp [SqliteConfigStore.getRelease, insertFault, SerialTable.find?, List.head?_filter]

private theorem find?_of_active {t : Tables} {releaseId : Int} (h : t.Active releaseId) :
    ∃ r, t.releases.find? releaseId = some r ∧ r.status = "active" := by
  obtain ⟨r, hr, hid, hactive⟩ := h
  exact ⟨r, (SerialTable.find?_eq_some_iff _ _ _).mpr ⟨hr, hid⟩, hactive⟩

/-- A rollout of an active release retires it and then adds the rollout's record, unless this
insertion fails; a rollout of any other id changes nothing. -/
theorem fullRollout_run (namespaceId operatorId : String) (releaseId : Int) (fails : Bool)
    (db : Database) :
    fullRollout namespaceId operatorId releaseId (insertFault fails) db =
      if db.tables.Active releaseId then
        (.ok !fails, { db with
          tables := if fails then db.tables.retire releaseId
            else (db.tables.retire releaseId).addRelease
              (rolloutRelease namespaceId operatorId releaseId) })
      else (.ok false, db) := by
  simp only [fullRollout, bind_run, getRelease_run]
  split
  · next h =>
    obtain ⟨r, hfind, hactive⟩ := find?_of_active h
    simp only [hfind, hactive]
    cases fails <;>
      simp [SqliteConfigStore.retireRelease, SqliteConfigStore.createRelease, insertRelease,
        insertFault] <;> rfl
  · next h =>
    cases hf : db.tables.releases.find? releaseId with
    | none => rfl
    | some r =>
      obtain ⟨hr, hid⟩ := (SerialTable.find?_eq_some_iff _ _ _).mp hf
      have hstatus : r.status ≠ "active" := fun hactive ↦ h ⟨r, hr, hid, hactive⟩
      simp [hstatus]

/-- A rollout of an active release retires it and adds the rollout's record. -/
theorem fullRollout_run_of_active {namespaceId operatorId : String} {releaseId : Int}
    {db : Database} (h : db.tables.Active releaseId) :
    fullRollout namespaceId operatorId releaseId noFaults db =
      (.ok true, { db with
        tables := (db.tables.retire releaseId).addRelease
          (rolloutRelease namespaceId operatorId releaseId) }) :=
  (fullRollout_run namespaceId operatorId releaseId false db).trans (if_pos h)

/-- A rollout of any other id changes nothing. -/
theorem fullRollout_run_of_not_active {namespaceId operatorId : String} {releaseId : Int}
    {db : Database} (h : ¬ db.tables.Active releaseId) :
    fullRollout namespaceId operatorId releaseId noFaults db = (.ok false, db) :=
  (fullRollout_run namespaceId operatorId releaseId false db).trans (if_neg h)

end ConfigCenter.Publish.PublishEngine
