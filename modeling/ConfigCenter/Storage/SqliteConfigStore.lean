import ConfigCenter.Storage.Database

/-!
# The SQLite configuration store

Library `Storage`. Operations of `src/storage/sqlite_config_store.cpp`, statement
by statement, over the connection of `Storage.Database`. Every operation that
reads the clock takes the text of `getTimestamp` as an argument. The mutex makes
each operation one atomic step, `rollbackConfig` apart: it is two of them.
-/

namespace ConfigCenter.Storage.SqliteConfigStore
open ConfigCenter.Base StorageM

/-- `healthCheck`, `sqlite_config_store.cpp:29–37`; reading the allocator is no storage call. -/
def healthCheck : StorageM Bool := return true

/-! ### Applications and namespaces -/

/-- `createApplication`, `sqlite_config_store.cpp:40–48`. -/
def createApplication (app : Application) : StorageM Bool := succeeds (insertApplication app)

/-- `getApplication`, `sqlite_config_store.cpp:50–55`. -/
def getApplication (appId : String) : StorageM (Option Application) := do
  let results ← getAll .applications (·.applications.rows) (fun a ↦ a.appId = appId)
  return results.head?

/-- `listApplications`, `sqlite_config_store.cpp:57–60`. -/
def listApplications : StorageM (List Application) :=
  getAll .applications (·.applications.rows) (fun _ ↦ true)

/-- `deleteApplication`, `sqlite_config_store.cpp:62–66`. Removing a row that a
namespace references violates the foreign key and throws out of the method. -/
def deleteApplication (appId : String) : StorageM Bool := do
  call (.removeAll .applications)
  let t ← getTables
  if (t.applications.find? appId).isSome && t.namespaces.rows.any (·.appId = appId) then
    throw .constraint
  else
    setTables
      { t with applications := t.applications.removeWhere (fun a ↦ a.appId = appId) }
    return true

/-- `createNamespace`, `sqlite_config_store.cpp:69–77`. -/
def createNamespace (ns : Namespace) : StorageM Bool := succeeds (insertNamespace ns)

/-- `getNamespace`, `sqlite_config_store.cpp:79–84`. -/
def getNamespace (nsId : String) : StorageM (Option Namespace) := do
  let results ← getAll .namespaces (·.namespaces.rows) (fun n ↦ n.id = nsId)
  return results.head?

/-- `listNamespaces`, `sqlite_config_store.cpp:86–91`. -/
def listNamespaces (appId env cluster : String) : StorageM (List Namespace) :=
  getAll .namespaces (·.namespaces.rows)
    (fun n ↦ n.appId = appId ∧ n.env = env ∧ n.cluster = cluster)

/-- `deleteNamespace`, `sqlite_config_store.cpp:93–97`. -/
def deleteNamespace (nsId : String) : StorageM Bool := do
  modify (.removeAll .namespaces) fun t ↦
    { t with namespaces := t.namespaces.removeWhere (fun n ↦ n.id = nsId) }
  return true

/-! ### Configurations -/

/-- `where(namespace_id == … && key == …)`. -/
def atKey (namespaceId key : String) (c : ConfigKey) : Bool :=
  c.namespaceId = namespaceId ∧ c.key = key

/-- A selection by namespace and key returns the one row stored there, if any. -/
theorem filter_atKey (configs : KeyedTable ConfigKey.primaryKey) (namespaceId key : String) :
    configs.rows.filter (atKey namespaceId key) = (configs.find? (namespaceId, key)).toList := by
  rw [← KeyedTable.filter_key]
  apply List.filter_congr
  intro c _
  simp [atKey, ConfigKey.primaryKey, Prod.ext_iff]

/-- `createConfig`, `sqlite_config_store.cpp:100–141`. -/
def createConfig (namespaceId key value operatorId : String) (ts : Timestamp) :
    StorageM Bool := do
  let inserted ← succeeds <| insertConfig
    { namespaceId, key, value, version := 1, status := .draft, createdAt := ts, updatedAt := ts }
  if !inserted then
    return false
  insertConfigVersion
    { version := 1, configId := makeConfigId namespaceId key, value, changeType := .create,
      operatorId, createdAt := ts }
  insertChangeLog
    { configId := makeConfigId namespaceId key, namespaceId, key, version := 1,
      newValue := value, operation := .create, operatorId, createdAt := ts }
  return true

/-- `updateConfig`, `sqlite_config_store.cpp:143–184`. -/
def updateConfig (namespaceId key value operatorId : String) (draft : Bool) (ts : Timestamp) :
    StorageM Bool := do
  let results ← getAll .configs (·.configs.rows) (atKey namespaceId key)
  match results with
  | [] => return false
  | config :: _ =>
    let oldValue := config.value
    let newVersion := config.version + 1
    updateConfigRow
      { config with
        value, version := newVersion, status := if draft then .draft else .live,
        updatedAt := ts }
    insertConfigVersion
      { version := newVersion, configId := makeConfigId namespaceId key, value,
        changeType := .update, operatorId, createdAt := ts }
    insertChangeLog
      { configId := makeConfigId namespaceId key, namespaceId, key, version := newVersion,
        oldValue, newValue := value, operation := .update, operatorId, createdAt := ts }
    return true

/-- `deleteConfig`, `sqlite_config_store.cpp:186–210`. A draft deletion removes the
row only while it is a draft; the log row is written in any case. -/
def deleteConfig (namespaceId key operatorId : String) (draft : Bool) (ts : Timestamp) :
    StorageM Bool := do
  if draft then
    removeConfigs (fun c ↦ atKey namespaceId key c && c.status = .draft)
  else
    removeConfigs (atKey namespaceId key)
  insertChangeLog
    { configId := makeConfigId namespaceId key, namespaceId, key, operation := .delete,
      operatorId, createdAt := ts }
  return true

/-- `getConfig`, `sqlite_config_store.cpp:212–224`. -/
def getConfig (namespaceId key : String) (includeDraft : Bool) :
    StorageM (Option ConfigKey) := do
  let results ← getAll .configs (·.configs.rows) (atKey namespaceId key)
  match results with
  | [] => return none
  | config :: _ =>
    if !includeDraft && config.status = .draft then
      return none
    return some config

/-- `listConfigs`, `sqlite_config_store.cpp:226–236`. -/
def listConfigs (namespaceId : String) (includeDraft : Bool) : StorageM (List ConfigKey) := do
  let results ← getAll .configs (·.configs.rows) (fun c ↦ c.namespaceId = namespaceId)
  if includeDraft then
    return results
  return results.filter (fun c ↦ !(c.status = .draft))

/-! ### Versions and change history -/

/-- `getConfigVersions`, `sqlite_config_store.cpp:239–244`. -/
def getConfigVersions (namespaceId key : String) : StorageM (List ConfigVersion) := do
  let results ← getAll .configVersions (·.configVersions)
    (fun v ↦ v.configId = makeConfigId namespaceId key)
  return orderByDesc ConfigVersion.version results

/-- `getConfigVersion`, `sqlite_config_store.cpp:246–254`: the first match. -/
def getConfigVersion (namespaceId key : String) (version : Int32) :
    StorageM (Option ConfigVersion) := do
  let results ← getAll .configVersions (·.configVersions)
    (fun v ↦ v.configId = makeConfigId namespaceId key ∧ v.version = version)
  return results.head?

/-- `rollbackConfig`, `sqlite_config_store.cpp:256–262`: two locked sections. -/
def rollbackConfig (namespaceId key : String) (targetVersion : Int32) (operatorId : String)
    (ts : Timestamp) : StorageM Bool := do
  let target ← getConfigVersion namespaceId key targetVersion
  match target with
  | none => return false
  | some v => updateConfig namespaceId key v.value operatorId true ts

/-- One optional condition of `getChangeHistory`. -/
def optionally {α : Type} (filter : Option α) (p : α → Bool) : Bool :=
  match filter with
  | none => true
  | some a => p a

/-- The where clause that `getChangeHistory` builds, `sqlite_config_store.cpp:268–281`. -/
def changeLogMatches (query : ChangeLogQuery) (l : ChangeLog) : Bool :=
  optionally query.key (fun k ↦ l.key = k) &&
  optionally query.namespaceId (fun n ↦ l.namespaceId = n) &&
  optionally query.timeFrom (fun t ↦ t ≤ l.createdAt) &&
  optionally query.timeTo (fun t ↦ l.createdAt ≤ t)

/-- `getChangeHistory`, `sqlite_config_store.cpp:265–287`; the offset is `int`
arithmetic. -/
def getChangeHistory (query : ChangeLogQuery) : StorageM (List ChangeLog) := do
  let results ← getAll .changeLogs (·.changeLogs.rows) (changeLogMatches query)
  return window query.pageSize ((query.page - 1) * query.pageSize)
    (orderByDesc ChangeLog.createdAt results)

/-! ### Releases and publishing -/

/-- `createRelease`, `sqlite_config_store.cpp:290–299`, with the updated argument. -/
def createRelease (release : Release) : StorageM (Bool × Release) :=
  tryCatch
    (do
      let id ← insertRelease release
      return (true, { release with id }))
    (return (false, release))

/-- `getReleases`, `sqlite_config_store.cpp:301–308`. -/
def getReleases (query : ReleaseQuery) : StorageM (List Release) := do
  let results ← getAll .releases (·.releases.rows)
    (fun r ↦ r.namespaceId = query.namespaceId)
  return window query.pageSize ((query.page - 1) * query.pageSize)
    (orderByDesc Release.createdAt results)

/-- `getRelease`, `sqlite_config_store.cpp:310–315`. -/
def getRelease (releaseId : Int) : StorageM (Option Release) := do
  let results ← getAll .releases (·.releases.rows) (fun r ↦ r.id = releaseId)
  return results.head?

/-- `retireRelease`, `sqlite_config_store.cpp:317–322`. -/
def retireRelease (releaseId : Int) : StorageM Bool := do
  modify (.updateAll .releases) fun t ↦
    { t with
      releases := t.releases.mapWhere (fun r ↦ r.id = releaseId)
        (fun r ↦ { r with status := "retired" }) (fun _ ↦ rfl) }
  return true

/-- The release row that `publishRelease` builds, `sqlite_config_store.cpp:347–354`. -/
def publishedRelease (namespaceId releaseNote operatorId : String) (maxVersion : Int32)
    (ts : Timestamp) : Release :=
  { namespaceId, releaseVersion := maxVersion + 1, releaseNote, releaseType := "full",
    status := "active", operatorId, createdAt := ts }

/-- `maxVersion` of `publishRelease`, `sqlite_config_store.cpp:339–345`: 0, or the
version of the one row that `ORDER BY release_version DESC LIMIT 1` returns. -/
def maxReleaseVersion (all : List Release) : Int32 :=
  match (orderByDesc Release.releaseVersion all).take 1 with
  | [] => 0
  | r :: _ => r.releaseVersion

/-- The `try` block of `publishRelease` up to the assignment of `outRelease`,
`sqlite_config_store.cpp:332–358`. -/
def prepareRelease (namespaceId releaseNote operatorId : String) (ts : Timestamp) :
    StorageM Release := do
  let _draftConfigs ← getAll .configs (·.configs.rows)
    (fun c ↦ c.namespaceId = namespaceId ∧ c.status = .draft)
  setConfigStatus namespaceId .live
  let all ← getAll .releases (·.releases.rows) (fun r ↦ r.namespaceId = namespaceId)
  let release :=
    publishedRelease namespaceId releaseNote operatorId (maxReleaseVersion all) ts
  let id ← insertRelease release
  return { release with id }

/-- `publishRelease`, `sqlite_config_store.cpp:325–365`, with what it assigned to
`outRelease`. `BEGIN` stands before the `try` block, so its exception leaves the
method; any later one ends in the handler, also when `outRelease` is already set. -/
def publishRelease (namespaceId releaseNote operatorId : String) (ts : Timestamp) :
    StorageM (Bool × Option Release) := do
  let _ ← beginTransaction
  let outRelease ← tryCatch (some <$> prepareRelease namespaceId releaseNote operatorId ts)
    (pure none)
  let committed ← match outRelease with
    | some _ => tryCatch commitTransaction (pure false)
    | none => pure false
  if !committed then
    let _ ← rollbackTransaction
    return (false, outRelease)
  return (true, outRelease)

/-! ### Approvals and users -/

/-- `createApproval`, `sqlite_config_store.cpp:368–377`, with the updated argument. -/
def createApproval (approval : Approval) : StorageM (Bool × Approval) :=
  tryCatch
    (do
      let id ← insertApproval approval
      return (true, { approval with id }))
    (return (false, approval))

/-- `updateApprovalStatus`, `sqlite_config_store.cpp:379–385`. -/
def updateApprovalStatus (approvalId : Int) (status comment : String) (ts : Timestamp) :
    StorageM Bool := do
  modify (.updateAll .approvals) fun t ↦
    { t with
      approvals := t.approvals.mapWhere (fun a ↦ a.id = approvalId)
        (fun a ↦ { a with status, comment, updatedAt := ts }) (fun _ ↦ rfl) }
  return true

/-- `getPendingApprovals`, `sqlite_config_store.cpp:387–391`. -/
def getPendingApprovals (namespaceId : String) : StorageM (List Approval) :=
  getAll .approvals (·.approvals.rows)
    (fun a ↦ a.namespaceId = namespaceId ∧ a.status = "pending")

/-- `createUser`, `sqlite_config_store.cpp:394–402`. -/
def createUser (user : User) : StorageM Bool := succeeds (insertUser user)

/-- `getUserByUsername`, `sqlite_config_store.cpp:404–409`. -/
def getUserByUsername (username : String) : StorageM (Option User) := do
  let results ← getAll .users (·.users.rows) (fun u ↦ u.username = username)
  return results.head?

/-- `listUsers`, `sqlite_config_store.cpp:411–414`. -/
def listUsers : StorageM (List User) := getAll .users (·.users.rows) (fun _ ↦ true)

end ConfigCenter.Storage.SqliteConfigStore
