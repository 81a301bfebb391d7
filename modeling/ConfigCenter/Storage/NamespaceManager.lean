import ConfigCenter.Storage.Ledger

/-!
# Applications, namespaces and inherited lookup

Library `Storage`. Operations of `src/storage/namespace_manager.cpp` over the SQLite
store. `NamespaceManager::resolveConfig` falls back to the parent namespace as long
as a published row is missing. Parents are free text, so the recursion need not
end; `fuel` bounds the number of levels it may visit.
-/

namespace ConfigCenter.Storage
open ConfigCenter.Base StorageM

/-- `getApplication` looks the id up. -/
theorem getApplication_run (appId : String) (db : Database) :
    SqliteConfigStore.getApplication appId noFaults db =
      (.ok (db.tables.applications.find? appId), db) := by
  simp [SqliteConfigStore.getApplication, noFaults, KeyedTable.find?, List.head?_filter]

/-- `getNamespace` looks the id up. -/
theorem getNamespace_run (nsId : String) (db : Database) :
    SqliteConfigStore.getNamespace nsId noFaults db =
      (.ok (db.tables.namespaces.find? nsId), db) := by
  simp [SqliteConfigStore.getNamespace, noFaults, KeyedTable.find?, List.head?_filter]

/-- `deleteApplication` is refused for an application that a namespace references. -/
theorem deleteApplication_run (appId : String) (db : Database) :
    SqliteConfigStore.deleteApplication appId noFaults db =
      if (db.tables.applications.find? appId).isSome &&
          db.tables.namespaces.rows.any (·.appId = appId) then (.error .constraint, db)
      else (.ok true, { db with tables :=
        { db.tables with
          applications := db.tables.applications.removeWhere (fun a ↦ a.appId = appId) } }) := by
  simp only [SqliteConfigStore.deleteApplication, bind_run, call_run, getTables_run, noFaults,
    Bool.false_eq_true, if_false]
  cases (db.tables.applications.find? appId).isSome &&
    db.tables.namespaces.rows.any (·.appId = appId) <;> rfl

/-- `listNamespaces` scans for the application, the environment and the cluster. -/
theorem listNamespaces_run (appId env cluster : String) (db : Database) :
    SqliteConfigStore.listNamespaces appId env cluster noFaults db =
      (.ok (db.tables.namespaces.rows.filter
        (fun n ↦ n.appId = appId ∧ n.env = env ∧ n.cluster = cluster)), db) := by
  simp [SqliteConfigStore.listNamespaces, noFaults]

end ConfigCenter.Storage

namespace ConfigCenter.Storage.NamespaceManager
open ConfigCenter.Base StorageM

/-- `makeNamespaceId`, `namespace_manager.cpp:26–29`. -/
def makeNamespaceId (appId env cluster name : String) : String :=
  appId ++ "/" ++ env ++ "/" ++ cluster ++ "/" ++ name

/-- `registerApplication`, `namespace_manager.cpp:32–43`. -/
def registerApplication (appId name : String) (description : Option String) (ts : Timestamp) :
    StorageM Bool := do
  let existing ← SqliteConfigStore.getApplication appId
  if existing.isSome then
    return false
  SqliteConfigStore.createApplication { appId, name, description, createdAt := ts }

/-- `removeApplication`, `namespace_manager.cpp:45–47`. -/
def removeApplication (appId : String) : StorageM Bool :=
  SqliteConfigStore.deleteApplication appId

/-- `listApplications`, `namespace_manager.cpp:49–51`. -/
def listApplications : StorageM (List Application) := SqliteConfigStore.listApplications

/-- `getApplication`, `namespace_manager.cpp:53–55`. -/
def getApplication (appId : String) : StorageM (Option Application) :=
  SqliteConfigStore.getApplication appId

/-- `createCluster`, `namespace_manager.cpp:76–93`: a cluster is the namespaces in it, so a
new one gets a namespace `application`. -/
def createCluster (appId env cluster : String) (ts : Timestamp) : StorageM Bool := do
  let app ← SqliteConfigStore.getApplication appId
  if app.isNone then
    return false
  let existing ← SqliteConfigStore.listNamespaces appId env cluster
  if !existing.isEmpty then
    return true
  SqliteConfigStore.createNamespace
    { id := makeNamespaceId appId env cluster "application", appId, env, cluster,
      name := "application", type := "private", parentNamespaceId := none,
      approvalEnabled := none, createdAt := ts }

/-- The clusters that the loop of `listClusters` collects, `namespace_manager.cpp:97–102`. -/
def collectClusters (namespaces : List Namespace) : List String :=
  namespaces.foldl
    (fun clusters ns ↦ if ns.cluster ∈ clusters then clusters else clusters ++ [ns.cluster]) []

/-- `listClusters`, `namespace_manager.cpp:95–107`. The scan asks for the cluster `""`. -/
def listClusters (appId env : String) : StorageM (List String) := do
  let namespaces ← SqliteConfigStore.listNamespaces appId env ""
  let clusters := collectClusters namespaces
  return if clusters.isEmpty then ["default"] else clusters

/-- `createNamespace`, `namespace_manager.cpp:110–127`. -/
def createNamespace (appId env cluster name type : String) (parentNamespaceId : Option String)
    (ts : Timestamp) : StorageM Bool := do
  let app ← SqliteConfigStore.getApplication appId
  if app.isNone then
    return false
  SqliteConfigStore.createNamespace
    { id := makeNamespaceId appId env cluster name, appId, env, cluster, name, type,
      parentNamespaceId, approvalEnabled := some false, createdAt := ts }

/-- `deleteNamespace`, `namespace_manager.cpp:129–131`. -/
def deleteNamespace (namespaceId : String) : StorageM Bool :=
  SqliteConfigStore.deleteNamespace namespaceId

/-- `getNamespace`, `namespace_manager.cpp:133–135`. -/
def getNamespace (namespaceId : String) : StorageM (Option Namespace) :=
  SqliteConfigStore.getNamespace namespaceId

/-- `kKeyNamePattern`, `namespace_manager.cpp:12`: letters, digits and `._-`. -/
def isKeyChar (c : Char) : Bool := c.isAlphanum || c = '.' || c = '_' || c = '-'

/-- `validateKeyName`, `namespace_manager.cpp:158–172`: the error, or nothing where the key is
accepted. -/
def validateKeyName (key : String) : Option String :=
  if key = "" then some "Key name cannot be empty"
  else if 128 < key.utf8ByteSize then
    some "Key name exceeds maximum length of 128 characters"
  else if !key.toList.all isKeyChar then
    some "Key name contains invalid characters. Allowed: [a-zA-Z0-9._-]"
  else none

/-- `resolveConfig`, `namespace_manager.cpp:143–155`: nothing while the recursion has
not ended after `fuel` levels. -/
def resolveConfig : Nat → String → String → StorageM (Option (Option ConfigKey))
  | 0, _, _ => return none
  | fuel + 1, namespaceId, key => do
    let config ← SqliteConfigStore.getConfig namespaceId key false
    match config with
    | some c => return some (some c)
    | none =>
      let ns ← SqliteConfigStore.getNamespace namespaceId
      match ns with
      | none => return some none
      | some n =>
        match n.parentNamespaceId with
        | none => return some none
        | some parent => resolveConfig fuel parent key

/-- An accepted key is a single path segment. -/
theorem slash_notMem_of_validateKeyName {key : String} (h : validateKeyName key = none) :
    '/' ∉ key.toList := by
  unfold validateKeyName at h
  split at h
  · cases h
  · split at h
    · cases h
    · split at h
      · cases h
      · next hall =>
        intro hmem
        have hchar := List.all_eq_true.mp (by simpa using hall) '/' hmem
        exact absurd hchar (by decide)

/-- Lookups depend on the published rows and the stored namespaces alone. -/
theorem resolveConfig_congr {db db' : Database}
    (hc : ∀ n k, db'.ledger.config? n k false = db.ledger.config? n k false)
    (hn : db'.tables.namespaces = db.tables.namespaces) (fuel : Nat) (namespaceId key : String) :
    (resolveConfig fuel namespaceId key noFaults db').1 =
      (resolveConfig fuel namespaceId key noFaults db).1 := by
  induction fuel generalizing namespaceId with
  | zero => rfl
  | succ fuel ih =>
    simp only [resolveConfig, bind_run, getConfig_run, hc]
    cases db.ledger.config? namespaceId key false with
    | some c => rfl
    | none =>
      simp only [bind_run, getNamespace_run, hn]
      cases db.tables.namespaces.find? namespaceId with
      | none => rfl
      | some n =>
        cases hp : n.parentNamespaceId with
        | none => simp [hp]
        | some parent => simpa [hp] using ih parent

end ConfigCenter.Storage.NamespaceManager
