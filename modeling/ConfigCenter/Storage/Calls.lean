import ConfigCenter.Base.Run
import ConfigCenter.Storage.SqliteConfigStore

/-!
# The store as a state machine

Library `Storage`. Every public method of `SqliteConfigStore` as a call with its
arguments and the response it gives. A step runs one call at one clock reading
with no storage failure other than constraint violations; a call that throws
answers with the exception and keeps what it had written.
-/

namespace ConfigCenter.Storage
open ConfigCenter.Base

/-- Public methods of `SqliteConfigStore`, `sqlite_config_store.h:89–153`. -/
inductive Call where
  | createApplication (app : Application)
  | getApplication (appId : String)
  | listApplications
  | deleteApplication (appId : String)
  | createNamespace (ns : Namespace)
  | getNamespace (nsId : String)
  | listNamespaces (appId env cluster : String)
  | deleteNamespace (nsId : String)
  | createConfig (namespaceId key value operatorId : String)
  | updateConfig (namespaceId key value operatorId : String) (draft : Bool)
  | deleteConfig (namespaceId key operatorId : String) (draft : Bool)
  | getConfig (namespaceId key : String) (includeDraft : Bool)
  | listConfigs (namespaceId : String) (includeDraft : Bool)
  | getConfigVersions (namespaceId key : String)
  | getConfigVersion (namespaceId key : String) (version : Int32)
  | rollbackConfig (namespaceId key : String) (targetVersion : Int32) (operatorId : String)
  | getChangeHistory (query : ChangeLogQuery)
  | createRelease (release : Release)
  | getReleases (query : ReleaseQuery)
  | getRelease (releaseId : Int)
  | retireRelease (releaseId : Int)
  | publishRelease (namespaceId releaseNote operatorId : String)
  | createApproval (approval : Approval)
  | updateApprovalStatus (approvalId : Int) (status comment : String)
  | getPendingApprovals (namespaceId : String)
  | createUser (user : User)
  | getUserByUsername (username : String)
  | listUsers
  | beginTransaction
  | commitTransaction
  | rollbackTransaction
  deriving DecidableEq, Repr

/-- What a call answers: its return value with its output argument, or an exception. -/
inductive Response where
  | bool (ok : Bool)
  | application (app : Option Application)
  | applications (apps : List Application)
  | namespaceRow (ns : Option Namespace)
  | namespaces (nss : List Namespace)
  | config (config : Option ConfigKey)
  | configs (configs : List ConfigKey)
  | version (version : Option ConfigVersion)
  | versions (versions : List ConfigVersion)
  | changeLogs (logs : List ChangeLog)
  | release (release : Option Release)
  | releases (releases : List Release)
  | outRelease (ok : Bool) (release : Option Release)
  | outApproval (ok : Bool) (approval : Approval)
  | approvals (approvals : List Approval)
  | user (user : Option User)
  | users (users : List User)
  | thrown (e : Thrown)
  deriving DecidableEq, Repr

/-- Run the method a call names, at one clock reading. -/
def Call.exec (ts : Timestamp) : Call → StorageM Response
  | .createApplication app => .bool <$> SqliteConfigStore.createApplication app
  | .getApplication appId => .application <$> SqliteConfigStore.getApplication appId
  | .listApplications => .applications <$> SqliteConfigStore.listApplications
  | .deleteApplication appId => .bool <$> SqliteConfigStore.deleteApplication appId
  | .createNamespace ns => .bool <$> SqliteConfigStore.createNamespace ns
  | .getNamespace nsId => .namespaceRow <$> SqliteConfigStore.getNamespace nsId
  | .listNamespaces appId env cluster =>
    .namespaces <$> SqliteConfigStore.listNamespaces appId env cluster
  | .deleteNamespace nsId => .bool <$> SqliteConfigStore.deleteNamespace nsId
  | .createConfig ns key value op => .bool <$> SqliteConfigStore.createConfig ns key value op ts
  | .updateConfig ns key value op draft =>
    .bool <$> SqliteConfigStore.updateConfig ns key value op draft ts
  | .deleteConfig ns key op draft => .bool <$> SqliteConfigStore.deleteConfig ns key op draft ts
  | .getConfig ns key includeDraft => .config <$> SqliteConfigStore.getConfig ns key includeDraft
  | .listConfigs ns includeDraft => .configs <$> SqliteConfigStore.listConfigs ns includeDraft
  | .getConfigVersions ns key => .versions <$> SqliteConfigStore.getConfigVersions ns key
  | .getConfigVersion ns key version =>
    .version <$> SqliteConfigStore.getConfigVersion ns key version
  | .rollbackConfig ns key target op =>
    .bool <$> SqliteConfigStore.rollbackConfig ns key target op ts
  | .getChangeHistory query => .changeLogs <$> SqliteConfigStore.getChangeHistory query
  | .createRelease release =>
    (fun r ↦ .outRelease r.1 (some r.2)) <$> SqliteConfigStore.createRelease release
  | .getReleases query => .releases <$> SqliteConfigStore.getReleases query
  | .getRelease releaseId => .release <$> SqliteConfigStore.getRelease releaseId
  | .retireRelease releaseId => .bool <$> SqliteConfigStore.retireRelease releaseId
  | .publishRelease ns note op =>
    (fun r ↦ .outRelease r.1 r.2) <$> SqliteConfigStore.publishRelease ns note op ts
  | .createApproval approval =>
    (fun r ↦ .outApproval r.1 r.2) <$> SqliteConfigStore.createApproval approval
  | .updateApprovalStatus approvalId status comment =>
    .bool <$> SqliteConfigStore.updateApprovalStatus approvalId status comment ts
  | .getPendingApprovals ns => .approvals <$> SqliteConfigStore.getPendingApprovals ns
  | .createUser user => .bool <$> SqliteConfigStore.createUser user
  | .getUserByUsername username => .user <$> SqliteConfigStore.getUserByUsername username
  | .listUsers => .users <$> SqliteConfigStore.listUsers
  | .beginTransaction => .bool <$> Storage.beginTransaction
  | .commitTransaction => .bool <$> Storage.commitTransaction
  | .rollbackTransaction => .bool <$> Storage.rollbackTransaction

/-- A computation's value, or its exception as a response. -/
def Response.ofExcept : Except Thrown Response → Response
  | .ok r => r
  | .error e => .thrown e

/-- A call at the clock reading it saw. -/
abbrev Event := Timestamp × Call

/-- The answer and the database after one call without storage failures. -/
def respond (db : Database) (e : Event) : Response × Database :=
  let r := Call.exec e.1 e.2 noFaults db
  (.ofExcept r.1, r.2)

/-- The database after one call. -/
def step (db : Database) (e : Event) : Database := (respond db e).2

end ConfigCenter.Storage
