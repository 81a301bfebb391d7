import ConfigCenter.Base.ResourcePool
import ConfigCenter.Storage.MysqlConfigStore
import ConfigCenter.Storage.SqlStatements

/-!
# The MySQL store and its connection pool

Library `Storage`. Every operation of `mysql_config_store.cpp` with the calls of
`acquire` and `release` where the source has them, over a driver: the virtual
methods of `MysqlConnection`, which the repository does not implement. A driver
returns whatever it likes; it does not throw. Conversions by `std::stoi` and
`std::stoll` throw, and nothing gives a connection back on the way out.
-/

namespace ConfigCenter.Storage

/-! ### Drivers -/

/-- What is sent over a connection. -/
inductive Sql where
  /-- `CREATE TABLE IF NOT EXISTS`, `mysql_config_store.cpp:93–195`. -/
  | createTable (name : String)
  /-- `mysql_config_store.cpp:240`. -/
  | selectApplications
  /-- `mysql_config_store.cpp:789`. -/
  | selectUsers
  /-- `mysql_config_store.cpp:576,682,712`. -/
  | lastInsertId
  | built (st : SqlStatement)

/-- Arguments of `MysqlConnection::connect`, members of the store. -/
structure ConnectionSettings where
  host : String := ""
  port : UInt16 := 3306
  user : String := ""
  password : String := ""
  database : String := ""
  deriving DecidableEq, Repr

/-- `MysqlConnection`, `mysql_config_store.h:14–26`; connections have numbers, and `δ` is the
state of everything beyond them. -/
structure Driver (δ : Type) where
  connect : Nat → ConnectionSettings → δ → Bool × δ
  execute : Nat → Sql → δ → Bool × δ
  query : Nat → Sql → δ → List (List String) × δ
  beginTransaction : Nat → δ → Bool × δ
  commit : Nat → δ → Bool × δ
  rollback : Nat → δ → Bool × δ
  isConnected : Nat → δ → Bool × δ
  close : Nat → δ → Unit × δ

/-- The members of the store beside the pool, the number of connections made so far, and the
state behind the driver. -/
structure Backend (δ : Type) where
  settings : ConnectionSettings := {}
  made : Nat := 0
  server : δ

/-- A store with the connections that its pool holds. -/
abbrev MysqlStore (δ : Type) := Base.Pooled Nat (Backend δ)

/-- Operations of the store. -/
abbrev StoreM (δ α : Type) := Base.PoolM Nat (Backend δ) Thrown α

end ConfigCenter.Storage

namespace ConfigCenter.Storage.MysqlConnectionPool
open ConfigCenter.Base PoolM MysqlConfigStore

variable {δ : Type}

/-- A call of the driver. -/
def perform {α : Type} (f : δ → α × δ) : StoreM δ α :=
  outside fun b ↦ ((f b.server).1, { b with server := (f b.server).2 })

variable (driver : Driver δ)

/-- `conn->execute(sql)`. -/
def executeOn (conn : Nat) (st : SqlStatement) : StoreM δ Bool :=
  perform (driver.execute conn (.built st))

/-- `conn->query(sql, rows)`; its own result is ignored everywhere. -/
def queryOn (conn : Nat) (sql : Sql) : StoreM δ (List (List String)) :=
  perform (driver.query conn sql)

/-- `std::stoll`, with the range of `int64_t`. -/
def stoll64 (text : String) : Except Thrown Int := do
  let n ← stoll text
  if -9223372036854775808 ≤ n ∧ n ≤ 9223372036854775807 then return n
  else .error .conversion

/-! ### Opening the pool -/

/-- `std::string::find` of a character, from a position on. -/
def findFrom (c : Char) (text : List Char) (start : Nat) : Option Nat :=
  ((text.drop start).findIdx? (· = c)).map (· + start)

/-- `std::string::substr`, up to the end where no length is given. -/
def substr (text : List Char) (start : Nat) (length : Option Nat) : List Char :=
  match length with
  | some n => (text.drop start).take n
  | none => text.drop start

/-- `host_` and `port_`, `mysql_config_store.cpp:69–76`; nothing where `std::stoi` throws. -/
def hostAndPort (text : List Char) (slashPos : Option Nat) : Except Thrown (String × UInt16) :=
  let host := substr text 0 slashPos
  match findFrom ':' host 0 with
  | some portStart => do
    let port ← stoi (String.ofList (substr host (portStart + 1) none))
    return (String.ofList (host.take portStart), port.toUInt32.toUInt16)
  | none => .ok (String.ofList host, 3306)

/-- The other members, `mysql_config_store.cpp:78–84`. A position that was not found is the
largest number, so that adding one to it gives zero. -/
def credentials (text : List Char) (slashPos atPos : Option Nat) (old : ConnectionSettings) :
    ConnectionSettings :=
  let start := slashPos.elim 0 (· + 1)
  let withUser := match findFrom ':' text start with
    | some colonUserPwd =>
      { old with
        user := String.ofList (substr text start (some (colonUserPwd - start)))
        password := String.ofList (substr text (colonUserPwd + 1)
          (atPos.bind fun a ↦ if colonUserPwd < a then some (a - colonUserPwd - 1) else none)) }
    | none => old
  { withUser with database := String.ofList (text.drop (atPos.elim 0 (· + 1))) }

/-- The number of connections that `initialize` asks for, `mysql_config_store.cpp:86`. -/
def poolSize : Nat := 10

/-- `MysqlConnectionPool::MysqlConnectionPool`, `mysql_config_store.cpp:12–20`, and the end of
the pool that it replaces, `mysql_config_store.cpp:22–28`. -/
def openPool (n : Nat) : StoreM δ Unit := fun s ↦
  let fresh := List.range' s.rest.made n
  let connected := fresh.foldl
    (fun server conn ↦ (driver.connect conn s.rest.settings server).2) s.rest.server
  let closed := s.pool.foldl (fun server conn ↦ (driver.close conn server).2) connected
  (.returned (), {
    pool := fresh
    rest := { s.rest with made := s.rest.made + n, server := closed } })

/-- Change the members of the store. -/
def setSettings (f : ConnectionSettings → ConnectionSettings) : StoreM δ Unit :=
  outside fun b ↦ ((), { b with settings := f b.settings })

/-- Tables in the order of `autoMigrate`. -/
def migratedTables : List String :=
  ["applications", "namespaces", "configs", "config_versions", "change_logs", "releases",
    "approvals", "users"]

/-- `autoMigrate`, `mysql_config_store.cpp:90–199`. -/
def autoMigrate : StoreM δ Bool := do
  let conn ← acquire
  perform fun server ↦ ((), migratedTables.foldl
    (fun server name ↦ (driver.execute conn (.createTable name) server).2) server)
  release conn
  return true

/-- `initialize`, `mysql_config_store.cpp:63–88`. The members are assigned as far as the source
gets. -/
def initializeStore (connectionString : String) : StoreM δ Bool := do
  let text := connectionString.toList
  let atPos := findFrom '@' text 0
  let slashPos := findFrom '/' text 0
  setSettings fun old ↦ { old with host := String.ofList (substr text 0 slashPos), port := 3306 }
  let (host, port) ← ofExcept (hostAndPort text slashPos)
  setSettings fun old ↦ credentials text slashPos atPos { old with host, port }
  openPool driver poolSize
  autoMigrate driver

/-- `healthCheck`, `mysql_config_store.cpp:201–206`. -/
def healthCheck : StoreM δ Bool := do
  let conn ← acquire
  let ok ← perform (driver.isConnected conn)
  release conn
  return ok

/-! ### Applications, namespaces and users -/

/-- An application from its columns, `mysql_config_store.cpp:229–233`. -/
def readApplication (row : List String) : Application where
  appId := cell row 0
  name := cell row 1
  description := optionalText (cell row 2)
  createdAt := cell row 3

/-- A namespace from its columns, `mysql_config_store.cpp:287–296`. -/
def readNamespace (row : List String) : Namespace where
  id := cell row 0
  appId := cell row 1
  env := cell row 2
  cluster := cell row 3
  name := cell row 4
  type := cell row 5
  parentNamespaceId := optionalText (cell row 6)
  approvalEnabled := (optionalText (cell row 7)).map fun text ↦ text = "1" || text = "true"
  createdAt := cell row 8

/-- A user from his columns, `mysql_config_store.cpp:777–783`. -/
def readUser (row : List String) : Except Thrown User := do
  let id ← stoll64 (cell row 0)
  return {
    id, username := cell row 1, passwordHash := cell row 2, role := cell row 3,
    createdAt := cell row 4 }

/-- An operation that is one statement and returns the driver's answer,
`mysql_config_store.cpp:209–218,255–260,263–275,328–333,757–765`. -/
def executeOnce (st : SqlStatement) : StoreM δ Bool := do
  let conn ← acquire
  let ok ← executeOn driver conn st
  release conn
  return ok

/-- `createApplication`, `mysql_config_store.cpp:209–218`. -/
def createApplication (app : Application) : StoreM δ Bool :=
  executeOnce driver (.insertApplication app.appId app.name app.description app.createdAt)

/-- `deleteApplication`, `mysql_config_store.cpp:255–260`. -/
def deleteApplication (appId : String) : StoreM δ Bool :=
  executeOnce driver (.deleteApplication appId)

/-- `createNamespace`, `mysql_config_store.cpp:263–275`. -/
def createNamespace (ns : Namespace) : StoreM δ Bool :=
  executeOnce driver (.insertNamespace ns.id ns.appId ns.env ns.cluster ns.name ns.type
    ns.parentNamespaceId ns.approvalEnabled ns.createdAt)

/-- `deleteNamespace`, `mysql_config_store.cpp:328–333`. -/
def deleteNamespace (nsId : String) : StoreM δ Bool :=
  executeOnce driver (.deleteNamespace nsId)

/-- `createUser`, `mysql_config_store.cpp:757–765`. -/
def createUser (user : User) : StoreM δ Bool :=
  executeOnce driver (.insertUser user.username user.passwordHash user.role user.createdAt)

/-- The rows of one query; the connection goes back before they are looked at. -/
def fetch (sql : Sql) : StoreM δ (List (List String)) := do
  let conn ← acquire
  let rows ← queryOn driver conn sql
  release conn
  return rows

/-- `rows.empty() ? nullopt : read(rows[0])`. -/
def readFirst {α : Type} (read : List String → Except Thrown α) :
    List (List String) → Except Thrown (Option α)
  | [] => .ok none
  | row :: _ => some <$> read row

/-- An operation that converts the first row of a query. -/
def fetchOne {α : Type} (sql : Sql) (read : List String → Except Thrown α) :
    StoreM δ (Option α) := do
  let rows ← fetch driver sql
  ofExcept (readFirst read rows)

/-- An operation that converts every row of a query. -/
def fetchAll {α : Type} (sql : Sql) (read : List String → Except Thrown α) :
    StoreM δ (List α) := do
  let rows ← fetch driver sql
  ofExcept (rows.mapM read)

/-- `getApplication`, `mysql_config_store.cpp:220–235`. -/
def getApplication (appId : String) : StoreM δ (Option Application) :=
  fetchOne driver (.built (.selectApplication appId)) fun row ↦ .ok (readApplication row)

/-- `listApplications`, `mysql_config_store.cpp:237–253`. -/
def listApplications : StoreM δ (List Application) :=
  fetchAll driver .selectApplications fun row ↦ .ok (readApplication row)

/-- `getNamespace`, `mysql_config_store.cpp:277–298`. -/
def getNamespace (nsId : String) : StoreM δ (Option Namespace) :=
  fetchOne driver (.built (.selectNamespace nsId)) fun row ↦ .ok (readNamespace row)

/-- `listNamespaces`, `mysql_config_store.cpp:300–326`. -/
def listNamespaces (appId env cluster : String) : StoreM δ (List Namespace) :=
  fetchAll driver (.built (.selectNamespaces appId env cluster)) fun row ↦ .ok (readNamespace row)

/-- `getUserByUsername`, `mysql_config_store.cpp:767–784`. -/
def getUserByUsername (username : String) : StoreM δ (Option User) :=
  fetchOne driver (.built (.selectUser username)) readUser

/-- `listUsers`, `mysql_config_store.cpp:786–803`. -/
def listUsers : StoreM δ (List User) := fetchAll driver .selectUsers readUser

/-! ### Configurations -/

/-- `createConfig`, `mysql_config_store.cpp:336–357`. -/
def createConfig (namespaceId key value operatorId : String) (ts : ClockReading) :
    StoreM δ Bool := do
  let conn ← acquire
  let configId := makeConfigId namespaceId key
  let _ ← executeOn driver conn (.insertConfig namespaceId key value ts)
  let _ ← executeOn driver conn (.insertFirstVersion configId value operatorId ts)
  let _ ← executeOn driver conn (.insertCreateLog configId namespaceId key value operatorId ts)
  release conn
  return true

/-- `updateConfig`, `mysql_config_store.cpp:359–395`. -/
def updateConfig (namespaceId key value operatorId : String) (draft : Bool) (ts : ClockReading) :
    StoreM δ Bool := do
  let conn ← acquire
  let configId := makeConfigId namespaceId key
  let rows ← queryOn driver conn (.built (.selectVersionAndValue namespaceId key))
  match rows with
  | [] =>
    release conn
    return false
  | row :: _ =>
    let oldVersion ← ofExcept (stoi (cell row 0))
    let oldValue := cell row 1
    let newVersion := oldVersion + 1
    let _ ← executeOn driver conn (.updateConfig value namespaceId key newVersion draft ts)
    let _ ← executeOn driver conn (.insertNextVersion configId value operatorId newVersion ts)
    let _ ← executeOn driver conn
      (.insertUpdateLog configId namespaceId key oldValue value operatorId newVersion ts)
    release conn
    return true

/-- `deleteConfig`, `mysql_config_store.cpp:397–418`. -/
def deleteConfig (namespaceId key operatorId : String) (draft : Bool) (ts : ClockReading) :
    StoreM δ Bool := do
  let conn ← acquire
  let configId := makeConfigId namespaceId key
  let _ ← executeOn driver conn (.deleteConfig namespaceId key draft)
  let _ ← executeOn driver conn (.insertDeleteLog configId namespaceId key operatorId ts)
  release conn
  return true

/-- The rows of `getConfig` after it hid a draft, `mysql_config_store.cpp:429–430`. -/
def visibleRows (includeDraft : Bool) (rows : List (List String)) : List (List String) :=
  match rows with
  | [] => []
  | row :: rest => if !includeDraft && cell row 4 = "draft" then [] else row :: rest

/-- `getConfig`, `mysql_config_store.cpp:420–441`. -/
def getConfig (namespaceId key : String) (includeDraft : Bool) : StoreM δ (Option ConfigKey) := do
  let rows ← fetch driver (.built (.selectConfig namespaceId key))
  ofExcept (readFirst readConfig (visibleRows includeDraft rows))

/-- `listConfigs`, `mysql_config_store.cpp:443–468`. -/
def listConfigs (namespaceId : String) (includeDraft : Bool) : StoreM δ (List ConfigKey) :=
  fetchAll driver (.built (.selectConfigs namespaceId includeDraft)) readConfig

/-- `getConfigVersions`, `mysql_config_store.cpp:471–492`. -/
def getConfigVersions (namespaceId key : String) : StoreM δ (List ConfigVersion) :=
  fetchAll driver (.built (.selectVersions (makeConfigId namespaceId key))) readConfigVersion

/-- `getConfigVersion`, `mysql_config_store.cpp:494–513`. -/
def getConfigVersion (namespaceId key : String) (version : Int32) :
    StoreM δ (Option ConfigVersion) :=
  fetchOne driver (.built (.selectVersion (makeConfigId namespaceId key) version))
    readConfigVersion

/-- `rollbackConfig`, `mysql_config_store.cpp:515–520`. -/
def rollbackConfig (namespaceId key : String) (targetVersion : Int32) (operatorId : String)
    (ts : ClockReading) : StoreM δ Bool := do
  let target ← getConfigVersion driver namespaceId key targetVersion
  match target with
  | none => return false
  | some v => updateConfig driver namespaceId key v.value operatorId true ts

/-- A log entry from its columns, `mysql_config_store.cpp:543–554`, with the range of its id. -/
def readLog (row : List String) : Except Thrown ChangeLog := do
  let _ ← stoll64 (cell row 0)
  readChangeLog row

/-- `getChangeHistory`, `mysql_config_store.cpp:523–557`. -/
def getChangeHistory (q : ChangeLogQuery) : StoreM δ (List ChangeLog) :=
  fetchAll driver
    (.built (.selectChangeLogs q.key q.namespaceId q.timeFrom q.timeTo q.page q.pageSize)) readLog

/-! ### Releases and approvals -/

/-- The id after `SELECT LAST_INSERT_ID()`, `mysql_config_store.cpp:577–579`. -/
def insertedId (idRows : List (List String)) (id : Int) : Except Thrown Int :=
  match idRows with
  | (text :: _) :: _ => stoll64 text
  | _ => .ok id

/-- `createRelease`, `mysql_config_store.cpp:560–583`, with the updated argument. -/
def createRelease (release : Release) (ts : ClockReading) : StoreM δ (Bool × Release) := do
  let conn ← acquire
  let _ ← executeOn driver conn
    (.insertRelease release.namespaceId release.releaseNote release.releaseType release.status
      release.whitelist release.operatorId release.releaseVersion release.grayscalePercentage ts)
  let idRows ← queryOn driver conn .lastInsertId
  let id ← ofExcept (insertedId idRows release.id)
  PoolM.release conn
  return (true, { release with id, createdAt := ts.text })

/-- A release from its columns, `mysql_config_store.cpp:599–610`, with the range of its id. -/
def readReleaseRow (row : List String) : Except Thrown Release := do
  let _ ← stoll64 (cell row 0)
  readRelease row

/-- `getReleases`, `mysql_config_store.cpp:585–613`. -/
def getReleases (q : ReleaseQuery) : StoreM δ (List Release) :=
  fetchAll driver (.built (.selectReleases q.namespaceId q.page q.pageSize)) readReleaseRow

/-- `getRelease`, `mysql_config_store.cpp:615–638`. -/
def getRelease (releaseId : Int) : StoreM δ (Option Release) :=
  fetchOne driver (.built (.selectRelease releaseId)) readReleaseRow

/-- An operation that is one statement and returns true, whatever the driver answers,
`mysql_config_store.cpp:640–645,721–728`. -/
def executeAnyway (st : SqlStatement) : StoreM δ Bool := do
  let conn ← acquire
  let _ ← executeOn driver conn st
  release conn
  return true

/-- `retireRelease`, `mysql_config_store.cpp:640–645`. -/
def retireRelease (releaseId : Int) : StoreM δ Bool :=
  executeAnyway driver (.retireRelease releaseId)

/-- The `try` block of `publishRelease`, `mysql_config_store.cpp:653–690`. -/
def publishBlock (conn : Nat) (namespaceId releaseNote operatorId : String) (ts : ClockReading) :
    StoreM δ (Bool × Option Release) := do
  let _ ← executeOn driver conn (.publishConfigs namespaceId)
  let versionRows ← queryOn driver conn (.built (.selectMaxVersion namespaceId))
  let nextVersion ← ofExcept (nextVersion versionRows)
  let _ ← executeOn driver conn
    (.insertFullRelease namespaceId releaseNote operatorId nextVersion ts)
  let idRows ← queryOn driver conn .lastInsertId
  let id ← ofExcept (insertedId idRows 0)
  let _ ← perform (driver.commit conn)
  release conn
  return (true, some {
    id, namespaceId, releaseVersion := nextVersion, releaseNote, releaseType := "full",
    status := "active", operatorId, createdAt := ts.text })

/-- `publishRelease`, `mysql_config_store.cpp:648–696`, with what it assigned to
`outRelease`. -/
def publishRelease (namespaceId releaseNote operatorId : String) (ts : ClockReading) :
    StoreM δ (Bool × Option Release) := do
  let conn ← acquire
  let _ ← perform (driver.beginTransaction conn)
  tryCatch (publishBlock driver conn namespaceId releaseNote operatorId ts) do
    let _ ← perform (driver.rollback conn)
    release conn
    return (false, none)

/-- `createApproval`, `mysql_config_store.cpp:699–719`, with the updated argument. -/
def createApproval (approval : Approval) (ts : ClockReading) : StoreM δ (Bool × Approval) := do
  let conn ← acquire
  let _ ← executeOn driver conn
    (.insertApproval approval.namespaceId approval.submitterId approval.approverId
      approval.status approval.comment ts)
  let idRows ← queryOn driver conn .lastInsertId
  let id ← ofExcept (insertedId idRows approval.id)
  release conn
  return (true, { approval with id, createdAt := ts.text })

/-- `updateApprovalStatus`, `mysql_config_store.cpp:721–728`. -/
def updateApprovalStatus (approvalId : Int) (status comment : String) (ts : ClockReading) :
    StoreM δ Bool :=
  executeAnyway driver (.updateApproval status comment approvalId ts)

/-- An approval from its columns, `mysql_config_store.cpp:743–751`. -/
def readApproval (row : List String) : Except Thrown Approval := do
  let id ← stoll64 (cell row 0)
  return {
    id, namespaceId := cell row 1, submitterId := cell row 2, approverId := cell row 3,
    status := cell row 4, comment := cell row 5, createdAt := cell row 6,
    updatedAt := cell row 7 }

/-- `getPendingApprovals`, `mysql_config_store.cpp:730–754`. -/
def getPendingApprovals (namespaceId : String) : StoreM δ (List Approval) :=
  fetchAll driver (.built (.selectPendingApprovals namespaceId)) readApproval

/-! ### Transactions -/

/-- `beginTransaction`, `mysql_config_store.cpp:805–809`. -/
def beginTransaction : StoreM δ Bool := do
  let conn ← acquire
  perform (driver.beginTransaction conn)

/-- `commitTransaction`, `mysql_config_store.cpp:811–815`. -/
def commitTransaction : StoreM δ Bool := do
  let conn ← acquire
  perform (driver.commit conn)

/-- `rollbackTransaction`, `mysql_config_store.cpp:817–821`. -/
def rollbackTransaction : StoreM δ Bool := do
  let conn ← acquire
  perform (driver.rollback conn)

/-- `PublishEngine::publishGrayscale`, `publish_engine.cpp:67–87`, over this store, without the
output argument; `dump` is nothing where the JSON library refuses a text of the whitelist. -/
def publishGrayscale (dump : List String → Option String)
    (namespaceId releaseNote operatorId : String) (whitelist : List String) (ts : ClockReading) :
    StoreM δ Bool := do
  let _ ← beginTransaction driver
  tryCatch
    (do
      let _ ← publishRelease driver namespaceId releaseNote operatorId ts
      if !whitelist.isEmpty && (dump whitelist).isNone then
        ofExcept (.error .json)
      let _ ← commitTransaction driver
      return true)
    (do
      let _ ← rollbackTransaction driver
      return false)

end ConfigCenter.Storage.MysqlConnectionPool
