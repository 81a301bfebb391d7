import ConfigCenter.Base.Paging
import ConfigCenter.Storage.MysqlOperations

/-!
# The two backends side by side

Library `Storage`. The configuration, history and release calls of `ConfigStore`
run on both backends at the same clock readings. `Agree` compares the two
answers to one call, ids, timestamps and the order of lists aside, and
`Agreeable` states what the stores need of a call to answer it alike.
-/

namespace ConfigCenter.Storage
open ConfigCenter.Base MysqlM MysqlConfigStore SqliteConfigStore

/-! ### Calls and answers -/

/-- Configuration, history and release calls of `ConfigStore`, `config_store.h:32–61`. -/
inductive BackendCall where
  | createConfig (namespaceId key value operatorId : String)
  | updateConfig (namespaceId key value operatorId : String) (draft : Bool)
  | deleteConfig (namespaceId key operatorId : String) (draft : Bool)
  | rollbackConfig (namespaceId key : String) (targetVersion : Int32) (operatorId : String)
  | publishRelease (namespaceId releaseNote operatorId : String)
  | createRelease (release : Release)
  | getConfig (namespaceId key : String) (includeDraft : Bool)
  | listConfigs (namespaceId : String) (includeDraft : Bool)
  | getConfigVersions (namespaceId key : String)
  | getConfigVersion (namespaceId key : String) (version : Int32)
  | getChangeHistory (query : ChangeLogQuery)
  | getReleases (query : ReleaseQuery)
  deriving DecidableEq, Repr

/-- The call as the SQLite store receives it. -/
def BackendCall.toCall : BackendCall → Call
  | .createConfig ns key value op => .createConfig ns key value op
  | .updateConfig ns key value op draft => .updateConfig ns key value op draft
  | .deleteConfig ns key op draft => .deleteConfig ns key op draft
  | .rollbackConfig ns key target op => .rollbackConfig ns key target op
  | .publishRelease ns note op => .publishRelease ns note op
  | .createRelease release => .createRelease release
  | .getConfig ns key includeDraft => .getConfig ns key includeDraft
  | .listConfigs ns includeDraft => .listConfigs ns includeDraft
  | .getConfigVersions ns key => .getConfigVersions ns key
  | .getConfigVersion ns key version => .getConfigVersion ns key version
  | .getChangeHistory query => .getChangeHistory query
  | .getReleases query => .getReleases query

/-- Run the method of the MySQL store that a call names, at one clock reading. -/
def BackendCall.execMysql (engine : Engine) (ts : Timestamp) : BackendCall → MysqlM Response
  | .createConfig ns key value op =>
    .bool <$> MysqlConfigStore.createConfig engine ns key value op ts
  | .updateConfig ns key value op draft =>
    .bool <$> MysqlConfigStore.updateConfig engine ns key value op draft ts
  | .deleteConfig ns key op draft =>
    .bool <$> MysqlConfigStore.deleteConfig engine ns key op draft ts
  | .rollbackConfig ns key target op =>
    .bool <$> MysqlConfigStore.rollbackConfig engine ns key target op ts
  | .publishRelease ns note op =>
    (fun r ↦ .outRelease r.1 r.2) <$> MysqlConfigStore.publishRelease engine ns note op ts
  | .createRelease release =>
    (fun r ↦ .outRelease r.1 (some r.2)) <$> MysqlConfigStore.createRelease engine release ts
  | .getConfig ns key includeDraft =>
    .config <$> MysqlConfigStore.getConfig engine ns key includeDraft
  | .listConfigs ns includeDraft =>
    .configs <$> MysqlConfigStore.listConfigs engine ns includeDraft
  | .getConfigVersions ns key => .versions <$> MysqlConfigStore.getConfigVersions engine ns key
  | .getConfigVersion ns key version =>
    .version <$> MysqlConfigStore.getConfigVersion engine ns key version
  | .getChangeHistory query => .changeLogs <$> MysqlConfigStore.getChangeHistory engine query
  | .getReleases query => .releases <$> MysqlConfigStore.getReleases engine query

/-- No call leaves a text in the tables that has no room in its column. -/
theorem keepsFits_execMysql (engine : Engine) (ts : Timestamp) (c : BackendCall) :
    (c.execMysql engine ts).KeepsFits := by
  cases c with
  | createConfig ns key value op =>
    exact keeps_map (keepsFits_createConfig engine ts ns key value op) _
  | updateConfig ns key value op draft =>
    exact keeps_map (keepsFits_updateConfig engine ts ns key value op draft) _
  | deleteConfig ns key op draft =>
    exact keeps_map (keepsFits_deleteConfig engine ts ns key op draft) _
  | rollbackConfig ns key target op =>
    exact keeps_map (keepsFits_rollbackConfig engine ts ns key target op) _
  | publishRelease ns note op =>
    exact keeps_map (keepsFits_publishRelease engine ts ns note op) _
  | createRelease release => exact keeps_map (keepsFits_createRelease engine ts release) _
  | getConfig ns key includeDraft =>
    exact keeps_map (keepsFits_getConfig engine ns key includeDraft) _
  | listConfigs ns includeDraft => exact keeps_map (keepsFits_listConfigs engine ns includeDraft) _
  | getConfigVersions ns key => exact keeps_map (keepsFits_getConfigVersions engine ns key) _
  | getConfigVersion ns key version =>
    exact keeps_map (keepsFits_getConfigVersion engine ns key version) _
  | getChangeHistory query => exact keeps_map (keepsFits_getChangeHistory engine query) _
  | getReleases query => exact keeps_map (keepsFits_getReleases engine query) _

/-- The answer of the MySQL store and the connection after one call. -/
def respondMysql (engine : Engine) (conn : Connection) (e : Timestamp × BackendCall) :
    Response × Connection :=
  let r := e.2.execMysql engine e.1 conn
  (.ofExcept r.1, r.2)

/-- A configuration, timestamps aside. -/
def ConfigKey.aside (c : ConfigKey) : ConfigKey := { c with createdAt := "", updatedAt := "" }

/-- A version, timestamps aside. -/
def ConfigVersion.aside (v : ConfigVersion) : ConfigVersion := { v with createdAt := "" }

/-- A log entry, ids and timestamps aside. -/
def ChangeLog.aside (l : ChangeLog) : ChangeLog := { l with id := 0, createdAt := "" }

/-- A release, ids and timestamps aside. -/
def Release.aside (r : Release) : Release := { r with id := 0, createdAt := "" }

/-- Equal answers: the same booleans, the same optional rows and lists of the same rows, ids
and timestamps aside. -/
def Response.Similar : Response → Response → Prop
  | .bool a, .bool b => a = b
  | .config a, .config b => a.map ConfigKey.aside = b.map ConfigKey.aside
  | .configs a, .configs b => (a.map ConfigKey.aside).Perm (b.map ConfigKey.aside)
  | .version a, .version b => a.map ConfigVersion.aside = b.map ConfigVersion.aside
  | .versions a, .versions b => (a.map ConfigVersion.aside).Perm (b.map ConfigVersion.aside)
  | .changeLogs a, .changeLogs b => (a.map ChangeLog.aside).Perm (b.map ChangeLog.aside)
  | .releases a, .releases b => (a.map Release.aside).Perm (b.map Release.aside)
  | .outRelease ok r, .outRelease ok' r' =>
    ok = ok' ∧ r.map Release.aside = r'.map Release.aside
  | _, _ => False

/-! ### Both stores at once -/

/-- A SQLite and a MySQL store that receive the same calls. -/
structure Backends where
  sqlite : Database
  mysql : Connection

namespace Backends

/-- Both stores after one call. -/
def step (engine : Engine) (s : Backends) (e : Timestamp × BackendCall) : Backends where
  sqlite := Storage.step s.sqlite (e.1, e.2.toCall)
  mysql := (respondMysql engine s.mysql e).2

/-- The two stores answer a call alike. -/
def Agree (engine : Engine) (s : Backends) (e : Timestamp × BackendCall) : Prop :=
  (respond s.sqlite (e.1, e.2.toCall)).1.Similar (respondMysql engine s.mysql e).1

/-- Ids of the namespaces that were created first. -/
def namespaceIds (s : Backends) : List String := s.sqlite.tables.namespaces.rows.map Namespace.id

/-- Both stores hold the same namespaces and are otherwise empty. The ids of the namespaces
have room in the columns of the MySQL store. -/
structure Started (s : Backends) : Prop where
  fits : ∀ n ∈ s.namespaceIds, TextFits (.varchar 255) n
  configs : s.sqlite.tables.configs.rows = []
  configVersions : s.sqlite.tables.configVersions = []
  changeLogs : s.sqlite.tables.changeLogs.rows = []
  releases : s.sqlite.tables.releases.rows = []
  snapshot : s.sqlite.snapshot = none
  mysql : s.mysql = { tables := .withNamespaces s.namespaceIds }

end Backends

/-- The namespace that a call is about; a history query may leave it open. -/
def BackendCall.namespaceId? : BackendCall → Option String
  | .createConfig ns _ _ _ | .updateConfig ns _ _ _ _ | .deleteConfig ns _ _ _
  | .rollbackConfig ns _ _ _ | .publishRelease ns _ _ | .getConfig ns _ _ | .listConfigs ns _
  | .getConfigVersions ns _ | .getConfigVersion ns _ _ => some ns
  | .createRelease release => some release.namespaceId
  | .getChangeHistory query => query.namespaceId
  | .getReleases query => some query.namespaceId

/-! ### When the stores agree -/

/-- The two stores hold the same creation times for the releases of a namespace. -/
def Backends.SameStamps (s : Backends) (namespaceId : String) : Prop :=
  let ours := s.sqlite.tables.releases.rows.filter (fun r ↦ r.namespaceId = namespaceId)
  let theirs := s.mysql.tables.releases.rows.filter (fun r ↦ r.namespaceId = namespaceId)
  (∀ r ∈ ours, isClockText r.createdAt) ∧
    ours.map (fun r ↦ datetimeText r.createdAt) = theirs.map Release.createdAt

/-- The first row of a page, from `page` and `page_size`. -/
def pageStart (page pageSize : Int32) : Nat := ((page - 1) * pageSize).toInt.toNat

/-- The row after a page. -/
def pageEnd (page pageSize : Int32) : Nat := pageStart page pageSize + pageSize.toInt.toNat

/-- MySQL accepts the limit and the offset of the page. -/
def PageAccepted (page pageSize : Int32) : Prop :=
  0 ≤ pageSize.toInt ∧ 0 ≤ ((page - 1) * pageSize).toInt

/-- What the stores need of a call to answer it alike. A creation finds the key free. Texts
that the call stores have room in the columns of the MySQL store. A page is one MySQL accepts
and its bounds do not separate rows of one creation time; time bounds are written as the clock
writes them. The releases of the namespace have no empty whitelist and, unless the page takes
all or none of them, the same creation times in both stores. -/
def Backends.Agreeable (s : Backends) (e : Timestamp × BackendCall) : Prop :=
  match e.2 with
  | .createConfig ns key value op =>
    s.sqlite.ledger.row? ns key = none ∧
      TextFits (.varchar 255) key ∧ TextFits .text value ∧ TextFits (.varchar 255) op
  | .updateConfig ns key value op _ =>
    (s.sqlite.ledger.row? ns key).isSome → TextFits .text value ∧ TextFits (.varchar 255) op
  | .deleteConfig _ key op _ => TextFits (.varchar 255) key ∧ TextFits (.varchar 255) op
  | .rollbackConfig ns key target op =>
    (s.sqlite.ledger.row? ns key).isSome → (s.sqlite.ledger.version? ns key target).isSome →
      TextFits (.varchar 255) op
  | .publishRelease _ note op => TextFits .text note ∧ TextFits (.varchar 255) op
  | .createRelease release => MysqlConfigStore.ReleaseFits release
  | .getChangeHistory q =>
    let found := s.sqlite.tables.changeLogs.rows.filter (changeLogMatches q)
    PageAccepted q.page q.pageSize ∧
      (∀ t ∈ q.timeFrom, isClockText t) ∧ (∀ t ∈ q.timeTo, isClockText t) ∧
      Uncut ChangeLog.createdAt (pageStart q.page q.pageSize) found ∧
      Uncut ChangeLog.createdAt (pageEnd q.page q.pageSize) found
  | .getReleases q =>
    let found := s.sqlite.tables.releases.rows.filter (fun r ↦ r.namespaceId = q.namespaceId)
    PageAccepted q.page q.pageSize ∧ (∀ r ∈ found, r.whitelist ≠ some "") ∧
      (Outside (pageStart q.page q.pageSize) found ∧ Outside (pageEnd q.page q.pageSize) found ∨
        s.SameStamps q.namespaceId ∧
        Uncut Release.createdAt (pageStart q.page q.pageSize) found ∧
        Uncut Release.createdAt (pageEnd q.page q.pageSize) found)
  | _ => True

/-- The condition can be checked on concrete stores. -/
instance decidableAgreeable (s : Backends) :
    (e : Timestamp × BackendCall) → Decidable (s.Agreeable e)
  | (_, .createConfig ..) => inferInstanceAs (Decidable (_ = none ∧ _ ∧ _ ∧ _))
  | (_, .updateConfig ..) => inferInstanceAs (Decidable (_ → _ ∧ _))
  | (_, .deleteConfig ..) | (_, .publishRelease ..) => inferInstanceAs (Decidable (_ ∧ _))
  | (_, .rollbackConfig ..) => inferInstanceAs (Decidable (_ → _ → _))
  | (_, .createRelease release) =>
    inferInstanceAs (Decidable (MysqlConfigStore.ReleaseFits release))
  | (_, .getChangeHistory _) => inferInstanceAs (Decidable ((_ ∧ _) ∧ _ ∧ _ ∧ _ ∧ _))
  | (_, .getReleases _) =>
    inferInstanceAs (Decidable ((_ ∧ _) ∧ _ ∧ (_ ∧ _ ∨ (_ ∧ _) ∧ _ ∧ _)))
  | (_, .getConfig ..) | (_, .listConfigs ..) | (_, .getConfigVersions ..)
  | (_, .getConfigVersion ..) => isTrue True.intro

end ConfigCenter.Storage
