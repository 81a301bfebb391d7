import ConfigCenter.Storage.MysqlConnection

/-!
# The MySQL configuration store

Library `Storage`. Configuration, history and release operations of
`src/storage/mysql_config_store.cpp`, statement by statement, over a connection
of `Storage.MysqlConnection`. Every operation that reads the clock takes the
text of `getTimestamp` as an argument. Results of `execute` are ignored wherever
the source ignores them, which is everywhere in these operations.
-/

namespace ConfigCenter.Storage.MysqlConfigStore
open ConfigCenter.Base MysqlM

/-! ### Reading text rows -/

/-- `row[i]`. -/
def cell (row : List String) (i : Nat) : String := row.getD i ""

/-- `std::stoi`. -/
def stoi (text : String) : Except Thrown Int32 :=
  match parseInteger text with
  | none => .error .conversion
  | some n =>
    if -2147483648 ≤ n ∧ n ≤ 2147483647 then .ok (Int32.ofInt n) else .error .conversion

/-- `std::stoll`; ids are unbounded here. -/
def stoll (text : String) : Except Thrown Int :=
  match parseInteger text with
  | none => .error .conversion
  | some n => .ok n

/-- A `status` column as the record has it. -/
def statusOf (text : String) : ConfigStatus := if text = "draft" then .draft else .live

/-- A `change_type` or `operation` column as the record has it. -/
def changeTypeOf (text : String) : ChangeType :=
  if text = "create" then .create
  else if text = "update" then .update
  else if text = "delete" then .delete
  else .rollback

/-- A configuration from its columns, `mysql_config_store.cpp:432–440,457–465`. -/
def readConfig (row : List String) : Except Thrown ConfigKey := do
  let version ← stoi (cell row 3)
  return {
    namespaceId := cell row 0, key := cell row 1, value := cell row 2, version,
    status := statusOf (cell row 4), createdAt := cell row 5, updatedAt := cell row 6 }

/-- A version from its columns, `mysql_config_store.cpp:482–489,505–512`. -/
def readConfigVersion (row : List String) : Except Thrown ConfigVersion := do
  let version ← stoi (cell row 0)
  return {
    version, configId := cell row 1, value := cell row 2,
    changeType := changeTypeOf (cell row 3), operatorId := cell row 4, createdAt := cell row 5 }

/-- A log entry from its columns, `mysql_config_store.cpp:543–554`. -/
def readChangeLog (row : List String) : Except Thrown ChangeLog := do
  let id ← stoll (cell row 0)
  let version ← stoi (cell row 4)
  return {
    id, configId := cell row 1, namespaceId := cell row 2, key := cell row 3, version,
    oldValue := cell row 5, newValue := cell row 6, operation := changeTypeOf (cell row 7),
    operatorId := cell row 8, createdAt := cell row 9 }

/-- An optional number, `mysql_config_store.cpp:606`: an empty column leaves it unset. -/
def optionalInt (text : String) : Except Thrown (Option Int32) :=
  if text = "" then .ok none else some <$> stoi text

/-- An optional text, `mysql_config_store.cpp:607`: an empty column leaves it unset. -/
def optionalText (text : String) : Option String := if text = "" then none else some text

/-- A release from its columns, `mysql_config_store.cpp:599–610`. -/
def readRelease (row : List String) : Except Thrown Release := do
  let id ← stoll (cell row 0)
  let releaseVersion ← stoi (cell row 2)
  let grayscalePercentage ← optionalInt (cell row 6)
  return {
    id, namespaceId := cell row 1, releaseVersion, releaseNote := cell row 3,
    releaseType := cell row 4, status := cell row 5, grayscalePercentage,
    whitelist := optionalText (cell row 7), operatorId := cell row 8, createdAt := cell row 9 }

@[simp] private theorem ok_bind {α β : Type} (a : α) (f : α → Except Thrown β) :
    (Except.ok a >>= f) = f a := rfl

/-- A number column is read back as the number. -/
theorem stoi_intCell (n : Int32) : stoi (intCell n) = .ok n := by
  have hl := n.le_toInt
  have hu := n.toInt_lt
  have hr : -2147483648 ≤ n.toInt ∧ n.toInt ≤ 2147483647 := by constructor <;> omega
  simp [stoi, intCell, parseInteger_repr, hr]

/-- An id column is read back as the id. -/
theorem stoll_repr (n : Int) : stoll n.repr = .ok n := by
  simp [stoll, parseInteger_repr]

/-- A stored status is read back. -/
theorem statusOf_cell (s : ConfigStatus) : statusOf s.cell = s := by
  cases s <;> rfl

/-- A stored change type is read back. -/
theorem changeTypeOf_cell (c : ChangeType) : changeTypeOf c.cell = c := by
  cases c <;> rfl

/-- A configuration row is read back as it is stored. -/
theorem readConfig_cells (c : ConfigKey) : readConfig c.cells = .ok c := by
  simp [readConfig, ConfigKey.cells, cell, stoi_intCell, statusOf_cell]

/-- A version row is read back as it is stored. -/
theorem readConfigVersion_cells (v : ConfigVersion) : readConfigVersion v.cells = .ok v := by
  simp [readConfigVersion, ConfigVersion.cells, cell, stoi_intCell, changeTypeOf_cell]

/-- A log row is read back with empty texts for NULL. -/
theorem readChangeLog_cells (l : ChangeLogRow) :
    readChangeLog l.cells = .ok
      { id := l.id, configId := l.configId, namespaceId := l.namespaceId, key := l.key,
        version := l.version, oldValue := l.oldValue.getD "", newValue := l.newValue.getD "",
        operation := l.operation, operatorId := l.operatorId, createdAt := l.createdAt } := by
  simp [readChangeLog, ChangeLogRow.cells, cell, stoi_intCell, stoll_repr, changeTypeOf_cell]

/-- The text of a number is not empty. -/
theorem intCell_ne_empty (n : Int32) : intCell n ≠ "" := by
  intro h
  have hn := stoi_intCell n
  rw [h] at hn
  cases hn

private theorem optionalInt_cell (n : Option Int32) :
    optionalInt ((n.map intCell).getD "") = .ok n := by
  cases n with
  | none => rfl
  | some n => simp [optionalInt, intCell_ne_empty, stoi_intCell]

private theorem optionalText_getD (text : Option String) :
    optionalText (text.getD "") = text.filter (fun w ↦ !(w = "")) := by
  cases text with
  | none => rfl
  | some w => by_cases he : w = "" <;> simp [optionalText, he, Option.filter]

/-- A release row is read back as it is stored, with an empty whitelist as none. -/
theorem readRelease_cells (r : Release) :
    readRelease r.cells = .ok { r with whitelist := r.whitelist.filter (fun w ↦ !(w = "")) } := by
  simp [readRelease, Release.cells, cell, stoi_intCell, stoll_repr, optionalInt_cell,
    optionalText_getD]

/-- Reading every row of a result succeeds when reading one does. -/
theorem mapM_cells {ρ τ : Type} {cells : ρ → List String} {read : List String → Except Thrown τ}
    {f : ρ → τ} (h : ∀ r, read (cells r) = .ok (f r)) (rows : List ρ) :
    (rows.map cells).mapM read = .ok (rows.map f) := by
  induction rows with
  | nil => rfl
  | cons r rows ih => simp [h, ih]

variable (engine : Engine)

/-! ### Configurations -/

/-- `createConfig`, `mysql_config_store.cpp:336–357`. Unlike the SQLite store it does not
look at the result of the insertion. -/
def createConfig (namespaceId key value operatorId : String) (ts : Timestamp) : MysqlM Bool := do
  let configId := makeConfigId namespaceId key
  let _ ← execute engine
    (.insertConfig (escape namespaceId) (escape key) (escape value) 1 .draft ts ts)
  let _ ← execute engine
    (.insertConfigVersion 1 (escape configId) (escape value) .create (escape operatorId) ts)
  let _ ← execute engine
    (.insertChangeLog (escape configId) (escape namespaceId) (escape key) 1 none
      (some (escape value)) .create (escape operatorId) ts)
  return true

/-- `updateConfig`, `mysql_config_store.cpp:359–395`. -/
def updateConfig (namespaceId key value operatorId : String) (draft : Bool) (ts : Timestamp) :
    MysqlM Bool := do
  let configId := makeConfigId namespaceId key
  let rows ← query engine (.versionAndValue (escape namespaceId) (escape key))
  match rows with
  | [] => return false
  | row :: _ =>
    let oldVersion ← ofExcept (stoi (cell row 0))
    let oldValue := cell row 1
    let newVersion := oldVersion + 1
    let _ ← execute engine
      (.updateConfig (escape value) newVersion (if draft then .draft else .live) ts
        (escape namespaceId) (escape key))
    let _ ← execute engine
      (.insertConfigVersion newVersion (escape configId) (escape value) .update
        (escape operatorId) ts)
    let _ ← execute engine
      (.insertChangeLog (escape configId) (escape namespaceId) (escape key) newVersion
        (some (escape oldValue)) (some (escape value)) .update (escape operatorId) ts)
    return true

/-- `deleteConfig`, `mysql_config_store.cpp:397–418`. -/
def deleteConfig (namespaceId key operatorId : String) (draft : Bool) (ts : Timestamp) :
    MysqlM Bool := do
  let configId := makeConfigId namespaceId key
  if draft then
    let _ ← execute engine (.deleteConfigs (escape namespaceId) (escape key) (some .draft))
  else
    let _ ← execute engine (.deleteConfigs (escape namespaceId) (escape key) none)
  let _ ← execute engine
    (.insertChangeLog (escape configId) (escape namespaceId) (escape key) 0 none none .delete
      (escape operatorId) ts)
  return true

/-- `getConfig`, `mysql_config_store.cpp:420–441`. -/
def getConfig (namespaceId key : String) (includeDraft : Bool) : MysqlM (Option ConfigKey) := do
  let rows ← query engine (.config (escape namespaceId) (escape key))
  match rows with
  | [] => return none
  | row :: _ =>
    if !includeDraft && cell row 4 = "draft" then
      return none
    some <$> ofExcept (readConfig row)

/-- `listConfigs`, `mysql_config_store.cpp:443–468`. -/
def listConfigs (namespaceId : String) (includeDraft : Bool) : MysqlM (List ConfigKey) := do
  let rows ← query engine
    (.configs (escape namespaceId) (if includeDraft then none else some .live))
  ofExcept (rows.mapM readConfig)

/-! ### Versions and change history -/

/-- `getConfigVersions`, `mysql_config_store.cpp:471–492`. -/
def getConfigVersions (namespaceId key : String) : MysqlM (List ConfigVersion) := do
  let rows ← query engine (.configVersions (escape (makeConfigId namespaceId key)))
  ofExcept (rows.mapM readConfigVersion)

/-- `getConfigVersion`, `mysql_config_store.cpp:494–513`. -/
def getConfigVersion (namespaceId key : String) (version : Int32) :
    MysqlM (Option ConfigVersion) := do
  let rows ← query engine (.configVersion (escape (makeConfigId namespaceId key)) version)
  match rows with
  | [] => return none
  | row :: _ => some <$> ofExcept (readConfigVersion row)

/-- `rollbackConfig`, `mysql_config_store.cpp:515–520`. -/
def rollbackConfig (namespaceId key : String) (targetVersion : Int32) (operatorId : String)
    (ts : Timestamp) : MysqlM Bool := do
  let target ← getConfigVersion engine namespaceId key targetVersion
  match target with
  | none => return false
  | some v => updateConfig engine namespaceId key v.value operatorId true ts

/-- `getChangeHistory`, `mysql_config_store.cpp:523–557`; the offset is `int` arithmetic. -/
def getChangeHistory (q : ChangeLogQuery) : MysqlM (List ChangeLog) := do
  let rows ← query engine
    (.changeLogs (q.key.map escape) (q.namespaceId.map escape) (q.timeFrom.map escape)
      (q.timeTo.map escape) q.pageSize ((q.page - 1) * q.pageSize))
  ofExcept (rows.mapM readChangeLog)

/-! ### Releases and publishing -/

/-- `release.id` after `SELECT LAST_INSERT_ID()`, `mysql_config_store.cpp:575–579,681–685`. -/
def generatedId (idRows : List (List String)) (id : Int) : Except Thrown Int :=
  match idRows with
  | (text :: _) :: _ => stoll text
  | _ => .ok id

/-- `createRelease`, `mysql_config_store.cpp:560–583`, with the updated argument: the
creation time is the clock's, whatever the caller set. -/
def createRelease (release : Release) (ts : Timestamp) : MysqlM (Bool × Release) := do
  let release := { release with createdAt := ts }
  let _ ← execute engine
    (.insertRelease (escape release.namespaceId) release.releaseVersion
      (escape release.releaseNote) (escape release.releaseType) (escape release.status)
      release.grayscalePercentage (release.whitelist.map escape) (escape release.operatorId) ts)
  let idRows ← query engine .lastInsertId
  let id ← ofExcept (generatedId idRows release.id)
  return (true, { release with id })

/-- `getReleases`, `mysql_config_store.cpp:585–613`. -/
def getReleases (q : ReleaseQuery) : MysqlM (List Release) := do
  let rows ← query engine
    (.releases (escape q.namespaceId) q.pageSize ((q.page - 1) * q.pageSize))
  ofExcept (rows.mapM readRelease)

/-- `nextVersion` of `publishRelease`, `mysql_config_store.cpp:660–663`. -/
def nextVersion (versionRows : List (List String)) : Except Thrown Int32 :=
  match versionRows with
  | (text :: _) :: _ => if text = "" then .ok 1 else (· + 1) <$> stoi text
  | _ => .ok 1

/-- The `try` block of `publishRelease` up to the assignment of `outRelease`,
`mysql_config_store.cpp:653–687`. -/
def prepareRelease (namespaceId releaseNote operatorId : String) (ts : Timestamp) :
    MysqlM Release := do
  let _ ← execute engine (.setConfigStatus .live (escape namespaceId))
  let versionRows ← query engine (.maxReleaseVersion (escape namespaceId))
  let nextVersion ← ofExcept (nextVersion versionRows)
  let release : Release :=
    { namespaceId, releaseVersion := nextVersion, releaseNote, releaseType := "full",
      status := "active", operatorId, createdAt := ts }
  let _ ← execute engine
    (.insertRelease (escape namespaceId) nextVersion (escape releaseNote) "full" "active" none none
      (escape operatorId) ts)
  let idRows ← query engine .lastInsertId
  let id ← ofExcept (generatedId idRows release.id)
  return { release with id }

/-- `publishRelease`, `mysql_config_store.cpp:648–696`, with what it assigned to
`outRelease`. -/
def publishRelease (namespaceId releaseNote operatorId : String) (ts : Timestamp) :
    MysqlM (Bool × Option Release) := do
  startTransaction
  let outRelease ← tryCatch (some <$> prepareRelease engine namespaceId releaseNote operatorId ts)
    (pure none)
  match outRelease with
  | some release =>
    commit
    return (true, some release)
  | none =>
    rollback
    return (false, none)

end ConfigCenter.Storage.MysqlConfigStore
