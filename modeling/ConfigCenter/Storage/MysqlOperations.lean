import ConfigCenter.Storage.Ledger
import ConfigCenter.Storage.MysqlConfigStore

/-!
# What the MySQL operations do

Library `Storage`. One equation for each operation of `Storage.MysqlConfigStore`,
in terms of the tables and free of literals and text rows: escaped values with room in
their columns and clock readings reach the tables as they are, and text rows are read
back. Texts compare byte by byte. The generated ids of a connection are left open.
-/

namespace ConfigCenter.Storage.MysqlConfigStore
open ConfigCenter.Base MysqlM SqliteConfigStore Ledger

variable (engine : Engine) {ts : Timestamp}

/-! ### Room in the columns -/

section KeepsFits

variable (ts : Timestamp) (namespaceId key : String)

/-- `createConfig` keeps texts within their columns. -/
theorem keepsFits_createConfig (value operatorId : String) :
    KeepsFits (createConfig engine namespaceId key value operatorId ts) :=
  keeps_execute_bind engine fun _ ↦ keeps_execute_bind engine fun _ ↦
    keeps_execute_bind engine fun _ ↦ keeps_pure true

/-- `updateConfig` keeps texts within their columns. -/
theorem keepsFits_updateConfig (value operatorId : String) (draft : Bool) :
    KeepsFits (updateConfig engine namespaceId key value operatorId draft ts) := by
  refine keeps_query_bind engine fun rows ↦ ?_
  cases rows with
  | nil => exact keeps_pure false
  | cons row rest =>
    exact keeps_bind (keeps_ofExcept _) fun _ ↦ keeps_execute_bind engine fun _ ↦
      keeps_execute_bind engine fun _ ↦ keeps_execute_bind engine fun _ ↦ keeps_pure true

/-- `deleteConfig` keeps texts within their columns. -/
theorem keepsFits_deleteConfig (operatorId : String) (draft : Bool) :
    KeepsFits (deleteConfig engine namespaceId key operatorId draft ts) := by
  cases draft with
  | true =>
    exact keeps_execute_bind engine fun _ ↦ keeps_execute_bind engine fun _ ↦ keeps_pure true
  | false =>
    exact keeps_execute_bind engine fun _ ↦ keeps_execute_bind engine fun _ ↦ keeps_pure true

/-- `getConfig` reads. -/
theorem keepsFits_getConfig (includeDraft : Bool) :
    KeepsFits (getConfig engine namespaceId key includeDraft) := by
  refine keeps_query_bind engine fun rows ↦ ?_
  cases rows with
  | nil => exact keeps_pure none
  | cons row rest =>
    simp only
    split
    · exact keeps_pure none
    · exact keeps_map (keeps_ofExcept _) some

/-- `listConfigs` reads. -/
theorem keepsFits_listConfigs (includeDraft : Bool) :
    KeepsFits (listConfigs engine namespaceId includeDraft) :=
  keeps_query_bind engine fun _ ↦ keeps_ofExcept _

/-- `getConfigVersions` reads. -/
theorem keepsFits_getConfigVersions : KeepsFits (getConfigVersions engine namespaceId key) :=
  keeps_query_bind engine fun _ ↦ keeps_ofExcept _

/-- `getConfigVersion` reads. -/
theorem keepsFits_getConfigVersion (version : Int32) :
    KeepsFits (getConfigVersion engine namespaceId key version) := by
  refine keeps_query_bind engine fun rows ↦ ?_
  cases rows with
  | nil => exact keeps_pure none
  | cons row rest => exact keeps_map (keeps_ofExcept _) some

/-- `rollbackConfig` keeps texts within their columns. -/
theorem keepsFits_rollbackConfig (targetVersion : Int32) (operatorId : String) :
    KeepsFits (rollbackConfig engine namespaceId key targetVersion operatorId ts) := by
  refine keeps_bind (keepsFits_getConfigVersion engine namespaceId key targetVersion)
    fun target ↦ ?_
  cases target with
  | none => exact keeps_pure false
  | some v => exact keepsFits_updateConfig engine ts namespaceId key v.value operatorId true

/-- `getChangeHistory` reads. -/
theorem keepsFits_getChangeHistory (q : ChangeLogQuery) : KeepsFits (getChangeHistory engine q) :=
  keeps_query_bind engine fun _ ↦ keeps_ofExcept _

/-- `createRelease` keeps texts within their columns. -/
theorem keepsFits_createRelease (release : Release) :
    KeepsFits (createRelease engine release ts) :=
  keeps_execute_bind engine fun _ ↦ keeps_query_bind engine fun _ ↦
    keeps_bind (keeps_ofExcept _) fun _ ↦ keeps_pure _

/-- `getReleases` reads. -/
theorem keepsFits_getReleases (q : ReleaseQuery) : KeepsFits (getReleases engine q) :=
  keeps_query_bind engine fun _ ↦ keeps_ofExcept _

private theorem keepsFits_prepareRelease (releaseNote operatorId : String) :
    KeepsFits (prepareRelease engine namespaceId releaseNote operatorId ts) :=
  keeps_execute_bind engine fun _ ↦ keeps_query_bind engine fun _ ↦
    keeps_bind (keeps_ofExcept _) fun _ ↦ keeps_execute_bind engine fun _ ↦
    keeps_query_bind engine fun _ ↦ keeps_bind (keeps_ofExcept _) fun _ ↦ keeps_pure _

/-- `publishRelease` keeps texts within their columns. -/
theorem keepsFits_publishRelease (releaseNote operatorId : String) :
    KeepsFits (publishRelease engine namespaceId releaseNote operatorId ts) := by
  refine keeps_bind keeps_startTransaction fun _ ↦ keeps_bind (keeps_tryCatch (keeps_map
    (keepsFits_prepareRelease engine ts namespaceId releaseNote operatorId) some) (keeps_pure none))
      fun outRelease ↦ ?_
  cases outRelease with
  | some release => exact keeps_bind keeps_commit fun _ ↦ keeps_pure _
  | none => exact keeps_bind keeps_rollback fun _ ↦ keeps_pure _

end KeepsFits

/-! ### Statements with escaped values -/

@[simp] private theorem mapM_literal_escape (value : Option String) :
    (value.map escape).mapM literal = some value := by
  cases value with
  | none => rfl
  | some value => simp

private theorem mapM_stored_escape {type : SqlType} {value : Option String}
    (h : ∀ text ∈ value, TextFits type text) :
    (value.map escape).mapM (engine.stored type) = some value := by
  cases value with
  | none => rfl
  | some value => simp [stored_escape engine (h value rfl)]

private theorem mapM_datetime {t : Option Timestamp} (h : ∀ u ∈ t, isClockText u) :
    (t.map escape).mapM (fun u ↦ (literal u).bind engine.datetime) =
      some (t.map datetimeText) := by
  cases t with
  | none => rfl
  | some u => simp [engine.datetime_clock u (h u rfl)]

/-- The id of a key has room in `config_id` where namespace and key have room in theirs. -/
theorem fits_makeConfigId {namespaceId key : String} (hns : TextFits (.varchar 255) namespaceId)
    (hkey : TextFits (.varchar 255) key) :
    TextFits (.varchar 512) (makeConfigId namespaceId key) := by
  simp only [TextFits] at *
  rw [makeConfigId, String.length_append, String.length_append]
  have hcolon : ":".length = 1 := by decide
  omega

/-- The texts of a write have room in their columns. -/
structure WriteFits (namespaceId key value operatorId : String) : Prop where
  namespaceId : TextFits (.varchar 255) namespaceId
  key : TextFits (.varchar 255) key
  value : TextFits .text value
  operatorId : TextFits (.varchar 255) operatorId

/-- A clock reading is stored as its `DATETIME`. -/
theorem datetime_literal (hts : isClockText ts) :
    (literal ts).bind engine.datetime = some (datetimeText ts) := by
  rw [literal_clock hts, Option.bind_some, engine.datetime_clock ts hts]

/-- An insertion into `config_versions` with escaped values. -/
theorem exec_insertConfigVersion (hts : isClockText ts) (t : MysqlTables)
    (version : Int32) {namespaceId key value operatorId : String}
    (h : WriteFits namespaceId key value operatorId) (changeType : ChangeType) :
    (Statement.insertConfigVersion version (escape (makeConfigId namespaceId key)) (escape value)
      changeType (escape operatorId) ts).exec engine t =
      some { t with
        configVersions := t.configVersions ++
          [versionRow namespaceId key value operatorId version changeType (datetimeText ts)] } := by
  simp [Statement.exec, datetime_literal engine hts, versionRow, h.value, h.operatorId,
    fits_makeConfigId h.namespaceId h.key]

/-- The row that an insertion into `change_logs` adds. -/
def logRow (namespaceId key : String) (oldValue newValue : Option String) (operatorId : String)
    (version : Int32) (operation : ChangeType) (createdAt : Timestamp) : ChangeLogRow :=
  { configId := makeConfigId namespaceId key, namespaceId, key, version, oldValue, newValue,
    operation, operatorId, createdAt }

/-- An insertion into `change_logs` with escaped values. -/
theorem exec_insertChangeLog (hts : isClockText ts) (t : MysqlTables)
    {namespaceId key operatorId : String} (hns : TextFits (.varchar 255) namespaceId)
    (hkey : TextFits (.varchar 255) key) (hop : TextFits (.varchar 255) operatorId)
    (version : Int32) (oldValue newValue : Option String)
    (hold : ∀ text ∈ oldValue, TextFits .text text)
    (hnew : ∀ text ∈ newValue, TextFits .text text) (operation : ChangeType) :
    (Statement.insertChangeLog (escape (makeConfigId namespaceId key)) (escape namespaceId)
      (escape key) version (oldValue.map escape) (newValue.map escape) operation
      (escape operatorId) ts).exec engine t =
      some (t.log (logRow namespaceId key oldValue newValue operatorId version operation
        (datetimeText ts))) := by
  simp [Statement.exec, datetime_literal engine hts, logRow, hns, hkey, hop,
    fits_makeConfigId hns hkey, mapM_stored_escape engine hold, mapM_stored_escape engine hnew]

/-- The tables after a write: new rows of `configs`, one version row and one log row. -/
def written (t : MysqlTables) (configs : KeyedTable ConfigKey.primaryKey) (cv : ConfigVersion)
    (row : ChangeLogRow) : MysqlTables :=
  { t with configs, configVersions := t.configVersions ++ [cv] : MysqlTables }.log row

-- the last two statements of `createConfig` and of `updateConfig`
private theorem record_run (hts : isClockText ts) (conn : Connection)
    {namespaceId key value operatorId : String} (h : WriteFits namespaceId key value operatorId)
    (version : Int32) (oldValue newValue : Option String)
    (hold : ∀ text ∈ oldValue, TextFits .text text)
    (hnew : ∀ text ∈ newValue, TextFits .text text) (changeType : ChangeType) :
    ∃ conn',
      (do
        let _ ← execute engine
          (.insertConfigVersion version (escape (makeConfigId namespaceId key)) (escape value)
            changeType (escape operatorId) ts)
        let _ ← execute engine
          (.insertChangeLog (escape (makeConfigId namespaceId key)) (escape namespaceId)
            (escape key) version (oldValue.map escape) (newValue.map escape) changeType
            (escape operatorId) ts)
        return true : MysqlM Bool) conn = (.ok true, conn') ∧
      conn'.snapshot = conn.snapshot ∧
      conn'.tables = written conn.tables conn.tables.configs
        (versionRow namespaceId key value operatorId version changeType (datetimeText ts))
        (logRow namespaceId key oldValue newValue operatorId version changeType
          (datetimeText ts)) := by
  have hv (t : MysqlTables) := exec_insertConfigVersion engine hts t version h changeType
  have hl (t : MysqlTables) := exec_insertChangeLog engine hts t h.namespaceId h.key
    h.operatorId version oldValue newValue hold hnew changeType
  rw [bind_of_ok (execute_of_some (hv conn.tables)), bind_of_ok (execute_of_some (hl _))]
  exact ⟨_, rfl, rfl, rfl⟩

/-- A scan for a primary key finds its one row. -/
theorem scan_atKey (configs : KeyedTable ConfigKey.primaryKey) (namespaceId key : String) :
    engine.scan (configs.rows.filter (atKey namespaceId key)) =
      (configs.find? (namespaceId, key)).toList := by
  have hp := engine.scan_perm (configs.rows.filter (atKey namespaceId key))
  rw [filter_atKey] at hp ⊢
  cases h : configs.find? (namespaceId, key) with
  | none =>
    rw [h] at hp
    exact hp.eq_nil
  | some c =>
    rw [h] at hp
    exact List.perm_singleton.mp hp

variable [engine.ByteWise]

/-- An update of one row of `configs` with escaped values. -/
theorem exec_updateConfig (hts : isClockText ts) (t : MysqlTables) {value : String}
    (hvalue : TextFits .text value) (namespaceId key : String) (version : Int32)
    (status : ConfigStatus) :
    (Statement.updateConfig (escape value) version status ts (escape namespaceId)
      (escape key)).exec engine t =
      some { t with
        configs := t.configs.mapWhere (atKey namespaceId key)
          (ConfigKey.overwrite value version status (datetimeText ts))
          (primaryKey_overwrite _ _ _ _) } := by
  simp [Statement.exec, datetime_literal engine hts, hvalue]

/-- An insertion into `configs` with escaped values, in a known namespace: it goes through where
the key is free. -/
theorem exec_insertConfig (hts : isClockText ts) {t : MysqlTables} {namespaceId key value : String}
    (hknown : namespaceId ∈ t.namespaces) (hns : TextFits (.varchar 255) namespaceId)
    (hkey : TextFits (.varchar 255) key) (hvalue : TextFits .text value) :
    (Statement.insertConfig (escape namespaceId) (escape key) (escape value) 1 .draft ts
      ts).exec engine t =
      (t.configs.insert? (createdRow namespaceId key value (datetimeText ts))).map
        fun configs ↦ { t with configs } := by
  simp only [Statement.exec, stored_escape engine hns, stored_escape engine hkey,
    stored_escape engine hvalue, datetime_literal engine hts, Option.bind_eq_bind,
    Option.bind_some, known_eq, hknown, decide_true, guard_true, Option.pure_def, atKey_eq]
  rw [createdRow]
  cases hi : t.configs.insert? _ with
  | none => exact Option.bind_fun_none _
  | some configs =>
    have hfree := KeyedTable.find?_none_of_insert? hi
    have hnone : t.configs.rows.any (atKey namespaceId key) = false := by
      have hrows := filter_atKey t.configs namespaceId key
      rw [show t.configs.find? (namespaceId, key) = none from hfree, Option.toList_none,
        List.filter_eq_nil_iff] at hrows
      simpa using hrows
    rw [hnone]
    rfl

/-! ### Configurations -/

/-- `createConfig` on a free key inserts the row, its version and its log row. -/
theorem createConfig_run (hts : isClockText ts) {conn : Connection}
    {namespaceId key value operatorId : String} (hns : namespaceId ∈ conn.tables.namespaces)
    (h : WriteFits namespaceId key value operatorId) {configs : KeyedTable ConfigKey.primaryKey}
    (hi : conn.tables.configs.insert? (createdRow namespaceId key value (datetimeText ts)) =
      some configs) :
    ∃ conn', createConfig engine namespaceId key value operatorId ts conn = (.ok true, conn') ∧
      conn'.snapshot = conn.snapshot ∧
      conn'.tables = written conn.tables configs
        (versionRow namespaceId key value operatorId 1 .create (datetimeText ts))
        (logRow namespaceId key none (some value) operatorId 1 .create (datetimeText ts)) := by
  have hc : (Statement.insertConfig (escape namespaceId) (escape key) (escape value) 1 .draft ts
      ts).exec engine conn.tables = some { conn.tables with configs } := by
    rw [exec_insertConfig engine hts hns h.namespaceId h.key h.value, hi, Option.map_some]
  obtain ⟨conn', hr, hs, ht⟩ := record_run engine hts
    (conn.after (.insertConfig (escape namespaceId) (escape key) (escape value) 1 .draft ts ts)
      { conn.tables with configs })
    h 1 none (some value) (by simp) (by simpa using h.value) .create
  refine ⟨conn', ?_, hs, ht⟩
  unfold createConfig
  rw [bind_of_ok (execute_of_some hc)]
  simpa only [Option.map_none, Option.map_some] using hr

/-- The query of `updateConfig` reads version and value of the key's row. -/
theorem query_versionAndValue (conn : Connection) (namespaceId key : String) :
    query engine (.versionAndValue (escape namespaceId) (escape key)) conn =
      (.ok ((conn.tables.configs.find? (namespaceId, key)).toList.map
        fun c ↦ [intCell c.version, c.value]), conn) := by
  simp [Query.rows, scan_atKey]

/-- `updateConfig` of an absent key answers `false` without effect. -/
theorem updateConfig_run_none {conn : Connection} {namespaceId key : String}
    (h : conn.tables.configs.find? (namespaceId, key) = none) (value operatorId : String)
    (draft : Bool) :
    updateConfig engine namespaceId key value operatorId draft ts conn = (.ok false, conn) := by
  have hq := query_versionAndValue engine conn namespaceId key
  rw [h] at hq
  rw [updateConfig, bind_of_ok hq]
  rfl

/-- `updateConfig` of a stored key rewrites its row and records the version and the log row. -/
theorem updateConfig_run_some (hts : isClockText ts) {conn : Connection}
    {namespaceId key value operatorId : String} {old : ConfigKey}
    (h : conn.tables.configs.find? (namespaceId, key) = some old)
    (hfit : WriteFits namespaceId key value operatorId) (hold : TextFits .text old.value)
    (draft : Bool) :
    ∃ conn', updateConfig engine namespaceId key value operatorId draft ts conn =
        (.ok true, conn') ∧
      conn'.snapshot = conn.snapshot ∧
      conn'.tables = written conn.tables
        (conn.tables.configs.mapWhere (atKey namespaceId key)
          (ConfigKey.overwrite value (old.version + 1) (if draft then .draft else .live)
            (datetimeText ts)) (primaryKey_overwrite _ _ _ _))
        (versionRow namespaceId key value operatorId (old.version + 1) .update (datetimeText ts))
        (logRow namespaceId key (some old.value) (some value) operatorId (old.version + 1) .update
          (datetimeText ts)) := by
  let status : ConfigStatus := if draft then .draft else .live
  let s : Statement := .updateConfig (escape value) (old.version + 1) status ts
    (escape namespaceId) (escape key)
  let t : MysqlTables :=
    { conn.tables with
      configs := conn.tables.configs.mapWhere (atKey namespaceId key)
        (ConfigKey.overwrite value (old.version + 1) status (datetimeText ts))
        (primaryKey_overwrite _ _ _ _) }
  have hu : s.exec engine conn.tables = some t :=
    exec_updateConfig engine hts conn.tables hfit.value namespaceId key (old.version + 1) status
  obtain ⟨conn', hr, hs, ht⟩ := record_run engine hts (conn.after s t) hfit (old.version + 1)
    (some old.value) (some value) (by simpa using hold)
    (by simpa using hfit.value) .update
  refine ⟨conn', ?_, hs, ht⟩
  have hq : query engine (.versionAndValue (escape namespaceId) (escape key)) conn =
      (.ok [[intCell old.version, old.value]], conn) := by
    rw [query_versionAndValue, h]
    rfl
  have hv : ofExcept (stoi (cell [intCell old.version, old.value] 0)) conn =
      (.ok old.version, conn) := by
    simp [cell, stoi_intCell]
  have hcell : cell [intCell old.version, old.value] 1 = old.value := rfl
  unfold updateConfig
  rw [bind_of_ok hq]
  simp only [hcell]
  rw [bind_of_ok hv, bind_of_ok (execute_of_some hu)]
  simpa only [Option.map_some] using hr

/-- The deletion of a key's row with escaped values, in a draft deletion only of a draft. -/
theorem exec_deleteConfigs (t : MysqlTables) (namespaceId key : String) (draft : Bool) :
    (Statement.deleteConfigs (escape namespaceId) (escape key)
      (if draft then some .draft else none)).exec engine t =
      some { t with configs := t.configs.removeWhere (removes namespaceId key draft) } := by
  have hp : (fun c ↦ atKey namespaceId key c &&
      optionally (if draft then some .draft else none) (fun s ↦ c.status = s)) =
      removes namespaceId key draft := by
    funext c
    cases draft <;> simp [removes, optionally]
  simp [Statement.exec, hp]

/-- `deleteConfig` removes the row, in a draft deletion only a draft, and logs it. -/
theorem deleteConfig_run (hts : isClockText ts) (conn : Connection)
    {namespaceId key operatorId : String} (hns : TextFits (.varchar 255) namespaceId)
    (hkey : TextFits (.varchar 255) key) (hop : TextFits (.varchar 255) operatorId)
    (draft : Bool) :
    ∃ conn', deleteConfig engine namespaceId key operatorId draft ts conn = (.ok true, conn') ∧
      conn'.snapshot = conn.snapshot ∧
      conn'.tables =
        { conn.tables with
          configs := conn.tables.configs.removeWhere (removes namespaceId key draft)
          : MysqlTables }.log
          (logRow namespaceId key none none operatorId 0 .delete (datetimeText ts)) := by
  have hd := exec_deleteConfigs engine conn.tables namespaceId key draft
  have hl (t : MysqlTables) := exec_insertChangeLog engine hts t hns hkey hop 0
    none none (by simp) (by simp) .delete
  simp only [Option.map_none] at hl
  unfold deleteConfig
  cases draft with
  | true =>
    simp only [if_true] at hd ⊢
    rw [bind_of_ok (execute_of_some hd), bind_of_ok (execute_of_some (hl _))]
    exact ⟨_, rfl, rfl, rfl⟩
  | false =>
    simp only [Bool.false_eq_true, if_false] at hd ⊢
    rw [bind_of_ok (execute_of_some hd), bind_of_ok (execute_of_some (hl _))]
    exact ⟨_, rfl, rfl, rfl⟩

/-- `getConfig` reads the key's row and hides drafts unless asked for them. -/
theorem getConfig_run (conn : Connection) (namespaceId key : String) (includeDraft : Bool) :
    getConfig engine namespaceId key includeDraft conn =
      (.ok ((conn.tables.configs.find? (namespaceId, key)).filter
        (fun c ↦ includeDraft || c.status = .live)), conn) := by
  unfold getConfig
  rw [bind_apply, query_apply]
  simp only [Query.rows, literal_escape, Option.bind_eq_bind, Option.bind_some, Option.pure_def,
    atKey_eq, scan_atKey, Option.getD_some]
  cases conn.tables.configs.find? (namespaceId, key) with
  | none => rfl
  | some c =>
    have hd : (cell c.cells 4 = "draft") = (c.status = .draft) := by
      cases hs : c.status <;> simp [cell, ConfigKey.cells, ConfigStatus.cell, hs]
    cases includeDraft <;> cases hs : c.status <;>
      simp [hd, hs, readConfig_cells, Option.filter]

/-- `listConfigs` scans the namespace's rows and drops drafts unless asked for them. -/
theorem listConfigs_run (conn : Connection) (namespaceId : String) (includeDraft : Bool) :
    listConfigs engine namespaceId includeDraft conn =
      (.ok (engine.scan (conn.tables.configs.rows.filter
        (fun c ↦ c.namespaceId = namespaceId ∧ (includeDraft || c.status = .live)))), conn) := by
  have hm := mapM_cells readConfig_cells
  cases includeDraft with
  | true => simp [listConfigs, Query.rows, hm, optionally]
  | false => simp [listConfigs, Query.rows, hm, optionally]

/-! ### Versions and change history -/

/-- `getConfigVersions` sorts the version rows with the key's id. -/
theorem getConfigVersions_run (conn : Connection) (namespaceId key : String) :
    getConfigVersions engine namespaceId key conn =
      (.ok (engine.orderBy ConfigVersion.version (conn.tables.configVersions.filter
        (fun v ↦ v.configId = makeConfigId namespaceId key))), conn) := by
  simp [getConfigVersions, Query.rows, mapM_cells readConfigVersion_cells]

/-- `getConfigVersion` returns the first version row with the key's id and the number. -/
theorem getConfigVersion_run (conn : Connection) (namespaceId key : String) (version : Int32) :
    getConfigVersion engine namespaceId key version conn =
      (.ok (conn.tables.configVersions.find?
        (fun v ↦ v.configId = makeConfigId namespaceId key ∧ v.version = version)), conn) := by
  unfold getConfigVersion
  rw [bind_apply, query_apply]
  simp only [Query.rows, literal_escape, Option.bind_eq_bind, Option.bind_some, Option.pure_def,
    same_eq, ← Bool.decide_and, Option.getD_some, ← List.head?_filter]
  cases conn.tables.configVersions.filter
    (fun v ↦ v.configId = makeConfigId namespaceId key ∧ v.version = version) with
  | nil => rfl
  | cons v rest => simp [readConfigVersion_cells]

/-- `rollbackConfig` is the update that its lookup resolves it to. -/
theorem rollbackConfig_run (conn : Connection) (namespaceId key : String) (targetVersion : Int32)
    (operatorId : String) :
    rollbackConfig engine namespaceId key targetVersion operatorId ts conn =
      match conn.tables.configVersions.find?
        (fun v ↦ v.configId = makeConfigId namespaceId key ∧ v.version = targetVersion) with
      | none => (.ok false, conn)
      | some v => updateConfig engine namespaceId key v.value operatorId true ts conn := by
  unfold rollbackConfig
  rw [bind_of_ok (getConfigVersion_run engine conn namespaceId key targetVersion)]
  cases conn.tables.configVersions.find?
    (fun v ↦ v.configId = makeConfigId namespaceId key ∧ v.version = targetVersion) <;> rfl

/-- A log row as `getChangeHistory` returns it, with empty texts for NULL. -/
def logEntry (l : ChangeLogRow) : ChangeLog :=
  { id := l.id, configId := l.configId, namespaceId := l.namespaceId, key := l.key,
    version := l.version, oldValue := l.oldValue.getD "", newValue := l.newValue.getD "",
    operation := l.operation, operatorId := l.operatorId, createdAt := l.createdAt }

/-- Rows that a query of `getChangeHistory` with clock readings as time bounds selects. -/
def logMatches (q : ChangeLogQuery) (l : ChangeLogRow) : Bool :=
  optionally q.key (fun k ↦ l.key = k) &&
  optionally q.namespaceId (fun n ↦ l.namespaceId = n) &&
  optionally q.timeFrom (fun t ↦ datetimeText t ≤ l.createdAt) &&
  optionally q.timeTo (fun t ↦ l.createdAt ≤ datetimeText t)

private theorem optionally_map {α β : Type} (f : α → β) (filter : Option α) (p : β → Bool) :
    optionally (filter.map f) p = optionally filter (fun a ↦ p (f a)) := by
  cases filter <;> rfl

/-- `getChangeHistory` returns one page of the matching rows, newest first. -/
theorem getChangeHistory_run (conn : Connection) {q : ChangeLogQuery}
    (hfrom : ∀ t ∈ q.timeFrom, isClockText t) (hto : ∀ t ∈ q.timeTo, isClockText t)
    (hlimit : 0 ≤ q.pageSize.toInt) (hoffset : 0 ≤ ((q.page - 1) * q.pageSize).toInt) :
    getChangeHistory engine q conn =
      (.ok ((((engine.orderBy ChangeLogRow.createdAt
        (conn.tables.changeLogs.rows.filter (logMatches q))).drop
          ((q.page - 1) * q.pageSize).toInt.toNat).take q.pageSize.toInt.toNat).map logEntry),
        conn) := by
  have hneg : ¬ (q.pageSize.toInt < 0 ∨ ((q.page - 1) * q.pageSize).toInt < 0) := by omega
  unfold getChangeHistory
  rw [bind_apply, query_apply]
  simp only [Query.rows, mapM_literal_escape, mapM_datetime engine hfrom, mapM_datetime engine hto,
    same_eq, Option.bind_eq_bind, Option.bind_some, optionally_map, limitOffset, if_neg hneg,
    Option.pure_def, Option.getD_some, ofExcept_apply, mapM_cells readChangeLog_cells]
  rfl

/-! ### Releases and publishing -/

/-- The texts of a release have room in their columns. -/
structure ReleaseFits (r : Release) : Prop where
  namespaceId : TextFits (.varchar 255) r.namespaceId
  releaseNote : TextFits .text r.releaseNote
  releaseType : TextFits (.varchar 50) r.releaseType
  status : TextFits (.varchar 50) r.status
  whitelist : ∀ text ∈ r.whitelist, TextFits .text text
  operatorId : TextFits (.varchar 255) r.operatorId

/-- The room of a release can be checked. -/
instance (r : Release) : Decidable (ReleaseFits r) :=
  decidable_of_iff (TextFits (.varchar 255) r.namespaceId ∧ TextFits .text r.releaseNote ∧
      TextFits (.varchar 50) r.releaseType ∧ TextFits (.varchar 50) r.status ∧
      (∀ text ∈ r.whitelist, TextFits .text text) ∧ TextFits (.varchar 255) r.operatorId)
    ⟨fun ⟨hns, hnote, htype, hstatus, hwhite, hop⟩ ↦ ⟨hns, hnote, htype, hstatus, hwhite, hop⟩,
      fun h ↦ ⟨h.namespaceId, h.releaseNote, h.releaseType, h.status, h.whitelist, h.operatorId⟩⟩

/-- An insertion into `releases` with escaped values, in a known namespace. -/
theorem exec_insertRelease (hts : isClockText ts) {t : MysqlTables} {r : Release}
    (hns : r.namespaceId ∈ t.namespaces) (h : ReleaseFits r) :
    (Statement.insertRelease (escape r.namespaceId) r.releaseVersion (escape r.releaseNote)
      (escape r.releaseType) (escape r.status) r.grayscalePercentage (r.whitelist.map escape)
      (escape r.operatorId) ts).exec engine t =
      some (t.addRelease { r with createdAt := datetimeText ts }) := by
  simp [Statement.exec, datetime_literal engine hts, hns, h.namespaceId, h.releaseNote,
    h.releaseType, h.status, h.operatorId, mapM_stored_escape engine h.whitelist]
  rfl

/-- `createRelease` in a known namespace adds the release, stamped by the clock. -/
theorem createRelease_run (hts : isClockText ts) {conn : Connection} {release : Release}
    (hns : release.namespaceId ∈ conn.tables.namespaces) (h : ReleaseFits release) :
    ∃ conn' id, createRelease engine release ts conn =
        (.ok (true, { release with createdAt := ts, id }), conn') ∧
      conn'.snapshot = conn.snapshot ∧
      conn'.tables = conn.tables.addRelease { release with createdAt := datetimeText ts } := by
  have hi := exec_insertRelease engine hts hns h
  unfold createRelease
  simp only
  rw [bind_of_ok (execute_of_some hi)]
  simp only [bind_apply, query_apply, Query.rows, Option.pure_def, Option.getD_some,
    ofExcept_apply, generatedId, stoll_repr, pure_apply]
  exact ⟨_, _, rfl, rfl, rfl⟩

/-- A release row as `getReleases` returns it: an empty whitelist is lost. -/
def releaseEntry (r : Release) : Release :=
  { r with whitelist := r.whitelist.filter (fun w ↦ !(w = "")) }

/-- `getReleases` returns one page of the namespace's releases, newest first. -/
theorem getReleases_run (conn : Connection) {q : ReleaseQuery} (hlimit : 0 ≤ q.pageSize.toInt)
    (hoffset : 0 ≤ ((q.page - 1) * q.pageSize).toInt) :
    getReleases engine q conn =
      (.ok ((((engine.orderBy Release.createdAt
        (conn.tables.releases.rows.filter (fun r ↦ r.namespaceId = q.namespaceId))).drop
          ((q.page - 1) * q.pageSize).toInt.toNat).take q.pageSize.toInt.toNat).map releaseEntry),
        conn) := by
  have hneg : ¬ (q.pageSize.toInt < 0 ∨ ((q.page - 1) * q.pageSize).toInt < 0) := by omega
  unfold getReleases
  rw [bind_apply, query_apply]
  simp only [Query.rows, literal_escape, same_eq, Option.bind_eq_bind, Option.bind_some,
    limitOffset, if_neg hneg, Option.pure_def, Option.getD_some, ofExcept_apply,
    mapM_cells readRelease_cells]
  rfl

/-- The number of the next release: one above the largest, 1 for the first. -/
def nextNumber (releases : List Release) : Int32 :=
  (releases.map Release.releaseVersion).max?.elim 1 (· + 1)

/-- The text of `MAX(release_version)` is read as the number it stands for. -/
theorem nextVersion_cell (releases : List Release) :
    nextVersion [[((releases.map Release.releaseVersion).max?.map intCell).getD ""]] =
      .ok (nextNumber releases) := by
  unfold nextNumber nextVersion
  cases (releases.map Release.releaseVersion).max? with
  | none => rfl
  | some m => simp [intCell_ne_empty, stoi_intCell]

/-- The release row that `publishRelease` builds, `mysql_config_store.cpp:666–673`. -/
def publishedRelease (t : MysqlTables) (namespaceId releaseNote operatorId : String)
    (createdAt : Timestamp) : Release :=
  { namespaceId
    releaseVersion := nextNumber (t.releases.rows.filter (fun r ↦ r.namespaceId = namespaceId))
    releaseNote, releaseType := "full", status := "active", operatorId, createdAt }

/-- The texts of a publication have room in their columns. -/
structure PublicationFits (namespaceId releaseNote operatorId : String) : Prop where
  namespaceId : TextFits (.varchar 255) namespaceId
  releaseNote : TextFits .text releaseNote
  operatorId : TextFits (.varchar 255) operatorId

/-- Of the release of a publication only these texts vary. -/
theorem PublicationFits.release {namespaceId releaseNote operatorId : String}
    (h : PublicationFits namespaceId releaseNote operatorId) (releaseVersion : Int32)
    (createdAt : Timestamp) :
    ReleaseFits
      { namespaceId, releaseVersion, releaseNote, releaseType := "full", status := "active",
        operatorId, createdAt } where
  namespaceId := h.namespaceId
  releaseNote := h.releaseNote
  releaseType := (by decide : TextFits (.varchar 50) "full")
  status := (by decide : TextFits (.varchar 50) "active")
  whitelist := by simp
  operatorId := h.operatorId

/-- The tables with the namespace's rows live. -/
def live (t : MysqlTables) (namespaceId : String) : MysqlTables :=
  { t with
    configs := t.configs.mapWhere (fun c ↦ c.namespaceId = namespaceId)
      (ConfigKey.withStatus .live) (primaryKey_withStatus .live) }

/-- The tables after a publication: the namespace's rows are live and one release is added. -/
def published (t : MysqlTables) (namespaceId releaseNote operatorId : String)
    (createdAt : Timestamp) : MysqlTables :=
  (live t namespaceId).addRelease
    (publishedRelease t namespaceId releaseNote operatorId createdAt)

/-- The update of a namespace's rows with an escaped id. -/
theorem exec_setConfigStatus (t : MysqlTables) (namespaceId : String) :
    (Statement.setConfigStatus .live (escape namespaceId)).exec engine t =
      some (live t namespaceId) := by
  simp [Statement.exec, live]

private theorem prepareRelease_run (hts : isClockText ts) (conn : Connection)
    {namespaceId releaseNote operatorId : String} (hns : namespaceId ∈ conn.tables.namespaces)
    (h : PublicationFits namespaceId releaseNote operatorId) :
    ∃ conn' id, prepareRelease engine namespaceId releaseNote operatorId ts conn =
        (.ok { publishedRelease conn.tables namespaceId releaseNote operatorId ts with id },
          conn') ∧
      conn'.tables =
        published conn.tables namespaceId releaseNote operatorId (datetimeText ts) := by
  have hfull : escape "full" = "full" := by decide
  have hactive : escape "active" = "active" := by decide
  let found := conn.tables.releases.rows.filter (fun r ↦ r.namespaceId = namespaceId)
  let conn₁ := conn.after (.setConfigStatus .live (escape namespaceId))
    (live conn.tables namespaceId)
  have hq : query engine (.maxReleaseVersion (escape namespaceId)) conn₁ =
      (.ok [[((found.map Release.releaseVersion).max?.map intCell).getD ""]], conn₁) := by
    simp [Query.rows, found, conn₁, live]
  have hn : ofExcept (nextVersion
      [[((found.map Release.releaseVersion).max?.map intCell).getD ""]]) conn₁ =
      (.ok (nextNumber found), conn₁) := by
    rw [nextVersion_cell, ofExcept_apply]
  have hi := exec_insertRelease engine hts (t := conn₁.tables) hns (h.release (nextNumber found) "")
  simp only [hfull, hactive, Option.map_none] at hi
  unfold prepareRelease
  rw [bind_of_ok (execute_of_some (exec_setConfigStatus engine conn.tables namespaceId)),
    bind_of_ok hq, bind_of_ok hn]
  simp only
  rw [bind_of_ok (execute_of_some hi)]
  simp only [bind_apply, query_apply, Query.rows, Option.pure_def, Option.getD_some,
    ofExcept_apply, generatedId, stoll_repr, pure_apply]
  exact ⟨_, _, rfl, rfl⟩

/-- `publishRelease` of a known namespace makes its rows live and adds one release. -/
theorem publishRelease_run (hts : isClockText ts) {conn : Connection}
    {namespaceId releaseNote operatorId : String} (hns : namespaceId ∈ conn.tables.namespaces)
    (h : PublicationFits namespaceId releaseNote operatorId) :
    ∃ conn' id, publishRelease engine namespaceId releaseNote operatorId ts conn =
        (.ok (true,
          some { publishedRelease conn.tables namespaceId releaseNote operatorId ts with id }),
          conn') ∧
      conn'.snapshot = none ∧
      conn'.tables =
        published conn.tables namespaceId releaseNote operatorId (datetimeText ts) := by
  let started : Connection := { conn with snapshot := some conn.tables }
  obtain ⟨conn', id, hp, ht⟩ :=
    prepareRelease_run engine hts started hns h
  refine ⟨{ conn' with snapshot := none }, id, ?_, rfl, ht⟩
  unfold publishRelease
  rw [bind_of_ok (startTransaction_apply conn), bind_apply, tryCatch_apply, map_apply]
  simp only [started] at hp
  simp only [hp, bind_apply, commit_apply, pure_apply]

end ConfigCenter.Storage.MysqlConfigStore
