import ConfigCenter.Base.Observation
import ConfigCenter.Storage.Backends
import ConfigCenter.Storage.MysqlOperations

/-!
# Coupled backends

Library `Storage`. `Coupled` says that the two databases hold the same rows, ids
and timestamps aside. A call that meets `Backends.Agreeable` is answered alike by
both stores and keeps them coupled: one lemma for each call, and
`matched_of_agreeable` for all of them.
-/

namespace ConfigCenter.Storage
open ConfigCenter.Base SqliteConfigStore

/-! ### Coupled stores -/

/-- A log row of the SQLite store as both stores show it, under its `DATETIME`. -/
def ChangeLog.stamped (l : ChangeLog) : Timestamp × ChangeLog := (datetimeText l.createdAt, l.aside)

/-- A log row of the MySQL store as both stores show it, under its `DATETIME`. -/
def ChangeLogRow.stamped (l : ChangeLogRow) : Timestamp × ChangeLog :=
  (l.createdAt, (MysqlConfigStore.logEntry l).aside)

/-- The tables of the two stores hold the same rows in the same order, ids and timestamps
aside; log rows also have the same timestamps. -/
structure CoupledTables (t : Tables) (m : MysqlTables) : Prop where
  namespaces : m.namespaces = t.namespaces.rows.map Namespace.id
  configs : Alike ConfigKey.aside ConfigKey.aside t.configs.rows m.configs.rows
  versions : Alike ConfigVersion.aside ConfigVersion.aside t.configVersions m.configVersions
  logs : Alike ChangeLog.stamped ChangeLogRow.stamped t.changeLogs.rows m.changeLogs.rows
  clocks : ∀ l ∈ t.changeLogs.rows, isClockText l.createdAt
  releases : Alike Release.aside Release.aside t.releases.rows m.releases.rows

/-- Neither store is inside a transaction and their tables are coupled. -/
structure Coupled (db : Database) (conn : Connection) : Prop where
  tables : CoupledTables db.tables conn.tables
  sqlite : db.snapshot = none
  mysql : conn.snapshot = none

namespace CoupledTables

variable {t : Tables} {m : MysqlTables}

/-- A key is found in both stores or in neither. -/
theorem find? (h : CoupledTables t m) (k : String × String) :
    (t.configs.find? k).map ConfigKey.aside = (m.configs.find? k).map ConfigKey.aside :=
  h.configs.find? (fun c ↦ c.primaryKey = k) (fun _ ↦ rfl) (fun _ ↦ rfl)

/-- The first version rows with a number look the same. -/
theorem version? (h : CoupledTables t m) (ns key : String) (version : Int32) :
    (t.ledger.version? ns key version).map ConfigVersion.aside =
      (m.configVersions.find?
        (fun v ↦ v.configId = makeConfigId ns key ∧ v.version = version)).map
          ConfigVersion.aside :=
  h.versions.find? (fun v ↦ v.configId = makeConfigId ns key ∧ v.version = version)
    (fun _ ↦ rfl) (fun _ ↦ rfl)

private theorem clocks_logged (h : CoupledTables t m) {cl : ChangeLog}
    (hcl : isClockText cl.createdAt) :
    ∀ l ∈ (t.ledger.logged cl).rows, isClockText l.createdAt := by
  intro l hl
  rcases List.mem_append.mp hl with hl | hl
  · exact h.clocks l hl
  · rw [List.mem_singleton.mp hl]
    exact hcl

/-- A deletion with equal effects on the rows keeps the tables coupled. -/
theorem delete (h : CoupledTables t m) {configs configs' : KeyedTable ConfigKey.primaryKey}
    (hc : Alike ConfigKey.aside ConfigKey.aside configs.rows configs'.rows) {cl : ChangeLog}
    {row : ChangeLogRow} (hl : cl.stamped = row.stamped) (hcl : isClockText cl.createdAt) :
    CoupledTables (t.withLedger { t.ledger with configs, logs := t.ledger.logged cl })
      ({ m with configs := configs' : MysqlTables }.log row) where
  namespaces := h.namespaces
  configs := hc
  versions := h.versions
  logs := h.logs.concat hl
  clocks := h.clocks_logged hcl
  releases := h.releases

/-- A write with equal effects on the rows keeps the tables coupled. -/
theorem write (h : CoupledTables t m) {configs configs' : KeyedTable ConfigKey.primaryKey}
    (hc : Alike ConfigKey.aside ConfigKey.aside configs.rows configs'.rows)
    {cv cv' : ConfigVersion} (hv : cv.aside = cv'.aside) {cl : ChangeLog} {row : ChangeLogRow}
    (hl : cl.stamped = row.stamped) (hcl : isClockText cl.createdAt) :
    CoupledTables
      (t.withLedger
        { configs, versions := t.ledger.versions ++ [cv], logs := t.ledger.logged cl })
      (MysqlConfigStore.written m configs' cv' row) where
  namespaces := h.namespaces
  configs := hc
  versions := h.versions.concat hv
  logs := h.logs.concat hl
  clocks := h.clocks_logged hcl
  releases := h.releases

end CoupledTables

/-! ### One call on coupled stores -/

/-- Both stores answer a call alike and are coupled after it. -/
def Matched (engine : Engine) (db : Database) (conn : Connection) (e : Timestamp × BackendCall) :
    Prop :=
  (respond db (e.1, e.2.toCall)).1.Similar (respondMysql engine conn e).1 ∧
    Coupled (respond db (e.1, e.2.toCall)).2 (respondMysql engine conn e).2

section Calls

variable (engine : Engine) [engine.ByteWise] {db : Database} {conn : Connection} {ts : Timestamp}

omit [engine.ByteWise] in
private theorem matched_of_eq {c : BackendCall} {r : Response} (r' : Response) {db' : Database}
    (conn' : Connection) (hd : respond db (ts, c.toCall) = (r, db'))
    (hm : c.execMysql engine ts conn = (.ok r', conn')) (hr : r.Similar r')
    (hc : Coupled db' conn') : Matched engine db conn (ts, c) := by
  unfold Matched respondMysql
  rw [hd, hm]
  exact ⟨hr, hc⟩

private theorem aside_versionRow (ns key value op : String) (version : Int32)
    (changeType : ChangeType) (ts ts' : Timestamp) :
    (Ledger.versionRow ns key value op version changeType ts).aside =
      (Ledger.versionRow ns key value op version changeType ts').aside := rfl

-- NULL and the empty text are one in what both stores show
private theorem stamped_logRow (ns key : String) (oldValue newValue : Option String) (op : String)
    (version : Int32) (operation : ChangeType) (ts : Timestamp) :
    (Ledger.writeLog ns key (oldValue.getD "") (newValue.getD "") op version operation ts).stamped =
      (MysqlConfigStore.logRow ns key oldValue newValue op version operation
        (datetimeText ts)).stamped := by
  simp only [ChangeLog.stamped, ChangeLogRow.stamped, Ledger.writeLog, MysqlConfigStore.logRow,
    MysqlConfigStore.logEntry, ChangeLog.aside]

private theorem matched_createConfig (h : Coupled db conn) (hts : isClockText ts)
    {ns key value op : String} (hns : ns ∈ conn.tables.namespaces)
    (hfree : db.ledger.row? ns key = none) (hfit : MysqlConfigStore.WriteFits ns key value op) :
    Matched engine db conn (ts, .createConfig ns key value op) := by
  obtain ⟨configs, hi, ha⟩ := Ledger.apply_create_of_none hfree value op ts
  have hfree' : conn.tables.configs.find? (ns, key) = none := by
    have hf := h.tables.find? (ns, key)
    rw [show db.tables.configs.find? (ns, key) = none from hfree] at hf
    simpa using hf.symm
  obtain ⟨configs', hi'⟩ : ∃ t, conn.tables.configs.insert?
      (Ledger.createdRow ns key value (datetimeText ts)) = some t :=
    KeyedTable.exists_insert? hfree'
  obtain ⟨conn', hm, hs, ht⟩ := MysqlConfigStore.createConfig_run engine hts hns hfit hi'
  refine matched_of_eq engine (.bool true) conn' (respond_createConfig db ts ns key value op) ?_ ?_
    ⟨?_, h.sqlite, hs.trans h.mysql⟩
  · simp only [BackendCall.execMysql, MysqlM.map_apply, hm]
  · simp [hfree, Response.Similar]
  · rw [ha, ht]
    refine h.tables.write ?_ (aside_versionRow ns key value op 1 .create ts _)
      (stamped_logRow ns key none (some value) op 1 .create ts) hts
    rw [KeyedTable.rows_insert? hi, KeyedTable.rows_insert? hi']
    exact h.tables.configs.concat rfl

private theorem updateConfig_coupled (h : Coupled db conn) (hroom : conn.tables.Fits)
    (hts : isClockText ts) {ns key value op : String}
    (hfit : (db.ledger.row? ns key).isSome → TextFits .text value ∧ TextFits (.varchar 255) op)
    (draft : Bool) :
    ∃ conn', MysqlConfigStore.updateConfig engine ns key value op draft ts conn =
        (.ok (db.ledger.row? ns key).isSome, conn') ∧
      Coupled (db.withLedger (db.ledger.apply (.update ns key value op draft ts))) conn' := by
  have hf := h.tables.find? (ns, key)
  change (db.ledger.row? ns key).map _ = _ at hf
  cases hr : db.ledger.row? ns key with
  | none =>
    have hr' : conn.tables.configs.find? (ns, key) = none := by
      rw [hr] at hf
      simpa using hf.symm
    refine ⟨conn, MysqlConfigStore.updateConfig_run_none engine hr' value op draft, ?_⟩
    rw [Ledger.apply_update_of_none hr]
    exact h
  | some old =>
    rw [hr, Option.map_some] at hf
    obtain ⟨old', hr', ho⟩ := Option.map_eq_some_iff.mp hf.symm
    obtain ⟨hvalue', hop⟩ := hfit (by rw [hr, Option.isSome_some])
    obtain ⟨hmem, hat⟩ := (KeyedTable.find?_eq_some_iff _ _ _).mp hr'
    obtain ⟨hns, hkey⟩ : old'.namespaceId = ns ∧ old'.key = key := Prod.ext_iff.mp hat
    -- namespace and key have room because a stored row has them
    obtain ⟨hnsfit, hkeyfit, holdfit⟩ := hroom.configs old' hmem
    have hw : MysqlConfigStore.WriteFits ns key value op :=
      ⟨hns ▸ hnsfit, hkey ▸ hkeyfit, hvalue', hop⟩
    obtain ⟨conn', hm, hs, ht⟩ :=
      MysqlConfigStore.updateConfig_run_some engine hts hr' hw holdfit draft
    have hversion : old'.version = old.version := (congrArg ConfigKey.version ho :)
    have hvalue : old'.value = old.value := (congrArg ConfigKey.value ho :)
    refine ⟨conn', hm, ?_, h.sqlite, hs.trans h.mysql⟩
    rw [Ledger.apply_update_of_some hr, ht, hversion, hvalue]
    refine h.tables.write ?_ (aside_versionRow ns key value op (old.version + 1) .update ts _)
      (stamped_logRow ns key (some old.value) (some value) op (old.version + 1) .update ts) hts
    -- both stores overwrite the row of the key with the same columns
    have hrep := KeyedTable.replace_of_find? hr
      (ConfigKey.overwrite value (old.version + 1) (if draft then .draft else .live) ts)
      (primaryKey_overwrite _ _ _ _)
    change db.ledger.configs.replace (Ledger.rewrittenRow old value draft ts) = _ at hrep
    rw [hrep]
    refine h.tables.configs.mapWhere (fun c ↦ atKey ns key c)
      (ConfigKey.overwrite value (old.version + 1) (if draft then .draft else .live) "")
      (fun _ ↦ decide_eq_decide.mpr Prod.ext_iff) (fun _ ↦ rfl) (fun _ ↦ rfl) (fun _ ↦ rfl)

private theorem matched_updateConfig (h : Coupled db conn) (hroom : conn.tables.Fits)
    (hts : isClockText ts) {ns key value op : String} {draft : Bool}
    (ha : Backends.Agreeable ⟨db, conn⟩ (ts, .updateConfig ns key value op draft)) :
    Matched engine db conn (ts, .updateConfig ns key value op draft) := by
  obtain ⟨conn', hm, hc⟩ := updateConfig_coupled engine h hroom hts ha draft
  refine matched_of_eq engine (.bool (db.ledger.row? ns key).isSome) conn'
    (respond_updateConfig db ts ns key value op draft) ?_ rfl hc
  simp only [BackendCall.execMysql, MysqlM.map_apply, hm]

private theorem matched_rollbackConfig (h : Coupled db conn) (hroom : conn.tables.Fits)
    (hts : isClockText ts) {ns key op : String} {target : Int32}
    (ha : Backends.Agreeable ⟨db, conn⟩ (ts, .rollbackConfig ns key target op)) :
    Matched engine db conn (ts, .rollbackConfig ns key target op) := by
  have hv := h.tables.version? ns key target
  change (db.ledger.version? ns key target).map _ = _ at hv
  have hd := respond_rollbackConfig db ts ns key op target
  have hm : MysqlConfigStore.rollbackConfig engine ns key target op ts conn = _ :=
    MysqlConfigStore.rollbackConfig_run engine conn ns key target op
  cases hr : db.ledger.version? ns key target with
  | none =>
    rw [hr] at hv hd
    rw [Option.map_none, eq_comm, Option.map_eq_none_iff] at hv
    rw [hv] at hm
    refine matched_of_eq engine (.bool false) conn hd ?_ rfl h
    simp only [BackendCall.execMysql, MysqlM.map_apply, hm]
  | some v =>
    rw [hr, Option.map_some] at hv
    rw [hr] at hd
    obtain ⟨v', hr', ho⟩ := Option.map_eq_some_iff.mp hv.symm
    have hvalue : v'.value = v.value := (congrArg ConfigVersion.value ho :)
    rw [hr'] at hm
    simp only [hvalue] at hm
    have hfit : (db.ledger.row? ns key).isSome →
        TextFits .text v.value ∧ TextFits (.varchar 255) op := fun hrow ↦
      ⟨hvalue ▸ hroom.configVersions v' (List.mem_of_find?_eq_some hr'),
        ha hrow (by rw [hr, Option.isSome_some])⟩
    obtain ⟨conn', hu, hc⟩ := updateConfig_coupled engine h hroom hts hfit true
    rw [hu] at hm
    refine matched_of_eq engine (.bool (db.ledger.row? ns key).isSome) conn'
      (hd.trans (respond_updateConfig db ts ns key v.value op true)) ?_ rfl hc
    simp only [BackendCall.execMysql, MysqlM.map_apply, hm]

private theorem matched_deleteConfig (h : Coupled db conn) (hts : isClockText ts)
    {ns key op : String} (hns : TextFits (.varchar 255) ns) (hkey : TextFits (.varchar 255) key)
    (hop : TextFits (.varchar 255) op) (draft : Bool) :
    Matched engine db conn (ts, .deleteConfig ns key op draft) := by
  obtain ⟨conn', hm, hs, ht⟩ :=
    MysqlConfigStore.deleteConfig_run engine hts conn hns hkey hop draft
  refine matched_of_eq engine (.bool true) conn' (respond_deleteConfig db ts ns key op draft) ?_ rfl
    ⟨?_, h.sqlite, hs.trans h.mysql⟩
  · simp only [BackendCall.execMysql, MysqlM.map_apply, hm]
  · rw [ht]
    refine h.tables.delete ?_ (stamped_logRow ns key none none op 0 .delete ts) hts
    exact h.tables.configs.filter (fun c ↦ !Ledger.removes ns key draft c) (fun _ _ ↦ rfl)
      (fun _ _ ↦ rfl)

private theorem matched_getConfig (h : Coupled db conn) (ns key : String) (includeDraft : Bool) :
    Matched engine db conn (ts, .getConfig ns key includeDraft) := by
  have hd : respond db (ts, .getConfig ns key includeDraft) =
      (.config (db.ledger.config? ns key includeDraft), db) := by
    simp [respond, Call.exec, getConfig_run, Response.ofExcept]
  have hm : (BackendCall.getConfig ns key includeDraft).execMysql engine ts conn =
      (.ok (.config ((conn.tables.configs.find? (ns, key)).filter
        (fun c ↦ includeDraft || c.status = .live))), conn) := by
    simp only [BackendCall.execMysql, MysqlM.map_apply, MysqlConfigStore.getConfig_run]
  refine matched_of_eq engine _ conn hd hm ?_ h
  have hf := congrArg (Option.filter fun c ↦ includeDraft || c.status = .live)
    (h.tables.find? (ns, key))
  simp only [Option.filter_map] at hf
  exact hf

private theorem matched_listConfigs (h : Coupled db conn) (ns : String) (includeDraft : Bool) :
    Matched engine db conn (ts, .listConfigs ns includeDraft) := by
  have hd : respond db (ts, .listConfigs ns includeDraft) =
      (.configs (db.ledger.configs.rows.filter
        (fun c ↦ c.namespaceId = ns ∧ (includeDraft || c.status = .live))), db) := by
    simp [respond, Call.exec, listConfigs_run, Response.ofExcept]
  have hm : (BackendCall.listConfigs ns includeDraft).execMysql engine ts conn =
      (.ok (.configs (engine.scan (conn.tables.configs.rows.filter
        (fun c ↦ c.namespaceId = ns ∧ (includeDraft || c.status = .live))))), conn) := by
    simp only [BackendCall.execMysql, MysqlM.map_apply, MysqlConfigStore.listConfigs_run]
  refine matched_of_eq engine _ conn hd hm ?_ h
  have halike := h.tables.configs.filter
    (fun c ↦ c.namespaceId = ns ∧ (includeDraft || c.status = .live))
    (fun _ _ ↦ rfl) (fun _ _ ↦ rfl)
  exact halike.map_perm (.refl _) (engine.scan_perm _)

private theorem matched_getConfigVersions (h : Coupled db conn) (ns key : String) :
    Matched engine db conn (ts, .getConfigVersions ns key) := by
  have hm : (BackendCall.getConfigVersions ns key).execMysql engine ts conn =
      (.ok (.versions (engine.orderBy ConfigVersion.version (conn.tables.configVersions.filter
        (fun v ↦ v.configId = makeConfigId ns key)))), conn) := by
    simp only [BackendCall.execMysql, MysqlM.map_apply, MysqlConfigStore.getConfigVersions_run]
  refine matched_of_eq engine _ conn rfl hm ?_ h
  have halike := h.tables.versions.filter (fun v ↦ v.configId = makeConfigId ns key)
    (fun _ _ ↦ rfl) (fun _ _ ↦ rfl)
  exact halike.map_perm (List.perm_insertionSort _ _) (engine.orderBy_perm _ _)

private theorem matched_getConfigVersion (h : Coupled db conn) (ns key : String)
    (version : Int32) : Matched engine db conn (ts, .getConfigVersion ns key version) := by
  have hd : respond db (ts, .getConfigVersion ns key version) =
      (.version (db.ledger.version? ns key version), db) := by
    simp [respond, Call.exec, getConfigVersion_run, Response.ofExcept]
  have hm : (BackendCall.getConfigVersion ns key version).execMysql engine ts conn =
      (.ok (.version (conn.tables.configVersions.find?
        (fun v ↦ v.configId = makeConfigId ns key ∧ v.version = version))), conn) := by
    simp only [BackendCall.execMysql, MysqlM.map_apply, MysqlConfigStore.getConfigVersion_run]
  exact matched_of_eq engine _ conn hd hm (h.tables.version? ns key version) h

private theorem matched_createRelease (h : Coupled db conn) (hts : isClockText ts)
    {release : Release} (hns : release.namespaceId ∈ conn.tables.namespaces)
    (hfit : MysqlConfigStore.ReleaseFits release) :
    Matched engine db conn (ts, .createRelease release) := by
  obtain ⟨conn', id, hm, hs, ht⟩ := MysqlConfigStore.createRelease_run engine hts hns hfit
  have hm' : (BackendCall.createRelease release).execMysql engine ts conn =
      (.ok (.outRelease true (some { release with createdAt := ts, id })), conn') := by
    simp only [BackendCall.execMysql, MysqlM.map_apply, hm]
  have hd : respond db (ts, .createRelease release) =
      (.outRelease true (some { release with id := db.tables.releases.nextId }),
        { db with tables := db.tables.addRelease release }) := rfl
  refine matched_of_eq engine _ conn' hd hm' ⟨rfl, rfl⟩ ⟨?_, h.sqlite, hs.trans h.mysql⟩
  rw [ht]
  exact { h.tables with releases := h.tables.releases.concat rfl }

private theorem lawfulOrderMax_int32 : Std.LawfulOrderMax Int32 where
  max_le_iff a b c := by
    change (if a ≤ b then b else a) ≤ c ↔ _
    split
    · next hab => exact ⟨fun hb ↦ ⟨Int32.le_trans hab hb, hb⟩, fun hc ↦ hc.2⟩
    · next hab =>
      have hba : b ≤ a := (Int32.le_total a b).resolve_left hab
      exact ⟨fun ha ↦ ⟨ha, Int32.le_trans hba ha⟩, fun hc ↦ hc.1⟩
  max_eq_or a b := by
    change (if a ≤ b then b else a) = a ∨ (if a ≤ b then b else a) = b
    split <;> simp

-- `ORDER BY release_version DESC LIMIT 1` and `MAX(release_version)` find the same number
/-- Both stores number the next release alike. -/
theorem maxReleaseVersion_add_one (all : List Release) :
    maxReleaseVersion all + 1 = MysqlConfigStore.nextNumber all := by
  have := lawfulOrderMax_int32
  unfold MysqlConfigStore.nextNumber
  rcases maxReleaseVersion_spec all with ⟨rfl, hm⟩ | ⟨m, hmem, hmax, hm⟩
  · rw [hm]
    decide
  · have hmax' : (all.map Release.releaseVersion).max? = some m.releaseVersion := by
      rw [List.max?_eq_some_iff]
      refine ⟨List.mem_map_of_mem hmem, ?_⟩
      intro b hb
      obtain ⟨r, hr, rfl⟩ := List.mem_map.mp hb
      exact hmax r hr
    rw [hm, hmax', Option.elim_some]

private theorem aside_nextRelease (h : CoupledTables db.tables conn.tables) (ns note op : String)
    (ts ts' : Timestamp) :
    (db.tables.nextRelease ns note op ts).aside =
      (MysqlConfigStore.publishedRelease conn.tables ns note op ts').aside := by
  have halike := h.releases.filter (fun r ↦ r.namespaceId = ns) (fun _ _ ↦ rfl) (fun _ _ ↦ rfl)
  have hversions := congrArg (List.map Release.releaseVersion) halike
  simp only [List.map_map] at hversions
  have hnumber : maxReleaseVersion
      (db.tables.releases.rows.filter (fun r ↦ r.namespaceId = ns)) + 1 =
      MysqlConfigStore.nextNumber
        (conn.tables.releases.rows.filter (fun r ↦ r.namespaceId = ns)) := by
    rw [maxReleaseVersion_add_one]
    exact congrArg (fun l ↦ l.max?.elim 1 (· + 1)) hversions
  simp only [Release.aside, Tables.nextRelease, SqliteConfigStore.publishedRelease,
    MysqlConfigStore.publishedRelease, hnumber]

private theorem matched_publishRelease (h : Coupled db conn) (hts : isClockText ts)
    {ns note op : String} (hns : ns ∈ conn.tables.namespaces)
    (hfit : MysqlConfigStore.PublicationFits ns note op) :
    Matched engine db conn (ts, .publishRelease ns note op) := by
  obtain ⟨conn', id, hm, hs, ht⟩ := MysqlConfigStore.publishRelease_run engine hts hns hfit
  have hm' : (BackendCall.publishRelease ns note op).execMysql engine ts conn =
      (.ok (.outRelease true (some
        { MysqlConfigStore.publishedRelease conn.tables ns note op ts with id })), conn') := by
    simp only [BackendCall.execMysql, MysqlM.map_apply, hm]
  refine matched_of_eq engine _ conn' (respond_publishRelease db ts ns note op h.sqlite) hm'
    ⟨rfl, congrArg some (aside_nextRelease h.tables ns note op ts ts)⟩ ⟨?_, h.sqlite, hs⟩
  rw [ht]
  exact
    { h.tables with
      configs := h.tables.configs.mapWhere (fun c ↦ c.namespaceId = ns)
        (ConfigKey.withStatus .live) (fun _ ↦ rfl) (fun _ ↦ rfl) (fun _ ↦ rfl) (fun _ ↦ rfl)
      releases := h.tables.releases.concat
        (aside_nextRelease h.tables ns note op ts (datetimeText ts)) }

/-- `ORDER BY … DESC` of the SQLite store lists rows from the largest key down. -/
theorem descending_orderByDesc {ρ κ : Type} [LinearOrder κ] (column : ρ → κ)
    (rows : List ρ) : Descending column (orderByDesc column rows) := by
  have htotal : Std.Total fun a b : ρ ↦ column b ≤ column a := ⟨fun a b ↦ le_total _ _⟩
  have htrans : IsTrans ρ fun a b ↦ column b ≤ column a := ⟨fun _ _ _ hab hbc ↦ hbc.trans hab⟩
  exact List.pairwise_insertionSort _ _

/-- An accepted page is the window that the other store cuts. -/
theorem window_of_accepted {ρ : Type} {page pageSize : Int32}
    (h : PageAccepted page pageSize) (rows : List ρ) :
    window pageSize ((page - 1) * pageSize) rows =
      (rows.drop (pageStart page pageSize)).take pageSize.toInt.toNat := by
  have hneg : ¬ pageSize.toInt < 0 := by
    have := h.1
    omega
  simp only [window, if_neg hneg, pageStart]

omit [engine.ByteWise] in
/-- A page of rows that both stores hold, ordered by creation times that compare alike. -/
theorem page_perm_of_clocks {ρ ρ' τ : Type} {f : ρ → τ} {g : ρ' → τ}
    {column : ρ → Timestamp} {column' : ρ' → Timestamp} {found : List ρ} {found' : List ρ'}
    (halike : Alike (fun x ↦ (datetimeText (column x), f x)) (fun y ↦ (column' y, g y)) found
      found')
    (hclock : ∀ x ∈ found, isClockText (column x)) {offset limit : Nat}
    (hfrom : Uncut column offset found) (hto : Uncut column (offset + limit) found) :
    ((((orderByDesc column found).drop offset).take limit).map f).Perm
      ((((engine.orderBy column' found').drop offset).take limit).map g) := by
  have hle : ∀ x ∈ found, ∀ y ∈ found,
      datetimeText (column x) ≤ datetimeText (column y) ↔ column x ≤ column y :=
    fun x hx y hy ↦ datetimeText_le_iff (hclock x hx) (hclock y hy)
  have hperm : (orderByDesc column found).Perm found := List.perm_insertionSort _ _
  have hdesc : Descending (fun x ↦ datetimeText (column x)) (orderByDesc column found) :=
    (descending_orderByDesc column found).imp_of_mem fun ha hb hab ↦
      (hle _ (hperm.mem_iff.mp hb) _ (hperm.mem_iff.mp ha)).mpr hab
  exact halike.page_perm hperm (engine.orderBy_perm _ _) hdesc (engine.orderBy_sorted _ _)
    (hfrom.congr_key hle) (hto.congr_key hle)

private theorem optionally_congr {α : Type} {filter : Option α} {p q : α → Bool}
    (h : ∀ a ∈ filter, p a = q a) : optionally filter p = optionally filter q := by
  cases filter with
  | none => simp only [optionally]
  | some a => exact h a rfl

-- the where clause of `getChangeHistory` on what both stores show of a log row
private def stampedMatches (q : ChangeLogQuery) (l : Timestamp × ChangeLog) : Bool :=
  optionally q.key (fun k ↦ l.2.key = k) &&
  optionally q.namespaceId (fun n ↦ l.2.namespaceId = n) &&
  optionally q.timeFrom (fun t ↦ datetimeText t ≤ l.1) &&
  optionally q.timeTo (fun t ↦ l.1 ≤ datetimeText t)

private theorem changeLogMatches_eq {q : ChangeLogQuery}
    (hfrom : ∀ t ∈ q.timeFrom, isClockText t) (hto : ∀ t ∈ q.timeTo, isClockText t)
    {l : ChangeLog} (hl : isClockText l.createdAt) :
    changeLogMatches q l = stampedMatches q l.stamped := by
  have hf : optionally q.timeFrom (fun t ↦ t ≤ l.createdAt) =
      optionally q.timeFrom (fun t ↦ datetimeText t ≤ datetimeText l.createdAt) :=
    optionally_congr fun t ht ↦ decide_eq_decide.mpr (datetimeText_le_iff (hfrom t ht) hl).symm
  have ht : optionally q.timeTo (fun t ↦ l.createdAt ≤ t) =
      optionally q.timeTo (fun t ↦ datetimeText l.createdAt ≤ datetimeText t) :=
    optionally_congr fun t ht ↦ decide_eq_decide.mpr (datetimeText_le_iff hl (hto t ht)).symm
  unfold changeLogMatches
  rw [hf, ht]
  rfl

private theorem matched_getChangeHistory (h : Coupled db conn) {q : ChangeLogQuery}
    (ha : Backends.Agreeable ⟨db, conn⟩ (ts, .getChangeHistory q)) :
    Matched engine db conn (ts, .getChangeHistory q) := by
  obtain ⟨hpage, hfrom, hto, hstart, hend⟩ := ha
  have hd : respond db (ts, .getChangeHistory q) =
      (.changeLogs (((orderByDesc ChangeLog.createdAt
        (db.tables.changeLogs.rows.filter (changeLogMatches q))).drop
          (pageStart q.page q.pageSize)).take q.pageSize.toInt.toNat), db) := by
    simp only [respond, Call.exec, StorageM.map_run, getChangeHistory_run, Response.ofExcept,
      window_of_accepted hpage]
  have hm : (BackendCall.getChangeHistory q).execMysql engine ts conn =
      (.ok (.changeLogs ((((engine.orderBy ChangeLogRow.createdAt
        (conn.tables.changeLogs.rows.filter (MysqlConfigStore.logMatches q))).drop
          (pageStart q.page q.pageSize)).take q.pageSize.toInt.toNat).map
            MysqlConfigStore.logEntry)), conn) := by
    simp only [BackendCall.execMysql, MysqlM.map_apply, pageStart,
      MysqlConfigStore.getChangeHistory_run engine conn hfrom hto hpage.1 hpage.2]
  refine matched_of_eq engine _ conn hd hm ?_ h
  have halike := h.tables.logs.filter (stampedMatches q)
    (fun l hl ↦ changeLogMatches_eq hfrom hto (h.tables.clocks l hl))
    (fun l _ ↦ (rfl : MysqlConfigStore.logMatches q l = _))
  have hclock : ∀ l ∈ db.tables.changeLogs.rows.filter (changeLogMatches q),
      isClockText l.createdAt := fun l hl ↦ h.tables.clocks l (List.mem_of_mem_filter hl)
  have hperm := page_perm_of_clocks engine halike hclock hstart hend
  rw [Response.Similar, List.map_map]
  exact hperm

private theorem alike_releaseEntry {found found' : List Release}
    (h : Alike Release.aside Release.aside found found')
    (hwhite : ∀ r ∈ found, r.whitelist ≠ some "") :
    Alike Release.aside (fun r ↦ (MysqlConfigStore.releaseEntry r).aside) found found' := by
  refine h.trans (List.map_congr_left ?_)
  intro r' hr'
  have hmem : r'.aside ∈ found.map Release.aside := h ▸ List.mem_map_of_mem hr'
  obtain ⟨r, hr, he⟩ := List.mem_map.mp hmem
  have hw : r'.whitelist ≠ some "" := by
    have hw' : r.whitelist = r'.whitelist := (congrArg Release.whitelist he :)
    exact hw' ▸ hwhite r hr
  have hkept : r'.whitelist.filter (fun w ↦ !(w = "")) = r'.whitelist := by
    cases hc : r'.whitelist with
    | none => rfl
    | some w =>
      have hne : w ≠ "" := fun e ↦ hw (by rw [hc, e])
      simp [Option.filter, hne]
  simp only [MysqlConfigStore.releaseEntry, hkept]

private theorem matched_getReleases (h : Coupled db conn) {q : ReleaseQuery}
    (ha : Backends.Agreeable ⟨db, conn⟩ (ts, .getReleases q)) :
    Matched engine db conn (ts, .getReleases q) := by
  obtain ⟨hpage, hwhite, hbounds⟩ := ha
  let found := db.tables.releases.rows.filter (fun r ↦ r.namespaceId = q.namespaceId)
  let found' := conn.tables.releases.rows.filter (fun r ↦ r.namespaceId = q.namespaceId)
  have hd : respond db (ts, .getReleases q) =
      (.releases (((orderByDesc Release.createdAt found).drop (pageStart q.page q.pageSize)).take
        q.pageSize.toInt.toNat), db) := by
    simp only [respond, Call.exec, StorageM.map_run, getReleases_run, Response.ofExcept,
      window_of_accepted hpage, found]
  have hm : (BackendCall.getReleases q).execMysql engine ts conn =
      (.ok (.releases ((((engine.orderBy Release.createdAt found').drop
        (pageStart q.page q.pageSize)).take q.pageSize.toInt.toNat).map
          MysqlConfigStore.releaseEntry)), conn) := by
    simp only [BackendCall.execMysql, MysqlM.map_apply, pageStart, found',
      MysqlConfigStore.getReleases_run engine conn hpage.1 hpage.2]
  refine matched_of_eq engine _ conn hd hm ?_ h
  have halike : Alike Release.aside (fun r ↦ (MysqlConfigStore.releaseEntry r).aside)
      found found' :=
    alike_releaseEntry (h.tables.releases.filter (fun r ↦ r.namespaceId = q.namespaceId)
      (fun _ _ ↦ rfl) (fun _ _ ↦ rfl)) hwhite
  rw [Response.Similar, List.map_map]
  rcases hbounds with ⟨hstart, hend⟩ | ⟨⟨hclock, hstamps⟩, hstart, hend⟩
  · exact halike.page_perm_of_outside (List.perm_insertionSort _ _) (engine.orderBy_perm _ _)
      hstart hend
  · have hstamped : Alike (fun r ↦ datetimeText r.createdAt) Release.createdAt found found' :=
      hstamps
    exact page_perm_of_clocks engine (hstamped.prod halike) hclock hstart hend

end Calls

/-- A call that meets the condition is answered alike and keeps the stores coupled. -/
theorem matched_of_agreeable (engine : Engine) [engine.ByteWise] {s : Backends}
    (h : Coupled s.sqlite s.mysql) (hroom : s.mysql.tables.Fits) {e : Timestamp × BackendCall}
    (hts : isClockText e.1) (hns : ∀ ns ∈ e.2.namespaceId?, ns ∈ s.namespaceIds)
    (ha : s.Agreeable e) : Matched engine s.sqlite s.mysql e := by
  obtain ⟨ts, c⟩ := e
  have hknown : ∀ ns ∈ c.namespaceId?, ns ∈ s.mysql.tables.namespaces := by
    rw [h.tables.namespaces]
    exact hns
  have hfit : ∀ ns ∈ c.namespaceId?, TextFits (.varchar 255) ns :=
    fun ns hc ↦ hroom.namespaces ns (hknown ns hc)
  cases c with
  | createConfig ns key value op =>
    obtain ⟨hfree, hkey, hvalue, hop⟩ := ha
    exact matched_createConfig engine h hts (hknown ns rfl) hfree ⟨hfit ns rfl, hkey, hvalue, hop⟩
  | updateConfig ns key value op draft => exact matched_updateConfig engine h hroom hts ha
  | deleteConfig ns key op draft =>
    exact matched_deleteConfig engine h hts (hfit ns rfl) ha.1 ha.2 draft
  | rollbackConfig ns key target op => exact matched_rollbackConfig engine h hroom hts ha
  | publishRelease ns note op =>
    exact matched_publishRelease engine h hts (hknown ns rfl) ⟨hfit ns rfl, ha.1, ha.2⟩
  | createRelease release => exact matched_createRelease engine h hts (hknown _ rfl) ha
  | getConfig ns key includeDraft => exact matched_getConfig engine h ns key includeDraft
  | listConfigs ns includeDraft => exact matched_listConfigs engine h ns includeDraft
  | getConfigVersions ns key => exact matched_getConfigVersions engine h ns key
  | getConfigVersion ns key version => exact matched_getConfigVersion engine h ns key version
  | getChangeHistory query => exact matched_getChangeHistory engine h ha
  | getReleases query => exact matched_getReleases engine h ha

end ConfigCenter.Storage
