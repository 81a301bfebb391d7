import ConfigCenter.Storage.BackendCoupling

/-!
# What requests see of both backends

Library `Storage`. The handlers of the server read no version rows and no log rows, and they
drop the answer of a creation. What is left of the two stores for them, the configurations and
the releases, stays the same under all calls whose texts have room in the columns: also where a
creation finds its key taken and the MySQL store still writes a version row and a log row, and
where it loses such a row.
-/

namespace ConfigCenter.Storage
open ConfigCenter.Base SqliteConfigStore
open MysqlConfigStore (cell stoi stoi_intCell)

/-- What a release shows, under its creation time as MySQL stores it. -/
def Release.dated (r : Release) : Timestamp × Release := (datetimeText r.createdAt, r.aside)

/-- The configurations of both stores are the same, timestamps aside, and so are their releases
with their creation times, ids aside; the namespaces of the MySQL store are these, and their ids
have room in its columns. -/
structure LooksAlike (nss : List String) (db : Database) (conn : Connection) : Prop where
  namespaces : conn.tables.namespaces = nss
  fits : ∀ n ∈ nss, TextFits (.varchar 255) n
  configs : Alike ConfigKey.aside ConfigKey.aside db.tables.configs.rows conn.tables.configs.rows
  releases : Alike Release.dated (fun r ↦ (r.createdAt, r.aside)) db.tables.releases.rows
    conn.tables.releases.rows
  clocks : ∀ r ∈ db.tables.releases.rows, isClockText r.createdAt ∧ r.whitelist = none
  sqlite : db.snapshot = none
  mysql : conn.snapshot = none

/-- The page of a query is one that both stores take, and its bounds separate no releases of one
second. -/
def UncutPage (db : Database) (q : ReleaseQuery) : Prop :=
  let found := db.tables.releases.rows.filter (fun r ↦ r.namespaceId = q.namespaceId)
  PageAccepted q.page q.pageSize ∧ Uncut Release.createdAt (pageStart q.page q.pageSize) found ∧
    Uncut Release.createdAt (pageEnd q.page q.pageSize) found

instance (db : Database) (q : ReleaseQuery) : Decidable (UncutPage db q) :=
  inferInstanceAs (Decidable ((_ ∧ _) ∧ _ ∧ _))

/-- Stores that start with the same namespaces and otherwise empty look alike. -/
theorem looksAlike_of_started {s : Backends} (h : s.Started) :
    LooksAlike s.namespaceIds s.sqlite s.mysql := by
  rw [h.mysql]
  constructor
  · rfl
  · exact h.fits
  · exact congrArg (List.map ConfigKey.aside) h.configs
  · exact congrArg (List.map Release.dated) h.releases
  · simp [h.releases]
  · exact h.snapshot
  · rfl

/-! ### Rows that no handler reads -/

/-- Nothing that a handler reads differs. -/
structure SameView (conn conn' : Connection) : Prop where
  namespaces : conn'.tables.namespaces = conn.tables.namespaces
  configs : conn'.tables.configs = conn.tables.configs
  releases : conn'.tables.releases = conn.tables.releases
  snapshot : conn'.snapshot = conn.snapshot

/-- An insertion into the versions or the log. -/
def Statement.Records : Statement → Prop
  | .insertConfigVersion .. | .insertChangeLog .. => True
  | _ => False

section Records

variable (engine : Engine)

-- whether the insertion goes through or not, no handler sees its row
private theorem execute_record {s : Statement} (hs : s.Records) (conn : Connection) :
    ∃ ok conn', execute engine s conn = (.ok ok, conn') ∧ SameView conn conn' := by
  unfold execute
  cases hexec : s.exec engine conn.tables with
  | none => exact ⟨false, conn, rfl, rfl, rfl, rfl, rfl⟩
  | some t =>
    refine ⟨true, conn.after s t, rfl, ?_⟩
    cases s with
    | insertConfigVersion _ _ _ _ _ _ =>
      simp only [Statement.exec, Option.bind_eq_bind, Option.bind_eq_some_iff, Option.pure_def,
        Option.some.injEq] at hexec
      obtain ⟨_, _, _, _, _, _, _, _, rfl⟩ := hexec
      exact ⟨rfl, rfl, rfl, rfl⟩
    | insertChangeLog _ _ _ _ _ _ _ _ _ =>
      simp only [Statement.exec, Option.bind_eq_bind, Option.bind_eq_some_iff, Option.pure_def,
        Option.some.injEq] at hexec
      obtain ⟨_, _, _, _, _, _, _, _, _, _, _, _, _, _, rfl⟩ := hexec
      exact ⟨rfl, rfl, rfl, rfl⟩
    | _ => cases hs

private theorem sameView_record {s : Statement} (hs : s.Records) (conn : Connection) :
    ∃ conn', (do let _ ← execute engine s; return true : MysqlM Bool) conn = (.ok true, conn') ∧
      SameView conn conn' := by
  obtain ⟨_, conn', hexec, hview⟩ := execute_record engine hs conn
  exact ⟨conn', by rw [MysqlM.bind_of_ok hexec, MysqlM.pure_apply], hview⟩

private theorem records_run {s s' : Statement} (hs : s.Records) (hs' : s'.Records)
    (conn : Connection) :
    ∃ conn', (do let _ ← execute engine s; let _ ← execute engine s'; return true : MysqlM Bool)
        conn = (.ok true, conn') ∧ SameView conn conn' := by
  obtain ⟨_, conn₁, hexec, hview⟩ := execute_record engine hs conn
  obtain ⟨conn', hrun, hview'⟩ := sameView_record engine hs' conn₁
  refine ⟨conn', by rw [MysqlM.bind_of_ok hexec, hrun], ?_⟩
  exact ⟨hview'.namespaces.trans hview.namespaces, hview'.configs.trans hview.configs,
    hview'.releases.trans hview.releases, hview'.snapshot.trans hview.snapshot⟩

end Records

/-! ### Calls on both stores -/

namespace LooksAlike

variable {nss : List String} {db : Database} {conn : Connection} {ts : Timestamp}

/-- A key is found in both stores or in neither. -/
theorem find? (h : LooksAlike nss db conn) (k : String × String) :
    (db.tables.configs.find? k).map ConfigKey.aside =
      (conn.tables.configs.find? k).map ConfigKey.aside :=
  h.configs.find? (fun c ↦ c.primaryKey = k) (fun _ ↦ rfl) (fun _ ↦ rfl)

/-- Edits of the configurations that look the same keep the stores alike. -/
theorem edit (h : LooksAlike nss db conn) {l : Ledger} {t : MysqlTables} {conn' : Connection}
    (hconfigs : Alike ConfigKey.aside ConfigKey.aside l.configs.rows t.configs.rows)
    (hreleases : t.releases = conn.tables.releases)
    (hnamespaces : t.namespaces = conn.tables.namespaces)
    (hview : SameView { conn with tables := t } conn') :
    LooksAlike nss (db.withLedger l) conn' where
  namespaces := hview.namespaces.trans (hnamespaces.trans h.namespaces)
  fits := h.fits
  configs := by
    rw [hview.configs]
    exact hconfigs
  releases := by
    rw [hview.releases, hreleases]
    exact h.releases
  clocks := h.clocks
  sqlite := h.sqlite
  mysql := hview.snapshot.trans h.mysql

variable (engine : Engine) [engine.ByteWise]

/-- `getConfig` finds the same in both stores. -/
theorem getConfig (h : LooksAlike nss db conn) (ns key : String) (includeDraft : Bool) :
    ∃ config config', SqliteConfigStore.getConfig ns key includeDraft noFaults db =
        (.ok config, db) ∧
      MysqlConfigStore.getConfig engine ns key includeDraft conn = (.ok config', conn) ∧
      config.map ConfigKey.aside = config'.map ConfigKey.aside := by
  refine ⟨_, _, getConfig_run .., MysqlConfigStore.getConfig_run engine conn ns key includeDraft,
    ?_⟩
  have hf := congrArg (Option.filter fun c ↦ includeDraft || c.status = .live) (h.find? (ns, key))
  simp only [Option.filter_map] at hf
  exact hf

private theorem mysql_createConfig (h : LooksAlike nss db conn) (hts : isClockText ts)
    {ns key value : String} (hns : ns ∈ nss) (hkey : TextFits (.varchar 255) key)
    (hvalue : TextFits .text value) (op : String) :
    ∃ conn', MysqlConfigStore.createConfig engine ns key value op ts conn = (.ok true, conn') ∧
      SameView
        { conn with
          tables := { conn.tables with
            configs := (conn.tables.configs.insert?
              (Ledger.createdRow ns key value (datetimeText ts))).getD conn.tables.configs } }
        conn' := by
  have hexec := MysqlConfigStore.exec_insertConfig engine hts (t := conn.tables)
    (by rw [h.namespaces]; exact hns) (h.fits ns hns) hkey hvalue
  cases hi : conn.tables.configs.insert? (Ledger.createdRow ns key value (datetimeText ts)) with
  | none =>
    rw [hi, Option.map_none] at hexec
    have hrefused : execute engine (.insertConfig (escape ns) (escape key) (escape value) 1 .draft
        ts ts) conn = (.ok false, conn) := by rw [execute, hexec]
    rw [MysqlConfigStore.createConfig, MysqlM.bind_of_ok hrefused]
    exact records_run engine (by trivial) (by trivial) conn
  | some configs =>
    rw [hi, Option.map_some] at hexec
    rw [MysqlConfigStore.createConfig, MysqlM.bind_of_ok (execute_of_some hexec)]
    exact records_run engine (by trivial) (by trivial) _

/-- `createConfig` leaves the stores alike, whatever each of them answers. -/
theorem createConfig (h : LooksAlike nss db conn) (hts : isClockText ts) {ns key value : String}
    (hns : ns ∈ nss) (hkey : TextFits (.varchar 255) key) (hvalue : TextFits .text value)
    (op : String) :
    ∃ ok ok' db' conn', SqliteConfigStore.createConfig ns key value op ts noFaults db =
        (.ok ok, db') ∧
      MysqlConfigStore.createConfig engine ns key value op ts conn = (.ok ok', conn') ∧
      LooksAlike nss db' conn' := by
  have hf := h.find? (ns, key)
  change (db.ledger.row? ns key).map _ = _ at hf
  obtain ⟨conn', hm, hview⟩ := mysql_createConfig engine h hts hns hkey hvalue op
  refine ⟨_, _, _, conn', createConfig_run .., hm, ?_⟩
  cases hrow : db.ledger.row? ns key with
  | some c =>
    rw [hrow, Option.map_some] at hf
    obtain ⟨c', hrow', -⟩ := Option.map_eq_some_iff.mp hf.symm
    have htaken : conn.tables.configs.insert?
        (Ledger.createdRow ns key value (datetimeText ts)) = none :=
      (KeyedTable.insert?_eq_none_iff _ _).mpr ⟨c', hrow'⟩
    rw [htaken] at hview
    rw [Ledger.apply_create_of_some hrow]
    exact h.edit h.configs rfl rfl hview
  | none =>
    rw [hrow, Option.map_none, eq_comm, Option.map_eq_none_iff] at hf
    obtain ⟨configs, hi, happly⟩ := Ledger.apply_create_of_none hrow value op ts
    obtain ⟨configs', hi'⟩ : ∃ t, conn.tables.configs.insert?
        (Ledger.createdRow ns key value (datetimeText ts)) = some t :=
      KeyedTable.exists_insert? hf
    rw [hi', Option.getD_some] at hview
    rw [happly]
    refine h.edit (t := { conn.tables with configs := configs' }) ?_ rfl rfl hview
    change Alike _ _ configs.rows configs'.rows
    rw [KeyedTable.rows_insert? hi, KeyedTable.rows_insert? hi']
    exact h.configs.concat rfl

/-- `updateConfig` answers the same and leaves the stores alike. -/
theorem updateConfig (h : LooksAlike nss db conn) (hts : isClockText ts)
    (ns key : String) {value : String} (hvalue : TextFits .text value) (op : String)
    (draft : Bool) :
    ∃ ok db' conn', SqliteConfigStore.updateConfig ns key value op draft ts noFaults db =
        (.ok ok, db') ∧
      MysqlConfigStore.updateConfig engine ns key value op draft ts conn = (.ok ok, conn') ∧
      LooksAlike nss db' conn' := by
  have hf := h.find? (ns, key)
  change (db.ledger.row? ns key).map _ = _ at hf
  have hsqlite := updateConfig_run ns key value op ts db draft
  cases hrow : db.ledger.row? ns key with
  | none =>
    rw [hrow, Option.map_none, eq_comm, Option.map_eq_none_iff] at hf
    rw [hrow, Ledger.apply_update_of_none hrow] at hsqlite
    exact ⟨_, _, _, hsqlite, MysqlConfigStore.updateConfig_run_none engine hf value op draft, h⟩
  | some old =>
    rw [hrow, Option.map_some] at hf
    obtain ⟨old', hrow', hold⟩ := Option.map_eq_some_iff.mp hf.symm
    have hversion : old'.version = old.version := (congrArg ConfigKey.version hold :)
    let status : ConfigStatus := if draft then .draft else .live
    let t : MysqlTables :=
      { conn.tables with
        configs := conn.tables.configs.mapWhere (atKey ns key)
          (ConfigKey.overwrite value (old.version + 1) status (datetimeText ts))
          (primaryKey_overwrite _ _ _ _) }
    have hexec := MysqlConfigStore.exec_updateConfig engine hts conn.tables hvalue ns key
      (old.version + 1) status
    have hq := MysqlConfigStore.query_versionAndValue engine conn ns key
    rw [hrow', Option.toList_some, List.map_singleton] at hq
    have hv : MysqlM.ofExcept (stoi (cell [intCell old'.version, old'.value] 0)) conn =
        (.ok old.version, conn) := by
      simp [cell, stoi_intCell, hversion]
    obtain ⟨conn', hm, hview⟩ : ∃ conn',
        MysqlConfigStore.updateConfig engine ns key value op draft ts conn = (.ok true, conn') ∧
        SameView { conn with tables := t } conn' := by
      rw [MysqlConfigStore.updateConfig, MysqlM.bind_of_ok hq]
      simp only
      rw [MysqlM.bind_of_ok hv, MysqlM.bind_of_ok (execute_of_some hexec)]
      exact records_run engine (by trivial) (by trivial) _
    rw [hrow, Ledger.apply_update_of_some hrow] at hsqlite
    refine ⟨_, _, conn', hsqlite, hm, h.edit (t := t) ?_ rfl rfl hview⟩
    -- both stores overwrite the row of the key with the same columns
    have hrep := KeyedTable.replace_of_find? hrow
      (ConfigKey.overwrite value (old.version + 1) (if draft then .draft else .live) ts)
      (primaryKey_overwrite _ _ _ _)
    change db.ledger.configs.replace (Ledger.rewrittenRow old value draft ts) = _ at hrep
    rw [hrep]
    exact h.configs.mapWhere (fun c ↦ atKey ns key c)
      (ConfigKey.overwrite value (old.version + 1) (if draft then .draft else .live) "")
      (fun _ ↦ decide_eq_decide.mpr Prod.ext_iff) (fun _ ↦ rfl) (fun _ ↦ rfl) (fun _ ↦ rfl)

/-- `deleteConfig` answers the same and leaves the stores alike. -/
theorem deleteConfig (h : LooksAlike nss db conn) (ns key op : String) (draft : Bool) :
    ∃ db' conn', SqliteConfigStore.deleteConfig ns key op draft ts noFaults db =
        (.ok true, db') ∧
      MysqlConfigStore.deleteConfig engine ns key op draft ts conn = (.ok true, conn') ∧
      LooksAlike nss db' conn' := by
  let t : MysqlTables :=
    { conn.tables with
      configs := conn.tables.configs.removeWhere (Ledger.removes ns key draft) }
  have hexec := MysqlConfigStore.exec_deleteConfigs engine conn.tables ns key draft
  obtain ⟨conn', hm, hview⟩ : ∃ conn',
      MysqlConfigStore.deleteConfig engine ns key op draft ts conn = (.ok true, conn') ∧
      SameView { conn with tables := t } conn' := by
    unfold MysqlConfigStore.deleteConfig
    cases draft with
    | true =>
      simp only [if_true] at hexec ⊢
      rw [MysqlM.bind_of_ok (execute_of_some hexec)]
      exact sameView_record engine (by trivial) _
    | false =>
      simp only [Bool.false_eq_true, if_false] at hexec ⊢
      rw [MysqlM.bind_of_ok (execute_of_some hexec)]
      exact sameView_record engine (by trivial) _
  refine ⟨_, conn', deleteConfig_run .., hm, h.edit (t := t) ?_ rfl rfl hview⟩
  exact h.configs.filter (fun c ↦ !Ledger.removes ns key draft c) (fun _ _ ↦ rfl) (fun _ _ ↦ rfl)

private theorem aside_published (h : LooksAlike nss db conn) (ns note op : String)
    (ts ts' : Timestamp) :
    (db.tables.nextRelease ns note op ts).aside =
      (MysqlConfigStore.publishedRelease conn.tables ns note op ts').aside := by
  have halike := h.releases.filter (fun p ↦ p.2.namespaceId = ns) (fun _ _ ↦ rfl) (fun _ _ ↦ rfl)
  have hversions := congrArg (List.map fun p ↦ p.2.releaseVersion) halike
  simp only [List.map_map] at hversions
  have hnumber : maxReleaseVersion
      (db.tables.releases.rows.filter (fun r ↦ r.namespaceId = ns)) + 1 =
      MysqlConfigStore.nextNumber
        (conn.tables.releases.rows.filter (fun r ↦ r.namespaceId = ns)) := by
    rw [maxReleaseVersion_add_one]
    exact congrArg (fun l ↦ l.max?.elim 1 (· + 1)) hversions
  simp only [Release.aside, Tables.nextRelease, SqliteConfigStore.publishedRelease,
    MysqlConfigStore.publishedRelease, hnumber]

/-- `publishRelease` answers the same and leaves the stores alike. -/
theorem publishRelease (h : LooksAlike nss db conn) (hts : isClockText ts) {ns note op : String}
    (hns : ns ∈ nss) (hnote : TextFits .text note) (hop : TextFits (.varchar 255) op) :
    ∃ release release' db' conn',
      SqliteConfigStore.publishRelease ns note op ts noFaults db =
        (.ok (true, some release), db') ∧
      MysqlConfigStore.publishRelease engine ns note op ts conn =
        (.ok (true, some release'), conn') ∧
      release.aside = release'.aside ∧ LooksAlike nss db' conn' := by
  obtain ⟨conn', id, hm, hs, ht⟩ := MysqlConfigStore.publishRelease_run engine hts
    (by rw [h.namespaces]; exact hns) ⟨h.fits ns hns, hnote, hop⟩
  have hsqlite : SqliteConfigStore.publishRelease ns note op ts noFaults db =
      (.ok (true, some (db.tables.nextRelease ns note op ts)),
        { db with tables := db.tables.published ns note op ts }) := by
    rw [publishRelease_run ns note op ts noFaults db h.sqlite]
    rfl
  have hrows : (db.tables.published ns note op ts).releases.rows =
      db.tables.releases.rows ++ [db.tables.nextRelease ns note op ts] := rfl
  have hrows' : (MysqlConfigStore.published conn.tables ns note op
      (datetimeText ts)).releases.rows = conn.tables.releases.rows ++
        [{ MysqlConfigStore.publishedRelease conn.tables ns note op (datetimeText ts) with
            id := conn.tables.releases.nextId }] := rfl
  refine ⟨_, _, _, conn', hsqlite, hm, aside_published h ns note op ts ts, ?_⟩
  constructor
  · rw [ht]
    exact h.namespaces
  · exact h.fits
  · rw [ht]
    exact h.configs.mapWhere (fun c ↦ c.namespaceId = ns) (ConfigKey.withStatus .live)
      (fun _ ↦ rfl) (fun _ ↦ rfl) (fun _ ↦ rfl) (fun _ ↦ rfl)
  · rw [ht, hrows, hrows']
    exact h.releases.concat
      (Prod.ext rfl (aside_published h ns note op ts (datetimeText ts)))
  · rw [hrows]
    intro r hr
    rcases List.mem_append.mp hr with hr | hr
    · exact h.clocks r hr
    · rw [List.mem_singleton.mp hr]
      exact ⟨hts, rfl⟩
  · exact h.sqlite
  · exact hs

/-- A page of releases whose bounds separate no releases of one second shows the same. -/
theorem getReleases (h : LooksAlike nss db conn) {q : ReleaseQuery} (hq : UncutPage db q) :
    ∃ releases releases', SqliteConfigStore.getReleases q noFaults db = (.ok releases, db) ∧
      MysqlConfigStore.getReleases engine q conn = (.ok releases', conn) ∧
      (releases.map Release.aside).Perm (releases'.map Release.aside) := by
  obtain ⟨hpage, hstart, hend⟩ := hq
  refine ⟨_, _, getReleases_run .., MysqlConfigStore.getReleases_run engine conn hpage.1 hpage.2,
    ?_⟩
  rw [window_of_accepted hpage]
  let found := db.tables.releases.rows.filter (fun r ↦ r.namespaceId = q.namespaceId)
  let found' := conn.tables.releases.rows.filter (fun r ↦ r.namespaceId = q.namespaceId)
  have halike : Alike Release.dated (fun r ↦ (r.createdAt, r.aside)) found found' :=
    h.releases.filter (fun p ↦ p.2.namespaceId = q.namespaceId) (fun _ _ ↦ rfl) (fun _ _ ↦ rfl)
  -- no release of the server has a whitelist, so MySQL reads back what it stored
  have hentry : ∀ r ∈ found', MysqlConfigStore.releaseEntry r = r := by
    intro r' hr'
    have hmem : (r'.createdAt, r'.aside) ∈ found.map Release.dated := by
      rw [halike]
      exact List.mem_map_of_mem hr'
    obtain ⟨r, hr, he⟩ := List.mem_map.mp hmem
    have hsame : r.whitelist = r'.whitelist := (congrArg (·.2.whitelist) he :)
    have hnone := (h.clocks r (List.mem_of_mem_filter hr)).2
    rw [hnone] at hsame
    rw [MysqlConfigStore.releaseEntry, ← hsame, Option.filter_none, hsame]
  have hread : Alike Release.dated
      (fun r ↦ (r.createdAt, (MysqlConfigStore.releaseEntry r).aside)) found found' := by
    refine halike.trans (List.map_congr_left fun r hr ↦ ?_)
    rw [hentry r hr]
  rw [List.map_map]
  exact page_perm_of_clocks engine hread
    (fun r hr ↦ (h.clocks r (List.mem_of_mem_filter hr)).1) hstart hend

end LooksAlike
end ConfigCenter.Storage
