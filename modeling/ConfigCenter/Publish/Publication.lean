import ConfigCenter.Publish.PublishEngine

/-!
# What a publication does

Library `Publish`. `publishRelease` under every pattern of storage failures: it
publishes the whole namespace and adds one release, or the tables are those it
found. The new release number is one above the largest of the namespace.
-/

namespace ConfigCenter.Publish
open ConfigCenter.Storage ConfigCenter.Base StorageM

/-- The release number is one above the largest of the namespace, 1 for the first. -/
def NextVersion (ns : String) (releases : List Release) (version : Int) : Prop :=
  (∀ r ∈ releases, r.namespaceId ≠ ns) ∧ version = 1 ∨
    ∃ m ∈ releases, m.namespaceId = ns ∧
      (∀ r ∈ releases, r.namespaceId = ns → r.releaseVersion.toInt ≤ m.releaseVersion.toInt) ∧
      version = m.releaseVersion.toInt + 1

/-- A namespace has been published as release `r`: its rows are live and otherwise
unchanged, `r` is the one new release, and nothing else differs. -/
structure Published (ns : String) (r : Release) (db db' : Database) : Prop where
  configs : db'.tables.configs.rows =
    db.tables.configs.rows.map fun c ↦ if c.namespaceId = ns then { c with status := .live } else c
  releases : db'.tables.releases.rows = db.tables.releases.rows ++ [r]
  active : r.namespaceId = ns ∧ r.status = "active"
  version : NextVersion ns db.tables.releases.rows r.releaseVersion.toInt
  applications : db'.tables.applications = db.tables.applications
  namespaces : db'.tables.namespaces = db.tables.namespaces
  configVersions : db'.tables.configVersions = db.tables.configVersions
  changeLogs : db'.tables.changeLogs = db.tables.changeLogs
  approvals : db'.tables.approvals = db.tables.approvals
  users : db'.tables.users = db.tables.users
  committed : db'.snapshot = none
  noDrafts : (PublishEngine.getDraftChanges ns noFaults db').1 = .ok []

private theorem nextVersion_nextRelease (t : Tables) (ns note op : String) (ts : Timestamp)
    (hv : ∀ r ∈ t.releases.rows, r.namespaceId = ns → r.releaseVersion.toInt < 2147483647) :
    NextVersion ns t.releases.rows (t.nextRelease ns note op ts).releaseVersion.toInt := by
  change NextVersion ns t.releases.rows (SqliteConfigStore.maxReleaseVersion
    (t.releases.rows.filter (fun r ↦ r.namespaceId = ns)) + 1).toInt
  rcases maxReleaseVersion_spec (t.releases.rows.filter (fun r ↦ r.namespaceId = ns)) with
    ⟨hn, hm⟩ | ⟨m, hmem, hmax, hm⟩
  · refine .inl ⟨?_, by rw [hm]; decide⟩
    intro r hr
    simpa using List.filter_eq_nil_iff.mp hn r hr
  · simp only [List.mem_filter, decide_eq_true_eq] at hmem hmax
    refine .inr ⟨m, hmem.1, hmem.2, ?_, ?_⟩
    · intro r hr hrn
      exact Int32.le_iff_toInt_le.mp (hmax r ⟨hr, hrn⟩)
    · rw [hm, toInt_add_one (hv m hmem.1 hmem.2)]

private theorem getDraftChanges_published (db : Database) (ns note op : String)
    (ts : Timestamp) :
    (PublishEngine.getDraftChanges ns noFaults
      { db with tables := db.tables.published ns note op ts }).1 = .ok [] := by
  simp only [PublishEngine.getDraftChanges, bind_run, listConfigs_run, pure_run]
  refine congrArg Except.ok ?_
  apply List.filter_eq_nil_iff.mpr
  intro c hc
  obtain ⟨hm, hn⟩ := List.mem_filter.mp hc
  obtain ⟨c₀, _, rfl⟩ := List.mem_map.mp hm
  split
  · simp [ConfigKey.withStatus]
  · next hne =>
    rw [if_neg hne] at hn
    exact absurd (by simpa using hn) hne

/-- `publishRelease` outside a transaction is all or nothing, whatever storage calls fail. -/
theorem publishRelease_atomic (ns note op : String) (ts : Timestamp) (faults : Faults)
    (db : Database) (hs : db.snapshot = none)
    (hv : ∀ r ∈ db.tables.releases.rows, r.namespaceId = ns →
      r.releaseVersion.toInt < 2147483647) :
    let result := SqliteConfigStore.publishRelease ns note op ts faults db
    (∃ r, result.1 = .ok (true, some r) ∧ Published ns r db result.2) ∨
      ((∃ e, result.1 = .error e) ∨ ∃ out, result.1 = .ok (false, out)) ∧ result.2 = db := by
  rw [publishRelease_run ns note op ts faults db hs]
  split
  · exact .inr ⟨.inl ⟨_, rfl⟩, rfl⟩
  split
  · exact .inr ⟨.inr ⟨_, rfl⟩, rfl⟩
  split
  · exact .inr ⟨.inr ⟨_, rfl⟩, rfl⟩
  refine .inl ⟨_, rfl, ?_⟩
  constructor
  · simp [Tables.published, Tables.addRelease, Tables.withLedger, Ledger.apply,
      KeyedTable.mapWhere, Tables.ledger, ConfigKey.withStatus]
  · rfl
  · exact ⟨rfl, rfl⟩
  · exact nextVersion_nextRelease db.tables ns note op ts hv
  · rfl
  · rfl
  · rfl
  · rfl
  · rfl
  · rfl
  · exact hs
  · exact getDraftChanges_published db ns note op ts

/-- A second publication over a new draft, with the disk full at `COMMIT`. -/
theorem publishRelease_atomic_commit_fails :
    let db := run step Database.empty
      [("t1", .createConfig "ns" "timeout" "30" "alice"), ("t2", .publishRelease "ns" "" "alice"),
        ("t3", .createConfig "ns" "retries" "5" "alice")]
    let result := SqliteConfigStore.publishRelease "ns" "second" "alice" "t4" (· = .commit) db
    (∃ r, result.1 = .ok (true, some r) ∧ Published "ns" r db result.2) ∨
      ((∃ e, result.1 = .error e) ∨ ∃ out, result.1 = .ok (false, out)) ∧ result.2 = db :=
  publishRelease_atomic "ns" "second" "alice" "t4" (· = .commit) _ rfl (by decide)

end ConfigCenter.Publish
