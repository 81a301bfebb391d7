import ConfigCenter.Storage.Ledger

/-!
# Calls as functions of the tables

Library `Storage`. What a call of the store leaves in the tables, as one pure
function of what it finds: configuration calls act on the ledger alone, each
other call on one table of its own. `step_effect` covers every call outside the
transaction control, so that frame conditions are read off the definition, and
`ledger_step` says that a call acts on the ledger as the one edit `Call.edit`
resolves it to.
-/

namespace ConfigCenter.Storage
open ConfigCenter.Base StorageM

/-- The approval table after one more row; its id is the table's own. -/
def Tables.addApproval (t : Tables) (a : Approval) : Tables :=
  { t with approvals := t.approvals.append (fun n ↦ { a with id := n }) a.id_with }

/-- The tables that a call leaves, the transaction control apart. -/
def Call.effect (db : Database) (ts : Timestamp) : Call → Tables
  | .createApplication app =>
    match db.tables.applications.insert? app with
    | none => db.tables
    | some applications => { db.tables with applications }
  | .deleteApplication appId =>
    if (db.tables.applications.find? appId).isSome &&
        db.tables.namespaces.rows.any (·.appId = appId) then db.tables
    else
      { db.tables with
        applications := db.tables.applications.removeWhere (fun a ↦ a.appId = appId) }
  | .createNamespace ns =>
    match db.tables.applications.find? ns.appId, db.tables.namespaces.insert? ns with
    | some _, some namespaces => { db.tables with namespaces }
    | _, _ => db.tables
  | .deleteNamespace nsId =>
    { db.tables with namespaces := db.tables.namespaces.removeWhere (fun n ↦ n.id = nsId) }
  | .createRelease release => db.tables.addRelease release
  | .retireRelease releaseId =>
    { db.tables with
      releases := db.tables.releases.mapWhere (fun r ↦ r.id = releaseId)
        (fun r ↦ { r with status := "retired" }) (Release.id_withStatus "retired") }
  | .publishRelease ns note op =>
    if db.snapshot.isSome then db.tables else db.tables.published ns note op ts
  | .createApproval approval => db.tables.addApproval approval
  | .updateApprovalStatus approvalId status comment =>
    { db.tables with
      approvals := db.tables.approvals.mapWhere (fun a ↦ a.id = approvalId)
        (fun a ↦ { a with status, comment, updatedAt := ts })
        (Approval.id_decided status comment ts) }
  | .createUser user =>
    if db.tables.users.rows.any (fun x ↦ x.username = user.username) then db.tables
    else
      { db.tables with
        users := db.tables.users.append (fun n ↦ { user with id := n }) user.id_with }
  | c => db.tables.withLedger (db.ledger.apply (c.edit db ts))

/-- A call outside the transaction control leaves the tables of its effect, and an open
transaction open. -/
theorem step_effect (db : Database) (ts : Timestamp) (c : Call) (h : c.isTransactional = false) :
    step db (ts, c) = { db with tables := c.effect db ts } := by
  cases c with
  | beginTransaction | commitTransaction | rollbackTransaction => cases h
  | createConfig ns key value op =>
    rw [step, respond_createConfig]
    rfl
  | updateConfig ns key value op draft =>
    rw [step, respond_updateConfig]
    rfl
  | deleteConfig ns key op draft =>
    rw [step, respond_deleteConfig]
    rfl
  | rollbackConfig ns key target op =>
    simp only [step, respond_rollbackConfig, Call.effect, Call.edit]
    cases db.ledger.version? ns key target with
    | none => rfl
    | some v =>
      simp only [respond_updateConfig]
      rfl
  | publishRelease ns note op =>
    simp only [step, Call.effect]
    cases hs : db.snapshot with
    | none =>
      rw [respond_publishRelease db ts ns note op hs, hs]
      rfl
    | some t =>
      have hopen : db.snapshot.isSome = true := by rw [hs]; rfl
      rw [← hs, if_pos hopen]
      simp [respond, Call.exec, publishRelease_run_open ns note op ts db hopen]
  | createApplication app =>
    simp only [step, respond, Call.exec, SqliteConfigStore.createApplication, insertApplication,
      map_run, succeeds_run, insertChecked_run, noFaults, Call.effect]
    cases db.tables.applications.insert? app <;> rfl
  | createNamespace ns =>
    simp only [step, respond, Call.exec, SqliteConfigStore.createNamespace, insertNamespace,
      map_run, succeeds_run, insertChecked_run, noFaults, Call.effect]
    cases db.tables.applications.find? ns.appId with
    | none => rfl
    | some app => cases db.tables.namespaces.insert? ns <;> rfl
  | createUser user =>
    simp only [step, respond, Call.exec, SqliteConfigStore.createUser, insertUser, map_run,
      succeeds_run, insertChecked_run, noFaults, Call.effect]
    cases db.tables.users.rows.any (fun x ↦ x.username = user.username) <;> rfl
  | deleteApplication appId =>
    simp only [step, respond, Call.exec, SqliteConfigStore.deleteApplication, map_run, bind_run,
      call_run, getTables_run, noFaults, Bool.false_eq_true, if_false, Call.effect]
    cases (db.tables.applications.find? appId).isSome &&
      db.tables.namespaces.rows.any (·.appId = appId) <;> rfl
  | getConfig ns key includeDraft =>
    simp only [step, respond, Call.exec, map_run, getConfig_run]
    rfl
  | listConfigs ns includeDraft =>
    simp only [step, respond, Call.exec, map_run, listConfigs_run]
    rfl
  | getApplication _ | listApplications | getNamespace _ | listNamespaces _ _ _
  | deleteNamespace _ | getConfigVersions _ _ | getConfigVersion _ _ _ | getChangeHistory _
  | createRelease _ | getReleases _ | getRelease _ | retireRelease _ | createApproval _
  | updateApprovalStatus _ _ _ | getPendingApprovals _ | getUserByUsername _ | listUsers => rfl

/-- The tables after a call outside the transaction control. -/
theorem tables_step (db : Database) (ts : Timestamp) (c : Call) (h : c.isTransactional = false) :
    (step db (ts, c)).tables = c.effect db ts := by
  rw [step_effect db ts c h]

private theorem ledger_effect (db : Database) (ts : Timestamp) (c : Call) :
    (c.effect db ts).ledger = db.ledger.apply (c.edit db ts) := by
  cases c with
  | createApplication _ | deleteApplication _ | createNamespace _ | createUser _ =>
    simp only [Call.effect]
    split <;> rfl
  | publishRelease ns note op =>
    simp only [Call.effect, Call.edit]
    split <;> rfl
  | _ => rfl

/-- A call acts on the ledger as its edit and leaves an open transaction open. -/
theorem ledger_step (db : Database) (ts : Timestamp) (c : Call) (h : c.isTransactional = false) :
    (step db (ts, c)).ledger = db.ledger.apply (c.edit db ts) ∧
      (step db (ts, c)).snapshot = db.snapshot := by
  rw [step_effect db ts c h]
  exact ⟨ledger_effect db ts c, rfl⟩

/-- Calls that create or delete a namespace. -/
def Call.writesNamespaces : Call → Bool
  | .createNamespace _ | .deleteNamespace _ => true
  | _ => false

/-- Every other call leaves the namespaces alone. -/
theorem namespaces_step (db : Database) (ts : Timestamp) {c : Call}
    (hc : c.isTransactional = false) (hn : c.writesNamespaces = false) :
    (step db (ts, c)).tables.namespaces = db.tables.namespaces := by
  rw [tables_step db ts c hc]
  cases c with
  | createNamespace _ | deleteNamespace _ => cases hn
  | createApplication _ | deleteApplication _ | createUser _ | publishRelease _ _ _ =>
    simp only [Call.effect]
    split
    · rfl
    · rfl
  | _ => rfl

/-- `BEGIN` remembers the tables unless a transaction is open. -/
theorem step_beginTransaction (db : Database) (ts : Timestamp) :
    step db (ts, .beginTransaction) =
      { db with snapshot := some (db.snapshot.getD db.tables) } := by
  obtain ⟨t, snapshot⟩ := db
  cases snapshot <;> rfl

/-- `COMMIT` keeps the tables and ends the transaction, if one is open. -/
theorem step_commitTransaction (db : Database) (ts : Timestamp) :
    step db (ts, .commitTransaction) = { db with snapshot := none } := by
  obtain ⟨t, snapshot⟩ := db
  cases snapshot <;> rfl

/-- `ROLLBACK` brings back the remembered tables, if a transaction is open. -/
theorem step_rollbackTransaction (db : Database) (ts : Timestamp) :
    step db (ts, .rollbackTransaction) =
      { tables := db.snapshot.getD db.tables, snapshot := none } := by
  obtain ⟨t, snapshot⟩ := db
  cases snapshot <;> rfl

end ConfigCenter.Storage
