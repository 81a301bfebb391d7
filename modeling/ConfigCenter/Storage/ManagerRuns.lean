import ConfigCenter.Storage.Effects
import ConfigCenter.Storage.NamespaceManager

/-!
# Runs of the namespace manager

Library `Storage`. The writing methods of `NamespaceManager` and the configuration
writes of the store as steps of one machine. A step offers the store at most one
namespace; `managerStep_cases` says what a step leaves of the stored namespaces,
so that properties of whole runs need no case for each method.
-/

namespace ConfigCenter.Storage
open ConfigCenter.Base StorageM

/-- Calls that write configurations or publish them. -/
def Call.writesConfig : Call → Bool
  | .createConfig _ _ _ _ | .updateConfig _ _ _ _ _ | .deleteConfig _ _ _ _
  | .rollbackConfig _ _ _ _ | .publishRelease _ _ _ => true
  | _ => false

/-- Writing methods of `NamespaceManager`, `namespace_manager.h`, and of the store's
configurations. -/
inductive ManagerCall where
  | registerApplication (appId name : String) (description : Option String)
  | removeApplication (appId : String)
  | createCluster (appId env cluster : String)
  | createNamespace (appId env cluster name type : String) (parentNamespaceId : Option String)
  | deleteNamespace (namespaceId : String)
  | config (c : { c : Call // c.writesConfig = true })

/-- Run the method a call names, at one clock reading. -/
def ManagerCall.exec (ts : Timestamp) : ManagerCall → StorageM Response
  | .registerApplication appId name description =>
    .bool <$> NamespaceManager.registerApplication appId name description ts
  | .removeApplication appId => .bool <$> NamespaceManager.removeApplication appId
  | .createCluster appId env cluster =>
    .bool <$> NamespaceManager.createCluster appId env cluster ts
  | .createNamespace appId env cluster name type parentNamespaceId =>
    .bool <$> NamespaceManager.createNamespace appId env cluster name type parentNamespaceId ts
  | .deleteNamespace namespaceId => .bool <$> NamespaceManager.deleteNamespace namespaceId
  | .config c => Call.exec ts c.1

/-- A manager's call at the clock reading it saw. -/
abbrev ManagerEvent := Timestamp × ManagerCall

/-- The database after one call of the manager. -/
def managerStep (db : Database) (e : ManagerEvent) : Database := (e.2.exec e.1 noFaults db).2

/-- The row `createNamespace` offers the store, `namespace_manager.cpp:116–125`. -/
def namespaceRow (appId env cluster name type : String) (parentNamespaceId : Option String)
    (ts : Timestamp) : Namespace :=
  { id := NamespaceManager.makeNamespaceId appId env cluster name, appId, env, cluster, name, type,
    parentNamespaceId, approvalEnabled := some false, createdAt := ts }

/-- The row `createCluster` offers the store, `namespace_manager.cpp:84–91`. -/
def clusterRow (appId env cluster : String) (ts : Timestamp) : Namespace :=
  { id := NamespaceManager.makeNamespaceId appId env cluster "application", appId, env, cluster,
    name := "application", type := "private", parentNamespaceId := none,
    approvalEnabled := none, createdAt := ts }

/-- The database with one more namespace, where its application is stored and its id free. -/
def Database.addNamespace? (db : Database) (ns : Namespace) : Option Database :=
  match db.tables.applications.find? ns.appId with
  | none => none
  | some _ =>
    (db.tables.namespaces.insert? ns).map fun namespaces ↦
      { db with tables := { db.tables with namespaces } }

/-- The namespace a call offers the store. -/
def ManagerCall.offer (db : Database) (ts : Timestamp) : ManagerCall → Option Namespace
  | .createCluster appId env cluster =>
    if (db.tables.namespaces.rows.filter
        (fun n ↦ n.appId = appId ∧ n.env = env ∧ n.cluster = cluster)).isEmpty then
      some (clusterRow appId env cluster ts)
    else none
  | .createNamespace appId env cluster name type parentNamespaceId =>
    some (namespaceRow appId env cluster name type parentNamespaceId ts)
  | _ => none

/-! ### One equation for each method -/

/-- A namespace is stored where its application is and its id is free. -/
theorem addNamespace?_isSome (db : Database) (ns : Namespace) :
    (db.addNamespace? ns).isSome ↔
      (db.tables.applications.find? ns.appId).isSome ∧
        db.tables.namespaces.find? ns.id = none := by
  unfold Database.addNamespace?
  cases db.tables.applications.find? ns.appId with
  | none => simp
  | some app =>
    simp only [Option.isSome_map, KeyedTable.isSome_insert?, Option.isNone_iff_eq_none,
      Option.isSome_some, true_and]

/-- A stored namespace joins the others and nothing else changes. -/
theorem of_addNamespace? {db db' : Database} {ns : Namespace}
    (h : db.addNamespace? ns = some db') :
    db.tables.namespaces.insert? ns = some db'.tables.namespaces ∧
      db'.tables.applications = db.tables.applications ∧ db'.ledger = db.ledger := by
  unfold Database.addNamespace? at h
  split at h
  · cases h
  · cases hi : db.tables.namespaces.insert? ns with
    | none => simp [hi] at h
    | some namespaces =>
      rw [hi] at h
      cases h
      exact ⟨rfl, rfl, rfl⟩

namespace NamespaceManager

/-- `createNamespace` of the store adds the namespace where it can. -/
theorem store_createNamespace_run (ns : Namespace) (db : Database) :
    SqliteConfigStore.createNamespace ns noFaults db =
      (.ok (db.addNamespace? ns).isSome, (db.addNamespace? ns).getD db) := by
  simp only [SqliteConfigStore.createNamespace, insertNamespace, succeeds_run, insertChecked_run,
    noFaults, Database.addNamespace?]
  cases db.tables.applications.find? ns.appId with
  | none => rfl
  | some app => cases db.tables.namespaces.insert? ns <;> rfl

/-- `createNamespace` answers whether its row was stored. -/
theorem createNamespace_run (appId env cluster name type : String)
    (parentNamespaceId : Option String) (ts : Timestamp) (db : Database) :
    let row := namespaceRow appId env cluster name type parentNamespaceId ts
    createNamespace appId env cluster name type parentNamespaceId ts noFaults db =
      (.ok (db.addNamespace? row).isSome, (db.addNamespace? row).getD db) := by
  intro row
  unfold createNamespace
  rw [bind_run, getApplication_run]
  cases ha : db.tables.applications.find? appId with
  | none => simp [Database.addNamespace?, row, namespaceRow, ha]
  | some app => exact store_createNamespace_run row db

/-- `createCluster` stores its row unless the cluster has a namespace already. -/
theorem createCluster_run (appId env cluster : String) (ts : Timestamp) (db : Database) :
    (createCluster appId env cluster ts noFaults db).2 =
      (((ManagerCall.createCluster appId env cluster).offer db ts).bind db.addNamespace?).getD
        db := by
  unfold createCluster ManagerCall.offer
  rw [bind_run, getApplication_run]
  cases ha : db.tables.applications.find? appId with
  | none =>
    have hadd : db.addNamespace? (clusterRow appId env cluster ts) = none := by
      simp [Database.addNamespace?, clusterRow, ha]
    change db = _
    dsimp only
    split
    · rw [Option.bind_some, hadd, Option.getD_none]
    · rfl
  | some app =>
    simp only [Option.isNone_some, Bool.false_eq_true, if_false, bind_run, listNamespaces_run]
    cases (db.tables.namespaces.rows.filter
        (fun n ↦ n.appId = appId ∧ n.env = env ∧ n.cluster = cluster)).isEmpty with
    | false => rfl
    | true =>
      exact congrArg Prod.snd (store_createNamespace_run (clusterRow appId env cluster ts) db)

end NamespaceManager

/-! ### What a step leaves of the namespaces -/

private theorem namespaces_writesConfig (db : Database) (ts : Timestamp) {c : Call}
    (hc : c.writesConfig = true) :
    (step db (ts, c)).tables.namespaces = db.tables.namespaces := by
  apply namespaces_step
  · cases c <;> first | rfl | cases hc
  · cases c <;> first | rfl | cases hc

private theorem namespaces_registerApplication (db : Database) (ts : Timestamp)
    (appId name : String) (description : Option String) :
    (managerStep db (ts, .registerApplication appId name description)).tables.namespaces =
      db.tables.namespaces := by
  rw [managerStep, ManagerCall.exec, snd_map_run, NamespaceManager.registerApplication, bind_run,
    getApplication_run]
  cases db.tables.applications.find? appId with
  | some app => rfl
  | none =>
    let app : Application := { appId, name, description, createdAt := ts }
    have hstep : (SqliteConfigStore.createApplication app noFaults db).2 =
        step db (ts, .createApplication app) := (snd_map_run _ _ _ _).symm
    change (SqliteConfigStore.createApplication app noFaults db).2.tables.namespaces = _
    rw [hstep]
    exact namespaces_step db ts rfl rfl

private theorem cases_of_offer {db : Database} {ts : Timestamp} {c : ManagerCall}
    (hrun : managerStep db (ts, c) = ((c.offer db ts).bind db.addNamespace?).getD db) :
    (∃ ns db', c.offer db ts = some ns ∧ db.addNamespace? ns = some db' ∧
      managerStep db (ts, c) = db') ∨
    ((c.offer db ts).bind db.addNamespace? = none ∧
      (managerStep db (ts, c)).tables.namespaces = db.tables.namespaces) := by
  rw [hrun]
  cases hadd : (c.offer db ts).bind db.addNamespace? with
  | none => exact .inr ⟨rfl, rfl⟩
  | some db' =>
    obtain ⟨ns, hns, hdb⟩ := Option.bind_eq_some_iff.mp hadd
    exact .inl ⟨ns, db', hns, hdb, rfl⟩

/-- A step stores the namespace it offers, or deletes one, or leaves all as they are. -/
theorem managerStep_cases (db : Database) (ts : Timestamp) (c : ManagerCall) :
    (∃ ns db', c.offer db ts = some ns ∧ db.addNamespace? ns = some db' ∧
      managerStep db (ts, c) = db') ∨
    (∃ namespaceId, c = .deleteNamespace namespaceId ∧
      managerStep db (ts, c) = step db (ts, .deleteNamespace namespaceId)) ∨
    ((c.offer db ts).bind db.addNamespace? = none ∧
      (managerStep db (ts, c)).tables.namespaces = db.tables.namespaces) := by
  cases c with
  | createNamespace appId env cluster name type parent =>
    refine (cases_of_offer ?_).imp_right .inr
    rw [managerStep, ManagerCall.exec, snd_map_run, NamespaceManager.createNamespace_run]
    rfl
  | createCluster appId env cluster =>
    refine (cases_of_offer ?_).imp_right .inr
    rw [managerStep, ManagerCall.exec, snd_map_run, NamespaceManager.createCluster_run]
  | deleteNamespace namespaceId => exact .inr (.inl ⟨namespaceId, rfl, rfl⟩)
  | registerApplication appId name description =>
    exact .inr (.inr ⟨rfl, namespaces_registerApplication db ts appId name description⟩)
  | removeApplication appId =>
    have hkeep := namespaces_step db ts (c := .deleteApplication appId) rfl rfl
    exact .inr (.inr ⟨rfl, hkeep⟩)
  | config c => exact .inr (.inr ⟨rfl, namespaces_writesConfig db ts c.2⟩)

/-- What holds of all stored namespaces holds of them after a step exactly when it holds of the
one the step stores. -/
theorem forall_namespaces_managerStep {db : Database} {P : Namespace → Prop}
    (h : ∀ n ∈ db.tables.namespaces.rows, P n) (e : ManagerEvent) :
    (∀ n ∈ (managerStep db e).tables.namespaces.rows, P n) ↔
      ∀ ns, e.2.offer db e.1 = some ns → (db.addNamespace? ns).isSome → P ns := by
  obtain ⟨ts, c⟩ := e
  rcases managerStep_cases db ts c with
    ⟨ns, db', hoffer, hadd, hstep⟩ | ⟨nsId, rfl, hstep⟩ | ⟨hnone, hsame⟩
  · have hrows := KeyedTable.rows_insert? (of_addNamespace? hadd).1
    rw [hstep, hrows]
    constructor
    · intro hall ns' hoffer' _
      cases hoffer.symm.trans hoffer'
      exact hall ns (by simp)
    · intro hstores n hn
      rcases List.mem_append.mp hn with hn | hn
      · exact h n hn
      · rw [List.mem_singleton.mp hn]
        exact hstores ns hoffer (by rw [hadd]; rfl)
  · refine iff_of_true ?_ ?_
    · rw [hstep, tables_step db ts _ rfl]
      exact fun n hn ↦ h n (List.mem_of_mem_filter hn)
    · rintro ns ⟨⟩
  · refine iff_of_true ?_ ?_
    · rw [hsame]
      exact h
    · intro ns hoffer hadd
      rw [show c.offer db ts = some ns from hoffer, Option.bind_some] at hnone
      rw [hnone] at hadd
      cases hadd

end ConfigCenter.Storage
