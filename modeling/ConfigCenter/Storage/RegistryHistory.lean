import ConfigCenter.Base.Provenance
import ConfigCenter.Storage.ManagerRuns

/-!
# Where applications and namespaces come from

Library `Storage`. What the answers of `NamespaceManager` say about its tables: after any run of
its calls and of writes to configurations, an application or a namespace is stored exactly when
a call that made it was acknowledged and none that removes it was acknowledged later.
-/

namespace ConfigCenter.Storage
open ConfigCenter.Base StorageM NamespaceManager

/-- The answer of a call of the manager. -/
def managerAnswer (db : Database) (e : ManagerEvent) : Except Thrown Response :=
  (e.2.exec e.1 noFaults db).1

/-- The call answered true. -/
def Acknowledged (db : Database) (e : ManagerEvent) : Prop :=
  managerAnswer db e = .ok (.bool true)

/-- The call made this namespace: it offered the row and was acknowledged. -/
def MakesNamespace (db : Database) (e : ManagerEvent) (n : Namespace) : Prop :=
  e.2.offer db e.1 = some n ∧ Acknowledged db e

/-- The call deletes the namespace of this id; it is always acknowledged. -/
def RemovesNamespace (_ : Database) (e : ManagerEvent) (n : Namespace) : Prop :=
  e.2 = .deleteNamespace n.id

/-- The call registered this application. -/
def MakesApplication (db : Database) (e : ManagerEvent) (a : Application) : Prop :=
  e = (a.createdAt, .registerApplication a.appId a.name a.description) ∧ Acknowledged db e

/-- The call removed the application of this id. -/
def RemovesApplication (db : Database) (e : ManagerEvent) (a : Application) : Prop :=
  e.2 = .removeApplication a.appId ∧ Acknowledged db e

variable {db : Database} {ts : Timestamp}

/-! ### Answers -/

private theorem fst_map_bool {x : StorageM Bool} {b : Bool}
    (h : (x noFaults db).1 = .ok b) :
    ((Response.bool <$> x) noFaults db).1 = .ok (.bool b) := by
  rw [map_run]
  rcases hrun : x noFaults db with ⟨r, db'⟩
  rw [hrun] at h
  obtain rfl : r = .ok b := h
  rfl

private theorem acknowledged_iff {x : StorageM Bool} {b : Bool} (h : (x noFaults db).1 = .ok b) :
    ((Response.bool <$> x) noFaults db).1 = .ok (.bool true) ↔ b = true := by
  rw [fst_map_bool h, Except.ok.injEq, Response.bool.injEq]

private theorem createCluster_answer {appId env cluster : String} {row : Namespace}
    (h : (ManagerCall.createCluster appId env cluster).offer db ts = some row) :
    (createCluster appId env cluster ts noFaults db).1 = .ok (db.addNamespace? row).isSome := by
  have hempty : (db.tables.namespaces.rows.filter
      (fun n ↦ n.appId = appId ∧ n.env = env ∧ n.cluster = cluster)).isEmpty = true ∧
      row = clusterRow appId env cluster ts := by
    rw [ManagerCall.offer] at h
    split at h
    · exact ⟨by assumption, (Option.some.inj h).symm⟩
    · cases h
  obtain ⟨hempty, rfl⟩ := hempty
  rw [createCluster, bind_run, getApplication_run]
  cases ha : db.tables.applications.find? appId with
  | none =>
    have hadd : db.addNamespace? (clusterRow appId env cluster ts) = none := by
      simp [Database.addNamespace?, clusterRow, ha]
    rw [hadd]
    rfl
  | some app =>
    simp only [Option.isNone_some, Bool.false_eq_true, if_false, bind_run, listNamespaces_run,
      hempty]
    exact congrArg Prod.fst (store_createNamespace_run (clusterRow appId env cluster ts) db)

/-- A call that offers a namespace answers whether it was stored. -/
theorem acknowledged_offer_iff {c : ManagerCall} {n : Namespace} (h : c.offer db ts = some n) :
    Acknowledged db (ts, c) ↔ (db.addNamespace? n).isSome := by
  cases c with
  | createNamespace appId env cluster name type parent =>
    cases h
    exact acknowledged_iff (congrArg Prod.fst
      (createNamespace_run appId env cluster name type parent ts db))
  | createCluster appId env cluster => exact acknowledged_iff (createCluster_answer h)
  | registerApplication appId name description => cases h
  | removeApplication appId => cases h
  | deleteNamespace namespaceId => cases h
  | config c => cases h

/-! ### What a call does to the namespaces -/

private theorem mem_namespaces_deleteNamespace (nsId : String) (n : Namespace) :
    n ∈ (managerStep db (ts, .deleteNamespace nsId)).tables.namespaces.rows ↔
      n ∈ db.tables.namespaces.rows ∧
        ¬ RemovesNamespace db (ts, .deleteNamespace nsId) n := by
  change n ∈ (step db (ts, .deleteNamespace nsId)).tables.namespaces.rows ↔ _
  rw [tables_step db ts _ rfl]
  change n ∈ db.tables.namespaces.rows.filter (fun n ↦ !decide (n.id = nsId)) ↔ _
  rw [List.mem_filter]
  rw [Bool.not_eq_true', decide_eq_false_iff_not, RemovesNamespace,
    ManagerCall.deleteNamespace.injEq, eq_comm]

/-- A call makes a namespace exactly when it stores the row it offers. -/
theorem makesNamespace_iff (c : ManagerCall) (n : Namespace) :
    MakesNamespace db (ts, c) n ↔
      c.offer db ts = some n ∧ ((c.offer db ts).bind db.addNamespace?).isSome := by
  constructor
  · rintro ⟨hoffer, hack⟩
    have hoffer : c.offer db ts = some n := hoffer
    have hstored := (acknowledged_offer_iff hoffer).mp hack
    refine ⟨hoffer, ?_⟩
    rwa [hoffer, Option.bind_some]
  · rintro ⟨hoffer, hstored⟩
    rw [hoffer, Option.bind_some] at hstored
    exact ⟨hoffer, (acknowledged_offer_iff hoffer).mpr hstored⟩

/-- A call adds the namespace it makes, and takes away the one it deletes. -/
theorem mem_namespaces_managerStep (db : Database) (e : ManagerEvent) (n : Namespace) :
    n ∈ (managerStep db e).tables.namespaces.rows ↔
      MakesNamespace db e n ∨ n ∈ db.tables.namespaces.rows ∧ ¬ RemovesNamespace db e n := by
  obtain ⟨ts, c⟩ := e
  by_cases hdelete : ∃ nsId, c = .deleteNamespace nsId
  · obtain ⟨nsId, rfl⟩ := hdelete
    have hmakes : ¬ MakesNamespace db (ts, .deleteNamespace nsId) n := by
      rintro ⟨hoffer, -⟩
      cases hoffer
    rw [mem_namespaces_deleteNamespace]
    exact (or_iff_right hmakes).symm
  · have hremoves : ¬ RemovesNamespace db (ts, c) n := fun h ↦ hdelete ⟨n.id, h⟩
    rw [makesNamespace_iff, and_iff_left hremoves]
    rcases managerStep_cases db ts c with
      ⟨row, db', hoffer, hadd, hstep⟩ | ⟨nsId, rfl, -⟩ | ⟨hnone, hsame⟩
    · rw [hstep, KeyedTable.rows_insert? (of_addNamespace? hadd).1, hoffer, Option.bind_some, hadd,
        List.mem_append, List.mem_singleton, Option.some.injEq, eq_comm (a := row), or_comm]
      simp only [Option.isSome_some, and_true]
    · exact absurd ⟨nsId, rfl⟩ hdelete
    · rw [hsame, hnone]
      simp only [Option.isSome_none, Bool.false_eq_true, and_false, false_or]

/-! ### What a call does to the applications -/

/-- The row `registerApplication` offers the store, `namespace_manager.cpp:37–41`. -/
def applicationRow (appId name : String) (description : Option String) (ts : Timestamp) :
    Application :=
  { appId, name, description, createdAt := ts }

variable (db ts) in
private theorem register_run (appId name : String) (description : Option String) :
    registerApplication appId name description ts noFaults db =
      (.ok (db.tables.applications.insert? (applicationRow appId name description ts)).isSome,
        ((db.tables.applications.insert? (applicationRow appId name description ts)).map
          fun applications ↦ { db with tables := { db.tables with applications } }).getD db) := by
  rw [registerApplication, bind_run, getApplication_run]
  cases hfind : db.tables.applications.find? appId with
  | some app =>
    have hnone : db.tables.applications.insert?
        (applicationRow appId name description ts) = none := by
      rw [KeyedTable.insert?_eq_none_iff]
      exact ⟨app, hfind⟩
    rw [hnone]
    rfl
  | none =>
    change SqliteConfigStore.createApplication (applicationRow appId name description ts)
      noFaults db = _
    simp only [SqliteConfigStore.createApplication, insertApplication, succeeds_run,
      insertChecked_run, noFaults]
    cases db.tables.applications.insert? (applicationRow appId name description ts) <;> rfl

private theorem remove_run (appId : String) :
    removeApplication appId noFaults db =
      if (db.tables.applications.find? appId).isSome &&
          db.tables.namespaces.rows.any (·.appId = appId) then (.error .constraint, db)
      else (.ok true, { db with tables :=
        { db.tables with
          applications := db.tables.applications.removeWhere (fun a ↦ a.appId = appId) } }) := by
  simp only [removeApplication, SqliteConfigStore.deleteApplication, bind_run, call_run,
    getTables_run, noFaults, Bool.false_eq_true, if_false]
  cases (db.tables.applications.find? appId).isSome &&
    db.tables.namespaces.rows.any (·.appId = appId) <;> rfl

private theorem mem_applications_register (appId name : String) (description : Option String)
    (a : Application) :
    a ∈ (managerStep db (ts, .registerApplication appId name description)).tables.applications.rows
      ↔ MakesApplication db (ts, .registerApplication appId name description) a ∨
        a ∈ db.tables.applications.rows := by
  have hanswer := acknowledged_iff
    (congrArg Prod.fst (register_run db ts appId name description))
  have hmakes : MakesApplication db (ts, .registerApplication appId name description) a ↔
      a = applicationRow appId name description ts ∧
        (db.tables.applications.insert? (applicationRow appId name description ts)).isSome := by
    rw [MakesApplication, Acknowledged, managerAnswer, ManagerCall.exec, hanswer]
    refine and_congr_left fun _ ↦ ?_
    constructor
    · intro h
      cases h
      rfl
    · rintro rfl
      rfl
  have hleft : (managerStep db (ts, .registerApplication appId name description)) =
      ((db.tables.applications.insert? (applicationRow appId name description ts)).map
        fun applications ↦ { db with tables := { db.tables with applications } }).getD db := by
    rw [managerStep, ManagerCall.exec, snd_map_run, register_run]
  rw [hmakes, hleft]
  cases hinsert : db.tables.applications.insert? (applicationRow appId name description ts) with
  | none => simp
  | some applications =>
    change a ∈ applications.rows ↔ _
    rw [KeyedTable.rows_insert? hinsert, List.mem_append, List.mem_singleton, or_comm]
    simp only [Option.isSome_some, and_true]

private theorem mem_applications_remove (appId : String) (a : Application) :
    a ∈ (managerStep db (ts, .removeApplication appId)).tables.applications.rows ↔
      a ∈ db.tables.applications.rows ∧
        ¬ RemovesApplication db (ts, .removeApplication appId) a := by
  have hremoves : RemovesApplication db (ts, .removeApplication appId) a ↔
      appId = a.appId ∧ ((db.tables.applications.find? appId).isSome &&
        db.tables.namespaces.rows.any (·.appId = appId)) = false := by
    rw [RemovesApplication, Acknowledged, managerAnswer, ManagerCall.exec, map_run, remove_run,
      ManagerCall.removeApplication.injEq]
    cases (db.tables.applications.find? appId).isSome &&
      db.tables.namespaces.rows.any (·.appId = appId) <;> simp
  rw [hremoves, managerStep, ManagerCall.exec, snd_map_run, remove_run]
  cases (db.tables.applications.find? appId).isSome &&
      db.tables.namespaces.rows.any (·.appId = appId) with
  | true => simp
  | false =>
    change a ∈ db.tables.applications.rows.filter (fun a ↦ !decide (a.appId = appId)) ↔ _
    rw [List.mem_filter, Bool.not_eq_true', decide_eq_false_iff_not, eq_comm (a := appId)]
    simp only [and_true]

private theorem applications_writesConfig (db : Database) (ts : Timestamp) {c : Call}
    (hc : c.writesConfig = true) :
    (step db (ts, c)).tables.applications = db.tables.applications := by
  have hcontrol : c.isTransactional = false := by cases c <;> first | rfl | cases hc
  rw [tables_step db ts c hcontrol]
  cases c with
  | publishRelease ns note op =>
    rw [Call.effect]
    split
    · rfl
    · rfl
  | createConfig _ _ _ _ | updateConfig _ _ _ _ _ | deleteConfig _ _ _ _
  | rollbackConfig _ _ _ _ => rfl
  | _ => cases hc

private theorem applications_offer (o : Option Namespace) :
    ((o.bind db.addNamespace?).getD db).tables.applications = db.tables.applications := by
  cases hadd : o.bind db.addNamespace? with
  | none => rfl
  | some db' =>
    obtain ⟨row, -, hrow⟩ := Option.bind_eq_some_iff.mp hadd
    exact (of_addNamespace? hrow).2.1

private theorem mem_applications_of_same {c : ManagerCall}
    (hsame : (managerStep db (ts, c)).tables.applications = db.tables.applications)
    (hregister : ∀ appId name description, c ≠ .registerApplication appId name description)
    (hremove : ∀ appId, c ≠ .removeApplication appId) (a : Application) :
    a ∈ (managerStep db (ts, c)).tables.applications.rows ↔
      MakesApplication db (ts, c) a ∨
        a ∈ db.tables.applications.rows ∧ ¬ RemovesApplication db (ts, c) a := by
  have hmakes : ¬ MakesApplication db (ts, c) a :=
    fun h ↦ hregister _ _ _ (congrArg Prod.snd h.1)
  have hremoves : ¬ RemovesApplication db (ts, c) a := fun h ↦ hremove _ h.1
  rw [hsame, or_iff_right hmakes, and_iff_left hremoves]

/-- A call adds the application it registers, and takes away the one it removes. -/
theorem mem_applications_managerStep (db : Database) (e : ManagerEvent) (a : Application) :
    a ∈ (managerStep db e).tables.applications.rows ↔
      MakesApplication db e a ∨
        a ∈ db.tables.applications.rows ∧ ¬ RemovesApplication db e a := by
  obtain ⟨ts, c⟩ := e
  cases c with
  | registerApplication appId name description =>
    have hremoves :
        ¬ RemovesApplication db (ts, .registerApplication appId name description) a := by
      rintro ⟨h, -⟩
      cases h
    rw [mem_applications_register, and_iff_left hremoves]
  | removeApplication appId =>
    have hmakes : ¬ MakesApplication db (ts, .removeApplication appId) a := by
      rintro ⟨h, -⟩
      cases h
    rw [mem_applications_remove, or_iff_right hmakes]
  | createNamespace appId env cluster name type parent =>
    refine mem_applications_of_same ?_ (by simp) (by simp) a
    rw [managerStep, ManagerCall.exec, snd_map_run, createNamespace_run]
    exact applications_offer (some (namespaceRow appId env cluster name type parent ts))
  | createCluster appId env cluster =>
    refine mem_applications_of_same ?_ (by simp) (by simp) a
    rw [managerStep, ManagerCall.exec, snd_map_run, createCluster_run]
    exact applications_offer _
  | deleteNamespace nsId => exact mem_applications_of_same rfl (by simp) (by simp) a
  | config c =>
    have hsame :
        (managerStep db (ts, .config c)).tables.applications = db.tables.applications :=
      applications_writesConfig db ts c.2
    exact mem_applications_of_same hsame (by simp) (by simp) a

/-! ### Whole runs -/

/-- After any run of the manager's calls and of configuration writes, from the empty database,
a namespace is stored exactly when a call that offered it was acknowledged and no later call
deleted its id; an application exactly when its registration was acknowledged and no later
removal of its id was. -/
theorem registry_stems (es : List ManagerEvent) :
    (∀ n : Namespace, n ∈ (run managerStep .empty es).tables.namespaces.rows ↔
      Stems managerStep MakesNamespace RemovesNamespace .empty es n) ∧
    ∀ a : Application, a ∈ (run managerStep .empty es).tables.applications.rows ↔
      Stems managerStep MakesApplication RemovesApplication .empty es a := by
  constructor
  · intro n
    have hnone : n ∉ Database.empty.tables.namespaces.rows := List.not_mem_nil
    exact holds_run_iff_stems (fun db n ↦ n ∈ db.tables.namespaces.rows) hnone
      (fun db e ↦ mem_namespaces_managerStep db e n) es
  · intro a
    have hnone : a ∉ Database.empty.tables.applications.rows := List.not_mem_nil
    exact holds_run_iff_stems (fun db a ↦ a ∈ db.tables.applications.rows) hnone
      (fun db e ↦ mem_applications_managerStep db e a) es

end ConfigCenter.Storage
