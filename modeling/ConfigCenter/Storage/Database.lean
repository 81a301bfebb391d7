import Mathlib.Data.List.Sort
import ConfigCenter.Storage.DataTypes

/-!
# The SQLite database behind the store

Library `Storage`. Tables of `createStorage`, `sqlite_config_store.h:13–87`, one
connection with at most one open transaction, and the `sqlite_orm` calls the
store makes on it. The calls are third-party code: an insertion adds the whole
record or throws without effect on a constraint violation, an update replaces
the row with the same key, a scan without `order_by` returns insertion order,
`ORDER BY` is a stable sort. Any call but a rollback may also fail on its own;
a `Faults` value says which of them do.
-/

namespace ConfigCenter.Storage
open ConfigCenter.Base

/-- The tables of `createStorage`, `sqlite_config_store.h:16–86`. `config_versions`
alone has no key. -/
structure Tables where
  applications : KeyedTable Application.appId
  namespaces : KeyedTable Namespace.id
  configs : KeyedTable ConfigKey.primaryKey
  configVersions : List ConfigVersion
  changeLogs : SerialTable ChangeLog.id
  releases : SerialTable Release.id
  approvals : SerialTable Approval.id
  users : SerialTable User.id
  deriving DecidableEq

/-- The tables right after `sync_schema` on a new database file. -/
def Tables.empty : Tables where
  applications := .empty
  namespaces := .empty
  configs := .empty
  configVersions := []
  changeLogs := .empty
  releases := .empty
  approvals := .empty
  users := .empty

/-- One connection: the visible tables and, inside a transaction, the tables it
started from. -/
structure Database where
  tables : Tables
  snapshot : Option Tables := none
  deriving DecidableEq

/-- A new database outside any transaction. -/
def Database.empty : Database := { tables := .empty }

/-- What a C++ statement of the modelled code can throw. -/
inductive Thrown where
  /-- The storage call failed on its own. -/
  | storageFault
  /-- Primary key, unique or foreign key violation. -/
  | constraint
  /-- `BEGIN` inside a transaction, `COMMIT` or `ROLLBACK` outside one. -/
  | transactionState
  /-- `nlohmann::json` refused a text or a value of another type. -/
  | json
  /-- `std::stoi` or `std::stoll` found no number in range. -/
  | conversion
  deriving DecidableEq, Repr

/-- Tables a storage call can name. -/
inductive TableName where
  | applications
  | namespaces
  | configs
  | configVersions
  | changeLogs
  | releases
  | approvals
  | users
  deriving DecidableEq, Repr

/-- The `sqlite_orm` calls that may fail. -/
inductive StorageCall where
  | beginTransaction
  | commit
  | getAll (table : TableName)
  | insert (table : TableName)
  | update (table : TableName)
  | updateAll (table : TableName)
  | removeAll (table : TableName)
  deriving DecidableEq, Repr

/-- A failure pattern: which storage calls of one operation throw. -/
abbrev Faults := StorageCall → Bool

/-- The pattern in which only constraint violations throw. -/
def noFaults : Faults := fun _ ↦ false

/-- A computation on the connection: it returns or throws, and in both cases
leaves a database behind. -/
def StorageM (α : Type) : Type := Faults → Database → Except Thrown α × Database

namespace StorageM

variable {α β : Type}

/-- Sequencing stops at the first exception and keeps what was done before it. -/
instance : Monad StorageM where
  pure a := fun _ db ↦ (.ok a, db)
  bind x f := fun faults db ↦
    match x faults db with
    | (.ok a, db') => f a faults db'
    | (.error e, db') => (.error e, db')

/-- `throw`. -/
def throw (e : Thrown) : StorageM α := fun _ db ↦ (.error e, db)

/-- `try { … } catch (...) { … }`. -/
def tryCatch (x : StorageM α) (handler : StorageM α) : StorageM α := fun faults db ↦
  match x faults db with
  | (.ok a, db') => (.ok a, db')
  | (.error _, db') => handler faults db'

/-- `try { x; return true; } catch (...) { return false; }`. -/
def succeeds (x : StorageM Unit) : StorageM Bool :=
  tryCatch (do x; return true) (return false)

/-- A result leaves the database alone. -/
@[simp] theorem pure_run (a : α) (faults : Faults) (db : Database) :
    (pure a : StorageM α) faults db = (.ok a, db) := rfl

/-- A sequence goes on where its first part has returned. -/
@[simp] theorem bind_run (x : StorageM α) (f : α → StorageM β) (faults : Faults)
    (db : Database) :
    (x >>= f) faults db =
      match x faults db with
      | (.ok a, db') => f a faults db'
      | (.error e, db') => (.error e, db') := rfl

/-- A mapped result of the same run. -/
@[simp] theorem map_run (f : α → β) (x : StorageM α) (faults : Faults) (db : Database) :
    (f <$> x) faults db =
      match x faults db with
      | (.ok a, db') => (.ok (f a), db')
      | (.error e, db') => (.error e, db') := rfl

/-- What becomes of a result leaves the database alone. -/
theorem snd_map_run (f : α → β) (x : StorageM α) (faults : Faults) (db : Database) :
    ((f <$> x) faults db).2 = (x faults db).2 := by
  rw [map_run]
  cases x faults db with
  | mk r db' => cases r <;> rfl

/-- A throw leaves the database alone. -/
@[simp] theorem throw_run (e : Thrown) (faults : Faults) (db : Database) :
    (throw e : StorageM α) faults db = (.error e, db) := rfl

/-- A handler runs on what the exception left. -/
@[simp] theorem tryCatch_run (x : StorageM α) (handler : StorageM α) (faults : Faults)
    (db : Database) :
    tryCatch x handler faults db =
      match x faults db with
      | (.ok a, db') => (.ok a, db')
      | (.error _, db') => handler faults db' := rfl

/-- An exception is reported as `false`. -/
@[simp] theorem succeeds_run (x : StorageM Unit) (faults : Faults) (db : Database) :
    succeeds x faults db =
      match x faults db with
      | (.ok _, db') => (.ok true, db')
      | (.error _, db') => (.ok false, db') := by
  cases h : x faults db with
  | mk r db' => cases r <;> simp [succeeds, h]

end StorageM

open StorageM

/-- A failing call throws before it touches the database. -/
def call (c : StorageCall) : StorageM Unit := fun faults db ↦
  if faults c then (.error .storageFault, db) else (.ok (), db)

/-- The connection as a statement sees it. -/
def getDatabase : StorageM Database := fun _ db ↦ (.ok db, db)

/-- Leave another state of the connection behind. -/
def setDatabase (db : Database) : StorageM Unit := fun _ _ ↦ (.ok (), db)

/-- The tables as a statement sees them. -/
def getTables : StorageM Tables := fun _ db ↦ (.ok db.tables, db)

/-- Make a statement's changes visible. -/
def setTables (t : Tables) : StorageM Unit := fun _ db ↦ (.ok (), { db with tables := t })

/-- A storage call fails where a fault is set for it. -/
@[simp] theorem call_run (c : StorageCall) (faults : Faults) (db : Database) :
    call c faults db = if faults c then (.error .storageFault, db) else (.ok (), db) := rfl

/-- `getDatabase` returns the database. -/
@[simp] theorem getDatabase_run (faults : Faults) (db : Database) :
    getDatabase faults db = (.ok db, db) := rfl

/-- `setDatabase` replaces the database. -/
@[simp] theorem setDatabase_run (db' : Database) (faults : Faults) (db : Database) :
    setDatabase db' faults db = (.ok (), db') := rfl

/-- `getTables` returns the tables. -/
@[simp] theorem getTables_run (faults : Faults) (db : Database) :
    getTables faults db = (.ok db.tables, db) := rfl

/-- `setTables` replaces the tables. -/
@[simp] theorem setTables_run (t : Tables) (faults : Faults) (db : Database) :
    setTables t faults db = (.ok (), { db with tables := t }) := rfl

/-! ### Transactions -/

/-- `storage_->begin_transaction()`, `sqlite_config_store.cpp:416–419`. -/
def beginTransaction : StorageM Bool := do
  call .beginTransaction
  let db ← getDatabase
  match db.snapshot with
  | none =>
    setDatabase { db with snapshot := some db.tables }
    return true
  | some _ => throw .transactionState

/-- `storage_->commit()`, `sqlite_config_store.cpp:421–424`. -/
def commitTransaction : StorageM Bool := do
  call .commit
  let db ← getDatabase
  match db.snapshot with
  | some _ =>
    setDatabase { db with snapshot := none }
    return true
  | none => throw .transactionState

/-- `storage_->rollback()`, `sqlite_config_store.cpp:426–429`: the tables are again
those of the matching `BEGIN`. -/
def rollbackTransaction : StorageM Bool := do
  let db ← getDatabase
  match db.snapshot with
  | some t =>
    setDatabase { tables := t, snapshot := none }
    return true
  | none => throw .transactionState

/-- `BEGIN` fails inside a transaction. -/
@[simp] theorem beginTransaction_run (faults : Faults) (db : Database) :
    beginTransaction faults db =
      if faults .beginTransaction then (.error .storageFault, db)
      else match db.snapshot with
        | none => (.ok true, { db with snapshot := some db.tables })
        | some _ => (.error .transactionState, db) := by
  unfold beginTransaction
  cases hf : faults .beginTransaction <;> cases hs : db.snapshot <;> simp [hf, hs]

/-- `COMMIT` fails outside a transaction. -/
@[simp] theorem commitTransaction_run (faults : Faults) (db : Database) :
    commitTransaction faults db =
      if faults .commit then (.error .storageFault, db)
      else match db.snapshot with
        | some _ => (.ok true, { db with snapshot := none })
        | none => (.error .transactionState, db) := by
  unfold commitTransaction
  cases hf : faults .commit <;> cases hs : db.snapshot <;> simp [hf, hs]

/-- `ROLLBACK` fails outside a transaction. -/
@[simp] theorem rollbackTransaction_run (faults : Faults) (db : Database) :
    rollbackTransaction faults db =
      match db.snapshot with
      | some t => (.ok true, { tables := t, snapshot := none })
      | none => (.error .transactionState, db) := by
  unfold rollbackTransaction
  cases hs : db.snapshot <;> simp [hs]

/-! ### Scans, insertions and updates -/

/-- `storage_->get_all<T>(where …)` over the rows `rowsOf` of one table. -/
def getAll {ρ : Type} (table : TableName) (rowsOf : Tables → List ρ) (p : ρ → Bool) :
    StorageM (List ρ) := do
  call (.getAll table)
  let t ← getTables
  return (rowsOf t).filter p

/-- An insertion into a table with constraints: `none` is a violation. -/
def insertChecked (table : TableName) (f : Tables → Option Tables) : StorageM Unit := do
  call (.insert table)
  let t ← getTables
  match f t with
  | some t' => setTables t'
  | none => throw .constraint

/-- An autoincrement insertion: it returns the id that `nextId` reads before it. -/
def insertSerial (table : TableName) (nextId : Tables → Int) (f : Tables → Tables) :
    StorageM Int := do
  call (.insert table)
  let t ← getTables
  setTables (f t)
  return nextId t

/-- A statement that rewrites or deletes rows of one table. -/
def modify (c : StorageCall) (f : Tables → Tables) : StorageM Unit := do
  call c
  let t ← getTables
  setTables (f t)

/-- `get_all` returns the rows that meet the condition. -/
@[simp] theorem getAll_run {ρ : Type} (table : TableName) (rowsOf : Tables → List ρ)
    (p : ρ → Bool) (faults : Faults) (db : Database) :
    getAll table rowsOf p faults db =
      if faults (.getAll table) then (.error .storageFault, db)
      else (.ok ((rowsOf db.tables).filter p), db) := by
  unfold getAll
  cases h : faults (.getAll table) <;> simp [h]

/-- An insertion that a constraint may refuse. -/
@[simp] theorem insertChecked_run (table : TableName) (f : Tables → Option Tables)
    (faults : Faults) (db : Database) :
    insertChecked table f faults db =
      if faults (.insert table) then (.error .storageFault, db)
      else match f db.tables with
        | some t => (.ok (), { db with tables := t })
        | none => (.error .constraint, db) := by
  unfold insertChecked
  cases h : faults (.insert table) <;> cases ht : f db.tables <;> simp [h, ht]

/-- An insertion with the next id of its table. -/
@[simp] theorem insertSerial_run (table : TableName) (nextId : Tables → Int)
    (f : Tables → Tables) (faults : Faults) (db : Database) :
    insertSerial table nextId f faults db =
      if faults (.insert table) then (.error .storageFault, db)
      else (.ok (nextId db.tables), { db with tables := f db.tables }) := by
  unfold insertSerial
  cases h : faults (.insert table) <;> simp [h]

/-- A change of the tables. -/
@[simp] theorem modify_run (c : StorageCall) (f : Tables → Tables) (faults : Faults)
    (db : Database) :
    modify c f faults db =
      if faults c then (.error .storageFault, db)
      else (.ok (), { db with tables := f db.tables }) := by
  unfold modify
  cases h : faults c <;> simp [h]

/-- `storage_->insert(config)`. -/
def insertConfig (config : ConfigKey) : StorageM Unit :=
  insertChecked .configs fun t ↦
    (t.configs.insert? config).map fun configs ↦ { t with configs }

/-- `storage_->insert(cv)`; the table has no constraint. -/
def insertConfigVersion (cv : ConfigVersion) : StorageM Unit :=
  modify (.insert .configVersions) fun t ↦
    { t with configVersions := t.configVersions ++ [cv] }

/-- The change-log table after one more row; its id is the table's own. -/
def Tables.log (t : Tables) (cl : ChangeLog) : Tables :=
  { t with changeLogs := t.changeLogs.append (fun n ↦ { cl with id := n }) cl.id_with }

/-- `storage_->insert(cl)`. -/
def insertChangeLog (cl : ChangeLog) : StorageM Unit :=
  modify (.insert .changeLogs) fun t ↦ t.log cl

/-- The release table after one more row; its id is the table's own. -/
def Tables.addRelease (t : Tables) (r : Release) : Tables :=
  { t with releases := t.releases.append (fun n ↦ { r with id := n }) r.id_with }

/-- `storage_->insert(release)`, returning the new id. -/
def insertRelease (r : Release) : StorageM Int :=
  insertSerial .releases (fun t ↦ t.releases.nextId) fun t ↦ t.addRelease r

/-- `storage_->insert(approval)`, returning the new id. -/
def insertApproval (a : Approval) : StorageM Int :=
  insertSerial .approvals (fun t ↦ t.approvals.nextId) fun t ↦
    { t with approvals := t.approvals.append (fun n ↦ { a with id := n }) (fun _ ↦ rfl) }

/-- `storage_->insert(user)`; `username` is `unique()`. -/
def insertUser (u : User) : StorageM Unit :=
  insertChecked .users fun t ↦
    if t.users.rows.any (fun x ↦ x.username = u.username) then none
    else some
      { t with users := t.users.append (fun n ↦ { u with id := n }) (fun _ ↦ rfl) }

/-- `storage_->insert(app)`. -/
def insertApplication (app : Application) : StorageM Unit :=
  insertChecked .applications fun t ↦
    (t.applications.insert? app).map fun applications ↦ { t with applications }

/-- `storage_->insert(ns)`; `app_id` references `applications`. -/
def insertNamespace (ns : Namespace) : StorageM Unit :=
  insertChecked .namespaces fun t ↦
    if (t.applications.find? ns.appId).isSome then
      (t.namespaces.insert? ns).map fun namespaces ↦ { t with namespaces }
    else none

/-- `storage_->update(config)`. -/
def updateConfigRow (config : ConfigKey) : StorageM Unit :=
  modify (.update .configs) fun t ↦ { t with configs := t.configs.replace config }

/-- `storage_->remove_all<ConfigKey>(where …)`. -/
def removeConfigs (p : ConfigKey → Bool) : StorageM Unit :=
  modify (.removeAll .configs) fun t ↦ { t with configs := t.configs.removeWhere p }

/-- `set(status = …)` on a configuration row. -/
def ConfigKey.withStatus (status : ConfigStatus) (c : ConfigKey) : ConfigKey :=
  { c with status }

/-- A status is no part of the primary key. -/
@[simp] theorem primaryKey_withStatus (status : ConfigStatus) (c : ConfigKey) :
    (c.withStatus status).primaryKey = c.primaryKey := rfl

/-- `storage_->update_all(set(status = …), where namespace_id = …)`. -/
def setConfigStatus (namespaceId : String) (status : ConfigStatus) : StorageM Unit :=
  modify (.updateAll .configs) fun t ↦
    { t with
      configs := t.configs.mapWhere (fun c ↦ c.namespaceId = namespaceId)
        (ConfigKey.withStatus status) (primaryKey_withStatus status) }

/-! ### Ordering and windows -/

/-- `ORDER BY column DESC`: a stable descending sort of insertion order. -/
def orderByDesc {ρ α : Type} [LE α] [DecidableLE α] (column : ρ → α) (rows : List ρ) : List ρ :=
  rows.insertionSort (fun a b ↦ column b ≤ column a)

/-- `LIMIT … OFFSET …`: a negative limit takes every row, a negative offset is 0. -/
def window {ρ : Type} (limit offset : Int32) (rows : List ρ) : List ρ :=
  let rest := rows.drop offset.toInt.toNat
  if limit.toInt < 0 then rest else rest.take limit.toInt.toNat

end ConfigCenter.Storage
