import ConfigCenter.Storage.Calls

/-!
# The configuration ledger

Library `Storage`. The three tables that configuration writes keep in step, and
the edits the store makes to them. A call of the store acts on the ledger as the
one edit `Call.edit` resolves it to, so properties of whole runs need one case
for each kind of edit and none for the other methods.
-/

namespace ConfigCenter.Storage
open ConfigCenter.Base StorageM

/-- Current rows, version history and change log of all configuration keys. -/
structure Ledger where
  configs : KeyedTable ConfigKey.primaryKey
  versions : List ConfigVersion
  logs : SerialTable ChangeLog.id

namespace Ledger

/-- The row `createConfig` inserts, `sqlite_config_store.cpp:105–112`. -/
def createdRow (namespaceId key value : String) (ts : Timestamp) : ConfigKey :=
  { namespaceId, key, value, version := 1, status := .draft, createdAt := ts, updatedAt := ts }

/-- The row `updateConfig` writes back, `sqlite_config_store.cpp:155–158`. -/
def rewrittenRow (old : ConfigKey) (value : String) (draft : Bool) (ts : Timestamp) : ConfigKey :=
  { old with
    value, version := old.version + 1, status := if draft then .draft else .live, updatedAt := ts }

/-- The version row of a write, `sqlite_config_store.cpp:120–127,162–169`. -/
def versionRow (namespaceId key value operatorId : String) (version : Int32)
    (changeType : ChangeType) (ts : Timestamp) : ConfigVersion :=
  { version, configId := makeConfigId namespaceId key, value, changeType, operatorId,
    createdAt := ts }

/-- The log row of a write, `sqlite_config_store.cpp:129–138,171–181`. -/
def writeLog (namespaceId key oldValue newValue operatorId : String) (version : Int32)
    (operation : ChangeType) (ts : Timestamp) : ChangeLog :=
  { configId := makeConfigId namespaceId key, namespaceId, key, version, oldValue, newValue,
    operation, operatorId, createdAt := ts }

/-- The log row of a deletion, `sqlite_config_store.cpp:200–207`. -/
def deleteLog (namespaceId key operatorId : String) (ts : Timestamp) : ChangeLog :=
  { configId := makeConfigId namespaceId key, namespaceId, key, operation := .delete,
    operatorId, createdAt := ts }

/-- Rows a deletion removes: the row of the key, in a draft deletion only a draft. -/
def removes (namespaceId key : String) (draft : Bool) (c : ConfigKey) : Bool :=
  SqliteConfigStore.atKey namespaceId key c && (!draft || c.status = .draft)

/-- The log with one more row. -/
def logged (l : Ledger) (cl : ChangeLog) : SerialTable ChangeLog.id :=
  l.logs.append (fun n ↦ { cl with id := n }) cl.id_with

/-- The row of a key. -/
def row? (l : Ledger) (namespaceId key : String) : Option ConfigKey :=
  l.configs.find? (namespaceId, key)

/-- The row a reader gets: drafts only on request. -/
def config? (l : Ledger) (namespaceId key : String) (includeDraft : Bool) : Option ConfigKey :=
  (l.row? namespaceId key).filter (fun c ↦ includeDraft || c.status = .live)

/-- The first version row of a key with the given number. -/
def version? (l : Ledger) (namespaceId key : String) (version : Int32) : Option ConfigVersion :=
  l.versions.find? (fun v ↦ v.configId = makeConfigId namespaceId key ∧ v.version = version)

end Ledger

/-- What a call does to the ledger. -/
inductive Edit where
  | none
  | create (namespaceId key value operatorId : String) (ts : Timestamp)
  | update (namespaceId key value operatorId : String) (draft : Bool) (ts : Timestamp)
  | delete (namespaceId key operatorId : String) (draft : Bool) (ts : Timestamp)
  | publish (namespaceId : String)
  deriving DecidableEq, Repr

/-- The key that an edit writes, a publication apart. -/
def Edit.pair? : Edit → Option (String × String)
  | .create ns key _ _ _ | .update ns key _ _ _ _ | .delete ns key _ _ _ => some (ns, key)
  | .none | .publish _ => Option.none

namespace Ledger

/-- Perform an edit: a creation needs a free key and an update a taken one. -/
def apply (l : Ledger) : Edit → Ledger
  | .none => l
  | .create ns key value op ts =>
    match l.configs.insert? (createdRow ns key value ts) with
    | none => l
    | some configs =>
      { configs
        versions := l.versions ++ [versionRow ns key value op 1 .create ts]
        logs := l.logged (writeLog ns key "" value op 1 .create ts) }
  | .update ns key value op draft ts =>
    match l.row? ns key with
    | none => l
    | some old =>
      { configs := l.configs.replace (rewrittenRow old value draft ts)
        versions := l.versions ++ [versionRow ns key value op (old.version + 1) .update ts]
        logs := l.logged (writeLog ns key old.value value op (old.version + 1) .update ts) }
  | .delete ns key op draft ts =>
    { l with
      configs := l.configs.removeWhere (removes ns key draft)
      logs := l.logged (deleteLog ns key op ts) }
  | .publish ns =>
    { l with
      configs := l.configs.mapWhere (fun c ↦ c.namespaceId = ns) (ConfigKey.withStatus .live)
        (primaryKey_withStatus .live) }

end Ledger

/-! ### Rows and versions after an edit -/

namespace Ledger

/-- A stored row lies under its own namespace and key. -/
theorem row?_key {l : Ledger} {ns key : String} {c : ConfigKey} (h : l.row? ns key = some c) :
    c.namespaceId = ns ∧ c.key = key := by
  have hk := KeyedTable.key_of_find? h
  simpa [ConfigKey.primaryKey, Prod.ext_iff] using hk

/-- Every stored row is the row of its namespace and key. -/
theorem row?_of_mem {l : Ledger} {c : ConfigKey} (h : c ∈ l.configs.rows) :
    l.row? c.namespaceId c.key = some c :=
  KeyedTable.find?_key_of_mem h

/-- A reader who asks for drafts gets the row as it is. -/
theorem config?_true (l : Ledger) (ns key : String) : l.config? ns key true = l.row? ns key := by
  cases hr : l.row? ns key <;> simp [config?, hr]

/-- A creation on a taken key changes nothing. -/
theorem apply_create_of_some {l : Ledger} {ns key : String} {c : ConfigKey}
    (h : l.row? ns key = some c) (value op : String) (ts : Timestamp) :
    l.apply (.create ns key value op ts) = l := by
  have hi : l.configs.insert? (createdRow ns key value ts) = none :=
    (KeyedTable.insert?_eq_none_iff _ _).mpr ⟨c, h⟩
  simp only [apply, hi]

/-- A creation on a free key inserts the row, its version and its log row. -/
theorem apply_create_of_none {l : Ledger} {ns key : String} (h : l.row? ns key = none)
    (value op : String) (ts : Timestamp) :
    ∃ configs, l.configs.insert? (createdRow ns key value ts) = some configs ∧
      l.apply (.create ns key value op ts) =
        { configs
          versions := l.versions ++ [versionRow ns key value op 1 .create ts]
          logs := l.logged (writeLog ns key "" value op 1 .create ts) } := by
  obtain ⟨configs, hc⟩ : ∃ t, l.configs.insert? (createdRow ns key value ts) = some t :=
    KeyedTable.exists_insert? h
  exact ⟨configs, hc, by simp only [apply, hc]⟩

/-- An update of an absent key changes nothing. -/
theorem apply_update_of_none {l : Ledger} {ns key : String} (h : l.row? ns key = none)
    (value op : String) (draft : Bool) (ts : Timestamp) :
    l.apply (.update ns key value op draft ts) = l := by
  simp only [apply, h]

/-- An update of a stored key rewrites its row and records the version and the log row. -/
theorem apply_update_of_some {l : Ledger} {ns key : String} {old : ConfigKey}
    (h : l.row? ns key = some old) (value op : String) (draft : Bool) (ts : Timestamp) :
    l.apply (.update ns key value op draft ts) =
      { configs := l.configs.replace (rewrittenRow old value draft ts)
        versions := l.versions ++ [versionRow ns key value op (old.version + 1) .update ts]
        logs := l.logged (writeLog ns key old.value value op (old.version + 1) .update ts) } := by
  simp only [apply, h]

/-- A creation fills a free key with a draft at version 1 and touches nothing else. -/
theorem row?_create (l : Ledger) (ns key value op : String) (ts : Timestamp) (n k : String) :
    (l.apply (.create ns key value op ts)).row? n k =
      if ns = n ∧ key = k then some ((l.row? n k).getD (createdRow ns key value ts))
      else l.row? n k := by
  cases hr : l.row? ns key with
  | some c =>
    rw [apply_create_of_some hr]
    split
    · next h =>
      rw [← h.1, ← h.2, hr]
      rfl
    · rfl
  | none =>
    obtain ⟨configs, hi, he⟩ := apply_create_of_none hr value op ts
    rw [he]
    unfold row?
    rw [KeyedTable.find?_insert? hi]
    change (if (ns, key) = (n, k) then _ else _) = _
    simp only [Prod.mk.injEq]
    split
    · next h =>
      change _ = some ((l.row? n k).getD _)
      rw [← h.1, ← h.2, hr]
      rfl
    · rfl

/-- An update rewrites the row of its key, if there is one, and touches nothing else. -/
theorem row?_update (l : Ledger) (ns key value op : String) (draft : Bool) (ts : Timestamp)
    (n k : String) :
    (l.apply (.update ns key value op draft ts)).row? n k =
      if ns = n ∧ key = k then (l.row? n k).map (fun c ↦ rewrittenRow c value draft ts)
      else l.row? n k := by
  cases hr : l.row? ns key with
  | none =>
    rw [apply_update_of_none hr]
    split
    · next h => rw [← h.1, ← h.2, hr, Option.map_none]
    · rfl
  | some old =>
    have hk : (rewrittenRow old value draft ts).primaryKey = (ns, key) :=
      Prod.ext (row?_key hr).1 (row?_key hr).2
    rw [apply_update_of_some hr]
    unfold row?
    rw [KeyedTable.find?_replace, hk]
    simp only [Prod.mk.injEq]
    split
    · next h =>
      change Option.map _ (l.row? n k) = Option.map _ (l.row? n k)
      rw [← h.1, ← h.2, hr, Option.map_some, Option.map_some]
    · rfl

/-- A creation on a free key adds its row. -/
theorem row?_create_of_none {l : Ledger} {ns key : String} (hr : l.row? ns key = none)
    (value op : String) (ts : Timestamp) (n k : String) :
    (l.apply (.create ns key value op ts)).row? n k =
      if ns = n ∧ key = k then some (createdRow ns key value ts) else l.row? n k := by
  rw [row?_create]
  refine ite_congr rfl (fun h ↦ ?_) fun _ ↦ rfl
  rw [← h.1, ← h.2, hr, Option.getD_none]

/-- A creation of a free key leaves the created row. -/
theorem row?_create_self {l : Ledger} {ns key : String} (hr : l.row? ns key = none)
    (value op : String) (ts : Timestamp) :
    (l.apply (.create ns key value op ts)).row? ns key = some (createdRow ns key value ts) := by
  rw [row?_create_of_none hr, if_pos ⟨rfl, rfl⟩]

/-- An update of a stored key rewrites its row. -/
theorem row?_update_of_some {l : Ledger} {ns key : String} {old : ConfigKey}
    (hr : l.row? ns key = some old) (value op : String) (draft : Bool) (ts : Timestamp)
    (n k : String) :
    (l.apply (.update ns key value op draft ts)).row? n k =
      if ns = n ∧ key = k then some (rewrittenRow old value draft ts) else l.row? n k := by
  rw [row?_update]
  refine ite_congr rfl (fun h ↦ ?_) fun _ ↦ rfl
  rw [← h.1, ← h.2, hr, Option.map_some]

/-- An update of a taken key leaves the rewritten row. -/
theorem row?_update_self {l : Ledger} {ns key : String} {old : ConfigKey}
    (hr : l.row? ns key = some old) (value op : String) (draft : Bool) (ts : Timestamp) :
    (l.apply (.update ns key value op draft ts)).row? ns key =
      some (rewrittenRow old value draft ts) := by
  rw [row?_update_of_some hr, if_pos ⟨rfl, rfl⟩]

/-- A deletion removes the row of its key, in a draft deletion only a draft. -/
theorem row?_delete (l : Ledger) (ns key op : String) (draft : Bool) (ts : Timestamp)
    (n k : String) :
    (l.apply (.delete ns key op draft ts)).row? n k =
      if ns = n ∧ key = k then (l.row? n k).filter (fun c ↦ draft && c.status = .live)
      else l.row? n k := by
  simp only [apply, row?, KeyedTable.find?_removeWhere]
  change Option.filter _ (l.row? n k) =
    if ns = n ∧ key = k then Option.filter _ (l.row? n k) else l.row? n k
  cases hr : l.row? n k with
  | none => simp
  | some c =>
    obtain ⟨hn, hk⟩ := row?_key hr
    by_cases h : ns = n ∧ key = k
    · rw [if_pos h]
      cases draft <;> cases hs : c.status <;>
        simp [removes, SqliteConfigStore.atKey, Option.filter, hn, hk, h.1, h.2, hs]
    · have hd : removes ns key draft c = false := by
        simp only [removes, SqliteConfigStore.atKey, hn, hk]
        have : ¬ (n = ns ∧ k = key) := fun e ↦ h ⟨e.1.symm, e.2.symm⟩
        simp [this]
      simp [h, hd, Option.filter]

/-- A publication makes the rows of its namespace live and touches nothing else. -/
theorem row?_publish (l : Ledger) (ns n k : String) :
    (l.apply (.publish ns)).row? n k =
      (l.row? n k).map (fun c ↦ if ns = n then c.withStatus .live else c) := by
  simp only [apply, row?, KeyedTable.find?_mapWhere]
  change Option.map _ (l.row? n k) = Option.map _ (l.row? n k)
  cases hr : l.row? n k with
  | none => rfl
  | some c =>
    rw [Option.map_some, Option.map_some, (row?_key hr).1]
    simp [eq_comm]

/-- An edit of another key changes at most the status of a row. -/
theorem row?_apply_of_ne (l : Ledger) {e : Edit} {n k : String} (h : e.pair? ≠ some (n, k)) :
    (l.apply e).row? n k =
      (l.row? n k).map (fun c ↦ if e = .publish n then c.withStatus .live else c) := by
  cases e with
  | none => simp [apply]
  | create ns key value op ts =>
    rw [row?_create, if_neg (by simpa [Edit.pair?] using h)]
    simp
  | update ns key value op draft ts =>
    rw [row?_update, if_neg (by simpa [Edit.pair?] using h)]
    simp
  | delete ns key op draft ts =>
    rw [row?_delete, if_neg (by simpa [Edit.pair?] using h)]
    simp
  | publish ns =>
    rw [row?_publish]
    simp

/-- Version rows with the id of a key, in the order they were written. -/
def versionsOf (l : Ledger) (ns key : String) : List ConfigVersion :=
  l.versions.filter (fun v ↦ v.configId = makeConfigId ns key)

/-- A version lookup reads the version rows of the key. -/
theorem version?_eq (l : Ledger) (ns key : String) (version : Int32) :
    l.version? ns key version = (l.versionsOf ns key).find? (fun v ↦ v.version = version) := by
  rw [versionsOf, List.find?_filter]
  simp [version?]

/-- A creation of a free key adds its first version row. -/
theorem versionsOf_create {l : Ledger} {ns key : String} (h : l.row? ns key = none)
    (value op : String) (ts : Timestamp) (n k : String) :
    (l.apply (.create ns key value op ts)).versionsOf n k =
      if makeConfigId ns key = makeConfigId n k then
        l.versionsOf n k ++ [versionRow ns key value op 1 .create ts]
      else l.versionsOf n k := by
  obtain ⟨configs, _, he⟩ := apply_create_of_none h value op ts
  rw [he]
  unfold versionsOf
  rw [List.filter_append]
  split
  · next hid => simp [versionRow, hid]
  · next hid => simp [versionRow, hid]

/-- An update of a stored key adds its next version row. -/
theorem versionsOf_update {l : Ledger} {ns key : String} {old : ConfigKey}
    (h : l.row? ns key = some old) (value op : String) (draft : Bool) (ts : Timestamp)
    (n k : String) :
    (l.apply (.update ns key value op draft ts)).versionsOf n k =
      if makeConfigId ns key = makeConfigId n k then
        l.versionsOf n k ++ [versionRow ns key value op (old.version + 1) .update ts]
      else l.versionsOf n k := by
  rw [apply_update_of_some h]
  unfold versionsOf
  rw [List.filter_append]
  split
  · next hid => simp [versionRow, hid]
  · next hid => simp [versionRow, hid]

/-- An edit of a key with another id adds no version row. -/
theorem versionsOf_apply_of_ne (l : Ledger) {e : Edit} {n k : String}
    (h : ∀ p, e.pair? = some p → makeConfigId p.1 p.2 ≠ makeConfigId n k) :
    (l.apply e).versionsOf n k = l.versionsOf n k := by
  cases e with
  | create ns key value op ts =>
    cases hr : l.row? ns key with
    | some c => rw [apply_create_of_some hr]
    | none => rw [versionsOf_create hr, if_neg (h _ rfl)]
  | update ns key value op draft ts =>
    cases hr : l.row? ns key with
    | none => rw [apply_update_of_none hr]
    | some old => rw [versionsOf_update hr, if_neg (h _ rfl)]
  | none | delete _ _ _ _ _ | publish _ => rfl

/-- Version table and change log of one ledger are continued by another. -/
def Continues (l l' : Ledger) : Prop :=
  l.versions <+: l'.versions ∧ l.logs.rows <+: l'.logs.rows

/-- A ledger continues itself. -/
theorem Continues.refl (l : Ledger) : l.Continues l :=
  ⟨List.prefix_refl _, List.prefix_refl _⟩

/-- What continues a continuation continues the first ledger. -/
theorem Continues.trans {l l' l'' : Ledger} (h : l.Continues l') (h' : l'.Continues l'') :
    l.Continues l'' :=
  ⟨h.1.trans h'.1, h.2.trans h'.2⟩

/-- Edits only ever append to the version table and the change log. -/
theorem apply_continues (l : Ledger) (e : Edit) : l.Continues (l.apply e) := by
  cases e with
  | none => exact .refl l
  | create ns key value op ts =>
    cases hr : l.row? ns key with
    | some c => rw [apply_create_of_some hr]; exact .refl l
    | none =>
      obtain ⟨configs, _, he⟩ := apply_create_of_none hr value op ts
      rw [he]
      exact ⟨List.prefix_append _ _, List.prefix_append _ _⟩
  | update ns key value op draft ts =>
    cases hr : l.row? ns key with
    | none => rw [apply_update_of_none hr]; exact .refl l
    | some old =>
      rw [apply_update_of_some hr]
      exact ⟨List.prefix_append _ _, List.prefix_append _ _⟩
  | delete ns key op draft ts => exact ⟨List.prefix_refl _, List.prefix_append _ _⟩
  | publish ns => exact .refl _

/-- A version that is found once is found in every later state. -/
theorem version?_of_prefix {l l' : Ledger} (h : l.versions <+: l'.versions) {ns key : String}
    {version : Int32} {v : ConfigVersion} (hv : l.version? ns key version = some v) :
    l'.version? ns key version = some v := by
  obtain ⟨rest, hr⟩ := h
  unfold version? at hv ⊢
  rw [← hr, List.find?_append, hv]
  rfl

end Ledger

/-- The ledger part of the tables. -/
def Tables.ledger (t : Tables) : Ledger := ⟨t.configs, t.configVersions, t.changeLogs⟩

/-- The tables with another ledger. -/
def Tables.withLedger (t : Tables) (l : Ledger) : Tables :=
  { t with configs := l.configs, configVersions := l.versions, changeLogs := l.logs }

/-- The database with another ledger. -/
def Database.withLedger (db : Database) (l : Ledger) : Database :=
  { db with tables := db.tables.withLedger l }

/-- The ledger of the visible tables. -/
def Database.ledger (db : Database) : Ledger := db.tables.ledger

/-- The ledger that was put in. -/
@[simp] theorem ledger_withLedger (db : Database) (l : Ledger) : (db.withLedger l).ledger = l := rfl

/-! ### One equation for each configuration operation -/

section Operations

variable (namespaceId key value operatorId : String) (ts : Timestamp) (db : Database)

private theorem getAll_atKey :
    getAll .configs (·.configs.rows) (SqliteConfigStore.atKey namespaceId key) noFaults db =
      (.ok (db.ledger.row? namespaceId key).toList, db) := by
  rw [Ledger.row?, ← SqliteConfigStore.filter_atKey]
  rfl

/-- `getConfig` reads the key's row and hides drafts unless asked for them. -/
theorem getConfig_run (includeDraft : Bool) :
    SqliteConfigStore.getConfig namespaceId key includeDraft noFaults db =
      (.ok (db.ledger.config? namespaceId key includeDraft), db) := by
  unfold SqliteConfigStore.getConfig Ledger.config?
  rw [bind_run, getAll_atKey]
  cases db.ledger.row? namespaceId key with
  | none => rfl
  | some c =>
    cases includeDraft <;> cases hs : c.status <;> simp [hs, Option.filter]

/-- `createConfig` succeeds exactly on a free key and then performs its edit. -/
theorem createConfig_run :
    SqliteConfigStore.createConfig namespaceId key value operatorId ts noFaults db =
      (.ok (db.ledger.row? namespaceId key).isNone,
        db.withLedger (db.ledger.apply (.create namespaceId key value operatorId ts))) := by
  have hs := KeyedTable.isSome_insert? db.tables.configs
    (Ledger.createdRow namespaceId key value ts)
  change _ = (db.ledger.row? namespaceId key).isNone at hs
  rw [← hs]
  simp only [Ledger.apply, Database.ledger, Tables.ledger]
  unfold SqliteConfigStore.createConfig insertConfig
  cases hi : db.tables.configs.insert? (Ledger.createdRow namespaceId key value ts) with
  | none =>
    simp only [Ledger.createdRow] at hi
    simp [noFaults, hi]
    rfl
  | some configs =>
    simp only [Ledger.createdRow] at hi
    simp [insertConfigVersion, insertChangeLog, noFaults, hi]
    rfl

/-- `updateConfig` succeeds exactly on a taken key and then performs its edit. -/
theorem updateConfig_run (draft : Bool) :
    SqliteConfigStore.updateConfig namespaceId key value operatorId draft ts noFaults db =
      (.ok (db.ledger.row? namespaceId key).isSome,
        db.withLedger
          (db.ledger.apply (.update namespaceId key value operatorId draft ts))) := by
  unfold SqliteConfigStore.updateConfig
  rw [bind_run, getAll_atKey]
  simp only [Ledger.apply]
  cases db.ledger.row? namespaceId key with
  | none => rfl
  | some old => rfl

/-- `deleteConfig` always reports success and performs its edit. -/
theorem deleteConfig_run (draft : Bool) :
    SqliteConfigStore.deleteConfig namespaceId key operatorId draft ts noFaults db =
      (.ok true,
        db.withLedger (db.ledger.apply (.delete namespaceId key operatorId draft ts))) := by
  cases draft with
  | true => rfl
  | false =>
    have hp : Ledger.removes namespaceId key false = SqliteConfigStore.atKey namespaceId key := by
      funext c
      simp [Ledger.removes]
    simp only [Ledger.apply, hp]
    rfl

/-- `getConfigVersion` returns the first version row with the key's id and the number. -/
theorem getConfigVersion_run (version : Int32) :
    SqliteConfigStore.getConfigVersion namespaceId key version noFaults db =
      (.ok (db.ledger.version? namespaceId key version), db) := by
  simp [SqliteConfigStore.getConfigVersion, noFaults, Ledger.version?, Database.ledger,
    Tables.ledger, List.head?_filter]

/-- `rollbackConfig` is the update that its first section's lookup resolves it to. -/
theorem rollbackConfig_run (targetVersion : Int32) :
    SqliteConfigStore.rollbackConfig namespaceId key targetVersion operatorId ts noFaults db =
      match db.ledger.version? namespaceId key targetVersion with
      | none => (.ok false, db)
      | some v =>
        SqliteConfigStore.updateConfig namespaceId key v.value operatorId true ts noFaults db := by
  unfold SqliteConfigStore.rollbackConfig
  rw [bind_run, getConfigVersion_run]
  cases db.ledger.version? namespaceId key targetVersion <;> rfl

/-- `getConfigVersions` sorts the version rows with the key's id. -/
theorem getConfigVersions_run :
    SqliteConfigStore.getConfigVersions namespaceId key noFaults db =
      (.ok (orderByDesc ConfigVersion.version
        (db.ledger.versions.filter (fun v ↦ v.configId = makeConfigId namespaceId key))), db) :=
  rfl

/-- `listConfigs` scans the namespace's rows and drops drafts unless asked for them. -/
theorem listConfigs_run (includeDraft : Bool) :
    SqliteConfigStore.listConfigs namespaceId includeDraft noFaults db =
      (.ok (db.ledger.configs.rows.filter
        (fun c ↦ c.namespaceId = namespaceId ∧ (includeDraft || c.status = .live))), db) := by
  cases includeDraft with
  | true => simp [SqliteConfigStore.listConfigs, noFaults, Database.ledger, Tables.ledger]
  | false =>
    have hp : ∀ c : ConfigKey, (!decide (c.status = .draft)) = decide (c.status = .live) := by
      intro c
      cases c.status <;> rfl
    simp [SqliteConfigStore.listConfigs, noFaults, Database.ledger, Tables.ledger,
      List.filter_filter, hp, Bool.and_comm]

/-- `getChangeHistory` returns one page of the matching log rows, newest first. -/
theorem getChangeHistory_run (query : ChangeLogQuery) :
    SqliteConfigStore.getChangeHistory query noFaults db =
      (.ok (window query.pageSize ((query.page - 1) * query.pageSize)
        (orderByDesc ChangeLog.createdAt
          (db.tables.changeLogs.rows.filter (SqliteConfigStore.changeLogMatches query)))), db) := by
  simp [SqliteConfigStore.getChangeHistory, noFaults]

/-- `getReleases` returns one page of the namespace's releases, newest first. -/
theorem getReleases_run (query : ReleaseQuery) :
    SqliteConfigStore.getReleases query noFaults db =
      (.ok (window query.pageSize ((query.page - 1) * query.pageSize)
        (orderByDesc Release.createdAt
          (db.tables.releases.rows.filter (fun r ↦ r.namespaceId = query.namespaceId)))), db) := by
  simp [SqliteConfigStore.getReleases, noFaults]

end Operations

/-! ### Publishing -/

private theorem le_total_releaseVersion :
    Std.Total fun a b : Release ↦ b.releaseVersion ≤ a.releaseVersion :=
  ⟨fun a b ↦ Int32.le_total b.releaseVersion a.releaseVersion⟩

private theorem le_trans_releaseVersion :
    IsTrans Release fun a b ↦ b.releaseVersion ≤ a.releaseVersion :=
  ⟨fun _ _ _ hab hbc ↦ Int32.le_trans hbc hab⟩

/-- `maxVersion` of `publishRelease` is 0 without a release and else the largest number. -/
theorem maxReleaseVersion_spec (all : List Release) :
    all = [] ∧ SqliteConfigStore.maxReleaseVersion all = 0 ∨
      ∃ m ∈ all, (∀ r ∈ all, r.releaseVersion ≤ m.releaseVersion) ∧
        SqliteConfigStore.maxReleaseVersion all = m.releaseVersion := by
  have := le_total_releaseVersion
  have := le_trans_releaseVersion
  unfold SqliteConfigStore.maxReleaseVersion orderByDesc
  have hperm := List.perm_insertionSort
    (fun a b : Release ↦ b.releaseVersion ≤ a.releaseVersion) all
  have hsorted := List.pairwise_insertionSort
    (fun a b : Release ↦ b.releaseVersion ≤ a.releaseVersion) all
  cases hs : all.insertionSort (fun a b ↦ b.releaseVersion ≤ a.releaseVersion) with
  | nil =>
    rw [hs] at hperm
    exact .inl ⟨hperm.symm.eq_nil, rfl⟩
  | cons m rest =>
    rw [hs] at hperm hsorted
    refine .inr ⟨m, hperm.subset (by simp), ?_, rfl⟩
    intro r hr
    rcases List.mem_cons.mp (hperm.symm.subset hr) with rfl | hm
    · exact Int32.le_refl _
    · exact (List.pairwise_cons.mp hsorted).1 r hm

/-- The release row a publication adds. -/
def Tables.nextRelease (t : Tables) (namespaceId releaseNote operatorId : String)
    (ts : Timestamp) : Release :=
  { SqliteConfigStore.publishedRelease namespaceId releaseNote operatorId
      (SqliteConfigStore.maxReleaseVersion
        (t.releases.rows.filter (fun r ↦ r.namespaceId = namespaceId))) ts with
    id := t.releases.nextId }

/-- The tables after a publication: the namespace's rows are live and one release is added. -/
def Tables.published (t : Tables) (namespaceId releaseNote operatorId : String)
    (ts : Timestamp) : Tables :=
  (t.withLedger (t.ledger.apply (.publish namespaceId))).addRelease
    (t.nextRelease namespaceId releaseNote operatorId ts)

/-- Some storage call of `publishRelease` between `BEGIN` and `COMMIT` fails. -/
def failsInside (faults : Faults) : Bool :=
  faults (.getAll .configs) || faults (.updateAll .configs) || faults (.getAll .releases) ||
    faults (.insert .releases)

private theorem prepareRelease_run (namespaceId releaseNote operatorId : String)
    (ts : Timestamp) (faults : Faults) (db : Database) :
    ∃ db', db'.snapshot = db.snapshot ∧
      SqliteConfigStore.prepareRelease namespaceId releaseNote operatorId ts faults db =
        if failsInside faults then (.error .storageFault, db')
        else (.ok (db.tables.nextRelease namespaceId releaseNote operatorId ts),
          { db with tables := db.tables.published namespaceId releaseNote operatorId ts }) := by
  unfold SqliteConfigStore.prepareRelease setConfigStatus insertRelease failsInside
  cases hg : faults (.getAll .configs) with
  | true => exact ⟨db, rfl, by simp [hg]⟩
  | false =>
    cases hu : faults (.updateAll .configs) with
    | true => exact ⟨db, rfl, by simp [hg, hu]⟩
    | false =>
      let live := db.withLedger (db.ledger.apply (.publish namespaceId))
      cases hr : faults (.getAll .releases) with
      | true => exact ⟨live, rfl, by simp [hg, hu, hr]; rfl⟩
      | false =>
        cases hi : faults (.insert .releases) with
        | true => exact ⟨live, rfl, by simp [hg, hu, hr, hi]; rfl⟩
        | false => exact ⟨live, rfl, by simp [hg, hu, hr, hi]; exact ⟨rfl, rfl⟩⟩

/-- `publishRelease` under every failure pattern: `BEGIN` alone throws out of the method,
any later failure is reported as `false` on unchanged tables. -/
theorem publishRelease_run (namespaceId releaseNote operatorId : String) (ts : Timestamp)
    (faults : Faults) (db : Database) (hs : db.snapshot = none) :
    SqliteConfigStore.publishRelease namespaceId releaseNote operatorId ts faults db =
      if faults .beginTransaction then (.error .storageFault, db)
      else if failsInside faults then (.ok (false, none), db)
      else if faults .commit then
        (.ok (false, some (db.tables.nextRelease namespaceId releaseNote operatorId ts)), db)
      else
        (.ok (true, some (db.tables.nextRelease namespaceId releaseNote operatorId ts)),
          { db with tables := db.tables.published namespaceId releaseNote operatorId ts }) := by
  obtain ⟨t, snapshot⟩ := db
  cases hs
  unfold SqliteConfigStore.publishRelease
  obtain ⟨db', hd, hp⟩ := prepareRelease_run namespaceId releaseNote operatorId ts faults
    { tables := t, snapshot := some t }
  cases hb : faults .beginTransaction with
  | true => simp [hb]
  | false =>
    cases hf : failsInside faults with
    | true => simp [hb, hp, hd, hf]
    | false => cases hc : faults .commit <;> simp [hb, hp, hc, hf]

/-- Inside an open transaction `publishRelease` throws at its own `BEGIN`. -/
theorem publishRelease_run_open (namespaceId releaseNote operatorId : String) (ts : Timestamp)
    (db : Database) (hs : db.snapshot.isSome) :
    SqliteConfigStore.publishRelease namespaceId releaseNote operatorId ts noFaults db =
      (.error .transactionState, db) := by
  obtain ⟨t, ht⟩ := Option.isSome_iff_exists.mp hs
  simp [SqliteConfigStore.publishRelease, noFaults, ht]

/-! ### Every call as an edit -/

/-- Calls that open, commit or roll back a transaction. -/
def Call.isTransactional : Call → Bool
  | .beginTransaction | .commitTransaction | .rollbackTransaction => true
  | _ => false

/-- The edit that a call amounts to in the state it finds. -/
def Call.edit (db : Database) (ts : Timestamp) : Call → Edit
  | .createConfig ns key value op => .create ns key value op ts
  | .updateConfig ns key value op draft => .update ns key value op draft ts
  | .deleteConfig ns key op draft => .delete ns key op draft ts
  | .rollbackConfig ns key target op =>
    match db.ledger.version? ns key target with
    | none => .none
    | some v => .update ns key v.value op true ts
  | .publishRelease ns _ _ => if db.snapshot.isSome then .none else .publish ns
  | _ => .none

/-- The key that a call writes. -/
def Call.pair? : Call → Option (String × String)
  | .createConfig ns key _ _ | .updateConfig ns key _ _ _ | .deleteConfig ns key _ _
  | .rollbackConfig ns key _ _ => some (ns, key)
  | _ => none

/-- The calls behind each kind of edit. -/
theorem edit_cases (c : Call) (db : Database) (ts : Timestamp) :
    c.edit db ts = .none ∨
    (∃ ns key value op, c = .createConfig ns key value op ∧
      c.edit db ts = .create ns key value op ts) ∨
    (∃ ns key value op draft, c.pair? = some (ns, key) ∧
      c.edit db ts = .update ns key value op draft ts) ∨
    (∃ ns key op draft, c = .deleteConfig ns key op draft ∧
      c.edit db ts = .delete ns key op draft ts) ∨
    ∃ ns note op, c = .publishRelease ns note op ∧ c.edit db ts = .publish ns := by
  cases c with
  | createConfig ns key value op => exact .inr (.inl ⟨ns, key, value, op, rfl, rfl⟩)
  | updateConfig ns key value op draft =>
    exact .inr (.inr (.inl ⟨ns, key, value, op, draft, rfl, rfl⟩))
  | rollbackConfig ns key target op =>
    simp only [Call.edit]
    cases db.ledger.version? ns key target with
    | none => exact .inl rfl
    | some v => exact .inr (.inr (.inl ⟨ns, key, v.value, op, true, rfl, rfl⟩))
  | deleteConfig ns key op draft =>
    exact .inr (.inr (.inr (.inl ⟨ns, key, op, draft, rfl, rfl⟩)))
  | publishRelease ns note op =>
    simp only [Call.edit]
    split
    · exact .inl rfl
    · exact .inr (.inr (.inr (.inr ⟨ns, note, op, rfl, rfl⟩)))
  | _ => exact .inl rfl

/-- Only `createConfig` creates a key. -/
theorem edit_eq_create {c : Call} {db : Database} {ts t : Timestamp} {ns key value op : String}
    (h : c.edit db ts = .create ns key value op t) : c = .createConfig ns key value op := by
  obtain he | ⟨_, _, _, _, rfl, he⟩ | ⟨_, _, _, _, _, _, he⟩ | ⟨_, _, _, _, rfl, he⟩ |
    ⟨_, _, _, rfl, he⟩ := edit_cases c db ts
  all_goals cases h.symm.trans he
  rfl

/-- Only `deleteConfig` deletes a key. -/
theorem edit_eq_delete {c : Call} {db : Database} {ts t : Timestamp} {ns key op : String}
    {draft : Bool} (h : c.edit db ts = .delete ns key op draft t) :
    c = .deleteConfig ns key op draft := by
  obtain he | ⟨_, _, _, _, rfl, he⟩ | ⟨_, _, _, _, _, _, he⟩ | ⟨_, _, _, _, rfl, he⟩ |
    ⟨_, _, _, rfl, he⟩ := edit_cases c db ts
  all_goals cases h.symm.trans he
  rfl

/-- Only `publishRelease` publishes a namespace. -/
theorem edit_eq_publish {c : Call} {db : Database} {ts : Timestamp} {ns : String}
    (h : c.edit db ts = .publish ns) : ∃ note op, c = .publishRelease ns note op := by
  obtain he | ⟨_, _, _, _, rfl, he⟩ | ⟨_, _, _, _, _, _, he⟩ | ⟨_, _, _, _, rfl, he⟩ |
    ⟨_, _, _, rfl, he⟩ := edit_cases c db ts
  all_goals cases h.symm.trans he
  exact ⟨_, _, rfl⟩

/-- A call edits its own key or none. -/
theorem pair?_edit {c : Call} {db : Database} {ts : Timestamp} {p : String × String}
    (h : (c.edit db ts).pair? = some p) : c.pair? = some p := by
  obtain he | ⟨ns, key, value, op, rfl, he⟩ | ⟨ns, key, value, op, draft, hp, he⟩ |
    ⟨ns, key, op, draft, rfl, he⟩ | ⟨ns, note, op, rfl, he⟩ := edit_cases c db ts
  · rw [he] at h
    cases h
  · exact h
  · rw [he] at h
    exact hp.trans h
  · exact h
  · rw [he] at h
    cases h

/-- The answer to `createConfig` and the ledger after it. -/
theorem respond_createConfig (db : Database) (ts : Timestamp) (ns key value op : String) :
    respond db (ts, .createConfig ns key value op) =
      (.bool (db.ledger.row? ns key).isNone,
        db.withLedger (db.ledger.apply (.create ns key value op ts))) := by
  simp [respond, Call.exec, createConfig_run, Response.ofExcept]

/-- The answer to `updateConfig` and the ledger after it. -/
theorem respond_updateConfig (db : Database) (ts : Timestamp) (ns key value op : String)
    (draft : Bool) :
    respond db (ts, .updateConfig ns key value op draft) =
      (.bool (db.ledger.row? ns key).isSome,
        db.withLedger (db.ledger.apply (.update ns key value op draft ts))) := by
  simp [respond, Call.exec, updateConfig_run, Response.ofExcept]

/-- The answer to `deleteConfig` and the ledger after it. -/
theorem respond_deleteConfig (db : Database) (ts : Timestamp) (ns key op : String)
    (draft : Bool) :
    respond db (ts, .deleteConfig ns key op draft) =
      (.bool true, db.withLedger (db.ledger.apply (.delete ns key op draft ts))) := by
  simp [respond, Call.exec, deleteConfig_run, Response.ofExcept]

/-- `rollbackConfig` answers as the update it resolves to, or `false` without one. -/
theorem respond_rollbackConfig (db : Database) (ts : Timestamp) (ns key op : String)
    (target : Int32) :
    respond db (ts, .rollbackConfig ns key target op) =
      match db.ledger.version? ns key target with
      | none => (.bool false, db)
      | some v => respond db (ts, .updateConfig ns key v.value op true) := by
  simp only [respond, Call.exec, map_run, rollbackConfig_run]
  cases db.ledger.version? ns key target <;> rfl

/-- The answer to `publishRelease` outside a transaction and the tables after it. -/
theorem respond_publishRelease (db : Database) (ts : Timestamp) (ns note op : String)
    (hs : db.snapshot = none) :
    respond db (ts, .publishRelease ns note op) =
      (.outRelease true (some (db.tables.nextRelease ns note op ts)),
        { db with tables := db.tables.published ns note op ts }) := by
  simp [respond, Call.exec, publishRelease_run ns note op ts noFaults db hs, noFaults, failsInside,
    Response.ofExcept]

end ConfigCenter.Storage
