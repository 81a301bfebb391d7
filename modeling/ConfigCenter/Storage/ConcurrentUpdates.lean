import ConfigCenter.Base.Interleaving
import ConfigCenter.Base.Journal
import ConfigCenter.Storage.BackendAgreement

/-!
# Concurrent updates of one key

Library `Storage`. Calls of `MysqlConfigStore::updateConfig` on one key, each a
query and three statements on a connection of its own, without a transaction. A
schedule says whose statement comes next. A ghost list records what each `UPDATE` that
went through found in the row it rewrote, and two more whose rows have been inserted.
-/

namespace ConfigCenter.Storage
open ConfigCenter.Base SqliteConfigStore MysqlConfigStore Ledger

/-- The arguments of a call of `updateConfig` beside namespace and key, with the clock reading it
takes at its start. -/
structure UpdateCall where
  value : String
  operatorId : String
  draft : Bool
  ts : Timestamp
  clock : isClockText ts

/-- How far a call has come; the version and the value are those it read. -/
inductive UpdatePhase where
  | start
  | read (oldVersion : Int32) (oldValue : String)
  | rewritten (oldVersion : Int32) (oldValue : String)
  | versioned (oldVersion : Int32) (oldValue : String)
  | returned (ok : Bool)
  | threw
  deriving DecidableEq

/-- A call and how far it has come. -/
structure Updater where
  call : UpdateCall
  phase : UpdatePhase

/-- One `UPDATE` that went through: whose it was, the version it wrote and the value it
replaced. -/
structure UpdateWrite where
  client : Nat
  call : UpdateCall
  version : Int32
  replaced : Option String

/-- The tables, and for the record the updates so far and those among them whose version row and
whose log row have been inserted. -/
structure UpdateShared where
  tables : MysqlTables
  writes : List UpdateWrite := []
  versioned : List UpdateWrite := []
  logged : List UpdateWrite := []

/-- The updates of one client. -/
def UpdateShared.writesOf (s : UpdateShared) (i : Nat) : List UpdateWrite :=
  s.writes.filter fun w ↦ w.client = i

namespace Updater

variable (engine : Engine) (namespaceId key : String)

/-- The status that a call writes, `mysql_config_store.cpp:379`. -/
def status (c : Updater) : ConfigStatus := if c.call.draft then .draft else .live

/-- The tables after a statement; a statement that fails changes nothing. -/
def sent (st : Statement) (t : MysqlTables) : MysqlTables :=
  (execute engine st { tables := t }).2.tables

/-- Where a call stands after its query, `mysql_config_store.cpp:366–377`. -/
def afterQuery (t : MysqlTables) : UpdatePhase :=
  match (query engine (.versionAndValue (escape namespaceId) (escape key)) { tables := t }).1 with
  | .ok [] => .returned false
  | .ok (row :: _) =>
    match stoi (cell row 0) with
    | .ok oldVersion => .read oldVersion (cell row 1)
    | .error _ => .threw
  | .error _ => .threw

/-- The next statement of client `i`, `mysql_config_store.cpp:359–395`. -/
def act (_ : Unit) (i : Nat) (c : Updater) (s : UpdateShared) : Updater × UpdateShared :=
  match c.phase with
  | .start => ({ c with phase := afterQuery engine namespaceId key s.tables }, s)
  | .read oldVersion oldValue =>
    let update : Statement := .updateConfig (escape c.call.value) (oldVersion + 1) c.status
      c.call.ts (escape namespaceId) (escape key)
    let write : UpdateWrite :=
      { client := i, call := c.call, version := oldVersion + 1
        replaced := (s.tables.configs.find? (namespaceId, key)).map ConfigKey.value }
    ({ c with phase := .rewritten oldVersion oldValue },
      { s with
        tables := sent engine update s.tables
        writes := s.writes ++ (if (update.exec engine s.tables).isSome then [write] else []) })
  | .rewritten oldVersion oldValue =>
    ({ c with phase := .versioned oldVersion oldValue },
      { s with
        tables := sent engine (.insertConfigVersion (oldVersion + 1)
          (escape (makeConfigId namespaceId key)) (escape c.call.value) .update
          (escape c.call.operatorId) c.call.ts) s.tables
        versioned := s.versioned ++ s.writesOf i })
  | .versioned oldVersion oldValue =>
    ({ c with phase := .returned true },
      { s with
        tables := sent engine (.insertChangeLog (escape (makeConfigId namespaceId key))
          (escape namespaceId) (escape key) (oldVersion + 1) (some (escape oldValue))
          (some (escape c.call.value)) .update (escape c.call.operatorId) c.call.ts) s.tables
        logged := s.logged ++ s.writesOf i })
  | .returned _ | .threw => (c, s)

end Updater

/-- Calls that have all yet to start. -/
def UpdateCall.initial (t : MysqlTables) (calls : List UpdateCall) :
    Clients Updater UpdateShared where
  locals := calls.map fun call ↦ { call, phase := .start }
  shared := { tables := t }

/-! ### What is promised -/

/-- The version row of an update. -/
def UpdateWrite.versionRow (namespaceId key : String) (w : UpdateWrite) : ConfigVersion :=
  Ledger.versionRow namespaceId key w.call.value w.call.operatorId w.version .update
    (datetimeText w.call.ts)

/-- The log row of an update, without its id: the old value is the one that was replaced. -/
def UpdateWrite.logRow (namespaceId key : String) (w : UpdateWrite) : ChangeLogRow :=
  MysqlConfigStore.logRow namespaceId key w.replaced (some w.call.value) w.call.operatorId
    w.version .update (datetimeText w.call.ts)

/-- A log row as the statement gives it, before the table numbers it. -/
def ChangeLogRow.withoutId (l : ChangeLogRow) : ChangeLogRow := { l with id := 0 }

/-- The call has not begun or is over. -/
def Updater.idle (c : Updater) : Bool :=
  match c.phase with
  | .start | .returned _ | .threw => true
  | _ => false

/-- The call has returned true. -/
def Updater.succeeded (c : Updater) : Bool := c.phase = .returned true

section Promise
variable (namespaceId key : String) (t₀ : MysqlTables) (row₀ : ConfigKey)

/-- Rows of `config_versions` that have been added. -/
def UpdateShared.addedVersions (s : UpdateShared) : List ConfigVersion :=
  s.tables.configVersions.drop t₀.configVersions.length

/-- Rows of `change_logs` that have been added. -/
def UpdateShared.addedLogs (s : UpdateShared) : List ChangeLogRow :=
  s.tables.changeLogs.rows.drop t₀.changeLogs.rows.length

/-- No update is lost and none is counted twice. -/
structure NoLostUpdate (c : Clients Updater UpdateShared) : Prop where
  version : ∃ row, c.shared.tables.configs.find? (namespaceId, key) = some row ∧
    row.version.toInt = row₀.version.toInt + c.locals.countP Updater.succeeded
  numbers : ((c.shared.addedVersions t₀).map fun v ↦ v.version.toInt).Perm
    ((List.range (c.locals.countP Updater.succeeded)).map
      fun k : Nat ↦ row₀.version.toInt + 1 + (k : Int))
  logs : ((c.shared.addedLogs t₀).map ChangeLogRow.withoutId).Perm
    (c.shared.writes.map (UpdateWrite.logRow namespaceId key))
  highest : ∀ row ∈ c.shared.tables.configs.find? (namespaceId, key),
    ∀ v ∈ c.shared.addedVersions t₀,
      (∀ u ∈ c.shared.addedVersions t₀, u.version.toInt ≤ v.version.toInt) → row.value = v.value

/-- An `UPDATE` finds the version that its call read, below the largest `int32_t`, and the texts
of the call have room in their columns. -/
def Fresh (_ : Unit) (_ : Nat) (c : Updater) (s : UpdateShared) : Prop :=
  match c.phase with
  | .read oldVersion _ =>
    (∀ row ∈ s.tables.configs.find? (namespaceId, key),
      row.version = oldVersion ∧ oldVersion.toInt < 2147483647) ∧
    TextFits .text c.call.value ∧ TextFits (.varchar 255) c.call.operatorId
  | _ => True

instance (e : Unit) (i : Nat) (c : Updater) (s : UpdateShared) :
    Decidable (Fresh namespaceId key e i c s) :=
  match c with
  | ⟨_, .read oldVersion _⟩ => inferInstanceAs (Decidable ((∀ row ∈
      s.tables.configs.find? (namespaceId, key),
        row.version = oldVersion ∧ oldVersion.toInt < 2147483647) ∧ _ ∧ _))
  | ⟨_, .start⟩ | ⟨_, .rewritten _ _⟩ | ⟨_, .versioned _ _⟩ | ⟨_, .returned _⟩ | ⟨_, .threw⟩ =>
    inferInstanceAs (Decidable True)

/-! ### The books -/

/-- Texts have room, the row is that of the last update, the updates carry consecutive versions
and belong to `n` clients, and the inserted rows are those of updates, each at most once. -/
structure Booked (n : Nat) (s : UpdateShared) : Prop where
  fits : s.tables.Fits
  row : ∃ row, s.tables.configs.find? (namespaceId, key) = some row ∧
    row.version.toInt = row₀.version.toInt + s.writes.length ∧
    ∀ w, s.writes.getLast? = some w → row.value = w.call.value
  numbered : Numbered (fun w : UpdateWrite ↦ w.version.toInt - row₀.version.toInt) s.writes
  clients : (s.writes.map UpdateWrite.client).Nodup
  named : ∀ w ∈ s.writes, w.client < n
  versions : s.tables.configVersions =
    t₀.configVersions ++ s.versioned.map (UpdateWrite.versionRow namespaceId key)
  logs : ∃ logs, s.tables.changeLogs.rows = t₀.changeLogs.rows ++ logs ∧
    logs.map ChangeLogRow.withoutId = s.logged.map (UpdateWrite.logRow namespaceId key)
  versioned : s.versioned.Nodup ∧ s.versioned ⊆ s.writes
  logged : s.logged.Nodup ∧ s.logged ⊆ s.writes

/-- The one update of client `i`, with the version and the value it read; its texts have room. -/
structure Wrote (i : Nat) (c : Updater) (s : UpdateShared) (oldVersion : Int32)
    (oldValue : String) (w : UpdateWrite) : Prop where
  only : s.writesOf i = [w]
  call : w.call = c.call
  version : w.version = oldVersion + 1
  replaced : w.replaced = some oldValue
  fits : WriteFits namespaceId key c.call.value c.call.operatorId
  oldFits : TextFits .text oldValue

/-- What client `i` knows, among `n` clients. -/
def Knows (n i : Nat) (c : Updater) (s : UpdateShared) : Prop :=
  i < n ∧ match c.phase with
  | .start | .returned false | .threw => s.writesOf i = []
  | .read oldVersion oldValue => s.writesOf i = [] ∧ TextFits .text oldValue ∧
    ∀ row ∈ s.tables.configs.find? (namespaceId, key), oldVersion.toInt ≤ row.version.toInt ∧
      (oldVersion = row.version → oldValue = row.value)
  | .rewritten oldVersion oldValue =>
    ∃ w, Wrote namespaceId key i c s oldVersion oldValue w ∧ w ∉ s.versioned ∧ w ∉ s.logged
  | .versioned oldVersion oldValue =>
    ∃ w, Wrote namespaceId key i c s oldVersion oldValue w ∧ w ∈ s.versioned ∧ w ∉ s.logged
  | .returned true => ∃ w, s.writesOf i = [w] ∧ w ∈ s.versioned ∧ w ∈ s.logged

end Promise

/-! ### Statements -/

section Steps
variable (engine : Engine) {namespaceId key : String} {t₀ : MysqlTables} {row₀ : ConfigKey}
variable {s : UpdateShared} {i : Nat} {call : UpdateCall}

private theorem afterQuery_of_some [engine.ByteWise] {t : MysqlTables} {row : ConfigKey}
    (h : t.configs.find? (namespaceId, key) = some row) :
    Updater.afterQuery engine namespaceId key t = .read row.version row.value := by
  unfold Updater.afterQuery
  rw [query_versionAndValue, h]
  simp [cell, stoi_intCell]

private theorem sent_of_some {st : Statement} {t t' : MysqlTables}
    (h : st.exec engine t = some t') : Updater.sent engine st t = t' := by
  have hrun : execute engine st { tables := t } = _ := execute_of_some h
  rw [Updater.sent, hrun, tables_after]

private theorem fits_sent (st : Statement) {t : MysqlTables} (h : t.Fits) :
    (Updater.sent engine st t).Fits :=
  (MysqlM.keeps_execute engine st { tables := t } ⟨h, fun _ ht ↦ by cases ht⟩).1

private theorem exec_updateCall [engine.ByteWise] (namespaceId key : String) {call : UpdateCall}
    (h : TextFits .text call.value) (t : MysqlTables) (version : Int32) (status : ConfigStatus) :
    (Statement.updateConfig (escape call.value) version status call.ts (escape namespaceId)
        (escape key)).exec engine t =
      some { t with
        configs := t.configs.mapWhere (atKey namespaceId key)
          (ConfigKey.overwrite call.value version status (datetimeText call.ts))
          (primaryKey_overwrite _ _ _ _) } :=
  exec_updateConfig engine call.clock t h namespaceId key version status

private theorem sent_insertConfigVersion {call : UpdateCall}
    (h : WriteFits namespaceId key call.value call.operatorId) (t : MysqlTables)
    (version : Int32) :
    Updater.sent engine (.insertConfigVersion version (escape (makeConfigId namespaceId key))
        (escape call.value) .update (escape call.operatorId) call.ts) t =
      { t with
        configVersions := t.configVersions ++ [versionRow namespaceId key call.value
          call.operatorId version .update (datetimeText call.ts)] } :=
  sent_of_some engine (exec_insertConfigVersion engine call.clock t version h .update)

private theorem sent_insertChangeLog {call : UpdateCall} {oldValue : String}
    (h : WriteFits namespaceId key call.value call.operatorId) (hold : TextFits .text oldValue)
    (t : MysqlTables) (version : Int32) :
    Updater.sent engine (.insertChangeLog (escape (makeConfigId namespaceId key))
        (escape namespaceId) (escape key) version (some (escape oldValue))
        (some (escape call.value)) .update (escape call.operatorId) call.ts) t =
      t.log (MysqlConfigStore.logRow namespaceId key (some oldValue) (some call.value)
        call.operatorId version .update (datetimeText call.ts)) :=
  sent_of_some engine (exec_insertChangeLog engine call.clock t h.namespaceId h.key h.operatorId
    version (some oldValue) (some call.value) (by simpa using hold) (by simpa using h.value)
    .update)

-- a statement answers and leaves the tables that `sent` says, whatever else the connection holds
private theorem execute_sent (st : Statement) (conn : Connection) :
    ∃ ok conn', execute engine st conn = (.ok ok, conn') ∧
      conn'.tables = Updater.sent engine st conn.tables := by
  unfold Updater.sent execute
  simp only
  cases st.exec engine conn.tables with
  | none => exact ⟨false, conn, rfl, rfl⟩
  | some t => exact ⟨true, conn.after st t, rfl, rfl⟩

/-- A call that runs alone does to the tables what `updateConfig` does, and returns what it
returns. -/
theorem updateConfig_solo (namespaceId key : String) (t : MysqlTables) (call : UpdateCall) :
    let final := run (Clients.step (Updater.act engine namespaceId key))
      (UpdateCall.initial t [call]) (List.replicate 4 ((), 0))
    let result := MysqlConfigStore.updateConfig engine namespaceId key call.value call.operatorId
      call.draft call.ts { tables := t }
    final.locals.map Updater.phase =
        [match result.1 with | .ok ok => .returned ok | .error _ => .threw] ∧
      final.shared.tables = result.2.tables := by
  have hq := query_apply engine (.versionAndValue (escape namespaceId) (escape key))
    { tables := t }
  cases hrows : (Query.rows engine { tables := t }
    (.versionAndValue (escape namespaceId) (escape key))).getD [] with
  | nil =>
    rw [hrows] at hq
    rw [MysqlConfigStore.updateConfig, MysqlM.bind_of_ok hq]
    simp [List.replicate, UpdateCall.initial, Clients.step, Updater.act, Updater.afterQuery, hrows]
  | cons row rest =>
    rw [hrows] at hq
    rw [MysqlConfigStore.updateConfig, MysqlM.bind_of_ok hq]
    simp only
    cases hversion : stoi (cell row 0) with
    | error e =>
      simp [List.replicate, UpdateCall.initial, Clients.step, Updater.act, Updater.afterQuery,
        hrows, hversion]
    | ok oldVersion =>
      obtain ⟨ok₁, conn₁, h₁, ht₁⟩ := execute_sent engine (.updateConfig (escape call.value)
        (oldVersion + 1) (if call.draft then .draft else .live) call.ts (escape namespaceId)
        (escape key)) { tables := t }
      obtain ⟨ok₂, conn₂, h₂, ht₂⟩ := execute_sent engine (.insertConfigVersion (oldVersion + 1)
        (escape (makeConfigId namespaceId key)) (escape call.value) .update
        (escape call.operatorId) call.ts) conn₁
      obtain ⟨ok₃, conn₃, h₃, ht₃⟩ := execute_sent engine (.insertChangeLog
        (escape (makeConfigId namespaceId key)) (escape namespaceId) (escape key) (oldVersion + 1)
        (some (escape (cell row 1))) (some (escape call.value)) .update (escape call.operatorId)
        call.ts) conn₂
      rw [MysqlM.bind_of_ok (MysqlM.ofExcept_apply (.ok oldVersion) { tables := t }),
        MysqlM.bind_of_ok h₁, MysqlM.bind_of_ok h₂, MysqlM.bind_of_ok h₃]
      simp [List.replicate, UpdateCall.initial, Clients.step, Updater.act, Updater.afterQuery,
        hrows, hversion, ht₁, ht₂, ht₃, Updater.status]

private theorem client_of_mem_writesOf {w : UpdateWrite} (h : w ∈ s.writesOf i) :
    w ∈ s.writes ∧ w.client = i := by
  simpa [UpdateShared.writesOf] using h

private theorem notMem_of_writesOf_nil (h : s.writesOf i = []) {w : UpdateWrite}
    (hw : w.client = i) : w ∉ s.writes := by
  intro hmem
  have : w ∈ s.writesOf i := by simpa [UpdateShared.writesOf] using ⟨hmem, hw⟩
  rw [h] at this
  cases this

-- whose rows have been inserted, after one more insertion
private theorem recorded_concat {writes recorded : List UpdateWrite} {w : UpdateWrite}
    (h : recorded.Nodup ∧ recorded ⊆ writes) (hnew : w ∉ recorded) (hmem : w ∈ writes) :
    (recorded ++ [w]).Nodup ∧ recorded ++ [w] ⊆ writes := by
  refine ⟨h.1.append (List.nodup_singleton w) ?_, ?_⟩
  · intro a ha hb
    exact hnew (List.mem_singleton.mp hb ▸ ha)
  · exact List.append_subset.mpr ⟨h.2, by simpa using hmem⟩

private theorem fits_of_find? {t : MysqlTables} (h : t.Fits) {row : ConfigKey}
    (hrow : t.configs.find? (namespaceId, key) = some row) :
    TextFits (.varchar 255) namespaceId ∧ TextFits (.varchar 255) key ∧
      TextFits .text row.value := by
  obtain ⟨hmem, hat⟩ := (KeyedTable.find?_eq_some_iff _ _ _).mp hrow
  obtain ⟨rfl, rfl⟩ : row.namespaceId = namespaceId ∧ row.key = key := Prod.ext_iff.mp hat
  exact h.configs row hmem

private theorem find?_overwrite {t : MysqlTables} {row : ConfigKey}
    (h : t.configs.find? (namespaceId, key) = some row) (value : String) (version : Int32)
    (status : ConfigStatus) (ts : Timestamp) :
    (t.configs.mapWhere (atKey namespaceId key) (ConfigKey.overwrite value version status ts)
      (primaryKey_overwrite _ _ _ _)).find? (namespaceId, key) =
      some (row.overwrite value version status ts) := by
  have hkey := KeyedTable.key_of_find? h
  rw [KeyedTable.find?_mapWhere, h, Option.map_some, if_pos]
  simpa [atKey, ConfigKey.primaryKey] using hkey

private theorem step_read [engine.ByteWise] {n : Nat} {oldVersion : Int32} {oldValue : String}
    (hs : Booked namespaceId key t₀ row₀ n s)
    (hk : Knows namespaceId key n i ⟨call, .read oldVersion oldValue⟩ s)
    (hq : Fresh namespaceId key () i ⟨call, .read oldVersion oldValue⟩ s) :
    let r := Updater.act engine namespaceId key () i ⟨call, .read oldVersion oldValue⟩ s
    Booked namespaceId key t₀ row₀ n r.2 ∧ Knows namespaceId key n i r.1 r.2 := by
  obtain ⟨hi, hnone, holdfit, hread⟩ := hk
  obtain ⟨row, hrow, hversion, -⟩ := hs.row
  obtain ⟨hunchanged, hvaluefit, hopfit⟩ := hq
  obtain ⟨hfresh, hmax⟩ := hunchanged row hrow
  have hvalue : oldValue = row.value := (hread row hrow).2 hfresh.symm
  have hnext : (oldVersion + 1).toInt = row₀.version.toInt + s.writes.length + 1 := by
    rw [toInt_add_one hmax, ← hfresh, hversion]
  have hnew {w : UpdateWrite} (hw : w.client = i) : w ∉ s.writes := notMem_of_writesOf_nil hnone hw
  have hexec := exec_updateCall engine namespaceId key hvaluefit s.tables
    (oldVersion + 1) (Updater.status ⟨call, .read oldVersion oldValue⟩)
  have hfits := fits_exec engine hs.fits hexec
  simp only [Updater.act, sent_of_some engine hexec, hexec, Option.isSome_some, if_true, hrow,
    Option.map_some]
  refine ⟨⟨hfits, ?_, ?_, ?_, ?_, hs.versions, hs.logs, ?_, ?_⟩, hi, ?_⟩
  · refine ⟨row.overwrite call.value (oldVersion + 1)
      (Updater.status ⟨call, .read oldVersion oldValue⟩) (datetimeText call.ts), ?_, ?_, ?_⟩
    · exact find?_overwrite hrow _ _ _ _
    · change (oldVersion + 1).toInt = _
      rw [hnext, List.length_append, List.length_singleton]
      omega
    · intro w hw
      rw [List.getLast?_concat] at hw
      cases hw
      rfl
  · refine hs.numbered.concat ?_
    simp only [hnext]
    omega
  · rw [List.map_append, List.map_singleton]
    refine hs.clients.append (List.nodup_singleton i) ?_
    intro a ha hb
    obtain ⟨w, hw, rfl⟩ := List.mem_map.mp ha
    exact hnew (List.mem_singleton.mp hb) hw
  · intro w hw
    rcases List.mem_append.mp hw with hw | hw
    · exact hs.named w hw
    · rw [List.mem_singleton.mp hw]
      exact hi
  · exact ⟨hs.versioned.1, fun w hw ↦ List.mem_append_left _ (hs.versioned.2 hw)⟩
  · exact ⟨hs.logged.1, fun w hw ↦ List.mem_append_left _ (hs.logged.2 hw)⟩
  · have hcallfit : WriteFits namespaceId key call.value call.operatorId :=
      have hroom := fits_of_find? hs.fits hrow
      ⟨hroom.1, hroom.2.1, hvaluefit, hopfit⟩
    refine ⟨⟨i, call, oldVersion + 1, some row.value⟩,
      ⟨?_, rfl, rfl, by rw [hvalue], hcallfit, holdfit⟩, ?_, ?_⟩
    · simpa [UpdateShared.writesOf] using hnone
    · exact fun hw ↦ hnew rfl (hs.versioned.2 hw)
    · exact fun hw ↦ hnew rfl (hs.logged.2 hw)

private theorem step_rewritten {n : Nat} {oldVersion : Int32} {oldValue : String}
    (hs : Booked namespaceId key t₀ row₀ n s)
    (hk : Knows namespaceId key n i ⟨call, .rewritten oldVersion oldValue⟩ s) :
    let r := Updater.act engine namespaceId key () i ⟨call, .rewritten oldVersion oldValue⟩ s
    Booked namespaceId key t₀ row₀ n r.2 ∧ Knows namespaceId key n i r.1 r.2 := by
  obtain ⟨hi, w, hw, hversioned, hlogged⟩ := hk
  have hmem : w ∈ s.writes := (client_of_mem_writesOf (hw.only ▸ List.mem_singleton_self w)).1
  have hfits := fits_sent engine (.insertConfigVersion (oldVersion + 1)
    (escape (makeConfigId namespaceId key)) (escape call.value) .update (escape call.operatorId)
    call.ts) hs.fits
  rw [sent_insertConfigVersion engine hw.fits] at hfits
  simp only [Updater.act, sent_insertConfigVersion engine hw.fits, hw.only]
  refine ⟨⟨hfits, hs.row, hs.numbered, hs.clients, hs.named, ?_, hs.logs, ?_, hs.logged⟩, hi, w,
    ?_, ?_, hlogged⟩
  · rw [hs.versions, List.map_append, List.map_singleton, List.append_assoc]
    simp only [UpdateWrite.versionRow, hw.call, hw.version]
  · exact recorded_concat hs.versioned hversioned hmem
  · exact ⟨hw.only, hw.call, hw.version, hw.replaced, hw.fits, hw.oldFits⟩
  · simp

private theorem step_versioned {n : Nat} {oldVersion : Int32} {oldValue : String}
    (hs : Booked namespaceId key t₀ row₀ n s)
    (hk : Knows namespaceId key n i ⟨call, .versioned oldVersion oldValue⟩ s) :
    let r := Updater.act engine namespaceId key () i ⟨call, .versioned oldVersion oldValue⟩ s
    Booked namespaceId key t₀ row₀ n r.2 ∧ Knows namespaceId key n i r.1 r.2 := by
  obtain ⟨hi, w, hw, hversioned, hlogged⟩ := hk
  have hmem : w ∈ s.writes := (client_of_mem_writesOf (hw.only ▸ List.mem_singleton_self w)).1
  have hfits := fits_sent engine (.insertChangeLog (escape (makeConfigId namespaceId key))
    (escape namespaceId) (escape key) (oldVersion + 1) (some (escape oldValue))
    (some (escape call.value)) .update (escape call.operatorId) call.ts) hs.fits
  rw [sent_insertChangeLog engine hw.fits hw.oldFits] at hfits
  simp only [Updater.act, sent_insertChangeLog engine hw.fits hw.oldFits, hw.only]
  refine ⟨⟨hfits, hs.row, hs.numbered, hs.clients, hs.named, hs.versions, ?_, hs.versioned, ?_⟩,
    hi, w, hw.only, hversioned, ?_⟩
  · obtain ⟨logs, hrows, hlogs⟩ := hs.logs
    refine ⟨logs ++ [{ MysqlConfigStore.logRow namespaceId key (some oldValue) (some call.value)
      call.operatorId (oldVersion + 1) .update (datetimeText call.ts) with
      id := s.tables.changeLogs.nextId }], ?_, ?_⟩
    · rw [MysqlTables.log, SerialTable.rows_append, hrows, List.append_assoc]
    · rw [List.map_append, hlogs, List.map_append, List.map_singleton, List.map_singleton]
      simp only [UpdateWrite.logRow, hw.call, hw.version, hw.replaced]
      rfl
  · exact recorded_concat hs.logged hlogged hmem
  · simp

-- What another client knows survives: its own records are untouched, and the row only moves on to
-- higher versions.
private theorem knows_frame {n j : Nat} {m : Updater} {s' : UpdateShared}
    (h : Knows namespaceId key n j m s) (hwrites : s'.writesOf j = s.writesOf j)
    (hversioned : ∀ w, w.client = j → (w ∈ s'.versioned ↔ w ∈ s.versioned))
    (hlogged : ∀ w, w.client = j → (w ∈ s'.logged ↔ w ∈ s.logged))
    (hrow : ∀ row' ∈ s'.tables.configs.find? (namespaceId, key),
      ∃ row ∈ s.tables.configs.find? (namespaceId, key),
        row.version.toInt ≤ row'.version.toInt ∧
          (row'.version = row.version → row'.value = row.value)) :
    Knows namespaceId key n j m s' := by
  obtain ⟨mcall, phase⟩ := m
  obtain ⟨hj, h⟩ := h
  refine ⟨hj, ?_⟩
  have hclient {w : UpdateWrite} (hw : s.writesOf j = [w]) : w.client = j :=
    (client_of_mem_writesOf (hw ▸ List.mem_singleton_self w)).2
  cases phase with
  | start => exact hwrites.trans h
  | threw => exact hwrites.trans h
  | read oldVersion oldValue =>
    refine ⟨hwrites.trans h.1, h.2.1, fun row' hrow' ↦ ?_⟩
    obtain ⟨row, hmem, hle, hsame⟩ := hrow row' hrow'
    obtain ⟨hold, hvalue⟩ := h.2.2 row hmem
    refine ⟨hold.trans hle, fun heq ↦ ?_⟩
    have hversion : row'.version = row.version := by
      apply Int32.toInt_inj.mp
      rw [← heq] at hle ⊢
      omega
    rw [hsame hversion]
    exact hvalue (heq.trans hversion)
  | rewritten oldVersion oldValue =>
    obtain ⟨w, hw, hv, hl⟩ := h
    have hc := hclient hw.only
    exact ⟨w, ⟨hwrites.trans hw.only, hw.call, hw.version, hw.replaced, hw.fits, hw.oldFits⟩,
      mt (hversioned w hc).mp hv, mt (hlogged w hc).mp hl⟩
  | versioned oldVersion oldValue =>
    obtain ⟨w, hw, hv, hl⟩ := h
    have hc := hclient hw.only
    exact ⟨w, ⟨hwrites.trans hw.only, hw.call, hw.version, hw.replaced, hw.fits, hw.oldFits⟩,
      (hversioned w hc).mpr hv, mt (hlogged w hc).mp hl⟩
  | returned ok =>
    cases ok with
    | false => exact hwrites.trans h
    | true =>
      obtain ⟨w, hw, hv, hl⟩ := h
      have hc := hclient hw
      exact ⟨w, hwrites.trans hw, (hversioned w hc).mpr hv, (hlogged w hc).mpr hl⟩

private theorem act_own [engine.ByteWise] (n : Nat) (e : Unit) (i : Nat) (c : Updater)
    (s : UpdateShared) (hq : Fresh namespaceId key e i c s)
    (hs : Booked namespaceId key t₀ row₀ n s)
    (hk : Knows namespaceId key n i c s) :
    Booked namespaceId key t₀ row₀ n (c.act engine namespaceId key e i s).2 ∧
      Knows namespaceId key n i (c.act engine namespaceId key e i s).1
        (c.act engine namespaceId key e i s).2 := by
  obtain ⟨call, phase⟩ := c
  cases phase with
  | start =>
    obtain ⟨row, hrow, -⟩ := hs.row
    simp only [Updater.act, afterQuery_of_some engine hrow]
    refine ⟨hs, hk.1, hk.2, (fits_of_find? hs.fits hrow).2.2, fun row' hrow' ↦ ?_⟩
    cases hrow.symm.trans hrow'
    exact ⟨le_rfl, fun _ ↦ rfl⟩
  | read oldVersion oldValue => exact step_read engine hs hk hq
  | rewritten oldVersion oldValue => exact step_rewritten engine hs hk
  | versioned oldVersion oldValue => exact step_versioned engine hs hk
  | returned ok => exact ⟨hs, hk⟩
  | threw => exact ⟨hs, hk⟩

private theorem act_other [engine.ByteWise] (n : Nat) (e : Unit) (i : Nat) (c : Updater)
    (s : UpdateShared) (j : Nat) (m : Updater) (hij : i ≠ j) (hq : Fresh namespaceId key e i c s)
    (hs : Booked namespaceId key t₀ row₀ n s) (hk : Knows namespaceId key n i c s)
    (hm : Knows namespaceId key n j m s) :
    Knows namespaceId key n j m (c.act engine namespaceId key e i s).2 := by
  have hsame : ∀ row' ∈ s.tables.configs.find? (namespaceId, key),
      ∃ row ∈ s.tables.configs.find? (namespaceId, key),
        row.version.toInt ≤ row'.version.toInt ∧
          (row'.version = row.version → row'.value = row.value) :=
    fun row hrow ↦ ⟨row, hrow, le_rfl, fun _ ↦ rfl⟩
  have happend (l : List UpdateWrite) (w : UpdateWrite) (hw : w.client = j) :
      w ∈ l ++ s.writesOf i ↔ w ∈ l := by
    rw [List.mem_append, or_iff_left]
    exact fun hmem ↦ hij ((client_of_mem_writesOf hmem).2.symm.trans hw)
  obtain ⟨call, phase⟩ := c
  cases phase with
  | start => exact hm
  | read oldVersion oldValue =>
    obtain ⟨row, hrow, -⟩ := hs.row
    obtain ⟨hunchanged, hvaluefit, -⟩ := hq
    obtain ⟨hfresh, hmax⟩ := hunchanged row hrow
    have hnext := toInt_add_one hmax
    have hexec := exec_updateCall engine namespaceId key hvaluefit s.tables
      (oldVersion + 1) (Updater.status ⟨call, .read oldVersion oldValue⟩)
    simp only [Updater.act, sent_of_some engine hexec, hexec, Option.isSome_some, if_true]
    refine knows_frame hm ?_ (fun _ _ ↦ Iff.rfl) (fun _ _ ↦ Iff.rfl) ?_
    · simp [UpdateShared.writesOf, hij]
    · intro row' hrow'
      rw [Option.mem_def, find?_overwrite hrow] at hrow'
      obtain rfl := Option.some.inj hrow'
      refine ⟨row, hrow, ?_, fun heq ↦ ?_⟩
      · simp only [ConfigKey.overwrite, hfresh, hnext]
        omega
      · have hinj := congrArg Int32.toInt heq
        simp only [ConfigKey.overwrite, hfresh, hnext] at hinj
        omega
  | rewritten oldVersion oldValue =>
    obtain ⟨-, w, hw, -⟩ := hk
    simp only [Updater.act, sent_insertConfigVersion engine hw.fits]
    exact knows_frame hm rfl (happend s.versioned) (fun _ _ ↦ Iff.rfl) hsame
  | versioned oldVersion oldValue =>
    obtain ⟨-, w, hw, -⟩ := hk
    simp only [Updater.act, sent_insertChangeLog engine hw.fits hw.oldFits]
    exact knows_frame hm rfl (fun _ _ ↦ Iff.rfl) (happend s.logged) hsame
  | returned ok => exact hm
  | threw => exact hm

private theorem coherent_initial (calls : List UpdateCall) (hfits : t₀.Fits)
    (h₀ : t₀.configs.find? (namespaceId, key) = some row₀) :
    Clients.Coherent (Booked namespaceId key t₀ row₀ calls.length)
      (Knows namespaceId key calls.length) (UpdateCall.initial t₀ calls) where
  shared := by
    refine ⟨hfits, ⟨row₀, h₀, by simp [UpdateCall.initial], by simp [UpdateCall.initial]⟩,
      numbered_nil, List.nodup_nil, by simp [UpdateCall.initial], by simp [UpdateCall.initial],
      ⟨[], by simp [UpdateCall.initial], rfl⟩, ?_, ?_⟩
    · exact ⟨List.nodup_nil, List.nil_subset _⟩
    · exact ⟨List.nodup_nil, List.nil_subset _⟩
  client := by
    intro i l hl
    simp only [UpdateCall.initial, List.getElem?_map, Option.map_eq_some_iff] at hl
    obtain ⟨call, hcall, rfl⟩ := hl
    exact ⟨(List.getElem?_eq_some_iff.mp hcall).1, rfl⟩

private theorem settled_of_idle {n : Nat} {l : Updater} {w : UpdateWrite}
    (hk : Knows namespaceId key n i l s) (hidle : l.idle) (hw : w ∈ s.writesOf i) :
    l.succeeded ∧ w ∈ s.versioned ∧ w ∈ s.logged := by
  obtain ⟨call, phase⟩ := l
  obtain ⟨-, hk⟩ := hk
  have hnil (h : s.writesOf i = []) : False := by
    rw [h] at hw
    cases hw
  cases phase with
  | start => exact (hnil hk).elim
  | threw => exact (hnil hk).elim
  | returned ok =>
    cases ok with
    | false => exact (hnil hk).elim
    | true =>
      obtain ⟨w', honly, hversioned, hlogged⟩ := hk
      rw [honly, List.mem_singleton] at hw
      subst hw
      exact ⟨by simp [Updater.succeeded], hversioned, hlogged⟩
  | read oldVersion oldValue => cases hidle
  | rewritten oldVersion oldValue => cases hidle
  | versioned oldVersion oldValue => cases hidle

section Idle

variable {c : Clients Updater UpdateShared}
  (h : Clients.Coherent (Booked namespaceId key t₀ row₀ c.locals.length)
    (Knows namespaceId key c.locals.length) c) (hidle : ∀ l ∈ c.locals, l.idle)

include h hidle

private theorem settled_of_coherent {w : UpdateWrite} (hw : w ∈ c.shared.writes) :
    (∃ l, c.locals[w.client]? = some l ∧ l.succeeded) ∧ w ∈ c.shared.versioned ∧
      w ∈ c.shared.logged := by
  have hlt := h.shared.named w hw
  have hl : c.locals[w.client]? = some c.locals[w.client] := List.getElem?_eq_getElem hlt
  have hown : w ∈ c.shared.writesOf w.client := by simpa [UpdateShared.writesOf] using hw
  obtain ⟨hok, hrest⟩ :=
    settled_of_idle (h.client _ _ hl) (hidle _ (List.mem_of_getElem? hl)) hown
  exact ⟨⟨_, hl, hok⟩, hrest⟩

private theorem length_writes_of_coherent :
    c.shared.writes.length = c.locals.countP Updater.succeeded := by
  rw [← List.length_map UpdateWrite.client]
  refine length_eq_countP h.shared.clients fun i ↦ ⟨?_, ?_⟩
  · intro hi
    obtain ⟨w, hw, rfl⟩ := List.mem_map.mp hi
    exact (settled_of_coherent h hidle hw).1
  · rintro ⟨⟨call, phase⟩, hl, hok⟩
    obtain rfl : phase = .returned true := by simpa [Updater.succeeded] using hok
    obtain ⟨w, honly, -⟩ := (h.client i _ hl).2
    obtain ⟨hw, rfl⟩ := client_of_mem_writesOf (honly ▸ List.mem_singleton_self w)
    exact List.mem_map_of_mem hw

private theorem noLostUpdate_of_coherent : NoLostUpdate namespaceId key t₀ row₀ c := by
  have hs := h.shared
  have hcount := length_writes_of_coherent h hidle
  have hnodup : c.shared.writes.Nodup := hs.clients.of_map
  have hversioned : c.shared.versioned.Perm c.shared.writes :=
    (List.perm_ext_iff_of_nodup hs.versioned.1 hnodup).mpr
      fun w ↦ ⟨fun hw ↦ hs.versioned.2 hw, fun hw ↦ (settled_of_coherent h hidle hw).2.1⟩
  have hlogged : c.shared.logged.Perm c.shared.writes :=
    (List.perm_ext_iff_of_nodup hs.logged.1 hnodup).mpr
      fun w ↦ ⟨fun hw ↦ hs.logged.2 hw, fun hw ↦ (settled_of_coherent h hidle hw).2.2⟩
  have hadded : c.shared.addedVersions t₀ =
      c.shared.versioned.map (UpdateWrite.versionRow namespaceId key) := by
    rw [UpdateShared.addedVersions, hs.versions, List.drop_left]
  obtain ⟨row, hrow, hversion, hvalue⟩ := hs.row
  obtain ⟨logs, hrows, hlogs⟩ := hs.logs
  refine ⟨⟨row, hrow, by rw [hversion, hcount]⟩, ?_, ?_, ?_⟩
  · rw [hadded, List.map_map, ← hcount, ← hs.numbered.map_eq]
    exact hversioned.map _
  · rw [UpdateShared.addedLogs, hrows, List.drop_left, hlogs]
    exact hlogged.map _
  · intro row' hrow' v hv hmax
    cases hrow.symm.trans hrow'
    rw [hadded] at hv hmax
    obtain ⟨w, hw, rfl⟩ := List.mem_map.mp hv
    -- the last update carries the highest version, so this is its row
    have hlast : c.shared.writes.getLast? = some w := by
      refine hs.numbered.getLast_of_forall_le (hversioned.mem_iff.mp hw) fun u hu ↦ ?_
      have hle := hmax _ (List.mem_map_of_mem (hversioned.mem_iff.mpr hu))
      simp only [UpdateWrite.versionRow, Ledger.versionRow] at hle
      omega
    exact hvalue w hlast

end Idle

end Steps

/-- In every state of a schedule of updates of one stored key in which no call is under way, no
update is lost, provided that every `UPDATE` finds the version its call read, below the largest
one, and writes texts that have room in their columns. -/
theorem noLostUpdate_of_fresh (engine : Engine) [engine.ByteWise] {namespaceId key : String}
    {t₀ : MysqlTables} {row₀ : ConfigKey} (hfits : t₀.Fits)
    (h₀ : t₀.configs.find? (namespaceId, key) = some row₀) (calls : List UpdateCall)
    (schedule : List (Unit × Nat))
    (hfresh : Along (Clients.step (Updater.act engine namespaceId key))
      (Clients.Acts (Fresh namespaceId key)) (UpdateCall.initial t₀ calls) schedule)
    (pre : List (Unit × Nat)) (hpre : pre <+: schedule)
    (hidle : ∀ l ∈ (run (Clients.step (Updater.act engine namespaceId key))
      (UpdateCall.initial t₀ calls) pre).locals, l.idle) :
    NoLostUpdate namespaceId key t₀ row₀ (run (Clients.step (Updater.act engine namespaceId key))
      (UpdateCall.initial t₀ calls) pre) := by
  obtain ⟨rest, rfl⟩ := hpre
  have hlength : (run (Clients.step (Updater.act engine namespaceId key))
      (UpdateCall.initial t₀ calls) pre).locals.length = calls.length := by
    rw [Clients.length_locals_run, UpdateCall.initial, List.length_map]
  have hcoherent := Clients.run_coherent (coherent_initial calls hfits h₀)
    ((along_append _ _ _ pre rest).mp hfresh).1 (act_own engine calls.length)
    (act_other engine calls.length)
  rw [← hlength] at hcoherent
  exact noLostUpdate_of_coherent hcoherent hidle

/-- The row of `timeout` in `shop/prod`. -/
def timeoutRow : ConfigKey where
  namespaceId := "shop/prod"
  key := "timeout"
  value := "30"
  version := 1
  status := .live
  createdAt := "2024-01-01 00:00:00"
  updatedAt := "2024-01-01 00:00:00"

/-- Tables with this row alone. -/
def timeoutTables : MysqlTables :=
  { MysqlTables.withNamespaces ["shop/prod"] with
    configs := ⟨[timeoutRow], List.nodup_singleton _⟩ }

/-- Two updates of it. -/
def timeoutCalls : List UpdateCall :=
  [⟨"60", "alice", true, "2024-05-01T12:00:00Z", by decide⟩,
    ⟨"90", "bob", true, "2024-05-01T12:00:00Z", by decide⟩]

/-- Its texts have room in their columns. -/
theorem fits_timeoutTables : timeoutTables.Fits := by
  constructor <;> decide

/-- The second call begins after the first has rewritten the row, and overtakes it. -/
theorem noLostUpdate_overtaken :
    NoLostUpdate "shop/prod" "timeout" timeoutTables timeoutRow
      (run (Clients.step (Updater.act .strict "shop/prod" "timeout"))
        (UpdateCall.initial timeoutTables timeoutCalls)
        [((), 0), ((), 0), ((), 1), ((), 1), ((), 1), ((), 1), ((), 0), ((), 0)]) :=
  noLostUpdate_of_fresh .strict fits_timeoutTables rfl timeoutCalls _ (by decide) _
    List.prefix_rfl (by decide)

/-- Two calls that both read before either writes return true, and one update is lost. -/
theorem not_noLostUpdate_both_read :
    let final := run (Clients.step (Updater.act .strict "shop/prod" "timeout"))
      (UpdateCall.initial timeoutTables timeoutCalls)
      [((), 0), ((), 1), ((), 0), ((), 0), ((), 0), ((), 1), ((), 1), ((), 1)]
    (∀ l ∈ final.locals, l.succeeded) ∧
      ¬ NoLostUpdate "shop/prod" "timeout" timeoutTables timeoutRow final := by
  refine ⟨by decide, fun h ↦ ?_⟩
  obtain ⟨row, hrow, hversion⟩ := h.version
  have hstored : some row = some (timeoutRow.overwrite "90" 2 .draft "2024-05-01 12:00:00") :=
    hrow.symm.trans (by decide)
  obtain rfl := Option.some.inj hstored
  exact absurd hversion (by decide)

end ConfigCenter.Storage
