import ConfigCenter.Storage.Ledger

/-!
# Configuration writes under storage failures

Library `Storage`. `createConfig`, `updateConfig` and `deleteConfig` change the row
of a key and record the change in the version table and the log by separate
statements, without the transaction that `publishRelease` puts around its own.
Under every pattern of failing storage calls, a write that does not report
success has changed nothing exactly when no statement fails after the row's.
-/

namespace ConfigCenter.Storage
open ConfigCenter.Base StorageM

/-- The calls that change one configuration. -/
inductive ConfigWrite where
  | createConfig (namespaceId key value operatorId : String)
  | updateConfig (namespaceId key value operatorId : String) (draft : Bool)
  | deleteConfig (namespaceId key operatorId : String) (draft : Bool)
  deriving DecidableEq, Repr

namespace ConfigWrite

/-- Run the method a write names, at one clock reading. -/
def exec (ts : Timestamp) : ConfigWrite → StorageM Bool
  | .createConfig ns key value op => SqliteConfigStore.createConfig ns key value op ts
  | .updateConfig ns key value op draft => SqliteConfigStore.updateConfig ns key value op draft ts
  | .deleteConfig ns key op draft => SqliteConfigStore.deleteConfig ns key op draft ts

/-- The write gets as far as changing the row of its key. -/
def ChangesRow (faults : Faults) (l : Ledger) : ConfigWrite → Prop
  | .createConfig ns key _ _ => faults (.insert .configs) = false ∧ l.row? ns key = none
  | .updateConfig ns key _ _ _ =>
    faults (.getAll .configs) = false ∧ faults (.update .configs) = false ∧
      (l.row? ns key).isSome
  | .deleteConfig ns key _ draft =>
    faults (.removeAll .configs) = false ∧
      ∃ c, l.row? ns key = some c ∧ (draft → c.status = .draft)

/-- A statement that records the change fails. -/
def recordFails (faults : Faults) : ConfigWrite → Bool
  | .createConfig .. | .updateConfig .. =>
    faults (.insert .configVersions) || faults (.insert .changeLogs)
  | .deleteConfig .. => faults (.insert .changeLogs)

end ConfigWrite

/-- A call that returns `false` or throws leaves configurations, versions and log as it found
them. -/
def FailsCleanly (db : Database) (result : Except Thrown Bool × Database) : Prop :=
  result.1 ≠ .ok true → result.2.tables.configs = db.tables.configs ∧
    result.2.tables.configVersions = db.tables.configVersions ∧
    result.2.tables.changeLogs = db.tables.changeLogs

/-! ### Recording a change -/

variable {faults : Faults} {db : Database}

/-- What the statements after the row's do: they return `true`, or throw and leave the rows. -/
structure Records (fails : Bool) (db' : Database) (result : Except Thrown Bool × Database) :
    Prop where
  succeeds : fails = false → result.1 = .ok true
  throws : fails = true → result.1 ≠ .ok true ∧ result.2.tables.configs = db'.tables.configs

private theorem records_version (faults : Faults) (db' : Database) (cv : ConfigVersion)
    (cl : ChangeLog) :
    Records (faults (.insert .configVersions) || faults (.insert .changeLogs)) db'
      ((do insertConfigVersion cv; insertChangeLog cl; return true : StorageM Bool)
        faults db') := by
  cases hv : faults (.insert .configVersions) <;> cases hl : faults (.insert .changeLogs) <;>
    constructor <;> simp [insertConfigVersion, insertChangeLog, Tables.log, hv, hl]

private theorem records_log (faults : Faults) (db' : Database) (cl : ChangeLog) :
    Records (faults (.insert .changeLogs)) db'
      ((do insertChangeLog cl; return true : StorageM Bool) faults db') := by
  cases hl : faults (.insert .changeLogs) <;> constructor <;>
    simp [insertChangeLog, Tables.log, hl]

/-- After a change of the rows, only a recorded change fails cleanly. -/
theorem failsCleanly_iff_of_records {fails : Bool} {db' : Database}
    {result : Except Thrown Bool × Database} (h : Records fails db' result)
    (hrow : db'.tables.configs ≠ db.tables.configs) :
    FailsCleanly db result ↔ fails = false := by
  constructor
  · intro hclean
    cases hf : fails with
    | false => rfl
    | true =>
      obtain ⟨hreturned, hconfigs⟩ := h.throws hf
      exact absurd (hconfigs.symm.trans (hclean hreturned).1) hrow
  · intro hf hreturned
    exact absurd (h.succeeds hf) hreturned

private theorem failsCleanly_self (answer : Except Thrown Bool) : FailsCleanly db (answer, db) :=
  fun _ ↦ ⟨rfl, rfl, rfl⟩

/-! ### One lemma for each call -/

-- The rewritten row has another version, also where the number wraps.
private theorem replace_ne {configs : KeyedTable ConfigKey.primaryKey} {k : String × String}
    {old : ConfigKey} (h : configs.find? k = some old) (value : String) (draft : Bool)
    (ts : Timestamp) : configs.replace (Ledger.rewrittenRow old value draft ts) ≠ configs := by
  intro heq
  have hkey : (Ledger.rewrittenRow old value draft ts).primaryKey = k :=
    (KeyedTable.key_of_find? h : old.primaryKey = k)
  have hfound := KeyedTable.find?_replace configs (Ledger.rewrittenRow old value draft ts) k
  rw [heq, if_pos hkey, h, Option.map_some] at hfound
  have hversion := congrArg ConfigKey.version (Option.some.inj hfound)
  simp [Ledger.rewrittenRow] at hversion

private theorem insert?_ne {configs configs' : KeyedTable ConfigKey.primaryKey} {c : ConfigKey}
    (h : configs.insert? c = some configs') : configs' ≠ configs := by
  intro heq
  have hlength := congrArg List.length (KeyedTable.rows_insert? h)
  simp [heq] at hlength

private theorem removeWhere_eq_self_iff (l : Ledger) (ns key : String) (draft : Bool) :
    l.configs.removeWhere (Ledger.removes ns key draft) = l.configs ↔
      ¬ ∃ c, l.row? ns key = some c ∧ (draft → c.status = .draft) := by
  constructor
  · rintro heq ⟨c, hrow, hdraft⟩
    have hfound := KeyedTable.find?_removeWhere l.configs (Ledger.removes ns key draft) (ns, key)
    rw [heq] at hfound
    change l.row? ns key = (l.row? ns key).filter _ at hfound
    rw [hrow] at hfound
    obtain ⟨rfl, rfl⟩ := Ledger.row?_key hrow
    have hkept := (Option.filter_eq_some_iff.mp hfound.symm).2
    have hremoved : Ledger.removes c.namespaceId c.key draft c = true := by
      cases draft with
      | false => simp [Ledger.removes, SqliteConfigStore.atKey]
      | true => simp [Ledger.removes, SqliteConfigStore.atKey, hdraft rfl]
    rw [hremoved] at hkept
    cases hkept
  · intro hnone
    refine KeyedTable.ext (List.filter_eq_self.mpr fun c hc ↦ ?_)
    cases hremoved : Ledger.removes ns key draft c with
    | false => rfl
    | true =>
      have hrow := Ledger.row?_of_mem (l := l) hc
      simp only [Ledger.removes, SqliteConfigStore.atKey, Bool.and_eq_true, decide_eq_true_eq,
        Bool.or_eq_true, Bool.not_eq_true'] at hremoved
      obtain ⟨⟨rfl, rfl⟩, hstatus⟩ := hremoved
      refine absurd ⟨c, hrow, fun hdraft ↦ ?_⟩ hnone
      rcases hstatus with hfalse | hstatus
      · rw [hdraft] at hfalse
        cases hfalse
      · exact hstatus

section Calls

variable (ns key value op : String) (draft : Bool) (ts : Timestamp)

private theorem failsCleanly_createConfig :
    FailsCleanly db (SqliteConfigStore.createConfig ns key value op ts faults db) ↔
      (faults (.insert .configs) = false ∧ db.ledger.row? ns key = none →
        (faults (.insert .configVersions) || faults (.insert .changeLogs)) = false) := by
  unfold SqliteConfigStore.createConfig insertConfig
  simp only [bind_run, succeeds_run, insertChecked_run]
  cases hf : faults (.insert .configs) with
  | true => simp [failsCleanly_self]
  | false =>
    cases hr : db.ledger.row? ns key with
    | some c =>
      have hi : db.tables.configs.insert? (Ledger.createdRow ns key value ts) = none :=
        (KeyedTable.insert?_eq_none_iff _ _).mpr ⟨c, hr⟩
      rw [Ledger.createdRow] at hi
      simp [hi, failsCleanly_self]
    | none =>
      obtain ⟨configs, hi⟩ : ∃ t,
          db.tables.configs.insert? (Ledger.createdRow ns key value ts) = some t :=
        KeyedTable.exists_insert? hr
      have hrow := insert?_ne hi
      rw [Ledger.createdRow] at hi
      simp only [hi, Option.map_some, Bool.false_eq_true, if_false, and_self, true_imp_iff]
      exact failsCleanly_iff_of_records (records_version _ _ _ _) hrow

private theorem failsCleanly_updateConfig :
    FailsCleanly db (SqliteConfigStore.updateConfig ns key value op draft ts faults db) ↔
      (faults (.getAll .configs) = false ∧ faults (.update .configs) = false ∧
          (db.ledger.row? ns key).isSome →
        (faults (.insert .configVersions) || faults (.insert .changeLogs)) = false) := by
  unfold SqliteConfigStore.updateConfig updateConfigRow
  simp only [bind_run, getAll_run, SqliteConfigStore.filter_atKey]
  change FailsCleanly db _ ↔ (_ ∧ _ ∧ (db.tables.configs.find? (ns, key)).isSome → _)
  cases hg : faults (.getAll .configs) with
  | true => simp [failsCleanly_self]
  | false =>
    cases hr : db.tables.configs.find? (ns, key) with
    | none => simp [failsCleanly_self]
    | some old =>
      cases hu : faults (.update .configs) with
      | true => simp [hu, failsCleanly_self]
      | false =>
        simp only [Option.toList_some, bind_run, modify_run, hu, Bool.false_eq_true, if_false,
          Option.isSome_some, and_self, true_imp_iff]
        let updated := { db.tables with
          configs := db.tables.configs.replace (Ledger.rewrittenRow old value draft ts) }
        exact failsCleanly_iff_of_records
          (records_version faults { db with tables := updated } _ _) (replace_ne hr value draft ts)

private theorem deleteConfig_eq :
    SqliteConfigStore.deleteConfig ns key op draft ts = do
      removeConfigs (Ledger.removes ns key draft)
      insertChangeLog (Ledger.deleteLog ns key op ts)
      return true := by
  cases draft with
  | true => rfl
  | false =>
    have hp : Ledger.removes ns key false = SqliteConfigStore.atKey ns key := by
      funext c
      simp [Ledger.removes]
    rw [hp]
    rfl

private theorem failsCleanly_deleteConfig :
    FailsCleanly db (SqliteConfigStore.deleteConfig ns key op draft ts faults db) ↔
      (faults (.removeAll .configs) = false ∧
          (∃ c, db.ledger.row? ns key = some c ∧ (draft → c.status = .draft)) →
        faults (.insert .changeLogs) = false) := by
  rw [deleteConfig_eq, bind_run, removeConfigs, modify_run]
  cases hf : faults (.removeAll .configs) with
  | true => simp [failsCleanly_self]
  | false =>
    let removed := db.tables.configs.removeWhere (Ledger.removes ns key draft)
    have hrecords := records_log faults
      { db with tables := { db.tables with configs := removed } } (Ledger.deleteLog ns key op ts)
    by_cases hrow : removed = db.tables.configs
    · -- nothing is removed, so a failing log leaves everything as it was
      have hnone := (removeWhere_eq_self_iff db.ledger ns key draft).mp hrow
      simp only [Bool.false_eq_true, if_false, hnone, and_false, false_imp_iff, iff_true]
      intro hreturned
      cases hl : faults (.insert .changeLogs) with
      | false => exact absurd (hrecords.succeeds hl) hreturned
      | true => simpa [insertChangeLog, hl] using hrow
    · have hsome := not_not.mp (mt (removeWhere_eq_self_iff db.ledger ns key draft).mpr hrow)
      simp only [Bool.false_eq_true, if_false, hsome, and_self, true_imp_iff]
      exact failsCleanly_iff_of_records hrecords hrow

end Calls

/-- A write fails cleanly exactly when, once it has changed the row of its key, no statement
that records the change fails. -/
theorem failsCleanly_iff (w : ConfigWrite) (ts : Timestamp) (faults : Faults) (db : Database) :
    FailsCleanly db (w.exec ts faults db) ↔
      (w.ChangesRow faults db.ledger → w.recordFails faults = false) := by
  cases w with
  | createConfig ns key value op => exact failsCleanly_createConfig ns key value op ts
  | updateConfig ns key value op draft => exact failsCleanly_updateConfig ns key value op draft ts
  | deleteConfig ns key op draft => exact failsCleanly_deleteConfig ns key op draft ts

/-- A creation whose version row cannot be written throws and leaves the new row behind. -/
theorem not_failsCleanly_create_without_version :
    ¬ ∀ (w : ConfigWrite) (ts : Timestamp) (faults : Faults) (db : Database),
      Reachable step Database.empty db → FailsCleanly db (w.exec ts faults db) := by
  intro h
  have hclean := h (.createConfig "shop" "timeout" "30" "alice") "t1"
    (· = .insert .configVersions) Database.empty ⟨[], rfl⟩ (by decide)
  exact absurd hclean.1 (by decide)

end ConfigCenter.Storage
