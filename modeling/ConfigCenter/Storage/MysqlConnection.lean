import Mathlib.Data.String.Basic
import ConfigCenter.Base.SqlDatabase
import ConfigCenter.Storage.SqliteConfigStore

/-!
# The MySQL server behind the store

Library `Storage`. Tables of `MysqlConfigStore::autoMigrate`,
`mysql_config_store.cpp:90–172`, as far as configurations, their history and
releases need them, and the statements that the store sends to a connection of
its pool. A statement carries the characters between the quotes of each string
literal, so that what the server reads is decided here and not by the caller.

MySQL is third-party code. `execute` returns `false` without effect on a
constraint violation or a malformed statement; `query` returns column text, with
NULL as the empty text, and no rows when it fails. `config_versions` has no key, so
its rows come in insertion order. What happens to a text that is too long for its
column, which texts the collation of the columns takes for equal, the order in which
`configs` is scanned, the order of rows that `ORDER BY` leaves open and the reading of
texts as `DATETIME` belong to an `Engine`. The pool hands out one connection at a time.
-/

namespace ConfigCenter.Storage
open ConfigCenter.Base SqliteConfigStore

/-! ### Literals and clock readings -/

/-- `MysqlConfigStore::escape`, `mysql_config_store.cpp:53–61`. -/
def escape (value : String) : String := String.ofList (value.toList.flatMap escapeChar)

/-- The value of a string literal, from the characters between its quotes. -/
def literal (text : String) : Option String := (readLiteral text.toList).map String.ofList

/-- What the store escapes reaches the server unchanged. -/
@[simp] theorem literal_escape (value : String) : literal (escape value) = some value := by
  simp [literal, escape, readLiteral_flatMap_escapeChar]

/-- Days of a month. -/
def daysInMonth (year month : Nat) : Nat :=
  if month = 2 then
    if year % 4 = 0 ∧ (year % 100 ≠ 0 ∨ year % 400 = 0) then 29 else 28
  else if month = 4 ∨ month = 6 ∨ month = 9 ∨ month = 11 then 30
  else 31

private def number (digits : List Char) : Nat := Nat.ofDigitChars 10 digits 0

/-- A calendar date as `%Y-%m-%d` writes it. -/
def isDate : List Char → Bool
  | [y₁, y₂, y₃, y₄, a, m₁, m₂, b, d₁, d₂] =>
    let month := number [m₁, m₂]
    let day := number [d₁, d₂]
    [y₁, y₂, y₃, y₄, m₁, m₂, d₁, d₂].all Char.isDigit && a = '-' && b = '-' &&
      (1 ≤ month && month ≤ 12 && 1 ≤ day && day ≤ daysInMonth (number [y₁, y₂, y₃, y₄]) month)
  | _ => false

/-- A time of day as `%H:%M:%S` writes it. -/
def isTime : List Char → Bool
  | [h₁, h₂, a, m₁, m₂, b, s₁, s₂] =>
    [h₁, h₂, m₁, m₂, s₁, s₂].all Char.isDigit && a = ':' && b = ':' &&
      (number [h₁, h₂] ≤ 23 && number [m₁, m₂] ≤ 59 && number [s₁, s₂] ≤ 59)
  | _ => false

/-- The date part of a clock reading. -/
def clockDate (t : Timestamp) : List Char := t.toList.take 10

/-- The time part of a clock reading. -/
def clockTime (t : Timestamp) : List Char := (t.toList.drop 11).take 8

/-- A text that `getTimestamp` can return, `mysql_config_store.cpp:45–51`. -/
def isClockText (t : Timestamp) : Bool :=
  t.toList = clockDate t ++ ('T' :: (clockTime t ++ ['Z'])) && isDate (clockDate t) &&
    isTime (clockTime t)

/-- The text MySQL returns for a `DATETIME` column that was set from a clock reading. -/
def datetimeText (t : Timestamp) : Timestamp :=
  String.ofList (clockDate t ++ (' ' :: clockTime t))

/-- A date has ten characters, digits and dashes. -/
theorem isDate_spec {cs : List Char} (h : isDate cs) :
    cs.length = 10 ∧ ∀ c ∈ cs, c.isDigit ∨ c = '-' := by
  unfold isDate at h
  split at h
  · simp only [List.all_cons, List.all_nil, Bool.and_true, Bool.and_eq_true,
      decide_eq_true_eq] at h
    obtain ⟨⟨⟨⟨h₁, h₂, h₃, h₄, h₅, h₆, h₇, h₈⟩, rfl⟩, rfl⟩, -⟩ := h
    exact ⟨rfl, by simp [h₁, h₂, h₃, h₄, h₅, h₆, h₇, h₈]⟩
  · cases h

/-- A time has eight characters, digits and colons. -/
theorem isTime_spec {cs : List Char} (h : isTime cs) :
    cs.length = 8 ∧ ∀ c ∈ cs, c.isDigit ∨ c = ':' := by
  unfold isTime at h
  split at h
  · simp only [List.all_cons, List.all_nil, Bool.and_true, Bool.and_eq_true,
      decide_eq_true_eq] at h
    obtain ⟨⟨⟨⟨h₁, h₂, h₃, h₄, h₅, h₆⟩, rfl⟩, rfl⟩, -⟩ := h
    exact ⟨rfl, by simp [h₁, h₂, h₃, h₄, h₅, h₆]⟩
  · cases h

private theorem clockText_spec {t : Timestamp} (h : isClockText t) :
    t.toList = clockDate t ++ ('T' :: (clockTime t ++ ['Z'])) ∧
      ((clockDate t).length = 10 ∧ ∀ c ∈ clockDate t, c.isDigit ∨ c = '-') ∧
      (clockTime t).length = 8 ∧ ∀ c ∈ clockTime t, c.isDigit ∨ c = ':' := by
  simp only [isClockText, Bool.and_eq_true, decide_eq_true_eq] at h
  exact ⟨h.1.1, isDate_spec h.1.2, isTime_spec h.2⟩

/-- A digit is neither a quote nor a backslash. -/
theorem isDigit_plain {c : Char} (h : c.isDigit) : c ≠ quote ∧ c ≠ backslash := by
  constructor
  · rintro rfl
    exact absurd h (by decide)
  · rintro rfl
    exact absurd h (by decide)

/-- A clock reading stands in a statement unescaped and is read as it is. -/
theorem literal_clock {t : Timestamp} (h : isClockText t) : literal t = some t := by
  obtain ⟨ht, ⟨_, hd⟩, _, hm⟩ := clockText_spec h
  have hplain : ∀ c ∈ t.toList, c ≠ quote ∧ c ≠ backslash := by
    intro c hc
    rw [ht] at hc
    simp only [List.mem_append, List.mem_cons, List.not_mem_nil,
      or_false] at hc
    rcases hc with hc | rfl | hc | rfl
    · rcases hd c hc with hc | rfl
      · exact isDigit_plain hc
      · decide
    · decide
    · rcases hm c hc with hc | rfl
      · exact isDigit_plain hc
      · decide
    · decide
  simp [literal, readLiteral_plain hplain]

/-- `DATETIME` values of clock readings are ordered as the readings are as texts. -/
theorem datetimeText_le_iff {s t : Timestamp} (hs : isClockText s) (ht : isClockText t) :
    datetimeText s ≤ datetimeText t ↔ s ≤ t := by
  obtain ⟨hsl, ⟨hsd, _⟩, hsm, _⟩ := clockText_spec hs
  obtain ⟨htl, ⟨htd, _⟩, htm, _⟩ := clockText_spec ht
  have hd : (clockDate t).length = (clockDate s).length := by rw [htd, hsd]
  have hm : (clockTime t).length = (clockTime s).length := by rw [htm, hsm]
  rw [← not_lt, ← not_lt, not_iff_not, String.lt_iff_toList_lt, String.lt_iff_toList_lt]
  rw [htl, hsl, datetimeText, datetimeText, String.toList_ofList, String.toList_ofList]
  simp only [append_lt_append_iff hd, append_lt_append_iff hm, List.cons_lt_cons_iff, lt_irrefl,
    false_or, true_and, and_false, or_false]

/-! ### Tables and connections -/

/-- A text has room in a column: `VARCHAR` counts characters, `TEXT` holds 65535 bytes. -/
def TextFits : SqlType → String → Prop
  | .varchar length, text => text.length ≤ length
  | .text, text => text.utf8ByteSize ≤ 65535
  | .int, _ | .bigint, _ | .boolean, _ | .datetime, _ => False

instance : (type : SqlType) → (text : String) → Decidable (TextFits type text)
  | .varchar length, text => inferInstanceAs (Decidable (text.length ≤ length))
  | .text, text => inferInstanceAs (Decidable (text.utf8ByteSize ≤ 65535))
  | .int, _ | .bigint, _ | .boolean, _ | .datetime, _ => isFalse id

/-- A row of `change_logs`, `mysql_config_store.cpp:142–155`; the two values may be NULL. -/
structure ChangeLogRow where
  id : Int := 0
  configId : String
  namespaceId : String
  key : String
  version : Int32
  oldValue : Option String := none
  newValue : Option String := none
  operation : ChangeType
  operatorId : String
  createdAt : Timestamp
  deriving DecidableEq, Repr

/-- The tables of `autoMigrate`, `mysql_config_store.cpp:93–171`. Of `namespaces` only the
column that foreign keys reference is kept. -/
structure MysqlTables where
  namespaces : List String
  configs : KeyedTable ConfigKey.primaryKey
  configVersions : List ConfigVersion
  changeLogs : SerialTable ChangeLogRow.id
  releases : SerialTable Release.id
  deriving DecidableEq

/-- The tables after `autoMigrate`, with namespaces of the given ids. -/
def MysqlTables.withNamespaces (namespaces : List String) : MysqlTables where
  namespaces
  configs := .empty
  configVersions := []
  changeLogs := .empty
  releases := .empty

/-- One connection: the visible tables, inside a transaction those it started from, and
the id that the last insertion generated. -/
structure Connection where
  tables : MysqlTables
  snapshot : Option MysqlTables := none
  lastInsertId : Int := 0
  deriving DecidableEq

/-- What the store relies on and MySQL decides. -/
structure Engine where
  /-- What a column keeps of a text: one that is too long is refused, or cut. -/
  keep : SqlType → String → Option String
  keep_of_fits : ∀ {type text}, TextFits type text → keep type text = some text
  fits_of_keep : ∀ {type text kept}, keep type text = some kept → TextFits type kept
  /-- Equality of two texts under the collation of the columns. -/
  same : String → String → Bool
  same_self : ∀ text, same text text
  /-- A text as a `DATETIME`; nothing where MySQL refuses it. -/
  datetime : String → Option Timestamp
  datetime_clock : ∀ t, isClockText t → datetime t = some (datetimeText t)
  /-- The order in which rows of `configs` are scanned. -/
  scan : List ConfigKey → List ConfigKey
  scan_perm : ∀ rows, (scan rows).Perm rows
  /-- `ORDER BY column DESC`. -/
  orderBy : {ρ κ : Type} → [LE κ] → [DecidableLE κ] → (ρ → κ) → List ρ → List ρ
  orderBy_perm : ∀ {ρ κ : Type} [LE κ] [DecidableLE κ] (column : ρ → κ) (rows : List ρ),
    (orderBy column rows).Perm rows
  orderBy_sorted : ∀ {ρ κ : Type} [LinearOrder κ] (column : ρ → κ) (rows : List ρ),
    (orderBy column rows).Pairwise fun a b ↦ column b ≤ column a

/-- Text columns compare byte by byte, as under a binary collation. -/
class Engine.ByteWise (engine : Engine) : Prop where
  same_iff : ∀ a b, engine.same a b ↔ a = b

/-! ### Statements -/

/-- Statements without a result. A text is what stands between the quotes of a literal. -/
inductive Statement where
  | insertConfig (namespaceId key value : String) (version : Int32) (status : ConfigStatus)
    (createdAt updatedAt : String)
  | insertConfigVersion (version : Int32) (configId value : String) (changeType : ChangeType)
    (operatorId createdAt : String)
  | insertChangeLog (configId namespaceId key : String) (version : Int32)
    (oldValue newValue : Option String) (operation : ChangeType) (operatorId createdAt : String)
  | updateConfig (value : String) (version : Int32) (status : ConfigStatus)
    (updatedAt namespaceId key : String)
  | deleteConfigs (namespaceId key : String) (status : Option ConfigStatus)
  | setConfigStatus (status : ConfigStatus) (namespaceId : String)
  | insertRelease (namespaceId : String) (releaseVersion : Int32)
    (releaseNote releaseType status : String) (grayscalePercentage : Option Int32)
    (whitelist : Option String) (operatorId createdAt : String)

/-- `SET value = …, version = …, status = …, updated_at = …` on a configuration row. -/
def ConfigKey.overwrite (value : String) (version : Int32) (status : ConfigStatus)
    (updatedAt : Timestamp) (c : ConfigKey) : ConfigKey :=
  { c with value, version, status, updatedAt }

/-- An overwritten row keeps its primary key. -/
@[simp] theorem primaryKey_overwrite (value : String) (version : Int32) (status : ConfigStatus)
    (updatedAt : Timestamp) (c : ConfigKey) :
    (c.overwrite value version status updatedAt).primaryKey = c.primaryKey := rfl

/-- The change-log table after one more row; its id is the table's own. -/
def MysqlTables.log (t : MysqlTables) (row : ChangeLogRow) : MysqlTables :=
  { t with changeLogs := t.changeLogs.append (fun n ↦ { row with id := n }) (fun _ ↦ rfl) }

/-- The release table after one more row; its id is the table's own. -/
def MysqlTables.addRelease (t : MysqlTables) (r : Release) : MysqlTables :=
  { t with releases := t.releases.append (fun n ↦ { r with id := n }) r.id_with }

namespace Engine

variable (engine : Engine)

/-- What a column keeps of a literal, from the characters between its quotes. -/
def stored (type : SqlType) (text : String) : Option String :=
  (literal text).bind (engine.keep type)

/-- The namespace is stored, as a foreign key asks. -/
def known (t : MysqlTables) (namespaceId : String) : Bool :=
  t.namespaces.any fun n ↦ engine.same n namespaceId

/-- The condition on namespace and key. -/
def atKey (namespaceId key : String) (c : ConfigKey) : Bool :=
  engine.same c.namespaceId namespaceId && engine.same c.key key

end Engine

/-- The tables after a statement; nothing when it is malformed, violates a constraint or has a
text that is refused. -/
def Statement.exec (engine : Engine) (t : MysqlTables) : Statement → Option MysqlTables
  | .insertConfig namespaceId key value version status createdAt updatedAt => do
    let namespaceId ← engine.stored (.varchar 255) namespaceId
    let key ← engine.stored (.varchar 255) key
    let value ← engine.stored .text value
    let createdAt ← (literal createdAt).bind engine.datetime
    let updatedAt ← (literal updatedAt).bind engine.datetime
    guard (engine.known t namespaceId)
    guard (!t.configs.rows.any (engine.atKey namespaceId key))
    let configs ← t.configs.insert?
      { namespaceId, key, value, version, status, createdAt, updatedAt }
    return { t with configs }
  | .insertConfigVersion version configId value changeType operatorId createdAt => do
    let configId ← engine.stored (.varchar 512) configId
    let value ← engine.stored .text value
    let operatorId ← engine.stored (.varchar 255) operatorId
    let createdAt ← (literal createdAt).bind engine.datetime
    let cv : ConfigVersion := { version, configId, value, changeType, operatorId, createdAt }
    return { t with configVersions := t.configVersions ++ [cv] }
  | .insertChangeLog configId namespaceId key version oldValue newValue operation operatorId
      createdAt => do
    let configId ← engine.stored (.varchar 512) configId
    let namespaceId ← engine.stored (.varchar 255) namespaceId
    let key ← engine.stored (.varchar 255) key
    let oldValue ← oldValue.mapM (engine.stored .text)
    let newValue ← newValue.mapM (engine.stored .text)
    let operatorId ← engine.stored (.varchar 255) operatorId
    let createdAt ← (literal createdAt).bind engine.datetime
    return t.log
      { configId, namespaceId, key, version, oldValue, newValue, operation, operatorId,
        createdAt }
  | .updateConfig value version status updatedAt namespaceId key => do
    let value ← engine.stored .text value
    let updatedAt ← (literal updatedAt).bind engine.datetime
    let namespaceId ← literal namespaceId
    let key ← literal key
    return { t with
      configs := t.configs.mapWhere (engine.atKey namespaceId key)
        (ConfigKey.overwrite value version status updatedAt)
        (primaryKey_overwrite value version status updatedAt) }
  | .deleteConfigs namespaceId key status => do
    let namespaceId ← literal namespaceId
    let key ← literal key
    return { t with
      configs := t.configs.removeWhere fun c ↦
        engine.atKey namespaceId key c && optionally status (fun s ↦ c.status = s) }
  | .setConfigStatus status namespaceId => do
    let namespaceId ← literal namespaceId
    return { t with
      configs := t.configs.mapWhere (fun c ↦ engine.same c.namespaceId namespaceId)
        (ConfigKey.withStatus status) (primaryKey_withStatus status) }
  | .insertRelease namespaceId releaseVersion releaseNote releaseType status grayscalePercentage
      whitelist operatorId createdAt => do
    let namespaceId ← engine.stored (.varchar 255) namespaceId
    let releaseNote ← engine.stored .text releaseNote
    let releaseType ← engine.stored (.varchar 50) releaseType
    let status ← engine.stored (.varchar 50) status
    let whitelist ← whitelist.mapM (engine.stored .text)
    let operatorId ← engine.stored (.varchar 255) operatorId
    let createdAt ← (literal createdAt).bind engine.datetime
    guard (engine.known t namespaceId)
    return t.addRelease
      { namespaceId, releaseVersion, releaseNote, releaseType, status, grayscalePercentage,
        whitelist, operatorId, createdAt }

section Columns

variable (engine : Engine)

/-- Of an escaped text is stored what the column keeps of the text. -/
theorem stored_escape_eq (type : SqlType) (text : String) :
    engine.stored type (escape text) = engine.keep type text := by
  rw [Engine.stored, literal_escape, Option.bind_some]

/-- An escaped text that has room in a column is stored as it is. -/
@[simp] theorem stored_escape {type : SqlType} {text : String} (h : TextFits type text) :
    engine.stored type (escape text) = some text := by
  rw [stored_escape_eq, engine.keep_of_fits h]

/-- What a column stores has room in it. -/
theorem fits_of_stored {type : SqlType} {text kept : String}
    (h : engine.stored type text = some kept) : TextFits type kept := by
  obtain ⟨value, -, hkeep⟩ := Option.bind_eq_some_iff.mp h
  exact engine.fits_of_keep hkeep

/-- The texts that the store reads back and writes again have room in their columns. -/
structure MysqlTables.Fits (t : MysqlTables) : Prop where
  namespaces : ∀ n ∈ t.namespaces, TextFits (.varchar 255) n
  configs : ∀ c ∈ t.configs.rows, TextFits (.varchar 255) c.namespaceId ∧
    TextFits (.varchar 255) c.key ∧ TextFits .text c.value
  configVersions : ∀ v ∈ t.configVersions, TextFits .text v.value

/-- Every statement keeps texts within the room of their columns. -/
theorem fits_exec {s : Statement} {t t' : MysqlTables} (h : t.Fits)
    (hexec : s.exec engine t = some t') : t'.Fits := by
  cases s with
  | insertConfig namespaceId key value version status createdAt updatedAt =>
    simp only [Statement.exec, Option.bind_eq_bind, Option.bind_eq_some_iff, Option.pure_def,
      Option.some.injEq] at hexec
    obtain ⟨ns, hns, k, hk, v, hv, _, _, _, _, _, _, _, _, configs, hi, rfl⟩ := hexec
    refine ⟨h.namespaces, fun c hc ↦ ?_, h.configVersions⟩
    simp only [KeyedTable.rows_insert? hi, List.mem_append, List.mem_singleton] at hc
    obtain hc | rfl := hc
    · exact h.configs c hc
    · exact ⟨fits_of_stored engine hns, fits_of_stored engine hk, fits_of_stored engine hv⟩
  | insertConfigVersion version configId value changeType operatorId createdAt =>
    simp only [Statement.exec, Option.bind_eq_bind, Option.bind_eq_some_iff, Option.pure_def,
      Option.some.injEq] at hexec
    obtain ⟨_, _, v, hv, _, _, _, _, rfl⟩ := hexec
    refine ⟨h.namespaces, h.configs, fun cv hcv ↦ ?_⟩
    obtain hcv | hcv := List.mem_append.mp hcv
    · exact h.configVersions cv hcv
    · rw [List.mem_singleton.mp hcv]
      exact fits_of_stored engine hv
  | insertChangeLog configId namespaceId key version oldValue newValue operation operatorId
      createdAt =>
    simp only [Statement.exec, Option.bind_eq_bind, Option.bind_eq_some_iff, Option.pure_def,
      Option.some.injEq] at hexec
    obtain ⟨_, _, _, _, _, _, _, _, _, _, _, _, _, _, rfl⟩ := hexec
    exact ⟨h.namespaces, h.configs, h.configVersions⟩
  | updateConfig value version status updatedAt namespaceId key =>
    simp only [Statement.exec, Option.bind_eq_bind, Option.bind_eq_some_iff, Option.pure_def,
      Option.some.injEq] at hexec
    obtain ⟨v, hv, _, _, _, _, _, _, rfl⟩ := hexec
    refine ⟨h.namespaces, fun c hc ↦ ?_, h.configVersions⟩
    obtain ⟨c₀, hc₀, rfl⟩ := List.mem_map.mp hc
    obtain ⟨hns, hkey, hvalue⟩ := h.configs c₀ hc₀
    split
    · exact ⟨hns, hkey, fits_of_stored engine hv⟩
    · exact ⟨hns, hkey, hvalue⟩
  | deleteConfigs namespaceId key status =>
    simp only [Statement.exec, Option.bind_eq_bind, Option.bind_eq_some_iff, Option.pure_def,
      Option.some.injEq] at hexec
    obtain ⟨_, _, _, _, rfl⟩ := hexec
    exact ⟨h.namespaces, fun c hc ↦ h.configs c (List.mem_of_mem_filter hc), h.configVersions⟩
  | setConfigStatus status namespaceId =>
    simp only [Statement.exec, Option.bind_eq_bind, Option.bind_eq_some_iff, Option.pure_def,
      Option.some.injEq] at hexec
    obtain ⟨_, _, rfl⟩ := hexec
    refine ⟨h.namespaces, fun c hc ↦ ?_, h.configVersions⟩
    obtain ⟨c₀, hc₀, rfl⟩ := List.mem_map.mp hc
    split
    · exact h.configs c₀ hc₀
    · exact h.configs c₀ hc₀
  | insertRelease namespaceId releaseVersion releaseNote releaseType status grayscalePercentage
      whitelist operatorId createdAt =>
    simp only [Statement.exec, Option.bind_eq_bind, Option.bind_eq_some_iff, Option.pure_def,
      Option.some.injEq] at hexec
    obtain ⟨_, _, _, _, _, _, _, _, _, _, _, _, _, _, _, _, rfl⟩ := hexec
    exact ⟨h.namespaces, h.configs, h.configVersions⟩

variable [engine.ByteWise]

/-- A byte-wise server compares texts as they are. -/
@[simp] theorem same_eq (a b : String) : engine.same a b = decide (a = b) :=
  Bool.eq_iff_iff.mpr ((Engine.ByteWise.same_iff a b).trans decide_eq_true_iff.symm)

/-- A byte-wise server knows the stored namespaces. -/
@[simp] theorem known_eq (t : MysqlTables) (namespaceId : String) :
    engine.known t namespaceId = decide (namespaceId ∈ t.namespaces) := by
  rw [Bool.eq_iff_iff]
  simp [Engine.known]

/-- A byte-wise server finds the rows that the SQLite store finds. -/
@[simp] theorem atKey_eq (namespaceId key : String) :
    engine.atKey namespaceId key = SqliteConfigStore.atKey namespaceId key := by
  funext c
  simp [Engine.atKey, SqliteConfigStore.atKey]

end Columns

/-- The id a successful statement generates in an `AUTO_INCREMENT` column. -/
def Statement.generatedId? (t : MysqlTables) : Statement → Option Int
  | .insertChangeLog .. => some t.changeLogs.nextId
  | .insertRelease .. => some t.releases.nextId
  | _ => none

/-! ### Queries -/

/-- Statements with a result. -/
inductive Query where
  | versionAndValue (namespaceId key : String)
  | config (namespaceId key : String)
  | configs (namespaceId : String) (status : Option ConfigStatus)
  | configVersions (configId : String)
  | configVersion (configId : String) (version : Int32)
  | changeLogs (key namespaceId timeFrom timeTo : Option String) (limit offset : Int32)
  | releases (namespaceId : String) (limit offset : Int32)
  | maxReleaseVersion (namespaceId : String)
  | lastInsertId

/-- The text of a number column. -/
def intCell (n : Int32) : String := n.toInt.repr

/-- The text of the `status` column. -/
def ConfigStatus.cell : ConfigStatus → String
  | .live => "live"
  | .draft => "draft"

/-- The text of the `change_type` and `operation` columns. -/
def ChangeType.cell : ChangeType → String
  | .create => "create"
  | .update => "update"
  | .rollback => "rollback"
  | .delete => "delete"

/-- Columns of a `configs` row as `SELECT` lists them, `mysql_config_store.cpp:424,446`. -/
def ConfigKey.cells (c : ConfigKey) : List String :=
  [c.namespaceId, c.key, c.value, intCell c.version, c.status.cell, c.createdAt, c.updatedAt]

/-- Columns of a `config_versions` row, `mysql_config_store.cpp:475,499`. -/
def ConfigVersion.cells (v : ConfigVersion) : List String :=
  [intCell v.version, v.configId, v.value, v.changeType.cell, v.operatorId, v.createdAt]

/-- Columns of a `change_logs` row, `mysql_config_store.cpp:526–527`. -/
def ChangeLogRow.cells (l : ChangeLogRow) : List String :=
  [l.id.repr, l.configId, l.namespaceId, l.key, intCell l.version, l.oldValue.getD "",
    l.newValue.getD "", l.operation.cell, l.operatorId, l.createdAt]

/-- Columns of a `releases` row, `mysql_config_store.cpp:588–589`. -/
def Release.cells (r : Release) : List String :=
  [r.id.repr, r.namespaceId, intCell r.releaseVersion, r.releaseNote, r.releaseType, r.status,
    (r.grayscalePercentage.map intCell).getD "", r.whitelist.getD "", r.operatorId, r.createdAt]

/-- `LIMIT … OFFSET …`; MySQL rejects negative numbers. -/
def limitOffset {ρ : Type} (limit offset : Int32) (rows : List ρ) : Option (List ρ) :=
  if limit.toInt < 0 ∨ offset.toInt < 0 then none
  else some ((rows.drop offset.toInt.toNat).take limit.toInt.toNat)

/-- The rows of a query as text; nothing when it fails. -/
def Query.rows (engine : Engine) (conn : Connection) : Query → Option (List (List String))
  | .versionAndValue namespaceId key => do
    let namespaceId ← literal namespaceId
    let key ← literal key
    return (engine.scan (conn.tables.configs.rows.filter (engine.atKey namespaceId key))).map
      fun c ↦ [intCell c.version, c.value]
  | .config namespaceId key => do
    let namespaceId ← literal namespaceId
    let key ← literal key
    return (engine.scan (conn.tables.configs.rows.filter (engine.atKey namespaceId key))).map
      ConfigKey.cells
  | .configs namespaceId status => do
    let namespaceId ← literal namespaceId
    return (engine.scan (conn.tables.configs.rows.filter fun c ↦
      engine.same c.namespaceId namespaceId && optionally status (fun s ↦ c.status = s))).map
        ConfigKey.cells
  | .configVersions configId => do
    let configId ← literal configId
    return (engine.orderBy ConfigVersion.version
      (conn.tables.configVersions.filter fun v ↦ engine.same v.configId configId)).map
        ConfigVersion.cells
  | .configVersion configId version => do
    let configId ← literal configId
    return (conn.tables.configVersions.filter fun v ↦
      engine.same v.configId configId && v.version = version).map ConfigVersion.cells
  | .changeLogs key namespaceId timeFrom timeTo limit offset => do
    let key ← key.mapM literal
    let namespaceId ← namespaceId.mapM literal
    let timeFrom ← timeFrom.mapM fun t ↦ (literal t).bind engine.datetime
    let timeTo ← timeTo.mapM fun t ↦ (literal t).bind engine.datetime
    let found := conn.tables.changeLogs.rows.filter fun l ↦
      optionally key (fun k ↦ engine.same l.key k) &&
      optionally namespaceId (fun n ↦ engine.same l.namespaceId n) &&
      optionally timeFrom (fun t ↦ t ≤ l.createdAt) &&
      optionally timeTo (fun t ↦ l.createdAt ≤ t)
    let page ← limitOffset limit offset (engine.orderBy ChangeLogRow.createdAt found)
    return page.map ChangeLogRow.cells
  | .releases namespaceId limit offset => do
    let namespaceId ← literal namespaceId
    let found := conn.tables.releases.rows.filter fun r ↦ engine.same r.namespaceId namespaceId
    let page ← limitOffset limit offset (engine.orderBy Release.createdAt found)
    return page.map Release.cells
  | .maxReleaseVersion namespaceId => do
    let namespaceId ← literal namespaceId
    let found := conn.tables.releases.rows.filter fun r ↦ engine.same r.namespaceId namespaceId
    return [[((found.map Release.releaseVersion).max?.map intCell).getD ""]]
  | .lastInsertId => return [[conn.lastInsertId.repr]]

/-! ### Sending statements -/

/-- A computation on a connection: it returns or throws, and in both cases leaves a
connection behind. -/
def MysqlM (α : Type) : Type := Connection → Except Thrown α × Connection

namespace MysqlM

variable {α β : Type}

/-- Sequencing stops at the first exception and keeps what was done before it. -/
instance : Monad MysqlM where
  pure a := fun conn ↦ (.ok a, conn)
  bind x f := fun conn ↦
    match x conn with
    | (.ok a, conn') => f a conn'
    | (.error e, conn') => (.error e, conn')

/-- A computation without a statement. -/
def ofExcept (x : Except Thrown α) : MysqlM α := fun conn ↦ (x, conn)

/-- `try { … } catch (...) { … }`. -/
def tryCatch (x : MysqlM α) (handler : MysqlM α) : MysqlM α := fun conn ↦
  match x conn with
  | (.ok a, conn') => (.ok a, conn')
  | (.error _, conn') => handler conn'

/-- A result leaves the connection alone. -/
@[simp] theorem pure_apply (a : α) (conn : Connection) :
    (pure a : MysqlM α) conn = (.ok a, conn) := rfl

/-- A sequence goes on where its first part has returned. -/
@[simp] theorem bind_apply (x : MysqlM α) (f : α → MysqlM β) (conn : Connection) :
    (x >>= f) conn =
      match x conn with
      | (.ok a, conn') => f a conn'
      | (.error e, conn') => (.error e, conn') := rfl

/-- A computation that returns hands its value and its connection on. -/
theorem bind_of_ok {x : MysqlM α} {a : α} {conn conn' : Connection} (h : x conn = (.ok a, conn'))
    (f : α → MysqlM β) : (x >>= f) conn = f a conn' := by
  rw [bind_apply, h]

/-- A mapped result of the same run. -/
@[simp] theorem map_apply (f : α → β) (x : MysqlM α) (conn : Connection) :
    (f <$> x) conn =
      match x conn with
      | (.ok a, conn') => (.ok (f a), conn')
      | (.error e, conn') => (.error e, conn') := rfl

/-- A result or exception leaves the connection alone. -/
@[simp] theorem ofExcept_apply (x : Except Thrown α) (conn : Connection) :
    ofExcept x conn = (x, conn) := rfl

/-- A handler runs on what the exception left. -/
@[simp] theorem tryCatch_apply (x : MysqlM α) (handler : MysqlM α) (conn : Connection) :
    tryCatch x handler conn =
      match x conn with
      | (.ok a, conn') => (.ok a, conn')
      | (.error _, conn') => handler conn' := rfl

end MysqlM

/-- The connection after a successful statement. -/
def Connection.after (conn : Connection) (s : Statement) (t : MysqlTables) : Connection :=
  { conn with
    tables := t, lastInsertId := (s.generatedId? conn.tables).getD conn.lastInsertId }

/-- The tables that a statement leaves. -/
@[simp] theorem tables_after (conn : Connection) (s : Statement) (t : MysqlTables) :
    (conn.after s t).tables = t := rfl

/-- `conn->execute(sql)`. -/
def execute (engine : Engine) (s : Statement) : MysqlM Bool := fun conn ↦
  match s.exec engine conn.tables with
  | none => (.ok false, conn)
  | some t => (.ok true, conn.after s t)

/-- `conn->query(sql, rows)`; the rows stay empty when it fails. -/
def query (engine : Engine) (q : Query) : MysqlM (List (List String)) := fun conn ↦
  (.ok ((q.rows engine conn).getD []), conn)

/-- `conn->beginTransaction()`. -/
def startTransaction : MysqlM Unit := fun conn ↦
  (.ok (), { conn with snapshot := some conn.tables })

/-- `conn->commit()`. -/
def commit : MysqlM Unit := fun conn ↦ (.ok (), { conn with snapshot := none })

/-- `conn->rollback()`: the tables are again those of the matching start, if there is one. -/
def rollback : MysqlM Unit := fun conn ↦
  (.ok (), { conn with tables := conn.snapshot.getD conn.tables, snapshot := none })

/-- A query that fails is answered without rows. -/
@[simp] theorem query_apply (engine : Engine) (q : Query) (conn : Connection) :
    query engine q conn = (.ok ((q.rows engine conn).getD []), conn) := rfl

/-- A transaction starts from the tables as they are. -/
@[simp] theorem startTransaction_apply (conn : Connection) :
    startTransaction conn = (.ok (), { conn with snapshot := some conn.tables }) := rfl

/-- A commit forgets where the transaction started. -/
@[simp] theorem commit_apply (conn : Connection) :
    commit conn = (.ok (), { conn with snapshot := none }) := rfl

/-- A statement that goes through leaves its tables behind. -/
theorem execute_of_some {engine : Engine} {s : Statement} {conn : Connection} {t : MysqlTables}
    (h : s.exec engine conn.tables = some t) :
    execute engine s conn = (.ok true, conn.after s t) := by
  simp [execute, h]

/-! ### Room in the columns -/

/-- The tables of a connection, and those its transaction started from, have room. -/
def Connection.Fits (conn : Connection) : Prop :=
  conn.tables.Fits ∧ ∀ t ∈ conn.snapshot, t.Fits

/-- A computation keeps texts within the room of their columns. -/
def MysqlM.KeepsFits {α : Type} (x : MysqlM α) : Prop := ∀ conn, conn.Fits → (x conn).2.Fits

namespace MysqlM

variable {α β : Type} (engine : Engine)

/-- Returning changes nothing. -/
theorem keeps_pure (a : α) : KeepsFits (pure a : MysqlM α) := fun _ h ↦ h

/-- Throwing changes nothing. -/
theorem keeps_ofExcept (x : Except Thrown α) : KeepsFits (ofExcept x) := fun _ h ↦ h

/-- A sequence keeps them if both parts do. -/
theorem keeps_bind {x : MysqlM α} {f : α → MysqlM β} (hx : KeepsFits x)
    (hf : ∀ a, KeepsFits (f a)) : KeepsFits (x >>= f) := by
  intro conn h
  have hconn := hx conn h
  rw [bind_apply]
  split
  · next a conn' hrun =>
    rw [hrun] at hconn
    exact hf a conn' hconn
  · next e conn' hrun =>
    rw [hrun] at hconn
    exact hconn

/-- So does a computation whose result is mapped. -/
theorem keeps_map {x : MysqlM α} (hx : KeepsFits x) (f : α → β) : KeepsFits (f <$> x) := by
  intro conn h
  have hconn := hx conn h
  rw [map_apply]
  split
  · next a conn' hrun =>
    rw [hrun] at hconn
    exact hconn
  · next e conn' hrun =>
    rw [hrun] at hconn
    exact hconn

/-- A handler runs on what the failing part left. -/
theorem keeps_tryCatch {x handler : MysqlM α} (hx : KeepsFits x) (hh : KeepsFits handler) :
    KeepsFits (tryCatch x handler) := by
  intro conn h
  have hconn := hx conn h
  rw [tryCatch_apply]
  split
  · next a conn' hrun =>
    rw [hrun] at hconn
    exact hconn
  · next e conn' hrun =>
    rw [hrun] at hconn
    exact hh conn' hconn

/-- A query changes nothing. -/
theorem keeps_query (q : Query) : KeepsFits (query engine q) := fun _ h ↦ h

/-- A statement keeps them or fails without effect. -/
theorem keeps_execute (s : Statement) : KeepsFits (execute engine s) := by
  intro conn h
  unfold execute
  split
  · exact h
  · next t hexec => exact ⟨fits_exec engine h.1 hexec, h.2⟩

/-- A statement, and what follows it. -/
theorem keeps_execute_bind {s : Statement} {f : Bool → MysqlM β} (hf : ∀ ok, KeepsFits (f ok)) :
    KeepsFits (execute engine s >>= f) :=
  keeps_bind (keeps_execute engine s) hf

/-- A query, and what follows it. -/
theorem keeps_query_bind {q : Query} {f : List (List String) → MysqlM β}
    (hf : ∀ rows, KeepsFits (f rows)) : KeepsFits (query engine q >>= f) :=
  keeps_bind (keeps_query engine q) hf

/-- The tables that a transaction starts from have room. -/
theorem keeps_startTransaction : KeepsFits startTransaction :=
  fun _ h ↦ ⟨h.1, fun _ ht ↦ Option.some.inj ht ▸ h.1⟩

/-- A commit keeps the tables. -/
theorem keeps_commit : KeepsFits commit := fun _ h ↦ ⟨h.1, fun _ ht ↦ by cases ht⟩

/-- A rollback restores tables that have room. -/
theorem keeps_rollback : KeepsFits rollback := by
  rintro ⟨tables, snapshot, lastInsertId⟩ h
  refine ⟨?_, fun _ ht ↦ by cases ht⟩
  cases snapshot with
  | none => exact h.1
  | some t => exact h.2 t rfl

end MysqlM

end ConfigCenter.Storage
