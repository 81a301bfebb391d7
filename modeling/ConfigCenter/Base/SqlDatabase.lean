import Mathlib.Algebra.Group.Int.Defs
import ConfigCenter.Base.SqlSyntax

/-!
# Tables with typed columns, keys and references

Library `Base`. What a SQL server does with an insertion and with a selection by key. A
schema lists the columns of a table; what a column keeps of a value and which values are
equal is left to `SqlRules`, so that lengths, dates and collations stay open. A database
carries its constraints: every row fits the columns of its table, refers to rows that are
there and has an id that was generated before. An insertion that would break one of them is
refused.
-/

namespace ConfigCenter.Base

/-- Types of columns. -/
inductive SqlType where
  | varchar (length : Nat)
  | text
  | int
  | bigint
  | boolean
  | datetime
  deriving DecidableEq, Repr

/-- Types of character strings. -/
def SqlType.isText : SqlType → Bool
  | .varchar _ | .text => true
  | _ => false

/-- Types of whole numbers. -/
def SqlType.isNumber : SqlType → Bool
  | .int | .bigint | .boolean => true
  | _ => false

/-- A column of the type keeps the value as it is, if it takes it. -/
def SqlType.isExact (type : SqlType) : SqlValue → Bool
  | .null => true
  | .text _ => type.isText
  | .number _ => type.isNumber

/-- The text that a client gets for a value. -/
def SqlValue.cell : SqlValue → String
  | .null => ""
  | .text cs => String.ofList cs
  | .number n => n.repr

/-- A signed number of so many bits. -/
def FitsBits (bits : Nat) (n : Int) : Prop := -2 ^ (bits - 1) ≤ n ∧ n < 2 ^ (bits - 1)

instance (bits : Nat) (n : Int) : Decidable (FitsBits bits n) :=
  inferInstanceAs (Decidable (_ ∧ _))

/-- What a server decides about values. -/
structure SqlRules where
  /-- What a column keeps of a value; nothing where it refuses it. -/
  keep : SqlType → SqlValue → Option SqlValue
  /-- Equality of two values in a condition and in a key. -/
  same : SqlValue → SqlValue → Bool
  keep_null : ∀ type, keep type .null = some .null
  keep_ne_null : ∀ {type : SqlType} {v w : SqlValue}, v ≠ .null → keep type v = some w →
    w ≠ .null
  keep_text : ∀ {type : SqlType} {cs : List Char} {v : SqlValue}, type.isText = true →
    keep type (.text cs) = some v → v = .text cs
  keep_kind : ∀ {type : SqlType} {v w : SqlValue}, type.isText = true → keep type v = some w →
    w = .null ∨ ∃ cs, w = .text cs
  keep_empty : ∀ {type : SqlType}, type.isText = true → (keep type (.text [])).isSome
  keep_number : ∀ {type : SqlType} {n : Int} {v : SqlValue}, type.isNumber = true →
    keep type (.number n) = some v → v = .number n
  keep_int : ∀ {n : Int}, FitsBits 32 n → (keep .int (.number n)).isSome
  keep_bigint : ∀ {n : Int}, (keep .bigint (.number n)).isSome ↔ FitsBits 64 n
  keep_boolean : (keep .boolean (.number 0)).isSome ∧ (keep .boolean (.number 1)).isSome
  keep_keep : ∀ {type : SqlType} {v w : SqlValue}, keep type v = some w → keep type w = some w
  same_self : ∀ {v : SqlValue}, v ≠ .null → same v v = true
  same_number : ∀ m n : Int, same (.number m) (.number n) = decide (m = n)

/-- A column that takes a value of its type holds just this value. -/
theorem SqlRules.keep_exact (rules : SqlRules) {type : SqlType} {v w : SqlValue}
    (htype : type.isExact v = true) (h : rules.keep type v = some w) : w = v := by
  cases v with
  | null =>
    rw [rules.keep_null] at h
    exact (Option.some.inj h).symm
  | text cs => exact rules.keep_text htype h
  | number n => exact rules.keep_number htype h

/-- A column; a column without a default has NULL. -/
structure SqlColumn where
  name : List Char
  type : SqlType
  nullable : Bool := false
  default : SqlValue := .null
  deriving DecidableEq, Repr

/-- A column whose values are keys of another table. -/
structure SqlReference where
  column : List Char
  table : List Char
  key : List Char
  deriving DecidableEq, Repr

/-- A table: its columns, its key, whether the server generates the key, and what it refers to. -/
structure SqlSchema where
  columns : List SqlColumn
  key : List Char
  generated : Bool := false
  reference : Option SqlReference := none
  /-- Generated keys are numbers of 64 bits. -/
  generated_key : generated = true →
    (columns.find? fun c ↦ decide (c.name = key)).map SqlColumn.type = some .bigint

/-- A value for every column of a table. -/
abbrev SqlRow := List Char → SqlValue

namespace SqlSchema

variable (rules : SqlRules) (schema : SqlSchema) (cells : List (List Char × SqlValue)) (id : Int)

/-- The column of a name. -/
def column? (name : List Char) : Option SqlColumn :=
  schema.columns.find? fun c ↦ decide (c.name = name)

/-- The value that an insertion means for a column. No statement names a generated key. -/
def given (c : SqlColumn) : SqlValue :=
  if schema.generated ∧ c.name = schema.key then .number id
  else (cells.lookup c.name).getD c.default

/-- What the column keeps of it; nothing where it refuses the value or must not be NULL. -/
def kept (c : SqlColumn) : Option SqlValue :=
  (rules.keep c.type (schema.given cells id c)).filter fun v ↦ c.nullable || v ≠ .null

/-- All columns take their values, and no other column is named. -/
def Takes : Prop :=
  (∀ cell ∈ cells, (schema.column? cell.1).isSome) ∧
    ∀ c ∈ schema.columns, (schema.kept rules cells id c).isSome

instance : Decidable (schema.Takes rules cells id) := inferInstanceAs (Decidable (_ ∧ _))

/-- The row that an insertion makes. -/
def row : SqlRow := fun name ↦
  ((schema.column? name).bind (schema.kept rules cells id)).getD .null

variable {rules schema cells id}

/-- A column takes a value that it keeps, unless this is NULL and must not be. -/
theorem isSome_kept {c : SqlColumn} {w : SqlValue}
    (h : rules.keep c.type (schema.given cells id c) = some w)
    (hnull : c.nullable = true ∨ w ≠ .null) : (schema.kept rules cells id c).isSome := by
  rw [kept, h, Option.filter_some, if_pos (by simpa using hnull)]
  rfl

/-- A row that the columns take holds what they keep. -/
theorem kept_row (h : schema.Takes rules cells id) {name : List Char} {c : SqlColumn}
    (hc : schema.column? name = some c) :
    schema.kept rules cells id c = some (schema.row rules cells id name) := by
  obtain ⟨v, hv⟩ := Option.isSome_iff_exists.mp (h.2 c (List.mem_of_find?_eq_some hc))
  rw [row, hc, Option.bind_some, hv, Option.getD_some]

/-- A row that is taken holds what the rules keep of each given value, and NULL only where it may.
-/
theorem keep_row (h : schema.Takes rules cells id) {name : List Char} {c : SqlColumn}
    (hc : schema.column? name = some c) :
    rules.keep c.type (schema.given cells id c) = some (schema.row rules cells id name) ∧
      (c.nullable = true ∨ schema.row rules cells id name ≠ .null) := by
  have hkept := kept_row h hc
  rw [kept, Option.filter_eq_some_iff] at hkept
  exact ⟨hkept.1, by simpa using hkept.2⟩

private theorem lookup_of_mem {name : List Char} {v : SqlValue}
    (hnodup : (cells.map Prod.fst).Nodup) (h : (name, v) ∈ cells) :
    cells.lookup name = some v := by
  induction cells with
  | nil => cases h
  | cons cell rest ih =>
    rw [List.map_cons, List.nodup_cons] at hnodup
    rcases List.mem_cons.mp h with rfl | hrest
    · exact List.lookup_cons_self
    · have hne : (name == cell.1) = false := by
        refine beq_false_of_ne ?_
        rintro rfl
        exact hnodup.1 (List.mem_map.mpr ⟨(cell.1, v), hrest, rfl⟩)
      rw [List.lookup_cons, hne, ih hnodup.2 hrest]

/-- An insertion means the value of its cell for a named column. -/
theorem given_of_mem (hnodup : (cells.map Prod.fst).Nodup) {name : List Char} {v : SqlValue}
    (hmem : (name, v) ∈ cells) {c : SqlColumn} (hc : schema.column? name = some c)
    (hkey : ¬ (schema.generated = true ∧ name = schema.key)) : schema.given cells id c = v := by
  have hname : c.name = name := by simpa using List.find?_some hc
  rw [given, hname, if_neg hkey, lookup_of_mem hnodup hmem, Option.getD_some]

/-- A generated key is the number that was generated. -/
theorem row_generated (h : schema.Takes rules cells id) (hgenerated : schema.generated = true) :
    schema.row rules cells id schema.key = .number id ∧ FitsBits 64 id := by
  obtain ⟨c, hc, htype⟩ := Option.map_eq_some_iff.mp (schema.generated_key hgenerated)
  have hname : c.name = schema.key := by simpa using List.find?_some hc
  have hgiven : schema.given cells id c = .number id := if_pos ⟨hgenerated, hname⟩
  have hkeep := (keep_row h hc).1
  rw [hgiven, htype] at hkeep
  refine ⟨rules.keep_number rfl hkeep, ?_⟩
  rw [← rules.keep_bigint, hkeep]
  rfl

end SqlSchema

/-- The tables of a server with what it remembers about generated keys. -/
structure SqlDatabase (rules : SqlRules) (schemas : List Char → Option SqlSchema) where
  rows : List Char → List SqlRow
  /-- The next key of a table. -/
  nextId : List Char → Int
  /-- The last key that a connection had generated. -/
  lastId : Nat → Int
  typed : ∀ {table : List Char} {schema : SqlSchema}, schemas table = some schema →
    ∀ row ∈ rows table, ∀ {name : List Char} {c : SqlColumn}, schema.column? name = some c →
      rules.keep c.type (row name) = some (row name) ∧ (c.nullable = true ∨ row name ≠ .null)
  referenced : ∀ {table : List Char} {schema : SqlSchema}, schemas table = some schema →
    ∀ row ∈ rows table, ∀ ref ∈ schema.reference,
      ∃ parent ∈ rows ref.table, rules.same (parent ref.key) (row ref.column) = true
  numbered : ∀ {table : List Char} {schema : SqlSchema}, schemas table = some schema →
    schema.generated = true → ∀ row ∈ rows table, ∃ n < nextId table, row schema.key = .number n
  lastId_fits : ∀ conn, FitsBits 64 (lastId conn)

namespace SqlDatabase

variable {rules : SqlRules} {schemas : List Char → Option SqlSchema}

/-- Tables without rows. -/
def empty (rules : SqlRules) (schemas : List Char → Option SqlSchema) :
    SqlDatabase rules schemas where
  rows _ := []
  nextId _ := 1
  lastId _ := 0
  typed _ _ h := by cases h
  referenced _ _ h := by cases h
  numbered _ _ _ h := by cases h
  lastId_fits _ := by decide

variable (db : SqlDatabase rules schemas) (schema : SqlSchema) (i : SqlInsertion)

/-- The row that an insertion makes of its values. -/
def newRow : SqlRow := schema.row rules i.cells (db.nextId i.table)

/-- The rows that a row refers to are there. -/
def Refers (row : SqlRow) : Prop :=
  ∀ ref ∈ schema.reference,
    ∃ parent ∈ db.rows ref.table, rules.same (parent ref.key) (row ref.column) = true

/-- No row of the table has the key. -/
def KeyFree (table : List Char) (row : SqlRow) : Prop :=
  ∀ other ∈ db.rows table, rules.same (other schema.key) (row schema.key) = false

/-- An insertion breaks no constraint. -/
def Accepts : Prop :=
  schema.Takes rules i.cells (db.nextId i.table) ∧ db.Refers schema (db.newRow schema i) ∧
    db.KeyFree schema i.table (db.newRow schema i)

instance : Decidable (db.Accepts schema i) :=
  inferInstanceAs (Decidable (_ ∧ (∀ ref ∈ schema.reference, _) ∧ (∀ other ∈ _, _)))

/-- The rows of a table after an insertion. -/
def addRow (table : List Char) : List SqlRow :=
  if table = i.table then db.rows table ++ [db.newRow schema i] else db.rows table

variable {db schema i}

/-- An insertion keeps the rows of every table. -/
theorem mem_addRow_of_mem {table : List Char} {row : SqlRow} (h : row ∈ db.rows table) :
    row ∈ db.addRow schema i table := by
  unfold addRow
  split
  · exact List.mem_append_left _ h
  · exact h

private theorem mem_addRow {table : List Char} {row : SqlRow}
    (h : row ∈ db.addRow schema i table) :
    row ∈ db.rows table ∨ table = i.table ∧ row = db.newRow schema i := by
  unfold addRow at h
  split at h
  · next htable =>
    rw [List.mem_append, List.mem_singleton] at h
    exact h.imp_right fun hrow ↦ ⟨htable, hrow⟩
  · exact .inl h

/-- The database after an insertion that was accepted. -/
def inserted (db : SqlDatabase rules schemas) (conn : Nat) {i : SqlInsertion} {schema : SqlSchema}
    (hs : schemas i.table = some schema) (h : db.Accepts schema i) :
    SqlDatabase rules schemas where
  rows := db.addRow schema i
  nextId table :=
    if schema.generated ∧ table = i.table then db.nextId table + 1 else db.nextId table
  lastId other :=
    if schema.generated ∧ other = conn then db.nextId i.table else db.lastId other
  typed := by
    intro table schema' hs' row hrow name c hc
    rcases mem_addRow hrow with hrow | ⟨rfl, rfl⟩
    · exact db.typed hs' row hrow hc
    · obtain rfl : schema = schema' := Option.some.inj (hs.symm.trans hs')
      obtain ⟨hkeep, hnull⟩ := SqlSchema.keep_row h.1 hc
      exact ⟨rules.keep_keep hkeep, hnull⟩
  referenced := by
    intro table schema' hs' row hrow ref href
    rcases mem_addRow hrow with hrow | ⟨rfl, rfl⟩
    · obtain ⟨parent, hparent, hsame⟩ := db.referenced hs' row hrow ref href
      exact ⟨parent, mem_addRow_of_mem hparent, hsame⟩
    · obtain rfl : schema = schema' := Option.some.inj (hs.symm.trans hs')
      obtain ⟨parent, hparent, hsame⟩ := h.2.1 ref href
      exact ⟨parent, mem_addRow_of_mem hparent, hsame⟩
  numbered := by
    intro table schema' hs' hgenerated row hrow
    rcases mem_addRow hrow with hrow | ⟨rfl, rfl⟩
    · obtain ⟨n, hn, hkey⟩ := db.numbered hs' hgenerated row hrow
      refine ⟨n, ?_, hkey⟩
      split
      · omega
      · exact hn
    · obtain rfl : schema = schema' := Option.some.inj (hs.symm.trans hs')
      refine ⟨db.nextId i.table, ?_, (SqlSchema.row_generated h.1 hgenerated).1⟩
      rw [if_pos ⟨hgenerated, rfl⟩]
      omega
  lastId_fits := by
    intro other
    split
    · next hgenerated => exact (SqlSchema.row_generated h.1 hgenerated.1).2
    · exact db.lastId_fits other

/-- What an insertion answers and leaves. A server may use up generated keys as it likes. -/
structure Executes (db : SqlDatabase rules schemas) (conn : Nat) (schema : SqlSchema)
    (i : SqlInsertion) (ok : Bool) (db' : SqlDatabase rules schemas) : Prop where
  answer : ok = true ↔ db.Accepts schema i
  accepted : db.Accepts schema i → db'.rows = db.addRow schema i
  lastId : db.Accepts schema i → schema.generated = true → db'.lastId conn = db.nextId i.table
  refused : ¬ db.Accepts schema i → db'.rows = db.rows ∧ db'.lastId conn = db.lastId conn

/-- Insert a row, or refuse to. -/
def insert (db : SqlDatabase rules schemas) (conn : Nat) {i : SqlInsertion} {schema : SqlSchema}
    (hs : schemas i.table = some schema) : Bool × SqlDatabase rules schemas :=
  if h : db.Accepts schema i then (true, db.inserted conn hs h) else (false, db)

/-- `insert` answers and changes the tables as the statement says. -/
theorem executes_insert (db : SqlDatabase rules schemas) (conn : Nat)
    (hs : schemas i.table = some schema) :
    db.Executes conn schema i (db.insert conn hs).1 (db.insert conn hs).2 := by
  by_cases h : db.Accepts schema i
  · rw [insert, dif_pos h]
    exact {
      answer := iff_of_true rfl h
      accepted := fun _ ↦ rfl
      lastId := fun _ hgenerated ↦ if_pos ⟨hgenerated, rfl⟩
      refused := fun hnot ↦ absurd h hnot }
  · rw [insert, dif_neg h]
    exact {
      answer := iff_of_false Bool.false_ne_true h
      accepted := fun hacc ↦ absurd hacc h
      lastId := fun hacc ↦ absurd hacc h
      refused := fun _ ↦ ⟨rfl, rfl⟩ }

/-- The cells of the rows with a key. -/
def select (db : SqlDatabase rules schemas) (q : SqlSelection) : List (List String) :=
  ((db.rows q.table).filter fun row ↦ rules.same (row q.key) q.value).map fun row ↦
    q.columns.map fun name ↦ (row name).cell

/-- What is selected depends on the rows alone. -/
theorem select_congr {db' : SqlDatabase rules schemas} (h : db'.rows = db.rows) (q : SqlSelection) :
    db'.select q = db.select q := by
  rw [select, select, h]

/-- What is selected stands in a row of the table. -/
theorem exists_row_of_select {q : SqlSelection} {cells : List String} {rest : List (List String)}
    (h : db.select q = cells :: rest) :
    ∃ row ∈ db.rows q.table, cells = q.columns.map fun name ↦ (row name).cell := by
  have hmem : cells ∈ db.select q := by
    rw [h]
    exact List.mem_cons_self
  obtain ⟨row, hrow, rfl⟩ := List.mem_map.mp hmem
  exact ⟨row, (List.mem_filter.mp hrow).1, rfl⟩

/-- An insertion leaves the rows of other tables alone, accepted or not. -/
theorem Executes.rows_other {conn : Nat} {ok : Bool} {db' : SqlDatabase rules schemas}
    (h : db.Executes conn schema i ok db') {table : List Char} (htable : table ≠ i.table) :
    db'.rows table = db.rows table := by
  by_cases haccepts : db.Accepts schema i
  · rw [h.accepted haccepts, addRow, if_neg htable]
  · rw [(h.refused haccepts).1]

/-- A row that was inserted is selected by its key, and no other one. -/
theorem select_of_executes {conn : Nat} {db' : SqlDatabase rules schemas}
    (hexec : db.Executes conn schema i true db') {k : SqlValue}
    (hkey : db.newRow schema i schema.key = k) (hnull : k ≠ .null) (columns : List (List Char)) :
    db'.select ⟨columns, i.table, schema.key, k⟩ =
      [columns.map fun name ↦ (db.newRow schema i name).cell] := by
  have haccepts := hexec.answer.mp rfl
  have hothers : (db.rows i.table).filter (fun row ↦ rules.same (row schema.key) k) = [] := by
    rw [List.filter_eq_nil_iff, ← hkey]
    intro other hother
    rw [haccepts.2.2 other hother]
    exact Bool.false_ne_true
  rw [select]
  simp only [hexec.accepted haccepts, addRow, if_true, List.filter_append, hothers,
    List.filter_singleton, hkey, rules.same_self hnull, cond_true, List.nil_append,
    List.map_singleton]

/-- A key that the server generates is free. -/
theorem keyFree_generated (hs : schemas i.table = some schema)
    (hgenerated : schema.generated = true) (h : schema.Takes rules i.cells (db.nextId i.table)) :
    db.KeyFree schema i.table (db.newRow schema i) := by
  intro other hother
  obtain ⟨n, hn, hkey⟩ := db.numbered hs hgenerated other hother
  rw [hkey, newRow, (SqlSchema.row_generated h hgenerated).1, rules.same_number]
  exact decide_eq_false (Int.ne_of_lt hn)

end SqlDatabase

end ConfigCenter.Base
