import ConfigCenter.Base.SqlDatabase
import ConfigCenter.Storage.SqlStatements

/-!
# Records in statements and tables

Library `Storage`. The tables of `autoMigrate` that hold applications, namespaces and
releases, and what a server reads from the statements that insert such a record or look one
up: every column with the value of its field, whatever its strings are, and every column of
the row with a key. A row that the server takes holds these values, its date aside.
-/

namespace ConfigCenter.Storage
open ConfigCenter.Base

/-! ### Tables -/

/-- `applications`, `mysql_config_store.cpp:94–99`. -/
def applicationsSchema : SqlSchema where
  columns := [
    { name := "app_id".toList, type := .varchar 255 },
    { name := "name".toList, type := .varchar 255 },
    { name := "description".toList, type := .text, nullable := true },
    { name := "created_at".toList, type := .datetime }]
  key := "app_id".toList
  generated_key := by decide

/-- `namespaces`, `mysql_config_store.cpp:103–114`. -/
def namespacesSchema : SqlSchema where
  columns := [
    { name := "id".toList, type := .varchar 255 },
    { name := "app_id".toList, type := .varchar 255 },
    { name := "env".toList, type := .varchar 50 },
    { name := "cluster".toList, type := .varchar 100, default := .text "default".toList },
    { name := "name".toList, type := .varchar 255 },
    { name := "type".toList, type := .varchar 50 },
    { name := "parent_namespace_id".toList, type := .varchar 255, nullable := true },
    { name := "approval_enabled".toList, type := .boolean, nullable := true,
      default := .number 0 },
    { name := "created_at".toList, type := .datetime }]
  key := "id".toList
  reference := some
    { column := "app_id".toList, table := "applications".toList, key := "app_id".toList }
  generated_key := by decide

/-- `releases`, `mysql_config_store.cpp:158–171`. -/
def releasesSchema : SqlSchema where
  columns := [
    { name := "id".toList, type := .bigint },
    { name := "namespace_id".toList, type := .varchar 255 },
    { name := "release_version".toList, type := .int },
    { name := "release_note".toList, type := .text, nullable := true },
    { name := "release_type".toList, type := .varchar 50, default := .text "full".toList },
    { name := "status".toList, type := .varchar 50, default := .text "active".toList },
    { name := "grayscale_percentage".toList, type := .int, nullable := true },
    { name := "whitelist".toList, type := .text, nullable := true },
    { name := "operator_id".toList, type := .varchar 255 },
    { name := "created_at".toList, type := .datetime }]
  key := "id".toList
  generated := true
  reference := some
    { column := "namespace_id".toList, table := "namespaces".toList, key := "id".toList }
  generated_key := by decide

/-- The tables of records. -/
inductive RecordTable where
  | applications
  | namespaces
  | releases
  deriving DecidableEq, Repr

/-- The name of a table of records. -/
def RecordTable.name : RecordTable → String
  | .applications => "applications"
  | .namespaces => "namespaces"
  | .releases => "releases"

/-- Its columns. -/
def RecordTable.schema : RecordTable → SqlSchema
  | .applications => applicationsSchema
  | .namespaces => namespacesSchema
  | .releases => releasesSchema

/-- The schemas of these tables by name. -/
def recordSchemas (name : List Char) : Option SqlSchema :=
  if name = "applications".toList then some applicationsSchema
  else if name = "namespaces".toList then some namespacesSchema
  else if name = "releases".toList then some releasesSchema
  else none

/-- A record table is found under its name. -/
theorem recordSchemas_name (t : RecordTable) : recordSchemas t.name.toList = some t.schema := by
  unfold recordSchemas
  cases t with
  | applications => exact if_pos rfl
  | namespaces =>
    have hfirst : "namespaces".toList ≠ "applications".toList := by decide
    exact (if_neg hfirst).trans (if_pos rfl)
  | releases =>
    have hfirst : "releases".toList ≠ "applications".toList := by decide
    have hsecond : "releases".toList ≠ "namespaces".toList := by decide
    exact (if_neg hfirst).trans ((if_neg hsecond).trans (if_pos rfl))

/-- No record is looked up by its time. -/
theorem key_ne_date (t : RecordTable) : t.schema.key ≠ "created_at".toList := by
  cases t with
  | applications => exact (by decide : "app_id".toList ≠ "created_at".toList)
  | namespaces => exact (by decide : "id".toList ≠ "created_at".toList)
  | releases => exact (by decide : "id".toList ≠ "created_at".toList)

private theorem isName_table (t : RecordTable) :
    IsName t.name.toList ∧ IsName t.schema.key ∧
      ∀ name ∈ t.schema.columns.map SqlColumn.name, IsName name := by
  cases t with
  | applications =>
    exact (by decide : IsName "applications".toList ∧ IsName applicationsSchema.key ∧
      ∀ name ∈ applicationsSchema.columns.map SqlColumn.name, IsName name)
  | namespaces =>
    exact (by decide : IsName "namespaces".toList ∧ IsName namespacesSchema.key ∧
      ∀ name ∈ namespacesSchema.columns.map SqlColumn.name, IsName name)
  | releases =>
    exact (by decide : IsName "releases".toList ∧ IsName releasesSchema.key ∧
      ∀ name ∈ releasesSchema.columns.map SqlColumn.name, IsName name)

/-! ### Statements -/

/-- A quoted text that went through `escape` denotes this text. -/
theorem denotes_escape (value : String) :
    (SqlExpr.quoted (escape value).toList).Denotes (.text value.toList) := by
  refine .quoted ?_
  rw [escape, String.toList_ofList, readLiteral_flatMap_escapeChar]

private theorem denotes_number (n : Int) :
    (SqlExpr.word (toString n).toList).Denotes (.number n) := by
  refine SqlExpr.denotes_decimal (fun c hc ↦ mem_toString_int hc) ?_
  rw [String.ofList_toList, Int.toString_eq_repr, parseInteger_repr]

/-- `'` + `escape(value)` + `'`. -/
def textCell (name : String) (hname : IsName name.toList) (value : String) : SqlCell where
  name := name.toList
  expr := .quoted (escape value).toList
  value := .text value.toList
  isName := hname
  denotes := denotes_escape value

/-- NULL for an optional field without a value. -/
def nullCell (name : String) (hname : IsName name.toList) : SqlCell where
  name := name.toList
  expr := .word "NULL".toList
  value := .null
  isName := hname
  denotes := SqlExpr.denotes_word (by decide) (by decide)

/-- `value ? "'" + escape(*value) + "'" : "NULL"`. -/
def optionalTextCell (name : String) (hname : IsName name.toList) : Option String → SqlCell
  | some value => textCell name hname value
  | none => nullCell name hname

/-- `std::to_string(n)`. -/
def numberCell (name : String) (hname : IsName name.toList) (n : Int32) : SqlCell where
  name := name.toList
  expr := .word (toString n.toInt).toList
  value := .number n.toInt
  isName := hname
  denotes := denotes_number n.toInt

/-- `n ? std::to_string(*n) : "NULL"`. -/
def optionalNumberCell (name : String) (hname : IsName name.toList) : Option Int32 → SqlCell
  | some n => numberCell name hname n
  | none => nullCell name hname

/-- `flag ? (*flag ? "TRUE" : "FALSE") : "FALSE"`. -/
def flagCell (name : String) (hname : IsName name.toList) : Option Bool → SqlCell
  | some true =>
    { name := name.toList, expr := .word "TRUE".toList, value := .number 1, isName := hname
      denotes := SqlExpr.denotes_word (by decide) (by decide) }
  | some false | none =>
    { name := name.toList, expr := .word "FALSE".toList, value := .number 0, isName := hname
      denotes := SqlExpr.denotes_word (by decide) (by decide) }

/-- A clock reading between quotes. -/
def clockCell (name : String) (hname : IsName name.toList) (ts : ClockReading) : SqlCell where
  name := name.toList
  expr := .quoted ts.text.toList
  value := .text ts.text.toList
  isName := hname
  denotes := .quoted (readLiteral_plain ts.plain)

/-- Cells of the insertion of `createApplication`, `mysql_config_store.cpp:211–214`. -/
def applicationCells (app : Application) : List SqlCell :=
  [textCell "app_id" (by decide) app.appId, textCell "name" (by decide) app.name,
    optionalTextCell "description" (by decide) app.description,
    textCell "created_at" (by decide) app.createdAt]

/-- Cells of the insertion of `createNamespace`, `mysql_config_store.cpp:265–271`. -/
def namespaceCells (ns : Namespace) : List SqlCell :=
  [textCell "id" (by decide) ns.id, textCell "app_id" (by decide) ns.appId,
    textCell "env" (by decide) ns.env, textCell "cluster" (by decide) ns.cluster,
    textCell "name" (by decide) ns.name, textCell "type" (by decide) ns.type,
    optionalTextCell "parent_namespace_id" (by decide) ns.parentNamespaceId,
    flagCell "approval_enabled" (by decide) ns.approvalEnabled,
    textCell "created_at" (by decide) ns.createdAt]

/-- Cells of the insertion of `createRelease`, `mysql_config_store.cpp:565–572`. -/
def releaseCells (release : Release) (ts : ClockReading) : List SqlCell :=
  [textCell "namespace_id" (by decide) release.namespaceId,
    numberCell "release_version" (by decide) release.releaseVersion,
    textCell "release_note" (by decide) release.releaseNote,
    textCell "release_type" (by decide) release.releaseType,
    textCell "status" (by decide) release.status,
    optionalNumberCell "grayscale_percentage" (by decide) release.grayscalePercentage,
    optionalTextCell "whitelist" (by decide) release.whitelist,
    textCell "operator_id" (by decide) release.operatorId,
    clockCell "created_at" (by decide) ts]

/-- A record that the store is asked to create. -/
inductive Record where
  | application (app : Application)
  | namespaceRow (ns : Namespace)
  | release (rel : Release) (ts : ClockReading)

namespace Record

/-- The table of a record. -/
def table : Record → RecordTable
  | .application _ => .applications
  | .namespaceRow _ => .namespaces
  | .release _ _ => .releases

/-- The cells of its insertion. -/
def cells : Record → List SqlCell
  | .application app => applicationCells app
  | .namespaceRow ns => namespaceCells ns
  | .release rel ts => releaseCells rel ts

/-- The statement that inserts it. -/
def insertion : Record → SqlStatement
  | .application app => .insertApplication app.appId app.name app.description app.createdAt
  | .namespaceRow ns => .insertNamespace ns.id ns.appId ns.env ns.cluster ns.name ns.type
    ns.parentNamespaceId ns.approvalEnabled ns.createdAt
  | .release rel ts => .insertRelease rel.namespaceId rel.releaseNote rel.releaseType rel.status
    rel.whitelist rel.operatorId rel.releaseVersion rel.grayscalePercentage ts

end Record

-- a string literal is `String.ofList` of its characters; spelled out, both sides of an equation
-- between texts are compared character by character
private theorem chars_fixed (cs : List Char) : Operand.chars (.fixed (String.ofList cs)) = cs := by
  rw [Operand.chars, String.toList_ofList]

private theorem text_insertion (r : Record) :
    r.insertion.text =
      insertionText r.table.name.toList (r.cells.map SqlCell.name) (r.cells.map SqlCell.expr) := by
  unfold insertionText
  cases r
  -- one text for each way to choose the optional fields
  case' application app => rcases app with ⟨_, _, _ | description, _⟩
  case' namespaceRow ns =>
    rcases ns with ⟨_, _, _, _, _, _, _ | parent, _ | _ | _, _⟩
  case' release rel _ =>
    rcases rel with ⟨_, _, _, _, _, _, _ | percentage, _ | whitelist, _, _⟩
  all_goals
    simp only [Record.insertion, Record.table, RecordTable.name, Record.cells, applicationCells,
      namespaceCells, releaseCells, SqlStatement.text, SqlStatement.operands, nullable,
      optionalTextCell, textCell, nullCell, flagCell, optionalNumberCell, numberCell, clockCell,
      commaJoin, SqlExpr.text, List.map_cons, List.map_nil, List.intercalate_cons_cons,
      List.intercalate_singleton, List.cons_append, List.nil_append, List.flatMap_cons,
      List.flatMap_nil, List.append_assoc]
    repeat rw [chars_fixed]
    repeat rw [String.toList_ofList]
    simp only [List.cons_append, List.nil_append, Operand.chars]
    rfl

/-- A server reads the insertion of a record with the names and values of its cells. -/
theorem readInsertion_insertion (r : Record) :
    readInsertion r.insertion.text = some (insertionOf r.table.name.toList r.cells) := by
  have hne : r.cells ≠ [] := by
    cases r with
    | application app => exact List.cons_ne_nil _ _
    | namespaceRow ns => exact List.cons_ne_nil _ _
    | release rel ts => exact List.cons_ne_nil _ _
  rw [text_insertion, readInsertion_cells (isName_table r.table).1 hne]

/-! ### Rows -/

private theorem optionalTextCell_name (name : String) (hname : IsName name.toList)
    (value : Option String) : (optionalTextCell name hname value).name = name.toList := by
  cases value <;> rfl

private theorem optionalNumberCell_name (name : String) (hname : IsName name.toList)
    (n : Option Int32) : (optionalNumberCell name hname n).name = name.toList := by
  cases n <;> rfl

private theorem flagCell_name (name : String) (hname : IsName name.toList)
    (flag : Option Bool) : (flagCell name hname flag).name = name.toList := by
  rcases flag with _ | _ | _ <;> rfl

private theorem nodup_names (r : Record) : (r.cells.map SqlCell.name).Nodup := by
  cases r with
  | application app =>
    simp only [Record.cells, applicationCells, List.map_cons, List.map_nil, textCell,
      optionalTextCell_name]
    decide
  | namespaceRow ns =>
    simp only [Record.cells, namespaceCells, List.map_cons, List.map_nil, textCell,
      optionalTextCell_name, flagCell_name]
    decide
  | release rel ts =>
    simp only [Record.cells, releaseCells, List.map_cons, List.map_nil, textCell, numberCell,
      clockCell, optionalTextCell_name, optionalNumberCell_name]
    decide

-- The cell belongs to a column that keeps values of its kind, and not to a generated key.
private def Exact (schema : SqlSchema) (cell : SqlCell) : Prop :=
  ∃ c : SqlColumn, schema.column? cell.name = some c ∧
    ¬ (schema.generated = true ∧ cell.name = schema.key) ∧ c.type.isExact cell.value = true

private theorem exact_of_name {schema : SqlSchema} {cell : SqlCell} {name : String}
    {c : SqlColumn} (hname : cell.name = name.toList)
    (hc : schema.column? name.toList = some c)
    (hkey : ¬ (schema.generated = true ∧ name.toList = schema.key))
    (htype : c.type.isExact cell.value = true) : Exact schema cell :=
  ⟨c, by rw [hname, hc], by rwa [hname], htype⟩

private theorem isExact_optionalText {type : SqlType} (h : type.isText = true) (name : String)
    (hname : IsName name.toList) (value : Option String) :
    type.isExact (optionalTextCell name hname value).value = true := by
  cases value with
  | none => rfl
  | some value => exact h

private theorem isExact_optionalNumber {type : SqlType} (h : type.isNumber = true) (name : String)
    (hname : IsName name.toList) (n : Option Int32) :
    type.isExact (optionalNumberCell name hname n).value = true := by
  cases n with
  | none => rfl
  | some n => exact h

private theorem isExact_flag {type : SqlType} (h : type.isNumber = true) (name : String)
    (hname : IsName name.toList) (flag : Option Bool) :
    type.isExact (flagCell name hname flag).value = true := by
  rcases flag with _ | _ | _ <;> exact h

private theorem exact_application {app : Application} {cell : SqlCell}
    (hcell : cell ∈ applicationCells app) (hdate : cell.name ≠ "created_at".toList) :
    Exact applicationsSchema cell := by
  simp only [applicationCells, List.mem_cons, List.not_mem_nil, or_false] at hcell
  rcases hcell with rfl | rfl | rfl | rfl
  · exact exact_of_name rfl rfl (by decide) rfl
  · exact exact_of_name rfl rfl (by decide) rfl
  · exact exact_of_name (optionalTextCell_name _ _ _) rfl (by decide)
      (isExact_optionalText rfl _ _ _)
  · exact absurd rfl hdate

private theorem exact_namespace {ns : Namespace} {cell : SqlCell} (hcell : cell ∈ namespaceCells ns)
    (hdate : cell.name ≠ "created_at".toList) : Exact namespacesSchema cell := by
  simp only [namespaceCells, List.mem_cons, List.not_mem_nil, or_false] at hcell
  rcases hcell with rfl | rfl | rfl | rfl | rfl | rfl | rfl | rfl | rfl
  · exact exact_of_name rfl rfl (by decide) rfl
  · exact exact_of_name rfl rfl (by decide) rfl
  · exact exact_of_name rfl rfl (by decide) rfl
  · exact exact_of_name rfl rfl (by decide) rfl
  · exact exact_of_name rfl rfl (by decide) rfl
  · exact exact_of_name rfl rfl (by decide) rfl
  · exact exact_of_name (optionalTextCell_name _ _ _) rfl (by decide)
      (isExact_optionalText rfl _ _ _)
  · exact exact_of_name (flagCell_name _ _ _) rfl (by decide) (isExact_flag rfl _ _ _)
  · exact absurd rfl hdate

private theorem exact_release {rel : Release} {ts : ClockReading} {cell : SqlCell}
    (hcell : cell ∈ releaseCells rel ts) (hdate : cell.name ≠ "created_at".toList) :
    Exact releasesSchema cell := by
  simp only [releaseCells, List.mem_cons, List.not_mem_nil, or_false] at hcell
  rcases hcell with rfl | rfl | rfl | rfl | rfl | rfl | rfl | rfl | rfl
  · exact exact_of_name rfl rfl (by decide) rfl
  · exact exact_of_name rfl rfl (by decide) rfl
  · exact exact_of_name rfl rfl (by decide) rfl
  · exact exact_of_name rfl rfl (by decide) rfl
  · exact exact_of_name rfl rfl (by decide) rfl
  · exact exact_of_name (optionalNumberCell_name _ _ _) rfl (by decide)
      (isExact_optionalNumber rfl _ _ _)
  · exact exact_of_name (optionalTextCell_name _ _ _) rfl (by decide)
      (isExact_optionalText rfl _ _ _)
  · exact exact_of_name rfl rfl (by decide) rfl
  · exact absurd rfl hdate

private theorem exact_cell {r : Record} {cell : SqlCell} (hcell : cell ∈ r.cells)
    (hdate : cell.name ≠ "created_at".toList) : Exact r.table.schema cell := by
  cases r with
  | application app => exact exact_application hcell hdate
  | namespaceRow ns => exact exact_namespace hcell hdate
  | release rel ts => exact exact_release hcell hdate

/-- The row holds the values of the cells, the date aside. -/
def HoldsCells (row : SqlRow) (cells : List SqlCell) : Prop :=
  ∀ cell ∈ cells, cell.name ≠ "created_at".toList → row cell.name = cell.value

private theorem given_cell {r : Record} {cell : SqlCell} (hcell : cell ∈ r.cells) {c : SqlColumn}
    (hc : r.table.schema.column? cell.name = some c)
    (hkey : ¬ (r.table.schema.generated = true ∧ cell.name = r.table.schema.key)) (id : Int) :
    r.table.schema.given (insertionOf r.table.name.toList r.cells).cells id c = cell.value := by
  have hnodup : ((insertionOf r.table.name.toList r.cells).cells.map Prod.fst).Nodup := by
    rw [insertionOf, List.map_map]
    exact nodup_names r
  exact SqlSchema.given_of_mem hnodup (List.mem_map.mpr ⟨cell, hcell, rfl⟩) hc hkey

/-- A row that the server takes holds the values of its record. -/
theorem holdsCells_row {rules : SqlRules} {r : Record} {id : Int}
    (h : r.table.schema.Takes rules (insertionOf r.table.name.toList r.cells).cells id) :
    HoldsCells (r.table.schema.row rules (insertionOf r.table.name.toList r.cells).cells id)
      r.cells := by
  intro cell hcell hdate
  obtain ⟨c, hc, hkey, htype⟩ := exact_cell hcell hdate
  have hkeep := (SqlSchema.keep_row h hc).1
  rw [given_cell hcell hc hkey] at hkeep
  exact rules.keep_exact htype hkeep

/-! ### Lookups -/

/-- All columns of the rows with a key. -/
def selectionOf (t : RecordTable) (value : SqlValue) : SqlSelection :=
  ⟨t.schema.columns.map SqlColumn.name, t.name.toList, t.schema.key, value⟩

/-- A key that the store is asked for. -/
inductive RecordKey where
  | application (appId : String)
  | namespaceRow (nsId : String)
  | release (releaseId : Int)

namespace RecordKey

/-- The table that a key belongs to. -/
def table : RecordKey → RecordTable
  | .application _ => .applications
  | .namespaceRow _ => .namespaces
  | .release _ => .releases

/-- The key as the statement spells it. -/
def expr : RecordKey → SqlExpr
  | .application appId => .quoted (escape appId).toList
  | .namespaceRow nsId => .quoted (escape nsId).toList
  | .release releaseId => .word (toString releaseId).toList

/-- The value that this spelling denotes. -/
def value : RecordKey → SqlValue
  | .application appId => .text appId.toList
  | .namespaceRow nsId => .text nsId.toList
  | .release releaseId => .number releaseId

/-- The statement that looks it up, `mysql_config_store.cpp:222–223,279–281,619–621`. -/
def lookup : RecordKey → SqlStatement
  | .application appId => .selectApplication appId
  | .namespaceRow nsId => .selectNamespace nsId
  | .release releaseId => .selectRelease releaseId

end RecordKey

private theorem text_lookup (k : RecordKey) :
    k.lookup.text = selectionText (k.table.schema.columns.map SqlColumn.name) k.table.name.toList
      k.table.schema.key k.expr := by
  unfold selectionText
  cases k
  all_goals
    simp only [RecordKey.lookup, RecordKey.table, RecordTable.schema, RecordTable.name,
      RecordKey.expr, applicationsSchema, namespacesSchema, releasesSchema, SqlStatement.text,
      SqlStatement.operands, commaJoin, SqlExpr.text, List.map_cons, List.map_nil,
      List.intercalate_cons_cons, List.intercalate_singleton, List.flatMap_cons,
      List.flatMap_nil, List.append_assoc, List.append_nil]
    repeat rw [chars_fixed]
    repeat rw [String.toList_ofList]
    simp only [List.cons_append, List.nil_append, Operand.chars]
  · rfl
  · rfl

/-- A server reads a lookup with all columns of the table and the key. -/
theorem readSelection_lookup (k : RecordKey) :
    readSelection k.lookup.text = some (selectionOf k.table k.value) := by
  have hne : k.table.schema.columns.map SqlColumn.name ≠ [] := by
    cases k with
    | application appId => exact List.cons_ne_nil _ _
    | namespaceRow nsId => exact List.cons_ne_nil _ _
    | release releaseId => exact List.cons_ne_nil _ _
  have hdenotes : k.expr.Denotes k.value := by
    cases k with
    | application appId => exact denotes_escape appId
    | namespaceRow nsId => exact denotes_escape nsId
    | release releaseId => exact denotes_number releaseId
  obtain ⟨htable, hkey, hnames⟩ := isName_table k.table
  rw [text_lookup, readSelection_selectionText hnames hne htable hkey hdenotes, selectionOf]

/-! ### Records without their dates -/

/-- An application, its date aside. -/
def Application.undated (app : Application) : Application := { app with createdAt := "" }

/-- A namespace, its date aside. -/
def Namespace.undated (ns : Namespace) : Namespace := { ns with createdAt := "" }

/-- A release, its date aside. -/
def Release.undated (release : Release) : Release := { release with createdAt := "" }

private theorem cell_text (value : String) : (SqlValue.text value.toList).cell = value :=
  String.ofList_toList

private theorem cell_optionalText (name : String) (hname : IsName name.toList)
    (value : Option String) : (optionalTextCell name hname value).value.cell = value.getD "" := by
  cases value with
  | none => rfl
  | some value => exact cell_text value

private theorem cell_optionalNumber (name : String) (hname : IsName name.toList)
    (n : Option Int32) :
    (optionalNumberCell name hname n).value.cell = (n.map intCell).getD "" := by
  cases n <;> rfl

/-- The text of a flag; an absent one is written like false. -/
def flagText (flag : Option Bool) : String := if flag = some true then "1" else "0"

private theorem cell_flag (name : String) (hname : IsName name.toList) (flag : Option Bool) :
    (flagCell name hname flag).value.cell = flagText flag := by
  rcases flag with _ | _ | _ <;> rfl

private theorem row_of_name {row : SqlRow} {cell : SqlCell} {name : String}
    (h : cell.name ≠ "created_at".toList → row cell.name = cell.value)
    (hname : cell.name = name.toList) (hdate : name.toList ≠ "created_at".toList) :
    row name.toList = cell.value := by
  rw [← hname]
  exact h (by rwa [hname])

/-- The columns of an application as a client gets them. -/
theorem columns_application {app : Application} {row : SqlRow}
    (h : HoldsCells row (applicationCells app)) :
    (applicationsSchema.columns.map fun c ↦ (row c.name).cell) =
      [app.appId, app.name, app.description.getD "", (row "created_at".toList).cell] := by
  simp only [HoldsCells, applicationCells, List.forall_mem_cons] at h
  obtain ⟨hid, hname, hdescription, -⟩ := h
  change [(row "app_id".toList).cell, (row "name".toList).cell, (row "description".toList).cell,
    (row "created_at".toList).cell] = _
  rw [row_of_name hid rfl (by decide), row_of_name hname rfl (by decide),
    row_of_name hdescription (optionalTextCell_name _ _ _) (by decide), cell_optionalText]
  simp only [textCell, cell_text]

/-- The columns of a namespace as a client gets them. -/
theorem columns_namespace {ns : Namespace} {row : SqlRow}
    (h : HoldsCells row (namespaceCells ns)) :
    (namespacesSchema.columns.map fun c ↦ (row c.name).cell) =
      [ns.id, ns.appId, ns.env, ns.cluster, ns.name, ns.type, ns.parentNamespaceId.getD "",
        flagText ns.approvalEnabled, (row "created_at".toList).cell] := by
  simp only [HoldsCells, namespaceCells, List.forall_mem_cons] at h
  obtain ⟨hid, happ, henv, hcluster, hname, htype, hparent, hflag, -⟩ := h
  change [(row "id".toList).cell, (row "app_id".toList).cell, (row "env".toList).cell,
    (row "cluster".toList).cell, (row "name".toList).cell, (row "type".toList).cell,
    (row "parent_namespace_id".toList).cell, (row "approval_enabled".toList).cell,
    (row "created_at".toList).cell] = _
  rw [row_of_name hid rfl (by decide), row_of_name happ rfl (by decide),
    row_of_name henv rfl (by decide), row_of_name hcluster rfl (by decide),
    row_of_name hname rfl (by decide), row_of_name htype rfl (by decide),
    row_of_name hparent (optionalTextCell_name _ _ _) (by decide),
    row_of_name hflag (flagCell_name _ _ _) (by decide), cell_optionalText, cell_flag]
  simp only [textCell, cell_text]

/-- The columns of a release as a client gets them. -/
theorem columns_release {rel : Release} {ts : ClockReading} {row : SqlRow}
    (h : HoldsCells row (releaseCells rel ts)) :
    (releasesSchema.columns.map fun c ↦ (row c.name).cell) =
      [(row "id".toList).cell, rel.namespaceId, intCell rel.releaseVersion, rel.releaseNote,
        rel.releaseType, rel.status, (rel.grayscalePercentage.map intCell).getD "",
        rel.whitelist.getD "", rel.operatorId, (row "created_at".toList).cell] := by
  simp only [HoldsCells, releaseCells, List.forall_mem_cons] at h
  obtain ⟨hns, hversion, hnote, htype, hstatus, hpercentage, hwhitelist, hoperator, -⟩ := h
  change [(row "id".toList).cell, (row "namespace_id".toList).cell,
    (row "release_version".toList).cell, (row "release_note".toList).cell,
    (row "release_type".toList).cell, (row "status".toList).cell,
    (row "grayscale_percentage".toList).cell, (row "whitelist".toList).cell,
    (row "operator_id".toList).cell, (row "created_at".toList).cell] = _
  rw [row_of_name hns rfl (by decide), row_of_name hversion rfl (by decide),
    row_of_name hnote rfl (by decide), row_of_name htype rfl (by decide),
    row_of_name hstatus rfl (by decide),
    row_of_name hpercentage (optionalNumberCell_name _ _ _) (by decide),
    row_of_name hwhitelist (optionalTextCell_name _ _ _) (by decide),
    row_of_name hoperator rfl (by decide), cell_optionalText, cell_optionalNumber]
  simp only [textCell, numberCell, cell_text]
  rfl

/-! ### Releases that a server accepts -/

section Acceptance

variable {rules : SqlRules} {rel : Release} {ts : ClockReading}

/-- Every column takes the value of its field. -/
def Fits (rules : SqlRules) (rel : Release) (ts : ClockReading) : Prop :=
  ∀ cell ∈ releaseCells rel ts, ∀ c, releasesSchema.column? cell.name = some c →
    (rules.keep c.type cell.value).isSome

/-- A namespace has the id. -/
def NamespaceStored (db : SqlDatabase rules recordSchemas) (nsId : String) : Prop :=
  ∃ row ∈ db.rows "namespaces".toList, rules.same (row "id".toList) (.text nsId.toList) = true

private theorem exists_cell (rel : Release) (ts : ClockReading) {c : SqlColumn}
    (hc : c ∈ releasesSchema.columns) :
    c = { name := "id".toList, type := .bigint } ∨
      ∃ cell ∈ releaseCells rel ts, releasesSchema.column? cell.name = some c ∧
        (c.nullable = true ∨ cell.value ≠ .null) := by
  simp only [releasesSchema, List.mem_cons, List.not_mem_nil, or_false] at hc
  rcases hc with rfl | rfl | rfl | rfl | rfl | rfl | rfl | rfl | rfl | rfl
  · exact .inl rfl
  · exact .inr ⟨_, List.mem_of_getElem? (i := 0) rfl, rfl, .inr nofun⟩
  · exact .inr ⟨_, List.mem_of_getElem? (i := 1) rfl, rfl, .inr nofun⟩
  · exact .inr ⟨_, List.mem_of_getElem? (i := 2) rfl, rfl, .inr nofun⟩
  · exact .inr ⟨_, List.mem_of_getElem? (i := 3) rfl, rfl, .inr nofun⟩
  · exact .inr ⟨_, List.mem_of_getElem? (i := 4) rfl, rfl, .inr nofun⟩
  · refine .inr ⟨_, List.mem_of_getElem? (i := 5) rfl, ?_, .inl rfl⟩
    rw [optionalNumberCell_name]
    rfl
  · refine .inr ⟨_, List.mem_of_getElem? (i := 6) rfl, ?_, .inl rfl⟩
    rw [optionalTextCell_name]
    rfl
  · exact .inr ⟨_, List.mem_of_getElem? (i := 7) rfl, rfl, .inr nofun⟩
  · exact .inr ⟨_, List.mem_of_getElem? (i := 8) rfl, rfl, .inr nofun⟩

private theorem column_cell {cell : SqlCell} (hcell : cell ∈ releaseCells rel ts) :
    ¬ (releasesSchema.generated = true ∧ cell.name = releasesSchema.key) ∧
      (releasesSchema.column? cell.name).isSome := by
  by_cases hdate : cell.name = "created_at".toList
  · rw [hdate]
    decide
  · obtain ⟨c, hc, hkey, -⟩ := exact_release hcell hdate
    exact ⟨hkey, by rw [hc]; rfl⟩

private theorem takes_release_iff {id : Int} (hid : FitsBits 64 id) :
    releasesSchema.Takes rules (insertionOf "releases".toList (releaseCells rel ts)).cells id ↔
      Fits rules rel ts := by
  have hgiven {cell : SqlCell} (hcell : cell ∈ releaseCells rel ts) {c : SqlColumn}
      (hc : releasesSchema.column? cell.name = some c) :
      releasesSchema.given (insertionOf "releases".toList (releaseCells rel ts)).cells id c =
        cell.value :=
    given_cell (r := .release rel ts) hcell hc (column_cell hcell).1 id
  constructor
  · intro h cell hcell c hc
    have hkeep := (SqlSchema.keep_row h hc).1
    rw [hgiven hcell hc] at hkeep
    rw [hkeep]
    rfl
  · intro hfits
    refine ⟨List.forall_mem_map.mpr fun cell hcell ↦ (column_cell hcell).2, fun c hc ↦ ?_⟩
    rcases exists_cell rel ts hc with rfl | ⟨cell, hcell, hcolumn, hnull⟩
    · obtain ⟨w, hw⟩ := Option.isSome_iff_exists.mp (rules.keep_bigint.mpr hid)
      have hnumber : SqlValue.number id ≠ .null := nofun
      exact SqlSchema.isSome_kept hw (.inr (rules.keep_ne_null hnumber hw))
    · obtain ⟨w, hw⟩ := Option.isSome_iff_exists.mp (hfits cell hcell c hcolumn)
      refine SqlSchema.isSome_kept (w := w) ?_ (hnull.imp_right fun hvalue ↦ ?_)
      · rw [hgiven hcell hcolumn, hw]
      · exact rules.keep_ne_null hvalue hw

/-- A server accepts a release exactly when its namespace is stored and its fields fit. -/
theorem accepts_release_iff {db : SqlDatabase rules recordSchemas}
    (hid : FitsBits 64 (db.nextId "releases".toList)) :
    db.Accepts releasesSchema (insertionOf "releases".toList (releaseCells rel ts)) ↔
      NamespaceStored db rel.namespaceId ∧ Fits rules rel ts := by
  rw [← takes_release_iff hid, and_comm]
  refine and_congr_right fun htakes ↦ ?_
  have hfree := SqlDatabase.keyFree_generated (recordSchemas_name .releases) rfl htakes
  rw [and_iff_left hfree, SqlDatabase.Refers]
  have hrow : db.newRow releasesSchema (insertionOf "releases".toList (releaseCells rel ts))
      "namespace_id".toList = .text rel.namespaceId.toList :=
    row_of_name (holdsCells_row (r := .release rel ts) htakes _ List.mem_cons_self) rfl (by decide)
  constructor
  · intro hrefers
    obtain ⟨parent, hparent, hsame⟩ := hrefers _ rfl
    rw [hrow] at hsame
    exact ⟨parent, hparent, hsame⟩
  · rintro ⟨parent, hparent, hsame⟩ ref href
    cases href
    exact ⟨parent, hparent, by rwa [hrow]⟩

/-- A client gets the texts of the release from the row. -/
structure SameTexts (row : SqlRow) (rel : Release) : Prop where
  namespaceId : (row "namespace_id".toList).cell = rel.namespaceId
  releaseNote : (row "release_note".toList).cell = rel.releaseNote
  releaseType : (row "release_type".toList).cell = rel.releaseType
  status : (row "status".toList).cell = rel.status
  whitelist : ∀ value ∈ rel.whitelist, (row "whitelist".toList).cell = value
  operatorId : (row "operator_id".toList).cell = rel.operatorId

private theorem fits_of_name {cell : SqlCell} {name : String} (hname : cell.name = name.toList)
    {column : SqlColumn} (hcolumn : releasesSchema.column? name.toList = some column)
    (hkeep : (rules.keep column.type cell.value).isSome) (c : SqlColumn)
    (hc : releasesSchema.column? cell.name = some c) : (rules.keep c.type cell.value).isSome := by
  rw [hname, hcolumn, Option.some.injEq] at hc
  rwa [← hc]

private theorem fitsBits_toInt (n : Int32) : FitsBits 32 n.toInt := ⟨n.le_toInt, n.toInt_lt⟩

private theorem isSome_keep_of_row {db : SqlDatabase rules recordSchemas} {row : SqlRow}
    (hrow : row ∈ db.rows "releases".toList) {name : List Char} {c : SqlColumn}
    (hc : releasesSchema.column? name = some c) (htype : c.type.isText = true) {value : String}
    (hcell : (row name).cell = value) : (rules.keep c.type (.text value.toList)).isSome := by
  obtain ⟨hkeep, -⟩ := db.typed (recordSchemas_name .releases) row hrow hc
  rcases rules.keep_kind htype hkeep with hnull | ⟨cs, htext⟩
  · rw [hnull] at hcell
    rw [← hcell]
    exact rules.keep_empty htype
  · rw [htext] at hcell hkeep
    rw [← hcell, SqlValue.cell, String.toList_ofList, hkeep]
    rfl

/-- What a client gets from a stored row is a release that a server accepts. -/
theorem acceptable_of_row {db : SqlDatabase rules recordSchemas} {row : SqlRow}
    (hrow : row ∈ db.rows "releases".toList) (hsame : SameTexts row rel)
    (hclock : (rules.keep .datetime (.text ts.text.toList)).isSome) :
    NamespaceStored db rel.namespaceId ∧ Fits rules rel ts := by
  constructor
  · have hs := recordSchemas_name .releases
    obtain ⟨parent, hparent, hreference⟩ := db.referenced hs row hrow _ rfl
    have hcolumn : releasesSchema.column? "namespace_id".toList =
        some { name := "namespace_id".toList, type := .varchar 255 } := rfl
    obtain ⟨hkeep, hnull⟩ := db.typed hs row hrow hcolumn
    obtain ⟨cs, htext⟩ :=
      (rules.keep_kind rfl hkeep).resolve_left (hnull.resolve_left Bool.false_ne_true)
    have hvalue : cs = rel.namespaceId.toList := by
      rw [← hsame.namespaceId, htext, SqlValue.cell, String.toList_ofList]
    refine ⟨parent, hparent, ?_⟩
    rw [← hvalue, ← htext]
    exact hreference
  · simp only [Fits, releaseCells, List.forall_mem_cons]
    refine ⟨?_, ?_, ?_, ?_, ?_, ?_, ?_, ?_, ?_, nofun⟩
    · exact fits_of_name rfl rfl (isSome_keep_of_row hrow rfl rfl hsame.namespaceId)
    · exact fits_of_name rfl rfl (rules.keep_int (fitsBits_toInt _))
    · exact fits_of_name rfl rfl (isSome_keep_of_row hrow rfl rfl hsame.releaseNote)
    · exact fits_of_name rfl rfl (isSome_keep_of_row hrow rfl rfl hsame.releaseType)
    · exact fits_of_name rfl rfl (isSome_keep_of_row hrow rfl rfl hsame.status)
    · refine fits_of_name (optionalNumberCell_name _ _ _) rfl ?_
      cases rel.grayscalePercentage with
      | none => exact Option.isSome_of_eq_some (rules.keep_null _)
      | some percentage => exact rules.keep_int (fitsBits_toInt _)
    · refine fits_of_name (optionalTextCell_name _ _ _) rfl ?_
      cases hwhitelist : rel.whitelist with
      | none => exact Option.isSome_of_eq_some (rules.keep_null _)
      | some value => exact isSome_keep_of_row hrow rfl rfl (hsame.whitelist value hwhitelist)
    · exact fits_of_name rfl rfl (isSome_keep_of_row hrow rfl rfl hsame.operatorId)
    · exact fits_of_name rfl rfl hclock

end Acceptance

end ConfigCenter.Storage
