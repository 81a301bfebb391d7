import ConfigCenter.Base.Cascade
import ConfigCenter.Storage.MysqlRecords
import ConfigCenter.Storage.NamespaceDeletion

/-!
# Deletions on both backends

Library `Storage`. The tables of `autoMigrate` cascade: with an application go its namespaces,
and with these their configurations, releases and approvals. The SQLite store refuses to
delete an application with namespaces and leaves what a deleted namespace holds.
-/

namespace ConfigCenter.Storage
open ConfigCenter.Base StorageM

/-! ### Tables -/

/-- The tables of `autoMigrate`, `mysql_config_store.cpp:93–195`. -/
inductive MigratedTable where
  | applications
  | namespaces
  | configs
  | configVersions
  | changeLogs
  | releases
  | approvals
  | users
  deriving DecidableEq, Repr

/-- `FOREIGN KEY (column) REFERENCES table(key) ON DELETE CASCADE`. -/
structure CascadingKey where
  column : String
  table : MigratedTable
  key : String
  deriving DecidableEq, Repr

namespace MigratedTable

/-- The name of a table. -/
def name : MigratedTable → String
  | .applications => "applications"
  | .namespaces => "namespaces"
  | .configs => "configs"
  | .configVersions => "config_versions"
  | .changeLogs => "change_logs"
  | .releases => "releases"
  | .approvals => "approvals"
  | .users => "users"

/-- `mysql_config_store.cpp:113,126,169,183`. -/
def cascadingKey : MigratedTable → Option CascadingKey
  | .namespaces => some { column := "app_id", table := .applications, key := "app_id" }
  | .configs | .releases | .approvals =>
    some { column := "namespace_id", table := .namespaces, key := "id" }
  | .applications | .configVersions | .changeLogs | .users => none

/-- Depth of a table below those that refer to nothing. -/
def depth : MigratedTable → Nat
  | .namespaces => 1
  | .configs | .releases | .approvals => 2
  | .applications | .configVersions | .changeLogs | .users => 0

end MigratedTable

/-- These are the names in the order in which `autoMigrate` creates the tables. -/
example : [MigratedTable.applications, .namespaces, .configs, .configVersions, .changeLogs,
    .releases, .approvals, .users].map MigratedTable.name =
      MysqlConnectionPool.migratedTables := rfl

/-- What the keys of the tables say about their rows. -/
def migratedReferences (same : SqlValue → SqlValue → Bool) : References MigratedTable SqlRow where
  parents t := t.cascadingKey.toList.map CascadingKey.table
  refers t p row parent := t.cascadingKey.any fun k ↦
    k.table = p && same (parent k.key.toList) (row k.column.toList)
  rank := MigratedTable.depth
  rank_lt := by
    intro t p hp
    cases t with
    | namespaces | configs | releases | approvals =>
      obtain rfl := List.mem_singleton.mp hp
      decide
    | applications | configVersions | changeLogs | users => cases hp

/-! ### Statements -/

/-- What a text that deletes rows by a key asks for. The table and the condition after
`DELETE FROM` are read as those of a selection. -/
def readDeletion (text : List Char) : Option SqlSelection :=
  if "DELETE FROM ".toList <+: text then
    readSelection ("SELECT key FROM ".toList ++ text.drop "DELETE FROM ".length)
  else none

/-- A deletion that the store asks for. -/
inductive Removal where
  | application (appId : String)
  | namespaceRow (nsId : String)

namespace Removal

/-- The table that a deletion names. -/
def table : Removal → MigratedTable
  | .application _ => .applications
  | .namespaceRow _ => .namespaces

/-- The column that it compares. -/
def key : Removal → String
  | .application _ => "app_id"
  | .namespaceRow _ => "id"

/-- The id that it compares this column with. -/
def id : Removal → String
  | .application appId => appId
  | .namespaceRow nsId => nsId

/-- The statement that carries it out. -/
def statement : Removal → SqlStatement
  | .application appId => .deleteApplication appId
  | .namespaceRow nsId => .deleteNamespace nsId

end Removal

private theorem text_removal (r : Removal) :
    r.statement.text = "DELETE FROM ".toList ++ (r.table.name.toList ++ (" WHERE ".toList ++
      (r.key.toList ++ (" = ".toList ++ (SqlExpr.quoted (escape r.id).toList).text)))) := by
  cases r
  all_goals
    simp only [Removal.statement, Removal.table, Removal.key, Removal.id, MigratedTable.name,
      SqlStatement.text, SqlStatement.operands, SqlExpr.text, List.flatMap_cons, List.flatMap_nil,
      Operand.chars]
    rfl

/-- A server reads a deletion with its table and the id, whatever the id is. -/
theorem readDeletion_statement (r : Removal) :
    readDeletion r.statement.text =
      some ⟨["key".toList], r.table.name.toList, r.key.toList, .text r.id.toList⟩ := by
  have hnames : IsName r.table.name.toList ∧ IsName r.key.toList := by
    cases r with
    | application appId =>
      exact (by decide : IsName "applications".toList ∧ IsName "app_id".toList)
    | namespaceRow nsId => exact (by decide : IsName "namespaces".toList ∧ IsName "id".toList)
  have hkey : ∀ c ∈ ["key".toList], IsName c := by decide
  have hselection := readSelection_selectionText hkey (List.cons_ne_nil _ _) hnames.1 hnames.2
    (denotes_escape r.id)
  have hlength : "DELETE FROM ".length = "DELETE FROM ".toList.length := rfl
  rw [readDeletion, text_removal, hlength, List.drop_left, if_pos (List.prefix_append _ _)]
  exact hselection

/-! ### What a deletion takes along -/

/-- A text in a column. -/
def textValue (text : String) : SqlValue := .text text.toList

/-- The rows of a table that a statement names. -/
def Removal.chosen (same : SqlValue → SqlValue → Bool) (r : Removal) (t : MigratedTable)
    (row : SqlRow) : Bool :=
  t = r.table && same (row r.key.toList) (.text r.id.toList)

section Takes

variable (same : SqlValue → SqlValue → Bool) (rows : MigratedTable → List SqlRow)

/-- The namespace goes: it is named, or it belongs to an application that is. -/
def Removal.takesNamespace (r : Removal) (ns : SqlRow) : Bool :=
  match r with
  | .application appId => (rows .applications).any fun app ↦
    same (app "app_id".toList) (.text appId.toList) &&
      same (app "app_id".toList) (ns "app_id".toList)
  | .namespaceRow nsId => same (ns "id".toList) (.text nsId.toList)

/-- The row of a table goes. -/
def Removal.takes (r : Removal) (t : MigratedTable) (row : SqlRow) : Bool :=
  match t with
  | .applications => r.chosen same .applications row
  | .namespaces => r.takesNamespace same rows row
  | .configs | .releases | .approvals => (rows .namespaces).any fun ns ↦
    same (ns "id".toList) (row "namespace_id".toList) && r.takesNamespace same rows ns
  | .configVersions | .changeLogs | .users => false

variable {same rows}

private theorem doomed_applications {r : Removal} {row : SqlRow} :
    (migratedReferences same).Doomed rows (r.chosen same) .applications row ↔
      r.chosen same .applications row = true :=
  References.doomed_root_iff rfl

private theorem doomed_namespaces {r : Removal} {row : SqlRow} :
    (migratedReferences same).Doomed rows (r.chosen same) .namespaces row ↔
      r.takesNamespace same rows row = true := by
  rw [References.doomed_iff_parent (p := .applications) rfl]
  simp only [doomed_applications]
  cases r with
  | application appId =>
    simp [Removal.chosen, Removal.table, Removal.key, Removal.id, Removal.takesNamespace,
      migratedReferences, MigratedTable.cascadingKey, and_comm]
  | namespaceRow nsId =>
    simp [Removal.chosen, Removal.table, Removal.key, Removal.id, Removal.takesNamespace]

private theorem doomed_children {r : Removal} {t : MigratedTable} {row : SqlRow}
    (h : t.cascadingKey = some { column := "namespace_id", table := .namespaces, key := "id" }) :
    (migratedReferences same).Doomed rows (r.chosen same) t row ↔
      ((rows .namespaces).any fun ns ↦ same (ns "id".toList) (row "namespace_id".toList) &&
        r.takesNamespace same rows ns) = true := by
  have hparents : (migratedReferences same).parents t = [.namespaces] := by
    simp [migratedReferences, h]
  have hne : t ≠ r.table := by
    rintro rfl
    cases r with
    | application appId => exact absurd h nofun
    | namespaceRow nsId =>
      have hother : MigratedTable.namespaces.cascadingKey ≠
        some { column := "namespace_id", table := .namespaces, key := "id" } := by decide
      exact hother h
  rw [References.doomed_iff_parent hparents]
  simp only [doomed_namespaces]
  simp [Removal.chosen, hne, migratedReferences, h]

/-- What goes with a deletion, table by table. -/
theorem doomed_iff_takes {r : Removal} {t : MigratedTable} {row : SqlRow} :
    (migratedReferences same).Doomed rows (r.chosen same) t row ↔
      r.takes same rows t row = true := by
  cases t with
  | applications => exact doomed_applications
  | namespaces => exact doomed_namespaces
  | configs | releases | approvals => exact doomed_children rfl
  | configVersions | changeLogs | users =>
    rw [References.doomed_root_iff rfl]
    cases r with
    | application appId => rfl
    | namespaceRow nsId => rfl

/-- A deletion leaves the rows that it does not take. -/
theorem afterDelete_eq_filter (r : Removal) (t : MigratedTable) :
    (migratedReferences same).afterDelete rows (r.chosen same) t =
      (rows t).filter fun row ↦ !r.takes same rows t row := by
  refine List.filter_congr fun row _ ↦ ?_
  rw [Bool.not_inj_iff, Bool.eq_iff_iff, References.doomedUpTo_iff (Nat.le_refl _),
    doomed_iff_takes]

end Takes

/-! ### The store on a server that cascades -/

namespace MysqlConnectionPool
open PoolM

variable {δ : Type}

/-- A driver for a server with the tables of `autoMigrate`: it executes the deletions that it
reads in the statements, and what refers to a deleted row goes with it. -/
structure Deletes (driver : Driver δ) (same : SqlValue → SqlValue → Bool)
    (tables : δ → MigratedTable → List SqlRow) : Prop where
  execute : ∀ {st : SqlStatement} {d : SqlSelection} {t : MigratedTable},
    readDeletion st.text = some d → d.table = t.name.toList → ∀ conn s,
      (driver.execute conn (.built st) s).1 = true ∧
        tables (driver.execute conn (.built st) s).2 =
          (migratedReferences same).afterDelete (tables s) fun u row ↦
            u = t && same (row d.key) d.value

/-- The operation of the store. -/
def remove (driver : Driver δ) : Removal → StoreM δ Bool
  | .application appId => deleteApplication driver appId
  | .namespaceRow nsId => deleteNamespace driver nsId

/-- The table of a name. -/
def tableOfName (name : List Char) : Option MigratedTable :=
  [.applications, .namespaces, .configs, .configVersions, .changeLogs, .releases, .approvals,
    .users].find? fun t ↦ t.name.toList = name

/-- Texts and numbers compare as they are. -/
def sameValue (v w : SqlValue) : Bool := decide (v = w)

/-- A server that reads a deletion and deletes. -/
def deleteText (text : List Char) (rows : MigratedTable → List SqlRow) :
    Bool × (MigratedTable → List SqlRow) :=
  match readDeletion text with
  | some d =>
    match tableOfName d.table with
    | some t => (true, (migratedReferences sameValue).afterDelete rows fun u row ↦
      u = t && sameValue (row d.key) d.value)
    | none => (false, rows)
  | none => (false, rows)

/-- A driver with the tables in memory, for deletions by a key. -/
def cascadeDriver : Driver (MigratedTable → List SqlRow) where
  connect _ _ rows := (true, rows)
  execute _ sql rows :=
    match sql with
    | .built st => deleteText st.text rows
    | _ => (false, rows)
  query _ _ rows := ([], rows)
  beginTransaction _ rows := (true, rows)
  commit _ rows := (true, rows)
  rollback _ rows := (true, rows)
  isConnected _ rows := (true, rows)
  close _ rows := ((), rows)

private theorem tableOfName_name (t : MigratedTable) : tableOfName t.name.toList = some t := by
  cases t <;> decide

/-- A driver that carries the deletions out. -/
theorem deletes_cascadeDriver : Deletes cascadeDriver sameValue id where
  execute := by
    intro st d t hread htable conn rows
    have hrun : deleteText st.text rows = (true, (migratedReferences sameValue).afterDelete rows
        fun u row ↦ u = t && sameValue (row d.key) d.value) := by
      simp only [deleteText, hread, htable, tableOfName_name]
    exact ⟨congrArg Prod.fst hrun, congrArg Prod.snd hrun⟩

variable {driver : Driver δ} {same : SqlValue → SqlValue → Bool}
  {tables : δ → MigratedTable → List SqlRow}

/-- `deleteApplication` and `deleteNamespace` return true, whatever the id is, and leave
exactly the rows that do not belong to what was deleted. -/
theorem remove_cascades (hdeletes : Deletes driver same tables) {store : MysqlStore δ}
    (hpool : store.pool ≠ []) (r : Removal) :
    ∃ store', remove driver r store = (.returned true, store') ∧
      store'.pool.Perm store.pool ∧
      ∀ t, tables store'.rest.server t = (tables store.rest.server t).filter fun row ↦
        !r.takes same (tables store.rest.server) t row := by
  obtain ⟨conn, pool, hpool⟩ := List.exists_cons_of_ne_nil hpool
  obtain ⟨hanswer, htables⟩ := hdeletes.execute (readDeletion_statement r) rfl conn
    store.rest.server
  have hrun : remove driver r store = executeOnce driver r.statement store := by
    cases r with
    | application appId => rfl
    | namespaceRow nsId => rfl
  refine ⟨afterCall store conn pool
    (driver.execute conn (.built r.statement) store.rest.server).2, ?_, ?_, fun t ↦ ?_⟩
  · rw [hrun, executeOnce_run driver hpool, hanswer]
  · rw [hpool]
    exact List.perm_append_singleton conn pool
  · rw [← afterDelete_eq_filter]
    exact congrFun htables t

/-- A row with some columns. -/
def rowOf (cells : List (String × SqlValue)) : SqlRow := fun name ↦
  ((cells.map fun cell ↦ (cell.1.toList, cell.2)).lookup name).getD .null

/-- An application with a namespace. -/
def shopRows : MigratedTable → List SqlRow
  | .applications => [rowOf [("app_id", textValue "shop")]]
  | .namespaces => [rowOf [("id", textValue "shop/prod"), ("app_id", textValue "shop")]]
  | _ => []

/-- A MySQL store with one connection and these rows. -/
def shopStore : MysqlStore (MigratedTable → List SqlRow) where
  pool := [0]
  rest := { server := shopRows }

/-- The application goes with its namespace. -/
theorem remove_cascades_shop :
    ∃ store', remove cascadeDriver (.application "shop") shopStore = (.returned true, store') ∧
      store'.pool.Perm shopStore.pool ∧
      ∀ t, store'.rest.server t = (shopRows t).filter fun row ↦
        !(Removal.application "shop").takes sameValue shopRows t row :=
  remove_cascades deletes_cascadeDriver (List.cons_ne_nil 0 []) _

end MysqlConnectionPool

/-! ### The two backends -/

/-- The operation on the SQLite store. -/
def Removal.sqlite : Removal → StorageM Bool
  | .application appId => SqliteConfigStore.deleteApplication appId
  | .namespaceRow nsId => SqliteConfigStore.deleteNamespace nsId

/-- Two columns of a row. -/
def cellPair (first second : String) (row : SqlRow) : SqlValue × SqlValue :=
  (row first.toList, row second.toList)

/-- The tables of the two backends have the same keys and references, in the same order. -/
structure Mirrors (t : Tables) (rows : MigratedTable → List SqlRow) : Prop where
  applications : (rows .applications).map (· "app_id".toList) =
    t.applications.rows.map fun a ↦ textValue a.appId
  namespaces : (rows .namespaces).map (cellPair "app_id" "id") =
    t.namespaces.rows.map fun n ↦ (textValue n.appId, textValue n.id)
  configs : (rows .configs).map (cellPair "namespace_id" "key") =
    t.configs.rows.map fun c ↦ (textValue c.namespaceId, textValue c.key)
  releases : (rows .releases).map (cellPair "namespace_id" "id") =
    t.releases.rows.map fun r ↦ (textValue r.namespaceId, SqlValue.number r.id)
  approvals : (rows .approvals).map (cellPair "namespace_id" "id") =
    t.approvals.rows.map fun a ↦ (textValue a.namespaceId, SqlValue.number a.id)

/-- Nothing belongs to what is deleted: no namespace to the application, where it is stored, and
no configuration, release or approval to the namespace. -/
def Removal.Alone (t : Tables) : Removal → Prop
  | .application appId =>
    (t.applications.find? appId).isSome → ∀ n ∈ t.namespaces.rows, n.appId ≠ appId
  | .namespaceRow nsId => (t.namespaces.find? nsId).isSome → t.Free nsId

section Mirrors

variable {same : SqlValue → SqlValue → Bool} {rows : MigratedTable → List SqlRow} {t : Tables}

private theorem same_textValue (hsame : ∀ cs ds, same (.text cs) (.text ds) = decide (cs = ds))
    (a b : String) : same (textValue a) (textValue b) = decide (a = b) := by
  rw [textValue, textValue, hsame]
  exact decide_eq_decide.mpr String.toList_inj

private theorem exists_of_map_eq {ρ κ : Type} {rows : List SqlRow} {xs : List ρ} {f : SqlRow → κ}
    {g : ρ → κ} (h : rows.map f = xs.map g) :
    (∀ row ∈ rows, ∃ x ∈ xs, f row = g x) ∧ ∀ x ∈ xs, ∃ row ∈ rows, f row = g x := by
  constructor
  · intro row hrow
    have hmem : f row ∈ xs.map g := h ▸ List.mem_map_of_mem hrow
    obtain ⟨x, hx, heq⟩ := List.mem_map.mp hmem
    exact ⟨x, hx, heq.symm⟩
  · intro x hx
    have hmem : g x ∈ rows.map f := h ▸ List.mem_map_of_mem hx
    exact List.mem_map.mp hmem

private theorem map_filter_eq {ρ κ : Type} {rows : List SqlRow} {xs : List ρ} {f : SqlRow → κ}
    {g : ρ → κ} {p : SqlRow → Bool} {q : ρ → Bool} (h : rows.map f = xs.map g) (keep : κ → Bool)
    (hp : ∀ row, p row = keep (f row)) (hq : ∀ x, q x = keep (g x)) :
    (rows.filter p).map f = (xs.filter q).map g := by
  obtain rfl : p = keep ∘ f := funext hp
  obtain rfl : q = keep ∘ g := funext hq
  rw [← List.filter_map, ← List.filter_map, h]

private theorem filter_all {rows : List SqlRow} {p : SqlRow → Bool}
    (h : ∀ row ∈ rows, p row = false) : rows.filter (fun row ↦ !p row) = rows :=
  List.filter_eq_self.mpr fun row hrow ↦ by rw [h row hrow]; rfl

private theorem none_of_map_filter {κ : Type} {rows : List SqlRow} {f : SqlRow → κ}
    {p : SqlRow → Bool} (h : (rows.filter fun row ↦ !p row).map f = rows.map f) :
    ∀ row ∈ rows, p row = false := by
  have hlength := congrArg List.length h
  rw [List.length_map, List.length_map, List.length_filter_eq_length_iff] at hlength
  intro row hrow
  simpa using hlength row hrow

/-! A deletion on rows that mirror the tables of the SQLite store. -/

-- The namespace goes, in the terms of the SQLite store.
private def Removal.TakesRow (t : Tables) (r : Removal) (n : Namespace) : Prop :=
  match r with
  | .application appId => (t.applications.find? appId).isSome ∧ n.appId = appId
  | .namespaceRow nsId => n.id = nsId

private theorem isSome_find?_iff {ρ : Type} {key : ρ → String} {xs : KeyedTable key} {k : String} :
    (xs.find? k).isSome ↔ ∃ x ∈ xs.rows, key x = k := by
  constructor
  · intro h
    obtain ⟨x, hx⟩ := Option.isSome_iff_exists.mp h
    exact ⟨x, ((xs.find?_eq_some_iff k x).mp hx).1, KeyedTable.key_of_find? hx⟩
  · rintro ⟨x, hx, rfl⟩
    rw [KeyedTable.find?_key_of_mem hx]
    rfl

private theorem takesNamespace_iff (hsame : ∀ cs ds, same (.text cs) (.text ds) = decide (cs = ds))
    (hm : Mirrors t rows) (r : Removal) {row : SqlRow} {n : Namespace}
    (hrow : cellPair "app_id" "id" row = (textValue n.appId, textValue n.id)) :
    r.takesNamespace same rows row = true ↔ r.TakesRow t n := by
  obtain ⟨happId, hid⟩ := Prod.mk.inj hrow
  cases r with
  | namespaceRow nsId =>
    change same (row "id".toList) (textValue nsId) = true ↔ n.id = nsId
    rw [hid, same_textValue hsame, decide_eq_true_iff]
  | application appId =>
    change ((rows .applications).any fun app ↦ same (app "app_id".toList) (textValue appId) &&
      same (app "app_id".toList) (row "app_id".toList)) = true ↔
        (t.applications.find? appId).isSome ∧ n.appId = appId
    rw [happId, isSome_find?_iff]
    obtain ⟨hrows, happs⟩ := exists_of_map_eq hm.applications
    simp only [List.any_eq_true, Bool.and_eq_true]
    constructor
    · rintro ⟨app, happ, hnamed, hrefers⟩
      obtain ⟨a, ha, heq⟩ := hrows app happ
      rw [heq, same_textValue hsame, decide_eq_true_iff] at hnamed hrefers
      exact ⟨⟨a, ha, hnamed⟩, hrefers.symm.trans hnamed⟩
    · rintro ⟨⟨a, ha, hnamed⟩, hrefers⟩
      obtain ⟨app, happ, heq⟩ := happs a ha
      refine ⟨app, happ, ?_, ?_⟩
      · rw [heq, same_textValue hsame, decide_eq_true_iff]
        exact hnamed
      · rw [heq, same_textValue hsame, decide_eq_true_iff, hnamed, hrefers]

-- What a row of a namespace goes with.
private theorem takes_child_iff
    (hsame : ∀ cs ds, same (.text cs) (.text ds) = decide (cs = ds)) (hm : Mirrors t rows)
    (r : Removal) {row : SqlRow} {nsId : String}
    (hrow : row "namespace_id".toList = textValue nsId) :
    ((rows .namespaces).any fun ns ↦ same (ns "id".toList) (row "namespace_id".toList) &&
        r.takesNamespace same rows ns) = true ↔
      ∃ n ∈ t.namespaces.rows, n.id = nsId ∧ r.TakesRow t n := by
  obtain ⟨hrows, hnamespaces⟩ := exists_of_map_eq hm.namespaces
  simp only [List.any_eq_true, Bool.and_eq_true, hrow]
  constructor
  · rintro ⟨ns, hns, hrefers, htakes⟩
    obtain ⟨n, hn, heq⟩ := hrows ns hns
    have hid : ns "id".toList = textValue n.id := (Prod.mk.inj heq).2
    rw [hid, same_textValue hsame, decide_eq_true_iff] at hrefers
    exact ⟨n, hn, hrefers, (takesNamespace_iff hsame hm r heq).mp htakes⟩
  · rintro ⟨n, hn, hid, htakes⟩
    obtain ⟨ns, hns, heq⟩ := hnamespaces n hn
    refine ⟨ns, hns, ?_, (takesNamespace_iff hsame hm r heq).mpr htakes⟩
    have hcell : ns "id".toList = textValue n.id := (Prod.mk.inj heq).2
    rw [hcell, same_textValue hsame, decide_eq_true_iff]
    exact hid

private theorem mirrors_child_iff
    (hsame : ∀ cs ds, same (.text cs) (.text ds) = decide (cs = ds)) (hm : Mirrors t rows)
    (r : Removal) {u : MigratedTable}
    (hu : ∀ row, r.takes same rows u row = (rows .namespaces).any fun ns ↦
      same (ns "id".toList) (row "namespace_id".toList) && r.takesNamespace same rows ns)
    {ρ : Type} {xs : List ρ} {second : String} {nsOf : ρ → String} {other : ρ → SqlValue}
    (hxs : (rows u).map (cellPair "namespace_id" second) =
      xs.map fun x ↦ (textValue (nsOf x), other x)) :
    ((rows u).filter fun row ↦ !r.takes same rows u row).map (cellPair "namespace_id" second) =
        xs.map (fun x ↦ (textValue (nsOf x), other x)) ↔
      ∀ x ∈ xs, ¬ ∃ n ∈ t.namespaces.rows, n.id = nsOf x ∧ r.TakesRow t n := by
  obtain ⟨hrows, hmembers⟩ := exists_of_map_eq hxs
  rw [← hxs]
  constructor
  · intro h x hx hgoes
    obtain ⟨row, hrow, heq⟩ := hmembers x hx
    have hkept := none_of_map_filter h row hrow
    rw [hu, Bool.eq_false_iff] at hkept
    exact hkept ((takes_child_iff hsame hm r (Prod.mk.inj heq).1).mpr hgoes)
  · intro h
    rw [filter_all fun row hrow ↦ ?_]
    obtain ⟨x, hx, heq⟩ := hrows row hrow
    rw [hu, Bool.eq_false_iff]
    intro htakes
    exact h x hx ((takes_child_iff hsame hm r (Prod.mk.inj heq).1).mp htakes)

-- The rows that a deletion leaves.
private def leftRows (same : SqlValue → SqlValue → Bool) (rows : MigratedTable → List SqlRow)
    (r : Removal) (u : MigratedTable) : List SqlRow :=
  (rows u).filter fun row ↦ !r.takes same rows u row

private theorem mirrors_namespaceRow_iff
    (hsame : ∀ cs ds, same (.text cs) (.text ds) = decide (cs = ds)) (hm : Mirrors t rows)
    (nsId : String) :
    Mirrors { t with namespaces := t.namespaces.removeWhere (fun n ↦ n.id = nsId) }
        (leftRows same rows (.namespaceRow nsId)) ↔
      (Removal.namespaceRow nsId).Alone t := by
  have happlications : leftRows same rows (.namespaceRow nsId) .applications =
      rows .applications := filter_all fun row _ ↦ rfl
  have hnamespaces : (leftRows same rows (.namespaceRow nsId) .namespaces).map
      (cellPair "app_id" "id") = (t.namespaces.removeWhere (fun n ↦ n.id = nsId)).rows.map
        fun n ↦ (textValue n.appId, textValue n.id) := by
    refine map_filter_eq hm.namespaces (fun v ↦ !same v.2 (textValue nsId)) (fun row ↦ rfl)
      fun n ↦ ?_
    rw [same_textValue hsame]
  have hconfigs := mirrors_child_iff hsame hm (.namespaceRow nsId) (u := .configs)
    (fun _ ↦ rfl) hm.configs
  have hreleases := mirrors_child_iff hsame hm (.namespaceRow nsId) (u := .releases)
    (fun _ ↦ rfl) hm.releases
  have happrovals := mirrors_child_iff hsame hm (.namespaceRow nsId) (u := .approvals)
    (fun _ ↦ rfl) hm.approvals
  have hgoes (ns : String) : (¬ ∃ n ∈ t.namespaces.rows, n.id = ns ∧
      (Removal.namespaceRow nsId).TakesRow t n) ↔
        ((t.namespaces.find? nsId).isSome → ns ≠ nsId) := by
    rw [isSome_find?_iff]
    constructor
    · rintro h ⟨n, hn, hid⟩ rfl
      exact h ⟨n, hn, hid, hid⟩
    · rintro h ⟨n, hn, rfl, hid⟩
      exact h ⟨n, hn, hid⟩ hid
  simp only [hgoes] at hconfigs hreleases happrovals
  constructor
  · intro h hstored
    exact ⟨fun c hc ↦ hconfigs.mp h.configs c hc hstored,
      fun x hx ↦ hreleases.mp h.releases x hx hstored,
      fun a ha ↦ happrovals.mp h.approvals a ha hstored⟩
  · intro h
    exact {
      applications := by
        rw [happlications]
        exact hm.applications
      namespaces := hnamespaces
      configs := hconfigs.mpr fun c hc hstored ↦ (h hstored).configs c hc
      releases := hreleases.mpr fun x hx hstored ↦ (h hstored).releases x hx
      approvals := happrovals.mpr fun a ha hstored ↦ (h hstored).approvals a ha }

private theorem mirrors_application
    (hsame : ∀ cs ds, same (.text cs) (.text ds) = decide (cs = ds)) (hm : Mirrors t rows)
    {appId : String} (halone : (Removal.application appId).Alone t) :
    Mirrors { t with applications := t.applications.removeWhere (fun a ↦ a.appId = appId) }
      (leftRows same rows (.application appId)) := by
  have hnone (n : Namespace) (hn : n ∈ t.namespaces.rows) :
      ¬ (Removal.application appId).TakesRow t n := fun htakes ↦ halone htakes.1 n hn htakes.2
  have hchild (ns : String) : ¬ ∃ n ∈ t.namespaces.rows, n.id = ns ∧
      (Removal.application appId).TakesRow t n := fun ⟨n, hn, _, htakes⟩ ↦ hnone n hn htakes
  have hnamespaces : leftRows same rows (.application appId) .namespaces = rows .namespaces := by
    refine filter_all fun row hrow ↦ ?_
    obtain ⟨n, hn, heq⟩ := (exists_of_map_eq hm.namespaces).1 row hrow
    rw [Bool.eq_false_iff]
    intro htakes
    exact hnone n hn ((takesNamespace_iff hsame hm (.application appId) heq).mp htakes)
  exact {
    applications := by
      refine map_filter_eq hm.applications (fun v ↦ !same v (textValue appId)) (fun row ↦ rfl)
        fun a ↦ ?_
      rw [same_textValue hsame]
    namespaces := by
      rw [hnamespaces]
      exact hm.namespaces
    configs := (mirrors_child_iff hsame hm (.application appId) (u := .configs)
      (fun _ ↦ rfl) hm.configs).mpr fun c _ ↦ hchild c.namespaceId
    releases := (mirrors_child_iff hsame hm (.application appId) (u := .releases)
      (fun _ ↦ rfl) hm.releases).mpr fun x _ ↦ hchild x.namespaceId
    approvals := (mirrors_child_iff hsame hm (.application appId) (u := .approvals)
      (fun _ ↦ rfl) hm.approvals).mpr fun a _ ↦ hchild a.namespaceId }

end Mirrors

private theorem guard_eq_false_iff {appId : String} {t : Tables} :
    ((t.applications.find? appId).isSome && t.namespaces.rows.any (·.appId = appId)) = false ↔
      (Removal.application appId).Alone t := by
  simp only [Removal.Alone, Bool.and_eq_false_imp, List.any_eq_false, decide_eq_true_eq]

namespace MysqlConnectionPool
open PoolM

variable {δ : Type} {driver : Driver δ} {same : SqlValue → SqlValue → Bool}
  {tables : δ → MigratedTable → List SqlRow}

/-- From tables with the same keys, a deletion that both backends acknowledge leaves tables with
the same keys exactly where nothing belongs to what is deleted. The server compares texts as they
are. -/
theorem backends_mirror_iff_alone (hdeletes : Deletes driver same tables)
    (hsame : ∀ cs ds, same (.text cs) (.text ds) = decide (cs = ds)) {store : MysqlStore δ}
    (hpool : store.pool ≠ []) {db : Database}
    (hm : Mirrors db.tables (tables store.rest.server)) (r : Removal) :
    (∃ db' store', r.sqlite noFaults db = (.ok true, db') ∧
      remove driver r store = (.returned true, store') ∧
      Mirrors db'.tables (tables store'.rest.server)) ↔ r.Alone db.tables := by
  obtain ⟨store', hremove, -, hleft⟩ := remove_cascades hdeletes hpool r
  have hleft : tables store'.rest.server = leftRows same (tables store.rest.server) r :=
    funext hleft
  cases r with
  | namespaceRow nsId =>
    constructor
    · rintro ⟨db', store'', hsqlite, hremove', hmirrors⟩
      obtain rfl : store' = store'' := congrArg Prod.snd (hremove.symm.trans hremove')
      obtain rfl := congrArg Prod.snd hsqlite
      rw [hleft] at hmirrors
      exact (mirrors_namespaceRow_iff hsame hm nsId).mp hmirrors
    · intro halone
      refine ⟨_, store', rfl, hremove, ?_⟩
      rw [hleft]
      exact (mirrors_namespaceRow_iff hsame hm nsId).mpr halone
  | application appId =>
    constructor
    · rintro ⟨db', store'', hsqlite, -, -⟩
      rw [← guard_eq_false_iff, Bool.eq_false_iff]
      intro hguard
      rw [Removal.sqlite, deleteApplication_run, if_pos hguard] at hsqlite
      exact nomatch congrArg Prod.fst hsqlite
    · intro halone
      have hguard := Bool.eq_false_iff.mp (guard_eq_false_iff.mpr halone)
      have hsqlite := (deleteApplication_run appId db).trans (if_neg hguard)
      refine ⟨_, store', hsqlite, hremove, ?_⟩
      rw [hleft]
      exact mirrors_application hsame hm halone

/-- The same on the SQLite store. -/
def shopDatabase : Database :=
  run Storage.step Database.empty
    [("2024-01-01T00:00:00Z", .createApplication
        { appId := "shop", name := "Shop", description := none,
          createdAt := "2024-01-01T00:00:00Z" }),
      ("2024-01-01T00:00:00Z", .createNamespace
        { id := "shop/prod", appId := "shop", env := "prod", cluster := "default",
          name := "application", type := "private", parentNamespaceId := none,
          approvalEnabled := none, createdAt := "2024-01-01T00:00:00Z" })]

private theorem mirrors_shop : Mirrors shopDatabase.tables shopRows where
  applications := by decide +kernel
  namespaces := by decide +kernel
  configs := by decide +kernel
  releases := by decide +kernel
  approvals := by decide +kernel

/-- The namespace of the shop is deleted. -/
theorem backends_mirror_iff_alone_shop :
    (∃ db' store', (Removal.namespaceRow "shop/prod").sqlite noFaults shopDatabase =
        (.ok true, db') ∧
      remove cascadeDriver (.namespaceRow "shop/prod") shopStore = (.returned true, store') ∧
      Mirrors db'.tables store'.rest.server) ↔
        (Removal.namespaceRow "shop/prod").Alone shopDatabase.tables :=
  backends_mirror_iff_alone deletes_cascadeDriver
    (fun _ _ ↦ decide_eq_decide.mpr (by rw [SqlValue.text.injEq])) (List.cons_ne_nil 0 [])
    mirrors_shop (.namespaceRow "shop/prod")

end MysqlConnectionPool
end ConfigCenter.Storage
