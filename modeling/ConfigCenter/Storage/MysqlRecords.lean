import ConfigCenter.Storage.MysqlConnectionPool
import ConfigCenter.Storage.SqlRecords

/-!
# Records of the MySQL store

Library `Storage`. Applications, namespaces and releases on their way to a server and back. A
driver serves a database with the tables of `autoMigrate`: it executes the insertions and
selections that it reads in the statements. A record then comes back as it was, its date
aside, unless an optional text is present and empty, the approval flag is absent, or the
server refused the release, which `createRelease` does not look at.
-/

namespace ConfigCenter.Storage.MysqlConnectionPool
open ConfigCenter.Base PoolM MysqlConfigStore

variable {δ : Type}

/-- A driver for a server with the tables of records. It returns the text of each column, NULL
as the empty text. -/
structure Serves (driver : Driver δ) (rules : SqlRules)
    (database : δ → SqlDatabase rules recordSchemas) : Prop where
  /-- Clock readings are dates. -/
  keep_clock : ∀ t, isClockText t → (rules.keep .datetime (.text t.toList)).isSome
  execute : ∀ {st : SqlStatement} {i : SqlInsertion} {schema : SqlSchema},
    readInsertion st.text = some i → recordSchemas i.table = some schema → ∀ conn s,
      (database s).Executes conn schema i (driver.execute conn (.built st) s).1
        (database (driver.execute conn (.built st) s).2)
  query : ∀ {st : SqlStatement} {q : SqlSelection} {schema : SqlSchema},
    readSelection st.text = some q → recordSchemas q.table = some schema → q.key = schema.key →
      ∀ conn s, (driver.query conn (.built st) s).1 = (database s).select q
  lastInsertId : ∀ conn s,
    (driver.query conn .lastInsertId s).1 = [[((database s).lastId conn).repr]] ∧
      (database (driver.query conn .lastInsertId s).2).rows = (database s).rows

/-! ### Runs of the operations -/

section Runs

variable (driver : Driver δ)

/-- The store after a call of the driver on the first connection. -/
def afterCall (store : MysqlStore δ) (conn : Nat) (pool : List Nat) (server : δ) :
    MysqlStore δ :=
  { pool := pool ++ [conn], rest := { store.rest with server } }

/-- An action of the server leaves the pool alone. -/
theorem perform_run {α : Type} (f : δ → α × δ) (store : MysqlStore δ) :
    (perform f : StoreM δ α) store =
      (.returned (f store.rest.server).1,
        { store with rest := { store.rest with server := (f store.rest.server).2 } }) := rfl

/-- A statement runs on the first free connection. -/
theorem executeOnce_run {store : MysqlStore δ} {conn : Nat} {pool : List Nat}
    (h : store.pool = conn :: pool) (st : SqlStatement) :
    executeOnce driver st store =
      (.returned (driver.execute conn (.built st) store.rest.server).1,
        afterCall store conn pool (driver.execute conn (.built st) store.rest.server).2) := by
  rw [executeOnce, bind_run_returned (acquire_run h)]
  rfl

/-- An operation that answers had a connection. -/
theorem pool_of_executeOnce {store store' : MysqlStore δ} {st : SqlStatement} {ok : Bool}
    (h : executeOnce driver st store = (.returned ok, store')) :
    ∃ conn pool, store.pool = conn :: pool ∧
      (driver.execute conn (.built st) store.rest.server).1 = ok ∧
      store' = afterCall store conn pool
        (driver.execute conn (.built st) store.rest.server).2 := by
  cases hpool : store.pool with
  | nil =>
    rw [executeOnce, bind_run_blocked (acquire_run_nil hpool)] at h
    cases h
  | cons conn pool =>
    rw [executeOnce_run driver hpool, Prod.mk.injEq, Ending.returned.injEq] at h
    exact ⟨conn, pool, rfl, h.1, h.2.symm⟩

/-- A query runs on the first free connection, and its first row is read. -/
theorem fetchOne_run {α : Type} {store : MysqlStore δ} {conn : Nat} {pool : List Nat}
    (h : store.pool = conn :: pool) (sql : Sql) (read : List String → Except Thrown α) :
    fetchOne driver sql read store =
      ofExcept (readFirst read (driver.query conn sql store.rest.server).1)
        (afterCall store conn pool (driver.query conn sql store.rest.server).2) := by
  have hfetch : fetch driver sql store =
      (.returned (driver.query conn sql store.rest.server).1,
        afterCall store conn pool (driver.query conn sql store.rest.server).2) := by
    rw [fetch, bind_run_returned (acquire_run h)]
    rfl
  rw [fetchOne, bind_run_returned hfetch]

end Runs

/-! ### Looking a record up -/

/-- A lookup finds the record, its date aside. -/
def Finds {α : Type} (lookup : StoreM δ (Option α)) (store : MysqlStore δ) (undated : α → α)
    (a : α) : Prop :=
  ∃ found store', lookup store = (.returned (some found), store') ∧ undated found = undated a

section Lookups

variable {driver : Driver δ} {rules : SqlRules} {database : δ → SqlDatabase rules recordSchemas}

private theorem ofExcept_returned_iff {α : Type} {x : Except Thrown α} {a : α}
    {store store' : MysqlStore δ} :
    (ofExcept x : StoreM δ α) store = (.returned a, store') ↔ x = .ok a ∧ store = store' := by
  cases x with
  | ok b => simp [PoolM.ofExcept]
  | error e => simp [PoolM.ofExcept]

private theorem readFirst_ok_iff {α : Type} {read : List String → Except Thrown α}
    {rows : List (List String)} {found : α} :
    readFirst read rows = .ok (some found) ↔
      ∃ row rest, rows = row :: rest ∧ read row = .ok found := by
  cases rows with
  | nil => simp [readFirst]
  | cons row rest =>
    rw [readFirst]
    cases hread : read row with
    | ok value => simp [hread]
    | error e => simp [hread]

/-- A lookup finds what the first selected row is read as. -/
theorem finds_iff (hserves : Serves driver rules database) {α : Type} (k : RecordKey)
    (read : List String → Except Thrown α) (store : MysqlStore δ) (hpool : store.pool ≠ [])
    (undated : α → α) (a : α) :
    Finds (fetchOne driver (.built k.lookup) read) store undated a ↔
      ∃ row rest found, (database store.rest.server).select (selectionOf k.table k.value) =
        row :: rest ∧ read row = .ok found ∧ undated found = undated a := by
  obtain ⟨conn, pool, hpool⟩ := List.exists_cons_of_ne_nil hpool
  have hrows := hserves.query (readSelection_lookup k) (recordSchemas_name k.table) rfl conn
    store.rest.server
  simp only [Finds, fetchOne_run driver hpool, hrows, ofExcept_returned_iff, readFirst_ok_iff]
  constructor
  · rintro ⟨found, _, ⟨⟨row, rest, hselect, hread⟩, -⟩, hsame⟩
    exact ⟨row, rest, found, hselect, hread, hsame⟩
  · rintro ⟨row, rest, found, hselect, hread, hsame⟩
    exact ⟨found, _, ⟨⟨row, rest, hselect, hread⟩, rfl⟩, hsame⟩

/-- The driver executes the insertion of a record. -/
theorem executes_insertion (hserves : Serves driver rules database) (r : Record) (conn : Nat)
    (server : δ) :
    (database server).Executes conn r.table.schema (insertionOf r.table.name.toList r.cells)
      (driver.execute conn (.built r.insertion) server).1
      (database (driver.execute conn (.built r.insertion) server).2) :=
  hserves.execute (readInsertion_insertion r) (recordSchemas_name r.table) conn server

/-- Of a record that was created, a lookup finds what its one row is read as. -/
theorem finds_created_iff (hserves : Serves driver rules database) {r : Record} {k : RecordKey}
    (htable : k.table = r.table) {cell : SqlCell} (hcell : cell ∈ r.cells)
    (hkey : cell.name = r.table.schema.key) (hvalue : cell.value = k.value)
    (hnull : k.value ≠ .null) {store store' : MysqlStore δ}
    (h : executeOnce driver r.insertion store = (.returned true, store')) {α : Type}
    (read : List String → Except Thrown α) (undated : α → α) (a : α) :
    ∃ row, HoldsCells row r.cells ∧
      (Finds (fetchOne driver (.built k.lookup) read) store' undated a ↔
        ∃ found, read (r.table.schema.columns.map fun c ↦ (row c.name).cell) = .ok found ∧
          undated found = undated a) := by
  obtain ⟨conn, pool, hpool, hok, rfl⟩ := pool_of_executeOnce driver h
  have hexec := executes_insertion hserves r conn store.rest.server
  rw [hok] at hexec
  have hholds := holdsCells_row (hexec.answer.mp rfl).1
  refine ⟨_, hholds, ?_⟩
  have hrow := hholds cell hcell (by rw [hkey]; exact key_ne_date r.table)
  rw [hkey, hvalue] at hrow
  have hselect := SqlDatabase.select_of_executes hexec hrow hnull
    (r.table.schema.columns.map SqlColumn.name)
  rw [List.map_map] at hselect
  rw [finds_iff hserves k read _ (by simp [afterCall]), htable]
  constructor
  · rintro ⟨row, rest, found, hrows, hread, hsame⟩
    obtain ⟨rfl, -⟩ := List.cons.inj (hselect.symm.trans hrows)
    exact ⟨found, hread, hsame⟩
  · rintro ⟨found, hread, hsame⟩
    exact ⟨_, [], found, hselect, hread, hsame⟩

end Lookups

/-! ### Applications and namespaces -/

section Records

variable {driver : Driver δ} {rules : SqlRules} {database : δ → SqlDatabase rules recordSchemas}

private theorem optionalText_getD_iff (text : Option String) :
    optionalText (text.getD "") = text ↔ text ≠ some "" := by
  cases text with
  | none => simp [optionalText]
  | some value =>
    by_cases h : value = ""
    · simp [optionalText, h]
    · simp [optionalText, h]

private theorem exists_ok_iff {α : Type} {a : α} {p : α → Prop} :
    (∃ found, (Except.ok a : Except Thrown α) = .ok found ∧ p found) ↔ p a := by
  simp

/-- An application that was created is found as it was exactly when it has no empty
description. -/
theorem application_survives_iff (hserves : Serves driver rules database) {app : Application}
    {store store' : MysqlStore δ}
    (h : createApplication driver app store = (.returned true, store')) :
    Finds (getApplication driver app.appId) store' Application.undated app ↔
      app.description ≠ some "" := by
  obtain ⟨row, hholds, hfinds⟩ := finds_created_iff hserves (r := .application app)
    (k := .application app.appId) rfl List.mem_cons_self rfl rfl nofun h
    (fun row ↦ .ok (readApplication row)) Application.undated app
  have hread : readApplication (applicationsSchema.columns.map fun c ↦ (row c.name).cell) =
      { app with
        description := optionalText (app.description.getD "")
        createdAt := (row "created_at".toList).cell } := by
    rw [columns_application hholds]
    rfl
  refine hfinds.trans (exists_ok_iff.trans ?_)
  rw [← optionalText_getD_iff, Record.table, RecordTable.schema, hread]
  simp only [Application.undated, Application.mk.injEq, true_and, and_true]

/-- A namespace that was created is found as it was exactly when it has no empty parent and its
approval flag is set. -/
theorem namespace_survives_iff (hserves : Serves driver rules database) {ns : Namespace}
    {store store' : MysqlStore δ}
    (h : createNamespace driver ns store = (.returned true, store')) :
    Finds (getNamespace driver ns.id) store' Namespace.undated ns ↔
      ns.parentNamespaceId ≠ some "" ∧ ns.approvalEnabled ≠ none := by
  obtain ⟨row, hholds, hfinds⟩ := finds_created_iff hserves (r := .namespaceRow ns)
    (k := .namespaceRow ns.id) rfl List.mem_cons_self rfl rfl nofun h
    (fun row ↦ .ok (readNamespace row)) Namespace.undated ns
  have hread : readNamespace (namespacesSchema.columns.map fun c ↦ (row c.name).cell) =
      { ns with
        parentNamespaceId := optionalText (ns.parentNamespaceId.getD "")
        approvalEnabled := some (ns.approvalEnabled.getD false)
        createdAt := (row "created_at".toList).cell } := by
    rw [columns_namespace hholds]
    rcases hflag : ns.approvalEnabled with _ | _ | _
    · rfl
    · rfl
    · rfl
  have hflag : some (ns.approvalEnabled.getD false) = ns.approvalEnabled ↔
      ns.approvalEnabled ≠ none := by
    cases ns.approvalEnabled with
    | none => simp
    | some flag => simp
  refine hfinds.trans (exists_ok_iff.trans ?_)
  rw [← optionalText_getD_iff, ← hflag, Record.table, RecordTable.schema, hread]
  simp only [Namespace.undated, Namespace.mk.injEq, true_and, and_true]

/-! ### Releases -/

private theorem stoll64_repr {n : Int} (h : FitsBits 64 n) : stoll64 n.repr = .ok n := by
  have hrange : -9223372036854775808 ≤ n ∧ n ≤ 9223372036854775807 := by
    obtain ⟨hle, hlt⟩ := h
    constructor <;> omega
  rw [stoll64, stoll_repr]
  exact if_pos hrange

private theorem createRelease_run (hserves : Serves driver rules database) {store : MysqlStore δ}
    {conn : Nat} {pool : List Nat} (hpool : store.pool = conn :: pool) (rel : Release)
    (ts : ClockReading) :
    let server := (driver.execute conn (.built (Record.release rel ts).insertion)
      store.rest.server).2
    createRelease driver rel ts store =
      (.returned (true, { rel with
          id := (database server).lastId conn
          createdAt := ts.text }),
        afterCall store conn pool (driver.query conn .lastInsertId server).2) := by
  intro server
  rw [createRelease, bind_run_returned (acquire_run hpool)]
  have hid : insertedId (driver.query conn .lastInsertId server).1 rel.id =
      .ok ((database server).lastId conn) := by
    rw [(hserves.lastInsertId conn server).1]
    exact stoll64_repr ((database server).lastId_fits conn)
  have hreturned (s : MysqlStore δ) :
      (ofExcept (insertedId (driver.query conn .lastInsertId server).1 rel.id) : StoreM δ Int) s =
        (.returned ((database server).lastId conn), s) :=
    ofExcept_returned_iff.mpr ⟨hid, rfl⟩
  rw [executeOn, bind_run_returned (perform_run _ _), queryOn, bind_run_returned (perform_run _ _)]
  exact bind_run_returned (hreturned _) _

private theorem readReleaseRow_cells {r : Release} (h : FitsBits 64 r.id) :
    readReleaseRow r.cells =
      .ok { r with whitelist := r.whitelist.filter (fun w ↦ !(w = "")) } := by
  have hid : stoll64 (cell r.cells 0) = .ok r.id := stoll64_repr h
  rw [readReleaseRow, hid]
  exact readRelease_cells r

private theorem exists_of_bind_ok {α β : Type} {x : Except Thrown α} {f : α → Except Thrown β}
    {b : β} (h : (x >>= f) = .ok b) : ∃ a, f a = .ok b := by
  cases x with
  | error e => cases h
  | ok a => exact ⟨a, h⟩

private theorem texts_of_readReleaseRow {row : List String} {found : Release}
    (h : readReleaseRow row = .ok found) :
    found.namespaceId = cell row 1 ∧ found.releaseNote = cell row 3 ∧
      found.releaseType = cell row 4 ∧ found.status = cell row 5 ∧
      found.whitelist = optionalText (cell row 7) ∧ found.operatorId = cell row 8 := by
  obtain ⟨_, h⟩ := exists_of_bind_ok h
  obtain ⟨_, h⟩ := exists_of_bind_ok h
  obtain ⟨_, h⟩ := exists_of_bind_ok h
  obtain ⟨_, h⟩ := exists_of_bind_ok h
  cases h
  exact ⟨rfl, rfl, rfl, rfl, rfl, rfl⟩

private theorem of_optionalText_eq {text : String} {value : Option String}
    (h : optionalText text = value) : (∀ v ∈ value, text = v) ∧ value ≠ some "" := by
  by_cases he : text = ""
  · simp [← h, optionalText, he]
  · simp [← h, optionalText, he]

private theorem sameTexts_of_read {row : SqlRow} {rel found : Release} {id : Int} {date : String}
    (hread : readReleaseRow (releasesSchema.columns.map fun c ↦ (row c.name).cell) = .ok found)
    (hsame : found.undated = Release.undated { rel with id := id, createdAt := date }) :
    SameTexts row rel ∧ rel.whitelist ≠ some "" := by
  obtain ⟨hns, hnote, htype, hstatus, hwhitelist, hoperator⟩ := texts_of_readReleaseRow hread
  simp only [Release.undated, Release.mk.injEq] at hsame
  obtain ⟨-, hns', -, hnote', htype', hstatus', -, hwhitelist', hoperator', -⟩ := hsame
  have hvalue := of_optionalText_eq (hwhitelist.symm.trans hwhitelist')
  exact ⟨{
    namespaceId := hns.symm.trans hns'
    releaseNote := hnote.symm.trans hnote'
    releaseType := htype.symm.trans htype'
    status := hstatus.symm.trans hstatus'
    whitelist := hvalue.1
    operatorId := hoperator.symm.trans hoperator' }, hvalue.2⟩

private theorem columns_accepted {db : SqlDatabase rules recordSchemas} {rel : Release}
    {ts : ClockReading}
    (h : db.Accepts releasesSchema (insertionOf "releases".toList (releaseCells rel ts))) :
    ∃ date, (releasesSchema.columns.map fun c ↦ (db.newRow releasesSchema
        (insertionOf "releases".toList (releaseCells rel ts)) c.name).cell) =
      Release.cells { rel with id := db.nextId "releases".toList, createdAt := date } := by
  have hholds : HoldsCells (db.newRow releasesSchema
      (insertionOf "releases".toList (releaseCells rel ts))) (releaseCells rel ts) :=
    holdsCells_row (r := .release rel ts) h.1
  have hnumber : db.newRow releasesSchema (insertionOf "releases".toList (releaseCells rel ts))
      "id".toList = .number (db.nextId "releases".toList) :=
    (SqlSchema.row_generated h.1 rfl).1
  rw [columns_release hholds, hnumber]
  exact ⟨_, rfl⟩

private theorem reads_accepted {conn : Nat} {db db' : SqlDatabase rules recordSchemas}
    {rel : Release} {ts : ClockReading} {ok : Bool}
    (hexec : db.Executes conn releasesSchema
      (insertionOf "releases".toList (releaseCells rel ts)) ok db')
    (haccepts : db.Accepts releasesSchema (insertionOf "releases".toList (releaseCells rel ts)))
    (hwhitelist : rel.whitelist ≠ some "") :
    ∃ row rest found,
      db'.select (selectionOf .releases (.number (db'.lastId conn))) = row :: rest ∧
        readReleaseRow row = .ok found ∧
        found.undated =
          Release.undated { rel with id := db'.lastId conn, createdAt := ts.text } := by
  have hid : db'.lastId conn = db.nextId "releases".toList := hexec.lastId haccepts rfl
  obtain rfl := hexec.answer.mpr haccepts
  obtain ⟨hkey, hfits⟩ := SqlSchema.row_generated haccepts.1 rfl
  have hselect := SqlDatabase.select_of_executes hexec hkey nofun
    (releasesSchema.columns.map SqlColumn.name)
  rw [List.map_map] at hselect
  obtain ⟨date, hcolumns⟩ := columns_accepted haccepts
  have hread := readReleaseRow_cells
    (r := { rel with id := db.nextId "releases".toList, createdAt := date }) hfits
  rw [← hcolumns] at hread
  have hkept : rel.whitelist.filter (fun w ↦ !(w = "")) = rel.whitelist := by
    cases hvalue : rel.whitelist with
    | none => rfl
    | some value =>
      have hne : value ≠ "" := fun he ↦ hwhitelist (by rw [hvalue, he])
      simp [Option.filter, hne]
  rw [hid]
  refine ⟨_, [], _, hselect, hread, ?_⟩
  simp only [Release.undated, hkept]

private theorem accepted_of_reads {db db' : SqlDatabase rules recordSchemas} {rel : Release}
    {ts : ClockReading} (hclock : (rules.keep .datetime (.text ts.text.toList)).isSome)
    (hrows : db'.rows "namespaces".toList = db.rows "namespaces".toList) {key : SqlValue} {id : Int}
    {row : List String} {rest : List (List String)} {found : Release}
    (hselect : db'.select (selectionOf .releases key) = row :: rest)
    (hread : readReleaseRow row = .ok found)
    (hsame : found.undated = Release.undated { rel with id := id, createdAt := ts.text }) :
    NamespaceStored db rel.namespaceId ∧ Fits rules rel ts ∧ rel.whitelist ≠ some "" := by
  obtain ⟨stored, hstored, rfl⟩ := SqlDatabase.exists_row_of_select hselect
  rw [selectionOf, List.map_map] at hread
  obtain ⟨htexts, hwhitelist⟩ := sameTexts_of_read hread hsame
  obtain ⟨hns, hfits⟩ := acceptable_of_row hstored htexts hclock
  rw [NamespaceStored, hrows] at hns
  exact ⟨hns, hfits, hwhitelist⟩

/-- A release that was created is found as it was exactly when its namespace is stored, its
fields fit their columns and it has no empty whitelist. -/
theorem release_survives_iff (hserves : Serves driver rules database) {rel : Release}
    {ts : ClockReading} (hts : isClockText ts.text) {store store' : MysqlStore δ}
    (hroom : FitsBits 64 ((database store.rest.server).nextId "releases".toList))
    {released : Release}
    (h : createRelease driver rel ts store = (.returned (true, released), store')) :
    Finds (getRelease driver released.id) store' Release.undated released ↔
      NamespaceStored (database store.rest.server) rel.namespaceId ∧ Fits rules rel ts ∧
        rel.whitelist ≠ some "" := by
  cases hpool : store.pool with
  | nil =>
    rw [createRelease, bind_run_blocked (acquire_run_nil hpool)] at h
    cases h
  | cons conn pool =>
    rw [createRelease_run hserves hpool] at h
    cases h
    set server := (driver.execute conn (.built (Record.release rel ts).insertion)
      store.rest.server).2
    have hexec : (database store.rest.server).Executes conn releasesSchema
        (insertionOf "releases".toList (releaseCells rel ts)) _ (database server) :=
      executes_insertion hserves (.release rel ts) conn store.rest.server
    obtain ⟨-, hrows⟩ := hserves.lastInsertId conn server
    refine (finds_iff hserves (.release ((database server).lastId conn)) readReleaseRow
      (afterCall store conn pool (driver.query conn .lastInsertId server).2)
      (by simp [afterCall]) Release.undated
      { rel with id := (database server).lastId conn, createdAt := ts.text }).trans ?_
    simp only [afterCall, SqlDatabase.select_congr hrows]
    constructor
    · rintro ⟨row, rest, found, hselect, hread, hsame⟩
      have hothers : "namespaces".toList ≠ "releases".toList := by decide
      exact accepted_of_reads (hserves.keep_clock _ hts) (hexec.rows_other hothers) hselect hread
        hsame
    · rintro ⟨hns, hfits, hwhitelist⟩
      exact reads_accepted hexec ((accepts_release_iff hroom).mpr ⟨hns, hfits⟩) hwhitelist

/-- Applications, namespaces and releases that were created come back as they were, their dates
aside, exactly when no optional text is present and empty, the approval flag of the namespace
is set, and the release could be stored: its namespace is there and its fields fit. -/
theorem records_survive_iff (hserves : Serves driver rules database)
    (store store' : MysqlStore δ) :
    (∀ app, createApplication driver app store = (.returned true, store') →
      (Finds (getApplication driver app.appId) store' Application.undated app ↔
        app.description ≠ some "")) ∧
    (∀ ns, createNamespace driver ns store = (.returned true, store') →
      (Finds (getNamespace driver ns.id) store' Namespace.undated ns ↔
        ns.parentNamespaceId ≠ some "" ∧ ns.approvalEnabled ≠ none)) ∧
    ∀ rel ts released, isClockText ts.text →
      FitsBits 64 ((database store.rest.server).nextId "releases".toList) →
      createRelease driver rel ts store = (.returned (true, released), store') →
      (Finds (getRelease driver released.id) store' Release.undated released ↔
        NamespaceStored (database store.rest.server) rel.namespaceId ∧ Fits rules rel ts ∧
          rel.whitelist ≠ some "") :=
  ⟨fun _ ↦ application_survives_iff hserves, fun _ ↦ namespace_survives_iff hserves,
    fun _ _ _ hts hroom ↦ release_survives_iff hserves hts hroom⟩

end Records

/-! ### A server -/

/-- A date and a time as a `DATETIME`, from a clock reading or from the text of such a value. -/
def datetimeChars (cs : List Char) : Option (List Char) :=
  if isDate (cs.take 10) && isTime ((cs.drop 11).take 8) &&
      (cs = cs.take 10 ++ 'T' :: ((cs.drop 11).take 8 ++ ['Z']) ||
        cs = cs.take 10 ++ ' ' :: (cs.drop 11).take 8) then
    some (cs.take 10 ++ ' ' :: (cs.drop 11).take 8)
  else none

/-- What the columns keep of a server that refuses texts that are too long and numbers that are
out of range. -/
def strictKeep (type : SqlType) : SqlValue → Option SqlValue
  | .null => some .null
  | .text cs =>
    match type with
    | .varchar n => if cs.length ≤ n then some (.text cs) else none
    | .text => if (String.ofList cs).utf8ByteSize ≤ 65535 then some (.text cs) else none
    | .datetime => (datetimeChars cs).map .text
    | .int | .bigint | .boolean => none
  | .number n =>
    match type with
    | .int => if FitsBits 32 n then some (.number n) else none
    | .bigint => if FitsBits 64 n then some (.number n) else none
    | .boolean => if FitsBits 8 n then some (.number n) else none
    | .varchar _ | .text | .datetime => none

private theorem datetimeChars_text {date time : List Char} (hdate : isDate date)
    (htime : isTime time) :
    datetimeChars (date ++ ' ' :: time) = some (date ++ ' ' :: time) := by
  have hten := (isDate_spec hdate).1
  have height := (isTime_spec htime).1
  have hfirst : (date ++ ' ' :: time).take 10 = date := List.take_left' hten
  have hlast : ((date ++ ' ' :: time).drop 11).take 8 = time := by
    rw [List.append_cons, List.drop_left' (by simp [hten]), List.take_of_length_le (by omega)]
  rw [datetimeChars, hfirst, hlast, hdate, htime]
  simp

private theorem datetimeChars_idem {cs value : List Char} (h : datetimeChars cs = some value) :
    datetimeChars value = some value := by
  unfold datetimeChars at h
  split at h
  · next hcs =>
    cases h
    simp only [Bool.and_eq_true] at hcs
    exact datetimeChars_text hcs.1.1 hcs.1.2
  · cases h

private theorem datetimeChars_clock {t : Timestamp} (h : isClockText t) :
    (datetimeChars t.toList).isSome := by
  simp only [isClockText, Bool.and_eq_true, clockDate, clockTime] at h
  rw [datetimeChars, if_pos]
  · rfl
  · simp only [Bool.and_eq_true, Bool.or_eq_true, decide_eq_true_eq]
    exact ⟨⟨h.1.2, h.2⟩, .inl (of_decide_eq_true h.1.1)⟩

private theorem strictKeep_cases {type : SqlType} {v w : SqlValue}
    (h : strictKeep type v = some w) :
    w = v ∧
        (v = .null ∨ (∃ cs, v = .text cs) ∧ type.isText ∨ (∃ n, v = .number n) ∧ type.isNumber) ∨
      type = .datetime ∧
        ∃ cs value, v = .text cs ∧ datetimeChars cs = some value ∧ w = .text value := by
  cases v with
  | null =>
    cases h
    exact .inl ⟨rfl, .inl rfl⟩
  | text cs =>
    cases type with
    | varchar n =>
      obtain rfl := Option.some.inj (Option.ite_none_right_eq_some.mp h).2
      exact .inl ⟨rfl, .inr (.inl ⟨⟨cs, rfl⟩, rfl⟩)⟩
    | text =>
      obtain rfl := Option.some.inj (Option.ite_none_right_eq_some.mp h).2
      exact .inl ⟨rfl, .inr (.inl ⟨⟨cs, rfl⟩, rfl⟩)⟩
    | datetime =>
      obtain ⟨value, hvalue, rfl⟩ := Option.map_eq_some_iff.mp h
      exact .inr ⟨rfl, cs, value, rfl, hvalue, rfl⟩
    | int | bigint | boolean => cases h
  | number n =>
    cases type with
    | int | bigint | boolean =>
      obtain rfl := Option.some.inj (Option.ite_none_right_eq_some.mp h).2
      exact .inl ⟨rfl, .inr (.inr ⟨⟨n, rfl⟩, rfl⟩)⟩
    | varchar _ | text | datetime => cases h

/-- The rules of such a server with a binary collation. -/
def strictRules : SqlRules where
  keep := strictKeep
  same v w := v = w
  keep_null _ := rfl
  keep_ne_null := by
    intro type v w hv h
    rcases strictKeep_cases h with ⟨rfl, -⟩ | ⟨-, cs, value, -, -, rfl⟩
    · exact hv
    · exact nofun
  keep_text := by
    intro type cs v htype h
    rcases strictKeep_cases h with ⟨rfl, -⟩ | ⟨rfl, -⟩
    · rfl
    · cases htype
  keep_kind := by
    intro type v w htype h
    rcases strictKeep_cases h with ⟨rfl, hnull | ⟨htext, -⟩ | ⟨-, hnumber⟩⟩ | ⟨rfl, -⟩
    · exact .inl hnull
    · exact .inr htext
    · cases type <;> contradiction
    · cases htype
  keep_empty := by
    intro type htype
    cases type with
    | varchar n => simp [strictKeep]
    | text => simp [strictKeep]
    | int | bigint | boolean | datetime => cases htype
  keep_number := by
    intro type n v htype h
    rcases strictKeep_cases h with ⟨rfl, -⟩ | ⟨rfl, -⟩
    · rfl
    · cases htype
  keep_int := fun hn ↦ Option.isSome_of_eq_some (if_pos hn)
  keep_bigint := by
    intro n
    simp only [strictKeep, Option.isSome_ite]
  keep_boolean := by decide
  keep_keep := by
    intro type v w h
    rcases strictKeep_cases h with ⟨rfl, -⟩ | ⟨rfl, cs, value, -, hvalue, rfl⟩
    · exact h
    · exact congrArg (Option.map SqlValue.text) (datetimeChars_idem hvalue)
  same_self := fun _ ↦ decide_eq_true rfl
  same_number m n := by simp

/-- A server that reads an insertion and inserts its row. -/
def insertText (conn : Nat) (text : List Char) (db : SqlDatabase strictRules recordSchemas) :
    Bool × SqlDatabase strictRules recordSchemas :=
  match readInsertion text with
  | some i =>
    match hs : recordSchemas i.table with
    | some _ => db.insert conn hs
    | none => (false, db)
  | none => (false, db)

/-- A driver with the tables in memory, for insertions, selections by key and the last id. -/
def tableDriver : Driver (SqlDatabase strictRules recordSchemas) where
  connect _ _ db := (true, db)
  execute conn sql db :=
    match sql with
    | .built st => insertText conn st.text db
    | _ => (false, db)
  query conn sql db :=
    match sql with
    | .built st => (((readSelection st.text).map db.select).getD [], db)
    | .lastInsertId => ([[(db.lastId conn).repr]], db)
    | _ => ([], db)
  beginTransaction _ db := (true, db)
  commit _ db := (true, db)
  rollback _ db := (true, db)
  isConnected _ db := (true, db)
  close _ db := ((), db)

private theorem insertText_of_read {text : List Char} {i : SqlInsertion} {schema : SqlSchema}
    (hread : readInsertion text = some i) (hs : recordSchemas i.table = some schema) (conn : Nat)
    (db : SqlDatabase strictRules recordSchemas) : insertText conn text db = db.insert conn hs := by
  unfold insertText
  rw [hread]
  dsimp only
  split
  · next other hother =>
    obtain rfl := Option.some.inj (hs.symm.trans hother)
    rfl
  · next hnone => cases hs.symm.trans hnone

/-- A driver that keeps tables. -/
theorem serves_tableDriver : Serves tableDriver strictRules id where
  keep_clock _ ht := Option.isSome_map.trans (datetimeChars_clock ht)
  execute := by
    intro st i schema hread hs conn db
    rw [tableDriver]
    dsimp only [id]
    rw [insertText_of_read hread hs]
    exact db.executes_insert conn hs
  query hread _ _ _ db := by
    rw [tableDriver]
    simp only [hread, Option.map_some, Option.getD_some, id]
  lastInsertId _ _ := ⟨rfl, rfl⟩

/-! ### Records of a shop -/

open SqlStatement (noon)

/-- A store with one connection. -/
def singleStore (db : SqlDatabase strictRules recordSchemas) :
    MysqlStore (SqlDatabase strictRules recordSchemas) where
  pool := [0]
  rest := { server := db }

/-- An application whose name has a quote. -/
def shopApplication (description : Option String) : Application where
  appId := "shop"
  name := "The shop's app"
  description := description
  createdAt := "2024-05-01T08:00:00Z"

/-- A namespace of this application. -/
def shopNamespace (approvalEnabled : Option Bool) : Namespace where
  id := "shop-dev"
  appId := "shop"
  env := "dev"
  cluster := "default"
  name := "app"
  type := "private"
  parentNamespaceId := none
  approvalEnabled := approvalEnabled
  createdAt := "2024-05-01T08:00:01Z"

/-- A grayscale release of this namespace. -/
def shopRelease : Release where
  namespaceId := "shop-dev"
  releaseVersion := 1
  releaseNote := "first"
  releaseType := "grayscale"
  status := "active"
  grayscalePercentage := some 10
  whitelist := some "10.0.0.1"
  operatorId := "alice"

private theorem executeOnce_accepted {db : SqlDatabase strictRules recordSchemas} {r : Record}
    (h : db.Accepts r.table.schema (insertionOf r.table.name.toList r.cells)) :
    executeOnce tableDriver r.insertion (singleStore db) =
      (.returned true, singleStore (db.inserted 0 (recordSchemas_name r.table) h)) := by
  have hinsert : tableDriver.execute 0 (.built r.insertion) db =
      (true, db.inserted 0 (recordSchemas_name r.table) h) := by
    have hread := insertText_of_read (readInsertion_insertion r) (recordSchemas_name r.table) 0 db
    exact hread.trans (dif_pos h)
  have hpool : (singleStore db).pool = [0] := rfl
  rw [executeOnce_run tableDriver hpool]
  simp only [singleStore, afterCall, hinsert, List.nil_append]

private theorem createRelease_single (db : SqlDatabase strictRules recordSchemas) (rel : Release)
    (ts : ClockReading) :
    ∃ released store', createRelease tableDriver rel ts (singleStore db) =
      (.returned (true, released), store') := by
  have hpool : (singleStore db).pool = [0] := rfl
  exact ⟨_, _, createRelease_run serves_tableDriver hpool rel ts⟩

/-- Tables without rows. -/
def noRecords : SqlDatabase strictRules recordSchemas := .empty _ _

private theorem accepts_shopApplication :
    noRecords.Accepts applicationsSchema (insertionOf "applications".toList
      (applicationCells (shopApplication (some "All of the shop")))) := by
  decide

/-- The tables with the application alone. -/
def applicationRecords : SqlDatabase strictRules recordSchemas :=
  noRecords.inserted 0 (recordSchemas_name .applications) accepts_shopApplication

private theorem accepts_shopNamespace :
    applicationRecords.Accepts namespacesSchema (insertionOf "namespaces".toList
      (namespaceCells (shopNamespace (some false)))) := by
  decide

/-- The tables with the application and its namespace. -/
def namespaceRecords : SqlDatabase strictRules recordSchemas :=
  applicationRecords.inserted 0 (recordSchemas_name .namespaces) accepts_shopNamespace

private theorem accepts_shopRelease :
    namespaceRecords.Accepts releasesSchema (insertionOf "releases".toList
      (releaseCells shopRelease noon)) := by
  decide

private theorem fitsBits_nextId : FitsBits 64 (namespaceRecords.nextId "releases".toList) := by
  decide

/-- The store keeps an application, its namespace and a release of it. -/
theorem records_survive_shop :
    Serves tableDriver strictRules id ∧
      ∃ released store,
        createApplication tableDriver (shopApplication (some "All of the shop"))
          (singleStore noRecords) = (.returned true, singleStore applicationRecords) ∧
        Finds (getApplication tableDriver "shop") (singleStore applicationRecords)
          Application.undated (shopApplication (some "All of the shop")) ∧
        createNamespace tableDriver (shopNamespace (some false))
          (singleStore applicationRecords) = (.returned true, singleStore namespaceRecords) ∧
        Finds (getNamespace tableDriver "shop-dev") (singleStore namespaceRecords)
          Namespace.undated (shopNamespace (some false)) ∧
        createRelease tableDriver shopRelease noon (singleStore namespaceRecords) =
          (.returned (true, released), store) ∧
        Finds (getRelease tableDriver released.id) store Release.undated released := by
  have happ := executeOnce_accepted (r := .application _) accepts_shopApplication
  have hns := executeOnce_accepted (r := .namespaceRow _) accepts_shopNamespace
  obtain ⟨released, store, hrel⟩ := createRelease_single namespaceRecords shopRelease noon
  refine ⟨serves_tableDriver, released, store, happ, ?_, hns, ?_, hrel, ?_⟩
  · exact ((records_survive_iff serves_tableDriver _ _).1 _ happ).mpr (by decide)
  · exact ((records_survive_iff serves_tableDriver _ _).2.1 _ hns).mpr (by decide)
  · obtain ⟨hstored, hfits⟩ := (accepts_release_iff fitsBits_nextId).mp accepts_shopRelease
    have hiff := records_survive_iff serves_tableDriver (singleStore namespaceRecords) store
    exact (hiff.2.2 shopRelease noon released (by decide) fitsBits_nextId hrel).mpr
      ⟨hstored, hfits, by decide⟩

private theorem accepts_emptyDescription :
    noRecords.Accepts applicationsSchema (insertionOf "applications".toList
      (applicationCells (shopApplication (some "")))) := by
  decide

private theorem accepts_absentFlag :
    applicationRecords.Accepts namespacesSchema (insertionOf "namespaces".toList
      (namespaceCells (shopNamespace none))) := by
  decide

/-- An application with an empty description, a namespace without approval flag and a release of
a namespace that is not there are created and not found as they were. -/
theorem records_changed_shop :
    (∃ store, createApplication tableDriver (shopApplication (some "")) (singleStore noRecords) =
        (.returned true, store) ∧
      ¬ Finds (getApplication tableDriver "shop") store Application.undated
        (shopApplication (some ""))) ∧
    (∃ store, createNamespace tableDriver (shopNamespace none) (singleStore applicationRecords) =
        (.returned true, store) ∧
      ¬ Finds (getNamespace tableDriver "shop-dev") store Namespace.undated
        (shopNamespace none)) ∧
    ∃ released store, createRelease tableDriver shopRelease noon (singleStore noRecords) =
        (.returned (true, released), store) ∧
      ¬ Finds (getRelease tableDriver released.id) store Release.undated released := by
  have happ := executeOnce_accepted (r := .application _) accepts_emptyDescription
  have hns := executeOnce_accepted (r := .namespaceRow _) accepts_absentFlag
  obtain ⟨released, store, hrel⟩ := createRelease_single noRecords shopRelease noon
  refine ⟨⟨_, happ, ?_⟩, ⟨_, hns, ?_⟩, released, store, hrel, ?_⟩
  · intro hfinds
    exact (application_survives_iff serves_tableDriver happ).mp hfinds rfl
  · intro hfinds
    exact ((namespace_survives_iff serves_tableDriver hns).mp hfinds).2 rfl
  · intro hfinds
    obtain ⟨⟨row, hrow, -⟩, -⟩ :=
      (release_survives_iff serves_tableDriver (by decide) (by decide) hrel).mp hfinds
    cases hrow

end ConfigCenter.Storage.MysqlConnectionPool
