import ConfigCenter.Storage.Effects

/-!
# Read paths over status texts

Library `Storage`. The column `status` of `configs` is text, and its readers compare
it with literals of their own: `getConfig` and `listConfigs` leave out `"draft"`,
`getDraftChanges` keeps `"draft"`, the MySQL listing keeps `"live"`. Here rows hold
that text and every write stores the literal the source has. The store of
`Storage.Calls` simulates these writes, so no other text is ever stored and no key
twice, and the readers agree.
-/

namespace ConfigCenter.Storage
open ConfigCenter.Base

/-- `ConfigKey`, `data_types.h:30–38`, with its status as text. -/
structure ConfigRow where
  namespaceId : String
  key : String
  value : String
  version : Int32
  status : String
  createdAt : Timestamp
  updatedAt : Timestamp
  deriving DecidableEq, Repr

/-- The tables that configuration reads and writes depend on. -/
structure TextTables where
  configs : List ConfigRow
  configVersions : List ConfigVersion

/-- One connection: the visible tables and, inside a transaction, those it started from. -/
structure TextDatabase where
  tables : TextTables
  snapshot : Option TextTables

namespace TextTables

/-- `where(namespace_id == … && key == …)`. -/
def atKey (namespaceId key : String) (c : ConfigRow) : Bool :=
  c.namespaceId = namespaceId ∧ c.key = key

/-! ### Writes -/

/-- `createConfig`, `sqlite_config_store.cpp:100–141`; the primary key is the pair of namespace
and key, and an insertion on a taken one throws. -/
def createConfig (t : TextTables) (namespaceId key value operatorId : String) (ts : Timestamp) :
    TextTables :=
  if t.configs.any (atKey namespaceId key) then t
  else
    { configs := t.configs ++
        [{ namespaceId, key, value, version := 1, status := "draft", createdAt := ts,
           updatedAt := ts }]
      configVersions := t.configVersions ++
        [{ version := 1, configId := makeConfigId namespaceId key, value, changeType := .create,
           operatorId, createdAt := ts }] }

/-- `updateConfig`, `sqlite_config_store.cpp:143–184`. -/
def updateConfig (t : TextTables) (namespaceId key value operatorId : String) (draft : Bool)
    (ts : Timestamp) : TextTables :=
  match t.configs.filter (atKey namespaceId key) with
  | [] => t
  | config :: _ =>
    let updated : ConfigRow :=
      { config with
        value, version := config.version + 1, status := if draft then "draft" else "live",
        updatedAt := ts }
    { configs := t.configs.map
        (fun c ↦ if atKey updated.namespaceId updated.key c then updated else c)
      configVersions := t.configVersions ++
        [{ version := config.version + 1, configId := makeConfigId namespaceId key, value,
           changeType := .update, operatorId, createdAt := ts }] }

/-- `deleteConfig`, `sqlite_config_store.cpp:186–210`. -/
def deleteConfig (t : TextTables) (namespaceId key : String) (draft : Bool) : TextTables :=
  if draft then
    { t with
      configs := t.configs.filter (fun c ↦ !(atKey namespaceId key c && c.status = "draft")) }
  else { t with configs := t.configs.filter (fun c ↦ !atKey namespaceId key c) }

/-- `rollbackConfig`, `sqlite_config_store.cpp:256–262`. -/
def rollbackConfig (t : TextTables) (namespaceId key : String) (targetVersion : Int32)
    (operatorId : String) (ts : Timestamp) : TextTables :=
  match t.configVersions.find?
      (fun v ↦ v.configId = makeConfigId namespaceId key ∧ v.version = targetVersion) with
  | none => t
  | some v => t.updateConfig namespaceId key v.value operatorId true ts

/-- The status update of `publishRelease`, `sqlite_config_store.cpp:336–337`. -/
def publishRelease (t : TextTables) (namespaceId : String) : TextTables :=
  { t with
    configs := t.configs.map
      (fun c ↦ if c.namespaceId = namespaceId then { c with status := "live" } else c) }

/-! ### Reads -/

/-- `getConfig`, `sqlite_config_store.cpp:212–224`. -/
def getConfig (t : TextTables) (namespaceId key : String) (includeDraft : Bool) :
    Option ConfigRow :=
  match t.configs.filter (atKey namespaceId key) with
  | [] => none
  | config :: _ => if !includeDraft && config.status = "draft" then none else some config

/-- `listConfigs`, `sqlite_config_store.cpp:226–236`. -/
def listConfigs (t : TextTables) (namespaceId : String) (includeDraft : Bool) : List ConfigRow :=
  let results := t.configs.filter (fun c ↦ c.namespaceId = namespaceId)
  if includeDraft then results else results.filter (fun c ↦ !(c.status = "draft"))

/-- `PublishEngine::getDraftChanges`, `publish_engine.cpp:16–22`. -/
def getDraftChanges (t : TextTables) (namespaceId : String) : List ConfigRow :=
  (t.listConfigs namespaceId true).filter (fun c ↦ c.status = "draft")

/-- The rows that the condition of `MysqlConfigStore::listConfigs` keeps,
`mysql_config_store.cpp:445–450`. -/
def mysqlListConfigs (t : TextTables) (namespaceId : String) (includeDraft : Bool) :
    List ConfigRow :=
  t.configs.filter
    (fun c ↦ c.namespaceId = namespaceId && (includeDraft || c.status = "live"))

end TextTables

/-- One call of the store: configuration writes, publications and transactions; the other
calls leave both tables alone. -/
def textStep (db : TextDatabase) (e : Event) : TextDatabase :=
  match e.2 with
  | .createConfig ns key value op =>
    { db with tables := db.tables.createConfig ns key value op e.1 }
  | .updateConfig ns key value op draft =>
    { db with tables := db.tables.updateConfig ns key value op draft e.1 }
  | .deleteConfig ns key _ draft => { db with tables := db.tables.deleteConfig ns key draft }
  | .rollbackConfig ns key target op =>
    { db with tables := db.tables.rollbackConfig ns key target op e.1 }
  | .publishRelease ns _ _ =>
    -- the `BEGIN` of `publishRelease` throws inside an open transaction
    if db.snapshot.isSome then db else { db with tables := db.tables.publishRelease ns }
  | .beginTransaction => { db with snapshot := some (db.snapshot.getD db.tables) }
  | .commitTransaction => { db with snapshot := none }
  | .rollbackTransaction => { tables := db.snapshot.getD db.tables, snapshot := none }
  | _ => db

/-! ### The store simulates the text -/

/-- The literal for a status. -/
def ConfigStatus.text : ConfigStatus → String
  | .live => "live"
  | .draft => "draft"

/-- A row with its status as text. -/
def ConfigKey.text (c : ConfigKey) : ConfigRow :=
  { namespaceId := c.namespaceId, key := c.key, value := c.value, version := c.version,
    status := c.status.text, createdAt := c.createdAt, updatedAt := c.updatedAt }

/-- Rows and versions of a ledger. -/
def Ledger.text (l : Ledger) : TextTables where
  configs := l.configs.rows.map ConfigKey.text
  configVersions := l.versions

/-- A database with its statuses as text. -/
def Database.text (db : Database) : TextDatabase where
  tables := db.ledger.text
  snapshot := db.snapshot.map fun t ↦ t.ledger.text

/-- A status is a draft where its text is. -/
theorem text_eq_draft_iff (status : ConfigStatus) : status.text = "draft" ↔ status = .draft := by
  cases status <;> decide

namespace Ledger

variable (l : Ledger) (ns key value op : String) (ts : Timestamp)

/-- A selection by namespace and key returns the text of the one row stored there, if any. -/
theorem filter_atKey_text :
    l.text.configs.filter (TextTables.atKey ns key) =
      (l.row? ns key).toList.map ConfigKey.text := by
  rw [text, List.filter_map, Ledger.row?, ← SqliteConfigStore.filter_atKey]
  rfl

private theorem any_atKey_text :
    l.text.configs.any (TextTables.atKey ns key) = (l.row? ns key).isSome := by
  rw [Bool.eq_iff_iff, List.any_eq_true]
  simp only [← List.mem_filter, filter_atKey_text]
  cases l.row? ns key <;> simp

/-- A creation on both levels. -/
theorem text_create :
    (l.apply (.create ns key value op ts)).text = l.text.createConfig ns key value op ts := by
  unfold TextTables.createConfig
  rw [any_atKey_text]
  cases hr : l.row? ns key with
  | some c => rw [apply_create_of_some hr, Option.isSome_some, if_pos rfl]
  | none =>
    obtain ⟨configs, hi, he⟩ := apply_create_of_none hr value op ts
    rw [he]
    simp only [text, KeyedTable.rows_insert? hi, List.map_append]
    rfl

/-- An update on both levels. -/
theorem text_update (draft : Bool) :
    (l.apply (.update ns key value op draft ts)).text =
      l.text.updateConfig ns key value op draft ts := by
  unfold TextTables.updateConfig
  rw [filter_atKey_text]
  cases hr : l.row? ns key with
  | none =>
    rw [apply_update_of_none hr]
    rfl
  | some old =>
    rw [apply_update_of_some hr]
    simp only [text, Option.toList_some, List.map_cons, KeyedTable.replace, List.map_map]
    congr 1
    apply List.map_congr_left
    intro c _
    have hkey : c.primaryKey = (rewrittenRow old value draft ts).primaryKey ↔
        TextTables.atKey old.text.namespaceId old.text.key c.text = true := by
      rw [ConfigKey.primaryKey, ConfigKey.primaryKey, Prod.mk.injEq]
      exact decide_eq_true_iff.symm
    simp only [Function.comp_apply, hkey]
    split
    · cases draft <;> rfl
    · rfl

/-- A deletion on both levels. -/
theorem text_delete (draft : Bool) :
    (l.apply (.delete ns key op draft ts)).text = l.text.deleteConfig ns key draft := by
  have hrows : (l.apply (.delete ns key op draft ts)).text.configs =
      l.text.configs.filter
        (fun c ↦ !(TextTables.atKey ns key c && (!draft || c.status = "draft"))) := by
    simp only [text, apply, KeyedTable.removeWhere, List.filter_map]
    congr 2
    funext c
    simp only [removes, Function.comp_apply, ConfigKey.text, text_eq_draft_iff]
    rfl
  cases draft with
  | true => exact congrArg (TextTables.mk · l.versions) hrows
  | false =>
    simp only [Bool.not_false, Bool.true_or, Bool.and_true] at hrows
    exact congrArg (TextTables.mk · l.versions) hrows

/-- A publication on both levels. -/
theorem text_publish : (l.apply (.publish ns)).text = l.text.publishRelease ns := by
  simp only [text, apply, KeyedTable.mapWhere, TextTables.publishRelease, List.map_map]
  congr 2
  funext c
  simp only [Function.comp_apply, decide_eq_true_eq]
  by_cases hc : c.namespaceId = ns
  · rw [if_pos hc, if_pos (show c.text.namespaceId = ns from hc)]
    rfl
  · rw [if_neg hc, if_neg (show ¬ c.text.namespaceId = ns from hc)]

end Ledger

/-- A call of the store does to the status texts what its writes store in them. -/
theorem text_step (db : Database) (e : Event) : (step db e).text = textStep db.text e := by
  obtain ⟨ts, c⟩ := e
  have hledger (hc : c.isTransactional = false) :
      (step db (ts, c)).text =
        { db.text with tables := (db.ledger.apply (c.edit db ts)).text } := by
    obtain ⟨hl, hs⟩ := ledger_step db ts c hc
    rw [Database.text, hl, hs]
    rfl
  cases c with
  | createConfig ns key value op => rw [hledger rfl, Call.edit, Ledger.text_create]; rfl
  | updateConfig ns key value op draft => rw [hledger rfl, Call.edit, Ledger.text_update]; rfl
  | deleteConfig ns key op draft => rw [hledger rfl, Call.edit, Ledger.text_delete]; rfl
  | rollbackConfig ns key target op =>
    rw [hledger rfl, Call.edit]
    change _ = { db.text with
      tables := match db.ledger.version? ns key target with
        | none => db.ledger.text
        | some v => db.ledger.text.updateConfig ns key v.value op true ts }
    cases db.ledger.version? ns key target with
    | none => rfl
    | some v => rw [Ledger.text_update]
  | publishRelease ns note op =>
    rw [hledger rfl, textStep, Call.edit]
    cases hs : db.snapshot with
    | some t => simp [Database.text, hs, Ledger.apply]
    | none => simp [Database.text, hs, Ledger.text_publish]
  | beginTransaction =>
    rw [step_beginTransaction]
    obtain ⟨t, snapshot⟩ := db
    cases snapshot <;> rfl
  | commitTransaction =>
    rw [step_commitTransaction]
    rfl
  | rollbackTransaction =>
    rw [step_rollbackTransaction]
    obtain ⟨t, snapshot⟩ := db
    cases snapshot <;> rfl
  | _ => exact hledger rfl

/-! ### The readers agree -/

/-- The connection to a new database. -/
def TextDatabase.empty : TextDatabase := { tables := ⟨[], []⟩, snapshot := none }

/-- What the readers rely on: no key is stored twice, and a status is one of two texts. -/
structure TextTables.Sound (t : TextTables) : Prop where
  keys : (t.configs.map fun c ↦ (c.namespaceId, c.key)).Nodup
  statuses : ∀ c ∈ t.configs, c.status = "draft" ∨ c.status = "live"

/-- The readers agree on a namespace: a listing shows each key once and what `getConfig` returns,
the full listing is the published rows and the drafts, and both backends keep the same rows. -/
structure TextTables.ReadsAgree (t : TextTables) (namespaceId : String) : Prop where
  once : ∀ b, ((t.listConfigs namespaceId b).map ConfigRow.key).Nodup
  lookup : ∀ b key c,
    t.getConfig namespaceId key b = some c ↔ c ∈ t.listConfigs namespaceId b ∧ c.key = key
  union : (t.listConfigs namespaceId true).Perm
    (t.listConfigs namespaceId false ++ t.getDraftChanges namespaceId)
  disjoint : ∀ c ∈ t.listConfigs namespaceId false, c ∉ t.getDraftChanges namespaceId
  filters : t.listConfigs namespaceId false = t.mysqlListConfigs namespaceId false

/-- The text of a ledger is sound. -/
theorem Ledger.sound_text (l : Ledger) : l.text.Sound where
  keys := by
    rw [text, List.map_map]
    exact l.configs.distinct
  statuses := by
    intro c hc
    obtain ⟨row, _, rfl⟩ := List.mem_map.mp hc
    rw [ConfigKey.text]
    cases row.status with
    | draft => exact .inl rfl
    | live => exact .inr rfl

/-- No run of the store stores a key twice or another status. -/
theorem sound_run (es : List Event) : (run textStep .empty es).tables.Sound := by
  have hrun : run textStep Database.empty.text es = (run step .empty es).text :=
    List.foldl_hom Database.text fun db e ↦ (text_step db e).symm
  change (run textStep Database.empty.text es).tables.Sound
  rw [hrun]
  exact Ledger.sound_text _

namespace TextTables

variable {t : TextTables} {namespaceId : String}

private theorem mem_listConfigs {b : Bool} {c : ConfigRow} :
    c ∈ t.listConfigs namespaceId b ↔
      c ∈ t.configs ∧ c.namespaceId = namespaceId ∧ (b = true ∨ c.status ≠ "draft") := by
  cases b with
  | true => simp [listConfigs]
  | false => simp [listConfigs, and_comm]

private theorem nodup_listConfigs (h : t.Sound) (b : Bool) :
    ((t.listConfigs namespaceId b).map ConfigRow.key).Nodup := by
  have hsub : (t.listConfigs namespaceId b).Sublist t.configs := by
    cases b with
    | true => exact List.filter_sublist
    | false => exact List.filter_sublist.trans List.filter_sublist
  refine List.Nodup.of_map (fun key ↦ (namespaceId, key)) ?_
  have hpairs : ((t.listConfigs namespaceId b).map ConfigRow.key).map (fun key ↦ (namespaceId, key))
      = (t.listConfigs namespaceId b).map fun c ↦ (c.namespaceId, c.key) := by
    rw [List.map_map]
    apply List.map_congr_left
    intro c hc
    rw [Function.comp_apply, (mem_listConfigs.mp hc).2.1]
  rw [hpairs]
  exact h.keys.sublist (hsub.map _)

private theorem getConfig_eq (b : Bool) (key : String) :
    t.getConfig namespaceId key b =
      (t.configs.filter (atKey namespaceId key)).head?.filter
        (fun c ↦ b || !(c.status = "draft")) := by
  unfold getConfig
  cases t.configs.filter (atKey namespaceId key) with
  | nil => rfl
  | cons config rest =>
    rw [List.head?_cons, Option.filter_some]
    by_cases hdraft : config.status = "draft" <;> cases b <;> simp [hdraft]

private theorem head?_atKey_iff (h : t.Sound) (key : String) (c : ConfigRow) :
    (t.configs.filter (atKey namespaceId key)).head? = some c ↔
      c ∈ t.configs ∧ c.namespaceId = namespaceId ∧ c.key = key := by
  let table : KeyedTable fun c : ConfigRow ↦ (c.namespaceId, c.key) := ⟨t.configs, h.keys⟩
  have hfilter : t.configs.filter (atKey namespaceId key) =
      (table.find? (namespaceId, key)).toList := by
    rw [← KeyedTable.filter_key]
    apply List.filter_congr
    intro c _
    simp [atKey, Prod.ext_iff]
  rw [hfilter, Option.head?_toList, KeyedTable.find?_eq_some_iff, Prod.mk.injEq]

private theorem getConfig_iff (h : t.Sound) (b : Bool) (key : String) (c : ConfigRow) :
    t.getConfig namespaceId key b = some c ↔
      c ∈ t.listConfigs namespaceId b ∧ c.key = key := by
  rw [getConfig_eq, Option.filter_eq_some_iff, head?_atKey_iff h, mem_listConfigs]
  simp only [Bool.or_eq_true, Bool.not_eq_true', decide_eq_false_iff_not]
  tauto

/-- On a sound text the read paths agree. -/
theorem Sound.readsAgree (h : t.Sound) (namespaceId : String) : t.ReadsAgree namespaceId where
  once := nodup_listConfigs h
  lookup := getConfig_iff h
  union := by
    refine (List.filter_append_perm (fun c ↦ c.status = "draft") _).symm.trans ?_
    exact List.perm_append_comm
  disjoint := by
    intro c hc hdraft
    have hstatus : c.status = "draft" := by simpa using (List.mem_filter.mp hdraft).2
    exact absurd hstatus (by simpa using (mem_listConfigs.mp hc).2.2)
  filters := by
    rw [listConfigs, if_neg (by decide), List.filter_filter, mysqlListConfigs]
    apply List.filter_congr
    intro c hc
    rcases h.statuses c hc with hs | hs <;> simp [hs]

end TextTables

/-- In every state that a run of the store reaches the read paths agree on every namespace. -/
theorem readsAgree_run (es : List Event) (namespaceId : String) :
    (run textStep .empty es).tables.ReadsAgree namespaceId :=
  (sound_run es).readsAgree namespaceId

end ConfigCenter.Storage
