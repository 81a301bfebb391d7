import ConfigCenter.Base.KeyedSteps
import ConfigCenter.Storage.Backends
import ConfigCenter.Publish.PublishEngine

/-!
# The order of draft edits

Library `Publish`. `PublishEngine::addDraftChange` for several keys of one namespace.
What an edit does to its key depends on the key's row alone, so edits of different
keys lead to the same rows and versions and give the same answers in any order,
timestamps aside, and a publication after them shows the same configurations.
-/

namespace ConfigCenter.Publish
open ConfigCenter.Storage ConfigCenter.Base StorageM

/-- The arguments of `addDraftChange` inside one namespace. -/
structure DraftEdit where
  key : String
  value : String
  operatorId : String
  deriving DecidableEq, Repr

/-- The database after one draft edit. -/
def addStep (namespaceId : String) (db : Database) (e : Timestamp × DraftEdit) : Database :=
  (PublishEngine.addDraftChange namespaceId e.2.key e.2.value e.2.operatorId e.1 noFaults db).2

/-- What one draft edit returns, with its key. -/
def addAnswer (namespaceId : String) (db : Database) (e : Timestamp × DraftEdit) :
    String × Except Thrown Bool :=
  (e.2.key,
    (PublishEngine.addDraftChange namespaceId e.2.key e.2.value e.2.operatorId e.1 noFaults db).1)

/-! ### One edit, seen at one key -/

/-- Row and versions of a key, timestamps aside. -/
def keyView (namespaceId : String) (db : Database) (key : String) :
    Option ConfigKey × List ConfigVersion :=
  ((db.ledger.row? namespaceId key).map ConfigKey.aside,
    (db.ledger.versionsOf namespaceId key).map ConfigVersion.aside)

/-- What an edit makes of the view of its key: a free key is created, a published row becomes
a draft of the new value, a draft stays. -/
def DraftEdit.change (namespaceId : String) (d : DraftEdit)
    (v : Option ConfigKey × List ConfigVersion) : Option ConfigKey × List ConfigVersion :=
  match v.1 with
  | none =>
    (some (Ledger.createdRow namespaceId d.key d.value ""),
      v.2 ++ [Ledger.versionRow namespaceId d.key d.value d.operatorId 1 .create ""])
  | some c =>
    if c.status = .live then
      (some (Ledger.rewrittenRow c d.value true ""),
        v.2 ++
          [Ledger.versionRow namespaceId d.key d.value d.operatorId (c.version + 1) .update ""])
    else v

/-- The answer to an edit: only a draft in the way makes it fail. -/
def DraftEdit.reply (d : DraftEdit) (v : Option ConfigKey × List ConfigVersion) :
    String × Except Thrown Bool :=
  (d.key, .ok (v.1.all fun c ↦ c.status = .live))

private theorem makeConfigId_injective (namespaceId : String) {key key' : String}
    (h : makeConfigId namespaceId key = makeConfigId namespaceId key') : key = key' :=
  (String.append_right_inj (namespaceId ++ ":")).mp h

section OneEdit

variable {namespaceId : String} {db : Database} {ts : Timestamp} {d : DraftEdit}

private theorem addStep_ledger :
    (addStep namespaceId db (ts, d)).ledger =
      db.ledger.apply (db.ledger.setEdit namespaceId d.key d.value d.operatorId ts) := by
  obtain ⟨b, hb⟩ := PublishEngine.addDraftChange_run namespaceId d.key d.value d.operatorId ts db
  rw [addStep, hb]
  rfl

private theorem addStep_snapshot :
    (addStep namespaceId db (ts, d)).snapshot = db.snapshot := by
  obtain ⟨b, hb⟩ := PublishEngine.addDraftChange_run namespaceId d.key d.value d.operatorId ts db
  rw [addStep, hb]
  rfl

private theorem setEdit_of_not_live
    (h : ∀ c, db.ledger.row? namespaceId d.key = some c → c.status = .draft) :
    db.ledger.setEdit namespaceId d.key d.value d.operatorId ts =
      .create namespaceId d.key d.value d.operatorId ts := by
  unfold Ledger.setEdit Ledger.config?
  cases hr : db.ledger.row? namespaceId d.key with
  | none => rfl
  | some c => simp [Option.filter, h c hr]

private theorem setEdit_of_live {c : ConfigKey}
    (h : db.ledger.row? namespaceId d.key = some c) (hs : c.status = .live) :
    db.ledger.setEdit namespaceId d.key d.value d.operatorId ts =
      .update namespaceId d.key d.value d.operatorId true ts := by
  simp [Ledger.setEdit, Ledger.config?, h, Option.filter, hs]

private theorem pair?_setEdit (l : Ledger) :
    (l.setEdit namespaceId d.key d.value d.operatorId ts).pair? = some (namespaceId, d.key) := by
  unfold Ledger.setEdit
  split
  · rfl
  · rfl

private theorem row?_addStep_of_ne {n k : String} (h : ¬ (namespaceId = n ∧ d.key = k)) :
    (addStep namespaceId db (ts, d)).ledger.row? n k = db.ledger.row? n k := by
  rw [addStep_ledger]
  unfold Ledger.setEdit
  split
  · rw [Ledger.row?_update, if_neg h]
  · rw [Ledger.row?_create, if_neg h]

/-- An edit of one key changes the view of that key and of no other. -/
theorem keyView_addStep (namespaceId : String) (db : Database) (e : Timestamp × DraftEdit)
    (key : String) :
    keyView namespaceId (addStep namespaceId db e) key =
      if e.2.key = key then e.2.change namespaceId (keyView namespaceId db key)
      else keyView namespaceId db key := by
  obtain ⟨ts, d⟩ := e
  unfold keyView
  by_cases hk : d.key = key
  · subst hk
    rw [if_pos rfl, addStep_ledger]
    cases hr : db.ledger.row? namespaceId d.key with
    | none =>
      rw [setEdit_of_not_live (by simp [hr]), Ledger.row?_create_self hr,
        Ledger.versionsOf_create hr, if_pos rfl, List.map_append]
      rfl
    | some c =>
      cases hs : c.status with
      | live =>
        rw [setEdit_of_live hr hs, Ledger.row?_update_self hr, Ledger.versionsOf_update hr,
          if_pos rfl, List.map_append]
        simp only [DraftEdit.change, Option.map_some, ConfigKey.aside, hs, if_true]
        rfl
      | draft =>
        rw [setEdit_of_not_live (by simp [hr, hs]), Ledger.apply_create_of_some hr, hr]
        simp [DraftEdit.change, ConfigKey.aside, hs]
  · rw [if_neg hk, row?_addStep_of_ne (fun h ↦ hk h.2), addStep_ledger,
      Ledger.versionsOf_apply_of_ne]
    intro p hp
    cases (pair?_setEdit db.ledger).symm.trans hp
    exact fun he ↦ hk (makeConfigId_injective namespaceId he)

/-- An edit is answered as the view of its key says. -/
theorem addAnswer_eq (namespaceId : String) (db : Database) (e : Timestamp × DraftEdit) :
    addAnswer namespaceId db e = e.2.reply (keyView namespaceId db e.2.key) := by
  obtain ⟨ts, d⟩ := e
  unfold addAnswer DraftEdit.reply keyView PublishEngine.addDraftChange
  rw [bind_run, getConfig_run, Ledger.config?]
  cases hr : db.ledger.row? namespaceId d.key with
  | none => simp [createConfig_run, hr]
  | some c =>
    cases hs : c.status with
    | live => simp [updateConfig_run, hr, hs, ConfigKey.aside]
    | draft => simp [createConfig_run, hr, hs, ConfigKey.aside]

end OneEdit

/-! ### Rows and listings -/

/-- Tables with the same rows at every key, timestamps aside, hold the same rows. -/
theorem rows_perm_of_row? {l l' : Ledger}
    (h : ∀ n k, (l.row? n k).map ConfigKey.aside = (l'.row? n k).map ConfigKey.aside) :
    (l.configs.rows.map ConfigKey.aside).Perm (l'.configs.rows.map ConfigKey.aside) := by
  have hnodup (l : Ledger) : (l.configs.rows.map ConfigKey.aside).Nodup := by
    refine List.Nodup.of_map ConfigKey.primaryKey ?_
    rw [List.map_map]
    exact l.configs.distinct
  have hsub {l l' : Ledger}
      (h : ∀ n k, (l.row? n k).map ConfigKey.aside = (l'.row? n k).map ConfigKey.aside)
      {a : ConfigKey} (ha : a ∈ l.configs.rows.map ConfigKey.aside) :
      a ∈ l'.configs.rows.map ConfigKey.aside := by
    obtain ⟨c, hc, rfl⟩ := List.mem_map.mp ha
    have hrow := h c.namespaceId c.key
    rw [Ledger.row?_of_mem hc, Option.map_some, eq_comm, Option.map_eq_some_iff] at hrow
    obtain ⟨c', hc', haside⟩ := hrow
    exact List.mem_map.mpr ⟨c', ((KeyedTable.find?_eq_some_iff _ _ _).mp hc').1, haside⟩
  rw [List.perm_ext_iff_of_nodup (hnodup l) (hnodup l')]
  exact fun a ↦ ⟨hsub h, hsub fun n k ↦ (h n k).symm⟩

/-- The published rows of a namespace, timestamps aside, are read off the rows at each key. -/
theorem listConfigs_perm_of_row? {db db' : Database}
    (h : ∀ n k, (db.ledger.row? n k).map ConfigKey.aside =
      (db'.ledger.row? n k).map ConfigKey.aside) (namespaceId : String) :
    ∃ cs cs', SqliteConfigStore.listConfigs namespaceId false noFaults db = (.ok cs, db) ∧
      SqliteConfigStore.listConfigs namespaceId false noFaults db' = (.ok cs', db') ∧
      (cs.map ConfigKey.aside).Perm (cs'.map ConfigKey.aside) := by
  refine ⟨_, _, listConfigs_run namespaceId db false, listConfigs_run namespaceId db' false, ?_⟩
  have hf := (rows_perm_of_row? h).filter
    (fun c ↦ c.namespaceId = namespaceId ∧ (false || c.status = .live))
  rw [List.filter_map, List.filter_map] at hf
  exact hf

private theorem publishRelease_ledger (namespaceId note operatorId : String) (ts : Timestamp)
    (db : Database) :
    (SqliteConfigStore.publishRelease namespaceId note operatorId ts noFaults db).2.ledger =
      db.ledger.apply (if db.snapshot.isSome then .none else .publish namespaceId) := by
  cases hs : db.snapshot with
  | none =>
    rw [publishRelease_run namespaceId note operatorId ts noFaults db hs]
    rfl
  | some t =>
    rw [publishRelease_run_open namespaceId note operatorId ts db (by rw [hs]; rfl)]
    rfl

private theorem row?_publishRelease {db db' : Database} (hs : db.snapshot = db'.snapshot)
    (h : ∀ n k, (db.ledger.row? n k).map ConfigKey.aside =
      (db'.ledger.row? n k).map ConfigKey.aside)
    (namespaceId note operatorId : String) (ts ts' : Timestamp) (n k : String) :
    let published := (SqliteConfigStore.publishRelease namespaceId note operatorId ts noFaults db).2
    let published' :=
      (SqliteConfigStore.publishRelease namespaceId note operatorId ts' noFaults db').2
    (published.ledger.row? n k).map ConfigKey.aside =
      (published'.ledger.row? n k).map ConfigKey.aside := by
  intro published published'
  rw [publishRelease_ledger, publishRelease_ledger, hs]
  split
  · exact h n k
  · have hlive (c : ConfigKey) :
        ConfigKey.aside (if namespaceId = n then c.withStatus .live else c) =
          if namespaceId = n then c.aside.withStatus .live else c.aside := by
      split
      · rfl
      · rfl
    have hmap := congrArg
      (Option.map fun c ↦ if namespaceId = n then c.withStatus .live else c) (h n k)
    simp only [Option.map_map, Function.comp_def] at hmap
    simp only [Ledger.row?_publish, Option.map_map, Function.comp_def, hlive]
    exact hmap

private theorem map_aside_orderByDesc (vs : List ConfigVersion) :
    (orderByDesc ConfigVersion.version vs).map ConfigVersion.aside =
      orderByDesc ConfigVersion.version (vs.map ConfigVersion.aside) :=
  List.map_insertionSort _ _ _ _ fun _ _ _ _ ↦ Iff.rfl

private theorem getConfigVersions_of_view {db db' : Database} {namespaceId key : String}
    (h : keyView namespaceId db key = keyView namespaceId db' key) :
    ∃ vs vs',
      SqliteConfigStore.getConfigVersions namespaceId key noFaults db = (.ok vs, db) ∧
      SqliteConfigStore.getConfigVersions namespaceId key noFaults db' = (.ok vs', db') ∧
      vs.map ConfigVersion.aside = vs'.map ConfigVersion.aside := by
  refine ⟨_, _, getConfigVersions_run namespaceId key db,
    getConfigVersions_run namespaceId key db', ?_⟩
  rw [map_aside_orderByDesc, map_aside_orderByDesc]
  exact congrArg (orderByDesc ConfigVersion.version) (congrArg Prod.snd h)

/-! ### Runs of edits -/

private theorem draftRun_frame (namespaceId : String) (db : Database)
    (es : List (Timestamp × DraftEdit)) :
    (run (addStep namespaceId) db es).snapshot = db.snapshot ∧
      ∀ n k, n ≠ namespaceId →
        (run (addStep namespaceId) db es).ledger.row? n k = db.ledger.row? n k := by
  refine run_invariant (I := fun s : Database ↦ s.snapshot = db.snapshot ∧
    ∀ n k, n ≠ namespaceId → s.ledger.row? n k = db.ledger.row? n k)
    ⟨rfl, fun _ _ _ ↦ rfl⟩ ?_ es
  rintro s ⟨ts, d⟩ ⟨hs, hrows⟩
  refine ⟨addStep_snapshot.trans hs, fun n k hn ↦ ?_⟩
  rw [row?_addStep_of_ne (fun h ↦ hn h.1.symm), hrows n k hn]

private theorem row?_draftRun_of_view {namespaceId : String} {db : Database}
    {ds es : List (Timestamp × DraftEdit)}
    (h : ∀ key, keyView namespaceId (run (addStep namespaceId) db ds) key =
      keyView namespaceId (run (addStep namespaceId) db es) key) (n k : String) :
    ((run (addStep namespaceId) db ds).ledger.row? n k).map ConfigKey.aside =
      ((run (addStep namespaceId) db es).ledger.row? n k).map ConfigKey.aside := by
  by_cases hn : n = namespaceId
  · rw [hn]
    exact congrArg Prod.fst (h k)
  · rw [(draftRun_frame namespaceId db ds).2 n k hn, (draftRun_frame namespaceId db es).2 n k hn]

/-- Edits of different keys in two orders: each is answered alike, they leave the same rows and
the same versions of every key, and a publication then shows the same configurations. -/
theorem addDraftChange_order (db : Database) (namespaceId : String)
    {ds es : List (Timestamp × DraftEdit)} (hperm : (ds.map Prod.snd).Perm (es.map Prod.snd))
    (hkeys : ((ds.map Prod.snd).map DraftEdit.key).Nodup) (releaseNote operatorId : String)
    (ts ts' : Timestamp) :
    let db₁ := run (addStep namespaceId) db ds
    let db₂ := run (addStep namespaceId) db es
    let answers₁ := answers (addStep namespaceId) (addAnswer namespaceId) db ds
    let answers₂ := answers (addStep namespaceId) (addAnswer namespaceId) db es
    answers₁.Perm answers₂ ∧ (∀ a ∈ answers₁, ∃ b, a.2 = .ok b) ∧
      (db₁.tables.configs.rows.map ConfigKey.aside).Perm
        (db₂.tables.configs.rows.map ConfigKey.aside) ∧
      (∀ key, ∃ vs vs',
        SqliteConfigStore.getConfigVersions namespaceId key noFaults db₁ = (.ok vs, db₁) ∧
        SqliteConfigStore.getConfigVersions namespaceId key noFaults db₂ = (.ok vs', db₂) ∧
        vs.map ConfigVersion.aside = vs'.map ConfigVersion.aside) ∧
      let published₁ :=
        (SqliteConfigStore.publishRelease namespaceId releaseNote operatorId ts noFaults db₁).2
      let published₂ :=
        (SqliteConfigStore.publishRelease namespaceId releaseNote operatorId ts' noFaults db₂).2
      ∃ cs cs',
        SqliteConfigStore.listConfigs namespaceId false noFaults published₁ =
          (.ok cs, published₁) ∧
        SqliteConfigStore.listConfigs namespaceId false noFaults published₂ =
          (.ok cs', published₂) ∧
        (cs.map ConfigKey.aside).Perm (cs'.map ConfigKey.aside) := by
  intro db₁ db₂ answers₁ answers₂
  have hview : ∀ key, keyView namespaceId db₁ key = keyView namespaceId db₂ key :=
    view_run_of_perm (keyView_addStep namespaceId) hperm hkeys db
  have hrows : ∀ n k, (db₁.ledger.row? n k).map ConfigKey.aside =
      (db₂.ledger.row? n k).map ConfigKey.aside :=
    row?_draftRun_of_view hview
  refine ⟨answers_perm (keyView_addStep namespaceId) (addAnswer_eq namespaceId) hperm hkeys db,
    ?_, rows_perm_of_row? hrows, ?_, ?_⟩
  · intro a ha
    have hanswers : answers₁ = _ :=
      answers_of_nodup (keyView_addStep namespaceId) (addAnswer_eq namespaceId) hkeys db
    rw [hanswers] at ha
    obtain ⟨d, _, rfl⟩ := List.mem_map.mp ha
    exact ⟨_, rfl⟩
  · exact fun key ↦ getConfigVersions_of_view (hview key)
  · have hsnap : db₁.snapshot = db₂.snapshot :=
      (draftRun_frame namespaceId db ds).1.trans (draftRun_frame namespaceId db es).1.symm
    exact listConfigs_perm_of_row?
      (row?_publishRelease hsnap hrows namespaceId releaseNote operatorId ts ts') namespaceId

/-- Two new keys in both orders. -/
theorem addDraftChange_order_two_keys :
    let ds : List (Timestamp × DraftEdit) := [("t1", ⟨"x", "1", "u"⟩), ("t2", ⟨"y", "2", "u"⟩)]
    let es : List (Timestamp × DraftEdit) := [("t3", ⟨"y", "2", "u"⟩), ("t4", ⟨"x", "1", "u"⟩)]
    ((run (addStep "n") .empty ds).tables.configs.rows.map ConfigKey.aside).Perm
      ((run (addStep "n") .empty es).tables.configs.rows.map ConfigKey.aside) := by
  intro ds es
  have hperm : (ds.map Prod.snd).Perm (es.map Prod.snd) := List.Perm.swap _ _ _
  have hkeys : ((ds.map Prod.snd).map DraftEdit.key).Nodup := by decide
  exact (addDraftChange_order .empty "n" hperm hkeys "" "u" "t5" "t6").2.2.1

end ConfigCenter.Publish
