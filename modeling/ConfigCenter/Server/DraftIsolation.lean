import ConfigCenter.Storage.NamespaceManager
import ConfigCenter.Server.HttpSession

/-!
# Draft edits and the published view

Library `Server`. Draft edits of the store, of the publish engine and of the HTTP
handlers, run in any order without a publication between them, against what
readers of published configuration see. A key has one row for its draft and its
published value, so an edit that rewrites a live row takes the published value
away; `sameView_run_iff` says that this is the only way to disturb a reader.
-/

namespace ConfigCenter.Storage
open ConfigCenter.Base

/-- Edits that write drafts only. -/
def Edit.isDraft : Edit → Bool
  | .none | .create .. => true
  | .update _ _ _ _ draft _ | .delete _ _ _ draft _ => draft
  | .publish _ => false

namespace Ledger

/-- Rows that readers of published configuration see, in scan order. -/
def liveRows (l : Ledger) : List ConfigKey :=
  l.configs.rows.filter (fun c ↦ c.status = .live)

/-- The edit rewrites a live row. -/
def overwrites (l : Ledger) : Edit → Prop
  | .update ns key _ _ _ _ => (l.config? ns key false).isSome
  | _ => False

/-- A reader gets the live row of the key, if there is one. -/
theorem config?_false_eq_some_iff (l : Ledger) (ns key : String) (c : ConfigKey) :
    l.config? ns key false = some c ↔ c ∈ l.liveRows ∧ c.primaryKey = (ns, key) := by
  simp only [config?, liveRows, Option.filter_eq_some_iff, row?, KeyedTable.find?_eq_some_iff,
    List.mem_filter, Bool.false_or]
  tauto

/-- What a reader gets is determined by the live rows. -/
theorem config?_of_liveRows {l l' : Ledger} (h : l'.liveRows = l.liveRows) (ns key : String) :
    l'.config? ns key false = l.config? ns key false := by
  apply Option.ext
  intro c
  rw [config?_false_eq_some_iff, config?_false_eq_some_iff, h]

private theorem liveRows_create (l : Ledger) (ns key value op : String) (ts : Timestamp) :
    (l.apply (.create ns key value op ts)).liveRows = l.liveRows := by
  cases hr : l.row? ns key with
  | some c => rw [apply_create_of_some hr]
  | none =>
    obtain ⟨configs, hi, he⟩ := apply_create_of_none hr value op ts
    rw [he]
    unfold liveRows
    rw [KeyedTable.rows_insert? hi, List.filter_append]
    simp [createdRow]

private theorem liveRows_update {l : Ledger} {ns key : String}
    (h : l.config? ns key false = none) (value op : String) (ts : Timestamp) :
    (l.apply (.update ns key value op true ts)).liveRows = l.liveRows := by
  cases hr : l.row? ns key with
  | none => rw [apply_update_of_none hr]
  | some old =>
    have hk : (rewrittenRow old value true ts).primaryKey = (ns, key) :=
      Prod.ext (row?_key hr).1 (row?_key hr).2
    rw [apply_update_of_some hr]
    apply KeyedTable.filter_replace
    · rfl
    · intro c hc hck
      -- a live row under this key would have been read
      by_contra hl
      have hm : c ∈ l.liveRows := List.mem_filter.mpr ⟨hc, by simpa using hl⟩
      rw [(config?_false_eq_some_iff l ns key c).mpr ⟨hm, hck.trans hk⟩] at h
      cases h

private theorem liveRows_delete (l : Ledger) (ns key op : String) (ts : Timestamp) :
    (l.apply (.delete ns key op true ts)).liveRows = l.liveRows := by
  simp only [apply, liveRows, KeyedTable.removeWhere, List.filter_filter]
  apply List.filter_congr
  intro c _
  cases hs : c.status <;> simp [removes, hs]

/-- A draft edit leaves the live rows as they are unless it rewrites one. -/
theorem liveRows_apply {l : Ledger} {e : Edit} (hd : e.isDraft) (ho : ¬ l.overwrites e) :
    (l.apply e).liveRows = l.liveRows := by
  cases e with
  | none => rfl
  | create ns key value op ts => exact liveRows_create l ns key value op ts
  | update ns key value op draft ts =>
    cases hd
    exact liveRows_update (by simpa [overwrites] using ho) value op ts
  | delete ns key op draft ts =>
    cases hd
    exact liveRows_delete l ns key op ts
  | publish ns => cases hd

/-- A draft edit that rewrites a live row hides it from readers. -/
theorem config?_update_draft (l : Ledger) (ns key value op : String) (ts : Timestamp)
    (n k : String) :
    (l.apply (.update ns key value op true ts)).config? n k false =
      if ns = n ∧ key = k then none else l.config? n k false := by
  unfold config?
  rw [row?_update]
  split
  · cases l.row? n k <;> simp [rewrittenRow, Option.filter]
  · rfl

/-- No draft edit shows a reader anything new. -/
theorem config?_of_draft {l : Ledger} {e : Edit} (hd : e.isDraft) {n k : String} {c : ConfigKey}
    (h : (l.apply e).config? n k false = some c) : l.config? n k false = some c := by
  by_cases ho : l.overwrites e
  · cases e with
    | update ns key value op draft ts =>
      cases hd
      rw [config?_update_draft] at h
      split at h
      · cases h
      · exact h
    | none | create ns key value op ts | delete ns key op draft ts | publish ns => cases ho
  · rw [← config?_of_liveRows (liveRows_apply hd ho)]
    exact h

/-- A draft edit is invisible to every reader exactly when it rewrites no live row. -/
theorem config?_draft_iff {l : Ledger} {e : Edit} (hd : e.isDraft) :
    (∀ n k, (l.apply e).config? n k false = l.config? n k false) ↔ ¬ l.overwrites e := by
  constructor
  · intro h ho
    cases e with
    | update ns key value op draft ts =>
      cases hd
      have hk := h ns key
      rw [config?_update_draft, if_pos ⟨rfl, rfl⟩] at hk
      simp [overwrites, ← hk] at ho
    | none | create ns key value op ts | delete ns key op draft ts | publish ns => cases ho
  · intro ho n k
    exact config?_of_liveRows (liveRows_apply hd ho) n k

end Ledger
end ConfigCenter.Storage

namespace ConfigCenter.Server
open ConfigCenter.Storage ConfigCenter.Base StorageM

/-- Draft edits of the store, the publish engine and the HTTP session. -/
inductive DraftEdit where
  | createConfig (namespaceId key value operatorId : String)
  | updateConfig (namespaceId key value operatorId : String)
  | rollbackConfig (namespaceId key : String) (targetVersion : Int32) (operatorId : String)
  | deleteConfig (namespaceId key operatorId : String)
  | addDraftChange (namespaceId key value operatorId : String)
  | removeDraftChange (namespaceId key operatorId : String)
  | handleSetConfig (body ns key : String)
  | handleDeleteConfig (ns key : String)
  deriving DecidableEq, Repr

namespace DraftEdit

variable (parse : Parse)

/-- Run the method that a draft edit names, at one clock reading. -/
def exec (ts : Timestamp) : DraftEdit → StorageM Unit
  | .createConfig ns key value op => discard (SqliteConfigStore.createConfig ns key value op ts)
  | .updateConfig ns key value op =>
    discard (SqliteConfigStore.updateConfig ns key value op true ts)
  | .rollbackConfig ns key target op =>
    discard (SqliteConfigStore.rollbackConfig ns key target op ts)
  | .deleteConfig ns key op => discard (SqliteConfigStore.deleteConfig ns key op true ts)
  | .addDraftChange ns key value op =>
    discard (Publish.PublishEngine.addDraftChange ns key value op ts)
  | .removeDraftChange ns key op =>
    discard (Publish.PublishEngine.removeDraftChange ns key op ts)
  | .handleSetConfig body ns key => discard (HttpSession.handleSetConfig parse body ns key ts)
  | .handleDeleteConfig ns key => discard (HttpSession.handleDeleteConfig ns key ts)

/-- The database after one draft edit. -/
def step (db : Database) (e : Timestamp × DraftEdit) : Database :=
  (e.2.exec parse e.1 noFaults db).2

/-- The edit rewrites the live row of its key: an update, a set request with a value,
or a rollback to a version that exists, on a key with a published value. -/
def overwritesLive (db : Database) : DraftEdit → Prop
  | .updateConfig ns key _ _ | .addDraftChange ns key _ _ =>
    (db.ledger.config? ns key false).isSome
  | .rollbackConfig ns key target _ =>
    (db.ledger.version? ns key target).isSome ∧ (db.ledger.config? ns key false).isSome
  | .handleSetConfig body ns key =>
    (HttpSession.requestedValue parse body).isSome ∧ (db.ledger.config? ns key false).isSome
  | .createConfig .. | .deleteConfig .. | .removeDraftChange .. | .handleDeleteConfig .. => False

/-- The ledger edit that a draft edit amounts to in the state it finds. -/
def edit (db : Database) (ts : Timestamp) : DraftEdit → Edit
  | .createConfig ns key value op => .create ns key value op ts
  | .updateConfig ns key value op => .update ns key value op true ts
  | .rollbackConfig ns key target op =>
    match db.ledger.version? ns key target with
    | none => .none
    | some v => .update ns key v.value op true ts
  | .deleteConfig ns key op | .removeDraftChange ns key op => .delete ns key op true ts
  | .addDraftChange ns key value op => db.ledger.setEdit ns key value op ts
  | .handleSetConfig body ns key =>
    match HttpSession.requestedValue parse body with
    | none => .none
    | some value => db.ledger.setEdit ns key value "system" ts
  | .handleDeleteConfig ns key => .delete ns key "system" true ts

private theorem discard_run {α : Type} (x : StorageM α) (db : Database) :
    (discard x noFaults db).2 = (x noFaults db).2 := by
  change (((fun _ ↦ ()) <$> x : StorageM Unit) noFaults db).2 = _
  rw [map_run]
  split <;> next h => rw [h]

/-- A draft edit acts on the ledger as its edit and touches no other table. -/
theorem step_eq (db : Database) (ts : Timestamp) (e : DraftEdit) :
    step parse db (ts, e) = db.withLedger (db.ledger.apply (e.edit parse db ts)) := by
  cases e with
  | createConfig ns key value op =>
    simp only [step, exec, discard_run, createConfig_run, edit]
  | updateConfig ns key value op =>
    simp only [step, exec, discard_run, updateConfig_run, edit]
  | rollbackConfig ns key target op =>
    simp only [step, exec, discard_run, rollbackConfig_run, edit]
    cases db.ledger.version? ns key target with
    | none => rfl
    | some v => simp only [updateConfig_run]
  | deleteConfig ns key op => simp only [step, exec, discard_run, deleteConfig_run, edit]
  | removeDraftChange ns key op =>
    simp only [step, exec, discard_run, Publish.PublishEngine.removeDraftChange,
      deleteConfig_run, edit]
  | addDraftChange ns key value op =>
    obtain ⟨b, hb⟩ := Publish.PublishEngine.addDraftChange_run ns key value op ts db
    simp only [step, exec, discard_run, hb, edit]
  | handleSetConfig body ns key =>
    simp only [step, exec, discard_run, HttpSession.handleSetConfig_run, edit]
    cases HttpSession.requestedValue parse body <;> rfl
  | handleDeleteConfig ns key =>
    simp only [step, exec, discard_run, HttpSession.handleDeleteConfig_run, edit]

private theorem setEdit_isDraft (l : Ledger) (ns key value op : String) (ts : Timestamp) :
    (l.setEdit ns key value op ts).isDraft := by
  unfold Ledger.setEdit
  split <;> rfl

private theorem overwrites_setEdit (l : Ledger) (ns key value op : String) (ts : Timestamp) :
    l.overwrites (l.setEdit ns key value op ts) ↔ (l.config? ns key false).isSome := by
  unfold Ledger.setEdit
  split
  · next h => simp [Ledger.overwrites, h]
  · next h => simp [Ledger.overwrites, h]

/-- Draft edits write drafts only. -/
theorem edit_isDraft (db : Database) (ts : Timestamp) (e : DraftEdit) :
    (e.edit parse db ts).isDraft := by
  cases e with
  | rollbackConfig ns key target op =>
    simp only [edit]
    cases db.ledger.version? ns key target <;> rfl
  | addDraftChange ns key value op => exact setEdit_isDraft ..
  | handleSetConfig body ns key =>
    simp only [edit]
    cases HttpSession.requestedValue parse body with
    | none => rfl
    | some value => exact setEdit_isDraft ..
  | createConfig _ _ _ _ | updateConfig _ _ _ _ | deleteConfig _ _ _
  | removeDraftChange _ _ _ | handleDeleteConfig _ _ => rfl

/-- The condition on draft edits is the one on the ledger edits they amount to. -/
theorem overwritesLive_iff (db : Database) (ts : Timestamp) (e : DraftEdit) :
    e.overwritesLive parse db ↔ db.ledger.overwrites (e.edit parse db ts) := by
  cases e with
  | rollbackConfig ns key target op =>
    simp only [overwritesLive, edit]
    cases db.ledger.version? ns key target <;> simp [Ledger.overwrites]
  | addDraftChange ns key value op =>
    exact (overwrites_setEdit db.ledger ns key value op ts).symm
  | handleSetConfig body ns key =>
    simp only [overwritesLive, edit]
    cases HttpSession.requestedValue parse body with
    | none => simp [Ledger.overwrites]
    | some value => simp [overwrites_setEdit]
  | createConfig _ _ _ _ | updateConfig _ _ _ _ | deleteConfig _ _ _
  | removeDraftChange _ _ _ | handleDeleteConfig _ _ => rfl

end DraftEdit

/-- Readers of published configuration get the same answers from two databases. -/
structure SameView (db db' : Database) : Prop where
  getConfig : ∀ n k, (SqliteConfigStore.getConfig n k false noFaults db').1 =
    (SqliteConfigStore.getConfig n k false noFaults db).1
  listConfigs : ∀ n, (SqliteConfigStore.listConfigs n false noFaults db').1 =
    (SqliteConfigStore.listConfigs n false noFaults db).1
  resolveConfig : ∀ fuel n k, (NamespaceManager.resolveConfig fuel n k noFaults db').1 =
    (NamespaceManager.resolveConfig fuel n k noFaults db).1

private theorem listConfigs_live (db : Database) (n : String) :
    (SqliteConfigStore.listConfigs n false noFaults db).1 =
      .ok (db.ledger.liveRows.filter (fun c ↦ c.namespaceId = n)) := by
  simp [listConfigs_run, Ledger.liveRows, List.filter_filter]

/-- Equal live rows and namespaces give equal views. -/
theorem sameView_of_liveRows {db db' : Database} (hl : db'.ledger.liveRows = db.ledger.liveRows)
    (hn : db'.tables.namespaces = db.tables.namespaces) : SameView db db' where
  getConfig n k := by
    rw [getConfig_run, getConfig_run, Ledger.config?_of_liveRows hl]
  listConfigs n := by
    rw [listConfigs_live, listConfigs_live, hl]
  resolveConfig fuel n k :=
    NamespaceManager.resolveConfig_congr (Ledger.config?_of_liveRows hl) hn fuel n k

-- The final reader gets nothing that an earlier one did not, so a row that is there in
-- the end was there all along and no step can have rewritten it.
private theorem config?_of_run (parse : Parse) (db : Database)
    (edits : List (Timestamp × DraftEdit)) {n k : String} {c : ConfigKey}
    (h : (run (DraftEdit.step parse) db edits).ledger.config? n k false = some c) :
    db.ledger.config? n k false = some c := by
  induction edits generalizing db with
  | nil => exact h
  | cons e edits ih =>
    have hs := ih (DraftEdit.step parse db e) h
    rw [DraftEdit.step_eq] at hs
    exact Ledger.config?_of_draft (DraftEdit.edit_isDraft parse db e.1 e.2) hs

private theorem along_of_sameConfig (parse : Parse) (db : Database)
    (edits : List (Timestamp × DraftEdit))
    (h : ∀ n k, (run (DraftEdit.step parse) db edits).ledger.config? n k false =
      db.ledger.config? n k false) :
    Along (DraftEdit.step parse) (fun db e ↦ ¬ e.2.overwritesLive parse db) db edits := by
  induction edits generalizing db with
  | nil => exact True.intro
  | cons e edits ih =>
    obtain ⟨ts, e⟩ := e
    have hd := DraftEdit.edit_isDraft parse db ts e
    have hstep : ∀ n k, (DraftEdit.step parse db (ts, e)).ledger.config? n k false =
        db.ledger.config? n k false := by
      intro n k
      cases hf : db.ledger.config? n k false with
      | some c =>
        rw [← h n k] at hf
        exact config?_of_run parse _ edits hf
      | none =>
        cases hs : (DraftEdit.step parse db (ts, e)).ledger.config? n k false with
        | none => rfl
        | some c =>
          rw [DraftEdit.step_eq] at hs
          rw [Ledger.config?_of_draft hd hs] at hf
          cases hf
    refine ⟨?_, ih _ fun n k ↦ (h n k).trans (hstep n k).symm⟩
    change ¬ e.overwritesLive parse db
    rw [DraftEdit.overwritesLive_iff parse db ts, ← Ledger.config?_draft_iff hd]
    intro n k
    simpa [DraftEdit.step_eq] using hstep n k

/-- Draft edits leave the published view as it was exactly when none of them rewrites a
live row. -/
theorem sameView_run_iff (parse : Parse) (db : Database)
    (edits : List (Timestamp × DraftEdit)) :
    SameView db (run (DraftEdit.step parse) db edits) ↔
      Along (DraftEdit.step parse) (fun db e ↦ ¬ e.2.overwritesLive parse db) db edits := by
  constructor
  · intro hv
    have hc : ∀ n k, (run (DraftEdit.step parse) db edits).ledger.config? n k false =
        db.ledger.config? n k false := by
      intro n k
      simpa [getConfig_run] using hv.getConfig n k
    exact along_of_sameConfig parse db edits hc
  · intro ha
    have hi := run_invariant_along (I := fun d ↦ d.ledger.liveRows = db.ledger.liveRows ∧
      d.tables.namespaces = db.tables.namespaces) ⟨rfl, rfl⟩ ?_ ha
    · exact sameView_of_liveRows hi.1 hi.2
    · rintro d ⟨ts, e⟩ ⟨hl, hn⟩ ho
      rw [DraftEdit.overwritesLive_iff parse d ts] at ho
      rw [DraftEdit.step_eq]
      exact ⟨(Ledger.liveRows_apply (DraftEdit.edit_isDraft parse d ts e) ho).trans hl, hn⟩

/-- A published value is gone from the view as soon as a draft is written over it. -/
theorem not_sameView_updateConfig :
    ¬ ∀ (parse : Parse) (db : Database) (edits : List (Timestamp × DraftEdit)),
      Reachable Storage.step Database.empty db →
        SameView db (run (DraftEdit.step parse) db edits) := by
  intro h
  have hv := h (fun _ ↦ none) (run Storage.step Database.empty
    [("t1", .createConfig "ns" "timeout" "30" "alice"), ("t2", .publishRelease "ns" "" "alice")])
    [("t3", .updateConfig "ns" "timeout" "60" "alice")] ⟨_, rfl⟩
  exact absurd (hv.getConfig "ns" "timeout") (by decide)

end ConfigCenter.Server
