import ConfigCenter.Base.Run
import ConfigCenter.Publish.PublishEngine

/-!
# Discarding a draft

Library `Publish`. A key has one row, so the first draft edit of a published key
overwrites the published value and hides it; discarding the draft then deletes
the row. No sequence of edits and a discard leads back to the published value.
-/

namespace ConfigCenter.Publish
open ConfigCenter.Storage ConfigCenter.Base StorageM

/-- One draft edit of a key: its time, value and operator. -/
structure DraftChange where
  ts : Timestamp
  value : String
  operatorId : String

/-- The answer of a draft edit of a key, without storage failures. -/
def draftAnswer (ns key : String) (db : Database) (e : DraftChange) : Except Thrown Bool :=
  (PublishEngine.addDraftChange ns key e.value e.operatorId e.ts noFaults db).1

/-- The database after a draft edit of a key, without storage failures. -/
def draftStep (ns key : String) (db : Database) (e : DraftChange) : Database :=
  (PublishEngine.addDraftChange ns key e.value e.operatorId e.ts noFaults db).2

/-- Readers get the value, and the key is not listed among the draft changes. -/
structure Restored (ns key value : String) (db : Database) : Prop where
  getConfig : ∃ c, (SqliteConfigStore.getConfig ns key false noFaults db).1 = .ok (some c) ∧
    c.value = value
  getDraftChanges : ∀ drafts, (PublishEngine.getDraftChanges ns noFaults db).1 = .ok drafts →
    ∀ c ∈ drafts, c.key ≠ key

/-- The key has a row, and it is a draft. -/
def HasDraft (ns key : String) (db : Database) : Prop :=
  ∃ c, db.ledger.row? ns key = some c ∧ c.status = .draft

section OneKey

variable {ns key : String} {db : Database}

private theorem ledger_draftStep (e : DraftChange) :
    (draftStep ns key db e).ledger =
      db.ledger.apply (db.ledger.setEdit ns key e.value e.operatorId e.ts) := by
  obtain ⟨answer, hrun⟩ :=
    PublishEngine.addDraftChange_run ns key e.value e.operatorId e.ts db
  rw [draftStep, hrun, ledger_withLedger]

/-- A draft edit turns the row of a published key into a draft. -/
theorem hasDraft_of_published {c : ConfigKey} (h : db.ledger.config? ns key false = some c)
    (e : DraftChange) : HasDraft ns key (draftStep ns key db e) := by
  have hrow := (Option.filter_eq_some_iff.mp h).1
  refine ⟨Ledger.rewrittenRow c e.value true e.ts, ?_, rfl⟩
  rw [ledger_draftStep, Ledger.setEdit, h, Option.isSome_some, if_pos rfl,
    Ledger.row?_update_self hrow]

/-- A draft edit of a draft meets the taken key and changes nothing. -/
theorem hasDraft_step (h : HasDraft ns key db) (e : DraftChange) :
    HasDraft ns key (draftStep ns key db e) := by
  obtain ⟨c, hrow, hstatus⟩ := h
  have hhidden : db.ledger.config? ns key false = none := by
    simp [Ledger.config?, hrow, hstatus]
  refine ⟨c, ?_, hstatus⟩
  rw [ledger_draftStep, Ledger.setEdit, hhidden, Option.isSome_none, if_neg (by decide),
    Ledger.apply_create_of_some hrow, hrow]

/-- Discarding the draft of a key removes its row. -/
theorem row?_removeDraftChange (h : HasDraft ns key db) (op : String) (ts : Timestamp) :
    (PublishEngine.removeDraftChange ns key op ts noFaults db).2.ledger.row? ns key = none := by
  obtain ⟨c, hrow, hstatus⟩ := h
  rw [PublishEngine.removeDraftChange, deleteConfig_run, ledger_withLedger, Ledger.row?_delete,
    if_pos ⟨rfl, rfl⟩, hrow]
  simp [hstatus]

end OneKey

/-- After any draft edits of a published key, discarding the draft does not bring its value
back: the key has no row left. -/
theorem removeDraftChange_not_restored (ns key op : String) (ts : Timestamp) (db : Database)
    (c : ConfigKey) (edits : List DraftChange)
    (hlive : (SqliteConfigStore.getConfig ns key false noFaults db).1 = .ok (some c))
    (hne : edits ≠ []) :
    ¬ Restored ns key c.value
      (PublishEngine.removeDraftChange ns key op ts noFaults
        (run (draftStep ns key) db edits)).2 := by
  rw [getConfig_run] at hlive
  cases edits with
  | nil => exact absurd rfl hne
  | cons e rest =>
    have hfirst := hasDraft_of_published (Except.ok.inj hlive) e
    have hdraft : HasDraft ns key (run (draftStep ns key) db (e :: rest)) :=
      run_invariant hfirst (fun _ e h ↦ hasDraft_step h e) rest
    rintro ⟨⟨found, hfound, _⟩, _⟩
    rw [getConfig_run, Ledger.config?, row?_removeDraftChange hdraft] at hfound
    cases hfound

/-- One edit of a published key and its discard, both answered with `true`. -/
theorem removeDraftChange_not_restored_one_edit :
    let db := run step Database.empty [("t1", .createConfig "shop" "timeout" "30" "alice"),
      ("t2", .publishRelease "shop" "" "alice")]
    let edits : List DraftChange := [{ ts := "t3", value := "60", operatorId := "bob" }]
    Along (draftStep "shop" "timeout")
        (fun d e ↦ draftAnswer "shop" "timeout" d e = .ok true) db edits ∧
      ¬ Restored "shop" "timeout" "30"
        (PublishEngine.removeDraftChange "shop" "timeout" "bob" "t4" noFaults
          (run (draftStep "shop" "timeout") db edits)).2 :=
  ⟨⟨rfl, True.intro⟩, removeDraftChange_not_restored "shop" "timeout" "bob" "t4" _
    { Ledger.createdRow "shop" "timeout" "30" "t1" with status := .live } _ rfl (by decide)⟩

/-- A published value is lost when one draft edit of it is discarded. -/
theorem not_restored_discarded_edit :
    ¬ ∀ (ns key op : String) (ts : Timestamp) (db : Database) (c : ConfigKey)
      (edits : List DraftChange), Reachable step Database.empty db →
      (SqliteConfigStore.getConfig ns key false noFaults db).1 = .ok (some c) → edits ≠ [] →
      Along (draftStep ns key) (fun d e ↦ draftAnswer ns key d e = .ok true) db edits →
      let result := PublishEngine.removeDraftChange ns key op ts noFaults
        (run (draftStep ns key) db edits)
      result.1 = .ok true → Restored ns key c.value result.2 := by
  intro h
  have hr := h "shop" "timeout" "bob" "t4"
    (run step Database.empty [("t1", .createConfig "shop" "timeout" "30" "alice"),
      ("t2", .publishRelease "shop" "" "alice")])
    { Ledger.createdRow "shop" "timeout" "30" "t1" with status := .live }
    [{ ts := "t3", value := "60", operatorId := "bob" }] ⟨_, rfl⟩ rfl (by decide)
    ⟨rfl, True.intro⟩ rfl
  obtain ⟨found, hfound, _⟩ := hr.getConfig
  cases hfound

end ConfigCenter.Publish
