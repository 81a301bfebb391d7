import Mathlib.Logic.Function.Basic
import ConfigCenter.Storage.Effects

/-!
# Replaying the audit log

Library `Storage`. The change log folded over an empty map, against the map that
the configuration table holds. The log row of a deletion is written whether or
not a row was removed; the two part company exactly when a draft deletion leaves
a live row in place.
-/

namespace ConfigCenter.Storage
open ConfigCenter.Base

/-- Version and value by namespace and key. -/
abbrev ConfigMap := String × String → Option (Int32 × String)

/-- What one log row says happened: creations and updates set a value, deletions remove it.
The store writes no row with the operation `rollback`. -/
def ChangeLog.replay (m : ConfigMap) (r : ChangeLog) : ConfigMap :=
  match r.operation with
  | .create | .update => Function.update m (r.namespaceId, r.key) (some (r.version, r.newValue))
  | .delete => Function.update m (r.namespaceId, r.key) none
  | .rollback => m

namespace Ledger

/-- The map that the log rows lead to, in id order. -/
def replayed (l : Ledger) : ConfigMap := run ChangeLog.replay (fun _ ↦ none) l.logs.rows

/-- The map that the configuration table holds. -/
def held (l : Ledger) : ConfigMap := fun p ↦
  (l.row? p.1 p.2).map fun c ↦ (c.version, c.value)

/-- The edit deletes a live row as a draft: the log says deleted and the row stays. -/
def leavesDeleted (l : Ledger) : Edit → Prop
  | .delete ns key _ draft _ => draft ∧ (l.config? ns key false).isSome
  | _ => False

variable {l : Ledger}

private theorem replayed_logged (cl : ChangeLog) (configs : KeyedTable ConfigKey.primaryKey)
    (versions : List ConfigVersion) :
    replayed { configs, versions, logs := l.logged cl } = cl.replay l.replayed :=
  run_concat ChangeLog.replay _ _ _

private theorem held_create (l : Ledger) (ns key value op : String) (ts : Timestamp)
    (hr : l.row? ns key = none) :
    (l.apply (.create ns key value op ts)).held =
      Function.update l.held (ns, key) (some (1, value)) := by
  funext p
  simp only [held, row?_create, Function.update_apply]
  by_cases hp : p = (ns, key)
  · simp [hp, hr, createdRow]
  · have hn : ¬ (ns = p.1 ∧ key = p.2) := fun h ↦ hp (Prod.ext h.1.symm h.2.symm)
    simp [hp, hn]

private theorem held_update (l : Ledger) (ns key value op : String) (draft : Bool)
    (ts : Timestamp) {old : ConfigKey} (hr : l.row? ns key = some old) :
    (l.apply (.update ns key value op draft ts)).held =
      Function.update l.held (ns, key) (some (old.version + 1, value)) := by
  funext p
  simp only [held, row?_update, Function.update_apply]
  by_cases hp : p = (ns, key)
  · simp [hp, hr, rewrittenRow]
  · have hn : ¬ (ns = p.1 ∧ key = p.2) := fun h ↦ hp (Prod.ext h.1.symm h.2.symm)
    simp [hp, hn]

private theorem held_delete (l : Ledger) (ns key op : String) (draft : Bool) (ts : Timestamp) :
    (l.apply (.delete ns key op draft ts)).held =
      Function.update l.held (ns, key)
        (((l.row? ns key).filter (fun c ↦ draft && c.status = .live)).map
          fun c ↦ (c.version, c.value)) := by
  funext p
  simp only [held, row?_delete, Function.update_apply]
  by_cases hp : p = (ns, key)
  · simp [hp]
  · have hn : ¬ (ns = p.1 ∧ key = p.2) := fun h ↦ hp (Prod.ext h.1.symm h.2.symm)
    simp [hp, hn]

private theorem held_publish (l : Ledger) (ns : String) :
    (l.apply (.publish ns)).held = l.held := by
  funext p
  simp only [held, row?_publish, Option.map_map]
  congr 1
  funext c
  simp only [Function.comp_apply]
  split <;> rfl

/-- A ledger whose log replays to its rows stays so under every edit but the draft
deletion of a live row. -/
theorem replayed_apply_iff (h : l.replayed = l.held) (e : Edit) :
    (l.apply e).replayed = (l.apply e).held ↔ ¬ l.leavesDeleted e := by
  cases e with
  | none => simp [apply, leavesDeleted, h]
  | create ns key value op ts =>
    simp only [leavesDeleted, not_false_eq_true, iff_true]
    cases hr : l.row? ns key with
    | some c => rw [apply_create_of_some hr, h]
    | none =>
      obtain ⟨configs, _, he⟩ := apply_create_of_none hr value op ts
      rw [held_create l ns key value op ts hr, he, replayed_logged, h]
      rfl
  | update ns key value op draft ts =>
    simp only [leavesDeleted, not_false_eq_true, iff_true]
    cases hr : l.row? ns key with
    | none => rw [apply_update_of_none hr, h]
    | some old =>
      rw [held_update l ns key value op draft ts hr, apply_update_of_some hr, replayed_logged, h]
      rfl
  | delete ns key op draft ts =>
    have hl : (l.apply (.delete ns key op draft ts)).replayed =
        Function.update l.held (ns, key) none := by
      rw [← h]
      exact replayed_logged (deleteLog ns key op ts) _ _
    rw [hl, held_delete, (Function.update_injective _ _).eq_iff]
    cases hr : l.row? ns key with
    | none => simp [leavesDeleted, config?, hr]
    | some c =>
      cases draft <;> cases hs : c.status <;>
        simp [leavesDeleted, config?, hr, hs, Option.filter]
  | publish ns =>
    simp only [leavesDeleted, not_false_eq_true, iff_true]
    rw [held_publish]
    exact h

end Ledger

/-- The call is a draft deletion of a key with a live row. -/
def Call.leavesDeleted (db : Database) : Call → Prop
  | .deleteConfig ns key _ draft => draft ∧ (db.ledger.config? ns key false).isSome
  | _ => False

private theorem leavesDeleted_edit (db : Database) (ts : Timestamp) (c : Call) :
    db.ledger.leavesDeleted (c.edit db ts) ↔ c.leavesDeleted db := by
  cases c with
  | rollbackConfig ns key target op =>
    simp only [Call.edit]
    cases db.ledger.version? ns key target <;> rfl
  | publishRelease ns note op =>
    simp only [Call.edit]
    split <;> rfl
  | _ => rfl

/-- In a run of store calls from the empty store the log replays to the configuration in
every state exactly when no call deletes a live row as a draft. -/
theorem replays_iff_along (es : List Event) (hc : ∀ e ∈ es, e.2.isTransactional = false) :
    (∀ pre, pre <+: es →
      (run step Database.empty pre).ledger.replayed = (run step Database.empty pre).ledger.held) ↔
    Along step (fun db e ↦ ¬ e.2.leavesDeleted db) Database.empty es := by
  have hstep (db : Database) (e : Event) (he : e ∈ es) (hi : db.ledger.replayed = db.ledger.held) :
      (step db e).ledger.replayed = (step db e).ledger.held ↔ ¬ e.2.leavesDeleted db := by
    rw [(ledger_step db e.1 e.2 (hc e he)).1, Ledger.replayed_apply_iff hi, leavesDeleted_edit]
  have hempty : Database.empty.ledger.replayed = Database.empty.ledger.held := rfl
  exact always_iff_along_of_iff (I := fun db : Database ↦ db.ledger.replayed = db.ledger.held)
    hempty hstep

/-- A run with a failed creation, a draft deletion of a draft and a full deletion. -/
theorem replays_iff_along_deletions :
    let es : List Event :=
      [("t1", .createConfig "ns" "timeout" "30" "alice"),
        ("t2", .createConfig "ns" "timeout" "31" "bob"),
        ("t3", .deleteConfig "ns" "timeout" "bob" true),
        ("t4", .createConfig "ns" "retries" "5" "alice"), ("t5", .publishRelease "ns" "" "alice"),
        ("t6", .deleteConfig "ns" "retries" "alice" false)]
    (∀ pre, pre <+: es →
      (run step Database.empty pre).ledger.replayed = (run step Database.empty pre).ledger.held) ↔
    Along step (fun db e ↦ ¬ e.2.leavesDeleted db) Database.empty es :=
  replays_iff_along _ (by decide)

/-- The log of a published key that is deleted as a draft replays to an empty map. -/
theorem not_replays_draft_delete :
    ¬ ∀ es : List Event, (∀ e ∈ es, e.2.isTransactional = false) →
      (run step Database.empty es).ledger.replayed = (run step Database.empty es).ledger.held := by
  intro h
  have he := h [("t1", .createConfig "ns" "timeout" "30" "alice"),
    ("t2", .publishRelease "ns" "" "alice"), ("t3", .deleteConfig "ns" "timeout" "alice" true)]
    (by decide)
  exact absurd (congrFun he ("ns", "timeout")) (by decide)

end ConfigCenter.Storage
