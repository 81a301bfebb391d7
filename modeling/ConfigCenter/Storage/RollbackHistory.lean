import ConfigCenter.Storage.Effects
import ConfigCenter.Storage.VersionHistory

/-!
# Rolling back to past versions

Library `Storage`. A key that is created and never deleted can be rolled back to
every version it has had. The runs here have transactions in them: `ROLLBACK`
brings back the tables of its `BEGIN` with their history, so the invariant also
speaks of the remembered tables.
-/

namespace ConfigCenter.Storage
open ConfigCenter.Base

/-- The call is a `deleteConfig` that removes the row of the key. -/
def Call.removesRow (db : Database) (ns key : String) : Call → Bool
  | .deleteConfig n k _ draft => (db.ledger.row? ns key).any (Ledger.removes n k draft)
  | _ => false

/-- The step writes nothing else under the id of the key, does not remove its row, and does
not overflow its version, an `int32_t` whose overflow is undefined. -/
structure Undisturbed (ns key : String) (s : Traced) (e : Event) : Prop where
  id_own : ∀ p ∈ e.2.pair?, makeConfigId p.1 p.2 = makeConfigId ns key → p = (ns, key)
  kept : e.2.removesRow s.db ns key = false
  fits : (e.2.edit s.db e.1).pair? = some (ns, key) → s.db.ledger.fits (e.2.edit s.db e.1)

instance (ns key : String) (s : Traced) (e : Event) : Decidable (Undisturbed ns key s e) :=
  decidable_of_iff
    ((∀ p ∈ e.2.pair?, makeConfigId p.1 p.2 = makeConfigId ns key → p = (ns, key)) ∧
      e.2.removesRow s.db ns key = false ∧
      ((e.2.edit s.db e.1).pair? = some (ns, key) → s.db.ledger.fits (e.2.edit s.db e.1)))
    ⟨fun h ↦ ⟨h.1, h.2.1, h.2.2⟩, fun h ↦ ⟨h.id_own, h.kept, h.fits⟩⟩

/-- What a rollback to version `i` leaves of a key whose row was `c`: the next version as a
draft with the old value, one version row and one log row more, and all other rows. -/
structure RolledBack (s : Traced) (ns key : String) (c : ConfigKey) (i : Int32)
    (db' : Database) : Prop where
  row : ∃ c', db'.ledger.row? ns key = some c' ∧ c'.version.toInt = c.version.toInt + 1 ∧
    c'.status = .draft ∧ s.history ns key i = some c'.value
  version_added : ∃ v, db'.tables.configVersions = s.db.tables.configVersions ++ [v]
  log_added : ∃ r, db'.tables.changeLogs.rows = s.db.tables.changeLogs.rows ++ [r]
  others : ∀ n k, (n, k) ≠ (ns, key) → db'.ledger.row? n k = s.db.ledger.row? n k

namespace Ledger

/-- A key without a row has no version rows, and a row has an exact series. -/
structure Tracked (l : Ledger) (ns key : String) (h : Int32 → Option String) : Prop where
  unwritten : l.row? ns key = none → l.versionsOf ns key = []
  exact_row : ∀ c, l.row? ns key = some c → l.Exact ns key c h

variable {l : Ledger} {ns key : String} {h : Int32 → Option String}

-- The row of the key is absent after the edit: then it was so before, since the edit does
-- not remove it, and no version row was written for it.
private theorem Tracked.unwritten_apply (ht : l.Tracked ns key h) {e : Edit}
    (hids : ∀ p, e.pair? = some p → makeConfigId p.1 p.2 = makeConfigId ns key → p = (ns, key))
    (hkept : ∀ n k op draft ts, e = .delete n k op draft ts →
      (l.row? ns key).any (removes n k draft) = false)
    (hr : (l.apply e).row? ns key = none) : (l.apply e).versionsOf ns key = [] := by
  by_cases hp : e.pair? = some (ns, key)
  · cases e with
    | create n k value op ts =>
      cases hp
      rw [row?_create, if_pos ⟨rfl, rfl⟩] at hr
      cases hr
    | update n k value op draft ts =>
      cases hp
      rw [row?_update, if_pos ⟨rfl, rfl⟩, Option.map_eq_none_iff] at hr
      rw [apply_update_of_none hr]
      exact ht.unwritten hr
    | delete n k op draft ts =>
      apply ht.unwritten
      have hfilter : (l.apply (.delete n k op draft ts)).row? ns key =
          (l.row? ns key).filter (fun c ↦ !removes n k draft c) := KeyedTable.find?_removeWhere ..
      cases hrow : l.row? ns key with
      | none => rfl
      | some c =>
        have hc := hkept n k op draft ts rfl
        rw [hrow, Option.any_some] at hc
        rw [hfilter, hrow] at hr
        simp [Option.filter, hc] at hr
    | none | publish _ => cases hp
  · rw [row?_apply_of_ne l hp, Option.map_eq_none_iff] at hr
    rw [versionsOf_apply_of_ne l fun p hep hid ↦ hp (hep.trans (congrArg some (hids p hep hid)))]
    exact ht.unwritten hr

end Ledger

namespace Traced

variable {ns key : String} {s : Traced}

private theorem tracked_empty : Kept (fun l h ↦ l.Tracked ns key (h ns key)) empty where
  current := ⟨fun _ ↦ rfl, fun _ h ↦ by cases h⟩
  remembered := .none

private theorem tracked_step {e : Event} (he : e.2.isTransactional = false)
    (hu : Undisturbed ns key s e) (hi : s.db.ledger.Tracked ns key (s.history ns key)) :
    (Storage.step s.db e).ledger.Tracked ns key
      (s.history.observe (Storage.step s.db e).ledger ns key) := by
  have hids (p : String × String) (hp : (e.2.edit s.db e.1).pair? = some p) :=
    hu.id_own p (pair?_edit hp)
  rw [(ledger_step s.db e.1 e.2 he).1]
  refine ⟨hi.unwritten_apply hids ?_, fun c hc ↦ ?_⟩
  · intro n k op draft ts hdelete
    have hkept := hu.kept
    rw [edit_eq_delete hdelete] at hkept
    exact hkept
  · exact Ledger.exact_apply s.history _ hi.exact_row
      (fun p _ hp _ ↦ hids p hp) (fun _ _ _ _ ↦ hi.unwritten) hu.fits c hc

end Traced

private theorem rollbackConfig_of_tracked {s : Traced} {ns key : String} {c : ConfigKey}
    (ht : s.db.ledger.Tracked ns key (s.history ns key)) (hc : s.db.ledger.row? ns key = some c)
    (hmax : c.version.toInt < 2147483647) (i : Int32) (op : String) (ts : Timestamp) :
    let after := SqliteConfigStore.rollbackConfig ns key i op ts noFaults s.db
    if 1 ≤ i.toInt ∧ i.toInt ≤ c.version.toInt then
      after.1 = .ok true ∧ RolledBack s ns key c i after.2
    else after = (.ok false, s.db) := by
  have he := ht.exact_row c hc
  simp only [rollbackConfig_run]
  split
  · next hi =>
    obtain ⟨v, hv, hval⟩ := he.version?_eq_some hi.1 hi.2
    simp only [hv, updateConfig_run, hc]
    refine ⟨rfl, ⟨?_, ?_, ?_, ?_⟩⟩
    · refine ⟨Ledger.rewrittenRow c v.value true ts, ?_, toInt_add_one hmax, rfl, hval⟩
      rw [ledger_withLedger, Ledger.row?_update_self hc]
    · rw [Ledger.apply_update_of_some hc]
      exact ⟨_, rfl⟩
    · rw [Ledger.apply_update_of_some hc]
      exact ⟨_, rfl⟩
    · intro n k hne
      rw [ledger_withLedger, Ledger.row?_update, if_neg]
      rintro ⟨rfl, rfl⟩
      exact hne rfl
  · next hi => rw [he.version?_eq_none hi]

/-- After every run of store calls, transactions among them, that leaves a key undisturbed
and with a row, a rollback to each version the row has had restores the value it had then,
and a rollback to any other number fails and changes nothing. -/
theorem rollbackConfig_restores (es : List Event) (ns key : String)
    (ha : Along Traced.step (Undisturbed ns key) Traced.empty es) (c : ConfigKey)
    (hc : (run Traced.step Traced.empty es).db.ledger.row? ns key = some c)
    (hmax : c.version.toInt < 2147483647) (i : Int32) (op : String) (ts : Timestamp) :
    let s := run Traced.step Traced.empty es
    let after := SqliteConfigStore.rollbackConfig ns key i op ts noFaults s.db
    if 1 ≤ i.toInt ∧ i.toInt ≤ c.version.toInt then
      after.1 = .ok true ∧ RolledBack s ns key c i after.2
    else after = (.ok false, s.db) := by
  -- the key is tracked in the visible tables and in those an open transaction remembers
  have hi : Traced.Kept (fun l h ↦ l.Tracked ns key (h ns key))
      (run Traced.step Traced.empty es) :=
    run_invariant_along Traced.tracked_empty
      (fun s e h hu ↦ h.step e fun hc ↦ Traced.tracked_step hc hu h.current) ha
  exact rollbackConfig_of_tracked hi.current hc hmax i op ts

/-- Two keys of one namespace, a publication, an update that is rolled back with its
transaction, and a rollback of the row before the one to version 2. -/
theorem rollbackConfig_restores_second_version :
    let es : List Event :=
      [("t1", .createConfig "ns" "timeout" "30" "alice"),
        ("t2", .updateConfig "ns" "timeout" "60" "alice" true),
        ("t3", .createConfig "ns" "retries" "5" "bob"), ("t4", .publishRelease "ns" "" "alice"),
        ("t5", .beginTransaction), ("t6", .updateConfig "ns" "timeout" "90" "bob" true),
        ("t7", .rollbackTransaction), ("t8", .rollbackConfig "ns" "timeout" 1 "bob"),
        ("t9", .deleteConfig "ns" "retries" "bob" false)]
    let s := run Traced.step Traced.empty es
    let c : ConfigKey :=
      { namespaceId := "ns", key := "timeout", value := "30", version := 3, status := .draft,
        createdAt := "t1", updatedAt := "t8" }
    let after := SqliteConfigStore.rollbackConfig "ns" "timeout" 2 "carol" "t10" noFaults s.db
    s.history "ns" "timeout" 2 = some "60" ∧
      if 1 ≤ (2 : Int32).toInt ∧ (2 : Int32).toInt ≤ c.version.toInt then
        after.1 = .ok true ∧ RolledBack s "ns" "timeout" c 2 after.2
      else after = (.ok false, s.db) :=
  ⟨by decide, rollbackConfig_restores _ "ns" "timeout" (by decide) _ (by decide) (by decide) 2
    "carol" "t10"⟩

end ConfigCenter.Storage
