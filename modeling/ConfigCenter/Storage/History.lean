import Mathlib.Data.List.Induction
import ConfigCenter.Base.Journal
import ConfigCenter.Storage.Effects

/-!
# The write history of configuration keys

Library `Storage`. The change log and the version table record the same writes,
the log rows of a key chain from version to version, and the row of a key is its
last write. `WriteHistory` states this of a ledger; every edit keeps it, so it
holds in every state that a run of store calls from the empty store reaches.
-/

namespace ConfigCenter.Storage
open ConfigCenter.Base

/-- A log row that records a value: a creation or an update. -/
def ChangeLog.isWrite (r : ChangeLog) : Bool := r.operation = .create ∨ r.operation = .update

/-- What a log row and its version row have in common. -/
structure WriteEntry where
  configId : String
  version : Int32
  value : String
  operatorId : String
  createdAt : Timestamp
  deriving DecidableEq, Repr

/-- The entry a log row records. -/
def ChangeLog.entry (r : ChangeLog) : WriteEntry :=
  ⟨r.configId, r.version, r.newValue, r.operatorId, r.createdAt⟩

/-- The entry a version row records. -/
def ConfigVersion.entry (v : ConfigVersion) : WriteEntry :=
  ⟨v.configId, v.version, v.value, v.operatorId, v.createdAt⟩

/-- A creation starts at version 1, an update goes one version on from the write before it
and names that write's value as the old one. -/
def Follows (prev : Option ChangeLog) (r : ChangeLog) : Prop :=
  (r.operation = .create → r.version = 1) ∧
  (r.operation = .update →
    ∃ p, prev = some p ∧ r.version.toInt = p.version.toInt + 1 ∧ r.oldValue = p.newValue)

namespace Ledger

/-- Log rows of creations and updates. -/
def writes (l : Ledger) : List ChangeLog := l.logs.rows.filter ChangeLog.isWrite

/-- Log rows of one key's creations and updates. -/
def writesOf (l : Ledger) (ns key : String) : List ChangeLog :=
  l.writes.filter (fun r ↦ r.namespaceId = ns ∧ r.key = key)

/-- An update has room for one more version. -/
def fits (l : Ledger) : Edit → Prop
  | .update ns key _ _ _ _ => ∀ c ∈ l.row? ns key, c.version.toInt < 2147483647
  | _ => True

instance (l : Ledger) (e : Edit) : Decidable (l.fits e) :=
  match e with
  | .update ns key _ _ _ _ =>
    inferInstanceAs (Decidable (∀ c ∈ l.row? ns key, c.version.toInt < 2147483647))
  | .none | .create .. | .delete .. | .publish _ => inferInstanceAs (Decidable True)

end Ledger

/-- The three tables tell one history. -/
structure WriteHistory (l : Ledger) : Prop where
  /-- Log and version table record the same writes in the same order. -/
  recorded : l.writes.map ChangeLog.entry = l.versions.map ConfigVersion.entry
  /-- The writes of a key form a chain. -/
  chained : ∀ ns key, Linked Follows none (l.writesOf ns key)
  /-- The row of a key is its last write. -/
  current : ∀ c ∈ l.configs.rows, ∃ r, (l.writesOf c.namespaceId c.key).getLast? = some r ∧
    c.version = r.version ∧ c.value = r.newValue

namespace WriteHistory

variable {l l' : Ledger}

/-- The row of a key is its last write, by lookup. -/
theorem last_write (h : WriteHistory l) {ns key : String} {c : ConfigKey}
    (hc : l.row? ns key = some c) :
    ∃ r, (l.writesOf ns key).getLast? = some r ∧ c.version = r.version ∧ c.value = r.newValue := by
  obtain ⟨rfl, rfl⟩ := Ledger.row?_key hc
  exact h.current c ((KeyedTable.find?_eq_some_iff _ _ _).mp hc).1

/-- The version of a stored row is in the version table. -/
theorem version_mem (h : WriteHistory l) {ns key : String} {c : ConfigKey}
    (hc : l.row? ns key = some c) : ∃ v ∈ l.versions, v.version = c.version := by
  obtain ⟨r, hr, hv, _⟩ := h.last_write hc
  have hm : r ∈ l.writes := List.mem_of_mem_filter (List.mem_of_getLast? hr)
  have he : r.entry ∈ l.versions.map ConfigVersion.entry := by
    rw [← h.recorded]
    exact List.mem_map_of_mem hm
  obtain ⟨v, hv', hve⟩ := List.mem_map.mp he
  exact ⟨v, hv', (congrArg WriteEntry.version hve).trans hv.symm⟩

/-- An edit that records no value: no version row, no write in the log, and every row it
leaves had its version and value before. -/
theorem of_no_write (h : WriteHistory l) (rows : List ChangeLog)
    (hlog : l'.logs.rows = l.logs.rows ++ rows) (hrows : ∀ r ∈ rows, r.isWrite = false)
    (hver : l'.versions = l.versions)
    (hrow : ∀ ns key c', l'.row? ns key = some c' →
      ∃ c, l.row? ns key = some c ∧ c'.version = c.version ∧ c'.value = c.value) :
    WriteHistory l' := by
  have hw : l'.writes = l.writes := by
    have hn : rows.filter ChangeLog.isWrite = [] := by
      apply List.filter_eq_nil_iff.mpr
      intro r hr
      simp [hrows r hr]
    rw [Ledger.writes, hlog, List.filter_append, hn, List.append_nil, Ledger.writes]
  have hwo (ns key : String) : l'.writesOf ns key = l.writesOf ns key := by
    rw [Ledger.writesOf, hw, Ledger.writesOf]
  refine ⟨by rw [hw, hver, h.recorded], fun ns key ↦ by rw [hwo]; exact h.chained ns key, ?_⟩
  intro c' hc'
  obtain ⟨c, hc, hv, hval⟩ := hrow _ _ c' (Ledger.row?_of_mem hc')
  obtain ⟨r, hr, hv', hval'⟩ := h.last_write hc
  exact ⟨r, by rw [hwo]; exact hr, hv.trans hv', hval.trans hval'⟩

/-- An edit that records one value on one key. -/
theorem of_write (h : WriteHistory l) {r : ChangeLog} {v : ConfigVersion}
    (hlog : l'.logs.rows = l.logs.rows ++ [r]) (hr : r.isWrite)
    (hver : l'.versions = l.versions ++ [v]) (he : r.entry = v.entry)
    (hf : Follows (l.writesOf r.namespaceId r.key).getLast? r) (c : ConfigKey)
    (hc : c.version = r.version ∧ c.value = r.newValue)
    (hrow : ∀ ns key, l'.row? ns key =
      if r.namespaceId = ns ∧ r.key = key then some c else l.row? ns key) :
    WriteHistory l' := by
  have hw : l'.writes = l.writes ++ [r] := by
    rw [Ledger.writes, hlog, List.filter_append, Ledger.writes]
    simp [hr]
  have hwo (ns key : String) : l'.writesOf ns key =
      if r.namespaceId = ns ∧ r.key = key then l.writesOf ns key ++ [r] else l.writesOf ns key := by
    rw [Ledger.writesOf, hw, List.filter_append, Ledger.writesOf]
    split
    · next hk => simp [hk]
    · next hk => simp [hk]
  refine ⟨by rw [hw, hver, List.map_append, List.map_append, h.recorded]; simp [he], ?_, ?_⟩
  · intro ns key
    rw [hwo]
    split
    · next hk =>
      rw [linked_concat, Option.or_none]
      exact ⟨h.chained ns key, hk.1 ▸ hk.2 ▸ hf⟩
    · exact h.chained ns key
  · intro c' hc'
    have hfound := Ledger.row?_of_mem hc'
    rw [hrow] at hfound
    rw [hwo]
    split at hfound
    · next hk =>
      cases hfound
      rw [if_pos hk]
      exact ⟨r, List.getLast?_concat, hc⟩
    · next hk =>
      rw [if_neg hk]
      exact h.last_write hfound

/-- The empty ledger has an empty history. -/
theorem empty : WriteHistory Tables.empty.ledger where
  recorded := rfl
  chained _ _ := True.intro
  current c hc := by cases hc

/-- Every edit that does not run out of versions keeps the history. -/
theorem apply (h : WriteHistory l) (e : Edit) (hf : l.fits e) : WriteHistory (l.apply e) := by
  cases e with
  | none => exact h
  | create ns key value op ts =>
    cases hr : l.row? ns key with
    | some c => rwa [Ledger.apply_create_of_some hr]
    | none =>
      obtain ⟨configs, _, he⟩ := Ledger.apply_create_of_none hr value op ts
      have hrow := Ledger.row?_create_of_none hr value op ts
      rw [he] at hrow ⊢
      exact h.of_write rfl rfl rfl rfl ⟨fun _ ↦ rfl, by rintro ⟨⟩⟩
        (Ledger.createdRow ns key value ts) ⟨rfl, rfl⟩ hrow
  | update ns key value op draft ts =>
    cases hr : l.row? ns key with
    | none => rwa [Ledger.apply_update_of_none hr]
    | some old =>
      have hrow := Ledger.row?_update_of_some hr value op draft ts
      rw [Ledger.apply_update_of_some hr] at hrow ⊢
      obtain ⟨p, hp, hv, hval⟩ := h.last_write hr
      have hnext : (old.version + 1).toInt = p.version.toInt + 1 := by
        rw [toInt_add_one (hf old hr), hv]
      exact h.of_write rfl rfl rfl rfl ⟨by rintro ⟨⟩, fun _ ↦ ⟨p, hp, hnext, hval⟩⟩
        (Ledger.rewrittenRow old value draft ts) ⟨rfl, rfl⟩ hrow
  | delete ns key op draft ts =>
    refine h.of_no_write [_] rfl (by simp; rfl) rfl ?_
    intro n k c' hc'
    rw [Ledger.row?_delete] at hc'
    split at hc'
    · exact ⟨c', (Option.filter_eq_some_iff.mp hc').1, rfl, rfl⟩
    · exact ⟨c', hc', rfl, rfl⟩
  | publish ns =>
    refine h.of_no_write [] (List.append_nil _).symm (by simp) rfl ?_
    intro n k c' hc'
    rw [Ledger.row?_publish, Option.map_eq_some_iff] at hc'
    obtain ⟨c, hc, rfl⟩ := hc'
    refine ⟨c, hc, ?_⟩
    split <;> exact ⟨rfl, rfl⟩

end WriteHistory

private theorem continues_step (db : Database) (e : Event) (he : e.2.isTransactional = false) :
    db.ledger.Continues (step db e).ledger := by
  rw [(ledger_step db e.1 e.2 he).1]
  exact Ledger.apply_continues _ _

/-- Along a run both tables only grow by appending. -/
theorem continues_run (db : Database) (es : List Event)
    (hc : ∀ e ∈ es, e.2.isTransactional = false) :
    db.ledger.Continues (run step db es).ledger := by
  induction es generalizing db with
  | nil => exact .refl _
  | cons e es ih =>
    have hs := continues_step db e (hc e (by simp))
    exact hs.trans (ih (step db e) fun f hf ↦ hc f (List.mem_cons_of_mem e hf))

-- The bound on the final version table covers every earlier state, and there the version
-- of a row is one of the table, so no update on the way can have wrapped.
private theorem writeHistory_of_bounded (es : List Event)
    (hc : ∀ e ∈ es, e.2.isTransactional = false)
    (hv : ∀ v ∈ (run step Database.empty es).ledger.versions, v.version.toInt < 2147483647) :
    WriteHistory (run step Database.empty es).ledger := by
  induction es using List.reverseRecOn with
  | nil => exact WriteHistory.empty
  | append_singleton es e ih =>
    have he := hc e (by simp)
    rw [run_concat] at hv ⊢
    have hp := (continues_step (run step Database.empty es) e he).1
    have hb : ∀ v ∈ (run step Database.empty es).ledger.versions,
        v.version.toInt < 2147483647 := fun v hm ↦ hv v (hp.subset hm)
    have hh := ih (fun f hf ↦ hc f (List.mem_append_left _ hf)) hb
    rw [(ledger_step _ e.1 e.2 he).1]
    apply hh.apply
    generalize e.2.edit (run step Database.empty es) e.1 = edit
    cases edit with
    | update ns key value op draft ts =>
      intro c hm
      obtain ⟨v, hvm, hvc⟩ := hh.version_mem hm
      rw [← hvc]
      exact hb v hvm
    | none | create _ _ _ _ _ | delete _ _ _ _ _ | publish _ => exact True.intro

/-- Every run of store calls from the empty store in which no version reaches the maximum
keeps the write history: both tables have only grown, and the three tables agree. -/
theorem writeHistory_run (es : List Event) (hc : ∀ e ∈ es, e.2.isTransactional = false)
    (hv : ∀ v ∈ (run step Database.empty es).tables.configVersions,
      v.version.toInt < 2147483647) :
    (∀ pre, pre <+: es → (run step Database.empty pre).ledger.Continues
      (run step Database.empty es).ledger) ∧
    WriteHistory (run step Database.empty es).ledger := by
  refine ⟨?_, writeHistory_of_bounded es hc hv⟩
  rintro pre ⟨rest, rfl⟩
  rw [run_append]
  exact continues_run _ rest fun e he ↦ hc e (List.mem_append_right _ he)

/-- A creation, a failed creation, an update, a publication, a rollback, both kinds of
deletion and a second creation of the same key. -/
theorem writeHistory_recreated :
    let es : List Event :=
      [("t1", .createConfig "ns" "timeout" "30" "alice"),
        ("t2", .createConfig "ns" "timeout" "31" "bob"),
        ("t3", .updateConfig "ns" "timeout" "60" "alice" true),
        ("t4", .publishRelease "ns" "first" "alice"),
        ("t5", .rollbackConfig "ns" "timeout" 1 "bob"),
        ("t6", .deleteConfig "ns" "timeout" "bob" true),
        ("t7", .deleteConfig "ns" "timeout" "bob" false),
        ("t8", .createConfig "ns" "timeout" "90" "carol")]
    (∀ pre, pre <+: es → (run step Database.empty pre).ledger.Continues
      (run step Database.empty es).ledger) ∧
    WriteHistory (run step Database.empty es).ledger :=
  writeHistory_run _ (by decide) (by decide)

end ConfigCenter.Storage
