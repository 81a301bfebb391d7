import Mathlib.Logic.Function.Basic
import ConfigCenter.Base.Journal
import ConfigCenter.Storage.History

/-!
# Exactness of the version history

Library `Storage`. A ghost history remembers, for every key, the value its
current row had at each version, and forgets a key that has no row. A `ROLLBACK`
brings back the rows of its `BEGIN`, and with them their history. The version
table is never trimmed, so a key that is created again starts a second series
of version numbers; `exactVersions_iff_along` says that only this makes the table
differ from the ghost history, as long as ids do not collide.
-/

namespace ConfigCenter.Storage
open ConfigCenter.Base

/-- For every key, the values that its current row has had, by version. -/
abbrev RowHistory := String → String → Int32 → Option String

/-- Note the current row of every key; a key without a row loses its history. -/
def RowHistory.observe (h : RowHistory) (l : Ledger) : RowHistory := fun ns key ↦
  match l.row? ns key with
  | none => fun _ ↦ none
  | some c => Function.update (h ns key) c.version (some c.value)

/-- A database with the ghost history of its rows and, inside a transaction, that of the rows it
began with. -/
structure Traced where
  db : Database
  history : RowHistory
  saved : Option RowHistory := none

namespace Traced

/-- The empty store. -/
def empty : Traced := { db := Database.empty, history := fun _ _ _ ↦ none }

/-- One call, and a look at the rows it leaves. The transaction control saves the history, drops
it or brings it back, as it does with the tables. -/
def step (s : Traced) (e : Event) : Traced :=
  let db := Storage.step s.db e
  match e.2 with
  | .beginTransaction =>
    { db, history := s.history, saved := some (s.saved.getD s.history) }
  | .commitTransaction => { db, history := s.history }
  | .rollbackTransaction => { db, history := s.saved.getD s.history }
  | _ => { db, history := s.history.observe db.ledger, saved := s.saved }

/-- A step of the ghost is one of the store. -/
theorem db_step (s : Traced) (e : Event) : (step s e).db = Storage.step s.db e := by
  obtain ⟨ts, c⟩ := e
  cases c <;> rfl

/-- Outside the transaction control a step looks at the rows. -/
theorem step_of_not_isTransactional (s : Traced) {e : Event} (he : e.2.isTransactional = false) :
    step s e =
      { db := Storage.step s.db e
        history := s.history.observe (Storage.step s.db e).ledger
        saved := s.saved } := by
  obtain ⟨ts, c⟩ := e
  cases c with
  | beginTransaction | commitTransaction | rollbackTransaction => cases he
  | _ => rfl

/-- The ghost history does not influence the store. -/
theorem db_run (s : Traced) (es : List Event) :
    (run step s es).db = run Storage.step s.db es := by
  induction es generalizing s with
  | nil => rfl
  | cons e es ih => rw [run_cons, run_cons, ih, db_step]

/-- `I` holds of the visible tables with the current history, and of those that an open
transaction remembers with the saved one. -/
structure Kept (I : Ledger → RowHistory → Prop) (s : Traced) : Prop where
  current : I s.db.ledger s.history
  remembered : Option.Rel (fun t h ↦ I t.ledger h) s.db.snapshot s.saved

/-- The transaction control moves tables and histories together; any other call keeps `I` of both
where it keeps it of the visible ones. -/
theorem Kept.step {I : Ledger → RowHistory → Prop} {s : Traced} (hi : Kept I s) (e : Event)
    (hstep : e.2.isTransactional = false →
      I (Storage.step s.db e).ledger (s.history.observe (Storage.step s.db e).ledger)) :
    Kept I (s.step e) := by
  cases he : e.2.isTransactional with
  | false =>
    rw [step_of_not_isTransactional s he]
    refine ⟨hstep he, ?_⟩
    rw [(ledger_step s.db e.1 e.2 he).2]
    exact hi.remembered
  | true =>
    obtain ⟨ts, c⟩ := e
    obtain ⟨⟨tables, snapshot⟩, history, saved⟩ := s
    obtain ⟨hcurrent, hremembered⟩ := hi
    cases c with
    | beginTransaction =>
      simp only [Traced.step, step_beginTransaction]
      refine ⟨hcurrent, .some ?_⟩
      -- a `BEGIN` inside a transaction keeps the first one's tables and history
      cases hremembered with
      | none => exact hcurrent
      | some h => exact h
    | commitTransaction =>
      simp only [Traced.step, step_commitTransaction]
      exact ⟨hcurrent, .none⟩
    | rollbackTransaction =>
      simp only [Traced.step, step_rollbackTransaction]
      refine ⟨?_, .none⟩
      cases hremembered with
      | none => exact hcurrent
      | some h => exact h
    | _ => cases he

end Traced

/-- The version table tells every stored row's history: each number is listed once, and
each number up to the row's version carries the value the row had at it. -/
structure ExactVersions (s : Traced) : Prop where
  listed_once : ∀ c ∈ s.db.tables.configs.rows, ∀ versions,
    (SqliteConfigStore.getConfigVersions c.namespaceId c.key noFaults s.db).1 = .ok versions →
      (versions.map (·.version)).Nodup
  found : ∀ c ∈ s.db.tables.configs.rows, ∀ i : Int32, 1 ≤ i.toInt → i.toInt ≤ c.version.toInt →
    ∃ v, (SqliteConfigStore.getConfigVersion c.namespaceId c.key i noFaults s.db).1 =
        .ok (some v) ∧ s.history c.namespaceId c.key i = some v.value
  current : ∀ c ∈ s.db.tables.configs.rows, ∃ v,
    (SqliteConfigStore.getConfigVersion c.namespaceId c.key c.version noFaults s.db).1 =
      .ok (some v) ∧ v.value = c.value

/-- The call creates a key anew whose id has version rows already. -/
def Call.recreates (db : Database) : Call → Prop
  | .createConfig ns key _ _ =>
    db.ledger.row? ns key = none ∧
      ∃ v ∈ db.ledger.versions, v.configId = makeConfigId ns key
  | _ => False

/-- No two keys that the events write share an id. -/
def IdsDistinct (es : List Event) : Prop :=
  ∀ e ∈ es, ∀ f ∈ es, ∀ p ∈ e.2.pair?, ∀ q ∈ f.2.pair?,
    makeConfigId p.1 p.2 = makeConfigId q.1 q.2 → p = q

namespace Ledger

/-- The version rows of a key count up to its row and carry the remembered values. -/
structure Exact (l : Ledger) (ns key : String) (c : ConfigKey) (h : Int32 → Option String) :
    Prop where
  numbered : Numbered (fun v : ConfigVersion ↦ v.version.toInt) (l.versionsOf ns key)
  last : ∃ v, (l.versionsOf ns key).getLast? = some v ∧ v.version = c.version ∧ v.value = c.value
  remembered : ∀ v ∈ l.versionsOf ns key, h v.version = some v.value

variable {l : Ledger} {ns key : String} {c : ConfigKey} {h : Int32 → Option String}

/-- Looking again at a row whose version is remembered changes nothing. -/
theorem Exact.update_eq_self (he : l.Exact ns key c h) :
    Function.update h c.version (some c.value) = h := by
  obtain ⟨v, hv, hver, hval⟩ := he.last
  rw [Function.update_eq_self_iff, ← hver, ← hval]
  exact (he.remembered v (List.mem_of_getLast? hv)).symm

/-- The number of version rows is the version of the row. -/
theorem Exact.length_eq (he : l.Exact ns key c h) :
    c.version.toInt = (l.versionsOf ns key).length := by
  obtain ⟨v, hv, hver, _⟩ := he.last
  rw [← hver]
  exact he.numbered.getLast hv

/-- Every number up to the row's version is looked up with the remembered value. -/
theorem Exact.version?_eq_some (he : l.Exact ns key c h) {i : Int32} (h1 : 1 ≤ i.toInt)
    (hn : i.toInt ≤ c.version.toInt) :
    ∃ v, l.version? ns key i = some v ∧ h i = some v.value := by
  rw [he.length_eq] at hn
  obtain ⟨w, hw, hwi⟩ := he.numbered.exists_mem h1 hn
  rw [version?_eq]
  cases hv : (l.versionsOf ns key).find? (fun v ↦ v.version = i) with
  | none =>
    have hne := List.find?_eq_none.mp hv w hw
    exact absurd (decide_eq_true (Int32.toInt_inj.mp hwi)) hne
  | some v =>
    have hvi : v.version = i := by simpa using List.find?_some hv
    refine ⟨v, rfl, ?_⟩
    rw [← hvi]
    exact he.remembered v (List.mem_of_find?_eq_some hv)

/-- No other number is found. -/
theorem Exact.version?_eq_none (he : l.Exact ns key c h) {i : Int32}
    (hi : ¬ (1 ≤ i.toInt ∧ i.toInt ≤ c.version.toInt)) : l.version? ns key i = none := by
  rw [version?_eq, List.find?_eq_none]
  intro v hv hvi
  apply hi
  rw [← of_decide_eq_true hvi, he.length_eq]
  exact he.numbered.mem_bounds hv

/-- An edit that adds no version row and keeps the row's version and value. -/
theorem Exact.frame (he : l.Exact ns key c h) {l' : Ledger} {c' : ConfigKey}
    (hv : l'.versionsOf ns key = l.versionsOf ns key) (hver : c'.version = c.version)
    (hval : c'.value = c.value) :
    l'.Exact ns key c' (Function.update h c'.version (some c'.value)) := by
  rw [hver, hval, he.update_eq_self]
  refine ⟨by rw [hv]; exact he.numbered, ?_, by rw [hv]; exact he.remembered⟩
  rw [hv, hver, hval]
  exact he.last

/-- The first creation of a key starts its series. -/
theorem exact_create (hr : l.row? ns key = none) (hv : l.versionsOf ns key = [])
    (value op : String) (ts : Timestamp) (h : Int32 → Option String) :
    (l.apply (.create ns key value op ts)).Exact ns key (createdRow ns key value ts)
      (Function.update h 1 (some value)) := by
  have hvs := versionsOf_create hr value op ts ns key
  rw [if_pos rfl, hv, List.nil_append] at hvs
  refine ⟨?_, ⟨_, by rw [hvs]; rfl, rfl, rfl⟩, ?_⟩
  · rw [hvs]
    exact numbered_nil.concat rfl
  · rw [hvs]
    intro v hm
    rw [List.mem_singleton.mp hm]
    exact Function.update_self ..

/-- An update continues the series. -/
theorem Exact.update (he : l.Exact ns key c h) (hr : l.row? ns key = some c)
    (hmax : c.version.toInt < 2147483647) (value op : String) (draft : Bool) (ts : Timestamp) :
    (l.apply (.update ns key value op draft ts)).Exact ns key (rewrittenRow c value draft ts)
      (Function.update h (c.version + 1) (some value)) := by
  have hvs := versionsOf_update hr value op draft ts ns key
  rw [if_pos rfl] at hvs
  refine ⟨?_, ⟨_, by rw [hvs]; exact List.getLast?_concat, rfl, rfl⟩, ?_⟩
  · rw [hvs]
    apply he.numbered.concat
    change (c.version + 1).toInt = _
    rw [toInt_add_one hmax, he.length_eq]
  · rw [hvs]
    intro v hm
    rcases List.mem_append.mp hm with hm | hm
    · -- earlier rows have smaller numbers, so the new note does not touch theirs
      obtain ⟨i, hi⟩ := List.mem_iff_getElem?.mp hm
      have hlt := (List.getElem?_eq_some_iff.mp hi).1
      have hn : v.version.toInt = i + 1 := he.numbered i v hi
      have hne : v.version ≠ c.version + 1 := by
        intro heq
        rw [heq, toInt_add_one hmax, he.length_eq] at hn
        omega
      rw [Function.update_of_ne hne]
      exact he.remembered v hm
    · rw [List.mem_singleton.mp hm]
      exact Function.update_self ..

/-- Every edit keeps the series of a key's row exact, unless it creates the key anew, runs out
of versions or writes under the key's id for another key. -/
theorem exact_apply (H : RowHistory) (e : Edit)
    (hl : ∀ c, l.row? ns key = some c → l.Exact ns key c (H ns key))
    (hids : ∀ p c, e.pair? = some p → l.row? ns key = some c →
      makeConfigId p.1 p.2 = makeConfigId ns key → p = (ns, key))
    (hnew : ∀ value op ts, e = .create ns key value op ts → l.row? ns key = none →
      l.versionsOf ns key = [])
    (hf : e.pair? = some (ns, key) → l.fits e) (c' : ConfigKey)
    (hc' : (l.apply e).row? ns key = some c') :
    (l.apply e).Exact ns key c' (H.observe (l.apply e) ns key) := by
  simp only [RowHistory.observe, hc']
  by_cases hp : e.pair? = some (ns, key)
  · have hfits := hf hp
    cases e with
    | create n k value op ts =>
      cases hp
      cases hr : l.row? ns key with
      | some c =>
        rw [apply_create_of_some hr, hr] at hc'
        cases hc'
        exact (hl c' hr).frame (by rw [apply_create_of_some hr]) rfl rfl
      | none =>
        rw [row?_create_self hr] at hc'
        cases hc'
        exact exact_create hr (hnew value op ts rfl hr) value op ts _
    | update n k value op draft ts =>
      cases hp
      cases hr : l.row? ns key with
      | none =>
        rw [apply_update_of_none hr, hr] at hc'
        cases hc'
      | some c =>
        rw [row?_update_self hr] at hc'
        cases hc'
        exact (hl c hr).update hr (hfits c hr) value op draft ts
    | delete n k op draft ts =>
      cases hp
      rw [row?_delete, if_pos ⟨rfl, rfl⟩] at hc'
      have hr := (Option.filter_eq_some_iff.mp hc').1
      exact (hl c' hr).frame rfl rfl rfl
    | none | publish _ => cases hp
  · rw [row?_apply_of_ne l hp, Option.map_eq_some_iff] at hc'
    obtain ⟨c, hc, rfl⟩ := hc'
    apply (hl c hc).frame
    · apply versionsOf_apply_of_ne
      intro p hep hid
      exact hp (hep.trans (congrArg some (hids p c hep hc hid)))
    · split <;> rfl
    · split <;> rfl

/-- Every id with version rows has one with the number 1. -/
def HasFirst (l : Ledger) : Prop :=
  ∀ v ∈ l.versions, ∃ w ∈ l.versions, w.configId = v.configId ∧ w.version = 1

private theorem HasFirst.concat {l' : Ledger} (h : l.HasFirst) {v : ConfigVersion}
    (hv : l'.versions = l.versions ++ [v])
    (hw : v.version = 1 ∨ ∃ w ∈ l.versions, w.configId = v.configId) : l'.HasFirst := by
  have hold (x : ConfigVersion) (hx : x ∈ l.versions) :
      ∃ w ∈ l'.versions, w.configId = x.configId ∧ w.version = 1 := by
    obtain ⟨w, hm, hw⟩ := h x hx
    exact ⟨w, by rw [hv]; exact List.mem_append_left _ hm, hw⟩
  intro x hx
  rw [hv] at hx
  rcases List.mem_append.mp hx with hx | hx
  · exact hold x hx
  · rw [List.mem_singleton.mp hx]
    rcases hw with hw | ⟨y, hy, hid⟩
    · exact ⟨v, by rw [hv]; simp, rfl, hw⟩
    · obtain ⟨w, hm, hwy, hone⟩ := hold y hy
      exact ⟨w, hm, hwy.trans hid, hone⟩

/-- Series start at 1 under every edit of a ledger with exact series. -/
theorem HasFirst.apply (h : l.HasFirst) (e : Edit) {H : RowHistory}
    (hl : ∀ ns key c, l.row? ns key = some c → l.Exact ns key c (H ns key)) :
    (l.apply e).HasFirst := by
  cases e with
  | create ns key value op ts =>
    cases hr : l.row? ns key with
    | some c => rwa [apply_create_of_some hr]
    | none =>
      obtain ⟨configs, _, he⟩ := apply_create_of_none hr value op ts
      rw [he]
      exact h.concat rfl (.inl rfl)
  | update ns key value op draft ts =>
    cases hr : l.row? ns key with
    | none => rwa [apply_update_of_none hr]
    | some old =>
      obtain ⟨w, hw, _⟩ := (hl ns key old hr).last
      have hm := List.mem_filter.mp (List.mem_of_getLast? hw)
      rw [apply_update_of_some hr]
      exact h.concat rfl (.inr ⟨w, hm.1, of_decide_eq_true hm.2⟩)
  | none | delete _ _ _ _ _ | publish _ => exact h

end Ledger

namespace Traced

/-- What a ledger and the history of its rows keep in a run over `events`: stored keys are among
those the events write, their series are exact, and every series starts at 1. -/
structure Held (events : List Event) (l : Ledger) (h : RowHistory) : Prop where
  written : ∀ ns key c, l.row? ns key = some c → ∃ e ∈ events, e.2.pair? = some (ns, key)
  exact_rows : ∀ ns key c, l.row? ns key = some c → l.Exact ns key c (h ns key)
  first : l.HasFirst

variable {events : List Event} {s : Traced}

private theorem held_empty : Kept (Held events) empty where
  current :=
    { written := fun _ _ _ h ↦ by cases h
      exact_rows := fun _ _ _ h ↦ by cases h
      first := fun _ h ↦ by cases h }
  remembered := .none

private theorem row?_of_step {e : Event} (he : e.2.isTransactional = false) {ns key : String}
    {c : ConfigKey} (hc : (Storage.step s.db e).ledger.row? ns key = some c) :
    (∃ c₀, s.db.ledger.row? ns key = some c₀) ∨ e.2.pair? = some (ns, key) := by
  by_cases hp : (e.2.edit s.db e.1).pair? = some (ns, key)
  · exact .inr (pair?_edit hp)
  · rw [(ledger_step s.db e.1 e.2 he).1, Ledger.row?_apply_of_ne _ hp,
      Option.map_eq_some_iff] at hc
    obtain ⟨c₀, hc₀, _⟩ := hc
    exact .inl ⟨c₀, hc₀⟩

private theorem held_step (hd : IdsDistinct events) {e : Event} (hm : e ∈ events)
    (he : e.2.isTransactional = false) (hf : s.db.ledger.fits (e.2.edit s.db e.1))
    (hi : Held events s.db.ledger s.history) (hr : ¬ e.2.recreates s.db) :
    Held events (Storage.step s.db e).ledger
      (s.history.observe (Storage.step s.db e).ledger) := by
  have hledger := (ledger_step s.db e.1 e.2 he).1
  refine ⟨?_, ?_, ?_⟩
  · intro ns key c hc
    rcases row?_of_step he hc with ⟨c₀, hc₀⟩ | hp
    · exact hi.written ns key c₀ hc₀
    · exact ⟨e, hm, hp⟩
  · intro ns key c hc
    rw [hledger] at hc ⊢
    apply Ledger.exact_apply s.history _ (hi.exact_rows ns key) _ _ (fun _ ↦ hf) c hc
    · intro p c₀ hp hc₀ hid
      obtain ⟨f, hfm, hfp⟩ := hi.written ns key c₀ hc₀
      exact hd e hm f hfm p (pair?_edit hp) (ns, key) hfp hid
    · intro value op ts hcreate hrow
      rw [Ledger.versionsOf, List.filter_eq_nil_iff]
      intro v hv hid
      apply hr
      rw [edit_eq_create hcreate]
      exact ⟨hrow, v, hv, of_decide_eq_true hid⟩
  · rw [hledger]
    exact hi.first.apply _ hi.exact_rows

-- The listing is a permutation of the key's version rows.
private theorem nodup_listed_iff (db : Database) (ns key : String) :
    (∀ versions, (SqliteConfigStore.getConfigVersions ns key noFaults db).1 = .ok versions →
      (versions.map (·.version)).Nodup) ↔
      ((db.ledger.versionsOf ns key).map (·.version)).Nodup := by
  have hperm := (List.perm_insertionSort
    (fun a b : ConfigVersion ↦ b.version ≤ a.version) (db.ledger.versionsOf ns key)).map (·.version)
  rw [getConfigVersions_run, ← hperm.nodup_iff]
  constructor
  · intro h
    exact h _ rfl
  · rintro h versions ⟨⟩
    exact h

private theorem exactVersions_of_held (hi : Kept (Held events) s) : ExactVersions s := by
  have hex (c : ConfigKey) (hc : c ∈ s.db.tables.configs.rows) :
      s.db.ledger.Exact c.namespaceId c.key c (s.history c.namespaceId c.key) :=
    hi.current.exact_rows _ _ c (Ledger.row?_of_mem hc)
  have hlookup (c : ConfigKey) (hc : c ∈ s.db.tables.configs.rows) (i : Int32)
      (h1 : 1 ≤ i.toInt) (hn : i.toInt ≤ c.version.toInt) :
      ∃ v, (SqliteConfigStore.getConfigVersion c.namespaceId c.key i noFaults s.db).1 =
        .ok (some v) ∧ s.history c.namespaceId c.key i = some v.value := by
    obtain ⟨v, hv, hval⟩ := (hex c hc).version?_eq_some h1 hn
    exact ⟨v, by rw [getConfigVersion_run, hv], hval⟩
  refine ⟨?_, hlookup, ?_⟩
  · intro c hc
    rw [nodup_listed_iff]
    have hn := (hex c hc).numbered.nodup
    have hm : (s.db.ledger.versionsOf c.namespaceId c.key).map (fun v ↦ v.version.toInt) =
        ((s.db.ledger.versionsOf c.namespaceId c.key).map (·.version)).map Int32.toInt := by
      rw [List.map_map]
      rfl
    rw [hm] at hn
    exact hn.of_map _
  · intro c hc
    obtain ⟨x, hx, hxv, hxval⟩ := (hex c hc).last
    have hpos : 1 ≤ c.version.toInt := by
      rw [(hex c hc).length_eq]
      have := List.length_pos_of_mem (List.mem_of_getLast? hx)
      omega
    obtain ⟨v, hv, hval⟩ := hlookup c hc c.version hpos le_rfl
    refine ⟨v, hv, ?_⟩
    have hrem := (hex c hc).remembered x (List.mem_of_getLast? hx)
    rw [hxv, hval] at hrem
    rw [Option.some.inj hrem, hxval]

private theorem nodup_of_exactVersions (hs : ExactVersions s) {ns key : String} {c : ConfigKey}
    (hc : s.db.ledger.row? ns key = some c) :
    ((s.db.ledger.versionsOf ns key).map (·.version)).Nodup := by
  obtain ⟨rfl, rfl⟩ := Ledger.row?_key hc
  have hm : c ∈ s.db.tables.configs.rows := ((KeyedTable.find?_eq_some_iff _ _ _).mp hc).1
  exact (nodup_listed_iff s.db c.namespaceId c.key).mp (hs.listed_once c hm)

private theorem not_recreates_of_exact {e : Event} (hi : Kept (Held events) s)
    (hs : ExactVersions (step s e)) : ¬ e.2.recreates s.db := by
  intro hr
  obtain ⟨t, c⟩ := e
  cases c with
  | createConfig ns key value op =>
    obtain ⟨hrow, v, hv, hid⟩ := hr
    obtain ⟨w, hw, hwid, hone⟩ := hi.current.first v hv
    have hledger : (step s (t, .createConfig ns key value op)).db.ledger =
        s.db.ledger.apply (.create ns key value op t) :=
      (ledger_step s.db t (.createConfig ns key value op) rfl).1
    have hnew := Ledger.row?_create_self hrow value op t
    rw [← hledger] at hnew
    have hlist := nodup_of_exactVersions hs hnew
    -- the old first version and the new one share the number 1
    rw [hledger, Ledger.versionsOf_create hrow, if_pos rfl, List.map_append] at hlist
    have hdisj := (List.nodup_append.mp hlist).2.2
    refine hdisj w.version ?_ 1 (by simp [Ledger.versionRow]) hone
    exact List.mem_map_of_mem
      (List.mem_filter.mpr ⟨hw, decide_eq_true (hwid.trans hid)⟩)
  | _ => cases hr

end Traced

/-- In a run of store calls from the empty store, transactions among them, whose keys have
distinct ids and whose updates do not run out of versions, the version history is exact in every
state exactly when no call creates a key anew that has version rows. -/
theorem exactVersions_iff_along (es : List Event) (hd : IdsDistinct es)
    (hf : Along Traced.step (fun s e ↦ s.db.ledger.fits (e.2.edit s.db e.1)) Traced.empty es) :
    (∀ pre, pre <+: es → ExactVersions (run Traced.step Traced.empty pre)) ↔
      Along Traced.step (fun s e ↦ ¬ e.2.recreates s.db) Traced.empty es :=
  always_iff_along (I := Traced.Kept (Traced.Held es)) Traced.held_empty hf
    (fun _ hi ↦ Traced.exactVersions_of_held hi)
    (fun _ e he hq hi hp ↦ hi.step e fun hc ↦ Traced.held_step hd he hc hq hi.current hp)
    (fun _ _ _ _ hi hs ↦ Traced.not_recreates_of_exact hi hs)

/-- A run that updates, publishes, rolls back and deletes two keys, one of them also in a
transaction that is rolled back. -/
theorem exactVersions_iff_along_two_keys :
    let es : List Event :=
      [("t1", .createConfig "ns" "timeout" "30" "alice"),
        ("t2", .updateConfig "ns" "timeout" "60" "alice" true),
        ("t3", .createConfig "ns" "retries" "5" "bob"), ("t4", .publishRelease "ns" "" "alice"),
        ("t5", .rollbackConfig "ns" "timeout" 1 "bob"), ("t6", .beginTransaction),
        ("t7", .deleteConfig "ns" "timeout" "bob" false), ("t8", .rollbackTransaction),
        ("t9", .updateConfig "ns" "timeout" "90" "alice" true),
        ("t10", .deleteConfig "ns" "retries" "bob" false)]
    (∀ pre, pre <+: es → ExactVersions (run Traced.step Traced.empty pre)) ↔
      Along Traced.step (fun s e ↦ ¬ e.2.recreates s.db) Traced.empty es :=
  exactVersions_iff_along _ (by unfold IdsDistinct; decide) (by decide)

/-- A key that is deleted and created again has two version rows with the number 1. -/
theorem not_exactVersions_recreated :
    ¬ ∀ es : List Event, IdsDistinct es →
      ExactVersions (run Traced.step Traced.empty es) := by
  intro h
  have hx := h [("t1", .createConfig "ns" "timeout" "30" "alice"),
    ("t2", .deleteConfig "ns" "timeout" "alice" false),
    ("t3", .createConfig "ns" "timeout" "60" "alice")] (by unfold IdsDistinct; decide)
  have hn := hx.listed_once (Ledger.createdRow "ns" "timeout" "60" "t3") (by decide) _ rfl
  exact absurd hn (by decide)

end ConfigCenter.Storage
