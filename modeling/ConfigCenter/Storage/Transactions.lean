import ConfigCenter.Base.Transaction
import ConfigCenter.Storage.Effects

/-!
# Transactions of the store

Library `Storage`. `beginTransaction`, `commitTransaction` and `rollbackTransaction`
among the other calls of the store: the connection is a transacted state in the sense of
`Base.Transaction` whose actions are the effects of `Storage.Effects`. All callers
share the one connection, so a rollback takes back what any of them wrote, and
`publishRelease` fails while a transaction is open.
-/

namespace ConfigCenter.Storage
open ConfigCenter.Base StorageM

/-- Calls that open a transaction of their own. -/
def Call.opensItsOwn : Call → Bool
  | .publishRelease _ _ _ => true
  | _ => false

/-- Calls of the transaction control and all others. -/
def control (e : Event) : Control Event :=
  match e.2 with
  | .beginTransaction => .begin
  | .commitTransaction => .commit
  | .rollbackTransaction => .rollback
  | _ => .act e

/-- The connection as a transacted state. -/
def Database.transacted (db : Database) : Transacted Tables := ⟨db.tables, db.snapshot⟩

/-- The tables after a call that does not control transactions. -/
def tablesAfter (inside : Bool) (t : Tables) (e : Event) : Tables :=
  e.2.effect { tables := t, snapshot := if inside then some t else none } e.1

/-- The calls whose effect lasts: none of the transaction control, none that a rollback takes
back, and no publication inside a transaction. -/
def lastingCalls (inside : Bool) (es : List Event) : List Event :=
  ((Transacted.survivors inside (es.map control)).filter fun x ↦
    !(x.1 && x.2.2.opensItsOwn)).map Prod.snd

private theorem effect_congr {db db' : Database} (ht : db'.tables = db.tables)
    (hs : db'.snapshot.isSome = db.snapshot.isSome) (ts : Timestamp) (c : Call) :
    c.effect db' ts = c.effect db ts := by
  obtain ⟨t, snapshot⟩ := db
  obtain ⟨t', snapshot'⟩ := db'
  cases ht
  cases c with
  | publishRelease ns note op =>
    simp only [Call.effect]
    rw [hs]
  | _ => rfl

private theorem tablesAfter_isSome (db : Database) (e : Event) :
    tablesAfter db.snapshot.isSome db.tables e = e.2.effect db e.1 := by
  apply effect_congr
  · rfl
  · cases db.snapshot <;> rfl

private theorem control_of_isTransactional_eq_false {e : Event}
    (h : e.2.isTransactional = false) : control e = .act e := by
  obtain ⟨ts, c⟩ := e
  cases c with
  | beginTransaction | commitTransaction | rollbackTransaction => cases h
  | _ => rfl

/-- A call is a step of the transacted state. -/
theorem transacted_step (db : Database) (e : Event) :
    (step db e).transacted = Transacted.step tablesAfter db.transacted (control e) := by
  obtain ⟨ts, c⟩ := e
  cases hc : c.isTransactional with
  | false =>
    rw [step_effect db ts c hc, control_of_isTransactional_eq_false hc, Transacted.step]
    have h : tablesAfter db.snapshot.isSome db.tables (ts, c) = c.effect db ts :=
      tablesAfter_isSome db (ts, c)
    exact congrArg (Transacted.mk · db.snapshot) h.symm
  | true =>
    cases c with
    | beginTransaction => rw [step_beginTransaction]; rfl
    | commitTransaction => rw [step_commitTransaction]; rfl
    | rollbackTransaction => rw [step_rollbackTransaction]; rfl
    | _ => cases hc

/-- Calls are a run of it. -/
theorem transacted_run (db : Database) (es : List Event) :
    (run step db es).transacted =
      run (Transacted.step tablesAfter) db.transacted (es.map control) := by
  induction es generalizing db with
  | nil => rfl
  | cons e es ih => rw [run_cons, ih, transacted_step, List.map_cons, run_cons]

private theorem isTransactional_of_mem_survivors {inside : Bool} {es : List Event}
    {x : Bool × Event} (h : x ∈ Transacted.survivors inside (es.map control)) :
    x.2.2.isTransactional = false := by
  obtain ⟨⟨ts, c⟩, -, he⟩ := List.mem_map.mp (Transacted.mem_of_mem_survivors h)
  cases c with
  | beginTransaction | commitTransaction | rollbackTransaction => cases he
  | _ =>
    rw [← Control.act.inj he]
    rfl

-- Inside a transaction only a publication does other than outside.
private theorem tablesAfter_cases (inside : Bool) (t : Tables) (e : Event) :
    tablesAfter inside t e =
      if inside && e.2.opensItsOwn then t else tablesAfter false t e := by
  obtain ⟨ts, c⟩ := e
  cases inside with
  | false => rfl
  | true =>
    cases c with
    | publishRelease ns note op => rfl
    | _ => rfl

private theorem run_lasting (t : Tables) {l : List (Bool × Event)}
    (hl : ∀ x ∈ l, x.2.2.isTransactional = false) :
    run step { tables := t }
        ((l.filter fun x ↦ !(x.1 && x.2.2.opensItsOwn)).map Prod.snd) =
      { tables := run (fun t e ↦ tablesAfter e.1 t e.2) t l } := by
  induction l generalizing t with
  | nil => rfl
  | cons x l ih =>
    have hrest := fun y hy ↦ hl y (List.mem_cons_of_mem x hy)
    rw [run_cons, tablesAfter_cases]
    by_cases hx : (x.1 && x.2.2.opensItsOwn) = true
    · rw [List.filter_cons_of_neg (by simp [hx]), if_pos hx, ih _ hrest]
    · rw [List.filter_cons_of_pos (by rw [Bool.eq_false_iff.mpr hx]; rfl), if_neg hx,
        List.map_cons, run_cons, step_effect _ _ _ (hl x (by simp)), ← ih _ hrest]
      rfl

/-! ### The schema -/

/-- What the schema asks beyond the keys of the tables: every namespace belongs to an application,
and no two users share a name. -/
structure Tables.Conforms (t : Tables) : Prop where
  owned : ∀ n ∈ t.namespaces.rows, (t.applications.find? n.appId).isSome
  unique : (t.users.rows.map (·.username)).Nodup

/-- Empty tables conform to the schema. -/
theorem conforms_empty : Tables.empty.Conforms where
  owned := by simp [Tables.empty, KeyedTable.empty]
  unique := by simp [Tables.empty, SerialTable.empty]

private theorem Tables.Conforms.congr {t t' : Tables} (h : t.Conforms)
    (ha : t'.applications = t.applications) (hn : t'.namespaces = t.namespaces)
    (hu : t'.users = t.users) : t'.Conforms where
  owned := by rw [hn, ha]; exact h.owned
  unique := by rw [hu]; exact h.unique

private theorem conforms_createApplication {t : Tables} (h : t.Conforms) (app : Application)
    {applications : KeyedTable Application.appId}
    (hi : t.applications.insert? app = some applications) :
    Tables.Conforms { t with applications } where
  owned := by
    intro n hn
    rw [KeyedTable.find?_insert? hi]
    split
    · rfl
    · exact h.owned n hn
  unique := h.unique

private theorem conforms_deleteApplication {t : Tables} (h : t.Conforms) {appId : String}
    (hfree : ((t.applications.find? appId).isSome &&
      t.namespaces.rows.any (·.appId = appId)) = false) :
    Tables.Conforms { t with
      applications := t.applications.removeWhere (fun a ↦ a.appId = appId) } where
  owned := by
    intro n hn
    obtain ⟨app, ha⟩ := Option.isSome_iff_exists.mp (h.owned n hn)
    have hne : app.appId ≠ appId := by
      intro heq
      have hkey : app.appId = n.appId := KeyedTable.key_of_find? ha
      rw [hkey] at heq
      rw [← heq, ha] at hfree
      have hany : t.namespaces.rows.any (·.appId = n.appId) = true :=
        List.any_eq_true.mpr ⟨n, hn, decide_eq_true rfl⟩
      rw [hany] at hfree
      cases hfree
    rw [KeyedTable.find?_removeWhere, ha]
    simp [hne]
  unique := h.unique

private theorem conforms_createNamespace {t : Tables} (h : t.Conforms) {ns : Namespace}
    {app : Application} (ha : t.applications.find? ns.appId = some app)
    {namespaces : KeyedTable Namespace.id} (hi : t.namespaces.insert? ns = some namespaces) :
    Tables.Conforms { t with namespaces } where
  owned := by
    intro n hn
    change n ∈ namespaces.rows at hn
    rw [KeyedTable.rows_insert? hi] at hn
    obtain hn | hn := List.mem_append.mp hn
    · exact h.owned n hn
    · rw [List.mem_singleton.mp hn]
      exact Option.isSome_iff_exists.mpr ⟨app, ha⟩
  unique := h.unique

private theorem conforms_createUser {t : Tables} (h : t.Conforms) {user : User}
    (hfree : t.users.rows.any (fun x ↦ x.username = user.username) = false) :
    Tables.Conforms { t with
      users := t.users.append (fun n ↦ { user with id := n }) user.id_with } where
  owned := h.owned
  unique := by
    change ((t.users.rows ++ [_]).map _).Nodup
    rw [List.map_append, List.map_singleton]
    refine List.nodup_append.mpr ⟨h.unique, List.nodup_singleton _, ?_⟩
    intro name hname last hlast heq
    obtain ⟨x, hx, rfl⟩ := List.mem_map.mp hname
    have hany : t.users.rows.any (fun x ↦ x.username = user.username) = true :=
      List.any_eq_true.mpr ⟨x, hx, by simpa [List.mem_singleton.mp hlast] using heq⟩
    rw [hany] at hfree
    cases hfree

private theorem conforms_tablesAfter (inside : Bool) {t : Tables} (e : Event) (h : t.Conforms) :
    (tablesAfter inside t e).Conforms := by
  obtain ⟨ts, c⟩ := e
  rw [tablesAfter_cases]
  split
  · exact h
  · rw [tablesAfter]
    cases c with
    | createApplication app =>
      simp only [Call.effect]
      split
      · exact h
      · next hi => exact conforms_createApplication h app hi
    | deleteApplication appId =>
      simp only [Call.effect]
      split
      · exact h
      · next hfree => exact conforms_deleteApplication h (Bool.eq_false_iff.mpr hfree)
    | createNamespace ns =>
      simp only [Call.effect]
      split
      · next ha hi => exact conforms_createNamespace h ha hi
      · exact h
    | deleteNamespace nsId =>
      exact ⟨fun n hn ↦ h.owned n (List.mem_of_mem_filter hn), h.unique⟩
    | createUser user =>
      simp only [Call.effect]
      split
      · exact h
      · next hfree => exact conforms_createUser h (Bool.eq_false_iff.mpr hfree)
    | _ => exact h.congr rfl rfl rfl

/-- On a store that was new, the schema holds after any calls, inside and outside transactions. -/
theorem conforms_run (es : List Event) : (run step .empty es).tables.Conforms := by
  have h : (run step Database.empty es).transacted =
      run (Transacted.step tablesAfter) Database.empty.transacted (es.map control) :=
    transacted_run .empty es
  change (run step Database.empty es).transacted.state.Conforms
  rw [h]
  refine Transacted.state_run_invariant (I := Tables.Conforms) conforms_empty ?_ ?_ _
  · intro t ht
    cases ht
  · intro inside t e ht
    exact conforms_tablesAfter inside e ht

/-! ### What lasts -/

/-- After any calls the tables are those of the calls that last, made outside all transactions:
from the tables that an open transaction began in when its rollback is among the calls, from the
visible ones otherwise. -/
theorem tables_of_lasting_calls (db : Database) (es : List Event) :
    (run step db es).tables =
      (run step { tables := db.transacted.base (es.map control) }
        (lastingCalls db.snapshot.isSome es)).tables := by
  have hl := fun x (hx : x ∈ Transacted.survivors db.snapshot.isSome (es.map control)) ↦
    isTransactional_of_mem_survivors hx
  rw [lastingCalls, run_lasting _ hl]
  calc (run step db es).tables
      = (run step db es).transacted.state := rfl
    _ = (run (Transacted.step tablesAfter) db.transacted (es.map control)).state := by
        rw [transacted_run]
    _ = _ := Transacted.state_run tablesAfter db.transacted (es.map control)

end ConfigCenter.Storage
