import ConfigCenter.Base.Interleaving
import ConfigCenter.Storage.Effects
import ConfigCenter.Storage.NamespaceManager

/-!
# Concurrent registration of an application

Library `Storage`. Any number of `registerApplication` calls with one id, each a
locked lookup followed by a locked insertion, among other calls of the store. The
answer of the lookup is stale by the time of the insertion; what keeps a second
caller out is the primary key, whose violation `createApplication` turns into
`false`.
-/

namespace ConfigCenter.Storage
open ConfigCenter.Base StorageM

/-- How far a registration has come. -/
inductive RegisterStage where
  | start
  /-- The lookup has found no application. -/
  | absent
  | answered (ok : Bool)
  deriving DecidableEq, Repr

/-- A caller of `registerApplication` and how far its call has come. -/
structure Registrar where
  name : String
  description : Option String
  stage : RegisterStage := .start
  deriving DecidableEq, Repr

namespace Registrar

variable (appId : String)

/-- The next locked section of a call, `namespace_manager.cpp:34–42`. -/
def nextSection (ts : Timestamp) (c : Registrar) : StorageM RegisterStage :=
  match c.stage with
  | .start => do
    let existing ← SqliteConfigStore.getApplication appId
    return if existing.isSome then .answered false else .absent
  | .absent => do
    let ok ← SqliteConfigStore.createApplication
      { appId, name := c.name, description := c.description, createdAt := ts }
    return .answered ok
  | .answered ok => return .answered ok

/-- Run the next section of a caller; an exception ends its call unsuccessfully. -/
def act (ts : Timestamp) (_i : Nat) (c : Registrar) (db : Database) : Registrar × Database :=
  match c.nextSection appId ts noFaults db with
  | (.ok stage, db') => ({ c with stage }, db')
  | (.error _, db') => ({ c with stage := .answered false }, db')

end Registrar

/-- The next section of one caller, or a call of someone else. -/
inductive RegisterEvent where
  | turn (ts : Timestamp) (caller : Nat)
  | other (event : Event)

/-- One event of an interleaving. -/
def registerStep (appId : String) (s : Clients Registrar Database) :
    RegisterEvent → Clients Registrar Database
  | .turn ts caller => Clients.step (Registrar.act appId) s (ts, caller)
  | .other event => { s with shared := step s.shared event }

/-- A call of someone else neither creates nor removes the application. -/
def KeepsApplication (appId : String) (s : Clients Registrar Database) : RegisterEvent → Prop
  | .turn _ _ => True
  | .other event => (step s.shared event).tables.applications.find? appId =
      s.shared.tables.applications.find? appId

instance (appId : String) (s : Clients Registrar Database) (e : RegisterEvent) :
    Decidable (KeepsApplication appId s e) :=
  match e with
  | .turn _ _ => isTrue True.intro
  | .other event => inferInstanceAs (Decidable ((step s.shared event).tables.applications.find?
      appId = s.shared.tables.applications.find? appId))

/-- Callers that have not begun, one for each name and description. -/
def registrars (db : Database) (requests : List (String × Option String)) :
    Clients Registrar Database where
  locals := requests.map fun r ↦ { name := r.1, description := r.2 }
  shared := db

/-! ### One section -/

section OneSection

variable {appId : String} {ts : Timestamp} {i : Nat} {c : Registrar} {db : Database}

/-- The lookup leaves the database as it is. -/
theorem act_start (h : c.stage = .start) :
    c.act appId ts i db =
      ({ c with stage := if (db.tables.applications.find? appId).isSome then .answered false
          else .absent }, db) := by
  simp only [Registrar.act, Registrar.nextSection, h, bind_run, getApplication_run, pure_run]

/-- The insertion of an application that is stored meets its key and is answered `false`. -/
theorem act_absent_of_some (h : c.stage = .absent) {app : Application}
    (ha : db.tables.applications.find? appId = some app) :
    c.act appId ts i db = ({ c with stage := .answered false }, db) := by
  have hi : db.tables.applications.insert?
      { appId, name := c.name, description := c.description, createdAt := ts } = none :=
    (KeyedTable.insert?_eq_none_iff _ _).mpr ⟨app, ha⟩
  simp [Registrar.act, Registrar.nextSection, h, SqliteConfigStore.createApplication,
    insertApplication, noFaults, hi]

/-- The insertion of an application that is not stored stores the caller's. -/
theorem act_absent_of_none (ts : Timestamp) (i : Nat) (h : c.stage = .absent)
    (ha : db.tables.applications.find? appId = none) :
    (c.act appId ts i db).1 = { c with stage := .answered true } ∧
      (c.act appId ts i db).2.tables.applications.find? appId =
        some { appId, name := c.name, description := c.description, createdAt := ts } := by
  obtain ⟨applications, hi⟩ := KeyedTable.exists_insert? (t := db.tables.applications)
    (r := { appId, name := c.name, description := c.description, createdAt := ts }) ha
  have hfound := KeyedTable.find?_insert? hi appId
  rw [if_pos rfl] at hfound
  simp [Registrar.act, Registrar.nextSection, h, SqliteConfigStore.createApplication,
    insertApplication, noFaults, hi, hfound]

/-- A call that has been answered does nothing more. -/
theorem act_answered {ok : Bool} (h : c.stage = .answered ok) : c.act appId ts i db = (c, db) := by
  obtain ⟨name, description, stage⟩ := c
  cases h
  rfl

end OneSection

/-- The two sections of one caller that nobody interrupts are `registerApplication`. -/
theorem registerApplication_solo (appId name : String) (description : Option String)
    (ts : Timestamp) (db : Database) :
    let final := run (registerStep appId) (registrars db [(name, description)])
      [.turn ts 0, .turn ts 0]
    ∃ ok, NamespaceManager.registerApplication appId name description ts noFaults db =
        (.ok ok, final.shared) ∧
      final.locals = [{ name, description, stage := .answered ok }] := by
  simp only [registrars, registerStep, run_cons, run_nil, Clients.step, List.map_cons,
    List.map_nil, List.getElem?_cons_zero, List.set_cons_zero, act_start,
    NamespaceManager.registerApplication, bind_run, getApplication_run]
  cases hf : db.tables.applications.find? appId with
  | some app =>
    refine ⟨false, ?_, ?_⟩
    · simp [act_answered]
    · simp [act_answered]
  | none =>
    obtain ⟨applications, hi⟩ := KeyedTable.exists_insert? (t := db.tables.applications)
      (r := { appId, name, description, createdAt := ts }) hf
    have hcreate : SqliteConfigStore.createApplication
        { appId, name, description, createdAt := ts } noFaults db =
          (.ok true, { db with tables := { db.tables with applications } }) := by
      simp [SqliteConfigStore.createApplication, insertApplication, noFaults, hi]
    refine ⟨true, ?_, ?_⟩
    · simp [Registrar.act, Registrar.nextSection, hcreate]
    · simp [Registrar.act, Registrar.nextSection, hcreate]

/-! ### Interleavings -/

/-- At most one caller was answered `true`: none was answered while the application is not
stored, and once it is, it is that caller's. -/
structure OneWinner (appId : String) (requests : List (String × Option String))
    (s : Clients Registrar Database) : Prop where
  requests : s.locals.map (fun c ↦ (c.name, c.description)) = requests
  free : s.shared.tables.applications.find? appId = none →
    ∀ c ∈ s.locals, ∀ ok, c.stage ≠ .answered ok
  won : ∀ app, s.shared.tables.applications.find? appId = some app →
    ∃ (i : Nat) (c : Registrar), s.locals[i]? = some c ∧ c.stage = .answered true ∧
      app.name = c.name ∧ app.description = c.description ∧
      ∀ (j : Nat) (d : Registrar), s.locals[j]? = some d → d.stage = .answered true → j = i

variable {appId : String} {requests : List (String × Option String)}
  {s : Clients Registrar Database}

private theorem oneWinner_start {db : Database}
    (h : db.tables.applications.find? appId = none) :
    OneWinner appId requests (registrars db requests) where
  requests := by
    rw [registrars, List.map_map]
    exact (List.map_congr_left fun _ _ ↦ rfl).trans (List.map_id requests)
  free _ c hc ok := by
    obtain ⟨r, _, rfl⟩ := List.mem_map.mp hc
    simp
  won app happ := by
    rw [registrars, h] at happ
    cases happ

-- A section that leaves the database alone and is not answered with success.
private theorem oneWinner_set (h : OneWinner appId requests s) {i : Nat} {c : Registrar}
    (hc : s.locals[i]? = some c) (hlost : c.stage ≠ .answered true) {stage : RegisterStage}
    (hstage : stage ≠ .answered true)
    (hfree : s.shared.tables.applications.find? appId = none → ∀ ok, stage ≠ .answered ok) :
    OneWinner appId requests
      { locals := s.locals.set i { c with stage }, shared := s.shared } where
  requests := by
    rw [List.map_set, set_of_getElem? (by rw [List.getElem?_map, hc]; rfl), h.requests]
  free hnone d hd ok := by
    rcases List.mem_or_eq_of_mem_set hd with hd | rfl
    · exact h.free hnone d hd ok
    · exact hfree hnone ok
  won app happ := by
    obtain ⟨k, w, hw, hstagew, hname, hdescription, hunique⟩ := h.won app happ
    have hne : i ≠ k := by
      rintro rfl
      rw [hc] at hw
      cases hw
      exact hlost hstagew
    refine ⟨k, w, by rw [List.getElem?_set_ne hne, hw], hstagew, hname, hdescription, ?_⟩
    intro j d hd hstaged
    by_cases hj : i = j
    · subst hj
      rw [List.getElem?_set_self (List.getElem?_eq_some_iff.mp hc).1] at hd
      cases hd
      exact absurd hstaged hstage
    · rw [List.getElem?_set_ne hj] at hd
      exact hunique j d hd hstaged

-- The section that stores the application.
private theorem oneWinner_win (h : OneWinner appId requests s) {i : Nat} {c : Registrar}
    (hc : s.locals[i]? = some c) (hnone : s.shared.tables.applications.find? appId = none)
    {db : Database} {ts : Timestamp} (hdb : db.tables.applications.find? appId =
      some { appId, name := c.name, description := c.description, createdAt := ts }) :
    OneWinner appId requests
      { locals := s.locals.set i { c with stage := .answered true }, shared := db } where
  requests := by
    rw [List.map_set, set_of_getElem? (by rw [List.getElem?_map, hc]; rfl), h.requests]
  free hfree := by
    rw [hdb] at hfree
    cases hfree
  won app happ := by
    rw [hdb] at happ
    cases happ
    have hlt := (List.getElem?_eq_some_iff.mp hc).1
    refine ⟨i, _, List.getElem?_set_self hlt, rfl, rfl, rfl, ?_⟩
    intro j d hd hstaged
    by_contra hj
    rw [List.getElem?_set_ne (Ne.symm hj)] at hd
    exact h.free hnone d (List.mem_of_getElem? hd) true hstaged

/-- Every section, and every call that keeps the application, leaves at most one winner. -/
theorem oneWinner_step (h : OneWinner appId requests s) {e : RegisterEvent}
    (he : KeepsApplication appId s e) : OneWinner appId requests (registerStep appId s e) := by
  cases e with
  | other event =>
    simp only [KeepsApplication] at he
    exact ⟨h.requests, fun hnone ↦ h.free (he ▸ hnone), fun app happ ↦ h.won app (he ▸ happ)⟩
  | turn ts i =>
    cases hc : s.locals[i]? with
    | none =>
      rw [registerStep, Clients.step_of_none _ hc]
      exact h
    | some c =>
      simp only [registerStep, Clients.step, hc]
      cases hstage : c.stage with
      | start =>
        rw [act_start hstage]
        refine oneWinner_set h hc (by simp [hstage]) (by split <;> simp) fun hnone ok ↦ ?_
        simp [hnone]
      | absent =>
        cases ha : s.shared.tables.applications.find? appId with
        | some app =>
          rw [act_absent_of_some hstage ha]
          refine oneWinner_set h hc (by simp [hstage]) (by simp) fun hnone ↦ ?_
          rw [ha] at hnone
          cases hnone
        | none =>
          obtain ⟨hlocal, hdb⟩ := act_absent_of_none ts i hstage ha
          rw [hlocal]
          exact oneWinner_win h hc ha hdb
      | answered ok =>
        rw [act_answered hstage, set_of_getElem? hc]
        exact h

/-- When all callers have been answered, exactly one of them was answered `true`, and the
stored application has its name and description. -/
theorem registerApplication_one_winner (appId : String) (db : Database)
    (requests : List (String × Option String)) (es : List RegisterEvent)
    (hfree : db.tables.applications.find? appId = none) (hrequests : requests ≠ [])
    (hkeeps : Along (registerStep appId) (KeepsApplication appId) (registrars db requests) es)
    (hdone : ∀ c ∈ (run (registerStep appId) (registrars db requests) es).locals,
      ∃ ok, c.stage = .answered ok) :
    let final := run (registerStep appId) (registrars db requests) es
    ∃ (i : Nat) (name : String) (description : Option String) (app : Application),
      requests[i]? = some (name, description) ∧
      (∀ j : Nat, (final.locals[j]?).map Registrar.stage = some (.answered true) ↔ j = i) ∧
      final.shared.tables.applications.find? appId = some app ∧
      app.name = name ∧ app.description = description := by
  intro final
  have hwinner : OneWinner appId requests final :=
    run_invariant_along (oneWinner_start hfree) (fun _ _ h he ↦ oneWinner_step h he) hkeeps
  have hlocals : final.locals ≠ [] := by
    intro hnil
    have hmap := hwinner.requests
    rw [hnil] at hmap
    exact hrequests hmap.symm
  cases happ : final.shared.tables.applications.find? appId with
  | none =>
    -- nobody can have been answered while the application is not stored
    obtain ⟨c, hc⟩ := List.exists_mem_of_ne_nil _ hlocals
    obtain ⟨ok, hok⟩ := hdone c hc
    exact absurd hok (hwinner.free happ c hc ok)
  | some app =>
    obtain ⟨i, c, hc, hstage, hname, hdescription, hunique⟩ := hwinner.won app happ
    refine ⟨i, c.name, c.description, app, ?_, ?_, rfl, hname, hdescription⟩
    · rw [← hwinner.requests, List.getElem?_map, hc]
      rfl
    · intro j
      constructor
      · intro hj
        obtain ⟨d, hd, hdstage⟩ := Option.map_eq_some_iff.mp hj
        exact hunique j d hd hdstage
      · rintro rfl
        rw [hc, Option.map_some, hstage]

/-- Two callers that both find nothing, with a namespace lookup and another application's
registration in between. -/
theorem registerApplication_one_winner_race :
    let requests : List (String × Option String) := [("Shop", none), ("Store", some "second")]
    let other : Application :=
      { appId := "bank", name := "Bank", description := none, createdAt := "t3" }
    let es : List RegisterEvent :=
      [.turn "t1" 0, .turn "t2" 1, .other ("t3", .createApplication other), .turn "t4" 1,
        .other ("t5", .getNamespace "shop/DEV/default/app"), .turn "t6" 0]
    let final := run (registerStep "shop") (registrars Database.empty requests) es
    (∀ c ∈ final.locals, ∃ ok, c.stage = .answered ok) ∧
      ∃ (i : Nat) (name : String) (description : Option String) (app : Application),
        requests[i]? = some (name, description) ∧
        (∀ j : Nat, (final.locals[j]?).map Registrar.stage = some (.answered true) ↔ j = i) ∧
        final.shared.tables.applications.find? "shop" = some app ∧
        app.name = name ∧ app.description = description :=
  ⟨by decide, registerApplication_one_winner "shop" Database.empty _ _ (by decide) (by decide)
    (by decide) (by decide)⟩

end ConfigCenter.Storage
