import ConfigCenter.Server.Routing
import ConfigCenter.Server.HttpSession

/-!
# Answered requests

Library `Server`. `HttpSession::handleRequest` calls the handler of the request's route
and sends what it returns. No handler and no caller catches, so an exception leaves the
request unanswered and ends the server. `Answerable` says for which requests and in which
states of the store this does not happen.
-/

namespace ConfigCenter.Server.HttpSession
open ConfigCenter.Storage ConfigCenter.Base StorageM

/-- A request as `handleRequest` reads it. -/
structure Request where
  method : Method
  target : String
  body : String

/-- Values of `http::status`. -/
inductive Status where
  | ok
  | notFound
  deriving DecidableEq, Repr

/-- The handler of a route; a method that no handler serves leaves the body null. -/
def handle (parse : Parse) (body : String) (ts : Timestamp) : Route → StorageM Json
  | .health => handleHealth
  | .login => handleLogin parse body
  | .createApp => handleCreateApp parse body ts
  | .listApps => handleListApps
  | .getApp appId => handleGetApp appId
  | .deleteApp appId => handleDeleteApp appId
  | .listNamespaces appId => handleListNamespaces appId
  | .createNamespace => handleCreateNamespace parse body ts
  | .getConfig ns key => handleGetConfig ns key
  | .setConfig ns key => handleSetConfig parse body ns key ts
  | .deleteConfig ns key => handleDeleteConfig ns key ts
  | .publish ns => handlePublish parse body ns ts
  | .getReleases ns => handleGetReleases ns
  | .notifications => handleNotifications
  | .unserved => return .null
  | .notFound => return ApiResponse.error 404 "Not found"

/-- `handleRequest`, `http_server.cpp:39–113`, with the arguments of `sendResponse`. -/
def handleRequest (parse : Parse) (request : Request) (ts : Timestamp) :
    StorageM (Status × Json) := do
  let called := route request.method request.target
  let responseBody ← handle parse request.body ts called
  return (if called = .notFound then .notFound else .ok, responseBody)

/-! ### What a request needs -/

/-- The routes whose handlers parse the body. -/
def readsBody : Route → Bool
  | .login | .createApp | .createNamespace | .setConfig _ _ | .publish _ => true
  | _ => false

/-- The parsed body has the members that the handler converts to strings. A body for a new
application that lacks a required member is answered before any conversion. -/
def hasMembers (j : Json) : Route → Bool
  | .createApp =>
    !(j.contains "app_id" && j.contains "name") ||
      (j.hasString "app_id" && j.hasString "name" && j.stringOrAbsent "description")
  | .createNamespace =>
    j.hasString "app_id" && j.hasString "env" && j.stringOrAbsent "cluster" &&
      j.hasString "name" && j.stringOrAbsent "type" && j.stringOrAbsent "parent_namespace_id"
  | .setConfig _ _ => j.hasString "value"
  | .publish _ => j.isObject && j.stringOrAbsent "release_note"
  | _ => true

/-- A stored application that a namespace references. -/
def referenced (db : Database) (appId : String) : Bool :=
  (db.tables.applications.find? appId).isSome && db.tables.namespaces.rows.any (·.appId = appId)

/-- The store does not refuse the request: the application to delete has no namespace, and a
publication finds no open transaction. -/
def allowed (db : Database) : Route → Bool
  | .deleteApp appId => !referenced db appId
  | .publish _ => db.snapshot.isNone
  | _ => true

/-- The request can be answered in a state of the store. -/
def answerable (parse : Parse) (request : Request) (db : Database) : Bool :=
  let called := route request.method request.target
  (!readsBody called || (parse request.body).any (hasMembers · called)) && allowed db called

/-- `handleRequest` reaches `sendResponse`. -/
def Answered (parse : Parse) (request : Request) (ts : Timestamp) (db : Database) : Prop :=
  ∃ response db', handleRequest parse request ts noFaults db = (.ok response, db')

/-! ### Outcomes of handlers -/

-- A computation returns where `p` holds, and elsewhere throws and leaves the store as it was.
private def Outcome {α : Type} (p : Bool) (x : StorageM α) (db : Database) : Prop :=
  if p then ∃ a db', x noFaults db = (.ok a, db') else ∃ e, x noFaults db = (.error e, db)

section Outcome
variable {α β : Type} {p q : Bool} {db : Database}

-- what reads the body comes before what touches the store
private theorem outcome_bind {x : StorageM α} {f : α → StorageM β} (hx : Reads p x)
    (hf : ∀ a, Outcome q (f a) db) : Outcome (p && q) (x >>= f) db := by
  cases p with
  | false => exact ⟨.json, by rw [show x = _ from hx]; rfl⟩
  | true =>
    obtain ⟨a, rfl⟩ := hx
    exact hf a

private theorem outcome_parseBody {parse : Parse} {body : String} {f : Json → StorageM β}
    {q : Json → Bool} (hf : ∀ j, Outcome (q j) (f j) db) :
    Outcome ((parse body).any q) (parseBody parse body >>= f) db := by
  unfold parseBody
  cases parse body with
  | none => exact ⟨.json, rfl⟩
  | some j => exact hf j

private theorem outcome_ok {x : StorageM α} {a : α} {db' : Database}
    (h : x noFaults db = (.ok a, db')) : Outcome true x db :=
  ⟨a, db', h⟩

private theorem outcome_map {x : StorageM α} (hx : Outcome p x db) (f : α → β) :
    Outcome p (x >>= fun a ↦ pure (f a)) db := by
  cases p with
  | false =>
    obtain ⟨e, hrun⟩ := hx
    exact ⟨e, by rw [bind_run, hrun]⟩
  | true =>
    obtain ⟨a, db', hrun⟩ := hx
    exact ⟨f a, db', by rw [bind_run, hrun]; rfl⟩

-- `if (!ok) return …; return …;`
private theorem outcome_report {x : StorageM Bool}
    (h : ∃ ok db', x noFaults db = (.ok ok, db')) (refusal response : α) :
    Outcome true (x >>= fun ok ↦ if !ok then pure refusal else pure response) db := by
  obtain ⟨ok, db', hrun⟩ := h
  cases ok with
  | false => exact outcome_ok (by rw [bind_run, hrun]; rfl)
  | true => exact outcome_ok (by rw [bind_run, hrun]; rfl)

end Outcome

variable {parse : Parse} {body : String} {ts : Timestamp} {db : Database}

private theorem succeeds_returns (x : StorageM Unit) (faults : Faults) (db : Database) :
    ∃ ok db', succeeds x faults db = (.ok ok, db') := by
  rw [succeeds_run]
  split
  · exact ⟨_, _, rfl⟩
  · exact ⟨_, _, rfl⟩

private theorem registerApplication_returns (appId name : String) (description : Option String)
    (ts : Timestamp) (db : Database) :
    ∃ ok db', NamespaceManager.registerApplication appId name description ts noFaults db =
      (.ok ok, db') := by
  simp only [NamespaceManager.registerApplication, SqliteConfigStore.getApplication,
    SqliteConfigStore.createApplication, insertApplication, bind_run, getAll_run, noFaults,
    Bool.false_eq_true, if_false, pure_run]
  split
  · exact ⟨_, _, rfl⟩
  · exact succeeds_returns _ _ db

private theorem createNamespace_returns (appId env cluster name type : String)
    (parent : Option String) (ts : Timestamp) (db : Database) :
    ∃ ok db', NamespaceManager.createNamespace appId env cluster name type parent ts noFaults db =
      (.ok ok, db') := by
  simp only [NamespaceManager.createNamespace, SqliteConfigStore.getApplication,
    SqliteConfigStore.createNamespace, insertNamespace, bind_run, getAll_run, noFaults,
    Bool.false_eq_true, if_false, pure_run]
  split
  · exact ⟨_, _, rfl⟩
  · exact succeeds_returns _ _ db

private theorem outcome_getApp (appId : String) : Outcome true (handleGetApp appId) db := by
  simp only [Outcome, handleGetApp, NamespaceManager.getApplication,
    SqliteConfigStore.getApplication, bind_run, getAll_run, noFaults, Bool.false_eq_true, if_false,
    pure_run, if_true]
  cases (db.tables.applications.rows.filter fun a ↦ a.appId = appId).head? with
  | none => exact ⟨_, _, rfl⟩
  | some app => exact ⟨_, _, rfl⟩

private theorem outcome_getConfig (ns key : String) : Outcome true (handleGetConfig ns key) db := by
  simp only [Outcome, handleGetConfig, bind_run, getConfig_run, if_true]
  cases db.ledger.config? ns key false with
  | none => exact ⟨_, _, rfl⟩
  | some config => exact ⟨_, _, rfl⟩

private theorem outcome_login :
    Outcome ((parse body).any fun _ ↦ true) (handleLogin parse body) db :=
  outcome_parseBody fun _ ↦ outcome_ok rfl

private theorem outcome_createApp :
    Outcome ((parse body).any (hasMembers · .createApp)) (handleCreateApp parse body ts) db := by
  refine outcome_parseBody fun j ↦ ?_
  have hmissing : (!j.contains "app_id" || !j.contains "name") =
      !(j.contains "app_id" && j.contains "name") := by rw [Bool.not_and]
  unfold hasMembers
  rw [hmissing]
  cases j.contains "app_id" && j.contains "name" with
  | false => exact outcome_ok rfl
  | true =>
    rw [Bool.not_true, Bool.false_or, Bool.and_assoc]
    refine outcome_bind (reads_stringField j _) fun appId ↦ ?_
    refine outcome_bind (reads_stringField j _) fun name ↦ ?_
    rw [← Bool.and_true (j.stringOrAbsent "description")]
    refine outcome_bind (reads_optionalStringField j _) fun description ↦ ?_
    exact outcome_report (registerApplication_returns appId name description ts db) _ _

private theorem outcome_createNamespace :
    Outcome ((parse body).any (hasMembers · .createNamespace))
      (handleCreateNamespace parse body ts) db := by
  refine outcome_parseBody fun j ↦ ?_
  have hobject : hasMembers j .createNamespace =
      (j.hasString "app_id" && (j.hasString "env" && ((j.isObject && j.stringOrAbsent "cluster") &&
        (j.hasString "name" && ((j.isObject && j.stringOrAbsent "type") &&
          (j.stringOrAbsent "parent_namespace_id" && true)))))) := by
    cases happ : j.hasString "app_id" with
    | false => simp [hasMembers, happ]
    | true => simp [hasMembers, happ, j.isObject_of_hasString happ, Bool.and_assoc]
  rw [hobject]
  refine outcome_bind (reads_stringField j _) fun appId ↦ ?_
  refine outcome_bind (reads_stringField j _) fun env ↦ ?_
  refine outcome_bind (reads_stringFieldOr j _ _) fun cluster ↦ ?_
  refine outcome_bind (reads_stringField j _) fun name ↦ ?_
  refine outcome_bind (reads_stringFieldOr j _ _) fun type ↦ ?_
  refine outcome_bind (reads_optionalStringField j _) fun parent ↦ ?_
  exact outcome_report (createNamespace_returns appId env cluster name type parent ts db) _ _

private theorem outcome_setConfig (ns key : String) :
    Outcome ((parse body).any (hasMembers · (.setConfig ns key)))
      (handleSetConfig parse body ns key ts) db := by
  have hrun := handleSetConfig_run parse body ns key ts db
  unfold requestedValue at hrun
  cases hparse : parse body with
  | none => exact ⟨.json, by rw [hrun, hparse]; rfl⟩
  | some j =>
    rw [hparse, Option.bind_some] at hrun
    simp only [Option.any_some, hasMembers, Json.hasString]
    cases hvalue : j.text? "value" with
    | none => exact ⟨.json, by rw [hrun, hvalue]⟩
    | some value => exact ⟨_, _, by rw [hrun, hvalue]⟩

private theorem outcome_publish (ns : String) :
    Outcome ((parse body).any (hasMembers · (.publish ns)) && db.snapshot.isNone)
      (handlePublish parse body ns ts) db := by
  have hany : ((parse body).any (hasMembers · (.publish ns)) && db.snapshot.isNone) =
      (parse body).any fun j ↦ hasMembers j (.publish ns) && db.snapshot.isNone := by
    cases parse body with
    | none => rfl
    | some j => rfl
  rw [hany]
  refine outcome_parseBody fun j ↦ ?_
  refine outcome_bind (reads_stringFieldOr j _ _) fun releaseNote ↦ ?_
  cases hopen : db.snapshot with
  | none =>
    refine outcome_ok (by
      rw [bind_run, publishRelease_run _ _ _ _ _ _ hopen]
      rfl)
  | some t =>
    have hrun := publishRelease_run_open ns releaseNote "system" ts db (by rw [hopen]; rfl)
    exact ⟨.transactionState, by rw [bind_run, hrun]⟩

private theorem outcome_deleteApp (appId : String) :
    Outcome (!referenced db appId) (handleDeleteApp appId) db := by
  have hrun := deleteApplication_run appId db
  rw [← referenced] at hrun
  unfold handleDeleteApp NamespaceManager.removeApplication
  cases h : referenced db appId with
  | true => exact ⟨.constraint, by rw [bind_run, hrun, h]; rfl⟩
  | false => exact outcome_ok (by rw [bind_run, hrun, h]; rfl)

private theorem outcome_handle (called : Route) :
    Outcome ((!readsBody called || (parse body).any (hasMembers · called)) && allowed db called)
      (handle parse body ts called) db := by
  cases called with
  | health | listApps | listNamespaces _ | getReleases _ | notifications | unserved | notFound =>
    exact outcome_ok rfl
  | getApp appId => exact outcome_getApp appId
  | getConfig ns key => exact outcome_getConfig ns key
  | deleteConfig ns key => exact outcome_ok (handleDeleteConfig_run ns key ts db)
  | login => exact Bool.and_true _ ▸ outcome_login
  | createApp => exact Bool.and_true _ ▸ outcome_createApp
  | createNamespace => exact Bool.and_true _ ▸ outcome_createNamespace
  | setConfig ns key => exact Bool.and_true _ ▸ outcome_setConfig ns key
  | publish ns => exact outcome_publish ns
  | deleteApp appId => exact outcome_deleteApp appId

private theorem outcome_handleRequest (parse : Parse) (request : Request) (ts : Timestamp)
    (db : Database) :
    Outcome (answerable parse request db) (handleRequest parse request ts) db :=
  outcome_map (outcome_handle (route request.method request.target)) _

private theorem answered_iff_answerable (request : Request) (ts : Timestamp) :
    Answered parse request ts db ↔ answerable parse request db := by
  have houtcome := outcome_handleRequest parse request ts db
  cases hcan : answerable parse request db with
  | true =>
    rw [hcan] at houtcome
    exact iff_of_true houtcome rfl
  | false =>
    rw [hcan] at houtcome
    obtain ⟨e, hrun⟩ := houtcome
    refine iff_of_false ?_ Bool.false_ne_true
    rintro ⟨response, db', hok⟩
    cases hrun.symm.trans hok

/-! ### Runs of the server -/

/-- Requests served one after the other; an exception ends the server. -/
def serve (parse : Parse) : List (Request × Timestamp) → StorageM (List (Status × Json))
  | [] => return []
  | (request, ts) :: rest => do
    let response ← handleRequest parse request ts
    let responses ← serve parse rest
    return response :: responses

/-- Every request can be answered in the state it meets. -/
def allAnswerable (parse : Parse) : List (Request × Timestamp) → Database → Bool
  | [], _ => true
  | (request, ts) :: rest, db =>
    answerable parse request db &&
      allAnswerable parse rest (handleRequest parse request ts noFaults db).2

private theorem serve_iff (requests : List (Request × Timestamp)) (db : Database) :
    (∃ responses db', serve parse requests noFaults db = (.ok responses, db')) ↔
      allAnswerable parse requests db := by
  induction requests generalizing db with
  | nil => exact iff_of_true ⟨[], db, rfl⟩ rfl
  | cons first rest ih =>
    obtain ⟨request, ts⟩ := first
    rw [serve, allAnswerable, Bool.and_eq_true, ← ih, ← answered_iff_answerable request ts]
    simp only [bind_run, Answered]
    cases hfirst : handleRequest parse request ts noFaults db with
    | mk answer db' =>
      cases answer with
      | error e => simp
      | ok response =>
        cases hrest : serve parse rest noFaults db' with
        | mk answers db'' =>
          cases answers with
          | error e => simp [hrest]
          | ok responses => simp [hrest]

/-- A request is answered exactly when its body has what the handler reads and the store does not
refuse it, in every state; and the server answers a run of requests exactly when this holds of
each in the state it meets. -/
theorem requests_answered_iff (parse : Parse) (db : Database) :
    (∀ request ts, Answered parse request ts db ↔ answerable parse request db) ∧
    ∀ requests, (∃ responses db', serve parse requests noFaults db = (.ok responses, db')) ↔
      allAnswerable parse requests db :=
  ⟨answered_iff_answerable, fun requests ↦ serve_iff requests db⟩

/-- The reader of two bodies; it refuses the empty text. -/
def shopParse : Parse := fun text ↦
  if text = "\x7b\"app_id\":\"shop\",\"name\":\"Shop\"\x7d" then
    some (.object [("app_id", .string "shop"), ("name", .string "Shop")])
  else if text = "\x7b\"app_id\":\"shop\",\"env\":\"prod\",\"name\":\"app\"\x7d" then
    some (.object [("app_id", .string "shop"), ("env", .string "prod"), ("name", .string "app")])
  else none

/-- The store after an application and a namespace of it were created over HTTP. -/
def shopRun : Except Thrown (List (Status × Json)) × Database :=
  serve shopParse
    [(⟨.post, "/api/v1/apps", "\x7b\"app_id\":\"shop\",\"name\":\"Shop\"\x7d"⟩,
        "2024-01-01T00:00:00Z"),
      (⟨.post, "/api/v1/namespaces",
          "\x7b\"app_id\":\"shop\",\"env\":\"prod\",\"name\":\"app\"\x7d"⟩,
        "2024-01-01T00:00:01Z")] noFaults .empty

/-- A login without a body is not answered, and neither is the deletion of an application with a
namespace. -/
theorem login_and_delete_not_answered :
    ¬ Answered shopParse ⟨.post, "/api/v1/auth/login", ""⟩ "2024-01-01T00:00:02Z" .empty ∧
    ¬ Answered shopParse ⟨.delete, "/api/v1/apps/shop", ""⟩ "2024-01-01T00:00:02Z" shopRun.2 := by
  constructor
  · rw [answered_iff_answerable]
    decide
  · rw [answered_iff_answerable]
    decide

end ConfigCenter.Server.HttpSession
