import ConfigCenter.Base.Program
import ConfigCenter.Storage.Effects
import ConfigCenter.Server.HttpRequests
import ConfigCenter.Server.GrpcService

/-!
# Handlers as programs

Library `Server`. The mutex of the store covers one store method, so a handler that
calls several of them can be interrupted between two. Here every HTTP and gRPC handler
is a program of store calls; `ServerRequest.program_exec` says that a program in one
piece is the handler of `http_server.cpp` or `grpc_server.cpp` it was read from.
-/

namespace ConfigCenter.Server
open ConfigCenter.Storage ConfigCenter.Base StorageM

/-- Store methods that handlers call. -/
inductive StoreCall where
  | getApplication (appId : String)
  | createApplication (app : Application)
  | listApplications
  | deleteApplication (appId : String)
  | createNamespace (ns : Namespace)
  | listNamespaces (appId env cluster : String)
  | getConfig (namespaceId key : String) (includeDraft : Bool)
  | createConfig (namespaceId key value operatorId : String)
  | updateConfig (namespaceId key value operatorId : String) (draft : Bool)
  | deleteConfig (namespaceId key operatorId : String) (draft : Bool)
  | publishRelease (namespaceId releaseNote operatorId : String)
  | getReleases (query : ReleaseQuery)
  deriving DecidableEq, Repr

namespace StoreCall

/-- What a method returns, with its output argument. -/
@[reducible] def Answer : StoreCall → Type
  | .getApplication _ => Option Application
  | .createApplication _ => Bool
  | .listApplications => List Application
  | .deleteApplication _ => Bool
  | .createNamespace _ => Bool
  | .listNamespaces _ _ _ => List Namespace
  | .getConfig _ _ _ => Option ConfigKey
  | .createConfig _ _ _ _ => Bool
  | .updateConfig _ _ _ _ _ => Bool
  | .deleteConfig _ _ _ _ => Bool
  | .publishRelease _ _ _ => Bool × Option Release
  | .getReleases _ => List Release

/-- Run the method at one clock reading. -/
def exec (ts : Timestamp) : (c : StoreCall) → StorageM c.Answer
  | .getApplication appId => SqliteConfigStore.getApplication appId
  | .createApplication app => SqliteConfigStore.createApplication app
  | .listApplications => SqliteConfigStore.listApplications
  | .deleteApplication appId => SqliteConfigStore.deleteApplication appId
  | .createNamespace ns => SqliteConfigStore.createNamespace ns
  | .listNamespaces appId env cluster => SqliteConfigStore.listNamespaces appId env cluster
  | .getConfig ns key includeDraft => SqliteConfigStore.getConfig ns key includeDraft
  | .createConfig ns key value op => SqliteConfigStore.createConfig ns key value op ts
  | .updateConfig ns key value op draft => SqliteConfigStore.updateConfig ns key value op draft ts
  | .deleteConfig ns key op draft => SqliteConfigStore.deleteConfig ns key op draft ts
  | .publishRelease ns note op => SqliteConfigStore.publishRelease ns note op ts
  | .getReleases query => SqliteConfigStore.getReleases query

/-- The method as a call of the store. -/
def toCall : StoreCall → Call
  | .getApplication appId => .getApplication appId
  | .createApplication app => .createApplication app
  | .listApplications => .listApplications
  | .deleteApplication appId => .deleteApplication appId
  | .createNamespace ns => .createNamespace ns
  | .listNamespaces appId env cluster => .listNamespaces appId env cluster
  | .getConfig ns key includeDraft => .getConfig ns key includeDraft
  | .createConfig ns key value op => .createConfig ns key value op
  | .updateConfig ns key value op draft => .updateConfig ns key value op draft
  | .deleteConfig ns key op draft => .deleteConfig ns key op draft
  | .publishRelease ns note op => .publishRelease ns note op
  | .getReleases query => .getReleases query

/-- The answer to a method and the database after it. -/
def respond (ts : Timestamp) (db : Database) (c : StoreCall) :
    Except Thrown c.Answer × Database :=
  c.exec ts noFaults db

/-- A method acts on the database as the call. -/
theorem respond_state (ts : Timestamp) (db : Database) (c : StoreCall) :
    (respond ts db c).2 = step db (ts, c.toCall) := by
  cases c <;> simp only [step, Storage.respond, toCall, Call.exec, snd_map_run] <;> rfl

/-- Handlers do not control transactions. -/
theorem isTransactional_toCall (c : StoreCall) : c.toCall.isTransactional = false := by
  cases c <;> rfl

end StoreCall

/-- Store calls of a handler, with its result or the exception that leaves it. -/
abbrev HandlerProgram (A : Type) := Program StoreCall (fun c ↦ Except Thrown c.Answer) A

/-- A handler: an exception of a store call leaves it. -/
abbrev HandlerM (α : Type) := ExceptT Thrown (Program StoreCall fun c ↦ Except Thrown c.Answer) α

/-- Call a store method. -/
def store (c : StoreCall) : HandlerM c.Answer := ExceptT.mk (.call c .done)

/-- A member that has to be there. -/
def required {α : Type} : Option α → HandlerM α
  | some a => pure a
  | none => throw .json

/-- `body.value(field, fallback)`, where it does not throw. -/
def Json.textOr? (j : Json) (field fallback : String) : Option String :=
  match j with
  | .object members =>
    match members.lookup field with
    | none => some fallback
    | some (.string s) => some s
    | some _ => none
  | _ => none

/-- `body.contains(field) ? std::optional(body[field]) : std::nullopt`, where it does not throw. -/
def Json.optionalText? (j : Json) (field : String) : Option (Option String) :=
  if j.contains field then (j.text? field).map some else some none

/-! ### Handlers of `http_server.cpp` -/

namespace HandlerProgram

/-- `registerApplication`, `namespace_manager.cpp:32–43`. -/
def registerApplication (appId name : String) (description : Option String) (now : Timestamp) :
    HandlerM Bool := do
  let existing ← store (.getApplication appId)
  if existing.isSome then
    return false
  store (.createApplication { appId, name, description, createdAt := now })

/-- `createNamespace`, `namespace_manager.cpp:110–127`. -/
def createNamespace (appId env cluster name type : String) (parentNamespaceId : Option String)
    (now : Timestamp) : HandlerM Bool := do
  let app ← store (.getApplication appId)
  if app.isNone then
    return false
  store (.createNamespace
    { id := NamespaceManager.makeNamespaceId appId env cluster name, appId, env, cluster, name,
      type, parentNamespaceId, approvalEnabled := some false, createdAt := now })

/-- `handleCreateApp`, `http_server.cpp:156–166`. -/
def handleCreateApp (parse : Parse) (body : String) (now : Timestamp) : HandlerM Json := do
  let j ← required (parse body)
  if !j.contains "app_id" || !j.contains "name" then
    return ApiResponse.error 400 "Missing required fields: app_id, name"
  let appId ← required (j.text? "app_id")
  let name ← required (j.text? "name")
  let description ← required (j.optionalText? "description")
  let ok ← registerApplication appId name description now
  if !ok then
    return ApiResponse.error 409 "Application already exists"
  return .object [("app_id", .string appId), ("name", .string name)]

/-- `handleListApps`, `http_server.cpp:168–178`. -/
def handleListApps : HandlerM Json := do
  let apps ← store .listApplications
  return .object [("applications", .array (apps.map fun app ↦ .object
    ([("app_id", .string app.appId), ("name", .string app.name)] ++
      HttpSession.descriptionMember app ++ [("created_at", .string app.createdAt)])))]

/-- `handleGetApp`, `http_server.cpp:180–186`. -/
def handleGetApp (appId : String) : HandlerM Json := do
  let app ← store (.getApplication appId)
  match app with
  | none => return ApiResponse.error 404 "Application not found"
  | some app =>
    return .object
      ([("app_id", .string app.appId), ("name", .string app.name),
        ("created_at", .string app.createdAt)] ++ HttpSession.descriptionMember app)

/-- `handleDeleteApp`, `http_server.cpp:188–191`. -/
def handleDeleteApp (appId : String) : HandlerM Json := do
  let _ ← store (.deleteApplication appId)
  return ApiResponse.success

/-- `handleListNamespaces`, `http_server.cpp:193–208`. -/
def handleListNamespaces (appId : String) : HandlerM Json := do
  let _apps ← store .listApplications
  let namespaces ← store (.listNamespaces appId "" "")
  return .object [("namespaces", .array (namespaces.map fun ns ↦ .object
    [("id", .string ns.id), ("app_id", .string ns.appId), ("env", .string ns.env),
      ("cluster", .string ns.cluster), ("name", .string ns.name), ("type", .string ns.type)]))]

/-- `handleCreateNamespace`, `http_server.cpp:210–221`. -/
def handleCreateNamespace (parse : Parse) (body : String) (now : Timestamp) : HandlerM Json := do
  let j ← required (parse body)
  let appId ← required (j.text? "app_id")
  let env ← required (j.text? "env")
  let cluster ← required (j.textOr? "cluster" "default")
  let name ← required (j.text? "name")
  let type ← required (j.textOr? "type" "private")
  let parentNamespaceId ← required (j.optionalText? "parent_namespace_id")
  let ok ← createNamespace appId env cluster name type parentNamespaceId now
  if !ok then
    return ApiResponse.error 400 "Failed to create namespace"
  return .object [("id", .string (appId ++ "/" ++ env ++ "/" ++ cluster ++ "/" ++ name))]

/-- `handleGetConfig`, `http_server.cpp:223–227`. -/
def handleGetConfig (ns key : String) : HandlerM Json := do
  let config ← store (.getConfig ns key false)
  match config with
  | none => return ApiResponse.error 404 "Config not found"
  | some c =>
    return .object
      [("key", .string c.key), ("value", .string c.value), ("version", .integer c.version.toInt)]

/-- `handleSetConfig`, `http_server.cpp:229–240`. -/
def handleSetConfig (parse : Parse) (body ns key : String) : HandlerM Json := do
  let j ← required (parse body)
  let value ← required (j.text? "value")
  let existing ← store (.getConfig ns key false)
  if existing.isSome then
    let _ ← store (.updateConfig ns key value "system" true)
  else
    let _ ← store (.createConfig ns key value "system")
  return ApiResponse.success

/-- `handleDeleteConfig`, `http_server.cpp:242–245`. -/
def handleDeleteConfig (ns key : String) : HandlerM Json := do
  let _ ← store (.deleteConfig ns key "system" true)
  return ApiResponse.success

/-- `handlePublish`, `http_server.cpp:247–260`. -/
def handlePublish (parse : Parse) (body ns : String) : HandlerM Json := do
  let j ← required (parse body)
  let releaseNote ← required (j.textOr? "release_note" "")
  let (ok, release) ← store (.publishRelease ns releaseNote "system")
  if !ok then
    return ApiResponse.error 500 "Publish failed"
  let id := (release.map (·.id)).getD 0
  let version := (release.map (·.releaseVersion)).getD 0
  return .object
    [("release_id", .integer id), ("release_version", .integer version.toInt),
      ("release_note", .string ((release.map (·.releaseNote)).getD "")),
      ("created_at", .string ((release.map (·.createdAt)).getD ""))]

/-- `handleGetReleases`, `http_server.cpp:262–280`. -/
def handleGetReleases (ns : String) : HandlerM Json := do
  let releases ← store (.getReleases { namespaceId := ns })
  return .object [("releases", .array (releases.map fun r ↦ .object
    [("id", .integer r.id), ("release_version", .integer r.releaseVersion.toInt),
      ("release_note", .string r.releaseNote), ("release_type", .string r.releaseType),
      ("status", .string r.status), ("operator_id", .string r.operatorId),
      ("created_at", .string r.createdAt)]))]

/-- The handler of a route; `now` is the clock reading of the namespace manager. -/
def handle (parse : Parse) (body : String) (now : Timestamp) : Route → HandlerM Json
  | .health =>
    return .object
      [("status", .string "UP"), ("uptime_seconds", .integer 0), ("db_connected", .bool true)]
  | .login => do
    let _ ← required (parse body)
    return ApiResponse.error 501 "Not implemented"
  | .createApp => handleCreateApp parse body now
  | .listApps => handleListApps
  | .getApp appId => handleGetApp appId
  | .deleteApp appId => handleDeleteApp appId
  | .listNamespaces appId => handleListNamespaces appId
  | .createNamespace => handleCreateNamespace parse body now
  | .getConfig ns key => handleGetConfig ns key
  | .setConfig ns key => handleSetConfig parse body ns key
  | .deleteConfig ns key => handleDeleteConfig ns key
  | .publish ns => handlePublish parse body ns
  | .getReleases ns => handleGetReleases ns
  | .notifications => return ApiResponse.error 501 "Long-polling not implemented yet"
  | .unserved => return .null
  | .notFound => return ApiResponse.error 404 "Not found"

/-- `handleRequest`, `http_server.cpp:39–113`. -/
def handleRequest (parse : Parse) (request : HttpSession.Request) (now : Timestamp) :
    HandlerM (HttpSession.Status × Json) := do
  let called := HttpSession.route request.method request.target
  let responseBody ← handle parse request.body now called
  return (if called = .notFound then .notFound else .ok, responseBody)

end HandlerProgram

/-! ### Handlers of `grpc_server.cpp` -/

namespace GrpcService

/-- Unary calls of `ConfigService`, `config_service.proto:5–12`. -/
inductive UnaryCall where
  | getConfig (namespaceId key : String)
  | setConfig (namespaceId key value operatorId : String)
  | deleteConfig (namespaceId key operatorId : String)
  | publishRelease (namespaceId releaseNote operatorId : String)
  | getReleaseHistory (namespaceId : String) (page pageSize : Int32)
  deriving DecidableEq, Repr

/-- Status and response message of a unary call. -/
inductive UnaryAnswer where
  | config (status : Status) (config : Option ConfigMessage)
  | deletion (status : Status) (success : Bool)
  | release (status : Status) (release : Option ReleaseMessage)
  | history (status : Status) (releases : List ReleaseMessage) (total : Int32)
  deriving DecidableEq, Repr

/-- The handler of a unary call. -/
def UnaryCall.handle (ts : Timestamp) : UnaryCall → StorageM UnaryAnswer
  | .getConfig ns key => do
    let (status, config) ← GrpcService.getConfig ns key
    return .config status config
  | .setConfig ns key value op => do
    let (status, config) ← GrpcService.setConfig ns key value op ts
    return .config status config
  | .deleteConfig ns key op => do
    let (status, success) ← GrpcService.deleteConfig ns key op ts
    return .deletion status success
  | .publishRelease ns note op => do
    let (status, release) ← GrpcService.publishRelease ns note op ts
    return .release status release
  | .getReleaseHistory ns page pageSize => do
    let (status, releases, total) ← GrpcService.getReleaseHistory ns page pageSize
    return .history status releases total

/-- The store calls of a unary call, `grpc_server.cpp:37–148`. -/
def UnaryCall.handler : UnaryCall → HandlerM UnaryAnswer
  | .getConfig ns key => do
    let config ← store (.getConfig ns key false)
    match config with
    | none => return .config (.notFound "Config not found") none
    | some c => return .config .ok (some (.ofRow c))
  | .setConfig ns key value op => do
    let existing ← store (.getConfig ns key false)
    if existing.isSome then
      let _ ← store (.updateConfig ns key value (opId op) true)
    else
      let _ ← store (.createConfig ns key value (opId op))
    let updated ← store (.getConfig ns key false)
    return .config .ok (updated.map ConfigMessage.ofRow)
  | .deleteConfig ns key op => do
    let ok ← store (.deleteConfig ns key (opId op) true)
    return .deletion .ok ok
  | .publishRelease ns note op => do
    let (ok, release) ← store (.publishRelease ns note (opId op))
    if !ok then
      return .release (.internal "Publish failed") none
    return .release .ok (release.map ReleaseMessage.ofRow)
  | .getReleaseHistory ns page pageSize => do
    let releases ← store (.getReleases
      { namespaceId := ns, page := if 0 < page then page else 1,
        pageSize := if 0 < pageSize then pageSize else 20 })
    return .history .ok (releases.map ReleaseMessage.ofRow) (Int32.ofNat releases.length)

end GrpcService

/-! ### Requests of both interfaces -/

/-- A request to the server; `now` is what the clock of the namespace manager reads in it. -/
inductive ServerRequest where
  | http (request : HttpSession.Request) (now : Timestamp)
  | grpc (call : GrpcService.UnaryCall)

/-- What leaves a handler: an answer or an exception. -/
inductive ServerAnswer where
  | http (answer : Except Thrown (HttpSession.Status × Json))
  | grpc (answer : Except Thrown GrpcService.UnaryAnswer)

namespace ServerRequest

/-- The store calls of a request. -/
def program (parse : Parse) : ServerRequest → HandlerProgram ServerAnswer
  | .http request now =>
    (HandlerProgram.handleRequest parse request now).run.andThen fun a ↦ .done (.http a)
  | .grpc call => call.handler.run.andThen fun a ↦ .done (.grpc a)

/-- Routes whose handlers read the clock themselves, in the namespace manager. -/
def readsClock : Route → Bool
  | .createApp | .createNamespace => true
  | _ => false

/-- The clock reading that the handler of a request uses when the store reads `ts`. -/
def clock (ts : Timestamp) : ServerRequest → Timestamp
  | .http request now =>
    if readsClock (HttpSession.route request.method request.target) then now else ts
  | .grpc _ => ts

/-- The answer to a request in one piece and the database after it. -/
def handle (parse : Parse) (ts : Timestamp) (db : Database) :
    ServerRequest → ServerAnswer × Database
  | .http request now =>
    let r := HttpSession.handleRequest parse request ((http request now).clock ts) noFaults db
    (.http r.1, r.2)
  | .grpc call =>
    let r := call.handle ts noFaults db
    (.grpc r.1, r.2)

end ServerRequest

/-! ### A program in one piece -/

/-- A handler in one piece does what a computation on the connection does. -/
def Runs {α : Type} (ts : Timestamp) (h : HandlerM α) (x : StorageM α) : Prop :=
  ∀ db, Program.exec StoreCall.respond ts h.run db = x noFaults db

section Runs
variable {α β : Type} {ts : Timestamp}

private theorem runs_pure (a : α) : Runs ts (pure a) (pure a) := fun _ ↦ rfl

/-- A store call is the method it names. -/
theorem runs_store (c : StoreCall) : Runs ts (store c) (c.exec ts) := by
  intro db
  change (_, _) = _
  rfl

private theorem runs_bind {h : HandlerM α} {x : StorageM α} {f : α → HandlerM β}
    {g : α → StorageM β} (hx : Runs ts h x) (hf : ∀ a, Runs ts (f a) (g a)) :
    Runs ts (h >>= f) (x >>= g) := by
  intro db
  change Program.exec StoreCall.respond ts (Program.andThen h.run (ExceptT.bindCont f)) db = _
  rw [Program.exec_andThen, hx db, bind_run]
  cases x noFaults db with
  | mk r db' =>
    cases r with
    | error e => rfl
    | ok a => exact hf a db'

-- what a handler does with the result of a computation it calls
private theorem runs_bind_bind {γ : Type} {h : HandlerM α} {x : StorageM α} {f : α → HandlerM γ}
    {g : α → StorageM β} {k : β → StorageM γ} (hx : Runs ts h x)
    (hf : ∀ a, Runs ts (f a) (g a >>= k)) : Runs ts (h >>= f) ((x >>= g) >>= k) := by
  have hassoc : (x >>= g) >>= k = x >>= fun a ↦ g a >>= k := by
    funext faults db
    simp only [bind_run]
    cases x faults db with
    | mk r db' => cases r <;> rfl
  rw [hassoc]
  exact runs_bind hx hf

private theorem runs_required {o : Option α} {x : StorageM α}
    (hx : x = match o with | some a => pure a | none => StorageM.throw .json) :
    Runs ts (required o) x := by
  subst hx
  cases o with
  | none => exact fun _ ↦ rfl
  | some a => exact fun _ ↦ rfl

private theorem runs_ite {c : Prop} [Decidable c] {h h' : HandlerM α} {x x' : StorageM α}
    (ht : Runs ts h x) (hf : Runs ts h' x') :
    Runs ts (if c then h else h') (if c then x else x') := by
  split
  · exact ht
  · exact hf

private theorem runs_body (parse : Parse) (body : String) :
    Runs ts (required (parse body)) (parseBody parse body) :=
  runs_required (by unfold parseBody; cases parse body <;> rfl)

private theorem runs_text (j : Json) (field : String) :
    Runs ts (required (j.text? field)) (stringField j field) :=
  runs_required (by unfold stringField; cases j.text? field <;> rfl)

private theorem runs_textOr (j : Json) (field fallback : String) :
    Runs ts (required (j.textOr? field fallback)) (stringFieldOr j field fallback) := by
  refine runs_required ?_
  cases j with
  | object members =>
    simp only [stringFieldOr, Json.textOr?]
    cases members.lookup field with
    | none => rfl
    | some v => cases v <;> rfl
  | _ => rfl

private theorem runs_optionalText (j : Json) (field : String) :
    Runs ts (required (j.optionalText? field)) (optionalStringField j field) := by
  refine runs_required ?_
  unfold optionalStringField Json.optionalText? stringField
  cases j.contains field with
  | false => rfl
  | true => cases j.text? field <;> rfl

/-- The namespace manager registers an application by these calls. -/
theorem runs_registerApplication (appId name : String) (description : Option String)
    (now : Timestamp) : Runs ts (HandlerProgram.registerApplication appId name description now)
      (NamespaceManager.registerApplication appId name description now) :=
  runs_bind (runs_store _) fun _ ↦ runs_ite (runs_pure _) (runs_store _)

/-- The namespace manager creates a namespace by these calls. -/
theorem runs_createNamespace (appId env cluster name type : String) (parent : Option String)
    (now : Timestamp) :
    Runs ts (HandlerProgram.createNamespace appId env cluster name type parent now)
      (NamespaceManager.createNamespace appId env cluster name type parent now) :=
  runs_bind (runs_store _) fun _ ↦ runs_ite (runs_pure _) (runs_store _)

private theorem runs_createApp (parse : Parse) (body : String) (now : Timestamp) :
    Runs ts (HandlerProgram.handleCreateApp parse body now)
      (HttpSession.handleCreateApp parse body now) := by
  refine runs_bind (runs_body parse body) fun j ↦ runs_ite (runs_pure _) ?_
  refine runs_bind (runs_text j _) fun appId ↦ ?_
  refine runs_bind (runs_text j _) fun name ↦ ?_
  refine runs_bind (runs_optionalText j _) fun description ↦ ?_
  exact runs_bind (runs_registerApplication _ _ _ now) fun ok ↦
    runs_ite (runs_pure _) (runs_pure _)

private theorem runs_handleCreateNamespace (parse : Parse) (body : String) (now : Timestamp) :
    Runs ts (HandlerProgram.handleCreateNamespace parse body now)
      (HttpSession.handleCreateNamespace parse body now) := by
  refine runs_bind (runs_body parse body) fun j ↦ ?_
  refine runs_bind (runs_text j _) fun appId ↦ ?_
  refine runs_bind (runs_text j _) fun env ↦ ?_
  refine runs_bind (runs_textOr j _ _) fun cluster ↦ ?_
  refine runs_bind (runs_text j _) fun name ↦ ?_
  refine runs_bind (runs_textOr j _ _) fun type ↦ ?_
  refine runs_bind (runs_optionalText j _) fun parent ↦ ?_
  exact runs_bind (runs_createNamespace _ _ _ _ _ _ now) fun ok ↦
    runs_ite (runs_pure _) (runs_pure _)

private theorem runs_setConfig (parse : Parse) (body ns key : String) :
    Runs ts (HandlerProgram.handleSetConfig parse body ns key)
      (HttpSession.handleSetConfig parse body ns key ts) := by
  refine runs_bind (runs_body parse body) fun j ↦ ?_
  refine runs_bind (runs_text j _) fun value ↦ ?_
  refine runs_bind (runs_store _) fun existing ↦ ?_
  exact runs_ite (runs_bind (runs_store _) fun _ ↦ runs_pure _)
    (runs_bind (runs_store _) fun _ ↦ runs_pure _)

private theorem runs_publish (parse : Parse) (body ns : String) :
    Runs ts (HandlerProgram.handlePublish parse body ns)
      (HttpSession.handlePublish parse body ns ts) := by
  refine runs_bind (runs_body parse body) fun j ↦ ?_
  refine runs_bind (runs_textOr j _ _) fun note ↦ ?_
  exact runs_bind (runs_store _) fun _ ↦ runs_ite (runs_pure _) (runs_pure _)

private theorem runs_handle (parse : Parse) (body : String) (now : Timestamp) (called : Route) :
    Runs ts (HandlerProgram.handle parse body now called)
      (HttpSession.handle parse body
        (if ServerRequest.readsClock called then now else ts) called) := by
  cases called with
  | health | notifications | unserved | notFound => exact runs_pure _
  | login => exact runs_bind (runs_body parse body) fun _ ↦ runs_pure _
  | createApp => exact runs_createApp parse body now
  | createNamespace => exact runs_handleCreateNamespace parse body now
  | setConfig ns key => exact runs_setConfig parse body ns key
  | publish ns => exact runs_publish parse body ns
  | listApps | deleteApp _ | deleteConfig _ _ | getReleases _ =>
    exact runs_bind (runs_store _) fun _ ↦ runs_pure _
  | listNamespaces appId =>
    exact runs_bind (runs_store _) fun _ ↦ runs_bind (runs_store _) fun _ ↦ runs_pure _
  | getApp appId =>
    refine runs_bind (runs_store _) fun app ↦ ?_
    cases app with
    | none => exact runs_pure _
    | some app => exact runs_pure _
  | getConfig ns key =>
    refine runs_bind (runs_store _) fun config ↦ ?_
    cases config with
    | none => exact runs_pure _
    | some config => exact runs_pure _

private theorem runs_unary (call : GrpcService.UnaryCall) :
    Runs ts call.handler (call.handle ts) := by
  cases call with
  | getConfig ns key =>
    refine runs_bind_bind (runs_store _) fun config ↦ ?_
    cases config with
    | none => exact runs_pure _
    | some config => exact runs_pure _
  | setConfig ns key value op =>
    refine runs_bind_bind (runs_store _) fun existing ↦ ?_
    cases existing with
    | none =>
      exact runs_bind_bind (runs_store _) fun _ ↦ runs_bind_bind (runs_store _) fun _ ↦ runs_pure _
    | some c =>
      exact runs_bind_bind (runs_store _) fun _ ↦ runs_bind_bind (runs_store _) fun _ ↦ runs_pure _
  | publishRelease ns note op =>
    refine runs_bind_bind (runs_store _) fun result ↦ ?_
    obtain ⟨ok, release⟩ := result
    cases ok with
    | false => exact runs_pure _
    | true => exact runs_pure _
  | deleteConfig _ _ _ | getReleaseHistory _ _ _ =>
    exact runs_bind_bind (runs_store _) fun _ ↦ runs_pure _

end Runs

namespace ServerRequest

/-- The program of a request in one piece is its handler. -/
theorem program_exec (parse : Parse) (request : ServerRequest) (ts : Timestamp) (db : Database) :
    Program.exec StoreCall.respond ts (request.program parse) db = request.handle parse ts db := by
  cases request with
  | http request now =>
    have hrun : Runs ts (HandlerProgram.handleRequest parse request now)
        (HttpSession.handleRequest parse request ((http request now).clock ts)) :=
      runs_bind (runs_handle parse request.body now _) fun _ ↦ runs_pure _
    rw [program, Program.exec_andThen, hrun db]
    rfl
  | grpc call =>
    rw [program, Program.exec_andThen, runs_unary call db]
    rfl

end ServerRequest
end ConfigCenter.Server
