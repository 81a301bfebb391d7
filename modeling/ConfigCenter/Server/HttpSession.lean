import ConfigCenter.Storage.NamespaceManager
import ConfigCenter.Publish.PublishEngine
import ConfigCenter.Server.Json

/-!
# HTTP handlers

Library `Server`. Handlers of `src/server/http_server.cpp`. Path parameters reach the
store as they are; an exception leaves the handler and the request unanswered.
-/

namespace ConfigCenter.Server.HttpSession
open ConfigCenter.Storage ConfigCenter.Base StorageM

/-! ### Health, login, applications and namespaces -/

/-- `handleHealth`, `http_server.cpp:143–148`. -/
def handleHealth : StorageM Json := do
  let connected ← SqliteConfigStore.healthCheck
  return .object
    [("status", .string "UP"), ("uptime_seconds", .integer 0), ("db_connected", .bool connected)]

/-- `handleLogin`, `http_server.cpp:150–154`: the body is parsed and not used. -/
def handleLogin (parse : Parse) (body : String) : StorageM Json := do
  let _ ← parseBody parse body
  return ApiResponse.error 501 "Not implemented"

/-- `handleCreateApp`, `http_server.cpp:156–166`. -/
def handleCreateApp (parse : Parse) (body : String) (ts : Timestamp) : StorageM Json := do
  let j ← parseBody parse body
  if !j.contains "app_id" || !j.contains "name" then
    return ApiResponse.error 400 "Missing required fields: app_id, name"
  let appId ← stringField j "app_id"
  let name ← stringField j "name"
  let description ← optionalStringField j "description"
  let ok ← NamespaceManager.registerApplication appId name description ts
  if !ok then
    return ApiResponse.error 409 "Application already exists"
  return .object [("app_id", .string appId), ("name", .string name)]

/-- The description of an application, where it has one. -/
def descriptionMember (app : Application) : List (String × Json) :=
  app.description.toList.map fun description ↦ ("description", .string description)

/-- `handleListApps`, `http_server.cpp:168–178`. -/
def handleListApps : StorageM Json := do
  let apps ← NamespaceManager.listApplications
  return .object [("applications", .array (apps.map fun app ↦ .object
    ([("app_id", .string app.appId), ("name", .string app.name)] ++ descriptionMember app ++
      [("created_at", .string app.createdAt)])))]

/-- `handleGetApp`, `http_server.cpp:180–186`. -/
def handleGetApp (appId : String) : StorageM Json := do
  let app ← NamespaceManager.getApplication appId
  match app with
  | none => return ApiResponse.error 404 "Application not found"
  | some app =>
    return .object
      ([("app_id", .string app.appId), ("name", .string app.name),
        ("created_at", .string app.createdAt)] ++ descriptionMember app)

/-- `handleDeleteApp`, `http_server.cpp:188–191`. -/
def handleDeleteApp (appId : String) : StorageM Json := do
  let _ ← NamespaceManager.removeApplication appId
  return ApiResponse.success

/-- `handleListNamespaces`, `http_server.cpp:193–208`: environment and cluster are the empty
text. -/
def handleListNamespaces (appId : String) : StorageM Json := do
  let _apps ← NamespaceManager.listApplications
  let namespaces ← SqliteConfigStore.listNamespaces appId "" ""
  return .object [("namespaces", .array (namespaces.map fun ns ↦ .object
    [("id", .string ns.id), ("app_id", .string ns.appId), ("env", .string ns.env),
      ("cluster", .string ns.cluster), ("name", .string ns.name), ("type", .string ns.type)]))]

/-- `handleCreateNamespace`, `http_server.cpp:210–221`. -/
def handleCreateNamespace (parse : Parse) (body : String) (ts : Timestamp) : StorageM Json := do
  let j ← parseBody parse body
  let appId ← stringField j "app_id"
  let env ← stringField j "env"
  let cluster ← stringFieldOr j "cluster" "default"
  let name ← stringField j "name"
  let type ← stringFieldOr j "type" "private"
  let parentNamespaceId ← optionalStringField j "parent_namespace_id"
  let ok ← NamespaceManager.createNamespace appId env cluster name type parentNamespaceId ts
  if !ok then
    return ApiResponse.error 400 "Failed to create namespace"
  return .object [("id", .string (appId ++ "/" ++ env ++ "/" ++ cluster ++ "/" ++ name))]

/-! ### Keys, publishing and releases -/

/-- `handleGetConfig`, `http_server.cpp:223–227`. -/
def handleGetConfig (ns key : String) : StorageM Json := do
  let config ← SqliteConfigStore.getConfig ns key false
  match config with
  | none => return ApiResponse.error 404 "Config not found"
  | some c =>
    return .object
      [("key", .string c.key), ("value", .string c.value), ("version", .integer c.version.toInt)]

/-- `handleSetConfig`, `http_server.cpp:229–240`. The store's answer is dropped. -/
def handleSetConfig (parse : Parse) (body ns key : String) (ts : Timestamp) : StorageM Json := do
  let j ← parseBody parse body
  let value ← stringField j "value"
  let existing ← SqliteConfigStore.getConfig ns key false
  if existing.isSome then
    let _ ← SqliteConfigStore.updateConfig ns key value "system" true ts
  else
    let _ ← SqliteConfigStore.createConfig ns key value "system" ts
  return ApiResponse.success

/-- `handleDeleteConfig`, `http_server.cpp:242–245`. -/
def handleDeleteConfig (ns key : String) (ts : Timestamp) : StorageM Json := do
  let _ ← SqliteConfigStore.deleteConfig ns key "system" true ts
  return ApiResponse.success

/-- `handlePublish`, `http_server.cpp:247–260`; an unset `release` reads as its defaults. -/
def handlePublish (parse : Parse) (body ns : String) (ts : Timestamp) : StorageM Json := do
  let j ← parseBody parse body
  let releaseNote ← stringFieldOr j "release_note" ""
  let (ok, release) ← SqliteConfigStore.publishRelease ns releaseNote "system" ts
  if !ok then
    return ApiResponse.error 500 "Publish failed"
  let id := (release.map (·.id)).getD 0
  let version := (release.map (·.releaseVersion)).getD 0
  return .object
    [("release_id", .integer id), ("release_version", .integer version.toInt),
      ("release_note", .string ((release.map (·.releaseNote)).getD "")),
      ("created_at", .string ((release.map (·.createdAt)).getD ""))]

/-- `handleGetReleases`, `http_server.cpp:262–280`: the first page. -/
def handleGetReleases (ns : String) : StorageM Json := do
  let releases ← SqliteConfigStore.getReleases { namespaceId := ns }
  return .object [("releases", .array (releases.map fun r ↦ .object
    [("id", .integer r.id), ("release_version", .integer r.releaseVersion.toInt),
      ("release_note", .string r.releaseNote), ("release_type", .string r.releaseType),
      ("status", .string r.status), ("operator_id", .string r.operatorId),
      ("created_at", .string r.createdAt)]))]

/-- `handleNotifications`, `http_server.cpp:282–284`. -/
def handleNotifications : StorageM Json :=
  return ApiResponse.error 501 "Long-polling not implemented yet"

/-- The value a set request carries, where its body has one. -/
def requestedValue (parse : Parse) (body : String) : Option String :=
  (parse body).bind (·.text? "value")

/-- `handleSetConfig` performs the set edit and always reports success, or fails on the
body before it reads the store. -/
theorem handleSetConfig_run (parse : Parse) (body ns key : String) (ts : Timestamp)
    (db : Database) :
    handleSetConfig parse body ns key ts noFaults db =
      match requestedValue parse body with
      | none => (.error .json, db)
      | some value =>
        (.ok ApiResponse.success,
          db.withLedger (db.ledger.apply (db.ledger.setEdit ns key value "system" ts))) := by
  unfold handleSetConfig requestedValue parseBody
  cases parse body with
  | none => rfl
  | some j =>
    simp only [bind_run, pure_run, Option.bind_some, stringField]
    cases j.text? "value" with
    | none => rfl
    | some value =>
      simp only [pure_run, getConfig_run, Ledger.setEdit]
      cases db.ledger.config? ns key false with
      | none => simp [createConfig_run]
      | some c => simp [updateConfig_run]

/-- `handleDeleteConfig` performs a draft deletion and always reports success. -/
theorem handleDeleteConfig_run (ns key : String) (ts : Timestamp) (db : Database) :
    handleDeleteConfig ns key ts noFaults db =
      (.ok ApiResponse.success,
        db.withLedger (db.ledger.apply (.delete ns key "system" true ts))) := by
  simp [handleDeleteConfig, deleteConfig_run]

end ConfigCenter.Server.HttpSession
