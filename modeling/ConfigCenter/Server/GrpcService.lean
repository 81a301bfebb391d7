import ConfigCenter.Publish.PublishEngine

/-!
# gRPC handlers of configuration keys

Library `Server`. Unary calls of `src/server/grpc_server.cpp` on configuration
keys, with the messages of `proto/config_service.proto` they read and fill.
-/

namespace ConfigCenter.Server.GrpcService
open ConfigCenter.Storage ConfigCenter.Base StorageM

/-- Status of a unary call, with its message where it is not `OK`. -/
inductive Status where
  | ok
  | notFound (message : String)
  | internal (message : String)
  deriving DecidableEq, Repr

/-- `Config`, `config_service.proto:14–20`. -/
structure ConfigMessage where
  namespaceId : String
  key : String
  value : String
  version : Int32
  status : ConfigStatus
  deriving DecidableEq, Repr

/-- `ReleaseMessage`: the fields of `Release`, `config_service.proto:72–81`. -/
structure ReleaseMessage where
  id : Int
  namespaceId : String
  releaseVersion : Int32
  releaseNote : String
  releaseType : String
  status : String
  operatorId : String
  createdAt : Timestamp
  deriving DecidableEq, Repr

/-- The setter calls on `resp->mutable_config()`. -/
def ConfigMessage.ofRow (c : ConfigKey) : ConfigMessage :=
  { namespaceId := c.namespaceId, key := c.key, value := c.value, version := c.version,
    status := c.status }

/-- The setter calls on `resp->mutable_release()`. -/
def ReleaseMessage.ofRow (r : Release) : ReleaseMessage :=
  { id := r.id, namespaceId := r.namespaceId, releaseVersion := r.releaseVersion,
    releaseNote := r.releaseNote, releaseType := r.releaseType, status := r.status,
    operatorId := r.operatorId, createdAt := r.createdAt }

/-- `opId` of the handlers, `grpc_server.cpp:55,78,105`. -/
def opId (operatorId : String) : String := if operatorId.isEmpty then "grpc" else operatorId

/-- `GetConfig`, `grpc_server.cpp:37–51`. -/
def getConfig (namespaceId key : String) : StorageM (Status × Option ConfigMessage) := do
  let config ← SqliteConfigStore.getConfig namespaceId key false
  match config with
  | none => return (.notFound "Config not found", none)
  | some c => return (.ok, some (.ofRow c))

/-- `SetConfig`, `grpc_server.cpp:53–74`. The store's answer is dropped; the response
is filled from a second read that hides drafts. -/
def setConfig (namespaceId key value operatorId : String) (ts : Timestamp) :
    StorageM (Status × Option ConfigMessage) := do
  let existing ← SqliteConfigStore.getConfig namespaceId key false
  if existing.isSome then
    let _ ← SqliteConfigStore.updateConfig namespaceId key value (opId operatorId) true ts
  else
    let _ ← SqliteConfigStore.createConfig namespaceId key value (opId operatorId) ts
  let updated ← SqliteConfigStore.getConfig namespaceId key false
  return (.ok, updated.map ConfigMessage.ofRow)

/-- `DeleteConfig`, `grpc_server.cpp:76–82`, with the `success` field of the response. -/
def deleteConfig (namespaceId key operatorId : String) (ts : Timestamp) :
    StorageM (Status × Bool) := do
  let ok ← SqliteConfigStore.deleteConfig namespaceId key (opId operatorId) true ts
  return (.ok, ok)

/-- `PublishRelease`, `grpc_server.cpp:103–124`. -/
def publishRelease (namespaceId releaseNote operatorId : String) (ts : Timestamp) :
    StorageM (Status × Option ReleaseMessage) := do
  let (ok, release) ←
    SqliteConfigStore.publishRelease namespaceId releaseNote (opId operatorId) ts
  if !ok then
    return (.internal "Publish failed", none)
  return (.ok, release.map ReleaseMessage.ofRow)

/-- `GetReleaseHistory`, `grpc_server.cpp:126–148`, with the `releases` and `total` of the
response. -/
def getReleaseHistory (namespaceId : String) (page pageSize : Int32) :
    StorageM (Status × List ReleaseMessage × Int32) := do
  let releases ← SqliteConfigStore.getReleases
    { namespaceId, page := if 0 < page then page else 1,
      pageSize := if 0 < pageSize then pageSize else 20 }
  return (.ok, releases.map ReleaseMessage.ofRow, Int32.ofNat releases.length)

/-- `SetConfig` performs the set edit and always answers `OK`. -/
theorem setConfig_run (namespaceId key value operatorId : String) (ts : Timestamp)
    (db : Database) :
    ∃ message, setConfig namespaceId key value operatorId ts noFaults db =
      (.ok (.ok, message), db.withLedger
        (db.ledger.apply (db.ledger.setEdit namespaceId key value (opId operatorId) ts))) := by
  unfold setConfig Ledger.setEdit
  rw [bind_run, getConfig_run]
  cases hc : db.ledger.config? namespaceId key false with
  | none => exact ⟨_, by simp [createConfig_run, getConfig_run]; rfl⟩
  | some c => exact ⟨_, by simp [updateConfig_run, getConfig_run]; rfl⟩

/-- `DeleteConfig` performs a draft deletion and always reports success. -/
theorem deleteConfig_run (namespaceId key operatorId : String) (ts : Timestamp)
    (db : Database) :
    deleteConfig namespaceId key operatorId ts noFaults db =
      (.ok (.ok, true), db.withLedger
        (db.ledger.apply (.delete namespaceId key (opId operatorId) true ts))) := by
  unfold deleteConfig
  rw [bind_run, Storage.deleteConfig_run]
  rfl

end ConfigCenter.Server.GrpcService
