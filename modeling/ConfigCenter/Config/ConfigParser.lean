import ConfigCenter.Base.Settings

/-!
# The configuration file of the server

Library `Config`. `src/config/config_parser.cpp` statement by statement. Reading YAML is
third-party code: how a text becomes a document and how a node converts to a C++ type are
parameters. A subscript finds nothing in a null node and in a sequence and throws on a
scalar; a null value is a node like any other.
-/

namespace ConfigCenter.Config
open ConfigCenter.Base

/-- What `ConfigParser` can throw. -/
inductive ConfigError where
  /-- `std::runtime_error`. -/
  | runtime (what : String)
  /-- `YAML::ParserException`. -/
  | parser
  /-- `YAML::BadSubscript`: a key of a scalar. -/
  | badSubscript (key : String)
  /-- `YAML::TypedBadConversion`. -/
  | badConversion
  /-- `YAML::InvalidNode`. -/
  | invalidNode
  deriving DecidableEq, Repr

/-- What the parser needs of `yaml-cpp`: `YAML::Load` and `as<T>` for the types it reads. -/
structure YamlCpp where
  load : String → Except ConfigError Document
  asString : Document → Except ConfigError String
  asUInt16 : Document → Except ConfigError UInt16
  asInt : Document → Except ConfigError Int32
  asBool : Document → Except ConfigError Bool

/-! ### The configuration, `config_parser.h:10–106` -/

/-- `server.http`. -/
structure ServerHttpConfig where
  host : String := "0.0.0.0"
  port : UInt16 := 8080
  threads : Int32 := 0

/-- `server.grpc`. -/
structure ServerGrpcConfig where
  host : String := "0.0.0.0"
  port : UInt16 := 9090
  threads : Int32 := 0

/-- `server`. -/
structure ServerConfig where
  http : ServerHttpConfig := {}
  grpc : ServerGrpcConfig := {}

/-- `storage.sqlite`. -/
structure SqliteConfig where
  path : String := "data/config-center.db"

/-- `storage.mysql`. -/
structure MysqlConfig where
  host : String := "127.0.0.1"
  port : UInt16 := 3306
  user : String := "root"
  password : String := ""
  database : String := "config_center"
  poolSize : Int32 := 10
  timeoutSeconds : Int32 := 30

/-- `storage`. -/
structure StorageConfig where
  backend : String := "sqlite"
  sqlite : SqliteConfig := {}
  mysql : MysqlConfig := {}

/-- `auth.jwt`. -/
structure JwtConfig where
  secret : String := "change-me-in-production"
  expiryHours : Int32 := 24

/-- `auth`. -/
structure AuthConfig where
  enabled : Bool := true
  jwt : JwtConfig := {}
  readAuthRequired : Bool := false

/-- `namespace`. -/
structure NamespaceConfig where
  defaultEnvironments : List String := ["DEV", "FAT", "UAT", "PROD"]

/-- `publish.approval`. -/
structure ApprovalConfig where
  defaultEnabled : Bool := false

/-- `publish.grayscale`. -/
structure GrayscaleConfig where
  defaultPercentage : Int32 := 100

/-- `publish`. -/
structure PublishConfig where
  approval : ApprovalConfig := {}
  grayscale : GrayscaleConfig := {}

/-- `notification.long_polling`. -/
structure LongPollingConfig where
  maxTimeoutSeconds : Int32 := 120
  defaultTimeoutSeconds : Int32 := 60

/-- `notification.grpc`. -/
structure GrpcNotifyConfig where
  keepaliveSeconds : Int32 := 30

/-- `notification`. -/
structure NotificationConfig where
  longPolling : LongPollingConfig := {}
  grpc : GrpcNotifyConfig := {}

/-- `limits`. -/
structure LimitsConfig where
  configKeyMaxLength : Int32 := 128
  configValueMaxBytes : Int32 := 1048576
  releaseNoteMaxLength : Int32 := 4096

/-- `logging`. -/
structure LoggingConfig where
  level : String := "info"
  file : String := ""
  format : String := "text"

/-- The whole configuration. -/
structure AppConfig where
  server : ServerConfig := {}
  storage : StorageConfig := {}
  auth : AuthConfig := {}
  namespaceConfig : NamespaceConfig := {}
  publish : PublishConfig := {}
  notification : NotificationConfig := {}
  limits : LimitsConfig := {}
  logging : LoggingConfig := {}

namespace ConfigParser

variable (yaml : YamlCpp)

/-- `if (node["key"]) config.field = node["key"].as<T>();` -/
def field {σ α : Type} (node : Document) (key : String)
    (read : Document → Except ConfigError α) (assign : α → σ → σ) (config : σ) :
    Except ConfigError σ :=
  node.optional .badSubscript key read assign config

/-- `if (node["key"]) parse(node["key"], config.part);` -/
def part {σ τ : Type} (node : Document) (key : String) (get : σ → τ) (set : τ → σ → σ)
    (parse : Document → τ → Except ConfigError τ) (config : σ) : Except ConfigError σ :=
  node.inSection .badSubscript key get set parse config

/-- The `http` block of `parseServer`, `config_parser.cpp:51–56`. -/
def parseHttp (http : Document) (config : ServerHttpConfig) :
    Except ConfigError ServerHttpConfig := do
  let config ← field http "host" yaml.asString (fun host c ↦ { c with host }) config
  let config ← field http "port" yaml.asUInt16 (fun port c ↦ { c with port }) config
  field http "threads" yaml.asInt (fun threads c ↦ { c with threads }) config

/-- The `grpc` block of `parseServer`, `config_parser.cpp:57–62`. -/
def parseGrpc (grpc : Document) (config : ServerGrpcConfig) :
    Except ConfigError ServerGrpcConfig := do
  let config ← field grpc "host" yaml.asString (fun host c ↦ { c with host }) config
  let config ← field grpc "port" yaml.asUInt16 (fun port c ↦ { c with port }) config
  field grpc "threads" yaml.asInt (fun threads c ↦ { c with threads }) config

/-- `parseServer`, `config_parser.cpp:50–63`. -/
def parseServer (node : Document) (config : ServerConfig) : Except ConfigError ServerConfig := do
  let config ← part node "http" (·.http) (fun http c ↦ { c with http }) (parseHttp yaml) config
  part node "grpc" (·.grpc) (fun grpc c ↦ { c with grpc }) (parseGrpc yaml) config

/-- The `sqlite` block of `parseStorage`, `config_parser.cpp:68–71`. -/
def parseSqlite (sqlite : Document) (config : SqliteConfig) : Except ConfigError SqliteConfig :=
  field sqlite "path" yaml.asString (fun path c ↦ { c with path }) config

/-- The `mysql` block of `parseStorage`, `config_parser.cpp:72–81`. -/
def parseMysql (mysql : Document) (config : MysqlConfig) : Except ConfigError MysqlConfig := do
  let config ← field mysql "host" yaml.asString (fun host c ↦ { c with host }) config
  let config ← field mysql "port" yaml.asUInt16 (fun port c ↦ { c with port }) config
  let config ← field mysql "user" yaml.asString (fun user c ↦ { c with user }) config
  let config ← field mysql "password" yaml.asString (fun password c ↦ { c with password }) config
  let config ← field mysql "database" yaml.asString (fun database c ↦ { c with database }) config
  let config ← field mysql "pool_size" yaml.asInt (fun poolSize c ↦ { c with poolSize }) config
  field mysql "timeout_seconds" yaml.asInt (fun timeoutSeconds c ↦ { c with timeoutSeconds }) config

/-- `parseStorage`, `config_parser.cpp:65–82`. -/
def parseStorage (node : Document) (config : StorageConfig) :
    Except ConfigError StorageConfig := do
  let config ← field node "backend" yaml.asString (fun backend c ↦ { c with backend }) config
  let config ← part node "sqlite" (·.sqlite) (fun sqlite c ↦ { c with sqlite })
    (parseSqlite yaml) config
  part node "mysql" (·.mysql) (fun mysql c ↦ { c with mysql }) (parseMysql yaml) config

/-- The `jwt` block of `parseAuth`, `config_parser.cpp:88–92`. -/
def parseJwt (jwt : Document) (config : JwtConfig) : Except ConfigError JwtConfig := do
  let config ← field jwt "secret" yaml.asString (fun secret c ↦ { c with secret }) config
  field jwt "expiry_hours" yaml.asInt (fun expiryHours c ↦ { c with expiryHours }) config

/-- `parseAuth`, `config_parser.cpp:84–93`. -/
def parseAuth (node : Document) (config : AuthConfig) : Except ConfigError AuthConfig := do
  let config ← field node "enabled" yaml.asBool (fun enabled c ↦ { c with enabled }) config
  let config ← field node "read_auth_required" yaml.asBool
    (fun readAuthRequired c ↦ { c with readAuthRequired }) config
  part node "jwt" (·.jwt) (fun jwt c ↦ { c with jwt }) (parseJwt yaml) config

/-- The loop of `parseNamespace` over the node, `config_parser.cpp:97–100`: a sequence gives its
items, a map gives pairs that are no valid nodes, anything else gives nothing. -/
def environments : Document → Except ConfigError (List String)
  | .sequence items => items.mapM yaml.asString
  | .map (_ :: _) => .error .invalidNode
  | _ => .ok []

/-- `parseNamespace`, `config_parser.cpp:95–102`; the old list is cleared first. -/
def parseNamespace (node : Document) (config : NamespaceConfig) :
    Except ConfigError NamespaceConfig :=
  field node "default_environments" (environments yaml)
    (fun defaultEnvironments c ↦ { c with defaultEnvironments }) config

/-- `parsePublish`, `config_parser.cpp:104–111`. -/
def parsePublish (node : Document) (config : PublishConfig) :
    Except ConfigError PublishConfig := do
  let config ← part node "approval" (·.approval) (fun approval c ↦ { c with approval })
    (fun approval ↦ field approval "default_enabled" yaml.asBool
      fun defaultEnabled c ↦ { c with defaultEnabled }) config
  part node "grayscale" (·.grayscale) (fun grayscale c ↦ { c with grayscale })
    (fun grayscale ↦ field grayscale "default_percentage" yaml.asInt
      fun defaultPercentage c ↦ { c with defaultPercentage }) config

/-- The `long_polling` block of `parseNotification`, `config_parser.cpp:114–119`. -/
def parseLongPolling (lp : Document) (config : LongPollingConfig) :
    Except ConfigError LongPollingConfig := do
  let config ← field lp "max_timeout_seconds" yaml.asInt
    (fun maxTimeoutSeconds c ↦ { c with maxTimeoutSeconds }) config
  field lp "default_timeout_seconds" yaml.asInt
    (fun defaultTimeoutSeconds c ↦ { c with defaultTimeoutSeconds }) config

/-- `parseNotification`, `config_parser.cpp:113–123`. -/
def parseNotification (node : Document) (config : NotificationConfig) :
    Except ConfigError NotificationConfig := do
  let config ← part node "long_polling" (·.longPolling)
    (fun longPolling c ↦ { c with longPolling }) (parseLongPolling yaml) config
  part node "grpc" (·.grpc) (fun grpc c ↦ { c with grpc })
    (fun grpc ↦ field grpc "keepalive_seconds" yaml.asInt
      fun keepaliveSeconds c ↦ { c with keepaliveSeconds }) config

/-- `parseLimits`, `config_parser.cpp:125–129`. -/
def parseLimits (node : Document) (config : LimitsConfig) : Except ConfigError LimitsConfig := do
  let config ← field node "config_key_max_length" yaml.asInt
    (fun configKeyMaxLength c ↦ { c with configKeyMaxLength }) config
  let config ← field node "config_value_max_bytes" yaml.asInt
    (fun configValueMaxBytes c ↦ { c with configValueMaxBytes }) config
  field node "release_note_max_length" yaml.asInt
    (fun releaseNoteMaxLength c ↦ { c with releaseNoteMaxLength }) config

/-- `parseLogging`, `config_parser.cpp:131–135`. -/
def parseLogging (node : Document) (config : LoggingConfig) :
    Except ConfigError LoggingConfig := do
  let config ← field node "level" yaml.asString (fun level c ↦ { c with level }) config
  let config ← field node "file" yaml.asString (fun file c ↦ { c with file }) config
  field node "format" yaml.asString (fun format c ↦ { c with format }) config

/-- `parseString` on a loaded document, `config_parser.cpp:20–47`. Its subscripts add undefined
nodes to the root and turn a root that is a sequence into a map; no later one sees the
difference. -/
def parseRoot (root : Document) : Except ConfigError AppConfig := do
  let config : AppConfig := {}
  let config ← part root "server" (·.server) (fun server c ↦ { c with server })
    (parseServer yaml) config
  let config ← part root "storage" (·.storage) (fun storage c ↦ { c with storage })
    (parseStorage yaml) config
  let config ← part root "auth" (·.auth) (fun auth c ↦ { c with auth }) (parseAuth yaml) config
  let config ← part root "namespace" (·.namespaceConfig)
    (fun namespaceConfig c ↦ { c with namespaceConfig }) (parseNamespace yaml) config
  let config ← part root "publish" (·.publish) (fun publish c ↦ { c with publish })
    (parsePublish yaml) config
  let config ← part root "notification" (·.notification)
    (fun notification c ↦ { c with notification }) (parseNotification yaml) config
  let config ← part root "limits" (·.limits) (fun limits c ↦ { c with limits })
    (parseLimits yaml) config
  part root "logging" (·.logging) (fun logging c ↦ { c with logging }) (parseLogging yaml) config

/-- `parseString`, `config_parser.cpp:18–48`. -/
def parseString (yamlContent : String) : Except ConfigError AppConfig := do
  parseRoot yaml (← yaml.load yamlContent)

/-- `parseFile`, `config_parser.cpp:8–16`, with the contents of the files that can be opened. -/
def parseFile (files : String → Option String) (path : String) : Except ConfigError AppConfig :=
  match files path with
  | none => .error (.runtime ("Failed to open config file: " ++ path))
  | some content => parseString yaml content

end ConfigParser

end ConfigCenter.Config
