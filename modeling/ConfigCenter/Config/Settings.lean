import Mathlib.Data.List.Pairwise
import ConfigCenter.Config.ConfigParser

/-!
# The settings of a configuration file

Library `Config`. The parser as a table of settings: a path, a type and a member each.
`parseRoot_eq` brings the code of `Config.ConfigParser` into the form of `Base.Settings`.
-/

namespace ConfigCenter.Config
open ConfigCenter.Base

/-- What a configuration file can set, in the order in which the parser reads it. -/
inductive Setting where
  | httpHost
  | httpPort
  | httpThreads
  | grpcHost
  | grpcPort
  | grpcThreads
  | backend
  | sqlitePath
  | mysqlHost
  | mysqlPort
  | mysqlUser
  | mysqlPassword
  | mysqlDatabase
  | mysqlPoolSize
  | mysqlTimeout
  | authEnabled
  | readAuthRequired
  | jwtSecret
  | jwtExpiry
  | environments
  | approvalEnabled
  | grayscalePercentage
  | maxTimeout
  | defaultTimeout
  | keepalive
  | keyMaxLength
  | valueMaxBytes
  | noteMaxLength
  | logLevel
  | logFile
  | logFormat
  deriving DecidableEq, Repr

/-- The C++ type of a setting. -/
abbrev Setting.Value : Setting → Type
  | .httpHost | .grpcHost | .backend | .sqlitePath | .mysqlHost | .mysqlUser | .mysqlPassword
  | .mysqlDatabase | .jwtSecret | .logLevel | .logFile | .logFormat => String
  | .httpPort | .grpcPort | .mysqlPort => UInt16
  | .httpThreads | .grpcThreads | .mysqlPoolSize | .mysqlTimeout | .jwtExpiry
  | .grayscalePercentage | .maxTimeout | .defaultTimeout | .keepalive | .keyMaxLength
  | .valueMaxBytes | .noteMaxLength => Int32
  | .authEnabled | .readAuthRequired | .approvalEnabled => Bool
  | .environments => List String

/-- Where the parser looks for a setting. -/
def Setting.path : Setting → List String
  | .httpHost => ["server", "http", "host"]
  | .httpPort => ["server", "http", "port"]
  | .httpThreads => ["server", "http", "threads"]
  | .grpcHost => ["server", "grpc", "host"]
  | .grpcPort => ["server", "grpc", "port"]
  | .grpcThreads => ["server", "grpc", "threads"]
  | .backend => ["storage", "backend"]
  | .sqlitePath => ["storage", "sqlite", "path"]
  | .mysqlHost => ["storage", "mysql", "host"]
  | .mysqlPort => ["storage", "mysql", "port"]
  | .mysqlUser => ["storage", "mysql", "user"]
  | .mysqlPassword => ["storage", "mysql", "password"]
  | .mysqlDatabase => ["storage", "mysql", "database"]
  | .mysqlPoolSize => ["storage", "mysql", "pool_size"]
  | .mysqlTimeout => ["storage", "mysql", "timeout_seconds"]
  | .authEnabled => ["auth", "enabled"]
  | .readAuthRequired => ["auth", "read_auth_required"]
  | .jwtSecret => ["auth", "jwt", "secret"]
  | .jwtExpiry => ["auth", "jwt", "expiry_hours"]
  | .environments => ["namespace", "default_environments"]
  | .approvalEnabled => ["publish", "approval", "default_enabled"]
  | .grayscalePercentage => ["publish", "grayscale", "default_percentage"]
  | .maxTimeout => ["notification", "long_polling", "max_timeout_seconds"]
  | .defaultTimeout => ["notification", "long_polling", "default_timeout_seconds"]
  | .keepalive => ["notification", "grpc", "keepalive_seconds"]
  | .keyMaxLength => ["limits", "config_key_max_length"]
  | .valueMaxBytes => ["limits", "config_value_max_bytes"]
  | .noteMaxLength => ["limits", "release_note_max_length"]
  | .logLevel => ["logging", "level"]
  | .logFile => ["logging", "file"]
  | .logFormat => ["logging", "format"]

/-- How the parser reads a setting. -/
def Setting.read (yaml : YamlCpp) : (s : Setting) → Document → Except ConfigError s.Value
  | .httpHost | .grpcHost | .backend | .sqlitePath | .mysqlHost | .mysqlUser | .mysqlPassword
  | .mysqlDatabase | .jwtSecret | .logLevel | .logFile | .logFormat => yaml.asString
  | .httpPort | .grpcPort | .mysqlPort => yaml.asUInt16
  | .httpThreads | .grpcThreads | .mysqlPoolSize | .mysqlTimeout | .jwtExpiry
  | .grayscalePercentage | .maxTimeout | .defaultTimeout | .keepalive | .keyMaxLength
  | .valueMaxBytes | .noteMaxLength => yaml.asInt
  | .authEnabled | .readAuthRequired | .approvalEnabled => yaml.asBool
  | .environments => ConfigParser.environments yaml

/-- The member that holds a setting. -/
def AppConfig.get (c : AppConfig) : (s : Setting) → s.Value
  | .httpHost => c.server.http.host
  | .httpPort => c.server.http.port
  | .httpThreads => c.server.http.threads
  | .grpcHost => c.server.grpc.host
  | .grpcPort => c.server.grpc.port
  | .grpcThreads => c.server.grpc.threads
  | .backend => c.storage.backend
  | .sqlitePath => c.storage.sqlite.path
  | .mysqlHost => c.storage.mysql.host
  | .mysqlPort => c.storage.mysql.port
  | .mysqlUser => c.storage.mysql.user
  | .mysqlPassword => c.storage.mysql.password
  | .mysqlDatabase => c.storage.mysql.database
  | .mysqlPoolSize => c.storage.mysql.poolSize
  | .mysqlTimeout => c.storage.mysql.timeoutSeconds
  | .authEnabled => c.auth.enabled
  | .readAuthRequired => c.auth.readAuthRequired
  | .jwtSecret => c.auth.jwt.secret
  | .jwtExpiry => c.auth.jwt.expiryHours
  | .environments => c.namespaceConfig.defaultEnvironments
  | .approvalEnabled => c.publish.approval.defaultEnabled
  | .grayscalePercentage => c.publish.grayscale.defaultPercentage
  | .maxTimeout => c.notification.longPolling.maxTimeoutSeconds
  | .defaultTimeout => c.notification.longPolling.defaultTimeoutSeconds
  | .keepalive => c.notification.grpc.keepaliveSeconds
  | .keyMaxLength => c.limits.configKeyMaxLength
  | .valueMaxBytes => c.limits.configValueMaxBytes
  | .noteMaxLength => c.limits.releaseNoteMaxLength
  | .logLevel => c.logging.level
  | .logFile => c.logging.file
  | .logFormat => c.logging.format

/-- All settings. -/
def Setting.all : List Setting :=
  [.httpHost, .httpPort, .httpThreads, .grpcHost, .grpcPort, .grpcThreads, .backend, .sqlitePath,
  .mysqlHost, .mysqlPort, .mysqlUser, .mysqlPassword, .mysqlDatabase, .mysqlPoolSize,
  .mysqlTimeout, .authEnabled, .readAuthRequired, .jwtSecret, .jwtExpiry, .environments,
  .approvalEnabled, .grayscalePercentage, .maxTimeout, .defaultTimeout, .keepalive,
  .keyMaxLength, .valueMaxBytes, .noteMaxLength, .logLevel, .logFile, .logFormat]

/-- The configuration with the given settings. -/
def AppConfig.of (v : (s : Setting) → s.Value) : AppConfig where
  server :=
    { http := { host := v .httpHost, port := v .httpPort, threads := v .httpThreads }
      grpc := { host := v .grpcHost, port := v .grpcPort, threads := v .grpcThreads } }
  storage :=
    { backend := v .backend
      sqlite := { path := v .sqlitePath }
      mysql :=
        { host := v .mysqlHost, port := v .mysqlPort, user := v .mysqlUser
          password := v .mysqlPassword, database := v .mysqlDatabase
          poolSize := v .mysqlPoolSize, timeoutSeconds := v .mysqlTimeout } }
  auth :=
    { enabled := v .authEnabled, readAuthRequired := v .readAuthRequired
      jwt := { secret := v .jwtSecret, expiryHours := v .jwtExpiry } }
  namespaceConfig := { defaultEnvironments := v .environments }
  publish :=
    { approval := { defaultEnabled := v .approvalEnabled }
      grayscale := { defaultPercentage := v .grayscalePercentage } }
  notification :=
    { longPolling :=
        { maxTimeoutSeconds := v .maxTimeout, defaultTimeoutSeconds := v .defaultTimeout }
      grpc := { keepaliveSeconds := v .keepalive } }
  limits :=
    { configKeyMaxLength := v .keyMaxLength, configValueMaxBytes := v .valueMaxBytes
      releaseNoteMaxLength := v .noteMaxLength }
  logging := { level := v .logLevel, file := v .logFile, format := v .logFormat }

/-- A configuration has the values it was made of. -/
theorem AppConfig.get_of (v : (s : Setting) → s.Value) : (AppConfig.of v).get = v := by
  funext s
  cases s <;> rfl

/-- A configuration is made of its values. -/
theorem AppConfig.of_get (c : AppConfig) : AppConfig.of c.get = c := rfl

/-- Every setting is read. -/
theorem Setting.mem_all (s : Setting) : s ∈ Setting.all := by
  cases s <;> simp [Setting.all]

/-- No setting stands in the way of another one. -/
theorem Setting.apart_path (s t : Setting) (h : s ≠ t) : Document.Apart s.path t.path := by
  have hall : Setting.all.Pairwise fun s t ↦ Document.Apart s.path t.path := by
    decide +kernel
  have hsymm : Std.Symm fun s t : Setting ↦ Document.Apart s.path t.path :=
    ⟨fun _ _ h ↦ ⟨h.2, h.1⟩⟩
  exact hall.forall s.mem_all t.mem_all h

/-- The table as the library reads it. -/
def settings (yaml : YamlCpp) : Settings Setting Setting.Value ConfigError where
  path := Setting.path
  read := Setting.read yaml
  inScalar := .badSubscript

namespace ConfigParser
open Assignment

variable {yaml : YamlCpp}

private theorem field_run {σ α : Type} (node : Document) (key : String)
    (read : Document → Except ConfigError α) (assign : α → σ → σ) (config : σ) :
    field node key read assign config =
      (single key read assign).run .badSubscript node config :=
  optional_eq node key read assign config

variable (yaml) in
private def httpAssignments : List (Assignment ServerHttpConfig ConfigError) :=
  [single "host" yaml.asString fun host c ↦ { c with host },
    single "port" yaml.asUInt16 fun port c ↦ { c with port },
    single "threads" yaml.asInt fun threads c ↦ { c with threads }]

private theorem parseHttp_eq (node : Document) (c : ServerHttpConfig) :
    parseHttp yaml node c = runAll .badSubscript (httpAssignments yaml) node c := by
  simp only [parseHttp, field_run]
  exact run_then fun c ↦ run_then fun c ↦ run_last _ node c

variable (yaml) in
private def grpcAssignments : List (Assignment ServerGrpcConfig ConfigError) :=
  [single "host" yaml.asString fun host c ↦ { c with host },
    single "port" yaml.asUInt16 fun port c ↦ { c with port },
    single "threads" yaml.asInt fun threads c ↦ { c with threads }]

private theorem parseGrpc_eq (node : Document) (c : ServerGrpcConfig) :
    parseGrpc yaml node c = runAll .badSubscript (grpcAssignments yaml) node c := by
  simp only [parseGrpc, field_run]
  exact run_then fun c ↦ run_then fun c ↦ run_last _ node c

variable (yaml) in
private def sqliteAssignments : List (Assignment SqliteConfig ConfigError) :=
  [single "path" yaml.asString fun path c ↦ { c with path }]

private theorem parseSqlite_eq (node : Document) (c : SqliteConfig) :
    parseSqlite yaml node c = runAll .badSubscript (sqliteAssignments yaml) node c := by
  simp only [parseSqlite, field_run]
  exact run_last _ node c

variable (yaml) in
private def mysqlAssignments : List (Assignment MysqlConfig ConfigError) :=
  [single "host" yaml.asString fun host c ↦ { c with host },
    single "port" yaml.asUInt16 fun port c ↦ { c with port },
    single "user" yaml.asString fun user c ↦ { c with user },
    single "password" yaml.asString fun password c ↦ { c with password },
    single "database" yaml.asString fun database c ↦ { c with database },
    single "pool_size" yaml.asInt fun poolSize c ↦ { c with poolSize },
    single "timeout_seconds" yaml.asInt fun timeoutSeconds c ↦ { c with timeoutSeconds }]

private theorem parseMysql_eq (node : Document) (c : MysqlConfig) :
    parseMysql yaml node c = runAll .badSubscript (mysqlAssignments yaml) node c := by
  simp only [parseMysql, field_run]
  exact run_then fun c ↦ run_then fun c ↦ run_then fun c ↦ run_then fun c ↦
    run_then fun c ↦ run_then fun c ↦ run_last _ node c

variable (yaml) in
private def jwtAssignments : List (Assignment JwtConfig ConfigError) :=
  [single "secret" yaml.asString fun secret c ↦ { c with secret },
    single "expiry_hours" yaml.asInt fun expiryHours c ↦ { c with expiryHours }]

private theorem parseJwt_eq (node : Document) (c : JwtConfig) :
    parseJwt yaml node c = runAll .badSubscript (jwtAssignments yaml) node c := by
  simp only [parseJwt, field_run]
  exact run_then fun c ↦ run_last _ node c

variable (yaml) in
private def namespaceAssignments : List (Assignment NamespaceConfig ConfigError) :=
  [single "default_environments" (environments yaml)
    fun defaultEnvironments c ↦ { c with defaultEnvironments }]

private theorem parseNamespace_eq (node : Document) (c : NamespaceConfig) :
    parseNamespace yaml node c = runAll .badSubscript (namespaceAssignments yaml) node c := by
  simp only [parseNamespace, field_run]
  exact run_last _ node c

variable (yaml) in
private def longPollingAssignments : List (Assignment LongPollingConfig ConfigError) :=
  [single "max_timeout_seconds" yaml.asInt fun maxTimeoutSeconds c ↦ { c with maxTimeoutSeconds },
    single "default_timeout_seconds" yaml.asInt
      fun defaultTimeoutSeconds c ↦ { c with defaultTimeoutSeconds }]

private theorem parseLongPolling_eq (node : Document) (c : LongPollingConfig) :
    parseLongPolling yaml node c = runAll .badSubscript (longPollingAssignments yaml) node c := by
  simp only [parseLongPolling, field_run]
  exact run_then fun c ↦ run_last _ node c

variable (yaml) in
private def limitsAssignments : List (Assignment LimitsConfig ConfigError) :=
  [single "config_key_max_length" yaml.asInt
      fun configKeyMaxLength c ↦ { c with configKeyMaxLength },
    single "config_value_max_bytes" yaml.asInt
      fun configValueMaxBytes c ↦ { c with configValueMaxBytes },
    single "release_note_max_length" yaml.asInt
      fun releaseNoteMaxLength c ↦ { c with releaseNoteMaxLength }]

private theorem parseLimits_eq (node : Document) (c : LimitsConfig) :
    parseLimits yaml node c = runAll .badSubscript (limitsAssignments yaml) node c := by
  simp only [parseLimits, field_run]
  exact run_then fun c ↦ run_then fun c ↦ run_last _ node c

variable (yaml) in
private def loggingAssignments : List (Assignment LoggingConfig ConfigError) :=
  [single "level" yaml.asString fun level c ↦ { c with level },
    single "file" yaml.asString fun file c ↦ { c with file },
    single "format" yaml.asString fun format c ↦ { c with format }]

private theorem parseLogging_eq (node : Document) (c : LoggingConfig) :
    parseLogging yaml node c = runAll .badSubscript (loggingAssignments yaml) node c := by
  simp only [parseLogging, field_run]
  exact run_then fun c ↦ run_then fun c ↦ run_last _ node c

private theorem part_last {σ τ : Type} {parse : Document → τ → Except ConfigError τ}
    {rs : List (Assignment τ ConfigError)}
    (hparse : ∀ node c, parse node c = runAll .badSubscript rs node c) (hrs : rs ≠ [])
    {get : σ → τ} {set : τ → σ → σ} (hpart : IsComponent get set) (node : Document) (key : String)
    (c : σ) :
    part node key get set parse c =
      runAll .badSubscript (rs.map (within key get set)) node c :=
  inSection_eq hrs hparse hpart node key c

private theorem part_then {σ τ : Type} {parse : Document → τ → Except ConfigError τ}
    {rs : List (Assignment τ ConfigError)}
    (hparse : ∀ node c, parse node c = runAll .badSubscript rs node c) (hrs : rs ≠ [])
    {get : σ → τ} {set : τ → σ → σ} (hpart : IsComponent get set) {node : Document} {key : String}
    {c : σ} {qs : List (Assignment σ ConfigError)} {k : σ → Except ConfigError σ}
    (hk : ∀ c, k c = runAll .badSubscript qs node c) :
    part node key get set parse c >>= k =
      runAll .badSubscript (rs.map (within key get set) ++ qs) node c := by
  rw [part_last hparse hrs hpart]
  exact runAll_then hk

variable (yaml) in
private def serverAssignments : List (Assignment ServerConfig ConfigError) :=
  (httpAssignments yaml).map (within "http" (·.http) fun http c ↦ { c with http }) ++
    (grpcAssignments yaml).map (within "grpc" (·.grpc) fun grpc c ↦ { c with grpc })

private theorem parseServer_eq (node : Document) (c : ServerConfig) :
    parseServer yaml node c = runAll .badSubscript (serverAssignments yaml) node c := by
  refine part_then parseHttp_eq (List.cons_ne_nil _ _) ?_ fun c ↦ ?_
  · exact ⟨fun _ ↦ rfl, fun _ _ ↦ rfl, fun _ _ _ ↦ rfl⟩
  · refine part_last parseGrpc_eq (List.cons_ne_nil _ _) ?_ node "grpc" c
    exact ⟨fun _ ↦ rfl, fun _ _ ↦ rfl, fun _ _ _ ↦ rfl⟩

variable (yaml) in
private def storageAssignments : List (Assignment StorageConfig ConfigError) :=
  single "backend" yaml.asString (fun backend c ↦ { c with backend }) ::
    ((sqliteAssignments yaml).map (within "sqlite" (·.sqlite) fun sqlite c ↦ { c with sqlite }) ++
      (mysqlAssignments yaml).map (within "mysql" (·.mysql) fun mysql c ↦ { c with mysql }))

private theorem parseStorage_eq (node : Document) (c : StorageConfig) :
    parseStorage yaml node c = runAll .badSubscript (storageAssignments yaml) node c := by
  simp only [parseStorage, field_run]
  refine run_then fun c ↦ ?_
  refine part_then parseSqlite_eq (List.cons_ne_nil _ _) ?_ fun c ↦ ?_
  · exact ⟨fun _ ↦ rfl, fun _ _ ↦ rfl, fun _ _ _ ↦ rfl⟩
  · refine part_last parseMysql_eq (List.cons_ne_nil _ _) ?_ node "mysql" c
    exact ⟨fun _ ↦ rfl, fun _ _ ↦ rfl, fun _ _ _ ↦ rfl⟩

variable (yaml) in
private def authAssignments : List (Assignment AuthConfig ConfigError) :=
  single "enabled" yaml.asBool (fun enabled c ↦ { c with enabled }) ::
    single "read_auth_required" yaml.asBool
      (fun readAuthRequired c ↦ { c with readAuthRequired }) ::
    (jwtAssignments yaml).map (within "jwt" (·.jwt) fun jwt c ↦ { c with jwt })

private theorem parseAuth_eq (node : Document) (c : AuthConfig) :
    parseAuth yaml node c = runAll .badSubscript (authAssignments yaml) node c := by
  simp only [parseAuth, field_run]
  refine run_then fun c ↦ run_then fun c ↦ ?_
  refine part_last parseJwt_eq (List.cons_ne_nil _ _) ?_ node "jwt" c
  exact ⟨fun _ ↦ rfl, fun _ _ ↦ rfl, fun _ _ _ ↦ rfl⟩

variable (yaml) in
private def approvalAssignments : List (Assignment ApprovalConfig ConfigError) :=
  [single "default_enabled" yaml.asBool fun defaultEnabled c ↦ { c with defaultEnabled }]

variable (yaml) in
private def grayscaleAssignments : List (Assignment GrayscaleConfig ConfigError) :=
  [single "default_percentage" yaml.asInt fun defaultPercentage c ↦ { c with defaultPercentage }]

private theorem approval_eq (node : Document) (c : ApprovalConfig) :
    field node "default_enabled" yaml.asBool (fun defaultEnabled c ↦ { c with defaultEnabled }) c =
      runAll .badSubscript (approvalAssignments yaml) node c := by
  rw [field_run]
  exact run_last _ node c

private theorem grayscale_eq (node : Document) (c : GrayscaleConfig) :
    field node "default_percentage" yaml.asInt
        (fun defaultPercentage c ↦ { c with defaultPercentage }) c =
      runAll .badSubscript (grayscaleAssignments yaml) node c := by
  rw [field_run]
  exact run_last _ node c

variable (yaml) in
private def publishAssignments : List (Assignment PublishConfig ConfigError) :=
  (approvalAssignments yaml).map (within "approval" (·.approval) fun approval c ↦
    { c with approval }) ++
    (grayscaleAssignments yaml).map (within "grayscale" (·.grayscale) fun grayscale c ↦
      { c with grayscale })

private theorem parsePublish_eq (node : Document) (c : PublishConfig) :
    parsePublish yaml node c = runAll .badSubscript (publishAssignments yaml) node c := by
  refine part_then approval_eq (List.cons_ne_nil _ _) ?_ fun c ↦ ?_
  · exact ⟨fun _ ↦ rfl, fun _ _ ↦ rfl, fun _ _ _ ↦ rfl⟩
  · refine part_last grayscale_eq (List.cons_ne_nil _ _) ?_ node "grayscale" c
    exact ⟨fun _ ↦ rfl, fun _ _ ↦ rfl, fun _ _ _ ↦ rfl⟩

variable (yaml) in
private def grpcNotifyAssignments : List (Assignment GrpcNotifyConfig ConfigError) :=
  [single "keepalive_seconds" yaml.asInt fun keepaliveSeconds c ↦ { c with keepaliveSeconds }]

private theorem grpcNotify_eq (node : Document) (c : GrpcNotifyConfig) :
    field node "keepalive_seconds" yaml.asInt
        (fun keepaliveSeconds c ↦ { c with keepaliveSeconds }) c =
      runAll .badSubscript (grpcNotifyAssignments yaml) node c := by
  rw [field_run]
  exact run_last _ node c

variable (yaml) in
private def notificationAssignments : List (Assignment NotificationConfig ConfigError) :=
  (longPollingAssignments yaml).map (within "long_polling" (·.longPolling) fun longPolling c ↦
    { c with longPolling }) ++
    (grpcNotifyAssignments yaml).map (within "grpc" (·.grpc) fun grpc c ↦ { c with grpc })

private theorem parseNotification_eq (node : Document) (c : NotificationConfig) :
    parseNotification yaml node c = runAll .badSubscript (notificationAssignments yaml) node c := by
  refine part_then parseLongPolling_eq (List.cons_ne_nil _ _) ?_ fun c ↦ ?_
  · exact ⟨fun _ ↦ rfl, fun _ _ ↦ rfl, fun _ _ _ ↦ rfl⟩
  · refine part_last grpcNotify_eq (List.cons_ne_nil _ _) ?_ node "grpc" c
    exact ⟨fun _ ↦ rfl, fun _ _ ↦ rfl, fun _ _ _ ↦ rfl⟩

variable (yaml) in
private def appAssignments : List (Assignment AppConfig ConfigError) :=
  (serverAssignments yaml).map (within "server" (·.server) fun server c ↦ { c with server }) ++
    ((storageAssignments yaml).map (within "storage" (·.storage) fun storage c ↦
      { c with storage }) ++
    ((authAssignments yaml).map (within "auth" (·.auth) fun auth c ↦ { c with auth }) ++
    ((namespaceAssignments yaml).map (within "namespace" (·.namespaceConfig)
      fun namespaceConfig c ↦ { c with namespaceConfig }) ++
    ((publishAssignments yaml).map (within "publish" (·.publish) fun publish c ↦
      { c with publish }) ++
    ((notificationAssignments yaml).map (within "notification" (·.notification)
      fun notification c ↦ { c with notification }) ++
    ((limitsAssignments yaml).map (within "limits" (·.limits) fun limits c ↦ { c with limits }) ++
    (loggingAssignments yaml).map (within "logging" (·.logging) fun logging c ↦
      { c with logging })))))))

private theorem parseRoot_run (root : Document) :
    parseRoot yaml root = runAll .badSubscript (appAssignments yaml) root {} := by
  refine part_then parseServer_eq (List.cons_ne_nil _ _) ?_ fun c ↦ ?_
  · exact ⟨fun _ ↦ rfl, fun _ _ ↦ rfl, fun _ _ _ ↦ rfl⟩
  refine part_then parseStorage_eq (List.cons_ne_nil _ _) ?_ fun c ↦ ?_
  · exact ⟨fun _ ↦ rfl, fun _ _ ↦ rfl, fun _ _ _ ↦ rfl⟩
  refine part_then parseAuth_eq (List.cons_ne_nil _ _) ?_ fun c ↦ ?_
  · exact ⟨fun _ ↦ rfl, fun _ _ ↦ rfl, fun _ _ _ ↦ rfl⟩
  refine part_then parseNamespace_eq (List.cons_ne_nil _ _) ?_ fun c ↦ ?_
  · exact ⟨fun _ ↦ rfl, fun _ _ ↦ rfl, fun _ _ _ ↦ rfl⟩
  refine part_then parsePublish_eq (List.cons_ne_nil _ _) ?_ fun c ↦ ?_
  · exact ⟨fun _ ↦ rfl, fun _ _ ↦ rfl, fun _ _ _ ↦ rfl⟩
  refine part_then parseNotification_eq (List.cons_ne_nil _ _) ?_ fun c ↦ ?_
  · exact ⟨fun _ ↦ rfl, fun _ _ ↦ rfl, fun _ _ _ ↦ rfl⟩
  refine part_then parseLimits_eq (List.cons_ne_nil _ _) ?_ fun c ↦ ?_
  · exact ⟨fun _ ↦ rfl, fun _ _ ↦ rfl, fun _ _ _ ↦ rfl⟩
  refine part_last parseLogging_eq (List.cons_ne_nil _ _) ?_ root "logging" c
  exact ⟨fun _ ↦ rfl, fun _ _ ↦ rfl, fun _ _ _ ↦ rfl⟩

private theorem appAssignments_eq :
    appAssignments yaml =
      Setting.all.map ((settings yaml).reading AppConfig.get AppConfig.of) := rfl

/-- The parser loads the settings of the table over the defaults. -/
theorem parseRoot_eq (root : Document) :
    parseRoot yaml root =
      ((settings yaml).load Setting.all root (AppConfig.get {})).map AppConfig.of := by
  rw [parseRoot_run, appAssignments_eq]
  exact Settings.runAll_reading AppConfig.of_get AppConfig.get_of Setting.all root {}

end ConfigParser

end ConfigCenter.Config
