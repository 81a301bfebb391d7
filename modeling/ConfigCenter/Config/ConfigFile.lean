import ConfigCenter.Base.Text
import ConfigCenter.Config.Settings

/-!
# What a configuration file gives

Library `Config`. `parseFile` and `parseString` in terms of the table of settings: which
configuration a file gives, with which exception it is refused, and that settings written
into a document are parsed back while every other setting stays as it was.
-/

namespace ConfigCenter.Config
open ConfigCenter.Base

variable {yaml : YamlCpp}

/-- What a document gives for a setting, `yaml-cpp` and the subscripts on the way included. -/
abbrev Setting.given (yaml : YamlCpp) (root : Document) (s : Setting) :
    Except ConfigError (Option s.Value) :=
  (settings yaml).given root s

private theorem parseRoot_eq_ok_iff {root : Document} {config : AppConfig} :
    ConfigParser.parseRoot yaml root = .ok config ↔
      ∀ s : Setting, ∃ v, s.given yaml root = .ok v ∧
        config.get s = v.getD (AppConfig.get {} s) := by
  rw [ConfigParser.parseRoot_eq]
  have hload : (((settings yaml).load Setting.all root (AppConfig.get {})).map AppConfig.of =
      .ok config) ↔
      (settings yaml).load Setting.all root (AppConfig.get {}) = .ok config.get := by
    cases (settings yaml).load Setting.all root (AppConfig.get {}) with
    | error e => exact iff_of_false nofun nofun
    | ok v =>
      constructor
      · intro h
        rw [← Except.ok.inj h, AppConfig.get_of]
      · intro h
        rw [Except.ok.inj h]
        rfl
  rw [hload, Settings.load_eq_ok_iff]
  constructor
  · rintro ⟨hread, -⟩ s
    exact hread s s.mem_all
  · intro h
    exact ⟨fun s _ ↦ h s, fun s hs ↦ absurd s.mem_all hs⟩

private theorem parseRoot_eq_error_iff {root : Document} {e : ConfigError} :
    ConfigParser.parseRoot yaml root = .error e ↔
      ∃ pre s post, Setting.all = pre ++ s :: post ∧
        (∀ t ∈ pre, (t.given yaml root).isOk) ∧ s.given yaml root = .error e := by
  rw [ConfigParser.parseRoot_eq]
  have hload : (((settings yaml).load Setting.all root (AppConfig.get {})).map AppConfig.of =
      .error e) ↔ (settings yaml).load Setting.all root (AppConfig.get {}) = .error e := by
    cases (settings yaml).load Setting.all root (AppConfig.get {}) with
    | error e' =>
      constructor
      · intro h
        exact congrArg Except.error (Except.error.inj h)
      · intro h
        exact congrArg Except.error (Except.error.inj h)
    | ok v => exact iff_of_false nofun nofun
  rw [hload]
  exact Settings.load_eq_error_iff

private theorem parseFile_of_load {files : String → Option String} {path content : String}
    {root : Document} (hfile : files path = some content) (hload : yaml.load content = .ok root) :
    ConfigParser.parseFile yaml files path = ConfigParser.parseRoot yaml root := by
  rw [ConfigParser.parseFile, hfile]
  change yaml.load content >>= ConfigParser.parseRoot yaml = _
  rw [hload]
  rfl

private theorem parseFile_of_load_error {files : String → Option String} {path content : String}
    {e : ConfigError} (hfile : files path = some content) (hload : yaml.load content = .error e) :
    ConfigParser.parseFile yaml files path = .error e := by
  rw [ConfigParser.parseFile, hfile]
  change yaml.load content >>= ConfigParser.parseRoot yaml = _
  rw [hload]
  rfl

private theorem parseFile_of_none {files : String → Option String} {path : String}
    (hfile : files path = none) :
    ConfigParser.parseFile yaml files path =
      .error (.runtime ("Failed to open config file: " ++ path)) := by
  rw [ConfigParser.parseFile, hfile]

/-- A file gives a configuration exactly when it opens and loads and every setting of the
configuration is the one at its path, or the default where the path leads nowhere. -/
theorem parseFile_eq_ok_iff (yaml : YamlCpp) (files : String → Option String) (path : String)
    (config : AppConfig) :
    ConfigParser.parseFile yaml files path = .ok config ↔
      ∃ content root, files path = some content ∧ yaml.load content = .ok root ∧
        ∀ s : Setting, ∃ v, s.given yaml root = .ok v ∧
          config.get s = v.getD (AppConfig.get {} s) := by
  constructor
  · intro h
    cases hfile : files path with
    | none =>
      rw [parseFile_of_none hfile] at h
      cases h
    | some content =>
      cases hload : yaml.load content with
      | error e =>
        rw [parseFile_of_load_error hfile hload] at h
        cases h
      | ok root =>
        rw [parseFile_of_load hfile hload] at h
        exact ⟨content, root, rfl, hload, parseRoot_eq_ok_iff.mp h⟩
  · rintro ⟨content, root, hfile, hload, h⟩
    rw [parseFile_of_load hfile hload]
    exact parseRoot_eq_ok_iff.mpr h

/-- A file is refused with the message that names it when it does not open, with what loading
throws, or with what the first setting that cannot be read throws. -/
theorem parseFile_eq_error_iff (yaml : YamlCpp) (files : String → Option String) (path : String)
    (e : ConfigError) :
    ConfigParser.parseFile yaml files path = .error e ↔
      (files path = none ∧ e = .runtime ("Failed to open config file: " ++ path)) ∨
      ∃ content, files path = some content ∧ (yaml.load content = .error e ∨
        ∃ root pre s post, yaml.load content = .ok root ∧ Setting.all = pre ++ s :: post ∧
          (∀ t ∈ pre, (t.given yaml root).isOk) ∧ s.given yaml root = .error e) := by
  cases hfile : files path with
  | none =>
    rw [parseFile_of_none hfile]
    constructor
    · intro h
      exact .inl ⟨rfl, (Except.error.inj h).symm⟩
    · rintro (⟨-, rfl⟩ | ⟨_, h, -⟩)
      · rfl
      · cases h
  | some content =>
    cases hload : yaml.load content with
    | error e' =>
      rw [parseFile_of_load_error hfile hload]
      constructor
      · intro h
        exact .inr ⟨content, rfl, .inl (hload.trans (congrArg _ (Except.error.inj h)))⟩
      · rintro (⟨h, -⟩ | ⟨other, hother, h⟩)
        · cases h
        · obtain rfl := Option.some.inj hother
          rw [hload] at h
          obtain h | ⟨_, _, _, _, h, -⟩ := h
          · exact congrArg _ (Except.error.inj h)
          · cases h
    | ok root =>
      rw [parseFile_of_load hfile hload, parseRoot_eq_error_iff]
      constructor
      · rintro ⟨pre, s, post, hall, hpre, hs⟩
        exact .inr ⟨content, rfl, .inr ⟨root, pre, s, post, hload, hall, hpre, hs⟩⟩
      · rintro (⟨h, -⟩ | ⟨other, hother, h⟩)
        · cases h
        · obtain rfl := Option.some.inj hother
          rw [hload] at h
          obtain h | ⟨_, pre, s, post, h, hall, hpre, hs⟩ := h
          · cases h
          · obtain rfl := Except.ok.inj h
            exact ⟨pre, s, post, hall, hpre, hs⟩

/-! ### Writing settings -/

/-- A setting as a file holds it. -/
def Setting.write (s : Setting) (v : s.Value) : Document :=
  match s, v with
  | .httpHost, v | .grpcHost, v | .backend, v | .sqlitePath, v | .mysqlHost, v | .mysqlUser, v
  | .mysqlPassword, v | .mysqlDatabase, v | .jwtSecret, v | .logLevel, v | .logFile, v
  | .logFormat, v => .scalar v
  | .httpPort, v | .grpcPort, v | .mysqlPort, v => .scalar (toString v.toNat)
  | .httpThreads, v | .grpcThreads, v | .mysqlPoolSize, v | .mysqlTimeout, v | .jwtExpiry, v
  | .grayscalePercentage, v | .maxTimeout, v | .defaultTimeout, v | .keepalive, v
  | .keyMaxLength, v | .valueMaxBytes, v | .noteMaxLength, v => .scalar (toString v.toInt)
  | .authEnabled, v | .readAuthRequired, v | .approvalEnabled, v =>
    .scalar (if v then "true" else "false")
  | .environments, v => .sequence (v.map .scalar)

/-- Settings of a configuration written into a document that parses are parsed back, and every
other setting stays as it was. -/
theorem written_settings_parse {base : Document} {before c : AppConfig} {kept : List Setting}
    (hbase : ConfigParser.parseRoot yaml base = .ok before)
    (hback : ∀ s ∈ kept, s.read yaml (s.write (c.get s)) = .ok (c.get s)) :
    ∃ after,
      ConfigParser.parseRoot yaml
        ((settings yaml).written Setting.write c.get kept base) = .ok after ∧
      ∀ s, after.get s = if s ∈ kept then c.get s else before.get s := by
  have hread := parseRoot_eq_ok_iff.mp hbase
  refine ⟨.of fun s ↦ if s ∈ kept then c.get s else before.get s, ?_, ?_⟩
  · rw [parseRoot_eq_ok_iff]
    intro s
    obtain ⟨v, hv, hbefore⟩ := hread s
    have hok : (s.given yaml base).isOk := by
      rw [hv]
      rfl
    rw [Setting.given, Settings.given_written Setting.apart_path hback hok, AppConfig.get_of]
    by_cases hs : s ∈ kept
    · rw [if_pos hs, if_pos hs]
      exact ⟨some (c.get s), rfl, rfl⟩
    · rw [if_neg hs, if_neg hs]
      exact ⟨v, hv, hbefore⟩
  · intro s
    rw [AppConfig.get_of]

/-- Conversions of texts that are written the way a setting is. -/
def plainYaml : YamlCpp where
  load _ := .error .parser
  asString
    | .scalar text => .ok text
    | .null => .ok "null"
    | _ => .error .badConversion
  asUInt16
    | .scalar text =>
      match parseInteger text with
      | some n =>
        if n.repr = text ∧ 0 ≤ n ∧ n < 65536 then .ok (UInt16.ofNat n.toNat)
        else .error .badConversion
      | none => .error .badConversion
    | _ => .error .badConversion
  asInt
    | .scalar text =>
      match parseInteger text with
      | some n =>
        if n.repr = text ∧ -2147483648 ≤ n ∧ n < 2147483648 then .ok (Int32.ofInt n)
        else .error .badConversion
      | none => .error .badConversion
    | _ => .error .badConversion
  asBool
    | .scalar "true" => .ok true
    | .scalar "false" => .ok false
    | _ => .error .badConversion

/-- A file with a port, with an empty section and with a key that no setting has. -/
def portFile : Document :=
  .map [(.scalar "server", .map [(.scalar "grpc", .map [(.scalar "port", .scalar "9191")])]),
    (.scalar "logging", .null), (.scalar "owner", .scalar "ops")]

/-- A port, a backend and the environments written into it. -/
def portConfig : AppConfig :=
  { server := { http := { port := 8181 } }, storage := { backend := "mysql" } }

/-- Three settings of a configuration with another port. -/
theorem written_settings_parse_port :
    ∃ after,
      ConfigParser.parseRoot plainYaml ((settings plainYaml).written Setting.write portConfig.get
        [.httpPort, .backend, .environments] portFile) = .ok after ∧
      ∀ s, after.get s =
        if s ∈ [Setting.httpPort, .backend, .environments] then portConfig.get s
        else AppConfig.get { server := { grpc := { port := 9191 } } } s :=
  written_settings_parse rfl (List.forall_mem_cons.mpr ⟨rfl,
    List.forall_mem_cons.mpr ⟨rfl, List.forall_mem_cons.mpr ⟨rfl, nofun⟩⟩⟩)

end ConfigCenter.Config
