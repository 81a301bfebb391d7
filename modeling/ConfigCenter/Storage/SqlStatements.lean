import ConfigCenter.Base.SqlText
import ConfigCenter.Storage.MysqlConnection

/-!
# Statement texts of the MySQL store

Library `Storage`. Every statement that `mysql_config_store.cpp` puts together
from fixed text and strings of its callers, as the list of the operands of `+`
that make it. Callers' strings pass through `escape`; clock readings and the
texts of `std::to_string` do not. A MySQL server reads every statement with the same
code fragments whatever its callers' strings are, and with these strings as literals.
-/

namespace ConfigCenter.Storage
open ConfigCenter.Base

/-- A text that `getTimestamp` returns, `mysql_config_store.cpp:45–51`: digits, and the fixed
characters of `%Y-%m-%dT%H:%M:%SZ`. -/
structure ClockReading where
  text : String
  digits : ∀ c ∈ text.toList, c.isDigit ∨ c ∈ ['-', 'T', ':', 'Z']

/-- An operand of the concatenations that build statements. -/
inductive Operand where
  | fixed (text : String)
  | escaped (value : String)
  | clock (ts : ClockReading)
  | number (n : Int)

/-- The characters of an operand; `std::to_string` writes decimal digits after a sign. -/
def Operand.chars : Operand → List Char
  | .fixed text => text.toList
  | .escaped value => (escape value).toList
  | .clock ts => ts.text.toList
  | .number n => (toString n).toList

/-- Statements of `mysql_config_store.cpp`, each with the strings it escapes, in the order in
which they stand there, and with its other data. -/
inductive SqlStatement where
  | insertApplication (appId name : String) (description : Option String) (createdAt : String)
  | selectApplication (appId : String)
  | deleteApplication (appId : String)
  | insertNamespace (id appId env cluster name type : String) (parentNamespaceId : Option String)
    (approvalEnabled : Option Bool) (createdAt : String)
  | selectNamespace (nsId : String)
  | selectNamespaces (appId env cluster : String)
  | deleteNamespace (nsId : String)
  | insertConfig (namespaceId key value : String) (ts : ClockReading)
  | insertFirstVersion (configId value operatorId : String) (ts : ClockReading)
  | insertCreateLog (configId namespaceId key value operatorId : String) (ts : ClockReading)
  | selectVersionAndValue (namespaceId key : String)
  | updateConfig (value namespaceId key : String) (newVersion : Int32) (draft : Bool)
    (ts : ClockReading)
  | insertNextVersion (configId value operatorId : String) (newVersion : Int32)
    (ts : ClockReading)
  | insertUpdateLog (configId namespaceId key oldValue value operatorId : String)
    (newVersion : Int32) (ts : ClockReading)
  | deleteConfig (namespaceId key : String) (draft : Bool)
  | insertDeleteLog (configId namespaceId key operatorId : String) (ts : ClockReading)
  | selectConfig (namespaceId key : String)
  | selectConfigs (namespaceId : String) (includeDraft : Bool)
  | selectVersions (configId : String)
  | selectVersion (configId : String) (version : Int32)
  | selectChangeLogs (key namespaceId timeFrom timeTo : Option String) (page pageSize : Int32)
  | insertRelease (namespaceId releaseNote releaseType status : String)
    (whitelist : Option String) (operatorId : String) (releaseVersion : Int32)
    (grayscalePercentage : Option Int32) (ts : ClockReading)
  | selectReleases (namespaceId : String) (page pageSize : Int32)
  | selectRelease (releaseId : Int)
  | retireRelease (releaseId : Int)
  | publishConfigs (namespaceId : String)
  | selectMaxVersion (namespaceId : String)
  | insertFullRelease (namespaceId releaseNote operatorId : String) (nextVersion : Int32)
    (ts : ClockReading)
  | insertApproval (namespaceId submitterId approverId status comment : String)
    (ts : ClockReading)
  | updateApproval (status comment : String) (approvalId : Int) (ts : ClockReading)
  | selectPendingApprovals (namespaceId : String)
  | insertUser (username passwordHash role createdAt : String)
  | selectUser (username : String)

/-- `x ? "'" + escape(*x) + "'" : "NULL"`. -/
def nullable : Option String → List Operand
  | some value => [.fixed "'", .escaped value, .fixed "'"]
  | none => [.fixed "NULL"]

/-- `if (x) sql += "…'" + escape(*x) + "'"`. -/
def condition (text : String) : Option String → List Operand
  | some value => [.fixed text, .escaped value, .fixed "'"]
  | none => []

namespace SqlStatement

/-- The operands of each concatenation, `mysql_config_store.cpp:211–773`. -/
def operands : SqlStatement → List Operand
  -- createApplication, 211–214
  | .insertApplication appId name description createdAt =>
    [.fixed "INSERT INTO applications (app_id, name, description, created_at) VALUES ('",
      .escaped appId, .fixed "', '", .escaped name, .fixed "', "] ++ nullable description ++
    [.fixed ", '", .escaped createdAt, .fixed "')"]
  -- getApplication, 222–223
  | .selectApplication appId =>
    [.fixed "SELECT app_id, name, description, created_at FROM applications WHERE app_id = '",
      .escaped appId, .fixed "'"]
  -- deleteApplication, 257
  | .deleteApplication appId =>
    [.fixed "DELETE FROM applications WHERE app_id = '", .escaped appId, .fixed "'"]
  -- createNamespace, 265–271
  | .insertNamespace id appId env cluster name type parentNamespaceId approvalEnabled createdAt =>
    [.fixed "INSERT INTO namespaces (id, app_id, env, cluster, name, type, parent_namespace_id, ",
      .fixed "approval_enabled, created_at) VALUES ('",
      .escaped id, .fixed "', '", .escaped appId, .fixed "', '", .escaped env, .fixed "', '",
      .escaped cluster, .fixed "', '", .escaped name, .fixed "', '", .escaped type,
      .fixed "', "] ++ nullable parentNamespaceId ++
    [.fixed ", ",
      .fixed (match approvalEnabled with | some true => "TRUE" | some false | none => "FALSE"),
      .fixed ", '", .escaped createdAt, .fixed "')"]
  -- getNamespace, 279–281
  | .selectNamespace nsId =>
    [.fixed "SELECT id, app_id, env, cluster, name, type, parent_namespace_id, approval_enabled, ",
      .fixed "created_at FROM namespaces WHERE id = '", .escaped nsId, .fixed "'"]
  -- listNamespaces, 303–306
  | .selectNamespaces appId env cluster =>
    [.fixed "SELECT id, app_id, env, cluster, name, type, parent_namespace_id, approval_enabled, ",
      .fixed "created_at FROM namespaces WHERE app_id = '", .escaped appId,
      .fixed "' AND env = '", .escaped env, .fixed "' AND cluster = '", .escaped cluster,
      .fixed "'"]
  -- deleteNamespace, 330
  | .deleteNamespace nsId =>
    [.fixed "DELETE FROM namespaces WHERE id = '", .escaped nsId, .fixed "'"]
  -- createConfig, 342–344
  | .insertConfig namespaceId key value ts =>
    [.fixed "INSERT INTO configs (namespace_id, `key`, value, version, status, created_at, ",
      .fixed "updated_at) VALUES ('", .escaped namespaceId, .fixed "', '", .escaped key,
      .fixed "', '", .escaped value, .fixed "', 1, 'draft', '", .clock ts, .fixed "', '",
      .clock ts, .fixed "')"]
  -- createConfig, 347–349
  | .insertFirstVersion configId value operatorId ts =>
    [.fixed "INSERT INTO config_versions (version, config_id, value, change_type, operator_id, ",
      .fixed "created_at) VALUES (1, '", .escaped configId, .fixed "', '", .escaped value,
      .fixed "', 'create', '", .escaped operatorId, .fixed "', '", .clock ts, .fixed "')"]
  -- createConfig, 350–353
  | .insertCreateLog configId namespaceId key value operatorId ts =>
    [.fixed "INSERT INTO change_logs (config_id, namespace_id, `key`, version, new_value, ",
      .fixed "operation, operator_id, created_at) VALUES ('", .escaped configId, .fixed "', '",
      .escaped namespaceId, .fixed "', '", .escaped key, .fixed "', 1, '", .escaped value,
      .fixed "', 'create', '", .escaped operatorId, .fixed "', '", .clock ts, .fixed "')"]
  -- updateConfig, 367–368
  | .selectVersionAndValue namespaceId key =>
    [.fixed "SELECT version, value FROM configs WHERE namespace_id = '", .escaped namespaceId,
      .fixed "' AND `key` = '", .escaped key, .fixed "'"]
  -- updateConfig, 380–382
  | .updateConfig value namespaceId key newVersion draft ts =>
    [.fixed "UPDATE configs SET value = '", .escaped value, .fixed "', version = ",
      .number newVersion.toInt, .fixed ", status = '",
      .fixed (if draft then "draft" else "live"), .fixed "', updated_at = '", .clock ts,
      .fixed "' WHERE namespace_id = '", .escaped namespaceId, .fixed "' AND `key` = '",
      .escaped key, .fixed "'"]
  -- updateConfig, 384–386
  | .insertNextVersion configId value operatorId newVersion ts =>
    [.fixed "INSERT INTO config_versions (version, config_id, value, change_type, operator_id, ",
      .fixed "created_at) VALUES (", .number newVersion.toInt, .fixed ", '", .escaped configId,
      .fixed "', '", .escaped value, .fixed "', 'update', '", .escaped operatorId,
      .fixed "', '", .clock ts, .fixed "')"]
  -- updateConfig, 388–391
  | .insertUpdateLog configId namespaceId key oldValue value operatorId newVersion ts =>
    [.fixed "INSERT INTO change_logs (config_id, namespace_id, `key`, version, old_value, ",
      .fixed "new_value, operation, operator_id, created_at) VALUES ('", .escaped configId,
      .fixed "', '", .escaped namespaceId, .fixed "', '", .escaped key, .fixed "', ",
      .number newVersion.toInt, .fixed ", '", .escaped oldValue, .fixed "', '", .escaped value,
      .fixed "', 'update', '", .escaped operatorId, .fixed "', '", .clock ts, .fixed "')"]
  -- deleteConfig, 404–408
  | .deleteConfig namespaceId key draft =>
    [.fixed "DELETE FROM configs WHERE namespace_id = '", .escaped namespaceId,
      .fixed "' AND `key` = '", .escaped key,
      .fixed (if draft then "' AND status = 'draft'" else "'")]
  -- deleteConfig, 411–414
  | .insertDeleteLog configId namespaceId key operatorId ts =>
    [.fixed "INSERT INTO change_logs (config_id, namespace_id, `key`, version, operation, ",
      .fixed "operator_id, created_at) VALUES ('", .escaped configId, .fixed "', '",
      .escaped namespaceId, .fixed "', '", .escaped key, .fixed "', 0, 'delete', '",
      .escaped operatorId, .fixed "', '", .clock ts, .fixed "')"]
  -- getConfig, 424–425
  | .selectConfig namespaceId key =>
    [.fixed "SELECT namespace_id, `key`, value, version, status, created_at, updated_at FROM ",
      .fixed "configs WHERE namespace_id = '", .escaped namespaceId, .fixed "' AND `key` = '",
      .escaped key, .fixed "'"]
  -- listConfigs, 445–450
  | .selectConfigs namespaceId includeDraft =>
    [.fixed "SELECT namespace_id, `key`, value, version, status, created_at, updated_at FROM ",
      .fixed "configs WHERE namespace_id = '", .escaped namespaceId, .fixed "'"] ++
    (if includeDraft then [] else [.fixed " AND status = 'live'"])
  -- getConfigVersions, 475–476
  | .selectVersions configId =>
    [.fixed "SELECT version, config_id, value, change_type, operator_id, created_at FROM ",
      .fixed "config_versions WHERE config_id = '", .escaped configId,
      .fixed "' ORDER BY version DESC"]
  -- getConfigVersion, 499–500
  | .selectVersion configId version =>
    [.fixed "SELECT version, config_id, value, change_type, operator_id, created_at FROM ",
      .fixed "config_versions WHERE config_id = '", .escaped configId,
      .fixed "' AND version = ", .number version.toInt]
  -- getChangeHistory, 525–535
  | .selectChangeLogs key namespaceId timeFrom timeTo page pageSize =>
    [.fixed "SELECT id, config_id, namespace_id, `key`, version, old_value, new_value, ",
      .fixed "operation, operator_id, created_at FROM change_logs WHERE 1=1"] ++
    condition " AND `key` = '" key ++ condition " AND namespace_id = '" namespaceId ++
    condition " AND created_at >= '" timeFrom ++ condition " AND created_at <= '" timeTo ++
    [.fixed " ORDER BY created_at DESC LIMIT ", .number pageSize.toInt, .fixed " OFFSET ",
      .number ((page - 1) * pageSize).toInt]
  -- createRelease, 565–572
  | .insertRelease namespaceId releaseNote releaseType status whitelist operatorId releaseVersion
      grayscalePercentage ts =>
    [.fixed "INSERT INTO releases (namespace_id, release_version, release_note, release_type, ",
      .fixed "status, grayscale_percentage, whitelist, operator_id, created_at) VALUES ('",
      .escaped namespaceId, .fixed "', ", .number releaseVersion.toInt, .fixed ", '",
      .escaped releaseNote, .fixed "', '", .escaped releaseType, .fixed "', '", .escaped status,
      .fixed "', ",
      match grayscalePercentage with
      | some percentage => .number percentage.toInt
      | none => .fixed "NULL",
      .fixed ", "] ++ nullable whitelist ++
    [.fixed ", '", .escaped operatorId, .fixed "', '", .clock ts, .fixed "')"]
  -- getReleases, 587–591
  | .selectReleases namespaceId page pageSize =>
    [.fixed "SELECT id, namespace_id, release_version, release_note, release_type, status, ",
      .fixed "grayscale_percentage, whitelist, operator_id, created_at FROM releases WHERE ",
      .fixed "namespace_id = '", .escaped namespaceId,
      .fixed "' ORDER BY created_at DESC LIMIT ", .number pageSize.toInt, .fixed " OFFSET ",
      .number ((page - 1) * pageSize).toInt]
  -- getRelease, 619–621
  | .selectRelease releaseId =>
    [.fixed "SELECT id, namespace_id, release_version, release_note, release_type, status, ",
      .fixed "grayscale_percentage, whitelist, operator_id, created_at FROM releases WHERE id = ",
      .number releaseId]
  -- retireRelease, 642
  | .retireRelease releaseId =>
    [.fixed "UPDATE releases SET status = 'retired' WHERE id = ", .number releaseId]
  -- publishRelease, 654
  | .publishConfigs namespaceId =>
    [.fixed "UPDATE configs SET status = 'live' WHERE namespace_id = '", .escaped namespaceId,
      .fixed "'"]
  -- publishRelease, 658
  | .selectMaxVersion namespaceId =>
    [.fixed "SELECT MAX(release_version) FROM releases WHERE namespace_id = '",
      .escaped namespaceId, .fixed "'"]
  -- publishRelease, 674–678
  | .insertFullRelease namespaceId releaseNote operatorId nextVersion ts =>
    [.fixed "INSERT INTO releases (namespace_id, release_version, release_note, release_type, ",
      .fixed "status, operator_id, created_at) VALUES ('", .escaped namespaceId, .fixed "', ",
      .number nextVersion.toInt, .fixed ", '", .escaped releaseNote,
      .fixed "', 'full', 'active', '", .escaped operatorId, .fixed "', '", .clock ts,
      .fixed "')"]
  -- createApproval, 704–708
  | .insertApproval namespaceId submitterId approverId status comment ts =>
    [.fixed "INSERT INTO approvals (namespace_id, submitter_id, approver_id, status, comment, ",
      .fixed "created_at) VALUES ('", .escaped namespaceId, .fixed "', '", .escaped submitterId,
      .fixed "', "] ++ nullable (if approverId = "" then none else some approverId) ++
    [.fixed ", '", .escaped status, .fixed "', '", .escaped comment, .fixed "', '", .clock ts,
      .fixed "')"]
  -- updateApprovalStatus, 724–725
  | .updateApproval status comment approvalId ts =>
    [.fixed "UPDATE approvals SET status = '", .escaped status, .fixed "', comment = '",
      .escaped comment, .fixed "', updated_at = '", .clock ts, .fixed "' WHERE id = ",
      .number approvalId]
  -- getPendingApprovals, 734–736
  | .selectPendingApprovals namespaceId =>
    [.fixed "SELECT id, namespace_id, submitter_id, approver_id, status, comment, created_at, ",
      .fixed "updated_at FROM approvals WHERE namespace_id = '", .escaped namespaceId,
      .fixed "' AND status = 'pending'"]
  -- createUser, 759–761
  | .insertUser username passwordHash role createdAt =>
    [.fixed "INSERT INTO users (username, password_hash, role, created_at) VALUES ('",
      .escaped username, .fixed "', '", .escaped passwordHash, .fixed "', '", .escaped role,
      .fixed "', '", .escaped createdAt, .fixed "')"]
  -- getUserByUsername, 771–772
  | .selectUser username =>
    [.fixed "SELECT id, username, password_hash, role, created_at FROM users WHERE username = '",
      .escaped username, .fixed "'"]

/-- The text that is sent to the server. -/
def text (st : SqlStatement) : List Char := st.operands.flatMap Operand.chars

/-- The callers' strings that the statement escapes, in order. -/
def callers (st : SqlStatement) : List String :=
  st.operands.filterMap fun operand ↦
    match operand with
    | .escaped value => some value
    | _ => none

end SqlStatement

/-- The operand with nothing in the place of a caller's string. -/
def Operand.blank : Operand → Operand
  | .escaped _ => .escaped ""
  | operand => operand

/-- Two statements that differ at most in their callers' strings. -/
def SqlStatement.SameFixedText (st st' : SqlStatement) : Prop :=
  st.operands.map Operand.blank = st'.operands.map Operand.blank

/-! ### Outlines of the statements -/

/-- An operand as the reader's rules see it. -/
def Operand.items : Operand → List TextItem
  | .fixed text => text.toList.map .char
  | .escaped value => [.caller value.toList]
  | .clock ts => [.plain ts.text.toList]
  | .number n => [.plain (toString n).toList]

-- a string literal is `String.ofList` of its characters, and rewriting with this is far cheaper
-- than evaluating `toList`
private theorem items_fixed (cs : List Char) :
    Operand.items (.fixed (String.ofList cs)) = cs.map .char := by
  rw [Operand.items, String.toList_ofList]

private theorem items_escaped (value : String) :
    Operand.items (.escaped value) = [.caller value.toList] := rfl

private theorem items_clock (ts : ClockReading) :
    Operand.items (.clock ts) = [.plain ts.text.toList] := rfl

private theorem items_number (n : Int) :
    Operand.items (.number n) = [.plain (toString n).toList] := rfl

/-- The items of a statement. -/
def SqlStatement.items (st : SqlStatement) : List TextItem := st.operands.flatMap Operand.items

/-- In every statement each caller's string stands alone between two quotes. -/
theorem SqlStatement.outline_isSome (st : SqlStatement) : (outline st.items).isSome := by
  cases st
  -- statements with optional parts have one text for each way to choose these
  case' insertApplication _ _ description _ => cases description
  case' insertNamespace parentNamespaceId approvalEnabled _ =>
    rcases parentNamespaceId with _ | parent <;> rcases approvalEnabled with _ | _ | _
  case' updateConfig draft _ => cases draft
  case' deleteConfig draft => cases draft
  case' selectConfigs includeDraft => cases includeDraft
  case' selectChangeLogs key namespaceId timeFrom timeTo _ _ =>
    cases key <;> cases namespaceId <;> cases timeFrom <;> cases timeTo
  case' insertRelease whitelist _ _ grayscalePercentage _ =>
    cases whitelist <;> cases grayscalePercentage
  case' insertApproval approverId _ _ _ => by_cases h : approverId = ""
  all_goals
    simp only [items, operands, nullable, condition, *, if_true, if_false,
      Bool.false_eq_true, List.append_nil, List.cons_append, List.nil_append,
      List.flatMap_cons, List.flatMap_nil, items_escaped, items_clock, items_number]
    repeat rw [items_fixed]
    rfl

/-- The text of a number has digits and a sign. -/
theorem mem_toString_int {n : Int} {c : Char} (h : c ∈ (toString n).toList) :
    c.isDigit ∨ c = '-' := by
  have hnat (m : Nat) (hm : c ∈ m.repr.toList) : c.isDigit := by
    rw [Nat.toList_repr] at hm
    exact Nat.isDigit_of_mem_toDigits (by decide) (by decide) hm
  rw [Int.toString_eq_repr, Int.repr_eq_if] at h
  split at h
  · exact .inl (hnat _ h)
  · rw [String.toList_append, List.mem_append] at h
    rcases h with h | h
    · exact .inr (by simpa using h)
    · exact .inl (hnat _ h)

/-- A clock reading has no quote and no backslash. -/
theorem ClockReading.plain (ts : ClockReading) :
    ∀ c ∈ ts.text.toList, c ≠ quote ∧ c ≠ backslash := by
  intro c hc
  rcases ts.digits c hc with h | h
  · exact isDigit_plain h
  · simp only [List.mem_cons, List.not_mem_nil, or_false] at h
    rcases h with rfl | rfl | rfl | rfl
    all_goals decide

private theorem Operand.plain_items (operand : Operand) : ∀ item ∈ operand.items, item.Plain := by
  cases operand with
  | fixed text => simp [Operand.items, TextItem.Plain]
  | escaped value => simp [Operand.items, TextItem.Plain]
  | clock ts =>
    intro item hitem
    obtain rfl := List.mem_singleton.mp hitem
    exact ts.plain
  | number n =>
    intro item hitem
    obtain rfl := List.mem_singleton.mp hitem
    intro c hc
    rcases mem_toString_int hc with h | rfl
    · exact isDigit_plain h
    · decide

private theorem Operand.flatMap_chars_items (operand : Operand) :
    operand.items.flatMap TextItem.chars = operand.chars := by
  cases operand with
  | fixed text => simp [Operand.items, Operand.chars, List.flatMap_map, TextItem.chars]
  | escaped value => simp [Operand.items, Operand.chars, TextItem.chars, escape]
  | clock ts => simp [Operand.items, Operand.chars, TextItem.chars]
  | number n => simp [Operand.items, Operand.chars, TextItem.chars]

private theorem Operand.map_blank_items (operand : Operand) :
    operand.items.map TextItem.blank = operand.blank.items := by
  cases operand <;> simp [Operand.items, Operand.blank, TextItem.blank]

private theorem Operand.filterMap_caller_items (operands : List Operand) :
    (operands.flatMap Operand.items).filterMap TextItem.caller? =
      (operands.filterMap fun operand ↦
        match operand with
        | .escaped value => some value
        | _ => none).map String.toList := by
  induction operands with
  | nil => rfl
  | cons operand rest ih =>
    rw [List.flatMap_cons, List.filterMap_append, ih]
    cases operand <;> simp [Operand.items, TextItem.caller?, List.filterMap_map]

/-! ### What the server reads -/

namespace SqlStatement

private theorem plain_of_mem_items (st : SqlStatement) : ∀ item ∈ st.items, item.Plain := by
  intro item hitem
  obtain ⟨operand, -, hmem⟩ := List.mem_flatMap.mp hitem
  exact operand.plain_items item hmem

private theorem flatMap_chars_items (st : SqlStatement) :
    st.items.flatMap TextItem.chars = st.text := by
  simp only [items, text, List.flatMap_assoc, Operand.flatMap_chars_items]

private theorem map_blank_items (st : SqlStatement) :
    st.items.map TextItem.blank = (st.operands.map Operand.blank).flatMap Operand.items := by
  simp only [items, List.map_flatMap, Operand.map_blank_items, List.flatMap_map]

/-- Whatever strings its callers choose, a statement is read with the same fragments and the
same fixed literals, and the other literals are exactly the callers' strings, in order. -/
theorem reads_callers (st : SqlStatement) :
    ∃ fragments slots, ∀ st' : SqlStatement, st'.SameFixedText st →
      ∃ r, readFragment st'.text = some r ∧ Reading.fragments r = fragments ∧
        fillSlots slots (st'.callers.map String.toList) = some (Reading.literals r) := by
  obtain ⟨fragments, slots, h⟩ := reads_of_outline st.outline_isSome
  refine ⟨fragments, slots, fun st' hsame ↦ ?_⟩
  have hblank : st'.items.map TextItem.blank = st.items.map TextItem.blank := by
    rw [map_blank_items, map_blank_items, hsame]
  obtain ⟨r, hread, hfragments, hliterals⟩ := h st'.items hblank st'.plain_of_mem_items
  rw [flatMap_chars_items] at hread
  rw [items, Operand.filterMap_caller_items] at hliterals
  exact ⟨r, hread, hfragments, hliterals⟩

/-- The clock reading of the examples. -/
def noon : ClockReading where
  text := "2024-05-01T12:00:00Z"
  digits := by
    intro c hc
    have hall : "2024-05-01T12:00:00Z".toList.all
        (fun c ↦ c.isDigit || ['-', 'T', ':', 'Z'].contains c) := by decide
    simpa using List.all_eq_true.mp hall c hc

/-- The statement that stores a configuration is read with one list of fragments for all
namespaces, keys and values. -/
theorem reads_insertConfig :
    ∃ fragments slots, ∀ namespaceId key value : String,
      ∃ r, readFragment (insertConfig namespaceId key value noon).text = some r ∧
        Reading.fragments r = fragments ∧
        fillSlots slots ([namespaceId, key, value].map String.toList) =
          some (Reading.literals r) := by
  obtain ⟨fragments, slots, h⟩ := reads_callers (insertConfig "shop" "db.url" "local" noon)
  exact ⟨fragments, slots, fun namespaceId key value ↦
    h (insertConfig namespaceId key value noon) rfl⟩

private theorem length_fragments {st : SqlStatement} {n : Nat}
    (h : (outline st.items).map (fun o ↦ o.1.length) = some n) :
    ∃ r, readFragment st.text = some r ∧ (Reading.fragments r).length = n + 1 := by
  obtain ⟨⟨parts, last⟩, hout, rfl⟩ := Option.map_eq_some_iff.mp h
  refine ⟨Outline.attach parts (last, []), ?_, ?_⟩
  · rw [← flatMap_chars_items]
    exact readFragment_of_outline hout st.plain_of_mem_items
  · simp [fragments_attach]

private theorem length_fragments_insertApproval (approverId : String) :
    ∃ r, readFragment (insertApproval "shop" "alice" approverId "pending" "" noon).text = some r ∧
      (Reading.fragments r).length = if approverId = "" then 6 else 7 := by
  by_cases h : approverId = ""
  · rw [if_pos h]
    apply length_fragments
    simp only [items, operands, nullable, if_pos h, List.cons_append, List.nil_append,
      List.flatMap_cons, List.flatMap_nil, items_escaped, items_clock]
    repeat rw [items_fixed]
    rfl
  · rw [if_neg h]
    apply length_fragments
    simp only [items, operands, nullable, if_neg h, List.cons_append, List.nil_append,
      List.flatMap_cons, List.flatMap_nil, items_escaped, items_clock]
    repeat rw [items_fixed]
    rfl

/-- A request without an approver is stored with `NULL` and no literal for him. -/
theorem not_reads_alike_approver :
    ¬ ∃ fragments, ∀ approverId : String,
      ∃ r, readFragment (insertApproval "shop" "alice" approverId "pending" "" noon).text = some r ∧
        Reading.fragments r = fragments := by
  rintro ⟨fragments, h⟩
  obtain ⟨r, hr, rfl⟩ := h ""
  obtain ⟨r', hr', hfragments⟩ := h "bob"
  obtain ⟨s, hs, hlength⟩ := length_fragments_insertApproval ""
  obtain ⟨s', hs', hlength'⟩ := length_fragments_insertApproval "bob"
  obtain rfl : r = s := Option.some.inj (hr.symm.trans hs)
  obtain rfl : r' = s' := Option.some.inj (hr'.symm.trans hs')
  rw [hfragments, hlength] at hlength'
  exact absurd hlength' (by decide)

end SqlStatement

end ConfigCenter.Storage
