import ConfigCenter.Base.Table

/-!
# Records of the configuration store

Library `Storage`. Record types of `include/config-center/storage/data_types.h`,
field by field. `int32_t` and `int` columns are `Int32`, with its wrapping
arithmetic; autoincrement ids are unbounded integers. A column that only the
store itself writes, from a closed list of literals, is an enumeration; columns
that callers fill with text of their own stay text.
-/

namespace ConfigCenter.Storage

/-- Text of `getTimestamp`, `%Y-%m-%dT%H:%M:%SZ`; compared as text. -/
abbrev Timestamp := String

/-- `Application`, `data_types.h:11–16`. -/
structure Application where
  appId : String
  name : String
  description : Option String
  createdAt : Timestamp
  deriving DecidableEq, Repr

/-- `Namespace`, `data_types.h:18–28`. -/
structure Namespace where
  id : String
  appId : String
  env : String
  cluster : String
  name : String
  type : String
  parentNamespaceId : Option String
  approvalEnabled : Option Bool
  createdAt : Timestamp
  deriving DecidableEq, Repr

/-- Values of `ConfigKey::status`, `data_types.h:35`. -/
inductive ConfigStatus where
  | live
  | draft
  deriving DecidableEq, Repr

/-- `ConfigKey`, `data_types.h:30–38`: the one row a configuration key has. -/
structure ConfigKey where
  namespaceId : String
  key : String
  value : String
  version : Int32
  status : ConfigStatus
  createdAt : Timestamp
  updatedAt : Timestamp
  deriving DecidableEq, Repr

/-- Primary key of `configs`, `sqlite_config_store.h:42`. -/
def ConfigKey.primaryKey (c : ConfigKey) : String × String := (c.namespaceId, c.key)

/-- Values of `ConfigVersion::change_type` and `ChangeLog::operation`,
`data_types.h:44,57`. -/
inductive ChangeType where
  | create
  | update
  | rollback
  | delete
  deriving DecidableEq, Repr

/-- `ConfigVersion`, `data_types.h:40–47`. -/
structure ConfigVersion where
  version : Int32
  configId : String
  value : String
  changeType : ChangeType
  operatorId : String
  createdAt : Timestamp
  deriving DecidableEq, Repr

/-- `ChangeLog`, `data_types.h:49–60`, with its member initializers. -/
structure ChangeLog where
  id : Int := 0
  configId : String
  namespaceId : String
  key : String
  version : Int32 := 0
  oldValue : String := ""
  newValue : String := ""
  operation : ChangeType
  operatorId : String
  createdAt : Timestamp
  deriving DecidableEq, Repr

/-- A log row takes the id it is given. -/
theorem ChangeLog.id_with (l : ChangeLog) (n : Int) : { l with id := n }.id = n := rfl

/-- `Release`, `data_types.h:62–73`, with its member initializers. -/
structure Release where
  id : Int := 0
  namespaceId : String
  releaseVersion : Int32 := 0
  releaseNote : String := ""
  releaseType : String
  status : String
  grayscalePercentage : Option Int32 := none
  whitelist : Option String := none
  operatorId : String
  createdAt : Timestamp := ""
  deriving DecidableEq, Repr

/-- A release takes the id it is given. -/
theorem Release.id_with (r : Release) (n : Int) : { r with id := n }.id = n := rfl

/-- A release keeps its id under a new status. -/
theorem Release.id_withStatus (status : String) (r : Release) : { r with status }.id = r.id := rfl

/-- `Approval`, `data_types.h:75–84`. -/
structure Approval where
  id : Int := 0
  namespaceId : String
  submitterId : String
  approverId : String := ""
  status : String
  comment : String := ""
  createdAt : Timestamp
  updatedAt : Timestamp := ""
  deriving DecidableEq, Repr

/-- An approval takes the id it is given. -/
theorem Approval.id_with (a : Approval) (n : Int) : { a with id := n }.id = n := rfl

/-- An approval keeps its id under a decision. -/
theorem Approval.id_decided (status comment : String) (updatedAt : Timestamp) (a : Approval) :
    { a with status, comment, updatedAt }.id = a.id := rfl

/-- `User`, `data_types.h:86–92`. -/
structure User where
  id : Int := 0
  username : String
  passwordHash : String
  role : String
  createdAt : Timestamp
  deriving DecidableEq, Repr

/-- A user takes the id it is given. -/
theorem User.id_with (u : User) (n : Int) : { u with id := n }.id = n := rfl

/-- `ChangeLogQuery`, `data_types.h:94–101`. -/
structure ChangeLogQuery where
  key : Option String := none
  namespaceId : Option String := none
  timeFrom : Option Timestamp := none
  timeTo : Option Timestamp := none
  page : Int32 := 1
  pageSize : Int32 := 20
  deriving DecidableEq, Repr

/-- `ReleaseQuery`, `data_types.h:103–107`. -/
structure ReleaseQuery where
  namespaceId : String
  page : Int32 := 1
  pageSize : Int32 := 20
  deriving DecidableEq, Repr

/-- `SqliteConfigStore::makeConfigId`, `sqlite_config_store.cpp:19–21`. -/
def makeConfigId (namespaceId key : String) : String := namespaceId ++ ":" ++ key

/-- One increment of an `int32_t` below its maximum does not wrap. -/
theorem toInt_add_one {v : Int32} (h : v.toInt < 2147483647) :
    (v + 1).toInt = v.toInt + 1 := by
  have h1 : (1 : Int32).toInt = 1 := by decide
  have hl := v.le_toInt
  rw [Int32.toInt_add, h1, Int.bmod_eq_of_le] <;> omega

end ConfigCenter.Storage
