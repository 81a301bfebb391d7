import ConfigCenter.Storage.Database

/-!
# JSON values of the HTTP interface

Library `Server`. The values that handlers read and answer with. The reader of
request texts is `nlohmann::json::parse`, third-party code: handlers take it as
a parameter that returns a value or nothing where the library throws. Member
access follows the library on the values it is used on.
-/

namespace ConfigCenter.Server
open ConfigCenter.Storage

/-- A JSON value; an object lists its members. -/
inductive Json where
  | null
  | bool (b : Bool)
  | integer (n : Int)
  | float (text : String)
  | string (s : String)
  | array (elements : List Json)
  | object (members : List (String × Json))

/-- `json::parse` as the handlers see it: a value, or nothing where it throws. -/
abbrev Parse := String → Option Json

/-- `auto body = json::parse(request_.body())`. -/
def parseBody (parse : Parse) (body : String) : StorageM Json :=
  match parse body with
  | some j => return j
  | none => StorageM.throw .json

/-- The text under `j[field]`, where the conversion to a string succeeds. A missing
member is `null`, a value that is not an object has no members. -/
def Json.text? (j : Json) (field : String) : Option String :=
  match j with
  | .object members =>
    match members.lookup field with
    | some (.string s) => some s
    | _ => none
  | _ => none

/-- `body.contains(field)`: false for a value that is not an object. -/
def Json.contains (j : Json) (field : String) : Bool :=
  match j with
  | .object members => (members.lookup field).isSome
  | _ => false

/-- `std::string value = body[field]`. -/
def stringField (j : Json) (field : String) : StorageM String :=
  match j.text? field with
  | some s => return s
  | none => StorageM.throw .json

/-- `body.value(field, fallback)` for a string fallback: a missing member gives the
fallback, another type or a value that is not an object throws. -/
def stringFieldOr (j : Json) (field fallback : String) : StorageM String :=
  match j with
  | .object members =>
    match members.lookup field with
    | none => return fallback
    | some (.string s) => return s
    | some _ => StorageM.throw .json
  | _ => StorageM.throw .json

/-- `body.contains(field) ? std::optional<std::string>(body[field]) : std::nullopt`. -/
def optionalStringField (j : Json) (field : String) : StorageM (Option String) :=
  if j.contains field then some <$> stringField j field else return none

/-! ### When members can be read -/

/-- The value is an object. -/
def Json.isObject : Json → Bool
  | .object _ => true
  | _ => false

/-- The member is there and a string. -/
def Json.hasString (j : Json) (field : String) : Bool := (j.text? field).isSome

/-- The member is a string or absent. -/
def Json.stringOrAbsent (j : Json) (field : String) : Bool := !j.contains field || j.hasString field

/-- A computation that only reads a body: it returns where `p` holds and throws elsewhere. -/
def Reads {α : Type} (p : Bool) (x : StorageM α) : Prop :=
  if p then ∃ a, x = pure a else x = StorageM.throw .json

/-- A member is read as a string exactly where it is one. -/
theorem reads_stringField (j : Json) (field : String) :
    Reads (j.hasString field) (stringField j field) := by
  unfold stringField Json.hasString
  cases j.text? field with
  | none => rfl
  | some s => exact ⟨s, rfl⟩

/-- With a fallback a member may also be absent, from an object. -/
theorem reads_stringFieldOr (j : Json) (field fallback : String) :
    Reads (j.isObject && j.stringOrAbsent field) (stringFieldOr j field fallback) := by
  cases j with
  | object members =>
    simp only [stringFieldOr, Json.isObject, Json.stringOrAbsent, Json.contains, Json.hasString,
      Json.text?]
    cases members.lookup field with
    | none => exact ⟨fallback, rfl⟩
    | some v =>
      cases v with
      | string s => exact ⟨s, rfl⟩
      | null | bool _ | integer _ | float _ | array _ | object _ => rfl
  | null | bool _ | integer _ | float _ | string _ | array _ => rfl

/-- An optional member is a string or absent. -/
theorem reads_optionalStringField (j : Json) (field : String) :
    Reads (j.stringOrAbsent field) (optionalStringField j field) := by
  have hread := reads_stringField j field
  unfold optionalStringField Json.stringOrAbsent
  cases j.contains field with
  | false => exact ⟨none, rfl⟩
  | true =>
    simp only [Bool.not_true, Bool.false_or, if_true]
    cases hs : j.hasString field with
    | false =>
      rw [hs] at hread
      rw [show stringField j field = _ from hread]
      rfl
    | true =>
      rw [hs] at hread
      obtain ⟨s, hs⟩ := hread
      exact ⟨some s, by rw [hs]; rfl⟩

/-- A value with a member is an object. -/
theorem Json.isObject_of_hasString {j : Json} {field : String} (h : j.hasString field) :
    j.isObject := by
  cases j with
  | object _ => rfl
  | null | bool _ | integer _ | float _ | string _ | array _ => cases h

namespace ApiResponse

/-- `ApiResponse::error`, `api_types.cpp:5–7`. -/
def error (code : Int) (message : String) : Json :=
  .object [("error", .string message), ("code", .integer code)]

/-- `ApiResponse::success()`, `api_types.cpp:13–15`. -/
def success : Json := .object [("status", .string "ok")]

end ApiResponse
end ConfigCenter.Server
