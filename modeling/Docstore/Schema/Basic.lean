import Docstore.Schema.FieldType
import Docstore.Text.Split

/-!
# Schemas

A class's schema: its fields in the order of their declaration, its permissions and its indexes. The
storage form of a schema adds the fields that callers never see, its public form removes them.
-/

namespace Docstore

/-- A field's declaration: its type and the options kept for it. -/
structure Field where
  type : FieldType
  required : Option Bool
  defaultValue : Option Json
deriving Repr, Inhabited

/-- A field without options. -/
def Field.ofType (type : FieldType) : Field := ⟨type, none, none⟩

structure Schema where
  className : String
  fields : Fields Field
  permissions : Option Json
  /-- For each index its fields and their directions. -/
  indexes : Fields Document
deriving Repr, Inhabited

namespace Schema

/-- The class of the users, with columns for their passwords and tokens. -/
def userClass : String := "_User"

/-- The table that holds every class's schema. -/
def catalogTable : String := "_SCHEMA"

/-- What the names of the tables of relations start with. -/
def joinMark : String := "_Join:"

/-- The table of the pairs that a relation relates. -/
def joinTable (className field : String) : String := joinMark ++ field ++ ":" ++ className

def isJoinTable (className : String) : Bool := joinMark.toList.isPrefixOf className.toList

/-- Columns of the users' table that no schema declares. -/
def userHiddenFields : Fields FieldType :=
  [("_email_verify_token_expires_at", .date), ("_email_verify_token", .string),
    ("_account_lockout_expires_at", .date), ("_failed_login_count", .number),
    ("_perishable_token", .string), ("_perishable_token_expires_at", .date),
    ("_password_changed_at", .date), ("_password_history", .object)]

def isUserClass (s : Schema) : Bool := s.className == userClass

def fieldType? (s : Schema) (name : String) : Option FieldType := (s.fields.get? name).map (·.type)

/-- The fields that have tables of their own. -/
def relations (s : Schema) : List String :=
  (s.fields.filter fun (_, f) => f.type.isRelation).map Prod.fst

def joinTables (s : Schema) : List String := s.relations.map (joinTable s.className)

/-- Declares a field of a type. -/
def declare (name : String) (type : FieldType) (fields : Fields Field) : Fields Field :=
  fields.insert name (Field.ofType type)

/-- The schema as it is stored, with the lists of who may read and write an object. -/
def toStorage (s : Schema) : Schema :=
  let fields := declare "_rperm" (.arrayOf .string) (declare "_wperm" (.arrayOf .string) s.fields)
  let fields :=
    if s.isUserClass then
      declare "_password_history" .array (declare "_hashed_password" .string fields)
    else fields
  { s with fields }

/-- The operations that permissions are about. -/
def permissionNames : List String :=
  ["find", "get", "count", "create", "update", "delete", "addField"]

/-- Permissions that allow everything to everyone. -/
def openPermissions : Document :=
  permissionNames.map (fun name => (name, .object [("*", .bool true)])) ++
    [("protectedFields", .object [("*", .array [])])]

/-- Permissions that allow nothing. -/
def closedPermissions : Document :=
  (permissionNames ++ ["protectedFields"]).map fun name => (name, .object [])

/-- The permissions that callers see. -/
def publicPermissions : Option Json → Document
  | some (.object given) => closedPermissions.insertAll given
  | _ => openPermissions

/-- The schema as callers see it. -/
def toPublic (s : Schema) : Schema :=
  let fields := (s.fields.erase "_wperm").erase "_rperm"
  let fields := if s.isUserClass then fields.erase "_hashed_password" else fields
  { s with fields, permissions := some (.object (publicPermissions s.permissions)) }

end Schema

end Docstore
