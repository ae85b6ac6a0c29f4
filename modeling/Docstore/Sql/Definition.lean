import Docstore.Schema.Basic
import Docstore.Sql.Template

/-!
# Definition statements

Statements that create, change and drop tables and indexes. Each can be run again without harm.
-/

namespace Docstore.Sql

/-- The type of a column in a definition. -/
inductive DefinedType
  | column (type : ColumnType)
  | varchar (size : Nat)
  | boolean
  | jsonb
deriving DecidableEq, Repr

def DefinedType.sql : DefinedType → String
  | column type => type.sql
  | varchar size => "varchar(" ++ toString size ++ ")"
  | boolean => "boolean"
  | jsonb => "jsonb"

structure ColumnDefinition where
  name : String
  type : DefinedType
deriving DecidableEq, Repr

structure IndexColumn where
  name : String
  descending : Bool
  /-- Whether the index is on the column's lower case. -/
  ignoreCase : Bool
deriving DecidableEq, Repr

/-- An ascending column. -/
def IndexColumn.ofName (name : String) : IndexColumn := ⟨name, false, false⟩

inductive Definition
  | createTable (name : String) (columns : List ColumnDefinition) (primaryKey : List String)
  | addColumn (table : String) (column : ColumnDefinition)
  | dropColumns (table : String) (columns : List String)
  | dropTable (name : String)
  | truncate (name : String)
  | createIndex (name table : String) (columns : List IndexColumn) (unique : Bool)
  | dropIndex (name : String)
deriving DecidableEq, Repr

namespace ColumnDefinition

def fragment (c : ColumnDefinition) : Fragment := [.name c.name, .text (" " ++ c.type.sql)]

end ColumnDefinition

def IndexColumn.fragment (c : IndexColumn) : Fragment :=
  (if c.ignoreCase then [.text "lower(", .name c.name, .text ") varchar_pattern_ops"]
    else [.name c.name]) ++ if c.descending then [.text " DESC"] else []

namespace Definition

/-- Names between commas. -/
def names (ns : List String) : Fragment := joinFragments ", " (ns.map fun n => [.name n])

def body : Definition → Fragment
  | createTable name columns primaryKey =>
    .text "CREATE TABLE IF NOT EXISTS " :: .name name :: .text " (" ::
      joinFragments ", " (columns.map ColumnDefinition.fragment) ++
      (if primaryKey.isEmpty then []
        else .text ", PRIMARY KEY (" :: names primaryKey ++ [.text ")"]) ++ [.text ")"]
  | addColumn table column =>
    .text "ALTER TABLE " :: .name table :: .text " ADD COLUMN IF NOT EXISTS " :: column.fragment
  | dropColumns table columns =>
    .text "ALTER TABLE " :: .name table :: .text " " ::
      joinFragments ", " (columns.map fun c => [.text "DROP COLUMN IF EXISTS ", .name c])
  | dropTable name => [.text "DROP TABLE IF EXISTS ", .name name]
  | truncate name => [.text "TRUNCATE TABLE ", .name name]
  | createIndex name table columns unique =>
    .text (if unique then "CREATE UNIQUE INDEX IF NOT EXISTS " else "CREATE INDEX IF NOT EXISTS ") ::
      .name name :: .text " ON " :: .name table :: .text " (" ::
      joinFragments ", " (columns.map IndexColumn.fragment) ++ [.text ")"]
  | dropIndex name => [.text "DROP INDEX IF EXISTS ", .name name]

/-- The whole statement. -/
def fragment (d : Definition) : Fragment := d.body ++ [.text ";"]

def text (d : Definition) : String := render d.fragment

/-! ## Tables of classes -/

/-- The column of a field. The lists of who may read and write are always lists of strings. -/
def classColumn? (name : String) (type : FieldType) : Option ColumnDefinition :=
  type.column?.map fun column =>
    ⟨name, .column (if name = "_rperm" || name = "_wperm" then .textArray else column)⟩

/-- The fields of a class that can have columns: the declared ones, then those hidden of users. -/
def classFields (s : Schema) : Fields FieldType :=
  s.fields.map (fun (name, f) => (name, f.type)) ++
    if s.isUserClass then
      Schema.userHiddenFields.filter fun (name, _) => !Fields.contains name s.fields
    else []

/-- The columns of a class's table. -/
def classColumns (s : Schema) : List ColumnDefinition :=
  (classFields s).filterMap fun (name, type) => classColumn? name type

/-- The table of a class, from the storage form of its schema. -/
def classTable (s : Schema) : Definition :=
  let columns := classColumns s
  .createTable s.className columns ((columns.map (·.name)).filter (· = "objectId"))

/-- The table of a relation. -/
def joinTable (className field : String) : Definition :=
  .createTable (Schema.joinTable className field)
    [⟨"relatedId", .varchar 120⟩, ⟨"owningId", .varchar 120⟩] ["relatedId", "owningId"]

/-- The table of all schemas. -/
def catalogTable : Definition :=
  .createTable Schema.catalogTable
    [⟨"className", .varchar 120⟩, ⟨"schema", .jsonb⟩, ⟨"isParseClass", .boolean⟩] ["className"]

/-- A further column of a class's table. -/
def newColumn (className field : String) (type : ColumnType) : Definition :=
  .addColumn className ⟨field, .column type⟩

end Definition

end Docstore.Sql
