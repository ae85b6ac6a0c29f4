import Docstore.Json.Printer
import Docstore.Schema.Codec
import Docstore.Sql.Template

/-!
# Catalog statements

The statements that read and change the table of schemas, and those that ask the server which
tables, columns and indexes there are.
-/

namespace Docstore.Sql

inductive CatalogStatement
  /-- Adds the row of a class. -/
  | addRow (className : String) (schema : Json) (ignoreConflict : Bool)
  /-- What the row of a class says about a field; locks the row. -/
  | fieldEntry (className field : String)
  /-- Sets a value inside the schema of a class. -/
  | setEntry (className : String) (path : List String) (value : Json)
  | removeFields (className : String) (fields : List String)
  | row (className : String)
  | rows
  | removeRow (className : String)
  | columnsOf (table : String)
  | tablesAmong (names : List String)
  | tableExists (name : String)
  | indexesOf (table : String)
deriving Repr

namespace CatalogStatement

/-- The catalog's table. -/
def table : Fragment := [.name Schema.catalogTable]

/-- The condition that a row is that of the class bound first. -/
def ofClass : Fragment := [.text " WHERE ", .name "className", .text " = ", .placeholder 1]

/-- The schema with something set inside it. -/
def setSchema (argument : Fragment) : Fragment :=
  .text "UPDATE " :: table ++ .text " SET " :: .name "schema" :: .text " = jsonb_set(" ::
    .name "schema" :: .text ", " :: argument ++ .text ")" :: ofClass

def fragment : CatalogStatement → Fragment
  | addRow _ _ ignoreConflict =>
    .text "INSERT INTO " :: table ++ [.text " (", .name "className", .text ", ", .name "schema",
      .text ", ", .name "isParseClass", .text ") VALUES (", .placeholder 1, .text ", ",
      .placeholder 2, .text ", true)"] ++
      if ignoreConflict then [.text " ON CONFLICT DO NOTHING"] else []
  | fieldEntry _ _ =>
    [.text "SELECT ", .name "schema", .text "->", .literal "fields", .text "->", .placeholder 2,
      .text "::text FROM "] ++ table ++ ofClass ++ [.text " FOR UPDATE"]
  | setEntry _ _ _ =>
    setSchema [.placeholder 2, .text "::text[], ", .placeholder 3, .text "::jsonb"]
  | removeFields _ _ =>
    setSchema [.literal "\x7bfields\x7d", .text ", (", .name "schema", .text "->",
      .literal "fields", .text ") - ", .placeholder 2, .text "::text[]"]
  | row _ => [.text "SELECT ", .name "schema", .text " FROM "] ++ table ++ ofClass
  | rows => [.text "SELECT ", .name "schema", .text " FROM "] ++ table
  | removeRow _ => .text "DELETE FROM " :: table ++ ofClass
  | columnsOf _ =>
    [.text "SELECT column_name::text FROM information_schema.columns WHERE table_name::text = ",
      .placeholder 1]
  | tablesAmong _ =>
    [.text "SELECT table_name::text FROM information_schema.tables WHERE table_name::text = ANY(",
      .placeholder 1, .text ")"]
  | tableExists _ =>
    [.text "SELECT EXISTS (SELECT 1 FROM information_schema.tables WHERE table_name::text = ",
      .placeholder 1, .text ")"]
  | indexesOf _ =>
    [.text "SELECT indexname::text, indexdef FROM pg_indexes WHERE tablename::text = ",
      .placeholder 1]

def values : CatalogStatement → List Value
  | addRow className schema _ => [.string className, .json schema]
  | fieldEntry className field => [.string className, .string field]
  | setEntry className path value => [.string className, .strings path, .json value]
  | removeFields className fields => [.string className, .strings fields]
  | row className => [.string className]
  | rows => []
  | removeRow className => [.string className]
  | columnsOf table => [.string table]
  | tablesAmong names => [.strings names]
  | tableExists name => [.string name]
  | indexesOf table => [.string table]

def statement (s : CatalogStatement) : Statement := ⟨s.fragment, s.values⟩

end CatalogStatement

end Docstore.Sql
