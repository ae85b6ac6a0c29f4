import Docstore.Store.Catalog

/-!
# New fields

Adding a field gives it a column, or a table if it is a relation, and an entry in the catalog. A
class without a table is created with the field; one without a row in the catalog gets one.
-/

namespace Docstore

open Docstore.Engine (Operation)

namespace Catalog

/-- The stored schema of a class of which nothing but one field is known. -/
def schemaOfField (className field : String) (type : FieldType) : Schema :=
  Schema.toStorage ⟨className, Schema.declare field type [], none, []⟩

/-- The savepoint behind which a column is added. -/
def columnSavepoint : String := "add_field"

/-- What adding a column may fail with: the table is missing, or the column is there. -/
def isColumnAnswer (e : Error) : Bool := e.hasState .undefinedTable || e.hasState .duplicateColumn

/-- Adds a column, with its table if that is missing. -/
def addColumn (className field : String) (type : FieldType) (column : ColumnType) :
    Operation Unit := do
  let failure ← Operation.attempt columnSavepoint
    (.define (.newColumn className field column)) isColumnAnswer
  if failure.any (·.hasState .undefinedTable) then
    let stored := schemaOfField className field type
    ensure
    createTables stored
    addRow stored true

/-- Gives a field the place where its values are kept. -/
def addStorage (className field : String) (type : FieldType) : Operation Unit :=
  match type.column? with
  | some column => addColumn className field type column
  | none => define (.joinTable className field)

/-- Checks a declaration against the one that the catalog holds. -/
def checkEntry (className field : String) (declared : Field) (entry : Json) : Result Unit :=
  match Field.ofJson? entry with
  | none => fail .unreadable
  | some f => if f.type = declared.type then .ok () else fail (.schemaConflict className field)

/-- Declares a field in the catalog, or checks that it is declared with the same type. -/
def addEntry (className field : String) (declared : Field) : Operation Unit := do
  let answer ← query (.fieldEntry className field)
  match answer.rows with
  | [] => addRow (schemaOfField className field declared.type) true
  | r :: _ =>
    match ← (r.json? 0 : Result (Option Json)) with
    | some entry => checkEntry className field declared entry
    | none => setEntry className (fieldPath field) declared.toJson

end Catalog

namespace Store

/-- Adds a field to a class, if it is not there. With another type it is a conflict. -/
def addField (s : Store) (className field : String) (declared : Field) : Operation Unit := do
  s.connect .pooled
  Operation.transaction do
    Catalog.addStorage className field declared.type
    Catalog.addEntry className field declared
  s.announce className

/-- The fields of a schema that need a column other than those that are there. -/
def missingFields (schema : Schema) (columns : List String) : Fields Field :=
  schema.toStorage.fields.filter fun (name, f) => !f.type.isRelation && !columns.contains name

/-- Adds the fields of a schema that have no column yet. -/
def upgrade (s : Store) (schema : Schema) : Operation Unit := do
  s.connect .pooled
  let answer ← Catalog.query (.columnsOf schema.className)
  let columns ← Catalog.textColumn answer.rows
  (missingFields schema columns).forM fun (name, f) => s.addField schema.className name f

end Store

end Docstore
