import Docstore.Store.Basic

/-!
# The catalog

The table of schemas, one row for each class. Reading it while it does not exist yet finds nothing.
-/

namespace Docstore

open Docstore.Engine (Operation Prepared)
open Docstore.Sql (CatalogStatement)
open Docstore.Wire (Row)

namespace Catalog

/-- Carries out a statement about the catalog. -/
def query (s : CatalogStatement) : Operation Engine.Answer :=
  Operation.query .pooled (.catalog s)

def define (d : Sql.Definition) : Operation Unit := Operation.send .pooled (.define d)

/-- Creates the catalog, unless it exists. -/
def ensure : Operation Unit := define .catalogTable

/-- Creates the tables of a class and of its relations, unless they exist. -/
def createTables (stored : Schema) : Operation Unit := do
  define (.classTable stored)
  stored.relations.forM fun field => define (.joinTable stored.className field)

def addRow (stored : Schema) (ignoreConflict : Bool) : Operation Unit := do
  let _ ← query (.addRow stored.className stored.toJson ignoreConflict)

/-- Sets a value inside the schema of a class. -/
def setEntry (className : String) (path : List String) (value : Json) : Operation Unit := do
  let _ ← query (.setEntry className path value)

/-- The place of a field's declaration. -/
def fieldPath (field : String) : List String := ["fields", field]

/-! ## Reading -/

/-- The schema that a row holds. -/
def schemaOf (r : Row) : Result Schema := do
  match Schema.ofJson? (← r.json 0) with
  | some s => return s
  | none => fail .unreadable

/-- The schema of a class, if it has a row. -/
def schema? (className : String) : Operation (Option Schema) := do
  let answer ← query (.row className)
  match answer.rows with
  | [] => return none
  | r :: _ => return some (← schemaOf r)

def schemas : Operation (List Schema) := do
  let answer ← query .rows
  (answer.rows.mapM schemaOf : Result (List Schema))

/-- The first column of the rows, as texts. -/
def textColumn (rows : List Row) : Result (List String) := rows.mapM fun r => r.text 0

end Catalog

namespace Store

/-- The public schema of a class, if it is in the catalog. -/
def schema? (s : Store) (className : String) : Operation (Option Schema) := do
  s.connect .pooled
  let found ← Operation.recover Error.isMissing none (Catalog.schema? className)
  return found.map Schema.toPublic

def schemas (s : Store) : Operation (List Schema) := do
  s.connect .pooled
  let found ← Operation.recover Error.isMissing [] Catalog.schemas
  return found.map Schema.toPublic

/-- Whether there is a table of a name. -/
def tableExists (s : Store) (name : String) : Operation Bool := do
  s.connect .pooled
  let answer ← Catalog.query (.tableExists name)
  match answer.rows with
  | [] => return false
  | r :: _ => r.bool 0

/-- Sets one value inside the schema of a class. -/
def setEntry (s : Store) (className : String) (path : List String) (value : Json) :
    Operation Unit := do
  s.connect .pooled
  Catalog.setEntry className path value
  s.announce className

/-- Declares the options of a field anew. -/
def setFieldOptions (s : Store) (className field : String) (declared : Field) : Operation Unit :=
  s.setEntry className (Catalog.fieldPath field) declared.toJson

def setPermissions (s : Store) (className : String) (permissions : Json) : Operation Unit :=
  s.setEntry className ["classLevelPermissions"] permissions

end Store

end Docstore
