import Docstore.Store.Indexes

/-!
# Classes

Creating and deleting classes. Each of these changes happens in one transaction, and is announced
when it is done.
-/

namespace Docstore

open Docstore.Engine (Operation)

namespace Store

/-- A class that has a row already. -/
def alreadyExists (className : String) (e : Error) : Error :=
  if e.hasState .uniqueViolation then
    .ofCause (.duplicateValue ("Class " ++ className ++ " already exists.") none)
  else e

/-- Creates a class: its tables, its row in the catalog and its indexes. -/
def createClass (s : Store) (schema : Schema) : Operation Schema := do
  let stored := schema.toStorage
  s.connect .pooled
  Operation.transaction do
    Catalog.ensure
    Catalog.createTables stored
    Operation.mapError (alreadyExists schema.className) (Catalog.addRow stored false)
    Index.createAll schema.className stored.indexes
  s.announce schema.className
  return stored.toPublic

/-- Drops tables. -/
def dropTables (names : List String) : Operation Unit :=
  names.forM fun name => Catalog.define (.dropTable name)

/-- Deletes a class and tells whether it was one of the users', rather than a relation's table. -/
def deleteClass (s : Store) (className : String) : Operation Bool := do
  s.connect .pooled
  -- Nothing at all is known where there is no catalog.
  let known ← Operation.recover Error.isMissing none (some <$> Catalog.schema? className)
  Operation.transaction do
    dropTables (className :: (known.join.map Schema.joinTables).getD [])
    if known.isSome then
      let _ ← Catalog.query (.removeRow className)
  s.announce className
  return !Schema.isJoinTable className

/-- The tables of a class and of its relations. -/
def tablesOf (schema : Schema) : List String := schema.className :: schema.joinTables

/-- The tables among some that exist. -/
def existingTables (names : List String) : Operation (List String) := do
  let answer ← Catalog.query (.tablesAmong names)
  let existing ← Catalog.textColumn answer.rows
  return names.filter existing.contains

/-- Deletes all classes and the catalog. In a hurry tables are emptied rather than dropped. -/
def deleteClasses (s : Store) (fast : Bool) : Operation Unit := do
  s.connect .pooled
  let schemas ← Operation.recover Error.isMissing [] Catalog.schemas
  let tables := schemas.flatMap tablesOf
  if fast then
    let existing ← existingTables (tables ++ [Schema.catalogTable])
    Operation.transaction (existing.forM fun name => Catalog.define (.truncate name))
  else
    Operation.transaction (dropTables (tables ++ [Schema.catalogTable]))
  s.announce none

/-- The fields among some that have columns; only the catalog knows relations. -/
def columnFields (schema : Schema) (fields : List String) : List String :=
  fields.filter fun f => !(schema.fieldType? f).any FieldType.isRelation

/-- Deletes fields of a class. -/
def deleteFields (s : Store) (className : String) (fields : List String) : Operation Unit := do
  s.connect .pooled
  Operation.transaction do
    match ← Catalog.schema? className with
    | none => throw (.ofCause (.invalidQuery ("Class " ++ className ++ " does not exist.")))
    | some schema =>
      let _ ← Catalog.query (.removeFields className fields)
      if !(columnFields schema fields).isEmpty then
        Catalog.define (.dropColumns className (columnFields schema fields))
  s.announce className

end Store

end Docstore
