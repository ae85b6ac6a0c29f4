import Docstore.Store.Catalog

/-!
# Indexes

Indexes are created under names that say which fields they are over. Changes are planned against the
indexes that a class has, before anything is sent.
-/

namespace Docstore

open Docstore.Engine (Operation Connection)
open Docstore.Sql (IndexColumn)

/-- An index as the server reports it. -/
structure IndexInfo where
  name : String
  definition : String
deriving DecidableEq, Repr

namespace Index

/-- The name of an index over fields in any order. -/
def sortedName (className kind : String) (fields : List String) : String :=
  className ++ "_" ++ kind ++ "_" ++ "_".intercalate (fields.mergeSort fun a b => decide (a ≤ b))

def columnsOf (fields : List String) (ignoreCase : Bool) : List IndexColumn :=
  fields.map fun f => { IndexColumn.ofName f with ignoreCase }

/-- The columns of keys and their directions. -/
def keyColumns (keys : Document) : List IndexColumn :=
  keys.map fun (field, direction) =>
    { IndexColumn.ofName field with descending := direction.int64? == some (-1) }

/-- Creates an index, unless it exists. -/
def create (name className : String) (columns : List IndexColumn) (unique : Bool) :
    Operation Unit :=
  Operation.mapError Error.asDuplicate
    (Operation.recover (·.isExistingIndex name) ()
      (Catalog.define (.createIndex name className columns unique)))

/-- Creates the indexes of a class. -/
def createAll (className : String) (indexes : Fields Document) : Operation Unit :=
  indexes.forM fun (name, keys) => create name className (keyColumns keys) false

def dropAll (names : List String) : Operation Unit :=
  names.forM fun name => Catalog.define (.dropIndex name)

/-! ## Changes -/

/-- Changes of a class's indexes, and what the indexes are after them. -/
structure Changes where
  inserted : Fields Document
  deleted : List String
  indexes : Fields Document
deriving Repr

namespace Changes

/-- The index that a class has to begin with. -/
def defaults : Fields Document := [("_id_", [("_id", Json.int 1)])]

/-- No changes of the indexes that a class has. -/
def start (existing : Fields Document) : Changes :=
  ⟨[], [], if existing.isEmpty then defaults else existing⟩

/-- Plans one submitted change: an index is deleted on demand and inserted otherwise. -/
def step (fields : Fields Field) (c : Changes) (name : String) (index : Json) : Result Changes :=
  let delete := index.operation? == some "Delete"
  let isThere := Fields.contains name c.indexes
  if isThere && !delete then fail (.invalidQuery ("Index " ++ name ++ " exists, cannot update."))
  else if !isThere && delete then
    fail (.invalidQuery ("Index " ++ name ++ " does not exist, cannot delete."))
  else if delete then
    .ok { c with indexes := Fields.erase name c.indexes, deleted := c.deleted ++ [name] }
  else match index with
    | .object keys =>
      match (Fields.names keys).find? fun k => !Fields.contains k fields with
      | some key => fail (.invalidQuery ("Field " ++ key ++ " does not exist, cannot add index."))
      | none =>
        .ok { c with
          indexes := Fields.insert name keys c.indexes
          inserted := Fields.insert name keys c.inserted }
    | _ => fail (.invalidQuery ("Index " ++ name ++ " has no keys."))

/-- Plans what was submitted, entry by entry. -/
def plan (submitted : Document) (existing : Fields Document) (fields : Fields Field) :
    Result Changes :=
  submitted.foldlM (fun c (name, index) => c.step fields name index) (start existing)

/-- The indexes after the changes, as the catalog keeps them. -/
def toJson (c : Changes) : Json := .object (c.indexes.map fun (name, keys) => (name, .object keys))

end Changes

end Index

namespace Store

/-- Creates an index over fields, under its sorted name unless one is given. -/
def ensureIndex (s : Store) (className : String) (fields : List String) (name : Option String)
    (ignoreCase : Bool) : Operation Unit := do
  s.connect .pooled
  Index.create (name.getD (Index.sortedName className "default" fields)) className
    (Index.columnsOf fields ignoreCase) false
  s.announce className

/-- Creates a unique index over fields. Values that are there twice are an error. -/
def ensureUnique (s : Store) (className : String) (fields : List String) : Operation Unit := do
  s.connect .pooled
  Index.create (Index.sortedName className "unique" fields) className
    (Index.columnsOf fields false) true
  s.announce className

def createIndexes (s : Store) (className : String) (indexes : Fields Document) : Operation Unit := do
  s.connect .pooled
  Operation.transaction (Index.createAll className indexes)
  s.announce className

def dropIndexes (s : Store) (className : String) (names : List String) : Operation Unit := do
  s.connect .pooled
  Operation.transaction (Index.dropAll names)
  s.announce className

def indexes (s : Store) (className : String) : Operation (List IndexInfo) := do
  s.connect .pooled
  let answer ← Catalog.query (.indexesOf className)
  (answer.rows.mapM fun r => do return ⟨← r.text 0, ← r.text 1⟩ : Result (List IndexInfo))

/-- Changes the indexes of a class, in the database and in the catalog. -/
def setIndexes (s : Store) (className : String) (submitted : Document)
    (existing : Fields Document) (fields : Fields Field) : Operation Unit := do
  let changes ← Index.Changes.plan submitted existing fields
  s.connect .pooled
  Operation.transaction do
    Index.createAll className changes.inserted
    Index.dropAll changes.deleted
    Catalog.setEntry className ["indexes"] changes.toJson
  s.announce className

end Store

end Docstore
