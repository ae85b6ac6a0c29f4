import Docstore.Query.Pipeline
import Docstore.Store.Row
import Docstore.Store.Work
import Docstore.Write.Insert
import Docstore.Write.Update

/-!
# Objects

Objects of a class are written, found, counted and deleted. Reading a class that has no table finds
nothing. Schemas are given in their public or their storage form.
-/

namespace Docstore

open Docstore.Engine (Answer Prepared)
open Docstore.Query (FindOptions)
open Docstore.Time (Instant)
open Docstore.Wire (Row)

namespace Objects

/-- The rows of an answer, none where there was nothing to read. -/
def rowsOf (answer : Option Answer) : List Row := (answer.map (·.rows)).getD []

/-- Reads rows; a missing table or column has none. -/
def read (place : Place) (p : Prepared) : Work (List Row) := do
  return rowsOf (← Work.recovering place Error.isMissing p)

/-- Work whose violations of unique constraints are duplicate values. -/
def asDuplicate {α : Type} (work : Work α) : Work α :=
  ExceptT.mk do
    match ← work.run with
    | .error (.error e) => return .error (.error e.asDuplicate)
    | r => return r

/-- Inserts a row and tells how many were written. -/
def insertRow (stored : Schema) (object : Document) (ignoreConflict : Bool) (place : Place) :
    Work Nat := do
  let compiled ← Write.insert stored object
  let statement := compiled.statement stored.className ignoreConflict
  return (← asDuplicate (Work.query place (.objects statement))).affected

/-- Writes an object and returns it. -/
def create (schema : Schema) (object : Document) (place : Place) : Work Document := do
  let _ ← insertRow schema.toStorage object false place
  return object

/-- The objects that match a query, or the plan of looking for them. -/
def find (schema : Schema) (now : Instant) (query : Document) (options : FindOptions)
    (place : Place) : Work (List Document) := do
  let stored := schema.toStorage
  let statement ← Query.find stored now query options
  let rows ← read place (.objects statement)
  (rows.mapM (if options.explain then planOf else stored.objectOf) : Result (List Document))

/-- The planner's guess of the rows of a table, if it has one. -/
def estimate? (className : String) (place : Place) : Work (Option Int) := do
  let answer ← Work.query place (.objects (Query.countEstimate className))
  match answer.rows with
  | [] => return none
  | r :: _ =>
    let guess ← (r.float4? 0 : Result (Option Double))
    return (guess.filter (Double.le 0)).map (Double.clamp (-int64Bound) (int64Bound - 1))

/-- The number in the first row. -/
def countIn : List Row → Result Int
  | [] => .ok 0
  | r :: _ => r.int8 0

/-- Counts the objects that match a query. Those of a whole class may be guessed. -/
def count (schema : Schema) (now : Instant) (query : Document) (guess : Bool) (place : Place) :
    Work Int := do
  let stored := schema.toStorage
  let guessed ← if guess && query.isEmpty then estimate? stored.className place else pure none
  match guessed with
  | some n => return n
  | none =>
    let statement ← Query.count stored now query
    countIn (← read place (.objects statement))

/-- The first value of a row; a row without columns cannot be read at all. -/
def firstValue (r : Row) : Result Value :=
  match r.entries with
  | [] => .error .crash
  | (c, cell) :: _ => Wire.decode c cell

/-- The different values of a field other than null, among the objects that match a query. -/
def distinct (schema : Schema) (now : Instant) (field : String) (query : Document)
    (place : Place) : Work (List Json) := do
  let stored := schema.toStorage
  let statement ← Query.distinct stored now field query
  let rows ← read place (.objects statement)
  let values ← (rows.mapM firstValue : Result (List Value))
  let type := if Query.isDotted field then none else stored.fieldType? field
  return (values.filter (!·.isNull)).map (Encoding.decode type)

/-- What a pipeline makes of the objects of a class, or the plan of it. -/
def aggregate (schema : Schema) (stages : List Json) (explain : Bool) (place : Place) :
    Work (List Document) := do
  let stored := schema.toStorage
  let pipeline ← Query.Pipeline.compile stored stages
  let statement := pipeline.statement stored
  let rows ← read place (if explain then .plan statement else .objects statement)
  (rows.mapM fun r =>
    if explain then planOf r else (stored.objectOf r).map pipeline.shapeRow :
      Result (List Document))

/-- Updates the objects that match a query and returns them; an empty update just returns them. -/
def update (schema : Schema) (now : Instant) (query update : Document) (place : Place) :
    Work (List Document) := do
  let stored := schema.toStorage
  let compiled ← Write.update stored update
  if compiled.isEmpty then find schema now query .default place
  else
    let statement ← compiled.statement stored now query
    let answer ← asDuplicate (Work.query place (.objects statement))
    (answer.rows.mapM stored.objectOf : Result (List Document))

/-- Updates the objects that match a query and returns the first. -/
def updateFirst (schema : Schema) (now : Instant) (query update : Document) (place : Place) :
    Work (Option Document) := do
  return (← Objects.update schema now query update place).head?

/-- Inserts an object, or updates the one that is met. -/
def upsert (schema : Schema) (now : Instant) (query update : Document) (place : Place) :
    Work Unit := do
  let written ← insertRow schema.toStorage (Write.upsertDocument query update) true place
  if written = 0 then
    let _ ← Objects.update schema now query update place

/-- Deletes the objects that match a query. There has to be one, unless there is no table. -/
def delete (schema : Schema) (now : Instant) (query : Document) (place : Place) : Work Unit := do
  let statement ← Query.delete schema.toStorage now query
  match ← Work.recovering place (·.hasState .undefinedTable) (.objects statement) with
  | none => return ()
  | some answer =>
    let deleted ← (countIn answer.rows : Result Int)
    if deleted = 0 then throw (.ofCause (.objectNotFound "Object not found."))

end Objects

end Docstore
