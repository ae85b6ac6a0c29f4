import Docstore.Encoding
import Docstore.Query.Select
import Docstore.Write.Assignment
import Docstore.Write.Document

/-!
# Updates

An update document becomes assignments to columns, one at most for each. Keys with points write into
stored objects.
-/

namespace Docstore.Write

open Docstore.Sql (Fragment Statement)

/-- A key cut at its first point. -/
def cutKey? (key : String) : Option (String × String) :=
  (Text.cut? '.' key.toList).map fun (root, sub) => (String.ofList root, String.ofList sub)

/-- The amount of an increment; one that is no number is zero. -/
def amountOf (value : Json) : Double := ((value.get? "amount").bind Json.double?).getD 0

/-- The strings that an operation on a native list names. -/
def stringsOf (op : ListOperation) (column : String) : Json → Result (List String)
  | .array items => items.mapM fun
    | .string s => .ok s
    | v => fail (.invalidJson (op.name ++ " on " ++ column ++ " expects strings, got " ++ v.print))
  | v =>
    fail (.invalidJson
      (op.name ++ " on " ++ column ++ " expects an array of objects, got " ++ v.print))

/-- An operation on a list. -/
def listAction (type : Option FieldType) (column : String) (op : ListOperation) (value : Json) :
    Result Action :=
  let items := (value.get? "objects").getD (.array [])
  if type.any (·.isStringArray) then (stringsOf op column items).map (.changeStrings op)
  else .ok (.changeList op items)

/-- The keys one step inside a field whose values ask for an operation. -/
def nestedOperations (update : Document) (column operation : String) : List (String × Json) :=
  update.filterMap fun (key, value) =>
    match cutKey? key with
    | some (root, sub) =>
      if root = column && !hasPoint sub && value.operation? = some operation then some (sub, value)
      else none
    | none => none

/-- Writes a whole object, or into the stored one where the update has keys with points. -/
def mergeAction (update : Document) (column : String) (fields : Document) : Action :=
  let keep := update.any fun (key, _) => (cutKey? key).any (·.1 = column)
  let increments := nestedOperations update column "Increment"
  let fields := increments.foldl (fun fields (sub, _) => Fields.erase sub fields) fields
  .merge keep ((nestedOperations update column "Delete").map Prod.fst)
    (increments.map fun (sub, value) => (sub, amountOf value)) fields

def unsupported (what : String) : Cause :=
  .operationForbidden ("Postgres doesn't support update " ++ what ++ " yet")

/-- Sets a column to a value that asks for no operation. Relations are left alone. -/
def setAction (update : Document) (column : String) (type : Option FieldType) (value : Json) :
    Result (Option Action) :=
  let plain : Result (Option Action) :=
    match value with
    | .object fields =>
      if type = some .object then .ok (some (mergeAction update column fields))
      else fail (unsupported value.print)
    | .array items =>
      if type.any (·.isStringArray) then
        (Encoding.encode (.arrayOf .string) value).map fun v => some (.set v "::text[]")
      else if type.any (·.isArray) then .ok (some (.set (.json (.array items)) "::jsonb"))
      else fail (unsupported value.print)
    | .null => .ok (some .clear)
    | _ =>
      match type with
      | some .date => (Encoding.encode .date value).map fun v => some (.set v "")
      | some .number => (Encoding.encode .number value).map fun v => some (.set v "")
      | _ => .ok (some (.set (Encoding.untyped value) ""))
  match value.typeTag? with
  | some "Pointer" => .ok (some (.set (Encoding.untyped value) ""))
  | some "File" => .ok (some (.set (Encoding.untyped value) ""))
  | some "Date" => (Encoding.date value).map fun t => some (.set (.timestamp t) "")
  | some "GeoPoint" => (Geometry.point value).map fun p => some (.setPoint p)
  | some "Polygon" =>
    (Geometry.polygon ((value.get? "coordinates").getD .null)).map fun ring =>
      some (.set (.polygon ring) "")
  | some "Relation" => .ok none
  | some "Bytes" => if type = some .bytes then .ok (some (.set (.json value) "::jsonb")) else plain
  | _ => plain

/-- What an entry of an update does to its column, if anything. -/
def actionOf (schema : Schema) (update : Document) (column : String) (value : Json) :
    Result (Option Action) :=
  let type := schema.fieldType? column
  if value.isNull then .ok (some .clear)
  else if column = "authData" then
    match value with
    | .object providers =>
      .ok (some (.setProviders (providers.map fun (name, v) => (name, unlessDelete v))))
    | _ => .ok none
  else match value.operation? with
    | none => setAction update column type value
    | some "Increment" => .ok (some (.increment (amountOf value)))
    | some "Add" => (listAction type column .add value).map some
    | some "AddUnique" => (listAction type column .addUnique value).map some
    | some "Remove" => (listAction type column .remove value).map some
    | some "Delete" => .ok (some .clear)
    | some "AddRelation" => .ok none
    | some "RemoveRelation" => .ok none
    | some "Batch" => .ok none
    | some op => fail (unsupported op)

/-- The assignments of an update's entries, in their order. -/
def assignmentsOf (schema : Schema) (update : Document) : Document → Result (List Assignment)
  | [] => .ok []
  | (column, value) :: rest => do
    let action ← actionOf schema update column value
    let assignments ← assignmentsOf schema update rest
    return (action.map (⟨column, ·⟩)).toList ++ assignments

structure Update where
  assignments : List Assignment
deriving Repr

namespace Update

/-- The SQL of the assignments, and the values. -/
def written (u : Update) : List Fragment × Sql.Bindings :=
  Sql.Bindings.empty.writeAll (u.assignments.map Assignment.template)

def sets (u : Update) : List Fragment := u.written.1

def values (u : Update) : List Value := u.written.2.values

def isEmpty (u : Update) : Bool := u.assignments.isEmpty

/-- The statement that updates the rows that match a query and returns them. -/
def statement (u : Update) (schema : Schema) (now : Time.Instant) (query : Document) :
    Result Statement :=
  match Query.predicate ⟨schema, false, now⟩ query u.written.2 with
  | (.ok p, b) =>
    .ok ⟨.text "UPDATE " :: .name schema.className :: .text " SET " ::
      Sql.joinFragments ", " u.sets ++ p.whereClause ++ [.text " RETURNING *"], b.values⟩
  | (.error f, _) => .error f

end Update

/-- Compiles an update document. -/
def update (schema : Schema) (update : Document) : Result Update :=
  (assignmentsOf schema update (foldAuthDataFirst (expandDots update))).map Update.mk

end Docstore.Write
