import Docstore.Sql.Template

/-!
# Assignments

What an update does to one column, and the SQL that does it.
-/

namespace Docstore.Write

open Docstore.Sql (Template words named value boundText boundDouble)

/-- An operation on a list. -/
inductive ListOperation
  | add
  | addUnique
  | remove
deriving DecidableEq, Repr

namespace ListOperation

/-- The name in updates. -/
def name : ListOperation → String
  | add => "Add"
  | addUnique => "AddUnique"
  | remove => "Remove"

/-- The database's function for lists in documents. -/
def function : ListOperation → String
  | add => "array_add"
  | addUnique => "array_add_unique"
  | remove => "array_remove"

end ListOperation

inductive Action
  | clear
  | set (v : Value) (cast : String)
  | setPoint (p : Point)
  /-- Adds to a number; one that is missing counts as zero. -/
  | increment (amount : Double)
  | changeList (op : ListOperation) (items : Json)
  /-- Changes a native list of strings. -/
  | changeStrings (op : ListOperation) (items : List String)
  /-- Sets the entries of auth data one by one; one without a value is set to null. -/
  | setProviders (providers : List (String × Option Json))
  /--
  Writes into an object, or in place of it: removes keys, adds to numbers and puts the given fields
  over the rest.
  -/
  | merge (keep : Bool) (removed : List String) (increments : List (String × Double))
      (fields : Document)
deriving Repr

/-- An action on a column. -/
structure Assignment where
  column : String
  action : Action
deriving Repr

namespace Assignment

/-- The empty object, as a constant. -/
def emptyObject : Template := [.literal "\x7b\x7d"] ++ words "::jsonb"

/-- The empty list of strings, as a constant. -/
def emptyStrings : Template := [.literal "\x7b\x7d"] ++ words "::text[]"

/-- The empty list, as a constant. -/
def emptyList : Template := [.literal "[]"] ++ words "::jsonb"

/-- A column, or a constant where the column is null. -/
def orElse (column constant : Template) : Template :=
  words "COALESCE(" ++ column ++ words ", " ++ constant ++ words ")"

def setProvider (inner : Template) (provider : String × Option Json) : Template :=
  let v := match provider.2 with
    | some v => Value.json v
    | none => Value.null
  words "json_object_set_key(" ++ orElse inner emptyObject ++ words ", " ++ boundText provider.1 ++
    words "::text, " ++ value v ++ words "::jsonb)::jsonb"

def changeStrings (op : ListOperation) (column : Template) (items : List String) : Template :=
  let stored := orElse column emptyStrings
  let given := value (.strings items) ++ words "::text[]"
  match op with
  | .add => words "array_cat(" ++ stored ++ words ", " ++ given ++ words ")"
  | .addUnique =>
    words "array_cat(" ++ stored ++ words ", ARRAY(SELECT DISTINCT e FROM unnest(" ++ given ++
      words ") AS e WHERE e <> ALL (" ++ stored ++ words ")))"
  | .remove =>
    words "ARRAY(SELECT e FROM unnest(" ++ stored ++ words ") AS e WHERE e <> ALL (" ++ given ++
      words "))"

/-- Removes a key from the object before. -/
def removeKey (key : String) : Template := words " - " ++ boundText key ++ words "::text"

/-- Puts the sum of a stored number and an amount over the object before. -/
def incrementKey (column : Template) (key : String) (amount : Double) : Template :=
  words " || jsonb_build_object(" ++ boundText key ++ words "::text, COALESCE((" ++ column ++
    words "->>" ++ [.again] ++ words "::text)::double precision, 0) + " ++ boundDouble amount ++
    words ")"

/-- The expression that a column is set to. -/
def expression (a : Assignment) : Template :=
  let column := named a.column
  match a.action with
  | .clear => words "NULL"
  | .set v cast => value v ++ words cast
  | .setPoint p => Sql.boundPoint p
  | .increment amount => words "COALESCE(" ++ column ++ words ", 0) + " ++ boundDouble amount
  | .changeList op items =>
    words (op.function ++ "(") ++ orElse column emptyList ++ words ", " ++ value (.json items) ++
      words "::jsonb)"
  | .changeStrings op items => changeStrings op column items
  | .setProviders providers => providers.foldl setProvider column
  | .merge keep removed increments fields =>
    words "(" ++ (if keep then orElse column emptyObject else emptyObject) ++
      removed.flatMap removeKey ++ increments.flatMap (fun (key, n) => incrementKey column key n) ++
      words " || " ++ value (.json (.object fields)) ++ words "::jsonb)"

def template (a : Assignment) : Template := named a.column ++ words " = " ++ a.expression

end Assignment

end Docstore.Write
