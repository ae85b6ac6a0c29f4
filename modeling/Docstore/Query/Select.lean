import Docstore.Query.Predicate

/-!
# Statements that read and delete

The statements around a predicate. What is written before the predicate but bound after it is
numbered after it.
-/

namespace Docstore.Query

open Docstore.Sql (Fragment Bindings Statement Template words named)

/-- What is asked of a search besides its query. -/
structure FindOptions where
  skip : Option Int
  limit : Option Int
  /-- Fields and directions; one is ascending and anything else descending. -/
  sort : Fields Int
  /-- The columns to return, all if there are none. -/
  keys : Option (List String)
  ignoreCase : Bool
  /-- Whether the plan is returned in place of rows. -/
  explain : Bool
deriving Repr

def FindOptions.default : FindOptions := ⟨none, none, [], none, false, false⟩

/-- A fragment of nothing but SQL as it stands. -/
def sqlText (s : String) : Fragment := [.text s]

def sqlName (s : String) : Fragment := [.name s]

/-- Fields that can be asked for whether or not they are declared. -/
def alwaysSelectable : List String := ["objectId", "createdAt", "updatedAt"]

/-- Whether a field has a column to return. -/
def isSelectable (schema : Schema) (key : String) : Bool :=
  alwaysSelectable.contains key || (schema.fieldType? key).any (!·.isRelation)

/-- The columns that a key stands for. -/
def keyColumns (schema : Schema) (search : Option TextSearch) (key : String) :
    Result (List Template) :=
  if key = "ACL" then .ok [named "_rperm", named "_wperm"]
  else if key = "$score" then .ok (search.map TextSearch.rank).toList
  else if key = "" then .ok []
  else if isSelectable schema key then (validateKey key).map fun _ => [named key]
  else .ok []

/-- The columns that keys stand for, in their order. -/
def selectColumns (schema : Schema) (search : Option TextSearch) (keys : List String) :
    Result (List Template) :=
  (keys.mapM (keyColumns schema search)).map List.flatten

/-- All columns, where none were chosen. -/
def orAll (columns : List Fragment) : List Fragment :=
  if columns.isEmpty then [sqlText "*"] else columns

/-- One item of the order of the rows. -/
def sortItem (item : String × Int) : Result Fragment :=
  (validateKey item.1).map fun _ =>
    (Operand.template (.json item.1) ++ words (if item.2 = 1 then " ASC" else " DESC")).number 1

/-- The order of the rows: by distance if the query asks for it, else as the options say. -/
def orderBy (orders : List Fragment) (sort : Fields Int) : Result (List Fragment) :=
  if orders.isEmpty then sort.mapM sortItem else .ok orders

/-- A clause of items between commas, nothing if there are none. -/
def clauseOf (start : String) (items : List Fragment) : Fragment :=
  if items.isEmpty then [] else .text start :: Sql.joinFragments ", " items

/-- A clause with a bound count. -/
def countClause (start : String) (n : Option Int) : Template :=
  match n with
  | some n => words start ++ Sql.value (.integer n)
  | none => []

/-- The rows that match a query. -/
def find (schema : Schema) (now : Time.Instant) (query : Document) (options : FindOptions) :
    Result Statement := do
  let (p, b) := predicate ⟨schema, options.ignoreCase, now⟩ query .empty
  let p ← p
  let columns ← selectColumns schema p.search (options.keys.getD [])
  let (columns, b) := b.writeAll columns
  let order ← orderBy p.orders options.sort
  let (limit, b) := b.write (countClause " LIMIT " options.limit)
  let (offset, b) := b.write (countClause " OFFSET " options.skip)
  let explain := if options.explain then "EXPLAIN (ANALYZE, FORMAT JSON) " else ""
  return ⟨.text (explain ++ "SELECT ") :: Sql.joinFragments ", " (orAll columns) ++
    sqlText " FROM " ++ sqlName schema.className ++ p.whereClause ++ clauseOf " ORDER BY " order ++
    limit ++ offset, b.values⟩

/-- A statement of a query's predicate alone. -/
def aroundPredicate (schema : Schema) (now : Time.Instant) (query : Document)
    (sql : Fragment → Fragment) : Result Statement :=
  match predicate ⟨schema, false, now⟩ query .empty with
  | (.ok p, b) => .ok ⟨sql p.whereClause, b.values⟩
  | (.error f, _) => .error f

/-- How many rows match a query. -/
def count (schema : Schema) (now : Time.Instant) (query : Document) : Result Statement :=
  aroundPredicate schema now query fun p =>
    sqlText "SELECT count(*) FROM " ++ sqlName schema.className ++ p

/-- The planner's guess of a table's rows. -/
def countEstimate (className : String) : Statement :=
  .ofTemplate (words "SELECT reltuples AS approximate_row_count FROM pg_class WHERE relname = " ++
    Sql.boundText className)

/-- The different values of a field; lists are taken apart. -/
def distinctOperand (schema : Schema) (field : String) : Template :=
  if isDotted field then Operand.template (.json field)
  else match schema.fieldType? field with
    | some type =>
      if type.isStringArray then words "unnest(" ++ named field ++ words ")"
      else if type.isArray then words "jsonb_array_elements(" ++ named field ++ words ")"
      else named field
    | none => named field

/-- The different values of a field in the rows that match a query, as the column `value`. -/
def distinct (schema : Schema) (now : Time.Instant) (field : String) (query : Document) :
    Result Statement :=
  (validateKey field).bind fun _ =>
    aroundPredicate schema now query fun p =>
      sqlText "SELECT DISTINCT " ++ (distinctOperand schema field).number 1 ++ sqlText " AS " ++
        sqlName "value" ++ sqlText " FROM " ++ sqlName schema.className ++ p

/-- Deletes the rows that match a query and counts them. -/
def delete (schema : Schema) (now : Time.Instant) (query : Document) : Result Statement :=
  aroundPredicate schema now query fun p =>
    sqlText "WITH deleted AS (DELETE FROM " ++ sqlName schema.className ++ p ++
      sqlText " RETURNING *) SELECT count(*) FROM deleted"

end Docstore.Query
