import Docstore.Encoding
import Docstore.Query.Select
import Docstore.Write.Document

/-!
# Inserts

The columns of a new object and the SQL of their values. Points come after all other columns.
-/

namespace Docstore.Write

open Docstore.Sql (Template Fragment Statement words)

/-- What is written for a field. -/
inductive Cell
  | value (v : Value) (cast : String)
  | point (p : Point)
deriving Repr

namespace Cell

def template : Cell → Template
  | value v cast => Sql.value v ++ words cast
  | point p => Sql.boundPoint p

def isPoint : Cell → Bool
  | point _ => true
  | value _ _ => false

end Cell

/-- The cast that a list's value needs. -/
def listCast (type : FieldType) : String :=
  if type.isStringArray then "::text[]" else if type.isArray then "::jsonb" else ""

/-- The type of a column, which need not be declared for auth data and hidden fields of users. -/
def writtenType (schema : Schema) (name : String) : Result FieldType :=
  let hidden := if schema.isUserClass then Schema.userHiddenFields else []
  let known := if name = "authData" then some FieldType.object else Fields.get? name hidden
  match (schema.fieldType? name).or known with
  | some type => .ok type
  | none =>
    fail (.operationForbidden
      ("field \x60" ++ name ++ "\x60 does not exist in class \x60" ++ schema.className ++ "\x60"))

/-- What is written for an entry. Nulls are left out, and so are relations. -/
def cellOf (schema : Schema) (name : String) (value : Json) : Result (Option Cell) :=
  if value.isNull then .ok none
  else (writtenType schema name).bind fun type =>
    if type.isRelation && value.typeTag? = some "Relation" then .ok none
    else if type = .geoPoint then (Geometry.point value).map fun p => some (.point p)
    else (Encoding.encode type value).map fun v => some (.value v (listCast type))

/-- The cells of a document's entries, in their order. -/
def cellsOf (schema : Schema) : Document → Result (Fields Cell)
  | [] => .ok []
  | (name, value) :: rest => do
    let cell ← cellOf schema name value
    let cells ← cellsOf schema rest
    return (cell.map (name, ·)).toList ++ cells

/-- Columns and what is written to them. -/
structure Insert where
  cells : Fields Cell
deriving Repr

namespace Insert

/-- The cells of an object, points last. -/
def ofCells (cells : Fields Cell) : Insert :=
  ⟨cells.filter (fun (_, c) => !c.isPoint) ++ cells.filter (fun (_, c) => c.isPoint)⟩

def columns (i : Insert) : List String := i.cells.map Prod.fst

/-- The SQL of the columns' values, and the values. -/
def written (i : Insert) : List Fragment × Sql.Bindings :=
  Sql.Bindings.empty.writeAll (i.cells.map fun (_, c) => c.template)

def placeholders (i : Insert) : List Fragment := i.written.1

def values (i : Insert) : List Value := i.written.2.values

/-- The statement that inserts the row, or leaves a row that it meets as it is. -/
def statement (i : Insert) (className : String) (ignoreConflict : Bool) : Statement :=
  let row : Fragment :=
    if i.cells.isEmpty then [.text " DEFAULT VALUES"]
    else .text " (" :: Sql.joinFragments ", " (i.columns.map Query.sqlName) ++
      .text ") VALUES (" :: Sql.joinFragments ", " i.placeholders ++ [.text ")"]
  let conflict : Fragment := if ignoreConflict then [.text " ON CONFLICT DO NOTHING"] else []
  ⟨.text "INSERT INTO " :: .name className :: row ++ conflict, i.values⟩

end Insert

/-- Compiles an object into an insert. -/
def insert (schema : Schema) (object : Document) : Result Insert := do
  let object := expandDots object
  validateNestedKeys (.object object)
  return .ofCells (← cellsOf schema (foldAuthData object))

end Docstore.Write
