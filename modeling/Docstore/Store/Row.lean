import Docstore.Schema.Basic
import Docstore.Wire.Cell

/-!
# Rows as documents

The columns of a row become the fields of an object, by the types that the schema declares. Relations
have no columns; every object shows them all the same.
-/

namespace Docstore

namespace Schema

/-- What an object shows of a relation to a class. -/
def relationJson (target : String) : Json :=
  .object [Json.tagged "__type" "Relation", Json.tagged "className" target]

/-- The relations that every object shows. -/
def relationFields (s : Schema) : Document :=
  s.fields.filterMap fun (name, f) =>
    match f.type with
    | .relation target => some (name, relationJson target)
    | _ => none

/-- A column's value in an object; null is left out. Times of creation and change are bare text. -/
def fieldJson? (s : Schema) (name : String) : Value → Option Json
  | .null => none
  | .timestamp t =>
    if name = "createdAt" || name = "updatedAt" then some (.string t.toIso)
    else some (Encoding.decode (s.fieldType? name) (.timestamp t))
  | v => some (Encoding.decode (s.fieldType? name) v)

/-- The object that columns make. A later column of a name replaces an earlier one. -/
def shape (s : Schema) (columns : List (String × Value)) : Document :=
  Fields.insertAll
    (Fields.ofPairs (columns.filterMap fun (name, v) => (s.fieldJson? name v).map (name, ·)))
    s.relationFields

/-- The object that a row holds. -/
def objectOf (s : Schema) (r : Wire.Row) : Result Document := r.values.map s.shape

end Schema

/-- A row of a plan, its columns as they are. -/
def planOf (r : Wire.Row) : Result Document :=
  r.values.map fun columns =>
    Fields.ofPairs (columns.map fun (name, v) => (name, Encoding.decode none v))

end Docstore
