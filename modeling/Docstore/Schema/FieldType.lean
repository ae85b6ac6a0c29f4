import Docstore.Json.Basic

/-!
# Field types

The type of a class's field, its form as a document, and the column that holds the field.
-/

namespace Docstore

/-- The type of a column. -/
inductive ColumnType
  | text
  | timestamp
  | jsonb
  | boolean
  | double
  | point
  | polygon
  | textArray
deriving DecidableEq, Repr

/-- The name of a column's type in SQL. -/
def ColumnType.sql : ColumnType → String
  | text => "text"
  | timestamp => "timestamp with time zone"
  | jsonb => "jsonb"
  | boolean => "boolean"
  | double => "double precision"
  | point => "point"
  | polygon => "polygon"
  | textArray => "text[]"

inductive FieldType
  | string
  | number
  | boolean
  | date
  | object
  /-- A list of anything. -/
  | array
  /-- A list whose items have a type. -/
  | arrayOf (contents : FieldType)
  | pointer (target : String)
  /-- A set of objects of a class, kept in a table of its own. -/
  | relation (target : String)
  | geoPoint
  | polygon
  | bytes
  | file
deriving DecidableEq, Repr, Inhabited

namespace FieldType

/-- Lists of strings have a native column. -/
def isStringArray : FieldType → Bool
  | arrayOf string => true
  | _ => false

def isArray : FieldType → Bool
  | array | arrayOf _ => true
  | _ => false

def isRelation : FieldType → Bool
  | relation _ => true
  | _ => false

/-- The column that holds a field; relations have none. -/
def column? : FieldType → Option ColumnType
  | string | file | pointer _ => some .text
  | date => some .timestamp
  | object | bytes | array => some .jsonb
  | boolean => some .boolean
  | number => some .double
  | geoPoint => some .point
  | polygon => some .polygon
  | arrayOf string => some .textArray
  | arrayOf _ => some .jsonb
  | relation _ => none

def target? : FieldType → Option String
  | pointer target | relation target => some target
  | _ => none

def name : FieldType → String
  | string => "String"
  | number => "Number"
  | boolean => "Boolean"
  | date => "Date"
  | object => "Object"
  | array | arrayOf _ => "Array"
  | pointer _ => "Pointer"
  | relation _ => "Relation"
  | geoPoint => "GeoPoint"
  | polygon => "Polygon"
  | bytes => "Bytes"
  | file => "File"

/-! ## As a document -/

/-- The fields that declare a type. -/
def toFields : FieldType → Document
  | arrayOf contents => [("type", .string "Array"), ("contents", .object contents.toFields)]
  | pointer target => [("type", .string "Pointer"), ("targetClass", .string target)]
  | relation target => [("type", .string "Relation"), ("targetClass", .string target)]
  | t => [("type", .string t.name)]

/-- The names of the types, in the order in which a position counts them. -/
def names : List String :=
  ["String", "Number", "Boolean", "Date", "Object", "Array", "Pointer", "Relation", "GeoPoint",
    "Polygon", "Bytes", "File"]

/-- The name that a tag stands for. Inside another declaration a type may be given by position. -/
def tagName? (inner : Bool) : Json → Option String
  | .string s => if s ∈ names then some s else none
  | .number (.integer i) => if inner && decide (0 ≤ i) then names[i.toNat]? else none
  | _ => none

/-- The types that are nothing but their name. -/
def bare? (name : String) : Option FieldType :=
  [string, number, boolean, date, object, geoPoint, polygon, bytes, file].find? (·.name = name)

/-- The type with a name and a target class. -/
def targeted (name target : String) : FieldType :=
  if name = "Pointer" then pointer target else relation target

mutual

/--
The type that a document declares: an object with a `type`, or the list of the type's name and its
one argument.
-/
def ofJson? (inner : Bool) : Json → Option FieldType
  | .object fields =>
    match Fields.get? "type" fields |>.bind (tagName? inner) with
    | none => none
    | some name =>
      if name = "Array" then ofContents? fields
      else if name = "Pointer" || name = "Relation" then
        match Fields.get? "targetClass" fields with
        | some (.string target) => some (targeted name target)
        | _ => none
      else bare? name
  | .array [tag] =>
    match tagName? inner tag with
    | none => none
    | some name =>
      if name = "Array" then some array
      else if name = "Pointer" || name = "Relation" then none
      else bare? name
  | .array [tag, argument] =>
    match tagName? inner tag with
    | none => none
    | some name =>
      if name = "Array" then
        if argument.isNull then some array else (ofJson? true argument).map arrayOf
      else if name = "Pointer" || name = "Relation" then
        match argument with
        | .string target => some (targeted name target)
        | _ => none
      else none
  | _ => none

/-- The list type whose `contents` stand among the fields. -/
def ofContents? : List (String × Json) → Option FieldType
  | [] => some array
  | (k, v) :: rest =>
    if k = "contents" then if v.isNull then some array else (ofJson? true v).map arrayOf
    else ofContents? rest

end

end FieldType

end Docstore
