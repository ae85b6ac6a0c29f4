import Docstore.Schema.Basic
import Docstore.Value

/-!
# Values of documents and of columns

`Encoding.encode` turns a document's value into the value of a field's column, `Encoding.decode`
turns a column's value back.
-/

namespace Docstore.Encoding

open Docstore.Time (Instant)

/-- Reads a date, alone or as a typed value. -/
def date (value : Json) : Result Instant :=
  let read (iso : String) : Result Instant :=
    match Instant.ofIso? iso with
    | some t => .ok t
    | none => fail (.invalidJson ("invalid ISO date: " ++ iso))
  match value with
  | .string iso => read iso
  | .object _ =>
    if value.typeTag? = some "Date" then
      match (value.get? "iso").bind Json.text? with
      | some iso => read iso
      | none => fail (.invalidJson "Date value is missing \x60iso\x60")
    else fail (.invalidJson ("invalid Date value: " ++ value.print))
  | _ => fail (.invalidJson ("invalid Date value: " ++ value.print))

/-- The text that stands for a typed value in comparisons. -/
def scalar? (value : Json) : Option String :=
  match value.typeTag? with
  | some "Date" => (value.get? "iso").bind Json.text?
  | some "File" => (value.get? "name").bind Json.text?
  | some "Pointer" => (value.get? "objectId").bind Json.text?
  | _ => none

/-- The value of a document's value as it is, whatever its column. -/
def plain : Json → Value
  | .null => .null
  | .bool b => .bool b
  | .number (.integer i) => if inInt64 i then .integer i else .number (Double.ofInt i)
  | .number (.float x) => .number x
  | .string s => .string s
  | v => .json v

/-- Encodes a value for a column that is not known; a typed value becomes its text. -/
def untyped (value : Json) : Value :=
  match scalar? value with
  | some s => .string s
  | none => plain value

/-- The text under a key, or the value as it is. -/
def textUnder (key : String) (value : Json) : Value :=
  match value.get? key with
  | some (.string s) => .string s
  | _ => untyped value

/-- An item of a list of strings; other values become their text. -/
def itemText : Json → String
  | .string s => s
  | v => v.print

/-- Encodes a value for the column of a field. -/
def encode (type : FieldType) (value : Json) : Result Value :=
  if value.isNull then .ok .null
  else match type with
    | .date => (date value).map .timestamp
    | .pointer _ => .ok (textUnder "objectId" value)
    | .file => .ok (textUnder "name" value)
    | .arrayOf .string =>
      match value with
      | .array items => .ok (.strings (items.map itemText))
      | _ => fail (.invalidJson ("expected an array, got " ++ value.print))
    | .array | .arrayOf _ | .object | .bytes => .ok (.json value)
    | .number =>
      match value.double? with
      | some x => .ok (.number x)
      | none => .ok (untyped value)
    | .string | .boolean => .ok (untyped value)
    | .geoPoint => (Geometry.point value).map .point
    | .polygon =>
      (Geometry.polygon ((value.get? "coordinates").getD value)).map .polygon
    | .relation _ => fail (.operationForbidden "Relation fields are stored in join tables")

/-! ## Back to documents -/

/-- Whole doubles of this size and beyond are written as floats. -/
def integerBound : Int := 0x20000000000000

/-- A number, as an integer where the double is whole and exact. -/
def number (x : Double) : Json :=
  if x.isWhole && decide (x.truncate.natAbs < integerBound) then Json.int x.truncate
  else if x.isFinite then .number (.float x)
  else .null

def dateJson (t : Instant) : Json :=
  .object [Json.tagged "__type" "Date", ("iso", .string t.toIso)]

def pointerJson (target id : String) : Json :=
  .object [Json.tagged "__type" "Pointer", ("className", .string target), ("objectId", .string id)]

def fileJson (name : String) : Json :=
  .object [Json.tagged "__type" "File", ("name", .string name)]

def pointJson (p : Point) : Json :=
  .object [Json.tagged "__type" "GeoPoint", ("latitude", number p.y), ("longitude", number p.x)]

def polygonJson (ps : List Point) : Json :=
  .object [Json.tagged "__type" "Polygon",
    ("coordinates", .array (ps.map fun p => .array [number p.y, number p.x]))]

/-- Decodes a column's value, by the field's type where there is one. -/
def decode (type : Option FieldType) : Value → Json
  | .null => .null
  | .string s =>
    match type with
    | some (.pointer target) => pointerJson target s
    | some .file => fileJson s
    | _ => .string s
  | .timestamp t => dateJson t
  | .point p => pointJson p
  | .polygon ps => polygonJson ps
  | .bool b => .bool b
  | .integer i => Json.int i
  | .number x => number x
  | .strings items => .array (items.map Json.string)
  | .json v => v

end Docstore.Encoding
