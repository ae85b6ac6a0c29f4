/-!
# Types of the wire

The types of parameters and columns. A value is written for the type that the server expects of its
parameter, and read by the type of its column.
-/

namespace Docstore.Wire

inductive DataType
  | bool
  | int2
  | int4
  | int8
  | float4
  | float8
  | text
  | varchar
  | bpchar
  | name
  | unknown
  | timestamptz
  | timestamp
  | json
  | jsonb
  | textArray
  | varcharArray
  | point
  | polygon
  /-- A type that is neither written nor read. -/
  | other (name : String)
deriving DecidableEq, Repr

namespace DataType

/-- The types that are written and read, by their names. -/
def known : List (String × DataType) :=
  [("bool", bool), ("int2", int2), ("int4", int4), ("int8", int8), ("float4", float4),
    ("float8", float8), ("text", text), ("varchar", varchar), ("bpchar", bpchar), ("name", name),
    ("unknown", unknown), ("timestamptz", timestamptz), ("timestamp", timestamp), ("json", json),
    ("jsonb", jsonb), ("_text", textArray), ("_varchar", varcharArray), ("point", point),
    ("polygon", polygon)]

/-- The type with a name; a list's name is that of its items behind an underscore. -/
def ofName (s : String) : DataType := ((known.find? (·.1 = s)).map Prod.snd).getD (other s)

def label (t : DataType) : String :=
  match t with
  | other s => s
  | t => ((known.find? (·.2 = t)).map Prod.fst).getD ""

/-- Whether parameters of the type are written. -/
def isWritten : DataType → Bool
  | other _ => false
  | _ => true

/-- Whether values of the type are bare text. -/
def isText : DataType → Bool
  | text | varchar | bpchar | name | unknown => true
  | _ => false

def isJson : DataType → Bool
  | json | jsonb => true
  | _ => false

def isTextArray : DataType → Bool
  | textArray | varcharArray => true
  | _ => false

end DataType

end Docstore.Wire
