import Docstore.Fields
import Docstore.Number.Double

/-!
# Documents

The values that callers exchange with the store. Numbers remember whether they were written as
integers, and objects keep the order of their keys.
-/

namespace Docstore

namespace Json

/-- A number as it was written. -/
inductive Number
  | integer (i : Int)
  | float (x : Double)
deriving DecidableEq, Repr

end Json

inductive Json
  | null
  | bool (b : Bool)
  | number (n : Json.Number)
  | string (s : String)
  | array (items : List Json)
  | object (fields : List (String × Json))
deriving Inhabited, Repr

/-- An object's fields. -/
abbrev Document := Fields Json

/-- The least number that is too large for 64 bits with a sign. -/
def int64Bound : Int := 0x8000000000000000

/-- The integers of 64 bits with a sign. -/
def inInt64 (i : Int) : Bool := decide (-int64Bound ≤ i) && decide (i < int64Bound)

namespace Json

def int (i : Int) : Json := .number (.integer i)

/-- A string field, as typed values and operations carry them. -/
def tagged (key tag : String) : String × Json := (key, .string tag)

def isNull : Json → Bool
  | .null => true
  | _ => false

def isString : Json → Bool
  | .string _ => true
  | _ => false

def isBool : Json → Bool
  | .bool _ => true
  | _ => false

def isObject : Json → Bool
  | .object _ => true
  | _ => false

/-- The value under a key; values other than objects have none. -/
def get? (key : String) : Json → Option Json
  | .object fields => Fields.get? key fields
  | _ => none

/-- The item at a place; values other than lists have none. -/
def item? (i : Nat) : Json → Option Json
  | .array items => items[i]?
  | _ => none

def text? : Json → Option String
  | .string s => some s
  | _ => none

/-- A number as the nearest double. -/
def double? : Json → Option Double
  | .number (.integer i) => some (Double.ofInt i)
  | .number (.float x) => some x
  | _ => none

/-- A number written as an integer of 64 bits with a sign. -/
def int64? : Json → Option Int
  | .number (.integer i) => if inInt64 i then some i else none
  | _ => none

/-- The `__type` of a typed value. -/
def typeTag? (v : Json) : Option String := (v.get? "__type").bind text?

/-- The name of the operation that an update value asks for. -/
def operation? (v : Json) : Option String := (v.get? "__op").bind text?

/-- Emptiness, zero and falsehood are false; lists and objects are true. -/
def truthy : Json → Bool
  | .null => false
  | .bool b => b
  | .number (.integer i) => i != 0
  | .number (.float x) => !Double.eq x 0
  | .string s => s ≠ ""
  | .array _ => true
  | .object _ => true

end Json

end Docstore
