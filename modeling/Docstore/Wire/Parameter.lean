import Docstore.Encoding
import Docstore.Number.DecimalText
import Docstore.Wire.Bytes
import Docstore.Wire.DataType

/-!
# Parameters

A value is written for the type that the server expects. Types that fit the value get their binary
form, documents their text, and every other type the text that the value has in SQL.
-/

namespace Docstore.Wire

open Docstore.Time (Instant)

/-- A value of a parameter as it is sent; null has no bytes. -/
structure Argument where
  type : DataType
  bytes : Option Bytes
deriving DecidableEq, Repr

/-- Fails before anything is sent, or with an answer that cannot be read. -/
def refuse {α : Type} (reason : String) : Result α := fail (.driver (.client [reason]))

/-! ## Binary forms -/

def ofDouble (x : Double) : Bytes := ofNat 8 x.bits.toNat

def ofSingle (bits : UInt32) : Bytes := ofNat 4 bits.toNat

def ofPoint (p : Point) : Bytes := ofDouble p.x ++ ofDouble p.y

def ofPolygon (ps : List Point) : Bytes := ofInt 4 ps.length ++ ps.flatMap ofPoint

/-- The second at which timestamps count zero, the start of the year 2000. -/
def timestampZero : Int := 946684800

/-- Microseconds since the start of 2000, cut toward zero. -/
def microseconds (t : Instant) : Int :=
  ((t.seconds - timestampZero) * Time.Instant.nanosPerSecond + t.nanos).tdiv 1000

def ofInstant (t : Instant) : Bytes := ofInt 8 (microseconds t)

/-- A document's text, behind the number of its form where the type has one. -/
def ofJson (type : DataType) (v : Json) : Bytes :=
  if type = .jsonb then 1 :: ofText v.print else ofText v.print

/-- The number of the type of a list's items. -/
def itemType (type : DataType) : Nat := if type = .varcharArray then 1043 else 25

/-- An item of a list behind its length; null has none. -/
def ofItem : Option String → Bytes
  | some s => ofInt 4 (ofText s).length ++ ofText s
  | none => ofInt 4 (-1)

/-- A list of texts, numbered from one. -/
def ofItems (type : DataType) (items : List (Option String)) : Bytes :=
  ofInt 4 1 ++ ofInt 4 (if items.contains none then 1 else 0) ++ ofNat 4 (itemType type) ++
    ofInt 4 items.length ++ ofInt 4 1 ++ items.flatMap ofItem

/-- The bits of the number of four bytes nearest to an integer. -/
def singleOfInt (i : Int) : UInt32 :=
  UInt32.ofNat (BinaryFormat.single.nearest i.natAbs 1 + if i < 0 then 0x80000000 else 0)

/-! ## Values -/

/-- The document that a value is sent as. -/
def document : Value → Json
  | .timestamp t => .string t.toIso
  | v => Encoding.decode none v

/-- An integer of a width, if it fits. -/
def integer (width : Nat) (i : Int) : Result Bytes :=
  if -span width ≤ 2 * i ∧ 2 * i < span width then .ok (ofInt width i)
  else refuse "out of range integral type conversion attempted"

/-- A whole double as the nearest integer of a width. -/
def wholeNumber (width : Nat) (x : Double) : Result Bytes :=
  if x.isWhole then
    .ok (ofInt width (x.clamp (-(span width / 2)) (span width / 2 - 1)))
  else refuse (FloatText.sql.write x ++ " is not an integer")

def boolText (b : Bool) : String := if b then "true" else "false"

/-- Text is read for the types that do not take it as it is. -/
def textFor (type : DataType) (s : String) : Result Bytes :=
  match type with
  | .timestamptz | .timestamp =>
    match Instant.ofIso? s with
    | some t => .ok (ofInstant t)
    | none => refuse "not a date and time"
  | .float8 =>
    match Double.ofText? s with
    | some x => .ok (ofDouble x)
    | none => refuse "invalid float literal"
  | .bool =>
    if s = "true" then .ok [1]
    else if s = "false" then .ok [0]
    else refuse "provided string was not \x60true\x60 or \x60false\x60"
  | _ => .ok (ofText s)

/-- The bytes of a value for a type that is written and is no document type. -/
def bytesFor (type : DataType) : Value → Result (Option Bytes)
  | .null => .ok none
  | .bool b => .ok (some (if type = .bool then [if b then 1 else 0] else ofText (boolText b)))
  | .integer i =>
    match type with
    | .int2 => (integer 2 i).map some
    | .int4 => (integer 4 i).map some
    | .int8 => (integer 8 i).map some
    | .float4 => .ok (some (ofSingle (singleOfInt i)))
    | .float8 => .ok (some (ofDouble (Double.ofInt i)))
    | _ => .ok (some (ofText (toString i)))
  | .number x =>
    match type with
    | .float8 => .ok (some (ofDouble x))
    | .float4 => .ok (some (ofSingle x.toSingle))
    | .int2 => (wholeNumber 2 x).map some
    | .int4 => (wholeNumber 4 x).map some
    | .int8 => (wholeNumber 8 x).map some
    | _ => .ok (some (ofText (Encoding.number x).print))
  | .string s => (textFor type s).map some
  | .timestamp t =>
    match type with
    | .timestamptz | .timestamp => .ok (some (ofInstant t))
    | _ => .ok (some (ofText t.toIso))
  | .strings items =>
    if type.isTextArray then .ok (some (ofItems type (items.map some))) else .error .crash
  | .point p => .ok (some (if type = .point then ofPoint p else ofText p.text))
  | .polygon ps =>
    if type = .polygon then (integer 4 ps.length).map fun _ => some (ofPolygon ps)
    else .ok (some (ofText (Geometry.polygonText ps)))
  | .json v => .ok (some (ofText v.print))

/-- The bytes of a value for a type; lists of strings have them for lists and documents alone. -/
def encode (type : DataType) (v : Value) : Result (Option Bytes) :=
  if !type.isWritten then refuse ("no value is written for the type " ++ type.label)
  else if type.isJson && !v.isNull then .ok (some (ofJson type (document v)))
  else bytesFor type v

/-- A value for the parameter of a type. -/
def Argument.ofValue (type : DataType) (v : Value) : Result Argument :=
  (encode type v).map (⟨type, ·⟩)

/-- Text for a parameter that has to be text. -/
def Argument.ofText (type : DataType) (s : String) : Result Argument :=
  if type.isText then .ok ⟨type, some (Wire.ofText s)⟩
  else refuse ("no text is written for the type " ++ type.label)

end Docstore.Wire
