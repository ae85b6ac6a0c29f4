import Docstore.Json.Parser
import Docstore.Wire.Parameter

/-!
# Cells

What a row holds in a column, read by the column's type. Bytes that are not of their type's form are
refused, and so is every value of a type that is not known, null among them.
-/

namespace Docstore.Wire

open Docstore.Time (Instant)

structure Column where
  name : String
  type : DataType
deriving DecidableEq, Repr

/-- The columns of a row and their cells; null has no bytes. -/
structure Row where
  columns : List Column
  cells : List (Option Bytes)
deriving DecidableEq, Repr

/-! ## Binary forms -/

def int? (width : Nat) (bs : Bytes) : Option Int := (exactly? width bs).map toInt

def double? (bs : Bytes) : Option Double :=
  (exactly? 8 bs).map fun bs => ⟨UInt64.ofNat (toNat bs)⟩

/-- A number of four bytes as the double that equals it. -/
def single? (bs : Bytes) : Option Double :=
  (exactly? 4 bs).map fun bs => Double.ofSingle (UInt32.ofNat (toNat bs))

def bool? (bs : Bytes) : Option Bool := (exactly? 1 bs).map fun bs => toNat bs != 0

def instant? (bs : Bytes) : Option Instant :=
  ((int? 8 bs).map fun i =>
    (⟨timestampZero + i / 1000000, (i % 1000000).toNat * 1000⟩ : Instant)).filter Instant.isInRange

def json? (type : DataType) (bs : Bytes) : Option Json :=
  match type, bs with
  | .jsonb, 1 :: rest => (text? rest).bind Json.parse?
  | .jsonb, _ => none
  | _, bs => (text? bs).bind Json.parse?

/-- A point, and the bytes behind it. -/
def takePoint? (bs : Bytes) : Option (Point × Bytes) := do
  let (x, rest) ← take? 8 bs
  let (y, rest) ← take? 8 rest
  return (⟨⟨UInt64.ofNat (toNat x)⟩, ⟨UInt64.ofNat (toNat y)⟩⟩, rest)

/-- That many points from the front; further bytes are left alone. -/
def takePoints? : Nat → Bytes → Option (List Point)
  | 0, _ => some []
  | n + 1, bs => do
    let (p, rest) ← takePoint? bs
    let ps ← takePoints? n rest
    return p :: ps

def polygon? (bs : Bytes) : Option (List Point) := do
  let (count, rest) ← take? 4 bs
  if toInt count < 0 then none else takePoints? (toInt count).toNat rest

/-- An item of a list, none for null, and the bytes behind it. -/
def takeItem? (bs : Bytes) : Option (Option String × Bytes) := do
  let (length, rest) ← take? 4 bs
  if toInt length < 0 then some (none, rest)
  else
    let (item, rest) ← take? (toInt length).toNat rest
    (text? item).map fun s => (some s, rest)

/-- That many items and nothing behind them. -/
def takeItems? : Nat → Bytes → Option (List (Option String))
  | 0, bs => if bs.isEmpty then some [] else none
  | n + 1, bs => do
    let (item, rest) ← takeItem? bs
    let items ← takeItems? n rest
    return item :: items

/-- A list of texts. A list without dimensions is empty, and one with several is refused. -/
def items? (bs : Bytes) : Option (List (Option String)) := do
  let (dimensions, rest) ← take? 4 bs
  let (_, rest) ← take? 8 rest
  if toInt dimensions = 0 then takeItems? 0 rest
  else if toInt dimensions = 1 then
    let (length, rest) ← take? 4 rest
    let (_, rest) ← take? 4 rest
    if toInt length < 0 then none else takeItems? (toInt length).toNat rest
  else none

/-! ## Values -/

/-- The value of bytes of a type, none if their form is wrong. -/
def valueOf? (type : DataType) (bs : Bytes) : Option Value :=
  match type with
  | .text | .varchar | .bpchar | .name => (text? bs).map .string
  | .bool => (bool? bs).map .bool
  | .int2 => (int? 2 bs).map .integer
  | .int4 => (int? 4 bs).map .integer
  | .int8 => (int? 8 bs).map .integer
  | .float4 => (single? bs).map .number
  | .float8 => (double? bs).map .number
  | .timestamptz | .timestamp => (instant? bs).map .timestamp
  | .json => (json? .json bs).map .json
  | .jsonb => (json? .jsonb bs).map .json
  | .textArray | .varcharArray => (items? bs).map fun items => .strings (items.filterMap id)
  | .point => (takePoint? bs).map fun (p, _) => .point p
  | .polygon => (polygon? bs).map .polygon
  | .unknown | .other _ => none

/-- Whether columns of the type are read. -/
def DataType.isRead : DataType → Bool
  | unknown | other _ => false
  | _ => true

/-- What cannot be read for its form. -/
def malformed {α : Type} (c : Column) : Result α := refuse ("error deserializing column " ++ c.name)

/-- The value of a cell. -/
def decode (c : Column) (cell : Option Bytes) : Result Value :=
  if !c.type.isRead then
    fail (.internalServerError
      ("unsupported column type \x60" ++ c.type.label ++ "\x60 for column \x60" ++ c.name ++ "\x60"))
  else match cell with
    | none => .ok .null
    | some bs =>
      match valueOf? c.type bs with
      | some v => .ok v
      | none => malformed c

namespace Row

/-- The columns with their cells. -/
def entries (r : Row) : List (Column × Option Bytes) :=
  r.columns.zipIdx.map fun (c, i) => (c, (r.cells[i]?).join)

/-- The names and values of a row, from left to right. -/
def values (r : Row) : Result (List (String × Value)) :=
  r.entries.mapM fun (c, cell) => (decode c cell).map (c.name, ·)

/-! ## Cells that have to be of a type -/

/-- A cell of a place as `read` understands it, none for null. -/
def read? {α : Type} (r : Row) (place : Nat) (expects : DataType → Bool)
    (read : DataType → Bytes → Option α) : Result (Option α) :=
  match r.entries[place]? with
  | none => refuse "invalid column"
  | some (c, cell) =>
    if !expects c.type then malformed c
    else match cell with
      | none => .ok none
      | some bs =>
        match read c.type bs with
        | some a => .ok (some a)
        | none => malformed c

/-- The same, where null is refused too. -/
def read {α : Type} (r : Row) (place : Nat) (expects : DataType → Bool)
    (reader : DataType → Bytes → Option α) : Result α := do
  match ← r.read? place expects reader with
  | some a => return a
  | none => refuse "unexpected null"

def text (r : Row) (place : Nat) : Result String :=
  r.read place DataType.isText fun _ => text?

def bool (r : Row) (place : Nat) : Result Bool :=
  r.read place (· = .bool) fun _ => bool?

def int8 (r : Row) (place : Nat) : Result Int :=
  r.read place (· = .int8) fun _ => int? 8

/-- A number of four bytes, none for null. -/
def float4? (r : Row) (place : Nat) : Result (Option Double) :=
  r.read? place (· = .float4) fun _ => single?

def json? (r : Row) (place : Nat) : Result (Option Json) :=
  r.read? place DataType.isJson Wire.json?

def json (r : Row) (place : Nat) : Result Json :=
  r.read place DataType.isJson Wire.json?

end Row

end Docstore.Wire
