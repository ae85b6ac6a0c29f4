import Docstore.Number.BinaryFormat

/-!
# Doubles

A double is its 64 bits, so that every operation is a definition that can be opened: comparing,
multiplying and converting count in the units of `BinaryFormat`.
-/

namespace Docstore

structure Double where
  bits : UInt64
deriving DecidableEq, Repr, Inhabited

namespace Double

def isNegative (x : Double) : Bool := x.bits >>> 63 == 1

/-- All bits but the sign. -/
def magnitude (x : Double) : Nat := x.bits.toNat % 0x8000000000000000

def isNaN (x : Double) : Bool := BinaryFormat.double.infinity < x.magnitude

def isFinite (x : Double) : Bool := x.magnitude < BinaryFormat.double.infinity

/-- The double with the given sign and magnitude bits. -/
def ofMagnitude (negative : Bool) (bits : Nat) : Double :=
  ⟨UInt64.ofNat (bits + if negative then 0x8000000000000000 else 0)⟩

/-- The double nearest to `± num / den`. -/
def ofQuotient (negative : Bool) (num den : Nat) : Double :=
  ofMagnitude negative (BinaryFormat.double.nearest num den)

def infinity (negative : Bool) : Double := ofMagnitude negative BinaryFormat.double.infinity

/-- The NaN with no payload. -/
def nan : Double := ⟨0x7ff8000000000000⟩

def zero : Double := ⟨0⟩

instance : OfNat Double 0 := ⟨zero⟩

/-- The double nearest to an integer. -/
def ofInt (i : Int) : Double := ofQuotient (i < 0) i.natAbs 1

/--
The double nearest to `± digits · 10 ^ exponent`. Exponents out of every double's reach are settled
first, so that no power of ten is larger than the answer needs.
-/
def ofDecimal (negative : Bool) (digits : Nat) (exponent : Int) : Double :=
  if digits = 0 then ofMagnitude negative 0
  else if 400 < exponent then infinity negative
  else if exponent < -400 - (digits.log2 : Int) then ofMagnitude negative 0
  else if 0 ≤ exponent then ofQuotient negative (digits * Nat.pow 10 exponent.toNat) 1
  else ofQuotient negative digits (Nat.pow 10 exponent.natAbs)

/-- The size of a finite double in units of `2 ^ -1074`; infinity counts as the next number would. -/
def units (x : Double) : Nat := BinaryFormat.double.units x.magnitude

/-- Position on the number line, in units. Both zeros stand at the same place. -/
def position (x : Double) : Int := if x.isNegative then -(x.units : Int) else x.units

/-- Numeric equality: a NaN equals nothing, and the zeros are equal. -/
def eq (x y : Double) : Bool := !x.isNaN && !y.isNaN && x.position == y.position

def lt (x y : Double) : Bool := !x.isNaN && !y.isNaN && decide (x.position < y.position)

def le (x y : Double) : Bool := !x.isNaN && !y.isNaN && decide (x.position ≤ y.position)

/-- Whether `lo ≤ x ≤ hi`, both bounds integers. -/
def between (lo hi : Int) (x : Double) : Bool := le (ofInt lo) x && le x (ofInt hi)

def isWhole (x : Double) : Bool := x.isFinite && x.units % BinaryFormat.double.one == 0

/-- The integer part of a finite double, cut toward zero. -/
def truncate (x : Double) : Int :=
  let n := x.units / BinaryFormat.double.one
  if x.isNegative then -(n : Int) else n

/-- The integer part held inside `lo … hi`; a NaN gives zero. -/
def clamp (lo hi : Int) (x : Double) : Int :=
  if x.isNaN then 0 else max lo (min hi x.truncate)

def mul (x y : Double) : Double :=
  let negative := x.isNegative != y.isNegative
  if x.isNaN then ⟨x.bits ||| 0x0008000000000000⟩
  else if y.isNaN then ⟨y.bits ||| 0x0008000000000000⟩
  else if x.isFinite && y.isFinite then
    ofQuotient negative (x.units * y.units) (BinaryFormat.double.one * BinaryFormat.double.one)
  else if x.units == 0 || y.units == 0 then nan
  else infinity negative

/-- The bits of the nearest number of four bytes. -/
def toSingle (x : Double) : UInt32 :=
  let sign := if x.isNegative then 0x80000000 else 0
  if x.isNaN then UInt32.ofNat (sign + (x.magnitude >>> 29) % 0x80000000 ||| 0x00400000)
  else if x.isFinite then
    UInt32.ofNat (sign + BinaryFormat.single.nearest x.units BinaryFormat.double.one)
  else UInt32.ofNat (sign + BinaryFormat.single.infinity)

/-- The double equal to a number of four bytes. -/
def ofSingle (bits : UInt32) : Double :=
  let negative := bits >>> 31 == 1
  let m := bits.toNat % 0x80000000
  if BinaryFormat.single.infinity < m then
    ofMagnitude negative (BinaryFormat.double.infinity + (m - BinaryFormat.single.infinity) <<< 29 ||| 0x8000000000000)
  else if m = BinaryFormat.single.infinity then infinity negative
  else ofQuotient negative (BinaryFormat.single.units m) BinaryFormat.single.one

end Double

end Docstore
