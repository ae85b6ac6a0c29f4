/-!
# Binary floating-point formats

A finite number of a format is a whole number of *units*, the format's least positive number.
Counting in units makes order, sums and products of such numbers arithmetic of naturals, and
rounding a quotient to the format one division.
-/

namespace Docstore

/-- Widths, in bits, of the two fields that hold a number's magnitude. -/
structure BinaryFormat where
  fraction : Nat
  exponent : Nat
deriving DecidableEq, Repr

/-- The quotient `n / d` rounded to the nearest natural, a half going to the even one. -/
def roundHalfEven (n d : Nat) : Nat :=
  let q := n / d
  let r := n % d
  if 2 * r < d then q
  else if d < 2 * r then q + 1
  else if q % 2 = 0 then q else q + 1

namespace BinaryFormat

/-- The format of four bytes. -/
def single : BinaryFormat := ⟨23, 8⟩

/-- The format of eight bytes. -/
def double : BinaryFormat := ⟨52, 11⟩

/-- There are `2 ^ scale` units in one. -/
def scale (f : BinaryFormat) : Nat := (1 <<< (f.exponent - 1)) - 2 + f.fraction

/-- One, in units. -/
def one (f : BinaryFormat) : Nat := 1 <<< f.scale

/-- The magnitude bits of infinity; those of finite numbers are below it. -/
def infinity (f : BinaryFormat) : Nat := ((1 <<< f.exponent) - 1) <<< f.fraction

/-- The number with the given magnitude bits, in units. It grows with the bits. -/
def units (f : BinaryFormat) (bits : Nat) : Nat :=
  let e := bits >>> f.fraction
  let m := bits % (1 <<< f.fraction)
  if e = 0 then m else ((1 <<< f.fraction) + m) <<< (e - 1)

/--
The magnitude bits of the number nearest to `num / den`, a half going to even bits. A carry out of
the fraction runs into the exponent, which is where the next binade begins.
-/
def nearest (f : BinaryFormat) (num den : Nat) : Nat :=
  let n := num <<< f.scale
  let k := (n / den).log2 - f.fraction
  min f.infinity ((k <<< f.fraction) + roundHalfEven n (den <<< k))

end BinaryFormat

end Docstore
