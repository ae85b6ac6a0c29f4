import Docstore.Number.Double

/-!
# Shortest decimals

`Double.shortest` finds the fewest digits that read back as the same double and, among those, the
nearest. The reals that read back as a double reach half way to its neighbours, the ends included
when its bits are even. For each number of digits only the two grid points beside the value need a
look: if any point of the grid lies in that interval, so does one of these two.
-/

namespace Docstore

/-- The number `digits · 10 ^ exponent`. -/
structure Decimal where
  digits : Nat
  exponent : Int
deriving DecidableEq, Repr

/-- Which of two equally near digits is taken. -/
inductive Tie
  | toEven
  | up
deriving DecidableEq, Repr

namespace Decimal

/-- The same number without zeros at the end of its digits, at most `fuel` of which are removed. -/
def trim : Nat → Decimal → Decimal
  | 0, d => d
  | fuel + 1, d =>
    if d.digits ≠ 0 ∧ d.digits % 10 = 0 then trim fuel ⟨d.digits / 10, d.exponent + 1⟩ else d

/-- The digits as text. -/
def text (d : Decimal) : List Char := Nat.toDigits 10 d.digits

end Decimal

/-- The least `e` with `num / den < 10 ^ e`, for `num / den` that is no power of ten below one. -/
def decimalExponent (num den : Nat) : Int :=
  if den ≤ num then (Nat.toDigits 10 (num / den)).length
  else 1 - ((Nat.toDigits 10 (den / num)).length : Int)

namespace Double

/-- What of `± c · 10 ^ k` is tested: whether it reads back as the double with magnitude `bits`. -/
def readsBack (bits : Nat) (k : Int) (c : Nat) : Bool :=
  let f := BinaryFormat.double
  let step := Nat.pow 10 k.toNat * (2 * f.one)
  let shrink := Nat.pow 10 (-k).toNat
  let low := (f.units (bits - 1) + f.units bits) * shrink
  let high := (f.units bits + f.units (bits + 1)) * shrink
  if bits % 2 = 0 then low ≤ c * step && c * step ≤ high else low < c * step && c * step < high

/-- The point nearest to the double on the grid of the multiples of `10 ^ k`, if it reads back. -/
def onGrid? (tie : Tie) (bits : Nat) (k : Int) : Option Decimal :=
  let f := BinaryFormat.double
  let step := Nat.pow 10 k.toNat * (2 * f.one)
  let value := 2 * f.units bits * Nat.pow 10 (-k).toNat
  let c := value / step
  let r := value % step
  let upper := step < 2 * r || (2 * r == step && (tie == .up || c % 2 == 1))
  match readsBack bits k c, readsBack bits k (c + 1) with
  | false, false => none
  | true, false => some ⟨c, k⟩
  | false, true => some ⟨c + 1, k⟩
  | true, true => some ⟨if upper then c + 1 else c, k⟩

/-- The shortest decimal of a finite double's size. Seventeen digits always suffice. -/
def shortest (tie : Tie) (x : Double) : Decimal :=
  if x.units = 0 then ⟨0, 0⟩
  else
    let e := decimalExponent x.units BinaryFormat.double.one
    match (List.range 17).findSome? fun (n : Nat) => onGrid? tie x.magnitude (e - 1 - n) with
    | some d => d.trim 20
    | none => ⟨0, 0⟩

end Double

end Docstore
