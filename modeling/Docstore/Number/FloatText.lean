import Docstore.Number.Shortest

/-!
# Number texts

`FloatText` holds the choices of a format for doubles. `FloatText.write` follows them.
-/

namespace Docstore

/-- How a format writes doubles. -/
structure FloatText where
  /-- Which of two equally near digits is taken. -/
  tie : Tie
  /-- Powers of ten of the first digit for which no exponent is written; `none` is all of them. -/
  plain : Option (Int × Int)
  /-- What follows the digits of a whole number. -/
  whole : String

namespace FloatText

/-- In documents a float shows that it is one, and very large and small ones get an exponent. -/
def json : FloatText := ⟨.toEven, some (-5, 15), ".0"⟩

/-- In SQL literals there is never an exponent. -/
def sql : FloatText := ⟨.up, none, ""⟩

/-- Digits without an exponent. -/
def positional (t : FloatText) (digits : List Char) (exponent : Int) : String :=
  if 0 ≤ exponent then
    String.ofList (digits ++ List.replicate exponent.toNat '0') ++ t.whole
  else
    let places := exponent.natAbs
    if places < digits.length then
      String.ofList (digits.take (digits.length - places)) ++ "." ++
        String.ofList (digits.drop (digits.length - places))
    else
      "0." ++ String.ofList (List.replicate (places - digits.length) '0' ++ digits)

/-- One digit, the others behind a point, and the power of ten with its sign. -/
def scientific (digits : List Char) (power : Int) : String :=
  let mantissa := match digits with
    | [] => ""
    | [d] => String.ofList [d]
    | d :: rest => String.ofList (d :: '.' :: rest)
  mantissa ++ "e" ++ (if power < 0 then "-" else "+") ++ String.ofList (Nat.toDigits 10 power.natAbs)

/-- The text of a double's size. -/
def writeSize (t : FloatText) (x : Double) : String :=
  let d := x.shortest t.tie
  let digits := d.text
  let power := d.exponent + digits.length - 1
  match t.plain with
  | none => t.positional digits d.exponent
  | some (lo, hi) =>
    if x.units = 0 ∨ (lo ≤ power ∧ power ≤ hi) then t.positional digits d.exponent
    else scientific digits power

/-- The text of a double. Its sign is kept on zero too. -/
def write (t : FloatText) (x : Double) : String :=
  if x.isNaN then "NaN"
  else (if x.isNegative then "-" else "") ++ if x.isFinite then t.writeSize x else "inf"

end FloatText

end Docstore
