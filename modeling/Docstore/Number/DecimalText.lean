import Docstore.Number.Double

/-!
# Doubles read from text

A sign, digits around a point, and a power of ten; either side of the point may be empty, but not
both. Infinity and NaN are written as words, in any case.
-/

namespace Docstore.Double

/-- The number that digits write. -/
def digitsNumber (ds : List Char) : Nat := ds.foldl (fun n d => n * 10 + (d.toNat - '0'.toNat)) 0

/-- The sign in front of a text, and what follows it. -/
def splitSign : List Char → Bool × List Char
  | '-' :: rest => (true, rest)
  | '+' :: rest => (false, rest)
  | cs => (false, cs)

/-- The doubles that have words. -/
def word? (negative : Bool) (cs : List Char) : Option Double :=
  let word := String.ofList (cs.map Char.toLower)
  if word = "inf" || word = "infinity" then some (infinity negative)
  else if word = "nan" then some (ofMagnitude negative nan.magnitude)
  else none

/-- The power of ten at the end of a number; none is the power zero. -/
def powerOfTen? : List Char → Option Int
  | [] => some 0
  | c :: rest =>
    let (negative, digits) := splitSign rest
    if (c = 'e' || c = 'E') && !digits.isEmpty && digits.all Char.isDigit then
      some (if negative then -(digitsNumber digits : Int) else digitsNumber digits)
    else none

/-- The double nearest to the number that digits write. -/
def decimal? (negative : Bool) (cs : List Char) : Option Double :=
  let whole := cs.takeWhile Char.isDigit
  let rest := cs.dropWhile Char.isDigit
  let (places, rest) := match rest with
    | '.' :: rest => (rest.takeWhile Char.isDigit, rest.dropWhile Char.isDigit)
    | rest => ([], rest)
  if whole.isEmpty && places.isEmpty then none
  else (powerOfTen? rest).map fun power =>
    ofDecimal negative (digitsNumber (whole ++ places)) (power - places.length)

def ofText? (s : String) : Option Double :=
  let (negative, cs) := splitSign s.toList
  match decimal? negative cs with
  | some x => some x
  | none => word? negative cs

end Docstore.Double
