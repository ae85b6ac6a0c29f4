import Docstore.Json.Basic

/-!
# Decimal integers
-/

namespace Docstore.Text

/-- The number written by digits alone, if there are any. -/
def natural? (cs : List Char) : Option Nat :=
  if !cs.isEmpty && cs.all Char.isDigit then
    some (cs.foldl (fun n d => n * 10 + (d.toNat - '0'.toNat)) 0)
  else none

/-- Digits with an optional sign. -/
def integer? : List Char → Option Int
  | '+' :: rest => (natural? rest).map (fun (n : Nat) => (n : Int))
  | '-' :: rest => (natural? rest).map (fun (n : Nat) => -(n : Int))
  | cs => (natural? cs).map (fun (n : Nat) => (n : Int))

/-- An integer of 64 bits. -/
def int64? (s : String) : Option Int :=
  (integer? s.toList).filter inInt64

/-- The digits of a number, with zeros in front up to a width. -/
def padded (width n : Nat) : List Char :=
  let ds := Nat.toDigits 10 n
  List.replicate (width - ds.length) '0' ++ ds

end Docstore.Text
