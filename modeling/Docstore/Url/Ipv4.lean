import Docstore.Text.Hexadecimal
import Docstore.Text.Split

/-!
# Addresses of four bytes

A host whose last label is a number is such an address, or is refused. The last number fills all the
bytes that the others leave.
-/

namespace Docstore.Url.Ipv4

open Docstore.Text (hexValue? splitOn)

/-- The number that digits to a base write, where no digit writes zero. -/
def digitsTo? (base : Nat) (ds : List Char) : Option Nat :=
  ds.foldlM (fun n d => (hexValue? d).bind fun x => if x < base then some (n * base + x) else none) 0

/-- A decimal number, one to base sixteen behind `0x`, or one to base eight behind `0`. -/
def number? : List Char → Option Nat
  | [] => none
  | ['0'] => some 0
  | '0' :: 'x' :: ds | '0' :: 'X' :: ds => digitsTo? 16 ds
  | '0' :: ds => digitsTo? 8 ds
  | ds => digitsTo? 10 ds

/-- The labels of a host, without the empty one that a point at its end leaves. -/
def labels (host : List Char) : List (List Char) :=
  let ls := splitOn '.' host
  if ls.getLast? = some [] then ls.dropLast else ls

/-- Whether the last label is a number. -/
def endsInNumber (host : List Char) : Bool :=
  match (labels host).getLast? with
  | none => false
  | some l => (!l.isEmpty && l.all Char.isDigit) || (number? l).isSome

/-- The address that a host writes. -/
def parse? (host : List Char) : Option Nat := do
  let numbers ← (labels host).mapM number?
  let last ← numbers.getLast?
  let front := numbers.dropLast
  if front.length < 4 ∧ last < 1 <<< (8 * (4 - front.length)) ∧ front.all (· < 256) then
    some ((front.foldl (fun n b => n * 256 + b) 0 <<< (8 * (4 - front.length))) + last)
  else none

def print (address : Nat) : String :=
  ".".intercalate ([3, 2, 1, 0].map fun i => toString ((address >>> (8 * i)) % 256))

end Docstore.Url.Ipv4
