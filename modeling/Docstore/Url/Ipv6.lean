import Docstore.Text.Hexadecimal
import Docstore.Text.Split

/-!
# Addresses of eight groups

Groups are written to base sixteen. Two colons stand for the groups that are missing, all of them
zero, and an address of four bytes may stand for the last two groups.
-/

namespace Docstore.Url.Ipv6

open Docstore.Text (hexValue? splitOn)

/-- The parts before and after the first two colons that follow each other. -/
def cutGap? : List Char → Option (List Char × List Char)
  | ':' :: ':' :: rest => some ([], rest)
  | [] => none
  | c :: rest => (cutGap? rest).map fun (before, after) => (c :: before, after)

/-- A group of one to four digits. -/
def group? (ds : List Char) : Option Nat :=
  if 1 ≤ ds.length ∧ ds.length ≤ 4 then
    ds.foldlM (fun n d => (hexValue? d).map (n * 16 + ·)) 0
  else none

/-- A decimal number of one byte, without zeros in front. -/
def byte? (ds : List Char) : Option Nat :=
  if ds.isEmpty || !ds.all Char.isDigit || (1 < ds.length && ds.head? == some '0') then none
  else (some (ds.foldl (fun n d => n * 10 + (d.toNat - '0'.toNat)) 0)).filter (· < 256)

/-- The two groups that an address of four bytes stands for. -/
def pair? (cs : List Char) : Option (List Nat) := do
  match ← (splitOn '.' cs).mapM byte? with
  | [a, b, c, d] => some [a * 256 + b, c * 256 + d]
  | _ => none

/-- The groups between colons; only the last may be an address of four bytes. -/
def groups? : List (List Char) → Option (List Nat)
  | [] => some []
  | [l] => if l.contains '.' then pair? l else (group? l).map ([·])
  | l :: ls => do return (← group? l) :: (← groups? ls)

/-- The groups on one side of a gap. -/
def side? (cs : List Char) : Option (List Nat) := if cs.isEmpty then some [] else groups? (splitOn ':' cs)

/-- The eight groups that a text writes. -/
def parse? (cs : List Char) : Option (List Nat) :=
  match cutGap? cs with
  | none => (side? cs).filter (·.length = 8)
  | some (before, after) => do
    let front ← if before.contains '.' then none else side? before
    let back ← side? after
    if front.length + back.length < 8 then
      some (front ++ List.replicate (8 - front.length - back.length) 0 ++ back)
    else none

/-- How many zeros a list starts with. -/
def zeros (gs : List Nat) : Nat := (gs.takeWhile (· == 0)).length

/-- The first of the longest runs of zeros, as its start and length. -/
def longestGap : (start : Nat) → List Nat → Nat × Nat
  | _, [] => (0, 0)
  | start, g :: gs =>
    let later := longestGap (start + 1) gs
    if later.2 ≤ zeros (g :: gs) then (start, zeros (g :: gs)) else later

def printGroups (gs : List Nat) : String :=
  ":".intercalate (gs.map fun g => String.ofList (Nat.toDigits 16 g))

/-- Writes the address with its longest run of zeros left out, unless that is a single one. -/
def print (gs : List Nat) : String :=
  let gap := longestGap 0 gs
  if gap.2 < 2 then printGroups gs
  else printGroups (gs.take gap.1) ++ "::" ++ printGroups (gs.drop (gap.1 + gap.2))

end Docstore.Url.Ipv6
