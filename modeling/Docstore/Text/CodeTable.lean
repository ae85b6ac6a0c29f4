import Docstore.Text.Hexadecimal
import Docstore.Text.Split

/-!
# Tables of characters

A table is written as a text of entries between blanks. An entry is a code point or a run
`first-last`, of which `/2` keeps every second one; behind `>` stands what the first one becomes,
and the others become what follows at the same distance.
-/

namespace Docstore.Text

/-- Every `step`-th code point from `first` to `last`, and what the first of them becomes. -/
structure CodeRun where
  first : Nat
  last : Nat
  step : Nat
  image : List Nat
deriving Repr

abbrev CodeTable := List CodeRun

namespace CodeRun

def covers (r : CodeRun) (n : Nat) : Bool :=
  decide (r.first ≤ n) && decide (n ≤ r.last) && (n - r.first) % r.step == 0

/-- What a code point of the run becomes. -/
def imageOf (r : CodeRun) (n : Nat) : List Char :=
  r.image.map fun m => Char.ofNat (m + (n - r.first))

/-- Reads one entry. -/
def ofEntry (entry : List Char) : CodeRun :=
  let number (cs : List Char) : Nat := cs.foldl (fun n c => n * 16 + (hexValue? c).getD 0) 0
  let (key, image) := (cut? '>' entry).getD (entry, [])
  let (ends, step) := (cut? '/' key).getD (key, ['1'])
  let (first, last) := (cut? '-' ends).getD (ends, ends)
  ⟨number first, number last, number step,
    if image.isEmpty then [] else (splitOn ',' image).map number⟩

end CodeRun

namespace CodeTable

def ofText (text : String) : CodeTable :=
  let entries := splitOn ' ' (text.toList.map fun c => if c = '\n' then ' ' else c)
  (entries.filter (!·.isEmpty)).map CodeRun.ofEntry

/-- Whether a character is in a table. -/
def holds (t : CodeTable) (c : Char) : Bool := t.any (·.covers c.toNat)

/-- What a character becomes, if it is in a table. -/
def image? (t : CodeTable) (c : Char) : Option (List Char) :=
  (t.find? (·.covers c.toNat)).map (·.imageOf c.toNat)

end CodeTable

end Docstore.Text
