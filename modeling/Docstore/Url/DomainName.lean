import Docstore.Text.CharClass
import Docstore.Text.Direction
import Docstore.Text.Joining
import Docstore.Text.NormalForm
import Docstore.Url.NameTable
import Docstore.Url.Punycode

/-!
# Domain names

A domain name is folded, so that names which mean the same are the same, and written label by label
in ASCII. Labels that people could not tell from others are refused.
-/

namespace Docstore.Url

open Docstore.Text (compose direction Direction isMark joinsNext joinsPrevious joinsThrough markClass splitOn)

/-- What a character becomes in a name, if it has a place in one. -/
def folded? (c : Char) : Option (List Char) :=
  if barred.holds c then none else some ((foldings.image? c).getD [c])

/-- Whether a name holds a character as it is. -/
def isFolded (c : Char) : Bool := folded? c = some [c]

/-- A name with all its characters folded and composed. -/
def fold? (cs : List Char) : Option (List Char) := (cs.mapM folded?).map fun parts => compose parts.flatten

def isAscii (cs : List Char) : Bool := cs.all (·.toNat < 0x80)

/-! ## Joiners -/

/-- The character that keeps letters apart. -/
def nonJoiner : Char := '\u200C'

/-- The character that joins letters. -/
def joiner : Char := '\u200D'

/-- The class of the marks that leave out a vowel, behind which both have a place. -/
def virama : Nat := 9

/-- Whether the next letter, marks passed over, is of a class. -/
def meets (isSide : Char → Bool) (cs : List Char) : Bool := (cs.dropWhile joinsThrough).head?.any isSide

/-- Whether one of the two characters has a place between what is before, held back to front, and after. -/
def mayStand (c : Char) (before after : List Char) : Bool :=
  before.head?.any (markClass · = virama) ||
    (c = nonJoiner && meets joinsNext before && meets joinsPrevious after)

/-- Whether both characters stand only where they have a place. -/
def joinersFit (before : List Char) : List Char → Bool
  | [] => true
  | c :: after =>
    ((c != nonJoiner && c != joiner) || mayStand c before after) && joinersFit (c :: before) after

/-! ## Directions -/

/-- Whether a label brings letters into a name that run to the left. -/
def runsLeft (label : List Char) : Bool :=
  label.any fun c => direction c = .right || direction c = .arabicNumber

/-- Whether a label has one direction, however it is shown. -/
def hasDirection (label : List Char) : Bool :=
  let ds := label.map direction
  let last := (ds.reverse.dropWhile (· = .mark)).head?
  match ds with
  | [] => true
  | .left :: _ =>
    !ds.contains .right && !ds.contains .arabicNumber && (last = some .left || last = some .number)
  | .right :: _ =>
    !ds.contains .left && !(ds.contains .number && ds.contains .arabicNumber) &&
      (last = some .right || last = some .number || last = some .arabicNumber)
  | _ => false

/-! ## Labels -/

/-- What the encoded labels start with. -/
def encodedMark : List Char := ['x', 'n', '-', '-']

/-- How long a label may be that holds more than ASCII, and how long an encoded one. -/
def maxLabel : Nat := 1000

def maxEncoded : Nat := 2000

/-- Whether a folded label that holds more than ASCII may stand in a name. -/
def isLabel (cs : List Char) : Bool :=
  !cs.head?.any isMark && joinersFit [] cs && decide (cs.length ≤ maxLabel)

/-- The label that an encoded one stands for. Only what had to be encoded may be. -/
def decoded? (cs : List Char) : Option (List Char) :=
  if isAscii cs && decide (cs.length ≤ maxEncoded) then
    (Punycode.decode? cs).filter fun label =>
      !isAscii label && label.all isFolded && compose label = label && isLabel label
  else none

/-- A folded label, as it is shown and as it is written. -/
def label? (cs : List Char) : Option (List Char × List Char) :=
  if encodedMark.isPrefixOf cs then (decoded? (cs.drop encodedMark.length)).map (·, cs)
  else if isAscii cs then some (cs, cs)
  else if isLabel cs then some (cs, encodedMark ++ Punycode.encode cs)
  else none

/-- A domain name in ASCII. If letters of any label run to the left, every label has to have a direction. -/
def domainName? (cs : List Char) : Option (List Char) := do
  let labels ← (splitOn '.' (← fold? cs)).mapM label?
  if labels.any (runsLeft ·.1) && !labels.all (hasDirection ·.1) then none
  else some (['.'].intercalate (labels.map Prod.snd))

end Docstore.Url
