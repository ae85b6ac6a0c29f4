import Docstore.Text.Split
import Docstore.Url.Percent

/-!
# Paths

The segments of a path, with those taken out that say where to go: one point stays, two points go
back by one segment, but never out of a drive.
-/

namespace Docstore.Url.Path

open Docstore.Text (splitOn)

/-- A segment with its encoded points written plainly. -/
def withPoints : List Char → List Char
  | [] => []
  | '%' :: '2' :: 'e' :: rest | '%' :: '2' :: 'E' :: rest => '.' :: withPoints rest
  | c :: rest => c :: withPoints rest

/-- Whether a segment stays where it is. -/
def stays (segment : List Char) : Bool := withPoints segment = ['.']

/-- Whether a segment goes back. -/
def goesBack (segment : List Char) : Bool := withPoints segment = ['.', '.']

/-- Whether a segment names a drive: a letter and a mark. -/
def isDrive : List Char → Bool
  | [letter, mark] => letter.isAlpha && (mark = ':' || mark = '|')
  | _ => false

/-- Whether a segment names a drive as far as its first backslash. -/
def startsAtDrive (segment : List Char) : Bool := isDrive (segment.takeWhile (· != '\\'))

/-- The name of a drive with a colon for its mark. -/
def withColon (drive : List Char) : List Char := drive.take 1 ++ [':']

/-- The segments without the last one. No way leads back out of a drive. -/
def back (segments : List (List Char)) : List (List Char) :=
  if segments.getLast?.any startsAtDrive then segments else segments.dropLast

/-- The segments with one more. Where drives are known, one in front is marked by a colon. -/
def add (drives : Bool) (segments : List (List Char)) (segment : List Char) : List (List Char) :=
  segments ++ [if drives && segments.isEmpty && isDrive segment then withColon segment else segment]

/-- Enters a segment that a slash follows. -/
def enter (drives : Bool) (segments : List (List Char)) (segment : List Char) : List (List Char) :=
  if goesBack segment then back segments
  else if stays segment then segments
  else add drives segments segment

/-- Enters the segment at the end. One that only goes somewhere leaves an empty segment. -/
def arrive (drives : Bool) (segments : List (List Char)) (segment : List Char) : List (List Char) :=
  if goesBack segment || stays segment then enter drives segments segment ++ [[]]
  else add drives segments segment

/-- The segments that are left of a path, whose first slash is not given. -/
def resolve (drives : Bool) (cs : List Char) : List (List Char) :=
  let segments := (splitOn '/' cs).map (percentEncode isBarredInPath)
  arrive drives (segments.dropLast.foldl (enter drives) []) (segments.getLast?.getD [])

def print (segments : List (List Char)) : String := String.ofList ('/' :: ['/'].intercalate segments)

end Docstore.Url.Path
